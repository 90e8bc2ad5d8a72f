import Socks5Proxy.Socks.Dialling
import Socks5Proxy.Socks.FailureReports
import Socks5Proxy.Socks.Refusals
import Socks5Proxy.Socks.RequestSegmentation

/-!
# A connection that is established at once

`connect` may return zero before the attempt is pending.  `try_connection` says
so with the number that is also the reply code of an unreachable network, and
its callers read it as that code.
-/

namespace Socks5Proxy

open Library

/-- The connection has succeeded: the reply says so, the origin's descriptor is
registered, and the write event that sends the reply leads to COPY. -/
structure ConnectSucceeds (t : Session) : Prop where
  state : t.state = .reply
  rep : t.conn.reply.rep = succeded
  registered : t.sel.dataOf t.conn.originFd = some t.address
  copies : ∃ env u, step t (.write t.conn.clientFd env) = .ok u ∧ u.state = .copy

/-- The `connect` calls of an event. -/
def newConnects (s t : Session) : List Action :=
  (connectsIn t.log).drop (connectsIn s.log).length

/-- What is known of the calls a callback made: if one of them connected at
once, the callback reports an unreachable network. -/
def MistakesSuccess (s : Session) (r : Session × SocksV5State) : Prop :=
  ∃ calls, connectsIn r.1.log = connectsIn s.log ++ calls ∧
    ∀ fd addr, Action.connect fd addr .success ∈ calls →
      r.2 = .reply ∧ r.1.conn.reply.rep = networkUnreachable

section Calls

variable {env : Env} {key : SelectorKey} {s t u : Session} {r : Session × SocksV5State}

theorem Mute.connectsIn (h : Mute s t) : connectsIn t.log = connectsIn s.log := by
  obtain ⟨log, hlog, hplain⟩ := h.calls
  have hnone : Socks5Proxy.connectsIn log = [] := by
    rw [Socks5Proxy.connectsIn, List.filter_eq_nil_iff]
    intro action haction
    have hquiet := hplain action haction
    rcases action <;> first | exact hquiet.elim | exact Bool.false_ne_true
  rw [hlog, connectsIn_append, hnone, List.append_nil]

theorem MistakesSuccess.of_mute (h : Mute s r.1) : MistakesSuccess s r := by
  refine ⟨[], ?_, ?_⟩
  · rw [h.connectsIn, List.append_nil]
  · intro fd addr hmem
    cases hmem

theorem MistakesSuccess.after (hcalls : connectsIn t.log = connectsIn s.log)
    (h : MistakesSuccess t r) : MistakesSuccess s r := by
  obtain ⟨calls, hlog, hmistakes⟩ := h
  exact ⟨calls, by rw [hlog, hcalls], hmistakes⟩

/-- The round of a call. -/
theorem mem_connectCalls {round : ℕ} {addresses : List SockAddr} {action : Action}
    (h : action ∈ connectCalls env round addresses) :
    ∃ i < addresses.length, ∃ ai, action ∈ (env.attempts (round + i)).call ai := by
  induction addresses generalizing round with
  | nil => cases h
  | cons ai aiNext ih =>
      rcases List.mem_append.mp h with hmem | hmem
      · exact ⟨0, Nat.succ_pos _, ai, hmem⟩
      · obtain ⟨i, hi, ai', hcall⟩ := ih hmem
        refine ⟨i + 1, Nat.succ_lt_succ hi, ai', ?_⟩
        rw [Nat.add_comm i 1, ← Nat.add_assoc]
        exact hcall

theorem Attempt.Fails.no_success {a : Attempt} (h : a.Fails) {fd : ℤ} {ai addr : SockAddr} :
    Action.connect fd addr .success ∉ a.call ai := by
  intro hmem
  unfold Attempt.call at hmem
  split_ifs at hmem with hgone
  · cases hmem
  · have hcall := List.mem_singleton.mp hmem
    rcases h with hnone | hblocking | ⟨errno, herror, -⟩
    · exact hgone (.inl hnone)
    · exact hgone (.inr hblocking)
    · rw [herror] at hcall
      cases hcall

/-- If one of the calls connected at once, it is the last one. -/
theorem TriedUpTo.done {addresses : List SockAddr} {ret : UInt8} {k : ℕ} {fd : ℤ}
    {addr : SockAddr} (h : TriedUpTo env 0 addresses s t ret k)
    (hmem : Action.connect fd addr .success ∈ connectCalls env 0 (addresses.take (k + 1))) :
    ret = connectionDone := by
  obtain ⟨i, hi, ai, hcall⟩ := mem_connectCalls hmem
  have hlast : i = k := by
    rw [List.length_take] at hi
    by_contra hne
    exact (h.failed i (by omega)).no_success hcall
  subst hlast
  have hsuccess : (env.attempts (0 + i)).connect = .success := by
    unfold Attempt.call at hcall
    split_ifs at hcall
    · cases hcall
    · have haction := List.mem_singleton.mp hcall
      injection haction with _ _ hresult
      exact hresult.symm
  have hcode := h.code
  rw [Attempt.Yields, hsuccess] at hcode
  exact hcode

theorem tryConnection_mistakes {ret : UInt8} (h : tryConnection env key s = .ok (t, ret)) :
    ∃ calls, connectsIn t.log = connectsIn s.log ++ calls ∧
      ∀ fd addr, Action.connect fd addr .success ∈ calls → ret = connectionDone := by
  obtain ⟨k, hk⟩ := tryAddresses_walks rfl h
  exact ⟨_, hk.calls, fun fd addr hmem => hk.done hmem⟩

theorem connectsIn_connectToDestResult (ret : UInt8) :
    connectsIn (connectToDestResult s ret).1.log = connectsIn s.log := by
  unfold connectToDestResult
  split_ifs <;> rfl

theorem connectToDest_mistakes (h : connectToDest env key s = .ok r) : MistakesSuccess s r := by
  unfold connectToDest at h
  split at h
  · rw [← Except.ok.inj h]
    exact .of_mute ((Mute.refl s).replyWith _)
  · rcases htry : tryConnection env key s with fault | ⟨t, ret⟩
    · rw [htry] at h
      cases h
    · rw [htry] at h
      rw [← Except.ok.inj h]
      obtain ⟨calls, hcalls, hdone⟩ := tryConnection_mistakes htry
      refine ⟨calls, (connectsIn_connectToDestResult ret).trans hcalls, ?_⟩
      intro fd addr hmem
      rw [hdone fd addr hmem]
      exact ⟨rfl, rfl⟩

theorem requestRead_mistakes (h : requestRead env key s = .ok r) : MistakesSuccess s r := by
  rcases requestRead_relays env key s with ⟨-, u, hu, -, hresult⟩ | ⟨-, r', hr', hmute⟩
  · rw [hresult] at h
    exact (connectToDest_mistakes h).after hu.connectsIn
  · rw [hr'] at h
    rw [← Except.ok.inj h]
    exact .of_mute hmute

theorem connectsIn_connectWriteResult {ret : UInt8} (h : connectWriteResult s ret = .ok r) :
    connectsIn r.1.log = connectsIn s.log := by
  rcases connectWriteResult_cases h with ⟨rep, -, rfl⟩ | ⟨-, rfl⟩ | ⟨-, rfl⟩
  · rfl
  · rfl
  · rfl

theorem connectsIn_dropOrigin (s : Session) :
    connectsIn (dropOrigin s).log = connectsIn s.log := connectsIn_close _ _

theorem connectWrite_mistakes (h : connectWrite env key s = .ok r) : MistakesSuccess s r := by
  unfold connectWrite at h
  generalize sockError env s.conn.originFd = answer at h
  rcases answer with _ | v
  · rw [← Except.ok.inj h]
    exact .of_mute ((Mute.refl s).replyWith _)
  · dsimp only at h
    by_cases hv : v ≠ 0
    · rw [if_pos hv] at h
      refine MistakesSuccess.after (connectsIn_dropOrigin s) ?_
      split at h
      · cases h
      · rw [← Except.ok.inj h]
        exact .of_mute ((Mute.refl _).replyWith _)
      · rcases htry : tryConnection env key (getNextResolution (dropOrigin s)) with
          fault | ⟨t, ret⟩
        · rw [htry] at h
          cases h
        · rw [htry] at h
          dsimp only at h
          obtain ⟨calls, hcalls, hdone⟩ := tryConnection_mistakes htry
          refine ⟨calls, (connectsIn_connectWriteResult h).trans hcalls, ?_⟩
          intro fd addr hmem
          rw [hdone fd addr hmem] at h
          rw [← Except.ok.inj h]
          exact ⟨rfl, rfl⟩
    · rw [if_neg hv] at h
      rcases hlog : printConnectionAccessLog s with fault | u
      · rw [hlog] at h
        cases h
      · rw [hlog] at h
        rw [← Except.ok.inj h, printConnectionAccessLog_eq hlog]
        exact .of_mute (.of_same rfl rfl)

end Calls

/-! ## One event -/

section Step

variable {env : Env} {key : SelectorKey} {s t u : Session} {r : Session × SocksV5State}
  {st : SocksV5State} {e : Event}

/-- Teardown and the arrivals dial nobody. -/
theorem connectsIn_settle : connectsIn (settle env key st r).log = connectsIn r.1.log := by
  obtain ⟨u, next⟩ := r
  by_cases hstop : next = .error ∨ next = .done
  · rw [settle_stop hstop]
    obtain ⟨log, hlog, hteardown⟩ := teardown_log_eq env key { u with conn.stm := some next }
    have hnone : connectsIn log = [] := by
      rw [connectsIn, List.filter_eq_nil_iff]
      intro action haction
      rcases hteardown action haction with rfl | ⟨fd, rfl⟩ <;> exact Bool.false_ne_true
    rw [hlog, connectsIn_append, hnone, List.append_nil]
  · obtain ⟨herror, hdone⟩ := not_or.mp hstop
    by_cases hst : st = next
    · rw [hst, settle_stay herror hdone]
    · rw [settle_move hst herror hdone]
      exact (Mute.wire arrival_wire).connectsIn

/-- The arrival in REPLY keeps the code. -/
theorem rep_settle (hreply : r.2 = .reply) :
    (settle env key st r).conn.reply.rep = r.1.conn.reply.rep := by
  obtain ⟨u, next⟩ := r
  have hreply : next = .reply := hreply
  subst hreply
  by_cases hst : st = .reply
  · rw [hst, settle_stay (by decide) (by decide)]
  · rw [settle_move hst (by decide) (by decide)]
    obtain ⟨b, found, harrival⟩ := replyArrival_eq env u
    have harrive : callIfSome (socks5States env key .reply).onArrival u = replyArrival env u := rfl
    rw [harrive, harrival]

/-- The session after an event whose calls are those of one callback. -/
theorem MistakesSuccess.settled (h : MistakesSuccess s r) {fd : ℤ} {addr : SockAddr}
    (hmem : Action.connect fd addr .success ∈ newConnects s (settle env key st r)) :
    (settle env key st r).state = .reply ∧
      (settle env key st r).conn.reply.rep = networkUnreachable := by
  obtain ⟨calls, hcalls, hmistakes⟩ := h
  rw [newConnects, connectsIn_settle, hcalls, List.drop_left] at hmem
  obtain ⟨hreply, hrep⟩ := hmistakes fd addr hmem
  refine ⟨?_, (rep_settle hreply).trans hrep⟩
  rw [Session.state, settle_stm, hreply]
  rfl

theorem onReadReady_mistakes {callback : Session → Except Fault (Session × SocksV5State)}
    (hselect : (socks5States env key st).onReadReady = some callback)
    (hcall : callback s = .ok r) : MistakesSuccess s r := by
  by_cases hst : st = .request
  · subst hst
    cases hselect
    exact requestRead_mistakes hcall
  · exact .of_mute (onReadReady_mute hst hselect hcall)

theorem onWriteReady_mistakes {callback : Session → Except Fault (Session × SocksV5State)}
    (hselect : (socks5States env key st).onWriteReady = some callback)
    (hcall : callback s = .ok r) : MistakesSuccess s r := by
  by_cases hst : st = .connect
  · subst hst
    cases hselect
    exact connectWrite_mistakes hcall
  · exact .of_mute (onWriteReady_mute hst hselect hcall)

/-- Whoever calls `try_connection`, an immediate success ends in REPLY with the
code of an unreachable network. -/
theorem step_mistakes {fd : ℤ} {addr : SockAddr} (hstep : step s e = .ok t)
    (hmem : Action.connect fd addr .success ∈ newConnects s t) :
    t.state = .reply ∧ t.conn.reply.rep = networkUnreachable := by
  have hnone : ∀ {u : Session}, connectsIn u.log = connectsIn s.log → newConnects s u = [] := by
    intro u hu
    rw [newConnects, hu, List.drop_length]
  rcases e with ⟨fd', env⟩ | ⟨fd', env⟩ | ⟨fd', env⟩ | result | errno
  · obtain ⟨-, callback, r, hselect, hcall, rfl⟩ := step_read_ok hstep
    exact ((onReadReady_mistakes hselect hcall).after (arrived_mute s).connectsIn).settled hmem
  · obtain ⟨-, callback, r, hselect, hcall, rfl⟩ := step_write_ok hstep
    exact ((onWriteReady_mistakes hselect hcall).after (arrived_mute s).connectsIn).settled hmem
  · obtain ⟨-, callback, r, u, hselect, hcall, rfl, rfl⟩ := step_block_ok hstep
    have hrequest : callback = requestBlock env ⟨fd', s.address⟩ := by
      generalize s.state = st at hselect
      rcases st <;> cases hselect
      rfl
    rw [hrequest] at hcall
    exact ((connectToDest_mistakes hcall).after (arrived_mute s).connectsIn).settled hmem
  · obtain ⟨-, rfl⟩ := step_resolved_ok_iff.mp hstep
    rw [hnone (u := resolveFqdnBlocking result s) rfl] at hmem
    cases hmem
  · obtain ⟨-, rfl⟩ := step_connectFinished_ok_iff.mp hstep
    have hact : connectsIn (s.act (.connectFinished s.conn.originFd errno)).log =
        connectsIn s.log := by
      rw [Session.act, connectsIn_append]
      exact List.append_nil _
    rw [hnone hact] at hmem
    cases hmem

/-- A reply with another code does not lead to COPY. -/
theorem not_copy_of_rep {fd : ℤ} (hstate : s.state = .reply) (hrep : s.conn.reply.rep ≠ succeded)
    (hstep : step s (.write fd env) = .ok t) : t.state ≠ .copy := by
  have hstm := stm_of_state hstate (by decide)
  obtain ⟨-, callback, r, hselect, hcall, rfl⟩ := step_write_ok hstep
  rw [hstate] at hselect
  cases hselect
  rw [(arrived_of_some hstm).2] at hcall
  rw [← Except.ok.inj hcall, Session.state, settle_stm]
  change (replyWrite env s).2 ≠ .copy
  rcases hfound : s.conn.reply.foundBndInfo with _ | _
  · rw [replyWrite, if_pos hfound]
    simp
  · obtain ⟨b, action, -, -, hwrite⟩ := replyWrite_eq env s hfound
    rw [hwrite]
    dsimp only
    split_ifs
    · simp
    · simp

end Step

/-- A `connect` that returns zero at once, on whatever address of whatever
request, is never followed by a success. -/
theorem immediateConnect_fails {s t : Session} {e : Event} {fd : ℤ} {addr : SockAddr}
    (hstep : step s e = .ok t) (hconnect : Action.connect fd addr .success ∈ newConnects s t) :
    t.state = .reply ∧ t.conn.reply.rep = networkUnreachable ∧ ¬ ConnectSucceeds t ∧
      ∀ fd' env u, step t (.write fd' env) = .ok u → u.state ≠ .copy := by
  obtain ⟨hreply, hrep⟩ := step_mistakes hstep hconnect
  have hne : t.conn.reply.rep ≠ succeded := by
    rw [hrep]
    decide
  exact ⟨hreply, hrep, fun h => hne h.rep,
    fun fd' env u hwrite => not_copy_of_rep hreply hne hwrite⟩

/-- The origin at 127.0.0.1 is connected before `connect` returns. -/
theorem immediateConnect_fails_loopback :
    ∃ s t, step s (.read 4 (segment loopback.request)) = .ok t ∧
      t.state = .reply ∧ t.conn.reply.rep = networkUnreachable ∧ ¬ ConnectSucceeds t ∧
      ∀ fd' env u, step t (.write fd' env) = .ok u → u.state ≠ .copy := by
  have hstep : step (firstSessionAfter greetingExchange) (.read 4 (segment loopback.request)) =
      .ok (firstSessionAfter (greetingExchange ++ [.read 4 (segment loopback.request)])) :=
    step_firstSession (by decide +kernel)
  have hconnect : Action.connect 5 ⟨.inet, [127, 0, 0, 1], 80⟩ .success ∈
      newConnects (firstSessionAfter greetingExchange)
        (firstSessionAfter (greetingExchange ++ [.read 4 (segment loopback.request)])) := by
    decide +kernel
  exact ⟨_, _, hstep, immediateConnect_fails hstep hconnect⟩

/-- The origin answers, and CONNECT is woken by its descriptor. -/
def answered : Event :=
  .write 5 { (default : Env) with getsockopt := some 0, getsockname := some ownAddress }

/-- The same success is reported as a failure if it comes at once, with no
registration, and as a success if it comes later. -/
theorem immediateConnect_differs :
    (∃ s t, run step firstSession greetingExchange = .ok s ∧
      Enabled s (.read 4 (segment loopback.request)) ∧
      step s (.read 4 (segment loopback.request)) = .ok t ∧
      Action.connect 5 ⟨.inet, [127, 0, 0, 1], 80⟩ .success ∈ newConnects s t ∧
      t.sel.dataOf t.conn.originFd = none ∧ ¬ ConnectSucceeds t) ∧
    ∃ t, run step firstSession (askForName ++ [resolved] ++ [notified]) = .ok connectingOnce ∧
      step connectingOnce answered = .ok t ∧ ConnectSucceeds t := by
  constructor
  · refine ⟨_, _, run_firstSession (by decide +kernel), by decide +kernel,
      step_firstSession (by decide +kernel), by decide +kernel, by decide +kernel, ?_⟩
    intro hsucceeds
    exact absurd hsucceeds.rep (by decide +kernel)
  · refine ⟨_, run_firstSession (by decide +kernel), step_firstSession (by decide +kernel), ?_⟩
    refine ⟨by decide +kernel, by decide +kernel, by decide +kernel, sends 10, _,
      step_firstSession (e := .write _ (sends 10)) (by decide +kernel), ?_⟩
    decide +kernel

end Socks5Proxy

import Socks5Proxy.Socks.Resolutions

/-!
# A connection is torn down once

Teardown is entered from every callback and from `selector_destroy`, and enters
itself through `handle_close`.  The flag `closed` lets one of these calls
through; that call finds the client's descriptor and the current origin's still
open, and leaves none that carries the record.
-/

namespace Socks5Proxy

open Library

/-! ## Before and after -/

/-- The socket in `origin_fd` has not been closed since its `connect`. -/
def OriginOpen (s : Session) : Prop :=
  ∃ before ai result after, s.log = before ++ .connect s.conn.originFd ai result :: after ∧
    Action.close s.conn.originFd ∉ after

/-- Nothing of the connection has been given back yet. -/
structure Unclosed (s : Session) : Prop where
  free : Action.free ∉ s.log
  client : Action.close s.conn.clientFd ∉ s.log
  origin : s.conn.originFd ≠ -1 → OriginOpen s

/-- A connection in use. -/
structure Alive (s : Session) : Prop where
  unclosed : Unclosed s
  wired : Wired s
  isOpen : s.conn.closed = false

/-- The record has been freed once, both descriptors have been closed once, and
no descriptor carries the record. -/
structure TornDown (s : Session) : Prop extends Released s where
  freedOnce : s.log.count .free = 1
  clientClosedOnce : s.log.count (.close s.conn.clientFd) = 1
  originClosedOnce : s.conn.originFd ≠ -1 →
    ∃ before ai result after, s.log = before ++ .connect s.conn.originFd ai result :: after ∧
      after.count (.close s.conn.originFd) = 1

section Calls

variable {s t u : Session} {env : Env} {key : SelectorKey} {log : List Action}

/-- Calls that free nothing and close neither descriptor. -/
theorem Unclosed.append (h : Unclosed s) (hlog : t.log = s.log ++ log)
    (hclient : t.conn.clientFd = s.conn.clientFd) (horigin : t.conn.originFd = s.conn.originFd)
    (hcalls : ∀ action ∈ log, action ≠ .free ∧ action ≠ .close s.conn.clientFd ∧
      action ≠ .close s.conn.originFd) : Unclosed t where
  free := by
    rw [hlog, List.mem_append]
    rintro (hold | hnew)
    · exact h.free hold
    · exact (hcalls _ hnew).1 rfl
  client := by
    rw [hlog, hclient, List.mem_append]
    rintro (hold | hnew)
    · exact h.client hold
    · exact (hcalls _ hnew).2.1 rfl
  origin := by
    intro hne
    rw [horigin] at hne
    obtain ⟨before, ai, result, after, hlog', hafter⟩ := h.origin hne
    rw [OriginOpen, horigin]
    refine ⟨before, ai, result, after ++ log, by rw [hlog, hlog']; simp, ?_⟩
    rw [List.mem_append]
    rintro (hold | hnew)
    · exact hafter hold
    · exact (hcalls _ hnew).2.2 rfl

theorem Action.Plain.ne {action : Action} (h : action.Plain) (fd fd' : ℤ) :
    action ≠ .free ∧ action ≠ .close fd ∧ action ≠ .close fd' := by
  refine ⟨?_, ?_, ?_⟩ <;> (intro heq; rw [heq] at h; exact h)

theorem Unclosed.plain (h : Unclosed s) (hclient : t.conn.clientFd = s.conn.clientFd)
    (horigin : t.conn.originFd = s.conn.originFd)
    (hcalls : ∃ log, t.log = s.log ++ log ∧ ∀ action ∈ log, action.Plain) : Unclosed t := by
  obtain ⟨log, hlog, hplain⟩ := hcalls
  exact h.append hlog hclient horigin fun action haction => (hplain action haction).ne _ _

theorem Unclosed.wire (h : Unclosed s) (hframe : Frame s t) (hwire : WireFrame s t) :
    Unclosed t :=
  h.plain hframe.clientFd hwire.originFd hwire.calls

theorem Unclosed.decode (h : Unclosed s) (hframe : DecodeFrame s t) : Unclosed t :=
  h.plain hframe.clientFd hframe.originFd hframe.calls

theorem Unclosed.congr (h : Unclosed s) (hlog : t.log = s.log)
    (hclient : t.conn.clientFd = s.conn.clientFd) (horigin : t.conn.originFd = s.conn.originFd) :
    Unclosed t :=
  h.plain hclient horigin ⟨[], by rw [hlog, List.append_nil], nofun⟩

theorem Unclosed.replyWith {rep : UInt8} (h : Unclosed s) : Unclosed (replyWith rep s).1 :=
  h.congr rfl rfl rfl

/-- The attempts close their own sockets, and leave the last one open. -/
theorem Unclosed.attempted {ret : UInt8} (h : Unclosed s) (hattempted : Attempted env key s t ret)
    (hfresh : FreshSockets s env) : Unclosed t := by
  obtain ⟨log, ai, result, hlog, hcalls, -⟩ := hattempted.calls
  have hsocket : ∀ round, (env.attempts round).socket ≠ -1 →
      (env.attempts round).socket ≠ s.conn.clientFd :=
    fun round hopen => ((hfresh round).resolve_left hopen).2.2
  refine ⟨?_, ?_, fun _ => ⟨s.log ++ log, ai, result, [], by rw [hlog, List.append_assoc],
    List.not_mem_nil⟩⟩
  · rw [hlog, List.mem_append, List.mem_append, List.mem_singleton]
    rintro (hold | hnew | hlast)
    · exact h.free hold
    · obtain ⟨round, -, heq | ⟨ai', result', heq⟩⟩ := hcalls _ hnew
      · cases heq
      · cases heq
    · cases hlast
  · rw [hlog, hattempted.clientFd, List.mem_append, List.mem_append, List.mem_singleton]
    rintro (hold | hnew | hlast)
    · exact h.client hold
    · obtain ⟨round, hopen, heq | ⟨ai', result', heq⟩⟩ := hcalls _ hnew
      · exact hsocket round hopen (Action.close.inj heq).symm
      · cases heq
    · cases hlast

theorem Unclosed.dropped (h : Unclosed s) (hdistinct : s.conn.originFd ≠ s.conn.clientFd) :
    Unclosed (dropOrigin s) := by
  have hlog : (dropOrigin s).log = s.log ++ [.close s.conn.originFd] := rfl
  refine ⟨?_, ?_, fun hne => absurd rfl hne⟩
  · rw [hlog, List.mem_append, List.mem_singleton]
    rintro (hold | hnew)
    · exact h.free hold
    · cases hnew
  · rw [hlog, List.mem_append, List.mem_singleton]
    rintro (hold | hnew)
    · exact h.client hold
    · exact hdistinct (Action.close.inj hnew).symm

end Calls

/-! ## The callbacks -/

section Callbacks

variable {s t : Session} {env : Env} {key : SelectorKey} {fd : ℤ} {st : SocksV5State}
  {r : Session × SocksV5State} {callback : Session → Except Fault (Session × SocksV5State)}

theorem Decided.unclosed {attempts : Prop} (h : Decided env key attempts s r) (hs : Unclosed s)
    (hfresh : FreshSockets s env) : Unclosed r.1 := by
  rcases h with ⟨-⟩ | ⟨hattempted, -, -⟩ | ⟨hattempted⟩
  · exact hs.replyWith
  · exact (hs.attempted hattempted hfresh).replyWith
  · exact (hs.attempted hattempted hfresh).congr rfl rfl rfl

theorem requestRead_unclosed (hs : Unclosed s) (hfresh : FreshSockets s env)
    (htable : fdSetsize < s.sel.fds.length) (h : requestRead env key s = .ok r) :
    Unclosed r.1 := by
  rcases requestRead_cases hfresh htable h with ⟨hframe, -, -⟩ | ⟨hframe, -, -⟩ |
    ⟨hframe, -, hdecided⟩
  · exact hs.decode hframe
  · exact hs.decode hframe
  · exact hdecided.unclosed (hs.decode hframe) (hfresh.decode hframe)

theorem connectWrite_unclosed (hs : Unclosed s) (hdistinct : s.conn.originFd ≠ s.conn.clientFd)
    (hfresh : FreshSockets (dropOrigin s) env) (htable : fdSetsize < s.sel.fds.length)
    (h : connectWrite env key s = .ok r) : Unclosed r.1 := by
  have hnext : Unclosed (getNextResolution (dropOrigin s)) :=
    (hs.dropped hdistinct).congr rfl rfl rfl
  rcases connectWrite_cases hfresh htable h with ⟨-⟩ | ⟨-, -⟩ | ⟨-, -, hattempted, -, -⟩ |
    ⟨-, -, hattempted⟩ | ⟨-⟩
  · exact hs.replyWith
  · exact (hs.dropped hdistinct).replyWith
  · exact (hnext.attempted hattempted hfresh).replyWith
  · exact hnext.attempted hattempted hfresh
  · exact hs.congr rfl rfl rfl

theorem replyWrite_unclosed (hs : Unclosed s) : Unclosed (replyWrite env s).1 := by
  rcases hfound : s.conn.reply.foundBndInfo with _ | _
  · rw [replyWrite, if_pos hfound]
    exact hs
  · obtain ⟨b, action, hplain, -, hwrite⟩ := replyWrite_eq env s hfound
    have hsent : Unclosed (({ s with conn.originBuffer := b }).act action) := by
      refine hs.plain rfl rfl ⟨[action], rfl, ?_⟩
      intro a ha
      rw [List.mem_singleton.mp ha]
      exact hplain
    rw [hwrite]
    dsimp only
    split_ifs
    · exact hsent
    · exact hsent
    · exact hsent.congr rfl rfl rfl

theorem onReadReady_unclosed (hs : Unclosed s) (htable : fdSetsize < s.sel.fds.length)
    (hfresh : st = .request → FreshSockets s env)
    (hselect : (socks5States env key st).onReadReady = some callback)
    (hcall : callback s = .ok r) : Unclosed r.1 := by
  have hframe := onReadReady_frame hselect hcall
  rcases st <;> cases hselect
  · rw [← Except.ok.inj hcall] at hframe ⊢
    exact hs.wire hframe (greetingRead_wire ..)
  · rw [← Except.ok.inj hcall] at hframe ⊢
    exact hs.wire hframe (authRead_wire ..)
  · exact requestRead_unclosed hs (hfresh rfl) htable hcall
  · rw [← Except.ok.inj hcall] at hframe ⊢
    exact hs.wire hframe socksv5CopyRead_wire

theorem onWriteReady_unclosed (hs : Unclosed s) (hregistered : Registered s)
    (hfresh : st = .connect → FreshSockets (dropOrigin s) env)
    (hselect : (socks5States env key st).onWriteReady = some callback)
    (hcall : callback s = .ok r) : Unclosed r.1 := by
  have hframe := onWriteReady_frame hselect hcall
  rcases st <;> cases hselect
  · rw [← Except.ok.inj hcall] at hframe ⊢
    exact hs.wire hframe greetingWrite_wire
  · rw [← Except.ok.inj hcall] at hframe ⊢
    exact hs.wire hframe authWrite_wire
  · exact connectWrite_unclosed hs hregistered.distinct (hfresh rfl) hregistered.table hcall
  · rw [← Except.ok.inj hcall]
    exact replyWrite_unclosed hs
  · rw [← Except.ok.inj hcall] at hframe ⊢
    exact hs.wire hframe socksv5CopyWrite_wire

theorem onBlockReady_unclosed (hs : Unclosed s) (htable : fdSetsize < s.sel.fds.length)
    (hfresh : st = .request → FreshSockets s env)
    (hselect : (socks5States env key st).onBlockReady = some callback)
    (hcall : callback s = .ok r) : Unclosed r.1 := by
  rcases st <;> cases hselect
  exact (connectToDest_decided (hfresh rfl) htable hcall).unclosed hs (hfresh rfl)

end Callbacks

/-! ## Teardown -/

section Done

variable {s : Session} {env : Env} {key : SelectorKey} {st : SocksV5State}
  {r : Session × SocksV5State}

/-- Teardown marks the record and makes its calls. -/
theorem teardown_effect (env : Env) (key : SelectorKey) (hopen : s.conn.closed = false) :
    (teardown env key s).conn = { s.conn with closed := true } ∧
      (teardown env key s).log = s.log ++
        ((if s.conn.originFd ≠ -1 then [.close s.conn.originFd] else []) ++
          (if s.conn.clientFd ≠ -1 then [.close s.conn.clientFd] else []) ++ [.free]) := by
  unfold teardown
  rw [if_neg (by rw [hopen]; decide)]
  generalize hu : ({ s with conn.closed := true } : Session) = u
  have hlog : u.log = s.log := by rw [← hu]
  have hconn : u.conn = { s.conn with closed := true } := by rw [← hu]
  dsimp only [Session.act]
  rw [conn_releaseFd, conn_releaseFd, releaseFd_log, releaseFd_log, hlog, hconn]
  exact ⟨rfl, by simp only [List.append_assoc]⟩

/-- Teardown of a connection of which nothing has been given back. -/
theorem teardown_tornDown (h : Unclosed s) (hregistered : Registered s)
    (hopen : s.conn.closed = false) : TornDown (teardown env key s) := by
  obtain ⟨hconn, hlog⟩ := teardown_effect env key hopen
  rw [if_pos (ne_neg_one_of_valid (invalidFd_of_dataOf hregistered.client))] at hlog
  have hdistinct := hregistered.distinct
  have hfree := List.count_eq_zero_of_not_mem h.free
  have hclient := List.count_eq_zero_of_not_mem h.client
  refine ⟨teardown_released hregistered hopen, ?_, ?_, ?_⟩
  · rw [hlog, List.count_append, hfree]
    split_ifs <;> simp
  · rw [hlog, hconn, List.count_append, hclient]
    split_ifs <;> simp [hdistinct]
  · rw [hconn]
    intro horigin
    obtain ⟨before, ai, result, after, hbefore, hafter⟩ := h.origin horigin
    rw [if_pos horigin] at hlog
    refine ⟨before, ai, result, after ++
      [.close s.conn.originFd, .close s.conn.clientFd, .free], ?_, ?_⟩
    · rw [hlog, hbefore]
      simp
    · rw [List.count_append, List.count_eq_zero_of_not_mem hafter]
      simp [hdistinct.symm]

theorem Unclosed.arrival (h : Unclosed s) :
    Unclosed (callIfSome (socks5States env key st).onArrival s) :=
  h.wire arrival_frame arrival_wire

/-- The end of an event: the connection goes on with nothing given back, or is
torn down. -/
theorem settle_tornDown (h : Unclosed r.1) (hwired : WiredResult r)
    (hopen : r.1.conn.closed = false) :
    TornDown (settle env key st r) ∨ Alive (settle env key st r) := by
  obtain ⟨u, next⟩ := r
  obtain ⟨hregistered, hstop | hinterests⟩ := hwired
  · left
    rw [settle_stop hstop]
    exact teardown_tornDown (h.congr rfl rfl rfl) (hregistered.congr rfl rfl rfl rfl) hopen
  · right
    have hlive := stateInterests_live hinterests
    by_cases hst : st = next
    · rw [hst, settle_stay hlive.1 hlive.2]
      exact ⟨h.congr rfl rfl rfl, .of_stm hregistered hinterests, hopen⟩
    · rw [settle_move hst hlive.1 hlive.2]
      have harrival : Unclosed (callIfSome (socks5States env key next).onArrival u) := h.arrival
      exact ⟨harrival.congr rfl rfl rfl,
        .of_stm (hregistered.wire arrival_frame arrival_wire) hinterests.arrival,
        arrival_frame.closed.trans hopen⟩

end Done

/-! ## One event -/

section Step

variable {s t : Session} {env : Env} {fd : ℤ} {e : Event}

/-- An event that can happen tears the connection down or leaves it in use. -/
theorem Alive.step (h : Alive s) (henabled : Enabled s e) (hfresh : FreshAt s e)
    (hanswers : SockoptAnswers s e) (hstep : Socks5Proxy.step s e = .ok t) :
    TornDown t ∨ Alive t := by
  obtain ⟨hregistered, hinterests⟩ := h.wired.arrived
  obtain ⟨g, hg⟩ := arrived_eq s
  have haddress : s.arrived.address = s.address := arrived_frame.address
  have hopen : s.arrived.conn.closed = false := arrived_frame.closed.trans h.isOpen
  have hunclosed : Unclosed s.arrived := by
    rw [hg]
    exact h.unclosed.congr rfl rfl rfl
  rcases e with ⟨fd, env⟩ | ⟨fd, env⟩ | ⟨fd, env⟩ | result | errno
  · obtain ⟨-, callback, r, hselect, hcall, rfl⟩ := step_read_ok hstep
    rw [← haddress] at hselect ⊢
    have hfresh' : s.state = .request → FreshSockets s.arrived env :=
      fun hst => freshSockets_arrived (hfresh hst)
    exact settle_tornDown (onReadReady_unclosed hunclosed hregistered.table hfresh' hselect hcall)
      (onReadReady_wired hregistered hinterests hfresh' hselect hcall)
      ((onReadReady_frame hselect hcall).closed.trans hopen)
  · obtain ⟨-, callback, r, hselect, hcall, rfl⟩ := step_write_ok hstep
    have hdata : s.arrived.sel.dataOf fd = some s.arrived.address := by
      rw [hg]
      exact henabled.1
    rw [← haddress] at hselect ⊢
    have hfresh' : s.state = .connect → FreshSockets (dropOrigin s.arrived) env :=
      fun hst => freshSockets_dropOrigin_arrived (hfresh hst)
    exact settle_tornDown (onWriteReady_unclosed hunclosed hregistered hfresh' hselect hcall)
      (onWriteReady_wired hregistered hinterests hdata hfresh' hanswers hselect hcall)
      ((onWriteReady_frame hselect hcall).closed.trans hopen)
  · obtain ⟨-, callback, r, u, hselect, hcall, hu, rfl⟩ := step_block_ok hstep
    rw [← haddress] at hselect hu
    have hfresh' : s.state = .request → FreshSockets s.arrived env :=
      fun hst => freshSockets_arrived (hfresh hst)
    have hsettled : TornDown u ∨ Alive u := by
      rw [hu]
      exact settle_tornDown
        (onBlockReady_unclosed hunclosed hregistered.table hfresh' hselect hcall)
        (onBlockReady_wired hregistered hinterests hfresh' hselect hcall)
        ((onBlockReady_frame hselect hcall).closed.trans hopen)
    rcases hsettled with htorn | halive
    · exact .inl ⟨⟨htorn.closed, htorn.unregistered⟩, htorn.freedOnce, htorn.clientClosedOnce,
        htorn.originClosedOnce⟩
    · exact .inr ⟨halive.unclosed.congr rfl rfl rfl,
        halive.wired.congr rfl rfl rfl rfl rfl rfl, halive.isOpen⟩
  · obtain ⟨-, rfl⟩ := step_resolved_ok_iff.mp hstep
    exact .inr ⟨h.unclosed.congr rfl rfl rfl, h.wired.congr rfl rfl rfl rfl rfl rfl, h.isOpen⟩
  · obtain ⟨-, rfl⟩ := step_connectFinished_ok_iff.mp hstep
    refine .inr ⟨h.unclosed.append rfl rfl rfl ?_, h.wired.congr rfl rfl rfl rfl rfl rfl, h.isOpen⟩
    intro action haction
    rw [List.mem_singleton.mp haction]
    exact ⟨by simp, by simp, by simp⟩

/-- A connection that has just been accepted. -/
theorem passiveAccept_alive {bufferSize : ℕ} {sel : FdSelector FdHandler ℕ}
    {metrics : MetricSnapshot} {a : Accepted}
    (h : socksv5PassiveAccept bufferSize sel metrics a = some s) (hfresh : Fresh sel a) :
    Alive s := by
  have hwired := passiveAccept_wired h hfresh
  obtain ⟨-, hs⟩ := passiveAccept_eq h
  have hlog : s.log = [] := by rw [hs]
  have horigin : s.conn.originFd = -1 := by
    rw [hs]
    rfl
  refine ⟨⟨?_, ?_, fun hne => absurd horigin hne⟩, hwired, ?_⟩
  · rw [hlog]
    exact List.not_mem_nil
  · rw [hlog]
    exact List.not_mem_nil
  · rw [hs]
    rfl

end Step

/-! ## The server stops -/

section Destroy

variable {s t : Session} {env : Env} {fd : ℤ} {i : ℕ}

/-- A connection of which nothing has been given back, whatever its state, and
whose list can be released. -/
structure Held (s : Session) : Prop where
  unclosed : Unclosed s
  registered : Registered s
  isOpen : s.conn.closed = false
  releasable : ¬ s.conn.Mistaken

theorem Alive.held (h : Alive s) (hnot : ¬ s.conn.Mistaken) : Held s :=
  ⟨h.unclosed, h.wired.toRegistered, h.isOpen, hnot⟩

/-- `handle_close` from outside, whichever of its descriptors is unregistered. -/
theorem Held.socksv5Close (h : Held s) (env : Env) (key : SelectorKey) :
    ∃ t, socksv5Close env key s = .ok t ∧ TornDown t := by
  refine ⟨teardown env key { s with metrics := registerConnectionClosed s.metrics }, ?_, ?_⟩
  · rw [Socks5Proxy.socksv5Close, closeWith_eq, socksv5Done_eq]
    exact if_neg fun hfault => h.releasable hfault.2
  · exact teardown_tornDown (h.unclosed.congr rfl rfl rfl)
      (h.registered.congr rfl rfl rfl rfl) h.isOpen

/-- A record that misleads the release cannot be closed from outside either. -/
theorem socksv5Close_mistaken (hopen : s.conn.closed = false) (h : s.conn.Mistaken)
    (env : Env) (key : SelectorKey) : socksv5Close env key s = .error .invalidFree := by
  rw [socksv5Close, closeWith_eq, socksv5Done_eq]
  exact if_pos ⟨hopen, h⟩

theorem TornDown.of_sel {sel : FdSelector FdHandler ℕ} (h : TornDown s)
    (hsel : ∀ fd, sel.dataOf fd ≠ some s.address) : TornDown { s with sel := sel } :=
  ⟨⟨h.closed, hsel⟩, h.freedOnce, h.clientClosedOnce, h.originClosedOnce⟩

theorem destroyItem_other (hother : s.sel.dataOf i ≠ some s.address) :
    destroyItem env s i = .ok { s with sel := (selectorUnregisterFdWithoutClosing s.sel i).1 } :=
  if_neg hother

/-- The loop passes a connection that is torn down already. -/
theorem TornDown.destroyItem (h : TornDown s) (env : Env) (i : ℕ) :
    ∃ t, destroyItem env s i = .ok t ∧ TornDown t := by
  refine ⟨_, destroyItem_other (h.unregistered i), h.of_sel ?_⟩
  intro fd hfd
  rw [dataOf_selectorUnregister] at hfd
  split_ifs at hfd
  exact h.unregistered fd hfd

/-- The loop reaches one of the connection's descriptors. -/
theorem Held.destroyItem_own (h : Held s) (env : Env)
    (hown : s.sel.dataOf i = some s.address) :
    ∃ t, destroyItem env s i = .ok t ∧ TornDown t := by
  obtain ⟨hvalid, hused⟩ := interestOf_ne_none_iff.mp (interestOf_ne_none_of_dataOf hown)
  obtain ⟨t, hclose, htorn⟩ := h.socksv5Close env ⟨i, s.address⟩
  refine ⟨{ t with sel := selectorClearItem t.sel i }, ?_, htorn.of_sel ?_⟩
  · unfold Socks5Proxy.destroyItem
    rw [if_pos hown, if_neg (by rw [hvalid]; decide), if_neg (by rw [hused]; decide),
      if_pos (h.registered.handler i hown), hclose]
    rfl
  · intro fd hfd
    rw [dataOf_selectorClearItem hvalid] at hfd
    split_ifs at hfd
    exact htorn.unregistered fd hfd

/-- The loop reaches a descriptor of another. -/
theorem Held.unregister_other (h : Held s) (hother : s.sel.dataOf i ≠ some s.address) :
    Held { s with sel := (selectorUnregisterFdWithoutClosing s.sel i).1 } ∧
      ∀ fd, (selectorUnregisterFdWithoutClosing s.sel i).1.dataOf fd = some s.address →
        fd ≠ i ∧ s.sel.dataOf fd = some s.address := by
  have howned : ∀ fd, (selectorUnregisterFdWithoutClosing s.sel i).1.dataOf fd =
      some s.address → fd ≠ i ∧ s.sel.dataOf fd = some s.address := by
    intro fd hfd
    rw [dataOf_selectorUnregister] at hfd
    split_ifs at hfd with hne
    exact ⟨hne, hfd⟩
  have hclient : s.conn.clientFd ≠ i := fun heq => hother (heq ▸ h.registered.client)
  refine ⟨⟨h.unclosed.congr rfl rfl rfl, ⟨?_, ?_, ?_, h.registered.distinct, ?_⟩, h.isOpen,
    h.releasable⟩, howned⟩
  · rw [length_fds_selectorUnregister]
    exact h.registered.table
  · rw [dataOf_selectorUnregister, if_neg hclient]
    exact h.registered.client
  · exact fun fd hfd => h.registered.owner fd (howned fd hfd).2
  · intro fd hfd
    obtain ⟨hne, hold⟩ := howned fd hfd
    rw [item_selectorUnregister_of_ne (invalidFd_of_dataOf hold) hne]
    exact h.registered.handler fd hold

/-- The first `n` items of the table. -/
theorem Held.destroyItems (h : Held s) (env : Env) (n : ℕ) :
    ∃ t, (List.range n).foldlM (destroyItem env) s = .ok t ∧
      (TornDown t ∨ Held t ∧ t.conn = s.conn ∧ t.address = s.address ∧
        ∀ fd, t.sel.dataOf fd = some s.address →
          n ≤ fd.toNat ∧ s.sel.dataOf fd = some s.address) := by
  induction n with
  | zero => exact ⟨s, rfl, .inr ⟨h, rfl, rfl, fun fd hfd => ⟨Nat.zero_le _, hfd⟩⟩⟩
  | succ n ih =>
      obtain ⟨t, ht, hitems⟩ := ih
      have hnext : (List.range (n + 1)).foldlM (destroyItem env) s = destroyItem env t n := by
        rw [List.range_succ, List.foldlM_append, ht]
        change (destroyItem env t n >>= pure) = _
        exact bind_pure _
      rw [hnext]
      rcases hitems with htorn | ⟨hheld, hconn, haddress, hrest⟩
      · obtain ⟨u, hu, htorn⟩ := htorn.destroyItem env n
        exact ⟨u, hu, .inl htorn⟩
      · by_cases hown : t.sel.dataOf n = some t.address
        · obtain ⟨u, hu, htorn⟩ := hheld.destroyItem_own env hown
          exact ⟨u, hu, .inl htorn⟩
        · obtain ⟨hnext, howned⟩ := hheld.unregister_other hown
          refine ⟨_, destroyItem_other hown, .inr ⟨hnext, hconn, haddress, ?_⟩⟩
          intro fd hfd
          rw [← haddress] at hfd
          obtain ⟨hne, hfd'⟩ := howned fd hfd
          rw [haddress] at hfd'
          obtain ⟨hle, hold⟩ := hrest fd hfd'
          have hvalid := invalidFd_of_dataOf hold
          rw [invalidFd_eq_false_iff] at hvalid
          exact ⟨by omega, hold⟩

theorem TornDown.destroyItems (h : TornDown s) (env : Env) (l : List ℕ) :
    ∃ t, l.foldlM (Socks5Proxy.destroyItem env) s = .ok t ∧ TornDown t := by
  induction l generalizing s with
  | nil => exact ⟨s, rfl, h⟩
  | cons i l ih =>
      obtain ⟨u, hu, htorn⟩ := h.destroyItem env i
      rw [List.foldlM_cons, hu]
      exact ih htorn

theorem dataOf_noFds {sel : FdSelector FdHandler ℕ} :
    ({ sel with fds := [], resolutionJobs := [] } : FdSelector FdHandler ℕ).dataOf fd = none := by
  simp [FdSelector.dataOf, FdSelector.item, Item.used, Item.blank]

/-- What the loop has torn down stays so when the table is freed. -/
theorem selectorDestroy_of_items
    (hitems : (List.range s.sel.fds.length).foldlM (destroyItem env) s = .ok t)
    (htorn : TornDown t) : ∃ u, selectorDestroy env s = .ok u ∧ TornDown u := by
  refine ⟨{ t with sel.fds := [], sel.resolutionJobs := [] }, ?_, htorn.of_sel ?_⟩
  · rw [selectorDestroy, hitems]
    rfl
  · intro fd
    rw [dataOf_noFds]
    nofun

/-- `selector_destroy` tears down a connection that is in use. -/
theorem Held.selectorDestroy (h : Held s) (env : Env) :
    ∃ t, selectorDestroy env s = .ok t ∧ TornDown t := by
  obtain ⟨t, ht, hitems⟩ := h.destroyItems env s.sel.fds.length
  refine selectorDestroy_of_items ht ?_
  rcases hitems with htorn | ⟨hheld, hconn, haddress, hrest⟩
  · exact htorn
  · have hclient := hheld.registered.client
    rw [hconn, haddress] at hclient
    obtain ⟨hle, hold⟩ := hrest _ hclient
    have hlt := lt_length_of_used
      (interestOf_ne_none_iff.mp (interestOf_ne_none_of_dataOf hold)).2
    omega

/-- It leaves one alone that has been torn down. -/
theorem TornDown.selectorDestroy (h : TornDown s) (env : Env) :
    ∃ t, selectorDestroy env s = .ok t ∧ TornDown t := by
  obtain ⟨t, ht, htorn⟩ := h.destroyItems env (List.range s.sel.fds.length)
  exact selectorDestroy_of_items ht htorn

end Destroy

/-! ## Whole lives -/

/-- What can happen to a connection when `socket` returns descriptors that are
not in use and `getsockopt` does not fail. -/
def Happens (s : Session) (e : Event) : Prop :=
  Enabled s e ∧ FreshAt s e ∧ SockoptAnswers s e

/-- As long as the record is not marked closed nothing has been given back, and
`handle_close` on any of its descriptors tears it down at once; when the mark
is set, it has been torn down, and nothing is dispatched with it; and when the
server stops, it is torn down in any case. -/
structure TearsDownOnce (t : Session) : Prop where
  before : t.conn.closed = false → Unclosed t ∧
    ∀ env fd, ∃ u, socksv5Close env ⟨fd, t.address⟩ t = .ok u ∧ TornDown u
  behind : t.conn.closed = true →
    TornDown t ∧ ∀ e, Enabled t e → ∃ result, e = .resolved result
  stopping : ∀ env, ∃ u, selectorDestroy env t = .ok u ∧ TornDown u

section Lives

variable {s t : Session} {e : Event} {es : List Event}

/-- A connection that has been torn down, or is in use and can be. -/
def Sound (s : Session) : Prop := TornDown s ∨ Alive s ∧ ¬ s.conn.Mistaken

theorem Sound.tearsDownOnce (h : Sound s) : TearsDownOnce s := by
  rcases h with htorn | ⟨halive, hnot⟩
  · refine ⟨fun hopen => ?_, fun _ => ⟨htorn, fun e he => htorn.toReleased.not_enabled he⟩,
      htorn.selectorDestroy⟩
    rw [htorn.closed] at hopen
    cases hopen
  · have hheld := halive.held hnot
    refine ⟨fun _ => ⟨halive.unclosed, fun env fd => hheld.socksv5Close env _⟩, fun hclosed => ?_,
      hheld.selectorDestroy⟩
    rw [halive.isOpen] at hclosed
    cases hclosed

/-- An event that does not mislead the release. -/
theorem Sound.step (h : Sound s) (hhappens : Happens s e) (hnot : ¬ Mistakes s e)
    (hstep : Socks5Proxy.step s e = .ok t) : Sound t := by
  obtain ⟨henabled, hfresh, hanswers⟩ := hhappens
  rcases h with htorn | ⟨halive, hsound⟩
  · rw [step_of_closed htorn.closed] at hstep
    cases hstep
  · exact (halive.step henabled hfresh hanswers hstep).imp_right fun halive' =>
      ⟨halive', mt (step_mistaken_iff halive.isOpen hsound hstep).mp hnot⟩

/-- One that does ends the process, or leaves a connection that cannot be torn
down. -/
theorem Sound.mistakes (h : Sound s) (hmistakes : Mistakes s e) :
    Socks5Proxy.step s e = .error .invalidFree ∨
      ∃ t, Socks5Proxy.step s e = .ok t ∧ ¬ TearsDownOnce t := by
  rcases h with htorn | ⟨halive, hsound⟩
  · have hopen : s.conn.closed = false := by
      rcases e with _ | _ | _ | _ | _ <;> first | exact hmistakes.1 | exact hmistakes.elim
    rw [htorn.closed] at hopen
    cases hopen
  · rcases hmistakes.ends hsound with habort | ⟨t, ht, hopen, hmistaken⟩
    · exact .inl habort
    · refine .inr ⟨t, ht, fun honce => ?_⟩
      obtain ⟨u, hu, -⟩ := (honce.before hopen).2 default 0
      rw [socksv5Close_mistaken hopen hmistaken] at hu
      cases hu

theorem Sound.not_invalidFree (h : Sound s) (hnot : ¬ Mistakes s e) :
    Socks5Proxy.step s e ≠ .error .invalidFree := by
  intro hstep
  rcases h with htorn | ⟨-, hsound⟩
  · rw [step_of_closed htorn.closed] at hstep
    cases hstep
  · exact hnot (mistakes_of_invalidFree hsound hstep)

theorem passiveAccept_sound {bufferSize : ℕ} {sel : FdSelector FdHandler ℕ}
    {metrics : MetricSnapshot} {a : Accepted}
    (haccept : socksv5PassiveAccept bufferSize sel metrics a = some s) (hfresh : Fresh sel a) :
    Sound s := by
  refine .inr ⟨passiveAccept_alive haccept hfresh, ?_⟩
  obtain ⟨-, hs⟩ := passiveAccept_eq haccept
  rw [hs]
  exact fun hmistaken => hmistaken.1 rfl

end Lives

/-- A connection is torn down once.  However a run goes, the release never ends
the process and every state tears it down once, exactly if no event makes
`socks5_destroy` take the list of a name for that of an address. -/
theorem torn_down_once_iff {bufferSize : ℕ} {sel : FdSelector FdHandler ℕ}
    {metrics : MetricSnapshot} {a : Accepted} {s : Session} {es : List Event}
    (haccept : socksv5PassiveAccept bufferSize sel metrics a = some s) (hfresh : Fresh sel a)
    (hes : Steps step Happens s es) :
    (Always step TearsDownOnce s es ∧
        Steps step (fun s e => step s e ≠ .error .invalidFree) s es) ↔
      Steps step (fun s e => ¬ Mistakes s e) s es := by
  have hsound := passiveAccept_sound haccept hfresh
  constructor
  · rintro ⟨halways, hfrees⟩
    refine Steps.of_invariant (I := Sound) ?_ hsound ((hes.and hfrees).and halways.steps)
    rintro s e hs ⟨⟨hhappens, hfree⟩, honce⟩
    have hnot : ¬ Mistakes s e := by
      intro hmistakes
      rcases hs.mistakes hmistakes with habort | ⟨t, ht, hnever⟩
      · exact hfree habort
      · exact hnever (honce t ht)
    exact ⟨hnot, fun t ht => hs.step hhappens hnot ht⟩
  · intro hnone
    have hstep : ∀ s e t, Sound s → Happens s e ∧ ¬ Mistakes s e → step s e = .ok t →
        Sound t := fun s e t hs hevent ht => hs.step hevent.1 hevent.2 ht
    refine ⟨always_of_invariant (fun s hs => hs.tearsDownOnce) hstep hsound (hes.and hnone), ?_⟩
    refine Steps.of_invariant (I := Sound) ?_ hsound (hes.and hnone)
    intro s e hs hevent
    exact ⟨hs.not_invalidFree hevent.2, fun t ht => hstep s e t hs hevent ht⟩

/-! ### A name that is refused -/

/-- A server that refuses the connection at once. -/
def refusing (fd : ℤ) (env : Env) : Env :=
  { env with
    callocAddr := true
    callocInfo := true
    attempts := fun _ => ⟨fd, true, .error econnrefused, true⟩
    getsockname := some ⟨.inet, [10, 0, 0, 2], 40000⟩ }

theorem freshSockets_refusing {s : Session} {fd : ℤ} (hfd : 0 ≤ fd)
    (hnew : s.interestOf fd = none ∧ fd ≠ s.conn.clientFd) (env : Env) :
    FreshSockets s (refusing fd env) := fun _ => .inr ⟨hfd, hnew⟩

/-- The client asks for a name, is refused and gets its reply. -/
def refusedName : List Event :=
  askForName ++ [resolved] ++ [.block 4 (refusing 5 default)] ++ [.write 4 (sends 10)]

/-- It sends the header of a request for an IPv4 address and closes its side. -/
def headerThenEnd : Event :=
  .read 4 (refusing 6 { receives [0x05, 0x01, 0x00, 0x01] with recvDst := some [] })

/-- It sends the whole request. -/
def askForAddress : Event :=
  .read 4 (refusing 6
    { receives [0x05, 0x01, 0x00, 0x01] with recvDst := some [10, 0, 0, 1, 0, 80] })

theorem refusedName_happens : Steps step Happens firstSession refusedName := by
  have hasked : Steps step Happens firstSession (askForName ++ [resolved]) :=
    (connecting_dispatched.and connecting_undisturbed).init.mono
      fun _ _ h => ⟨h.1.1, h.1.2.1, h.2.sockopt⟩
  refine steps_firstSession (steps_firstSession hasked (by decide +kernel) ⟨by decide +kernel, ?_,
    trivial⟩) (by decide +kernel) ⟨by decide +kernel, ?_, ?_⟩
  · exact fun _ => freshSockets_refusing (by decide) (by decide +kernel) default
  · exact freshAt_of_state (by decide +kernel)
  · exact fun hst => absurd hst (by decide +kernel)

theorem refusedName_six (env : Env) :
    FreshAt (firstSessionAfter refusedName) (.read 4 (refusing 6 env)) :=
  fun _ => freshSockets_refusing (by decide) (by decide +kernel) env

/-- The release takes the list of the name for that of an address, and the
record is never freed. -/
theorem headerThenEnd_not_freed :
    ∃ s t, socksv5PassiveAccept bufferSizeDefault emptySelector metricsInit firstClient = some s ∧
      Steps step Happens s (refusedName ++ [headerThenEnd]) ∧
      run step s refusedName = .ok t ∧ Action.free ∉ t.log ∧
      step t headerThenEnd = .error .invalidFree := by
  refine ⟨firstSession, firstSessionAfter refusedName, firstSession_accepted, ?_,
    run_firstSession (by decide +kernel), by decide +kernel, by decide +kernel⟩
  exact steps_firstSession refusedName_happens (by decide +kernel)
    ⟨by decide +kernel, refusedName_six _, trivial⟩

/-- An address that is dialled in the same event gets a list of its own. -/
theorem torn_down_once_iff_refused :
    Always step TearsDownOnce firstSession (refusedName ++ [askForAddress]) ∧
      Steps step (fun s e => step s e ≠ .error .invalidFree) firstSession
        (refusedName ++ [askForAddress]) := by
  have hes : Steps step Happens firstSession (refusedName ++ [askForAddress]) :=
    steps_firstSession refusedName_happens (by decide +kernel)
      ⟨by decide +kernel, refusedName_six _, trivial⟩
  exact (torn_down_once_iff firstSession_accepted firstClient_fresh hes).mpr (by decide +kernel)

end Socks5Proxy

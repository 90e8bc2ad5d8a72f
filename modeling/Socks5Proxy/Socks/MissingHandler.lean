import Socks5Proxy.Socks.Wiring
import Socks5Proxy.Socks.ResolutionIsolation

/-!
# Whether every event finds a handler

The selector dispatches what is registered, and the state machine asserts that
the current state has the callback.  The two agree as long as the client is not
read while a resolver thread works for it: a second thread, started by such a
read, posts its notification when the connection has left REQUEST.
-/

namespace Socks5Proxy

open Library

/-! ## The property -/

/-- The entry of the current state defines the callback of the event. -/
def HasCallback (s : Session) : Event → Prop
  | .read fd env => (socks5States env ⟨fd, s.address⟩ s.state).onReadReady.isSome = true
  | .write fd env => (socks5States env ⟨fd, s.address⟩ s.state).onWriteReady.isSome = true
  | .block fd env => (socks5States env ⟨fd, s.address⟩ s.state).onBlockReady.isSome = true
  | _ => True

instance HasCallback.decidable (s : Session) : (e : Event) → Decidable (HasCallback s e)
  | .read fd env => inferInstanceAs
      (Decidable ((socks5States env ⟨fd, s.address⟩ s.state).onReadReady.isSome = true))
  | .write fd env => inferInstanceAs
      (Decidable ((socks5States env ⟨fd, s.address⟩ s.state).onWriteReady.isSome = true))
  | .block fd env => inferInstanceAs
      (Decidable ((socks5States env ⟨fd, s.address⟩ s.state).onBlockReady.isSome = true))
  | .resolved _ => .isTrue trivial
  | .connectFinished _ => .isTrue trivial

/-- The event finds its callback, and no assertion fails. -/
def FindsHandler (s : Session) (e : Event) : Prop :=
  HasCallback s e ∧ step s e ≠ .error .assertion

/-- What the selector can dispatch to one connection: events of its registered
interests, and notifications its own resolver threads posted, which carry the
client's descriptor.  Sockets are new when they are opened. -/
def Dispatched (s : Session) (e : Event) : Prop :=
  Enabled s e ∧ FreshAt s e ∧ ∀ fd env, e = .block fd env → fd = s.conn.clientFd

/-- How many notifications the connection has still to get: one for each
resolver thread that works and one for each job in the queue. -/
def outstanding (s : Session) : ℕ :=
  s.resolvers + s.sel.resolutionJobs.count s.conn.clientFd

/-- REQUEST is not read while a notification is outstanding, and `getsockopt`
does not fail in CONNECT. -/
def Undisturbed (s : Session) : Event → Prop
  | .read _ _ => s.state = .request → outstanding s = 0
  | .write _ env => s.state = .connect → env.getsockopt ≠ none
  | _ => True

instance Undisturbed.decidable (s : Session) : (e : Event) → Decidable (Undisturbed s e)
  | .read _ _ => inferInstanceAs (Decidable (s.state = .request → outstanding s = 0))
  | .write _ env => inferInstanceAs (Decidable (s.state = .connect → env.getsockopt ≠ none))
  | .block _ _ => .isTrue trivial
  | .resolved _ => .isTrue trivial
  | .connectFinished _ => .isTrue trivial

theorem Undisturbed.sockopt {s : Session} {e : Event} (h : Undisturbed s e) :
    SockoptAnswers s e := by
  rcases e with _ | _ | _ | _ | _
  · exact trivial
  · exact h
  · exact trivial
  · exact trivial
  · exact trivial

/-! ## No callback trips an assertion of its own -/

section Faults

variable {env : Env} {key : SelectorKey} {s : Session} {fault : Fault}

theorem tryAddresses_fault {round : ℕ} {addresses : List SockAddr}
    (h : tryAddresses env key round addresses s = .error fault) : fault = .nullDereference := by
  induction addresses generalizing round s with
  | nil => exact (Except.error.inj h).symm
  | cons ai aiNext ih =>
      unfold tryAddresses at h
      generalize tryAddress env key round ai aiNext s = b at h
      rcases b with ⟨u, ret⟩ | u
      · cases h
      · exact ih h

theorem connectToDest_fault (h : connectToDest env key s = .error fault) :
    fault = .nullDereference := by
  unfold connectToDest at h
  split at h
  · cases h
  · split at h
    · next htry => exact Except.error.inj h ▸ tryAddresses_fault htry
    · cases h

theorem dstIp_fault {getAddress : Session → Session}
    {resolve : Env → Session → Session × Bool}
    (h : dstIp env key getAddress resolve s = .error fault) : fault = .nullDereference := by
  unfold dstIp at h
  split at h
  · cases h
  · exact connectToDest_fault h

theorem resolveDstAddress_fault (h : resolveDstAddress env key s = .error fault) :
    fault = .nullDereference := by
  unfold resolveDstAddress at h
  dsimp only at h
  split at h
  · cases h
  · unfold dstRes at h
    split at h
    · exact dstIp_fault h
    · split at h
      · cases h
      · exact dstIp_fault h

theorem requestRead_fault (h : requestRead env key s = .error fault) :
    fault = .nullDereference := by
  unfold requestRead at h
  split at h
  · dsimp only at h
    split at h
    · cases h
    · exact resolveDstAddress_fault h
  · exact resolveDstAddress_fault h

theorem printConnectionAccessLog_fault (h : printConnectionAccessLog s = .error fault) :
    fault = .nullDereference := by
  unfold printConnectionAccessLog at h
  split at h
  · exact (Except.error.inj h).symm
  · cases h

theorem connectWriteResult_fault {ret : UInt8} (h : connectWriteResult s ret = .error fault) :
    fault = .nullDereference := by
  unfold connectWriteResult at h
  split_ifs at h
  split at h
  · next hlog => exact Except.error.inj h ▸ printConnectionAccessLog_fault hlog
  · cases h

theorem connectWrite_fault (h : connectWrite env key s = .error fault) :
    fault = .nullDereference := by
  unfold connectWrite at h
  split at h
  · cases h
  · split at h
    · dsimp only at h
      split at h
      · exact (Except.error.inj h).symm
      · cases h
      · split at h
        · next htry => exact Except.error.inj h ▸ tryAddresses_fault htry
        · exact connectWriteResult_fault h
    · split at h
      · next hlog => exact Except.error.inj h ▸ printConnectionAccessLog_fault hlog
      · cases h

variable {st : SocksV5State} {callback : Session → Except Fault (Session × SocksV5State)}

theorem onReadReady_fault (hselect : (socks5States env key st).onReadReady = some callback)
    (h : callback s = .error fault) : fault = .nullDereference := by
  rcases st <;> cases hselect
  · cases h
  · cases h
  · exact requestRead_fault h
  · cases h

theorem onWriteReady_fault (hselect : (socks5States env key st).onWriteReady = some callback)
    (h : callback s = .error fault) : fault = .nullDereference := by
  rcases st <;> cases hselect
  · cases h
  · cases h
  · exact connectWrite_fault h
  · cases h
  · cases h

theorem onBlockReady_fault (hselect : (socks5States env key st).onBlockReady = some callback)
    (h : callback s = .error fault) : fault = .nullDereference := by
  rcases st <;> cases hselect
  exact connectToDest_fault h

/-- A dispatch faults because the callback is missing, faults itself, or has
ended the connection and the release of its record fails. -/
theorem dispatch_fault
    {select : StateDefinition Session SocksV5State →
      Option (Session → Except Fault (Session × SocksV5State))}
    (h : dispatch (stmHandler select) env key s = .error fault) :
    select (socks5States env key s.state) = none ∧ fault = .assertion ∨
      (∃ callback, select (socks5States env key s.state) = some callback ∧
        callback s.arrived = .error fault) ∨
      (∃ callback r, select (socks5States env key s.state) = some callback ∧
        callback s.arrived = .ok r ∧ Aborts r) ∧ fault = .invalidFree := by
  rcases hselect : select (socks5States env key s.state) with _ | callback
  · unfold dispatch stmHandler at h
    rw [handleFirst_socks5States] at h
    dsimp only at h
    rw [hselect] at h
    exact .inl ⟨rfl, (Except.error.inj h).symm⟩
  · rcases hcall : callback s.arrived with fault' | r
    · unfold dispatch stmHandler at h
      rw [handleFirst_socks5States] at h
      dsimp only at h
      rw [hselect] at h
      dsimp only at h
      rw [hcall] at h
      exact .inr (.inl ⟨callback, rfl, by rw [hcall, Except.error.inj h]⟩)
    · rw [dispatch_of_callback hselect hcall] at h
      obtain ⟨haborts, hfault⟩ := finish_error_iff.mp h
      exact .inr (.inr ⟨⟨callback, r, rfl, hcall, haborts⟩, hfault⟩)

/-- An event that finds its callback trips no assertion. -/
theorem HasCallback.findsHandler {e : Event} (h : HasCallback s e) : FindsHandler s e := by
  refine ⟨h, ?_⟩
  intro hstep
  unfold step at hstep
  split at hstep
  · cases hstep
  · rcases e with ⟨fd, env⟩ | ⟨fd, env⟩ | ⟨fd, env⟩ | result | errno
    · rcases dispatch_fault hstep with ⟨hnone, -⟩ | ⟨callback, hselect, hcall⟩ | ⟨-, hfault⟩
      · rw [HasCallback, hnone] at h
        cases h
      · cases onReadReady_fault hselect hcall
      · cases hfault
    · rcases dispatch_fault hstep with ⟨hnone, -⟩ | ⟨callback, hselect, hcall⟩ | ⟨-, hfault⟩
      · rw [HasCallback, hnone] at h
        cases h
      · cases onWriteReady_fault hselect hcall
      · cases hfault
    · have hblock : socksv5Block env ⟨fd, s.address⟩ s = .error .assertion := by
        unfold stepOpen at hstep
        dsimp only at hstep
        generalize socksv5Block env ⟨fd, s.address⟩ s = r at hstep ⊢
        rcases r with fault' | t
        · exact congrArg _ (Except.error.inj hstep)
        · cases hstep
      rcases dispatch_fault hblock with ⟨hnone, -⟩ | ⟨callback, hselect, hcall⟩ | ⟨-, hfault⟩
      · rw [HasCallback, hnone] at h
        cases h
      · cases onBlockReady_fault hselect hcall
      · cases hfault
    · cases hstep
    · cases hstep

end Faults

/-! ## Notifications -/

/-- No resolver thread was started and no notification taken. -/
structure SameNotifications (s t : Session) : Prop where
  resolvers : t.resolvers = s.resolvers
  jobs : t.sel.resolutionJobs = s.sel.resolutionJobs

section Notifications

variable {s t u : Session} {env : Env} {key : SelectorKey} {fd : ℤ} {st : SocksV5State}
  {r : Session × SocksV5State} {callback : Session → Except Fault (Session × SocksV5State)}

theorem SameNotifications.refl (s : Session) : SameNotifications s s := ⟨rfl, rfl⟩

theorem SameNotifications.trans (h : SameNotifications s t) (h' : SameNotifications t u) :
    SameNotifications s u :=
  ⟨h'.resolvers.trans h.resolvers, h'.jobs.trans h.jobs⟩

theorem WireFrame.notifications (h : WireFrame s t) : SameNotifications s t :=
  ⟨h.resolvers, h.sets.resolutionJobs⟩

theorem DecodeFrame.notifications (h : DecodeFrame s t) (hresolvers : t.resolvers = s.resolvers) :
    SameNotifications s t :=
  ⟨hresolvers, congrArg FdSelector.resolutionJobs h.sel⟩

theorem setInterest_notifications {i : FdInterest} : SameNotifications s (s.setInterest fd i) :=
  (WireFrame.setInterest fd i).notifications

theorem replyWith_notifications {rep : UInt8} : SameNotifications s (replyWith rep s).1 :=
  ⟨rfl, resolutionJobs_selectorSetInterest⟩

theorem Attempted.notifications {ret : UInt8} (h : Attempted env key s t ret)
    (htable : fdSetsize < s.sel.fds.length) : SameNotifications s t := by
  refine ⟨h.resolvers, ?_⟩
  rcases h.selector htable with ⟨-, hsel⟩ | ⟨-, horigin⟩
  · rw [hsel]
  · exact horigin.resolutionJobs

theorem Decided.notifications {attempts : Prop} (h : Decided env key attempts s r)
    (htable : fdSetsize < s.sel.fds.length) : SameNotifications s r.1 := by
  rcases h with ⟨hrep, -⟩ | ⟨hattempted, hret, hrep, -⟩ | ⟨hattempted, -⟩
  · exact replyWith_notifications
  · exact (hattempted.notifications htable).trans replyWith_notifications
  · exact (hattempted.notifications htable).trans setInterest_notifications

/-- REQUEST starts at most one resolver, and waits for it. -/
theorem requestRead_notifications (hfresh : FreshSockets s env)
    (htable : fdSetsize < s.sel.fds.length) (h : requestRead env key s = .ok r) :
    SameNotifications s r.1 ∨
      r.2 = .request ∧ r.1.resolvers = s.resolvers + 1 ∧
        r.1.sel.resolutionJobs = s.sel.resolutionJobs := by
  rcases requestRead_cases hfresh htable h with ⟨hframe, -, hresolvers⟩ |
    ⟨hframe, hst, hresolvers⟩ | ⟨hframe, hresolvers, hdecided⟩
  · exact .inl (hframe.notifications hresolvers)
  · exact .inr ⟨hst, hresolvers, congrArg FdSelector.resolutionJobs hframe.sel⟩
  · refine .inl ((hframe.notifications hresolvers).trans (hdecided.notifications ?_))
    rw [hframe.sel]
    exact htable

theorem dropOrigin_notifications : SameNotifications s (dropOrigin s) :=
  ⟨rfl, resolutionJobs_selectorUnregister⟩

theorem connectWrite_notifications (hfresh : FreshSockets (dropOrigin s) env)
    (htable : fdSetsize < s.sel.fds.length) (h : connectWrite env key s = .ok r) :
    SameNotifications s r.1 := by
  have hdropped : fdSetsize < (getNextResolution (dropOrigin s)).sel.fds.length := by
    rw [show (getNextResolution (dropOrigin s)).sel.fds.length = s.sel.fds.length from
      length_fds_dropOrigin]
    exact htable
  have hnext : SameNotifications s (getNextResolution (dropOrigin s)) :=
    dropOrigin_notifications.trans ⟨rfl, rfl⟩
  rcases connectWrite_cases hfresh htable h with ⟨-⟩ | ⟨-, -, -⟩ |
    ⟨-, -, hattempted, -, -⟩ | ⟨-, -, hattempted⟩ | ⟨-, -⟩
  · exact replyWith_notifications
  · exact dropOrigin_notifications.trans replyWith_notifications
  · exact (hnext.trans (hattempted.notifications hdropped)).trans replyWith_notifications
  · exact hnext.trans (hattempted.notifications hdropped)
  · exact setInterest_notifications.trans replyWith_notifications

theorem replyWrite_notifications : SameNotifications s (replyWrite env s).1 := by
  rcases hfound : s.conn.reply.foundBndInfo with _ | _
  · rw [replyWrite, if_pos hfound]
    exact .refl s
  · obtain ⟨b, action, -, -, hwrite⟩ := replyWrite_eq env s hfound
    rw [hwrite]
    dsimp only
    split_ifs
    · exact ⟨rfl, rfl⟩
    · exact ⟨rfl, rfl⟩
    · exact ⟨rfl, resolutionJobs_selectorSetInterest⟩

theorem onReadReady_notifications (htable : fdSetsize < s.sel.fds.length)
    (hfresh : st = .request → FreshSockets s env)
    (hselect : (socks5States env key st).onReadReady = some callback)
    (hcall : callback s = .ok r) :
    SameNotifications s r.1 ∨
      st = .request ∧ r.2 = .request ∧ r.1.resolvers = s.resolvers + 1 ∧
        r.1.sel.resolutionJobs = s.sel.resolutionJobs := by
  rcases st <;> cases hselect
  · rw [← Except.ok.inj hcall]
    exact .inl (greetingRead_wire ..).notifications
  · rw [← Except.ok.inj hcall]
    exact .inl (authRead_wire ..).notifications
  · exact (requestRead_notifications (hfresh rfl) htable hcall).imp_right fun h => ⟨rfl, h⟩
  · rw [← Except.ok.inj hcall]
    exact .inl socksv5CopyRead_wire.notifications

theorem onWriteReady_notifications (htable : fdSetsize < s.sel.fds.length)
    (hfresh : st = .connect → FreshSockets (dropOrigin s) env)
    (hselect : (socks5States env key st).onWriteReady = some callback)
    (hcall : callback s = .ok r) : SameNotifications s r.1 := by
  rcases st <;> cases hselect
  · rw [← Except.ok.inj hcall]
    exact greetingWrite_wire.notifications
  · rw [← Except.ok.inj hcall]
    exact authWrite_wire.notifications
  · exact connectWrite_notifications (hfresh rfl) htable hcall
  · rw [← Except.ok.inj hcall]
    exact replyWrite_notifications
  · rw [← Except.ok.inj hcall]
    exact socksv5CopyWrite_wire.notifications

theorem onBlockReady_notifications (htable : fdSetsize < s.sel.fds.length)
    (hfresh : st = .request → FreshSockets s env)
    (hselect : (socks5States env key st).onBlockReady = some callback)
    (hcall : callback s = .ok r) : SameNotifications s r.1 := by
  rcases st <;> cases hselect
  exact (connectToDest_decided (hfresh rfl) htable hcall).notifications htable

theorem arrived_notifications : SameNotifications s s.arrived := by
  obtain ⟨g, hg⟩ := arrived_eq s
  rw [hg]
  exact ⟨rfl, rfl⟩

theorem settle_notifications (env : Env) (key : SelectorKey) (st : SocksV5State)
    (hlive : r.2 ≠ .error ∧ r.2 ≠ .done) : SameNotifications r.1 (settle env key st r) := by
  obtain ⟨u, next⟩ := r
  by_cases hst : st = next
  · rw [hst, settle_stay hlive.1 hlive.2]
    exact ⟨rfl, rfl⟩
  · rw [settle_move hst hlive.1 hlive.2]
    have harrival : SameNotifications u (callIfSome (socks5States env key next).onArrival u) :=
      arrival_wire.notifications
    exact ⟨harrival.resolvers, harrival.jobs⟩

end Notifications

/-! ## The invariant -/

/-- A wired connection that waits for at most one notification, in REQUEST. -/
structure Serviced (s : Session) : Prop extends Wired s where
  atMostOne : outstanding s ≤ 1
  waiting : 0 < outstanding s → s.state = .request

section Invariant

variable {s t : Session} {env : Env} {fd : ℤ} {e : Event}

theorem Wired.read_hasCallback (h : Wired s) (henabled : Enabled s (.read fd env)) :
    HasCallback s (.read fd env) := by
  obtain ⟨hdata, i, hi, hread⟩ := henabled
  have hinterests := h.interests
  rw [HasCallback]
  rcases hstate : s.state <;> rw [hstate] at hinterests
  · rfl
  · rfl
  · rfl
  · have hwrite : s.interestOf fd = some .opWrite := by
      rcases h.owner fd hdata with heq | heq
      · rw [heq]
        exact hinterests.1
      · rw [heq]
        exact hinterests.2.2
    rw [← Option.some.inj (hwrite.symm.trans hi)] at hread
    cases hread
  · have hquiet : s.interestOf fd = some .opWrite ∨ s.interestOf fd = some .opNoop := by
      rcases h.owner fd hdata with heq | heq
      · rw [heq]
        exact .inl hinterests.1
      · rcases hinterests.2 with honly | ⟨-, hnoop⟩
        · rw [honly fd hdata]
          exact .inl hinterests.1
        · rw [heq]
          exact .inr hnoop
    rcases hquiet with hquiet | hquiet <;>
      (rw [← Option.some.inj (hquiet.symm.trans hi)] at hread; cases hread)
  · rfl
  · exact hinterests.elim
  · exact hinterests.elim

theorem Wired.write_hasCallback (h : Wired s) (henabled : Enabled s (.write fd env)) :
    HasCallback s (.write fd env) := by
  obtain ⟨hdata, i, hi, hwrite⟩ := henabled
  have hinterests := h.interests
  rw [HasCallback]
  rcases hstate : s.state <;> rw [hstate] at hinterests
  · rfl
  · rfl
  · obtain ⟨honly, hread⟩ := hinterests
    rw [honly fd hdata, hread] at hi
    rw [← Option.some.inj hi] at hwrite
    cases hwrite
  · rfl
  · rfl
  · rfl
  · exact hinterests.elim
  · exact hinterests.elim

theorem outstanding_pos_of_job (henabled : Enabled s (.block s.conn.clientFd env)) :
    0 < outstanding s :=
  Nat.add_pos_right _ (List.count_pos_iff.mpr henabled.2)

/-- Every event the selector dispatches finds its callback. -/
theorem Serviced.hasCallback (h : Serviced s) (hdispatched : Dispatched s e) :
    HasCallback s e := by
  obtain ⟨henabled, -, hown⟩ := hdispatched
  rcases e with ⟨fd, env⟩ | ⟨fd, env⟩ | ⟨fd, env⟩ | result | errno
  · exact h.toWired.read_hasCallback henabled
  · exact h.toWired.write_hasCallback henabled
  · have hfd := hown fd env rfl
    subst hfd
    rw [HasCallback, h.waiting (outstanding_pos_of_job henabled)]
    rfl
  · exact trivial
  · exact trivial

theorem SameNotifications.outstanding (h : SameNotifications s t)
    (hfd : t.conn.clientFd = s.conn.clientFd) : outstanding t = outstanding s := by
  rw [Socks5Proxy.outstanding, h.resolvers, h.jobs, hfd]
  rfl

/-- A state that is not REQUEST awaits nothing. -/
theorem Serviced.outstanding_eq_zero (h : Serviced s) (hstate : s.state ≠ .request) :
    outstanding s = 0 := by
  by_contra hne
  exact hstate (h.waiting (Nat.pos_of_ne_zero hne))

/-- A wired connection does not stand in DONE or ERROR. -/
theorem Wired.live {st : SocksV5State} (h : Wired s) (hstate : s.state = st) :
    st ≠ .error ∧ st ≠ .done := by
  have hinterests := h.interests
  rw [hstate] at hinterests
  exact stateInterests_live hinterests

theorem settle_state (env : Env) (key : SelectorKey) (st : SocksV5State)
    (r : Session × SocksV5State) : (settle env key st r).state = r.2 := by
  rw [Session.state, settle_stm]
  rfl

theorem serviced_settle {key : SelectorKey} {st : SocksV5State} {r : Session × SocksV5State}
    (ht : Wired (settle env key st r)) (hone : outstanding r.1 ≤ 1)
    (hwaiting : 0 < outstanding r.1 → r.2 = .request) : Serviced (settle env key st r) := by
  have hstate := settle_state env key st r
  have hsame : outstanding (settle env key st r) = outstanding r.1 :=
    (settle_notifications env key st (ht.live hstate)).outstanding settle_persists.clientFd
  refine ⟨ht, ?_, ?_⟩
  · rw [hsame]
    exact hone
  · rw [hsame, hstate]
    exact hwaiting

theorem outstanding_arrived : outstanding s.arrived = outstanding s :=
  arrived_notifications.outstanding arrived_frame.clientFd

theorem table_arrived (h : Wired s) : fdSetsize < s.arrived.sel.fds.length := h.arrived.1.table

theorem Serviced.read (h : Serviced s) (hfresh : FreshAt s (.read fd env))
    (hundisturbed : Undisturbed s (.read fd env)) (hstep : step s (.read fd env) = .ok t)
    (ht : Wired t) : Serviced t := by
  obtain ⟨-, callback, r, hselect, hcall, rfl⟩ := step_read_ok hstep
  have hfd := (onReadReady_frame hselect hcall).clientFd
  have hzero : outstanding s = 0 := by
    by_cases hstate : s.state = .request
    · exact hundisturbed hstate
    · exact h.outstanding_eq_zero hstate
  rcases onReadReady_notifications (table_arrived h.toWired)
    (fun hst => freshSockets_arrived (hfresh hst)) hselect hcall with
    hsame | ⟨-, hrequest, hresolvers, hjobs⟩
  · have hr : outstanding r.1 = 0 := by
      rw [hsame.outstanding hfd, outstanding_arrived, hzero]
    exact serviced_settle ht (by omega) (by omega)
  · have hr : outstanding r.1 = outstanding s.arrived + 1 := by
      rw [outstanding, hresolvers, hjobs, hfd, outstanding]
      omega
    rw [outstanding_arrived, hzero] at hr
    exact serviced_settle ht (by omega) fun _ => hrequest

theorem Serviced.write (h : Serviced s) (hfresh : FreshAt s (.write fd env))
    (hstep : step s (.write fd env) = .ok t) (ht : Wired t) : Serviced t := by
  obtain ⟨-, callback, r, hselect, hcall, rfl⟩ := step_write_ok hstep
  have hzero : outstanding s = 0 := by
    apply h.outstanding_eq_zero
    intro hstate
    rw [hstate] at hselect
    cases hselect
  have hsame := onWriteReady_notifications (table_arrived h.toWired)
    (fun hst => freshSockets_dropOrigin_arrived (hfresh hst)) hselect hcall
  have hr : outstanding r.1 = 0 := by
    rw [hsame.outstanding (onWriteReady_frame hselect hcall).clientFd, outstanding_arrived, hzero]
  exact serviced_settle ht (by omega) (by omega)

theorem Serviced.block (h : Serviced s) (hdispatched : Dispatched s (.block fd env))
    (hstep : step s (.block fd env) = .ok t) (hwired : Wired t) : Serviced t := by
  obtain ⟨henabled, hfresh, hown⟩ := hdispatched
  have hfd := hown fd env rfl
  subst hfd
  obtain ⟨-, callback, r, u, hselect, hcall, hu, ht⟩ := step_block_ok hstep
  have hsame := onBlockReady_notifications (table_arrived h.toWired)
    (fun hst => freshSockets_arrived (hfresh hst)) hselect hcall
  have hstate : u.state = r.2 := by rw [hu, settle_state]
  have hsettled := settle_notifications env ⟨s.conn.clientFd, s.address⟩ s.state
    (hwired.live (show t.state = r.2 by rw [ht]; exact hstate))
  have hclient : u.conn.clientFd = s.conn.clientFd := by
    rw [hu]
    exact settle_persists.clientFd.trans
      ((onBlockReady_frame hselect hcall).clientFd.trans arrived_frame.clientFd)
  have hjobs : u.sel.resolutionJobs = s.sel.resolutionJobs := by
    rw [hu, hsettled.jobs, hsame.jobs, arrived_notifications.jobs]
  have hresolvers : u.resolvers = s.resolvers := by
    rw [hu, hsettled.resolvers, hsame.resolvers, arrived_notifications.resolvers]
  have hzero : outstanding t = 0 := by
    have hone := h.atMostOne
    have hjob : 0 < s.sel.resolutionJobs.count s.conn.clientFd :=
      List.count_pos_iff.mpr henabled.2
    rw [outstanding] at hone ⊢
    rw [ht]
    dsimp only
    rw [hclient, hjobs, hresolvers, List.count_erase_self]
    omega
  exact ⟨hwired, by omega, by omega⟩

/-- One event: it finds its callback, and ends the connection or leaves it
waiting as it should. -/
theorem Serviced.step (h : Serviced s) (hdispatched : Dispatched s e)
    (hundisturbed : Undisturbed s e) :
    FindsHandler s e ∧ ∀ t, Socks5Proxy.step s e = .ok t → Released t ∨ Serviced t := by
  refine ⟨(h.hasCallback hdispatched).findsHandler, ?_⟩
  intro t hstep
  obtain ⟨henabled, hfresh, hown⟩ := hdispatched
  rcases step_wired h.toWired henabled hfresh hundisturbed.sockopt hstep with hreleased | hwired
  · exact .inl hreleased
  · right
    rcases e with ⟨fd, env⟩ | ⟨fd, env⟩ | ⟨fd, env⟩ | result | errno
    · exact h.read hfresh hundisturbed hstep hwired
    · exact h.write hfresh hstep hwired
    · exact h.block ⟨henabled, hfresh, hown⟩ hstep hwired
    · unfold Socks5Proxy.step at hstep
      split at hstep
      · cases hstep
      · have ht := Except.ok.inj hstep
        have hsame : outstanding t = outstanding s := by
          have hpos : 0 < s.resolvers := henabled
          rw [← ht, outstanding, outstanding]
          change s.resolvers - 1 + (s.conn.clientFd :: s.sel.resolutionJobs).count
            s.conn.clientFd = _
          rw [List.count_cons_self]
          omega
        have hstate : t.state = s.state := by rw [← ht]; rfl
        refine ⟨hwired, ?_, ?_⟩
        · rw [hsame]
          exact h.atMostOne
        · rw [hsame, hstate]
          exact h.waiting
    · unfold Socks5Proxy.step at hstep
      split at hstep
      · cases hstep
      · have ht := Except.ok.inj hstep
        rw [← ht] at hwired ⊢
        exact ⟨hwired, h.atMostOne, h.waiting⟩

end Invariant

/-! ## Whole runs -/

/-- In a run that leaves the client alone while a resolver works for it, every
event the selector dispatches finds its callback. -/
theorem events_find_handlers {bufferSize : ℕ} {sel : FdSelector FdHandler ℕ}
    {metrics : MetricSnapshot} {a : Accepted} {s : Session}
    (haccept : socksv5PassiveAccept bufferSize sel metrics a = some s) (hfresh : Fresh sel a)
    (hjobs : a.clientFd ∉ sel.resolutionJobs) {es : List Event}
    (hdispatched : Steps step Dispatched s es) (hundisturbed : Steps step Undisturbed s es) :
    Steps step FindsHandler s es := by
  refine Steps.of_invariant (I := fun s => Released s ∨ Serviced s) ?_ ?_
    (hdispatched.and hundisturbed)
  · rintro s e (hreleased | hserviced) ⟨hdispatched, hundisturbed⟩
    · obtain ⟨result, he⟩ := hreleased.not_enabled hdispatched.1
      subst he
      refine ⟨HasCallback.findsHandler trivial, ?_⟩
      intro t hstep
      rw [hreleased.step_fault] at hstep
      cases hstep
    · exact hserviced.step hdispatched hundisturbed
  · right
    have hwired := passiveAccept_wired haccept hfresh
    obtain ⟨hsuccess, hs⟩ := passiveAccept_eq haccept
    have hlen := passiveAccept_toNat_lt haccept hfresh
    have hzero : outstanding s = 0 := by
      rw [hs]
      change 0 + (selectorRegister sel a.clientFd (some .socks5Handler) .opRead
        (some a.address) a.alloc).1.resolutionJobs.count a.clientFd = 0
      rw [resolutionJobs_selectorRegister hlen hsuccess, List.count_eq_zero_of_not_mem hjobs]
    exact ⟨hwired, by omega, by omega⟩

/-! ### A late byte -/

/-- A kernel whose `socket` returns 5 and whose `connect` stays pending. -/
def dialing (env : Env) : Env :=
  { env with attempts := fun _ => ⟨5, true, .error einprogress, true⟩ }

/-- The descriptor 5 is new in this state. -/
def FiveIsNew (s : Session) : Prop := s.interestOf 5 = none ∧ (5 : ℤ) ≠ s.conn.clientFd

instance (s : Session) : Decidable (FiveIsNew s) :=
  inferInstanceAs (Decidable (s.interestOf 5 = none ∧ (5 : ℤ) ≠ s.conn.clientFd))

theorem FiveIsNew.freshSockets {s : Session} (h : FiveIsNew s) (env : Env) :
    FreshSockets s (dialing env) := fun _ => .inr ⟨Int.natCast_nonneg 5, h⟩

theorem FiveIsNew.freshAt_read {s : Session} (h : FiveIsNew s) {fd : ℤ} {env : Env} :
    FreshAt s (.read fd (dialing env)) := fun _ => h.freshSockets env

theorem FiveIsNew.freshAt_block {s : Session} (h : FiveIsNew s) {fd : ℤ} {env : Env} :
    FreshAt s (.block fd (dialing env)) := fun _ => h.freshSockets env

theorem freshAt_of_state {s : Session} (h : s.state ≠ .request ∧ s.state ≠ .connect)
    {e : Event} : FreshAt s e := by
  rcases e with _ | _ | _ | _ | _
  · exact fun hst => absurd hst h.1
  · exact fun hst => absurd hst h.2
  · exact fun hst => absurd hst h.1
  · exact trivial
  · exact trivial

theorem dispatched_of_ne_block {s : Session} {e : Event} (henabled : Enabled s e)
    (hfresh : FreshAt s e) (hne : ∀ fd env, e ≠ .block fd env) : Dispatched s e :=
  ⟨henabled, hfresh, fun fd env he => absurd he (hne fd env)⟩

theorem dispatched_read {s : Session} {fd : ℤ} {env : Env} (henabled : Enabled s (.read fd env))
    (hfresh : FreshAt s (.read fd env)) : Dispatched s (.read fd env) :=
  dispatched_of_ne_block henabled hfresh (by simp)

theorem dispatched_write {s : Session} {fd : ℤ} {env : Env} (henabled : Enabled s (.write fd env))
    (hfresh : FreshAt s (.write fd env)) : Dispatched s (.write fd env) :=
  dispatched_of_ne_block henabled hfresh (by simp)

theorem dispatched_resolved {s : Session} {result : List SockAddr}
    (henabled : Enabled s (.resolved result)) : Dispatched s (.resolved result) :=
  dispatched_of_ne_block henabled trivial (by simp)

theorem dispatched_block {s : Session} {fd : ℤ} {env : Env} (henabled : Enabled s (.block fd env))
    (hfresh : FreshAt s (.block fd env)) (hfd : fd = s.conn.clientFd) :
    Dispatched s (.block fd env) := by
  refine ⟨henabled, hfresh, ?_⟩
  rintro _ _ ⟨⟩
  exact hfd

/-- The client asks for a name, and a resolver thread is started. -/
def askForName : List Event := greetingExchange ++ [.read 4 (dialing queryEnv)]

def server : SockAddr := ⟨.inet, [10, 0, 0, 1], 80⟩

/-- A resolver thread finds the server. -/
def resolved : Event := .resolved [server]

/-- Its notification has the connection dial the server. -/
def notified : Event := .block 4 (dialing default)

theorem greetingExchange_dispatched : Steps step Dispatched firstSession greetingExchange := by
  have hgreeting : Steps step Dispatched firstSession [.read 4 (receives [0x05, 0x01, 0x00])] := by
    refine ⟨dispatched_read (by decide +kernel) ?_, fun _ _ => trivial⟩
    exact freshAt_of_state (by decide +kernel)
  refine steps_firstSession hgreeting (by decide +kernel) ?_
  exact dispatched_write (by decide +kernel) (freshAt_of_state (by decide +kernel))

theorem askForName_dispatched : Steps step Dispatched firstSession askForName := by
  refine steps_firstSession greetingExchange_dispatched (by decide +kernel) ?_
  exact dispatched_read (by decide +kernel) (FiveIsNew.freshAt_read (by decide +kernel))

theorem connecting_dispatched :
    Steps step Dispatched firstSession (askForName ++ [resolved] ++ [notified]) := by
  refine steps_firstSession (steps_firstSession askForName_dispatched (by decide +kernel) ?_)
    (by decide +kernel) ?_
  · exact dispatched_resolved (by decide +kernel)
  · exact dispatched_block (by decide +kernel)
      (FiveIsNew.freshAt_block (by decide +kernel)) (by decide +kernel)

theorem connecting_undisturbed :
    Steps step Undisturbed firstSession (askForName ++ [resolved] ++ [notified]) := by
  decide +kernel

/-- One resolver, one notification. -/
theorem events_find_handlers_name :
    Steps step FindsHandler firstSession (askForName ++ [resolved] ++ [notified]) :=
  events_find_handlers firstSession_accepted firstClient_fresh (by decide +kernel)
    connecting_dispatched connecting_undisturbed

/-- One more byte from the client while the resolver works. -/
def disturbed : List Event := askForName ++ [.read 4 (dialing lateByte)]

/-- Both resolvers answer; the first notification leads to CONNECT. -/
def answeredTwice : List Event := disturbed ++ [resolved] ++ [notified] ++ [resolved]

theorem answeredTwice_dispatched : Steps step Dispatched firstSession answeredTwice := by
  have hdisturbed : Steps step Dispatched firstSession disturbed :=
    steps_firstSession askForName_dispatched (by decide +kernel)
      (dispatched_read (by decide +kernel) (FiveIsNew.freshAt_read (by decide +kernel)))
  refine steps_firstSession (steps_firstSession (steps_firstSession hdisturbed
    (by decide +kernel) ?_) (by decide +kernel) ?_) (by decide +kernel) ?_
  · exact dispatched_resolved (by decide +kernel)
  · exact dispatched_block (by decide +kernel) (FiveIsNew.freshAt_block (by decide +kernel))
      (by decide +kernel)
  · exact dispatched_resolved (by decide +kernel)

/-- The second notification finds the connection in CONNECT. -/
theorem lateByte_findsNoHandler :
    ∃ s, socksv5PassiveAccept bufferSizeDefault emptySelector metricsInit firstClient = some s ∧
      firstClient.clientFd ∉ emptySelector.resolutionJobs ∧
      Steps step Dispatched s (answeredTwice ++ [notified]) ∧
      ¬ Steps step FindsHandler s (answeredTwice ++ [notified]) := by
  refine ⟨firstSession, firstSession_accepted, by decide +kernel, ?_, ?_⟩
  · refine steps_firstSession answeredTwice_dispatched (by decide +kernel) ?_
    exact dispatched_block (by decide +kernel)
      (fun hst => absurd hst (by decide +kernel)) (by decide +kernel)
  · intro hfinds
    have hlast := (hfinds.last (run_firstSession (by decide +kernel))).1
    exact absurd hlast (by decide +kernel)

end Socks5Proxy

import Socks5Proxy.Socks.Dialling
import Socks5Proxy.Socks.Refusals
import Socks5Proxy.Socks.Teardown

/-!
# The sockets a connection opens towards its origin

`origin_fd` holds one descriptor at a time.  CONNECT closes it before the next
attempt, but REQUEST does not: a request that follows a failed one overwrites
the descriptor of a socket that is still open.
-/

namespace Socks5Proxy

open Library

/-! ## Open sockets -/

/-- The open sockets after one more call.  A socket is counted from its
`connect` on; one that cannot be made non-blocking is closed before that. -/
def openedAfter (opened : List ℤ) : Action → List ℤ
  | .connect fd _ _ => fd :: opened
  | .close fd => opened.filter (· ≠ fd)
  | _ => opened

/-- The origin sockets that are open. -/
def openOrigins (s : Session) : List ℤ := s.log.foldl openedAfter []

/-- At most the socket in `origin_fd` is open, and none after teardown. -/
structure OriginsKept (s : Session) : Prop where
  current : ∀ fd ∈ openOrigins s, fd = s.conn.originFd
  released : s.conn.closed = true → openOrigins s = []

/-- A descriptor `socket` returns is not open already. -/
def NewSockets (s : Session) (env : Env) : Prop :=
  ∀ round, (env.attempts round).socket ∉ openOrigins s

/-- What is assumed of `socket` in one event; CONNECT closes the old socket
before it asks for a new one. -/
def NewAt (s : Session) : Event → Prop
  | .read _ env | .block _ env => s.state = .request → NewSockets s env
  | .write _ env => s.state = .connect → NewSockets (dropOrigin s) env
  | _ => True

/-- REQUEST has an address list and gets a socket for it. -/
def Dials (s : Session) : Event → Prop
  | .read fd env => s.conn.closed = false ∧ s.state = .request ∧
      ReadConnects env ⟨fd, s.address⟩ s ∧ Decisive env 0 1
  | .block _ env => s.conn.closed = false ∧ s.state = .request ∧
      Decisive env 0 s.conn.originResolution.length
  | _ => False

/-- No earlier attempt has left its socket behind. -/
def DialsFree (s : Session) (e : Event) : Prop := Dials s e → s.conn.originFd = -1

/-! ## The calls between attempts -/

/-- The origin's descriptor is kept, and no call opens or closes a socket. -/
structure Calm (s t : Session) : Prop where
  originFd : t.conn.originFd = s.conn.originFd
  opened : openOrigins t = openOrigins s

/-- The sockets that are open while nothing has leaked. -/
def Holds (s : Session) : Prop :=
  openOrigins s = if s.conn.originFd = -1 then [] else [s.conn.originFd]

section Calls

variable {s t u : Session} {env : Env} {key : SelectorKey} {r : Session × SocksV5State}

theorem openOrigins_act (action : Action) :
    openOrigins (s.act action) = openedAfter (openOrigins s) action := by
  rw [openOrigins, Session.act, List.foldl_append]
  rfl

theorem openedAfter_plain {action : Action} (h : action.Plain) (opened : List ℤ) :
    openedAfter opened action = opened := by
  rcases action <;> first | rfl | exact h.elim

theorem Calm.refl (s : Session) : Calm s s := ⟨rfl, rfl⟩

theorem Calm.trans (h : Calm s t) (h' : Calm t u) : Calm s u :=
  ⟨h'.originFd.trans h.originFd, h'.opened.trans h.opened⟩

theorem Calm.of_calls (horigin : t.conn.originFd = s.conn.originFd)
    (hcalls : ∃ log, t.log = s.log ++ log ∧ ∀ action ∈ log, action.Plain) : Calm s t := by
  refine ⟨horigin, ?_⟩
  obtain ⟨log, hlog, hplain⟩ := hcalls
  rw [openOrigins, hlog, List.foldl_append]
  change log.foldl openedAfter (openOrigins s) = openOrigins s
  clear hlog
  induction log with
  | nil => rfl
  | cons action log ih =>
      rw [List.foldl_cons, openedAfter_plain (hplain action List.mem_cons_self)]
      exact ih fun a ha => hplain a (List.mem_cons_of_mem action ha)

theorem Calm.mute (h : Mute s t) : Calm s t := .of_calls h.originFd h.calls

theorem Calm.wire (h : WireFrame s t) : Calm s t := .of_calls h.originFd h.calls

theorem Calm.of_same (horigin : t.conn.originFd = s.conn.originFd) (hlog : t.log = s.log) :
    Calm s t :=
  ⟨horigin, by rw [openOrigins, hlog]; rfl⟩

theorem Calm.replyWith (h : Calm s t) (rep : UInt8) : Calm s (replyWith rep t).1 :=
  h.trans (.of_same rfl rfl)

theorem Calm.holds (h : Calm s t) (hs : Holds s) : Holds t := by
  rw [Holds, h.opened, h.originFd]
  exact hs

theorem Holds.current (h : Holds s) : ∀ fd ∈ openOrigins s, fd = s.conn.originFd := by
  intro fd hfd
  rw [h] at hfd
  split_ifs at hfd
  · cases hfd
  · exact List.mem_singleton.mp hfd

/-- Closing the socket in `origin_fd` closes the only one. -/
theorem Holds.dropped (h : Holds s) : Holds (dropOrigin s) ∧ openOrigins (dropOrigin s) = [] := by
  have hopened : openOrigins (dropOrigin s) = [] := by
    have hlog : (dropOrigin s).log = (s.act (.close s.conn.originFd)).log := rfl
    rw [openOrigins, hlog]
    change openOrigins (s.act (.close s.conn.originFd)) = []
    rw [openOrigins_act, openedAfter, List.filter_eq_nil_iff]
    intro fd hfd
    rw [h.current fd hfd]
    simp
  exact ⟨hopened, hopened⟩

end Calls

/-! ## The attempts -/

/-- The attempts have ended with a socket of their own in `origin_fd`. -/
structure Opened (s t : Session) : Prop where
  isSocket : t.conn.originFd ≠ -1
  isNew : t.conn.originFd ∉ openOrigins s
  opened : openOrigins t = t.conn.originFd :: openOrigins s

section Attempts

variable {s t : Session} {env : Env} {key : SelectorKey} {ret : UInt8}

theorem tryAddress_sockets (hnew : NewSockets s env) (key : SelectorKey) (round : ℕ)
    (ai : SockAddr) (aiNext : List SockAddr) :
    (tryAddress env key round ai aiNext s).All (fun t _ => Opened s t)
      (fun t => openOrigins t = openOrigins s) := by
  have hfresh := hnew round
  have hclose : ∀ {opened : List ℤ}, (env.attempts round).socket ∉ opened →
      opened.filter (· ≠ (env.attempts round).socket) = opened := by
    intro opened hnot
    rw [List.filter_eq_self]
    intro fd hfd
    have hne : fd ≠ (env.attempts round).socket := fun heq => hnot (heq ▸ hfd)
    simpa using hne
  have hopened : ∀ {u : Session} {result : ConnectResult}, openOrigins u =
      openedAfter (openOrigins s) (.connect (env.attempts round).socket ai result) →
      u.conn.originFd = (env.attempts round).socket → (env.attempts round).socket ≠ -1 →
      Opened s u := by
    intro u result hu horigin hsocket
    rw [← horigin] at hsocket hfresh hu
    exact ⟨hsocket, hfresh, hu⟩
  unfold tryAddress
  dsimp only
  by_cases hsocket : (env.attempts round).socket = -1
  · rw [if_pos hsocket]
    rfl
  · rw [if_neg hsocket]
    by_cases hnio : (env.attempts round).setNio = false
    · rw [if_pos hnio]
      exact (openOrigins_act (s := { s with conn.originFd := (env.attempts round).socket })
        (.close (env.attempts round).socket)).trans (hclose hfresh)
    · rw [if_neg hnio]
      have hcalled : ∀ result, openOrigins (({ s with
          conn.originFd := (env.attempts round).socket } : Session).act
            (.connect (env.attempts round).socket ai result)) =
          openedAfter (openOrigins s) (.connect (env.attempts round).socket ai result) :=
        fun result => openOrigins_act _
      rcases hconnect : (env.attempts round).connect with _ | errno
      · exact hopened (hcalled .success) rfl hsocket
      · dsimp only
        by_cases hpending : errno = einprogress
        · rw [if_pos hpending]
          split <;> exact hopened (hcalled (.error errno)) rfl hsocket
        · rw [if_neg hpending]
          by_cases hlast : aiNext ≠ []
          · rw [if_pos hlast]
            have hboth : openOrigins (((({ s with
                conn.originFd := (env.attempts round).socket } : Session).act
                  (.connect (env.attempts round).socket ai (.error errno)))).act
                    (.close (env.attempts round).socket)) = openOrigins s := by
              rw [openOrigins_act, hcalled, openedAfter, openedAfter,
                List.filter_cons_of_neg (by simp), hclose hfresh]
            exact hboth
          · rw [if_neg hlast]
            exact hopened (hcalled (.error errno)) rfl hsocket

/-- The recursion reaches the first round that keeps its socket. -/
theorem tryAddresses_sockets {addresses : List SockAddr} {round : ℕ} (hnew : NewSockets s env)
    (h : tryAddresses env key round addresses s = .ok (t, ret)) : Opened s t := by
  induction addresses generalizing round s with
  | nil => cases h
  | cons ai aiNext ih =>
      have hround := tryAddress_sockets hnew key round ai aiNext
      unfold tryAddresses at h
      generalize tryAddress env key round ai aiNext s = b at h hround
      rcases b with ⟨u, ret'⟩ | u
      · cases h
        exact hround
      · have hsame : openOrigins u = openOrigins s := hround
        have hnext : NewSockets u env := by
          rw [NewSockets, hsame]
          exact hnew
        obtain ⟨hsocket, hisNew, hopened⟩ := ih hnext h
        rw [hsame] at hisNew hopened
        exact ⟨hsocket, hisNew, hopened⟩

end Attempts

/-! ## The callbacks of REQUEST and CONNECT -/

/-- The callback dialled: its socket is open beside those there were. -/
def Dialed (s : Session) (r : Session × SocksV5State) : Prop :=
  ∃ t, Opened s t ∧ Calm t r.1 ∧ (r.2 = .connect ∨ r.2 = .reply)

section Callbacks

variable {s t u : Session} {env : Env} {key : SelectorKey} {r : Session × SocksV5State}

theorem NewSockets.calm (h : NewSockets s env) (hcalm : Calm s t) : NewSockets t env := by
  rw [NewSockets, hcalm.opened]
  exact h

theorem Dialed.after (hcalm : Calm s t) (h : Dialed t r) : Dialed s r := by
  obtain ⟨u, ⟨hsocket, hisNew, hopened⟩, hend⟩ := h
  rw [hcalm.opened] at hisNew hopened
  exact ⟨u, ⟨hsocket, hisNew, hopened⟩, hend⟩

theorem connectToDestResult_calm (ret : UInt8) : Calm s (connectToDestResult s ret).1 := by
  unfold connectToDestResult
  split_ifs <;> exact .of_same rfl rfl

theorem connectWriteResult_calm {ret : UInt8} (h : connectWriteResult s ret = .ok r) :
    Calm s r.1 := by
  rcases connectWriteResult_cases h with ⟨rep, -, rfl⟩ | ⟨-, rfl⟩ | ⟨-, rfl⟩
  · exact .of_same rfl rfl
  · exact .refl s
  · exact .of_same rfl rfl

theorem tryConnection_opens {ret : UInt8} (hnew : NewSockets s env)
    (h : tryConnection env key s = .ok (t, ret)) : Opened s t := tryAddresses_sockets hnew h

/-- With addresses at hand a first attempt that returns has dialled. -/
theorem connectToDest_dials (hnew : NewSockets s env) (haddr : s.conn.originResolution ≠ [])
    (h : connectToDest env key s = .ok r) : Dialed s r := by
  have hstate := connectToDest_state h
  unfold connectToDest at h
  split at h
  · next hempty => exact absurd hempty haddr
  · split at h
    · cases h
    · next t ret htry =>
        rw [← Except.ok.inj h] at hstate ⊢
        exact ⟨t, tryConnection_opens hnew htry, connectToDestResult_calm ret, hstate⟩

/-- A decoder of REQUEST either hands one address to `connect_to_dest` or makes
no call that matters. -/
def HandsOver (env : Env) (key : SelectorKey) (attempts : Prop) (s : Session)
    (result : Except Fault (Session × SocksV5State)) : Prop :=
  attempts ∧ (∃ u, Calm s u ∧ u.conn.originResolution.length = 1 ∧
    result = connectToDest env key u) ∨
  ¬ attempts ∧ ∃ r, result = .ok r ∧ Calm s r.1

theorem requestRead_handsOver (env : Env) (key : SelectorKey) (s : Session) :
    HandsOver env key (ReadConnects env key s) s (requestRead env key s) := by
  rcases requestRead_relays env key s with ⟨hattempts, u, hu, hone, hresult⟩ | ⟨hnone, r, hr, hr'⟩
  · exact .inl ⟨hattempts, u, .mute hu, hone, hresult⟩
  · exact .inr ⟨hnone, r, hr, .mute hr'⟩

/-- CONNECT closes its socket before it goes on to another. -/
theorem connectWrite_holds (hs : Holds s) (hnew : NewSockets (dropOrigin s) env)
    (h : connectWrite env key s = .ok r) : Holds r.1 := by
  unfold connectWrite at h
  generalize sockError env s.conn.originFd = answer at h
  rcases answer with _ | v
  · rw [← Except.ok.inj h]
    exact (Calm.of_same rfl rfl : Calm s _).holds hs
  · dsimp only at h
    by_cases hv : v ≠ 0
    · rw [if_pos hv] at h
      obtain ⟨hdropped, hnone⟩ := hs.dropped
      split at h
      · cases h
      · rw [← Except.ok.inj h]
        exact (Calm.of_same rfl rfl : Calm (dropOrigin s) _).holds hdropped
      · have hnext : Calm (dropOrigin s) (getNextResolution (dropOrigin s)) := .of_same rfl rfl
        split at h
        · cases h
        · next t ret htry =>
            obtain ⟨hsocket, -, hopened⟩ := tryConnection_opens (hnew.calm hnext) htry
            refine (connectWriteResult_calm h).holds ?_
            rw [Holds, if_neg hsocket, hopened, hnext.opened, hnone]
    · rw [if_neg hv] at h
      rcases hlog : printConnectionAccessLog s with fault | u
      · rw [hlog] at h
        cases h
      · rw [hlog] at h
        rw [← Except.ok.inj h, printConnectionAccessLog_eq hlog]
        exact (Calm.of_same rfl rfl : Calm s _).holds hs

end Callbacks

/-! ## One event -/

/-- After an event that leaked nothing. -/
def Rests (s : Session) : Prop :=
  s.conn.closed = false ∧ Holds s ∨ s.conn.closed = true ∧ openOrigins s = []

/-- A socket is open that no field leads to. -/
def Leaks (s : Session) : Prop := ∃ fd ∈ openOrigins s, fd ≠ s.conn.originFd

section Step

variable {s t : Session} {env : Env} {key : SelectorKey} {fd : ℤ} {st : SocksV5State}
  {r : Session × SocksV5State} {callback : Session → Except Fault (Session × SocksV5State)}

theorem Rests.kept (h : Rests s) : OriginsKept s := by
  rcases h with ⟨hopen, hs⟩ | ⟨hclosed, hnone⟩
  · refine ⟨hs.current, fun hclosed => ?_⟩
    rw [hopen] at hclosed
    cases hclosed
  · refine ⟨fun fd hfd => ?_, fun _ => hnone⟩
    rw [hnone] at hfd
    cases hfd

theorem Leaks.not_kept (h : Leaks s) : ¬ OriginsKept s := by
  obtain ⟨fd, hfd, hne⟩ := h
  exact fun hkept => hne (hkept.current fd hfd)

theorem Leaks.calm (h : Leaks s) (hcalm : Calm s t) : Leaks t := by
  rw [Leaks, hcalm.opened, hcalm.originFd]
  exact h

theorem Dialed.holds (h : Dialed s r) (hs : Holds s) (hfree : s.conn.originFd = -1) :
    Holds r.1 := by
  obtain ⟨t, ⟨hsocket, -, hopened⟩, hcalm, -⟩ := h
  refine hcalm.holds ?_
  rw [Holds, if_neg hsocket, hopened, hs, if_pos hfree]

theorem Dialed.state (h : Dialed s r) : r.2 = .connect ∨ r.2 = .reply := by
  obtain ⟨-, -, -, hst⟩ := h
  exact hst

/-- The socket that was in `origin_fd` is still open. -/
theorem Dialed.leaks (h : Dialed s r) (hs : Holds s) (hold : s.conn.originFd ≠ -1) :
    Leaks r.1 := by
  obtain ⟨t, ⟨hsocket, hisNew, hopened⟩, hcalm, -⟩ := h
  have hmem : s.conn.originFd ∈ openOrigins s := by
    rw [hs, if_neg hold]
    exact List.mem_singleton_self _
  refine Leaks.calm ⟨s.conn.originFd, ?_, fun heq => hisNew (heq ▸ hmem)⟩ hcalm
  rw [hopened]
  exact List.mem_cons_of_mem _ hmem

/-- Teardown closes the socket in `origin_fd`. -/
theorem teardown_rests (hs : Holds s) (hopen : s.conn.closed = false) :
    Rests (teardown env key s) := by
  refine .inr ⟨teardown_closed, ?_⟩
  obtain ⟨-, hlog⟩ := teardown_effect env key hopen
  rw [openOrigins, hlog, List.foldl_append]
  change List.foldl openedAfter (openOrigins s) _ = []
  rw [hs]
  split_ifs <;> simp [openedAfter]

theorem arrival_calm (env : Env) (key : SelectorKey) (next : SocksV5State) (s : Session) :
    Calm s (callIfSome (socks5States env key next).onArrival s) := .wire arrival_wire

theorem settle_rests (hs : Holds r.1) (hopen : r.1.conn.closed = false) :
    Rests (settle env key st r) := by
  obtain ⟨u, next⟩ := r
  by_cases hstop : next = .error ∨ next = .done
  · rw [settle_stop hstop]
    exact teardown_rests ((Calm.of_same rfl rfl : Calm u _).holds hs) hopen
  · obtain ⟨herror, hdone⟩ := not_or.mp hstop
    left
    by_cases hst : st = next
    · rw [hst, settle_stay herror hdone]
      exact ⟨hopen, (Calm.of_same rfl rfl : Calm u _).holds hs⟩
    · rw [settle_move hst herror hdone]
      have harrival := arrival_calm env key next u
      exact ⟨arrival_frame.closed.trans hopen,
        (harrival.trans (.of_same rfl rfl)).holds hs⟩

theorem settle_leaks (h : Leaks r.1) (hst : r.2 = .connect ∨ r.2 = .reply) :
    Leaks (settle env key st r) := by
  obtain ⟨u, next⟩ := r
  have hlive : next ≠ .error ∧ next ≠ .done := by
    rcases hst with hst | hst <;> (rw [show next = _ from hst]; decide)
  by_cases hsame : st = next
  · rw [hsame, settle_stay hlive.1 hlive.2]
    exact h.calm (.of_same rfl rfl)
  · rw [settle_move hsame hlive.1 hlive.2]
    exact h.calm ((arrival_calm env key next u).trans (.of_same rfl rfl))

theorem onWriteReady_holds (hs : Holds s)
    (hnew : st = .connect → NewSockets (dropOrigin s) env)
    (hselect : (socks5States env key st).onWriteReady = some callback)
    (hcall : callback s = .ok r) : Holds r.1 := by
  rcases st <;> cases hselect
  · rw [← Except.ok.inj hcall]
    exact (Calm.wire greetingWrite_wire).holds hs
  · rw [← Except.ok.inj hcall]
    exact (Calm.wire authWrite_wire).holds hs
  · exact connectWrite_holds hs (hnew rfl) hcall
  · rw [← Except.ok.inj hcall]
    exact (Calm.mute (replyWrite_mute env s)).holds hs
  · rw [← Except.ok.inj hcall]
    exact (Calm.wire socksv5CopyWrite_wire).holds hs

/-- What one event does to the sockets. -/
def TracksSockets (s : Session) (e : Event) : Prop :=
  (DialsFree s e → ∀ t, step s e = .ok t → Rests t) ∧
    (¬ DialsFree s e → ∃ t, step s e = .ok t ∧ Leaks t)

/-- A read event in REQUEST. -/
theorem read_request_tracks (hs : Holds s) (hopen : s.conn.closed = false)
    (hstate : s.state = .request) (hnew : NewAt s (.read fd env)) :
    TracksSockets s (.read fd env) := by
  have hcallback : ∀ t, step s (.read fd env) = .ok t ↔
      ∃ r, requestRead env ⟨fd, s.address⟩ s = .ok r ∧ ¬ Aborts r ∧
        t = settle env ⟨fd, s.address⟩ .request r :=
    fun _ => step_read_request_iff hstate hopen
  have hclosed : ∀ {r}, requestRead env ⟨fd, s.address⟩ s = .ok r → r.1.conn.closed = false :=
    fun hcall => (requestRead_frame hcall).closed.trans hopen
  rcases requestRead_handsOver env ⟨fd, s.address⟩ s with
    ⟨hreads, u, hu, hone, hresult⟩ | ⟨hnone, r, hr, hquiet⟩
  · have hunew := (hnew hstate).calm hu
    have hends : (∃ r, requestRead env ⟨fd, s.address⟩ s = .ok r) ↔ Decisive env 0 1 :=
      requestRead_returnsIf.ok_iff.trans ⟨fun h => h hreads, fun h _ => h⟩
    have hdialed : ∀ r, requestRead env ⟨fd, s.address⟩ s = .ok r → Dialed s r := by
      intro r hcall
      rw [hresult] at hcall
      exact (connectToDest_dials hunew (List.ne_nil_of_length_pos (by omega)) hcall).after hu
    constructor
    · intro hfree t ht
      obtain ⟨r, hcall, -, rfl⟩ := (hcallback t).mp ht
      have hdials : Dials s (.read fd env) := ⟨hopen, hstate, hreads, hends.mp ⟨r, hcall⟩⟩
      exact settle_rests ((hdialed r hcall).holds hs (hfree hdials)) (hclosed hcall)
    · intro hleft
      obtain ⟨⟨-, -, -, hkept⟩, hold⟩ := Classical.not_imp.mp hleft
      obtain ⟨r, hcall⟩ := hends.mpr hkept
      have hdial := hdialed r hcall
      exact ⟨_, (hcallback _).mpr ⟨r, hcall, not_aborts_of_connecting hdial.state, rfl⟩,
        settle_leaks (hdial.leaks hs hold) hdial.state⟩
  · constructor
    · intro _ t ht
      obtain ⟨r', hcall, -, rfl⟩ := (hcallback t).mp ht
      rw [hr] at hcall
      rw [← Except.ok.inj hcall]
      exact settle_rests (hquiet.holds hs) (hclosed hr)
    · intro hleft
      exact absurd (Classical.not_imp.mp hleft).1.2.2.1 hnone

theorem Rests.dropJobs {jobs : List ℤ} (h : Rests s) :
    Rests { s with sel.resolutionJobs := jobs } := h

/-- A block event in REQUEST. -/
theorem block_request_tracks (hs : Holds s) (hopen : s.conn.closed = false)
    (hstate : s.state = .request) (hnew : NewAt s (.block fd env)) :
    TracksSockets s (.block fd env) := by
  obtain ⟨-, harrived⟩ := arrived_of_some (stm_of_state hstate (by decide))
  have hcallback : ∀ t, step s (.block fd env) = .ok t ↔
      ∃ r u, connectToDest env ⟨fd, s.address⟩ s = .ok r ∧
        u = settle env ⟨fd, s.address⟩ .request r ∧
        t = { u with sel.resolutionJobs := u.sel.resolutionJobs.erase fd } := by
    intro t
    rw [step_block_ok_iff, hstate, harrived]
    constructor
    · rintro ⟨-, callback, r, u, hselect, hcall, ⟨-, hu⟩, ht⟩
      rw [← Option.some.inj hselect] at hcall
      exact ⟨r, u, hcall, hu, ht⟩
    · rintro ⟨r, u, hcall, hu, ht⟩
      have hends : ¬ Aborts r := not_aborts_of_connecting (connectToDest_state hcall)
      exact ⟨hopen, _, r, u, rfl, hcall, ⟨hends, hu⟩, ht⟩
  have hclosed : ∀ {r}, connectToDest env ⟨fd, s.address⟩ s = .ok r →
      r.1.conn.closed = false :=
    fun hcall => (connectToDest_frame hcall).closed.trans hopen
  by_cases haddr : s.conn.originResolution = []
  · have hrefuse : connectToDest env ⟨fd, s.address⟩ s = .ok (replyWith serverFailure s) := by
      rw [connectToDest, haddr]
    constructor
    · intro _ t ht
      obtain ⟨r, u, hcall, rfl, rfl⟩ := (hcallback t).mp ht
      rw [hrefuse] at hcall
      rw [← Except.ok.inj hcall]
      exact (settle_rests (((Calm.refl s).replyWith _).holds hs) (hclosed hrefuse)).dropJobs
    · intro hleft
      have hdecisive := (Classical.not_imp.mp hleft).1.2.2
      rw [haddr] at hdecisive
      exact absurd hdecisive Decisive.zero
  · have hends : (∃ r, connectToDest env ⟨fd, s.address⟩ s = .ok r) ↔
        Decisive env 0 s.conn.originResolution.length :=
      (connectToDest_returnsIf env ⟨fd, s.address⟩ s).ok_iff.trans
        ⟨fun h => h haddr, fun h _ => h⟩
    have hdialed : ∀ r, connectToDest env ⟨fd, s.address⟩ s = .ok r → Dialed s r :=
      fun r => connectToDest_dials (hnew hstate) haddr
    constructor
    · intro hfree t ht
      obtain ⟨r, u, hcall, rfl, rfl⟩ := (hcallback t).mp ht
      have hdials : Dials s (.block fd env) := ⟨hopen, hstate, hends.mp ⟨r, hcall⟩⟩
      exact (settle_rests ((hdialed r hcall).holds hs (hfree hdials)) (hclosed hcall)).dropJobs
    · intro hleft
      obtain ⟨⟨-, -, hkept⟩, hold⟩ := Classical.not_imp.mp hleft
      obtain ⟨r, hcall⟩ := hends.mpr hkept
      have hdial := hdialed r hcall
      exact ⟨_, (hcallback _).mpr ⟨r, _, hcall, rfl, rfl⟩,
        settle_leaks (hdial.leaks hs hold) hdial.state⟩

/-- An event that does not dial leaks nothing. -/
theorem TracksSockets.of_rests {e : Event} (hquiet : ¬ Dials s e)
    (hstep : ∀ t, step s e = .ok t → Rests t) : TracksSockets s e :=
  ⟨fun _ => hstep, fun hleft => absurd (Classical.not_imp.mp hleft).1 hquiet⟩

theorem step_tracks {e : Event} (hs : Holds s) (hopen : s.conn.closed = false)
    (hnew : NewAt s e) : TracksSockets s e := by
  have harrived := (Calm.mute (arrived_mute s)).holds hs
  have hopen' : s.arrived.conn.closed = false := arrived_frame.closed.trans hopen
  rcases e with ⟨fd, env⟩ | ⟨fd, env⟩ | ⟨fd, env⟩ | result | errno
  · by_cases hstate : s.state = .request
    · exact read_request_tracks hs hopen hstate hnew
    · refine .of_rests (fun hdials => hstate hdials.2.1) ?_
      intro t ht
      obtain ⟨-, callback, r, hselect, hcall, rfl⟩ := step_read_ok ht
      exact settle_rests ((Calm.mute (onReadReady_mute hstate hselect hcall)).holds harrived)
        ((onReadReady_frame hselect hcall).closed.trans hopen')
  · refine .of_rests id ?_
    intro t ht
    obtain ⟨-, callback, r, hselect, hcall, rfl⟩ := step_write_ok ht
    have hnew' : s.state = .connect → NewSockets (dropOrigin s.arrived) env := by
      intro hstate
      rw [(arrived_of_some (stm_of_state hstate (by decide))).2]
      exact hnew hstate
    exact settle_rests (onWriteReady_holds harrived hnew' hselect hcall)
      ((onWriteReady_frame hselect hcall).closed.trans hopen')
  · by_cases hstate : s.state = .request
    · exact block_request_tracks hs hopen hstate hnew
    · refine .of_rests (fun hdials => hstate hdials.2.1) ?_
      intro t ht
      obtain ⟨-, callback, r, u, hselect, -, -, -⟩ := step_block_ok ht
      generalize s.state = st at hselect hstate
      rcases st <;> cases hselect
      exact absurd rfl hstate
  · refine .of_rests id ?_
    intro t ht
    obtain ⟨-, rfl⟩ := step_resolved_ok_iff.mp ht
    exact .inl ⟨hopen, (Calm.of_same rfl rfl : Calm s _).holds hs⟩
  · refine .of_rests id ?_
    intro t ht
    obtain ⟨-, rfl⟩ := step_connectFinished_ok_iff.mp ht
    refine .inl ⟨hopen, ?_⟩
    have hcalm : Calm s (s.act (.connectFinished s.conn.originFd errno)) :=
      ⟨rfl, openOrigins_act _⟩
    exact hcalm.holds hs

end Step

/-! ## Whole lives -/

/-- Where `socket` returns descriptors that are not open, a connection never has
an origin socket open besides the one in `origin_fd`, and none after teardown,
exactly in the runs in which REQUEST dials only while `origin_fd` is empty. -/
theorem origin_sockets_kept_iff {bufferSize : ℕ} {sel : FdSelector FdHandler ℕ}
    {metrics : MetricSnapshot} {a : Accepted} {s : Session}
    (haccept : socksv5PassiveAccept bufferSize sel metrics a = some s) {es : List Event}
    (hkernel : Steps step NewAt s es) :
    Always step OriginsKept s es ↔ Steps step DialsFree s es := by
  obtain ⟨-, hs⟩ := passiveAccept_eq haccept
  have hholds : Holds s := by
    rw [hs]
    rfl
  have hopen : s.conn.closed = false := by
    rw [hs]
    rfl
  refine always_iff_steps_of_admissible
    (I := fun s => OriginsKept s → Rests s) ?_ (fun _ => .inl ⟨hopen, hholds⟩) hkernel
    (Rests.kept (.inl ⟨hopen, hholds⟩))
  intro s e hinvariant hnew hkept
  rcases hinvariant hkept with ⟨hopen, hholds⟩ | ⟨hclosed, -⟩
  · obtain ⟨hfree, hleft⟩ := step_tracks hholds hopen hnew
    by_cases hdials : DialsFree s e
    · exact ⟨fun t ht _ => hfree hdials t ht,
        iff_of_true (fun t ht => (hfree hdials t ht).kept) hdials⟩
    · obtain ⟨t, ht, hleaks⟩ := hleft hdials
      refine ⟨?_, iff_of_false (fun hall => hleaks.not_kept (hall t ht)) hdials⟩
      intro u hu hkept'
      rw [ht] at hu
      rw [← Except.ok.inj hu] at hkept'
      exact absurd hkept' hleaks.not_kept
  · have hfault : ∀ t, step s e ≠ .ok t := by
      intro t ht
      rw [step_of_closed hclosed] at ht
      cases ht
    refine ⟨fun t ht => absurd ht (hfault t), iff_of_true (fun t ht => absurd ht (hfault t)) ?_⟩
    intro hdials
    have hopen : s.conn.closed = false := by
      rcases e with _ | _ | _ | _ | _ <;> first | exact hdials.1 | exact hdials.elim
    rw [hopen] at hclosed
    cases hclosed

/-- A second server that refuses, on a socket of its own. -/
def refusingAgain : Env :=
  { refusingServer with attempts := fun _ => ⟨6, true, .error econnrefused, true⟩ }

/-- The client is refused, gets its reply and asks again. -/
def twoRequests : List Event :=
  greetingExchange ++ [.read 4 refusingServer] ++ [.write 4 (sends 10)] ++ [.read 4 refusingAgain]

theorem newAt_of_state {s : Session} (h : s.state ≠ .request ∧ s.state ≠ .connect) {e : Event} :
    NewAt s e := by
  rcases e with _ | _ | _ | _ | _
  · exact fun hst => absurd hst h.1
  · exact fun hst => absurd hst h.2
  · exact fun hst => absurd hst h.1
  · exact trivial
  · exact trivial

theorem greetingExchange_new : Steps step NewAt firstSession greetingExchange := by
  have hgreeting : Steps step NewAt firstSession [.read 4 (receives [0x05, 0x01, 0x00])] :=
    Steps.single (newAt_of_state (by decide +kernel))
  exact steps_firstSession hgreeting (by decide +kernel) (newAt_of_state (by decide +kernel))

theorem refused_new :
    Steps step NewAt firstSession (greetingExchange ++ [.read 4 refusingServer]) := by
  refine steps_firstSession greetingExchange_new (by decide +kernel) ?_
  have hnew : (5 : ℤ) ∉ openOrigins (firstSessionAfter greetingExchange) := by decide +kernel
  exact fun _ _ => hnew

/-- The socket of the first request is still open when the second one has its
own. -/
theorem twoRequests_leak :
    ∃ s, socksv5PassiveAccept bufferSizeDefault emptySelector metricsInit firstClient = some s ∧
      Steps step Enabled s twoRequests ∧ Steps step NewAt s twoRequests ∧
      ¬ Always step OriginsKept s twoRequests := by
  refine ⟨firstSession, firstSession_accepted, by decide +kernel, ?_, ?_⟩
  · refine steps_firstSession (steps_firstSession refused_new (by decide +kernel) ?_)
      (by decide +kernel) ?_
    · exact newAt_of_state (by decide +kernel)
    · have hnew : (6 : ℤ) ∉ openOrigins (firstSessionAfter
          (greetingExchange ++ [.read 4 refusingServer] ++ [.write 4 (sends 10)])) := by
        decide +kernel
      exact fun _ _ => hnew
  · intro halways
    have hkept := halways.last (run_firstSession (by decide +kernel))
    have hopened : openOrigins (firstSessionAfter twoRequests) = [6, 5] := by decide +kernel
    have horigin : (firstSessionAfter twoRequests).conn.originFd = 6 := by decide +kernel
    have hfive := hkept.current 5 (by rw [hopened]; decide)
    rw [horigin] at hfive
    exact absurd hfive (by decide)

/-- One request leaks nothing. -/
theorem origin_sockets_kept_iff_refused :
    Always step OriginsKept firstSession (greetingExchange ++ [.read 4 refusingServer]) := by
  refine (origin_sockets_kept_iff firstSession_accepted refused_new).mpr ?_
  have hgreeting : Steps step DialsFree firstSession [.read 4 (receives [0x05, 0x01, 0x00])] :=
    Steps.single fun hdials => absurd hdials.2.1 (by decide +kernel)
  refine steps_firstSession (steps_firstSession hgreeting (by decide +kernel) ?_)
    (by decide +kernel) ?_
  · exact fun hdials => hdials.elim
  · have hfree : (firstSessionAfter greetingExchange).conn.originFd = -1 := by decide +kernel
    exact fun _ => hfree

end Socks5Proxy

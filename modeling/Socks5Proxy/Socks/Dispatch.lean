import Socks5Proxy.Socks.StateMachine
import Socks5Proxy.Socks.Trace

/-!
# One event, seen from the state it finds

`step` runs the callback of the current state, jumps, and tears the connection
down if the callback returned DONE or ERROR.  The inversion lemmas here say
this once; an invariant then looks at one callback at a time.
-/

namespace Socks5Proxy

namespace Session

/-- The current state; before the first event the initial one. -/
def state (s : Session) : SocksV5State := s.conn.stm.getD .greeting

/-- The session a callback runs in: the first event arrives in GREETING. -/
def arrived (s : Session) : Session :=
  match s.conn.stm with
  | none => greetingArrival s
  | some _ => s

end Session

theorem arrived_of_some {s : Session} {st : SocksV5State} (hstm : s.conn.stm = some st) :
    s.state = st ∧ s.arrived = s := by
  simp [Session.state, Session.arrived, hstm]

theorem stm_of_state {s : Session} {st : SocksV5State} (h : s.state = st)
    (hne : st ≠ .greeting) : s.conn.stm = some st := by
  cases hstm : s.conn.stm with
  | none =>
      rw [Session.state, hstm] at h
      exact absurd h.symm hne
  | some st' =>
      rw [Session.state, hstm] at h
      rw [← h]
      rfl

/-! ## Teardown -/

/-- What `socksv5_done` leaves when `socks5_destroy` returns. -/
def teardown (env : Env) (key : SelectorKey) (s : Session) : Session :=
  if s.conn.closed then
    s
  else
    let s := { s with conn.closed := true }
    let s := releaseFd env key s.conn.originFd s
    let s := releaseFd env key s.conn.clientFd s
    s.act .free

/-- What `socks5_destroy` goes by. -/
def Socks5.resolution (c : Socks5) : List SockAddr × Bool × UInt8 :=
  (c.originResolution, c.resolvedByName, c.atyp)

theorem mistaken_congr {c c' : Socks5} (h : c'.resolution = c.resolution) :
    c'.Mistaken ↔ c.Mistaken := by
  obtain ⟨hlist, hrest⟩ := Prod.mk.inj h
  obtain ⟨hname, hatyp⟩ := Prod.mk.inj hrest
  rw [Socks5.Mistaken, Socks5.Mistaken, hlist, hname, hatyp]

section Teardown

variable {env : Env} {key : SelectorKey} {s : Session} {st next : SocksV5State}

/-- The one departure callback only logs. -/
theorem departure_eq : callIfSome (socks5States env key st).onDeparture s = s := by
  cases st <;> rfl

/-- `handle_close` counts the connection as closed before it goes on. -/
theorem closeWith_eq {σ : Type} (finish : Session → σ) (env : Env) (key : SelectorKey)
    (s : Session) :
    closeWith finish env key s =
      finish { s with metrics := registerConnectionClosed s.metrics } := by
  unfold closeWith stmHandlerClose
  rcases s.conn.stm with _ | st
  · rfl
  · dsimp only
    rw [departure_eq]

theorem conn_releaseFd {fd : ℤ} : (releaseFd env key fd s).conn = s.conn := by
  unfold releaseFd
  split_ifs
  · change (unregisterFd (closeWith id env { key with fd := fd }) s fd).conn = s.conn
    unfold unregisterFd
    rw [closeWith_eq]
    split_ifs <;> rfl
  · rfl

/-- Teardown ends unless the record misleads `socks5_destroy`. -/
theorem socksv5Done_eq (env : Env) (key : SelectorKey) (s : Session) :
    socksv5Done env key s =
      if s.conn.closed = false ∧ s.conn.Mistaken then .error .invalidFree
      else .ok (teardown env key s) := by
  unfold socksv5Done teardown
  rcases hclosed : s.conn.closed with _ | _
  · rw [if_neg Bool.false_ne_true, if_neg Bool.false_ne_true]
    dsimp only
    generalize hv : releaseFd env key s.conn.originFd { s with conn.closed := true } = v
    generalize hw : releaseFd env key v.conn.clientFd v = w
    have hmistaken : w.conn.Mistaken ↔ s.conn.Mistaken := by
      rw [← hw, conn_releaseFd, ← hv, conn_releaseFd]
      exact Iff.rfl
    unfold socks5Destroy
    by_cases h : s.conn.Mistaken
    · rw [if_pos (hmistaken.mpr h), if_pos ⟨rfl, h⟩]
    · rw [if_neg (mt hmistaken.mp h), if_neg fun hboth => h hboth.2]
  · rw [if_pos rfl, if_pos rfl, if_neg fun hboth => Bool.noConfusion hboth.1]

end Teardown

/-! ## The end of an event -/

/-- What follows a callback that returned `r`, when teardown ends. -/
def settle (env : Env) (key : SelectorKey) (st : SocksV5State) (r : Session × SocksV5State) :
    Session :=
  let s := { jump (socks5States env key) st r.2 r.1 with conn.stm := some r.2 }
  if r.2 = .error ∨ r.2 = .done then teardown env key s else s

/-- The callback has ended the connection, and teardown does not end. -/
def Aborts (r : Session × SocksV5State) : Prop :=
  (r.2 = .error ∨ r.2 = .done) ∧ r.1.conn.closed = false ∧ r.1.conn.Mistaken

instance (r : Session × SocksV5State) : Decidable (Aborts r) :=
  inferInstanceAs (Decidable (_ ∧ _ ∧ _))

/-- What follows a callback that returned `r`. -/
def finish (env : Env) (key : SelectorKey) (st : SocksV5State) (r : Session × SocksV5State) :
    Except Fault Session :=
  if Aborts r then .error .invalidFree else .ok (settle env key st r)

section Finish

variable {env : Env} {key : SelectorKey} {t : Session} {st next : SocksV5State}
  {r : Session × SocksV5State}

theorem jump_of_stop {s : Session} (hst : next = .error ∨ next = .done) :
    jump (socks5States env key) st next s = s := by
  unfold jump
  split
  · rw [departure_eq]
    rcases hst with hst | hst <;> rw [hst] <;> rfl
  · rfl

theorem finish_eq (env : Env) (key : SelectorKey) (st : SocksV5State)
    (r : Session × SocksV5State) :
    finish env key st r =
      let s := { jump (socks5States env key) st r.2 r.1 with conn.stm := some r.2 }
      if r.2 = .error ∨ r.2 = .done then socksv5Done env key s else .ok s := by
  obtain ⟨u, next⟩ := r
  unfold finish settle Aborts
  dsimp only
  by_cases hst : next = .error ∨ next = .done
  · have hmistaken : ({ u with conn.stm := some next } : Session).conn.Mistaken ↔
        u.conn.Mistaken := Iff.rfl
    rw [jump_of_stop hst, if_pos hst, if_pos hst, socksv5Done_eq]
    simp only [hmistaken, hst, true_and]
  · simp only [hst, false_and, if_false]

theorem finish_ok_iff : finish env key st r = .ok t ↔ ¬ Aborts r ∧ t = settle env key st r := by
  unfold finish
  split_ifs with haborts
  · simp [haborts]
  · simp [haborts, eq_comm]

theorem finish_error_iff {fault : Fault} :
    finish env key st r = .error fault ↔ Aborts r ∧ fault = .invalidFree := by
  unfold finish
  split_ifs with haborts
  · simp [haborts, eq_comm]
  · simp [haborts]

theorem finish_cases (env : Env) (key : SelectorKey) (st : SocksV5State)
    (r : Session × SocksV5State) :
    finish env key st r = .error .invalidFree ∨
      finish env key st r = .ok (settle env key st r) := by
  unfold finish
  split_ifs
  · exact .inl rfl
  · exact .inr rfl

theorem not_aborts_of_live (herror : next ≠ .error) (hdone : next ≠ .done) :
    ¬ Aborts (t, next) :=
  fun haborts => haborts.1.elim herror hdone

/-- A callback that does not stop leaves nothing to tear down. -/
theorem finish_live (herror : next ≠ .error) (hdone : next ≠ .done) :
    finish env key st (t, next) = .ok (settle env key st (t, next)) :=
  if_neg (not_aborts_of_live herror hdone)

end Finish

section Inversion

variable {env : Env} {key : SelectorKey} {s t : Session} {fd : ℤ}
  {select : StateDefinition Session SocksV5State →
    Option (Session → Except Fault (Session × SocksV5State))}

theorem handleFirst_socks5States :
    handleFirst (socks5States env key) .greeting s.conn.stm s = (s.state, s.arrived) := by
  unfold handleFirst Session.state Session.arrived
  cases s.conn.stm <;> rfl

theorem dispatch_of_callback {callback : Session → Except Fault (Session × SocksV5State)}
    {r : Session × SocksV5State} (hselect : select (socks5States env key s.state) = some callback)
    (hcall : callback s.arrived = .ok r) :
    dispatch (stmHandler select) env key s = finish env key s.state r := by
  have hok : stmHandler select (socks5States env key) .greeting s.conn.stm s =
      .ok (jump (socks5States env key) s.state r.2 r.1, r.2) := by
    rw [stmHandler_eq_ok_iff, handleFirst_socks5States]
    exact ⟨callback, r.1, hselect, hcall, rfl⟩
  rw [dispatch, hok, finish_eq]

/-- A dispatch that does not fault ran the callback of the current state. -/
theorem dispatch_ok_iff :
    dispatch (stmHandler select) env key s = .ok t ↔
      ∃ callback r, select (socks5States env key s.state) = some callback ∧
        callback s.arrived = .ok r ∧ ¬ Aborts r ∧ t = settle env key s.state r := by
  constructor
  · intro h
    cases hstm : stmHandler select (socks5States env key) .greeting s.conn.stm s with
    | error fault =>
        rw [dispatch, hstm] at h
        cases h
    | ok r =>
        obtain ⟨u, st⟩ := r
        rw [stmHandler_eq_ok_iff, handleFirst_socks5States] at hstm
        obtain ⟨callback, v, hselect, hcall, -⟩ := hstm
        rw [dispatch_of_callback hselect hcall, finish_ok_iff] at h
        exact ⟨callback, (v, st), hselect, hcall, h⟩
  · rintro ⟨callback, r, hselect, hcall, hends⟩
    rw [dispatch_of_callback hselect hcall, finish_ok_iff]
    exact hends

theorem step_read_ok_iff :
    step s (.read fd env) = .ok t ↔
      s.conn.closed = false ∧
        ∃ callback r, (socks5States env ⟨fd, s.address⟩ s.state).onReadReady = some callback ∧
          callback s.arrived = .ok r ∧ ¬ Aborts r ∧
          t = settle env ⟨fd, s.address⟩ s.state r := by
  unfold step
  cases s.conn.closed with
  | true => simp
  | false =>
      simp only [Bool.false_eq_true, if_false, true_and]
      exact dispatch_ok_iff

theorem step_write_ok_iff :
    step s (.write fd env) = .ok t ↔
      s.conn.closed = false ∧
        ∃ callback r, (socks5States env ⟨fd, s.address⟩ s.state).onWriteReady = some callback ∧
          callback s.arrived = .ok r ∧ ¬ Aborts r ∧
          t = settle env ⟨fd, s.address⟩ s.state r := by
  unfold step
  cases s.conn.closed with
  | true => simp
  | false =>
      simp only [Bool.false_eq_true, if_false, true_and]
      exact dispatch_ok_iff

theorem step_block_ok_iff :
    step s (.block fd env) = .ok t ↔
      s.conn.closed = false ∧
        ∃ callback r u, (socks5States env ⟨fd, s.address⟩ s.state).onBlockReady =
            some callback ∧
          callback s.arrived = .ok r ∧ (¬ Aborts r ∧ u = settle env ⟨fd, s.address⟩ s.state r) ∧
          t = { u with sel.resolutionJobs := u.sel.resolutionJobs.erase fd } := by
  unfold step
  cases s.conn.closed with
  | true => simp
  | false =>
      simp only [Bool.false_eq_true, if_false, true_and, stepOpen]
      cases hblock : socksv5Block env ⟨fd, s.address⟩ s with
      | error fault =>
          refine iff_of_false (by simp [Except.map]) ?_
          rintro ⟨callback, r, u, hselect, hcall, hu, -⟩
          have hok : socksv5Block env ⟨fd, s.address⟩ s = .ok u :=
            dispatch_ok_iff.mpr ⟨callback, r, hselect, hcall, hu⟩
          rw [hblock] at hok
          cases hok
      | ok v =>
          obtain ⟨callback, r, hselect, hcall, hends, hv⟩ := dispatch_ok_iff.mp hblock
          simp only [Except.map, Except.ok.injEq]
          constructor
          · intro ht
            exact ⟨callback, r, v, hselect, hcall, ⟨hends, hv⟩, ht.symm⟩
          · rintro ⟨callback', r', u, hselect', hcall', ⟨-, hu⟩, rfl⟩
            rw [hselect, Option.some.injEq] at hselect'
            subst hselect'
            rw [hcall, Except.ok.injEq] at hcall'
            subst hcall'
            rw [hv, hu]

/-- What a read event that did not fault has done. -/
theorem step_read_ok (h : step s (.read fd env) = .ok t) :
    s.conn.closed = false ∧
      ∃ callback r, (socks5States env ⟨fd, s.address⟩ s.state).onReadReady = some callback ∧
        callback s.arrived = .ok r ∧ t = settle env ⟨fd, s.address⟩ s.state r := by
  obtain ⟨hopen, callback, r, hselect, hcall, -, ht⟩ := step_read_ok_iff.mp h
  exact ⟨hopen, callback, r, hselect, hcall, ht⟩

theorem step_write_ok (h : step s (.write fd env) = .ok t) :
    s.conn.closed = false ∧
      ∃ callback r, (socks5States env ⟨fd, s.address⟩ s.state).onWriteReady = some callback ∧
        callback s.arrived = .ok r ∧ t = settle env ⟨fd, s.address⟩ s.state r := by
  obtain ⟨hopen, callback, r, hselect, hcall, -, ht⟩ := step_write_ok_iff.mp h
  exact ⟨hopen, callback, r, hselect, hcall, ht⟩

theorem step_block_ok (h : step s (.block fd env) = .ok t) :
    s.conn.closed = false ∧
      ∃ callback r u, (socks5States env ⟨fd, s.address⟩ s.state).onBlockReady = some callback ∧
        callback s.arrived = .ok r ∧ u = settle env ⟨fd, s.address⟩ s.state r ∧
        t = { u with sel.resolutionJobs := u.sel.resolutionJobs.erase fd } := by
  obtain ⟨hopen, callback, r, u, hselect, hcall, ⟨-, hu⟩, ht⟩ := step_block_ok_iff.mp h
  exact ⟨hopen, callback, r, u, hselect, hcall, hu, ht⟩

theorem step_resolved_ok_iff {result : List SockAddr} :
    step s (.resolved result) = .ok t ↔
      s.conn.closed = false ∧ t = resolveFqdnBlocking result s := by
  unfold step
  cases s.conn.closed with
  | true => simp
  | false => simp [stepOpen, eq_comm]

theorem step_connectFinished_ok_iff {errno : ℤ} :
    step s (.connectFinished errno) = .ok t ↔
      s.conn.closed = false ∧ t = s.act (.connectFinished s.conn.originFd errno) := by
  unfold step
  cases s.conn.closed with
  | true => simp
  | false => simp [stepOpen, eq_comm]

theorem step_of_closed {e : Event} (hclosed : s.conn.closed = true) :
    step s e = .error .useAfterFree := if_pos hclosed

end Inversion

/-! ## The event of one state -/

section Handlers

variable {env : Env} {s t : Session} {fd : ℤ} {st : SocksV5State} {r : Session × SocksV5State}
  {callback : Session → Except Fault (Session × SocksV5State)}

/-- A read event of an open connection whose callback has returned `r`. -/
theorem step_read_eq (hstate : s.state = st) (hopen : s.conn.closed = false)
    (hselect : (socks5States env ⟨fd, s.address⟩ st).onReadReady = some callback)
    (hcall : callback s.arrived = .ok r) :
    step s (.read fd env) = finish env ⟨fd, s.address⟩ st r := by
  subst hstate
  rw [step, hopen]
  exact dispatch_of_callback hselect hcall

theorem step_write_eq (hstate : s.state = st) (hopen : s.conn.closed = false)
    (hselect : (socks5States env ⟨fd, s.address⟩ st).onWriteReady = some callback)
    (hcall : callback s.arrived = .ok r) :
    step s (.write fd env) = finish env ⟨fd, s.address⟩ st r := by
  subst hstate
  rw [step, hopen]
  exact dispatch_of_callback hselect hcall

theorem step_read_greeting (hstate : s.state = .greeting) (hopen : s.conn.closed = false)
    (fd : ℤ) (env : Env) :
    step s (.read fd env) = finish env ⟨fd, s.address⟩ .greeting
      (greetingRead env ⟨fd, s.address⟩ s.arrived) :=
  step_read_eq hstate hopen rfl rfl

theorem step_write_greeting (hstm : s.conn.stm = some .greeting) (hopen : s.conn.closed = false)
    (fd : ℤ) (env : Env) :
    step s (.write fd env) = finish env ⟨fd, s.address⟩ .greeting
      (greetingWrite env ⟨fd, s.address⟩ s) := by
  obtain ⟨hstate, harrived⟩ := arrived_of_some hstm
  rw [step_write_eq hstate hopen rfl rfl, harrived]

theorem step_read_auth (hstate : s.state = .auth) (hopen : s.conn.closed = false) (fd : ℤ)
    (env : Env) :
    step s (.read fd env) =
      finish env ⟨fd, s.address⟩ .auth (authRead env ⟨fd, s.address⟩ s) := by
  obtain ⟨-, harrived⟩ := arrived_of_some (stm_of_state hstate (by decide))
  rw [step_read_eq hstate hopen rfl rfl, harrived]

theorem step_read_request (hstate : s.state = .request) (hopen : s.conn.closed = false)
    (hcall : requestRead env ⟨fd, s.address⟩ s = .ok r) :
    step s (.read fd env) = finish env ⟨fd, s.address⟩ .request r := by
  obtain ⟨-, harrived⟩ := arrived_of_some (stm_of_state hstate (by decide))
  refine step_read_eq hstate hopen rfl ?_
  rw [harrived]
  exact hcall

theorem step_write_connect (hstate : s.state = .connect) (hopen : s.conn.closed = false)
    (hcall : connectWrite env ⟨fd, s.address⟩ s = .ok r) :
    step s (.write fd env) = finish env ⟨fd, s.address⟩ .connect r := by
  obtain ⟨-, harrived⟩ := arrived_of_some (stm_of_state hstate (by decide))
  refine step_write_eq hstate hopen rfl ?_
  rw [harrived]
  exact hcall

theorem step_read_request_iff (hstate : s.state = .request) (hopen : s.conn.closed = false) :
    step s (.read fd env) = .ok t ↔
      ∃ r, requestRead env ⟨fd, s.address⟩ s = .ok r ∧ ¬ Aborts r ∧
        t = settle env ⟨fd, s.address⟩ .request r := by
  obtain ⟨-, harrived⟩ := arrived_of_some (stm_of_state hstate (by decide))
  constructor
  · intro h
    obtain ⟨-, callback, r, hselect, hcall, hends⟩ := step_read_ok_iff.mp h
    rw [hstate] at hselect hends
    cases hselect
    rw [harrived] at hcall
    exact ⟨r, hcall, hends⟩
  · rintro ⟨r, hcall, hends⟩
    rw [step_read_request hstate hopen hcall, finish_ok_iff]
    exact hends

theorem step_write_reply (hstate : s.state = .reply) (hopen : s.conn.closed = false) (fd : ℤ)
    (env : Env) :
    step s (.write fd env) = finish env ⟨fd, s.address⟩ .reply (replyWrite env s) := by
  obtain ⟨-, harrived⟩ := arrived_of_some (stm_of_state hstate (by decide))
  rw [step_write_eq hstate hopen rfl rfl, harrived]

end Handlers

end Socks5Proxy

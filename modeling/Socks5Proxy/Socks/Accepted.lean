import Socks5Proxy.Socks.Frame

/-!
# The session `socksv5_passive_accept` starts

What the server promises about the connection it has just accepted, and how
`settle` ends an event in the cases that recur.
-/

namespace Socks5Proxy

open Library

/-- The registration of a new connection: the selector's table has its full
size, as `main` asks for, and no registration carries the new record. -/
structure Fresh (sel : FdSelector FdHandler ℕ) (a : Accepted) : Prop where
  table : fdSetsize < sel.fds.length
  unused : ∀ fd, sel.dataOf fd ≠ some a.address

section Accepted

variable {bufferSize : ℕ} {sel : FdSelector FdHandler ℕ} {metrics : MetricSnapshot}
  {a : Accepted} {s : Session}

theorem selectorRegister_valid {fd : ℤ} {handler : Option FdHandler} {i : FdInterest}
    {data : Option ℕ} {alloc : Bool}
    (h : (selectorRegister sel fd handler i data alloc).2 = .success) :
    invalidFd fd = false := by
  cases hfd : invalidFd fd with
  | false => rfl
  | true => simp [selectorRegister, hfd] at h

/-- The registration behind a session that was started. -/
theorem passiveAccept_eq (h : socksv5PassiveAccept bufferSize sel metrics a = some s) :
    (selectorRegister sel a.clientFd (some .socks5Handler) .opRead (some a.address)
        a.alloc).2 = .success ∧
      s =
        { sel := (selectorRegister sel a.clientFd (some .socks5Handler) .opRead
            (some a.address) a.alloc).1
          address := a.address
          conn := socks5New a.raw a.clientFd bufferSize
          metrics := registerNewConnection metrics
          resolvers := 0
          log := [] } := by
  unfold socksv5PassiveAccept at h
  split at h
  · next hregister =>
      rw [hregister]
      exact ⟨rfl, (Option.some.inj h).symm⟩
  · cases h

theorem passiveAccept_toNat_lt (h : socksv5PassiveAccept bufferSize sel metrics a = some s)
    (hfresh : Fresh sel a) : a.clientFd.toNat < sel.fds.length :=
  toNat_lt_of_valid (selectorRegister_valid (passiveAccept_eq h).1) hfresh.table.le

/-- The client's descriptor is registered for reading. -/
theorem passiveAccept_interestOf (h : socksv5PassiveAccept bufferSize sel metrics a = some s)
    (hfresh : Fresh sel a) : s.interestOf s.conn.clientFd = some .opRead := by
  obtain ⟨hsuccess, rfl⟩ := passiveAccept_eq h
  rw [Session.interestOf, interestOf_selectorRegister (passiveAccept_toNat_lt h hfresh),
    hsuccess]
  exact if_pos ⟨rfl, rfl⟩

/-- It is the only descriptor registered with the connection. -/
theorem passiveAccept_dataOf_iff (h : socksv5PassiveAccept bufferSize sel metrics a = some s)
    (hfresh : Fresh sel a) {fd : ℤ} :
    s.sel.dataOf fd = some s.address ↔ fd = s.conn.clientFd := by
  obtain ⟨hsuccess, rfl⟩ := passiveAccept_eq h
  rw [dataOf_selectorRegister (passiveAccept_toNat_lt h hfresh), hsuccess]
  by_cases hfd : fd = a.clientFd
  · simp [hfd, socks5New]
  · have hunused := hfresh.unused fd
    simp [hfd, socks5New, hunused]

/-- Accepting succeeds on a valid descriptor that is not registered. -/
theorem passiveAccept_isSome (hfresh : Fresh sel a) (hfd : invalidFd a.clientFd = false)
    (hfree : sel.interestOf a.clientFd = none) :
    ∃ s, socksv5PassiveAccept bufferSize sel metrics a = some s := by
  have hlen : a.clientFd.toNat < sel.fds.length := toNat_lt_of_valid hfd hfresh.table.le
  have hsuccess := selectorRegister_success (i := .opRead)
    FdHandler.socks5Handler (some a.address) a.alloc hlen hfd hfree
  unfold socksv5PassiveAccept
  generalize selectorRegister sel a.clientFd (some .socks5Handler) .opRead (some a.address)
    a.alloc = r at hsuccess ⊢
  obtain ⟨sel', status⟩ := r
  cases hsuccess
  exact ⟨_, rfl⟩

end Accepted

/-! ### A server that has just started -/

/-- A client on descriptor 4. -/
def firstClient : Accepted :=
  { clientFd := 4
    raw := default
    address := 1
    alloc := true }

theorem firstClient_fresh : Fresh emptySelector firstClient where
  table := by
    rw [emptySelector, List.length_replicate, nextCapacity_fdSetsize]
    exact Nat.lt_succ_self _
  unused := fun fd => by
    rw [FdSelector.dataOf, emptySelector_item]
    simp [Item.used, Item.blank]

theorem firstClient_accepted (bufferSize : ℕ) :
    ∃ s, socksv5PassiveAccept bufferSize emptySelector metricsInit firstClient = some s := by
  refine passiveAccept_isSome firstClient_fresh (by decide) ?_
  rw [FdSelector.interestOf, emptySelector_item]
  simp [Item.used, Item.blank]

def firstSession : Session :=
  (socksv5PassiveAccept bufferSizeDefault emptySelector metricsInit firstClient).getD default

theorem firstSession_accepted :
    socksv5PassiveAccept bufferSizeDefault emptySelector metricsInit firstClient =
      some firstSession := by
  obtain ⟨s, hs⟩ := firstClient_accepted bufferSizeDefault
  rw [firstSession, hs, Option.getD_some]

/-- Where the first client's session is after these events. -/
def firstSessionAfter (es : List Event) : Session :=
  (run step firstSession es).toOption.getD default

theorem run_firstSession {es : List Event}
    (h : (run step firstSession es).toOption.isSome = true) :
    run step firstSession es = .ok (firstSessionAfter es) := by
  unfold firstSessionAfter
  cases hrun : run step firstSession es with
  | ok t => rfl
  | error fault =>
      rw [hrun] at h
      cases h

theorem step_firstSession {es : List Event} {e : Event}
    (h : (run step firstSession (es ++ [e])).toOption.isSome = true) :
    step (firstSessionAfter es) e = .ok (firstSessionAfter (es ++ [e])) := by
  obtain ⟨t, ht, hlast⟩ := run_append_ok_iff.mp (run_firstSession h)
  obtain ⟨u, hu, hend⟩ := run_cons_ok_iff.mp hlast
  rw [run_nil, Except.ok.injEq] at hend
  have hafter : firstSessionAfter es = t := by
    rw [firstSessionAfter, ht]
    rfl
  rw [hafter, hu, hend]

/-- The steps of a run, one event at a time. -/
theorem steps_firstSession {P : Session → Event → Prop} {es : List Event} {e : Event}
    (hes : Steps step P firstSession es)
    (hrun : (run step firstSession es).toOption.isSome = true)
    (he : P (firstSessionAfter es) e) : Steps step P firstSession (es ++ [e]) :=
  hes.append (run_firstSession hrun) ⟨he, fun _ _ => trivial⟩

/-- A greeting without authentication, its answer, and the state REQUEST. -/
def greetingExchange : List Event :=
  [.read 4 (receives [0x05, 0x01, 0x00]), .write 4 (sends 2)]

/-- A kernel that has this segment to deliver to a fresh server. -/
def loginSegment (bytes : List UInt8) : Env := { receives bytes with users := usersInit }

/-- The greeting `05 01 02`, the credentials of the default administrator, and
their answers. -/
def adminLogin : List Event :=
  [.read 4 (receives [0x05, 0x01, 0x02]), .write 4 (sends 2),
    .read 4 (loginSegment [0x01, 5, 97, 100, 109, 105, 110, 5, 97, 100, 109, 105, 110]),
    .write 4 (sends 2)]

/-! ## The ends of an event -/

section Settle

variable {env : Env} {key : SelectorKey} {st next : SocksV5State} {s u : Session}

/-- A callback that stays in its state. -/
theorem settle_stay (herror : st ≠ .error) (hdone : st ≠ .done) :
    settle env key st (u, st) = { u with conn.stm := some st } := by
  simp [settle, herror, hdone]

/-- A callback that moves to another live state. -/
theorem settle_move (hne : st ≠ next) (herror : next ≠ .error) (hdone : next ≠ .done) :
    settle env key st (u, next) =
      { callIfSome (socks5States env key next).onArrival u with conn.stm := some next } := by
  simp [settle, herror, hdone, jump_of_ne hne, departure_eq]

/-- A callback that ends the connection. -/
theorem settle_stop (hst : next = .error ∨ next = .done) :
    settle env key st (u, next) = teardown env key { u with conn.stm := some next } := by
  have hjump : jump (socks5States env key) st next u = u := by
    unfold jump
    split
    · rw [departure_eq]
      rcases hst with hst | hst <;> rw [hst] <;> rfl
    · rfl
  simp [settle, hjump, hst]

theorem log_unregisterFd {fd : ℤ} :
    (unregisterFd (closeWith id env key) s fd).log = s.log := by
  unfold unregisterFd
  split
  · rfl
  · split
    · rfl
    · dsimp only
      split
      · unfold closeWith stmHandlerClose
        cases s.conn.stm with
        | none => rfl
        | some st =>
            dsimp only
            rw [departure_eq]
            rfl
      · rfl

theorem releaseFd_log {fd : ℤ} :
    (releaseFd env key fd s).log = s.log ++ if fd ≠ -1 then [.close fd] else [] := by
  unfold releaseFd
  split_ifs
  · exact congrArg (· ++ [Action.close fd]) log_unregisterFd
  · exact (List.append_nil _).symm

/-- Teardown closes descriptors and frees the record; it makes no other call. -/
theorem teardown_log_eq (env : Env) (key : SelectorKey) (s : Session) :
    ∃ log, (teardown env key s).log = s.log ++ log ∧
      ∀ action ∈ log, action = .free ∨ ∃ fd, action = .close fd := by
  unfold teardown
  split
  · exact ⟨[], (List.append_nil _).symm, by simp⟩
  · dsimp only [Session.act]
    rw [releaseFd_log, releaseFd_log, List.append_assoc, List.append_assoc]
    refine ⟨_, rfl, ?_⟩
    intro action haction
    split_ifs at haction <;> simp at haction <;> tauto

theorem teardown_log :
    ∀ action ∈ (teardown env key s).log,
      action ∈ s.log ∨ action = .free ∨ ∃ fd, action = .close fd := by
  obtain ⟨log, hlog, hall⟩ := teardown_log_eq env key s
  intro action haction
  rw [hlog] at haction
  rcases List.mem_append.mp haction with hold | hnew
  · exact .inl hold
  · exact .inr (hall action hnew)

theorem teardown_closed : (teardown env key s).conn.closed = true := by
  unfold teardown
  split
  · assumption
  · exact (releaseFd_frame.trans releaseFd_frame).closed

theorem teardown_stm : (teardown env key s).conn.stm = s.conn.stm := by
  unfold teardown
  split
  · rfl
  · exact (releaseFd_frame.trans releaseFd_frame).stm

theorem settle_stm {r : Session × SocksV5State} :
    (settle env key st r).conn.stm = some r.2 := by
  unfold settle
  dsimp only
  split
  · exact teardown_stm
  · rfl

end Settle

end Socks5Proxy

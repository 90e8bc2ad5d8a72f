import Socks5Proxy.Pam.AuthReading
import Socks5Proxy.Socks.Accepted

/-!
# The session `pam_passive_accept` starts

What the server promises about the management connection it has just accepted.
-/

namespace Socks5Proxy

open Library

/-- The registration of a new connection: the selector's table has its full
size, as `main` asks for, and no registration carries the new record. -/
structure PamFresh (sel : FdSelector FdHandler ℕ) (a : PamAccepted) : Prop where
  table : fdSetsize < sel.fds.length
  unused : ∀ fd, sel.dataOf fd ≠ some a.address

section Accepted

variable {sel : FdSelector FdHandler ℕ} {users : UserStore} {metrics : MetricSnapshot}
  {a : PamAccepted} {s : PamSession}

/-- The registration behind a session that was started. -/
theorem pamPassiveAccept_eq (h : pamPassiveAccept sel users metrics a = some s) :
    (selectorRegister sel a.clientFd (some .pamHandler) .opRead (some a.address)
        a.alloc).2 = .success ∧
      s =
        { sel := (selectorRegister sel a.clientFd (some .pamHandler) .opRead
            (some a.address) a.alloc).1
          address := a.address
          conn := pamNew a.raw a.clientFd
          users := users
          metrics := metrics
          freed := false
          log := [] } := by
  unfold pamPassiveAccept at h
  split at h
  · next hregister =>
      rw [hregister]
      exact ⟨rfl, (Option.some.inj h).symm⟩
  · cases h

theorem pamPassiveAccept_toNat_lt (h : pamPassiveAccept sel users metrics a = some s)
    (hfresh : PamFresh sel a) : a.clientFd.toNat < sel.fds.length := by
  have hvalid := selectorRegister_valid (pamPassiveAccept_eq h).1
  have htable := hfresh.table
  rw [invalidFd_eq_false_iff] at hvalid
  omega

/-- The client's descriptor is registered for reading. -/
theorem pamPassiveAccept_interestOf (h : pamPassiveAccept sel users metrics a = some s)
    (hfresh : PamFresh sel a) : s.sel.interestOf s.conn.clientFd = some .opRead := by
  obtain ⟨hsuccess, rfl⟩ := pamPassiveAccept_eq h
  rw [interestOf_selectorRegister (pamPassiveAccept_toNat_lt h hfresh), hsuccess]
  exact if_pos ⟨rfl, rfl⟩

theorem pamPassiveAccept_registered (h : pamPassiveAccept sel users metrics a = some s)
    (hfresh : PamFresh sel a) : PamRegistered s := by
  have hlen := pamPassiveAccept_toNat_lt h hfresh
  obtain ⟨hsuccess, rfl⟩ := pamPassiveAccept_eq h
  constructor
  · rw [dataOf_selectorRegister hlen, hsuccess]
    exact if_pos ⟨rfl, rfl⟩
  · intro fd hfd
    rw [dataOf_selectorRegister hlen, hsuccess] at hfd
    by_contra hne
    rw [if_neg (fun hboth => hne hboth.1)] at hfd
    exact hfresh.unused fd hfd
  · change ((selectorRegister sel a.clientFd (some .pamHandler) .opRead (some a.address)
      a.alloc).1.item a.clientFd).handler = some .pamHandler
    rw [item_selectorRegister_self hlen hsuccess]

/-- Accepting succeeds on a valid descriptor that is not registered. -/
theorem pamPassiveAccept_isSome (hfresh : PamFresh sel a) (hfd : invalidFd a.clientFd = false)
    (hfree : sel.interestOf a.clientFd = none) :
    ∃ s, pamPassiveAccept sel users metrics a = some s := by
  have hlen : a.clientFd.toNat < sel.fds.length := by
    have htable := hfresh.table
    rw [invalidFd_eq_false_iff] at hfd
    omega
  have hsuccess := selectorRegister_success (i := .opRead)
    FdHandler.pamHandler (some a.address) a.alloc hlen hfd hfree
  unfold pamPassiveAccept
  generalize selectorRegister sel a.clientFd (some .pamHandler) .opRead (some a.address)
    a.alloc = r at hsuccess ⊢
  obtain ⟨sel', status⟩ := r
  cases hsuccess
  exact ⟨_, rfl⟩

end Accepted

/-! ### A server that has just started -/

/-- A manager on descriptor 4. -/
def firstManager : PamAccepted :=
  { clientFd := 4
    raw := default
    address := 1
    alloc := true }

theorem firstManager_fresh (raw : Pam) :
    PamFresh emptySelector { firstManager with raw := raw } where
  table := by
    rw [emptySelector, List.length_replicate, nextCapacity_fdSetsize]
    exact Nat.lt_succ_self _
  unused := fun fd => by
    rw [FdSelector.dataOf, emptySelector_item]
    simp [Item.used, Item.blank]

theorem firstManager_accepted (raw : Pam) :
    ∃ s, pamPassiveAccept emptySelector usersInit metricsInit { firstManager with raw := raw } =
      some s := by
  refine pamPassiveAccept_isSome (firstManager_fresh raw)
    (show invalidFd 4 = false by decide) ?_
  rw [FdSelector.interestOf, emptySelector_item]
  simp [Item.used, Item.blank]

def firstManagement : PamSession :=
  (pamPassiveAccept emptySelector usersInit metricsInit firstManager).getD default

theorem firstManagement_accepted :
    pamPassiveAccept emptySelector usersInit metricsInit firstManager = some firstManagement := by
  obtain ⟨s, hs⟩ := firstManager_accepted default
  change pamPassiveAccept emptySelector usersInit metricsInit firstManager = some s at hs
  rw [firstManagement, hs, Option.getD_some]

def pamReceives (bytes : List UInt8) : PamEnv := { (default : PamEnv) with recv := some bytes }

def pamSends (k : ℕ) : PamEnv := { (default : PamEnv) with send := some k }

/-- The credentials of a manager and their answer, up to the state PAM_REQUEST. -/
def managementLogin (username password : List UInt8) : List PamEvent :=
  [.read 4 (pamReceives (pamAuthMessage username password)), .write 4 (pamSends 2)]

/-- Where the first manager's session is after these events. -/
def managementAfter (es : List PamEvent) : PamSession :=
  (run pamStep firstManagement es).toOption.getD default

theorem run_firstManagement {es : List PamEvent}
    (h : (run pamStep firstManagement es).toOption.isSome = true) :
    run pamStep firstManagement es = .ok (managementAfter es) := by
  unfold managementAfter
  rcases hrun : run pamStep firstManagement es with fault | t
  · rw [hrun] at h
    cases h
  · rfl

end Socks5Proxy

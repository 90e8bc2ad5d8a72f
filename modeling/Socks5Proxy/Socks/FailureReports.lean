import Socks5Proxy.Socks.AddressIteration
import Socks5Proxy.Socks.ConnectSuccess

/-!
# How a failed connection is reported

The last address can fail in `connect`, or later, when CONNECT asks
`getsockopt` for the outcome.  The first failure is translated by the names of
the errors, the second by numbers that are those of reply codes.
-/

namespace Socks5Proxy

open Library

/-- The reply code for an error. -/
def repOfError (errno : ℤ) : UInt8 :=
  if errno = enetunreach then networkUnreachable
  else if errno = ehostunreach then hostUnreachable
  else if errno = econnrefused then connectionRefused
  else if errno = etimedout then ttlExpired
  else serverFailure

/-- Of `n` addresses the last one fails with `errno`, and the ones before it
fail in any way. -/
structure LastFails (env : Env) (n : ℕ) (errno : ℤ) : Prop where
  before : ∀ i, i + 1 < n → (env.attempts i).Fails
  nonempty : 0 < n
  socket : (env.attempts (n - 1)).socket ≠ -1
  setNio : (env.attempts (n - 1)).setNio = true
  connect : (env.attempts (n - 1)).connect = .error errno

/-- The callback goes to REPLY with this code. -/
def Reports (result : Except Fault (Session × SocksV5State)) (rep : UInt8) : Prop :=
  ∃ t, result = .ok (t, .reply) ∧ t.conn.reply.rep = rep

/-- The error is reported by its code, whether `connect` returns it to REQUEST
or to CONNECT, or `getsockopt` does. -/
structure ReportedAlike (errno : ℤ) : Prop where
  failure : repOfError errno ≠ succeded
  request : ∀ env key s, LastFails env s.conn.originResolution.length errno →
    Reports (connectToDest env key s) (repOfError errno)
  retry : ∀ (env : Env) key (s : Session) v, sockError env s.conn.originFd = some v → v ≠ 0 →
    LastFails env (s.conn.originResolution.length - 1) errno →
    Reports (connectWrite env key s) (repOfError errno)
  late : ∀ (env : Env) key (s : Session) addr,
    sockError env s.conn.originFd = some errno → s.conn.originResolution = [addr] →
    Reports (connectWrite env key s) (repOfError errno)

/-- The errors with a reply code of their own. -/
def namedErrors : List ℤ := [enetunreach, ehostunreach, econnrefused, etimedout]

/-- The numbers that `connect_write` takes for errors. -/
def repNumbers : List ℤ :=
  [networkUnreachable.toNat, hostUnreachable.toNat, connectionRefused.toNat, ttlExpired.toNat]

section Reports

variable {env : Env} {key : SelectorKey} {s t : Session} {errno : ℤ}

theorem reports_replyWith (rep : UInt8) (s : Session) : Reports (.ok (replyWith rep s)) rep :=
  ⟨_, rfl, rfl⟩

theorem Reports.rep_eq {result : Except Fault (Session × SocksV5State)} {rep rep' : UInt8}
    (h : Reports result rep) (h' : Reports result rep') : rep = rep' := by
  obtain ⟨t, ht, hrep⟩ := h
  obtain ⟨t', ht', hrep'⟩ := h'
  rw [ht] at ht'
  cases ht'
  exact hrep.symm.trans hrep'

/-- The walk returns the code of the last error. -/
theorem LastFails.walk (h : LastFails env s.conn.originResolution.length errno)
    (herrno : errno ≠ einprogress) (key : SelectorKey) :
    ∃ t, tryConnection env key s = .ok (t, connectFailureCode errno) := by
  have hpos := h.nonempty
  have hdecisive : Decisive env 0 s.conn.originResolution.length := by
    refine ⟨s.conn.originResolution.length - 1, by omega, ?_⟩
    rw [Nat.zero_add]
    exact ⟨h.socket, h.setNio, .inr (.inr (by omega))⟩
  obtain ⟨t, ret, k, htry, hk⟩ := (walks_iff_decisive env key s).mpr hdecisive
  have hinside := hk.inside
  have hlast : k + 1 = s.conn.originResolution.length := by
    rcases hk.stops with hgoes | ⟨hend, -⟩
    · by_contra hne
      rw [Nat.zero_add] at hgoes
      exact hgoes (h.before k (by omega))
    · exact hend
  have hcode := hk.code
  have hindex : 0 + k = s.conn.originResolution.length - 1 := by omega
  rw [hindex, Attempt.Yields, h.connect] at hcode
  dsimp only at hcode
  rw [if_neg herrno] at hcode
  rw [hcode] at htry
  exact ⟨t, htry⟩

theorem repOfError_ne_succeded (errno : ℤ) : repOfError errno ≠ succeded := by
  unfold repOfError
  split_ifs <;> decide

/-- Both callbacks translate that code the same way. -/
theorem connectToDestResult_failure (s : Session) (errno : ℤ) :
    connectToDestResult s (connectFailureCode errno) = replyWith (repOfError errno) s := by
  unfold connectFailureCode repOfError
  split_ifs <;> rfl

theorem connectWriteResult_failure (s : Session) (errno : ℤ) :
    connectWriteResult s (connectFailureCode errno) = .ok (replyWith (repOfError errno) s) := by
  unfold connectFailureCode repOfError
  split_ifs <;> rfl

theorem LastFails.reported_at_once (h : LastFails env s.conn.originResolution.length errno)
    (herrno : errno ≠ einprogress) (key : SelectorKey) :
    Reports (connectToDest env key s) (repOfError errno) := by
  obtain ⟨t, htry⟩ := h.walk herrno key
  unfold connectToDest
  split
  · next hempty =>
      have hpos := h.nonempty
      rw [hempty] at hpos
      exact absurd hpos (Nat.lt_irrefl 0)
  · rw [htry]
    dsimp only
    rw [connectToDestResult_failure]
    exact reports_replyWith _ _

theorem LastFails.reported_on_retry {v : ℤ}
    (h : LastFails env (s.conn.originResolution.length - 1) errno) (herrno : errno ≠ einprogress)
    (herror : sockError env s.conn.originFd = some v) (hv : v ≠ 0) (key : SelectorKey) :
    Reports (connectWrite env key s) (repOfError errno) := by
  have hpos := h.nonempty
  have hnext : LastFails env
      (getNextResolution (dropOrigin s)).conn.originResolution.length errno := by
    change LastFails env s.conn.originResolution.tail.length errno
    rw [List.length_tail]
    exact h
  obtain ⟨t, htry⟩ := hnext.walk herrno key
  have hdropped : (dropOrigin s).conn.originResolution = s.conn.originResolution := rfl
  unfold connectWrite
  rw [herror]
  dsimp only
  rw [if_pos hv, hdropped]
  rcases hlist : s.conn.originResolution with _ | ⟨ai, _ | ⟨ai', aiNext⟩⟩
  · rw [hlist] at hpos
    exact absurd hpos (Nat.lt_irrefl 0)
  · rw [hlist] at hpos
    exact absurd hpos (Nat.lt_irrefl 0)
  · dsimp only
    rw [htry]
    dsimp only
    rw [connectWriteResult_failure]
    exact reports_replyWith _ _

/-- The two translations agree on the errors that neither of them names. -/
theorem lastAddressRep_eq_iff (errno : ℤ) :
    lastAddressRep errno = repOfError errno ↔ errno ∉ namedErrors ∧ errno ∉ repNumbers := by
  have hreps : errno ∈ repNumbers → lastAddressRep errno ≠ repOfError errno := by
    intro hmem
    simp only [repNumbers, List.mem_cons, List.not_mem_nil, or_false] at hmem
    rcases hmem with rfl | rfl | rfl | rfl <;> decide
  have hnames : errno ∈ namedErrors → lastAddressRep errno ≠ repOfError errno := by
    intro hmem
    simp only [namedErrors, List.mem_cons, List.not_mem_nil, or_false] at hmem
    rcases hmem with rfl | rfl | rfl | rfl <;> decide
  constructor
  · intro hsame
    exact ⟨fun hmem => hnames hmem hsame, fun hmem => hreps hmem hsame⟩
  · rintro ⟨hnamed, hnumber⟩
    simp only [namedErrors, repNumbers, List.mem_cons, List.not_mem_nil, or_false,
      not_or] at hnamed hnumber
    simp [lastAddressRep, repOfError, hnamed, hnumber]

end Reports

/-- A connection whose attempt on its only address is in progress. -/
def connectingOnce : Session := firstSessionAfter (askForName ++ [resolved] ++ [notified])

theorem connectingOnce_last :
    connectingOnce.conn.originResolution = [server] ∧ 0 ≤ connectingOnce.conn.originFd := by
  decide +kernel

/-- What CONNECT reports of that attempt. -/
theorem ReportedAlike.lastAddressRep_eq {errno : ℤ} (hne : errno ≠ 0) (h : ReportedAlike errno) :
    lastAddressRep errno = repOfError errno := by
  obtain ⟨hlast, hopen⟩ := connectingOnce_last
  have herror : sockError { (default : Env) with getsockopt := some errno }
      connectingOnce.conn.originFd = some errno := sockError_of_open _ hopen
  have hlate := h.late _ ⟨5, 0⟩ connectingOnce server herror hlast
  rw [connectWrite_exhausted herror hne hlast] at hlate
  exact (reports_replyWith _ _).rep_eq hlate

/-- An error is reported alike exactly if it has no reply code of its own and
its number is not that of one of four reply codes. -/
theorem reportedAlike_iff (errno : ℤ) (hne : errno ≠ 0) (herrno : errno ≠ einprogress) :
    ReportedAlike errno ↔ errno ∉ namedErrors ∧ errno ∉ repNumbers := by
  rw [← lastAddressRep_eq_iff]
  constructor
  · exact ReportedAlike.lastAddressRep_eq hne
  · intro hsame
    refine ⟨repOfError_ne_succeded errno, ?_, ?_, ?_⟩
    · intro env key s hlast
      exact hlast.reported_at_once herrno key
    · intro env key s v herror hv hlast
      exact hlast.reported_on_retry herrno herror hv key
    · intro env key s addr herror hlast
      rw [connectWrite_exhausted herror hne hlast, hsame]
      exact reports_replyWith _ _

/-- An error without a reply code of its own, `EACCES`. -/
theorem reportedAlike_iff_access : ReportedAlike 13 :=
  (reportedAlike_iff 13 (by decide) (by decide)).mpr (by decide)

/-- `getsockopt` answers with this error. -/
def failsLate (errno : ℤ) : Event := .write 5 { (default : Env) with getsockopt := some errno }

/-- The only address refuses the connection, and the client is told of a server
failure; with the error 5 it is told of a success. -/
theorem refusedLate_misreported :
    ¬ ReportedAlike econnrefused ∧ ¬ ReportedAlike 5 ∧
      run step firstSession (askForName ++ [resolved] ++ [notified]) = .ok connectingOnce ∧
      (∃ t, Enabled connectingOnce (failsLate econnrefused) ∧
        step connectingOnce (failsLate econnrefused) = .ok t ∧ t.state = .reply ∧
        t.conn.reply.rep = serverFailure) ∧
      ∃ t, step connectingOnce (failsLate 5) = .ok t ∧ t.state = .reply ∧
        t.conn.reply.rep = succeded := by
  have hlate : ∀ errno, errno ≠ 0 → errno ∈ namedErrors ∨ errno ∈ repNumbers →
      ¬ ReportedAlike errno := by
    intro errno hne hmem h
    obtain ⟨hnamed, hnumber⟩ := (lastAddressRep_eq_iff errno).mp (h.lastAddressRep_eq hne)
    exact hmem.elim hnamed hnumber
  refine ⟨hlate _ (by decide) (.inl (by decide)), hlate _ (by decide) (.inr (by decide)),
    run_firstSession (by decide +kernel), ?_, ?_⟩
  · refine ⟨_, by decide +kernel, step_firstSession (by decide +kernel), ?_, ?_⟩
    · decide +kernel
    · decide +kernel
  · refine ⟨_, step_firstSession (by decide +kernel), ?_, ?_⟩
    · decide +kernel
    · decide +kernel

end Socks5Proxy

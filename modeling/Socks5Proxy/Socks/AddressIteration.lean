import Socks5Proxy.Socks.Accepted
import Socks5Proxy.Socks.Exhaustion
import Socks5Proxy.Socks.ResolutionIsolation

/-!
# The walk over the address list

`try_connection` drops the head of the list before it calls itself again.  A
round fails in one of three ways, and only the one behind a failed `connect`
asks whether there is another address.
-/

namespace Socks5Proxy

open Library

/-! ## Rounds -/

/-- The address is given up: no socket, no non-blocking mode, or an error. -/
def Attempt.Fails (a : Attempt) : Prop :=
  a.socket = -1 ∨ a.setNio = false ∨ ∃ errno, a.connect = .error errno ∧ errno ≠ einprogress

/-- The `connect` of a round, if the round gets that far. -/
def Attempt.call (a : Attempt) (ai : SockAddr) : List Action :=
  if a.socket = -1 ∨ a.setNio = false then [] else [.connect a.socket ai a.connect]

/-- The `connect` calls for some addresses, in order and one for each at
most. -/
def connectCalls (env : Env) : ℕ → List SockAddr → List Action
  | _, [] => []
  | round, ai :: aiNext => (env.attempts round).call ai ++ connectCalls env (round + 1) aiNext

def Action.isConnect : Action → Bool
  | .connect _ _ _ => true
  | _ => false

/-- The `connect` calls of a log. -/
def connectsIn (log : List Action) : List Action := log.filter Action.isConnect

/-- The codes that say that every address has failed. -/
def failureCodes : List UInt8 :=
  [generalFailure, networkUnreachable, hostUnreachable, connectionRefused, ttlExpired]

/-- The code a round returns with when it is not left for another address. -/
def Attempt.Yields (a : Attempt) (ret : UInt8) : Prop :=
  match a.connect with
  | .success => ret = connectionDone
  | .error errno =>
    if errno = einprogress then ret = selectorRegisterFailed ∨ ret = connectionInProgress
    else ret = connectFailureCode errno

/-- From `s` to `t` the rounds from `round` on took the addresses up to the
`k`-th: those before it failed, and it did not, or it is the last one. -/
structure TriedUpTo (env : Env) (round : ℕ) (addresses : List SockAddr) (s t : Session)
    (ret : UInt8) (k : ℕ) : Prop where
  inside : k < addresses.length
  failed : ∀ i < k, (env.attempts (round + i)).Fails
  calls : connectsIn t.log =
    connectsIn s.log ++ connectCalls env round (addresses.take (k + 1))
  current : t.conn.originResolution = addresses.drop k
  stops : ¬ (env.attempts (round + k)).Fails ∨ k + 1 = addresses.length ∧ ret ∈ failureCodes
  code : (env.attempts (round + k)).Yields ret

/-- The walk over the whole list comes to an end. -/
def WalksAddresses (env : Env) (key : SelectorKey) (s : Session) : Prop :=
  ∃ t ret k, tryConnection env key s = .ok (t, ret) ∧
    TriedUpTo env 0 s.conn.originResolution s t ret k

section Rounds

variable {env : Env} {key : SelectorKey} {round : ℕ} {ai : SockAddr} {aiNext : List SockAddr}
  {s t : Session} {ret : UInt8}

theorem connectsIn_append (log log' : List Action) :
    connectsIn (log ++ log') = connectsIn log ++ connectsIn log' := List.filter_append _ _

theorem connectsIn_close (log : List Action) (fd : ℤ) :
    connectsIn (log ++ [.close fd]) = connectsIn log := by
  rw [connectsIn_append]
  exact List.append_nil _

theorem connectFailureCode_mem_failureCodes (errno : ℤ) :
    connectFailureCode errno ∈ failureCodes := connectFailureCode_mem errno

/-- One round. -/
theorem tryAddress_walks (env : Env) (key : SelectorKey) (round : ℕ) (ai : SockAddr)
    (aiNext : List SockAddr) (s : Session) :
    (tryAddress env key round ai aiNext s).All
      (fun t ret => t.conn.originResolution = s.conn.originResolution ∧
        connectsIn t.log = connectsIn s.log ++ (env.attempts round).call ai ∧
        (¬ (env.attempts round).Fails ∨ aiNext = [] ∧ ret ∈ failureCodes) ∧
        (env.attempts round).Yields ret)
      (fun t => t.conn.originResolution = s.conn.originResolution.tail ∧
        connectsIn t.log = connectsIn s.log ++ (env.attempts round).call ai ∧
        (env.attempts round).Fails) := by
  unfold tryAddress Attempt.call Attempt.Yields
  dsimp only
  by_cases hsocket : (env.attempts round).socket = -1
  · rw [if_pos hsocket, if_pos (.inl hsocket)]
    exact ⟨rfl, (List.append_nil _).symm, .inl hsocket⟩
  · rw [if_neg hsocket]
    by_cases hnio : (env.attempts round).setNio = false
    · rw [if_pos hnio, if_pos (.inr hnio), List.append_nil]
      exact ⟨rfl, connectsIn_close _ _, .inr (.inl hnio)⟩
    · rw [if_neg hnio, if_neg (not_or.mpr ⟨hsocket, hnio⟩)]
      have hcall := connectsIn_append s.log
        [.connect (env.attempts round).socket ai (env.attempts round).connect]
      rcases hconnect : (env.attempts round).connect with _ | errno
      · rw [hconnect] at hcall
        refine ⟨rfl, hcall, .inl ?_, rfl⟩
        rintro (hnone | hblocking | ⟨errno, herror, -⟩)
        · exact hsocket hnone
        · exact hnio hblocking
        · rw [hconnect] at herror
          cases herror
      · rw [hconnect] at hcall
        dsimp only
        by_cases hpending : errno = einprogress
        · have hgoes : ¬ (env.attempts round).Fails := by
            rintro (hnone | hblocking | ⟨errno', herror, hdone⟩)
            · exact hsocket hnone
            · exact hnio hblocking
            · rw [hconnect, ConnectResult.error.injEq] at herror
              exact hdone (herror.symm.trans hpending)
          simp only [if_pos hpending]
          split_ifs
          · exact ⟨rfl, hcall, .inl hgoes, .inl rfl⟩
          · exact ⟨rfl, hcall, .inl hgoes, .inr rfl⟩
        · simp only [if_neg hpending]
          by_cases hmore : aiNext ≠ []
          · rw [if_pos hmore]
            refine ⟨rfl, ?_, .inr (.inr ⟨errno, hconnect, hpending⟩)⟩
            exact (connectsIn_close _ _).trans hcall
          · rw [if_neg hmore]
            exact ⟨rfl, hcall, .inr ⟨not_not.mp hmore, connectFailureCode_mem_failureCodes errno⟩,
              rfl⟩

/-- The first address is given up, and the rest of the list is tried. -/
theorem TriedUpTo.behind {u : Session} {k : ℕ} (hfails : (env.attempts round).Fails)
    (hcalls : connectsIn u.log = connectsIn s.log ++ (env.attempts round).call ai)
    (h : TriedUpTo env (round + 1) aiNext u t ret k) :
    TriedUpTo env round (ai :: aiNext) s t ret (k + 1) := by
  have hshift : ∀ i, round + (i + 1) = round + 1 + i := by omega
  refine ⟨Nat.succ_lt_succ h.inside, ?_, ?_, h.current, ?_, ?_⟩
  · intro i hi
    rcases i with _ | i
    · exact hfails
    · rw [hshift]
      exact h.failed i (Nat.lt_of_succ_lt_succ hi)
  · rw [h.calls, hcalls, List.append_assoc]
    rfl
  · rw [hshift, List.length_cons]
    exact h.stops.imp_right (And.imp_left (congrArg (· + 1)))
  · rw [hshift]
    exact h.code

/-- By induction on the addresses. -/
theorem tryAddresses_walks {addresses : List SockAddr}
    (hlist : s.conn.originResolution = addresses)
    (h : tryAddresses env key round addresses s = .ok (t, ret)) :
    ∃ k, TriedUpTo env round addresses s t ret k := by
  induction addresses generalizing round s with
  | nil => cases h
  | cons ai aiNext ih =>
      have hround := tryAddress_walks env key round ai aiNext s
      unfold tryAddresses at h
      generalize tryAddress env key round ai aiNext s = b at h hround
      rcases b with ⟨u, code⟩ | u
      · obtain ⟨hcurrent, hcalls, hstops, hcode⟩ := hround
        cases h
        refine ⟨0, Nat.succ_pos _, ?_, ?_, hcurrent.trans hlist, ?_, hcode⟩
        · intro i hi
          exact absurd hi (Nat.not_lt_zero i)
        · rw [hcalls, List.take_one, List.head?_cons, Option.toList_some, connectCalls,
            connectCalls, List.append_nil]
        · refine hstops.imp_right ?_
          rintro ⟨rfl, hcode⟩
          exact ⟨rfl, hcode⟩
      · obtain ⟨hcurrent, hcalls, hfails⟩ := hround
        rw [hlist] at hcurrent
        obtain ⟨k, hk⟩ := ih hcurrent h
        exact ⟨k + 1, hk.behind hfails hcalls⟩

end Rounds

/-! ## The whole list -/

/-- The walk comes to an end exactly if some address gets a non-blocking socket
and either does not fail or is the last one. -/
theorem walks_iff_decisive (env : Env) (key : SelectorKey) (s : Session) :
    WalksAddresses env key s ↔ Decisive env 0 s.conn.originResolution.length := by
  have hreturns := (tryAddresses_returnsIf env key 0 s.conn.originResolution s).ok_iff
  constructor
  · rintro ⟨t, ret, k, htry, -⟩
    exact hreturns.mp ⟨_, htry⟩
  · intro hdecisive
    obtain ⟨⟨t, ret⟩, htry⟩ := hreturns.mpr hdecisive
    obtain ⟨k, hk⟩ := tryAddresses_walks rfl htry
    exact ⟨t, ret, k, htry, hk⟩

/-- The address 127.0.0.1, port 80. -/
def loopbackAddr : SockAddr := ⟨.inet, [127, 0, 0, 1], 80⟩

/-- A system that has no descriptor left. -/
def noDescriptor : Env :=
  { (default : Env) with attempts := fun _ => { (default : Attempt) with socket := -1 } }

/-- A name with one address, which gets no socket. -/
theorem noDescriptor_not_walked :
    ∃ s, run step firstSession
        (greetingExchange ++ [.read 4 queryEnv, .resolved [loopbackAddr]]) = .ok s ∧
      Enabled s (.block 4 noDescriptor) ∧ s.conn.originResolution ≠ [] ∧
      ¬ WalksAddresses noDescriptor ⟨4, s.address⟩ s ∧
      step s (.block 4 noDescriptor) = .error .nullDereference := by
  refine ⟨_, run_firstSession (by decide +kernel), by decide +kernel, by decide +kernel, ?_, ?_⟩
  · rw [walks_iff_decisive]
    rintro ⟨i, -, hsocket, -⟩
    exact hsocket rfl
  · decide +kernel

end Socks5Proxy

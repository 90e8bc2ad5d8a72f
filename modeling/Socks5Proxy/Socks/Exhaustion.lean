import Socks5Proxy.Socks.Decisions

/-!
# When the addresses run out

`try_connection` calls itself for the next address when `socket` or
`selector_fd_set_nio` fails, also behind the last one: the null pointer it gets
then is dereferenced.  Apart from that the callbacks of REQUEST and CONNECT
return, whatever the kernel answers.
-/

namespace Socks5Proxy

/-! ## Null dereferences -/

/-- The computation returns if `returns` holds, and dereferences a null pointer
if it does not. -/
def ReturnsIf {α : Type} (returns : Prop) (x : Except Fault α) : Prop :=
  (returns → ∃ r, x = .ok r) ∧ (¬ returns → x = .error .nullDereference)

/-- The round has a socket, and its `connect` is not left for another address:
it succeeds or stays pending, or this is the last address. -/
def DecidesAt (env : Env) (round : ℕ) (last : Prop) : Prop :=
  (env.attempts round).socket ≠ -1 ∧ (env.attempts round).setNio = true ∧
    ((env.attempts round).connect = .success ∨
      (env.attempts round).connect = .error einprogress ∨ last)

/-- One of the next `n` rounds, for `n` addresses, decides. -/
def Decisive (env : Env) (round n : ℕ) : Prop :=
  ∃ i, i < n ∧ DecidesAt env (round + i) (i + 1 = n)

section Attempts

variable {α : Type} {returns returns' : Prop} {x : Except Fault α} {env : Env}

theorem ReturnsIf.congr (h : ReturnsIf returns x) (hiff : returns ↔ returns') :
    ReturnsIf returns' x := by
  rw [← propext hiff]
  exact h

theorem ReturnsIf.of_ok {r : α} (hreturns : returns) :
    ReturnsIf returns (.ok r : Except Fault α) :=
  ⟨fun _ => ⟨r, rfl⟩, fun hnone => absurd hreturns hnone⟩

theorem ReturnsIf.of_null (hnone : ¬ returns) :
    ReturnsIf returns (.error .nullDereference : Except Fault α) :=
  ⟨fun hreturns => absurd hreturns hnone, fun _ => rfl⟩

theorem ReturnsIf.ok_iff (h : ReturnsIf returns x) : (∃ r, x = .ok r) ↔ returns := by
  constructor
  · rintro ⟨r, hr⟩
    by_contra hnone
    rw [h.2 hnone] at hr
    cases hr
  · exact h.1

theorem Decisive.zero {round : ℕ} : ¬ Decisive env round 0 := by
  rintro ⟨i, hi, -⟩
  exact absurd hi (Nat.not_lt_zero i)

theorem DecidesAt.congr {round : ℕ} {last last' : Prop} (hiff : last ↔ last')
    (h : DecidesAt env round last) : DecidesAt env round last' :=
  ⟨h.1, h.2.1, h.2.2.imp_right (.imp_right hiff.mp)⟩

/-- The first of the rounds decides, or one behind it. -/
theorem decisive_succ_iff {round n : ℕ} :
    Decisive env round (n + 1) ↔
      DecidesAt env round (n = 0) ∨ Decisive env (round + 1) n := by
  constructor
  · rintro ⟨i, hi, hdecides⟩
    rcases i with _ | i
    · exact .inl (hdecides.congr (by omega))
    · rw [Nat.add_comm i 1, ← Nat.add_assoc] at hdecides
      exact .inr ⟨i, by omega, hdecides.congr (by omega)⟩
  · rintro (hdecides | ⟨i, hi, hdecides⟩)
    · exact ⟨0, Nat.succ_pos n, hdecides.congr (by omega)⟩
    · rw [Nat.add_assoc, Nat.add_comm 1 i] at hdecides
      exact ⟨i + 1, by omega, hdecides.congr (by omega)⟩

theorem tryAddress_decides (env : Env) (key : SelectorKey) (round : ℕ) (ai : SockAddr)
    (aiNext : List SockAddr) (s : Session) :
    (tryAddress env key round ai aiNext s).All
      (fun _ _ => DecidesAt env round (aiNext.length = 0))
      (fun _ => ¬ DecidesAt env round (aiNext.length = 0)) := by
  unfold tryAddress
  dsimp only
  by_cases hsocket : (env.attempts round).socket = -1
  · rw [if_pos hsocket]
    exact fun h => h.1 hsocket
  · rw [if_neg hsocket]
    by_cases hnio : (env.attempts round).setNio = false
    · rw [if_pos hnio]
      exact fun h => absurd h.2.1 (by rw [hnio]; decide)
    · rw [if_neg hnio]
      have hnio' : (env.attempts round).setNio = true := by simpa using hnio
      rcases hconnect : (env.attempts round).connect with _ | errno
      · exact ⟨hsocket, hnio', .inl hconnect⟩
      · dsimp only
        by_cases hpending : errno = einprogress
        · rw [hpending] at hconnect
          rw [if_pos hpending]
          split_ifs <;> exact ⟨hsocket, hnio', .inr (.inl hconnect)⟩
        · rw [if_neg hpending]
          by_cases hmore : aiNext ≠ []
          · rw [if_pos hmore]
            rintro ⟨-, -, hsuccess | hwaits | hlast⟩
            · rw [hconnect] at hsuccess
              cases hsuccess
            · rw [hconnect] at hwaits
              exact hpending (ConnectResult.error.inj hwaits)
            · exact hmore (List.length_eq_zero_iff.mp hlast)
          · rw [if_neg hmore]
            rw [not_not] at hmore
            exact ⟨hsocket, hnio', .inr (.inr (by rw [hmore]; rfl))⟩

/-- By induction on the addresses. -/
theorem tryAddresses_returnsIf (env : Env) (key : SelectorKey) (round : ℕ)
    (addresses : List SockAddr) (s : Session) :
    ReturnsIf (Decisive env round addresses.length) (tryAddresses env key round addresses s) := by
  induction addresses generalizing round s with
  | nil => exact .of_null Decisive.zero
  | cons ai aiNext ih =>
      have hround := tryAddress_decides env key round ai aiNext s
      unfold tryAddresses
      rw [List.length_cons]
      generalize tryAddress env key round ai aiNext s = b at hround ⊢
      rcases b with ⟨t, ret⟩ | t
      · exact .of_ok (decisive_succ_iff.mpr (.inl hround))
      · exact (ih (round + 1) t).congr
          (decisive_succ_iff.trans (or_iff_right hround)).symm

end Attempts

/-! ## The callbacks -/

section Callbacks

variable {env : Env} {key : SelectorKey} {s : Session}

theorem connectToDest_returnsIf (env : Env) (key : SelectorKey) (s : Session) :
    ReturnsIf (s.conn.originResolution ≠ [] → Decisive env 0 s.conn.originResolution.length)
      (connectToDest env key s) := by
  have hattempts := tryAddresses_returnsIf env key 0 s.conn.originResolution s
  unfold connectToDest tryConnection
  split
  · next hempty => exact .of_ok fun hne => absurd hempty hne
  · next ai aiNext hcons =>
      rw [hcons] at hattempts ⊢
      split
      · next fault htry =>
          by_cases hdecisive : Decisive env 0 (ai :: aiNext).length
          · obtain ⟨r, hr⟩ := hattempts.1 hdecisive
            rw [hr] at htry
            cases htry
          · rw [hattempts.2 hdecisive] at htry
            rw [← Except.error.inj htry]
            exact .of_null fun h => hdecisive (h (List.cons_ne_nil ai aiNext))
      · next t ret htry => exact .of_ok fun _ => hattempts.ok_iff.mp ⟨_, htry⟩

theorem resolveIp_single (env : Env) (family : AddressFamily) (s : Session)
    (h : (resolveIp env family s).2 = true) :
    (resolveIp env family s).1.conn.originResolution.length = 1 := by
  unfold resolveIp at h ⊢
  split_ifs at h ⊢
  rfl

theorem dstIp_returnsIf (family : AddressFamily) (len : ℕ) :
    ReturnsIf (env.callocAddr = true ∧ env.callocInfo = true → Decisive env 0 1)
      (dstIp env key (getIpAddress family len) (fun env s => resolveIp env family s) s) := by
  have hfound := resolveIp_found env family (getPort (getIpAddress family len s))
  have hsingle := resolveIp_single env family (getPort (getIpAddress family len s))
  unfold dstIp
  dsimp only
  generalize resolveIp env family (getPort (getIpAddress family len s)) = resolved
    at hfound hsingle
  obtain ⟨t, found⟩ := resolved
  rcases hfound with ⟨hfound, hnone⟩ | ⟨hfound, hallocated, haddresses⟩
  · rw [show found = false from hfound]
    exact .of_ok fun h => absurd h hnone
  · rw [show found = true from hfound]
    refine (connectToDest_returnsIf env key t).congr ?_
    rw [show t.conn.originResolution.length = 1 from hsingle hfound]
    exact ⟨fun h _ => h haddresses, fun h _ => h hallocated⟩

theorem dstRes_returnsIf (addrBytes : UInt8) :
    ReturnsIf (s.conn.request.atyp ≠ fqdn ∧ env.callocAddr = true ∧ env.callocInfo = true →
        Decisive env 0 1) (dstRes env key addrBytes s) := by
  unfold dstRes
  by_cases hipv4 : s.conn.request.atyp = ipv4Addr
  · rw [if_pos hipv4]
    have hne : s.conn.request.atyp ≠ fqdn := by
      rw [hipv4]
      decide
    refine (dstIp_returnsIf .inet ipv4AddrLen).congr ?_
    rw [and_iff_right hne]
  · rw [if_neg hipv4]
    by_cases hfqdn : s.conn.request.atyp = fqdn
    · rw [if_pos hfqdn]
      exact .of_ok fun h => absurd hfqdn h.1
    · rw [if_neg hfqdn]
      refine (dstIp_returnsIf .inet6 ipv6AddrLen).congr ?_
      rw [and_iff_right hfqdn]

theorem resolveDstAddress_returnsIf :
    ReturnsIf (DstConnects env s → Decisive env 0 1) (resolveDstAddress env key s) := by
  unfold resolveDstAddress DstConnects
  dsimp only
  generalize dstLen env _ = b
  rcases b with ⟨t, st⟩ | ⟨t, addrBytes⟩
  · exact .of_ok fun h => h.elim
  · exact dstRes_returnsIf addrBytes

/-- `request_read` returns unless it dials the address it has read and there is
no socket for it. -/
theorem requestRead_returnsIf :
    ReturnsIf (ReadConnects env key s → Decisive env 0 1) (requestRead env key s) := by
  unfold requestRead ReadConnects
  by_cases hstate : s.conn.request.state = .verCmdAtyp
  · rw [if_pos hstate, if_pos hstate]
    dsimp only
    generalize verCmdAtyp _ = b
    rcases b with ⟨t, st⟩ | t
    · exact .of_ok fun h => h.elim
    · exact resolveDstAddress_returnsIf
  · rw [if_neg hstate, if_neg hstate]
    exact resolveDstAddress_returnsIf

theorem connectWriteResult_ok {ret : UInt8} (t : Session)
    (hret : ret ∈ [generalFailure, selectorRegisterFailed, networkUnreachable, hostUnreachable,
      connectionRefused, ttlExpired, connectionInProgress]) :
    ∃ r, connectWriteResult t ret = .ok r := by
  unfold connectWriteResult
  split_ifs with h0 h1 h2 h3 h4 h5 h6
  · exact ⟨_, rfl⟩
  · exact ⟨_, rfl⟩
  · exact ⟨_, rfl⟩
  · exact ⟨_, rfl⟩
  · exact ⟨_, rfl⟩
  · exact ⟨_, rfl⟩
  · exact ⟨_, rfl⟩
  · simp [h0, h1, h2, h3, h4, h5, h6] at hret

/-- After a failed attempt `connect_write` needs an address, and a socket for
the next one if there is another. -/
theorem connectWrite_returnsIf {v : ℤ} (herror : sockError env s.conn.originFd = some v)
    (hv : v ≠ 0) (hfresh : FreshSockets (dropOrigin s) env)
    (htable : fdSetsize < s.sel.fds.length) :
    ReturnsIf (s.conn.originResolution.length = 1 ∨
        Decisive env 0 (s.conn.originResolution.length - 1)) (connectWrite env key s) := by
  have hdropped : (dropOrigin s).conn.originResolution = s.conn.originResolution := rfl
  have hattempts := tryAddresses_returnsIf env key 0 s.conn.originResolution.tail
    (getNextResolution (dropOrigin s))
  unfold connectWrite
  rw [herror]
  dsimp only
  rw [if_pos hv, hdropped]
  rcases hlist : s.conn.originResolution with _ | ⟨ai, _ | ⟨ai', aiNext⟩⟩
  · exact .of_null fun h => h.elim (by decide) Decisive.zero
  · exact .of_ok (.inl rfl)
  · rw [hlist] at hattempts
    have htail : tryConnection env key (getNextResolution (dropOrigin s)) =
        tryAddresses env key 0 (ai' :: aiNext) (getNextResolution (dropOrigin s)) := by
      rw [tryConnection, getNextResolution]
      dsimp only
      rw [hdropped, hlist]
      rfl
    have hiff : Decisive env 0 (ai' :: aiNext).length ↔
        ((ai :: ai' :: aiNext).length = 1 ∨ Decisive env 0 ((ai :: ai' :: aiNext).length - 1)) := by
      simp
    refine ReturnsIf.congr ?_ hiff
    dsimp only
    rw [htail]
    rcases htry : tryAddresses env key 0 (ai' :: aiNext) (getNextResolution (dropOrigin s))
      with fault | ⟨t, ret⟩
    · by_cases hdecisive : Decisive env 0 (ai' :: aiNext).length
      · obtain ⟨r, hr⟩ := hattempts.1 hdecisive
        rw [List.tail_cons, htry] at hr
        cases hr
      · have hnull := hattempts.2 hdecisive
        rw [List.tail_cons, htry] at hnull
        rw [Except.error.inj hnull]
        exact .of_null hdecisive
    · have hdecisive : Decisive env 0 (ai' :: aiNext).length := hattempts.ok_iff.mp ⟨_, htry⟩
      have hattempted : Attempted env key (getNextResolution (dropOrigin s)) t ret :=
        tryAddresses_attempted hfresh (show fdSetsize < (dropOrigin s).sel.fds.length by
          rw [length_fds_dropOrigin]
          exact htable) htry
      obtain ⟨r, hr⟩ := connectWriteResult_ok t hattempted.code
      dsimp only
      rw [hr]
      exact .of_ok hdecisive

end Callbacks

end Socks5Proxy

import Socks5Proxy.Socks.Dialling
import Socks5Proxy.Socks.EofProgress
import Socks5Proxy.Socks.MissingHandler
import Socks5Proxy.Socks.RequestSegmentation

/-!
# How the address list is released

`socks5_destroy` goes by the current `atyp`, which a further request sets before
it has an address list of its own.  Until then the record still holds the list
of the request before, and a resolver that finishes late replaces whatever list
there is.
-/

namespace Socks5Proxy

open Library

/-! ## Where the record comes to be mistaken -/

/-- `request_read` lets the header of a further request through that names an
address, keeps the list of an earlier name, and does not come to dial. -/
structure HeaderMistakes (env : Env) (key : SelectorKey) (s : Session) : Prop where
  state : s.conn.request.state = .verCmdAtyp
  header : AcceptedHeader (s.conn.clientBuffer.content ++ recvReturns s env.recv)
  address : (s.conn.clientBuffer.content ++ recvReturns s env.recv).getD 3 0 ≠ fqdn
  kept : s.conn.originResolution ≠ []
  byName : s.conn.resolvedByName = true
  waits : ¬ ReadConnects env key s

/-- An event from which on `socks5_destroy` would take a list of `getaddrinfo`
for one of `resolve_ipv4` or `resolve_ipv6`. -/
def Mistakes (s : Session) : Event → Prop
  | .read fd env => s.conn.closed = false ∧ s.state = .request ∧
      HeaderMistakes env ⟨fd, s.address⟩ s
  | .resolved result => s.conn.closed = false ∧ result ≠ [] ∧
      (s.conn.atyp = ipv4Addr ∨ s.conn.atyp = ipv6Addr)
  | _ => False

instance HeaderMistakes.decidable (env : Env) (key : SelectorKey) (s : Session) :
    Decidable (HeaderMistakes env key s) :=
  decidable_of_iff (s.conn.request.state = .verCmdAtyp ∧
      AcceptedHeader (s.conn.clientBuffer.content ++ recvReturns s env.recv) ∧
      (s.conn.clientBuffer.content ++ recvReturns s env.recv).getD 3 0 ≠ fqdn ∧
      s.conn.originResolution ≠ [] ∧ s.conn.resolvedByName = true ∧ ¬ ReadConnects env key s)
    ⟨fun h => ⟨h.1, h.2.1, h.2.2.1, h.2.2.2.1, h.2.2.2.2.1, h.2.2.2.2.2⟩,
      fun h => ⟨h.state, h.header, h.address, h.kept, h.byName, h.waits⟩⟩

instance Mistakes.decidable (s : Session) : (e : Event) → Decidable (Mistakes s e)
  | .read fd env => inferInstanceAs (Decidable (s.conn.closed = false ∧ s.state = .request ∧
      HeaderMistakes env ⟨fd, s.address⟩ s))
  | .resolved result => inferInstanceAs (Decidable (s.conn.closed = false ∧ result ≠ [] ∧
      (s.conn.atyp = ipv4Addr ∨ s.conn.atyp = ipv6Addr)))
  | .write _ _ | .block _ _ | .connectFinished _ => inferInstanceAs (Decidable False)

/-! ## Dialling -/

/-- The list may have lost addresses at its head. -/
structure Sheds (s t : Session) : Prop where
  list : t.conn.originResolution <:+ s.conn.originResolution
  byName : t.conn.resolvedByName = s.conn.resolvedByName
  atyp : t.conn.atyp = s.conn.atyp

section Dialling

variable {s t u : Session} {env : Env} {key : SelectorKey} {ret : UInt8}
  {r : Session × SocksV5State}

theorem Sheds.of_resolution (h : t.conn.resolution = s.conn.resolution) : Sheds s t := by
  obtain ⟨hlist, hrest⟩ := Prod.mk.inj h
  obtain ⟨hname, hatyp⟩ := Prod.mk.inj hrest
  exact ⟨hlist ▸ List.suffix_rfl, hname, hatyp⟩

theorem Sheds.trans (h : Sheds s t) (h' : Sheds t u) : Sheds s u :=
  ⟨h'.list.trans h.list, h'.byName.trans h.byName, h'.atyp.trans h.atyp⟩

theorem Sheds.head : Sheds s (getNextResolution s) := ⟨List.tail_suffix _, rfl, rfl⟩

theorem Sheds.mistaken (h : Sheds s t) (ht : t.conn.Mistaken) : s.conn.Mistaken := by
  obtain ⟨hne, hatyp, hname⟩ := ht
  rw [h.atyp] at hatyp
  rw [h.byName] at hname
  refine ⟨fun hnil => hne ?_, hatyp, hname⟩
  have hlist := h.list
  rw [hnil] at hlist
  exact List.suffix_nil.mp hlist

theorem tryAddress_sheds (env : Env) (key : SelectorKey) (round : ℕ) (ai : SockAddr)
    (aiNext : List SockAddr) (s : Session) :
    (tryAddress env key round ai aiNext s).All (fun t _ => Sheds s t) (Sheds s) := by
  have hsame : ∀ {t : Session}, t.conn.resolution = s.conn.resolution → Sheds s t :=
    Sheds.of_resolution
  have hnext : ∀ {t : Session}, t.conn.resolution = s.conn.resolution →
      Sheds s (getNextResolution t) := fun h => (hsame h).trans .head
  unfold tryAddress
  dsimp only
  repeat' split
  all_goals first
    | exact hnext rfl
    | exact hsame rfl

theorem tryAddresses_sheds {addresses : List SockAddr} {round : ℕ}
    (h : tryAddresses env key round addresses s = .ok (t, ret)) : Sheds s t := by
  induction addresses generalizing round s with
  | nil => cases h
  | cons ai aiNext ih =>
      have hround := tryAddress_sheds env key round ai aiNext s
      unfold tryAddresses at h
      generalize tryAddress env key round ai aiNext s = b at h hround
      rcases b with ⟨u, ret'⟩ | u
      · cases h
        exact hround
      · exact Sheds.trans hround (ih h)

theorem connectToDestResult_resolution (s : Session) (ret : UInt8) :
    (connectToDestResult s ret).1.conn.resolution = s.conn.resolution := by
  unfold connectToDestResult
  split_ifs <;> rfl

theorem connectToDest_sheds (h : connectToDest env key s = .ok r) : Sheds s r.1 := by
  unfold connectToDest at h
  split at h
  · rw [← Except.ok.inj h]
    exact .of_resolution rfl
  · split at h
    · cases h
    · next t ret htry =>
        rw [← Except.ok.inj h]
        exact (tryAddresses_sheds htry).trans
          (.of_resolution (connectToDestResult_resolution t ret))

theorem connectWrite_sheds (h : connectWrite env key s = .ok r) : Sheds s r.1 := by
  unfold connectWrite at h
  generalize sockError env s.conn.originFd = answer at h
  rcases answer with _ | v
  · rw [← Except.ok.inj h]
    exact .of_resolution rfl
  · dsimp only at h
    by_cases hv : v ≠ 0
    · have hdropped : Sheds s (dropOrigin s) := .of_resolution rfl
      rw [if_pos hv] at h
      split at h
      · cases h
      · rw [← Except.ok.inj h]
        exact .of_resolution rfl
      · split at h
        · cases h
        · next t ret htry =>
            have hattempted := (hdropped.trans .head).trans (tryAddresses_sheds htry)
            refine hattempted.trans ?_
            rcases connectWriteResult_cases h with ⟨rep, -, rfl⟩ | ⟨-, rfl⟩ | ⟨-, rfl⟩ <;>
              exact .of_resolution rfl
    · rw [if_neg hv] at h
      rcases hlog : printConnectionAccessLog s with fault | u
      · rw [hlog] at h
        cases h
      · rw [hlog] at h
        rw [← Except.ok.inj h, printConnectionAccessLog_eq hlog]
        exact .of_resolution rfl

theorem replyWrite_sheds (env : Env) (s : Session) : Sheds s (replyWrite env s).1 := by
  rcases hfound : s.conn.reply.foundBndInfo with _ | _
  · rw [replyWrite, if_pos hfound]
    exact .of_resolution rfl
  · obtain ⟨b, action, -, -, hwrite⟩ := replyWrite_eq env s hfound
    rw [hwrite]
    dsimp only
    split_ifs <;> exact .of_resolution rfl

end Dialling

/-! ## Reading a request -/

section Reading

variable {s : Session} {env : Env} {key : SelectorKey} {r : Session × SocksV5State}

theorem recvClientBuffer_resolution (s : Session) (fd : ℤ) (answer : Option (List UInt8)) :
    (s.recvClientBuffer fd answer).2.conn.resolution = s.conn.resolution ∧
      (s.recvClientBuffer fd answer).2.conn.clientBuffer.content =
        s.conn.clientBuffer.content ++ recvReturns s answer := by
  obtain ⟨b, hb, hsnd⟩ := recvClientBuffer_snd s fd answer
  rw [hsnd]
  exact ⟨rfl, hb⟩

/-- The header block sets `atyp` if it lets the header through, and touches
nothing else that the release goes by. -/
theorem verCmdAtyp_resolution (s : Session) :
    (verCmdAtyp s).All
      (fun t _ => t.conn.resolution = s.conn.resolution ∧
        ¬ AcceptedHeader s.conn.clientBuffer.content)
      (fun t => t.conn.resolution = (s.conn.originResolution, s.conn.resolvedByName,
          s.conn.clientBuffer.content.getD 3 0) ∧
        AcceptedHeader s.conn.clientBuffer.content) := by
  unfold verCmdAtyp
  dsimp only
  rw [bufferReadPtr_snd]
  simp only [bufferRead_getD, bufferRead_content, List.drop_drop, getD_drop_zero]
  have hshort : s.conn.clientBuffer.content.length < 4 →
      ¬ AcceptedHeader s.conn.clientBuffer.content := by
    intro hlen hheader
    have htype := hheader.type
    rw [List.getD_eq_default _ _ (Nat.le_of_lt_succ hlen)] at htype
    exact absurd htype (by decide)
  split_ifs with hnil hfew hver hcmd hrsv hatyp
  · exact ⟨rfl, hshort (by omega)⟩
  · exact ⟨rfl, hshort hfew⟩
  · exact ⟨rfl, fun h => hver h.version⟩
  · exact ⟨rfl, fun h => hcmd h.command⟩
  · exact ⟨rfl, fun h => hrsv h.reserved⟩
  · refine ⟨rfl, fun h => ?_⟩
    have htype := h.type
    rw [hatyp] at htype
    exact absurd htype Bool.false_ne_true
  · exact ⟨rfl, not_not.mp hver, not_not.mp hcmd, not_not.mp hrsv, by simpa using hatyp⟩

theorem dstLen_resolution (env : Env) (s : Session) :
    (dstLen env s).All (fun t _ => t.conn.resolution = s.conn.resolution)
      (fun p => p.1.conn.resolution = s.conn.resolution) := by
  unfold dstLen
  dsimp only
  repeat' split
  all_goals rfl

/-- A destination that is dialled has got a list of its own; otherwise the old
one is kept. -/
structure KeepsList (attempts : Prop) (s t : Session) : Prop where
  dialled : attempts → t.conn.resolvedByName = false
  waited : ¬ attempts → t.conn.resolution = s.conn.resolution

theorem KeepsList.of_same {attempts : Prop} {t : Session} (hnone : ¬ attempts)
    (h : t.conn.resolution = s.conn.resolution) : KeepsList attempts s t :=
  ⟨fun hattempts => absurd hattempts hnone, fun _ => h⟩

theorem dstIp_keepsList {family : AddressFamily} {len : ℕ}
    (h : dstIp env key (getIpAddress family len) (fun env => resolveIp env family) s = .ok r) :
    KeepsList (env.callocAddr = true ∧ env.callocInfo = true) s r.1 := by
  by_cases halloc : env.callocAddr = true ∧ env.callocInfo = true
  · obtain ⟨b, -, hdst⟩ := dstIp_eq env key family len halloc.2 halloc.1 s
    rw [hdst] at h
    exact ⟨fun _ => (connectToDest_sheds h).byName, fun hnone => absurd halloc hnone⟩
  · have hfailed : ∀ u : Session, resolveIp env family u = (u, false) := by
      intro u
      unfold resolveIp
      split_ifs with haddr hinfo
      · rfl
      · rfl
      · exact absurd ⟨by simpa using haddr, by simpa using hinfo⟩ halloc
    unfold dstIp at h
    dsimp only at h
    rw [hfailed] at h
    rw [← Except.ok.inj h]
    exact .of_same halloc rfl

theorem dstRes_keepsList {addrBytes : UInt8} (h : dstRes env key addrBytes s = .ok r) :
    KeepsList (s.conn.request.atyp ≠ fqdn ∧ env.callocAddr = true ∧ env.callocInfo = true) s
      r.1 := by
  have hip : ∀ family len, s.conn.request.atyp ≠ fqdn →
      dstIp env key (getIpAddress family len) (fun env => resolveIp env family) s = .ok r →
      KeepsList (s.conn.request.atyp ≠ fqdn ∧ env.callocAddr = true ∧ env.callocInfo = true) s
        r.1 := by
    intro family len hatyp hdst
    rw [and_iff_right hatyp]
    exact dstIp_keepsList hdst
  unfold dstRes at h
  split_ifs at h with hipv4 hfqdn
  · refine hip .inet ipv4AddrLen ?_ h
    rw [hipv4]
    decide
  · refine .of_same (fun hattempts => hattempts.1 hfqdn) ?_
    obtain ⟨b, u, -, hu, hdst⟩ := dstFqdn_eq env addrBytes s
    rw [hdst] at h
    rw [← Except.ok.inj h]
    split_ifs <;> (rw [hu]; rfl)
  · exact hip .inet6 ipv6AddrLen hfqdn h

theorem resolveDstAddress_keepsList (h : resolveDstAddress env key s = .ok r) :
    KeepsList (DstConnects env s) s r.1 := by
  have hrecv := (recvClientBuffer_resolution s s.conn.clientFd env.recvDst).1
  unfold DstConnects
  unfold resolveDstAddress at h
  dsimp only at h
  generalize (s.recvClientBuffer s.conn.clientFd env.recvDst).2 = t at h hrecv ⊢
  have hlen := dstLen_resolution env t
  generalize dstLen env t = b at h hlen ⊢
  rcases b with ⟨u, st⟩ | ⟨u, addrBytes⟩
  · rw [← Except.ok.inj h]
    exact .of_same id (Eq.trans hlen hrecv)
  · obtain ⟨hdialled, hwaited⟩ := dstRes_keepsList h
    exact ⟨hdialled, fun hnone => (hwaited hnone).trans (Eq.trans hlen hrecv)⟩

theorem not_mistaken_of_made {c : Socks5} (h : c.resolvedByName = false) : ¬ c.Mistaken := by
  rintro ⟨-, -, hname⟩
  rw [h] at hname
  cases hname

theorem isValidAtyp_ip_iff {c : UInt8} (h : isValidAtyp c = true) :
    c = ipv4Addr ∨ c = ipv6Addr ↔ c ≠ fqdn := by
  simp only [isValidAtyp, Bool.or_eq_true, beq_iff_eq] at h
  constructor
  · rintro (rfl | rfl) <;> decide
  · intro hne
    tauto

/-- In REQUEST the record comes to be mistaken by the header of an address that
is not dialled. -/
theorem requestRead_mistaken (hnot : ¬ s.conn.Mistaken) (h : requestRead env key s = .ok r) :
    r.1.conn.Mistaken ↔ HeaderMistakes env key s := by
  unfold requestRead at h
  by_cases hstate : s.conn.request.state = .verCmdAtyp
  · obtain ⟨hrecv, hcontent⟩ := recvClientBuffer_resolution s key.fd env.recv
    have hconnects : ∀ t, verCmdAtyp (s.recvClientBuffer key.fd env.recv).2 = .next t →
        (ReadConnects env key s ↔ DstConnects env t) := by
      intro t ht
      simp only [ReadConnects, if_pos hstate, ht]
    rw [if_pos hstate] at h
    dsimp only at h
    generalize (s.recvClientBuffer key.fd env.recv).2 = u at h hrecv hcontent hconnects
    have hblock := verCmdAtyp_resolution u
    rw [hcontent] at hblock
    generalize verCmdAtyp u = b at h hblock hconnects
    rcases b with ⟨t, ret⟩ | t
    · obtain ⟨hsame, hrefused⟩ := hblock
      refine iff_of_false ?_ fun hmistakes => hrefused hmistakes.header
      rw [← Except.ok.inj h]
      exact mt (mistaken_congr (hsame.trans hrecv)).mp hnot
    · obtain ⟨hset, hheader⟩ := hblock
      have hconnects := hconnects t rfl
      obtain ⟨hdialled, hwaited⟩ := resolveDstAddress_keepsList h
      by_cases hdials : DstConnects env t
      · exact iff_of_false (not_mistaken_of_made (hdialled hdials))
          fun hmistakes => hmistakes.waits (hconnects.mpr hdials)
      · obtain ⟨hlist, hrest⟩ := Prod.mk.inj ((hwaited hdials).trans hset)
        obtain ⟨hname, hatyp⟩ := Prod.mk.inj hrest
        obtain ⟨hlist', hrest'⟩ := Prod.mk.inj hrecv
        obtain ⟨hname', -⟩ := Prod.mk.inj hrest'
        rw [Socks5.Mistaken, hlist, hname, hatyp, hlist', hname',
          isValidAtyp_ip_iff hheader.type]
        constructor
        · rintro ⟨hkept, haddress, hbyName⟩
          exact ⟨hstate, hheader, haddress, hkept, hbyName, mt hconnects.mp hdials⟩
        · intro hmistakes
          exact ⟨hmistakes.kept, hmistakes.address, hmistakes.byName⟩
  · rw [if_neg hstate] at h
    refine iff_of_false ?_ fun hmistakes => hstate hmistakes.state
    obtain ⟨hdialled, hwaited⟩ := resolveDstAddress_keepsList h
    by_cases hdials : DstConnects env s
    · exact not_mistaken_of_made (hdialled hdials)
    · exact mt (mistaken_congr (hwaited hdials)).mp hnot

end Reading

/-! ## One event -/

section Event

variable {s t : Session} {env : Env} {key : SelectorKey} {fd : ℤ} {e : Event}
  {st : SocksV5State} {r : Session × SocksV5State}
  {callback : Session → Except Fault (Session × SocksV5State)}

theorem onReadReady_mistaken (hnot : ¬ s.conn.Mistaken)
    (hselect : (socks5States env key st).onReadReady = some callback)
    (hcall : callback s = .ok r) :
    r.1.conn.Mistaken ↔ st = .request ∧ HeaderMistakes env key s := by
  have hwired : st ≠ .request → WireFrame s r.1 →
      (r.1.conn.Mistaken ↔ st = .request ∧ HeaderMistakes env key s) := by
    intro hst hwire
    exact iff_of_false (mt (mistaken_congr hwire.resolution).mp hnot) fun h => hst h.1
  rcases st <;> cases hselect
  · rw [← Except.ok.inj hcall] at hwired ⊢
    exact hwired (by decide) (greetingRead_wire ..)
  · rw [← Except.ok.inj hcall] at hwired ⊢
    exact hwired (by decide) (authRead_wire ..)
  · rw [and_iff_right rfl]
    exact requestRead_mistaken hnot hcall
  · rw [← Except.ok.inj hcall] at hwired ⊢
    exact hwired (by decide) socksv5CopyRead_wire

theorem onWriteReady_sheds (hselect : (socks5States env key st).onWriteReady = some callback)
    (hcall : callback s = .ok r) : Sheds s r.1 := by
  rcases st <;> cases hselect
  · rw [← Except.ok.inj hcall]
    exact .of_resolution greetingWrite_wire.resolution
  · rw [← Except.ok.inj hcall]
    exact .of_resolution authWrite_wire.resolution
  · exact connectWrite_sheds hcall
  · rw [← Except.ok.inj hcall]
    exact replyWrite_sheds env s
  · rw [← Except.ok.inj hcall]
    exact .of_resolution socksv5CopyWrite_wire.resolution

theorem onBlockReady_sheds (hselect : (socks5States env key st).onBlockReady = some callback)
    (hcall : callback s = .ok r) : Sheds s r.1 := by
  rcases st <;> cases hselect
  exact connectToDest_sheds hcall

theorem teardown_resolution : (teardown env key s).conn.resolution = s.conn.resolution := by
  unfold teardown
  split_ifs
  · rfl
  · dsimp only [Session.act]
    rw [conn_releaseFd, conn_releaseFd]
    rfl

theorem settle_resolution :
    (settle env key st r).conn.resolution = r.1.conn.resolution := by
  have hjump : (jump (socks5States env key) st r.2 r.1).conn.resolution =
      r.1.conn.resolution := by
    unfold jump
    split
    · exact arrival_resolution.trans (congrArg (·.conn.resolution) departure_eq)
    · rfl
  unfold settle
  dsimp only
  split
  · exact teardown_resolution.trans hjump
  · exact hjump

theorem arrived_resolution : s.arrived.conn.resolution = s.conn.resolution := by
  obtain ⟨g, hg⟩ := arrived_eq s
  rw [hg]
  rfl

/-- A callback that has misled the release without ending the connection. -/
theorem settle_open (hends : ¬ Aborts r) (hopen : r.1.conn.closed = false)
    (hmistaken : r.1.conn.Mistaken) : (settle env key st r).conn.closed = false := by
  unfold settle
  rw [if_neg fun hstop => hends ⟨hstop, hopen, hmistaken⟩]
  exact jump_frame.closed.trans hopen

/-- A record that is not mistaken before an event is so behind it if the event
is one of these. -/
theorem step_mistaken_iff (hopen : s.conn.closed = false) (hnot : ¬ s.conn.Mistaken)
    (hstep : step s e = .ok t) : t.conn.Mistaken ↔ Mistakes s e := by
  have hnot' : ¬ s.arrived.conn.Mistaken := mt (mistaken_congr arrived_resolution).mp hnot
  rcases e with ⟨fd, env⟩ | ⟨fd, env⟩ | ⟨fd, env⟩ | result | errno
  · obtain ⟨-, callback, r, hselect, hcall, rfl⟩ := step_read_ok hstep
    rw [mistaken_congr settle_resolution, onReadReady_mistaken hnot' hselect hcall, Mistakes,
      and_iff_right hopen]
    refine and_congr_right fun hstate => ?_
    rw [(arrived_of_some (stm_of_state hstate (by decide))).2]
  · obtain ⟨-, callback, r, hselect, hcall, rfl⟩ := step_write_ok hstep
    rw [mistaken_congr settle_resolution]
    exact iff_of_false (mt (onWriteReady_sheds hselect hcall).mistaken hnot') id
  · obtain ⟨-, callback, r, u, hselect, hcall, rfl, rfl⟩ := step_block_ok hstep
    refine iff_of_false (mt (mistaken_congr settle_resolution).mp ?_) id
    exact mt (onBlockReady_sheds hselect hcall).mistaken hnot'
  · obtain ⟨-, rfl⟩ := step_resolved_ok_iff.mp hstep
    constructor
    · rintro ⟨hne, hatyp, -⟩
      exact ⟨hopen, hne, hatyp⟩
    · rintro ⟨-, hne, hatyp⟩
      exact ⟨hne, hatyp, rfl⟩
  · obtain ⟨-, rfl⟩ := step_connectFinished_ok_iff.mp hstep
    exact iff_of_false hnot id

/-- Only such an event ends in the release of a foreign address. -/
theorem mistakes_of_invalidFree (hnot : ¬ s.conn.Mistaken)
    (hstep : step s e = .error .invalidFree) : Mistakes s e := by
  have hnot' : ¬ s.arrived.conn.Mistaken := mt (mistaken_congr arrived_resolution).mp hnot
  have hopen : s.conn.closed = false := by
    by_contra hclosed
    rw [step_of_closed (by simpa using hclosed)] at hstep
    cases hstep
  rw [step, hopen] at hstep
  rcases e with ⟨fd, env⟩ | ⟨fd, env⟩ | ⟨fd, env⟩ | result | errno
  · rcases dispatch_fault hstep with ⟨-, hfault⟩ | ⟨callback, hselect, hcall⟩ |
      ⟨⟨callback, r, hselect, hcall, haborts⟩, -⟩
    · cases hfault
    · cases onReadReady_fault hselect hcall
    · obtain ⟨hstate, hmistakes⟩ := (onReadReady_mistaken hnot' hselect hcall).mp haborts.2.2
      rw [(arrived_of_some (stm_of_state hstate (by decide))).2] at hmistakes
      exact ⟨hopen, hstate, hmistakes⟩
  · rcases dispatch_fault hstep with ⟨-, hfault⟩ | ⟨callback, hselect, hcall⟩ |
      ⟨⟨callback, r, hselect, hcall, haborts⟩, -⟩
    · cases hfault
    · cases onWriteReady_fault hselect hcall
    · exact absurd ((onWriteReady_sheds hselect hcall).mistaken haborts.2.2) hnot'
  · have hblock : socksv5Block env ⟨fd, s.address⟩ s = .error .invalidFree := by
      change Except.map _ (socksv5Block env ⟨fd, s.address⟩ s) = _ at hstep
      generalize socksv5Block env ⟨fd, s.address⟩ s = result at hstep ⊢
      rcases result with fault | u
      · exact congrArg _ (Except.error.inj hstep)
      · cases hstep
    rcases dispatch_fault hblock with ⟨-, hfault⟩ | ⟨callback, hselect, hcall⟩ |
      ⟨⟨callback, r, hselect, hcall, haborts⟩, -⟩
    · cases hfault
    · cases onBlockReady_fault hselect hcall
    · exact absurd ((onBlockReady_sheds hselect hcall).mistaken haborts.2.2) hnot'
  · cases hstep
  · cases hstep

/-- Such an event ends in that release, or it leaves a connection in use whose
release will end so. -/
theorem Mistakes.ends (h : Mistakes s e) (hnot : ¬ s.conn.Mistaken) :
    step s e = .error .invalidFree ∨
      ∃ t, step s e = .ok t ∧ t.conn.closed = false ∧ t.conn.Mistaken := by
  rcases e with ⟨fd, env⟩ | ⟨fd, env⟩ | ⟨fd, env⟩ | result | errno
  · obtain ⟨hopen, hstate, hmistakes⟩ := h
    rcases requestRead_relays env ⟨fd, s.address⟩ s with ⟨hconnects, -⟩ | ⟨-, r, hr, -⟩
    · exact absurd hconnects hmistakes.waits
    · have hmistaken := (requestRead_mistaken hnot hr).mpr hmistakes
      have hclosed := (requestRead_frame hr).closed.trans hopen
      rw [step_read_request hstate hopen hr]
      by_cases haborts : Aborts r
      · exact .inl (if_pos haborts)
      · exact .inr ⟨_, if_neg haborts, settle_open haborts hclosed hmistaken,
          (mistaken_congr settle_resolution).mpr hmistaken⟩
  · exact h.elim
  · exact h.elim
  · obtain ⟨hopen, hne, hatyp⟩ := h
    exact .inr ⟨_, step_resolved_ok_iff.mpr ⟨hopen, rfl⟩, hopen, hne, hatyp, rfl⟩
  · exact h.elim

end Event

end Socks5Proxy

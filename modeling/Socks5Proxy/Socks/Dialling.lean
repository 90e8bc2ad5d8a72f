import Socks5Proxy.Socks.Wiring

/-!
# Which callbacks dial

Only the callbacks of REQUEST and CONNECT call `connect`.  A decoder of REQUEST
that does hands one address to `connect_to_dest`; before that, and everywhere
else, the log only gets calls that neither dial nor close.
-/

namespace Socks5Proxy

open Library

/-- From `s` to `t` the origin's descriptor is kept, and no call dials or
closes. -/
structure Mute (s t : Session) : Prop where
  originFd : t.conn.originFd = s.conn.originFd
  calls : ∃ log, t.log = s.log ++ log ∧ ∀ action ∈ log, action.Plain

section Basic

variable {s t u : Session}

theorem Mute.of_same (horigin : t.conn.originFd = s.conn.originFd) (hlog : t.log = s.log) :
    Mute s t :=
  ⟨horigin, [], by rw [hlog, List.append_nil], nofun⟩

theorem Mute.refl (s : Session) : Mute s s := .of_same rfl rfl

theorem Mute.trans (h : Mute s t) (h' : Mute t u) : Mute s u where
  originFd := h'.originFd.trans h.originFd
  calls := by
    obtain ⟨log, hlog, hplain⟩ := h.calls
    obtain ⟨log', hlog', hplain'⟩ := h'.calls
    refine ⟨log ++ log', by rw [hlog', hlog, List.append_assoc], ?_⟩
    intro action haction
    rcases List.mem_append.mp haction with hmem | hmem
    · exact hplain action hmem
    · exact hplain' action hmem

theorem Mute.wire (h : WireFrame s t) : Mute s t := ⟨h.originFd, h.calls⟩

theorem Mute.decode (h : DecodeFrame s t) : Mute s t := ⟨h.originFd, h.calls⟩

theorem Mute.replyWith (h : Mute s t) (rep : UInt8) : Mute s (replyWith rep t).1 :=
  h.trans (.of_same rfl rfl)

theorem Mute.single {c : Socks5} {action : Action} (horigin : c.originFd = s.conn.originFd)
    (hplain : action.Plain) : Mute s (({ s with conn := c }).act action) := by
  refine ⟨horigin, [action], rfl, ?_⟩
  intro a ha
  rw [List.mem_singleton.mp ha]
  exact hplain

end Basic

/-! ## The callbacks that do not dial -/

section Callbacks

variable {s : Session} {env : Env} {key : SelectorKey} {r : Session × SocksV5State}
  {st : SocksV5State} {callback : Session → Except Fault (Session × SocksV5State)}

theorem replyWrite_mute (env : Env) (s : Session) : Mute s (replyWrite env s).1 := by
  rcases hfound : s.conn.reply.foundBndInfo with _ | _
  · rw [replyWrite, if_pos hfound]
    exact .refl s
  · obtain ⟨b, action, hplain, -, hwrite⟩ := replyWrite_eq env s hfound
    have hsent : Mute s (({ s with conn.originBuffer := b }).act action) := .single rfl hplain
    rw [hwrite]
    dsimp only
    split_ifs
    · exact hsent
    · exact hsent
    · exact hsent.trans (.of_same rfl rfl)

theorem onReadReady_mute (hst : st ≠ .request)
    (hselect : (socks5States env key st).onReadReady = some callback)
    (hcall : callback s = .ok r) : Mute s r.1 := by
  rcases st <;> cases hselect
  · rw [← Except.ok.inj hcall]
    exact .wire (greetingRead_wire ..)
  · rw [← Except.ok.inj hcall]
    exact .wire (authRead_wire ..)
  · exact absurd rfl hst
  · rw [← Except.ok.inj hcall]
    exact .wire socksv5CopyRead_wire

theorem onWriteReady_mute (hst : st ≠ .connect)
    (hselect : (socks5States env key st).onWriteReady = some callback)
    (hcall : callback s = .ok r) : Mute s r.1 := by
  rcases st <;> cases hselect
  · rw [← Except.ok.inj hcall]
    exact .wire greetingWrite_wire
  · rw [← Except.ok.inj hcall]
    exact .wire authWrite_wire
  · exact absurd rfl hst
  · rw [← Except.ok.inj hcall]
    exact replyWrite_mute env s
  · rw [← Except.ok.inj hcall]
    exact .wire socksv5CopyWrite_wire

theorem arrived_mute (s : Session) : Mute s s.arrived := by
  obtain ⟨g, hg⟩ := arrived_eq s
  rw [hg]
  exact .of_same rfl rfl

end Callbacks

/-! ## The decoders of REQUEST -/

/-- The decoder hands one address to `connect_to_dest`, or it does not dial. -/
def Relays (env : Env) (key : SelectorKey) (attempts : Prop) (s : Session)
    (result : Except Fault (Session × SocksV5State)) : Prop :=
  attempts ∧ (∃ u, Mute s u ∧ u.conn.originResolution.length = 1 ∧
    result = connectToDest env key u) ∨
  ¬ attempts ∧ ∃ r, result = .ok r ∧ Mute s r.1

section Decoders

variable {s t : Session} {env : Env} {key : SelectorKey} {r : Session × SocksV5State}

theorem Relays.after {attempts : Prop} {result : Except Fault (Session × SocksV5State)}
    (hmute : Mute s t) (h : Relays env key attempts t result) :
    Relays env key attempts s result := by
  rcases h with ⟨hattempts, u, hu, hone, hresult⟩ | ⟨hnone, r, hr, hquiet⟩
  · exact .inl ⟨hattempts, u, hmute.trans hu, hone, hresult⟩
  · exact .inr ⟨hnone, r, hr, hmute.trans hquiet⟩

theorem RequestReadCase.mute (h : RequestReadCase env key False s r) : Mute s r.1 := by
  rcases h with ⟨hframe, -, -⟩ | ⟨hframe, -, -⟩ | ⟨hframe, -, hdecided⟩
  · exact .decode hframe
  · exact .decode hframe
  · rcases hdecided with ⟨-, -⟩ | ⟨-, -, -, hattempts⟩ | ⟨-, hattempts⟩
    · exact (Mute.decode hframe).replyWith _
    · exact hattempts.elim
    · exact hattempts.elim

theorem dstIp_relays (env : Env) (key : SelectorKey) (family : AddressFamily) (len : ℕ)
    (s : Session) :
    Relays env key (env.callocAddr = true ∧ env.callocInfo = true) s
      (dstIp env key (getIpAddress family len) (fun env s => resolveIp env family s) s) := by
  by_cases halloc : env.callocAddr = true ∧ env.callocInfo = true
  · obtain ⟨b, -, hdst⟩ := dstIp_eq env key family len halloc.2 halloc.1 s
    refine .inl ⟨halloc, _, ?_, ?_, hdst⟩
    · exact .of_same rfl rfl
    · rfl
  · have hget := (getIpAddress_decode (s := s) family len).trans getPort_decode
    have hdecode := hget.trans (resolveIp_decode env family)
    have hfound := resolveIp_found env family (getPort (getIpAddress family len s))
    refine .inr ⟨halloc, ?_⟩
    unfold dstIp
    dsimp only
    generalize resolveIp env family (getPort (getIpAddress family len s)) = resolved
      at hdecode hfound
    obtain ⟨u, found⟩ := resolved
    rcases hfound with ⟨hfound, -⟩ | ⟨-, hallocated, -⟩
    · rw [show found = false from hfound]
      exact ⟨_, rfl, (Mute.decode hdecode).replyWith _⟩
    · exact absurd hallocated halloc

theorem dstRes_relays (env : Env) (key : SelectorKey) (addrBytes : UInt8) (s : Session) :
    Relays env key
      (s.conn.request.atyp ≠ fqdn ∧ env.callocAddr = true ∧ env.callocInfo = true) s
      (dstRes env key addrBytes s) := by
  have hip : ∀ family len, s.conn.request.atyp ≠ fqdn → Relays env key
      (s.conn.request.atyp ≠ fqdn ∧ env.callocAddr = true ∧ env.callocInfo = true) s
      (dstIp env key (getIpAddress family len) (fun env s => resolveIp env family s) s) := by
    intro family len hatyp
    rw [and_iff_right hatyp]
    exact dstIp_relays env key family len s
  unfold dstRes
  split_ifs with hipv4 hfqdn
  · refine hip .inet ipv4AddrLen ?_
    rw [hipv4]
    decide
  · obtain ⟨b, u, -, hu, hdst⟩ := dstFqdn_eq env addrBytes s
    have hread : Mute s u := by
      rw [hu]
      exact .of_same rfl rfl
    refine .inr ⟨fun hattempts => hattempts.1 hfqdn, _, rfl, ?_⟩
    rw [hdst]
    split_ifs
    · exact hread.replyWith _
    · refine hread.trans ⟨rfl, [_], rfl, ?_⟩
      intro action haction
      rw [List.mem_singleton.mp haction]
      trivial
  · exact hip .inet6 ipv6AddrLen hfqdn

theorem resolveDstAddress_relays (env : Env) (key : SelectorKey) (s : Session) :
    Relays env key (DstConnects env s) s (resolveDstAddress env key s) := by
  have hrecv := Mute.decode (DecodeFrame.recvClientBuffer (s := s) s.conn.clientFd env.recvDst)
  unfold DstConnects resolveDstAddress
  dsimp only
  generalize (s.recvClientBuffer s.conn.clientFd env.recvDst).2 = t at hrecv ⊢
  refine Relays.after hrecv ?_
  have hlen := dstLen_decode env key False t
  generalize dstLen env t = b at hlen ⊢
  rcases b with ⟨u, st⟩ | ⟨u, addrBytes⟩
  · exact .inr ⟨id, _, rfl, (hlen id).mute⟩
  · exact (dstRes_relays env key addrBytes u).after (.decode hlen.1)

theorem requestRead_relays (env : Env) (key : SelectorKey) (s : Session) :
    Relays env key (ReadConnects env key s) s (requestRead env key s) := by
  unfold ReadConnects requestRead
  split_ifs
  · have hrecv := Mute.decode (DecodeFrame.recvClientBuffer (s := s) key.fd env.recv)
    dsimp only
    generalize (s.recvClientBuffer key.fd env.recv).2 = t at hrecv ⊢
    refine Relays.after hrecv ?_
    have hver := verCmdAtyp_decode env key False t
    generalize verCmdAtyp t = b at hver ⊢
    rcases b with ⟨u, st⟩ | u
    · exact .inr ⟨id, _, rfl, (hver id).mute⟩
    · exact (resolveDstAddress_relays env key u).after (.decode hver.1)
  · exact resolveDstAddress_relays env key s

end Decoders

end Socks5Proxy

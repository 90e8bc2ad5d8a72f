import Socks5Proxy.Socks.Request
import Socks5Proxy.Socks.Trace
import Mathlib.Data.List.Basic
import Mathlib.Data.List.GetD

/-!
# How REQUEST decodes the bytes it has received

Each block of the decoder, as a function of the unread bytes of
`client_buffer`.  A block that reads behind the last byte finds zeros.
-/

namespace Socks5Proxy

/-- `n` calls of `buffer_read` on these unread bytes. -/
def taken (n : ℕ) (bytes : List UInt8) : List UInt8 :=
  bytes.take n ++ List.replicate (n - bytes.length) 0

/-- The port that `get_port` finds in front of these unread bytes. -/
def portOf (bytes : List UInt8) : ℕ :=
  (bytes.getD 0 0).toNat * 256 + (bytes.getD 1 0).toNat

theorem taken_of_le {n : ℕ} (bytes : List UInt8) (h : n ≤ bytes.length) :
    taken n bytes = bytes.take n := by
  simp [taken, Nat.sub_eq_zero_of_le h]

theorem taken_nil (n : ℕ) : taken n [] = List.replicate n 0 := by
  simp [taken]

section Blocks

variable {env : Env} {key : SelectorKey} {s : Session}

/-! ## The header -/

theorem verCmdAtyp_of_short (hne : s.conn.clientBuffer.content ≠ [])
    (hshort : s.conn.clientBuffer.content.length < 4) :
    verCmdAtyp s = .returned s .request := by
  simp [verCmdAtyp, hne, hshort]

theorem verCmdAtyp_of_header {atyp : UInt8} {rest : List UInt8} (hatyp : isValidAtyp atyp = true)
    (h : s.conn.clientBuffer.content = socks5Version :: connectCmd :: rsv :: atyp :: rest) :
    ∃ b, b.content = rest ∧ verCmdAtyp s = .next
      { s with
        conn.clientBuffer := b
        conn.request := ⟨.dstLen, connectCmd, atyp⟩
        conn.atyp := atyp } := by
  have hone : (bufferRead s.conn.clientBuffer).2.content = connectCmd :: rsv :: atyp :: rest := by
    simp [h]
  have htwo : (bufferRead (bufferRead s.conn.clientBuffer).2).2.content = rsv :: atyp :: rest := by
    simp [h]
  have hthree : (bufferRead (bufferRead (bufferRead s.conn.clientBuffer).2).2).2.content =
      atyp :: rest := by
    simp [h]
  refine ⟨(bufferRead (bufferRead (bufferRead (bufferRead s.conn.clientBuffer).2).2).2).2,
    by simp [h], ?_⟩
  have hlen : ¬ s.conn.clientBuffer.content.length < 4 := by
    rw [h]
    simp
  have hne : s.conn.clientBuffer.content.length ≠ 0 := by
    rw [h]
    simp
  simp only [verCmdAtyp, bufferReadPtr_snd, hlen, hne, if_false, bufferRead_fst h,
    bufferRead_fst hone, bufferRead_fst htwo, bufferRead_fst hthree, ne_eq, not_true_eq_false,
    hatyp, Bool.true_eq_false]

/-! ## The length of the destination -/

theorem dstLen_of_nil (hstate : s.conn.request.state = .dstLen)
    (h : s.conn.clientBuffer.content = []) : dstLen env s = .returned s .done := by
  simp [dstLen, hstate, h]

theorem dstLen_ip_short (hstate : s.conn.request.state = .dstLen)
    (hatyp : s.conn.request.atyp ≠ fqdn) (hne : s.conn.clientBuffer.content ≠ [])
    (hshort : s.conn.clientBuffer.content.length <
      (addrBytesByIpVersion s.conn.request.atyp).toNat + 1) :
    dstLen env s = .returned s .request := by
  simp [dstLen, hstate, hatyp, hne, hshort]

theorem dstLen_ip (env : Env) (hstate : s.conn.request.state = .dstLen)
    (hatyp : s.conn.request.atyp ≠ fqdn)
    (hlong : (addrBytesByIpVersion s.conn.request.atyp).toNat + 1 ≤
      s.conn.clientBuffer.content.length) :
    dstLen env s = .next ({ s with conn.request.state := .dstRes },
      addrBytesByIpVersion s.conn.request.atyp) := by
  have hne : s.conn.clientBuffer.content.length ≠ 0 := by omega
  have hlen : ¬ s.conn.clientBuffer.content.length <
      (addrBytesByIpVersion s.conn.request.atyp).toNat + 1 := by omega
  simp only [dstLen, hstate, hatyp, bufferReadPtr_snd, hne, hlen, if_true, if_false]

/-- The length byte of a domain name is consumed before the length is tested. -/
theorem dstLen_fqdn (env : Env) {n : UInt8} {rest : List UInt8}
    (hstate : s.conn.request.state = .dstLen)
    (hatyp : s.conn.request.atyp = fqdn) (h : s.conn.clientBuffer.content = n :: rest) :
    ∃ b, b.content = rest ∧ dstLen env s =
      (if n = 0 then refuse invalidFqdnLenght { s with conn.clientBuffer := b }
      else if rest.length < n.toNat + 1 then
        .returned { s with conn.clientBuffer := b } .request
      else .next
        ({ s with conn.clientBuffer := b, conn.request.state := .dstRes }, n)) := by
  refine ⟨(bufferRead s.conn.clientBuffer).2, by simp [h], ?_⟩
  have hlen : s.conn.clientBuffer.content.length = rest.length + 1 := by simp [h]
  simp only [dstLen, hstate, hatyp, bufferReadPtr_snd, hlen, if_true, bufferRead_fst h,
    Nat.add_sub_cancel, Nat.add_one_ne_zero, if_false]

/-! ## The destination -/

theorem getPort_eq (s : Session) :
    ∃ b, b.content = s.conn.clientBuffer.content.drop 2 ∧ getPort s =
      { s with
        conn.clientBuffer := b
        conn.originPort := decimal (portOf s.conn.clientBuffer.content) } := by
  refine ⟨(bufferRead (bufferRead s.conn.clientBuffer).2).2, by simp, ?_⟩
  simp [getPort, portOf, bufferRead_getD]

theorem getFqdn_eq (lenght : UInt8) (s : Session) :
    ∃ b, b.content = s.conn.clientBuffer.content.drop lenght.toNat ∧ getFqdn lenght s =
      { s with
        conn.clientBuffer := b
        conn.originHost := .name (taken lenght.toNat s.conn.clientBuffer.content) } :=
  ⟨(bufferReadN lenght.toNat s.conn.clientBuffer).2, bufferReadN_snd_content _ _, by
    rw [taken, ← bufferReadN_fst]
    rfl⟩

theorem getIpAddress_eq (family : AddressFamily) (len : ℕ) (s : Session) :
    ∃ b, b.content = s.conn.clientBuffer.content.drop len ∧ getIpAddress family len s =
      { s with
        conn.clientBuffer := b
        conn.originHost := .presentation family (taken len s.conn.clientBuffer.content) } :=
  ⟨(bufferReadN len s.conn.clientBuffer).2, bufferReadN_snd_content _ _, by
    rw [taken, ← bufferReadN_fst]
    rfl⟩

/-- A domain name is read together with the port, and a resolver is started on
them. -/
theorem dstFqdn_eq (env : Env) (addrBytes : UInt8) (s : Session) :
    ∃ b u, b.content = s.conn.clientBuffer.content.drop (addrBytes.toNat + 2) ∧
      u = { s with
        conn.clientBuffer := b
        conn.originHost := .name (taken addrBytes.toNat s.conn.clientBuffer.content)
        conn.originPort :=
          decimal (portOf (s.conn.clientBuffer.content.drop addrBytes.toNat)) } ∧
      dstFqdn env addrBytes s =
        (if env.startThread = false then replyWith serverFailure u
        else ({ u.act (.resolve u.conn.originHost.cString u.conn.originPort) with
          resolvers := u.resolvers + 1 }, .request)) := by
  obtain ⟨b, hb, hfqdn⟩ := getFqdn_eq addrBytes s
  obtain ⟨b', hb', hport⟩ := getPort_eq (getFqdn addrBytes s)
  rw [hfqdn] at hport hb'
  simp only [hb, List.drop_drop] at hport hb'
  refine ⟨b', _, hb', rfl, ?_⟩
  rw [dstFqdn, hfqdn, hport, resolveFqdn]
  cases env.startThread <;> rfl

/-- An address is read together with the port, and its address list is built. -/
theorem dstIp_eq (env : Env) (key : SelectorKey) (family : AddressFamily) (len : ℕ)
    (hinfo : env.callocInfo = true) (haddr : env.callocAddr = true) (s : Session) :
    ∃ b, b.content = s.conn.clientBuffer.content.drop (len + 2) ∧
      dstIp env key (getIpAddress family len) (fun env => resolveIp env family) s =
        connectToDest env key { s with
          conn.clientBuffer := b
          conn.originHost := .presentation family (taken len s.conn.clientBuffer.content)
          conn.originPort := decimal (portOf (s.conn.clientBuffer.content.drop len))
          conn.originResolution :=
            [⟨family, taken len s.conn.clientBuffer.content,
              portOf (s.conn.clientBuffer.content.drop len) % 65536⟩]
          conn.resolvedByName := false } := by
  obtain ⟨b, hb, haddress⟩ := getIpAddress_eq family len s
  obtain ⟨b', hb', hport⟩ := getPort_eq (getIpAddress family len s)
  rw [haddress] at hport hb'
  simp only [hb, List.drop_drop] at hport hb'
  refine ⟨b', hb', ?_⟩
  rw [dstIp, haddress, hport, resolveIp, haddr, hinfo]
  simp [inetPton, atoi_decimal]

/-! ## One read event -/

theorem connectToDestResult_state (ret : UInt8) :
    (connectToDestResult s ret).2 = .connect ∨ (connectToDestResult s ret).2 = .reply := by
  unfold connectToDestResult
  split_ifs <;> first | exact .inr rfl | exact .inl rfl

/-- A first attempt leaves REQUEST. -/
theorem connectToDest_state {r : Session × SocksV5State} (h : connectToDest env key s = .ok r) :
    r.2 = .connect ∨ r.2 = .reply := by
  unfold connectToDest at h
  split at h
  · cases h
    exact .inr rfl
  · split at h
    · cases h
    · cases h
      exact connectToDestResult_state _

/-- The bytes of the destination that a read event has at hand when its `recv`
calls return `got`. -/
def destinationAtHand (s : Session) (got : List UInt8) : List UInt8 :=
  if s.conn.request.state = .verCmdAtyp then (s.conn.clientBuffer.content ++ got).drop 4
  else s.conn.clientBuffer.content ++ got

/-- Its address type. -/
def destinationType (s : Session) (got : List UInt8) : UInt8 :=
  if s.conn.request.state = .verCmdAtyp then (s.conn.clientBuffer.content ++ got).getD 3 0
  else s.conn.request.atyp

/-- Why `request_read` stays in REQUEST.  In the case `domain` the length byte
has been consumed, and what follows it is too short. -/
inductive RequestStay (s t : Session) : Prop
  | header (hstate : t.conn.request.state = .verCmdAtyp)
      (hshort : t.conn.clientBuffer.content.length < 4) (hresolvers : t.resolvers = s.resolvers)
  | address (hstate : t.conn.request.state = .dstLen) (hatyp : t.conn.request.atyp ≠ fqdn)
      (hshort : t.conn.clientBuffer.content.length <
        (addrBytesByIpVersion t.conn.request.atyp).toNat + 1)
      (hresolvers : t.resolvers = s.resolvers)
  | domain (n : UInt8) (got : List UInt8) (hn : n ≠ 0)
      (hstate : t.conn.request.state = .dstLen) (hatyp : t.conn.request.atyp = fqdn)
      (hshort : t.conn.clientBuffer.content.length < n.toNat + 1)
      (hresolvers : t.resolvers = s.resolvers)
      (hgot : allReceived t.log = allReceived s.log ++ got)
      (htype : destinationType s got = fqdn)
      (hbytes : destinationAtHand s got = n :: t.conn.clientBuffer.content)
  | resolving (hstate : t.conn.request.state = .dstRes) (hatyp : t.conn.request.atyp = fqdn)
      (hresolvers : t.resolvers = s.resolvers + 1)

theorem dstIp_state {getAddress : Session → Session} {resolve : Env → Session → Session × Bool}
    {r : Session × SocksV5State} (h : dstIp env key getAddress resolve s = .ok r) :
    r.2 = .connect ∨ r.2 = .reply := by
  unfold dstIp at h
  split at h
  · cases h
    exact .inr rfl
  · exact connectToDest_state h

theorem dstRes_stays {addrBytes : UInt8} {t : Session}
    (hstate : s.conn.request.state = .dstRes)
    (h : dstRes env key addrBytes s = .ok (t, .request)) :
    t.conn.request.state = .dstRes ∧ t.conn.request.atyp = fqdn ∧
      t.resolvers = s.resolvers + 1 := by
  unfold dstRes at h
  split_ifs at h with hipv4 hfqdn
  · rcases dstIp_state h with hst | hst <;> cases hst
  · obtain ⟨b, u, -, hu, heq⟩ := dstFqdn_eq env addrBytes s
    rw [heq] at h
    split_ifs at h
    · simp [replyWith, toReplyState] at h
    · rw [Except.ok.injEq, Prod.mk.injEq] at h
      subst hu
      obtain ⟨rfl, -⟩ := h
      exact ⟨hstate, hfqdn, rfl⟩
  · rcases dstIp_state h with hst | hst <;> cases hst

theorem resolveDstAddress_stays {t : Session} (hstate : s.conn.request.state ≠ .verCmdAtyp)
    (h : resolveDstAddress env key s = .ok (t, .request)) :
    t.conn.request.state ≠ .verCmdAtyp ∧ RequestStay s t := by
  unfold resolveDstAddress at h
  obtain ⟨b, hb, hrecv⟩ := recvClientBuffer_snd s s.conn.clientFd env.recvDst
  simp only [hrecv] at h
  generalize hgot : (bufferRecv s.conn.clientBuffer env.recvDst).1 = readn at hb h
  generalize hu : ({ s with conn.clientBuffer := b }).act
    (recvAction s.conn.clientFd readn) = u at h
  have hrequest : u.conn.request = s.conn.request := by rw [← hu]; rfl
  have hresolvers : u.resolvers = s.resolvers := by rw [← hu]; rfl
  have hcontent : u.conn.clientBuffer.content =
      s.conn.clientBuffer.content ++ readn.getD [] := by rw [← hu]; exact hb
  have hbytes : allReceived u.log = allReceived s.log ++ readn.getD [] := by
    rw [← hu, ← allReceived_recvAction s.conn.clientFd readn]
    exact allReceived_append
  have htype : destinationType s (readn.getD []) = u.conn.request.atyp := by
    rw [destinationType, if_neg hstate, hrequest]
  have hhand : destinationAtHand s (readn.getD []) = u.conn.clientBuffer.content := by
    rw [destinationAtHand, if_neg hstate, hcontent]
  rw [← hrequest] at hstate
  by_cases hres : u.conn.request.state = .dstRes
  · have hlen : dstLen env u = .next (u, env.addrBytes) := by simp [dstLen, hres]
    rw [hlen] at h
    obtain ⟨hdst, hatyp, hmore⟩ := dstRes_stays hres h
    exact ⟨by simp [hdst], .resolving hdst hatyp (by rw [hmore, hresolvers])⟩
  · have hlenState : u.conn.request.state = .dstLen := by
      rcases hcase : u.conn.request.state with _ | _ | _
      · exact absurd hcase hstate
      · rfl
      · exact absurd hcase hres
    rcases hunread : u.conn.clientBuffer.content with _ | ⟨n, rest⟩
    · rw [dstLen_of_nil hlenState hunread] at h
      simp at h
    · by_cases hatyp : u.conn.request.atyp = fqdn
      · obtain ⟨b', hb', hlen⟩ := dstLen_fqdn env hlenState hatyp hunread
        rw [hlen] at h
        split_ifs at h with hn hshort
        · simp [refuse, replyWith, toReplyState] at h
        · rw [Except.ok.injEq, Prod.mk.injEq] at h
          obtain ⟨rfl, -⟩ := h
          refine ⟨hstate, .domain n (readn.getD []) hn hlenState hatyp
            (by simpa [hb'] using hshort) hresolvers hbytes (htype.trans hatyp) ?_⟩
          rw [hhand, hunread, hb']
        · obtain ⟨hdst, hfqdn, hmore⟩ := dstRes_stays rfl h
          exact ⟨by simp [hdst],
            .resolving hdst hfqdn (hmore.trans (congrArg (· + 1) hresolvers))⟩
      · by_cases hshort : u.conn.clientBuffer.content.length <
            (addrBytesByIpVersion u.conn.request.atyp).toNat + 1
        · rw [dstLen_ip_short hlenState hatyp (by simp [hunread]) hshort, Except.ok.injEq,
            Prod.mk.injEq] at h
          obtain ⟨rfl, -⟩ := h
          exact ⟨hstate, .address hlenState hatyp hshort hresolvers⟩
        · rw [dstLen_ip env hlenState hatyp (Nat.not_lt.mp hshort)] at h
          obtain ⟨hdst, hfqdn, hmore⟩ := dstRes_stays rfl h
          exact ⟨by simp [hdst],
            .resolving hdst hfqdn (hmore.trans (congrArg (· + 1) hresolvers))⟩

/-- The header block either ends the event or consumes four bytes. -/
theorem verCmdAtyp_cases (s : Session) :
    (verCmdAtyp s).All
      (fun t st => (st = .request ∧ t = s ∧ s.conn.clientBuffer.content.length < 4) ∨
        st = .done ∨ st = .reply)
      (fun t => t.conn.request.state = .dstLen ∧ t.resolvers = s.resolvers ∧
        t.log = s.log ∧ t.conn.request.atyp = s.conn.clientBuffer.content.getD 3 0 ∧
        4 ≤ s.conn.clientBuffer.content.length ∧
        t.conn.clientBuffer.content = s.conn.clientBuffer.content.drop 4) := by
  unfold verCmdAtyp
  dsimp only
  split_ifs with hnil hshort
  · exact .inr (.inl rfl)
  · exact .inl ⟨rfl, rfl, by simpa using hshort⟩
  · exact .inr (.inr rfl)
  · exact .inr (.inr rfl)
  · exact .inr (.inr rfl)
  · exact .inr (.inr rfl)
  · refine ⟨rfl, rfl, rfl, by simp [bufferRead_getD], ?_, by simp⟩
    rw [bufferReadPtr_snd] at hshort
    omega

theorem requestRead_stays {t : Session} (h : requestRead env key s = .ok (t, .request)) :
    RequestStay s t := by
  unfold requestRead at h
  split_ifs at h with hstate
  · obtain ⟨b, hb, hrecv⟩ := recvClientBuffer_snd s key.fd env.recv
    simp only [hrecv] at h
    generalize hgot : (bufferRecv s.conn.clientBuffer env.recv).1 = readn at hb h
    generalize hu : ({ s with conn.clientBuffer := b }).act (recvAction key.fd readn) = u at h
    have hcontent : u.conn.clientBuffer.content =
        s.conn.clientBuffer.content ++ readn.getD [] := by rw [← hu]; exact hb
    have hbytes : allReceived u.log = allReceived s.log ++ readn.getD [] := by
      rw [← hu, ← allReceived_recvAction key.fd readn]
      exact allReceived_append
    have hresolvers : u.resolvers = s.resolvers := by rw [← hu]; rfl
    have hheader := verCmdAtyp_cases u
    cases hver : verCmdAtyp u with
    | returned v st =>
        rw [hver] at h hheader
        simp only [Except.ok.injEq, Prod.mk.injEq] at h
        obtain ⟨rfl, rfl⟩ := h
        rcases hheader with ⟨-, rfl, hshort⟩ | hst | hst
        · exact .header (by rw [← hu]; exact hstate) hshort hresolvers
        · cases hst
        · cases hst
    | next v =>
        rw [hver] at h hheader
        obtain ⟨hv, hvresolvers, hvlog, hvatyp, hlong, hvcontent⟩ := hheader
        obtain ⟨hpast, hstay⟩ := resolveDstAddress_stays (by rw [hv]; decide) h
        rcases hstay with ⟨hst, -, -⟩ | ⟨hst, hatyp, hshort, hsame⟩ |
          ⟨n, got, hn, hst, hatyp, hshort, hsame, hmore, htype, hhand⟩ |
          ⟨hst, hatyp, hmore⟩
        · exact absurd hst hpast
        · exact .address hst hatyp hshort (by rw [hsame, hvresolvers, hresolvers])
        · refine .domain n (readn.getD [] ++ got) hn hst hatyp hshort
            (by rw [hsame, hvresolvers, hresolvers]) ?_ ?_ ?_
          · rw [hmore, hvlog, hbytes, List.append_assoc]
          · rw [destinationType, if_neg (by rw [hv]; decide), hvatyp] at htype
            rw [destinationType, if_pos hstate, ← List.append_assoc, ← hcontent,
              List.getD_append _ _ _ _ hlong]
            exact htype
          · rw [destinationAtHand, if_neg (by rw [hv]; decide), hvcontent] at hhand
            rw [destinationAtHand, if_pos hstate, ← List.append_assoc, ← hcontent,
              List.drop_append_of_le_length hlong]
            exact hhand
        · exact .resolving hst hatyp (by rw [hmore, hvresolvers, hresolvers])
  · exact (resolveDstAddress_stays hstate h).2

end Blocks

end Socks5Proxy

import Socks5Proxy.Socks.Wiring

/-!
# The two connection counters inside a callback

No callback counts connections.  COPY counts bytes, which are other counters of
the same snapshot; the rest of the callbacks leave the snapshot alone.
-/

namespace Socks5Proxy

open Library

/-- The counters of connections are the same. -/
structure SameCounts (m m' : MetricSnapshot) : Prop where
  current : m'.currentConnections = m.currentConnections
  total : m'.totalConnections = m.totalConnections

theorem SameCounts.refl (m : MetricSnapshot) : SameCounts m m := ⟨rfl, rfl⟩

theorem SameCounts.of_eq {m m' : MetricSnapshot} (h : m' = m) : SameCounts m m' := by
  rw [h]
  exact .refl m

theorem SameCounts.trans {m m' m'' : MetricSnapshot} (h : SameCounts m m')
    (h' : SameCounts m' m'') : SameCounts m m'' :=
  ⟨h'.current.trans h.current, h'.total.trans h.total⟩

/-- `register_bytes_transferred` counts no connection. -/
theorem registerBytesTransferred_same (m : MetricSnapshot) (received sent : ℤ) :
    SameCounts m (registerBytesTransferred m received sent) := ⟨rfl, rfl⟩

/-- A block of a reader that leaves the snapshot alone. -/
def MetricsKept {τ : Type} (s : Session) (session : τ → Session) (b : SocksBlock τ) : Prop :=
  b.All (fun t _ => t.metrics = s.metrics) fun x => (session x).metrics = s.metrics

section Handshake

variable {s t : Session} {env : Env} {key : SelectorKey}

theorem MetricsKept.after {τ : Type} {session : τ → Session} {b : SocksBlock τ}
    (h : t.metrics = s.metrics) (hb : MetricsKept t session b) : MetricsKept s session b :=
  Block.All.mono hb (fun _ _ ht => ht.trans h) fun _ hx => hx.trans h

theorem MetricsKept.andThen {τ τ' : Type} {session : τ → Session} {session' : τ' → Session}
    {b : SocksBlock τ} {f : τ → SocksBlock τ'} (hb : MetricsKept s session b)
    (hf : ∀ x, MetricsKept (session x) session' (f x)) :
    MetricsKept s session' (b.andThen f) :=
  Block.All.andThen hb fun x hx => (hf x).after hx

theorem recvClientBuffer_metrics (fd : ℤ) (answer : Option (List UInt8)) :
    (s.recvClientBuffer fd answer).2.metrics = s.metrics := by
  obtain ⟨b, -, hsnd⟩ := recvClientBuffer_snd s fd answer
  rw [hsnd]
  rfl

theorem sendOriginBuffer_metrics (fd : ℤ) (answer : Option ℕ) :
    (s.sendOriginBuffer fd answer).2.metrics = s.metrics := by
  rcases answer with _ | k <;> rfl

theorem greetingVerNNmethods_metrics : MetricsKept s id (greetingVerNNmethods s) := by
  unfold greetingVerNNmethods
  dsimp only
  repeat' split
  all_goals exact rfl

theorem greetingMethods_metrics : MetricsKept s id (greetingMethods key s) := by
  unfold greetingMethods
  dsimp only
  repeat' split
  all_goals exact rfl

theorem greetingRead_metrics : (greetingRead env key s).1.metrics = s.metrics := by
  have hrecv := recvClientBuffer_metrics (s := s) key.fd env.recv
  unfold greetingRead
  generalize s.recvClientBuffer key.fd env.recv = r at hrecv ⊢
  obtain ⟨readn, u⟩ := r
  have hblocks : MetricsKept u id ((greetingVerNNmethods u).andThen (greetingMethods key)) :=
    greetingVerNNmethods_metrics.andThen fun _ => greetingMethods_metrics
  rcases readn with _ | got
  · exact hrecv
  · dsimp only
    split_ifs
    · exact hrecv
    · generalize (greetingVerNNmethods u).andThen (greetingMethods key) = b at hblocks ⊢
      rcases b with ⟨t, st⟩ | t <;> exact Eq.trans hblocks hrecv

theorem greetingWrite_metrics : (greetingWrite env key s).1.metrics = s.metrics := by
  have hsend := sendOriginBuffer_metrics (s := s) s.conn.clientFd env.send
  unfold greetingWrite
  generalize s.sendOriginBuffer s.conn.clientFd env.send = r at hsend ⊢
  obtain ⟨written, u⟩ := r
  dsimp only
  repeat' split
  all_goals exact hsend

theorem authVer_metrics (p : Session × ℕ) : MetricsKept p.1 Prod.fst (authVer p.1 p.2) := by
  unfold authVer
  dsimp only
  repeat' split
  all_goals exact rfl

theorem authUlen_metrics (p : Session × ℕ) : MetricsKept p.1 Prod.fst (authUlen p.1 p.2) := by
  unfold authUlen
  dsimp only
  repeat' split
  all_goals exact rfl

theorem authUname_metrics (p : Session × ℕ) : MetricsKept p.1 Prod.fst (authUname p.1 p.2) := by
  unfold authUname
  dsimp only
  repeat' split
  all_goals exact rfl

theorem authPlen_metrics (p : Session × ℕ) : MetricsKept p.1 Prod.fst (authPlen p.1 p.2) := by
  unfold authPlen
  dsimp only
  repeat' split
  all_goals exact rfl

theorem checkCredentials_metrics : (checkCredentials env s).metrics = s.metrics := by
  unfold checkCredentials
  dsimp only
  split <;> rfl

theorem authPasswd_metrics (env : Env) (key : SelectorKey) (p : Session × ℕ) :
    MetricsKept p.1 Prod.fst (authPasswd env key p.1 p.2) := by
  unfold authPasswd
  dsimp only
  split
  · split
    · exact rfl
    · exact checkCredentials_metrics
  · exact rfl

theorem authRead_metrics : (authRead env key s).1.metrics = s.metrics := by
  have hrecv := recvClientBuffer_metrics (s := s) key.fd env.recv
  unfold authRead
  generalize s.recvClientBuffer key.fd env.recv = r at hrecv ⊢
  obtain ⟨readn, u⟩ := r
  rcases readn with _ | got
  · exact hrecv
  · have hblocks := fun toRead => ((((authVer_metrics (u, toRead)).andThen
      authUlen_metrics).andThen authUname_metrics).andThen authPlen_metrics).andThen
      (authPasswd_metrics env key)
    specialize hblocks (bufferReadPtr u.conn.clientBuffer).2
    dsimp only at hblocks ⊢
    split_ifs
    · exact hrecv
    · generalize Block.andThen _ _ = b at hblocks ⊢
      rcases b with ⟨t, st⟩ | p <;> exact Eq.trans hblocks hrecv

theorem authWrite_metrics : (authWrite env key s).1.metrics = s.metrics := by
  have hsend := sendOriginBuffer_metrics (s := s) s.conn.clientFd env.send
  unfold authWrite
  generalize s.sendOriginBuffer s.conn.clientFd env.send = r at hsend ⊢
  obtain ⟨written, u⟩ := r
  dsimp only
  repeat' split
  all_goals exact hsend

end Handshake

section Request

variable {s t : Session} {env : Env} {key : SelectorKey} {r : Session × SocksV5State}

theorem tryAddress_metrics (env : Env) (key : SelectorKey) (round : ℕ) (ai : SockAddr)
    (aiNext : List SockAddr) (s : Session) :
    (tryAddress env key round ai aiNext s).All (fun t _ => t.metrics = s.metrics)
      fun t => t.metrics = s.metrics := by
  unfold tryAddress
  dsimp only
  repeat' split
  all_goals exact rfl

/-- By induction on the addresses. -/
theorem tryAddresses_metrics {round : ℕ} {addresses : List SockAddr} {ret : UInt8}
    (h : tryAddresses env key round addresses s = .ok (t, ret)) : t.metrics = s.metrics := by
  induction addresses generalizing round s with
  | nil => cases h
  | cons ai aiNext ih =>
      have hround := tryAddress_metrics env key round ai aiNext s
      unfold tryAddresses at h
      generalize tryAddress env key round ai aiNext s = b at h hround
      rcases b with ⟨u, ret'⟩ | u
      · cases h
        exact hround
      · exact (ih h).trans hround

theorem connectToDest_metrics (h : connectToDest env key s = .ok r) :
    r.1.metrics = s.metrics := by
  unfold connectToDest at h
  split at h
  · rw [← Except.ok.inj h]
    rfl
  · split at h
    · cases h
    · next t ret htry =>
        have htried := tryAddresses_metrics htry
        rw [← Except.ok.inj h]
        unfold connectToDestResult
        split_ifs <;> exact htried

theorem dstIp_metrics (family : AddressFamily) (len : ℕ)
    (h : dstIp env key (getIpAddress family len) (fun env s => resolveIp env family s) s = .ok r) :
    r.1.metrics = s.metrics := by
  have hresolve : (resolveIp env family (getPort (getIpAddress family len s))).1.metrics =
      s.metrics := by
    unfold resolveIp
    split_ifs <;> rfl
  unfold dstIp at h
  dsimp only at h
  generalize resolveIp env family (getPort (getIpAddress family len s)) = resolved at h hresolve
  obtain ⟨u, found⟩ := resolved
  rcases found with _ | _
  · rw [← Except.ok.inj h]
    exact hresolve
  · exact (connectToDest_metrics h).trans hresolve

theorem dstFqdn_metrics (addrBytes : UInt8) :
    (dstFqdn env addrBytes s).1.metrics = s.metrics := by
  have hread : (getPort (getFqdn addrBytes s)).metrics = s.metrics := rfl
  unfold dstFqdn resolveFqdn
  generalize getPort (getFqdn addrBytes s) = t at hread ⊢
  by_cases hthread : env.startThread = false
  · rw [if_pos hthread]
    exact hread
  · rw [if_neg hthread]
    exact hread

theorem dstRes_metrics {addrBytes : UInt8} (h : dstRes env key addrBytes s = .ok r) :
    r.1.metrics = s.metrics := by
  unfold dstRes at h
  split_ifs at h
  · exact dstIp_metrics .inet ipv4AddrLen h
  · rw [← Except.ok.inj h]
    exact dstFqdn_metrics addrBytes
  · exact dstIp_metrics .inet6 ipv6AddrLen h

theorem dstLen_metrics (env : Env) (s : Session) : MetricsKept s Prod.fst (dstLen env s) := by
  unfold dstLen
  dsimp only
  repeat' split
  all_goals exact rfl

theorem resolveDstAddress_metrics (h : resolveDstAddress env key s = .ok r) :
    r.1.metrics = s.metrics := by
  have hrecv := recvClientBuffer_metrics (s := s) s.conn.clientFd env.recvDst
  unfold resolveDstAddress at h
  dsimp only at h
  generalize (s.recvClientBuffer s.conn.clientFd env.recvDst).2 = t at h hrecv
  have hlen := dstLen_metrics env t
  generalize dstLen env t = b at h hlen
  rcases b with ⟨u, st⟩ | ⟨u, addrBytes⟩
  · rw [← Except.ok.inj h]
    exact Eq.trans hlen hrecv
  · exact (dstRes_metrics h).trans (Eq.trans hlen hrecv)

theorem verCmdAtyp_metrics : MetricsKept s id (verCmdAtyp s) := by
  unfold verCmdAtyp
  dsimp only
  repeat' split
  all_goals exact rfl

theorem requestRead_metrics (h : requestRead env key s = .ok r) : r.1.metrics = s.metrics := by
  unfold requestRead at h
  split_ifs at h
  · have hrecv := recvClientBuffer_metrics (s := s) key.fd env.recv
    dsimp only at h
    generalize (s.recvClientBuffer key.fd env.recv).2 = t at h hrecv
    have hver := verCmdAtyp_metrics (s := t)
    generalize verCmdAtyp t = b at h hver
    rcases b with ⟨u, st⟩ | u
    · rw [← Except.ok.inj h]
      exact Eq.trans hver hrecv
    · exact (resolveDstAddress_metrics h).trans (Eq.trans hver hrecv)
  · exact resolveDstAddress_metrics h

theorem connectWrite_metrics (h : connectWrite env key s = .ok r) : r.1.metrics = s.metrics := by
  unfold connectWrite at h
  split at h
  · rw [← Except.ok.inj h]
    rfl
  · split at h
    · dsimp only at h
      split at h
      · cases h
      · rw [← Except.ok.inj h]
        rfl
      · split at h
        · cases h
        · next t ret htry =>
            have htried : t.metrics = s.metrics :=
              tryAddresses_metrics (s := getNextResolution (dropOrigin s)) htry
            rcases connectWriteResult_cases h with ⟨rep, -, rfl⟩ | ⟨-, rfl⟩ | ⟨-, rfl⟩
            · exact htried
            · exact htried
            · exact htried
    · split at h
      · cases h
      · next u hlog =>
          rw [← Except.ok.inj h, printConnectionAccessLog_eq hlog]
          rfl

theorem replyArrival_metrics : (replyArrival env s).metrics = s.metrics := by
  obtain ⟨b, found, harrival⟩ := replyArrival_eq env s
  rw [harrival]

theorem replyWrite_metrics : (replyWrite env s).1.metrics = s.metrics := by
  have hsend := sendOriginBuffer_metrics (s := s) s.conn.clientFd env.send
  unfold replyWrite
  split_ifs
  · rfl
  · dsimp only
    generalize (s.sendOriginBuffer s.conn.clientFd env.send).2 = t at hsend ⊢
    split_ifs <;> exact hsend

end Request

section Copy

variable {s : Session} {env : Env} {key : SelectorKey} {x : Side}

theorem setCopyInterests_metrics {i : FdInterest} :
    (s.setCopyInterests x i).metrics = s.metrics := by
  rcases x <;> rfl

theorem setBuffer_metrics {b : Buffer} : (s.setBuffer x b).metrics = s.metrics := by
  rcases x <;> rfl

theorem afterTransfer_metrics (a b : Side) : (afterTransfer s a b).1.metrics = s.metrics := by
  unfold afterTransfer
  rcases hupdate : updateTargetInterests s a with _ | u
  · dsimp only
    unfold updateTargetInterestsFailed
    dsimp only
    split <;> rfl
  · dsimp only
    rw [copyResult_fst]
    unfold updateTargetInterests at hupdate
    dsimp only at hupdate
    split at hupdate
    · split at hupdate
      · rw [← Option.some.inj hupdate, setCopyInterests_metrics, setCopyInterests_metrics]
      · cases hupdate
    · cases hupdate

theorem shutRead_metrics : (shutRead s x).metrics = s.metrics :=
  setCopyInterests_metrics (s := s.act (.shutdown (s.copySt x).fd .rd))

theorem shutWrite_metrics : (shutWrite s x).metrics = s.metrics :=
  setCopyInterests_metrics (s := s.act (.shutdown (s.copySt x).fd .wr))

theorem socksv5CopyRead_same :
    SameCounts s.metrics (socksv5CopyRead env key s).1.metrics := by
  unfold socksv5CopyRead
  dsimp only
  split
  · exact .refl _
  · split
    · rw [afterTransfer_metrics]
      refine (SameCounts.of_eq ?_).trans (registerBytesTransferred_same _ _ _)
      exact setBuffer_metrics
    · rw [copyResult_fst, shutWrite_metrics, shutRead_metrics]
      exact .refl _
    · rw [copyResult_fst, shutWrite_metrics, shutRead_metrics]
      exact .refl _

theorem socksv5CopyWrite_same :
    SameCounts s.metrics (socksv5CopyWrite env key s).1.metrics := by
  unfold socksv5CopyWrite
  dsimp only
  split
  · exact .refl _
  · split
    · rw [afterTransfer_metrics]
      refine (SameCounts.of_eq ?_).trans (registerBytesTransferred_same _ _ _)
      exact setBuffer_metrics
    · rw [copyResult_fst, shutRead_metrics, shutWrite_metrics]
      exact .refl _
    · rw [copyResult_fst, shutRead_metrics, shutWrite_metrics]
      exact .refl _

end Copy

/-! ## The callbacks of the table -/

section Table

variable {s : Session} {env : Env} {key : SelectorKey} {st : SocksV5State}
  {r : Session × SocksV5State} {callback : Session → Except Fault (Session × SocksV5State)}

theorem arrived_metrics (s : Session) : s.arrived.metrics = s.metrics := by
  obtain ⟨g, hg⟩ := arrived_eq s
  rw [hg]

theorem arrival_metrics (env : Env) (key : SelectorKey) (st : SocksV5State) (s : Session) :
    (callIfSome (socks5States env key st).onArrival s).metrics = s.metrics := by
  rcases st
  · rfl
  · rfl
  · rfl
  · rfl
  · exact replyArrival_metrics
  · rfl
  · rfl
  · rfl

theorem onReadReady_metrics (hselect : (socks5States env key st).onReadReady = some callback)
    (hcall : callback s = .ok r) (hst : st ≠ .copy) : r.1.metrics = s.metrics := by
  rcases st <;> cases hselect
  · rw [← Except.ok.inj hcall]
    exact greetingRead_metrics
  · rw [← Except.ok.inj hcall]
    exact authRead_metrics
  · exact requestRead_metrics hcall
  · exact absurd rfl hst

theorem onWriteReady_metrics (hselect : (socks5States env key st).onWriteReady = some callback)
    (hcall : callback s = .ok r) (hst : st ≠ .copy) : r.1.metrics = s.metrics := by
  rcases st <;> cases hselect
  · rw [← Except.ok.inj hcall]
    exact greetingWrite_metrics
  · rw [← Except.ok.inj hcall]
    exact authWrite_metrics
  · exact connectWrite_metrics hcall
  · rw [← Except.ok.inj hcall]
    exact replyWrite_metrics
  · exact absurd rfl hst

theorem onBlockReady_metrics (hselect : (socks5States env key st).onBlockReady = some callback)
    (hcall : callback s = .ok r) : r.1.metrics = s.metrics := by
  rcases st <;> cases hselect
  exact connectToDest_metrics hcall

theorem onReadReady_same (hselect : (socks5States env key st).onReadReady = some callback)
    (hcall : callback s = .ok r) : SameCounts s.metrics r.1.metrics := by
  by_cases hst : st = .copy
  · subst hst
    cases hselect
    rw [← Except.ok.inj hcall]
    exact socksv5CopyRead_same
  · exact .of_eq (onReadReady_metrics hselect hcall hst)

theorem onWriteReady_same (hselect : (socks5States env key st).onWriteReady = some callback)
    (hcall : callback s = .ok r) : SameCounts s.metrics r.1.metrics := by
  by_cases hst : st = .copy
  · subst hst
    cases hselect
    rw [← Except.ok.inj hcall]
    exact socksv5CopyWrite_same
  · exact .of_eq (onWriteReady_metrics hselect hcall hst)

theorem onBlockReady_same (hselect : (socks5States env key st).onBlockReady = some callback)
    (hcall : callback s = .ok r) : SameCounts s.metrics r.1.metrics :=
  .of_eq (onBlockReady_metrics hselect hcall)

end Table

end Socks5Proxy

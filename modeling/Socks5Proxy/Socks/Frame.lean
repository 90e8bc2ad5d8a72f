import Socks5Proxy.Socks.Dispatch

/-!
# What no callback changes

A callback leaves the identity of the connection alone, adds to the log, and
keeps the shape of the two buffers.  `Frame` is proved once for each callback
and lifted to `step`.
-/

namespace Socks5Proxy

open Library

/-- What every callback keeps. -/
structure Frame (s t : Session) : Prop where
  address : t.address = s.address
  clientFd : t.conn.clientFd = s.conn.clientFd
  closed : t.conn.closed = s.conn.closed
  stm : t.conn.stm = s.conn.stm
  log : s.log <+: t.log
  clientBuffer : s.conn.clientBuffer.Keeps t.conn.clientBuffer
  originBuffer : s.conn.originBuffer.Keeps t.conn.originBuffer

section Basic

variable {s t u : Session} {fd : ℤ}

theorem Frame.refl (s : Session) : Frame s s :=
  ⟨rfl, rfl, rfl, rfl, List.prefix_rfl, .refl, .refl⟩

theorem Frame.trans (h : Frame s t) (h' : Frame t u) : Frame s u where
  address := h'.address.trans h.address
  clientFd := h'.clientFd.trans h.clientFd
  closed := h'.closed.trans h.closed
  stm := h'.stm.trans h.stm
  log := h.log.trans h'.log
  clientBuffer := h.clientBuffer.trans h'.clientBuffer
  originBuffer := h.originBuffer.trans h'.originBuffer

theorem Frame.of_conn {c : Socks5} (hfd : c.clientFd = s.conn.clientFd)
    (hclosed : c.closed = s.conn.closed) (hstm : c.stm = s.conn.stm)
    (hclient : s.conn.clientBuffer.Keeps c.clientBuffer)
    (horigin : s.conn.originBuffer.Keeps c.originBuffer) : Frame s { s with conn := c } :=
  ⟨rfl, hfd, hclosed, hstm, List.prefix_rfl, hclient, horigin⟩

theorem Frame.act (action : Action) : Frame s (s.act action) :=
  ⟨rfl, rfl, rfl, rfl, List.prefix_append _ _, .refl, .refl⟩

theorem Frame.of_sel (sel : FdSelector FdHandler ℕ) : Frame s { s with sel := sel } :=
  ⟨rfl, rfl, rfl, rfl, List.prefix_rfl, .refl, .refl⟩

theorem Frame.setInterest (fd : ℤ) (i : FdInterest) : Frame s (s.setInterest fd i) :=
  Frame.of_sel _

theorem Frame.writeOriginBuffer (bytes : List UInt8) : Frame s (s.writeOriginBuffer bytes) :=
  Frame.of_conn rfl rfl rfl .refl (keeps_bufferWriteAll bytes)

theorem Frame.recvClientBuffer (fd : ℤ) (answer : Option (List UInt8)) :
    Frame s (s.recvClientBuffer fd answer).2 := by
  have hbuffer : Frame s { s with
      conn.clientBuffer := (bufferRecv s.conn.clientBuffer answer).2 } :=
    Frame.of_conn rfl rfl rfl (keeps_bufferRecv answer) .refl
  cases answer <;> exact hbuffer.trans (Frame.act _)

theorem Frame.sendOriginBuffer (fd : ℤ) (answer : Option ℕ) :
    Frame s (s.sendOriginBuffer fd answer).2 := by
  have hbuffer : Frame s { s with
      conn.originBuffer := (bufferSend s.conn.originBuffer answer).2 } :=
    Frame.of_conn rfl rfl rfl .refl (keeps_bufferSend answer)
  cases answer <;> exact hbuffer.trans (Frame.act _)

end Basic

/-! ## GREETING and AUTH -/

/-- The calls the handshake makes. -/
def Action.Handshake : Action → Prop
  | .recv _ _ | .recvFailed _ | .send _ _ | .sendFailed _ | .authenticate _ => True
  | _ => False

/-- The callbacks of GREETING and AUTH keep more: the origin, the resolver
threads and the registrations, and they make no other calls. -/
structure HandshakeFrame (s t : Session) : Prop extends Frame s t where
  originFd : t.conn.originFd = s.conn.originFd
  resolvers : t.resolvers = s.resolvers
  dataOf : ∀ fd, t.sel.dataOf fd = s.sel.dataOf fd
  jobs : t.sel.resolutionJobs = s.sel.resolutionJobs
  calls : ∀ action ∈ t.log, action ∈ s.log ∨ action.Handshake

section HandshakeBasic

variable {s t u : Session}

theorem HandshakeFrame.refl (s : Session) : HandshakeFrame s s :=
  ⟨.refl s, rfl, rfl, fun _ => rfl, rfl, fun _ h => .inl h⟩

theorem HandshakeFrame.trans (h : HandshakeFrame s t) (h' : HandshakeFrame t u) :
    HandshakeFrame s u where
  toFrame := h.toFrame.trans h'.toFrame
  originFd := h'.originFd.trans h.originFd
  resolvers := h'.resolvers.trans h.resolvers
  dataOf := fun fd => (h'.dataOf fd).trans (h.dataOf fd)
  jobs := h'.jobs.trans h.jobs
  calls := fun action haction => by
    rcases h'.calls action haction with hold | hnew
    · exact h.calls action hold
    · exact .inr hnew

theorem HandshakeFrame.of_conn {c : Socks5} (hfd : c.clientFd = s.conn.clientFd)
    (hclosed : c.closed = s.conn.closed) (hstm : c.stm = s.conn.stm)
    (horiginFd : c.originFd = s.conn.originFd)
    (hclient : s.conn.clientBuffer.Keeps c.clientBuffer)
    (horigin : s.conn.originBuffer.Keeps c.originBuffer) :
    HandshakeFrame s { s with conn := c } :=
  ⟨.of_conn hfd hclosed hstm hclient horigin, horiginFd, rfl, fun _ => rfl, rfl,
    fun _ h => .inl h⟩

theorem HandshakeFrame.act (action : Action) (h : action.Handshake) :
    HandshakeFrame s (s.act action) := by
  refine ⟨.act action, rfl, rfl, fun _ => rfl, rfl, ?_⟩
  intro a ha
  rcases List.mem_append.mp ha with hold | hnew
  · exact .inl hold
  · rw [List.mem_singleton.mp hnew]
    exact .inr h

theorem HandshakeFrame.setInterest (fd : ℤ) (i : FdInterest) :
    HandshakeFrame s (s.setInterest fd i) :=
  ⟨.setInterest fd i, rfl, rfl, fun _ => dataOf_selectorSetInterest,
    resolutionJobs_selectorSetInterest, fun _ h => .inl h⟩

theorem HandshakeFrame.writeOriginBuffer (bytes : List UInt8) :
    HandshakeFrame s (s.writeOriginBuffer bytes) :=
  .of_conn rfl rfl rfl rfl .refl (keeps_bufferWriteAll bytes)

theorem HandshakeFrame.recvClientBuffer (fd : ℤ) (answer : Option (List UInt8)) :
    HandshakeFrame s (s.recvClientBuffer fd answer).2 := by
  have hbuffer : HandshakeFrame s { s with
      conn.clientBuffer := (bufferRecv s.conn.clientBuffer answer).2 } :=
    .of_conn rfl rfl rfl rfl (keeps_bufferRecv answer) .refl
  cases answer <;> exact hbuffer.trans (.act _ trivial)

theorem HandshakeFrame.sendOriginBuffer (fd : ℤ) (answer : Option ℕ) :
    HandshakeFrame s (s.sendOriginBuffer fd answer).2 := by
  have hbuffer : HandshakeFrame s { s with
      conn.originBuffer := (bufferSend s.conn.originBuffer answer).2 } :=
    .of_conn rfl rfl rfl rfl .refl (keeps_bufferSend answer)
  cases answer <;> exact hbuffer.trans (.act _ trivial)

end HandshakeBasic

section Handshake

variable {s : Session} {env : Env} {key : SelectorKey} {toRead : ℕ}

theorem greetingScan_keeps (n : ℕ) (b : Buffer) (method : UInt8) :
    b.Keeps (greetingScan n b method).1 := by
  induction n generalizing b method with
  | zero => exact .refl
  | succ n ih =>
      unfold greetingScan
      split
      · dsimp only
        split
        · exact keeps_bufferRead
        · split <;> exact keeps_bufferRead.trans (ih _ _)
      · exact .refl

theorem greetingVerNNmethods_frame :
    (greetingVerNNmethods s).All (fun t _ => HandshakeFrame s t) (HandshakeFrame s) := by
  unfold greetingVerNNmethods
  dsimp only
  have hver := keeps_bufferRead (b := s.conn.clientBuffer)
  have hboth := hver.trans keeps_bufferRead
  split
  · split
    · exact HandshakeFrame.refl s
    · split
      · exact HandshakeFrame.of_conn rfl rfl rfl rfl hver .refl
      · split <;> exact HandshakeFrame.of_conn rfl rfl rfl rfl hboth .refl
  · exact HandshakeFrame.refl s

theorem greetingMethods_frame :
    (greetingMethods key s).All (fun t _ => HandshakeFrame s t) (HandshakeFrame s) := by
  unfold greetingMethods
  dsimp only
  split
  · split
    · exact HandshakeFrame.refl s
    · refine HandshakeFrame.trans ?_ (HandshakeFrame.setInterest _ _)
      refine HandshakeFrame.trans ?_ (HandshakeFrame.writeOriginBuffer _)
      exact HandshakeFrame.of_conn rfl rfl rfl rfl (greetingScan_keeps _ _ _) .refl
  · exact HandshakeFrame.refl s

theorem greetingRead_frame : HandshakeFrame s (greetingRead env key s).1 := by
  have hrecv := HandshakeFrame.recvClientBuffer (s := s) key.fd env.recv
  unfold greetingRead
  generalize s.recvClientBuffer key.fd env.recv = r at hrecv ⊢
  obtain ⟨readn, u⟩ := r
  have hblocks : ((greetingVerNNmethods u).andThen (greetingMethods key)).All
      (fun t _ => HandshakeFrame u t) (HandshakeFrame u) :=
    greetingVerNNmethods_frame.andThen fun v hv =>
      greetingMethods_frame.mono (fun _ _ ht => hv.trans ht) fun _ ht => hv.trans ht
  cases readn with
  | none => exact hrecv
  | some bytes =>
      dsimp only
      split
      · exact hrecv
      · generalize (greetingVerNNmethods u).andThen (greetingMethods key) = b at hblocks ⊢
        cases b <;> exact hrecv.trans hblocks

theorem greetingWrite_frame (env : Env) (key : SelectorKey) (s : Session) :
    HandshakeFrame s (greetingWrite env key s).1 := by
  have hsend := HandshakeFrame.sendOriginBuffer (s := s) s.conn.clientFd env.send
  unfold greetingWrite
  generalize s.sendOriginBuffer s.conn.clientFd env.send = r at hsend ⊢
  obtain ⟨written, u⟩ := r
  cases written with
  | none => exact hsend
  | some bytes =>
      dsimp only
      repeat' split
      · exact hsend
      · exact hsend.trans (HandshakeFrame.setInterest _ _)
      · exact hsend.trans (HandshakeFrame.setInterest _ _)

theorem authVer_frame (s : Session) (toRead : ℕ) :
    (authVer s toRead).All (fun t _ => HandshakeFrame s t) (fun t => HandshakeFrame s t.1) := by
  unfold authVer
  dsimp only
  repeat' split
  · exact HandshakeFrame.refl s
  · exact HandshakeFrame.of_conn rfl rfl rfl rfl keeps_bufferRead .refl
  · exact HandshakeFrame.of_conn rfl rfl rfl rfl keeps_bufferRead .refl
  · exact HandshakeFrame.refl s

theorem authUlen_frame (s : Session) (toRead : ℕ) :
    (authUlen s toRead).All (fun t _ => HandshakeFrame s t) (fun t => HandshakeFrame s t.1) := by
  unfold authUlen
  dsimp only
  repeat' split
  · exact HandshakeFrame.refl s
  · exact HandshakeFrame.of_conn rfl rfl rfl rfl keeps_bufferRead .refl
  · exact HandshakeFrame.of_conn rfl rfl rfl rfl keeps_bufferRead .refl
  · exact HandshakeFrame.refl s

theorem authUname_frame (s : Session) (toRead : ℕ) :
    (authUname s toRead).All (fun t _ => HandshakeFrame s t) (fun t => HandshakeFrame s t.1) := by
  unfold authUname
  dsimp only
  repeat' split
  · exact HandshakeFrame.refl s
  · exact HandshakeFrame.of_conn rfl rfl rfl rfl (keeps_bufferReadN _) .refl
  · exact HandshakeFrame.refl s

theorem authPlen_frame (s : Session) (toRead : ℕ) :
    (authPlen s toRead).All (fun t _ => HandshakeFrame s t) (fun t => HandshakeFrame s t.1) := by
  unfold authPlen
  dsimp only
  repeat' split
  · exact HandshakeFrame.refl s
  · exact HandshakeFrame.of_conn rfl rfl rfl rfl keeps_bufferRead .refl
  · exact HandshakeFrame.of_conn rfl rfl rfl rfl keeps_bufferRead .refl
  · exact HandshakeFrame.refl s

theorem checkCredentials_frame : HandshakeFrame s (checkCredentials env s) := by
  unfold checkCredentials
  dsimp only
  split
  · exact HandshakeFrame.act _ trivial
  · exact HandshakeFrame.act _ trivial
  · exact (HandshakeFrame.act (.authenticate _) trivial).trans
      (HandshakeFrame.of_conn rfl rfl rfl rfl .refl .refl)

theorem authPasswd_frame (env : Env) (key : SelectorKey) (s : Session) (toRead : ℕ) :
    (authPasswd env key s toRead).All (fun t _ => HandshakeFrame s t)
      (fun t => HandshakeFrame s t.1) := by
  unfold authPasswd
  dsimp only
  split
  · split
    · exact HandshakeFrame.refl s
    · refine HandshakeFrame.trans ?_ (HandshakeFrame.setInterest _ _)
      refine HandshakeFrame.trans ?_ (HandshakeFrame.writeOriginBuffer _)
      refine HandshakeFrame.trans ?_ checkCredentials_frame
      exact HandshakeFrame.of_conn rfl rfl rfl rfl (keeps_bufferReadN _) .refl
  · exact HandshakeFrame.refl s

theorem authRead_frame (env : Env) (key : SelectorKey) (s : Session) :
    HandshakeFrame s (authRead env key s).1 := by
  have hrecv := HandshakeFrame.recvClientBuffer (s := s) key.fd env.recv
  unfold authRead
  generalize s.recvClientBuffer key.fd env.recv = r at hrecv ⊢
  obtain ⟨readn, u⟩ := r
  cases readn with
  | none => exact hrecv
  | some bytes =>
      dsimp only
      split
      · exact hrecv
      · have hstep : ∀ {v : Session} {b : SocksBlock (Session × ℕ)}, HandshakeFrame u v →
            b.All (fun t _ => HandshakeFrame v t) (fun t => HandshakeFrame v t.1) →
            b.All (fun t _ => HandshakeFrame u t) (fun t => HandshakeFrame u t.1) :=
          fun hv hb => hb.mono (fun _ _ ht => hv.trans ht) fun _ ht => hv.trans ht
        have hblocks :=
          (((authVer_frame u (bufferReadPtr u.conn.clientBuffer).2).andThen
            fun v hv => hstep hv (authUlen_frame v.1 v.2)).andThen
            fun v hv => hstep hv (authUname_frame v.1 v.2)).andThen
            fun v hv => hstep hv (authPlen_frame v.1 v.2)
        have hall := hblocks.andThen
          fun v hv => hstep hv (authPasswd_frame env key v.1 v.2)
        split
        · next hb =>
            rw [hb] at hall
            exact hrecv.trans hall
        · next hb =>
            rw [hb] at hall
            exact hrecv.trans hall

theorem authWrite_frame (env : Env) (key : SelectorKey) (s : Session) :
    HandshakeFrame s (authWrite env key s).1 := by
  have hsend := HandshakeFrame.sendOriginBuffer (s := s) s.conn.clientFd env.send
  unfold authWrite
  generalize s.sendOriginBuffer s.conn.clientFd env.send = r at hsend ⊢
  obtain ⟨written, u⟩ := r
  cases written with
  | none => exact hsend
  | some bytes =>
      dsimp only
      repeat' split
      · exact hsend
      · exact hsend
      · exact hsend.trans (HandshakeFrame.setInterest _ _)

end Handshake

/-! ## REQUEST, CONNECT and REPLY -/

section Request

variable {s t : Session} {env : Env} {key : SelectorKey} {r : Session × SocksV5State}

theorem toReplyState_frame : Frame s (toReplyState s).1 := Frame.setInterest _ _

theorem replyWith_frame (rep : UInt8) : Frame s (replyWith rep s).1 := by
  unfold replyWith
  refine Frame.trans ?_ toReplyState_frame
  exact Frame.of_conn rfl rfl rfl .refl .refl

theorem closeOriginFd_frame : Frame s (closeOriginFd s) :=
  (Frame.act _).trans (Frame.of_conn rfl rfl rfl .refl .refl)

theorem getNextResolution_frame : Frame s (getNextResolution s) :=
  Frame.of_conn rfl rfl rfl .refl .refl

theorem tryAddress_frame (env : Env) (key : SelectorKey) (round : ℕ) (ai : SockAddr)
    (aiNext : List SockAddr) (s : Session) :
    (tryAddress env key round ai aiNext s).All (fun t _ => Frame s t) (Frame s) := by
  have hsocket : Frame s { s with conn.originFd := (env.attempts round).socket } :=
    Frame.of_conn rfl rfl rfl .refl .refl
  unfold tryAddress
  dsimp only
  split
  · exact hsocket.trans getNextResolution_frame
  · split
    · exact (hsocket.trans closeOriginFd_frame).trans getNextResolution_frame
    · have hconnect := hsocket.trans (Frame.act
        (.connect (env.attempts round).socket ai (env.attempts round).connect))
      split
      · exact hconnect
      · split
        · split <;> exact hconnect.trans (Frame.of_sel _)
        · split
          · exact ((hconnect.trans (Frame.of_sel _)).trans closeOriginFd_frame).trans
              getNextResolution_frame
          · exact hconnect

theorem tryAddresses_frame {round : ℕ} {addresses : List SockAddr} {ret : UInt8}
    (h : tryAddresses env key round addresses s = .ok (t, ret)) : Frame s t := by
  induction addresses generalizing round s with
  | nil => cases h
  | cons ai aiNext ih =>
      have hframe := tryAddress_frame env key round ai aiNext s
      unfold tryAddresses at h
      generalize tryAddress env key round ai aiNext s = b at h hframe
      cases b with
      | returned u ret' =>
          cases h
          exact hframe
      | next u => exact Frame.trans hframe (ih h)

theorem connectToDestResult_frame (ret : UInt8) : Frame s (connectToDestResult s ret).1 := by
  unfold connectToDestResult
  repeat' split
  all_goals first
    | exact replyWith_frame _
    | exact Frame.setInterest _ _
    | exact (Frame.setInterest _ _).trans (replyWith_frame _)

theorem connectToDest_frame (h : connectToDest env key s = .ok r) : Frame s r.1 := by
  unfold connectToDest at h
  split at h
  · cases h
    exact replyWith_frame _
  · split at h
    · cases h
    · next u ret htry =>
        cases h
        exact (tryAddresses_frame htry).trans (connectToDestResult_frame _)

theorem resolveIp_frame (family : AddressFamily) : Frame s (resolveIp env family s).1 := by
  unfold resolveIp
  repeat' split
  · exact Frame.refl s
  · exact Frame.refl s
  · exact Frame.of_conn rfl rfl rfl .refl .refl

theorem getPort_frame : Frame s (getPort s) :=
  Frame.of_conn rfl rfl rfl (keeps_bufferRead.trans keeps_bufferRead) .refl

theorem getIpAddress_frame (family : AddressFamily) (len : ℕ) :
    Frame s (getIpAddress family len s) :=
  Frame.of_conn rfl rfl rfl (keeps_bufferReadN len) .refl

theorem getFqdn_frame (lenght : UInt8) : Frame s (getFqdn lenght s) :=
  Frame.of_conn rfl rfl rfl (keeps_bufferReadN lenght.toNat) .refl

theorem resolveFqdn_frame (env : Env) (s : Session) : Frame s (resolveFqdn env s).1 := by
  unfold resolveFqdn
  split
  · exact Frame.refl s
  · exact (Frame.act (.resolve s.conn.originHost.cString s.conn.originPort)).trans
      ⟨rfl, rfl, rfl, rfl, List.prefix_rfl, .refl, .refl⟩

theorem refuse_frame {τ : Type} {Q : τ → Prop} (rep : UInt8) (h : Frame s t) :
    (refuse rep t : SocksBlock τ).All (fun u _ => Frame s u) Q :=
  h.trans (replyWith_frame rep)

theorem dstLen_frame (env : Env) (s : Session) :
    (dstLen env s).All (fun t _ => Frame s t) (fun t => Frame s t.1) := by
  have hread : Frame s { s with conn.clientBuffer := (bufferRead s.conn.clientBuffer).2 } :=
    Frame.of_conn rfl rfl rfl keeps_bufferRead .refl
  unfold dstLen
  dsimp only
  repeat' split
  · exact Frame.refl s
  · exact refuse_frame _ hread
  · exact hread
  · exact hread.trans (Frame.of_conn rfl rfl rfl .refl .refl)
  · exact Frame.refl s
  · exact Frame.of_conn rfl rfl rfl .refl .refl
  · exact Frame.refl s

theorem dstIp_frame {getAddress : Session → Session}
    {resolve : Env → Session → Session × Bool} (hget : ∀ s, Frame s (getAddress s))
    (hresolve : ∀ s, Frame s (resolve env s).1)
    (h : dstIp env key getAddress resolve s = .ok r) : Frame s r.1 := by
  have hread := ((hget s).trans getPort_frame).trans (hresolve (getPort (getAddress s)))
  unfold dstIp at h
  split at h
  · next u hu =>
      rw [hu] at hread
      cases h
      exact hread.trans (replyWith_frame _)
  · next u hu =>
      rw [hu] at hread
      exact hread.trans (connectToDest_frame h)

theorem dstFqdn_frame (addrBytes : UInt8) : Frame s (dstFqdn env addrBytes s).1 := by
  have hread := (getFqdn_frame (s := s) addrBytes).trans getPort_frame
  have hresolve := resolveFqdn_frame env (getPort (getFqdn addrBytes s))
  unfold dstFqdn
  split
  · next u hu =>
      rw [hu] at hresolve
      exact (hread.trans hresolve).trans (replyWith_frame _)
  · next u hu =>
      rw [hu] at hresolve
      exact hread.trans hresolve

theorem dstRes_frame {addrBytes : UInt8} (h : dstRes env key addrBytes s = .ok r) :
    Frame s r.1 := by
  unfold dstRes at h
  split at h
  · exact dstIp_frame (fun _ => getIpAddress_frame _ _) (fun _ => resolveIp_frame _) h
  · split at h
    · cases h
      exact dstFqdn_frame _
    · exact dstIp_frame (fun _ => getIpAddress_frame _ _) (fun _ => resolveIp_frame _) h

theorem resolveDstAddress_frame (h : resolveDstAddress env key s = .ok r) : Frame s r.1 := by
  have hrecv := Frame.recvClientBuffer (s := s) s.conn.clientFd env.recvDst
  have hlen := dstLen_frame env (s.recvClientBuffer s.conn.clientFd env.recvDst).2
  unfold resolveDstAddress at h
  dsimp only at h
  split at h
  · next u ret hu =>
      rw [hu] at hlen
      cases h
      exact hrecv.trans hlen
  · next u addrBytes hu =>
      rw [hu] at hlen
      exact (hrecv.trans hlen).trans (dstRes_frame h)

theorem verCmdAtyp_frame :
    (verCmdAtyp s).All (fun t _ => Frame s t) (Frame s) := by
  have hone : s.conn.clientBuffer.Keeps (bufferRead s.conn.clientBuffer).2 := keeps_bufferRead
  have htwo := hone.trans keeps_bufferRead
  have hthree := htwo.trans keeps_bufferRead
  have hfour := hthree.trans keeps_bufferRead
  unfold verCmdAtyp
  dsimp only
  repeat' split
  · exact Frame.refl s
  · exact Frame.refl s
  · exact refuse_frame _ (Frame.of_conn rfl rfl rfl hone .refl)
  · exact refuse_frame _ (Frame.of_conn rfl rfl rfl htwo .refl)
  · exact refuse_frame _ (Frame.of_conn rfl rfl rfl hthree .refl)
  · exact refuse_frame _ (Frame.of_conn rfl rfl rfl hfour .refl)
  · exact Frame.of_conn rfl rfl rfl hfour .refl

theorem requestRead_frame (h : requestRead env key s = .ok r) : Frame s r.1 := by
  unfold requestRead at h
  split at h
  · have hrecv := Frame.recvClientBuffer (s := s) key.fd env.recv
    have hver := verCmdAtyp_frame (s := (s.recvClientBuffer key.fd env.recv).2)
    dsimp only at h
    split at h
    · next u ret hu =>
        rw [hu] at hver
        cases h
        exact hrecv.trans hver
    · next u hu =>
        rw [hu] at hver
        exact (hrecv.trans hver).trans (resolveDstAddress_frame h)
  · exact resolveDstAddress_frame h

theorem printConnectionAccessLog_eq (h : printConnectionAccessLog s = .ok t) : t = s := by
  unfold printConnectionAccessLog at h
  split at h <;> cases h
  rfl

/-- What `connect_write` does with the code of a further attempt. -/
theorem connectWriteResult_cases {ret : UInt8} (h : connectWriteResult s ret = .ok r) :
    (∃ rep, rep ≠ succeded ∧ r = replyWith rep s) ∨
      (ret = connectionInProgress ∧ r = (s, .connect)) ∨
      (ret ∉ [generalFailure, selectorRegisterFailed, networkUnreachable, hostUnreachable,
          connectionRefused, ttlExpired, connectionInProgress] ∧
        r = replyWith succeded (s.setInterest s.conn.originFd .opNoop)) := by
  unfold connectWriteResult at h
  split_ifs at h with h0 h1 h2 h3 h4 h5 h6
  · cases h
    exact .inl ⟨_, by decide, rfl⟩
  · cases h
    exact .inl ⟨_, by decide, rfl⟩
  · cases h
    exact .inl ⟨ret, by rw [h2]; decide, rfl⟩
  · cases h
    exact .inl ⟨ret, by rw [h3]; decide, rfl⟩
  · cases h
    exact .inl ⟨ret, by rw [h4]; decide, rfl⟩
  · cases h
    exact .inl ⟨ret, by rw [h5]; decide, rfl⟩
  · cases h
    exact .inr (.inl ⟨h6, rfl⟩)
  · cases hlog : printConnectionAccessLog s with
    | error fault =>
        rw [hlog] at h
        cases h
    | ok u =>
        rw [hlog] at h
        cases h
        rw [printConnectionAccessLog_eq hlog]
        exact .inr (.inr ⟨by simp [h0, h1, h2, h3, h4, h5, h6], rfl⟩)

theorem connectWriteResult_frame {ret : UInt8} (h : connectWriteResult s ret = .ok r) :
    Frame s r.1 := by
  rcases connectWriteResult_cases h with ⟨rep, -, rfl⟩ | ⟨-, rfl⟩ | ⟨-, rfl⟩
  · exact replyWith_frame rep
  · exact Frame.refl s
  · exact (Frame.setInterest _ _).trans (replyWith_frame _)

theorem dropOrigin_frame : Frame s (dropOrigin s) :=
  (Frame.of_sel _).trans closeOriginFd_frame

/-- CONNECT waits for the attempt or replies. -/
theorem connectWrite_state (h : connectWrite env key s = .ok r) :
    r.2 = .connect ∨ r.2 = .reply := by
  unfold connectWrite at h
  split at h
  · cases h
    exact .inr rfl
  · dsimp only at h
    split at h
    · split at h
      · cases h
      · cases h
        exact .inr rfl
      · split at h
        · cases h
        · rcases connectWriteResult_cases h with ⟨rep, -, rfl⟩ | ⟨-, rfl⟩ | ⟨-, rfl⟩
          · exact .inr rfl
          · exact .inl rfl
          · exact .inr rfl
    · split at h
      · cases h
      · cases h
        exact .inr rfl

theorem connectWrite_frame (h : connectWrite env key s = .ok r) : Frame s r.1 := by
  unfold connectWrite at h
  split at h
  · cases h
    exact replyWith_frame _
  · split at h
    · dsimp only at h
      split at h
      · cases h
      · cases h
        exact dropOrigin_frame.trans (replyWith_frame _)
      · split at h
        · cases h
        · next u ret htry =>
            exact ((dropOrigin_frame.trans getNextResolution_frame).trans
              (tryAddresses_frame htry)).trans (connectWriteResult_frame h)
    · split at h
      · cases h
      · next u hu =>
          cases h
          rw [printConnectionAccessLog_eq hu]
          exact (Frame.setInterest _ _).trans (replyWith_frame _)

theorem replyArrival_frame : Frame s (replyArrival env s) := by
  unfold replyArrival
  dsimp only
  have hthree := Frame.writeOriginBuffer (s := s) [socks5Version, s.conn.reply.rep, rsv]
  split
  · exact hthree.trans (Frame.of_conn rfl rfl rfl .refl .refl)
  · exact ((hthree.trans (Frame.writeOriginBuffer _)).trans (Frame.writeOriginBuffer _)).trans
      (Frame.of_conn rfl rfl rfl .refl .refl)

/-- Queueing a reply touches `origin_buffer` and one flag. -/
theorem replyArrival_eq (env : Env) (s : Session) :
    ∃ b found, replyArrival env s =
      { s with
        conn.originBuffer := b
        conn.reply.foundBndInfo := found } := by
  unfold replyArrival
  dsimp only
  simp only [Session.writeOriginBuffer]
  split
  · exact ⟨_, false, rfl⟩
  · exact ⟨_, true, rfl⟩

theorem replyWrite_frame : Frame s (replyWrite env s).1 := by
  have hsend := Frame.sendOriginBuffer (s := s) s.conn.clientFd env.send
  unfold replyWrite
  split
  · exact Frame.refl s
  · dsimp only
    repeat' split
    · exact hsend
    · exact hsend
    · exact hsend.trans (Frame.setInterest _ _)

end Request

/-! ## COPY -/

section Copy

variable {s t : Session} {env : Env} {key : SelectorKey}

theorem setBuffer_frame {side : Side} {b : Buffer} (h : (s.buffer side).Keeps b) :
    Frame s (s.setBuffer side b) := by
  cases side with
  | client => exact Frame.of_conn rfl rfl rfl h .refl
  | origin => exact Frame.of_conn rfl rfl rfl .refl h

theorem setCopyInterests_frame (side : Side) (i : FdInterest) :
    Frame s (s.setCopyInterests side i) := by
  cases side <;> exact Frame.of_conn rfl rfl rfl .refl .refl

theorem updateTargetInterests_frame {target : Side}
    (h : updateTargetInterests s target = some t) : Frame s t := by
  unfold updateTargetInterests at h
  dsimp only at h
  split at h
  · split at h
    · cases h
      exact ((Frame.of_sel _).trans (setCopyInterests_frame _ _)).trans
        (setCopyInterests_frame _ _)
    · cases h
  · cases h

theorem updateTargetInterestsFailed_frame (target : Side) :
    Frame s (updateTargetInterestsFailed s target) := by
  unfold updateTargetInterestsFailed
  dsimp only
  split <;> exact Frame.of_sel _

theorem afterTransfer_frame (a b : Side) : Frame s (afterTransfer s a b).1 := by
  unfold afterTransfer
  cases h : updateTargetInterests s a with
  | none => exact updateTargetInterestsFailed_frame a
  | some u =>
      dsimp only
      rw [copyResult]
      split <;> exact updateTargetInterests_frame h

theorem copyResult_frame (a b : Side) : Frame s (copyResult s a b).1 := by
  unfold copyResult
  split <;> exact Frame.refl s

theorem shutRead_frame (side : Side) : Frame s (shutRead s side) :=
  ((Frame.act _).trans (setCopyInterests_frame _ _)).trans (Frame.setInterest _ _)

theorem shutWrite_frame (side : Side) : Frame s (shutWrite s side) :=
  ((Frame.act _).trans (setCopyInterests_frame _ _)).trans (Frame.setInterest _ _)

theorem metrics_frame (m : MetricSnapshot) : Frame s { s with metrics := m } :=
  ⟨rfl, rfl, rfl, rfl, List.prefix_rfl, .refl, .refl⟩

theorem socksv5CopyRead_frame : Frame s (socksv5CopyRead env key s).1 := by
  unfold socksv5CopyRead
  dsimp only
  split
  · exact Frame.refl s
  · generalize (s.copySt (s.copySt (keySide key s)).otherCopySt).buffer = side
    generalize (s.copySt (keySide key s)).fd = fd
    have hkeeps := keeps_bufferRecv (b := s.buffer side) env.recv
    generalize bufferRecv (s.buffer side) env.recv = r at hkeeps ⊢
    obtain ⟨readBytes, b⟩ := r
    dsimp only
    split
    · exact (((setBuffer_frame hkeeps).trans (Frame.act _)).trans (metrics_frame _)).trans
        (afterTransfer_frame _ _)
    · exact (((Frame.act _).trans (shutRead_frame _)).trans (shutWrite_frame _)).trans
        (copyResult_frame _ _)
    · exact (((Frame.act _).trans (shutRead_frame _)).trans (shutWrite_frame _)).trans
        (copyResult_frame _ _)

theorem socksv5CopyWrite_frame : Frame s (socksv5CopyWrite env key s).1 := by
  unfold socksv5CopyWrite
  dsimp only
  split
  · exact Frame.refl s
  · generalize (s.copySt (keySide key s)).buffer = side
    generalize (s.copySt (keySide key s)).fd = fd
    have hkeeps := keeps_bufferSend (b := s.buffer side) env.send
    generalize bufferSend (s.buffer side) env.send = r at hkeeps ⊢
    obtain ⟨writtenBytes, b⟩ := r
    dsimp only
    split
    · exact (((setBuffer_frame hkeeps).trans (Frame.act _)).trans (metrics_frame _)).trans
        (afterTransfer_frame _ _)
    · exact (((Frame.act _).trans (shutWrite_frame _)).trans (shutRead_frame _)).trans
        (copyResult_frame _ _)
    · exact (((Frame.act _).trans (shutWrite_frame _)).trans (shutRead_frame _)).trans
        (copyResult_frame _ _)

theorem socksv5CopyArrival_frame : Frame s (socksv5CopyArrival s) := by
  unfold socksv5CopyArrival
  refine Frame.trans ?_ (Frame.setInterest _ _)
  refine Frame.trans ?_ (Frame.setInterest _ _)
  exact Frame.of_conn rfl rfl rfl .refl .refl

end Copy

/-! ## One event -/

section Step

variable {s t : Session} {env : Env} {key : SelectorKey} {st : SocksV5State}
  {r : Session × SocksV5State}

theorem arrived_frame : Frame s s.arrived := by
  unfold Session.arrived
  split
  · exact Frame.of_conn rfl rfl rfl .refl .refl
  · exact Frame.refl s

theorem arrived_handshake : HandshakeFrame s s.arrived := by
  unfold Session.arrived
  split
  · exact .of_conn rfl rfl rfl rfl .refl .refl
  · exact .refl s

/-- The first arrival touches nothing but the greeting. -/
theorem arrived_eq (s : Session) : ∃ g, s.arrived = { s with conn.greeting := g } := by
  unfold Session.arrived
  split
  · exact ⟨_, rfl⟩
  · exact ⟨s.conn.greeting, rfl⟩

theorem arrival_frame : Frame s (callIfSome (socks5States env key st).onArrival s) := by
  cases st
  · exact Frame.of_conn rfl rfl rfl .refl .refl
  · exact Frame.of_conn rfl rfl rfl .refl .refl
  · exact Frame.of_conn rfl rfl rfl .refl .refl
  · exact Frame.refl s
  · exact replyArrival_frame
  · exact socksv5CopyArrival_frame
  · exact Frame.refl s
  · exact Frame.refl s

theorem jump_frame {next : SocksV5State} :
    Frame s (jump (socks5States env key) st next s) := by
  unfold jump
  split
  · rw [departure_eq]
    exact arrival_frame
  · exact Frame.refl s

/-- The callbacks of every state keep the frame. -/
theorem onReadReady_frame {callback : Session → Except Fault (Session × SocksV5State)}
    (hselect : (socks5States env key st).onReadReady = some callback)
    (h : callback s = .ok r) : Frame s r.1 := by
  cases st <;> cases hselect
  · cases h
    exact greetingRead_frame.toFrame
  · cases h
    exact (authRead_frame ..).toFrame
  · exact requestRead_frame h
  · cases h
    exact socksv5CopyRead_frame

theorem onWriteReady_frame {callback : Session → Except Fault (Session × SocksV5State)}
    (hselect : (socks5States env key st).onWriteReady = some callback)
    (h : callback s = .ok r) : Frame s r.1 := by
  cases st <;> cases hselect
  · cases h
    exact (greetingWrite_frame ..).toFrame
  · cases h
    exact (authWrite_frame ..).toFrame
  · exact connectWrite_frame h
  · cases h
    exact replyWrite_frame
  · cases h
    exact socksv5CopyWrite_frame

theorem onBlockReady_frame {callback : Session → Except Fault (Session × SocksV5State)}
    (hselect : (socks5States env key st).onBlockReady = some callback)
    (h : callback s = .ok r) : Frame s r.1 := by
  cases st <;> cases hselect
  exact connectToDest_frame h

/-- What an event keeps, teardown included. -/
structure Persists (s t : Session) : Prop where
  address : t.address = s.address
  clientFd : t.conn.clientFd = s.conn.clientFd
  log : s.log <+: t.log
  clientBuffer : s.conn.clientBuffer.Keeps t.conn.clientBuffer
  originBuffer : s.conn.originBuffer.Keeps t.conn.originBuffer

theorem Frame.persists (h : Frame s t) : Persists s t :=
  ⟨h.address, h.clientFd, h.log, h.clientBuffer, h.originBuffer⟩

theorem Persists.trans {u : Session} (h : Persists s t) (h' : Persists t u) : Persists s u where
  address := h'.address.trans h.address
  clientFd := h'.clientFd.trans h.clientFd
  log := h.log.trans h'.log
  clientBuffer := h.clientBuffer.trans h'.clientBuffer
  originBuffer := h.originBuffer.trans h'.originBuffer

theorem closeWith_id_frame : Frame s (closeWith id env key s) := by
  unfold closeWith stmHandlerClose
  cases hstm : s.conn.stm with
  | none => exact metrics_frame _
  | some st =>
      dsimp only
      rw [departure_eq]
      exact metrics_frame _

theorem unregisterFd_frame {onClose : Session → Session} (h : Frame s (onClose s)) {fd : ℤ} :
    Frame s (unregisterFd onClose s fd) := by
  unfold unregisterFd
  split
  · exact Frame.refl s
  · split
    · exact Frame.refl s
    · dsimp only
      split
      · exact h.trans (Frame.of_sel _)
      · exact Frame.of_sel _

theorem releaseFd_frame {fd : ℤ} : Frame s (releaseFd env key fd s) := by
  unfold releaseFd
  split
  · exact (unregisterFd_frame closeWith_id_frame).trans (Frame.act _)
  · exact Frame.refl s

theorem teardown_persists : Persists s (teardown env key s) := by
  unfold teardown
  split
  · exact (Frame.refl s).persists
  · have hclosed : Persists s { s with conn.closed := true } :=
      ⟨rfl, rfl, List.prefix_rfl, .refl, .refl⟩
    exact hclosed.trans
      ((releaseFd_frame.trans releaseFd_frame).trans (Frame.act _)).persists

theorem settle_persists : Persists r.1 (settle env key st r) := by
  have hjump : Persists r.1
      { jump (socks5States env key) st r.2 r.1 with conn.stm := some r.2 } :=
    jump_frame.persists.trans ⟨rfl, rfl, List.prefix_rfl, .refl, .refl⟩
  unfold settle
  dsimp only
  split
  · exact hjump.trans teardown_persists
  · exact hjump

theorem step_persists {e : Event} (h : step s e = .ok t) : Persists s t := by
  cases e with
  | read fd env =>
      obtain ⟨-, callback, r, hselect, hcall, rfl⟩ := step_read_ok h
      exact (arrived_frame.trans (onReadReady_frame hselect hcall)).persists.trans
        settle_persists
  | write fd env =>
      obtain ⟨-, callback, r, hselect, hcall, rfl⟩ := step_write_ok h
      exact (arrived_frame.trans (onWriteReady_frame hselect hcall)).persists.trans
        settle_persists
  | block fd env =>
      obtain ⟨-, callback, r, u, hselect, hcall, rfl, rfl⟩ := step_block_ok h
      exact ((arrived_frame.trans (onBlockReady_frame hselect hcall)).persists.trans
        settle_persists).trans (Frame.of_sel _).persists
  | resolved result =>
      obtain ⟨-, rfl⟩ := step_resolved_ok_iff.mp h
      exact ⟨rfl, rfl, List.prefix_rfl, .refl, .refl⟩
  | connectFinished errno =>
      obtain ⟨-, rfl⟩ := step_connectFinished_ok_iff.mp h
      exact (Frame.act _).persists

theorem not_aborts_of_connecting (h : r.2 = .connect ∨ r.2 = .reply) : ¬ Aborts r := by
  rintro ⟨hstop, -⟩
  rcases h with h | h <;> rw [h] at hstop <;> simp at hstop

theorem step_write_connect_iff {fd : ℤ} (hstate : s.state = .connect)
    (hopen : s.conn.closed = false) :
    step s (.write fd env) = .ok t ↔
      ∃ r, connectWrite env ⟨fd, s.address⟩ s = .ok r ∧
        t = settle env ⟨fd, s.address⟩ .connect r := by
  obtain ⟨-, harrived⟩ := arrived_of_some (stm_of_state hstate (by decide))
  constructor
  · intro h
    obtain ⟨-, callback, r, hselect, hcall, ht⟩ := step_write_ok h
    rw [hstate] at hselect ht
    cases hselect
    rw [harrived] at hcall
    exact ⟨r, hcall, ht⟩
  · rintro ⟨r, hcall, rfl⟩
    rw [step_write_connect hstate hopen hcall]
    exact if_neg (not_aborts_of_connecting (connectWrite_state hcall))

theorem Persists.refl (s : Session) : Persists s s := (Frame.refl s).persists

/-- What a whole run keeps. -/
theorem run_persists {es : List Event} (h : run step s es = .ok t) : Persists s t := by
  induction es generalizing s with
  | nil =>
      cases h
      exact Persists.refl t
  | cons e es ih =>
      obtain ⟨u, hu, hut⟩ := run_cons_ok_iff.mp h
      exact (step_persists hu).trans (ih hut)

theorem clientBytes_of_persists (h : Persists s t) :
    ∃ more, clientBytes t = clientBytes s ++ more := by
  obtain ⟨log, hlog⟩ := h.log
  exact ⟨_, clientBytes_append h.clientFd hlog.symm⟩

end Step

end Socks5Proxy

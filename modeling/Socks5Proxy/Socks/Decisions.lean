import Socks5Proxy.Socks.Frame

/-!
# How a request is decided

The decoder of REQUEST touches the input buffer only until it refuses the
request, starts a resolver or hands over to the connection attempts.  The
inductive types here list the ways the callbacks of REQUEST and CONNECT end,
with what each leaves of the origin socket and of the registrations.
-/

namespace Socks5Proxy

/-! ## Before the decision -/

/-- Calls that neither connect nor end anything. -/
def Action.Plain : Action → Prop
  | .connect _ _ _ | .connectFinished _ _ | .close _ | .free => False
  | _ => True

/-- What the decoder of REQUEST leaves alone besides the frame. -/
structure DecodeFrame (s t : Session) : Prop extends Frame s t where
  sel : t.sel = s.sel
  originFd : t.conn.originFd = s.conn.originFd
  originBufferEq : t.conn.originBuffer = s.conn.originBuffer
  calls : ∃ log, t.log = s.log ++ log ∧ ∀ action ∈ log, action.Plain

section Decode

variable {s t u : Session} {env : Env}

theorem DecodeFrame.refl (s : Session) : DecodeFrame s s :=
  ⟨.refl s, rfl, rfl, rfl, [], (List.append_nil _).symm, nofun⟩

theorem DecodeFrame.trans (h : DecodeFrame s t) (h' : DecodeFrame t u) : DecodeFrame s u where
  toFrame := h.toFrame.trans h'.toFrame
  sel := h'.sel.trans h.sel
  originFd := h'.originFd.trans h.originFd
  originBufferEq := h'.originBufferEq.trans h.originBufferEq
  calls := by
    obtain ⟨log, hlog, hplain⟩ := h.calls
    obtain ⟨log', hlog', hplain'⟩ := h'.calls
    refine ⟨log ++ log', by rw [hlog', hlog, List.append_assoc], ?_⟩
    intro action haction
    rcases List.mem_append.mp haction with hmem | hmem
    · exact hplain action hmem
    · exact hplain' action hmem

/-- A change of the record that only the input buffer takes part in. -/
theorem DecodeFrame.of_conn {c : Socks5} (h : Frame s { s with conn := c })
    (horiginFd : c.originFd = s.conn.originFd)
    (horiginBuffer : c.originBuffer = s.conn.originBuffer) : DecodeFrame s { s with conn := c } :=
  ⟨h, rfl, horiginFd, horiginBuffer, [], (List.append_nil _).symm, nofun⟩

theorem DecodeFrame.act (action : Action) (h : action.Plain) : DecodeFrame s (s.act action) := by
  refine ⟨.act action, rfl, rfl, rfl, [action], rfl, ?_⟩
  intro a ha
  rw [List.mem_singleton.mp ha]
  exact h

theorem DecodeFrame.recvClientBuffer (fd : ℤ) (answer : Option (List UInt8)) :
    DecodeFrame s (s.recvClientBuffer fd answer).2 := by
  have hframe := Frame.recvClientBuffer (s := s) fd answer
  obtain ⟨b, -, hsnd⟩ := recvClientBuffer_snd s fd answer
  rw [hsnd] at hframe ⊢
  refine ⟨hframe, rfl, rfl, rfl, _, rfl, ?_⟩
  intro action haction
  rw [List.mem_singleton.mp haction]
  rcases (bufferRecv s.conn.clientBuffer answer).1 with _ | bytes <;> exact trivial

theorem resolveIp_decode (env : Env) (family : AddressFamily) :
    DecodeFrame s (resolveIp env family s).1 := by
  have hframe : Frame s (resolveIp env family s).1 := resolveIp_frame family
  unfold resolveIp at hframe ⊢
  repeat' split
  · exact .refl s
  · exact .refl s
  · exact .of_conn (.of_conn rfl rfl rfl .refl .refl) rfl rfl

theorem getPort_decode : DecodeFrame s (getPort s) := .of_conn getPort_frame rfl rfl

theorem getIpAddress_decode (family : AddressFamily) (len : ℕ) :
    DecodeFrame s (getIpAddress family len s) :=
  .of_conn (getIpAddress_frame family len) rfl rfl

theorem getFqdn_decode (lenght : UInt8) : DecodeFrame s (getFqdn lenght s) :=
  .of_conn (getFqdn_frame lenght) rfl rfl

theorem resolveFqdn_decode (env : Env) (s : Session) : DecodeFrame s (resolveFqdn env s).1 := by
  have hframe := resolveFqdn_frame env s
  unfold resolveFqdn at hframe ⊢
  split
  · exact .refl s
  · next hthread =>
      rw [if_neg hthread] at hframe
      refine ⟨hframe, rfl, rfl, rfl, _, rfl, ?_⟩
      intro action haction
      rw [List.mem_singleton.mp haction]
      exact trivial

end Decode

/-! ## The connection attempts -/

/-- `socket` fails or returns a descriptor that is not in use. -/
def FreshSockets (s : Session) (env : Env) : Prop :=
  ∀ round, (env.attempts round).socket = -1 ∨
    0 ≤ (env.attempts round).socket ∧ s.interestOf (env.attempts round).socket = none ∧
      (env.attempts round).socket ≠ s.conn.clientFd

/-- The calls of one round on the socket it opened. -/
def Action.OfAttempt (env : Env) (action : Action) : Prop :=
  ∃ round, (env.attempts round).socket ≠ -1 ∧
    (action = .close (env.attempts round).socket ∨
      ∃ ai result, action = .connect (env.attempts round).socket ai result)

/-- A round that failed, with its socket closed. -/
structure Retried (env : Env) (s t : Session) : Prop extends Frame s t where
  sel : t.sel = s.sel
  resolvers : t.resolvers = s.resolvers
  originBufferEq : t.conn.originBuffer = s.conn.originBuffer
  calls : ∃ log, t.log = s.log ++ log ∧ ∀ action ∈ log, action.OfAttempt env

/-- The round that decides: its socket is open, and registered if the attempt
is in progress. -/
structure Attempted (env : Env) (key : SelectorKey) (s t : Session) (ret : UInt8) : Prop
    extends Frame s t where
  resolvers : t.resolvers = s.resolvers
  originBufferEq : t.conn.originBuffer = s.conn.originBuffer
  socket : ∃ round, (env.attempts round).socket ≠ -1 ∧
    t.conn.originFd = (env.attempts round).socket
  calls : ∃ log ai result, t.log = s.log ++ (log ++ [.connect t.conn.originFd ai result]) ∧
    (∀ action ∈ log, action.OfAttempt env) ∧
    (ret = connectionInProgress → result = .error einprogress)
  code : ret ∈ [generalFailure, selectorRegisterFailed, networkUnreachable, hostUnreachable,
    connectionRefused, ttlExpired, connectionInProgress]
  sel : ret ≠ connectionInProgress ∧ t.sel = s.sel ∨
    ret = connectionInProgress ∧ ∃ alloc, selectorRegister s.sel t.conn.originFd
      (some .socks5Handler) .opWrite (some key.data) alloc = (t.sel, .success)

section Attempts

variable {s t u : Session} {env : Env} {key : SelectorKey} {ret : UInt8}

/-- A registration inside a table of full size fails without a trace. -/
theorem selectorRegister_failed {sel : FdSelector FdHandler ℕ} {fd : ℤ}
    {handler : Option FdHandler} {i : FdInterest} {data : Option ℕ} {alloc : Bool}
    (htable : fdSetsize < sel.fds.length)
    (h : (selectorRegister sel fd handler i data alloc).2 ≠ .success) :
    (selectorRegister sel fd handler i data alloc).1 = sel := by
  unfold selectorRegister at h ⊢
  by_cases hargs : (invalidFd fd || handler.isNone) = true
  · rw [if_pos hargs]
  · rw [if_neg hargs] at h ⊢
    have hfd : invalidFd fd = false := by
      rcases hinvalid : invalidFd fd with _ | _
      · rfl
      · simp [hinvalid] at hargs
    have hcap : ¬ fd.toNat > sel.fds.length :=
      Nat.not_lt.mpr (toNat_lt_of_valid hfd htable.le).le
    simp only [hcap, if_false, ne_eq, not_true_eq_false] at h ⊢
    rcases hused : (sel.item fd).used with _ | _
    · rw [hused] at h
      exact absurd rfl h
    · rfl

theorem selectorUnregister_of_none {sel : FdSelector FdHandler ℕ} {fd : ℤ}
    (h : sel.interestOf fd = none) : (selectorUnregisterFdWithoutClosing sel fd).1 = sel := by
  unfold selectorUnregisterFdWithoutClosing
  rcases hfd : invalidFd fd with _ | _
  · rcases hused : (sel.item fd).used with _ | _
    · rfl
    · exact absurd h (interestOf_ne_none_iff.mpr ⟨hfd, hused⟩)
  · rfl

theorem connectFailureCode_mem (errno : ℤ) :
    connectFailureCode errno ∈
      [generalFailure, networkUnreachable, hostUnreachable, connectionRefused, ttlExpired] := by
  unfold connectFailureCode
  split_ifs <;> decide

theorem tryAddress_attempted (key : SelectorKey) (hfresh : FreshSockets s env)
    (htable : fdSetsize < s.sel.fds.length) (round : ℕ) (ai : SockAddr)
    (aiNext : List SockAddr) :
    (tryAddress env key round ai aiNext s).All (fun t ret => Attempted env key s t ret)
      (Retried env s) := by
  have hframe := tryAddress_frame env key round ai aiNext s
  unfold tryAddress at hframe ⊢
  dsimp only at hframe ⊢
  by_cases hsocket : (env.attempts round).socket = -1
  · rw [if_pos hsocket] at hframe ⊢
    exact ⟨hframe, rfl, rfl, rfl, [], (List.append_nil _).symm, nofun⟩
  · rw [if_neg hsocket] at hframe ⊢
    obtain ⟨-, hunused, -⟩ := (hfresh round).resolve_left hsocket
    by_cases hnio : (env.attempts round).setNio = false
    · rw [if_pos hnio] at hframe ⊢
      refine ⟨hframe, rfl, rfl, rfl, [.close (env.attempts round).socket], rfl, ?_⟩
      intro action haction
      rw [List.mem_singleton.mp haction]
      exact ⟨round, hsocket, .inl rfl⟩
    · rw [if_neg hnio] at hframe ⊢
      rcases hconnect : (env.attempts round).connect with _ | errno
      · rw [hconnect] at hframe
        exact ⟨hframe, rfl, rfl, ⟨round, hsocket, rfl⟩, ⟨[], ai, .success, rfl, nofun, by decide⟩,
          by decide, .inl ⟨by decide, rfl⟩⟩
      · rw [hconnect] at hframe
        dsimp only at hframe ⊢
        by_cases hpending : errno = einprogress
        · rw [if_pos hpending] at hframe ⊢
          by_cases hregister : (selectorRegister s.sel (env.attempts round).socket
              (some .socks5Handler) .opWrite (some key.data) (env.attempts round).alloc).2 ≠
                .success
          · have hsel := selectorRegister_failed htable hregister
            change Block.All _ _ (if (selectorRegister s.sel (env.attempts round).socket
              (some .socks5Handler) .opWrite (some key.data) (env.attempts round).alloc).2 ≠
                .success then _ else _) at hframe ⊢
            rw [if_pos hregister] at hframe ⊢
            exact ⟨hframe, rfl, rfl, ⟨round, hsocket, rfl⟩, ⟨[], ai, .error errno, rfl, nofun,
              fun heq => absurd heq (by decide)⟩, by decide, .inl ⟨by decide, hsel⟩⟩
          · change Block.All _ _ (if (selectorRegister s.sel (env.attempts round).socket
              (some .socks5Handler) .opWrite (some key.data) (env.attempts round).alloc).2 ≠
                .success then _ else _) at hframe ⊢
            rw [if_neg hregister] at hframe ⊢
            exact ⟨hframe, rfl, rfl, ⟨round, hsocket, rfl⟩, ⟨[], ai, .error errno, rfl, nofun,
              fun _ => congrArg ConnectResult.error hpending⟩, by decide,
              .inr ⟨rfl, (env.attempts round).alloc, Prod.ext rfl (not_not.mp hregister)⟩⟩
        · rw [if_neg hpending] at hframe ⊢
          by_cases hlast : aiNext ≠ []
          · rw [if_pos hlast] at hframe ⊢
            refine ⟨hframe, selectorUnregister_of_none hunused, rfl, rfl,
              [.connect (env.attempts round).socket ai (.error errno),
                .close (env.attempts round).socket],
              List.append_assoc _ _ _, ?_⟩
            intro action haction
            simp only [List.mem_cons, List.not_mem_nil, or_false] at haction
            rcases haction with rfl | rfl
            · exact ⟨round, hsocket, .inr ⟨_, _, rfl⟩⟩
            · exact ⟨round, hsocket, .inl rfl⟩
          · rw [if_neg hlast] at hframe ⊢
            have hcode := connectFailureCode_mem errno
            have hne : connectFailureCode errno ≠ connectionInProgress := by
              intro heq
              rw [heq] at hcode
              revert hcode
              decide
            refine ⟨hframe, rfl, rfl, ⟨round, hsocket, rfl⟩, ⟨[], ai, .error errno, rfl, nofun,
              fun heq => absurd heq hne⟩, ?_, .inl ⟨hne, rfl⟩⟩
            simp only [List.mem_cons] at hcode ⊢
            tauto

theorem FreshSockets.retried (h : FreshSockets s env) (ht : Retried env s t) :
    FreshSockets t env := by
  intro round
  rcases h round with hsocket | ⟨hopen, hunused, hclient⟩
  · exact .inl hsocket
  · refine .inr ⟨hopen, ?_, ?_⟩
    · rw [Session.interestOf, ht.sel]
      exact hunused
    · rw [ht.clientFd]
      exact hclient

theorem Retried.attempted (h : Retried env s t) (h' : Attempted env key t u ret) :
    Attempted env key s u ret where
  toFrame := h.toFrame.trans h'.toFrame
  resolvers := h'.resolvers.trans h.resolvers
  originBufferEq := h'.originBufferEq.trans h.originBufferEq
  socket := h'.socket
  calls := by
    obtain ⟨log, hlog, hall⟩ := h.calls
    obtain ⟨log', ai, result, hlog', hall', hpending⟩ := h'.calls
    refine ⟨log ++ log', ai, result, by rw [hlog', hlog]; simp, ?_, hpending⟩
    intro action haction
    rcases List.mem_append.mp haction with hmem | hmem
    · exact hall action hmem
    · exact hall' action hmem
  code := h'.code
  sel := by
    rw [← h.sel]
    exact h'.sel

/-- The recursion of `try_connection`, which ends at the round that decides. -/
theorem tryAddresses_attempted {addresses : List SockAddr} {round : ℕ}
    (hfresh : FreshSockets s env) (htable : fdSetsize < s.sel.fds.length)
    (h : tryAddresses env key round addresses s = .ok (t, ret)) : Attempted env key s t ret := by
  induction addresses generalizing round s with
  | nil => cases h
  | cons ai aiNext ih =>
      have hround := tryAddress_attempted key hfresh htable round ai aiNext
      unfold tryAddresses at h
      generalize tryAddress env key round ai aiNext s = b at h hround
      rcases b with ⟨u, ret'⟩ | u
      · cases h
        exact hround
      · have hretried : Retried env s u := hround
        refine hretried.attempted (ih (hfresh.retried hretried) ?_ h)
        rw [hretried.sel]
        exact htable

end Attempts

/-! ## The decision -/

/-- How a request is decided: refused without an attempt, failed with the last
attempt, or left to CONNECT, where `attempts` says whether there is one.  A
connection that is established at once counts as failed, because its code is
the one of an unreachable network. -/
inductive Decided (env : Env) (key : SelectorKey) (attempts : Prop) (s : Session) :
    Session × SocksV5State → Prop
  | refused {rep : UInt8} (hrep : rep ≠ succeded) (hnone : ¬ attempts) :
      Decided env key attempts s (replyWith rep s)
  | failed {t : Session} {ret rep : UInt8} (h : Attempted env key s t ret)
      (hret : ret ≠ connectionInProgress) (hrep : rep ≠ succeded) (hattempts : attempts) :
      Decided env key attempts s (replyWith rep t)
  | pending {t : Session} (h : Attempted env key s t connectionInProgress)
      (hattempts : attempts) :
      Decided env key attempts s (t.setInterest t.conn.clientFd .opWrite, .connect)

/-- How `request_read` ends. -/
inductive RequestReadCase (env : Env) (key : SelectorKey) (attempts : Prop) (s : Session)
    (r : Session × SocksV5State) : Prop
  | waits (hframe : DecodeFrame s r.1) (hst : r.2 = .request ∨ r.2 = .done)
      (hresolvers : r.1.resolvers = s.resolvers)
  | resolves (hframe : DecodeFrame s r.1) (hst : r.2 = .request)
      (hresolvers : r.1.resolvers = s.resolvers + 1)
  | decided {u : Session} (hframe : DecodeFrame s u) (hresolvers : u.resolvers = s.resolvers)
      (h : Decided env key attempts u r)

/-- The request that has arrived names an address, which is dialled at once. -/
def DstConnects (env : Env) (s : Session) : Prop :=
  match dstLen env (s.recvClientBuffer s.conn.clientFd env.recvDst).2 with
  | .returned _ _ => False
  | .next (t, _) =>
    t.conn.request.atyp ≠ fqdn ∧ env.callocAddr = true ∧ env.callocInfo = true

/-- The same, from the beginning of `request_read`. -/
def ReadConnects (env : Env) (key : SelectorKey) (s : Session) : Prop :=
  if s.conn.request.state = .verCmdAtyp then
    match verCmdAtyp (s.recvClientBuffer key.fd env.recv).2 with
    | .returned _ _ => False
    | .next t => DstConnects env t
  else
    DstConnects env s

instance DstConnects.decidable (env : Env) (s : Session) : Decidable (DstConnects env s) :=
  match h : dstLen env (s.recvClientBuffer s.conn.clientFd env.recvDst).2 with
  | .returned _ _ => .isFalse (by simp [DstConnects, h])
  | .next (t, _) => decidable_of_iff
      (t.conn.request.atyp ≠ fqdn ∧ env.callocAddr = true ∧ env.callocInfo = true)
      (by simp [DstConnects, h])

instance ReadConnects.decidable (env : Env) (key : SelectorKey) (s : Session) :
    Decidable (ReadConnects env key s) :=
  match h : verCmdAtyp (s.recvClientBuffer key.fd env.recv).2 with
  | .returned _ _ => decidable_of_iff (s.conn.request.state ≠ .verCmdAtyp ∧ DstConnects env s)
      (by simp [ReadConnects, h])
  | .next t => decidable_of_iff
      (if s.conn.request.state = .verCmdAtyp then DstConnects env t else DstConnects env s)
      (by simp [ReadConnects, h])

/-- How `connect_write` ends. -/
inductive ConnectWriteCase (env : Env) (key : SelectorKey) (s : Session) :
    Session × SocksV5State → Prop
  | unknown (herror : sockError env s.conn.originFd = none) :
      ConnectWriteCase env key s (replyWith serverFailure s)
  | exhausted {v : ℤ} {addr : SockAddr} (herror : sockError env s.conn.originFd = some v)
      (hv : v ≠ 0) (hlast : s.conn.originResolution = [addr]) :
      ConnectWriteCase env key s (replyWith (lastAddressRep v) (dropOrigin s))
  | failed {v : ℤ} {t : Session} {ret rep : UInt8}
      (herror : sockError env s.conn.originFd = some v) (hv : v ≠ 0)
      (h : Attempted env key (getNextResolution (dropOrigin s)) t ret)
      (hret : ret ≠ connectionInProgress) (hrep : rep ≠ succeded) :
      ConnectWriteCase env key s (replyWith rep t)
  | pending {v : ℤ} {t : Session} (herror : sockError env s.conn.originFd = some v) (hv : v ≠ 0)
      (h : Attempted env key (getNextResolution (dropOrigin s)) t connectionInProgress) :
      ConnectWriteCase env key s (t, .connect)
  | connected (herror : sockError env s.conn.originFd = some 0)
      (haddresses : s.conn.originResolution ≠ []) :
      ConnectWriteCase env key s
        (replyWith succeded (s.setInterest s.conn.originFd .opNoop))

section Decisions

variable {s t u : Session} {env : Env} {key : SelectorKey} {r : Session × SocksV5State}
  {attempts : Prop}

theorem connectToDestResult_decided {ret : UInt8} (h : Attempted env key s t ret)
    (hattempts : attempts) : Decided env key attempts s (connectToDestResult t ret) := by
  unfold connectToDestResult
  have hcode := h.code
  by_cases hpending : ret = connectionInProgress
  · subst hpending
    exact .pending h hattempts
  · split_ifs with h0 h1 h2 h3 h4 h5
    · exact .failed h hpending (by decide) hattempts
    · exact .failed h hpending (by decide) hattempts
    · exact .failed h hpending (by rw [h2]; decide) hattempts
    · exact .failed h hpending (by rw [h3]; decide) hattempts
    · exact .failed h hpending (by rw [h4]; decide) hattempts
    · exact .failed h hpending (by rw [h5]; decide) hattempts
    · simp [h0, h1, h2, h3, h4, h5, hpending] at hcode

theorem FreshSockets.decode (h : FreshSockets s env) (ht : DecodeFrame s t) :
    FreshSockets t env := by
  intro round
  rw [Session.interestOf, ht.sel, ht.clientFd]
  exact h round

theorem connectToDest_decided (hfresh : FreshSockets s env)
    (htable : fdSetsize < s.sel.fds.length) (h : connectToDest env key s = .ok r) :
    Decided env key (s.conn.originResolution ≠ []) s r := by
  unfold connectToDest at h
  split at h
  · next hempty =>
      rw [← Except.ok.inj h]
      exact .refused (by decide) (not_not.mpr hempty)
  · next hcons =>
      split at h
      · cases h
      · next t ret htry =>
          rw [← Except.ok.inj h]
          exact connectToDestResult_decided (tryAddresses_attempted hfresh htable htry)
            (by rw [hcons]; exact List.cons_ne_nil _ _)

theorem Decided.congr {attempts' : Prop} (hiff : attempts ↔ attempts')
    (h : Decided env key attempts s r) : Decided env key attempts' s r := by
  rw [← propext hiff]
  exact h

theorem resolveIp_resolvers (family : AddressFamily) :
    (resolveIp env family s).1.resolvers = s.resolvers := by
  unfold resolveIp
  repeat' split
  all_goals rfl

/-- Only the two allocations decide whether there is an address to dial. -/
theorem resolveIp_found (env : Env) (family : AddressFamily) (s : Session) :
    (resolveIp env family s).2 = false ∧ ¬ (env.callocAddr = true ∧ env.callocInfo = true) ∨
      (resolveIp env family s).2 = true ∧ (env.callocAddr = true ∧ env.callocInfo = true) ∧
        (resolveIp env family s).1.conn.originResolution ≠ [] := by
  unfold resolveIp
  split_ifs with haddr hinfo
  · exact .inl ⟨rfl, by simp [haddr]⟩
  · exact .inl ⟨rfl, by simp [hinfo]⟩
  · exact .inr ⟨rfl, ⟨by simpa using haddr, by simpa using hinfo⟩, List.cons_ne_nil _ _⟩

theorem dstIp_decided {family : AddressFamily} {len : ℕ} (hfresh : FreshSockets s env)
    (htable : fdSetsize < s.sel.fds.length)
    (h : dstIp env key (getIpAddress family len) (fun env s => resolveIp env family s) s = .ok r) :
    ∃ u, DecodeFrame s u ∧ u.resolvers = s.resolvers ∧
      Decided env key (env.callocAddr = true ∧ env.callocInfo = true) u r := by
  have hget := (getIpAddress_decode (s := s) family len).trans getPort_decode
  have hdecode := hget.trans (resolveIp_decode env family)
  have hresolvers : (resolveIp env family (getPort (getIpAddress family len s))).1.resolvers =
      s.resolvers := resolveIp_resolvers family
  have hfound := resolveIp_found env family (getPort (getIpAddress family len s))
  unfold dstIp at h
  dsimp only at h
  generalize resolveIp env family (getPort (getIpAddress family len s)) = resolved
    at h hdecode hresolvers hfound
  obtain ⟨u, found⟩ := resolved
  refine ⟨u, hdecode, hresolvers, ?_⟩
  rcases hfound with ⟨hfound, hnone⟩ | ⟨hfound, hallocated, haddresses⟩
  · rw [show found = false from hfound] at h
    rw [← Except.ok.inj h]
    exact .refused (by decide) hnone
  · rw [show found = true from hfound] at h
    refine (connectToDest_decided (hfresh.decode hdecode) ?_ h).congr
      (iff_of_true haddresses hallocated)
    rw [hdecode.sel]
    exact htable

theorem dstRes_cases {addrBytes : UInt8} (hfresh : FreshSockets s env)
    (htable : fdSetsize < s.sel.fds.length) (h : dstRes env key addrBytes s = .ok r) :
    RequestReadCase env key
      (s.conn.request.atyp ≠ fqdn ∧ env.callocAddr = true ∧ env.callocInfo = true) s r := by
  have hip : ∀ family len, s.conn.request.atyp ≠ fqdn →
      dstIp env key (getIpAddress family len) (fun env s => resolveIp env family s) s = .ok r →
      RequestReadCase env key
        (s.conn.request.atyp ≠ fqdn ∧ env.callocAddr = true ∧ env.callocInfo = true) s r := by
    intro family len hatyp hdst
    obtain ⟨u, hframe, hresolvers, hdecided⟩ := dstIp_decided hfresh htable hdst
    exact .decided hframe hresolvers (hdecided.congr (and_iff_right hatyp).symm)
  unfold dstRes at h
  split_ifs at h with hipv4 hfqdn
  · refine hip .inet ipv4AddrLen ?_ h
    rw [hipv4]
    decide
  · have hdecode := (getFqdn_decode (s := s) addrBytes).trans getPort_decode
    have hresolve := resolveFqdn_decode env (getPort (getFqdn addrBytes s))
    rw [← Except.ok.inj h]
    unfold dstFqdn
    unfold resolveFqdn at hresolve ⊢
    split_ifs at hresolve ⊢
    · exact .decided hdecode rfl (.refused (by decide) fun hattempts => hattempts.1 hfqdn)
    · exact .resolves (hdecode.trans hresolve) rfl rfl
  · exact hip .inet6 ipv6AddrLen hfqdn h

/-- A block of the decoder that stays, refuses or goes on. -/
def DecodeBlock {τ : Type} (env : Env) (key : SelectorKey) (attempts : Prop) (s : Session)
    (session : τ → Session) (b : SocksBlock τ) : Prop :=
  b.All (fun t st => ¬ attempts → RequestReadCase env key attempts s (t, st))
    fun x => DecodeFrame s (session x) ∧ (session x).resolvers = s.resolvers

theorem RequestReadCase.refuse {τ : Type} {session : τ → Session} {rep : UInt8}
    (hrep : rep ≠ succeded) (h : DecodeFrame s t) (hresolvers : t.resolvers = s.resolvers) :
    DecodeBlock env key attempts s session (Socks5Proxy.refuse rep t) := fun hnone =>
  RequestReadCase.decided h hresolvers (Decided.refused hrep hnone)

theorem RequestReadCase.wait (h : DecodeFrame s t) {st : SocksV5State}
    (hst : st = .request ∨ st = .done) (hresolvers : t.resolvers = s.resolvers) :
    ¬ attempts → RequestReadCase env key attempts s (t, st) := fun _ =>
  .waits h hst hresolvers

theorem dstLen_decode (env : Env) (key : SelectorKey) (attempts : Prop) (s : Session) :
    DecodeBlock env key attempts s Prod.fst (dstLen env s) := by
  have hread : DecodeFrame s
      { s with conn.clientBuffer := (bufferRead s.conn.clientBuffer).2 } :=
    .of_conn (Frame.of_conn rfl rfl rfl keeps_bufferRead .refl) rfl rfl
  unfold dstLen
  dsimp only
  repeat' split
  · exact .wait (.refl s) (.inr rfl) rfl
  · exact .refuse (by decide) hread rfl
  · exact .wait hread (.inl rfl) rfl
  · exact ⟨hread.trans (.of_conn (Frame.of_conn rfl rfl rfl .refl .refl) rfl rfl), rfl⟩
  · exact .wait (.refl s) (.inl rfl) rfl
  · exact ⟨.of_conn (Frame.of_conn rfl rfl rfl .refl .refl) rfl rfl, rfl⟩
  · exact ⟨.refl s, rfl⟩

theorem verCmdAtyp_decode (env : Env) (key : SelectorKey) (attempts : Prop) (s : Session) :
    DecodeBlock env key attempts s id (verCmdAtyp s) := by
  have hone : s.conn.clientBuffer.Keeps (bufferRead s.conn.clientBuffer).2 := keeps_bufferRead
  have htwo := hone.trans keeps_bufferRead
  have hthree := htwo.trans keeps_bufferRead
  have hfour := hthree.trans keeps_bufferRead
  unfold verCmdAtyp
  dsimp only
  repeat' split
  · exact .wait (.refl s) (.inr rfl) rfl
  · exact .wait (.refl s) (.inl rfl) rfl
  · exact .refuse (by decide) (.of_conn (Frame.of_conn rfl rfl rfl hone .refl) rfl rfl) rfl
  · exact .refuse (by decide) (.of_conn (Frame.of_conn rfl rfl rfl htwo .refl) rfl rfl) rfl
  · exact .refuse (by decide) (.of_conn (Frame.of_conn rfl rfl rfl hthree .refl) rfl rfl) rfl
  · exact .refuse (by decide) (.of_conn (Frame.of_conn rfl rfl rfl hfour .refl) rfl rfl) rfl
  · exact ⟨.of_conn (Frame.of_conn rfl rfl rfl hfour .refl) rfl rfl, rfl⟩

theorem RequestReadCase.after (h : DecodeFrame s t) (hresolvers : t.resolvers = s.resolvers)
    (ht : RequestReadCase env key attempts t r) : RequestReadCase env key attempts s r := by
  rcases ht with ⟨hframe, hst, hsame⟩ | ⟨hframe, hst, hmore⟩ | ⟨hframe, hsame, hdecided⟩
  · exact .waits (h.trans hframe) hst (hsame.trans hresolvers)
  · exact .resolves (h.trans hframe) hst (by rw [hmore, hresolvers])
  · exact .decided (h.trans hframe) (hsame.trans hresolvers) hdecided

theorem resolvers_recvClientBuffer (fd : ℤ) (answer : Option (List UInt8)) :
    (s.recvClientBuffer fd answer).2.resolvers = s.resolvers := by
  obtain ⟨b, -, hsnd⟩ := recvClientBuffer_snd s fd answer
  rw [hsnd]
  rfl

theorem resolveDstAddress_cases (hfresh : FreshSockets s env)
    (htable : fdSetsize < s.sel.fds.length) (h : resolveDstAddress env key s = .ok r) :
    RequestReadCase env key (DstConnects env s) s r := by
  have hrecv := DecodeFrame.recvClientBuffer (s := s) s.conn.clientFd env.recvDst
  have hsame := resolvers_recvClientBuffer (s := s) s.conn.clientFd env.recvDst
  unfold DstConnects
  unfold resolveDstAddress at h
  dsimp only at h
  generalize (s.recvClientBuffer s.conn.clientFd env.recvDst).2 = t at h hrecv hsame ⊢
  refine RequestReadCase.after hrecv hsame ?_
  have hlen := fun attempts => dstLen_decode env key attempts t
  generalize dstLen env t = b at h hlen ⊢
  rcases b with ⟨u, st⟩ | ⟨u, addrBytes⟩
  · rw [← Except.ok.inj h]
    exact hlen False id
  · obtain ⟨hframe, hresolvers⟩ := hlen False
    refine RequestReadCase.after hframe hresolvers (dstRes_cases ?_ ?_ h)
    · exact (hfresh.decode hrecv).decode hframe
    · rw [hframe.sel, hrecv.sel]
      exact htable

theorem requestRead_cases (hfresh : FreshSockets s env) (htable : fdSetsize < s.sel.fds.length)
    (h : requestRead env key s = .ok r) :
    RequestReadCase env key (ReadConnects env key s) s r := by
  unfold ReadConnects
  unfold requestRead at h
  split_ifs at h ⊢
  · have hrecv := DecodeFrame.recvClientBuffer (s := s) key.fd env.recv
    have hsame := resolvers_recvClientBuffer (s := s) key.fd env.recv
    dsimp only at h
    generalize (s.recvClientBuffer key.fd env.recv).2 = t at h hrecv hsame ⊢
    refine RequestReadCase.after hrecv hsame ?_
    have hver := fun attempts => verCmdAtyp_decode env key attempts t
    generalize verCmdAtyp t = b at h hver ⊢
    rcases b with ⟨u, st⟩ | u
    · rw [← Except.ok.inj h]
      exact hver False id
    · obtain ⟨hframe, hresolvers⟩ := hver False
      dsimp only [id] at hframe hresolvers
      refine RequestReadCase.after hframe hresolvers (resolveDstAddress_cases ?_ ?_ h)
      · exact (hfresh.decode hrecv).decode hframe
      · rw [hframe.sel, hrecv.sel]
        exact htable
  · exact resolveDstAddress_cases hfresh htable h

theorem length_fds_dropOrigin : (dropOrigin s).sel.fds.length = s.sel.fds.length := by
  change (selectorUnregisterFdWithoutClosing s.sel s.conn.originFd).1.fds.length = _
  unfold selectorUnregisterFdWithoutClosing
  split_ifs
  · rfl
  · rfl
  · simp [selectorClearItem, FdSelector.setItem, itemsUpdateFdsetForFd]

theorem connectWrite_cases (hfresh : FreshSockets (dropOrigin s) env)
    (htable : fdSetsize < s.sel.fds.length) (h : connectWrite env key s = .ok r) :
    ConnectWriteCase env key s r := by
  unfold connectWrite at h
  rcases herror : sockError env s.conn.originFd with _ | v
  · rw [herror] at h
    rw [← Except.ok.inj h]
    exact .unknown herror
  · rw [herror] at h
    dsimp only at h
    by_cases hv : v ≠ 0
    · rw [if_pos hv] at h
      split at h
      · cases h
      · next hlast =>
          rw [← Except.ok.inj h]
          exact .exhausted herror hv hlast
      · split at h
        · cases h
        · next t ret htry =>
            have hattempted : Attempted env key (getNextResolution (dropOrigin s)) t ret :=
              tryAddresses_attempted hfresh
                (show fdSetsize < (dropOrigin s).sel.fds.length by
                  rw [length_fds_dropOrigin]
                  exact htable) htry
            have hcode := hattempted.code
            rcases connectWriteResult_cases h with ⟨rep, hrep, rfl⟩ | ⟨rfl, rfl⟩ | ⟨hret, rfl⟩
            · by_cases hret : ret = connectionInProgress
              · subst hret
                have hresult : connectWriteResult t connectionInProgress = .ok (t, .connect) := rfl
                rw [hresult] at h
                cases congrArg Prod.snd (Except.ok.inj h)
              · exact .failed herror hv hattempted hret hrep
            · exact .pending herror hv hattempted
            · exact absurd hcode hret
    · rw [if_neg hv] at h
      rcases hlog : printConnectionAccessLog s with fault | u
      · rw [hlog] at h
        cases h
      · rw [hlog] at h
        rw [← Except.ok.inj h, printConnectionAccessLog_eq hlog]
        refine .connected (by rw [herror, not_not.mp hv]) ?_
        intro hempty
        rw [printConnectionAccessLog, hempty] at hlog
        cases hlog

end Decisions

end Socks5Proxy

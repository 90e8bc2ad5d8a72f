import Socks5Proxy.Socks.Exhaustion

/-!
# Failed calls in the handshake

The handlers of the handshake each make one `recv` or `send`, `request_read`
up to two.  None looks at `errno`, so every call that returns `-1` is handled
alike: GREETING and AUTH test the result as a signed number and return ERROR,
while REQUEST and REPLY keep it in a `size_t` and go on.
-/

namespace Socks5Proxy

/-- The handlers of the handshake that read from the client or write to it. -/
inductive IoHandler
  | greetingRead
  | greetingWrite
  | authRead
  | authWrite
  | requestRead
  | replyWrite
  deriving DecidableEq

namespace IoHandler

def state : IoHandler → SocksV5State
  | greetingRead | greetingWrite => .greeting
  | authRead | authWrite => .auth
  | requestRead => .request
  | replyWrite => .reply

def run (env : Env) (key : SelectorKey) (s : Session) :
    IoHandler → Except Fault (Session × SocksV5State)
  | greetingRead => .ok (Socks5Proxy.greetingRead env key s)
  | greetingWrite => .ok (Socks5Proxy.greetingWrite env key s)
  | authRead => .ok (Socks5Proxy.authRead env key s)
  | authWrite => .ok (Socks5Proxy.authWrite env key s)
  | requestRead => Socks5Proxy.requestRead env key s
  | replyWrite => .ok (Socks5Proxy.replyWrite env s)

/-- The session in which a `recv` or a `send` of the handler returns `-1`, if
one does.  `request_read` makes its own `recv` and then the one of
`resolve_dst_address`; `reply_write` may return before its `send`. -/
def failsIn (env : Env) (key : SelectorKey) (s : Session) : IoHandler → Option Session
  | greetingRead | authRead => if env.recv = none then some s else none
  | greetingWrite | authWrite => if env.send = none then some s else none
  | requestRead =>
    if s.conn.request.state = .verCmdAtyp then
      if env.recv = none then
        some s
      else
        match verCmdAtyp (s.recvClientBuffer key.fd env.recv).2 with
        | .returned _ _ => none
        | .next s => if env.recvDst = none then some s else none
    else if env.recvDst = none then
      some s
    else
      none
  | replyWrite =>
    if s.conn.reply.foundBndInfo = false then none
    else if env.send = none then some s
    else none

/-- The handlers are the callbacks for reading and writing of the four
states. -/
theorem callback_iff {env : Env} {key : SelectorKey} {st : SocksV5State}
    {callback : Session → Except Fault (Session × SocksV5State)}
    (hst : st ∈ [SocksV5State.greeting, .auth, .request, .reply]) :
    (socks5States env key st).onReadReady = some callback ∨
        (socks5States env key st).onWriteReady = some callback ↔
      ∃ h : IoHandler, h.state = st ∧ callback = fun s => h.run env key s := by
  constructor
  · intro h
    simp only [List.mem_cons, List.not_mem_nil, or_false] at hst
    rcases hst with rfl | rfl | rfl | rfl
    · rcases h with hread | hwrite
      · exact ⟨greetingRead, rfl, (Option.some.inj hread).symm⟩
      · exact ⟨greetingWrite, rfl, (Option.some.inj hwrite).symm⟩
    · rcases h with hread | hwrite
      · exact ⟨authRead, rfl, (Option.some.inj hread).symm⟩
      · exact ⟨authWrite, rfl, (Option.some.inj hwrite).symm⟩
    · rcases h with hread | hwrite
      · exact ⟨requestRead, rfl, (Option.some.inj hread).symm⟩
      · exact absurd hwrite (by simp [socks5States])
    · rcases h with hread | hwrite
      · exact absurd hread (by simp [socks5States])
      · exact ⟨replyWrite, rfl, (Option.some.inj hwrite).symm⟩
  · rintro ⟨h, rfl, rfl⟩
    cases h with
    | greetingRead => exact .inl rfl
    | greetingWrite => exact .inr rfl
    | authRead => exact .inl rfl
    | authWrite => exact .inr rfl
    | requestRead => exact .inl rfl
    | replyWrite => exact .inr rfl

end IoHandler

/-- What a handler may do where a call has failed in `before`. -/
def HandshakeEnded (h : IoHandler) (before : Session)
    (result : Except Fault (Session × SocksV5State)) : Prop :=
  ∃ after ret, result = .ok (after, ret) ∧
    after.conn.clientBuffer = before.conn.clientBuffer ∧
    after.conn.originBuffer = before.conn.originBuffer ∧
    (ret = .error ∨
      h.state = .request ∧ ret = .reply ∧ after.conn.reply.rep = serverFailure)

/-- The answers to the calls on the client's socket are the same. -/
def Env.SameIo (env env' : Env) : Prop :=
  env'.recv = env.recv ∧ env'.recvDst = env.recvDst ∧ env'.send = env.send

/-- The failed call ends the handshake: nothing that is answered to the calls
behind it matters. -/
def EndsHandshake (h : IoHandler) (env : Env) (key : SelectorKey) (s before : Session) : Prop :=
  ∀ env', env.SameIo env' → HandshakeEnded h before (h.run env' key s)

/-! ## REQUEST goes on -/

/-- The callback has neither returned ERROR nor refused with
`SERVER_FAILURE`. -/
def GoesOn (result : Except Fault (Session × SocksV5State)) : Prop :=
  ∀ after ret, result = .ok (after, ret) →
    ret ≠ .error ∧ (ret = .reply → after.conn.reply.rep ≠ serverFailure)

/-- Nothing fails behind the `recv`s of `request_read`: there is memory and a
thread, and the first address is connected to at once. -/
structure Served (env : Env) : Prop where
  callocAddr : env.callocAddr = true
  callocInfo : env.callocInfo = true
  startThread : env.startThread = true
  socket : (env.attempts 0).socket ≠ -1
  setNio : (env.attempts 0).setNio = true
  connect : (env.attempts 0).connect = .success

section Request

variable {env : Env} {key : SelectorKey} {s t : Session}

theorem goesOn_of_state {st : SocksV5State} (herror : st ≠ .error) (hreply : st ≠ .reply) :
    GoesOn (.ok (s, st)) := by
  rintro after ret ⟨⟩
  exact ⟨herror, fun h => absurd h hreply⟩

theorem goesOn_replyWith {rep : UInt8} (hrep : rep ≠ serverFailure) :
    GoesOn (.ok (replyWith rep s)) := by
  rintro after ret ⟨⟩
  exact ⟨by decide, fun _ => hrep⟩

/-- An immediate connection is reported as an unreachable network. -/
theorem Served.connectToDest (h : Served env) (hlist : s.conn.originResolution ≠ []) :
    GoesOn (connectToDest env key s) := by
  obtain ⟨ai, aiNext, hlist⟩ := List.exists_cons_of_ne_nil hlist
  have hnio : ¬ (env.attempts 0).setNio = false := by
    rw [h.setNio]
    decide
  simp only [Socks5Proxy.connectToDest, hlist, tryConnection, tryAddresses, tryAddress, h.socket,
    hnio, h.connect, if_false]
  exact goesOn_replyWith (by decide)

theorem Served.dstIp (h : Served env) (family : AddressFamily) (len : ℕ) :
    GoesOn (dstIp env key (getIpAddress family len) (fun env s => resolveIp env family s) s) := by
  have haddr : ¬ env.callocAddr = false := by
    rw [h.callocAddr]
    decide
  have hinfo : ¬ env.callocInfo = false := by
    rw [h.callocInfo]
    decide
  simp only [Socks5Proxy.dstIp, resolveIp, haddr, hinfo]
  exact h.connectToDest (List.cons_ne_nil _ _)

theorem Served.dstRes (h : Served env) (addrBytes : UInt8) :
    GoesOn (dstRes env key addrBytes s) := by
  unfold Socks5Proxy.dstRes
  split_ifs with hipv4 hfqdn
  · exact h.dstIp .inet ipv4AddrLen
  · have hthread : ¬ env.startThread = false := by
      rw [h.startThread]
      decide
    simp only [dstFqdn, resolveFqdn, hthread]
    exact goesOn_of_state (by decide) (by decide)
  · exact h.dstIp .inet6 ipv6AddrLen

theorem dstLen_goesOn (env : Env) (s : Session) :
    (dstLen env s).All (fun t st => GoesOn (.ok (t, st))) fun _ => True := by
  unfold dstLen
  dsimp only
  split_ifs
  · exact goesOn_of_state (by decide) (by decide)
  · exact goesOn_replyWith (by decide)
  · exact goesOn_of_state (by decide) (by decide)
  · trivial
  · exact goesOn_of_state (by decide) (by decide)
  · trivial
  · trivial

theorem Served.resolveDstAddress (h : Served env) : GoesOn (resolveDstAddress env key s) := by
  have hblock := dstLen_goesOn env (s.recvClientBuffer s.conn.clientFd env.recvDst).2
  unfold Socks5Proxy.resolveDstAddress
  dsimp only
  generalize dstLen env _ = b at hblock ⊢
  rcases b with ⟨t, st⟩ | ⟨t, addrBytes⟩
  · exact hblock
  · exact h.dstRes addrBytes

theorem verCmdAtyp_goesOn (s : Session) :
    (verCmdAtyp s).All (fun t st => GoesOn (.ok (t, st))) fun _ => True := by
  unfold verCmdAtyp
  dsimp only
  split_ifs
  · exact goesOn_of_state (by decide) (by decide)
  · exact goesOn_of_state (by decide) (by decide)
  · exact goesOn_replyWith (by decide)
  · exact goesOn_replyWith (by decide)
  · exact goesOn_replyWith (by decide)
  · exact goesOn_replyWith (by decide)
  · trivial

/-- Whatever its `recv`s return, `request_read` goes on. -/
theorem Served.requestRead (h : Served env) : GoesOn (requestRead env key s) := by
  unfold Socks5Proxy.requestRead
  split_ifs with hstate
  · have hblock := verCmdAtyp_goesOn (s.recvClientBuffer key.fd env.recv).2
    dsimp only
    generalize verCmdAtyp _ = b at hblock ⊢
    rcases b with ⟨t, st⟩ | t
    · exact hblock
    · exact h.resolveDstAddress
  · exact h.resolveDstAddress

theorem GoesOn.not_ended {h : IoHandler} {before : Session}
    {result : Except Fault (Session × SocksV5State)} (hgoes : GoesOn result) :
    ¬ HandshakeEnded h before result := by
  rintro ⟨after, ret, hresult, -, -, herror | ⟨-, hreply, hrep⟩⟩
  · exact (hgoes after ret hresult).1 herror
  · exact (hgoes after ret hresult).2 hreply hrep

end Request

/-- `env` with everything behind the calls on the client's socket going
well. -/
def Env.served (env : Env) : Env :=
  { env with
    callocAddr := true
    callocInfo := true
    startThread := true
    attempts := fun _ => ⟨0, true, .success, true⟩ }

theorem Env.served_served (env : Env) : Served env.served where
  callocAddr := rfl
  callocInfo := rfl
  startThread := rfl
  socket := (by decide : (0 : ℤ) ≠ -1)
  setNio := rfl
  connect := rfl

/-! ## Which states end the handshake -/

section Ends

variable {env : Env} {key : SelectorKey} {s before : Session}

/-- A handler that records the failed call and returns ERROR. -/
theorem endsHandshake_of_error {h : IoHandler} (action : Action)
    (herror : ∀ env', env.SameIo env' → h.run env' key s = .ok (s.act action, .error)) :
    EndsHandshake h env key s s := by
  intro env' hsame
  exact ⟨_, _, herror env' hsame, rfl, rfl, .inl rfl⟩

theorem greetingRead_failed (hrecv : env.recv = none) :
    greetingRead env key s = (s.act (.recvFailed key.fd), .error) := by
  rw [greetingRead, hrecv]
  rfl

theorem authRead_failed (hrecv : env.recv = none) :
    authRead env key s = (s.act (.recvFailed key.fd), .error) := by
  rw [authRead, hrecv]
  rfl

theorem greetingWrite_failed (hsend : env.send = none) :
    greetingWrite env key s = (s.act (.sendFailed s.conn.clientFd), .error) := by
  rw [greetingWrite, hsend]
  rfl

theorem authWrite_failed (hsend : env.send = none) :
    authWrite env key s = (s.act (.sendFailed s.conn.clientFd), .error) := by
  rw [authWrite, hsend]
  rfl

/-- A failed `send` is taken for a short one, or for one that has sent the
whole reply. -/
theorem replyWrite_failed (hfound : s.conn.reply.foundBndInfo ≠ false) (hsend : env.send = none) :
    (replyWrite env s).2 ≠ .error := by
  rw [replyWrite, if_neg hfound, hsend]
  dsimp only
  split_ifs
  · exact (by decide : SocksV5State.reply ≠ .error)
  · exact (by decide : SocksV5State.copy ≠ .error)
  · exact (by decide : SocksV5State.request ≠ .error)

end Ends

/-- A failed `recv` or `send` ends the handshake in GREETING and AUTH, and
never in REQUEST and REPLY. -/
theorem failed_call_ends_iff {h : IoHandler} {env : Env} {key : SelectorKey} {s before : Session}
    (hfails : h.failsIn env key s = some before) :
    EndsHandshake h env key s before ↔ h.state = .greeting ∨ h.state = .auth := by
  cases h with
  | greetingRead =>
    obtain ⟨hrecv, rfl⟩ : env.recv = none ∧ s = before := by simpa [IoHandler.failsIn] using hfails
    refine iff_of_true (endsHandshake_of_error (.recvFailed key.fd) ?_) (.inl rfl)
    intro env' hsame
    rw [IoHandler.run, greetingRead_failed (hsame.1.trans hrecv)]
  | greetingWrite =>
    obtain ⟨hsend, rfl⟩ : env.send = none ∧ s = before := by simpa [IoHandler.failsIn] using hfails
    refine iff_of_true (endsHandshake_of_error (.sendFailed s.conn.clientFd) ?_) (.inl rfl)
    intro env' hsame
    rw [IoHandler.run, greetingWrite_failed (hsame.2.2.trans hsend)]
  | authRead =>
    obtain ⟨hrecv, rfl⟩ : env.recv = none ∧ s = before := by simpa [IoHandler.failsIn] using hfails
    refine iff_of_true (endsHandshake_of_error (.recvFailed key.fd) ?_) (.inr rfl)
    intro env' hsame
    rw [IoHandler.run, authRead_failed (hsame.1.trans hrecv)]
  | authWrite =>
    obtain ⟨hsend, rfl⟩ : env.send = none ∧ s = before := by simpa [IoHandler.failsIn] using hfails
    refine iff_of_true (endsHandshake_of_error (.sendFailed s.conn.clientFd) ?_) (.inr rfl)
    intro env' hsame
    rw [IoHandler.run, authWrite_failed (hsame.2.2.trans hsend)]
  | requestRead =>
    refine iff_of_false ?_ (by simp [IoHandler.state])
    intro hends
    have hgoes : GoesOn (requestRead env.served key s) := env.served_served.requestRead
    exact hgoes.not_ended (hends env.served ⟨rfl, rfl, rfl⟩)
  | replyWrite =>
    refine iff_of_false ?_ (by simp [IoHandler.state])
    rw [IoHandler.failsIn] at hfails
    split_ifs at hfails with hfound hsend
    intro hends
    obtain ⟨after, ret, hresult, -, -, herror | ⟨hstate, -⟩⟩ := hends env ⟨rfl, rfl, rfl⟩
    · have hret : (replyWrite env s).2 = ret := congrArg Prod.snd (Except.ok.inj hresult)
      exact replyWrite_failed hfound hsend (hret.trans herror)
    · cases hstate

/-- A connection with the version byte of its greeting read. -/
def greeted : Session :=
  { (default : Session) with
    conn.clientBuffer := bufferWrite (bufferInit 16 fun _ => 0) 0x05 }

theorem failed_call_ends_greeting :
    greeted.conn.clientBuffer.content = [0x05] ∧
      EndsHandshake .greetingRead default ⟨4, 0⟩ greeted greeted :=
  ⟨by decide, (failed_call_ends_iff rfl).mpr (.inl rfl)⟩

/-- A connection with one byte of its reply left to send. -/
def replying : Session :=
  { (default : Session) with
    conn.originBuffer := bufferWrite (bufferInit 16 fun _ => 0) 0x05
    conn.reply.foundBndInfo := true }

/-- On a dead socket `reply_write` stays in REPLY. -/
theorem replyWrite_stays :
    IoHandler.replyWrite.failsIn default ⟨4, 0⟩ replying = some replying ∧
      (replyWrite default replying).2 = .reply ∧
      ¬ EndsHandshake .replyWrite default ⟨4, 0⟩ replying replying := by
  refine ⟨rfl, rfl, ?_⟩
  intro hends
  obtain ⟨after, ret, hresult, -, -, herror | ⟨hstate, -⟩⟩ := hends default ⟨rfl, rfl, rfl⟩
  · have hret : SocksV5State.reply = ret := congrArg Prod.snd (Except.ok.inj hresult)
    rw [herror] at hret
    cases hret
  · cases hstate

end Socks5Proxy

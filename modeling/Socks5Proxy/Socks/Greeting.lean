import Socks5Proxy.Socks.Connection

/-!
# GREETING

`greeting.c`: the method negotiation.
-/

namespace Socks5Proxy

def noAuthMethod : UInt8 := 0x00
def authMethod : UInt8 := 0x02
def authMethodInvalid : UInt8 := 0xFF

def greetingArrival (s : Session) : Session :=
  { s with
    conn.greeting :=
      { s.conn.greeting with
        state := .verNNmethods
        method := noAuthMethod } }

/-- The loop over the methods: the buffer behind the bytes read, the method
chosen, and `foundAuthMethod`.  Finding `AUTH_METHOD` leaves the loop. -/
def greetingScan : ℕ → Buffer → UInt8 → Buffer × UInt8 × Bool
  | 0, b, method => (b, method, false)
  | n + 1, b, method =>
    if bufferCanRead b then
      let (offered, b) := bufferRead b
      if offered = authMethod then (b, authMethod, true)
      else if offered = noAuthMethod ∧ method ≠ authMethod then
        greetingScan n b noAuthMethod
      else greetingScan n b method
    else
      (b, method, false)

def greetingVerNNmethods (s : Session) : SocksBlock Session :=
  if s.conn.greeting.state = .verNNmethods then
    let toRead := (bufferReadPtr s.conn.clientBuffer).2
    if toRead < 2 then
      .returned s .greeting
    else
      let (ver, buffer) := bufferRead s.conn.clientBuffer
      let s := { s with conn.clientBuffer := buffer }
      if ver ≠ socks5Version then
        .returned s .error
      else
        let (nMethods, buffer) := bufferRead s.conn.clientBuffer
        let s := { s with conn.clientBuffer := buffer, conn.greeting.nMethods := nMethods }
        if nMethods = 0 then
          .returned s .error
        else
          .next { s with conn.greeting.state := .methods }
  else
    .next s

def greetingMethods (key : SelectorKey) (s : Session) : SocksBlock Session :=
  if s.conn.greeting.state = .methods then
    let toRead := (bufferReadPtr s.conn.clientBuffer).2
    if toRead < s.conn.greeting.nMethods.toNat then
      .returned s .greeting
    else
      let (buffer, method, foundAuthMethod) :=
        greetingScan s.conn.greeting.nMethods.toNat s.conn.clientBuffer s.conn.greeting.method
      let method :=
        if method = noAuthMethod ∧ foundAuthMethod = false then authMethodInvalid else method
      let s := { s with conn.clientBuffer := buffer, conn.greeting.method := method }
      let s := s.writeOriginBuffer [socks5Version, method]
      .next (s.setInterest key.fd .opWrite)
  else
    .next s

def greetingRead (env : Env) (key : SelectorKey) (s : Session) : Session × SocksV5State :=
  let (readn, s) := s.recvClientBuffer key.fd env.recv
  match readn with
  | none => (s, .error)
  | some _ =>
    let toRead := (bufferReadPtr s.conn.clientBuffer).2
    if toRead = 0 then
      (s, .done)
    else
      match (greetingVerNNmethods s).andThen (greetingMethods key) with
      | .returned s ret => (s, ret)
      | .next s => (s, .greeting)

def greetingWrite (env : Env) (key : SelectorKey) (s : Session) : Session × SocksV5State :=
  let (written, s) := s.sendOriginBuffer s.conn.clientFd env.send
  match written with
  | none => (s, .error)
  | some _ =>
    if bufferCanRead s.conn.originBuffer then
      (s, .greeting)
    else if s.conn.greeting.method = authMethod then
      (s.setInterest key.fd .opRead, .auth)
    else
      (s.setInterest key.fd .opRead, .request)

end Socks5Proxy

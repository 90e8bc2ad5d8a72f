import Socks5Proxy.Socks.ConnectionUtils

/-!
# REQUEST

`request.c`: the resumable decoder of the request, the resolution of the
destination and the first connection attempt.
-/

namespace Socks5Proxy

def connectCmd : UInt8 := 0x01

def isValidAtyp (c : UInt8) : Bool := c == ipv4Addr || c == fqdn || c == ipv6Addr

def addrBytesByIpVersion (v : UInt8) : UInt8 :=
  if v = ipv4Addr then UInt8.ofNat ipv4AddrLen else UInt8.ofNat ipv6AddrLen

def requestArrival (s : Session) : Session :=
  { s with conn.request.state := .verCmdAtyp }

def toReplyState (s : Session) : Session × SocksV5State :=
  (s.setInterest s.conn.clientFd .opWrite, .reply)

/-- `connection->client.reply.rep = rep; return to_reply_state(key);` -/
def replyWith (rep : UInt8) (s : Session) : Session × SocksV5State :=
  toReplyState { s with conn.reply.rep := rep }

/-- `replyWith` inside a block of the decoder. -/
def refuse {τ : Type} (rep : UInt8) (s : Session) : SocksBlock τ :=
  .returned (replyWith rep s).1 (replyWith rep s).2

/-! ## The first connection attempt -/

/-- The `switch` of `connect_to_dest` on the code of `try_connection`. -/
def connectToDestResult (s : Session) (ret : UInt8) : Session × SocksV5State :=
  if ret = generalFailure then replyWith serverFailure s
  else if ret = selectorRegisterFailed then replyWith serverFailure s
  else if ret = networkUnreachable then replyWith ret s
  else if ret = hostUnreachable then replyWith ret s
  else if ret = connectionRefused then replyWith ret s
  else if ret = ttlExpired then replyWith ret s
  else if ret = connectionInProgress then
    (s.setInterest s.conn.clientFd .opWrite, .connect)
  else replyWith succeded (s.setInterest s.conn.originFd .opNoop)

def connectToDest (env : Env) (key : SelectorKey) (s : Session) :
    Except Fault (Session × SocksV5State) :=
  match s.conn.originResolution with
  | [] => .ok (replyWith serverFailure s)
  | _ :: _ =>
    match tryConnection env key s with
    | .error fault => .error fault
    | .ok (s, ret) => .ok (connectToDestResult s ret)

def requestBlock (env : Env) (key : SelectorKey) (s : Session) :
    Except Fault (Session × SocksV5State) :=
  connectToDest env key s

/-! ## Reading the destination -/

/-- `get_ipv4_address` and `get_ipv6_address`, which differ in the family and
the length; `inet_ntop` has room for either text and does not fail. -/
def getIpAddress (family : AddressFamily) (len : ℕ) (s : Session) : Session :=
  let (addr, buffer) := bufferReadN len s.conn.clientBuffer
  { s with conn.clientBuffer := buffer, conn.originHost := inetNtop family addr }

def getIpv4Address (s : Session) : Session := getIpAddress .inet ipv4AddrLen s

def getIpv6Address (s : Session) : Session := getIpAddress .inet6 ipv6AddrLen s

def getPort (s : Session) : Session :=
  let (p1, buffer) := bufferRead s.conn.clientBuffer
  let (p2, buffer) := bufferRead buffer
  { s with
    conn.clientBuffer := buffer
    conn.originPort := decimal (p1.toNat * 256 + p2.toNat) }

/-- `resolve_ipv4` and `resolve_ipv6`, which differ in the family; `false` is
`FAILURE`, which only the two allocations can cause. -/
def resolveIp (env : Env) (family : AddressFamily) (s : Session) : Session × Bool :=
  if env.callocAddr = false then
    (s, false)
  else if env.callocInfo = false then
    (s, false)
  else
    let sockAddr : SockAddr :=
      { family := family
        addr := (inetPton family s.conn.originHost).getD []
        port := atoi s.conn.originPort % 65536 }
    ({ s with conn.originResolution := [sockAddr], conn.resolvedByName := false }, true)

def resolveIpv4 (env : Env) (s : Session) : Session × Bool := resolveIp env .inet s

def resolveIpv6 (env : Env) (s : Session) : Session × Bool := resolveIp env .inet6 s

def getFqdn (lenght : UInt8) (s : Session) : Session :=
  let (bytes, buffer) := bufferReadN lenght.toNat s.conn.clientBuffer
  { s with conn.clientBuffer := buffer, conn.originHost := .name bytes }

/-- `resolve_fqdn`: start a resolver thread on the host and port. -/
def resolveFqdn (env : Env) (s : Session) : Session × Bool :=
  if env.startThread = false then
    (s, false)
  else
    ({ s.act (.resolve s.conn.originHost.cString s.conn.originPort) with
        resolvers := s.resolvers + 1 }, true)

/-- What a resolver thread does when `getaddrinfo` has answered; a failed
resolution leaves a null list.  The thread holds a copy of the key it was
started with, whose descriptor is the client's. -/
def resolveFqdnBlocking (result : List SockAddr) (s : Session) : Session :=
  { s with
    conn.originResolution := result
    conn.resolvedByName := true
    resolvers := s.resolvers - 1
    sel := selectorNotifyBlock s.sel s.conn.clientFd }

/-- The block `DST_LEN`; it falls through with the local `addrBytes`.  In the
other sub-states that local keeps the value it found in memory. -/
def dstLen (env : Env) (s : Session) : SocksBlock (Session × UInt8) :=
  if s.conn.request.state = .dstLen then
    let toRead := (bufferReadPtr s.conn.clientBuffer).2
    if toRead = 0 then
      .returned s .done
    else if s.conn.request.atyp = fqdn then
      let (addrBytes, buffer) := bufferRead s.conn.clientBuffer
      let toRead := toRead - 1
      let s := { s with conn.clientBuffer := buffer }
      if addrBytes = 0 then
        refuse invalidFqdnLenght s
      else if toRead < addrBytes.toNat + 1 then
        .returned s .request
      else
        .next ({ s with conn.request.state := .dstRes }, addrBytes)
    else
      let addrBytes := addrBytesByIpVersion s.conn.request.atyp
      if toRead < addrBytes.toNat + 1 then
        .returned s .request
      else
        .next ({ s with conn.request.state := .dstRes }, addrBytes)
  else
    .next (s, env.addrBytes)

/-- An IPv4 or IPv6 destination: read it, build its address list, connect. -/
def dstIp (env : Env) (key : SelectorKey) (getAddress : Session → Session)
    (resolve : Env → Session → Session × Bool) (s : Session) :
    Except Fault (Session × SocksV5State) :=
  match resolve env (getPort (getAddress s)) with
  | (s, false) => .ok (replyWith serverFailure s)
  | (s, true) => connectToDest env key s

/-- A domain name: read it and start a resolver. -/
def dstFqdn (env : Env) (addrBytes : UInt8) (s : Session) : Session × SocksV5State :=
  match resolveFqdn env (getPort (getFqdn addrBytes s)) with
  | (s, false) => replyWith serverFailure s
  | (s, true) => (s, .request)

/-- The `switch` on the address type. -/
def dstRes (env : Env) (key : SelectorKey) (addrBytes : UInt8) (s : Session) :
    Except Fault (Session × SocksV5State) :=
  if s.conn.request.atyp = ipv4Addr then
    dstIp env key getIpv4Address resolveIpv4 s
  else if s.conn.request.atyp = fqdn then
    .ok (dstFqdn env addrBytes s)
  else
    dstIp env key getIpv6Address resolveIpv6 s

/-- The result of `recv` is stored in a `size_t`; the tests for a negative
count never hold, and `-1` advances nothing. -/
def resolveDstAddress (env : Env) (key : SelectorKey) (s : Session) :
    Except Fault (Session × SocksV5State) :=
  let (_, s) := s.recvClientBuffer s.conn.clientFd env.recvDst
  match dstLen env s with
  | .returned s ret => .ok (s, ret)
  | .next (s, addrBytes) => dstRes env key addrBytes s

/-- The block `VER_CMD_ATYP` behind its `recv`. -/
def verCmdAtyp (s : Session) : SocksBlock Session :=
  let toRead := (bufferReadPtr s.conn.clientBuffer).2
  if toRead = 0 then
    .returned s .done
  else if toRead < 4 then
    .returned s .request
  else
    let (ver, buffer) := bufferRead s.conn.clientBuffer
    let s := { s with conn.clientBuffer := buffer }
    if ver ≠ socks5Version then
      refuse invalidSocks5Version s
    else
      let (cmd, buffer) := bufferRead s.conn.clientBuffer
      let s := { s with conn.clientBuffer := buffer, conn.request.cmd := cmd }
      if cmd ≠ connectCmd then
        refuse commandNotSupported s
      else
        let (rsvByte, buffer) := bufferRead s.conn.clientBuffer
        let s := { s with conn.clientBuffer := buffer }
        if rsvByte ≠ rsv then
          refuse invalidRsv s
        else
          let (atyp, buffer) := bufferRead s.conn.clientBuffer
          let s := { s with conn.clientBuffer := buffer, conn.request.atyp := atyp }
          if isValidAtyp atyp = false then
            refuse addressTypeNotSupported s
          else
            .next { s with conn.atyp := atyp, conn.request.state := .dstLen }

def requestRead (env : Env) (key : SelectorKey) (s : Session) :
    Except Fault (Session × SocksV5State) :=
  if s.conn.request.state = .verCmdAtyp then
    let (_, s) := s.recvClientBuffer key.fd env.recv
    match verCmdAtyp s with
    | .returned s ret => .ok (s, ret)
    | .next s => resolveDstAddress env key s
  else
    resolveDstAddress env key s

end Socks5Proxy

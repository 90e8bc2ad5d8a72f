import Socks5Proxy.Socks.ConnectionUtils

/-!
# REPLY

`reply.c`: the reply is queued on arrival and sent by the write callback.
-/

namespace Socks5Proxy

/-- `getsockname(origin_fd)`; it fails on a descriptor of `-1`. -/
def localAddr (env : Env) (fd : ℤ) : Option SockAddr :=
  if fd < 0 then none else env.getsockname

/-- The bytes `ATYP BND.ADDR` of the reply, none for another family. -/
def bndAddrBytes (addr : SockAddr) : List UInt8 :=
  match addr.family with
  | .inet => ipv4Addr :: addr.addr
  | .inet6 => ipv6Addr :: addr.addr
  | .other => []

def bndPort (addr : SockAddr) : ℕ :=
  match addr.family with
  | .other => 0
  | _ => addr.port

def portBytes (port : ℕ) : List UInt8 :=
  [UInt8.ofNat (port / 256 % 256), UInt8.ofNat (port % 256)]

def replyArrival (env : Env) (s : Session) : Session :=
  let s := s.writeOriginBuffer [socks5Version, s.conn.reply.rep, rsv]
  match localAddr env s.conn.originFd with
  | none => { s with conn.reply.foundBndInfo := false }
  | some addr =>
    let s := s.writeOriginBuffer (bndAddrBytes addr)
    let s := s.writeOriginBuffer (portBytes (bndPort addr))
    { s with conn.reply.foundBndInfo := true }

/-- The result of `send` is stored in a `size_t`, so the test for a failed
`send` never holds. -/
def replyWrite (env : Env) (s : Session) : Session × SocksV5State :=
  if s.conn.reply.foundBndInfo = false then
    (s, .error)
  else
    let (_, s) := s.sendOriginBuffer s.conn.clientFd env.send
    if bufferCanRead s.conn.originBuffer then
      (s, .reply)
    else if s.conn.reply.rep = succeded then
      (s, .copy)
    else
      (s.setInterest s.conn.clientFd .opRead, .request)

end Socks5Proxy

import Socks5Proxy.Shared.Buffer
import Socks5Proxy.Shared.Selector
import Socks5Proxy.Shared.Stm
import Socks5Proxy.Shared.Text
import Socks5Proxy.Server.Users
import Socks5Proxy.Server.Metrics
import Socks5Proxy.Server.Handlers

/-!
# A SOCKS connection and what surrounds it

`struct socks5` together with the parts of the server its callbacks touch: the
selector, the metrics and the resolver threads.  What the kernel answers
during one callback is an `Env`; the system calls a connection has made so far
are kept in a log, which no callback reads.

The members of the union `client` are kept side by side: the arrival callback
or the first block of a state writes every member its callbacks read.
-/

namespace Socks5Proxy

/-! ## Constants -/

def socks5Version : UInt8 := 0x05
def rsv : UInt8 := 0x00
def ipv4Addr : UInt8 := 0x01
def fqdn : UInt8 := 0x03
def ipv6Addr : UInt8 := 0x04
def ipv4AddrLen : ℕ := 4
def ipv6AddrLen : ℕ := 16

/-- `BUFFER_SIZE` unless the build overrides it. -/
def bufferSizeDefault : ℕ := 1024

/-! ## Network addresses -/

inductive AddressFamily
  | inet
  | inet6
  | other
  deriving DecidableEq, Inhabited, Repr

/-- A socket address, its port in host order. -/
structure SockAddr where
  family : AddressFamily
  addr : List UInt8
  port : ℕ
  deriving DecidableEq, Inhabited, Repr

/-- What the array `origin_host` holds.  The text of `inet_ntop` stays
symbolic: it is only given back to `inet_pton` and to the log. -/
inductive HostText
  | presentation (family : AddressFamily) (addr : List UInt8)
  | name (bytes : List UInt8)
  deriving DecidableEq, Inhabited, Repr

/-- The host as a function of the C library reads it, up to the terminator. -/
def HostText.cString : HostText → HostText
  | .name bytes => .name (Socks5Proxy.cString bytes)
  | .presentation family addr => .presentation family addr

def inetNtop (family : AddressFamily) (addr : List UInt8) : HostText :=
  .presentation family addr

/-- `inet_pton` reads back what `inet_ntop` wrote for the same family. -/
def inetPton (family : AddressFamily) : HostText → Option (List UInt8)
  | .presentation family' addr => if family = family' then some addr else none
  | .name _ => none

/-! ## The connection record -/

inductive SocksV5State
  | greeting
  | auth
  | request
  | connect
  | reply
  | copy
  | done
  | error
  deriving DecidableEq, Inhabited, Repr

inductive GreetingState
  | verNNmethods
  | methods
  deriving DecidableEq, Inhabited, Repr

structure GreetingSt where
  state : GreetingState
  nMethods : UInt8
  method : UInt8
  deriving DecidableEq, Inhabited, Repr

inductive AuthState
  | authVer
  | authUlen
  | authUname
  | authPlen
  | authPasswd
  deriving DecidableEq, Inhabited, Repr

/-- `struct auth_st`; the two arrays have 256 cells. -/
structure AuthSt where
  state : AuthState
  ulen : UInt8
  plen : UInt8
  username : ℕ → UInt8
  password : ℕ → UInt8
  authenticated : Bool
  deriving Inhabited

inductive RequestState
  | verCmdAtyp
  | dstLen
  | dstRes
  deriving DecidableEq, Inhabited, Repr

structure RequestSt where
  state : RequestState
  cmd : UInt8
  atyp : UInt8
  deriving DecidableEq, Inhabited, Repr

structure ReplySt where
  rep : UInt8
  foundBndInfo : Bool
  deriving DecidableEq, Inhabited, Repr

/-- Which end of the connection a pointer leads to. -/
inductive Side
  | client
  | origin
  deriving DecidableEq, Inhabited, Repr

/-- `struct copy_st`: `buffer` points to one of the two buffers of the
connection and `otherCopySt` to one of its two `copy` members. -/
structure CopySt where
  buffer : Side
  fd : ℤ
  interests : FdInterest
  otherCopySt : Side
  deriving DecidableEq, Inhabited, Repr

/-- `struct socks5`.  The list `origin_resolution` is empty when the pointer
is null. -/
structure Socks5 where
  clientFd : ℤ
  clientBuffer : Buffer
  greeting : GreetingSt
  auth : AuthSt
  request : RequestSt
  reply : ReplySt
  clientCopy : CopySt
  originFd : ℤ
  originHost : HostText
  originPort : List UInt8
  originResolution : List SockAddr
  /-- The list is one of `getaddrinfo`. -/
  resolvedByName : Bool
  originBuffer : Buffer
  originCopy : CopySt
  atyp : UInt8
  stm : Option SocksV5State
  closed : Bool
  deriving Inhabited

/-! ## The kernel and the session -/

inductive ConnectResult
  | success
  | error (errno : ℤ)
  deriving DecidableEq, Inhabited, Repr

def einprogress : ℤ := 115
def enetunreach : ℤ := 101
def etimedout : ℤ := 110
def econnrefused : ℤ := 111
def ehostunreach : ℤ := 113

/-- The answers to the system calls of one round of `try_connection`. -/
structure Attempt where
  socket : ℤ
  setNio : Bool
  connect : ConnectResult
  alloc : Bool
  deriving DecidableEq, Inhabited, Repr

/-- What the kernel, the C library and uninitialised memory answer during one
callback.  A call that returned `-1` is `none`. -/
structure Env where
  /-- the `recv` of the reader, in `REQUEST` the one of `request_read` -/
  recv : Option (List UInt8)
  /-- the `recv` of `resolve_dst_address` -/
  recvDst : Option (List UInt8)
  send : Option ℕ
  users : UserStore
  /-- the initial value of the local `addrBytes` of `resolve_dst_address` -/
  addrBytes : UInt8
  callocAddr : Bool
  callocInfo : Bool
  /-- whether `malloc` and `pthread_create` succeed in `resolve_fqdn` -/
  startThread : Bool
  attempts : ℕ → Attempt
  getsockopt : Option ℤ
  getsockname : Option SockAddr
  deriving Inhabited

inductive ShutdownHow
  | rd
  | wr
  deriving DecidableEq, Inhabited, Repr

/-- The calls a connection makes that the outside can see. -/
inductive Action
  | recv (fd : ℤ) (bytes : List UInt8)
  | recvFailed (fd : ℤ)
  | send (fd : ℤ) (bytes : List UInt8)
  | sendFailed (fd : ℤ)
  | shutdown (fd : ℤ) (how : ShutdownHow)
  | authenticate (status : UserStatus)
  | connect (fd : ℤ) (addr : SockAddr) (result : ConnectResult)
  | connectFinished (fd : ℤ) (errno : ℤ)
  | resolve (host : HostText) (port : List UInt8)
  | close (fd : ℤ)
  | free
  deriving DecidableEq, Inhabited, Repr

/-- One connection and its address, the server state its callbacks touch, how
many resolver threads it has running, and the calls made so far, the latest
last. -/
structure Session where
  sel : FdSelector FdHandler ℕ
  address : ℕ
  conn : Socks5
  metrics : MetricSnapshot
  resolvers : ℕ
  log : List Action
  deriving Inhabited

/-- How one block of a reader ends. -/
abbrev SocksBlock (τ : Type) := Block Session τ SocksV5State

namespace Session

def act (s : Session) (action : Action) : Session :=
  { s with log := s.log ++ [action] }

/-- `selector_set_interest` with its status ignored. -/
def setInterest (s : Session) (fd : ℤ) (i : FdInterest) : Session :=
  { s with sel := (selectorSetInterest s.sel fd i).1 }

/-- The interest `fd` is registered with. -/
def interestOf (s : Session) (fd : ℤ) : Option FdInterest := s.sel.interestOf fd

/-- `recv(fd, …)` into the free part of `client_buffer`. -/
def recvClientBuffer (s : Session) (fd : ℤ) (answer : Option (List UInt8)) :
    Option (List UInt8) × Session :=
  let (readn, buffer) := bufferRecv s.conn.clientBuffer answer
  let s := { s with conn.clientBuffer := buffer }
  match readn with
  | none => (none, s.act (.recvFailed fd))
  | some bytes => (some bytes, s.act (.recv fd bytes))

/-- `send(fd, …)` from the unread part of `origin_buffer`. -/
def sendOriginBuffer (s : Session) (fd : ℤ) (answer : Option ℕ) :
    Option (List UInt8) × Session :=
  let (written, buffer) := bufferSend s.conn.originBuffer answer
  let s := { s with conn.originBuffer := buffer }
  match written with
  | none => (none, s.act (.sendFailed fd))
  | some bytes => (some bytes, s.act (.send fd bytes))

/-- One `buffer_write` to `origin_buffer` for each byte. -/
def writeOriginBuffer (s : Session) (bytes : List UInt8) : Session :=
  { s with conn.originBuffer := bufferWriteAll s.conn.originBuffer bytes }

end Session

end Socks5Proxy

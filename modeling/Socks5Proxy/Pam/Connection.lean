import Socks5Proxy.Shared.Buffer
import Socks5Proxy.Shared.Selector
import Socks5Proxy.Shared.Stm
import Socks5Proxy.Server.Users
import Socks5Proxy.Server.Metrics
import Socks5Proxy.Server.Handlers

/-!
# A management connection and what surrounds it

`struct pam` together with the parts of the server its callbacks touch: the
selector, the user store and the metrics.  What the kernel and uninitialised
memory answer during one callback is a `PamEnv`; the calls a connection has
made so far are kept in a log, which no callback reads.
-/

namespace Socks5Proxy

open Library.Memory

/-! ## Constants -/

def pamVersion1 : UInt8 := 0x01
def reservedByte : UInt8 := 0x00
def pamBufferSize : ℕ := 65536
def pamAuthUsernameMaxLenght : ℕ := 0xFF
def pamAuthPassMaxLenght : ℕ := 0xFF

def pamAuthSuccess : UInt8 := 0x00
def pamAuthFailure : UInt8 := 0x01
def pamServerError : UInt8 := 0x02

def pamRequestSuccess : UInt8 := 0x00
def pamRequestFailure : UInt8 := 0x01
def pamRequestUnauthorized : UInt8 := 0x02
def pamRequestUserAlreadyExists : UInt8 := 0x03
def pamRequestUserWrongPassword : UInt8 := 0x04
def pamRequestUserCredtoolong : UInt8 := 0x05
def pamRequestUserBadusername : UInt8 := 0x06

/-- The number of `PAM_ERROR` in `enum pam_state`, which three handlers store
as a status. -/
def pamErrorStatus : UInt8 := 3

/-! ## The connection record -/

inductive PamState
  | auth
  | request
  | done
  | error
  deriving DecidableEq, Inhabited, Repr

inductive PamAuthState
  | verNNuserNNpass
  | username
  | pass
  deriving DecidableEq, Inhabited, Repr

/-- `struct pamAuth_st`.  The arrays `username` and `pass` of 255 cells each
are one memory, in the order they are declared in: the terminator of a name of
255 bytes is the first cell of `pass`, and the one of such a password lies in
the padding. -/
structure PamAuthSt where
  state : PamAuthState
  status : UInt8
  nUser : UInt8
  nPass : UInt8
  credentials : ℕ → UInt8
  deriving Inhabited

inductive PamRequestState
  | verNReserved
  | method
  | nbody
  | readBody
  | write
  deriving DecidableEq, Inhabited, Repr

/-- `struct pamRequest_st`; the two bodies have 65536 cells. -/
structure PamRequestSt where
  state : PamRequestState
  reserved : UInt8
  method : UInt16
  readNbody : UInt16
  readBody : ℕ → UInt8
  status : UInt8
  writeNbody : UInt16
  writeBody : ℕ → UInt8
  deriving Inhabited

/-- `struct pam`. -/
structure Pam where
  clientFd : ℤ
  clientBuffer : Buffer
  auth : PamAuthSt
  request : PamRequestSt
  stm : Option PamState
  deriving Inhabited

/-- The C string `auth.username`; the terminator of the password ends it at
the latest. -/
@[irreducible] def Pam.username (c : Pam) : List UInt8 :=
  cString (slice c.auth.credentials 0 (pamAuthUsernameMaxLenght + pamAuthPassMaxLenght + 1))

/-- The C string `auth.pass`. -/
@[irreducible] def Pam.pass (c : Pam) : List UInt8 :=
  cString (slice c.auth.credentials pamAuthUsernameMaxLenght (pamAuthPassMaxLenght + 1))

theorem Pam.username_congr {c c' : Pam} (h : c'.auth.credentials = c.auth.credentials) :
    c'.username = c.username := by
  unfold Pam.username
  rw [h]

theorem Pam.pass_congr {c c' : Pam} (h : c'.auth.credentials = c.auth.credentials) :
    c'.pass = c.pass := by
  unfold Pam.pass
  rw [h]

/-! ## The kernel and the session -/

/-- The answers to `recv` and `send`, `none` for `-1`; whether `snprintf`
succeeds; and what the two last cells of the record of `user_create` held. -/
structure PamEnv where
  recv : Option (List UInt8)
  send : Option ℕ
  snprintf : Bool
  stack : UInt8 × UInt8
  deriving Inhabited

/-- The calls a connection makes that matter outside. -/
inductive PamAction
  | recv (fd : ℤ) (bytes : List UInt8)
  | recvFailed (fd : ℤ)
  | send (fd : ℤ) (bytes : List UInt8)
  | sendFailed (fd : ℤ)
  | authenticate (username pass : List UInt8) (status : UserStatus)
  | handle (method : UInt16) (body : List UInt8)
  | close (fd : ℤ)
  | free
  deriving DecidableEq, Inhabited, Repr

/-- One management connection and its address, the server state its callbacks
touch, whether its record has been freed, and the calls made so far, the
latest last. -/
structure PamSession where
  sel : FdSelector FdHandler ℕ
  address : ℕ
  conn : Pam
  users : UserStore
  metrics : MetricSnapshot
  freed : Bool
  log : List PamAction
  deriving Inhabited

/-- How one block of a reader ends. -/
abbrev PamBlock (τ : Type) := Block PamSession τ PamState

namespace PamSession

def act (s : PamSession) (action : PamAction) : PamSession :=
  { s with log := s.log ++ [action] }

/-- `selector_set_interest_key` with its status ignored. -/
def setInterest (s : PamSession) (fd : ℤ) (i : FdInterest) : PamSession :=
  { s with sel := (selectorSetInterest s.sel fd i).1 }

/-- `recv(fd, …)` into the free part of `client_buffer`. -/
def recvClientBuffer (s : PamSession) (fd : ℤ) (answer : Option (List UInt8)) :
    Option (List UInt8) × PamSession :=
  let (readn, buffer) := bufferRecv s.conn.clientBuffer answer
  let s := { s with conn.clientBuffer := buffer }
  match readn with
  | none => (none, s.act (.recvFailed fd))
  | some bytes => (some bytes, s.act (.recv fd bytes))

/-- `send(fd, …)` from the unread part of `client_buffer`. -/
def sendClientBuffer (s : PamSession) (fd : ℤ) (answer : Option ℕ) :
    Option (List UInt8) × PamSession :=
  let (written, buffer) := bufferSend s.conn.clientBuffer answer
  let s := { s with conn.clientBuffer := buffer }
  match written with
  | none => (none, s.act (.sendFailed fd))
  | some bytes => (some bytes, s.act (.send fd bytes))

/-- `buffer_reset` and one `buffer_write` for each byte. -/
def answerWith (s : PamSession) (bytes : List UInt8) : PamSession :=
  { s with conn.clientBuffer := bufferWriteAll (bufferReset s.conn.clientBuffer) bytes }

def setStatus (s : PamSession) (status : UInt8) : PamSession :=
  { s with conn.request.status := status }

@[simp] theorem setStatus_users (s : PamSession) (status : UInt8) :
    (s.setStatus status).users = s.users := rfl

@[simp] theorem setStatus_username (s : PamSession) (status : UInt8) :
    (s.setStatus status).conn.username = s.conn.username :=
  Pam.username_congr rfl

end PamSession

/-- What does not fit in the buffer is not sent. -/
theorem answerWith_content (s : PamSession) (bytes : List UInt8) :
    (s.answerWith bytes).conn.clientBuffer.content =
      bytes.take s.conn.clientBuffer.limit := by
  change (bufferWriteAll (bufferReset s.conn.clientBuffer) bytes).content = _
  rw [(bufferWriteAll_view _ bytes).1, bufferReset_content, bufferReset_space, List.nil_append]

end Socks5Proxy

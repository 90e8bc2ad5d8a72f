import Socks5Proxy.Socks.Connection

/-!
# COPY

`copy.c`: two byte streams in opposite directions.  The two `CopySt` records
hold the buffers swapped: the record of a descriptor holds the buffer whose
bytes go to that descriptor.
-/

namespace Socks5Proxy

namespace Session

def copySt (s : Session) : Side → CopySt
  | .client => s.conn.clientCopy
  | .origin => s.conn.originCopy

def setCopyInterests (s : Session) (side : Side) (i : FdInterest) : Session :=
  match side with
  | .client => { s with conn.clientCopy.interests := i }
  | .origin => { s with conn.originCopy.interests := i }

/-- The buffer a `CopySt` points to. -/
def buffer (s : Session) : Side → Buffer
  | .client => s.conn.clientBuffer
  | .origin => s.conn.originBuffer

def setBuffer (s : Session) (side : Side) (b : Buffer) : Session :=
  match side with
  | .client => { s with conn.clientBuffer := b }
  | .origin => { s with conn.originBuffer := b }

end Session

/-- `update_target_interests`; `none` is its return value `-1`, and `target`
stands for the pointer. -/
def updateTargetInterests (s : Session) (target : Side) : Option Session :=
  let other := (s.copySt target).otherCopySt
  let targetBuffer := s.buffer (s.copySt target).buffer
  let otherBuffer := s.buffer (s.copySt other).buffer
  let ret : FdInterest := ⟨bufferCanWrite otherBuffer, bufferCanRead targetBuffer⟩
  let oet : FdInterest := ⟨bufferCanWrite targetBuffer, bufferCanRead otherBuffer⟩
  match selectorSetInterest s.sel (s.copySt target).fd ret with
  | (sel, .success) =>
    match selectorSetInterest sel (s.copySt other).fd oet with
    | (sel, .success) =>
      some ((({ s with sel := sel }).setCopyInterests target ret).setCopyInterests other oet)
    | _ => none
  | _ => none

/-- What `update_target_interests` leaves behind when it fails: the selector
calls it made before it gave up. -/
def updateTargetInterestsFailed (s : Session) (target : Side) : Session :=
  let other := (s.copySt target).otherCopySt
  let targetBuffer := s.buffer (s.copySt target).buffer
  let otherBuffer := s.buffer (s.copySt other).buffer
  let ret : FdInterest := ⟨bufferCanWrite otherBuffer, bufferCanRead targetBuffer⟩
  let oet : FdInterest := ⟨bufferCanWrite targetBuffer, bufferCanRead otherBuffer⟩
  match selectorSetInterest s.sel (s.copySt target).fd ret with
  | (sel, .success) => { s with sel := (selectorSetInterest sel (s.copySt other).fd oet).1 }
  | (sel, _) => { s with sel := sel }

def socksv5CopyArrival (s : Session) : Session :=
  let toWriteToOrigin := (bufferReadPtr s.conn.clientBuffer).2
  let originInterests : FdInterest := if toWriteToOrigin > 0 then .opWrite else .opRead
  let s := { s with
    conn.clientCopy :=
      { buffer := .origin
        fd := s.conn.clientFd
        interests := .opRead
        otherCopySt := .origin }
    conn.originCopy :=
      { buffer := .client
        fd := s.conn.originFd
        interests := originInterests
        otherCopySt := .client } }
  let s := s.setInterest s.conn.originCopy.fd originInterests
  s.setInterest s.conn.clientCopy.fd (if toWriteToOrigin > 0 then .opNoop else .opRead)

/-- The `CopySt` of the descriptor the event is for: `IS_CLIENT_DATA`. -/
def keySide (key : SelectorKey) (s : Session) : Side :=
  if s.conn.clientFd = key.fd then .client else .origin

/-- `shutdown(fd, SHUT_RD)` on the record's descriptor and `&= ~OP_READ`. -/
def shutRead (s : Session) (side : Side) : Session :=
  let s := s.act (.shutdown (s.copySt side).fd .rd)
  let s := s.setCopyInterests side ((s.copySt side).interests.off .opRead)
  s.setInterest (s.copySt side).fd (s.copySt side).interests

/-- `shutdown(fd, SHUT_WR)` on the record's descriptor and `&= ~OP_WRITE`. -/
def shutWrite (s : Session) (side : Side) : Session :=
  let s := s.act (.shutdown (s.copySt side).fd .wr)
  let s := s.setCopyInterests side ((s.copySt side).interests.off .opWrite)
  s.setInterest (s.copySt side).fd (s.copySt side).interests

/-- `(from->interests | other->interests) ^ OP_NOOP ? COPY : DONE`. -/
def copyResult (s : Session) (a b : Side) : Session × SocksV5State :=
  if (s.copySt a).interests.union (s.copySt b).interests = .opNoop then (s, .done)
  else (s, .copy)

/-- The end of a callback that moved bytes: update the interests or give up. -/
def afterTransfer (s : Session) (a b : Side) : Session × SocksV5State :=
  match updateTargetInterests s a with
  | none => (updateTargetInterestsFailed s a, .error)
  | some s => copyResult s a b

def socksv5CopyRead (env : Env) (key : SelectorKey) (s : Session) :
    Session × SocksV5State :=
  let src := keySide key s
  let dst := (s.copySt src).otherCopySt
  if bufferCanWrite (s.buffer (s.copySt dst).buffer) = false then
    (s, .copy)
  else
    let fd := (s.copySt src).fd
    let (readBytes, buffer) := bufferRecv (s.buffer (s.copySt dst).buffer) env.recv
    match readBytes with
    | some (byte :: bytes) =>
      let s := s.setBuffer (s.copySt dst).buffer buffer
      let s := s.act (.recv fd (byte :: bytes))
      let s := { s with
        metrics := registerBytesTransferred s.metrics 0 (bytes.length + 1) }
      afterTransfer s src dst
    | some [] =>
      copyResult (shutWrite (shutRead (s.act (.recv fd [])) src) dst) src dst
    | none =>
      copyResult (shutWrite (shutRead (s.act (.recvFailed fd)) src) dst) src dst

def socksv5CopyWrite (env : Env) (key : SelectorKey) (s : Session) :
    Session × SocksV5State :=
  let src := keySide key s
  let other := (s.copySt src).otherCopySt
  if bufferCanRead (s.buffer (s.copySt src).buffer) = false then
    (s, .copy)
  else
    let toFd := (s.copySt src).fd
    let (writtenBytes, buffer) := bufferSend (s.buffer (s.copySt src).buffer) env.send
    match writtenBytes with
    | some (byte :: bytes) =>
      let s := s.setBuffer (s.copySt src).buffer buffer
      let s := s.act (.send toFd (byte :: bytes))
      let s := { s with
        metrics := registerBytesTransferred s.metrics (bytes.length + 1) 0 }
      afterTransfer s src other
    | some [] =>
      copyResult (shutRead (shutWrite (s.act (.send toFd [])) src) other) src other
    | none =>
      copyResult (shutRead (shutWrite (s.act (.sendFailed toFd)) src) other) src other

/-- `socksv5_copy_close` only logs. -/
def socksv5CopyClose (s : Session) : Session := s

end Socks5Proxy

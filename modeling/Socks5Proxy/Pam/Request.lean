import Socks5Proxy.Pam.Methods

/-!
# PAM_REQUEST

`pamRequest.c`: the decoder of a management request and the queued answer.
Every block tests the free part of `client_buffer`; two of them then advance
the read pointer without looking at the content.
-/

namespace Socks5Proxy

open Library.Memory

def pamRequestArrival (s : PamSession) : PamSession :=
  { s with
    conn.request.state := .verNReserved
    conn.request.reserved := reservedByte }

def pamRequestVerNReserved (s : PamSession) : PamBlock PamSession :=
  if s.conn.request.state = .verNReserved then
    let toRead := (bufferWritePtr s.conn.clientBuffer).2
    if toRead < 2 then
      .returned s .request
    else
      let (ver, buffer) := bufferRead s.conn.clientBuffer
      let s := { s with conn.clientBuffer := buffer }
      if ver ≠ pamVersion1 then
        .returned s .error
      else
        let (reserved, buffer) := bufferRead s.conn.clientBuffer
        let s := { s with conn.clientBuffer := buffer }
        if reserved ≠ s.conn.request.reserved then
          .returned s .error
        else
          .next { s with conn.request.state := .method }
  else
    .next s

/-- `ntohs` of the two bytes at the read pointer. -/
def wordAt (b : Buffer) : UInt16 :=
  UInt16.ofNat ((b.data b.read).toNat * 256 + (b.data (b.read + 1)).toNat)

/-- The blocks `METHOD` and `NBODY`, which differ in the sub-states and in the
member they assign. -/
def pamRequestWord (here next : PamRequestState)
    (assign : UInt16 → PamRequestSt → PamRequestSt) (s : PamSession) :
    Except Fault (PamBlock PamSession) :=
  if s.conn.request.state = here then
    let toRead := (bufferWritePtr s.conn.clientBuffer).2
    if toRead < 2 then
      .ok (.returned s .request)
    else
      let request := assign (wordAt s.conn.clientBuffer) s.conn.request
      match bufferReadAdv s.conn.clientBuffer 2 with
      | none => .error .assertion
      | some buffer =>
        .ok (.next
          { s with
            conn.clientBuffer := buffer
            conn.request := { request with state := next } })
  else
    .ok (.next s)

def pamRequestMethod : PamSession → Except Fault (PamBlock PamSession) :=
  pamRequestWord .method .nbody fun method request => { request with method := method }

def pamRequestNbody : PamSession → Except Fault (PamBlock PamSession) :=
  pamRequestWord .nbody .readBody fun nbody request => { request with readNbody := nbody }

/-- The buffer over `read_body` that the handlers read from. -/
def bodyBuffer (request : PamRequestSt) : Buffer :=
  (bufferInit pamBufferSize request.readBody).advanceWrite request.readNbody.toNat (by
    have hlen := request.readNbody.toNat_lt
    change 0 + request.readNbody.toNat ≤ 65536
    omega)

/-- `VER STATUS NBODY BODY`. -/
def pamResponse (request : PamRequestSt) : List UInt8 :=
  pamVersion1 :: request.status ::
    UInt8.ofNat (request.writeNbody.toNat / 256) ::
    UInt8.ofNat (request.writeNbody.toNat % 256) ::
    slice request.writeBody 0 request.writeNbody.toNat

/-- The block `READ_BODY`; `buffer_read` finds zeros behind the content.  The
state stays `READ_BODY`. -/
def pamRequestReadBody (env : PamEnv) (key : SelectorKey) (s : PamSession) :
    Except Fault (PamBlock PamSession) :=
  if s.conn.request.state = .readBody then
    let toRead := (bufferWritePtr s.conn.clientBuffer).2
    let nbody := s.conn.request.readNbody.toNat
    if toRead < nbody then
      .ok (.returned s .request)
    else
      let (bytes, buffer) := bufferReadN nbody s.conn.clientBuffer
      let s :=
        { s with
          conn.clientBuffer := buffer
          conn.request.readBody := store s.conn.request.readBody 0 (bytes ++ [0]) }
      match handlePamRequestMethod env s (bodyBuffer s.conn.request) with
      | .error fault => .error fault
      | .ok s =>
        .ok (.next ((s.answerWith (pamResponse s.conn.request)).setInterest key.fd .opWrite))
  else
    .ok (.next s)

/-- Continue with the block below unless the process has aborted or the
callback has returned. -/
def PamBlock.continue (b : Except Fault (PamBlock PamSession))
    (f : PamSession → Except Fault (PamBlock PamSession)) :
    Except Fault (PamBlock PamSession) :=
  match b with
  | .error fault => .error fault
  | .ok (.returned s ret) => .ok (.returned s ret)
  | .ok (.next s) => f s

/-- The four blocks in order. -/
def pamRequestBlocks (env : PamEnv) (key : SelectorKey) (s : PamSession) :
    Except Fault (PamBlock PamSession) :=
  PamBlock.continue (PamBlock.continue (PamBlock.continue (.ok (pamRequestVerNReserved s))
    pamRequestMethod) pamRequestNbody) (pamRequestReadBody env key)

def pamRequestRead (env : PamEnv) (key : SelectorKey) (s : PamSession) :
    Except Fault (PamSession × PamState) :=
  let (readn, s) := s.recvClientBuffer key.fd env.recv
  match readn with
  | none => .ok (s, .error)
  | some [] => .ok (s, .done)
  | some (_ :: _) =>
    match pamRequestBlocks env key s with
    | .error fault => .error fault
    | .ok (.returned s ret) => .ok (s, ret)
    | .ok (.next s) => .ok (s, .request)

def pamRequestWrite (env : PamEnv) (key : SelectorKey) (s : PamSession) :
    PamSession × PamState :=
  let (written, s) := s.sendClientBuffer s.conn.clientFd env.send
  match written with
  | none => (s, .error)
  | some _ =>
    if bufferCanRead s.conn.clientBuffer then
      (s, .request)
    else
      let s := { s with conn.clientBuffer := bufferReset s.conn.clientBuffer }
      (s.setInterest key.fd .opNoop, .done)

end Socks5Proxy

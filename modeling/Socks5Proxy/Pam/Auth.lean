import Socks5Proxy.Pam.Connection

/-!
# PAM_AUTH

`pamAuth.c`: the credentials of a management connection.  The first block
tests the free part of `client_buffer`, the other two its content.
-/

namespace Socks5Proxy

open Library.Memory

def pamAuthArrival (s : PamSession) : PamSession :=
  { s with conn.auth.state := .verNNuserNNpass }

def pamAuthVerNNuserNNpass (s : PamSession) : PamBlock PamSession :=
  if s.conn.auth.state = .verNNuserNNpass then
    let toRead := (bufferWritePtr s.conn.clientBuffer).2
    if toRead < 3 then
      .returned s .auth
    else
      let (ver, buffer) := bufferRead s.conn.clientBuffer
      let s := { s with conn.clientBuffer := buffer }
      if ver ≠ pamVersion1 then
        .returned s .error
      else
        let (nUser, buffer) := bufferRead s.conn.clientBuffer
        let s := { s with conn.clientBuffer := buffer, conn.auth.nUser := nUser }
        if nUser = 0 then
          .returned s .error
        else
          let (nPass, buffer) := bufferRead s.conn.clientBuffer
          let s := { s with conn.clientBuffer := buffer, conn.auth.nPass := nPass }
          if nPass = 0 then
            .returned s .error
          else
            .next { s with conn.auth.state := .username }
  else
    .next s

def pamAuthUsername (s : PamSession) : PamBlock PamSession :=
  if s.conn.auth.state = .username then
    let toRead := (bufferReadPtr s.conn.clientBuffer).2
    let nUser := s.conn.auth.nUser.toNat
    if toRead < nUser then
      .returned s .auth
    else
      let (bytes, buffer) := bufferReadN nUser s.conn.clientBuffer
      .next
        { s with
          conn.clientBuffer := buffer
          conn.auth.credentials := store s.conn.auth.credentials 0 (bytes ++ [0])
          conn.auth.state := .pass }
  else
    .next s

/-- The status stored for each result of `user_authenticate`; the other two
results end in `PAM_ERROR`. -/
def pamAuthStatus : UserStatus → Option UInt8
  | .ok => some pamAuthSuccess
  | .badUsername => some pamAuthFailure
  | .wrongPassword => some pamAuthFailure
  | _ => none

/-- The call of `user_authenticate` and the queued answer. -/
def pamCheckCredentials (key : SelectorKey) (s : PamSession) : PamBlock PamSession :=
  let userStatus := userAuthenticate s.users s.conn.username s.conn.pass
  let s := s.act (.authenticate s.conn.username s.conn.pass userStatus)
  match pamAuthStatus userStatus with
  | none => .returned s .error
  | some status =>
    let s := { s with conn.auth.status := status }
    .next ((s.answerWith [pamVersion1, status]).setInterest key.fd .opWrite)

/-- The state stays `PASS`. -/
def pamAuthPass (key : SelectorKey) (s : PamSession) : PamBlock PamSession :=
  if s.conn.auth.state = .pass then
    let toRead := (bufferReadPtr s.conn.clientBuffer).2
    let nPass := s.conn.auth.nPass.toNat
    if toRead < nPass then
      .returned s .auth
    else
      let (bytes, buffer) := bufferReadN nPass s.conn.clientBuffer
      pamCheckCredentials key
        { s with
          conn.clientBuffer := buffer
          conn.auth.credentials :=
            store s.conn.auth.credentials pamAuthUsernameMaxLenght (bytes ++ [0]) }
  else
    .next s

def pamAuthRead (env : PamEnv) (key : SelectorKey) (s : PamSession) : PamSession × PamState :=
  let (readn, s) := s.recvClientBuffer key.fd env.recv
  match readn with
  | none => (s, .error)
  | some [] => (s, .done)
  | some (_ :: _) =>
    let blocks :=
      ((pamAuthVerNNuserNNpass s).andThen pamAuthUsername).andThen (pamAuthPass key)
    match blocks with
    | .returned s ret => (s, ret)
    | .next s => (s, .auth)

def pamAuthWrite (env : PamEnv) (key : SelectorKey) (s : PamSession) : PamSession × PamState :=
  let (written, s) := s.sendClientBuffer s.conn.clientFd env.send
  match written with
  | none => (s, .error)
  | some _ =>
    if bufferCanRead s.conn.clientBuffer then
      (s, .auth)
    else
      let s := { s with conn.clientBuffer := bufferReset s.conn.clientBuffer }
      (s.setInterest key.fd .opRead, .request)

end Socks5Proxy

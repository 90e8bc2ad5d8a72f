import Socks5Proxy.Socks.Connection

/-!
# AUTH

`auth.c`: the username and password message.  The local `toRead` is carried
from block to block.
-/

namespace Socks5Proxy

open Library.Memory

def authVersion : UInt8 := 0x01
def authSuccess : UInt8 := 0x00
def authFailure : UInt8 := 0x01

def authArrival (s : Session) : Session :=
  { s with
    conn.auth :=
      { s.conn.auth with
        state := .authVer
        ulen := 0
        plen := 0
        authenticated := false } }

/-- The C string an array of 256 cells holds. -/
def credential (array : ℕ → UInt8) : List UInt8 := cString (slice array 0 256)

def authVer (s : Session) (toRead : ℕ) : SocksBlock (Session × ℕ) :=
  if s.conn.auth.state = .authVer then
    if toRead < 1 then
      .returned s .auth
    else
      let (ver, buffer) := bufferRead s.conn.clientBuffer
      let s := { s with conn.clientBuffer := buffer }
      if ver ≠ authVersion then
        .returned s .error
      else
        .next ({ s with conn.auth.state := .authUlen }, toRead - 1)
  else
    .next (s, toRead)

/-- The test `ulen > 255` of the source never holds of a byte. -/
def authUlen (s : Session) (toRead : ℕ) : SocksBlock (Session × ℕ) :=
  if s.conn.auth.state = .authUlen then
    if toRead < 1 then
      .returned s .auth
    else
      let (ulen, buffer) := bufferRead s.conn.clientBuffer
      let s := { s with conn.clientBuffer := buffer, conn.auth.ulen := ulen }
      if ulen = 0 then
        .returned s .error
      else
        .next ({ s with conn.auth.state := .authUname }, toRead - 1)
  else
    .next (s, toRead)

def authUname (s : Session) (toRead : ℕ) : SocksBlock (Session × ℕ) :=
  if s.conn.auth.state = .authUname then
    let ulen := s.conn.auth.ulen.toNat
    if toRead < ulen then
      .returned s .auth
    else
      let (bytes, buffer) := bufferReadN ulen s.conn.clientBuffer
      let s := { s with
        conn.clientBuffer := buffer
        conn.auth.username := store s.conn.auth.username 0 (bytes ++ [0]) }
      .next ({ s with conn.auth.state := .authPlen }, toRead - ulen)
  else
    .next (s, toRead)

def authPlen (s : Session) (toRead : ℕ) : SocksBlock (Session × ℕ) :=
  if s.conn.auth.state = .authPlen then
    if toRead < 1 then
      .returned s .auth
    else
      let (plen, buffer) := bufferRead s.conn.clientBuffer
      let s := { s with conn.clientBuffer := buffer, conn.auth.plen := plen }
      if plen = 0 then
        .returned s .error
      else
        .next ({ s with conn.auth.state := .authPasswd }, toRead - 1)
  else
    .next (s, toRead)

/-- The call of `user_authenticate` and the `switch` on its result. -/
def checkCredentials (env : Env) (s : Session) : Session :=
  let status := userAuthenticate env.users
    (credential s.conn.auth.username) (credential s.conn.auth.password)
  let s := s.act (.authenticate status)
  match status with
  | .badUsername => s
  | .wrongPassword => s
  | _ => { s with conn.auth.authenticated := true }

/-- The password block, the credential check and the queued answer. -/
def authPasswd (env : Env) (key : SelectorKey) (s : Session) (toRead : ℕ) :
    SocksBlock (Session × ℕ) :=
  if s.conn.auth.state = .authPasswd then
    let plen := s.conn.auth.plen.toNat
    if toRead < plen then
      .returned s .auth
    else
      let (bytes, buffer) := bufferReadN plen s.conn.clientBuffer
      let s := { s with
        conn.clientBuffer := buffer
        conn.auth.password := store s.conn.auth.password 0 (bytes ++ [0]) }
      let s := checkCredentials env s
      let s := s.writeOriginBuffer
        [authVersion, if s.conn.auth.authenticated then authSuccess else authFailure]
      .next (s.setInterest key.fd .opWrite, toRead - plen)
  else
    .next (s, toRead)

def authRead (env : Env) (key : SelectorKey) (s : Session) : Session × SocksV5State :=
  let (readn, s) := s.recvClientBuffer key.fd env.recv
  match readn with
  | none => (s, .error)
  | some _ =>
    let toRead := (bufferReadPtr s.conn.clientBuffer).2
    if toRead = 0 then
      (s, .done)
    else
      let blocks :=
        ((((authVer s toRead).andThen fun (s, toRead) => authUlen s toRead).andThen
          fun (s, toRead) => authUname s toRead).andThen
          fun (s, toRead) => authPlen s toRead).andThen
          fun (s, toRead) => authPasswd env key s toRead
      match blocks with
      | .returned s ret => (s, ret)
      | .next (s, _) => (s, .auth)

def authWrite (env : Env) (key : SelectorKey) (s : Session) : Session × SocksV5State :=
  let (written, s) := s.sendOriginBuffer s.conn.clientFd env.send
  match written with
  | none => (s, .error)
  | some _ =>
    if bufferCanRead s.conn.originBuffer then
      (s, .auth)
    else if s.conn.auth.authenticated = false then
      (s, .error)
    else
      (s.setInterest key.fd .opRead, .request)

end Socks5Proxy

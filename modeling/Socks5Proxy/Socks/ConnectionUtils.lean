import Socks5Proxy.Socks.Connection

/-!
# Connecting to an address list

`connection_utils.c`, with the reply codes of `reply.h` and the return codes
of `connection_utils.h`.  The two families of codes overlap, and both are kept
as the numbers they are.
-/

namespace Socks5Proxy

/-! ## Reply codes -/

def succeded : UInt8 := 0x00
def serverFailure : UInt8 := 0x01
def networkUnreachable : UInt8 := 0x03
def hostUnreachable : UInt8 := 0x04
def connectionRefused : UInt8 := 0x05
def ttlExpired : UInt8 := 0x06
def commandNotSupported : UInt8 := 0x07
def addressTypeNotSupported : UInt8 := 0x08
def invalidSocks5Version : UInt8 := 0x09
def invalidRsv : UInt8 := 0x10
def invalidFqdnLenght : UInt8 := 0x11

/-! ## Return codes of `try_connection` -/

def generalFailure : UInt8 := 0
def selectorRegisterFailed : UInt8 := 1
def connectionInProgress : UInt8 := 2
def connectionDone : UInt8 := 3

/-- The code `try_connection` returns when the last address failed. -/
def connectFailureCode (errno : ℤ) : UInt8 :=
  if errno = enetunreach then networkUnreachable
  else if errno = ehostunreach then hostUnreachable
  else if errno = econnrefused then connectionRefused
  else if errno = etimedout then ttlExpired
  else generalFailure

/-- `get_next_resolution`; the caller has dereferenced the head already. -/
def getNextResolution (s : Session) : Session :=
  { s with conn.originResolution := s.conn.originResolution.tail }

/-- Close the origin socket and forget it. -/
def closeOriginFd (s : Session) : Session :=
  { s.act (.close s.conn.originFd) with conn.originFd := -1 }

/-- The body of `try_connection` for the address at the head of the list.  The
outcome is the return code, or the session in which it calls itself for the
next address. -/
def tryAddress (env : Env) (key : SelectorKey) (round : ℕ) (ai : SockAddr)
    (aiNext : List SockAddr) (s : Session) : Block Session Session UInt8 :=
  let answer := env.attempts round
  let s := { s with conn.originFd := answer.socket }
  if answer.socket = -1 then
    .next (getNextResolution s)
  else if answer.setNio = false then
    .next (getNextResolution (closeOriginFd s))
  else
    let s := s.act (.connect answer.socket ai answer.connect)
    match answer.connect with
    | .success => .returned s connectionDone
    | .error errno =>
      if errno = einprogress then
        let (sel, status) := selectorRegister s.sel answer.socket (some .socks5Handler)
          .opWrite (some key.data) answer.alloc
        if status ≠ .success then
          .returned { s with sel := sel } selectorRegisterFailed
        else
          .returned { s with sel := sel } connectionInProgress
      else if aiNext ≠ [] then
        let s := { s with
          sel := (selectorUnregisterFdWithoutClosing s.sel answer.socket).1 }
        .next (getNextResolution (closeOriginFd s))
      else
        .returned s (connectFailureCode errno)

/-- `try_connection` on the address list; a null list is dereferenced. -/
def tryAddresses (env : Env) (key : SelectorKey) :
    ℕ → List SockAddr → Session → Except Fault (Session × UInt8)
  | _, [], _ => .error .nullDereference
  | round, ai :: aiNext, s =>
    match tryAddress env key round ai aiNext s with
    | .returned s ret => .ok (s, ret)
    | .next s => tryAddresses env key (round + 1) aiNext s

def tryConnection (env : Env) (key : SelectorKey) (s : Session) :
    Except Fault (Session × UInt8) :=
  tryAddresses env key 0 s.conn.originResolution s

/-- `print_connection_access_log` reads the family of the first address. -/
def printConnectionAccessLog (s : Session) : Except Fault Session :=
  match s.conn.originResolution with
  | [] => .error .nullDereference
  | _ :: _ => .ok s

end Socks5Proxy

import Socks5Proxy.Socks.Request

/-!
# CONNECT

`connect.c`: the callback both descriptors are registered with while a
connection attempt is in progress.
-/

namespace Socks5Proxy

/-- The reply code stored when the last address failed with the error
`optVal`.  The cases compare the error with reply codes, and what they store
is the value `getsockopt` returned, zero. -/
def lastAddressRep (optVal : ℤ) : UInt8 :=
  if optVal = networkUnreachable.toNat then 0
  else if optVal = hostUnreachable.toNat then 0
  else if optVal = connectionRefused.toNat then 0
  else if optVal = ttlExpired.toNat then 0
  else serverFailure

/-- The `switch` of `connect_write` on the code of a further
`try_connection`; `CONNECTION_IN_PROGRESS` returns without the common end. -/
def connectWriteResult (s : Session) (ret : UInt8) :
    Except Fault (Session × SocksV5State) :=
  if ret = generalFailure then .ok (replyWith serverFailure s)
  else if ret = selectorRegisterFailed then .ok (replyWith serverFailure s)
  else if ret = networkUnreachable then .ok (replyWith ret s)
  else if ret = hostUnreachable then .ok (replyWith ret s)
  else if ret = connectionRefused then .ok (replyWith ret s)
  else if ret = ttlExpired then .ok (replyWith ret s)
  else if ret = connectionInProgress then .ok (s, .connect)
  else
    match printConnectionAccessLog s with
    | .error fault => .error fault
    | .ok s => .ok (replyWith succeded (s.setInterest s.conn.originFd .opNoop))

/-- `getsockopt(origin_fd, SO_ERROR)`; it fails on a descriptor of `-1`. -/
def sockError (env : Env) (fd : ℤ) : Option ℤ := if fd < 0 then none else env.getsockopt

/-- The end of a failed attempt: drop the origin socket. -/
def dropOrigin (s : Session) : Session :=
  closeOriginFd
    { s with sel := (selectorUnregisterFdWithoutClosing s.sel s.conn.originFd).1 }

def connectWrite (env : Env) (key : SelectorKey) (s : Session) :
    Except Fault (Session × SocksV5State) :=
  match sockError env s.conn.originFd with
  | none => .ok (replyWith serverFailure s)
  | some optVal =>
    if optVal ≠ 0 then
      let s := dropOrigin s
      match s.conn.originResolution with
      | [] => .error .nullDereference
      | [_] => .ok (replyWith (lastAddressRep optVal) s)
      | _ :: _ :: _ =>
        match tryConnection env key (getNextResolution s) with
        | .error fault => .error fault
        | .ok (s, ret) => connectWriteResult s ret
    else
      match printConnectionAccessLog s with
      | .error fault => .error fault
      | .ok s => .ok (replyWith succeded (s.setInterest s.conn.originFd .opNoop))

end Socks5Proxy

import Socks5Proxy.Library.Framing
import Socks5Proxy.Server.UserMap
import Socks5Proxy.Shared.Text

/-!
# The commands of the management client

`client_utils.c`: the requests that the four commands on users send.  No
command looks at its arguments before it puts them into a body.
-/

namespace Socks5Proxy.Client

open Library

def protocolVersion : UInt8 := 0x01
def methodAddUser : UInt16 := 0x0002
def methodRemoveUser : UInt16 := 0x0003
def methodChangePassword : UInt16 := 0x0004
def methodChangeRole : UInt16 := 0x0005

/-- The arguments of a command, as `struct ClientArgs` keeps them. -/
structure ClientArgs where
  arg1 : CString
  arg2 : CString
  arg3 : CString

/-- `send_request`: the bytes handed to `send`, if `malloc` finds room for
them. -/
def sendRequest (alloc : Bool) (ver : UInt8) (method nBody : UInt16) (body : List UInt8) :
    Option (List UInt8) :=
  let reserved : UInt8 := 0x00
  if alloc then
    some (ver :: reserved ::
      (networkOrder method ++ (networkOrder nBody ++ body.take nBody.toNat)))
  else
    none

/-- `strlen` kept in a `uint8_t`. -/
def strlen (s : CString) : UInt8 := UInt8.ofNat s.bytes.length

/-- `(uint8_t)atoi(s)`. -/
def roleByte (s : CString) : UInt8 := UInt8.ofInt (atoiInt s.bytes).toInt

def addUser (alloc : Bool) (args : ClientArgs) : Option (List UInt8) :=
  let ulen := strlen args.arg1
  let plen := strlen args.arg2
  let role := roleByte args.arg3
  let bodyLen := 1 + ulen.toUInt16 + 1 + plen.toUInt16 + 1
  let body := ulen :: (args.arg1.bytes.take ulen.toNat ++
    (plen :: (args.arg2.bytes.take plen.toNat ++ [role])))
  sendRequest alloc protocolVersion methodAddUser bodyLen body

def removeUser (alloc : Bool) (args : ClientArgs) : Option (List UInt8) :=
  let ulen := strlen args.arg1
  let bodyLen := 1 + ulen.toUInt16
  let body := ulen :: args.arg1.bytes.take ulen.toNat
  sendRequest alloc protocolVersion methodRemoveUser bodyLen body

def changePassword (alloc : Bool) (args : ClientArgs) : Option (List UInt8) :=
  let ulen := strlen args.arg1
  let nPlen := strlen args.arg2
  let bodyLen := 1 + ulen.toUInt16 + 1 + nPlen.toUInt16
  let body := ulen :: (args.arg1.bytes.take ulen.toNat ++
    (nPlen :: args.arg2.bytes.take nPlen.toNat))
  sendRequest alloc protocolVersion methodChangePassword bodyLen body

def changeRole (alloc : Bool) (args : ClientArgs) : Option (List UInt8) :=
  let ulen := strlen args.arg1
  let nRole := roleByte args.arg2
  let bodyLen := 1 + ulen.toUInt16 + 1
  let body := ulen :: (args.arg1.bytes.take ulen.toNat ++ [nRole])
  sendRequest alloc protocolVersion methodChangeRole bodyLen body

/-- The commands on users. -/
inductive Command
  | addUser
  | removeUser
  | changePassword
  | changeRole
  deriving DecidableEq

/-- What a command sends, if it sends anything. -/
def Command.run : Command → Bool → ClientArgs → Option (List UInt8)
  | addUser => Client.addUser
  | removeUser => Client.removeUser
  | changePassword => Client.changePassword
  | changeRole => Client.changeRole

end Socks5Proxy.Client

import Mathlib.Algebra.Group.Nat.Defs
import Socks5Proxy.Pam.Connection
import Socks5Proxy.Shared.Text

/-!
# The management methods

`pamMethods.c`: what each method of a request does.  A handler finds the body
in a buffer of its own and leaves `status`, `write_nbody` and `write_body`;
those it does not assign keep what the record held.
-/

namespace Socks5Proxy

open Library.Memory

/-! ## Method numbers -/

def pamRequestMethodGetConnectedUsersList : UInt16 := 0x01
def pamRequestMethodAddUser : UInt16 := 0x02
def pamRequestMethodRemoveUser : UInt16 := 0x03
def pamRequestMethodChangePassword : UInt16 := 0x04
def pamRequestMethodChangeRole : UInt16 := 0x05
def pamRequestMethodGetMetrics : UInt16 := 0x06

/-- A length byte and that many bytes, kept as a C string in a local array: of
255 bytes the terminator falls behind it. -/
def readString (buffer : Buffer) : Except Fault (List UInt8 × Buffer) :=
  let (lenght, buffer) := bufferRead buffer
  let (bytes, buffer) := bufferReadN lenght.toNat buffer
  if lenght.toNat < pamAuthUsernameMaxLenght then .ok (cString bytes, buffer)
  else .error .outOfBounds

/-! ## Listing the users -/

/-- `"+OK listing users\n"` -/
def listingMessage : List UInt8 :=
  [43, 79, 75, 32, 108, 105, 115, 116, 105, 110, 103, 32, 117, 115, 101, 114, 115, 10]

/-- The loop of `users_get_connected_users_list` over an array that ends in
front of the cell `bound`. -/
def listUsersWithin (bound : ℕ) : List User → (ℕ → UInt8) → ℕ → Option ((ℕ → UInt8) × ℕ)
  | [], buffer, copied => (storeWithin bound buffer copied [0]).map (·, copied)
  | user :: users, buffer, copied =>
    (storeWithin bound buffer copied (userLine user)).bind fun buffer =>
      listUsersWithin bound users buffer (copied + (userLine user).length)

/-- The offset `users_get_connected_users_list` returns counts the message
already, and is added to it.  On success `status` is not assigned.  The local
array and `write_body` end after 65536 cells, whatever is written to them. -/
def handleGetConnectedUsersList (s : PamSession) : Except Fault PamSession :=
  let buffer := store (fun _ => 0) 0 listingMessage
  match listUsersWithin pamBufferSize s.users.usersList.nodes buffer listingMessage.length with
  | none => .error .outOfBounds
  | some (buffer, count) =>
    let copied := listingMessage.length + count
    if copied ≤ listingMessage.length then
      .ok { s.setStatus pamServerError with conn.request.writeNbody := 0 }
    else if copied ≤ pamBufferSize then
      .ok { s with
        conn.request.writeBody := store s.conn.request.writeBody 0 (slice buffer 0 copied)
        conn.request.writeNbody := UInt16.ofNat copied }
    else
      .error .outOfBounds

/-! ## Changing the users -/

/-- The `switch` of `handle_add_user`. -/
def addUserStatus : UserStatus → UInt8
  | .ok => pamRequestSuccess
  | .alreadyExists => pamRequestUserAlreadyExists
  | .wrongPassword => pamRequestUserWrongPassword
  | .credTooLong => pamRequestUserCredtoolong
  | .badUsername => pamRequestUserBadusername

/-- `handle_add_user` behind its reads; the role is the byte received. -/
def requestAddUser (env : PamEnv) (username password : List UInt8) (role : UInt8) (s : PamSession) :
    PamSession :=
  let s := s.setStatus pamRequestSuccess
  if userIsAdmin s.users s.conn.username = false then
    s.setStatus pamRequestUnauthorized
  else
    let (users, userStatus) := userCreate s.users username password role.toUInt32 env.stack
    { s with users := users }.setStatus (addUserStatus userStatus)

def handleAddUser (env : PamEnv) (s : PamSession) (buffer : Buffer) : Except Fault PamSession := do
  let (username, buffer) ← readString buffer
  let (password, buffer) ← readString buffer
  .ok (requestAddUser env username password (bufferRead buffer).1 s)

def removeUserStatus : UserStatus → UInt8
  | .ok => pamRequestSuccess
  | .badUsername => pamRequestUserBadusername
  | _ => pamErrorStatus

/-- The end of the guard and the `switch`: an administrator may not remove
itself. -/
def removeOther (username : List UInt8) (s : PamSession) : PamSession :=
  if strcmp s.conn.username username = 0 then
    s.setStatus pamRequestUnauthorized
  else
    let (users, userStatus) := userRemove s.users username
    { s with users := users }.setStatus (removeUserStatus userStatus)

/-- `handle_remove_user` behind its reads.  The guard reads the privilege of a
user that may not exist. -/
def requestRemoveUser (username : List UInt8) (s : PamSession) : Except Fault PamSession :=
  let s := s.setStatus pamRequestSuccess
  if userIsAdmin s.users s.conn.username = false then
    .ok (s.setStatus pamRequestUnauthorized)
  else if userTotalAdmins s.users = 1 then
    match userGetIfExists s.users username with
    | none => .error .nullDereference
    | some userToRemove =>
      if userToRemove.privilegeLevel = userPrivilegeAdmin then
        .ok (s.setStatus pamRequestUnauthorized)
      else
        .ok (removeOther username s)
  else
    .ok (removeOther username s)

def handleRemoveUser (s : PamSession) (buffer : Buffer) : Except Fault PamSession := do
  let (username, _) ← readString buffer
  requestRemoveUser username s

/-- An unknown name falls through to the default. -/
def changePasswordStatus : UserStatus → UInt8
  | .ok => pamRequestSuccess
  | _ => pamErrorStatus

/-- `handle_change_password` behind its reads. -/
def requestChangePassword (username newPassword : List UInt8) (s : PamSession) : PamSession :=
  let s := s.setStatus pamRequestSuccess
  if userIsAdmin s.users s.conn.username = false then
    s.setStatus pamRequestUnauthorized
  else
    let (users, userStatus) := userChangePassword s.users username newPassword
    { s with users := users }.setStatus (changePasswordStatus userStatus)

def handleChangePassword (s : PamSession) (buffer : Buffer) : Except Fault PamSession := do
  let (username, buffer) ← readString buffer
  let (newPassword, _) ← readString buffer
  .ok (requestChangePassword username newPassword s)

def changeRoleStatus : UserStatus → UInt8
  | .ok => pamRequestSuccess
  | .badUsername => pamRequestUserAlreadyExists
  | _ => pamErrorStatus

/-- `handle_change_role` behind its reads. -/
def requestChangeRole (username : List UInt8) (newRole : UInt8) (s : PamSession) : PamSession :=
  let s := s.setStatus pamRequestSuccess
  if userIsAdmin s.users s.conn.username = false then
    s.setStatus pamRequestUnauthorized
  else
    let (users, userStatus) := userChangeRole s.users username newRole.toUInt32
    { s with users := users }.setStatus (changeRoleStatus userStatus)

def handleChangeRole (s : PamSession) (buffer : Buffer) : Except Fault PamSession := do
  let (username, buffer) ← readString buffer
  .ok (requestChangeRole username (bufferRead buffer).1 s)

/-! ## The metrics -/

/-- `"+OK Metrics snapshot\n"` -/
def metricsMessage : List UInt8 :=
  [43, 79, 75, 32, 77, 101, 116, 114, 105, 99, 115, 32, 115, 110, 97, 112, 115, 104, 111,
    116, 10]

/-- The text of `%d` for a counter: the low half of it as an `int`. -/
def formatCounter (counter : UInt64) : List UInt8 :=
  let value := counter.toUInt32.toNat
  if value < 2 ^ 31 then decimal value else 45 :: decimal (2 ^ 32 - value)

/-- The format string of `handle_get_metrics` filled in. -/
def metricsInfo (snapshot : MetricSnapshot) : List UInt8 :=
  -- "Current Connections: "
  [67, 117, 114, 114, 101, 110, 116, 32, 67, 111, 110, 110, 101, 99, 116, 105, 111, 110, 115,
    58, 32] ++ formatCounter snapshot.currentConnections ++ [10] ++
  -- "Total Connections: "
  [84, 111, 116, 97, 108, 32, 67, 111, 110, 110, 101, 99, 116, 105, 111, 110, 115, 58, 32] ++
    formatCounter snapshot.totalConnections ++ [10] ++
  -- "Total Bytes Sent: "
  [84, 111, 116, 97, 108, 32, 66, 121, 116, 101, 115, 32, 83, 101, 110, 116, 58, 32] ++
    formatCounter snapshot.totalBytesSent ++ [10] ++
  -- "Total Bytes Received: "
  [84, 111, 116, 97, 108, 32, 66, 121, 116, 101, 115, 32, 82, 101, 99, 101, 105, 118, 101,
    100, 58, 32] ++ formatCounter snapshot.totalBytesReceived ++ [10]

def handleGetMetrics (env : PamEnv) (s : PamSession) : PamSession :=
  let snapshot := s.metrics
  let s := { s with conn.request.writeBody := store s.conn.request.writeBody 0 metricsMessage }
  if env.snprintf = false then
    { s.setStatus pamServerError with conn.request.writeNbody := 0 }
  else
    let info := metricsInfo snapshot
    { s.setStatus pamRequestSuccess with
      conn.request.writeBody :=
        store s.conn.request.writeBody metricsMessage.length (info ++ [0])
      conn.request.writeNbody := UInt16.ofNat (metricsMessage.length + info.length) }

/-! ## The dispatch -/

/-- The `default` of the dispatch. -/
def handleUnknownMethod (s : PamSession) : PamSession :=
  { s.setStatus pamRequestFailure with conn.request.writeNbody := 0 }

def handlePamRequestMethod (env : PamEnv) (s : PamSession) (buffer : Buffer) :
    Except Fault PamSession :=
  let method := s.conn.request.method
  let s := s.act (.handle method buffer.content)
  if method = pamRequestMethodGetConnectedUsersList then handleGetConnectedUsersList s
  else if method = pamRequestMethodAddUser then handleAddUser env s buffer
  else if method = pamRequestMethodRemoveUser then handleRemoveUser s buffer
  else if method = pamRequestMethodChangePassword then handleChangePassword s buffer
  else if method = pamRequestMethodChangeRole then handleChangeRole s buffer
  else if method = pamRequestMethodGetMetrics then .ok (handleGetMetrics env s)
  else .ok (handleUnknownMethod s)

end Socks5Proxy

import Socks5Proxy.Library.Memory
import Mathlib.Data.List.TakeWhile

/-!
# The user store

`users.c` keeps `struct User` records in the sorted linked list of `list.c`,
ordered by `strcmp` on the name.  The two fixed arrays of a record keep every
byte they hold: `strncpy` pads with zeros and leaves the last cell as the
stack had it, and a password change copies over a prefix only.

C strings are read from an array up to the first zero byte.  A password array
without a zero byte runs on into the bytes of `privilege_level`.
-/

namespace Socks5Proxy

/-! ## C strings -/

/-- The C string at the start of some memory. -/
def cString (bytes : List UInt8) : List UInt8 := bytes.takeWhile (· != 0)

/-- `strcmp` on two C strings given without their terminators. -/
def strcmp : List UInt8 → List UInt8 → ℤ
  | [], [] => 0
  | [], y :: _ => -(y.toNat : ℤ)
  | x :: _, [] => x.toNat
  | x :: xs, y :: ys => if x = y then strcmp xs ys else (x.toNat : ℤ) - y.toNat

/-- The first `n` bytes that `strncpy` writes. -/
def strncpy (src : List UInt8) (n : ℕ) : List UInt8 :=
  src.take n ++ List.replicate (n - src.length) 0

/-! ## The sorted list -/

/-- `ListCDT`: the nodes in order and the cached size. -/
structure ListCDT (α : Type) where
  nodes : List α
  size : ℕ
  deriving DecidableEq, Inhabited, Repr

section SortedList

variable {α : Type} (cmp : α → α → ℤ)

/-- The walk of `list_add`; `none` when the element is already there. -/
def listInsert (data : α) : List α → Option (List α)
  | [] => some [data]
  | curr :: next =>
    if cmp curr data < 0 then (listInsert data next).map (curr :: ·)
    else if cmp curr data = 0 then none
    else some (data :: curr :: next)

/-- `list_add` when its allocations succeed. -/
def listAdd (list : ListCDT α) (data : α) : ListCDT α :=
  match listInsert cmp data list.nodes with
  | none => list
  | some nodes => { nodes := nodes, size := list.size + 1 }

/-- The walk of `list_remove`; `none` when no node compares equal. -/
def listErase (data : α) : List α → Option (List α)
  | [] => none
  | tmp :: next =>
    if cmp tmp data = 0 then some next else (listErase data next).map (tmp :: ·)

def listRemove (list : ListCDT α) (data : α) : ListCDT α :=
  match listErase cmp data list.nodes with
  | none => list
  | some nodes => { nodes := nodes, size := list.size - 1 }

end SortedList

/-! ## Users -/

/-- `UserPrivilegeLevel`.  Roles arrive from the network as any byte, so the
type is the enumeration's integer type. -/
abbrev UserPrivilegeLevel := UInt32

def userPrivilegeAdmin : UserPrivilegeLevel := 0
def userPrivilegeDefault : UserPrivilegeLevel := 1

def usersMaxUsernameLength : ℕ := 255
def usersMaxPasswordLength : ℕ := 255

/-- `struct User`; the arrays have 256 cells. -/
structure User where
  username : List UInt8
  password : List UInt8
  privilegeLevel : UserPrivilegeLevel
  deriving DecidableEq, Repr

inductive UserStatus
  | ok
  | alreadyExists
  | wrongPassword
  | credTooLong
  | badUsername
  deriving DecidableEq, Inhabited, Repr

/-- The bytes of `privilege_level` in memory, low byte first. -/
def User.privilegeBytes (user : User) : List UInt8 :=
  [user.privilegeLevel.toUInt8, (user.privilegeLevel >>> 8).toUInt8,
    (user.privilegeLevel >>> 16).toUInt8, (user.privilegeLevel >>> 24).toUInt8]

/-- The C string at `user->username`. -/
def User.usernameString (user : User) : List UInt8 :=
  cString (user.username ++ user.password ++ user.privilegeBytes)

/-- The C string at `user->password`. -/
def User.passwordString (user : User) : List UInt8 :=
  cString (user.password ++ user.privilegeBytes)

def userCmp (a b : User) : ℤ := strcmp a.usernameString b.usernameString

/-- The globals of `users.c`. -/
structure UserStore where
  usersList : ListCDT User
  totalAdmins : ℤ
  deriving DecidableEq, Inhabited, Repr

/-- The array initialised by the string literal `"admin"`. -/
def adminLiteral : List UInt8 := [97, 100, 109, 105, 110] ++ List.replicate 251 0

def usersInit : UserStore where
  usersList := listAdd userCmp { nodes := [], size := 0 }
    { username := adminLiteral
      password := adminLiteral
      privilegeLevel := userPrivilegeAdmin }
  totalAdmins := 1

def userMatches (username : List UInt8) (user : User) : Bool :=
  strcmp user.usernameString username == 0

def userGetIfExists (store : UserStore) (username : List UInt8) : Option User :=
  store.usersList.nodes.find? (userMatches username)

def userIsAdmin (store : UserStore) (username : List UInt8) : Bool :=
  match userGetIfExists store username with
  | some user => user.privilegeLevel == userPrivilegeAdmin
  | none => false

/-- `user_create`; `stack` is what the last cells of the two arrays of the
local record held. -/
def userCreate (store : UserStore) (username password : List UInt8)
    (pl : UserPrivilegeLevel) (stack : UInt8 × UInt8) : UserStore × UserStatus :=
  if username.length ≥ usersMaxUsernameLength then
    (store, .credTooLong)
  else if password.length ≥ usersMaxPasswordLength then
    (store, .credTooLong)
  else
    match userGetIfExists store username with
    | none =>
      let user : User :=
        { username := strncpy username (usersMaxUsernameLength - 1) ++ [0, stack.1]
          password := strncpy password (usersMaxPasswordLength - 1) ++ [0, stack.2]
          privilegeLevel := pl }
      ({ usersList := listAdd userCmp store.usersList user
         totalAdmins :=
          if pl = userPrivilegeAdmin then store.totalAdmins + 1 else store.totalAdmins },
        .ok)
    | some _ => (store, .alreadyExists)

def userRemove (store : UserStore) (username : List UInt8) : UserStore × UserStatus :=
  match userGetIfExists store username with
  | some user =>
    ({ store with usersList := listRemove userCmp store.usersList user }, .ok)
  | none => (store, .badUsername)

/-- Write through the pointer that `user_get_if_exists` returned. -/
def updateFirst {α : Type} (found : α → Bool) (write : α → α) : List α → List α
  | [] => []
  | x :: xs => if found x then write x :: xs else x :: updateFirst found write xs

def UserStore.update (store : UserStore) (username : List UInt8)
    (write : User → User) : UserStore :=
  { store with
    usersList :=
      { store.usersList with
        nodes := updateFirst (userMatches username) write store.usersList.nodes } }

/-- `memcpy(user->password, new_password, strlen(new_password))`: the cells
behind the new bytes, the terminator included, keep what they held. -/
def overwritePassword (newPassword : List UInt8) (user : User) : User :=
  { user with password := newPassword ++ user.password.drop newPassword.length }

def userChangePassword (store : UserStore) (username newPassword : List UInt8) :
    UserStore × UserStatus :=
  match userGetIfExists store username with
  | some _ => (store.update username (overwritePassword newPassword), .ok)
  | none => (store, .badUsername)

def userChangeRole (store : UserStore) (username : List UInt8)
    (newRole : UserPrivilegeLevel) : UserStore × UserStatus :=
  match userGetIfExists store username with
  | some _ =>
    (store.update username fun user => { user with privilegeLevel := newRole }, .ok)
  | none => (store, .badUsername)

def userAuthenticate (store : UserStore) (username password : List UInt8) : UserStatus :=
  match userGetIfExists store username with
  | none => .badUsername
  | some user =>
    if strcmp user.passwordString password ≠ 0 then .wrongPassword else .ok

def userTotalAdmins (store : UserStore) : ℤ := store.totalAdmins

/-- The line of one user: `@` or `#`, the name, and a line feed. -/
def userLine (user : User) : List UInt8 :=
  (if user.privilegeLevel = userPrivilegeAdmin then 64 else 35) :: user.usernameString ++ [10]

/-- `users_get_connected_users_list` from the offset `start`; the result is the
offset behind the last line, which holds the terminator. -/
def usersGetConnectedUsersList (store : UserStore) (buffer : ℕ → UInt8) (start : ℕ) :
    (ℕ → UInt8) × ℕ :=
  let lines := store.usersList.nodes.flatMap userLine
  (Library.Memory.store buffer start (lines ++ [0]), start + lines.length)

/-! ## Lookup facts -/

theorem strcmp_eq_zero_iff {xs ys : List UInt8} (hxs : 0 ∉ xs) (hys : 0 ∉ ys) :
    strcmp xs ys = 0 ↔ xs = ys := by
  induction xs generalizing ys with
  | nil =>
      cases ys with
      | nil => simp [strcmp]
      | cons y ys =>
          have hy : y ≠ 0 := fun h => hys (by simp [h])
          have hpos : y.toNat ≠ 0 := fun h => hy (UInt8.toNat_inj.mp (by simpa using h))
          simp only [strcmp, reduceCtorEq, iff_false]
          omega
  | cons x xs ih =>
      cases ys with
      | nil =>
          have hx : x ≠ 0 := fun h => hxs (by simp [h])
          have hpos : x.toNat ≠ 0 := fun h => hx (UInt8.toNat_inj.mp (by simpa using h))
          simp only [strcmp, reduceCtorEq, iff_false]
          omega
      | cons y ys =>
          have hrest : strcmp xs ys = 0 ↔ xs = ys :=
            ih (fun h => hxs (by simp [h])) (fun h => hys (by simp [h]))
          by_cases hxy : x = y
          · simp [strcmp, hxy, hrest]
          · have hne : x.toNat ≠ y.toNat := fun h => hxy (UInt8.toNat_inj.mp h)
            simp only [strcmp, hxy, if_false, List.cons.injEq, false_and, iff_false]
            omega

theorem cString_eq_self {bytes : List UInt8} (h : 0 ∉ bytes) : cString bytes = bytes := by
  rw [cString, List.takeWhile_eq_self_iff]
  intro x hx
  have hne : x ≠ 0 := fun hzero => h (hzero ▸ hx)
  simpa using hne

/-- What is behind a terminator does not matter. -/
theorem cString_terminated (bytes rest : List UInt8) :
    cString (bytes ++ 0 :: rest) = cString bytes := by
  induction bytes with
  | nil => rfl
  | cons byte bytes ih =>
      rw [cString] at ih ⊢
      by_cases hbyte : byte = 0
      · simp [cString, hbyte]
      · simp only [List.cons_append, List.takeWhile_cons, bne_iff_ne, ne_eq, hbyte,
          not_false_eq_true, if_true, ih, cString]

/-- A terminated string in an array that has room for it. -/
theorem cString_slice_store (array : ℕ → UInt8) (start : ℕ) {bytes : List UInt8} {n : ℕ}
    (hlen : bytes.length < n) :
    cString (Library.Memory.slice (Library.Memory.store array start (bytes ++ [0])) start n) =
      cString bytes := by
  obtain ⟨k, rfl⟩ := Nat.exists_eq_add_of_lt hlen
  have hwhole := Library.Memory.slice_store_same array start (bytes ++ [0])
  rw [List.length_append, List.length_singleton] at hwhole
  rw [show bytes.length + k + 1 = (bytes.length + 1) + k by omega, Library.Memory.slice_add,
    hwhole, List.append_assoc, List.singleton_append, cString_terminated]

theorem zero_notMem_cString (bytes : List UInt8) : 0 ∉ cString bytes := by
  intro h
  have hne := List.mem_takeWhile_imp h
  simp at hne

/-- The statuses `user_authenticate` can return. -/
theorem userAuthenticate_cases (store : UserStore) (username password : List UInt8) :
    userAuthenticate store username password = .ok ∨
      userAuthenticate store username password = .badUsername ∨
      userAuthenticate store username password = .wrongPassword := by
  unfold userAuthenticate
  split
  · simp
  · split <;> simp

end Socks5Proxy

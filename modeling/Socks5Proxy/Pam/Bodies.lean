import Socks5Proxy.Pam.Administrators
import Socks5Proxy.Library.Framing

/-!
# The bodies of management requests

The formats of the four bodies that change the users, as the protocol gives
them, and what the handlers make of a body in that format.
-/

namespace Socks5Proxy

open Library

/-- A request that changes the users, by the bytes of its fields. -/
inductive UserRequest
  | addUser (username password : List UInt8) (role : UInt8)
  | removeUser (username : List UInt8)
  | changePassword (username newPassword : List UInt8)
  | changeRole (username : List UInt8) (newRole : UInt8)
  deriving DecidableEq

namespace UserRequest

def method : UserRequest → UInt16
  | addUser .. => pamRequestMethodAddUser
  | removeUser .. => pamRequestMethodRemoveUser
  | changePassword .. => pamRequestMethodChangePassword
  | changeRole .. => pamRequestMethodChangeRole

def body : UserRequest → List UInt8
  | addUser username password role => encodeField username ++ (encodeField password ++ [role])
  | removeUser username => encodeField username
  | changePassword username newPassword => encodeField username ++ encodeField newPassword
  | changeRole username newRole => encodeField username ++ [newRole]

/-- Every field fits behind a length byte. -/
def Encodable : UserRequest → Prop
  | addUser username password _ => username.length < 256 ∧ password.length < 256
  | removeUser username => username.length < 256
  | changePassword username newPassword => username.length < 256 ∧ newPassword.length < 256
  | changeRole username _ => username.length < 256

end UserRequest

/-- The request a body announces, unless the body is shorter than that. -/
def parseBody (method : UInt16) (body : List UInt8) : Option UserRequest :=
  if method = pamRequestMethodAddUser then
    match takeField body with
    | none => none
    | some (username, rest) =>
      match takeField rest with
      | none => none
      | some (password, rest) => rest.head?.map (.addUser username password)
  else if method = pamRequestMethodRemoveUser then
    (takeField body).map fun field => .removeUser field.1
  else if method = pamRequestMethodChangePassword then
    match takeField body with
    | none => none
    | some (username, rest) => (takeField rest).map fun field => .changePassword username field.1
  else if method = pamRequestMethodChangeRole then
    match takeField body with
    | none => none
    | some (username, rest) => rest.head?.map (.changeRole username)
  else
    none

/-- The C string at the start of a field. -/
def textOf (bytes : List UInt8) : CString := ⟨cString bytes, zero_notMem_cString bytes⟩

section Formats

/-- A handler reads a field that is all there as its C string. -/
theorem stringAt_of_takeField {buffer : Buffer} {bytes rest : List UInt8}
    (h : takeField buffer.content = some (bytes, rest)) :
    stringAt buffer = textOf bytes ∧ (fieldText buffer).2.content = rest := by
  rcases hcontent : buffer.content with _ | ⟨n, tail⟩
  · rw [hcontent] at h
    cases h
  · rw [hcontent, takeField] at h
    split_ifs at h with hle
    cases h
    have hfirst := bufferRead_fst hcontent
    have htail : (bufferRead buffer).2.content = tail := by simp [hcontent]
    have hread := bufferReadN_fst_of_le (b := (bufferRead buffer).2) (n := n.toNat)
      (by rwa [htail])
    constructor
    · rw [CString.ext_iff]
      change cString (bufferReadN (bufferRead buffer).1.toNat (bufferRead buffer).2).1 = _
      rw [hfirst, hread, htail]
      rfl
    · change (bufferReadN (bufferRead buffer).1.toNat (bufferRead buffer).2).2.content = _
      rw [hfirst, bufferReadN_snd_content, htail]

/-- The call a request stands for. -/
def UserRequest.op (stack : UInt8 × UInt8) : (r : UserRequest) → r.Encodable → UserOp
  | .addUser username password role, _ =>
    .create (textOf username) (textOf password) role.toUInt32 stack
  | .removeUser username, _ => .remove (textOf username)
  | .changePassword username newPassword, h =>
    .changePassword (textOf username) (textOf newPassword)
      ((length_cString_le newPassword).trans (Nat.le_of_lt_succ h.2))
  | .changeRole username newRole, _ => .changeRole (textOf username) newRole.toUInt32

/-- The handlers make of a complete body the call it stands for. -/
theorem requestOp_of_parseBody (env : PamEnv) {method : UInt16} {buffer : Buffer}
    {r : UserRequest} (h : parseBody method buffer.content = some r) :
    r.method = method ∧ ∃ hr : r.Encodable,
      requestOp env method buffer = some (r.op env.stack hr) := by
  unfold parseBody at h
  unfold requestOp
  split_ifs at h with hadd hremove hpassword hrole
  · rcases hfirst : takeField buffer.content with _ | ⟨username, rest⟩
    · rw [hfirst] at h
      cases h
    · obtain ⟨hname, hrest⟩ := stringAt_of_takeField hfirst
      rw [hfirst] at h
      dsimp only at h
      rw [← hrest] at h
      rcases hsecond : takeField (fieldText buffer).2.content with _ | ⟨password, rest'⟩
      · rw [hsecond] at h
        cases h
      · obtain ⟨hpass, hrest'⟩ := stringAt_of_takeField hsecond
        rw [hsecond] at h
        dsimp only at h
        rcases rest' with _ | ⟨role, rest'⟩
        · cases h
        · cases h
          refine ⟨hadd.symm, ⟨(takeField_eq_some_iff.mp hfirst).1,
            (takeField_eq_some_iff.mp hsecond).1⟩, ?_⟩
          rw [if_pos hadd, hname, hpass, bufferRead_fst hrest']
          rfl
  · rcases hfirst : takeField buffer.content with _ | ⟨username, rest⟩
    · rw [hfirst] at h
      cases h
    · obtain ⟨hname, -⟩ := stringAt_of_takeField hfirst
      rw [hfirst] at h
      cases h
      refine ⟨hremove.symm, (takeField_eq_some_iff.mp hfirst).1, ?_⟩
      rw [if_neg hadd, if_pos hremove, hname]
      rfl
  · rcases hfirst : takeField buffer.content with _ | ⟨username, rest⟩
    · rw [hfirst] at h
      cases h
    · obtain ⟨hname, hrest⟩ := stringAt_of_takeField hfirst
      rw [hfirst] at h
      dsimp only at h
      rw [← hrest] at h
      rcases hsecond : takeField (fieldText buffer).2.content with _ | ⟨newPassword, rest'⟩
      · rw [hsecond] at h
        cases h
      · obtain ⟨hpass, -⟩ := stringAt_of_takeField hsecond
        rw [hsecond] at h
        cases h
        refine ⟨hpassword.symm, ⟨(takeField_eq_some_iff.mp hfirst).1,
          (takeField_eq_some_iff.mp hsecond).1⟩, ?_⟩
        rw [if_neg hadd, if_neg hremove, if_pos hpassword]
        simp only [hname, hpass]
        rfl
  · rcases hfirst : takeField buffer.content with _ | ⟨username, rest⟩
    · rw [hfirst] at h
      cases h
    · obtain ⟨hname, hrest⟩ := stringAt_of_takeField hfirst
      rw [hfirst] at h
      rcases rest with _ | ⟨newRole, rest⟩
      · cases h
      · cases h
        refine ⟨hrole.symm, (takeField_eq_some_iff.mp hfirst).1, ?_⟩
        rw [if_neg hadd, if_neg hremove, if_neg hpassword, if_pos hrole, hname,
          bufferRead_fst hrest]
        rfl

end Formats

end Socks5Proxy

import Socks5Proxy.Pam.Methods
import Socks5Proxy.Server.UserMap

/-!
# The strings of a body

The handlers of the user methods first copy the strings of the body into local
arrays of 255 cells.  A length byte of 255 leaves no cell for the terminator;
behind strings that fit a handler does what the request asks for.
-/

namespace Socks5Proxy

open Library

/-! ## The bytes received -/

/-- The bytes a length byte announces, as far as they are there, and those
behind them. -/
def receivedField : List UInt8 → List UInt8 × List UInt8
  | [] => ([], [])
  | lenght :: rest => (rest.take lenght.toNat, rest.drop lenght.toNat)

/-- The first `n` length bytes; one that is missing reads as zero. -/
def lengthBytes : ℕ → List UInt8 → List UInt8
  | 0, _ => []
  | n + 1, body => body.getD 0 0 :: lengthBytes n (receivedField body).2

/-- How many strings the body of a method starts with. -/
def methodStrings (method : UInt16) : ℕ :=
  if method = pamRequestMethodAddUser ∨ method = pamRequestMethodChangePassword then 2
  else if method = pamRequestMethodRemoveUser ∨ method = pamRequestMethodChangeRole then 1
  else 0

/-- The terminator of one of the strings falls behind its array. -/
def Overruns (method : UInt16) (body : List UInt8) : Prop :=
  255 ∈ lengthBytes (methodStrings method) body

instance (method : UInt16) (body : List UInt8) : Decidable (Overruns method body) :=
  inferInstanceAs (Decidable (255 ∈ lengthBytes (methodStrings method) body))

theorem overruns_addUser {body : List UInt8} :
    Overruns pamRequestMethodAddUser body ↔ 255 ∈ lengthBytes 2 body := Iff.rfl

theorem overruns_removeUser {body : List UInt8} :
    Overruns pamRequestMethodRemoveUser body ↔ 255 ∈ lengthBytes 1 body := Iff.rfl

theorem overruns_changePassword {body : List UInt8} :
    Overruns pamRequestMethodChangePassword body ↔ 255 ∈ lengthBytes 2 body := Iff.rfl

theorem overruns_changeRole {body : List UInt8} :
    Overruns pamRequestMethodChangeRole body ↔ 255 ∈ lengthBytes 1 body := Iff.rfl

/-! ## One string -/

/-- The string `readString` returns when it fits its array, and the buffer it
leaves. -/
def fieldText (buffer : Buffer) : List UInt8 × Buffer :=
  let (lenght, buffer) := bufferRead buffer
  let (bytes, buffer) := bufferReadN lenght.toNat buffer
  (cString bytes, buffer)

section Strings

variable {buffer : Buffer}

theorem length_cString_le (bytes : List UInt8) : (cString bytes).length ≤ bytes.length :=
  (List.takeWhile_prefix _).length_le

/-- The length byte bounds a string. -/
theorem length_fieldText_le (buffer : Buffer) : (fieldText buffer).1.length ≤ 255 := by
  have hlen := (bufferRead buffer).1.toNat_lt
  have hbytes : (bufferReadN (bufferRead buffer).1.toNat (bufferRead buffer).2).1.length =
      (bufferRead buffer).1.toNat := by
    rw [bufferReadN_fst, List.length_append, List.length_take, List.length_replicate]
    omega
  have hstring := length_cString_le
    (bufferReadN (bufferRead buffer).1.toNat (bufferRead buffer).2).1
  rw [hbytes] at hstring
  exact hstring.trans (Nat.le_of_lt_succ hlen)

/-- `fieldText` as an argument of `users.c`. -/
def stringAt (buffer : Buffer) : CString := ⟨(fieldText buffer).1, zero_notMem_cString _⟩

theorem cString_append_replicate (bytes : List UInt8) (k : ℕ) :
    cString (bytes ++ List.replicate k 0) = cString bytes := by
  rcases k with _ | k
  · rw [List.replicate_zero, List.append_nil]
  · rw [List.replicate_succ, cString_terminated]

theorem fieldText_receivedField (buffer : Buffer) :
    (fieldText buffer).1 = cString (receivedField buffer.content).1 ∧
      (fieldText buffer).2.content = (receivedField buffer.content).2 := by
  unfold fieldText
  dsimp only
  rw [bufferReadN_fst, bufferReadN_snd_content, bufferRead_content, bufferRead_getD,
    cString_append_replicate]
  rcases buffer.content with _ | ⟨lenght, rest⟩
  · exact ⟨rfl, rfl⟩
  · exact ⟨rfl, rfl⟩

/-- Only a string of 255 bytes leaves no cell for its terminator. -/
theorem readString_eq (buffer : Buffer) :
    readString buffer =
      if buffer.content.getD 0 0 = 255 then .error .outOfBounds else .ok (fieldText buffer) := by
  have hbyte := (bufferRead buffer).1.toNat_lt
  have hfull : (bufferRead buffer).1 = 255 ↔ (bufferRead buffer).1.toNat = 255 := by
    rw [← UInt8.toNat_inj]
    rfl
  unfold readString fieldText
  dsimp only
  rw [← bufferRead_getD, pamAuthUsernameMaxLenght]
  by_cases hlong : (bufferRead buffer).1 = 255
  · have hcount := hfull.mp hlong
    rw [if_pos hlong, if_neg (by omega)]
  · have hcount := mt hfull.mpr hlong
    rw [if_neg hlong, if_pos (by omega)]

theorem readString_eq_ok {read : List UInt8 × Buffer} (h : readString buffer = .ok read) :
    read = fieldText buffer := by
  rw [readString_eq] at h
  split_ifs at h
  exact (Except.ok.inj h).symm

end Strings

/-! ## The handlers -/

section Handlers

variable {σ : Type} {env : PamEnv} {s : PamSession}

theorem readString_one (f : List UInt8 × Buffer → Except Fault σ) (buffer : Buffer) :
    (readString buffer >>= f) =
      if 255 ∈ lengthBytes 1 buffer.content then .error .outOfBounds
      else f (fieldText buffer) := by
  have hmem : 255 ∈ lengthBytes 1 buffer.content ↔ buffer.content.getD 0 0 = 255 := by
    simp [lengthBytes, eq_comm]
  rw [readString_eq]
  by_cases hlong : buffer.content.getD 0 0 = 255
  · rw [if_pos hlong, if_pos (hmem.mpr hlong)]
    rfl
  · rw [if_neg hlong, if_neg (mt hmem.mp hlong)]
    rfl

theorem readString_two (f : List UInt8 × Buffer → List UInt8 × Buffer → Except Fault σ)
    (buffer : Buffer) :
    (readString buffer >>= fun first => readString first.2 >>= f first) =
      if 255 ∈ lengthBytes 2 buffer.content then .error .outOfBounds
      else f (fieldText buffer) (fieldText (fieldText buffer).2) := by
  have hmem : 255 ∈ lengthBytes 2 buffer.content ↔
      255 ∈ lengthBytes 1 buffer.content ∨ 255 ∈ lengthBytes 1 (fieldText buffer).2.content := by
    rw [(fieldText_receivedField buffer).2]
    simp [lengthBytes]
  rw [readString_one, readString_one]
  by_cases hfirst : 255 ∈ lengthBytes 1 buffer.content
  · rw [if_pos hfirst, if_pos (hmem.mpr (.inl hfirst))]
  · rw [if_neg hfirst]
    simp only [hmem, hfirst, false_or]

theorem handleAddUser_eq (env : PamEnv) (s : PamSession) (buffer : Buffer) :
    handleAddUser env s buffer =
      if 255 ∈ lengthBytes 2 buffer.content then .error .outOfBounds
      else .ok (requestAddUser env (stringAt buffer).bytes (stringAt (fieldText buffer).2).bytes
        (bufferRead (fieldText (fieldText buffer).2).2).1 s) :=
  readString_two (fun username password =>
    .ok (requestAddUser env username.1 password.1 (bufferRead password.2).1 s)) buffer

theorem handleRemoveUser_eq (s : PamSession) (buffer : Buffer) :
    handleRemoveUser s buffer =
      if 255 ∈ lengthBytes 1 buffer.content then .error .outOfBounds
      else requestRemoveUser (stringAt buffer).bytes s :=
  readString_one (fun username => requestRemoveUser username.1 s) buffer

theorem handleChangePassword_eq (s : PamSession) (buffer : Buffer) :
    handleChangePassword s buffer =
      if 255 ∈ lengthBytes 2 buffer.content then .error .outOfBounds
      else .ok (requestChangePassword (stringAt buffer).bytes
        (stringAt (fieldText buffer).2).bytes s) :=
  readString_two (fun username newPassword =>
    .ok (requestChangePassword username.1 newPassword.1 s)) buffer

theorem handleChangeRole_eq (s : PamSession) (buffer : Buffer) :
    handleChangeRole s buffer =
      if 255 ∈ lengthBytes 1 buffer.content then .error .outOfBounds
      else .ok (requestChangeRole (stringAt buffer).bytes
        (bufferRead (fieldText buffer).2).1 s) :=
  readString_one (fun username =>
    .ok (requestChangeRole username.1 (bufferRead username.2).1 s)) buffer

end Handlers

/-! ## The dispatch -/

/-- The session the handlers run in. -/
def PamSession.handling (s : PamSession) (buffer : Buffer) : PamSession :=
  s.act (.handle s.conn.request.method buffer.content)

section Dispatch

variable {env : PamEnv} {s t : PamSession} {buffer : Buffer}

theorem dispatch_addUser (h : s.conn.request.method = pamRequestMethodAddUser) :
    handlePamRequestMethod env s buffer = handleAddUser env (s.handling buffer) buffer := by
  rw [handlePamRequestMethod, h, PamSession.handling, h]
  rfl

theorem dispatch_removeUser (h : s.conn.request.method = pamRequestMethodRemoveUser) :
    handlePamRequestMethod env s buffer = handleRemoveUser (s.handling buffer) buffer := by
  rw [handlePamRequestMethod, h, PamSession.handling, h]
  rfl

theorem dispatch_changePassword (h : s.conn.request.method = pamRequestMethodChangePassword) :
    handlePamRequestMethod env s buffer = handleChangePassword (s.handling buffer) buffer := by
  rw [handlePamRequestMethod, h, PamSession.handling, h]
  rfl

theorem dispatch_changeRole (h : s.conn.request.method = pamRequestMethodChangeRole) :
    handlePamRequestMethod env s buffer = handleChangeRole (s.handling buffer) buffer := by
  rw [handlePamRequestMethod, h, PamSession.handling, h]
  rfl

/-- A string that does not fit ends the process, whatever else is asked. -/
theorem handlePamRequestMethod_of_overruns
    (h : Overruns s.conn.request.method buffer.content) :
    handlePamRequestMethod env s buffer = .error .outOfBounds := by
  by_cases hadd : s.conn.request.method = pamRequestMethodAddUser
  · rw [hadd, overruns_addUser] at h
    rw [dispatch_addUser hadd, handleAddUser_eq, if_pos h]
  · by_cases hremove : s.conn.request.method = pamRequestMethodRemoveUser
    · rw [hremove, overruns_removeUser] at h
      rw [dispatch_removeUser hremove, handleRemoveUser_eq, if_pos h]
    · by_cases hpassword : s.conn.request.method = pamRequestMethodChangePassword
      · rw [hpassword, overruns_changePassword] at h
        rw [dispatch_changePassword hpassword, handleChangePassword_eq, if_pos h]
      · by_cases hrole : s.conn.request.method = pamRequestMethodChangeRole
        · rw [hrole, overruns_changeRole] at h
          rw [dispatch_changeRole hrole, handleChangeRole_eq, if_pos h]
        · rw [Overruns, methodStrings, if_neg (not_or.mpr ⟨hadd, hpassword⟩),
            if_neg (not_or.mpr ⟨hremove, hrole⟩)] at h
          cases h

theorem fits_of_handled (h : handlePamRequestMethod env s buffer = .ok t) :
    ¬ Overruns s.conn.request.method buffer.content := by
  intro hoverruns
  rw [handlePamRequestMethod_of_overruns hoverruns] at h
  cases h

variable (hfits : ¬ Overruns s.conn.request.method buffer.content)

include hfits

theorem dispatch_addUser_fits (h : s.conn.request.method = pamRequestMethodAddUser) :
    handlePamRequestMethod env s buffer =
      .ok (requestAddUser env (stringAt buffer).bytes (stringAt (fieldText buffer).2).bytes
        (bufferRead (fieldText (fieldText buffer).2).2).1 (s.handling buffer)) := by
  rw [h, overruns_addUser] at hfits
  rw [dispatch_addUser h, handleAddUser_eq, if_neg hfits]

theorem dispatch_removeUser_fits (h : s.conn.request.method = pamRequestMethodRemoveUser) :
    handlePamRequestMethod env s buffer =
      requestRemoveUser (stringAt buffer).bytes (s.handling buffer) := by
  rw [h, overruns_removeUser] at hfits
  rw [dispatch_removeUser h, handleRemoveUser_eq, if_neg hfits]

theorem dispatch_changePassword_fits
    (h : s.conn.request.method = pamRequestMethodChangePassword) :
    handlePamRequestMethod env s buffer =
      .ok (requestChangePassword (stringAt buffer).bytes (stringAt (fieldText buffer).2).bytes
        (s.handling buffer)) := by
  rw [h, overruns_changePassword] at hfits
  rw [dispatch_changePassword h, handleChangePassword_eq, if_neg hfits]

theorem dispatch_changeRole_fits (h : s.conn.request.method = pamRequestMethodChangeRole) :
    handlePamRequestMethod env s buffer =
      .ok (requestChangeRole (stringAt buffer).bytes (bufferRead (fieldText buffer).2).1
        (s.handling buffer)) := by
  rw [h, overruns_changeRole] at hfits
  rw [dispatch_changeRole h, handleChangeRole_eq, if_neg hfits]

end Dispatch

end Socks5Proxy

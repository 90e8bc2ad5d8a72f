import Socks5Proxy.Pam.Administrators

/-!
# The strings of a body in their arrays

The handlers of the user methods copy each string of the body into a local
array of 255 cells and put the terminator behind it.
-/

namespace Socks5Proxy

open Library Library.Memory

/-! ## The arrays -/

/-- A length byte and that many bytes, kept in a local array that held `raw`;
`none` when the terminator falls behind the array. -/
def localString (raw : ℕ → UInt8) (buffer : Buffer) : Option (List UInt8 × Buffer) :=
  let (lenght, buffer) := bufferRead buffer
  let (bytes, buffer) := bufferReadN lenght.toNat buffer
  (storeWithin pamAuthUsernameMaxLenght raw 0 (bytes ++ [0])).map fun array =>
    (cString (slice array 0 pamAuthUsernameMaxLenght), buffer)

/-- The first `n` strings of a body, each in an array of its own. -/
def localStrings (raw : ℕ → ℕ → UInt8) : ℕ → Buffer → Option (List (List UInt8))
  | 0, _ => some []
  | n + 1, buffer =>
    (localString (raw n) buffer).bind fun (string, buffer) =>
      (localStrings raw n buffer).map (string :: ·)

/-! ## The bytes received -/

/-- The first `n` strings as they were sent. -/
def receivedFields : ℕ → List UInt8 → List (List UInt8)
  | 0, _ => []
  | n + 1, body => (receivedField body).1 :: receivedFields n (receivedField body).2

/-- The strings a call of `users.c` is made with. -/
def UserOp.strings : UserOp → List (List UInt8)
  | .create username password _ _ => [username.bytes, password.bytes]
  | .remove username => [username.bytes]
  | .changePassword username newPassword _ => [username.bytes, newPassword.bytes]
  | .changeRole username _ => [username.bytes]

/-- Whatever the arrays held before, every store of the handler is in bounds
and the strings are those received; the user store is changed, if at all, by
a call with these strings. -/
structure BodyStringsStored (env : PamEnv) (s : PamSession) (buffer : Buffer) : Prop where
  inBounds : ∀ raw, localStrings raw (methodStrings s.conn.request.method) buffer =
    some ((receivedFields (methodStrings s.conn.request.method) buffer.content).map cString)
  passed : ∀ t, handlePamRequestMethod env s buffer = .ok t → t.users = s.users ∨
    ∃ op, requestOp env s.conn.request.method buffer = some op ∧
      op.strings =
        (receivedFields (methodStrings s.conn.request.method) buffer.content).map cString ∧
      t.users = (op.apply s.users).1

section Strings

variable {env : PamEnv} {s : PamSession} {buffer : Buffer}

/-- The handlers stop where their local arrays end. -/
theorem localString_eq (raw : ℕ → UInt8) (buffer : Buffer) :
    localString raw buffer = (readString buffer).toOption := by
  unfold localString readString
  dsimp only
  split_ifs with hfits
  · rw [storeWithin_of_le, Option.map_some, cString_slice_store raw 0]
    · rfl
    · rw [length_bufferReadN_fst]
      exact hfits
    · rw [List.length_append, length_bufferReadN_fst, List.length_singleton]
      omega
  · rw [storeWithin_of_lt]
    · rfl
    · rw [List.length_append, length_bufferReadN_fst, List.length_singleton]
      omega

theorem localStrings_iff (raw : ℕ → ℕ → UInt8) (n : ℕ) (buffer : Buffer) :
    localStrings raw n buffer = some ((receivedFields n buffer.content).map cString) ↔
      ∀ lenght ∈ lengthBytes n buffer.content, lenght ≠ 255 := by
  induction n generalizing buffer with
  | zero => exact iff_of_true rfl (List.forall_mem_nil _)
  | succ n ih =>
      have hfield := fieldText_receivedField buffer
      rw [localStrings, localString_eq, readString_eq, lengthBytes, List.forall_mem_cons,
        receivedFields, List.map_cons]
      generalize fieldText buffer = read at hfield ⊢
      obtain ⟨string, rest⟩ := read
      obtain ⟨hstring, hrest⟩ := hfield
      dsimp only at hstring hrest
      split_ifs with hlong
      · exact iff_of_false (by simp [Except.toOption]) fun h => h.1 hlong
      · rw [and_iff_right hlong, ← hrest, ← ih, Except.toOption, Option.bind_some, ← hstring]
        dsimp only
        rcases localStrings raw n rest with _ | strings
        · exact iff_of_false (by simp) (by simp)
        · rw [Option.map_some, Option.some.injEq, Option.some.injEq, List.cons.injEq,
            and_iff_right rfl]

theorem strings_requestOp {op : UserOp} {method : UInt16}
    (h : requestOp env method buffer = some op) :
    op.strings = (receivedFields (methodStrings method) buffer.content).map cString := by
  obtain ⟨hfirst, hrest⟩ := fieldText_receivedField buffer
  obtain ⟨hsecond, -⟩ := fieldText_receivedField (fieldText buffer).2
  rw [hrest] at hsecond
  unfold requestOp at h
  dsimp only at h
  split_ifs at h with hadd hremove hpassword hrole
  · obtain rfl := Option.some.inj h
    rw [methodStrings, if_pos (.inl hadd)]
    simp only [UserOp.strings, stringAt, hfirst, hsecond, receivedFields, List.map_cons,
      List.map_nil]
  · obtain rfl := Option.some.inj h
    subst hremove
    simp only [UserOp.strings, stringAt, hfirst]
    rfl
  · obtain rfl := Option.some.inj h
    rw [methodStrings, if_pos (.inr hpassword)]
    simp only [UserOp.strings, stringAt, hfirst, hsecond, receivedFields, List.map_cons,
      List.map_nil]
  · obtain rfl := Option.some.inj h
    subst hrole
    simp only [UserOp.strings, stringAt, hfirst]
    rfl

theorem bodyStringsStored_iff (env : PamEnv) (s : PamSession) (buffer : Buffer) :
    BodyStringsStored env s buffer ↔
      ∀ lenght ∈ lengthBytes (methodStrings s.conn.request.method) buffer.content,
        lenght ≠ 255 := by
  constructor
  · intro h
    exact (localStrings_iff (fun _ _ => 0) _ _).mp (h.inBounds _)
  · intro h
    refine ⟨fun raw => (localStrings_iff raw _ _).mpr h, fun t ht => ?_⟩
    rcases storeEffect ht with husers | ⟨op, hop, -, -, husers⟩
    · exact .inl husers
    · exact .inr ⟨op, hop, strings_requestOp hop, husers⟩

end Strings

end Socks5Proxy

import Mathlib.Data.List.Basic
import Mathlib.Tactic.Common

/-!
# Fields of a message

Numbers in network order and length-prefixed fields.  A field is a length byte
and that many bytes.  Decoding is strict: a field whose bytes are not all there
is not decoded.
-/

namespace Library

/-- The two bytes of a number in network order. -/
def networkOrder (n : UInt16) : List UInt8 :=
  [UInt8.ofNat (n.toNat / 256), UInt8.ofNat (n.toNat % 256)]

theorem ofNat_networkOrder (n : UInt16) :
    UInt16.ofNat ((UInt8.ofNat (n.toNat / 256)).toNat * 256 +
      (UInt8.ofNat (n.toNat % 256)).toNat) = n := by
  have hn := n.toNat_lt
  rw [UInt8.toNat_ofNat', UInt8.toNat_ofNat', ← UInt16.toNat_inj, UInt16.toNat_ofNat']
  omega

/-- Any two bytes are a number in network order. -/
theorem networkOrder_ofNat (a b : UInt8) :
    networkOrder (UInt16.ofNat (a.toNat * 256 + b.toNat)) = [a, b] := by
  have ha := a.toNat_lt
  have hb := b.toNat_lt
  have hword : (UInt16.ofNat (a.toNat * 256 + b.toNat)).toNat = a.toNat * 256 + b.toNat :=
    UInt16.toNat_ofNat_of_lt' (by rw [UInt16.size]; omega)
  have hhigh : (a.toNat * 256 + b.toNat) / 256 = a.toNat := by omega
  have hlow : (a.toNat * 256 + b.toNat) % 256 = b.toNat := by omega
  rw [networkOrder, hword, hhigh, hlow, UInt8.ofNat_toNat, UInt8.ofNat_toNat]

/-- The length byte is the length modulo 256. -/
def encodeField (bytes : List UInt8) : List UInt8 := UInt8.ofNat bytes.length :: bytes

/-- The first field and what follows it. -/
def takeField : List UInt8 → Option (List UInt8 × List UInt8)
  | [] => none
  | n :: rest =>
    if n.toNat ≤ rest.length then some (rest.take n.toNat, rest.drop n.toNat) else none

section Fields

variable {bytes rest l : List UInt8}

theorem toNat_lengthByte (hlen : bytes.length < 256) :
    (UInt8.ofNat bytes.length).toNat = bytes.length := UInt8.toNat_ofNat_of_lt' hlen

theorem lengthByte_ne_zero (hlen : 0 < bytes.length ∧ bytes.length < 256) :
    UInt8.ofNat bytes.length ≠ 0 := by
  intro hzero
  have hbyte := toNat_lengthByte hlen.2
  rw [hzero] at hbyte
  exact absurd hbyte.symm (Nat.ne_of_gt hlen.1)

theorem takeField_encodeField (hlen : bytes.length < 256) (rest : List UInt8) :
    takeField (encodeField bytes ++ rest) = some (bytes, rest) := by
  rw [encodeField, List.cons_append, takeField, toNat_lengthByte hlen, if_pos (by simp),
    List.take_left, List.drop_left]

/-- What is decoded is what was encoded. -/
theorem takeField_eq_some_iff :
    takeField l = some (bytes, rest) ↔ bytes.length < 256 ∧ l = encodeField bytes ++ rest := by
  constructor
  · intro h
    rcases l with _ | ⟨n, tail⟩
    · cases h
    · rw [takeField] at h
      split_ifs at h with hle
      cases h
      have hlen : (tail.take n.toNat).length = n.toNat := List.length_take_of_le hle
      have hbyte := n.toNat_lt
      refine ⟨by omega, ?_⟩
      rw [encodeField, hlen, UInt8.ofNat_toNat, List.cons_append, List.take_append_drop]
  · rintro ⟨hlen, rfl⟩
    exact takeField_encodeField hlen rest

end Fields

end Library

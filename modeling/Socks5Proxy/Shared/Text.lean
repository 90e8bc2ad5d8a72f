import Mathlib.Data.Int.Notation
import Mathlib.Data.List.TakeWhile
import Mathlib.Data.Nat.Notation
import Mathlib.Tactic.Common

/-!
# Decimal text

The conversions of the C library between a number and its decimal text.
-/

namespace Socks5Proxy

/-- The digits of `n`, last digit first. -/
def decimalDigits (fuel n : ℕ) : List UInt8 :=
  match fuel with
  | 0 => []
  | fuel + 1 =>
    if n < 10 then [UInt8.ofNat (48 + n)]
    else UInt8.ofNat (48 + n % 10) :: decimalDigits fuel (n / 10)

/-- The text of `snprintf("%u")`. -/
def decimal (n : ℕ) : List UInt8 := (decimalDigits (n + 1) n).reverse

def atoi (text : List UInt8) : ℕ :=
  text.foldl (fun value digit => value * 10 + (digit.toNat - 48)) 0

theorem foldr_decimalDigits {fuel n : ℕ} (h : n < fuel) :
    (decimalDigits fuel n).foldr
      (fun digit value => value * 10 + (digit.toNat - 48)) 0 = n := by
  induction fuel generalizing n with
  | zero => omega
  | succ fuel ih =>
      have hdigit : ∀ d < 10, (UInt8.ofNat (48 + d)).toNat - 48 = d := by
        intro d hd
        rw [UInt8.toNat_ofNat']
        omega
      unfold decimalDigits
      by_cases hn : n < 10
      · simp only [hn, if_true, List.foldr_cons, List.foldr_nil, hdigit n hn]
        omega
      · have hrest := ih (n := n / 10) (by omega)
        simp only [hn, if_false, List.foldr_cons, hrest, hdigit (n % 10) (by omega)]
        omega

/-- `atoi` reads back the text of `snprintf("%u")`. -/
theorem atoi_decimal (n : ℕ) : atoi (decimal n) = n := by
  rw [atoi, decimal, List.foldl_reverse]
  exact foldr_decimalDigits (Nat.lt_succ_self n)

/-! ## Numbers on a command line -/

/-- `isspace` in the C locale. -/
def isSpace (c : UInt8) : Bool := decide (c = 32 ∨ 9 ≤ c ∧ c ≤ 13)

def isDigit (c : UInt8) : Bool := decide (48 ≤ c ∧ c ≤ 57)

/-- The sign, negative or not, and what follows it. -/
def splitSign (text : List UInt8) : Bool × List UInt8 :=
  match text with
  | [] => (false, [])
  | c :: rest =>
    if c = 45 then (true, rest) else if c = 43 then (false, rest) else (false, c :: rest)

/-- `strtol(text, NULL, 10)`: the digits behind blanks and a sign, as far as
they go, and kept inside a `long`. -/
def strtol (text : List UInt8) : ℤ :=
  let (negative, rest) := splitSign (text.dropWhile isSpace)
  let value : ℤ := atoi (rest.takeWhile isDigit)
  if negative then max (-value) (-9223372036854775808) else min value 9223372036854775807

/-- What `atoi` of the C library makes of any text: the `long` cut to an
`int`. -/
def atoiInt (text : List UInt8) : Int32 := Int32.ofInt (strtol text)

/-- The whole text is a decimal numeral for a number: blanks, at most one sign,
and digits to the end. -/
inductive Numeral : List UInt8 → ℤ → Prop
  | unsigned {digits : List UInt8} (hne : digits ≠ []) (hdigits : ∀ d ∈ digits, isDigit d) :
    Numeral digits (atoi digits)
  | plus {digits : List UInt8} (hne : digits ≠ []) (hdigits : ∀ d ∈ digits, isDigit d) :
    Numeral (43 :: digits) (atoi digits)
  | minus {digits : List UInt8} (hne : digits ≠ []) (hdigits : ∀ d ∈ digits, isDigit d) :
    Numeral (45 :: digits) (-atoi digits)
  | blank {c : UInt8} {text : List UInt8} {z : ℤ} (hc : isSpace c) (h : Numeral text z) :
    Numeral (c :: text) z

theorem not_isSpace_of_isDigit {c : UInt8} (h : isDigit c) : isSpace c = false := by
  rw [isDigit, decide_eq_true_eq, UInt8.le_iff_toNat_le, UInt8.le_iff_toNat_le] at h
  rw [isSpace, decide_eq_false_iff_not, UInt8.le_iff_toNat_le, UInt8.le_iff_toNat_le,
    ← UInt8.toNat_inj]
  change 48 ≤ c.toNat ∧ c.toNat ≤ 57 at h
  change ¬ (c.toNat = 32 ∨ 9 ≤ c.toNat ∧ c.toNat ≤ 13)
  omega

theorem splitSign_of_isDigit {c : UInt8} (h : isDigit c) (rest : List UInt8) :
    splitSign (c :: rest) = (false, c :: rest) := by
  have hminus : c ≠ 45 := by
    rintro rfl
    cases h
  have hplus : c ≠ 43 := by
    rintro rfl
    cases h
  rw [splitSign, if_neg hminus, if_neg hplus]

theorem Numeral.head {text : List UInt8} {z : ℤ} (h : Numeral text z) :
    ∃ c rest, text = c :: rest ∧ (isSpace c ∨ isDigit c ∨ c = 43 ∨ c = 45) := by
  cases h with
  | @unsigned digits hne hdigits =>
      obtain ⟨d, rest, rfl⟩ := List.exists_cons_of_ne_nil hne
      exact ⟨d, rest, rfl, .inr (.inl (hdigits d (List.mem_cons_self ..)))⟩
  | plus hne hdigits => exact ⟨_, _, rfl, .inr (.inr (.inl rfl))⟩
  | minus hne hdigits => exact ⟨_, _, rfl, .inr (.inr (.inr rfl))⟩
  | blank hc h => exact ⟨_, _, rfl, .inl hc⟩

/-- `strtol` reads a numeral of a small number. -/
theorem strtol_of_numeral {text : List UInt8} {z : ℤ} (h : Numeral text z)
    (hz : 0 ≤ z ∧ z < 256) : strtol text = z := by
  induction h with
  | @unsigned digits hne hdigits =>
      obtain ⟨d, rest, rfl⟩ := List.exists_cons_of_ne_nil hne
      have hd := hdigits d (List.mem_cons_self ..)
      have hall : (d :: rest).takeWhile isDigit = d :: rest :=
        List.takeWhile_eq_self_iff.mpr hdigits
      rw [strtol, List.dropWhile_cons_of_neg (by simp [not_isSpace_of_isDigit hd]),
        splitSign_of_isDigit hd]
      simp only [hall, Bool.false_eq_true, if_false]
      omega
  | @plus digits hne hdigits =>
      have hall : digits.takeWhile isDigit = digits := List.takeWhile_eq_self_iff.mpr hdigits
      have hsign : splitSign (43 :: digits) = (false, digits) := rfl
      rw [strtol, List.dropWhile_cons_of_neg (by decide), hsign]
      simp only [hall, Bool.false_eq_true, if_false]
      omega
  | @minus digits hne hdigits =>
      have hall : digits.takeWhile isDigit = digits := List.takeWhile_eq_self_iff.mpr hdigits
      have hsign : splitSign (45 :: digits) = (true, digits) := rfl
      rw [strtol, List.dropWhile_cons_of_neg (by decide), hsign]
      simp only [hall, if_true]
      omega
  | @blank c text z hc h ih =>
      rw [strtol, List.dropWhile_cons_of_pos hc]
      exact ih hz

end Socks5Proxy

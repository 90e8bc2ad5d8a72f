import Mathlib.Data.List.Basic
import Mathlib.Data.Int.Notation
import Mathlib.Tactic.Common

/-!
# Lists sorted by a three-way comparison

A list of records in strictly increasing order of a key, the order being given
by a comparison function with an integer result.  Such a list is a finite map
from keys to records: a key is found at one position at most, and otherwise
there is one gap it fits into.  The three rules say what insertion at that gap,
deletion and replacement of a record do to the order and to the lookups.
-/

namespace Library

variable {α κ : Type*}

/-- A comparison function whose sign is a strict total order. -/
structure ThreeWay (cmp : κ → κ → ℤ) : Prop where
  eq_zero_iff : ∀ {a b}, cmp a b = 0 ↔ a = b
  neg_iff : ∀ {a b}, cmp a b < 0 ↔ 0 < cmp b a
  trans : ∀ {a b c}, cmp a b < 0 → cmp b c < 0 → cmp a c < 0

/-- The keys of the records increase strictly. -/
def Ascending (cmp : κ → κ → ℤ) (key : α → κ) (l : List α) : Prop :=
  l.Pairwise fun a b => cmp (key a) (key b) < 0

/-- `k` lies strictly between the keys of `l₁` and those of `l₂`. -/
structure Gap (cmp : κ → κ → ℤ) (key : α → κ) (k : κ) (l₁ l₂ : List α) : Prop where
  below : ∀ a ∈ l₁, cmp (key a) k < 0
  above : ∀ b ∈ l₂, cmp k (key b) < 0

section Order

variable {cmp : κ → κ → ℤ} {key : α → κ} {l l₁ l₂ : List α} {x y : α} {k : κ}

theorem ThreeWay.irrefl (hcmp : ThreeWay cmp) (a : κ) : ¬ cmp a a < 0 := by
  have hzero : cmp a a = 0 := hcmp.eq_zero_iff.mpr rfl
  omega

theorem ThreeWay.ne_of_neg (hcmp : ThreeWay cmp) {a b : κ} (h : cmp a b < 0) : a ≠ b := by
  rintro rfl
  exact hcmp.irrefl a h

theorem ascending_middle_iff :
    Ascending cmp key (l₁ ++ x :: l₂) ↔
      Ascending cmp key (l₁ ++ l₂) ∧ Gap cmp key (key x) l₁ l₂ := by
  simp only [Ascending, List.pairwise_append, List.pairwise_cons, List.mem_cons]
  constructor
  · rintro ⟨h₁, ⟨hx, h₂⟩, hcross⟩
    exact ⟨⟨h₁, h₂, fun a ha b hb => hcross a ha b (.inr hb)⟩,
      fun a ha => hcross a ha x (.inl rfl), hx⟩
  · rintro ⟨⟨h₁, h₂, hcross⟩, hbelow, habove⟩
    refine ⟨h₁, ⟨habove, h₂⟩, ?_⟩
    rintro a ha b (rfl | hb)
    · exact hbelow a ha
    · exact hcross a ha b hb

/-- Insertion at a gap. -/
theorem Ascending.insert (h : Ascending cmp key (l₁ ++ l₂)) (hgap : Gap cmp key (key x) l₁ l₂) :
    Ascending cmp key (l₁ ++ x :: l₂) :=
  ascending_middle_iff.mpr ⟨h, hgap⟩

/-- Deletion of a record. -/
theorem Ascending.erase (h : Ascending cmp key (l₁ ++ x :: l₂)) : Ascending cmp key (l₁ ++ l₂) :=
  (ascending_middle_iff.mp h).1

/-- Replacement of a record by one with the same key. -/
theorem Ascending.replace (h : Ascending cmp key (l₁ ++ x :: l₂)) (hkey : key y = key x) :
    Ascending cmp key (l₁ ++ y :: l₂) := by
  obtain ⟨hrest, hgap⟩ := ascending_middle_iff.mp h
  rw [← hkey] at hgap
  exact hrest.insert hgap

/-- A key is found, or there is a gap for it. -/
theorem Ascending.split (hcmp : ThreeWay cmp) (h : Ascending cmp key l) (k : κ) :
    (∃ l₁ x l₂, l = l₁ ++ x :: l₂ ∧ key x = k) ∨
      ∃ l₁ l₂, l = l₁ ++ l₂ ∧ Gap cmp key k l₁ l₂ := by
  induction l with
  | nil => exact .inr ⟨[], [], rfl, by simp, by simp⟩
  | cons y l ih =>
      obtain ⟨hy, hl⟩ := List.pairwise_cons.mp h
      rcases Int.lt_trichotomy (cmp (key y) k) 0 with hlt | heq | hgt
      · rcases ih hl with ⟨l₁, x, l₂, rfl, hx⟩ | ⟨l₁, l₂, rfl, hgap⟩
        · exact .inl ⟨y :: l₁, x, l₂, rfl, hx⟩
        · refine .inr ⟨y :: l₁, l₂, rfl, ?_, hgap.above⟩
          rintro a (_ | ⟨_, ha⟩)
          · exact hlt
          · exact hgap.below a ha
      · exact .inl ⟨[], y, l, rfl, hcmp.eq_zero_iff.mp heq⟩
      · have hk : cmp k (key y) < 0 := hcmp.neg_iff.mpr hgt
        refine .inr ⟨[], y :: l, rfl, by simp, ?_⟩
        rintro b (_ | ⟨_, hb⟩)
        · exact hk
        · exact hcmp.trans hk (hy b hb)

theorem Gap.ne (hcmp : ThreeWay cmp) (h : Gap cmp key k l₁ l₂) : ∀ a ∈ l₁ ++ l₂, key a ≠ k := by
  intro a ha
  rcases List.mem_append.mp ha with hleft | hright
  · exact hcmp.ne_of_neg (h.below a hleft)
  · exact (hcmp.ne_of_neg (h.above a hright)).symm

/-- The other records have other keys. -/
theorem Ascending.ne_of_middle (hcmp : ThreeWay cmp) (h : Ascending cmp key (l₁ ++ x :: l₂)) :
    ∀ a ∈ l₁ ++ l₂, key a ≠ key x :=
  (ascending_middle_iff.mp h).2.ne hcmp

end Order

/-! ## Lookups -/

section Lookup

variable {l l₁ l₂ : List α} {x y : α} {found : α → Bool}

/-- The first match, when the records before it do not match. -/
theorem find?_middle (h : ∀ a ∈ l₁, found a = false) :
    (l₁ ++ x :: l₂).find? found = if found x then some x else l₂.find? found := by
  have hleft : l₁.find? found = none := by
    rw [List.find?_eq_none]
    intro a ha
    simp [h a ha]
  rw [List.find?_append, hleft, Option.none_or, List.find?_cons]
  cases found x <;> rfl

/-- A record that does not match can be taken out. -/
theorem find?_erase (h : found x = false) :
    (l₁ ++ x :: l₂).find? found = (l₁ ++ l₂).find? found := by
  rw [List.find?_append, List.find?_append, List.find?_cons, h]

theorem find?_replace (hx : found x = false) (hy : found y = false) :
    (l₁ ++ x :: l₂).find? found = (l₁ ++ y :: l₂).find? found := by
  rw [find?_erase hx, find?_erase hy]

end Lookup

end Library

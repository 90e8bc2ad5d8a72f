import Mathlib.Data.Option.Basic
import Mathlib.Tactic.Common

/-!
# Partial maps in two parts

A partial map that several parties update is split into the part of one of
them and the places of the others.  A party that touches none of these places
leaves them as they were, and what it finds does not depend on them.
-/

namespace Library

variable {α β : Type*}

/-- Each place is the owner's, and the whole is there what the owner has, or it
is in the frame, and the whole is there what the frame says: an entry or
nothing. -/
def Splits (whole own : α → Option β) (frame : α → Option (Option β)) : Prop :=
  ∀ a, frame a = none ∧ whole a = own a ∨
    ∃ entry, frame a = some entry ∧ own a = none ∧ whole a = entry

namespace Splits

variable {whole whole' own own' : α → Option β} {frame : α → Option (Option β)} {a : α}
  {entry : Option β}

/-- Outside the frame the whole is what its owner has. -/
theorem eq_own (h : Splits whole own frame) (ha : frame a = none) : whole a = own a := by
  rcases h a with ⟨-, howner⟩ | ⟨entry, hframe, -, -⟩
  · exact howner
  · rw [ha] at hframe
    cases hframe

/-- What the frame says of a place is so, and the owner has nothing there. -/
theorem of_frame (h : Splits whole own frame) (ha : frame a = some entry) :
    whole a = entry ∧ own a = none := by
  rcases h a with ⟨hnone, -⟩ | ⟨entry', hframe, hown, hwhole⟩
  · rw [ha] at hnone
    cases hnone
  · rw [ha, Option.some.injEq] at hframe
    subst hframe
    exact ⟨hwhole, hown⟩

/-- A change of both at one place outside the frame. -/
theorem change (h : Splits whole own frame) (ha : frame a = none) (hsame : whole' a = own' a)
    (hwhole : ∀ a', a' ≠ a → whole' a' = whole a') (hown : ∀ a', a' ≠ a → own' a' = own a') :
    Splits whole' own' frame := by
  intro a'
  by_cases heq : a' = a
  · subst heq
    exact .inl ⟨ha, hsame⟩
  · rw [hwhole a' heq, hown a' heq]
    exact h a'

/-- A set of places where the owner has nothing is a frame. -/
theorem of_places (places : α → Prop) [DecidablePred places] (hin : ∀ a, places a → own a = none)
    (hout : ∀ a, ¬ places a → whole a = own a) :
    Splits whole own fun a => if places a then some (whole a) else none := by
  intro a
  by_cases ha : places a
  · exact .inr ⟨whole a, if_pos ha, hin a ha, rfl⟩
  · exact .inl ⟨if_neg ha, hout a ha⟩

end Splits

end Library

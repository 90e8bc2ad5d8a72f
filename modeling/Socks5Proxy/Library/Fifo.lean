import Mathlib.Data.List.Basic
import Mathlib.Tactic.Common

/-!
# First in, first out

The reference queue of a bounded capacity.  A push into a full queue drops the
oldest element.  The state keeps what the queue has answered and what it has
dropped next to its contents, so that an implementation is compared with a run
of the reference and not with one call of it.
-/

namespace Library.Fifo

variable {α : Type*}

/-- A queue holds `capacity` elements; no capacity is no bound. -/
def Full (capacity : ℕ) (xs : List α) : Prop := capacity ≠ 0 ∧ capacity ≤ xs.length

instance (capacity : ℕ) (xs : List α) : Decidable (Full capacity xs) :=
  inferInstanceAs (Decidable (_ ∧ _))

inductive Op (α : Type*)
  | push (x : α)
  | pop
  | peek

structure State (α : Type*) where
  contents : List α
  dropped : List α
  answers : List (Option α)

/-- An empty queue that has answered nothing. -/
def State.new : State α := ⟨[], [], []⟩

/-- The queue with room for one more element. -/
def State.makeRoom (capacity : ℕ) (s : State α) : State α :=
  if Full capacity s.contents then
    { s with
      contents := s.contents.tail
      dropped := s.dropped ++ s.contents.take 1 }
  else
    s

def State.step (capacity : ℕ) (s : State α) : Op α → State α
  | .push x =>
    let s := s.makeRoom capacity
    { s with contents := s.contents ++ [x] }
  | .pop =>
    { s with
      contents := s.contents.tail
      answers := s.answers ++ [s.contents.head?] }
  | .peek => { s with answers := s.answers ++ [s.contents.head?] }

section Bounds

variable {capacity : ℕ} {s : State α}

/-- A queue that keeps its bound has room after `makeRoom`. -/
theorem State.length_makeRoom_lt (hcapacity : capacity ≠ 0)
    (h : s.contents.length ≤ capacity) : (s.makeRoom capacity).contents.length < capacity := by
  unfold makeRoom
  split_ifs with hfull
  · have hle := hfull.2
    simp only [List.length_tail]
    omega
  · have hlt : ¬ capacity ≤ s.contents.length := fun hle => hfull ⟨hcapacity, hle⟩
    omega

end Bounds

end Library.Fifo

import Mathlib.Data.List.Basic
import Mathlib.Data.Int.Notation
import Mathlib.Data.Nat.Notation
import Mathlib.Tactic.Common

/-!
# Byte memories

A memory is a function from offsets to cells.  This module supplies the three
accesses a pointer program makes to an array it knows the bounds of: reading
a window, storing a list at an offset, and moving a window to another offset.
Nothing here mentions a particular program; the lemmas compute the window left
by each access, so that a client reasons about lists and never about cells.
-/

namespace Library.Memory

variable {α : Type*}

/-- The `n` cells that start at offset `start`. -/
def slice (m : ℕ → α) (start n : ℕ) : List α :=
  (List.range n).map fun i => m (start + i)

/-- Write the list `xs` at offset `start`. -/
def store (m : ℕ → α) (start : ℕ) (xs : List α) : ℕ → α :=
  fun i => if start ≤ i then (xs[i - start]?).getD (m i) else m i

/-- A store into an array that ends in front of the cell `bound`. -/
def storeWithin (bound : ℕ) (m : ℕ → α) (start : ℕ) (xs : List α) : Option (ℕ → α) :=
  if start + xs.length ≤ bound then some (store m start xs) else none

/-- Copy the `n` cells at offset `src` to offset `dst`, as if through a
temporary copy. -/
def move (m : ℕ → α) (dst src n : ℕ) : ℕ → α :=
  fun i => if dst ≤ i ∧ i < dst + n then m (src + (i - dst)) else m i

/-! ## Windows -/

@[simp] theorem length_slice (m : ℕ → α) (start n : ℕ) :
    (slice m start n).length = n := by
  simp [slice]

@[simp] theorem slice_zero (m : ℕ → α) (start : ℕ) :
    slice m start 0 = [] := rfl

theorem slice_eq_nil_iff {m : ℕ → α} {start n : ℕ} :
    slice m start n = [] ↔ n = 0 := by
  rw [← List.length_eq_zero_iff, length_slice]

theorem getElem?_slice (m : ℕ → α) (start n i : ℕ) :
    (slice m start n)[i]? = if i < n then some (m (start + i)) else none := by
  by_cases hi : i < n
  · simp [slice, hi]
  · simp [slice, hi]

/-- A window only depends on the cells inside it. -/
theorem slice_congr {m m' : ℕ → α} {start start' n : ℕ}
    (h : ∀ i < n, m (start + i) = m' (start' + i)) :
    slice m start n = slice m' start' n := by
  apply List.map_congr_left
  intro i hi
  exact h i (List.mem_range.mp hi)

/-- A window splits at every inner offset. -/
theorem slice_add (m : ℕ → α) (start n k : ℕ) :
    slice m start (n + k) = slice m start n ++ slice m (start + n) k := by
  simp only [slice, List.range_add, List.map_append, List.map_map]
  congr 1
  apply List.map_congr_left
  intro i _
  simp [Nat.add_assoc]

theorem slice_succ (m : ℕ → α) (start n : ℕ) :
    slice m start (n + 1) = m start :: slice m (start + 1) n := by
  rw [Nat.add_comm n 1, slice_add]
  rfl

theorem take_slice (m : ℕ → α) (start : ℕ) {n k : ℕ} (hk : k ≤ n) :
    (slice m start n).take k = slice m start k := by
  obtain ⟨d, rfl⟩ := Nat.exists_eq_add_of_le hk
  rw [slice_add, List.take_left' (length_slice m start k)]

theorem drop_slice (m : ℕ → α) (start : ℕ) {n k : ℕ} (hk : k ≤ n) :
    (slice m start n).drop k = slice m (start + k) (n - k) := by
  obtain ⟨d, rfl⟩ := Nat.exists_eq_add_of_le hk
  rw [slice_add, List.drop_left' (length_slice m start k)]
  congr 1
  omega

theorem slice_const (x : α) (start n : ℕ) : slice (fun _ => x) start n = List.replicate n x := by
  rw [slice, List.map_const', List.length_range]

/-! ## Stores -/

theorem store_apply_of_lt (m : ℕ → α) {start i : ℕ} (xs : List α)
    (hi : i < start) : store m start xs i = m i := by
  simp [store, Nat.not_le.mpr hi]

theorem store_apply_of_ge (m : ℕ → α) {start i : ℕ} (xs : List α)
    (hi : start + xs.length ≤ i) : store m start xs i = m i := by
  have hlen : xs[i - start]? = none := by
    rw [List.getElem?_eq_none_iff]
    omega
  simp [store, hlen]

/-- The window just written holds the list. -/
@[simp] theorem slice_store_same (m : ℕ → α) (start : ℕ) (xs : List α) :
    slice (store m start xs) start xs.length = xs := by
  apply List.ext_getElem?
  intro i
  rw [getElem?_slice]
  by_cases hi : i < xs.length
  · simp [store, hi]
  · simp [hi]

/-- A window that ends before the written cells is unchanged. -/
theorem slice_store_of_le (m : ℕ → α) {start n at' : ℕ} (xs : List α)
    (h : start + n ≤ at') : slice (store m at' xs) start n = slice m start n := by
  apply slice_congr
  intro i hi
  exact store_apply_of_lt m xs (by omega)

/-- A window that starts after the written cells is unchanged. -/
theorem slice_store_of_ge (m : ℕ → α) {start n at' : ℕ} (xs : List α)
    (h : at' + xs.length ≤ start) :
    slice (store m at' xs) start n = slice m start n := by
  apply slice_congr
  intro i _
  exact store_apply_of_ge m xs (by omega)

/-- A window that ends where the written cells begin grows by them. -/
theorem slice_store_append (m : ℕ → α) (start n : ℕ) (xs : List α) :
    slice (store m (start + n) xs) start (n + xs.length) =
      slice m start n ++ xs := by
  rw [slice_add, slice_store_of_le m xs (Nat.le_refl _), slice_store_same]

/-- Two stores in a row, the second where the first ends. -/
theorem store_append (m : ℕ → α) (start : ℕ) (xs ys : List α) :
    store (store m start xs) (start + xs.length) ys = store m start (xs ++ ys) := by
  funext i
  simp only [store]
  by_cases hfirst : start ≤ i
  · by_cases hsecond : start + xs.length ≤ i
    · rw [if_pos hfirst, if_pos hsecond, if_pos hfirst,
        List.getElem?_eq_none (l := xs) (by omega), List.getElem?_append_right (by omega),
        Nat.sub_sub]
      rfl
    · rw [if_pos hfirst, if_neg hsecond, if_pos hfirst, List.getElem?_append_left (by omega)]
  · rw [if_neg hfirst, if_neg hfirst, if_neg (by omega)]

theorem storeWithin_of_le {bound start : ℕ} (m : ℕ → α) {xs : List α}
    (h : start + xs.length ≤ bound) : storeWithin bound m start xs = some (store m start xs) :=
  if_pos h

theorem storeWithin_of_lt {bound start : ℕ} (m : ℕ → α) {xs : List α}
    (h : bound < start + xs.length) : storeWithin bound m start xs = none :=
  if_neg (Nat.not_le.mpr h)

/-- A store that ends in time is a store. -/
theorem storeWithin_eq_store {bound start : ℕ} {m m' : ℕ → α} {xs : List α}
    (h : storeWithin bound m start xs = some m') : m' = store m start xs := by
  rw [storeWithin] at h
  split_ifs at h
  exact (Option.some.inj h).symm

/-! ## Moves -/

/-- The destination of a move holds the source as it was before the move. -/
theorem slice_move (m : ℕ → α) (dst src n : ℕ) :
    slice (move m dst src n) dst n = slice m src n := by
  apply slice_congr
  intro i hi
  have hin : dst ≤ dst + i ∧ dst + i < dst + n := by omega
  simp [move, hin]

end Library.Memory

import Mathlib.Data.List.Basic
import Mathlib.Tactic.Common

/-!
# A stream that arrives in segments

A reader asks for a number of elements and is given at most those of the first
segment that has arrived.  What it is given over several reads is the stream,
and one read gives it the whole stream only if the stream is one segment.  A
writer that gives up the rest of a segment has written the stream only if it
has given up nothing.
-/

namespace Library.Stream

variable {α : Type*}

/-- A way to cut a stream into segments. -/
structure Cut (stream : List α) where
  segments : List (List α)
  nonempty : ∀ segment ∈ segments, segment ≠ []
  flatten : segments.flatten = stream

/-- What a read of `count` elements gives, and the segments left. -/
def receive (count : ℕ) : List (List α) → List α × List (List α)
  | [] => ([], [])
  | segment :: segments =>
    if segment.length ≤ count then (segment, segments)
    else (segment.take count, segment.drop count :: segments)

section Receive

variable {count : ℕ} {segment : List α} {segments : List (List α)}

theorem receive_cons_of_le (h : segment.length ≤ count) :
    receive count (segment :: segments) = (segment, segments) := if_pos h

theorem receive_cons_of_lt (h : count < segment.length) :
    receive count (segment :: segments) =
      (segment.take count, segment.drop count :: segments) := if_neg (Nat.not_le.mpr h)

theorem receive_cons_fst : (receive count (segment :: segments)).1 = segment.take count := by
  by_cases h : segment.length ≤ count
  · rw [receive_cons_of_le h, List.take_of_length_le h]
  · rw [receive_cons_of_lt (Nat.lt_of_not_le h)]

/-- No element is lost or moved. -/
theorem receive_append_flatten (count : ℕ) (segments : List (List α)) :
    (receive count segments).1 ++ (receive count segments).2.flatten = segments.flatten := by
  match segments with
  | [] => rfl
  | segment :: segments =>
    by_cases h : segment.length ≤ count
    · rw [receive_cons_of_le h, List.flatten_cons]
    · rw [receive_cons_of_lt (Nat.lt_of_not_le h), List.flatten_cons, List.flatten_cons,
        ← List.append_assoc, List.take_append_drop]

theorem length_receive_le (count : ℕ) (segments : List (List α)) :
    (receive count segments).1.length ≤ count := by
  match segments with
  | [] => exact Nat.zero_le _
  | segment :: segments =>
    rw [receive_cons_fst]
    exact List.length_take_le _ _

/-- The segments before a read, from what it gives and what it leaves. -/
theorem eq_of_receive {received : List α} {left : List (List α)} (hne : segments ≠ [])
    (h : receive count segments = (received, left)) :
    segments = received :: left ∨
      ∃ back rest, left = back :: rest ∧ segments = (received ++ back) :: rest := by
  obtain ⟨segment, segments, rfl⟩ := List.exists_cons_of_ne_nil hne
  by_cases hle : segment.length ≤ count
  · rw [receive_cons_of_le hle, Prod.mk.injEq] at h
    rw [h.1, h.2]
    exact .inl rfl
  · rw [receive_cons_of_lt (Nat.lt_of_not_le hle), Prod.mk.injEq] at h
    refine .inr ⟨_, _, h.2.symm, ?_⟩
    rw [← h.1, List.take_append_drop]

/-- Every read of a cut stream leaves a cut stream. -/
theorem receive_nonempty (h : ∀ segment ∈ segments, segment ≠ []) :
    ∀ left ∈ (receive count segments).2, left ≠ [] := by
  match segments with
  | [] => exact List.forall_mem_nil _
  | segment :: segments =>
    have hrest : ∀ left ∈ segments, left ≠ [] := fun left hleft =>
      h left (List.mem_cons_of_mem _ hleft)
    by_cases hle : segment.length ≤ count
    · rw [receive_cons_of_le hle]
      exact hrest
    · rw [receive_cons_of_lt (Nat.lt_of_not_le hle)]
      refine List.forall_mem_cons.mpr ⟨?_, hrest⟩
      rw [Ne, List.drop_eq_nil_iff]
      exact hle

end Receive

section Whole

variable {stream : List α} {segments : List (List α)}

theorem eq_nil_of_flatten_eq_nil (h : ∀ segment ∈ segments, segment ≠ [])
    (hflatten : segments.flatten = []) : segments = [] := by
  match segments with
  | [] => rfl
  | segment :: segments =>
    rw [List.flatten_cons, List.append_eq_nil_iff] at hflatten
    exact absurd hflatten.1 (h segment List.mem_cons_self)

/-- A read gives the whole stream if and only if the stream is one segment. -/
theorem receive_all_iff (h : ∀ segment ∈ segments, segment ≠ [])
    (hflatten : segments.flatten = stream) (hne : stream ≠ []) :
    stream.length ≤ (receive stream.length segments).1.length ↔ segments = [stream] := by
  constructor
  · intro hall
    match segments with
    | [] => exact absurd hflatten.symm hne
    | segment :: segments =>
      have hsplit : stream = segment ++ segments.flatten := by
        rw [← hflatten, List.flatten_cons]
      have hlen := congrArg List.length hsplit
      rw [List.length_append] at hlen
      rw [receive_cons_fst, List.length_take] at hall
      have hrest : segments.flatten = [] := List.length_eq_zero_iff.mp (by omega)
      have hnil : segments = [] :=
        eq_nil_of_flatten_eq_nil (fun left hleft => h left (List.mem_cons_of_mem _ hleft)) hrest
      rw [hsplit, hnil, List.flatten_nil, List.append_nil]
  · rintro rfl
    exact Nat.le_of_eq (by rw [receive_cons_fst, List.take_length])

end Whole

section Pieces

variable {ι : Type*} {piece segment : ι → List α}

theorem length_flatten_map_le {xs : List ι}
    (hle : ∀ x ∈ xs, (piece x).length ≤ (segment x).length) :
    (xs.map piece).flatten.length ≤ (xs.map segment).flatten.length := by
  induction xs with
  | nil => exact Nat.le_refl _
  | cons x xs ih =>
    obtain ⟨hx, hxs⟩ := List.forall_mem_cons.mp hle
    have hrest := ih hxs
    simp only [List.map_cons, List.flatten_cons, List.length_append]
    omega

/-- Pieces of the segments make up the stream if and only if they are the
segments. -/
theorem flatten_map_eq_iff {xs : List ι}
    (hle : ∀ x ∈ xs, (piece x).length ≤ (segment x).length) :
    (xs.map piece).flatten = (xs.map segment).flatten ↔ ∀ x ∈ xs, piece x = segment x := by
  induction xs with
  | nil => simp
  | cons x xs ih =>
    obtain ⟨hx, hxs⟩ := List.forall_mem_cons.mp hle
    have hrest := length_flatten_map_le hxs
    rw [List.map_cons, List.map_cons, List.flatten_cons, List.flatten_cons, List.forall_mem_cons,
      ← ih hxs]
    constructor
    · intro h
      have hlen := congrArg List.length h
      rw [List.length_append, List.length_append] at hlen
      exact List.append_inj h (by omega)
    · rintro ⟨hpiece, hpieces⟩
      rw [hpiece, hpieces]

end Pieces

end Library.Stream

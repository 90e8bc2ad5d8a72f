import Mathlib.Data.List.Nodup
import Mathlib.Logic.Function.Basic
import Mathlib.Tactic.Common

/-!
# Singly linked lists in a heap

A heap maps addresses to nodes, and a null pointer is `none`.  `Segment` says
which nodes following the `next` pointers visits; `Linked` adds what a pair of
pointers to the two ends of a list has to satisfy.  The rules give the list
after each of the changes a queue makes: allocating an unrelated node, freeing
the first node, and linking a node behind the last one.
-/

namespace Library.LinkedList

variable {ν α : Type*}

/-- A node: the pointer to the next node and a datum. -/
structure Node (ν α : Type*) where
  next : Option ν
  data : α

/-- Following `next` from `p` visits `cells` and then arrives at `q`. -/
def Segment (heap : ν → Option (Node ν α)) : Option ν → List (ν × α) → Option ν → Prop
  | p, [], q => p = q
  | p, (a, x) :: cells, q =>
    p = some a ∧ ∃ next, heap a = some ⟨next, x⟩ ∧ Segment heap next cells q

/-- The data of the nodes that `p` leads to, `n` at most. -/
def walk (heap : ν → Option (Node ν α)) : ℕ → Option ν → List α
  | n + 1, some p =>
    match heap p with
    | none => []
    | some node => node.data :: walk heap n node.next
  | _, _ => []

/-- The address of the last cell. -/
def lastAddress (cells : List (ν × α)) : Option ν := cells.getLast?.map Prod.fst

/-- `first` and `last` are the ends of a list that consists of `cells`. -/
structure Linked (heap : ν → Option (Node ν α)) (first last : Option ν)
    (cells : List (ν × α)) : Prop where
  segment : Segment heap first cells none
  last : last = lastAddress cells
  nodup : (cells.map Prod.fst).Nodup

section Segments

variable {heap heap' : ν → Option (Node ν α)} {p q r : Option ν} {cells cells' : List (ν × α)}

/-- A segment depends on its own nodes only. -/
theorem Segment.congr (h : Segment heap p cells q)
    (hsame : ∀ a ∈ cells.map Prod.fst, heap' a = heap a) : Segment heap' p cells q := by
  induction cells generalizing p with
  | nil => exact h
  | cons cell cells ih =>
      obtain ⟨hp, next, hnode, hrest⟩ := h
      refine ⟨hp, next, ?_, ih hrest fun a ha => hsame a (List.mem_cons_of_mem _ ha)⟩
      rw [hsame cell.1 List.mem_cons_self]
      exact hnode

theorem segment_append_iff : Segment heap p (cells ++ cells') r ↔
    ∃ q, Segment heap p cells q ∧ Segment heap q cells' r := by
  induction cells generalizing p with
  | nil => simp [Segment]
  | cons cell cells ih =>
      simp only [List.cons_append, Segment, ih]
      constructor
      · rintro ⟨hp, next, hnode, q, hcells, hcells'⟩
        exact ⟨q, ⟨hp, next, hnode, hcells⟩, hcells'⟩
      · rintro ⟨q, ⟨hp, next, hnode, hcells⟩, hcells'⟩
        exact ⟨hp, next, hnode, q, hcells, hcells'⟩

theorem Segment.allocated (h : Segment heap p cells q) {a : ν} (ha : a ∈ cells.map Prod.fst) :
    heap a ≠ none := by
  induction cells generalizing p with
  | nil => simp at ha
  | cons cell cells ih =>
      obtain ⟨-, next, hnode, hrest⟩ := h
      rcases List.mem_cons.mp ha with rfl | ha
      · rw [hnode]
        exact Option.some_ne_none _
      · exact ih hrest ha

theorem Segment.node (h : Segment heap p cells q) {a : ν} {x : α} (ha : (a, x) ∈ cells) :
    ∃ next, heap a = some ⟨next, x⟩ := by
  induction cells generalizing p with
  | nil => simp at ha
  | cons cell cells ih =>
      obtain ⟨-, next, hnode, hrest⟩ := h
      rcases List.mem_cons.mp ha with rfl | ha
      · exact ⟨next, hnode⟩
      · exact ih hrest ha

/-- A list starts at its first cell. -/
theorem Segment.head (h : Segment heap p cells none) : p = cells.head?.map Prod.fst := by
  rcases cells with _ | ⟨cell, cells⟩
  · exact h
  · exact h.1

/-- The last node of a segment can be made to lead to another one. -/
theorem Segment.redirect [DecidableEq ν] {b : ν} {y : α}
    (h : Segment heap p (cells ++ [(b, y)]) q) (hrest : Segment heap r cells' none)
    (hb : b ∉ cells.map Prod.fst) (hb' : b ∉ cells'.map Prod.fst) :
    heap b = some ⟨q, y⟩ ∧
      Segment (Function.update heap b (some ⟨r, y⟩)) p (cells ++ (b, y) :: cells') none := by
  obtain ⟨_, hcells, rfl, next, hnode, hq⟩ := segment_append_iff.mp h
  obtain rfl : next = q := hq
  have hsame : ∀ l : List (ν × α), b ∉ l.map Prod.fst → ∀ a ∈ l.map Prod.fst,
      Function.update heap b (some ⟨r, y⟩) a = heap a := by
    intro l hl a ha
    apply Function.update_of_ne
    rintro rfl
    exact hl ha
  refine ⟨hnode, segment_append_iff.mpr ⟨some b, hcells.congr (hsame _ hb), rfl, r, ?_, ?_⟩⟩
  · exact Function.update_self ..
  · exact hrest.congr (hsame _ hb')

/-- Following the pointers of a segment finds its data. -/
theorem Segment.walk (h : Segment heap p cells none) :
    LinkedList.walk heap cells.length p = cells.map Prod.snd := by
  induction cells generalizing p with
  | nil =>
      rw [show p = none from h]
      rfl
  | cons cell cells ih =>
      obtain ⟨hp, next, hnode, hrest⟩ := h
      rw [hp, List.length_cons, LinkedList.walk, hnode, List.map_cons]
      dsimp only
      rw [ih hrest]

end Segments

section Lists

variable {heap : ν → Option (Node ν α)} {first last : Option ν} {cells : List (ν × α)}

theorem Linked.nil (heap : ν → Option (Node ν α)) : Linked heap none none [] where
  segment := rfl
  last := rfl
  nodup := List.nodup_nil

theorem Linked.first_eq_none_iff (h : Linked heap first last cells) :
    first = none ↔ cells = [] := by
  have hsegment := h.segment
  rcases cells with _ | ⟨⟨a, x⟩, cells⟩
  · exact iff_of_true hsegment rfl
  · rw [hsegment.1]
    simp

theorem Linked.last_eq_none_iff (h : Linked heap first last cells) :
    last = none ↔ cells = [] := by
  rw [h.last, lastAddress, Option.map_eq_none_iff, List.getLast?_eq_none_iff]

theorem lastAddress_cons {cell : ν × α} (hne : cells ≠ []) :
    lastAddress (cell :: cells) = lastAddress cells := by
  rw [lastAddress, lastAddress, List.getLast?_cons_of_ne_nil hne]

/-- A node without a successor is a list. -/
theorem Linked.single {a : ν} {x : α} (hnode : heap a = some ⟨none, x⟩) :
    Linked heap (some a) (some a) [(a, x)] where
  segment := ⟨rfl, none, hnode, rfl⟩
  last := rfl
  nodup := List.nodup_singleton a

variable [DecidableEq ν]

/-- Nodes that are not in the list can be allocated, changed and freed. -/
theorem Linked.update (h : Linked heap first last cells) {a : ν} (ha : a ∉ cells.map Prod.fst)
    (node : Option (Node ν α)) : Linked (Function.update heap a node) first last cells where
  segment := by
    apply h.segment.congr
    intro b hb
    apply Function.update_of_ne
    intro hba
    exact ha (hba ▸ hb)
  last := h.last
  nodup := h.nodup

/-- The first node can be taken off and freed; `last` becomes null with the
list. -/
theorem Linked.pop {a : ν} {x : α} (h : Linked heap first last ((a, x) :: cells)) :
    first = some a ∧ ∃ next, heap a = some ⟨next, x⟩ ∧
      Linked (Function.update heap a none) next (if next.isNone then none else last) cells := by
  obtain ⟨hfirst, next, hnode, hrest⟩ := h.segment
  obtain ⟨ha, hnodup⟩ := List.nodup_cons.mp h.nodup
  have htail : Linked heap next (lastAddress cells) cells := ⟨hrest, rfl, hnodup⟩
  have hlast : (if next.isNone then none else last) = lastAddress cells := by
    split_ifs with hnext
    · rw [Option.isNone_iff_eq_none, htail.first_eq_none_iff] at hnext
      rw [hnext]
      rfl
    · rw [Option.isNone_iff_eq_none, htail.first_eq_none_iff] at hnext
      rw [h.last, lastAddress_cons hnext]
  refine ⟨hfirst, next, hnode, ?_⟩
  rw [hlast]
  exact htail.update ha none

/-- A node without a successor can be linked behind the last one. -/
theorem Linked.push {a b : ν} {x : α} (h : Linked heap first (some b) cells)
    (ha : a ∉ cells.map Prod.fst) (hnode : heap a = some ⟨none, x⟩) :
    ∃ y, heap b = some ⟨none, y⟩ ∧
      Linked (Function.update heap b (some ⟨some a, y⟩)) first (some a) (cells ++ [(a, x)]) := by
  have hne : cells ≠ [] := by
    intro hnil
    exact absurd (h.last_eq_none_iff.mpr hnil) (Option.some_ne_none b)
  obtain ⟨init, ⟨b', y⟩, rfl⟩ := (List.eq_nil_or_concat cells).resolve_left hne
  have hb : b = b' := by
    have hlast := h.last
    simpa [lastAddress] using hlast
  subst hb
  simp only [List.concat_eq_append] at h ha ⊢
  obtain ⟨q, hinit, hq, next, hlastnode, hnext⟩ := segment_append_iff.mp h.segment
  subst hq
  have hnull : next = none := hnext
  subst hnull
  rw [List.map_append, List.mem_append, not_or] at ha
  have hab : a ≠ b := by
    intro hab
    exact ha.2 (by simp [hab])
  have hnodup := h.nodup
  rw [List.map_append, List.nodup_append] at hnodup
  have hb : b ∉ init.map Prod.fst := fun hmem => hnodup.2.2 b hmem b (by simp) rfl
  refine ⟨y, hlastnode, ?_, by simp [lastAddress], ?_⟩
  · -- the nodes in front of the last one are as they were
    have hsame : ∀ c ∈ init.map Prod.fst,
        Function.update heap b (some ⟨some a, y⟩) c = heap c := by
      intro c hc
      apply Function.update_of_ne
      intro hcb
      exact hb (hcb ▸ hc)
    rw [List.append_assoc]
    refine segment_append_iff.mpr ⟨some b, hinit.congr hsame, rfl, some a, ?_, rfl, none, ?_, rfl⟩
    · exact Function.update_self ..
    · rw [Function.update_of_ne hab]
      exact hnode
  · rw [List.map_append, List.nodup_append]
    refine ⟨h.nodup, List.nodup_singleton a, ?_⟩
    intro c hc d hd
    rw [List.map_append, List.mem_append] at hc
    obtain rfl : d = a := by simpa using hd
    rintro rfl
    exact hc.elim ha.1 ha.2

end Lists

section Whole

variable {heap : ν → Option (Node ν α)} {first : Option ν} {cells init rest : List (ν × α)}
variable {a b : ν} {x y : α}

/-- The heap consists of the nodes of one list. -/
structure Whole (heap : ν → Option (Node ν α)) (first : Option ν) (cells : List (ν × α)) :
    Prop where
  segment : Segment heap first cells none
  nodup : (cells.map Prod.fst).Nodup
  only : ∀ a, heap a ≠ none → a ∈ cells.map Prod.fst

theorem Whole.nil : Whole (fun _ => none : ν → Option (Node ν α)) none [] where
  segment := rfl
  nodup := List.nodup_nil
  only := fun _ h => absurd rfl h

theorem Whole.notMem (h : Whole heap first cells) (ha : heap a = none) :
    a ∉ cells.map Prod.fst := fun hmem => h.segment.allocated hmem ha

variable [DecidableEq ν]

/-- A change to one node, seen from the others. -/
theorem Segment.update {p q : Option ν} (h : Segment heap p cells q)
    (ha : a ∉ cells.map Prod.fst) (node : Option (Node ν α)) :
    Segment (Function.update heap a node) p cells q := by
  apply h.congr
  intro b hb
  apply Function.update_of_ne
  rintro rfl
  exact ha hb

/-- A new node becomes the first one. -/
theorem Whole.cons (h : Whole heap first cells) (ha : heap a = none) :
    Whole (Function.update heap a (some ⟨first, x⟩)) (some a) ((a, x) :: cells) where
  segment := ⟨rfl, first, Function.update_self .., h.segment.update (h.notMem ha) _⟩
  nodup := List.nodup_cons.mpr ⟨h.notMem ha, h.nodup⟩
  only := by
    intro c hc
    rw [List.map_cons, List.mem_cons]
    by_cases hca : c = a
    · exact .inl hca
    · rw [Function.update_of_ne hca] at hc
      exact .inr (h.only c hc)

/-- A new node goes behind one that is in the list. -/
theorem Whole.insert (h : Whole heap first (init ++ (b, y) :: rest)) (ha : heap a = none) :
    heap b = some ⟨rest.head?.map Prod.fst, y⟩ ∧
      Whole
        (Function.update (Function.update heap a (some ⟨rest.head?.map Prod.fst, x⟩)) b
          (some ⟨some a, y⟩))
        first (init ++ (b, y) :: (a, x) :: rest) := by
  have hnotMem := h.notMem ha
  obtain ⟨_, hinit, rfl, q, hb, hrest⟩ := segment_append_iff.mp h.segment
  obtain rfl := hrest.head
  have hnodup := h.nodup
  simp only [List.map_append, List.map_cons, List.nodup_append, List.nodup_cons, List.mem_cons,
    List.mem_append, not_or] at hnodup hnotMem
  obtain ⟨hinitNodup, ⟨hbrest, hrestNodup⟩, hdisjoint⟩ := hnodup
  obtain ⟨hainit, hab, harest⟩ := hnotMem
  have hbinit : b ∉ init.map Prod.fst := fun hmem => hdisjoint b hmem b (.inl rfl) rfl
  refine ⟨hb, ?_, ?_, ?_⟩
  · have hnew : Segment (Function.update heap a (some ⟨rest.head?.map Prod.fst, x⟩)) (some a)
        ((a, x) :: rest) none :=
      ⟨rfl, _, Function.update_self .., hrest.update harest _⟩
    have hold : Segment (Function.update heap a (some ⟨rest.head?.map Prod.fst, x⟩)) first
        (init ++ [(b, y)]) (rest.head?.map Prod.fst) := by
      refine segment_append_iff.mpr ⟨some b, hinit.update hainit _, rfl, _, ?_, rfl⟩
      rw [Function.update_of_ne (Ne.symm hab)]
      exact hb
    have hbnew : b ∉ ((a, x) :: rest).map Prod.fst := by
      rw [List.map_cons, List.mem_cons, not_or]
      exact ⟨Ne.symm hab, hbrest⟩
    exact (hold.redirect hnew hbinit hbnew).2
  · simp only [List.map_append, List.map_cons, List.nodup_append, List.nodup_cons, List.mem_cons,
      not_or]
    refine ⟨hinitNodup, ⟨⟨Ne.symm hab, hbrest⟩, harest, hrestNodup⟩, ?_⟩
    intro c hc d hd
    rcases hd with rfl | rfl | hd
    · exact hdisjoint c hc _ (.inl rfl)
    · rintro rfl
      exact hainit hc
    · exact hdisjoint c hc d (.inr hd)
  · intro c hc
    simp only [List.map_append, List.map_cons, List.mem_append, List.mem_cons]
    by_cases hcb : c = b
    · exact .inr (.inl hcb)
    · rw [Function.update_of_ne hcb] at hc
      by_cases hca : c = a
      · exact .inr (.inr (.inl hca))
      · rw [Function.update_of_ne hca] at hc
        have hmem := h.only c hc
        simp only [List.map_append, List.map_cons, List.mem_append, List.mem_cons] at hmem
        exact hmem.imp_right fun hmem => hmem.imp_right .inr

/-- The first node can be freed. -/
theorem Whole.tail (h : Whole heap first ((a, x) :: cells)) :
    first = some a ∧ heap a = some ⟨cells.head?.map Prod.fst, x⟩ ∧
      Whole (Function.update heap a none) (cells.head?.map Prod.fst) cells := by
  obtain ⟨hfirst, q, ha, hrest⟩ := h.segment
  obtain rfl := hrest.head
  obtain ⟨hnotMem, hnodup⟩ := List.nodup_cons.mp h.nodup
  refine ⟨hfirst, ha, hrest.update hnotMem _, hnodup, ?_⟩
  intro c hc
  by_cases hca : c = a
  · rw [hca, Function.update_self] at hc
    exact absurd rfl hc
  · rw [Function.update_of_ne hca] at hc
    exact (List.mem_cons.mp (h.only c hc)).resolve_left hca

/-- The node behind another one can be taken out and freed. -/
theorem Whole.remove (h : Whole heap first (init ++ (b, y) :: (a, x) :: rest)) :
    heap b = some ⟨some a, y⟩ ∧ heap a = some ⟨rest.head?.map Prod.fst, x⟩ ∧
      Whole
        (Function.update (Function.update heap b (some ⟨rest.head?.map Prod.fst, y⟩)) a none)
        first (init ++ (b, y) :: rest) := by
  obtain ⟨_, hinit, rfl, _, hb, rfl, q, ha, hrest⟩ := segment_append_iff.mp h.segment
  obtain rfl := hrest.head
  have hnodup := h.nodup
  simp only [List.map_append, List.map_cons, List.nodup_append, List.nodup_cons, List.mem_cons,
    not_or] at hnodup
  obtain ⟨hinitNodup, ⟨⟨hba, hbrest⟩, harest, hrestNodup⟩, hdisjoint⟩ := hnodup
  have hbinit : b ∉ init.map Prod.fst := fun hmem => hdisjoint b hmem b (.inl rfl) rfl
  have hainit : a ∉ init.map Prod.fst := fun hmem => hdisjoint a hmem a (.inr (.inl rfl)) rfl
  refine ⟨hb, ha, ?_, ?_, ?_⟩
  · have hold : Segment heap first (init ++ [(b, y)]) (some a) :=
      segment_append_iff.mpr ⟨some b, hinit, rfl, some a, hb, rfl⟩
    refine (hold.redirect hrest hbinit hbrest).2.update ?_ none
    simp only [List.map_append, List.map_cons, List.mem_append, List.mem_cons, not_or]
    exact ⟨hainit, Ne.symm hba, harest⟩
  · simp only [List.map_append, List.map_cons, List.nodup_append, List.nodup_cons, List.mem_cons]
    refine ⟨hinitNodup, ⟨hbrest, hrestNodup⟩, ?_⟩
    intro c hc d hd
    exact hdisjoint c hc d (hd.imp_right .inr)
  · intro c hc
    by_cases hca : c = a
    · rw [hca, Function.update_self] at hc
      exact absurd rfl hc
    · rw [Function.update_of_ne hca] at hc
      simp only [List.map_append, List.map_cons, List.mem_append, List.mem_cons]
      by_cases hcb : c = b
      · exact .inr (.inl hcb)
      · rw [Function.update_of_ne hcb] at hc
        have hmem := h.only c hc
        simp only [List.map_append, List.map_cons, List.mem_append, List.mem_cons] at hmem
        rcases hmem with hmem | hmem | hmem | hmem
        · exact .inl hmem
        · exact absurd hmem hcb
        · exact absurd hmem hca
        · exact .inr (.inr hmem)

end Whole

end Library.LinkedList

import Socks5Proxy.Library.LinkedList
import Socks5Proxy.Server.Users

/-!
# The linked list in memory

`list.c` keeps every element in a block of its own, to which the node of the
element points.  Nodes and blocks come from `malloc` and go back to `free`.  To
follow a pointer to anything else is a fault, and so is to read a variable that
nothing has been assigned to.

Whatever the allocator answers, the list in memory is the sorted list of its
elements, and nothing stays allocated that is not part of it.
-/

namespace Socks5Proxy

open Library Library.LinkedList

inductive ListFault
  | nullPointer
  | notAllocated
  | indeterminate
  | diverges
  deriving DecidableEq, Repr

/-- `struct ListCDT` with the memory it points into.  `list_create` leaves
`iter` indeterminate, which is the outer `none`. -/
structure LinkedCDT (α : Type) where
  nodes : ℕ → Option (Node ℕ ℕ)
  blocks : ℕ → Option α
  head : Option ℕ
  iter : Option (Option ℕ)
  size : ℕ

namespace LinkedCDT

section Functions

variable {α : Type}

/-- The node behind a pointer. -/
def deref (l : LinkedCDT α) : Option ℕ → Except ListFault (ℕ × Node ℕ ℕ)
  | none => .error .nullPointer
  | some p =>
    match l.nodes p with
    | none => .error .notAllocated
    | some node => .ok (p, node)

/-- The element in a block. -/
def read (l : LinkedCDT α) (block : ℕ) : Except ListFault α :=
  match l.blocks block with
  | none => .error .notAllocated
  | some data => .ok data

/-- `list_create` when its allocation succeeds. -/
def listCreate : LinkedCDT α where
  nodes := fun _ => none
  blocks := fun _ => none
  head := none
  iter := none
  size := 0

/-- The loop of `list_add` and `list_remove`: the first node from `curr` on
whose element `stop` accepts, and the node the loop came from. -/
def walkUntil (l : LinkedCDT α) (stop : α → Bool) :
    ℕ → Option ℕ → Option ℕ → Except ListFault (Option ℕ × Option ℕ)
  | _, prev, none => .ok (prev, none)
  | 0, _, some _ => .error .diverges
  | n + 1, prev, some curr =>
    match l.deref (some curr) with
    | .error fault => .error fault
    | .ok (_, node) =>
      match l.read node.data with
      | .error fault => .error fault
      | .ok data =>
        if stop data then .ok (prev, some curr) else l.walkUntil stop n (some curr) node.next

/-- `curr != NULL && list->cmp(curr->data, data) == 0` -/
def present (cmp : α → α → ℤ) (l : LinkedCDT α) (data : α) :
    Option ℕ → Except ListFault Bool
  | none => .ok false
  | some curr =>
    match l.deref (some curr) with
    | .error fault => .error fault
    | .ok (_, node) =>
      match l.read node.data with
      | .error fault => .error fault
      | .ok x => .ok (cmp x data == 0)

/-- The end of `list_add`: the new node goes between `prev` and `curr`.  In
front of the first node `prev` is indeterminate. -/
def link (l : LinkedCDT α) (prev curr : Option ℕ) (aux : ℕ) :
    Except ListFault (LinkedCDT α) :=
  if curr = l.head then
    .ok { l with head := some aux, size := l.size + 1 }
  else
    match prev with
    | none => .error .indeterminate
    | some prev =>
      match l.deref (some prev) with
      | .error fault => .error fault
      | .ok (_, node) =>
        .ok
          { l with
            nodes := Function.update l.nodes prev (some { node with next := some aux })
            size := l.size + 1 }

/-- `list_add`; `aux` and `block` are the answers of `malloc`, and the second
component is `false` for the null pointer.  A node without a block is freed
again. -/
def listAdd (cmp : α → α → ℤ) (n : ℕ) (l : LinkedCDT α) (data : α) (aux block : Option ℕ) :
    Except ListFault (LinkedCDT α × Bool) :=
  match l.walkUntil (fun x => !decide (cmp x data < 0)) n none l.head with
  | .error fault => .error fault
  | .ok (prev, curr) =>
    match l.present cmp data curr with
    | .error fault => .error fault
    | .ok true => .ok (l, true)
    | .ok false =>
      match aux, block with
      | some aux, some block =>
        let l :=
          { l with
            nodes := Function.update l.nodes aux (some ⟨curr, block⟩)
            blocks := Function.update l.blocks block (some data) }
        match l.link prev curr aux with
        | .error fault => .error fault
        | .ok l => .ok (l, true)
      | _, _ => .ok (l, false)

/-- `free` of a block and of its node. -/
def release (l : LinkedCDT α) (node block : ℕ) : Except ListFault (LinkedCDT α) :=
  match l.blocks block with
  | none => .error .notAllocated
  | some _ =>
    match l.nodes node with
    | none => .error .notAllocated
    | some _ =>
      .ok
        { l with
          nodes := Function.update l.nodes node none
          blocks := Function.update l.blocks block none }

/-- The pointer to the removed node is replaced by the one to its successor. -/
def unlink (l : LinkedCDT α) (next : Option ℕ) : Option ℕ → Except ListFault (LinkedCDT α)
  | none => .ok { l with head := next }
  | some prev =>
    match l.deref (some prev) with
    | .error fault => .error fault
    | .ok (_, node) =>
      .ok { l with nodes := Function.update l.nodes prev (some { node with next := next }) }

/-- `list_remove` of the element that `data` points to; the second component is
`false` for the null pointer. -/
def listRemove (cmp : α → α → ℤ) (n : ℕ) (l : LinkedCDT α) (data : α) :
    Except ListFault (LinkedCDT α × Bool) :=
  if l.head = none then
    .ok (l, false)
  else
    match l.walkUntil (fun x => cmp x data == 0) n none l.head with
    | .error fault => .error fault
    | .ok (_, none) => .ok (l, true)
    | .ok (prev, some tmp) =>
      match l.deref (some tmp) with
      | .error fault => .error fault
      | .ok (_, node) =>
        match l.unlink node.next prev with
        | .error fault => .error fault
        | .ok l =>
          match l.release tmp node.data with
          | .error fault => .error fault
          | .ok l => .ok ({ l with size := l.size - 1 }, true)

/-- The loop of `list_free`. -/
def freeFrom : ℕ → LinkedCDT α → Option ℕ → Except ListFault (LinkedCDT α)
  | _, l, none => .ok l
  | 0, _, some _ => .error .diverges
  | n + 1, l, some tmp =>
    match l.deref (some tmp) with
    | .error fault => .error fault
    | .ok (_, node) =>
      match l.release tmp node.data with
      | .error fault => .error fault
      | .ok l => freeFrom n l node.next

/-- `list_free`, but for the block of the list itself. -/
def listFree (n : ℕ) (l : LinkedCDT α) : Except ListFault (LinkedCDT α) := freeFrom n l l.head

def listBeginIter (l : LinkedCDT α) : LinkedCDT α := { l with iter := some l.head }

def listHasNext (l : LinkedCDT α) : Except ListFault Bool :=
  match l.iter with
  | none => .error .indeterminate
  | some iter => .ok iter.isSome

/-- `list_get_next`: the pointer to the element, or the null pointer. -/
def listGetNext (l : LinkedCDT α) : Except ListFault (LinkedCDT α × Option ℕ) :=
  match l.iter with
  | none => .error .indeterminate
  | some none => .ok (l, none)
  | some (some iter) =>
    match l.deref (some iter) with
    | .error fault => .error fault
    | .ok (_, node) => .ok ({ l with iter := some node.next }, some node.data)

end Functions

/-! ## The list in memory -/

/-- A node, its block and the element in it. -/
structure Cell (α : Type) where
  node : ℕ
  block : ℕ
  data : α

/-- What a node holds of its cell. -/
def Cell.link {α : Type} (c : Cell α) : ℕ × ℕ := (c.node, c.block)

/-- The memory consists of the nodes and the blocks of `cells`. -/
structure Consists {α : Type} (l : LinkedCDT α) (cells : List (Cell α)) : Prop where
  nodes : Whole l.nodes l.head (cells.map Cell.link)
  blocks : ∀ b x, l.blocks b = some x ↔ ∃ c ∈ cells, c.block = b ∧ c.data = x
  nodupBlocks : (cells.map Cell.block).Nodup
  size : l.size = cells.length

section Representation

variable {α : Type} {l : LinkedCDT α} {cells done left : List (Cell α)} {c d : Cell α}
variable {stop : α → Bool} {cmp : α → α → ℤ} {data : α} {n : ℕ} {prev curr : Option ℕ}

theorem map_link_fst (cells : List (Cell α)) :
    (cells.map Cell.link).map Prod.fst = cells.map Cell.node := by
  rw [List.map_map]
  rfl

theorem head?_link_fst (cells : List (Cell α)) :
    (cells.map Cell.link).head?.map Prod.fst = cells.head?.map Cell.node := by
  rw [List.head?_map, Option.map_map]
  rfl

theorem listCreate_consists : (listCreate : LinkedCDT α).Consists [] where
  nodes := .nil
  blocks := by simp [listCreate]
  nodupBlocks := List.nodup_nil
  size := rfl

theorem deref_of_node {p : ℕ} {node : Node ℕ ℕ} (h : l.nodes p = some node) :
    l.deref (some p) = .ok (p, node) := by
  simp only [LinkedCDT.deref, h]

theorem release_of_allocated {a b : ℕ} (ha : l.nodes a ≠ none) (hb : l.blocks b ≠ none) :
    l.release a b = .ok { l with
      nodes := Function.update l.nodes a none
      blocks := Function.update l.blocks b none } := by
  obtain ⟨node, hnode⟩ := Option.ne_none_iff_exists'.mp ha
  obtain ⟨data, hdata⟩ := Option.ne_none_iff_exists'.mp hb
  simp only [LinkedCDT.release, hnode, hdata]

theorem Consists.head (h : l.Consists cells) : l.head = cells.head?.map Cell.node := by
  rw [h.nodes.segment.head, head?_link_fst]

theorem Consists.read (h : l.Consists cells) (hc : c ∈ cells) : l.read c.block = .ok c.data := by
  have hblock := (h.blocks c.block c.data).mpr ⟨c, hc, rfl, rfl⟩
  unfold LinkedCDT.read
  rw [hblock]

theorem Consists.deref (h : l.Consists cells) (hc : c ∈ cells) :
    ∃ next, l.deref (some c.node) = .ok (c.node, ⟨next, c.block⟩) := by
  obtain ⟨next, hnode⟩ := h.nodes.segment.node (List.mem_map_of_mem hc)
  exact ⟨next, deref_of_node hnode⟩

theorem getLast?_cons_node (c : Cell α) (cells : List (Cell α)) (prev : Option ℕ) :
    ((c :: cells).getLast?.map Cell.node).or prev =
      (cells.getLast?.map Cell.node).or (some c.node) := by
  rw [List.getLast?_cons]
  cases cells.getLast? with
  | none => rfl
  | some d => rfl

/-- The loop over the nodes is a search in the list of their elements. -/
theorem walkUntil_eq (hsegment : Segment l.nodes curr (cells.map Cell.link) none)
    (hread : ∀ c ∈ cells, l.read c.block = .ok c.data) (hn : cells.length ≤ n) :
    l.walkUntil stop n prev curr =
      .ok
        ((((cells.takeWhile fun c => !stop c.data).getLast?.map Cell.node).or prev),
          (cells.dropWhile fun c => !stop c.data).head?.map Cell.node) := by
  induction cells generalizing curr prev n with
  | nil =>
      rw [show curr = none from hsegment, walkUntil]
      rfl
  | cons c cells ih =>
      obtain ⟨rfl, next, hnode, hrest⟩ := hsegment
      obtain ⟨n, rfl⟩ : ∃ m, n = m + 1 := Nat.exists_eq_add_one.mpr (Nat.zero_lt_of_lt hn)
      have hderef : l.deref (some c.node) = .ok (c.node, ⟨next, c.block⟩) := deref_of_node hnode
      change l.walkUntil stop (n + 1) prev (some c.node) = _
      rw [walkUntil, hderef]
      dsimp only
      rw [hread c List.mem_cons_self]
      dsimp only
      by_cases hstop : stop c.data
      · rw [if_pos hstop, List.takeWhile_cons_of_neg (by simp [hstop]),
          List.dropWhile_cons_of_neg (by simp [hstop])]
        rfl
      · rw [if_neg hstop, ih hrest (fun d hd => hread d (List.mem_cons_of_mem _ hd))
          (Nat.le_of_succ_le_succ hn), List.takeWhile_cons_of_pos (by simp [hstop]),
          List.dropWhile_cons_of_pos (by simp [hstop]), getLast?_cons_node]

/-- What the loop does to the list: it divides its cells. -/
theorem Consists.walkUntil (h : l.Consists cells) (stop : α → Bool) (hn : cells.length ≤ n) :
    ∃ done left, cells = done ++ left ∧ (∀ d ∈ done, stop d.data = false) ∧
      (∀ d ∈ left.head?, stop d.data = true) ∧
      l.walkUntil stop n none l.head =
        .ok (done.getLast?.map Cell.node, left.head?.map Cell.node) := by
  refine ⟨cells.takeWhile fun c => !stop c.data, cells.dropWhile fun c => !stop c.data,
    (List.takeWhile_append_dropWhile ..).symm, ?_, ?_, ?_⟩
  · intro d hd
    simpa using List.mem_takeWhile_imp hd
  · intro d hd
    have hhead := List.head?_dropWhile_not (fun c => !stop c.data) cells
    rw [Option.mem_def.mp hd] at hhead
    simpa using hhead
  · rw [walkUntil_eq h.nodes.segment (fun c hc => h.read hc) hn, Option.or_none]

theorem Consists.fresh (h : l.Consists cells) {b : ℕ} (hb : l.blocks b = none) :
    ∀ d ∈ cells, d.block ≠ b := by
  rintro d hd rfl
  rw [(h.blocks _ d.data).mpr ⟨d, hd, rfl, rfl⟩] at hb
  cases hb

/-- A later part of the list does not start where the list starts. -/
theorem Consists.head_ne (h : l.Consists (done ++ left)) (hdone : done ≠ []) :
    left.head?.map Cell.node ≠ l.head := by
  rw [h.head]
  obtain ⟨d, init, rfl⟩ := List.exists_cons_of_ne_nil hdone
  have hnodup := h.nodes.nodup
  rw [map_link_fst, List.map_append, List.nodup_append] at hnodup
  rcases left with _ | ⟨e, left⟩
  · exact nofun
  · intro heq
    exact hnodup.2.2 d.node (by simp) e.node (by simp) (Option.some.inj heq).symm

/-- The blocks after an element has been put into a new one. -/
theorem Consists.store (h : l.Consists (done ++ left)) {block : ℕ} (hblock : l.blocks block = none)
    (aux : ℕ) (data : α) :
    (∀ b x, Function.update l.blocks block (some data) b = some x ↔
      ∃ d ∈ done ++ ⟨aux, block, data⟩ :: left, d.block = b ∧ d.data = x) ∧
      ((done ++ ⟨aux, block, data⟩ :: left).map Cell.block).Nodup := by
  have hperm : (done ++ ⟨aux, block, data⟩ :: left).Perm (⟨aux, block, data⟩ :: (done ++ left)) :=
    List.perm_middle
  constructor
  · intro b x
    simp only [hperm.mem_iff, List.mem_cons, exists_eq_or_imp]
    by_cases hb : b = block
    · subst hb
      rw [Function.update_self]
      refine ⟨fun hx => .inl ⟨rfl, Option.some.inj hx⟩, ?_⟩
      rintro (⟨-, rfl⟩ | ⟨d, hd, hdb, -⟩)
      · rfl
      · exact absurd hdb (h.fresh hblock d hd)
    · rw [Function.update_of_ne hb, h.blocks, or_iff_right fun hnew => hb hnew.1.symm]
  · rw [(hperm.map Cell.block).nodup_iff, List.map_cons, List.nodup_cons]
    refine ⟨?_, h.nodupBlocks⟩
    rw [List.mem_map]
    rintro ⟨d, hd, hdb⟩
    exact h.fresh hblock d hd hdb

/-- The new node is linked between the two parts of the list. -/
theorem Consists.link (h : l.Consists (done ++ left)) {aux block : ℕ}
    (haux : l.nodes aux = none) (hblock : l.blocks block = none) (data : α) :
    ∃ l', { l with
        nodes := Function.update l.nodes aux (some ⟨left.head?.map Cell.node, block⟩)
        blocks := Function.update l.blocks block (some data) }.link (done.getLast?.map Cell.node)
          (left.head?.map Cell.node) aux = .ok l' ∧
      l'.Consists (done ++ ⟨aux, block, data⟩ :: left) ∧ l'.iter = l.iter := by
  obtain ⟨hblocks, hnodup⟩ := h.store hblock aux data
  rcases List.eq_nil_or_concat done with rfl | ⟨init, c, rfl⟩
  · have hhead : l.head = left.head?.map Cell.node := h.head
    refine ⟨_, if_pos hhead.symm, ⟨?_, hblocks, hnodup, ?_⟩, rfl⟩
    · have hnodes := h.nodes.cons (x := block) haux
      rw [hhead] at hnodes
      exact hnodes
    · exact congrArg (· + 1) h.size
  · rw [List.concat_eq_append] at h hblocks hnodup ⊢
    have hnodes := h.nodes
    rw [List.append_assoc, List.singleton_append, List.map_append, List.map_cons] at hnodes
    obtain ⟨hc, hinsert⟩ := hnodes.insert (x := block) haux
    rw [head?_link_fst] at hc hinsert
    have hne : left.head?.map Cell.node ≠ l.head := h.head_ne (by simp)
    have hca : c.node ≠ aux := by
      rintro rfl
      rw [haux] at hc
      cases hc
    refine ⟨{ l with
        nodes := Function.update
          (Function.update l.nodes aux (some ⟨left.head?.map Cell.node, block⟩)) c.node
          (some ⟨some aux, c.block⟩)
        blocks := Function.update l.blocks block (some data)
        size := l.size + 1 }, ?_, ⟨?_, hblocks, hnodup, ?_⟩, rfl⟩
    · have hnode : Function.update l.nodes aux (some ⟨left.head?.map Cell.node, block⟩) c.node =
          some ⟨left.head?.map Cell.node, c.block⟩ := by
        rw [Function.update_of_ne hca]
        exact hc
      unfold LinkedCDT.link
      rw [if_neg hne, List.getLast?_concat, Option.map_some]
      dsimp only
      rw [deref_of_node hnode]
    · rw [List.append_assoc, List.singleton_append, List.map_append, List.map_cons, List.map_cons]
      exact hinsert
    · change l.size + 1 = _
      rw [h.size]
      simp only [List.length_append, List.length_cons]
      omega

/-- The blocks after the one of a cell has been freed. -/
theorem Consists.drop (h : l.Consists (done ++ c :: left)) :
    (∀ b x, Function.update l.blocks c.block none b = some x ↔
      ∃ d ∈ done ++ left, d.block = b ∧ d.data = x) ∧ ((done ++ left).map Cell.block).Nodup := by
  have hperm : (done ++ c :: left).Perm (c :: (done ++ left)) := List.perm_middle
  have hnodup := h.nodupBlocks
  rw [(hperm.map Cell.block).nodup_iff, List.map_cons, List.nodup_cons] at hnodup
  refine ⟨?_, hnodup.2⟩
  intro b x
  by_cases hb : b = c.block
  · subst hb
    rw [Function.update_self]
    refine iff_of_false nofun ?_
    rintro ⟨d, hd, hdb, -⟩
    exact hnodup.1 (hdb ▸ List.mem_map_of_mem hd)
  · rw [Function.update_of_ne hb, h.blocks]
    simp only [hperm.mem_iff, List.mem_cons, exists_eq_or_imp]
    exact or_iff_right fun hc => hb hc.1.symm

/-- The node that is taken out, and what its predecessor then leads to. -/
theorem Consists.unlink (h : l.Consists (done ++ c :: left)) :
    l.deref (some c.node) = .ok (c.node, ⟨left.head?.map Cell.node, c.block⟩) ∧
      ∃ l₁ l₂, l.unlink (left.head?.map Cell.node) (done.getLast?.map Cell.node) = .ok l₁ ∧
        l₁.release c.node c.block = .ok l₂ ∧ l₂.iter = l.iter ∧ l₂.size = l.size ∧
        { l₂ with size := l₂.size - 1 }.Consists (done ++ left) := by
  obtain ⟨hblocks, hnodup⟩ := h.drop
  have hblock : l.blocks c.block ≠ none := by
    rw [(h.blocks c.block c.data).mpr ⟨c, by simp, rfl, rfl⟩]
    exact Option.some_ne_none _
  have hsize : l.size - 1 = (done ++ left).length := by
    rw [h.size]
    simp only [List.length_append, List.length_cons]
    omega
  rcases List.eq_nil_or_concat done with rfl | ⟨init, d, rfl⟩
  · obtain ⟨-, hc, htail⟩ := h.nodes.tail
    rw [head?_link_fst] at hc htail
    refine ⟨deref_of_node hc, { l with head := left.head?.map Cell.node }, { l with
        nodes := Function.update l.nodes c.node none
        blocks := Function.update l.blocks c.block none
        head := left.head?.map Cell.node }, rfl, ?_, rfl, rfl, ⟨htail, hblocks, hnodup, hsize⟩⟩
    exact release_of_allocated (hc ▸ Option.some_ne_none _) hblock
  · rw [List.concat_eq_append] at h hblocks hnodup hsize ⊢
    have hnodes := h.nodes
    rw [List.append_assoc, List.singleton_append, List.map_append, List.map_cons,
      List.map_cons] at hnodes
    obtain ⟨hd, hc, hremove⟩ := hnodes.remove
    rw [head?_link_fst] at hc hremove
    refine ⟨deref_of_node hc, { l with
        nodes := Function.update l.nodes d.node (some ⟨left.head?.map Cell.node, d.block⟩) }, { l with
        nodes := Function.update (Function.update l.nodes d.node
          (some ⟨left.head?.map Cell.node, d.block⟩)) c.node none
        blocks := Function.update l.blocks c.block none }, ?_, ?_, rfl, rfl,
      ⟨?_, hblocks, hnodup, hsize⟩⟩
    · rw [List.getLast?_concat, Option.map_some, LinkedCDT.unlink, deref_of_node hd]
    · refine release_of_allocated ?_ hblock
      change Function.update l.nodes d.node _ c.node ≠ none
      by_cases hcd : c.node = d.node
      · rw [hcd, Function.update_self]
        exact Option.some_ne_none _
      · rw [Function.update_of_ne hcd]
        exact hc ▸ Option.some_ne_none _
    · rw [List.append_assoc, List.singleton_append, List.map_append, List.map_cons]
      exact hremove

/-! ### The functions on a list in memory -/

/-- The memory holds a list. -/
def Holds (l : LinkedCDT α) (list : ListCDT α) : Prop :=
  ∃ cells, l.Consists cells ∧ list = ⟨cells.map Cell.data, cells.length⟩

theorem listInsert_append {xs ys : List α} (hxs : ∀ x ∈ xs, cmp x data < 0)
    (hys : ∀ y ∈ ys.head?, ¬ cmp y data < 0) :
    listInsert cmp data (xs ++ ys) =
      if ∀ y ∈ ys.head?, cmp y data ≠ 0 then some (xs ++ data :: ys) else none := by
  induction xs with
  | nil =>
      rcases ys with _ | ⟨y, ys⟩
      · simp [listInsert]
      · have hy : ¬ cmp y data < 0 := hys y rfl
        by_cases heq : cmp y data = 0
        · simp [listInsert, heq]
        · simp [listInsert, hy, heq]
  | cons x xs ih =>
      have hx : cmp x data < 0 := hxs x List.mem_cons_self
      rw [List.cons_append, listInsert, if_pos hx,
        ih fun y hy => hxs y (List.mem_cons_of_mem _ hy)]
      split
      · rfl
      · rfl

theorem listErase_append {xs ys : List α} (hxs : ∀ x ∈ xs, cmp x data ≠ 0)
    (hys : ∀ y ∈ ys.head?, cmp y data = 0) :
    listErase cmp data (xs ++ ys) = if ys = [] then none else some (xs ++ ys.tail) := by
  induction xs with
  | nil =>
      rcases ys with _ | ⟨y, ys⟩
      · rfl
      · have hy : cmp y data = 0 := hys y rfl
        simp [listErase, hy]
  | cons x xs ih =>
      have hx : cmp x data ≠ 0 := hxs x List.mem_cons_self
      rw [List.cons_append, listErase, if_neg hx,
        ih fun y hy => hxs y (List.mem_cons_of_mem _ hy)]
      split
      · rfl
      · rfl

/-- Whether the loop of `list_add` stopped at the element itself. -/
theorem Consists.present (h : l.Consists (done ++ left)) (cmp : α → α → ℤ) (data : α) :
    l.present cmp data (left.head?.map Cell.node) =
      .ok (!decide (∀ d ∈ left.head?, cmp d.data data ≠ 0)) := by
  rcases left with _ | ⟨d, left⟩
  · simp [LinkedCDT.present]
  · have hd : d ∈ done ++ d :: left := by simp
    obtain ⟨next, hderef⟩ := h.deref hd
    rw [List.head?_cons, Option.map_some, LinkedCDT.present, hderef]
    dsimp only
    rw [h.read hd]
    by_cases heq : cmp d.data data = 0
    · simp [heq]
    · simp [heq]

theorem Holds.listAdd {list : ListCDT α} {aux block : Option ℕ} (h : l.Holds list)
    (hn : list.size ≤ n) (haux : ∀ a ∈ aux, l.nodes a = none)
    (hblock : ∀ b ∈ block, l.blocks b = none) (cmp : α → α → ℤ) (data : α) :
    ∃ l' r, l.listAdd cmp n data aux block = .ok (l', r) ∧ l'.iter = l.iter ∧
      l'.Holds (if aux.isSome ∧ block.isSome then Socks5Proxy.listAdd cmp list data else list) := by
  obtain ⟨cells, hl, rfl⟩ := h
  obtain ⟨done, left, rfl, hdone, hleft, hwalk⟩ :=
    hl.walkUntil (fun x => !decide (cmp x data < 0)) hn
  have hinsert : listInsert cmp data ((done ++ left).map Cell.data) =
      if ∀ d ∈ left.head?, cmp d.data data ≠ 0 then
        some (done.map Cell.data ++ data :: left.map Cell.data)
      else none := by
    rw [List.map_append, listInsert_append (by simpa using hdone) (by simpa using hleft)]
    simp
  have hpresent := hl.present cmp data
  unfold LinkedCDT.listAdd Socks5Proxy.listAdd
  rw [hwalk]
  dsimp only
  rw [hpresent, hinsert]
  by_cases hnew : ∀ d ∈ left.head?, cmp d.data data ≠ 0
  · rw [decide_eq_true hnew, if_pos hnew]
    rcases aux with _ | aux
    · exact ⟨l, false, rfl, rfl, _, hl, by simp⟩
    · rcases block with _ | block
      · exact ⟨l, false, rfl, rfl, _, hl, by simp⟩
      · obtain ⟨l', hlink, hl', hiter⟩ :=
          hl.link (haux aux rfl) (hblock block rfl) data
        refine ⟨l', true, ?_, hiter, _, hl', ?_⟩
        · rw [Bool.not_true]
          dsimp only
          rw [hlink]
        · simp [Nat.add_assoc]
  · rw [decide_eq_false hnew, if_neg hnew]
    refine ⟨l, true, rfl, rfl, _, hl, ?_⟩
    split
    · rfl
    · rfl

theorem Holds.listRemove {list : ListCDT α} (h : l.Holds list) (hn : list.size ≤ n)
    (cmp : α → α → ℤ) (data : α) :
    ∃ l', l.listRemove cmp n data = .ok (l', !list.nodes.isEmpty) ∧ l'.iter = l.iter ∧
      l'.Holds (Socks5Proxy.listRemove cmp list data) := by
  obtain ⟨cells, hl, rfl⟩ := h
  obtain ⟨done, left, rfl, hdone, hleft, hwalk⟩ := hl.walkUntil (fun x => cmp x data == 0) hn
  have herase : listErase cmp data ((done ++ left).map Cell.data) =
      if left = [] then none else some ((done ++ left.tail).map Cell.data) := by
    rw [List.map_append, listErase_append (by simpa using hdone) (by simpa using hleft)]
    simp
  unfold LinkedCDT.listRemove Socks5Proxy.listRemove
  rw [herase, hwalk]
  by_cases hempty : l.head = none
  · have hnil : done ++ left = [] := by
      rw [hl.head, Option.map_eq_none_iff, List.head?_eq_none_iff] at hempty
      exact hempty
    rw [if_pos hempty, if_pos (List.append_eq_nil_iff.mp hnil).2]
    exact ⟨l, by rw [hnil]; rfl, rfl, _, hl, rfl⟩
  · have hne : done ++ left ≠ [] := by
      intro hnil
      rw [hl.head, hnil] at hempty
      exact hempty rfl
    have hflag : (!((done ++ left).map Cell.data).isEmpty) = true := by
      simpa [List.isEmpty_iff] using hne
    rw [if_neg hempty, hflag]
    rcases left with _ | ⟨c, left⟩
    · exact ⟨l, rfl, rfl, _, hl, rfl⟩
    · obtain ⟨hderef, l₁, l₂, hunlink, hrelease, hiter, -, hl₂⟩ := hl.unlink
      refine ⟨{ l₂ with size := l₂.size - 1 }, ?_, hiter, _, hl₂, ?_⟩
      · rw [List.head?_cons, Option.map_some]
        dsimp only
        rw [hderef]
        dsimp only
        rw [hunlink]
        dsimp only
        rw [hrelease]
      · rw [if_neg (List.cons_ne_nil _ _)]
        simp

/-- Freeing the list leaves nothing allocated. -/
theorem freeFrom_eq {p : Option ℕ} (h : { l with head := p, size := cells.length }.Consists cells)
    (hn : cells.length ≤ n) :
    ∃ l', freeFrom n l p = .ok l' ∧ (∀ a, l'.nodes a = none) ∧ ∀ b, l'.blocks b = none := by
  induction cells generalizing l p n with
  | nil =>
      obtain rfl : p = none := h.head
      refine ⟨l, by rw [freeFrom], ?_, ?_⟩
      · intro a
        by_contra ha
        exact absurd (h.nodes.only a ha) List.not_mem_nil
      · intro b
        by_contra hb
        obtain ⟨x, hx⟩ := Option.ne_none_iff_exists'.mp hb
        obtain ⟨c, hc, -⟩ := (h.blocks b x).mp hx
        exact absurd hc List.not_mem_nil
  | cons c cells ih =>
      obtain rfl : p = some c.node := h.head
      obtain ⟨n, rfl⟩ : ∃ m, n = m + 1 := Nat.exists_eq_add_one.mpr (Nat.zero_lt_of_lt hn)
      obtain ⟨-, hc, htail⟩ := h.nodes.tail
      rw [head?_link_fst] at hc htail
      obtain ⟨hblocks, hnodup⟩ := @Consists.drop _ _ [] _ _ h
      have hblock : l.blocks c.block ≠ none := by
        rw [(h.blocks c.block c.data).mpr ⟨c, List.mem_cons_self, rfl, rfl⟩]
        exact Option.some_ne_none _
      have hnode : l.nodes c.node = some ⟨cells.head?.map Cell.node, c.block⟩ := hc
      rw [freeFrom, deref_of_node hnode]
      dsimp only
      rw [release_of_allocated (hnode ▸ Option.some_ne_none _) hblock]
      exact ih ⟨htail, hblocks, hnodup, rfl⟩ (Nat.le_of_succ_le_succ hn)

theorem Holds.listFree {list : ListCDT α} (h : l.Holds list) (hn : list.size ≤ n) :
    ∃ l', l.listFree n = .ok l' ∧ (∀ a, l'.nodes a = none) ∧ ∀ b, l'.blocks b = none := by
  obtain ⟨cells, hl, rfl⟩ := h
  have hcells : { l with head := l.head, size := cells.length }.Consists cells := by
    rw [← hl.size]
    exact hl
  exact freeFrom_eq hcells hn

/-! ### Iteration -/

/-- The iterator is at the first of the cells that are left, and these can be
read. -/
structure Iterates (l : LinkedCDT α) (cells : List (Cell α)) : Prop where
  iter : l.iter = some (cells.head?.map Cell.node)
  segment : Segment l.nodes (cells.head?.map Cell.node) (cells.map Cell.link) none
  read : ∀ c ∈ cells, l.read c.block = .ok c.data

theorem Consists.iterates (h : l.Consists cells) : l.listBeginIter.Iterates cells where
  iter := congrArg some h.head
  segment := by
    rw [← h.head]
    exact h.nodes.segment
  read := fun _ hc => h.read hc

theorem Iterates.hasNext_nil (h : l.Iterates []) : l.listHasNext = .ok false := by
  rw [listHasNext, h.iter]
  rfl

/-- One step of the iteration. -/
theorem Iterates.next (h : l.Iterates (c :: cells)) :
    l.listHasNext = .ok true ∧ ∃ l', l.listGetNext = .ok (l', some c.block) ∧
      l'.read c.block = .ok c.data ∧ l'.Iterates cells ∧ ∃ iter, l' = { l with iter := iter } := by
  have hiter : l.iter = some (some c.node) := h.iter
  obtain ⟨-, next, hnode, hrest⟩ := h.segment
  have hnext := hrest.head
  rw [head?_link_fst] at hnext
  refine ⟨by rw [listHasNext, hiter]; rfl, { l with iter := some next }, ?_,
    h.read c List.mem_cons_self, ⟨congrArg some hnext, ?_, ?_⟩, _, rfl⟩
  · rw [listGetNext, hiter]
    dsimp only
    rw [deref_of_node hnode]
  · rw [← hnext]
    exact hrest
  · exact fun d hd => h.read d (List.mem_cons_of_mem _ hd)

/-- The iterator is no part of the list. -/
theorem Consists.setIter (h : l.Consists cells) (iter : Option (Option ℕ)) :
    { l with iter := iter }.Consists cells := ⟨h.nodes, h.blocks, h.nodupBlocks, h.size⟩

/-- A write into the block of a cell changes the element there. -/
theorem Consists.write (h : l.Consists (done ++ c :: left)) (x : α) :
    { l with blocks := Function.update l.blocks c.block (some x) }.Consists
      (done ++ { c with data := x } :: left) := by
  have hmap : ∀ {β : Type} (f : Cell α → β), f { c with data := x } = f c →
      (done ++ { c with data := x } :: left).map f = (done ++ c :: left).map f := by
    intro β f hf
    rw [List.map_append, List.map_append, List.map_cons, List.map_cons, hf]
  obtain ⟨hblocks, hnodup⟩ := h.drop
  have hother : ∀ d ∈ done ++ left, d.block ≠ c.block := by
    intro d hd hdc
    have hcell := (hblocks c.block d.data).mpr ⟨d, hd, hdc, rfl⟩
    rw [Function.update_self] at hcell
    cases hcell
  refine ⟨?_, ?_, ?_, ?_⟩
  · rw [hmap Cell.link rfl]
    exact h.nodes
  · intro b y
    have hperm : (done ++ { c with data := x } :: left).Perm
        ({ c with data := x } :: (done ++ left)) := List.perm_middle
    simp only [hperm.mem_iff, List.mem_cons, exists_eq_or_imp]
    by_cases hb : b = c.block
    · subst hb
      rw [Function.update_self]
      refine ⟨fun hy => .inl ⟨rfl, Option.some.inj hy⟩, ?_⟩
      rintro (⟨-, rfl⟩ | ⟨d, hd, hdc, -⟩)
      · rfl
      · exact absurd hdc (hother d hd)
    · rw [Function.update_of_ne hb, or_iff_right fun hc => hb hc.1.symm, ← hblocks,
        Function.update_of_ne hb]
  · rw [hmap Cell.block rfl]
    exact h.nodupBlocks
  · rw [List.length_append, List.length_cons]
    exact h.size.trans (List.length_append ..)

end Representation

end LinkedCDT

end Socks5Proxy

import Socks5Proxy.Library.Fifo
import Socks5Proxy.Library.LinkedList
import Socks5Proxy.Library.Run

/-!
# The queue

`queue.c` keeps its elements in a singly linked list with pointers to both
ends.  The nodes are in a heap, and the block that holds a node's element is
part of the node.  Following a pointer that is null or has been freed is a
fault.  `enqueue` into a full queue evicts the oldest element with the new node
already built and not yet linked.

The queue is the reference queue of its capacity: for any run, whatever the
allocator does.
-/

namespace Socks5Proxy

open Library Library.LinkedList

inductive QueueFault
  | nullPointer
  | notAllocated
  deriving DecidableEq, Repr

/-- `QueueCDT`, without the cursor of the iteration.  `freeFn` says whether
there is one, and `freed` is what it has been called with. -/
structure Queue (α : Type) where
  nodes : ℕ → Option (Node ℕ α)
  first : Option ℕ
  last : Option ℕ
  maxCapacity : ℕ
  size : ℕ
  freeFn : Bool
  freed : List α

section Functions

variable {α : Type}

def createQueue (freeFn : Bool) (maxCapacity : ℕ) : Queue α where
  nodes := fun _ => none
  first := none
  last := none
  maxCapacity := maxCapacity
  size := 0
  freeFn := freeFn
  freed := []

/-- The node behind a pointer. -/
def Queue.deref (q : Queue α) : Option ℕ → Except QueueFault (ℕ × Node ℕ α)
  | none => .error .nullPointer
  | some p =>
    match q.nodes p with
    | none => .error .notAllocated
    | some node => .ok (p, node)

/-- `dequeue`.  The result is what was copied to the buffer, or `none` for the
null pointer that says the queue was empty. -/
def dequeue (q : Queue α) : Except QueueFault (Queue α × Option α) :=
  if q.size = 0 then
    .ok (q, none)
  else
    match q.deref q.first with
    | .error fault => .error fault
    | .ok (temp, node) =>
      .ok ({ q with
          nodes := Function.update q.nodes temp none
          first := node.next
          last := if node.next.isNone then none else q.last
          size := q.size - 1 }, some node.data)

def queuePeek (q : Queue α) : Except QueueFault (Option α) :=
  if q.size = 0 then
    .ok none
  else
    match q.deref q.first with
    | .error fault => .error fault
    | .ok (_, node) => .ok (some node.data)

def queueSize (q : Queue α) : ℕ := q.size

/-- The eviction of `enqueue`: `freeFn` on the oldest element and a `dequeue`
that copies it nowhere. -/
def Queue.evict (q : Queue α) : Except QueueFault (Queue α) :=
  if q.maxCapacity ≠ 0 ∧ q.size ≥ q.maxCapacity then
    match q.deref q.first with
    | .error fault => .error fault
    | .ok (_, node) =>
      let q := if q.freeFn then { q with freed := q.freed ++ [node.data] } else q
      match dequeue q with
      | .error fault => .error fault
      | .ok (q, _) => .ok q
  else
    .ok q

/-- The end of `enqueue`: the new node is linked behind the last one. -/
def Queue.link (q : Queue α) (newNode : ℕ) : Except QueueFault (Queue α) :=
  match q.last with
  | none =>
    .ok { q with
      first := some newNode
      last := some newNode
      size := q.size + 1 }
  | some last =>
    match q.deref (some last) with
    | .error fault => .error fault
    | .ok (_, node) =>
      .ok { q with
        nodes := Function.update q.nodes last (some { node with next := some newNode })
        last := some newNode
        size := q.size + 1 }

/-- `enqueue` of the element that `data` points to; `newNode` is the answer of
`malloc`.  The second component is `false` for the null pointer. -/
def enqueue (q : Queue α) (data : Option α) (newNode : Option ℕ) :
    Except QueueFault (Queue α × Bool) :=
  match data, newNode with
  | some data, some newNode =>
    let q := { q with nodes := Function.update q.nodes newNode (some ⟨none, data⟩) }
    match q.evict with
    | .error fault => .error fault
    | .ok q =>
      match q.link newNode with
      | .error fault => .error fault
      | .ok q => .ok (q, true)
  | _, _ => .ok (q, false)

/-- What is in the queue, the oldest element first. -/
def Queue.elements (q : Queue α) : List α := walk q.nodes q.size q.first

end Functions

/-! ## The list a queue consists of -/

section Representation

variable {α : Type} {q : Queue α} {cells : List (ℕ × α)} {x : α}

/-- The queue consists of `cells`. -/
structure Queue.Consists (q : Queue α) (cells : List (ℕ × α)) : Prop where
  linked : Linked q.nodes q.first q.last cells
  size : q.size = cells.length

theorem Queue.Consists.first_eq_none_iff (h : q.Consists cells) :
    q.first = none ↔ q.size = 0 := by
  rw [h.linked.first_eq_none_iff, h.size, List.length_eq_zero_iff]

theorem Queue.Consists.last_eq_none_iff (h : q.Consists cells) :
    q.last = none ↔ q.size = 0 := by
  rw [h.linked.last_eq_none_iff, h.size, List.length_eq_zero_iff]

theorem createQueue_consists (freeFn : Bool) (maxCapacity : ℕ) :
    (createQueue freeFn maxCapacity : Queue α).Consists [] where
  linked := .nil _
  size := rfl

/-- `queue->first` leads to the first of the cells. -/
theorem Queue.Consists.deref_first {a : ℕ} (h : q.Consists ((a, x) :: cells)) :
    ∃ next, q.deref q.first = .ok (a, ⟨next, x⟩) := by
  obtain ⟨hfirst, next, hnode, -⟩ := h.linked.pop
  refine ⟨next, ?_⟩
  rw [hfirst]
  simp only [Queue.deref, hnode]

theorem Queue.Consists.size_nil (h : q.Consists []) : q.size = 0 := h.size

theorem Queue.Consists.size_cons {cell : ℕ × α} (h : q.Consists (cell :: cells)) :
    q.size ≠ 0 := by
  rw [h.size, List.length_cons]
  exact Nat.succ_ne_zero _

theorem Queue.Consists.dequeue_nil (h : q.Consists []) : dequeue q = .ok (q, none) := by
  rw [dequeue, if_pos h.size_nil]

/-- What `dequeue` does to a queue that is not empty. -/
theorem Queue.Consists.dequeue_cons {a : ℕ} (h : q.Consists ((a, x) :: cells)) :
    ∃ q', dequeue q = .ok (q', some x) ∧ q'.Consists cells ∧ q'.maxCapacity = q.maxCapacity ∧
      q'.freeFn = q.freeFn ∧ q'.freed = q.freed ∧ ∀ b, b ≠ a → q'.nodes b = q.nodes b := by
  obtain ⟨hfirst, next, hnode, hlinked⟩ := h.linked.pop
  refine ⟨{ q with
      nodes := Function.update q.nodes a none
      first := next
      last := if next.isNone then none else q.last
      size := q.size - 1 }, ?_, ⟨hlinked, ?_⟩, rfl, rfl, rfl, ?_⟩
  · rw [dequeue, if_neg h.size_cons, hfirst]
    simp only [Queue.deref, hnode]
  · simp [h.size]
  · intro b hba
    exact Function.update_of_ne hba _ _

theorem Queue.Consists.peek (h : q.Consists cells) :
    queuePeek q = .ok (cells.map Prod.snd).head? := by
  rcases cells with _ | ⟨⟨a, x⟩, cells⟩
  · rw [queuePeek, if_pos h.size_nil]
    rfl
  · obtain ⟨next, hderef⟩ := h.deref_first
    rw [queuePeek, if_neg h.size_cons, hderef]
    rfl

/-- An unrelated node in the heap. -/
theorem Queue.Consists.allocate (h : q.Consists cells) {newNode : ℕ}
    (hfree : q.nodes newNode = none) (node : Option (Node ℕ α)) :
    newNode ∉ cells.map Prod.fst ∧
      { q with nodes := Function.update q.nodes newNode node }.Consists cells := by
  have hmem : newNode ∉ cells.map Prod.fst := fun ha => h.linked.segment.allocated ha hfree
  exact ⟨hmem, h.linked.update hmem node, h.size⟩

/-- The eviction drops the oldest element if the queue is full, whether or not
it is the only one. -/
theorem Queue.Consists.evict (h : q.Consists cells) {newNode : ℕ}
    (hmem : newNode ∉ cells.map Prod.fst) :
    ∃ q', q.evict = .ok q' ∧
      q'.Consists (if Fifo.Full q.maxCapacity cells then cells.tail else cells) ∧
      q'.maxCapacity = q.maxCapacity ∧ q'.freeFn = q.freeFn ∧
      q'.freed = q.freed ++
        (if Fifo.Full q.maxCapacity cells ∧ q.freeFn then (cells.map Prod.snd).take 1 else []) ∧
      q'.nodes newNode = q.nodes newNode := by
  have hfull : (q.maxCapacity ≠ 0 ∧ q.size ≥ q.maxCapacity) ↔ Fifo.Full q.maxCapacity cells := by
    rw [h.size]
    exact Iff.rfl
  by_cases hevict : Fifo.Full q.maxCapacity cells
  · rcases cells with _ | ⟨⟨a, x⟩, cells⟩
    · exact absurd (Nat.le_zero.mp hevict.2) hevict.1
    · obtain ⟨next, hderef⟩ := h.deref_first
      have hnotify : (if q.freeFn then { q with freed := q.freed ++ [x] } else q).Consists
          ((a, x) :: cells) := by
        split_ifs
        · exact ⟨h.linked, h.size⟩
        · exact h
      obtain ⟨q', hdequeue, hq', hcapacity, hfreeFn, hfreed, hnodes⟩ := hnotify.dequeue_cons
      have hne : newNode ≠ a := fun hna => hmem (by simp [hna])
      refine ⟨q', ?_, by rwa [if_pos hevict], ?_, ?_, ?_, ?_⟩
      · rw [Queue.evict, if_pos (hfull.mpr hevict), hderef]
        dsimp only
        rw [hdequeue]
      · rw [hcapacity]
        split_ifs <;> rfl
      · rw [hfreeFn]
        split_ifs <;> rfl
      · rw [hfreed]
        rcases hfn : q.freeFn with _ | _
        · simp
        · simp [hevict]
      · rw [hnodes newNode hne]
        split_ifs <;> rfl
  · refine ⟨q, ?_, by rwa [if_neg hevict], rfl, rfl, ?_, rfl⟩
    · rw [Queue.evict, if_neg (fun hsize => hevict (hfull.mp hsize))]
    · rw [if_neg (fun hboth => hevict hboth.1), List.append_nil]

/-- The new node becomes the last one, also of a list that was empty. -/
theorem Queue.Consists.link (h : q.Consists cells) {newNode : ℕ}
    (hmem : newNode ∉ cells.map Prod.fst) (hnode : q.nodes newNode = some ⟨none, x⟩) :
    ∃ q', q.link newNode = .ok q' ∧ q'.Consists (cells ++ [(newNode, x)]) ∧
      q'.maxCapacity = q.maxCapacity ∧ q'.freeFn = q.freeFn ∧ q'.freed = q.freed := by
  rcases hlast : q.last with _ | last
  · have hnil : cells = [] := h.linked.last_eq_none_iff.mp hlast
    subst hnil
    refine ⟨{ q with
        first := some newNode
        last := some newNode
        size := q.size + 1 }, ?_, ⟨.single hnode, ?_⟩, rfl, rfl, rfl⟩
    · rw [Queue.link, hlast]
    · change q.size + 1 = 1
      rw [h.size_nil]
  · have hlinked := h.linked
    rw [hlast] at hlinked
    obtain ⟨y, hlastnode, hpush⟩ := hlinked.push hmem hnode
    refine ⟨{ q with
        nodes := Function.update q.nodes last (some ⟨some newNode, y⟩)
        last := some newNode
        size := q.size + 1 }, ?_, ⟨hpush, ?_⟩, rfl, rfl, rfl⟩
    · rw [Queue.link, hlast]
      simp only [Queue.deref, hlastnode]
    · rw [List.length_append]
      exact congrArg (· + 1) h.size

/-- `enqueue` drops the oldest element of a full queue and adds the new one at
the end. -/
theorem Queue.Consists.enqueue (h : q.Consists cells) {newNode : ℕ}
    (hfree : q.nodes newNode = none) (x : α) :
    ∃ q', enqueue q (some x) (some newNode) = .ok (q', true) ∧
      q'.Consists ((if Fifo.Full q.maxCapacity cells then cells.tail else cells) ++
        [(newNode, x)]) ∧
      q'.maxCapacity = q.maxCapacity ∧ q'.freeFn = q.freeFn ∧
      q'.freed = q.freed ++
        (if Fifo.Full q.maxCapacity cells ∧ q.freeFn then (cells.map Prod.snd).take 1 else []) := by
  obtain ⟨hmem, hq⟩ := h.allocate hfree (some ⟨none, x⟩)
  obtain ⟨q₁, hevict, hq₁, hcapacity₁, hfreeFn₁, hfreed₁, hnode₁⟩ := hq.evict hmem
  dsimp only at hq₁ hcapacity₁ hfreeFn₁ hfreed₁ hnode₁
  rw [Function.update_self] at hnode₁
  have hsuffix : (if Fifo.Full q.maxCapacity cells then cells.tail else cells) <:+ cells := by
    split_ifs
    · exact List.tail_suffix cells
    · exact List.suffix_rfl
  have hmem₁ : newNode ∉
      (if Fifo.Full q.maxCapacity cells then cells.tail else cells).map Prod.fst :=
    fun hp => hmem ((hsuffix.sublist.map Prod.fst).subset hp)
  obtain ⟨q₂, hlink, hq₂, hcapacity₂, hfreeFn₂, hfreed₂⟩ := hq₁.link hmem₁ hnode₁
  refine ⟨q₂, ?_, hq₂, hcapacity₂.trans hcapacity₁, hfreeFn₂.trans hfreeFn₁,
    hfreed₂.trans hfreed₁⟩
  simp only [Socks5Proxy.enqueue, hevict, hlink]

/-- Following the pointers from `first` finds the elements of the queue. -/
theorem Queue.Consists.elements (h : q.Consists cells) : q.elements = cells.map Prod.snd := by
  rw [Queue.elements, h.size]
  exact h.linked.segment.walk

end Representation

/-! ## Runs -/

section Runs

variable {α : Type} {q : Queue α} {cells : List (ℕ × α)}

inductive QueueOp (α : Type)
  | enqueue (data : α) (newNode : Option ℕ)
  | dequeue
  | queuePeek

/-- The operation of the reference queue. -/
def QueueOp.reference : QueueOp α → Fifo.Op α
  | .enqueue data _ => .push data
  | .dequeue => .pop
  | .queuePeek => .peek

/-- The queue and what `dequeue` and `queue_peek` have returned. -/
structure QueueRun (α : Type) where
  queue : Queue α
  answers : List (Option α)

def QueueRun.new (freeFn : Bool) (maxCapacity : ℕ) : QueueRun α :=
  ⟨createQueue freeFn maxCapacity, []⟩

def queueStep (r : QueueRun α) : QueueOp α → Except QueueFault (QueueRun α)
  | .enqueue data newNode =>
    match enqueue r.queue (some data) newNode with
    | .error fault => .error fault
    | .ok (q, _) => .ok { r with queue := q }
  | .dequeue =>
    match dequeue r.queue with
    | .error fault => .error fault
    | .ok (q, answer) => .ok ⟨q, r.answers ++ [answer]⟩
  | .queuePeek =>
    match queuePeek r.queue with
    | .error fault => .error fault
    | .ok answer => .ok { r with answers := r.answers ++ [answer] }

/-- The allocation succeeds, with any address that is not in use. -/
def Allocates (r : QueueRun α) : QueueOp α → Prop
  | .enqueue _ newNode => ∃ p, newNode = some p ∧ r.queue.nodes p = none
  | .dequeue => True
  | .queuePeek => True

/-- The run is where the reference queue is. -/
structure QueueRun.Follows (notifies : Bool) (maxCapacity : ℕ) (r : QueueRun α)
    (f : Fifo.State α) (cells : List (ℕ × α)) : Prop where
  consists : r.queue.Consists cells
  contents : cells.map Prod.snd = f.contents
  capacity : r.queue.maxCapacity = maxCapacity
  bounded : maxCapacity ≠ 0 → cells.length ≤ maxCapacity
  answers : r.answers = f.answers
  freeFn : r.queue.freeFn = notifies
  freed : r.queue.freed = if notifies then f.dropped else []

variable {r : QueueRun α} {f : Fifo.State α} {notifies : Bool} {maxCapacity : ℕ}

theorem QueueRun.Follows.new :
    (QueueRun.new notifies maxCapacity : QueueRun α).Follows notifies maxCapacity .new [] where
  consists := createQueue_consists notifies maxCapacity
  contents := rfl
  capacity := rfl
  bounded _ := Nat.zero_le _
  answers := rfl
  freeFn := rfl
  freed := (ite_self _).symm

theorem QueueRun.Follows.full_iff (h : r.Follows notifies maxCapacity f cells) :
    Fifo.Full r.queue.maxCapacity cells ↔ Fifo.Full maxCapacity f.contents := by
  rw [h.capacity, ← h.contents, Fifo.Full, Fifo.Full, List.length_map]

/-- What is left of the cells after the eviction is what the reference queue
keeps. -/
theorem QueueRun.Follows.makeRoom (h : r.Follows notifies maxCapacity f cells)
    {rest : List (ℕ × α)}
    (hrest : (if Fifo.Full r.queue.maxCapacity cells then cells.tail else cells) = rest) :
    rest.map Prod.snd = (f.makeRoom maxCapacity).contents ∧
      (maxCapacity ≠ 0 → rest.length < maxCapacity) ∧
      (f.makeRoom maxCapacity).answers = f.answers ∧
      (f.makeRoom maxCapacity).dropped = f.dropped ++
        if Fifo.Full r.queue.maxCapacity cells then (cells.map Prod.snd).take 1 else [] := by
  have hcontents : rest.map Prod.snd = (f.makeRoom maxCapacity).contents := by
    rw [← hrest, Fifo.State.makeRoom]
    simp only [h.full_iff]
    split_ifs
    · rw [List.map_tail, h.contents]
    · exact h.contents
  refine ⟨hcontents, ?_, ?_, ?_⟩
  · intro hcapacity
    have hbounded := h.bounded hcapacity
    rw [← List.length_map Prod.snd, h.contents] at hbounded
    rw [← List.length_map Prod.snd, hcontents]
    exact Fifo.State.length_makeRoom_lt hcapacity hbounded
  · rw [Fifo.State.makeRoom]
    split_ifs <;> rfl
  · rw [Fifo.State.makeRoom, h.contents]
    simp only [h.full_iff]
    split_ifs
    · rfl
    · exact (List.append_nil _).symm

theorem QueueRun.Follows.enqueue (h : r.Follows notifies maxCapacity f cells) (data : α) {p : ℕ}
    (hfree : r.queue.nodes p = none) :
    ∃ r', queueStep r (.enqueue data (some p)) = .ok r' ∧
      ∃ cells', r'.Follows notifies maxCapacity (f.step maxCapacity (.push data)) cells' := by
  obtain ⟨q, henqueue, hq, hcapacity, hfreeFn, hfreed⟩ := h.consists.enqueue hfree data
  generalize hrest : (if Fifo.Full r.queue.maxCapacity cells then cells.tail else cells) = rest
    at hq
  obtain ⟨hcontents, hroom, hanswers, hdropped⟩ := h.makeRoom hrest
  refine ⟨{ r with queue := q }, ?_, rest ++ [(p, data)], hq, ?_, ?_, ?_, ?_, ?_, ?_⟩
  · simp only [queueStep, henqueue]
  · rw [List.map_append, hcontents]
    rfl
  · rw [hcapacity, h.capacity]
  · intro hne
    have hlt := hroom hne
    rw [List.length_append, List.length_singleton]
    exact hlt
  · exact h.answers.trans hanswers.symm
  · rw [hfreeFn, h.freeFn]
  · change q.freed = if notifies then (f.makeRoom maxCapacity).dropped else []
    rw [hfreed, hdropped, h.freed, h.freeFn]
    rcases notifies with _ | _
    · simp
    · simp

theorem QueueRun.Follows.dequeue (h : r.Follows notifies maxCapacity f cells) :
    ∃ r', queueStep r .dequeue = .ok r' ∧
      ∃ cells', r'.Follows notifies maxCapacity (f.step maxCapacity .pop) cells' := by
  have hanswer : f.answers ++ [f.contents.head?] =
      r.answers ++ [(cells.map Prod.snd).head?] := by
    rw [h.answers, h.contents]
  rcases cells with _ | ⟨⟨a, x⟩, cells⟩
  · refine ⟨⟨r.queue, r.answers ++ [none]⟩, ?_, [], h.consists, ?_, h.capacity, h.bounded,
      hanswer.symm, h.freeFn, h.freed⟩
    · simp only [queueStep, h.consists.dequeue_nil]
    · change _ = f.contents.tail
      rw [← h.contents]
      rfl
  · obtain ⟨q', hdequeue, hq', hcapacity, hfreeFn, hfreed, -⟩ := h.consists.dequeue_cons
    refine ⟨⟨q', r.answers ++ [some x]⟩, ?_, cells, hq', ?_, hcapacity.trans h.capacity, ?_,
      hanswer.symm, hfreeFn.trans h.freeFn, hfreed.trans h.freed⟩
    · simp only [queueStep, hdequeue]
    · change _ = f.contents.tail
      rw [← h.contents]
      rfl
    · intro hne
      exact Nat.le_of_succ_le (h.bounded hne)

theorem QueueRun.Follows.peek (h : r.Follows notifies maxCapacity f cells) :
    ∃ r', queueStep r .queuePeek = .ok r' ∧
      ∃ cells', r'.Follows notifies maxCapacity (f.step maxCapacity .peek) cells' := by
  refine ⟨{ r with answers := r.answers ++ [(cells.map Prod.snd).head?] }, ?_, cells,
    h.consists, h.contents, h.capacity, h.bounded, ?_, h.freeFn, h.freed⟩
  · simp only [queueStep, h.consists.peek]
  · change _ = f.answers ++ [f.contents.head?]
    rw [h.answers, h.contents]

/-- In every run the queue follows the reference queue: it holds its elements,
gives its answers and never follows a bad pointer. -/
theorem queue_follows (ops : List (QueueOp α))
    (halloc : Steps queueStep Allocates (QueueRun.new notifies maxCapacity) ops) :
    ∃ r, run queueStep (QueueRun.new notifies maxCapacity) ops = .ok r ∧ ∃ cells,
      r.Follows notifies maxCapacity
        ((ops.map QueueOp.reference).foldl (Fifo.State.step maxCapacity) .new) cells := by
  refine run_refines (R := fun r f => ∃ cells, r.Follows notifies maxCapacity f cells) ?_
    ⟨[], .new⟩ halloc
  rintro r f op ⟨cells, h⟩ hallocates
  rcases op with ⟨data, newNode⟩ | - | -
  · obtain ⟨p, rfl, hfree⟩ := hallocates
    exact h.enqueue data hfree
  · exact h.dequeue
  · exact h.peek

/-- The reference queue after the same operations. -/
def referenceRun (maxCapacity : ℕ) (ops : List (QueueOp α)) : Fifo.State α :=
  (ops.map QueueOp.reference).foldl (Fifo.State.step maxCapacity) .new

/-- The queue as it stands after a run, compared with the reference queue. -/
structure QueueRun.Refines (maxCapacity : ℕ) (r : QueueRun α) (f : Fifo.State α)
    (cells : List (ℕ × α)) : Prop where
  linked : Segment r.queue.nodes r.queue.first cells none
  distinct : (cells.map Prod.fst).Nodup
  elements : cells.map Prod.snd = f.contents
  answers : r.answers = f.answers
  size : r.queue.size = cells.length
  bounded : maxCapacity ≠ 0 → r.queue.size ≤ maxCapacity
  last : r.queue.last = lastAddress cells
  first_eq_none_iff : r.queue.first = none ↔ r.queue.size = 0
  last_eq_none_iff : r.queue.last = none ↔ r.queue.size = 0

/-- `queue.c` refines the bounded queue that evicts its oldest element. -/
theorem queue_refines_fifo (freeFn : Bool) (maxCapacity : ℕ) (ops : List (QueueOp α))
    (halloc : Steps queueStep Allocates (QueueRun.new freeFn maxCapacity) ops) :
    ∃ r cells, run queueStep (QueueRun.new freeFn maxCapacity) ops = .ok r ∧
      r.Refines maxCapacity (referenceRun maxCapacity ops) cells := by
  obtain ⟨r, hrun, cells, h⟩ := queue_follows ops halloc
  refine ⟨r, cells, hrun, h.consists.linked.segment, h.consists.linked.nodup, h.contents,
    h.answers, h.consists.size, ?_, h.consists.linked.last, h.consists.first_eq_none_iff,
    h.consists.last_eq_none_iff⟩
  intro hne
  rw [h.consists.size]
  exact h.bounded hne

/-- The evicted node is the only one, and its address is used again. -/
theorem queue_refines_fifo_one :
    ∃ r cells, run queueStep (QueueRun.new true 1) [.enqueue 'a' (some 7), .enqueue 'b' (some 8),
        .queuePeek, .dequeue, .enqueue 'c' (some 7), .dequeue, .dequeue] = .ok r ∧
      r.Refines 1 ⟨[], ['a'], [some 'b', some 'b', some 'c', none]⟩ cells :=
  queue_refines_fifo true 1 [.enqueue 'a' (some 7), .enqueue 'b' (some 8), .queuePeek, .dequeue,
      .enqueue 'c' (some 7), .dequeue, .dequeue]
    (.cons ⟨7, rfl, rfl⟩ rfl (.cons ⟨8, rfl, rfl⟩ rfl (.cons trivial rfl (.cons trivial rfl
      (.cons ⟨7, rfl, rfl⟩ rfl (.cons trivial rfl (.single trivial)))))))

end Runs

end Socks5Proxy

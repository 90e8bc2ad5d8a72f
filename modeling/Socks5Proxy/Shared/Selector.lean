import Mathlib.Data.Int.Notation
import Mathlib.Data.Nat.Notation
import Mathlib.Data.List.Basic
import Mathlib.Tactic.Common

/-!
# The selector's registration table

`selector.c` keeps one item per descriptor, the two prototype descriptor sets
that `pselect` starts from, and the largest registered descriptor.  The
handler and the data of an item are pointers the selector never looks into, so
they are type parameters.

`interestOf` reads a registration back.  What the connection handlers need
from the table is how each operation changes `interestOf`.
-/

namespace Socks5Proxy

/-- `FdInterest`: a mask with the bits `OP_READ` and `OP_WRITE`. -/
structure FdInterest where
  read : Bool
  write : Bool
  deriving DecidableEq, Inhabited, Repr

namespace FdInterest

def opNoop : FdInterest := ⟨false, false⟩
def opRead : FdInterest := ⟨true, false⟩
def opWrite : FdInterest := ⟨false, true⟩

/-- The mask `a | b`. -/
def union (a b : FdInterest) : FdInterest := ⟨a.read || b.read, a.write || b.write⟩

/-- The mask `a & ~b`. -/
def off (a b : FdInterest) : FdInterest := ⟨a.read && !b.read, a.write && !b.write⟩

end FdInterest

inductive SelectorStatus
  | success
  | enomem
  | maxfd
  | iargs
  | fdinuse
  | io
  deriving DecidableEq, Repr

/-- `struct item`; a null pointer is `none`. -/
structure Item (η δ : Type) where
  fd : ℤ
  interest : FdInterest
  handler : Option η
  data : Option δ
  deriving DecidableEq, Repr

def fdUnused : ℤ := -1

def Item.used {η δ : Type} (item : Item η δ) : Bool := item.fd != fdUnused

/-- An item after `memset` and `item_init`. -/
def Item.blank {η δ : Type} : Item η δ :=
  { fd := fdUnused
    interest := .opNoop
    handler := none
    data := none }

/-- `FD_SETSIZE`, which is also `ITEMS_MAX_SIZE`. -/
def fdSetsize : ℕ := 1024

/-- `struct fdselector`.  `fd_size` is the length of `fds`, and a descriptor
set is its membership test. -/
structure FdSelector (η δ : Type) where
  fds : List (Item η δ)
  maxFd : ℤ
  masterR : ℤ → Bool
  masterW : ℤ → Bool
  slaveR : ℤ → Bool
  slaveW : ℤ → Bool
  resolutionJobs : List ℤ
  deriving Inhabited

section Operations

variable {η δ : Type}

/-- The item `s->fds + fd`. -/
def FdSelector.item (s : FdSelector η δ) (fd : ℤ) : Item η δ :=
  s.fds.getD fd.toNat Item.blank

def FdSelector.setItem (s : FdSelector η δ) (fd : ℤ) (item : Item η δ) :
    FdSelector η δ :=
  { s with fds := s.fds.set fd.toNat item }

def invalidFd (fd : ℤ) : Bool := decide (fd < 0) || decide ((fdSetsize : ℤ) ≤ fd)

/-- The bits of `tmp` counted by the loop of `next_capacity`. -/
def nextCapacityBits (fuel tmp : ℕ) : ℕ :=
  match fuel with
  | 0 => 0
  | fuel + 1 => if tmp ≠ 0 then nextCapacityBits fuel (tmp / 2) + 1 else 0

def nextCapacity (n : ℕ) : ℕ :=
  let tmp := 1 <<< nextCapacityBits (n + 1) n
  (if tmp > fdSetsize then fdSetsize else tmp) + 1

/-- `ensure_capacity`; `alloc` says whether the allocation succeeds. -/
def ensureCapacity (s : FdSelector η δ) (n : ℕ) (alloc : Bool) :
    FdSelector η δ × SelectorStatus :=
  if n < s.fds.length then
    (s, .success)
  else if n > fdSetsize then
    (s, .maxfd)
  else if alloc then
    ({ s with
        fds := s.fds ++ List.replicate (nextCapacity n - s.fds.length) Item.blank },
      .success)
  else
    (s, .enomem)

def itemsMaxFd (s : FdSelector η δ) : ℤ :=
  (List.range (s.maxFd + 1).toNat).foldl
    (fun max i =>
      let item := s.item i
      if item.used && decide (item.fd > max) then item.fd else max) 0

def itemsUpdateFdsetForFd (s : FdSelector η δ) (item : Item η δ) : FdSelector η δ :=
  { s with
    masterR := fun fd =>
      if fd = item.fd then item.used && item.interest.read else s.masterR fd
    masterW := fun fd =>
      if fd = item.fd then item.used && item.interest.write else s.masterW fd }

def selectorRegister (s : FdSelector η δ) (fd : ℤ) (handler : Option η)
    (interest : FdInterest) (data : Option δ) (alloc : Bool) :
    FdSelector η δ × SelectorStatus :=
  if invalidFd fd || handler.isNone then
    (s, .iargs)
  else
    let (s, ret) :=
      if fd.toNat > s.fds.length then ensureCapacity s fd.toNat alloc else (s, .success)
    if ret ≠ .success then
      (s, ret)
    else if (s.item fd).used then
      (s, .fdinuse)
    else
      let item : Item η δ :=
        { fd := fd
          interest := interest
          handler := handler
          data := data }
      let s := s.setItem fd item
      let s := { s with maxFd := if fd > s.maxFd then fd else s.maxFd }
      (itemsUpdateFdsetForFd s item, .success)

/-- The common end of the two unregister functions: clear the interest, update
the sets, blank the item and recompute `max_fd`. -/
def selectorClearItem (s : FdSelector η δ) (fd : ℤ) : FdSelector η δ :=
  let s := itemsUpdateFdsetForFd s { s.item fd with interest := .opNoop }
  let s := s.setItem fd Item.blank
  { s with maxFd := itemsMaxFd s }

def selectorUnregisterFdWithoutClosing (s : FdSelector η δ) (fd : ℤ) :
    FdSelector η δ × SelectorStatus :=
  if invalidFd fd then
    (s, .iargs)
  else if !(s.item fd).used then
    (s, .iargs)
  else
    (selectorClearItem s fd, .success)

def selectorSetInterest (s : FdSelector η δ) (fd : ℤ) (i : FdInterest) :
    FdSelector η δ × SelectorStatus :=
  if invalidFd fd then
    (s, .iargs)
  else if !(s.item fd).used then
    (s, .iargs)
  else
    let item := { s.item fd with interest := i }
    (itemsUpdateFdsetForFd (s.setItem fd item) item, .success)

/-- `selector_notify_block`: the finished job is put in front of the list. -/
def selectorNotifyBlock (s : FdSelector η δ) (fd : ℤ) : FdSelector η δ :=
  { s with resolutionJobs := fd :: s.resolutionJobs }

/-- The interest a descriptor is registered with, if it is registered. -/
def FdSelector.interestOf (s : FdSelector η δ) (fd : ℤ) : Option FdInterest :=
  if !invalidFd fd && (s.item fd).used then some (s.item fd).interest else none

/-- The data a descriptor is registered with. -/
def FdSelector.dataOf (s : FdSelector η δ) (fd : ℤ) : Option δ :=
  if !invalidFd fd && (s.item fd).used then (s.item fd).data else none

end Operations

/-! ## Reading registrations back -/

section Interests

variable {η δ : Type} {s : FdSelector η δ} {fd fd' : ℤ} {i : FdInterest}

theorem item_congr {t : FdSelector η δ} (h : t.fds = s.fds) (fd : ℤ) :
    t.item fd = s.item fd := by
  simp [FdSelector.item, h]

theorem interestOf_congr {t : FdSelector η δ} (h : t.fds = s.fds) (fd : ℤ) :
    t.interestOf fd = s.interestOf fd := by
  simp [FdSelector.interestOf, item_congr h]

@[simp] theorem interestOf_itemsUpdateFdsetForFd (item : Item η δ) :
    (itemsUpdateFdsetForFd s item).interestOf fd = s.interestOf fd :=
  interestOf_congr rfl fd

@[simp] theorem interestOf_maxFd (m : ℤ) :
    ({ s with maxFd := m } : FdSelector η δ).interestOf fd = s.interestOf fd :=
  interestOf_congr rfl fd

theorem invalidFd_eq_false_iff :
    invalidFd fd = false ↔ 0 ≤ fd ∧ fd < fdSetsize := by
  simp [invalidFd]

/-- A valid descriptor indexes every table of `FD_SETSIZE` slots. -/
theorem toNat_lt_of_valid {n : ℕ} (hvalid : invalidFd fd = false) (htable : fdSetsize ≤ n) :
    fd.toNat < n := by
  rw [invalidFd_eq_false_iff] at hvalid
  omega

theorem ne_neg_one_of_valid (hvalid : invalidFd fd = false) : fd ≠ -1 := by
  rw [invalidFd_eq_false_iff] at hvalid
  omega

theorem item_setItem_self {item : Item η δ} (h : fd.toNat < s.fds.length) :
    (s.setItem fd item).item fd = item := by
  simp [FdSelector.item, FdSelector.setItem, List.getD_eq_getElem?_getD, h]

theorem item_setItem_of_ne {item : Item η δ} (h : fd.toNat ≠ fd'.toNat) :
    (s.setItem fd item).item fd' = s.item fd' := by
  simp [FdSelector.item, FdSelector.setItem, List.getD_eq_getElem?_getD,
    List.getElem?_set_ne h]

/-- A used item lies inside the table. -/
theorem lt_length_of_used (h : (s.item fd).used = true) : fd.toNat < s.fds.length := by
  by_contra hlen
  have hblank : s.item fd = Item.blank := by
    simp [FdSelector.item, List.getD_eq_getElem?_getD, List.getElem?_eq_none (Nat.not_lt.mp hlen)]
  rw [hblank] at h
  exact absurd h (by simp [Item.used, Item.blank])

theorem interestOf_eq_some_iff :
    s.interestOf fd = some i ↔
      invalidFd fd = false ∧ (s.item fd).used = true ∧ (s.item fd).interest = i := by
  unfold FdSelector.interestOf
  cases invalidFd fd <;> cases (s.item fd).used <;> simp

theorem interestOf_ne_none_iff :
    s.interestOf fd ≠ none ↔ invalidFd fd = false ∧ (s.item fd).used = true := by
  unfold FdSelector.interestOf
  cases invalidFd fd <;> cases (s.item fd).used <;> simp

theorem toNat_ne_of_ne (hfd : invalidFd fd = false) (hfd' : invalidFd fd' = false)
    (h : fd ≠ fd') : fd.toNat ≠ fd'.toNat := by
  rw [invalidFd_eq_false_iff] at hfd hfd'
  omega

/-- Updating one valid item leaves every other registration as it was. -/
theorem interestOf_setItem_of_ne {item : Item η δ} (hfd : invalidFd fd = false)
    (h : fd' ≠ fd) : (s.setItem fd item).interestOf fd' = s.interestOf fd' := by
  unfold FdSelector.interestOf
  cases hfd' : invalidFd fd' with
  | true => rfl
  | false => rw [item_setItem_of_ne (toNat_ne_of_ne hfd hfd' (Ne.symm h))]

theorem selectorSetInterest_success (h : s.interestOf fd ≠ none) :
    (selectorSetInterest s fd i).2 = .success := by
  rw [interestOf_ne_none_iff] at h
  simp [selectorSetInterest, h.1, h.2]

theorem selectorSetInterest_of_none (h : s.interestOf fd = none) :
    selectorSetInterest s fd i = (s, .iargs) := by
  unfold selectorSetInterest
  cases hfd : invalidFd fd with
  | true => rfl
  | false =>
      cases hused : (s.item fd).used with
      | false => rfl
      | true => exact absurd h (interestOf_ne_none_iff.mpr ⟨hfd, hused⟩)

theorem interestOf_selectorSetInterest_self (h : s.interestOf fd ≠ none) :
    (selectorSetInterest s fd i).1.interestOf fd = some i := by
  rw [interestOf_ne_none_iff] at h
  simp only [selectorSetInterest, h.1, h.2, Bool.not_true, Bool.false_eq_true, if_false]
  rw [interestOf_itemsUpdateFdsetForFd, interestOf_eq_some_iff,
    item_setItem_self (lt_length_of_used h.2)]
  exact ⟨h.1, h.2, rfl⟩

theorem interestOf_selectorSetInterest_of_ne (h : fd' ≠ fd) :
    (selectorSetInterest s fd i).1.interestOf fd' = s.interestOf fd' := by
  unfold selectorSetInterest
  cases hfd : invalidFd fd with
  | true => rfl
  | false =>
      cases (s.item fd).used with
      | false => rfl
      | true => exact interestOf_setItem_of_ne hfd h

/-- What `selector_set_interest` does to the registrations. -/
theorem interestOf_selectorSetInterest :
    (selectorSetInterest s fd i).1.interestOf fd' =
      if fd' = fd ∧ s.interestOf fd ≠ none then some i else s.interestOf fd' := by
  by_cases hne : fd' = fd
  · subst hne
    by_cases hnone : s.interestOf fd' = none
    · rw [selectorSetInterest_of_none hnone]
      simp [hnone]
    · rw [interestOf_selectorSetInterest_self hnone]
      simp [hnone]
  · rw [interestOf_selectorSetInterest_of_ne hne]
    simp [hne]

@[simp] theorem resolutionJobs_selectorSetInterest :
    (selectorSetInterest s fd i).1.resolutionJobs = s.resolutionJobs := by
  unfold selectorSetInterest
  cases invalidFd fd with
  | true => rfl
  | false => cases (s.item fd).used <;> rfl

@[simp] theorem length_fds_selectorSetInterest :
    (selectorSetInterest s fd i).1.fds.length = s.fds.length := by
  unfold selectorSetInterest
  cases invalidFd fd with
  | true => rfl
  | false =>
      cases (s.item fd).used with
      | false => rfl
      | true => simp [itemsUpdateFdsetForFd, FdSelector.setItem]

/-- After `selector_set_interest` a registered descriptor has that interest. -/
theorem eq_of_interestOf_selectorSetInterest {j : FdInterest}
    (h : (selectorSetInterest s fd i).1.interestOf fd = some j) : j = i := by
  by_cases hnone : s.interestOf fd = none
  · rw [selectorSetInterest_of_none hnone, hnone] at h
    cases h
  · rw [interestOf_selectorSetInterest_self hnone] at h
    exact (Option.some.inj h).symm

theorem interestOf_selectorClearItem_self :
    (selectorClearItem s fd).interestOf fd = none := by
  by_contra hne
  obtain ⟨-, hused⟩ := interestOf_ne_none_iff.mp hne
  have hitem : (selectorClearItem s fd).item fd = (s.setItem fd Item.blank).item fd :=
    item_congr rfl fd
  have hlen : fd.toNat < s.fds.length := by
    have := lt_length_of_used hused
    simpa [selectorClearItem, FdSelector.setItem, itemsUpdateFdsetForFd] using this
  rw [hitem, item_setItem_self hlen] at hused
  exact absurd hused (by simp [Item.used, Item.blank])

theorem interestOf_selectorClearItem_of_ne (hfd : invalidFd fd = false) (h : fd' ≠ fd) :
    (selectorClearItem s fd).interestOf fd' = s.interestOf fd' := by
  change ({ (itemsUpdateFdsetForFd s { s.item fd with interest := .opNoop }).setItem fd
    Item.blank with maxFd := _ } : FdSelector η δ).interestOf fd' = _
  rw [interestOf_maxFd, interestOf_setItem_of_ne hfd h, interestOf_itemsUpdateFdsetForFd]

/-- What `selector_unregister_fd_without_closing` does to the registrations. -/
theorem interestOf_selectorUnregister :
    (selectorUnregisterFdWithoutClosing s fd).1.interestOf fd' =
      if fd' = fd then none else s.interestOf fd' := by
  unfold selectorUnregisterFdWithoutClosing
  by_cases hne : fd' = fd
  · subst hne
    cases hfd : invalidFd fd' with
    | true => simp [FdSelector.interestOf, hfd]
    | false =>
        cases hused : (s.item fd').used with
        | false => simp [FdSelector.interestOf, hused]
        | true => simp [interestOf_selectorClearItem_self]
  · cases hfd : invalidFd fd with
    | true => simp [hne]
    | false =>
        cases (s.item fd).used with
        | false => simp [hne]
        | true => simpa [hne] using interestOf_selectorClearItem_of_ne hfd hne

/-- A registration inside the table that finds its slot free adds exactly the
new descriptor; any other call leaves the registrations alone. -/
theorem interestOf_selectorRegister {handler : Option η} {data : Option δ} {alloc : Bool}
    (hlen : fd.toNat < s.fds.length) :
    (selectorRegister s fd handler i data alloc).1.interestOf fd' =
      if fd' = fd ∧ (selectorRegister s fd handler i data alloc).2 = .success then some i
      else s.interestOf fd' := by
  have hcap : ¬ fd.toNat > s.fds.length := by omega
  unfold selectorRegister
  by_cases hargs : (invalidFd fd || handler.isNone) = true
  · simp [hargs]
  · have hfd : invalidFd fd = false := by
      cases h : invalidFd fd with
      | false => rfl
      | true => simp [h] at hargs
    simp only [hargs, hcap, if_false, Bool.false_eq_true, ne_eq, not_true_eq_false]
    cases hused : (s.item fd).used with
    | true => simp
    | false =>
        simp only [Bool.false_eq_true, if_false, and_true]
        generalize hitem : ({ fd := fd, interest := i, handler := handler, data := data } :
          Item η δ) = item
        rw [interestOf_itemsUpdateFdsetForFd, interestOf_maxFd]
        by_cases hne : fd' = fd
        · subst hne
          rw [if_pos rfl, interestOf_eq_some_iff, item_setItem_self hlen]
          rw [invalidFd_eq_false_iff] at hfd
          subst hitem
          refine ⟨invalidFd_eq_false_iff.mpr hfd, ?_, rfl⟩
          have hfd' : fd' ≠ -1 := by omega
          simp [Item.used, fdUnused, hfd']
        · rw [if_neg hne]
          exact interestOf_setItem_of_ne hfd hne

end Interests

/-! ## Whose registration it is -/

section Data

variable {η δ : Type} {s : FdSelector η δ} {fd fd' : ℤ} {i : FdInterest}

theorem dataOf_congr {t : FdSelector η δ} (h : t.fds = s.fds) (fd : ℤ) :
    t.dataOf fd = s.dataOf fd := by
  simp [FdSelector.dataOf, item_congr h]

@[simp] theorem dataOf_itemsUpdateFdsetForFd (item : Item η δ) :
    (itemsUpdateFdsetForFd s item).dataOf fd = s.dataOf fd :=
  dataOf_congr rfl fd

@[simp] theorem dataOf_maxFd (m : ℤ) :
    ({ s with maxFd := m } : FdSelector η δ).dataOf fd = s.dataOf fd :=
  dataOf_congr rfl fd

theorem dataOf_of_item {t : FdSelector η δ} (hused : (t.item fd).used = (s.item fd).used)
    (hdata : (t.item fd).data = (s.item fd).data) : t.dataOf fd = s.dataOf fd := by
  simp [FdSelector.dataOf, hused, hdata]

theorem dataOf_setItem_of_ne {item : Item η δ} (hfd : invalidFd fd = false)
    (h : fd' ≠ fd) : (s.setItem fd item).dataOf fd' = s.dataOf fd' := by
  unfold FdSelector.dataOf
  cases hfd' : invalidFd fd' with
  | true => rfl
  | false => rw [item_setItem_of_ne (toNat_ne_of_ne hfd hfd' (Ne.symm h))]

theorem interestOf_ne_none_of_dataOf {d : δ} (h : s.dataOf fd = some d) :
    s.interestOf fd ≠ none := by
  rw [interestOf_ne_none_iff]
  unfold FdSelector.dataOf at h
  cases hfd : invalidFd fd <;> cases hused : (s.item fd).used <;> simp_all

/-- `selector_set_interest` leaves every registration with its owner. -/
@[simp] theorem dataOf_selectorSetInterest :
    (selectorSetInterest s fd i).1.dataOf fd' = s.dataOf fd' := by
  unfold selectorSetInterest
  cases hfd : invalidFd fd with
  | true => rfl
  | false =>
      cases hused : (s.item fd).used with
      | false => rfl
      | true =>
          simp only [Bool.not_true, Bool.false_eq_true, if_false]
          rw [dataOf_itemsUpdateFdsetForFd]
          by_cases hne : fd' = fd
          · subst hne
            apply dataOf_of_item <;> rw [item_setItem_self (lt_length_of_used hused)]
            rfl
          · exact dataOf_setItem_of_ne hfd hne

/-- What `selector_unregister_fd_without_closing` does to the owners. -/
theorem dataOf_selectorUnregister :
    (selectorUnregisterFdWithoutClosing s fd).1.dataOf fd' =
      if fd' = fd then none else s.dataOf fd' := by
  by_cases hne : fd' = fd
  · subst hne
    have hnone : (selectorUnregisterFdWithoutClosing s fd').1.interestOf fd' = none := by
      simp [interestOf_selectorUnregister]
    rw [if_pos rfl]
    by_contra hsome
    obtain ⟨d, hd⟩ := Option.ne_none_iff_exists'.mp hsome
    exact interestOf_ne_none_of_dataOf hd hnone
  · rw [if_neg hne]
    unfold selectorUnregisterFdWithoutClosing
    cases hfd : invalidFd fd with
    | true => rfl
    | false =>
        cases (s.item fd).used with
        | false => rfl
        | true =>
            simp only [Bool.not_true, Bool.false_eq_true, if_false]
            rw [selectorClearItem, dataOf_congr rfl]
            exact (dataOf_setItem_of_ne hfd hne).trans (dataOf_congr rfl fd')

/-- A registration inside the table that succeeds gives the new descriptor its
data; any other call leaves the owners alone. -/
theorem dataOf_selectorRegister {handler : Option η} {data : Option δ} {alloc : Bool}
    (hlen : fd.toNat < s.fds.length) :
    (selectorRegister s fd handler i data alloc).1.dataOf fd' =
      if fd' = fd ∧ (selectorRegister s fd handler i data alloc).2 = .success then data
      else s.dataOf fd' := by
  have hcap : ¬ fd.toNat > s.fds.length := by omega
  unfold selectorRegister
  by_cases hargs : (invalidFd fd || handler.isNone) = true
  · simp [hargs]
  · have hfd : invalidFd fd = false := by
      cases h : invalidFd fd with
      | false => rfl
      | true => simp [h] at hargs
    simp only [hargs, hcap, if_false, Bool.false_eq_true, ne_eq, not_true_eq_false]
    cases hused : (s.item fd).used with
    | true => simp
    | false =>
        simp only [Bool.false_eq_true, if_false, and_true]
        generalize hitem : ({ fd := fd, interest := i, handler := handler, data := data } :
          Item η δ) = item
        rw [dataOf_itemsUpdateFdsetForFd, dataOf_maxFd]
        by_cases hne : fd' = fd
        · subst hne
          have hfd' : fd' ≠ -1 := by
            rw [invalidFd_eq_false_iff] at hfd
            omega
          rw [if_pos rfl, FdSelector.dataOf, item_setItem_self hlen]
          subst hitem
          simp [Item.used, fdUnused, hfd', hfd]
        · rw [if_neg hne]
          exact dataOf_setItem_of_ne hfd hne

/-- A valid descriptor inside the table that is not registered can be. -/
theorem selectorRegister_success (handler : η) (data : Option δ) (alloc : Bool)
    (hlen : fd.toNat < s.fds.length) (hfd : invalidFd fd = false)
    (hfree : s.interestOf fd = none) :
    (selectorRegister s fd (some handler) i data alloc).2 = .success := by
  have hcap : ¬ fd.toNat > s.fds.length := by omega
  have hused : (s.item fd).used = false := by
    cases hused : (s.item fd).used with
    | false => rfl
    | true => exact absurd hfree (interestOf_ne_none_iff.mpr ⟨hfd, hused⟩)
  simp [selectorRegister, hfd, hcap, hused]

end Data

/-! ## The rest of the table -/

section Table

variable {η δ : Type} {s : FdSelector η δ} {fd fd' : ℤ} {i : FdInterest} {handler : Option η}
  {data : Option δ} {alloc : Bool}

/-- What a registration inside the table does if it succeeds. -/
theorem selectorRegister_eq_of_success (hlen : fd.toNat < s.fds.length)
    (h : (selectorRegister s fd handler i data alloc).2 = .success) :
    invalidFd fd = false ∧ (s.item fd).used = false ∧
      ∃ m, (selectorRegister s fd handler i data alloc).1 =
        itemsUpdateFdsetForFd
          { s.setItem fd ⟨fd, i, handler, data⟩ with maxFd := m } ⟨fd, i, handler, data⟩ := by
  have hcap : ¬ fd.toNat > s.fds.length := by omega
  unfold selectorRegister at h ⊢
  by_cases hargs : (invalidFd fd || handler.isNone) = true
  · rw [if_pos hargs] at h
    cases h
  · have hfd : invalidFd fd = false := by
      rcases hinvalid : invalidFd fd with _ | _
      · rfl
      · simp [hinvalid] at hargs
    rw [if_neg hargs] at h ⊢
    simp only [hcap, if_false, ne_eq, not_true_eq_false] at h ⊢
    rcases hused : (s.item fd).used with _ | _
    · exact ⟨hfd, rfl, _, rfl⟩
    · rw [hused] at h
      cases h

theorem item_selectorRegister_self (hlen : fd.toNat < s.fds.length)
    (h : (selectorRegister s fd handler i data alloc).2 = .success) :
    (selectorRegister s fd handler i data alloc).1.item fd = ⟨fd, i, handler, data⟩ := by
  obtain ⟨-, -, m, heq⟩ := selectorRegister_eq_of_success hlen h
  rw [heq, item_congr rfl]
  exact item_setItem_self hlen

theorem item_selectorRegister_of_ne (hlen : fd.toNat < s.fds.length)
    (h : (selectorRegister s fd handler i data alloc).2 = .success)
    (hfd' : invalidFd fd' = false) (hne : fd' ≠ fd) :
    (selectorRegister s fd handler i data alloc).1.item fd' = s.item fd' := by
  obtain ⟨hfd, -, m, heq⟩ := selectorRegister_eq_of_success hlen h
  rw [heq, item_congr rfl]
  exact item_setItem_of_ne (toNat_ne_of_ne hfd hfd' hne.symm)

theorem length_fds_selectorRegister (hlen : fd.toNat < s.fds.length)
    (h : (selectorRegister s fd handler i data alloc).2 = .success) :
    (selectorRegister s fd handler i data alloc).1.fds.length = s.fds.length := by
  obtain ⟨-, -, m, heq⟩ := selectorRegister_eq_of_success hlen h
  rw [heq]
  exact List.length_set

theorem resolutionJobs_selectorRegister (hlen : fd.toNat < s.fds.length)
    (h : (selectorRegister s fd handler i data alloc).2 = .success) :
    (selectorRegister s fd handler i data alloc).1.resolutionJobs = s.resolutionJobs := by
  obtain ⟨-, -, m, heq⟩ := selectorRegister_eq_of_success hlen h
  rw [heq]
  rfl

theorem item_selectorClearItem_of_ne (hfd : invalidFd fd = false) (hfd' : invalidFd fd' = false)
    (hne : fd' ≠ fd) : (selectorClearItem s fd).item fd' = s.item fd' := by
  unfold selectorClearItem
  rw [item_congr rfl]
  exact (item_setItem_of_ne (toNat_ne_of_ne hfd hfd' hne.symm)).trans (item_congr rfl fd')

theorem item_selectorUnregister_of_ne (hfd' : invalidFd fd' = false) (hne : fd' ≠ fd) :
    (selectorUnregisterFdWithoutClosing s fd).1.item fd' = s.item fd' := by
  unfold selectorUnregisterFdWithoutClosing
  rcases hfd : invalidFd fd with _ | _
  · rcases (s.item fd).used with _ | _
    · rfl
    · exact item_selectorClearItem_of_ne hfd hfd' hne
  · rfl

theorem dataOf_selectorClearItem (hfd : invalidFd fd = false) :
    (selectorClearItem s fd).dataOf fd' = if fd' = fd then none else s.dataOf fd' := by
  by_cases hne : fd' = fd
  · rw [if_pos hne, hne]
    by_contra hsome
    obtain ⟨d, hd⟩ := Option.ne_none_iff_exists'.mp hsome
    exact interestOf_ne_none_of_dataOf hd interestOf_selectorClearItem_self
  · rw [if_neg hne, selectorClearItem, dataOf_congr rfl]
    exact (dataOf_setItem_of_ne hfd hne).trans (dataOf_congr rfl fd')

theorem length_fds_selectorClearItem : (selectorClearItem s fd).fds.length = s.fds.length :=
  List.length_set

theorem length_fds_selectorUnregister :
    (selectorUnregisterFdWithoutClosing s fd).1.fds.length = s.fds.length := by
  unfold selectorUnregisterFdWithoutClosing
  split_ifs
  · rfl
  · rfl
  · exact length_fds_selectorClearItem

theorem resolutionJobs_selectorUnregister :
    (selectorUnregisterFdWithoutClosing s fd).1.resolutionJobs = s.resolutionJobs := by
  unfold selectorUnregisterFdWithoutClosing
  split_ifs <;> rfl

theorem invalidFd_of_dataOf {d : δ} (h : s.dataOf fd = some d) : invalidFd fd = false :=
  (interestOf_ne_none_iff.mp (interestOf_ne_none_of_dataOf h)).1

end Table

/-! ## Changing interests only -/

section Interests

variable {η δ : Type} {s t u : FdSelector η δ} {fd fd' : ℤ} {i : FdInterest}

theorem handler_selectorSetInterest :
    ((selectorSetInterest s fd i).1.item fd').handler = (s.item fd').handler := by
  unfold selectorSetInterest
  rcases hfd : invalidFd fd with _ | _
  · rcases hused : (s.item fd).used with _ | _
    · rfl
    · change ((s.setItem fd { s.item fd with interest := i }).item fd').handler = _
      by_cases hne : fd.toNat = fd'.toNat
      · have hitem : s.item fd' = s.item fd := by
          rw [FdSelector.item, FdSelector.item, hne]
        have hset : (s.setItem fd { s.item fd with interest := i }).item fd' =
            { s.item fd with interest := i } := by
          rw [FdSelector.item, ← hne]
          exact item_setItem_self (lt_length_of_used hused)
        rw [hset, hitem]
      · rw [item_setItem_of_ne hne]
  · rfl

/-- `t` is `s` after calls of `selector_set_interest`. -/
inductive SetsInterests (s : FdSelector η δ) : FdSelector η δ → Prop
  | refl : SetsInterests s s
  | step {t : FdSelector η δ} (h : SetsInterests s t) (fd : ℤ) (i : FdInterest) :
      SetsInterests s (selectorSetInterest t fd i).1

theorem SetsInterests.trans (h : SetsInterests s t) (h' : SetsInterests t u) :
    SetsInterests s u := by
  induction h' with
  | refl => exact h
  | step _ fd i ih => exact ih.step fd i

theorem SetsInterests.length (h : SetsInterests s t) : t.fds.length = s.fds.length := by
  induction h with
  | refl => rfl
  | step _ fd i ih => rw [length_fds_selectorSetInterest, ih]

theorem SetsInterests.dataOf (h : SetsInterests s t) : t.dataOf fd = s.dataOf fd := by
  induction h with
  | refl => rfl
  | step _ fd i ih => rw [dataOf_selectorSetInterest, ih]

theorem SetsInterests.handler (h : SetsInterests s t) :
    (t.item fd).handler = (s.item fd).handler := by
  induction h with
  | refl => rfl
  | step _ fd i ih => rw [handler_selectorSetInterest, ih]

theorem SetsInterests.resolutionJobs (h : SetsInterests s t) :
    t.resolutionJobs = s.resolutionJobs := by
  induction h with
  | refl => rfl
  | step _ fd i ih => rw [resolutionJobs_selectorSetInterest, ih]

end Interests

end Socks5Proxy

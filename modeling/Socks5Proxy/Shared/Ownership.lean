import Socks5Proxy.Library.Separation
import Socks5Proxy.Shared.Selector

/-!
# Whose descriptors they are

The registrations of a selector as a partial map, and what each call does to
it.  A party that only names descriptors outside a frame finds in the shared
selector what it would find in one that has its own registrations alone.
-/

namespace Socks5Proxy

open Library

section Registrations

variable {η δ : Type}

/-- The item of a registered descriptor. -/
def FdSelector.registration (s : FdSelector η δ) (fd : ℤ) : Option (Item η δ) :=
  if !invalidFd fd && (s.item fd).used then some (s.item fd) else none

variable {s : FdSelector η δ} {fd fd' : ℤ} {i : FdInterest} {item : Item η δ}

theorem interestOf_eq_registration : s.interestOf fd = (s.registration fd).map Item.interest := by
  unfold FdSelector.interestOf FdSelector.registration
  split_ifs <;> rfl

theorem dataOf_eq_registration : s.dataOf fd = (s.registration fd).bind Item.data := by
  unfold FdSelector.dataOf FdSelector.registration
  split_ifs <;> rfl

theorem registration_eq_none_iff : s.registration fd = none ↔ s.interestOf fd = none := by
  rw [interestOf_eq_registration, Option.map_eq_none_iff]

theorem registration_of_invalid (h : invalidFd fd = true) : s.registration fd = none := by
  unfold FdSelector.registration
  rw [h]
  rfl

theorem registration_congr {t : FdSelector η δ} (h : t.fds = s.fds) :
    t.registration = s.registration := by
  funext fd
  unfold FdSelector.registration
  rw [item_congr h]

theorem registration_of_item {t : FdSelector η δ}
    (h : invalidFd fd = false → t.item fd = s.item fd) :
    t.registration fd = s.registration fd := by
  unfold FdSelector.registration
  rcases hfd : invalidFd fd with _ | _
  · rw [h hfd]
  · rfl

theorem registration_selectorSetInterest_of_ne (h : fd' ≠ fd) :
    (selectorSetInterest s fd i).1.registration fd' = s.registration fd' := by
  apply registration_of_item
  intro hfd'
  unfold selectorSetInterest
  rcases hfd : invalidFd fd with _ | _
  · rcases (s.item fd).used with _ | _
    · rfl
    · exact (item_congr rfl fd').trans (item_setItem_of_ne (toNat_ne_of_ne hfd hfd' h.symm))
  · rfl

theorem registration_selectorSetInterest_self :
    (selectorSetInterest s fd i).1.registration fd =
      (s.registration fd).map fun item => { item with interest := i } := by
  rcases hnone : s.registration fd with _ | item
  · rw [selectorSetInterest_of_none (registration_eq_none_iff.mp hnone), hnone]
    rfl
  · have hregistered : s.interestOf fd ≠ none := by
      rw [Ne, ← registration_eq_none_iff, hnone]
      exact Option.some_ne_none item
    obtain ⟨hfd, hused⟩ := interestOf_ne_none_iff.mp hregistered
    have hitem : s.item fd = item := by
      unfold FdSelector.registration at hnone
      rw [hfd, hused] at hnone
      exact Option.some.inj hnone
    have hset : (selectorSetInterest s fd i).1.item fd = { s.item fd with interest := i } := by
      unfold selectorSetInterest
      rw [hfd, hused]
      exact (item_congr rfl fd).trans (item_setItem_self (lt_length_of_used hused))
    have hused' : ({ s.item fd with interest := i } : Item η δ).used = true := hused
    unfold FdSelector.registration
    rw [hset, hfd, hused', ← hitem]
    rfl

/-- Whether `selector_set_interest` succeeds. -/
theorem selectorSetInterest_status :
    (selectorSetInterest s fd i).2 = if s.registration fd = none then .iargs else .success := by
  by_cases hnone : s.registration fd = none
  · rw [if_pos hnone, selectorSetInterest_of_none (registration_eq_none_iff.mp hnone)]
  · rw [if_neg hnone]
    apply selectorSetInterest_success
    rw [Ne, ← registration_eq_none_iff]
    exact hnone

theorem registration_selectorUnregister :
    (selectorUnregisterFdWithoutClosing s fd).1.registration fd' =
      if fd' = fd then none else s.registration fd' := by
  by_cases heq : fd' = fd
  · rw [if_pos heq, registration_eq_none_iff, interestOf_selectorUnregister, if_pos heq]
  · rw [if_neg heq]
    exact registration_of_item fun hfd' => item_selectorUnregister_of_ne hfd' heq

section Register

variable {handler : η} {data : Option δ} {alloc : Bool}

/-- In a table of full size `selector_register` leaves everything alone or
enters the descriptor, which was free. -/
theorem selectorRegister_refuses_or_enters (htable : fdSetsize < s.fds.length) (fd : ℤ)
    (i : FdInterest) (handler : η) (data : Option δ) (alloc : Bool) :
    (∃ status, status ≠ .success ∧ (invalidFd fd = true ∨ s.registration fd ≠ none) ∧
        selectorRegister s fd (some handler) i data alloc = (s, status)) ∨
      invalidFd fd = false ∧ s.registration fd = none ∧
        (selectorRegister s fd (some handler) i data alloc).2 = .success := by
  rcases hfd : invalidFd fd with _ | _
  · have hlen : fd.toNat < s.fds.length := toNat_lt_of_valid hfd (Nat.le_of_lt htable)
    have hcap : ¬ fd.toNat > s.fds.length := by omega
    by_cases hfree : s.registration fd = none
    · right
      refine ⟨rfl, hfree, ?_⟩
      exact selectorRegister_success handler data alloc hlen hfd
        (registration_eq_none_iff.mp hfree)
    · left
      have hused : (s.item fd).used = true := by
        rw [registration_eq_none_iff] at hfree
        exact (interestOf_ne_none_iff.mp hfree).2
      refine ⟨.fdinuse, by decide, .inr hfree, ?_⟩
      simp [selectorRegister, hfd, hcap, hused]
  · left
    refine ⟨.iargs, by decide, .inl rfl, ?_⟩
    simp [selectorRegister, hfd]

theorem selectorRegister_enters_iff (htable : fdSetsize < s.fds.length) :
    (selectorRegister s fd (some handler) i data alloc).2 = .success ↔
      invalidFd fd = false ∧ s.registration fd = none := by
  rcases selectorRegister_refuses_or_enters htable fd i handler data alloc with
    ⟨status, hne, htaken, heq⟩ | ⟨hfd, hfree, hsuccess⟩
  · rw [heq]
    refine iff_of_false hne ?_
    rintro ⟨hfd, hfree⟩
    rcases htaken with hinvalid | hused
    · rw [hfd] at hinvalid
      cases hinvalid
    · exact hused hfree
  · exact iff_of_true hsuccess ⟨hfd, hfree⟩

/-- Whether it succeeds depends on the descriptor's own registration only. -/
theorem selectorRegister_status_congr {t : FdSelector η δ} {alloc' : Bool}
    (hs : fdSetsize < s.fds.length) (ht : fdSetsize < t.fds.length)
    (hsame : t.registration fd = s.registration fd) :
    (selectorRegister t fd (some handler) i data alloc').2 = .success ↔
      (selectorRegister s fd (some handler) i data alloc).2 = .success := by
  rw [selectorRegister_enters_iff hs, selectorRegister_enters_iff ht, hsame]

/-- What a registration does, in a table of full size. -/
theorem registration_selectorRegister (htable : fdSetsize < s.fds.length) :
    (selectorRegister s fd (some handler) i data alloc).1.registration fd' =
      if fd' = fd ∧ (selectorRegister s fd (some handler) i data alloc).2 = .success then
        some ⟨fd, i, some handler, data⟩
      else s.registration fd' := by
  rcases selectorRegister_refuses_or_enters htable fd i handler data alloc with
    ⟨status, hne, -, heq⟩ | ⟨hfd, -, hsuccess⟩
  · rw [heq, if_neg fun h => hne h.2]
  · have hlen : fd.toNat < s.fds.length := toNat_lt_of_valid hfd (Nat.le_of_lt htable)
    by_cases heq : fd' = fd
    · rw [if_pos ⟨heq, hsuccess⟩, heq]
      unfold FdSelector.registration
      rw [item_selectorRegister_self hlen hsuccess, hfd]
      have hne : fd ≠ -1 := ne_neg_one_of_valid hfd
      simp [Item.used, fdUnused, hne]
    · rw [if_neg fun h => heq h.1]
      exact registration_of_item fun hfd' =>
        item_selectorRegister_of_ne hlen hsuccess hfd' heq

/-- The registrations after a free descriptor has been entered. -/
theorem registration_entered (htable : fdSetsize < s.fds.length) (hvalid : invalidFd fd = false)
    (hfree : s.interestOf fd = none) :
    (selectorRegister s fd (some handler) i data alloc).1.registration fd' =
      if fd' = fd then some ⟨fd, i, some handler, data⟩ else s.registration fd' := by
  have hsuccess : (selectorRegister s fd (some handler) i data alloc).2 = .success :=
    (selectorRegister_enters_iff htable).mpr ⟨hvalid, registration_eq_none_iff.mpr hfree⟩
  rw [registration_selectorRegister htable]
  simp only [hsuccess, and_true]

theorem length_fds_selectorRegister_of_table (htable : fdSetsize < s.fds.length) :
    (selectorRegister s fd (some handler) i data alloc).1.fds.length = s.fds.length := by
  rcases selectorRegister_refuses_or_enters htable fd i handler data alloc with
    ⟨status, -, -, heq⟩ | ⟨hfd, -, hsuccess⟩
  · rw [heq]
  · exact length_fds_selectorRegister (toNat_lt_of_valid hfd (Nat.le_of_lt htable)) hsuccess

end Register

end Registrations

/-! ## A selector and its owner's part of it -/

section Shares

variable {η δ : Type}

/-- The descriptors of others: `none` outside, else what is registered there. -/
abbrev SelectorFrame (η δ : Type) := ℤ → Option (Option (Item η δ))

/-- `own` has the registrations of the party `a` alone, and `sel` is that apart
from the frame: descriptors that others have registered or keep for
themselves. -/
structure Shares (a : δ) (frame : SelectorFrame η δ) (sel own : FdSelector η δ) :
    Prop where
  table : fdSetsize < sel.fds.length
  ownTable : fdSetsize < own.fds.length
  splits : Splits sel.registration own.registration frame
  valid : ∀ fd, frame fd ≠ none → invalidFd fd = false
  owned : ∀ fd item, own.registration fd = some item → item.data = some a

variable {a : δ} {frame : SelectorFrame η δ} {sel sel' own own' : FdSelector η δ}
  {fd : ℤ} {i : FdInterest}

namespace Shares

theorem congr (h : Shares a frame sel own) (hsel : sel'.fds = sel.fds) (hown : own'.fds = own.fds) :
    Shares a frame sel' own' where
  table := by
    rw [hsel]
    exact h.table
  ownTable := by
    rw [hown]
    exact h.ownTable
  splits := by
    rw [registration_congr hsel, registration_congr hown]
    exact h.splits
  valid := h.valid
  owned := by
    rw [registration_congr hown]
    exact h.owned

theorem registration (h : Shares a frame sel own) (hfd : frame fd = none) :
    own.registration fd = sel.registration fd := (h.splits.eq_own hfd).symm

theorem setInterest_status (h : Shares a frame sel own) (hfd : frame fd = none)
    (i : FdInterest) : (selectorSetInterest own fd i).2 = (selectorSetInterest sel fd i).2 := by
  rw [selectorSetInterest_status, selectorSetInterest_status, h.registration hfd]

theorem setInterest (h : Shares a frame sel own) (hfd : frame fd = none) (i : FdInterest) :
    Shares a frame (selectorSetInterest sel fd i).1 (selectorSetInterest own fd i).1 where
  table := by
    rw [length_fds_selectorSetInterest]
    exact h.table
  ownTable := by
    rw [length_fds_selectorSetInterest]
    exact h.ownTable
  splits := by
    refine h.splits.change hfd ?_ (fun _ => registration_selectorSetInterest_of_ne)
      (fun _ => registration_selectorSetInterest_of_ne)
    rw [registration_selectorSetInterest_self, registration_selectorSetInterest_self,
      h.registration hfd]
  valid := h.valid
  owned := by
    intro fd' item hitem
    by_cases heq : fd' = fd
    · rw [heq, registration_selectorSetInterest_self, Option.map_eq_some_iff] at hitem
      obtain ⟨item', hitem', rfl⟩ := hitem
      exact h.owned fd item' hitem'
    · rw [registration_selectorSetInterest_of_ne heq] at hitem
      exact h.owned fd' item hitem

theorem unregister (h : Shares a frame sel own) (hfd : frame fd = none) :
    Shares a frame (selectorUnregisterFdWithoutClosing sel fd).1
      (selectorUnregisterFdWithoutClosing own fd).1 where
  table := by
    rw [length_fds_selectorUnregister]
    exact h.table
  ownTable := by
    rw [length_fds_selectorUnregister]
    exact h.ownTable
  splits := by
    refine h.splits.change hfd ?_ ?_ ?_
    · rw [registration_selectorUnregister, registration_selectorUnregister, if_pos rfl, if_pos rfl]
    · intro fd' hne
      rw [registration_selectorUnregister, if_neg hne]
    · intro fd' hne
      rw [registration_selectorUnregister, if_neg hne]
  valid := h.valid
  owned := by
    intro fd' item hitem
    rw [registration_selectorUnregister] at hitem
    split_ifs at hitem
    exact h.owned fd' item hitem

section Register

variable {handler : η} {alloc alloc' : Bool}

theorem register_status (h : Shares a frame sel own) (hfd : frame fd = none)
    (data : Option δ) (handler : η) (i : FdInterest) (alloc alloc' : Bool) :
    (selectorRegister own fd (some handler) i data alloc').2 = .success ↔
      (selectorRegister sel fd (some handler) i data alloc).2 = .success :=
  selectorRegister_status_congr h.table h.ownTable (h.registration hfd)

theorem register (h : Shares a frame sel own) (hfd : frame fd = none) (handler : η)
    (i : FdInterest) (alloc alloc' : Bool) :
    Shares a frame (selectorRegister sel fd (some handler) i (some a) alloc).1
      (selectorRegister own fd (some handler) i (some a) alloc').1 where
  table := by
    rw [length_fds_selectorRegister_of_table h.table]
    exact h.table
  ownTable := by
    rw [length_fds_selectorRegister_of_table h.ownTable]
    exact h.ownTable
  splits := by
    refine h.splits.change hfd ?_ ?_ ?_
    · rw [registration_selectorRegister h.table, registration_selectorRegister h.ownTable,
        h.registration hfd]
      exact if_congr (and_congr_right fun _ => (h.register_status hfd ..).symm) rfl rfl
    · intro fd' hne
      rw [registration_selectorRegister h.table, if_neg fun hself => hne hself.1]
    · intro fd' hne
      rw [registration_selectorRegister h.ownTable, if_neg fun hself => hne hself.1]
  valid := h.valid
  owned := by
    intro fd' item hitem
    rw [registration_selectorRegister h.ownTable] at hitem
    split_ifs at hitem
    · rw [← Option.some.inj hitem]
    · exact h.owned fd' item hitem

end Register

end Shares

end Shares

/-! ## The part of one party -/

theorem dataOf_eq_some_iff {η δ : Type} {s : FdSelector η δ} {a : δ} {fd : ℤ} :
    s.dataOf fd = some a ↔ ∃ item, s.registration fd = some item ∧ item.data = some a := by
  rw [dataOf_eq_registration, Option.bind_eq_some_iff]

section Owned

variable {η δ : Type} [DecidableEq δ] {s t : FdSelector η δ} {a b : δ} {fd : ℤ} {item : Item η δ}

/-- The registrations that carry `a`. -/
def FdSelector.ownedBy (s : FdSelector η δ) (a : δ) (fd : ℤ) : Option (Item η δ) :=
  (s.registration fd).filter fun item => item.data = some a

/-- The selector without the registrations that do not carry `a`. -/
def FdSelector.restrict (s : FdSelector η δ) (a : δ) : FdSelector η δ :=
  { s with fds := s.fds.map fun item => if item.data = some a then item else .blank }

theorem ownedBy_eq_some_iff :
    s.ownedBy a fd = some item ↔ s.registration fd = some item ∧ item.data = some a := by
  rw [FdSelector.ownedBy, Option.filter_eq_some_iff, decide_eq_true_iff]

theorem ownedBy_congr (h : t.registration fd = s.registration fd) :
    t.ownedBy a fd = s.ownedBy a fd := by
  rw [FdSelector.ownedBy, FdSelector.ownedBy, h]

theorem dataOf_eq_some_iff_ownedBy : s.dataOf fd = some a ↔ ∃ item, s.ownedBy a fd = some item := by
  rw [dataOf_eq_some_iff]
  exact exists_congr fun _ => ownedBy_eq_some_iff.symm

/-- A party finds its own descriptors in any selector that has its part. -/
theorem dataOf_of_ownedBy (h : t.ownedBy a = s.ownedBy a) (hfd : s.dataOf fd = some a) :
    t.dataOf fd = some a ∧ t.interestOf fd = s.interestOf fd := by
  obtain ⟨item, hitem⟩ := dataOf_eq_some_iff_ownedBy.mp hfd
  have hthere := hitem
  rw [← h] at hthere
  refine ⟨dataOf_eq_some_iff_ownedBy.mpr ⟨item, hthere⟩, ?_⟩
  rw [interestOf_eq_registration, interestOf_eq_registration,
    (ownedBy_eq_some_iff.mp hitem).1, (ownedBy_eq_some_iff.mp hthere).1]

theorem registration_restrict : (s.restrict a).registration = s.ownedBy a := by
  funext fd
  have hitem : (s.restrict a).item fd =
      if (s.item fd).data = some a then s.item fd else .blank := by
    unfold FdSelector.item FdSelector.restrict
    rw [List.getD_eq_getElem?_getD, List.getD_eq_getElem?_getD, List.getElem?_map]
    rcases s.fds[fd.toNat]? with _ | item
    · exact (ite_self _).symm
    · rfl
  unfold FdSelector.ownedBy FdSelector.registration
  rw [hitem]
  by_cases hdata : (s.item fd).data = some a
  · rw [if_pos hdata]
    split_ifs
    · exact (Option.filter_some_pos (by simpa using hdata)).symm
    · rfl
  · rw [if_neg hdata]
    split_ifs with hblank hused
    · simp [Item.used, Item.blank] at hblank
    · simp [Item.used, Item.blank] at hblank
    · exact (Option.filter_some_neg (by simpa using hdata)).symm
    · rfl

/-- A free descriptor that is entered belongs to the party it is entered for. -/
theorem ownedBy_entered {handler : η} {i : FdInterest} {alloc : Bool} {fd' : ℤ}
    (htable : fdSetsize < s.fds.length) (hvalid : invalidFd fd = false)
    (hfree : s.interestOf fd = none) :
    (selectorRegister s fd (some handler) i (some a) alloc).1.ownedBy b fd' =
      if fd' = fd ∧ b = a then some ⟨fd, i, some handler, some a⟩ else s.ownedBy b fd' := by
  have hregistration : ∀ fd', (selectorRegister s fd (some handler) i (some a)
      alloc).1.registration fd' =
        if fd' = fd then some ⟨fd, i, some handler, some a⟩ else s.registration fd' :=
    fun _ => registration_entered htable hvalid hfree
  by_cases hfd : fd' = fd
  · rw [FdSelector.ownedBy, hregistration, if_pos hfd, hfd]
    by_cases hb : b = a
    · rw [if_pos ⟨rfl, hb⟩]
      exact Option.filter_some_pos (by simp [hb])
    · rw [if_neg fun h => hb h.2, FdSelector.ownedBy, registration_eq_none_iff.mpr hfree]
      exact Option.filter_some_neg (by simpa using Ne.symm hb)
  · rw [if_neg fun h => hfd h.1]
    refine ownedBy_congr ?_
    rw [hregistration, if_neg hfd]

namespace Shares

variable {frame : SelectorFrame η δ} {sel sel' own own' : FdSelector η δ}

theorem ownedBy_own (h : Shares a frame sel own) : own.ownedBy a = own.registration := by
  funext fd
  rcases hown : own.registration fd with _ | item
  · rw [FdSelector.ownedBy, hown]
    rfl
  · exact ownedBy_eq_some_iff.mpr ⟨hown, h.owned fd item hown⟩

/-- If the frame has nothing of the party, the rest is its whole part. -/
theorem ownedBy_self (h : Shares a frame sel own)
    (hframe : ∀ fd item, frame fd = some (some item) → item.data ≠ some a) :
    own.registration = sel.ownedBy a := by
  rw [← h.ownedBy_own]
  funext fd
  rcases hfd : frame fd with _ | entry
  · exact ownedBy_congr (h.registration hfd)
  · obtain ⟨hwhole, hnone⟩ := h.splits.of_frame hfd
    rw [FdSelector.ownedBy, FdSelector.ownedBy, hwhole, hnone]
    rcases entry with _ | item
    · rfl
    · exact (Option.filter_some_neg (by simpa using hframe fd item hfd)).symm

/-- Two selectors with the same frame have the same parts of the others. -/
theorem ownedBy_other (h : Shares a frame sel own) (h' : Shares a frame sel' own')
    (hne : b ≠ a) : sel'.ownedBy b = sel.ownedBy b := by
  have hempty : ∀ {sel own : FdSelector η δ} {fd : ℤ}, Shares a frame sel own →
      frame fd = none → sel.ownedBy b fd = none := by
    intro sel own fd h hfd
    rw [FdSelector.ownedBy, ← h.registration hfd]
    rcases hown : own.registration fd with _ | item
    · rfl
    · refine Option.filter_some_neg ?_
      simpa [h.owned fd item hown] using hne.symm
  funext fd
  rcases hfd : frame fd with _ | entry
  · rw [hempty h hfd, hempty h' hfd]
  · exact ownedBy_congr ((h'.splits.of_frame hfd).1.trans (h.splits.of_frame hfd).1.symm)

end Shares

end Owned

end Socks5Proxy

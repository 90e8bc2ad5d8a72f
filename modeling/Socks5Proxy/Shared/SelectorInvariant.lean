import Socks5Proxy.Shared.Selector

/-!
# The representation invariant of the selector

A registration is kept three times over: in its slot, in the two descriptor
sets and in `max_fd`.  The invariant says how the three agree.  Every call
keeps it, and a call that reports an error changes nothing.

The lemmas about single calls ask only that the descriptor's slot is in the
table, whatever the size of the table is.
-/

namespace Socks5Proxy

section Functions

variable {η δ : Type}

/-- `struct fdselector` after `memset`. -/
def FdSelector.zeroed : FdSelector η δ where
  fds := []
  maxFd := 0
  masterR := fun _ => false
  masterW := fun _ => false
  slaveR := fun _ => false
  slaveW := fun _ => false
  resolutionJobs := []

/-- `selector_new`; `alloc` says whether the allocations succeed. -/
def selectorNew (initialElements : ℕ) (alloc : Bool) : Option (FdSelector η δ) :=
  if alloc then
    match ensureCapacity .zeroed initialElements alloc with
    | (s, .success) => some s
    | _ => none
  else
    none

/-- `selector_unregister_fd`; `handleClose` is what the callback does to the
selector, the identity where there is none. -/
def selectorUnregisterFd (handleClose : FdSelector η δ → FdSelector η δ) (s : FdSelector η δ)
    (fd : ℤ) : FdSelector η δ × SelectorStatus :=
  if invalidFd fd then
    (s, .iargs)
  else if !(s.item fd).used then
    (s, .iargs)
  else
    (selectorClearItem (handleClose s) fd, .success)

/-- A call of the selector's interface from outside.  `null` is any of the
calls with a null pointer for the selector. -/
inductive SelectorCall (η δ : Type)
  | register (fd : ℤ) (handler : Option η) (interest : FdInterest) (data : Option δ)
      (alloc : Bool)
  | unregisterFd (fd : ℤ)
  | unregisterFdWithoutClosing (fd : ℤ)
  | setInterest (fd : ℤ) (i : FdInterest)
  | null

/-- A call, where `handle_close` makes no call of its own. -/
def selectorCall (s : FdSelector η δ) : SelectorCall η δ → FdSelector η δ × SelectorStatus
  | .register fd handler interest data alloc => selectorRegister s fd handler interest data alloc
  | .unregisterFd fd => selectorUnregisterFd id s fd
  | .unregisterFdWithoutClosing fd => selectorUnregisterFdWithoutClosing s fd
  | .setInterest fd i => selectorSetInterest s fd i
  | .null => (s, .iargs)

/-- The slots, the two sets and `max_fd` say the same. -/
structure FdSelector.Consistent (s : FdSelector η δ) : Prop where
  slot : ∀ i : ℕ, (s.item i).fd = fdUnused ∨ (s.item i).fd = i
  masterR : ∀ i : ℕ, s.masterR i = ((s.item i).used && (s.item i).interest.read)
  masterW : ∀ i : ℕ, s.masterW i = ((s.item i).used && (s.item i).interest.write)
  maxFd_used : s.maxFd = 0 ∨ ∃ i : ℕ, s.maxFd = i ∧ (s.item i).used = true
  le_maxFd : ∀ i : ℕ, (s.item i).used = true → (i : ℤ) ≤ s.maxFd

end Functions

/-! ## What a registration does -/

section Registering

variable {η δ : Type} {s : FdSelector η δ} {fd : ℤ} {handler : Option η} {i : FdInterest}
  {data : Option δ} {alloc : Bool}

/-- The table `selector_register` works on, once it has room. -/
def FdSelector.roomFor (s : FdSelector η δ) (fd : ℤ) : FdSelector η δ :=
  if fd.toNat > s.fds.length then
    { s with
      fds := s.fds ++ List.replicate (nextCapacity fd.toNat - s.fds.length) Item.blank }
  else
    s

/-- The registration proper. -/
def FdSelector.enter (s : FdSelector η δ) (fd : ℤ) (item : Item η δ) : FdSelector η δ :=
  itemsUpdateFdsetForFd
    { s.setItem fd item with maxFd := if fd > s.maxFd then fd else s.maxFd } item

@[simp] theorem item_roomFor (fd fd' : ℤ) : (s.roomFor fd).item fd' = s.item fd' := by
  unfold FdSelector.roomFor
  split_ifs
  · simp only [FdSelector.item, List.getD_eq_getElem?_getD, List.getElem?_append]
    split_ifs with hlt
    · rfl
    · rw [List.getElem?_eq_none (Nat.not_lt.mp hlt), List.getElem?_replicate]
      split_ifs <;> rfl
  · rfl

/-- `selector_register` either reports an error and changes nothing, or finds
the slot free and enters the registration. -/
theorem selectorRegister_cases (s : FdSelector η δ) (fd : ℤ) (handler : Option η)
    (i : FdInterest) (data : Option δ) (alloc : Bool) :
    (∃ status, status ≠ .success ∧
      selectorRegister s fd handler i data alloc = (s, status)) ∨
    (invalidFd fd = false ∧ handler.isSome = true ∧ (s.item fd).used = false ∧
      (fd.toNat > s.fds.length → alloc = true) ∧
      selectorRegister s fd handler i data alloc =
        ((s.roomFor fd).enter fd ⟨fd, i, handler, data⟩, .success)) := by
  unfold selectorRegister
  by_cases hargs : (invalidFd fd || handler.isNone) = true
  · rw [if_pos hargs]
    exact .inl ⟨.iargs, nofun, rfl⟩
  · rw [if_neg hargs]
    rw [Bool.not_eq_true, Bool.or_eq_false_iff, Option.isNone_eq_false_iff] at hargs
    obtain ⟨hfd, hhandler⟩ := hargs
    have hroom : (if fd.toNat > s.fds.length then ensureCapacity s fd.toNat alloc
        else (s, .success)) = (s, .enomem) ∨
      (if fd.toNat > s.fds.length then ensureCapacity s fd.toNat alloc
        else (s, .success)) = (s.roomFor fd, .success) ∧
          (fd.toNat > s.fds.length → alloc = true) := by
      rw [FdSelector.roomFor, ensureCapacity]
      rw [invalidFd_eq_false_iff] at hfd
      split_ifs with hgrow hfits hmax halloc
      · omega
      · omega
      · exact .inr ⟨rfl, fun _ => halloc⟩
      · exact .inl rfl
      · exact .inr ⟨rfl, fun hgrow' => absurd hgrow' hgrow⟩
    rcases hroom with hroom | ⟨hroom, halloc⟩
    · rw [hroom]
      exact .inl ⟨.enomem, nofun, rfl⟩
    · rw [hroom]
      simp only [ne_eq, not_true_eq_false, if_false, item_roomFor]
      rcases hused : (s.item fd).used with _ | _
      · exact .inr ⟨hfd, hhandler, rfl, halloc, rfl⟩
      · have hfits : ¬ fd.toNat > s.fds.length :=
          Nat.not_lt.mpr (Nat.le_of_lt (lt_length_of_used hused))
        rw [FdSelector.roomFor, if_neg hfits]
        exact .inl ⟨.fdinuse, nofun, rfl⟩

theorem length_le_roomFor (fd : ℤ) : s.fds.length ≤ (s.roomFor fd).fds.length := by
  unfold FdSelector.roomFor
  split_ifs
  · rw [List.length_append]
    exact Nat.le_add_right _ _
  · exact Nat.le_refl _

theorem length_enter (item : Item η δ) : (s.enter fd item).fds.length = s.fds.length :=
  List.length_set

theorem item_enter_of_ne {fd' : ℤ} {item : Item η δ} (hne : fd.toNat ≠ fd'.toNat) :
    (s.enter fd item).item fd' = s.item fd' := by
  rw [FdSelector.enter, item_congr rfl]
  exact item_setItem_of_ne hne

end Registering

/-! ## The largest descriptor in use -/

section MaxFd

variable {η δ : Type} {s : FdSelector η δ} {fd : ℤ} {i : FdInterest}

/-- The body of the loop of `items_max_fd`. -/
def FdSelector.maxRound (s : FdSelector η δ) (max : ℤ) (i : ℕ) : ℤ :=
  if (s.item i).used && decide ((s.item i).fd > max) then (s.item i).fd else max

/-- `m` is the largest used index below `n`, or zero. -/
structure FdSelector.MaxBelow (s : FdSelector η δ) (n : ℕ) (m : ℤ) : Prop where
  used : m = 0 ∨ ∃ i : ℕ, m = i ∧ i < n ∧ (s.item i).used = true
  le : ∀ i < n, (s.item i).used = true → (i : ℤ) ≤ m

theorem FdSelector.MaxBelow.nonneg {n : ℕ} {m : ℤ} (h : s.MaxBelow n m) : 0 ≤ m := by
  rcases h.used with hzero | ⟨i, hi, -⟩ <;> omega

theorem maxBelow_round {n : ℕ} {m : ℤ} (h : s.MaxBelow n m)
    (hslot : (s.item n).fd = fdUnused ∨ (s.item n).fd = n) :
    s.MaxBelow (n + 1) (s.maxRound m n) := by
  have hnonneg := h.nonneg
  unfold FdSelector.maxRound
  rcases hused : (s.item n).used with _ | _
  · refine ⟨?_, ?_⟩
    · rcases h.used with hzero | ⟨i, hi, hlt, hi'⟩
      · exact .inl hzero
      · exact .inr ⟨i, hi, Nat.lt_succ_of_lt hlt, hi'⟩
    · intro i hi hi'
      have hne : i ≠ n := by
        rintro rfl
        rw [hused] at hi'
        cases hi'
      exact h.le i (by omega) hi'
  · have hfd : (s.item n).fd = n := by
      rcases hslot with hunused | hfd
      · rw [Item.used, hunused] at hused
        cases hused
      · exact hfd
    rw [hfd, Bool.true_and]
    refine ⟨?_, ?_⟩
    · split_ifs with hgt
      · exact .inr ⟨n, rfl, Nat.lt_succ_self n, hused⟩
      · rcases h.used with hzero | ⟨i, hi, hlt, hi'⟩
        · exact .inl hzero
        · exact .inr ⟨i, hi, Nat.lt_succ_of_lt hlt, hi'⟩
    · intro i hi hi'
      simp only [decide_eq_true_eq]
      rcases Nat.lt_succ_iff_lt_or_eq.mp hi with hlt | rfl
      · have hle := h.le i hlt hi'
        split_ifs <;> omega
      · split_ifs <;> omega

theorem maxBelow_rounds (hslot : ∀ i : ℕ, (s.item i).fd = fdUnused ∨ (s.item i).fd = i)
    (n : ℕ) : s.MaxBelow n ((List.range n).foldl s.maxRound 0) := by
  induction n with
  | zero => exact ⟨.inl rfl, fun i hi => absurd hi (Nat.not_lt_zero i)⟩
  | succ n ih =>
      rw [List.range_succ, List.foldl_append]
      exact maxBelow_round ih (hslot n)

/-- `items_max_fd` looks below the old maximum only. -/
theorem maxBelow_itemsMaxFd (hslot : ∀ i : ℕ, (s.item i).fd = fdUnused ∨ (s.item i).fd = i) :
    s.MaxBelow (s.maxFd + 1).toNat (itemsMaxFd s) := by
  have hloop : itemsMaxFd s = (List.range (s.maxFd + 1).toNat).foldl s.maxRound 0 := by
    simp only [itemsMaxFd, List.bind_eq_flatMap, List.pure_def, ← List.map_eq_flatMap,
      List.foldl_map]
    rfl
  rw [hloop]
  exact maxBelow_rounds hslot _

end MaxFd

/-! ## What every call keeps -/

section Keeping

variable {η δ : Type} {s t : FdSelector η δ} {fd : ℤ} {i : FdInterest}

/-- A used slot holds its own index. -/
theorem FdSelector.Consistent.fd_of_used (h : s.Consistent) {i : ℕ}
    (hused : (s.item i).used = true) : (s.item i).fd = i := by
  rcases h.slot i with hunused | hfd
  · rw [Item.used, hunused] at hused
    cases hused
  · exact hfd

theorem FdSelector.Consistent.fd_of_valid (h : s.Consistent) (hfd : invalidFd fd = false)
    (hused : (s.item fd).used = true) : (s.item fd).fd = fd := by
  rw [invalidFd_eq_false_iff] at hfd
  obtain ⟨n, rfl⟩ := Int.eq_ofNat_of_zero_le hfd.1
  exact h.fd_of_used hused

/-- Selectors with the same slots, sets and maximum. -/
theorem FdSelector.Consistent.congr (h : s.Consistent) (hitem : ∀ fd, t.item fd = s.item fd)
    (hr : t.masterR = s.masterR) (hw : t.masterW = s.masterW) (hmax : t.maxFd = s.maxFd) :
    t.Consistent where
  slot i := by rw [hitem]; exact h.slot i
  masterR i := by rw [hitem, hr]; exact h.masterR i
  masterW i := by rw [hitem, hw]; exact h.masterW i
  maxFd_used := by
    simp only [hmax, hitem]
    exact h.maxFd_used
  le_maxFd := by
    simp only [hmax, hitem]
    exact h.le_maxFd

theorem setItem_length {item : Item η δ} (fd : ℤ) :
    (s.setItem fd item).fds.length = s.fds.length :=
  List.length_set

/-- Slot `n` gets a new item, and the sets follow it. -/
theorem consistent_update {item : Item η δ} (h : s.Consistent) {n : ℕ} (hn : n < s.fds.length)
    (hitem : item.fd = n) {m : ℤ}
    (hused : m = 0 ∨ ∃ i : ℕ, m = i ∧ ((s.setItem n item).item i).used = true)
    (hle : ∀ i : ℕ, ((s.setItem n item).item i).used = true → (i : ℤ) ≤ m) :
    (itemsUpdateFdsetForFd { s.setItem n item with maxFd := m } item).Consistent := by
  have hself : (s.setItem n item).item n = item := item_setItem_self hn
  have hother : ∀ i : ℕ, i ≠ n → (s.setItem n item).item i = s.item i := fun i hi =>
    item_setItem_of_ne (Ne.symm hi)
  refine ⟨?_, ?_, ?_, hused, hle⟩
  · intro i
    change ((s.setItem n item).item i).fd = _ ∨ ((s.setItem n item).item i).fd = _
    by_cases hi : i = n
    · rw [hi, hself]
      exact .inr hitem
    · rw [hother i hi]
      exact h.slot i
  · intro i
    change (if (i : ℤ) = item.fd then _ else s.masterR i) =
      (((s.setItem n item).item i).used && ((s.setItem n item).item i).interest.read)
    rw [hitem]
    by_cases hi : i = n
    · rw [if_pos (congrArg _ hi), hi, hself]
    · rw [if_neg (fun heq => hi (Int.ofNat_inj.mp heq)), hother i hi]
      exact h.masterR i
  · intro i
    change (if (i : ℤ) = item.fd then _ else s.masterW i) =
      (((s.setItem n item).item i).used && ((s.setItem n item).item i).interest.write)
    rw [hitem]
    by_cases hi : i = n
    · rw [if_pos (congrArg _ hi), hi, hself]
    · rw [if_neg (fun heq => hi (Int.ofNat_inj.mp heq)), hother i hi]
      exact h.masterW i

theorem FdSelector.Consistent.roomFor (h : s.Consistent) (fd : ℤ) : (s.roomFor fd).Consistent := by
  refine h.congr (fun fd' => item_roomFor fd fd') ?_ ?_ ?_ <;>
    (unfold FdSelector.roomFor; split_ifs <;> rfl)

theorem FdSelector.Consistent.enter (h : s.Consistent) (hfd : invalidFd fd = false)
    (hlen : fd.toNat < s.fds.length) (handler : Option η) (data : Option δ) :
    (s.enter fd ⟨fd, i, handler, data⟩).Consistent := by
  rw [invalidFd_eq_false_iff] at hfd
  obtain ⟨n, rfl⟩ := Int.eq_ofNat_of_zero_le hfd.1
  have hself : (s.setItem n ⟨n, i, handler, data⟩).item n = ⟨n, i, handler, data⟩ :=
    item_setItem_self hlen
  have hused : ((s.setItem n ⟨n, i, handler, data⟩).item n).used = true := by
    rw [hself, Item.used, bne_iff_ne]
    intro hunused
    change (n : ℤ) = -1 at hunused
    omega
  have hother : ∀ j : ℕ, j ≠ n →
      (s.setItem n ⟨n, i, handler, data⟩).item j = s.item j := fun j hj =>
    item_setItem_of_ne (Ne.symm hj)
  refine consistent_update (n := n) h hlen rfl ?_ ?_
  · split_ifs with hgt
    · exact .inr ⟨n, rfl, hused⟩
    · rcases h.maxFd_used with hzero | ⟨j, hj, hj'⟩
      · exact .inl hzero
      · by_cases hjn : j = n
        · exact .inr ⟨n, hjn ▸ hj, hused⟩
        · exact .inr ⟨j, hj, (hother j hjn).symm ▸ hj'⟩
  · intro j hj
    by_cases hjn : j = n
    · split_ifs <;> omega
    · rw [hother j hjn] at hj
      have hle := h.le_maxFd j hj
      split_ifs <;> omega

theorem FdSelector.Consistent.setInterest (h : s.Consistent) :
    (selectorSetInterest s fd i).1.Consistent := by
  unfold selectorSetInterest
  split_ifs with hfd hused
  · exact h
  · exact h
  · rw [Bool.not_eq_true, invalidFd_eq_false_iff] at hfd
    rw [Bool.not_eq_true, Bool.not_eq_false'] at hused
    obtain ⟨n, rfl⟩ := Int.eq_ofNat_of_zero_le hfd.1
    have hlen : n < s.fds.length := lt_length_of_used hused
    have hsame : ∀ j : ℕ,
        ((s.setItem n { s.item n with interest := i }).item j).used = (s.item j).used := by
      intro j
      by_cases hj : j = n
      · rw [hj, show (s.setItem n { s.item n with interest := i }).item n = _ from
          item_setItem_self hlen]
        rfl
      · rw [show (s.setItem n { s.item n with interest := i }).item j = _ from
          item_setItem_of_ne (Ne.symm hj)]
    have hitem : ({ s.item n with interest := i } : Item η δ).fd = n := h.fd_of_used hused
    refine consistent_update (m := s.maxFd) h hlen hitem ?_ ?_
    · simp only [hsame]
      exact h.maxFd_used
    · simp only [hsame]
      exact h.le_maxFd

theorem item_setItem_blank (n : ℕ) : (s.setItem n Item.blank).item n = Item.blank := by
  by_cases hlen : n < s.fds.length
  · exact item_setItem_self hlen
  · have hout : (s.setItem n Item.blank).fds.length ≤ n := by
      rw [setItem_length]
      exact Nat.not_lt.mp hlen
    rw [FdSelector.item, List.getD_eq_getElem?_getD, Int.toNat_natCast,
      List.getElem?_eq_none hout]
    rfl

/-- The items after the end of the two unregister functions. -/
theorem item_selectorClearItem (s : FdSelector η δ) (n j : ℕ) :
    (selectorClearItem s n).item j = if j = n then Item.blank else s.item j := by
  change ((itemsUpdateFdsetForFd s { s.item n with interest := .opNoop }).setItem n
    Item.blank).item j = _
  split_ifs with hj
  · rw [hj, item_setItem_blank]
  · have hne : (n : ℤ).toNat ≠ (j : ℤ).toNat := fun heq => hj heq.symm
    rw [item_setItem_of_ne hne]
    exact item_congr rfl j

/-- The end of the two unregister functions, also where the item has already
been cleared. -/
theorem FdSelector.Consistent.clearItem (h : s.Consistent) (hfd : invalidFd fd = false) :
    (selectorClearItem s fd).Consistent := by
  rw [invalidFd_eq_false_iff] at hfd
  obtain ⟨n, rfl⟩ := Int.eq_ofNat_of_zero_le hfd.1
  have hitem := item_selectorClearItem s n
  have hslot : ∀ j : ℕ, ((selectorClearItem s n).item j).fd = fdUnused ∨
      ((selectorClearItem s n).item j).fd = j := by
    intro j
    rw [hitem]
    split_ifs
    · exact .inl rfl
    · exact h.slot j
  have hused : ∀ j : ℕ, ((selectorClearItem s n).item j).used = true →
      j ≠ n ∧ (s.item j).used = true := by
    intro j hj
    rw [hitem] at hj
    split_ifs at hj with hjn
    · cases hj
    · exact ⟨hjn, hj⟩
  -- a bit the old item does not name is not set for this slot either
  have hbit : ∀ (master : ℤ → Bool) (bit : FdInterest → Bool),
      (∀ j : ℕ, master j = ((s.item j).used && bit (s.item j).interest)) → ∀ j : ℕ,
      (if (j : ℤ) = (s.item n).fd then false else master j) =
        (((selectorClearItem s n).item j).used &&
          bit ((selectorClearItem s n).item j).interest) := by
    intro master bit hmaster j
    rw [hitem]
    by_cases hj : j = n
    · subst hj
      rw [if_pos rfl]
      rcases h.slot j with hunused | hfd'
      · rw [hmaster, Item.used, hunused]
        exact ite_self _
      · rw [if_pos hfd'.symm]
        rfl
    · have hne : (j : ℤ) ≠ (s.item n).fd := by
        rcases h.slot n with hunused | hfd'
        · rw [hunused, fdUnused]
          omega
        · rw [hfd']
          omega
      rw [if_neg hj, if_neg hne]
      exact hmaster j
  have hmax : (selectorClearItem s n).MaxBelow (s.maxFd + 1).toNat
      (selectorClearItem s n).maxFd := by
    have hrounds := maxBelow_itemsMaxFd
      (s := (itemsUpdateFdsetForFd s { s.item n with interest := .opNoop }).setItem n Item.blank)
      hslot
    exact ⟨hrounds.used, hrounds.le⟩
  refine ⟨hslot, ?_, ?_, ?_, ?_⟩
  · intro j
    rw [← hbit s.masterR FdInterest.read h.masterR j]
    change (if (j : ℤ) = (s.item n).fd then _ && false else _) = _
    rw [Bool.and_false]
  · intro j
    rw [← hbit s.masterW FdInterest.write h.masterW j]
    change (if (j : ℤ) = (s.item n).fd then _ && false else _) = _
    rw [Bool.and_false]
  · rcases hmax.used with hzero | ⟨j, hj, -, hj'⟩
    · exact .inl hzero
    · exact .inr ⟨j, hj, hj'⟩
  · intro j hj
    have hle := h.le_maxFd j (hused j hj).2
    exact hmax.le j (by omega) hj

theorem consistent_of_blank (hitem : ∀ fd, s.item fd = Item.blank)
    (hr : ∀ fd, s.masterR fd = false) (hw : ∀ fd, s.masterW fd = false) (hmax : s.maxFd = 0) :
    s.Consistent where
  slot i := by rw [hitem]; exact .inl rfl
  masterR i := by rw [hitem, hr]; rfl
  masterW i := by rw [hitem, hw]; rfl
  maxFd_used := .inl hmax
  le_maxFd i hi := by rw [hitem] at hi; cases hi

end Keeping

/-! ## A new selector -/

section New

variable {η δ : Type} {s : FdSelector η δ} {n : ℕ} {alloc : Bool}

/-- What `selector_new` returns, if it returns a selector. -/
theorem selectorNew_eq_some (h : selectorNew n alloc = some s) :
    n ≤ fdSetsize ∧ s = { (.zeroed : FdSelector η δ) with
      fds := List.replicate (nextCapacity n) Item.blank } := by
  rw [selectorNew, ensureCapacity] at h
  rcases alloc with _ | _
  · cases h
  · rw [if_pos rfl, if_neg (show ¬ n < (FdSelector.zeroed : FdSelector η δ).fds.length from
      Nat.not_lt_zero n)] at h
    by_cases hmax : n > fdSetsize
    · rw [if_pos hmax] at h
      cases h
    · rw [if_neg hmax] at h
      refine ⟨Nat.not_lt.mp hmax, ?_⟩
      cases h
      rfl

theorem item_selectorNew (h : selectorNew n alloc = some s) (fd : ℤ) : s.item fd = Item.blank := by
  obtain ⟨-, rfl⟩ := selectorNew_eq_some h
  simp only [FdSelector.item, List.getD_eq_getElem?_getD, List.getElem?_replicate]
  split_ifs <;> rfl

theorem selectorNew_consistent (h : selectorNew n alloc = some s) : s.Consistent := by
  refine consistent_of_blank (item_selectorNew h) ?_ ?_ ?_ <;>
    (obtain ⟨-, rfl⟩ := selectorNew_eq_some h) <;> intros <;> rfl

end New

/-! ## Runs -/

section Runs

variable {η δ : Type} {s : FdSelector η δ}

/-- The invariant, and a table that has a slot for every valid descriptor. -/
structure FdSelector.Covers (s : FdSelector η δ) : Prop extends s.Consistent where
  slots : fdSetsize ≤ s.fds.length

theorem FdSelector.Covers.lt_length (h : s.Covers) {fd : ℤ} (hfd : invalidFd fd = false) :
    fd.toNat < s.fds.length := toNat_lt_of_valid hfd h.slots

theorem FdSelector.Covers.clearItem (h : s.Covers) {fd : ℤ} (hfd : invalidFd fd = false) :
    (selectorClearItem s fd).Covers where
  toConsistent := h.toConsistent.clearItem hfd
  slots := by
    rw [length_fds_selectorClearItem]
    exact h.slots

/-- What one call does: an error changes nothing, and the invariant is kept. -/
theorem FdSelector.Covers.call (h : s.Covers) (call : SelectorCall η δ) :
    (selectorCall s call).1.Covers ∧
      ((selectorCall s call).2 ≠ .success → (selectorCall s call).1 = s) := by
  rcases call with ⟨fd, handler, interest, data, alloc⟩ | fd | fd | ⟨fd, i⟩ | -
  · rcases selectorRegister_cases s fd handler interest data alloc with
      ⟨status, -, hcall⟩ | ⟨hfd, -, -, -, hcall⟩
    · rw [selectorCall, hcall]
      exact ⟨h, fun _ => rfl⟩
    · rw [selectorCall, hcall]
      have hlen : fd.toNat < (s.roomFor fd).fds.length :=
        Nat.lt_of_lt_of_le (h.lt_length hfd) (length_le_roomFor fd)
      refine ⟨⟨(h.toConsistent.roomFor fd).enter hfd hlen handler data, ?_⟩, ?_⟩
      · rw [length_enter]
        exact Nat.le_trans h.slots (length_le_roomFor fd)
      · intro hsuccess
        exact absurd rfl hsuccess
  · rw [selectorCall, selectorUnregisterFd]
    split_ifs with hfd hused
    · exact ⟨h, fun _ => rfl⟩
    · exact ⟨h, fun _ => rfl⟩
    · exact ⟨h.clearItem (Bool.not_eq_true _ ▸ hfd), fun hsuccess => absurd rfl hsuccess⟩
  · rw [selectorCall, selectorUnregisterFdWithoutClosing]
    split_ifs with hfd hused
    · exact ⟨h, fun _ => rfl⟩
    · exact ⟨h, fun _ => rfl⟩
    · exact ⟨h.clearItem (Bool.not_eq_true _ ▸ hfd), fun hsuccess => absurd rfl hsuccess⟩
  · refine ⟨⟨h.toConsistent.setInterest, ?_⟩, ?_⟩
    · rw [selectorCall, length_fds_selectorSetInterest]
      exact h.slots
    · rw [selectorCall, selectorSetInterest]
      split_ifs
      · exact fun _ => rfl
      · exact fun _ => rfl
      · exact fun hsuccess => absurd rfl hsuccess
  · exact ⟨h, fun _ => rfl⟩

/-- The selector after calls from outside. -/
def selectorCalls (s : FdSelector η δ) (calls : List (SelectorCall η δ)) : FdSelector η δ :=
  calls.foldl (fun s call => (selectorCall s call).1) s

theorem FdSelector.Covers.calls (h : s.Covers) (calls : List (SelectorCall η δ)) :
    (selectorCalls s calls).Covers :=
  List.foldlRecOn calls _ h fun _ ht call _ => (ht.call call).1

/-- `SELECTOR_CAPACITY`, which `main` creates the selector with. -/
def selectorCapacity : ℕ := 1024

theorem selectorNew_covers (h : selectorNew selectorCapacity true = some s) : s.Covers where
  toConsistent := selectorNew_consistent h
  slots := by
    obtain ⟨-, rfl⟩ := selectorNew_eq_some h
    have hcapacity : nextCapacity selectorCapacity = fdSetsize + 1 := by decide
    rw [List.length_replicate, hcapacity]
    exact Nat.le_succ _

/-- The selector of `main`: after any calls the three views of the
registrations agree, and a call that reports an error changes nothing. -/
theorem selector_consistent :
    ∃ s : FdSelector η δ, selectorNew selectorCapacity true = some s ∧
      ∀ calls : List (SelectorCall η δ), (selectorCalls s calls).Consistent ∧
        ∀ call, (selectorCall (selectorCalls s calls) call).2 ≠ .success →
          (selectorCall (selectorCalls s calls) call).1 = selectorCalls s calls := by
  obtain ⟨s, hs⟩ : ∃ s : FdSelector η δ, selectorNew selectorCapacity true = some s :=
    ⟨_, rfl⟩
  refine ⟨s, hs, fun calls => ?_⟩
  have hcovers := (selectorNew_covers hs).calls calls
  exact ⟨hcovers.toConsistent, fun call => (hcovers.call call).2⟩

end Runs

end Socks5Proxy

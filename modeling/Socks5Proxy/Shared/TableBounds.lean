import Mathlib.Algebra.Group.Nat.Defs
import Socks5Proxy.Shared.Registry
import Socks5Proxy.Shared.SelectorInvariant

/-!
# What the selector touches

`perform` gives the selector after a call.  `events` lists what the call does
on the way: which slots of `fds` it reads or writes and how many there are,
which bits of the descriptor sets it changes, and which `handle_close` it runs.

The checks of the calls are against `FD_SETSIZE`, and the table may be smaller.
`selector_register` makes room for a descriptor above `fd_size` but not for
`fd_size` itself, and the other calls do not compare with `fd_size` at all.
-/

namespace Socks5Proxy

/-- `slot` is an access to `s->fds + i`; `stale` is one through an item pointer
into a table that has been reallocated since.  `registered` is a
`selector_register` that succeeds, with the selector before and after it. -/
inductive SelectorEvent (η δ : Type)
  | slot (i : ℤ) (fdSize : ℕ)
  | stale
  | bit (fd : ℤ)
  | handleClose (fd : ℤ) (generation : ℕ)
  | registered (fd : ℤ) (before after : FdSelector η δ)

section Events

variable {η δ : Type}

/-- The bits `items_update_fdset_for_fd` changes. -/
def itemBits (item : Item η δ) : List (SelectorEvent η δ) :=
  [.bit item.fd, .bit item.fd] ++
    (if item.used && item.interest.read then [.bit item.fd] else []) ++
    if item.used && item.interest.write then [.bit item.fd] else []

/-- The slots `items_max_fd` looks at. -/
def scannedSlots (s : FdSelector η δ) : List (SelectorEvent η δ) :=
  (List.range (s.maxFd + 1).toNat).map fun i : ℕ => .slot i s.fds.length

/-- `selector_register` once it has room. -/
def registerEvents (before s : FdSelector η δ) (fd : ℤ) (item : Item η δ) :
    List (SelectorEvent η δ) :=
  .slot fd s.fds.length ::
    if (s.item fd).used then
      []
    else
      itemBits item ++ [.registered fd before (s.enter fd item)]

/-- The end of the two unregister functions, in a table that had `fdSize` slots
when the item was looked up. -/
def clearEvents (s : FdSelector η δ) (fd : ℤ) (fdSize : ℕ) : List (SelectorEvent η δ) :=
  (if s.fds.length = fdSize then [] else [.stale]) ++
    itemBits { s.item fd with interest := .opNoop } ++ scannedSlots s

namespace Registry

variable (callbacks : Callbacks η)

/-- The descriptor is registered with a handler that has a `handle_close`. -/
def closes (r : Registry η δ) (fd : ℤ) : Bool :=
  (r.sel.item fd).used && (r.sel.item fd).handler.any callbacks.close

mutual

/-- What a call does on the way. -/
def events (r : Registry η δ) : Operation η δ → List (SelectorEvent η δ)
  | .register fd handler interest data alloc =>
    if invalidFd fd || handler.isNone then
      []
    else if fd.toNat > r.sel.fds.length && !alloc then
      []
    else
      registerEvents r.sel (r.sel.roomFor fd) fd ⟨fd, interest, handler, data⟩
  | .setInterest fd i =>
    if invalidFd fd then
      []
    else
      .slot fd r.sel.fds.length ::
        if (r.sel.item fd).used then itemBits { r.sel.item fd with interest := i } else []
  | .unregister fd handleClose =>
    if invalidFd fd then
      []
    else
      .slot fd r.sel.fds.length ::
        if closes callbacks r fd then
          .handleClose (r.sel.item fd).fd (r.generation fd) :: (eventsAll r handleClose ++
            clearEvents (performAll callbacks r handleClose).sel fd r.sel.fds.length)
        else if (r.sel.item fd).used then
          clearEvents r.sel fd r.sel.fds.length
        else
          []
  | .unregisterWithoutClosing fd =>
    if invalidFd fd then
      []
    else
      .slot fd r.sel.fds.length ::
        if (r.sel.item fd).used then clearEvents r.sel fd r.sel.fds.length else []
  | .startWork _ => []

def eventsAll (r : Registry η δ) : List (Operation η δ) → List (SelectorEvent η δ)
  | [] => []
  | op :: ops => events r op ++ eventsAll (perform callbacks r op) ops

end

mutual

/-- The call names a slot the table has, or one `selector_register` makes room
for, and no `handle_close` moves the table. -/
def WithinTable (r : Registry η δ) : Operation η δ → Prop
  | .register fd handler _ _ _ =>
    invalidFd fd = true ∨ handler.isNone = true ∨ fd ≠ r.sel.fds.length
  | .setInterest fd _ => invalidFd fd = true ∨ fd < r.sel.fds.length
  | .unregister fd handleClose =>
    invalidFd fd = true ∨ fd < r.sel.fds.length ∧
      (closes callbacks r fd = true → WithinTableAll r handleClose ∧
        (performAll callbacks r handleClose).sel.fds.length = r.sel.fds.length)
  | .unregisterWithoutClosing fd => invalidFd fd = true ∨ fd < r.sel.fds.length
  | .startWork _ => True

def WithinTableAll (r : Registry η δ) : List (Operation η δ) → Prop
  | [] => True
  | op :: ops => WithinTable r op ∧ WithinTableAll (perform callbacks r op) ops

end

end Registry

/-- The registrations of `before` are in `after`, which has the slot of `fd`,
and the slots that are new are unused. -/
structure Grown (fd : ℤ) (before after : FdSelector η δ) : Prop where
  slot : fd < after.fds.length
  length_le : before.fds.length ≤ after.fds.length
  item : ∀ i : ℕ, (before.item i).used = true → after.item i = before.item i
  unused : ∀ i : ℕ, before.fds.length ≤ i → (i : ℤ) ≠ fd → (after.item i).used = false

/-- An access stays inside the table, and a registration keeps the others. -/
def SelectorEvent.Sound : SelectorEvent η δ → Prop
  | .slot i fdSize => 0 ≤ i ∧ i < fdSize
  | .stale => False
  | .bit _ => True
  | .handleClose _ _ => True
  | .registered fd before after => Grown fd before after

end Events

/-! ## Making room -/

section Room

variable {η δ : Type} {s : FdSelector η δ} {fd : ℤ}

theorem lt_two_pow_nextCapacityBits {fuel n : ℕ} (h : n < fuel) :
    n < 2 ^ nextCapacityBits fuel n := by
  induction fuel generalizing n with
  | zero => exact absurd h (Nat.not_lt_zero n)
  | succ fuel ih =>
      rw [nextCapacityBits]
      split_ifs with hn
      · have hhalf := ih (show n / 2 < fuel by omega)
        rw [Nat.pow_succ]
        omega
      · omega

/-- The new capacity has a slot for the descriptor asked for. -/
theorem lt_nextCapacity {n : ℕ} (h : n ≤ fdSetsize) : n < nextCapacity n := by
  have hbits : n < 2 ^ nextCapacityBits (n + 1) n :=
    lt_two_pow_nextCapacityBits (Nat.lt_succ_self n)
  rw [nextCapacity, Nat.one_shiftLeft]
  split_ifs <;> omega

/-- `selector_register` makes room for every descriptor but `fd_size`. -/
theorem lt_length_roomFor_iff (hfd : invalidFd fd = false) :
    fd.toNat < (s.roomFor fd).fds.length ↔ fd ≠ s.fds.length := by
  rw [invalidFd_eq_false_iff] at hfd
  unfold FdSelector.roomFor
  split_ifs with hgrow
  · have hroom : fd.toNat < nextCapacity fd.toNat := lt_nextCapacity (by omega)
    simp only [List.length_append, List.length_replicate]
    omega
  · omega

/-- A registration in a slot of its own. -/
theorem grown_enter (hfd : invalidFd fd = false) (hfree : (s.item fd).used = false)
    (item : Item η δ) :
    Grown fd s ((s.roomFor fd).enter fd item) ↔ fd ≠ s.fds.length := by
  have hvalid := hfd
  rw [invalidFd_eq_false_iff] at hvalid
  rw [← lt_length_roomFor_iff hfd]
  constructor
  · intro h
    have hslot := h.slot
    rw [length_enter] at hslot
    omega
  · intro hlt
    refine ⟨?_, ?_, ?_, ?_⟩
    · rw [length_enter]
      omega
    · rw [length_enter]
      exact length_le_roomFor fd
    · intro i hi
      have hne : fd.toNat ≠ (i : ℤ).toNat := by
        intro heq
        have hfdi : fd = i := by omega
        rw [hfdi] at hfree
        rw [hfree] at hi
        cases hi
      rw [item_enter_of_ne hne, item_roomFor]
    · intro i hi hne
      have hne' : fd.toNat ≠ (i : ℤ).toNat := by omega
      rw [item_enter_of_ne hne', item_roomFor]
      by_contra hused
      rw [Bool.not_eq_false] at hused
      have hlt := lt_length_of_used hused
      omega

end Room

/-! ## Sound calls -/

section Sound

variable {η δ : Type} {s : FdSelector η δ} {fd : ℤ}

/-- The invariant, and a table with slots. -/
structure FdSelector.Allocated (s : FdSelector η δ) : Prop extends s.Consistent where
  slots : 0 < s.fds.length

theorem itemBits_sound (item : Item η δ) : ∀ e ∈ itemBits item, e.Sound := by
  intro e he
  have hbit : e = .bit item.fd := by
    unfold itemBits at he
    split_ifs at he <;> simpa using he
  rw [hbit]
  trivial

/-- The loop of `items_max_fd` stays inside the table. -/
theorem FdSelector.Allocated.scanned (h : s.Allocated) : ∀ e ∈ scannedSlots s, e.Sound := by
  intro e he
  obtain ⟨i, hi, rfl⟩ := List.mem_map.mp he
  rw [List.mem_range] at hi
  have hmax : s.maxFd < s.fds.length := by
    have hslots := h.slots
    rcases h.maxFd_used with hzero | ⟨j, hj, hused⟩
    · omega
    · have hlt := lt_length_of_used hused
      omega
  exact ⟨by omega, by omega⟩

theorem FdSelector.Allocated.clearEvents_sound_iff (h : s.Allocated) (fd : ℤ) (fdSize : ℕ) :
    (∀ e ∈ clearEvents s fd fdSize, e.Sound) ↔ s.fds.length = fdSize := by
  unfold clearEvents
  constructor
  · intro hsound
    by_contra hmoved
    rw [if_neg hmoved] at hsound
    exact hsound .stale (by simp)
  · intro hsame e he
    rw [if_pos hsame, List.nil_append, List.mem_append] at he
    rcases he with hbit | hscan
    · exact itemBits_sound _ e hbit
    · exact h.scanned e hscan

theorem FdSelector.Allocated.clearItem (h : s.Allocated) (hfd : invalidFd fd = false) :
    (selectorClearItem s fd).Allocated where
  toConsistent := h.toConsistent.clearItem hfd
  slots := by
    rw [length_fds_selectorClearItem]
    exact h.slots

theorem registerEvents_sound_iff (hfd : invalidFd fd = false) (item : Item η δ) :
    (∀ e ∈ registerEvents s (s.roomFor fd) fd item, e.Sound) ↔ fd ≠ s.fds.length := by
  have hslot : (SelectorEvent.slot (η := η) (δ := δ) fd (s.roomFor fd).fds.length).Sound ↔
      fd ≠ s.fds.length := by
    rw [← lt_length_roomFor_iff hfd, SelectorEvent.Sound]
    rw [invalidFd_eq_false_iff] at hfd
    omega
  unfold registerEvents
  rw [List.forall_mem_cons, hslot, item_roomFor]
  refine and_iff_left_of_imp fun hne => ?_
  rcases hused : (s.item fd).used with _ | _
  · simp only [Bool.false_eq_true, if_false, List.forall_mem_append, List.forall_mem_singleton]
    exact ⟨itemBits_sound item, (grown_enter hfd hused item).mpr hne⟩
  · simp

end Sound

/-! ## Runs -/

section Runs

variable {η δ : Type} {callbacks : Callbacks η}

namespace Registry

theorem sel_register (r : Registry η δ) (fd : ℤ) (result : FdSelector η δ × SelectorStatus) :
    (r.register fd result).sel = result.1 := by
  unfold register
  split_ifs <;> rfl

theorem register_allocated (r : Registry η δ) (hr : r.sel.Allocated) {fd : ℤ}
    {handler : Option η} {i : FdInterest} {data : Option δ} {alloc : Bool}
    (hwithin : WithinTable callbacks r (.register fd handler i data alloc)) :
    (perform callbacks r (.register fd handler i data alloc)).sel.Allocated := by
  rw [perform, sel_register]
  rcases selectorRegister_cases r.sel fd handler i data alloc with
    ⟨status, -, hcall⟩ | ⟨hfd, hhandler, -, -, hcall⟩
  · rw [hcall]
    exact hr
  · rw [hcall]
    have hne : fd ≠ r.sel.fds.length := by
      rcases hwithin with hinvalid | hnone | hne
      · rw [hfd] at hinvalid
        cases hinvalid
      · rw [← Option.not_isSome, hhandler] at hnone
        cases hnone
      · exact hne
    have hlen := (lt_length_roomFor_iff hfd).mpr hne
    refine ⟨(hr.toConsistent.roomFor fd).enter hfd hlen handler data, ?_⟩
    rw [length_enter]
    omega

theorem register_sound_iff (r : Registry η δ) (fd : ℤ) (handler : Option η) (i : FdInterest)
    (data : Option δ) (alloc : Bool) :
    (∀ e ∈ events callbacks r (.register fd handler i data alloc), e.Sound) ↔
      WithinTable callbacks r (.register fd handler i data alloc) := by
  rw [events, WithinTable]
  split_ifs with hargs hmemory
  · rw [Bool.or_eq_true] at hargs
    exact iff_of_true (List.forall_mem_nil _) (hargs.imp_right .inl)
  · -- out of memory: the descriptor lies above the table
    have hne : fd ≠ r.sel.fds.length := by
      simp only [Bool.and_eq_true, decide_eq_true_eq] at hmemory
      omega
    exact iff_of_true (List.forall_mem_nil _) (.inr (.inr hne))
  · rw [Bool.not_eq_true, Bool.or_eq_false_iff] at hargs
    rw [registerEvents_sound_iff hargs.1, hargs.1, hargs.2]
    simp

/-- A call that looks an item up and is sound after that. -/
theorem slot_cons_sound_iff {fd : ℤ} (hfd : ¬ invalidFd fd = true) {fdSize : ℕ} {p : Prop}
    {es : List (SelectorEvent η δ)} (hes : (∀ e ∈ es, e.Sound) ↔ p) :
    (∀ e ∈ SelectorEvent.slot fd fdSize :: es, e.Sound) ↔
      invalidFd fd = true ∨ fd < fdSize ∧ p := by
  have hslot : (SelectorEvent.slot (η := η) (δ := δ) fd fdSize).Sound ↔ fd < fdSize := by
    rw [Bool.not_eq_true, invalidFd_eq_false_iff] at hfd
    rw [SelectorEvent.Sound]
    omega
  rw [List.forall_mem_cons, hslot, hes]
  exact (or_iff_right hfd).symm

theorem setInterest_sound_iff (r : Registry η δ) (fd : ℤ) (i : FdInterest) :
    (∀ e ∈ events callbacks r (.setInterest fd i), e.Sound) ↔
      WithinTable callbacks r (.setInterest fd i) := by
  rw [events, WithinTable]
  split_ifs with hfd hused
  · exact iff_of_true (List.forall_mem_nil _) (.inl hfd)
  · rw [slot_cons_sound_iff hfd (iff_true_intro (itemBits_sound _)), and_true]
  · rw [slot_cons_sound_iff hfd (iff_true_intro (List.forall_mem_nil _)), and_true]

theorem setInterest_allocated (r : Registry η δ) (hr : r.sel.Allocated) (fd : ℤ)
    (i : FdInterest) : (perform callbacks r (.setInterest fd i)).sel.Allocated where
  toConsistent := hr.toConsistent.setInterest
  slots := by
    rw [perform, length_fds_selectorSetInterest]
    exact hr.slots

theorem unregister_sound_iff (r : Registry η δ) (hr : r.sel.Allocated) (fd : ℤ) :
    (∀ e ∈ events callbacks r (.unregisterWithoutClosing fd), e.Sound) ↔
      WithinTable callbacks r (.unregisterWithoutClosing fd) := by
  rw [events, WithinTable]
  split_ifs with hfd hused
  · exact iff_of_true (List.forall_mem_nil _) (.inl hfd)
  · have hclear := hr.clearEvents_sound_iff fd r.sel.fds.length
    rw [slot_cons_sound_iff hfd (hclear.trans (iff_true_intro rfl)), and_true]
  · rw [slot_cons_sound_iff hfd (iff_true_intro (List.forall_mem_nil _)), and_true]

theorem unregister_allocated (r : Registry η δ) (hr : r.sel.Allocated) (fd : ℤ) :
    (perform callbacks r (.unregisterWithoutClosing fd)).sel.Allocated := by
  rw [perform, selectorUnregisterFdWithoutClosing]
  split_ifs with hfd
  · exact hr
  · exact hr
  · exact hr.clearItem (Bool.not_eq_true _ ▸ hfd)

/-- `selector_unregister_fd` looks an item up, runs `handle_close` and clears
the item. -/
theorem closing_sound_iff (r : Registry η δ) (hr : r.sel.Allocated) (fd : ℤ)
    {handleClose : List (Operation η δ)} {p : Prop}
    (hnested : ((∀ e ∈ eventsAll callbacks r handleClose, e.Sound) ↔ p) ∧
      (p → (performAll callbacks r handleClose).sel.Allocated)) :
    (∀ e ∈ events callbacks r (.unregister fd handleClose), e.Sound) ↔
      invalidFd fd = true ∨ fd < r.sel.fds.length ∧ (closes callbacks r fd = true →
        p ∧ (performAll callbacks r handleClose).sel.fds.length = r.sel.fds.length) := by
  rw [events]
  split_ifs with hfd hcloses hused
  · exact iff_of_true (List.forall_mem_nil _) (.inl hfd)
  · refine slot_cons_sound_iff hfd ?_
    rw [List.forall_mem_cons, List.forall_mem_append, hnested.1]
    simp only [SelectorEvent.Sound, true_and, hcloses, true_imp_iff]
    exact and_congr_right fun hp => (hnested.2 hp).clearEvents_sound_iff fd _
  · refine slot_cons_sound_iff hfd ?_
    exact (hr.clearEvents_sound_iff fd _).trans (iff_of_true rfl fun hyes => absurd hyes hcloses)
  · exact slot_cons_sound_iff hfd
      (iff_of_true (List.forall_mem_nil _) fun hyes => absurd hyes hcloses)

theorem closing_allocated (r : Registry η δ) (hr : r.sel.Allocated) (fd : ℤ)
    {handleClose : List (Operation η δ)}
    (hnested : closes callbacks r fd = true → (performAll callbacks r handleClose).sel.Allocated) :
    (perform callbacks r (.unregister fd handleClose)).sel.Allocated := by
  rw [perform]
  split_ifs with hfd hused hcloses
  · exact hr
  · exact hr
  · rw [Bool.not_eq_true, Bool.not_eq_false'] at hused
    refine (hnested ?_).clearItem (Bool.not_eq_true _ ▸ hfd)
    rw [closes, hused, hcloses]
    rfl
  · exact hr.clearItem (Bool.not_eq_true _ ▸ hfd)

mutual

/-- A call is sound exactly if it names a slot of the table; then the invariant
is kept. -/
theorem sound_iff (r : Registry η δ) : ∀ op : Operation η δ, r.sel.Allocated →
    ((∀ e ∈ events callbacks r op, e.Sound) ↔ WithinTable callbacks r op) ∧
      (WithinTable callbacks r op → (perform callbacks r op).sel.Allocated)
  | .register fd handler interest data alloc => fun hr =>
    ⟨register_sound_iff r fd handler interest data alloc, register_allocated r hr⟩
  | .setInterest fd i => fun hr =>
    ⟨setInterest_sound_iff r fd i, fun _ => setInterest_allocated r hr fd i⟩
  | .unregister fd handleClose => fun hr => by
    have hnested := soundAll_iff r handleClose hr
    refine ⟨closing_sound_iff r hr fd hnested, ?_⟩
    rintro (hfd | ⟨-, hwithin⟩)
    · rw [perform, if_pos hfd]
      exact hr
    · exact closing_allocated r hr fd fun hcloses => hnested.2 (hwithin hcloses).1
  | .unregisterWithoutClosing fd => fun hr =>
    ⟨unregister_sound_iff r hr fd, fun _ => unregister_allocated r hr fd⟩
  | .startWork fd => fun hr => by
    refine ⟨iff_of_true (List.forall_mem_nil _) trivial, fun _ => ?_⟩
    rw [perform, startWork]
    split_ifs <;> exact hr

theorem soundAll_iff (r : Registry η δ) : ∀ ops : List (Operation η δ), r.sel.Allocated →
    ((∀ e ∈ eventsAll callbacks r ops, e.Sound) ↔ WithinTableAll callbacks r ops) ∧
      (WithinTableAll callbacks r ops → (performAll callbacks r ops).sel.Allocated)
  | [] => fun hr => ⟨iff_of_true (List.forall_mem_nil _) trivial, fun _ => hr⟩
  | op :: ops => fun hr => by
    obtain ⟨hop, hnext⟩ := sound_iff r op hr
    constructor
    · rw [eventsAll, List.forall_mem_append, hop, WithinTableAll]
      exact and_congr_right fun hwithin =>
        (soundAll_iff (perform callbacks r op) ops (hnext hwithin)).1
    · rintro ⟨hwithin, hrest⟩
      exact (soundAll_iff (perform callbacks r op) ops (hnext hwithin)).2 hrest

end

end Registry

theorem selectorNew_allocated {s : FdSelector η δ} {n : ℕ} {alloc : Bool}
    (h : selectorNew n alloc = some s) : s.Allocated where
  toConsistent := selectorNew_consistent h
  slots := by
    obtain ⟨hn, rfl⟩ := selectorNew_eq_some h
    have hcapacity := lt_nextCapacity hn
    rw [List.length_replicate]
    omega

theorem new_allocated {s : FdSelector η δ} (h : s.Allocated) : (Registry.new s).sel.Allocated where
  toConsistent := h.toConsistent.congr (fun _ => rfl) rfl rfl rfl
  slots := h.slots

open Registry

/-- The table is indexed inside its bounds, and grown without loss, exactly in
the runs whose calls stay within it. -/
theorem table_sound_iff (callbacks : Callbacks η) {s : FdSelector η δ} {initialElements : ℕ}
    {alloc : Bool} (hs : selectorNew initialElements alloc = some s)
    (ops : List (Operation η δ)) :
    (∀ e ∈ eventsAll callbacks (Registry.new s) ops, e.Sound) ↔
      WithinTableAll callbacks (Registry.new s) ops :=
  (soundAll_iff (Registry.new s) ops (new_allocated (selectorNew_allocated hs))).1

/-- A table of nine slots grows for the descriptor 12. -/
theorem table_sound_grown :
    ∃ s : FdSelector Unit Unit, selectorNew 4 true = some s ∧
      ∀ e ∈ eventsAll ⟨fun _ => true, fun _ => true, fun _ => true, fun _ => true⟩
        (Registry.new s) [.register 3 (some ()) .opRead none true,
          .register 12 (some ()) .opWrite none true, .setInterest 12 .opRead,
          .unregister 3 [.setInterest 12 .opNoop]], e.Sound := by
  obtain ⟨s, hs⟩ : ∃ s : FdSelector Unit Unit, selectorNew 4 true = some s := ⟨_, rfl⟩
  refine ⟨s, hs, (table_sound_iff _ hs _).mpr ?_⟩
  obtain ⟨-, rfl⟩ := selectorNew_eq_some hs
  exact ⟨.inr (.inr (by decide)), .inr (.inr (by decide)), .inr (by decide),
    .inr ⟨by decide, fun _ => ⟨⟨.inr (by decide), trivial⟩, by decide⟩⟩, trivial⟩

/-- The table has two slots, and the third one is written to. -/
theorem register_at_fdSize :
    ∃ s : FdSelector Unit Unit, selectorNew 0 true = some s ∧
      ¬ ∀ e ∈ eventsAll ⟨fun _ => true, fun _ => true, fun _ => true, fun _ => true⟩
        (Registry.new s) [.register 2 (some ()) .opRead none true], e.Sound := by
  refine ⟨_, rfl, ?_⟩
  intro h
  have hslot : (SelectorEvent.slot (η := Unit) (δ := Unit) 2 2).Sound := by
    apply h
    exact List.mem_cons_self
  exact absurd hslot.2 (by decide)

end Runs

end Socks5Proxy

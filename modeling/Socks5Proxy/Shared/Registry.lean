import Mathlib.Order.Basic
import Mathlib.Order.Nat
import Mathlib.Data.List.Nodup
import Socks5Proxy.Shared.Selector

/-!
# Registrations and what becomes of them

A descriptor number names one registration after another: `close` gives the
number back, and `accept` and `socket` hand it out again.  `Registry` counts
the registrations of each descriptor, so that a registration can be told from
the one before it.  The count and the record of the blocking work in progress
are read by no operation.

What the handlers do to the selector while one of them is called is a list of
`Operation`s.
-/

namespace Socks5Proxy

/-! ## The operations -/

/-- Which pointers of a `struct fd_handler` are not null. -/
structure Callbacks (η : Type) where
  read : η → Bool
  write : η → Bool
  block : η → Bool
  close : η → Bool

/-- Blocking work a handler started, with a number of its own: the thread
knows the descriptor only.  The rest is the registration it was started for. -/
structure Work (η δ : Type) where
  id : ℕ
  fd : ℤ
  generation : ℕ
  handler : Option η
  data : Option δ
  deriving DecidableEq

/-- The selector, how often each descriptor has been registered, and the work
in progress: `running` in a thread, or `posted` by `selector_notify_block` and
not handled yet. -/
structure Registry (η δ : Type) where
  sel : FdSelector η δ
  generation : ℤ → ℕ
  started : ℕ
  running : List (Work η δ)
  posted : List (Work η δ)

/-- What a handler can do to the selector.  `selector_unregister_fd` calls
`handle_close`, which may do anything again; `startWork` hands a descriptor to
a thread, as `resolve_fqdn` does. -/
inductive Operation (η δ : Type)
  | register (fd : ℤ) (handler : Option η) (interest : FdInterest) (data : Option δ)
      (alloc : Bool)
  | setInterest (fd : ℤ) (i : FdInterest)
  | unregister (fd : ℤ) (handleClose : List (Operation η δ))
  | unregisterWithoutClosing (fd : ℤ)
  | startWork (fd : ℤ)

namespace Registry

variable {η δ : Type} (callbacks : Callbacks η)

/-- A selector before any work has been started. -/
def new (sel : FdSelector η δ) : Registry η δ :=
  { sel := { sel with resolutionJobs := [] }
    generation := fun _ => 0
    started := 0
    running := []
    posted := [] }

/-- A successful registration is the next one of its descriptor. -/
def register (r : Registry η δ) (fd : ℤ) (result : FdSelector η δ × SelectorStatus) :
    Registry η δ :=
  if result.2 = .success then
    { r with
      sel := result.1
      generation := fun fd' => if fd' = fd then r.generation fd + 1 else r.generation fd' }
  else
    { r with sel := result.1 }

/-- Work is started for a registration whose handler can be notified. -/
def startWork (r : Registry η δ) (fd : ℤ) : Registry η δ :=
  let item := r.sel.item fd
  if !invalidFd fd && item.used && item.handler.any callbacks.block then
    { r with
      started := r.started + 1
      running := ⟨r.started, fd, r.generation fd, item.handler, item.data⟩ :: r.running }
  else
    r

mutual

def perform (r : Registry η δ) : Operation η δ → Registry η δ
  | .register fd handler interest data alloc =>
    r.register fd (selectorRegister r.sel fd handler interest data alloc)
  | .setInterest fd i => { r with sel := (selectorSetInterest r.sel fd i).1 }
  | .unregister fd handleClose =>
    if invalidFd fd then
      r
    else if !(r.sel.item fd).used then
      r
    else if (r.sel.item fd).handler.any callbacks.close then
      let r := performAll r handleClose
      { r with sel := selectorClearItem r.sel fd }
    else
      { r with sel := selectorClearItem r.sel fd }
  | .unregisterWithoutClosing fd =>
    { r with sel := (selectorUnregisterFdWithoutClosing r.sel fd).1 }
  | .startWork fd => startWork callbacks r fd

def performAll (r : Registry η δ) : List (Operation η δ) → Registry η δ
  | [] => r
  | op :: ops => performAll (perform r op) ops

end

end Registry

/-! ## What any sequence of operations leaves -/

/-- The registration the work was started for has been registered, and as long
as it is the latest one of its descriptor, it is as it was. -/
structure Registry.Knows {η δ : Type} (callbacks : Callbacks η) (r : Registry η δ)
    (work : Work η δ) : Prop where
  id : work.id < r.started
  valid : 0 ≤ work.fd
  generation : work.generation ≤ r.generation work.fd
  current : r.generation work.fd = work.generation → (r.sel.item work.fd).used = true →
    (r.sel.item work.fd).handler = work.handler ∧ (r.sel.item work.fd).data = work.data
  block : work.handler.any callbacks.block = true

/-- `t` comes after `r`.  A descriptor that has not been registered again keeps
its registration or is free. -/
structure Registry.Since {η δ : Type} (callbacks : Callbacks η) (r t : Registry η δ) :
    Prop where
  generation : ∀ fd, r.generation fd ≤ t.generation fd
  item : ∀ fd, 0 ≤ fd → t.generation fd = r.generation fd → (t.sel.item fd).used = true →
    (r.sel.item fd).used = true ∧ (t.sel.item fd).handler = (r.sel.item fd).handler ∧
      (t.sel.item fd).data = (r.sel.item fd).data
  slaveR : t.sel.slaveR = r.sel.slaveR
  slaveW : t.sel.slaveW = r.sel.slaveW
  jobs : t.sel.resolutionJobs = r.sel.resolutionJobs
  posted : t.posted = r.posted
  started : r.started ≤ t.started
  running : ∃ works, t.running = works ++ r.running ∧ (works.map Work.id).Nodup ∧
    ∀ work ∈ works, r.started ≤ work.id ∧ t.Knows callbacks work

namespace Registry

variable {η δ : Type} {callbacks : Callbacks η} {r t u : Registry η δ} {work : Work η δ}

theorem Since.knows (h : r.Since callbacks t) (hwork : r.Knows callbacks work) :
    t.Knows callbacks work where
  id := lt_of_lt_of_le hwork.id h.started
  valid := hwork.valid
  generation := hwork.generation.trans (h.generation work.fd)
  current := by
    intro hcurrent hused
    have hsame : t.generation work.fd = r.generation work.fd := by
      have hle := hwork.generation
      have hle' := h.generation work.fd
      omega
    obtain ⟨hused', hhandler, hdata⟩ := h.item work.fd hwork.valid hsame hused
    obtain ⟨hhandler', hdata'⟩ := hwork.current (hsame.symm.trans hcurrent) hused'
    exact ⟨hhandler.trans hhandler', hdata.trans hdata'⟩
  block := hwork.block

theorem Since.refl (callbacks : Callbacks η) (r : Registry η δ) : r.Since callbacks r where
  generation _ := le_rfl
  item _ _ _ hused := ⟨hused, rfl, rfl⟩
  slaveR := rfl
  slaveW := rfl
  jobs := rfl
  posted := rfl
  started := le_rfl
  running := ⟨[], rfl, List.nodup_nil, by simp⟩

theorem Since.trans (h : r.Since callbacks t) (h' : t.Since callbacks u) :
    r.Since callbacks u where
  generation fd := (h.generation fd).trans (h'.generation fd)
  item := by
    intro fd hfd hsame hused
    have hle := h.generation fd
    have hle' := h'.generation fd
    obtain ⟨hused', hhandler', hdata'⟩ := h'.item fd hfd (by omega) hused
    obtain ⟨hused'', hhandler, hdata⟩ := h.item fd hfd (by omega) hused'
    exact ⟨hused'', hhandler'.trans hhandler, hdata'.trans hdata⟩
  slaveR := h'.slaveR.trans h.slaveR
  slaveW := h'.slaveW.trans h.slaveW
  jobs := h'.jobs.trans h.jobs
  posted := h'.posted.trans h.posted
  started := h.started.trans h'.started
  running := by
    obtain ⟨works, hrunning, hnodup, hworks⟩ := h.running
    obtain ⟨works', hrunning', hnodup', hworks'⟩ := h'.running
    refine ⟨works' ++ works, by rw [hrunning', hrunning, List.append_assoc], ?_, ?_⟩
    · rw [List.map_append, List.nodup_append]
      refine ⟨hnodup', hnodup, ?_⟩
      intro id hid id' hid' heq
      obtain ⟨work, hwork, rfl⟩ := List.mem_map.mp hid
      obtain ⟨work', hwork', rfl⟩ := List.mem_map.mp hid'
      have hlater := (hworks' work hwork).1
      have hearlier := (hworks work' hwork').2.id
      omega
    · intro work hwork
      rcases List.mem_append.mp hwork with hwork | hwork
      · exact ⟨h.started.trans (hworks' work hwork).1, (hworks' work hwork).2⟩
      · exact ⟨(hworks work hwork).1, h'.knows (hworks work hwork).2⟩

/-! ### One operation -/

section Table

variable {sel grown : FdSelector η δ} {fd fd' : ℤ} {i : FdInterest}

theorem item_ensureCapacity {n : ℕ} {alloc : Bool} :
    (ensureCapacity sel n alloc).1.item fd = sel.item fd := by
  unfold ensureCapacity
  split_ifs
  · rfl
  · rfl
  · by_cases hlen : fd.toNat < sel.fds.length
    · simp [FdSelector.item, List.getD_eq_getElem?_getD, List.getElem?_append_left hlen]
    · simp only [FdSelector.item, List.getD_eq_getElem?_getD,
        List.getElem?_append_right (Nat.not_lt.mp hlen), List.getElem?_replicate,
        List.getElem?_eq_none (Nat.not_lt.mp hlen)]
      split <;> rfl
  · rfl

/-- A table with more room and the same registrations. -/
structure Grown (sel grown : FdSelector η δ) : Prop where
  item : ∀ fd, grown.item fd = sel.item fd
  slaveR : grown.slaveR = sel.slaveR
  slaveW : grown.slaveW = sel.slaveW
  jobs : grown.resolutionJobs = sel.resolutionJobs

theorem Grown.ensureCapacity {n : ℕ} {alloc : Bool} :
    Grown sel (ensureCapacity sel n alloc).1 := by
  refine ⟨fun _ => item_ensureCapacity, ?_, ?_, ?_⟩ <;>
    (unfold Socks5Proxy.ensureCapacity; split_ifs <;> rfl)

theorem selectorRegister_grown (sel : FdSelector η δ) (fd : ℤ) (handler : Option η)
    (i : FdInterest) (data : Option δ) (alloc : Bool) :
    let result := selectorRegister sel fd handler i data alloc
    ∃ grown, Grown sel grown ∧
      (result.2 ≠ .success ∧ result.1 = grown ∨
        result.2 = .success ∧ invalidFd fd = false ∧ ∃ m, result.1 =
          itemsUpdateFdsetForFd { grown.setItem fd ⟨fd, i, handler, data⟩ with maxFd := m }
            ⟨fd, i, handler, data⟩) := by
  unfold selectorRegister
  by_cases hargs : (invalidFd fd || handler.isNone) = true
  · rw [if_pos hargs]
    exact ⟨sel, ⟨fun _ => rfl, rfl, rfl, rfl⟩, .inl ⟨by simp, rfl⟩⟩
  · have hfd : invalidFd fd = false := by
      rcases hinvalid : invalidFd fd with _ | _
      · rfl
      · simp [hinvalid] at hargs
    rw [if_neg hargs]
    generalize hsized : (if fd.toNat > sel.fds.length then ensureCapacity sel fd.toNat alloc
      else (sel, .success)) = sized
    have hgrown : Grown sel sized.1 := by
      rw [← hsized]
      split_ifs
      · exact .ensureCapacity
      · exact ⟨fun _ => rfl, rfl, rfl, rfl⟩
    obtain ⟨grown, status⟩ := sized
    refine ⟨grown, hgrown, ?_⟩
    dsimp only
    by_cases hstatus : status ≠ .success
    · rw [if_pos hstatus]
      exact .inl ⟨hstatus, rfl⟩
    · rw [if_neg hstatus]
      by_cases hused : (grown.item fd).used = true
      · rw [if_pos hused]
        exact .inl ⟨by simp, rfl⟩
      · rw [if_neg hused]
        exact .inr ⟨rfl, hfd, _, rfl⟩

theorem item_selectorSetInterest (sel : FdSelector η δ) (fd fd' : ℤ) (i : FdInterest) :
    ∃ j, (selectorSetInterest sel fd i).1.item fd' = { sel.item fd' with interest := j } := by
  unfold selectorSetInterest
  split_ifs with hfd hused
  · exact ⟨(sel.item fd').interest, rfl⟩
  · exact ⟨(sel.item fd').interest, rfl⟩
  · change ∃ j, (sel.setItem fd { sel.item fd with interest := i }).item fd' = _
    by_cases hne : fd.toNat = fd'.toNat
    · refine ⟨i, ?_⟩
      have hitem : sel.item fd' = sel.item fd := by rw [FdSelector.item, FdSelector.item, hne]
      rw [hitem, FdSelector.item, ← hne]
      exact item_setItem_self (lt_length_of_used (by simpa using hused))
    · exact ⟨(sel.item fd').interest, item_setItem_of_ne hne⟩

/-- What is in use after a clearing was in use before it. -/
theorem item_selectorClearItem_of_used (h : ((selectorClearItem sel fd).item fd').used = true) :
    (selectorClearItem sel fd).item fd' = sel.item fd' := by
  by_cases hne : fd.toNat = fd'.toNat
  · have hlen : fd'.toNat < sel.fds.length := by
      rw [← length_fds_selectorClearItem]
      exact lt_length_of_used h
    have hblank : (selectorClearItem sel fd).item fd' = Item.blank := by
      unfold selectorClearItem
      rw [FdSelector.item, ← hne]
      exact item_setItem_self (by rwa [hne])
    rw [hblank] at h
    simp [Item.used, Item.blank] at h
  · unfold selectorClearItem
    exact (item_setItem_of_ne hne).trans rfl

end Table

section Perform

variable {sel : FdSelector η δ} {fd : ℤ}

/-- A change of the selector that registers nothing and is not seen by the
iteration in progress. -/
theorem Since.of_sel
    (hitem : ∀ fd, (sel.item fd).used = true → (r.sel.item fd).used = true ∧
      (sel.item fd).handler = (r.sel.item fd).handler ∧
      (sel.item fd).data = (r.sel.item fd).data)
    (hslaveR : sel.slaveR = r.sel.slaveR) (hslaveW : sel.slaveW = r.sel.slaveW)
    (hjobs : sel.resolutionJobs = r.sel.resolutionJobs) :
    r.Since callbacks { r with sel := sel } where
  generation _ := le_rfl
  item fd _ _ := hitem fd
  slaveR := hslaveR
  slaveW := hslaveW
  jobs := hjobs
  posted := rfl
  started := le_rfl
  running := ⟨[], rfl, List.nodup_nil, by simp⟩

theorem register_since {handler : Option η} {i : FdInterest} {data : Option δ} {alloc : Bool} :
    r.Since callbacks (r.register fd (selectorRegister r.sel fd handler i data alloc)) := by
  obtain ⟨grown, hgrown, ⟨hstatus, hsel⟩ | ⟨hstatus, hfd, m, hsel⟩⟩ :=
    selectorRegister_grown r.sel fd handler i data alloc
  · rw [register, if_neg hstatus, hsel]
    refine .of_sel ?_ hgrown.slaveR hgrown.slaveW hgrown.jobs
    intro fd' hused
    rw [hgrown.item] at hused ⊢
    exact ⟨hused, rfl, rfl⟩
  · rw [register, if_pos hstatus, hsel]
    refine ⟨?_, ?_, hgrown.slaveR, hgrown.slaveW, hgrown.jobs, rfl, le_rfl, [], rfl,
      List.nodup_nil, by simp⟩
    · intro fd'
      dsimp only
      split_ifs with heq
      · rw [heq]
        exact Nat.le_succ _
      · exact le_rfl
    · intro fd' hfd' hsame hused
      dsimp only at hsame hused ⊢
      have hne : fd' ≠ fd := by
        rintro rfl
        rw [if_pos rfl] at hsame
        omega
      have hother : (grown.setItem fd ⟨fd, i, handler, data⟩).item fd' = r.sel.item fd' := by
        rw [invalidFd_eq_false_iff] at hfd
        rw [item_setItem_of_ne (by omega), hgrown.item]
      rw [← hother]
      exact ⟨hused, rfl, rfl⟩

theorem setInterest_since {i : FdInterest} :
    r.Since callbacks { r with sel := (selectorSetInterest r.sel fd i).1 } := by
  refine .of_sel ?_ ?_ ?_ resolutionJobs_selectorSetInterest
  · intro fd' hused
    obtain ⟨j, hitem⟩ := item_selectorSetInterest r.sel fd fd' i
    rw [hitem] at hused ⊢
    exact ⟨hused, rfl, rfl⟩
  · unfold selectorSetInterest
    split_ifs <;> rfl
  · unfold selectorSetInterest
    split_ifs <;> rfl

theorem clearItem_since :
    r.Since callbacks { r with sel := selectorClearItem r.sel fd } := by
  refine .of_sel ?_ rfl rfl rfl
  intro fd' hused
  have hitem := item_selectorClearItem_of_used hused
  rw [hitem] at hused ⊢
  exact ⟨hused, rfl, rfl⟩

theorem unregister_since :
    r.Since callbacks { r with sel := (selectorUnregisterFdWithoutClosing r.sel fd).1 } := by
  unfold selectorUnregisterFdWithoutClosing
  split_ifs
  · exact .refl callbacks r
  · exact .refl callbacks r
  · exact clearItem_since

theorem startWork_since : r.Since callbacks (startWork callbacks r fd) := by
  unfold startWork
  dsimp only
  split_ifs with h
  · simp only [Bool.and_eq_true, Bool.not_eq_true'] at h
    obtain ⟨⟨hfd, hused⟩, hblock⟩ := h
    rw [invalidFd_eq_false_iff] at hfd
    refine ⟨fun _ => le_rfl, fun _ _ _ hused => ⟨hused, rfl, rfl⟩, rfl, rfl, rfl, rfl,
      Nat.le_succ _, [_], rfl, List.nodup_singleton _, ?_⟩
    intro work hwork
    rw [List.mem_singleton.mp hwork]
    exact ⟨le_rfl, Nat.lt_succ_self _, hfd.1, le_rfl, fun _ _ => ⟨rfl, rfl⟩, hblock⟩
  · exact .refl callbacks r

mutual

/-- Whatever a handler does, what was registered before it and not again since
is as it was or gone. -/
theorem perform_since (r : Registry η δ) :
    ∀ op : Operation η δ, r.Since callbacks (perform callbacks r op)
  | .register _ _ _ _ _ => register_since
  | .setInterest _ _ => setInterest_since
  | .unregister fd handleClose => by
    unfold perform
    split_ifs
    · exact .refl callbacks r
    · exact .refl callbacks r
    · exact (performAll_since r handleClose).trans clearItem_since
    · exact clearItem_since
  | .unregisterWithoutClosing _ => unregister_since
  | .startWork _ => startWork_since

theorem performAll_since (r : Registry η δ) :
    ∀ ops : List (Operation η δ), r.Since callbacks (performAll callbacks r ops)
  | [] => .refl callbacks r
  | op :: ops => (perform_since r op).trans (performAll_since (perform callbacks r op) ops)

end

end Perform

end Registry

end Socks5Proxy

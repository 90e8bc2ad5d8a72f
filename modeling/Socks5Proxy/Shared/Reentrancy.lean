import Mathlib.Data.List.Count
import Socks5Proxy.Shared.TableBounds

/-!
# Unregistering from within `handle_close`

`selector_unregister_fd` runs `handle_close` while the item is still
registered, and goes on with the item after it.  A callback may unregister
other descriptors; if it unregisters one whose callback is still running, that
callback is run again, and its own call finds the item cleared.

A call is the tree of the calls the callbacks make.
-/

namespace Socks5Proxy

/-- A call of `selector_unregister_fd` and the calls that its `handle_close`
makes. -/
inductive UnregisterCall
  | call (fd : ℤ) (handleClose : List UnregisterCall)

namespace UnregisterCall

mutual

def operation {η δ : Type} : UnregisterCall → Operation η δ
  | .call fd handleClose => .unregister fd (operations handleClose)

def operations {η δ : Type} : List UnregisterCall → List (Operation η δ)
  | [] => []
  | c :: cs => c.operation :: operations cs

end

mutual

/-- The descriptors the call and the calls inside it name. -/
def descriptors : UnregisterCall → List ℤ
  | .call fd handleClose => fd :: allDescriptors handleClose

def allDescriptors : List UnregisterCall → List ℤ
  | [] => []
  | c :: cs => c.descriptors ++ allDescriptors cs

end

mutual

/-- Some `handle_close` unregisters a descriptor whose own `handle_close` is
still running. -/
def Reenters : UnregisterCall → Prop
  | .call fd handleClose => fd ∈ allDescriptors handleClose ∨ AnyReenters handleClose

def AnyReenters : List UnregisterCall → Prop
  | [] => False
  | c :: cs => c.Reenters ∨ AnyReenters cs

end

section Made

variable {η δ : Type} (callbacks : Callbacks η)

mutual

/-- The calls inside a call are made by its `handle_close`: where none is run
there are none. -/
def Made (r : Registry η δ) : UnregisterCall → Prop
  | .call fd handleClose =>
    if invalidFd fd = false ∧ r.closes callbacks fd = true then
      AllMade r handleClose
    else
      handleClose = []

def AllMade (r : Registry η δ) : List UnregisterCall → Prop
  | [] => True
  | c :: cs => c.Made r ∧ AllMade (r.perform callbacks c.operation) cs

end

end Made

end UnregisterCall

open UnregisterCall

/-- The registration that a `handle_close` is run for. -/
def SelectorEvent.isClose {η δ : Type} (fd : ℤ) (generation : ℕ) : SelectorEvent η δ → Bool
  | .handleClose fd' generation' => fd' == fd && generation' == generation
  | _ => false

/-! ## The registrations after a call -/

section After

variable {η δ : Type} {callbacks : Callbacks η} {r t u : Registry η δ} {ds ds' : List ℤ}

/-- `t` is `r` with the registrations of `ds` ended. -/
structure Deregistered (r t : Registry η δ) (ds : List ℤ) : Prop where
  consistent : r.sel.Consistent → t.sel.Consistent
  generation : t.generation = r.generation
  kept : ∀ fd, invalidFd fd = false → fd ∉ ds → t.sel.item fd = r.sel.item fd
  ended : ∀ fd, invalidFd fd = false → fd ∈ ds → (t.sel.item fd).used = false

theorem Deregistered.trans (h : Deregistered r t ds) (h' : Deregistered t u ds') :
    Deregistered r u (ds ++ ds') where
  consistent hr := h'.consistent (h.consistent hr)
  generation := h'.generation.trans h.generation
  kept fd hfd hmem := by
    rw [List.mem_append, not_or] at hmem
    exact (h'.kept fd hfd hmem.2).trans (h.kept fd hfd hmem.1)
  ended fd hfd hmem := by
    by_cases hds' : fd ∈ ds'
    · exact h'.ended fd hfd hds'
    · rw [h'.kept fd hfd hds']
      exact h.ended fd hfd ((List.mem_append.mp hmem).resolve_right hds')

theorem Deregistered.refl (r : Registry η δ) : Deregistered r r [] where
  consistent hr := hr
  generation := rfl
  kept _ _ _ := rfl
  ended _ _ hmem := absurd hmem List.not_mem_nil

/-- The order of the descriptors does not matter. -/
theorem Deregistered.perm (h : Deregistered r t ds) (hmem : ∀ fd, fd ∈ ds ↔ fd ∈ ds') :
    Deregistered r t ds' where
  consistent := h.consistent
  generation := h.generation
  kept fd hfd hds' := h.kept fd hfd fun hds => hds' ((hmem fd).mp hds)
  ended fd hfd hds' := h.ended fd hfd ((hmem fd).mpr hds')

/-- A call for a descriptor that is not registered. -/
theorem deregistered_of_unused {fd : ℤ} (h : invalidFd fd = true ∨ (r.sel.item fd).used = false) :
    Deregistered r r [fd] where
  consistent hr := hr
  generation := rfl
  kept _ _ _ := rfl
  ended fd' hfd' hmem := by
    rw [List.mem_singleton.mp hmem] at hfd' ⊢
    rcases h with hinvalid | hunused
    · rw [hfd'] at hinvalid
      cases hinvalid
    · exact hunused

/-- The end of `selector_unregister_fd`. -/
theorem deregistered_clearItem {fd : ℤ} (hfd : invalidFd fd = false) :
    Deregistered r { r with sel := selectorClearItem r.sel fd } [fd] where
  consistent hr := hr.clearItem hfd
  generation := rfl
  kept fd' hfd' hmem := by
    refine item_selectorClearItem_of_ne hfd hfd' ?_
    rintro rfl
    exact hmem (List.mem_singleton_self _)
  ended fd' hfd' hmem := by
    rw [List.mem_singleton.mp hmem]
    rw [invalidFd_eq_false_iff] at hfd
    obtain ⟨n, rfl⟩ := Int.eq_ofNat_of_zero_le hfd.1
    change ((selectorClearItem r.sel n).item n).used = false
    rw [item_selectorClearItem, if_pos rfl]
    rfl

end After

/-! ## The three courses of a call -/

section Courses

variable {η δ : Type} {callbacks : Callbacks η} {r : Registry η δ} {fd : ℤ}
  {handleClose : List UnregisterCall}

/-- A call for a descriptor that is not registered, for one without a
`handle_close`, or for one with. -/
inductive Course (callbacks : Callbacks η) (r : Registry η δ) (fd : ℤ) :
    List UnregisterCall → Prop
  | unused (h : invalidFd fd = true ∨ (r.sel.item fd).used = false) : Course callbacks r fd []
  | silent (hfd : invalidFd fd = false) (hused : (r.sel.item fd).used = true)
      (hcloses : r.closes callbacks fd = false) : Course callbacks r fd []
  | closing {handleClose : List UnregisterCall} (hfd : invalidFd fd = false)
      (hused : (r.sel.item fd).used = true) (hcloses : r.closes callbacks fd = true)
      (hmade : AllMade callbacks r handleClose) : Course callbacks r fd handleClose

theorem course_of_made (h : (call fd handleClose).Made callbacks r) :
    Course callbacks r fd handleClose := by
  rw [Made] at h
  split_ifs at h with hcloses
  · have hused : (r.sel.item fd).used = true := by
      have hboth := hcloses.2
      rw [Registry.closes, Bool.and_eq_true] at hboth
      exact hboth.1
    exact .closing hcloses.1 hused hcloses.2 h
  · subst h
    rcases hfd : invalidFd fd with _ | _
    · rcases hused : (r.sel.item fd).used with _ | _
      · exact .unused (.inr hused)
      · exact .silent hfd hused (Bool.not_eq_true _ ▸ fun hyes => hcloses ⟨hfd, hyes⟩)
    · exact .unused (.inl hfd)

theorem closes_of_unused (hused : (r.sel.item fd).used = false) :
    r.closes callbacks fd = false := by
  rw [Registry.closes, hused, Bool.false_and]

/-- What a call that finds nothing does. -/
theorem perform_unused (h : invalidFd fd = true ∨ (r.sel.item fd).used = false)
    (ops : List (Operation η δ)) : r.perform callbacks (.unregister fd ops) = r := by
  rw [Registry.perform]
  rcases h with hfd | hused
  · rw [if_pos hfd]
  · rw [hused]
    exact ite_self _

theorem perform_silent (hfd : invalidFd fd = false) (hused : (r.sel.item fd).used = true)
    (hcloses : r.closes callbacks fd = false) (ops : List (Operation η δ)) :
    r.perform callbacks (.unregister fd ops) = { r with sel := selectorClearItem r.sel fd } := by
  rw [Registry.closes, hused, Bool.true_and] at hcloses
  rw [Registry.perform, hfd, hused, hcloses]
  rfl

theorem perform_closing (hfd : invalidFd fd = false) (hcloses : r.closes callbacks fd = true)
    (ops : List (Operation η δ)) :
    r.perform callbacks (.unregister fd ops) =
      { r.performAll callbacks ops with
        sel := selectorClearItem (r.performAll callbacks ops).sel fd } := by
  rw [Registry.closes, Bool.and_eq_true] at hcloses
  rw [Registry.perform, hfd, hcloses.1, hcloses.2]
  rfl

theorem events_unused (h : invalidFd fd = true ∨ (r.sel.item fd).used = false)
    (ops : List (Operation η δ)) : ∀ e ∈ r.events callbacks (.unregister fd ops),
      e = .slot fd r.sel.fds.length := by
  intro e he
  rw [Registry.events] at he
  split_ifs at he with hfd hcloses hused
  · cases he
  · rw [closes_of_unused (h.resolve_left hfd)] at hcloses
    cases hcloses
  · rw [h.resolve_left hfd] at hused
    cases hused
  · exact List.mem_singleton.mp he

theorem events_silent (hfd : invalidFd fd = false) (hused : (r.sel.item fd).used = true)
    (hcloses : r.closes callbacks fd = false) (ops : List (Operation η δ)) :
    r.events callbacks (.unregister fd ops) =
      .slot fd r.sel.fds.length :: clearEvents r.sel fd r.sel.fds.length := by
  rw [Registry.events, hfd, hcloses, hused]
  rfl

theorem events_closing (hfd : invalidFd fd = false) (hcloses : r.closes callbacks fd = true)
    (ops : List (Operation η δ)) :
    r.events callbacks (.unregister fd ops) = .slot fd r.sel.fds.length ::
      .handleClose (r.sel.item fd).fd (r.generation fd) :: (r.eventsAll callbacks ops ++
        clearEvents (r.performAll callbacks ops).sel fd r.sel.fds.length) := by
  rw [Registry.events, hfd, hcloses]
  rfl

/-- Clearing an item touches the bits the item names. -/
theorem bit_mem_clearEvents {s : FdSelector η δ} {n : ℕ} {b : ℤ}
    (h : SelectorEvent.bit b ∈ clearEvents s fd n) : b = (s.item fd).fd := by
  unfold clearEvents scannedSlots itemBits at h
  split_ifs at h <;> simpa using h

/-- Clearing an item runs no callback. -/
theorem countP_clearEvents (s : FdSelector η δ) (n : ℕ) (d : ℤ) (g : ℕ) :
    (clearEvents s fd n).countP (SelectorEvent.isClose d g) = 0 := by
  rw [List.countP_eq_zero]
  intro e he
  unfold clearEvents scannedSlots itemBits at he
  rcases e with _ | _ | _ | _ | _
  · exact Bool.false_ne_true
  · exact Bool.false_ne_true
  · exact Bool.false_ne_true
  · split_ifs at he <;> simp at he
  · exact Bool.false_ne_true

end Courses

section Runs

variable {η δ : Type} {callbacks : Callbacks η}

mutual

/-- A call ends the registrations of the descriptors it and the calls inside it
name. -/
theorem call_deregistered (r : Registry η δ) : ∀ c : UnregisterCall, c.Made callbacks r →
    Deregistered r (r.perform callbacks c.operation) c.descriptors
  | .call fd handleClose => fun hmade => by
    rw [operation, descriptors]
    rcases course_of_made hmade with h | ⟨hfd, hused, hcloses⟩ | ⟨hfd, -, hcloses, hnested⟩
    · rw [perform_unused h]
      exact deregistered_of_unused h
    · rw [perform_silent hfd hused hcloses]
      exact deregistered_clearItem hfd
    · rw [perform_closing hfd hcloses]
      refine ((calls_deregistered r handleClose hnested).trans
        (deregistered_clearItem hfd)).perm fun fd' => ?_
      rw [List.mem_append, List.mem_singleton, List.mem_cons, or_comm]

theorem calls_deregistered (r : Registry η δ) : ∀ cs : List UnregisterCall,
    AllMade callbacks r cs →
      Deregistered r (r.performAll callbacks (operations cs)) (allDescriptors cs)
  | [] => fun _ => .refl r
  | c :: cs => fun hmade => by
    rw [AllMade] at hmade
    rw [operations, Registry.performAll, allDescriptors]
    exact (call_deregistered r c hmade.1).trans (calls_deregistered _ cs hmade.2)

end

mutual

/-- Without re-entrance the sets are touched at the descriptors of used items
only. -/
theorem call_bits (r : Registry η δ) : ∀ c : UnregisterCall, c.Made callbacks r →
    r.sel.Consistent → ¬ c.Reenters → ∀ b, SelectorEvent.bit b ∈ r.events callbacks c.operation →
      invalidFd b = false
  | .call fd handleClose => fun hmade hr hreenters b hb => by
    rw [Reenters, not_or] at hreenters
    rw [operation] at hb
    rcases course_of_made hmade with h | ⟨hfd, hused, hcloses⟩ | ⟨hfd, hused, hcloses, hnested⟩
    · cases events_unused h _ _ hb
    · rw [events_silent hfd hused hcloses, List.mem_cons] at hb
      rcases hb with hb | hb
      · cases hb
      · rw [bit_mem_clearEvents hb, hr.fd_of_valid hfd hused]
        exact hfd
    · rw [events_closing hfd hcloses, List.mem_cons, List.mem_cons, List.mem_append] at hb
      rcases hb with hb | hb | hb | hb
      · cases hb
      · cases hb
      · exact calls_bits r handleClose hnested hr hreenters.2 b hb
      · -- the callbacks have left the item alone
        rw [bit_mem_clearEvents hb,
          (calls_deregistered r handleClose hnested).kept fd hfd hreenters.1,
          hr.fd_of_valid hfd hused]
        exact hfd

theorem calls_bits (r : Registry η δ) : ∀ cs : List UnregisterCall, AllMade callbacks r cs →
    r.sel.Consistent → ¬ AnyReenters cs →
      ∀ b, SelectorEvent.bit b ∈ r.eventsAll callbacks (operations cs) → invalidFd b = false
  | [] => fun _ _ _ b hb => by
    rw [operations, Registry.eventsAll] at hb
    cases hb
  | c :: cs => fun hmade hr hreenters b hb => by
    rw [AllMade] at hmade
    rw [AnyReenters, not_or] at hreenters
    rw [operations, Registry.eventsAll, List.mem_append] at hb
    rcases hb with hb | hb
    · exact call_bits r c hmade.1 hr hreenters.1 b hb
    · exact calls_bits _ cs hmade.2 ((call_deregistered r c hmade.1).consistent hr) hreenters.2 b hb

end

/-- How often `handle_close` is run for the registration `fd` has in `r`. -/
def closeRuns (r : Registry η δ) (fd : ℤ) (es : List (SelectorEvent η δ)) : ℕ :=
  es.countP (SelectorEvent.isClose fd (r.generation fd))

section Counting

variable {r t : Registry η δ} {fd d : ℤ} {ds : List ℤ} {handleClose : List UnregisterCall}

theorem closeRuns_append (es es' : List (SelectorEvent η δ)) :
    closeRuns r d (es ++ es') = closeRuns r d es + closeRuns r d es' :=
  List.countP_append

theorem Deregistered.closeRuns_eq (h : Deregistered r t ds) (es : List (SelectorEvent η δ)) :
    closeRuns t d es = closeRuns r d es := by
  rw [closeRuns, closeRuns, h.generation]

/-- A registration that is left alone keeps its callback. -/
theorem Deregistered.closes_kept (h : Deregistered r t ds) (hd : invalidFd d = false)
    (hmem : d ∉ ds) : t.closes callbacks d = r.closes callbacks d := by
  rw [Registry.closes, Registry.closes, h.kept d hd hmem]

theorem closeRuns_unused (h : invalidFd fd = true ∨ (r.sel.item fd).used = false)
    (ops : List (Operation η δ)) :
    closeRuns r d (r.events callbacks (.unregister fd ops)) = 0 := by
  rw [closeRuns, List.countP_eq_zero]
  intro e he
  rw [events_unused h ops e he]
  exact Bool.false_ne_true

theorem closeRuns_silent (hfd : invalidFd fd = false) (hused : (r.sel.item fd).used = true)
    (hcloses : r.closes callbacks fd = false) (ops : List (Operation η δ)) :
    closeRuns r d (r.events callbacks (.unregister fd ops)) = 0 := by
  rw [events_silent hfd hused hcloses, closeRuns, List.countP_cons, countP_clearEvents]
  rfl

theorem closeRuns_closing (hr : r.sel.Consistent) (hfd : invalidFd fd = false)
    (hused : (r.sel.item fd).used = true) (hcloses : r.closes callbacks fd = true)
    (ops : List (Operation η δ)) :
    closeRuns r d (r.events callbacks (.unregister fd ops)) =
      (if d = fd then 1 else 0) + closeRuns r d (r.eventsAll callbacks ops) := by
  rw [events_closing hfd hcloses, hr.fd_of_valid hfd hused, closeRuns, List.countP_cons,
    List.countP_cons, List.countP_append, countP_clearEvents]
  by_cases hd : d = fd
  · subst hd
    simp [SelectorEvent.isClose, closeRuns, Nat.add_comm]
  · simp [SelectorEvent.isClose, closeRuns, hd, Ne.symm hd]

end Counting

mutual

/-- Without re-entrance every registration the call ends has its callback run
once. -/
theorem call_closeRuns (r : Registry η δ) : ∀ c : UnregisterCall, c.Made callbacks r →
    r.sel.Consistent → ¬ c.Reenters → ∀ d, invalidFd d = false →
      closeRuns r d (r.events callbacks c.operation) =
        if d ∈ c.descriptors ∧ r.closes callbacks d = true then 1 else 0
  | .call fd handleClose => fun hmade hr hreenters d hd => by
    rw [Reenters, not_or] at hreenters
    rw [operation, descriptors]
    rcases course_of_made hmade with h | ⟨hfd, hused, hcloses⟩ | ⟨hfd, hused, hcloses, hnested⟩
    · rw [closeRuns_unused h, if_neg]
      rintro ⟨hmem, hyes⟩
      rw [List.mem_singleton.mp hmem] at hd hyes
      have hunused := h.resolve_left (Bool.not_eq_true _ ▸ hd)
      rw [closes_of_unused hunused] at hyes
      cases hyes
    · rw [closeRuns_silent hfd hused hcloses, if_neg]
      rintro ⟨hmem, hyes⟩
      rw [List.mem_singleton.mp hmem, hcloses] at hyes
      cases hyes
    · rw [closeRuns_closing hr hfd hused hcloses,
        calls_closeRuns r handleClose hnested hr hreenters.2 d hd]
      by_cases hdfd : d = fd
      · subst hdfd
        rw [if_pos rfl, if_neg (fun hboth => hreenters.1 hboth.1),
          if_pos ⟨List.mem_cons_self, hcloses⟩]
      · rw [if_neg hdfd, Nat.zero_add]
        simp only [List.mem_cons, hdfd, false_or]

theorem calls_closeRuns (r : Registry η δ) : ∀ cs : List UnregisterCall,
    AllMade callbacks r cs → r.sel.Consistent → ¬ AnyReenters cs → ∀ d, invalidFd d = false →
      closeRuns r d (r.eventsAll callbacks (operations cs)) =
        if d ∈ allDescriptors cs ∧ r.closes callbacks d = true then 1 else 0
  | [] => fun _ _ _ d _ => (if_neg fun hboth => List.not_mem_nil hboth.1).symm
  | c :: cs => fun hmade hr hreenters d hd => by
    rw [AllMade] at hmade
    rw [AnyReenters, not_or] at hreenters
    have hfirst := call_deregistered r c hmade.1
    rw [operations, Registry.eventsAll, closeRuns_append,
      call_closeRuns r c hmade.1 hr hreenters.1 d hd, ← hfirst.closeRuns_eq,
      calls_closeRuns _ cs hmade.2 (hfirst.consistent hr) hreenters.2 d hd, allDescriptors]
    by_cases hc : d ∈ c.descriptors
    · have hgone : (r.perform callbacks c.operation).closes callbacks d = false :=
        closes_of_unused (hfirst.ended d hd hc)
      rw [hgone]
      simp [hc]
    · rw [hfirst.closes_kept hd hc]
      simp [hc]

end

mutual

/-- The callback of a registered descriptor is run by any call that names it. -/
theorem call_runs (r : Registry η δ) : ∀ c : UnregisterCall, c.Made callbacks r →
    r.sel.Consistent → ∀ d, invalidFd d = false → r.closes callbacks d = true →
      d ∈ c.descriptors → 1 ≤ closeRuns r d (r.events callbacks c.operation)
  | .call fd handleClose => fun hmade hr d hd hcloses hmem => by
    rw [operation]
    rw [descriptors, List.mem_cons] at hmem
    rcases course_of_made hmade with h | ⟨hfd, hused, hsilent⟩ | ⟨hfd, hused, hcloses', hnested⟩
    · obtain rfl : d = fd := hmem.resolve_right List.not_mem_nil
      rw [closes_of_unused (h.resolve_left (Bool.not_eq_true _ ▸ hd))] at hcloses
      cases hcloses
    · obtain rfl : d = fd := hmem.resolve_right List.not_mem_nil
      rw [hsilent] at hcloses
      cases hcloses
    · rw [closeRuns_closing hr hfd hused hcloses']
      rcases hmem with rfl | hmem
      · rw [if_pos rfl]
        exact Nat.le_add_right _ _
      · have hone := calls_run r handleClose hnested hr d hd hcloses hmem
        omega

theorem calls_run (r : Registry η δ) : ∀ cs : List UnregisterCall,
    AllMade callbacks r cs → r.sel.Consistent → ∀ d, invalidFd d = false →
      r.closes callbacks d = true → d ∈ allDescriptors cs →
        1 ≤ closeRuns r d (r.eventsAll callbacks (operations cs))
  | [] => fun _ _ d _ _ hmem => by
    rw [allDescriptors] at hmem
    cases hmem
  | c :: cs => fun hmade hr d hd hcloses hmem => by
    rw [AllMade] at hmade
    have hfirst := call_deregistered r c hmade.1
    rw [operations, Registry.eventsAll, closeRuns_append]
    by_cases hc : d ∈ c.descriptors
    · have hone := call_runs r c hmade.1 hr d hd hcloses hc
      omega
    · rw [allDescriptors, List.mem_append] at hmem
      rw [← hfirst.closes_kept hd hc] at hcloses
      have hone := calls_run _ cs hmade.2 (hfirst.consistent hr) d hd hcloses
        (hmem.resolve_left hc)
      rw [hfirst.closeRuns_eq] at hone
      omega

end

mutual

/-- With re-entrance some callback is run twice for one registration. -/
theorem call_twice (r : Registry η δ) : ∀ c : UnregisterCall, c.Made callbacks r →
    r.sel.Consistent → c.Reenters →
      ∃ d, invalidFd d = false ∧ 2 ≤ closeRuns r d (r.events callbacks c.operation)
  | .call fd handleClose => fun hmade hr hreenters => by
    rw [Reenters] at hreenters
    rw [operation]
    rcases course_of_made hmade with - | ⟨-, -, -⟩ | ⟨hfd, hused, hcloses, hnested⟩
    · exact (hreenters.elim List.not_mem_nil id).elim
    · exact (hreenters.elim List.not_mem_nil id).elim
    · simp only [closeRuns_closing hr hfd hused hcloses]
      rcases hreenters with hself | hinner
      · have hone := calls_run r handleClose hnested hr fd hfd hcloses hself
        refine ⟨fd, hfd, ?_⟩
        rw [if_pos rfl]
        omega
      · obtain ⟨d, hd, htwo⟩ := calls_twice r handleClose hnested hr hinner
        exact ⟨d, hd, by omega⟩

theorem calls_twice (r : Registry η δ) : ∀ cs : List UnregisterCall, AllMade callbacks r cs →
    r.sel.Consistent → AnyReenters cs →
      ∃ d, invalidFd d = false ∧ 2 ≤ closeRuns r d (r.eventsAll callbacks (operations cs))
  | [] => fun _ _ hreenters => by
    rw [AnyReenters] at hreenters
    exact hreenters.elim
  | c :: cs => fun hmade hr hreenters => by
    rw [AllMade] at hmade
    rw [AnyReenters] at hreenters
    have hfirst := call_deregistered r c hmade.1
    rw [operations, Registry.eventsAll]
    simp only [closeRuns_append]
    rcases hreenters with hc | hcs
    · obtain ⟨d, hd, htwo⟩ := call_twice r c hmade.1 hr hc
      exact ⟨d, hd, by omega⟩
    · obtain ⟨d, hd, htwo⟩ := calls_twice _ cs hmade.2 (hfirst.consistent hr) hcs
      rw [hfirst.closeRuns_eq] at htwo
      exact ⟨d, hd, by omega⟩

end

/-- The call runs every callback once for the registration it ends, touches the
sets inside their bounds and leaves no trace of the registrations it ends. -/
structure SafelyUnregisters (callbacks : Callbacks η) (r : Registry η δ) (c : UnregisterCall) :
    Prop where
  closedOnce : ∀ fd, invalidFd fd = false →
    closeRuns r fd (r.events callbacks c.operation) =
      if fd ∈ c.descriptors ∧ r.closes callbacks fd = true then 1 else 0
  bits : ∀ fd, SelectorEvent.bit fd ∈ r.events callbacks c.operation → 0 ≤ fd ∧ fd < fdSetsize
  unused : ∀ fd ∈ c.descriptors, invalidFd fd = false →
    ((r.perform callbacks c.operation).sel.item fd).used = false ∧
      (r.perform callbacks c.operation).sel.masterR fd = false ∧
      (r.perform callbacks c.operation).sel.masterW fd = false
  maxFd_used : (r.perform callbacks c.operation).sel.maxFd = 0 ∨
    ∃ i : ℕ, (r.perform callbacks c.operation).sel.maxFd = i ∧
      ((r.perform callbacks c.operation).sel.item i).used = true
  le_maxFd : ∀ i : ℕ, ((r.perform callbacks c.operation).sel.item i).used = true →
    (i : ℤ) ≤ (r.perform callbacks c.operation).sel.maxFd

/-! ### A connection in a small selector -/

/-- Every handler has every callback. -/
def allCallbacks : Callbacks Unit :=
  ⟨fun _ => true, fun _ => true, fun _ => true, fun _ => true⟩

/-- A selector made for eight descriptors. -/
def smallSelector : FdSelector Unit Unit :=
  { (FdSelector.zeroed : FdSelector Unit Unit) with
    fds := List.replicate 17 Item.blank }

theorem selectorNew_small : selectorNew 8 true = some smallSelector := rfl

/-- The registrations of a connection, of its client on 4 and of its origin on
7. -/
def oneConnection : Registry Unit Unit :=
  (Registry.new smallSelector).performAll allCallbacks
    [.register 4 (some ()) .opRead none true, .register 7 (some ()) .opWrite none true]

theorem oneConnection_consistent : oneConnection.sel.Consistent := by
  have hnew := new_allocated (selectorNew_allocated selectorNew_small)
  refine ((Registry.soundAll_iff _ _ hnew).2 ?_).toConsistent
  exact ⟨.inr (.inr (by decide)), .inr (.inr (by decide)), trivial⟩

theorem made_nil {r : Registry η δ} {fd : ℤ} : (call fd []).Made callbacks r := by
  rw [Made]
  split_ifs
  · trivial
  · rfl

/-- The callback of the client makes whatever calls it makes. -/
theorem made_client {handleClose : List UnregisterCall}
    (h : AllMade allCallbacks oneConnection handleClose) :
    (call 4 handleClose).Made allCallbacks oneConnection := by
  have hcloses : oneConnection.closes allCallbacks 4 = true := by decide
  rw [Made, if_pos ⟨by decide, hcloses⟩]
  exact h

end Runs

end Socks5Proxy

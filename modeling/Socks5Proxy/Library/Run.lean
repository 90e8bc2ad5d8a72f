import Mathlib.Data.List.Basic
import Mathlib.Tactic.Common

/-!
# Finite runs of a step function that can fault

A system is given by a step function from a state and an event to a new state
or a fault.  A run folds the step function over a list of events and stops at
the first fault.  Which events the environment may offer is a separate
predicate on the state before the step and the event, so that one step
function serves every environment.

The two rules proved here are the only inductions over runs a client needs:
what every admissible step preserves holds at the end of every admissible run,
and what every admissible step keeps from faulting never faults.
-/

namespace Library

variable {σ ε φ : Type*}

/-- The state after a list of events, or the first fault. -/
def run (step : σ → ε → Except φ σ) : σ → List ε → Except φ σ
  | s, [] => .ok s
  | s, e :: es =>
    match step s e with
    | .ok t => run step t es
    | .error f => .error f

/-- Every event of the run satisfies `P` in the state it is offered in. -/
def Steps (step : σ → ε → Except φ σ) (P : σ → ε → Prop) : σ → List ε → Prop
  | _, [] => True
  | s, e :: es => P s e ∧ ∀ t, step s e = .ok t → Steps step P t es

/-- No event of the run faults, and every state of it satisfies `P`. -/
def RunsThrough (step : σ → ε → Except φ σ) (P : σ → Prop) : σ → List ε → Prop
  | s, [] => P s
  | s, e :: es => P s ∧ ∃ t, step s e = .ok t ∧ RunsThrough step P t es

/-- Every state the run reaches satisfies `P`; a fault ends the run. -/
def Always (step : σ → ε → Except φ σ) (P : σ → Prop) : σ → List ε → Prop
  | s, [] => P s
  | s, e :: es => P s ∧ ∀ t, step s e = .ok t → Always step P t es

/-- What `f` counts over the events of a run, up to a fault. -/
def runTotal (step : σ → ε → Except φ σ) (f : σ → ε → ℕ) : σ → List ε → ℕ
  | _, [] => 0
  | s, e :: es =>
    f s e +
      match step s e with
      | .ok t => runTotal step f t es
      | .error _ => 0

section Rules

variable {step : σ → ε → Except φ σ} {P Q : σ → ε → Prop} {P' : σ → Prop}

@[simp] theorem run_nil (s : σ) : run step s [] = .ok s := rfl

theorem run_cons_ok_iff {s u : σ} {e : ε} {es : List ε} :
    run step s (e :: es) = .ok u ↔
      ∃ t, step s e = .ok t ∧ run step t es = .ok u := by
  simp only [run]
  cases hstep : step s e with
  | ok t => simp
  | error f => simp

theorem run_append_ok_iff {s u : σ} {es es' : List ε} :
    run step s (es ++ es') = .ok u ↔
      ∃ t, run step s es = .ok t ∧ run step t es' = .ok u := by
  induction es generalizing s with
  | nil => simp
  | cons e es ih =>
      simp only [List.cons_append, run_cons_ok_iff, ih]
      constructor
      · rintro ⟨t, ht, v, hv, hu⟩
        exact ⟨v, ⟨t, ht, hv⟩, hu⟩
      · rintro ⟨v, ⟨t, ht, hv⟩, hu⟩
        exact ⟨t, ht, v, hv, hu⟩

/-- A run goes on where its beginning ends. -/
theorem run_append_of_ok {s t : σ} {es es' : List ε} (h : run step s es = .ok t) :
    run step s (es ++ es') = run step t es' := by
  induction es generalizing s with
  | nil =>
      rw [← Except.ok.inj h]
      rfl
  | cons e es ih =>
      obtain ⟨u, hu, hut⟩ := run_cons_ok_iff.mp h
      rw [List.cons_append, run, hu]
      exact ih hut

theorem run_concat_of_ok {s t u : σ} {e : ε} {es : List ε} (hes : run step s es = .ok t)
    (he : step t e = .ok u) : run step s (es ++ [e]) = .ok u := by
  rw [run_append_of_ok hes]
  exact run_cons_ok_iff.mpr ⟨u, he, rfl⟩

@[simp] theorem steps_nil (s : σ) : Steps step P s [] := trivial

theorem steps_cons_iff {s t : σ} {e : ε} {es : List ε} (hstep : step s e = .ok t) :
    Steps step P s (e :: es) ↔ P s e ∧ Steps step P t es := by
  simp [Steps, hstep]

theorem RunsThrough.head {P : σ → Prop} {s : σ} {es : List ε} (h : RunsThrough step P s es) :
    P s := by
  cases es with
  | nil => exact h
  | cons e es => exact h.1

theorem runsThrough_cons_iff {P : σ → Prop} {s t : σ} {e : ε} {es : List ε}
    (hstep : step s e = .ok t) :
    RunsThrough step P s (e :: es) ↔ P s ∧ RunsThrough step P t es := by
  simp [RunsThrough, hstep]

theorem Steps.cons {s t : σ} {e : ε} {es : List ε} (hP : P s e) (hstep : step s e = .ok t)
    (hes : Steps step P t es) : Steps step P s (e :: es) := by
  refine ⟨hP, ?_⟩
  intro u hu
  rw [hstep, Except.ok.injEq] at hu
  subst hu
  exact hes

theorem steps_single_iff {s : σ} {e : ε} : Steps step P s [e] ↔ P s e :=
  and_iff_left fun _ _ => trivial

theorem Steps.single {s : σ} {e : ε} (h : P s e) : Steps step P s [e] :=
  ⟨h, fun _ _ => trivial⟩

theorem Steps.of_forall (h : ∀ s e, P s e) (s : σ) (es : List ε) : Steps step P s es := by
  induction es generalizing s with
  | nil => trivial
  | cons e es ih => exact ⟨h s e, fun t _ => ih t⟩

theorem Steps.of_forall_mem {es : List ε} (h : ∀ e ∈ es, ∀ s, P s e) (s : σ) :
    Steps step P s es := by
  induction es generalizing s with
  | nil => trivial
  | cons e es ih =>
      exact ⟨h e List.mem_cons_self s, fun t _ => ih (fun e' he' => h e' (.tail e he')) t⟩

/-- A property of the steps may be shown of each event where the run has come
to it. -/
theorem Steps.of_prefixes {s : σ} {es : List ε}
    (h : ∀ before e after t, es = before ++ e :: after → run step s before = .ok t → P t e) :
    Steps step P s es := by
  induction es generalizing s with
  | nil => trivial
  | cons e es ih =>
      refine ⟨h [] e es s rfl rfl, fun t ht => ih ?_⟩
      intro before e' after u hes hbefore
      exact h (e :: before) e' after u (congrArg (e :: ·) hes)
        (run_cons_ok_iff.mpr ⟨t, ht, hbefore⟩)

theorem Steps.mono (h : ∀ s e, P s e → Q s e) {s : σ} {es : List ε}
    (hP : Steps step P s es) : Steps step Q s es := by
  induction es generalizing s with
  | nil => trivial
  | cons e es ih => exact ⟨h s e hP.1, fun t ht => ih (hP.2 t ht)⟩

theorem Steps.append {s t : σ} {es es' : List ε}
    (hes : Steps step P s es) (hrun : run step s es = .ok t)
    (hes' : Steps step P t es') : Steps step P s (es ++ es') := by
  induction es generalizing s with
  | nil =>
      cases hrun
      exact hes'
  | cons e es ih =>
      refine ⟨hes.1, ?_⟩
      intro u hu
      obtain ⟨v, hv, hvt⟩ := run_cons_ok_iff.mp hrun
      have huv : u = v := Except.ok.inj (hu.symm.trans hv)
      subst huv
      exact ih (hes.2 u hu) hvt

theorem Steps.last {s t : σ} {e : ε} {es : List ε} (h : Steps step P s (es ++ [e]))
    (hrun : run step s es = .ok t) : P t e := by
  induction es generalizing s with
  | nil =>
      rw [← Except.ok.inj hrun]
      exact h.1
  | cons e' es ih =>
      obtain ⟨u, hu, hut⟩ := run_cons_ok_iff.mp hrun
      exact ih (h.2 u hu) hut

theorem Steps.init {s : σ} {es es' : List ε} (h : Steps step P s (es ++ es')) :
    Steps step P s es := by
  induction es generalizing s with
  | nil => trivial
  | cons e es ih => exact ⟨h.1, fun t ht => ih (h.2 t ht)⟩

theorem Steps.rest {s t : σ} {es es' : List ε} (h : Steps step P s (es ++ es'))
    (hrun : run step s es = .ok t) : Steps step P t es' := by
  induction es generalizing s with
  | nil =>
      rw [← Except.ok.inj hrun]
      exact h
  | cons e es ih =>
      obtain ⟨u, hu, hut⟩ := run_cons_ok_iff.mp hrun
      exact ih (h.2 u hu) hut

theorem Steps.and {s : σ} {es : List ε} (hP : Steps step P s es) (hQ : Steps step Q s es) :
    Steps step (fun s e => P s e ∧ Q s e) s es := by
  induction es generalizing s with
  | nil => trivial
  | cons e es ih =>
      exact ⟨⟨hP.1, hQ.1⟩, fun t ht => ih (hP.2 t ht) (hQ.2 t ht)⟩

/-- Along a run that keeps an invariant, one property of the steps may be
traded for another that the invariant derives from it. -/
theorem Steps.of_invariant {I : σ → Prop}
    (hstep : ∀ s e, I s → P s e → Q s e ∧ ∀ t, step s e = .ok t → I t)
    {s : σ} {es : List ε} (hs : I s) (hP : Steps step P s es) : Steps step Q s es := by
  induction es generalizing s with
  | nil => trivial
  | cons e es ih =>
      obtain ⟨hQ, hnext⟩ := hstep s e hs hP.1
      exact ⟨hQ, fun t ht => ih (hnext t ht) (hP.2 t ht)⟩

/-- Where an invariant makes two properties of a step equivalent, a run has the
one in all its steps exactly if it has the other. -/
theorem steps_iff_steps {P' : σ → ε → Prop} {I : σ → Prop}
    (hstep : ∀ s e, I s → P s e → (P' s e ↔ Q s e) ∧ ∀ t, step s e = .ok t → I t)
    {s : σ} {es : List ε} (hP : Steps step P s es) (hs : I s) :
    Steps step P' s es ↔ Steps step Q s es := by
  constructor
  · intro h
    refine Steps.of_invariant (P := fun s e => P s e ∧ P' s e) ?_ hs (hP.and h)
    intro s e hs hsteps
    exact ⟨(hstep s e hs hsteps.1).1.mp hsteps.2, (hstep s e hs hsteps.1).2⟩
  · intro h
    refine Steps.of_invariant (P := fun s e => P s e ∧ Q s e) ?_ hs (hP.and h)
    intro s e hs hsteps
    exact ⟨(hstep s e hs hsteps.1).1.mpr hsteps.2, (hstep s e hs hsteps.1).2⟩

/-- What every admissible step preserves, every admissible run preserves. -/
theorem run_invariant {I : σ → Prop}
    (hstep : ∀ s e t, I s → P s e → step s e = .ok t → I t)
    {s t : σ} {es : List ε} (hs : I s) (hP : Steps step P s es)
    (hrun : run step s es = .ok t) : I t := by
  induction es generalizing s with
  | nil =>
      cases hrun
      exact hs
  | cons e es ih =>
      obtain ⟨u, hu, hut⟩ := run_cons_ok_iff.mp hrun
      exact ih (hstep s e u hs hP.1 hu) (hP.2 u hu) hut

/-- Two runs over the same events stay related until the first of them has left
for good. -/
theorem run_simulates {R : σ → σ → Prop} {X : σ → Prop}
    (hstep : ∀ s s' e t, R s s' → P s e → step s e = .ok t →
      X t ∨ Q s' e ∧ ∃ t', step s' e = .ok t' ∧ R t t')
    (hleft : ∀ s e t, X s → P s e → step s e = .ok t → X t)
    {s s' t : σ} {es : List ε} (hR : R s s') (hP : Steps step P s es)
    (hrun : run step s es = .ok t) :
    X t ∨ Steps step Q s' es ∧ ∃ t', run step s' es = .ok t' ∧ R t t' := by
  induction es generalizing s s' with
  | nil =>
      rw [← Except.ok.inj hrun]
      exact .inr ⟨trivial, s', rfl, hR⟩
  | cons e es ih =>
      obtain ⟨u, hu, hut⟩ := run_cons_ok_iff.mp hrun
      rcases hstep s s' e u hR hP.1 hu with hX | ⟨hQ, u', hu', hR'⟩
      · exact .inl (run_invariant hleft hX (hP.2 u hu) hut)
      · rcases ih hR' (hP.2 u hu) hut with hX | ⟨hsteps, t', ht', hRt⟩
        · exact .inl hX
        · exact .inr ⟨.cons hQ hu' hsteps, t', run_cons_ok_iff.mpr ⟨u', hu', ht'⟩, hRt⟩

/-- Where every admissible step follows an abstract machine that cannot fault,
every admissible run does. -/
theorem run_refines {τ ε' : Type*} {next : τ → ε' → τ} {f : ε → ε'} {R : σ → τ → Prop}
    (hstep : ∀ s a e, R s a → P s e → ∃ t, step s e = .ok t ∧ R t (next a (f e)))
    {s : σ} {a : τ} {es : List ε} (hR : R s a) (hP : Steps step P s es) :
    ∃ t, run step s es = .ok t ∧ R t ((es.map f).foldl next a) := by
  induction es generalizing s a with
  | nil => exact ⟨s, rfl, hR⟩
  | cons e es ih =>
      obtain ⟨t, ht, hRt⟩ := hstep s a e hR hP.1
      obtain ⟨u, hu, hRu⟩ := ih hRt (hP.2 t ht)
      exact ⟨u, run_cons_ok_iff.mpr ⟨t, ht, hu⟩, hRu⟩

/-- The run of one component of a system: the system's events that are its own
are its steps, and it does not notice the others. -/
theorem run_projects {τ ε' : Type*} {comp : τ → ε' → Except φ τ} {own : ε → Option ε'}
    {R : σ → τ → Prop} {Q : τ → ε' → Prop}
    (hown : ∀ s t e e' s', R s t → P s e → own e = some e' → step s e = .ok s' →
      Q t e' ∧ ∃ t', comp t e' = .ok t' ∧ R s' t')
    (hother : ∀ s t e s', R s t → P s e → own e = none → step s e = .ok s' → R s' t)
    {s s' : σ} {t : τ} {es : List ε} (hR : R s t) (hP : Steps step P s es)
    (hrun : run step s es = .ok s') :
    Steps comp Q t (es.filterMap own) ∧
      ∃ t', run comp t (es.filterMap own) = .ok t' ∧ R s' t' := by
  induction es generalizing s t with
  | nil =>
      rw [← Except.ok.inj hrun]
      exact ⟨trivial, t, rfl, hR⟩
  | cons e es ih =>
      obtain ⟨u, hu, hrest⟩ := run_cons_ok_iff.mp hrun
      rcases he : own e with _ | e'
      · rw [List.filterMap_cons_none he]
        exact ih (hother s t e u hR hP.1 he hu) (hP.2 u hu) hrest
      · obtain ⟨hQ, v, hv, hR'⟩ := hown s t e e' u hR hP.1 he hu
        obtain ⟨hsteps, t', ht', hend⟩ := ih hR' (hP.2 u hu) hrest
        rw [List.filterMap_cons_some he]
        exact ⟨.cons hQ hv hsteps, t', run_cons_ok_iff.mpr ⟨v, hv, ht'⟩, hend⟩

/-- A run that faults does so in one of its events. -/
theorem run_error {s : σ} {f : φ} {es : List ε} (h : run step s es = .error f) :
    ∃ before e after t, es = before ++ e :: after ∧ run step s before = .ok t ∧
      step t e = .error f := by
  induction es generalizing s with
  | nil => cases h
  | cons e es ih =>
      rw [run] at h
      rcases hstep : step s e with fault | t
      · rw [hstep] at h
        exact ⟨[], e, es, s, rfl, rfl, hstep.trans h⟩
      · rw [hstep] at h
        obtain ⟨before, e', after, u, rfl, hbefore, hfault⟩ := ih h
        exact ⟨e :: before, e', after, u, rfl, run_cons_ok_iff.mpr ⟨t, hstep, hbefore⟩, hfault⟩

/-- A run into `Q` enters it in one of its events. -/
theorem run_enters {Q : σ → Prop} {s t : σ} {es : List ε} (hs : ¬ Q s) (ht : Q t)
    (h : run step s es = .ok t) :
    ∃ before e after u v, es = before ++ e :: after ∧ run step s before = .ok u ∧
      step u e = .ok v ∧ run step v after = .ok t ∧ ¬ Q u ∧ Q v := by
  induction es generalizing s with
  | nil =>
      rw [← Except.ok.inj h] at ht
      exact absurd ht hs
  | cons e es ih =>
      obtain ⟨v, hstep, hrest⟩ := run_cons_ok_iff.mp h
      by_cases hv : Q v
      · exact ⟨[], e, es, s, v, rfl, rfl, hstep, hrest, hs, hv⟩
      · obtain ⟨before, e', after, u, w, rfl, hbefore, hstep', hafter, hu, hw⟩ := ih hv hrest
        exact ⟨e :: before, e', after, u, w, rfl, run_cons_ok_iff.mpr ⟨v, hstep, hbefore⟩,
          hstep', hafter, hu, hw⟩

/-- What holds at the end of a run has held all along, or ever since an event
that brought it about. -/
theorem run_since {Q : σ → Prop} {s t : σ} {es : List ε} (ht : Q t) (h : run step s es = .ok t) :
    Always step Q s es ∨
      ∃ before e after u v, es = before ++ e :: after ∧ run step s before = .ok u ∧
        step u e = .ok v ∧ ¬ Q u ∧ Always step Q v after := by
  induction es generalizing s with
  | nil =>
      rw [← Except.ok.inj h] at ht
      exact .inl ht
  | cons e es ih =>
      obtain ⟨v, hstep, hrest⟩ := run_cons_ok_iff.mp h
      rcases ih hrest with halways | ⟨before, e', after, u, w, rfl, hbefore, hstep', hu, halways⟩
      · by_cases hs : Q s
        · refine .inl ⟨hs, fun w hw => ?_⟩
          rw [hstep, Except.ok.injEq] at hw
          rw [← hw]
          exact halways
        · exact .inr ⟨[], e, es, s, v, rfl, rfl, hstep, hs, halways⟩
      · exact .inr ⟨e :: before, e', after, u, w, rfl, run_cons_ok_iff.mpr ⟨v, hstep, hbefore⟩,
          hstep', hu, halways⟩

/-- If no admissible step from an invariant state faults, no admissible run
faults. -/
theorem run_no_fault {I : σ → Prop}
    (hstep : ∀ s e, I s → P s e → ∃ t, step s e = .ok t ∧ I t)
    {s : σ} {es : List ε} (hs : I s) (hP : Steps step P s es) :
    ∃ t, run step s es = .ok t ∧ I t := by
  induction es generalizing s with
  | nil => exact ⟨s, rfl, hs⟩
  | cons e es ih =>
      obtain ⟨t, ht, htI⟩ := hstep s e hs hP.1
      obtain ⟨u, hu, huI⟩ := ih htI (hP.2 t ht)
      exact ⟨u, run_cons_ok_iff.mpr ⟨t, ht, hu⟩, huI⟩

/-- If from every state of an invariant an admissible event restores `P`
exactly when it satisfies `Q`, an admissible run stays in `P` exactly when all
its events satisfy `Q`. -/
theorem runsThrough_iff_steps_of_admissible {I : σ → Prop}
    (hstep : ∀ s e, I s → P s e → P' s →
      ∃ t, step s e = .ok t ∧ I t ∧ (P' t ↔ Q s e))
    {s : σ} {es : List ε} (hI : I s) (hadmissible : Steps step P s es) (hP : P' s) :
    RunsThrough step P' s es ↔ Steps step Q s es := by
  induction es generalizing s with
  | nil => exact iff_of_true hP trivial
  | cons e es ih =>
      obtain ⟨t, ht, htI, hiff⟩ := hstep s e hI hadmissible.1 hP
      rw [runsThrough_cons_iff ht, steps_cons_iff ht]
      have hrest := hadmissible.2 t ht
      constructor
      · rintro ⟨-, hruns⟩
        exact ⟨hiff.mp hruns.head, (ih htI hrest hruns.head).mp hruns⟩
      · rintro ⟨hQ, hsteps⟩
        exact ⟨hP, (ih htI hrest (hiff.mpr hQ)).mpr hsteps⟩

theorem runsThrough_iff_steps {I : σ → Prop}
    (hstep : ∀ s e, I s → P' s → ∃ t, step s e = .ok t ∧ I t ∧ (P' t ↔ Q s e))
    {s : σ} {es : List ε} (hI : I s) (hP : P' s) :
    RunsThrough step P' s es ↔ Steps step Q s es :=
  runsThrough_iff_steps_of_admissible (fun s e hs _ => hstep s e hs) hI
    (Steps.of_forall (fun _ _ => trivial) s es) hP

/-- A measure that every admissible step lowers, unless nothing is admissible
after it, bounds the length of a run.  The last event may fault. -/
theorem Steps.length_le {μ : σ → ℕ}
    (hstep : ∀ s e t, P s e → step s e = .ok t → μ t < μ s ∨ ∀ e', ¬ P t e')
    {s u : σ} {es : List ε} (h : Steps step P s es) (hrun : run step s es.dropLast = .ok u) :
    es.length ≤ μ s + 1 := by
  induction es generalizing s with
  | nil => exact Nat.zero_le _
  | cons e es ih =>
      cases es with
      | nil => exact Nat.succ_le_succ (Nat.zero_le _)
      | cons e' es =>
          rw [List.dropLast_cons_cons] at hrun
          obtain ⟨t, ht, hrest⟩ := run_cons_ok_iff.mp hrun
          have hnext := h.2 t ht
          rcases hstep s e t h.1 ht with hless | hlast
          · exact Nat.succ_le_succ (Nat.le_trans (ih hnext hrest) hless)
          · exact absurd hnext.1 (hlast e')

theorem Always.head {s : σ} {es : List ε} (h : Always step P' s es) : P' s := by
  cases es with
  | nil => exact h
  | cons e es => exact h.1

theorem Always.last {s t : σ} {es : List ε} (h : Always step P' s es)
    (hrun : run step s es = .ok t) : P' t := by
  induction es generalizing s with
  | nil =>
      rw [← Except.ok.inj hrun]
      exact h
  | cons e es ih =>
      obtain ⟨u, hu, hut⟩ := run_cons_ok_iff.mp hrun
      exact ih (h.2 u hu) hut

theorem Always.steps {s : σ} {es : List ε} (h : Always step P' s es) :
    Steps step (fun s e => ∀ t, step s e = .ok t → P' t) s es := by
  induction es generalizing s with
  | nil => trivial
  | cons e es ih => exact ⟨fun t ht => (h.2 t ht).head, fun t ht => ih (h.2 t ht)⟩

/-- What follows from an invariant holds in every state a run reaches. -/
theorem always_of_invariant {I : σ → Prop} (hsound : ∀ s, I s → P' s)
    (hstep : ∀ s e t, I s → P s e → step s e = .ok t → I t)
    {s : σ} {es : List ε} (hs : I s) (hP : Steps step P s es) : Always step P' s es := by
  induction es generalizing s with
  | nil => exact hsound s hs
  | cons e es ih => exact ⟨hsound s hs, fun t ht => ih (hstep s e t hs hP.1 ht) (hP.2 t ht)⟩

/-- The same rule where an event may fault, for the runs whose events are all
admissible. -/
theorem always_iff_steps_of_admissible {I : σ → Prop}
    (hstep : ∀ s e, I s → P s e → P' s → (∀ t, step s e = .ok t → I t) ∧
      ((∀ t, step s e = .ok t → P' t) ↔ Q s e))
    {s : σ} {es : List ε} (hI : I s) (hadmissible : Steps step P s es) (hP : P' s) :
    Always step P' s es ↔ Steps step Q s es := by
  induction es generalizing s with
  | nil => exact iff_of_true hP trivial
  | cons e es ih =>
      obtain ⟨hnext, hiff⟩ := hstep s e hI hadmissible.1 hP
      constructor
      · rintro ⟨-, halways⟩
        refine ⟨hiff.mp fun t ht => (halways t ht).head, ?_⟩
        intro t ht
        exact (ih (hnext t ht) (hadmissible.2 t ht) (halways t ht).head).mp (halways t ht)
      · rintro ⟨hQ, hsteps⟩
        refine ⟨hP, ?_⟩
        intro t ht
        exact (ih (hnext t ht) (hadmissible.2 t ht) (hiff.mpr hQ t ht)).mpr (hsteps t ht)

theorem always_iff_steps {I : σ → Prop}
    (hstep : ∀ s e, I s → P' s → (∀ t, step s e = .ok t → I t) ∧
      ((∀ t, step s e = .ok t → P' t) ↔ Q s e))
    {s : σ} {es : List ε} (hI : I s) (hP : P' s) :
    Always step P' s es ↔ Steps step Q s es :=
  always_iff_steps_of_admissible (fun s e hs _ => hstep s e hs) hI
    (Steps.of_forall (fun _ _ => trivial) s es) hP

/-- A counter that each step moves by `f`, modulo `n`, has moved by the total. -/
theorem run_runTotal {f : σ → ε → ℕ} {c : σ → ℕ} {n : ℕ}
    (hstep : ∀ {s e t}, step s e = .ok t → c t % n = (c s + f s e) % n) {s t : σ} {es : List ε}
    (hrun : run step s es = .ok t) : c t % n = (c s + runTotal step f s es) % n := by
  induction es generalizing s with
  | nil =>
      rw [← Except.ok.inj hrun]
      rfl
  | cons e es ih =>
      obtain ⟨u, hu, hrun⟩ := run_cons_ok_iff.mp hrun
      rw [runTotal, hu, ← Nat.add_assoc, ih hrun, Nat.add_mod, hstep hu, ← Nat.add_mod]

end Rules

/-! ## Steps that cannot fault -/

/-- Every event of the run satisfies `P` in the state it is offered in. -/
def Along (step : σ → ε → σ) (P : σ → ε → Prop) : σ → List ε → Prop
  | _, [] => True
  | s, e :: es => P s e ∧ Along step P (step s e) es

section Total

variable {step : σ → ε → σ} {P : σ → ε → Prop} {I P' : σ → Prop}

theorem foldl_invariant (hstep : ∀ s e, I s → I (step s e)) {s : σ} {es : List ε} (hs : I s) :
    I (es.foldl step s) := by
  induction es generalizing s with
  | nil => exact hs
  | cons e es ih => exact ih (hstep s e hs)

theorem foldl_back (hback : ∀ s e, P' (step s e) → P' s) {s : σ} {es : List ε}
    (h : P' (es.foldl step s)) : P' s := by
  induction es generalizing s with
  | nil => exact h
  | cons e es ih => exact hback s e (ih h)

/-- A property no event restores, and each event keeps exactly if it satisfies
`P`, holds after the events exactly if they all satisfy `P`. -/
theorem foldl_iff_along (hback : ∀ s e, P' (step s e) → P' s) {es : List ε}
    (hstep : ∀ s, ∀ e ∈ es, I s → P' s → I (step s e) ∧ (P' (step s e) ↔ P s e))
    {s : σ} (hI : I s) (hP : P' s) : P' (es.foldl step s) ↔ Along step P s es := by
  induction es generalizing s with
  | nil => exact iff_of_true hP trivial
  | cons e es ih =>
      obtain ⟨hnext, hiff⟩ := hstep s e List.mem_cons_self hI hP
      have hlater : ∀ s, ∀ e' ∈ es, I s → P' s → I (step s e') ∧ (P' (step s e') ↔ P s e') :=
        fun s e' he' => hstep s e' (List.mem_cons_of_mem e he')
      constructor
      · intro hend
        have hkept : P' (step s e) := foldl_back hback hend
        exact ⟨hiff.mp hkept, (ih hlater hnext hkept).mp hend⟩
      · rintro ⟨hP, halong⟩
        exact (ih hlater hnext (hiff.mpr hP)).mpr halong

end Total

/-! ## Deciding by running -/

instance decidableExistsSome {P : σ → Prop} [DecidablePred P] :
    (r : Option σ) → Decidable (∃ t, r = some t ∧ P t)
  | some t => decidable_of_iff (P t) (by simp)
  | none => .isFalse (by simp)

instance Steps.decidable {step : σ → ε → Except φ σ} {P : σ → ε → Prop}
    [∀ s e, Decidable (P s e)] : (s : σ) → (es : List ε) → Decidable (Steps step P s es)
  | _, [] => .isTrue trivial
  | s, e :: es =>
    have hnext : Decidable (∀ t, step s e = .ok t → Steps step P t es) :=
      match step s e with
      | .ok t =>
        have : Decidable (Steps step P t es) := Steps.decidable t es
        decidable_of_iff (Steps step P t es) (by simp)
      | .error _ => .isTrue (by simp)
    inferInstanceAs (Decidable (P s e ∧ ∀ t, step s e = .ok t → Steps step P t es))

end Library

import Mathlib.Tactic.Common

/-!
# The state machine engine

`stm.c` runs a table of states whose callbacks are supplied by the protocol.
A null callback is `none`; dispatching an event to a state without the
callback trips an assertion.  The current state, a null pointer before the
first event, is kept by the protocol's own record, so each dispatch takes it
as an argument and the state it returns is the new current state.
-/

namespace Socks5Proxy

/-- The ways a callback ends the whole process. -/
inductive Fault
  | assertion
  | nullDereference
  | useAfterFree
  | outOfBounds
  | invalidFree
  deriving DecidableEq, Repr

instance decidableEqError {σ : Type} (fault : Fault) :
    (r : Except Fault σ) → Decidable (r = .error fault)
  | .ok _ => .isFalse (by simp)
  | .error fault' => decidable_of_iff (fault' = fault) (by simp)

/-- `struct state_definition`. -/
structure StateDefinition (σ ρ : Type) where
  onArrival : Option (σ → σ)
  onDeparture : Option (σ → σ)
  onReadReady : Option (σ → Except Fault (σ × ρ))
  onWriteReady : Option (σ → Except Fault (σ × ρ))
  onBlockReady : Option (σ → Except Fault (σ × ρ))

/-- How one `if (state == …)` block of a reader ends: it returned from the
callback, or control fell through to the block below it. -/
inductive Block (σ τ ρ : Type)
  | returned (s : σ) (ret : ρ)
  | next (t : τ)

namespace Block

variable {σ τ υ ρ : Type}

/-- Continue with the block below. -/
def andThen (b : Block σ τ ρ) (f : τ → Block σ υ ρ) : Block σ υ ρ :=
  match b with
  | returned s ret => returned s ret
  | next t => f t

@[simp] theorem andThen_returned (s : σ) (ret : ρ) (f : τ → Block σ υ ρ) :
    (returned s ret : Block σ τ ρ).andThen f = returned s ret := rfl

@[simp] theorem andThen_next (t : τ) (f : τ → Block σ υ ρ) :
    (next t : Block σ τ ρ).andThen f = f t := rfl

/-- `P` holds if the block returned and `Q` if control fell through. -/
def All (P : σ → ρ → Prop) (Q : τ → Prop) : Block σ τ ρ → Prop
  | returned s ret => P s ret
  | next t => Q t

theorem All.mono {P P' : σ → ρ → Prop} {Q Q' : τ → Prop} {b : Block σ τ ρ} (hb : b.All P Q)
    (hP : ∀ s ret, P s ret → P' s ret) (hQ : ∀ t, Q t → Q' t) : b.All P' Q' := by
  cases b with
  | returned s ret => exact hP s ret hb
  | next t => exact hQ t hb

theorem All.andThen {P : σ → ρ → Prop} {Q : τ → Prop} {R : υ → Prop} {b : Block σ τ ρ}
    {f : τ → Block σ υ ρ} (hb : b.All P Q) (hf : ∀ t, Q t → (f t).All P R) :
    (b.andThen f).All P R := by
  cases b with
  | returned s ret => exact hb
  | next t => exact hf t hb

end Block

section Dispatch

variable {σ ρ : Type} [DecidableEq ρ]

def callIfSome (callback : Option (σ → σ)) (s : σ) : σ :=
  match callback with
  | some f => f s
  | none => s

/-- The current state after `handle_first`, and the effect of its arrival. -/
def handleFirst (states : ρ → StateDefinition σ ρ) (initial : ρ)
    (current : Option ρ) (s : σ) : ρ × σ :=
  match current with
  | some st => (st, s)
  | none => (initial, callIfSome (states initial).onArrival s)

def jump (states : ρ → StateDefinition σ ρ) (current next : ρ) (s : σ) : σ :=
  if current ≠ next then
    callIfSome (states next).onArrival (callIfSome (states current).onDeparture s)
  else
    s

/-- The common body of the three event handlers: `select` picks the callback
of the event. -/
def stmHandler (select : StateDefinition σ ρ → Option (σ → Except Fault (σ × ρ)))
    (states : ρ → StateDefinition σ ρ) (initial : ρ) (current : Option ρ) (s : σ) :
    Except Fault (σ × ρ) :=
  let (st, s) := handleFirst states initial current s
  match select (states st) with
  | none => .error .assertion
  | some callback =>
    match callback s with
    | .error fault => .error fault
    | .ok (s, ret) => .ok (jump states st ret s, ret)

def stmHandlerRead (states : ρ → StateDefinition σ ρ) (initial : ρ) :
    Option ρ → σ → Except Fault (σ × ρ) :=
  stmHandler StateDefinition.onReadReady states initial

def stmHandlerWrite (states : ρ → StateDefinition σ ρ) (initial : ρ) :
    Option ρ → σ → Except Fault (σ × ρ) :=
  stmHandler StateDefinition.onWriteReady states initial

def stmHandlerBlock (states : ρ → StateDefinition σ ρ) (initial : ρ) :
    Option ρ → σ → Except Fault (σ × ρ) :=
  stmHandler StateDefinition.onBlockReady states initial

def stmHandlerClose (states : ρ → StateDefinition σ ρ) (current : Option ρ) (s : σ) : σ :=
  match current with
  | some st => callIfSome (states st).onDeparture s
  | none => s

end Dispatch

section Inversion

variable {σ ρ : Type} [DecidableEq ρ]
  {select : StateDefinition σ ρ → Option (σ → Except Fault (σ × ρ))}
  {states : ρ → StateDefinition σ ρ} {initial : ρ} {current : Option ρ}
  {s t : σ} {ret : ρ}

/-- A dispatch that succeeds ran the callback of the state it found. -/
theorem stmHandler_eq_ok_iff :
    stmHandler select states initial current s = .ok (t, ret) ↔
      ∃ callback u,
        select (states (handleFirst states initial current s).1) = some callback ∧
        callback (handleFirst states initial current s).2 = .ok (u, ret) ∧
        t = jump states (handleFirst states initial current s).1 ret u := by
  simp only [stmHandler]
  cases hsel : select (states (handleFirst states initial current s).1) with
  | none => simp
  | some callback =>
      cases hcall : callback (handleFirst states initial current s).2 with
      | error fault => simp [hcall]
      | ok r =>
          obtain ⟨u, ret'⟩ := r
          simp only [hcall, Except.ok.injEq, Prod.mk.injEq, Option.some.injEq]
          constructor
          · rintro ⟨ht, hret⟩
            subst hret
            exact ⟨callback, u, rfl, hcall, ht.symm⟩
          · rintro ⟨callback', u', hsome, hcall', ht⟩
            subst hsome
            rw [hcall, Except.ok.injEq, Prod.mk.injEq] at hcall'
            obtain ⟨hu, hret⟩ := hcall'
            subst hu hret
            exact ⟨ht.symm, rfl⟩

@[simp] theorem jump_self (st : ρ) : jump states st st s = s := by
  simp [jump]

theorem jump_of_ne {st next : ρ} (h : st ≠ next) :
    jump states st next s =
      callIfSome (states next).onArrival (callIfSome (states st).onDeparture s) := by
  simp [jump, h]

end Inversion

end Socks5Proxy

import Socks5Proxy.Library.Run
import Mathlib.Data.Int.Notation
import Mathlib.Data.List.Forall2
import Mathlib.Data.List.Induction

/-!
# The table-driven parser

`parser.c` runs a machine that is given to it as data: for each state the
transitions, of which the first one that fits the next byte is taken.  Its
tables are arrays of C, and an access outside them is a fault.

`parser_utils.c` builds the machine that compares its input to a string without
regard to case.
-/

namespace Socks5Proxy

open Library

inductive ParserFault
  | nullPointer
  | outOfBounds
  deriving DecidableEq, Repr

/-! ## The engine -/

/-- `struct parser_event` without the pointer to a second event. -/
structure ParserEvent where
  type : UInt32
  data : Vector UInt8 3
  n : UInt8
  deriving DecidableEq

/-- `struct parser_state_transition`; a null pointer is `none`. -/
structure ParserStateTransition where
  whenever : ℤ
  dest : UInt32
  act1 : Option (ParserEvent → UInt8 → ParserEvent)
  act2 : Option (ParserEvent → UInt8 → ParserEvent)

/-- `struct parser_definition`; the arrays `states` and `states_n` are one
list, or two null pointers. -/
structure ParserDefinition where
  statesCount : UInt32
  states : Option (List (List ParserStateTransition))
  startState : UInt32

/-- `struct parser`; `next` says that the first event points to the second. -/
structure Parser where
  classes : List UInt32
  definition : ParserDefinition
  state : UInt32
  e1 : ParserEvent
  e2 : ParserEvent
  next : Bool

/-- The predicate that is always true. -/
def any : ℤ := 512

def parserInit (alloc : Bool) (classes : List UInt32) (definition : ParserDefinition) :
    Option Parser :=
  let blank : ParserEvent := { type := 0, data := .replicate 3 0, n := 0 }
  if alloc then
    some
      { classes := classes
        definition := definition
        state := definition.startState
        e1 := blank
        e2 := blank
        next := false }
  else
    none

def parserReset (p : Parser) : Parser := { p with state := p.definition.startState }

/-- `matched`, for a byte of the class `type`. -/
def ParserStateTransition.matched (t : ParserStateTransition) (type : UInt32) (c : UInt8) : Bool :=
  if t.whenever ≤ 0xFF then (c.toNat : ℤ) == t.whenever
  else if t.whenever = any then true
  else type &&& UInt32.ofInt t.whenever != 0

/-- `parser_feed`; the event it returns is the first of the new parser. -/
def parserFeed (p : Parser) (c : UInt8) : Except ParserFault Parser :=
  match p.classes[c.toNat]? with
  | none => .error .outOfBounds
  | some type =>
    match p.definition.states with
    | none => .error .nullPointer
    | some states =>
      match states[p.state.toNat]? with
      | none => .error .outOfBounds
      | some state =>
        let p := { p with next := false }
        match state.find? (·.matched type c) with
        | none => .ok p
        | some t =>
          match t.act1 with
          | none => .error .nullPointer
          | some act1 =>
            match t.act2 with
            | none => .ok { p with e1 := act1 p.e1 c, state := t.dest }
            | some act2 =>
              .ok
                { p with
                  e1 := act1 p.e1 c
                  next := true
                  e2 := act2 p.e2 c
                  state := t.dest }

/-- `parser_no_classes`; the array has one cell less than there are bytes. -/
def parserNoClasses : List UInt32 := List.replicate 0xFF 0

@[simp] theorem parserNoClasses_length : parserNoClasses.length = 255 := List.length_replicate

/-! ### Which machines are safe -/

/-- Every state that the tables mention is in them, and every transition has the
action that is required. -/
structure ParserDefinition.Sound (d : ParserDefinition) : Prop where
  states : ∃ states, d.states = some states ∧ d.startState.toNat < states.length ∧
    ∀ state ∈ states, ∀ t ∈ state, t.dest.toNat < states.length ∧ t.act1 ≠ none

/-- The parser is in one of its states. -/
def Parser.InTable (p : Parser) : Prop :=
  p.definition.Sound ∧ ∀ states, p.definition.states = some states → p.state.toNat < states.length

section Safety

variable {p q : Parser} {c : UInt8} {cs : List UInt8}

theorem parserInit_eq_some {alloc : Bool} {classes : List UInt32} {d : ParserDefinition}
    (h : parserInit alloc classes d = some p) :
    p.classes = classes ∧ p.definition = d ∧ p.state = d.startState := by
  unfold parserInit at h
  split at h
  · cases h
    exact ⟨rfl, rfl, rfl⟩
  · cases h

theorem parserReset_inTable (h : p.definition.Sound) : (parserReset p).InTable := by
  refine ⟨h, ?_⟩
  obtain ⟨states, hstates, hstart, -⟩ := h.states
  intro states' hstates'
  rw [← Option.some.inj (hstates.symm.trans hstates')]
  exact hstart

/-- A byte is fed safely exactly if it has a class. -/
theorem parserFeed_ok_iff (h : p.InTable) :
    (∃ q, parserFeed p c = .ok q) ↔ c.toNat < p.classes.length := by
  obtain ⟨hsound, hstate⟩ := h
  obtain ⟨states, hstates, -, hall⟩ := hsound.states
  unfold parserFeed
  rw [hstates]
  rcases hclass : p.classes[c.toNat]? with _ | type
  · refine iff_of_false nofun ?_
    exact Nat.not_lt.mpr (List.getElem?_eq_none_iff.mp hclass)
  · refine iff_of_true ?_ (List.getElem?_eq_some_iff.mp hclass).1
    have hlt := hstate states hstates
    dsimp only
    rw [List.getElem?_eq_getElem hlt]
    dsimp only
    have hmem : states[p.state.toNat] ∈ states := List.getElem_mem hlt
    rcases hfound : states[p.state.toNat].find? (·.matched type c) with _ | t
    · rw [hfound]
      exact ⟨_, rfl⟩
    · obtain ⟨act1, hact1⟩ := Option.ne_none_iff_exists'.mp
        (hall _ hmem t (List.mem_of_find?_eq_some hfound)).2
      rw [hfound]
      dsimp only
      rw [hact1]
      rcases t.act2 with _ | act2
      · exact ⟨_, rfl⟩
      · exact ⟨_, rfl⟩

theorem parserFeed_inTable (h : p.InTable) (hfeed : parserFeed p c = .ok q) :
    q.InTable ∧ q.classes = p.classes ∧ q.definition = p.definition := by
  obtain ⟨hsound, hstate⟩ := h
  obtain ⟨states, hstates, -, hall⟩ := hsound.states
  have hlt := hstate states hstates
  unfold parserFeed at hfeed
  rw [hstates] at hfeed
  split at hfeed
  · cases hfeed
  · next type _ =>
      dsimp only at hfeed
      rw [List.getElem?_eq_getElem hlt] at hfeed
      dsimp only at hfeed
      split at hfeed
      · cases hfeed
        exact ⟨⟨hsound, hstate⟩, rfl, rfl⟩
      · next t hfound =>
          have hdest := (hall _ (List.getElem_mem hlt) t (List.mem_of_find?_eq_some hfound)).1
          have hnext : ∀ states', p.definition.states = some states' →
              t.dest.toNat < states'.length := by
            intro states' hstates'
            rw [← Option.some.inj (hstates.symm.trans hstates')]
            exact hdest
          split at hfeed
          · cases hfeed
          · split at hfeed
            · cases hfeed
              exact ⟨⟨hsound, hnext⟩, rfl, rfl⟩
            · cases hfeed
              exact ⟨⟨hsound, hnext⟩, rfl, rfl⟩

/-- A machine that is well described survives exactly the inputs whose bytes
all have a class. -/
theorem parser_feed_safe_iff (h : p.InTable) :
    (∃ q, run parserFeed p cs = .ok q) ↔ ∀ c ∈ cs, c.toNat < p.classes.length := by
  induction cs generalizing p with
  | nil => exact iff_of_true ⟨p, rfl⟩ (by simp)
  | cons c cs ih =>
      rw [List.forall_mem_cons]
      constructor
      · rintro ⟨q, hrun⟩
        obtain ⟨p', hfeed, hrest⟩ := run_cons_ok_iff.mp hrun
        obtain ⟨hnext, hclasses, -⟩ := parserFeed_inTable h hfeed
        refine ⟨(parserFeed_ok_iff h).mp ⟨p', hfeed⟩, ?_⟩
        rw [← hclasses]
        exact (ih hnext).mp ⟨q, hrest⟩
      · rintro ⟨hc, hcs⟩
        obtain ⟨p', hfeed⟩ := (parserFeed_ok_iff h).mpr hc
        obtain ⟨hnext, hclasses, -⟩ := parserFeed_inTable h hfeed
        rw [← hclasses] at hcs
        obtain ⟨q, hrest⟩ := (ih hnext).mpr hcs
        exact ⟨q, run_cons_ok_iff.mpr ⟨p', hfeed, hrest⟩⟩

end Safety

/-! ## Comparing without regard to case -/

inductive StringCmpEventTypes
  | mayEq
  | eq
  | neq
  deriving DecidableEq

/-- The values of the enumeration. -/
def StringCmpEventTypes.value : StringCmpEventTypes → UInt32
  | .mayEq => 0
  | .eq => 1
  | .neq => 2

/-- What the three actions have in common. -/
def stringCmpEvent (type : StringCmpEventTypes) (ret : ParserEvent) (c : UInt8) : ParserEvent :=
  { type := type.value, n := 1, data := ret.data.set 0 c }

def mayEq : ParserEvent → UInt8 → ParserEvent := stringCmpEvent .mayEq

def eq : ParserEvent → UInt8 → ParserEvent := stringCmpEvent .eq

def neq : ParserEvent → UInt8 → ParserEvent := stringCmpEvent .neq

/-- The value of a `char`, a signed type here. -/
def charValue (c : UInt8) : ℤ := if c.toNat < 128 then c.toNat else c.toNat - 256

/-- `tolower` and `toupper` of `ctype.h`, in the C locale.  Nothing is assumed of
what they make of a negative `char`. -/
structure CType where
  tolower : ℤ → ℤ
  toupper : ℤ → ℤ
  tolower_ascii : ∀ {c : ℤ}, 0 ≤ c → c < 128 → tolower c = if 65 ≤ c ∧ c ≤ 90 then c + 32 else c
  toupper_ascii : ∀ {c : ℤ}, 0 ≤ c → c < 128 → toupper c = if 97 ≤ c ∧ c ≤ 122 then c - 32 else c

/-- The transitions of the `i`-th state of the machine for `s`. -/
def stringCmpState (ctype : CType) (s : List UInt8) (i : ℕ) : List ParserStateTransition :=
  let n := s.length
  let stNeq := n + 1
  let otherwise : ParserStateTransition :=
    { whenever := any, dest := UInt32.ofNat stNeq, act1 := some neq, act2 := none }
  match s[i]? with
  | none => [otherwise]
  | some c =>
    let dest := if i + 1 = n then n else i + 1
    let act := if i + 1 = n then eq else mayEq
    let fits (whenever : ℤ) : ParserStateTransition :=
      { whenever := whenever, dest := UInt32.ofNat dest, act1 := some act, act2 := none }
    [fits (ctype.tolower (charValue c)), fits (ctype.toupper (charValue c)), otherwise]

/-- `parser_utils_strcmpi`; `alloc` says whether its three arrays were
allocated. -/
def parserUtilsStrcmpi (ctype : CType) (alloc : Bool) (s : List UInt8) : ParserDefinition :=
  let n := s.length
  if alloc then
    { statesCount := UInt32.ofNat (n + 2)
      states := some ((List.range (n + 2)).map (stringCmpState ctype s))
      startState := 0 }
  else
    { statesCount := 0, states := none, startState := 0 }

/-! ### What the machine decides -/

/-- Lower case, for the letters of ASCII. -/
def lowerCase (c : UInt8) : UInt8 := if 65 ≤ c ∧ c ≤ 90 then c + 32 else c

/-- A character of the string and a byte of the input are the same but for
case. -/
def Like (a c : UInt8) : Prop := lowerCase a = lowerCase c

instance (a c : UInt8) : Decidable (Like a c) := inferInstanceAs (Decidable (_ = _))

/-- What is known of the input so far: it is the string, it may become the
string, or it is not the string. -/
def caseCompare (s xs : List UInt8) : StringCmpEventTypes :=
  if List.Forall₂ Like s xs then .eq
  else if List.Forall₂ Like (s.take xs.length) xs then .mayEq
  else .neq

section Comparison

variable {ctype : CType} {s xs : List UInt8} {a c x : UInt8} {i : ℕ} {p q : Parser}

theorem lowerCase_toNat :
    (lowerCase c).toNat = if 65 ≤ c.toNat ∧ c.toNat ≤ 90 then c.toNat + 32 else c.toNat := by
  have hletter : (65 ≤ c ∧ c ≤ 90) ↔ 65 ≤ c.toNat ∧ c.toNat ≤ 90 := Iff.rfl
  unfold lowerCase
  simp only [hletter]
  split
  · rw [UInt8.toNat_add]
    change (c.toNat + 32) % 256 = c.toNat + 32
    omega
  · rfl

theorem charValue_of_ascii (h : a < 128) : charValue a = a.toNat := if_pos h

/-- A byte is like a character of ASCII if it is one of its two cases. -/
theorem like_iff (ctype : CType) (h : a < 128) :
    Like a c ↔
      (c.toNat : ℤ) = ctype.tolower (charValue a) ∨
        (c.toNat : ℤ) = ctype.toupper (charValue a) := by
  have ha : a.toNat < 128 := h
  have hc := c.toNat_lt
  rw [charValue_of_ascii h, ctype.tolower_ascii (by omega) (by omega),
    ctype.toupper_ascii (by omega) (by omega)]
  unfold Like
  rw [← UInt8.toNat_inj, lowerCase_toNat, lowerCase_toNat]
  grind

theorem forall₂_concat_iff {α β : Type*} {R : α → β → Prop} {l : List α} {m : List β} {a : α}
    {b : β} : List.Forall₂ R (l ++ [a]) (m ++ [b]) ↔ List.Forall₂ R l m ∧ R a b := by
  rw [← List.forall₂_reverse_iff, List.reverse_concat, List.reverse_concat, List.forall₂_cons,
    List.forall₂_reverse_iff, and_comm]

/-- The string agrees with a longer input exactly if it agrees with the
shorter one and has a next character that is like the next byte. -/
theorem agrees_concat_iff :
    List.Forall₂ Like (s.take (xs ++ [x]).length) (xs ++ [x]) ↔
      List.Forall₂ Like (s.take xs.length) xs ∧ ∃ a, s[xs.length]? = some a ∧ Like a x := by
  rw [List.length_append, List.length_singleton]
  rcases ha : s[xs.length]? with _ | a
  · refine iff_of_false ?_ (by simp)
    intro h
    have hlength := h.length_eq
    have hle := List.getElem?_eq_none_iff.mp ha
    simp only [List.length_take, List.length_append, List.length_singleton] at hlength
    omega
  · rw [List.take_add_one, ha, Option.toList_some, forall₂_concat_iff]
    simp

/-- An input that agrees with the string so far is the string if it is as
long. -/
theorem caseCompare_of_agrees (h : List.Forall₂ Like (s.take xs.length) xs) :
    caseCompare s xs = if xs.length = s.length then .eq else .mayEq := by
  unfold caseCompare
  by_cases hlength : xs.length = s.length
  · have hall : List.Forall₂ Like s xs := by
      rwa [hlength, List.take_length] at h
    rw [if_pos hall, if_pos hlength]
  · rw [if_neg (fun hall => hlength hall.length_eq.symm), if_pos h, if_neg hlength]

theorem caseCompare_of_not_agrees (h : ¬ List.Forall₂ Like (s.take xs.length) xs) :
    caseCompare s xs = .neq := by
  have hall : ¬ List.Forall₂ Like s xs := by
    intro hall
    rw [← hall.length_eq, List.take_length] at h
    exact h hall
  unfold caseCompare
  rw [if_neg hall, if_neg h]

/-- The state the machine for `s` is in after an input. -/
def stringCmpPosition (s xs : List UInt8) : ℕ :=
  if List.Forall₂ Like (s.take xs.length) xs then xs.length else s.length + 1

theorem stringCmpPosition_lt : stringCmpPosition s xs < s.length + 2 := by
  unfold stringCmpPosition
  split
  · next h =>
      have hlength := h.length_eq
      rw [List.length_take] at hlength
      omega
  · omega

theorem charValue_case_le (ctype : CType) (h : a < 128) :
    ctype.tolower (charValue a) ≤ 0xFF ∧ ctype.toupper (charValue a) ≤ 0xFF := by
  have ha : a.toNat < 128 := h
  rw [charValue_of_ascii h, ctype.tolower_ascii (by omega) (by omega),
    ctype.toupper_ascii (by omega) (by omega)]
  grind

theorem find?_of_char {t : ParserStateTransition} {rest : List ParserStateTransition}
    {type : UInt32} (hle : t.whenever ≤ 0xFF) (h : (c.toNat : ℤ) = t.whenever) :
    (t :: rest).find? (·.matched type c) = some t := by
  refine List.find?_cons_of_pos ?_
  unfold ParserStateTransition.matched
  rw [if_pos hle, beq_iff_eq]
  exact h

theorem find?_of_other_char {t : ParserStateTransition} {rest : List ParserStateTransition}
    {type : UInt32} (hle : t.whenever ≤ 0xFF) (h : (c.toNat : ℤ) ≠ t.whenever) :
    (t :: rest).find? (·.matched type c) = rest.find? (·.matched type c) := by
  refine List.find?_cons_of_neg ?_
  unfold ParserStateTransition.matched
  rw [if_pos hle, beq_iff_eq]
  exact h

theorem find?_of_any {t : ParserStateTransition} {rest : List ParserStateTransition}
    {type : UInt32} (h : t.whenever = any) :
    (t :: rest).find? (·.matched type c) = some t := by
  refine List.find?_cons_of_pos ?_
  unfold ParserStateTransition.matched
  rw [h]
  rfl

/-- In the `i`-th state the byte that is like the `i`-th character leads to the
next state. -/
theorem stringCmpState_of_like (hascii : ∀ a ∈ s, a < 128) (ha : s[i]? = some a)
    (hlike : Like a c) :
    ∃ t, (∀ type, (stringCmpState ctype s i).find? (·.matched type c) = some t) ∧
      t.dest = UInt32.ofNat (i + 1) ∧
      t.act1 = some (stringCmpEvent (if i + 1 = s.length then .eq else .mayEq)) ∧
      t.act2 = none := by
  have hdest : (if i + 1 = s.length then s.length else i + 1) = i + 1 := by
    split <;> omega
  have hact : (if i + 1 = s.length then eq else mayEq) =
      stringCmpEvent (if i + 1 = s.length then .eq else .mayEq) := by
    split <;> rfl
  have hchar := hascii a (List.mem_of_getElem? ha)
  obtain ⟨hlower, hupper⟩ := charValue_case_le ctype hchar
  unfold stringCmpState
  rw [ha]
  dsimp only
  rw [hdest, hact]
  by_cases hfirst : (c.toNat : ℤ) = ctype.tolower (charValue a)
  · exact ⟨_, fun _ => find?_of_char hlower hfirst, rfl, rfl, rfl⟩
  · have hsecond := ((like_iff ctype hchar).mp hlike).resolve_left hfirst
    exact ⟨_, fun _ => Eq.trans (find?_of_other_char hlower hfirst) (find?_of_char hupper hsecond),
      rfl, rfl, rfl⟩

/-- Every other byte leads to the state of the comparison that failed. -/
theorem stringCmpState_of_not_like (hascii : ∀ a ∈ s, a < 128)
    (h : ∀ a, s[i]? = some a → ¬ Like a c) :
    ∃ t, (∀ type, (stringCmpState ctype s i).find? (·.matched type c) = some t) ∧
      t.dest = UInt32.ofNat (s.length + 1) ∧ t.act1 = some (stringCmpEvent .neq) ∧
      t.act2 = none := by
  unfold stringCmpState
  rcases ha : s[i]? with _ | a
  · exact ⟨_, fun _ => find?_of_any rfl, rfl, rfl, rfl⟩
  · have hchar := hascii a (List.mem_of_getElem? ha)
    obtain ⟨hfirst, hsecond⟩ := not_or.mp (mt (like_iff ctype hchar).mpr (h a ha))
    obtain ⟨hlower, hupper⟩ := charValue_case_le ctype hchar
    exact ⟨_, fun _ => Eq.trans (find?_of_other_char hlower hfirst)
      (Eq.trans (find?_of_other_char hupper hsecond) (find?_of_any rfl)), rfl, rfl, rfl⟩

/-- One transition is taken, and it has one action. -/
theorem parserFeed_of_find {states : List (List ParserStateTransition)}
    {state : List ParserStateTransition} {t : ParserStateTransition}
    {act1 : ParserEvent → UInt8 → ParserEvent} (hclass : c.toNat < p.classes.length)
    (hstates : p.definition.states = some states) (hstate : states[p.state.toNat]? = some state)
    (hfind : ∀ type, state.find? (·.matched type c) = some t) (hact1 : t.act1 = some act1)
    (hact2 : t.act2 = none) :
    parserFeed p c = .ok { p with e1 := act1 p.e1 c, state := t.dest, next := false } := by
  unfold parserFeed
  rw [List.getElem?_eq_getElem hclass, hstates]
  dsimp only
  rw [hstate]
  dsimp only
  rw [hfind]
  dsimp only
  rw [hact1, hact2]

theorem stringCmp_row (ctype : CType) (h : i < s.length + 2)
    (hlength : s.length + 1 < UInt32.size) :
    ((List.range (s.length + 2)).map (stringCmpState ctype s))[(UInt32.ofNat i).toNat]? =
      some (stringCmpState ctype s i) := by
  have hi : (UInt32.ofNat i).toNat = i := UInt32.toNat_ofNat_of_lt' (by omega)
  rw [hi, List.getElem?_map, List.getElem?_range h, Option.map_some]

/-- One byte moves the machine from the position after the input so far to the
one after the longer input, and the event says how the comparison stands. -/
theorem parserFeed_stringCmp (hlength : s.length + 1 < UInt32.size) (hascii : ∀ a ∈ s, a < 128)
    (hdefinition : p.definition = parserUtilsStrcmpi ctype true s)
    (hstate : p.state = UInt32.ofNat (stringCmpPosition s xs))
    (hclass : x.toNat < p.classes.length) :
    parserFeed p x =
      .ok
        { p with
          e1 := stringCmpEvent (caseCompare s (xs ++ [x])) p.e1 x
          state := UInt32.ofNat (stringCmpPosition s (xs ++ [x]))
          next := false } := by
  have hstates : p.definition.states =
      some ((List.range (s.length + 2)).map (stringCmpState ctype s)) := by
    rw [hdefinition]
    rfl
  have hrow := stringCmp_row ctype stringCmpPosition_lt hlength
    (i := stringCmpPosition s xs)
  rw [← hstate] at hrow
  by_cases hagrees : List.Forall₂ Like (s.take (xs ++ [x]).length) (xs ++ [x])
  · obtain ⟨hbefore, a, ha, hlike⟩ := agrees_concat_iff.mp hagrees
    have hposition : stringCmpPosition s xs = xs.length := if_pos hbefore
    have hnext : stringCmpPosition s (xs ++ [x]) = xs.length + 1 := by
      unfold stringCmpPosition
      rw [if_pos hagrees, List.length_append, List.length_singleton]
    obtain ⟨t, hfind, hdest, hact1, hact2⟩ := stringCmpState_of_like hascii ha hlike
    rw [hposition] at hrow
    rw [parserFeed_of_find hclass hstates hrow hfind hact1 hact2, hdest, hnext,
      caseCompare_of_agrees hagrees, List.length_append, List.length_singleton]
  · have hnext : stringCmpPosition s (xs ++ [x]) = s.length + 1 := if_neg hagrees
    have hmisfits : ∀ a, s[stringCmpPosition s xs]? = some a → ¬ Like a x := by
      intro a ha hlike
      by_cases hbefore : List.Forall₂ Like (s.take xs.length) xs
      · rw [stringCmpPosition, if_pos hbefore] at ha
        exact hagrees (agrees_concat_iff.mpr ⟨hbefore, a, ha, hlike⟩)
      · rw [stringCmpPosition, if_neg hbefore, List.getElem?_eq_none (by omega)] at ha
        cases ha
    obtain ⟨t, hfind, hdest, hact1, hact2⟩ := stringCmpState_of_not_like hascii hmisfits
    rw [parserFeed_of_find hclass hstates hrow hfind hact1 hact2, hdest, hnext,
      caseCompare_of_not_agrees hagrees]

/-- The machine that is built for a string is well described. -/
theorem parserUtilsStrcmpi_sound (hlength : s.length + 1 < UInt32.size) :
    (parserUtilsStrcmpi ctype true s).Sound := by
  refine ⟨_, rfl, ?_, ?_⟩
  · change 0 < _
    simp
  · intro state hstate t ht
    obtain ⟨i, -, rfl⟩ := List.mem_map.mp hstate
    rw [List.length_map, List.length_range]
    unfold stringCmpState at ht
    have hlt : ∀ n, n < s.length + 2 → (UInt32.ofNat n).toNat < s.length + 2 := by
      intro n hn
      rwa [UInt32.toNat_ofNat_of_lt' (by omega)]
    split at ht
    · rw [List.mem_singleton] at ht
      rw [ht]
      exact ⟨hlt _ (by omega), nofun⟩
    · next c hc =>
        have hi := (List.getElem?_eq_some_iff.mp hc).1
        have hdest : (if i + 1 = s.length then s.length else i + 1) < s.length + 2 := by
          split <;> omega
        simp only [List.mem_cons, List.not_mem_nil, or_false] at ht
        rcases ht with rfl | rfl | rfl
        · exact ⟨hlt _ hdest, nofun⟩
        · exact ⟨hlt _ hdest, nofun⟩
        · exact ⟨hlt _ (by omega), nofun⟩

/-- What an input leaves of the machine: it is in the position for the input,
and of the event only the byte that every action writes has changed. -/
theorem run_stringCmp (hlength : s.length + 1 < UInt32.size) (hascii : ∀ a ∈ s, a < 128)
    (hdefinition : p.definition = parserUtilsStrcmpi ctype true s)
    (hclasses : ∀ c ∈ xs, c.toNat < p.classes.length) :
    ∃ q, run parserFeed (parserReset p) xs = .ok q ∧ q.classes = p.classes ∧
      q.definition = p.definition ∧ q.state = UInt32.ofNat (stringCmpPosition s xs) ∧
      ∀ type c, stringCmpEvent type q.e1 c = stringCmpEvent type p.e1 c := by
  induction xs using List.reverseRecOn with
  | nil =>
      refine ⟨parserReset p, rfl, rfl, rfl, ?_, fun _ _ => rfl⟩
      have hposition : stringCmpPosition s [] = 0 := if_pos .nil
      rw [hposition]
      change p.definition.startState = 0
      rw [hdefinition]
      rfl
  | append_singleton xs x ih =>
      obtain ⟨q, hrun, hq, hqdefinition, hstate, hevent⟩ :=
        ih fun c hc => hclasses c (List.mem_append_left _ hc)
      have hx : x.toNat < q.classes.length := by
        rw [hq]
        exact hclasses x (by simp)
      have hfeed := parserFeed_stringCmp hlength hascii (hqdefinition.trans hdefinition) hstate hx
      refine ⟨_, run_concat_of_ok hrun hfeed, hq, hqdefinition, rfl, ?_⟩
      intro type c
      rw [← hevent]
      simp [stringCmpEvent]

/-- The event for the last byte tells how the whole input compares to a string
of ASCII: it is the string but for case, it is a proper beginning of it, or it
is neither. -/
theorem strcmpi_decides (hlength : s.length + 1 < UInt32.size) (hascii : ∀ a ∈ s, a < 128)
    (hdefinition : p.definition = parserUtilsStrcmpi ctype true s)
    (hclasses : ∀ c ∈ xs ++ [x], c.toNat < p.classes.length) :
    ∃ q, run parserFeed (parserReset p) (xs ++ [x]) = .ok q ∧ q.next = false ∧
      q.e1 = stringCmpEvent (caseCompare s (xs ++ [x])) p.e1 x := by
  obtain ⟨q, hrun, hq, hqdefinition, hstate, hevent⟩ :=
    run_stringCmp hlength hascii hdefinition fun c hc => hclasses c (List.mem_append_left _ hc)
  have hx : x.toNat < q.classes.length := by
    rw [hq]
    exact hclasses x (by simp)
  have hfeed := parserFeed_stringCmp hlength hascii (hqdefinition.trans hdefinition) hstate hx
  exact ⟨_, run_concat_of_ok hrun hfeed, rfl, hevent _ x⟩

/-- The two functions as the C library of the system has them: a negative `char`
but the last is read as the byte it is. -/
def CType.posix : CType where
  tolower c := if 65 ≤ c ∧ c ≤ 90 then c + 32 else if -128 ≤ c ∧ c < -1 then c + 256 else c
  toupper c := if 97 ≤ c ∧ c ≤ 122 then c - 32 else if -128 ≤ c ∧ c < -1 then c + 256 else c
  tolower_ascii := by grind
  toupper_ascii := by grind

/-- `fOo` is `foo`, as in the source's own test. -/
theorem strcmpi_decides_foo :
    ∃ p q,
      parserInit true parserNoClasses (parserUtilsStrcmpi .posix true [102, 111, 111]) = some p ∧
      run parserFeed (parserReset p) [102, 79, 111] = .ok q ∧
      q.e1.type = StringCmpEventTypes.eq.value ∧ q.e1.n = 1 ∧ q.e1.data[0] = 111 := by
  obtain ⟨p, hp⟩ : ∃ p, parserInit true parserNoClasses
      (parserUtilsStrcmpi .posix true [102, 111, 111]) = some p := ⟨_, rfl⟩
  obtain ⟨hclasses, hdefinition, -⟩ := parserInit_eq_some hp
  have hcells : ∀ c ∈ [102, 79] ++ [(111 : UInt8)], c.toNat < p.classes.length := by
    rw [hclasses, parserNoClasses_length]
    simp
  have hascii : ∀ a ∈ [102, 111, (111 : UInt8)], a < 128 := by simp
  obtain ⟨q, hrun, -, hevent⟩ := strcmpi_decides (by decide) hascii hdefinition hcells
  refine ⟨p, q, hp, hrun, ?_⟩
  rw [hevent]
  have heq : caseCompare [102, 111, 111] ([102, 79] ++ [111]) = .eq := by decide
  exact ⟨congrArg StringCmpEventTypes.value heq, rfl, by simp [stringCmpEvent]⟩

/-- The byte for which `parser_no_classes` has no cell stops a machine. -/
theorem parser_feed_safe_iff_no_class :
    ∃ p, parserInit true parserNoClasses (parserUtilsStrcmpi .posix true [102, 111, 111]) = some p ∧
      (∃ q, run parserFeed (parserReset p) [102, 254, 0] = .ok q) ∧
      ¬ ∃ q, run parserFeed (parserReset p) [102, 255] = .ok q := by
  obtain ⟨p, hp⟩ : ∃ p, parserInit true parserNoClasses
      (parserUtilsStrcmpi .posix true [102, 111, 111]) = some p := ⟨_, rfl⟩
  obtain ⟨hclasses, hdefinition, -⟩ := parserInit_eq_some hp
  have hsound : p.definition.Sound := by
    rw [hdefinition]
    exact parserUtilsStrcmpi_sound (by decide)
  have hreset : (parserReset p).classes.length = 255 := by
    rw [← parserNoClasses_length, ← hclasses]
    rfl
  refine ⟨p, hp, ?_, ?_⟩
  · refine (parser_feed_safe_iff (parserReset_inTable hsound)).mpr ?_
    rw [hreset]
    simp
  · intro h
    have hall := (parser_feed_safe_iff (parserReset_inTable hsound)).mp h
    rw [hreset] at hall
    simp at hall

end Comparison

end Socks5Proxy

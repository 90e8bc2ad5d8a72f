import Socks5Proxy.Shared.Registry
import Socks5Proxy.Shared.Stm
import Socks5Proxy.Server.Handlers
import Socks5Proxy.Library.Run

/-!
# Readiness and the registrations it was reported for

`handle_iteration` walks over the descriptors `pselect` reported while the
handlers it calls change the table it walks over.  The ready sets are not
updated when a descriptor is unregistered, so a registration made during the
walk can inherit the readiness of the one before it.
-/

namespace Socks5Proxy

open Library

/-! ## One iteration -/

inductive Direction
  | read
  | write
  deriving DecidableEq

/-- A call of `handle_read` or `handle_write`, with the key it was given and
which registration of the descriptor it was made on. -/
structure HandlerCall (δ : Type) where
  fd : ℤ
  direction : Direction
  data : Option δ
  generation : ℕ
  deriving DecidableEq

/-- The selector during an iteration, the calls made so far, and how the process
ended if it did. -/
structure Iteration (η δ : Type) where
  registry : Registry η δ
  calls : List (HandlerCall δ)
  fault : Option Fault

/-- One round of the loop, and what the handlers do if they are called. -/
structure Visit (η δ : Type) where
  fd : ℤ
  onRead : List (Operation η δ)
  onWrite : List (Operation η δ)

section Iterate

variable {η δ : Type} (callbacks : Callbacks η)

def Callbacks.has (direction : Direction) : η → Bool :=
  match direction with
  | .read => callbacks.read
  | .write => callbacks.write

def FdInterest.has (i : FdInterest) : Direction → Bool
  | .read => i.read
  | .write => i.write

/-- `FD_ISSET` on the set of the direction. -/
def FdSelector.isReady (s : FdSelector η δ) (direction : Direction) (fd : ℤ) : Bool :=
  match direction with
  | .read => s.slaveR fd
  | .write => s.slaveW fd

/-- One `if (FD_ISSET(ready, …))` block of the loop: the item is looked up
again, the key is the one of the round. -/
def serve (direction : Direction) (ready fd : ℤ) (data : Option δ)
    (operations : List (Operation η δ)) (s : Iteration η δ) : Iteration η δ :=
  let item := s.registry.sel.item fd
  if s.registry.sel.isReady direction ready && item.interest.has direction then
    match item.handler with
    | none => { s with fault := some .nullDereference }
    | some handler =>
      if callbacks.has direction handler then
        { s with
          registry := s.registry.performAll callbacks operations
          calls := s.calls ++ [⟨fd, direction, data, s.registry.generation fd⟩] }
      else
        { s with fault := some .assertion }
  else
    s

/-- The write block of a round that began with the item `item` in a table of
`size` items.  The pointer `item` dangles if a read handler moved the table. -/
def serveWrite (v : Visit η δ) (data : Option δ) (size : ℕ) (s : Iteration η δ) :
    Iteration η δ :=
  if s.fault.isSome then
    s
  else if s.registry.sel.slaveW v.fd && s.registry.sel.fds.length != size then
    { s with fault := some .useAfterFree }
  else
    serve callbacks .write v.fd v.fd data v.onWrite s

/-- The body of the loop of `handle_iteration`. -/
def visit (s : Iteration η δ) (v : Visit η δ) : Iteration η δ :=
  let item := s.registry.sel.item v.fd
  if s.fault.isSome then
    s
  else if item.used then
    serveWrite callbacks v item.data s.registry.sel.fds.length
      (serve callbacks .read item.fd v.fd item.data v.onRead s)
  else
    s

/-- The rounds of an iteration: the bound of the loop is the largest descriptor
when it starts. -/
def visits (sel : FdSelector η δ) (handlers : ℤ → Direction → List (Operation η δ)) :
    List (Visit η δ) :=
  (List.range (sel.maxFd + 1).toNat).map fun i : ℕ =>
    ⟨(i : ℤ), handlers i .read, handlers i .write⟩

/-- `handle_iteration`, the ready sets being those of the selector. -/
def handleIteration (r : Registry η δ) (handlers : ℤ → Direction → List (Operation η δ)) :
    Iteration η δ :=
  (visits r.sel handlers).foldl (visit callbacks) ⟨r, [], none⟩

end Iterate

/-! ## The property -/

section Readiness

variable {η δ : Type} (callbacks : Callbacks η) (start : Registry η δ)

/-- The handlers were called on registrations that existed when the iteration
started. -/
def OnlyExisting (s : Iteration η δ) : Prop :=
  ∀ call ∈ s.calls,
    (start.sel.item call.fd).used = true ∧ call.generation = start.generation call.fd

/-- A descriptor that has been registered again is not interested in what was
reported for the registration before. -/
def OwnReadiness (direction : Direction) (ready fd : ℤ) (s : Iteration η δ) : Prop :=
  let item := s.registry.sel.item fd
  s.registry.sel.isReady direction ready = true → item.interest.has direction = true →
    item.handler.any (callbacks.has direction) = true →
    s.registry.generation fd = start.generation fd

/-- This holds when the loop reaches the descriptor, and again after its read
handler has run. -/
def VisitsOwn (s : Iteration η δ) (v : Visit η δ) : Prop :=
  let item := s.registry.sel.item v.fd
  let t := serve callbacks .read item.fd v.fd item.data v.onRead s
  s.fault = none → item.used = true →
    OwnReadiness callbacks start .read item.fd v.fd s ∧
      (t.fault = none → t.registry.sel.fds.length = s.registry.sel.fds.length →
        OwnReadiness callbacks start .write v.fd v.fd t)

variable {callbacks start} {s t : Iteration η δ} {direction : Direction} {ready fd : ℤ}
  {data : Option δ} {operations : List (Operation η δ)} {v : Visit η δ}

/-- What one block does. -/
theorem serve_cases (callbacks : Callbacks η) (direction : Direction) (ready fd : ℤ)
    (data : Option δ) (operations : List (Operation η δ)) (s : Iteration η δ) :
    let item := s.registry.sel.item fd
    let t := serve callbacks direction ready fd data operations s
    (¬ (s.registry.sel.isReady direction ready = true ∧ item.interest.has direction = true ∧
        item.handler.any (callbacks.has direction) = true) ∧
      t.registry = s.registry ∧ t.calls = s.calls) ∨
    s.registry.sel.isReady direction ready = true ∧ item.interest.has direction = true ∧
      item.handler.any (callbacks.has direction) = true ∧
      t.registry = s.registry.performAll callbacks operations ∧
      t.calls = s.calls ++ [⟨fd, direction, data, s.registry.generation fd⟩] := by
  dsimp only
  unfold serve
  rcases hready : s.registry.sel.isReady direction ready with _ | _
  · simp
  · rcases hinterest : (s.registry.sel.item fd).interest.has direction with _ | _
    · simp [hinterest]
    · rcases hhandler : (s.registry.sel.item fd).handler with _ | handler
      · simp [hinterest, hhandler]
      · rcases hhas : callbacks.has direction handler with _ | _
        · simp [hinterest, hhandler, hhas]
        · simp [hinterest, hhandler, hhas]

theorem serve_since (direction : Direction) (ready fd : ℤ) (data : Option δ)
    (operations : List (Operation η δ)) (s : Iteration η δ) :
    s.registry.Since callbacks (serve callbacks direction ready fd data operations s).registry := by
  rcases serve_cases callbacks direction ready fd data operations s with ⟨-, hregistry, -⟩ |
    ⟨-, -, -, hregistry, -⟩
  · rw [hregistry]
    exact .refl callbacks s.registry
  · rw [hregistry]
    exact Registry.performAll_since s.registry operations

theorem OnlyExisting.congr (h : OnlyExisting start s) (hcalls : t.calls = s.calls) :
    OnlyExisting start t := by
  rw [OnlyExisting, hcalls]
  exact h

/-- A block keeps the property exactly if the readiness is the registration's
own. -/
theorem serve_onlyExisting_iff (direction : Direction) (ready : ℤ) (data : Option δ)
    (operations : List (Operation η δ)) (hs : OnlyExisting start s)
    (hexisted : s.registry.generation fd = start.generation fd →
      (start.sel.item fd).used = true) :
    OnlyExisting start (serve callbacks direction ready fd data operations s) ↔
      OwnReadiness callbacks start direction ready fd s := by
  rcases serve_cases callbacks direction ready fd data operations s with ⟨hquiet, -, hcalls⟩ |
    ⟨hready, hinterest, hhandler, -, hcalls⟩
  · refine iff_of_true (hs.congr hcalls) ?_
    intro hready hinterest hhandler
    exact absurd ⟨hready, hinterest, hhandler⟩ hquiet
  · rw [OnlyExisting, hcalls]
    constructor
    · intro hall _ _ _
      exact (hall _ (List.mem_append_right _ List.mem_cons_self)).2
    · intro hown call hcall
      rcases List.mem_append.mp hcall with hcall | hcall
      · exact hs call hcall
      · have hsame := hown hready hinterest hhandler
        rw [List.mem_singleton.mp hcall]
        exact ⟨hexisted hsame, hsame⟩

theorem serve_back (h : OnlyExisting start (serve callbacks direction ready fd data operations s)) :
    OnlyExisting start s := by
  intro call hcall
  apply h
  rcases serve_cases callbacks direction ready fd data operations s with ⟨-, -, hcalls⟩ |
    ⟨-, -, -, -, hcalls⟩
  · rw [hcalls]
    exact hcall
  · rw [hcalls]
    exact List.mem_append_left _ hcall

variable {size : ℕ}

theorem serveWrite_cases (callbacks : Callbacks η) (v : Visit η δ) (data : Option δ) (size : ℕ)
    (t : Iteration η δ) :
    let u := serveWrite callbacks v data size t
    (t.fault = none ∧ (t.registry.sel.slaveW v.fd = false ∨ t.registry.sel.fds.length = size) ∧
        u = serve callbacks .write v.fd v.fd data v.onWrite t) ∨
      (t.fault ≠ none ∨ t.registry.sel.fds.length ≠ size) ∧ u.registry = t.registry ∧
        u.calls = t.calls := by
  dsimp only
  unfold serveWrite
  split_ifs with hfault hmoved
  · exact .inr ⟨.inl (by rintro heq; rw [heq] at hfault; cases hfault), rfl, rfl⟩
  · simp only [Bool.and_eq_true, bne_iff_ne] at hmoved
    exact .inr ⟨.inr hmoved.2, rfl, rfl⟩
  · refine .inl ⟨by simpa using hfault, ?_, rfl⟩
    simp only [Bool.and_eq_true, bne_iff_ne, not_and, not_not] at hmoved
    rcases hready : t.registry.sel.slaveW v.fd with _ | _
    · exact .inl rfl
    · exact .inr (hmoved hready)

theorem serveWrite_onlyExisting_iff
    (hexisted : t.registry.generation v.fd = start.generation v.fd →
      (start.sel.item v.fd).used = true) :
    OnlyExisting start (serveWrite callbacks v data size t) ↔
      OnlyExisting start t ∧ (t.fault = none → t.registry.sel.fds.length = size →
        OwnReadiness callbacks start .write v.fd v.fd t) := by
  rcases serveWrite_cases callbacks v data size t with ⟨hfault, hsize, hu⟩ | ⟨hidle, -, hcalls⟩
  · rw [hu]
    constructor
    · intro h
      have ht := serve_back h
      exact ⟨ht, fun _ _ => (serve_onlyExisting_iff .write v.fd data v.onWrite ht hexisted).mp h⟩
    · rintro ⟨ht, hown⟩
      refine (serve_onlyExisting_iff .write v.fd data v.onWrite ht hexisted).mpr ?_
      rcases hsize with hquiet | hsize
      · intro hready
        rw [FdSelector.isReady, hquiet] at hready
        cases hready
      · exact hown hfault hsize
  · constructor
    · intro h
      refine ⟨h.congr hcalls.symm, ?_⟩
      intro hfault hsize
      rcases hidle with hne | hne
      · exact absurd hfault hne
      · exact absurd hsize hne
    · rintro ⟨ht, -⟩
      exact ht.congr hcalls

theorem serveWrite_since :
    t.registry.Since callbacks (serveWrite callbacks v data size t).registry := by
  rcases serveWrite_cases callbacks v data size t with ⟨-, -, hu⟩ | ⟨-, hregistry, -⟩
  · rw [hu]
    exact serve_since ..
  · rw [hregistry]
    exact .refl callbacks t.registry

theorem serveWrite_back (h : OnlyExisting start (serveWrite callbacks v data size t)) :
    OnlyExisting start t := by
  rcases serveWrite_cases callbacks v data size t with ⟨-, -, hu⟩ | ⟨-, -, hcalls⟩
  · rw [hu] at h
    exact serve_back h
  · exact h.congr hcalls.symm

theorem visit_back (h : OnlyExisting start (visit callbacks s v)) : OnlyExisting start s := by
  unfold visit at h
  dsimp only at h
  split_ifs at h
  · exact h
  · exact serve_back (serveWrite_back h)
  · exact h

/-- One round of the loop. -/
theorem visit_onlyExisting (hfd : 0 ≤ v.fd) (hsince : start.Since callbacks s.registry)
    (hs : OnlyExisting start s) :
    start.Since callbacks (visit callbacks s v).registry ∧
      (OnlyExisting start (visit callbacks s v) ↔ VisitsOwn callbacks start s v) := by
  unfold visit VisitsOwn
  dsimp only
  split_ifs with hfault hused
  · refine ⟨hsince, iff_of_true hs ?_⟩
    intro hnone
    rw [hnone] at hfault
    cases hfault
  · have hfault' : s.fault = none := by simpa using hfault
    have hread : s.registry.Since callbacks _ := serve_since .read
      (s.registry.sel.item v.fd).fd v.fd (s.registry.sel.item v.fd).data v.onRead s
    have hexisted : s.registry.generation v.fd = start.generation v.fd →
        (start.sel.item v.fd).used = true := fun hsame => (hsince.item v.fd hfd hsame hused).1
    have hread_iff : OnlyExisting start _ ↔ OwnReadiness callbacks start _ _ _ s :=
      serve_onlyExisting_iff .read (s.registry.sel.item v.fd).fd
        (s.registry.sel.item v.fd).data v.onRead hs hexisted
    generalize serve callbacks .read (s.registry.sel.item v.fd).fd v.fd
      (s.registry.sel.item v.fd).data v.onRead s = t at hread hread_iff ⊢
    have ht := hsince.trans hread
    have hexisted' : t.registry.generation v.fd = start.generation v.fd →
        (start.sel.item v.fd).used = true := by
      intro hsame
      have hle := hsince.generation v.fd
      have hle' := hread.generation v.fd
      exact hexisted (by omega)
    constructor
    · exact ht.trans serveWrite_since
    · rw [serveWrite_onlyExisting_iff hexisted', hread_iff]
      exact ⟨fun h _ _ => h, fun h => h hfault' hused⟩
  · refine ⟨hsince, iff_of_true hs ?_⟩
    intro _ hused'
    exact absurd hused' hused

/-- For every selector and ready sets and whatever the handlers do: they are
called on registrations from before the iteration only, exactly if no
descriptor that was registered during it is interested in what was reported for
its predecessor when the loop reaches it. -/
theorem readiness_not_inherited_iff (callbacks : Callbacks η) (r : Registry η δ)
    (handlers : ℤ → Direction → List (Operation η δ)) :
    OnlyExisting r (handleIteration callbacks r handlers) ↔
      Along (visit callbacks) (VisitsOwn callbacks r) ⟨r, [], none⟩ (visits r.sel handlers) := by
  refine foldl_iff_along (I := fun s => r.Since callbacks s.registry)
    (fun _ _ => visit_back) ?_ (.refl callbacks r) ?_
  · intro s v hv hsince hs
    have hfd : 0 ≤ v.fd := by
      obtain ⟨i, -, rfl⟩ := List.mem_map.mp hv
      exact Int.natCast_nonneg i
    exact visit_onlyExisting hfd hsince hs
  · intro call hcall
    cases hcall

instance OnlyExisting.decidable [DecidableEq δ] (start : Registry η δ) (s : Iteration η δ) :
    Decidable (OnlyExisting start s) :=
  inferInstanceAs (Decidable (∀ call ∈ s.calls, _))

end Readiness

/-! ### Three connections -/

/-- The connection 10 has the descriptors 4 and 7, the connections 20 and 30
have asked for an origin. -/
def threeConnections : Registry FdHandler ℕ :=
  (Registry.new emptySelector).performAll fdHandlerCallbacks
    [.register 4 (some .socks5Handler) .opRead (some 10) true,
      .register 5 (some .socks5Handler) .opRead (some 20) true,
      .register 6 (some .socks5Handler) .opRead (some 30) true,
      .register 7 (some .socks5Handler) .opWrite (some 10) true]

/-- Every descriptor is ready for what it is registered for. -/
def allReady : Registry FdHandler ℕ :=
  { threeConnections with
    sel := { threeConnections.sel with
      slaveR := fun fd => fd == 4 || fd == 5 || fd == 6
      slaveW := fun fd => fd == 7 } }

/-- The connection 10 ends; the sockets of the other two get its numbers. -/
def takeOver : ℤ → Direction → List (Operation FdHandler ℕ)
  | 4, .read => [.unregister 7 [], .unregister 4 []]
  | 5, .read => [.register 4 (some .socks5Handler) .opWrite (some 20) true, .setInterest 5 .opWrite]
  | 6, .read => [.register 7 (some .socks5Handler) .opWrite (some 30) true, .setInterest 6 .opWrite]
  | _, _ => []

/-- The socket that was given the number 7 is reported writable. -/
theorem takeOver_inherits :
    ∃ (r : Registry FdHandler ℕ) (handlers : ℤ → Direction → List (Operation FdHandler ℕ)),
      ¬ OnlyExisting r (handleIteration fdHandlerCallbacks r handlers) :=
  ⟨allReady, takeOver, by decide +kernel⟩

end Socks5Proxy

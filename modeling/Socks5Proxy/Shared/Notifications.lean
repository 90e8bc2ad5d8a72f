import Mathlib.Data.List.Perm.Basic
import Socks5Proxy.Shared.Readiness

/-!
# Block notifications and the registrations they are meant for

A thread that has finished posts a job with the descriptor it was started for.
`handle_block_notifications` looks up what is registered under that number by
then, which can be another connection, or a management connection, whose
handlers define no `handle_block`.
-/

namespace Socks5Proxy

open Library

/-! ## The queue -/

/-- A call of `handle_block`: the work that was notified, and the registration
it was called on. -/
structure Dispatch (η δ : Type) where
  work : Work η δ
  generation : ℕ
  handler : Option η
  data : Option δ

/-- The selector, the notifications delivered so far, and how the process ended
if it did. -/
structure Notifier (η δ : Type) where
  registry : Registry η δ
  dispatches : List (Dispatch η δ)
  fault : Option Fault

/-- What can happen in any order: an operation on the selector, a thread that
finishes (the one at the place `k`; without memory for the job its notification
is lost), and a call of `handle_block_notifications`. -/
inductive NotifierEvent (η δ : Type)
  | perform (op : Operation η δ)
  | notify (k : ℕ) (alloc : Bool)
  | handleBlocks (handlers : ℕ → List (Operation η δ))

section Queue

variable {η δ : Type} (callbacks : Callbacks η)

/-- The body of the loop of `handle_block_notifications`, for the first job.
The list is taken down as the loop goes on, which no one can see: threads wait
for the mutex. -/
def handleJob (s : Notifier η δ) (operations : List (Operation η δ)) : Notifier η δ :=
  match s.fault, s.registry.sel.resolutionJobs, s.registry.posted with
  | none, fd :: jobs, work :: rest =>
    let item := s.registry.sel.item fd
    let r := { s.registry with
      sel := { s.registry.sel with resolutionJobs := jobs }
      posted := rest }
    if item.used then
      let dispatches := s.dispatches ++ [⟨work, r.generation fd, item.handler, item.data⟩]
      if item.handler.any callbacks.block then
        { s with
          registry := r.performAll callbacks operations
          dispatches := dispatches }
      else
        { registry := r
          dispatches := dispatches
          fault := some .nullDereference }
    else
      { s with registry := r }
  | _, _, _ => s

/-- What the handlers do, job by job. -/
def jobHandlers (s : Notifier η δ) (handlers : ℕ → List (Operation η δ)) :
    List (List (Operation η δ)) :=
  (List.range s.registry.sel.resolutionJobs.length).map handlers

def handleBlockNotifications (s : Notifier η δ) (handlers : ℕ → List (Operation η δ)) :
    Notifier η δ :=
  (jobHandlers s handlers).foldl (handleJob callbacks) s

/-- `selector_notify_block` by a thread. -/
def notifyBlock (s : Notifier η δ) (k : ℕ) (alloc : Bool) : Notifier η δ :=
  match s.registry.running[k]? with
  | none => s
  | some work =>
    let r := { s.registry with running := s.registry.running.eraseIdx k }
    if alloc then
      { s with registry := { r with
          sel := selectorNotifyBlock r.sel work.fd
          posted := work :: r.posted } }
    else
      { s with registry := r }

def notifierStep (s : Notifier η δ) (e : NotifierEvent η δ) : Notifier η δ :=
  if s.fault.isSome then
    s
  else
    match e with
    | .perform op => { s with registry := s.registry.perform callbacks op }
    | .notify k alloc => notifyBlock s k alloc
    | .handleBlocks handlers => handleBlockNotifications callbacks s handlers

end Queue

/-! ## The property -/

section Property

variable {η δ : Type}

/-- Every notification went to the registration its work was started for, none
was delivered twice, and none ended the process. -/
structure Delivered (s : Notifier η δ) : Prop where
  fault : s.fault = none
  once : (s.dispatches.map fun d => d.work.id).Nodup
  owner : ∀ d ∈ s.dispatches,
    d.generation = d.work.generation ∧ d.handler = d.work.handler ∧ d.data = d.work.data

/-- If the descriptor of the first job is registered, it still is, or again is,
the registration the work was started for. -/
def JobCurrent (s : Notifier η δ) (_ : List (Operation η δ)) : Prop :=
  ∀ work rest, s.fault = none → s.registry.posted = work :: rest →
    (s.registry.sel.item work.fd).used = true →
    s.registry.generation work.fd = work.generation

/-- This holds for each job when it is handled. -/
def NotifiesOwners (callbacks : Callbacks η) (s : Notifier η δ) : NotifierEvent η δ → Prop
  | .handleBlocks handlers =>
    s.fault = none → Along (handleJob callbacks) JobCurrent s (jobHandlers s handlers)
  | _ => True

/-- The books of the notifier: the jobs in the queue are the posted works, and
every work runs, is posted or has been delivered, once. -/
structure Accounted (callbacks : Callbacks η) (s : Notifier η δ) : Prop where
  jobs : s.registry.sel.resolutionJobs = s.registry.posted.map Work.fd
  known : ∀ work ∈ s.registry.posted ++ s.registry.running, s.registry.Knows callbacks work
  ids : ((s.registry.posted ++ s.registry.running).map Work.id ++
    s.dispatches.map fun d => d.work.id).Nodup
  dispatched : ∀ d ∈ s.dispatches, d.work.id < s.registry.started

end Property

/-! ## The books are kept -/

section Books

variable {η δ : Type} {callbacks : Callbacks η} {s : Notifier η δ} {r : Registry η δ}
  {work : Work η δ} {rest : List (Work η δ)} {operations : List (Operation η δ)}

/-- The registry without the first job. -/
def Registry.pop (r : Registry η δ) : Registry η δ :=
  { r with
    sel := { r.sel with resolutionJobs := r.sel.resolutionJobs.tail }
    posted := r.posted.tail }

/-- The call of `handle_block` for the first job. -/
def firstDispatch (r : Registry η δ) (work : Work η δ) : Dispatch η δ :=
  ⟨work, r.generation work.fd, (r.sel.item work.fd).handler, (r.sel.item work.fd).data⟩

theorem Accounted.handleJob_eq (h : Accounted callbacks s) (hfault : s.fault = none)
    (hposted : s.registry.posted = work :: rest) :
    handleJob callbacks s operations =
      if (s.registry.sel.item work.fd).used then
        if (s.registry.sel.item work.fd).handler.any callbacks.block then
          { s with
            registry := s.registry.pop.performAll callbacks operations
            dispatches := s.dispatches ++ [firstDispatch s.registry work] }
        else
          { registry := s.registry.pop
            dispatches := s.dispatches ++ [firstDispatch s.registry work]
            fault := some .nullDereference }
      else
        { s with registry := s.registry.pop } := by
  have hjobs := h.jobs
  rw [hposted, List.map_cons] at hjobs
  unfold handleJob Registry.pop
  rw [hfault, hjobs, hposted]
  rfl

theorem Accounted.handleJob_idle (h : Accounted callbacks s)
    (hidle : s.fault ≠ none ∨ s.registry.posted = []) :
    handleJob callbacks s operations = s := by
  unfold handleJob
  rcases hidle with hfault | hposted
  · rcases hs : s.fault with _ | fault
    · exact absurd hs hfault
    · rfl
  · rw [h.jobs, hposted]
    rcases s.fault with _ | fault <;> rfl

/-- Operations on the selector keep the books. -/
theorem Accounted.since (h : Accounted callbacks s) (hsince : s.registry.Since callbacks r) :
    Accounted callbacks { s with registry := r } := by
  obtain ⟨works, hrunning, hnodup, hworks⟩ := hsince.running
  have hposted := hsince.posted
  have hold : ∀ id, id ∈ (s.registry.posted ++ s.registry.running).map Work.id ++
      (s.dispatches.map fun d => d.work.id) → id < s.registry.started := by
    intro id hid
    rcases List.mem_append.mp hid with hid | hid
    · obtain ⟨work, hwork, rfl⟩ := List.mem_map.mp hid
      exact (h.known work hwork).id
    · obtain ⟨d, hd, rfl⟩ := List.mem_map.mp hid
      exact h.dispatched d hd
  constructor
  · rw [hsince.jobs, hposted, h.jobs]
  · intro work hwork
    rw [hposted, hrunning] at hwork
    rcases List.mem_append.mp hwork with hwork | hwork
    · exact hsince.knows (h.known work (List.mem_append_left _ hwork))
    · rcases List.mem_append.mp hwork with hwork | hwork
      · exact (hworks work hwork).2
      · exact hsince.knows (h.known work (List.mem_append_right _ hwork))
  · have hperm : List.Perm
        ((r.posted ++ r.running).map Work.id ++ s.dispatches.map fun d => d.work.id)
        (works.map Work.id ++ ((s.registry.posted ++ s.registry.running).map Work.id ++
          s.dispatches.map fun d => d.work.id)) := by
      rw [hposted, hrunning, ← List.append_assoc (works.map Work.id), ← List.map_append]
      refine (List.Perm.map _ ?_).append_right _
      rw [← List.append_assoc, ← List.append_assoc]
      exact List.perm_append_comm.append_right _
    refine hperm.nodup_iff.mpr (List.nodup_append.mpr ⟨hnodup, h.ids, ?_⟩)
    intro id hid id' hid' heq
    obtain ⟨work, hwork, rfl⟩ := List.mem_map.mp hid
    have hlater := (hworks work hwork).1
    have hearlier := hold id' hid'
    omega
  · intro d hd
    exact lt_of_lt_of_le (h.dispatched d hd) hsince.started

/-- Taking the first job off the queue, delivered or not. -/
theorem Accounted.pop (h : Accounted callbacks s) (hposted : s.registry.posted = work :: rest) :
    Accounted callbacks { s with registry := s.registry.pop } := by
  have hknown := h.known
  have hids := h.ids
  have hjobs := h.jobs
  rw [hposted] at hknown hids hjobs
  have hpop : s.registry.pop.posted = rest := by rw [Registry.pop, hposted, List.tail_cons]
  constructor
  · rw [hpop, Registry.pop, hjobs, List.map_cons, List.tail_cons]
  · intro work' hwork
    rw [hpop] at hwork
    have hknows := hknown work' (List.mem_cons_of_mem work hwork)
    exact ⟨hknows.id, hknows.valid, hknows.generation, hknows.current, hknows.block⟩
  · rw [hpop]
    exact (List.nodup_cons.mp hids).2
  · exact h.dispatched

theorem Accounted.dispatch (h : Accounted callbacks s)
    (hposted : s.registry.posted = work :: rest) (fault : Option Fault) :
    Accounted callbacks
      ⟨s.registry.pop, s.dispatches ++ [firstDispatch s.registry work], fault⟩ := by
  have hpopped := h.pop hposted
  have hids := h.ids
  have hknown := h.known
  rw [hposted] at hids hknown
  have hpop : s.registry.pop.posted = rest := by rw [Registry.pop, hposted, List.tail_cons]
  refine ⟨hpopped.jobs, hpopped.known, ?_, ?_⟩
  · rw [hpop]
    have hperm : List.Perm
        ((rest ++ s.registry.pop.running).map Work.id ++
          (s.dispatches ++ [firstDispatch s.registry work]).map fun d => d.work.id)
        (((work :: rest) ++ s.registry.running).map Work.id ++
          s.dispatches.map fun d => d.work.id) := by
      have hlast : ((s.dispatches ++ [firstDispatch s.registry work]).map fun d => d.work.id) =
          (s.dispatches.map fun d => d.work.id) ++ [work.id] := List.map_append
      rw [hlast, ← List.append_assoc]
      exact List.perm_append_comm
    exact hperm.nodup_iff.mpr hids
  · intro d hd
    rcases List.mem_append.mp hd with hd | hd
    · exact h.dispatched d hd
    · rw [List.mem_singleton.mp hd]
      exact (hknown work List.mem_cons_self).id

end Books

/-! ## One job -/

section Jobs

variable {η δ : Type} {callbacks : Callbacks η} {s t : Notifier η δ} {d : Dispatch η δ}
  {operations : List (Operation η δ)}

/-- What has been delivered wrongly stays so. -/
theorem Delivered.of_append {later : List (Dispatch η δ)} (h : Delivered t)
    (hfault : s.fault = none) (hdispatches : t.dispatches = s.dispatches ++ later) :
    Delivered s := by
  have honce := h.once
  have howner := h.owner
  rw [hdispatches] at honce howner
  rw [List.map_append] at honce
  exact ⟨hfault, (List.nodup_append.mp honce).1,
    fun d hd => howner d (List.mem_append_left _ hd)⟩

theorem handleJob_back (h : Delivered (handleJob callbacks s operations)) : Delivered s := by
  unfold handleJob at h
  split at h
  · next hfault _ _ =>
      dsimp only at h
      split_ifs at h
      · exact h.of_append hfault rfl
      · exact h.of_append hfault rfl
      · exact h.of_append hfault (List.append_nil _).symm
  · exact h

theorem handleJob_accounted (h : Accounted callbacks s) :
    Accounted callbacks (handleJob callbacks s operations) := by
  rcases hposted : s.registry.posted with _ | ⟨work, rest⟩
  · rw [h.handleJob_idle (.inr hposted)]
    exact h
  · by_cases hfault : s.fault = none
    · rw [h.handleJob_eq hfault hposted]
      split_ifs
      · exact (h.dispatch hposted s.fault).since (Registry.performAll_since _ operations)
      · exact h.dispatch hposted _
      · exact h.pop hposted
    · rw [h.handleJob_idle (.inl hfault)]
      exact h

/-- Work that is posted has not been delivered yet. -/
theorem Accounted.not_dispatched {work : Work η δ} {rest : List (Work η δ)}
    (h : Accounted callbacks s) (hposted : s.registry.posted = work :: rest) :
    work.id ∉ s.dispatches.map fun d => d.work.id := by
  have hids := h.ids
  rw [hposted] at hids
  intro hmem
  exact (List.nodup_cons.mp hids).1 (List.mem_append_right _ hmem)

/-- The call on the registration of the first job. -/
theorem Accounted.delivered_dispatch {work : Work η δ} {rest : List (Work η δ)}
    (h : Accounted callbacks s) (hs : Delivered s) (hposted : s.registry.posted = work :: rest)
    (hused : (s.registry.sel.item work.fd).used = true)
    (hcurrent : s.registry.generation work.fd = work.generation) :
    (s.registry.sel.item work.fd).handler.any callbacks.block = true ∧
      ∀ r : Registry η δ, Delivered ⟨r, s.dispatches ++ [firstDispatch s.registry work], none⟩ := by
  have hknows : s.registry.Knows callbacks work := by
    apply h.known
    rw [hposted]
    exact List.mem_cons_self
  obtain ⟨hhandler, hdata⟩ := hknows.current hcurrent hused
  refine ⟨by rw [hhandler]; exact hknows.block, ?_⟩
  intro r
  refine ⟨rfl, ?_, ?_⟩
  · rw [List.map_append, List.nodup_append]
    refine ⟨hs.once, List.nodup_singleton _, ?_⟩
    intro id hid id' hid' heq
    have hwork : id' = work.id := List.mem_singleton.mp hid'
    exact h.not_dispatched hposted (by rw [← hwork, ← heq]; exact hid)
  · intro d hd
    rcases List.mem_append.mp hd with hd | hd
    · exact hs.owner d hd
    · rw [List.mem_singleton.mp hd]
      exact ⟨hcurrent, hhandler, hdata⟩

/-- A job is delivered rightly, or dropped, exactly if its registration is the
current one. -/
theorem handleJob_delivered_iff (h : Accounted callbacks s) (hs : Delivered s) :
    Delivered (handleJob callbacks s operations) ↔ JobCurrent s operations := by
  rcases hposted : s.registry.posted with _ | ⟨work, rest⟩
  · rw [h.handleJob_idle (.inr hposted)]
    refine iff_of_true hs ?_
    intro work rest _ hcons
    rw [hposted] at hcons
    cases hcons
  · have hjob : JobCurrent s operations ↔ ((s.registry.sel.item work.fd).used = true →
        s.registry.generation work.fd = work.generation) := by
      constructor
      · intro hcurrent
        exact hcurrent work rest hs.fault hposted
      · intro hcurrent work' rest' _ hcons
        rw [hposted, List.cons.injEq] at hcons
        rw [← hcons.1]
        exact hcurrent
    rw [hjob, h.handleJob_eq hs.fault hposted]
    by_cases hused : (s.registry.sel.item work.fd).used = true
    · rw [if_pos hused]
      constructor
      · intro hdelivered _
        have hmem : ∀ r fault, Delivered (⟨r, s.dispatches ++ [firstDispatch s.registry work],
            fault⟩ : Notifier η δ) → s.registry.generation work.fd = work.generation :=
          fun r fault h => (h.owner _ (List.mem_append_right _ List.mem_cons_self)).1
        split_ifs at hdelivered
        · exact hmem _ _ hdelivered
        · exact hmem _ _ hdelivered
      · intro hcurrent
        obtain ⟨hblock, hdelivered⟩ := h.delivered_dispatch hs hposted hused (hcurrent hused)
        rw [if_pos hblock, hs.fault]
        exact hdelivered _
    · rw [if_neg hused]
      refine iff_of_true ⟨hs.fault, hs.once, hs.owner⟩ ?_
      intro hused'
      exact absurd hused' hused

end Jobs

/-! ## Every interleaving -/

section Interleavings

variable {η δ : Type} {callbacks : Callbacks η} {s : Notifier η δ} {e : NotifierEvent η δ}

theorem notifyBlock_dispatches (s : Notifier η δ) (k : ℕ) (alloc : Bool) :
    (notifyBlock s k alloc).dispatches = s.dispatches ∧
      (notifyBlock s k alloc).fault = s.fault := by
  unfold notifyBlock
  split
  · exact ⟨rfl, rfl⟩
  · dsimp only
    split_ifs <;> exact ⟨rfl, rfl⟩

theorem notifierStep_back (h : Delivered (notifierStep callbacks s e)) : Delivered s := by
  unfold notifierStep at h
  split_ifs at h with hfault
  · exact h
  · have hnone : s.fault = none := by simpa using hfault
    rcases e with op | ⟨k, alloc⟩ | handlers
    · exact h.of_append hnone (List.append_nil _).symm
    · have hsame : (notifyBlock s k alloc).dispatches = s.dispatches ++ [] := by
        rw [List.append_nil]
        exact (notifyBlock_dispatches s k alloc).1
      exact h.of_append hnone hsame
    · exact foldl_back (fun _ _ => handleJob_back) h

/-- A thread that finishes moves its work from the threads to the queue. -/
theorem notifyBlock_accounted {k : ℕ} {alloc : Bool} (h : Accounted callbacks s) :
    Accounted callbacks (notifyBlock s k alloc) := by
  unfold notifyBlock
  split
  · exact h
  · next work hwork =>
      obtain ⟨hlt, hget⟩ := List.getElem?_eq_some_iff.mp hwork
      have hperm : List.Perm ((work :: s.registry.posted) ++ s.registry.running.eraseIdx k)
          (s.registry.posted ++ s.registry.running) := by
        refine List.perm_middle.symm.trans (List.Perm.append_left _ ?_)
        rw [← hget]
        exact List.getElem_cons_eraseIdx_perm hlt
      have hknown : ∀ work' ∈ (work :: s.registry.posted) ++ s.registry.running.eraseIdx k,
          s.registry.Knows callbacks work' := fun work' hwork' =>
        h.known work' (hperm.mem_iff.mp hwork')
      have hids : (((work :: s.registry.posted) ++ s.registry.running.eraseIdx k).map Work.id ++
          s.dispatches.map fun d => d.work.id).Nodup :=
        ((hperm.map Work.id).append_right _).nodup_iff.mpr h.ids
      dsimp only
      split_ifs
      · refine ⟨?_, ?_, hids, h.dispatched⟩
        · exact congrArg (work.fd :: ·) h.jobs
        · intro work' hwork'
          have hknows := hknown work' hwork'
          exact ⟨hknows.id, hknows.valid, hknows.generation, hknows.current, hknows.block⟩
      · refine ⟨h.jobs, ?_, (List.nodup_cons.mp hids).2, h.dispatched⟩
        intro work' hwork'
        have hknows := hknown work' (List.mem_cons_of_mem work hwork')
        exact ⟨hknows.id, hknows.valid, hknows.generation, hknows.current, hknows.block⟩

theorem notifierStep_accounted (h : Accounted callbacks s) :
    Accounted callbacks (notifierStep callbacks s e) := by
  unfold notifierStep
  split_ifs
  · exact h
  · rcases e with op | ⟨k, alloc⟩ | handlers
    · exact h.since (Registry.perform_since s.registry op)
    · exact notifyBlock_accounted h
    · exact foldl_invariant (fun _ _ => handleJob_accounted) h

/-- Each event keeps the property exactly if the notifications it handles find
their owners. -/
theorem notifierStep_delivered_iff (h : Accounted callbacks s) (hs : Delivered s) :
    Delivered (notifierStep callbacks s e) ↔ NotifiesOwners callbacks s e := by
  unfold notifierStep
  rw [if_neg (by rw [hs.fault]; simp)]
  rcases e with op | ⟨k, alloc⟩ | handlers
  · exact iff_of_true ⟨hs.fault, hs.once, hs.owner⟩ trivial
  · refine iff_of_true ?_ trivial
    obtain ⟨hdispatches, hfault⟩ := notifyBlock_dispatches s k alloc
    constructor
    · rw [hfault]
      exact hs.fault
    · rw [hdispatches]
      exact hs.once
    · rw [hdispatches]
      exact hs.owner
  · have hiff : Delivered ((jobHandlers s handlers).foldl (handleJob callbacks) s) ↔
        Along (handleJob callbacks) JobCurrent s (jobHandlers s handlers) :=
      foldl_iff_along (I := Accounted callbacks) (fun _ _ => handleJob_back)
        (fun _ _ _ h hs => ⟨handleJob_accounted h, handleJob_delivered_iff h hs⟩) h hs
    constructor
    · intro hdelivered _
      exact hiff.mp hdelivered
    · intro halong
      exact hiff.mpr (halong hs.fault)

/-- Whatever happens on a selector, in whatever order: every job is delivered at
most once and to the registration its work was started for, exactly if none is
handled while its descriptor is registered anew. -/
theorem notifications_find_owners_iff (callbacks : Callbacks η) (sel : FdSelector η δ)
    (events : List (NotifierEvent η δ)) :
    Delivered (events.foldl (notifierStep callbacks) ⟨Registry.new sel, [], none⟩) ↔
      Along (notifierStep callbacks) (NotifiesOwners callbacks) ⟨Registry.new sel, [], none⟩
        events := by
  refine foldl_iff_along (I := Accounted callbacks) (fun _ _ => notifierStep_back)
    (fun s e _ h hs => ⟨notifierStep_accounted h, notifierStep_delivered_iff h hs⟩) ?_ ?_
  · exact ⟨rfl, by simp [Registry.new], List.nodup_nil, by simp⟩
  · exact ⟨rfl, List.nodup_nil, by simp⟩

instance Delivered.decidable [DecidableEq η] [DecidableEq δ] (s : Notifier η δ) :
    Decidable (Delivered s) :=
  decidable_of_iff (s.fault = none ∧ (s.dispatches.map fun d => d.work.id).Nodup ∧
      ∀ d ∈ s.dispatches, d.generation = d.work.generation ∧ d.handler = d.work.handler ∧
        d.data = d.work.data)
    ⟨fun h => ⟨h.1, h.2.1, h.2.2⟩, fun h => ⟨h.fault, h.once, h.owner⟩⟩

end Interleavings

/-! ### A late answer -/

/-- The client 10 asks for a name and goes away; the number 4 is registered
again, and then the resolver answers. -/
def lateNotice (handler : FdHandler) : List (NotifierEvent FdHandler ℕ) :=
  [.perform (.register 4 (some .socks5Handler) .opRead (some 10) true),
    .perform (.startWork 4),
    .perform (.unregister 4 []),
    .perform (.register 4 (some handler) .opRead (some 20) true),
    .notify 0 true,
    .handleBlocks fun _ => []]

/-- Another SOCKS connection gets the notification; for a management connection
the process calls a null pointer. -/
theorem lateNotice_misdelivered :
    let after := fun handler => (lateNotice handler).foldl (notifierStep fdHandlerCallbacks)
      ⟨Registry.new emptySelector, [], none⟩
    ¬ Delivered (after .socks5Handler) ∧ (after .socks5Handler).fault = none ∧
      ¬ Delivered (after .pamHandler) ∧
      (after .pamHandler).fault = some .nullDereference := by
  decide +kernel

end Socks5Proxy

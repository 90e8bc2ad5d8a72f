import Socks5Proxy.Socks.Accepted
import Socks5Proxy.Socks.GreetingDecoding
import Socks5Proxy.Socks.AuthDecoding

/-!
# The authentication gate

`greeting_write` enters REQUEST for every method that is not `AUTH_METHOD`,
also for the refusal `05 FF`.  A connection is held at the gate exactly as long
as its greeting offers `AUTH_METHOD`.
-/

namespace Socks5Proxy

open Library

/-- `user_authenticate` has returned `USER_OK` on this connection. -/
def Authenticated (s : Session) : Prop := Action.authenticate .ok ∈ s.log

/-- The connection serves requests, or has tried to connect to an origin. -/
def Serving (s : Session) : Prop :=
  s.state ∈ [SocksV5State.request, .connect, .reply, .copy] ∨
    ∃ fd addr result, Action.connect fd addr result ∈ s.log

/-- The gate: a connection serves requests only after authentication. -/
def Gated (s : Session) : Prop := Serving s → Authenticated s

/-- If `bytes` hold a complete greeting, it offers `AUTH_METHOD`. -/
def OffersAuth (bytes : List UInt8) : Prop :=
  ∀ methods rest, CompleteGreeting bytes methods rest → authMethod ∈ methods

/-! ## Before authentication -/

/-- Where a connection that has not authenticated can be. -/
inductive GatePhase (s : Session) : Prop
  | reading (hstm : s.conn.stm = none ∨ s.conn.stm = some .greeting)
      (hreading : GreetingReading s.arrived (clientBytes s))
      (hinterest : ∀ i, s.interestOf s.conn.clientFd = some i → i.write = false)
  | answered {methods rest : List UInt8} (hstm : s.conn.stm = some .greeting)
      (hgreeting : CompleteGreeting (clientBytes s) methods rest)
      (hmethod : s.conn.greeting.method = chosenMethod methods)
      (hinterest : ∀ i, s.interestOf s.conn.clientFd = some i → i.read = false)
  | auth (hstm : s.conn.stm = some .auth)
      (hauth : s.conn.auth.authenticated = true → Authenticated s)

/-- A connection at the gate. -/
structure AtGate (s : Session) : Prop where
  owner : ∀ fd, s.sel.dataOf fd = some s.address → fd = s.conn.clientFd
  originFd : s.conn.originFd = -1
  resolvers : s.resolvers = 0
  calls : ∀ action ∈ s.log, action.Handshake
  phase : GatePhase s

/-- A connection the gate has sent away. -/
structure TurnedAway (s : Session) : Prop where
  closed : s.conn.closed = true
  stm : s.conn.stm = some .error ∨ s.conn.stm = some .done
  calls : ∀ fd addr result, Action.connect fd addr result ∉ s.log

/-- The invariant of the gate. -/
def GateInvariant (s : Session) : Prop := Authenticated s ∨ AtGate s ∨ TurnedAway s

section Gate

variable {s t : Session} {env : Env} {fd : ℤ}

theorem GateInvariant.gated (h : GateInvariant s) : Gated s := by
  intro hserving
  rcases h with hauth | hgate | haway
  · exact hauth
  · exfalso
    rcases hserving with hstate | ⟨fd, addr, result, hconnect⟩
    · cases hgate.phase with
      | reading hstm =>
          rcases hstm with hstm | hstm <;> simp [Session.state, hstm] at hstate
      | answered hstm => simp [Session.state, hstm] at hstate
      | auth hstm => simp [Session.state, hstm] at hstate
    · exact hgate.calls _ hconnect
  · exfalso
    rcases hserving with hstate | ⟨fd, addr, result, hconnect⟩
    · rcases haway.stm with hstm | hstm <;> simp [Session.state, hstm] at hstate
    · exact haway.calls _ _ _ hconnect

theorem Authenticated.persists (h : Authenticated s) (ht : Persists s t) : Authenticated t :=
  ht.log.subset h

/-- What the handshake keeps of a connection at the gate. -/
structure GateFrame (s t : Session) : Prop where
  owner : ∀ fd, t.sel.dataOf fd = some t.address → fd = t.conn.clientFd
  originFd : t.conn.originFd = -1
  resolvers : t.resolvers = 0
  calls : ∀ action ∈ t.log, action.Handshake

theorem AtGate.frame (h : AtGate s) (hframe : HandshakeFrame s t) : GateFrame s t where
  owner := fun fd hfd => by
    rw [hframe.dataOf, hframe.address] at hfd
    rw [hframe.clientFd]
    exact h.owner fd hfd
  originFd := hframe.originFd.trans h.originFd
  resolvers := hframe.resolvers.trans h.resolvers
  calls := fun action haction => by
    rcases hframe.calls action haction with hold | hnew
    · exact h.calls action hold
    · exact hnew

theorem GateFrame.atGate (h : GateFrame s t) (hphase : GatePhase t) : AtGate t :=
  ⟨h.owner, h.originFd, h.resolvers, h.calls, hphase⟩

theorem GateFrame.setStm (h : GateFrame s t) (stm : Option SocksV5State) :
    GateFrame s { t with conn.stm := stm } :=
  ⟨h.owner, h.originFd, h.resolvers, h.calls⟩

/-- Ending the connection turns it away. -/
theorem GateFrame.turnedAway {key : SelectorKey} {st next : SocksV5State}
    (h : GateFrame s t) (hst : next = .error ∨ next = .done) :
    TurnedAway (settle env key st (t, next)) := by
  rw [settle_stop hst]
  refine ⟨teardown_closed, ?_, ?_⟩
  · rw [teardown_stm]
    rcases hst with hst | hst <;> rw [hst]
    · exact .inl rfl
    · exact .inr rfl
  · intro fd addr result hconnect
    rcases teardown_log _ hconnect with hold | hfree | ⟨fd', hclose⟩
    · exact h.calls _ hold
    · cases hfree
    · cases hclose

/-- The connection a fresh `accept` leaves is at the gate. -/
theorem passiveAccept_atGate {bufferSize : ℕ} {sel : FdSelector FdHandler ℕ}
    {metrics : MetricSnapshot} {a : Accepted}
    (h : socksv5PassiveAccept bufferSize sel metrics a = some s) (hfresh : Fresh sel a) :
    AtGate s where
  owner := fun fd => (passiveAccept_dataOf_iff h hfresh).mp
  originFd := by rw [(passiveAccept_eq h).2]; rfl
  resolvers := by rw [(passiveAccept_eq h).2]
  calls := by
    rw [(passiveAccept_eq h).2]
    intro action haction
    cases haction
  phase := by
    have hinterest := passiveAccept_interestOf h hfresh
    obtain ⟨-, hs⟩ := passiveAccept_eq h
    refine .reading (.inl ?_) ?_ ?_
    · rw [hs]
      rfl
    · rw [hs]
      exact .header rfl rfl rfl Nat.zero_lt_two
    · intro i hi
      rw [hinterest, Option.some.injEq] at hi
      rw [← hi]
      rfl

end Gate

/-! ## AUTH believes `user_authenticate` only -/

section Auth

variable {s t : Session} {env : Env} {key : SelectorKey} {toRead : ℕ}

/-- A block of `auth_read` that leaves `authenticated` alone. -/
def KeepsVerdict (s : Session) (b : SocksBlock (Session × ℕ)) : Prop :=
  b.All (fun t st => t.conn.auth.authenticated = s.conn.auth.authenticated ∧
      (st = .auth ∨ st = .error))
    fun t => t.1.conn.auth.authenticated = s.conn.auth.authenticated

theorem authVer_keepsVerdict : KeepsVerdict s (authVer s toRead) := by
  unfold KeepsVerdict authVer
  dsimp only
  repeat' split
  · exact ⟨rfl, .inl rfl⟩
  · exact ⟨rfl, .inr rfl⟩
  · rfl
  · rfl

theorem authUlen_keepsVerdict : KeepsVerdict s (authUlen s toRead) := by
  unfold KeepsVerdict authUlen
  dsimp only
  repeat' split
  · exact ⟨rfl, .inl rfl⟩
  · exact ⟨rfl, .inr rfl⟩
  · rfl
  · rfl

theorem authUname_keepsVerdict : KeepsVerdict s (authUname s toRead) := by
  unfold KeepsVerdict authUname
  dsimp only
  repeat' split
  · exact ⟨rfl, .inl rfl⟩
  · rfl
  · rfl

theorem authPlen_keepsVerdict : KeepsVerdict s (authPlen s toRead) := by
  unfold KeepsVerdict authPlen
  dsimp only
  repeat' split
  · exact ⟨rfl, .inl rfl⟩
  · exact ⟨rfl, .inr rfl⟩
  · rfl
  · rfl

/-- `authenticated` is set only by an answer `USER_OK`. -/
def SoundVerdict (s t : Session) : Prop :=
  t.conn.auth.authenticated = true → s.conn.auth.authenticated = true ∨ Authenticated t

theorem checkCredentials_sound : SoundVerdict s (checkCredentials env s) := by
  intro hverdict
  unfold checkCredentials at hverdict ⊢
  rcases userAuthenticate_cases env.users (credential s.conn.auth.username)
    (credential s.conn.auth.password) with hok | hbad | hwrong
  · rw [hok]
    exact .inr (List.mem_append_right _ (List.mem_singleton_self _))
  · rw [hbad] at hverdict
    exact .inl hverdict
  · rw [hwrong] at hverdict
    exact .inl hverdict

theorem authPasswd_sound :
    (authPasswd env key s toRead).All (fun t st => SoundVerdict s t ∧ (st = .auth ∨ st = .error))
      fun t => SoundVerdict s t.1 := by
  unfold authPasswd
  dsimp only
  split
  · split
    · exact ⟨.inl, .inl rfl⟩
    · intro hverdict
      exact checkCredentials_sound hverdict
  · exact .inl

theorem KeepsVerdict.andThen {b : SocksBlock (Session × ℕ)}
    {f : Session × ℕ → SocksBlock (Session × ℕ)} (hb : KeepsVerdict s b)
    (hf : ∀ t, KeepsVerdict t.1 (f t)) : KeepsVerdict s (b.andThen f) := by
  refine Block.All.andThen hb fun t ht => ?_
  exact (hf t).mono (fun u st hu => ⟨hu.1.trans ht, hu.2⟩) fun u hu => hu.trans ht

theorem authRead_sound (env : Env) (key : SelectorKey) (s : Session) :
    SoundVerdict s (authRead env key s).1 ∧
      (authRead env key s).2 ∈ [SocksV5State.auth, .error, .done] := by
  unfold authRead
  cases env.recv with
  | none => exact ⟨.inl, by simp [recvClientBuffer_none]⟩
  | some offered =>
      obtain ⟨b, -, -, hrecv⟩ := recvClientBuffer_some s key.fd offered
      rw [hrecv]
      generalize hu : ({ s with conn.clientBuffer := b } : Session).act _ = u
      have hverdict : u.conn.auth.authenticated = s.conn.auth.authenticated := by
        rw [← hu]
        rfl
      dsimp only
      split
      · exact ⟨fun h => .inl (hverdict ▸ h), by simp⟩
      · have hkeeps : KeepsVerdict u
            ((((authVer u (bufferReadPtr u.conn.clientBuffer).2).andThen
              fun v => authUlen v.1 v.2).andThen fun v => authUname v.1 v.2).andThen
              fun v => authPlen v.1 v.2) :=
          ((authVer_keepsVerdict.andThen fun _ => authUlen_keepsVerdict).andThen
            fun _ => authUname_keepsVerdict).andThen fun _ => authPlen_keepsVerdict
        have hall : Block.All (fun t st => SoundVerdict u t ∧ (st = .auth ∨ st = .error))
            (fun t => SoundVerdict u t.1) (((((authVer u
              (bufferReadPtr u.conn.clientBuffer).2).andThen
              fun v => authUlen v.1 v.2).andThen fun v => authUname v.1 v.2).andThen
              fun v => authPlen v.1 v.2).andThen fun v => authPasswd env key v.1 v.2) := by
          refine Block.All.andThen (hkeeps.mono (fun v st hv => ⟨?_, hv.2⟩)
            fun v hv => hv) fun v hv => ?_
          · exact fun h => .inl (hv.1 ▸ h)
          · refine authPasswd_sound.mono (fun w st hw => ⟨?_, hw.2⟩) fun w hw => ?_
            · exact fun h => (hw.1 h).imp (fun h => hv ▸ h) id
            · exact fun h => (hw h).imp (fun h => hv ▸ h) id
        split
        · next w ret hb =>
            rw [hb] at hall
            refine ⟨fun h => (hall.1 h).imp (fun h => hverdict ▸ h) id, ?_⟩
            rcases hall.2 with hret | hret <;> simp [hret]
        · next w hb =>
            rw [hb] at hall
            exact ⟨fun h => (hall h).imp (fun h => hverdict ▸ h) id, by simp⟩

end Auth

/-! ## One event at the gate -/

section Step

variable {s t : Session} {env : Env} {fd : ℤ}

/-- A greeting that offers `AUTH_METHOD` did so when it was complete. -/
theorem OffersAuth.before (h : OffersAuth (clientBytes t)) (hst : Persists s t) :
    OffersAuth (clientBytes s) := by
  obtain ⟨more, hmore⟩ := clientBytes_of_persists hst
  intro methods rest hgreeting
  apply h methods (rest ++ more)
  rw [hmore]
  exact hgreeting.append more

theorem arrived_of_greeting (hstm : s.conn.stm = none ∨ s.conn.stm = some .greeting) :
    s.state = .greeting ∧ s.arrived.log = s.log ∧ s.arrived.sel = s.sel := by
  rcases hstm with hstm | hstm <;>
    simp [Session.state, Session.arrived, hstm, greetingArrival]

theorem AtGate.read_greeting (h : AtGate s)
    (hstm : s.conn.stm = none ∨ s.conn.stm = some .greeting)
    (hreading : GreetingReading s.arrived (clientBytes s))
    (hinterest : ∀ i, s.interestOf s.conn.clientFd = some i → i.write = false)
    (hstep : step s (.read s.conn.clientFd env) = .ok t) : GateInvariant t := by
  obtain ⟨hstate, hlog, hsel⟩ := arrived_of_greeting hstm
  obtain ⟨-, callback, r, hselect, hcall, rfl⟩ := step_read_ok hstep
  rw [hstate] at hselect ⊢
  cases hselect
  cases hcall
  generalize hkey : (⟨s.conn.clientFd, s.address⟩ : SelectorKey) = key
  have hfd : key.fd = s.conn.clientFd := by rw [← hkey]
  have hframe : HandshakeFrame s (greetingRead env key s.arrived).1 :=
    arrived_handshake.trans greetingRead_frame
  have hcases := greetingRead_cases env key hreading
  generalize greetingRead env key s.arrived = r at hframe hcases ⊢
  generalize (bufferRecv s.arrived.conn.clientBuffer env.recv).1 = received at hcases
  obtain ⟨u, st⟩ := r
  dsimp only at hframe hcases
  have hgate := h.frame hframe
  have hbytes : ∀ got, u.log = s.arrived.log ++ [.recv key.fd got] →
      clientBytes u = clientBytes s ++ got := by
    intro got hulog
    rw [hlog, hfd] at hulog
    rw [clientBytes_append hframe.clientFd hulog]
    simp [Action.receivedFrom]
  cases hcases with
  | failed => exact .inr (.inr (hgate.turnedAway (.inl rfl)))
  | stopped hst => exact .inr (.inr (hgate.turnedAway hst))
  | @waiting got _ hulog hureading husel =>
      rw [settle_stay (by decide) (by decide)]
      refine .inr (.inl ((hgate.setStm _).atGate (.reading (.inr rfl) ?_ ?_)))
      · change GreetingReading { u with conn.stm := some .greeting } (clientBytes u)
        rw [hbytes got hulog]
        exact hureading.congr rfl rfl
      · intro i hi
        apply hinterest i
        change u.sel.interestOf u.conn.clientFd = some i at hi
        rwa [husel, hsel, hframe.clientFd] at hi
  | @answered got methods rest _ hulog hgreeting hmethod hcontent horigin husel =>
      rw [settle_stay (by decide) (by decide)]
      have hreceived : CompleteGreeting (clientBytes u) methods rest := by
        rw [hbytes got hulog]
        exact hgreeting
      refine .inr (.inl ((hgate.setStm _).atGate (.answered rfl hreceived hmethod ?_)))
      intro i hi
      change u.sel.interestOf u.conn.clientFd = some i at hi
      rw [husel, hfd, hframe.clientFd] at hi
      rw [eq_of_interestOf_selectorSetInterest hi]
      rfl

/-- `greeting_write` behind the answer to a greeting that offers `AUTH_METHOD`. -/
theorem AtGate.write_greeting (h : AtGate s) {methods rest : List UInt8}
    (hstm : s.conn.stm = some .greeting)
    (hgreeting : CompleteGreeting (clientBytes s) methods rest)
    (hmethod : s.conn.greeting.method = chosenMethod methods)
    (hinterest : ∀ i, s.interestOf s.conn.clientFd = some i → i.read = false)
    (hoffers : OffersAuth (clientBytes s))
    (hstep : step s (.write fd env) = .ok t) : GateInvariant t := by
  obtain ⟨hstate, harrived⟩ := arrived_of_some hstm
  obtain ⟨-, callback, r, hselect, hcall, rfl⟩ := step_write_ok hstep
  rw [hstate] at hselect ⊢
  rw [harrived] at hcall
  cases hselect
  cases hcall
  generalize (⟨fd, s.address⟩ : SelectorKey) = key
  have hframe := greetingWrite_frame env key s
  have hauth : s.conn.greeting.method = authMethod := by
    rw [hmethod, chosenMethod, if_pos (hoffers methods rest hgreeting)]
  have hcases := greetingWrite_cases env key s
  generalize greetingWrite env key s = r at hframe hcases ⊢
  obtain ⟨u, st⟩ := r
  dsimp only at hframe hcases
  have hgate := h.frame hframe
  cases hcases with
  | failed => exact .inr (.inr (hgate.turnedAway (.inl rfl)))
  | @partly b sent =>
      rw [settle_stay (by decide) (by decide)]
      have hbytes := clientBytes_append (s := s)
        (t := ({ s with conn.originBuffer := b }).act (.send s.conn.clientFd sent))
        rfl rfl
      simp only [bytesReceived_cons, Action.receivedFrom, bytesReceived_nil,
        List.append_nil] at hbytes
      rw [← hbytes] at hgreeting
      exact .inr (.inl ((hgate.setStm _).atGate (.answered rfl hgreeting hmethod hinterest)))
  | toAuth =>
      rw [settle_move (by decide) (by decide) (by decide)]
      have hgate' : GateFrame s (authArrival _) := h.frame
        (hframe.trans (.of_conn rfl rfl rfl rfl .refl .refl))
      refine .inr (.inl ((hgate'.setStm _).atGate (.auth rfl ?_)))
      intro hverdict
      cases hverdict
  | toRequest _ _ hnot => exact absurd hauth hnot

theorem AtGate.read_auth (h : AtGate s) (hstm : s.conn.stm = some .auth)
    (hverdict : s.conn.auth.authenticated = true → Authenticated s)
    (hstep : step s (.read fd env) = .ok t) : GateInvariant t := by
  obtain ⟨hstate, harrived⟩ := arrived_of_some hstm
  obtain ⟨-, callback, r, hselect, hcall, rfl⟩ := step_read_ok hstep
  rw [hstate] at hselect ⊢
  rw [harrived] at hcall
  cases hselect
  cases hcall
  generalize (⟨fd, s.address⟩ : SelectorKey) = key
  have hframe := authRead_frame env key s
  obtain ⟨hsound, hst⟩ := authRead_sound env key s
  generalize authRead env key s = r at hframe hsound hst ⊢
  obtain ⟨u, st⟩ := r
  dsimp only at hframe hsound hst
  have hgate := h.frame hframe
  simp only [List.mem_cons, List.not_mem_nil, or_false] at hst
  rcases hst with rfl | hstop
  · rw [settle_stay (by decide) (by decide)]
    refine .inr (.inl ((hgate.setStm _).atGate (.auth rfl ?_)))
    intro hyes
    rcases hsound hyes with hbefore | hnow
    · exact hframe.log.subset (hverdict hbefore)
    · exact hnow
  · exact .inr (.inr (hgate.turnedAway hstop))

theorem AtGate.write_auth (h : AtGate s) (hstm : s.conn.stm = some .auth)
    (hverdict : s.conn.auth.authenticated = true → Authenticated s)
    (hstep : step s (.write fd env) = .ok t) : GateInvariant t := by
  have hpersists := step_persists hstep
  by_cases hyes : s.conn.auth.authenticated = true
  · exact .inl ((hverdict hyes).persists hpersists)
  · obtain ⟨hstate, harrived⟩ := arrived_of_some hstm
    obtain ⟨-, callback, r, hselect, hcall, rfl⟩ := step_write_ok hstep
    rw [hstate] at hselect ⊢
    rw [harrived] at hcall
    cases hselect
    cases hcall
    generalize (⟨fd, s.address⟩ : SelectorKey) = key
    have hframe := authWrite_frame env key s
    have hcases := authWrite_cases env key s
    generalize authWrite env key s = r at hframe hcases ⊢
    obtain ⟨u, st⟩ := r
    dsimp only at hframe hcases
    have hgate := h.frame hframe
    cases hcases with
    | failed => exact .inr (.inr (hgate.turnedAway (.inl rfl)))
    | partly =>
        rw [settle_stay (by decide) (by decide)]
        exact .inr (.inl ((hgate.setStm _).atGate (.auth rfl fun hset => absurd hset hyes)))
    | refused => exact .inr (.inr (hgate.turnedAway (.inl rfl)))
    | toRequest _ _ hset => exact absurd hset hyes

/-- Every event keeps the invariant of the gate, as long as the greeting, once
it is complete, offers `AUTH_METHOD`. -/
theorem GateInvariant.step (h : GateInvariant s) {e : Event} (henabled : Enabled s e)
    (hstep : step s e = .ok t) (hoffers : OffersAuth (clientBytes t)) : GateInvariant t := by
  have hpersists := step_persists hstep
  rcases h with hauth | hgate | haway
  · exact .inl (hauth.persists hpersists)
  · have hbefore := hoffers.before hpersists
    cases e with
    | read fd env =>
        obtain ⟨howner, i, hi, hread⟩ := henabled
        obtain rfl := hgate.owner fd howner
        cases hgate.phase with
        | reading hstm hreading hinterest => exact hgate.read_greeting hstm hreading hinterest hstep
        | answered _ _ _ hinterest =>
            rw [hinterest i hi] at hread
            cases hread
        | auth hstm hverdict => exact hgate.read_auth hstm hverdict hstep
    | write fd env =>
        obtain ⟨howner, i, hi, hwrite⟩ := henabled
        obtain rfl := hgate.owner fd howner
        cases hgate.phase with
        | reading _ _ hinterest =>
            rw [hinterest i hi] at hwrite
            cases hwrite
        | answered hstm hgreeting hmethod hinterest =>
            exact hgate.write_greeting hstm hgreeting hmethod hinterest hbefore hstep
        | auth hstm hverdict => exact hgate.write_auth hstm hverdict hstep
    | block fd env =>
        exfalso
        obtain ⟨-, callback, r, u, hselect, -⟩ := step_block_ok hstep
        cases hgate.phase with
        | reading hstm =>
            rw [(arrived_of_greeting hstm).1] at hselect
            cases hselect
        | answered hstm =>
            rw [(arrived_of_some hstm).1] at hselect
            cases hselect
        | auth hstm =>
            rw [(arrived_of_some hstm).1] at hselect
            cases hselect
    | resolved result =>
        rw [Enabled, hgate.resolvers] at henabled
        exact absurd henabled (Nat.lt_irrefl 0)
    | connectFinished errno => exact absurd hgate.originFd henabled.2
  · rw [Socks5Proxy.step, if_pos haway.closed] at hstep
    cases hstep

end Step

/-! ## Whole runs -/

/-- In every run of an accepted connection whose greeting, once complete,
offers `AUTH_METHOD`, requests are served only after `user_authenticate` has
returned `USER_OK`. -/
theorem gated_of_offersAuth {bufferSize : ℕ} {sel : FdSelector FdHandler ℕ}
    {metrics : MetricSnapshot} {a : Accepted} {s t : Session} {es : List Event}
    (haccept : socksv5PassiveAccept bufferSize sel metrics a = some s) (hfresh : Fresh sel a)
    (henabled : Steps step Enabled s es) (hrun : run step s es = .ok t)
    (hoffers : OffersAuth (clientBytes t)) : Gated t := by
  have hinvariant : OffersAuth (clientBytes t) → GateInvariant t := by
    refine run_invariant (I := fun u => OffersAuth (clientBytes u) → GateInvariant u)
      ?_ ?_ henabled hrun
    · intro u e v hu he hv hoffers
      exact (hu (hoffers.before (step_persists hv))).step he hv hoffers
    · intro _
      exact .inr (.inl (passiveAccept_atGate haccept hfresh))
  exact (hinvariant hoffers).gated

/-! ### Where a greeting leads -/

section Leads

variable {bufferSize : ℕ} {sel : FdSelector FdHandler ℕ} {metrics : MetricSnapshot}
  {a : Accepted} {s : Session} {methods : List UInt8}

/-- A connection with its answer to `methods` queued and nothing sent yet. -/
structure GreetingAnswered (s t : Session) (greeting methods : List UInt8) : Prop where
  stm : t.conn.stm = some .greeting
  closed : t.conn.closed = false
  clientFd : t.conn.clientFd = s.conn.clientFd
  log : t.log = [.recv s.conn.clientFd greeting]
  method : t.conn.greeting.method = chosenMethod methods
  queued : t.conn.originBuffer.content = [socks5Version, chosenMethod methods]
  interest : t.interestOf s.conn.clientFd = some .opWrite
  owner : t.sel.dataOf s.conn.clientFd = some t.address

theorem read_whole_greeting
    (haccept : socksv5PassiveAccept bufferSize sel metrics a = some s) (hfresh : Fresh sel a)
    (hsize : 257 ≤ bufferSize) (hne : methods ≠ []) (hcount : methods.length < 256) :
    let greeting := socks5Version :: UInt8.ofNat methods.length :: methods
    ∃ t, step s (.read s.conn.clientFd (receives greeting)) = .ok t ∧
      GreetingAnswered s t greeting methods := by
  intro greeting
  have hinterest := passiveAccept_interestOf haccept hfresh
  have howner := (passiveAccept_dataOf_iff haccept hfresh).mpr rfl
  obtain ⟨-, hs⟩ := passiveAccept_eq haccept
  have hstm : s.conn.stm = none := by rw [hs]; rfl
  have hclosed : s.conn.closed = false := by rw [hs]; rfl
  have hslog : s.log = [] := by rw [hs]
  have hspace : s.arrived.conn.clientBuffer.space = bufferSize := by
    rw [hs]
    rfl
  have horigin : s.arrived.conn.originBuffer = bufferInit bufferSize a.raw.originBuffer.data := by
    rw [hs]
    rfl
  have hreading : GreetingReading s.arrived [] := by
    rw [hs]
    exact .header rfl rfl rfl Nat.zero_lt_two
  obtain ⟨hstate, hlog, hsel⟩ := arrived_of_greeting (.inl hstm)
  have hcomplete : CompleteGreeting greeting methods [] :=
    ⟨hne, hcount, by rw [List.append_nil]⟩
  have hgot : (bufferRecv s.arrived.conn.clientBuffer (receives greeting).recv).1 =
      some greeting := by
    change some (greeting.take s.arrived.conn.clientBuffer.space) = _
    rw [hspace, List.take_of_length_le]
    simp only [greeting, List.length_cons]
    omega
  have hframe : HandshakeFrame s
      (greetingRead (receives greeting) ⟨s.conn.clientFd, s.address⟩ s.arrived).1 :=
    arrived_handshake.trans greetingRead_frame
  have hcases := greetingRead_cases (receives greeting)
    ⟨s.conn.clientFd, s.address⟩ hreading
  rw [hgot] at hcases
  rw [step_read_greeting hstate hclosed]
  generalize greetingRead (receives greeting) ⟨s.conn.clientFd, s.address⟩ s.arrived = r
    at hframe hcases ⊢
  obtain ⟨u, st⟩ := r
  dsimp only at hframe hcases
  cases hcases with
  | stopped _ hnot => exact absurd hcomplete (hnot methods [])
  | waiting _ hstill => exact absurd hcomplete hstill.not_complete
  | @answered _ methods' rest' _ hulog hgreeting hmethod _ huorigin husel =>
      have hsame : methods' = methods := by
        have h := (completeGreeting_cons_iff.mp hgreeting).2.2.2.1
        rw [h, UInt8.toNat_ofNat_of_lt' hcount, List.take_length]
      subst hsame
      refine ⟨_, finish_live (by decide) (by decide), ?_⟩
      rw [settle_stay (by decide) (by decide)]
      have hroom : [socks5Version, chosenMethod methods'].length ≤
          s.arrived.conn.originBuffer.space := by
        rw [horigin, bufferInit_space]
        exact Nat.le_trans (by simp) hsize
      refine ⟨rfl, ?_, hframe.clientFd, ?_, hmethod, ?_, ?_, ?_⟩
      · exact hframe.closed.trans hclosed
      · change u.log = _
        rw [hulog, hlog, hslog]
        rfl
      · change u.conn.originBuffer.content = _
        rw [huorigin, (bufferWriteAll_of_le hroom).1, horigin]
        rfl
      · change u.sel.interestOf _ = _
        rw [husel, hsel]
        refine interestOf_selectorSetInterest_self ?_
        change s.interestOf s.conn.clientFd ≠ none
        rw [hinterest]
        exact Option.some_ne_none _
      · change u.sel.dataOf _ = some u.address
        rw [hframe.dataOf, hframe.address]
        exact howner

/-- A greeting received at once and its answer sent at once: AUTH if
`AUTH_METHOD` is offered, and REQUEST if it is not. -/
theorem greeting_leads (methods : List UInt8)
    (haccept : socksv5PassiveAccept bufferSize sel metrics a = some s) (hfresh : Fresh sel a)
    (hsize : 257 ≤ bufferSize) (hne : methods ≠ []) (hcount : methods.length < 256) :
    let greeting := socks5Version :: UInt8.ofNat methods.length :: methods
    let es : List Event :=
      [.read s.conn.clientFd (receives greeting), .write s.conn.clientFd (sends 2)]
    ∃ t, Steps step Enabled s es ∧ run step s es = .ok t ∧ clientBytes t = greeting ∧
      ¬ Authenticated t ∧
      t.state = if authMethod ∈ methods then .auth else .request := by
  intro greeting es
  have hinterest := passiveAccept_interestOf haccept hfresh
  have howner := (passiveAccept_dataOf_iff haccept hfresh).mpr rfl
  obtain ⟨u, hu, hanswered⟩ := read_whole_greeting haccept hfresh hsize hne hcount
  obtain ⟨b, hb, hsend⟩ := sendOriginBuffer_some u u.conn.clientFd 2
  have hleft : ¬ bufferCanRead b = true := by
    rw [bufferCanRead_iff, hb, hanswered.queued]
    simp
  have hresult : greetingWrite (sends 2) ⟨s.conn.clientFd, u.address⟩ u =
      (((({ u with conn.originBuffer := b }).act
          (.send u.conn.clientFd (u.conn.originBuffer.content.take 2))).setInterest
            s.conn.clientFd .opRead),
        if authMethod ∈ methods then .auth else .request) := by
    have hmethod := hanswered.method
    rw [greetingWrite, show (sends 2).send = some 2 from rfl, hsend]
    dsimp only [Session.act]
    rw [if_neg hleft, hmethod, chosenMethod]
    by_cases hmem : authMethod ∈ methods
    · simp only [hmem, if_true]
    · simp only [hmem, if_false, show authMethodInvalid ≠ authMethod by decide]
  have hlog : ∀ st : SocksV5State, st = .auth ∨ st = .request → ∀ v : Session,
      (callIfSome (socks5States (sends 2) ⟨s.conn.clientFd, u.address⟩ st).onArrival v).log =
          v.log ∧
        (callIfSome (socks5States (sends 2) ⟨s.conn.clientFd, u.address⟩ st).onArrival
          v).conn.clientFd = v.conn.clientFd := by
    rintro st (rfl | rfl) v <;> exact ⟨rfl, rfl⟩
  have hnext : (if authMethod ∈ methods then SocksV5State.auth else .request) = .auth ∨
      (if authMethod ∈ methods then SocksV5State.auth else .request) = .request := by
    split
    · exact .inl rfl
    · exact .inr rfl
  generalize (if authMethod ∈ methods then SocksV5State.auth else .request) = next
    at hnext hresult ⊢
  have hwrite : step u (.write s.conn.clientFd (sends 2)) =
      .ok (settle (sends 2) ⟨s.conn.clientFd, u.address⟩ .greeting
        (greetingWrite (sends 2) ⟨s.conn.clientFd, u.address⟩ u)) := by
    rw [step_write_greeting hanswered.stm hanswered.closed, hresult]
    exact finish_live (by rcases hnext with rfl | rfl <;> decide)
      (by rcases hnext with rfl | rfl <;> decide)
  have henabled : Steps step Enabled s es := by
    refine Steps.cons ⟨howner, _, hinterest, rfl⟩ hu ⟨?_, fun _ _ => trivial⟩
    exact ⟨hanswered.owner, _, hanswered.interest, rfl⟩
  refine ⟨_, henabled, run_cons_ok_iff.mpr ⟨u, hu, run_cons_ok_iff.mpr ⟨_, hwrite, rfl⟩⟩, ?_⟩
  rw [hresult]
  rw [settle_move (by rcases hnext with rfl | rfl <;> decide)
    (by rcases hnext with rfl | rfl <;> decide) (by rcases hnext with rfl | rfl <;> decide)]
  obtain ⟨hcalls, hfd⟩ := hlog next hnext
    ((({ u with conn.originBuffer := b } : Session).act
      (.send u.conn.clientFd (u.conn.originBuffer.content.take 2))).setInterest
        s.conn.clientFd .opRead)
  refine ⟨?_, ?_, rfl⟩
  · unfold clientBytes
    dsimp only
    rw [hcalls, hfd]
    change bytesReceived u.conn.clientFd (u.log ++ [_]) = _
    rw [hanswered.log, hanswered.clientFd]
    simp [Action.receivedFrom, greeting]
  · unfold Authenticated
    dsimp only
    rw [hcalls]
    change Action.authenticate .ok ∉ u.log ++ [_]
    rw [hanswered.log]
    simp

/-- The condition is exact: a greeting that does not offer `AUTH_METHOD` leads
past the gate. -/
theorem not_gated_of_not_offered (methods : List UInt8)
    (haccept : socksv5PassiveAccept bufferSize sel metrics a = some s) (hfresh : Fresh sel a)
    (hsize : 257 ≤ bufferSize) (hne : methods ≠ []) (hcount : methods.length < 256)
    (hnot : authMethod ∉ methods) :
    ∃ es t, Steps step Enabled s es ∧ run step s es = .ok t ∧
      clientBytes t = socks5Version :: UInt8.ofNat methods.length :: methods ∧ ¬ Gated t := by
  obtain ⟨t, henabled, hrun, hbytes, hauth, hstate⟩ :=
    greeting_leads methods haccept hfresh hsize hne hcount
  refine ⟨_, t, henabled, hrun, hbytes, ?_⟩
  intro hgated
  rw [if_neg hnot] at hstate
  exact hauth (hgated (.inl (by simp [hstate])))

end Leads

/-! ### Two clients -/

/-- The greeting `05 01 00`, and a run that is past the gate. -/
theorem refused_client_passes :
    ∃ s es t, socksv5PassiveAccept bufferSizeDefault emptySelector metricsInit firstClient =
        some s ∧
      Steps step Enabled s es ∧ run step s es = .ok t ∧ clientBytes t = [0x05, 0x01, 0x00] ∧
      ¬ Gated t := by
  obtain ⟨s, hs⟩ := firstClient_accepted bufferSizeDefault
  obtain ⟨es, t, ht⟩ := not_gated_of_not_offered [0x00] hs firstClient_fresh
    (by decide) (by decide) (by decide) (by decide)
  exact ⟨s, es, t, hs, ht⟩

/-- The administrator logs in and is served. -/
theorem gated_of_offersAuth_offered :
    ∃ t, run step firstSession adminLogin = .ok t ∧ t.state = .request ∧ Serving t ∧ Gated t := by
  have hrun : run step firstSession adminLogin = .ok (firstSessionAfter adminLogin) :=
    run_firstSession (by decide +kernel)
  have hstate : (firstSessionAfter adminLogin).state = .request := by decide +kernel
  refine ⟨_, hrun, hstate, .inl (by simp [hstate]),
    gated_of_offersAuth firstSession_accepted firstClient_fresh (by decide +kernel) hrun ?_⟩
  intro methods rest hgreeting
  have hbytes : clientBytes (firstSessionAfter adminLogin) =
      [0x05, 0x01, 0x02, 0x01, 5, 97, 100, 109, 105, 110, 5, 97, 100, 109, 105, 110] := by
    decide +kernel
  rw [hbytes, completeGreeting_cons_iff] at hgreeting
  rw [hgreeting.2.2.2.1]
  decide

end Socks5Proxy

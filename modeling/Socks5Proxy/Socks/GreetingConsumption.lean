import Socks5Proxy.Socks.GreetingDecoding
import Socks5Proxy.Socks.RequestSegmentation

/-!
# What a greeting leaves behind

A greeting, followed by anything, arrives in read events whose `recv` calls
return any non-empty pieces.  The loop over the methods stops behind the first
`AUTH_METHOD`, and the methods after it stay in `client_buffer` as the
beginning of the next message.
-/

namespace Socks5Proxy

open Library

/-- A greeting, by the methods it offers. -/
structure Greeting where
  methods : List UInt8
  nonempty : methods ≠ []
  count : methods.length < 256

namespace Greeting

variable (g : Greeting)

def bytes : List UInt8 := socks5Version :: UInt8.ofNat g.methods.length :: g.methods

theorem length_bytes : g.bytes.length = g.methods.length + 2 := rfl

/-- No method follows the first `AUTH_METHOD`. -/
def OffersAuthLast : Prop := authMethod ∉ g.methods.dropLast

instance : Decidable g.OffersAuthLast := inferInstanceAs (Decidable (_ ∉ _))

end Greeting

/-! ## The deliveries -/

/-- A read event while bytes of the greeting are missing.  Its `recv` returns
something, and what it returns continues the stream. -/
def DeliversGreeting (g : Greeting) (following : List UInt8) (s : Session) (e : Event) : Prop :=
  ∃ env, e = .read s.conn.clientFd env ∧ (clientBytes s).length < g.bytes.length ∧
    recvReturns s env.recv ≠ [] ∧
    clientBytes s ++ recvReturns s env.recv <+: g.bytes ++ following

/-- The event brings the last byte of the greeting. -/
def CompletesGreeting (g : Greeting) (s : Session) (e : Event) : Prop :=
  ∃ env, e = .read s.conn.clientFd env ∧
    g.bytes.length ≤ (clientBytes s ++ recvReturns s env.recv).length

/-- While bytes of the greeting are missing nothing is queued for the client;
then the answer is, and what follows the greeting is unread. -/
def GreetingConsumed (g : Greeting) (s : Session) : Prop :=
  s.state = .greeting ∧ s.conn.closed = false ∧
    if (clientBytes s).length < g.bytes.length then
      s.conn.originBuffer.content = []
    else
      s.conn.originBuffer.content = [socks5Version, chosenMethod g.methods] ∧
        s.conn.clientBuffer.content = (clientBytes s).drop g.bytes.length

instance (g : Greeting) (s : Session) : Decidable (GreetingConsumed g s) :=
  inferInstanceAs (Decidable (_ ∧ _ ∧ ite _ _ _))

/-! ## The scan -/

theorem scannedLength_eq_length_iff {methods : List UInt8} :
    scannedLength methods = methods.length ↔ authMethod ∉ methods.dropLast := by
  induction methods with
  | nil => simp [scannedLength]
  | cons method methods ih =>
      rcases methods with _ | ⟨next, rest⟩
      · simp [scannedLength]
      · have hlast : (method :: next :: rest).dropLast = method :: (next :: rest).dropLast := rfl
        rw [hlast, List.mem_cons, not_or, ← ih, scannedLength]
        split
        · next hauth =>
            rw [hauth]
            simp
        · next hother =>
            simp [Ne.symm hother]

/-- The methods that stay unread are none exactly if the scan reads them all. -/
theorem drop_scannedLength_append_eq_iff {methods : List UInt8} (rest : List UInt8) :
    methods.drop (scannedLength methods) ++ rest = rest ↔ authMethod ∉ methods.dropLast := by
  have hle := scannedLength_le methods
  rw [← scannedLength_eq_length_iff, List.append_left_eq_self, List.drop_eq_nil_iff]
  omega

section Reading

variable {g : Greeting} {following : List UInt8} {s t : Session} {env : Env}

/-- A stretch of the stream that is not longer than the greeting lacks nothing
but its end. -/
theorem Greeting.completeGreeting {bytes : List UInt8}
    (hstream : bytes <+: g.bytes ++ following) (hlen : g.bytes.length ≤ bytes.length) :
    CompleteGreeting bytes g.methods (bytes.drop g.bytes.length) where
  nonempty := g.nonempty
  count := g.count
  bytes := by
    obtain ⟨more, hmore⟩ := hstream
    have htake : bytes.take g.bytes.length = g.bytes := by
      have hcut := congrArg (List.take g.bytes.length) hmore
      rwa [List.take_append_of_le_length hlen, List.take_left] at hcut
    calc bytes = bytes.take g.bytes.length ++ bytes.drop g.bytes.length :=
          (List.take_append_drop _ _).symm
      _ = g.bytes ++ bytes.drop g.bytes.length := by rw [htake]

/-- Bytes that hold a complete greeting hold no other. -/
theorem CompleteGreeting.unique {bytes methods rest methods' rest' : List UInt8}
    (h : CompleteGreeting bytes methods rest) (h' : CompleteGreeting bytes methods' rest') :
    methods' = methods ∧ rest' = rest := by
  rw [h.bytes, completeGreeting_cons_iff] at h'
  obtain ⟨-, -, -, rfl, rfl⟩ := h'
  rw [UInt8.toNat_ofNat_of_lt' h.count, List.take_left, List.drop_left]
  exact ⟨rfl, rfl⟩

/-- A complete greeting at the start of the stream is as long as the stream's. -/
theorem CompleteGreeting.le_length {bytes methods rest : List UInt8}
    (h : CompleteGreeting bytes methods rest) (hstream : bytes <+: g.bytes ++ following) :
    g.bytes.length ≤ bytes.length := by
  obtain ⟨more, hmore⟩ := hstream
  have hgreeting : CompleteGreeting (g.bytes ++ following) g.methods following :=
    ⟨g.nonempty, g.count, rfl⟩
  have hextended := h.append more
  rw [hmore] at hextended
  obtain ⟨rfl, -⟩ := hgreeting.unique hextended
  rw [h.bytes, g.length_bytes]
  simp

end Reading

/-- The methods block never leaves GREETING. -/
theorem greetingMethods_greeting (key : SelectorKey) {u : Session}
    (hmethod : u.conn.greeting.method = noAuthMethod) :
    (greetingMethods key u).All (fun _ st => st = .greeting) (fun _ => True) := by
  by_cases hstate : u.conn.greeting.state = .methods
  · by_cases hshort : u.conn.clientBuffer.content.length < u.conn.greeting.nMethods.toNat
    · rw [greetingMethods_short hstate hshort]
      rfl
    · obtain ⟨b, -, hnext⟩ := greetingMethods_eq key hstate hmethod (Nat.not_lt.mp hshort)
      rw [hnext]
      trivial
  · rw [greetingMethods, if_neg hstate]
    trivial

/-- Bytes that a complete greeting starts with do not end the connection. -/
theorem greetingRead_greeting {env : Env} (key : SelectorKey) {s : Session}
    {bytes got more methods rest : List UInt8} (h : GreetingReading s bytes)
    (hrecv : (bufferRecv s.conn.clientBuffer env.recv).1 = some got) (hgot : got ≠ [])
    (hgreeting : CompleteGreeting (bytes ++ got ++ more) methods rest) :
    (greetingRead env key s).2 = .greeting := by
  unfold greetingRead
  cases hanswer : env.recv with
  | none =>
      rw [hanswer] at hrecv
      cases hrecv
  | some offered =>
      obtain ⟨b, hb, -, heq⟩ := recvClientBuffer_some s key.fd offered
      rw [hanswer, bufferRecv_some_fst, Option.some.injEq] at hrecv
      rw [hrecv] at hb
      have hne : b.content.length ≠ 0 := by
        rw [hb, List.length_append]
        have hpos := List.length_pos_iff.mpr hgot
        omega
      rw [heq]
      generalize hu : ({ s with conn.clientBuffer := b } : Session).act _ = u
      have hconn : u.conn.greeting = s.conn.greeting ∧ u.conn.clientBuffer = b := by
        rw [← hu]
        exact ⟨rfl, rfl⟩
      have hblocks : ((greetingVerNNmethods u).andThen (greetingMethods key)).All
          (fun _ st => st = .greeting) (fun _ => True) := by
        cases h with
        | methods hstate hmethod hcount hbytes hshort =>
            have hblock : greetingVerNNmethods u = .next u := by
              rw [greetingVerNNmethods, hconn.1, if_neg (by rw [hstate]; decide)]
            rw [hblock]
            exact greetingMethods_greeting key (by rw [hconn.1, hmethod])
        | header hstate hmethod hcontent hshort =>
            rw [hcontent] at hb
            have hustate : u.conn.greeting.state = .verNNmethods := by rw [hconn.1, hstate]
            rcases hsplit : b.content with _ | ⟨v, _ | ⟨n, tail⟩⟩
            · rw [hsplit] at hne
              exact absurd rfl hne
            · have hblock : greetingVerNNmethods u = .returned u .greeting := by
                simp [greetingVerNNmethods, hustate, hconn.2, hsplit]
              rw [hblock]
              rfl
            · have hucontent : u.conn.clientBuffer.content = v :: n :: tail := by
                rw [hconn.2, hsplit]
              rw [← hb, hsplit, List.cons_append, List.cons_append,
                completeGreeting_cons_iff] at hgreeting
              obtain ⟨hv, hn, -⟩ := hgreeting
              rcases greetingVerNNmethods_eq hustate hucontent with
                ⟨-, -, b', -, hnext⟩ | ⟨hbad, -⟩
              · rw [hnext]
                exact greetingMethods_greeting key (hconn.1 ▸ hmethod)
              · exact absurd hbad (by simp [hv, hn])
      dsimp only
      rw [bufferReadPtr_snd, hconn.2, if_neg hne]
      generalize (greetingVerNNmethods u).andThen (greetingMethods key) = block at hblocks ⊢
      rcases block with ⟨t, st⟩ | t
      · exact hblocks
      · rfl

/-! ## One delivery -/

/-- A connection that has received part of a greeting, and answered nothing. -/
structure AwaitsGreeting (s : Session) : Prop where
  stm : s.conn.stm = none ∨ s.conn.stm = some .greeting
  alive : s.conn.closed = false
  reading : GreetingReading s.arrived (clientBytes s)
  unanswered : s.conn.originBuffer.content = []
  settled : s.conn.originBuffer.space = s.conn.originBuffer.limit
  sameSize : s.conn.originBuffer.limit = s.conn.clientBuffer.limit
  room : 2 ≤ (clientBytes s).length → 2 ≤ s.conn.clientBuffer.limit

section Delivery

variable {g : Greeting} {following : List UInt8} {s t : Session} {e : Event}

theorem state_of_stm (h : s.conn.stm = none ∨ s.conn.stm = some .greeting) :
    s.state = .greeting := by
  rcases h with h | h <;> rw [Session.state, h] <;> rfl

theorem AwaitsGreeting.consumed (h : AwaitsGreeting s)
    (hlen : (clientBytes s).length < g.bytes.length) : GreetingConsumed g s := by
  refine ⟨state_of_stm h.stm, h.alive, ?_⟩
  rw [if_pos hlen]
  exact h.unanswered

/-- `recv` returns bytes when what it returns is not nothing. -/
theorem bufferRecv_of_recvReturns {answer : Option (List UInt8)}
    (h : recvReturns s answer ≠ []) :
    (bufferRecv s.conn.clientBuffer answer).1 = some (recvReturns s answer) := by
  unfold recvReturns at h ⊢
  cases hreadn : (bufferRecv s.conn.clientBuffer answer).1 with
  | none => exact absurd (by rw [hreadn]; rfl) h
  | some got => rfl

/-- The answer fits, because the header did. -/
theorem AwaitsGreeting.room_of_append (h : AwaitsGreeting s) (answer : Option (List UInt8))
    (hlen : 2 ≤ (clientBytes s ++ recvReturns s answer).length) :
    2 ≤ s.conn.clientBuffer.limit := by
  by_cases hold : 2 ≤ (clientBytes s).length
  · exact h.room hold
  · cases h.reading with
    | header _ _ hcontent _ =>
        have hbuffer : s.arrived.conn.clientBuffer = s.conn.clientBuffer := by
          obtain ⟨g, hg⟩ := arrived_eq s
          rw [hg]
        have hfull := (bufferRecv s.conn.clientBuffer answer).2.length_content_add_space
        have hgot : (bufferRecv s.conn.clientBuffer answer).2.content =
            clientBytes s ++ recvReturns s answer := by
          rw [← hcontent, hbuffer]
          cases answer with
          | none => simp [recvReturns]
          | some offered => simp [recvReturns]
        rw [hgot, bufferRecv_limit] at hfull
        omega
    | methods _ _ _ hbytes _ =>
        rw [hbytes] at hold
        simp at hold

theorem clientBytes_recv {u : Session} {got : List UInt8}
    (hclient : u.conn.clientFd = s.conn.clientFd)
    (hlog : u.log = s.log ++ [.recv s.conn.clientFd got]) :
    clientBytes u = clientBytes s ++ got := by
  rw [clientBytes_append hclient hlog]
  simp [Action.receivedFrom]

/-- The connection waits for the rest of the greeting. -/
theorem AwaitsGreeting.waits {u : Session} {got : List UInt8} (h : AwaitsGreeting s)
    (hframe : Frame s u) (hbytes : clientBytes u = clientBytes s ++ got)
    (hreading : GreetingReading u (clientBytes s ++ got))
    (horigin : u.conn.originBuffer = s.conn.originBuffer)
    (hroom : 2 ≤ (clientBytes s ++ got).length → 2 ≤ s.conn.clientBuffer.limit) :
    AwaitsGreeting { u with conn.stm := some .greeting } where
  stm := .inr rfl
  alive := hframe.closed.trans h.alive
  reading := by
    change GreetingReading { u with conn.stm := some .greeting } (clientBytes u)
    rw [hbytes]
    exact hreading.congr rfl rfl
  unanswered := (congrArg Buffer.content horigin).trans h.unanswered
  settled := by
    change u.conn.originBuffer.space = u.conn.originBuffer.limit
    rw [horigin]
    exact h.settled
  sameSize := by
    change u.conn.originBuffer.limit = u.conn.clientBuffer.limit
    rw [horigin, hframe.clientBuffer.1]
    exact h.sameSize
  room := by
    change 2 ≤ (clientBytes u).length → 2 ≤ u.conn.clientBuffer.limit
    rw [hbytes, hframe.clientBuffer.1]
    exact hroom

/-- The connection has consumed the greeting up to the first `AUTH_METHOD`. -/
theorem AwaitsGreeting.answers {u : Session} {got methods rest : List UInt8}
    (h : AwaitsGreeting s) (hframe : Frame s u)
    (hbytes : clientBytes u = clientBytes s ++ got)
    (hstream : clientBytes s ++ got <+: g.bytes ++ following)
    (hgreeting : CompleteGreeting (clientBytes s ++ got) methods rest)
    (hcontent : u.conn.clientBuffer.content = methods.drop (scannedLength methods) ++ rest)
    (horigin : u.conn.originBuffer =
      bufferWriteAll s.conn.originBuffer [socks5Version, chosenMethod methods])
    (hroom : 2 ≤ (clientBytes s ++ got).length → 2 ≤ s.conn.clientBuffer.limit) :
    g.bytes.length ≤ (clientBytes u).length ∧
      (GreetingConsumed g { u with conn.stm := some .greeting } ↔ g.OffersAuthLast) := by
  have hlen := hgreeting.le_length hstream
  obtain ⟨rfl, rfl⟩ := (Greeting.completeGreeting hstream hlen).unique hgreeting
  have hfits : [socks5Version, chosenMethod g.methods].length ≤ s.conn.originBuffer.space := by
    have hcount := g.length_bytes
    rw [h.settled, h.sameSize]
    exact hroom (by omega)
  have hqueued : u.conn.originBuffer.content = [socks5Version, chosenMethod g.methods] := by
    rw [horigin, (bufferWriteAll_of_le hfits).1, h.unanswered]
    rfl
  rw [hbytes]
  refine ⟨hlen, ?_⟩
  have hdone : ¬ (clientBytes { u with conn.stm := some .greeting }).length <
      g.bytes.length := by
    change ¬ (clientBytes u).length < _
    rw [hbytes]
    omega
  rw [GreetingConsumed, if_neg hdone, Greeting.OffersAuthLast,
    ← drop_scannedLength_append_eq_iff ((clientBytes s ++ got).drop g.bytes.length)]
  change _ ∧ _ ∧ u.conn.originBuffer.content = _ ∧
    u.conn.clientBuffer.content = (clientBytes u).drop _ ↔ _
  rw [hqueued, hcontent, hbytes]
  constructor
  · rintro ⟨-, -, -, hleft⟩
    exact hleft
  · intro hleft
    exact ⟨rfl, hframe.closed.trans h.alive, rfl, hleft⟩

/-- A delivery keeps the connection waiting for the rest of the greeting, or
consumes the greeting up to the first `AUTH_METHOD`. -/
theorem AwaitsGreeting.deliver (h : AwaitsGreeting s)
    (hdelivers : DeliversGreeting g following s e) :
    ∃ t, step s e = .ok t ∧ ((clientBytes t).length < g.bytes.length → AwaitsGreeting t) ∧
      (GreetingConsumed g t ↔ (CompletesGreeting g s e → g.OffersAuthLast)) := by
  obtain ⟨env, rfl, -, hgot, hstream⟩ := hdelivers
  obtain ⟨gr, hgr⟩ := arrived_eq s
  have hrecv : (bufferRecv s.arrived.conn.clientBuffer env.recv).1 =
      some (recvReturns s env.recv) := by
    rw [hgr]
    exact bufferRecv_of_recvReturns hgot
  have hcompletes : CompletesGreeting g s (.read s.conn.clientFd env) ↔
      g.bytes.length ≤ (clientBytes s ++ recvReturns s env.recv).length := by
    constructor
    · rintro ⟨env', heq, hlen⟩
      cases heq
      exact hlen
    · intro hlen
      exact ⟨env, rfl, hlen⟩
  have hroom := h.room_of_append env.recv
  rw [hcompletes]
  obtain ⟨more, hmore⟩ := id hstream
  have hstays := greetingRead_greeting ⟨s.conn.clientFd, s.address⟩ h.reading hrecv hgot
    (hmore ▸ ⟨g.nonempty, g.count, rfl⟩ :
      CompleteGreeting (clientBytes s ++ recvReturns s env.recv ++ more) g.methods following)
  have hcase := greetingRead_cases env ⟨s.conn.clientFd, s.address⟩ h.reading
  have hframe : Frame s (greetingRead env ⟨s.conn.clientFd, s.address⟩ s.arrived).1 :=
    (arrived_handshake.trans greetingRead_frame).toFrame
  have hstate := state_of_stm h.stm
  rw [step_read_greeting hstate h.alive]
  generalize greetingRead env ⟨s.conn.clientFd, s.address⟩ s.arrived = r at hcase hstays hframe ⊢
  obtain ⟨u, st⟩ := r
  dsimp only at hcase hstays hframe ⊢
  subst hstays
  refine ⟨_, finish_live (by decide) (by decide), ?_⟩
  rw [settle_stay (by decide) (by decide)]
  rw [hrecv, hgr] at hcase
  generalize recvReturns s env.recv = got at *
  cases hcase with
  | stopped hst => rcases hst with hst | hst <;> cases hst
  | waiting hlog hreading _ horigin =>
      have hbytes := clientBytes_recv hframe.clientFd hlog
      have hwaits := h.waits hframe hbytes hreading horigin hroom
      refine ⟨fun _ => hwaits, ?_⟩
      have hlen : (clientBytes s ++ got).length < g.bytes.length := by
        by_contra hle
        exact hreading.not_complete (Greeting.completeGreeting hstream (Nat.not_lt.mp hle))
      refine iff_of_true (hwaits.consumed ?_) fun hle => absurd hlen (Nat.not_lt.mpr hle)
      change (clientBytes u).length < _
      rwa [hbytes]
  | answered hlog hgreeting _ hcontent horigin _ =>
      have hbytes := clientBytes_recv hframe.clientFd hlog
      obtain ⟨hlen, hiff⟩ :=
        h.answers hframe hbytes hstream hgreeting hcontent horigin hroom
      refine ⟨fun hlt => absurd hlt (Nat.not_lt.mpr hlen), ?_⟩
      rw [hiff, ← hbytes]
      exact ⟨fun hlast _ => hlast, fun hlast => hlast hlen⟩

end Delivery

/-! ## Whole deliveries -/

theorem passiveAccept_awaitsGreeting {bufferSize : ℕ} {sel : FdSelector FdHandler ℕ}
    {metrics : MetricSnapshot} {a : Accepted} {s : Session}
    (haccept : socksv5PassiveAccept bufferSize sel metrics a = some s) : AwaitsGreeting s := by
  obtain ⟨-, rfl⟩ := passiveAccept_eq haccept
  exact ⟨.inl rfl, rfl, .header rfl rfl rfl Nat.zero_lt_two, rfl, rfl, rfl,
    fun hlen => absurd hlen (by simp [clientBytes])⟩

/-- A greeting that arrives in any pieces is answered once and consumed exactly,
unless it is completed and offers something behind its first `AUTH_METHOD`. -/
theorem greeting_consumed_iff {bufferSize : ℕ} {sel : FdSelector FdHandler ℕ}
    {metrics : MetricSnapshot} {a : Accepted} {s : Session} {es : List Event} {g : Greeting}
    {following : List UInt8}
    (haccept : socksv5PassiveAccept bufferSize sel metrics a = some s)
    (hdelivers : Steps step (DeliversGreeting g following) s es) :
    RunsThrough step (GreetingConsumed g) s es ↔
      Steps step (fun s e => CompletesGreeting g s e → g.OffersAuthLast) s es := by
  have hawaits := passiveAccept_awaitsGreeting haccept
  have hnone : (clientBytes s).length < g.bytes.length := by
    rw [(passiveAccept_eq haccept).2, g.length_bytes]
    exact Nat.succ_pos _
  refine runsThrough_iff_steps_of_admissible
    (I := fun t => (clientBytes t).length < g.bytes.length → AwaitsGreeting t) ?_
    (fun _ => hawaits) hdelivers (hawaits.consumed hnone)
  intro t e ht hevent _
  have hshort : (clientBytes t).length < g.bytes.length := by
    obtain ⟨env, -, hshort, -⟩ := hevent
    exact hshort
  exact (ht hshort).deliver hevent

instance DeliversGreeting.decidable (g : Greeting) (following : List UInt8) (s : Session) :
    (e : Event) → Decidable (DeliversGreeting g following s e)
  | .read fd env =>
      decidable_of_iff (fd = s.conn.clientFd ∧ (clientBytes s).length < g.bytes.length ∧
          recvReturns s env.recv ≠ [] ∧
          clientBytes s ++ recvReturns s env.recv <+: g.bytes ++ following) (by
        constructor
        · rintro ⟨rfl, h⟩
          exact ⟨env, rfl, h⟩
        · rintro ⟨env', heq, h⟩
          cases heq
          exact ⟨rfl, h⟩)
  | .write _ _ | .block _ _ | .resolved _ | .connectFinished _ =>
      .isFalse fun ⟨_, heq, _⟩ => by cases heq

/-- A greeting that offers `AUTH_METHOD` and then no authentication. -/
def authFirst : Greeting := ⟨[0x02, 0x00], by decide, by decide⟩

/-- The method behind `AUTH_METHOD` stays in the buffer. -/
theorem authFirst_not_consumed :
    ∃ s es, socksv5PassiveAccept bufferSizeDefault emptySelector metricsInit firstClient =
        some s ∧
      Steps step Enabled s es ∧ Steps step (DeliversGreeting authFirst []) s es ∧
      ¬ RunsThrough step (GreetingConsumed authFirst) s es := by
  refine ⟨firstSession, [.read 4 (receives authFirst.bytes)], firstSession_accepted,
    by decide +kernel, by decide +kernel, ?_⟩
  rintro ⟨-, t, hstep, hconsumed⟩
  have hafter : firstSessionAfter [.read 4 (receives authFirst.bytes)] = t := by
    rw [firstSessionAfter, run, hstep]
    rfl
  have hleft : ¬ GreetingConsumed authFirst
      (firstSessionAfter [.read 4 (receives authFirst.bytes)]) := by decide +kernel
  rw [hafter] at hleft
  exact hleft hconsumed.head

/-- A greeting that offers no authentication and then `AUTH_METHOD`. -/
def authSecond : Greeting := ⟨[0x00, 0x02], by decide, by decide⟩

/-- It arrives in two segments, the second with the next message. -/
theorem greeting_consumed_iff_authSecond :
    RunsThrough step (GreetingConsumed authSecond) firstSession
      [.read 4 (receives [0x05, 0x02, 0x00]), .read 4 (receives [0x02, 0x01])] := by
  refine (greeting_consumed_iff firstSession_accepted
    (?_ : Steps step (DeliversGreeting authSecond [0x01]) _ _)).mpr ?_
  · decide +kernel
  · exact Steps.of_forall (fun _ _ _ => by decide) _ _

end Socks5Proxy

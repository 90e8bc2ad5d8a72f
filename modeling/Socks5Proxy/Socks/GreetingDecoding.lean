import Socks5Proxy.Socks.Greeting
import Socks5Proxy.Socks.Trace
import Mathlib.Data.List.Basic

/-!
# How GREETING decodes the bytes it has received

Between two read events the decoder is a function of the bytes received so
far: either fewer than two have arrived, or the version and the count have been
consumed and some methods are missing.
-/

namespace Socks5Proxy

/-- The method the server chooses among the offered ones. -/
def chosenMethod (methods : List UInt8) : UInt8 :=
  if authMethod ∈ methods then authMethod else authMethodInvalid

/-- How many of the offered methods the loop reads: it stops behind the first
`AUTH_METHOD`. -/
def scannedLength : List UInt8 → ℕ
  | [] => 0
  | method :: methods => if method = authMethod then 1 else scannedLength methods + 1

/-- The decoder has consumed what it could of `bytes`, which is not a complete
greeting. -/
inductive GreetingReading (s : Session) (bytes : List UInt8) : Prop
  | header (hstate : s.conn.greeting.state = .verNNmethods)
      (hmethod : s.conn.greeting.method = noAuthMethod)
      (hcontent : s.conn.clientBuffer.content = bytes) (hshort : bytes.length < 2)
  | methods (hstate : s.conn.greeting.state = .methods)
      (hmethod : s.conn.greeting.method = noAuthMethod)
      (hcount : s.conn.greeting.nMethods ≠ 0)
      (hbytes : bytes = socks5Version :: s.conn.greeting.nMethods ::
        s.conn.clientBuffer.content)
      (hshort : s.conn.clientBuffer.content.length < s.conn.greeting.nMethods.toNat)

/-- `bytes` starts with a complete greeting that offers `methods`. -/
structure CompleteGreeting (bytes methods rest : List UInt8) : Prop where
  nonempty : methods ≠ []
  count : methods.length < 256
  bytes : bytes = socks5Version :: UInt8.ofNat methods.length :: (methods ++ rest)

theorem GreetingReading.congr {s t : Session} {bytes : List UInt8}
    (h : GreetingReading s bytes) (hgreeting : t.conn.greeting = s.conn.greeting)
    (hbuffer : t.conn.clientBuffer = s.conn.clientBuffer) : GreetingReading t bytes := by
  cases h with
  | header hstate hmethod hcontent hshort =>
      refine .header ?_ ?_ ?_ hshort
      · rw [hgreeting, hstate]
      · rw [hgreeting, hmethod]
      · rw [hbuffer, hcontent]
  | methods hstate hmethod hcount hbytes hshort =>
      refine .methods ?_ ?_ ?_ ?_ ?_
      · rw [hgreeting, hstate]
      · rw [hgreeting, hmethod]
      · rw [hgreeting]
        exact hcount
      · rw [hgreeting, hbuffer]
        exact hbytes
      · rw [hgreeting, hbuffer]
        exact hshort

/-- A complete greeting is determined by its bytes. -/
theorem completeGreeting_cons_iff {v n : UInt8} {tail methods rest : List UInt8} :
    CompleteGreeting (v :: n :: tail) methods rest ↔
      v = socks5Version ∧ n ≠ 0 ∧ n.toNat ≤ tail.length ∧ methods = tail.take n.toNat ∧
        rest = tail.drop n.toNat := by
  constructor
  · rintro ⟨hne, hcount, hbytes⟩
    simp only [List.cons.injEq] at hbytes
    obtain ⟨rfl, rfl, rfl⟩ := hbytes
    have hlen : (UInt8.ofNat methods.length).toNat = methods.length :=
      UInt8.toNat_ofNat_of_lt' hcount
    refine ⟨rfl, ?_, ?_, ?_, ?_⟩
    · intro hzero
      rw [hzero] at hlen
      exact hne (List.length_eq_zero_iff.mp hlen.symm)
    · rw [hlen, List.length_append]
      omega
    · rw [hlen, List.take_left]
    · rw [hlen, List.drop_left]
  · rintro ⟨rfl, hn, hle, rfl, rfl⟩
    have hlen : (tail.take n.toNat).length = n.toNat := by
      rw [List.length_take]
      omega
    refine ⟨?_, ?_, ?_⟩
    · intro hnil
      rw [hnil, List.length_nil] at hlen
      exact hn (UInt8.toNat_inj.mp hlen.symm)
    · rw [hlen]
      exact n.toNat_lt
    · rw [hlen, UInt8.ofNat_toNat, List.take_append_drop]

theorem not_completeGreeting_of_short {bytes methods rest : List UInt8}
    (h : bytes.length < 2) : ¬ CompleteGreeting bytes methods rest := by
  intro hgreeting
  rw [hgreeting.bytes] at h
  simp only [List.length_cons] at h
  omega

/-- Bytes that are still being decoded are not a complete greeting. -/
theorem GreetingReading.not_complete {s : Session} {bytes methods rest : List UInt8}
    (h : GreetingReading s bytes) : ¬ CompleteGreeting bytes methods rest := by
  cases h with
  | header _ _ _ hshort => exact not_completeGreeting_of_short hshort
  | methods _ _ _ hbytes hshort =>
      rw [hbytes, completeGreeting_cons_iff]
      rintro ⟨-, -, hle, -⟩
      omega

/-- Nor are they when nothing is left to decode. -/
theorem GreetingReading.not_complete_of_nil {s : Session} {bytes got : List UInt8}
    {b : Buffer} (h : GreetingReading s bytes)
    (hb : b.content = s.conn.clientBuffer.content ++ got) (hnil : b.content = []) :
    ∀ methods rest, ¬ CompleteGreeting (bytes ++ got) methods rest := by
  intro methods rest
  rw [hnil, eq_comm, List.append_eq_nil_iff] at hb
  rw [hb.2, List.append_nil]
  exact h.not_complete

theorem CompleteGreeting.append {bytes methods rest : List UInt8}
    (h : CompleteGreeting bytes methods rest) (more : List UInt8) :
    CompleteGreeting (bytes ++ more) methods (rest ++ more) where
  nonempty := h.nonempty
  count := h.count
  bytes := by
    rw [h.bytes]
    simp

section Scan

theorem greetingScan_spec {n : ℕ} {b : Buffer} {method : UInt8}
    (hn : n ≤ b.content.length) (hmethod : method = noAuthMethod) :
    (greetingScan n b method).1.content =
        b.content.drop (scannedLength (b.content.take n)) ∧
      (greetingScan n b method).2.1 =
        (if authMethod ∈ b.content.take n then authMethod else noAuthMethod) ∧
      (greetingScan n b method).2.2 = decide (authMethod ∈ b.content.take n) := by
  induction n generalizing b method with
  | zero => simp [greetingScan, scannedLength, hmethod]
  | succ n ih =>
      cases hcontent : b.content with
      | nil => simp [hcontent] at hn
      | cons byte bytes =>
          have hread : bufferCanRead b = true := by
            rw [bufferCanRead_iff, hcontent]
            simp
          have hnext : (bufferRead b).2.content = bytes := by simp [hcontent]
          have hlen : n ≤ (bufferRead b).2.content.length := by
            rw [hnext]
            simpa [hcontent] using hn
          simp only [greetingScan, hread, if_true, bufferRead_fst hcontent, hmethod]
          by_cases hbyte : byte = authMethod
          · subst hbyte
            simp [hnext, scannedLength]
          · obtain ⟨hdrop, hchosen, hfound⟩ := @ih _ noAuthMethod hlen rfl
            rw [hnext] at hdrop hchosen hfound
            have hscan : scannedLength ((byte :: bytes).take (n + 1)) =
                scannedLength (bytes.take n) + 1 := by
              simp [scannedLength, hbyte]
            have hmem : authMethod ∈ (byte :: bytes).take (n + 1) ↔
                authMethod ∈ bytes.take n := by
              simp [Ne.symm hbyte]
            rw [if_neg hbyte, hscan]
            simp only [hmem]
            split <;> exact ⟨by simpa using hdrop, hchosen, hfound⟩

end Scan

/-! ## One read event -/

/-- What `greeting_read` can do when `bytes` have been received and decoded so
far. -/
inductive GreetingReadCase (key : SelectorKey) (s : Session) (bytes : List UInt8) :
    Option (List UInt8) → Session → SocksV5State → Prop
  | failed {t : Session} : GreetingReadCase key s bytes none t .error
  | stopped {got : List UInt8} {t : Session} {st : SocksV5State}
      (hst : st = .error ∨ st = .done)
      (hnot : ∀ methods rest, ¬ CompleteGreeting (bytes ++ got) methods rest) :
      GreetingReadCase key s bytes (some got) t st
  | waiting {got : List UInt8} {t : Session}
      (hlog : t.log = s.log ++ [.recv key.fd got])
      (hreading : GreetingReading t (bytes ++ got)) (hsel : t.sel = s.sel)
      (horigin : t.conn.originBuffer = s.conn.originBuffer) :
      GreetingReadCase key s bytes (some got) t .greeting
  | answered {got methods rest : List UInt8} {t : Session}
      (hlog : t.log = s.log ++ [.recv key.fd got])
      (hgreeting : CompleteGreeting (bytes ++ got) methods rest)
      (hmethod : t.conn.greeting.method = chosenMethod methods)
      (hcontent : t.conn.clientBuffer.content = methods.drop (scannedLength methods) ++ rest)
      (horigin : t.conn.originBuffer =
        bufferWriteAll s.conn.originBuffer [socks5Version, chosenMethod methods])
      (hsel : t.sel = (selectorSetInterest s.sel key.fd .opWrite).1) :
      GreetingReadCase key s bytes (some got) t .greeting

section Read

variable {env : Env} {key : SelectorKey} {s : Session}

theorem scannedLength_le (methods : List UInt8) : scannedLength methods ≤ methods.length := by
  induction methods with
  | nil => exact Nat.le_refl 0
  | cons method methods ih =>
      unfold scannedLength
      split
      · simp
      · simpa using ih

/-- The methods block, once the count is known. -/
theorem greetingMethods_eq (key : SelectorKey) (hstate : s.conn.greeting.state = .methods)
    (hmethod : s.conn.greeting.method = noAuthMethod)
    (hcomplete : s.conn.greeting.nMethods.toNat ≤ s.conn.clientBuffer.content.length) :
    let methods := s.conn.clientBuffer.content.take s.conn.greeting.nMethods.toNat
    ∃ b, b.content = s.conn.clientBuffer.content.drop (scannedLength methods) ∧
      greetingMethods key s = .next
        ((({ s with
            conn.clientBuffer := b
            conn.greeting.method := chosenMethod methods }).writeOriginBuffer
              [socks5Version, chosenMethod methods]).setInterest key.fd .opWrite) := by
  intro methods
  obtain ⟨hdrop, hchosen, hfound⟩ := greetingScan_spec hcomplete hmethod
  refine ⟨_, hdrop, ?_⟩
  have hfinal : (if (greetingScan s.conn.greeting.nMethods.toNat s.conn.clientBuffer
        s.conn.greeting.method).2.1 = noAuthMethod ∧
      (greetingScan s.conn.greeting.nMethods.toNat s.conn.clientBuffer
        s.conn.greeting.method).2.2 = false then authMethodInvalid
      else (greetingScan s.conn.greeting.nMethods.toNat s.conn.clientBuffer
        s.conn.greeting.method).2.1) = chosenMethod methods := by
    rw [hchosen, hfound, chosenMethod]
    by_cases hmem : authMethod ∈ methods
    · simp [methods, hmem, show authMethod ≠ noAuthMethod by decide]
    · simp [methods, hmem]
  simp only [greetingMethods, hstate, if_true, bufferReadPtr_snd, Nat.not_lt.mpr hcomplete,
    if_false, hfinal]

theorem greetingMethods_short (hstate : s.conn.greeting.state = .methods)
    (hshort : s.conn.clientBuffer.content.length < s.conn.greeting.nMethods.toNat) :
    greetingMethods key s = .returned s .greeting := by
  simp [greetingMethods, hstate, hshort]

/-- The methods block, seen from all the bytes of the greeting. -/
theorem greetingMethods_case {u : Session} {got bytes : List UInt8}
    (hlog : u.log = s.log ++ [.recv key.fd got]) (hsel : u.sel = s.sel)
    (horigin : u.conn.originBuffer = s.conn.originBuffer)
    (hstate : u.conn.greeting.state = .methods)
    (hmethod : u.conn.greeting.method = noAuthMethod)
    (hcount : u.conn.greeting.nMethods ≠ 0)
    (hbytes : bytes ++ got = socks5Version :: u.conn.greeting.nMethods ::
      u.conn.clientBuffer.content) :
    (greetingMethods key u).All (fun t st => GreetingReadCase key s bytes (some got) t st)
      (fun t => GreetingReadCase key s bytes (some got) t .greeting) := by
  by_cases hshort : u.conn.clientBuffer.content.length < u.conn.greeting.nMethods.toNat
  · rw [greetingMethods_short hstate hshort]
    exact .waiting hlog (.methods hstate hmethod hcount hbytes hshort) hsel horigin
  · have hcomplete := Nat.not_lt.mp hshort
    obtain ⟨b, hb, hnext⟩ := greetingMethods_eq key hstate hmethod hcomplete
    rw [hnext]
    generalize hmethods :
      u.conn.clientBuffer.content.take u.conn.greeting.nMethods.toNat = methods at *
    have hlen : methods.length = u.conn.greeting.nMethods.toNat := by
      rw [← hmethods, List.length_take]
      omega
    have hsplit : u.conn.clientBuffer.content =
        methods ++ u.conn.clientBuffer.content.drop u.conn.greeting.nMethods.toNat := by
      rw [← hmethods, List.take_append_drop]
    have hgreeting : CompleteGreeting (bytes ++ got) methods
        (u.conn.clientBuffer.content.drop u.conn.greeting.nMethods.toNat) := by
      refine ⟨?_, ?_, ?_⟩
      · intro hnil
        rw [hnil, List.length_nil] at hlen
        exact hcount (UInt8.toNat_inj.mp hlen.symm)
      · rw [hlen]
        exact u.conn.greeting.nMethods.toNat_lt
      · rw [hlen, UInt8.ofNat_toNat, ← hsplit]
        exact hbytes
    refine .answered hlog hgreeting rfl ?_ ?_ ?_
    · change b.content = _
      rw [hb, hsplit, List.drop_append_of_le_length (scannedLength_le methods), ← hsplit]
    · change bufferWriteAll u.conn.originBuffer _ = _
      rw [horigin]
    · change (selectorSetInterest u.sel key.fd .opWrite).1 = _
      rw [hsel]

/-- The version and count block on at least two bytes. -/
theorem greetingVerNNmethods_eq {v n : UInt8} {rest : List UInt8}
    (hstate : s.conn.greeting.state = .verNNmethods)
    (hcontent : s.conn.clientBuffer.content = v :: n :: rest) :
    (v = socks5Version ∧ n ≠ 0 ∧ ∃ b, b.content = rest ∧
        greetingVerNNmethods s = .next { s with
          conn.clientBuffer := b
          conn.greeting := { s.conn.greeting with state := .methods, nMethods := n } }) ∨
      ((v ≠ socks5Version ∨ n = 0) ∧ ∃ t, greetingVerNNmethods s = .returned t .error) := by
  have hfirst := bufferRead_fst hcontent
  have hrest : (bufferRead s.conn.clientBuffer).2.content = n :: rest := by simp [hcontent]
  have hsecond := bufferRead_fst hrest
  have hlen : ¬ s.conn.clientBuffer.content.length < 2 := by simp [hcontent]
  simp only [greetingVerNNmethods, hstate, if_true, bufferReadPtr_snd, hlen, if_false, hfirst,
    hsecond]
  by_cases hv : v = socks5Version
  · by_cases hn : n = 0
    · right
      exact ⟨.inr hn, _, by simp [hv, hn]; rfl⟩
    · left
      refine ⟨hv, hn, _, ?_, by simp only [hv, hn, ne_eq, not_true_eq_false, if_false]; rfl⟩
      rw [bufferRead_content, hrest]
      rfl
  · right
    exact ⟨.inl hv, _, by simp [hv]; rfl⟩

/-- The two blocks behind the `recv` of `got`. -/
theorem greetingBlocks_case (key : SelectorKey) {b : Buffer} {got bytes : List UInt8}
    (h : GreetingReading s bytes)
    (hb : b.content = s.conn.clientBuffer.content ++ got) (hne : b.content ≠ []) :
    let u := ({ s with conn.clientBuffer := b }).act (.recv key.fd got)
    ((greetingVerNNmethods u).andThen (greetingMethods key)).All
      (fun t st => GreetingReadCase key s bytes (some got) t st)
      (fun t => GreetingReadCase key s bytes (some got) t .greeting) := by
  intro u
  cases h with
  | header hstate hmethod hcontent hshort =>
      rw [hcontent] at hb
      match hbytes : b.content with
      | [] => exact absurd hbytes hne
      | [v] =>
          have hblock : greetingVerNNmethods u = .returned u .greeting := by
            simp [greetingVerNNmethods, u, Session.act, hstate, hbytes]
          rw [hblock]
          refine .waiting rfl (.header hstate hmethod hb ?_) rfl rfl
          rw [← hb, hbytes]
          exact Nat.one_lt_two
      | v :: n :: rest =>
          rcases greetingVerNNmethods_eq (s := u) hstate hbytes with
            ⟨rfl, hn, b', hb', hnext⟩ | ⟨hbad, t, hreturned⟩
          · rw [hnext]
            refine greetingMethods_case rfl rfl rfl rfl hmethod hn ?_
            rw [← hb, hbytes]
            exact congrArg (fun rest => socks5Version :: n :: rest) hb'.symm
          · rw [hreturned]
            refine .stopped (.inl rfl) ?_
            intro methods rest'
            rw [← hb, hbytes, completeGreeting_cons_iff]
            rintro ⟨hv, hn, -⟩
            exact hbad.elim (fun h => h hv) hn
  | methods hstate hmethod hcount hbytes hshort =>
      have hblock : greetingVerNNmethods u = .next u := by
        simp [greetingVerNNmethods, u, Session.act, hstate]
      rw [hblock]
      refine greetingMethods_case rfl rfl rfl hstate hmethod hcount ?_
      rw [hbytes]
      exact congrArg (fun rest => socks5Version :: s.conn.greeting.nMethods :: rest) hb.symm

/-- `greeting_read` as a step of the decoder. -/
theorem greetingRead_cases (env : Env) (key : SelectorKey) {bytes : List UInt8}
    (h : GreetingReading s bytes) :
    GreetingReadCase key s bytes (bufferRecv s.conn.clientBuffer env.recv).1
      (greetingRead env key s).1 (greetingRead env key s).2 := by
  unfold greetingRead
  cases env.recv with
  | none => exact .failed
  | some offered =>
      obtain ⟨b, hb, -, hrecv⟩ := recvClientBuffer_some s key.fd offered
      rw [hrecv]
      dsimp only
      by_cases hempty : b.content.length = 0
      · rw [if_pos (by simpa [Session.act] using hempty)]
        exact .stopped (.inr rfl) (h.not_complete_of_nil hb (List.length_eq_zero_iff.mp hempty))
      · rw [if_neg (by simpa [Session.act] using hempty)]
        have hne : b.content ≠ [] := fun hnil => hempty (by rw [hnil, List.length_nil])
        have hblocks := greetingBlocks_case key h hb hne
        dsimp only at hblocks
        generalize (greetingVerNNmethods _).andThen (greetingMethods key) = block at hblocks ⊢
        cases block <;> exact hblocks

end Read

/-! ## One write event -/

/-- What `greeting_write` can do. -/
inductive GreetingWriteCase (key : SelectorKey) (s : Session) : Session → SocksV5State → Prop
  | failed : GreetingWriteCase key s (s.act (.sendFailed s.conn.clientFd)) .error
  | partly {b : Buffer} {sent : List UInt8}
      (hcontent : s.conn.originBuffer.content = sent ++ b.content) (hleft : b.content ≠ []) :
      GreetingWriteCase key s
        (({ s with conn.originBuffer := b }).act (.send s.conn.clientFd sent)) .greeting
  | toAuth {b : Buffer} {sent : List UInt8}
      (hcontent : s.conn.originBuffer.content = sent ++ b.content) (hleft : b.content = [])
      (hmethod : s.conn.greeting.method = authMethod) :
      GreetingWriteCase key s
        ((({ s with conn.originBuffer := b }).act (.send s.conn.clientFd sent)).setInterest
          key.fd .opRead) .auth
  | toRequest {b : Buffer} {sent : List UInt8}
      (hcontent : s.conn.originBuffer.content = sent ++ b.content) (hleft : b.content = [])
      (hmethod : s.conn.greeting.method ≠ authMethod) :
      GreetingWriteCase key s
        ((({ s with conn.originBuffer := b }).act (.send s.conn.clientFd sent)).setInterest
          key.fd .opRead) .request

theorem greetingWrite_cases (env : Env) (key : SelectorKey) (s : Session) :
    GreetingWriteCase key s (greetingWrite env key s).1 (greetingWrite env key s).2 := by
  unfold greetingWrite
  cases env.send with
  | none => exact .failed
  | some k =>
      obtain ⟨b, hb, hsend⟩ := sendOriginBuffer_some s s.conn.clientFd k
      rw [hsend]
      have hcontent : s.conn.originBuffer.content =
          s.conn.originBuffer.content.take k ++ b.content := by
        rw [hb, List.take_append_drop]
      dsimp only [Session.act]
      by_cases hread : bufferCanRead b = true
      · rw [if_pos hread]
        exact .partly hcontent (bufferCanRead_iff.mp hread)
      · have hleft : b.content = [] := by
          by_contra hne
          exact hread (bufferCanRead_iff.mpr hne)
        rw [if_neg hread]
        by_cases hmethod : s.conn.greeting.method = authMethod
        · rw [if_pos hmethod]
          exact .toAuth hcontent hleft hmethod
        · rw [if_neg hmethod]
          exact .toRequest hcontent hleft hmethod

end Socks5Proxy

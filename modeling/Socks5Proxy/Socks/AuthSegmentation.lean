import Socks5Proxy.Server.Login
import Socks5Proxy.Socks.PendingMessage
import Socks5Proxy.Socks.RequestSegmentation

/-!
# Credentials in segments

The bytes of a username and password message may be in `client_buffer` when
AUTH is entered, and arrive later in pieces of any size.  Each state of the
decoder has taken a known prefix of the message, and the buffer holds the rest
of what has arrived.
-/

namespace Socks5Proxy

open Library Library.Memory

/-! ## Messages -/

/-- A name and a password that a message can carry. -/
structure Credentials where
  username : List UInt8
  password : List UInt8
  ulen : 0 < username.length ∧ username.length < 256
  plen : 0 < password.length ∧ password.length < 256

namespace Credentials

variable (c : Credentials)

def message : List UInt8 := authMessage c.username c.password

/-- What the states before this one have taken. -/
def taken : AuthState → List UInt8
  | .authVer => []
  | .authUlen => [authVersion]
  | .authUname => [authVersion, UInt8.ofNat c.username.length]
  | .authPlen => authVersion :: encodeField c.username
  | .authPasswd => authVersion :: encodeField c.username ++ [UInt8.ofNat c.password.length]

/-- What this state takes. -/
def piece : AuthState → List UInt8
  | .authVer => [authVersion]
  | .authUlen => [UInt8.ofNat c.username.length]
  | .authUname => c.username
  | .authPlen => [UInt8.ofNat c.password.length]
  | .authPasswd => c.password

/-- The members of `struct auth_st` that later states read. -/
def Stored (auth : AuthSt) : Prop :=
  match auth.state with
  | .authVer | .authUlen => True
  | .authUname => auth.ulen = UInt8.ofNat c.username.length
  | .authPlen => credential auth.username = cString c.username
  | .authPasswd => credential auth.username = cString c.username ∧
      auth.plen = UInt8.ofNat c.password.length

theorem message_pos : 0 < c.message.length := by simp [message, authMessage]

theorem taken_piece (st : AuthState) : c.taken st ++ c.piece st <+: c.message := by
  have hmessage : c.message = authVersion :: UInt8.ofNat c.username.length ::
      (c.username ++ UInt8.ofNat c.password.length :: c.password) := rfl
  rw [hmessage]
  rcases st with _ | _ | _ | _ | _ <;> simp [taken, piece, encodeField]

theorem taken_passwd : c.taken .authPasswd ++ c.piece .authPasswd = c.message := by
  simp [taken, piece, message, authMessage, encodeField]

end Credentials

/-! ## Deliveries -/

/-- The cells behind the two arrays are as they were. -/
def AuthSt.Spares (a a' : AuthSt) : Prop :=
  ∀ i, 256 ≤ i → a'.username i = a.username i ∧ a'.password i = a.password i

/-- A connection that has entered AUTH. -/
structure AtAuth (s : Session) : Prop where
  stm : s.conn.stm = some .auth
  state : s.conn.auth.state = .authVer
  verdict : s.conn.auth.authenticated = false
  alive : s.conn.closed = false
  queue : s.conn.originBuffer.content = []
  room : 2 ≤ s.conn.originBuffer.space

/-- The bytes AUTH found in the buffer and those received since then. -/
def authBytes (entry s : Session) : List UInt8 :=
  entry.conn.clientBuffer.content ++ receivedSince entry s

/-- A read event with something to receive, which continues the message and
what follows it.  The store is one the operations can build. -/
def AuthDelivers (c : Credentials) (following : List UInt8) (entry s : Session) (e : Event) :
    Prop :=
  Enabled s e ∧ ∃ env offered ops, e = .read s.conn.clientFd env ∧
    env.recv = some offered ∧ offered ≠ [] ∧ run userStep usersInit ops = .ok env.users ∧
    authBytes entry s ++ recvReturns s env.recv <+: c.message ++ following

/-- The answer to the credentials is queued, the only one, and the rest of the
stream is unread. -/
def AuthAnswered (c : Credentials) (users : UserStore) (entry t : Session) : Prop :=
  (∃ status, t.conn.originBuffer.content = [authVersion, status] ∧
    (status = authSuccess ∨ status = authFailure) ∧
    (status = authSuccess ↔ StoredPair users (textOf c.username) (textOf c.password))) ∧
    t.conn.clientBuffer.content = (authBytes entry t).drop c.message.length ∧
    OnlyWrites t t.conn.clientFd

/-- Until the last byte of the message nothing is queued and there is room for
the rest; the event that completes the message queues the answer. -/
def AuthDecoded (c : Credentials) (users : UserStore) (entry t : Session) : Prop :=
  t.conn.stm = some .auth ∧ t.conn.closed = false ∧ entry.conn.auth.Spares t.conn.auth ∧
    if (authBytes entry t).length < c.message.length then
      t.conn.originBuffer.content = [] ∧ 0 < t.conn.clientBuffer.space
    else
      AuthAnswered c users entry t

/-! ## The blocks -/

/-- The decoder is in the middle of the message: `bytes` have arrived, `u` is
the session after the last `recv`. -/
structure Decoding (c : Credentials) (bytes : List UInt8) (u s : Session) : Prop where
  frame : ∃ b auth, s = { u with conn.clientBuffer := b, conn.auth := auth }
  taken : c.taken s.conn.auth.state ++ s.conn.clientBuffer.content = bytes
  stored : c.Stored s.conn.auth
  verdict : s.conn.auth.authenticated = false
  spares : u.conn.auth.Spares s.conn.auth
  room : u.conn.clientBuffer.space ≤ s.conn.clientBuffer.space

/-- A block that returned waits for more of the message. -/
def DecodingWaits (c : Credentials) (bytes : List UInt8) (u t : Session) (ret : SocksV5State) :
    Prop :=
  ret = .auth ∧ Decoding c bytes u t ∧ bytes.length < c.message.length

/-- A block that fell through has left the states in front of it behind. -/
def DecodingNext (c : Credentials) (bytes : List UInt8) (u : Session) (P : AuthState → Prop)
    (p : Session × ℕ) : Prop :=
  Decoding c bytes u p.1 ∧ p.2 = p.1.conn.clientBuffer.content.length ∧ P p.1.conn.auth.state

section Blocks

variable {c : Credentials} {bytes following : List UInt8} {u s : Session}

/-- The C string of a field ends within its array. -/
theorem store_field_outside (array : ℕ → UInt8) {field : List UInt8} (hlen : field.length < 256)
    {i : ℕ} (hi : 256 ≤ i) : store array 0 (field ++ [0]) i = array i := by
  apply store_apply_of_ge
  rw [List.length_append, List.length_singleton]
  omega

theorem AuthSt.Spares.trans {a a' a'' : AuthSt} (h : a.Spares a') (h' : a'.Spares a'') :
    a.Spares a'' := fun i hi =>
  ⟨(h' i hi).1.trans (h i hi).1, (h' i hi).2.trans (h i hi).2⟩

theorem Decoding.refl (htaken : c.taken s.conn.auth.state ++ s.conn.clientBuffer.content = bytes)
    (hstored : c.Stored s.conn.auth) (hverdict : s.conn.auth.authenticated = false) :
    Decoding c bytes s s :=
  ⟨⟨_, _, rfl⟩, htaken, hstored, hverdict, fun _ _ => ⟨rfl, rfl⟩, Nat.le_refl _⟩

/-- The state has not got all it asks for, so the message is incomplete. -/
theorem Decoding.short (h : Decoding c bytes u s)
    (hless : s.conn.clientBuffer.content.length < (c.piece s.conn.auth.state).length) :
    bytes.length < c.message.length := by
  have hlen := (c.taken_piece s.conn.auth.state).length_le
  rw [List.length_append] at hlen
  rw [← h.taken, List.length_append]
  omega

/-- The state finds what it asks for in front of the buffer. -/
theorem Decoding.content (h : Decoding c bytes u s) (hstream : bytes <+: c.message ++ following)
    (hle : (c.piece s.conn.auth.state).length ≤ s.conn.clientBuffer.content.length) :
    s.conn.clientBuffer.content = c.piece s.conn.auth.state ++
      s.conn.clientBuffer.content.drop (c.piece s.conn.auth.state).length := by
  have hpiece : c.taken s.conn.auth.state ++ c.piece s.conn.auth.state <+:
      c.message ++ following :=
    (c.taken_piece _).trans (List.prefix_append _ _)
  rw [← h.taken] at hstream
  have hprefix := List.prefix_of_prefix_length_le hpiece hstream (by
    rw [List.length_append, List.length_append]
    omega)
  obtain ⟨rest, hrest⟩ := (List.prefix_append_right_inj _).mp hprefix
  rw [← hrest, List.drop_left]

/-- The state takes its piece and hands over to the next one. -/
theorem Decoding.advance (h : Decoding c bytes u s) {rest : List UInt8} {b : Buffer}
    {auth : AuthSt} (hcontent : s.conn.clientBuffer.content = c.piece s.conn.auth.state ++ rest)
    (hnext : c.taken auth.state = c.taken s.conn.auth.state ++ c.piece s.conn.auth.state)
    (hb : b.content = rest) (hspace : s.conn.clientBuffer.space ≤ b.space)
    (hstored : c.Stored auth) (hverdict : auth.authenticated = false)
    (hspares : s.conn.auth.Spares auth) :
    Decoding c bytes u { s with conn.clientBuffer := b, conn.auth := auth } where
  frame := by
    obtain ⟨b', auth', rfl⟩ := h.frame
    exact ⟨b, auth, rfl⟩
  taken := by
    change c.taken auth.state ++ b.content = bytes
    rw [hnext, hb, List.append_assoc, ← hcontent, h.taken]
  stored := hstored
  verdict := hverdict
  spares := h.spares.trans hspares
  room := Nat.le_trans h.room hspace

variable (hstream : bytes <+: c.message ++ following)
include hstream

theorem authVer_decodes (h : Decoding c bytes u s) :
    (authVer s s.conn.clientBuffer.content.length).All (DecodingWaits c bytes u)
      (DecodingNext c bytes u (· ≠ .authVer)) := by
  unfold authVer
  dsimp only
  split
  · next hstate =>
      have hshort := h.short
      have hcontent := h.content hstream
      simp only [hstate, Credentials.piece, List.length_singleton] at hshort hcontent
      split
      · next hfew => exact ⟨rfl, h, hshort hfew⟩
      · next hfew =>
          have hcontent := hcontent (Nat.not_lt.mp hfew)
          rw [bufferRead_fst hcontent, if_neg (by simp)]
          refine ⟨?_, by simp, by simp⟩
          refine h.advance ?_ ?_ bufferRead_content
            space_le_bufferRead trivial h.verdict (fun _ _ => ⟨rfl, rfl⟩)
          · rw [hstate]
            exact hcontent
          · rw [hstate]
            rfl
  · next hstate => exact ⟨h, rfl, hstate⟩

theorem authUlen_decodes (h : Decoding c bytes u s) (hver : s.conn.auth.state ≠ .authVer) :
    (authUlen s s.conn.clientBuffer.content.length).All (DecodingWaits c bytes u)
      (DecodingNext c bytes u fun st => st ≠ .authVer ∧ st ≠ .authUlen) := by
  unfold authUlen
  dsimp only
  split
  · next hstate =>
      have hshort := h.short
      have hcontent := h.content hstream
      simp only [hstate, Credentials.piece, List.length_singleton] at hshort hcontent
      split
      · next hfew => exact ⟨rfl, h, hshort hfew⟩
      · next hfew =>
          have hcontent := hcontent (Nat.not_lt.mp hfew)
          rw [bufferRead_fst hcontent, if_neg (lengthByte_ne_zero c.ulen)]
          refine ⟨?_, by simp, by simp⟩
          refine h.advance ?_ ?_ bufferRead_content
            space_le_bufferRead rfl h.verdict (fun _ _ => ⟨rfl, rfl⟩)
          · rw [hstate]
            exact hcontent
          · rw [hstate]
            rfl
  · next hstate => exact ⟨h, rfl, hver, hstate⟩

theorem authUname_decodes (h : Decoding c bytes u s)
    (hlate : s.conn.auth.state ≠ .authVer ∧ s.conn.auth.state ≠ .authUlen) :
    (authUname s s.conn.clientBuffer.content.length).All (DecodingWaits c bytes u)
      (DecodingNext c bytes u fun st => st = .authPlen ∨ st = .authPasswd) := by
  unfold authUname
  dsimp only
  split
  · next hstate =>
      have hulen : s.conn.auth.ulen.toNat = c.username.length := by
        have hstored := h.stored
        simp only [Credentials.Stored, hstate] at hstored
        rw [hstored, toNat_lengthByte c.ulen.2]
      have hshort := h.short
      have hcontent := h.content hstream
      simp only [hstate, Credentials.piece] at hshort hcontent
      rw [hulen]
      split
      · next hfew => exact ⟨rfl, h, hshort hfew⟩
      · next hfew =>
          have hfew := Nat.not_lt.mp hfew
          have hcontent := hcontent hfew
          have hname : (bufferReadN c.username.length s.conn.clientBuffer).1 = c.username := by
            rw [bufferReadN_fst_of_le hfew, hcontent, List.take_left]
          rw [hname]
          refine ⟨?_, by simp [bufferReadN_snd_content], .inl rfl⟩
          refine h.advance ?_ ?_
            (bufferReadN_snd_content _ _) (space_le_bufferReadN _ _)
            (credential_store _ c.ulen.2) h.verdict
            (fun _ hi => ⟨store_field_outside _ c.ulen.2 hi, rfl⟩)
          · rw [hstate]
            exact hcontent
          · rw [hstate]
            rfl
  · next hstate =>
      refine ⟨h, rfl, ?_⟩
      rcases hcase : s.conn.auth.state with _ | _ | _ | _ | _
      · exact absurd hcase hlate.1
      · exact absurd hcase hlate.2
      · exact absurd hcase hstate
      · exact .inl rfl
      · exact .inr rfl

theorem authPlen_decodes (h : Decoding c bytes u s)
    (hlate : s.conn.auth.state = .authPlen ∨ s.conn.auth.state = .authPasswd) :
    (authPlen s s.conn.clientBuffer.content.length).All (DecodingWaits c bytes u)
      (DecodingNext c bytes u (· = .authPasswd)) := by
  unfold authPlen
  dsimp only
  split
  · next hstate =>
      have hstored := h.stored
      have hshort := h.short
      have hcontent := h.content hstream
      simp only [hstate, Credentials.Stored, Credentials.piece,
        List.length_singleton] at hstored hshort hcontent
      split
      · next hfew => exact ⟨rfl, h, hshort hfew⟩
      · next hfew =>
          have hcontent := hcontent (Nat.not_lt.mp hfew)
          rw [bufferRead_fst hcontent, if_neg (lengthByte_ne_zero c.plen)]
          refine ⟨?_, by simp, rfl⟩
          refine h.advance ?_ ?_ bufferRead_content
            space_le_bufferRead ⟨hstored, rfl⟩ h.verdict (fun _ _ => ⟨rfl, rfl⟩)
          · rw [hstate]
            exact hcontent
          · rw [hstate]
            rfl
  · next hstate => exact ⟨h, rfl, hlate.resolve_left hstate⟩

omit hstream in
/-- The check leaves its verdict in the record and one entry in the log. -/
theorem checkCredentials_eq (env : Env) (hverdict : s.conn.auth.authenticated = false) :
    ∃ status verdict, checkCredentials env s =
        ({ s with conn.auth.authenticated := verdict }).act (.authenticate status) ∧
      (verdict = true ↔ userAuthenticate env.users (credential s.conn.auth.username)
        (credential s.conn.auth.password) = .ok) := by
  have hsame : ({ s with conn.auth.authenticated := false } : Session) = s := by
    rw [← hverdict]
  unfold checkCredentials
  dsimp only
  rcases userAuthenticate_cases env.users (credential s.conn.auth.username)
    (credential s.conn.auth.password) with hok | hname | hpass
  · rw [hok]
    exact ⟨.ok, true, rfl, by simp⟩
  · rw [hname]
    exact ⟨.badUsername, false, by rw [hsame], by simp⟩
  · rw [hpass]
    exact ⟨.wrongPassword, false, by rw [hsame], by simp⟩

/-- The last block has the whole message and queues the answer. -/
structure DecodingEnds (c : Credentials) (bytes : List UInt8) (env : Env) (fd : ℤ)
    (u t : Session) : Prop where
  complete : c.message.length ≤ bytes.length
  content : t.conn.clientBuffer.content = bytes.drop c.message.length
  queue : ∃ status, t.conn.originBuffer.content =
      u.conn.originBuffer.content ++ [authVersion, status] ∧
    (status = authSuccess ∨ status = authFailure) ∧
    (status = authSuccess ↔
      userAuthenticate env.users (cString c.username) (cString c.password) = .ok)
  spares : u.conn.auth.Spares t.conn.auth
  log : ∃ status, t.log = u.log ++ [.authenticate status]
  interest : OnlyWrites t fd

theorem authPasswd_decodes (env : Env) (key : SelectorKey) (hroom : 2 ≤ u.conn.originBuffer.space)
    (h : Decoding c bytes u s) (hstate : s.conn.auth.state = .authPasswd) :
    (authPasswd env key s s.conn.clientBuffer.content.length).All (DecodingWaits c bytes u)
      (fun p => DecodingEnds c bytes env key.fd u p.1) := by
  have hstored := h.stored
  have hshort := h.short
  have hcontent := h.content hstream
  have htaken := h.taken
  simp only [hstate, Credentials.Stored, Credentials.piece] at hstored hshort hcontent htaken
  have hplen : s.conn.auth.plen.toNat = c.password.length := by
    rw [hstored.2, toNat_lengthByte c.plen.2]
  unfold authPasswd
  rw [if_pos hstate]
  dsimp only
  rw [hplen]
  split
  · next hfew => exact ⟨rfl, h, hshort hfew⟩
  · next hfew =>
      have hfew := Nat.not_lt.mp hfew
      have hcontent := hcontent hfew
      have hpassword : (bufferReadN c.password.length s.conn.clientBuffer).1 = c.password := by
        rw [bufferReadN_fst_of_le hfew, hcontent, List.take_left]
      rw [hpassword]
      have hmessage : c.message.length ≤ bytes.length := by
        rw [← c.taken_passwd, ← htaken, List.length_append, List.length_append]
        exact Nat.add_le_add_left hfew _
      obtain ⟨b, auth, hs⟩ := h.frame
      obtain ⟨status, verdict, hcheck, hverdict⟩ := checkCredentials_eq env (s := { s with
        conn.clientBuffer := (bufferReadN c.password.length s.conn.clientBuffer).2
        conn.auth.password := store s.conn.auth.password 0 (c.password ++ [0]) }) h.verdict
      rw [credential_store _ c.plen.2, hstored.1] at hverdict
      rw [hcheck]
      refine ⟨hmessage, ?_, ?_, ?_, ⟨status, ?_⟩, onlyWrites_setInterest _ _⟩
      · change (bufferReadN c.password.length s.conn.clientBuffer).2.content = _
        rw [bufferReadN_snd_content, ← htaken, ← c.taken_passwd, List.length_append,
          List.drop_length_add_append]
        rfl
      · refine ⟨if verdict then authSuccess else authFailure, ?_, ?_, ?_⟩
        · have hqueue : s.conn.originBuffer = u.conn.originBuffer := by rw [hs]
          change (bufferWriteAll s.conn.originBuffer _).content = _
          rw [hqueue, (bufferWriteAll_of_le (by simpa using hroom)).1]
          rfl
        · rcases verdict with _ | _
          · exact .inr rfl
          · exact .inl rfl
        · rw [← hverdict]
          rcases verdict with _ | _ <;> decide
      · exact h.spares.trans fun i hi => ⟨rfl, store_field_outside _ c.plen.2 hi⟩
      · have hlog : s.log = u.log := by rw [hs]
        change s.log ++ _ = _
        rw [hlog]

/-- `auth_read` waits for more of the message, or it queues the answer. -/
theorem authRead_decodes {env : Env} (key : SelectorKey) {got : List UInt8}
    (hrecv : s.recvClientBuffer key.fd env.recv = (some got, u))
    (hne : u.conn.clientBuffer.content ≠ []) (hroom : 2 ≤ u.conn.originBuffer.space)
    (h : Decoding c bytes u u) :
    DecodingWaits c bytes u (authRead env key s).1 (authRead env key s).2 ∨
      (authRead env key s).2 = .auth ∧
        DecodingEnds c bytes env key.fd u (authRead env key s).1 := by
  have hver := authVer_decodes hstream h
  have hulen := hver.andThen fun p (hp : _ ∧ _) => by
    have hblock := authUlen_decodes hstream hp.1 hp.2.2
    rw [← hp.2.1] at hblock
    exact hblock
  have huname := hulen.andThen fun p (hp : _ ∧ _) => by
    have hblock := authUname_decodes hstream hp.1 hp.2.2
    rw [← hp.2.1] at hblock
    exact hblock
  have hplen := huname.andThen fun p (hp : _ ∧ _) => by
    have hblock := authPlen_decodes hstream hp.1 hp.2.2
    rw [← hp.2.1] at hblock
    exact hblock
  have hpasswd := hplen.andThen fun p (hp : _ ∧ _) => by
    have hblock := authPasswd_decodes hstream env key hroom hp.1 hp.2.2
    rw [← hp.2.1] at hblock
    exact hblock
  have hsome : ¬ u.conn.clientBuffer.content.length = 0 := by
    rw [List.length_eq_zero_iff]
    exact hne
  unfold authRead
  rw [hrecv]
  dsimp only
  rw [bufferReadPtr_snd, if_neg hsome]
  generalize Block.andThen _ _ = b at hpasswd ⊢
  rcases b with ⟨t, ret⟩ | p
  · exact .inl hpasswd
  · exact .inr ⟨rfl, hpasswd⟩

end Blocks

/-! ## Events -/

/-- Between two read events part of the message has arrived. -/
structure AuthReading (c : Credentials) (entry s : Session) : Prop where
  stm : s.conn.stm = some .auth
  alive : s.conn.closed = false
  taken : c.taken s.conn.auth.state ++ s.conn.clientBuffer.content = authBytes entry s
  stored : c.Stored s.conn.auth
  verdict : s.conn.auth.authenticated = false
  spares : entry.conn.auth.Spares s.conn.auth
  queue : s.conn.originBuffer = entry.conn.originBuffer
  room : c.message.length ≤ (authBytes entry s).length + s.conn.clientBuffer.space
  traced : Traced entry s [] (receivedSince entry s)
  pending : s = entry ∨ (authBytes entry s).length < c.message.length

section Events

variable {c : Credentials} {following : List UInt8} {entry s : Session} {e : Event}

theorem AtAuth.reading (h : AtAuth entry)
    (hfits : c.message.length ≤
      entry.conn.clientBuffer.content.length + entry.conn.clientBuffer.space) :
    AuthReading c entry entry := by
  have hreceived := (Traced.refl entry).received
  have hbytes : authBytes entry entry = entry.conn.clientBuffer.content := by
    rw [authBytes, hreceived, List.append_nil]
  refine ⟨h.stm, h.alive, ?_, ?_, h.verdict, fun _ _ => ⟨rfl, rfl⟩, rfl, ?_, ?_, .inl rfl⟩
  · rw [hbytes, h.state]
    rfl
  · simp only [Credentials.Stored, h.state]
  · rw [hbytes]
    exact hfits
  · rw [hreceived]
    exact Traced.refl entry

/-- What one `recv` adds to the trace, whatever is logged behind it. -/
theorem AuthReading.received (h : AuthReading c entry s) {t : Session} (got : List UInt8)
    (log : List Action) (hlog : t.log = s.log ++ .recv s.conn.clientFd got :: log)
    (hfd : t.conn.clientFd = s.conn.clientFd)
    (hsilent : log = [] ∨ ∃ status, log = [.authenticate status]) :
    authBytes entry t = authBytes entry s ++ got ∧ Traced entry t [] (receivedSince entry t) := by
  have happend := h.traced.append _ hlog hfd
  have hcalls : destinationCalls (.recv s.conn.clientFd got :: log) = [] := by
    rcases hsilent with rfl | ⟨status, rfl⟩ <;> rfl
  have hbytes : bytesReceived entry.conn.clientFd (.recv s.conn.clientFd got :: log) = got := by
    rw [← h.traced.clientFd]
    rcases hsilent with rfl | ⟨status, rfl⟩ <;> simp [Action.receivedFrom]
  rw [hcalls, hbytes, List.append_nil] at happend
  have hreceived := happend.received
  rw [← hreceived] at happend
  refine ⟨?_, happend⟩
  rw [authBytes, hreceived, authBytes, List.append_assoc]

/-- There is something to decode after a `recv`. -/
theorem AuthReading.some_arrived (h : AuthReading c entry s) (hentry : AtAuth entry)
    {offered : List UInt8} (hoffered : offered ≠ []) :
    s.conn.clientBuffer.content ++ offered.take s.conn.clientBuffer.space ≠ [] := by
  intro hnil
  obtain ⟨hempty, hgot⟩ := List.append_eq_nil_iff.mp hnil
  have hfull : s.conn.clientBuffer.space = 0 :=
    (List.take_eq_nil_iff.mp hgot).resolve_right hoffered
  have hroom := h.room
  rcases h.pending with rfl | hshort
  · have htaken := h.taken
    rw [hempty, hentry.state] at htaken
    have hpos := c.message_pos
    rw [← htaken, hfull] at hroom
    exact absurd hpos (Nat.not_lt.mpr hroom)
  · omega

/-- One read event. -/
theorem AuthReading.next (h : AuthReading c entry s) (hentry : AtAuth entry)
    (hdelivers : AuthDelivers c following entry s e) :
    ∃ env t, e = .read s.conn.clientFd env ∧ step s e = .ok t ∧
      (AuthReading c entry t ∧ (authBytes entry t).length < c.message.length ∨
        OnlyWrites t t.conn.clientFd) ∧
      AuthDecoded c env.users entry t := by
  obtain ⟨-, env, offered, ops, rfl, hrecv, hoffered, hrun, hstream⟩ := hdelivers
  refine ⟨env, settle env ⟨s.conn.clientFd, s.address⟩ .auth
    (authRead env ⟨s.conn.clientFd, s.address⟩ s), rfl, ?_⟩
  rw [step_read_auth (arrived_of_some h.stm).1 h.alive]
  have hframe := authRead_frame env ⟨s.conn.clientFd, s.address⟩ s
  obtain ⟨b, hb, hspace, hu⟩ := recvClientBuffer_some s s.conn.clientFd offered
  have hgot : recvReturns s env.recv = offered.take s.conn.clientBuffer.space := by
    rw [hrecv]
    rfl
  have hsome := h.some_arrived hentry hoffered
  have hroom : 2 ≤ s.conn.originBuffer.space := by
    rw [h.queue]
    exact hentry.room
  rw [hgot] at hstream
  rw [← hrecv] at hu
  rw [← hb] at hsome
  have hdecoding : Decoding c (authBytes entry s ++ offered.take s.conn.clientBuffer.space)
      (({ s with conn.clientBuffer := b }).act
        (.recv s.conn.clientFd (offered.take s.conn.clientBuffer.space)))
      (({ s with conn.clientBuffer := b }).act
        (.recv s.conn.clientFd (offered.take s.conn.clientBuffer.space))) := by
    refine .refl ?_ h.stored h.verdict
    change c.taken s.conn.auth.state ++ b.content = _
    rw [hb, ← List.append_assoc, h.taken]
  have hends := authRead_decodes hstream ⟨s.conn.clientFd, s.address⟩ hu hsome hroom hdecoding
  generalize authRead env ⟨s.conn.clientFd, s.address⟩ s = r at hframe hends ⊢
  obtain ⟨v, ret⟩ := r
  rcases hends with ⟨hret, hwaits, hshort⟩ | ⟨hret, hanswer⟩
  · have hret : ret = .auth := hret
    subst hret
    refine ⟨finish_live (by decide) (by decide), ?_⟩
    rw [settle_stay (by decide) (by decide)]
    obtain ⟨b', auth', hv⟩ := hwaits.frame
    have hv : v = _ := hv
    obtain ⟨hbytes, htraced⟩ := h.received (t := { v with conn.stm := some .auth })
      (offered.take s.conn.clientBuffer.space) [] (by rw [hv]; rfl) hframe.clientFd (.inl rfl)
    have hqueue : v.conn.originBuffer = entry.conn.originBuffer := by
      rw [hv]
      exact h.queue
    have hspares := h.spares.trans hwaits.spares
    have hlength : c.message.length ≤ (authBytes entry s).length +
        (offered.take s.conn.clientBuffer.space).length + v.conn.clientBuffer.space := by
      have hroom := h.room
      have hmore : b.space ≤ v.conn.clientBuffer.space := hwaits.room
      rw [List.length_take]
      omega
    rw [← hbytes] at hshort
    refine ⟨.inl ⟨⟨rfl, hframe.closed.trans h.alive, hwaits.taken.trans hbytes.symm,
      hwaits.stored, hwaits.verdict, hspares, hqueue, ?_, htraced, .inr hshort⟩, hshort⟩, rfl,
      hframe.closed.trans h.alive, hspares, ?_⟩
    · rw [hbytes, List.length_append]
      exact hlength
    · rw [if_pos hshort]
      refine ⟨?_, ?_⟩
      · change v.conn.originBuffer.content = []
        rw [hqueue, hentry.queue]
      · change 0 < v.conn.clientBuffer.space
        rw [hbytes, List.length_append] at hshort
        omega
  · have hret : ret = .auth := hret
    subst hret
    refine ⟨finish_live (by decide) (by decide), ?_⟩
    rw [settle_stay (by decide) (by decide)]
    obtain ⟨status, hlog⟩ := hanswer.log
    obtain ⟨hbytes, -⟩ := h.received (t := { v with conn.stm := some .auth })
      (offered.take s.conn.clientBuffer.space) [.authenticate status]
      (by rw [hlog]; exact List.append_assoc _ _ _) hframe.clientFd (.inr ⟨status, rfl⟩)
    have hwrites : OnlyWrites { v with conn.stm := some .auth } v.conn.clientFd := by
      rw [hframe.clientFd]
      exact hanswer.interest
    have hcomplete := hanswer.complete
    rw [← hbytes] at hcomplete
    refine ⟨.inr hwrites, rfl, hframe.closed.trans h.alive, h.spares.trans hanswer.spares, ?_⟩
    rw [if_neg (Nat.not_lt.mpr hcomplete)]
    obtain ⟨answer, hqueue, hvalues, hstored⟩ := hanswer.queue
    refine ⟨⟨answer, hqueue.trans ?_, hvalues, hstored.trans ?_⟩, ?_, hwrites⟩
    · change s.conn.originBuffer.content ++ _ = _
      rw [h.queue, hentry.queue, List.nil_append]
    · exact userAuthenticate_ok_iff_storedPair (n := textOf c.username) (p := textOf c.password)
        (ordered_of_run hrun)
    · rw [hbytes]
      exact hanswer.content

/-- A connection that only writes gets no read event. -/
theorem AuthDelivers.not_onlyWrites (h : AuthDelivers c following entry s e) :
    ¬ OnlyWrites s s.conn.clientFd := by
  intro hwrites
  obtain ⟨henabled, env, offered, ops, rfl, -⟩ := h
  obtain ⟨-, i, hi, hread⟩ := henabled
  rw [hwrites i hi] at hread
  cases hread

/-- A run of read events, the last of which may have completed the message. -/
theorem AuthReading.deliver (h : AuthReading c entry entry) (hentry : AtAuth entry)
    {es : List Event} (hdelivers : Steps step (AuthDelivers c following entry) entry es) :
    ∃ s, run step entry es = .ok s ∧ (AuthReading c entry s ∨ OnlyWrites s s.conn.clientFd) := by
  refine run_no_fault (P := AuthDelivers c following entry) ?_ (.inl h) hdelivers
  intro s e hs hdelivers
  have hreading := hs.resolve_right hdelivers.not_onlyWrites
  obtain ⟨env, t, -, hstep, ht, -⟩ := hreading.next hentry hdelivers
  exact ⟨t, hstep, ht.imp_left And.left⟩

end Events

/-- Whatever pieces the message arrives in, no read event before the one that
completes it queues anything, and that one queues the answer. -/
theorem authRead_exact (c : Credentials) (following : List UInt8) {entry : Session}
    (h : AtAuth entry)
    (hfits : c.message.length ≤
      entry.conn.clientBuffer.content.length + entry.conn.clientBuffer.space)
    {es : List Event} {e : Event}
    (hdelivers : Steps step (AuthDelivers c following entry) entry (es ++ [e])) :
    ∃ s env t, run step entry es = .ok s ∧ e = .read s.conn.clientFd env ∧ step s e = .ok t ∧
      s.conn.originBuffer.content = [] ∧
      (es = [] ∨ (authBytes entry s).length < c.message.length) ∧
      AuthDecoded c env.users entry t := by
  have hreading := h.reading hfits
  obtain ⟨s, hrun, hs⟩ := hreading.deliver h hdelivers.init
  have hlast := hdelivers.last hrun
  have hs := hs.resolve_right hlast.not_onlyWrites
  obtain ⟨env, t, he, hstep, -, hdecoded⟩ := hs.next h hlast
  refine ⟨s, env, t, hrun, he, hstep, ?_, ?_, hdecoded⟩
  · rw [hs.queue, h.queue]
  · rcases List.eq_nil_or_concat es with hnil | ⟨before, e', rfl⟩
    · exact .inl hnil
    · rw [List.concat_eq_append] at hrun hdelivers
      obtain ⟨u, hu, hus⟩ := run_append_ok_iff.mp hrun
      obtain ⟨v, hstep', hv⟩ := run_cons_ok_iff.mp hus
      have hsv : v = s := Except.ok.inj hv
      subst hsv
      obtain ⟨u', hu', hreadingU⟩ := hreading.deliver h hdelivers.init.init
      have huu : u' = u := Except.ok.inj (hu'.symm.trans hu)
      subst huu
      have hprevious := hdelivers.init.last hu
      obtain ⟨-, w, -, hstepW, hw, -⟩ :=
        (hreadingU.resolve_right hprevious.not_onlyWrites).next h hprevious
      have hwv : w = v := Except.ok.inj (hstepW.symm.trans hstep')
      subst hwv
      exact .inr (hw.resolve_right hlast.not_onlyWrites).2

theorem adminName_carried : 0 < adminName.bytes.length ∧ adminName.bytes.length < 256 := by decide

/-- The credentials of the default administrator. -/
def adminCredentials : Credentials where
  username := adminName.bytes
  password := adminName.bytes
  ulen := adminName_carried
  plen := adminName_carried

/-- A greeting with the first three bytes of the message behind it, and its
answer. -/
def greetingAndName : List Event :=
  [.read 4 (receives [0x05, 0x01, 0x02, 0x01, 0x05, 97]), .write 4 (sends 2)]

/-- The rest of the message in two segments, the second with a byte behind it. -/
theorem authRead_exact_admin :
    ∃ s env t, run step (firstSessionAfter greetingAndName)
        [.read 4 (loginSegment [100, 109, 105, 110, 5, 97])] = .ok s ∧
      .read 4 (loginSegment [100, 109, 105, 110, 255]) = Event.read s.conn.clientFd env ∧
      step s (.read 4 (loginSegment [100, 109, 105, 110, 255])) = .ok t ∧
      s.conn.originBuffer.content = [] ∧
      ([Event.read 4 (loginSegment [100, 109, 105, 110, 5, 97])] = [] ∨
        (authBytes (firstSessionAfter greetingAndName) s).length <
          adminCredentials.message.length) ∧
      AuthDecoded adminCredentials env.users (firstSessionAfter greetingAndName) t := by
  have hfirst : step (firstSessionAfter greetingAndName)
        (.read 4 (loginSegment [100, 109, 105, 110, 5, 97])) =
      .ok (firstSessionAfter
        (greetingAndName ++ [.read 4 (loginSegment [100, 109, 105, 110, 5, 97])])) :=
    step_firstSession (by decide +kernel)
  have husers (bytes : List UInt8) : (loginSegment bytes).users = usersInit := rfl
  have hfd : (firstSessionAfter greetingAndName).conn.clientFd = 4 := by decide +kernel
  have hfd' : (firstSessionAfter
      (greetingAndName ++ [.read 4 (loginSegment [100, 109, 105, 110, 5, 97])])).conn.clientFd =
        4 := by
    decide +kernel
  have hdelivers : AuthDelivers adminCredentials [255] (firstSessionAfter greetingAndName)
      (firstSessionAfter greetingAndName) (.read 4 (loginSegment [100, 109, 105, 110, 5, 97])) := by
    refine ⟨by decide +kernel, loginSegment _, _, [], by rw [hfd], rfl, by decide, ?_, ?_⟩
    · rw [husers]
      rfl
    · decide +kernel
  have hdelivers' : AuthDelivers adminCredentials [255] (firstSessionAfter greetingAndName)
      (firstSessionAfter (greetingAndName ++ [.read 4 (loginSegment [100, 109, 105, 110, 5, 97])]))
      (.read 4 (loginSegment [100, 109, 105, 110, 255])) := by
    refine ⟨by decide +kernel, loginSegment _, _, [], by rw [hfd'], rfl, by decide, ?_, ?_⟩
    · rw [husers]
      rfl
    · decide +kernel
  refine authRead_exact adminCredentials [255] ⟨?_, ?_, ?_, ?_, ?_, ?_⟩ ?_
    ((Steps.single hdelivers).append (run_cons_ok_iff.mpr ⟨_, hfirst, rfl⟩) (.single hdelivers'))
  · decide +kernel
  · decide +kernel
  · decide +kernel
  · decide +kernel
  · decide +kernel
  · decide +kernel
  · decide +kernel

end Socks5Proxy

import Socks5Proxy.Pam.AuthReading
import Socks5Proxy.Socks.AuthSegmentation

/-!
# Management credentials in segments

The first block of `pam_auth_read` wants three bytes and tests the free part of
the buffer for them; a shorter first segment is turned down.  After that the
message may arrive in pieces of any size.
-/

namespace Socks5Proxy

open Library Library.Memory

/-! ## Deliveries -/

/-- Read events for `fd` whose `recv` returns the bytes, in pieces. -/
inductive PamDelivers (fd : ℤ) : List UInt8 → List PamEvent → Prop
  | nil : PamDelivers fd [] []
  | cons {chunk rest : List UInt8} {env : PamEnv} {es : List PamEvent}
      (hrecv : env.recv = some chunk) (hne : chunk ≠ []) (hrest : PamDelivers fd rest es) :
      PamDelivers fd (chunk ++ rest) (.read fd env :: es)

theorem PamDelivers.eq_nil {fd : ℤ} {es : List PamEvent} (h : PamDelivers fd [] es) : es = [] := by
  generalize hbytes : ([] : List UInt8) = bytes at h
  rcases h with _ | ⟨-, hne, -⟩
  · rfl
  · exact absurd (List.append_eq_nil_iff.mp hbytes.symm).1 hne

namespace Credentials

variable (c : Credentials)

/-- `VER NUSER NPASS USER PASS`. -/
def pamMessage : List UInt8 := pamAuthMessage c.username c.password

/-- The bytes in front of the name. -/
def pamHeader : List UInt8 :=
  [pamVersion1, UInt8.ofNat c.username.length, UInt8.ofNat c.password.length]

theorem pamMessage_eq : c.pamMessage = c.pamHeader ++ (c.username ++ c.password) := rfl

theorem length_pamMessage :
    c.pamMessage.length = 3 + (c.username.length + c.password.length) := by
  rw [pamMessage_eq, List.length_append, List.length_append]
  rfl

end Credentials

/-- The decoder is behind the header and has `bytes` of the message: in the
block of the name or in that of the password. -/
structure PamDecoding (c : Credentials) (memory : ℕ → UInt8) (named : Prop) (bytes : List UInt8)
    (s : PamSession) : Prop where
  nUser : s.conn.auth.nUser = UInt8.ofNat c.username.length
  nPass : s.conn.auth.nPass = UInt8.ofNat c.password.length
  started : bytes <+: c.pamMessage
  name : ¬ named → s.conn.auth.state = .username ∧ s.conn.auth.credentials = memory ∧
    c.pamHeader ++ s.conn.clientBuffer.content = bytes
  pass : named → s.conn.auth.state = .pass ∧
    s.conn.auth.credentials = store memory 0 (c.username ++ [0]) ∧
    c.pamHeader ++ (c.username ++ s.conn.clientBuffer.content) = bytes
  room : c.pamMessage.length ≤ bytes.length + s.conn.clientBuffer.space

/-- The name has arrived. -/
def Credentials.Named (c : Credentials) (bytes : List UInt8) : Prop :=
  3 + c.username.length ≤ bytes.length

section Blocks

variable {c : Credentials} {memory : ℕ → UInt8} {bytes chunk : List UInt8} {named : Prop}
  {s : PamSession} {key : SelectorKey}

theorem PamDecoding.received (h : PamDecoding c memory named bytes s) (fd : ℤ)
    (hmore : bytes ++ chunk <+: c.pamMessage) :
    PamDecoding c memory named (bytes ++ chunk) (s.received fd chunk) := by
  have hlen := hmore.length_le
  have hroom := h.room
  rw [List.length_append] at hlen
  have htake : chunk.take s.conn.clientBuffer.space = chunk := List.take_of_length_le (by omega)
  refine ⟨h.nUser, h.nPass, hmore, ?_, ?_, ?_⟩
  · intro hname
    obtain ⟨hstate, hmemory, hbytes⟩ := h.name hname
    refine ⟨hstate, hmemory, ?_⟩
    rw [received_content, htake, ← List.append_assoc, hbytes]
  · intro hpass
    obtain ⟨hstate, hmemory, hbytes⟩ := h.pass hpass
    refine ⟨hstate, hmemory, ?_⟩
    rw [received_content, htake, ← List.append_assoc, ← List.append_assoc, ← hbytes,
      List.append_assoc c.pamHeader]
  · rw [received_space, List.length_append]
    omega

theorem pamAuthUsername_named (h : PamDecoding c memory named bytes s) (hnamed : named) :
    pamAuthUsername s = .next s := by
  have hstate : s.conn.auth.state ≠ .username := by
    rw [(h.pass hnamed).1]
    decide
  rw [pamAuthUsername, if_neg hstate]

theorem pamAuthUsername_waits (h : PamDecoding c memory named bytes s) (hnamed : ¬ named)
    (hshort : ¬ c.Named bytes) : pamAuthUsername s = .returned s .auth := by
  obtain ⟨hstate, -, hbytes⟩ := h.name hnamed
  have hlen : s.conn.clientBuffer.content.length < c.username.length := by
    rw [Credentials.Named, ← hbytes, List.length_append] at hshort
    change ¬ 3 + _ ≤ 3 + _ at hshort
    omega
  rw [pamAuthUsername, if_pos hstate, h.nUser, toNat_lengthByte c.ulen.2, bufferReadPtr_snd,
    if_pos hlen]

/-- The name is stored. -/
theorem pamAuthUsername_stores (h : PamDecoding c memory named bytes s) (hnamed : ¬ named)
    (hlong : c.Named bytes) :
    ∃ x, pamAuthUsername s = .next x ∧ PamAuthReading s x ∧ PamDecoding c memory True bytes x := by
  obtain ⟨hstate, hmemory, hbytes⟩ := h.name hnamed
  obtain ⟨rest, hrest⟩ : ∃ rest, s.conn.clientBuffer.content = c.username ++ rest := by
    have hprefix : s.conn.clientBuffer.content <+: c.username ++ c.password := by
      have hstarted := h.started
      rw [c.pamMessage_eq, ← hbytes] at hstarted
      exact (List.prefix_append_right_inj c.pamHeader).mp hstarted
    have hlen : c.username.length ≤ s.conn.clientBuffer.content.length := by
      rw [Credentials.Named, ← hbytes, List.length_append] at hlong
      change 3 + _ ≤ 3 + _ at hlong
      omega
    obtain ⟨rest, hrest⟩ := List.prefix_of_prefix_length_le (List.prefix_append _ _) hprefix hlen
    exact ⟨rest, hrest.symm⟩
  have hnUser : s.conn.auth.nUser.toNat = c.username.length := by
    rw [h.nUser, toNat_lengthByte c.ulen.2]
  have htaken : (bufferReadN c.username.length s.conn.clientBuffer).1 = c.username := by
    rw [bufferReadN_fst_of_le (by rw [hrest]; simp), hrest, List.take_left]
  have henough : ¬ s.conn.clientBuffer.content.length < c.username.length := by
    rw [hrest, List.length_append]
    omega
  refine ⟨{ s with
    conn.clientBuffer := (bufferReadN c.username.length s.conn.clientBuffer).2
    conn.auth.credentials := store s.conn.auth.credentials 0 (c.username ++ [0])
    conn.auth.state := .pass }, ?_, .of_conn (bufferReadN_limit _ _), h.nUser, h.nPass, h.started,
    fun hnot => absurd trivial hnot, fun _ => ⟨rfl, ?_, ?_⟩, ?_⟩
  · rw [pamAuthUsername, if_pos hstate, hnUser, bufferReadPtr_snd, if_neg henough]
    dsimp only
    rw [htaken]
  · rw [← hmemory]
  · rw [← hbytes]
    change c.pamHeader ++
      (c.username ++ (bufferReadN c.username.length s.conn.clientBuffer).2.content) = _
    rw [bufferReadN_snd_content, hrest, List.drop_left]
  · have hroom := h.room
    have hspace := space_le_bufferReadN c.username.length s.conn.clientBuffer
    change _ ≤ bytes.length + (bufferReadN c.username.length s.conn.clientBuffer).2.space
    omega

/-- Once the name has arrived, it is behind the reader. -/
theorem pamAuthUsername_passes (h : PamDecoding c memory named bytes s) (hlong : c.Named bytes) :
    ∃ x, pamAuthUsername s = .next x ∧ PamAuthReading s x ∧ PamDecoding c memory True bytes x := by
  by_cases hold : named
  · rw [eq_true hold] at h
    exact ⟨s, pamAuthUsername_named h trivial, .refl s, h⟩
  · exact pamAuthUsername_stores h hold hlong

theorem pamAuthPass_waits (h : PamDecoding c memory True bytes s)
    (hshort : bytes.length < c.pamMessage.length) : pamAuthPass key s = .returned s .auth := by
  obtain ⟨hstate, -, hbytes⟩ := h.pass trivial
  have hlen : s.conn.clientBuffer.content.length < c.password.length := by
    rw [c.length_pamMessage, ← hbytes, List.length_append, List.length_append] at hshort
    change 3 + _ < 3 + _ at hshort
    omega
  rw [pamAuthPass, if_pos hstate, h.nPass, toNat_lengthByte c.plen.2, bufferReadPtr_snd,
    if_pos hlen]

variable (key) in
/-- The password is stored, and the strings are checked. -/
theorem pamAuthPass_checks (h : PamDecoding c memory True bytes s)
    (hcomplete : bytes = c.pamMessage) :
    ∃ x, pamAuthPass key s = .next (x.checked key) ∧ PamAuthReading s x ∧
      x.conn.auth.credentials = pamCredentials memory c.username c.password := by
  obtain ⟨hstate, hmemory, hbytes⟩ := h.pass trivial
  have hcontent : s.conn.clientBuffer.content = c.password := by
    rw [hcomplete, c.pamMessage_eq, List.append_cancel_left_eq, List.append_cancel_left_eq]
      at hbytes
    exact hbytes
  have hnPass : s.conn.auth.nPass.toNat = c.password.length := by
    rw [h.nPass, toNat_lengthByte c.plen.2]
  have htaken : (bufferReadN c.password.length s.conn.clientBuffer).1 = c.password := by
    rw [bufferReadN_fst_of_le (by rw [hcontent]), hcontent, List.take_length]
  have henough : ¬ s.conn.clientBuffer.content.length < c.password.length := by
    rw [hcontent]
    exact Nat.lt_irrefl _
  refine ⟨{ s with
    conn.clientBuffer := (bufferReadN c.password.length s.conn.clientBuffer).2
    conn.auth.credentials :=
      store s.conn.auth.credentials pamAuthUsernameMaxLenght (c.password ++ [0]) }, ?_,
    .of_conn (bufferReadN_limit _ _), ?_⟩
  · rw [pamAuthPass, if_pos hstate, hnPass, bufferReadPtr_snd, if_neg henough]
    dsimp only
    rw [htaken, pamCheckCredentials_eq]
  · rw [hmemory]
    rfl

theorem Credentials.Named.mono (h : c.Named bytes) : c.Named (bytes ++ chunk) := by
  rw [Credentials.Named, List.length_append]
  exact h.trans (Nat.le_add_right _ _)

/-- The two blocks behind the header, after `recv`: part of the message waits
for the rest. -/
theorem pamAuthStrings_waits (key : SelectorKey) (h : PamDecoding c memory named bytes s)
    (hnamed : named → c.Named bytes) (hshort : bytes.length < c.pamMessage.length) :
    ∃ x, (pamAuthUsername s).andThen (pamAuthPass key) = .returned x .auth ∧ PamAuthReading s x ∧
      PamDecoding c memory (c.Named bytes) bytes x := by
  by_cases hlong : c.Named bytes
  · obtain ⟨x, hname, hreading, hx⟩ := pamAuthUsername_passes h hlong
    rw [hname, Block.andThen_next, pamAuthPass_waits hx hshort, eq_true hlong]
    exact ⟨x, rfl, hreading, hx⟩
  · have hold : ¬ named := fun hold => hlong (hnamed hold)
    rw [pamAuthUsername_waits h hold hlong, Block.andThen_returned, eq_false hlong]
    rw [eq_false hold] at h
    exact ⟨s, rfl, .refl s, h⟩

/-- The whole message is checked. -/
theorem pamAuthStrings_checks (key : SelectorKey) (h : PamDecoding c memory named bytes s)
    (hcomplete : bytes = c.pamMessage) :
    ∃ x, (pamAuthUsername s).andThen (pamAuthPass key) = .next (x.checked key) ∧
      PamAuthReading s x ∧
      x.conn.auth.credentials = pamCredentials memory c.username c.password := by
  have hlong : c.Named bytes := by
    rw [Credentials.Named, hcomplete, c.length_pamMessage]
    omega
  obtain ⟨y, hname, hreading, hy⟩ := pamAuthUsername_passes h hlong
  obtain ⟨x, hchecks, hreading', hcredentials⟩ := pamAuthPass_checks key hy hcomplete
  rw [hname, Block.andThen_next]
  exact ⟨x, hchecks, hreading.trans hreading', hcredentials⟩

theorem pamAuthVerNNuserNNpass_space {t : PamSession} (h : pamAuthVerNNuserNNpass s = .next t) :
    s.conn.clientBuffer.space ≤ t.conn.clientBuffer.space := by
  have hread : ∀ b : Buffer, b.space ≤ (bufferRead b).2.space := fun b => space_le_bufferRead
  unfold pamAuthVerNNuserNNpass at h
  dsimp only at h
  split_ifs at h
  · obtain rfl := Block.next.inj h
    exact (hread _).trans ((hread _).trans (hread _))
  · obtain rfl := Block.next.inj h
    exact Nat.le_refl _

/-- A first segment of three bytes or more has the header. -/
theorem pamAuthVerNNuserNNpass_decodes (hawaits : AwaitsPamCredentials s) (fd : ℤ)
    (hmore : chunk <+: c.pamMessage) (hheader : 3 ≤ chunk.length) :
    ∃ x, pamAuthVerNNuserNNpass (s.received fd chunk) = .next x ∧
      PamAuthReading (s.received fd chunk) x ∧
      PamDecoding c s.conn.auth.credentials False chunk x := by
  have hlen := hmore.length_le
  have hulen := c.ulen.2
  have hplen := c.plen.2
  rw [c.length_pamMessage] at hlen
  obtain ⟨rest, hrest⟩ : ∃ rest, chunk = c.pamHeader ++ rest := by
    have hstarts : c.pamHeader <+: c.pamMessage := by
      rw [c.pamMessage_eq]
      exact List.prefix_append _ _
    obtain ⟨rest, hrest⟩ := List.prefix_of_prefix_length_le hstarts hmore hheader
    exact ⟨rest, hrest.symm⟩
  have htake : chunk.take s.conn.clientBuffer.space = chunk := by
    rw [hawaits.space, pamBufferSize]
    exact List.take_of_length_le (by omega)
  have hcontent : (s.received fd chunk).conn.clientBuffer.content = pamVersion1 ::
      UInt8.ofNat c.username.length :: UInt8.ofNat c.password.length :: rest := by
    rw [received_content, hawaits.empty, htake, hrest]
    rfl
  have hspace : (s.received fd chunk).conn.clientBuffer.space = 65536 - chunk.length := by
    rw [received_space, hawaits.space, pamBufferSize]
  obtain ⟨x, ⟨htaken, hauth, -, -⟩, hx⟩ := pamAuthVerNNuserNNpass_next
    (s := s.received fd chunk) hawaits.state (by rw [hspace]; omega) hcontent
    (lengthByte_ne_zero c.ulen) (lengthByte_ne_zero c.plen)
  have hreads := pamAuthVerNNuserNNpass_reads (s := s.received fd chunk)
  rw [hx] at hreads
  refine ⟨x, hx, hreads, by rw [hauth], by rw [hauth], hmore, fun _ => ⟨by rw [hauth], ?_, ?_⟩,
    fun hfalse => hfalse.elim, ?_⟩
  · rw [hauth]
    rfl
  · rw [htaken, hrest]
  · have hmore := pamAuthVerNNuserNNpass_space hx
    rw [c.length_pamMessage]
    omega

end Blocks

/-! ## Events -/

/-- A connection that waits for the first byte of its credentials. -/
structure AtPamAuth (s : PamSession) : Prop where
  state : s.state = .auth
  freed : s.freed = false
  awaits : AwaitsPamCredentials s.arrived

/-- Nothing but `recv` has been called since `entry`. -/
structure PamAuthKept (entry s : PamSession) : Prop where
  freed : s.freed = false
  users : s.users = entry.users
  request : s.conn.request = entry.conn.request
  limit : s.conn.clientBuffer.limit = entry.conn.clientBuffer.limit
  calls : ∀ action ∈ s.log, action ∈ entry.log ∨ action.Receives

/-- Between two read events `bytes`, part of the message, have arrived. -/
structure PamAuthHeld (c : Credentials) (memory : ℕ → UInt8) (entry : PamSession)
    (bytes : List UInt8) (s : PamSession) : Prop where
  stm : s.conn.stm = some .auth
  kept : PamAuthKept entry s
  decoding : PamDecoding c memory (c.Named bytes) bytes s

/-- The message has been checked with what the two arrays hold. -/
def PamAuthChecked (c : Credentials) (memory : ℕ → UInt8) (entry : PamSession) (fd : ℤ)
    (t : PamSession) : Prop :=
  ∃ (x : PamSession) (data : ℕ), PamAuthKept entry x ∧
    x.conn.auth.credentials = pamCredentials memory c.username c.password ∧
    t = { x.checked ⟨fd, data⟩ with conn.stm := some .auth }

section Events

variable {c : Credentials} {memory : ℕ → UInt8} {entry s : PamSession} {bytes chunk : List UInt8}
  {fd : ℤ} {env : PamEnv}

/-- What the blocks behind the header make of the event. -/
theorem pamAuthRead_andThen {u x : PamSession} (key : SelectorKey)
    (hrecv : env.recv = some chunk) (hgot : chunk.take s.conn.clientBuffer.space ≠ [])
    (hu : s.received key.fd chunk = u) (hheader : pamAuthVerNNuserNNpass u = .next x) :
    pamAuthRead env key s =
      match (pamAuthUsername x).andThen (pamAuthPass key) with
      | .returned y ret => (y, ret)
      | .next y => (y, .auth) := by
  obtain ⟨byte, more, hcons⟩ := List.exists_cons_of_ne_nil hgot
  unfold pamAuthRead
  rw [recvClientBuffer_received s key.fd hrecv, hcons, hu]
  dsimp only
  have hblocks : ((pamAuthVerNNuserNNpass u).andThen pamAuthUsername).andThen (pamAuthPass key) =
      (pamAuthUsername x).andThen (pamAuthPass key) := by
    rw [hheader, Block.andThen_next]
  generalize ((pamAuthVerNNuserNNpass u).andThen pamAuthUsername).andThen (pamAuthPass key) = b
    at hblocks ⊢
  subst hblocks
  rfl

theorem PamAuthKept.reading {x : PamSession} (h : PamAuthKept entry s)
    (hreading : PamAuthReading s x) : PamAuthKept entry x where
  freed := hreading.freed.trans h.freed
  users := hreading.users.trans h.users
  request := hreading.request.trans h.request
  limit := hreading.limit.trans h.limit
  calls := fun action haction => by
    rcases hreading.calls action haction with hold | hnew
    · exact h.calls action hold
    · exact .inr hnew

theorem PamAuthKept.received (h : PamAuthKept entry s) (fd : ℤ) (chunk : List UInt8) :
    PamAuthKept entry (s.received fd chunk) :=
  h.reading (.recvClientBuffer fd (some chunk))

theorem pamStep_read_auth (hstate : s.state = .auth) (hfreed : s.freed = false) :
    pamStep s (.read fd env) =
      pamSettle env ⟨fd, s.address⟩ .auth (pamAuthRead env ⟨fd, s.address⟩ s.arrived) := by
  rw [pamStep_read hfreed, pamRead_auth hstate]

/-- A read event, from the session behind the header on. -/
theorem pamAuth_decodes {u x : PamSession} {named : Prop} (hstate : s.state = .auth)
    (hfreed : s.freed = false) (hrecv : env.recv = some chunk)
    (hgot : chunk.take s.arrived.conn.clientBuffer.space ≠ [])
    (hu : s.arrived.received fd chunk = u) (hheader : pamAuthVerNNuserNNpass u = .next x)
    (hdecoding : PamDecoding c memory named bytes x) (hnamed : named → c.Named bytes)
    (hkept : PamAuthKept entry x) :
    (bytes.length < c.pamMessage.length →
      ∃ t, pamStep s (.read fd env) = .ok t ∧ PamAuthHeld c memory entry bytes t) ∧
      (bytes = c.pamMessage →
        ∃ t, pamStep s (.read fd env) = .ok t ∧ PamAuthChecked c memory entry fd t) := by
  rw [pamStep_read_auth hstate hfreed,
    pamAuthRead_andThen ⟨fd, s.address⟩ hrecv hgot hu hheader]
  constructor
  · intro hshort
    obtain ⟨y, hends, hreading, hy⟩ :=
      pamAuthStrings_waits ⟨fd, s.address⟩ hdecoding hnamed hshort
    rw [hends]
    dsimp only
    rw [pamSettle_stay (by decide) (by decide)]
    obtain ⟨hfreed, husers, hrequest, hlimit, hcalls⟩ := hkept.reading hreading
    exact ⟨_, rfl, rfl, ⟨hfreed, husers, hrequest, hlimit, hcalls⟩,
      ⟨hy.nUser, hy.nPass, hy.started, hy.name, hy.pass, hy.room⟩⟩
  · intro hcomplete
    obtain ⟨y, hends, hreading, hy⟩ :=
      pamAuthStrings_checks ⟨fd, s.address⟩ hdecoding hcomplete
    rw [hends]
    dsimp only
    rw [pamSettle_stay (by decide) (by decide)]
    exact ⟨_, rfl, y, s.address, hkept.reading hreading, hy, rfl⟩

/-- The arrival in PAM_AUTH leaves the arrays. -/
theorem AtPamAuth.arrived (h : AtPamAuth s) :
    PamAuthKept s s.arrived ∧ s.arrived.conn.auth.credentials = s.conn.auth.credentials := by
  unfold PamSession.arrived
  split
  · exact ⟨⟨h.freed, rfl, rfl, rfl, fun _ haction => .inl haction⟩, rfl⟩
  · exact ⟨⟨h.freed, rfl, rfl, rfl, fun _ haction => .inl haction⟩, rfl⟩

theorem AtPamAuth.takes (h : AtPamAuth s) (hmore : chunk <+: c.pamMessage)
    (hheader : 3 ≤ chunk.length) : chunk.take s.arrived.conn.clientBuffer.space ≠ [] := by
  have hlen := hmore.length_le
  have hulen := c.ulen.2
  have hplen := c.plen.2
  rw [c.length_pamMessage] at hlen
  rw [h.awaits.space, pamBufferSize, List.take_of_length_le (by omega)]
  exact List.ne_nil_of_length_pos (by omega)

variable (fd) in
/-- The first read event, if it brings the header. -/
theorem AtPamAuth.read (h : AtPamAuth s) (hrecv : env.recv = some chunk)
    (hmore : chunk <+: c.pamMessage) (hheader : 3 ≤ chunk.length) :
    (chunk.length < c.pamMessage.length →
      ∃ t, pamStep s (.read fd env) = .ok t ∧
        PamAuthHeld c s.conn.auth.credentials s chunk t) ∧
      (chunk = c.pamMessage →
        ∃ t, pamStep s (.read fd env) = .ok t ∧
          PamAuthChecked c s.conn.auth.credentials s fd t) := by
  obtain ⟨x, hx, hreading, hdecoding⟩ := pamAuthVerNNuserNNpass_decodes h.awaits fd hmore hheader
  rw [h.arrived.2] at hdecoding
  exact pamAuth_decodes h.state h.freed hrecv (h.takes hmore hheader) rfl hx hdecoding
    (fun hfalse => hfalse.elim) ((h.arrived.1.received fd chunk).reading hreading)

theorem pamAuthVerNNuserNNpass_passes (h : s.conn.auth.state ≠ .verNNuserNNpass) :
    pamAuthVerNNuserNNpass s = .next s := by
  rw [pamAuthVerNNuserNNpass, if_neg h]

/-- What a later read event finds. -/
theorem PamAuthHeld.reads (h : PamAuthHeld c memory entry bytes s) (hne : chunk ≠ [])
    (hmore : bytes ++ chunk <+: c.pamMessage) :
    s.state = .auth ∧ s.arrived = s ∧ chunk.take s.arrived.conn.clientBuffer.space ≠ [] ∧
      ∀ fd, (s.received fd chunk).conn.auth.state ≠ .verNNuserNNpass := by
  have harrived : s.arrived = s := by rw [PamSession.arrived, h.stm]
  have hroom := h.decoding.room
  have hlen := hmore.length_le
  rw [List.length_append] at hlen
  refine ⟨?_, harrived, ?_, fun fd => ?_⟩
  · rw [PamSession.state, h.stm]
    rfl
  · rw [harrived, List.take_of_length_le (by omega)]
    exact hne
  · rw [received_auth]
    by_cases hnamed : c.Named bytes
    · rw [(h.decoding.pass hnamed).1]
      decide
    · rw [(h.decoding.name hnamed).1]
      decide

variable (fd) in
/-- A later read event. -/
theorem PamAuthHeld.read (h : PamAuthHeld c memory entry bytes s) (hrecv : env.recv = some chunk)
    (hne : chunk ≠ []) (hmore : bytes ++ chunk <+: c.pamMessage) :
    ((bytes ++ chunk).length < c.pamMessage.length →
      ∃ t, pamStep s (.read fd env) = .ok t ∧
        PamAuthHeld c memory entry (bytes ++ chunk) t) ∧
      (bytes ++ chunk = c.pamMessage →
        ∃ t, pamStep s (.read fd env) = .ok t ∧ PamAuthChecked c memory entry fd t) := by
  obtain ⟨hstate, harrived, hgot, hbehind⟩ := h.reads hne hmore
  exact pamAuth_decodes hstate h.kept.freed hrecv hgot (by rw [harrived])
    (pamAuthVerNNuserNNpass_passes (hbehind fd)) (h.decoding.received fd hmore)
    (fun hnamed => hnamed.mono) (h.kept.received fd chunk)

/-- Whatever pieces the rest of the message comes in, it is checked as a
whole. -/
theorem PamAuthHeld.deliver {rest : List UInt8} {es : List PamEvent}
    (h : PamAuthHeld c memory entry bytes s) (hdelivers : PamDelivers fd rest es)
    (hmessage : bytes ++ rest = c.pamMessage) (hpending : rest ≠ []) :
    ∃ t, run pamStep s es = .ok t ∧ PamAuthChecked c memory entry fd t := by
  induction hdelivers generalizing s bytes with
  | nil => exact absurd rfl hpending
  | @cons chunk rest env es hrecv hne hrest ih =>
      rw [← List.append_assoc] at hmessage
      obtain ⟨hwaits, hchecks⟩ :=
        h.read fd hrecv hne (by rw [← hmessage]; exact List.prefix_append _ _)
      by_cases hlast : rest = []
      · subst hlast
        rw [List.append_nil] at hmessage
        obtain ⟨t, hstep, ht⟩ := hchecks hmessage
        obtain rfl := hrest.eq_nil
        exact ⟨t, run_cons_ok_iff.mpr ⟨t, hstep, rfl⟩, ht⟩
      · have hshort : (bytes ++ chunk).length < c.pamMessage.length := by
          rw [← hmessage, (List.length_append : (bytes ++ chunk ++ rest).length = _)]
          have := List.length_pos_of_ne_nil hlast
          omega
        obtain ⟨u, hstep, hu⟩ := hwaits hshort
        obtain ⟨t, hrun, ht⟩ := ih hu hmessage hlast
        exact ⟨t, run_cons_ok_iff.mpr ⟨u, hstep, hrun⟩, ht⟩

end Events

end Socks5Proxy

import Socks5Proxy.Pam.Auth
import Socks5Proxy.Pam.Handover

/-!
# How PAM_AUTH decodes a complete message

The arrays of the name and the password have 255 cells each and lie side by
side, so a name of 255 bytes runs on into the password.
-/

namespace Socks5Proxy

open Library Library.Memory

/-- `VER NUSER NPASS USER PASS`. -/
def pamAuthMessage (username password : List UInt8) : List UInt8 :=
  pamVersion1 :: UInt8.ofNat username.length :: UInt8.ofNat password.length ::
    (username ++ password)

/-- The connection waits for the credentials. -/
structure AwaitsPamCredentials (s : PamSession) : Prop where
  state : s.conn.auth.state = .verNNuserNNpass
  empty : s.conn.clientBuffer.content = []
  space : s.conn.clientBuffer.space = pamBufferSize

/-- So it is when PAM_AUTH is entered. -/
theorem awaitsPamCredentials_of_arrival {s : PamSession}
    (hempty : s.conn.clientBuffer.content = [])
    (hspace : s.conn.clientBuffer.space = pamBufferSize) :
    AwaitsPamCredentials (pamAuthArrival s) :=
  ⟨rfl, hempty, hspace⟩

/-- The two arrays after the name and the password have been stored. -/
def pamCredentials (memory : ℕ → UInt8) (username password : List UInt8) : ℕ → UInt8 :=
  store (store memory 0 (username ++ [0])) pamAuthUsernameMaxLenght (password ++ [0])

section Strings

variable {c : Pam} {memory : ℕ → UInt8} {username password : List UInt8}

theorem pass_pamCredentials (h : c.auth.credentials = pamCredentials memory username password)
    (hlen : password.length < 256) : c.pass = cString password := by
  unfold Pam.pass
  rw [h]
  exact cString_slice_store _ _ hlen

/-- A name that leaves room for its terminator is not touched by the
password. -/
theorem username_pamCredentials (h : c.auth.credentials = pamCredentials memory username password)
    (hlen : username.length < 255) : c.username = cString username := by
  obtain ⟨k, hk⟩ := Nat.exists_eq_add_of_lt hlen
  have hname := slice_store_same memory 0 (username ++ [0])
  rw [List.length_append, List.length_singleton] at hname
  unfold Pam.username
  rw [h, pamCredentials, pamAuthUsernameMaxLenght, Nat.add_assoc, slice_add,
    slice_store_of_le _ _ (by omega), hk, show username.length + k + 1 = username.length + 1 + k by
      omega, slice_add, hname, List.append_assoc, List.append_assoc, List.singleton_append]
  exact cString_terminated _ _

/-- A name that fills its array runs on into the password. -/
theorem username_pamCredentials_of_full
    (h : c.auth.credentials = pamCredentials memory username password)
    (hlen : username.length = 255) : ∃ rest, c.username = cString (username ++ rest) := by
  have hname := slice_store_same memory 0 (username ++ [0])
  rw [List.length_append, List.length_singleton] at hname
  have hcells : slice (store memory 0 (username ++ [0])) 0 username.length = username := by
    rw [← take_slice _ 0 (Nat.le_succ username.length), hname, List.take_left]
  unfold Pam.username
  rw [h, pamCredentials, pamAuthUsernameMaxLenght, Nat.add_assoc, slice_add,
    slice_store_of_le _ _ (by omega), ← hlen, hcells]
  exact ⟨_, rfl⟩

end Strings

/-! ## The reader -/

section Message

variable {s : PamSession} {rest : List UInt8}

/-- A block has taken what is in front of `rest` and left the record `auth`. -/
def PamTakesOver (s : PamSession) (auth : PamAuthSt) (rest : List UInt8) (t : PamSession) :
    Prop :=
  t.conn.clientBuffer.content = rest ∧ t.conn.auth = auth ∧ t.users = s.users ∧
    t.conn.clientBuffer.limit = s.conn.clientBuffer.limit

theorem pamAuthVerNNuserNNpass_next {nUser nPass : UInt8}
    (hstate : s.conn.auth.state = .verNNuserNNpass) (hspace : 3 ≤ s.conn.clientBuffer.space)
    (hcontent : s.conn.clientBuffer.content = pamVersion1 :: nUser :: nPass :: rest)
    (huser : nUser ≠ 0) (hpass : nPass ≠ 0) :
    ∃ t, PamTakesOver s
        { s.conn.auth with nUser := nUser, nPass := nPass, state := .username } rest t ∧
      pamAuthVerNNuserNNpass s = .next t := by
  have hver : (bufferRead s.conn.clientBuffer).1 = pamVersion1 := bufferRead_fst hcontent
  have hsecond : (bufferRead s.conn.clientBuffer).2.content = nUser :: nPass :: rest := by
    simp [hcontent]
  have hnUser := bufferRead_fst hsecond
  have hthird : (bufferRead (bufferRead s.conn.clientBuffer).2).2.content = nPass :: rest := by
    simp [hcontent]
  have hnPass := bufferRead_fst hthird
  refine ⟨{ s with
    conn.clientBuffer := (bufferRead (bufferRead (bufferRead s.conn.clientBuffer).2).2).2
    conn.auth.nUser := nUser
    conn.auth.nPass := nPass
    conn.auth.state := .username }, ⟨by simp [hcontent], rfl, rfl, by simp⟩, ?_⟩
  simp [pamAuthVerNNuserNNpass, hstate, hver, hnUser, hnPass, huser, hpass,
    Nat.not_lt.mpr hspace]

theorem pamAuthUsername_next {username : List UInt8} (hstate : s.conn.auth.state = .username)
    (hulen : s.conn.auth.nUser.toNat = username.length)
    (hcontent : s.conn.clientBuffer.content = username ++ rest) :
    ∃ t, PamTakesOver s
        { s.conn.auth with
          credentials := store s.conn.auth.credentials 0 (username ++ [0])
          state := .pass } rest t ∧
      pamAuthUsername s = .next t := by
  have hbytes : (bufferReadN username.length s.conn.clientBuffer).1 = username := by
    rw [bufferReadN_fst_of_le (by rw [hcontent]; simp), hcontent, List.take_left]
  have henough : username.length ≤ s.conn.clientBuffer.content.length := by simp [hcontent]
  refine ⟨{ s with
    conn.clientBuffer := (bufferReadN username.length s.conn.clientBuffer).2
    conn.auth.credentials := store s.conn.auth.credentials 0 (username ++ [0])
    conn.auth.state := .pass }, ⟨?_, rfl, rfl, bufferReadN_limit _ _⟩, ?_⟩
  · change (bufferReadN username.length s.conn.clientBuffer).2.content = rest
    rw [bufferReadN_snd_content, hcontent, List.drop_left]
  · simp [pamAuthUsername, hstate, hulen, hbytes, Nat.not_lt.mpr henough]

/-- The verdict of `user_authenticate` as the status of the answer. -/
def pamVerdict (store : UserStore) (c : Pam) : UInt8 :=
  if userAuthenticate store c.username c.pass = .ok then pamAuthSuccess else pamAuthFailure

theorem pamAuthStatus_userAuthenticate (store : UserStore) (c : Pam) :
    pamAuthStatus (userAuthenticate store c.username c.pass) = some (pamVerdict store c) := by
  unfold pamVerdict
  rcases userAuthenticate_cases store c.username c.pass with hok | hname | hpass
  · rw [hok, if_pos rfl]
    rfl
  · rw [hname]
    rfl
  · rw [hpass]
    rfl

/-- The answer to the credentials. -/
theorem pamAuthPass_answer (key : SelectorKey) {password : List UInt8}
    (hstate : s.conn.auth.state = .pass) (hplen : s.conn.auth.nPass.toNat = password.length)
    (hcontent : s.conn.clientBuffer.content = password)
    (hlimit : 2 ≤ s.conn.clientBuffer.limit) :
    ∃ t c, pamAuthPass key s = .next t ∧
      c.auth.credentials =
        store s.conn.auth.credentials pamAuthUsernameMaxLenght (password ++ [0]) ∧
      t.conn.clientBuffer.content = [pamVersion1, pamVerdict s.users c] := by
  have hsplit : bufferReadN password.length s.conn.clientBuffer =
      (password, (bufferReadN password.length s.conn.clientBuffer).2) := by
    refine Prod.ext ?_ rfl
    rw [bufferReadN_fst_of_le (by rw [hcontent]), hcontent, List.take_length]
  have hbuffer := bufferReadN_limit password.length s.conn.clientBuffer
  generalize (bufferReadN password.length s.conn.clientBuffer).2 = buffer at hsplit hbuffer
  have henough : ¬ s.conn.clientBuffer.content.length < password.length := by rw [hcontent]; omega
  generalize hu : ({ s with
    conn.clientBuffer := buffer
    conn.auth.credentials :=
      store s.conn.auth.credentials pamAuthUsernameMaxLenght (password ++ [0]) } : PamSession) = u
  have huusers : u.users = s.users := by rw [← hu]
  have hulimit : u.conn.clientBuffer.limit = s.conn.clientBuffer.limit := by
    rw [← hu]
    exact hbuffer
  have hpass : pamAuthPass key s = pamCheckCredentials key u := by
    rw [pamAuthPass, if_pos hstate, bufferReadPtr_snd, hplen, if_neg henough, hsplit]
    dsimp only
    rw [hu]
  rw [hpass, pamCheckCredentials]
  dsimp only
  rw [pamAuthStatus_userAuthenticate]
  refine ⟨_, u.conn, rfl, by rw [← hu], ?_⟩
  change (bufferWriteAll (bufferReset u.conn.clientBuffer) _).content = _
  rw [(bufferWriteAll_of_le (by simpa [hulimit] using hlimit)).1, bufferReset_content, huusers]
  rfl

/-- A message that arrives at once is answered with what `user_authenticate`
says of the strings in the arrays. -/
theorem pamAuthRead_message {env : PamEnv} (h : AwaitsPamCredentials s) (key : SelectorKey)
    {username password : List UInt8} (hulen : 0 < username.length ∧ username.length < 256)
    (hplen : 0 < password.length ∧ password.length < 256)
    (hrecv : env.recv = some (pamAuthMessage username password)) :
    ∃ c, c.auth.credentials = pamCredentials s.conn.auth.credentials username password ∧
      (pamAuthRead env key s).1.conn.clientBuffer.content =
        [pamVersion1, pamVerdict s.users c] := by
  have hubyte := toNat_lengthByte hulen.2
  have hpbyte := toNat_lengthByte hplen.2
  have hune := lengthByte_ne_zero hulen
  have hpne := lengthByte_ne_zero hplen
  have hsize : (pamAuthMessage username password).length =
      username.length + password.length + 3 := by simp [pamAuthMessage]
  have htake : (pamAuthMessage username password).take s.conn.clientBuffer.space =
      pamAuthMessage username password := by
    rw [h.space]
    exact List.take_of_length_le (by rw [hsize, pamBufferSize]; omega)
  have hroom := s.conn.clientBuffer.length_content_add_space
  rw [h.space, pamBufferSize] at hroom
  generalize hv : ({ s with conn.clientBuffer := (bufferRecv s.conn.clientBuffer
    (some (pamAuthMessage username password))).2 } : PamSession).act
    (.recv key.fd (pamAuthMessage username password)) = v
  have hrecvd : s.recvClientBuffer key.fd env.recv =
      (some (pamAuthMessage username password), v) := by
    rw [hrecv, pamRecvClientBuffer_some, htake, hv]
  have hvcontent : v.conn.clientBuffer.content = pamAuthMessage username password := by
    rw [← hv]
    change (bufferRecv _ _).2.content = _
    rw [bufferRecv_some_content, h.empty, htake, List.nil_append]
  have hvspace : 3 ≤ v.conn.clientBuffer.space := by
    rw [← hv]
    change 3 ≤ (bufferRecv _ _).2.space
    rw [bufferRecv_some_space, h.space, hsize, pamBufferSize]
    omega
  have hvlimit : v.conn.clientBuffer.limit = s.conn.clientBuffer.limit := by
    rw [← hv]
    exact bufferRecv_limit _
  have hvauth : v.conn.auth = s.conn.auth := by rw [← hv]; rfl
  have hvusers : v.users = s.users := by rw [← hv]; rfl
  obtain ⟨t₁, ⟨hrest₁, hauth₁, husers₁, hlimit₁⟩, h₁⟩ := pamAuthVerNNuserNNpass_next (s := v)
    (by rw [hvauth, h.state]) hvspace hvcontent hune hpne
  obtain ⟨t₂, ⟨hrest₂, hauth₂, husers₂, hlimit₂⟩, h₂⟩ := pamAuthUsername_next (s := t₁)
    (by rw [hauth₁]) (by rw [hauth₁]; exact hubyte) hrest₁
  obtain ⟨t, c, h₃, hcredentials, hanswer⟩ := pamAuthPass_answer key (s := t₂) (by rw [hauth₂])
    (by rw [hauth₂, hauth₁]; exact hpbyte) hrest₂
    (by rw [hlimit₂, hlimit₁, hvlimit]; omega)
  refine ⟨c, ?_, ?_⟩
  · rw [hcredentials, hauth₂, hauth₁, hvauth]
    rfl
  · rw [husers₂, husers₁, hvusers] at hanswer
    obtain ⟨first, more, hcons⟩ : ∃ first more, pamAuthMessage username password = first :: more :=
      ⟨_, _, rfl⟩
    rw [pamAuthRead, hrecvd, hcons]
    dsimp only
    rw [h₁, Block.andThen_next, h₂, Block.andThen_next, h₃]
    exact hanswer

end Message

end Socks5Proxy

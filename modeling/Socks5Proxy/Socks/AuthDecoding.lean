import Socks5Proxy.Library.Framing
import Socks5Proxy.Socks.Auth
import Socks5Proxy.Socks.Trace

/-!
# How AUTH decodes the bytes it has received
-/

namespace Socks5Proxy

open Library Library.Memory

/-! ## One write event -/

/-- What `auth_write` can do. -/
inductive AuthWriteCase (key : SelectorKey) (s : Session) : Session → SocksV5State → Prop
  | failed : AuthWriteCase key s (s.act (.sendFailed s.conn.clientFd)) .error
  | partly {b : Buffer} {sent : List UInt8}
      (hcontent : s.conn.originBuffer.content = sent ++ b.content) (hleft : b.content ≠ []) :
      AuthWriteCase key s
        (({ s with conn.originBuffer := b }).act (.send s.conn.clientFd sent)) .auth
  | refused {b : Buffer} {sent : List UInt8}
      (hcontent : s.conn.originBuffer.content = sent ++ b.content) (hleft : b.content = [])
      (hverdict : s.conn.auth.authenticated = false) :
      AuthWriteCase key s
        (({ s with conn.originBuffer := b }).act (.send s.conn.clientFd sent)) .error
  | toRequest {b : Buffer} {sent : List UInt8}
      (hcontent : s.conn.originBuffer.content = sent ++ b.content) (hleft : b.content = [])
      (hverdict : s.conn.auth.authenticated = true) :
      AuthWriteCase key s
        ((({ s with conn.originBuffer := b }).act (.send s.conn.clientFd sent)).setInterest
          key.fd .opRead) .request

theorem authWrite_cases (env : Env) (key : SelectorKey) (s : Session) :
    AuthWriteCase key s (authWrite env key s).1 (authWrite env key s).2 := by
  unfold authWrite
  cases env.send with
  | none => exact .failed
  | some k =>
      obtain ⟨b, hb, hsend⟩ := sendOriginBuffer_some s s.conn.clientFd k
      rw [hsend]
      have hcontent : s.conn.originBuffer.content =
          s.conn.originBuffer.content.take k ++ b.content := by
        rw [hb, List.take_append_drop]
      dsimp only [Session.act]
      by_cases hread : bufferCanRead b = true
      · rw [if_pos hread]
        exact .partly hcontent (bufferCanRead_iff.mp hread)
      · have hleft : b.content = [] := by
          by_contra hne
          exact hread (bufferCanRead_iff.mpr hne)
        rw [if_neg hread]
        cases hverdict : s.conn.auth.authenticated with
        | false => exact .refused hcontent hleft hverdict
        | true => exact .toRequest hcontent hleft hverdict

/-! ## A complete message -/

/-- `VER ULEN UNAME PLEN PASSWD`. -/
def authMessage (username password : List UInt8) : List UInt8 :=
  authVersion :: (encodeField username ++ encodeField password)

/-- The connection waits for the credentials. -/
structure AwaitsCredentials (s : Session) : Prop where
  state : s.conn.auth.state = .authVer
  verdict : s.conn.auth.authenticated = false
  empty : s.conn.clientBuffer.content = []
  space : bufferSizeDefault ≤ s.conn.clientBuffer.space
  originEmpty : s.conn.originBuffer.content = []
  originSpace : 2 ≤ s.conn.originBuffer.space

section Message

variable {s : Session} {rest : List UInt8} {toRead : ℕ}

/-- A block has taken what is in front of `rest` and left the record `auth`. -/
def TakesOver (s : Session) (auth : AuthSt) (rest : List UInt8) (t : Session) : Prop :=
  t.conn.clientBuffer.content = rest ∧ t.conn.auth = auth ∧
    t.conn.originBuffer = s.conn.originBuffer

theorem authVer_next (hstate : s.conn.auth.state = .authVer) (hread : 1 ≤ toRead)
    (hcontent : s.conn.clientBuffer.content = authVersion :: rest) :
    ∃ t, TakesOver s { s.conn.auth with state := .authUlen } rest t ∧
      authVer s toRead = .next (t, toRead - 1) := by
  have hver : (bufferRead s.conn.clientBuffer).1 = authVersion := bufferRead_fst hcontent
  have hfew : ¬ toRead < 1 := by omega
  refine ⟨{ s with
    conn.clientBuffer := (bufferRead s.conn.clientBuffer).2
    conn.auth.state := .authUlen }, ⟨by simp [hcontent], rfl, rfl⟩, ?_⟩
  simp [authVer, hstate, hver, hfew]

theorem authUlen_next {ulen : UInt8} (hstate : s.conn.auth.state = .authUlen) (hread : 1 ≤ toRead)
    (hcontent : s.conn.clientBuffer.content = ulen :: rest) (hulen : ulen ≠ 0) :
    ∃ t, TakesOver s { s.conn.auth with ulen := ulen, state := .authUname } rest t ∧
      authUlen s toRead = .next (t, toRead - 1) := by
  have hbyte : (bufferRead s.conn.clientBuffer).1 = ulen := bufferRead_fst hcontent
  have hfew : ¬ toRead < 1 := by omega
  refine ⟨{ s with
    conn.clientBuffer := (bufferRead s.conn.clientBuffer).2
    conn.auth.ulen := ulen
    conn.auth.state := .authUname }, ⟨by simp [hcontent], rfl, rfl⟩, ?_⟩
  simp [authUlen, hstate, hbyte, hfew, hulen]

theorem authUname_next {username : List UInt8} (hstate : s.conn.auth.state = .authUname)
    (hulen : s.conn.auth.ulen.toNat = username.length) (hread : username.length ≤ toRead)
    (hcontent : s.conn.clientBuffer.content = username ++ rest) :
    ∃ t, TakesOver s
        { s.conn.auth with
          username := store s.conn.auth.username 0 (username ++ [0])
          state := .authPlen } rest t ∧
      authUname s toRead = .next (t, toRead - username.length) := by
  have hbytes : (bufferReadN username.length s.conn.clientBuffer).1 = username := by
    rw [bufferReadN_fst_of_le (by rw [hcontent]; simp), hcontent, List.take_left]
  have hfew : ¬ toRead < username.length := by omega
  refine ⟨{ s with
    conn.clientBuffer := (bufferReadN username.length s.conn.clientBuffer).2
    conn.auth.username := store s.conn.auth.username 0 (username ++ [0])
    conn.auth.state := .authPlen }, ⟨?_, rfl, rfl⟩, ?_⟩
  · change (bufferReadN username.length s.conn.clientBuffer).2.content = rest
    rw [bufferReadN_snd_content, hcontent, List.drop_left]
  · simp [authUname, hstate, hulen, hbytes, hfew]

theorem authPlen_next {plen : UInt8} (hstate : s.conn.auth.state = .authPlen) (hread : 1 ≤ toRead)
    (hcontent : s.conn.clientBuffer.content = plen :: rest) (hplen : plen ≠ 0) :
    ∃ t, TakesOver s { s.conn.auth with plen := plen, state := .authPasswd } rest t ∧
      authPlen s toRead = .next (t, toRead - 1) := by
  have hbyte : (bufferRead s.conn.clientBuffer).1 = plen := bufferRead_fst hcontent
  have hfew : ¬ toRead < 1 := by omega
  refine ⟨{ s with
    conn.clientBuffer := (bufferRead s.conn.clientBuffer).2
    conn.auth.plen := plen
    conn.auth.state := .authPasswd }, ⟨by simp [hcontent], rfl, rfl⟩, ?_⟩
  simp [authPlen, hstate, hbyte, hfew, hplen]

theorem checkCredentials_spec (env : Env) (hverdict : s.conn.auth.authenticated = false) :
    (checkCredentials env s).conn.originBuffer = s.conn.originBuffer ∧
      ((checkCredentials env s).conn.auth.authenticated = true ↔
        userAuthenticate env.users (credential s.conn.auth.username)
          (credential s.conn.auth.password) = .ok) := by
  unfold checkCredentials
  dsimp only
  rcases userAuthenticate_cases env.users (credential s.conn.auth.username)
    (credential s.conn.auth.password) with hok | hname | hpass
  · rw [hok]
    exact ⟨rfl, by simp⟩
  · rw [hname]
    exact ⟨rfl, by simpa [Session.act] using hverdict⟩
  · rw [hpass]
    exact ⟨rfl, by simpa [Session.act] using hverdict⟩

/-- The answer to the credentials. -/
theorem authPasswd_answer (env : Env) (key : SelectorKey) {password : List UInt8}
    (hstate : s.conn.auth.state = .authPasswd)
    (hplen : s.conn.auth.plen.toNat = password.length) (hread : password.length ≤ toRead)
    (hcontent : s.conn.clientBuffer.content = password)
    (hverdict : s.conn.auth.authenticated = false)
    (horigin : s.conn.originBuffer.content = []) (hspace : 2 ≤ s.conn.originBuffer.space) :
    ∃ t n, authPasswd env key s toRead = .next (t, n) ∧
      t.conn.originBuffer.content = [authVersion,
        if userAuthenticate env.users (credential s.conn.auth.username)
          (credential (store s.conn.auth.password 0 (password ++ [0]))) = .ok
        then authSuccess else authFailure] := by
  have hsplit : bufferReadN password.length s.conn.clientBuffer =
      (password, (bufferReadN password.length s.conn.clientBuffer).2) := by
    refine Prod.ext ?_ rfl
    rw [bufferReadN_fst_of_le (by rw [hcontent]), hcontent, List.take_length]
  generalize (bufferReadN password.length s.conn.clientBuffer).2 = buffer at hsplit
  have hfew : ¬ toRead < password.length := by omega
  generalize hu : ({ s with
    conn.clientBuffer := buffer
    conn.auth.password := store s.conn.auth.password 0 (password ++ [0]) } : Session) = u
  have huverdict : u.conn.auth.authenticated = false := by rw [← hu]; exact hverdict
  have husername : u.conn.auth.username = s.conn.auth.username := by rw [← hu]
  have hupassword : u.conn.auth.password = store s.conn.auth.password 0 (password ++ [0]) := by
    rw [← hu]
  obtain ⟨hbuffer, hcheck⟩ := checkCredentials_spec env huverdict
  rw [husername, hupassword] at hcheck
  have horiginBuffer : (checkCredentials env u).conn.originBuffer = s.conn.originBuffer := by
    rw [hbuffer, ← hu]
  refine ⟨((checkCredentials env u).writeOriginBuffer [authVersion,
    if (checkCredentials env u).conn.auth.authenticated then authSuccess
    else authFailure]).setInterest key.fd .opWrite, toRead - password.length, ?_, ?_⟩
  · rw [authPasswd, if_pos hstate, hplen, if_neg hfew, hsplit]
    dsimp only
    rw [hu]
  · change (bufferWriteAll (checkCredentials env u).conn.originBuffer _).content = _
    rw [horiginBuffer, (bufferWriteAll_of_le (by simpa using hspace)).1, horigin,
      List.nil_append]
    simp only [hcheck]

/-- The C string that `uname` and `passwd` become in their arrays. -/
theorem credential_store (array : ℕ → UInt8) {bytes : List UInt8} (hlen : bytes.length < 256) :
    credential (store array 0 (bytes ++ [0])) = cString bytes :=
  cString_slice_store array 0 hlen

/-- The five blocks on a complete message. -/
theorem authBlocks_message (env : Env) (key : SelectorKey) {username password : List UInt8}
    (hulen : 0 < username.length ∧ username.length < 256)
    (hplen : 0 < password.length ∧ password.length < 256)
    (hstate : s.conn.auth.state = .authVer) (hverdict : s.conn.auth.authenticated = false)
    (hcontent : s.conn.clientBuffer.content = authMessage username password)
    (horigin : s.conn.originBuffer.content = []) (hspace : 2 ≤ s.conn.originBuffer.space)
    (hread : toRead = username.length + password.length + 3) :
    ∃ t n, ((((authVer s toRead).andThen fun (s, toRead) => authUlen s toRead).andThen
        fun (s, toRead) => authUname s toRead).andThen
        fun (s, toRead) => authPlen s toRead).andThen
        (fun (s, toRead) => authPasswd env key s toRead) = .next (t, n) ∧
      t.conn.originBuffer.content = [authVersion,
        if userAuthenticate env.users (cString username) (cString password) = .ok
        then authSuccess else authFailure] := by
  have hubyte := toNat_lengthByte hulen.2
  have hpbyte := toNat_lengthByte hplen.2
  have hune := lengthByte_ne_zero hulen
  have hpne := lengthByte_ne_zero hplen
  obtain ⟨t₁, ⟨hrest₁, hauth₁, horigin₁⟩, h₁⟩ :=
    authVer_next hstate (by omega : 1 ≤ toRead) hcontent
  obtain ⟨t₂, ⟨hrest₂, hauth₂, horigin₂⟩, h₂⟩ := authUlen_next (s := t₁) (by rw [hauth₁])
    (by omega : 1 ≤ toRead - 1) hrest₁ hune
  obtain ⟨t₃, ⟨hrest₃, hauth₃, horigin₃⟩, h₃⟩ := authUname_next (s := t₂) (by rw [hauth₂])
    (by rw [hauth₂]; exact hubyte) (by omega : username.length ≤ toRead - 1 - 1) hrest₂
  obtain ⟨t₄, ⟨hrest₄, hauth₄, horigin₄⟩, h₄⟩ := authPlen_next (s := t₃) (by rw [hauth₃])
    (by omega : 1 ≤ toRead - 1 - 1 - username.length) hrest₃ hpne
  have horiginBuffer : t₄.conn.originBuffer = s.conn.originBuffer := by
    rw [horigin₄, horigin₃, horigin₂, horigin₁]
  obtain ⟨t, n, h₅, hanswer⟩ := authPasswd_answer env key (s := t₄) (by rw [hauth₄])
    (by rw [hauth₄]; exact hpbyte)
    (by omega : password.length ≤ toRead - 1 - 1 - username.length - 1) hrest₄
    (by rw [hauth₄, hauth₃, hauth₂, hauth₁]; exact hverdict) (by rw [horiginBuffer, horigin])
    (by rw [horiginBuffer]; exact hspace)
  refine ⟨t, n, ?_, ?_⟩
  · simp only [h₁, h₂, h₃, h₄, h₅, Block.andThen_next]
  · rw [hanswer, credential_store _ hplen.2, hauth₄, hauth₃]
    rw [credential_store _ hulen.2]

/-- A message that arrives at once is answered with what `user_authenticate`
says of the strings in it. -/
theorem authRead_message {env : Env} (h : AwaitsCredentials s) (key : SelectorKey)
    {username password : List UInt8} (hulen : 0 < username.length ∧ username.length < 256)
    (hplen : 0 < password.length ∧ password.length < 256)
    (hrecv : env.recv = some (authMessage username password)) :
    (authRead env key s).1.conn.originBuffer.content = [authVersion,
      if userAuthenticate env.users (cString username) (cString password) = .ok
      then authSuccess else authFailure] := by
  have hsize : (authMessage username password).length = username.length + password.length + 3 := by
    simp [authMessage, encodeField]
    omega
  have htake : (authMessage username password).take s.conn.clientBuffer.space =
      authMessage username password := by
    have hspace := h.space
    refine List.take_of_length_le ?_
    rw [hsize]
    rw [bufferSizeDefault] at hspace
    omega
  obtain ⟨received, hcontent, -, hrecvd⟩ :=
    recvClientBuffer_some s key.fd (authMessage username password)
  rw [h.empty, htake, List.nil_append] at hcontent
  rw [htake] at hrecvd
  generalize hv : ({ s with conn.clientBuffer := received } : Session).act
    (.recv key.fd (authMessage username password)) = v at hrecvd
  have hvcontent : v.conn.clientBuffer.content = authMessage username password := by
    rw [← hv]
    exact hcontent
  have hvauth : v.conn.auth = s.conn.auth := by rw [← hv]; rfl
  have hvorigin : v.conn.originBuffer = s.conn.originBuffer := by rw [← hv]; rfl
  obtain ⟨t, n, hblocks, hanswer⟩ := authBlocks_message env key (s := v) hulen hplen
    (by rw [hvauth, h.state]) (by rw [hvauth, h.verdict]) hvcontent
    (by rw [hvorigin, h.originEmpty]) (by rw [hvorigin]; exact h.originSpace) hsize
  rw [authRead, hrecv, hrecvd]
  dsimp only
  rw [bufferReadPtr_snd, hvcontent, if_neg (by omega), hblocks]
  exact hanswer

end Message

end Socks5Proxy

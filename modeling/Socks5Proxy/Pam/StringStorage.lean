import Socks5Proxy.Pam.AuthSegmentation
import Socks5Proxy.Pam.Accepted
import Socks5Proxy.Pam.LocalArrays

/-!
# Names and passwords in their arrays

Five decoders copy a field into an array of 255 cells and put the terminator
behind it.  A field of 255 bytes leaves no cell for the terminator: the store
is out of bounds, and a name in the connection record runs on into the
password.
-/

namespace Socks5Proxy

open Library Library.Memory

/-! ## The arrays of the connection record -/

/-- The block USERNAME over an array that ends; `none` when it writes behind
the array. -/
def pamAuthUsernameChecked (s : PamSession) : Option (PamBlock PamSession) :=
  if s.conn.auth.state = .username then
    let toRead := (bufferReadPtr s.conn.clientBuffer).2
    let nUser := s.conn.auth.nUser.toNat
    if toRead < nUser then
      some (.returned s .auth)
    else
      let (bytes, buffer) := bufferReadN nUser s.conn.clientBuffer
      (storeWithin pamAuthUsernameMaxLenght s.conn.auth.credentials 0 (bytes ++ [0])).map
        fun credentials => .next
          { s with
            conn.clientBuffer := buffer
            conn.auth.credentials := credentials
            conn.auth.state := .pass }
  else
    some (.next s)

/-- The block PASS over an array that ends. -/
def pamAuthPassChecked (key : SelectorKey) (s : PamSession) : Option (PamBlock PamSession) :=
  if s.conn.auth.state = .pass then
    let toRead := (bufferReadPtr s.conn.clientBuffer).2
    let nPass := s.conn.auth.nPass.toNat
    if toRead < nPass then
      some (.returned s .auth)
    else
      let (bytes, buffer) := bufferReadN nPass s.conn.clientBuffer
      (storeWithin (pamAuthUsernameMaxLenght + pamAuthPassMaxLenght) s.conn.auth.credentials
          pamAuthUsernameMaxLenght (bytes ++ [0])).map
        fun credentials => pamCheckCredentials key
          { s with
            conn.clientBuffer := buffer
            conn.auth.credentials := credentials }
  else
    some (.next s)

/-- `pam_auth_read` over arrays that end. -/
def pamAuthReadChecked (env : PamEnv) (key : SelectorKey) (s : PamSession) :
    Option (PamSession × PamState) :=
  let (readn, s) := s.recvClientBuffer key.fd env.recv
  match readn with
  | none => some (s, .error)
  | some [] => some (s, .done)
  | some (_ :: _) =>
    match pamAuthVerNNuserNNpass s with
    | .returned s ret => some (s, ret)
    | .next s =>
      match pamAuthUsernameChecked s with
      | none => none
      | some (.returned s ret) => some (s, ret)
      | some (.next s) =>
        match pamAuthPassChecked key s with
        | none => none
        | some (.returned s ret) => some (s, ret)
        | some (.next s) => some (s, .auth)

/-- A read event of PAM_AUTH writes inside the two arrays only. -/
def StoresInBounds (s : PamSession) : PamEvent → Prop
  | .read fd env => s.freed = false → s.state = .auth →
      pamAuthReadChecked env ⟨fd, s.address⟩ s.arrived ≠ none
  | _ => True

/-- Every store of the run is in bounds, and what `user_authenticate` is called
with, and `auth.username` later, are the strings the client sent. -/
def AuthStringsStored (username password : List UInt8) (s : PamSession) (es : List PamEvent) :
    Prop :=
  Steps pamStep StoresInBounds s es ∧
    ∀ t, run pamStep s es = .ok t → ∀ name pass status,
      .authenticate name pass status ∈ t.log → .authenticate name pass status ∈ s.log ∨
        name = cString username ∧ pass = cString password ∧ t.conn.username = name

section Checked

variable {c : Credentials} {memory : ℕ → UInt8} {bytes chunk : List UInt8} {named : Prop}
  {s x : PamSession} {key : SelectorKey} {env : PamEnv}

/-- The block stores, and the terminator is in the array. -/
theorem pamAuthUsernameChecked_of_lt (h : s.conn.auth.nUser.toNat < 255) :
    pamAuthUsernameChecked s = some (pamAuthUsername s) := by
  unfold pamAuthUsernameChecked pamAuthUsername
  dsimp only
  split_ifs
  · rfl
  · rw [storeWithin_of_le]
    · rfl
    · rw [List.length_append, length_bufferReadN_fst, List.length_singleton,
        pamAuthUsernameMaxLenght]
      omega
  · rfl

/-- What the checked block returns is what the block returns. -/
theorem pamAuthUsernameChecked_eq {b : PamBlock PamSession}
    (h : pamAuthUsernameChecked s = some b) : pamAuthUsername s = b := by
  unfold pamAuthUsernameChecked at h
  unfold pamAuthUsername
  dsimp only at h ⊢
  split_ifs at h ⊢
  · exact Option.some.inj h
  · obtain ⟨m, hm, rfl⟩ := Option.map_eq_some_iff.mp h
    rw [storeWithin_eq_store hm]
  · exact Option.some.inj h

theorem pamAuthUsernameChecked_eq_none (hstate : s.conn.auth.state = .username)
    (henough : s.conn.auth.nUser.toNat ≤ s.conn.clientBuffer.content.length)
    (hfull : ¬ s.conn.auth.nUser.toNat < 255) : pamAuthUsernameChecked s = none := by
  unfold pamAuthUsernameChecked
  rw [if_pos hstate, bufferReadPtr_snd, if_neg (Nat.not_lt.mpr henough)]
  dsimp only
  rw [storeWithin_of_lt]
  · rfl
  · rw [List.length_append, length_bufferReadN_fst, List.length_singleton,
      pamAuthUsernameMaxLenght]
    omega

/-- Nothing is stored. -/
theorem pamAuthUsernameChecked_of_idle
    (h : s.conn.auth.state = .username → s.conn.clientBuffer.content.length <
      s.conn.auth.nUser.toNat) : pamAuthUsernameChecked s = some (pamAuthUsername s) := by
  unfold pamAuthUsernameChecked pamAuthUsername
  dsimp only
  split_ifs with hstate hshort
  · rfl
  · rw [bufferReadPtr_snd] at hshort
    exact absurd (h hstate) hshort
  · rfl

theorem pamAuthPassChecked_of_lt (h : s.conn.auth.nPass.toNat < 255) :
    pamAuthPassChecked key s = some (pamAuthPass key s) := by
  unfold pamAuthPassChecked pamAuthPass
  dsimp only
  split_ifs
  · rfl
  · rw [storeWithin_of_le]
    · rfl
    · rw [List.length_append, length_bufferReadN_fst, List.length_singleton,
        pamAuthUsernameMaxLenght, pamAuthPassMaxLenght]
      omega
  · rfl

theorem pamAuthPassChecked_eq {b : PamBlock PamSession}
    (h : pamAuthPassChecked key s = some b) : pamAuthPass key s = b := by
  unfold pamAuthPassChecked at h
  unfold pamAuthPass
  dsimp only at h ⊢
  split_ifs at h ⊢
  · exact Option.some.inj h
  · obtain ⟨m, hm, rfl⟩ := Option.map_eq_some_iff.mp h
    rw [storeWithin_eq_store hm]
  · exact Option.some.inj h

theorem pamAuthPassChecked_eq_none (hstate : s.conn.auth.state = .pass)
    (henough : s.conn.auth.nPass.toNat ≤ s.conn.clientBuffer.content.length)
    (hfull : ¬ s.conn.auth.nPass.toNat < 255) : pamAuthPassChecked key s = none := by
  unfold pamAuthPassChecked
  rw [if_pos hstate, bufferReadPtr_snd, if_neg (Nat.not_lt.mpr henough)]
  dsimp only
  rw [storeWithin_of_lt]
  · rfl
  · rw [List.length_append, length_bufferReadN_fst, List.length_singleton,
      pamAuthUsernameMaxLenght, pamAuthPassMaxLenght]
    omega

theorem pamAuthPassChecked_of_idle
    (h : s.conn.auth.state = .pass → s.conn.clientBuffer.content.length <
      s.conn.auth.nPass.toNat) : pamAuthPassChecked key s = some (pamAuthPass key s) := by
  unfold pamAuthPassChecked pamAuthPass
  dsimp only
  split_ifs with hstate hshort
  · rfl
  · rw [bufferReadPtr_snd] at hshort
    exact absurd (h hstate) hshort
  · rfl

end Checked

/-! ## Authentication messages -/

section Messages

variable {c : Credentials} {memory : ℕ → UInt8} {bytes chunk rest : List UInt8} {named : Prop}
  {entry s t u x : PamSession} {fd : ℤ} {env : PamEnv} {es : List PamEvent}

/-- What the checked blocks behind the header make of the event. -/
theorem pamAuthReadChecked_behind (key : SelectorKey) (hrecv : env.recv = some chunk)
    (hgot : chunk.take s.conn.clientBuffer.space ≠ []) (hu : s.received key.fd chunk = u)
    (hheader : pamAuthVerNNuserNNpass u = .next x) :
    pamAuthReadChecked env key s =
      match pamAuthUsernameChecked x with
      | none => none
      | some (.returned y ret) => some (y, ret)
      | some (.next y) =>
        match pamAuthPassChecked key y with
        | none => none
        | some (.returned z ret) => some (z, ret)
        | some (.next z) => some (z, .auth) := by
  obtain ⟨byte, more, hcons⟩ := List.exists_cons_of_ne_nil hgot
  unfold pamAuthReadChecked
  rw [recvClientBuffer_received s key.fd hrecv, hcons, hu]
  dsimp only
  rw [hheader]

/-- The first array overflows when the name arrives, and the second with the
last byte. -/
theorem pamAuthReadChecked_iff (key : SelectorKey) (hrecv : env.recv = some chunk)
    (hgot : chunk.take s.conn.clientBuffer.space ≠ []) (hu : s.received key.fd chunk = u)
    (hheader : pamAuthVerNNuserNNpass u = .next x)
    (hdecoding : PamDecoding c memory named bytes x) (hnamed : named → c.Named bytes) :
    pamAuthReadChecked env key s ≠ none ↔
      (¬ named → c.Named bytes → c.username.length < 255) ∧
        (bytes = c.pamMessage → c.password.length < 255) := by
  have hnUser : x.conn.auth.nUser.toNat = c.username.length := by
    rw [hdecoding.nUser, toNat_lengthByte c.ulen.2]
  rw [pamAuthReadChecked_behind key hrecv hgot hu hheader]
  by_cases hlong : c.Named bytes
  · obtain ⟨y, hname, -, hy⟩ := pamAuthUsername_passes hdecoding hlong
    have hnPass : y.conn.auth.nPass.toNat = c.password.length := by
      rw [hy.nPass, toNat_lengthByte c.plen.2]
    obtain ⟨hstate, -, hbytes⟩ := hy.pass trivial
    have hcount : bytes.length = 3 + (c.username.length + y.conn.clientBuffer.content.length) := by
      rw [← hbytes, List.length_append, List.length_append]
      rfl
    have hsecond : pamAuthPassChecked key y ≠ none ↔
        (bytes = c.pamMessage → c.password.length < 255) := by
      by_cases hcomplete : bytes = c.pamMessage
      · rw [hcomplete, c.length_pamMessage] at hcount
        by_cases hfits : c.password.length < 255
        · rw [pamAuthPassChecked_of_lt (by rw [hnPass]; exact hfits)]
          exact iff_of_true (Option.some_ne_none _) fun _ => hfits
        · rw [pamAuthPassChecked_eq_none hstate (by omega) (by rw [hnPass]; exact hfits)]
          exact iff_of_false (fun h => h rfl) fun h => hfits (h hcomplete)
      · have hshort : bytes.length < c.pamMessage.length := by
          refine lt_of_le_of_ne hy.started.length_le fun hlen => hcomplete ?_
          exact hy.started.eq_of_length hlen
        rw [c.length_pamMessage] at hshort
        rw [pamAuthPassChecked_of_idle fun _ => by omega]
        exact iff_of_true (Option.some_ne_none _) fun h => absurd h hcomplete
    by_cases hfirst : ¬ named → c.username.length < 255
    · have hchecked : pamAuthUsernameChecked x = some (pamAuthUsername x) := by
        by_cases hold : named
        · refine pamAuthUsernameChecked_of_idle fun hstate => ?_
          rw [(hdecoding.pass hold).1] at hstate
          cases hstate
        · exact pamAuthUsernameChecked_of_lt (by rw [hnUser]; exact hfirst hold)
      rw [hchecked, hname, and_iff_right fun hold _ => hfirst hold, ← hsecond]
      dsimp only
      rcases pamAuthPassChecked key y with _ | ⟨z, ret⟩ | z
      · simp
      · simp
      · simp
    · obtain ⟨hold, hfull⟩ := Classical.not_imp.mp hfirst
      obtain ⟨hstate', -, hcontent⟩ := hdecoding.name hold
      have henough : c.username.length ≤ x.conn.clientBuffer.content.length := by
        rw [Credentials.Named, ← hcontent, List.length_append] at hlong
        change 3 + _ ≤ 3 + _ at hlong
        omega
      rw [pamAuthUsernameChecked_eq_none hstate' (by omega) (by rw [hnUser]; exact hfull)]
      exact iff_of_false (fun h => h rfl) fun h => hfull (h.1 hold hlong)
  · have hold : ¬ named := fun h => hlong (hnamed h)
    obtain ⟨-, -, hbytes⟩ := hdecoding.name hold
    have hlen : x.conn.clientBuffer.content.length < c.username.length := by
      rw [Credentials.Named, ← hbytes, List.length_append] at hlong
      change ¬ 3 + _ ≤ 3 + _ at hlong
      omega
    have hincomplete : bytes ≠ c.pamMessage := by
      rintro rfl
      refine hlong ?_
      rw [Credentials.Named, c.length_pamMessage]
      omega
    rw [pamAuthUsernameChecked_of_idle fun _ => by omega,
      pamAuthUsername_waits hdecoding hold hlong]
    exact iff_of_true (Option.some_ne_none _)
      ⟨fun _ h => absurd h hlong, fun hcomplete => absurd hcomplete hincomplete⟩

/-- The twin that stays in its arrays is `pam_auth_read`. -/
theorem pamAuthReadChecked_eq {key : SelectorKey} {r : PamSession × PamState}
    (h : pamAuthReadChecked env key s = some r) : pamAuthRead env key s = r := by
  unfold pamAuthReadChecked at h
  unfold pamAuthRead
  dsimp only at h ⊢
  generalize s.recvClientBuffer key.fd env.recv = received at h ⊢
  obtain ⟨readn, v⟩ := received
  rcases readn with _ | _ | ⟨byte, more⟩
  · exact Option.some.inj h
  · exact Option.some.inj h
  · dsimp only at h ⊢
    rcases hheader : pamAuthVerNNuserNNpass v with ⟨y, ret⟩ | y
    · rw [hheader] at h
      exact Option.some.inj h
    · rw [hheader] at h
      dsimp only at h
      rw [Block.andThen_next]
      rcases hname : pamAuthUsernameChecked y with _ | b
      · rw [hname] at h
        cases h
      · rw [pamAuthUsernameChecked_eq hname]
        rw [hname] at h
        rcases b with ⟨z, ret⟩ | z
        · exact Option.some.inj h
        · dsimp only at h
          rw [Block.andThen_next]
          rcases hpass : pamAuthPassChecked key z with _ | b
          · rw [hpass] at h
            cases h
          · rw [pamAuthPassChecked_eq hpass]
            rw [hpass] at h
            rcases b with ⟨w, ret⟩ | w
            · exact Option.some.inj h
            · exact Option.some.inj h

variable (fd) in
theorem PamAuthHeld.storesInBounds_iff (h : PamAuthHeld c memory entry bytes s)
    (hrecv : env.recv = some chunk) (hne : chunk ≠ []) (hmore : bytes ++ chunk <+: c.pamMessage) :
    StoresInBounds s (.read fd env) ↔
      (¬ c.Named bytes → c.Named (bytes ++ chunk) → c.username.length < 255) ∧
        (bytes ++ chunk = c.pamMessage → c.password.length < 255) := by
  obtain ⟨hstate, harrived, hgot, hbehind⟩ := h.reads hne hmore
  rw [← pamAuthReadChecked_iff (s := s.arrived) ⟨fd, s.address⟩ hrecv hgot (by rw [harrived])
    (pamAuthVerNNuserNNpass_passes (hbehind fd)) (h.decoding.received fd hmore)
    fun hnamed => hnamed.mono]
  exact ⟨fun hstores => hstores h.kept.freed hstate, fun hchecked _ _ => hchecked⟩

/-- Whatever pieces the rest of the message comes in. -/
theorem PamAuthHeld.steps_storesInBounds_iff (h : PamAuthHeld c memory entry bytes s)
    (hdelivers : PamDelivers fd rest es) (hmessage : bytes ++ rest = c.pamMessage)
    (hpending : rest ≠ []) :
    Steps pamStep StoresInBounds s es ↔
      (¬ c.Named bytes → c.username.length < 255) ∧ c.password.length < 255 := by
  induction hdelivers generalizing s bytes with
  | nil => exact absurd rfl hpending
  | @cons chunk rest env es hrecv hne hrest ih =>
      rw [← List.append_assoc] at hmessage
      have hmore : bytes ++ chunk <+: c.pamMessage := by
        rw [← hmessage]
        exact List.prefix_append _ _
      have hstores := h.storesInBounds_iff fd hrecv hne hmore
      by_cases hlast : rest = []
      · subst hlast
        rw [List.append_nil] at hmessage
        obtain rfl := hrest.eq_nil
        have hnamed : c.Named (bytes ++ chunk) := by
          rw [Credentials.Named, hmessage, c.length_pamMessage]
          omega
        rw [steps_single_iff, hstores]
        exact and_congr (imp_congr_right fun _ => imp_iff_right hnamed) (imp_iff_right hmessage)
      · have hshort : (bytes ++ chunk).length < c.pamMessage.length := by
          rw [← hmessage, (List.length_append : (bytes ++ chunk ++ rest).length = _)]
          have := List.length_pos_of_ne_nil hlast
          omega
        obtain ⟨u, hstep, hu⟩ := (h.read fd hrecv hne hmore).1 hshort
        have hmono : c.Named bytes → c.Named (bytes ++ chunk) := fun hnamed => hnamed.mono
        rw [steps_cons_iff hstep, hstores, ih hu hmessage hlast]
        constructor
        · rintro ⟨⟨hfirst, -⟩, hlater, hpass⟩
          refine ⟨fun hold => ?_, hpass⟩
          by_cases hnamed : c.Named (bytes ++ chunk)
          · exact hfirst hold hnamed
          · exact hlater hnamed
        · rintro ⟨hname, hpass⟩
          exact ⟨⟨fun hold _ => hname hold, fun _ => hpass⟩,
            fun hnamed => hname (mt hmono hnamed), hpass⟩

/-! ### Messages that are turned down -/

/-- A length byte of zero, or none in the first segment. -/
def TurnedDown (chunk : List UInt8) : Prop := chunk.getD 1 0 = 0 ∨ chunk.getD 2 0 = 0

theorem pamAuthVerNNuserNNpass_refuses (hstate : s.conn.auth.state = .verNNuserNNpass)
    (hspace : 3 ≤ s.conn.clientBuffer.space) (hzero : TurnedDown s.conn.clientBuffer.content) :
    ∃ x, pamAuthVerNNuserNNpass s = .returned x .error ∧ PamAuthReading s x := by
  have hreads := pamAuthVerNNuserNNpass_reads (s := s)
  rcases hheader : pamAuthVerNNuserNNpass s with ⟨x, ret⟩ | x
  · rw [hheader] at hreads
    obtain ⟨hreading, rfl | rfl⟩ := hreads
    · unfold pamAuthVerNNuserNNpass at hheader
      rw [if_pos hstate, bufferWritePtr_snd, if_neg (Nat.not_lt.mpr hspace)] at hheader
      dsimp only at hheader
      split_ifs at hheader
      · cases hheader
      · cases hheader
      · cases hheader
    · exact ⟨x, rfl, hreading⟩
  · unfold pamAuthVerNNuserNNpass at hheader
    rw [if_pos hstate, bufferWritePtr_snd, if_neg (Nat.not_lt.mpr hspace)] at hheader
    dsimp only at hheader
    split_ifs at hheader with hver huser hpass
    rw [bufferRead_getD, bufferRead_content, List.getD_eq_getElem?_getD, List.getElem?_drop,
      ← List.getD_eq_getElem?_getD] at huser
    rw [bufferRead_getD, bufferRead_content, bufferRead_content, List.drop_drop,
      List.getD_eq_getElem?_getD, List.getElem?_drop, ← List.getD_eq_getElem?_getD] at hpass
    exact absurd hzero (not_or.mpr ⟨huser, hpass⟩)

/-- A session that has failed takes no more read events. -/
theorem pamStep_read_of_error (h : s.conn.stm = some .error) :
    pamStep s (.read fd env) ≠ .ok t := by
  intro hstep
  rcases hfreed : s.freed with _ | _
  · rw [pamStep_read hfreed, pamRead, pamDispatch, h] at hstep
    cases hstep
  · rw [pamStep, hfreed] at hstep
    cases hstep

theorem pamDone_calls (h : pamDone s = .ok t) :
    t.conn = s.conn ∧ ∀ action ∈ t.log, action ∈ s.log ∨ action = .free ∨
      ∃ fd, action = .close fd := by
  unfold pamDone at h
  dsimp only at h
  split_ifs at h
  · obtain rfl := Except.ok.inj h
    refine ⟨rfl, fun action haction => ?_⟩
    rcases List.mem_append.mp haction with hold | hnew
    · rcases List.mem_append.mp hold with hold | hnew
      · exact .inl hold
      · exact .inr (.inl (List.mem_singleton.mp hnew))
    · exact .inr (.inr ⟨_, List.mem_singleton.mp hnew⟩)
  · obtain rfl := Except.ok.inj h
    refine ⟨rfl, fun action haction => ?_⟩
    rcases List.mem_append.mp haction with hold | hnew
    · exact .inl hold
    · exact .inr (.inr ⟨_, List.mem_singleton.mp hnew⟩)

variable (fd) in
/-- The first read event, if a length is zero. -/
theorem AtPamAuth.refuses (h : AtPamAuth s) (hrecv : env.recv = some chunk) (hne : chunk ≠ [])
    (hfits : chunk.length ≤ pamBufferSize - 3) (hzero : TurnedDown chunk) :
    StoresInBounds s (.read fd env) ∧ ∀ t, pamStep s (.read fd env) = .ok t →
      t.conn.stm = some .error ∧ ∀ name pass status, .authenticate name pass status ∈ t.log →
        .authenticate name pass status ∈ s.log := by
  rw [pamBufferSize] at hfits
  have htake : chunk.take s.arrived.conn.clientBuffer.space = chunk := by
    rw [h.awaits.space, pamBufferSize]
    exact List.take_of_length_le (by omega)
  obtain ⟨x, hheader, hreading⟩ := pamAuthVerNNuserNNpass_refuses (s := s.arrived.received fd chunk)
    h.awaits.state (by rw [received_space, h.awaits.space, pamBufferSize]; omega)
    (by rw [received_content, h.awaits.empty, htake]; exact hzero)
  obtain ⟨byte, more, hcons⟩ := List.exists_cons_of_ne_nil hne
  have hread : pamAuthRead env ⟨fd, s.address⟩ s.arrived = (x, .error) := by
    unfold pamAuthRead
    rw [recvClientBuffer_received s.arrived fd hrecv, htake, hcons]
    dsimp only
    rw [← hcons, hheader]
    rfl
  constructor
  · intro _ _
    unfold pamAuthReadChecked
    rw [recvClientBuffer_received s.arrived fd hrecv, htake, hcons]
    dsimp only
    rw [← hcons, hheader]
    exact Option.some_ne_none _
  · intro t hstep
    rw [pamStep_read_auth h.state h.freed, hread, pamSettle_stop (.inl rfl)] at hstep
    obtain ⟨hconn, hcalls⟩ := pamDone_calls hstep
    refine ⟨by rw [hconn], fun name pass status haction => ?_⟩
    rcases hcalls _ haction with hold | hfree | ⟨fd', hclose⟩
    · rcases ((h.arrived.1.received fd chunk).reading hreading).calls _ hold with hold | hreceives
      · exact hold
      · exact hreceives.elim
    · cases hfree
    · cases hclose

theorem AtPamAuth.turned_down {username password : List UInt8} (h : AtPamAuth s)
    (hrecv : env.recv = some chunk) (hne : chunk ≠ []) (hfits : chunk.length ≤ pamBufferSize - 3)
    (hzero : TurnedDown chunk) (hrest : PamDelivers fd rest es) :
    AuthStringsStored username password s (.read fd env :: es) := by
  obtain ⟨hstores, hends⟩ := h.refuses fd hrecv hne hfits hzero
  refine ⟨⟨hstores, fun t hstep => ?_⟩, fun t hrun name pass status haction => ?_⟩
  · rcases hrest with _ | ⟨-, -, -⟩
    · trivial
    · obtain ⟨hstm, -⟩ := hends t hstep
      refine ⟨fun _ hstate => ?_, fun u hnext => absurd hnext (pamStep_read_of_error hstm)⟩
      rw [PamSession.state, hstm] at hstate
      cases hstate
  · obtain ⟨u, hstep, hrun⟩ := run_cons_ok_iff.mp hrun
    rcases hrest with _ | ⟨-, -, -⟩
    · obtain rfl := Except.ok.inj hrun
      exact .inl ((hends _ hstep).2 name pass status haction)
    · obtain ⟨v, hnext, -⟩ := run_cons_ok_iff.mp hrun
      exact absurd hnext (pamStep_read_of_error (hends u hstep).1)

/-! ### Messages that are taken -/

variable (fd) in
theorem AtPamAuth.storesInBounds_iff (h : AtPamAuth s) (hrecv : env.recv = some chunk)
    (hmore : chunk <+: c.pamMessage) (hheader : 3 ≤ chunk.length) :
    StoresInBounds s (.read fd env) ↔
      (c.Named chunk → c.username.length < 255) ∧
        (chunk = c.pamMessage → c.password.length < 255) := by
  obtain ⟨x, hx, -, hdecoding⟩ := pamAuthVerNNuserNNpass_decodes h.awaits fd hmore hheader
  have hiff := pamAuthReadChecked_iff (s := s.arrived) ⟨fd, s.address⟩ hrecv
    (h.takes hmore hheader) rfl hx hdecoding fun hfalse => hfalse.elim
  rw [imp_iff_right not_false] at hiff
  rw [← hiff]
  exact ⟨fun hstores => hstores h.freed h.state, fun hchecked _ _ => hchecked⟩

/-- Whatever pieces the message comes in, if the first has the header. -/
theorem AtPamAuth.steps_storesInBounds_iff (h : AtPamAuth s) (hrecv : env.recv = some chunk)
    (hmessage : chunk ++ rest = c.pamMessage) (hheader : 3 ≤ chunk.length)
    (hrest : PamDelivers fd rest es) :
    Steps pamStep StoresInBounds s (.read fd env :: es) ↔
      c.username.length < 255 ∧ c.password.length < 255 := by
  have hmore : chunk <+: c.pamMessage := by
    rw [← hmessage]
    exact List.prefix_append _ _
  have hstores := h.storesInBounds_iff fd hrecv hmore hheader
  by_cases hlast : rest = []
  · subst hlast
    rw [List.append_nil] at hmessage
    obtain rfl := hrest.eq_nil
    have hnamed : c.Named chunk := by
      rw [Credentials.Named, hmessage, c.length_pamMessage]
      omega
    rw [steps_single_iff, hstores]
    exact and_congr (imp_iff_right hnamed) (imp_iff_right hmessage)
  · have hshort : chunk.length < c.pamMessage.length := by
      rw [← hmessage, List.length_append]
      have := List.length_pos_of_ne_nil hlast
      omega
    obtain ⟨u, hstep, hu⟩ := (h.read fd hrecv hmore hheader).1 hshort
    rw [steps_cons_iff hstep, hstores, hu.steps_storesInBounds_iff hrest hmessage hlast]
    constructor
    · rintro ⟨⟨hfirst, -⟩, hlater, hpass⟩
      refine ⟨?_, hpass⟩
      by_cases hnamed : c.Named chunk
      · exact hfirst hnamed
      · exact hlater hnamed
    · rintro ⟨hname, hpass⟩
      exact ⟨⟨fun _ => hname, fun _ => hpass⟩, fun _ => hname, hpass⟩

/-- What a checked message leaves in the log. -/
theorem PamAuthChecked.strings (h : PamAuthChecked c memory s fd t)
    (hname : c.username.length < 255) {name pass : List UInt8} {status : UserStatus}
    (haction : .authenticate name pass status ∈ t.log) :
    .authenticate name pass status ∈ s.log ∨
      name = cString c.username ∧ pass = cString c.password ∧ t.conn.username = name := by
  obtain ⟨x, data, hkept, hcredentials, rfl⟩ := h
  rcases List.mem_append.mp haction with hold | hnew
  · rcases hkept.calls _ hold with hold | hreceives
    · exact .inl hold
    · exact hreceives.elim
  · obtain ⟨rfl, rfl, -⟩ := PamAction.authenticate.inj (List.mem_singleton.mp hnew)
    refine .inr ⟨username_pamCredentials hcredentials hname,
      pass_pamCredentials hcredentials c.plen.2, Pam.username_congr rfl⟩

theorem AtPamAuth.authStringsStored_iff (h : AtPamAuth s) (hrecv : env.recv = some chunk)
    (hmessage : chunk ++ rest = c.pamMessage) (hheader : 3 ≤ chunk.length)
    (hrest : PamDelivers fd rest es) :
    AuthStringsStored c.username c.password s (.read fd env :: es) ↔
      c.username.length < 255 ∧ c.password.length < 255 := by
  have hsteps := h.steps_storesInBounds_iff hrecv hmessage hheader hrest
  refine ⟨fun hstored => hsteps.mp hstored.1, fun hfits => ⟨hsteps.mpr hfits, ?_⟩⟩
  intro t hrun name pass status haction
  have hmore : chunk <+: c.pamMessage := by
    rw [← hmessage]
    exact List.prefix_append _ _
  obtain ⟨hwaits, hchecks⟩ := h.read fd hrecv hmore hheader
  obtain ⟨u, hstep, hrun⟩ := run_cons_ok_iff.mp hrun
  by_cases hlast : rest = []
  · subst hlast
    rw [List.append_nil] at hmessage
    obtain rfl := hrest.eq_nil
    obtain rfl := Except.ok.inj hrun
    obtain ⟨v, hstep', hv⟩ := hchecks hmessage
    obtain rfl := Except.ok.inj (hstep.symm.trans hstep')
    exact hv.strings hfits.1 haction
  · have hshort : chunk.length < c.pamMessage.length := by
      rw [← hmessage, List.length_append]
      have := List.length_pos_of_ne_nil hlast
      omega
    obtain ⟨v, hstep', hv⟩ := hwaits hshort
    obtain rfl := Except.ok.inj (hstep.symm.trans hstep')
    obtain ⟨w, hrun', hw⟩ := hv.deliver hrest hmessage hlast
    obtain rfl := Except.ok.inj (hrun.symm.trans hrun')
    exact hw.strings hfits.1 haction

end Messages

/-- The bytes of the first read event. -/
def firstSegment : List PamEvent → List UInt8
  | .read _ env :: _ => env.recv.getD []
  | _ => []

/-- The message is turned down at its header, or both strings leave room for
their terminators. -/
def AuthStringsFit (username password : List UInt8) (es : List PamEvent) : Prop :=
  username = [] ∨ password = [] ∨ (firstSegment es).length < 3 ∨
    username.length < 255 ∧ password.length < 255

theorem authStringsStored_iff {username password : List UInt8} {s : PamSession} {fd : ℤ}
    {es : List PamEvent} (hulen : username.length < 256) (hplen : password.length < 256)
    (h : AtPamAuth s) (hdelivers : PamDelivers fd (pamAuthMessage username password) es) :
    AuthStringsStored username password s es ↔ AuthStringsFit username password es := by
  generalize hbytes : pamAuthMessage username password = message at hdelivers
  rcases hdelivers with _ | @⟨chunk, rest, env, es, hrecv, hne, hrest⟩
  · cases hbytes
  have hfirst : firstSegment (.read fd env :: es) = chunk := by
    rw [firstSegment, hrecv, Option.getD_some]
  have hlen : (pamAuthMessage username password).length =
      3 + (username.length + password.length) := by
    rw [pamAuthMessage, List.length_cons, List.length_cons, List.length_cons, List.length_append]
    omega
  have hfits : chunk.length ≤ pamBufferSize - 3 := by
    rw [hbytes, List.length_append] at hlen
    rw [pamBufferSize]
    omega
  rw [AuthStringsFit, hfirst]
  by_cases hdown : username = [] ∨ password = [] ∨ chunk.length < 3
  · have hcell : ∀ i, chunk.getD i 0 = 0 ∨
        chunk.getD i 0 = (pamAuthMessage username password).getD i 0 := fun i => by
      rw [hbytes]
      by_cases hi : i < chunk.length
      · exact .inr (List.getD_append _ _ _ _ hi).symm
      · exact .inl (List.getD_eq_default _ _ (Nat.not_lt.mp hi))
    have hzero : TurnedDown chunk := by
      rcases hdown with huser | hpass | hshort
      · rcases hcell 1 with hzero | hcell
        · exact .inl hzero
        · exact .inl (by rw [hcell, huser]; rfl)
      · rcases hcell 2 with hzero | hcell
        · exact .inr hzero
        · exact .inr (by rw [hcell, hpass]; rfl)
      · exact .inr (List.getD_eq_default _ _ (Nat.le_of_lt_succ hshort))
    refine iff_of_true (h.turned_down hrecv hne hfits hzero hrest) ?_
    rcases hdown with huser | hpass | hshort
    · exact .inl huser
    · exact .inr (.inl hpass)
    · exact .inr (.inr (.inl hshort))
  · obtain ⟨huser, hpass, hheader⟩ : username ≠ [] ∧ password ≠ [] ∧ 3 ≤ chunk.length := by
      simpa only [not_or, Nat.not_lt] using hdown
    let c : Credentials := ⟨username, password, ⟨List.length_pos_of_ne_nil huser, hulen⟩,
      ⟨List.length_pos_of_ne_nil hpass, hplen⟩⟩
    rw [h.authStringsStored_iff (c := c) hrecv hbytes.symm hheader hrest, or_iff_right huser,
      or_iff_right hpass, or_iff_right (Nat.not_lt.mpr hheader)]

/-! ## Every name and password -/

/-- The strings of a message and of a body are stored in bounds and passed on
as received exactly when no length byte that is used is 255. -/
theorem strings_stored_iff {username password : List UInt8} {s : PamSession} {fd : ℤ}
    {es : List PamEvent} (hulen : username.length < 256) (hplen : password.length < 256)
    (h : AtPamAuth s) (hdelivers : PamDelivers fd (pamAuthMessage username password) es)
    (env : PamEnv) (r : PamSession) (buffer : Buffer) :
    (AuthStringsStored username password s es ↔ AuthStringsFit username password es) ∧
      (BodyStringsStored env r buffer ↔
        ∀ lenght ∈ lengthBytes (methodStrings r.conn.request.method) buffer.content,
          lenght ≠ 255) :=
  ⟨authStringsStored_iff hulen hplen h hdelivers, bodyStringsStored_iff env r buffer⟩

theorem atPamAuth_firstManagement : AtPamAuth firstManagement :=
  ⟨by decide +kernel, by decide +kernel, ⟨by decide +kernel, by decide +kernel, by decide +kernel⟩⟩

theorem PamDelivers.whole (fd : ℤ) {bytes : List UInt8} (hne : bytes ≠ []) :
    PamDelivers fd bytes [.read fd (pamReceives bytes)] := by
  have h : PamDelivers fd (bytes ++ []) [.read fd (pamReceives bytes)] := .cons rfl hne .nil
  rw [List.append_nil] at h
  exact h

/-- `REMOVE_USER` with a name of one byte. -/
def shortRemoval : PamRequest := adminRequest pamRequestMethodRemoveUser [1, 97]

/-- The strings of the first administrator, and a name alone. -/
theorem strings_stored_admin :
    AuthStringsStored adminName.bytes adminName.bytes firstManagement
        [.read 4 (pamReceives (pamAuthMessage adminName.bytes adminName.bytes))] ∧
      BodyStringsStored default shortRemoval.session shortRemoval.buffer := by
  have hlen : adminName.bytes.length < 256 := by decide
  obtain ⟨hauth, hbody⟩ := strings_stored_iff hlen hlen atPamAuth_firstManagement
    (.whole 4 nofun) default shortRemoval.session shortRemoval.buffer
  exact ⟨hauth.mpr (.inr (.inr (.inr ⟨by decide, by decide⟩))), hbody.mpr (by decide +kernel)⟩

/-- A name of 255 bytes. -/
def longName : List UInt8 := List.replicate 255 97

def longNameMessage : List PamEvent := [.read 4 (pamReceives (pamAuthMessage longName [98]))]

/-- The terminator of the name is stored behind its array. -/
theorem longName_overflows :
    PamDelivers 4 (pamAuthMessage longName [98]) longNameMessage ∧
      ¬ AuthStringsStored longName [98] firstManagement longNameMessage := by
  have hdelivers : PamDelivers 4 (pamAuthMessage longName [98]) longNameMessage := .whole 4 nofun
  have hlen : longName.length = 255 := List.length_replicate
  refine ⟨hdelivers, fun hstored => ?_⟩
  have hiff := authStringsStored_iff (by omega) (by decide) atPamAuth_firstManagement hdelivers
  rcases hiff.mp hstored with hname | hpass | hshort | ⟨hname, -⟩
  · rw [hname] at hlen
    cases hlen
  · cases hpass
  · revert hshort
    decide +kernel
  · omega

end Socks5Proxy

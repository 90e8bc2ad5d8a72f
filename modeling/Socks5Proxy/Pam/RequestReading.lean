import Socks5Proxy.Pam.Dispatch
import Socks5Proxy.Pam.Listing
import Socks5Proxy.Pam.StatusCodes

/-!
# How one read of PAM_REQUEST ends

`pam_request_read` receives, goes through the header and then through the body.
What a handler leaves and what the reader leaves before it are written as
updates of the session, so that everything they keep is read off.
-/

namespace Socks5Proxy

open Library Library.Memory

/-! ## What a handler leaves -/

def PamSession.leaving (s : PamSession) (users : UserStore) (status : UInt8) (nbody : UInt16)
    (body : ℕ → UInt8) : PamSession :=
  { s with
    users := users
    conn.request :=
      { s.conn.request with
        status := status
        writeNbody := nbody
        writeBody := body } }

section Handlers

variable {env : PamEnv} {s t : PamSession} {buffer : Buffer}

theorem requestRemoveUser_leaving {username : List UInt8}
    (h : requestRemoveUser username s = .ok t) :
    ∃ users status nbody body, t = s.leaving users status nbody body := by
  have hother : ∀ username, ∃ users status nbody body,
      removeOther username (s.setStatus pamRequestSuccess) =
        s.leaving users status nbody body := by
    intro username
    unfold removeOther
    split
    · exact ⟨_, _, _, _, rfl⟩
    · exact ⟨_, _, _, _, rfl⟩
  unfold requestRemoveUser at h
  dsimp only at h
  split_ifs at h
  · exact ⟨_, _, _, _, (Except.ok.inj h).symm⟩
  · split at h
    · cases h
    · split_ifs at h
      · exact ⟨_, _, _, _, (Except.ok.inj h).symm⟩
      · rw [← Except.ok.inj h]
        exact hother _
  · rw [← Except.ok.inj h]
    exact hother _

/-- Every handler leaves the user store and the answer, and nothing else. -/
theorem handlePamRequestMethod_leaving (h : handlePamRequestMethod env s buffer = .ok t) :
    ∃ users status nbody body, t = (s.handling buffer).leaving users status nbody body := by
  change (if s.conn.request.method = _ then _ else _) = _ at h
  change ∃ users status nbody body, t =
    (s.act (.handle s.conn.request.method buffer.content)).leaving users status nbody body
  generalize s.act (.handle s.conn.request.method buffer.content) = u at h ⊢
  split_ifs at h
  · rw [handleGetConnectedUsersList_eq] at h
    split_ifs at h
    exact ⟨_, _, _, _, (Except.ok.inj h).symm⟩
  · rw [handleAddUser_eq] at h
    split_ifs at h
    rw [← Except.ok.inj h]
    unfold requestAddUser
    dsimp only
    split_ifs
    · exact ⟨_, _, _, _, rfl⟩
    · exact ⟨_, _, _, _, rfl⟩
  · rw [handleRemoveUser_eq] at h
    split_ifs at h
    exact requestRemoveUser_leaving h
  · rw [handleChangePassword_eq] at h
    split_ifs at h
    rw [← Except.ok.inj h]
    unfold requestChangePassword
    dsimp only
    split_ifs
    · exact ⟨_, _, _, _, rfl⟩
    · exact ⟨_, _, _, _, rfl⟩
  · rw [handleChangeRole_eq] at h
    split_ifs at h
    rw [← Except.ok.inj h]
    unfold requestChangeRole
    dsimp only
    split_ifs
    · exact ⟨_, _, _, _, rfl⟩
    · exact ⟨_, _, _, _, rfl⟩
  · rw [← Except.ok.inj h]
    unfold handleGetMetrics
    dsimp only
    split_ifs
    · exact ⟨_, _, _, _, rfl⟩
    · exact ⟨_, _, _, _, rfl⟩
  · rw [← Except.ok.inj h]
    exact ⟨_, _, _, _, rfl⟩

/-- What a handler and the answer keep. -/
theorem pamRequestAnswer_frame (h : handlePamRequestMethod env s buffer = .ok t)
    (key : SelectorKey) : PamFrame s (pamRequestAnswer key t).1 := by
  obtain ⟨users, status, nbody, body, rfl⟩ := handlePamRequestMethod_leaving h
  refine PamFrame.trans ?_ (.setInterest key.fd .opWrite)
  refine PamFrame.trans ?_ (.answerWith _)
  have hact : PamFrame s (s.handling buffer) := .act _
  exact ⟨hact.address, hact.clientFd, hact.freed, hact.stm, hact.metrics, hact.log, hact.limit,
    hact.sel⟩

theorem requestRemoveUser_fault {username : List UInt8} {fault : Fault}
    (h : requestRemoveUser username s = .error fault) : fault = .nullDereference := by
  unfold requestRemoveUser at h
  dsimp only at h
  split_ifs at h
  split at h
  · exact (Except.error.inj h).symm
  · split_ifs at h

/-- The faults of the handlers. -/
theorem handlePamRequestMethod_fault {fault : Fault}
    (h : handlePamRequestMethod env s buffer = .error fault) :
    fault = .nullDereference ∨ fault = .outOfBounds := by
  unfold handlePamRequestMethod at h
  dsimp only at h
  rw [handleGetConnectedUsersList_eq, handleAddUser_eq, handleRemoveUser_eq,
    handleChangePassword_eq, handleChangeRole_eq] at h
  split_ifs at h
  · exact .inr (Except.error.inj h).symm
  · exact .inr (Except.error.inj h).symm
  · exact .inr (Except.error.inj h).symm
  · exact .inl (requestRemoveUser_fault h)
  · exact .inr (Except.error.inj h).symm
  · exact .inr (Except.error.inj h).symm

theorem handlePamRequestMethod_fault_ne_assertion {fault : Fault}
    (h : handlePamRequestMethod env s buffer = .error fault) : fault ≠ .assertion := by
  rcases handlePamRequestMethod_fault h with rfl | rfl
  · simp
  · simp

end Handlers

/-! ## The body -/

/-- The session the handlers run in. -/
def PamSession.bodied (s : PamSession) : PamSession :=
  let nbody := s.conn.request.readNbody.toNat
  { s with
    conn.clientBuffer := (bufferReadN nbody s.conn.clientBuffer).2
    conn.request.readBody :=
      store s.conn.request.readBody 0 ((bufferReadN nbody s.conn.clientBuffer).1 ++ [0]) }

section Reader

variable {env : PamEnv} {key : SelectorKey} {s u x : PamSession}

theorem pamRequestReadBody_waits (hstate : s.conn.request.state = .readBody)
    (hspace : s.conn.clientBuffer.space < s.conn.request.readNbody.toNat) :
    pamRequestReadBody env key s = .ok (.returned s .request) := by
  rw [pamRequestReadBody, if_pos hstate]
  dsimp only
  rw [bufferWritePtr_snd, if_pos hspace]

theorem pamRequestReadBody_handles (hstate : s.conn.request.state = .readBody)
    (hspace : s.conn.request.readNbody.toNat ≤ s.conn.clientBuffer.space) :
    pamRequestReadBody env key s =
      (handlePamRequestMethod env s.bodied (bodyBuffer s.bodied.conn.request)).map fun t =>
        .next (pamRequestAnswer key t).1 := by
  rw [pamRequestReadBody, if_pos hstate]
  dsimp only
  rw [bufferWritePtr_snd, if_neg (Nat.not_lt.mpr hspace)]
  unfold PamSession.bodied
  generalize handlePamRequestMethod env _ _ = handled
  rcases handled with fault | t
  · rfl
  · rfl

/-- What `pam_request_read` returns for the last block. -/
def pamRequestFinish : Except Fault (PamBlock PamSession) → Except Fault (PamSession × PamState)
  | .error fault => .error fault
  | .ok (.returned s ret) => .ok (s, ret)
  | .ok (.next s) => .ok (s, .request)

theorem pamRequestFinish_eq_error_iff {r : Except Fault (PamBlock PamSession)} {fault : Fault} :
    pamRequestFinish r = .error fault ↔ r = .error fault := by
  rcases r with fault' | ⟨t, ret⟩ | t
  · simp [pamRequestFinish]
  · simp [pamRequestFinish]
  · simp [pamRequestFinish]

theorem pamRequestReadBody_ne_assertion (hstate : s.conn.request.state = .readBody) :
    pamRequestReadBody env key s ≠ .error .assertion := by
  by_cases hspace : s.conn.clientBuffer.space < s.conn.request.readNbody.toNat
  · rw [pamRequestReadBody_waits hstate hspace]
    simp
  · rw [pamRequestReadBody_handles hstate (Nat.le_of_not_lt hspace)]
    rcases hhandle : handlePamRequestMethod env s.bodied (bodyBuffer s.bodied.conn.request) with
      fault | t
    · simpa [Except.map] using handlePamRequestMethod_fault_ne_assertion hhandle
    · simp [Except.map]

theorem pamRequestRead_received {c : UInt8} {bytes : List UInt8}
    (h : s.recvClientBuffer key.fd env.recv = (some (c :: bytes), u)) :
    pamRequestRead env key s = pamRequestFinish
      (PamBlock.continue (pamRequestHeader u) (pamRequestReadBody env key)) := by
  rw [pamRequestRead, h]
  change (match PamBlock.continue (pamRequestHeader u) (pamRequestReadBody env key) with
    | .error fault => _
    | .ok (.returned s ret) => _
    | .ok (.next s) => _) = _
  rcases PamBlock.continue (pamRequestHeader u) (pamRequestReadBody env key) with
    fault | ⟨t, ret⟩ | t
  · rfl
  · rfl
  · rfl

theorem pamRequestHandover_received {c : UInt8} {bytes : List UInt8}
    (h : s.recvClientBuffer key.fd env.recv = (some (c :: bytes), u)) :
    pamRequestHandover env key s =
      match pamRequestHeader u with
      | .ok (.next x) =>
        if x.conn.request.state = .readBody ∧
            x.conn.request.readNbody.toNat ≤ x.conn.clientBuffer.space then
          some (x.conn.request.method, bodyBuffer x.bodied.conn.request)
        else
          none
      | _ => none := by
  rw [pamRequestHandover, h]
  rfl

end Reader

/-! ## What the reader keeps -/

/-- `x` is `s` while a request is being read: the members of the answer and
the credentials are not touched, and nothing but `recv` is called. -/
structure PamReading (s x : PamSession) : Prop extends PamFrame s x where
  registrations : x.sel = s.sel
  users : x.users = s.users
  auth : x.conn.auth = s.conn.auth
  reserved : x.conn.request.reserved = s.conn.request.reserved
  status : x.conn.request.status = s.conn.request.status
  writeNbody : x.conn.request.writeNbody = s.conn.request.writeNbody
  writeBody : x.conn.request.writeBody = s.conn.request.writeBody
  calls : ∀ action ∈ x.log, action ∈ s.log ∨ action.Receives

section Reading

variable {env : PamEnv} {key : SelectorKey} {s x y : PamSession}

theorem PamReading.refl (s : PamSession) : PamReading s s :=
  ⟨.refl s, rfl, rfl, rfl, rfl, rfl, rfl, rfl, fun _ h => .inl h⟩

theorem PamReading.trans (h : PamReading s x) (h' : PamReading x y) : PamReading s y where
  toPamFrame := h.toPamFrame.trans h'.toPamFrame
  registrations := h'.registrations.trans h.registrations
  users := h'.users.trans h.users
  auth := h'.auth.trans h.auth
  reserved := h'.reserved.trans h.reserved
  status := h'.status.trans h.status
  writeNbody := h'.writeNbody.trans h.writeNbody
  writeBody := h'.writeBody.trans h.writeBody
  calls := fun action haction => by
    rcases h'.calls action haction with hold | hnew
    · exact h.calls action hold
    · exact .inr hnew

theorem PamReading.of_buffer {b : Buffer} (hlimit : b.limit = s.conn.clientBuffer.limit) :
    PamReading s { s with conn.clientBuffer := b } :=
  ⟨.of_conn rfl rfl hlimit, rfl, rfl, rfl, rfl, rfl, rfl, rfl, fun _ h => .inl h⟩

theorem PamReading.headed {b : Buffer} {method nbody : UInt16}
    (hlimit : b.limit = s.conn.clientBuffer.limit) : PamReading s (s.headed b method nbody) :=
  ⟨.of_conn rfl rfl hlimit, rfl, rfl, rfl, rfl, rfl, rfl, rfl, fun _ h => .inl h⟩

theorem PamReading.bodied : PamReading s s.bodied :=
  ⟨.of_conn rfl rfl (bufferReadN_limit _ _), rfl, rfl, rfl, rfl, rfl, rfl, rfl,
    fun _ h => .inl h⟩

theorem PamReading.recvClientBuffer (fd : ℤ) (answer : Option (List UInt8)) :
    PamReading s (s.recvClientBuffer fd answer).2 := by
  rcases answer with _ | bytes
  · exact ⟨.recvClientBuffer fd _, rfl, rfl, rfl, rfl, rfl, rfl, rfl,
      fun _ => receives_of_recvClientBuffer⟩
  · exact ⟨.recvClientBuffer fd _, rfl, rfl, rfl, rfl, rfl, rfl, rfl,
      fun _ => receives_of_recvClientBuffer⟩

/-- Where a reader that has returned PAM_REQUEST stands: the buffer is too full
for what it looks for. -/
inductive PamStuck (x : PamSession) : Prop
  | header (hstate : x.conn.request.state = .verNReserved)
      (hne : x.conn.clientBuffer.content ≠ []) (hspace : x.conn.clientBuffer.space < 2)
  | body (hstate : x.conn.request.state = .readBody)
      (hspace : x.conn.clientBuffer.space < x.conn.request.readNbody.toNat)

/-- How one read of PAM_REQUEST ends. -/
inductive PamReadEnds (env : PamEnv) (key : SelectorKey) (s : PamSession) :
    Except Fault (PamSession × PamState) → Prop
  | gone (x : PamSession) (ret : PamState) (hreading : PamReading s x)
      (hret : ret = .error ∨ ret = .done) (hnone : pamRequestHandover env key s = none) :
      PamReadEnds env key s (.ok (x, ret))
  | cut (hnone : pamRequestHandover env key s = none) :
      PamReadEnds env key s (.error .assertion)
  | waits (x : PamSession) (hreading : PamReading s x) (hstuck : PamStuck x)
      (hnone : pamRequestHandover env key s = none) : PamReadEnds env key s (.ok (x, .request))
  | handled (x : PamSession) (buffer : Buffer) (hreading : PamReading s x)
      (hstate : x.conn.request.state = .readBody)
      (hsome : pamRequestHandover env key s = some (x.conn.request.method, buffer)) :
      PamReadEnds env key s ((handlePamRequestMethod env x buffer).map (pamRequestAnswer key))

theorem recvClientBuffer_content_ne_nil {fd : ℤ} {answer : Option (List UInt8)} {c : UInt8}
    {bytes : List UInt8} (h : s.recvClientBuffer fd answer = (some (c :: bytes), x)) :
    x.conn.clientBuffer.content ≠ [] := by
  rcases answer with _ | offered
  · cases h
  · rw [recvClientBuffer_received s fd rfl] at h
    obtain ⟨hbytes, rfl⟩ := Prod.ext_iff.mp h
    rw [received_content, Option.some.inj hbytes]
    simp

theorem recvClientBuffer_requestState {fd : ℤ} {answer readn : Option (List UInt8)}
    (h : s.recvClientBuffer fd answer = (readn, x)) :
    x.conn.request.state = s.conn.request.state := by
  have hx : (s.recvClientBuffer fd answer).2 = x := congrArg Prod.snd h
  rw [← hx]
  rcases answer with _ | bytes
  · rfl
  · rfl

/-- The last block, once the sub-state is READ_BODY. -/
theorem pamRequestRead_ends_body {u : PamSession} {c : UInt8} {bytes : List UInt8}
    (hrecv : s.recvClientBuffer key.fd env.recv = (some (c :: bytes), u))
    (hheader : pamRequestHeader u = .ok (.next x)) (hreading : PamReading s x)
    (hstate : x.conn.request.state = .readBody) :
    PamReadEnds env key s (pamRequestRead env key s) := by
  have hhandover := pamRequestHandover_received hrecv
  rw [hheader] at hhandover
  dsimp only at hhandover
  rw [pamRequestRead_received hrecv, hheader]
  change PamReadEnds env key s (pamRequestFinish (pamRequestReadBody env key x))
  by_cases hspace : x.conn.clientBuffer.space < x.conn.request.readNbody.toNat
  · rw [pamRequestReadBody_waits hstate hspace]
    rw [if_neg (fun h => Nat.not_le.mpr hspace h.2)] at hhandover
    exact .waits x hreading (.body hstate hspace) hhandover
  · rw [Nat.not_lt] at hspace
    rw [if_pos ⟨hstate, hspace⟩] at hhandover
    rw [pamRequestReadBody_handles hstate hspace]
    have hhandled : PamReadEnds env key s _ := .handled x.bodied
      (bodyBuffer x.bodied.conn.request) (hreading.trans .bodied) hstate hhandover
    generalize handlePamRequestMethod env x.bodied (bodyBuffer x.bodied.conn.request) = handled
      at hhandled ⊢
    rcases handled with fault | t
    · exact hhandled
    · exact hhandled

theorem pamRequestRead_ends (env : PamEnv) (key : SelectorKey)
    (hreserved : s.conn.request.reserved = reservedByte)
    (hstate : s.conn.request.state = .verNReserved ∨ s.conn.request.state = .readBody) :
    PamReadEnds env key s (pamRequestRead env key s) := by
  have hreading := PamReading.recvClientBuffer (s := s) key.fd env.recv
  rcases hrecv : s.recvClientBuffer key.fd env.recv with ⟨_ | _ | ⟨c, bytes⟩, u⟩
  · rw [hrecv] at hreading
    rw [pamRequestRead, hrecv]
    refine .gone u .error hreading (.inl rfl) ?_
    rw [pamRequestHandover, hrecv]
  · rw [hrecv] at hreading
    rw [pamRequestRead, hrecv]
    refine .gone u .done hreading (.inr rfl) ?_
    rw [pamRequestHandover, hrecv]
  · rw [hrecv] at hreading
    have hhandover := pamRequestHandover_received hrecv
    have hu := recvClientBuffer_requestState hrecv
    rcases hstate with hfirst | hbody
    · have hends := pamRequestHeader_ends (hu.trans hfirst)
        (hreading.reserved.trans hreserved)
      generalize hheader : pamRequestHeader u = header at hends hhandover
      have hread := pamRequestRead_received hrecv
      rw [hheader] at hread
      rcases hends with hspace | ⟨buffer, hlimit, -⟩ | - |
        ⟨method, nbody, rest, buffer, -, hbuffer⟩
      · rw [hread]
        exact .waits u hreading (.header (hu.trans hfirst)
          (recvClientBuffer_content_ne_nil hrecv) hspace) hhandover
      · rw [hread]
        exact .gone _ .error (hreading.trans (.of_buffer hlimit)) (.inl rfl) hhandover
      · rw [hread]
        exact .cut hhandover
      · exact pamRequestRead_ends_body hrecv hheader (hreading.trans (.headed hbuffer.limit)) rfl
    · exact pamRequestRead_ends_body hrecv (pamRequestHeader_of_readBody (hu.trans hbody))
        hreading (hu.trans hbody)

/-- Where no call of a handler is announced none is made. -/
theorem pamRequestRead_of_handover_none {t : PamSession} {ret : PamState}
    (hreserved : s.conn.request.reserved = reservedByte)
    (hstate : s.conn.request.state = .verNReserved ∨ s.conn.request.state = .readBody)
    (hnone : pamRequestHandover env key s = none) (h : pamRequestRead env key s = .ok (t, ret)) :
    PamReading s t := by
  have hends := pamRequestRead_ends env key hreserved hstate
  generalize pamRequestRead env key s = r at hends h
  rcases hends with ⟨x, ret', hx, -, -⟩ | - | ⟨x, hx, -, -⟩ | ⟨x, buffer, -, -, hsome⟩
  · cases h
    exact hx
  · cases h
  · cases h
    exact hx
  · rw [hnone] at hsome
    cases hsome

end Reading

end Socks5Proxy

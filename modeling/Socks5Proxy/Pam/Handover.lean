import Socks5Proxy.Pam.Bodies
import Socks5Proxy.Pam.Request

/-!
# What the handlers receive

The method and the body `pam_request_read` hands to the handlers, and the
local variables the handlers of the user methods read from the body.
-/

namespace Socks5Proxy

open Library Library.Memory

/-! ## The reader -/

/-- The method and the buffer over the body that `pam_request_read` calls
`handle_pam_request_method` with, if it gets there. -/
def pamRequestHandover (env : PamEnv) (key : SelectorKey) (s : PamSession) :
    Option (UInt16 × Buffer) :=
  let (readn, s) := s.recvClientBuffer key.fd env.recv
  match readn with
  | some (_ :: _) =>
    match PamBlock.continue (PamBlock.continue (.ok (pamRequestVerNReserved s))
        pamRequestMethod) pamRequestNbody with
    | .ok (.next s) =>
      let nbody := s.conn.request.readNbody.toNat
      if s.conn.request.state = .readBody ∧ nbody ≤ s.conn.clientBuffer.space then
        let bytes := (bufferReadN nbody s.conn.clientBuffer).1
        some (s.conn.request.method,
          bodyBuffer { s.conn.request with
            readBody := store s.conn.request.readBody 0 (bytes ++ [0]) })
      else
        none
    | _ => none
  | _ => none

/-- What follows the handler. -/
def pamRequestAnswer (key : SelectorKey) (s : PamSession) : PamSession × PamState :=
  ((s.answerWith (pamResponse s.conn.request)).setInterest key.fd .opWrite, .request)

/-- The call that is announced is made. -/
theorem pamRequestRead_of_handover {env : PamEnv} {key : SelectorKey} {s : PamSession}
    {method : UInt16} {buffer : Buffer}
    (h : pamRequestHandover env key s = some (method, buffer)) :
    ∃ t, t.conn.request.method = method ∧
      pamRequestRead env key s =
        (handlePamRequestMethod env t buffer).map (pamRequestAnswer key) := by
  unfold pamRequestHandover at h
  unfold pamRequestRead pamRequestBlocks
  dsimp only at h ⊢
  generalize s.recvClientBuffer key.fd env.recv = received at h ⊢
  obtain ⟨readn, u⟩ := received
  rcases readn with _ | _ | ⟨c, bytes⟩
  · cases h
  · cases h
  · dsimp only at h ⊢
    generalize PamBlock.continue (PamBlock.continue (.ok (pamRequestVerNReserved u))
      pamRequestMethod) pamRequestNbody = header at h ⊢
    rcases header with fault | ⟨t, ret⟩ | t
    · cases h
    · cases h
    · dsimp only at h
      split_ifs at h with hready
      cases h
      obtain ⟨hstate, hspace⟩ := hready
      generalize hsplit : bufferReadN t.conn.request.readNbody.toNat t.conn.clientBuffer = split
      refine ⟨{ t with
        conn.clientBuffer := split.2
        conn.request.readBody := store t.conn.request.readBody 0 (split.1 ++ [0]) }, rfl, ?_⟩
      rw [PamBlock.continue, pamRequestReadBody, if_pos hstate]
      dsimp only
      rw [bufferWritePtr_snd, if_neg (Nat.not_lt.mpr hspace), hsplit]
      generalize handlePamRequestMethod env _ _ = handled
      rcases handled with fault | u
      · rfl
      · rfl

/-! ## A complete request -/

/-- `VER RESERVED METHOD NBODY BODY`. -/
def requestMessage (method : UInt16) (body : List UInt8) : List UInt8 :=
  pamVersion1 :: reservedByte ::
    (networkOrder method ++ (networkOrder (UInt16.ofNat body.length) ++ body))

/-- `VER RESERVED METHOD NBODY`. -/
def requestHeader (method nbody : UInt16) : List UInt8 :=
  pamVersion1 :: reservedByte :: (networkOrder method ++ networkOrder nbody)

theorem requestMessage_eq (method : UInt16) (body : List UInt8) :
    requestMessage method body = requestHeader method (UInt16.ofNat body.length) ++ body := rfl

/-- The bytes agree with the start of a request, as far as they go. -/
def StartsRequest (bytes : List UInt8) : Prop :=
  bytes.getD 0 0 = pamVersion1 ∧ bytes.getD 1 0 = reservedByte

instance (bytes : List UInt8) : Decidable (StartsRequest bytes) :=
  inferInstanceAs (Decidable (_ ∧ _))

theorem exists_requestHeader {bytes : List UInt8} (hstart : StartsRequest bytes)
    (hlen : 6 ≤ bytes.length) :
    ∃ method nbody rest, bytes = requestHeader method nbody ++ rest := by
  rcases bytes with _ | ⟨ver, _ | ⟨reserved, _ | ⟨m₁, _ | ⟨m₂, _ | ⟨n₁, _ | ⟨n₂, rest⟩⟩⟩⟩⟩⟩
  · simp at hlen
  · simp at hlen
  · simp at hlen
  · simp at hlen
  · simp at hlen
  · simp at hlen
  · refine ⟨UInt16.ofNat (m₁.toNat * 256 + m₂.toNat), UInt16.ofNat (n₁.toNat * 256 + n₂.toNat),
      rest, ?_⟩
    obtain ⟨rfl, rfl⟩ : ver = pamVersion1 ∧ reserved = reservedByte := hstart
    rw [requestHeader, networkOrder_ofNat, networkOrder_ofNat]
    rfl

/-- The connection waits for a request. -/
structure AwaitsRequest (s : PamSession) : Prop where
  state : s.conn.request.state = .verNReserved
  reserved : s.conn.request.reserved = reservedByte
  empty : s.conn.clientBuffer.content = []
  space : s.conn.clientBuffer.space = pamBufferSize

/-- So it is when PAM_REQUEST is entered. -/
theorem awaitsRequest_of_arrival {s : PamSession} (hempty : s.conn.clientBuffer.content = [])
    (hspace : s.conn.clientBuffer.space = pamBufferSize) :
    AwaitsRequest (pamRequestArrival s) :=
  ⟨rfl, rfl, hempty, hspace⟩

section Blocks

variable {s : PamSession} {a b : UInt8} {rest : List UInt8}

theorem wordAt_eq {buffer : Buffer} (h : buffer.content = a :: b :: rest) :
    wordAt buffer = UInt16.ofNat (a.toNat * 256 + b.toNat) := by
  have hlen := buffer.length_content
  rw [h, List.length_cons, List.length_cons] at hlen
  have hsplit : buffer.write - buffer.read = (buffer.write - buffer.read - 2) + 1 + 1 := by omega
  rw [Buffer.content, hsplit, slice_succ, slice_succ, List.cons.injEq, List.cons.injEq] at h
  rw [wordAt, h.1, h.2.1]

/-- A first byte read from an empty buffer is zero, and so agrees. -/
theorem pamRequestVerNReserved_next (hstate : s.conn.request.state = .verNReserved)
    (hreserved : s.conn.request.reserved = reservedByte)
    (hstart : StartsRequest s.conn.clientBuffer.content)
    (hspace : 2 ≤ s.conn.clientBuffer.space) :
    ∃ buffer : Buffer,
      s.conn.clientBuffer.ReadTo (s.conn.clientBuffer.content.drop 2) buffer ∧
      pamRequestVerNReserved s =
        .next { s with
          conn.clientBuffer := buffer
          conn.request.state := .method } := by
  have hver : (bufferRead s.conn.clientBuffer).1 = pamVersion1 := by
    rw [bufferRead_getD]
    exact hstart.1
  have hbyte : (bufferRead (bufferRead s.conn.clientBuffer).2).1 = reservedByte := by
    rw [bufferRead_getD, bufferRead_content]
    simpa [List.getD_eq_getElem?_getD] using hstart.2
  refine ⟨(bufferRead (bufferRead s.conn.clientBuffer).2).2, ?_, ?_⟩
  · have hne : s.conn.clientBuffer.content ≠ [] := by
      intro hnil
      have hzero := hstart.1
      rw [hnil] at hzero
      cases hzero
    have hfirst := readTo_bufferRead hne
    by_cases hrest : s.conn.clientBuffer.content.drop 1 = []
    · have hdrop : s.conn.clientBuffer.content.drop 2 = s.conn.clientBuffer.content.drop 1 := by
        have hlen := List.drop_eq_nil_iff.mp hrest
        rw [hrest, List.drop_eq_nil_iff]
        omega
      rw [bufferRead_nil (hfirst.content.trans hrest), hdrop]
      exact hfirst
    · have hsecond := readTo_bufferRead (b := (bufferRead s.conn.clientBuffer).2)
        (by rwa [hfirst.content])
      rw [hfirst.content, List.drop_drop] at hsecond
      exact hfirst.trans hsecond fun hnil => absurd hnil hrest
  · simp [pamRequestVerNReserved, hstate, hreserved, hver, hbyte, Nat.not_lt.mpr hspace]

theorem pamRequestWord_next {here : PamRequestState} (next : PamRequestState)
    (assign : UInt16 → PamRequestSt → PamRequestSt) (hstate : s.conn.request.state = here)
    (hcontent : s.conn.clientBuffer.content = a :: b :: rest)
    (hspace : 2 ≤ s.conn.clientBuffer.space) :
    ∃ buffer : Buffer, s.conn.clientBuffer.ReadTo rest buffer ∧
      pamRequestWord here next assign s =
        .ok (.next { s with
          conn.clientBuffer := buffer
          conn.request :=
            { assign (UInt16.ofNat (a.toNat * 256 + b.toNat)) s.conn.request with
              state := next } }) := by
  have hlen := s.conn.clientBuffer.length_content
  rw [hcontent, List.length_cons, List.length_cons] at hlen
  have hread : s.conn.clientBuffer.read + 2 ≤ s.conn.clientBuffer.write := by omega
  refine ⟨s.conn.clientBuffer.advanceRead 2 hread, ?_, ?_⟩
  · have hreadTo := readTo_advanceRead (h := hread)
    rw [hcontent] at hreadTo
    exact hreadTo
  · have hadv : bufferReadAdv s.conn.clientBuffer 2 = _ := bufferReadAdv_nat hread
    have hword := wordAt_eq hcontent
    simp [pamRequestWord, hstate, hword, hadv, Nat.not_lt.mpr hspace]

theorem pamRequestVerNReserved_refused (hstate : s.conn.request.state = .verNReserved)
    (hreserved : s.conn.request.reserved = reservedByte)
    (hstart : ¬ StartsRequest s.conn.clientBuffer.content)
    (hspace : 2 ≤ s.conn.clientBuffer.space) :
    ∃ buffer : Buffer, buffer.limit = s.conn.clientBuffer.limit ∧
      pamRequestVerNReserved s =
        .returned { s with conn.clientBuffer := buffer } .error := by
  by_cases hver : (bufferRead s.conn.clientBuffer).1 = pamVersion1
  · have hbyte : (bufferRead (bufferRead s.conn.clientBuffer).2).1 ≠ reservedByte := by
      intro hbyte
      rw [bufferRead_getD, bufferRead_content] at hbyte
      rw [bufferRead_getD] at hver
      exact hstart ⟨hver, by simpa [List.getD_eq_getElem?_getD] using hbyte⟩
    refine ⟨(bufferRead (bufferRead s.conn.clientBuffer).2).2, by simp, ?_⟩
    simp [pamRequestVerNReserved, hstate, hreserved, hver, hbyte, Nat.not_lt.mpr hspace]
  · refine ⟨(bufferRead s.conn.clientBuffer).2, by simp, ?_⟩
    simp [pamRequestVerNReserved, hstate, hver, Nat.not_lt.mpr hspace]

/-- `buffer_read_adv` finds less than it is told to skip. -/
theorem pamRequestWord_assertion {here : PamRequestState} (next : PamRequestState)
    (assign : UInt16 → PamRequestSt → PamRequestSt) (hstate : s.conn.request.state = here)
    (hlen : s.conn.clientBuffer.content.length < 2) (hspace : 2 ≤ s.conn.clientBuffer.space) :
    pamRequestWord here next assign s = .error .assertion := by
  have hadv : bufferReadAdv s.conn.clientBuffer 2 = none := by
    rw [bufferReadAdv_eq_none_iff]
    omega
  simp [pamRequestWord, hstate, hadv, Nat.not_lt.mpr hspace]

end Blocks

/-- The three blocks of the header. -/
def pamRequestHeader (s : PamSession) : Except Fault (PamBlock PamSession) :=
  PamBlock.continue (PamBlock.continue (.ok (pamRequestVerNReserved s)) pamRequestMethod)
    pamRequestNbody

/-- The session after the header. -/
def PamSession.headed (s : PamSession) (buffer : Buffer) (method nbody : UInt16) : PamSession :=
  { s with
    conn.clientBuffer := buffer
    conn.request :=
      { s.conn.request with
        state := .readBody
        method := method
        readNbody := nbody } }

/-- How the header ends when it starts in its first sub-state. -/
inductive PamHeaderEnds (s : PamSession) : Except Fault (PamBlock PamSession) → Prop
  | waits (hspace : s.conn.clientBuffer.space < 2) : PamHeaderEnds s (.ok (.returned s .request))
  | refused (buffer : Buffer) (hlimit : buffer.limit = s.conn.clientBuffer.limit)
      (hstart : ¬ StartsRequest s.conn.clientBuffer.content) :
      PamHeaderEnds s (.ok (.returned { s with conn.clientBuffer := buffer } .error))
  | cut (hstart : StartsRequest s.conn.clientBuffer.content)
      (hlen : s.conn.clientBuffer.content.length < 6) : PamHeaderEnds s (.error .assertion)
  | complete (method nbody : UInt16) (rest : List UInt8) (buffer : Buffer)
      (hcontent : s.conn.clientBuffer.content = requestHeader method nbody ++ rest)
      (hbuffer : s.conn.clientBuffer.ReadTo rest buffer) :
      PamHeaderEnds s (.ok (.next (s.headed buffer method nbody)))

section Header

variable {s : PamSession}

theorem pamRequestHeader_of_readBody (h : s.conn.request.state = .readBody) :
    pamRequestHeader s = .ok (.next s) := by
  simp [pamRequestHeader, PamBlock.continue, pamRequestVerNReserved, pamRequestMethod,
    pamRequestNbody, pamRequestWord, h]

theorem pamRequestHeader_complete {method nbody : UInt16} {rest : List UInt8}
    (hstate : s.conn.request.state = .verNReserved)
    (hreserved : s.conn.request.reserved = reservedByte)
    (hcontent : s.conn.clientBuffer.content = requestHeader method nbody ++ rest)
    (hspace : 2 ≤ s.conn.clientBuffer.space) :
    ∃ buffer : Buffer, s.conn.clientBuffer.ReadTo rest buffer ∧
      pamRequestHeader s = .ok (.next (s.headed buffer method nbody)) := by
  have hstart : StartsRequest s.conn.clientBuffer.content := by
    rw [hcontent]
    exact ⟨rfl, rfl⟩
  obtain ⟨b₁, hb₁, hfirst⟩ := pamRequestVerNReserved_next hstate hreserved hstart hspace
  rw [hcontent] at hb₁
  generalize hv : ({ s with
    conn.clientBuffer := b₁, conn.request.state := .method } : PamSession) = v at hfirst
  have hvbuffer : v.conn.clientBuffer = b₁ := by rw [← hv]
  obtain ⟨b₂, hb₂, hsecond⟩ := pamRequestWord_next (s := v) .nbody
    (fun method request => { request with method := method }) (by rw [← hv])
    (by rw [hvbuffer, hb₁.content]; rfl) (by rw [hvbuffer]; exact hspace.trans hb₁.space_le)
  rw [ofNat_networkOrder] at hsecond
  rw [hvbuffer] at hb₂
  generalize hw : ({ v with
    conn.clientBuffer := b₂
    conn.request := { v.conn.request with method := method, state := .nbody } } : PamSession) = w
    at hsecond
  have hwbuffer : w.conn.clientBuffer = b₂ := by rw [← hw]
  have hwcontent : w.conn.clientBuffer.content =
      UInt8.ofNat (nbody.toNat / 256) :: UInt8.ofNat (nbody.toNat % 256) :: rest := by
    rw [hwbuffer, hb₂.content]
    rfl
  obtain ⟨b₃, hb₃, hthird⟩ := pamRequestWord_next (s := w) .readBody
    (fun nbody request => { request with readNbody := nbody }) (by rw [← hw]) hwcontent
    (by rw [hwbuffer]; exact (hspace.trans hb₁.space_le).trans hb₂.space_le)
  rw [ofNat_networkOrder] at hthird
  rw [hwbuffer] at hb₃
  refine ⟨b₃, (hb₁.trans hb₂ nofun).trans hb₃ nofun, ?_⟩
  rw [pamRequestHeader, hfirst]
  change PamBlock.continue (pamRequestMethod v) pamRequestNbody = _
  rw [pamRequestMethod, hsecond]
  change pamRequestNbody w = _
  rw [pamRequestNbody, hthird, ← hw, ← hv]
  rfl

theorem pamRequestHeader_waits (hstate : s.conn.request.state = .verNReserved)
    (hspace : s.conn.clientBuffer.space < 2) :
    pamRequestHeader s = .ok (.returned s .request) := by
  simp [pamRequestHeader, PamBlock.continue, pamRequestVerNReserved, hstate, hspace]

/-- Every way through the header. -/
theorem pamRequestHeader_ends (hstate : s.conn.request.state = .verNReserved)
    (hreserved : s.conn.request.reserved = reservedByte) :
    PamHeaderEnds s (pamRequestHeader s) := by
  by_cases hspace : s.conn.clientBuffer.space < 2
  · rw [pamRequestHeader_waits hstate hspace]
    exact .waits hspace
  · rw [Nat.not_lt] at hspace
    by_cases hstart : StartsRequest s.conn.clientBuffer.content
    · by_cases hlen : s.conn.clientBuffer.content.length < 6
      · have hcut : pamRequestHeader s = .error .assertion := by
          obtain ⟨b₁, hb₁, hfirst⟩ := pamRequestVerNReserved_next hstate hreserved hstart hspace
          rw [pamRequestHeader, hfirst]
          generalize hv : ({ s with
            conn.clientBuffer := b₁, conn.request.state := .method } : PamSession) = v
          have hvbuffer : v.conn.clientBuffer = b₁ := by rw [← hv]
          have hvspace : 2 ≤ v.conn.clientBuffer.space := by
            rw [hvbuffer]
            exact hspace.trans hb₁.space_le
          change PamBlock.continue (pamRequestMethod v) pamRequestNbody = _
          rw [← hvbuffer] at hb₁
          rcases hrest : s.conn.clientBuffer.content.drop 2 with _ | ⟨a, _ | ⟨b, rest⟩⟩
          · rw [pamRequestMethod, pamRequestWord_assertion _ _ (by rw [← hv])
              (by rw [hb₁.content, hrest]; simp) hvspace]
            rfl
          · rw [pamRequestMethod, pamRequestWord_assertion _ _ (by rw [← hv])
              (by rw [hb₁.content, hrest]; simp) hvspace]
            rfl
          · obtain ⟨b₂, hb₂, hsecond⟩ := pamRequestWord_next (s := v) .nbody
              (fun method request => { request with method := method }) (by rw [← hv])
              (hb₁.content.trans hrest) hvspace
            have hshort : rest.length < 2 := by
              have hdrop := congrArg List.length hrest
              rw [List.length_drop, List.length_cons, List.length_cons] at hdrop
              omega
            rw [pamRequestMethod, hsecond]
            change pamRequestNbody _ = _
            rw [pamRequestNbody]
            refine pamRequestWord_assertion _ _ rfl ?_ ?_
            · change b₂.content.length < 2
              rw [hb₂.content]
              exact hshort
            · exact hvspace.trans hb₂.space_le
        rw [hcut]
        exact .cut hstart hlen
      · obtain ⟨method, nbody, rest, hcontent⟩ :=
          exists_requestHeader hstart (Nat.le_of_not_lt hlen)
        obtain ⟨buffer, hbuffer, hnext⟩ :=
          pamRequestHeader_complete hstate hreserved hcontent hspace
        rw [hnext]
        exact .complete method nbody rest buffer hcontent hbuffer
    · obtain ⟨buffer, hlimit, hrefused⟩ :=
        pamRequestVerNReserved_refused hstate hreserved hstart hspace
      rw [pamRequestHeader, hrefused]
      exact .refused buffer hlimit hstart

end Header

theorem bodyBuffer_content (request : PamRequestSt) {bytes : List UInt8}
    (hlen : bytes.length = request.readNbody.toNat) :
    (bodyBuffer { request with
      readBody := store request.readBody 0 (bytes ++ [0]) }).content = bytes := by
  change slice (store request.readBody 0 (bytes ++ [0])) 0 (0 + request.readNbody.toNat - 0) = bytes
  have hwhole := slice_store_same request.readBody 0 (bytes ++ [0])
  rw [Nat.zero_add, Nat.sub_zero, ← hlen,
    ← take_slice _ 0 (show bytes.length ≤ (bytes ++ [0]).length by simp), hwhole, List.take_left]

theorem pamRecvClientBuffer_some (s : PamSession) (fd : ℤ) (bytes : List UInt8) :
    s.recvClientBuffer fd (some bytes) =
      (some (bytes.take s.conn.clientBuffer.space),
        ({ s with conn.clientBuffer :=
          (bufferRecv s.conn.clientBuffer (some bytes)).2 } : PamSession).act
          (.recv fd (bytes.take s.conn.clientBuffer.space))) := rfl

/-- A request that arrives at once reaches its handler, up to half the
buffer. -/
theorem pamRequestHandover_of_message {env : PamEnv} {s : PamSession} (h : AwaitsRequest s)
    (key : SelectorKey) {method : UInt16} {body : List UInt8} (hlen : body.length ≤ 32765)
    (hrecv : env.recv = some (requestMessage method body)) :
    ∃ buffer : Buffer, buffer.content = body ∧
      pamRequestHandover env key s = some (method, buffer) := by
  have hsize : (requestMessage method body).length = body.length + 6 := by
    simp [requestMessage, networkOrder]
  have htake : (requestMessage method body).take s.conn.clientBuffer.space =
      requestMessage method body := by
    rw [h.space]
    exact List.take_of_length_le (by rw [hsize, pamBufferSize]; omega)
  generalize hreceived : bufferRecv s.conn.clientBuffer (some (requestMessage method body)) =
    received
  have hcontent : received.2.content = requestMessage method body := by
    rw [← hreceived, bufferRecv_some_content, h.empty, htake]
    rfl
  have hspace : body.length ≤ received.2.space ∧ 2 ≤ received.2.space := by
    rw [← hreceived, bufferRecv_some_space, h.space, hsize, pamBufferSize]
    omega
  generalize hu : ({ s with conn.clientBuffer := received.2 } : PamSession).act
    (.recv key.fd (requestMessage method body)) = u
  have hubuffer : u.conn.clientBuffer = received.2 := by rw [← hu]; rfl
  have hmessage : u.conn.clientBuffer.content =
      requestHeader method (UInt16.ofNat body.length) ++ body := by
    rw [hubuffer, hcontent, requestMessage_eq]
  obtain ⟨b, hb, hheader⟩ := pamRequestHeader_complete (by rw [← hu]; exact h.state)
    (by rw [← hu]; exact h.reserved) hmessage (by rw [hubuffer]; exact hspace.2)
  have hcount : (UInt16.ofNat body.length).toNat = body.length :=
    UInt16.toNat_ofNat_of_lt' (by rw [UInt16.size]; omega)
  have hroom := hb.space_le
  rw [hubuffer] at hroom
  have hbytes : (bufferReadN body.length b).1 = body := by
    rw [bufferReadN_fst_of_le (by rw [hb.content]), hb.content, List.take_length]
  generalize hx : u.headed b method (UInt16.ofNat body.length) = x at hheader
  have hxcount : x.conn.request.readNbody.toNat = body.length := by
    rw [← hx]
    exact hcount
  have hxbuffer : x.conn.clientBuffer = b := by rw [← hx]; rfl
  have hready : x.conn.request.state = .readBody ∧
      x.conn.request.readNbody.toNat ≤ x.conn.clientBuffer.space := by
    rw [hxcount, hxbuffer]
    exact ⟨by rw [← hx]; rfl, hspace.1.trans hroom⟩
  refine ⟨_, bodyBuffer_content x.conn.request hxcount.symm, ?_⟩
  obtain ⟨c, tail, hcons⟩ : ∃ c tail, requestMessage method body = c :: tail := ⟨_, _, rfl⟩
  unfold pamRequestHandover
  rw [hrecv, pamRecvClientBuffer_some, htake, hreceived, hu, hcons]
  change (match pamRequestHeader u with
    | .ok (.next s) => _
    | _ => _) = _
  rw [hheader]
  dsimp only
  rw [if_pos hready, hxcount, hxbuffer, hbytes]
  rw [← hx]
  rfl

/-! ## The local variables of a handler -/

/-- The strings and the role a handler of the user methods has read. -/
def handlerLocals (method : UInt16) (buffer : Buffer) : Option UserRequest :=
  if method = pamRequestMethodAddUser then do
    let (username, buffer) ← (readString buffer).toOption
    let (password, buffer) ← (readString buffer).toOption
    some (.addUser username password (bufferRead buffer).1)
  else if method = pamRequestMethodRemoveUser then do
    let (username, _) ← (readString buffer).toOption
    some (.removeUser username)
  else if method = pamRequestMethodChangePassword then do
    let (username, buffer) ← (readString buffer).toOption
    let (newPassword, _) ← (readString buffer).toOption
    some (.changePassword username newPassword)
  else if method = pamRequestMethodChangeRole then do
    let (username, buffer) ← (readString buffer).toOption
    some (.changeRole username (bufferRead buffer).1)
  else
    none

namespace UserRequest

def fields : UserRequest → List (List UInt8)
  | addUser username password _ => [username, password]
  | removeUser username => [username]
  | changePassword username newPassword => [username, newPassword]
  | changeRole username _ => [username]

/-- Every field and its terminator fit in a local array. -/
def FitsArrays (r : UserRequest) : Prop := ∀ field ∈ r.fields, field.length < 255

def NoNul (r : UserRequest) : Prop := ∀ field ∈ r.fields, 0 ∉ field

theorem encodable_iff (r : UserRequest) : r.Encodable ↔ ∀ field ∈ r.fields, field.length < 256 := by
  rcases r with ⟨username, password, role⟩ | username | ⟨username, newPassword⟩ |
    ⟨username, newRole⟩
  · simp [Encodable, fields]
  · simp [Encodable, fields]
  · simp [Encodable, fields]
  · simp [Encodable, fields]

end UserRequest

section Locals

variable {buffer : Buffer} {bytes : List UInt8}

theorem readString_encodeField {rest : List UInt8}
    (hcontent : buffer.content = encodeField bytes ++ rest) (hlen : bytes.length < 255)
    (hnul : 0 ∉ bytes) :
    ∃ buffer' : Buffer, buffer'.content = rest ∧ readString buffer = .ok (bytes, buffer') := by
  have htake : takeField buffer.content = some (bytes, rest) := by
    rw [hcontent]
    exact takeField_encodeField (by omega) rest
  obtain ⟨hstring, hrest⟩ := stringAt_of_takeField htake
  have hbytes : (fieldText buffer).1 = bytes := by
    have htext := CString.ext_iff.mp hstring
    exact htext.trans (cString_eq_self hnul)
  have hfirst : buffer.content.getD 0 0 ≠ 255 := by
    intro hlong
    have hcount := congrArg UInt8.toNat hlong
    rw [hcontent] at hcount
    change (UInt8.ofNat bytes.length).toNat = 255 at hcount
    rw [toNat_lengthByte (by omega)] at hcount
    omega
  refine ⟨(fieldText buffer).2, hrest, ?_⟩
  rw [readString_eq, if_neg hfirst, ← hbytes]

theorem readString_of_long {rest : List UInt8}
    (hcontent : buffer.content = encodeField bytes ++ rest)
    (hlen : bytes.length < 256) (hlong : ¬ bytes.length < 255) :
    readString buffer = .error .outOfBounds := by
  have hfirst : buffer.content.getD 0 0 = 255 := by
    rw [hcontent, ← UInt8.toNat_inj]
    change (UInt8.ofNat bytes.length).toNat = 255
    rw [toNat_lengthByte hlen]
    omega
  rw [readString_eq, if_pos hfirst]

/-- A handler reads back the fields of a body that fit in its arrays. -/
theorem handlerLocals_body {r : UserRequest} (hfits : r.FitsArrays) (hnul : r.NoNul)
    (hcontent : buffer.content = r.body) : handlerLocals r.method buffer = some r := by
  rcases r with ⟨username, password, role⟩ | username | ⟨username, newPassword⟩ |
    ⟨username, newRole⟩
  · simp only [UserRequest.FitsArrays, UserRequest.NoNul, UserRequest.fields,
      List.forall_mem_cons] at hfits hnul
    obtain ⟨b₁, hrest, hfirst⟩ := readString_encodeField hcontent hfits.1 hnul.1
    obtain ⟨b₂, hlast, hsecond⟩ := readString_encodeField hrest hfits.2.1 hnul.2.1
    have hrole := bufferRead_fst hlast
    simp [handlerLocals, Except.toOption, UserRequest.method, hfirst, hsecond, hrole]
  · simp only [UserRequest.FitsArrays, UserRequest.NoNul, UserRequest.fields,
      List.forall_mem_cons] at hfits hnul
    obtain ⟨b₁, hrest, hfirst⟩ := readString_encodeField
      (hcontent.trans (List.append_nil _).symm) hfits.1 hnul.1
    simp [handlerLocals, Except.toOption, UserRequest.method, hfirst,
      show pamRequestMethodRemoveUser ≠ pamRequestMethodAddUser by decide]
  · simp only [UserRequest.FitsArrays, UserRequest.NoNul, UserRequest.fields,
      List.forall_mem_cons] at hfits hnul
    obtain ⟨b₁, hrest, hfirst⟩ := readString_encodeField hcontent hfits.1 hnul.1
    obtain ⟨b₂, -, hsecond⟩ := readString_encodeField
      (hrest.trans (List.append_nil _).symm) hfits.2.1 hnul.2.1
    simp [handlerLocals, Except.toOption, UserRequest.method, hfirst, hsecond,
      show pamRequestMethodChangePassword ≠ pamRequestMethodAddUser by decide,
      show pamRequestMethodChangePassword ≠ pamRequestMethodRemoveUser by decide]
  · simp only [UserRequest.FitsArrays, UserRequest.NoNul, UserRequest.fields,
      List.forall_mem_cons] at hfits hnul
    obtain ⟨b₁, hrest, hfirst⟩ := readString_encodeField hcontent hfits.1 hnul.1
    have hrole := bufferRead_fst hrest
    simp [handlerLocals, Except.toOption, UserRequest.method, hfirst, hrole,
      show pamRequestMethodChangeRole ≠ pamRequestMethodAddUser by decide,
      show pamRequestMethodChangeRole ≠ pamRequestMethodRemoveUser by decide,
      show pamRequestMethodChangeRole ≠ pamRequestMethodChangePassword by decide]

theorem handlerLocals_body_of_long {r : UserRequest} (henc : r.Encodable) (hnul : r.NoNul)
    (hcontent : buffer.content = r.body) (hlong : ¬ r.FitsArrays) :
    handlerLocals r.method buffer = none := by
  rcases r with ⟨username, password, role⟩ | username | ⟨username, newPassword⟩ |
    ⟨username, newRole⟩
  · simp only [UserRequest.FitsArrays, UserRequest.NoNul, UserRequest.fields,
      List.forall_mem_cons] at hlong hnul
    by_cases hname : username.length < 255
    · obtain ⟨b₁, hrest, hfirst⟩ := readString_encodeField hcontent hname hnul.1
      have hsecond := readString_of_long hrest henc.2 (by simpa [hname] using hlong)
      simp [handlerLocals, Except.toOption, UserRequest.method, hfirst, hsecond]
    · have hfirst := readString_of_long hcontent henc.1 hname
      simp [handlerLocals, Except.toOption, UserRequest.method, hfirst]
  · have hfirst := readString_of_long (hcontent.trans (List.append_nil _).symm) henc
      (by simpa [UserRequest.FitsArrays, UserRequest.fields] using hlong)
    simp [handlerLocals, Except.toOption, UserRequest.method, hfirst,
      show pamRequestMethodRemoveUser ≠ pamRequestMethodAddUser by decide]
  · simp only [UserRequest.FitsArrays, UserRequest.NoNul, UserRequest.fields,
      List.forall_mem_cons] at hlong hnul
    by_cases hname : username.length < 255
    · obtain ⟨b₁, hrest, hfirst⟩ := readString_encodeField hcontent hname hnul.1
      have hsecond := readString_of_long (hrest.trans (List.append_nil _).symm) henc.2
        (by simpa [hname] using hlong)
      simp [handlerLocals, Except.toOption, UserRequest.method, hfirst, hsecond,
        show pamRequestMethodChangePassword ≠ pamRequestMethodAddUser by decide,
        show pamRequestMethodChangePassword ≠ pamRequestMethodRemoveUser by decide]
    · have hfirst := readString_of_long hcontent henc.1 hname
      simp [handlerLocals, Except.toOption, UserRequest.method, hfirst,
        show pamRequestMethodChangePassword ≠ pamRequestMethodAddUser by decide,
        show pamRequestMethodChangePassword ≠ pamRequestMethodRemoveUser by decide]
  · have hfirst := readString_of_long hcontent henc
      (by simpa [UserRequest.FitsArrays, UserRequest.fields] using hlong)
    simp [handlerLocals, Except.toOption, UserRequest.method, hfirst,
      show pamRequestMethodChangeRole ≠ pamRequestMethodAddUser by decide,
      show pamRequestMethodChangeRole ≠ pamRequestMethodRemoveUser by decide,
      show pamRequestMethodChangeRole ≠ pamRequestMethodChangePassword by decide]

theorem textOf_fieldText (buffer : Buffer) : textOf (fieldText buffer).1 = stringAt buffer := by
  rw [CString.ext_iff]
  exact cString_eq_self (stringAt buffer).noNul

/-- The handlers act on the strings and the role they have read. -/
theorem requestOp_of_handlerLocals (env : PamEnv) {method : UInt16} {r : UserRequest}
    (h : handlerLocals method buffer = some r) :
    ∃ hr : r.Encodable, requestOp env method buffer = some (r.op env.stack hr) := by
  have hlen : ∀ buffer, (fieldText buffer).1.length < 256 := fun buffer =>
    Nat.lt_succ_of_le (length_fieldText_le buffer)
  unfold handlerLocals at h
  unfold requestOp
  rcases hfirst : readString buffer with fault | first
  · rw [hfirst] at h
    split_ifs at h
    · cases h
    · cases h
    · cases h
    · cases h
  · obtain rfl := readString_eq_ok hfirst
    rw [hfirst] at h
    split_ifs at h with hadd hremove hpassword hrole
    · rcases hsecond : readString (fieldText buffer).2 with fault | second
      · simp [hsecond, Except.toOption] at h
      · obtain rfl := readString_eq_ok hsecond
        simp only [hsecond, Except.toOption, Option.bind_eq_bind, Option.bind_some,
          Option.some.injEq] at h
        subst h
        refine ⟨⟨hlen _, hlen _⟩, ?_⟩
        rw [if_pos hadd]
        simp only [UserRequest.op, textOf_fieldText]
    · simp only [Except.toOption, Option.bind_eq_bind, Option.bind_some, Option.some.injEq] at h
      subst h
      refine ⟨hlen _, ?_⟩
      rw [if_neg hadd, if_pos hremove]
      simp only [UserRequest.op, textOf_fieldText]
    · rcases hsecond : readString (fieldText buffer).2 with fault | second
      · simp [hsecond, Except.toOption] at h
      · obtain rfl := readString_eq_ok hsecond
        simp only [hsecond, Except.toOption, Option.bind_eq_bind, Option.bind_some,
          Option.some.injEq] at h
        subst h
        refine ⟨⟨hlen _, hlen _⟩, ?_⟩
        rw [if_neg hadd, if_neg hremove, if_pos hpassword]
        simp only [UserRequest.op, textOf_fieldText]
    · simp only [Except.toOption, Option.bind_eq_bind, Option.bind_some, Option.some.injEq] at h
      subst h
      refine ⟨hlen _, ?_⟩
      rw [if_neg hadd, if_neg hremove, if_neg hpassword, if_pos hrole]
      simp only [UserRequest.op, textOf_fieldText]

end Locals

end Socks5Proxy

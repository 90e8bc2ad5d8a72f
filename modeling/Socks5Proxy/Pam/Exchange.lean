import Socks5Proxy.Pam.Effect
import Socks5Proxy.Pam.Segmentation
import Socks5Proxy.Pam.Transfers

/-!
# A management client and its connection

A client sends its credentials and, after the answer to them, one request.
However the network cuts the two messages, what the connection has received and
sent tells where it stands: it sends nothing before the credentials are
complete, and behind their two bytes of answer nothing but the response of a
handler that was called for this request.  The handler may have been called too
early; it has read zeros for what had not arrived then.
-/

namespace Socks5Proxy

open Library

/-! ## Where a connection stands -/

/-- No request has been handed over. -/
def PamUnasked (s : PamSession) : Prop := ∀ method body, PamAction.handle method body ∉ s.log

/-- The credentials in the record are those of the client, and they have been
checked. -/
structure PamChecked (c : Credentials) (s : PamSession) : Prop where
  answered : PamAnswered s
  username : s.conn.username = cString c.username
  pass : s.conn.pass = cString c.password

/-- The answer to the credentials. -/
def PamSession.answer (s : PamSession) : List UInt8 := [pamVersion1, s.conn.auth.status]

/-- Where a live connection stands with the client. -/
inductive PamStage (c : Credentials) (s : PamSession) : Prop
  | fresh (h : AtPamAuth s) (hlog : s.log = [])
      (hinterest : s.sel.interestOf s.conn.clientFd = some .opRead)
  | decoding (memory : ℕ → UInt8) (entry : PamSession) (h : PamAuthHeld c memory entry s.bytesIn s)
      (hlog : entry.log = []) (hout : s.bytesOut = [])
      (hinterest : s.sel.interestOf s.conn.clientFd = some .opRead)
  | answering (hstm : s.conn.stm = some .auth) (hin : s.bytesIn = c.pamMessage)
      (hout : s.bytesOut ++ s.conn.clientBuffer.content = s.answer)
      (hchecked : PamChecked c s) (hunasked : PamUnasked s)
      (hinterest : s.sel.interestOf s.conn.clientFd = some .opWrite)
  | requesting (h : AtPamRequest s) (hin : s.bytesIn = c.pamMessage) (hout : s.bytesOut = s.answer)
      (hchecked : PamChecked c s)
      (hinterest : s.sel.interestOf s.conn.clientFd = some .opRead)
  | responding (hstate : s.state = .request) (hin : c.pamMessage <+: s.bytesIn)
      (hout : s.bytesOut ++ s.conn.clientBuffer.content <+: s.answer ++ pamResponse s.conn.request)
      (hchecked : PamChecked c s) (hasked : ¬ PamUnasked s)
      (hinterest : s.sel.interestOf s.conn.clientFd = some .opWrite)

/-- What the client has been told, be the connection live or not. -/
inductive PamHistory (c : Credentials) (s : PamSession) : Prop
  | silent (hout : s.bytesOut = []) (hunasked : PamUnasked s)
  | answered (hin : c.pamMessage <+: s.bytesIn) (hout : s.bytesOut <+: s.answer)
      (hchecked : PamChecked c s) (hunasked : PamUnasked s)
  | replied (hin : c.pamMessage <+: s.bytesIn)
      (hout : s.bytesOut <+: s.answer ++ pamResponse s.conn.request)
      (hchecked : PamChecked c s) (hasked : ¬ PamUnasked s)

/-- The network gives a reader what the client has sent: its credentials, and
behind them its request once the connection has begun to answer. -/
def PamOffers (c : Credentials) (method : UInt16) (body : List UInt8) (s : PamSession) :
    PamEvent → Prop
  | .read _ env => ∀ chunk, env.recv = some chunk →
    (s.bytesOut = [] → s.bytesIn ++ chunk <+: c.pamMessage) ∧
      (s.bytesOut ≠ [] → s.bytesIn ++ chunk <+: c.pamMessage ++ requestMessage method body)
  | .write _ _ => True
  | .others _ _ => True

instance PamOffers.decidable (c : Credentials) (method : UInt16) (body : List UInt8)
    (s : PamSession) : (e : PamEvent) → Decidable (PamOffers c method body s e)
  | .read _ env => inferInstanceAs (Decidable (∀ chunk ∈ env.recv,
      (s.bytesOut = [] → s.bytesIn ++ chunk <+: c.pamMessage) ∧
        (s.bytesOut ≠ [] → s.bytesIn ++ chunk <+: c.pamMessage ++ requestMessage method body)))
  | .write _ _ => .isTrue trivial
  | .others _ _ => .isTrue trivial

/-- The event hands the request over: what has arrived of the body, and zeros
for the rest. -/
def PamHandsOver (method : UInt16) (body : List UInt8) (s : PamSession) (e : PamEvent)
    (t : PamSession) : Prop :=
  ∃ fd env x y buffer rest,
    e = .read fd env ∧ PamReading s x ∧ x.conn.request.method = method ∧
      handlePamRequestMethod env x buffer = .ok y ∧
      t = { (pamRequestAnswer ⟨fd, s.address⟩ y).1 with conn.stm := some .request } ∧
      env.recv = some (requestHeader method (UInt16.ofNat body.length) ++ rest) ∧
      rest <+: body ∧ buffer.content = rest ++ List.replicate (body.length - rest.length) 0

/-- What one event leads to. -/
structure PamAdvances (c : Credentials) (method : UInt16) (body : List UInt8) (s : PamSession)
    (e : PamEvent) (t : PamSession) : Prop where
  history : PamHistory c t
  stage : t.freed = false → PamStage c t
  asks : PamUnasked s → ¬ PamUnasked t →
    PamHandsOver method body s e t ∧ PamChecked c s ∧ t.conn.auth = s.conn.auth
  keeps : ¬ PamUnasked s → t.conn.request = s.conn.request ∧ t.conn.auth = s.conn.auth

/-! ## A request that may be cut off -/

section Request

variable {env : PamEnv} {key : SelectorKey} {s t : PamSession} {method : UInt16}
  {body chunk rest : List UInt8} {fd : ℤ}

theorem length_requestHeader (method nbody : UInt16) : (requestHeader method nbody).length = 6 :=
  rfl

/-- Behind a whole header the body is handed over at once, whatever has arrived
of it. -/
theorem pamRequestHandover_of_header (h : AwaitsRequest s) (key : SelectorKey)
    (hbody : body.length ≤ 32765) (hrest : rest <+: body)
    (hrecv : env.recv = some (requestHeader method (UInt16.ofNat body.length) ++ rest)) :
    ∃ buffer : Buffer,
      buffer.content = rest ++ List.replicate (body.length - rest.length) 0 ∧
        pamRequestHandover env key s = some (method, buffer) := by
  have hle := hrest.length_le
  have hspace : s.conn.clientBuffer.space = 65536 := h.space
  have hcount : (UInt16.ofNat body.length).toNat = body.length :=
    UInt16.toNat_ofNat_of_lt' (by rw [UInt16.size]; omega)
  have hreceived := recvClientBuffer_received s key.fd hrecv
  generalize hmessage : requestHeader method (UInt16.ofNat body.length) ++ rest = message
    at hrecv hreceived
  have hsize : message.length = 6 + rest.length := by
    rw [← hmessage, List.length_append, length_requestHeader]
  have htake : message.take s.conn.clientBuffer.space = message := by
    rw [hspace]
    exact List.take_of_length_le (by omega)
  obtain ⟨first, more, hcons⟩ : ∃ first more, message = first :: more := by
    rw [← hmessage]
    exact ⟨_, _, rfl⟩
  rw [htake, hcons] at hreceived
  generalize hu : s.received key.fd message = u
  rw [← hcons, hu, hcons] at hreceived
  have hcontent : u.conn.clientBuffer.content =
      requestHeader method (UInt16.ofNat body.length) ++ rest := by
    rw [← hu, received_content, h.empty, htake, hmessage]
    rfl
  have hroom : u.conn.clientBuffer.space = 65536 - message.length := by
    rw [← hu, received_space, hspace]
  obtain ⟨buffer, hbuffer, hheader⟩ := pamRequestHeader_complete
    (by rw [← hu]; exact h.state) (by rw [← hu]; exact h.reserved) hcontent (by omega)
  have hfits : body.length ≤ buffer.space := hbuffer.space_le.trans' (by omega)
  rw [pamRequestHandover_received hreceived, hheader]
  dsimp only
  generalize hx : u.headed buffer method (UInt16.ofNat body.length) = x
  have hxcount : x.conn.request.readNbody.toNat = body.length := by
    rw [← hx]
    exact hcount
  have hxbuffer : x.conn.clientBuffer = buffer := by rw [← hx]; rfl
  have hready : x.conn.request.state = .readBody ∧
      x.conn.request.readNbody.toNat ≤ x.conn.clientBuffer.space := by
    rw [hxcount, hxbuffer]
    exact ⟨by rw [← hx]; rfl, hfits⟩
  rw [if_pos hready]
  have hmethod : x.conn.request.method = method := by rw [← hx]; rfl
  refine ⟨bodyBuffer x.bodied.conn.request, ?_, by rw [hmethod]⟩
  have hread : (bufferReadN x.conn.request.readNbody.toNat x.conn.clientBuffer).1 =
      rest ++ List.replicate (body.length - rest.length) 0 := by
    rw [bufferReadN_fst, hxcount, hxbuffer, hbuffer.content, List.take_of_length_le hle]
  rw [← hread]
  exact bodyBuffer_content x.conn.request (length_bufferReadN_fst _ _)

/-- Whatever the first bytes of a request are, they abort the process or are
handed over. -/
theorem AtPamRequest.handsOver (h : AtPamRequest s) (hbody : body.length ≤ 32765)
    (hrecv : env.recv = some chunk) (hne : chunk ≠ [])
    (hchunk : chunk <+: requestMessage method body)
    (ht : pamStep s (.read fd env) = .ok t) : PamHandsOver method body s (.read fd env) t := by
  have hstart : StartsRequest chunk := by
    obtain ⟨more, hmore⟩ := hchunk
    rcases chunk with _ | ⟨ver, _ | ⟨reserved, chunk⟩⟩
    · exact absurd rfl hne
    · exact ⟨(List.cons.inj hmore).1, rfl⟩
    · obtain ⟨hver, hmore⟩ := List.cons.inj hmore
      exact ⟨hver, (List.cons.inj hmore).1⟩
  have hlong : 6 ≤ chunk.length := by
    by_contra hshort
    have hcuts : CutsHeader s (.read fd env) :=
      ⟨h.sound.freed, h.state, h.awaits.state, h.awaits.empty, chunk, hrecv, hstart,
        Nat.lt_of_not_le hshort⟩
    refine (pamStep_assertion_iff (.inr h.sound)).1.mp ?_ hcuts
    rw [ht]
    exact nofun
  obtain ⟨rest, rfl⟩ : requestHeader method (UInt16.ofNat body.length) <+: chunk :=
    List.prefix_of_prefix_length_le (List.prefix_append _ body) hchunk hlong
  have hrest : rest <+: body := by
    rw [requestMessage_eq] at hchunk
    exact (List.prefix_append_right_inj _).mp hchunk
  obtain ⟨buffer, hcontent, hsome⟩ :=
    pamRequestHandover_of_header h.awaits ⟨fd, s.address⟩ hbody hrest hrecv
  obtain ⟨x, hreading, hmethod, hstep⟩ := pamStep_of_handover h.sound h.state hsome
  rw [hstep] at ht
  rcases hhandle : handlePamRequestMethod env x buffer with fault | y
  · rw [hhandle] at ht
    cases ht
  · rw [hhandle] at ht
    exact ⟨fd, env, x, y, buffer, rest, rfl, hreading, hmethod, hhandle,
      (Except.ok.inj ht).symm, hrecv, hrest, hcontent⟩

end Request

/-! ## One event -/

section Calls

variable {env : PamEnv} {key : SelectorKey} {s t x : PamSession} {c : Credentials}

theorem pamUnasked_of_log (h : PamUnasked s) (hlog : t.log = s.log) : PamUnasked t := by
  intro method body hhandle
  rw [hlog] at hhandle
  exact h method body hhandle

theorem pamUnasked_concat {action : PamAction} (h : PamUnasked s)
    (hlog : t.log = s.log ++ [action]) (hnot : ∀ method body, .handle method body ≠ action) :
    PamUnasked t := by
  intro method body hhandle
  rw [hlog] at hhandle
  rcases List.mem_append.mp hhandle with hold | hnew
  · exact h method body hold
  · exact hnot method body (List.mem_singleton.mp hnew)

theorem pamUnasked_of_receives (h : PamUnasked s)
    (hcalls : ∀ action ∈ x.log, action ∈ s.log ∨ action.Receives) : PamUnasked x := by
  intro method body hhandle
  rcases hcalls _ hhandle with hold | hreceives
  · exact h method body hold
  · exact hreceives

theorem pamUnasked_gone (h : PamUnasked s) : PamUnasked s.gone := by
  have hfree : PamUnasked (pamClose s) := pamUnasked_concat h rfl nofun
  exact pamUnasked_concat hfree rfl nofun

/-- A reader of PAM_AUTH hands nothing over. -/
theorem pamRead_auth_unasked (hs : PamSound s) (hstate : s.state = .auth) (h : PamUnasked s)
    (ht : pamRead env key s = .ok t) : PamUnasked t := by
  have harrived : PamUnasked s.arrived := pamUnasked_of_log h (pamArrived_same s).2.2
  rw [pamRead_auth hstate] at ht
  have hends := pamAuthRead_ends env key s.arrived
  generalize pamAuthRead env key s.arrived = r at hends ht
  rcases hends with ⟨x, ret, hx, hret⟩ | ⟨x, hx⟩ | ⟨x, hx, -⟩
  · have hframe := pamArrived_frame.trans hx.toPamFrame
    rw [pamSettle_stop hret, pamDone_of_registered (registered_of_stm _ hs hframe)] at ht
    rw [← Except.ok.inj ht]
    refine pamUnasked_gone ?_
    exact pamUnasked_of_log (pamUnasked_of_receives harrived hx.calls) rfl
  · rw [pamSettle_stay (by simp) (by simp)] at ht
    rw [← Except.ok.inj ht]
    exact pamUnasked_of_log (pamUnasked_of_receives harrived hx.calls) rfl
  · rw [pamSettle_stay (by simp) (by simp)] at ht
    rw [← Except.ok.inj ht]
    exact pamUnasked_concat (pamUnasked_of_receives harrived hx.calls) rfl nofun

/-- Only the calls and the record decide what has been checked. -/
theorem PamChecked.persists (h : PamChecked c s) (hauth : t.conn.auth = s.conn.auth)
    (hlog : s.log <+: t.log)
    (hcalls : ∀ username pass r, PamAction.authenticate username pass r ∈ t.log →
      PamAction.authenticate username pass r ∈ s.log) : PamChecked c t where
  answered := h.answered.persists hauth hlog hcalls
  username := (Pam.username_congr (congrArg PamAuthSt.credentials hauth)).trans h.username
  pass := (Pam.pass_congr (congrArg PamAuthSt.credentials hauth)).trans h.pass

theorem PamChecked.concat (h : PamChecked c s) {action : PamAction}
    (hauth : t.conn.auth = s.conn.auth) (hlog : t.log = s.log ++ [action])
    (hnot : ∀ username pass r, .authenticate username pass r ≠ action) : PamChecked c t := by
  refine h.persists hauth (hlog ▸ List.prefix_append _ _) ?_
  intro username pass r hr
  rw [hlog] at hr
  rcases List.mem_append.mp hr with hold | hnew
  · exact hold
  · exact absurd (List.mem_singleton.mp hnew) (hnot username pass r)

theorem PamChecked.gone (h : PamChecked c s) : PamChecked c s.gone := by
  have hfree : PamChecked c (pamClose s) := h.concat rfl rfl nofun
  exact hfree.concat rfl rfl nofun

end Calls

section Reading

variable {env : PamEnv} {s t : PamSession} {c : Credentials} {method : UInt16}
  {body chunk : List UInt8} {fd : ℤ} {e : PamEvent}

theorem bytesOut_of_read (hs : PamSound s) (ht : pamStep s (.read fd env) = .ok t) :
    t.bytesOut = s.bytesOut :=
  (pamStep_moves (.inr hs) ht).bytesOut.trans (List.append_nil _)

/-- A `recv` that finds the end of the stream, or fails, ends the connection. -/
theorem gone_of_no_bytes (hs : PamSound s) (hrecv : env.recv = none ∨ env.recv = some [])
    (ht : pamStep s (.read fd env) = .ok t) :
    ∃ x st, PamFrame s x ∧ (∀ action ∈ x.log, action ∈ s.log ∨ action.Receives) ∧
      (s.state = .request → x.conn.auth = s.conn.auth) ∧
      t = ({ x with conn.stm := some st } : PamSession).gone := by
  have hreceived : ∀ u : PamSession, ∃ readn x, u.recvClientBuffer fd env.recv = (readn, x) ∧
      (readn = none ∨ readn = some []) ∧ PamFrame u x ∧ x.conn.auth = u.conn.auth ∧
      ∀ action ∈ x.log, action ∈ u.log ∨ action.Receives := by
    intro u
    have hreading := PamReading.recvClientBuffer (s := u) fd env.recv
    refine ⟨(u.recvClientBuffer fd env.recv).1, (u.recvClientBuffer fd env.recv).2, rfl, ?_,
      hreading.toPamFrame, hreading.auth, hreading.calls⟩
    rcases hrecv with hnone | hnil
    · rw [hnone]
      exact .inl rfl
    · rw [hnil, recvClientBuffer_received u fd rfl, List.take_nil]
      exact .inr rfl
  rw [pamStep_read hs.freed] at ht
  rcases hs.phase with hstate | ⟨hstate, -⟩
  · obtain ⟨readn, x, heq, hends, hframe, -, hcalls⟩ := hreceived s.arrived
    have hwhole := pamArrived_frame.trans hframe
    rw [pamRead_auth hstate] at ht
    have hread : ∃ ret, pamAuthRead env ⟨fd, s.address⟩ s.arrived = (x, ret) ∧
        (ret = .error ∨ ret = .done) := by
      rcases hends with rfl | rfl
      · exact ⟨.error, by rw [pamAuthRead, heq], .inl rfl⟩
      · exact ⟨.done, by rw [pamAuthRead, heq], .inr rfl⟩
    obtain ⟨ret, hread, hret⟩ := hread
    rw [hread, pamSettle_stop hret,
      pamDone_of_registered (registered_of_stm _ hs hwhole)] at ht
    refine ⟨x, ret, hwhole, ?_, ?_, (Except.ok.inj ht).symm⟩
    · rw [← (pamArrived_same s).2.2]
      exact hcalls
    · intro hrequest
      rw [hstate] at hrequest
      cases hrequest
  · obtain ⟨readn, x, heq, hends, hframe, hauth, hcalls⟩ := hreceived s
    rw [pamRead_request hstate] at ht
    have hread : ∃ ret, pamRequestRead env ⟨fd, s.address⟩ s = .ok (x, ret) ∧
        (ret = .error ∨ ret = .done) := by
      rcases hends with rfl | rfl
      · exact ⟨.error, by rw [pamRequestRead, heq], .inl rfl⟩
      · exact ⟨.done, by rw [pamRequestRead, heq], .inr rfl⟩
    obtain ⟨ret, hread, hret⟩ := hread
    rw [hread] at ht
    change pamSettle env ⟨fd, s.address⟩ .request (x, ret) = .ok t at ht
    rw [pamSettle_stop hret, pamDone_of_registered (registered_of_stm _ hs hframe)] at ht
    exact ⟨x, ret, hframe, hcalls, fun _ => hauth, (Except.ok.inj ht).symm⟩

/-- A connection that has said nothing, and is gone. -/
theorem PamAdvances.of_silent_gone (hfreed : t.freed = true) (hout : t.bytesOut = [])
    (hs : PamUnasked s) (hunasked : PamUnasked t) : PamAdvances c method body s e t where
  history := .silent hout hunasked
  stage := by
    intro hlive
    rw [hfreed] at hlive
    cases hlive
  asks := fun _ hasked => absurd hunasked hasked
  keeps := fun hasked => absurd hs hasked

/-- A connection that goes on without a request. -/
theorem PamAdvances.of_stage (hstage : PamStage c t) (hs : PamUnasked s)
    (hunasked : PamUnasked t) (hhistory : PamHistory c t) : PamAdvances c method body s e t where
  history := hhistory
  stage := fun _ => hstage
  asks := fun _ hasked => absurd hunasked hasked
  keeps := fun hasked => absurd hs hasked

/-- The interest and the calls after a read of PAM_AUTH. -/
theorem gate_of_auth_read (hs : PamSound s) (hstate : s.state = .auth)
    (henabled : PamEnabled s (.read fd env))
    (hinterest : s.sel.interestOf s.conn.clientFd = some .opRead)
    (hcalls : ∀ username pass r, PamAction.authenticate username pass r ∉ s.log)
    (ht : pamStep s (.read fd env) = .ok t) (hlive : t.freed = false) : PamGatePhase t := by
  obtain ⟨hfd, -⟩ := interestOf_of_read_enabled hs henabled
  rw [pamStep_read hs.freed] at ht
  exact (keepsGate_auth_read hs hstate hfd hinterest hcalls t ht).2 hlive

/-- Part of the credentials is there. -/
theorem PamStage.of_held {memory : ℕ → UInt8} {entry : PamSession}
    (h : PamAuthHeld c memory entry t.bytesIn t) (hlog : entry.log = []) (hout : t.bytesOut = [])
    (hgate : PamGatePhase t) : PamStage c t := by
  refine .decoding memory entry h hlog hout ?_
  rcases hgate with ⟨-, hinterest, -⟩ | ⟨-, -, hanswered⟩ | ⟨hstate, -⟩
  · exact hinterest
  · obtain ⟨r, hr⟩ := hanswered.checked
    rcases h.kept.calls _ hr with hold | hreceives
    · rw [hlog] at hold
      cases hold
    · exact absurd hreceives id
  · rw [PamSession.state, h.stm] at hstate
    cases hstate

/-- The credentials are complete. -/
theorem PamStage.of_checked {memory : ℕ → UInt8} {entry : PamSession} (hsound : PamSound t)
    (h : PamAuthChecked c memory entry fd t) (hname : c.username.length < 255)
    (hin : t.bytesIn = c.pamMessage) (hout : t.bytesOut = []) (hunasked : PamUnasked t)
    (hgate : PamGatePhase t) : PamStage c t := by
  obtain ⟨x, data, hkept, hcredentials, heq⟩ := h
  have hcredentials' : t.conn.auth.credentials = pamCredentials memory c.username c.password := by
    rw [heq]
    exact hcredentials
  have hchecks : .authenticate x.conn.username x.conn.pass
      (userAuthenticate x.users x.conn.username x.conn.pass) ∈ t.log := by
    rw [heq]
    exact List.mem_append_right _ (List.mem_singleton_self _)
  have hstm : t.conn.stm = some .auth := by rw [heq]
  have hcontent : t.conn.clientBuffer.content = t.answer := by
    have hlimit := hsound.limit
    rw [heq] at hlimit ⊢
    change (PamSession.answerWith x [pamVersion1, pamVerdict x.users x.conn]
      ).conn.clientBuffer.content = [pamVersion1, pamVerdict x.users x.conn]
    rw [answerWith_content]
    refine List.take_of_length_le ?_
    have hframe : PamFrame x (x.checked ⟨fd, data⟩) := pamChecked_frame
    have hkeeps : x.conn.clientBuffer.limit = pamBufferSize := hframe.limit.symm.trans hlimit
    rw [hkeeps, pamBufferSize]
    change 2 ≤ 65536
    omega
  rcases hgate with ⟨-, -, hcalls⟩ | ⟨-, hinterest, hanswered⟩ | ⟨hstate, -⟩
  · exact absurd hchecks (hcalls _ _ _)
  · refine .answering hstm hin ?_ ⟨hanswered, ?_, ?_⟩ hunasked hinterest
    · rw [hout, hcontent]
      rfl
    · exact username_pamCredentials hcredentials' hname
    · exact pass_pamCredentials hcredentials' c.plen.2
  · rw [PamSession.state, hstm] at hstate
    cases hstate

/-- What a connection receives before it has said anything, begins the
credentials. -/
theorem PamOffers.credentials (hoffers : PamOffers c method body s (.read fd env))
    (hout : s.bytesOut = []) (hrecv : env.recv = some chunk) :
    s.bytesIn ++ chunk <+: c.pamMessage := (hoffers chunk hrecv).1 hout

/-- What it receives once it has answered them, begins the request. -/
theorem PamOffers.request (hoffers : PamOffers c method body s (.read fd env))
    (hin : s.bytesIn = c.pamMessage) (hout : s.bytesOut = s.answer)
    (hrecv : env.recv = some chunk) : chunk <+: requestMessage method body := by
  have hmore := (hoffers chunk hrecv).2 (by rw [hout]; exact List.cons_ne_nil _ _)
  rw [hin] at hmore
  exact (List.prefix_append_right_inj _).mp hmore

theorem no_bytes_or_chunk (env : PamEnv) :
    (env.recv = none ∨ env.recv = some []) ∨ ∃ chunk, env.recv = some chunk ∧ chunk ≠ [] := by
  rcases env.recv with _ | _ | ⟨first, more⟩
  · exact .inl (.inl rfl)
  · exact .inl (.inr rfl)
  · exact .inr ⟨_, rfl, List.cons_ne_nil _ _⟩

theorem bytesIn_of_read (hs : PamSound s) (hrecv : env.recv = some chunk)
    (hroom : chunk.length ≤ s.conn.clientBuffer.space)
    (ht : pamStep s (.read fd env) = .ok t) : t.bytesIn = s.bytesIn ++ chunk := by
  have hmoves : PamTransfers s t ((env.recv.getD []).take s.conn.clientBuffer.space) [] :=
    pamStep_moves (.inr hs) ht
  rw [hrecv, Option.getD_some, List.take_of_length_le hroom] at hmoves
  exact hmoves.bytesIn

/-- The connection is gone before it has said anything. -/
theorem PamAdvances.of_silent_end (hs : PamSound s) (hunasked : PamUnasked s)
    (hout : s.bytesOut = []) (hrecv : env.recv = none ∨ env.recv = some [])
    (ht : pamStep s (.read fd env) = .ok t) :
    PamAdvances c method body s (.read fd env) t := by
  obtain ⟨x, st, -, hcalls, -, heq⟩ := gone_of_no_bytes hs hrecv ht
  refine .of_silent_gone (by rw [heq]; rfl) ((bytesOut_of_read hs ht).trans hout) hunasked ?_
  rw [heq]
  exact pamUnasked_gone (pamUnasked_of_log (pamUnasked_of_receives hunasked hcalls) rfl)

/-- The credentials go on, or are complete. -/
theorem PamAdvances.of_credentials (memory : ℕ → UInt8) (entry : PamSession) (hs : PamSound s)
    (hstate : s.state = .auth) (henabled : PamEnabled s (.read fd env))
    (hinterest : s.sel.interestOf s.conn.clientFd = some .opRead)
    (hcalls : ∀ action ∈ s.log, action.Receives) (hlog : entry.log = [])
    (hout : s.bytesOut = []) (hname : c.username.length < 255)
    (hrecv : env.recv = some chunk) (hroom : chunk.length ≤ s.conn.clientBuffer.space)
    (hmore : s.bytesIn ++ chunk <+: c.pamMessage)
    (hread : ((s.bytesIn ++ chunk).length < c.pamMessage.length →
        ∃ t, pamStep s (.read fd env) = .ok t ∧
          PamAuthHeld c memory entry (s.bytesIn ++ chunk) t) ∧
      (s.bytesIn ++ chunk = c.pamMessage →
        ∃ t, pamStep s (.read fd env) = .ok t ∧ PamAuthChecked c memory entry fd t))
    (ht : pamStep s (.read fd env) = .ok t) :
    PamAdvances c method body s (.read fd env) t := by
  have hunasked : PamUnasked s := fun method body hhandle => hcalls _ hhandle
  have hunchecked : ∀ username pass r, PamAction.authenticate username pass r ∉ s.log :=
    fun username pass r hr => hcalls _ hr
  have hin := bytesIn_of_read hs hrecv hroom ht
  have hout' := (bytesOut_of_read hs ht).trans hout
  have hunasked' : PamUnasked t := by
    rw [pamStep_read hs.freed] at ht
    exact pamRead_auth_unasked hs hstate hunasked ht
  by_cases hcomplete : s.bytesIn ++ chunk = c.pamMessage
  · obtain ⟨t', ht', hchecked⟩ := hread.2 hcomplete
    obtain rfl := Except.ok.inj (ht'.symm.trans ht)
    have hlive : t'.freed = false := by
      obtain ⟨x, data, hkept, -, heq⟩ := hchecked
      rw [heq]
      exact hkept.freed
    have hgate := gate_of_auth_read hs hstate henabled hinterest hunchecked ht hlive
    exact .of_stage (.of_checked (pamSound_of_step hs ht hlive) hchecked hname
      (hin.trans hcomplete) hout' hunasked' hgate) hunasked hunasked' (.silent hout' hunasked')
  · have hshort : (s.bytesIn ++ chunk).length < c.pamMessage.length := by
      refine lt_of_le_of_ne hmore.length_le fun hlen => hcomplete ?_
      exact hmore.eq_of_length hlen
    obtain ⟨t', ht', hheld⟩ := hread.1 hshort
    obtain rfl := Except.ok.inj (ht'.symm.trans ht)
    have hgate := gate_of_auth_read hs hstate henabled hinterest hunchecked ht hheld.kept.freed
    rw [← hin] at hheld
    exact .of_stage (.of_held hheld hlog hout' hgate) hunasked hunasked' (.silent hout' hunasked')

theorem PamAdvances.of_fresh (hs : PamSound s) (h : AtPamAuth s) (hlog : s.log = [])
    (hinterest : s.sel.interestOf s.conn.clientFd = some .opRead)
    (hname : c.username.length < 255) (henabled : PamEnabled s (.read fd env))
    (hoffers : PamOffers c method body s (.read fd env))
    (ht : pamStep s (.read fd env) = .ok t) :
    PamAdvances c method body s (.read fd env) t := by
  have hcalls : ∀ action ∈ s.log, action.Receives := by
    rw [hlog]
    exact List.forall_mem_nil _
  have hunasked : PamUnasked s := fun method body hhandle => hcalls _ hhandle
  have hin : s.bytesIn = [] := by rw [PamSession.bytesIn, hlog, List.flatMap_nil]
  have hout : s.bytesOut = [] := by rw [PamSession.bytesOut, hlog, List.flatMap_nil]
  rcases no_bytes_or_chunk env with hnone | ⟨chunk, hrecv, hne⟩
  · exact .of_silent_end hs hunasked hout hnone ht
  · have hmore := hoffers.credentials hout hrecv
    have hlen := hmore.length_le
    have hulen := c.ulen.2
    have hplen := c.plen.2
    rw [hin, List.nil_append, c.length_pamMessage] at hlen
    by_cases hheader : 3 ≤ chunk.length
    · have hspace : s.conn.clientBuffer.space = 65536 := by
        rw [← (pamArrived_bytes s).2]
        exact h.awaits.space
      rw [hin, List.nil_append] at hmore
      have hread := h.read fd hrecv hmore hheader
      refine .of_credentials s.conn.auth.credentials s hs h.state henabled hinterest hcalls hlog
        hout hname hrecv (by omega) ?_ ?_ ht
      · rw [hin]
        exact hmore
      · rw [hin]
        exact hread
    · have hdown : TurnedDown chunk := .inr (List.getD_eq_default _ _ (by omega))
      obtain ⟨-, hrefused⟩ := h.refuses fd hrecv hne (by rw [pamBufferSize]; omega) hdown
      obtain ⟨hstm, -⟩ := hrefused t ht
      have hfreed : t.freed = true := by
        by_contra hlive
        have hsound := pamSound_of_step hs ht (Bool.eq_false_iff.mpr hlive)
        rcases hsound.phase with hauth | ⟨hrequest, -⟩
        · rw [PamSession.state, hstm] at hauth
          cases hauth
        · rw [PamSession.state, hstm] at hrequest
          cases hrequest
      have hunasked' : PamUnasked t := by
        rw [pamStep_read hs.freed] at ht
        exact pamRead_auth_unasked hs h.state hunasked ht
      exact .of_silent_gone hfreed ((bytesOut_of_read hs ht).trans hout) hunasked hunasked'

theorem PamAdvances.of_decoding {memory : ℕ → UInt8} {entry : PamSession} (hs : PamSound s)
    (h : PamAuthHeld c memory entry s.bytesIn s) (hlog : entry.log = []) (hout : s.bytesOut = [])
    (hinterest : s.sel.interestOf s.conn.clientFd = some .opRead)
    (hname : c.username.length < 255) (henabled : PamEnabled s (.read fd env))
    (hoffers : PamOffers c method body s (.read fd env))
    (ht : pamStep s (.read fd env) = .ok t) :
    PamAdvances c method body s (.read fd env) t := by
  have hcalls : ∀ action ∈ s.log, action.Receives := by
    intro action haction
    rcases h.kept.calls action haction with hold | hreceives
    · rw [hlog] at hold
      cases hold
    · exact hreceives
  have hunasked : PamUnasked s := fun method body hhandle => hcalls _ hhandle
  rcases no_bytes_or_chunk env with hnone | ⟨chunk, hrecv, hne⟩
  · exact .of_silent_end hs hunasked hout hnone ht
  · have hmore := hoffers.credentials hout hrecv
    have hlen := hmore.length_le
    have hroom := h.decoding.room
    rw [List.length_append] at hlen
    have hstate : s.state = .auth := by rw [PamSession.state, h.stm]; rfl
    exact .of_credentials memory entry hs hstate henabled hinterest hcalls hlog hout hname hrecv
      (by omega) hmore (h.read fd hrecv hne hmore) ht

/-- The connection is gone before it has received a request. -/
theorem PamAdvances.of_request_end (hs : AtPamRequest s) (hin : s.bytesIn = c.pamMessage)
    (hout : s.bytesOut = s.answer) (hchecked : PamChecked c s)
    (hrecv : env.recv = none ∨ env.recv = some []) (henabled : PamEnabled s (.read fd env))
    (ht : pamStep s (.read fd env) = .ok t) :
    PamAdvances c method body s (.read fd env) t := by
  have hunasked : PamUnasked s := hs.calls
  have hsent := bytesOut_of_read hs.sound ht
  have hlog : s.log <+: t.log := (pamStep_effect (.inr hs.sound) henabled trivial ht).2.log
  have hreceived : t.bytesIn = c.pamMessage := by
    have hmoves : PamTransfers s t ((env.recv.getD []).take s.conn.clientBuffer.space) [] :=
      pamStep_moves (.inr hs.sound) ht
    have hnothing : env.recv.getD [] = [] := by
      rcases hrecv with hnone | hnil
      · rw [hnone, Option.getD_none]
      · rw [hnil, Option.getD_some]
    rw [hmoves.bytesIn, hin, hnothing, List.take_nil, List.append_nil]
  obtain ⟨x, st, -, hcalls, hauth, heq⟩ := gone_of_no_bytes hs.sound hrecv ht
  have hkept : t.conn.auth = s.conn.auth := by
    rw [heq]
    exact hauth hs.state
  have hunasked' : PamUnasked t := by
    rw [heq]
    exact pamUnasked_gone (pamUnasked_of_log (pamUnasked_of_receives hunasked hcalls) rfl)
  have hchecked' : PamChecked c t := by
    refine hchecked.persists hkept hlog ?_
    intro username pass r hr
    rw [heq] at hr
    have hr' : .authenticate username pass r ∈ x.log := by
      simpa [PamSession.gone, pamClose, PamSession.act] using hr
    rcases hcalls _ hr' with hold | hreceives
    · exact hold
    · exact absurd hreceives id
  have hsame : t.bytesOut = t.answer := by
    rw [hsent, hout]
    exact (congrArg (fun auth : PamAuthSt => [pamVersion1, auth.status]) hkept).symm
  refine ⟨.answered (hreceived ▸ List.prefix_rfl) (hsame ▸ List.prefix_rfl) hchecked' hunasked',
    ?_, fun _ hasked => absurd hunasked' hasked, fun hasked => absurd hunasked hasked⟩
  intro hlive
  rw [heq] at hlive
  cases hlive

/-- What a handler leaves once its response has been put into the buffer. -/
theorem pamRequestAnswer_leaves {x y : PamSession} {buffer : Buffer} (key : SelectorKey)
    (h : handlePamRequestMethod env x buffer = .ok y) :
    let u := (pamRequestAnswer key y).1
    u.conn.auth = x.conn.auth ∧ u.conn.clientFd = x.conn.clientFd ∧
      u.sel = (selectorSetInterest x.sel key.fd .opWrite).1 ∧
      u.log = x.log ++ [.handle x.conn.request.method buffer.content] ∧
      u.conn.clientBuffer.content <+: pamResponse u.conn.request := by
  obtain ⟨users, status, nbody, response, rfl⟩ := handlePamRequestMethod_leaving h
  refine ⟨rfl, rfl, rfl, rfl, ?_⟩
  generalize (x.handling buffer).leaving users status nbody response = y
  change (y.answerWith (pamResponse y.conn.request)).conn.clientBuffer.content <+: _
  rw [answerWith_content]
  exact List.take_prefix _ _

/-- The request arrives. -/
theorem PamAdvances.of_request (hs : AtPamRequest s) (hin : s.bytesIn = c.pamMessage)
    (hout : s.bytesOut = s.answer) (hchecked : PamChecked c s) (hbody : body.length ≤ 32765)
    (henabled : PamEnabled s (.read fd env)) (hoffers : PamOffers c method body s (.read fd env))
    (ht : pamStep s (.read fd env) = .ok t) :
    PamAdvances c method body s (.read fd env) t := by
  rcases no_bytes_or_chunk env with hnone | ⟨chunk, hrecv, hne⟩
  · exact .of_request_end hs hin hout hchecked hnone henabled ht
  have hunasked : PamUnasked s := hs.calls
  have hsent := bytesOut_of_read hs.sound ht
  have hlog : s.log <+: t.log := (pamStep_effect (.inr hs.sound) henabled trivial ht).2.log
  have hreceived : c.pamMessage <+: t.bytesIn := by
    have hmoves : PamTransfers s t ((env.recv.getD []).take s.conn.clientBuffer.space) [] :=
      pamStep_moves (.inr hs.sound) ht
    rw [hmoves.bytesIn, hin]
    exact List.prefix_append _ _
  have hhands := hs.handsOver hbody hrecv hne (hoffers.request hin hout hrecv) ht
  obtain ⟨fd', env', x, y, buffer, rest, he, hreading, -, hhandle, heq, -⟩ := id hhands
  obtain ⟨rfl, rfl⟩ := PamEvent.read.inj he
  obtain ⟨hfd, -⟩ := interestOf_of_read_enabled hs.sound henabled
  obtain ⟨hsameAuth, hclient, hsel, hcalls, hcontent⟩ :=
    pamRequestAnswer_leaves ⟨fd, s.address⟩ hhandle
  have hauth : t.conn.auth = s.conn.auth := by
    rw [heq]
    exact hsameAuth.trans hreading.auth
  have hasked : ¬ PamUnasked t := by
    intro hunasked'
    refine hunasked' x.conn.request.method buffer.content ?_
    rw [heq]
    change _ ∈ (pamRequestAnswer ⟨fd, s.address⟩ y).1.log
    rw [hcalls]
    exact List.mem_append_right _ (List.mem_singleton_self _)
  have hchecked' : PamChecked c t := by
    refine hchecked.persists hauth hlog ?_
    intro username pass r hr
    rw [heq] at hr
    change _ ∈ (pamRequestAnswer ⟨fd, s.address⟩ y).1.log at hr
    rw [hcalls] at hr
    rcases List.mem_append.mp hr with hold | hnew
    · rcases hreading.calls _ hold with hold | hreceives
      · exact hold
      · exact absurd hreceives id
    · cases List.mem_singleton.mp hnew
  have hanswer : t.answer = s.answer :=
    congrArg (fun auth : PamAuthSt => [pamVersion1, auth.status]) hauth
  have hleft : t.conn.clientBuffer.content <+: pamResponse t.conn.request := by
    rw [heq]
    exact hcontent
  have hinterest : t.sel.interestOf t.conn.clientFd = some .opWrite := by
    rw [heq]
    change (pamRequestAnswer ⟨fd, s.address⟩ y).1.sel.interestOf
      (pamRequestAnswer ⟨fd, s.address⟩ y).1.conn.clientFd = _
    rw [hsel, hclient, hreading.registrations, hreading.clientFd, hfd]
    exact interestOf_selectorSetInterest_self
      (interestOf_ne_none_of_dataOf hs.sound.registered.owns)
  have hstate : t.state = .request := by
    rw [heq]
    rfl
  refine ⟨.replied hreceived ?_ hchecked' hasked, fun _ => .responding hstate hreceived ?_
    hchecked' hasked hinterest, fun _ _ => ⟨hhands, hchecked, hauth⟩,
    fun hasked => absurd hunasked hasked⟩
  · rw [hsent, hout, hanswer]
    exact List.prefix_append _ _
  · rw [hsent, hout, hanswer]
    exact (List.prefix_append_right_inj _).mpr hleft

end Reading

/-! ### Writes -/

section Writing

variable {env : PamEnv} {s t : PamSession} {c : Credentials} {method : UInt16}
  {body : List UInt8} {fd : ℤ}

theorem pamUnasked_earlier (hlog : s.log <+: t.log) (h : PamUnasked t) : PamUnasked s :=
  fun method body hhandle => h method body (hlog.subset hhandle)

theorem PamChecked.sending (h : PamChecked c s) (answer : Option ℕ) :
    PamChecked c (s.sending answer) := by
  rcases answer with _ | k
  · exact h.concat rfl rfl nofun
  · exact h.concat rfl rfl nofun

theorem pamUnasked_sending (h : PamUnasked s) (answer : Option ℕ) :
    PamUnasked (s.sending answer) := by
  rcases answer with _ | k
  · exact pamUnasked_concat h rfl nofun
  · exact pamUnasked_concat h rfl nofun

theorem PamChecked.of_same (h : PamChecked c s) (hauth : t.conn.auth = s.conn.auth)
    (hlog : t.log = s.log) : PamChecked c t := by
  refine h.persists hauth (hlog ▸ List.prefix_rfl) ?_
  rw [hlog]
  exact fun _ _ _ hr => hr

theorem bytesIn_of_write (hs : PamSound s) (ht : pamStep s (.write fd env) = .ok t) :
    t.bytesIn = s.bytesIn :=
  (pamStep_moves (.inr hs) ht).bytesIn.trans (List.append_nil _)

theorem bytesOut_of_write (hs : PamSound s) (ht : pamStep s (.write fd env) = .ok t) :
    t.bytesOut = s.bytesOut ++ s.conn.clientBuffer.content.take (env.send.getD 0) :=
  (pamStep_moves (.inr hs) ht).bytesOut

/-- What has been sent and what is left of the answer after a write. -/
theorem sent_append_left {content sent : List UInt8} (k : ℕ) :
    (sent ++ content.take k) ++ content.drop k = sent ++ content := by
  rw [List.append_assoc, List.take_append_drop]

/-- The answer to the credentials is sent. -/
theorem PamAdvances.of_answering (hs : PamSound s) (hstm : s.conn.stm = some .auth)
    (hin : s.bytesIn = c.pamMessage)
    (hout : s.bytesOut ++ s.conn.clientBuffer.content = s.answer) (hchecked : PamChecked c s)
    (hunasked : PamUnasked s) (hinterest : s.sel.interestOf s.conn.clientFd = some .opWrite)
    (henabled : PamEnabled s (.write fd env)) (ht : pamStep s (.write fd env) = .ok t) :
    PamAdvances c method body s (.write fd env) t := by
  have hfd : fd = s.conn.clientFd := hs.registered.only fd henabled.1
  have hin' := (bytesIn_of_write hs ht).trans hin
  have hout' := bytesOut_of_write hs ht
  have hsent : t.bytesOut <+: s.answer := by
    rw [hout', ← hout]
    exact (List.prefix_append_right_inj _).mpr (List.take_prefix _ _)
  have hstate : s.state = .auth := by rw [PamSession.state, hstm]; rfl
  have harrived : s.arrived = s := by rw [PamSession.arrived, hstm]
  have hstep := ht
  rw [pamStep_write hs.freed, pamWrite_auth hstate, harrived] at hstep
  have hends := pamAuthWrite_ends env ⟨fd, s.address⟩ s
  generalize pamAuthWrite env ⟨fd, s.address⟩ s = r at hends hstep
  rcases hends with hnone | ⟨k, hsome, hleft⟩ | ⟨k, hsome, hempty⟩
  · rw [pamSettle_stop (.inl rfl),
      pamDone_of_registered (registered_of_stm _ hs (pamSending_frame none))] at hstep
    obtain rfl := Except.ok.inj hstep
    have hquiet := pamUnasked_gone (pamUnasked_of_log (pamUnasked_sending hunasked none) rfl :
      PamUnasked { s.sending none with conn.stm := some .error })
    have hkept := ((hchecked.sending none).of_same rfl rfl :
      PamChecked c { s.sending none with conn.stm := some .error }).gone
    refine ⟨.answered (hin' ▸ List.prefix_rfl) hsent hkept hquiet, ?_,
      fun _ hasked => absurd hquiet hasked, fun hasked => absurd hunasked hasked⟩
    intro hlive
    cases hlive
  · rw [pamSettle_stay (by simp) (by simp)] at hstep
    have heq := Except.ok.inj hstep
    have hquiet : PamUnasked t :=
      pamUnasked_of_log (pamUnasked_sending hunasked (some k)) (heq ▸ rfl)
    have hkept : PamChecked c t := (hchecked.sending (some k)).of_same (heq ▸ rfl) (heq ▸ rfl)
    subst heq
    refine .of_stage (.answering rfl hin' ?_ hkept hquiet hinterest) hunasked hquiet
      (.answered (hin' ▸ List.prefix_rfl) hsent hkept hquiet)
    rw [hout', hsome, Option.getD_some]
    change _ ++ (s.sending (some k)).conn.clientBuffer.content = s.answer
    rw [pamSending_content, sent_append_left, hout]
  · rw [pamSettle_request] at hstep
    have heq := Except.ok.inj hstep
    have hquiet : PamUnasked t :=
      pamUnasked_of_log (pamUnasked_sending hunasked (some k)) (heq ▸ rfl)
    have hkept : PamChecked c t := (hchecked.sending (some k)).of_same (heq ▸ rfl) (heq ▸ rfl)
    subst heq
    have hsound := pamSound_of_step hs ht hs.freed
    refine .of_stage (.requesting ⟨hsound, rfl, ⟨rfl, rfl, rfl, hsound.limit⟩, hquiet⟩ hin' ?_
      hkept ?_) hunasked hquiet (.answered (hin' ▸ List.prefix_rfl) hsent hkept hquiet)
    · rw [hout', hsome, Option.getD_some, List.take_of_length_le (List.drop_eq_nil_iff.mp hempty)]
      exact hout
    · change (selectorSetInterest s.sel fd .opRead).1.interestOf s.conn.clientFd = _
      rw [hfd]
      exact interestOf_selectorSetInterest_self (by rw [hinterest]; simp)

/-- The response is sent. -/
theorem PamAdvances.of_responding (hs : PamSound s) (hstate : s.state = .request)
    (hin : c.pamMessage <+: s.bytesIn)
    (hout : s.bytesOut ++ s.conn.clientBuffer.content <+: s.answer ++ pamResponse s.conn.request)
    (hchecked : PamChecked c s) (hasked : ¬ PamUnasked s)
    (hinterest : s.sel.interestOf s.conn.clientFd = some .opWrite)
    (henabled : PamEnabled s (.write fd env)) (ht : pamStep s (.write fd env) = .ok t) :
    PamAdvances c method body s (.write fd env) t := by
  have hin' : c.pamMessage <+: t.bytesIn := (bytesIn_of_write hs ht).symm ▸ hin
  have hout' := bytesOut_of_write hs ht
  have hsent : t.bytesOut <+: s.answer ++ pamResponse s.conn.request := by
    rw [hout']
    exact ((List.prefix_append_right_inj _).mpr (List.take_prefix _ _)).trans hout
  have hasked' : ¬ PamUnasked t := fun hunasked =>
    hasked (pamUnasked_earlier (pamStep_effect (.inr hs) henabled trivial ht).2.log hunasked)
  have hstep := ht
  rw [pamStep_write hs.freed, pamWrite_request hstate] at hstep
  have hends := pamRequestWrite_ends env ⟨fd, s.address⟩ s
  generalize pamRequestWrite env ⟨fd, s.address⟩ s = r at hends hstep
  rcases hends with hnone | ⟨k, hsome, hleft⟩ | ⟨k, hsome, hempty⟩
  · rw [pamSettle_stop (.inl rfl),
      pamDone_of_registered (registered_of_stm _ hs (pamSending_frame none))] at hstep
    obtain rfl := Except.ok.inj hstep
    have hkept := ((hchecked.sending none).of_same rfl rfl :
      PamChecked c { s.sending none with conn.stm := some .error }).gone
    refine ⟨.replied hin' hsent hkept hasked', ?_, fun hunasked => absurd hunasked hasked,
      fun _ => ⟨rfl, rfl⟩⟩
    intro hlive
    cases hlive
  · rw [pamSettle_stay (by simp) (by simp)] at hstep
    have heq := Except.ok.inj hstep
    have hkept : PamChecked c t := (hchecked.sending (some k)).of_same (heq ▸ rfl) (heq ▸ rfl)
    subst heq
    refine ⟨.replied hin' hsent hkept hasked', fun _ => .responding rfl hin' ?_ hkept hasked'
      hinterest, fun hunasked => absurd hunasked hasked, fun _ => ⟨rfl, rfl⟩⟩
    rw [hout', hsome, Option.getD_some]
    change _ ++ (s.sending (some k)).conn.clientBuffer.content <+:
      s.answer ++ pamResponse s.conn.request
    rw [pamSending_content, sent_append_left]
    exact hout
  · rw [pamSettle_stop (.inr rfl),
      pamDone_of_registered (registered_of_stm _ hs (pamSent_frame _ _ _))] at hstep
    obtain rfl := Except.ok.inj hstep
    have hkept := ((hchecked.sending (some k)).of_same rfl rfl :
      PamChecked c { ({ s.sending (some k) with
        conn.clientBuffer := bufferReset (s.sending (some k)).conn.clientBuffer } :
          PamSession).setInterest fd .opNoop with conn.stm := some .done }).gone
    refine ⟨.replied hin' hsent hkept hasked', ?_, fun hunasked => absurd hunasked hasked,
      fun _ => ⟨rfl, rfl⟩⟩
    intro hlive
    cases hlive

end Writing

/-! ### Other connections -/

section Others

variable {s : PamSession} {c : Credentials}

theorem AtPamAuth.others (h : AtPamAuth s) (users : UserStore) (metrics : MetricSnapshot) :
    AtPamAuth { s with users := users, metrics := metrics } := by
  have harrived : ({ s with users := users, metrics := metrics } : PamSession).arrived =
      { s.arrived with users := users, metrics := metrics } := by
    unfold PamSession.arrived
    dsimp only
    split <;> rfl
  refine ⟨h.state, h.freed, ?_⟩
  rw [harrived]
  exact ⟨h.awaits.state, h.awaits.empty, h.awaits.space⟩

theorem PamChecked.others (h : PamChecked c s) (users : UserStore) (metrics : MetricSnapshot) :
    PamChecked c { s with users := users, metrics := metrics } :=
  h.of_same rfl rfl

/-- What other connections do to the store leaves the exchange where it is. -/
theorem PamStage.others (h : PamStage c s) (users : UserStore) (metrics : MetricSnapshot) :
    PamStage c { s with users := users, metrics := metrics } := by
  rcases h with ⟨hauth, hlog, hinterest⟩ | ⟨memory, entry, hheld, hlog, hout, hinterest⟩ |
    ⟨hstm, hin, hout, hchecked, hunasked, hinterest⟩ | ⟨hrequest, hin, hout, hchecked, hinterest⟩ |
    ⟨hstate, hin, hout, hchecked, hasked, hinterest⟩
  · exact .fresh (hauth.others users metrics) hlog hinterest
  · have hkept := hheld.kept
    have hdecoding := hheld.decoding
    -- the snapshot the connection started from has changed with the store
    refine .decoding memory { entry with users := users } ⟨hheld.stm, ?_, ?_⟩ hlog hout hinterest
    · exact ⟨hkept.freed, rfl, hkept.request, hkept.limit, hkept.calls⟩
    · exact ⟨hdecoding.nUser, hdecoding.nPass, hdecoding.started, hdecoding.name, hdecoding.pass,
        hdecoding.room⟩
  · exact .answering hstm hin hout (hchecked.others users metrics) hunasked hinterest
  · exact .requesting (hrequest.others users metrics) hin hout (hchecked.others users metrics)
      hinterest
  · exact .responding hstate hin hout (hchecked.others users metrics) hasked hinterest

theorem PamHistory.others (h : PamHistory c s) (users : UserStore) (metrics : MetricSnapshot) :
    PamHistory c { s with users := users, metrics := metrics } := by
  rcases h with ⟨hout, hunasked⟩ | ⟨hin, hout, hchecked, hunasked⟩ | ⟨hin, hout, hchecked, hasked⟩
  · exact .silent hout hunasked
  · exact .answered hin hout (hchecked.others users metrics) hunasked
  · exact .replied hin hout (hchecked.others users metrics) hasked

end Others

/-! ### Any event -/

/-- The client and its connection, in any state of a run. -/
structure PamExchange (c : Credentials) (s : PamSession) : Prop where
  intact : PamIntact s
  history : PamHistory c s
  stage : s.freed = false → PamStage c s

section Step

variable {s t : PamSession} {c : Credentials} {method : UInt16} {body : List UInt8}
  {e : PamEvent}

theorem PamStage.step (hs : PamSound s) (h : PamStage c s) (hhistory : PamHistory c s)
    (hname : c.username.length < 255) (hbody : body.length ≤ 32765) (henabled : PamEnabled s e)
    (hoffers : PamOffers c method body s e) (ht : pamStep s e = .ok t) :
    PamAdvances c method body s e t := by
  rcases e with ⟨fd, env⟩ | ⟨fd, env⟩ | ⟨users, metrics⟩
  · have hinterest := (interestOf_of_read_enabled hs henabled).2
    rcases h with ⟨hauth, hlog, hreads⟩ | ⟨memory, entry, hheld, hlog, hout, hreads⟩ |
      ⟨-, -, -, -, -, hwrites⟩ | ⟨hrequest, hin, hout, hchecked, -⟩ | ⟨-, -, -, -, -, hwrites⟩
    · exact .of_fresh hs hauth hlog hreads hname henabled hoffers ht
    · exact .of_decoding hs hheld hlog hout hreads hname henabled hoffers ht
    · exact absurd hwrites hinterest
    · exact .of_request hrequest hin hout hchecked hbody henabled hoffers ht
    · exact absurd hwrites hinterest
  · have hinterest := interestOf_of_write_enabled hs henabled
    rcases h with ⟨-, -, hreads⟩ | ⟨-, -, -, -, -, hreads⟩ |
      ⟨hstm, hin, hout, hchecked, hunasked, hwrites⟩ | ⟨-, -, -, -, hreads⟩ |
      ⟨hstate, hin, hout, hchecked, hasked, hwrites⟩
    · exact absurd hreads hinterest
    · exact absurd hreads hinterest
    · exact .of_answering hs hstm hin hout hchecked hunasked hwrites henabled ht
    · exact absurd hreads hinterest
    · exact .of_responding hs hstate hin hout hchecked hasked hwrites henabled ht
  · obtain rfl := Except.ok.inj ht
    exact ⟨hhistory.others users metrics, fun _ => h.others users metrics,
      fun hunasked hasked => absurd hunasked hasked, fun _ => ⟨rfl, rfl⟩⟩

/-- A connection that is gone notices nothing. -/
theorem PamAdvances.of_gone (hfreed : s.freed = true) (hhistory : PamHistory c s)
    (ht : pamStep s e = .ok t) : PamAdvances c method body s e t := by
  rcases e with ⟨fd, env⟩ | ⟨fd, env⟩ | ⟨users, metrics⟩
  · rw [pamStep, hfreed] at ht
    cases ht
  · rw [pamStep, hfreed] at ht
    cases ht
  · obtain rfl := Except.ok.inj ht
    refine ⟨hhistory.others users metrics, ?_, fun hunasked hasked => absurd hunasked hasked,
      fun _ => ⟨rfl, rfl⟩⟩
    intro hlive
    rw [hfreed] at hlive
    cases hlive

/-- Calls are never taken back. -/
theorem pamStep_log (hs : PamIntact s) (henabled : PamEnabled s e) (ht : pamStep s e = .ok t) :
    s.log <+: t.log := by
  rcases e with ⟨fd, env⟩ | ⟨fd, env⟩ | ⟨users, metrics⟩
  · exact (pamStep_effect hs henabled trivial ht).2.log
  · exact (pamStep_effect hs henabled trivial ht).2.log
  · obtain rfl := Except.ok.inj ht
    exact List.prefix_rfl

/-- One event of the exchange. -/
theorem PamExchange.step (h : PamExchange c s) (hname : c.username.length < 255)
    (hbody : body.length ≤ 32765) (henabled : PamEnabled s e)
    (hoffers : PamOffers c method body s e) (ht : pamStep s e = .ok t) :
    PamAdvances c method body s e t ∧ PamExchange c t := by
  have hadvances : PamAdvances c method body s e t := by
    rcases h.intact with hfreed | hs
    · exact .of_gone hfreed h.history ht
    · exact (h.stage hs.freed).step hs h.history hname hbody henabled hoffers ht
  exact ⟨hadvances, (pamStep_assertion_iff h.intact).2 t ht, hadvances.history, hadvances.stage⟩

end Step

end Socks5Proxy

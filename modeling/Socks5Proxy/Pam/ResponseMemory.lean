import Socks5Proxy.Pam.Listing
import Socks5Proxy.Pam.LocalArrays
import Socks5Proxy.Pam.RecordMemory
import Socks5Proxy.Pam.StatusCodes

/-!
# What a response depends on

`status`, `write_nbody` and `write_body` are sent whether or not the handler
has assigned them.  The listing of the users leaves `status` as it was on
success, and the four methods that change a user leave `write_nbody`.
-/

namespace Socks5Proxy

open Library Library.Memory

/-! ## The requests -/

/-- The methods whose handler leaves `status` or `write_nbody` as it was. -/
def LeavesMember (method : UInt16) : Prop :=
  method = pamRequestMethodGetConnectedUsersList ∨ method = pamRequestMethodAddUser ∨
    method = pamRequestMethodRemoveUser ∨ method = pamRequestMethodChangePassword ∨
    method = pamRequestMethodChangeRole

instance (method : UInt16) : Decidable (LeavesMember method) :=
  inferInstanceAs (Decidable (_ ∨ _))

/-- The guard of `handle_remove_user` asks for the privilege of nobody. -/
structure RemovesNobody (store : UserStore) (requester : List UInt8) (method : UInt16)
    (body : List UInt8) : Prop where
  method : method = pamRequestMethodRemoveUser
  requester : userIsAdmin store requester = true
  total : userTotalAdmins store = 1
  target : userGetIfExists store (cString (receivedField body).1) = none

/-- The handler of the request does not end: it dereferences a null pointer, or
leaves one of its arrays. -/
inductive Unanswered (store : UserStore) (requester : List UInt8) (method : UInt16)
    (body : List UInt8) : Prop
  | removesNobody (hnobody : RemovesNobody store requester method body)
  | overruns (hoverruns : Overruns method body)
  | listing (hmethod : method = pamRequestMethodGetConnectedUsersList)
      (hsize : 65536 < 36 + listingSize store)

/-- A connection up to a request: what was accepted, what happened to the
connection, and the event that hands the request over. -/
structure PamInquiry where
  sel : FdSelector FdHandler ℕ
  users : UserStore
  metrics : MetricSnapshot
  accepted : PamAccepted
  events : List PamEvent
  fd : ℤ
  env : PamEnv
  method : UInt16
  body : List UInt8

/-- The session in which the request is handed over, when `malloc` has returned
the memory `raw`. -/
structure PamInquiry.Reaches (q : PamInquiry) (raw : Pam) (s : PamSession) : Prop where
  fresh : PamFresh q.sel { q.accepted with raw := raw }
  reached : ∃ first, pamPassiveAccept q.sel q.users q.metrics { q.accepted with raw := raw } =
    some first ∧ Steps pamStep PamEnabled first q.events ∧ run pamStep first q.events = .ok s
  freed : s.freed = false
  state : s.state = .request
  enabled : PamEnabled s (.read q.fd q.env)
  handover : ∃ buffer : Buffer, buffer.content = q.body ∧
    pamRequestHandover q.env ⟨q.fd, s.address⟩ s = some (q.method, buffer)

/-- The members of the answer are the same. -/
structure AnswersAlike (r r' : PamRequestSt) : Prop where
  status : r'.status = r.status
  writeNbody : r'.writeNbody = r.writeNbody
  body : responseBody r' = responseBody r

/-- The response does not depend on the memory: the handler assigns all that is
sent, and other memory leads to the same bytes in `client_buffer`. -/
structure ResponseDetermined (q : PamInquiry) (s : PamSession) : Prop where
  assigned : ∀ (x t t' : PamSession) (buffer : Buffer) (m : PamAnswerMemory),
    x.conn.request.method = q.method → buffer.content = q.body → x.users = s.users →
    x.metrics = s.metrics → x.conn.username = s.conn.username →
    handlePamRequestMethod q.env x buffer = .ok t →
    handlePamRequestMethod q.env (x.holding m) buffer = .ok t' →
    AnswersAlike t.conn.request t'.conn.request
  response : ∀ raw s', q.Reaches raw s' → s'.users = s.users → s'.metrics = s.metrics →
    ∀ t t', pamStep s (.read q.fd q.env) = .ok t → pamStep s' (.read q.fd q.env) = .ok t' →
      t'.conn.clientBuffer.content = t.conn.clientBuffer.content

/-! ## What the handlers assign -/

section Handlers

variable {env : PamEnv} {s t x x' t' : PamSession} {buffer buffer' : Buffer}

theorem requestRemoveUser_ok_iff (target : CString) :
    (∃ t, requestRemoveUser target.bytes s = .ok t) ↔
      ¬ (userIsAdmin s.users s.conn.username = true ∧ userTotalAdmins s.users = 1 ∧
        userGetIfExists s.users target.bytes = none) := by
  rcases hadmin : userIsAdmin s.users s.conn.username with _ | _
  · exact iff_of_true ⟨_, requestRemoveUser_of_not_admin hadmin target⟩ (by simp)
  · rw [requestRemoveUser_eq hadmin]
    by_cases htotal : userTotalAdmins s.users = 1
    · rw [if_pos htotal]
      rcases userGetIfExists s.users target.bytes with _ | user
      · exact iff_of_false (by simp) (by simp [htotal])
      · refine iff_of_true ?_ (by simp)
        dsimp only
        split_ifs
        · exact ⟨_, rfl⟩
        · exact ⟨_, rfl⟩
    · rw [if_neg htotal]
      exact iff_of_true ⟨_, rfl⟩ (by simp [htotal])

/-- Where the strings fit, a request to remove fails for nobody only. -/
theorem removeUser_ok_iff (hmethod : s.conn.request.method = pamRequestMethodRemoveUser)
    (hfits : ¬ Overruns s.conn.request.method buffer.content) :
    (∃ t, handlePamRequestMethod env s buffer = .ok t) ↔
      ¬ RemovesNobody s.users s.conn.username s.conn.request.method buffer.content := by
  have hname : (s.handling buffer).conn.username = s.conn.username := Pam.username_congr rfl
  have hstring : (stringAt buffer).bytes = cString (receivedField buffer.content).1 :=
    (fieldText_receivedField buffer).1
  rw [dispatch_removeUser_fits hfits hmethod, requestRemoveUser_ok_iff, hname, hstring, not_iff_not]
  constructor
  · rintro ⟨hadmin, htotal, htarget⟩
    exact ⟨hmethod, hadmin, htotal, htarget⟩
  · rintro ⟨-, hadmin, htotal, htarget⟩
    exact ⟨hadmin, htotal, htarget⟩

variable (env) in
/-- Which requests a handler ends for. -/
theorem handlePamRequestMethod_ok_iff :
    (∃ t, handlePamRequestMethod env s buffer = .ok t) ↔
      ¬ Unanswered s.users s.conn.username s.conn.request.method buffer.content := by
  by_cases hoverruns : Overruns s.conn.request.method buffer.content
  · refine iff_of_false ?_ (not_not.mpr (.overruns hoverruns))
    rintro ⟨t, ht⟩
    exact fits_of_handled ht hoverruns
  by_cases hremove : s.conn.request.method = pamRequestMethodRemoveUser
  · rw [removeUser_ok_iff hremove hoverruns, not_iff_not]
    constructor
    · exact .removesNobody
    · rintro (hnobody | hlong | ⟨hlist, -⟩)
      · exact hnobody
      · exact absurd hlong hoverruns
      · rw [hremove] at hlist
        exact absurd hlist (by decide)
  by_cases hlist : s.conn.request.method = pamRequestMethodGetConnectedUsersList
  · have hok : (∃ t, handlePamRequestMethod env s buffer = .ok t) ↔
        36 + listingSize s.users ≤ 65536 := by
      simp only [handlePamRequestMethod_list_ok_iff hlist, exists_and_left, exists_eq, and_true]
    rw [hok, ← Nat.not_lt, not_iff_not]
    constructor
    · exact .listing hlist
    · rintro (hnobody | hlong | ⟨-, hsize⟩)
      · exact absurd hnobody.method hremove
      · exact absurd hlong hoverruns
      · exact hsize
  · refine iff_of_true ?_ ?_
    · by_cases hadd : s.conn.request.method = pamRequestMethodAddUser
      · exact ⟨_, dispatch_addUser_fits hoverruns hadd⟩
      by_cases hpassword : s.conn.request.method = pamRequestMethodChangePassword
      · exact ⟨_, dispatch_changePassword_fits hoverruns hpassword⟩
      by_cases hrole : s.conn.request.method = pamRequestMethodChangeRole
      · exact ⟨_, dispatch_changeRole_fits hoverruns hrole⟩
      · rw [handlePamRequestMethod, if_neg hlist, if_neg hadd, if_neg hremove, if_neg hpassword,
          if_neg hrole, ← apply_ite Except.ok]
        exact ⟨_, rfl⟩
    · rintro (hnobody | hlong | ⟨hmethod, -⟩)
      · exact hremove hnobody.method
      · exact hoverruns hlong
      · exact hlist hmethod

theorem writeNbody_removed {username : List UInt8} (h : requestRemoveUser username s = .ok t) :
    t.conn.request.writeNbody = s.conn.request.writeNbody := by
  have hother : ∀ username, (removeOther username
      (s.setStatus pamRequestSuccess)).conn.request.writeNbody = s.conn.request.writeNbody := by
    intro username
    unfold removeOther
    split_ifs
    · rfl
    · rfl
  unfold requestRemoveUser at h
  dsimp only at h
  split_ifs at h
  · rw [← Except.ok.inj h]
    rfl
  · split at h
    · cases h
    · split_ifs at h
      · rw [← Except.ok.inj h]
        rfl
      · rw [← Except.ok.inj h]
        exact hother _
  · rw [← Except.ok.inj h]
    exact hother _

theorem status_listed (hmethod : s.conn.request.method = pamRequestMethodGetConnectedUsersList)
    (h : handlePamRequestMethod env s buffer = .ok t) :
    t.conn.request.status = s.conn.request.status := by
  obtain ⟨-, rfl⟩ := (handlePamRequestMethod_list_ok_iff hmethod).mp h
  rfl

theorem writeNbody_left (hmethod : LeavesMember s.conn.request.method)
    (hlist : s.conn.request.method ≠ pamRequestMethodGetConnectedUsersList)
    (h : handlePamRequestMethod env s buffer = .ok t) :
    t.conn.request.writeNbody = s.conn.request.writeNbody := by
  have hfits := fits_of_handled h
  rcases hmethod with hsame | hadd | hremove | hpassword | hrole
  · exact absurd hsame hlist
  · rw [dispatch_addUser_fits hfits hadd] at h
    rw [← Except.ok.inj h]
    unfold requestAddUser
    dsimp only
    split_ifs
    · rfl
    · rfl
  · rw [dispatch_removeUser_fits hfits hremove] at h
    have hkept := writeNbody_removed h
    exact hkept
  · rw [dispatch_changePassword_fits hfits hpassword] at h
    rw [← Except.ok.inj h]
    unfold requestChangePassword
    dsimp only
    split_ifs
    · rfl
    · rfl
  · rw [dispatch_changeRole_fits hfits hrole] at h
    rw [← Except.ok.inj h]
    unfold requestChangeRole
    dsimp only
    split_ifs
    · rfl
    · rfl

theorem handleGetMetrics_failed (hsnprintf : env.snprintf = false) :
    handleGetMetrics env s =
      { s with
        conn.request.status := pamServerError
        conn.request.writeNbody := 0
        conn.request.writeBody := store s.conn.request.writeBody 0 metricsMessage } :=
  if_pos hsnprintf

theorem handleGetMetrics_formatted (hsnprintf : env.snprintf = true) :
    handleGetMetrics env s =
      { s with
        conn.request.status := pamRequestSuccess
        conn.request.writeNbody :=
          UInt16.ofNat (metricsMessage.length + (metricsInfo s.metrics).length)
        conn.request.writeBody := store s.conn.request.writeBody 0
          (metricsMessage ++ (metricsInfo s.metrics ++ [0])) } := by
  have hstored := store_append s.conn.request.writeBody 0 metricsMessage
    (metricsInfo s.metrics ++ [0])
  rw [Nat.zero_add] at hstored
  rw [← hstored]
  exact if_neg (by rw [hsnprintf]; simp)

/-- The text of a snapshot does not depend on what it replaces. -/
theorem handleGetMetrics_alike (hmetrics : x'.metrics = x.metrics) :
    AnswersAlike (handleGetMetrics env x).conn.request (handleGetMetrics env x').conn.request := by
  rcases hsnprintf : env.snprintf with _ | _
  · rw [handleGetMetrics_failed hsnprintf, handleGetMetrics_failed hsnprintf]
    exact ⟨rfl, rfl, rfl⟩
  · rw [handleGetMetrics_formatted hsnprintf, handleGetMetrics_formatted hsnprintf, hmetrics]
    refine ⟨rfl, rfl, ?_⟩
    unfold responseBody
    dsimp only
    generalize hinfo : metricsInfo x.metrics = info
    have hnbody : (UInt16.ofNat (metricsMessage.length + info.length)).toNat ≤
        (metricsMessage ++ (info ++ [0])).length := by
      rw [UInt16.toNat_ofNat', List.length_append, List.length_append]
      have hmod := Nat.mod_le (metricsMessage.length + info.length) (2 ^ 16)
      omega
    rw [← take_slice _ 0 hnbody, ← take_slice _ 0 hnbody, slice_store_same, slice_store_same]

/-- The handlers of the other methods assign all that is sent. -/
theorem answersAlike_of_assigning {method : UInt16} (hmethod : ¬ LeavesMember method)
    (hx : x.conn.request.method = method) (hx' : x'.conn.request.method = method)
    (hmetrics : x'.metrics = x.metrics) (ht : handlePamRequestMethod env x buffer = .ok t)
    (ht' : handlePamRequestMethod env x' buffer' = .ok t') :
    AnswersAlike t.conn.request t'.conn.request := by
  have hdispatch : ∀ (y : PamSession) (b : Buffer), y.conn.request.method = method →
      handlePamRequestMethod env y b = .ok (if method = pamRequestMethodGetMetrics
        then handleGetMetrics env (y.handling b) else handleUnknownMethod (y.handling b)) := by
    intro y b hy
    unfold LeavesMember at hmethod
    push Not at hmethod
    obtain ⟨hlist, hadd, hremove, hpassword, hrole⟩ := hmethod
    rw [handlePamRequestMethod, hy, if_neg hlist, if_neg hadd, if_neg hremove, if_neg hpassword,
      if_neg hrole, PamSession.handling, hy, apply_ite Except.ok]
  rw [hdispatch x buffer hx, Except.ok.injEq] at ht
  rw [hdispatch x' buffer' hx', Except.ok.injEq] at ht'
  rw [← ht, ← ht']
  split_ifs
  · exact handleGetMetrics_alike hmetrics
  · exact ⟨rfl, rfl, rfl⟩

end Handlers

/-! ## The bytes sent -/

section Responses

variable {r r' : PamRequestSt} {s : PamSession}

theorem AnswersAlike.pamResponse (h : AnswersAlike r r') : pamResponse r' = pamResponse r := by
  have hbody := h.body
  unfold responseBody at hbody
  rw [Socks5Proxy.pamResponse, Socks5Proxy.pamResponse, h.status, hbody, h.writeNbody]

/-- The header of a response says what the two members were. -/
theorem members_of_pamResponse {limit : ℕ} (hlimit : 4 ≤ limit)
    (h : (pamResponse r').take limit = (pamResponse r).take limit) :
    r'.status = r.status ∧ r'.writeNbody = r.writeNbody := by
  obtain ⟨k, rfl⟩ := Nat.exists_eq_add_of_le' hlimit
  unfold pamResponse at h
  simp only [List.take_succ_cons, List.cons.injEq, true_and] at h
  obtain ⟨hstatus, hhigh, hlow, -⟩ := h
  refine ⟨hstatus, ?_⟩
  rw [← ofNat_networkOrder r'.writeNbody, ← ofNat_networkOrder r.writeNbody, hhigh, hlow]

theorem pamRequestAnswer_content {env : PamEnv} {x u : PamSession} {buffer : Buffer}
    (key : SelectorKey) (hlimit : x.conn.clientBuffer.limit = pamBufferSize)
    (h : handlePamRequestMethod env x buffer = .ok u) :
    (pamRequestAnswer key u).1.conn.clientBuffer.content =
      (pamResponse u.conn.request).take pamBufferSize := by
  have hkept : u.conn.clientBuffer.limit = pamBufferSize := by
    obtain ⟨users, status, nbody, body, rfl⟩ := handlePamRequestMethod_leaving h
    exact hlimit
  rw [← hkept]
  exact answerWith_content u (pamResponse u.conn.request)

end Responses

/-! ## Two memories -/

section Memories

variable {q : PamInquiry} {raw : Pam} {s t : PamSession}

theorem PamInquiry.Reaches.sound (h : q.Reaches raw s) : PamSound s := by
  obtain ⟨first, haccept, -, hrun⟩ := h.reached
  have hintact := run_invariant (I := PamIntact) (P := fun _ _ => True)
    (fun s e t hs _ ht => (pamStep_assertion_iff hs).2 t ht)
    (pamIntact_of_accept h.fresh haccept) (Steps.of_forall (fun _ _ => trivial) _ _) hrun
  rcases hintact with hfreed | hsound
  · rw [h.freed] at hfreed
    cases hfreed
  · exact hsound

/-- The request is handed to a handler, and what it leaves is sent. -/
theorem PamInquiry.Reaches.step (h : q.Reaches raw s) :
    ∃ (x : PamSession) (buffer : Buffer), PamReading s x ∧ x.conn.request.method = q.method ∧
      buffer.content = q.body ∧ x.conn.clientBuffer.limit = pamBufferSize ∧
      pamStep s (.read q.fd q.env) = (handlePamRequestMethod q.env x buffer).map fun u =>
        { (pamRequestAnswer ⟨q.fd, s.address⟩ u).1 with conn.stm := some .request } := by
  obtain ⟨buffer, hbody, hsome⟩ := h.handover
  obtain ⟨x, hreading, hmethod, hstep⟩ := pamStep_of_handover h.sound h.state hsome
  exact ⟨x, buffer, hreading, hmethod, hbody, hreading.limit.trans h.sound.limit, hstep⟩

/-- Other contents of the members lead to the same request. -/
theorem PamInquiry.Reaches.holding (h : q.Reaches raw s) (m : PamAnswerMemory) :
    q.Reaches (raw.holding m) (s.holding m) := by
  have hopen : ¬ PamReplied s := by
    rintro (hfreed | ⟨hsound, -, hinterest⟩)
    · rw [h.freed] at hfreed
      cases hfreed
    · exact (interestOf_of_read_enabled hsound h.enabled).2 hinterest
  obtain ⟨first, haccept, hsteps, hrun⟩ := h.reached
  obtain ⟨haccept', hsteps', hrun'⟩ := run_holding h.fresh haccept hsteps hrun hopen m
  obtain ⟨buffer, hbody, hsome⟩ := h.handover
  exact
    { fresh := ⟨h.fresh.table, h.fresh.unused⟩
      reached := ⟨first.holding m, haccept', hsteps', hrun'⟩
      freed := h.freed
      state := h.state
      enabled := h.enabled
      handover := ⟨buffer, hbody, (pamRequestHandover_holding s m).trans hsome⟩ }

/-- Unless its handler does not end, a request is answered. -/
theorem PamInquiry.Reaches.answers_iff (h : q.Reaches raw s) :
    (∃ t, pamStep s (.read q.fd q.env) = .ok t) ↔
      ¬ Unanswered s.users s.conn.username q.method q.body := by
  obtain ⟨x, buffer, hreading, hmethod, hbody, -, hstep⟩ := h.step
  have hname : x.conn.username = s.conn.username :=
    Pam.username_congr (congrArg PamAuthSt.credentials hreading.auth)
  rw [← hreading.users, ← hname, ← hmethod, ← hbody,
    ← handlePamRequestMethod_ok_iff q.env, hstep]
  rcases handlePamRequestMethod q.env x buffer with fault | u
  · simp [Except.map]
  · simp [Except.map]

/-- What is sent is what a handler has left. -/
theorem PamInquiry.Reaches.sends (h : q.Reaches raw s)
    (ht : pamStep s (.read q.fd q.env) = .ok t) :
    ∃ (x u : PamSession) (buffer : Buffer), PamReading s x ∧
      x.conn.request.method = q.method ∧ handlePamRequestMethod q.env x buffer = .ok u ∧
      t.conn.clientBuffer.content = (pamResponse u.conn.request).take pamBufferSize := by
  obtain ⟨x, buffer, hreading, hmethod, -, hlimit, hstep⟩ := h.step
  rw [hstep] at ht
  rcases hhandle : handlePamRequestMethod q.env x buffer with fault | u
  · rw [hhandle] at ht
    cases ht
  · rw [hhandle] at ht
    refine ⟨x, u, buffer, hreading, hmethod, hhandle, ?_⟩
    rw [← Except.ok.inj ht]
    have hcontent := pamRequestAnswer_content ⟨q.fd, s.address⟩ hlimit hhandle
    exact hcontent

theorem responseDetermined_of_assigning (h : q.Reaches raw s) (hmethod : ¬ LeavesMember q.method) :
    ResponseDetermined q s where
  assigned := fun x t t' buffer m hx _ _ _ _ ht ht' => by
    have hx' : (x.holding m).conn.request.method = q.method := hx
    have hmetrics : (x.holding m).metrics = x.metrics := rfl
    exact answersAlike_of_assigning hmethod hx hx' hmetrics ht ht'
  response := fun raw' s' h' _ hmetrics t t' ht ht' => by
    obtain ⟨x, u, buffer, hreading, hx, hu, hsent⟩ := h.sends ht
    obtain ⟨x', u', buffer', hreading', hx', hu', hsent'⟩ := h'.sends ht'
    have hsame : x'.metrics = x.metrics := by
      rw [hreading'.metrics, hmetrics, hreading.metrics]
    have halike := answersAlike_of_assigning hmethod hx hx' hsame hu hu'
    exact hsent'.trans ((congrArg (List.take pamBufferSize) halike.pamResponse).trans hsent.symm)

theorem responseDetermined_of_unanswered (h : q.Reaches raw s)
    (hunanswered : Unanswered s.users s.conn.username q.method q.body) :
    ResponseDetermined q s where
  assigned := fun x t _ buffer _ hx hbody husers _ hname ht _ => by
    rw [← husers, ← hname, ← hx, ← hbody] at hunanswered
    exact absurd hunanswered ((handlePamRequestMethod_ok_iff _).mp ⟨t, ht⟩)
  response := fun _ _ _ _ _ t _ ht _ => absurd hunanswered (h.answers_iff.mp ⟨t, ht⟩)

/-- The member the handler has not assigned is seen in the response. -/
theorem not_responseDetermined (h : q.Reaches raw s) (hmethod : LeavesMember q.method)
    (hanswers : ¬ Unanswered s.users s.conn.username q.method q.body) :
    ¬ ResponseDetermined q s := by
  intro hdetermined
  let m : PamAnswerMemory :=
    ⟨s.conn.request.status + 1, s.conn.request.writeNbody + 1, s.conn.request.writeBody⟩
  have hother := h.holding m
  obtain ⟨t, ht⟩ := h.answers_iff.mpr hanswers
  obtain ⟨t', ht'⟩ := hother.answers_iff.mpr (by rwa [holding_username])
  have hsame := hdetermined.response _ _ hother rfl rfl t t' ht ht'
  obtain ⟨x, u, buffer, hreading, hx, hu, hsent⟩ := h.sends ht
  obtain ⟨x', u', buffer', hreading', hx', hu', hsent'⟩ := hother.sends ht'
  rw [hsent', hsent] at hsame
  obtain ⟨hstatus, hnbody⟩ := members_of_pamResponse (by decide) hsame
  by_cases hlist : q.method = pamRequestMethodGetConnectedUsersList
  · rw [status_listed (hx'.trans hlist) hu', status_listed (hx.trans hlist) hu,
      hreading'.status, hreading.status] at hstatus
    change s.conn.request.status + 1 = s.conn.request.status at hstatus
    simp at hstatus
  · rw [writeNbody_left (by rwa [hx']) (by rwa [hx']) hu',
      writeNbody_left (by rwa [hx]) (by rwa [hx]) hu,
      hreading'.writeNbody, hreading.writeNbody] at hnbody
    change s.conn.request.writeNbody + 1 = s.conn.request.writeNbody at hnbody
    simp at hnbody

end Memories

/-! ## The first administrator -/

/-- The administrator logs in and sends a request. -/
def adminInquiry (method : UInt16) (body : List UInt8) : PamInquiry where
  sel := emptySelector
  users := usersInit
  metrics := metricsInit
  accepted := firstManager
  events := managementLogin adminName.bytes adminName.bytes
  fd := 4
  env := pamReceives (requestMessage method body)
  method := method
  body := body

/-- The session after the login. -/
def adminAfterLogin : PamSession :=
  managementAfter (managementLogin adminName.bytes adminName.bytes)

theorem adminAfterLogin_awaits : AwaitsRequest adminAfterLogin :=
  ⟨by decide +kernel, by decide +kernel, by decide +kernel, by decide +kernel⟩

theorem adminInquiry_reaches (method : UInt16) {body : List UInt8} (hlen : body.length ≤ 32765) :
    (adminInquiry method body).Reaches default adminAfterLogin where
  fresh := firstManager_fresh default
  reached := ⟨firstManagement, firstManagement_accepted,
    show Steps pamStep PamEnabled firstManagement
      (managementLogin adminName.bytes adminName.bytes) by decide +kernel,
    run_firstManagement (show (run pamStep firstManagement
      (managementLogin adminName.bytes adminName.bytes)).toOption.isSome = true by decide +kernel)⟩
  freed := by decide +kernel
  state := by decide +kernel
  enabled := show PamEnabled adminAfterLogin (.read 4 default) by decide +kernel
  handover := pamRequestHandover_of_message adminAfterLogin_awaits _ hlen rfl

end Socks5Proxy

import Socks5Proxy.Pam.Assertions

/-!
# The gate before the management methods

`pam_auth_write` enters PAM_REQUEST whatever status it has sent.  A connection
is held at the gate exactly as long as it does not finish sending the refusal
of its credentials.
-/

namespace Socks5Proxy

open Library

/-- `user_authenticate` has returned `USER_OK` for the credentials that the
connection has received. -/
def PamAuthenticated (s : PamSession) : Prop :=
  PamAction.authenticate s.conn.username s.conn.pass .ok ∈ s.log

/-- The event calls `handle_pam_request_method`. -/
def PamHandles (s : PamSession) : PamEvent → Prop
  | .read fd env =>
    s.freed = false ∧ s.state = .request ∧ pamRequestHandover env ⟨fd, s.address⟩ s ≠ none
  | .write _ _ => False
  | .others _ _ => False

/-- The event is one of the connection's own. -/
def PamEvent.Own : PamEvent → Prop
  | .read _ _ | .write _ _ => True
  | .others _ _ => False

/-- The gate: a request is handled after authentication only, and changes the
user store only if the user is an administrator by then. -/
structure PamGated (s : PamSession) (e : PamEvent) : Prop where
  handles : PamHandles s e → PamAuthenticated s
  changes : ∀ t, e.Own → pamStep s e = .ok t → t.users ≠ s.users →
    PamAuthenticated s ∧ userIsAdmin s.users s.conn.username = true

/-- `pam_auth_write` sends the rest of an answer that is not
`PAM_AUTH_SUCCESS`. -/
def AdmitsRefused (s : PamSession) : PamEvent → Prop
  | .read _ _ => False
  | .write _ env =>
    s.freed = false ∧ s.state = .auth ∧ s.conn.auth.status ≠ pamAuthSuccess ∧
      ∃ k, env.send = some k ∧ s.conn.clientBuffer.content.length ≤ k
  | .others _ _ => False

instance AdmitsRefused.decidable (s : PamSession) : (e : PamEvent) → Decidable (AdmitsRefused s e)
  | .read _ _ => .isFalse id
  | .write _ env => inferInstanceAs (Decidable
      (s.freed = false ∧ s.state = .auth ∧ s.conn.auth.status ≠ pamAuthSuccess ∧
        ∃ k, env.send = some k ∧ s.conn.clientBuffer.content.length ≤ k))
  | .others _ _ => .isFalse id

/-! ## The phases -/

/-- The credentials have been checked, once, and the answer says how. -/
structure PamAnswered (s : PamSession) : Prop where
  checked : ∃ r, PamAction.authenticate s.conn.username s.conn.pass r ∈ s.log
  verdict : ∀ username pass r, PamAction.authenticate username pass r ∈ s.log →
    pamAuthStatus r = some s.conn.auth.status

/-- Where a connection stands that has been let in only with a good answer. -/
inductive PamGatePhase (s : PamSession) : Prop
  | reading (hstate : s.state = .auth) (hinterest : s.sel.interestOf s.conn.clientFd = some .opRead)
      (hcalls : ∀ username pass r, PamAction.authenticate username pass r ∉ s.log)
  | answered (hstm : s.conn.stm = some .auth)
      (hinterest : s.sel.interestOf s.conn.clientFd = some .opWrite) (hanswered : PamAnswered s)
  | accepted (hstate : s.state = .request) (hauthenticated : PamAuthenticated s)

/-- The invariant of the gate. -/
structure PamGateInvariant (s : PamSession) : Prop where
  intact : PamIntact s
  phase : s.freed = false → PamGatePhase s

section Verdicts

theorem pamAuthStatus_eq_success_iff {r : UserStatus} :
    pamAuthStatus r = some pamAuthSuccess ↔ r = .ok := by
  rcases r with _ | _ | _ | _ | _ <;> decide

variable {s t : PamSession}

theorem PamAuthenticated.persists (h : PamAuthenticated s) (hlog : s.log <+: t.log)
    (hcredentials : t.conn.auth.credentials = s.conn.auth.credentials) : PamAuthenticated t := by
  unfold PamAuthenticated
  rw [Pam.username_congr hcredentials, Pam.pass_congr hcredentials]
  exact hlog.subset h

theorem PamAnswered.persists (h : PamAnswered s) (hauth : t.conn.auth = s.conn.auth)
    (hlog : s.log <+: t.log)
    (hcalls : ∀ username pass r, PamAction.authenticate username pass r ∈ t.log →
      PamAction.authenticate username pass r ∈ s.log) : PamAnswered t := by
  have hcredentials : t.conn.auth.credentials = s.conn.auth.credentials := by rw [hauth]
  obtain ⟨r, hr⟩ := h.checked
  constructor
  · rw [Pam.username_congr hcredentials, Pam.pass_congr hcredentials]
    exact ⟨r, hlog.subset hr⟩
  · intro username pass r' hr'
    rw [hauth]
    exact h.verdict _ _ _ (hcalls _ _ _ hr')

theorem PamAnswered.authenticated (h : PamAnswered s)
    (hstatus : s.conn.auth.status = pamAuthSuccess) : PamAuthenticated s := by
  obtain ⟨r, hr⟩ := h.checked
  have hverdict := h.verdict _ _ _ hr
  rw [hstatus, pamAuthStatus_eq_success_iff] at hverdict
  rw [hverdict] at hr
  exact hr

/-- A refusal is the only answer there is. -/
theorem PamAnswered.not_authenticated (h : PamAnswered s)
    (hstatus : s.conn.auth.status ≠ pamAuthSuccess) (username pass : List UInt8) :
    PamAction.authenticate username pass .ok ∉ s.log := by
  intro hok
  have hverdict := h.verdict _ _ _ hok
  exact hstatus (Option.some.inj hverdict).symm

theorem pamChecked_answered (key : SelectorKey)
    (hcalls : ∀ username pass r, PamAction.authenticate username pass r ∉ s.log) :
    PamAnswered (s.checked key) := by
  have hcredentials : (s.checked key).conn.auth.credentials = s.conn.auth.credentials := rfl
  have hlog : (s.checked key).log = s.log ++ [.authenticate s.conn.username s.conn.pass
    (userAuthenticate s.users s.conn.username s.conn.pass)] := rfl
  constructor
  · rw [Pam.username_congr hcredentials, Pam.pass_congr hcredentials, hlog]
    exact ⟨_, List.mem_append_right _ (List.mem_singleton_self _)⟩
  · intro username pass r hr
    rw [hlog] at hr
    rcases List.mem_append.mp hr with hold | hnew
    · exact absurd hold (hcalls _ _ _)
    · cases List.mem_singleton.mp hnew
      exact pamAuthStatus_userAuthenticate s.users s.conn

end Verdicts

/-! ## One event -/

section Step

variable {env : PamEnv} {key : SelectorKey} {s t u x : PamSession} {e : PamEvent} {fd : ℤ}

/-- What an event leads to that handles no request. -/
def KeepsGate (s : PamSession) (r : Except Fault PamSession) : Prop :=
  ∀ t, r = .ok t → t.users = s.users ∧ (t.freed = false → PamGatePhase t)

theorem keepsGate_ok (husers : t.users = s.users) (hphase : PamGatePhase t) :
    KeepsGate s (.ok t) := by
  intro t' ht'
  rw [← Except.ok.inj ht']
  exact ⟨husers, fun _ => hphase⟩

theorem keepsGate_stop {st ret : PamState} (hs : PamSound s) (hframe : PamFrame s u)
    (husers : u.users = s.users) (hret : ret = .error ∨ ret = .done) :
    KeepsGate s (pamSettle env key st (u, ret)) := by
  rw [pamSettle_stop hret, pamDone_of_registered (registered_of_stm _ hs hframe)]
  intro t ht
  rw [← Except.ok.inj ht]
  refine ⟨husers, ?_⟩
  intro hfreed
  cases hfreed

/-- The selector calls a handler on the client's descriptor only. -/
theorem interestOf_of_read_enabled (hs : PamSound s) (h : PamEnabled s (.read fd env)) :
    fd = s.conn.clientFd ∧ s.sel.interestOf s.conn.clientFd ≠ some .opWrite := by
  obtain ⟨howner, i, hi, hread⟩ := h
  obtain rfl := hs.registered.only fd howner
  refine ⟨rfl, ?_⟩
  intro hwrite
  rw [hwrite, Option.some.injEq] at hi
  rw [← hi] at hread
  cases hread

theorem interestOf_of_write_enabled (hs : PamSound s) (h : PamEnabled s (.write fd env)) :
    s.sel.interestOf s.conn.clientFd ≠ some .opRead := by
  obtain ⟨howner, i, hi, hwrite⟩ := h
  obtain rfl := hs.registered.only fd howner
  intro hread
  rw [hread, Option.some.injEq] at hi
  rw [← hi] at hwrite
  cases hwrite

/-- The credentials are read, and checked once they are complete. -/
theorem keepsGate_auth_read (hs : PamSound s) (hstate : s.state = .auth)
    (hfd : key.fd = s.conn.clientFd) (hinterest : s.sel.interestOf s.conn.clientFd = some .opRead)
    (hcalls : ∀ username pass r, PamAction.authenticate username pass r ∉ s.log) :
    KeepsGate s (pamRead env key s) := by
  have harrived : s.arrived.users = s.users ∧ s.arrived.sel = s.sel ∧ s.arrived.log = s.log := by
    unfold PamSession.arrived
    split
    · exact ⟨rfl, rfl, rfl⟩
    · exact ⟨rfl, rfl, rfl⟩
  obtain ⟨husers, hsel, hlog⟩ := harrived
  have hnew : ∀ x, PamAuthReading s.arrived x →
      ∀ username pass r, PamAction.authenticate username pass r ∉ x.log := by
    intro x hx username pass r hr
    rcases hx.calls _ hr with hold | hreceives
    · rw [hlog] at hold
      exact hcalls _ _ _ hold
    · exact hreceives
  have hregistration : ∀ x, PamAuthReading s.arrived x →
      x.conn.clientFd = s.conn.clientFd ∧ x.sel = s.sel := fun x hx =>
    ⟨hx.clientFd.trans pamArrived_frame.clientFd, hx.registrations.trans hsel⟩
  rw [pamRead_auth hstate]
  have hends := pamAuthRead_ends env key s.arrived
  generalize pamAuthRead env key s.arrived = r at hends ⊢
  rcases hends with ⟨x, ret, hx, hret⟩ | ⟨x, hx⟩ | ⟨x, hx, -⟩
  · exact keepsGate_stop hs (pamArrived_frame.trans hx.toPamFrame) (hx.users.trans husers) hret
  · rw [pamSettle_stay (by simp) (by simp)]
    obtain ⟨hclient, hregistered⟩ := hregistration x hx
    refine keepsGate_ok (hx.users.trans husers) (.reading rfl ?_ (hnew x hx))
    change x.sel.interestOf x.conn.clientFd = some .opRead
    rw [hclient, hregistered, hinterest]
  · rw [pamSettle_stay (by simp) (by simp)]
    obtain ⟨hclient, hregistered⟩ := hregistration x hx
    refine keepsGate_ok (hx.users.trans husers) (.answered rfl ?_ ?_)
    · change (selectorSetInterest x.sel key.fd .opWrite).1.interestOf x.conn.clientFd = _
      rw [hclient, hregistered, hfd]
      exact interestOf_selectorSetInterest_self (by rw [hinterest]; simp)
    · exact (pamChecked_answered key (hnew x hx)).persists rfl List.prefix_rfl fun _ _ _ hr => hr

/-- The answer is sent. -/
theorem keepsGate_auth_write (hs : PamSound s) (hstm : s.conn.stm = some .auth)
    (hinterest : s.sel.interestOf s.conn.clientFd = some .opWrite) (hanswered : PamAnswered s)
    (hadmits : ¬ AdmitsRefused s (.write fd env)) : KeepsGate s (pamWrite env key s) := by
  have hstate : s.state = .auth := by rw [PamSession.state, hstm]; rfl
  have harrived : s.arrived = s := by rw [PamSession.arrived, hstm]
  rw [pamWrite_auth hstate, harrived]
  have hends := pamAuthWrite_ends env key s
  generalize pamAuthWrite env key s = r at hends ⊢
  rcases hends with - | ⟨k, -, -⟩ | ⟨k, hsome, hempty⟩
  · exact keepsGate_stop hs (pamSending_frame _) rfl (.inl rfl)
  · rw [pamSettle_stay (by simp) (by simp)]
    refine keepsGate_ok rfl (.answered rfl hinterest ?_)
    refine hanswered.persists rfl (pamSending_frame (some k)).log ?_
    intro username pass r hr
    rcases List.mem_append.mp hr with hold | hnew
    · exact hold
    · cases List.mem_singleton.mp hnew
  · rw [pamSettle_request]
    refine keepsGate_ok rfl (.accepted rfl ?_)
    have hstatus : s.conn.auth.status = pamAuthSuccess := by
      by_contra hne
      exact hadmits ⟨hs.freed, hstate, hne, k, hsome, List.drop_eq_nil_iff.mp hempty⟩
    exact (hanswered.authenticated hstatus).persists (pamSending_frame (some k)).log rfl

theorem keepsGate_request_write (hs : PamSound s) (hstate : s.state = .request)
    (hauthenticated : PamAuthenticated s) : KeepsGate s (pamWrite env key s) := by
  rw [pamWrite_request hstate]
  have hends := pamRequestWrite_ends env key s
  generalize pamRequestWrite env key s = r at hends ⊢
  rcases hends with - | ⟨k, -, -⟩ | ⟨k, -, -⟩
  · exact keepsGate_stop hs (pamSending_frame _) rfl (.inl rfl)
  · rw [pamSettle_stay (by simp) (by simp)]
    exact keepsGate_ok rfl
      (.accepted rfl (hauthenticated.persists (pamSending_frame (some k)).log rfl))
  · exact keepsGate_stop hs (pamSent_frame _ _ _) rfl (.inr rfl)

/-- What a read of PAM_REQUEST leads to: the store changes only for an
administrator. -/
def KeepsAdmitted (s : PamSession) (r : Except Fault PamSession) : Prop :=
  ∀ t, r = .ok t → (t.users ≠ s.users → userIsAdmin s.users s.conn.username = true) ∧
    (t.freed = false → PamGatePhase t)

theorem KeepsGate.admitted {r : Except Fault PamSession} (h : KeepsGate s r) :
    KeepsAdmitted s r := by
  intro t ht
  obtain ⟨husers, hphase⟩ := h t ht
  exact ⟨fun hne => absurd husers hne, hphase⟩

theorem keepsAdmitted_request_read (hs : PamSound s) (hstate : s.state = .request)
    (hexpects : PamExpects s) (hauthenticated : PamAuthenticated s) :
    KeepsAdmitted s (pamRead env key s) := by
  rw [pamRead_request hstate]
  have hends := pamRequestRead_ends env key hexpects.reserved hexpects.state
  generalize pamRequestRead env key s = r at hends ⊢
  rcases hends with ⟨x, ret, hx, hret, -⟩ | - | ⟨x, hx, -, -⟩ | ⟨x, buffer, hx, -, -⟩
  · exact (keepsGate_stop hs hx.toPamFrame hx.users hret).admitted
  · intro t ht
    cases ht
  · change KeepsAdmitted s (pamSettle env key .request (x, .request))
    rw [pamSettle_stay (by simp) (by simp)]
    refine KeepsGate.admitted (keepsGate_ok hx.users (.accepted rfl ?_))
    exact hauthenticated.persists hx.log (congrArg PamAuthSt.credentials hx.auth)
  · rcases hhandle : handlePamRequestMethod env x buffer with fault | t
    · intro t ht
      cases ht
    · change KeepsAdmitted s (pamSettle env key .request ((pamRequestAnswer key t).1, .request))
      rw [pamSettle_stay (by simp) (by simp)]
      intro t' ht'
      rw [← Except.ok.inj ht']
      have hname := Pam.username_congr (congrArg PamAuthSt.credentials hx.auth)
      constructor
      · intro hne
        rcases storeEffect hhandle with hkept | ⟨op, -, hadmin, -, -⟩
        · exact absurd (hkept.trans hx.users) hne
        · rw [hx.users, hname] at hadmin
          exact hadmin
      · intro _
        refine .accepted rfl (hauthenticated.persists ?_ ?_)
        · exact hx.log.trans (pamRequestAnswer_frame hhandle key).log
        · obtain ⟨users, status, nbody, body, rfl⟩ := handlePamRequestMethod_leaving hhandle
          exact congrArg PamAuthSt.credentials hx.auth

theorem pamGatePhase_of_others {users : UserStore} {metrics : MetricSnapshot}
    (h : PamGatePhase s) : PamGatePhase { s with users := users, metrics := metrics } := by
  rcases h with ⟨hstate, hinterest, hcalls⟩ | ⟨hstm, hinterest, hanswered⟩ |
    ⟨hstate, hauthenticated⟩
  · exact .reading hstate hinterest hcalls
  · exact .answered hstm hinterest ⟨hanswered.checked, hanswered.verdict⟩
  · exact .accepted hstate hauthenticated

theorem pamGated_of_keepsGate (hs : PamGateInvariant s) (hnone : ¬ PamHandles s e)
    (hkeeps : KeepsGate s (pamStep s e)) :
    PamGated s e ∧ ∀ t, pamStep s e = .ok t → PamGateInvariant t := by
  refine ⟨⟨fun h => absurd h hnone, ?_⟩, ?_⟩
  · intro t _ ht hne
    exact absurd (hkeeps t ht).1 hne
  · intro t ht
    exact ⟨(pamStep_assertion_iff hs.intact).2 t ht, (hkeeps t ht).2⟩

theorem pamGated_of_keepsAdmitted (hs : PamGateInvariant s) (hauthenticated : PamAuthenticated s)
    (hkeeps : KeepsAdmitted s (pamStep s e)) :
    PamGated s e ∧ ∀ t, pamStep s e = .ok t → PamGateInvariant t := by
  refine ⟨⟨fun _ => hauthenticated, ?_⟩, ?_⟩
  · intro t _ ht hne
    exact ⟨hauthenticated, (hkeeps t ht).1 hne⟩
  · intro t ht
    exact ⟨(pamStep_assertion_iff hs.intact).2 t ht, (hkeeps t ht).2⟩

/-- Nothing happens to a record that has been freed. -/
theorem keepsGate_freed (hfreed : s.freed = true) (hown : e.Own) :
    KeepsGate s (pamStep s e) := by
  intro t ht
  rcases e with ⟨fd, env⟩ | ⟨fd, env⟩ | ⟨users, metrics⟩
  · rw [pamStep, hfreed] at ht
    cases ht
  · rw [pamStep, hfreed] at ht
    cases ht
  · exact absurd hown id

theorem pamStep_read_gated (hs : PamGateInvariant s) (henabled : PamEnabled s (.read fd env)) :
    PamGated s (.read fd env) ∧
      ∀ t, pamStep s (.read fd env) = .ok t → PamGateInvariant t := by
  rcases hs.intact with hfreed | hsound
  · refine pamGated_of_keepsGate hs ?_ (keepsGate_freed hfreed trivial)
    rintro ⟨halive, -⟩
    rw [hfreed] at halive
    cases halive
  · obtain ⟨hfd, hinterest⟩ := interestOf_of_read_enabled hsound henabled
    rcases hs.phase hsound.freed with ⟨hstate, hreading, hcalls⟩ | ⟨-, hwriting, -⟩ |
      ⟨hstate, hauthenticated⟩
    · refine pamGated_of_keepsGate hs ?_ ?_
      · rintro ⟨-, hrequest, -⟩
        rw [hstate] at hrequest
        cases hrequest
      · rw [pamStep_read hsound.freed]
        exact keepsGate_auth_read hsound hstate hfd hreading hcalls
    · exact absurd hwriting hinterest
    · refine pamGated_of_keepsAdmitted hs hauthenticated ?_
      rw [pamStep_read hsound.freed]
      rcases hsound.phase with hauth | ⟨-, hexpects⟩
      · rw [hstate] at hauth
        cases hauth
      · exact keepsAdmitted_request_read hsound hstate hexpects hauthenticated

theorem pamStep_write_gated (hs : PamGateInvariant s) (henabled : PamEnabled s (.write fd env))
    (hadmits : ¬ AdmitsRefused s (.write fd env)) :
    PamGated s (.write fd env) ∧
      ∀ t, pamStep s (.write fd env) = .ok t → PamGateInvariant t := by
  rcases hs.intact with hfreed | hsound
  · exact pamGated_of_keepsGate hs id (keepsGate_freed hfreed trivial)
  · have hinterest := interestOf_of_write_enabled hsound henabled
    refine pamGated_of_keepsGate hs id ?_
    rw [pamStep_write hsound.freed]
    rcases hs.phase hsound.freed with ⟨-, hreading, -⟩ | ⟨hstm, hwriting, hanswered⟩ |
      ⟨hstate, hauthenticated⟩
    · exact absurd hreading hinterest
    · exact keepsGate_auth_write hsound hstm hwriting hanswered hadmits
    · exact keepsGate_request_write hsound hstate hauthenticated

/-- An event that does not admit a refused client respects the gate, and keeps
it. -/
theorem pamStep_gated (hs : PamGateInvariant s) (henabled : PamEnabled s e)
    (hadmits : ¬ AdmitsRefused s e) :
    PamGated s e ∧ ∀ t, pamStep s e = .ok t → PamGateInvariant t := by
  rcases e with ⟨fd, env⟩ | ⟨fd, env⟩ | ⟨users, metrics⟩
  · exact pamStep_read_gated hs henabled
  · exact pamStep_write_gated hs henabled hadmits
  · refine ⟨⟨fun h => absurd h id, fun t hown => absurd hown id⟩, ?_⟩
    intro t ht
    refine ⟨(pamStep_assertion_iff hs.intact).2 t ht, ?_⟩
    rw [← Except.ok.inj ht]
    exact fun hfreed => pamGatePhase_of_others (hs.phase hfreed)

end Step

/-! ## Every run -/

section Runs

variable {sel : FdSelector FdHandler ℕ} {users : UserStore} {metrics : MetricSnapshot}
  {a : PamAccepted} {s t : PamSession} {es : List PamEvent}

theorem pamGateInvariant_of_accept (hfresh : PamFresh sel a)
    (haccept : pamPassiveAccept sel users metrics a = some s) : PamGateInvariant s := by
  refine ⟨pamIntact_of_accept hfresh haccept, fun _ => .reading ?_ ?_ ?_⟩
  · rw [(pamPassiveAccept_eq haccept).2]
    rfl
  · exact pamPassiveAccept_interestOf haccept hfresh
  · rw [(pamPassiveAccept_eq haccept).2]
    simp

/-- Whatever a client sends, in whatever chunks, and whatever happens to the
user store meanwhile: as long as no client is admitted whose credentials were
refused, requests are handled after authentication only, and change the store
for administrators only. -/
theorem requests_gated (hfresh : PamFresh sel a)
    (haccept : pamPassiveAccept sel users metrics a = some s)
    (henabled : Steps pamStep PamEnabled s es)
    (hadmits : Steps pamStep (fun s e => ¬ AdmitsRefused s e) s es) :
    Steps pamStep PamGated s es := by
  refine Steps.of_invariant (I := PamGateInvariant) ?_
    (pamGateInvariant_of_accept hfresh haccept) (henabled.and hadmits)
  intro s e hs hsteps
  exact pamStep_gated hs hsteps.1 hsteps.2

/-- A client that is admitted after a refusal has the next request handled,
whatever it asks for. -/
theorem handles_of_admitsRefused {fd : ℤ} {env : PamEnv} (hfresh : PamFresh sel a)
    (haccept : pamPassiveAccept sel users metrics a = some s)
    (henabled : Steps pamStep PamEnabled s es)
    (hadmits : Steps pamStep (fun s e => ¬ AdmitsRefused s e) s es)
    (hrun : run pamStep s es = .ok t) (hwrite : PamEnabled t (.write fd env))
    (hadmitted : AdmitsRefused t (.write fd env)) (method : UInt16) {body : List UInt8}
    (hlen : body.length ≤ 32765) :
    ∃ u, pamStep t (.write fd env) = .ok u ∧ ¬ PamAuthenticated u ∧
      PamHandles u (.read u.conn.clientFd (pamReceives (requestMessage method body))) := by
  obtain ⟨hfreed, hstate, hstatus, k, hsome, hlength⟩ := hadmitted
  have hinvariant := run_invariant (I := PamGateInvariant)
    (P := fun s e => PamEnabled s e ∧ ¬ AdmitsRefused s e)
    (fun s e t hs hsteps ht => (pamStep_gated hs hsteps.1 hsteps.2).2 t ht)
    (pamGateInvariant_of_accept hfresh haccept) (henabled.and hadmits) hrun
  rcases hinvariant.intact with hgone | hsound
  · rw [hfreed] at hgone
    cases hgone
  · have hinterest := interestOf_of_write_enabled hsound hwrite
    rcases hinvariant.phase hfreed with ⟨-, hreading, -⟩ | ⟨hstm, -, hanswered⟩ | ⟨hrequest, -⟩
    · exact absurd hreading hinterest
    · have harrived : t.arrived = t := by rw [PamSession.arrived, hstm]
      rw [pamStep_write hfreed, pamWrite_auth hstate, harrived]
      have hends := pamAuthWrite_ends env ⟨fd, t.address⟩ t
      generalize pamAuthWrite env ⟨fd, t.address⟩ t = r at hends ⊢
      rcases hends with hnone | ⟨k', hk, hleft⟩ | ⟨k', -, -⟩
      · rw [hsome] at hnone
        cases hnone
      · rw [hsome, Option.some.injEq] at hk
        exact absurd (List.drop_eq_nil_iff.mpr (hk ▸ hlength)) hleft
      · rw [pamSettle_request]
        refine ⟨_, rfl, ?_, hfreed, rfl, ?_⟩
        · intro hauthenticated
          rcases List.mem_append.mp hauthenticated with hold | hnew
          · exact hanswered.not_authenticated hstatus _ _ hold
          · cases List.mem_singleton.mp hnew
        · have hlimit := ((pamSending_frame (s := t) (some k')).limit).trans hsound.limit
          obtain ⟨buffer, -, hsome⟩ := pamRequestHandover_of_message
            (s := { pamRequestArrival
                (({ t.sending (some k') with
                    conn.clientBuffer := bufferReset (t.sending (some k')).conn.clientBuffer } :
                  PamSession).setInterest fd .opRead) with conn.stm := some .request })
            ⟨rfl, rfl, rfl, hlimit⟩ ⟨t.conn.clientFd, t.address⟩ hlen
            (show (pamReceives (requestMessage method body)).recv = some _ from rfl)
          exact fun hnone => Option.some_ne_none _ (hsome.symm.trans hnone)
    · rw [hstate] at hrequest
      cases hrequest

end Runs

instance (s : PamSession) : Decidable (PamAuthenticated s) :=
  inferInstanceAs (Decidable (_ ∈ s.log))

/-- A client logs in as the administrator with a wrong password, and asks for a
user `a` with the password `b` and the role 1. -/
def wrongPassword : List PamEvent :=
  managementLogin adminName.bytes [120] ++
    [.read 4 (pamReceives (requestMessage pamRequestMethodAddUser [1, 97, 1, 98, 1]))]

theorem wrongPassword_handled :
    PamFresh emptySelector firstManager ∧
      pamPassiveAccept emptySelector usersInit metricsInit firstManager = some firstManagement ∧
      Steps pamStep PamEnabled firstManagement wrongPassword ∧
      (userGetIfExists (managementAfter wrongPassword).users [97]).isSome = true ∧
      ¬ Steps pamStep PamGated firstManagement wrongPassword := by
  refine ⟨firstManager_fresh _, firstManagement_accepted, by decide +kernel, by decide +kernel, ?_⟩
  intro hgated
  have hlast := hgated.last (run_firstManagement (by decide +kernel))
  have hhandles : PamHandles (managementAfter (managementLogin adminName.bytes [120]))
      (.read 4 (pamReceives (requestMessage pamRequestMethodAddUser [1, 97, 1, 98, 1]))) := by
    refine ⟨by decide +kernel, by decide +kernel, ?_⟩
    rw [← Option.isSome_iff_ne_none]
    decide +kernel
  have hnot : ¬ PamAuthenticated (managementAfter (managementLogin adminName.bytes [120])) := by
    decide +kernel
  exact hnot (hlast.handles hhandles)

/-- The administrator logs in and lists the users. -/
theorem requests_gated_firstManagement :
    Steps pamStep PamGated firstManagement
      (managementLogin adminName.bytes adminName.bytes ++
        [.read 4 (pamReceives (requestMessage pamRequestMethodGetConnectedUsersList []))]) :=
  requests_gated (firstManager_fresh _) firstManagement_accepted (by decide +kernel)
    (by decide +kernel)

end Socks5Proxy

import Socks5Proxy.Pam.RecordMemory
import Socks5Proxy.Pam.StringStorage

/-!
# Management messages in segments

`pam_auth_read` decodes its header from the first segment whatever its length,
and `pam_request_read` decides from the free part of the buffer whether a
request is complete: one that arrives in pieces is cut off, misread or never
looked at again, and one of more than half the buffer never is.
-/

namespace Socks5Proxy

open Library

/-! ## What does not depend on the segments -/

/-- Nothing but `recv` has been called since `entry`. -/
structure StillWaits (st : PamState) (entry t : PamSession) : Prop where
  freed : t.freed = false
  state : t.state = st
  calls : ∀ action ∈ t.log, action ∈ entry.log ∨ action.Receives

/-- Until the last event the reader waits. -/
def WaitsForLast (st : PamState) (entry : PamSession) (es : List PamEvent) : Prop :=
  ∀ es₁ es₂, es = es₁ ++ es₂ → es₂ ≠ [] →
    ∃ t, run pamStep entry es₁ = .ok t ∧ StillWaits st entry t

/-- Two sessions have decoded the same credentials, and answer the same. -/
structure CredentialsAlike (u u' : PamSession) : Prop where
  credentials : u'.conn.auth.credentials = u.conn.auth.credentials
  status : u'.conn.auth.status = u.conn.auth.status
  answer : u'.conn.clientBuffer.content = u.conn.clientBuffer.content

/-- The message is decoded when it has arrived, and as if it had arrived at
once. -/
structure AuthUnsegmented (c : Credentials) (entry : PamSession) (fd : ℤ) (es : List PamEvent) :
    Prop where
  waits : WaitsForLast .auth entry es
  whole : ∀ es₁ env t, es = es₁ ++ [.read fd env] → run pamStep entry es₁ = .ok t →
    ∃ u u', pamStep t (.read fd env) = .ok u ∧
      pamStep entry (.read fd { env with recv := some c.pamMessage }) = .ok u' ∧
      CredentialsAlike u' u ∧
      .authenticate u.conn.username u.conn.pass
        (userAuthenticate entry.users u.conn.username u.conn.pass) ∈ u.log

/-- The request is handed over when it has arrived, and answered as if it had
arrived at once. -/
structure RequestUnsegmented (method : UInt16) (body : List UInt8) (entry : PamSession) (fd : ℤ)
    (es : List PamEvent) : Prop where
  waits : WaitsForLast .request entry es
  whole : ∀ es₁ env t, es = es₁ ++ [.read fd env] → run pamStep entry es₁ = .ok t →
    (∃ buffer : Buffer, buffer.content = body ∧
      pamRequestHandover env ⟨fd, t.address⟩ t = some (method, buffer)) ∧
    (pamStep t (.read fd env)).map (·.conn.clientBuffer.content) =
      (pamStep entry (.read fd { env with recv := some (requestMessage method body) })).map
        (·.conn.clientBuffer.content)

/-- Write events for `fd` that send `n` bytes, in pieces, with other
connections at work in between. -/
inductive PamSends (fd : ℤ) : ℕ → List PamEvent → Prop
  | nil : PamSends fd 0 []
  | write {n k : ℕ} {env : PamEnv} {es : List PamEvent} (hsend : env.send = some k)
      (hpos : 0 < k) (hrest : PamSends fd n es) : PamSends fd (k + n) (.write fd env :: es)
  | others {n : ℕ} {es : List PamEvent} (users : UserStore) (metrics : MetricSnapshot)
      (hrest : PamSends fd n es) : PamSends fd n (.others users metrics :: es)

/-- The credentials, the answer to them and a request. -/
structure SessionUnsegmented (c : Credentials) (method : UInt16) (body : List UInt8)
    (entry : PamSession) (es sends es' : List PamEvent) : Prop where
  auth : AuthUnsegmented c entry entry.conn.clientFd es
  request : ∀ t, run pamStep entry (es ++ sends) = .ok t →
    RequestUnsegmented method body t entry.conn.clientFd es'

/-! ## The credentials -/

section Auth

variable {c : Credentials} {memory : ℕ → UInt8} {entry s u u' : PamSession} {fd : ℤ}
  {env : PamEnv} {bytes rest chunk : List UInt8} {es : List PamEvent}

theorem PamDelivers.bytes_ne_nil (h : PamDelivers fd bytes es) (hne : es ≠ []) : bytes ≠ [] := by
  rintro rfl
  exact hne h.eq_nil

/-- Until the rest of the message is there, nothing is checked. -/
theorem PamAuthHeld.run (h : PamAuthHeld c memory entry bytes s)
    (hdelivers : PamDelivers fd rest es) (hmessage : bytes ++ rest = c.pamMessage)
    {es₁ es₂ : List PamEvent} (hsplit : es = es₁ ++ es₂) (hne : es₂ ≠ []) :
    ∃ t bytes' rest', Library.run pamStep s es₁ = .ok t ∧ PamAuthHeld c memory entry bytes' t ∧
      PamDelivers fd rest' es₂ ∧ bytes' ++ rest' = c.pamMessage := by
  induction hdelivers generalizing s bytes es₁ with
  | nil =>
      have hnil := List.append_eq_nil_iff.mp hsplit.symm
      exact absurd hnil.2 hne
  | @cons chunk rest env es hrecv hchunk hrest ih =>
      rcases es₁ with _ | ⟨e, es₁⟩
      · rw [List.nil_append] at hsplit
        subst hsplit
        exact ⟨s, bytes, chunk ++ rest, rfl, h, .cons hrecv hchunk hrest, hmessage⟩
      · obtain ⟨rfl, hlater⟩ : PamEvent.read fd env = e ∧ es = es₁ ++ es₂ :=
          List.cons.inj hsplit
        have hpending : rest ≠ [] := by
          refine hrest.bytes_ne_nil ?_
          rw [hlater]
          exact List.append_ne_nil_of_right_ne_nil _ hne
        rw [← List.append_assoc] at hmessage
        have hshort : (bytes ++ chunk).length < c.pamMessage.length := by
          rw [← hmessage, (List.length_append : (bytes ++ chunk ++ rest).length = _)]
          have := List.length_pos_of_ne_nil hpending
          omega
        obtain ⟨v, hstep, hv⟩ := (h.read fd hrecv hchunk
          (by rw [← hmessage]; exact List.prefix_append _ _)).1 hshort
        obtain ⟨t, bytes', rest', hrun, ht⟩ := ih hv hmessage hlater
        exact ⟨t, bytes', rest', run_cons_ok_iff.mpr ⟨v, hstep, hrun⟩, ht⟩

theorem PamAuthHeld.stillWaits (h : PamAuthHeld c memory entry bytes s) :
    StillWaits .auth entry s := by
  refine ⟨h.kept.freed, ?_, h.kept.calls⟩
  rw [PamSession.state, h.stm]
  rfl

/-- What two sessions hold that have checked the same message. -/
theorem PamAuthChecked.alike (hu : PamAuthChecked c memory entry fd u)
    (hu' : PamAuthChecked c memory entry fd u') : CredentialsAlike u u' := by
  obtain ⟨x, data, hkept, hcredentials, rfl⟩ := hu
  obtain ⟨x', data', hkept', hcredentials', rfl⟩ := hu'
  have hsame : x'.conn.auth.credentials = x.conn.auth.credentials :=
    hcredentials'.trans hcredentials.symm
  have hverdict : pamVerdict x'.users x'.conn = pamVerdict x.users x.conn := by
    unfold pamVerdict
    rw [Pam.username_congr hsame, Pam.pass_congr hsame, hkept'.users, hkept.users]
  have hlimit : x'.conn.clientBuffer.limit = x.conn.clientBuffer.limit :=
    hkept'.limit.trans hkept.limit.symm
  refine ⟨hsame, hverdict, ?_⟩
  change (PamSession.answerWith x' [pamVersion1, pamVerdict x'.users x'.conn]
      ).conn.clientBuffer.content =
    (PamSession.answerWith x [pamVersion1, pamVerdict x.users x.conn]).conn.clientBuffer.content
  rw [answerWith_content, answerWith_content, hverdict, hlimit]

theorem PamAuthChecked.calls (h : PamAuthChecked c memory entry fd u) :
    .authenticate u.conn.username u.conn.pass
      (userAuthenticate entry.users u.conn.username u.conn.pass) ∈ u.log := by
  obtain ⟨x, data, hkept, -, rfl⟩ := h
  have hname : ({ x.checked ⟨fd, data⟩ with conn.stm := some .auth } : PamSession).conn.username =
      x.conn.username := Pam.username_congr rfl
  have hpass : ({ x.checked ⟨fd, data⟩ with conn.stm := some .auth } : PamSession).conn.pass =
      x.conn.pass := Pam.pass_congr rfl
  rw [hname, hpass, ← hkept.users]
  exact List.mem_append_right _ (List.mem_singleton_self _)

variable (c fd) in
/-- The whole message in one read. -/
theorem AtPamAuth.readWhole (h : AtPamAuth s) (hrecv : env.recv = some c.pamMessage) :
    ∃ t, pamStep s (.read fd env) = .ok t ∧ PamAuthChecked c s.conn.auth.credentials s fd t :=
  (h.read fd hrecv List.prefix_rfl (by rw [c.length_pamMessage]; omega)).2 rfl

/-- From a first segment with the header on, the segments do not matter. -/
theorem AtPamAuth.unsegmented (h : AtPamAuth s) (hdelivers : PamDelivers fd c.pamMessage es)
    (hheader : 3 ≤ (firstSegment es).length) : AuthUnsegmented c s fd es := by
  generalize hmessage : c.pamMessage = message at hdelivers
  rcases hdelivers with _ | @⟨chunk, rest, env, es, hrecv, hne, hrest⟩
  · cases hmessage
  have hfirst : firstSegment (.read fd env :: es) = chunk := by
    rw [firstSegment, hrecv, Option.getD_some]
  rw [hfirst] at hheader
  have hmore : chunk <+: c.pamMessage := by
    rw [hmessage]
    exact List.prefix_append _ _
  obtain ⟨hwaits, hchecks⟩ := h.read fd hrecv hmore hheader
  have hbefore : ∀ es₁ es₂, PamEvent.read fd env :: es = es₁ ++ es₂ → es₂ ≠ [] →
      es₁ = [] ∨ ∃ t bytes' rest', run pamStep s es₁ = .ok t ∧
        PamAuthHeld c s.conn.auth.credentials s bytes' t ∧ PamDelivers fd rest' es₂ ∧
        bytes' ++ rest' = c.pamMessage := by
    intro es₁ es₂ hsplit hne₂
    rcases es₁ with _ | ⟨e, es₁⟩
    · exact .inl rfl
    · obtain ⟨rfl, hlater⟩ : PamEvent.read fd env = e ∧ es = es₁ ++ es₂ :=
        List.cons.inj hsplit
      have hpending : rest ≠ [] := by
        refine hrest.bytes_ne_nil ?_
        rw [hlater]
        exact List.append_ne_nil_of_right_ne_nil _ hne₂
      have hshort : chunk.length < c.pamMessage.length := by
        rw [hmessage, List.length_append]
        have := List.length_pos_of_ne_nil hpending
        omega
      obtain ⟨u, hstep, hu⟩ := hwaits hshort
      obtain ⟨t, bytes', rest', hrun, ht⟩ := hu.run hrest hmessage.symm hlater hne₂
      exact .inr ⟨t, bytes', rest', run_cons_ok_iff.mpr ⟨u, hstep, hrun⟩, ht⟩
  constructor
  · intro es₁ es₂ hsplit hne₂
    rcases hbefore es₁ es₂ hsplit hne₂ with rfl | ⟨t, bytes', rest', hrun, ht, -⟩
    · exact ⟨s, rfl, h.freed, h.state, fun _ haction => .inl haction⟩
    · exact ⟨t, hrun, ht.stillWaits⟩
  · intro es₁ env' t hsplit hrun
    obtain ⟨u', hstep', hu'⟩ := h.readWhole c fd
      (show ({ env' with recv := some c.pamMessage } : PamEnv).recv = some c.pamMessage from rfl)
    obtain ⟨u, hstep, hu⟩ : ∃ u, pamStep t (.read fd env') = .ok u ∧
        PamAuthChecked c s.conn.auth.credentials s fd u := by
      have hpending : [PamEvent.read fd env'] ≠ [] := List.cons_ne_nil _ _
      rcases hbefore es₁ _ hsplit hpending with
        rfl | ⟨t', bytes', rest', hrun', ht', hlast, hbytes⟩
      · obtain ⟨hevent, hnil⟩ := List.cons.inj hsplit
        obtain ⟨-, rfl⟩ := PamEvent.read.inj hevent
        rw [hnil] at hrest
        generalize hnothing : ([] : List PamEvent) = none' at hrest
        rcases hrest with _ | ⟨-, -, -⟩
        · rw [List.append_nil] at hmessage
          rw [← Except.ok.inj hrun]
          exact hchecks hmessage.symm
        · cases hnothing
      · obtain rfl := Except.ok.inj (hrun.symm.trans hrun')
        obtain ⟨u, hu, hchecked⟩ := ht'.deliver hlast hbytes (hlast.bytes_ne_nil hpending)
        obtain ⟨v, hstep, hnil⟩ := run_cons_ok_iff.mp hu
        obtain rfl := Except.ok.inj hnil
        exact ⟨v, hstep, hchecked⟩
    exact ⟨u, u', hstep, hstep', hu'.alike hu, hu.calls⟩

theorem PamDelivers.eq_nil_of_nil (h : PamDelivers fd bytes []) : bytes = [] := by
  generalize hnothing : ([] : List PamEvent) = none' at h
  rcases h with _ | ⟨-, -, -⟩
  · rfl
  · cases hnothing

/-- A first segment without the header is turned down before the rest can
arrive. -/
theorem AtPamAuth.not_unsegmented (h : AtPamAuth s) (hdelivers : PamDelivers fd c.pamMessage es)
    (hshort : (firstSegment es).length < 3) : ¬ AuthUnsegmented c s fd es := by
  generalize hmessage : c.pamMessage = message at hdelivers
  rcases hdelivers with _ | @⟨chunk, rest, env, es, hrecv, hne, hrest⟩
  · cases hmessage
  have hfirst : firstSegment (.read fd env :: es) = chunk := by
    rw [firstSegment, hrecv, Option.getD_some]
  rw [hfirst] at hshort
  have hpending : es ≠ [] := by
    rintro rfl
    have hlen := congrArg List.length hmessage
    rw [hrest.eq_nil_of_nil, List.append_nil, c.length_pamMessage] at hlen
    omega
  intro hauth
  obtain ⟨u, hrun, hwaits⟩ := hauth.waits [.read fd env] es rfl hpending
  obtain ⟨v, hstep, hnil⟩ := run_cons_ok_iff.mp hrun
  obtain rfl := Except.ok.inj hnil
  have hdown : TurnedDown chunk := .inr (List.getD_eq_default _ _ (Nat.le_of_lt_succ hshort))
  have herror := ((h.refuses fd hrecv hne (by rw [pamBufferSize]; omega) hdown).2 v hstep).1
  have hstate := hwaits.state
  rw [PamSession.state, herror] at hstate
  cases hstate

end Auth

/-! ## The answer to the credentials -/

section Sends

variable {fd : ℤ} {s : PamSession} {n : ℕ} {es : List PamEvent}

/-- A connection in PAM_REQUEST that has received nothing of a request. -/
structure AtPamRequest (s : PamSession) : Prop where
  sound : PamSound s
  state : s.state = .request
  awaits : AwaitsRequest s
  calls : ∀ method body, .handle method body ∉ s.log

/-- `n` bytes of the answer to the credentials have not been sent. -/
structure AnswerPending (n : ℕ) (s : PamSession) : Prop where
  sound : PamSound s
  stm : s.conn.stm = some .auth
  pending : 0 < n
  length : s.conn.clientBuffer.content.length = n
  calls : ∀ method body, .handle method body ∉ s.log

theorem pamSound_of_step {t : PamSession} {e : PamEvent} (hs : PamSound s)
    (ht : pamStep s e = .ok t) (hfreed : t.freed = false) : PamSound t := by
  rcases (pamStep_assertion_iff (.inr hs)).2 t ht with hgone | hsound
  · rw [hfreed] at hgone
    cases hgone
  · exact hsound

theorem AtPamRequest.others (h : AtPamRequest s) (users : UserStore) (metrics : MetricSnapshot) :
    AtPamRequest { s with users := users, metrics := metrics } where
  sound := pamSound_of_step (e := .others users metrics) h.sound rfl h.sound.freed
  state := h.state
  awaits := ⟨h.awaits.state, h.awaits.reserved, h.awaits.empty, h.awaits.space⟩
  calls := h.calls

/-- One write of the answer. -/
theorem AnswerPending.write {k : ℕ} {env : PamEnv} (h : AnswerPending (k + n) s)
    (hsend : env.send = some k) :
    ∃ t, pamStep s (.write fd env) = .ok t ∧
      (AnswerPending n t ∨ n = 0 ∧ AtPamRequest t) := by
  have hstate : s.state = .auth := by
    rw [PamSession.state, h.stm]
    rfl
  have harrived : s.arrived = s := by rw [PamSession.arrived, h.stm]
  have hstep : pamStep s (.write fd env) =
      pamSettle env ⟨fd, s.address⟩ .auth (pamAuthWrite env ⟨fd, s.address⟩ s) := by
    rw [pamStep_write h.sound.freed, pamWrite_auth hstate, harrived]
  have hends := pamAuthWrite_ends env ⟨fd, s.address⟩ s
  generalize pamAuthWrite env ⟨fd, s.address⟩ s = r at hends hstep
  have hlen := h.length
  have hcalls : ∀ k method body, .handle method body ∉ (s.sending (some k)).log := by
    intro k method body hhandle
    rcases List.mem_append.mp hhandle with hold | hnew
    · exact h.calls method body hold
    · cases List.mem_singleton.mp hnew
  rcases hends with hnone | ⟨k', hk, hleft⟩ | ⟨k', hk, hempty⟩
  · rw [hsend] at hnone
    cases hnone
  · obtain rfl := Option.some.inj (hsend.symm.trans hk)
    rw [pamSettle_stay (by simp) (by simp)] at hstep
    refine ⟨_, hstep, .inl ⟨pamSound_of_step h.sound hstep h.sound.freed, rfl, ?_, ?_, hcalls k⟩⟩
    · have := List.length_pos_of_ne_nil hleft
      rw [List.length_drop] at this
      omega
    · change (s.sending (some k)).conn.clientBuffer.content.length = n
      rw [pamSending_content, List.length_drop]
      omega
  · obtain rfl := Option.some.inj (hsend.symm.trans hk)
    rw [pamSettle_request] at hstep
    have hsound := pamSound_of_step h.sound hstep h.sound.freed
    refine ⟨_, hstep, .inr ⟨?_, hsound, rfl, ?_, hcalls k⟩⟩
    · have := List.drop_eq_nil_iff.mp hempty
      omega
    · exact ⟨rfl, rfl, rfl, hsound.limit⟩

/-- Once the answer has been sent, the connection waits for a request. -/
theorem PamSends.reach (hsends : PamSends fd n es)
    (h : AnswerPending n s ∨ n = 0 ∧ AtPamRequest s) :
    ∃ t, run pamStep s es = .ok t ∧ AtPamRequest t := by
  induction hsends generalizing s with
  | nil =>
      rcases h with hpending | ⟨-, hrequest⟩
      · exact absurd hpending.pending (Nat.lt_irrefl 0)
      · exact ⟨s, rfl, hrequest⟩
  | @write n k env es hsend hpos hrest ih =>
      rcases h with hpending | ⟨hzero, -⟩
      · obtain ⟨u, hstep, hu⟩ := hpending.write hsend
        obtain ⟨t, hrun, ht⟩ := ih hu
        exact ⟨t, run_cons_ok_iff.mpr ⟨u, hstep, hrun⟩, ht⟩
      · omega
  | @others n es users metrics hrest ih =>
      have hu : AnswerPending n { s with users := users, metrics := metrics } ∨
          n = 0 ∧ AtPamRequest { s with users := users, metrics := metrics } := by
        rcases h with hpending | ⟨hzero, hrequest⟩
        · exact .inl ⟨pamSound_of_step (e := .others users metrics) hpending.sound rfl
            hpending.sound.freed, hpending.stm, hpending.pending, hpending.length, hpending.calls⟩
        · exact .inr ⟨hzero, hrequest.others users metrics⟩
      obtain ⟨t, hrun, ht⟩ := ih hu
      exact ⟨t, run_cons_ok_iff.mpr ⟨_, rfl, hrun⟩, ht⟩

end Sends

/-! ## The request -/

section Request

variable {fd : ℤ} {s t : PamSession} {env : PamEnv} {method : UInt16} {body : List UInt8}
  {es : List PamEvent}

/-- A reader that is stuck hands nothing over. -/
theorem PamStuck.handover_none (h : PamStuck s) (env : PamEnv) (key : SelectorKey) :
    pamRequestHandover env key s = none := by
  rcases hrecv : s.recvClientBuffer key.fd env.recv with ⟨_ | _ | ⟨c, bytes⟩, u⟩
  · rw [pamRequestHandover, hrecv]
  · rw [pamRequestHandover, hrecv]
  · have hspace : u.conn.clientBuffer.space ≤ s.conn.clientBuffer.space := by
      rcases hanswer : env.recv with _ | offered
      · rw [hanswer] at hrecv
        cases hrecv
      · rw [recvClientBuffer_received s key.fd hanswer] at hrecv
        obtain ⟨-, rfl⟩ := Prod.ext_iff.mp hrecv
        rw [received_space]
        exact Nat.sub_le _ _
    have hstate := recvClientBuffer_requestState hrecv
    have hnbody : u.conn.request = s.conn.request := by
      have hu : (s.recvClientBuffer key.fd env.recv).2 = u := congrArg Prod.snd hrecv
      rw [← hu]
      rcases env.recv with _ | offered
      · rfl
      · rfl
    rw [pamRequestHandover_received hrecv]
    rcases h with ⟨hfirst, -, hfull⟩ | ⟨hbody, hfull⟩
    · rw [pamRequestHeader_waits (hstate.trans hfirst) (lt_of_le_of_lt hspace hfull)]
    · rw [pamRequestHeader_of_readBody (hstate.trans hbody)]
      refine if_neg fun hready => ?_
      rw [hnbody] at hready
      omega

/-- The connection has been closed, or the reader is stuck. -/
def PamDwells (s : PamSession) : Prop :=
  s.freed = true ∨ PamSound s ∧ s.state = .request ∧ PamStuck s

/-- A read that hands nothing over, unless it is cut short. -/
theorem pamDwells_of_read (hs : PamSound s) (hstate : s.state = .request)
    (hnone : pamRequestHandover env ⟨fd, s.address⟩ s = none)
    (ht : pamStep s (.read fd env) = .ok t) : PamDwells t := by
  rcases hs.phase with hauth | ⟨-, hexpects⟩
  · rw [hstate] at hauth
    cases hauth
  · have hstep := ht
    have hends := pamRequestRead_ends env ⟨fd, s.address⟩ hexpects.reserved hexpects.state
    rw [pamStep_read hs.freed, pamRead_request hstate] at hstep
    generalize pamRequestRead env ⟨fd, s.address⟩ s = r at hends hstep
    rcases hends with ⟨x, ret, hreading, hret, -⟩ | - | ⟨x, hreading, hstuck, -⟩ |
      ⟨x, buffer, -, -, hsome⟩
    · change pamSettle env ⟨fd, s.address⟩ .request (x, ret) = .ok t at hstep
      rw [pamSettle_stop hret,
        pamDone_of_registered (registered_of_stm _ hs hreading.toPamFrame)] at hstep
      rw [← Except.ok.inj hstep]
      exact .inl rfl
    · cases hstep
    · change pamSettle env ⟨fd, s.address⟩ .request (x, .request) = .ok t at hstep
      rw [pamSettle_stay (by simp) (by simp)] at hstep
      have hfreed : t.freed = false := by
        rw [← Except.ok.inj hstep]
        exact hreading.freed.trans hs.freed
      refine .inr ⟨pamSound_of_step hs ht hfreed, ?_⟩
      rw [← Except.ok.inj hstep]
      refine ⟨rfl, ?_⟩
      rcases hstuck with ⟨hfirst, hne, hfull⟩ | ⟨hbody, hfull⟩
      · exact .header hfirst hne hfull
      · exact .body hbody hfull
    · rw [hnone] at hsome
      cases hsome

theorem PamDwells.read (h : PamDwells s) (ht : pamStep s (.read fd env) = .ok t) :
    PamDwells t := by
  rcases h with hfreed | ⟨hsound, hstate, hstuck⟩
  · rw [pamStep, hfreed] at ht
    cases ht
  · exact pamDwells_of_read hsound hstate (hstuck.handover_none env _) ht

/-- A request that is handed over is seen in the calls. -/
theorem handle_of_handover {buffer : Buffer} (hs : PamSound s) (hstate : s.state = .request)
    (hsome : pamRequestHandover env ⟨fd, s.address⟩ s = some (method, buffer))
    (ht : pamStep s (.read fd env) = .ok t) : .handle method buffer.content ∈ t.log := by
  obtain ⟨x, -, hmethod, hstep⟩ := pamStep_of_handover hs hstate hsome
  rw [hstep] at ht
  rcases hhandle : handlePamRequestMethod env x buffer with fault | u
  · rw [hhandle] at ht
    cases ht
  · rw [hhandle] at ht
    rw [← Except.ok.inj ht, ← hmethod]
    obtain ⟨users, status, nbody, answer, rfl⟩ := handlePamRequestMethod_leaving hhandle
    exact List.mem_append_right _ (List.mem_singleton_self _)

theorem PamDelivers.read_of_mem {bytes : List UInt8} (h : PamDelivers fd bytes es)
    {e : PamEvent} (he : e ∈ es) : ∃ env, e = .read fd env := by
  induction h with
  | nil => cases he
  | @cons chunk rest env es hrecv hne hrest ih =>
      rcases List.mem_cons.mp he with rfl | hlater
      · exact ⟨env, rfl⟩
      · exact ih hlater

/-- A request of more than half the buffer does not leave the room that the
reader looks for. -/
theorem length_le_of_handover (h : AwaitsRequest s) (key : SelectorKey)
    (hbody : body.length ≤ 65535) (hrecv : env.recv = some (requestMessage method body))
    (hsome : pamRequestHandover env key s ≠ none) : body.length ≤ 32765 := by
  by_contra hlong
  apply hsome
  have hsize : (requestMessage method body).length = body.length + 6 := by
    simp [requestMessage, networkOrder]
  have htake : (requestMessage method body).take s.conn.clientBuffer.space =
      requestHeader method (UInt16.ofNat body.length) ++ body.take 65530 := by
    rw [h.space, requestMessage_eq, List.take_append]
    rfl
  have hgot := recvClientBuffer_received s key.fd hrecv
  rw [htake] at hgot
  generalize hu : s.received key.fd (requestMessage method body) = u at hgot
  have hcontent : u.conn.clientBuffer.content =
      requestHeader method (UInt16.ofNat body.length) ++ body.take 65530 := by
    rw [← hu, received_content, h.empty, htake, List.nil_append]
  have hspace : u.conn.clientBuffer.space = 65530 - body.length := by
    rw [← hu, received_space, h.space, hsize, pamBufferSize]
    omega
  have hstate : u.conn.request.state = .verNReserved := by
    rw [← hu]
    exact h.state
  have hreserved : u.conn.request.reserved = reservedByte := by
    rw [← hu]
    exact h.reserved
  rw [pamRequestHandover_received hgot]
  by_cases hfull : u.conn.clientBuffer.space < 2
  · rw [pamRequestHeader_waits hstate hfull]
  · obtain ⟨buffer, hbuffer, hheader⟩ :=
      pamRequestHeader_complete hstate hreserved hcontent (Nat.not_lt.mp hfull)
    have hrest : body.take 65530 ≠ [] := by
      refine List.ne_nil_of_length_pos ?_
      rw [List.length_take]
      omega
    have hroom := hbuffer.space
    rw [if_neg hrest, hspace] at hroom
    have hcount : (UInt16.ofNat body.length).toNat = body.length :=
      UInt16.toNat_ofNat_of_lt' (by rw [UInt16.size]; omega)
    rw [hheader]
    refine if_neg fun hready => ?_
    have hfits : (UInt16.ofNat body.length).toNat ≤ buffer.space := hready.2
    rw [hcount, hroom] at hfits
    omega

/-- A request that does not arrive at once is handed over too early or never. -/
theorem AtPamRequest.not_unsegmented (h : AtPamRequest s) {bytes : List UInt8}
    (hdelivers : PamDelivers fd bytes (.read fd env :: es)) (hne : es ≠ []) :
    ¬ RequestUnsegmented method body s fd (.read fd env :: es) := by
  intro hrequest
  obtain ⟨u, hrun, hwaits⟩ := hrequest.waits [.read fd env] es rfl hne
  obtain ⟨v, hstep, hnil⟩ := run_cons_ok_iff.mp hrun
  obtain rfl := Except.ok.inj hnil
  rcases hhandover : pamRequestHandover env ⟨fd, s.address⟩ s with _ | ⟨method', buffer⟩
  · have hdwells := pamDwells_of_read h.sound h.state hhandover hstep
    obtain ⟨es₀, last, rfl⟩ := (List.eq_nil_or_concat es).resolve_left hne
    rw [List.concat_eq_append] at hrequest hdelivers
    obtain ⟨env', rfl⟩ := hdelivers.read_of_mem (e := last) (by simp)
    obtain ⟨t, hrun', hwaits'⟩ := hrequest.waits (.read fd env :: es₀) [.read fd env'] rfl nofun
    obtain ⟨v', hstep', hlater⟩ := run_cons_ok_iff.mp hrun'
    obtain rfl := Except.ok.inj (hstep.symm.trans hstep')
    have hreads : Steps pamStep (fun _ e => ∃ env, e = .read fd env) v es₀ :=
      .of_forall_mem (fun e he _ => hdelivers.read_of_mem (.tail _ (List.mem_append_left _ he))) v
    have hstill : PamDwells t := by
      refine run_invariant (I := PamDwells) ?_ hdwells hreads hlater
      rintro s e t hs ⟨env, rfl⟩ ht
      exact hs.read ht
    rcases hstill with hfreed | ⟨-, -, hstuck⟩
    · rw [hwaits'.freed] at hfreed
      cases hfreed
    · obtain ⟨⟨buffer, -, hsome⟩, -⟩ := hrequest.whole (.read fd env :: es₀) env' t rfl hrun'
      rw [hstuck.handover_none] at hsome
      cases hsome
  · have hhandle := handle_of_handover h.sound h.state hhandover hstep
    rcases hwaits.calls _ hhandle with hold | hreceives
    · exact h.calls _ _ hold
    · exact hreceives

/-- Only a request that arrives at once is waited for, and only up to half the
buffer. -/
theorem AtPamRequest.unsegmented_iff (h : AtPamRequest s) (hbody : body.length ≤ 65535)
    (hdelivers : PamDelivers fd (requestMessage method body) es) :
    RequestUnsegmented method body s fd es ↔ es.length = 1 ∧ body.length ≤ 32765 := by
  generalize hmessage : requestMessage method body = message at hdelivers
  have hpieces := hdelivers
  rcases hdelivers with _ | @⟨chunk, rest, env, es, hrecv, hne, hrest⟩
  · cases hmessage
  by_cases hlast : es = []
  · subst hlast
    rw [hrest.eq_nil_of_nil, List.append_nil] at hmessage
    rw [← hmessage] at hrecv
    have hsame : { env with recv := some (requestMessage method body) } = env := by
      rw [← hrecv]
    rw [and_iff_right (show [PamEvent.read fd env].length = 1 from rfl)]
    constructor
    · intro hrequest
      obtain ⟨⟨buffer, -, hsome⟩, -⟩ := hrequest.whole [] env s rfl rfl
      exact length_le_of_handover h.awaits _ hbody hrecv (by rw [hsome]; simp)
    · intro hlen
      constructor
      · intro es₁ es₂ hsplit hne₂
        rcases es₁ with _ | ⟨e, es₁⟩
        · exact ⟨s, rfl, h.sound.freed, h.state, fun _ haction => .inl haction⟩
        · have hnil : [] = es₁ ++ es₂ := (List.cons.inj hsplit).2
          exact absurd (List.append_eq_nil_iff.mp hnil.symm).2 hne₂
      · intro es₁ env' t hsplit hrun
        rcases es₁ with _ | ⟨e, es₁⟩
        · obtain ⟨-, rfl⟩ := PamEvent.read.inj (List.cons.inj hsplit).1
          rw [← Except.ok.inj hrun, hsame]
          exact ⟨pamRequestHandover_of_message h.awaits _ hlen hrecv, rfl⟩
        · have hnil : [] = es₁ ++ [PamEvent.read fd env'] := (List.cons.inj hsplit).2
          exact absurd (List.append_eq_nil_iff.mp hnil.symm).2 nofun
  · refine iff_of_false (h.not_unsegmented hpieces hlast) ?_
    rintro ⟨hlen, -⟩
    rw [List.length_cons] at hlen
    exact hlast (List.eq_nil_of_length_eq_zero (Nat.succ.inj hlen))

end Request

/-! ## Every session -/

section Sessions

variable {sel : FdSelector FdHandler ℕ} {users : UserStore} {metrics : MetricSnapshot}
  {a : PamAccepted} {s : PamSession} {c : Credentials} {es sends es' : List PamEvent}

theorem atPamAuth_of_accept (haccept : pamPassiveAccept sel users metrics a = some s) :
    AtPamAuth s := by
  rw [(pamPassiveAccept_eq haccept).2]
  exact ⟨rfl, rfl, awaitsPamCredentials_of_arrival rfl rfl⟩

theorem AtPamAuth.deliver (h : AtPamAuth s) {fd : ℤ} (hdelivers : PamDelivers fd c.pamMessage es)
    (hheader : 3 ≤ (firstSegment es).length) :
    ∃ t, run pamStep s es = .ok t ∧ PamAuthChecked c s.conn.auth.credentials s fd t := by
  generalize hmessage : c.pamMessage = message at hdelivers
  rcases hdelivers with _ | @⟨chunk, rest, env, es, hrecv, hne, hrest⟩
  · cases hmessage
  have hfirst : firstSegment (.read fd env :: es) = chunk := by
    rw [firstSegment, hrecv, Option.getD_some]
  rw [hfirst] at hheader
  have hmore : chunk <+: c.pamMessage := by
    rw [hmessage]
    exact List.prefix_append _ _
  obtain ⟨hwaits, hchecks⟩ := h.read fd hrecv hmore hheader
  by_cases hlast : rest = []
  · subst hlast
    rw [List.append_nil] at hmessage
    obtain ⟨t, hstep, ht⟩ := hchecks hmessage.symm
    obtain rfl := hrest.eq_nil
    exact ⟨t, run_cons_ok_iff.mpr ⟨t, hstep, rfl⟩, ht⟩
  · have hshort : chunk.length < c.pamMessage.length := by
      rw [hmessage, List.length_append]
      have := List.length_pos_of_ne_nil hlast
      omega
    obtain ⟨u, hstep, hu⟩ := hwaits hshort
    obtain ⟨t, hrun, ht⟩ := hu.deliver hrest hmessage.symm hlast
    exact ⟨t, run_cons_ok_iff.mpr ⟨u, hstep, hrun⟩, ht⟩

/-- The answer to the credentials is two bytes long. -/
theorem PamAuthChecked.pending {memory : ℕ → UInt8} {fd : ℤ} {t : PamSession}
    (h : PamAuthChecked c memory s fd t) (hsound : PamSound t)
    (hlimit : s.conn.clientBuffer.limit = pamBufferSize)
    (hcalls : ∀ method body, .handle method body ∉ s.log) : AnswerPending 2 t := by
  obtain ⟨x, data, hkept, -, rfl⟩ := h
  refine ⟨hsound, rfl, Nat.two_pos, ?_, ?_⟩
  · change (PamSession.answerWith x [pamVersion1, pamVerdict x.users x.conn]
      ).conn.clientBuffer.content.length = 2
    rw [answerWith_content, hkept.limit, hlimit]
    rfl
  · intro method body hhandle
    rcases List.mem_append.mp hhandle with hold | hnew
    · rcases hkept.calls _ hold with hold | hreceives
      · exact hcalls method body hold
      · exact hreceives
    · cases List.mem_singleton.mp hnew

/-- A connection whose credentials arrive behind their header gets to its
request. -/
theorem atPamRequest_of_accept (hfresh : PamFresh sel a)
    (haccept : pamPassiveAccept sel users metrics a = some s) {fd : ℤ}
    (hauth : PamDelivers fd c.pamMessage es) (hheader : 3 ≤ (firstSegment es).length)
    (hsends : PamSends fd 2 sends) :
    ∃ t, run pamStep s (es ++ sends) = .ok t ∧ AtPamRequest t := by
  obtain ⟨u, hrun, hchecked⟩ := (atPamAuth_of_accept haccept).deliver hauth hheader
  have hintact := run_invariant (I := PamIntact) (P := fun _ _ => True)
    (fun s e t hs _ ht => (pamStep_assertion_iff hs).2 t ht)
    (pamIntact_of_accept hfresh haccept) (Steps.of_forall (fun _ _ => trivial) _ _) hrun
  have hsound : PamSound u := by
    refine hintact.resolve_left fun hfreed => ?_
    obtain ⟨x, data, hkept, -, rfl⟩ := hchecked
    have halive := hkept.freed
    rw [show x.freed = true from hfreed] at halive
    cases halive
  have hpending := hchecked.pending hsound
    (by rw [(pamPassiveAccept_eq haccept).2]; rfl)
    (by rw [(pamPassiveAccept_eq haccept).2]; simp)
  obtain ⟨t, hrun', ht⟩ := hsends.reach (.inl hpending)
  exact ⟨t, run_append_ok_iff.mpr ⟨u, hrun, hrun'⟩, ht⟩

/-- Decoding does not depend on the segments exactly if the first segment of
the credentials has their header, and the request arrives at once and fills at
most half the buffer. -/
theorem session_unsegmented_iff (hfresh : PamFresh sel a)
    (haccept : pamPassiveAccept sel users metrics a = some s) (c : Credentials)
    (method : UInt16) {body : List UInt8} (hbody : body.length ≤ 65535)
    (hauth : PamDelivers s.conn.clientFd c.pamMessage es)
    (hsends : PamSends s.conn.clientFd 2 sends)
    (hrequest : PamDelivers s.conn.clientFd (requestMessage method body) es') :
    SessionUnsegmented c method body s es sends es' ↔
      3 ≤ (firstSegment es).length ∧ es'.length = 1 ∧ body.length ≤ 32765 := by
  have hentry := atPamAuth_of_accept haccept
  constructor
  · intro hsession
    have hheader : 3 ≤ (firstSegment es).length := by
      by_contra hshort
      exact hentry.not_unsegmented hauth (Nat.lt_of_not_le hshort) hsession.auth
    obtain ⟨t, hrun, ht⟩ := atPamRequest_of_accept hfresh haccept hauth hheader hsends
    exact ⟨hheader, (ht.unsegmented_iff hbody hrequest).mp (hsession.request t hrun)⟩
  · rintro ⟨hheader, hwhole⟩
    refine ⟨hentry.unsegmented hauth hheader, fun t hrun => ?_⟩
    obtain ⟨t', hrun', ht'⟩ := atPamRequest_of_accept hfresh haccept hauth hheader hsends
    obtain rfl := Except.ok.inj (hrun.symm.trans hrun')
    exact (ht'.unsegmented_iff hbody hrequest).mpr hwhole

end Sessions

/-! ## Two sessions -/

/-- The credentials of the administrator, with a segment of their own for the
header. -/
def adminSegments : List PamEvent :=
  [.read 4 (pamReceives adminCredentials.pamHeader),
    .read 4 (pamReceives (adminCredentials.username ++ adminCredentials.password))]

def answerSends : List PamEvent := [.write 4 (pamSends 1), .write 4 (pamSends 1)]

theorem adminSegments_delivers :
    PamDelivers firstManagement.conn.clientFd adminCredentials.pamMessage adminSegments := by
  rw [show firstManagement.conn.clientFd = 4 by decide +kernel]
  have hlast : PamDelivers 4 (adminCredentials.username ++ adminCredentials.password ++ [])
      [.read 4 (pamReceives (adminCredentials.username ++ adminCredentials.password))] :=
    .cons rfl nofun .nil
  have hboth : PamDelivers 4 (adminCredentials.pamHeader ++
      (adminCredentials.username ++ adminCredentials.password ++ [])) adminSegments :=
    .cons rfl nofun hlast
  rw [List.append_nil] at hboth
  exact hboth

theorem answerSends_sends : PamSends firstManagement.conn.clientFd 2 answerSends := by
  rw [show firstManagement.conn.clientFd = 4 by decide +kernel]
  exact .write rfl Nat.one_pos (.write rfl Nat.one_pos .nil)

/-- The header of a request to remove the user `a`, and then its body. -/
def splitRequest : List PamEvent :=
  [.read 4 (pamReceives (requestHeader pamRequestMethodRemoveUser 2)),
    .read 4 (pamReceives [1, 97])]

theorem splitRequest_segmented :
    PamDelivers firstManagement.conn.clientFd (requestMessage pamRequestMethodRemoveUser [1, 97])
        splitRequest ∧
      ¬ SessionUnsegmented adminCredentials pamRequestMethodRemoveUser [1, 97] firstManagement
        adminSegments answerSends splitRequest := by
  have hdelivers : PamDelivers firstManagement.conn.clientFd
      (requestMessage pamRequestMethodRemoveUser [1, 97]) splitRequest := by
    rw [show firstManagement.conn.clientFd = 4 by decide +kernel]
    have hlast : PamDelivers 4 ([1, 97] ++ []) [.read 4 (pamReceives [1, 97])] :=
      .cons rfl nofun .nil
    have hboth : PamDelivers 4 (requestHeader pamRequestMethodRemoveUser 2 ++ ([1, 97] ++ []))
        splitRequest := .cons rfl nofun hlast
    rw [List.append_nil] at hboth
    exact hboth
  refine ⟨hdelivers, fun hsession => ?_⟩
  obtain ⟨t, hrun, ht⟩ := atPamRequest_of_accept (firstManager_fresh default)
    firstManagement_accepted adminSegments_delivers (by decide) answerSends_sends
  have hfd : firstManagement.conn.clientFd = 4 := by decide +kernel
  have hrequest := hsession.request t hrun
  rw [hfd] at hdelivers hrequest
  exact ht.not_unsegmented hdelivers nofun hrequest

/-- A request that arrives at once, behind credentials that do not. -/
theorem session_unsegmented_admin :
    SessionUnsegmented adminCredentials pamRequestMethodGetMetrics [] firstManagement adminSegments
      answerSends [.read 4 (pamReceives (requestMessage pamRequestMethodGetMetrics []))] := by
  refine (session_unsegmented_iff (firstManager_fresh default) firstManagement_accepted
    adminCredentials pamRequestMethodGetMetrics (Nat.zero_le _) adminSegments_delivers
    answerSends_sends ?_).mpr ⟨by decide, rfl, Nat.zero_le _⟩
  rw [show firstManagement.conn.clientFd = 4 by decide +kernel]
  exact .whole 4 nofun

end Socks5Proxy

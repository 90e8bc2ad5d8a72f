import Socks5Proxy.Pam.Accepted
import Socks5Proxy.Pam.AuthReading
import Socks5Proxy.Pam.RequestReading

/-!
# Assertions of a management connection

The order of the pointers of `client_buffer` is part of the type `Buffer`; an
operation whose assertion fails aborts the process.  `buffer_read` tests the
content itself, `buffer_read_adv` does not, and the two blocks of the header
that call it have only tested the free part.
-/

namespace Socks5Proxy

open Library

/-! ## When the header runs out of bytes -/

/-- A request starts with these bytes and they end before its header does. -/
def CutShort (bytes : List UInt8) : Prop := StartsRequest bytes ∧ bytes.length < 6

instance (bytes : List UInt8) : Decidable (CutShort bytes) :=
  inferInstanceAs (Decidable (_ ∧ _))

/-- Nothing of a request has been received, and the first bytes of one that
are received end before its header does. -/
def CutsHeader (s : PamSession) : PamEvent → Prop
  | .read _ env =>
    s.freed = false ∧ s.state = .request ∧ s.conn.request.state = .verNReserved ∧
      s.conn.clientBuffer.content = [] ∧ ∃ bytes, env.recv = some bytes ∧ CutShort bytes
  | .write _ _ => False
  | .others _ _ => False

instance CutsHeader.decidable (s : PamSession) : (e : PamEvent) → Decidable (CutsHeader s e)
  | .read _ env => inferInstanceAs (Decidable
      (s.freed = false ∧ s.state = .request ∧ s.conn.request.state = .verNReserved ∧
        s.conn.clientBuffer.content = [] ∧ ∃ bytes, env.recv = some bytes ∧ CutShort bytes))
  | .write _ _ => .isFalse id
  | .others _ _ => .isFalse id

section Header

variable {env : PamEnv} {key : SelectorKey} {s : PamSession}

theorem ne_nil_of_startsRequest {bytes : List UInt8} (h : StartsRequest bytes) : bytes ≠ [] := by
  rintro rfl
  cases h.1

/-- The first bytes of a request abort the process exactly if they are cut
short. -/
theorem pamRequestHeader_assertion_iff (hstate : s.conn.request.state = .verNReserved)
    (hreserved : s.conn.request.reserved = reservedByte)
    (hspace : s.conn.clientBuffer.content.length < 6 → 2 ≤ s.conn.clientBuffer.space) :
    PamBlock.continue (pamRequestHeader s) (pamRequestReadBody env key) = .error .assertion ↔
      CutShort s.conn.clientBuffer.content := by
  have hends := pamRequestHeader_ends hstate hreserved
  generalize pamRequestHeader s = header at hends ⊢
  rcases hends with hfull | ⟨buffer, -, hstart⟩ | ⟨hstart, hlen⟩ |
    ⟨method, nbody, rest, buffer, hwhole, -⟩
  · refine iff_of_false (by simp [PamBlock.continue]) ?_
    rintro ⟨-, hlen⟩
    exact absurd (hspace hlen) (Nat.not_le.mpr hfull)
  · exact iff_of_false (by simp [PamBlock.continue]) fun hcut => hstart hcut.1
  · exact iff_of_true rfl ⟨hstart, hlen⟩
  · refine iff_of_false (pamRequestReadBody_ne_assertion rfl) ?_
    rintro ⟨-, hlen⟩
    rw [hwhole] at hlen
    simp [requestHeader, networkOrder] at hlen
    omega

theorem pamRequestRead_assertion_iff_of_awaits (h : AwaitsRequest s) :
    pamRequestRead env key s = .error .assertion ↔
      ∃ bytes, env.recv = some bytes ∧ CutShort bytes := by
  have hspace : s.conn.clientBuffer.space = 65536 := h.space
  rcases hanswer : env.recv with _ | offered
  · rw [pamRequestRead, hanswer]
    simp [PamSession.recvClientBuffer]
  · have hreceived := recvClientBuffer_received s key.fd hanswer
    have hcut : (∃ bytes, some offered = some bytes ∧ CutShort bytes) ↔
        CutShort (offered.take s.conn.clientBuffer.space) := by
      simp only [Option.some.injEq, exists_eq_left', CutShort]
      rw [hspace]
      by_cases hshort : offered.length ≤ 65536
      · rw [List.take_of_length_le hshort]
      · refine iff_of_false (fun hboth => hshort (by omega)) ?_
        rintro ⟨-, hlen⟩
        rw [List.length_take] at hlen
        omega
    have hcontent : (s.received key.fd offered).conn.clientBuffer.content =
        offered.take s.conn.clientBuffer.space := by
      rw [received_content, h.empty]
      rfl
    rw [hcut]
    rcases hbytes : offered.take s.conn.clientBuffer.space with _ | ⟨c, bytes⟩
    · rw [hbytes] at hreceived
      rw [pamRequestRead, hreceived]
      exact iff_of_false (by simp) fun hcut => ne_nil_of_startsRequest hcut.1 rfl
    · rw [hbytes] at hreceived
      rw [pamRequestRead_received hreceived, pamRequestFinish_eq_error_iff,
        pamRequestHeader_assertion_iff (s := s.received key.fd offered) h.state h.reserved,
        hcontent, hbytes]
      intro hlen
      have hlength := congrArg List.length hcontent
      rw [List.length_take] at hlength
      rw [received_space]
      omega

end Header

/-! ## Between two events -/

/-- The phases of PAM_REQUEST: nothing has been received, the buffer is too full
for a header, or the header has been read. -/
structure PamExpects (s : PamSession) : Prop where
  reserved : s.conn.request.reserved = reservedByte
  phase : AwaitsRequest s ∨
    (s.conn.request.state = .verNReserved ∧ s.conn.clientBuffer.content ≠ [] ∧
      s.conn.clientBuffer.space < 2) ∨
    s.conn.request.state = .readBody

theorem PamExpects.state {s : PamSession} (h : PamExpects s) :
    s.conn.request.state = .verNReserved ∨ s.conn.request.state = .readBody := by
  rcases h.phase with hawaits | ⟨hfirst, -⟩ | hbody
  · exact .inl hawaits.state
  · exact .inl hfirst
  · exact .inr hbody

/-- A connection that has not been torn down. -/
structure PamSound (s : PamSession) : Prop where
  freed : s.freed = false
  registered : PamRegistered s
  limit : s.conn.clientBuffer.limit = pamBufferSize
  phase : s.state = .auth ∨ s.state = .request ∧ PamExpects s

def PamIntact (s : PamSession) : Prop := s.freed = true ∨ PamSound s

section Sound

variable {env : PamEnv} {key : SelectorKey} {s t u x : PamSession} {e : PamEvent}

/-- What an event leads to without a failed assertion. -/
def Survives (r : Except Fault PamSession) : Prop :=
  r ≠ .error .assertion ∧ ∀ t, r = .ok t → PamIntact t

theorem survives_ok (h : PamIntact t) : Survives (.ok t) := by
  refine ⟨by simp, ?_⟩
  intro t' ht'
  rw [← Except.ok.inj ht']
  exact h

theorem registered_of_stm (st : PamState) (hs : PamSound s) (hframe : PamFrame s u) :
    PamRegistered { u with conn.stm := some st } := by
  have hu := hframe.registered hs.registered
  exact ⟨hu.owns, hu.only, hu.handler⟩

/-- A callback that ends the connection. -/
theorem survives_stop {st ret : PamState} (hs : PamSound s) (hframe : PamFrame s u)
    (hret : ret = .error ∨ ret = .done) : Survives (pamSettle env key st (u, ret)) := by
  rw [pamSettle_stop hret, pamDone_of_registered (registered_of_stm _ hs hframe)]
  exact survives_ok (.inl rfl)

/-- A callback that stays in PAM_AUTH. -/
theorem survives_auth (hs : PamSound s) (hframe : PamFrame s u) :
    Survives (pamSettle env key .auth (u, .auth)) := by
  rw [pamSettle_stay (by simp) (by simp)]
  exact survives_ok (.inr ⟨hframe.freed.trans hs.freed, registered_of_stm _ hs hframe,
    hframe.limit.trans hs.limit, .inl rfl⟩)

/-- A callback that stays in PAM_REQUEST. -/
theorem survives_request (hs : PamSound s) (hframe : PamFrame s u)
    (hexpects : PamExpects u) : Survives (pamSettle env key .request (u, .request)) := by
  rw [pamSettle_stay (by simp) (by simp)]
  refine survives_ok (.inr ⟨hframe.freed.trans hs.freed, registered_of_stm _ hs hframe,
    hframe.limit.trans hs.limit, .inr ⟨rfl, hexpects.reserved, ?_⟩⟩)
  rcases hexpects.phase with h | h
  · exact .inl ⟨h.state, h.reserved, h.empty, h.space⟩
  · exact .inr h

theorem survives_auth_read (hs : PamSound s) (hstate : s.state = .auth) :
    Survives (pamRead env key s) := by
  rw [pamRead_auth hstate]
  have hends := pamAuthRead_ends env key s.arrived
  generalize pamAuthRead env key s.arrived = r at hends ⊢
  rcases hends with ⟨x, ret, hreading, hret⟩ | ⟨x, hreading⟩ | ⟨x, hreading, -⟩
  · exact survives_stop hs (pamArrived_frame.trans hreading.toPamFrame) hret
  · exact survives_auth hs (pamArrived_frame.trans hreading.toPamFrame)
  · exact survives_auth hs ((pamArrived_frame.trans hreading.toPamFrame).trans pamChecked_frame)

/-- PAM_REQUEST is entered with an empty buffer. -/
theorem survives_auth_write (hs : PamSound s) (hstate : s.state = .auth) :
    Survives (pamWrite env key s) := by
  rw [pamWrite_auth hstate]
  have hends := pamAuthWrite_ends env key s.arrived
  generalize pamAuthWrite env key s.arrived = r at hends ⊢
  have hsending := fun answer =>
    pamArrived_frame.trans (pamSending_frame (s := s.arrived) answer)
  rcases hends with - | ⟨k, -, -⟩ | ⟨k, -, -⟩
  · exact survives_stop hs (hsending _) (.inl rfl)
  · exact survives_auth hs (hsending _)
  · rw [pamSettle_request]
    have hsent := pamArrived_frame.trans (pamSent_frame (s := s.arrived) (some k) key.fd .opRead)
    have hlimit := hsent.limit.trans hs.limit
    have hregistered := registered_of_stm .request hs hsent
    exact survives_ok (.inr ⟨hsent.freed.trans hs.freed,
      ⟨hregistered.owns, hregistered.only, hregistered.handler⟩, hlimit,
      .inr ⟨rfl, rfl, .inl ⟨rfl, rfl, rfl, hlimit⟩⟩⟩)

theorem survives_request_write (hs : PamSound s) (hstate : s.state = .request)
    (hexpects : PamExpects s) : Survives (pamWrite env key s) := by
  rw [pamWrite_request hstate]
  have hends := pamRequestWrite_ends env key s
  generalize pamRequestWrite env key s = r at hends ⊢
  rcases hends with - | ⟨k, hk, hleft⟩ | ⟨k, -, -⟩
  · exact survives_stop hs (pamSending_frame _) (.inl rfl)
  · obtain ⟨-, -, -, hrequest⟩ := pamSending_kept (s := s) (some k)
    refine survives_request hs (pamSending_frame _)
      ⟨(congrArg PamRequestSt.reserved hrequest).trans hexpects.reserved, ?_⟩
    have hkept := congrArg PamRequestSt.state hrequest
    rcases hexpects.phase with hawaits | ⟨hfirst, -, hspace⟩ | hbody
    · rw [hawaits.empty, List.drop_nil] at hleft
      exact absurd rfl hleft
    · refine .inr (.inl ⟨hkept.trans hfirst, ?_, ?_⟩)
      · rw [pamSending_content]
        exact hleft
      have hroom := (readTo_bufferSend (b := s.conn.clientBuffer) k).space
      rw [if_neg hleft] at hroom
      exact lt_of_eq_of_lt hroom hspace
    · exact .inr (.inr (hkept.trans hbody))
  · exact survives_stop hs (pamSent_frame _ _ _) (.inr rfl)

theorem survives_request_read (hs : PamSound s) (hstate : s.state = .request)
    (hexpects : PamExpects s) (hcut : pamRequestRead env key s ≠ .error .assertion) :
    Survives (pamRead env key s) := by
  rw [pamRead_request hstate]
  have hends := pamRequestRead_ends env key hexpects.reserved hexpects.state
  generalize pamRequestRead env key s = r at hends hcut ⊢
  rcases hends with ⟨x, ret, hreading, hret, -⟩ | - | ⟨x, hreading, hstuck, -⟩ |
    ⟨x, buffer, hreading, hx, -⟩
  · exact survives_stop hs hreading.toPamFrame hret
  · exact absurd rfl hcut
  · refine survives_request hs hreading.toPamFrame ⟨hreading.reserved.trans hexpects.reserved, ?_⟩
    rcases hstuck with ⟨hfirst, hne, hspace⟩ | ⟨hbody, -⟩
    · exact .inr (.inl ⟨hfirst, hne, hspace⟩)
    · exact .inr (.inr hbody)
  · rcases hhandle : handlePamRequestMethod env x buffer with fault | t
    · have hne := handlePamRequestMethod_fault_ne_assertion hhandle
      exact ⟨by simpa [Except.map, Except.bind] using hne, by simp [Except.map, Except.bind]⟩
    · have hanswer := hreading.toPamFrame.trans (pamRequestAnswer_frame hhandle key)
      obtain ⟨users, status, nbody, body, rfl⟩ := handlePamRequestMethod_leaving hhandle
      exact survives_request hs hanswer
        ⟨hreading.reserved.trans hexpects.reserved, .inr (.inr hx)⟩

/-- Receiving does not abort; what follows may. -/
theorem pamRequestRead_ne_assertion
    (hblocks : ∀ u : PamSession, u.conn.request.state = s.conn.request.state →
      u.conn.clientBuffer.space ≤ s.conn.clientBuffer.space →
      PamBlock.continue (pamRequestHeader u) (pamRequestReadBody env key) ≠ .error .assertion) :
    pamRequestRead env key s ≠ .error .assertion := by
  rcases hanswer : env.recv with _ | offered
  · rw [pamRequestRead, hanswer]
    simp [PamSession.recvClientBuffer]
  · have hreceived := recvClientBuffer_received s key.fd hanswer
    rcases hbytes : offered.take s.conn.clientBuffer.space with _ | ⟨c, bytes⟩
    · rw [hbytes] at hreceived
      rw [pamRequestRead, hreceived]
      simp
    · rw [hbytes] at hreceived
      rw [pamRequestRead_received hreceived, Ne, pamRequestFinish_eq_error_iff]
      exact hblocks _ rfl (by rw [received_space]; omega)

theorem pamRequestRead_assertion_iff (env : PamEnv) (key : SelectorKey)
    (hexpects : PamExpects s) :
    pamRequestRead env key s = .error .assertion ↔
      s.conn.request.state = .verNReserved ∧ s.conn.clientBuffer.content = [] ∧
        ∃ bytes, env.recv = some bytes ∧ CutShort bytes := by
  rcases hexpects.phase with hawaits | ⟨hfirst, hne, hspace⟩ | hbody
  · rw [pamRequestRead_assertion_iff_of_awaits hawaits]
    simp [hawaits.state, hawaits.empty]
  · refine iff_of_false (pamRequestRead_ne_assertion ?_) fun h => hne h.2.1
    intro u hu hroom
    rw [pamRequestHeader_waits (hu.trans hfirst) (lt_of_le_of_lt hroom hspace)]
    simp [PamBlock.continue]
  · refine iff_of_false (pamRequestRead_ne_assertion ?_) fun h => absurd (hbody.symm.trans h.1)
      (by simp)
    intro u hu _
    rw [pamRequestHeader_of_readBody (hu.trans hbody)]
    exact pamRequestReadBody_ne_assertion (hu.trans hbody)

theorem survives_freed (hfreed : s.freed = true) : Survives (pamStep s e) := by
  rcases e with ⟨fd, env⟩ | ⟨fd, env⟩ | ⟨users, metrics⟩
  · rw [pamStep, hfreed]
    exact ⟨by simp, by simp⟩
  · rw [pamStep, hfreed]
    exact ⟨by simp, by simp⟩
  · exact survives_ok (.inl hfreed)

theorem not_cutsHeader_of_auth (h : s.state = .auth) : ¬ CutsHeader s e := by
  rcases e with ⟨fd, env⟩ | ⟨fd, env⟩ | ⟨users, metrics⟩
  · rintro ⟨-, hrequest, -⟩
    rw [h] at hrequest
    cases hrequest
  · exact id
  · exact id

/-- One event of an intact connection. -/
theorem pamStep_assertion_iff (hs : PamIntact s) :
    (pamStep s e ≠ .error .assertion ↔ ¬ CutsHeader s e) ∧
      ∀ t, pamStep s e = .ok t → PamIntact t := by
  have hsurvives : Survives (pamStep s e) → ¬ CutsHeader s e →
      (pamStep s e ≠ .error .assertion ↔ ¬ CutsHeader s e) ∧
        ∀ t, pamStep s e = .ok t → PamIntact t :=
    fun h hcut => ⟨iff_of_true h.1 hcut, h.2⟩
  rcases hs with hfreed | hs
  · refine hsurvives (survives_freed hfreed) ?_
    rcases e with ⟨fd, env⟩ | ⟨fd, env⟩ | ⟨users, metrics⟩
    · rintro ⟨halive, -⟩
      rw [hfreed] at halive
      cases halive
    · exact id
    · exact id
  · rcases e with ⟨fd, env⟩ | ⟨fd, env⟩ | ⟨users, metrics⟩
    · rw [pamStep_read hs.freed] at hsurvives ⊢
      rcases hs.phase with hauth | ⟨hrequest, hexpects⟩
      · exact hsurvives (survives_auth_read hs hauth) (not_cutsHeader_of_auth hauth)
      · have hiff := pamRequestRead_assertion_iff env ⟨fd, s.address⟩ hexpects
        by_cases hcut : CutsHeader s (.read fd env)
        · have habort := hiff.mpr hcut.2.2
          rw [pamRead_request hrequest, habort]
          exact ⟨iff_of_false (fun h => h rfl) (fun h => h hcut), by simp [Except.bind]⟩
        · refine hsurvives (survives_request_read hs hrequest hexpects ?_) hcut
          exact fun habort => hcut ⟨hs.freed, hrequest, hiff.mp habort⟩
    · rw [pamStep_write hs.freed] at hsurvives ⊢
      rcases hs.phase with hauth | ⟨hrequest, hexpects⟩
      · exact hsurvives (survives_auth_write hs hauth) id
      · exact hsurvives (survives_request_write hs hrequest hexpects) id
    · refine hsurvives (survives_ok (.inr ?_)) id
      refine ⟨hs.freed, ⟨hs.registered.owns, hs.registered.only, hs.registered.handler⟩,
        hs.limit, ?_⟩
      rcases hs.phase with hauth | ⟨hrequest, hreserved, hphase⟩
      · exact .inl hauth
      · refine .inr ⟨hrequest, hreserved, ?_⟩
        rcases hphase with h | h
        · exact .inl ⟨h.state, h.reserved, h.empty, h.space⟩
        · exact .inr h

end Sound

theorem pamIntact_of_accept {sel : FdSelector FdHandler ℕ} {users : UserStore}
    {metrics : MetricSnapshot} {a : PamAccepted} {s : PamSession} (hfresh : PamFresh sel a)
    (haccept : pamPassiveAccept sel users metrics a = some s) : PamIntact s := by
  refine .inr ⟨?_, pamPassiveAccept_registered haccept hfresh, ?_, .inl ?_⟩
  · rw [(pamPassiveAccept_eq haccept).2]
  · rw [(pamPassiveAccept_eq haccept).2]
    rfl
  · rw [(pamPassiveAccept_eq haccept).2]
    rfl

/-- Whatever arrives on a management connection, in whatever chunks: no
assertion fails exactly if no request is cut short in its header. -/
theorem no_assertion_iff {sel : FdSelector FdHandler ℕ} {users : UserStore}
    {metrics : MetricSnapshot} {a : PamAccepted} {s : PamSession} (hfresh : PamFresh sel a)
    (haccept : pamPassiveAccept sel users metrics a = some s) (es : List PamEvent) :
    Steps pamStep (fun s e => pamStep s e ≠ .error .assertion) s es ↔
      Steps pamStep (fun s e => ¬ CutsHeader s e) s es := by
  exact steps_iff_steps (fun s e hs _ => pamStep_assertion_iff hs)
    (Steps.of_forall (fun _ _ => trivial) s es) (pamIntact_of_accept hfresh haccept)

/-- The administrator logs in and sends the first byte of a request by itself. -/
def firstByte : List PamEvent :=
  managementLogin adminName.bytes adminName.bytes ++ [.read 4 (pamReceives [pamVersion1])]

theorem firstByte_aborts :
    PamFresh emptySelector firstManager ∧
      pamPassiveAccept emptySelector usersInit metricsInit firstManager = some firstManagement ∧
      Steps pamStep PamEnabled firstManagement firstByte ∧
      ¬ Steps pamStep (fun s e => pamStep s e ≠ .error .assertion) firstManagement firstByte :=
  ⟨firstManager_fresh _, firstManagement_accepted, by decide +kernel, by decide +kernel⟩

/-- A request that arrives with its whole header. -/
theorem no_assertion_iff_firstManagement :
    Steps pamStep (fun s e => pamStep s e ≠ .error .assertion) firstManagement
      (managementLogin adminName.bytes adminName.bytes ++
        [.read 4 (pamReceives (requestMessage 0 []))]) :=
  (no_assertion_iff (firstManager_fresh _) firstManagement_accepted _).mpr (by decide +kernel)

end Socks5Proxy

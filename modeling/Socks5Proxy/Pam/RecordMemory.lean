import Socks5Proxy.Pam.Gate

/-!
# The memory of a management record

`pam_new` clears nothing: the members that hold the answer to a request keep
what `malloc` returned until a handler assigns them.  No callback reads them
before, so that the run of a connection does not depend on them up to the
request.
-/

namespace Socks5Proxy

open Library

/-- Contents of the members that hold the answer to a request. -/
structure PamAnswerMemory where
  status : UInt8
  writeNbody : UInt16
  writeBody : ℕ → UInt8

def PamRequestSt.holding (r : PamRequestSt) (m : PamAnswerMemory) : PamRequestSt :=
  { r with
    status := m.status
    writeNbody := m.writeNbody
    writeBody := m.writeBody }

/-- The record with these contents. -/
def Pam.holding (c : Pam) (m : PamAnswerMemory) : Pam :=
  { c with request := c.request.holding m }

def PamSession.holding (s : PamSession) (m : PamAnswerMemory) : PamSession :=
  { s with conn := s.conn.holding m }

/-- The same for a session a block has left. -/
def PamBlock.holding (m : PamAnswerMemory) : PamBlock PamSession → PamBlock PamSession
  | .returned s ret => .returned (s.holding m) ret
  | .next s => .next (s.holding m)

section Members

variable (s : PamSession) (m : PamAnswerMemory)

@[simp] theorem holding_state : (s.holding m).state = s.state := rfl

@[simp] theorem holding_username : (s.holding m).conn.username = s.conn.username :=
  Pam.username_congr rfl

@[simp] theorem holding_pass : (s.holding m).conn.pass = s.conn.pass :=
  Pam.pass_congr rfl

theorem holding_arrived : (s.holding m).arrived = s.arrived.holding m := by
  have hstm : (s.holding m).conn.stm = s.conn.stm := rfl
  unfold PamSession.arrived
  rw [hstm]
  rcases s.conn.stm with _ | current
  · rfl
  · rfl

theorem holding_recvClientBuffer (fd : ℤ) (answer : Option (List UInt8)) :
    (s.holding m).recvClientBuffer fd answer =
      ((s.recvClientBuffer fd answer).1, (s.recvClientBuffer fd answer).2.holding m) := by
  rcases answer with _ | bytes
  · rfl
  · rfl

theorem holding_sendClientBuffer (fd : ℤ) (answer : Option ℕ) :
    (s.holding m).sendClientBuffer fd answer =
      ((s.sendClientBuffer fd answer).1, (s.sendClientBuffer fd answer).2.holding m) := by
  rcases answer with _ | k
  · rfl
  · rfl

end Members

section Callbacks

variable {env : PamEnv} {key : SelectorKey} (s : PamSession) (m : PamAnswerMemory)

theorem pamAuthVerNNuserNNpass_holding :
    pamAuthVerNNuserNNpass (s.holding m) = (pamAuthVerNNuserNNpass s).holding m := by
  unfold pamAuthVerNNuserNNpass
  dsimp only
  rw [apply_ite (PamBlock.holding m), apply_ite (PamBlock.holding m),
    apply_ite (PamBlock.holding m), apply_ite (PamBlock.holding m), apply_ite (PamBlock.holding m)]
  rfl

theorem pamAuthUsername_holding :
    pamAuthUsername (s.holding m) = (pamAuthUsername s).holding m := by
  unfold pamAuthUsername
  dsimp only
  rw [apply_ite (PamBlock.holding m), apply_ite (PamBlock.holding m)]
  rfl

theorem pamVerdict_holding (users : UserStore) :
    pamVerdict users (s.holding m).conn = pamVerdict users s.conn := by
  unfold pamVerdict
  rw [holding_username, holding_pass]

theorem checked_holding : (s.holding m).checked key = (s.checked key).holding m := by
  unfold PamSession.checked
  rw [holding_username, holding_pass, pamVerdict_holding]
  rfl

variable (key) in
theorem pamAuthPass_holding :
    pamAuthPass key (s.holding m) = (pamAuthPass key s).holding m := by
  unfold pamAuthPass
  dsimp only
  rw [pamCheckCredentials_eq, pamCheckCredentials_eq, apply_ite (PamBlock.holding m),
    apply_ite (PamBlock.holding m)]
  refine ite_congr rfl (fun _ => ite_congr rfl (fun _ => rfl) fun _ => ?_) fun _ => rfl
  exact congrArg Block.next (checked_holding (({ s with
    conn.clientBuffer := (bufferReadN s.conn.auth.nPass.toNat s.conn.clientBuffer).2
    conn.auth.credentials := Memory.store s.conn.auth.credentials pamAuthUsernameMaxLenght
      ((bufferReadN s.conn.auth.nPass.toNat s.conn.clientBuffer).1 ++ [0]) } : PamSession)) m)

/-- A block that commutes with the contents, behind one that does. -/
theorem andThen_holding {b b' : PamBlock PamSession} {f : PamSession → PamBlock PamSession}
    (hb : b' = PamBlock.holding m b)
    (hf : ∀ s : PamSession, f (s.holding m) = (f s).holding m) :
    b'.andThen f = PamBlock.holding m (b.andThen f) := by
  subst hb
  rcases b with ⟨u, ret⟩ | u
  · rfl
  · exact hf u

variable (env key) in
theorem pamAuthRead_holding :
    pamAuthRead env key (s.holding m) =
      ((pamAuthRead env key s).1.holding m, (pamAuthRead env key s).2) := by
  unfold pamAuthRead
  rw [holding_recvClientBuffer]
  generalize s.recvClientBuffer key.fd env.recv = received
  obtain ⟨_ | _ | ⟨c, bytes⟩, u⟩ := received
  · rfl
  · rfl
  · have hblocks := andThen_holding m (andThen_holding m (pamAuthVerNNuserNNpass_holding u m)
      fun v => pamAuthUsername_holding v m) fun v => pamAuthPass_holding key v m
    dsimp only
    rw [hblocks]
    rcases ((pamAuthVerNNuserNNpass u).andThen pamAuthUsername).andThen (pamAuthPass key) with
      ⟨v, ret⟩ | v
    · rfl
    · rfl

variable (env key) in
theorem pamAuthWrite_holding :
    pamAuthWrite env key (s.holding m) =
      ((pamAuthWrite env key s).1.holding m, (pamAuthWrite env key s).2) := by
  have hsend := holding_sendClientBuffer s m s.conn.clientFd env.send
  change (s.holding m).sendClientBuffer (s.holding m).conn.clientFd env.send = _ at hsend
  unfold pamAuthWrite
  rw [hsend]
  generalize s.sendClientBuffer s.conn.clientFd env.send = sent
  obtain ⟨_ | bytes, u⟩ := sent
  · rfl
  · dsimp only
    by_cases hcan : bufferCanRead u.conn.clientBuffer = true
    · rw [if_pos hcan]
      exact if_pos hcan
    · rw [if_neg hcan]
      exact if_neg hcan

theorem pamRequestVerNReserved_holding :
    pamRequestVerNReserved (s.holding m) = (pamRequestVerNReserved s).holding m := by
  unfold pamRequestVerNReserved
  dsimp only
  rw [apply_ite (PamBlock.holding m), apply_ite (PamBlock.holding m),
    apply_ite (PamBlock.holding m), apply_ite (PamBlock.holding m)]
  rfl

theorem pamRequestWord_holding (here next : PamRequestState)
    {assign : UInt16 → PamRequestSt → PamRequestSt}
    (hassign : ∀ word r, assign word (PamRequestSt.holding r m) = (assign word r).holding m) :
    pamRequestWord here next assign (s.holding m) =
      (pamRequestWord here next assign s).map (PamBlock.holding m) := by
  unfold pamRequestWord
  dsimp only
  rw [apply_ite (Except.map (PamBlock.holding m)), apply_ite (Except.map (PamBlock.holding m))]
  refine ite_congr rfl (fun _ => ite_congr rfl (fun _ => rfl) fun _ => ?_) fun _ => rfl
  have hbuffer : bufferReadAdv (s.holding m).conn.clientBuffer 2 =
      bufferReadAdv s.conn.clientBuffer 2 := rfl
  rw [hbuffer]
  rcases bufferReadAdv s.conn.clientBuffer 2 with _ | buffer
  · rfl
  · have hassigned := hassign (wordAt s.conn.clientBuffer) s.conn.request
    change assign (wordAt s.conn.clientBuffer) (s.holding m).conn.request = _ at hassigned
    change Except.ok (Block.next ({ s.holding m with
      conn.clientBuffer := buffer
      conn.request := { assign (wordAt s.conn.clientBuffer) (s.holding m).conn.request with
        state := next } } : PamSession)) = _
    rw [hassigned]
    rfl

/-- The same for the blocks that can fail. -/
theorem continue_holding {b b' : Except Fault (PamBlock PamSession)}
    {f : PamSession → Except Fault (PamBlock PamSession)}
    (hb : b' = b.map (PamBlock.holding m))
    (hf : ∀ s : PamSession, f (s.holding m) = (f s).map (PamBlock.holding m)) :
    PamBlock.continue b' f = (PamBlock.continue b f).map (PamBlock.holding m) := by
  subst hb
  rcases b with fault | ⟨u, ret⟩ | u
  · rfl
  · rfl
  · exact hf u

theorem pamRequestHeader_holding :
    pamRequestHeader (s.holding m) = (pamRequestHeader s).map (PamBlock.holding m) := by
  unfold pamRequestHeader
  refine continue_holding m (continue_holding m ?_ ?_) ?_
  · exact congrArg Except.ok (pamRequestVerNReserved_holding s m)
  · exact fun u => pamRequestWord_holding u m _ _ fun _ _ => rfl
  · exact fun u => pamRequestWord_holding u m _ _ fun _ _ => rfl

/-- Up to the handover a read of PAM_REQUEST does not depend on the contents. -/
theorem pamRequestHandover_holding :
    pamRequestHandover env key (s.holding m) = pamRequestHandover env key s := by
  have hrecv := holding_recvClientBuffer s m key.fd env.recv
  rcases hreceived : s.recvClientBuffer key.fd env.recv with ⟨_ | _ | ⟨c, bytes⟩, u⟩
  · rw [hreceived] at hrecv
    rw [pamRequestHandover, pamRequestHandover, hrecv, hreceived]
  · rw [hreceived] at hrecv
    rw [pamRequestHandover, pamRequestHandover, hrecv, hreceived]
  · rw [hreceived] at hrecv
    rw [pamRequestHandover_received hreceived, pamRequestHandover_received hrecv,
      pamRequestHeader_holding]
    rcases pamRequestHeader u with fault | ⟨x, ret⟩ | x
    · rfl
    · rfl
    · rfl

theorem pamRequestRead_holding (hnone : pamRequestHandover env key s = none) :
    pamRequestRead env key (s.holding m) =
      (pamRequestRead env key s).map fun r => (r.1.holding m, r.2) := by
  have hrecv := holding_recvClientBuffer s m key.fd env.recv
  rcases hreceived : s.recvClientBuffer key.fd env.recv with ⟨_ | _ | ⟨c, bytes⟩, u⟩
  · rw [hreceived] at hrecv
    rw [pamRequestRead, pamRequestRead, hrecv, hreceived]
    rfl
  · rw [hreceived] at hrecv
    rw [pamRequestRead, pamRequestRead, hrecv, hreceived]
    rfl
  · rw [hreceived] at hrecv
    rw [pamRequestHandover_received hreceived] at hnone
    rw [pamRequestRead_received hreceived, pamRequestRead_received hrecv,
      pamRequestHeader_holding]
    rcases hheader : pamRequestHeader u with fault | ⟨x, ret⟩ | x
    · rfl
    · rfl
    · rw [hheader] at hnone
      dsimp only at hnone
      change pamRequestFinish (pamRequestReadBody env key (x.holding m)) =
        (pamRequestFinish (pamRequestReadBody env key x)).map _
      by_cases hstate : x.conn.request.state = .readBody
      · have hspace : x.conn.clientBuffer.space < x.conn.request.readNbody.toNat := by
          by_contra hroom
          rw [if_pos ⟨hstate, Nat.not_lt.mp hroom⟩] at hnone
          cases hnone
        rw [pamRequestReadBody_waits hstate hspace,
          pamRequestReadBody_waits (s := x.holding m) hstate hspace]
        rfl
      · have hskip : ∀ v : PamSession, v.conn.request.state ≠ .readBody →
            pamRequestReadBody env key v = .ok (.next v) := fun v hv => if_neg hv
        rw [hskip x hstate, hskip (x.holding m) hstate]
        rfl

variable (env key) in
theorem pamRequestWrite_holding :
    pamRequestWrite env key (s.holding m) =
      ((pamRequestWrite env key s).1.holding m, (pamRequestWrite env key s).2) := by
  have hsend := holding_sendClientBuffer s m s.conn.clientFd env.send
  change (s.holding m).sendClientBuffer (s.holding m).conn.clientFd env.send = _ at hsend
  unfold pamRequestWrite
  rw [hsend]
  generalize s.sendClientBuffer s.conn.clientFd env.send = sent
  obtain ⟨_ | bytes, u⟩ := sent
  · rfl
  · dsimp only
    by_cases hcan : bufferCanRead u.conn.clientBuffer = true
    · rw [if_pos hcan]
      exact if_pos hcan
    · rw [if_neg hcan]
      exact if_neg hcan

theorem pamDone_holding : pamDone (s.holding m) = (pamDone s).map (·.holding m) := by
  unfold pamDone
  dsimp only
  rw [apply_ite (Except.map _), apply_ite (Except.map _)]
  refine ite_congr rfl (fun _ => rfl) fun _ => ite_congr rfl (fun _ => rfl) fun _ => ?_
  have hclose : (if ((s.holding m).sel.item (s.holding m).conn.clientFd).handler =
        some .pamHandler then pamClose (s.holding m) else s.holding m) =
      (if (s.sel.item s.conn.clientFd).handler = some .pamHandler then pamClose s
        else s).holding m :=
    (apply_ite (fun u : PamSession => u.holding m)
      ((s.sel.item s.conn.clientFd).handler = some .pamHandler) (pamClose s) s).symm
  rw [hclose]
  rfl

theorem pamSettle_holding (st : PamState) (u : PamSession) (ret : PamState) :
    pamSettle env key st (u.holding m, ret) =
      (pamSettle env key st (u, ret)).map (·.holding m) := by
  have harrival : ∀ v : PamSession,
      callIfSome (pamStates env key ret).onArrival (v.holding m) =
        (callIfSome (pamStates env key ret).onArrival v).holding m := by
    intro v
    rcases ret with _ | _ | _ | _ <;> rfl
  have hdeparture : (pamStates env key st).onDeparture = none := by
    rcases st with _ | _ | _ | _ <;> rfl
  have hjump : jump (pamStates env key) st ret (u.holding m) =
      (jump (pamStates env key) st ret u).holding m := by
    unfold jump
    rw [hdeparture]
    by_cases hne : st ≠ ret
    · rw [if_pos hne, if_pos hne]
      exact harrival u
    · rw [if_neg hne, if_neg hne]
  unfold pamSettle
  dsimp only
  rw [hjump, apply_ite (Except.map _)]
  generalize jump (pamStates env key) st ret u = v
  refine ite_congr rfl (fun _ => ?_) fun _ => rfl
  exact pamDone_holding ({ v with conn.stm := some ret } : PamSession) m

/-- An event that hands no request over leads from other contents to the same
session with these contents. -/
theorem pamStep_holding {e : PamEvent} (hstate : s.state = .auth ∨ s.state = .request)
    (h : ¬ PamHandles s e) : pamStep (s.holding m) e = (pamStep s e).map (·.holding m) := by
  rcases e with ⟨fd, env⟩ | ⟨fd, env⟩ | ⟨users, metrics⟩
  · rcases hfreed : s.freed with _ | _
    · rw [pamStep_read hfreed, pamStep_read (s := s.holding m) hfreed]
      rcases hstate with hauth | hrequest
      · rw [pamRead_auth hauth, pamRead_auth (s := s.holding m) hauth, holding_arrived]
        have hread := pamAuthRead_holding env ⟨fd, s.address⟩ s.arrived m
        refine Eq.trans ?_ (pamSettle_holding m .auth _ _)
        exact congrArg (pamSettle env ⟨fd, s.address⟩ .auth) hread
      · have hnone : pamRequestHandover env ⟨fd, s.address⟩ s = none := by
          by_contra hsome
          exact h ⟨hfreed, hrequest, hsome⟩
        have hread := pamRequestRead_holding s m hnone
        rw [pamRead_request hrequest, pamRead_request (s := s.holding m) hrequest]
        change (pamRequestRead env ⟨fd, s.address⟩ (s.holding m)).bind _ = _
        rw [hread]
        rcases pamRequestRead env ⟨fd, s.address⟩ s with fault | ⟨u, ret⟩
        · rfl
        · exact pamSettle_holding m .request u ret
    · rw [pamStep, pamStep, hfreed, if_pos (show (s.holding m).freed = true from hfreed)]
      rfl
  · rcases hfreed : s.freed with _ | _
    · rw [pamStep_write hfreed, pamStep_write (s := s.holding m) hfreed]
      rcases hstate with hauth | hrequest
      · rw [pamWrite_auth hauth, pamWrite_auth (s := s.holding m) hauth, holding_arrived]
        have hwrite := pamAuthWrite_holding env ⟨fd, s.address⟩ s.arrived m
        refine Eq.trans ?_ (pamSettle_holding m .auth _ _)
        exact congrArg (pamSettle env ⟨fd, s.address⟩ .auth) hwrite
      · rw [pamWrite_request hrequest, pamWrite_request (s := s.holding m) hrequest]
        have hwrite := pamRequestWrite_holding env ⟨fd, s.address⟩ s m
        refine Eq.trans ?_ (pamSettle_holding m .request _ _)
        exact congrArg (pamSettle env ⟨fd, s.address⟩ .request) hwrite
    · rw [pamStep, pamStep, hfreed, if_pos (show (s.holding m).freed = true from hfreed)]
      rfl
  · rfl

end Callbacks

/-! ## Every run up to a request -/

/-- The connection has ended, or the answer to its request is being sent. -/
def PamReplied (s : PamSession) : Prop :=
  s.freed = true ∨
    PamSound s ∧ s.state = .request ∧ s.sel.interestOf s.conn.clientFd = some .opWrite

section Runs

variable {env : PamEnv} {fd : ℤ} {s t : PamSession} {e : PamEvent}

theorem pamReplied_of_freed (hfreed : s.freed = true) (ht : pamStep s e = .ok t) :
    PamReplied t := by
  rcases e with ⟨fd, env⟩ | ⟨fd, env⟩ | ⟨users, metrics⟩
  · rw [pamStep, hfreed] at ht
    cases ht
  · rw [pamStep, hfreed] at ht
    cases ht
  · rw [← Except.ok.inj ht]
    exact .inl hfreed

/-- Once the answer is being sent nothing is read. -/
theorem PamReplied.step (hs : PamReplied s) (henabled : PamEnabled s e)
    (ht : pamStep s e = .ok t) : PamReplied t := by
  rcases hs with hfreed | ⟨hsound, hstate, hinterest⟩
  · exact pamReplied_of_freed hfreed ht
  · have hintact := (pamStep_assertion_iff (.inr hsound)).2 t ht
    rcases hintact with hfreed | hsound'
    · exact .inl hfreed
    · refine .inr ⟨hsound', ?_⟩
      rcases e with ⟨fd, env⟩ | ⟨fd, env⟩ | ⟨users, metrics⟩
      · exact absurd hinterest (interestOf_of_read_enabled hsound henabled).2
      · rw [pamStep_write hsound.freed, pamWrite_request hstate] at ht
        have hends := pamRequestWrite_ends env ⟨fd, s.address⟩ s
        generalize pamRequestWrite env ⟨fd, s.address⟩ s = r at hends ht
        have hgone : ∀ (u : PamSession) (ret : PamState), PamFrame s u →
            ret = .error ∨ ret = .done →
            pamSettle env ⟨fd, s.address⟩ .request (u, ret) ≠ .ok t := by
          intro u ret hframe hret hsettle
          rw [pamSettle_stop hret,
            pamDone_of_registered (registered_of_stm _ hsound hframe)] at hsettle
          have hfreed := hsound'.freed
          rw [← Except.ok.inj hsettle] at hfreed
          cases hfreed
        rcases hends with - | ⟨k, -, -⟩ | ⟨k, -, -⟩
        · exact absurd ht (hgone _ _ (pamSending_frame _) (.inl rfl))
        · rw [pamSettle_stay (by simp) (by simp)] at ht
          rw [← Except.ok.inj ht]
          exact ⟨rfl, hinterest⟩
        · exact absurd ht (hgone _ _ (pamSent_frame _ _ _) (.inr rfl))
      · rw [← Except.ok.inj ht]
        exact ⟨hstate, hinterest⟩

/-- What a read leads to that hands a request over. -/
theorem pamStep_of_handover {method : UInt16} {buffer : Buffer} (hsound : PamSound s)
    (hstate : s.state = .request)
    (hsome : pamRequestHandover env ⟨fd, s.address⟩ s = some (method, buffer)) :
    ∃ x, PamReading s x ∧ x.conn.request.method = method ∧
      pamStep s (.read fd env) = (handlePamRequestMethod env x buffer).map fun t =>
        { (pamRequestAnswer ⟨fd, s.address⟩ t).1 with conn.stm := some .request } := by
  rcases hsound.phase with hauth | ⟨-, hexpects⟩
  · rw [hstate] at hauth
    cases hauth
  · have hends := pamRequestRead_ends env ⟨fd, s.address⟩ hexpects.reserved hexpects.state
    rw [pamStep_read hsound.freed, pamRead_request hstate]
    generalize pamRequestRead env ⟨fd, s.address⟩ s = r at hends ⊢
    rcases hends with ⟨x, ret, -, -, hnone⟩ | hnone | ⟨x, -, -, hnone⟩ |
      ⟨x, buffer', hreading, -, hsome'⟩
    · rw [hsome] at hnone
      cases hnone
    · rw [hsome] at hnone
      cases hnone
    · rw [hsome] at hnone
      cases hnone
    · rw [hsome, Option.some.injEq, Prod.mk.injEq] at hsome'
      obtain ⟨rfl, rfl⟩ := hsome'
      refine ⟨x, hreading, rfl, ?_⟩
      rcases handlePamRequestMethod env x buffer with fault | t
      · rfl
      · change pamSettle env ⟨fd, s.address⟩ .request
          ((pamRequestAnswer ⟨fd, s.address⟩ t).1, .request) = _
        rw [pamSettle_stay (by simp) (by simp)]
        rfl

/-- The answer is sent after the request. -/
theorem pamReplied_of_handles (hsound : PamSound s) (henabled : PamEnabled s e)
    (hhandles : PamHandles s e) (ht : pamStep s e = .ok t) : PamReplied t := by
  rcases e with ⟨fd, env⟩ | ⟨fd, env⟩ | ⟨users, metrics⟩
  · obtain ⟨-, hstate, hsome⟩ := hhandles
    obtain ⟨⟨method, buffer⟩, hsome⟩ := Option.ne_none_iff_exists'.mp hsome
    obtain ⟨x, hreading, -, hstep⟩ := pamStep_of_handover hsound hstate hsome
    have hintact := (pamStep_assertion_iff (.inr hsound)).2 t ht
    rw [hstep] at ht
    rcases hhandle : handlePamRequestMethod env x buffer with fault | u
    · rw [hhandle] at ht
      cases ht
    · rw [hhandle] at ht
      rcases hintact with hfreed | hsound'
      · exact .inl hfreed
      · refine .inr ⟨hsound', ?_⟩
        rw [← Except.ok.inj ht]
        obtain ⟨users, status, nbody, body, rfl⟩ := handlePamRequestMethod_leaving hhandle
        refine ⟨rfl, ?_⟩
        change (selectorSetInterest x.sel fd .opWrite).1.interestOf x.conn.clientFd = _
        rw [hreading.registrations, hreading.clientFd,
          (interestOf_of_read_enabled hsound henabled).1]
        exact interestOf_selectorSetInterest_self
          (interestOf_ne_none_of_dataOf hsound.registered.owns)
  · exact absurd hhandles id
  · exact absurd hhandles id

/-- Up to the answer, the same events lead from other contents of the memory to
the same session with these contents. -/
theorem run_holding {sel : FdSelector FdHandler ℕ} {users : UserStore}
    {metrics : MetricSnapshot} {a : PamAccepted} {es : List PamEvent} (hfresh : PamFresh sel a)
    (haccept : pamPassiveAccept sel users metrics a = some s)
    (henabled : Steps pamStep PamEnabled s es) (hrun : run pamStep s es = .ok t)
    (hopen : ¬ PamReplied t) (m : PamAnswerMemory) :
    pamPassiveAccept sel users metrics { a with raw := a.raw.holding m } = some (s.holding m) ∧
      Steps pamStep PamEnabled (s.holding m) es ∧
      run pamStep (s.holding m) es = .ok (t.holding m) := by
  refine ⟨?_, ?_⟩
  · obtain ⟨hsuccess, rfl⟩ := pamPassiveAccept_eq haccept
    unfold pamPassiveAccept
    dsimp only
    rcases hregister : selectorRegister sel a.clientFd (some .pamHandler) .opRead
      (some a.address) a.alloc with ⟨sel', status⟩
    rw [hregister] at hsuccess
    cases hsuccess
    rfl
  · have hends := run_simulates (R := fun s s' => PamIntact s ∧ s' = s.holding m)
      (X := PamReplied) (Q := PamEnabled) ?_ (fun s e t => PamReplied.step)
      ⟨pamIntact_of_accept hfresh haccept, rfl⟩ henabled hrun
    · rcases hends with hreplied | ⟨hsteps, t', ht', -, rfl⟩
      · exact absurd hreplied hopen
      · exact ⟨hsteps, ht'⟩
    · rintro s s' e t ⟨hintact, rfl⟩ henabled ht
      rcases hintact with hfreed | hsound
      · exact .inl (pamReplied_of_freed hfreed ht)
      · by_cases hhandles : PamHandles s e
        · exact .inl (pamReplied_of_handles hsound henabled hhandles ht)
        · have hstate : s.state = .auth ∨ s.state = .request := by
            rcases hsound.phase with hauth | ⟨hrequest, -⟩
            · exact .inl hauth
            · exact .inr hrequest
          have hstep := pamStep_holding s m hstate hhandles
          rw [ht] at hstep
          refine .inr ⟨?_, t.holding m, hstep, (pamStep_assertion_iff (.inr hsound)).2 t ht, rfl⟩
          rcases e with ⟨fd, env⟩ | ⟨fd, env⟩ | ⟨users, metrics⟩
          · exact henabled
          · exact henabled
          · exact trivial

end Runs

end Socks5Proxy

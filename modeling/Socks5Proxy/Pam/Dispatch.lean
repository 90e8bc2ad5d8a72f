import Socks5Proxy.Pam.Handover
import Socks5Proxy.Pam.StateMachine

/-!
# One event of a management connection

`pamStep` runs the callback of the current state, jumps, and tears the
connection down if the callback returned PAM_DONE or PAM_ERROR.  The equations
here say this once for each state; `PamFrame` is what every callback keeps and
`PamWired` what every event keeps.
-/

namespace Socks5Proxy

open Library

namespace PamSession

/-- The current state; before the first event the initial one. -/
def state (s : PamSession) : PamState := s.conn.stm.getD .auth

/-- The session a callback runs in: the first event arrives in PAM_AUTH. -/
def arrived (s : PamSession) : PamSession :=
  match s.conn.stm with
  | none => pamAuthArrival s
  | some _ => s

end PamSession

/-- What follows a callback that returned `r`. -/
def pamSettle (env : PamEnv) (key : SelectorKey) (st : PamState) (r : PamSession × PamState) :
    Except Fault PamSession :=
  let s := { jump (pamStates env key) st r.2 r.1 with conn.stm := some r.2 }
  if r.2 = .error ∨ r.2 = .done then pamDone s else .ok s

section Equations

variable {env : PamEnv} {key : SelectorKey} {s u : PamSession} {st : PamState}

theorem pamArrived_of_state (h : s.state = st) (hne : st ≠ .auth) : s.arrived = s := by
  unfold PamSession.arrived
  rcases hstm : s.conn.stm with _ | current
  · rw [PamSession.state, hstm] at h
    exact absurd h.symm hne
  · rfl

/-- A dispatch runs the callback of the current state. -/
theorem pamDispatch_eq (env : PamEnv) (key : SelectorKey) (s : PamSession)
    (select : StateDefinition PamSession PamState →
      Option (PamSession → Except Fault (PamSession × PamState)))
    (callback : PamSession → Except Fault (PamSession × PamState))
    (hselect : select (pamStates env key s.state) = some callback) :
    pamDispatch (stmHandler select) env key s =
      (callback s.arrived).bind (pamSettle env key s.state) := by
  have hfirst : handleFirst (pamStates env key) .auth s.conn.stm s = (s.state, s.arrived) := by
    unfold handleFirst PamSession.state PamSession.arrived
    cases s.conn.stm <;> rfl
  rw [pamDispatch, stmHandler, hfirst]
  dsimp only
  rw [hselect]
  dsimp only
  rcases callback s.arrived with fault | ⟨u, ret⟩
  · rfl
  · rfl

theorem pamRead_auth (h : s.state = .auth) :
    pamRead env key s = pamSettle env key .auth (pamAuthRead env key s.arrived) := by
  have hread := pamDispatch_eq env key s StateDefinition.onReadReady
    (fun s => .ok (pamAuthRead env key s)) (by rw [h]; rfl)
  rw [h] at hread
  exact hread

theorem pamWrite_auth (h : s.state = .auth) :
    pamWrite env key s = pamSettle env key .auth (pamAuthWrite env key s.arrived) := by
  have hwrite := pamDispatch_eq env key s StateDefinition.onWriteReady
    (fun s => .ok (pamAuthWrite env key s)) (by rw [h]; rfl)
  rw [h] at hwrite
  exact hwrite

theorem pamRead_request (h : s.state = .request) :
    pamRead env key s = (pamRequestRead env key s).bind (pamSettle env key .request) := by
  have hread := pamDispatch_eq env key s StateDefinition.onReadReady
    (pamRequestRead env key) (by rw [h]; rfl)
  rw [h, pamArrived_of_state h (by simp)] at hread
  exact hread

theorem pamWrite_request (h : s.state = .request) :
    pamWrite env key s = pamSettle env key .request (pamRequestWrite env key s) := by
  have hwrite := pamDispatch_eq env key s StateDefinition.onWriteReady
    (fun s => .ok (pamRequestWrite env key s)) (by rw [h]; rfl)
  rw [h, pamArrived_of_state h (by simp)] at hwrite
  exact hwrite

theorem pamStep_read {fd : ℤ} (h : s.freed = false) :
    pamStep s (.read fd env) = pamRead env ⟨fd, s.address⟩ s := by
  rw [pamStep, h]
  rfl

theorem pamStep_write {fd : ℤ} (h : s.freed = false) :
    pamStep s (.write fd env) = pamWrite env ⟨fd, s.address⟩ s := by
  rw [pamStep, h]
  rfl

/-! ### How a callback ends -/

/-- A callback that stays in its state. -/
theorem pamSettle_stay (herror : st ≠ .error) (hdone : st ≠ .done) :
    pamSettle env key st (u, st) = .ok { u with conn.stm := some st } := by
  simp [pamSettle, herror, hdone]

/-- The answer of PAM_AUTH has been sent. -/
theorem pamSettle_request :
    pamSettle env key .auth (u, .request) =
      .ok { pamRequestArrival u with conn.stm := some .request } := by
  simp [pamSettle, jump, callIfSome, pamStates]

/-- A callback that ends the connection. -/
theorem pamSettle_stop {next : PamState} (hnext : next = .error ∨ next = .done) :
    pamSettle env key st (u, next) = pamDone { u with conn.stm := some next } := by
  have hjump : jump (pamStates env key) st next u = u := by
    have hdeparture : (pamStates env key st).onDeparture = none := by cases st <;> rfl
    have harrival : (pamStates env key next).onArrival = none := by
      rcases hnext with rfl | rfl <;> rfl
    unfold jump
    rw [hdeparture, harrival]
    exact ite_self _
  simp [pamSettle, hjump, hnext]

end Equations

/-! ## What a callback keeps -/

structure PamFrame (s t : PamSession) : Prop where
  address : t.address = s.address
  clientFd : t.conn.clientFd = s.conn.clientFd
  freed : t.freed = s.freed
  stm : t.conn.stm = s.conn.stm
  metrics : t.metrics = s.metrics
  log : s.log <+: t.log
  limit : t.conn.clientBuffer.limit = s.conn.clientBuffer.limit
  sel : SetsInterests s.sel t.sel

section Frames

variable {env : PamEnv} {key : SelectorKey} {s t u : PamSession}

theorem PamFrame.refl (s : PamSession) : PamFrame s s :=
  ⟨rfl, rfl, rfl, rfl, rfl, List.prefix_rfl, rfl, .refl⟩

theorem PamFrame.trans (h : PamFrame s t) (h' : PamFrame t u) : PamFrame s u where
  address := h'.address.trans h.address
  clientFd := h'.clientFd.trans h.clientFd
  freed := h'.freed.trans h.freed
  stm := h'.stm.trans h.stm
  metrics := h'.metrics.trans h.metrics
  log := h.log.trans h'.log
  limit := h'.limit.trans h.limit
  sel := h.sel.trans h'.sel

theorem PamFrame.of_conn {c : Pam} (hfd : c.clientFd = s.conn.clientFd)
    (hstm : c.stm = s.conn.stm) (hlimit : c.clientBuffer.limit = s.conn.clientBuffer.limit) :
    PamFrame s { s with conn := c } :=
  ⟨rfl, hfd, rfl, hstm, rfl, List.prefix_rfl, hlimit, .refl⟩

theorem PamFrame.act (action : PamAction) : PamFrame s (s.act action) :=
  ⟨rfl, rfl, rfl, rfl, rfl, List.prefix_append _ _, rfl, .refl⟩

theorem PamFrame.setInterest (fd : ℤ) (i : FdInterest) : PamFrame s (s.setInterest fd i) :=
  ⟨rfl, rfl, rfl, rfl, rfl, List.prefix_rfl, rfl, SetsInterests.refl.step fd i⟩

theorem PamFrame.answerWith (bytes : List UInt8) : PamFrame s (s.answerWith bytes) :=
  .of_conn rfl rfl (bufferWriteAll_limit _ _)

theorem PamFrame.recvClientBuffer (fd : ℤ) (answer : Option (List UInt8)) :
    PamFrame s (s.recvClientBuffer fd answer).2 := by
  have hbuffer : PamFrame s { s with
      conn.clientBuffer := (bufferRecv s.conn.clientBuffer answer).2 } :=
    .of_conn rfl rfl (bufferRecv_limit answer)
  cases answer <;> exact hbuffer.trans (.act _)

theorem PamFrame.sendClientBuffer (fd : ℤ) (answer : Option ℕ) :
    PamFrame s (s.sendClientBuffer fd answer).2 := by
  have hbuffer : PamFrame s { s with
      conn.clientBuffer := (bufferSend s.conn.clientBuffer answer).2 } :=
    .of_conn rfl rfl (bufferSend_limit answer)
  cases answer <;> exact hbuffer.trans (.act _)

theorem pamArrived_frame : PamFrame s s.arrived := by
  unfold PamSession.arrived
  split
  · exact .of_conn rfl rfl rfl
  · exact .refl s

end Frames

/-! ## What has been received -/

/-- The calls of a reader. -/
def PamAction.Receives : PamAction → Prop
  | .recv _ _ | .recvFailed _ => True
  | _ => False

/-- The session after a `recv` for which the kernel held `bytes`. -/
def PamSession.received (s : PamSession) (fd : ℤ) (bytes : List UInt8) : PamSession :=
  ({ s with conn.clientBuffer := (bufferRecv s.conn.clientBuffer (some bytes)).2 } :
    PamSession).act (.recv fd (bytes.take s.conn.clientBuffer.space))

section Received

variable {s : PamSession} {fd : ℤ} {bytes : List UInt8} {answer : Option (List UInt8)}

theorem recvClientBuffer_received (s : PamSession) (fd : ℤ) (h : answer = some bytes) :
    s.recvClientBuffer fd answer =
      (some (bytes.take s.conn.clientBuffer.space), s.received fd bytes) := by
  subst h
  rfl

theorem receives_of_recvClientBuffer {action : PamAction}
    (h : action ∈ (s.recvClientBuffer fd answer).2.log) :
    action ∈ s.log ∨ action.Receives := by
  rcases answer with _ | bytes
  · rcases List.mem_append.mp h with hold | hnew
    · exact .inl hold
    · rw [List.mem_singleton.mp hnew]
      exact .inr trivial
  · rcases List.mem_append.mp h with hold | hnew
    · exact .inl hold
    · rw [List.mem_singleton.mp hnew]
      exact .inr trivial

@[simp] theorem received_content : (s.received fd bytes).conn.clientBuffer.content =
    s.conn.clientBuffer.content ++ bytes.take s.conn.clientBuffer.space :=
  bufferRecv_some_content bytes

@[simp] theorem received_space : (s.received fd bytes).conn.clientBuffer.space =
    s.conn.clientBuffer.space - bytes.length :=
  bufferRecv_some_space bytes

@[simp] theorem received_limit :
    (s.received fd bytes).conn.clientBuffer.limit = s.conn.clientBuffer.limit :=
  bufferRecv_limit _

@[simp] theorem received_request : (s.received fd bytes).conn.request = s.conn.request := rfl

@[simp] theorem received_auth : (s.received fd bytes).conn.auth = s.conn.auth := rfl

@[simp] theorem received_users : (s.received fd bytes).users = s.users := rfl

end Received

/-! ## The writers -/

/-- The session after `send`. -/
def PamSession.sending (s : PamSession) (answer : Option ℕ) : PamSession :=
  (s.sendClientBuffer s.conn.clientFd answer).2

/-- How one write ends in a state that is left for `next` once everything has
been sent. -/
inductive PamWriteEnds (key : SelectorKey) (stay next : PamState) (i : FdInterest)
    (s : PamSession) (answer : Option ℕ) : PamSession × PamState → Prop
  | failed (hnone : answer = none) :
      PamWriteEnds key stay next i s answer (s.sending none, .error)
  | partly (k : ℕ) (hsome : answer = some k) (hleft : s.conn.clientBuffer.content.drop k ≠ []) :
      PamWriteEnds key stay next i s answer (s.sending (some k), stay)
  | sent (k : ℕ) (hsome : answer = some k) (hempty : s.conn.clientBuffer.content.drop k = []) :
      PamWriteEnds key stay next i s answer
        (({ s.sending (some k) with
            conn.clientBuffer := bufferReset (s.sending (some k)).conn.clientBuffer } :
          PamSession).setInterest key.fd i, next)

section Writers

variable {s : PamSession}

theorem pamSending_frame (answer : Option ℕ) : PamFrame s (s.sending answer) :=
  .sendClientBuffer s.conn.clientFd answer

theorem pamSending_content (k : ℕ) :
    (s.sending (some k)).conn.clientBuffer.content = s.conn.clientBuffer.content.drop k :=
  bufferSend_some_content k

/-- Everything has been sent. -/
theorem pamSent_frame (answer : Option ℕ) (fd : ℤ) (i : FdInterest) :
    PamFrame s (({ s.sending answer with
      conn.clientBuffer := bufferReset (s.sending answer).conn.clientBuffer } :
        PamSession).setInterest fd i) := by
  refine PamFrame.trans ?_ (.setInterest fd i)
  exact (pamSending_frame answer).trans (.of_conn rfl rfl rfl)

/-- `send` leaves the credentials, the request and the store alone. -/
theorem pamSending_kept (answer : Option ℕ) :
    (s.sending answer).sel = s.sel ∧ (s.sending answer).users = s.users ∧
      (s.sending answer).conn.auth = s.conn.auth ∧
      (s.sending answer).conn.request = s.conn.request := by
  rcases answer with _ | k
  · exact ⟨rfl, rfl, rfl, rfl⟩
  · exact ⟨rfl, rfl, rfl, rfl⟩

theorem pamAuthWrite_ends (env : PamEnv) (key : SelectorKey) (s : PamSession) :
    PamWriteEnds key .auth .request .opRead s env.send (pamAuthWrite env key s) := by
  rcases hanswer : env.send with _ | k
  · rw [pamAuthWrite, hanswer]
    exact .failed rfl
  · have hsent : pamAuthWrite env key s =
        if bufferCanRead (s.sending (some k)).conn.clientBuffer then
          (s.sending (some k), .auth)
        else
          (({ s.sending (some k) with
              conn.clientBuffer := bufferReset (s.sending (some k)).conn.clientBuffer } :
            PamSession).setInterest key.fd .opRead, .request) := by
      rw [pamAuthWrite, hanswer]
      rfl
    rw [hsent]
    split_ifs with hcan
    · rw [bufferCanRead_iff, pamSending_content] at hcan
      exact .partly k rfl hcan
    · rw [bufferCanRead_iff, pamSending_content, not_ne_iff] at hcan
      exact .sent k rfl hcan

theorem pamRequestWrite_ends (env : PamEnv) (key : SelectorKey) (s : PamSession) :
    PamWriteEnds key .request .done .opNoop s env.send (pamRequestWrite env key s) := by
  rcases hanswer : env.send with _ | k
  · rw [pamRequestWrite, hanswer]
    exact .failed rfl
  · have hsent : pamRequestWrite env key s =
        if bufferCanRead (s.sending (some k)).conn.clientBuffer then
          (s.sending (some k), .request)
        else
          (({ s.sending (some k) with
              conn.clientBuffer := bufferReset (s.sending (some k)).conn.clientBuffer } :
            PamSession).setInterest key.fd .opNoop, .done) := by
      rw [pamRequestWrite, hanswer]
      rfl
    rw [hsent]
    split_ifs with hcan
    · rw [bufferCanRead_iff, pamSending_content] at hcan
      exact .partly k rfl hcan
    · rw [bufferCanRead_iff, pamSending_content, not_ne_iff] at hcan
      exact .sent k rfl hcan

end Writers

/-! ## The registration -/

/-- The client's descriptor is the only one registered with the connection. -/
structure PamRegistered (s : PamSession) : Prop where
  owns : s.sel.dataOf s.conn.clientFd = some s.address
  only : ∀ fd, s.sel.dataOf fd = some s.address → fd = s.conn.clientFd
  handler : (s.sel.item s.conn.clientFd).handler = some .pamHandler

section Registered

variable {env : PamEnv} {key : SelectorKey} {s t : PamSession}

theorem PamFrame.registered (h : PamFrame s t) (hs : PamRegistered s) : PamRegistered t where
  owns := by rw [h.sel.dataOf, h.clientFd, h.address, hs.owns]
  only := fun fd hfd => by
    rw [h.sel.dataOf, h.address] at hfd
    rw [h.clientFd]
    exact hs.only fd hfd
  handler := by rw [h.sel.handler, h.clientFd, hs.handler]

/-- The teardown of a registered connection. -/
def PamSession.gone (s : PamSession) : PamSession :=
  { pamClose s with sel := selectorClearItem s.sel s.conn.clientFd }.act (.close s.conn.clientFd)

theorem pamDone_of_registered (h : PamRegistered s) : pamDone s = .ok s.gone := by
  obtain ⟨hvalid, hused⟩ := interestOf_ne_none_iff.mp (interestOf_ne_none_of_dataOf h.owns)
  simp [pamDone, hvalid, hused, h.handler, PamSession.gone, pamClose, PamSession.act]

end Registered

end Socks5Proxy

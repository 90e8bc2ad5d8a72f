import Socks5Proxy.Socks.Connection

/-!
# Reading the log of a connection

The bytes a descriptor delivered and the bytes it was sent, in order.
-/

namespace Socks5Proxy

namespace Action

/-- The bytes one call received from `fd`. -/
def receivedFrom (fd : ℤ) : Action → List UInt8
  | .recv fd' bytes => if fd' = fd then bytes else []
  | _ => []

/-- The bytes one call received from any descriptor. -/
def received : Action → List UInt8
  | .recv _ bytes => bytes
  | _ => []

/-- The bytes one call sent to `fd`. -/
def sentTo (fd : ℤ) : Action → List UInt8
  | .send fd' bytes => if fd' = fd then bytes else []
  | _ => []

end Action

/-- All the bytes received from `fd`. -/
def bytesReceived (fd : ℤ) (log : List Action) : List UInt8 :=
  log.flatMap (Action.receivedFrom fd)

/-- All the bytes received from any descriptor. -/
def allReceived (log : List Action) : List UInt8 := log.flatMap Action.received

/-- All the bytes sent to `fd`. -/
def bytesSent (fd : ℤ) (log : List Action) : List UInt8 :=
  log.flatMap (Action.sentTo fd)

section Traces

variable {fd : ℤ} {log log' : List Action}

@[simp] theorem bytesReceived_nil : bytesReceived fd [] = [] := rfl

@[simp] theorem bytesSent_nil : bytesSent fd [] = [] := rfl

@[simp] theorem bytesReceived_append :
    bytesReceived fd (log ++ log') = bytesReceived fd log ++ bytesReceived fd log' :=
  List.flatMap_append

@[simp] theorem bytesSent_append :
    bytesSent fd (log ++ log') = bytesSent fd log ++ bytesSent fd log' :=
  List.flatMap_append

@[simp] theorem bytesReceived_cons (action : Action) :
    bytesReceived fd (action :: log) = action.receivedFrom fd ++ bytesReceived fd log :=
  List.flatMap_cons

@[simp] theorem bytesSent_cons (action : Action) :
    bytesSent fd (action :: log) = action.sentTo fd ++ bytesSent fd log :=
  List.flatMap_cons

theorem bytesSent_send {bytes : List UInt8} :
    bytesSent fd (log ++ [.send fd bytes]) = bytesSent fd log ++ bytes := by
  rw [bytesSent_append, bytesSent_cons, Action.sentTo, if_pos rfl, bytesSent_nil,
    List.append_nil]

theorem allReceived_append :
    allReceived (log ++ log') = allReceived log ++ allReceived log' :=
  List.flatMap_append

end Traces

/-- All the bytes the client has sent so far. -/
def clientBytes (s : Session) : List UInt8 := bytesReceived s.conn.clientFd s.log

theorem clientBytes_append {s t : Session} {log : List Action}
    (hfd : t.conn.clientFd = s.conn.clientFd)
    (hlog : t.log = s.log ++ log) :
    clientBytes t = clientBytes s ++ bytesReceived s.conn.clientFd log := by
  rw [clientBytes, hfd, hlog, bytesReceived_append]
  rfl

/-! ## Receiving and sending in one session -/

/-- A kernel that has these bytes to deliver. -/
def receives (bytes : List UInt8) : Env := { (default : Env) with recv := some bytes }

/-- A kernel that accepts this many bytes. -/
def sends (count : ℕ) : Env := { (default : Env) with send := some count }

section Calls

variable {s : Session} {fd : ℤ}

theorem recvClientBuffer_none : s.recvClientBuffer fd none = (none, s.act (.recvFailed fd)) :=
  rfl

/-- A `recv` that succeeds adds to the content of `client_buffer`. -/
theorem recvClientBuffer_some (s : Session) (fd : ℤ) (offered : List UInt8) :
    ∃ b, b.content = s.conn.clientBuffer.content ++ offered.take s.conn.clientBuffer.space ∧
      b.space = s.conn.clientBuffer.space - offered.length ∧
      s.recvClientBuffer fd (some offered) =
        (some (offered.take s.conn.clientBuffer.space),
          ({ s with conn.clientBuffer := b }).act
            (.recv fd (offered.take s.conn.clientBuffer.space))) :=
  ⟨(bufferRecv s.conn.clientBuffer (some offered)).2, bufferRecv_some_content offered,
    bufferRecv_some_space offered, rfl⟩

/-- The entry a `recv` leaves in the log. -/
def recvAction (fd : ℤ) : Option (List UInt8) → Action
  | none => .recvFailed fd
  | some bytes => .recv fd bytes

@[simp] theorem receivedFrom_recvAction (fd : ℤ) (readn : Option (List UInt8)) :
    (recvAction fd readn).receivedFrom fd = readn.getD [] := by
  cases readn with
  | none => rfl
  | some bytes => exact if_pos rfl

@[simp] theorem allReceived_recvAction (fd : ℤ) (readn : Option (List UInt8)) :
    allReceived [recvAction fd readn] = readn.getD [] := by
  cases readn with
  | none => rfl
  | some bytes => exact List.append_nil bytes

/-- Whatever `recv` returns, its bytes are added to the content. -/
theorem recvClientBuffer_snd (s : Session) (fd : ℤ) (answer : Option (List UInt8)) :
    ∃ b, b.content =
        s.conn.clientBuffer.content ++ (bufferRecv s.conn.clientBuffer answer).1.getD [] ∧
      (s.recvClientBuffer fd answer).2 = ({ s with conn.clientBuffer := b }).act
        (recvAction fd (bufferRecv s.conn.clientBuffer answer).1) := by
  cases answer with
  | none => exact ⟨s.conn.clientBuffer, by simp, rfl⟩
  | some offered =>
      exact ⟨(bufferRecv s.conn.clientBuffer (some offered)).2, bufferRecv_some_content offered,
        rfl⟩

/-- A `send` that succeeds takes from the content of `origin_buffer`. -/
theorem sendOriginBuffer_some (s : Session) (fd : ℤ) (k : ℕ) :
    ∃ b, b.content = s.conn.originBuffer.content.drop k ∧
      s.sendOriginBuffer fd (some k) =
        (some (s.conn.originBuffer.content.take k),
          ({ s with conn.originBuffer := b }).act
            (.send fd (s.conn.originBuffer.content.take k))) := by
  refine ⟨(bufferSend s.conn.originBuffer (some k)).2, bufferSend_some_content k, ?_⟩
  unfold Session.sendOriginBuffer
  have hfst := bufferSend_some_fst (b := s.conn.originBuffer) k
  generalize bufferSend s.conn.originBuffer (some k) = r at hfst ⊢
  obtain ⟨written, b⟩ := r
  cases hfst
  rfl

end Calls

end Socks5Proxy

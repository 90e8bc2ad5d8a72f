import Socks5Proxy.Socks.CopyStreams
import Socks5Proxy.Socks.Reply

/-!
# COPY keeps both streams in order

What holds across any sequence of the two callbacks of COPY, on either
descriptor and with any answers of the kernel.
-/

namespace Socks5Proxy

/-- A call of one of the two callbacks. -/
inductive CopyEvent
  | read (fd : ℤ) (env : Env)
  | write (fd : ℤ) (env : Env)

def copyStep (s : Session) : CopyEvent → Session × SocksV5State
  | .read fd env => socksv5CopyRead env ⟨fd, s.address⟩ s
  | .write fd env => socksv5CopyWrite env ⟨fd, s.address⟩ s

/-- The callbacks one after the other, whatever they return. -/
def copyRun (s : Session) (es : List CopyEvent) : Session :=
  es.foldl (fun s e => (copyStep s e).1) s

/-- Since `entry`, what was sent to each side, followed by what is buffered for
it, is what was buffered for it at entry, followed by what came in for it. -/
structure CopyFifo (entry s : Session) : Prop where
  linked : CopyLinked s
  fdOf : ∀ x, s.fdOf x = entry.fdOf x
  distinct : entry.fdOf .client ≠ entry.fdOf .origin
  streams : ∃ log, s.log = entry.log ++ log ∧
    ∀ x, bytesSent (entry.fdOf x.other) log ++ (s.buffer x).content =
      (entry.buffer x).content ++ bytesReceived (entry.fdOf x) log

section Fifo

variable {entry s t : Session}

theorem CopyFifo.fd_ne (h : CopyFifo entry s) (x : Side) :
    entry.fdOf x ≠ entry.fdOf x.other := by
  cases x
  · exact h.distinct
  · exact h.distinct.symm

/-- Calls that move no byte keep the streams as they are. -/
theorem CopyFifo.quiet (h : CopyFifo entry s) {log : List Action} {side : Side}
    (heffect : CopyEffect s t log side (s.buffer side))
    (hsent : ∀ fd, bytesSent fd log = [])
    (hreceived : ∀ fd, bytesReceived fd log = []) : CopyFifo entry t where
  linked := heffect.linked
  fdOf := fun x => (heffect.fdOf x).trans (h.fdOf x)
  distinct := h.distinct
  streams := by
    obtain ⟨before, hlog, hstreams⟩ := h.streams
    refine ⟨before ++ log, by rw [heffect.log, hlog, List.append_assoc], ?_⟩
    intro x
    have hbuffer : t.buffer x = s.buffer x := by
      rcases Side.eq_or_eq_other side x with rfl | rfl
      · exact heffect.buffer
      · exact heffect.otherBuffer
    rw [hbuffer, bytesSent_append, bytesReceived_append,
      hsent, hreceived, List.append_nil, List.append_nil]
    exact hstreams x

/-- One read for `src` puts the same bytes at the end of both sides. -/
theorem CopyFifo.received (h : CopyFifo entry s) {src : Side} {bytes : List UInt8}
    {answer : Option (List UInt8)} {b : Buffer}
    (hrecv : bufferRecv (s.buffer src) answer = (some bytes, b))
    (heffect : CopyEffect s t [.recv (s.fdOf src) bytes] src b) :
    CopyFifo entry t where
  linked := heffect.linked
  fdOf := fun x => (heffect.fdOf x).trans (h.fdOf x)
  distinct := h.distinct
  streams := by
    obtain ⟨before, hlog, hstreams⟩ := h.streams
    have hcontent : b.content = (s.buffer src).content ++ bytes :=
      (bufferRecv_eq_some hrecv).1
    refine ⟨before ++ [.recv (s.fdOf src) bytes],
      by rw [heffect.log, hlog, List.append_assoc], ?_⟩
    intro x
    rw [h.fdOf, bytesSent_append, bytesReceived_append]
    rcases Side.eq_or_eq_other src x with rfl | rfl
    · have hx := hstreams x
      rw [heffect.buffer, hcontent]
      simp [Action.sentTo, Action.receivedFrom, ← List.append_assoc, hx]
    · have hne := h.fd_ne src
      rw [heffect.otherBuffer]
      simpa [Action.sentTo, Action.receivedFrom, hne] using hstreams src.other

/-- One write for `dst` moves the front of its buffer behind what was sent. -/
theorem CopyFifo.sent (h : CopyFifo entry s) {dst : Side} {bytes : List UInt8}
    {answer : Option ℕ} {b : Buffer}
    (hsend : bufferSend (s.buffer dst.other) answer = (some bytes, b))
    (heffect : CopyEffect s t [.send (s.fdOf dst) bytes] dst.other b) :
    CopyFifo entry t where
  linked := heffect.linked
  fdOf := fun x => (heffect.fdOf x).trans (h.fdOf x)
  distinct := h.distinct
  streams := by
    obtain ⟨before, hlog, hstreams⟩ := h.streams
    have hcontent : bytes ++ b.content = (s.buffer dst.other).content :=
      (bufferSend_eq_some hsend).symm
    refine ⟨before ++ [.send (s.fdOf dst) bytes],
      by rw [heffect.log, hlog, List.append_assoc], ?_⟩
    intro x
    rw [h.fdOf, bytesSent_append, bytesReceived_append]
    rcases Side.eq_or_eq_other dst x with rfl | rfl
    · have hne := h.fd_ne x
      have hbuffer := heffect.otherBuffer
      rw [Side.other_other] at hbuffer
      rw [hbuffer]
      simpa [Action.sentTo, Action.receivedFrom, hne] using hstreams x
    · have hx := hstreams dst.other
      rw [Side.other_other] at hx
      rw [heffect.buffer, Side.other_other]
      simp only [bytesSent_cons, bytesSent_nil, bytesReceived_cons, bytesReceived_nil,
        Action.sentTo, Action.receivedFrom, if_true, List.append_nil]
      rw [List.append_assoc, hcontent]
      exact hx

theorem CopyFifo.step (h : CopyFifo entry s) (e : CopyEvent) :
    CopyFifo entry (copyStep s e).1 := by
  cases e with
  | read fd env =>
      have hcases := socksv5CopyRead_cases env ⟨fd, s.address⟩ h.linked
      change CopyFifo entry (socksv5CopyRead env ⟨fd, s.address⟩ s).1
      generalize (socksv5CopyRead env ⟨fd, s.address⟩ s).1 = t at hcases ⊢
      generalize (socksv5CopyRead env ⟨fd, s.address⟩ s).2 = st at hcases
      cases hcases with
      | full => exact h
      | moved _ hrecv _ heffect => exact h.received hrecv heffect
      | ended _ hfirst heffect =>
          refine h.quiet heffect ?_ ?_ <;> intro fd <;>
            rcases hfirst with ⟨-, rfl⟩ | ⟨-, rfl⟩ <;>
            simp [Action.sentTo, Action.receivedFrom]
  | write fd env =>
      have hcases := socksv5CopyWrite_cases env ⟨fd, s.address⟩ h.linked
      change CopyFifo entry (socksv5CopyWrite env ⟨fd, s.address⟩ s).1
      generalize (socksv5CopyWrite env ⟨fd, s.address⟩ s).1 = t at hcases ⊢
      generalize (socksv5CopyWrite env ⟨fd, s.address⟩ s).2 = st at hcases
      cases hcases with
      | empty => exact h
      | moved _ hsend _ heffect => exact h.sent hsend heffect
      | ended _ hfirst heffect =>
          refine h.quiet heffect ?_ ?_ <;> intro fd <;>
            rcases hfirst with ⟨-, rfl⟩ | ⟨-, rfl⟩ <;>
            simp [Action.sentTo, Action.receivedFrom]

theorem CopyFifo.run (h : CopyFifo entry s) (es : List CopyEvent) :
    CopyFifo entry (copyRun s es) :=
  List.foldlRecOn es _ h fun _ ht e _ => ht.step e

end Fifo

/-! ## From the arrival on -/

theorem socksv5CopyArrival_linked (s : Session) : CopyLinked (socksv5CopyArrival s) := by
  constructor <;> intro x <;> cases x <;> rfl

theorem socksv5CopyArrival_fifo {s : Session} (h : s.conn.clientFd ≠ s.conn.originFd) :
    CopyFifo s (socksv5CopyArrival s) where
  linked := socksv5CopyArrival_linked s
  fdOf := fun x => by cases x <;> rfl
  distinct := h
  streams := by
    refine ⟨[], (List.append_nil _).symm, ?_⟩
    intro x
    rw [bytesSent_nil, bytesReceived_nil, List.nil_append, List.append_nil]
    cases x <;> rfl

/-- Both directions of COPY are FIFO: from the arrival on, whatever the kernel
answers and whichever callback runs on whichever descriptor, each descriptor
was sent a prefix of what is due to it, and the rest is buffered in order. -/
theorem copyRun_fifo {s : Session} (hfds : s.conn.clientFd ≠ s.conn.originFd)
    (hreplied : s.conn.originBuffer.content = []) (es : List CopyEvent) :
    let t := copyRun (socksv5CopyArrival s) es
    ∃ log, t.log = s.log ++ log ∧
      bytesSent s.conn.originFd log ++ t.conn.clientBuffer.content =
        s.conn.clientBuffer.content ++ bytesReceived s.conn.clientFd log ∧
      bytesSent s.conn.clientFd log ++ t.conn.originBuffer.content =
        bytesReceived s.conn.originFd log := by
  intro t
  have hfifo : CopyFifo s t := (socksv5CopyArrival_fifo hfds).run es
  obtain ⟨log, hlog, hstreams⟩ := hfifo.streams
  refine ⟨log, hlog, hstreams .client, ?_⟩
  have horigin := hstreams .origin
  rw [show s.buffer .origin = s.conn.originBuffer from rfl, hreplied] at horigin
  exact horigin

/-- Two descriptors, two bytes from the client ahead of COPY, then a read and a
short write. -/
theorem copyRun_fifo_short_write :
    let conn : Socks5 :=
      { (default : Socks5) with
        clientFd := 4
        originFd := 5
        clientBuffer := bufferWriteAll (bufferInit 8 fun _ => 0) [1, 2]
        originBuffer := bufferInit 8 fun _ => 0 }
    let s : Session := { (default : Session) with conn := conn }
    let t := copyRun (socksv5CopyArrival s)
      [.read 5 { (default : Env) with recv := some [9, 8] },
        .write 5 { (default : Env) with send := some 1 }]
    ∃ log, t.log = s.log ++ log ∧
      bytesSent 5 log ++ t.conn.clientBuffer.content =
        s.conn.clientBuffer.content ++ bytesReceived 4 log ∧
      bytesSent 4 log ++ t.conn.originBuffer.content = bytesReceived 5 log :=
  copyRun_fifo (s := { (default : Session) with
    conn := { (default : Socks5) with
      clientFd := 4
      originFd := 5
      clientBuffer := bufferWriteAll (bufferInit 8 fun _ => 0) [1, 2]
      originBuffer := bufferInit 8 fun _ => 0 } }) (by decide) rfl _

end Socks5Proxy

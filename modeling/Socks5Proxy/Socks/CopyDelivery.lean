import Socks5Proxy.Socks.CopyFifo

/-!
# What COPY delivers before it closes a direction

`socksv5_copy_read` shuts the peer down for writing as soon as it reads
end-of-file, whether or not the bytes read earlier have been sent.  A session
whose sends and receives do not fail delivers everything exactly when every
end-of-file is read after the peer has taken all that came before it.
-/

namespace Socks5Proxy

open Library

/-! ## Sessions without failures -/

/-- The callbacks one after the other, as long as they return COPY. -/
def copyNext (s : Session) (e : CopyEvent) : Except SocksV5State Session :=
  match copyStep s e with
  | (t, .copy) => .ok t
  | (_, st) => .error st

theorem copyNext_ok_iff {s t : Session} {e : CopyEvent} :
    copyNext s e = .ok t ↔ copyStep s e = (t, .copy) := by
  unfold copyNext
  obtain ⟨u, st⟩ := copyStep s e
  cases st <;> simp

theorem copyNext_of_copy {s : Session} {e : CopyEvent} (h : (copyStep s e).2 = .copy) :
    copyNext s e = .ok (copyStep s e).1 :=
  copyNext_ok_iff.mpr (Prod.ext rfl h)

/-- The calls made since `entry`. -/
def callsSince (entry s : Session) : List Action := s.log.drop entry.log.length

/-- End-of-file has been read from the descriptor of `x`. -/
def Ended (entry s : Session) (x : Side) : Prop :=
  Action.recv (entry.fdOf x) [] ∈ callsSince entry s

instance (entry s : Session) (x : Side) : Decidable (Ended entry s x) :=
  inferInstanceAs (Decidable (_ ∈ _))

/-- The connection as `reply_write` hands it over. -/
structure CopyEntry (entry : Session) : Prop where
  distinct : entry.conn.clientFd ≠ entry.conn.originFd
  settled : ∀ x, (entry.buffer x).Settled
  capacity : ∀ x, 0 < (entry.buffer x).limit

/-- A callback for one of the two descriptors, called under the interest it is
registered with, whose `recv` or `send` does not fail.  A descriptor that
returned end-of-file goes on returning it. -/
def CopyAdmissible (entry s : Session) : CopyEvent → Prop
  | .read fd env =>
    ∃ x i bytes, fd = entry.fdOf x ∧ s.interestOf fd = some i ∧ i.read = true ∧
      env.recv = some bytes ∧ (Ended entry s x → bytes = [])
  | .write fd env =>
    ∃ x i k, fd = entry.fdOf x ∧ s.interestOf fd = some i ∧ i.write = true ∧
      env.send = some (k + 1)

/-- A `shutdown` for writing that an end-of-file causes finds nothing left to
send to that descriptor. -/
def CleanShutdown (entry s : Session) (e : CopyEvent) : Prop :=
  ∀ x log, (copyStep s e).1.log = s.log ++ log →
    Action.recv (entry.fdOf x) [] ∈ log →
    Action.shutdown (entry.fdOf x.other) .wr ∈ log → (s.buffer x).content = []

/-- If the callback returns DONE, both sides have sent all they had to, and
each has been sent exactly that. -/
def DeliveredAtDone (entry s : Session) (e : CopyEvent) : Prop :=
  (copyStep s e).2 = .done → ∀ x, Ended entry (copyStep s e).1 x ∧
    bytesSent (entry.fdOf x.other) (callsSince entry (copyStep s e).1) =
      (entry.buffer x).content ++
        bytesReceived (entry.fdOf x) (callsSince entry (copyStep s e).1)

/-- If this event reads end-of-file, the counts `send` has returned for the
other descriptor add up to the leftover and the counts `recv` has returned. -/
def Drained (entry s : Session) (e : CopyEvent) : Prop :=
  ∀ x env, e = .read (entry.fdOf x) env → env.recv = some [] →
    bufferCanWrite (s.buffer x) = true →
    (bytesSent (entry.fdOf x.other) (callsSince entry s)).length =
      (entry.buffer x).content.length +
        (bytesReceived (entry.fdOf x) (callsSince entry s)).length

/-! ## The buffers stay settled -/

/-- Both buffers have room for something, or hold something. -/
structure CopyBuffers (s : Session) : Prop where
  settled : ∀ x, (s.buffer x).Settled
  capacity : ∀ x, 0 < (s.buffer x).limit

theorem CopyBuffers.of_effect {s t : Session} {log : List Action} {side : Side} {b : Buffer}
    (h : CopyBuffers s) (heffect : CopyEffect s t log side b) (hb : b.Settled)
    (hlimit : b.limit = (s.buffer side).limit) : CopyBuffers t := by
  constructor <;> intro x <;> rcases Side.eq_or_eq_other side x with rfl | rfl
  · rw [heffect.buffer]
    exact hb
  · rw [heffect.otherBuffer]
    exact h.settled _
  · rw [heffect.buffer, hlimit]
    exact h.capacity _
  · rw [heffect.otherBuffer]
    exact h.capacity _

/-- A settled buffer always has room or content. -/
theorem CopyBuffers.room_or_content {s : Session} (h : CopyBuffers s) (x : Side) :
    bufferCanWrite (s.buffer x) = true ∨ bufferCanRead (s.buffer x) = true := by
  rw [bufferCanWrite_iff, bufferCanRead_iff]
  by_cases hcontent : (s.buffer x).content = []
  · left
    rw [h.settled x hcontent]
    exact h.capacity x
  · exact .inr hcontent

/-! ## What holds along a session -/

/-- Nothing can be read yet: the leftover of the handshake goes first. -/
def Waiting (s : Session) : Prop :=
  ∀ x i, s.interestOf (s.fdOf x) = some i → i.read = false

/-- Each direction has ended, or one of its two interests is recorded. -/
def Watched (entry s : Session) : Prop :=
  ∀ x, Ended entry s x ∨ (s.copySt x).interests.read = true ∨
    (s.copySt x.other).interests.write = true

structure CopyProgress (entry s : Session) : Prop where
  fifo : CopyFifo entry s
  buffers : CopyBuffers s
  drained : ∀ x, Ended entry s x → (s.buffer x).content = []
  phase : Waiting s ∨ Watched entry s

section Progress

variable {entry s t : Session}

theorem CopyFifo.counts (h : CopyFifo entry s) (x : Side) :
    bytesSent (entry.fdOf x.other) (callsSince entry s) ++ (s.buffer x).content =
      (entry.buffer x).content ++ bytesReceived (entry.fdOf x) (callsSince entry s) := by
  obtain ⟨log, hlog, hstreams⟩ := h.streams
  have hsince : callsSince entry s = log := by
    rw [callsSince, hlog, List.drop_left]
  rw [hsince]
  exact hstreams x

theorem CopyFifo.content_nil_iff (h : CopyFifo entry s) (x : Side) :
    (s.buffer x).content = [] ↔
      (bytesSent (entry.fdOf x.other) (callsSince entry s)).length =
        (entry.buffer x).content.length +
          (bytesReceived (entry.fdOf x) (callsSince entry s)).length := by
  have hlen := congrArg List.length (h.counts x)
  rw [List.length_append, List.length_append] at hlen
  rw [← List.length_eq_zero_iff]
  omega

/-- The calls of one more step. -/
theorem callsSince_append (h : CopyFifo entry s) {log : List Action}
    (hlog : t.log = s.log ++ log) : callsSince entry t = callsSince entry s ++ log := by
  obtain ⟨before, hbefore, -⟩ := h.streams
  rw [callsSince, callsSince, hlog, hbefore, List.append_assoc, List.drop_left,
    List.drop_left]

theorem ended_append (h : CopyFifo entry s) {log : List Action}
    (hlog : t.log = s.log ++ log) (x : Side) :
    Ended entry t x ↔ Ended entry s x ∨ Action.recv (entry.fdOf x) [] ∈ log := by
  rw [Ended, callsSince_append h hlog, List.mem_append]
  rfl

theorem keySide_fdOf (h : CopyFifo entry s) (x : Side) (data : ℕ) :
    keySide ⟨entry.fdOf x, data⟩ s = x := by
  have hclient : s.conn.clientFd = entry.fdOf .client := h.fdOf .client
  unfold keySide
  cases x with
  | client => exact if_pos hclient
  | origin => exact if_neg fun heq => h.distinct (hclient.symm.trans heq)

/-- Interests that fit the buffers watch both directions. -/
theorem watched_of_copyInterest (h : CopyBuffers s)
    (hinterests : ∀ x, (s.copySt x).interests = s.copyInterest x) : Watched entry s := by
  intro x
  right
  rw [hinterests, hinterests]
  simpa [Session.copyInterest] using h.room_or_content x

/-- A read of at least one byte. -/
theorem CopyProgress.moved_read (h : CopyProgress entry s) {x : Side} {bytes : List UInt8}
    {answer : Option (List UInt8)} {b : Buffer}
    (hopen : ¬ Ended entry s x)
    (hrecv : bufferRecv (s.buffer x) answer = (some bytes, b)) (hne : bytes ≠ [])
    (heffect : CopyEffect s t [.recv (s.fdOf x) bytes] x b)
    (hinterests : ∀ y, (t.copySt y).interests = t.copyInterest y) :
    CopyProgress entry t ∧ Watched entry t := by
  have hb : b = (bufferRecv (s.buffer x) answer).2 := by rw [hrecv]
  have hbuffers : CopyBuffers t := by
    apply h.buffers.of_effect heffect
    · rw [hb]
      exact bufferRecv_settled (h.buffers.settled x) _
    · rw [hb, bufferRecv_limit]
  have hwatched : Watched entry t := watched_of_copyInterest hbuffers hinterests
  refine ⟨⟨h.fifo.received hrecv heffect, hbuffers, ?_, .inr hwatched⟩, hwatched⟩
  intro y hy
  rw [ended_append h.fifo heffect.log] at hy
  have hold : Ended entry s y := by
    rcases hy with hy | hy
    · exact hy
    · simp only [List.mem_singleton, Action.recv.injEq] at hy
      exact absurd hy.2.symm hne
  rcases Side.eq_or_eq_other x y with rfl | rfl
  · exact absurd hold hopen
  · rw [heffect.otherBuffer]
    exact h.drained _ hold

/-- A write of at least one byte. -/
theorem CopyProgress.moved_write (h : CopyProgress entry s) {x : Side} {bytes : List UInt8}
    {answer : Option ℕ} {b : Buffer}
    (hsend : bufferSend (s.buffer x.other) answer = (some bytes, b)) (hne : bytes ≠ [])
    (heffect : CopyEffect s t [.send (s.fdOf x) bytes] x.other b)
    (hinterests : ∀ y, (t.copySt y).interests = t.copyInterest y) :
    CopyProgress entry t ∧ Watched entry t := by
  have hb : b = (bufferSend (s.buffer x.other) answer).2 := by rw [hsend]
  have hbuffers : CopyBuffers t := by
    apply h.buffers.of_effect heffect
    · rw [hb]
      exact bufferSend_settled (h.buffers.settled x.other) _
    · rw [hb, bufferSend_limit]
  have hwatched : Watched entry t := watched_of_copyInterest hbuffers hinterests
  refine ⟨⟨h.fifo.sent hsend heffect, hbuffers, ?_, .inr hwatched⟩, hwatched⟩
  intro y hy
  rw [ended_append h.fifo heffect.log] at hy
  have hold : Ended entry s y := by simpa using hy
  have hnil := h.drained y hold
  rcases Side.eq_or_eq_other x y with rfl | rfl
  · have hbuffer := heffect.otherBuffer
    rw [Side.other_other] at hbuffer
    rw [hbuffer]
    exact hnil
  · rw [bufferSend_eq_some hsend, List.append_eq_nil_iff] at hnil
    exact absurd hnil.1 hne

/-- A read of end-of-file behind which nothing is buffered. -/
theorem CopyProgress.ended_read (h : CopyProgress entry s) {x : Side}
    (hempty : (s.buffer x).content = []) (hwatched : Watched entry s)
    (heffect : CopyEffect s t
      [.recv (s.fdOf x) [], .shutdown (s.fdOf x) .rd, .shutdown (s.fdOf x.other) .wr] x
      (s.buffer x))
    (hsrc : (t.copySt x).interests = (s.copySt x).interests.off .opRead)
    (hdst : (t.copySt x.other).interests = (s.copySt x.other).interests.off .opWrite) :
    CopyProgress entry t ∧ Watched entry t := by
  have hended := ended_append h.fifo heffect.log
  have hne := h.fifo.fd_ne x
  have hwatched' : Watched entry t := by
    intro y
    rcases Side.eq_or_eq_other x y with rfl | rfl
    · left
      rw [hended, h.fifo.fdOf]
      exact .inr (by simp)
    · rw [hended, hdst, Side.other_other, hsrc]
      rcases hwatched x.other with hy | hy | hy
      · exact .inl (.inl hy)
      · exact .inr (.inl (by simpa [FdInterest.off, FdInterest.opWrite] using hy))
      · rw [Side.other_other] at hy
        exact .inr (.inr (by simpa [FdInterest.off, FdInterest.opRead] using hy))
  refine ⟨⟨h.fifo.quiet heffect (by simp [Action.sentTo])
    (by simp [Action.receivedFrom]), ?_, ?_, .inr hwatched'⟩, hwatched'⟩
  · exact h.buffers.of_effect heffect (h.buffers.settled x) rfl
  · intro y hy
    rcases Side.eq_or_eq_other x y with rfl | rfl
    · rw [heffect.buffer]
      exact hempty
    · rw [hended, h.fifo.fdOf] at hy
      rw [heffect.otherBuffer]
      rcases hy with hy | hy
      · exact h.drained _ hy
      · simp [hne.symm] at hy

/-- One event of a session without failures: unless the selector refuses, the
progress is kept, and what ends with DONE was watched to the end. -/
theorem CopyProgress.step (h : CopyProgress entry s) {e : CopyEvent}
    (hadm : CopyAdmissible entry s e) (hdrained : Drained entry s e) :
    (copyStep s e).2 = .error ∨
      CopyProgress entry (copyStep s e).1 ∧
        ((copyStep s e).2 = .copy ∨ Watched entry (copyStep s e).1) := by
  cases e with
  | read fd env =>
      obtain ⟨x, i, bytes, rfl, hinterest, hread, hrecv, hopen⟩ := hadm
      have hcases := socksv5CopyRead_cases env ⟨entry.fdOf x, s.address⟩ h.fifo.linked
      rw [keySide_fdOf h.fifo] at hcases
      simp only [copyStep]
      generalize (socksv5CopyRead env ⟨entry.fdOf x, s.address⟩ s).1 = t at hcases ⊢
      generalize (socksv5CopyRead env ⟨entry.fdOf x, s.address⟩ s).2 = st at hcases ⊢
      cases hcases with
      | full => exact .inr ⟨h, .inl rfl⟩
      | moved _ hmoved hne heffect hst =>
          rcases hst with hst | ⟨hinterests, -⟩
          · exact .inl hst
          · have hnot : ¬ Ended entry s x := by
              intro hended
              rw [hrecv, hopen hended, bufferRecv] at hmoved
              exact hne (by simpa using (congrArg Prod.fst hmoved).symm)
            obtain ⟨hprogress, hwatched⟩ := h.moved_read hnot hmoved hne heffect hinterests
            exact .inr ⟨hprogress, .inr hwatched⟩
      | ended hspace hfirst heffect hsrc hdst =>
          rcases hfirst with ⟨hnone, -⟩ | ⟨hempty, rfl⟩
          · rw [hrecv] at hnone
            cases hnone
          · have hwatched : Watched entry s := by
              rcases h.phase with hwaiting | hwatched
              · rw [← h.fifo.fdOf] at hinterest
                rw [hwaiting x i hinterest] at hread
                cases hread
              · exact hwatched
            have hcontent : (s.buffer x).content = [] :=
              (h.fifo.content_nil_iff x).mpr (hdrained x env rfl hempty hspace)
            obtain ⟨hprogress, hwatched'⟩ :=
              h.ended_read hcontent hwatched heffect hsrc hdst
            exact .inr ⟨hprogress, .inr hwatched'⟩
  | write fd env =>
      obtain ⟨x, -, k, rfl, -, -, hsend⟩ := hadm
      have hcases := socksv5CopyWrite_cases env ⟨entry.fdOf x, s.address⟩ h.fifo.linked
      rw [keySide_fdOf h.fifo] at hcases
      simp only [copyStep]
      generalize (socksv5CopyWrite env ⟨entry.fdOf x, s.address⟩ s).1 = t at hcases ⊢
      generalize (socksv5CopyWrite env ⟨entry.fdOf x, s.address⟩ s).2 = st at hcases ⊢
      cases hcases with
      | empty => exact .inr ⟨h, .inl rfl⟩
      | moved _ hmoved hne heffect hst =>
          rcases hst with hst | ⟨hinterests, -⟩
          · exact .inl hst
          · obtain ⟨hprogress, hwatched⟩ := h.moved_write hmoved hne heffect hinterests
            exact .inr ⟨hprogress, .inr hwatched⟩
      | ended _ hfirst =>
          rcases hfirst with ⟨hnone, -⟩ | ⟨hzero, -⟩
          · rw [hsend] at hnone
            cases hnone
          · rw [hsend] at hzero
            cases hzero

/-- DONE is returned only with no interest recorded. -/
theorem copyStep_done (h : CopyLinked s) {e : CopyEvent} (hdone : (copyStep s e).2 = .done)
    (x : Side) : ((copyStep s e).1.copySt x).interests = .opNoop := by
  cases e with
  | read fd env =>
      have hcases := socksv5CopyRead_cases env ⟨fd, s.address⟩ h
      simp only [copyStep] at hdone ⊢
      generalize (socksv5CopyRead env ⟨fd, s.address⟩ s).1 = t at hcases ⊢
      rw [hdone] at hcases
      cases hcases with
      | moved _ _ _ _ hst =>
          rcases hst with herror | ⟨-, hst⟩
          · cases herror
          · exact copyState_eq_done_iff.mp hst.symm x
      | ended _ _ _ _ _ hst => exact copyState_eq_done_iff.mp hst.symm x
  | write fd env =>
      have hcases := socksv5CopyWrite_cases env ⟨fd, s.address⟩ h
      simp only [copyStep] at hdone ⊢
      generalize (socksv5CopyWrite env ⟨fd, s.address⟩ s).1 = t at hcases ⊢
      rw [hdone] at hcases
      cases hcases with
      | moved _ _ _ _ hst =>
          rcases hst with herror | ⟨-, hst⟩
          · cases herror
          · exact copyState_eq_done_iff.mp hst.symm x
      | ended _ _ _ _ _ hst => exact copyState_eq_done_iff.mp hst.symm x

/-- The last event delivers. -/
theorem CopyProgress.delivered (h : CopyProgress entry s) {e : CopyEvent}
    (hadm : CopyAdmissible entry s e) (hdrained : Drained entry s e) :
    DeliveredAtDone entry s e := by
  intro hdone x
  rcases h.step hadm hdrained with herror | ⟨hprogress, hcopy | hwatched⟩
  · rw [hdone] at herror
    cases herror
  · rw [hdone] at hcopy
    cases hcopy
  · have hoff := copyStep_done h.fifo.linked hdone
    have hended : Ended entry (copyStep s e).1 x := by
      rcases hwatched x with hended | hread | hwrite
      · exact hended
      · rw [hoff] at hread
        cases hread
      · rw [hoff] at hwrite
        cases hwrite
    refine ⟨hended, ?_⟩
    have hcounts := hprogress.fifo.counts x
    rw [hprogress.drained x hended, List.append_nil] at hcounts
    exact hcounts

/-- Counts that add up leave nothing to lose, and only then. -/
theorem cleanShutdown_iff (h : CopyFifo entry s) {e : CopyEvent}
    (hadm : CopyAdmissible entry s e) : CleanShutdown entry s e ↔ Drained entry s e := by
  constructor
  · rintro hclean x env rfl hrecv hspace
    rw [← h.content_nil_iff x]
    have hcases := socksv5CopyRead_cases env ⟨entry.fdOf x, s.address⟩ h.linked
    rw [keySide_fdOf h] at hcases
    specialize hclean x
    simp only [copyStep] at hclean
    generalize (socksv5CopyRead env ⟨entry.fdOf x, s.address⟩ s).1 = t at hcases hclean
    generalize (socksv5CopyRead env ⟨entry.fdOf x, s.address⟩ s).2 = st at hcases
    cases hcases with
    | full hfull =>
        rw [hspace] at hfull
        cases hfull
    | moved _ hmoved hne =>
        rw [hrecv, bufferRecv] at hmoved
        exact absurd (by simpa using (congrArg Prod.fst hmoved).symm) hne
    | ended _ hfirst heffect =>
        rcases hfirst with ⟨hnone, -⟩ | ⟨-, rfl⟩
        · rw [hrecv] at hnone
          cases hnone
        · apply hclean _ heffect.log <;> simp [h.fdOf]
  · intro hdrained x log hlog hrecv hshut
    cases e with
    | read fd env =>
        obtain ⟨y, i, bytes, rfl, -⟩ := hadm
        have hcases := socksv5CopyRead_cases env ⟨entry.fdOf y, s.address⟩ h.linked
        rw [keySide_fdOf h] at hcases
        simp only [copyStep] at hlog
        generalize (socksv5CopyRead env ⟨entry.fdOf y, s.address⟩ s).1 = t at hcases hlog
        generalize (socksv5CopyRead env ⟨entry.fdOf y, s.address⟩ s).2 = st at hcases
        cases hcases with
        | full =>
            rw [List.self_eq_append_right.mp hlog] at hrecv
            cases hrecv
        | moved _ _ hne heffect =>
            rw [← List.append_cancel_left (heffect.log.symm.trans hlog)] at hshut
            simp at hshut
        | ended hspace hfirst heffect =>
            rw [← List.append_cancel_left (heffect.log.symm.trans hlog)] at hrecv
            rcases hfirst with ⟨-, rfl⟩ | ⟨hempty, rfl⟩
            · simp at hrecv
            · have hxy : x = y := by
                rcases Side.eq_or_eq_other y x with hxy | rfl
                · exact hxy
                · simp [h.fdOf, (h.fd_ne y).symm] at hrecv
              subst hxy
              exact (h.content_nil_iff x).mpr (hdrained x env rfl hempty hspace)
    | write fd env =>
        have hcases := socksv5CopyWrite_cases env ⟨fd, s.address⟩ h.linked
        simp only [copyStep] at hlog
        generalize (socksv5CopyWrite env ⟨fd, s.address⟩ s).1 = t at hcases hlog
        generalize (socksv5CopyWrite env ⟨fd, s.address⟩ s).2 = st at hcases
        cases hcases with
        | empty =>
            rw [List.self_eq_append_right.mp hlog] at hrecv
            cases hrecv
        | moved _ _ _ heffect =>
            rw [← List.append_cancel_left (heffect.log.symm.trans hlog)] at hrecv
            simp at hrecv
        | ended _ hfirst heffect =>
            rw [← List.append_cancel_left (heffect.log.symm.trans hlog)] at hrecv
            rcases hfirst with ⟨-, rfl⟩ | ⟨-, rfl⟩ <;> simp at hrecv

/-- The session as `socksv5_copy_arrival` leaves it. -/
theorem copyArrival_progress (h : CopyEntry entry) :
    CopyProgress entry (socksv5CopyArrival entry) where
  fifo := socksv5CopyArrival_fifo h.distinct
  buffers := by
    constructor <;> intro x
    · have := h.settled x
      cases x <;> exact this
    · have := h.capacity x
      cases x <;> exact this
  drained := by
    intro x hx
    rw [Ended, callsSince, show (socksv5CopyArrival entry).log = entry.log from rfl,
      List.drop_length] at hx
    cases hx
  phase := by
    by_cases hleft : (bufferReadPtr entry.conn.clientBuffer).2 > 0
    · left
      intro x i hi
      have hsel : (socksv5CopyArrival entry).sel =
          (selectorSetInterest
            (selectorSetInterest entry.sel entry.conn.originFd .opWrite).1
            entry.conn.clientFd .opNoop).1 := by
        simp only [socksv5CopyArrival, if_pos hleft]
        rfl
      have hfd : (socksv5CopyArrival entry).fdOf x = entry.fdOf x := by
        cases x <;> rfl
      rw [Session.interestOf, hsel, hfd] at hi
      have hne := h.distinct
      cases x with
      | client =>
          rw [eq_of_interestOf_selectorSetInterest hi]
          rfl
      | origin =>
          rw [interestOf_selectorSetInterest_of_ne
            (show entry.fdOf .origin ≠ entry.conn.clientFd from hne.symm)] at hi
          rw [eq_of_interestOf_selectorSetInterest hi]
          rfl
    · right
      intro x
      right
      left
      cases x
      · rfl
      · change (if (bufferReadPtr entry.conn.clientBuffer).2 > 0 then
          FdInterest.opWrite else FdInterest.opRead).read = true
        rw [if_neg hleft]
        rfl

end Progress

/-! ## The delivery of a whole session -/

/-- A COPY session whose calls do not fail closes no direction early and, if it
ends with DONE, has delivered everything, if and only if the counts add up
whenever end-of-file is read. -/
theorem copy_delivers_iff_drained {entry : Session} (hentry : CopyEntry entry)
    {es : List CopyEvent}
    (hadm : Steps copyNext (CopyAdmissible entry) (socksv5CopyArrival entry) es) :
    Steps copyNext (fun s e => CleanShutdown entry s e ∧ DeliveredAtDone entry s e)
        (socksv5CopyArrival entry) es ↔
      Steps copyNext (Drained entry) (socksv5CopyArrival entry) es := by
  have harrival := copyArrival_progress hentry
  constructor
  · intro hproperty
    refine Steps.of_invariant (I := CopyFifo entry) ?_ harrival.fifo (hadm.and hproperty)
    rintro s e hfifo ⟨hs, hclean, -⟩
    refine ⟨(cleanShutdown_iff hfifo hs).mp hclean, ?_⟩
    intro t ht
    have hstep := hfifo.step e
    rw [copyNext_ok_iff.mp ht] at hstep
    exact hstep
  · intro hdrained
    refine Steps.of_invariant (I := CopyProgress entry) ?_ harrival (hadm.and hdrained)
    rintro s e hprogress ⟨hs, hcounts⟩
    refine ⟨⟨(cleanShutdown_iff hprogress.fifo hs).mpr hcounts,
      hprogress.delivered hs hcounts⟩, ?_⟩
    intro t ht
    rw [copyNext_ok_iff] at ht
    have hstep := hprogress.step hs hcounts
    rw [ht] at hstep
    rcases hstep with herror | ⟨hnext, -⟩
    · cases herror
    · exact hnext

/-! ### A session that loses bytes, and one that does not -/

/-- Two connected descriptors registered with the selector, nothing buffered. -/
def connectedPair : Session :=
  let sel : FdSelector FdHandler ℕ :=
    { (default : FdSelector FdHandler ℕ) with fds := List.replicate 6 Item.blank }
  let sel := (selectorRegister sel 4 (some .socks5Handler) .opNoop (some 0) true).1
  let sel := (selectorRegister sel 5 (some .socks5Handler) .opNoop (some 0) true).1
  { (default : Session) with
    sel := sel
    conn :=
      { (default : Socks5) with
        clientFd := 4
        originFd := 5
        clientBuffer := bufferInit 8 fun _ => 0
        originBuffer := bufferInit 8 fun _ => 0 } }

theorem connectedPair_entry : CopyEntry connectedPair where
  distinct := by decide
  settled := fun x => by cases x <;> exact bufferInit_settled _ _
  capacity := fun x => by cases x <;> exact Nat.zero_lt_succ 7

/-- A read that is not told of anything behind an end-of-file. -/
theorem copyAdmissible_read {entry s : Session} {fd : ℤ} {bytes : List UInt8} (x : Side)
    (i : FdInterest) (hfd : fd = entry.fdOf x) (hinterest : s.interestOf fd = some i)
    (hread : i.read = true) (hopen : ¬ Ended entry s x) :
    CopyAdmissible entry s (.read fd (receives bytes)) :=
  ⟨x, i, bytes, hfd, hinterest, hread, rfl, fun hended => absurd hended hopen⟩

/-- The origin's three bytes and its end-of-file are read before the client
takes a byte; then the client closes. -/
def hastyEnd : List CopyEvent :=
  [.read 5 (receives [1, 2, 3]), .read 5 (receives []), .read 4 (receives [])]

/-- The session is an admissible one, and the client is sent nothing. -/
theorem hastyEnd_loses :
    Steps copyNext (CopyAdmissible connectedPair) (socksv5CopyArrival connectedPair) hastyEnd ∧
      ¬ Steps copyNext
        (fun s e => CleanShutdown connectedPair s e ∧ DeliveredAtDone connectedPair s e)
        (socksv5CopyArrival connectedPair) hastyEnd := by
  constructor
  · refine Steps.cons ?_ (copyNext_of_copy (by decide)) (Steps.cons ?_
      (copyNext_of_copy (by decide)) ⟨?_, ?_⟩)
    · exact copyAdmissible_read .origin ⟨true, false⟩ rfl (by decide) rfl (by decide)
    · exact copyAdmissible_read .origin ⟨true, false⟩ rfl (by decide) rfl (by decide)
    · exact copyAdmissible_read .client ⟨true, false⟩ rfl (by decide) rfl (by decide)
    · exact fun _ _ => trivial
  · intro hproperty
    have hlast := (hproperty.2 _ (copyNext_of_copy (by decide))).2 _
      (copyNext_of_copy (by decide))
    have hsent := (hlast.1.2 (by decide) .origin).2
    revert hsent
    decide

/-- The same bytes, with the end-of-file read after the client has taken them. -/
theorem copy_delivers_iff_drained_patient :
    let es : List CopyEvent :=
      [.read 5 (receives [1, 2, 3]), .write 4 (sends 3), .read 5 (receives []),
        .read 4 (receives [])]
    Steps copyNext
        (fun s e => CleanShutdown connectedPair s e ∧ DeliveredAtDone connectedPair s e)
        (socksv5CopyArrival connectedPair) es ↔
      Steps copyNext (Drained connectedPair) (socksv5CopyArrival connectedPair) es := by
  refine copy_delivers_iff_drained connectedPair_entry ?_
  refine Steps.cons ?_ (copyNext_of_copy (by decide)) (Steps.cons ?_
    (copyNext_of_copy (by decide)) (Steps.cons ?_ (copyNext_of_copy (by decide)) ⟨?_, ?_⟩))
  · exact copyAdmissible_read .origin ⟨true, false⟩ rfl (by decide) rfl (by decide)
  · exact ⟨.client, ⟨true, true⟩, 2, rfl, by decide, rfl, rfl⟩
  · exact copyAdmissible_read .origin ⟨true, false⟩ rfl (by decide) rfl (by decide)
  · exact copyAdmissible_read .client ⟨true, false⟩ rfl (by decide) rfl (by decide)
  · exact fun _ _ => trivial

end Socks5Proxy

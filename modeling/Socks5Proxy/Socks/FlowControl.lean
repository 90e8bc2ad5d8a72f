import Socks5Proxy.Socks.HalfClose

/-!
# COPY never stalls

`update_target_interests` computes the interests of both descriptors from the
two buffers; the branches for end-of-file and errors take back the two bits of
one direction.  Once a byte has been moved, every direction that goes on has
the interests its buffer calls for, and one of them is always set.
-/

namespace Socks5Proxy

open Library

/-! ## Directions -/

/-- A call that moved bytes. -/
def Action.Transfers : Action → Prop
  | .recv _ bytes | .send _ bytes => bytes ≠ []
  | _ => False

/-- Nothing was left over for COPY, or a byte has been moved since. -/
def Underway (entry s : Session) : Prop :=
  (∀ x, (entry.buffer x).content = []) ∨ ∃ action ∈ callsSince entry s, action.Transfers

/-- `send` has failed for what comes from `x`. -/
def WriteOver (entry s : Session) (x : Side) : Prop :=
  Action.send (entry.fdOf x.other) [] ∈ callsSince entry s ∨
    Action.sendFailed (entry.fdOf x.other) ∈ callsSince entry s

/-- The direction from `x` has ended, at one end or at the other. -/
def Over (entry s : Session) (x : Side) : Prop := ReadOver entry s x ∨ WriteOver entry s x

/-- The interests for the direction from `x` are those its buffer calls for,
and the selector waits for something. -/
def Flows (s : Session) (x : Side) : Prop :=
  ∃ src dst, s.interestOf (s.fdOf x) = some src ∧ s.interestOf (s.fdOf x.other) = some dst ∧
    (src.read = true ↔ 0 < (s.buffer x).space) ∧
    (dst.write = true ↔ (s.buffer x).content ≠ []) ∧
    (src.read = true ∨ dst.write = true)

/-- The records hold the interests of the selector. -/
def Recorded (s : Session) : Prop :=
  ∀ x, s.interestOf (s.fdOf x) = some (s.copySt x).interests

/-! ## What a callback does, with its interests -/

/-- The ways a callback of COPY ends. -/
inductive CopyShape (s : Session) : Session × SocksV5State → Prop
  | idle : CopyShape s (s, .copy)
  | transfer {x y : Side} {u : Session} {action : Action} {b : Buffer}
      (hmoved : action.Transfers) (heffect : CopyEffect s u [action] y b)
      (hsel : u.sel = s.sel) (hb : b.Settled ∧ b.limit = (s.buffer y).limit) :
      CopyShape s (afterTransfer u x x.other)
  | readEnded {x : Side} {first : Action}
      (hfirst : first = .recv (s.fdOf x) [] ∨ first = .recvFailed (s.fdOf x)) :
      CopyShape s (copyResult (shutWrite (shutRead (s.act first) x) x.other) x x.other)
  | writeEnded {x : Side} {first : Action}
      (hfirst : first = .send (s.fdOf x) [] ∨ first = .sendFailed (s.fdOf x)) :
      CopyShape s (copyResult (shutRead (shutWrite (s.act first) x) x.other) x x.other)

section Shapes

variable {s : Session} {env : Env} {key : SelectorKey}

theorem socksv5CopyRead_shape (env : Env) (key : SelectorKey) (hlinked : CopyLinked s)
    (hbuffers : CopyBuffers s) : CopyShape s (socksv5CopyRead env key s) := by
  generalize hsrc : keySide key s = src
  unfold socksv5CopyRead
  simp only [hsrc, hlinked.otherCopySt, hlinked.buffer, hlinked.fd, Side.other_other]
  rcases bufferCanWrite (s.buffer src) with _ | _
  · exact .idle
  · simp only [Bool.true_eq_false, if_false]
    have hsettled := bufferRecv_settled (hbuffers.settled src) env.recv
    have hlimit := bufferRecv_limit (b := s.buffer src) env.recv
    rcases hrecv : bufferRecv (s.buffer src) env.recv with ⟨_ | ⟨_ | ⟨byte, bytes⟩⟩, b⟩
    · exact .readEnded (.inr rfl)
    · exact .readEnded (.inl rfl)
    · rw [hrecv] at hsettled hlimit
      have hmove := (setBuffer_effect hlinked src b
        (.recv (s.fdOf src) (byte :: bytes))).metrics
        (registerBytesTransferred s.metrics 0 (bytes.length + 1))
      have hmetrics : ((s.setBuffer src b).act (.recv (s.fdOf src) (byte :: bytes))).metrics =
          s.metrics := by
        cases src <;> rfl
      dsimp only
      rw [hmetrics]
      have hmoved : Action.Transfers (.recv (s.fdOf src) (byte :: bytes)) :=
        List.cons_ne_nil _ _
      refine .transfer hmoved hmove ?_ ⟨hsettled, hlimit⟩
      cases src <;> rfl

theorem socksv5CopyWrite_shape (env : Env) (key : SelectorKey) (hlinked : CopyLinked s)
    (hbuffers : CopyBuffers s) : CopyShape s (socksv5CopyWrite env key s) := by
  generalize hdst : keySide key s = dst
  unfold socksv5CopyWrite
  simp only [hdst, hlinked.otherCopySt, hlinked.buffer, hlinked.fd]
  rcases bufferCanRead (s.buffer dst.other) with _ | _
  · exact .idle
  · simp only [Bool.true_eq_false, if_false]
    have hsettled := bufferSend_settled (hbuffers.settled dst.other) env.send
    have hlimit := bufferSend_limit (b := s.buffer dst.other) env.send
    rcases hsend : bufferSend (s.buffer dst.other) env.send with ⟨_ | ⟨_ | ⟨byte, bytes⟩⟩, b⟩
    · exact .writeEnded (.inr rfl)
    · exact .writeEnded (.inl rfl)
    · rw [hsend] at hsettled hlimit
      have hmove := (setBuffer_effect hlinked dst.other b
        (.send (s.fdOf dst) (byte :: bytes))).metrics
        (registerBytesTransferred s.metrics (bytes.length + 1) 0)
      have hmetrics :
          ((s.setBuffer dst.other b).act (.send (s.fdOf dst) (byte :: bytes))).metrics =
            s.metrics := by
        cases dst <;> rfl
      dsimp only
      rw [hmetrics]
      have hmoved : Action.Transfers (.send (s.fdOf dst) (byte :: bytes)) :=
        List.cons_ne_nil _ _
      refine .transfer hmoved hmove ?_ ⟨hsettled, hlimit⟩
      cases dst <;> rfl

theorem copyStep_shape (hlinked : CopyLinked s) (hbuffers : CopyBuffers s) (e : CopyEvent) :
    CopyShape s (copyStep s e) := by
  rcases e with ⟨fd, env⟩ | ⟨fd, env⟩
  · exact socksv5CopyRead_shape env ⟨fd, s.address⟩ hlinked hbuffers
  · exact socksv5CopyWrite_shape env ⟨fd, s.address⟩ hlinked hbuffers

end Shapes

/-! ## The records and the selector -/

section Records

variable {s t : Session} {x : Side} {j : FdInterest}

theorem interestOf_record (hregistered : s.interestOf (s.fdOf x) ≠ none) :
    ((s.setCopyInterests x j).setInterest (s.fdOf x) j).interestOf (s.fdOf x) = some j := by
  have hsel : (s.setCopyInterests x j).sel = s.sel := by cases x <;> rfl
  change (selectorSetInterest (s.setCopyInterests x j).sel _ _).1.interestOf _ = _
  rw [hsel]
  exact interestOf_selectorSetInterest_self hregistered

theorem interestOf_record_of_ne {fd : ℤ} (hne : fd ≠ s.fdOf x) :
    ((s.setCopyInterests x j).setInterest (s.fdOf x) j).interestOf fd = s.interestOf fd := by
  have hsel : (s.setCopyInterests x j).sel = s.sel := by cases x <;> rfl
  change (selectorSetInterest (s.setCopyInterests x j).sel _ _).1.interestOf _ = _
  rw [hsel]
  exact interestOf_selectorSetInterest_of_ne hne

/-- Both are written at once; the other record has to agree already. -/
theorem recorded_record (hne : ∀ y, s.fdOf y ≠ s.fdOf y.other)
    (hregistered : s.interestOf (s.fdOf x) ≠ none)
    (hother : s.interestOf (s.fdOf x.other) = some (s.copySt x.other).interests) :
    Recorded ((s.setCopyInterests x j).setInterest (s.fdOf x) j) := by
  intro y
  have hfd : ((s.setCopyInterests x j).setInterest (s.fdOf x) j).fdOf y = s.fdOf y := by simp
  rw [hfd, copySt_setInterest]
  rcases Side.eq_or_eq_other x y with rfl | rfl
  · rw [interestOf_record hregistered, interests_setCopyInterests_self]
  · rw [interestOf_record_of_ne (hne x).symm,
      interests_setCopyInterests_of_ne (Side.other_ne x), hother]

theorem Recorded.registered (h : Recorded s) (x : Side) : s.interestOf (s.fdOf x) ≠ none := by
  rw [h x]
  exact Option.some_ne_none _

theorem Recorded.act (h : Recorded s) (action : Action) : Recorded (s.act action) := by
  intro x
  rw [fdOf_act, copySt_act]
  exact h x

theorem Recorded.shutRead (h : Recorded s) (hlinked : CopyLinked s)
    (hne : ∀ y, s.fdOf y ≠ s.fdOf y.other) (x : Side) : Recorded (shutRead s x) := by
  have hact := h.act (.shutdown (s.copySt x).fd .rd)
  have hrecord := recorded_record (x := x) (j := (s.copySt x).interests.off .opRead)
    (by simpa using hne) (hact.registered x) (hact x.other)
  have hfd := ((hlinked.act (.shutdown (s.copySt x).fd .rd)).setCopyInterests x
    ((s.copySt x).interests.off .opRead)).fd x
  rw [fdOf_setCopyInterests] at hfd
  rw [← hfd] at hrecord
  simpa [Socks5Proxy.shutRead] using hrecord

theorem Recorded.shutWrite (h : Recorded s) (hlinked : CopyLinked s)
    (hne : ∀ y, s.fdOf y ≠ s.fdOf y.other) (x : Side) : Recorded (shutWrite s x) := by
  have hact := h.act (.shutdown (s.copySt x).fd .wr)
  have hrecord := recorded_record (x := x) (j := (s.copySt x).interests.off .opWrite)
    (by simpa using hne) (hact.registered x) (hact x.other)
  have hfd := ((hlinked.act (.shutdown (s.copySt x).fd .wr)).setCopyInterests x
    ((s.copySt x).interests.off .opWrite)).fd x
  rw [fdOf_setCopyInterests] at hfd
  rw [← hfd] at hrecord
  simpa [Socks5Proxy.shutWrite] using hrecord

/-- Whatever was recorded before, both records are right after an update. -/
theorem updateTargetInterests_recorded (hlinked : CopyLinked s)
    (hne : ∀ y, s.fdOf y ≠ s.fdOf y.other) (hregistered : ∀ y, s.interestOf (s.fdOf y) ≠ none)
    (hsome : updateTargetInterests s x = some t) : Recorded t := by
  rw [updateTargetInterests_eq hlinked hsome]
  generalize hu : (s.setCopyInterests x (s.copyInterest x)).setInterest (s.fdOf x)
    (s.copyInterest x) = u
  have hfd : ∀ y, u.fdOf y = s.fdOf y := by
    intro y
    rw [← hu]
    simp
  have hfirst : u.interestOf (u.fdOf x) = some (u.copySt x).interests := by
    rw [hfd, ← hu, interestOf_record (hregistered x), copySt_setInterest,
      interests_setCopyInterests_self]
  rw [← hfd]
  refine recorded_record ?_ ?_ ?_
  · intro y
    rw [hfd, hfd]
    exact hne y
  · rw [hfd, ← hu, interestOf_record_of_ne (hne x).symm]
    exact hregistered x.other
  · rw [Side.other_other]
    exact hfirst

end Records

/-! ## What holds along a session -/

/-- The records hold the two interests the direction from `x` calls for. -/
def Fits (s : Session) (x : Side) : Prop :=
  (s.copySt x).interests.read = bufferCanWrite (s.buffer x) ∧
    (s.copySt x.other).interests.write = bufferCanRead (s.buffer x)

/-- What is known of a session whose descriptors are both registered. -/
structure CopyFlow (entry s : Session) : Prop where
  fifo : CopyFifo entry s
  buffers : CopyBuffers s
  registered : ∀ x, s.interestOf (s.fdOf x) ≠ none
  flows : Underway entry s → Recorded s ∧ ∀ x, ¬ Over entry s x → Fits s x

section Flow

variable {entry s t : Session} {x : Side} {log : List Action}

theorem CopyFlow.fd_ne (h : CopyFlow entry s) (x : Side) : s.fdOf x ≠ s.fdOf x.other := by
  rw [h.fifo.fdOf, h.fifo.fdOf]
  exact h.fifo.fd_ne x

/-- A settled buffer has room or content, so a direction that fits is waited
for. -/
theorem CopyFlow.flowing (h : CopyFlow entry s) (hrecorded : Recorded s) (hfits : Fits s x) :
    Flows s x := by
  obtain ⟨hread, hwrite⟩ := hfits
  refine ⟨_, _, hrecorded x, hrecorded x.other, ?_, ?_, ?_⟩
  · rw [hread, bufferCanWrite_iff]
  · rw [hwrite, bufferCanRead_iff]
  · rw [hread, hwrite]
    exact h.buffers.room_or_content x

theorem CopyFlow.not_noop (h : CopyFlow entry s) (hfits : Fits s x)
    (hnoop : ∀ y, (s.copySt y).interests = .opNoop) : False := by
  obtain ⟨hread, hwrite⟩ := hfits
  rw [hnoop] at hread hwrite
  rcases h.buffers.room_or_content x with hroom | hcontent
  · rw [hroom] at hread
    cases hread
  · rw [hcontent] at hwrite
    cases hwrite

/-- If COPY is left although bytes have been moved, both directions have ended. -/
theorem CopyFlow.over_of_done (h : CopyFlow entry s) (hunderway : Underway entry s)
    (hdone : copyState s x = .done) (y : Side) : Over entry s y := by
  by_contra hover
  exact h.not_noop ((h.flows hunderway).2 y hover) (copyState_eq_done_iff.mp hdone)

theorem Over.append (h : Over entry s x) (hfifo : CopyFifo entry s)
    (hlog : t.log = s.log ++ log) : Over entry t x := by
  unfold Over ReadOver WriteOver at h ⊢
  rw [callsSince_append hfifo hlog]
  simp only [List.mem_append]
  tauto

theorem underway_append_iff (hfifo : CopyFifo entry s) (hlog : t.log = s.log ++ log)
    (hquiet : ∀ action ∈ log, ¬ action.Transfers) : Underway entry t ↔ Underway entry s := by
  unfold Underway
  rw [callsSince_append hfifo hlog]
  refine or_congr Iff.rfl ⟨?_, ?_⟩
  · rintro ⟨action, haction, hmoved⟩
    rcases List.mem_append.mp haction with hold | hnew
    · exact ⟨action, hold, hmoved⟩
    · exact absurd hmoved (hquiet action hnew)
  · rintro ⟨action, haction, hmoved⟩
    exact ⟨action, List.mem_append_left _ haction, hmoved⟩

/-- The end of the direction from `x` takes its two bits; those of the other
direction stay. -/
theorem CopyFlow.ended (h : CopyFlow entry s) {side : Side} (hfifo : CopyFifo entry t)
    (heffect : CopyEffect s t log side (s.buffer side))
    (hquiet : ∀ action ∈ log, ¬ action.Transfers) (hover : Over entry t x)
    (hsame : SameRegistered s t) (hrecorded : Recorded s → Recorded t)
    (hsrc : (t.copySt x).interests = (s.copySt x).interests.off .opRead)
    (hdst : (t.copySt x.other).interests = (s.copySt x.other).interests.off .opWrite) :
    CopyFlow entry t := by
  have hbuffer : ∀ y, t.buffer y = s.buffer y := by
    intro y
    rcases Side.eq_or_eq_other side y with rfl | rfl
    · exact heffect.buffer
    · exact heffect.otherBuffer
  refine ⟨hfifo, ?_, ?_, ?_⟩
  · exact h.buffers.of_effect heffect (h.buffers.settled side) rfl
  · intro y hy
    rw [heffect.fdOf] at hy
    exact h.registered y ((hsame _).mp hy)
  · intro hunderway
    obtain ⟨hrec, hfits⟩ := h.flows ((underway_append_iff h.fifo heffect.log hquiet).mp hunderway)
    refine ⟨hrecorded hrec, fun y hopen => ?_⟩
    rcases Side.eq_or_eq_other x y with rfl | rfl
    · exact absurd hover hopen
    · obtain ⟨hread, hwrite⟩ :=
        hfits x.other fun hold => hopen (hold.append h.fifo heffect.log)
      rw [Side.other_other] at hwrite
      constructor
      · rw [hdst, hbuffer, ← hread, FdInterest.off]
        simp [FdInterest.opWrite]
      · rw [Side.other_other, hsrc, hbuffer, ← hwrite, FdInterest.off]
        simp [FdInterest.opRead]

/-- A transfer sets all four bits anew, and leaves COPY open. -/
theorem CopyFlow.transferred (h : CopyFlow entry s) {y : Side} {u : Session} {action : Action}
    {b : Buffer} (hfifo : CopyFifo entry (afterTransfer u x x.other).1)
    (heffect : CopyEffect s u [action] y b) (hsel : u.sel = s.sel)
    (hb : b.Settled ∧ b.limit = (s.buffer y).limit) :
    CopyFlow entry (afterTransfer u x x.other).1 ∧ (afterTransfer u x x.other).2 = .copy := by
  have hregistered : ∀ z, u.interestOf (u.fdOf z) ≠ none := by
    intro z
    rw [Session.interestOf, hsel, heffect.fdOf]
    exact h.registered z
  have hne : ∀ z, u.fdOf z ≠ u.fdOf z.other := by
    intro z
    rw [heffect.fdOf, heffect.fdOf]
    exact h.fd_ne z
  obtain ⟨t, hupdate⟩ : ∃ t, updateTargetInterests u x = some t := by
    rw [← Option.ne_none_iff_exists']
    intro hnone
    obtain ⟨z, hz⟩ := (updateTargetInterests_none_iff heffect.linked).mp hnone
    exact hregistered z hz
  have hend : afterTransfer u x x.other = copyResult t x x.other := by
    rw [afterTransfer, hupdate]
  obtain ⟨hstill, hinterests⟩ := updateTargetInterests_some heffect.linked y hupdate
  have hrecorded := updateTargetInterests_recorded heffect.linked hne hregistered hupdate
  have hbuffers : CopyBuffers t := by
    have hmoved : CopyBuffers u := h.buffers.of_effect heffect hb.1 hb.2
    exact hmoved.of_effect hstill (hmoved.settled y) rfl
  rw [hend, copyResult_fst] at hfifo
  rw [hend, copyResult_fst]
  refine ⟨⟨hfifo, hbuffers, hrecorded.registered, fun _ => ⟨hrecorded, fun z _ => ?_⟩⟩,
    copyState_of_copyInterest hbuffers hinterests⟩
  rw [Fits, hinterests, hinterests, Session.copyInterest, Session.copyInterest, Side.other_other]
  exact ⟨rfl, rfl⟩

theorem CopyFlow.readEnded (h : CopyFlow entry s) {first : Action}
    (hfirst : first = .recv (s.fdOf x) [] ∨ first = .recvFailed (s.fdOf x))
    (hfifo : CopyFifo entry (shutWrite (shutRead (s.act first) x) x.other)) :
    CopyFlow entry (shutWrite (shutRead (s.act first) x) x.other) := by
  have hlinked := h.fifo.linked.act first
  have hne : ∀ y, (s.act first).fdOf y ≠ (s.act first).fdOf y.other := by
    intro y
    rw [fdOf_act, fdOf_act]
    exact h.fd_ne y
  have hread := shutRead_effect hlinked x x
  have hne' : ∀ y, (shutRead (s.act first) x).fdOf y ≠ (shutRead (s.act first) x).fdOf y.other := by
    intro y
    rw [hread.fdOf, hread.fdOf]
    exact hne y
  obtain ⟨heffect, hsrc, hdst⟩ := shutReadWrite_effect h.fifo.linked x x first
  have hact : SameRegistered s (s.act first) := SameRegistered.of_sel rfl
  refine h.ended hfifo heffect ?_ ?_
    (hact.trans (shutRead_sameRegistered.trans shutWrite_sameRegistered)) ?_ hsrc hdst
  · rcases hfirst with rfl | rfl <;> simp [Action.Transfers]
  · left
    rw [ReadOver, callsSince_append h.fifo heffect.log, ← h.fifo.fdOf]
    rcases hfirst with rfl | rfl <;> simp
  · intro hrecorded
    exact ((hrecorded.act first).shutRead hlinked hne x).shutWrite hread.linked hne' x.other

theorem CopyFlow.writeEnded (h : CopyFlow entry s) {first : Action}
    (hfirst : first = .send (s.fdOf x) [] ∨ first = .sendFailed (s.fdOf x))
    (hfifo : CopyFifo entry (shutRead (shutWrite (s.act first) x) x.other)) :
    CopyFlow entry (shutRead (shutWrite (s.act first) x) x.other) := by
  have hlinked := h.fifo.linked.act first
  have hne : ∀ y, (s.act first).fdOf y ≠ (s.act first).fdOf y.other := by
    intro y
    rw [fdOf_act, fdOf_act]
    exact h.fd_ne y
  have hwrite := shutWrite_effect hlinked x x
  have hne' : ∀ y, (shutWrite (s.act first) x).fdOf y ≠
      (shutWrite (s.act first) x).fdOf y.other := by
    intro y
    rw [hwrite.fdOf, hwrite.fdOf]
    exact hne y
  obtain ⟨heffect, hdst, hsrc⟩ := shutWriteRead_effect h.fifo.linked x x.other first
  have hact : SameRegistered s (s.act first) := SameRegistered.of_sel rfl
  refine h.ended (x := x.other) hfifo heffect ?_ ?_
    (hact.trans (shutWrite_sameRegistered.trans shutRead_sameRegistered)) ?_ hsrc ?_
  · rcases hfirst with rfl | rfl <;> simp [Action.Transfers]
  · right
    rw [WriteOver, callsSince_append h.fifo heffect.log, Side.other_other, ← h.fifo.fdOf]
    rcases hfirst with rfl | rfl <;> simp
  · intro hrecorded
    exact ((hrecorded.act first).shutWrite hlinked hne x).shutRead hwrite.linked hne' x.other
  · rw [Side.other_other]
    exact hdst

/-- One handler, for whichever descriptor and whatever the kernel answers. -/
theorem CopyFlow.step (h : CopyFlow entry s) (e : CopyEvent) :
    CopyFlow entry (copyStep s e).1 ∧
      (Underway entry (copyStep s e).1 → (copyStep s e).2 = .done →
        ∀ y, Over entry (copyStep s e).1 y) := by
  have hfifo := h.fifo.step e
  have hshape := copyStep_shape h.fifo.linked h.buffers e
  generalize copyStep s e = r at hfifo hshape ⊢
  rcases hshape with _ | ⟨-, heffect, hsel, hb⟩ | hfirst | hfirst
  · exact ⟨h, fun _ hdone => absurd hdone (by simp)⟩
  · obtain ⟨hflow, hcopy⟩ := h.transferred hfifo heffect hsel hb
    refine ⟨hflow, fun _ hdone => ?_⟩
    rw [hcopy] at hdone
    cases hdone
  · rw [copyResult_fst] at hfifo ⊢
    have hflow := h.readEnded hfirst hfifo
    exact ⟨hflow, fun hunderway hdone => hflow.over_of_done hunderway hdone⟩
  · rw [copyResult_fst] at hfifo ⊢
    have hflow := h.writeEnded hfirst hfifo
    exact ⟨hflow, fun hunderway hdone => hflow.over_of_done hunderway hdone⟩

/-- Without a leftover both descriptors are read, and neither is written to. -/
theorem copyArrival_interests (hempty : ∀ y, (entry.buffer y).content = []) (y : Side) :
    ((socksv5CopyArrival entry).copySt y).interests = .opRead := by
  have hleft : (bufferReadPtr entry.conn.clientBuffer).2 = 0 := by
    rw [bufferReadPtr_snd, show entry.conn.clientBuffer.content = [] from hempty .client,
      List.length_nil]
  rcases y with _ | _
  · rfl
  · change (if (bufferReadPtr entry.conn.clientBuffer).2 > 0 then FdInterest.opWrite
      else .opRead) = _
    rw [hleft, if_neg (Nat.lt_irrefl 0)]

theorem copyArrival_recorded (hdistinct : entry.conn.clientFd ≠ entry.conn.originFd)
    (hregistered : ∀ y, entry.interestOf (entry.fdOf y) ≠ none)
    (hempty : ∀ y, (entry.buffer y).content = []) : Recorded (socksv5CopyArrival entry) := by
  have hleft : (bufferReadPtr entry.conn.clientBuffer).2 = 0 := by
    rw [bufferReadPtr_snd, show entry.conn.clientBuffer.content = [] from hempty .client,
      List.length_nil]
  have hsel : (socksv5CopyArrival entry).sel =
      (selectorSetInterest (selectorSetInterest entry.sel entry.conn.originFd .opRead).1
        entry.conn.clientFd .opRead).1 := by
    simp only [socksv5CopyArrival, hleft, gt_iff_lt, Nat.lt_irrefl, if_false]
    rfl
  have hclient : entry.sel.interestOf entry.conn.clientFd ≠ none := hregistered .client
  have horigin : entry.sel.interestOf entry.conn.originFd ≠ none := hregistered .origin
  intro y
  rw [copyArrival_interests hempty, Session.interestOf, hsel]
  rcases y with _ | _
  · change (selectorSetInterest _ entry.conn.clientFd _).1.interestOf entry.conn.clientFd = _
    apply interestOf_selectorSetInterest_self
    rw [interestOf_selectorSetInterest_of_ne hdistinct]
    exact hclient
  · change (selectorSetInterest _ entry.conn.clientFd _).1.interestOf entry.conn.originFd = _
    rw [interestOf_selectorSetInterest_of_ne hdistinct.symm]
    exact interestOf_selectorSetInterest_self horigin

/-- Without a leftover the first interests fit; with one, nothing has been
moved yet. -/
theorem socksv5CopyArrival_flow (hentry : CopyEntry entry)
    (hregistered : ∀ y, entry.interestOf (entry.fdOf y) ≠ none) :
    CopyFlow entry (socksv5CopyArrival entry) where
  fifo := socksv5CopyArrival_fifo hentry.distinct
  buffers := (copyArrival_progress hentry).buffers
  registered := by
    intro y hy
    have hsame : SameRegistered entry (socksv5CopyArrival entry) :=
      SameRegistered.trans (SameRegistered.of_sel rfl)
        (sameRegistered_setInterest.trans sameRegistered_setInterest)
    rw [(socksv5CopyArrival_fifo hentry.distinct).fdOf] at hy
    exact hregistered y ((hsame _).mp hy)
  flows := by
    rintro (hempty | ⟨action, haction, -⟩)
    · have hboth := copyArrival_interests hempty
      refine ⟨copyArrival_recorded hentry.distinct hregistered hempty, fun y _ => ?_⟩
      have hbuffer : (socksv5CopyArrival entry).buffer y = entry.buffer y := by cases y <;> rfl
      have hroom : 0 < (entry.buffer y).space := by
        rw [hentry.settled y (hempty y)]
        exact hentry.capacity y
      rw [Fits, hboth, hboth, hbuffer, bufferCanWrite_iff.mpr hroom]
      refine ⟨rfl, Eq.symm (Bool.eq_false_iff.mpr ?_)⟩
      rw [Ne, bufferCanRead_iff]
      exact not_not.mpr (hempty y)
    · rw [callsSince, show (socksv5CopyArrival entry).log = entry.log from rfl,
        List.drop_length] at haction
      cases haction

end Flow

/-! ## Whole sessions -/

/-- Every direction that goes on is waited for, and the records agree with the
selector. -/
def FlowControlled (entry s : Session) : Prop :=
  Recorded s ∧ ∀ x, ¬ Over entry s x → Flows s x

theorem CopyFlow.controlled {entry s : Session} (h : CopyFlow entry s)
    (hunderway : Underway entry s) : FlowControlled entry s := by
  obtain ⟨hrecorded, hfits⟩ := h.flows hunderway
  exact ⟨hrecorded, fun x hopen => h.flowing hrecorded (hfits x hopen)⟩

/-- After any handlers, and after one more, whichever state it returns. -/
theorem flow_controlled {entry t : Session} {es : List CopyEvent} (hentry : CopyEntry entry)
    (hregistered : ∀ x, entry.interestOf (entry.fdOf x) ≠ none)
    (hrun : run copyNext (socksv5CopyArrival entry) es = .ok t) :
    (Underway entry t → FlowControlled entry t) ∧
      ∀ e, Underway entry (copyStep t e).1 →
        FlowControlled entry (copyStep t e).1 ∧
          ((copyStep t e).2 = .done → ∀ x, Over entry (copyStep t e).1 x) := by
  have hflow : CopyFlow entry t := by
    refine run_invariant (I := CopyFlow entry) (P := fun _ _ => True) ?_
      (socksv5CopyArrival_flow hentry hregistered) (Steps.of_forall (fun _ _ => trivial) _ _) hrun
    intro s e u hs _ hstep
    have hnext := (hs.step e).1
    rw [copyNext_ok_iff.mp hstep] at hnext
    exact hnext
  refine ⟨hflow.controlled, fun e hunderway => ?_⟩
  obtain ⟨hnext, hdone⟩ := hflow.step e
  exact ⟨hnext.controlled hunderway, hdone hunderway⟩

/-- A pair with two bytes left over for the origin. -/
def leftoverPair : Session :=
  { connectedPair with
    conn.clientBuffer := bufferWriteAll connectedPair.conn.clientBuffer [1, 2] }

/-- The origin takes a byte of the leftover; the client sends end-of-file. -/
def leftoverSent : List CopyEvent := [.write 5 (sends 1), .read 4 (receives [])]

theorem leftoverPair_entry : CopyEntry leftoverPair where
  distinct := by decide
  settled := by
    rintro (_ | _)
    · exact fun hempty => absurd hempty (by decide)
    · exact bufferInit_settled _ _
  capacity := by
    rintro (_ | _) <;> decide

theorem leftoverSent_run :
    run copyNext (socksv5CopyArrival leftoverPair) leftoverSent =
      .ok (copyRun (socksv5CopyArrival leftoverPair) leftoverSent) :=
  run_cons_ok_iff.mpr ⟨_, copyNext_of_copy (by decide),
    run_cons_ok_iff.mpr ⟨_, copyNext_of_copy (by decide), rfl⟩⟩

theorem flow_controlled_leftover :
    FlowControlled leftoverPair (copyRun (socksv5CopyArrival leftoverPair) leftoverSent) := by
  have hregistered : ∀ x, leftoverPair.interestOf (leftoverPair.fdOf x) ≠ none := by
    rintro (_ | _) <;> decide
  refine (flow_controlled leftoverPair_entry hregistered leftoverSent_run).1 (.inr ?_)
  exact ⟨.send 5 [1], by decide, List.cons_ne_nil _ _⟩

end Socks5Proxy

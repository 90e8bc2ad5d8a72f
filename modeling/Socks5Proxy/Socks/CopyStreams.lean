import Socks5Proxy.Socks.Copy
import Socks5Proxy.Socks.Trace
import Socks5Proxy.Library.Run

/-!
# COPY as two byte streams

After `socksv5_copy_arrival` the two `CopySt` records are linked in a fixed
way, which no callback changes: the record of a descriptor points to the other
record and holds the buffer that the other descriptor is read into.  Under
`CopyLinked` each callback moves bytes between one descriptor and one buffer,
and what was sent, followed by what is buffered, stays what came in.
-/

namespace Socks5Proxy

open Library

/-! ## The two sides -/

def Side.other : Side → Side
  | .client => .origin
  | .origin => .client

@[simp] theorem Side.other_other (side : Side) : side.other.other = side := by
  cases side <;> rfl

@[simp] theorem Side.other_ne (side : Side) : side.other ≠ side := by
  cases side <;> simp [Side.other]

theorem Side.eq_or_eq_other (side side' : Side) : side' = side ∨ side' = side.other := by
  cases side <;> cases side' <;> simp [Side.other]

def Session.fdOf (s : Session) : Side → ℤ
  | .client => s.conn.clientFd
  | .origin => s.conn.originFd

/-- The links `socksv5_copy_arrival` sets up. -/
structure CopyLinked (s : Session) : Prop where
  fd : ∀ side, (s.copySt side).fd = s.fdOf side
  buffer : ∀ side, (s.copySt side).buffer = side.other
  otherCopySt : ∀ side, (s.copySt side).otherCopySt = side.other

/-! ## What the small operations leave alone -/

section Frame

variable {s : Session} {side side' : Side} {i : FdInterest} {b : Buffer} {fd : ℤ}
  {action : Action}

@[simp] theorem copySt_act : (s.act action).copySt side = s.copySt side := by
  cases side <;> rfl

@[simp] theorem fdOf_act : (s.act action).fdOf side = s.fdOf side := by
  cases side <;> rfl

@[simp] theorem buffer_act : (s.act action).buffer side = s.buffer side := by
  cases side <;> rfl

@[simp] theorem log_act : (s.act action).log = s.log ++ [action] := rfl

@[simp] theorem copySt_setInterest : (s.setInterest fd i).copySt side = s.copySt side := by
  cases side <;> rfl

@[simp] theorem fdOf_setInterest : (s.setInterest fd i).fdOf side = s.fdOf side := by
  cases side <;> rfl

@[simp] theorem buffer_setInterest : (s.setInterest fd i).buffer side = s.buffer side := by
  cases side <;> rfl

@[simp] theorem log_setInterest : (s.setInterest fd i).log = s.log := rfl

@[simp] theorem copySt_setBuffer : (s.setBuffer side' b).copySt side = s.copySt side := by
  cases side <;> cases side' <;> rfl

@[simp] theorem fdOf_setBuffer : (s.setBuffer side' b).fdOf side = s.fdOf side := by
  cases side <;> cases side' <;> rfl

@[simp] theorem buffer_setBuffer_self : (s.setBuffer side b).buffer side = b := by
  cases side <;> rfl

@[simp] theorem buffer_setBuffer_of_ne (h : side ≠ side') :
    (s.setBuffer side' b).buffer side = s.buffer side := by
  cases side <;> cases side' <;> first | rfl | exact absurd rfl h

@[simp] theorem log_setBuffer : (s.setBuffer side b).log = s.log := by
  cases side <;> rfl

@[simp] theorem fdOf_setCopyInterests :
    (s.setCopyInterests side' i).fdOf side = s.fdOf side := by
  cases side <;> cases side' <;> rfl

@[simp] theorem buffer_setCopyInterests :
    (s.setCopyInterests side' i).buffer side = s.buffer side := by
  cases side <;> cases side' <;> rfl

@[simp] theorem log_setCopyInterests : (s.setCopyInterests side i).log = s.log := by
  cases side <;> rfl

@[simp] theorem interests_setCopyInterests_self :
    ((s.setCopyInterests side i).copySt side).interests = i := by
  cases side <;> rfl

@[simp] theorem interests_setCopyInterests_of_ne (h : side ≠ side') :
    ((s.setCopyInterests side' i).copySt side).interests = (s.copySt side).interests := by
  cases side <;> cases side' <;> first | rfl | exact absurd rfl h

end Frame

/-! ## What one callback does -/

/-- From `s` to `t` the calls in `log` were made, the buffer `side` became `b`,
and nothing else of the two streams changed. -/
structure CopyEffect (s t : Session) (log : List Action) (side : Side) (b : Buffer) : Prop where
  linked : CopyLinked t
  fdOf : ∀ x, t.fdOf x = s.fdOf x
  log : t.log = s.log ++ log
  buffer : t.buffer side = b
  otherBuffer : t.buffer side.other = s.buffer side.other

section Effects

variable {s t u : Session} {side : Side} {b : Buffer} {log : List Action}

theorem CopyLinked.setCopyInterests (h : CopyLinked s) (side : Side) (i : FdInterest) :
    CopyLinked (s.setCopyInterests side i) := by
  obtain ⟨hfd, hbuffer, hother⟩ := h
  constructor <;> intro x <;> have hf := hfd x <;> have hb := hbuffer x <;>
    have ho := hother x <;> cases x <;> cases side <;> assumption

theorem CopyLinked.setInterest (h : CopyLinked s) (fd : ℤ) (i : FdInterest) :
    CopyLinked (s.setInterest fd i) where
  fd := by simpa using h.fd
  buffer := by simpa using h.buffer
  otherCopySt := by simpa using h.otherCopySt

theorem CopyLinked.act (h : CopyLinked s) (action : Action) : CopyLinked (s.act action) where
  fd := by simpa using h.fd
  buffer := by simpa using h.buffer
  otherCopySt := by simpa using h.otherCopySt

theorem CopyLinked.setBuffer (h : CopyLinked s) : CopyLinked (s.setBuffer side b) where
  fd := by simpa using h.fd
  buffer := by simpa using h.buffer
  otherCopySt := by simpa using h.otherCopySt

theorem CopyEffect.refl (h : CopyLinked s) (side : Side) :
    CopyEffect s s [] side (s.buffer side) where
  linked := h
  fdOf := fun _ => rfl
  log := (List.append_nil _).symm
  buffer := rfl
  otherBuffer := rfl

/-- The streams do not depend on the selector. -/
theorem CopyEffect.of_sel (h : CopyLinked s) (side : Side) (sel : FdSelector FdHandler ℕ) :
    CopyEffect s { s with sel := sel } [] side (s.buffer side) := by
  refine ⟨⟨?_, ?_, ?_⟩, ?_, (List.append_nil _).symm, ?_, ?_⟩
  · intro x
    have := h.fd x
    cases x <;> exact this
  · intro x
    have := h.buffer x
    cases x <;> exact this
  · intro x
    have := h.otherCopySt x
    cases x <;> exact this
  · intro x
    cases x <;> rfl
  · cases side <;> rfl
  · cases side <;> rfl

/-- The interest that fits the two buffers. -/
def Session.copyInterest (s : Session) (x : Side) : FdInterest :=
  ⟨bufferCanWrite (s.buffer x), bufferCanRead (s.buffer x.other)⟩

/-- `update_target_interests`, read through the links. -/
theorem updateTargetInterests_linked (h : CopyLinked s) (target : Side) :
    updateTargetInterests s target =
      match selectorSetInterest s.sel (s.fdOf target) (s.copyInterest target) with
      | (sel, .success) =>
        match selectorSetInterest sel (s.fdOf target.other) (s.copyInterest target.other) with
        | (sel, .success) =>
          some ((({ s with sel := sel }).setCopyInterests target
            (s.copyInterest target)).setCopyInterests target.other
              (s.copyInterest target.other))
        | _ => none
      | _ => none := by
  have hupdate := updateTargetInterests.eq_1 s target
  simp only [h.otherCopySt, h.buffer, h.fd, Side.other_other] at hupdate
  simp only [Session.copyInterest, Side.other_other]
  exact hupdate

/-- When it succeeds, `update_target_interests` records the fitting interests
and leaves the streams alone. -/
theorem updateTargetInterests_some (h : CopyLinked s) (side : Side) {target : Side}
    (hsome : updateTargetInterests s target = some t) :
    CopyEffect s t [] side (s.buffer side) ∧
      ∀ x, (t.copySt x).interests = t.copyInterest x := by
  rw [updateTargetInterests_linked h] at hsome
  split at hsome
  · split at hsome
    · next sel' _ =>
        cases hsome
        have hlinked := (CopyEffect.of_sel h side sel').linked
        refine ⟨⟨(hlinked.setCopyInterests _ _).setCopyInterests _ _, ?_, ?_, ?_, ?_⟩, ?_⟩
        · intro x
          simp only [fdOf_setCopyInterests]
          cases x <;> rfl
        · simp
        · simp only [buffer_setCopyInterests]
          cases side <;> rfl
        · simp only [buffer_setCopyInterests]
          cases side <;> rfl
        · intro x
          rcases Side.eq_or_eq_other target x with rfl | rfl
          · rw [interests_setCopyInterests_of_ne (Side.other_ne _).symm,
              interests_setCopyInterests_self]
            simp only [Session.copyInterest, buffer_setCopyInterests]
            cases x <;> rfl
          · rw [interests_setCopyInterests_self]
            simp only [Session.copyInterest, buffer_setCopyInterests]
            cases target <;> rfl
    · exact absurd hsome (by simp)
  · exact absurd hsome (by simp)

/-- When it fails, it has touched the selector only. -/
theorem updateTargetInterestsFailed_effect (h : CopyLinked s) (target : Side) :
    CopyEffect s (updateTargetInterestsFailed s target) [] side (s.buffer side) := by
  have hsel : ∃ sel, updateTargetInterestsFailed s target = { s with sel := sel } := by
    unfold updateTargetInterestsFailed
    dsimp only
    split <;> exact ⟨_, rfl⟩
  obtain ⟨sel, hsel⟩ := hsel
  rw [hsel]
  exact CopyEffect.of_sel h _ sel

/-- Ending a direction: one `shutdown`, and one interest taken back. -/
theorem shutRead_effect (h : CopyLinked s) (side x : Side) :
    CopyEffect s (shutRead s x) [.shutdown (s.fdOf x) .rd] side (s.buffer side) := by
  refine ⟨((h.act _).setCopyInterests _ _).setInterest _ _, ?_, ?_, ?_, ?_⟩
  all_goals simp [shutRead, h.fd]

theorem shutWrite_effect (h : CopyLinked s) (side x : Side) :
    CopyEffect s (shutWrite s x) [.shutdown (s.fdOf x) .wr] side (s.buffer side) := by
  refine ⟨((h.act _).setCopyInterests _ _).setInterest _ _, ?_, ?_, ?_, ?_⟩
  all_goals simp [shutWrite, h.fd]

theorem CopyEffect.act (h : CopyEffect s t log side b) (action : Action) :
    CopyEffect s (t.act action) (log ++ [action]) side b where
  linked := h.linked.act action
  fdOf := by simpa using h.fdOf
  log := by simp [h.log]
  buffer := by simpa using h.buffer
  otherBuffer := by simpa using h.otherBuffer

theorem CopyEffect.trans {log' : List Action} (h : CopyEffect s t log side b)
    (h' : CopyEffect t u log' side (t.buffer side)) :
    CopyEffect s u (log ++ log') side b where
  linked := h'.linked
  fdOf := fun x => (h'.fdOf x).trans (h.fdOf x)
  log := by rw [h'.log, h.log, List.append_assoc]
  buffer := h'.buffer.trans h.buffer
  otherBuffer := h'.otherBuffer.trans h.otherBuffer

end Effects

/-! ## The cases of the two callbacks -/

/-- The state the callbacks of COPY return once the interests are settled. -/
def copyState (s : Session) (x : Side) : SocksV5State := (copyResult s x x.other).2

theorem copyState_eq_done_iff {s : Session} {x : Side} :
    copyState s x = .done ↔ ∀ y, (s.copySt y).interests = .opNoop := by
  have hcases : ∀ a b : FdInterest, a.union b = .opNoop ↔ a = .opNoop ∧ b = .opNoop := by
    rintro ⟨ar, aw⟩ ⟨br, bw⟩
    cases ar <;> cases aw <;> cases br <;> cases bw <;>
      simp [FdInterest.union, FdInterest.opNoop]
  unfold copyState copyResult
  by_cases h : (s.copySt x).interests.union (s.copySt x.other).interests = .opNoop
  · simp only [h, if_true, true_iff]
    intro y
    rcases Side.eq_or_eq_other x y with rfl | rfl
    · exact ((hcases _ _).mp h).1
    · exact ((hcases _ _).mp h).2
  · simp only [h, if_false, reduceCtorEq, false_iff]
    intro hall
    exact h ((hcases _ _).mpr ⟨hall _, hall _⟩)

theorem copyResult_fst (s : Session) (x y : Side) : (copyResult s x y).1 = s := by
  unfold copyResult
  split <;> rfl

/-- What `socksv5_copy_read` can do for the descriptor of `src`. -/
inductive CopyReadCase (env : Env) (s : Session) (src : Side) :
    Session → SocksV5State → Prop
  | full (hfull : bufferCanWrite (s.buffer src) = false) : CopyReadCase env s src s .copy
  | moved {bytes : List UInt8} {b : Buffer} {t : Session} {st : SocksV5State}
      (hspace : bufferCanWrite (s.buffer src) = true)
      (hrecv : bufferRecv (s.buffer src) env.recv = (some bytes, b)) (hne : bytes ≠ [])
      (heffect : CopyEffect s t [.recv (s.fdOf src) bytes] src b)
      (hst : st = .error ∨
        (∀ x, (t.copySt x).interests = t.copyInterest x) ∧ st = copyState t src) :
      CopyReadCase env s src t st
  | ended {first : Action} {t : Session} {st : SocksV5State}
      (hspace : bufferCanWrite (s.buffer src) = true)
      (hfirst : env.recv = none ∧ first = .recvFailed (s.fdOf src) ∨
        env.recv = some [] ∧ first = .recv (s.fdOf src) [])
      (heffect : CopyEffect s t
        [first, .shutdown (s.fdOf src) .rd, .shutdown (s.fdOf src.other) .wr] src
        (s.buffer src))
      (hsrc : (t.copySt src).interests = (s.copySt src).interests.off .opRead)
      (hdst : (t.copySt src.other).interests =
        (s.copySt src.other).interests.off .opWrite)
      (hst : st = copyState t src) :
      CopyReadCase env s src t st

/-- What `socksv5_copy_write` can do for the descriptor of `dst`. -/
inductive CopyWriteCase (env : Env) (s : Session) (dst : Side) :
    Session → SocksV5State → Prop
  | empty (hempty : bufferCanRead (s.buffer dst.other) = false) :
      CopyWriteCase env s dst s .copy
  | moved {bytes : List UInt8} {b : Buffer} {t : Session} {st : SocksV5State}
      (hcontent : bufferCanRead (s.buffer dst.other) = true)
      (hsend : bufferSend (s.buffer dst.other) env.send = (some bytes, b)) (hne : bytes ≠ [])
      (heffect : CopyEffect s t [.send (s.fdOf dst) bytes] dst.other b)
      (hst : st = .error ∨
        (∀ x, (t.copySt x).interests = t.copyInterest x) ∧ st = copyState t dst) :
      CopyWriteCase env s dst t st
  | ended {first : Action} {t : Session} {st : SocksV5State}
      (hcontent : bufferCanRead (s.buffer dst.other) = true)
      (hfirst : env.send = none ∧ first = .sendFailed (s.fdOf dst) ∨
        env.send = some 0 ∧ first = .send (s.fdOf dst) [])
      (heffect : CopyEffect s t
        [first, .shutdown (s.fdOf dst) .wr, .shutdown (s.fdOf dst.other) .rd] dst.other
        (s.buffer dst.other))
      (hdst : (t.copySt dst).interests = (s.copySt dst).interests.off .opWrite)
      (hother : (t.copySt dst.other).interests =
        (s.copySt dst.other).interests.off .opRead)
      (hst : st = copyState t dst) :
      CopyWriteCase env s dst t st

section Cases

variable {s : Session} {env : Env} {key : SelectorKey}

/-- The common end of a transfer: the bytes are in place, and the interests
follow the buffers unless the selector refuses. -/
theorem afterTransfer_result (h : CopyLinked s) (x side : Side) :
    ∃ t st, afterTransfer s x x.other = (t, st) ∧
      CopyEffect s t [] side (s.buffer side) ∧
      (st = .error ∨
        (∀ y, (t.copySt y).interests = t.copyInterest y) ∧ st = copyState t x) := by
  unfold afterTransfer
  cases hupdate : updateTargetInterests s x with
  | none =>
      exact ⟨_, _, rfl, updateTargetInterestsFailed_effect h x, .inl rfl⟩
  | some t =>
      obtain ⟨heffect, hinterests⟩ := updateTargetInterests_some h side hupdate
      exact ⟨t, copyState t x, Prod.ext (copyResult_fst _ _ _) rfl, heffect,
        .inr ⟨hinterests, rfl⟩⟩

/-- `shutdown` for reading on one side, then for writing on the other. -/
theorem shutReadWrite_effect (h : CopyLinked s) (x side : Side) (first : Action) :
    let t := shutWrite (shutRead (s.act first) x) x.other
    CopyEffect s t
        [first, .shutdown (s.fdOf x) .rd, .shutdown (s.fdOf x.other) .wr] side
        (s.buffer side) ∧
      (t.copySt x).interests = (s.copySt x).interests.off .opRead ∧
      (t.copySt x.other).interests = (s.copySt x.other).interests.off .opWrite := by
  have hfirst := (CopyEffect.refl h side).act first
  have hread := shutRead_effect hfirst.linked side x
  have hwrite := shutWrite_effect hread.linked side x.other
  have hne : x ≠ x.other := (Side.other_ne x).symm
  refine ⟨?_, ?_, ?_⟩
  · have heffect := (hfirst.trans hread).trans hwrite
    rw [hread.fdOf, hfirst.fdOf, hfirst.fdOf] at heffect
    simpa using heffect
  · simp [shutWrite, shutRead, hne]
  · simp [shutWrite, shutRead]

/-- `shutdown` for writing on one side, then for reading on the other. -/
theorem shutWriteRead_effect (h : CopyLinked s) (x side : Side) (first : Action) :
    let t := shutRead (shutWrite (s.act first) x) x.other
    CopyEffect s t
        [first, .shutdown (s.fdOf x) .wr, .shutdown (s.fdOf x.other) .rd] side
        (s.buffer side) ∧
      (t.copySt x).interests = (s.copySt x).interests.off .opWrite ∧
      (t.copySt x.other).interests = (s.copySt x.other).interests.off .opRead := by
  have hfirst := (CopyEffect.refl h side).act first
  have hwrite := shutWrite_effect hfirst.linked side x
  have hread := shutRead_effect hwrite.linked side x.other
  have hne : x ≠ x.other := (Side.other_ne x).symm
  refine ⟨?_, ?_, ?_⟩
  · have heffect := (hfirst.trans hwrite).trans hread
    rw [hwrite.fdOf, hfirst.fdOf, hfirst.fdOf] at heffect
    simpa using heffect
  · simp [shutWrite, shutRead, hne]
  · simp [shutWrite, shutRead]

theorem CopyEffect.metrics {t : Session} {log : List Action} {side : Side} {b : Buffer}
    (h : CopyEffect s t log side b) (m : MetricSnapshot) :
    CopyEffect s { t with metrics := m } log side b where
  linked := by
    obtain ⟨hfd, hbuffer, hother⟩ := h.linked
    constructor <;> intro x <;> have hf := hfd x <;> have hb := hbuffer x <;>
      have ho := hother x <;> cases x <;> assumption
  fdOf := fun x => by
    rw [← h.fdOf]
    cases x <;> rfl
  log := h.log
  buffer := by
    rw [← h.buffer]
    cases side <;> rfl
  otherBuffer := by
    rw [← h.otherBuffer]
    cases side <;> rfl

/-- The bytes of one call, taken up by one buffer. -/
theorem setBuffer_effect (h : CopyLinked s) (side : Side) (b : Buffer) (action : Action) :
    CopyEffect s ((s.setBuffer side b).act action) [action] side b where
  linked := h.setBuffer.act action
  fdOf := by simp
  log := by simp
  buffer := by simp
  otherBuffer := by simp

theorem socksv5CopyRead_cases (env : Env) (key : SelectorKey) (h : CopyLinked s) :
    CopyReadCase env s (keySide key s)
      (socksv5CopyRead env key s).1 (socksv5CopyRead env key s).2 := by
  generalize hsrc : keySide key s = src
  unfold socksv5CopyRead
  simp only [hsrc, h.otherCopySt, h.buffer, h.fd, Side.other_other]
  cases hwrite : bufferCanWrite (s.buffer src) with
  | false => exact .full hwrite
  | true =>
      have hspace : 0 < (s.buffer src).space := bufferCanWrite_iff.mp hwrite
      simp only [Bool.true_eq_false, if_false]
      cases hrecv : bufferRecv (s.buffer src) env.recv with
      | mk readBytes b =>
      match readBytes with
      | some (byte :: bytes) =>
          have hmove := (setBuffer_effect h src b
            (.recv (s.fdOf src) (byte :: bytes))).metrics
            (registerBytesTransferred s.metrics 0 (bytes.length + 1))
          obtain ⟨t, st, hresult, heffect, hst⟩ :=
            afterTransfer_result hmove.linked src src
          dsimp only at hresult ⊢
          rw [show (((s.setBuffer src b).act (.recv (s.fdOf src) (byte :: bytes))).metrics) =
            s.metrics by cases src <;> rfl, hresult]
          exact .moved hwrite hrecv (by simp) (by simpa using hmove.trans heffect) hst
      | some [] =>
          have hempty : env.recv = some [] := by
            cases henv : env.recv with
            | none => simp [henv] at hrecv
            | some bytes =>
                rw [henv] at hrecv
                have hfst : (bytes.take (s.buffer src).space) = [] := by
                  simpa using congrArg Prod.fst hrecv
                rw [List.take_eq_nil_iff] at hfst
                rcases hfst with hzero | hnil
                · omega
                · rw [hnil]
          obtain ⟨heffect, hoff, hoff'⟩ :=
            shutReadWrite_effect h src src (.recv (s.fdOf src) [])
          dsimp only
          rw [copyResult_fst]
          exact .ended hwrite (.inr ⟨hempty, rfl⟩) heffect hoff hoff' rfl
      | none =>
          have hnone : env.recv = none := by
            cases henv : env.recv with
            | none => rfl
            | some bytes => simp [henv, bufferRecv] at hrecv
          obtain ⟨heffect, hoff, hoff'⟩ :=
            shutReadWrite_effect h src src (.recvFailed (s.fdOf src))
          dsimp only
          rw [copyResult_fst]
          exact .ended hwrite (.inl ⟨hnone, rfl⟩) heffect hoff hoff' rfl

theorem socksv5CopyWrite_cases (env : Env) (key : SelectorKey) (h : CopyLinked s) :
    CopyWriteCase env s (keySide key s)
      (socksv5CopyWrite env key s).1 (socksv5CopyWrite env key s).2 := by
  generalize hdst : keySide key s = dst
  unfold socksv5CopyWrite
  simp only [hdst, h.otherCopySt, h.buffer, h.fd]
  cases hread : bufferCanRead (s.buffer dst.other) with
  | false => exact .empty hread
  | true =>
      have hcontent : (s.buffer dst.other).content ≠ [] := bufferCanRead_iff.mp hread
      simp only [Bool.true_eq_false, if_false]
      cases hsend : bufferSend (s.buffer dst.other) env.send with
      | mk writtenBytes b =>
      match writtenBytes with
      | some (byte :: bytes) =>
          have hmove := (setBuffer_effect h dst.other b
            (.send (s.fdOf dst) (byte :: bytes))).metrics
            (registerBytesTransferred s.metrics (bytes.length + 1) 0)
          obtain ⟨t, st, hresult, heffect, hst⟩ :=
            afterTransfer_result hmove.linked dst dst.other
          dsimp only at hresult ⊢
          rw [show (((s.setBuffer dst.other b).act
            (.send (s.fdOf dst) (byte :: bytes))).metrics) = s.metrics by
              cases dst <;> rfl, hresult]
          exact .moved hread hsend (by simp) (by simpa using hmove.trans heffect) hst
      | some [] =>
          have hzero : env.send = some 0 := by
            cases henv : env.send with
            | none => simp [henv] at hsend
            | some k =>
                rw [henv] at hsend
                have hfst : (s.buffer dst.other).content.take k = [] := by
                  simpa [bufferSend_some_fst] using congrArg Prod.fst hsend
                rw [List.take_eq_nil_iff] at hfst
                rcases hfst with hzero | hnil
                · rw [hzero]
                · exact absurd hnil hcontent
          obtain ⟨heffect, hoff, hoff'⟩ :=
            shutWriteRead_effect h dst dst.other (.send (s.fdOf dst) [])
          dsimp only
          rw [copyResult_fst]
          exact .ended hread (.inr ⟨hzero, rfl⟩) heffect hoff hoff' rfl
      | none =>
          have hnone : env.send = none := by
            cases henv : env.send with
            | none => rfl
            | some k => simp [henv, bufferSend] at hsend
          obtain ⟨heffect, hoff, hoff'⟩ :=
            shutWriteRead_effect h dst dst.other (.sendFailed (s.fdOf dst))
          dsimp only
          rw [copyResult_fst]
          exact .ended hread (.inl ⟨hnone, rfl⟩) heffect hoff hoff' rfl

end Cases

end Socks5Proxy

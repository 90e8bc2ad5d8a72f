import Socks5Proxy.Socks.CopyDelivery

/-!
# Directions of COPY that have been closed

`socksv5_copy_read` takes `OP_READ` from a descriptor that has ended and
`OP_WRITE` from its peer, but `update_target_interests` computes all four bits
anew from the buffers.  A closed direction stays closed exactly as long as the
other direction moves no byte.
-/

namespace Socks5Proxy

open Library

/-! ## Sessions and their closed directions -/

/-- A callback for one of the two descriptors, called under the interest it is
registered with. -/
def CopyEnabled (entry s : Session) : CopyEvent → Prop
  | .read fd _ => ∃ x i, fd = entry.fdOf x ∧ s.interestOf fd = some i ∧ i.read = true
  | .write fd _ => ∃ x i, fd = entry.fdOf x ∧ s.interestOf fd = some i ∧ i.write = true

/-- `socksv5_copy_read` has seen end-of-file or an error on the descriptor of
`x`. -/
def ReadOver (entry s : Session) (x : Side) : Prop :=
  Action.recv (entry.fdOf x) [] ∈ callsSince entry s ∨
    Action.recvFailed (entry.fdOf x) ∈ callsSince entry s

instance (entry s : Session) (x : Side) : Decidable (ReadOver entry s x) :=
  inferInstanceAs (Decidable (_ ∨ _))

/-- Nothing is read from `x` and nothing is written to its peer, by the
registrations and by the two records. -/
structure DirectionClosed (entry s : Session) (x : Side) : Prop where
  read : ∀ i, s.interestOf (entry.fdOf x) = some i → i.read = false
  write : ∀ i, s.interestOf (entry.fdOf x.other) = some i → i.write = false
  recordedRead : (s.copySt x).interests.read = false
  recordedWrite : (s.copySt x.other).interests.write = false

/-- A call of `send` on `fd`. -/
def Action.SendsTo (fd : ℤ) : Action → Prop
  | .send fd' _ => fd' = fd
  | .sendFailed fd' => fd' = fd
  | _ => False

/-- After the callback every direction that has ended is closed, and the
callback sends nothing into a direction that had ended before. -/
def StaysClosed (entry s : Session) (e : CopyEvent) : Prop :=
  (∀ t, copyNext s e = .ok t → ∀ x, ReadOver entry t x → DirectionClosed entry t x) ∧
    ∀ x, ReadOver entry s x → ∀ log, (copyStep s e).1.log = s.log ++ log →
      ∀ action ∈ log, ¬ action.SendsTo (entry.fdOf x.other)

/-- The `recv` or `send` of the callback returns a positive count. -/
def MovesByte (entry s : Session) : CopyEvent → Prop
  | .read fd env =>
    ∃ x bytes, fd = entry.fdOf x ∧ bufferCanWrite (s.buffer x) = true ∧
      env.recv = some bytes ∧ bytes ≠ []
  | .write fd env =>
    ∃ x k, fd = entry.fdOf x ∧ bufferCanRead (s.buffer x.other) = true ∧
      env.send = some (k + 1)

/-! ## The registered interests -/

/-- No descriptor is registered with an interest that its record lacks. -/
def Covered (s : Session) : Prop :=
  ∀ x i, s.interestOf (s.fdOf x) = some i →
    (i.read = true → (s.copySt x).interests.read = true) ∧
      (i.write = true → (s.copySt x).interests.write = true)

/-- The same descriptors are registered. -/
def SameRegistered (s t : Session) : Prop :=
  ∀ fd, t.interestOf fd = none ↔ s.interestOf fd = none

section Registered

variable {s t u : Session} {x : Side} {fd : ℤ} {i : FdInterest}

theorem SameRegistered.refl (s : Session) : SameRegistered s s := fun _ => Iff.rfl

theorem SameRegistered.trans (h : SameRegistered s t) (h' : SameRegistered t u) :
    SameRegistered s u :=
  fun fd => (h' fd).trans (h fd)

theorem sameRegistered_setInterest : SameRegistered s (s.setInterest fd i) := by
  intro fd'
  change (selectorSetInterest s.sel fd i).1.interestOf fd' = none ↔ s.sel.interestOf fd' = none
  rw [interestOf_selectorSetInterest]
  split_ifs with h
  · rw [h.1]
    exact iff_of_false nofun h.2
  · exact Iff.rfl

/-- What `selector_set_interest` writes for one record covers that record. -/
theorem Covered.setInterest (h : Covered s) (hne : ∀ y, s.fdOf y ≠ s.fdOf y.other)
    {j : FdInterest} : Covered ((s.setCopyInterests x j).setInterest (s.fdOf x) j) := by
  intro y i hi
  have hfd : ((s.setCopyInterests x j).setInterest (s.fdOf x) j).fdOf y = s.fdOf y := by simp
  have hsel : (s.setCopyInterests x j).sel = s.sel := by cases x <;> rfl
  rw [hfd] at hi
  change (selectorSetInterest (s.setCopyInterests x j).sel (s.fdOf x) j).1.interestOf (s.fdOf y) =
    some i at hi
  rw [hsel, interestOf_selectorSetInterest] at hi
  rw [copySt_setInterest]
  rcases Side.eq_or_eq_other x y with rfl | rfl
  · rw [interests_setCopyInterests_self]
    split_ifs at hi with hreg
    · cases hi
      exact ⟨id, id⟩
    · have hnone : s.interestOf (s.fdOf y) = none := not_not.mp fun hsome => hreg ⟨rfl, hsome⟩
      change s.interestOf (s.fdOf y) = some i at hi
      rw [hnone] at hi
      cases hi
  · rw [if_neg fun hreg => hne x hreg.1.symm] at hi
    rw [interests_setCopyInterests_of_ne (Side.other_ne x)]
    exact h x.other i hi

theorem Covered.act (h : Covered s) (action : Action) : Covered (s.act action) := by
  intro x i hi
  rw [fdOf_act] at hi
  rw [copySt_act]
  exact h x i hi

theorem shutRead_covered (h : Covered s) (hlinked : CopyLinked s)
    (hne : ∀ y, s.fdOf y ≠ s.fdOf y.other) : Covered (shutRead s x) := by
  have hcovered := (h.act (.shutdown (s.copySt x).fd .rd)).setInterest (x := x)
    (j := (s.copySt x).interests.off .opRead) (by simpa using hne)
  have hfd := ((hlinked.act (.shutdown (s.copySt x).fd .rd)).setCopyInterests x
    ((s.copySt x).interests.off .opRead)).fd x
  rw [fdOf_setCopyInterests] at hfd
  rw [← hfd] at hcovered
  simpa [shutRead] using hcovered

theorem shutWrite_covered (h : Covered s) (hlinked : CopyLinked s)
    (hne : ∀ y, s.fdOf y ≠ s.fdOf y.other) : Covered (shutWrite s x) := by
  have hcovered := (h.act (.shutdown (s.copySt x).fd .wr)).setInterest (x := x)
    (j := (s.copySt x).interests.off .opWrite) (by simpa using hne)
  have hfd := ((hlinked.act (.shutdown (s.copySt x).fd .wr)).setCopyInterests x
    ((s.copySt x).interests.off .opWrite)).fd x
  rw [fdOf_setCopyInterests] at hfd
  rw [← hfd] at hcovered
  simpa [shutWrite] using hcovered

theorem shutRead_sameRegistered : SameRegistered s (shutRead s x) := by
  unfold shutRead
  refine SameRegistered.trans ?_ sameRegistered_setInterest
  intro fd
  cases x <;> rfl

theorem shutWrite_sameRegistered : SameRegistered s (shutWrite s x) := by
  unfold shutWrite
  refine SameRegistered.trans ?_ sameRegistered_setInterest
  intro fd
  cases x <;> rfl

/-- `update_target_interests` fails exactly when one of the two descriptors is
not registered. -/
theorem updateTargetInterests_none_iff (hlinked : CopyLinked s) :
    updateTargetInterests s x = none ↔ ∃ y, s.interestOf (s.fdOf y) = none := by
  rw [updateTargetInterests_linked hlinked]
  by_cases hx : s.interestOf (s.fdOf x) = none
  · refine iff_of_true ?_ ⟨x, hx⟩
    rw [selectorSetInterest_of_none hx]
  · have hsame : SameRegistered s (s.setInterest (s.fdOf x) (s.copyInterest x)) :=
      sameRegistered_setInterest
    have hstatus := selectorSetInterest_success (i := s.copyInterest x) hx
    change ∀ fd, (selectorSetInterest s.sel (s.fdOf x) (s.copyInterest x)).1.interestOf fd = none ↔
      s.sel.interestOf fd = none at hsame
    generalize selectorSetInterest s.sel (s.fdOf x) (s.copyInterest x) = r at hsame hstatus
    obtain ⟨sel, status⟩ := r
    dsimp only at hsame hstatus
    subst hstatus
    dsimp only
    by_cases hother : s.interestOf (s.fdOf x.other) = none
    · refine iff_of_true ?_ ⟨x.other, hother⟩
      rw [selectorSetInterest_of_none ((hsame _).mpr hother)]
    · have hstatus := selectorSetInterest_success (i := s.copyInterest x.other)
        (fun hnone => hother ((hsame _).mp hnone))
      generalize selectorSetInterest sel (s.fdOf x.other) (s.copyInterest x.other) = r at hstatus
      obtain ⟨sel', status⟩ := r
      dsimp only at hstatus
      subst hstatus
      refine iff_of_false nofun ?_
      rintro ⟨y, hy⟩
      rcases Side.eq_or_eq_other x y with rfl | rfl
      · exact hx hy
      · exact hother hy

/-- When it succeeds, it has recorded and registered the fitting interests. -/
theorem updateTargetInterests_eq (hlinked : CopyLinked s)
    (hsome : updateTargetInterests s x = some t) :
    t = (((s.setCopyInterests x (s.copyInterest x)).setInterest (s.fdOf x)
      (s.copyInterest x)).setCopyInterests x.other (s.copyInterest x.other)).setInterest
        (s.fdOf x.other) (s.copyInterest x.other) := by
  rw [updateTargetInterests_linked hlinked] at hsome
  split at hsome
  · next sel hsel =>
      split at hsome
      · next sel' hsel' =>
          rw [← Option.some.inj hsome]
          have hfst : (selectorSetInterest s.sel (s.fdOf x) (s.copyInterest x)).1 = sel := by
            rw [hsel]
          have hfst' : (selectorSetInterest sel (s.fdOf x.other) (s.copyInterest x.other)).1 =
              sel' := by
            rw [hsel']
          rw [← hfst', ← hfst]
          cases x <;> rfl
      · cases hsome
  · cases hsome

theorem setCopyInterests_sameRegistered : SameRegistered s (s.setCopyInterests x i) := by
  intro fd
  cases x <;> exact Iff.rfl

theorem updateTargetInterests_covered (hlinked : CopyLinked s)
    (hne : ∀ y, s.fdOf y ≠ s.fdOf y.other) (h : Covered s)
    (hsome : updateTargetInterests s x = some t) : Covered t ∧ SameRegistered s t := by
  rw [updateTargetInterests_eq hlinked hsome]
  constructor
  · have hfirst := h.setInterest (x := x) (j := s.copyInterest x) hne
    have hsecond := hfirst.setInterest (x := x.other) (j := s.copyInterest x.other)
      (by simpa using hne)
    simpa using hsecond
  · exact (setCopyInterests_sameRegistered.trans sameRegistered_setInterest).trans
      (setCopyInterests_sameRegistered.trans sameRegistered_setInterest)

end Registered

/-! ## One callback -/

section Callback

variable {s : Session} {env : Env} {key : SelectorKey} {x : Side}

/-- The end of a transfer fails exactly when a descriptor is not registered. -/
theorem afterTransfer_covered (hlinked : CopyLinked s) (hne : ∀ y, s.fdOf y ≠ s.fdOf y.other)
    (h : Covered s) :
    ((afterTransfer s x x.other).2 = .error ↔ ∃ y, s.interestOf (s.fdOf y) = none) ∧
      ((afterTransfer s x x.other).2 ≠ .error →
        Covered (afterTransfer s x x.other).1 ∧
          SameRegistered s (afterTransfer s x x.other).1) := by
  rw [← updateTargetInterests_none_iff (x := x) hlinked]
  unfold afterTransfer
  rcases hupdate : updateTargetInterests s x with _ | t
  · exact ⟨iff_of_true rfl rfl, fun hok => absurd rfl hok⟩
  · refine ⟨iff_of_false ?_ nofun, ?_⟩
    · dsimp only
      unfold copyResult
      split <;> nofun
    · intro _
      dsimp only
      rw [copyResult_fst]
      exact updateTargetInterests_covered hlinked hne h hupdate

/-- A session that differs in other members only. -/
theorem Covered.congr {t : Session} (h : Covered s) (hsel : t.sel = s.sel)
    (hfd : ∀ y, t.fdOf y = s.fdOf y) (hcopy : ∀ y, t.copySt y = s.copySt y) : Covered t := by
  intro y i hi
  rw [Session.interestOf, hsel, hfd] at hi
  rw [hcopy]
  exact h y i hi

theorem SameRegistered.of_sel {t : Session} (hsel : t.sel = s.sel) : SameRegistered s t := by
  intro fd
  rw [Session.interestOf, hsel]
  rfl

/-- A transfer whose bytes are in place. -/
theorem transferred_covered {t : Session} {log : List Action} {b : Buffer} {y : Side}
    (heffect : CopyEffect s t log y b) (hsel : t.sel = s.sel)
    (hcopy : ∀ z, t.copySt z = s.copySt z) (hne : ∀ z, s.fdOf z ≠ s.fdOf z.other)
    (h : Covered s) :
    ((afterTransfer t x x.other).2 = .error ↔ ∃ z, s.interestOf (s.fdOf z) = none) ∧
      ((afterTransfer t x x.other).2 ≠ .error →
        Covered (afterTransfer t x x.other).1 ∧
          SameRegistered s (afterTransfer t x x.other).1) := by
  have hne' : ∀ z, t.fdOf z ≠ t.fdOf z.other := by
    intro z
    rw [heffect.fdOf, heffect.fdOf]
    exact hne z
  have hsame : SameRegistered s t := SameRegistered.of_sel hsel
  obtain ⟨herror, hcovered⟩ := afterTransfer_covered (x := x) heffect.linked hne'
    (h.congr hsel heffect.fdOf hcopy)
  refine ⟨herror.trans ?_, ?_⟩
  · refine exists_congr fun z => ?_
    rw [heffect.fdOf]
    exact hsame _
  · intro hok
    obtain ⟨hcov, hsame'⟩ := hcovered hok
    exact ⟨hcov, hsame.trans hsame'⟩

/-- What a callback does to the registrations, if `moves` says whether it moves
a byte. -/
structure CoversStep (s t : Session) (st : SocksV5State) (moves : Prop) : Prop where
  error : st = .error ↔ moves ∧ ∃ y, s.interestOf (s.fdOf y) = none
  covered : st ≠ .error → Covered t ∧ SameRegistered s t

theorem copyResult_ne_error (s : Session) (x y : Side) : (copyResult s x y).2 ≠ .error := by
  unfold copyResult
  split <;> nofun

theorem shutReadWrite_covered (hlinked : CopyLinked s) (hne : ∀ y, s.fdOf y ≠ s.fdOf y.other)
    (h : Covered s) (first : Action) :
    Covered (shutWrite (shutRead (s.act first) x) x.other) ∧
      SameRegistered s (shutWrite (shutRead (s.act first) x) x.other) := by
  have hread := shutRead_covered (x := x) (h.act first) (hlinked.act first) (by simpa using hne)
  have heffect := shutRead_effect (hlinked.act first) x x
  have hact : SameRegistered s (s.act first) := SameRegistered.of_sel rfl
  refine ⟨shutWrite_covered hread heffect.linked ?_,
    hact.trans (shutRead_sameRegistered.trans shutWrite_sameRegistered)⟩
  intro y
  rw [heffect.fdOf, heffect.fdOf, fdOf_act, fdOf_act]
  exact hne y

theorem shutWriteRead_covered (hlinked : CopyLinked s) (hne : ∀ y, s.fdOf y ≠ s.fdOf y.other)
    (h : Covered s) (first : Action) :
    Covered (shutRead (shutWrite (s.act first) x) x.other) ∧
      SameRegistered s (shutRead (shutWrite (s.act first) x) x.other) := by
  have hwrite := shutWrite_covered (x := x) (h.act first) (hlinked.act first) (by simpa using hne)
  have heffect := shutWrite_effect (hlinked.act first) x x
  have hact : SameRegistered s (s.act first) := SameRegistered.of_sel rfl
  refine ⟨shutRead_covered hwrite heffect.linked ?_,
    hact.trans (shutWrite_sameRegistered.trans shutRead_sameRegistered)⟩
  intro y
  rw [heffect.fdOf, heffect.fdOf, fdOf_act, fdOf_act]
  exact hne y

theorem socksv5CopyRead_covered (env : Env) (key : SelectorKey) (hlinked : CopyLinked s)
    (hne : ∀ y, s.fdOf y ≠ s.fdOf y.other) (h : Covered s) :
    CoversStep s (socksv5CopyRead env key s).1 (socksv5CopyRead env key s).2
      (bufferCanWrite (s.buffer (keySide key s)) = true ∧
        ∃ bytes, env.recv = some bytes ∧ bytes ≠ []) := by
  generalize hsrc : keySide key s = src
  have hended := fun first => shutReadWrite_covered (x := src) hlinked hne h first
  unfold socksv5CopyRead
  simp only [hsrc, hlinked.otherCopySt, hlinked.buffer, hlinked.fd, Side.other_other]
  rcases hwrite : bufferCanWrite (s.buffer src) with _ | _
  · exact ⟨by simp, fun _ => ⟨h, SameRegistered.refl s⟩⟩
  · have hspace : 0 < (s.buffer src).space := bufferCanWrite_iff.mp hwrite
    simp only [Bool.true_eq_false, if_false, true_and]
    rcases henv : env.recv with _ | offered
    · dsimp only [bufferRecv_none]
      refine ⟨iff_of_false (copyResult_ne_error _ _ _) (by simp), ?_⟩
      rw [copyResult_fst]
      exact fun _ => hended _
    · rcases hrecv : bufferRecv (s.buffer src) (some offered) with ⟨_ | ⟨_ | ⟨byte, bytes⟩⟩, b⟩
      · simp [bufferRecv] at hrecv
      · have hoffered : offered = [] := by
          have hfst : offered.take (s.buffer src).space = [] := by
            simpa [bufferRecv] using congrArg Prod.fst hrecv
          rw [List.take_eq_nil_iff] at hfst
          rcases hfst with hzero | hnil
          · omega
          · exact hnil
        refine ⟨iff_of_false (copyResult_ne_error _ _ _) (by simp [hoffered]), ?_⟩
        rw [copyResult_fst]
        exact fun _ => hended _
      · have hoffered : offered ≠ [] := by
          rintro rfl
          simp [bufferRecv] at hrecv
        have hmove := (setBuffer_effect hlinked src b
          (.recv (s.fdOf src) (byte :: bytes))).metrics
          (registerBytesTransferred s.metrics 0 (bytes.length + 1))
        obtain ⟨herror, hcovered⟩ := transferred_covered (x := src) hmove
          (by cases src <;> rfl) (fun z => by cases src <;> cases z <;> rfl) hne h
        have hmetrics : ((s.setBuffer src b).act (.recv (s.fdOf src) (byte :: bytes))).metrics =
            s.metrics := by
          cases src <;> rfl
        dsimp only
        rw [hmetrics]
        refine ⟨herror.trans ?_, hcovered⟩
        simp [hoffered]

theorem socksv5CopyWrite_covered (env : Env) (key : SelectorKey) (hlinked : CopyLinked s)
    (hne : ∀ y, s.fdOf y ≠ s.fdOf y.other) (h : Covered s) :
    CoversStep s (socksv5CopyWrite env key s).1 (socksv5CopyWrite env key s).2
      (bufferCanRead (s.buffer (keySide key s).other) = true ∧
        ∃ k, env.send = some (k + 1)) := by
  generalize hdst : keySide key s = dst
  have hended := fun first => shutWriteRead_covered (x := dst) hlinked hne h first
  unfold socksv5CopyWrite
  simp only [hdst, hlinked.otherCopySt, hlinked.buffer, hlinked.fd]
  rcases hread : bufferCanRead (s.buffer dst.other) with _ | _
  · exact ⟨by simp, fun _ => ⟨h, SameRegistered.refl s⟩⟩
  · have hcontent : (s.buffer dst.other).content ≠ [] := bufferCanRead_iff.mp hread
    simp only [Bool.true_eq_false, if_false, true_and]
    rcases henv : env.send with _ | k
    · dsimp only [bufferSend_none]
      refine ⟨iff_of_false (copyResult_ne_error _ _ _) (by simp), ?_⟩
      rw [copyResult_fst]
      exact fun _ => hended _
    · have hfst := bufferSend_some_fst (b := s.buffer dst.other) k
      rcases hsend : bufferSend (s.buffer dst.other) (some k) with ⟨_ | ⟨_ | ⟨byte, bytes⟩⟩, b⟩
      · rw [hsend] at hfst
        cases hfst
      · have hzero : k = 0 := by
          rw [hsend] at hfst
          rcases List.take_eq_nil_iff.mp (Option.some.inj hfst).symm with hzero | hnil
          · exact hzero
          · exact absurd hnil hcontent
        refine ⟨iff_of_false (copyResult_ne_error _ _ _) (by simp [hzero]), ?_⟩
        rw [copyResult_fst]
        exact fun _ => hended _
      · have hpos : ∃ j, k = j + 1 := by
          rw [hsend] at hfst
          rcases k with _ | j
          · cases hfst
          · exact ⟨j, rfl⟩
        have hmove := (setBuffer_effect hlinked dst.other b
          (.send (s.fdOf dst) (byte :: bytes))).metrics
          (registerBytesTransferred s.metrics (bytes.length + 1) 0)
        obtain ⟨herror, hcovered⟩ := transferred_covered (x := dst) hmove
          (by cases dst <;> rfl) (fun z => by cases dst <;> cases z <;> rfl) hne h
        have hmetrics :
            ((s.setBuffer dst.other b).act (.send (s.fdOf dst) (byte :: bytes))).metrics =
              s.metrics := by
          cases dst <;> rfl
        dsimp only
        rw [hmetrics]
        refine ⟨herror.trans ?_, hcovered⟩
        simpa using fun _ _ => hpos

end Callback

/-! ## What holds along a session -/

/-- What is known of a session in COPY.  If the peer of `x` is not registered,
no byte has been moved: the interest of `x` is still the first one, or none. -/
structure CopySession (entry s : Session) : Prop where
  fifo : CopyFifo entry s
  buffers : CopyBuffers s
  covered : Covered s
  lone : ∀ x, s.interestOf (entry.fdOf x.other) = none →
    (s.copySt x).interests = .opNoop ∨
      ((s.copySt x).interests = .opRead ∨ (s.copySt x).interests = .opWrite) ∧
        ∀ y, ¬ ReadOver entry s y

/-- How a callback called for the descriptor of a side ends. -/
inductive CopyOutcome (entry s : Session) (e : CopyEvent) (t : Session) (st : SocksV5State) : Prop
  | idle (hstill : ¬ MovesByte entry s e) (ht : t = s)
  | moved (hmoves : MovesByte entry s e) (hbuffers : CopyBuffers t)
      (hover : ∀ y, ReadOver entry t y ↔ ReadOver entry s y)
      (hst : st = .error ∨ st = .copy ∧ ∀ y, (t.copySt y).interests = t.copyInterest y)
  | readEnded (x : Side) (env : Env) (he : e = .read (entry.fdOf x) env)
      (hstill : ¬ MovesByte entry s e) (hbuffers : CopyBuffers t)
      (hover : ∀ y, ReadOver entry t y ↔ ReadOver entry s y ∨ y = x)
      (hsrc : (t.copySt x).interests = (s.copySt x).interests.off .opRead)
      (hdst : (t.copySt x.other).interests = (s.copySt x.other).interests.off .opWrite)
  | writeEnded (x : Side) (env : Env) (he : e = .write (entry.fdOf x) env)
      (hstill : ¬ MovesByte entry s e) (hbuffers : CopyBuffers t)
      (hover : ∀ y, ReadOver entry t y ↔ ReadOver entry s y)
      (hdst : (t.copySt x).interests = (s.copySt x).interests.off .opWrite)
      (hsrc : (t.copySt x.other).interests = (s.copySt x.other).interests.off .opRead)

section Session

variable {entry s t : Session} {e : CopyEvent} {x : Side}

theorem movesByte_read_iff (h : CopyFifo entry s) (x : Side) (env : Env) :
    MovesByte entry s (.read (entry.fdOf x) env) ↔
      bufferCanWrite (s.buffer x) = true ∧ ∃ bytes, env.recv = some bytes ∧ bytes ≠ [] := by
  constructor
  · rintro ⟨y, bytes, hfd, hspace, hrecv, hne⟩
    rcases Side.eq_or_eq_other x y with rfl | rfl
    · exact ⟨hspace, bytes, hrecv, hne⟩
    · exact absurd hfd (h.fd_ne x)
  · rintro ⟨hspace, bytes, hrecv, hne⟩
    exact ⟨x, bytes, rfl, hspace, hrecv, hne⟩

theorem movesByte_write_iff (h : CopyFifo entry s) (x : Side) (env : Env) :
    MovesByte entry s (.write (entry.fdOf x) env) ↔
      bufferCanRead (s.buffer x.other) = true ∧ ∃ k, env.send = some (k + 1) := by
  constructor
  · rintro ⟨y, k, hfd, hcontent, hsend⟩
    rcases Side.eq_or_eq_other x y with rfl | rfl
    · exact ⟨hcontent, k, hsend⟩
    · exact absurd hfd (h.fd_ne x)
  · rintro ⟨hcontent, k, hsend⟩
    exact ⟨x, k, rfl, hcontent, hsend⟩

theorem readOver_append (h : CopyFifo entry s) {log : List Action} (hlog : t.log = s.log ++ log)
    (y : Side) :
    ReadOver entry t y ↔ ReadOver entry s y ∨ Action.recv (entry.fdOf y) [] ∈ log ∨
      Action.recvFailed (entry.fdOf y) ∈ log := by
  rw [ReadOver, callsSince_append h hlog, List.mem_append, List.mem_append, ReadOver]
  tauto

/-- A buffer with room or content leaves COPY open. -/
theorem copyState_of_copyInterest (h : CopyBuffers t)
    (hinterests : ∀ y, (t.copySt y).interests = t.copyInterest y) : copyState t x = .copy := by
  have hne : copyState t x ≠ .done := by
    intro hdone
    rw [copyState_eq_done_iff] at hdone
    have hx := (hinterests x).symm.trans (hdone x)
    have hother := (hinterests x.other).symm.trans (hdone x.other)
    rw [Session.copyInterest, FdInterest.opNoop, FdInterest.mk.injEq] at hx hother
    rw [Side.other_other] at hother
    rcases h.room_or_content x with hroom | hcontent
    · rw [hx.1] at hroom
      cases hroom
    · rw [hother.2] at hcontent
      cases hcontent
  unfold copyState copyResult at hne ⊢
  split at hne
  · exact absurd rfl hne
  · next hunion => rw [if_neg hunion]

theorem copyStep_read_outcome (hfifo : CopyFifo entry s) (hbuffers : CopyBuffers s) (x : Side)
    (env : Env) :
    CopyOutcome entry s (.read (entry.fdOf x) env) (copyStep s (.read (entry.fdOf x) env)).1
      (copyStep s (.read (entry.fdOf x) env)).2 := by
  have hmoves := movesByte_read_iff hfifo x env
  have hcases := socksv5CopyRead_cases env ⟨entry.fdOf x, s.address⟩ hfifo.linked
  rw [keySide_fdOf hfifo] at hcases
  simp only [copyStep]
  generalize (socksv5CopyRead env ⟨entry.fdOf x, s.address⟩ s).1 = t at hcases ⊢
  generalize (socksv5CopyRead env ⟨entry.fdOf x, s.address⟩ s).2 = st at hcases ⊢
  rcases hcases with hfull | ⟨hspace, hrecv, hne, heffect, hst⟩ |
    ⟨hspace, hfirst, heffect, hsrc, hdst, hst⟩
  · refine .idle ?_ rfl
    rw [hmoves, hfull]
    simp
  · next bytes b =>
      have hb : b = (bufferRecv (s.buffer x) env.recv).2 := by rw [hrecv]
      have hbuffers' : CopyBuffers t := by
        refine hbuffers.of_effect heffect ?_ ?_
        · rw [hb]
          exact bufferRecv_settled (hbuffers.settled x) _
        · rw [hb, bufferRecv_limit]
      refine .moved ?_ hbuffers' ?_ ?_
      · rw [hmoves]
        refine ⟨hspace, ?_⟩
        rcases henv : env.recv with _ | offered
        · simp [henv] at hrecv
        · refine ⟨offered, rfl, ?_⟩
          rintro rfl
          rw [henv, bufferRecv] at hrecv
          exact hne (by simpa using (congrArg Prod.fst hrecv).symm)
      · intro y
        rw [readOver_append hfifo heffect.log]
        simp [hne.symm]
      · rcases hst with hst | ⟨hinterests, hst⟩
        · exact .inl hst
        · refine .inr ⟨?_, hinterests⟩
          rw [hst, copyState_of_copyInterest hbuffers' hinterests]
  · refine .readEnded x env rfl ?_ (hbuffers.of_effect heffect (hbuffers.settled x) rfl) ?_ hsrc
      hdst
    · rw [hmoves]
      rcases hfirst with ⟨henv, -⟩ | ⟨henv, -⟩ <;> simp [henv]
    · intro y
      have hfd : entry.fdOf y = entry.fdOf x ↔ y = x := by
        rcases Side.eq_or_eq_other x y with rfl | rfl
        · simp
        · exact iff_of_false (hfifo.fd_ne x).symm (Side.other_ne x)
      rw [readOver_append hfifo heffect.log, hfifo.fdOf]
      rcases hfirst with ⟨-, rfl⟩ | ⟨-, rfl⟩ <;> simp [hfd, hfifo.fdOf]

theorem copyStep_write_outcome (hfifo : CopyFifo entry s) (hbuffers : CopyBuffers s) (x : Side)
    (env : Env) :
    CopyOutcome entry s (.write (entry.fdOf x) env) (copyStep s (.write (entry.fdOf x) env)).1
      (copyStep s (.write (entry.fdOf x) env)).2 := by
  have hmoves := movesByte_write_iff hfifo x env
  have hcases := socksv5CopyWrite_cases env ⟨entry.fdOf x, s.address⟩ hfifo.linked
  rw [keySide_fdOf hfifo] at hcases
  simp only [copyStep]
  generalize (socksv5CopyWrite env ⟨entry.fdOf x, s.address⟩ s).1 = t at hcases ⊢
  generalize (socksv5CopyWrite env ⟨entry.fdOf x, s.address⟩ s).2 = st at hcases ⊢
  rcases hcases with hempty | ⟨hcontent, hsend, hne, heffect, hst⟩ |
    ⟨hcontent, hfirst, heffect, hdst, hsrc, hst⟩
  · refine .idle ?_ rfl
    rw [hmoves, hempty]
    simp
  · next bytes b =>
      have hb : b = (bufferSend (s.buffer x.other) env.send).2 := by rw [hsend]
      have hbuffers' : CopyBuffers t := by
        refine hbuffers.of_effect heffect ?_ ?_
        · rw [hb]
          exact bufferSend_settled (hbuffers.settled x.other) _
        · rw [hb, bufferSend_limit]
      refine .moved ?_ hbuffers' ?_ ?_
      · rw [hmoves]
        refine ⟨hcontent, ?_⟩
        rcases henv : env.send with _ | _ | k
        · simp [henv] at hsend
        · rw [henv] at hsend
          have hfst := bufferSend_some_fst (b := s.buffer x.other) 0
          rw [hsend] at hfst
          exact absurd (Option.some.inj hfst) hne
        · exact ⟨k, rfl⟩
      · intro y
        rw [readOver_append hfifo heffect.log]
        simp
      · rcases hst with hst | ⟨hinterests, hst⟩
        · exact .inl hst
        · refine .inr ⟨?_, hinterests⟩
          rw [hst, copyState_of_copyInterest hbuffers' hinterests]
  · refine .writeEnded x env rfl ?_
      (hbuffers.of_effect heffect (hbuffers.settled x.other) rfl) ?_ hdst hsrc
    · rw [hmoves]
      rcases hfirst with ⟨henv, -⟩ | ⟨henv, -⟩ <;> simp [henv]
    · intro y
      rw [readOver_append hfifo heffect.log]
      rcases hfirst with ⟨-, rfl⟩ | ⟨-, rfl⟩ <;> simp

/-- Only a write event for a descriptor sends to it. -/
theorem copyStep_sends (h : CopyFifo entry s) (hadm : CopyEnabled entry s e) {log : List Action}
    (hlog : (copyStep s e).1.log = s.log ++ log) {action : Action} (haction : action ∈ log)
    {fd : ℤ} (hsends : action.SendsTo fd) : ∃ env, e = .write fd env := by
  rcases e with ⟨fd', env⟩ | ⟨fd', env⟩
  · obtain ⟨x, i, rfl, -⟩ := hadm
    have hcases := socksv5CopyRead_cases env ⟨entry.fdOf x, s.address⟩ h.linked
    simp only [copyStep] at hlog
    generalize (socksv5CopyRead env ⟨entry.fdOf x, s.address⟩ s).1 = t at hcases hlog
    generalize (socksv5CopyRead env ⟨entry.fdOf x, s.address⟩ s).2 = st at hcases
    rcases hcases with hfull | ⟨-, -, -, heffect, -⟩ | ⟨-, hfirst, heffect, -, -, -⟩
    · rw [List.self_eq_append_right.mp hlog] at haction
      cases haction
    · rw [← List.append_cancel_left (heffect.log.symm.trans hlog)] at haction
      rw [List.mem_singleton] at haction
      subst haction
      cases hsends
    · rw [← List.append_cancel_left (heffect.log.symm.trans hlog)] at haction
      rcases hfirst with ⟨-, rfl⟩ | ⟨-, rfl⟩ <;>
        simp only [List.mem_cons, List.not_mem_nil, or_false] at haction <;>
        rcases haction with rfl | rfl | rfl <;> cases hsends
  · obtain ⟨x, i, rfl, -⟩ := hadm
    refine ⟨env, ?_⟩
    have hcases := socksv5CopyWrite_cases env ⟨entry.fdOf x, s.address⟩ h.linked
    rw [keySide_fdOf h] at hcases
    simp only [copyStep] at hlog
    generalize (socksv5CopyWrite env ⟨entry.fdOf x, s.address⟩ s).1 = t at hcases hlog
    generalize (socksv5CopyWrite env ⟨entry.fdOf x, s.address⟩ s).2 = st at hcases
    rw [← h.fdOf]
    rcases hcases with hempty | ⟨-, -, -, heffect, -⟩ | ⟨-, hfirst, heffect, -, -, -⟩
    · rw [List.self_eq_append_right.mp hlog] at haction
      cases haction
    · rw [← List.append_cancel_left (heffect.log.symm.trans hlog)] at haction
      rw [List.mem_singleton] at haction
      subst haction
      exact congrArg (CopyEvent.write · env) hsends
    · rw [← List.append_cancel_left (heffect.log.symm.trans hlog)] at haction
      rcases hfirst with ⟨-, rfl⟩ | ⟨-, rfl⟩ <;>
        simp only [List.mem_cons, List.not_mem_nil, or_false] at haction <;>
        rcases haction with rfl | rfl | rfl <;>
        first | exact congrArg (CopyEvent.write · env) hsends | cases hsends

theorem copyStep_outcome (h : CopySession entry s) (hadm : CopyEnabled entry s e) :
    CopyOutcome entry s e (copyStep s e).1 (copyStep s e).2 := by
  rcases e with ⟨fd, env⟩ | ⟨fd, env⟩
  · obtain ⟨x, i, rfl, -⟩ := hadm
    exact copyStep_read_outcome h.fifo h.buffers x env
  · obtain ⟨x, i, rfl, -⟩ := hadm
    exact copyStep_write_outcome h.fifo h.buffers x env

theorem CopySession.fd_ne (h : CopySession entry s) (y : Side) : s.fdOf y ≠ s.fdOf y.other := by
  rw [h.fifo.fdOf, h.fifo.fdOf]
  exact h.fifo.fd_ne y

theorem copyStep_covers (h : CopySession entry s) (hadm : CopyEnabled entry s e) :
    CoversStep s (copyStep s e).1 (copyStep s e).2 (MovesByte entry s e) := by
  rcases e with ⟨fd, env⟩ | ⟨fd, env⟩
  · obtain ⟨x, i, rfl, -⟩ := hadm
    rw [movesByte_read_iff h.fifo x env]
    have hcovered := socksv5CopyRead_covered env ⟨entry.fdOf x, s.address⟩
      h.fifo.linked h.fd_ne h.covered
    rw [keySide_fdOf h.fifo] at hcovered
    exact hcovered
  · obtain ⟨x, i, rfl, -⟩ := hadm
    rw [movesByte_write_iff h.fifo x env]
    have hcovered := socksv5CopyWrite_covered env ⟨entry.fdOf x, s.address⟩
      h.fifo.linked h.fd_ne h.covered
    rw [keySide_fdOf h.fifo] at hcovered
    exact hcovered

/-- A descriptor that no byte has been moved for has one interest; the end of
that direction takes it. -/
theorem CopySession.lone_off (h : CopySession entry s) {i bit : FdInterest}
    (hnone : s.interestOf (entry.fdOf x.other) = none)
    (hi : s.interestOf (entry.fdOf x) = some i)
    (hbit : bit = .opRead ∧ i.read = true ∨ bit = .opWrite ∧ i.write = true) :
    (s.copySt x).interests.off bit = .opNoop := by
  have hcovered := h.covered x i (by rw [h.fifo.fdOf]; exact hi)
  rcases h.lone x hnone with hnoop | ⟨hone, -⟩
  · rw [hnoop]
    rcases hbit with ⟨rfl, -⟩ | ⟨rfl, -⟩ <;> rfl
  · rcases hbit with ⟨rfl, hread⟩ | ⟨rfl, hwrite⟩
    · have hrecorded := hcovered.1 hread
      rcases hone with hone | hone <;> rw [hone] at hrecorded ⊢
      · rfl
      · cases hrecorded
    · have hrecorded := hcovered.2 hwrite
      rcases hone with hone | hone <;> rw [hone] at hrecorded ⊢
      · cases hrecorded
      · rfl

theorem CopySession.step (h : CopySession entry s) (hadm : CopyEnabled entry s e)
    (hcopy : (copyStep s e).2 = .copy) : CopySession entry (copyStep s e).1 := by
  have hfifo := h.fifo.step e
  have houtcome := copyStep_outcome h hadm
  have hcovers := copyStep_covers h hadm
  generalize (copyStep s e).1 = t at hfifo houtcome hcovers ⊢
  rw [hcopy] at houtcome hcovers
  obtain ⟨hcovered, hsame⟩ := hcovers.covered nofun
  have hregistered : ∀ y, t.interestOf (entry.fdOf y) = none →
      s.interestOf (entry.fdOf y) = none := fun y => (hsame _).mp
  rcases houtcome with ⟨-, rfl⟩ | ⟨hmoves, hbuffers, -, -⟩ |
    ⟨x, env, rfl, -, hbuffers, -, hsrc, -⟩ | ⟨x, env, rfl, -, hbuffers, -, hdst, -⟩
  · exact h
  · refine ⟨hfifo, hbuffers, hcovered, ?_⟩
    intro y hy
    have herror := hcovers.error.mpr ⟨hmoves, y.other, by
      rw [h.fifo.fdOf]
      exact hregistered _ hy⟩
    cases herror
  · refine ⟨hfifo, hbuffers, hcovered, ?_⟩
    intro y hy
    obtain ⟨x', i, hfd, hi, hread⟩ := hadm
    rcases Side.eq_or_eq_other x y with rfl | rfl
    · left
      rw [hsrc]
      exact h.lone_off (hregistered _ hy) hi (.inl ⟨rfl, hread⟩)
    · rw [Side.other_other] at hy
      rw [hregistered _ hy] at hi
      cases hi
  · refine ⟨hfifo, hbuffers, hcovered, ?_⟩
    intro y hy
    obtain ⟨x', i, -, hi, hwrite⟩ := hadm
    rcases Side.eq_or_eq_other x y with rfl | rfl
    · left
      rw [hdst]
      exact h.lone_off (hregistered _ hy) hi (.inr ⟨rfl, hwrite⟩)
    · rw [Side.other_other] at hy
      rw [hregistered _ hy] at hi
      cases hi

/-- The records decide: no registration goes beyond them. -/
theorem CopySession.closed (h : CopySession entry s) (hread : (s.copySt x).interests.read = false)
    (hwrite : (s.copySt x.other).interests.write = false) : DirectionClosed entry s x where
  read := by
    intro i hi
    rw [← h.fifo.fdOf] at hi
    by_contra hne
    rw [(h.covered x i hi).1 (by simpa using hne)] at hread
    cases hread
  write := by
    intro i hi
    rw [← h.fifo.fdOf] at hi
    by_contra hne
    rw [(h.covered x.other i hi).2 (by simpa using hne)] at hwrite
    cases hwrite
  recordedRead := hread
  recordedWrite := hwrite

theorem off_read {i bit : FdInterest} (h : i.read = false) : (i.off bit).read = false := by
  rw [FdInterest.off, h, Bool.false_and]

theorem off_write {i bit : FdInterest} (h : i.write = false) : (i.off bit).write = false := by
  rw [FdInterest.off, h, Bool.false_and]

/-- A callback that moves no byte closes what ends, and reopens nothing. -/
theorem CopySession.step_closed (h : CopySession entry s) (hadm : CopyEnabled entry s e)
    (hclosed : ∀ y, ReadOver entry s y → DirectionClosed entry s y)
    (hquiet : (∃ y, ReadOver entry s y) → ¬ MovesByte entry s e)
    (hcopy : (copyStep s e).2 = .copy) :
    ∀ y, ReadOver entry (copyStep s e).1 y → DirectionClosed entry (copyStep s e).1 y := by
  have hnext := h.step hadm hcopy
  have houtcome := copyStep_outcome h hadm
  generalize (copyStep s e).1 = t at hnext houtcome ⊢
  intro y hy
  rcases houtcome with ⟨-, rfl⟩ | ⟨hmoves, -, hover, -⟩ |
    ⟨x, env, -, -, -, hover, hsrc, hdst⟩ | ⟨x, env, -, -, -, hover, hdst, hsrc⟩
  · exact hclosed y hy
  · exact absurd hmoves (hquiet ⟨y, (hover y).mp hy⟩)
  · rcases (hover y).mp hy with hold | rfl
    · have hbefore := hclosed y hold
      rcases Side.eq_or_eq_other x y with rfl | rfl
      · refine hnext.closed ?_ ?_
        · rw [hsrc]
          exact off_read hbefore.recordedRead
        · rw [hdst]
          exact off_write hbefore.recordedWrite
      · refine hnext.closed ?_ ?_
        · rw [hdst]
          exact off_read hbefore.recordedRead
        · have hwrite := hbefore.recordedWrite
          rw [Side.other_other] at hwrite ⊢
          rw [hsrc]
          exact off_write hwrite
    · refine hnext.closed ?_ ?_
      · rw [hsrc]
        simp [FdInterest.off, FdInterest.opRead]
      · rw [hdst]
        simp [FdInterest.off, FdInterest.opWrite]
  · have hbefore := hclosed y ((hover y).mp hy)
    rcases Side.eq_or_eq_other x y with rfl | rfl
    · refine hnext.closed ?_ ?_
      · rw [hdst]
        exact off_read hbefore.recordedRead
      · rw [hsrc]
        exact off_write hbefore.recordedWrite
    · refine hnext.closed ?_ ?_
      · rw [hsrc]
        exact off_read hbefore.recordedRead
      · have hwrite := hbefore.recordedWrite
        rw [Side.other_other] at hwrite ⊢
        rw [hdst]
        exact off_write hwrite

/-- A byte moved once a direction has ended opens that direction again. -/
theorem CopySession.reopened (h : CopySession entry s) (hadm : CopyEnabled entry s e)
    (hover : ReadOver entry s x) (hmoves : MovesByte entry s e) :
    ∃ t, copyNext s e = .ok t ∧ ReadOver entry t x ∧ ¬ DirectionClosed entry t x := by
  have houtcome := copyStep_outcome h hadm
  have hcovers := copyStep_covers h hadm
  have hnext : (copyStep s e).2 ≠ .error := by
    intro herror
    obtain ⟨-, z, hz⟩ := hcovers.error.mp herror
    rw [h.fifo.fdOf] at hz
    have hlone : ∀ y i, s.interestOf (entry.fdOf y) = some i →
        i.read = true ∨ i.write = true → False := by
      intro y i hi hbit
      rcases Side.eq_or_eq_other y z with rfl | rfl
      · rw [hz] at hi
        cases hi
      · have hcovered := h.covered y i (by rw [h.fifo.fdOf]; exact hi)
        rcases h.lone y hz with hnoop | ⟨-, hnever⟩
        · rw [hnoop] at hcovered
          rcases hbit with hbit | hbit
          · cases hcovered.1 hbit
          · cases hcovered.2 hbit
        · exact hnever x hover
    rcases e with ⟨fd, env⟩ | ⟨fd, env⟩
    · obtain ⟨y, i, rfl, hi, hbit⟩ := hadm
      exact hlone y i hi (.inl hbit)
    · obtain ⟨y, i, rfl, hi, hbit⟩ := hadm
      exact hlone y i hi (.inr hbit)
  rcases houtcome with ⟨hstill, -⟩ | ⟨-, hbuffers, hsame, hst⟩ | ⟨-, -, -, hstill, -⟩ |
    ⟨-, -, -, hstill, -⟩
  · exact absurd hmoves hstill
  · rcases hst with herror | ⟨hcopy, hinterests⟩
    · exact absurd herror hnext
    · refine ⟨_, copyNext_of_copy hcopy, (hsame x).mpr hover, ?_⟩
      intro hclosed
      have hread := hclosed.recordedRead
      have hwrite := hclosed.recordedWrite
      rw [hinterests, Session.copyInterest] at hread hwrite
      rw [Side.other_other] at hwrite
      rcases hbuffers.room_or_content x with hroom | hcontent
      · rw [hroom] at hread
        cases hread
      · rw [hcontent] at hwrite
        cases hwrite
  · exact absurd hmoves hstill
  · exact absurd hmoves hstill

/-- The session as `socksv5_copy_arrival` leaves it. -/
theorem socksv5CopyArrival_session (h : CopyEntry entry) :
    CopySession entry (socksv5CopyArrival entry) where
  fifo := socksv5CopyArrival_fifo h.distinct
  buffers := (copyArrival_progress h).buffers
  covered := by
    intro x i hi
    cases x with
    | client =>
        have hi' := eq_of_interestOf_selectorSetInterest hi
        change (i.read = true → true = true) ∧ (i.write = true → false = true)
        rw [hi']
        split_ifs <;> exact ⟨fun _ => rfl, nofun⟩
    | origin =>
        have hne : entry.conn.originFd ≠ entry.conn.clientFd := h.distinct.symm
        have hi' := eq_of_interestOf_selectorSetInterest
          ((interestOf_selectorSetInterest_of_ne hne).symm.trans hi)
        rw [hi']
        exact ⟨id, id⟩
  lone := by
    intro x _
    right
    constructor
    · cases x with
      | client => exact .inl rfl
      | origin =>
          change (if (bufferReadPtr entry.conn.clientBuffer).2 > 0 then FdInterest.opWrite
            else FdInterest.opRead) = _ ∨ (if (bufferReadPtr entry.conn.clientBuffer).2 > 0 then
              FdInterest.opWrite else FdInterest.opRead) = _
          split_ifs
          · exact .inr rfl
          · exact .inl rfl
    · intro y hy
      rw [ReadOver, callsSince, show (socksv5CopyArrival entry).log = entry.log from rfl,
        List.drop_length] at hy
      rcases hy with hy | hy <;> cases hy

end Session

/-! ## Whole sessions -/

/-- Every closed direction of a COPY session stays closed if and only if no
byte moves in either direction once one of them has ended. -/
theorem directions_stay_closed_iff {entry : Session} (hentry : CopyEntry entry)
    {es : List CopyEvent}
    (hes : Steps copyNext (CopyEnabled entry) (socksv5CopyArrival entry) es) :
    Steps copyNext (StaysClosed entry) (socksv5CopyArrival entry) es ↔
      Steps copyNext (fun s e => (∃ x, ReadOver entry s x) → ¬ MovesByte entry s e)
        (socksv5CopyArrival entry) es := by
  have harrival := socksv5CopyArrival_session hentry
  constructor
  · intro hproperty
    refine Steps.of_invariant (I := CopySession entry) ?_ harrival (hes.and hproperty)
    rintro s e h ⟨hadm, hclosed, -⟩
    constructor
    · rintro ⟨x, hover⟩ hmoves
      obtain ⟨t, ht, hover', hnot⟩ := h.reopened hadm hover hmoves
      exact hnot (hclosed t ht x hover')
    · intro t ht
      have hstep := copyNext_ok_iff.mp ht
      have hnext := h.step hadm (congrArg Prod.snd hstep)
      rw [hstep] at hnext
      exact hnext
  · intro hquiet
    refine Steps.of_invariant
      (I := fun s => CopySession entry s ∧ ∀ x, ReadOver entry s x → DirectionClosed entry s x)
      ?_ ⟨harrival, ?_⟩ (hes.and hquiet)
    · rintro s e ⟨h, hclosed⟩ ⟨hadm, hstill⟩
      have hkeeps : ∀ t, copyNext s e = .ok t → CopySession entry t ∧
          ∀ x, ReadOver entry t x → DirectionClosed entry t x := by
        intro t ht
        have hstep := copyNext_ok_iff.mp ht
        have hcopy := congrArg Prod.snd hstep
        have hnext := h.step hadm hcopy
        have hstays := h.step_closed hadm hclosed hstill hcopy
        rw [hstep] at hnext hstays
        exact ⟨hnext, hstays⟩
      refine ⟨⟨fun t ht => (hkeeps t ht).2, ?_⟩, hkeeps⟩
      intro x hover log hlog action haction hsends
      obtain ⟨env, rfl⟩ := copyStep_sends h.fifo hadm hlog haction hsends
      obtain ⟨-, i, -, hi, hwrite⟩ := hadm
      rw [(hclosed x hover).write i hi] at hwrite
      cases hwrite
    · intro x hover
      rw [ReadOver, callsSince, show (socksv5CopyArrival entry).log = entry.log from rfl,
        List.drop_length] at hover
      rcases hover with hover | hover <;> cases hover

/-- Both ends close; nothing moves afterwards. -/
theorem directions_stay_closed_iff_both_ends :
    let es : List CopyEvent :=
      [.read 4 (receives [1]), .write 5 (sends 1), .read 4 (receives []), .read 5 (receives [])]
    Steps copyNext (StaysClosed connectedPair) (socksv5CopyArrival connectedPair) es ↔
      Steps copyNext (fun s e => (∃ x, ReadOver connectedPair s x) → ¬ MovesByte connectedPair s e)
        (socksv5CopyArrival connectedPair) es := by
  refine directions_stay_closed_iff connectedPair_entry ?_
  refine Steps.cons ?_ (copyNext_of_copy (by decide)) (Steps.cons ?_
    (copyNext_of_copy (by decide)) (Steps.cons ?_ (copyNext_of_copy (by decide)) ⟨?_, ?_⟩))
  · exact ⟨.client, ⟨true, false⟩, rfl, by decide, rfl⟩
  · exact ⟨.origin, ⟨true, true⟩, rfl, by decide, rfl⟩
  · exact ⟨.client, ⟨true, false⟩, rfl, by decide, rfl⟩
  · exact ⟨.origin, ⟨true, false⟩, rfl, by decide, rfl⟩
  · exact fun _ _ => trivial

/-- The client sends a byte and ends; then the origin sends a byte and becomes
writable. -/
def lateAnswer : List CopyEvent :=
  [.read 4 (receives [1]), .read 4 (receives []), .read 5 (receives [9]), .write 5 (sends 1)]

/-- The byte of the origin has both interests set again, and the last callback
sends on the socket that was shut down for writing. -/
theorem lateAnswer_reopens :
    Steps copyNext (CopyEnabled connectedPair) (socksv5CopyArrival connectedPair) lateAnswer ∧
      ¬ Steps copyNext (StaysClosed connectedPair) (socksv5CopyArrival connectedPair)
        lateAnswer ∧
      [Action.shutdown 5 .wr, .recv 5 [9], .send 5 [1]] <:+
        (copyRun (socksv5CopyArrival connectedPair) lateAnswer).log := by
  refine ⟨?_, ?_, by decide⟩
  · refine Steps.cons ?_ (copyNext_of_copy (by decide)) (Steps.cons ?_
      (copyNext_of_copy (by decide)) (Steps.cons ?_ (copyNext_of_copy (by decide)) ⟨?_, ?_⟩))
    · exact ⟨.client, ⟨true, false⟩, rfl, by decide, rfl⟩
    · exact ⟨.client, ⟨true, false⟩, rfl, by decide, rfl⟩
    · exact ⟨.origin, ⟨true, false⟩, rfl, by decide, rfl⟩
    · exact ⟨.origin, ⟨true, true⟩, rfl, by decide, rfl⟩
    · exact fun _ _ => trivial
  · intro hproperty
    have hthird := ((hproperty.2 _ (copyNext_of_copy (by decide))).2 _
      (copyNext_of_copy (by decide))).1.1
    have hread := (hthird _ (copyNext_of_copy (by decide)) .client (by decide)).recordedRead
    revert hread
    decide

end Socks5Proxy

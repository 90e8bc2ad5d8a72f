import Socks5Proxy.Socks.Wiring

/-!
# What an open connection keeps, whatever the kernel answers

`Wiring` follows the registered interests as long as `getsockopt` does not
fail.  Here it may: the origin's descriptor then stays registered through the
later requests.  What remains is that no descriptor but the client's is read,
and that the reply buffer is empty where a reply may be queued.
-/

namespace Socks5Proxy

open Library

/-! ## The invariant -/

/-- Apart from the client's, no descriptor of the connection is read. -/
def OthersSilent (s : Session) : Prop :=
  ∀ fd, s.sel.dataOf fd = some s.address → fd ≠ s.conn.clientFd →
    ∀ i, s.interestOf fd = some i → i.read = false

/-- What every callback keeps of an open connection. -/
structure Keeping (s : Session) : Prop where
  table : fdSetsize < s.sel.fds.length
  client : s.sel.dataOf s.conn.clientFd = some s.address
  distinct : s.conn.originFd ≠ s.conn.clientFd
  settled : s.conn.originBuffer.Settled

/-- What a state says besides. -/
def KeepingIn (s : Session) : SocksV5State → Prop
  | .greeting | .auth => ClientOnly s
  | .request => OthersSilent s ∧ s.conn.originBuffer.content = []
  | .connect =>
    OthersSilent s ∧ s.conn.originBuffer.content = [] ∧ 0 ≤ s.conn.originFd
  | .reply => OthersSilent s
  | .copy => True
  | .done | .error => False

/-- An open connection between two events. -/
structure Kept (s : Session) : Prop extends Keeping s where
  isOpen : s.conn.closed = false
  inState : KeepingIn s s.state

/-- A callback keeps the connection open, or has it torn down. -/
def KeepingResult (r : Session × SocksV5State) : Prop :=
  Keeping r.1 ∧ ((r.2 = .error ∨ r.2 = .done) ∨ KeepingIn r.1 r.2)

section Keeping

variable {s t u : Session} {fd : ℤ} {i : FdInterest} {env : Env} {key : SelectorKey}
  {st : SocksV5State} {r : Session × SocksV5State}

theorem ClientOnly.silent (h : ClientOnly s) : OthersSilent s := fun fd hfd hne =>
  absurd (h fd hfd) hne

theorem OthersSilent.congr (h : OthersSilent s) (hfds : t.sel.fds = s.sel.fds)
    (haddress : t.address = s.address) (hclient : t.conn.clientFd = s.conn.clientFd) :
    OthersSilent t := by
  intro fd hfd hne j hj
  rw [dataOf_congr hfds, haddress] at hfd
  rw [hclient] at hne
  exact h fd hfd hne j (((interestOf_congr hfds fd).symm).trans hj)

/-- The client's own interest does not matter, and one that does not read is
allowed to the others. -/
theorem OthersSilent.setInterest (h : OthersSilent s)
    (hi : fd = s.conn.clientFd ∨ i.read = false) : OthersSilent (s.setInterest fd i) := by
  intro fd' hfd hne j hj
  have hdata : s.sel.dataOf fd' = some s.address := dataOf_selectorSetInterest.symm.trans hfd
  by_cases heq : fd' = fd
  · subst heq
    rw [eq_of_interestOf_selectorSetInterest hj]
    exact hi.resolve_left hne
  · exact h fd' hdata hne j ((interestOf_selectorSetInterest_of_ne heq).symm.trans hj)

theorem Keeping.wire (h : Keeping s) (hframe : Frame s t) (hwire : WireFrame s t) :
    Keeping t where
  table := by
    rw [hwire.sets.length]
    exact h.table
  client := by
    rw [hwire.sets.dataOf, hframe.clientFd, hframe.address]
    exact h.client
  distinct := by
    rw [hframe.clientFd, hwire.originFd]
    exact h.distinct
  settled := hframe.originBuffer.2 h.settled

theorem Keeping.congr (h : Keeping s) (hfds : t.sel.fds = s.sel.fds)
    (haddress : t.address = s.address) (hclient : t.conn.clientFd = s.conn.clientFd)
    (horigin : t.conn.originFd = s.conn.originFd)
    (hbuffer : s.conn.originBuffer.Keeps t.conn.originBuffer) : Keeping t where
  table := by
    rw [hfds]
    exact h.table
  client := by
    rw [dataOf_congr hfds, hclient, haddress]
    exact h.client
  distinct := by
    rw [hclient, horigin]
    exact h.distinct
  settled := hbuffer.2 h.settled

theorem Keeping.decode (h : Keeping s) (hframe : DecodeFrame s t) : Keeping t :=
  h.congr (congrArg FdSelector.fds hframe.sel) hframe.address hframe.clientFd hframe.originFd
    hframe.originBuffer

theorem Keeping.setInterest (h : Keeping s) : Keeping (s.setInterest fd i) :=
  h.wire (.setInterest fd i) (.setInterest fd i)

/-- What an attempt leaves to those who go on with it. -/
theorem Attempted.keeping {ret : UInt8} (h : Attempted env key s t ret) (hs : Keeping s)
    (hsilent : OthersSilent s) (hfresh : FreshSockets s env) (hkey : key.data = s.address) :
    Keeping t ∧ OthersSilent t ∧ 0 ≤ t.conn.originFd := by
  obtain ⟨hopen, -, hclient⟩ := hfresh.origin h
  have hdistinct : t.conn.originFd ≠ t.conn.clientFd := by
    rw [h.clientFd]
    exact hclient
  rcases h.selector hs.table with ⟨-, hsel⟩ | ⟨-, horigin⟩
  · have hfds := congrArg FdSelector.fds hsel
    refine ⟨⟨?_, ?_, hdistinct, h.originBuffer.2 hs.settled⟩,
      hsilent.congr hfds h.address h.clientFd, hopen⟩
    · rw [hsel]
      exact hs.table
    · rw [hsel, h.clientFd, h.address]
      exact hs.client
  · have hdata := horigin.dataOf
    rw [hkey] at hdata
    refine ⟨⟨?_, ?_, hdistinct, h.originBuffer.2 hs.settled⟩, ?_, hopen⟩
    · rw [horigin.length]
      exact hs.table
    · rw [hdata, h.clientFd, if_neg hclient.symm, h.address]
      exact hs.client
    · intro fd hfd hne j hj
      rw [hdata, h.address] at hfd
      rw [horigin.interestOf] at hj
      by_cases hself : fd = t.conn.originFd
      · rw [if_pos hself] at hj
        rw [← Option.some.inj hj]
        rfl
      · rw [if_neg hself] at hfd hj
        rw [h.clientFd] at hne
        exact hsilent fd hfd hne j hj

theorem Keeping.dropped (h : Keeping s) (hsilent : OthersSilent s) :
    Keeping (dropOrigin s) ∧ OthersSilent (dropOrigin s) := by
  have hdata : ∀ fd, (dropOrigin s).sel.dataOf fd =
      if fd = s.conn.originFd then none else s.sel.dataOf fd :=
    fun _ => dataOf_selectorUnregister
  have hinterest : ∀ fd, (dropOrigin s).interestOf fd =
      if fd = s.conn.originFd then none else s.interestOf fd :=
    fun _ => interestOf_selectorUnregister
  refine ⟨⟨?_, ?_, ?_, h.settled⟩, ?_⟩
  · rw [length_fds_dropOrigin]
    exact h.table
  · exact (hdata s.conn.clientFd).trans ((if_neg h.distinct.symm).trans h.client)
  · exact (ne_neg_one_of_valid (invalidFd_of_dataOf h.client)).symm
  · intro fd hfd hne j hj
    rw [hdata] at hfd
    rw [hinterest] at hj
    by_cases horigin : fd = s.conn.originFd
    · rw [if_pos horigin] at hj
      cases hj
    · rw [if_neg horigin] at hfd hj
      exact hsilent fd hfd hne j hj

theorem Keeping.replyWith {rep : UInt8} (h : Keeping s) (hsilent : OthersSilent s) :
    KeepingResult (replyWith rep s) := by
  have hrep : Keeping { s with conn.reply.rep := rep } := h.congr rfl rfl rfl rfl .refl
  have hsilent' : OthersSilent { s with conn.reply.rep := rep } := hsilent.congr rfl rfl rfl
  exact ⟨hrep.setInterest, .inr (hsilent'.setInterest (.inl rfl))⟩

theorem greetingRead_keeping (h : Keeping s) (honly : ClientOnly s) :
    KeepingResult (greetingRead env key s) := by
  have hframe : Frame s (greetingRead env key s).1 := greetingRead_frame.toFrame
  have hwire := greetingRead_wire env key s
  refine ⟨h.wire hframe hwire, ?_⟩
  rcases greetingRead_stays env key s with (⟨hst, -⟩ | hst | hst) | ⟨hst, -⟩
  · exact .inr (hst ▸ honly.wire hframe hwire)
  · exact .inl (.inl hst)
  · exact .inl (.inr hst)
  · exact .inr (hst ▸ honly.wire hframe hwire)

theorem authRead_keeping (h : Keeping s) (honly : ClientOnly s) :
    KeepingResult (authRead env key s) := by
  have hframe := (authRead_frame env key s).toFrame
  have hwire := authRead_wire env key s
  refine ⟨h.wire hframe hwire, ?_⟩
  rcases authRead_stays env key s with (⟨hst, -⟩ | hst | hst) | ⟨hst, -⟩
  · exact .inr (hst ▸ honly.wire hframe hwire)
  · exact .inl (.inl hst)
  · exact .inl (.inr hst)
  · exact .inr (hst ▸ honly.wire hframe hwire)

/-- The answer of a handshake state has been sent, and the requests begin. -/
theorem greetingWrite_keeping (h : Keeping s) (honly : ClientOnly s) :
    KeepingResult (greetingWrite env key s) := by
  have hframe := (greetingWrite_frame env key s).toFrame
  have hwire : WireFrame s (greetingWrite env key s).1 := greetingWrite_wire
  have hcases := greetingWrite_cases env key s
  refine ⟨h.wire hframe hwire, ?_⟩
  have honly' := honly.wire hframe hwire
  generalize greetingWrite env key s = r at hcases honly' ⊢
  obtain ⟨t, st⟩ := r
  rcases hcases with _ | ⟨-, -⟩ | ⟨-, -, -⟩ | ⟨-, hleft, -⟩
  · exact .inl (.inl rfl)
  · exact .inr honly'
  · exact .inr honly'
  · exact .inr ⟨honly'.silent, hleft⟩

theorem authWrite_keeping (h : Keeping s) (honly : ClientOnly s) :
    KeepingResult (authWrite env key s) := by
  have hframe := (authWrite_frame env key s).toFrame
  have hwire : WireFrame s (authWrite env key s).1 := authWrite_wire
  have hcases := authWrite_cases env key s
  refine ⟨h.wire hframe hwire, ?_⟩
  have honly' := honly.wire hframe hwire
  generalize authWrite env key s = r at hcases honly' ⊢
  obtain ⟨t, st⟩ := r
  rcases hcases with _ | ⟨-, -⟩ | ⟨-, -, -⟩ | ⟨-, hleft, -⟩
  · exact .inl (.inl rfl)
  · exact .inr honly'
  · exact .inl (.inl rfl)
  · exact .inr ⟨honly'.silent, hleft⟩

theorem Decided.keeping {attempts : Prop} (h : Decided env key attempts s r) (hs : Keeping s)
    (hrequest : KeepingIn s .request) (hfresh : FreshSockets s env)
    (hkey : key.data = s.address) : KeepingResult r := by
  obtain ⟨hsilent, hempty⟩ := hrequest
  rcases h with ⟨-, -⟩ | ⟨hattempted, -, -, -⟩ | ⟨hattempted, -⟩
  · exact hs.replyWith hsilent
  · obtain ⟨hkeeping, hsilent', -⟩ := hattempted.keeping hs hsilent hfresh hkey
    exact hkeeping.replyWith hsilent'
  · obtain ⟨hkeeping, hsilent', hopen⟩ := hattempted.keeping hs hsilent hfresh hkey
    have hcontent := congrArg Buffer.content hattempted.originBufferEq
    exact ⟨hkeeping.setInterest,
      .inr ⟨hsilent'.setInterest (.inl rfl), hcontent.trans hempty, hopen⟩⟩

theorem requestRead_keeping (hs : Keeping s) (hrequest : KeepingIn s .request)
    (hfresh : FreshSockets s env) (hkey : key.data = s.address)
    (h : requestRead env key s = .ok r) : KeepingResult r := by
  have hdecode : ∀ {u : Session}, DecodeFrame s u → KeepingIn u .request := by
    intro u hframe
    refine ⟨hrequest.1.congr (congrArg FdSelector.fds hframe.sel) hframe.address
      hframe.clientFd, ?_⟩
    rw [hframe.originBufferEq]
    exact hrequest.2
  rcases requestRead_cases hfresh hs.table h with ⟨hframe, hst, -⟩ | ⟨hframe, hst, -⟩ |
    ⟨hframe, -, hdecided⟩
  · refine ⟨hs.decode hframe, ?_⟩
    rcases hst with hst | hst
    · exact .inr (hst ▸ hdecode hframe)
    · exact .inl (.inr hst)
  · exact ⟨hs.decode hframe, .inr (hst ▸ hdecode hframe)⟩
  · refine hdecided.keeping (hs.decode hframe) (hdecode hframe) (hfresh.decode hframe) ?_
    rw [hkey, hframe.address]

theorem connectWrite_keeping (hs : Keeping s) (hconnect : KeepingIn s .connect)
    (hfresh : FreshSockets (dropOrigin s) env) (hkey : key.data = s.address)
    (h : connectWrite env key s = .ok r) : KeepingResult r := by
  obtain ⟨hsilent, hempty, -⟩ := hconnect
  obtain ⟨hdropped, hsilent'⟩ := hs.dropped hsilent
  have hnext : Keeping (getNextResolution (dropOrigin s)) := hdropped.congr rfl rfl rfl rfl .refl
  rcases connectWrite_cases hfresh hs.table h with ⟨-⟩ | ⟨-, -, -⟩ | ⟨-, -, hattempted, -, -⟩ |
    ⟨-, -, hattempted⟩ | ⟨-, -⟩
  · exact hs.replyWith hsilent
  · exact hdropped.replyWith hsilent'
  · obtain ⟨hkeeping, hquiet, -⟩ := hattempted.keeping hnext hsilent' hfresh hkey
    exact hkeeping.replyWith hquiet
  · obtain ⟨hkeeping, hquiet, hopen⟩ := hattempted.keeping hnext hsilent' hfresh hkey
    have hcontent := congrArg Buffer.content hattempted.originBufferEq
    exact ⟨hkeeping, .inr ⟨hquiet, hcontent.trans hempty, hopen⟩⟩
  · exact (hs.setInterest).replyWith (hsilent.setInterest (.inr rfl))

theorem replyWrite_keeping (hs : Keeping s) (hsilent : OthersSilent s) :
    KeepingResult (replyWrite env s) := by
  have hframe : Frame s (replyWrite env s).1 := replyWrite_frame
  rcases hfound : s.conn.reply.foundBndInfo with _ | _
  · rw [replyWrite, if_pos hfound]
    exact ⟨hs, .inl (.inl rfl)⟩
  · obtain ⟨b, action, -, -, hwrite⟩ := replyWrite_eq env s hfound
    have hbuffer : s.conn.originBuffer.Keeps b := by
      rw [hwrite] at hframe
      dsimp only at hframe
      split_ifs at hframe <;> exact hframe.originBuffer
    have hsent : Keeping (({ s with conn.originBuffer := b }).act action) :=
      hs.congr rfl rfl rfl rfl hbuffer
    have hsilent' : OthersSilent (({ s with conn.originBuffer := b }).act action) :=
      hsilent.congr rfl rfl rfl
    rw [hwrite]
    dsimp only
    by_cases hleft : bufferCanRead b = true
    · rw [if_pos hleft]
      exact ⟨hsent, .inr hsilent'⟩
    · rw [if_neg hleft]
      have hempty : b.content = [] := by
        by_contra hne
        exact hleft (bufferCanRead_iff.mpr hne)
      by_cases hrep : s.conn.reply.rep = succeded
      · rw [if_pos hrep]
        exact ⟨hsent, .inr trivial⟩
      · rw [if_neg hrep]
        exact ⟨hsent.setInterest, .inr ⟨hsilent'.setInterest (.inl rfl), hempty⟩⟩

theorem CopyEnds.keeping (h : CopyEnds r.2) (hr : Keeping r.1) : KeepingResult r := by
  refine ⟨hr, ?_⟩
  rcases h with hst | hst
  · exact .inr (hst ▸ trivial)
  · exact .inl hst

end Keeping

/-! ## One event -/

section Step

variable {s t : Session} {env : Env} {key : SelectorKey} {fd : ℤ} {st : SocksV5State}
  {r : Session × SocksV5State} {callback : Session → Except Fault (Session × SocksV5State)}

theorem KeepingIn.congr (h : KeepingIn s st) (hfds : t.sel.fds = s.sel.fds)
    (haddress : t.address = s.address) (hclient : t.conn.clientFd = s.conn.clientFd)
    (horigin : t.conn.originFd = s.conn.originFd)
    (hbuffer : t.conn.originBuffer = s.conn.originBuffer) : KeepingIn t st := by
  have hsilent : OthersSilent s → OthersSilent t := fun h => h.congr hfds haddress hclient
  rcases st
  · exact ClientOnly.congr h hfds haddress hclient
  · exact ClientOnly.congr h hfds haddress hclient
  · rw [KeepingIn, hbuffer]
    exact h.imp_left hsilent
  · rw [KeepingIn, hbuffer, horigin]
    exact h.imp_left hsilent
  · exact hsilent h
  · trivial
  · exact h
  · exact h

theorem Keeping.arrived (h : Keeping s) : Keeping s.arrived := by
  obtain ⟨g, hg⟩ := arrived_eq s
  rw [hg]
  exact h.congr rfl rfl rfl rfl .refl

theorem KeepingIn.arrived (h : KeepingIn s st) : KeepingIn s.arrived st := by
  obtain ⟨g, hg⟩ := arrived_eq s
  rw [hg]
  exact h.congr rfl rfl rfl rfl rfl

theorem onReadReady_keeping (h : Keeping s) (hst : KeepingIn s st)
    (hfresh : st = .request → FreshSockets s env)
    (hselect : (socks5States env ⟨fd, s.address⟩ st).onReadReady = some callback)
    (hcall : callback s = .ok r) : KeepingResult r := by
  rcases st <;> cases hselect
  · rw [← Except.ok.inj hcall]
    exact greetingRead_keeping h hst
  · rw [← Except.ok.inj hcall]
    exact authRead_keeping h hst
  · exact requestRead_keeping h hst (hfresh rfl) rfl hcall
  · rw [← Except.ok.inj hcall]
    exact (socksv5CopyRead_ends _ _ _).keeping (h.wire socksv5CopyRead_frame socksv5CopyRead_wire)

theorem onWriteReady_keeping (h : Keeping s) (hst : KeepingIn s st)
    (hfresh : st = .connect → FreshSockets (dropOrigin s) env)
    (hselect : (socks5States env ⟨fd, s.address⟩ st).onWriteReady = some callback)
    (hcall : callback s = .ok r) : KeepingResult r := by
  rcases st <;> cases hselect
  · rw [← Except.ok.inj hcall]
    exact greetingWrite_keeping h hst
  · rw [← Except.ok.inj hcall]
    exact authWrite_keeping h hst
  · exact connectWrite_keeping h hst (hfresh rfl) rfl hcall
  · rw [← Except.ok.inj hcall]
    exact replyWrite_keeping h hst
  · rw [← Except.ok.inj hcall]
    exact (socksv5CopyWrite_ends _ _ _).keeping
      (h.wire socksv5CopyWrite_frame socksv5CopyWrite_wire)

theorem onBlockReady_keeping (h : Keeping s) (hst : KeepingIn s st)
    (hfresh : st = .request → FreshSockets s env)
    (hselect : (socks5States env ⟨fd, s.address⟩ st).onBlockReady = some callback)
    (hcall : callback s = .ok r) : KeepingResult r := by
  rcases st <;> cases hselect
  exact (connectToDest_decided (hfresh rfl) h.table hcall).keeping h hst (hfresh rfl) rfl

theorem settle_kept (h : KeepingResult r) (hopen : r.1.conn.closed = false) :
    (settle env key st r).conn.closed = true ∨ Kept (settle env key st r) := by
  obtain ⟨u, next⟩ := r
  obtain ⟨hkeeping, hstop | hin⟩ := h
  · left
    rw [settle_stop hstop]
    exact teardown_closed
  · right
    have hlive : next ≠ .error ∧ next ≠ .done := by
      constructor <;> (intro heq; rw [heq] at hin; exact hin)
    by_cases hst : st = next
    · rw [hst, settle_stay hlive.1 hlive.2]
      exact ⟨hkeeping.congr rfl rfl rfl rfl .refl, hopen, hin.congr rfl rfl rfl rfl rfl⟩
    · rw [settle_move hst hlive.1 hlive.2]
      have hframe : Frame u (callIfSome (socks5States env key next).onArrival u) := arrival_frame
      have harrived : Keeping (callIfSome (socks5States env key next).onArrival u) :=
        hkeeping.wire hframe arrival_wire
      refine ⟨harrived.congr rfl rfl rfl rfl .refl, hframe.closed.trans hopen, ?_⟩
      rcases next
      · exact ClientOnly.congr hin rfl rfl rfl
      · exact ClientOnly.congr hin rfl rfl rfl
      · exact (show KeepingIn u .request from hin).congr rfl rfl rfl rfl rfl
      · exact (show KeepingIn u .connect from hin).congr rfl rfl rfl rfl rfl
      · obtain ⟨b, found, harrival⟩ := replyArrival_eq env u
        change OthersSilent { replyArrival env u with conn.stm := _ }
        rw [harrival]
        exact OthersSilent.congr hin rfl rfl rfl
      · trivial
      · exact hin
      · exact hin

/-- An event ends the connection or leaves it as it should be. -/
theorem Kept.next {e : Event} (h : Kept s) (hfresh : FreshAt s e)
    (hstep : step s e = .ok t) : t.conn.closed = true ∨ Kept t := by
  have hkeeping := h.toKeeping.arrived
  have hin := h.inState.arrived
  have haddress : s.arrived.address = s.address := arrived_frame.address
  have hclosed : s.arrived.conn.closed = s.conn.closed := arrived_frame.closed
  rcases e with ⟨fd, env⟩ | ⟨fd, env⟩ | ⟨fd, env⟩ | result | errno
  · obtain ⟨hopen, callback, r, hselect, hcall, rfl⟩ := step_read_ok hstep
    have hopen' := ((onReadReady_frame hselect hcall).closed.trans hclosed).trans hopen
    rw [← haddress] at hselect ⊢
    exact settle_kept (onReadReady_keeping hkeeping hin
      (fun hst => freshSockets_arrived (hfresh hst)) hselect hcall) hopen'
  · obtain ⟨hopen, callback, r, hselect, hcall, rfl⟩ := step_write_ok hstep
    have hopen' := ((onWriteReady_frame hselect hcall).closed.trans hclosed).trans hopen
    rw [← haddress] at hselect ⊢
    exact settle_kept (onWriteReady_keeping hkeeping hin
      (fun hst => freshSockets_dropOrigin_arrived (hfresh hst)) hselect hcall) hopen'
  · obtain ⟨hopen, callback, r, u, hselect, hcall, hu, rfl⟩ := step_block_ok hstep
    have hopen' := ((onBlockReady_frame hselect hcall).closed.trans hclosed).trans hopen
    rw [← haddress] at hselect hu
    have hkept : u.conn.closed = true ∨ Kept u := by
      rw [hu]
      exact settle_kept (onBlockReady_keeping hkeeping hin
        (fun hst => freshSockets_arrived (hfresh hst)) hselect hcall) hopen'
    refine hkept.imp_right fun hkept => ?_
    exact ⟨hkept.toKeeping.congr rfl rfl rfl rfl .refl, hkept.isOpen,
      hkept.inState.congr rfl rfl rfl rfl rfl⟩
  · obtain ⟨-, rfl⟩ := step_resolved_ok_iff.mp hstep
    exact .inr ⟨h.toKeeping.congr rfl rfl rfl rfl .refl, h.isOpen,
      h.inState.congr rfl rfl rfl rfl rfl⟩
  · obtain ⟨-, rfl⟩ := step_connectFinished_ok_iff.mp hstep
    exact .inr ⟨h.toKeeping.congr rfl rfl rfl rfl .refl, h.isOpen,
      h.inState.congr rfl rfl rfl rfl rfl⟩

theorem passiveAccept_kept {bufferSize : ℕ} {sel : FdSelector FdHandler ℕ}
    {metrics : MetricSnapshot} {a : Accepted}
    (h : socksv5PassiveAccept bufferSize sel metrics a = some s) (hfresh : Fresh sel a) :
    Kept s := by
  have hwired := passiveAccept_wired h hfresh
  obtain ⟨-, hs⟩ := passiveAccept_eq h
  have hstate : s.state = .greeting := by rw [hs]; rfl
  refine ⟨⟨hwired.table, hwired.client, hwired.distinct, ?_⟩, ?_, ?_⟩
  · rw [hs]
    exact bufferInit_settled _ _
  · rw [hs]
    rfl
  · have honly := hwired.interests
    rw [hstate] at honly ⊢
    exact honly

end Step

end Socks5Proxy

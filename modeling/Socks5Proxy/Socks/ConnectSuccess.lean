import Socks5Proxy.Socks.Teardown

/-!
# What a success reply stands for

CONNECT has both descriptors registered for writing with one callback, which
asks `getsockopt` for the outcome of the attempt.  The kernel answers zero
while the attempt is pending, and the client's descriptor may become writable
first: the success is then reported before there is a connection.  A second
slip is in the failure codes of the last address.
-/

namespace Socks5Proxy

open Library

/-! ## The attempt, as the kernel sees it -/

/-- How far the latest `connect` of a connection has come. -/
inductive ConnectStatus
  | idle
  | pending
  | succeeded
  | failed (errno : ℤ)
  deriving DecidableEq

namespace ConnectStatus

/-- One call, or the kernel finishing an attempt. -/
def after (status : ConnectStatus) : Action → ConnectStatus
  | .connect _ _ .success => .succeeded
  | .connect _ _ (.error errno) => if errno = einprogress then .pending else .failed errno
  | .connectFinished _ errno => if errno = 0 then .succeeded else .failed errno
  | _ => status

/-- An attempt that CONNECT can find. -/
def Started (status : ConnectStatus) : Prop := status ≠ .idle ∧ status ≠ .failed 0

end ConnectStatus

def connectStatus (log : List Action) : ConnectStatus := log.foldl .after .idle

/-- A success reply is produced only once the connection is established. -/
def SuccessIsConnected (s : Session) : Prop :=
  s.state = .reply → s.conn.reply.rep = succeded → connectStatus s.log = .succeeded

/-- What is assumed of the kernel: `getsockopt` yields zero while the attempt
is pending and when it has succeeded, and the error of one that failed; the
origin's descriptor is not writable before the attempt has finished. -/
def KernelConnects (s : Session) : Event → Prop
  | .write fd env => s.state = .connect →
      match connectStatus s.log with
      | .idle => True
      | .pending => env.getsockopt = some 0 ∧ fd ≠ s.conn.originFd
      | .succeeded => env.getsockopt = some 0
      | .failed errno => env.getsockopt = some errno
  | .connectFinished _ => connectStatus s.log = .pending
  | _ => True

/-- The events a connection can get from such a kernel. -/
def Offered (s : Session) (e : Event) : Prop :=
  Enabled s e ∧ FreshAt s e ∧ KernelConnects s e

/-- CONNECT is not woken while the attempt is pending, and the last address
does not fail with an error whose number is that of one of four reply codes.
Without an address list the callback dereferences a null pointer instead. -/
def AwaitsOutcome (s : Session) : Event → Prop
  | .write _ _ => s.state = .connect →
      match connectStatus s.log with
      | .pending => s.conn.originResolution = []
      | .failed errno => s.conn.originResolution.length = 1 →
          errno ≠ networkUnreachable.toNat ∧ errno ≠ hostUnreachable.toNat ∧
            errno ≠ connectionRefused.toNat ∧ errno ≠ ttlExpired.toNat
      | _ => True
  | _ => True

instance KernelConnects.decidable (s : Session) : (e : Event) → Decidable (KernelConnects s e)
  | .write fd env =>
    have : Decidable (match connectStatus s.log with
        | .idle => True
        | .pending => env.getsockopt = some 0 ∧ fd ≠ s.conn.originFd
        | .succeeded => env.getsockopt = some 0
        | .failed errno => env.getsockopt = some errno) :=
      match connectStatus s.log with
      | .idle => .isTrue trivial
      | .pending => inferInstanceAs (Decidable (_ ∧ _))
      | .succeeded => inferInstanceAs (Decidable (_ = _))
      | .failed _ => inferInstanceAs (Decidable (_ = _))
    inferInstanceAs (Decidable (s.state = .connect → _))
  | .connectFinished _ => inferInstanceAs (Decidable (connectStatus s.log = .pending))
  | .read _ _ => .isTrue trivial
  | .block _ _ => .isTrue trivial
  | .resolved _ => .isTrue trivial

instance AwaitsOutcome.decidable (s : Session) : (e : Event) → Decidable (AwaitsOutcome s e)
  | .write _ _ =>
    have : Decidable (match connectStatus s.log with
        | .pending => s.conn.originResolution = []
        | .failed errno => s.conn.originResolution.length = 1 →
            errno ≠ networkUnreachable.toNat ∧ errno ≠ hostUnreachable.toNat ∧
              errno ≠ connectionRefused.toNat ∧ errno ≠ ttlExpired.toNat
        | _ => True) :=
      match connectStatus s.log with
      | .idle => .isTrue trivial
      | .pending => inferInstanceAs (Decidable (_ = _))
      | .succeeded => .isTrue trivial
      | .failed _ => inferInstanceAs (Decidable (_ → _ ∧ _))
    inferInstanceAs (Decidable (s.state = .connect → _))
  | .connectFinished _ => .isTrue trivial
  | .read _ _ => .isTrue trivial
  | .block _ _ => .isTrue trivial
  | .resolved _ => .isTrue trivial

/-! ## The status through the log -/

section Status

variable {s t : Session} {env : Env} {key : SelectorKey} {r : Session × SocksV5State}
  {log log' : List Action} {action : Action}

theorem connectStatus_append :
    connectStatus (log ++ log') = log'.foldl .after (connectStatus log) :=
  List.foldl_append

theorem connectStatus_concat :
    connectStatus (log ++ [action]) = (connectStatus log).after action :=
  connectStatus_append

theorem Action.Plain.after (h : action.Plain) (status : ConnectStatus) :
    status.after action = status := by
  rcases action <;> first | rfl | exact h.elim

theorem connectStatus_plain (h : ∀ action ∈ log', action.Plain) :
    connectStatus (log ++ log') = connectStatus log := by
  rw [connectStatus_append]
  induction log' with
  | nil => rfl
  | cons action log' ih =>
      rw [List.foldl_cons, (h action List.mem_cons_self).after]
      exact ih fun a ha => h a (List.mem_cons_of_mem action ha)

theorem DecodeFrame.connectStatus (h : DecodeFrame s t) :
    Socks5Proxy.connectStatus t.log = Socks5Proxy.connectStatus s.log := by
  obtain ⟨log, hlog, hplain⟩ := h.calls
  rw [hlog, connectStatus_plain hplain]

/-- An attempt that is left to CONNECT is pending. -/
theorem Attempted.pending_status (h : Attempted env key s t connectionInProgress) :
    Socks5Proxy.connectStatus t.log = .pending := by
  obtain ⟨log, ai, result, hlog, -, hresult⟩ := h.calls
  rw [hlog, ← List.append_assoc, connectStatus_concat, hresult rfl]
  rfl

/-- A callback reports no success without a connection. -/
def ReportsConnected (r : Session × SocksV5State) : Prop :=
  r.2 = .reply → r.1.conn.reply.rep = succeded → connectStatus r.1.log = .succeeded

/-- A callback that goes on to CONNECT leaves an attempt behind. -/
def LeavesAttempt (r : Session × SocksV5State) : Prop :=
  r.2 = .connect → (connectStatus r.1.log).Started

theorem reportsConnected_of_ne (h : r.2 ≠ .reply) : ReportsConnected r := fun hst => absurd hst h

theorem leavesAttempt_of_ne (h : r.2 ≠ .connect) : LeavesAttempt r := fun hst => absurd hst h

theorem replyWith_reports {rep : UInt8} (hrep : rep ≠ succeded) :
    ReportsConnected (replyWith rep s) := fun _ heq => absurd heq hrep

theorem replyWith_leaves {rep : UInt8} : LeavesAttempt (replyWith rep s) :=
  leavesAttempt_of_ne (by simp [replyWith, toReplyState])

theorem pending_reports (h : connectStatus t.log = .pending) :
    ReportsConnected (t, .connect) ∧ LeavesAttempt (t, .connect) := by
  refine ⟨reportsConnected_of_ne (by simp), ?_⟩
  intro _
  dsimp only
  rw [h]
  exact ⟨by simp, by simp⟩

theorem Decided.reports {attempts : Prop} (h : Decided env key attempts s r) :
    ReportsConnected r ∧ LeavesAttempt r := by
  rcases h with ⟨hrep, -⟩ | ⟨-, -, hrep, -⟩ | ⟨hattempted, -⟩
  · exact ⟨replyWith_reports hrep, replyWith_leaves⟩
  · exact ⟨replyWith_reports hrep, replyWith_leaves⟩
  · exact pending_reports hattempted.pending_status

theorem requestRead_reports (hfresh : FreshSockets s env)
    (htable : fdSetsize < s.sel.fds.length) (h : requestRead env key s = .ok r) :
    ReportsConnected r ∧ LeavesAttempt r := by
  rcases requestRead_cases hfresh htable h with ⟨-, hst, -⟩ | ⟨-, hst, -⟩ | ⟨-, -, hdecided⟩
  · refine ⟨reportsConnected_of_ne ?_, leavesAttempt_of_ne ?_⟩ <;>
      (rcases hst with hst | hst <;> simp [hst])
  · exact ⟨reportsConnected_of_ne (by simp [hst]), leavesAttempt_of_ne (by simp [hst])⟩
  · exact hdecided.reports

theorem replyWrite_reports (hreply : s.conn.reply.rep = succeded →
    connectStatus s.log = .succeeded) :
    ReportsConnected (replyWrite env s) ∧ LeavesAttempt (replyWrite env s) := by
  rcases hfound : s.conn.reply.foundBndInfo with _ | _
  · rw [replyWrite, if_pos hfound]
    exact ⟨reportsConnected_of_ne (by simp), leavesAttempt_of_ne (by simp)⟩
  · obtain ⟨b, action, hplain, -, hwrite⟩ := replyWrite_eq env s hfound
    rw [hwrite]
    dsimp only
    split_ifs with hleft hrep
    · refine ⟨?_, leavesAttempt_of_ne (by simp)⟩
      intro _ hrep
      change connectStatus (s.log ++ [action]) = _
      rw [connectStatus_concat, hplain.after]
      exact hreply hrep
    · exact ⟨reportsConnected_of_ne (by simp), leavesAttempt_of_ne (by simp)⟩
    · exact ⟨reportsConnected_of_ne (by simp), leavesAttempt_of_ne (by simp)⟩

/-- The other callbacks go on to neither state. -/
def EndsQuietly (r : Session × SocksV5State) : Prop := r.2 ≠ .reply ∧ r.2 ≠ .connect

theorem EndsQuietly.reports (h : EndsQuietly r) : ReportsConnected r ∧ LeavesAttempt r :=
  ⟨reportsConnected_of_ne h.1, leavesAttempt_of_ne h.2⟩

theorem greetingRead_quiet (env : Env) (key : SelectorKey) (s : Session) :
    EndsQuietly (greetingRead env key s) := by
  rcases greetingRead_stays env key s with (⟨hst, -⟩ | hst | hst) | ⟨hst, -⟩ <;>
    simp [EndsQuietly, hst]

theorem authRead_quiet (env : Env) (key : SelectorKey) (s : Session) :
    EndsQuietly (authRead env key s) := by
  rcases authRead_stays env key s with (⟨hst, -⟩ | hst | hst) | ⟨hst, -⟩ <;>
    simp [EndsQuietly, hst]

theorem greetingWrite_quiet (env : Env) (key : SelectorKey) (s : Session) :
    EndsQuietly (greetingWrite env key s) := by
  have hcases := greetingWrite_cases env key s
  generalize greetingWrite env key s = r at hcases ⊢
  obtain ⟨t, st⟩ := r
  rcases hcases with _ | _ | _ | _ <;> simp [EndsQuietly]

theorem authWrite_quiet (env : Env) (key : SelectorKey) (s : Session) :
    EndsQuietly (authWrite env key s) := by
  have hcases := authWrite_cases env key s
  generalize authWrite env key s = r at hcases ⊢
  obtain ⟨t, st⟩ := r
  rcases hcases with _ | _ | _ | _ <;> simp [EndsQuietly]

theorem CopyEnds.quiet (h : CopyEnds r.2) : EndsQuietly r := by
  rcases h with hst | hst | hst <;> simp [EndsQuietly, hst]

end Status

/-! ## The callback of CONNECT -/

section Connect

variable {s t : Session} {env : Env} {key : SelectorKey} {r : Session × SocksV5State}

theorem sockError_of_open (env : Env) (h : 0 ≤ s.conn.originFd) :
    sockError env s.conn.originFd = env.getsockopt :=
  if_neg (by omega)

theorem Wired.originFd_nonneg (h : Wired s) (hstate : s.state = .connect) :
    0 ≤ s.conn.originFd := by
  have hinterests := h.interests
  rw [hstate] at hinterests
  have hvalid := invalidFd_of_dataOf hinterests.2.1
  rw [invalidFd_eq_false_iff] at hvalid
  exact hvalid.1

/-- Zero from `getsockopt` is taken for success. -/
theorem connectWrite_connected (herror : sockError env s.conn.originFd = some 0)
    (haddresses : s.conn.originResolution ≠ []) :
    connectWrite env key s = .ok (replyWith succeded (s.setInterest s.conn.originFd .opNoop)) := by
  unfold connectWrite
  rw [herror]
  dsimp only
  rw [if_neg (by simp), printConnectionAccessLog]
  rcases hlist : s.conn.originResolution with _ | ⟨addr, rest⟩
  · exact absurd hlist haddresses
  · rfl

theorem connectWrite_exhausted {v : ℤ} {addr : SockAddr}
    (herror : sockError env s.conn.originFd = some v) (hv : v ≠ 0)
    (hlast : s.conn.originResolution = [addr]) :
    connectWrite env key s = .ok (replyWith (lastAddressRep v) (dropOrigin s)) := by
  have hdropped : (dropOrigin s).conn.originResolution = [addr] := hlast
  unfold connectWrite
  rw [herror]
  dsimp only
  rw [if_pos hv, hdropped]

theorem lastAddressRep_ne_succeded_iff {v : ℤ} :
    lastAddressRep v ≠ succeded ↔
      v ≠ networkUnreachable.toNat ∧ v ≠ hostUnreachable.toNat ∧
        v ≠ connectionRefused.toNat ∧ v ≠ ttlExpired.toNat := by
  unfold lastAddressRep
  split_ifs with h1 h2 h3 h4
  · simp [h1, succeded]
  · simp [h2, succeded]
  · simp [h3, succeded]
  · simp [h4, succeded]
  · simp [h1, h2, h3, h4, serverFailure, succeded]

theorem KernelConnects.getsockopt {fd : ℤ} (h : KernelConnects s (.write fd env))
    (hstate : s.state = .connect) (hstarted : (connectStatus s.log).Started) :
    (connectStatus s.log = .pending ∨ connectStatus s.log = .succeeded) ∧
        env.getsockopt = some 0 ∨
      ∃ errno, connectStatus s.log = .failed errno ∧ env.getsockopt = some errno ∧
        errno ≠ 0 := by
  have hkernel := h hstate
  obtain ⟨hidle, hfailed⟩ := hstarted
  rcases hstatus : connectStatus s.log with _ | _ | _ | errno
  · exact absurd hstatus hidle
  · rw [hstatus] at hkernel
    exact .inl ⟨.inl rfl, hkernel.1⟩
  · rw [hstatus] at hkernel
    exact .inl ⟨.inr rfl, hkernel⟩
  · rw [hstatus] at hkernel hfailed
    refine .inr ⟨errno, rfl, hkernel, ?_⟩
    intro hzero
    exact hfailed (by rw [hzero])

theorem AwaitsOutcome.of_pending {fd : ℤ} (h : AwaitsOutcome s (.write fd env))
    (hstate : s.state = .connect) (hstatus : connectStatus s.log = .pending) :
    s.conn.originResolution = [] := by
  have hawaits := h hstate
  rw [hstatus] at hawaits
  exact hawaits

theorem AwaitsOutcome.of_failed {fd errno : ℤ} {addr : SockAddr}
    (h : AwaitsOutcome s (.write fd env)) (hstate : s.state = .connect)
    (hstatus : connectStatus s.log = .failed errno)
    (hlast : s.conn.originResolution = [addr]) : lastAddressRep errno ≠ succeded := by
  have hawaits := h hstate
  rw [hstatus] at hawaits
  exact lastAddressRep_ne_succeded_iff.mpr (hawaits (by rw [hlast, List.length_singleton]))

/-- Where the wakeup waited for the outcome, the reply tells it. -/
theorem connectWrite_reports {fd : ℤ} (hs : Wired s) (hstate : s.state = .connect)
    (hstarted : (connectStatus s.log).Started) (hfresh : FreshSockets (dropOrigin s) env)
    (hkernel : KernelConnects s (.write fd env)) (hcall : connectWrite env key s = .ok r) :
    LeavesAttempt r ∧ (AwaitsOutcome s (.write fd env) → ReportsConnected r) := by
  have hanswer := hkernel.getsockopt hstate hstarted
  rw [← sockError_of_open env (hs.originFd_nonneg hstate)] at hanswer
  rcases connectWrite_cases hfresh hs.table hcall with ⟨herror⟩ | ⟨herror, hv, hlast⟩ |
    ⟨herror, hv, hattempted, hret, hrep⟩ | ⟨herror, hv, hattempted⟩ | ⟨herror, haddresses⟩
  · rw [herror] at hanswer
    simp at hanswer
  · refine ⟨replyWith_leaves, fun hawaits => replyWith_reports ?_⟩
    rw [herror] at hanswer
    rcases hanswer with ⟨-, hzero⟩ | ⟨errno, hstatus, heq, -⟩
    · exact absurd (Option.some.inj hzero) hv
    · rw [Option.some.inj heq]
      exact hawaits.of_failed hstate hstatus hlast
  · exact ⟨replyWith_leaves, fun _ => replyWith_reports hrep⟩
  · obtain ⟨hreports, hleaves⟩ := pending_reports hattempted.pending_status
    exact ⟨hleaves, fun _ => hreports⟩
  · refine ⟨replyWith_leaves, ?_⟩
    intro hawaits _ _
    rw [herror] at hanswer
    rcases hanswer with ⟨hstatus | hstatus, -⟩ | ⟨errno, -, heq, hne⟩
    · exact absurd (hawaits.of_pending hstate hstatus) haddresses
    · exact hstatus
    · exact absurd (Option.some.inj heq).symm hne

/-- Where it did not, success is reported without a connection. -/
theorem connectWrite_premature {fd : ℤ} (key : SelectorKey) (hs : Wired s)
    (hstate : s.state = .connect) (hstarted : (connectStatus s.log).Started)
    (hkernel : KernelConnects s (.write fd env))
    (hawaits : ¬ AwaitsOutcome s (.write fd env)) :
    ∃ r, connectWrite env key s = .ok r ∧ ¬ ReportsConnected r := by
  have hanswer := hkernel.getsockopt hstate hstarted
  rw [← sockError_of_open env (hs.originFd_nonneg hstate)] at hanswer
  rcases hanswer with ⟨hstatus | hstatus, herror⟩ | ⟨errno, hstatus, herror, hne⟩
  · have haddresses : s.conn.originResolution ≠ [] := by
      intro hempty
      apply hawaits
      intro _
      rw [hstatus]
      exact hempty
    refine ⟨_, connectWrite_connected herror haddresses, ?_⟩
    intro hreports
    exact absurd (hstatus.symm.trans (hreports rfl rfl)) (by decide)
  · refine absurd ?_ hawaits
    intro _
    rw [hstatus]
    trivial
  · have hlast : ∃ addr, s.conn.originResolution = [addr] ∧ lastAddressRep errno = succeded := by
      by_contra hnone
      apply hawaits
      intro _
      rw [hstatus]
      intro hone
      obtain ⟨addr, hlast⟩ := List.length_eq_one_iff.mp hone
      exact lastAddressRep_ne_succeded_iff.mp fun hrep => hnone ⟨addr, hlast, hrep⟩
    obtain ⟨addr, hlast, hrep⟩ := hlast
    refine ⟨_, connectWrite_exhausted herror hne hlast, ?_⟩
    intro hreports
    have hsuccess : connectStatus (s.log ++ [.close s.conn.originFd]) = .succeeded :=
      hreports rfl hrep
    rw [connectStatus_concat, hstatus] at hsuccess
    cases hsuccess

end Connect

/-! ## One event -/

/-- A connection in use, with an attempt behind it in CONNECT. -/
structure Attempting (s : Session) : Prop extends Alive s where
  started : s.state = .connect → (connectStatus s.log).Started

section Step

variable {s t : Session} {env : Env} {key : SelectorKey} {fd : ℤ} {st : SocksV5State}
  {r : Session × SocksV5State}

/-- Arriving in REPLY or CONNECT makes no call and keeps the reply code. -/
theorem settle_record (env : Env) (key : SelectorKey) (st : SocksV5State)
    (hst : r.2 = .reply ∨ r.2 = .connect) :
    (settle env key st r).log = r.1.log ∧
      (settle env key st r).conn.reply.rep = r.1.conn.reply.rep := by
  obtain ⟨u, next⟩ := r
  have hlive : next ≠ .error ∧ next ≠ .done ∧ next ≠ .copy := by
    rcases hst with hst | hst <;> simp [show next = _ from hst]
  by_cases hsame : st = next
  · rw [hsame, settle_stay hlive.1 hlive.2.1]
    exact ⟨rfl, rfl⟩
  · rw [settle_move hsame hlive.1 hlive.2.1]
    obtain ⟨-, -, hrep, -, hlog⟩ := arrival_same env key u hlive.2.2
    exact ⟨hlog, hrep⟩

theorem settle_successIsConnected_iff :
    SuccessIsConnected (settle env key st r) ↔ ReportsConnected r := by
  rw [SuccessIsConnected, settle_state, ReportsConnected]
  refine imp_congr_right ?_
  intro hst
  obtain ⟨hlog, hrep⟩ := settle_record env key st (.inl hst)
  rw [hlog, hrep]

theorem Attempting.settled (halive : TornDown t ∨ Alive t) (ht : t = settle env key st r)
    (hleaves : LeavesAttempt r) : TornDown t ∨ Attempting t := by
  refine halive.imp_right ?_
  intro halive
  refine ⟨halive, ?_⟩
  intro hstate
  rw [ht, settle_state] at hstate
  rw [ht, (settle_record _ _ _ (.inr hstate)).1]
  exact hleaves hstate

variable {callback : Session → Except Fault (Session × SocksV5State)}

theorem onReadReady_reports (hfresh : st = .request → FreshSockets s env)
    (htable : fdSetsize < s.sel.fds.length)
    (hselect : (socks5States env key st).onReadReady = some callback)
    (hcall : callback s = .ok r) : ReportsConnected r ∧ LeavesAttempt r := by
  rcases st <;> cases hselect
  · rw [← Except.ok.inj hcall]
    exact (greetingRead_quiet env key s).reports
  · rw [← Except.ok.inj hcall]
    exact (authRead_quiet env key s).reports
  · exact requestRead_reports (hfresh rfl) htable hcall
  · rw [← Except.ok.inj hcall]
    exact (socksv5CopyRead_ends env key s).quiet.reports

theorem onWriteReady_reports (hst : st ≠ .connect)
    (hreply : st = .reply → s.conn.reply.rep = succeded → connectStatus s.log = .succeeded)
    (hselect : (socks5States env key st).onWriteReady = some callback)
    (hcall : callback s = .ok r) : ReportsConnected r ∧ LeavesAttempt r := by
  rcases st <;> cases hselect
  · rw [← Except.ok.inj hcall]
    exact (greetingWrite_quiet env key s).reports
  · rw [← Except.ok.inj hcall]
    exact (authWrite_quiet env key s).reports
  · exact absurd rfl hst
  · rw [← Except.ok.inj hcall]
    exact replyWrite_reports (hreply rfl)
  · rw [← Except.ok.inj hcall]
    exact (socksv5CopyWrite_ends env key s).quiet.reports

theorem onBlockReady_reports (hfresh : st = .request → FreshSockets s env)
    (htable : fdSetsize < s.sel.fds.length)
    (hselect : (socks5States env key st).onBlockReady = some callback)
    (hcall : callback s = .ok r) : ReportsConnected r ∧ LeavesAttempt r := by
  rcases st <;> cases hselect
  exact (connectToDest_decided (hfresh rfl) htable hcall).reports

/-- What an event does to the invariant and to the property. -/
def Tracks (s : Session) (e : Event) : Prop :=
  (∀ t, step s e = .ok t → TornDown t ∨ Attempting t) ∧
    ((∀ t, step s e = .ok t → SuccessIsConnected t) ↔ AwaitsOutcome s e)

/-- An event whose callback reports truly wherever it goes. -/
theorem Tracks.of_reports {e : Event} (hawaits : AwaitsOutcome s e)
    (hstep : ∀ t, step s e = .ok t → (TornDown t ∨ Attempting t) ∧ SuccessIsConnected t) :
    Tracks s e :=
  ⟨fun t ht => (hstep t ht).1, iff_of_true (fun t ht => (hstep t ht).2) hawaits⟩

theorem Attempting.sockoptAnswers {e : Event} (h : Attempting s) (hkernel : KernelConnects s e) :
    SockoptAnswers s e := by
  rcases e with _ | ⟨fd, env⟩ | _ | _ | _
  · trivial
  · intro hstate
    rcases hkernel.getsockopt hstate (h.started hstate) with ⟨-, hanswer⟩ | ⟨_, -, hanswer, -⟩
    · rw [hanswer]
      simp
    · rw [hanswer]
      simp
  · trivial
  · trivial
  · trivial

theorem Attempting.read_tracks (h : Attempting s) (hfresh : FreshAt s (.read fd env))
    (halive : ∀ t, step s (.read fd env) = .ok t → TornDown t ∨ Alive t) :
    Tracks s (.read fd env) := by
  refine .of_reports trivial ?_
  intro t hstep
  obtain ⟨-, callback, r, hselect, hcall, ht⟩ := step_read_ok hstep
  obtain ⟨hreports, hleaves⟩ := onReadReady_reports (fun hst => freshSockets_arrived (hfresh hst))
    (table_arrived h.wired) hselect hcall
  refine ⟨Attempting.settled (halive t hstep) ht hleaves, ?_⟩
  rw [ht]
  exact settle_successIsConnected_iff.mpr hreports

theorem Attempting.block_tracks (h : Attempting s) (hfresh : FreshAt s (.block fd env))
    (halive : ∀ t, step s (.block fd env) = .ok t → TornDown t ∨ Alive t) :
    Tracks s (.block fd env) := by
  refine .of_reports trivial ?_
  intro t hstep
  obtain ⟨-, callback, r, u, hselect, hcall, hu, ht⟩ := step_block_ok hstep
  obtain ⟨hreports, hleaves⟩ := onBlockReady_reports
    (fun hst => freshSockets_arrived (hfresh hst)) (table_arrived h.wired) hselect hcall
  have hstate : t.state = u.state := by rw [ht]; rfl
  have hlog : t.log = u.log := by rw [ht]
  have hrep : t.conn.reply.rep = u.conn.reply.rep := by rw [ht]
  have hu' : SuccessIsConnected u := by
    rw [hu]
    exact settle_successIsConnected_iff.mpr hreports
  constructor
  · refine (halive t hstep).imp_right ?_
    intro halive
    refine ⟨halive, ?_⟩
    rw [hstate, hlog, hu, settle_state]
    intro hst
    rw [(settle_record _ _ _ (.inr hst)).1]
    exact hleaves hst
  · rw [SuccessIsConnected, hstate, hlog, hrep]
    exact hu'

/-- The write event of CONNECT, where the property is decided. -/
theorem Attempting.connect_tracks (h : Attempting s) (hstate : s.state = .connect)
    (hfresh : FreshAt s (.write fd env))
    (hkernel : KernelConnects s (.write fd env))
    (halive : ∀ t, step s (.write fd env) = .ok t → TornDown t ∨ Alive t) :
    Tracks s (.write fd env) := by
  have hcallback : ∀ t, step s (.write fd env) = .ok t ↔
      ∃ r, connectWrite env ⟨fd, s.address⟩ s = .ok r ∧
        t = settle env ⟨fd, s.address⟩ .connect r :=
    fun _ => step_write_connect_iff hstate h.isOpen
  have hstarted := h.started hstate
  constructor
  · intro t hstep
    obtain ⟨r, hcall, ht⟩ := (hcallback t).mp hstep
    exact Attempting.settled (halive t hstep) ht
      (connectWrite_reports h.wired hstate hstarted (hfresh hstate) hkernel hcall).1
  · constructor
    · intro hreports
      by_contra hawaits
      obtain ⟨r, hcall, hpremature⟩ := connectWrite_premature ⟨fd, s.address⟩
        h.wired hstate hstarted hkernel hawaits
      refine hpremature ?_
      exact settle_successIsConnected_iff.mp (hreports _ ((hcallback _).mpr ⟨r, hcall, rfl⟩))
    · intro hawaits t hstep
      obtain ⟨r, hcall, ht⟩ := (hcallback t).mp hstep
      rw [ht]
      exact settle_successIsConnected_iff.mpr
        ((connectWrite_reports h.wired hstate hstarted (hfresh hstate) hkernel hcall).2 hawaits)

theorem write_tracks (hs : SuccessIsConnected s)
    (hst : s.state ≠ .connect)
    (halive : ∀ t, step s (.write fd env) = .ok t → TornDown t ∨ Alive t) :
    Tracks s (.write fd env) := by
  refine .of_reports (fun hstate => absurd hstate hst) ?_
  intro t hstep
  obtain ⟨-, callback, r, hselect, hcall, ht⟩ := step_write_ok hstep
  have hreply : s.state = .reply → s.arrived.conn.reply.rep = succeded →
      connectStatus s.arrived.log = .succeeded := by
    intro hstate
    rw [(arrived_of_some (stm_of_state hstate (by decide))).2]
    exact hs hstate
  obtain ⟨hreports, hleaves⟩ := onWriteReady_reports hst hreply hselect hcall
  refine ⟨Attempting.settled (halive t hstep) ht hleaves, ?_⟩
  rw [ht]
  exact settle_successIsConnected_iff.mpr hreports

theorem Attempting.resolved_tracks {result : List SockAddr} (h : Attempting s)
    (hs : SuccessIsConnected s)
    (halive : ∀ t, step s (.resolved result) = .ok t → TornDown t ∨ Alive t) :
    Tracks s (.resolved result) := by
  refine .of_reports trivial ?_
  intro t hstep
  have ht := halive t hstep
  obtain ⟨-, rfl⟩ := step_resolved_ok_iff.mp hstep
  exact ⟨ht.imp_right fun halive => ⟨halive, h.started⟩, hs⟩

/-- The kernel finishes an attempt that is pending. -/
theorem finished_tracks {errno : ℤ} (hs : SuccessIsConnected s)
    (hkernel : connectStatus s.log = .pending)
    (halive : ∀ t, step s (.connectFinished errno) = .ok t → TornDown t ∨ Alive t) :
    Tracks s (.connectFinished errno) := by
  refine .of_reports trivial ?_
  intro t hstep
  have ht := halive t hstep
  obtain ⟨-, rfl⟩ := step_connectFinished_ok_iff.mp hstep
  constructor
  · refine ht.imp_right ?_
    intro halive
    refine ⟨halive, ?_⟩
    intro _
    change (connectStatus (s.log ++ [_])).Started
    rw [connectStatus_concat, ConnectStatus.after]
    split_ifs with hzero <;> simp [ConnectStatus.Started, hzero]
  · intro hstate hrep
    exact absurd (hkernel.symm.trans (hs hstate hrep)) (by decide)

/-- Each event keeps the invariant, and keeps the property exactly if it waits
for the outcome. -/
theorem Attempting.step {e : Event} (h : Attempting s) (hoffered : Offered s e)
    (hs : SuccessIsConnected s) : Tracks s e := by
  obtain ⟨henabled, hfresh, hkernel⟩ := hoffered
  have halive : ∀ t, Socks5Proxy.step s e = .ok t → TornDown t ∨ Alive t := fun t =>
    h.toAlive.step henabled hfresh (h.sockoptAnswers hkernel)
  rcases e with ⟨fd, env⟩ | ⟨fd, env⟩ | ⟨fd, env⟩ | result | errno
  · exact h.read_tracks hfresh halive
  · by_cases hstate : s.state = .connect
    · exact h.connect_tracks hstate hfresh hkernel halive
    · exact write_tracks hs hstate halive
  · exact h.block_tracks hfresh halive
  · exact h.resolved_tracks hs halive
  · exact finished_tracks hs hkernel halive

end Step

/-! ## Whole runs -/

/-- On a kernel that answers as assumed, a connection reports success only when
its origin is connected, exactly in the runs that are woken in CONNECT by the
outcome, and by none of four error numbers on the last address. -/
theorem success_connected_iff {bufferSize : ℕ} {sel : FdSelector FdHandler ℕ}
    {metrics : MetricSnapshot} {a : Accepted} {s : Session}
    (haccept : socksv5PassiveAccept bufferSize sel metrics a = some s) (hfresh : Fresh sel a)
    {es : List Event} (hoffered : Steps step Offered s es) :
    Always step SuccessIsConnected s es ↔ Steps step AwaitsOutcome s es := by
  have hstate : s.state = .greeting := by
    rw [(passiveAccept_eq haccept).2]
    rfl
  refine always_iff_steps_of_admissible (I := fun s => TornDown s ∨ Attempting s) ?_ (.inr ?_)
    hoffered ?_
  · rintro s e (htorn | hattempting) hoffered hs
    · have hfault : ∀ t, step s e ≠ .ok t := by
        intro t hstep
        rw [htorn.step_fault] at hstep
        cases hstep
      obtain ⟨result, he⟩ := htorn.not_enabled hoffered.1
      subst he
      exact ⟨fun t ht => absurd ht (hfault t),
        iff_of_true (fun t ht => absurd ht (hfault t)) trivial⟩
    · exact hattempting.step hoffered hs
  · refine ⟨passiveAccept_alive haccept hfresh, ?_⟩
    intro hconnect
    rw [hstate] at hconnect
    cases hconnect
  · intro hreply
    rw [hstate] at hreply
    cases hreply

/-! ### The client first -/

/-- The callback of CONNECT, with zero from `getsockopt`. -/
def woken (fd : ℤ) : Event := .write fd (dialing { (default : Env) with getsockopt := some 0 })

theorem woken_freshAt {s : Session} (h : FiveIsNew (dropOrigin s)) {fd : ℤ} :
    FreshAt s (woken fd) := fun _ => h.freshSockets _

theorem connecting_offered :
    Steps step Offered firstSession (askForName ++ [resolved] ++ [notified]) := by
  have hkernel : Steps step KernelConnects firstSession (askForName ++ [resolved] ++ [notified]) :=
    by decide +kernel
  exact (connecting_dispatched.and hkernel).mono fun _ _ h => ⟨h.1.1, h.1.2.1, h.2⟩

/-- The origin answers, and its descriptor wakes the connection. -/
theorem success_connected_iff_answered :
    Always step SuccessIsConnected firstSession
      (askForName ++ [resolved] ++ [notified] ++ [.connectFinished 0] ++ [woken 5]) := by
  refine (success_connected_iff firstSession_accepted firstClient_fresh ?_).mpr ?_
  · refine steps_firstSession (steps_firstSession connecting_offered (by decide +kernel) ?_)
      (by decide +kernel) ?_
    · exact ⟨by decide +kernel, trivial, by decide +kernel⟩
    · exact ⟨by decide +kernel, woken_freshAt (by decide +kernel), by decide +kernel⟩
  · decide +kernel

/-- The client's descriptor wakes it while the attempt is pending. -/
theorem woken_unconnected :
    ∃ s, socksv5PassiveAccept bufferSizeDefault emptySelector metricsInit firstClient = some s ∧
      Steps step Offered s (askForName ++ [resolved] ++ [notified] ++ [woken 4]) ∧
      ¬ Always step SuccessIsConnected s
        (askForName ++ [resolved] ++ [notified] ++ [woken 4]) := by
  refine ⟨firstSession, firstSession_accepted, ?_, ?_⟩
  · refine steps_firstSession connecting_offered (by decide +kernel) ?_
    exact ⟨by decide +kernel, woken_freshAt (by decide +kernel), by decide +kernel⟩
  · intro halways
    have hlast := halways.last (run_firstSession (by decide +kernel))
    have hsuccess := hlast (by decide +kernel) (by decide +kernel)
    exact absurd hsuccess (by decide +kernel)

end Socks5Proxy

import Socks5Proxy.Socks.Exhaustion
import Socks5Proxy.Socks.Keeping
import Socks5Proxy.Socks.ReplyDelivery

/-!
# Which refusals are answered

A dozen exits of REQUEST and CONNECT store a failure code and go on to REPLY.
The reply names the origin socket, so the client is answered only where there
is one when the reply is queued: the decoder's own refusals find none, unless
an earlier request has left one behind, and CONNECT drops the one it has
before it gives up on the last address.
-/

namespace Socks5Proxy

open Library

/-! ## Refusals -/

/-- The attempt is reported as successful. -/
def Granted : Event → Prop
  | .write _ env => env.getsockopt = some 0
  | _ => False

/-- At this event the server refuses the request or gives up on it, one way or
another. -/
def Refuses (s : Session) (e : Event) : Prop :=
  (s.state = .request ∨ s.state = .connect ∧ ¬ Granted e) ∧
    ((∃ t, step s e = .ok t ∧ t.state = .reply) ∨ step s e = .error .nullDereference)

/-- A refusal is answered. -/
def RefusalAnswered (s : Session) (e : Event) : Prop :=
  Refuses s e → ∃ t, step s e = .ok t ∧ Answered t

/-! ## When there is an origin socket -/

/-- There is a socket when the reply is queued: the attempts come to one that
decides, or, where none is made, an earlier request has left one behind.  In
CONNECT a socket that failed is kept only if `getsockopt` failed too. -/
def SocketFound (s : Session) : Event → Prop
  | .read fd env =>
    (ReadConnects env ⟨fd, s.address⟩ s → Decisive env 0 1) ∧
      (¬ ReadConnects env ⟨fd, s.address⟩ s → 0 ≤ s.conn.originFd)
  | .block _ env =>
    (s.conn.originResolution ≠ [] → Decisive env 0 s.conn.originResolution.length) ∧
      (s.conn.originResolution = [] → 0 ≤ s.conn.originFd)
  | .write _ env =>
    env.getsockopt = none ∨ Decisive env 0 (s.conn.originResolution.length - 1)
  | _ => True

/-- `getsockname` tells a name that the reply has a form and room for. -/
def NameKnown (s : Session) : Event → Prop
  | .read _ env | .write _ env | .block _ env =>
    Nameable env s.conn.originBuffer.limit
  | _ => True

/-- The notifications still to be handled after the event. -/
def jobsAfter (s : Session) : Event → List ℤ
  | .block fd _ => s.sel.resolutionJobs.erase fd
  | _ => s.sel.resolutionJobs

/-- The event takes the descriptor off the selector's table. -/
def Drops (s : Session) : Event → ℤ → Prop
  | .write _ env, fd => env.getsockopt ≠ none ∧ fd = s.conn.originFd
  | _, _ => False

/-- No resolver works for the connection, and no notification waits for a
descriptor that it keeps. -/
def NoneNotified (s : Session) (e : Event) : Prop :=
  s.resolvers = 0 ∧
    ∀ fd ∈ jobsAfter s e, s.sel.dataOf fd = some s.address → Drops s e fd

/-- What a refusal needs to be answered. -/
def RefusesWithSocket (s : Session) (e : Event) : Prop :=
  Refuses s e → SocketFound s e ∧ NameKnown s e ∧ NoneNotified s e

/-! ## One event -/

section Step

variable {s t v : Session} {env : Env} {key : SelectorKey} {fd : ℤ} {st : SocksV5State}
  {r : Session × SocksV5State} {rep : UInt8}

/-- A callback that queues a reply, with the jobs the selector has left. -/
theorem answered_replyWith_iff (key : SelectorKey) (rep : UInt8) (hkeeping : Keeping v)
    (hsilent : OthersSilent v)
    (hempty : v.conn.originBuffer.content = []) (hopen : v.conn.closed = false)
    (hsized : ∀ addr, env.getsockname = some addr → addr.Sized) (hst : st ≠ .reply)
    (jobs : List ℤ) :
    Answered { settle env key st (replyWith rep v) with sel.resolutionJobs := jobs } ↔
      (0 ≤ v.conn.originFd ∧ Nameable env v.conn.originBuffer.limit) ∧
        v.resolvers = 0 ∧ ∀ fd ∈ jobs, v.sel.dataOf fd ≠ some v.address := by
  generalize hu : (replyWith rep v).1 = u
  have hsel : u.sel = (selectorSetInterest v.sel v.conn.clientFd .opWrite).1 := by
    rw [← hu]
    rfl
  have hconn : u.conn = { v.conn with reply.rep := rep } := by
    rw [← hu]
    rfl
  have haddress : u.address = v.address := by
    rw [← hu]
    rfl
  have hresolvers : u.resolvers = v.resolvers := by
    rw [← hu]
    rfl
  have hdata : ∀ fd, u.sel.dataOf fd = v.sel.dataOf fd := by
    intro fd
    rw [hsel, dataOf_selectorSetInterest]
  have hwritable : u.interestOf v.conn.clientFd = some .opWrite := by
    rw [Session.interestOf, hsel]
    exact interestOf_selectorSetInterest_self (interestOf_ne_none_of_dataOf hkeeping.client)
  have hsilent' : OthersSilent u := by
    have hresult : KeepingResult (replyWith rep v) := hkeeping.replyWith hsilent
    rw [← hu]
    exact hresult.2.resolve_left (by simp [replyWith, toReplyState])
  rw [show replyWith rep v = (u, .reply) from Prod.ext hu rfl,
    settle_move hst (by decide) (by decide)]
  have hqueues : QueuesReply (replyArrival env u) ↔ _ := replyArrival_queues_iff
    (by rw [hconn]; exact hempty) (by rw [hconn]; exact hkeeping.settled) hsized
  rw [hconn] at hqueues
  rw [← hqueues]
  obtain ⟨b, found, harrival⟩ := replyArrival_eq env u
  change Answered { replyArrival env u with
    conn.stm := some .reply
    sel.resolutionJobs := jobs } ↔ _
  have hreplying : Replying { replyArrival env u with
      conn.stm := some .reply
      sel.resolutionJobs := jobs } := by
    rw [harrival]
    refine ⟨rfl, ?_, ?_, ?_, ?_⟩
    · change u.conn.closed = false
      rw [hconn]
      exact hopen
    · change u.sel.dataOf u.conn.clientFd = some u.address
      rw [hconn, hdata, haddress]
      exact hkeeping.client
    · change u.interestOf u.conn.clientFd = some .opWrite
      rw [hconn]
      exact hwritable
    · intro fd hfd i hi
      change u.interestOf fd = some i at hi
      by_cases hclient : fd = u.conn.clientFd
      · rw [hclient, hconn, hwritable] at hi
        rw [← Option.some.inj hi]
        rfl
      · exact hsilent' fd hfd hclient i hi
  rw [hreplying.answered_iff]
  refine and_congr Iff.rfl ?_
  rw [Unnotified, harrival]
  change u.resolvers = 0 ∧ (∀ fd ∈ jobs, u.sel.dataOf fd ≠ some u.address) ↔ _
  rw [hresolvers, haddress]
  simp only [hdata]

/-- After a failed attempt there is a socket; a refusal finds what is left. -/
theorem Decided.answered_iff {attempts : Prop} (h : Decided env key attempts s r)
    (hs : Keeping s) (hrequest : KeepingIn s .request) (hopen : s.conn.closed = false)
    (hfresh : FreshSockets s env) (hkey : key.data = s.address)
    (hsized : ∀ addr, env.getsockname = some addr → addr.Sized) (hreply : r.2 = .reply)
    (jobs : List ℤ) :
    Answered { settle env key .request r with sel.resolutionJobs := jobs } ↔
      ((¬ attempts → 0 ≤ s.conn.originFd) ∧ Nameable env s.conn.originBuffer.limit) ∧
        s.resolvers = 0 ∧ ∀ fd ∈ jobs, s.sel.dataOf fd ≠ some s.address := by
  obtain ⟨hsilent, hempty⟩ := hrequest
  rcases h with ⟨-, hnone⟩ | ⟨hattempted, hret, -, hattempts⟩ | ⟨-, -⟩
  · rw [answered_replyWith_iff key _ hs hsilent hempty hopen hsized (by decide) jobs,
      imp_iff_right hnone]
  · obtain ⟨hkeeping, hsilent', hsocket⟩ := hattempted.keeping hs hsilent hfresh hkey
    have hcontent := congrArg Buffer.content hattempted.originBufferEq
    have hsel := hattempted.sel.resolve_right fun hpending => hret hpending.1
    rw [answered_replyWith_iff key _ hkeeping hsilent' (hcontent.trans hempty)
      (hattempted.closed.trans hopen) hsized (by decide) jobs, hattempted.originBufferEq,
      hattempted.resolvers, hsel.2, hattempted.address]
    refine and_congr (and_congr ?_ Iff.rfl) Iff.rfl
    exact iff_of_true hsocket fun hnone => absurd hattempts hnone
  · cases hreply

/-- An event whose callback is `x`: the refusal is answered if the callback
returns and what it returns is answered. -/
theorem refusal_answered_iff {e : Event} {x : Except Fault (Session × SocksV5State)}
    {returns answers : Prop} (after : Session × SocksV5State → Session)
    (hreturns : ReturnsIf returns x)
    (hstep : ∀ t, step s e = .ok t ↔ ∃ r, x = .ok r ∧ ¬ Aborts r ∧ t = after r)
    (haborts : ∀ r, x = .ok r → Aborts r → step s e = .error .invalidFree)
    (hafter : ∀ r, (after r).state = r.2) (hrefuses : Refuses s e)
    (hneeds : answers → returns)
    (hanswered : ∀ r, x = .ok r → returns → r.2 = .reply → (Answered (after r) ↔ answers)) :
    (∃ t, step s e = .ok t ∧ Answered t) ↔ answers := by
  by_cases hok : returns
  · obtain ⟨r, hr⟩ := hreturns.1 hok
    have hends : ¬ Aborts r := by
      intro habort
      have hfault := haborts r hr habort
      rcases hrefuses.2 with ⟨t, ht, -⟩ | hnull
      · rw [hfault] at ht
        cases ht
      · rw [hfault] at hnull
        cases hnull
    have ht : step s e = .ok (after r) := (hstep _).mpr ⟨r, hr, hends, rfl⟩
    have hreply : r.2 = .reply := by
      rcases hrefuses.2 with ⟨t, ht', hreply⟩ | hnull
      · rw [← Except.ok.inj (ht.symm.trans ht'), hafter] at hreply
        exact hreply
      · rw [ht] at hnull
        cases hnull
    rw [← hanswered r hr hok hreply]
    constructor
    · rintro ⟨t, ht', hanswers⟩
      rw [Except.ok.inj (ht.symm.trans ht')]
      exact hanswers
    · intro hanswers
      exact ⟨_, ht, hanswers⟩
  · refine iff_of_false ?_ fun hanswers => hok (hneeds hanswers)
    rintro ⟨t, ht, -⟩
    obtain ⟨r, hr, -⟩ := (hstep t).mp ht
    exact hok (hreturns.ok_iff.mp ⟨r, hr⟩)

theorem Kept.read_answered_iff (h : Kept s) (hstate : s.state = .request)
    (hfresh : FreshSockets s env)
    (hsized : ∀ addr, env.getsockname = some addr → addr.Sized)
    (hrefuses : Refuses s (.read fd env)) :
    (∃ t, step s (.read fd env) = .ok t ∧ Answered t) ↔
      SocketFound s (.read fd env) ∧ NameKnown s (.read fd env) ∧
        NoneNotified s (.read fd env) := by
  have hkept := h.inState
  rw [hstate] at hkept
  refine refusal_answered_iff (settle env ⟨fd, s.address⟩ .request) requestRead_returnsIf ?_ ?_
    (settle_state env ⟨fd, s.address⟩ .request) hrefuses (fun hanswers => hanswers.1.1) ?_
  · intro t
    exact step_read_request_iff hstate h.isOpen
  · intro r hcall haborts
    rw [step_read_request hstate h.isOpen hcall]
    exact if_pos haborts
  · intro r hcall hdecisive hreply
    rcases requestRead_cases hfresh h.table hcall with ⟨-, hst, -⟩ | ⟨-, hst, -⟩ |
      ⟨hframe, hresolvers, hdecided⟩
    · rw [hreply] at hst
      simp at hst
    · rw [hreply] at hst
      cases hst
    · have hu : KeepingIn _ .request := hkept.congr (congrArg FdSelector.fds hframe.sel)
        hframe.address hframe.clientFd hframe.originFd hframe.originBufferEq
      have hrequest := hdecided.answered_iff (h.toKeeping.decode hframe) hu
        (hframe.closed.trans h.isOpen) (hfresh.decode hframe) (by rw [hframe.address]) hsized
        hreply s.sel.resolutionJobs
      have hjobs : (settle env ⟨fd, s.address⟩ .request r).sel.resolutionJobs =
          s.sel.resolutionJobs := by
        rw [(settle_notifications env ⟨fd, s.address⟩ .request (by rw [hreply]; decide)).jobs,
          (hdecided.notifications (h.toKeeping.decode hframe).table).jobs, hframe.sel]
      rw [← hjobs, hframe.originFd, hframe.originBufferEq, hresolvers, hframe.sel,
        hframe.address] at hrequest
      refine hrequest.trans ?_
      rw [hjobs]
      refine and_assoc.trans (and_congr (and_iff_right hdecisive).symm (and_congr Iff.rfl ?_))
      exact and_congr Iff.rfl (forall₂_congr fun fd _ => Iff.rfl)

theorem Kept.block_answered_iff (h : Kept s) (hstate : s.state = .request)
    (hfresh : FreshSockets s env)
    (hsized : ∀ addr, env.getsockname = some addr → addr.Sized)
    (hrefuses : Refuses s (.block fd env)) :
    (∃ t, step s (.block fd env) = .ok t ∧ Answered t) ↔
      SocketFound s (.block fd env) ∧ NameKnown s (.block fd env) ∧
        NoneNotified s (.block fd env) := by
  have hkept := h.inState
  rw [hstate] at hkept
  obtain ⟨-, harrived⟩ := arrived_of_some (stm_of_state hstate (by decide))
  refine refusal_answered_iff
    (fun r => { settle env ⟨fd, s.address⟩ .request r with
      sel.resolutionJobs :=
        (settle env ⟨fd, s.address⟩ .request r).sel.resolutionJobs.erase fd })
    (connectToDest_returnsIf env ⟨fd, s.address⟩ s) ?_ ?_
    (settle_state env ⟨fd, s.address⟩ .request) hrefuses (fun hanswers => hanswers.1.1) ?_
  · intro t
    rw [step_block_ok_iff, hstate, harrived]
    constructor
    · rintro ⟨-, callback, r, u, hselect, hcall, ⟨hends, hu⟩, ht⟩
      rw [← Option.some.inj hselect] at hcall
      rw [hu] at ht
      exact ⟨r, hcall, hends, ht⟩
    · rintro ⟨r, hcall, hends, ht⟩
      exact ⟨h.isOpen, _, r, _, rfl, hcall, ⟨hends, rfl⟩, ht⟩
  · intro r hcall haborts
    exact absurd haborts (not_aborts_of_connecting (connectToDest_state hcall))
  · intro r hcall hdecisive hreply
    have hdecided := connectToDest_decided hfresh h.table hcall
    have hjobs : (settle env ⟨fd, s.address⟩ .request r).sel.resolutionJobs =
        s.sel.resolutionJobs := by
      rw [(settle_notifications env ⟨fd, s.address⟩ .request (by rw [hreply]; decide)).jobs,
        (hdecided.notifications h.table).jobs]
    rw [hjobs]
    refine (hdecided.answered_iff h.toKeeping hkept h.isOpen hfresh rfl hsized hreply _).trans ?_
    refine and_assoc.trans (and_congr ?_ (and_congr Iff.rfl ?_))
    · rw [not_not]
      exact (and_iff_right hdecisive).symm
    · exact and_congr Iff.rfl (forall₂_congr fun fd _ => Iff.rfl)

/-- In CONNECT, where the outcome of the attempt is not known. -/
theorem Kept.unknown_answered_iff (h : Kept s) (hin : KeepingIn s .connect)
    (hsized : ∀ addr, env.getsockname = some addr → addr.Sized) (hnone : env.getsockopt = none) :
    Answered (settle env key .connect (replyWith serverFailure s)) ↔
      SocketFound s (.write fd env) ∧ NameKnown s (.write fd env) ∧
        NoneNotified s (.write fd env) := by
  obtain ⟨hsilent, hempty, hsocket⟩ := hin
  have hjobs : (settle env key .connect (replyWith serverFailure s)).sel.resolutionJobs =
      s.sel.resolutionJobs :=
    (replyWith_notifications.trans (settle_notifications env key .connect
      (show (replyWith serverFailure s).2 ≠ .error ∧ (replyWith serverFailure s).2 ≠ .done by
        simp [replyWith, toReplyState]))).jobs
  have hiff := answered_replyWith_iff key serverFailure h.toKeeping hsilent hempty h.isOpen
    hsized (show SocksV5State.connect ≠ .reply by decide) s.sel.resolutionJobs
  rw [← hjobs] at hiff
  refine hiff.trans ?_
  rw [hjobs]
  refine and_assoc.trans (and_congr ?_ (and_congr Iff.rfl (and_congr Iff.rfl ?_)))
  · exact iff_of_true hsocket (.inl hnone)
  · refine forall₂_congr fun fd _ => imp_congr_right fun _ => ?_
    exact ⟨False.elim, fun hdrops => hdrops.1 hnone⟩

/-- The next attempts have failed as well, and the last one has left its
socket open. -/
theorem Kept.failed_answered_iff {ret : UInt8} (h : Kept s) (hin : KeepingIn s .connect)
    (hfresh : FreshSockets (dropOrigin s) env)
    (hsized : ∀ addr, env.getsockname = some addr → addr.Sized) (hsome : env.getsockopt ≠ none)
    (hattempted : Attempted env ⟨fd, s.address⟩ (getNextResolution (dropOrigin s)) v ret)
    (hret : ret ≠ connectionInProgress) :
    Answered (settle env ⟨fd, s.address⟩ .connect (replyWith rep v)) ↔
      NameKnown s (.write fd env) ∧ NoneNotified s (.write fd env) := by
  obtain ⟨hsilent, hempty, -⟩ := hin
  obtain ⟨hdropped, hsilent'⟩ := h.toKeeping.dropped hsilent
  have hnext : Keeping (getNextResolution (dropOrigin s)) := hdropped.congr rfl rfl rfl rfl .refl
  obtain ⟨hkeeping, hquiet, hsocket⟩ := hattempted.keeping hnext hsilent' hfresh rfl
  have hcontent := congrArg Buffer.content hattempted.originBufferEq
  have hsel := hattempted.sel.resolve_right fun hpending => hret hpending.1
  have hjobs : (settle env ⟨fd, s.address⟩ .connect (replyWith rep v)).sel.resolutionJobs =
      s.sel.resolutionJobs := by
    rw [(settle_notifications env ⟨fd, s.address⟩ .connect (show (replyWith rep v).2 ≠ .error ∧
        (replyWith rep v).2 ≠ .done by simp [replyWith, toReplyState])).jobs,
      replyWith_notifications.jobs, hsel.2]
    exact (dropOrigin_notifications (s := s)).jobs
  have hiff := answered_replyWith_iff ⟨fd, s.address⟩ rep hkeeping hquiet
    (hcontent.trans hempty) (hattempted.closed.trans h.isOpen) hsized
    (show SocksV5State.connect ≠ .reply by decide) s.sel.resolutionJobs
  rw [← hjobs] at hiff
  refine hiff.trans ?_
  rw [hjobs, hattempted.originBufferEq, hattempted.resolvers, hattempted.address, hsel.2]
  refine and_congr (and_iff_right hsocket) (and_congr Iff.rfl ?_)
  refine forall₂_congr fun fd _ => ?_
  change (selectorUnregisterFdWithoutClosing s.sel s.conn.originFd).1.dataOf fd ≠
    some s.address ↔ _
  rw [dataOf_selectorUnregister]
  split_ifs with horigin
  · exact iff_of_true (by simp) fun _ => ⟨hsome, horigin⟩
  · exact imp_congr_right fun _ => ⟨False.elim, fun hdrops => horigin hdrops.2⟩

/-- The last address has failed, and its socket has been closed. -/
theorem exhausted_not_answered (hs : Keeping s) (hin : KeepingIn s .connect)
    (hopen : s.conn.closed = false)
    (hsized : ∀ addr, env.getsockname = some addr → addr.Sized) :
    ¬ Answered (settle env key .connect (replyWith rep (dropOrigin s))) := by
  obtain ⟨hsilent, hempty, -⟩ := hin
  obtain ⟨hdropped, hsilent'⟩ := hs.dropped hsilent
  have hiff := answered_replyWith_iff key rep hdropped hsilent' hempty hopen hsized
    (show SocksV5State.connect ≠ .reply by decide)
    (settle env key .connect (replyWith rep (dropOrigin s))).sel.resolutionJobs
  intro hanswered
  exact absurd (hiff.mp hanswered).1.1 (show ¬ (0 : ℤ) ≤ -1 by decide)

theorem Kept.write_answered_iff (h : Kept s) (hstate : s.state = .connect)
    (hfresh : FreshSockets (dropOrigin s) env)
    (hsized : ∀ addr, env.getsockname = some addr → addr.Sized)
    (hrefuses : Refuses s (.write fd env)) (hgranted : env.getsockopt ≠ some 0) :
    (∃ t, step s (.write fd env) = .ok t ∧ Answered t) ↔
      SocketFound s (.write fd env) ∧ NameKnown s (.write fd env) ∧
        NoneNotified s (.write fd env) := by
  have hin := h.inState
  rw [hstate] at hin
  have herror := sockError_of_open env hin.2.2
  have hends : ∀ r, connectWrite env ⟨fd, s.address⟩ s = .ok r → ¬ Aborts r :=
    fun r hcall => not_aborts_of_connecting (connectWrite_state hcall)
  have hstep : ∀ t, step s (.write fd env) = .ok t ↔
      ∃ r, connectWrite env ⟨fd, s.address⟩ s = .ok r ∧ ¬ Aborts r ∧
        t = settle env ⟨fd, s.address⟩ .connect r := by
    intro t
    rw [step_write_connect_iff hstate h.isOpen]
    exact exists_congr fun r => and_congr_right fun hcall => (and_iff_right (hends r hcall)).symm
  have haborts : ∀ r, connectWrite env ⟨fd, s.address⟩ s = .ok r → Aborts r →
      step s (.write fd env) = .error .invalidFree :=
    fun r hcall habort => absurd habort (hends r hcall)
  rcases hopt : env.getsockopt with _ | v
  · rw [hopt] at herror
    have hcall : connectWrite env ⟨fd, s.address⟩ s = .ok (replyWith serverFailure s) := by
      unfold connectWrite
      rw [herror]
    refine refusal_answered_iff _ (ReturnsIf.of_ok trivial) (hcall ▸ hstep) (hcall ▸ haborts)
      (settle_state env ⟨fd, s.address⟩ .connect) hrefuses (fun _ => trivial) ?_
    intro r hr _ _
    rw [← Except.ok.inj hr]
    exact h.unknown_answered_iff hin hsized hopt
  · rw [hopt] at herror
    have hv : v ≠ 0 := by
      intro hzero
      exact hgranted (by rw [hopt, hzero])
    have hsome : env.getsockopt ≠ none := by simp [hopt]
    refine refusal_answered_iff _ (connectWrite_returnsIf herror hv hfresh h.table) hstep haborts
      (settle_state env ⟨fd, s.address⟩ .connect) hrefuses
      (fun hanswers => .inr (hanswers.1.resolve_left hsome)) ?_
    intro r hcall hreturns hreply
    rcases connectWrite_cases hfresh h.table hcall with ⟨hnone⟩ | ⟨-, -, hlast⟩ |
      ⟨-, -, hattempted, hret, -⟩ | ⟨-, -, hattempted⟩ | ⟨hzero, -⟩
    · rw [herror] at hnone
      cases hnone
    · refine iff_of_false (exhausted_not_answered h.toKeeping hin h.isOpen hsized) ?_
      intro hanswers
      have hdecisive := hanswers.1.resolve_left hsome
      rw [hlast] at hdecisive
      exact Decisive.zero hdecisive
    · refine (h.failed_answered_iff hin hfresh hsized hsome hattempted hret).trans ?_
      refine (and_iff_right (.inr ?_)).symm
      refine hreturns.resolve_left fun hone => ?_
      obtain ⟨addr, hlast⟩ := List.length_eq_one_iff.mp hone
      have hdropped := (connectWrite_exhausted herror hv hlast).symm.trans hcall
      have hnegative := congrArg (fun r => r.1.conn.originFd) (Except.ok.inj hdropped)
      have hnext : FreshSockets (getNextResolution (dropOrigin s)) env := hfresh
      have hsocket := (hnext.origin hattempted).1
      exact absurd (hsocket.trans_eq hnegative.symm) (show ¬ (0 : ℤ) ≤ -1 by decide)
    · cases hreply
    · rw [herror] at hzero
      exact absurd (Option.some.inj hzero) hv

theorem dispatch_missing
    {select : StateDefinition Session SocksV5State →
      Option (Session → Except Fault (Session × SocksV5State))}
    (h : select (socks5States env key s.state) = none) :
    dispatch (stmHandler select) env key s = .error .assertion := by
  unfold dispatch stmHandler
  rw [handleFirst_socks5States]
  dsimp only
  rw [h]

/-- A refusal is made by a callback. -/
theorem Refuses.hasCallback {e : Event} (h : Refuses s e) (hopen : s.conn.closed = false) :
    HasCallback s e := by
  by_contra hmissing
  have hstep : step s e = .error .assertion := by
    unfold step
    rw [if_neg (by rw [hopen]; decide)]
    rcases e with ⟨fd, env⟩ | ⟨fd, env⟩ | ⟨fd, env⟩ | result | errno
    · exact dispatch_missing (Option.not_isSome_iff_eq_none.mp hmissing)
    · exact dispatch_missing (Option.not_isSome_iff_eq_none.mp hmissing)
    · have hblock : socksv5Block env ⟨fd, s.address⟩ s = .error .assertion :=
        dispatch_missing (Option.not_isSome_iff_eq_none.mp hmissing)
      rw [stepOpen, hblock]
      rfl
    · exact absurd trivial hmissing
    · exact absurd trivial hmissing
  rcases h.2 with ⟨t, ht, -⟩ | hnull
  · rw [hstep] at ht
    cases ht
  · rw [hstep] at hnull
    cases hnull

theorem Refuses.not_quiet {e : Event} (h : Refuses s e) (hopen : s.conn.closed = false) :
    (∀ result, e ≠ .resolved result) ∧ ∀ errno, e ≠ .connectFinished errno := by
  have hstate : s.state ≠ .reply := by
    rcases h.1 with hstate | ⟨hstate, -⟩ <;> simp [hstate]
  constructor
  · rintro result rfl
    rcases h.2 with ⟨t, ht, hreply⟩ | hnull
    · obtain ⟨-, rfl⟩ := step_resolved_ok_iff.mp ht
      exact hstate hreply
    · rw [step_resolved_ok_iff.mpr ⟨hopen, rfl⟩] at hnull
      cases hnull
  · rintro errno rfl
    rcases h.2 with ⟨t, ht, hreply⟩ | hnull
    · obtain ⟨-, rfl⟩ := step_connectFinished_ok_iff.mp ht
      exact hstate hreply
    · rw [step_connectFinished_ok_iff.mpr ⟨hopen, rfl⟩] at hnull
      cases hnull

/-- Where it is offered, a refusal is answered exactly if there is a socket, it
has a name, and no notification comes in between. -/
theorem Kept.refusalAnswered_iff {e : Event} (h : Kept s) (hfresh : FreshAt s e)
    (hsized : NamesSized e) : RefusalAnswered s e ↔ RefusesWithSocket s e := by
  refine imp_congr_right fun hrefuses => ?_
  have hcallback := hrefuses.hasCallback h.isOpen
  obtain ⟨hresolved, hfinished⟩ := hrefuses.not_quiet h.isOpen
  rcases hrefuses.1 with hstate | ⟨hstate, hgranted⟩
  · rcases e with ⟨fd, env⟩ | ⟨fd, env⟩ | ⟨fd, env⟩ | result | errno
    · exact h.read_answered_iff hstate (hfresh hstate) hsized hrefuses
    · rw [HasCallback, hstate] at hcallback
      cases hcallback
    · exact h.block_answered_iff hstate (hfresh hstate) hsized hrefuses
    · exact absurd rfl (hresolved result)
    · exact absurd rfl (hfinished errno)
  · rcases e with ⟨fd, env⟩ | ⟨fd, env⟩ | ⟨fd, env⟩ | result | errno
    · rw [HasCallback, hstate] at hcallback
      cases hcallback
    · exact h.write_answered_iff hstate (hfresh hstate) hsized hrefuses hgranted
    · rw [HasCallback, hstate] at hcallback
      cases hcallback
    · exact absurd rfl (hresolved result)
    · exact absurd rfl (hfinished errno)

end Step

/-! ## Whole runs -/

/-- In a run of a client, every refusal is answered exactly if each of them
finds an origin socket with a name, and nothing to be notified of. -/
theorem refusals_answered_iff {bufferSize : ℕ} {sel : FdSelector FdHandler ℕ}
    {metrics : MetricSnapshot} {a : Accepted} {s : Session}
    (haccept : socksv5PassiveAccept bufferSize sel metrics a = some s) (hfresh : Fresh sel a)
    {es : List Event} (hkernel : Steps step (fun s e => FreshAt s e ∧ NamesSized e) s es) :
    Steps step RefusalAnswered s es ↔ Steps step RefusesWithSocket s es := by
  refine steps_iff_steps (I := fun s => s.conn.closed = true ∨ Kept s) ?_ hkernel
    (.inr (passiveAccept_kept haccept hfresh))
  rintro s e (hclosed | hkept) ⟨hfresh, hsized⟩
  · have hfault : step s e = .error .useAfterFree := step_of_closed hclosed
    have hnone : ¬ Refuses s e := by
      rintro ⟨-, ⟨t, ht, -⟩ | hnull⟩
      · rw [hfault] at ht
        cases ht
      · rw [hfault] at hnull
        cases hnull
    refine ⟨iff_of_true (fun h => absurd h hnone) (fun h => absurd h hnone), ?_⟩
    intro t ht
    rw [hfault] at ht
    cases ht
  · exact ⟨hkept.refusalAnswered_iff hfresh hsized, fun t ht => hkept.next hfresh ht⟩

/-! ### Two refusals -/

theorem greetingExchange_kernel :
    Steps step (fun s e => FreshAt s e ∧ NamesSized e) firstSession greetingExchange := by
  have hgreeting : Steps step (fun s e => FreshAt s e ∧ NamesSized e) firstSession
      [.read 4 (receives [0x05, 0x01, 0x00])] := by
    refine ⟨⟨freshAt_of_state (by decide +kernel), ?_⟩, fun _ _ => trivial⟩
    intro addr hname
    cases hname
  refine steps_firstSession hgreeting (by decide +kernel) ⟨?_, ?_⟩
  · exact freshAt_of_state (by decide +kernel)
  · intro addr hname
    cases hname

theorem socketFound_read {s : Session} {fd : ℤ} {env : Env}
    (hconnects : ReadConnects env ⟨fd, s.address⟩ s) (hdecisive : Decisive env 0 1) :
    SocketFound s (.read fd env) :=
  ⟨fun _ => hdecisive, fun hnone => absurd hconnects hnone⟩

theorem refusesWithSocket_of_state {s : Session} {e : Event}
    (h : s.state ≠ .request ∧ s.state ≠ .connect) : RefusesWithSocket s e := by
  rintro ⟨hstate | ⟨hstate, -⟩, -⟩
  · exact absurd hstate h.1
  · exact absurd hstate h.2

theorem greetingExchange_refuses : Steps step RefusesWithSocket firstSession greetingExchange := by
  have hgreeting : Steps step RefusesWithSocket firstSession
      [.read 4 (receives [0x05, 0x01, 0x00])] :=
    Steps.single (refusesWithSocket_of_state (by decide +kernel))
  exact steps_firstSession hgreeting (by decide +kernel)
    (refusesWithSocket_of_state (by decide +kernel))

/-- The name of the origin socket. -/
def ownAddress : SockAddr := ⟨.inet, [10, 0, 0, 2], 40000⟩

/-- The client names a server that refuses the connection at once. -/
def refusingServer : Env :=
  { (default : Env) with
    recv := some [0x05, 0x01, 0x00, 0x01]
    recvDst := some [10, 0, 0, 1, 0, 80]
    callocAddr := true
    callocInfo := true
    attempts := fun _ => ⟨5, true, .error econnrefused, true⟩
    getsockname := some ownAddress }

theorem refusingServer_decisive : Decisive refusingServer 0 1 :=
  ⟨0, Nat.one_pos, by decide, rfl, .inr (.inr rfl)⟩

theorem refusingServer_found {t : Session} (ht : t = firstSessionAfter greetingExchange) :
    RefusesWithSocket t (.read 4 refusingServer) := by
  have hconnects : ReadConnects refusingServer ⟨4, t.address⟩ t := by
    rw [ht]
    decide +kernel
  have hroom : (replyBytes succeded ownAddress).length ≤ t.conn.originBuffer.limit := by
    rw [ht]
    decide +kernel
  have hquiet : t.resolvers = 0 ∧ t.sel.resolutionJobs = [] := by
    rw [ht]
    decide +kernel
  intro _
  refine ⟨socketFound_read hconnects refusingServer_decisive,
    ⟨ownAddress, rfl, by decide, hroom⟩, hquiet.1, ?_⟩
  intro fd hfd
  change fd ∈ t.sel.resolutionJobs at hfd
  rw [hquiet.2] at hfd
  cases hfd

theorem refusals_answered_iff_refused :
    Steps step RefusalAnswered firstSession (greetingExchange ++ [.read 4 refusingServer]) := by
  have hkernel : Steps step (fun s e => FreshAt s e ∧ NamesSized e) firstSession
      (greetingExchange ++ [.read 4 refusingServer]) := by
    refine steps_firstSession greetingExchange_kernel (by decide +kernel) ⟨?_, ?_⟩
    · have hnew : FiveIsNew (firstSessionAfter greetingExchange) := by decide +kernel
      exact fun _ _ => .inr ⟨Int.natCast_nonneg 5, hnew⟩
    · intro addr hname
      rw [← Option.some.inj hname]
      rfl
  refine (refusals_answered_iff firstSession_accepted firstClient_fresh hkernel).mpr ?_
  exact steps_firstSession greetingExchange_refuses (by decide +kernel) (refusingServer_found rfl)

/-- A request of another version, on a connection without an origin socket. -/
def wrongVersion : Event := .read 4 (receives [0x04, 0x01, 0x00, 0x01])

theorem wrongVersion_not_answered :
    ∃ s, socksv5PassiveAccept bufferSizeDefault emptySelector metricsInit firstClient = some s ∧
      Steps step (fun s e => FreshAt s e ∧ NamesSized e) s (greetingExchange ++ [wrongVersion]) ∧
      ¬ Steps step RefusalAnswered s (greetingExchange ++ [wrongVersion]) := by
  refine ⟨firstSession, firstSession_accepted, ?_, ?_⟩
  · refine steps_firstSession greetingExchange_kernel (by decide +kernel) ⟨?_, ?_⟩
    · have hunused : (firstSessionAfter greetingExchange).interestOf 0 = none ∧
          (0 : ℤ) ≠ (firstSessionAfter greetingExchange).conn.clientFd := by decide +kernel
      exact fun _ _ => .inr ⟨Int.le_refl 0, hunused⟩
    · intro addr hname
      cases hname
  · intro hanswered
    have hstep : step (firstSessionAfter greetingExchange) wrongVersion =
        .ok (firstSessionAfter (greetingExchange ++ [wrongVersion])) :=
      step_firstSession (by decide +kernel)
    have hrefuses : Refuses (firstSessionAfter greetingExchange) wrongVersion :=
      ⟨.inl (by decide +kernel), .inl ⟨_, hstep, by decide +kernel⟩⟩
    obtain ⟨t, ht, reply, -, hruns⟩ :=
      hanswered.last (run_firstSession (by decide +kernel)) hrefuses
    rw [← Except.ok.inj (hstep.symm.trans ht)] at hruns
    have hdelivers : Steps step DeliversReply
        (firstSessionAfter (greetingExchange ++ [wrongVersion])) [.write 4 (sends 1)] :=
      Steps.single ⟨by decide +kernel, by decide +kernel, 1, rfl, Nat.one_pos⟩
    obtain ⟨u, hrun, hopen, -⟩ := hruns _ hdelivers
    have hclosed : (run step (firstSessionAfter (greetingExchange ++ [wrongVersion]))
        [.write 4 (sends 1)]).toOption.map (fun u => u.conn.closed) = some true := by
      decide +kernel
    rw [hrun] at hclosed
    have hended : u.conn.closed = true := Option.some.inj hclosed
    rw [hended] at hopen
    cases hopen

end Socks5Proxy

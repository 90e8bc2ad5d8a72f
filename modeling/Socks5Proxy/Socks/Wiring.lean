import Socks5Proxy.Socks.WireFrame
import Socks5Proxy.Socks.Accepted
import Socks5Proxy.Socks.PendingMessage

/-!
# Which descriptors a connection has registered

An open connection has its client's descriptor registered, and its origin's
while an attempt is in progress or the two are connected.  Under a kernel whose
`socket` returns unused descriptors and whose `getsockopt` does not fail, the
registered interests follow the state.
-/

namespace Socks5Proxy

open Library

/-! ## The invariant -/

/-- No descriptor but the client's carries the connection. -/
def ClientOnly (s : Session) : Prop :=
  ∀ fd, s.sel.dataOf fd = some s.address → fd = s.conn.clientFd

/-- The registrations of an open connection, in every state. -/
structure Registered (s : Session) : Prop where
  table : fdSetsize < s.sel.fds.length
  client : s.sel.dataOf s.conn.clientFd = some s.address
  owner : ∀ fd, s.sel.dataOf fd = some s.address → fd = s.conn.clientFd ∨ fd = s.conn.originFd
  distinct : s.conn.originFd ≠ s.conn.clientFd
  handler : ∀ fd, s.sel.dataOf fd = some s.address →
    (s.sel.item fd).handler = some .socks5Handler

/-- What a state says about the registered interests. -/
def StateInterests (s : Session) : SocksV5State → Prop
  | .greeting | .auth => ClientOnly s
  | .request => ClientOnly s ∧ s.interestOf s.conn.clientFd = some .opRead
  | .connect =>
    s.interestOf s.conn.clientFd = some .opWrite ∧
      s.sel.dataOf s.conn.originFd = some s.address ∧
      s.interestOf s.conn.originFd = some .opWrite
  | .reply =>
    s.interestOf s.conn.clientFd = some .opWrite ∧
      (ClientOnly s ∨ s.conn.reply.rep = succeded ∧
        s.interestOf s.conn.originFd = some .opNoop)
  | .copy => True
  | .done | .error => False

theorem stateInterests_live {s : Session} : ∀ {st : SocksV5State}, StateInterests s st →
    st ≠ .error ∧ st ≠ .done
  | .greeting, _ | .auth, _ | .request, _ | .connect, _ | .reply, _ | .copy, _ => ⟨nofun, nofun⟩

/-- The registrations and the interests of an open connection. -/
structure Wired (s : Session) : Prop extends Registered s where
  interests : StateInterests s s.state

section Invariant

variable {s t u : Session} {fd : ℤ} {i : FdInterest} {env : Env} {key : SelectorKey}

theorem ClientOnly.wire (h : ClientOnly s) (hframe : Frame s t) (hwire : WireFrame s t) :
    ClientOnly t := by
  intro fd hfd
  rw [hframe.clientFd]
  rw [hframe.address, hwire.sets.dataOf] at hfd
  exact h fd hfd

theorem Registered.wire (h : Registered s) (hframe : Frame s t) (hwire : WireFrame s t) :
    Registered t where
  table := by
    rw [hwire.sets.length]
    exact h.table
  client := by
    rw [hwire.sets.dataOf, hframe.clientFd, hframe.address]
    exact h.client
  owner := by
    intro fd hfd
    rw [hwire.sets.dataOf, hframe.address] at hfd
    rw [hframe.clientFd, hwire.originFd]
    exact h.owner fd hfd
  distinct := by
    rw [hframe.clientFd, hwire.originFd]
    exact h.distinct
  handler := by
    intro fd hfd
    rw [hwire.sets.dataOf, hframe.address] at hfd
    rw [hwire.sets.handler]
    exact h.handler fd hfd

theorem Registered.interestOf_client (h : Registered s) :
    s.interestOf s.conn.clientFd ≠ none :=
  interestOf_ne_none_of_dataOf h.client

theorem Registered.setInterest_client (h : Registered s) :
    (s.setInterest s.conn.clientFd i).interestOf s.conn.clientFd = some i :=
  interestOf_selectorSetInterest_self h.interestOf_client

/-- What the connection attempts leave of the registrations. -/
structure AttemptOutcome (s t : Session) (ret : UInt8) : Prop extends Registered t where
  interest : t.interestOf t.conn.clientFd = s.interestOf s.conn.clientFd
  idle : ret ≠ connectionInProgress → ClientOnly t
  pending : ret = connectionInProgress →
    t.sel.dataOf t.conn.originFd = some t.address ∧
      t.interestOf t.conn.originFd = some .opWrite

theorem FreshSockets.origin {ret : UInt8} (hfresh : FreshSockets s env)
    (h : Attempted env key s t ret) :
    0 ≤ t.conn.originFd ∧ s.interestOf t.conn.originFd = none ∧
      t.conn.originFd ≠ s.conn.clientFd := by
  obtain ⟨round, hopen, hsocket⟩ := h.socket
  rw [hsocket]
  exact (hfresh round).resolve_left hopen

/-- `t` is `s` after the registration of the origin socket for writing. -/
structure OriginRegistered (data : ℕ) (s t : Session) : Prop where
  length : t.sel.fds.length = s.sel.fds.length
  self : t.sel.item t.conn.originFd = ⟨t.conn.originFd, .opWrite, some .socks5Handler, some data⟩
  others : ∀ fd, invalidFd fd = false → fd ≠ t.conn.originFd → t.sel.item fd = s.sel.item fd
  dataOf : ∀ fd, t.sel.dataOf fd =
    if fd = t.conn.originFd then some data else s.sel.dataOf fd
  interestOf : ∀ fd, t.interestOf fd =
    if fd = t.conn.originFd then some .opWrite else s.interestOf fd
  resolutionJobs : t.sel.resolutionJobs = s.sel.resolutionJobs

/-- What an attempt does to the selector. -/
theorem Attempted.selector {ret : UInt8} (h : Attempted env key s t ret)
    (htable : fdSetsize < s.sel.fds.length) :
    ret ≠ connectionInProgress ∧ t.sel = s.sel ∨
      ret = connectionInProgress ∧ OriginRegistered key.data s t := by
  rcases h.sel with hsame | ⟨hret, alloc, hregister⟩
  · exact .inl hsame
  · have hsuccess := congrArg Prod.snd hregister
    have hsel := congrArg Prod.fst hregister
    dsimp only at hsuccess hsel
    have hlen := toNat_lt_of_valid (selectorRegister_valid hsuccess) htable.le
    refine .inr ⟨hret, ?_, ?_, ?_, ?_, ?_, ?_⟩
    · rw [← hsel, length_fds_selectorRegister hlen hsuccess]
    · rw [← hsel, item_selectorRegister_self hlen hsuccess]
    · intro fd hfd hne
      rw [← hsel, item_selectorRegister_of_ne hlen hsuccess hfd hne]
    · intro fd
      rw [← hsel, dataOf_selectorRegister hlen, hsuccess]
      simp
    · intro fd
      rw [Session.interestOf, ← hsel, interestOf_selectorRegister hlen, hsuccess]
      simp [Session.interestOf]
    · rw [← hsel, resolutionJobs_selectorRegister hlen hsuccess]

theorem Attempted.outcome {ret : UInt8} (h : Attempted env key s t ret) (hs : Registered s)
    (honly : ClientOnly s) (hfresh : FreshSockets s env) (hkey : key.data = s.address) :
    AttemptOutcome s t ret := by
  obtain ⟨-, -, hclient⟩ := hfresh.origin h
  have hdistinct : t.conn.originFd ≠ t.conn.clientFd := by
    rw [h.clientFd]
    exact hclient
  rcases h.selector hs.table with ⟨hret, hsel⟩ | ⟨hret, horigin⟩
  · have honly' : ClientOnly t := by
      intro fd hfd
      rw [hsel, h.address] at hfd
      rw [h.clientFd]
      exact honly fd hfd
    refine ⟨⟨?_, ?_, fun fd hfd => .inl (honly' fd hfd), hdistinct, ?_⟩, ?_, fun _ => honly',
      fun heq => absurd heq hret⟩
    · rw [hsel]
      exact hs.table
    · rw [hsel, h.clientFd, h.address]
      exact hs.client
    · rw [hsel, h.address]
      exact hs.handler
    · rw [Session.interestOf, hsel, h.clientFd]
      rfl
  · have hdata := horigin.dataOf
    rw [hkey] at hdata
    refine ⟨⟨?_, ?_, ?_, hdistinct, ?_⟩, ?_, fun hne => absurd hret hne, fun _ => ⟨?_, ?_⟩⟩
    · rw [horigin.length]
      exact hs.table
    · rw [hdata, h.clientFd, if_neg hclient.symm, h.address]
      exact hs.client
    · intro fd hfd
      rw [hdata, h.address] at hfd
      by_cases hself : fd = t.conn.originFd
      · exact .inr hself
      · rw [if_neg hself] at hfd
        rw [h.clientFd]
        exact .inl (honly fd hfd)
    · intro fd hfd
      have hfd' := invalidFd_of_dataOf hfd
      rw [hdata, h.address] at hfd
      by_cases hself : fd = t.conn.originFd
      · rw [hself, horigin.self]
      · rw [if_neg hself] at hfd
        rw [horigin.others fd hfd' hself]
        exact hs.handler fd hfd
    · rw [horigin.interestOf, h.clientFd, if_neg hclient.symm]
    · rw [hdata, if_pos rfl, h.address]
    · rw [horigin.interestOf, if_pos rfl]

/-- Dropping the origin socket leaves the client's registration alone. -/
theorem Registered.dropped (h : Registered s) :
    Registered (dropOrigin s) ∧ ClientOnly (dropOrigin s) ∧
      (dropOrigin s).interestOf s.conn.clientFd = s.interestOf s.conn.clientFd := by
  have hne := h.distinct.symm
  have hdata : ∀ fd, (dropOrigin s).sel.dataOf fd =
      if fd = s.conn.originFd then none else s.sel.dataOf fd :=
    fun _ => dataOf_selectorUnregister
  have honly : ClientOnly (dropOrigin s) := by
    intro fd hfd
    rw [hdata] at hfd
    by_cases horigin : fd = s.conn.originFd
    · rw [if_pos horigin] at hfd
      cases hfd
    · rw [if_neg horigin] at hfd
      exact (h.owner fd hfd).resolve_right horigin
  refine ⟨⟨?_, ?_, fun fd hfd => .inl (honly fd hfd), ?_, ?_⟩, honly, ?_⟩
  · rw [length_fds_dropOrigin]
    exact h.table
  · exact (hdata s.conn.clientFd).trans ((if_neg hne).trans h.client)
  · exact (ne_neg_one_of_valid (invalidFd_of_dataOf h.client)).symm
  · intro fd hfd
    have hfd' := invalidFd_of_dataOf hfd
    rw [hdata] at hfd
    by_cases horigin : fd = s.conn.originFd
    · rw [if_pos horigin] at hfd
      cases hfd
    · rw [if_neg horigin] at hfd
      exact (congrArg Item.handler (item_selectorUnregister_of_ne hfd' horigin)).trans
        (h.handler fd hfd)
  · exact interestOf_selectorUnregister.trans (if_neg hne)

end Invariant

/-! ## The end of an event -/

section Settle

variable {s t : Session} {env : Env} {key : SelectorKey} {st : SocksV5State}
  {r : Session × SocksV5State}

theorem ClientOnly.congr (h : ClientOnly s) (hfds : t.sel.fds = s.sel.fds)
    (haddress : t.address = s.address) (hclient : t.conn.clientFd = s.conn.clientFd) :
    ClientOnly t := by
  intro fd hfd
  rw [dataOf_congr hfds, haddress] at hfd
  rw [hclient]
  exact h fd hfd

theorem Registered.congr (h : Registered s) (hfds : t.sel.fds = s.sel.fds)
    (haddress : t.address = s.address) (hclient : t.conn.clientFd = s.conn.clientFd)
    (horigin : t.conn.originFd = s.conn.originFd) : Registered t where
  table := by
    rw [hfds]
    exact h.table
  client := by
    rw [dataOf_congr hfds, hclient, haddress]
    exact h.client
  owner := by
    intro fd hfd
    rw [dataOf_congr hfds, haddress] at hfd
    rw [hclient, horigin]
    exact h.owner fd hfd
  distinct := by
    rw [hclient, horigin]
    exact h.distinct
  handler := by
    intro fd hfd
    rw [dataOf_congr hfds, haddress] at hfd
    rw [item_congr hfds]
    exact h.handler fd hfd

theorem StateInterests.congr (h : StateInterests s st) (hfds : t.sel.fds = s.sel.fds)
    (haddress : t.address = s.address) (hclient : t.conn.clientFd = s.conn.clientFd)
    (horigin : t.conn.originFd = s.conn.originFd)
    (hrep : t.conn.reply.rep = s.conn.reply.rep) : StateInterests t st := by
  have honly : ClientOnly s → ClientOnly t := fun honly => honly.congr hfds haddress hclient
  have hinterest : ∀ fd, t.interestOf fd = s.interestOf fd := interestOf_congr hfds
  rcases st
  · exact honly h
  · exact honly h
  · refine ⟨honly h.1, ?_⟩
    rw [hinterest, hclient]
    exact h.2
  · refine ⟨?_, ?_, ?_⟩
    · rw [hinterest, hclient]
      exact h.1
    · rw [dataOf_congr hfds, horigin, haddress]
      exact h.2.1
    · rw [hinterest, horigin]
      exact h.2.2
  · refine ⟨?_, ?_⟩
    · rw [hinterest, hclient]
      exact h.1
    · rw [hinterest, horigin, hrep]
      exact h.2.imp_left honly
  · trivial
  · exact h
  · exact h

/-- Only the arrival in COPY changes registered interests. -/
theorem arrival_same (env : Env) (key : SelectorKey) (s : Session) (hst : st ≠ .copy) :
    let t := callIfSome (socks5States env key st).onArrival s
    t.sel = s.sel ∧ t.conn.originFd = s.conn.originFd ∧ t.conn.reply.rep = s.conn.reply.rep ∧
      t.resolvers = s.resolvers ∧ t.log = s.log := by
  rcases st
  · exact ⟨rfl, rfl, rfl, rfl, rfl⟩
  · exact ⟨rfl, rfl, rfl, rfl, rfl⟩
  · exact ⟨rfl, rfl, rfl, rfl, rfl⟩
  · exact ⟨rfl, rfl, rfl, rfl, rfl⟩
  · obtain ⟨b, found, harrival⟩ := replyArrival_eq env s
    change (replyArrival env s).sel = _ ∧ (replyArrival env s).conn.originFd = _ ∧
      (replyArrival env s).conn.reply.rep = _ ∧ (replyArrival env s).resolvers = _ ∧
      (replyArrival env s).log = _
    rw [harrival]
    exact ⟨rfl, rfl, rfl, rfl, rfl⟩
  · exact absurd rfl hst
  · exact ⟨rfl, rfl, rfl, rfl, rfl⟩
  · exact ⟨rfl, rfl, rfl, rfl, rfl⟩

theorem arrival_resolution :
    (callIfSome (socks5States env key st).onArrival s).conn.resolution = s.conn.resolution := by
  rcases st
  all_goals try rfl
  · obtain ⟨b, found, harrival⟩ := replyArrival_eq env s
    change (replyArrival env s).conn.resolution = _
    rw [harrival]
    rfl

theorem arrival_wire : WireFrame s (callIfSome (socks5States env key st).onArrival s) := by
  by_cases hst : st = .copy
  · rw [hst]
    exact socksv5CopyArrival_wire
  · obtain ⟨hsel, horigin, -, hresolvers, hlog⟩ :=
      arrival_same env key s hst
    exact .of_same hsel horigin arrival_resolution hresolvers hlog

theorem StateInterests.arrival (h : StateInterests s st) :
    StateInterests (callIfSome (socks5States env key st).onArrival s) st := by
  by_cases hst : st = .copy
  · rw [hst]
    trivial
  · obtain ⟨hsel, horigin, hrep, -, -⟩ := arrival_same env key s hst
    exact h.congr (congrArg FdSelector.fds hsel) arrival_frame.address arrival_frame.clientFd
      horigin hrep

/-- A callback keeps the registrations, and ends the connection or leaves the
interests of the state it names. -/
def WiredResult (r : Session × SocksV5State) : Prop :=
  Registered r.1 ∧ ((r.2 = .error ∨ r.2 = .done) ∨ StateInterests r.1 r.2)

theorem Wired.of_stm (h : Registered s) (hinterests : StateInterests s st) :
    Wired { s with conn.stm := some st } where
  toRegistered := h.congr rfl rfl rfl rfl
  interests := hinterests.congr rfl rfl rfl rfl rfl

/-- A connection whose record has been freed, with no descriptor left that
carries it. -/
structure Released (s : Session) : Prop where
  closed : s.conn.closed = true
  unregistered : ∀ fd, s.sel.dataOf fd ≠ some s.address

theorem dataOf_unregisterFd {fd fd' : ℤ} :
    (unregisterFd (closeWith id env key) s fd).sel.dataOf fd' =
      if fd' = fd then none else s.sel.dataOf fd' := by
  rw [← dataOf_selectorUnregister]
  unfold unregisterFd selectorUnregisterFdWithoutClosing
  split_ifs
  · rfl
  · rfl
  · rw [closeWith_eq]
    rfl
  · rfl

theorem dataOf_releaseFd {fd fd' : ℤ} :
    (releaseFd env key fd s).sel.dataOf fd' = if fd' = fd then none else s.sel.dataOf fd' := by
  unfold releaseFd
  by_cases hfd : fd ≠ -1
  · rw [if_pos hfd]
    exact dataOf_unregisterFd
  · rw [if_neg hfd, not_not.mp hfd]
    by_cases heq : fd' = -1
    · rw [if_pos heq, heq]
      rfl
    · rw [if_neg heq]

/-- Teardown takes both descriptors off the table. -/
theorem dataOf_teardown (hopen : s.conn.closed = false) {fd : ℤ} :
    (teardown env key s).sel.dataOf fd =
      if fd = s.conn.clientFd ∨ fd = s.conn.originFd then none else s.sel.dataOf fd := by
  unfold teardown
  rw [if_neg (by rw [hopen]; decide)]
  generalize hu : ({ s with conn.closed := true } : Session) = u
  have hsel : u.sel = s.sel := by rw [← hu]
  have hclient : u.conn.clientFd = s.conn.clientFd := by rw [← hu]
  have horigin : u.conn.originFd = s.conn.originFd := by rw [← hu]
  dsimp only
  have hreleased : (releaseFd env key u.conn.originFd u).conn.clientFd = u.conn.clientFd :=
    releaseFd_frame.clientFd
  generalize hv : releaseFd env key u.conn.originFd u = v at hreleased
  change (releaseFd env key v.conn.clientFd v).sel.dataOf fd = _
  rw [dataOf_releaseFd, hreleased, ← hv, dataOf_releaseFd, hsel, hclient, horigin]
  by_cases h : fd = s.conn.clientFd <;> simp [h]

theorem teardown_released (h : Registered s) (hopen : s.conn.closed = false) :
    Released (teardown env key s) := by
  refine ⟨teardown_closed, ?_⟩
  intro fd hfd
  rw [teardown_persists.address, dataOf_teardown hopen] at hfd
  split_ifs at hfd with howned
  exact howned (h.owner fd hfd)

theorem settle_wired (h : WiredResult r) (hopen : r.1.conn.closed = false) :
    Released (settle env key st r) ∨ Wired (settle env key st r) := by
  obtain ⟨u, next⟩ := r
  obtain ⟨hregistered, hstop | hinterests⟩ := h
  · left
    rw [settle_stop hstop]
    exact teardown_released (hregistered.congr rfl rfl rfl rfl) hopen
  · right
    have hlive := stateInterests_live hinterests
    by_cases hst : st = next
    · rw [hst, settle_stay hlive.1 hlive.2]
      exact .of_stm hregistered hinterests
    · rw [settle_move hst hlive.1 hlive.2]
      exact .of_stm (hregistered.wire arrival_frame arrival_wire) hinterests.arrival

end Settle

/-! ## The callbacks -/

section Callbacks

variable {s t : Session} {env : Env} {key : SelectorKey} {r : Session × SocksV5State}

theorem greetingRead_wired (h : Registered s) (honly : ClientOnly s) :
    WiredResult (greetingRead env key s) := by
  have hframe : HandshakeFrame s (greetingRead env key s).1 := greetingRead_frame
  have hwire := greetingRead_wire env key s
  refine ⟨h.wire hframe.toFrame hwire, ?_⟩
  rcases greetingRead_stays env key s with (⟨hst, -⟩ | hst | hst) | ⟨hst, -⟩
  · exact .inr (hst ▸ honly.wire hframe.toFrame hwire)
  · exact .inl (.inl hst)
  · exact .inl (.inr hst)
  · exact .inr (hst ▸ honly.wire hframe.toFrame hwire)

theorem authRead_wired (h : Registered s) (honly : ClientOnly s) :
    WiredResult (authRead env key s) := by
  have hframe := (authRead_frame env key s).toFrame
  have hwire := authRead_wire env key s
  refine ⟨h.wire hframe hwire, ?_⟩
  rcases authRead_stays env key s with (⟨hst, -⟩ | hst | hst) | ⟨hst, -⟩
  · exact .inr (hst ▸ honly.wire hframe hwire)
  · exact .inl (.inl hst)
  · exact .inl (.inr hst)
  · exact .inr (hst ▸ honly.wire hframe hwire)

/-- Going on to REQUEST registers the client for reading. -/
theorem Registered.toRequest (h : Registered s) (honly : ClientOnly s) :
    Registered (s.setInterest s.conn.clientFd .opRead) ∧
      StateInterests (s.setInterest s.conn.clientFd .opRead) .request :=
  ⟨h.wire (.setInterest _ _) (.setInterest _ _),
    honly.wire (.setInterest _ _) (.setInterest _ _), h.setInterest_client⟩

theorem greetingWrite_wired (h : Registered s) (honly : ClientOnly s)
    (hkey : key.fd = s.conn.clientFd) : WiredResult (greetingWrite env key s) := by
  have hcases := greetingWrite_cases env key s
  generalize greetingWrite env key s = r at hcases ⊢
  obtain ⟨t, st⟩ := r
  have hsent : ∀ (b : Buffer) (sent : List UInt8),
      let u := ({ s with conn.originBuffer := b }).act (.send s.conn.clientFd sent)
      Registered u ∧ ClientOnly u := fun b sent =>
    ⟨h.congr rfl rfl rfl rfl, honly⟩
  rcases hcases with _ | ⟨-, -⟩ | ⟨-, -, -⟩ | ⟨-, -, -⟩
  · exact ⟨h.congr rfl rfl rfl rfl, .inl (.inl rfl)⟩
  · exact (hsent _ _).imp_right .inr
  · rw [hkey]
    exact ((hsent _ _).1.toRequest (hsent _ _).2).imp_right fun h => .inr h.1
  · rw [hkey]
    exact ((hsent _ _).1.toRequest (hsent _ _).2).imp_right .inr

theorem authWrite_wired (h : Registered s) (honly : ClientOnly s)
    (hkey : key.fd = s.conn.clientFd) : WiredResult (authWrite env key s) := by
  have hcases := authWrite_cases env key s
  generalize authWrite env key s = r at hcases ⊢
  obtain ⟨t, st⟩ := r
  have hsent : ∀ (b : Buffer) (sent : List UInt8),
      let u := ({ s with conn.originBuffer := b }).act (.send s.conn.clientFd sent)
      Registered u ∧ ClientOnly u := fun b sent =>
    ⟨h.congr rfl rfl rfl rfl, honly⟩
  rcases hcases with _ | ⟨-, -⟩ | ⟨-, -, -⟩ | ⟨-, -, -⟩
  · exact ⟨h.congr rfl rfl rfl rfl, .inl (.inl rfl)⟩
  · exact (hsent _ _).imp_right .inr
  · exact ⟨(hsent _ _).1, .inl (.inl rfl)⟩
  · rw [hkey]
    exact ((hsent _ _).1.toRequest (hsent _ _).2).imp_right .inr

/-- Queueing a reply with a failure code. -/
theorem Registered.replyWith {rep : UInt8} (h : Registered s) (honly : ClientOnly s) :
    WiredResult (replyWith rep s) := by
  refine ⟨h.wire (replyWith_frame rep) ?_, .inr ⟨?_, .inl ?_⟩⟩
  · exact WireFrame.trans (t := { s with conn.reply.rep := rep }) (.of_same rfl rfl rfl rfl rfl)
      (.setInterest _ _)
  · exact h.setInterest_client
  · exact honly.wire (replyWith_frame rep) (WireFrame.trans (t := { s with conn.reply.rep := rep })
      (.of_same rfl rfl rfl rfl rfl) (.setInterest _ _))

theorem Decided.wired {attempts : Prop} (h : Decided env key attempts s r)
    (hs : Registered s) (honly : ClientOnly s) (hfresh : FreshSockets s env)
    (hkey : key.data = s.address) : WiredResult r := by
  rcases h with ⟨hrep, -⟩ | ⟨hattempted, hret, hrep, -⟩ | ⟨hattempted, -⟩
  · exact hs.replyWith honly
  · have houtcome := hattempted.outcome hs honly hfresh hkey
    exact houtcome.toRegistered.replyWith (houtcome.idle hret)
  · have houtcome := hattempted.outcome hs honly hfresh hkey
    obtain ⟨hdata, hinterest⟩ := houtcome.pending rfl
    refine ⟨houtcome.toRegistered.wire (.setInterest _ _) (.setInterest _ _),
      .inr ⟨houtcome.toRegistered.setInterest_client, ?_, ?_⟩⟩
    · exact dataOf_selectorSetInterest.trans hdata
    · exact (interestOf_selectorSetInterest_of_ne houtcome.distinct).trans hinterest

theorem requestRead_wired (hs : Registered s) (hrequest : StateInterests s .request)
    (hfresh : FreshSockets s env) (hkey : key.data = s.address)
    (h : requestRead env key s = .ok r) : WiredResult r := by
  obtain ⟨honly, hinterest⟩ := hrequest
  have hdecode : ∀ {u : Session}, DecodeFrame s u → Registered u ∧ StateInterests u .request := by
    intro u hframe
    have hfds := congrArg FdSelector.fds hframe.sel
    refine ⟨hs.congr hfds hframe.address hframe.clientFd hframe.originFd,
      honly.congr hfds hframe.address hframe.clientFd, ?_⟩
    rw [Session.interestOf, hframe.sel, hframe.clientFd]
    exact hinterest
  rcases requestRead_cases hfresh hs.table h with ⟨hframe, hst, -⟩ | ⟨hframe, hst, -⟩ |
    ⟨hframe, -, hdecided⟩
  · refine ⟨(hdecode hframe).1, ?_⟩
    rcases hst with hst | hst
    · exact .inr (hst ▸ (hdecode hframe).2)
    · exact .inl (.inr hst)
  · exact ⟨(hdecode hframe).1, .inr (hst ▸ (hdecode hframe).2)⟩
  · obtain ⟨hu, honly', -⟩ := hdecode hframe
    refine hdecided.wired hu honly' (hfresh.decode hframe) ?_
    rw [hkey, hframe.address]

theorem requestBlock_wired (hs : Registered s) (honly : ClientOnly s)
    (hfresh : FreshSockets s env) (hkey : key.data = s.address)
    (h : requestBlock env key s = .ok r) : WiredResult r :=
  (connectToDest_decided hfresh hs.table h).wired hs honly hfresh hkey

theorem connectWrite_wired (hs : Registered s) (hconnect : StateInterests s .connect)
    (hfresh : FreshSockets (dropOrigin s) env) (hkey : key.data = s.address)
    (hanswered : env.getsockopt ≠ none) (h : connectWrite env key s = .ok r) :
    WiredResult r := by
  obtain ⟨hclient, hdata, -⟩ := hconnect
  obtain ⟨hdropped, honly, hkept⟩ := hs.dropped
  have hattempt : ∀ {t : Session} {ret : UInt8},
      Attempted env key (getNextResolution (dropOrigin s)) t ret →
        AttemptOutcome (getNextResolution (dropOrigin s)) t ret := fun hattempted =>
    hattempted.outcome (hdropped.congr rfl rfl rfl rfl) honly hfresh hkey
  rcases connectWrite_cases hfresh hs.table h with ⟨herror⟩ | ⟨herror, hv, -⟩ |
    ⟨herror, hv, hattempted, hret, hrep⟩ | ⟨herror, hv, hattempted⟩ | ⟨herror, -⟩
  · have hvalid := invalidFd_eq_false_iff.mp (invalidFd_of_dataOf hdata)
    rw [sockError, if_neg (Int.not_lt.mpr hvalid.1)] at herror
    exact absurd herror hanswered
  · exact hdropped.replyWith honly
  · exact (hattempt hattempted).toRegistered.replyWith ((hattempt hattempted).idle hret)
  · have houtcome := hattempt hattempted
    refine ⟨houtcome.toRegistered, .inr ⟨?_, houtcome.pending rfl⟩⟩
    exact houtcome.interest.trans (hkept.trans hclient)
  · have hnoop := hs.wire (.setInterest s.conn.originFd .opNoop)
      (.setInterest s.conn.originFd .opNoop)
    have hwire : WireFrame (s.setInterest s.conn.originFd .opNoop)
        (replyWith succeded (s.setInterest s.conn.originFd .opNoop)).1 :=
      WireFrame.trans (t := { s.setInterest s.conn.originFd .opNoop with
        conn.reply.rep := succeded }) (.of_same rfl rfl rfl rfl rfl) (.setInterest _ _)
    refine ⟨hnoop.wire (replyWith_frame _) hwire,
      .inr ⟨hnoop.setInterest_client, .inr ⟨rfl, ?_⟩⟩⟩
    refine (interestOf_selectorSetInterest_of_ne hs.distinct).trans ?_
    refine interestOf_selectorSetInterest_self ?_
    exact interestOf_ne_none_of_dataOf hdata

/-- What `reply_write` does with a queued reply. -/
theorem replyWrite_eq (env : Env) (s : Session) (hfound : s.conn.reply.foundBndInfo = true) :
    ∃ b action, action.Plain ∧
      s.conn.originBuffer.content = action.sentTo s.conn.clientFd ++ b.content ∧
      replyWrite env s =
        let u := ({ s with conn.originBuffer := b }).act action
        if bufferCanRead b then (u, .reply)
        else if s.conn.reply.rep = succeded then (u, .copy)
        else (u.setInterest s.conn.clientFd .opRead, .request) := by
  unfold replyWrite
  rw [if_neg (by rw [hfound]; decide)]
  rcases env.send with _ | k
  · exact ⟨s.conn.originBuffer, .sendFailed s.conn.clientFd, trivial, rfl, rfl⟩
  · obtain ⟨b, hb, hsend⟩ := sendOriginBuffer_some s s.conn.clientFd k
    rw [hsend]
    refine ⟨b, .send s.conn.clientFd (s.conn.originBuffer.content.take k), trivial, ?_, rfl⟩
    rw [hb, Action.sentTo, if_pos rfl, List.take_append_drop]

theorem replyWrite_wired (hs : Registered s) (hreply : StateInterests s .reply) :
    WiredResult (replyWrite env s) := by
  rcases hfound : s.conn.reply.foundBndInfo with _ | _
  · rw [replyWrite, if_pos hfound]
    exact ⟨hs, .inl (.inl rfl)⟩
  · obtain ⟨b, action, -, -, hwrite⟩ := replyWrite_eq env s hfound
    have hsent : Registered (({ s with conn.originBuffer := b }).act action) :=
      hs.congr rfl rfl rfl rfl
    rw [hwrite]
    dsimp only
    by_cases hleft : bufferCanRead b = true
    · rw [if_pos hleft]
      exact ⟨hsent, .inr (hreply.congr rfl rfl rfl rfl rfl)⟩
    · rw [if_neg hleft]
      by_cases hrep : s.conn.reply.rep = succeded
      · rw [if_pos hrep]
        exact ⟨hsent, .inr trivial⟩
      · rw [if_neg hrep]
        have honly : ClientOnly s := hreply.2.resolve_right fun h => hrep h.1
        exact (hsent.toRequest (honly.congr rfl rfl rfl)).imp_right .inr

theorem socksv5CopyRead_wired (h : Registered s) : WiredResult (socksv5CopyRead env key s) := by
  refine ⟨h.wire socksv5CopyRead_frame socksv5CopyRead_wire, ?_⟩
  rcases socksv5CopyRead_ends env key s with hst | hst
  · exact .inr (hst ▸ trivial)
  · exact .inl hst

theorem socksv5CopyWrite_wired (h : Registered s) :
    WiredResult (socksv5CopyWrite env key s) := by
  refine ⟨h.wire socksv5CopyWrite_frame socksv5CopyWrite_wire, ?_⟩
  rcases socksv5CopyWrite_ends env key s with hst | hst
  · exact .inr (hst ▸ trivial)
  · exact .inl hst

end Callbacks

/-! ## One event -/

/-- The sockets the callback of an event opens are not in use. -/
def FreshAt (s : Session) : Event → Prop
  | .read _ env | .block _ env => s.state = .request → FreshSockets s env
  | .write _ env => s.state = .connect → FreshSockets (dropOrigin s) env
  | _ => True

/-- `getsockopt` does not fail in CONNECT. -/
def SockoptAnswers (s : Session) : Event → Prop
  | .write _ env => s.state = .connect → env.getsockopt ≠ none
  | _ => True

section Step

variable {s t : Session} {env : Env} {fd : ℤ} {st : SocksV5State}
  {r : Session × SocksV5State} {callback : Session → Except Fault (Session × SocksV5State)}

theorem onReadReady_wired (h : Registered s) (hinterests : StateInterests s st)
    (hfresh : st = .request → FreshSockets s env)
    (hselect : (socks5States env ⟨fd, s.address⟩ st).onReadReady = some callback)
    (hcall : callback s = .ok r) : WiredResult r := by
  rcases st <;> cases hselect
  · rw [← Except.ok.inj hcall]
    exact greetingRead_wired h hinterests
  · rw [← Except.ok.inj hcall]
    exact authRead_wired h hinterests
  · exact requestRead_wired h hinterests (hfresh rfl) rfl hcall
  · rw [← Except.ok.inj hcall]
    exact socksv5CopyRead_wired h

theorem onWriteReady_wired (h : Registered s) (hinterests : StateInterests s st)
    (hdata : s.sel.dataOf fd = some s.address)
    (hfresh : st = .connect → FreshSockets (dropOrigin s) env)
    (hanswers : st = .connect → env.getsockopt ≠ none)
    (hselect : (socks5States env ⟨fd, s.address⟩ st).onWriteReady = some callback)
    (hcall : callback s = .ok r) : WiredResult r := by
  rcases st <;> cases hselect
  · rw [← Except.ok.inj hcall]
    exact greetingWrite_wired h hinterests (hinterests fd hdata)
  · rw [← Except.ok.inj hcall]
    exact authWrite_wired h hinterests (hinterests fd hdata)
  · exact connectWrite_wired h hinterests (hfresh rfl) rfl (hanswers rfl) hcall
  · rw [← Except.ok.inj hcall]
    exact replyWrite_wired h hinterests
  · rw [← Except.ok.inj hcall]
    exact socksv5CopyWrite_wired h

theorem onBlockReady_wired (h : Registered s) (hinterests : StateInterests s st)
    (hfresh : st = .request → FreshSockets s env)
    (hselect : (socks5States env ⟨fd, s.address⟩ st).onBlockReady = some callback)
    (hcall : callback s = .ok r) : WiredResult r := by
  rcases st <;> cases hselect
  exact requestBlock_wired h hinterests.1 (hfresh rfl) rfl hcall

theorem Wired.arrived (h : Wired s) : Registered s.arrived ∧ StateInterests s.arrived s.state := by
  obtain ⟨g, hg⟩ := arrived_eq s
  rw [hg]
  exact ⟨h.toRegistered.congr rfl rfl rfl rfl, h.interests.congr rfl rfl rfl rfl rfl⟩

theorem freshSockets_arrived (h : FreshSockets s env) : FreshSockets s.arrived env := by
  obtain ⟨g, hg⟩ := arrived_eq s
  rw [hg]
  exact h

theorem freshSockets_dropOrigin_arrived (h : FreshSockets (dropOrigin s) env) :
    FreshSockets (dropOrigin s.arrived) env := by
  obtain ⟨g, hg⟩ := arrived_eq s
  rw [hg]
  exact h

theorem Wired.congr (h : Wired s) (hfds : t.sel.fds = s.sel.fds)
    (haddress : t.address = s.address) (hclient : t.conn.clientFd = s.conn.clientFd)
    (horigin : t.conn.originFd = s.conn.originFd) (hstm : t.conn.stm = s.conn.stm)
    (hrep : t.conn.reply.rep = s.conn.reply.rep) : Wired t where
  toRegistered := h.toRegistered.congr hfds haddress hclient horigin
  interests := by
    rw [Session.state, hstm]
    exact h.interests.congr hfds haddress hclient horigin hrep

/-- An event that can happen ends the connection or leaves it wired. -/
theorem step_wired {e : Event} (h : Wired s) (henabled : Enabled s e) (hfresh : FreshAt s e)
    (hanswers : SockoptAnswers s e) (hstep : step s e = .ok t) : Released t ∨ Wired t := by
  obtain ⟨hregistered, hinterests⟩ := h.arrived
  obtain ⟨g, hg⟩ := arrived_eq s
  have haddress : s.arrived.address = s.address := arrived_frame.address
  have hclosed : s.arrived.conn.closed = s.conn.closed := arrived_frame.closed
  rcases e with ⟨fd, env⟩ | ⟨fd, env⟩ | ⟨fd, env⟩ | result | errno
  · obtain ⟨hopen, callback, r, hselect, hcall, rfl⟩ := step_read_ok hstep
    have hopen' := ((onReadReady_frame hselect hcall).closed.trans hclosed).trans hopen
    rw [← haddress] at hselect ⊢
    exact settle_wired (onReadReady_wired hregistered hinterests
      (fun hst => freshSockets_arrived (hfresh hst)) hselect hcall) hopen'
  · obtain ⟨hopen, callback, r, hselect, hcall, rfl⟩ := step_write_ok hstep
    have hopen' := ((onWriteReady_frame hselect hcall).closed.trans hclosed).trans hopen
    have hdata : s.arrived.sel.dataOf fd = some s.arrived.address := by
      rw [hg]
      exact henabled.1
    rw [← haddress] at hselect ⊢
    exact settle_wired (onWriteReady_wired hregistered hinterests hdata
      (fun hst => freshSockets_dropOrigin_arrived (hfresh hst)) hanswers hselect hcall) hopen'
  · obtain ⟨hopen, callback, r, u, hselect, hcall, hu, rfl⟩ := step_block_ok hstep
    have hopen' := ((onBlockReady_frame hselect hcall).closed.trans hclosed).trans hopen
    rw [← haddress] at hselect hu
    have hwired : Released u ∨ Wired u := by
      rw [hu]
      exact settle_wired (onBlockReady_wired hregistered hinterests
        (fun hst => freshSockets_arrived (hfresh hst)) hselect hcall) hopen'
    rcases hwired with ⟨hclosed, hunregistered⟩ | hwired
    · exact .inl ⟨hclosed, hunregistered⟩
    · exact .inr (hwired.congr rfl rfl rfl rfl rfl rfl)
  · obtain ⟨-, rfl⟩ := step_resolved_ok_iff.mp hstep
    exact .inr (h.congr rfl rfl rfl rfl rfl rfl)
  · obtain ⟨-, rfl⟩ := step_connectFinished_ok_iff.mp hstep
    exact .inr (h.congr rfl rfl rfl rfl rfl rfl)

/-- Once the record is freed, the selector dispatches nothing with it. -/
theorem Released.not_enabled {e : Event} (h : Released s) (henabled : Enabled s e) :
    ∃ result, e = .resolved result := by
  rcases e with ⟨fd, env⟩ | ⟨fd, env⟩ | ⟨fd, env⟩ | result | errno
  · exact absurd henabled.1 (h.unregistered fd)
  · exact absurd henabled.1 (h.unregistered fd)
  · exact absurd henabled.1 (h.unregistered fd)
  · exact ⟨result, rfl⟩
  · exact absurd henabled.1 (by rw [h.closed]; decide)

theorem Released.step_fault {e : Event} (h : Released s) :
    Socks5Proxy.step s e = .error .useAfterFree := by
  unfold Socks5Proxy.step
  exact if_pos h.closed

/-- A connection that has just been accepted. -/
theorem passiveAccept_wired {bufferSize : ℕ} {sel : FdSelector FdHandler ℕ}
    {metrics : MetricSnapshot} {a : Accepted}
    (h : socksv5PassiveAccept bufferSize sel metrics a = some s) (hfresh : Fresh sel a) :
    Wired s := by
  have hlen := passiveAccept_toNat_lt h hfresh
  have honly : ClientOnly s := fun fd hfd => (passiveAccept_dataOf_iff h hfresh).mp hfd
  have hclient : s.sel.dataOf s.conn.clientFd = some s.address :=
    (passiveAccept_dataOf_iff h hfresh).mpr rfl
  obtain ⟨hsuccess, hs⟩ := passiveAccept_eq h
  refine ⟨⟨?_, hclient, fun fd hfd => .inl (honly fd hfd), ?_, ?_⟩, ?_⟩
  · rw [hs]
    change fdSetsize < (selectorRegister sel a.clientFd (some .socks5Handler) .opRead
      (some a.address) a.alloc).1.fds.length
    rw [length_fds_selectorRegister hlen hsuccess]
    exact hfresh.table
  · have horigin : s.conn.originFd = -1 := by rw [hs]; rfl
    rw [horigin]
    exact (ne_neg_one_of_valid (invalidFd_of_dataOf hclient)).symm
  · intro fd hfd
    rw [honly fd hfd, hs]
    exact congrArg Item.handler (item_selectorRegister_self hlen hsuccess)
  · have hstate : s.state = .greeting := by rw [hs]; rfl
    rw [hstate]
    exact honly

end Step

end Socks5Proxy

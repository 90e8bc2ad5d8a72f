import Socks5Proxy.Socks.ServerState
import Socks5Proxy.Socks.Counters
import Socks5Proxy.Socks.Teardown

/-!
# Counting connections

A client is counted when it is accepted, before it is certain that it will be
served, and counted back by `handle_close`, which runs once for each of its
descriptors that is registered.  The two agree only as long as no accept fails
half way and no connection is torn down with its origin registered while
another one is alive.
-/

namespace Socks5Proxy

open Library

/-! ## Registrations of the SOCKS handler -/

/-- Unregistering `fd` would run `socksv5_close`. -/
def SocksRegistered (sel : FdSelector FdHandler ℕ) (fd : ℤ) : Prop :=
  sel.interestOf fd ≠ none ∧ (sel.item fd).handler = some .socks5Handler

instance (sel : FdSelector FdHandler ℕ) (fd : ℤ) : Decidable (SocksRegistered sel fd) :=
  inferInstanceAs (Decidable (_ ∧ _))

/-- The other registrations of the SOCKS handler are as they were, and none of
them has become the origin of this connection. -/
structure Spares (s t : Session) : Prop where
  length : t.sel.fds.length = s.sel.fds.length
  others : ∀ fd, SocksRegistered s.sel fd → fd ≠ s.conn.originFd →
    SocksRegistered t.sel fd ∧ fd ≠ t.conn.originFd

section Registrations

variable {sel sel' : FdSelector FdHandler ℕ} {s t u : Session} {fd : ℤ} {env : Env}
  {key : SelectorKey} {r : Session × SocksV5State}

theorem SocksRegistered.valid (h : SocksRegistered sel fd) : invalidFd fd = false :=
  (interestOf_ne_none_iff.mp h.1).1

theorem SocksRegistered.ne_neg_one (h : SocksRegistered sel fd) : fd ≠ -1 :=
  ne_neg_one_of_valid h.valid

theorem SocksRegistered.of_item (h : SocksRegistered sel fd) (hitem : sel'.item fd = sel.item fd) :
    SocksRegistered sel' fd := by
  rw [SocksRegistered, interestOf_ne_none_iff] at h ⊢
  rw [hitem]
  exact h

theorem SocksRegistered.congr (h : SocksRegistered sel fd) (hfds : sel'.fds = sel.fds) :
    SocksRegistered sel' fd := h.of_item (item_congr hfds fd)

theorem SetsInterests.interestOf_ne_none (h : SetsInterests sel sel') :
    sel'.interestOf fd ≠ none ↔ sel.interestOf fd ≠ none := by
  induction h with
  | refl => exact Iff.rfl
  | step _ fd' i ih =>
      rw [interestOf_selectorSetInterest, ← ih]
      by_cases hself : fd = fd'
      · subst hself
        split_ifs with hset
        · exact iff_of_true (Option.some_ne_none i) hset.2
        · exact Iff.rfl
      · rw [if_neg fun hset => hself hset.1]

theorem SetsInterests.socksRegistered (h : SetsInterests sel sel') :
    SocksRegistered sel' fd ↔ SocksRegistered sel fd := by
  rw [SocksRegistered, SocksRegistered, h.interestOf_ne_none, h.handler]

theorem Spares.refl (s : Session) : Spares s s := ⟨rfl, fun _ hfd hne => ⟨hfd, hne⟩⟩

theorem Spares.trans (h : Spares s t) (h' : Spares t u) : Spares s u := by
  refine ⟨h'.length.trans h.length, ?_⟩
  intro fd hfd hne
  obtain ⟨hkept, hother⟩ := h.others fd hfd hne
  exact h'.others fd hkept hother

theorem Spares.of_fds (hfds : t.sel.fds = s.sel.fds) (horigin : t.conn.originFd = s.conn.originFd) :
    Spares s t := by
  refine ⟨congrArg List.length hfds, ?_⟩
  intro fd hfd hne
  rw [horigin]
  exact ⟨hfd.congr hfds, hne⟩

theorem Spares.wire (h : WireFrame s t) : Spares s t := by
  refine ⟨h.sets.length, ?_⟩
  intro fd hfd hne
  rw [h.originFd]
  exact ⟨h.sets.socksRegistered.mpr hfd, hne⟩

theorem Spares.decode (h : DecodeFrame s t) : Spares s t :=
  .of_fds (congrArg FdSelector.fds h.sel) h.originFd

theorem Spares.replyWith (h : Spares s t) (rep : UInt8) : Spares s (replyWith rep t).1 := by
  have hrep : Spares t { t with conn.reply.rep := rep } := .of_fds rfl rfl
  have hwire : WireFrame { t with conn.reply.rep := rep } (Socks5Proxy.replyWith rep t).1 :=
    .setInterest _ _
  exact (h.trans hrep).trans (.wire hwire)

/-- The descriptor an attempt registers was not registered before. -/
theorem Spares.attempted {ret : UInt8} (h : Attempted env key s t ret)
    (hfresh : FreshSockets s env) (htable : fdSetsize < s.sel.fds.length) : Spares s t := by
  obtain ⟨-, hunused, -⟩ := hfresh.origin h
  have hne : ∀ fd, SocksRegistered s.sel fd → fd ≠ t.conn.originFd := by
    intro fd hfd heq
    rw [heq] at hfd
    exact hfd.1 hunused
  rcases h.selector htable with ⟨-, hsel⟩ | ⟨-, horigin⟩
  · refine ⟨by rw [hsel], fun fd hfd _ => ⟨?_, hne fd hfd⟩⟩
    rw [hsel]
    exact hfd
  · refine ⟨horigin.length, ?_⟩
    intro fd hfd _
    exact ⟨hfd.of_item (horigin.others fd hfd.valid (hne fd hfd)), hne fd hfd⟩

theorem Spares.dropped (s : Session) : Spares s (dropOrigin s) := by
  refine ⟨length_fds_dropOrigin, ?_⟩
  intro fd hfd hne
  exact ⟨hfd.of_item (item_selectorUnregister_of_ne hfd.valid hne), hfd.ne_neg_one⟩

theorem Decided.spares {attempts : Prop} (h : Decided env key attempts s r)
    (hfresh : FreshSockets s env) (htable : fdSetsize < s.sel.fds.length) : Spares s r.1 := by
  rcases h with ⟨-, -⟩ | ⟨hattempted, -, -, -⟩ | ⟨hattempted, -⟩
  · exact (Spares.refl s).replyWith _
  · exact (Spares.attempted hattempted hfresh htable).replyWith _
  · exact (Spares.attempted hattempted hfresh htable).trans (.wire (.setInterest _ _))

end Registrations

/-! ## The callbacks -/

/-- What a callback does to the registrations; one that ends the connection
leaves them as they were. -/
structure Leaves (s : Session) (r : Session × SocksV5State) : Prop where
  spares : Spares s r.1
  ended : r.2 = .error ∨ r.2 = .done → r.1.conn.originFd = s.conn.originFd ∧
    ∀ fd, SocksRegistered r.1.sel fd ↔ SocksRegistered s.sel fd

section Callbacks

variable {s t : Session} {env : Env} {key : SelectorKey} {st : SocksV5State}
  {r : Session × SocksV5State} {callback : Session → Except Fault (Session × SocksV5State)}

theorem Leaves.wire (h : WireFrame s r.1) : Leaves s r :=
  ⟨.wire h, fun _ => ⟨h.originFd, fun _ => h.sets.socksRegistered⟩⟩

theorem Leaves.goesOn (h : Spares s r.1) (hlive : r.2 ≠ .error ∧ r.2 ≠ .done) : Leaves s r :=
  ⟨h, fun hend => absurd hend (not_or.mpr hlive)⟩

theorem Decided.goesOn {attempts : Prop} (h : Decided env key attempts s r) :
    r.2 ≠ .error ∧ r.2 ≠ .done := by
  rcases h with ⟨-, -⟩ | ⟨-, -, -, -⟩ | ⟨-, -⟩
  · exact ⟨by rintro ⟨⟩, by rintro ⟨⟩⟩
  · exact ⟨by rintro ⟨⟩, by rintro ⟨⟩⟩
  · exact ⟨by rintro ⟨⟩, by rintro ⟨⟩⟩

theorem requestRead_leaves (hfresh : FreshSockets s env) (htable : fdSetsize < s.sel.fds.length)
    (h : requestRead env key s = .ok r) : Leaves s r := by
  rcases requestRead_cases hfresh htable h with ⟨hframe, -, -⟩ | ⟨hframe, -, -⟩ |
    ⟨hframe, -, hdecided⟩
  · exact ⟨.decode hframe, fun _ => ⟨hframe.originFd, fun _ => by rw [hframe.sel]⟩⟩
  · exact ⟨.decode hframe, fun _ => ⟨hframe.originFd, fun _ => by rw [hframe.sel]⟩⟩
  · refine .goesOn ((Spares.decode hframe).trans ?_) hdecided.goesOn
    refine hdecided.spares (hfresh.decode hframe) ?_
    rw [hframe.sel]
    exact htable

theorem connectWrite_leaves (hfresh : FreshSockets (dropOrigin s) env)
    (htable : fdSetsize < s.sel.fds.length) (h : connectWrite env key s = .ok r) :
    Leaves s r := by
  have hdropped : Spares s (getNextResolution (dropOrigin s)) :=
    (Spares.dropped s).trans (.of_fds rfl rfl)
  have hattempts : ∀ {t : Session} {ret : UInt8},
      Attempted env key (getNextResolution (dropOrigin s)) t ret → Spares s t := by
    intro t ret hattempted
    refine hdropped.trans (.attempted hattempted hfresh ?_)
    rw [hdropped.length]
    exact htable
  rcases connectWrite_cases hfresh htable h with ⟨-⟩ | ⟨-, -⟩ | ⟨-, -, hattempted, -, -⟩ |
    ⟨-, -, hattempted⟩ | ⟨-⟩
  · exact .goesOn ((Spares.refl s).replyWith _) ⟨by rintro ⟨⟩, by rintro ⟨⟩⟩
  · exact .goesOn ((Spares.dropped s).replyWith _) ⟨by rintro ⟨⟩, by rintro ⟨⟩⟩
  · exact .goesOn ((hattempts hattempted).replyWith _) ⟨by rintro ⟨⟩, by rintro ⟨⟩⟩
  · exact .goesOn (hattempts hattempted) ⟨by rintro ⟨⟩, by rintro ⟨⟩⟩
  · refine .goesOn (Spares.replyWith ?_ _) ⟨by rintro ⟨⟩, by rintro ⟨⟩⟩
    exact .wire (.setInterest _ _)

theorem replyWrite_leaves : Leaves s (replyWrite env s) := by
  refine .wire ?_
  rcases hfound : s.conn.reply.foundBndInfo with _ | _
  · rw [replyWrite, if_pos hfound]
    exact .refl s
  · obtain ⟨b, action, hplain, -, hwrite⟩ := replyWrite_eq env s hfound
    have hsent : WireFrame s (({ s with conn.originBuffer := b }).act action) :=
      .conn_act action hplain rfl rfl
    rw [hwrite]
    dsimp only
    split_ifs
    · exact hsent
    · exact hsent
    · exact hsent.trans (.setInterest _ _)

theorem onReadReady_leaves (htable : fdSetsize < s.sel.fds.length)
    (hfresh : st = .request → FreshSockets s env)
    (hselect : (socks5States env key st).onReadReady = some callback)
    (hcall : callback s = .ok r) : Leaves s r := by
  rcases st <;> cases hselect
  · rw [← Except.ok.inj hcall]
    exact .wire (greetingRead_wire ..)
  · rw [← Except.ok.inj hcall]
    exact .wire (authRead_wire ..)
  · exact requestRead_leaves (hfresh rfl) htable hcall
  · rw [← Except.ok.inj hcall]
    exact .wire socksv5CopyRead_wire

theorem onWriteReady_leaves (htable : fdSetsize < s.sel.fds.length)
    (hfresh : st = .connect → FreshSockets (dropOrigin s) env)
    (hselect : (socks5States env key st).onWriteReady = some callback)
    (hcall : callback s = .ok r) : Leaves s r := by
  rcases st <;> cases hselect
  · rw [← Except.ok.inj hcall]
    exact .wire greetingWrite_wire
  · rw [← Except.ok.inj hcall]
    exact .wire authWrite_wire
  · exact connectWrite_leaves (hfresh rfl) htable hcall
  · rw [← Except.ok.inj hcall]
    exact replyWrite_leaves
  · rw [← Except.ok.inj hcall]
    exact .wire socksv5CopyWrite_wire

theorem onBlockReady_leaves (htable : fdSetsize < s.sel.fds.length)
    (hfresh : st = .request → FreshSockets s env)
    (hselect : (socks5States env key st).onBlockReady = some callback)
    (hcall : callback s = .ok r) : Leaves s r := by
  rcases st <;> cases hselect
  have hdecided := connectToDest_decided (hfresh rfl) htable hcall
  exact .goesOn (hdecided.spares (hfresh rfl) htable) hdecided.goesOn

end Callbacks

/-! ## Teardown -/

/-- How often teardown counts the connection back. -/
def timesCounted (s : Session) : ℕ := if SocksRegistered s.sel s.conn.originFd then 2 else 1

/-- The connection has been torn down, the other registrations of the SOCKS
handler are as they were, and it has been counted back. -/
structure CountedBack (s t : Session) : Prop where
  closed : t.conn.closed = true
  length : t.sel.fds.length = s.sel.fds.length
  others : ∀ fd, SocksRegistered s.sel fd → fd ≠ s.conn.originFd → fd ≠ s.conn.clientFd →
    SocksRegistered t.sel fd
  current : t.metrics.currentConnections.toNat =
    s.metrics.currentConnections.toNat - timesCounted s
  total : t.metrics.totalConnections = s.metrics.totalConnections

section Done

variable {s t : Session} {env : Env} {key : SelectorKey} {st : SocksV5State} {fd fd' : ℤ}
  {r : Session × SocksV5State}

theorem timesCounted_of_registered (h : SocksRegistered s.sel s.conn.originFd) :
    timesCounted s = 2 := if_pos h

theorem timesCounted_of_not_registered (h : ¬ SocksRegistered s.sel s.conn.originFd) :
    timesCounted s = 1 := if_neg h

theorem registerConnectionClosed_current (m : MetricSnapshot) :
    (registerConnectionClosed m).currentConnections.toNat = m.currentConnections.toNat - 1 := by
  unfold registerConnectionClosed
  split_ifs with hpositive
  · have hle : (1 : UInt64) ≤ m.currentConnections := by
      rw [UInt64.le_iff_toNat_le]
      exact UInt64.lt_iff_toNat_lt.mp hpositive
    exact UInt64.toNat_sub_of_le _ _ hle
  · have hzero : ¬ 0 < m.currentConnections.toNat := fun h =>
      hpositive (UInt64.lt_iff_toNat_lt.mpr h)
    omega

theorem registerConnectionClosed_total (m : MetricSnapshot) :
    (registerConnectionClosed m).totalConnections = m.totalConnections := by
  unfold registerConnectionClosed
  split_ifs <;> rfl

/-- Unregistering a descriptor counts if it has the SOCKS handler. -/
theorem unregisterFd_eq (env : Env) (key : SelectorKey) (s : Session) (fd : ℤ) :
    unregisterFd (closeWith id env key) s fd =
      { s with
        sel := (selectorUnregisterFdWithoutClosing s.sel fd).1
        metrics := if SocksRegistered s.sel fd then registerConnectionClosed s.metrics
          else s.metrics } := by
  have hiff : SocksRegistered s.sel fd ↔ invalidFd fd = false ∧ (s.sel.item fd).used = true ∧
      (s.sel.item fd).handler = some .socks5Handler := by
    rw [SocksRegistered, interestOf_ne_none_iff, and_assoc]
  unfold unregisterFd selectorUnregisterFdWithoutClosing
  rcases hinvalid : invalidFd fd with _ | _
  · rcases hused : (s.sel.item fd).used with _ | _
    · rw [if_neg (show ¬ SocksRegistered s.sel fd by rw [hiff, hused]; simp)]
      rfl
    · by_cases hhandler : (s.sel.item fd).handler = some .socks5Handler
      · rw [if_pos (hiff.mpr ⟨hinvalid, hused, hhandler⟩)]
        dsimp only
        rw [if_pos hhandler, closeWith_eq]
        rfl
      · rw [if_neg (show ¬ SocksRegistered s.sel fd from fun h => hhandler h.2)]
        dsimp only
        rw [if_neg hhandler]
        rfl
  · rw [if_neg (show ¬ SocksRegistered s.sel fd by rw [hiff, hinvalid]; simp)]
    rfl

theorem releaseFd_counts (env : Env) (key : SelectorKey) (fd : ℤ) (s : Session) :
    (releaseFd env key fd s).sel = (selectorUnregisterFdWithoutClosing s.sel fd).1 ∧
      (releaseFd env key fd s).metrics =
        if SocksRegistered s.sel fd then registerConnectionClosed s.metrics else s.metrics := by
  unfold releaseFd
  by_cases hfd : fd ≠ -1
  · rw [if_pos hfd, unregisterFd_eq]
    exact ⟨rfl, rfl⟩
  · rw [if_neg hfd, not_not.mp hfd, if_neg fun h => h.ne_neg_one rfl]
    exact ⟨rfl, rfl⟩

theorem SocksRegistered.unregister {sel : FdSelector FdHandler ℕ} (h : SocksRegistered sel fd')
    (hne : fd' ≠ fd) : SocksRegistered (selectorUnregisterFdWithoutClosing sel fd).1 fd' :=
  h.of_item (item_selectorUnregister_of_ne h.valid hne)

/-- Teardown unregisters the origin and then the client. -/
theorem teardown_counts (env : Env) (key : SelectorKey) (hopen : s.conn.closed = false)
    (hclient : SocksRegistered s.sel s.conn.clientFd)
    (hdistinct : s.conn.originFd ≠ s.conn.clientFd) :
    (teardown env key s).sel = (selectorUnregisterFdWithoutClosing
        (selectorUnregisterFdWithoutClosing s.sel s.conn.originFd).1 s.conn.clientFd).1 ∧
      (teardown env key s).metrics = registerConnectionClosed
        (if SocksRegistered s.sel s.conn.originFd then registerConnectionClosed s.metrics
          else s.metrics) := by
  have hkept := hclient.unregister hdistinct.symm
  unfold teardown
  rw [if_neg (by rw [hopen]; decide)]
  dsimp only [Session.act]
  obtain ⟨hsel, hmetrics⟩ := releaseFd_counts env key s.conn.originFd
    { s with conn.closed := true }
  have hconn : (releaseFd env key s.conn.originFd { s with conn.closed := true }).conn =
      { s.conn with closed := true } := conn_releaseFd
  generalize releaseFd env key s.conn.originFd { s with conn.closed := true } = t
    at hsel hmetrics hconn ⊢
  obtain ⟨hsel', hmetrics'⟩ := releaseFd_counts env key t.conn.clientFd t
  have hfd : t.conn.clientFd = s.conn.clientFd := by rw [hconn]
  rw [hsel', hmetrics', hmetrics, hsel, hfd, if_pos hkept]
  exact ⟨rfl, rfl⟩

theorem teardown_countedBack (hopen : s.conn.closed = false)
    (hclient : SocksRegistered s.sel s.conn.clientFd)
    (hdistinct : s.conn.originFd ≠ s.conn.clientFd) :
    CountedBack s (teardown env key s) := by
  obtain ⟨hsel, hmetrics⟩ := teardown_counts env key hopen hclient hdistinct
  refine ⟨teardown_closed, ?_, ?_, ?_, ?_⟩
  · rw [hsel, length_fds_selectorUnregister, length_fds_selectorUnregister]
  · intro fd hfd horigin hclient
    rw [hsel]
    exact (hfd.unregister horigin).unregister hclient
  · rw [hmetrics, registerConnectionClosed_current, timesCounted]
    split_ifs
    · rw [registerConnectionClosed_current]
      omega
    · rfl
  · rw [hmetrics, registerConnectionClosed_total]
    split_ifs
    · exact registerConnectionClosed_total s.metrics
    · rfl

end Done

/-! ## One event of a connection -/

/-- A connection whose client is registered. -/
structure Counted (s : Session) : Prop where
  table : fdSetsize < s.sel.fds.length
  client : SocksRegistered s.sel s.conn.clientFd
  distinct : s.conn.originFd ≠ s.conn.clientFd

/-- The connection goes on and nothing is counted, or it is torn down. -/
inductive Tally (s t : Session) : Prop
  | goesOn (hopen : t.conn.closed = false) (hspares : Spares s t)
      (hsame : SameCounts s.metrics t.metrics)
  | ends (h : CountedBack s t)

section Step

variable {s t u : Session} {env : Env} {key : SelectorKey} {st : SocksV5State} {e : Event}
  {r : Session × SocksV5State}

/-- What a callback does before teardown changes nothing that teardown counts. -/
theorem CountedBack.after (h : CountedBack u t) (hclient : u.conn.clientFd = s.conn.clientFd)
    (hspares : Spares s u) (hsame : SameCounts s.metrics u.metrics)
    (horigin : u.conn.originFd = s.conn.originFd)
    (hregistered : ∀ fd, SocksRegistered u.sel fd ↔ SocksRegistered s.sel fd) :
    CountedBack s t := by
  refine ⟨h.closed, h.length.trans hspares.length, ?_, ?_, h.total.trans hsame.total⟩
  · intro fd hfd hne hother
    obtain ⟨hkept, hne'⟩ := hspares.others fd hfd hne
    rw [← hclient] at hother
    exact h.others fd hkept hne' hother
  · have htimes : timesCounted u = timesCounted s := by
      unfold timesCounted
      rw [horigin]
      exact if_congr (hregistered s.conn.originFd) rfl rfl
    rw [h.current, htimes, hsame.current]

theorem settle_tally (env : Env) (key : SelectorKey) (st : SocksV5State) (h : Counted s)
    (hopen : r.1.conn.closed = false)
    (hclient : r.1.conn.clientFd = s.conn.clientFd) (hleaves : Leaves s r)
    (hsame : SameCounts s.metrics r.1.metrics) : Tally s (settle env key st r) := by
  obtain ⟨u, next⟩ := r
  have hspares : Spares s u := hleaves.spares
  by_cases hstop : next = .error ∨ next = .done
  · obtain ⟨horigin, hregistered⟩ := hleaves.ended hstop
    rw [settle_stop hstop]
    generalize hv : ({ u with conn.stm := some next } : Session) = v
    have hsel : v.sel = u.sel := by rw [← hv]
    have hclientFd : v.conn.clientFd = s.conn.clientFd := by rw [← hv]; exact hclient
    have horiginFd : v.conn.originFd = s.conn.originFd := by rw [← hv]; exact horigin
    have hmetrics : SameCounts s.metrics v.metrics := by rw [← hv]; exact hsame
    have hspares' : Spares u v := .of_fds (by rw [hsel]) (by rw [← hv])
    have hiff : ∀ fd, SocksRegistered v.sel fd ↔ SocksRegistered s.sel fd := by
      rw [hsel]
      exact hregistered
    have hdone : CountedBack v (teardown env key v) := by
      refine teardown_countedBack (by rw [← hv]; exact hopen) ?_ ?_
      · rw [hclientFd]
        exact (hiff _).mpr h.client
      · rw [hclientFd, horiginFd]
        exact h.distinct
    exact .ends (hdone.after hclientFd (hspares.trans hspares') hmetrics horiginFd hiff)
  · obtain ⟨herror, hdone⟩ := not_or.mp hstop
    by_cases hst : st = next
    · have hstm : Spares u { u with conn.stm := some next } := .of_fds rfl rfl
      rw [hst, settle_stay herror hdone]
      exact .goesOn hopen (hspares.trans hstm) hsame
    · rw [settle_move hst herror hdone]
      have harrival : Spares u (callIfSome (socks5States env key next).onArrival u) :=
        .wire arrival_wire
      have hmetrics := arrival_metrics env key next u
      have hclosed : (callIfSome (socks5States env key next).onArrival u).conn.closed = false :=
        arrival_frame.closed.trans hopen
      generalize callIfSome (socks5States env key next).onArrival u = v
        at harrival hmetrics hclosed ⊢
      have hstm : Spares v { v with conn.stm := some next } := .of_fds rfl rfl
      exact .goesOn hclosed ((hspares.trans harrival).trans hstm)
        (hsame.trans (.of_eq hmetrics))

theorem Counted.arrived (h : Counted s) : Counted s.arrived := by
  obtain ⟨g, hg⟩ := arrived_eq s
  rw [hg]
  exact ⟨h.table, h.client, h.distinct⟩

theorem Tally.of_arrived (h : Tally s.arrived t) : Tally s t := by
  obtain ⟨g, hg⟩ := arrived_eq s
  rw [hg] at h
  rcases h with ⟨hopen, hspares, hsame⟩ | ⟨hclosed, hlength, hothers, hcurrent, htotal⟩
  · exact .goesOn hopen ⟨hspares.length, hspares.others⟩ hsame
  · exact .ends ⟨hclosed, hlength, hothers, hcurrent, htotal⟩

/-- An event of a live connection. -/
theorem Counted.step (h : Counted s) (hopen : s.conn.closed = false) (hfresh : FreshAt s e)
    (hstep : Socks5Proxy.step s e = .ok t) : Tally s t := by
  have hopen' : s.arrived.conn.closed = false := arrived_frame.closed.trans hopen
  have harrived := h.arrived
  rcases e with ⟨fd, env⟩ | ⟨fd, env⟩ | ⟨fd, env⟩ | result | errno
  · obtain ⟨-, callback, r, hselect, hcall, rfl⟩ := step_read_ok hstep
    have hframe := onReadReady_frame hselect hcall
    have hleaves := onReadReady_leaves harrived.table
      (fun hst => freshSockets_arrived (hfresh hst)) hselect hcall
    exact (settle_tally env _ _ harrived (hframe.closed.trans hopen') hframe.clientFd hleaves
      (onReadReady_same hselect hcall)).of_arrived
  · obtain ⟨-, callback, r, hselect, hcall, rfl⟩ := step_write_ok hstep
    have hframe := onWriteReady_frame hselect hcall
    have hleaves := onWriteReady_leaves harrived.table
      (fun hst => freshSockets_dropOrigin_arrived (hfresh hst)) hselect hcall
    exact (settle_tally env _ _ harrived (hframe.closed.trans hopen') hframe.clientFd hleaves
      (onWriteReady_same hselect hcall)).of_arrived
  · obtain ⟨-, callback, r, u, hselect, hcall, rfl, rfl⟩ := step_block_ok hstep
    have hframe := onBlockReady_frame hselect hcall
    have hleaves := onBlockReady_leaves harrived.table
      (fun hst => freshSockets_arrived (hfresh hst)) hselect hcall
    have htally := (settle_tally env ⟨fd, s.address⟩ s.state harrived
      (hframe.closed.trans hopen') hframe.clientFd hleaves
      (onBlockReady_same hselect hcall)).of_arrived
    rcases htally with ⟨hopen, hspares, hsame⟩ | ⟨hclosed, hlength, hothers, hcurrent, htotal⟩
    · exact .goesOn hopen (hspares.trans (.of_fds rfl rfl)) hsame
    · exact .ends ⟨hclosed, hlength, fun fd hfd hne hother => (hothers fd hfd hne hother).congr rfl,
        hcurrent, htotal⟩
  · obtain ⟨-, rfl⟩ := step_resolved_ok_iff.mp hstep
    exact .goesOn hopen (.of_fds rfl rfl) (.refl _)
  · obtain ⟨-, rfl⟩ := step_connectFinished_ok_iff.mp hstep
    exact .goesOn hopen (.of_fds rfl rfl) (.refl _)

end Step

/-! ## The server -/

/-- Both counters are exact. -/
structure CountsExact (v : Server) : Prop where
  current : v.metrics.currentConnections.toNat = v.live
  total : v.metrics.totalConnections.toNat = v.accepted

instance (v : Server) : Decidable (CountsExact v) :=
  decidable_of_iff (v.metrics.currentConnections.toNat = v.live ∧
    v.metrics.totalConnections.toNat = v.accepted)
    ⟨fun h => ⟨h.1, h.2⟩, fun h => ⟨h.current, h.total⟩⟩

/-- The kernel does not hand out a descriptor that is open: `accept` returns
none that a live connection holds, and `socket` none that is registered. -/
def NewDescriptors (v : Server) : ServerEvent → Prop
  | .acceptFails => True
  | .accept _ a => ∀ c ∈ v.connections, c.conn.closed = false →
      a.clientFd ≠ c.conn.clientFd ∧ a.clientFd ≠ c.conn.originFd
  | .connection i e => ∀ c, v.connections[i]? = some c → FreshAt (v.session c) e

/-- The event tears the connection down. -/
def TearsDown (s : Session) (e : Event) : Prop :=
  ∃ t, step s e = .ok t ∧ t.conn.closed = true

/-- An accept does not fail once the client is counted, nor do the counters
overflow; a connection that is torn down has no registered origin, or no other
connection is alive. -/
def Counts (v : Server) : ServerEvent → Prop
  | .acceptFails => True
  | .accept malloc a => malloc = true ∧ invalidFd a.clientFd = false ∧
      v.sel.interestOf a.clientFd = none ∧ v.accepted + 1 < UInt64.size
  | .connection i e => ∀ c, v.connections[i]? = some c → TearsDown (v.session c) e →
      SocksRegistered v.sel c.conn.originFd → v.live = 1

/-- The clients of the live connections are registered, each under a descriptor
that no other live connection holds. -/
structure Apart (v : Server) : Prop where
  table : fdSetsize < v.sel.fds.length
  client : ∀ (i : ℕ) c, v.connections[i]? = some c → c.conn.closed = false →
    SocksRegistered v.sel c.conn.clientFd ∧ c.conn.originFd ≠ c.conn.clientFd
  apart : ∀ (i j : ℕ) c d, i ≠ j → v.connections[i]? = some c → v.connections[j]? = some d →
    c.conn.closed = false → d.conn.closed = false →
    d.conn.clientFd ≠ c.conn.clientFd ∧ d.conn.clientFd ≠ c.conn.originFd
  bound : v.connections.length ≤ v.accepted

section Server

variable {bufferSize : ℕ} {v v' : Server} {s : Session} {c : Connection} {i : ℕ} {a : Accepted}
  {malloc : Bool} {e : Event} {es : List ServerEvent}

theorem Server.live_le (v : Server) : v.live ≤ v.connections.length := List.countP_le_length

theorem Apart.counted (h : Apart v) (hc : v.connections[i]? = some c)
    (hopen : c.conn.closed = false) : Counted (v.session c) := by
  obtain ⟨hclient, hdistinct⟩ := h.client i c hc hopen
  exact ⟨h.table, hclient, hdistinct⟩

/-- The other connections after an event of the one at `i`. -/
theorem Server.resume_other {j : ℕ} (hij : i ≠ j) :
    (v.resume i s).connections[j]? = v.connections[j]? :=
  List.getElem?_set_ne hij

theorem Server.resume_self (hc : v.connections[i]? = some c) :
    (v.resume i s).connections[i]? =
      some { address := s.address, conn := s.conn, resolvers := s.resolvers, log := s.log } := by
  obtain ⟨hi, -⟩ := List.getElem?_eq_some_iff.mp hc
  rw [Server.resume, List.getElem?_set_self hi]

/-- A live connection is one of those counted. -/
theorem Server.live_resume (hc : v.connections[i]? = some c) (hopen : c.conn.closed = false) :
    1 ≤ v.live ∧ (v.resume i s).live = if s.conn.closed then v.live - 1 else v.live := by
  obtain ⟨hi, hget⟩ := List.getElem?_eq_some_iff.mp hc
  have hlive : 1 ≤ v.live := by
    rw [Server.live, Nat.one_le_iff_ne_zero, Ne, List.countP_eq_zero]
    intro hnone
    exact hnone c (List.mem_of_getElem? hc) (by rw [hopen]; rfl)
  refine ⟨hlive, ?_⟩
  rw [Server.live] at hlive ⊢
  rw [Server.resume, List.countP_set hi, hget, hopen]
  rcases s.conn.closed with _ | _
  · simp only [Bool.not_false, if_true, Bool.false_eq_true, if_false]
    rw [Server.live]
    omega
  · simp only [Bool.not_false, if_true, Bool.not_true, Bool.false_eq_true, if_false]
    rw [Server.live]
    omega

/-! ### Accepting -/

/-- Registering a new client succeeds exactly below `FD_SETSIZE` on a free item. -/
theorem selectorRegister_success_iff {sel : FdSelector FdHandler ℕ} {fd : ℤ}
    (interest : FdInterest) (data : Option ℕ) (alloc : Bool)
    (htable : fdSetsize < sel.fds.length) :
    (selectorRegister sel fd (some .socks5Handler) interest data alloc).2 = .success ↔
      invalidFd fd = false ∧ sel.interestOf fd = none := by
  have hlength : invalidFd fd = false → fd.toNat < sel.fds.length :=
    fun hvalid => toNat_lt_of_valid hvalid htable.le
  constructor
  · intro h
    have hvalid := selectorRegister_valid h
    obtain ⟨-, hunused, -⟩ := selectorRegister_eq_of_success (hlength hvalid) h
    refine ⟨hvalid, ?_⟩
    by_contra hused
    rw [(interestOf_ne_none_iff.mp hused).2] at hunused
    cases hunused
  · rintro ⟨hvalid, hfree⟩
    exact selectorRegister_success _ _ _ (hlength hvalid) hvalid hfree

/-- An accept that fails behind `register_new_connection` leaves nothing but
the counters. -/
theorem Server.passiveAccept_of_failure (htable : fdSetsize < v.sel.fds.length)
    (h : ¬ (malloc = true ∧ invalidFd a.clientFd = false ∧ v.sel.interestOf a.clientFd = none)) :
    v.passiveAccept bufferSize malloc a =
      { v with
        metrics := registerNewConnection v.metrics
        accepted := v.accepted + 1 } := by
  unfold Server.passiveAccept
  rcases malloc with _ | _
  · rfl
  · rw [if_neg (by decide)]
    rw [and_iff_right rfl,
      ← selectorRegister_success_iff .opRead (some a.address) a.alloc htable] at h
    have hsame := selectorRegister_failed htable h
    dsimp only
    generalize selectorRegister v.sel a.clientFd (some .socks5Handler) .opRead
      (some a.address) a.alloc = r at h hsame ⊢
    obtain ⟨sel, status⟩ := r
    rw [← show sel = v.sel from hsame]
    rcases status with _ | _ | _ | _ | _ | _
    · exact absurd rfl h
    all_goals rfl

theorem Apart.start {sel : FdSelector FdHandler ℕ} (htable : fdSetsize < sel.fds.length) :
    Apart (.start sel) := by
  refine ⟨htable, ?_, ?_, Nat.zero_le _⟩
  · intro i c hc
    cases hc
  · intro i j c d _ hc
    cases hc

theorem CountsExact.start (sel : FdSelector FdHandler ℕ) : CountsExact (.start sel) := ⟨rfl, rfl⟩

/-- Another client, on a descriptor no live connection holds. -/
theorem Apart.accepted (h : Apart v) (hvalid : invalidFd a.clientFd = false)
    (hfree : v.sel.interestOf a.clientFd = none) (hnew : NewDescriptors v (.accept true a)) :
    Apart (v.passiveAccept bufferSize true a) := by
  have hsuccess := (selectorRegister_success_iff .opRead (some a.address) a.alloc h.table).mpr
    ⟨hvalid, hfree⟩
  have hlen : a.clientFd.toNat < v.sel.fds.length := toNat_lt_of_valid hvalid h.table.le
  have hkept : ∀ fd, SocksRegistered v.sel fd → fd ≠ a.clientFd →
      SocksRegistered (selectorRegister v.sel a.clientFd (some .socks5Handler) .opRead
        (some a.address) a.alloc).1 fd := fun fd hfd hne =>
    hfd.of_item (item_selectorRegister_of_ne hlen hsuccess hfd.valid hne)
  have hself : SocksRegistered (selectorRegister v.sel a.clientFd (some .socks5Handler) .opRead
      (some a.address) a.alloc).1 a.clientFd := by
    refine ⟨?_, congrArg Item.handler (item_selectorRegister_self hlen hsuccess)⟩
    rw [interestOf_selectorRegister hlen, if_pos ⟨rfl, hsuccess⟩]
    exact Option.some_ne_none _
  have hfresh : ∀ (i : ℕ) c, v.connections[i]? = some c → c.conn.closed = false →
      a.clientFd ≠ c.conn.clientFd ∧ a.clientFd ≠ c.conn.originFd := fun i c hc =>
    hnew c (List.mem_of_getElem? hc)
  rw [Server.passiveAccept_of_success hsuccess]
  have hclientFd : (newConnection bufferSize a).conn.clientFd = a.clientFd := rfl
  have horiginFd : (newConnection bufferSize a).conn.originFd = -1 := rfl
  generalize newConnection bufferSize a = last at hclientFd horiginFd
  have hcases : ∀ (i : ℕ) c, (v.connections ++ [last])[i]? = some c →
      v.connections[i]? = some c ∨ i = v.connections.length ∧ c = last := by
    intro i c hc
    by_cases hlt : i < v.connections.length
    · rw [List.getElem?_append_left hlt] at hc
      exact .inl hc
    · rw [List.getElem?_append_right (Nat.not_lt.mp hlt), List.getElem?_singleton] at hc
      split_ifs at hc with hzero
      exact .inr ⟨by omega, (Option.some.inj hc).symm⟩
  refine ⟨?_, ?_, ?_, ?_⟩
  · rw [length_fds_selectorRegister hlen hsuccess]
    exact h.table
  · intro i c hc hopen
    rcases hcases i c hc with hold | ⟨-, rfl⟩
    · obtain ⟨hclient, hdistinct⟩ := h.client i c hold hopen
      exact ⟨hkept _ hclient (hfresh i c hold hopen).1.symm, hdistinct⟩
    · rw [hclientFd, horiginFd]
      exact ⟨hself, hself.ne_neg_one.symm⟩
  · intro i j c d hij hc hd hopen hopen'
    rcases hcases i c hc with hold | ⟨hi, rfl⟩
    · rcases hcases j d hd with hold' | ⟨-, rfl⟩
      · exact h.apart i j c d hij hold hold' hopen hopen'
      · rw [hclientFd]
        exact hfresh i c hold hopen
    · rcases hcases j d hd with hold' | ⟨hj, rfl⟩
      · rw [hclientFd, horiginFd]
        exact ⟨(hfresh j d hold' hopen').1.symm, (h.client j d hold' hopen').1.ne_neg_one⟩
      · exact absurd (hi.trans hj.symm) hij
  · rw [List.length_append, List.length_singleton]
    exact Nat.succ_le_succ h.bound

/-- What an accept does to the counters. -/
theorem registerNewConnection_exact {m : MetricSnapshot} {n k : ℕ}
    (hcurrent : m.currentConnections.toNat = n) (htotal : m.totalConnections.toNat = k) :
    (registerNewConnection m).currentConnections.toNat = (n + 1) % UInt64.size ∧
      (registerNewConnection m).totalConnections.toNat = (k + 1) % UInt64.size := by
  refine ⟨?_, ?_⟩
  · rw [← hcurrent]
    exact UInt64.toNat_add _ _
  · rw [← htotal]
    exact UInt64.toNat_add _ _

/-- After an accept the counters are exact if it did not fail half way. -/
theorem accept_counts (bufferSize : ℕ) (h : Apart v) (hnew : NewDescriptors v (.accept malloc a))
    (hexact : CountsExact v) :
    Apart (v.passiveAccept bufferSize malloc a) ∧
      (CountsExact (v.passiveAccept bufferSize malloc a) ↔ Counts v (.accept malloc a)) := by
  have hlive : v.live ≤ v.accepted := v.live_le.trans h.bound
  obtain ⟨hcurrent, htotal⟩ := registerNewConnection_exact hexact.current hexact.total
  by_cases hserved : malloc = true ∧ invalidFd a.clientFd = false ∧
      v.sel.interestOf a.clientFd = none
  · obtain ⟨rfl, hvalid, hfree⟩ := hserved
    refine ⟨h.accepted hvalid hfree hnew, ?_⟩
    have hsuccess := (selectorRegister_success_iff .opRead (some a.address) a.alloc h.table).mpr
      ⟨hvalid, hfree⟩
    rw [Server.passiveAccept_of_success hsuccess]
    constructor
    · intro hcounts
      refine ⟨rfl, hvalid, hfree, ?_⟩
      have hsame := htotal.symm.trans hcounts.total
      dsimp only at hsame
      rw [← hsame]
      exact Nat.mod_lt _ (by decide)
    · rintro ⟨-, -, -, hbound⟩
      refine ⟨?_, htotal.trans (Nat.mod_eq_of_lt hbound)⟩
      refine hcurrent.trans ((Nat.mod_eq_of_lt (by omega)).trans ?_)
      have hone : v.live + 1 = (v.connections ++ [newConnection bufferSize a]).countP
          fun c => !c.conn.closed := by
        rw [List.countP_append]
        rfl
      exact hone
  · rw [Server.passiveAccept_of_failure h.table hserved]
    refine ⟨⟨h.table, h.client, h.apart, h.bound.trans (Nat.le_succ _)⟩, ?_⟩
    refine iff_of_false ?_ fun hcounts => hserved ⟨hcounts.1, hcounts.2.1, hcounts.2.2.1⟩
    intro hcounts
    -- the client is counted and is not there
    have hsame : (v.live + 1) % UInt64.size = v.live := hcurrent.symm.trans hcounts.current
    have hrange : v.live < UInt64.size := by
      rw [← hexact.current]
      exact UInt64.toNat_lt _
    rw [UInt64.size] at hsame hrange
    omega

/-- The other live connections after an event of the one at `i`. -/
theorem Apart.resumed (h : Apart v) (hc : v.connections[i]? = some c)
    (hopen : c.conn.closed = false) (hclient : s.conn.clientFd = c.conn.clientFd)
    (hlength : s.sel.fds.length = v.sel.fds.length)
    (hothers : ∀ fd, SocksRegistered v.sel fd → fd ≠ c.conn.originFd → fd ≠ c.conn.clientFd →
      SocksRegistered s.sel fd)
    (hspares : s.conn.closed = false → Spares (v.session c) s) : Apart (v.resume i s) := by
  have hself : ∀ {d}, (v.resume i s).connections[i]? = some d → d.conn = s.conn := by
    intro d hd
    rw [Server.resume_self hc] at hd
    rw [← Option.some.inj hd]
  have hkept : ∀ {j d}, i ≠ j → (v.resume i s).connections[j]? = some d →
      v.connections[j]? = some d := by
    intro j d hij hd
    rw [Server.resume_other hij] at hd
    exact hd
  refine ⟨?_, ?_, ?_, ?_⟩
  · rw [Server.resume, hlength]
    exact h.table
  · intro j d hd hlive
    by_cases hij : i = j
    · subst hij
      rw [hself hd] at hlive ⊢
      obtain ⟨hregistered, hdistinct⟩ := h.client i c hc hopen
      rw [hclient]
      obtain ⟨hkept, hne⟩ := (hspares hlive).others _ hregistered hdistinct.symm
      exact ⟨hkept, hne.symm⟩
    · obtain ⟨hregistered, hdistinct⟩ := h.client j d (hkept hij hd) hlive
      obtain ⟨hne, hne'⟩ := h.apart i j c d hij hc (hkept hij hd) hopen hlive
      exact ⟨hothers _ hregistered hne' hne, hdistinct⟩
  · intro j k d d' hjk hd hd' hlive hlive'
    by_cases hij : i = j
    · subst hij
      rw [hself hd] at hlive ⊢
      have hold := hkept hjk hd'
      obtain ⟨hregistered, -⟩ := h.client k d' hold hlive'
      obtain ⟨hne, hne'⟩ := h.apart i k c d' hjk hc hold hopen hlive'
      rw [hclient]
      exact ⟨hne, ((hspares hlive).others _ hregistered hne').2⟩
    · by_cases hik : i = k
      · subst hik
        rw [hself hd', hclient]
        exact h.apart j i d c hjk (hkept hij hd) hc hlive hopen
      · exact h.apart j k d d' hjk (hkept hij hd) (hkept hik hd') hlive hlive'
  · rw [Server.resume, List.length_set]
    exact h.bound

/-- After an event of a live connection. -/
theorem connection_counts (h : Apart v) (hexact : CountsExact v)
    (hc : v.connections[i]? = some c) (hopen : c.conn.closed = false)
    (hfresh : FreshAt (v.session c) e) (hstep : step (v.session c) e = .ok s) :
    Apart (v.resume i s) ∧ (CountsExact (v.resume i s) ↔
      (s.conn.closed = true → SocksRegistered v.sel c.conn.originFd → v.live = 1)) := by
  have hclient : s.conn.clientFd = c.conn.clientFd := (step_persists hstep).clientFd
  obtain ⟨hpositive, hlive⟩ := v.live_resume (s := s) hc hopen
  have hbefore : v.metrics.currentConnections.toNat = v.live := hexact.current
  rcases (h.counted hc hopen).step hopen hfresh hstep with ⟨hgoes, hspares, hsame⟩ |
    ⟨hclosed, hlength, hothers, hcurrent, htotal⟩
  · refine ⟨h.resumed hc hopen hclient hspares.length ?_ fun _ => hspares, ?_⟩
    · intro fd hfd hne _
      exact (hspares.others fd hfd hne).1
    · rw [hgoes] at hlive ⊢
      refine iff_of_true ⟨?_, ?_⟩ nofun
      · exact (congrArg UInt64.toNat hsame.current).trans (hbefore.trans hlive.symm)
      · exact (congrArg UInt64.toNat hsame.total).trans hexact.total
  · refine ⟨h.resumed hc hopen hclient hlength hothers ?_, ?_⟩
    · intro hgoes
      rw [hclosed] at hgoes
      cases hgoes
    · rw [hclosed, if_pos rfl] at hlive
      have hafter : s.metrics.currentConnections.toNat = v.live - timesCounted (v.session c) := by
        rw [hcurrent]
        exact congrArg (· - timesCounted (v.session c)) hbefore
      have htotal' : s.metrics.totalConnections.toNat = v.accepted :=
        (congrArg UInt64.toNat htotal).trans hexact.total
      constructor
      · intro hcounts _ horigin
        have hcount := hafter.symm.trans (hcounts.current.trans hlive)
        rw [timesCounted_of_registered (s := v.session c) horigin] at hcount
        omega
      · intro honly
        refine ⟨?_, htotal'⟩
        refine hafter.trans (Eq.trans ?_ hlive.symm)
        by_cases horigin : SocksRegistered v.sel c.conn.originFd
        · rw [timesCounted_of_registered (s := v.session c) horigin, honly hclosed horigin]
        · rw [timesCounted_of_not_registered (s := v.session c) horigin]

/-- The current-connections metric is exact at every moment of a run exactly if
no accept fails once its client is counted and no connection is torn down with
its origin registered while another is alive. -/
theorem counts_exact_iff {sel : FdSelector FdHandler ℕ} (htable : fdSetsize < sel.fds.length)
    (hes : Steps (serverStep bufferSize) NewDescriptors (.start sel) es) :
    Always (serverStep bufferSize) CountsExact (.start sel) es ↔
      Steps (serverStep bufferSize) Counts (.start sel) es := by
  refine always_iff_steps_of_admissible (I := Apart) ?_ (.start htable) hes (.start sel)
  rintro v (_ | ⟨malloc, a⟩ | ⟨i, e⟩) h hnew hexact
  · refine ⟨?_, iff_of_true ?_ trivial⟩
    · intro v' hv'
      rw [← Except.ok.inj hv']
      exact h
    · intro v' hv'
      rw [← Except.ok.inj hv']
      exact hexact
  · have hstep : ∀ v', serverStep bufferSize v (.accept malloc a) = .ok v' →
        v' = v.passiveAccept bufferSize malloc a := fun v' hv' => (Except.ok.inj hv').symm
    obtain ⟨hnext, hiff⟩ := accept_counts bufferSize h hnew hexact
    refine ⟨?_, ?_, ?_⟩
    · intro v' hv'
      rw [hstep v' hv']
      exact hnext
    · intro hcounts
      exact hiff.mp (hcounts _ rfl)
    · intro hcounts v' hv'
      rw [hstep v' hv']
      exact hiff.mpr hcounts
  · rcases hc : v.connections[i]? with _ | c
    · have hstep : ∀ v', serverStep bufferSize v (.connection i e) = .ok v' → v' = v := by
        intro v' hv'
        rw [serverStep, hc] at hv'
        exact (Except.ok.inj hv').symm
      refine ⟨?_, iff_of_true ?_ ?_⟩
      · intro v' hv'
        rw [hstep v' hv']
        exact h
      · intro v' hv'
        rw [hstep v' hv']
        exact hexact
      · intro c hc'
        rw [hc] at hc'
        cases hc'
    · rcases hs : step (v.session c) e with fault | s
      · have hfault : ∀ v', serverStep bufferSize v (.connection i e) ≠ .ok v' := by
          intro v' hv'
          rw [serverStep, hc] at hv'
          dsimp only at hv'
          rw [hs] at hv'
          cases hv'
        refine ⟨fun v' hv' => absurd hv' (hfault v'),
          iff_of_true (fun v' hv' => absurd hv' (hfault v')) ?_⟩
        intro d hd hends
        obtain ⟨t, ht, -⟩ := hends
        rw [← Option.some.inj (hc.symm.trans hd), hs] at ht
        cases ht
      · have hstep : serverStep bufferSize v (.connection i e) = .ok (v.resume i s) := by
          rw [serverStep, hc]
          dsimp only
          rw [hs]
          rfl
        have hopen : c.conn.closed = false := by
          by_contra hclosed
          rw [Bool.not_eq_false] at hclosed
          rw [step_of_closed (s := v.session c) hclosed] at hs
          cases hs
        obtain ⟨hnext, hiff⟩ := connection_counts h hexact hc hopen (hnew c hc) hs
        refine ⟨?_, ?_, ?_⟩
        · intro v' hv'
          rw [← Except.ok.inj (hstep.symm.trans hv')]
          exact hnext
        · intro hcounts d hd hends horigin
          obtain ⟨t, ht, hclosed⟩ := hends
          rw [← Option.some.inj (hc.symm.trans hd)] at ht horigin
          rw [← Except.ok.inj (hs.symm.trans ht)] at hclosed
          exact hiff.mp (hcounts _ hstep) hclosed horigin
        · intro hcounts v' hv'
          rw [← Except.ok.inj (hstep.symm.trans hv')]
          exact hiff.mpr fun hclosed => hcounts c hc ⟨s, hs, hclosed⟩

end Server

/-! ### Two clients -/

/-- A client on descriptor 6. -/
def secondClient : Accepted := { firstClient with clientFd := 6, address := 2 }

/-- What the server has come to after some events. -/
def serverAfter (es : List ServerEvent) : Server :=
  (run (serverStep bufferSizeDefault) (.start emptySelector) es).toOption.getD default

theorem run_serverAfter {es : List ServerEvent}
    (h : (run (serverStep bufferSizeDefault) (.start emptySelector) es).toOption.isSome = true) :
    run (serverStep bufferSizeDefault) (.start emptySelector) es = .ok (serverAfter es) := by
  unfold serverAfter
  rcases hrun : run (serverStep bufferSizeDefault) (.start emptySelector) es with fault | v
  · rw [hrun] at h
    cases h
  · rfl

/-- One more event of the first connection. -/
theorem newDescriptors_first {es : List ServerEvent} {e : Event}
    (hes : Steps (serverStep bufferSizeDefault) NewDescriptors (.start emptySelector) es)
    (hrun : (run (serverStep bufferSizeDefault) (.start emptySelector) es).toOption.isSome = true)
    (he : FreshAt ((serverAfter es).session ((serverAfter es).connections.headD default)) e) :
    Steps (serverStep bufferSizeDefault) NewDescriptors (.start emptySelector)
      (es ++ [.connection 0 e]) := by
  refine hes.append (run_serverAfter hrun) ⟨?_, fun _ _ => trivial⟩
  intro c hc
  rcases hlist : (serverAfter es).connections with _ | ⟨d, ds⟩
  · rw [hlist] at hc
    cases hc
  · rw [hlist] at hc he
    rw [← Option.some.inj hc]
    exact he

/-- The first client asks for an address. -/
def numericRequest : Env :=
  dialing { receives [0x05, 0x01, 0x00, 0x01, 10, 0, 0, 1, 0, 80] with
    callocAddr := true
    callocInfo := true }

/-- The origin has accepted. -/
def originAccepts : Env :=
  dialing { (default : Env) with getsockopt := some 0, getsockname := some server }

def twoAccepts : List ServerEvent := [.accept true firstClient, .accept true secondClient]

/-- The first client is connected. -/
def firstConnects : List ServerEvent :=
  twoAccepts ++ [.connection 0 (.read 4 (receives [0x05, 0x01, 0x00]))] ++
    [.connection 0 (.write 4 (sends 2))] ++ [.connection 0 (.read 4 numericRequest)] ++
    [.connection 0 (.write 5 originAccepts)] ++ [.connection 0 (.write 4 (sends 10))]

/-- It and its origin close their ends. -/
def firstFinishes : List ServerEvent :=
  firstConnects ++ [.connection 0 (.read 4 (receives []))] ++
    [.connection 0 (.read 5 (receives []))]

theorem twoAccepts_new :
    Steps (serverStep bufferSizeDefault) NewDescriptors (.start emptySelector) twoAccepts := by
  refine ⟨?_, ?_⟩
  · intro c hc
    cases hc
  · intro v hv
    refine ⟨?_, fun _ _ => trivial⟩
    rw [← Except.ok.inj hv, Server.passiveAccept_of_success (by decide +kernel)]
    intro c hc _
    rw [Server.start, List.nil_append, List.mem_singleton] at hc
    rw [hc]
    exact ⟨by decide, by decide⟩

theorem firstConnects_new :
    Steps (serverStep bufferSizeDefault) NewDescriptors (.start emptySelector) firstConnects := by
  refine newDescriptors_first (newDescriptors_first (newDescriptors_first (newDescriptors_first
    (newDescriptors_first twoAccepts_new ?_ ?_) ?_ ?_) ?_ ?_) ?_ ?_) ?_ ?_
  · decide +kernel
  · exact freshAt_of_state (by decide +kernel)
  · decide +kernel
  · exact freshAt_of_state (by decide +kernel)
  · decide +kernel
  · exact FiveIsNew.freshAt_read (by decide +kernel)
  · decide +kernel
  · exact fun _ => FiveIsNew.freshSockets (by decide +kernel) _
  · decide +kernel
  · exact freshAt_of_state (by decide +kernel)

theorem firstFinishes_new :
    Steps (serverStep bufferSizeDefault) NewDescriptors (.start emptySelector) firstFinishes := by
  refine newDescriptors_first (newDescriptors_first firstConnects_new ?_ ?_) ?_ ?_
  · decide +kernel
  · exact freshAt_of_state (by decide +kernel)
  · decide +kernel
  · exact freshAt_of_state (by decide +kernel)

/-- One of two clients has been served, and the counter says that the other is
gone too. -/
theorem firstFinishes_miscounted :
    fdSetsize < emptySelector.fds.length ∧
      Steps (serverStep bufferSizeDefault) NewDescriptors (.start emptySelector) firstFinishes ∧
      ¬ Always (serverStep bufferSizeDefault) CountsExact (.start emptySelector) firstFinishes ∧
      (serverAfter firstFinishes).live = 1 ∧
      (serverAfter firstFinishes).metrics.currentConnections = 0 := by
  refine ⟨firstClient_fresh.table, firstFinishes_new, ?_, by decide +kernel, by decide +kernel⟩
  intro halways
  have hexact := halways.last (run_serverAfter (by decide +kernel))
  exact absurd hexact.current (by decide +kernel)

/-- The first client leaves before it has sent anything. -/
def firstLeaves : List ServerEvent := twoAccepts ++ [.connection 0 (.read 4 (receives []))]

/-- Accepting the two and losing the first counts them. -/
theorem counts_exact_iff_accepted :
    Always (serverStep bufferSizeDefault) CountsExact (.start emptySelector) firstLeaves ∧
      (serverAfter firstLeaves).live = 1 := by
  have hnew : Steps (serverStep bufferSizeDefault) NewDescriptors (.start emptySelector)
      firstLeaves := by
    refine newDescriptors_first twoAccepts_new ?_ ?_
    · decide +kernel
    · exact freshAt_of_state (by decide +kernel)
  refine ⟨(counts_exact_iff firstClient_fresh.table hnew).mpr ?_, by decide +kernel⟩
  have haccepts : Steps (serverStep bufferSizeDefault) Counts (.start emptySelector) twoAccepts := by
    refine ⟨⟨rfl, by decide, by decide +kernel, by decide⟩, fun v hv => ⟨?_, fun _ _ => trivial⟩⟩
    rw [← Except.ok.inj hv]
    exact ⟨rfl, by decide, by decide +kernel, by decide +kernel⟩
  refine haccepts.append (run_serverAfter (by decide +kernel)) (.single ?_)
  intro c hc _ horigin
  have hunregistered : ∀ c ∈ (serverAfter twoAccepts).connections, c.conn.originFd = -1 := by
    decide +kernel
  rw [hunregistered c (List.mem_of_getElem? hc)] at horigin
  exact absurd horigin (by decide +kernel)

end Socks5Proxy

import Socks5Proxy.Socks.Isolation
import Socks5Proxy.Socks.MissingHandler

/-!
# Faults stay with the connection they happen in

The server ends with the first fault of any connection.  That connection would
have ended it alone as well, by the same events; only a notification that
somebody else's resolver has left behind may have reached it besides.
-/

namespace Socks5Proxy

open Library

/-! ## Notifications -/

/-- The notifications that wait after the event. -/
def notificationsAfter (s : Session) : Event → List ℤ
  | .block fd _ => s.sel.resolutionJobs.erase fd
  | .resolved _ => s.conn.clientFd :: s.sel.resolutionJobs
  | .read _ _ | .write _ _ | .connectFinished _ => s.sel.resolutionJobs

section Notifications

variable {s t : Session} {env : Env} {key : SelectorKey} {fd : ℤ} {st : SocksV5State}
  {r : Session × SocksV5State} {e : Event}

theorem teardown_jobs : (teardown env key s).sel.resolutionJobs = s.sel.resolutionJobs := by
  have hrelease : ∀ fd s, (releaseFd env key fd s).sel.resolutionJobs = s.sel.resolutionJobs := by
    intro fd s
    rw [(releaseFd_counts env key fd s).1, resolutionJobs_selectorUnregister]
  unfold teardown
  split_ifs
  · rfl
  · exact (hrelease _ _).trans (hrelease _ _)

theorem settle_jobs : (settle env key st r).sel.resolutionJobs = r.1.sel.resolutionJobs := by
  by_cases hstop : r.2 = .error ∨ r.2 = .done
  · obtain ⟨u, next⟩ := r
    rw [settle_stop hstop]
    exact teardown_jobs
  · exact (settle_notifications env key st (not_or.mp hstop)).jobs

/-- A resolver that finishes leaves a notification, and a block event takes it. -/
theorem step_jobs (htable : fdSetsize < s.sel.fds.length) (hfresh : FreshAt s e)
    (hstep : step s e = .ok t) : t.sel.resolutionJobs = notificationsAfter s e := by
  have harrived : fdSetsize < s.arrived.sel.fds.length := by
    obtain ⟨g, hg⟩ := arrived_eq s
    rw [hg]
    exact htable
  rcases e with ⟨fd, env⟩ | ⟨fd, env⟩ | ⟨fd, env⟩ | result | errno
  · obtain ⟨-, callback, r, hselect, hcall, rfl⟩ := step_read_ok hstep
    rw [settle_jobs]
    rcases onReadReady_notifications harrived (fun hst => freshSockets_arrived (hfresh hst))
      hselect hcall with hsame | ⟨-, -, -, hjobs⟩
    · exact hsame.jobs.trans arrived_notifications.jobs
    · exact hjobs.trans arrived_notifications.jobs
  · obtain ⟨-, callback, r, hselect, hcall, rfl⟩ := step_write_ok hstep
    rw [settle_jobs]
    exact (onWriteReady_notifications harrived
      (fun hst => freshSockets_dropOrigin_arrived (hfresh hst)) hselect hcall).jobs.trans
        arrived_notifications.jobs
  · obtain ⟨-, callback, r, u, hselect, hcall, rfl, rfl⟩ := step_block_ok hstep
    have hsame := onBlockReady_notifications harrived
      (fun hst => freshSockets_arrived (hfresh hst)) hselect hcall
    change (settle env ⟨fd, s.address⟩ s.state r).sel.resolutionJobs.erase fd = _
    rw [settle_jobs, hsame.jobs, arrived_notifications.jobs]
    rfl
  · obtain ⟨-, rfl⟩ := step_resolved_ok_iff.mp hstep
    rfl
  · obtain ⟨-, rfl⟩ := step_connectFinished_ok_iff.mp hstep
    rfl

/-- One event does the same to the notifications of two sessions. -/
theorem count_notificationsAfter_le (hclient : t.conn.clientFd = s.conn.clientFd)
    (h : s.sel.resolutionJobs.count fd ≤ t.sel.resolutionJobs.count fd) :
    (notificationsAfter s e).count fd ≤ (notificationsAfter t e).count fd := by
  rcases e with ⟨fd', env⟩ | ⟨fd', env⟩ | ⟨fd', env⟩ | result | errno
  · exact h
  · exact h
  · rw [notificationsAfter, notificationsAfter, List.count_erase, List.count_erase]
    exact Nat.sub_le_sub_right h _
  · rw [notificationsAfter, notificationsAfter, List.count_cons, List.count_cons, hclient]
    exact Nat.add_le_add_right h _
  · exact h

/-- Only a resolver adds a notification, and it is for the client's descriptor. -/
theorem count_notificationsAfter_other
    (hother : ∀ result, e = .resolved result → s.conn.clientFd ≠ fd) :
    (notificationsAfter s e).count fd ≤ s.sel.resolutionJobs.count fd := by
  rcases e with ⟨fd', env⟩ | ⟨fd', env⟩ | ⟨fd', env⟩ | result | errno
  · exact le_rfl
  · exact le_rfl
  · exact List.Sublist.count_le fd List.erase_sublist
  · exact (List.count_cons_of_ne (hother result rfl)).le
  · exact le_rfl

theorem jobs_passiveAccept {bufferSize : ℕ} {v : Server} {malloc : Bool} {a : Accepted}
    (htable : fdSetsize < v.sel.fds.length) :
    (v.passiveAccept bufferSize malloc a).sel.resolutionJobs = v.sel.resolutionJobs := by
  by_cases hserved : malloc = true ∧ invalidFd a.clientFd = false ∧
      v.sel.interestOf a.clientFd = none
  · obtain ⟨rfl, hserves⟩ := hserved
    have hsuccess := (selectorRegister_success_iff .opRead (some a.address) a.alloc htable).mpr
      hserves
    rw [Server.passiveAccept_of_success hsuccess]
    exact resolutionJobs_selectorRegister (toNat_lt_of_valid hserves.1 htable.le) hsuccess
  · rw [Server.passiveAccept_of_failure htable hserved]

end Notifications

/-! ## Following a connection beyond its teardown -/

/-- The connection at `i` is the last that was given the record `a`. -/
def Server.Last (v : Server) (i : ℕ) (a : ℕ) : Prop :=
  ∀ (j : ℕ) d, i < j → v.connections[j]? = some d → d.address ≠ a

/-- The handlers that are called with a record that was freed and given out
again are the business of the connection that has it now. -/
def ReachesLast (v : Server) : ServerEvent → Prop
  | .connection i (.read _ _) | .connection i (.write _ _) | .connection i (.block _ _) =>
    ∀ c, v.connections[i]? = some c → c.conn.closed = true → v.Last i c.address
  | _ => True

/-- The resolvers of the connections other than the one at `i` notify only
descriptors in `notified`. -/
def NotifiesOnly (notified : ℤ → Prop) (i : ℕ) (v : Server) (e : ServerEvent) : Prop :=
  ∀ (j : ℕ) result d, e = .connection j (.resolved result) → j ≠ i →
    v.connections[j]? = some d → notified d.conn.clientFd

/-- `t` is the connection `c` at `i` without the others, torn down or not.  As
long as nobody else has been given its record it finds the same registrations,
and of the notifications it may miss those in `notified` only. -/
structure Followed (notified : ℤ → Prop) (i : ℕ) (v : Server) (c : Connection) (t : Session) :
    Prop where
  found : v.connections[i]? = some c
  alone : Alone v c t
  elders : ∀ (j : ℕ) d, j < i → v.connections[j]? = some d → d.conn.closed = false →
    d.address ≠ c.address
  part : v.Last i c.address → t.sel.registration = v.sel.ownedBy c.address
  jobs : ∀ fd, ¬ notified fd → v.sel.resolutionJobs.count fd ≤ t.sel.resolutionJobs.count fd

section Followed

variable {notified : ℤ → Prop} {bufferSize : ℕ} {v v' : Server} {c d : Connection} {i j a : ℕ}
  {malloc : Bool} {b : Accepted} {s t : Session} {e : Event} {e' : ServerEvent} {fd : ℤ}

theorem own_eq_some_iff : e'.own i = some e ↔ e' = .connection i e := by
  rcases e' with _ | ⟨malloc, a⟩ | ⟨j, e'⟩
  · exact iff_of_false nofun nofun
  · exact iff_of_false nofun nofun
  · rw [ServerEvent.own, Option.ite_none_right_eq_some, Option.some.injEq,
      ServerEvent.connection.injEq]

namespace Followed

/-- What happens to the connection in the server may happen to it alone, and a
block event nobody else has caused answers a notification of its own. -/
theorem happens (h : Followed notified i v c t) (he : ServerHappens v (.connection i e))
    (hlast : ReachesLast v (.connection i e)) :
    HappensAlone t e ∧ ((∀ fd env, e = .block fd env → ¬ notified fd) → Enabled t e) := by
  have halone : HappensAlone t e := by
    by_cases hopen : c.conn.closed = false
    · exact h.alone.happens (h.alone.own hopen).2 h.found he
    · -- the record has been freed
      have hclosed : c.conn.closed = true := Bool.not_eq_false _ ▸ hopen
      rcases e with ⟨fd, env⟩ | ⟨fd, env⟩ | ⟨fd, env⟩ | result | errno
      · exact h.alone.happens (h.part (hlast c h.found hclosed)) h.found he
      · exact h.alone.happens (h.part (hlast c h.found hclosed)) h.found he
      · exact h.alone.happens (h.part (hlast c h.found hclosed)) h.found he
      · refine ⟨trivial, ?_⟩
        change 0 < t.resolvers
        rw [h.alone.resolvers]
        exact (he c h.found).1
      · exact absurd (he c h.found).1.1 hopen
  refine ⟨halone, fun hnot => ?_⟩
  rcases e with ⟨fd, env⟩ | ⟨fd, env⟩ | ⟨fd, env⟩ | result | errno
  · exact halone.2
  · exact halone.2
  · refine ⟨halone.2, List.count_pos_iff.mp ?_⟩
    exact (List.count_pos_iff.mpr (he c h.found).1.2).trans_le (h.jobs fd (hnot fd env rfl))
  · exact halone.2
  · exact halone.2

theorem own_event (h : Followed notified i v c t) (hdivided : Divided v)
    (he : ServerHappens v (.connection i e))
    (hstep : serverStep bufferSize v (.connection i e) = .ok v') :
    ∃ d t', step t e = .ok t' ∧ Followed notified i v' d t' := by
  rcases serverStep_connection_ok hstep with ⟨hnone, -⟩ | ⟨d, s, hd, hs, rfl⟩
  · rw [h.found] at hnone
    cases hnone
  have heq := Option.some.inj (hd.symm.trans h.found)
  subst heq
  obtain ⟨hopen, t', ht', hbefore, hafter, -⟩ := hdivided.connection hd he h.alone hs
  have hforeign := hdivided.frame_foreign hd hopen
  refine ⟨_, t', ht', Server.resume_self hd, .resume_self hafter hforeign rfl, ?_, ?_, ?_⟩
  · intro j d' hj hd' hlive
    rw [Server.resume_other hj.ne'] at hd'
    change d'.address ≠ s.address
    rw [hafter.here]
    exact h.elders j d' hj hd' hlive
  · intro _
    change t'.sel.registration = s.sel.ownedBy s.address
    rw [hafter.here]
    exact hafter.shares.ownedBy_self hforeign
  · intro fd hfd
    change s.sel.resolutionJobs.count fd ≤ _
    rw [step_jobs hdivided.table (he d hd).2.1 hs,
      step_jobs (h.alone.own hopen).1 (h.alone.happens (h.alone.own hopen).2 hd he).1 ht']
    refine count_notificationsAfter_le ?_ (h.jobs fd hfd)
    rw [h.alone.conn]
    rfl

theorem accept (h : Followed notified i v c t) (hdivided : Divided v)
    (he : ServerHappens v (.accept malloc b)) :
    Followed notified i (v.passiveAccept bufferSize malloc b) c t := by
  have haccepted : Divided (v.passiveAccept bufferSize malloc b) ∧ _ := hdivided.accepted he
  obtain ⟨hfound, halone⟩ := haccepted.2 i c t h.found h.alone
  have hjobs : ∀ fd, ¬ notified fd → (v.passiveAccept bufferSize malloc b).sel.resolutionJobs.count
      fd ≤ t.sel.resolutionJobs.count fd := by
    rw [jobs_passiveAccept hdivided.table]
    exact h.jobs
  obtain ⟨hi, -⟩ := List.getElem?_eq_some_iff.mp h.found
  by_cases hserved : malloc = true ∧ invalidFd b.clientFd = false ∧
      v.sel.interestOf b.clientFd = none
  · obtain ⟨rfl, hvalid, hfree⟩ := hserved
    have hsuccess := (selectorRegister_success_iff .opRead (some b.address) b.alloc
      hdivided.table).mpr ⟨hvalid, hfree⟩
    rw [Server.passiveAccept_of_success hsuccess] at hfound halone hjobs ⊢
    refine ⟨hfound, halone, ?_, ?_, hjobs⟩
    · intro j d hj hd hlive
      rw [List.getElem?_append_left (hj.trans hi)] at hd
      exact h.elders j d hj hd hlive
    · intro hlast
      have hne : c.address ≠ b.address := (hlast _ _ hi List.getElem?_concat_length).symm
      rw [h.part fun j d hj hd => hlast j d hj ((List.getElem?_append_left
        (List.getElem?_eq_some_iff.mp hd).1).trans hd)]
      funext fd
      refine Eq.symm ((ownedBy_entered hdivided.table hvalid hfree).trans (if_neg ?_))
      exact fun heq => hne heq.2
  · rw [Server.passiveAccept_of_failure hdivided.table hserved] at hfound halone hjobs ⊢
    exact ⟨hfound, halone, h.elders, h.part, hjobs⟩

theorem other_connection (h : Followed notified i v c t) (hdivided : Divided v) (hij : j ≠ i)
    (he : ServerHappens v (.connection j e))
    (honly : NotifiesOnly notified i v (.connection j e))
    (hstep : serverStep bufferSize v (.connection j e) = .ok v') : Followed notified i v' c t := by
  rcases serverStep_connection_ok hstep with ⟨-, rfl⟩ | ⟨d, s, hd, hs, rfl⟩
  · exact h
  obtain ⟨t₂, ht₂⟩ := hdivided.exists_alone d
  obtain ⟨hopen, t', -, hbefore, hafter, -⟩ := hdivided.connection hd he ht₂ hs
  have haddress : ∀ {d'}, (v.resume j s).session d' = s → d'.address = d.address := by
    intro d' hd'
    rw [← hafter.here, ← hd']
    rfl
  refine ⟨(Server.resume_other hij).trans h.found, ?_, ?_, ?_, ?_⟩
  · refine h.alone.congr fun hlive => ?_
    exact hdivided.resume_ownedBy (s := s) hd hopen h.found hlive hij.symm hbefore hafter
  · intro k d' hk hd' hlive
    rcases Server.resume_cases hd hd' with ⟨rfl, hsession⟩ | ⟨-, hold⟩
    · rw [haddress hsession]
      exact h.elders k d hk hd hopen
    · exact h.elders k d' hk hold hlive
  · intro hlast
    have hlast' : v.Last i c.address := by
      intro k d' hk hd'
      by_cases hkj : j = k
      · subst hkj
        rw [← Option.some.inj (hd.symm.trans hd'), ← hafter.here]
        exact hlast j _ hk (Server.resume_self hd)
      · exact hlast k d' hk ((Server.resume_other hkj).trans hd')
    have hne : c.address ≠ d.address := by
      rcases lt_or_gt_of_ne hij with hlt | hgt
      · exact (h.elders j d hlt hd hopen).symm
      · exact (hlast' j d hgt hd).symm
    rw [h.part hlast']
    exact (hbefore.shares.ownedBy_other hafter.shares hne).symm
  · intro fd hfd
    change s.sel.resolutionJobs.count fd ≤ _
    rw [step_jobs hdivided.table (he d hd).2.1 hs]
    refine (count_notificationsAfter_other ?_).trans (h.jobs fd hfd)
    rintro result rfl heq
    exact hfd (heq ▸ honly j result d rfl hij hd)

end Followed

/-- The events of a run in which the others notify the descriptors in
`notified` only. -/
theorem Followed.run (h : Followed notified i v c t) (hdivided : Divided v)
    {es : List ServerEvent} (hes : Steps (serverStep bufferSize)
      (fun v e => ServerHappens v e ∧ NotifiesOnly notified i v e) v es)
    (hrun : Library.run (serverStep bufferSize) v es = .ok v') :
    Divided v' ∧ ∃ d t', Library.run step t (es.filterMap (ServerEvent.own i)) = .ok t' ∧
      Followed notified i v' d t' := by
  have hproject : Steps step (fun _ _ => True) t (es.filterMap (ServerEvent.own i)) ∧
      ∃ t', Library.run step t (es.filterMap (ServerEvent.own i)) = .ok t' ∧
        Divided v' ∧ ∃ d, Followed notified i v' d t' := by
    refine run_projects (R := fun v t => Divided v ∧ ∃ c, Followed notified i v c t)
      ?_ ?_ ⟨hdivided, c, h⟩ hes hrun
    · rintro v t e' e v' ⟨hdivided, c, h⟩ ⟨he, -⟩ hown hstep
      cases own_eq_some_iff.mp hown
      obtain ⟨d, t', ht', hd⟩ := h.own_event hdivided he hstep
      exact ⟨trivial, t', ht', hdivided.next he hstep, d, hd⟩
    · rintro v t e' v' ⟨hdivided, c, h⟩ ⟨he, honly⟩ hown hstep
      refine ⟨hdivided.next he hstep, c, ?_⟩
      rcases e' with _ | ⟨malloc, a⟩ | ⟨j, e⟩
      · rw [← Except.ok.inj hstep]
        exact h
      · rw [← Except.ok.inj hstep]
        exact h.accept hdivided he
      · refine h.other_connection hdivided ?_ he honly hstep
        rintro rfl
        rw [ServerEvent.own, if_pos rfl] at hown
        cases hown
  obtain ⟨-, t', ht', hend, d, hd⟩ := hproject
  exact ⟨hend, d, t', ht', hd⟩

/-- A connection that was just accepted, by a server in which only the
descriptors in `notified` are notified. -/
theorem Followed.of_accept (bufferSize : ℕ) (h : Divided v) (hserves : Serves v b)
    (he : ServerHappens v (.accept true b))
    (hjobs : ∀ fd, ¬ notified fd → fd ∉ v.sel.resolutionJobs) :
    ∃ c s, socksv5PassiveAccept bufferSize emptySelector metricsInit b = some s ∧
      Followed notified v.connections.length (v.passiveAccept bufferSize true b) c s := by
  obtain ⟨s, hs, -, c, hc, halone⟩ := Tracked.accepted bufferSize h hserves he
  have hjobs' : ∀ fd, ¬ notified fd →
      (v.passiveAccept bufferSize true b).sel.resolutionJobs.count fd = 0 := by
    rw [jobs_passiveAccept h.table]
    exact fun fd hfd => List.count_eq_zero_of_not_mem (hjobs fd hfd)
  rw [Server.passiveAccept_of_success ((selectorRegister_success_iff .opRead (some b.address)
    b.alloc h.table).mpr hserves)] at hc halone hjobs' ⊢
  rw [List.getElem?_concat_length, Option.some.injEq] at hc
  subst hc
  refine ⟨_, s, hs, List.getElem?_concat_length, halone, ?_, fun _ => (halone.own rfl).2, ?_⟩
  · intro j d hj hd hlive
    rw [List.getElem?_append_left hj] at hd
    exact h.address_ne hd hlive (he.2 rfl)
  · exact fun fd hfd => (hjobs' fd hfd).trans_le (Nat.zero_le _)

end Followed

/-! ## Notifications that are left behind -/

/-- In the run, a resolver of the connection at `j` has notified `fd`. -/
def NotifiedBy (bufferSize : ℕ) (sel : FdSelector FdHandler ℕ) (j : ℕ) (fd : ℤ)
    (es : List ServerEvent) : Prop :=
  ∃ before result after v c, es = before ++ .connection j (.resolved result) :: after ∧
    run (serverStep bufferSize) (.start sel) before = .ok v ∧ v.connections[j]? = some c ∧
    c.conn.clientFd = fd

/-- In the run, a resolver has notified `fd` for another connection than the
one at `i`, and that connection has been torn down. -/
def LeftBehind (bufferSize : ℕ) (sel : FdSelector FdHandler ℕ) (i : ℕ) (fd : ℤ)
    (es : List ServerEvent) : Prop :=
  ∃ j v c, j ≠ i ∧ NotifiedBy bufferSize sel j fd es ∧
    run (serverStep bufferSize) (.start sel) es = .ok v ∧ v.connections[j]? = some c ∧
    c.conn.closed = true

/-- One of the events `later` that follow `es` has the connection at `i` handle
a notification that was left behind. -/
def HandlesLeftBehind (bufferSize : ℕ) (sel : FdSelector FdHandler ℕ) (i : ℕ)
    (es later : List ServerEvent) : Prop :=
  ∃ middle fd env late, later = middle ++ .connection i (.block fd env) :: late ∧
    LeftBehind bufferSize sel i fd (es ++ middle)

section LeftBehind

variable {notified : ℤ → Prop} {bufferSize : ℕ} {sel : FdSelector FdHandler ℕ} {u v v' : Server}
  {c : Connection} {i j n : ℕ} {a : Accepted} {s t : Session} {e : Event} {e' : ServerEvent}
  {es before after middle : List ServerEvent} {fd : ℤ} {env : Env} {fault : Fault}

theorem length_connections_le (hn : n ≤ v.connections.length)
    (hstep : serverStep bufferSize v e' = .ok v') : n ≤ v'.connections.length := by
  rcases e' with _ | ⟨malloc, a⟩ | ⟨i, e⟩
  · rw [← Except.ok.inj hstep]
    exact hn
  · rw [← Except.ok.inj hstep]
    unfold Server.passiveAccept
    dsimp only
    split_ifs
    · exact hn
    · split
      · dsimp only
        rw [List.length_append]
        exact Nat.le_add_right_of_le hn
      · exact hn
  · rcases serverStep_connection_ok hstep with ⟨-, rfl⟩ | ⟨c, s, -, -, rfl⟩
    · exact hn
    · rw [Server.resume, List.length_set]
      exact hn

/-- No connection of a server is at a place where the next is going to be. -/
theorem length_le_of_run (hrun : run (serverStep bufferSize) v es = .ok u) :
    v.connections.length ≤ u.connections.length :=
  run_invariant (P := fun _ _ => True)
    (fun _ _ _ hn _ hstep => length_connections_le hn hstep) le_rfl
    (.of_forall (fun _ _ => trivial) v es) hrun

/-- Before the connection at `i` is accepted, only descriptors in `notified`
are notified. -/
theorem not_mem_jobs_of_run (htable : fdSetsize < sel.fds.length)
    (hquiet : sel.resolutionJobs = [])
    (hes : Steps (serverStep bufferSize)
      (fun v e => ServerHappens v e ∧ NotifiesOnly notified i v e) (.start sel) es)
    (hrun : run (serverStep bufferSize) (.start sel) es = .ok u) (hi : u.connections.length ≤ i) :
    ∀ fd, ¬ notified fd → fd ∉ u.sel.resolutionJobs := by
  have hshort : Steps (serverStep bufferSize) (fun v _ => v.connections.length ≤ i)
      (.start sel) es := by
    refine Steps.of_prefixes ?_
    rintro before e after v rfl hbefore
    obtain ⟨v', hv', hrest⟩ := run_append_ok_iff.mp hrun
    rw [hbefore, Except.ok.injEq] at hv'
    subst hv'
    exact (length_le_of_run hrest).trans hi
  refine (run_invariant (I := fun v => Divided v ∧
    ∀ fd, ¬ notified fd → fd ∉ v.sel.resolutionJobs) ?_ ⟨.start htable, ?_⟩
      (hes.and hshort) hrun).2
  · rintro v e' v' ⟨hdivided, hjobs⟩ ⟨⟨he, honly⟩, hlength⟩ hstep
    refine ⟨hdivided.next he hstep, fun fd hfd => ?_⟩
    rcases e' with _ | ⟨malloc, a⟩ | ⟨j, e⟩
    · rw [← Except.ok.inj hstep]
      exact hjobs fd hfd
    · rw [← Except.ok.inj hstep, jobs_passiveAccept hdivided.table]
      exact hjobs fd hfd
    · rcases serverStep_connection_ok hstep with ⟨-, rfl⟩ | ⟨c, s, hc, hs, rfl⟩
      · exact hjobs fd hfd
      · have hj : j ≠ i :=
          ((List.getElem?_eq_some_iff.mp hc).1.trans_le hlength).ne
        rw [← List.count_eq_zero]
        change s.sel.resolutionJobs.count fd = 0
        rw [step_jobs hdivided.table (he c hc).2.1 hs]
        refine Nat.eq_zero_of_le_zero ((count_notificationsAfter_other ?_).trans
          (List.count_eq_zero_of_not_mem (hjobs fd hfd)).le)
        rintro result rfl heq
        exact hfd (heq ▸ honly j result c rfl hj hc)
  · intro fd _
    change fd ∉ sel.resolutionJobs
    rw [hquiet]
    exact List.not_mem_nil

/-- A connection keeps its client. -/
theorem Divided.clientFd_next (h : Divided v) (he : ServerHappens v e')
    (hstep : serverStep bufferSize v e' = .ok v')
    (hc : ∃ c, v.connections[j]? = some c ∧ c.conn.clientFd = fd) :
    ∃ c, v'.connections[j]? = some c ∧ c.conn.clientFd = fd := by
  obtain ⟨c, hc, hfd⟩ := hc
  rcases h.connection_next he hstep hc with hsame | ⟨e, s, -, hs, rfl⟩
  · exact ⟨c, hsame, hfd⟩
  · refine ⟨_, Server.resume_self hc, ?_⟩
    change s.conn.clientFd = fd
    rw [(step_persists hs).clientFd]
    exact hfd

/-- A descriptor for which another connection has been notified becomes the
connection's own after the other's teardown. -/
theorem Followed.leftBehind (h : Followed notified i v c t) (htable : fdSetsize < sel.fds.length)
    (hes : Steps (serverStep bufferSize) ServerHappens (.start sel) es)
    (hrun : Library.run (serverStep bufferSize) (.start sel) es = .ok v)
    (he : ServerHappens v (.connection i (.block fd env)))
    (hlast : ReachesLast v (.connection i (.block fd env))) (hj : j ≠ i)
    (hnotified : NotifiedBy bufferSize sel j fd es) : LeftBehind bufferSize sel i fd es := by
  have hdivided : Divided v := divided_of_run htable hes hrun
  obtain ⟨before, result, after, u, c₀, rfl, hbefore, hc₀, hfd₀⟩ := hnotified
  obtain ⟨u', hu', hrest⟩ := run_append_ok_iff.mp hrun
  rw [hbefore, Except.ok.injEq] at hu'
  subst hu'
  have hu : Divided u := divided_of_run htable hes.init hbefore
  obtain ⟨-, d, hd, hclient⟩ := run_invariant (I := fun v => Divided v ∧
    ∃ c, v.connections[j]? = some c ∧ c.conn.clientFd = fd)
    (fun _ _ _ h he hstep => ⟨h.1.next he hstep, h.1.clientFd_next he hstep h.2⟩)
    ⟨hu, c₀, hc₀, hfd₀⟩ (hes.rest hbefore) hrest
  refine ⟨j, v, d, hj, ⟨before, result, after, u, c₀, rfl, hbefore, hc₀, hfd₀⟩, hrun, hd, ?_⟩
  by_contra hopen
  have hlive : d.conn.closed = false := Bool.not_eq_true _ ▸ hopen
  -- both would have the descriptor
  have howner : v.sel.dataOf fd = some c.address := (he c h.found).1.1
  have hother : v.sel.dataOf fd = some d.address := by
    rw [← hclient]
    exact (hdivided.kept j d hd hlive).1.client
  rw [howner, Option.some.injEq] at hother
  rcases lt_or_gt_of_ne hj with hlt | hgt
  · exact h.elders j d hlt hd hlive hother.symm
  · rcases hclosed : c.conn.closed with _ | _
    · exact hdivided.addresses i j c d hj.symm h.found hd hclosed hlive hother.symm
    · exact hlast c h.found hclosed j d hgt hd hother.symm

end LeftBehind

/-! ## Whole runs -/

section Faults

variable {notified : ℤ → Prop} {bufferSize : ℕ} {sel : FdSelector FdHandler ℕ} {u v w : Server}
  {c : Connection} {i : ℕ} {a : Accepted} {s t : Session} {e : Event} {e' : ServerEvent}
  {es before after middle late : List ServerEvent} {fault : Fault}

/-- Only an event of a connection can fault. -/
theorem serverStep_error (h : serverStep bufferSize v e' = .error fault) :
    ∃ i e c, e' = .connection i e ∧ v.connections[i]? = some c ∧
      step (v.session c) e = .error fault := by
  rcases e' with _ | ⟨malloc, a⟩ | ⟨i, e⟩
  · cases h
  · cases h
  · rw [serverStep] at h
    rcases hc : v.connections[i]? with _ | c
    · rw [hc] at h
      cases h
    · rw [hc] at h
      dsimp only at h
      refine ⟨i, e, c, rfl, hc, ?_⟩
      rcases hs : step (v.session c) e with fault' | s
      · rw [hs] at h
        cases h
        rfl
      · rw [hs] at h
        cases h

/-- The connection faults alone as it does in the server. -/
theorem Alone.faults (h : Alone v c t) (hdivided : Divided v) (hc : v.connections[i]? = some c)
    (he : ServerHappens v (.connection i e)) (hfault : step (v.session c) e = .error fault) :
    step t e = .error fault := by
  rcases hclosed : c.conn.closed with _ | _
  · have hsame := hdivided.sameOutcome hc hclosed he h
    rw [hfault] at hsame
    generalize step t e = r at hsame ⊢
    cases hsame with
    | fault fault => rfl
  · have hended : t.conn.closed = true := by
      rw [h.conn]
      exact hclosed
    rw [← hfault, step_of_closed hended, step_of_closed (s := v.session c) hclosed]

/-- The events of a connection are cut where the events of its server are. -/
theorem filterMap_cut {α β : Type} {f : α → Option β} {l : List α} {x : β} {ys zs : List β}
    (h : l.filterMap f = ys ++ x :: zs) :
    ∃ l₁ y l₂, l = l₁ ++ y :: l₂ ∧ f y = some x ∧ l₁.filterMap f = ys := by
  obtain ⟨l₁, l₂, rfl, hl₁, hl₂⟩ := List.filterMap_eq_append_iff.mp h
  obtain ⟨l₃, y, l₄, rfl, hnone, hy, -⟩ := List.filterMap_eq_cons_iff.mp hl₂
  refine ⟨l₁ ++ l₃, y, l₄, (List.append_assoc ..).symm, hy, ?_⟩
  rw [List.filterMap_append, hl₁, List.filterMap_eq_nil_iff.mpr hnone, List.append_nil]

/-- From its accept to any later moment a connection can be followed, and the
notifications of the other resolvers are all that it may miss alone. -/
theorem followed_of_run (htable : fdSetsize < sel.fds.length) (hquiet : sel.resolutionJobs = [])
    (hes : Steps (serverStep bufferSize) ServerHappens (.start sel)
      (before ++ .accept true a :: middle))
    (hbefore : run (serverStep bufferSize) (.start sel) before = .ok u) (hserves : Serves u a)
    (hmiddle : run (serverStep bufferSize) (u.passiveAccept bufferSize true a) middle = .ok w)
    (hs : socksv5PassiveAccept bufferSize emptySelector metricsInit a = some s) :
    Divided w ∧ ∃ c t, run step s (middle.filterMap (ServerEvent.own u.connections.length)) =
        .ok t ∧
      Followed (fun fd => ∃ j, j ≠ u.connections.length ∧
          NotifiedBy bufferSize sel j fd (before ++ .accept true a :: middle))
        u.connections.length w c t := by
  generalize hnotified : (fun fd => ∃ j, j ≠ u.connections.length ∧
    NotifiedBy bufferSize sel j fd (before ++ .accept true a :: middle)) = notified
  have honly : Steps (serverStep bufferSize) (NotifiesOnly notified u.connections.length)
      (.start sel) (before ++ .accept true a :: middle) := by
    refine Steps.of_prefixes ?_
    rintro past e later v hpast hrun j result d rfl hj hd
    rw [← hnotified]
    exact ⟨j, hj, past, result, later, v, d, hpast, hrun, hd, rfl⟩
  have hboth := hes.and honly
  have hdivided : Divided u := divided_of_run htable hes.init hbefore
  have hrest := hboth.rest hbefore
  obtain ⟨c, s', hs', hfollowed⟩ := Followed.of_accept bufferSize hdivided hserves hrest.1.1
    (not_mem_jobs_of_run htable hquiet hboth.init hbefore le_rfl)
  rw [hs, Option.some.injEq] at hs'
  subst hs'
  obtain ⟨hend, d, t, ht, hfollowed'⟩ := hfollowed.run (hdivided.next hrest.1.1 rfl)
    (hrest.2 _ rfl) hmiddle
  exact ⟨hend, d, t, ht, hfollowed'⟩

/-- An event of a connection, at the moment the server comes to it, may happen
to the connection alone; only what is left behind may have caused it. -/
theorem event_of_run (htable : fdSetsize < sel.fds.length) (hquiet : sel.resolutionJobs = [])
    (hes : Steps (serverStep bufferSize) (fun v e => ServerHappens v e ∧ ReachesLast v e)
      (.start sel)
      (before ++ .accept true a :: middle ++ .connection u.connections.length e :: late))
    (hbefore : run (serverStep bufferSize) (.start sel) before = .ok u) (hserves : Serves u a)
    (hmiddle : run (serverStep bufferSize) (u.passiveAccept bufferSize true a) middle = .ok w)
    (hs : socksv5PassiveAccept bufferSize emptySelector metricsInit a = some s)
    (ht : run step s (middle.filterMap (ServerEvent.own u.connections.length)) = .ok t) :
    HappensAlone t e ∧ (Enabled t e ∨ ∃ fd env, e = .block fd env ∧
      LeftBehind bufferSize sel u.connections.length fd (before ++ .accept true a :: middle)) := by
  have hhappens : Steps (serverStep bufferSize) ServerHappens (.start sel)
      (before ++ .accept true a :: middle) := hes.init.mono fun _ _ h => h.1
  have hreach : run (serverStep bufferSize) (.start sel) (before ++ .accept true a :: middle) =
      .ok w := by
    rw [run_append_of_ok hbefore]
    exact run_cons_ok_iff.mpr ⟨_, rfl, hmiddle⟩
  obtain ⟨he, hlast⟩ := (hes.rest hreach).1
  obtain ⟨-, c, t', ht', hfollowed⟩ :=
    followed_of_run htable hquiet hhappens hbefore hserves hmiddle hs
  rw [ht, Except.ok.injEq] at ht'
  subst ht'
  obtain ⟨halone, henabled⟩ := hfollowed.happens he hlast
  refine ⟨halone, ?_⟩
  by_cases hnot : ∀ fd env, e = .block fd env → ¬ ∃ j, j ≠ u.connections.length ∧
      NotifiedBy bufferSize sel j fd (before ++ .accept true a :: middle)
  · exact .inl (henabled hnot)
  · push Not at hnot
    obtain ⟨fd, env, rfl, j, hj, hnotified⟩ := hnot
    exact .inr ⟨fd, env, rfl,
      hfollowed.leftBehind htable hhappens hreach he hlast hj hnotified⟩

/-- The same of every event of its own, the last of which may fault. -/
theorem own_event_of_run (htable : fdSetsize < sel.fds.length) (hquiet : sel.resolutionJobs = [])
    (hes : Steps (serverStep bufferSize) (fun v e => ServerHappens v e ∧ ReachesLast v e)
      (.start sel) (before ++ .accept true a :: after))
    (hbefore : run (serverStep bufferSize) (.start sel) before = .ok u) (hserves : Serves u a)
    (hafter : run (serverStep bufferSize) (u.passiveAccept bufferSize true a) after.dropLast =
      .ok v)
    (hs : socksv5PassiveAccept bufferSize emptySelector metricsInit a = some s)
    {own own' : List Event} (ht : run step s own = .ok t)
    (hown : after.filterMap (ServerEvent.own u.connections.length) = own ++ e :: own') :
    HappensAlone t e ∧ (Enabled t e ∨ HandlesLeftBehind bufferSize sel u.connections.length
      (before ++ [.accept true a]) after) := by
  obtain ⟨middle, x, late, rfl, hx, rfl⟩ := filterMap_cut hown
  cases own_eq_some_iff.mp hx
  rw [List.dropLast_append_cons] at hafter
  obtain ⟨w, hw, -⟩ := run_append_ok_iff.mp hafter
  rw [← List.cons_append, ← List.append_assoc] at hes
  obtain ⟨halone, hcaused⟩ := event_of_run htable hquiet hes hbefore hserves hw hs ht
  refine ⟨halone, hcaused.imp_right ?_⟩
  rintro ⟨fd, env, rfl, hleft⟩
  rw [List.append_cons] at hleft
  exact ⟨middle, fd, env, late, rfl, hleft⟩

/-- A fault of the server is the fault of one connection, which its own events
lead to when its client is the only one; and these could happen to it alone,
unless one of them is a notification that somebody else has left behind. -/
theorem server_fault_own (htable : fdSetsize < sel.fds.length) (hquiet : sel.resolutionJobs = [])
    (hes : Steps (serverStep bufferSize) (fun v e => ServerHappens v e ∧ ReachesLast v e)
      (.start sel) es)
    (hrun : run (serverStep bufferSize) (.start sel) es = .error fault) :
    ∃ before a after i e rest u s t,
      es = before ++ .accept true a :: (after ++ [.connection i e]) ++ rest ∧
      run (serverStep bufferSize) (.start sel) before = .ok u ∧ u.connections.length = i ∧
      socksv5PassiveAccept bufferSize emptySelector metricsInit a = some s ∧
      Steps step HappensAlone s (after.filterMap (ServerEvent.own i) ++ [e]) ∧
      run step s (after.filterMap (ServerEvent.own i)) = .ok t ∧ step t e = .error fault ∧
      (Steps step (fun s e => FreshAt s e ∧ Enabled s e) s
          (after.filterMap (ServerEvent.own i) ++ [e]) ∨
        HandlesLeftBehind bufferSize sel i (before ++ [.accept true a])
          (after ++ [.connection i e])) := by
  have hhappens : Steps (serverStep bufferSize) ServerHappens (.start sel) es :=
    hes.mono fun _ _ h => h.1
  obtain ⟨past, e', rest, v, rfl, hpast, hfault⟩ := run_error hrun
  obtain ⟨i, e, c, rfl, hc, hfault⟩ := serverStep_error hfault
  obtain ⟨before, a, after, u, rfl, hbefore, rfl, hserves, hafter⟩ :=
    exists_entry htable hhappens.init hpast (List.getElem?_eq_some_iff.mp hc).1
  have hdivided : Divided u := divided_of_run htable hhappens.init.init hbefore
  obtain ⟨s, hs, -⟩ := Tracked.accepted bufferSize hdivided hserves
    (hhappens.init.rest hbefore).1
  obtain ⟨hend, c', t, ht, hfollowed⟩ := followed_of_run htable hquiet hhappens.init hbefore
    hserves hafter hs
  have hsame : c' = c := Option.some.inj (hfollowed.found.symm.trans hc)
  subst hsame
  have hfaults := hfollowed.alone.faults hend hc (hhappens.rest hpast).1 hfault
  have hsplit : before ++ .accept true a :: after ++
      .connection u.connections.length e :: rest =
        before ++ .accept true a :: (after ++ [.connection u.connections.length e]) ++ rest := by
    simp
  rw [hsplit] at hes ⊢
  have hlast : (after ++ [ServerEvent.connection u.connections.length e]).filterMap
      (ServerEvent.own u.connections.length) =
        after.filterMap (ServerEvent.own u.connections.length) ++ [e] := by
    rw [List.filterMap_append, List.filterMap_cons_some (own_eq_some_iff.mpr rfl)]
    rfl
  have hevent : ∀ own e' own' t', after.filterMap (ServerEvent.own u.connections.length) ++ [e] =
      own ++ e' :: own' → run step s own = .ok t' →
        HappensAlone t' e' ∧ (Enabled t' e' ∨ HandlesLeftBehind bufferSize sel
          u.connections.length (before ++ [.accept true a])
            (after ++ [.connection u.connections.length e])) := by
    intro own e' own' t' hown ht'
    refine own_event_of_run htable hquiet hes.init hbefore hserves (v := v) ?_ hs ht'
      (hlast.trans hown)
    rw [List.dropLast_concat]
    exact hafter
  refine ⟨before, a, after, _, e, rest, u, s, t, rfl, hbefore, rfl, hs,
    .of_prefixes fun own e' own' t' hown ht' => (hevent own e' own' t' hown ht').1, ht,
    hfaults, ?_⟩
  by_cases hstale : HandlesLeftBehind bufferSize sel u.connections.length
      (before ++ [.accept true a]) (after ++ [.connection u.connections.length e])
  · exact .inr hstale
  · refine .inl (.of_prefixes fun own e' own' t' hown ht' => ?_)
    obtain ⟨halone, hcaused⟩ := hevent own e' own' t' hown ht'
    exact ⟨halone.1, hcaused.resolve_right hstale⟩

end Faults

/-! ### A fault beside a neighbour -/

/-- No event of a connection in use reaches a record that was given out
again. -/
theorem reachesLast_of_open {v : Server} {i : ℕ} {e : Event}
    (hopen : ∀ c, v.connections[i]? = some c → c.conn.closed = false) :
    ReachesLast v (.connection i e) := by
  rcases e with ⟨fd, env⟩ | ⟨fd, env⟩ | ⟨fd, env⟩ | result | errno
  · exact fun c hc hclosed => absurd hclosed (by rw [hopen c hc]; decide)
  · exact fun c hc hclosed => absurd hclosed (by rw [hopen c hc]; decide)
  · exact fun c hc hclosed => absurd hclosed (by rw [hopen c hc]; decide)
  · trivial
  · trivial

/-- Nor does any event that ends without a fault. -/
theorem reachesLast_of_run {bufferSize : ℕ} {v w : Server} {es : List ServerEvent}
    (hrun : run (serverStep bufferSize) v es = .ok w) :
    Steps (serverStep bufferSize) ReachesLast v es := by
  refine Steps.of_prefixes ?_
  rintro before e after u rfl hbefore
  rw [run_append_of_ok hbefore] at hrun
  obtain ⟨u', hstep, -⟩ := run_cons_ok_iff.mp hrun
  rcases e with _ | ⟨malloc, a⟩ | ⟨i, e⟩
  · trivial
  · trivial
  · refine reachesLast_of_open fun c hc => ?_
    rcases serverStep_connection_ok hstep with ⟨hnone, -⟩ | ⟨d, s, hd, hs, -⟩
    · rw [hc] at hnone
      cases hnone
    · rw [Option.some.inj (hc.symm.trans hd)]
      exact open_of_step_ok hs

/-- The resolver of the first client answers, the client is gone before the
notification is handled, and the second dials through its old descriptor. -/
def answerTooLate : List ServerEvent :=
  twoAccepts ++ askForName.map (.connection 0) ++ [.connection 0 (.read 4 (receives []))] ++
    [.connection 0 resolved] ++ [.connection 1 (.read 6 (receives [0x05, 0x01, 0x00]))] ++
    [.connection 1 (.write 6 (sends 2))] ++ [.connection 0 (.write 4 default)] ++
    [.connection 1 (.read 6 { numericRequest with
      attempts := fun _ => ⟨4, true, .error einprogress, true⟩ })]

/-- What is left behind ends the server through the second client, which waits
in CONNECT and has asked no resolver. -/
example : run (serverStep bufferSizeDefault) (.start emptySelector)
    (answerTooLate ++ [.connection 1 notified]) = .error .assertion := by
  decide +kernel

/-- Two clients, and a byte of the first that comes while its name is being
looked up. -/
def lateByteBeside : List ServerEvent := twoAccepts ++ answeredTwice.map (.connection 0)

theorem lateByteBeside_happens :
    Steps (serverStep bufferSizeDefault) ServerHappens (.start emptySelector) lateByteBeside := by
  refine happens_at (happens_at (happens_at (happens_at (happens_at (happens_at (happens_at
    twoAccepts_happen ?_ ?_ ?_ ?_) ?_ ?_ ?_ ?_) ?_ ?_ ?_ ?_) ?_ ?_ ?_ ?_) ?_ ?_ ?_ ?_)
    ?_ ?_ ?_ ?_) ?_ ?_ ?_ ?_
  · decide +kernel
  · decide +kernel
  · exact freshAt_of_state (by decide +kernel)
  · decide +kernel
  · decide +kernel
  · decide +kernel
  · exact freshAt_of_state (by decide +kernel)
  · decide +kernel
  · decide +kernel
  · decide +kernel
  · exact FiveIsNew.freshAt_read (by decide +kernel)
  · decide +kernel
  · decide +kernel
  · decide +kernel
  · exact FiveIsNew.freshAt_read (by decide +kernel)
  · decide +kernel
  · decide +kernel
  · decide +kernel
  · exact trivial
  · decide +kernel
  · decide +kernel
  · decide +kernel
  · exact FiveIsNew.freshAt_block (by decide +kernel)
  · decide +kernel
  · decide +kernel
  · decide +kernel
  · exact trivial
  · decide +kernel

/-- The second notification ends the server, as it would have without the
second client. -/
theorem server_fault_own_first :
    ∃ before a after i e rest u s t, lateByteBeside ++ [.connection 0 notified] =
        before ++ .accept true a :: (after ++ [.connection i e]) ++ rest ∧
      run (serverStep bufferSizeDefault) (.start emptySelector) before = .ok u ∧
      u.connections.length = i ∧
      socksv5PassiveAccept bufferSizeDefault emptySelector metricsInit a = some s ∧
      Steps step HappensAlone s (after.filterMap (ServerEvent.own i) ++ [e]) ∧
      run step s (after.filterMap (ServerEvent.own i)) = .ok t ∧ step t e = .error .assertion ∧
      (Steps step (fun s e => FreshAt s e ∧ Enabled s e) s
          (after.filterMap (ServerEvent.own i) ++ [e]) ∨
        HandlesLeftBehind bufferSizeDefault emptySelector i (before ++ [.accept true a])
          (after ++ [.connection i e])) := by
  have hrun : run (serverStep bufferSizeDefault) (.start emptySelector) lateByteBeside =
      .ok (serverAfter lateByteBeside) := run_serverAfter (by decide +kernel)
  have hhappens := happens_at lateByteBeside_happens (i := 0) (e := notified)
    (by decide +kernel) (by decide +kernel) (fun hst => absurd hst (by decide +kernel))
    (by decide +kernel)
  have hreaches := (reachesLast_of_run hrun).append hrun (.single (e := .connection 0 notified)
    (reachesLast_of_open (by decide +kernel)))
  exact server_fault_own firstClient_fresh.table rfl (hhappens.and hreaches) (by decide +kernel)

end Socks5Proxy

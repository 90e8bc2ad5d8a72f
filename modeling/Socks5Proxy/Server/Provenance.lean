import Socks5Proxy.Server.Proxy
import Socks5Proxy.Server.Startup

/-!
# Who may do what, and since when

The user store changes in the name of administrators only.  A client that logs
in, and an administrator who acts, owes it to the store `main` started from or
to an administrator's call.
-/

namespace Socks5Proxy

open Library

/-! ## What is asked for -/

/-- The event lets nobody in whose credentials were refused. -/
def KeepsOut (p : Proxy) : ProxyEvent → Prop
  | .socks _ | .pamAccept _ _ => True
  | .manager i e _ => ∀ m, p.managers[i]? = some m → ¬ AdmitsRefused (p.session m) e

/-- The event is one of a manager who has logged in and is an administrator at
this moment, and calls `op`, which leaves the store `after`. -/
def ByAdministrator (p : Proxy) (e : ProxyEvent) (op : UserOp) (after : UserStore) : Prop :=
  ∃ i e' own m, e = .manager i e' own ∧ p.managers[i]? = some m ∧
    PamAuthenticated (p.session m) ∧ AdminCall (p.session m).requester op p.users after

/-- The event leaves the store as it is, or an administrator changes it. -/
def StoreGuarded (bufferSize : ℕ) (p : Proxy) (e : ProxyEvent) : Prop :=
  ∀ p', proxyStep bufferSize p e = .ok p' →
    p'.users = p.users ∨ ∃ op, ByAdministrator p e op p'.users

/-- A SOCKS client is admitted under this name and password. -/
def SocksLogsIn (p p' : Proxy) (username password : CString) : Prop :=
  ∃ (i : ℕ) (c c' : Connection), p.server.connections[i]? = some c ∧
    p'.server.connections[i]? = some c' ∧ Admits (p.server.session c) (p'.server.session c') ∧
    c'.conn.username = username.bytes ∧ c'.conn.password = password.bytes

/-- `user_authenticate` accepts this name and password for a manager. -/
def PamLogsIn (p p' : Proxy) (username password : CString) : Prop :=
  ∃ (i : ℕ) (m m' : Manager), p.managers[i]? = some m ∧ p'.managers[i]? = some m' ∧
    PamAction.authenticate username.bytes password.bytes .ok ∉ m.log ∧
    PamAction.authenticate username.bytes password.bytes .ok ∈ m'.log

def LogsIn (p p' : Proxy) (username password : CString) : Prop :=
  SocksLogsIn p p' username password ∨ PamLogsIn p p' username password

/-- The call may give `n` this password: it creates `n` with it, or changes the
password or the role of `n`. -/
def UserOp.Stores (n password : CString) : UserOp → Prop
  | .create username pass _ _ => username = n ∧ pass = password
  | .changePassword username _ _ | .changeRole username _ => username = n
  | .remove _ => False

/-- The call makes an administrator of `n`. -/
def UserOp.Promotes (n : CString) : UserOp → Prop
  | .create username _ pl _ => username = n ∧ pl = userPrivilegeAdmin
  | .changeRole username newRole => username = n ∧ newRole = userPrivilegeAdmin
  | .changePassword _ _ _ | .remove _ => False

/-! ## What every run keeps -/

structure ProxyInvariant (p : Proxy) : Prop where
  divided : ProxyDivided p
  gated : ∀ (i : ℕ) m, p.managers[i]? = some m → PamGateInvariant (p.session m)
  ordered : p.users.Ordered

section Step

variable {bufferSize : ℕ} {p p' : Proxy} {e : ProxyEvent} {m : Manager} {i : ℕ}
  {n password : CString} {e' : PamEvent} {own : e'.Own}

theorem ByAdministrator.applied {op : UserOp} {after : UserStore}
    (h : ByAdministrator p e op after) : after = (op.apply p.users).1 := by
  obtain ⟨i, e', own, m, he, hm, hauthenticated, hcall⟩ := h
  exact hcall.applied

/-- The store after an event. -/
theorem ProxyInvariant.store (h : ProxyInvariant p) (he : ProxyHappens p e) (hout : KeepsOut p e)
    (hstep : proxyStep bufferSize p e = .ok p') :
    p'.users = p.users ∨ ∃ op, ByAdministrator p e op p'.users := by
  rcases e with e | ⟨malloc, a⟩ | ⟨i, e', own⟩
  · obtain ⟨v, -, rfl⟩ := proxyStep_socks_ok hstep
    exact .inl rfl
  · rw [← Except.ok.inj hstep]
    rcases p.pamAccept_cases h.divided.server.table malloc a with ⟨-, -, -, heq⟩ | heq
    · rw [heq]
      exact .inl rfl
    · rw [heq]
      exact .inl rfl
  · rcases proxyStep_manager_ok hstep with ⟨-, rfl⟩ | ⟨m, s, hm, hs, rfl⟩
    · exact .inl rfl
    · obtain ⟨-, heffect⟩ := h.divided.moved hm he hs
      rcases heffect.users with hsame | ⟨op, hcall⟩
      · exact .inl hsame
      · by_cases hsame : s.users = p.users
        · exact .inl hsame
        · have hgated := (pamStep_gated (h.gated i m hm) (he m hm) (hout m hm)).1
          exact .inr ⟨op, i, e', own, m, rfl, hm, (hgated.changes s own hs hsame).1, hcall⟩

theorem ProxyInvariant.next (h : ProxyInvariant p) (he : ProxyHappens p e) (hout : KeepsOut p e)
    (hstep : proxyStep bufferSize p e = .ok p') : ProxyInvariant p' := by
  refine ⟨h.divided.next he hstep, ?_, ?_⟩
  · intro j m hm
    rcases h.divided.managerAfter he hstep hm with ⟨rfl, hold, hs⟩ | ⟨rfl, -, haccept⟩ |
      ⟨hold, hown⟩
    · exact (pamStep_gated (h.gated j _ hold) (he _ hold) (hout _ hold)).2 _ hs
    · exact pamGateInvariant_of_accept ⟨h.divided.server.table, (he rfl).1⟩ haccept
    · exact (h.gated j m hold).of_ownedBy hown rfl rfl rfl rfl
  · rcases h.store he hout hstep with hsame | ⟨op, i, e', own, m, -, -, -, hcall⟩
    · rw [hsame]
      exact h.ordered
    · rw [hcall.applied]
      exact (op.apply_spec h.ordered).1

theorem ProxyInvariant.start {sel : FdSelector FdHandler ℕ} {users : UserStore}
    (htable : fdSetsize < sel.fds.length) (hordered : users.Ordered) :
    ProxyInvariant (.start sel users) := by
  refine ⟨⟨.start htable, ?_, ?_, ?_⟩, ?_, hordered⟩
  · intro i m hm
    cases hm
  · intro i j m n _ hm
    cases hm
  · intro i m hm
    cases hm
  · intro i m hm
    cases hm

/-! ### Logging in -/

/-- The credentials of an event of AUTH are checked against the store of the
moment. -/
theorem ProxyInvariant.socksLogsIn (h : ProxyInvariant p) (he : ProxyHappens p e)
    (hstep : proxyStep bufferSize p e = .ok p') (hlogs : SocksLogsIn p p' n password) :
    userAuthenticate p.users n.bytes password.bytes = .ok := by
  obtain ⟨i, c, c', hc, hc', hadmits, hname, hpassword⟩ := hlogs
  have hchanged : ∀ {d : Connection}, p'.server.connections[i]? = some d →
      d.conn = c.conn → False := by
    intro d hd hsame
    have heq : c' = d := Option.some.inj (hc'.symm.trans hd)
    have hbefore : c.conn.auth.authenticated = false := hadmits.before
    have hafter : c'.conn.auth.authenticated = true := hadmits.after
    rw [heq, hsame, hbefore] at hafter
    cases hafter
  rcases e with e | ⟨malloc, a⟩ | ⟨j, e', own⟩
  · obtain ⟨v, hv, rfl⟩ := proxyStep_socks_ok hstep
    rcases h.divided.server.connection_next he hv hc with hkept | ⟨e', s, heq, hs, rfl⟩
    · exact (hchanged hkept rfl).elim
    · have hself : (p.server.resume i s).connections[i]? = some c' := hc'
      rw [Server.resume_self hc, Option.some.injEq] at hself
      subst hself
      obtain ⟨fd, env, rfl, haccepted⟩ := step_admits hadmits hs
      rw [← hname, ← hpassword]
      -- the event reads the shared store
      rcases e with _ | ⟨malloc, a⟩ | ⟨j, e⟩
      · cases heq
      · cases heq
      · rcases e with ⟨fd', env'⟩ | ⟨fd', env'⟩ | ⟨fd', env'⟩ | result | errno
        · cases heq
          exact haccepted
        · cases heq
        · cases heq
        · cases heq
        · cases heq
  · rw [← Except.ok.inj hstep] at hchanged
    rcases p.pamAccept_cases h.divided.server.table malloc a with ⟨-, -, -, heq⟩ | heq
    · rw [heq] at hchanged
      exact (hchanged hc rfl).elim
    · rw [heq] at hchanged
      exact (hchanged hc rfl).elim
  · rcases proxyStep_manager_ok hstep with ⟨-, rfl⟩ | ⟨m, s, -, -, rfl⟩
    · exact (hchanged hc rfl).elim
    · exact (hchanged hc rfl).elim

theorem ProxyInvariant.pamLogsIn (h : ProxyInvariant p) (he : ProxyHappens p e)
    (hstep : proxyStep bufferSize p e = .ok p') (hlogs : PamLogsIn p p' n password) :
    userAuthenticate p.users n.bytes password.bytes = .ok := by
  obtain ⟨i, m, m', hm, hm', hbefore, hafter⟩ := hlogs
  rcases h.divided.managerAfter he hstep hm' with ⟨rfl, hold, hs⟩ | ⟨-, hj, -⟩ | ⟨hold, -⟩
  · have heq := Option.some.inj (hm.symm.trans hold)
    subst heq
    obtain ⟨-, heffect⟩ := h.divided.moved hm he hs
    exact (heffect.logins _ _ hafter).resolve_left hbefore
  · have hlt := (List.getElem?_eq_some_iff.mp hm).1
    omega
  · have heq := Option.some.inj (hm.symm.trans hold)
    subst heq
    exact absurd hafter hbefore

theorem ProxyInvariant.logsIn (h : ProxyInvariant p) (he : ProxyHappens p e)
    (hstep : proxyStep bufferSize p e = .ok p') (hlogs : LogsIn p p' n password) :
    StoredPair p.users n password := by
  rw [← userAuthenticate_ok_iff_storedPair h.ordered]
  rcases hlogs with hsocks | hpam
  · exact h.socksLogsIn he hstep hsocks
  · exact h.pamLogsIn he hstep hpam

end Step

/-! ## What calls bring about -/

section Calls

variable {store : UserStore} {op : UserOp} {n password : CString}

theorem storedPair_apply_ne (h : store.Ordered) (hne : n ≠ op.username) :
    StoredPair (op.apply store).1 n password ↔ StoredPair store n password := by
  rw [← userAuthenticate_ok_iff_storedPair h,
    ← userAuthenticate_ok_iff_storedPair (op.apply_spec h).1, userAuthenticate, userAuthenticate,
    op.lookup_ne h hne]

theorem StoredPair.known (hordered : store.Ordered) (h : StoredPair store n password) :
    (userGetIfExists store n.bytes).isSome := by
  rw [← userAuthenticate_ok_iff_storedPair hordered, userAuthenticate] at h
  rcases hfind : userGetIfExists store n.bytes with _ | user
  · rw [hfind] at h
    cases h
  · rfl

/-- Whoever is removed is gone. -/
theorem lookup_remove_self (h : store.Ordered) :
    userGetIfExists (userRemove store n.bytes).1 n.bytes = none := by
  by_contra hsome
  have hfound : (userGetIfExists ((UserOp.remove n).apply store).1 n.bytes).isSome :=
    Option.isSome_iff_ne_none.mpr hsome
  rcases (UserOp.isSome_lookup_iff h (.remove n) n).mp hfound with ⟨_, _, _, hcreate, -⟩ | ⟨-, hne⟩
  · cases hcreate
  · exact hne rfl

/-- Only such a call stores a pair that was not there. -/
theorem stores_of_storedPair (h : store.Ordered) (hbefore : ¬ StoredPair store n password)
    (hafter : StoredPair (op.apply store).1 n password) : op.Stores n password := by
  have hname : n = op.username := by
    by_contra hne
    exact hbefore ((storedPair_apply_ne h hne).mp hafter)
  rcases op with ⟨username, pass, pl, stack⟩ | username | ⟨username, newPassword, hlen⟩ |
    ⟨username, newRole⟩
  · by_cases hok : (userCreate store username.bytes pass.bytes pl stack).2 = .ok
    · rcases (storedPair_create_iff h hok).mp hafter with ⟨rfl, rfl⟩ | hold
      · exact ⟨rfl, rfl⟩
      · exact absurd hold hbefore
    · rw [UserOp.apply_of_ne_ok (.create username pass pl stack) h hok] at hafter
      exact absurd hafter hbefore
  · have hknown := hafter.known (UserOp.apply_spec h (.remove username)).1
    change (userGetIfExists (userRemove store username.bytes).1 n.bytes).isSome = true at hknown
    rw [hname, UserOp.username, lookup_remove_self h] at hknown
    cases hknown
  · exact hname.symm
  · exact hname.symm

/-- Only such a call makes an administrator. -/
theorem promotes_of_userIsAdmin (h : store.Ordered) (hbefore : userIsAdmin store n.bytes ≠ true)
    (hafter : userIsAdmin (op.apply store).1 n.bytes = true) : op.Promotes n := by
  have hname : n = op.username := by
    by_contra hne
    rw [userIsAdmin_congr (op.lookup_ne h hne)] at hafter
    exact hbefore hafter
  have hok : (op.apply store).2 = .ok := by
    by_contra hfailed
    rw [UserOp.apply_of_ne_ok op h hfailed] at hafter
    exact hbefore hafter
  rcases op with ⟨username, pass, pl, stack⟩ | username | ⟨username, newPassword, hlen⟩ |
    ⟨username, newRole⟩
  · refine ⟨hname.symm, ?_⟩
    have hfound := (userCreate_found h hok).2
    change userIsAdmin (userCreate store username.bytes pass.bytes pl stack).1 n.bytes = true
      at hafter
    rw [hname] at hafter
    rw [userIsAdmin, UserOp.username, hfound] at hafter
    exact eq_of_beq hafter
  · change userIsAdmin (userRemove store username.bytes).1 n.bytes = true at hafter
    rw [hname, UserOp.username, userIsAdmin, lookup_remove_self h] at hafter
    cases hafter
  · exfalso
    obtain ⟨user, hold, hnew⟩ := userChangePassword_found h hlen hok
    change userIsAdmin (userChangePassword store username.bytes newPassword.bytes).1 n.bytes = true
      at hafter
    rw [hname, userIsAdmin, UserOp.username] at hbefore hafter
    rw [hold] at hbefore
    rw [hnew] at hafter
    exact hbefore hafter
  · refine ⟨hname.symm, ?_⟩
    obtain ⟨user, -, hnew⟩ := userChangeRole_found h hok
    change userIsAdmin (userChangeRole store username.bytes newRole).1 n.bytes = true at hafter
    rw [hname, userIsAdmin, UserOp.username, hnew] at hafter
    exact eq_of_beq hafter

end Calls

/-! ## A run of both protocols -/

/-- What the process has come to after some events. -/
def proxyAfter (es : List ProxyEvent) : Proxy :=
  (run (proxyStep bufferSizeDefault) (.start emptySelector usersInit) es).toOption.getD default

theorem run_proxyAfter {es : List ProxyEvent}
    (h : (run (proxyStep bufferSizeDefault) (.start emptySelector usersInit)
      es).toOption.isSome = true) :
    run (proxyStep bufferSizeDefault) (.start emptySelector usersInit) es =
      .ok (proxyAfter es) := by
  unfold proxyAfter
  rcases hrun : run (proxyStep bufferSizeDefault) (.start emptySelector usersInit) es with fault | p
  · rw [hrun] at h
    cases h
  · rfl

/-- The events happen, and keep out who is to be kept out. -/
def Proceeds (es : List ProxyEvent) : Prop :=
  Steps (proxyStep bufferSizeDefault) (fun p e => ProxyHappens p e ∧ KeepsOut p e)
    (.start emptySelector usersInit) es

section Proceeds

variable {es : List ProxyEvent} {i : ℕ}

theorem Proceeds.happens (h : Proceeds es) :
    Steps (proxyStep bufferSizeDefault) ProxyHappens (.start emptySelector usersInit) es :=
  h.mono fun _ _ hboth => hboth.1

theorem Proceeds.keepsOut (h : Proceeds es) :
    Steps (proxyStep bufferSizeDefault) KeepsOut (.start emptySelector usersInit) es :=
  h.mono fun _ _ hboth => hboth.2

/-- One more event of the manager at `i`. -/
theorem Proceeds.manager {e : PamEvent} (own : e.Own) (hes : Proceeds es)
    (hrun : (run (proxyStep bufferSizeDefault) (.start emptySelector usersInit)
      es).toOption.isSome = true)
    (henabled : PamEnabled ((proxyAfter es).session ((proxyAfter es).managers.getD i default)) e)
    (hadmits : ¬ AdmitsRefused
      ((proxyAfter es).session ((proxyAfter es).managers.getD i default)) e) :
    Proceeds (es ++ [.manager i e own]) := by
  refine Steps.append hes (run_proxyAfter hrun) ⟨⟨?_, ?_⟩, fun _ _ => trivial⟩
  · intro m hm
    rw [List.getD_eq_getElem?_getD, hm] at henabled
    exact henabled
  · intro m hm
    rw [List.getD_eq_getElem?_getD, hm] at hadmits
    exact hadmits

/-- One more event of the connection at `i`, which does not open a socket. -/
theorem Proceeds.connection {e : Event} (hes : Proceeds es)
    (hrun : (run (proxyStep bufferSizeDefault) (.start emptySelector usersInit)
      es).toOption.isSome = true)
    (henabled : Enabled ((proxyAfter es).server.session
      ((proxyAfter es).server.connections.getD i default)) (e.withUsers (proxyAfter es).users))
    (hstate : ((proxyAfter es).server.session
      ((proxyAfter es).server.connections.getD i default)).state ≠ .request ∧
        ((proxyAfter es).server.session
          ((proxyAfter es).server.connections.getD i default)).state ≠ .connect)
    (hidle : ∀ d ∈ (proxyAfter es).server.connections.eraseIdx i, d.conn.originFd = -1) :
    Proceeds (es ++ [.socks (.connection i e)]) := by
  refine Steps.append hes (run_proxyAfter hrun) ⟨⟨?_, trivial⟩, fun _ _ => trivial⟩
  intro c hc
  rw [List.getD_eq_getElem?_getD, hc] at henabled hstate
  refine ⟨henabled, freshAt_of_state hstate, ?_⟩
  intro j d hne hd _
  rw [hidle d (List.mem_eraseIdx_iff_getElem?.mpr ⟨j, hne, hd⟩)]
  exact opensOther_neg_one _

end Proceeds

theorem visitor_noNul : (0 : UInt8) ∉ [97] := by decide

def visitor : CString := ⟨[97], visitor_noNul⟩

theorem visitorPassword_noNul : (0 : UInt8) ∉ [98] := by decide

def visitorPassword : CString := ⟨[98], visitorPassword_noNul⟩

/-- A server without options. -/
theorem startUp_nil : startUp false (fun _ => (0, 0)) [] false = .ok (defaultArgs, usersInit) := rfl

/-- The administrator logs in and makes an administrator of `a`, with the
password `b`. -/
def appointment : List ProxyEvent :=
  [.pamAccept true firstManager] ++
    [.manager 0 (.read 4 (pamReceives (pamAuthMessage adminName.bytes adminName.bytes))) trivial] ++
    [.manager 0 (.write 4 (pamSends 2)) trivial] ++
    [.manager 0 (.read 4 (pamReceives
      (requestMessage pamRequestMethodAddUser [1, 97, 1, 98, 0]))) trivial]

theorem appointment_proceeds : Proceeds appointment := by
  have haccept : Proceeds [.pamAccept true firstManager] := by
    refine ⟨⟨fun _ => ⟨(firstManager_fresh _).unused, ?_⟩, trivial⟩, fun _ _ => trivial⟩
    intro i c hc
    cases hc
  refine ((haccept.manager _ ?_ ?_ ?_).manager _ ?_ ?_ ?_).manager _ ?_ ?_ ?_
  · decide +kernel
  · decide +kernel
  · decide +kernel
  · decide +kernel
  · decide +kernel
  · decide +kernel
  · decide +kernel
  · decide +kernel
  · decide +kernel

/-- The new administrator comes as a SOCKS client and names the method. -/
def visitorGreets : List ProxyEvent :=
  appointment ++ [.socks (.accept true secondClient)] ++
    [.socks (.connection 0 (.read 6 (receives [0x05, 0x01, 0x02])))] ++
    [.socks (.connection 0 (.write 6 (sends 2)))]

/-- The credentials. -/
def visitorLogin : ProxyEvent :=
  .socks (.connection 0 (.read 6 (receives (authMessage [97] [98]))))

theorem dataOf_ne_of_all {η : Type} {sel : FdSelector η ℕ} {a : ℕ}
    (h : ∀ item ∈ sel.fds, item.data ≠ some a) (fd : ℤ) : sel.dataOf fd ≠ some a := by
  intro hfd
  obtain ⟨item, hitem, hdata⟩ := dataOf_eq_some_iff.mp hfd
  have hmem : item ∈ sel.fds := by
    rw [← item_of_registration hitem]
    have hsome : sel.interestOf fd ≠ none := by
      rw [Ne, ← registration_eq_none_iff, hitem]
      exact Option.some_ne_none item
    have hlt := lt_length_of_used (interestOf_ne_none_iff.mp hsome).2
    unfold FdSelector.item
    rw [List.getD_eq_getElem _ _ hlt]
    exact List.getElem_mem hlt
  exact h item hmem hdata

theorem visitorLogin_proceeds : Proceeds (visitorGreets ++ [visitorLogin]) := by
  have haccept : Proceeds (appointment ++ [.socks (.accept true secondClient)]) := by
    refine Steps.append appointment_proceeds (run_proxyAfter (by decide +kernel))
      ⟨⟨⟨?_, fun _ => ?_⟩, trivial⟩, fun _ _ => trivial⟩
    · change ∀ c ∈ (proxyAfter appointment).server.connections, _
      rw [show (proxyAfter appointment).server.connections = [] by decide +kernel]
      intro c hc
      cases hc
    · exact dataOf_ne_of_all (by decide +kernel)
  refine ((haccept.connection ?_ ?_ ?_ ?_).connection ?_ ?_ ?_ ?_).connection ?_ ?_ ?_ ?_
  · decide +kernel
  · decide +kernel
  · decide +kernel
  · decide +kernel
  · decide +kernel
  · decide +kernel
  · decide +kernel
  · decide +kernel
  · decide +kernel
  · decide +kernel
  · decide +kernel
  · decide +kernel

/-! ## Every run -/

section Runs

variable {bufferSize : ℕ} {sel : FdSelector FdHandler ℕ} {erange more : Bool}
  {frames : ℕ → UInt8 × UInt8} {opts : List Getopt} {args : Socks5Args} {users : UserStore}
  {es : List ProxyEvent} {e : ProxyEvent}
  {p p' : Proxy} {n password : CString}

theorem proxyInvariant_of_startUp (htable : fdSetsize < sel.fds.length)
    (hstart : startUp erange frames opts more = .ok (args, users)) :
    ProxyInvariant (.start sel users) :=
  .start htable (startUp_store hstart).1

theorem ProxyInvariant.run (h : ProxyInvariant p)
    (hes : Steps (proxyStep bufferSize) (fun p e => ProxyHappens p e ∧ KeepsOut p e) p es)
    (hrun : Library.run (proxyStep bufferSize) p es = .ok p') : ProxyInvariant p' :=
  run_invariant (fun _ _ _ h he hstep => h.next he.1 he.2 hstep) h hes hrun

/-- What the store is like now it has been like since the start, or ever since
an administrator's call that made it so. -/
theorem ProxyInvariant.since {Q : UserStore → Prop} (h : ProxyInvariant p)
    (hes : Steps (proxyStep bufferSize) (fun p e => ProxyHappens p e ∧ KeepsOut p e) p es)
    (hrun : Library.run (proxyStep bufferSize) p es = .ok p') (hQ : Q p'.users) :
    Always (proxyStep bufferSize) (fun q => Q q.users) p es ∨
      ∃ before e after u v op, es = before ++ e :: after ∧
        Library.run (proxyStep bufferSize) p before = .ok u ∧
        proxyStep bufferSize u e = .ok v ∧ ByAdministrator u e op v.users ∧ u.users.Ordered ∧
        ¬ Q u.users ∧ Always (proxyStep bufferSize) (fun q => Q q.users) v after := by
  refine (run_since (Q := fun q : Proxy => Q q.users) hQ hrun).imp_right ?_
  rintro ⟨before, e, after, u, v, rfl, hbefore, hstep, hu, halways⟩
  have hinvariant : ProxyInvariant u := h.run hes.init hbefore
  obtain ⟨he, hout⟩ := (hes.rest hbefore).1
  rcases hinvariant.store he hout hstep with hsame | ⟨op, hcall⟩
  · have hv := halways.head
    rw [hsame] at hv
    exact absurd hv hu
  · exact ⟨before, e, after, u, v, op, rfl, hbefore, hstep, hcall, hinvariant.ordered, hu, halways⟩

/-- Whatever the clients of both protocols do, in whatever order: the store
changes only by a call of an administrator who has logged in. -/
theorem store_changes_guarded (htable : fdSetsize < sel.fds.length)
    (hstart : startUp erange frames opts more = .ok (args, users))
    (hes : Steps (proxyStep bufferSize) ProxyHappens (.start sel users) es)
    (hout : Steps (proxyStep bufferSize) KeepsOut (.start sel users) es) :
    Steps (proxyStep bufferSize) (StoreGuarded bufferSize) (.start sel users) es := by
  refine Steps.of_invariant (I := ProxyInvariant) ?_ (proxyInvariant_of_startUp htable hstart)
    (hes.and hout)
  intro p e h hboth
  exact ⟨fun p' hstep => h.store hboth.1 hboth.2 hstep,
    fun p' hstep => h.next hboth.1 hboth.2 hstep⟩

theorem store_changes_guarded_appointment :
    Steps (proxyStep bufferSizeDefault) (StoreGuarded bufferSizeDefault)
      (.start emptySelector usersInit) appointment :=
  store_changes_guarded firstClient_fresh.table startUp_nil
    appointment_proceeds.happens appointment_proceeds.keepsOut

/-- Whoever logs in, over SOCKS or as a manager, presents what the store has at
this moment, and has had since the start or since the call of an administrator
about this very name. -/
theorem login_provenance (htable : fdSetsize < sel.fds.length)
    (hstart : startUp erange frames opts more = .ok (args, users))
    (hes : Steps (proxyStep bufferSize) ProxyHappens (.start sel users) (es ++ [e]))
    (hout : Steps (proxyStep bufferSize) KeepsOut (.start sel users) (es ++ [e]))
    (hrun : Library.run (proxyStep bufferSize) (.start sel users) es = .ok p)
    (hstep : proxyStep bufferSize p e = .ok p') (hlogs : LogsIn p p' n password) :
    StoredPair p.users n password ∧
      (Always (proxyStep bufferSize) (fun q => StoredPair q.users n password)
          (.start sel users) es ∨
        ∃ before e after u v op, es = before ++ e :: after ∧
          Library.run (proxyStep bufferSize) (.start sel users) before = .ok u ∧
          proxyStep bufferSize u e = .ok v ∧ ByAdministrator u e op v.users ∧
          op.Stores n password ∧
          Always (proxyStep bufferSize) (fun q => StoredPair q.users n password) v after) := by
  have hboth := hes.and hout
  have hinitial := proxyInvariant_of_startUp htable hstart
  have hinvariant : ProxyInvariant p := hinitial.run hboth.init hrun
  have hstored := hinvariant.logsIn (hes.rest hrun).1 hstep hlogs
  refine ⟨hstored, ?_⟩
  refine (hinitial.since (Q := fun store => StoredPair store n password) hboth.init hrun
    hstored).imp_right ?_
  rintro ⟨before, e, after, u, v, op, hsplit, hbefore, hstep, hcall, hordered, hu, halways⟩
  refine ⟨before, e, after, u, v, op, hsplit, hbefore, hstep, hcall, ?_, halways⟩
  refine stores_of_storedPair hordered hu ?_
  rw [← hcall.applied]
  exact halways.head

/-- The visitor owes it to the appointment. -/
theorem login_provenance_visitor :
    StoredPair (proxyAfter visitorGreets).users visitor visitorPassword ∧
      (Always (proxyStep bufferSizeDefault)
          (fun q => StoredPair q.users visitor visitorPassword)
          (.start emptySelector usersInit) visitorGreets ∨
        ∃ before e after u v op, visitorGreets = before ++ e :: after ∧
          Library.run (proxyStep bufferSizeDefault) (.start emptySelector usersInit) before =
            .ok u ∧
          proxyStep bufferSizeDefault u e = .ok v ∧ ByAdministrator u e op v.users ∧
          op.Stores visitor visitorPassword ∧
          Always (proxyStep bufferSizeDefault)
            (fun q => StoredPair q.users visitor visitorPassword) v after) := by
  have hvisit : Library.run (proxyStep bufferSizeDefault) (.start emptySelector usersInit)
      visitorGreets = .ok (proxyAfter visitorGreets) := run_proxyAfter (by decide +kernel)
  have hstep : proxyStep bufferSizeDefault (proxyAfter visitorGreets) visitorLogin =
      .ok (proxyAfter (visitorGreets ++ [visitorLogin])) := by
    have hrun : Library.run (proxyStep bufferSizeDefault) (.start emptySelector usersInit)
        (visitorGreets ++ [visitorLogin]) = .ok (proxyAfter (visitorGreets ++ [visitorLogin])) :=
      run_proxyAfter (by decide +kernel)
    rw [run_append_of_ok hvisit] at hrun
    obtain ⟨p, hp, hnil⟩ := run_cons_ok_iff.mp hrun
    rw [← Except.ok.inj hnil]
    exact hp
  refine login_provenance firstClient_fresh.table startUp_nil
    visitorLogin_proceeds.happens visitorLogin_proceeds.keepsOut hvisit hstep (.inl ⟨0, _, _,
      getElem?_eq_some_getD (by decide +kernel), getElem?_eq_some_getD (by decide +kernel),
      ⟨by decide +kernel, by decide +kernel, by decide +kernel⟩, by decide +kernel,
      by decide +kernel⟩)

/-- Whoever is an administrator has been one since the start, and then is
`admin`, or since the call of an administrator that made one of this very
name. -/
theorem administrator_provenance (htable : fdSetsize < sel.fds.length)
    (hstart : startUp erange frames opts more = .ok (args, users))
    (hes : Steps (proxyStep bufferSize) ProxyHappens (.start sel users) es)
    (hout : Steps (proxyStep bufferSize) KeepsOut (.start sel users) es)
    (hrun : Library.run (proxyStep bufferSize) (.start sel users) es = .ok p)
    (hadmin : userIsAdmin p.users n.bytes = true) :
    n = adminName ∧
        Always (proxyStep bufferSize) (fun q => userIsAdmin q.users n.bytes = true)
          (.start sel users) es ∨
      ∃ before e after u v op, es = before ++ e :: after ∧
        Library.run (proxyStep bufferSize) (.start sel users) before = .ok u ∧
        proxyStep bufferSize u e = .ok v ∧ ByAdministrator u e op v.users ∧ op.Promotes n ∧
        Always (proxyStep bufferSize) (fun q => userIsAdmin q.users n.bytes = true) v after := by
  rcases (proxyInvariant_of_startUp htable hstart).since
    (Q := fun store => userIsAdmin store n.bytes = true) (hes.and hout) hrun hadmin with
    halways | ⟨before, e, after, u, v, op, hsplit, hbefore, hstep, hcall, hordered, hu, halways⟩
  · refine .inl ⟨?_, halways⟩
    have hfirst : userIsAdmin users n.bytes = true := halways.head
    exact ((startUp_store hstart).2.2 n).mp hfirst
  · refine .inr ⟨before, e, after, u, v, op, hsplit, hbefore, hstep, hcall, ?_, halways⟩
    refine promotes_of_userIsAdmin hordered hu ?_
    rw [← hcall.applied]
    exact halways.head

/-- So is the new administrator one. -/
theorem administrator_provenance_visitor :
    visitor = adminName ∧
        Always (proxyStep bufferSizeDefault)
          (fun q => userIsAdmin q.users visitor.bytes = true)
          (.start emptySelector usersInit) appointment ∨
      ∃ before e after u v op, appointment = before ++ e :: after ∧
        Library.run (proxyStep bufferSizeDefault) (.start emptySelector usersInit) before =
          .ok u ∧
        proxyStep bufferSizeDefault u e = .ok v ∧ ByAdministrator u e op v.users ∧
        op.Promotes visitor ∧
        Always (proxyStep bufferSizeDefault)
          (fun q => userIsAdmin q.users visitor.bytes = true) v after :=
  administrator_provenance firstClient_fresh.table startUp_nil
    appointment_proceeds.happens appointment_proceeds.keepsOut
    (run_proxyAfter (by decide +kernel)) (by decide +kernel)

end Runs

end Socks5Proxy

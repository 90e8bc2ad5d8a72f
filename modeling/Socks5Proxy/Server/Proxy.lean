import Socks5Proxy.Pam.Effect
import Socks5Proxy.Socks.Isolation
import Socks5Proxy.Socks.Verdict

/-!
# The whole process

SOCKS clients and management clients are served by one selector from one user
store, their events in any order.
-/

namespace Socks5Proxy

open Library

/-! ## State and events -/

/-- What belongs to one management connection alone. -/
structure Manager where
  address : ℕ
  conn : Pam
  freed : Bool
  log : List PamAction
  deriving Inhabited

/-- What `pam_new` returns for a new client. -/
def newManager (a : PamAccepted) : Manager where
  address := a.address
  conn := pamNew a.raw a.clientFd
  freed := false
  log := []

/-- The SOCKS side with the shared selector and metrics, the user store, and
every management connection set up so far. -/
structure Proxy where
  server : Server
  users : UserStore
  managers : List Manager
  deriving Inhabited

/-- The store the callback reads is this one. -/
def Event.withUsers (users : UserStore) : Event → Event
  | .read fd env => .read fd { env with users := users }
  | .write fd env => .write fd { env with users := users }
  | .block fd env => .block fd { env with users := users }
  | .resolved result => .resolved result
  | .connectFinished errno => .connectFinished errno

def ServerEvent.withUsers (users : UserStore) : ServerEvent → ServerEvent
  | .acceptFails => .acceptFails
  | .accept malloc a => .accept malloc a
  | .connection i e => .connection i (e.withUsers users)

/-- An event of the SOCKS side; `pam_passive_accept` behind `accept` and
`selector_fd_set_nio`, where `malloc` is the one of `pam_new`; a callback of the
management connection at `i`. -/
inductive ProxyEvent
  | socks (e : ServerEvent)
  | pamAccept (malloc : Bool) (a : PamAccepted)
  | manager (i : ℕ) (e : PamEvent) (own : e.Own)

namespace Proxy

/-- `main` when it begins to serve. -/
def start (sel : FdSelector FdHandler ℕ) (users : UserStore) : Proxy where
  server := .start sel
  users := users
  managers := []

/-- One management connection with the state its callbacks share. -/
def session (p : Proxy) (m : Manager) : PamSession where
  sel := p.server.sel
  address := m.address
  conn := m.conn
  users := p.users
  metrics := p.server.metrics
  freed := m.freed
  log := m.log

/-- What an event of the management connection at `i` leaves. -/
def resume (p : Proxy) (i : ℕ) (s : PamSession) : Proxy where
  server := { p.server with sel := s.sel, metrics := s.metrics }
  users := s.users
  managers := p.managers.set i
    { address := s.address
      conn := s.conn
      freed := s.freed
      log := s.log }

/-- `pam_passive_accept` from `pam_new` on. -/
def pamAccept (p : Proxy) (malloc : Bool) (a : PamAccepted) : Proxy :=
  if malloc = false then
    p
  else
    match selectorRegister p.server.sel a.clientFd (some .pamHandler) .opRead (some a.address)
      a.alloc with
    | (sel, .success) =>
      { p with
        server := { p.server with sel := sel }
        managers := p.managers ++ [newManager a] }
    | (sel, _) => { p with server := { p.server with sel := sel } }

end Proxy

def proxyStep (bufferSize : ℕ) (p : Proxy) : ProxyEvent → Except Fault Proxy
  | .socks e =>
    (serverStep bufferSize p.server (e.withUsers p.users)).map fun v => { p with server := v }
  | .pamAccept malloc a => .ok (p.pamAccept malloc a)
  | .manager i e _ =>
    match p.managers[i]? with
    | none => .ok p
    | some m => (pamStep (p.session m) e).map (p.resume i)

/-- The events that can happen: the kernel hands out no descriptor that is
open, the allocator no record that a registration carries, and the selector
dispatches what is registered. -/
def ProxyHappens (p : Proxy) : ProxyEvent → Prop
  | .socks e => ServerHappens p.server (e.withUsers p.users)
  | .pamAccept malloc a => malloc = true → (∀ fd, p.server.sel.dataOf fd ≠ some a.address) ∧
      ∀ (i : ℕ) c, p.server.connections[i]? = some c → c.conn.closed = false →
        a.clientFd ≠ c.conn.originFd
  | .manager i e _ => ∀ m, p.managers[i]? = some m → PamEnabled (p.session m) e

/-! ## What every run keeps -/

/-- Every descriptor and every live record belongs to one client, whichever
protocol it speaks. -/
structure ProxyDivided (p : Proxy) : Prop where
  server : Divided p.server
  intact : ∀ (i : ℕ) m, p.managers[i]? = some m → PamIntact (p.session m)
  addresses : ∀ (i j : ℕ) m n, i ≠ j → p.managers[i]? = some m → p.managers[j]? = some n →
    m.freed = false → n.freed = false → n.address ≠ m.address
  foreign : ∀ (i : ℕ) m, p.managers[i]? = some m → m.freed = false →
    ∀ (j : ℕ) c, p.server.connections[j]? = some c → c.conn.closed = false →
      m.address ≠ c.address

section Intact

variable {s t : PamSession}

theorem item_of_registration {η δ : Type} {sel : FdSelector η δ} {fd : ℤ} {item : Item η δ}
    (h : sel.registration fd = some item) : sel.item fd = item := by
  unfold FdSelector.registration at h
  split_ifs at h
  exact Option.some.inj h

/-- What a management connection keeps is about its own part of the selector. -/
theorem PamIntact.of_ownedBy (h : PamIntact s)
    (hown : s.freed = false → t.sel.ownedBy s.address = s.sel.ownedBy s.address)
    (haddress : t.address = s.address) (hconn : t.conn = s.conn) (hfreed : t.freed = s.freed) :
    PamIntact t := by
  rcases h with hgone | hsound
  · exact .inl (hfreed.trans hgone)
  · have hown := hown hsound.freed
    obtain ⟨item, hitem⟩ := dataOf_eq_some_iff_ownedBy.mp hsound.registered.owns
    have hitem' := hitem
    rw [← hown] at hitem'
    refine .inr ⟨hfreed.trans hsound.freed, ⟨?_, ?_, ?_⟩, ?_, ?_⟩
    · rw [hconn, haddress]
      exact dataOf_eq_some_iff_ownedBy.mpr ⟨item, hitem'⟩
    · intro fd hfd
      rw [haddress] at hfd
      rw [hconn]
      exact hsound.registered.only fd (dataOf_of_ownedBy hown.symm hfd).1
    · have hhandler := hsound.registered.handler
      rw [item_of_registration (ownedBy_eq_some_iff.mp hitem).1] at hhandler
      rw [hconn, item_of_registration (ownedBy_eq_some_iff.mp hitem').1]
      exact hhandler
    · rw [hconn]
      exact hsound.limit
    · unfold PamSession.state
      rw [hconn]
      refine hsound.phase.imp_right fun hrequest => ⟨hrequest.1, ?_⟩
      obtain ⟨hreserved, hphase⟩ := hrequest.2
      refine ⟨by rw [hconn]; exact hreserved, ?_⟩
      rw [hconn]
      refine hphase.imp_left fun hawaits => ?_
      exact ⟨by rw [hconn]; exact hawaits.state, by rw [hconn]; exact hawaits.reserved,
        by rw [hconn]; exact hawaits.empty, by rw [hconn]; exact hawaits.space⟩

theorem PamGatePhase.of_interestOf (h : PamGatePhase s)
    (hinterest : t.sel.interestOf s.conn.clientFd = s.sel.interestOf s.conn.clientFd)
    (hconn : t.conn = s.conn) (hlog : t.log = s.log) : PamGatePhase t := by
  have hstate : t.state = s.state := by
    unfold PamSession.state
    rw [hconn]
  rcases h with ⟨hs, hread, hcalls⟩ | ⟨hstm, hwrite, hanswered⟩ | ⟨hs, hauthenticated⟩
  · refine .reading (hstate.trans hs) ?_ ?_
    · rw [hconn]
      exact hinterest.trans hread
    · rw [hlog]
      exact hcalls
  · refine .answered ?_ ?_ ?_
    · rw [hconn]
      exact hstm
    · rw [hconn]
      exact hinterest.trans hwrite
    · refine hanswered.persists ?_ ?_ ?_
      · rw [hconn]
      · exact hlog ▸ List.prefix_rfl
      · rw [hlog]
        exact fun _ _ _ hcall => hcall
  · refine .accepted (hstate.trans hs) (hauthenticated.persists ?_ ?_)
    · exact hlog ▸ List.prefix_rfl
    · rw [hconn]

/-- So is the gate. -/
theorem PamGateInvariant.of_ownedBy (h : PamGateInvariant s)
    (hown : s.freed = false → t.sel.ownedBy s.address = s.sel.ownedBy s.address)
    (haddress : t.address = s.address) (hconn : t.conn = s.conn) (hfreed : t.freed = s.freed)
    (hlog : t.log = s.log) : PamGateInvariant t := by
  refine ⟨h.intact.of_ownedBy hown haddress hconn hfreed, ?_⟩
  intro hopen
  rw [hfreed] at hopen
  rcases h.intact with hgone | hsound
  · rw [hopen] at hgone
    cases hgone
  · refine (h.phase hopen).of_interestOf ?_ hconn hlog
    exact (dataOf_of_ownedBy (hown hopen) hsound.registered.owns).2

end Intact

/-! ### One event -/

/-- What an event is to the manager at `j`. -/
inductive ManagerAfter (p p' : Proxy) (e : ProxyEvent) (j : ℕ) (m : Manager) : Prop
  | moved {old : Manager} {e' : PamEvent} {own : e'.Own} (he : e = .manager j e' own)
      (hm : p.managers[j]? = some old) (hstep : pamStep (p.session old) e' = .ok (p'.session m))
  | accepted {a : PamAccepted} (he : e = .pamAccept true a) (hj : j = p.managers.length)
      (haccept : pamPassiveAccept p.server.sel p.users p.server.metrics a = some (p'.session m))
  | kept (hm : p.managers[j]? = some m) (hown : m.freed = false →
      p'.server.sel.ownedBy m.address = p.server.sel.ownedBy m.address)

section Step

variable {bufferSize : ℕ} {p p' : Proxy} {e : ProxyEvent} {m n : Manager} {i j : ℕ}
  {a : PamAccepted} {c : Connection} {malloc : Bool} {e' : PamEvent} {own : e'.Own}

theorem proxyStep_socks_ok {e : ServerEvent} (hstep : proxyStep bufferSize p (.socks e) = .ok p') :
    ∃ v, serverStep bufferSize p.server (e.withUsers p.users) = .ok v ∧
      p' = { p with server := v } := by
  rw [proxyStep] at hstep
  rcases hv : serverStep bufferSize p.server (e.withUsers p.users) with fault | v
  · rw [hv] at hstep
    cases hstep
  · rw [hv] at hstep
    exact ⟨v, rfl, (Except.ok.inj hstep).symm⟩

theorem proxyStep_manager_ok (hstep : proxyStep bufferSize p (.manager i e' own) = .ok p') :
    p.managers[i]? = none ∧ p' = p ∨
      ∃ m s, p.managers[i]? = some m ∧ pamStep (p.session m) e' = .ok s ∧ p' = p.resume i s := by
  rw [proxyStep] at hstep
  rcases hm : p.managers[i]? with _ | m
  · rw [hm] at hstep
    exact .inl ⟨rfl, (Except.ok.inj hstep).symm⟩
  · rw [hm] at hstep
    dsimp only at hstep
    rcases hs : pamStep (p.session m) e' with fault | s
    · rw [hs] at hstep
      cases hstep
    · rw [hs] at hstep
      exact .inr ⟨m, s, rfl, hs, (Except.ok.inj hstep).symm⟩

/-- The manager is accepted, or nothing changes. -/
theorem Proxy.pamAccept_cases (htable : fdSetsize < p.server.sel.fds.length) (malloc : Bool)
    (a : PamAccepted) :
    malloc = true ∧ invalidFd a.clientFd = false ∧ p.server.sel.interestOf a.clientFd = none ∧
        p.pamAccept malloc a =
          { p with
            server :=
              { p.server with
                sel := (selectorRegister p.server.sel a.clientFd (some .pamHandler) .opRead
                  (some a.address) a.alloc).1 }
            managers := p.managers ++ [newManager a] } ∨
      p.pamAccept malloc a = p := by
  rcases malloc with _ | _
  · exact .inr rfl
  · unfold Proxy.pamAccept
    rw [if_neg (by decide)]
    rcases selectorRegister_refuses_or_enters htable a.clientFd .opRead .pamHandler
      (some a.address) a.alloc with ⟨status, hne, -, heq⟩ | ⟨hvalid, hfree, hsuccess⟩
    · rw [heq]
      right
      cases status with
      | success => exact absurd rfl hne
      | _ => rfl
    · left
      refine ⟨rfl, hvalid, registration_eq_none_iff.mp hfree, ?_⟩
      generalize selectorRegister p.server.sel a.clientFd (some .pamHandler) .opRead
        (some a.address) a.alloc = r at hsuccess ⊢
      obtain ⟨sel, status⟩ := r
      cases hsuccess
      rfl

theorem Proxy.resume_cases {s : PamSession} (hm : p.managers[i]? = some m)
    (hn : (p.resume i s).managers[j]? = some n) :
    j = i ∧ (p.resume i s).session n = s ∨ j ≠ i ∧ p.managers[j]? = some n := by
  by_cases hij : i = j
  · subst hij
    have hlt : i < p.managers.length := (List.getElem?_eq_some_iff.mp hm).1
    rw [Proxy.resume, List.getElem?_set_self hlt, Option.some.injEq] at hn
    subst hn
    exact .inl ⟨rfl, rfl⟩
  · rw [Proxy.resume, List.getElem?_set_ne hij] at hn
    exact .inr ⟨fun heq => hij heq.symm, hn⟩

namespace ProxyDivided

theorem sound (h : ProxyDivided p) (hm : p.managers[i]? = some m) (hopen : m.freed = false) :
    PamSound (p.session m) := by
  refine (h.intact i m hm).resolve_left fun hgone => ?_
  change m.freed = true at hgone
  rw [hopen] at hgone
  cases hgone

/-- A live manager has registered its client. -/
theorem owns (h : ProxyDivided p) (hm : p.managers[i]? = some m) (hopen : m.freed = false) :
    p.server.sel.dataOf m.conn.clientFd = some m.address :=
  (h.sound hm hopen).registered.owns

/-- A manager that has moved was there before, with the same record. -/
theorem moved (h : ProxyDivided p) (hm : p.managers[i]? = some m)
    (he : ProxyHappens p (.manager i e' own)) {s : PamSession}
    (hs : pamStep (p.session m) e' = .ok s) :
    m.freed = false ∧ PamEffect (p.session m) s :=
  pamStep_effect (h.intact i m hm) (he m hm) own hs

/-- The other parties keep their parts of the selector. -/
theorem ownedBy_moved {s : PamSession} (h : ProxyDivided p) (hm : p.managers[i]? = some m)
    (hopen : m.freed = false) (heffect : PamEffect (p.session m) s) {b : ℕ} (hb : b ≠ m.address) :
    s.sel.ownedBy b = p.server.sel.ownedBy b := by
  obtain ⟨item, hitem, hdata⟩ := dataOf_eq_some_iff.mp (h.owns hm hopen)
  funext fd
  by_cases hfd : fd = m.conn.clientFd
  · rw [hfd]
    have hbefore : p.server.sel.ownedBy b m.conn.clientFd = none := by
      rw [FdSelector.ownedBy, hitem]
      exact Option.filter_some_neg (by simpa [hdata] using hb.symm)
    rw [hbefore]
    rcases hafter : s.sel.ownedBy b m.conn.clientFd with _ | new
    · rfl
    · obtain ⟨hnew, hnewdata⟩ := ownedBy_eq_some_iff.mp hafter
      obtain ⟨old, hold, hsame⟩ := heffect.own new hnew
      have heq : item = old := Option.some.inj (hitem.symm.trans hold)
      rw [hsame, ← heq, hdata, Option.some.injEq] at hnewdata
      exact absurd hnewdata.symm hb
  · exact ownedBy_congr (heffect.others fd hfd)

/-- What each manager of a later moment has been through. -/
theorem managerAfter (h : ProxyDivided p) (he : ProxyHappens p e)
    (hstep : proxyStep bufferSize p e = .ok p') (hm : p'.managers[j]? = some m) :
    ManagerAfter p p' e j m := by
  rcases e with e | ⟨malloc, a⟩ | ⟨i, e', own⟩
  · obtain ⟨v, hv, rfl⟩ := proxyStep_socks_ok hstep
    refine .kept hm fun hopen => ?_
    exact h.server.ownedBy_next he (h.foreign j m hm hopen) (h.owns hm hopen) hv
  · rw [← Except.ok.inj hstep] at hm ⊢
    rcases p.pamAccept_cases h.server.table malloc a with ⟨rfl, hvalid, hfree, heq⟩ | heq
    · rw [heq] at hm ⊢
      rcases getElem?_concat_cases hm with hold | ⟨hj, rfl⟩
      · refine .kept hold fun hopen => ?_
        funext fd
        refine (ownedBy_entered h.server.table hvalid hfree).trans (if_neg ?_)
        rintro ⟨-, hsame⟩
        exact (he rfl).1 m.conn.clientFd ((h.owns hold hopen).trans (congrArg some hsame))
      · refine .accepted rfl hj ?_
        have hsuccess : (selectorRegister p.server.sel a.clientFd (some .pamHandler) .opRead
            (some a.address) a.alloc).2 = .success :=
          (selectorRegister_enters_iff h.server.table).mpr
            ⟨hvalid, registration_eq_none_iff.mpr hfree⟩
        unfold pamPassiveAccept Proxy.session newManager
        generalize selectorRegister p.server.sel a.clientFd (some .pamHandler) .opRead
          (some a.address) a.alloc = r at hsuccess ⊢
        obtain ⟨sel, status⟩ := r
        cases hsuccess
        rfl
    · rw [heq] at hm ⊢
      exact .kept hm fun _ => rfl
  · rcases proxyStep_manager_ok hstep with ⟨-, rfl⟩ | ⟨old, s, hold, hs, rfl⟩
    · exact .kept hm fun _ => rfl
    · obtain ⟨hopen, heffect⟩ := h.moved hold he hs
      rcases Proxy.resume_cases hold hm with ⟨rfl, hsession⟩ | ⟨hne, hkept⟩
      · rw [← hsession] at hs
        exact .moved rfl hold hs
      · refine .kept hkept fun hlive => ?_
        exact h.ownedBy_moved hold hopen heffect
          (h.addresses i j old m hne.symm hold hkept hopen hlive)

/-- A live manager has been there before, or it is the one just accepted. -/
theorem manager_address (h : ProxyDivided p) (he : ProxyHappens p e)
    (hstep : proxyStep bufferSize p e = .ok p') (hm : p'.managers[j]? = some m)
    (hlive : m.freed = false) :
    (∃ old, p.managers[j]? = some old ∧ old.freed = false ∧ m.address = old.address) ∨
      ∃ a, e = .pamAccept true a ∧ j = p.managers.length ∧ m.address = a.address := by
  rcases h.managerAfter he hstep hm with ⟨rfl, hold, hs⟩ | ⟨rfl, hj, haccept⟩ | ⟨hold, -⟩
  · obtain ⟨hopen, heffect⟩ := h.moved hold he hs
    exact .inl ⟨_, hold, hopen, heffect.address⟩
  · exact .inr ⟨_, rfl, hj, congrArg PamSession.address (pamPassiveAccept_eq haccept).2⟩
  · exact .inl ⟨m, hold, hlive, rfl⟩

theorem connection_address (h : ProxyDivided p) (he : ProxyHappens p e)
    (hstep : proxyStep bufferSize p e = .ok p') (hc : p'.server.connections[j]? = some c)
    (hlive : c.conn.closed = false) :
    (∃ old, p.server.connections[j]? = some old ∧ old.conn.closed = false ∧
        c.address = old.address) ∨
      ∃ a, e = .socks (.accept true a) ∧ c.address = a.address := by
  rcases e with e | ⟨malloc, a⟩ | ⟨i, e', own⟩
  · obtain ⟨v, hv, rfl⟩ := proxyStep_socks_ok hstep
    refine (h.server.address_next he hv hc hlive).imp_right ?_
    rintro ⟨a, ha, haddress⟩
    rcases e with _ | ⟨malloc, a'⟩ | ⟨i, e⟩
    · cases ha
    · cases ha
      exact ⟨_, rfl, haddress⟩
    · cases ha
  · rw [← Except.ok.inj hstep] at hc
    rcases p.pamAccept_cases h.server.table malloc a with ⟨-, -, -, heq⟩ | heq
    · rw [heq] at hc
      exact .inl ⟨c, hc, hlive, rfl⟩
    · rw [heq] at hc
      exact .inl ⟨c, hc, hlive, rfl⟩
  · rcases proxyStep_manager_ok hstep with ⟨-, rfl⟩ | ⟨old, s, -, -, rfl⟩
    · exact .inl ⟨c, hc, hlive, rfl⟩
    · exact .inl ⟨c, hc, hlive, rfl⟩

/-- The connections of the SOCKS side go on sharing the selector. -/
theorem server_next (h : ProxyDivided p) (he : ProxyHappens p e)
    (hstep : proxyStep bufferSize p e = .ok p') : Divided p'.server := by
  rcases e with e | ⟨malloc, a⟩ | ⟨i, e', own⟩
  · obtain ⟨v, hv, rfl⟩ := proxyStep_socks_ok hstep
    exact h.server.next he hv
  · rw [← Except.ok.inj hstep]
    rcases p.pamAccept_cases h.server.table malloc a with ⟨rfl, hvalid, hfree, heq⟩ | heq
    · obtain ⟨hfresh, hunheld⟩ := he rfl
      rw [heq]
      refine h.server.of_ownedBy ?_ rfl ?_ ?_
      · refine lt_of_lt_of_eq h.server.table ?_
        exact (length_fds_selectorRegister_of_table h.server.table).symm
      · intro j c hc hopen
        funext fd
        refine (ownedBy_entered h.server.table hvalid hfree).trans (if_neg fun hboth => ?_)
        exact h.server.address_ne hc hopen hfresh hboth.2
      · intro j c hc hopen item hitem
        have hentered : (selectorRegister p.server.sel a.clientFd (some .pamHandler) .opRead
            (some a.address) a.alloc).1.registration c.conn.originFd = _ :=
          registration_entered h.server.table hvalid hfree
        rw [if_neg (hunheld j c hc hopen).symm] at hentered
        exact h.server.origin j c hc hopen item (hentered.symm.trans hitem)
    · rw [heq]
      exact h.server
  · rcases proxyStep_manager_ok hstep with ⟨-, rfl⟩ | ⟨m, s, hm, hs, rfl⟩
    · exact h.server
    · obtain ⟨hopen, heffect⟩ := h.moved hm he hs
      refine h.server.of_ownedBy (lt_of_lt_of_eq h.server.table heffect.length.symm) rfl ?_ ?_
      · intro j c hc hlive
        exact h.ownedBy_moved hm hopen heffect (h.foreign i m hm hopen j c hc hlive).symm
      · intro j c hc hlive item hitem
        by_cases hfd : c.conn.originFd = m.conn.clientFd
        · -- the manager would have registered the origin of a connection
          obtain ⟨old, hold, hdata⟩ := dataOf_eq_some_iff.mp (h.owns hm hopen)
          rw [← hfd] at hold
          have howner := h.server.origin j c hc hlive old hold
          rw [hdata, Option.some.injEq] at howner
          exact absurd howner (h.foreign i m hm hopen j c hc hlive)
        · refine h.server.origin j c hc hlive item ?_
          exact (heffect.others c.conn.originFd hfd).symm.trans hitem

theorem next (h : ProxyDivided p) (he : ProxyHappens p e)
    (hstep : proxyStep bufferSize p e = .ok p') : ProxyDivided p' := by
  refine ⟨h.server_next he hstep, ?_, ?_, ?_⟩
  · intro j m hm
    rcases h.managerAfter he hstep hm with ⟨rfl, hold, hs⟩ | ⟨rfl, -, haccept⟩ | ⟨hold, hown⟩
    · exact (pamStep_assertion_iff (h.intact j _ hold)).2 _ hs
    · exact pamIntact_of_accept ⟨h.server.table, (he rfl).1⟩ haccept
    · exact (h.intact j m hold).of_ownedBy hown rfl rfl rfl
  · intro i j m n hij hm hn hopen hlive
    rcases h.manager_address he hstep hm hopen with ⟨old, hold, hlive', hsame⟩ |
      ⟨a, rfl, hi, hsame⟩
    · rcases h.manager_address he hstep hn hlive with ⟨old', hold', hlive'', hsame'⟩ |
        ⟨a, rfl, -, hsame'⟩
      · rw [hsame, hsame']
        exact h.addresses i j old old' hij hold hold' hlive' hlive''
      · rw [hsame, hsame']
        intro heq
        exact (he rfl).1 _ ((h.owns hold hlive').trans (congrArg some heq.symm))
    · rcases h.manager_address he hstep hn hlive with ⟨old', hold', hlive'', hsame'⟩ |
        ⟨a', -, hj, -⟩
      · rw [hsame, hsame']
        intro heq
        exact (he rfl).1 _ ((h.owns hold' hlive'').trans (congrArg some heq))
      · exact absurd (hi.trans hj.symm) hij
  · intro i m hm hopen j c hc hlive
    rcases h.manager_address he hstep hm hopen with ⟨old, hold, hlive', hsame⟩ |
      ⟨a, rfl, -, hsame⟩
    · rcases h.connection_address he hstep hc hlive with ⟨old', hold', hlive'', hsame'⟩ |
        ⟨a, rfl, hsame'⟩
      · rw [hsame, hsame']
        exact h.foreign i old hold hlive' j old' hold' hlive''
      · rw [hsame, hsame']
        intro heq
        exact he.2 rfl _ ((h.owns hold hlive').trans (congrArg some heq))
    · rcases h.connection_address he hstep hc hlive with ⟨old', hold', hlive'', hsame'⟩ |
        ⟨a', ha', -⟩
      · rw [hsame, hsame']
        intro heq
        refine (he rfl).1 _ ((h.server.kept j old' hold' hlive'').1.client.trans ?_)
        exact congrArg some heq.symm
      · cases ha'

end ProxyDivided

end Step

end Socks5Proxy

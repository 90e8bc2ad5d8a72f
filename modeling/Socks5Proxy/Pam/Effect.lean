import Socks5Proxy.Pam.Gate
import Socks5Proxy.Shared.Ownership

/-!
# What a management connection does to the server

An event of a management connection touches one registration, its own; it
changes the user store by one call of `users.c` at most, in the name of an
administrator; and it reports a login only if the store accepts the credentials.
-/

namespace Socks5Proxy

open Library

/-- `op`, called in the name of the administrator `requester`, makes `after` of
`before`. -/
structure AdminCall (requester : CString) (op : UserOp) (before after : UserStore) : Prop where
  admin : userIsAdmin before requester.bytes = true
  other : ∀ n, op = .remove n → n ≠ requester
  applied : after = (op.apply before).1

/-- What an event of the management connection `s` leaves of the rest. -/
structure PamEffect (s t : PamSession) : Prop where
  address : t.address = s.address
  clientFd : t.conn.clientFd = s.conn.clientFd
  metrics : t.metrics = s.metrics
  length : t.sel.fds.length = s.sel.fds.length
  others : ∀ fd, fd ≠ s.conn.clientFd → t.sel.registration fd = s.sel.registration fd
  own : ∀ item, t.sel.registration s.conn.clientFd = some item →
    ∃ old, s.sel.registration s.conn.clientFd = some old ∧ item.data = old.data
  log : s.log <+: t.log
  users : t.users = s.users ∨ ∃ op, AdminCall s.requester op s.users t.users
  logins : ∀ username pass, PamAction.authenticate username pass .ok ∈ t.log →
    PamAction.authenticate username pass .ok ∈ s.log ∨
      userAuthenticate s.users username pass = .ok

section Effect

variable {env : PamEnv} {key : SelectorKey} {s t u x : PamSession} {e : PamEvent} {fd : ℤ}
  {st ret : PamState}

theorem registration_selectorClearItem_of_ne {η δ : Type} {sel : FdSelector η δ} {fd fd' : ℤ}
    (hfd : invalidFd fd = false) (hne : fd' ≠ fd) :
    (selectorClearItem sel fd).registration fd' = sel.registration fd' :=
  registration_of_item fun hfd' => item_selectorClearItem_of_ne hfd hfd' hne

namespace PamEffect

/-- A callback that makes no calls but those of a reader or a writer. -/
theorem of_frame (h : PamFrame s t) (hsel : t.sel = s.sel) (husers : t.users = s.users)
    (hcalls : ∀ username pass, PamAction.authenticate username pass .ok ∈ t.log →
      PamAction.authenticate username pass .ok ∈ s.log) : PamEffect s t where
  address := h.address
  clientFd := h.clientFd
  metrics := h.metrics
  length := by rw [hsel]
  others := fun fd _ => by rw [hsel]
  own := by
    intro item hitem
    rw [hsel] at hitem
    exact ⟨item, hitem, rfl⟩
  log := h.log
  users := .inl husers
  logins := fun username pass hlogin => .inl (hcalls username pass hlogin)

/-- Teardown, or a jump, after a callback. -/
theorem setStm (h : PamEffect s t) (stm : Option PamState) :
    PamEffect s { t with conn.stm := stm } :=
  ⟨h.address, h.clientFd, h.metrics, h.length, h.others, h.own, h.log, h.users, h.logins⟩

theorem gone (h : PamEffect s t) (hvalid : invalidFd s.conn.clientFd = false) :
    PamEffect s t.gone where
  address := h.address
  clientFd := h.clientFd
  metrics := h.metrics
  length := by
    have hclear : t.gone.sel.fds.length = t.sel.fds.length := length_fds_selectorClearItem
    rw [hclear]
    exact h.length
  others := by
    intro fd hne
    refine Eq.trans ?_ (h.others fd hne)
    rw [← h.clientFd] at hvalid hne
    exact registration_selectorClearItem_of_ne hvalid hne
  own := by
    intro item hitem
    have hclear : t.gone.sel.registration s.conn.clientFd = none := by
      rw [← h.clientFd]
      exact registration_eq_none_iff.mpr interestOf_selectorClearItem_self
    rw [hclear] at hitem
    cases hitem
  log := h.log.trans ⟨[.free, .close t.conn.clientFd], by
    simp [PamSession.gone, pamClose, PamSession.act]⟩
  users := h.users
  logins := by
    intro username pass hlogin
    refine h.logins username pass ?_
    simpa [PamSession.gone, pamClose, PamSession.act] using hlogin

theorem settle_stop (h : PamEffect s u) (hregistered : PamRegistered u)
    (hret : ret = .error ∨ ret = .done) (ht : pamSettle env key st (u, ret) = .ok t) :
    PamEffect s t := by
  have hvalid : invalidFd s.conn.clientFd = false := by
    rw [← h.clientFd]
    exact invalidFd_of_dataOf hregistered.owns
  have hstm : PamRegistered { u with conn.stm := some ret } :=
    ⟨hregistered.owns, hregistered.only, hregistered.handler⟩
  rw [pamSettle_stop hret, pamDone_of_registered hstm] at ht
  rw [← Except.ok.inj ht]
  exact (h.setStm _).gone hvalid

theorem settle_stay (h : PamEffect s u) (hst : st = .auth ∨ st = .request)
    (ht : pamSettle env key st (u, st) = .ok t) : PamEffect s t := by
  have hlive : st ≠ .error ∧ st ≠ .done := by
    rcases hst with rfl | rfl
    · exact ⟨nofun, nofun⟩
    · exact ⟨nofun, nofun⟩
  rw [pamSettle_stay hlive.1 hlive.2] at ht
  rw [← Except.ok.inj ht]
  exact h.setStm _

/-- The interest of the client is set. -/
theorem setInterest (h : PamEffect s u) (i : FdInterest) :
    PamEffect s (u.setInterest s.conn.clientFd i) where
  address := h.address
  clientFd := h.clientFd
  metrics := h.metrics
  length := length_fds_selectorSetInterest.trans h.length
  others := fun fd hne => (registration_selectorSetInterest_of_ne hne).trans (h.others fd hne)
  own := by
    intro item hitem
    have hset : (u.setInterest s.conn.clientFd i).sel.registration s.conn.clientFd =
        (u.sel.registration s.conn.clientFd).map fun item => { item with interest := i } :=
      registration_selectorSetInterest_self
    rw [hset, Option.map_eq_some_iff] at hitem
    obtain ⟨old, hold, rfl⟩ := hitem
    exact h.own old hold
  log := h.log
  users := h.users
  logins := h.logins

end PamEffect

theorem pamArrived_same (s : PamSession) :
    s.arrived.users = s.users ∧ s.arrived.sel = s.sel ∧ s.arrived.log = s.log := by
  unfold PamSession.arrived
  split
  · exact ⟨rfl, rfl, rfl⟩
  · exact ⟨rfl, rfl, rfl⟩

theorem PamEffect.of_arrived (h : PamEffect s.arrived t) : PamEffect s t := by
  obtain ⟨husers, hsel, hlog⟩ := pamArrived_same s
  have hclient : s.arrived.conn.clientFd = s.conn.clientFd := pamArrived_frame.clientFd
  have hrequester : s.arrived.requester = s.requester := by
    refine requester_congr ?_
    unfold PamSession.arrived
    split
    · rfl
    · rfl
  refine ⟨h.address.trans pamArrived_frame.address, h.clientFd.trans hclient,
    h.metrics.trans pamArrived_frame.metrics, ?_, ?_, ?_, ?_, ?_, ?_⟩
  · rw [h.length, hsel]
  · intro fd hne
    rw [← hclient] at hne
    rw [h.others fd hne, hsel]
  · rw [← hclient, ← hsel]
    exact h.own
  · rw [← hlog]
    exact h.log
  · rw [← husers, ← hrequester]
    exact h.users
  · rw [← husers, ← hlog]
    exact h.logins

theorem PamAuthReading.effect (h : PamAuthReading s.arrived x) : PamEffect s x := by
  obtain ⟨husers, hsel, hlog⟩ := pamArrived_same s
  refine .of_frame (pamArrived_frame.trans h.toPamFrame) (h.registrations.trans hsel)
    (h.users.trans husers) ?_
  intro username pass hlogin
  rcases h.calls _ hlogin with hold | hreceives
  · rw [hlog] at hold
    exact hold
  · exact absurd hreceives id

theorem PamReading.effect (h : PamReading s x) : PamEffect s x := by
  refine .of_frame h.toPamFrame h.registrations h.users ?_
  intro username pass hlogin
  rcases h.calls _ hlogin with hold | hreceives
  · exact hold
  · exact absurd hreceives id

theorem pamSending_effect (s : PamSession) (answer : Option ℕ) :
    PamEffect s (s.sending answer) := by
  rcases answer with _ | k
  · refine .of_frame (pamSending_frame none) rfl rfl ?_
    intro username pass hlogin
    rcases List.mem_append.mp hlogin with hold | hnew
    · exact hold
    · cases List.mem_singleton.mp hnew
  · refine .of_frame (pamSending_frame (some k)) rfl rfl ?_
    intro username pass hlogin
    rcases List.mem_append.mp hlogin with hold | hnew
    · exact hold
    · cases List.mem_singleton.mp hnew

/-- The credentials that are checked are those in the record. -/
theorem pamChecked_effect (h : PamAuthReading s.arrived x) (hfd : key.fd = s.conn.clientFd) :
    PamEffect s (x.checked key) := by
  have heffect := h.effect.setInterest .opWrite
  rw [← hfd] at heffect
  have husers : x.users = s.users := h.users.trans (pamArrived_same s).1
  have hlog : (x.checked key).log = x.log ++ [.authenticate x.conn.username x.conn.pass
    (userAuthenticate x.users x.conn.username x.conn.pass)] := rfl
  refine ⟨heffect.address, heffect.clientFd, heffect.metrics, heffect.length, heffect.others,
    heffect.own, ?_, .inl husers, ?_⟩
  · rw [hlog]
    exact heffect.log.trans (List.prefix_append _ _)
  · intro username pass hlogin
    rw [hlog] at hlogin
    rcases List.mem_append.mp hlogin with hold | hnew
    · exact heffect.logins username pass hold
    · right
      rw [← husers]
      cases hstatus : userAuthenticate x.users x.conn.username x.conn.pass with
      | ok =>
          rw [hstatus] at hnew
          cases List.mem_singleton.mp hnew
          exact hstatus
      | _ =>
          rw [hstatus] at hnew
          cases List.mem_singleton.mp hnew

/-- A request that is handled. -/
theorem pamHandled_effect {buffer : Buffer} (key : SelectorKey) (h : PamReading s x)
    (hhandle : handlePamRequestMethod env x buffer = .ok u) (hfd : key.fd = s.conn.clientFd) :
    PamEffect s (pamRequestAnswer key u).1 := by
  have hframe := h.toPamFrame.trans (pamRequestAnswer_frame hhandle key)
  have hcredentials : x.conn.auth.credentials = s.conn.auth.credentials :=
    congrArg PamAuthSt.credentials h.auth
  have hstore := storeEffect hhandle
  obtain ⟨users, status, nbody, body, rfl⟩ := handlePamRequestMethod_leaving hhandle
  have heffect := h.effect.setInterest .opWrite
  rw [← hfd] at heffect
  have hlog : (pamRequestAnswer key ((x.handling buffer).leaving users status nbody body)).1.log =
      x.log ++ [.handle x.conn.request.method buffer.content] := rfl
  refine ⟨hframe.address, hframe.clientFd, hframe.metrics, heffect.length, heffect.others,
    heffect.own, hframe.log, ?_, ?_⟩
  · rcases hstore with hkept | ⟨op, -, hadmin, hother, happlied⟩
    · exact .inl (hkept.trans h.users)
    · have hrequester : x.requester = s.requester := requester_congr hcredentials
      rw [← requester_bytes, hrequester, h.users] at hadmin
      rw [h.users] at happlied
      refine .inr ⟨op, hadmin, ?_, happlied⟩
      rw [← hrequester]
      exact hother
  · intro username pass hlogin
    rw [hlog] at hlogin
    rcases List.mem_append.mp hlogin with hold | hnew
    · exact h.effect.logins username pass hold
    · cases List.mem_singleton.mp hnew

/-- Everything has been sent, and the other interest is set. -/
theorem pamSent_effect (key : SelectorKey) (answer : Option ℕ) (hfd : key.fd = s.conn.clientFd)
    (i : FdInterest) :
    PamEffect s (({ s.sending answer with
      conn.clientBuffer := bufferReset (s.sending answer).conn.clientBuffer } :
        PamSession).setInterest key.fd i) := by
  have hsending := pamSending_effect s answer
  have hreset : PamEffect s { s.sending answer with
      conn.clientBuffer := bufferReset (s.sending answer).conn.clientBuffer } :=
    ⟨hsending.address, hsending.clientFd, hsending.metrics, hsending.length, hsending.others,
      hsending.own, hsending.log, hsending.users, hsending.logins⟩
  rw [hfd]
  exact hreset.setInterest i

/-! ### One event -/

theorem pamRead_effect (hs : PamSound s) (hfd : fd = s.conn.clientFd)
    (ht : pamRead env ⟨fd, s.address⟩ s = .ok t) : PamEffect s t := by
  rcases hs.phase with hstate | ⟨hstate, hexpects⟩
  · rw [pamRead_auth hstate] at ht
    have hends := pamAuthRead_ends env ⟨fd, s.address⟩ s.arrived
    generalize pamAuthRead env ⟨fd, s.address⟩ s.arrived = r at hends ht
    rcases hends with ⟨x, ret, hx, hret⟩ | ⟨x, hx⟩ | ⟨x, hx, -⟩
    · exact hx.effect.settle_stop
        ((pamArrived_frame.trans hx.toPamFrame).registered hs.registered) hret ht
    · exact hx.effect.settle_stay (.inl rfl) ht
    · exact (pamChecked_effect hx hfd).settle_stay (.inl rfl) ht
  · rw [pamRead_request hstate] at ht
    have hends := pamRequestRead_ends env ⟨fd, s.address⟩ hexpects.reserved hexpects.state
    generalize pamRequestRead env ⟨fd, s.address⟩ s = r at hends ht
    rcases hends with ⟨x, ret, hx, hret, -⟩ | - | ⟨x, hx, -, -⟩ | ⟨x, buffer, hx, -, -⟩
    · exact hx.effect.settle_stop (hx.toPamFrame.registered hs.registered) hret ht
    · cases ht
    · exact hx.effect.settle_stay (.inr rfl) ht
    · rcases hhandle : handlePamRequestMethod env x buffer with fault | u
      · rw [hhandle] at ht
        cases ht
      · rw [hhandle] at ht
        have hhandled := pamHandled_effect ⟨fd, s.address⟩ hx hhandle hfd
        exact hhandled.settle_stay (.inr rfl) ht

theorem pamWrite_effect (hs : PamSound s) (hfd : fd = s.conn.clientFd)
    (ht : pamWrite env ⟨fd, s.address⟩ s = .ok t) : PamEffect s t := by
  rcases hs.phase with hstate | ⟨hstate, -⟩
  · rw [pamWrite_auth hstate] at ht
    have hregistered := pamArrived_frame.registered hs.registered
    have hclient : fd = s.arrived.conn.clientFd := hfd.trans pamArrived_frame.clientFd.symm
    refine PamEffect.of_arrived ?_
    have hends := pamAuthWrite_ends env ⟨fd, s.address⟩ s.arrived
    generalize pamAuthWrite env ⟨fd, s.address⟩ s.arrived = r at hends ht
    rcases hends with - | ⟨k, -, -⟩ | ⟨k, -, -⟩
    · exact (pamSending_effect s.arrived none).settle_stop
        ((pamSending_frame none).registered hregistered) (.inl rfl) ht
    · exact (pamSending_effect s.arrived (some k)).settle_stay (.inl rfl) ht
    · rw [pamSettle_request] at ht
      rw [← Except.ok.inj ht]
      have hsent := pamSent_effect ⟨fd, s.address⟩ (some k) hclient .opRead
      exact ⟨hsent.address, hsent.clientFd, hsent.metrics, hsent.length, hsent.others, hsent.own,
        hsent.log, hsent.users, hsent.logins⟩
  · rw [pamWrite_request hstate] at ht
    have hends := pamRequestWrite_ends env ⟨fd, s.address⟩ s
    generalize pamRequestWrite env ⟨fd, s.address⟩ s = r at hends ht
    rcases hends with - | ⟨k, -, -⟩ | ⟨k, -, -⟩
    · exact (pamSending_effect s none).settle_stop
        ((pamSending_frame none).registered hs.registered) (.inl rfl) ht
    · exact (pamSending_effect s (some k)).settle_stay (.inr rfl) ht
    · exact (pamSent_effect ⟨fd, s.address⟩ (some k) hfd .opNoop).settle_stop
        ((pamSent_frame (some k) fd .opNoop).registered hs.registered) (.inr rfl) ht

/-- An event of a management connection, the selector's own. -/
theorem pamStep_effect (hs : PamIntact s) (henabled : PamEnabled s e) (hown : e.Own)
    (ht : pamStep s e = .ok t) : s.freed = false ∧ PamEffect s t := by
  rcases e with ⟨fd, env⟩ | ⟨fd, env⟩ | ⟨users, metrics⟩
  · rcases hs with hfreed | hsound
    · rw [pamStep, hfreed] at ht
      cases ht
    · rw [pamStep_read hsound.freed] at ht
      exact ⟨hsound.freed, pamRead_effect hsound (hsound.registered.only fd henabled.1) ht⟩
  · rcases hs with hfreed | hsound
    · rw [pamStep, hfreed] at ht
      cases ht
    · rw [pamStep_write hsound.freed] at ht
      exact ⟨hsound.freed, pamWrite_effect hsound (hsound.registered.only fd henabled.1) ht⟩
  · exact absurd hown id

end Effect

end Socks5Proxy

import Socks5Proxy.Socks.CopyFifo
import Socks5Proxy.Socks.Footprint
import Socks5Proxy.Socks.Keeping

/-!
# Connections do not notice each other

The server interleaves the events of its connections in one selector.  Under a
kernel that hands out no descriptor twice and an allocator that hands out no
record twice, each connection does what it would do as the only client of the
server.
-/

namespace Socks5Proxy

open Library

/-! ## The records of COPY -/

/-- In COPY the two records hold the connection's own descriptors. -/
def CopyReady (s : Session) : Prop := s.state = .copy → CopyLinked s

section CopyReady

variable {s t : Session} {env : Env} {key : SelectorKey} {st : SocksV5State}
  {r : Session × SocksV5State}

theorem CopyLinked.of_same (h : CopyLinked s) (hcopy : ∀ side, t.copySt side = s.copySt side)
    (hfd : ∀ side, t.fdOf side = s.fdOf side) : CopyLinked t where
  fd side := by
    rw [hcopy, hfd]
    exact h.fd side
  buffer side := by
    rw [hcopy]
    exact h.buffer side
  otherCopySt side := by
    rw [hcopy]
    exact h.otherCopySt side

theorem CopyLinked.setStm (h : CopyLinked s) (stm : Option SocksV5State) :
    CopyLinked { s with conn.stm := stm } :=
  h.of_same (fun side => by cases side <;> rfl) (fun side => by cases side <;> rfl)

theorem CopyReady.congr (h : CopyReady s) (hconn : t.conn = s.conn) : CopyReady t := by
  intro hcopy
  rw [Session.state, hconn] at hcopy
  refine (h hcopy).of_same (fun side => ?_) (fun side => ?_)
  · unfold Session.copySt
    rw [hconn]
  · unfold Session.fdOf
    rw [hconn]

theorem settle_copyReady (h : st = .copy → CopyLinked r.1) :
    (settle env key st r).conn.closed = true ∨ CopyReady (settle env key st r) := by
  obtain ⟨u, next⟩ := r
  by_cases hstop : next = .error ∨ next = .done
  · left
    rw [settle_stop hstop]
    exact teardown_closed
  · right
    obtain ⟨herror, hdone⟩ := not_or.mp hstop
    intro hcopy
    have hnext : next = .copy := by
      rw [Session.state, settle_stm] at hcopy
      exact hcopy
    subst hnext
    by_cases hst : st = .copy
    · rw [hst, settle_stay herror hdone]
      exact (h hst).setStm _
    · rw [settle_move hst herror hdone]
      exact (socksv5CopyArrival_linked u).setStm _

theorem socksv5CopyRead_linked (h : CopyLinked s) : CopyLinked (socksv5CopyRead env key s).1 := by
  have hcases := socksv5CopyRead_cases env key h
  generalize (socksv5CopyRead env key s).1 = t at hcases ⊢
  generalize (socksv5CopyRead env key s).2 = next at hcases
  cases hcases with
  | full => exact h
  | moved _ _ _ heffect => exact heffect.linked
  | ended _ _ heffect => exact heffect.linked

theorem socksv5CopyWrite_linked (h : CopyLinked s) :
    CopyLinked (socksv5CopyWrite env key s).1 := by
  have hcases := socksv5CopyWrite_cases env key h
  generalize (socksv5CopyWrite env key s).1 = t at hcases ⊢
  generalize (socksv5CopyWrite env key s).2 = next at hcases
  cases hcases with
  | empty => exact h
  | moved _ _ _ heffect => exact heffect.linked
  | ended _ _ heffect => exact heffect.linked

theorem CopyReady.next {e : Event} (h : CopyReady s) (hstep : step s e = .ok t) :
    t.conn.closed = true ∨ CopyReady t := by
  rcases e with ⟨fd, env⟩ | ⟨fd, env⟩ | ⟨fd, env⟩ | result | errno
  · obtain ⟨-, callback, r, hselect, hcall, rfl⟩ := step_read_ok hstep
    refine settle_copyReady ?_
    intro hcopy
    obtain ⟨-, harrived⟩ := arrived_of_some (stm_of_state hcopy (by decide))
    rw [hcopy] at hselect
    rw [harrived] at hcall
    cases hselect
    rw [← Except.ok.inj hcall]
    exact socksv5CopyRead_linked (h hcopy)
  · obtain ⟨-, callback, r, hselect, hcall, rfl⟩ := step_write_ok hstep
    refine settle_copyReady ?_
    intro hcopy
    obtain ⟨-, harrived⟩ := arrived_of_some (stm_of_state hcopy (by decide))
    rw [hcopy] at hselect
    rw [harrived] at hcall
    cases hselect
    rw [← Except.ok.inj hcall]
    exact socksv5CopyWrite_linked (h hcopy)
  · obtain ⟨-, callback, r, u, hselect, hcall, rfl, rfl⟩ := step_block_ok hstep
    have hready : (settle env ⟨fd, s.address⟩ s.state r).conn.closed = true ∨
        CopyReady (settle env ⟨fd, s.address⟩ s.state r) := by
      refine settle_copyReady ?_
      intro hcopy
      rw [hcopy] at hselect
      cases hselect
    exact hready.imp_right fun hready => hready.congr rfl
  · obtain ⟨-, rfl⟩ := step_resolved_ok_iff.mp hstep
    refine .inr fun hcopy => (h hcopy).of_same ?_ ?_
    · exact fun side => by cases side <;> rfl
    · exact fun side => by cases side <;> rfl
  · obtain ⟨-, rfl⟩ := step_connectFinished_ok_iff.mp hstep
    exact .inr fun hcopy => (h hcopy).act _

end CopyReady

/-! ## What the server keeps -/

/-- The live connections share the selector: each descriptor is one
connection's. -/
structure Divided (v : Server) : Prop where
  table : fdSetsize < v.sel.fds.length
  kept : ∀ (i : ℕ) c, v.connections[i]? = some c → c.conn.closed = false →
    Kept (v.session c) ∧ CopyReady (v.session c)
  addresses : ∀ (i j : ℕ) c d, i ≠ j → v.connections[i]? = some c → v.connections[j]? = some d →
    c.conn.closed = false → d.conn.closed = false → d.address ≠ c.address
  origin : ∀ (i : ℕ) c, v.connections[i]? = some c → c.conn.closed = false →
    ∀ item, v.sel.registration c.conn.originFd = some item → item.data = some c.address
  origins : ∀ (i j : ℕ) c d, i ≠ j → v.connections[i]? = some c → v.connections[j]? = some d →
    c.conn.closed = false → d.conn.closed = false → invalidFd c.conn.originFd = false →
      d.conn.originFd ≠ c.conn.originFd

/-- `fd` is registered for somebody else than the connection at `i`, or it is
the origin of another connection. -/
def OfOthers (v : Server) (i : ℕ) (a : ℕ) (fd : ℤ) : Prop :=
  (∃ item, v.sel.registration fd = some item ∧ item.data ≠ some a) ∨
    invalidFd fd = false ∧
      ∃ (j : ℕ) (d : Connection), j ≠ i ∧ v.connections[j]? = some d ∧ d.conn.closed = false ∧
        d.conn.originFd = fd

open Classical in
/-- The descriptors the connection at `i` has nothing to do with. -/
noncomputable def Server.frame (v : Server) (i : ℕ) (a : ℕ) : SelectorFrame FdHandler ℕ :=
  fun fd => if OfOthers v i a fd then some (v.sel.registration fd) else none

/-- `t` is the connection `c` of a server without other connections; after its
teardown only what is its own is compared. -/
structure Alone (v : Server) (c : Connection) (t : Session) : Prop where
  address : t.address = c.address
  conn : t.conn = c.conn
  resolvers : t.resolvers = c.resolvers
  log : t.log = c.log
  own : c.conn.closed = false →
    fdSetsize < t.sel.fds.length ∧ t.sel.registration = v.sel.ownedBy c.address

section Divided

variable {v : Server} {c d : Connection} {i j a : ℕ} {fd : ℤ} {s t : Session}

theorem frame_eq_none_iff : v.frame i a fd = none ↔ ¬ OfOthers v i a fd := by
  unfold Server.frame
  split_ifs with h
  · exact iff_of_false nofun (not_not.mpr h)
  · exact iff_of_true rfl h

theorem frame_eq_some {entry : Option (Item FdHandler ℕ)} (h : v.frame i a fd = some entry) :
    OfOthers v i a fd ∧ entry = v.sel.registration fd := by
  unfold Server.frame at h
  split_ifs at h with hothers
  exact ⟨hothers, (Option.some.inj h).symm⟩

theorem OfOthers.valid (h : OfOthers v i a fd) : invalidFd fd = false := by
  rcases h with ⟨item, hitem, -⟩ | ⟨hvalid, -⟩
  · by_contra hinvalid
    rw [registration_of_invalid (Bool.not_eq_false _ ▸ hinvalid)] at hitem
    cases hitem
  · exact hvalid

namespace Divided

/-- No registration that carries the record of a connection is anybody
else's. -/
theorem not_ofOthers (h : Divided v) (hc : v.connections[i]? = some c)
    (hopen : c.conn.closed = false) (hfd : v.sel.dataOf fd = some c.address) :
    ¬ OfOthers v i c.address fd := by
  obtain ⟨item, hitem, hdata⟩ := dataOf_eq_some_iff.mp hfd
  rintro (⟨item', hitem', hother⟩ | ⟨-, j, d, hne, hd, hlive, rfl⟩)
  · rw [hitem, Option.some.injEq] at hitem'
    rw [hitem'] at hdata
    exact hother hdata
  · have howner := h.origin j d hd hlive item hitem
    rw [hdata, Option.some.injEq] at howner
    exact h.addresses i j c d hne.symm hc hd hopen hlive howner.symm

theorem client_own (h : Divided v) (hc : v.connections[i]? = some c)
    (hopen : c.conn.closed = false) : v.frame i c.address c.conn.clientFd = none :=
  frame_eq_none_iff.mpr (h.not_ofOthers hc hopen (h.kept i c hc hopen).1.client)

theorem origin_own (h : Divided v) (hc : v.connections[i]? = some c)
    (hopen : c.conn.closed = false) : v.frame i c.address c.conn.originFd = none := by
  rw [frame_eq_none_iff]
  rintro (⟨item, hitem, hother⟩ | ⟨hvalid, j, d, hne, hd, hlive, heq⟩)
  · exact hother (h.origin i c hc hopen item hitem)
  · exact h.origins i j c d hne.symm hc hd hopen hlive hvalid heq

/-- What the others have at the places of the frame does not carry the record
of the connection. -/
theorem frame_foreign (h : Divided v) (hc : v.connections[i]? = some c)
    (hopen : c.conn.closed = false) (fd : ℤ) (item : Item FdHandler ℕ)
    (hfd : v.frame i c.address fd = some (some item)) : item.data ≠ some c.address := by
  obtain ⟨hothers, hitem⟩ := frame_eq_some hfd
  intro hdata
  refine h.not_ofOthers hc hopen ?_ hothers
  exact dataOf_eq_some_iff.mpr ⟨item, hitem.symm, hdata⟩

theorem beside (h : Divided v) (hc : v.connections[i]? = some c) (hopen : c.conn.closed = false)
    (ht : Alone v c t) : Beside c.address (v.frame i c.address) (v.session c) t := by
  classical
  obtain ⟨htable, howned⟩ := ht.own hopen
  refine ⟨rfl, ht.address, ht.conn, ht.resolvers, ht.log, ?_, h.client_own hc hopen,
    h.origin_own hc hopen⟩
  refine ⟨h.table, htable, ?_, ?_, ?_⟩
  · refine Splits.of_places (OfOthers v i c.address) ?_ ?_
    · intro fd hothers
      rcases hown : t.sel.registration fd with _ | item
      · rfl
      · rw [howned, ownedBy_eq_some_iff] at hown
        exact absurd hothers
          (h.not_ofOthers hc hopen (dataOf_eq_some_iff.mpr ⟨item, hown⟩))
    · intro fd hothers
      rw [howned]
      change v.sel.registration fd = v.sel.ownedBy c.address fd
      rcases hitem : v.sel.registration fd with _ | item
      · rw [FdSelector.ownedBy, hitem]
        rfl
      · refine (ownedBy_eq_some_iff.mpr ⟨hitem, ?_⟩).symm
        by_contra hdata
        exact hothers (.inl ⟨item, hitem, hdata⟩)
  · intro fd hfd
    obtain ⟨entry, hentry⟩ := Option.ne_none_iff_exists'.mp hfd
    exact (frame_eq_some hentry).1.valid
  · intro fd item hitem
    rw [howned, ownedBy_eq_some_iff] at hitem
    exact hitem.2

end Divided

end Divided

/-! ## What the kernel and the allocator promise -/

/-- No attempt of the event is given `fd`. -/
def OpensOther (fd : ℤ) : Event → Prop
  | .read _ env | .write _ env | .block _ env =>
    ∀ round, (env.attempts round).socket = -1 ∨ fd ≠ (env.attempts round).socket
  | .resolved _ | .connectFinished _ => True

/-- The events of a server whose kernel hands out no descriptor that is open,
and whose allocator hands out no record that a registration still carries. -/
def ServerHappens (v : Server) : ServerEvent → Prop
  | .acceptFails => True
  | .accept malloc a => NewDescriptors v (.accept malloc a) ∧
      (malloc = true → ∀ fd, v.sel.dataOf fd ≠ some a.address)
  | .connection i e => ∀ c, v.connections[i]? = some c → Enabled (v.session c) e ∧
      FreshAt (v.session c) e ∧
      ∀ (j : ℕ) d, j ≠ i → v.connections[j]? = some d → d.conn.closed = false →
        OpensOther d.conn.originFd e

/-- What may happen to a connection that is alone.  A block event may answer
the request of a connection that had the descriptor before. -/
def HappensAlone (s : Session) (e : Event) : Prop :=
  FreshAt s e ∧
    match e with
    | .block fd _ => s.sel.dataOf fd = some s.address
    | e => Enabled s e

section Happens

variable {v : Server} {c d : Connection} {i j : ℕ} {fd : ℤ} {s t : Session} {e : Event} {env : Env}

/-- A descriptor nobody holds is in no frame. -/
theorem frame_of_unheld (a : ℕ) (hfree : fd = -1 ∨ v.sel.registration fd = none ∧
    ∀ (j : ℕ) d, j ≠ i → v.connections[j]? = some d → d.conn.closed = false →
      d.conn.originFd ≠ fd) : v.frame i a fd = none := by
  rw [frame_eq_none_iff]
  intro hothers
  rcases hfree with rfl | ⟨hnone, hunheld⟩
  · exact absurd hothers.valid (by decide)
  · rcases hothers with ⟨item, hitem, -⟩ | ⟨-, j, d, hne, hd, hlive, heq⟩
    · rw [hnone] at hitem
      cases hitem
    · exact hunheld j d hne hd hlive heq

namespace Divided

/-- The event names descriptors of its own connection. -/
theorem ownEvent (h : Divided v) (hc : v.connections[i]? = some c)
    (hopen : c.conn.closed = false) (he : ServerHappens v (.connection i e)) :
    OwnEvent (v.frame i c.address) (v.session c) e := by
  obtain ⟨henabled, hfresh, hother⟩ := he c hc
  have hsockets : ∀ {env : Env} {s : Session}, FreshSockets s env →
      (∀ fd, s.interestOf fd = none → fd = c.conn.originFd ∨ v.sel.registration fd = none) →
      (∀ (j : ℕ) d, j ≠ i → v.connections[j]? = some d → d.conn.closed = false →
        OpensOther d.conn.originFd (.read 0 env)) →
      ∀ round, v.frame i c.address (env.attempts round).socket = none := by
    intro env s hfresh hnone hother round
    rcases hfresh round with hfailed | ⟨hpositive, hunused, -⟩
    · exact frame_of_unheld _ (.inl hfailed)
    · rcases hnone _ hunused with heq | hregistration
      · rw [heq]
        exact h.origin_own hc hopen
      · refine frame_of_unheld _ (.inr ⟨hregistration, ?_⟩)
        intro j d hne hd hlive
        rcases hother j d hne hd hlive round with hfailed | hunheld
        · rw [hfailed] at hpositive
          exact absurd hpositive (by decide)
        · exact hunheld
  have hwhole : ∀ fd, (v.session c).interestOf fd = none →
      fd = c.conn.originFd ∨ v.sel.registration fd = none :=
    fun fd hfd => .inr (registration_eq_none_iff.mpr hfd)
  rcases e with ⟨fd, env⟩ | ⟨fd, env⟩ | ⟨fd, env⟩ | result | errno
  · refine ⟨frame_eq_none_iff.mpr (h.not_ofOthers hc hopen henabled.1), fun hstate => ?_⟩
    exact hsockets (hfresh hstate) hwhole hother
  · refine ⟨frame_eq_none_iff.mpr (h.not_ofOthers hc hopen henabled.1), fun hstate => ?_⟩
    refine hsockets (hfresh hstate) ?_ hother
    -- CONNECT has let go of its old socket
    intro fd hfd
    by_cases heq : fd = c.conn.originFd
    · exact .inl heq
    · right
      rw [registration_eq_none_iff, ← hfd]
      exact (interestOf_selectorUnregister.trans (if_neg heq)).symm
  · refine ⟨frame_eq_none_iff.mpr (h.not_ofOthers hc hopen henabled.1), fun hstate => ?_⟩
    exact hsockets (hfresh hstate) hwhole hother
  · trivial
  · trivial

/-- The connection does in the server what it does alone. -/
theorem sameOutcome (h : Divided v) (hc : v.connections[i]? = some c)
    (hopen : c.conn.closed = false) (he : ServerHappens v (.connection i e))
    (ht : Alone v c t) :
    SameOutcome (Beside c.address (v.frame i c.address)) (step (v.session c) e) (step t e) := by
  have hbeside := h.beside hc hopen ht
  refine step_beside ?_ (h.ownEvent hc hopen he) hbeside
  intro hcopy side
  rw [((h.kept i c hc hopen).2 hcopy).fd side]
  cases side
  · exact hbeside.client
  · exact hbeside.origin

end Divided

/-- Where it finds its registrations, what may happen to the connection in the
server may happen to it alone. -/
theorem Alone.happens (h : Alone v c t) (hpart : t.sel.registration = v.sel.ownedBy c.address)
    (hc : v.connections[i]? = some c) (he : ServerHappens v (.connection i e)) :
    HappensAlone t e := by
  obtain ⟨henabled, hfresh, -⟩ := he c hc
  have hstate : t.state = (v.session c).state := by
    rw [Session.state, h.conn]
    rfl
  have hsame : t.sel.ownedBy c.address = v.sel.ownedBy c.address := by
    funext fd
    rcases hfd : v.sel.ownedBy c.address fd with _ | item
    · rw [FdSelector.ownedBy, hpart, hfd]
      rfl
    · rw [ownedBy_eq_some_iff, hpart]
      exact ⟨hfd, (ownedBy_eq_some_iff.mp hfd).2⟩
  have hdata : ∀ fd, v.sel.dataOf fd = some c.address →
      t.sel.dataOf fd = some t.address ∧ t.interestOf fd = (v.session c).interestOf fd := by
    intro fd hfd
    rw [h.address]
    exact dataOf_of_ownedBy hsame hfd
  have hnone : ∀ fd, (v.session c).interestOf fd = none → t.interestOf fd = none := by
    intro fd hfd
    have hfree : v.sel.registration fd = none := registration_eq_none_iff.mpr hfd
    refine registration_eq_none_iff.mp ?_
    rw [hpart, FdSelector.ownedBy, hfree]
    rfl
  have hclient : t.conn.clientFd = c.conn.clientFd := by rw [h.conn]
  have hsockets : ∀ {env : Env}, FreshSockets (v.session c) env → FreshSockets t env := by
    intro env hfresh round
    rcases hfresh round with hfailed | ⟨hvalid, hunused, hne⟩
    · exact .inl hfailed
    · exact .inr ⟨hvalid, hnone _ hunused, hclient ▸ hne⟩
  rcases e with ⟨fd, env⟩ | ⟨fd, env⟩ | ⟨fd, env⟩ | result | errno
  · obtain ⟨hfd, interest, hinterest, hread⟩ := henabled
    refine ⟨fun hrequest => hsockets (hfresh (hstate.symm.trans hrequest)), (hdata fd hfd).1,
      interest, (hdata fd hfd).2.trans hinterest, hread⟩
  · obtain ⟨hfd, interest, hinterest, hwrite⟩ := henabled
    refine ⟨fun hconnect round => ?_, (hdata fd hfd).1, interest,
      (hdata fd hfd).2.trans hinterest, hwrite⟩
    rcases hfresh (hstate.symm.trans hconnect) round with hfailed | ⟨hvalid, hunused, hne⟩
    · exact .inl hfailed
    · refine .inr ⟨hvalid, ?_, hclient ▸ hne⟩
      -- CONNECT has let go of its old socket, in the server and alone
      rw [Session.interestOf, show (dropOrigin t).sel =
        (selectorUnregisterFdWithoutClosing t.sel t.conn.originFd).1 from rfl,
        interestOf_selectorUnregister, h.conn]
      rw [Session.interestOf, show (dropOrigin (v.session c)).sel =
        (selectorUnregisterFdWithoutClosing v.sel c.conn.originFd).1 from rfl,
        interestOf_selectorUnregister] at hunused
      split_ifs at hunused ⊢
      · rfl
      · exact hnone _ hunused
  · exact ⟨fun hrequest => hsockets (hfresh (hstate.symm.trans hrequest)),
      (hdata fd henabled.1).1⟩
  · refine ⟨trivial, ?_⟩
    change 0 < t.resolvers
    rw [h.resolvers]
    exact henabled
  · refine ⟨trivial, ?_⟩
    change t.conn.closed = false ∧ t.conn.originFd ≠ -1
    rw [h.conn]
    exact henabled

end Happens

/-! ## One event of the server -/

section Kept

variable {s t : Session}

/-- What a connection keeps is about its own part of the selector. -/
theorem Kept.of_ownedBy (h : Kept s) (htable : fdSetsize < t.sel.fds.length)
    (hown : t.sel.ownedBy s.address = s.sel.ownedBy s.address) (haddress : t.address = s.address)
    (hconn : t.conn = s.conn) : Kept t := by
  have hdata : ∀ fd, t.sel.dataOf fd = some t.address →
      s.sel.dataOf fd = some s.address ∧ s.interestOf fd = t.interestOf fd := by
    intro fd hfd
    rw [haddress] at hfd
    exact dataOf_of_ownedBy hown.symm hfd
  have honly : ClientOnly s → ClientOnly t := by
    intro honly fd hfd
    rw [hconn]
    exact honly fd (hdata fd hfd).1
  have hsilent : OthersSilent s → OthersSilent t := by
    intro hsilent fd hfd hne i hi
    rw [hconn] at hne
    exact hsilent fd (hdata fd hfd).1 hne i ((hdata fd hfd).2.trans hi)
  have hin := h.inState
  have hstate : t.state = s.state := by
    rw [Session.state, hconn]
    rfl
  refine ⟨⟨htable, ?_, ?_, ?_⟩, ?_, ?_⟩
  · rw [haddress, hconn]
    exact (dataOf_of_ownedBy hown h.client).1
  · rw [hconn]
    exact h.distinct
  · rw [hconn]
    exact h.settled
  · rw [hconn]
    exact h.isOpen
  · rw [hstate]
    rcases hst : s.state <;> rw [hst] at hin
    · exact honly hin
    · exact honly hin
    · rw [KeepingIn, hconn]
      exact hin.imp_left hsilent
    · rw [KeepingIn, hconn]
      exact hin.imp_left hsilent
    · exact hsilent hin
    · trivial
    · exact hin
    · exact hin

/-- The connections share another selector as well in which each finds its own
part. -/
theorem Divided.of_ownedBy {v w : Server} (h : Divided v) (htable : fdSetsize < w.sel.fds.length)
    (hsame : w.connections = v.connections)
    (hown : ∀ (i : ℕ) c, v.connections[i]? = some c → c.conn.closed = false →
      w.sel.ownedBy c.address = v.sel.ownedBy c.address)
    (horigin : ∀ (i : ℕ) c, v.connections[i]? = some c → c.conn.closed = false →
      ∀ item, w.sel.registration c.conn.originFd = some item → item.data = some c.address) :
    Divided w := by
  refine ⟨htable, ?_, ?_, ?_, ?_⟩
  · intro i c hc hopen
    rw [hsame] at hc
    obtain ⟨hkept, hcopy⟩ := h.kept i c hc hopen
    exact ⟨hkept.of_ownedBy htable (hown i c hc hopen) rfl rfl, hcopy.congr rfl⟩
  · rw [hsame]
    exact h.addresses
  · rw [hsame]
    exact horigin
  · rw [hsame]
    exact h.origins

end Kept

section Resume

variable {v : Server} {c d : Connection} {i j : ℕ} {fd : ℤ} {s t t' : Session} {e : Event}

/-- The session at `i` when the server goes on. -/
theorem Server.resume_cases (hc : v.connections[i]? = some c)
    (hd : (v.resume i s).connections[j]? = some d) :
    j = i ∧ (v.resume i s).session d = s ∨ j ≠ i ∧ v.connections[j]? = some d := by
  by_cases hij : i = j
  · subst hij
    rw [Server.resume_self hc, Option.some.injEq] at hd
    subst hd
    exact .inl ⟨rfl, rfl⟩
  · rw [Server.resume_other hij] at hd
    exact .inr ⟨fun heq => hij heq.symm, hd⟩

namespace Divided

/-- The parts of the others are as they were. -/
theorem resume_ownedBy (h : Divided v) (hc : v.connections[i]? = some c)
    (hopen : c.conn.closed = false) (hd : v.connections[j]? = some d)
    (hlive : d.conn.closed = false) (hne : j ≠ i)
    (hbefore : Beside c.address (v.frame i c.address) (v.session c) t)
    (hafter : Beside c.address (v.frame i c.address) s t') :
    s.sel.ownedBy d.address = v.sel.ownedBy d.address :=
  hbefore.shares.ownedBy_other hafter.shares (h.addresses i j c d hne.symm hc hd hopen hlive)

theorem resume (h : Divided v) (hc : v.connections[i]? = some c) (hopen : c.conn.closed = false)
    (hbefore : Beside c.address (v.frame i c.address) (v.session c) t)
    (hafter : Beside c.address (v.frame i c.address) s t')
    (hnext : s.conn.closed = true ∨ Kept s ∧ CopyReady s) : Divided (v.resume i s) := by
  have hself : ∀ {d}, (v.resume i s).session d = s → d.address = c.address ∧ d.conn = s.conn := by
    intro d hd
    rw [← hafter.here, ← hd]
    exact ⟨rfl, rfl⟩
  have hframe : ∀ {fd}, invalidFd fd = false → (∃ (j : ℕ) (d : Connection), j ≠ i ∧
      v.connections[j]? = some d ∧ d.conn.closed = false ∧ d.conn.originFd = fd) →
      v.frame i c.address fd ≠ none := by
    intro fd hvalid hheld
    rw [Ne, frame_eq_none_iff, not_not]
    exact .inr ⟨hvalid, hheld⟩
  refine ⟨hafter.shares.table, ?_, ?_, ?_, ?_⟩
  · intro j d hd hlive
    rcases Server.resume_cases hc hd with ⟨-, hsession⟩ | ⟨hne, hold⟩
    · rw [hsession]
      rw [(hself hsession).2] at hlive
      rcases hnext with hclosed | hkept
      · rw [hclosed] at hlive
        cases hlive
      · exact hkept
    · obtain ⟨hkept, hcopy⟩ := h.kept j d hold hlive
      refine ⟨hkept.of_ownedBy hafter.shares.table ?_ rfl rfl, hcopy.congr rfl⟩
      exact h.resume_ownedBy (s := s) hc hopen hold hlive hne hbefore hafter
  · intro j k d d' hjk hd hd' hlive hlive'
    rcases Server.resume_cases hc hd with ⟨hj, hsession⟩ | ⟨hj, hold⟩
    · rcases Server.resume_cases hc hd' with ⟨hk, -⟩ | ⟨hk, hold'⟩
      · exact absurd (hj.trans hk.symm) hjk
      · rw [(hself hsession).1]
        exact h.addresses i k c d' hk.symm hc hold' hopen hlive'
    · rcases Server.resume_cases hc hd' with ⟨hk, hsession⟩ | ⟨hk, hold'⟩
      · rw [(hself hsession).1]
        exact h.addresses j i d c hj hold hc hlive hopen
      · exact h.addresses j k d d' hjk hold hold' hlive hlive'
  · intro j d hd hlive item hitem
    rcases Server.resume_cases hc hd with ⟨-, hsession⟩ | ⟨hne, hold⟩
    · rw [(hself hsession).1]
      rw [(hself hsession).2] at hitem
      exact hafter.shares.owned _ item ((hafter.shares.registration hafter.origin).trans hitem)
    · rcases hvalid : invalidFd d.conn.originFd with _ | _
      · obtain ⟨entry, hentry⟩ := Option.ne_none_iff_exists'.mp
          (hframe hvalid ⟨j, d, hne, hold, hlive, rfl⟩)
        have hsame : s.sel.registration d.conn.originFd = v.sel.registration d.conn.originFd :=
          (hafter.shares.splits.of_frame hentry).1.trans
            (hbefore.shares.splits.of_frame hentry).1.symm
        exact h.origin j d hold hlive item (hsame.symm.trans hitem)
      · rw [registration_of_invalid hvalid] at hitem
        cases hitem
  · intro j k d d' hjk hd hd' hlive hlive' hvalid heq
    rcases Server.resume_cases hc hd with ⟨hj, hsession⟩ | ⟨hj, hold⟩
    · rcases Server.resume_cases hc hd' with ⟨hk, -⟩ | ⟨hk, hold'⟩
      · exact absurd (hj.trans hk.symm) hjk
      · rw [(hself hsession).2] at hvalid heq
        exact hframe hvalid ⟨k, d', hk, hold', hlive', heq⟩ hafter.origin
    · rcases Server.resume_cases hc hd' with ⟨hk, hsession⟩ | ⟨hk, hold'⟩
      · rw [(hself hsession).2] at heq
        rw [← heq] at hvalid
        exact hframe hvalid ⟨j, d, hj, hold, hlive, heq.symm⟩ hafter.origin
      · exact h.origins j k d d' hjk hold hold' hlive hlive' hvalid heq

end Divided

theorem Alone.resume_self (hafter : Beside c.address (v.frame i c.address) s t')
    (hforeign : ∀ fd item, v.frame i c.address fd = some (some item) →
      item.data ≠ some c.address) (hsession : (v.resume i s).session d = s) :
    Alone (v.resume i s) d t' := by
  have haddress : d.address = c.address := by
    rw [← hafter.here, ← hsession]
    rfl
  have hconn : d.conn = s.conn := by
    rw [← hsession]
    rfl
  refine ⟨hafter.there.trans haddress.symm, hafter.conn.trans hconn.symm, ?_, ?_, fun _ => ?_⟩
  · rw [hafter.resolvers, ← hsession]
    rfl
  · rw [hafter.log, ← hsession]
    rfl
  · refine ⟨hafter.shares.ownTable, ?_⟩
    rw [haddress]
    exact hafter.shares.ownedBy_self hforeign

theorem Alone.congr (h : Alone v d t) {w : Server}
    (hown : d.conn.closed = false → w.sel.ownedBy d.address = v.sel.ownedBy d.address) :
    Alone w d t := by
  refine ⟨h.address, h.conn, h.resolvers, h.log, ?_⟩
  intro hopen
  rw [hown hopen]
  exact h.own hopen

/-- Every connection is alone in the part of the selector that is its own. -/
theorem Divided.exists_alone (h : Divided v) (c : Connection) : ∃ t, Alone v c t := by
  refine ⟨{ v.session c with sel := v.sel.restrict c.address }, rfl, rfl, rfl, rfl, fun _ => ?_⟩
  refine ⟨?_, registration_restrict⟩
  change fdSetsize < (v.sel.restrict c.address).fds.length
  rw [FdSelector.restrict, List.length_map]
  exact h.table

end Resume

/-! ### Accepting -/

section Accept

variable {bufferSize : ℕ} {v : Server} {sel : FdSelector FdHandler ℕ} {a : Accepted}
  {c d : Connection} {i j : ℕ} {fd : ℤ} {s t : Session}

theorem emptySelector_fresh (a : Accepted) : Fresh emptySelector a where
  table := firstClient_fresh.table
  unused := fun fd => by
    rw [FdSelector.dataOf, emptySelector_item]
    simp [Item.used, Item.blank]

theorem registration_emptySelector : emptySelector.registration fd = none := by
  rw [FdSelector.registration, emptySelector_item]
  simp [Item.used, Item.blank]

/-- The connection that was accepted, as a session. -/
theorem session_accepted (bufferSize : ℕ) (htable : fdSetsize < v.sel.fds.length)
    (hvalid : invalidFd a.clientFd = false) (hfree : v.sel.interestOf a.clientFd = none) :
    socksv5PassiveAccept bufferSize v.sel v.metrics a =
      some ((v.passiveAccept bufferSize true a).session (newConnection bufferSize a)) := by
  have hsuccess := (selectorRegister_success_iff .opRead (some a.address) a.alloc htable).mpr
    ⟨hvalid, hfree⟩
  rw [Server.passiveAccept_of_success hsuccess]
  unfold socksv5PassiveAccept
  generalize selectorRegister v.sel a.clientFd (some .socks5Handler) .opRead (some a.address)
    a.alloc = r at hsuccess ⊢
  obtain ⟨sel, status⟩ := r
  cases hsuccess
  rfl

theorem getElem?_concat_cases {α : Type} {l : List α} {last c : α}
    (h : (l ++ [last])[i]? = some c) : l[i]? = some c ∨ i = l.length ∧ c = last := by
  by_cases hlt : i < l.length
  · rw [List.getElem?_append_left hlt] at h
    exact .inl h
  · rw [List.getElem?_append_right (Nat.not_lt.mp hlt), List.getElem?_singleton] at h
    split_ifs at h with hzero
    exact .inr ⟨by omega, (Option.some.inj h).symm⟩

namespace Divided

/-- No live connection has a record that is new. -/
theorem address_ne {b : ℕ} (h : Divided v) (hc : v.connections[i]? = some c)
    (hopen : c.conn.closed = false) (hfresh : ∀ fd, v.sel.dataOf fd ≠ some b) :
    c.address ≠ b := by
  intro heq
  refine hfresh c.conn.clientFd ?_
  rw [← heq]
  exact (h.kept i c hc hopen).1.client

theorem accept (h : Divided v) (hvalid : invalidFd a.clientFd = false)
    (hfree : v.sel.interestOf a.clientFd = none)
    (hhappens : ServerHappens v (.accept true a)) :
    Divided (v.passiveAccept bufferSize true a) := by
  obtain ⟨hnew, hfresh⟩ := hhappens
  have hfresh := hfresh rfl
  have hkept := passiveAccept_kept (session_accepted bufferSize h.table hvalid hfree)
    ⟨h.table, hfresh⟩
  have hsuccess := (selectorRegister_success_iff .opRead (some a.address) a.alloc h.table).mpr
    ⟨hvalid, hfree⟩
  have hold : ∀ (i : ℕ) c, v.connections[i]? = some c → c.conn.closed = false →
      c.address ≠ a.address ∧ a.clientFd ≠ c.conn.originFd := fun i c hc hopen =>
    ⟨h.address_ne hc hopen hfresh, (hnew c (List.mem_of_getElem? hc) hopen).2⟩
  have hregistration : ∀ fd, (selectorRegister v.sel a.clientFd (some .socks5Handler) .opRead
      (some a.address) a.alloc).1.registration fd = _ :=
    fun _ => registration_entered h.table hvalid hfree
  have hownedBy : ∀ b fd, (selectorRegister v.sel a.clientFd (some .socks5Handler) .opRead
      (some a.address) a.alloc).1.ownedBy b fd = _ :=
    fun _ _ => ownedBy_entered h.table hvalid hfree
  have hlength : (selectorRegister v.sel a.clientFd (some .socks5Handler) .opRead
      (some a.address) a.alloc).1.fds.length = v.sel.fds.length :=
    length_fds_selectorRegister_of_table h.table
  rw [Server.passiveAccept_of_success hsuccess] at hkept ⊢
  generalize (selectorRegister v.sel a.clientFd (some .socks5Handler) .opRead (some a.address)
    a.alloc).1 = sel at hkept hregistration hownedBy hlength ⊢
  have haddress : (newConnection bufferSize a).address = a.address := rfl
  have horigin : (newConnection bufferSize a).conn.originFd = -1 := rfl
  have hstm : (newConnection bufferSize a).conn.stm = none := rfl
  generalize newConnection bufferSize a = last at hkept haddress horigin hstm ⊢
  refine ⟨?_, ?_, ?_, ?_, ?_⟩
  · rw [hlength]
    exact h.table
  · intro i c hc hopen
    rcases getElem?_concat_cases hc with hc' | ⟨-, rfl⟩
    · obtain ⟨hkept, hcopy⟩ := h.kept i c hc' hopen
      refine ⟨hkept.of_ownedBy ?_ ?_ rfl rfl, hcopy.congr rfl⟩
      · exact lt_of_lt_of_eq h.table hlength.symm
      · funext fd
        exact (hownedBy c.address fd).trans (if_neg fun heq => (hold i c hc' hopen).1 heq.2)
    · refine ⟨hkept, ?_⟩
      intro hcopy
      have hgreeting : SocksV5State.greeting = .copy := by
        rw [← hcopy]
        change _ = c.conn.stm.getD .greeting
        rw [hstm]
        rfl
      cases hgreeting
  · intro i j c d hij hc hd hopen hlive
    rcases getElem?_concat_cases hc with hc' | ⟨hi, rfl⟩
    · rcases getElem?_concat_cases hd with hd' | ⟨-, rfl⟩
      · exact h.addresses i j c d hij hc' hd' hopen hlive
      · rw [haddress]
        exact (hold i c hc' hopen).1.symm
    · rcases getElem?_concat_cases hd with hd' | ⟨hj, rfl⟩
      · rw [haddress]
        exact (hold j d hd' hlive).1
      · exact absurd (hi.trans hj.symm) hij
  · intro i c hc hopen item hitem
    rcases getElem?_concat_cases hc with hc' | ⟨-, rfl⟩
    · rw [hregistration, if_neg (hold i c hc' hopen).2.symm] at hitem
      exact h.origin i c hc' hopen item hitem
    · rw [horigin, registration_of_invalid (by decide)] at hitem
      cases hitem
  · intro i j c d hij hc hd hopen hlive hvalid'
    rcases getElem?_concat_cases hc with hc' | ⟨hi, rfl⟩
    · rcases getElem?_concat_cases hd with hd' | ⟨-, rfl⟩
      · exact h.origins i j c d hij hc' hd' hopen hlive hvalid'
      · rw [horigin]
        exact (ne_neg_one_of_valid hvalid').symm
    · rw [horigin] at hvalid'
      exact absurd hvalid' (by decide)

end Divided

/-- The new connection is alone in a selector that was empty before. -/
theorem accepted_alone (htable : fdSetsize < v.sel.fds.length)
    (hvalid : invalidFd a.clientFd = false) (hfree : v.sel.interestOf a.clientFd = none)
    (hfresh : ∀ fd, v.sel.dataOf fd ≠ some a.address) :
    ∃ s, socksv5PassiveAccept bufferSize emptySelector metricsInit a = some s ∧
      Alone (v.passiveAccept bufferSize true a) (newConnection bufferSize a) s := by
  have hsuccess := (selectorRegister_success_iff .opRead (some a.address) a.alloc htable).mpr
    ⟨hvalid, hfree⟩
  have hempty : emptySelector.interestOf a.clientFd = none :=
    registration_eq_none_iff.mp registration_emptySelector
  have hsession := session_accepted (v := .start emptySelector) bufferSize
    (emptySelector_fresh a).table hvalid hempty
  have hsuccess' := (selectorRegister_success_iff .opRead (some a.address) a.alloc
    (emptySelector_fresh a).table).mpr ⟨hvalid, hempty⟩
  refine ⟨_, hsession, rfl, rfl, rfl, rfl, fun _ => ?_⟩
  rw [Server.passiveAccept_of_success hsuccess,
    Server.passiveAccept_of_success (v := .start emptySelector) hsuccess']
  refine ⟨?_, ?_⟩
  · exact lt_of_lt_of_eq (emptySelector_fresh a).table
      (length_fds_selectorRegister_of_table (emptySelector_fresh a).table).symm
  · funext fd
    refine (registration_entered (emptySelector_fresh a).table hvalid hempty).trans ?_
    refine Eq.trans ?_ (ownedBy_entered (b := a.address) htable hvalid hfree).symm
    by_cases hfd : fd = a.clientFd
    · rw [if_pos hfd, if_pos ⟨hfd, rfl⟩]
    · rw [if_neg hfd, if_neg fun heq => hfd heq.1, registration_emptySelector]
      rcases hown : v.sel.ownedBy a.address fd with _ | item
      · rfl
      · exact absurd (dataOf_eq_some_iff_ownedBy.mpr ⟨item, hown⟩) (hfresh fd)

end Accept

/-! ## Runs of the server -/

/-- The event, if it is one of the connection at `i`. -/
def ServerEvent.own (i : ℕ) : ServerEvent → Option Event
  | .connection j e => if j = i then some e else none
  | .acceptFails | .accept _ _ => none

/-- The connection at `i` is alone in `t`. -/
def Tracked (i : ℕ) (v : Server) (t : Session) : Prop :=
  Divided v ∧ ∃ c, v.connections[i]? = some c ∧ Alone v c t

section Run

variable {bufferSize : ℕ} {v v' w : Server} {a : Accepted} {malloc : Bool} {c : Connection}
  {i j : ℕ} {s t : Session} {e : Event} {e' : ServerEvent} {es : List ServerEvent}

theorem open_of_step_ok (hstep : step s e = .ok t) : s.conn.closed = false := by
  by_contra hclosed
  rw [step_of_closed (Bool.not_eq_false _ ▸ hclosed)] at hstep
  cases hstep

/-- An event of a connection, and the same event without the others. -/
theorem Divided.connection (h : Divided v) (hc : v.connections[i]? = some c)
    (he : ServerHappens v (.connection i e)) (ht : Alone v c t)
    (hstep : step (v.session c) e = .ok s) :
    c.conn.closed = false ∧ ∃ t', step t e = .ok t' ∧
      Beside c.address (v.frame i c.address) (v.session c) t ∧
      Beside c.address (v.frame i c.address) s t' ∧ Divided (v.resume i s) := by
  have hopen : c.conn.closed = false := open_of_step_ok hstep
  have hbefore := h.beside hc hopen ht
  have hsame := h.sameOutcome hc hopen he ht
  obtain ⟨hkept, hcopy⟩ := h.kept i c hc hopen
  rw [hstep] at hsame
  refine ⟨hopen, ?_⟩
  generalize step t e = r at hsame
  cases hsame with
  | ok hafter =>
      refine ⟨_, rfl, hbefore, hafter, h.resume hc hopen hbefore hafter ?_⟩
      rcases hkept.next (he c hc).2.1 hstep with hclosed | hkept
      · exact .inl hclosed
      · exact (hcopy.next hstep).imp_right fun hcopy => ⟨hkept, hcopy⟩

theorem serverStep_connection_ok (hstep : serverStep bufferSize v (.connection i e) = .ok v') :
    v.connections[i]? = none ∧ v' = v ∨
      ∃ c s, v.connections[i]? = some c ∧ step (v.session c) e = .ok s ∧ v' = v.resume i s := by
  rw [serverStep] at hstep
  rcases hc : v.connections[i]? with _ | c
  · rw [hc] at hstep
    exact .inl ⟨rfl, (Except.ok.inj hstep).symm⟩
  · rw [hc] at hstep
    dsimp only at hstep
    rcases hs : step (v.session c) e with fault | s
    · rw [hs] at hstep
      cases hstep
    · rw [hs] at hstep
      exact .inr ⟨c, s, rfl, hs, (Except.ok.inj hstep).symm⟩

/-- An accept adds a connection at the end or changes nothing that is divided. -/
theorem Divided.accepted (h : Divided v) (he : ServerHappens v (.accept malloc a)) :
    Divided (v.passiveAccept bufferSize malloc a) ∧
      ∀ (j : ℕ) d t, v.connections[j]? = some d → Alone v d t →
        (v.passiveAccept bufferSize malloc a).connections[j]? = some d ∧
          Alone (v.passiveAccept bufferSize malloc a) d t := by
  by_cases hserved : malloc = true ∧ invalidFd a.clientFd = false ∧
      v.sel.interestOf a.clientFd = none
  · obtain ⟨rfl, hvalid, hfree⟩ := hserved
    refine ⟨h.accept hvalid hfree he, ?_⟩
    intro j d t hd ht
    rw [Server.passiveAccept_of_success
      ((selectorRegister_success_iff .opRead (some a.address) a.alloc h.table).mpr
        ⟨hvalid, hfree⟩)]
    obtain ⟨hj, -⟩ := List.getElem?_eq_some_iff.mp hd
    refine ⟨(List.getElem?_append_left hj).trans hd, ht.congr fun hopen => ?_⟩
    funext fd
    refine (ownedBy_entered h.table hvalid hfree).trans (if_neg fun heq => ?_)
    exact h.address_ne hd hopen (he.2 rfl) heq.2
  · rw [Server.passiveAccept_of_failure h.table hserved]
    refine ⟨h.of_ownedBy h.table rfl (fun _ _ _ _ => rfl) h.origin, ?_⟩
    exact fun j d t hd ht => ⟨hd, ht.congr fun _ => rfl⟩

theorem Divided.next (h : Divided v) (he : ServerHappens v e')
    (hstep : serverStep bufferSize v e' = .ok v') : Divided v' := by
  rcases e' with _ | ⟨malloc, a⟩ | ⟨i, e⟩
  · rw [← Except.ok.inj hstep]
    exact h
  · rw [← Except.ok.inj hstep]
    exact (h.accepted he).1
  · rcases serverStep_connection_ok hstep with ⟨-, rfl⟩ | ⟨c, s, hc, hs, rfl⟩
    · exact h
    · obtain ⟨t, ht⟩ := h.exists_alone c
      obtain ⟨-, -, -, -, -, hnext⟩ := h.connection hc he ht hs
      exact hnext

/-- Whoever is not a connection of the server keeps its part of the selector. -/
theorem Divided.ownedBy_next {b : ℕ} (h : Divided v) (he : ServerHappens v e')
    (hforeign : ∀ (j : ℕ) d, v.connections[j]? = some d → d.conn.closed = false → b ≠ d.address)
    (hheld : v.sel.dataOf fd = some b) (hstep : serverStep bufferSize v e' = .ok v') :
    v'.sel.ownedBy b = v.sel.ownedBy b := by
  rcases e' with _ | ⟨malloc, a⟩ | ⟨i, e⟩
  · rw [← Except.ok.inj hstep]
  · rw [← Except.ok.inj hstep]
    by_cases hserved : malloc = true ∧ invalidFd a.clientFd = false ∧
        v.sel.interestOf a.clientFd = none
    · obtain ⟨rfl, hvalid, hfree⟩ := hserved
      rw [Server.passiveAccept_of_success
        ((selectorRegister_success_iff .opRead (some a.address) a.alloc h.table).mpr
          ⟨hvalid, hfree⟩)]
      funext fd'
      refine (ownedBy_entered h.table hvalid hfree).trans (if_neg ?_)
      rintro ⟨-, rfl⟩
      exact he.2 rfl fd hheld
    · rw [Server.passiveAccept_of_failure h.table hserved]
  · rcases serverStep_connection_ok hstep with ⟨-, rfl⟩ | ⟨c, s, hc, hs, rfl⟩
    · rfl
    · obtain ⟨t, ht⟩ := h.exists_alone c
      obtain ⟨hopen, t', -, hbefore, hafter, -⟩ := h.connection hc he ht hs
      exact hbefore.shares.ownedBy_other hafter.shares (hforeign i c hc hopen)

/-- A live connection has been there before, or it is the one just accepted. -/
theorem Divided.address_next {d : Connection} (h : Divided v) (he : ServerHappens v e')
    (hstep : serverStep bufferSize v e' = .ok v') (hd : v'.connections[j]? = some d)
    (hlive : d.conn.closed = false) :
    (∃ c, v.connections[j]? = some c ∧ c.conn.closed = false ∧ d.address = c.address) ∨
      ∃ a, e' = .accept true a ∧ d.address = a.address := by
  rcases e' with _ | ⟨malloc, a⟩ | ⟨i, e⟩
  · rw [← Except.ok.inj hstep] at hd
    exact .inl ⟨d, hd, hlive, rfl⟩
  · rw [← Except.ok.inj hstep] at hd
    by_cases hserved : malloc = true ∧ invalidFd a.clientFd = false ∧
        v.sel.interestOf a.clientFd = none
    · obtain ⟨rfl, hserves⟩ := hserved
      rw [Server.passiveAccept_of_success
        ((selectorRegister_success_iff .opRead (some a.address) a.alloc h.table).mpr hserves)] at hd
      rcases getElem?_concat_cases hd with hold | ⟨-, rfl⟩
      · exact .inl ⟨d, hold, hlive, rfl⟩
      · exact .inr ⟨a, rfl, rfl⟩
    · rw [Server.passiveAccept_of_failure h.table hserved] at hd
      exact .inl ⟨d, hd, hlive, rfl⟩
  · rcases serverStep_connection_ok hstep with ⟨-, rfl⟩ | ⟨c, s, hc, hs, rfl⟩
    · exact .inl ⟨d, hd, hlive, rfl⟩
    · rcases Server.resume_cases hc hd with ⟨rfl, hsession⟩ | ⟨-, hold⟩
      · obtain ⟨t, ht⟩ := h.exists_alone c
        obtain ⟨hopen, t', -, -, hafter, -⟩ := h.connection hc he ht hs
        refine .inl ⟨c, hc, hopen, ?_⟩
        rw [← hafter.here, ← hsession]
        rfl
      · exact .inl ⟨d, hold, hlive, rfl⟩

/-- A connection changes in its own events only. -/
theorem Divided.connection_next (h : Divided v) (he : ServerHappens v e')
    (hstep : serverStep bufferSize v e' = .ok v') (hc : v.connections[i]? = some c) :
    v'.connections[i]? = some c ∨
      ∃ e s, e' = .connection i e ∧ step (v.session c) e = .ok s ∧ v' = v.resume i s := by
  rcases e' with _ | ⟨malloc, a⟩ | ⟨j, e⟩
  · rw [← Except.ok.inj hstep]
    exact .inl hc
  · obtain ⟨t, ht⟩ := h.exists_alone c
    rw [← Except.ok.inj hstep]
    exact .inl ((h.accepted he).2 i c t hc ht).1
  · rcases serverStep_connection_ok hstep with ⟨-, rfl⟩ | ⟨d, s, hd, hs, rfl⟩
    · exact .inl hc
    · by_cases hij : j = i
      · subst hij
        have heq : d = c := Option.some.inj (hd.symm.trans hc)
        subst heq
        exact .inr ⟨e, s, rfl, hs, rfl⟩
      · exact .inl ((Server.resume_other hij).trans hc)

theorem Divided.start {sel : FdSelector FdHandler ℕ} (htable : fdSetsize < sel.fds.length) :
    Divided (.start sel) := by
  refine ⟨htable, ?_, ?_, ?_, ?_⟩
  · intro i c hc
    cases hc
  · intro i j c d _ hc
    cases hc
  · intro i c hc
    cases hc
  · intro i j c d _ hc
    cases hc

/-- The connections share the selector at every moment of a run. -/
theorem divided_of_run {sel : FdSelector FdHandler ℕ} (htable : fdSetsize < sel.fds.length)
    (hes : Steps (serverStep bufferSize) ServerHappens (.start sel) es)
    (hrun : Library.run (serverStep bufferSize) (.start sel) es = .ok v) : Divided v :=
  run_invariant (fun _ _ _ h he hstep => h.next he hstep) (.start htable) hes hrun

theorem Tracked.own_event (h : Tracked i v t) (he : ServerHappens v e')
    (hown : e'.own i = some e) (hstep : serverStep bufferSize v e' = .ok v') :
    HappensAlone t e ∧ ∃ t', step t e = .ok t' ∧ Tracked i v' t' := by
  obtain ⟨hdivided, c, hc, ht⟩ := h
  rcases e' with _ | ⟨malloc, a⟩ | ⟨j, e'⟩
  · cases hown
  · cases hown
  · rw [ServerEvent.own] at hown
    split_ifs at hown with hij
    subst hij
    cases hown
    rcases serverStep_connection_ok hstep with ⟨hnone, -⟩ | ⟨d, s, hd, hs, rfl⟩
    · rw [hc] at hnone
      cases hnone
    · have heq := Option.some.inj (hc.symm.trans hd)
      subst heq
      obtain ⟨hopen, t', ht', hbefore, hafter, hnext⟩ := hdivided.connection hc he ht hs
      refine ⟨ht.happens (ht.own hopen).2 hc he, t', ht', hnext, _, Server.resume_self hc, ?_⟩
      exact .resume_self hafter (hdivided.frame_foreign hc hopen) rfl

theorem Tracked.other_event (h : Tracked i v t) (he : ServerHappens v e')
    (hown : e'.own i = none) (hstep : serverStep bufferSize v e' = .ok v') : Tracked i v' t := by
  refine ⟨h.1.next he hstep, ?_⟩
  obtain ⟨hdivided, c, hc, ht⟩ := h
  rcases e' with _ | ⟨malloc, a⟩ | ⟨j, e'⟩
  · rw [← Except.ok.inj hstep]
    exact ⟨c, hc, ht⟩
  · rw [← Except.ok.inj hstep]
    exact ⟨c, (hdivided.accepted he).2 i c t hc ht⟩
  · rw [ServerEvent.own] at hown
    split_ifs at hown with hij
    rcases serverStep_connection_ok hstep with ⟨-, rfl⟩ | ⟨d, s, hd, hs, rfl⟩
    · exact ⟨c, hc, ht⟩
    · obtain ⟨t₂, ht₂⟩ := hdivided.exists_alone d
      obtain ⟨hopen, t', -, hbefore, hafter, -⟩ := hdivided.connection hd he ht₂ hs
      refine ⟨c, (Server.resume_other hij).trans hc, ht.congr fun hlive => ?_⟩
      exact hdivided.resume_ownedBy (s := s) hd hopen hc hlive (Ne.symm hij) hbefore hafter

/-- From any moment on, a connection does in the server what its own events
make it do alone. -/
theorem Tracked.run (h : Tracked i v t)
    (hes : Steps (serverStep bufferSize) ServerHappens v es)
    (hrun : Library.run (serverStep bufferSize) v es = .ok v') :
    Steps step HappensAlone t (es.filterMap (ServerEvent.own i)) ∧
      ∃ t', Library.run step t (es.filterMap (ServerEvent.own i)) = .ok t' ∧ Tracked i v' t' :=
  run_projects (fun _ _ _ _ _ h he hown hstep => h.own_event he hown hstep)
    (fun _ _ _ _ h he hown hstep => h.other_event he hown hstep) h hes hrun

/-- `socks5_new` and the registration of the client succeed. -/
def Serves (v : Server) (a : Accepted) : Prop :=
  invalidFd a.clientFd = false ∧ v.sel.interestOf a.clientFd = none

instance (v : Server) (a : Accepted) : Decidable (Serves v a) :=
  inferInstanceAs (Decidable (_ ∧ _))

theorem Tracked.accepted (bufferSize : ℕ) (h : Divided v) (hserves : Serves v a)
    (he : ServerHappens v (.accept true a)) :
    ∃ s, socksv5PassiveAccept bufferSize emptySelector metricsInit a = some s ∧
      Tracked v.connections.length (v.passiveAccept bufferSize true a) s := by
  obtain ⟨hvalid, hfree⟩ := hserves
  obtain ⟨s, hs, halone⟩ := accepted_alone (v := v) h.table hvalid hfree (he.2 rfl)
  refine ⟨s, hs, h.accept hvalid hfree he, _, ?_, halone⟩
  rw [Server.passiveAccept_of_success
    ((selectorRegister_success_iff .opRead (some a.address) a.alloc h.table).mpr ⟨hvalid, hfree⟩)]
  exact List.getElem?_concat_length

/-- An event that makes the list of connections longer is an accept. -/
theorem grows_of_step {n : ℕ} (h : Divided v) (hbefore : ¬ n < v.connections.length)
    (hafter : n < v'.connections.length) (hstep : serverStep bufferSize v e' = .ok v') :
    ∃ a, e' = .accept true a ∧ Serves v a ∧ v' = v.passiveAccept bufferSize true a ∧
      v.connections.length = n := by
  rcases e' with _ | ⟨malloc, a⟩ | ⟨i, e⟩
  · rw [← Except.ok.inj hstep] at hafter
    exact absurd hafter hbefore
  · have hv' := (Except.ok.inj hstep).symm
    by_cases hserved : malloc = true ∧ invalidFd a.clientFd = false ∧
        v.sel.interestOf a.clientFd = none
    · obtain ⟨rfl, hserves⟩ := hserved
      refine ⟨a, rfl, hserves, hv', ?_⟩
      rw [hv', Server.passiveAccept_of_success
        ((selectorRegister_success_iff .opRead (some a.address) a.alloc h.table).mpr hserves),
        List.length_append, List.length_singleton] at hafter
      omega
    · rw [hv', Server.passiveAccept_of_failure h.table hserved] at hafter
      exact absurd hafter hbefore
  · rcases serverStep_connection_ok hstep with ⟨-, rfl⟩ | ⟨c, s, -, -, rfl⟩
    · exact absurd hafter hbefore
    · rw [Server.resume, List.length_set] at hafter
      exact absurd hafter hbefore

/-- Each connection of a server was accepted at some moment. -/
theorem exists_entry {sel : FdSelector FdHandler ℕ} (htable : fdSetsize < sel.fds.length)
    (hes : Steps (serverStep bufferSize) ServerHappens (.start sel) es)
    (hrun : Library.run (serverStep bufferSize) (.start sel) es = .ok v)
    (hi : i < v.connections.length) :
    ∃ before a after u, es = before ++ .accept true a :: after ∧
      Library.run (serverStep bufferSize) (.start sel) before = .ok u ∧
      u.connections.length = i ∧ Serves u a ∧
      Library.run (serverStep bufferSize) (u.passiveAccept bufferSize true a) after = .ok v := by
  obtain ⟨before, e', after, u, w, rfl, hbefore, hstep, hafter, hshort, hlong⟩ :=
    run_enters (Q := fun v : Server => i < v.connections.length) (s := .start sel)
      (Nat.not_lt_zero i) hi hrun
  have hdivided : Divided u := divided_of_run htable hes.init hbefore
  obtain ⟨a, rfl, hserves, rfl, hlength⟩ := grows_of_step hdivided hshort hlong hstep
  exact ⟨before, a, after, u, rfl, hbefore, hlength, hserves, hafter⟩

/-- From its accept on a connection can be followed. -/
theorem exists_accept {sel : FdSelector FdHandler ℕ} (htable : fdSetsize < sel.fds.length)
    (hes : Steps (serverStep bufferSize) ServerHappens (.start sel) es)
    (hrun : Library.run (serverStep bufferSize) (.start sel) es = .ok v)
    (hc : v.connections[i]? = some c) :
    ∃ before a after u s, es = before ++ .accept true a :: after ∧
      Library.run (serverStep bufferSize) (.start sel) before = .ok u ∧
      u.connections.length = i ∧
      socksv5PassiveAccept bufferSize emptySelector metricsInit a = some s ∧
      Steps step HappensAlone s (after.filterMap (ServerEvent.own i)) ∧
      ∃ t, Library.run step s (after.filterMap (ServerEvent.own i)) = .ok t ∧ Tracked i v t := by
  obtain ⟨before, a, after, u, rfl, hbefore, hlength, hserves, hafter⟩ :=
    exists_entry htable hes hrun (List.getElem?_eq_some_iff.mp hc).1
  have hsteps := hes.rest hbefore
  have hdivided : Divided u := divided_of_run htable hes.init hbefore
  obtain ⟨s, hs, htracked⟩ := Tracked.accepted bufferSize hdivided hserves hsteps.1
  rw [hlength] at htracked
  obtain ⟨halone, t, ht, hend⟩ := htracked.run (hsteps.2 _ rfl) hafter
  exact ⟨before, a, after, u, s, rfl, hbefore, hlength, hs, halone, t, ht, hend⟩

/-- Every connection of a server, at every moment of a run, is what its own
events have made of it: the same events would have made the same of it had its
client been the only one. -/
theorem connections_isolated {sel : FdSelector FdHandler ℕ} (htable : fdSetsize < sel.fds.length)
    (hes : Steps (serverStep bufferSize) ServerHappens (.start sel) es)
    (hrun : Library.run (serverStep bufferSize) (.start sel) es = .ok v)
    (hc : v.connections[i]? = some c) :
    ∃ before a after u s t, es = before ++ .accept true a :: after ∧
      Library.run (serverStep bufferSize) (.start sel) before = .ok u ∧
      u.connections.length = i ∧
      socksv5PassiveAccept bufferSize emptySelector metricsInit a = some s ∧
      Steps step HappensAlone s (after.filterMap (ServerEvent.own i)) ∧
      Library.run step s (after.filterMap (ServerEvent.own i)) = .ok t ∧ Alone v c t := by
  obtain ⟨before, a, after, u, s, rfl, hbefore, hlength, hs, halone, t, ht, -, d, hd, hend⟩ :=
    exists_accept htable hes hrun hc
  rw [hc, Option.some.injEq] at hd
  subst hd
  exact ⟨before, a, after, u, s, t, rfl, hbefore, hlength, hs, halone, ht, hend⟩

/-- What the other clients do makes no difference: in two servers a connection
that was accepted alike and has the same events has come to the same, whatever
happened besides. -/
theorem connections_noninterference {sel sel' : FdSelector FdHandler ℕ} {u u' : Server}
    {d : Connection} {before after before' after' : List ServerEvent}
    (htable : fdSetsize < sel.fds.length) (htable' : fdSetsize < sel'.fds.length)
    (hes : Steps (serverStep bufferSize) ServerHappens (.start sel)
      (before ++ .accept true a :: after))
    (hes' : Steps (serverStep bufferSize) ServerHappens (.start sel')
      (before' ++ .accept true a :: after'))
    (hbefore : Library.run (serverStep bufferSize) (.start sel) before = .ok u)
    (hbefore' : Library.run (serverStep bufferSize) (.start sel') before' = .ok u')
    (hserves : Serves u a) (hserves' : Serves u' a)
    (hafter : Library.run (serverStep bufferSize) (u.passiveAccept bufferSize true a) after =
      .ok v)
    (hafter' : Library.run (serverStep bufferSize) (u'.passiveAccept bufferSize true a) after' =
      .ok w)
    (hsame : after'.filterMap (ServerEvent.own u'.connections.length) =
      after.filterMap (ServerEvent.own u.connections.length))
    (hc : v.connections[u.connections.length]? = some c)
    (hd : w.connections[u'.connections.length]? = some d) :
    d = c := by
  have hfollow : ∀ {sel : FdSelector FdHandler ℕ} {u v : Server} {c : Connection}
      {before after : List ServerEvent}, fdSetsize < sel.fds.length →
      Steps (serverStep bufferSize) ServerHappens (.start sel)
        (before ++ .accept true a :: after) →
      Library.run (serverStep bufferSize) (.start sel) before = .ok u → Serves u a →
      Library.run (serverStep bufferSize) (u.passiveAccept bufferSize true a) after = .ok v →
      v.connections[u.connections.length]? = some c →
      ∃ s t, socksv5PassiveAccept bufferSize emptySelector metricsInit a = some s ∧
        Library.run step s (after.filterMap (ServerEvent.own u.connections.length)) = .ok t ∧
        Alone v c t := by
    intro sel u v c before after htable hes hbefore hserves hafter hc
    have hdivided : Divided u := divided_of_run htable hes.init hbefore
    have hsteps := hes.rest hbefore
    obtain ⟨s, hs, htracked⟩ := Tracked.accepted bufferSize hdivided hserves hsteps.1
    obtain ⟨-, t, ht, -, e, he, hend⟩ := htracked.run (hsteps.2 _ rfl) hafter
    rw [hc, Option.some.injEq] at he
    subst he
    exact ⟨s, t, hs, ht, hend⟩
  obtain ⟨s, t, hs, ht, halone⟩ := hfollow htable hes hbefore hserves hafter hc
  obtain ⟨s', t', hs', ht', halone'⟩ := hfollow htable' hes' hbefore' hserves' hafter' hd
  have hstart : s' = s := Option.some.inj (hs'.symm.trans hs)
  subst hstart
  rw [hsame, ht, Except.ok.injEq] at ht'
  subst ht'
  obtain ⟨address, conn, resolvers, log⟩ := c
  obtain ⟨address', conn', resolvers', log'⟩ := d
  have haddress : address' = address := halone'.address.symm.trans halone.address
  have hconn : conn' = conn := halone'.conn.symm.trans halone.conn
  have hresolvers : resolvers' = resolvers := halone'.resolvers.symm.trans halone.resolvers
  have hlog : log' = log := halone'.log.symm.trans halone.log
  rw [haddress, hconn, hresolvers, hlog]

end Run

/-! ### Neighbours -/

theorem opensOther_neg_one (e : Event) : OpensOther (-1) e := by
  have hsocket : ∀ fd : ℤ, fd = -1 ∨ -1 ≠ fd := fun fd => (eq_or_ne fd (-1)).imp_right Ne.symm
  rcases e with ⟨fd, env⟩ | ⟨fd, env⟩ | ⟨fd, env⟩ | result | errno
  · exact fun round => hsocket _
  · exact fun round => hsocket _
  · exact fun round => hsocket _
  · trivial
  · trivial

/-- One more event of the connection at `i`, beside clients that have no
origin. -/
theorem happens_at {es : List ServerEvent} {i : ℕ} {e : Event}
    (hes : Steps (serverStep bufferSizeDefault) ServerHappens (.start emptySelector) es)
    (hrun : (run (serverStep bufferSizeDefault) (.start emptySelector) es).toOption.isSome = true)
    (henabled : Enabled ((serverAfter es).session ((serverAfter es).connections.getD i default)) e)
    (hfresh : FreshAt ((serverAfter es).session ((serverAfter es).connections.getD i default)) e)
    (hidle : ∀ d ∈ (serverAfter es).connections.eraseIdx i, d.conn.originFd = -1) :
    Steps (serverStep bufferSizeDefault) ServerHappens (.start emptySelector)
      (es ++ [.connection i e]) := by
  refine hes.append (run_serverAfter hrun) ⟨?_, fun _ _ => trivial⟩
  intro c hc
  rw [List.getD_eq_getElem?_getD, hc] at henabled hfresh
  refine ⟨henabled, hfresh, ?_⟩
  intro j d hne hd _
  rw [hidle d (List.mem_eraseIdx_iff_getElem?.mpr ⟨j, hne, hd⟩)]
  exact opensOther_neg_one e

theorem twoAccepts_happen :
    Steps (serverStep bufferSizeDefault) ServerHappens (.start emptySelector) twoAccepts := by
  refine ⟨⟨twoAccepts_new.1, fun _ => firstClient_fresh.unused⟩, ?_⟩
  intro v hv
  refine ⟨⟨(twoAccepts_new.2 v hv).1, fun _ fd => ?_⟩, fun _ _ => trivial⟩
  rw [← Except.ok.inj hv, Server.passiveAccept_of_success (by decide +kernel),
    dataOf_selectorRegister (by decide +kernel)]
  split_ifs
  · decide
  · exact (emptySelector_fresh secondClient).unused fd

theorem getElem?_eq_some_getD {α : Type} [Inhabited α] {l : List α} {i : ℕ} (h : i < l.length) :
    l[i]? = some (l.getD i default) := by
  rw [List.getElem?_eq_getElem h, List.getD_eq_getElem _ _ h]

/-- The greetings of the two clients arrive before the first is answered. -/
def greetingsCross : List ServerEvent :=
  twoAccepts ++ [.connection 0 (.read 4 (receives [0x05, 0x01, 0x00]))] ++
    [.connection 1 (.read 6 (receives [0x05, 0x01, 0x00]))] ++ [.connection 0 (.write 4 (sends 2))]

theorem greetingsCross_happen :
    Steps (serverStep bufferSizeDefault) ServerHappens (.start emptySelector) greetingsCross := by
  refine happens_at (happens_at (happens_at twoAccepts_happen ?_ ?_ ?_ ?_) ?_ ?_ ?_ ?_)
    ?_ ?_ ?_ ?_
  · decide +kernel
  · decide +kernel
  · exact freshAt_of_state (by decide +kernel)
  · decide +kernel
  · decide +kernel
  · decide +kernel
  · exact freshAt_of_state (by decide +kernel)
  · decide +kernel
  · decide +kernel
  · decide +kernel
  · exact freshAt_of_state (by decide +kernel)
  · decide +kernel

/-- The first of the two clients might as well have been the only one. -/
theorem connections_isolated_first :
    ∃ before a after u s t, greetingsCross = before ++ .accept true a :: after ∧
      run (serverStep bufferSizeDefault) (.start emptySelector) before = .ok u ∧
      u.connections.length = 0 ∧
      socksv5PassiveAccept bufferSizeDefault emptySelector metricsInit a = some s ∧
      Steps step HappensAlone s (after.filterMap (ServerEvent.own 0)) ∧
      run step s (after.filterMap (ServerEvent.own 0)) = .ok t ∧
      Alone (serverAfter greetingsCross)
        ((serverAfter greetingsCross).connections.getD 0 default) t :=
  connections_isolated firstClient_fresh.table greetingsCross_happen
    (run_serverAfter (by decide +kernel)) (getElem?_eq_some_getD (by decide +kernel))

/-- The first client without the second. -/
def greetingOnly : List ServerEvent :=
  [.accept true firstClient] ++ greetingExchange.map (.connection 0)

theorem greetingOnly_happens :
    Steps (serverStep bufferSizeDefault) ServerHappens (.start emptySelector) greetingOnly := by
  have haccept : Steps (serverStep bufferSizeDefault) ServerHappens (.start emptySelector)
      [.accept true firstClient] := ⟨twoAccepts_happen.1, fun _ _ => trivial⟩
  refine happens_at (happens_at haccept ?_ ?_ ?_ ?_) ?_ ?_ ?_ ?_
  · decide +kernel
  · decide +kernel
  · exact freshAt_of_state (by decide +kernel)
  · decide +kernel
  · decide +kernel
  · decide +kernel
  · exact freshAt_of_state (by decide +kernel)
  · decide +kernel

/-- It has come to the same in both servers. -/
theorem connections_noninterference_first :
    (serverAfter greetingsCross).connections.getD 0 default =
      (serverAfter greetingOnly).connections.getD 0 default := by
  have hstart : Serves (.start emptySelector) firstClient := by decide +kernel
  have hrest : ∀ {es : List ServerEvent} {v : Server},
      run (serverStep bufferSizeDefault) (.start emptySelector) (.accept true firstClient :: es) =
        .ok v →
      run (serverStep bufferSizeDefault)
        ((Server.start emptySelector).passiveAccept bufferSizeDefault true firstClient) es =
          .ok v := by
    intro es v hrun
    obtain ⟨w, hw, hrest⟩ := run_cons_ok_iff.mp hrun
    rw [← Except.ok.inj hw] at hrest
    exact hrest
  have hhappens : Steps (serverStep bufferSizeDefault) ServerHappens (.start emptySelector)
      ([] ++ .accept true firstClient :: greetingOnly.tail) := greetingOnly_happens
  have hhappens' : Steps (serverStep bufferSizeDefault) ServerHappens (.start emptySelector)
      ([] ++ .accept true firstClient :: greetingsCross.tail) := greetingsCross_happen
  have honly : run (serverStep bufferSizeDefault)
      ((Server.start emptySelector).passiveAccept bufferSizeDefault true firstClient)
      greetingOnly.tail = .ok (serverAfter greetingOnly) :=
    hrest (run_serverAfter (by decide +kernel))
  have hcross : run (serverStep bufferSizeDefault)
      ((Server.start emptySelector).passiveAccept bufferSizeDefault true firstClient)
      greetingsCross.tail = .ok (serverAfter greetingsCross) :=
    hrest (run_serverAfter (by decide +kernel))
  exact connections_noninterference firstClient_fresh.table firstClient_fresh.table hhappens
    hhappens' (run_nil _) (run_nil _) hstart hstart honly hcross rfl
    (getElem?_eq_some_getD (by decide +kernel)) (getElem?_eq_some_getD (by decide +kernel))

end Socks5Proxy

import Socks5Proxy.Shared.Ownership
import Socks5Proxy.Socks.ConnectionCount

/-!
# What a callback finds in the shared selector

The callbacks of a connection share the selector and the metrics with every
other connection.  Here two sessions are compared that have the connection in
common: one in the server's selector, and one in a selector that has the
connection's own registrations alone.  As long as the descriptors the callback
names do not belong to others, it does the same in both, and the registrations
of the others stay as they were.
-/

namespace Socks5Proxy

open Library

/-! ## Results compared -/

/-- The same fault, or results related by `R`. -/
inductive SameOutcome {α β : Type} (R : α → β → Prop) : Except Fault α → Except Fault β → Prop
  | fault (fault : Fault) : SameOutcome R (.error fault) (.error fault)
  | ok {a : α} {b : β} (h : R a b) : SameOutcome R (.ok a) (.ok b)

/-- Two blocks return the same state in related sessions, or both fall through. -/
inductive Block.Same {σ σ' τ τ' ρ : Type} (R : σ → σ' → Prop) (Q : τ → τ' → Prop) :
    Block σ τ ρ → Block σ' τ' ρ → Prop
  | returned {s : σ} {t : σ'} (ret : ρ) (h : R s t) : Same R Q (.returned s ret) (.returned t ret)
  | next {x : τ} {y : τ'} (h : Q x y) : Same R Q (.next x) (.next y)

theorem Block.Same.andThen {σ σ' τ τ' υ υ' ρ : Type} {R : σ → σ' → Prop} {Q : τ → τ' → Prop}
    {P : υ → υ' → Prop} {b : Block σ τ ρ} {b' : Block σ' τ' ρ} {f : τ → Block σ υ ρ}
    {f' : τ' → Block σ' υ' ρ} (hb : b.Same R Q b') (hf : ∀ x y, Q x y → (f x).Same R P (f' y)) :
    (b.andThen f).Same R P (b'.andThen f') := by
  cases hb with
  | returned ret h => exact .returned ret h
  | next h => exact hf _ _ h

/-! ## Sessions compared -/

/-- `t` is the connection of `s`, whose record is at `a`, in a selector without
the registrations of the frame; the connection's descriptors are not in the
frame. -/
structure Beside (a : ℕ) (frame : SelectorFrame FdHandler ℕ) (s t : Session) : Prop where
  here : s.address = a
  there : t.address = a
  conn : t.conn = s.conn
  resolvers : t.resolvers = s.resolvers
  log : t.log = s.log
  shares : Shares a frame s.sel t.sel
  client : frame s.conn.clientFd = none
  origin : frame s.conn.originFd = none

/-- Two callbacks return the same state. -/
def BesideResult (a : ℕ) (frame : SelectorFrame FdHandler ℕ)
    (r r' : Session × SocksV5State) : Prop :=
  r'.2 = r.2 ∧ Beside a frame r.1 r'.1

section Basic

variable {a : ℕ} {frame : SelectorFrame FdHandler ℕ} {s t : Session} {fd : ℤ}

namespace Beside

theorem setConn (h : Beside a frame s t) (c : Socks5) (hclient : c.clientFd = s.conn.clientFd)
    (horigin : frame c.originFd = none) :
    Beside a frame { s with conn := c } { t with conn := c } where
  here := h.here
  there := h.there
  conn := rfl
  resolvers := h.resolvers
  log := h.log
  shares := h.shares
  client := by
    rw [hclient]
    exact h.client
  origin := horigin

theorem act (h : Beside a frame s t) (action : Action) :
    Beside a frame (s.act action) (t.act action) :=
  ⟨h.here, h.there, h.conn, h.resolvers, congrArg (· ++ [action]) h.log, h.shares, h.client,
    h.origin⟩

theorem setInterest (h : Beside a frame s t) (hfd : frame fd = none) (i : FdInterest) :
    Beside a frame (s.setInterest fd i) (t.setInterest fd i) :=
  ⟨h.here, h.there, h.conn, h.resolvers, h.log, h.shares.setInterest hfd i, h.client, h.origin⟩

theorem setMetrics (h : Beside a frame s t) (m m' : MetricSnapshot) :
    Beside a frame { s with metrics := m } { t with metrics := m' } :=
  ⟨h.here, h.there, h.conn, h.resolvers, h.log, h.shares, h.client, h.origin⟩

theorem setSel (h : Beside a frame s t) {sel sel' : FdSelector FdHandler ℕ}
    (hshares : Shares a frame sel sel') :
    Beside a frame { s with sel := sel } { t with sel := sel' } :=
  ⟨h.here, h.there, h.conn, h.resolvers, h.log, hshares, h.client, h.origin⟩

theorem recvClientBuffer (h : Beside a frame s t) (fd : ℤ) (answer : Option (List UInt8)) :
    ∃ readn u u', s.recvClientBuffer fd answer = (readn, u) ∧
      t.recvClientBuffer fd answer = (readn, u') ∧ Beside a frame u u' := by
  unfold Session.recvClientBuffer
  rw [h.conn]
  generalize bufferRecv s.conn.clientBuffer answer = r
  obtain ⟨readn, b⟩ := r
  have hnew := h.setConn { s.conn with clientBuffer := b } rfl h.origin
  rcases readn with _ | bytes
  · exact ⟨none, _, _, rfl, rfl, hnew.act _⟩
  · exact ⟨some bytes, _, _, rfl, rfl, hnew.act _⟩

theorem sendOriginBuffer (h : Beside a frame s t) (fd : ℤ) (answer : Option ℕ) :
    ∃ written u u', s.sendOriginBuffer fd answer = (written, u) ∧
      t.sendOriginBuffer fd answer = (written, u') ∧ Beside a frame u u' := by
  unfold Session.sendOriginBuffer
  rw [h.conn]
  generalize bufferSend s.conn.originBuffer answer = r
  obtain ⟨written, b⟩ := r
  have hnew := h.setConn { s.conn with originBuffer := b } rfl h.origin
  rcases written with _ | bytes
  · exact ⟨none, _, _, rfl, rfl, hnew.act _⟩
  · exact ⟨some bytes, _, _, rfl, rfl, hnew.act _⟩

theorem writeOriginBuffer (h : Beside a frame s t) (bytes : List UInt8) :
    Beside a frame (s.writeOriginBuffer bytes) (t.writeOriginBuffer bytes) := by
  unfold Session.writeOriginBuffer
  rw [h.conn]
  exact h.setConn _ rfl h.origin

end Beside

end Basic

/-! ## The handshake -/

section Handshake

variable {a : ℕ} {frame : SelectorFrame FdHandler ℕ} {s t : Session} {env : Env} {key : SelectorKey}

theorem greetingVerNNmethods_beside (h : Beside a frame s t) :
    (greetingVerNNmethods s).Same (Beside a frame) (Beside a frame) (greetingVerNNmethods t) := by
  unfold greetingVerNNmethods
  rw [h.conn]
  dsimp only
  split_ifs
  · exact .returned _ h
  · exact .returned _ (h.setConn _ rfl h.origin)
  · exact .returned _ (h.setConn _ rfl h.origin)
  · exact .next (h.setConn _ rfl h.origin)
  · exact .next h

theorem greetingMethods_beside (hkey : frame key.fd = none) (h : Beside a frame s t) :
    (greetingMethods key s).Same (Beside a frame) (Beside a frame) (greetingMethods key t) := by
  unfold greetingMethods
  rw [h.conn]
  dsimp only
  split_ifs
  · exact .returned _ h
  · refine .next (.setInterest (.writeOriginBuffer ?_ _) hkey _)
    exact h.setConn _ rfl h.origin
  · refine .next (.setInterest (.writeOriginBuffer ?_ _) hkey _)
    exact h.setConn _ rfl h.origin
  · exact .next h

theorem greetingRead_beside (hkey : frame key.fd = none) (h : Beside a frame s t) :
    BesideResult a frame (greetingRead env key s) (greetingRead env key t) := by
  obtain ⟨readn, u, u', hs, ht, hu⟩ := h.recvClientBuffer key.fd env.recv
  unfold greetingRead
  rw [hs, ht]
  rcases readn with _ | bytes
  · exact ⟨rfl, hu⟩
  · dsimp only
    rw [hu.conn]
    split_ifs
    · exact ⟨rfl, hu⟩
    · have hblocks := (greetingVerNNmethods_beside hu).andThen
        fun _ _ => greetingMethods_beside hkey
      generalize (greetingVerNNmethods u).andThen (greetingMethods key) = b at hblocks ⊢
      generalize (greetingVerNNmethods u').andThen (greetingMethods key) = b' at hblocks ⊢
      cases hblocks with
      | returned ret h => exact ⟨rfl, h⟩
      | next h => exact ⟨rfl, h⟩

theorem greetingWrite_beside (hkey : frame key.fd = none) (h : Beside a frame s t) :
    BesideResult a frame (greetingWrite env key s) (greetingWrite env key t) := by
  obtain ⟨written, u, u', hs, ht, hu⟩ := h.sendOriginBuffer s.conn.clientFd env.send
  unfold greetingWrite
  rw [h.conn, hs, ht]
  rcases written with _ | bytes
  · exact ⟨rfl, hu⟩
  · dsimp only
    rw [hu.conn]
    split_ifs
    · exact ⟨rfl, hu⟩
    · exact ⟨rfl, hu.setInterest hkey _⟩
    · exact ⟨rfl, hu.setInterest hkey _⟩

theorem authWrite_beside (hkey : frame key.fd = none) (h : Beside a frame s t) :
    BesideResult a frame (authWrite env key s) (authWrite env key t) := by
  obtain ⟨written, u, u', hs, ht, hu⟩ := h.sendOriginBuffer s.conn.clientFd env.send
  unfold authWrite
  rw [h.conn, hs, ht]
  rcases written with _ | bytes
  · exact ⟨rfl, hu⟩
  · dsimp only
    rw [hu.conn]
    split_ifs
    · exact ⟨rfl, hu⟩
    · exact ⟨rfl, hu⟩
    · exact ⟨rfl, hu.setInterest hkey _⟩

/-- Blocks of AUTH hand `toRead` on. -/
def BesideCarried (a : ℕ) (frame : SelectorFrame FdHandler ℕ) (x y : Session × ℕ) : Prop :=
  y.2 = x.2 ∧ Beside a frame x.1 y.1

theorem authVer_beside (h : Beside a frame s t) (toRead : ℕ) :
    (authVer s toRead).Same (Beside a frame) (BesideCarried a frame) (authVer t toRead) := by
  unfold authVer
  rw [h.conn]
  dsimp only
  split_ifs
  · exact .returned _ h
  · exact .returned _ (h.setConn _ rfl h.origin)
  · exact .next ⟨rfl, h.setConn _ rfl h.origin⟩
  · exact .next ⟨rfl, h⟩

theorem authUlen_beside (h : Beside a frame s t) (toRead : ℕ) :
    (authUlen s toRead).Same (Beside a frame) (BesideCarried a frame) (authUlen t toRead) := by
  unfold authUlen
  rw [h.conn]
  dsimp only
  split_ifs
  · exact .returned _ h
  · exact .returned _ (h.setConn _ rfl h.origin)
  · exact .next ⟨rfl, h.setConn _ rfl h.origin⟩
  · exact .next ⟨rfl, h⟩

theorem authUname_beside (h : Beside a frame s t) (toRead : ℕ) :
    (authUname s toRead).Same (Beside a frame) (BesideCarried a frame) (authUname t toRead) := by
  unfold authUname
  rw [h.conn]
  dsimp only
  split_ifs
  · exact .returned _ h
  · exact .next ⟨rfl, h.setConn _ rfl h.origin⟩
  · exact .next ⟨rfl, h⟩

theorem authPlen_beside (h : Beside a frame s t) (toRead : ℕ) :
    (authPlen s toRead).Same (Beside a frame) (BesideCarried a frame) (authPlen t toRead) := by
  unfold authPlen
  rw [h.conn]
  dsimp only
  split_ifs
  · exact .returned _ h
  · exact .returned _ (h.setConn _ rfl h.origin)
  · exact .next ⟨rfl, h.setConn _ rfl h.origin⟩
  · exact .next ⟨rfl, h⟩

theorem checkCredentials_beside (env : Env) (h : Beside a frame s t) :
    Beside a frame (checkCredentials env s) (checkCredentials env t) := by
  unfold checkCredentials
  rw [h.conn]
  generalize userAuthenticate env.users (credential s.conn.auth.username)
    (credential s.conn.auth.password) = status
  have hact := h.act (.authenticate status)
  have hset := hact.setConn { s.conn with auth.authenticated := true } rfl h.origin
  cases status with
  | badUsername => exact hact
  | wrongPassword => exact hact
  | _ =>
      dsimp only [Session.act] at hset ⊢
      rw [h.conn]
      exact hset

theorem authAnswer_beside (h : Beside a frame s t) :
    Beside a frame
      (s.writeOriginBuffer
        [authVersion, if s.conn.auth.authenticated then authSuccess else authFailure])
      (t.writeOriginBuffer
        [authVersion, if t.conn.auth.authenticated then authSuccess else authFailure]) := by
  rw [h.conn]
  exact h.writeOriginBuffer _

theorem authPasswd_beside (env : Env) (hkey : frame key.fd = none) (h : Beside a frame s t)
    (toRead : ℕ) :
    (authPasswd env key s toRead).Same (Beside a frame) (BesideCarried a frame)
      (authPasswd env key t toRead) := by
  unfold authPasswd
  rw [h.conn]
  by_cases hstate : s.conn.auth.state = .authPasswd
  · rw [if_pos hstate, if_pos hstate]
    dsimp only
    by_cases hshort : toRead < s.conn.auth.plen.toNat
    · rw [if_pos hshort, if_pos hshort]
      exact .returned _ h
    · rw [if_neg hshort, if_neg hshort]
      have hstored := h.setConn { s.conn with
        clientBuffer := (bufferReadN s.conn.auth.plen.toNat s.conn.clientBuffer).2
        auth.password := Memory.store s.conn.auth.password 0
          ((bufferReadN s.conn.auth.plen.toNat s.conn.clientBuffer).1 ++ [0]) } rfl h.origin
      have hchecked := checkCredentials_beside env hstored
      exact .next ⟨rfl, (authAnswer_beside hchecked).setInterest hkey _⟩
  · rw [if_neg hstate, if_neg hstate]
    exact .next ⟨rfl, h⟩

theorem authRead_beside (hkey : frame key.fd = none) (h : Beside a frame s t) :
    BesideResult a frame (authRead env key s) (authRead env key t) := by
  obtain ⟨readn, u, u', hs, ht, hu⟩ := h.recvClientBuffer key.fd env.recv
  unfold authRead
  rw [hs, ht]
  rcases readn with _ | bytes
  · exact ⟨rfl, hu⟩
  · dsimp only
    rw [hu.conn]
    generalize (bufferReadPtr u.conn.clientBuffer).2 = toRead
    split_ifs
    · exact ⟨rfl, hu⟩
    · have hcarry : ∀ {f f' : Session → ℕ → SocksBlock (Session × ℕ)},
          (∀ {s t : Session}, Beside a frame s t → ∀ n,
            (f s n).Same (Beside a frame) (BesideCarried a frame) (f' t n)) →
          ∀ x y, BesideCarried a frame x y →
            (f x.1 x.2).Same (Beside a frame) (BesideCarried a frame) (f' y.1 y.2) := by
        rintro f f' hf ⟨x, n⟩ ⟨y, n'⟩ ⟨hn, hxy⟩
        cases hn
        exact hf hxy n
      have hblocks := ((((authVer_beside hu toRead).andThen
        (hcarry authUlen_beside)).andThen (hcarry authUname_beside)).andThen
        (hcarry authPlen_beside)).andThen (hcarry (authPasswd_beside env hkey))
      revert hblocks
      generalize ((((authVer u toRead).andThen _).andThen _).andThen _).andThen _ = b
      generalize ((((authVer u' toRead).andThen _).andThen _).andThen _).andThen _ = b'
      intro hblocks
      cases hblocks with
      | returned ret h => exact ⟨rfl, h⟩
      | next h => exact ⟨rfl, h.2⟩

end Handshake

/-! ## Connecting -/

/-- The callback registers for the connection, and the sockets it opens belong
to nobody. -/
structure OwnSockets (a : ℕ) (frame : SelectorFrame FdHandler ℕ) (env : Env)
    (key : SelectorKey) : Prop where
  data : key.data = a
  sockets : ∀ round, frame (env.attempts round).socket = none

section Connecting

variable {a : ℕ} {frame : SelectorFrame FdHandler ℕ} {s t : Session} {env : Env}
  {key : SelectorKey}

theorem Shares.frame_of_invalid {sel own : FdSelector FdHandler ℕ} (h : Shares a frame sel own)
    {fd : ℤ} (hfd : invalidFd fd = true) : frame fd = none := by
  by_contra hne
  rw [h.valid fd hne] at hfd
  cases hfd

theorem Beside.closeOriginFd (h : Beside a frame s t) :
    Beside a frame (closeOriginFd s) (closeOriginFd t) := by
  have hclosed := (h.act (.close s.conn.originFd)).setConn
    { s.conn with originFd := -1 } rfl (h.shares.frame_of_invalid rfl)
  unfold Socks5Proxy.closeOriginFd
  rw [h.conn]
  dsimp only [Session.act] at hclosed ⊢
  rw [h.conn]
  exact hclosed

theorem Beside.getNextResolution (h : Beside a frame s t) :
    Beside a frame (getNextResolution s) (getNextResolution t) := by
  unfold Socks5Proxy.getNextResolution
  rw [h.conn]
  exact h.setConn _ rfl h.origin

theorem Beside.unregister (h : Beside a frame s t) {fd : ℤ} (hfd : frame fd = none) :
    Beside a frame { s with sel := (selectorUnregisterFdWithoutClosing s.sel fd).1 }
      { t with sel := (selectorUnregisterFdWithoutClosing t.sel fd).1 } :=
  h.setSel (h.shares.unregister hfd)

/-- The registration of a socket for the connection, and what is done when it
fails. -/
theorem Beside.register (h : Beside a frame s t) {fd : ℤ} (hfd : frame fd = none)
    (i : FdInterest) (alloc : Bool) :
    let r := selectorRegister s.sel fd (some .socks5Handler) i (some a) alloc
    let r' := selectorRegister t.sel fd (some .socks5Handler) i (some a) alloc
    (r'.2 = .success ↔ r.2 = .success) ∧
      Beside a frame { s with sel := r.1 } { t with sel := r'.1 } :=
  ⟨h.shares.register_status hfd .., h.setSel (h.shares.register hfd ..)⟩

theorem tryAddress_beside (hown : OwnSockets a frame env key) (h : Beside a frame s t)
    (round : ℕ) (ai : SockAddr) (aiNext : List SockAddr) :
    (tryAddress env key round ai aiNext s).Same (Beside a frame) (Beside a frame)
      (tryAddress env key round ai aiNext t) := by
  have hsocket := hown.sockets round
  unfold tryAddress
  rw [h.conn]
  generalize env.attempts round = answer at hsocket ⊢
  have hset := h.setConn { s.conn with originFd := answer.socket } rfl hsocket
  have hcall := fun result => hset.act (.connect answer.socket ai result)
  dsimp only [Session.act] at hcall ⊢
  by_cases hnone : answer.socket = -1
  · rw [if_pos hnone, if_pos hnone]
    exact .next hset.getNextResolution
  · rw [if_neg hnone, if_neg hnone]
    by_cases hnio : answer.setNio = false
    · rw [if_pos hnio, if_pos hnio]
      exact .next hset.closeOriginFd.getNextResolution
    · rw [if_neg hnio, if_neg hnio]
      rcases answer.connect with _ | errno
      · exact .returned _ (hcall .success)
      · dsimp only
        by_cases hprogress : errno = einprogress
        · rw [if_pos hprogress, if_pos hprogress, hown.data]
          obtain ⟨hstatus, hregister⟩ :=
            (hcall (.error errno)).register hsocket .opWrite answer.alloc
          by_cases hsuccess : (selectorRegister s.sel answer.socket
              (some FdHandler.socks5Handler) .opWrite (some a) answer.alloc).2 = .success
          · simp only [hsuccess, hstatus.mpr hsuccess, ne_eq, not_true_eq_false, if_false]
            exact .returned _ hregister
          · simp only [hsuccess, mt hstatus.mp hsuccess, ne_eq, not_false_eq_true, if_true]
            exact .returned _ hregister
        · rw [if_neg hprogress, if_neg hprogress]
          by_cases hlast : aiNext ≠ []
          · rw [if_pos hlast, if_pos hlast]
            exact .next ((hcall _).unregister hsocket).closeOriginFd.getNextResolution
          · rw [if_neg hlast, if_neg hlast]
            exact .returned _ (hcall _)

theorem tryAddresses_beside (hown : OwnSockets a frame env key) (addresses : List SockAddr) :
    ∀ {s t : Session} (round : ℕ), Beside a frame s t →
      SameOutcome (fun r r' => r'.2 = r.2 ∧ Beside a frame r.1 r'.1)
        (tryAddresses env key round addresses s) (tryAddresses env key round addresses t) := by
  induction addresses with
  | nil =>
      intro s t round _
      exact .fault _
  | cons ai aiNext ih =>
      intro s t round h
      have hround := tryAddress_beside hown h round ai aiNext
      unfold tryAddresses
      generalize tryAddress env key round ai aiNext s = b at hround ⊢
      generalize tryAddress env key round ai aiNext t = b' at hround ⊢
      cases hround with
      | returned ret h => exact .ok ⟨rfl, h⟩
      | next h => exact ih (round + 1) h

theorem replyWith_beside (h : Beside a frame s t) (rep : UInt8) :
    BesideResult a frame (replyWith rep s) (replyWith rep t) := by
  unfold replyWith toReplyState
  rw [h.conn]
  have hrep := h.setConn { s.conn with reply.rep := rep } rfl h.origin
  exact ⟨rfl, hrep.setInterest h.client _⟩

theorem refuse_beside {τ : Type} {Q : τ → τ → Prop} (h : Beside a frame s t) (rep : UInt8) :
    (refuse rep s).Same (Beside a frame) Q (refuse rep t) := by
  obtain ⟨hret, hreply⟩ := replyWith_beside h rep
  unfold refuse
  rw [hret]
  exact .returned _ hreply

theorem granted_beside (h : Beside a frame s t) :
    BesideResult a frame (replyWith succeded (s.setInterest s.conn.originFd .opNoop))
      (replyWith succeded (t.setInterest t.conn.originFd .opNoop)) := by
  rw [h.conn]
  exact replyWith_beside (h.setInterest h.origin _) _

theorem connectToDestResult_beside (h : Beside a frame s t) (ret : UInt8) :
    BesideResult a frame (connectToDestResult s ret) (connectToDestResult t ret) := by
  unfold connectToDestResult
  split_ifs
  iterate 6 exact replyWith_beside h _
  · rw [h.conn]
    exact ⟨rfl, h.setInterest h.client _⟩
  · exact granted_beside h

theorem tryConnection_beside (hown : OwnSockets a frame env key) (h : Beside a frame s t) :
    SameOutcome (fun r r' => r'.2 = r.2 ∧ Beside a frame r.1 r'.1)
      (tryConnection env key s) (tryConnection env key t) := by
  unfold tryConnection
  rw [h.conn]
  exact tryAddresses_beside hown _ 0 h

theorem connectToDest_beside (hown : OwnSockets a frame env key) (h : Beside a frame s t) :
    SameOutcome (BesideResult a frame) (connectToDest env key s) (connectToDest env key t) := by
  have htry := tryConnection_beside hown h
  unfold connectToDest
  rw [h.conn]
  rcases s.conn.originResolution with _ | ⟨ai, aiNext⟩
  · exact .ok (replyWith_beside h _)
  · dsimp only
    generalize tryConnection env key s = r at htry ⊢
    generalize tryConnection env key t = r' at htry ⊢
    cases htry with
    | fault fault => exact .fault fault
    | @ok r r' h =>
        obtain ⟨u, ret⟩ := r
        obtain ⟨u', ret'⟩ := r'
        obtain ⟨rfl, h⟩ := h
        exact .ok (connectToDestResult_beside h _)

theorem printConnectionAccessLog_beside (h : Beside a frame s t) :
    SameOutcome (Beside a frame) (printConnectionAccessLog s) (printConnectionAccessLog t) := by
  unfold printConnectionAccessLog
  rw [h.conn]
  rcases s.conn.originResolution with _ | ⟨ai, aiNext⟩
  · exact .fault _
  · exact .ok h

/-- The common end of `connect_write`. -/
theorem connected_beside (h : Beside a frame s t) :
    SameOutcome (BesideResult a frame)
      (match printConnectionAccessLog s with
        | .error fault => .error fault
        | .ok s => .ok (replyWith succeded (s.setInterest s.conn.originFd .opNoop)))
      (match printConnectionAccessLog t with
        | .error fault => .error fault
        | .ok s => .ok (replyWith succeded (s.setInterest s.conn.originFd .opNoop))) := by
  have hlog := printConnectionAccessLog_beside h
  generalize printConnectionAccessLog s = r at hlog ⊢
  generalize printConnectionAccessLog t = r' at hlog ⊢
  cases hlog with
  | fault fault => exact .fault fault
  | ok h => exact .ok (granted_beside h)

theorem connectWriteResult_beside (h : Beside a frame s t) (ret : UInt8) :
    SameOutcome (BesideResult a frame) (connectWriteResult s ret) (connectWriteResult t ret) := by
  unfold connectWriteResult
  split_ifs
  iterate 6 exact .ok (replyWith_beside h _)
  · exact .ok ⟨rfl, h⟩
  · exact connected_beside h

theorem dropOrigin_beside (h : Beside a frame s t) :
    Beside a frame (dropOrigin s) (dropOrigin t) := by
  have horigin : t.conn.originFd = s.conn.originFd := congrArg Socks5.originFd h.conn
  unfold dropOrigin
  rw [horigin]
  exact (h.unregister h.origin).closeOriginFd

theorem connectWrite_beside (hown : OwnSockets a frame env key) (h : Beside a frame s t) :
    SameOutcome (BesideResult a frame) (connectWrite env key s) (connectWrite env key t) := by
  have hdropped := dropOrigin_beside h
  unfold connectWrite
  rw [h.conn]
  rcases sockError env s.conn.originFd with _ | optVal
  · exact .ok (replyWith_beside h _)
  · dsimp only
    by_cases hfailed : optVal ≠ 0
    · rw [if_pos hfailed, if_pos hfailed, hdropped.conn]
      rcases (dropOrigin s).conn.originResolution with _ | ⟨ai, _ | ⟨ai', rest⟩⟩
      · exact .fault _
      · exact .ok (replyWith_beside hdropped _)
      · have htry := tryConnection_beside hown hdropped.getNextResolution
        dsimp only
        generalize tryConnection env key (getNextResolution (dropOrigin s)) = r at htry ⊢
        generalize tryConnection env key (getNextResolution (dropOrigin t)) = r' at htry ⊢
        cases htry with
        | fault fault => exact .fault fault
        | @ok r r' h =>
            obtain ⟨u, ret⟩ := r
            obtain ⟨u', ret'⟩ := r'
            obtain ⟨rfl, h⟩ := h
            exact connectWriteResult_beside h _
    · rw [if_neg hfailed, if_neg hfailed]
      exact connected_beside h

end Connecting

/-! ## Reading a request -/

section Request

variable {a : ℕ} {frame : SelectorFrame FdHandler ℕ} {s t : Session} {env : Env}
  {key : SelectorKey}

theorem getIpAddress_beside (h : Beside a frame s t) (family : AddressFamily) (len : ℕ) :
    Beside a frame (getIpAddress family len s) (getIpAddress family len t) := by
  unfold getIpAddress
  rw [h.conn]
  exact h.setConn _ rfl h.origin

theorem getPort_beside (h : Beside a frame s t) : Beside a frame (getPort s) (getPort t) := by
  unfold getPort
  rw [h.conn]
  exact h.setConn _ rfl h.origin

theorem getFqdn_beside (h : Beside a frame s t) (lenght : UInt8) :
    Beside a frame (getFqdn lenght s) (getFqdn lenght t) := by
  unfold getFqdn
  rw [h.conn]
  exact h.setConn _ rfl h.origin

theorem resolveIp_beside (env : Env) (h : Beside a frame s t) (family : AddressFamily) :
    (resolveIp env family t).2 = (resolveIp env family s).2 ∧
      Beside a frame (resolveIp env family s).1 (resolveIp env family t).1 := by
  unfold resolveIp
  rw [h.conn]
  split_ifs
  · exact ⟨rfl, h⟩
  · exact ⟨rfl, h⟩
  · exact ⟨rfl, h.setConn _ rfl h.origin⟩

theorem resolveFqdn_beside (env : Env) (h : Beside a frame s t) :
    (resolveFqdn env t).2 = (resolveFqdn env s).2 ∧
      Beside a frame (resolveFqdn env s).1 (resolveFqdn env t).1 := by
  unfold resolveFqdn
  rw [h.conn, h.resolvers]
  split_ifs
  · exact ⟨rfl, h⟩
  · have hact := h.act (.resolve s.conn.originHost.cString s.conn.originPort)
    exact ⟨rfl, hact.here, hact.there, hact.conn, rfl, hact.log, hact.shares, hact.client,
      hact.origin⟩

/-- `DST_LEN` hands `addrBytes` on. -/
theorem dstLen_beside (env : Env) (h : Beside a frame s t) :
    (dstLen env s).Same (Beside a frame) (fun x y => y.2 = x.2 ∧ Beside a frame x.1 y.1)
      (dstLen env t) := by
  unfold dstLen
  rw [h.conn]
  dsimp only
  split_ifs
  · exact .returned _ h
  · refine refuse_beside ?_ _
    exact h.setConn _ rfl h.origin
  · exact .returned _ (h.setConn _ rfl h.origin)
  · exact .next ⟨rfl, h.setConn _ rfl h.origin⟩
  · exact .returned _ h
  · exact .next ⟨rfl, h.setConn _ rfl h.origin⟩
  · exact .next ⟨rfl, h⟩

theorem dstIp_beside (hown : OwnSockets a frame env key) (h : Beside a frame s t)
    (family : AddressFamily) (len : ℕ) :
    SameOutcome (BesideResult a frame)
      (dstIp env key (getIpAddress family len) (fun env => resolveIp env family) s)
      (dstIp env key (getIpAddress family len) (fun env => resolveIp env family) t) := by
  obtain ⟨hsame, hresolved⟩ :=
    resolveIp_beside env (getPort_beside (getIpAddress_beside h family len)) family
  unfold dstIp
  dsimp only
  generalize resolveIp env family (getPort (getIpAddress family len s)) = r at hsame hresolved ⊢
  generalize resolveIp env family (getPort (getIpAddress family len t)) = r' at hsame hresolved ⊢
  obtain ⟨u, ok⟩ := r
  obtain ⟨u', ok'⟩ := r'
  cases hsame
  rcases ok with _ | _
  · exact .ok (replyWith_beside hresolved _)
  · exact connectToDest_beside hown hresolved

theorem dstFqdn_beside (h : Beside a frame s t) (addrBytes : UInt8) :
    BesideResult a frame (dstFqdn env addrBytes s) (dstFqdn env addrBytes t) := by
  obtain ⟨hsame, hresolved⟩ :=
    resolveFqdn_beside env (getPort_beside (getFqdn_beside h addrBytes))
  unfold dstFqdn
  generalize resolveFqdn env (getPort (getFqdn addrBytes s)) = r at hsame hresolved ⊢
  generalize resolveFqdn env (getPort (getFqdn addrBytes t)) = r' at hsame hresolved ⊢
  obtain ⟨u, ok⟩ := r
  obtain ⟨u', ok'⟩ := r'
  cases hsame
  rcases ok with _ | _
  · exact replyWith_beside hresolved _
  · exact ⟨rfl, hresolved⟩

theorem dstRes_beside (hown : OwnSockets a frame env key) (h : Beside a frame s t)
    (addrBytes : UInt8) :
    SameOutcome (BesideResult a frame) (dstRes env key addrBytes s)
      (dstRes env key addrBytes t) := by
  unfold dstRes
  rw [h.conn]
  split_ifs
  · exact dstIp_beside hown h .inet ipv4AddrLen
  · exact .ok (dstFqdn_beside h addrBytes)
  · exact dstIp_beside hown h .inet6 ipv6AddrLen

theorem resolveDstAddress_beside (hown : OwnSockets a frame env key) (h : Beside a frame s t) :
    SameOutcome (BesideResult a frame) (resolveDstAddress env key s)
      (resolveDstAddress env key t) := by
  obtain ⟨readn, u, u', hs, ht, hu⟩ := h.recvClientBuffer s.conn.clientFd env.recvDst
  have hlen := dstLen_beside env hu
  unfold resolveDstAddress
  rw [h.conn, hs, ht]
  dsimp only
  generalize dstLen env u = b at hlen ⊢
  generalize dstLen env u' = b' at hlen ⊢
  cases hlen with
  | returned ret h => exact .ok ⟨rfl, h⟩
  | @next x x' h =>
      obtain ⟨u, addrBytes⟩ := x
      obtain ⟨u', addrBytes'⟩ := x'
      obtain ⟨rfl, h⟩ := h
      exact dstRes_beside hown h _

theorem verCmdAtyp_beside (h : Beside a frame s t) :
    (verCmdAtyp s).Same (Beside a frame) (Beside a frame) (verCmdAtyp t) := by
  unfold verCmdAtyp
  rw [h.conn]
  dsimp only
  split_ifs
  · exact .returned _ h
  · exact .returned _ h
  · refine refuse_beside ?_ _
    exact h.setConn _ rfl h.origin
  · refine refuse_beside ?_ _
    exact h.setConn _ rfl h.origin
  · refine refuse_beside ?_ _
    exact h.setConn _ rfl h.origin
  · refine refuse_beside ?_ _
    exact h.setConn _ rfl h.origin
  · exact .next (h.setConn _ rfl h.origin)

theorem requestRead_beside (hown : OwnSockets a frame env key) (h : Beside a frame s t) :
    SameOutcome (BesideResult a frame) (requestRead env key s) (requestRead env key t) := by
  unfold requestRead
  rw [h.conn]
  split_ifs
  · obtain ⟨readn, u, u', hs, ht, hu⟩ := h.recvClientBuffer key.fd env.recv
    have hblock := verCmdAtyp_beside hu
    rw [hs, ht]
    dsimp only
    generalize verCmdAtyp u = b at hblock ⊢
    generalize verCmdAtyp u' = b' at hblock ⊢
    cases hblock with
    | returned ret h => exact .ok ⟨rfl, h⟩
    | next h => exact resolveDstAddress_beside hown h
  · exact resolveDstAddress_beside hown h

/-! ## The reply -/

theorem replyArrival_beside (h : Beside a frame s t) :
    Beside a frame (replyArrival env s) (replyArrival env t) := by
  have hheader := h.writeOriginBuffer [socks5Version, s.conn.reply.rep, rsv]
  unfold replyArrival
  rw [h.conn]
  dsimp only
  rw [hheader.conn]
  rcases localAddr env _ with _ | addr
  · exact hheader.setConn _ rfl hheader.origin
  · have hwritten := (hheader.writeOriginBuffer (bndAddrBytes addr)).writeOriginBuffer
      (portBytes (bndPort addr))
    dsimp only
    rw [hwritten.conn]
    exact hwritten.setConn _ rfl hwritten.origin

theorem replyWrite_beside (h : Beside a frame s t) :
    BesideResult a frame (replyWrite env s) (replyWrite env t) := by
  obtain ⟨written, u, u', hs, ht, hu⟩ := h.sendOriginBuffer s.conn.clientFd env.send
  unfold replyWrite
  rw [h.conn]
  split_ifs with hfound
  · exact ⟨rfl, h⟩
  · rw [hs, ht]
    dsimp only
    rw [hu.conn]
    split_ifs
    · exact ⟨rfl, hu⟩
    · exact ⟨rfl, hu⟩
    · exact ⟨rfl, hu.setInterest hu.client _⟩

end Request

/-! ## COPY -/

/-- The descriptors of the two `CopySt` records are not in the frame. -/
def OwnCopyFds (frame : SelectorFrame FdHandler ℕ) (s : Session) : Prop :=
  ∀ side, frame (s.copySt side).fd = none

section Copy

variable {a : ℕ} {frame : SelectorFrame FdHandler ℕ} {s t : Session} {env : Env}
  {key : SelectorKey} {side : Side}

theorem Beside.setCopyInterests (h : Beside a frame s t) (side : Side) (i : FdInterest) :
    Beside a frame (s.setCopyInterests side i) (t.setCopyInterests side i) := by
  rcases side with _ | _ <;>
  · unfold Session.setCopyInterests
    dsimp only
    rw [h.conn]
    exact h.setConn _ rfl h.origin

theorem Beside.setBuffer (h : Beside a frame s t) (side : Side) (b : Buffer) :
    Beside a frame (s.setBuffer side b) (t.setBuffer side b) := by
  rcases side with _ | _ <;>
  · unfold Session.setBuffer
    dsimp only
    rw [h.conn]
    exact h.setConn _ rfl h.origin

theorem Beside.copySt (h : Beside a frame s t) : t.copySt side = s.copySt side := by
  unfold Session.copySt
  rw [h.conn]

theorem Beside.buffer (h : Beside a frame s t) : t.buffer side = s.buffer side := by
  unfold Session.buffer
  rw [h.conn]

theorem OwnCopyFds.act (hfds : OwnCopyFds frame s) (action : Action) :
    OwnCopyFds frame (s.act action) := by
  intro x
  rw [copySt_act]
  exact hfds x

theorem OwnCopyFds.setCopyInterests (h : OwnCopyFds frame s) (side : Side) (i : FdInterest) :
    OwnCopyFds frame (s.setCopyInterests side i) := by
  intro x
  rw [show ((s.setCopyInterests side i).copySt x).fd = (s.copySt x).fd by
    rcases side with _ | _ <;> rcases x with _ | _ <;> rfl]
  exact h x

theorem OwnCopyFds.setBuffer (h : OwnCopyFds frame s) (side : Side) (b : Buffer) :
    OwnCopyFds frame (s.setBuffer side b) := by
  intro x
  rw [copySt_setBuffer]
  exact h x

theorem copyResult_beside (h : Beside a frame s t) (x y : Side) :
    BesideResult a frame (copyResult s x y) (copyResult t x y) := by
  unfold copyResult
  rw [h.copySt, h.copySt]
  split_ifs
  · exact ⟨rfl, h⟩
  · exact ⟨rfl, h⟩

/-- Both calls of `update_target_interests` find in both selectors the same
registrations. -/
theorem updateTargetInterests_beside (hfds : OwnCopyFds frame s) (h : Beside a frame s t)
    (target : Side) :
    (∃ u u', updateTargetInterests s target = some u ∧ updateTargetInterests t target = some u' ∧
        Beside a frame u u') ∨
      updateTargetInterests s target = none ∧ updateTargetInterests t target = none ∧
        Beside a frame (updateTargetInterestsFailed s target)
          (updateTargetInterestsFailed t target) := by
  have hfirst := hfds target
  have hsecond := hfds (s.copySt target).otherCopySt
  unfold updateTargetInterests updateTargetInterestsFailed
  simp only [h.copySt, h.buffer]
  generalize (s.copySt target).fd = fd at hfirst ⊢
  generalize (s.copySt target).otherCopySt = other at hsecond ⊢
  generalize (s.copySt other).fd = fd' at hsecond ⊢
  generalize FdInterest.mk _ _ = ret
  generalize FdInterest.mk _ _ = oet
  have hstatus := h.shares.setInterest_status hfirst ret
  have hshares := h.shares.setInterest hfirst ret
  generalize selectorSetInterest s.sel fd ret = r at hstatus hshares ⊢
  generalize selectorSetInterest t.sel fd ret = r' at hstatus hshares ⊢
  obtain ⟨sel, status⟩ := r
  obtain ⟨sel', status'⟩ := r'
  cases hstatus
  dsimp only at hshares
  by_cases hsuccess : status = .success
  · subst hsuccess
    have hstatus' := hshares.setInterest_status hsecond oet
    have hshares' := hshares.setInterest hsecond oet
    dsimp only
    generalize selectorSetInterest sel fd' oet = r at hstatus' hshares' ⊢
    generalize selectorSetInterest sel' fd' oet = r' at hstatus' hshares' ⊢
    obtain ⟨sel, status⟩ := r
    obtain ⟨sel', status'⟩ := r'
    cases hstatus'
    by_cases hsuccess : status = .success
    · subst hsuccess
      exact .inl ⟨_, _, rfl, rfl,
        ((h.setSel hshares').setCopyInterests target ret).setCopyInterests other oet⟩
    · right
      cases status
      · exact absurd rfl hsuccess
      all_goals exact ⟨rfl, rfl, h.setSel hshares'⟩
  · right
    cases status
    · exact absurd rfl hsuccess
    all_goals exact ⟨rfl, rfl, h.setSel hshares⟩

theorem afterTransfer_beside (hfds : OwnCopyFds frame s) (h : Beside a frame s t) (x y : Side) :
    BesideResult a frame (afterTransfer s x y) (afterTransfer t x y) := by
  unfold afterTransfer
  rcases updateTargetInterests_beside hfds h x with ⟨u, u', hs, ht, hu⟩ | ⟨hs, ht, hfailed⟩
  · rw [hs, ht]
    exact copyResult_beside hu x y
  · rw [hs, ht]
    exact ⟨rfl, hfailed⟩

/-- Shutting down a direction: the call, the record's interests, the selector. -/
theorem shut_beside (hfds : OwnCopyFds frame s) (h : Beside a frame s t) (side : Side)
    (how : ShutdownHow) (op : FdInterest) :
    let shut := fun s : Session =>
      let s := s.act (.shutdown (s.copySt side).fd how)
      let s := s.setCopyInterests side ((s.copySt side).interests.off op)
      s.setInterest (s.copySt side).fd (s.copySt side).interests
    Beside a frame (shut s) (shut t) ∧ OwnCopyFds frame (shut s) := by
  have hact := h.act (.shutdown (s.copySt side).fd how)
  have hset := hact.setCopyInterests side ((s.copySt side).interests.off op)
  have hown := (hfds.act (.shutdown (s.copySt side).fd how)).setCopyInterests side
    ((s.copySt side).interests.off op)
  dsimp only
  rw [h.copySt, copySt_act, copySt_act, h.copySt, hset.copySt]
  refine ⟨hset.setInterest ?_ _, ?_⟩
  · exact hown side
  · intro x
    rw [copySt_setInterest]
    exact hown x

theorem shutRead_beside (hfds : OwnCopyFds frame s) (h : Beside a frame s t) (side : Side) :
    Beside a frame (shutRead s side) (shutRead t side) ∧ OwnCopyFds frame (shutRead s side) :=
  shut_beside hfds h side .rd .opRead

theorem shutWrite_beside (hfds : OwnCopyFds frame s) (h : Beside a frame s t) (side : Side) :
    Beside a frame (shutWrite s side) (shutWrite t side) ∧ OwnCopyFds frame (shutWrite s side) :=
  shut_beside hfds h side .wr .opWrite

theorem closedRead_beside (hfds : OwnCopyFds frame s) (h : Beside a frame s t) (action : Action)
    (x y : Side) :
    BesideResult a frame (copyResult (shutWrite (shutRead (s.act action) x) y) x y)
      (copyResult (shutWrite (shutRead (t.act action) x) y) x y) := by
  obtain ⟨hread, hfds'⟩ := shutRead_beside (hfds.act action) (h.act action) x
  exact copyResult_beside (shutWrite_beside hfds' hread y).1 x y

theorem closedWrite_beside (hfds : OwnCopyFds frame s) (h : Beside a frame s t) (action : Action)
    (x y : Side) :
    BesideResult a frame (copyResult (shutRead (shutWrite (s.act action) x) y) x y)
      (copyResult (shutRead (shutWrite (t.act action) x) y) x y) := by
  obtain ⟨hwrite, hfds'⟩ := shutWrite_beside (hfds.act action) (h.act action) x
  exact copyResult_beside (shutRead_beside hfds' hwrite y).1 x y

/-- A callback that moved bytes: the buffer, the call, the counters and the
interests. -/
theorem transferred_beside (hfds : OwnCopyFds frame s) (h : Beside a frame s t) (side : Side)
    (b : Buffer) (action : Action) (m m' : MetricSnapshot) (x y : Side) :
    BesideResult a frame
      (afterTransfer { (s.setBuffer side b).act action with metrics := m } x y)
      (afterTransfer { (t.setBuffer side b).act action with metrics := m' } x y) := by
  refine afterTransfer_beside ?_ (((h.setBuffer side b).act action).setMetrics m m') x y
  exact (hfds.setBuffer side b).act action

theorem socksv5CopyRead_beside (hfds : OwnCopyFds frame s) (h : Beside a frame s t) :
    BesideResult a frame (socksv5CopyRead env key s) (socksv5CopyRead env key t) := by
  have hside : keySide key t = keySide key s := by
    unfold keySide
    rw [h.conn]
  unfold socksv5CopyRead
  simp only [hside, h.copySt, h.buffer]
  generalize keySide key s = src
  generalize (s.copySt src).otherCopySt = dst
  split_ifs
  · exact ⟨rfl, h⟩
  · generalize bufferRecv (s.buffer (s.copySt dst).buffer) env.recv = r
    obtain ⟨_ | _ | ⟨byte, bytes⟩, b⟩ := r
    · exact closedRead_beside hfds h _ src dst
    · exact closedRead_beside hfds h _ src dst
    · exact transferred_beside hfds h _ b _ _ _ src dst

theorem socksv5CopyWrite_beside (hfds : OwnCopyFds frame s) (h : Beside a frame s t) :
    BesideResult a frame (socksv5CopyWrite env key s) (socksv5CopyWrite env key t) := by
  have hside : keySide key t = keySide key s := by
    unfold keySide
    rw [h.conn]
  unfold socksv5CopyWrite
  simp only [hside, h.copySt, h.buffer]
  generalize keySide key s = src
  generalize (s.copySt src).otherCopySt = other
  split_ifs
  · exact ⟨rfl, h⟩
  · generalize bufferSend (s.buffer (s.copySt src).buffer) env.send = r
    obtain ⟨_ | _ | ⟨byte, bytes⟩, b⟩ := r
    · exact closedWrite_beside hfds h _ src other
    · exact closedWrite_beside hfds h _ src other
    · exact transferred_beside hfds h _ b _ _ _ src other

theorem socksv5CopyArrival_beside (h : Beside a frame s t) :
    Beside a frame (socksv5CopyArrival s) (socksv5CopyArrival t) := by
  unfold socksv5CopyArrival
  rw [h.conn]
  dsimp only
  refine Beside.setInterest (Beside.setInterest ?_ h.origin _) h.client _
  exact h.setConn _ rfl h.origin

end Copy

/-! ## Teardown -/

section Done

variable {a : ℕ} {frame : SelectorFrame FdHandler ℕ} {s t : Session} {env : Env}
  {key : SelectorKey} {st : SocksV5State}

theorem releaseFd_beside (env : Env) (key : SelectorKey) (h : Beside a frame s t) {fd : ℤ}
    (hfd : frame fd = none) :
    Beside a frame (releaseFd env key fd s) (releaseFd env key fd t) := by
  unfold releaseFd
  split_ifs
  · rw [unregisterFd_eq, unregisterFd_eq]
    exact ((h.unregister hfd).setMetrics _ _).act _
  · exact h

theorem teardown_beside (h : Beside a frame s t) :
    Beside a frame (teardown env key s) (teardown env key t) := by
  have hmarked := h.setConn { s.conn with closed := true } rfl h.origin
  have horigin := releaseFd_beside env key hmarked hmarked.origin
  have hclient := releaseFd_beside env key horigin horigin.client
  unfold teardown
  rw [h.conn]
  split_ifs
  · exact h
  · dsimp only
    rw [horigin.conn]
    exact hclient.act .free

theorem arrival_beside (env : Env) (key : SelectorKey) (st : SocksV5State)
    (h : Beside a frame s t) :
    Beside a frame (callIfSome (socks5States env key st).onArrival s)
      (callIfSome (socks5States env key st).onArrival t) := by
  rcases st
  · change Beside a frame (greetingArrival s) (greetingArrival t)
    unfold greetingArrival
    rw [h.conn]
    exact h.setConn _ rfl h.origin
  · change Beside a frame (authArrival s) (authArrival t)
    unfold authArrival
    rw [h.conn]
    exact h.setConn _ rfl h.origin
  · change Beside a frame (requestArrival s) (requestArrival t)
    unfold requestArrival
    rw [h.conn]
    exact h.setConn _ rfl h.origin
  · exact h
  · exact replyArrival_beside h
  · exact socksv5CopyArrival_beside h
  · exact h
  · exact h

theorem settle_beside {r r' : Session × SocksV5State} (h : BesideResult a frame r r') :
    Beside a frame (settle env key st r) (settle env key st r') := by
  obtain ⟨u, next⟩ := r
  obtain ⟨u', next'⟩ := r'
  obtain ⟨hnext, h⟩ := h
  cases hnext
  have hstm : ∀ {s t : Session}, Beside a frame s t → Beside a frame
      { s with conn.stm := some next } { t with conn.stm := some next } := by
    intro s t h
    rw [h.conn]
    exact h.setConn _ rfl h.origin
  by_cases hstop : next = .error ∨ next = .done
  · rw [settle_stop hstop, settle_stop hstop]
    exact teardown_beside (hstm h)
  · obtain ⟨herror, hdone⟩ := not_or.mp hstop
    by_cases hst : st = next
    · rw [hst, settle_stay herror hdone, settle_stay herror hdone]
      exact hstm h
    · rw [settle_move hst herror hdone, settle_move hst herror hdone]
      exact hstm (arrival_beside env key next h)

/-- Both releases fail, or neither does. -/
theorem finish_beside {r r' : Session × SocksV5State} (h : BesideResult a frame r r') :
    SameOutcome (Beside a frame) (finish env key st r) (finish env key st r') := by
  have haborts : Aborts r' ↔ Aborts r := by
    rw [Aborts, Aborts, h.1, h.2.conn]
  by_cases habort : Aborts r
  · rw [finish, finish, if_pos habort, if_pos (haborts.mpr habort)]
    exact .fault _
  · rw [finish, finish, if_neg habort, if_neg (mt haborts.mp habort)]
    exact .ok (settle_beside h)

theorem arrived_beside (h : Beside a frame s t) : Beside a frame s.arrived t.arrived := by
  unfold Session.arrived
  rw [h.conn]
  rcases s.conn.stm with _ | st
  · exact arrival_beside default default .greeting h
  · exact h

end Done

/-! ## One event -/

section Step

variable {a : ℕ} {frame : SelectorFrame FdHandler ℕ} {s t : Session} {env : Env}
  {key : SelectorKey} {fd : ℤ}

/-- One event of the selector: the callback of the current state, then the jump. -/
theorem dispatch_eq (select : StateDefinition Session SocksV5State →
      Option (Session → Except Fault (Session × SocksV5State))) (env : Env) (key : SelectorKey)
    (s : Session) :
    dispatch (stmHandler select) env key s =
      match select (socks5States env key s.state) with
      | none => .error .assertion
      | some callback => callback s.arrived >>= finish env key s.state := by
  rcases hselect : select (socks5States env key s.state) with _ | callback
  · unfold dispatch stmHandler
    rw [handleFirst_socks5States]
    dsimp only
    rw [hselect]
  · dsimp only
    rcases hcall : callback s.arrived with fault | r
    · unfold dispatch stmHandler
      rw [handleFirst_socks5States]
      dsimp only
      rw [hselect]
      dsimp only
      rw [hcall]
      rfl
    · exact dispatch_of_callback hselect hcall

theorem dispatch_beside {select : StateDefinition Session SocksV5State →
      Option (Session → Except Fault (Session × SocksV5State))} (h : Beside a frame s t)
    (hcall : ∀ callback, select (socks5States env key s.state) = some callback →
      SameOutcome (BesideResult a frame) (callback s.arrived) (callback t.arrived)) :
    SameOutcome (Beside a frame) (dispatch (stmHandler select) env key s)
      (dispatch (stmHandler select) env key t) := by
  have hstate : t.state = s.state := by
    unfold Session.state
    rw [h.conn]
  rw [dispatch_eq, dispatch_eq, hstate]
  rcases hselect : select (socks5States env key s.state) with _ | callback
  · exact .fault _
  · have hsame := hcall callback hselect
    dsimp only
    generalize callback s.arrived = r at hsame ⊢
    generalize callback t.arrived = r' at hsame ⊢
    cases hsame with
    | fault fault => exact .fault fault
    | ok h => exact finish_beside h

/-- The descriptors an event names, and the sockets its callback opens, are not
in the frame. -/
def OwnEvent (frame : SelectorFrame FdHandler ℕ) (s : Session) : Event → Prop
  | .read fd env | .block fd env =>
    frame fd = none ∧ (s.state = .request → ∀ round, frame (env.attempts round).socket = none)
  | .write fd env =>
    frame fd = none ∧ (s.state = .connect → ∀ round, frame (env.attempts round).socket = none)
  | .resolved _ | .connectFinished _ => True

theorem step_read_beside (hcopy : s.state = .copy → OwnCopyFds frame s)
    (hown : OwnEvent frame s (.read fd env)) (h : Beside a frame s t) :
    SameOutcome (Beside a frame) (socksv5Read env ⟨fd, s.address⟩ s)
      (socksv5Read env ⟨fd, s.address⟩ t) := by
  have harrived := arrived_beside h
  obtain ⟨hfd, hsockets⟩ := hown
  refine dispatch_beside h ?_
  intro callback hselect
  rcases hstate : s.state <;> rw [hstate] at hselect hsockets hcopy <;> cases hselect
  · exact .ok (greetingRead_beside hfd harrived)
  · exact .ok (authRead_beside hfd harrived)
  · exact requestRead_beside ⟨h.here, hsockets rfl⟩ harrived
  · obtain ⟨-, hsame⟩ := arrived_of_some (stm_of_state hstate (by decide))
    rw [hsame] at harrived ⊢
    exact .ok (socksv5CopyRead_beside (hcopy rfl) harrived)

theorem step_write_beside (hcopy : s.state = .copy → OwnCopyFds frame s)
    (hown : OwnEvent frame s (.write fd env)) (h : Beside a frame s t) :
    SameOutcome (Beside a frame) (socksv5Write env ⟨fd, s.address⟩ s)
      (socksv5Write env ⟨fd, s.address⟩ t) := by
  have harrived := arrived_beside h
  obtain ⟨hfd, hsockets⟩ := hown
  refine dispatch_beside h ?_
  intro callback hselect
  rcases hstate : s.state <;> rw [hstate] at hselect hsockets hcopy <;> cases hselect
  · exact .ok (greetingWrite_beside hfd harrived)
  · exact .ok (authWrite_beside hfd harrived)
  · exact connectWrite_beside ⟨h.here, hsockets rfl⟩ harrived
  · exact .ok (replyWrite_beside harrived)
  · obtain ⟨-, hsame⟩ := arrived_of_some (stm_of_state hstate (by decide))
    rw [hsame] at harrived ⊢
    exact .ok (socksv5CopyWrite_beside (hcopy rfl) harrived)

theorem step_block_beside (hown : OwnEvent frame s (.block fd env)) (h : Beside a frame s t) :
    SameOutcome (Beside a frame) (socksv5Block env ⟨fd, s.address⟩ s)
      (socksv5Block env ⟨fd, s.address⟩ t) := by
  have harrived := arrived_beside h
  obtain ⟨hfd, hsockets⟩ := hown
  refine dispatch_beside h ?_
  intro callback hselect
  rcases hstate : s.state <;> rw [hstate] at hselect hsockets <;> cases hselect
  exact connectToDest_beside ⟨h.here, hsockets rfl⟩ harrived

/-- One event of a connection does in the shared selector what it does in one
that has the connection's registrations alone, and leaves the others' as they
were. -/
theorem step_beside {e : Event} (hcopy : s.state = .copy → OwnCopyFds frame s)
    (hown : OwnEvent frame s e) (h : Beside a frame s t) :
    SameOutcome (Beside a frame) (step s e) (step t e) := by
  have haddress : t.address = s.address := h.there.trans h.here.symm
  unfold step
  rw [h.conn]
  split_ifs
  · exact .fault _
  · rcases e with ⟨fd, env⟩ | ⟨fd, env⟩ | ⟨fd, env⟩ | result | errno
    · unfold stepOpen
      rw [haddress]
      exact step_read_beside hcopy hown h
    · unfold stepOpen
      rw [haddress]
      exact step_write_beside hcopy hown h
    · have hblock := step_block_beside hown h
      unfold stepOpen
      rw [haddress]
      dsimp only
      generalize socksv5Block env ⟨fd, s.address⟩ s = r at hblock ⊢
      generalize socksv5Block env ⟨fd, s.address⟩ t = r' at hblock ⊢
      cases hblock with
      | fault fault => exact .fault fault
      | ok h => exact .ok (h.setSel (h.shares.congr rfl rfl))
    · have hset := h.setConn
        { s.conn with originResolution := result, resolvedByName := true } rfl h.origin
      have hshares : Shares a frame (selectorNotifyBlock s.sel s.conn.clientFd)
          (selectorNotifyBlock t.sel s.conn.clientFd) := h.shares.congr rfl rfl
      have hnotify := hset.setSel hshares
      unfold stepOpen resolveFqdnBlocking
      dsimp only
      rw [h.conn, h.resolvers]
      exact .ok ⟨hnotify.here, hnotify.there, hnotify.conn, rfl, hnotify.log, hnotify.shares,
        hnotify.client, hnotify.origin⟩
    · unfold stepOpen
      rw [h.conn]
      exact .ok (h.act _)

end Step

end Socks5Proxy

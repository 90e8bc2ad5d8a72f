import Socks5Proxy.Socks.RequestDecoding
import Socks5Proxy.Socks.Accepted

/-!
# A pending resolution and the client's bytes

After `resolve_fqdn` a connection waits in REQUEST for the notification of the
resolver, and the client's descriptor stays registered for reading.  A read
event in this window enters the decoder behind its length check, with whatever
the local `addrBytes` holds.
-/

namespace Socks5Proxy

open Library

/-- The resolver threads a log says were started. -/
def resolutions (log : List Action) : List (HostText × List UInt8) :=
  log.filterMap fun
    | .resolve host port => some (host, port)
    | _ => none

theorem resolutions_append (log log' : List Action) :
    resolutions (log ++ log') = resolutions log ++ resolutions log' :=
  List.filterMap_append

/-- The read event in which a connection in REQUEST starts a resolver and goes
on waiting for it. -/
structure StartsResolution (s : Session) (env : Env) (t : Session) : Prop where
  before : s.state = .request
  after : t.state = .request
  step : step s (.read s.conn.clientFd env) = .ok t
  started : t.resolvers ≠ s.resolvers

/-- What may happen to the connection until the notification is handled. -/
def Event.InWindow : Event → Prop
  | .read _ _ | .resolved _ => True
  | _ => False

/-- What `recv` returns to a read event of the window. -/
def windowBytes (s : Session) (env : Env) : List UInt8 :=
  (bufferRecv s.conn.clientBuffer env.recvDst).1.getD []

/-- Between `s` and `u` the resolution was left alone: no thread was started,
its host and port are in place, and the bytes behind the request are unread. -/
structure Isolated (s u : Session) : Prop where
  resolutions : resolutions u.log = resolutions s.log
  originHost : u.conn.originHost = s.conn.originHost
  originPort : u.conn.originPort = s.conn.originPort
  unread : ∃ got, clientBytes u = clientBytes s ++ got ∧
    u.conn.clientBuffer.content = s.conn.clientBuffer.content ++ got

/-- The one read event that leaves no trace: it finds nothing to read, cannot
start a thread, and rewrites a host of zeros and port 0. -/
structure Overlooked (s : Session) (env : Env) : Prop where
  noThread : env.startThread = false
  noBytes : s.conn.clientBuffer.content ++ windowBytes s env = []
  host : s.conn.originHost = .name (List.replicate env.addrBytes.toNat 0)
  port : s.conn.originPort = decimal 0

/-- Waiting for a resolver. -/
structure Resolving (s : Session) : Prop where
  stm : s.conn.stm = some .request
  state : s.conn.request.state = .dstRes
  atyp : s.conn.request.atyp = fqdn
  closed : s.conn.closed = false

section Window

variable {s t u : Session} {fd : ℤ} {env : Env}

theorem StartsResolution.resolving (h : StartsResolution s env t) : Resolving t := by
  obtain ⟨hstate, harrived⟩ := arrived_of_some (stm_of_state h.before (by decide))
  obtain ⟨hclosed, callback, ⟨v, st⟩, hselect, hcall, rfl⟩ := step_read_ok h.step
  have hst : st = .request := by
    have hafter := stm_of_state h.after (by decide)
    rw [settle_stm] at hafter
    exact Option.some.inj hafter
  subst hst
  rw [hstate] at hselect
  cases hselect
  rw [harrived] at hcall
  have hframe := requestRead_frame hcall
  have hstarted := h.started
  rw [hstate, settle_stay (by decide) (by decide)] at hstarted ⊢
  rcases requestRead_stays hcall with ⟨-, -, hsame⟩ | ⟨-, -, -, hsame⟩ |
    ⟨-, -, -, -, -, -, hsame, -, -, -⟩ | ⟨hres, hatyp, -⟩
  · exact absurd hsame hstarted
  · exact absurd hsame hstarted
  · exact absurd hsame hstarted
  · exact ⟨rfl, hres, hatyp, hframe.closed.trans hclosed⟩

/-- What a read event does to a pending resolution: it decodes another host
and port from the bytes behind the request. -/
structure Overwritten (s : Session) (env : Env) (t : Session) : Prop where
  originHost : t.conn.originHost =
    .name (taken env.addrBytes.toNat (s.conn.clientBuffer.content ++ windowBytes s env))
  originPort : t.conn.originPort = decimal (portOf
    ((s.conn.clientBuffer.content ++ windowBytes s env).drop env.addrBytes.toNat))
  received : clientBytes t = clientBytes s ++ windowBytes s env
  unread : t.conn.clientBuffer.content =
    (s.conn.clientBuffer.content ++ windowBytes s env).drop (env.addrBytes.toNat + 2)
  resolutions : resolutions t.log = resolutions s.log ++
    (if env.startThread then [(t.conn.originHost.cString, t.conn.originPort)] else [])
  state : t.state = (if env.startThread then .request else .reply)

theorem resolutions_recvAction (fd : ℤ) (readn : Option (List UInt8)) :
    resolutions [recvAction fd readn] = [] := by
  cases readn <;> rfl

theorem Resolving.read (h : Resolving s) (ht : step s (.read fd env) = .ok t) :
    Overwritten s env t := by
  obtain ⟨hstate, harrived⟩ := arrived_of_some h.stm
  obtain ⟨-, callback, r, hselect, hcall, rfl⟩ := step_read_ok ht
  rw [hstate] at hselect ⊢
  cases hselect
  obtain ⟨b, hb, hrecv⟩ := recvClientBuffer_snd s s.conn.clientFd env.recvDst
  have hb : b.content = s.conn.clientBuffer.content ++ windowBytes s env := hb
  rw [harrived] at hcall
  simp only [requestRead, h.state, resolveDstAddress, hrecv, reduceCtorEq, if_false] at hcall
  generalize hv : ({ s with conn.clientBuffer := b }).act (recvAction s.conn.clientFd
    (bufferRecv s.conn.clientBuffer env.recvDst).1) = v at hcall
  have hlen : dstLen env v = .next (v, env.addrBytes) := by
    rw [← hv]
    simp [dstLen, Session.act, h.state]
  have hres : dstRes env ⟨fd, s.address⟩ env.addrBytes v =
      .ok (dstFqdn env env.addrBytes v) := by
    rw [← hv]
    simp [dstRes, Session.act, h.atyp, fqdn, ipv4Addr]
  rw [hlen] at hcall
  dsimp only at hcall
  rw [hres, Except.ok.injEq] at hcall
  subst hcall
  obtain ⟨b', u, hb', hu, heq⟩ := dstFqdn_eq env env.addrBytes v
  rw [heq]
  have hcontent : v.conn.clientBuffer.content =
      s.conn.clientBuffer.content ++ windowBytes s env := by
    rw [← hv]
    exact hb
  have hbytes : clientBytes v = clientBytes s ++ windowBytes s env := by
    rw [clientBytes_append (s := s) (t := v) (by rw [← hv]; rfl) (by rw [← hv]; rfl)]
    simp [windowBytes]
  have hresolutions : resolutions v.log = resolutions s.log := by
    rw [← hv]
    change resolutions (s.log ++ _) = _
    rw [resolutions_append, resolutions_recvAction, List.append_nil]
  rw [hcontent] at hb' hu
  cases hthread : env.startThread with
  | true =>
      rw [if_neg (by decide), settle_stay (by decide) (by decide)]
      subst hu
      refine ⟨rfl, rfl, ?_, hb', ?_, ?_⟩
      · change bytesReceived v.conn.clientFd (v.log ++ [.resolve _ _]) = _
        rw [bytesReceived_append, ← hbytes]
        exact List.append_nil _
      · change resolutions (v.log ++ [.resolve _ _]) = _
        rw [resolutions_append, hresolutions, hthread]
        rfl
      · rw [hthread]
        rfl
  | false =>
      rw [if_pos rfl]
      obtain ⟨b'', found, hreply⟩ := replyArrival_eq env (replyWith serverFailure u).1
      have hmove : settle env ⟨fd, s.address⟩ .request (replyWith serverFailure u) =
          { replyArrival env (replyWith serverFailure u).1 with conn.stm := some .reply } :=
        settle_move (by decide) (by decide) (by decide)
      rw [hmove, hreply]
      subst hu
      refine ⟨rfl, rfl, hbytes, hb', ?_, ?_⟩
      · rw [hthread, if_neg (by decide), List.append_nil]
        exact hresolutions
      · rw [hthread]
        rfl

theorem Overwritten.isolated_iff (h : Overwritten s env t) (hthread : env.startThread = false) :
    Isolated s t ↔ Overlooked s env := by
  have hresolutions := h.resolutions
  rw [hthread, if_neg (by decide), List.append_nil] at hresolutions
  constructor
  · rintro ⟨-, hhost, hport, got, hgot, hunread⟩
    have hgot : windowBytes s env = got := List.append_cancel_left (h.received.symm.trans hgot)
    subst hgot
    have hnil : s.conn.clientBuffer.content ++ windowBytes s env = [] := by
      have hlen := congrArg List.length (h.unread.symm.trans hunread)
      rw [List.length_drop] at hlen
      exact List.eq_nil_of_length_eq_zero (by omega)
    refine ⟨hthread, hnil, ?_, ?_⟩
    · rw [← hhost, h.originHost, hnil, taken_nil]
    · rw [← hport, h.originPort, hnil, List.drop_nil]
      rfl
  · rintro ⟨-, hnil, hhost, hport⟩
    refine ⟨hresolutions, ?_, ?_, windowBytes s env, h.received, ?_⟩
    · rw [h.originHost, hnil, hhost, taken_nil]
    · rw [h.originPort, hnil, hport, List.drop_nil]
      rfl
    · rw [h.unread, hnil, List.drop_nil]

/-- Once the connection has left for REPLY, only resolvers can go on. -/
theorem window_of_reply {es : List Event} (hstate : s.state = .reply)
    (hwindow : ∀ e ∈ es, e.InWindow) (hrun : run step s es = .ok u) :
    (∀ fd env, Event.read fd env ∉ es) ∧ ∀ s', Isolated s' u ↔ Isolated s' s := by
  induction es generalizing s with
  | nil =>
      cases hrun
      exact ⟨by simp, fun _ => Iff.rfl⟩
  | cons e es ih =>
      obtain ⟨t, ht, htu⟩ := run_cons_ok_iff.mp hrun
      cases e with
      | read fd env =>
          obtain ⟨-, callback, r, hselect, -⟩ := step_read_ok ht
          rw [hstate] at hselect
          cases hselect
      | resolved result =>
          rw [(step_resolved_ok_iff.mp ht).2] at htu
          have hreply : (resolveFqdnBlocking result s).state = .reply := hstate
          obtain ⟨hnone, hiff⟩ := ih hreply (fun e he => hwindow e (List.mem_cons_of_mem _ he)) htu
          refine ⟨by simpa using hnone, ?_⟩
          intro s'
          rw [hiff s']
          exact ⟨fun h => ⟨h.1, h.2, h.3, h.4⟩, fun h => ⟨h.1, h.2, h.3, h.4⟩⟩
      | write fd env => exact (hwindow _ List.mem_cons_self).elim
      | block fd env => exact (hwindow _ List.mem_cons_self).elim
      | connectFinished errno => exact (hwindow _ List.mem_cons_self).elim

theorem Resolving.isolated_iff {es : List Event} (h : Resolving s)
    (hwindow : ∀ e ∈ es, e.InWindow) (hrun : run step s es = .ok u) :
    Isolated s u ↔ ∀ fd env, Event.read fd env ∈ es → Overlooked s env := by
  induction es generalizing s with
  | nil =>
      cases hrun
      refine iff_of_true ?_ (by simp)
      exact ⟨rfl, rfl, rfl, [], (List.append_nil _).symm, (List.append_nil _).symm⟩
  | cons e es ih =>
      obtain ⟨t, ht, htu⟩ := run_cons_ok_iff.mp hrun
      have hrest : ∀ e ∈ es, e.InWindow := fun e he => hwindow e (List.mem_cons_of_mem _ he)
      cases e with
      | read fd env =>
          have hover := h.read ht
          cases hthread : env.startThread with
          | true =>
              refine iff_of_false ?_ ?_
              · intro hisolated
                obtain ⟨log, hlog⟩ := (run_persists htu).log
                have hlen := congrArg List.length hisolated.resolutions
                rw [← hlog, resolutions_append, hover.resolutions, hthread] at hlen
                simp at hlen
              · intro hall
                have hno := (hall fd env List.mem_cons_self).noThread
                rw [hthread] at hno
                cases hno
          | false =>
              have hreply : t.state = .reply := by
                rw [hover.state, hthread]
                rfl
              obtain ⟨hnone, hiff⟩ := window_of_reply hreply hrest htu
              rw [hiff s, hover.isolated_iff hthread]
              constructor
              · intro hoverlooked fd' env' hmem
                rcases List.mem_cons.mp hmem with heq | htail
                · cases heq
                  exact hoverlooked
                · exact absurd htail (hnone fd' env')
              · intro hall
                exact hall fd env List.mem_cons_self
      | resolved result =>
          rw [(step_resolved_ok_iff.mp ht).2] at htu
          have hnext : Resolving (resolveFqdnBlocking result s) :=
            ⟨h.stm, h.state, h.atyp, h.closed⟩
          have hiff := ih hnext hrest htu
          constructor
          · intro hisolated fd env hmem
            have hmem : Event.read fd env ∈ es := by simpa using hmem
            have hover := hiff.mp ⟨hisolated.1, hisolated.2, hisolated.3, hisolated.4⟩ fd env hmem
            exact ⟨hover.1, hover.2, hover.3, hover.4⟩
          · intro hall
            have hisolated := hiff.mpr fun fd env hmem => by
              have hover := hall fd env (List.mem_cons_of_mem _ hmem)
              exact ⟨hover.1, hover.2, hover.3, hover.4⟩
            exact ⟨hisolated.1, hisolated.2, hisolated.3, hisolated.4⟩
      | write fd env => exact (hwindow _ List.mem_cons_self).elim
      | block fd env => exact (hwindow _ List.mem_cons_self).elim
      | connectFinished errno => exact (hwindow _ List.mem_cons_self).elim

end Window

/-- From the event that starts a resolver to the notification that ends the
wait, the resolution is isolated from the client exactly when no read event is
dispatched, or only one that is overlooked. -/
theorem resolution_isolated_iff {s₀ s u : Session} {env : Env} {es : List Event}
    (hstart : StartsResolution s₀ env s) (hwindow : ∀ e ∈ es, e.InWindow)
    (hrun : run step s es = .ok u) :
    Isolated s u ↔ ∀ fd env, Event.read fd env ∈ es → Overlooked s env :=
  hstart.resolving.isolated_iff hwindow hrun

/-- The request for the name `a` and port 80. -/
def queryEnv : Env :=
  { receives [0x05, 0x01, 0x00, 0x03, 0x01, 0x61, 0x00, 0x50] with startThread := true }

/-- One more byte from the client. -/
def lateByte : Env := { (default : Env) with recvDst := some [0x41], startThread := true }

/-- The first client of a server, with a resolution pending. -/
theorem query_pending :
    StartsResolution (firstSessionAfter greetingExchange) queryEnv
      (firstSessionAfter (greetingExchange ++ [.read 4 queryEnv])) where
  before := by decide +kernel
  after := by decide +kernel
  step := by
    have hfd : (firstSessionAfter greetingExchange).conn.clientFd = 4 := by decide +kernel
    rw [hfd]
    exact step_firstSession (by decide +kernel)
  started := by decide +kernel

/-- The byte `41` behind the request, and a second resolver is at work. -/
theorem lateByte_disturbs :
    ∃ s₀ s₁ s u, socksv5PassiveAccept bufferSizeDefault emptySelector metricsInit firstClient =
        some s₀ ∧
      Steps step Enabled s₀ (greetingExchange ++ [.read 4 queryEnv, .read 4 lateByte]) ∧
      run step s₀ greetingExchange = .ok s₁ ∧ StartsResolution s₁ queryEnv s ∧
      run step s [.read 4 lateByte] = .ok u ∧ ¬ Isolated s u := by
  have hlate : step (firstSessionAfter (greetingExchange ++ [.read 4 queryEnv]))
      (.read 4 lateByte) =
        .ok (firstSessionAfter (greetingExchange ++ [.read 4 queryEnv] ++ [.read 4 lateByte])) :=
    step_firstSession (by decide +kernel)
  refine ⟨firstSession, _, _, _, firstSession_accepted, by decide +kernel,
    run_firstSession (by decide +kernel), query_pending,
    run_cons_ok_iff.mpr ⟨_, hlate, rfl⟩, ?_⟩
  intro hisolated
  have htwice : resolutions
      (firstSessionAfter (greetingExchange ++ [.read 4 queryEnv] ++ [.read 4 lateByte])).log ≠
        resolutions (firstSessionAfter (greetingExchange ++ [.read 4 queryEnv])).log := by
    decide +kernel
  exact htwice hisolated.resolutions

/-- The resolver answers before the client sends anything more, or behind one
more byte. -/
theorem resolution_isolated_iff_quiet :
    (∃ u, run step (firstSessionAfter (greetingExchange ++ [.read 4 queryEnv]))
        [.resolved []] = .ok u ∧
      Isolated (firstSessionAfter (greetingExchange ++ [.read 4 queryEnv])) u) ∧
    ∃ u, run step (firstSessionAfter (greetingExchange ++ [.read 4 queryEnv]))
        [.read 4 lateByte, .resolved []] = .ok u ∧
      ¬ Isolated (firstSessionAfter (greetingExchange ++ [.read 4 queryEnv])) u := by
  constructor
  · have hanswered : step (firstSessionAfter (greetingExchange ++ [.read 4 queryEnv]))
        (.resolved []) =
          .ok (firstSessionAfter (greetingExchange ++ [.read 4 queryEnv] ++ [.resolved []])) :=
      step_firstSession (by decide +kernel)
    have hrun := run_cons_ok_iff.mpr ⟨_, hanswered, run_nil _⟩
    refine ⟨_, hrun, (resolution_isolated_iff query_pending ?_ hrun).mpr ?_⟩
    · simp [Event.InWindow]
    · simp
  · have hlate : step (firstSessionAfter (greetingExchange ++ [.read 4 queryEnv]))
        (.read 4 lateByte) =
          .ok (firstSessionAfter (greetingExchange ++ [.read 4 queryEnv] ++ [.read 4 lateByte])) :=
      step_firstSession (by decide +kernel)
    have hanswered : step (firstSessionAfter
          (greetingExchange ++ [.read 4 queryEnv] ++ [.read 4 lateByte])) (.resolved []) =
        .ok (firstSessionAfter
          (greetingExchange ++ [.read 4 queryEnv] ++ [.read 4 lateByte] ++ [.resolved []])) :=
      step_firstSession (by decide +kernel)
    have hrun := run_cons_ok_iff.mpr ⟨_, hlate, run_cons_ok_iff.mpr ⟨_, hanswered, run_nil _⟩⟩
    refine ⟨_, hrun, fun hisolated => ?_⟩
    have hoverlooked := (resolution_isolated_iff query_pending ?_ hrun).mp hisolated 4 lateByte
      List.mem_cons_self
    · cases hoverlooked.noThread
    · simp [Event.InWindow]

end Socks5Proxy

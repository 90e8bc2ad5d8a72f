import Mathlib.Algebra.Group.Nat.Defs
import Socks5Proxy.Socks.ConnectionCount

/-!
# The two byte counters

`metrics.h` declares `register_bytes_transferred` with the bytes sent first and
`metrics.c` defines it with the bytes received first.  COPY calls it in the
order of the header, so that each counter grows by what the other should.
-/

namespace Socks5Proxy

open Library

/-! ## The traffic of COPY -/

/-- What `recv` returns in `socksv5_copy_read`, if it is called and the result
is positive. -/
def copyReceived (env : Env) (key : SelectorKey) (s : Session) : ℕ :=
  let dst := (s.copySt (keySide key s)).otherCopySt
  if bufferCanWrite (s.buffer (s.copySt dst).buffer) = false then
    0
  else
    match (bufferRecv (s.buffer (s.copySt dst).buffer) env.recv).1 with
    | some bytes => bytes.length
    | none => 0

/-- What `send` returns in `socksv5_copy_write`, if it is called and the result
is positive. -/
def copySent (env : Env) (key : SelectorKey) (s : Session) : ℕ :=
  let src := keySide key s
  if bufferCanRead (s.buffer (s.copySt src).buffer) = false then
    0
  else
    match (bufferSend (s.buffer (s.copySt src).buffer) env.send).1 with
    | some bytes => bytes.length
    | none => 0

/-- The bytes an event of a connection receives in COPY. -/
def Event.copyReceived (s : Session) : Event → ℕ
  | .read fd env => if s.state = .copy then Socks5Proxy.copyReceived env ⟨fd, s.address⟩ s else 0
  | _ => 0

/-- The bytes an event of a connection sends in COPY. -/
def Event.copySent (s : Session) : Event → ℕ
  | .write fd env => if s.state = .copy then Socks5Proxy.copySent env ⟨fd, s.address⟩ s else 0
  | _ => 0

/-- The same for an event of the server. -/
def ServerEvent.copyReceived (v : Server) : ServerEvent → ℕ
  | .connection i e => (v.connections[i]?).elim 0 fun c => e.copyReceived (v.session c)
  | _ => 0

def ServerEvent.copySent (v : Server) : ServerEvent → ℕ
  | .connection i e => (v.connections[i]?).elim 0 fun c => e.copySent (v.session c)
  | _ => 0

/-- All bytes COPY has received in a run of the server, over all connections. -/
def totalReceived (bufferSize : ℕ) : Server → List ServerEvent → ℕ :=
  runTotal (serverStep bufferSize) ServerEvent.copyReceived

def totalSent (bufferSize : ℕ) : Server → List ServerEvent → ℕ :=
  runTotal (serverStep bufferSize) ServerEvent.copySent

/-! ## What an event counts -/

/-- The bytes received are counted as sent, and the bytes sent as received. -/
structure CountsBytes (m m' : MetricSnapshot) (received sent : ℕ) : Prop where
  totalBytesSent : m'.totalBytesSent = m.totalBytesSent + UInt64.ofNat received
  totalBytesReceived : m'.totalBytesReceived = m.totalBytesReceived + UInt64.ofNat sent

/-- The byte counters are the same. -/
structure SameBytes (m m' : MetricSnapshot) : Prop where
  sent : m'.totalBytesSent = m.totalBytesSent
  received : m'.totalBytesReceived = m.totalBytesReceived

section Counting

variable {m m' m'' : MetricSnapshot} {received sent : ℕ}

theorem SameBytes.refl (m : MetricSnapshot) : SameBytes m m := ⟨rfl, rfl⟩

theorem SameBytes.of_eq (h : m' = m) : SameBytes m m' := by
  rw [h]
  exact .refl m

theorem SameBytes.trans (h : SameBytes m m') (h' : SameBytes m' m'') : SameBytes m m'' :=
  ⟨h'.sent.trans h.sent, h'.received.trans h.received⟩

theorem SameBytes.counts (h : SameBytes m m') : CountsBytes m m' 0 0 where
  totalBytesSent := h.sent.trans (UInt64.add_zero _).symm
  totalBytesReceived := h.received.trans (UInt64.add_zero _).symm

theorem CountsBytes.same (h : CountsBytes m m' received sent) (h' : SameBytes m' m'') :
    CountsBytes m m'' received sent :=
  ⟨h'.sent.trans h.totalBytesSent, h'.received.trans h.totalBytesReceived⟩

theorem CountsBytes.after (h : CountsBytes m' m'' received sent) (h' : SameBytes m m') :
    CountsBytes m m'' received sent where
  totalBytesSent := by rw [h.totalBytesSent, h'.sent]
  totalBytesReceived := by rw [h.totalBytesReceived, h'.received]

theorem toNat_add_ofNat (a : UInt64) (n : ℕ) :
    (a + UInt64.ofNat n).toNat % 2 ^ 64 = (a.toNat + n) % 2 ^ 64 := by
  rw [UInt64.toNat_add, UInt64.toNat_ofNat', Nat.mod_mod, Nat.add_mod_mod]

theorem registerNewConnection_sameBytes (m : MetricSnapshot) :
    SameBytes m (registerNewConnection m) := ⟨rfl, rfl⟩

theorem registerConnectionClosed_sameBytes (m : MetricSnapshot) :
    SameBytes m (registerConnectionClosed m) := by
  unfold registerConnectionClosed
  split_ifs
  · exact ⟨rfl, rfl⟩
  · exact .refl m

theorem uint64_ofInt_natCast (n : ℕ) : UInt64.ofInt n = UInt64.ofNat n := by
  rw [UInt64.ofInt, ← UInt64.toNat_inj, UInt64.toNat_ofNat', UInt64.toNat_ofNat']
  omega

/-- `register_bytes_transferred(0, n)`. -/
theorem registerBytesTransferred_received (m : MetricSnapshot) (n : ℕ) :
    CountsBytes m (registerBytesTransferred m 0 (n + 1)) (n + 1) 0 where
  totalBytesSent := congrArg (m.totalBytesSent + ·) (uint64_ofInt_natCast (n + 1))
  totalBytesReceived := congrArg (m.totalBytesReceived + ·) (uint64_ofInt_natCast 0)

/-- `register_bytes_transferred(n, 0)`. -/
theorem registerBytesTransferred_sent (m : MetricSnapshot) (n : ℕ) :
    CountsBytes m (registerBytesTransferred m (n + 1) 0) 0 (n + 1) where
  totalBytesSent := congrArg (m.totalBytesSent + ·) (uint64_ofInt_natCast 0)
  totalBytesReceived := congrArg (m.totalBytesReceived + ·) (uint64_ofInt_natCast (n + 1))

end Counting

/-! ### The callbacks -/

section Callbacks

variable {s t : Session} {env : Env} {key : SelectorKey} {st : SocksV5State} {e : Event}
  {r : Session × SocksV5State}

theorem socksv5CopyRead_counts (env : Env) (key : SelectorKey) (s : Session) :
    CountsBytes s.metrics (socksv5CopyRead env key s).1.metrics (copyReceived env key s) 0 := by
  unfold socksv5CopyRead copyReceived
  dsimp only
  split
  · exact (SameBytes.refl _).counts
  · rcases hrecv : bufferRecv _ env.recv with ⟨_ | ⟨_ | ⟨byte, bytes⟩⟩, b⟩
    · dsimp only
      rw [copyResult_fst, shutWrite_metrics, shutRead_metrics]
      exact (SameBytes.refl _).counts
    · dsimp only
      rw [copyResult_fst, shutWrite_metrics, shutRead_metrics]
      exact (SameBytes.refl _).counts
    · dsimp only
      rw [afterTransfer_metrics]
      exact (registerBytesTransferred_received _ bytes.length).after (.of_eq setBuffer_metrics)

theorem socksv5CopyWrite_counts (env : Env) (key : SelectorKey) (s : Session) :
    CountsBytes s.metrics (socksv5CopyWrite env key s).1.metrics 0 (copySent env key s) := by
  unfold socksv5CopyWrite copySent
  dsimp only
  split
  · exact (SameBytes.refl _).counts
  · rcases hsend : bufferSend _ env.send with ⟨_ | ⟨_ | ⟨byte, bytes⟩⟩, b⟩
    · dsimp only
      rw [copyResult_fst, shutRead_metrics, shutWrite_metrics]
      exact (SameBytes.refl _).counts
    · dsimp only
      rw [copyResult_fst, shutRead_metrics, shutWrite_metrics]
      exact (SameBytes.refl _).counts
    · dsimp only
      rw [afterTransfer_metrics]
      exact (registerBytesTransferred_sent _ bytes.length).after (.of_eq setBuffer_metrics)

theorem releaseFd_sameBytes (env : Env) (key : SelectorKey) (fd : ℤ) (s : Session) :
    SameBytes s.metrics (releaseFd env key fd s).metrics := by
  rw [(releaseFd_counts env key fd s).2]
  split_ifs
  · exact registerConnectionClosed_sameBytes _
  · exact .refl _

/-- Teardown counts connections only. -/
theorem teardown_sameBytes (env : Env) (key : SelectorKey) (s : Session) :
    SameBytes s.metrics (teardown env key s).metrics := by
  unfold teardown
  split_ifs
  · exact .refl _
  · exact (releaseFd_sameBytes env key s.conn.originFd { s with conn.closed := true }).trans
      (releaseFd_sameBytes env key _ _)

theorem settle_sameBytes (env : Env) (key : SelectorKey) (st : SocksV5State)
    (r : Session × SocksV5State) : SameBytes r.1.metrics (settle env key st r).metrics := by
  obtain ⟨u, next⟩ := r
  by_cases hstop : next = .error ∨ next = .done
  · rw [settle_stop hstop]
    exact teardown_sameBytes env key { u with conn.stm := some next }
  · obtain ⟨herror, hdone⟩ := not_or.mp hstop
    by_cases hst : st = next
    · rw [hst, settle_stay herror hdone]
      exact .refl _
    · rw [settle_move hst herror hdone]
      exact .of_eq (arrival_metrics env key next u)

/-- An event of one connection. -/
theorem step_counts (h : step s e = .ok t) :
    CountsBytes s.metrics t.metrics (e.copyReceived s) (e.copySent s) := by
  have harrived : SameBytes s.metrics s.arrived.metrics := .of_eq (arrived_metrics s)
  rcases e with ⟨fd, env⟩ | ⟨fd, env⟩ | ⟨fd, env⟩ | result | errno
  · obtain ⟨-, callback, r, hselect, hcall, rfl⟩ := step_read_ok h
    refine CountsBytes.same ?_ (settle_sameBytes env _ _ r)
    by_cases hst : s.state = .copy
    · rw [Event.copyReceived, if_pos hst]
      rw [(arrived_of_some (stm_of_state hst (by decide))).2] at hcall
      rw [hst] at hselect
      cases hselect
      rw [← Except.ok.inj hcall]
      exact socksv5CopyRead_counts env ⟨fd, s.address⟩ s
    · rw [Event.copyReceived, if_neg hst]
      exact (harrived.trans (.of_eq (onReadReady_metrics hselect hcall hst))).counts
  · obtain ⟨-, callback, r, hselect, hcall, rfl⟩ := step_write_ok h
    refine CountsBytes.same ?_ (settle_sameBytes env _ _ r)
    by_cases hst : s.state = .copy
    · rw [Event.copySent, if_pos hst]
      rw [(arrived_of_some (stm_of_state hst (by decide))).2] at hcall
      rw [hst] at hselect
      cases hselect
      rw [← Except.ok.inj hcall]
      exact socksv5CopyWrite_counts env ⟨fd, s.address⟩ s
    · rw [Event.copySent, if_neg hst]
      exact (harrived.trans (.of_eq (onWriteReady_metrics hselect hcall hst))).counts
  · obtain ⟨-, callback, r, u, hselect, hcall, rfl, rfl⟩ := step_block_ok h
    exact ((harrived.trans (.of_eq (onBlockReady_metrics hselect hcall))).trans
      (settle_sameBytes env ⟨fd, s.address⟩ s.state r)).counts
  · rw [step] at h
    split_ifs at h
    rw [← Except.ok.inj h]
    exact (SameBytes.refl _).counts
  · rw [step] at h
    split_ifs at h
    rw [← Except.ok.inj h]
    exact (SameBytes.refl _).counts

end Callbacks

/-! ## The server -/

section Server

variable {bufferSize : ℕ} {v w : Server} {e : ServerEvent}

theorem passiveAccept_sameBytes (bufferSize : ℕ) (v : Server) (malloc : Bool) (a : Accepted) :
    SameBytes v.metrics (v.passiveAccept bufferSize malloc a).metrics := by
  unfold Server.passiveAccept
  dsimp only
  split_ifs
  · exact registerNewConnection_sameBytes v.metrics
  · split
    · exact registerNewConnection_sameBytes v.metrics
    · exact registerNewConnection_sameBytes v.metrics

/-- An event of the server. -/
theorem serverStep_counts (h : serverStep bufferSize v e = .ok w) :
    CountsBytes v.metrics w.metrics (e.copyReceived v) (e.copySent v) := by
  rcases e with _ | ⟨malloc, a⟩ | ⟨i, e⟩
  · rw [← Except.ok.inj h]
    exact (SameBytes.refl _).counts
  · rw [← Except.ok.inj h]
    exact (passiveAccept_sameBytes bufferSize v malloc a).counts
  · rw [serverStep] at h
    rw [ServerEvent.copyReceived, ServerEvent.copySent]
    rcases hc : v.connections[i]? with _ | c
    · rw [hc] at h
      rw [← Except.ok.inj h]
      exact (SameBytes.refl _).counts
    · rw [hc] at h
      dsimp only at h
      rcases hstep : step (v.session c) e with fault | t
      · rw [hstep] at h
        cases h
      · rw [hstep] at h
        rw [← Except.ok.inj h]
        exact step_counts hstep

/-- Over a run, each counter holds what the other should. -/
theorem run_counts {sel : FdSelector FdHandler ℕ} {es : List ServerEvent}
    (hrun : run (serverStep bufferSize) (.start sel) es = .ok w) :
    w.metrics.totalBytesSent.toNat = totalReceived bufferSize (.start sel) es % 2 ^ 64 ∧
      w.metrics.totalBytesReceived.toNat = totalSent bufferSize (.start sel) es % 2 ^ 64 := by
  have hsent : w.metrics.totalBytesSent.toNat % 2 ^ 64 =
      (0 + totalReceived bufferSize (.start sel) es) % 2 ^ 64 := by
    refine run_runTotal (c := fun v => v.metrics.totalBytesSent.toNat) (fun h => ?_) hrun
    rw [(serverStep_counts h).totalBytesSent, toNat_add_ofNat]
  have hreceived : w.metrics.totalBytesReceived.toNat % 2 ^ 64 =
      (0 + totalSent bufferSize (.start sel) es) % 2 ^ 64 := by
    refine run_runTotal (c := fun v => v.metrics.totalBytesReceived.toNat) (fun h => ?_) hrun
    rw [(serverStep_counts h).totalBytesReceived, toNat_add_ofNat]
  rw [Nat.mod_eq_of_lt (UInt64.toNat_lt _), Nat.zero_add] at hsent hreceived
  exact ⟨hsent, hreceived⟩

/-- The counters follow the traffic. -/
structure BytesExact (bufferSize : ℕ) (v : Server) (es : List ServerEvent) (w : Server) : Prop where
  totalBytesReceived :
    w.metrics.totalBytesReceived.toNat = totalReceived bufferSize v es % 2 ^ 64
  totalBytesSent : w.metrics.totalBytesSent.toNat = totalSent bufferSize v es % 2 ^ 64

/-- The counters are swapped, which is not seen as long as COPY has sent as
many bytes as it has received. -/
theorem bytes_exact_iff (bufferSize : ℕ) (sel : FdSelector FdHandler ℕ) (es : List ServerEvent)
    (w : Server) (hrun : run (serverStep bufferSize) (.start sel) es = .ok w) :
    BytesExact bufferSize (.start sel) es w ↔
      totalReceived bufferSize (.start sel) es % 2 ^ 64 =
        totalSent bufferSize (.start sel) es % 2 ^ 64 := by
  obtain ⟨hsent, hreceived⟩ := run_counts hrun
  constructor
  · rintro ⟨hexact, -⟩
    rw [← hexact, hreceived]
  · intro h
    exact ⟨by rw [hreceived, h], by rw [hsent, h]⟩

end Server

/-! ### One byte -/

/-- The first client is connected and sends one byte. -/
def firstByteArrives : List ServerEvent := firstConnects ++ [.connection 0 (.read 4 (receives [7]))]

/-- The byte has been received, and the counter of received bytes is zero. -/
theorem firstByteArrives_miscounted :
    run (serverStep bufferSizeDefault) (.start emptySelector) firstByteArrives =
        .ok (serverAfter firstByteArrives) ∧
      ¬ BytesExact bufferSizeDefault (.start emptySelector) firstByteArrives
        (serverAfter firstByteArrives) := by
  refine ⟨run_serverAfter (by decide +kernel), fun hexact => ?_⟩
  exact absurd hexact.totalBytesReceived (by decide +kernel)

/-- Once the byte has been sent on, both counters are right. -/
theorem bytes_exact_iff_firstByte :
    BytesExact bufferSizeDefault (.start emptySelector)
      (firstByteArrives ++ [.connection 0 (.write 5 (sends 1))])
      (serverAfter (firstByteArrives ++ [.connection 0 (.write 5 (sends 1))])) :=
  (bytes_exact_iff _ _ _ _ (run_serverAfter (by decide +kernel))).mpr (by decide +kernel)

end Socks5Proxy

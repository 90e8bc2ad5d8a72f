import Mathlib.Algebra.GroupWithZero.Nat
import Socks5Proxy.Socks.ConnectSuccess

/-!
# When a queued reply reaches the client

`reply_arrival` queues the reply, and `reply_write` sends it piece by piece.
It is queued as a whole only if the origin socket has a name.  Until the last
byte is out, REPLY can take nothing but write events; a notification finds no
callback and aborts the server.
-/

namespace Socks5Proxy

open Library

/-! ## Complete replies -/

/-- `05 REP 00 ATYP BND.ADDR BND.PORT`. -/
def CompleteReply (rep : UInt8) (bytes : List UInt8) : Prop :=
  ∃ atyp addr port, bytes = [socks5Version, rep, rsv, atyp] ++ (addr ++ port) ∧
    (atyp = ipv4Addr ∧ addr.length = ipv4AddrLen ∨
      atyp = ipv6Addr ∧ addr.length = ipv6AddrLen) ∧ port.length = 2

/-- What `reply_arrival` writes for a socket of this name. -/
def replyBytes (rep : UInt8) (addr : SockAddr) : List UInt8 :=
  [socks5Version, rep, rsv] ++ (bndAddrBytes addr ++ portBytes (bndPort addr))

/-- The two address structures hold four and sixteen bytes. -/
def SockAddr.Sized (addr : SockAddr) : Prop :=
  match addr.family with
  | .inet => addr.addr.length = ipv4AddrLen
  | .inet6 => addr.addr.length = ipv6AddrLen
  | .other => True

/-- The names the event's `getsockname` returns are of these structures. -/
def NamesSized : Event → Prop
  | .read _ env | .write _ env | .block _ env =>
    ∀ addr, env.getsockname = some addr → addr.Sized
  | _ => True

section Replies

variable {rep : UInt8} {bytes : List UInt8} {addr : SockAddr} {n : ℕ}

theorem CompleteReply.length (h : CompleteReply rep bytes) :
    bytes[3]? = some ipv4Addr ∧ bytes.length = 10 ∨
      bytes[3]? = some ipv6Addr ∧ bytes.length = 22 := by
  obtain ⟨atyp, addr, port, rfl, ⟨rfl, haddr⟩ | ⟨rfl, haddr⟩, hport⟩ := h
  · left
    simp [haddr, hport, ipv4AddrLen]
  · right
    simp [haddr, hport, ipv6AddrLen]

theorem replyBytes_complete (hsized : addr.Sized) (hfamily : addr.family ≠ .other) :
    CompleteReply rep (replyBytes rep addr) := by
  unfold SockAddr.Sized at hsized
  rcases hcase : addr.family with _ | _ | _
  · rw [hcase] at hsized
    exact ⟨ipv4Addr, addr.addr, portBytes addr.port, by
      simp [replyBytes, bndAddrBytes, bndPort, hcase], .inl ⟨rfl, hsized⟩, rfl⟩
  · rw [hcase] at hsized
    exact ⟨ipv6Addr, addr.addr, portBytes addr.port, by
      simp [replyBytes, bndAddrBytes, bndPort, hcase], .inr ⟨rfl, hsized⟩, rfl⟩
  · exact absurd hcase hfamily

/-- What is cut off is missing. -/
theorem take_replyBytes_complete_iff (hsized : addr.Sized) :
    CompleteReply rep ((replyBytes rep addr).take n) ↔
      addr.family ≠ .other ∧ (replyBytes rep addr).length ≤ n := by
  constructor
  · intro h
    have htaken := h.length
    rw [List.length_take] at htaken
    rcases hcase : addr.family with _ | _ | _
    · have hlen : (replyBytes rep addr).length = 10 := by
        rw [SockAddr.Sized, hcase] at hsized
        simp [replyBytes, bndAddrBytes, portBytes, hcase, show addr.addr.length = 4 from hsized]
      rw [hlen] at htaken ⊢
      exact ⟨by simp, by omega⟩
    · have hlen : (replyBytes rep addr).length = 22 := by
        rw [SockAddr.Sized, hcase] at hsized
        simp [replyBytes, bndAddrBytes, portBytes, hcase, show addr.addr.length = 16 from hsized]
      rw [hlen] at htaken ⊢
      refine ⟨by simp, ?_⟩
      by_contra hshort
      have hatyp : ((replyBytes rep addr).take n)[3]? = some ipv6Addr := by
        rw [List.getElem?_take_of_lt (by omega)]
        simp [replyBytes, bndAddrBytes, hcase]
      rw [hatyp] at htaken
      rcases htaken with ⟨hne, -⟩ | ⟨-, hfull⟩
      · exact absurd hne (by decide)
      · omega
    · have hlen : (replyBytes rep addr).length = 5 := by
        simp [replyBytes, bndAddrBytes, portBytes, hcase]
      rw [hlen] at htaken
      omega
  · rintro ⟨hfamily, hroom⟩
    rw [List.take_of_length_le hroom]
    exact replyBytes_complete hsized hfamily

end Replies

/-! ## What is queued -/

/-- `getsockname` returns a name, and a reply that tells it fits into `room`
bytes. -/
def Nameable (env : Env) (room : ℕ) : Prop :=
  ∃ addr, env.getsockname = some addr ∧ addr.family ≠ .other ∧
    (replyBytes succeded addr).length ≤ room

/-- A complete reply is queued. -/
def QueuesReply (s : Session) : Prop :=
  s.conn.reply.foundBndInfo = true ∧
    CompleteReply s.conn.reply.rep s.conn.originBuffer.content

section Queue

variable {s : Session} {env : Env}

theorem length_replyBytes (rep rep' : UInt8) (addr : SockAddr) :
    (replyBytes rep addr).length = (replyBytes rep' addr).length := by
  simp [replyBytes]

theorem replyArrival_queues_iff (hempty : s.conn.originBuffer.content = [])
    (hsettled : s.conn.originBuffer.Settled)
    (hsized : ∀ addr, env.getsockname = some addr → addr.Sized) :
    QueuesReply (replyArrival env s) ↔
      0 ≤ s.conn.originFd ∧ Nameable env s.conn.originBuffer.limit := by
  unfold replyArrival localAddr QueuesReply Nameable
  dsimp only [Session.writeOriginBuffer]
  by_cases hfd : s.conn.originFd < 0
  · rw [if_pos hfd]
    simp only [Bool.false_eq_true, false_and, false_iff]
    omega
  · rw [if_neg hfd]
    rcases hname : env.getsockname with _ | addr
    · simp
    · obtain ⟨hcontent, -⟩ := bufferWriteAll_view s.conn.originBuffer
        (replyBytes s.conn.reply.rep addr)
      rw [hempty, hsettled hempty, List.nil_append] at hcontent
      have hbytes : [socks5Version, s.conn.reply.rep, rsv] ++ bndAddrBytes addr ++
          portBytes (bndPort addr) = replyBytes s.conn.reply.rep addr := List.append_assoc _ _ _
      simp only [bufferWriteAll_append, true_and, Option.some.injEq, exists_eq_left']
      rw [hbytes, hcontent, take_replyBytes_complete_iff (hsized addr hname),
        length_replyBytes s.conn.reply.rep succeded]
      exact (and_iff_right (by omega)).symm

end Queue

/-! ## What is delivered -/

/-- The sends of the event succeed. -/
def SendsSucceed : Event → Prop
  | .write _ env => ∃ k, env.send = some k ∧ 0 < k
  | _ => True

/-- The number of bytes the kernel takes at most. -/
def takes : Event → ℕ
  | .write _ env => env.send.getD 0
  | _ => 0

theorem takes_write {fd : ℤ} {env : Env} {k : ℕ} (hsend : env.send = some k) :
    takes (.write fd env) = k := by
  rw [takes, hsend, Option.getD_some]

/-- An event REPLY can get while sends succeed. -/
def DeliversReply (s : Session) (e : Event) : Prop :=
  s.state = .reply ∧ Enabled s e ∧ SendsSucceed e

/-- Whatever events come, as long as sends succeed the client gets a complete
reply with the stored code, byte after byte, and the connection is in REPLY
until it has it. -/
def Answered (s : Session) : Prop :=
  ∃ reply, CompleteReply s.conn.reply.rep reply ∧
    ∀ es, Steps step DeliversReply s es → ∃ t, run step s es = .ok t ∧ t.conn.closed = false ∧
      bytesSent s.conn.clientFd t.log =
        bytesSent s.conn.clientFd s.log ++ reply.take (es.map takes).sum ∧
      (t.state = .reply ↔ (es.map takes).sum < reply.length)

/-- No notification is on its way to the connection. -/
def Unnotified (s : Session) : Prop :=
  s.resolvers = 0 ∧ ∀ fd ∈ s.sel.resolutionJobs, s.sel.dataOf fd ≠ some s.address

/-- The selector reads nothing for the connection. -/
def NothingRead (s : Session) : Prop :=
  ∀ fd, s.sel.dataOf fd = some s.address → ∀ i, s.interestOf fd = some i → i.read = false

/-- An open connection in REPLY with `rest` still to be sent. -/
structure Sending (s : Session) (rest : List UInt8) : Prop where
  state : s.state = .reply
  isOpen : s.conn.closed = false
  found : s.conn.reply.foundBndInfo = true
  content : s.conn.originBuffer.content = rest
  pending : rest ≠ []
  unnotified : Unnotified s
  nothingRead : NothingRead s

section Delivery

variable {s t : Session} {env : Env} {key : SelectorKey} {rest : List UInt8} {e : Event}
  {es : List Event} {k : ℕ}

theorem replyWrite_some (hfound : s.conn.reply.foundBndInfo = true) (hsend : env.send = some k) :
    ∃ b, b.content = s.conn.originBuffer.content.drop k ∧
      replyWrite env s =
        let u := ({ s with conn.originBuffer := b }).act
          (.send s.conn.clientFd (s.conn.originBuffer.content.take k))
        if b.content ≠ [] then (u, .reply)
        else if s.conn.reply.rep = succeded then (u, .copy)
        else (u.setInterest s.conn.clientFd .opRead, .request) := by
  obtain ⟨b, hb, hsent⟩ := sendOriginBuffer_some s s.conn.clientFd k
  refine ⟨b, hb, ?_⟩
  unfold replyWrite
  rw [if_neg (by rw [hfound]; decide), hsend, hsent]
  dsimp only
  by_cases hleft : b.content = []
  · have hread : ¬ bufferCanRead b = true := by
      rw [bufferCanRead_iff]
      exact not_not.mpr hleft
    rw [if_neg (not_not.mpr hleft)]
    exact if_neg hread
  · rw [if_pos hleft]
    exact if_pos (bufferCanRead_iff.mpr hleft)

/-- Arriving in a state that goes on makes no call. -/
theorem settle_live (env : Env) (key : SelectorKey) (u : Session) {next : SocksV5State}
    (hlive : next ≠ .error ∧ next ≠ .done) :
    (settle env key .reply (u, next)).log = u.log ∧
      (settle env key .reply (u, next)).conn.closed = u.conn.closed := by
  by_cases hsame : SocksV5State.reply = next
  · rw [← hsame, settle_stay (by decide) (by decide)]
    exact ⟨rfl, rfl⟩
  · rw [settle_move hsame hlive.1 hlive.2]
    rcases next <;> first | exact ⟨rfl, rfl⟩ | exact absurd rfl hsame

theorem Sending.step_finished (h : Sending s rest) (errno : ℤ) :
    step s (.connectFinished errno) = .ok (s.act (.connectFinished s.conn.originFd errno)) ∧
      Sending (s.act (.connectFinished s.conn.originFd errno)) rest := by
  constructor
  · exact step_connectFinished_ok_iff.mpr ⟨h.isOpen, rfl⟩
  · exact ⟨h.state, h.isOpen, h.found, h.content, h.pending, h.unnotified, h.nothingRead⟩

/-- A write event in REPLY sends the next bytes. -/
theorem step_write_sends (fd : ℤ) (hstate : s.state = .reply) (hopen : s.conn.closed = false)
    (hfound : s.conn.reply.foundBndInfo = true) (hsend : env.send = some k) :
    ∃ t, step s (.write fd env) = .ok t ∧ t.conn.closed = false ∧
      t.log = s.log ++ [.send s.conn.clientFd (s.conn.originBuffer.content.take k)] ∧
      (s.conn.originBuffer.content.drop k ≠ [] →
        ∃ b, b.content = s.conn.originBuffer.content.drop k ∧
          t = ({ s with conn.originBuffer := b, conn.stm := some .reply }).act
            (.send s.conn.clientFd (s.conn.originBuffer.content.take k))) ∧
      (s.conn.originBuffer.content.drop k = [] →
        t.state = if s.conn.reply.rep = succeded then .copy else .request) := by
  obtain ⟨b, hb, hwrite⟩ := replyWrite_some hfound hsend
  rw [step_write_reply hstate hopen, hwrite, hb]
  dsimp only
  by_cases hleft : s.conn.originBuffer.content.drop k = []
  · rw [if_neg (not_not.mpr hleft)]
    by_cases hrep : s.conn.reply.rep = succeded
    · rw [if_pos hrep, if_pos hrep]
      refine ⟨_, finish_live (by decide) (by decide), ?_⟩
      obtain ⟨hlog, hclosed⟩ := settle_live env ⟨fd, s.address⟩
        (({ s with conn.originBuffer := b }).act
          (.send s.conn.clientFd (s.conn.originBuffer.content.take k)))
        (show SocksV5State.copy ≠ .error ∧ SocksV5State.copy ≠ .done by decide)
      exact ⟨hclosed.trans hopen, hlog, fun hne => absurd hleft hne,
        fun _ => settle_state _ _ _ _⟩
    · rw [if_neg hrep, if_neg hrep]
      refine ⟨_, finish_live (by decide) (by decide), ?_⟩
      obtain ⟨hlog, hclosed⟩ := settle_live env ⟨fd, s.address⟩
        ((({ s with conn.originBuffer := b }).act
          (.send s.conn.clientFd (s.conn.originBuffer.content.take k))).setInterest
            s.conn.clientFd .opRead)
        (show SocksV5State.request ≠ .error ∧ SocksV5State.request ≠ .done by decide)
      exact ⟨hclosed.trans hopen, hlog, fun hne => absurd hleft hne,
        fun _ => settle_state _ _ _ _⟩
  · rw [if_pos hleft]
    refine ⟨_, finish_live (by decide) (by decide), ?_⟩
    rw [settle_stay (by decide) (by decide)]
    exact ⟨hopen, rfl, fun _ => ⟨b, hb, rfl⟩, fun hnil => absurd hnil hleft⟩

theorem Sending.step_write (h : Sending s rest) (fd : ℤ) (hsend : env.send = some k) :
    ∃ t, step s (.write fd env) = .ok t ∧ t.conn.closed = false ∧
      t.log = s.log ++ [.send s.conn.clientFd (rest.take k)] ∧
      (rest.drop k ≠ [] → Sending t (rest.drop k)) ∧ (rest.drop k = [] → t.state ≠ .reply) := by
  obtain ⟨t, hstep, hopen, hlog, hmore, hlast⟩ :=
    step_write_sends fd h.state h.isOpen h.found hsend
  rw [h.content] at hlog hmore hlast
  refine ⟨t, hstep, hopen, hlog, ?_, ?_⟩
  · intro hleft
    obtain ⟨b, hb, rfl⟩ := hmore hleft
    exact ⟨rfl, h.isOpen, h.found, hb, hleft, h.unnotified, h.nothingRead⟩
  · intro hdone
    rw [hlast hdone]
    split <;> decide

/-- Nothing but a write event or the end of an attempt comes to REPLY. -/
theorem Sending.offered (h : Sending s rest) (henabled : Enabled s e) :
    (∃ fd env, e = .write fd env) ∨ ∃ errno, e = .connectFinished errno := by
  rcases e with ⟨fd, env⟩ | ⟨fd, env⟩ | ⟨fd, env⟩ | result | errno
  · obtain ⟨hdata, i, hinterest, hread⟩ := henabled
    rw [h.nothingRead fd hdata i hinterest] at hread
    cases hread
  · exact .inl ⟨fd, env, rfl⟩
  · exact absurd henabled.1 (h.unnotified.2 fd henabled.2)
  · have hpos : 0 < s.resolvers := henabled
    rw [h.unnotified.1] at hpos
    exact absurd hpos (Nat.lt_irrefl 0)
  · exact .inr ⟨errno, rfl⟩

/-- By induction on the events: what has been sent is what the kernel took. -/
theorem Sending.run (h : Sending s rest) (hdelivers : Steps step DeliversReply s es) :
    ∃ t, Library.run step s es = .ok t ∧ t.conn.closed = false ∧
      bytesSent s.conn.clientFd t.log =
        bytesSent s.conn.clientFd s.log ++ rest.take (es.map takes).sum ∧
      (t.state = .reply ↔ (es.map takes).sum < rest.length) := by
  induction es generalizing s rest with
  | nil =>
      refine ⟨s, rfl, h.isOpen, by simp, ?_⟩
      exact iff_of_true h.state (List.length_pos_of_ne_nil h.pending)
  | cons e es ih =>
      obtain ⟨⟨-, henabled, hsends⟩, hlater⟩ := hdelivers
      rw [List.map_cons, List.sum_cons]
      rcases h.offered henabled with ⟨fd, env, rfl⟩ | ⟨errno, rfl⟩
      · obtain ⟨k, hsend, -⟩ := hsends
        have htakes : takes (.write fd env) = k := takes_write hsend
        obtain ⟨t, hstep, hopen, hlog, hmore, hlast⟩ := h.step_write fd hsend
        have hclient : t.conn.clientFd = s.conn.clientFd := (step_persists hstep).clientFd
        have hsent : bytesSent s.conn.clientFd t.log =
            bytesSent s.conn.clientFd s.log ++ rest.take k := by
          rw [hlog, bytesSent_send]
        rw [htakes]
        by_cases hdone : rest.drop k = []
        · have hleft := hlast hdone
          have hes : es = [] := by
            rcases es with _ | ⟨e', es⟩
            · rfl
            · exact absurd (hlater t hstep).1.1 hleft
          subst hes
          refine ⟨t, run_cons_ok_iff.mpr ⟨t, hstep, rfl⟩, hopen, by simpa using hsent, ?_⟩
          rw [List.drop_eq_nil_iff] at hdone
          refine iff_of_false hleft ?_
          simp only [List.map_nil, List.sum_nil]
          omega
        · obtain ⟨u, hrun, hopen, hbytes, hstate⟩ := ih (hmore hdone) (hlater t hstep)
          refine ⟨u, run_cons_ok_iff.mpr ⟨t, hstep, hrun⟩, hopen, ?_, ?_⟩
          · rw [hclient, hsent] at hbytes
            rw [hbytes, List.append_assoc, List.take_add]
          · rw [hstate, List.length_drop]
            omega
      · obtain ⟨hstep, hsending⟩ := h.step_finished errno
        obtain ⟨u, hrun, hopen, hbytes, hstate⟩ := ih hsending (hlater _ hstep)
        refine ⟨u, run_cons_ok_iff.mpr ⟨_, hstep, hrun⟩, hopen, ?_, ?_⟩
        · change bytesSent s.conn.clientFd u.log =
            bytesSent s.conn.clientFd (s.log ++ [_]) ++ _ at hbytes
          rw [hbytes, bytesSent_append]
          simp [takes, Action.sentTo]
        · simpa [takes] using hstate

/-- An open connection that has just gone on to REPLY. -/
structure Replying (s : Session) : Prop where
  state : s.state = .reply
  isOpen : s.conn.closed = false
  client : s.sel.dataOf s.conn.clientFd = some s.address
  writable : s.interestOf s.conn.clientFd = some .opWrite
  nothingRead : NothingRead s

theorem Replying.write_delivers (h : Replying s) (hk : 0 < k) :
    DeliversReply s (.write s.conn.clientFd (sends k)) :=
  ⟨h.state, ⟨h.client, .opWrite, h.writable, rfl⟩, k, rfl, hk⟩

/-- The event of a run of one. -/
theorem Answered.found (h : Answered s) (hs : Replying s) :
    s.conn.reply.foundBndInfo = true := by
  obtain ⟨reply, -, hruns⟩ := h
  obtain ⟨t, hrun, hopen, -, -⟩ := hruns _ (Steps.single (hs.write_delivers Nat.one_pos))
  obtain ⟨u, hstep, hu⟩ := run_cons_ok_iff.mp hrun
  rw [step_write_reply hs.state hs.isOpen] at hstep
  rw [← Except.ok.inj hu, (finish_ok_iff.mp hstep).2] at hopen
  by_contra hfound
  rw [Bool.not_eq_true] at hfound
  rw [replyWrite, if_pos hfound, settle_stop (.inl rfl), teardown_closed] at hopen
  cases hopen

theorem Answered.complete (h : Answered s) (hs : Replying s) :
    CompleteReply s.conn.reply.rep s.conn.originBuffer.content := by
  have hfound := h.found hs
  obtain ⟨reply, hcomplete, hruns⟩ := h
  obtain ⟨t, hrun, -, hbytes, -⟩ := hruns _ (Steps.single (hs.write_delivers
    (show 0 < s.conn.originBuffer.content.length + reply.length + 1 by omega)))
  obtain ⟨u, hstep, hu⟩ := run_cons_ok_iff.mp hrun
  obtain ⟨v, hsend, -, hlog, -, -⟩ := step_write_sends s.conn.clientFd hs.state
    hs.isOpen hfound (show (sends (s.conn.originBuffer.content.length + reply.length + 1)).send = _
      from rfl)
  rw [← Except.ok.inj hu, ← Except.ok.inj (hsend.symm.trans hstep), hlog] at hbytes
  simp only [bytesSent_append, bytesSent_cons, Action.sentTo, if_true, bytesSent_nil,
    List.append_nil, List.append_cancel_left_eq, List.map_cons, List.map_nil, List.sum_cons,
    List.sum_nil, takes, sends, Option.getD_some] at hbytes
  rw [List.take_of_length_le (by omega), List.take_of_length_le (by omega)] at hbytes
  rw [hbytes]
  exact hcomplete

/-- A notification that comes to REPLY finds no callback. -/
theorem step_block_reply (hstate : s.state = .reply) {fd : ℤ} : step s (.block fd env) ≠ .ok t := by
  intro hstep
  obtain ⟨-, callback, r, u, hselect, -⟩ := step_block_ok hstep
  rw [hstate] at hselect
  cases hselect

theorem Answered.unnotified (h : Answered s) (hs : Replying s) : Unnotified s := by
  obtain ⟨reply, -, hruns⟩ := h
  constructor
  · by_contra hresolvers
    have hstep : step s (.resolved []) = .ok (resolveFqdnBlocking [] s) :=
      step_resolved_ok_iff.mpr ⟨hs.isOpen, rfl⟩
    have hsteps : Steps step DeliversReply s [.resolved [], .block s.conn.clientFd default] := by
      refine .cons ⟨hs.state, Nat.pos_of_ne_zero hresolvers, trivial⟩ hstep (Steps.single ?_)
      exact ⟨hs.state, ⟨hs.client, List.mem_cons_self⟩, trivial⟩
    obtain ⟨t, hrun, -⟩ := hruns _ hsteps
    obtain ⟨u, hu, hrest⟩ := run_cons_ok_iff.mp hrun
    rw [← Except.ok.inj (hstep.symm.trans hu)] at hrest
    obtain ⟨v, hv, -⟩ := run_cons_ok_iff.mp hrest
    exact step_block_reply (s := resolveFqdnBlocking [] s) hs.state hv
  · intro fd hjob hdata
    obtain ⟨t, hrun, -⟩ := hruns [.block fd default]
      (Steps.single ⟨hs.state, ⟨hdata, hjob⟩, trivial⟩)
    obtain ⟨u, hu, -⟩ := run_cons_ok_iff.mp hrun
    exact step_block_reply hs.state hu

/-- The client is answered exactly if the whole reply has been queued and no
notification can come before it is sent. -/
theorem Replying.answered_iff (hs : Replying s) :
    Answered s ↔ QueuesReply s ∧ Unnotified s := by
  constructor
  · intro h
    exact ⟨⟨h.found hs, h.complete hs⟩, h.unnotified hs⟩
  · rintro ⟨⟨hfound, hcomplete⟩, hunnotified⟩
    refine ⟨_, hcomplete, fun es hdelivers => Sending.run ?_ hdelivers⟩
    refine ⟨hs.state, hs.isOpen, hfound, rfl, ?_, hunnotified, hs.nothingRead⟩
    intro hnil
    rw [hnil] at hcomplete
    rcases hcomplete.length with ⟨-, hlen⟩ | ⟨-, hlen⟩ <;> cases hlen

end Delivery

end Socks5Proxy

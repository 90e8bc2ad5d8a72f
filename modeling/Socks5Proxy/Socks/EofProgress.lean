import Socks5Proxy.Socks.Accepted
import Socks5Proxy.Socks.AuthDecoding
import Socks5Proxy.Socks.GreetingDecoding
import Socks5Proxy.Socks.RequestDecoding

/-!
# Read events after the client has closed its side

Every further `recv` returns zero, and the descriptor stays readable.  A
reader then decides by the number of bytes buffered, and the event is of use
only if it consumes one of them, turns to writing or ends the connection.
-/

namespace Socks5Proxy

open Library

/-! ## Progress -/

/-- The calls that start new work for a connection. -/
def Action.startsWork : Action → Bool
  | .connect _ _ _ | .resolve _ _ => true
  | _ => false

def workStarted (s : Session) : List Action := s.log.filter Action.startsWork

/-- The number of bytes in `client_buffer` that are still unread. -/
def buffered (s : Session) : ℕ := s.conn.clientBuffer.content.length

/-- What a kernel answers when the client has closed its side. -/
structure EofEnv (env : Env) : Prop where
  recv : env.recv = some []
  recvDst : env.recvDst = some []

/-- The event consumed a byte, turned the client to writing or ended the
connection, and it started no work. -/
def Progress (s t : Session) : Prop :=
  workStarted t = workStarted s ∧
    (buffered t < buffered s ∨ t.interestOf s.conn.clientFd = some .opWrite ∨
      t.conn.closed = true)

/-- Whatever else the kernel answers, the next read event makes progress.  A
reader that has returned DONE or ERROR has ended the connection, even if
`socks5_destroy` then ends the process. -/
def Progresses (s : Session) : Prop :=
  ∀ env, EofEnv env →
    (∃ t, step s (.read s.conn.clientFd env) = .ok t ∧ Progress s t) ∨
      step s (.read s.conn.clientFd env) = .error .invalidFree

/-! ## When the readers make progress -/

/-- The bytes a destination takes up, from the length byte of a name to the
port. -/
def destinationLength (atyp : UInt8) (bytes : List UInt8) : ℕ :=
  if atyp = fqdn then (bytes.getD 0 0).toNat + 3 else (addrBytesByIpVersion atyp).toNat + 2

/-- `resolve_dst_address` counts one byte of the port only. -/
def DestinationTaken (atyp : UInt8) (bytes : List UInt8) : Prop :=
  (atyp = fqdn → bytes.getD 0 0 ≠ 0) ∧ destinationLength atyp bytes ≤ bytes.length + 1

/-- The header that the block `VER_CMD_ATYP` lets through. -/
structure AcceptedHeader (bytes : List UInt8) : Prop where
  version : bytes.getD 0 0 = socks5Version
  command : bytes.getD 1 0 = connectCmd
  reserved : bytes.getD 2 0 = rsv
  type : isValidAtyp (bytes.getD 3 0) = true

instance (bytes : List UInt8) : Decidable (AcceptedHeader bytes) :=
  decidable_of_iff (bytes.getD 0 0 = socks5Version ∧ bytes.getD 1 0 = connectCmd ∧
      bytes.getD 2 0 = rsv ∧ isValidAtyp (bytes.getD 3 0) = true)
    ⟨fun h => ⟨h.1, h.2.1, h.2.2.1, h.2.2.2⟩,
      fun h => ⟨h.version, h.command, h.reserved, h.type⟩⟩

/-- The whole request is buffered. -/
def RequestArrived (s : Session) : Prop :=
  let bytes := s.conn.clientBuffer.content
  s.state = .request ∧
    match s.conn.request.state with
    | .verCmdAtyp => AcceptedHeader bytes ∧
        destinationLength (bytes.getD 3 0) (bytes.drop 4) ≤ (bytes.drop 4).length
    | .dstLen => s.conn.request.atyp ≠ fqdn ∧
        destinationLength s.conn.request.atyp bytes ≤ bytes.length
    | .dstRes => False

/-- A connection that reads from its client and has part of a message. -/
structure AwaitsMessage (s : Session) : Prop where
  isOpen : s.conn.closed = false
  state : s.state = .greeting ∨ s.state = .auth ∨ s.state = .request
  data : s.sel.dataOf s.conn.clientFd = some s.address
  interest : ∃ i, s.interestOf s.conn.clientFd = some i ∧ i.read = true
  partially : ¬ RequestArrived s

/-- `greeting_read` has what its sub-state asks for, or nothing at all. -/
def GreetingReady (s : Session) : Prop :=
  match s.conn.greeting.state with
  | .verNNmethods => buffered s ≠ 1
  | .methods => buffered s = 0 ∨ s.conn.greeting.nMethods.toNat ≤ buffered s

def AuthReady (s : Session) : Prop :=
  match s.conn.auth.state with
  | .authUname => buffered s = 0 ∨ s.conn.auth.ulen.toNat ≤ buffered s
  | .authPasswd => buffered s = 0 ∨ s.conn.auth.plen.toNat ≤ buffered s
  | .authVer | .authUlen | .authPlen => True

def RequestReady (s : Session) : Prop :=
  let bytes := s.conn.clientBuffer.content
  match s.conn.request.state with
  | .verCmdAtyp => bytes = [] ∨ 4 ≤ bytes.length ∧
      (AcceptedHeader bytes → ¬ DestinationTaken (bytes.getD 3 0) (bytes.drop 4))
  | .dstLen => bytes = [] ∨
      s.conn.request.atyp = fqdn ∧ ¬ DestinationTaken s.conn.request.atyp bytes
  | .dstRes => False

/-- What the next read event makes progress on. -/
def EofReady (s : Session) : Prop :=
  match s.state with
  | .greeting => GreetingReady s.arrived
  | .auth => AuthReady s
  | _ => RequestReady s

/-! ## How a reader ends -/

/-- The reader made progress. -/
def Advances (st : SocksV5State) (s : Session) (r : Session × SocksV5State) : Prop :=
  workStarted r.1 = workStarted s ∧
    ((r.2 = .done ∨ r.2 = .error) ∨ r.2 = st ∧ buffered r.1 < buffered s ∨
      (r.2 = st ∨ r.2 = .reply) ∧ r.1.interestOf s.conn.clientFd = some .opWrite)

/-- The reader changed nothing that counts, or it started new work. -/
def Halts (st : SocksV5State) (s : Session) (r : Session × SocksV5State) : Prop :=
  r.2 = st ∧ r.1.conn.closed = false ∧ buffered r.1 = buffered s ∧ r.1.sel = s.sel ∨
    (r.2 = st ∨ r.2 = .reply) ∧ workStarted r.1 ≠ workStarted s

section Settle

variable {s u : Session} {env : Env} {key : SelectorKey} {st : SocksV5State}
  {r : Session × SocksV5State}

theorem workStarted_act (action : Action) (h : action.startsWork = false) :
    workStarted (s.act action) = workStarted s := by
  simp [workStarted, Session.act, h]

theorem workStarted_teardown (env : Env) (key : SelectorKey) (u : Session) :
    workStarted (teardown env key u) = workStarted u := by
  obtain ⟨log, hlog, hteardown⟩ := teardown_log_eq env key u
  have hnone : log.filter Action.startsWork = [] := by
    rw [List.filter_eq_nil_iff]
    intro action haction
    rcases hteardown action haction with rfl | ⟨fd, rfl⟩ <;> exact Bool.false_ne_true
  rw [workStarted, hlog, List.filter_append, hnone, List.append_nil]
  rfl

/-- What an event leaves when its reader stays or turns to the reply. -/
theorem settle_reading (env : Env) (key : SelectorKey) (u : Session)
    (hst : st = .greeting ∨ st = .auth ∨ st = .request) {next : SocksV5State}
    (hnext : next = st ∨ next = .reply) :
    (settle env key st (u, next)).log = u.log ∧ (settle env key st (u, next)).sel = u.sel ∧
      (settle env key st (u, next)).conn.clientBuffer = u.conn.clientBuffer ∧
      (settle env key st (u, next)).conn.closed = u.conn.closed := by
  have hlive : st ≠ .error ∧ st ≠ .done ∧ st ≠ .reply := by
    rcases hst with rfl | rfl | rfl <;> decide
  rcases hnext with rfl | rfl
  · rw [settle_stay hlive.1 hlive.2.1]
    exact ⟨rfl, rfl, rfl, rfl⟩
  · rw [settle_move hlive.2.2 (by decide) (by decide)]
    obtain ⟨b, found, harrival⟩ := replyArrival_eq env u
    have harrive : callIfSome (socks5States env key .reply).onArrival u = replyArrival env u :=
      rfl
    rw [harrive, harrival]
    exact ⟨rfl, rfl, rfl, rfl⟩

theorem Advances.progress (hst : st = .greeting ∨ st = .auth ∨ st = .request)
    (h : Advances st s r) : Progress s (settle env key st r) := by
  obtain ⟨u, next⟩ := r
  obtain ⟨hwork, hend⟩ := h
  rcases hend with hstop | ⟨hret, hless⟩ | ⟨hret, hinterest⟩
  · rw [settle_stop hstop.symm]
    exact ⟨(workStarted_teardown ..).trans hwork, .inr (.inr teardown_closed)⟩
  · obtain ⟨hlog, -, hbuffer, -⟩ := settle_reading env key u hst (.inl hret)
    refine ⟨?_, .inl ?_⟩
    · rw [workStarted, hlog]
      exact hwork
    · rw [buffered, hbuffer]
      exact hless
  · obtain ⟨hlog, hsel, -, -⟩ := settle_reading env key u hst hret
    refine ⟨?_, .inr (.inl ?_)⟩
    · rw [workStarted, hlog]
      exact hwork
    · rw [Session.interestOf, hsel]
      exact hinterest

/-- Such a reader ends its event with progress, or the record's release ends the
process. -/
theorem Advances.ends (hst : st = .greeting ∨ st = .auth ∨ st = .request)
    (h : Advances st s r) :
    (∃ t, finish env key st r = .ok t ∧ Progress s t) ∨
      finish env key st r = .error .invalidFree := by
  by_cases haborts : Aborts r
  · exact .inr (if_pos haborts)
  · exact .inl ⟨_, if_neg haborts, h.progress hst⟩

/-- A reader that halts does not end the connection. -/
theorem Halts.finish (hst : st = .greeting ∨ st = .auth ∨ st = .request) (h : Halts st s r) :
    finish env key st r = .ok (settle env key st r) := by
  have hret : r.2 = st ∨ r.2 = .reply := h.elim (fun hstuck => .inl hstuck.1) (·.1)
  refine finish_live ?_ ?_
  · rcases hret with hret | hret <;> rw [hret]
    · rcases hst with rfl | rfl | rfl <;> decide
    · decide
  · rcases hret with hret | hret <;> rw [hret]
    · rcases hst with rfl | rfl | rfl <;> decide
    · decide

theorem Halts.not_progress (hst : st = .greeting ∨ st = .auth ∨ st = .request)
    (hinterest : ∃ i, s.interestOf s.conn.clientFd = some i ∧ i.read = true)
    (h : Halts st s r) : ¬ Progress s (settle env key st r) := by
  obtain ⟨u, next⟩ := r
  rintro ⟨hwork, hend⟩
  rcases h with ⟨hret, hopen, hsame, hsel⟩ | ⟨hret, hworked⟩
  · obtain ⟨-, hsettled, hbuffer, hclosed⟩ := settle_reading env key u hst (.inl hret)
    rcases hend with hless | hwrite | hdone
    · rw [buffered, hbuffer] at hless
      exact absurd hsame (Nat.ne_of_lt hless)
    · obtain ⟨i, hi, hread⟩ := hinterest
      have hkept : (settle env key st (u, next)).interestOf s.conn.clientFd = some i := by
        rw [Session.interestOf, hsettled]
        exact (congrArg (·.interestOf s.conn.clientFd) hsel).trans hi
      rw [hkept, Option.some.injEq] at hwrite
      rw [hwrite] at hread
      exact absurd hread (by decide)
    · rw [hclosed] at hdone
      exact absurd hopen (by simp [hdone])
  · obtain ⟨hlog, -, -, -⟩ := settle_reading env key u hst hret
    rw [workStarted, hlog] at hwork
    exact hworked hwork

end Settle

/-! ## The readers -/

/-- What the blocks of a reader keep until they answer. -/
structure Reads (s t : Session) : Prop where
  clientFd : t.conn.clientFd = s.conn.clientFd
  isOpen : t.conn.closed = s.conn.closed
  work : workStarted t = workStarted s
  buffered : buffered t ≤ buffered s
  interest : t.sel = s.sel ∨ t.interestOf s.conn.clientFd = some .opWrite

section Readers

variable {s t u : Session} {env : Env} {key : SelectorKey}

theorem Reads.refl (s : Session) : Reads s s := ⟨rfl, rfl, rfl, Nat.le_refl _, .inl rfl⟩

theorem Reads.trans (h : Reads s t) (h' : Reads t u) : Reads s u where
  clientFd := h'.clientFd.trans h.clientFd
  isOpen := h'.isOpen.trans h.isOpen
  work := h'.work.trans h.work
  buffered := h'.buffered.trans h.buffered
  interest := by
    rcases h'.interest with hsel | hwrite
    · rcases h.interest with hsel' | hwrite'
      · exact .inl (hsel.trans hsel')
      · refine .inr ?_
        rw [Session.interestOf, hsel]
        exact hwrite'
    · refine .inr ?_
      rw [← h.clientFd]
      exact hwrite

/-- A change of the record. -/
theorem Reads.of_conn {c : Socks5} (hfd : c.clientFd = s.conn.clientFd)
    (hclosed : c.closed = s.conn.closed)
    (hlength : c.clientBuffer.content.length ≤ s.conn.clientBuffer.content.length) :
    Reads s { s with conn := c } :=
  ⟨hfd, hclosed, rfl, hlength, .inl rfl⟩

/-- The registration is still there while the blocks run. -/
theorem Reads.registered (h : Reads s t) (hreg : s.interestOf s.conn.clientFd ≠ none) :
    t.interestOf t.conn.clientFd ≠ none := by
  rw [h.clientFd]
  rcases h.interest with hsel | hwrite
  · rw [Session.interestOf, hsel]
    exact hreg
  · rw [hwrite]
    exact Option.some_ne_none _

theorem Reads.setInterest (h : Reads s t) (hreg : s.interestOf s.conn.clientFd ≠ none) :
    Reads s (t.setInterest t.conn.clientFd .opWrite) ∧
      (t.setInterest t.conn.clientFd .opWrite).interestOf s.conn.clientFd = some .opWrite := by
  have hwrite : (t.setInterest t.conn.clientFd .opWrite).interestOf s.conn.clientFd =
      some .opWrite := by
    rw [← h.clientFd]
    exact interestOf_selectorSetInterest_self (h.registered hreg)
  exact ⟨⟨h.clientFd, h.isOpen, h.work, h.buffered, .inr hwrite⟩, hwrite⟩

/-- The `recv` of a closed peer leaves the bytes as they are. -/
theorem recvClientBuffer_eof (s : Session) (fd : ℤ) :
    ∃ u, s.recvClientBuffer fd (some []) = (some [], u) ∧
      u.conn.clientBuffer.content = s.conn.clientBuffer.content ∧ u.sel = s.sel ∧
      u.conn.greeting = s.conn.greeting ∧ u.conn.auth = s.conn.auth ∧
      u.conn.request = s.conn.request ∧ Reads s u := by
  obtain ⟨b, hb, -, hrecv⟩ := recvClientBuffer_some s fd []
  rw [List.take_nil, List.append_nil] at hb
  rw [List.take_nil] at hrecv
  refine ⟨_, hrecv, hb, rfl, rfl, rfl, rfl, ?_⟩
  refine Reads.trans (t := { s with conn.clientBuffer := b }) ?_ ?_
  · exact .of_conn rfl rfl (Nat.le_of_eq (congrArg List.length hb))
  · exact ⟨rfl, rfl, workStarted_act _ rfl, Nat.le_refl _, .inl rfl⟩

/-! ### GREETING -/

/-- The methods block waits without a change, or it answers. -/
theorem greetingMethods_reads (hkey : key.fd = s.conn.clientFd)
    (hreg : s.interestOf s.conn.clientFd ≠ none) (hstate : s.conn.greeting.state = .methods) :
    (greetingMethods key s).All
      (fun t st => t = s ∧ st = .greeting ∧ buffered s < s.conn.greeting.nMethods.toNat)
      (fun t => workStarted t = workStarted s ∧
        s.conn.greeting.nMethods.toNat ≤ buffered s ∧
        t.interestOf s.conn.clientFd = some .opWrite) := by
  unfold greetingMethods
  rw [if_pos hstate]
  dsimp only
  rw [bufferReadPtr_snd]
  split
  · next hshort => exact ⟨rfl, rfl, hshort⟩
  · next hcomplete =>
      rw [hkey]
      exact ⟨rfl, Nat.not_lt.mp hcomplete, interestOf_selectorSetInterest_self hreg⟩

/-- The first block waits for two bytes and then consumes at least one. -/
theorem greetingVerNNmethods_reads (hstate : s.conn.greeting.state = .verNNmethods) :
    (greetingVerNNmethods s).All
      (fun t st => workStarted t = workStarted s ∧ t.conn.closed = s.conn.closed ∧
        t.sel = s.sel ∧ (t = s ∧ st = .greeting ∧ buffered s < 2 ∨ 2 ≤ buffered s ∧ st = .error))
      (fun t => Reads s t ∧ t.conn.greeting.state = .methods ∧ 2 ≤ buffered s ∧
        buffered t < buffered s) := by
  unfold greetingVerNNmethods
  rw [if_pos hstate]
  dsimp only
  rw [bufferReadPtr_snd]
  split_ifs with hshort hver hcount
  · exact ⟨rfl, rfl, rfl, .inl ⟨rfl, rfl, hshort⟩⟩
  · exact ⟨rfl, rfl, rfl, .inr ⟨Nat.not_lt.mp hshort, rfl⟩⟩
  · exact ⟨rfl, rfl, rfl, .inr ⟨Nat.not_lt.mp hshort, rfl⟩⟩
  · have hless : (bufferRead (bufferRead s.conn.clientBuffer).2).2.content.length <
        s.conn.clientBuffer.content.length := by
      simp only [bufferRead_content, List.length_drop]
      omega
    exact ⟨.of_conn rfl rfl hless.le, rfl, Nat.not_lt.mp hshort, hless⟩

/-- The bytes buffered decide how `greeting_read` ends. -/
theorem greetingRead_eof (henv : EofEnv env) (hkey : key.fd = s.conn.clientFd)
    (hopen : s.conn.closed = false) (hreg : s.interestOf s.conn.clientFd ≠ none) :
    GreetingReady s ∧ Advances .greeting s (greetingRead env key s) ∨
      ¬ GreetingReady s ∧ Halts .greeting s (greetingRead env key s) := by
  obtain ⟨u, hrecv, hcontent, hsel, hgreeting, -, -, hreads⟩ := recvClientBuffer_eof s key.fd
  have hlen : buffered u = buffered s := congrArg List.length hcontent
  have hregister := hreads.registered hreg
  have hkeyU : key.fd = u.conn.clientFd := hkey.trans hreads.clientFd.symm
  have hstuck : Halts .greeting s (u, .greeting) :=
    .inl ⟨rfl, hreads.isOpen.trans hopen, hlen, hsel⟩
  rw [greetingRead, henv.recv, hrecv, GreetingReady, ← hgreeting, ← hlen]
  dsimp only
  rw [bufferReadPtr_snd]
  split_ifs with hnil
  · refine .inl ⟨?_, hreads.work, .inl (.inl rfl)⟩
    rcases u.conn.greeting.state with _ | _
    · exact fun hone => absurd (hnil.symm.trans hone) (by decide)
    · exact .inl hnil
  · have hnonempty : buffered u ≠ 0 := hnil
    rcases hstate : u.conn.greeting.state with _ | _
    · have hfirst := greetingVerNNmethods_reads hstate
      rcases hblock : greetingVerNNmethods u with ⟨t, ret⟩ | t
      · rw [hblock] at hfirst
        obtain ⟨hwork, -, -, ⟨rfl, rfl, hshort⟩ | ⟨hlong, rfl⟩⟩ := hfirst
        · exact .inr ⟨fun hone => hone (by omega), hstuck⟩
        · exact .inl ⟨(by omega : buffered u ≠ 1), hwork.trans hreads.work, .inl (.inr rfl)⟩
      · rw [hblock] at hfirst
        obtain ⟨hnext, hmethods, hlong, hless⟩ := hfirst
        have hsecond := greetingMethods_reads (hkeyU.trans hnext.clientFd.symm)
          (hnext.registered hregister) hmethods
        have hshorter : buffered t < buffered s := hlen ▸ hless
        have hwork := hnext.work.trans hreads.work
        refine .inl ⟨(by omega : buffered u ≠ 1), ?_⟩
        rw [Block.andThen_next]
        rcases hblock' : greetingMethods key t with ⟨v, ret⟩ | v
        · rw [hblock'] at hsecond
          obtain ⟨rfl, rfl, -⟩ := hsecond
          exact ⟨hwork, .inr (.inl ⟨rfl, hshorter⟩)⟩
        · rw [hblock'] at hsecond
          obtain ⟨hwork', -, hwrite⟩ := hsecond
          rw [hnext.clientFd, hreads.clientFd] at hwrite
          exact ⟨hwork'.trans hwork, .inr (.inr ⟨.inl rfl, hwrite⟩)⟩
    · have hskip : greetingVerNNmethods u = .next u := by simp [greetingVerNNmethods, hstate]
      have hsecond := greetingMethods_reads hkeyU hregister hstate
      rw [hskip, Block.andThen_next]
      rcases hblock : greetingMethods key u with ⟨t, ret⟩ | t
      · rw [hblock] at hsecond
        obtain ⟨rfl, rfl, hshort⟩ := hsecond
        exact .inr ⟨not_or.mpr ⟨hnonempty, Nat.not_le.mpr hshort⟩, hstuck⟩
      · rw [hblock] at hsecond
        obtain ⟨hwork, hcomplete, hwrite⟩ := hsecond
        rw [hreads.clientFd] at hwrite
        exact .inl ⟨.inr hcomplete, hwork.trans hreads.work, .inr (.inr ⟨.inl rfl, hwrite⟩)⟩

/-! ### AUTH -/

/-- How a block of `auth_read` ends, seen from `s`. -/
def AuthReads (s : Session) (b : SocksBlock (Session × ℕ)) : Prop :=
  b.All (fun t ret => Reads s t ∧ (ret = .auth ∨ ret = .error)) (fun t => Reads s t.1)

theorem AuthReads.andThen {b : SocksBlock (Session × ℕ)}
    {f : Session × ℕ → SocksBlock (Session × ℕ)} (hb : AuthReads s b)
    (hf : ∀ t : Session × ℕ, Reads s t.1 → AuthReads s (f t)) : AuthReads s (b.andThen f) :=
  Block.All.andThen hb hf

theorem authUlen_reads (h : Reads s t) (toRead : ℕ) : AuthReads s (authUlen t toRead) := by
  have hread : Reads s { t with
      conn.clientBuffer := (bufferRead t.conn.clientBuffer).2
      conn.auth.ulen := (bufferRead t.conn.clientBuffer).1 } :=
    h.trans (.of_conn rfl rfl (by simp))
  unfold authUlen
  dsimp only
  split_ifs
  · exact ⟨h, .inl rfl⟩
  · exact ⟨hread, .inr rfl⟩
  · exact hread.trans (.of_conn rfl rfl (Nat.le_refl _))
  · exact h

theorem authUname_reads (h : Reads s t) (toRead : ℕ) : AuthReads s (authUname t toRead) := by
  unfold authUname
  dsimp only
  split_ifs
  · exact ⟨h, .inl rfl⟩
  · exact h.trans (.of_conn rfl rfl (by simp [bufferReadN_snd_content]))
  · exact h

theorem authPlen_reads (h : Reads s t) (toRead : ℕ) : AuthReads s (authPlen t toRead) := by
  have hread : Reads s { t with
      conn.clientBuffer := (bufferRead t.conn.clientBuffer).2
      conn.auth.plen := (bufferRead t.conn.clientBuffer).1 } :=
    h.trans (.of_conn rfl rfl (by simp))
  unfold authPlen
  dsimp only
  split_ifs
  · exact ⟨h, .inl rfl⟩
  · exact ⟨hread, .inr rfl⟩
  · exact hread.trans (.of_conn rfl rfl (Nat.le_refl _))
  · exact h

theorem checkCredentials_reads (env : Env) (s : Session) : Reads s (checkCredentials env s) := by
  have hact : ∀ status, Reads s (s.act (.authenticate status)) := fun status =>
    ⟨rfl, rfl, workStarted_act _ rfl, Nat.le_refl _, .inl rfl⟩
  unfold checkCredentials
  dsimp only
  split
  · exact hact _
  · exact hact _
  · exact (hact _).trans (.of_conn rfl rfl (Nat.le_refl _))

/-- The last block waits for the password, and then it answers. -/
theorem authPasswd_reads (env : Env) (hkey : key.fd = s.conn.clientFd) (h : Reads s t)
    (hreg : s.interestOf s.conn.clientFd ≠ none) (hstate : t.conn.auth.state = .authPasswd)
    (toRead : ℕ) :
    (authPasswd env key t toRead).All
      (fun u ret => u = t ∧ ret = .auth ∧ toRead < t.conn.auth.plen.toNat)
      (fun u => Reads s u.1 ∧ t.conn.auth.plen.toNat ≤ toRead ∧
        u.1.interestOf s.conn.clientFd = some .opWrite) := by
  unfold authPasswd
  rw [if_pos hstate]
  dsimp only
  split
  · next hshort => exact ⟨rfl, rfl, hshort⟩
  · next hcomplete =>
      let v : Session := { t with
        conn.clientBuffer := (bufferReadN t.conn.auth.plen.toNat t.conn.clientBuffer).2
        conn.auth.password := Memory.store t.conn.auth.password 0
          ((bufferReadN t.conn.auth.plen.toNat t.conn.clientBuffer).1 ++ [0]) }
      have hpassword : Reads s v :=
        h.trans (.of_conn rfl rfl (by simp [bufferReadN_snd_content]))
      have hchecked : Reads s (checkCredentials env v) :=
        hpassword.trans (checkCredentials_reads env v)
      have hqueued : Reads s ((checkCredentials env v).writeOriginBuffer
          [authVersion, if (checkCredentials env v).conn.auth.authenticated then authSuccess
            else authFailure]) :=
        hchecked.trans (.of_conn rfl rfl (Nat.le_refl _))
      have hanswered := hqueued.setInterest hreg
      rw [hqueued.clientFd, ← hkey] at hanswered
      exact ⟨hanswered.1, Nat.not_lt.mp hcomplete, by rw [← hkey]; exact hanswered.2⟩

theorem authPasswd_auth (env : Env) (hkey : key.fd = s.conn.clientFd) (h : Reads s t)
    (hreg : s.interestOf s.conn.clientFd ≠ none) (toRead : ℕ) :
    AuthReads s (authPasswd env key t toRead) := by
  by_cases hstate : t.conn.auth.state = .authPasswd
  · refine (authPasswd_reads env hkey h hreg hstate toRead).mono ?_ ?_
    · rintro u ret ⟨rfl, rfl, -⟩
      exact ⟨h, .inl rfl⟩
    · rintro u ⟨hreads, -⟩
      exact hreads
  · rw [authPasswd, if_neg hstate]
    exact h

/-- What `auth_read` makes of the result of its blocks. -/
def authResult (b : SocksBlock (Session × ℕ)) : Session × SocksV5State :=
  match b with
  | .returned t ret => (t, ret)
  | .next t => (t.1, .auth)

/-- Once a byte has been consumed, every end of the blocks is progress. -/
theorem AuthReads.advances {b : SocksBlock (Session × ℕ)} (hb : AuthReads t b)
    (hwork : workStarted t = workStarted s) (hless : buffered t < buffered s) :
    Advances .auth s (authResult b) := by
  rcases b with ⟨u, ret⟩ | u
  · obtain ⟨hreads, rfl | rfl⟩ := hb
    · exact ⟨hreads.work.trans hwork, .inr (.inl ⟨rfl, hreads.buffered.trans_lt hless⟩)⟩
    · exact ⟨hreads.work.trans hwork, .inl (.inr rfl)⟩
  · have hreads : Reads t u.1 := hb
    exact ⟨hreads.work.trans hwork, .inr (.inl ⟨rfl, hreads.buffered.trans_lt hless⟩)⟩

/-- A block that reads one byte: it refuses the byte or goes on without it. -/
def TakesByte (s : Session) (b : SocksBlock (Session × ℕ)) : Prop :=
  b.All (fun t ret => workStarted t = workStarted s ∧ ret = .error)
    (fun t => Reads s t.1 ∧ buffered t.1 < buffered s ∧ t.2 = buffered t.1)

theorem length_bufferRead (h : buffered s ≠ 0) :
    (bufferRead s.conn.clientBuffer).2.content.length + 1 = buffered s := by
  rw [buffered] at h ⊢
  rw [bufferRead_content, List.length_drop]
  omega

theorem authVer_takes (hstate : s.conn.auth.state = .authVer) (hne : buffered s ≠ 0) :
    TakesByte s (authVer s (buffered s)) := by
  have hlen := length_bufferRead hne
  unfold authVer
  rw [if_pos hstate, if_neg (by omega)]
  dsimp only
  split
  · exact ⟨rfl, rfl⟩
  · exact ⟨.of_conn rfl rfl (by simp), Nat.lt_of_succ_le hlen.le, by rw [← hlen]; rfl⟩

theorem authUlen_takes (hstate : s.conn.auth.state = .authUlen) (hne : buffered s ≠ 0) :
    TakesByte s (authUlen s (buffered s)) := by
  have hlen := length_bufferRead hne
  unfold authUlen
  rw [if_pos hstate, if_neg (by omega)]
  dsimp only
  split
  · exact ⟨rfl, rfl⟩
  · exact ⟨.of_conn rfl rfl (by simp), Nat.lt_of_succ_le hlen.le, by rw [← hlen]; rfl⟩

theorem authPlen_takes (hstate : s.conn.auth.state = .authPlen) (hne : buffered s ≠ 0) :
    TakesByte s (authPlen s (buffered s)) := by
  have hlen := length_bufferRead hne
  unfold authPlen
  rw [if_pos hstate, if_neg (by omega)]
  dsimp only
  split
  · exact ⟨rfl, rfl⟩
  · exact ⟨.of_conn rfl rfl (by simp), Nat.lt_of_succ_le hlen.le, by rw [← hlen]; rfl⟩

theorem authUname_waits (hstate : s.conn.auth.state = .authUname) :
    (authUname s (buffered s)).All
      (fun t ret => t = s ∧ ret = .auth ∧ buffered s < s.conn.auth.ulen.toNat)
      (fun t => Reads s t.1 ∧ t.1.conn.auth.state = .authPlen ∧ t.2 = buffered t.1 ∧
        buffered t.1 + s.conn.auth.ulen.toNat = buffered s) := by
  unfold authUname
  rw [if_pos hstate]
  dsimp only
  split
  · next hshort => exact ⟨rfl, rfl, hshort⟩
  · next hcomplete =>
      have hlen : (bufferReadN s.conn.auth.ulen.toNat s.conn.clientBuffer).2.content.length =
          buffered s - s.conn.auth.ulen.toNat := by
        rw [bufferReadN_snd_content, List.length_drop]
        rfl
      refine ⟨.of_conn rfl rfl (hlen.trans_le (Nat.sub_le _ _)), rfl, hlen.symm, ?_⟩
      change (bufferReadN s.conn.auth.ulen.toNat s.conn.clientBuffer).2.content.length + _ = _
      omega

/-- A byte taken by one block makes the event one of progress. -/
theorem TakesByte.advances {b : SocksBlock (Session × ℕ)}
    {f : Session × ℕ → SocksBlock (Session × ℕ)} (hb : TakesByte u b)
    (hf : ∀ t : Session × ℕ, Reads u t.1 → AuthReads t.1 (f t))
    (hwork : workStarted u = workStarted s) (hlen : buffered u ≤ buffered s) :
    Advances .auth s (authResult (b.andThen f)) := by
  rcases b with ⟨t, ret⟩ | t
  · obtain ⟨hsame, rfl⟩ := hb
    exact ⟨hsame.trans hwork, .inl (.inr rfl)⟩
  · obtain ⟨hreads, hless, -⟩ := hb
    exact (hf t hreads).advances (hreads.work.trans hwork) (hless.trans_le hlen)

theorem andThen_assoc {τ υ ω : Type} (b : SocksBlock τ) (f : τ → SocksBlock υ)
    (g : υ → SocksBlock ω) :
    (b.andThen f).andThen g = b.andThen fun t => (f t).andThen g := by
  rcases b with ⟨s, ret⟩ | t <;> rfl

/-- The blocks behind `USERNAME`. -/
def authTail (env : Env) (key : SelectorKey) (s : Session × ℕ) : SocksBlock (Session × ℕ) :=
  (authPlen s.1 s.2).andThen fun s => authPasswd env key s.1 s.2

def authBlocks (env : Env) (key : SelectorKey) (s : Session) : SocksBlock (Session × ℕ) :=
  (authVer s (buffered s)).andThen fun s => (authUlen s.1 s.2).andThen fun s =>
    (authUname s.1 s.2).andThen (authTail env key)

theorem authRead_eq_authBlocks (henv : EofEnv env) (hrecv : s.recvClientBuffer key.fd (some []) =
      (some [], u)) (hne : buffered u ≠ 0) :
    authRead env key s = authResult (authBlocks env key u) := by
  have hlen : u.conn.clientBuffer.content.length = buffered u := rfl
  rw [authRead, henv.recv, hrecv]
  dsimp only
  rw [bufferReadPtr_snd, hlen, if_neg hne, andThen_assoc, andThen_assoc, andThen_assoc]
  generalize hblocks : Block.andThen (authVer u (buffered u)) _ = b
  rw [show authBlocks env key u = b from hblocks]
  rcases b with ⟨t, ret⟩ | t <;> rfl

theorem authRead_of_nil (henv : EofEnv env) (hrecv : s.recvClientBuffer key.fd (some []) =
      (some [], u)) (hnil : buffered u = 0) : authRead env key s = (u, .done) := by
  have hlen : u.conn.clientBuffer.content.length = buffered u := rfl
  rw [authRead, henv.recv, hrecv]
  dsimp only
  rw [bufferReadPtr_snd, hlen, if_pos hnil]

/-- The bytes buffered decide how `auth_read` ends. -/
theorem authRead_eof (henv : EofEnv env) (hkey : key.fd = s.conn.clientFd)
    (hopen : s.conn.closed = false) (hreg : s.interestOf s.conn.clientFd ≠ none) :
    AuthReady s ∧ Advances .auth s (authRead env key s) ∨
      ¬ AuthReady s ∧ Halts .auth s (authRead env key s) := by
  obtain ⟨u, hrecv, hcontent, hsel, -, hauth, -, hreads⟩ := recvClientBuffer_eof s key.fd
  have hlen : buffered u = buffered s := congrArg List.length hcontent
  have hregister := hreads.registered hreg
  have hkeyU : key.fd = u.conn.clientFd := hkey.trans hreads.clientFd.symm
  have hstuck : Halts .auth s (u, .auth) :=
    .inl ⟨rfl, hreads.isOpen.trans hopen, hlen, hsel⟩
  have hpasswd : ∀ {t v : Session} (toRead : ℕ), Reads u t → Reads t v →
      AuthReads t (authPasswd env key v toRead) := fun toRead ht hv =>
    authPasswd_auth env (hkeyU.trans ht.clientFd.symm) hv (ht.registered hregister) toRead
  have htail : ∀ {t v : Session} (toRead : ℕ), Reads u t → Reads t v →
      AuthReads t (authTail env key (v, toRead)) := fun toRead ht hv =>
    (authPlen_reads hv toRead).andThen fun w hw => hpasswd w.2 ht hw
  rw [AuthReady, ← hauth, ← hlen]
  by_cases hnil : buffered u = 0
  · rw [authRead_of_nil henv hrecv hnil]
    refine .inl ⟨?_, hreads.work, .inl (.inl rfl)⟩
    rcases u.conn.auth.state with _ | _ | _ | _ | _ <;> simp [hnil]
  · rw [authRead_eq_authBlocks henv hrecv hnil]
    rcases hstate : u.conn.auth.state with _ | _ | _ | _ | _
    · refine .inl ⟨trivial, (authVer_takes hstate hnil).advances ?_ hreads.work hlen.le⟩
      intro t ht
      refine (authUlen_reads (.refl _) t.2).andThen fun v hv => ?_
      exact (authUname_reads hv v.2).andThen fun w hw => htail w.2 ht hw
    · have hskip : authVer u (buffered u) = .next (u, buffered u) := by simp [authVer, hstate]
      rw [authBlocks, hskip, Block.andThen_next]
      refine .inl ⟨trivial, (authUlen_takes hstate hnil).advances ?_ hreads.work hlen.le⟩
      intro t ht
      exact (authUname_reads (.refl _) t.2).andThen fun w hw => htail w.2 ht hw
    · have hskip : authVer u (buffered u) = .next (u, buffered u) := by simp [authVer, hstate]
      have hskip' : authUlen u (buffered u) = .next (u, buffered u) := by
        simp [authUlen, hstate]
      rw [authBlocks, hskip, Block.andThen_next, hskip', Block.andThen_next]
      have huname := authUname_waits hstate
      rcases hblock : authUname u (buffered u) with ⟨t, ret⟩ | ⟨t, toRead⟩
      · rw [hblock] at huname
        obtain ⟨rfl, rfl, hshort⟩ := huname
        exact .inr ⟨not_or.mpr ⟨hnil, Nat.not_le.mpr hshort⟩, hstuck⟩
      · rw [hblock] at huname
        obtain ⟨ht, hplen, htoRead, hsum⟩ := huname
        dsimp only at ht hplen htoRead hsum
        subst htoRead
        refine .inl ⟨.inr (by omega), ?_⟩
        rw [Block.andThen_next]
        by_cases hempty : u.conn.auth.ulen.toNat = 0
        · -- A name of length zero takes no byte, the length behind it does.
          refine (authPlen_takes hplen (by omega)).advances ?_ (ht.work.trans hreads.work)
            (by omega)
          intro v hv
          exact hpasswd v.2 (ht.trans hv) (.refl _)
        · exact (htail _ ht (.refl _)).advances (ht.work.trans hreads.work) (by omega)
    · have hskip : authVer u (buffered u) = .next (u, buffered u) := by simp [authVer, hstate]
      have hskip' : authUlen u (buffered u) = .next (u, buffered u) := by
        simp [authUlen, hstate]
      have hskip'' : authUname u (buffered u) = .next (u, buffered u) := by
        simp [authUname, hstate]
      rw [authBlocks, hskip, Block.andThen_next, hskip', Block.andThen_next, hskip'',
        Block.andThen_next]
      refine .inl ⟨trivial, (authPlen_takes hstate hnil).advances ?_ hreads.work hlen.le⟩
      intro t ht
      exact hpasswd t.2 ht (.refl _)
    · have hskip : authBlocks env key u = authPasswd env key u (buffered u) := by
        simp [authBlocks, authTail, authVer, authUlen, authUname, authPlen, hstate]
      have hlast := authPasswd_reads env hkeyU (.refl u) hregister hstate (buffered u)
      rw [hskip]
      rcases hblock : authPasswd env key u (buffered u) with ⟨t, ret⟩ | t
      · rw [hblock] at hlast
        obtain ⟨rfl, rfl, hshort⟩ := hlast
        exact .inr ⟨not_or.mpr ⟨hnil, Nat.not_le.mpr hshort⟩, hstuck⟩
      · rw [hblock] at hlast
        obtain ⟨ht, hcomplete, hwrite⟩ := hlast
        rw [hreads.clientFd] at hwrite
        exact .inl ⟨.inr hcomplete, ht.work.trans hreads.work, .inr (.inr ⟨.inl rfl, hwrite⟩)⟩

/-! ### REQUEST -/

theorem replyWith_reads (h : Reads s t) (hreg : s.interestOf s.conn.clientFd ≠ none)
    (rep : UInt8) :
    workStarted (replyWith rep t).1 = workStarted s ∧ (replyWith rep t).2 = .reply ∧
      (replyWith rep t).1.interestOf s.conn.clientFd = some .opWrite := by
  have hstored : Reads s { t with conn.reply.rep := rep } :=
    h.trans (.of_conn rfl rfl (Nat.le_refl _))
  have hwrite := hstored.setInterest hreg
  exact ⟨hwrite.1.work, rfl, hwrite.2⟩

/-- How the header block ends the event. -/
def HeaderStops (s t : Session) (ret : SocksV5State) : Prop :=
  workStarted t = workStarted s ∧
    (ret = .done ∧ buffered s = 0 ∨ t = s ∧ ret = .request ∧ buffered s ≠ 0 ∧ buffered s < 4 ∨
      ret = .reply ∧ 4 ≤ buffered s ∧ ¬ AcceptedHeader s.conn.clientBuffer.content ∧
        t.interestOf s.conn.clientFd = some .opWrite)

theorem refuse_stops {Q : Session → Prop} (h : Reads s t)
    (hreg : s.interestOf s.conn.clientFd ≠ none) (rep : UInt8) (hlong : 4 ≤ buffered s)
    (hheader : ¬ AcceptedHeader s.conn.clientBuffer.content) :
    (refuse rep t).All (HeaderStops s) Q := by
  obtain ⟨hwork, hret, hwrite⟩ := replyWith_reads h hreg rep
  exact ⟨hwork, .inr (.inr ⟨hret, hlong, hheader, hwrite⟩)⟩

theorem getD_drop_zero (n : ℕ) (bytes : List UInt8) :
    (bytes.drop n).getD 0 0 = bytes.getD n 0 := by
  simp [List.getD_eq_getElem?_getD]

/-- The header block needs four bytes and then refuses or consumes them. -/
theorem verCmdAtyp_reads (hreg : s.interestOf s.conn.clientFd ≠ none) :
    (verCmdAtyp s).All (HeaderStops s)
      (fun t => Reads s t ∧ t.conn.request.state = .dstLen ∧
        t.conn.request.atyp = s.conn.clientBuffer.content.getD 3 0 ∧
        t.conn.clientBuffer.content = s.conn.clientBuffer.content.drop 4 ∧ 4 ≤ buffered s ∧
        AcceptedHeader s.conn.clientBuffer.content) := by
  have hread : ∀ {b : Buffer} {request : RequestSt},
      b.content.length ≤ s.conn.clientBuffer.content.length →
      Reads s { s with conn.clientBuffer := b, conn.request := request } :=
    fun hb => .of_conn rfl rfl hb
  unfold verCmdAtyp
  dsimp only
  rw [bufferReadPtr_snd]
  simp only [bufferRead_getD, bufferRead_content, List.drop_drop, getD_drop_zero]
  split_ifs with hnil hshort hver hcmd hrsv hatyp
  · exact ⟨rfl, .inl ⟨rfl, hnil⟩⟩
  · exact ⟨rfl, .inr (.inl ⟨rfl, rfl, hnil, hshort⟩)⟩
  · exact refuse_stops (hread (by simp)) hreg _ (Nat.not_lt.mp hshort) fun h => hver h.version
  · exact refuse_stops (hread (by simp)) hreg _ (Nat.not_lt.mp hshort) fun h => hcmd h.command
  · exact refuse_stops (hread (by simp)) hreg _ (Nat.not_lt.mp hshort) fun h => hrsv h.reserved
  · refine refuse_stops (hread (by simp)) hreg _ (Nat.not_lt.mp hshort) fun h => ?_
    have htype := h.type
    rw [hatyp] at htype
    exact absurd htype Bool.false_ne_true
  · refine ⟨.of_conn rfl rfl (by simp), rfl, rfl, by simp, Nat.not_lt.mp hshort, ?_⟩
    exact ⟨not_not.mp hver, not_not.mp hcmd, not_not.mp hrsv, by simpa using hatyp⟩

/-! The destination, by whether the length test lets it through. -/

theorem destinationTaken_fqdn {n : UInt8} {rest : List UInt8} :
    DestinationTaken fqdn (n :: rest) ↔ n ≠ 0 ∧ n.toNat + 1 ≤ rest.length := by
  simp [DestinationTaken, destinationLength]

theorem destinationTaken_ip {atyp : UInt8} {bytes : List UInt8} (hatyp : atyp ≠ fqdn) :
    DestinationTaken atyp bytes ↔ (addrBytesByIpVersion atyp).toNat + 1 ≤ bytes.length := by
  simp [DestinationTaken, destinationLength, hatyp]

theorem not_destinationTaken_nil {atyp : UInt8} : ¬ DestinationTaken atyp [] := by
  rintro ⟨hname, hlen⟩
  by_cases hatyp : atyp = fqdn
  · exact hname hatyp rfl
  · simp [destinationLength, hatyp] at hlen

/-- A destination that is let through is read and used. -/
theorem dstLen_taken (env : Env) (hstate : s.conn.request.state = .dstLen)
    (htaken : DestinationTaken s.conn.request.atyp s.conn.clientBuffer.content) :
    ∃ t addrBytes, dstLen env s = .next (t, addrBytes) ∧ workStarted t = workStarted s ∧
      t.conn.request.state = .dstRes := by
  by_cases hatyp : s.conn.request.atyp = fqdn
  · rcases hcontent : s.conn.clientBuffer.content with _ | ⟨n, rest⟩
    · rw [hcontent] at htaken
      exact absurd htaken not_destinationTaken_nil
    · rw [hcontent, hatyp, destinationTaken_fqdn] at htaken
      obtain ⟨b, -, hlen⟩ := dstLen_fqdn env hstate hatyp hcontent
      rw [if_neg htaken.1, if_neg (Nat.not_lt.mpr htaken.2)] at hlen
      exact ⟨_, _, hlen, rfl, rfl⟩
  · rw [destinationTaken_ip hatyp] at htaken
    exact ⟨_, _, dstLen_ip env hstate hatyp htaken, rfl, rfl⟩

/-- Any other destination ends the event; only an address that is short stays
as it is. -/
theorem dstLen_waits (env : Env) (hreg : s.interestOf s.conn.clientFd ≠ none)
    (hstate : s.conn.request.state = .dstLen)
    (hnot : ¬ DestinationTaken s.conn.request.atyp s.conn.clientBuffer.content) :
    ∃ t ret, dstLen env s = .returned t ret ∧ workStarted t = workStarted s ∧
      (ret = .done ∧ buffered s = 0 ∨
        ret = .reply ∧ s.conn.request.atyp = fqdn ∧
          t.interestOf s.conn.clientFd = some .opWrite ∨
        ret = .request ∧ s.conn.request.atyp = fqdn ∧ buffered t < buffered s ∨
        ret = .request ∧ t = s ∧ s.conn.request.atyp ≠ fqdn ∧ buffered s ≠ 0) := by
  rcases hcontent : s.conn.clientBuffer.content with _ | ⟨n, rest⟩
  · exact ⟨s, .done, dstLen_of_nil hstate hcontent, rfl, .inl ⟨rfl, by simp [buffered, hcontent]⟩⟩
  · have hne : buffered s ≠ 0 := by simp [buffered, hcontent]
    rw [hcontent] at hnot
    by_cases hatyp : s.conn.request.atyp = fqdn
    · rw [hatyp, destinationTaken_fqdn, not_and_or, not_not, Nat.not_le] at hnot
      obtain ⟨b, hb, hlen⟩ := dstLen_fqdn env hstate hatyp hcontent
      have hless : b.content.length < s.conn.clientBuffer.content.length := by
        rw [hb, hcontent]
        exact Nat.lt_succ_self _
      by_cases hzero : n = 0
      · rw [if_pos hzero] at hlen
        obtain ⟨hwork, hret, hwrite⟩ := replyWith_reads (t := { s with conn.clientBuffer := b })
          (.of_conn rfl rfl hless.le) hreg invalidFqdnLenght
        exact ⟨_, _, hlen, hwork, .inr (.inl ⟨hret, hatyp, hwrite⟩)⟩
      · rw [if_neg hzero, if_pos (hnot.resolve_left hzero)] at hlen
        exact ⟨_, _, hlen, rfl, .inr (.inr (.inl ⟨rfl, hatyp, hless⟩))⟩
    · rw [destinationTaken_ip hatyp, Nat.not_le, ← hcontent] at hnot
      refine ⟨s, .request, dstLen_ip_short hstate hatyp (by simp [hcontent]) hnot, rfl, ?_⟩
      exact .inr (.inr (.inr ⟨rfl, rfl, hatyp, hne⟩))

/-- A kernel with nothing to deliver that lets every new connection succeed. -/
def eofWorking : Env :=
  { (default : Env) with
    recv := some []
    recvDst := some []
    callocAddr := true
    callocInfo := true
    startThread := true
    attempts := fun _ =>
      { socket := 0
        setNio := true
        connect := .success
        alloc := true } }

theorem eofWorking_eof : EofEnv eofWorking := ⟨rfl, rfl⟩

theorem workStarted_act_ne {action : Action} (h : action.startsWork = true) :
    workStarted (s.act action) ≠ workStarted s := by
  intro heq
  have hlen := congrArg List.length heq
  simp [workStarted, Session.act, h] at hlen

/-- A connection attempt on one address. -/
theorem connectToDest_works {addr : SockAddr} (key : SelectorKey)
    (haddr : s.conn.originResolution = [addr]) :
    ∃ r, connectToDest eofWorking key s = .ok r ∧ r.2 = .reply ∧
      workStarted r.1 ≠ workStarted s := by
  have htry : tryConnection eofWorking key s =
      .ok (({ s with conn.originFd := 0 }).act (.connect 0 addr .success), connectionDone) := by
    rw [tryConnection, haddr]
    rfl
  -- The code of a finished connection is the reply code of an unreachable network.
  refine ⟨replyWith networkUnreachable (({ s with conn.originFd := 0 }).act
    (.connect 0 addr .success)), ?_, rfl, ?_⟩
  · rw [connectToDest, haddr, htry]
    rfl
  · exact workStarted_act_ne (s := { s with conn.originFd := 0 }) rfl

theorem dstIp_works (key : SelectorKey) (family : AddressFamily) (len : ℕ) :
    ∃ r, dstIp eofWorking key (getIpAddress family len) (fun env => resolveIp env family) s =
      .ok r ∧ r.2 = .reply ∧ workStarted r.1 ≠ workStarted s := by
  obtain ⟨b, -, hdst⟩ := dstIp_eq eofWorking key family len rfl rfl s
  rw [hdst]
  exact connectToDest_works (s := { s with
    conn.clientBuffer := b
    conn.originHost := .presentation family (taken len s.conn.clientBuffer.content)
    conn.originPort := decimal (portOf (s.conn.clientBuffer.content.drop len))
    conn.originResolution :=
      [⟨family, taken len s.conn.clientBuffer.content,
        portOf (s.conn.clientBuffer.content.drop len) % 65536⟩]
    conn.resolvedByName := false }) key rfl

/-- The destination is used: a connection attempt or a resolver. -/
theorem dstRes_works (key : SelectorKey) (addrBytes : UInt8) :
    ∃ r, dstRes eofWorking key addrBytes s = .ok r ∧ (r.2 = .request ∨ r.2 = .reply) ∧
      workStarted r.1 ≠ workStarted s := by
  unfold dstRes
  split_ifs
  · obtain ⟨r, hr, hret, hwork⟩ := dstIp_works (s := s) key .inet ipv4AddrLen
    exact ⟨r, hr, .inr hret, hwork⟩
  · obtain ⟨b, u, -, hu, hfqdn⟩ := dstFqdn_eq eofWorking addrBytes s
    have hsame : workStarted u = workStarted s := by
      rw [hu]
      rfl
    refine ⟨_, congrArg Except.ok hfqdn, .inl rfl, ?_⟩
    rw [← hsame]
    exact workStarted_act_ne (s := u) rfl
  · obtain ⟨r, hr, hret, hwork⟩ := dstIp_works (s := s) key .inet6 ipv6AddrLen
    exact ⟨r, hr, .inr hret, hwork⟩

theorem resolveDstAddress_works (key : SelectorKey)
    (h : s.conn.request.state = .dstRes ∨ s.conn.request.state = .dstLen ∧
      DestinationTaken s.conn.request.atyp s.conn.clientBuffer.content) :
    ∃ r, resolveDstAddress eofWorking key s = .ok r ∧ (r.2 = .request ∨ r.2 = .reply) ∧
      workStarted r.1 ≠ workStarted s := by
  obtain ⟨u, hrecv, hcontent, -, -, -, hrequest, hreads⟩ :=
    recvClientBuffer_eof s s.conn.clientFd
  rw [← hrequest, ← hcontent] at h
  have hnext : ∃ t addrBytes, dstLen eofWorking u = .next (t, addrBytes) ∧
      workStarted t = workStarted u := by
    rcases h with hres | ⟨hlen, htaken⟩
    · exact ⟨u, eofWorking.addrBytes, by simp [dstLen, hres], rfl⟩
    · obtain ⟨t, addrBytes, hdst, hwork, -⟩ := dstLen_taken eofWorking hlen htaken
      exact ⟨t, addrBytes, hdst, hwork⟩
  obtain ⟨t, addrBytes, hdst, hwork⟩ := hnext
  obtain ⟨r, hr, hret, hworked⟩ := dstRes_works (s := t) key addrBytes
  refine ⟨r, ?_, hret, ?_⟩
  · rw [resolveDstAddress, eofWorking_eof.recvDst, hrecv]
    dsimp only
    rw [hdst]
    exact hr
  · rw [hwork, hreads.work] at hworked
    exact hworked

theorem resolveDstAddress_waits (henv : EofEnv env) (key : SelectorKey)
    (hreg : s.interestOf s.conn.clientFd ≠ none) (hstate : s.conn.request.state = .dstLen)
    (hnot : ¬ DestinationTaken s.conn.request.atyp s.conn.clientBuffer.content) :
    ∃ t ret, resolveDstAddress env key s = .ok (t, ret) ∧ workStarted t = workStarted s ∧
      (ret = .done ∧ buffered s = 0 ∨
        ret = .reply ∧ s.conn.request.atyp = fqdn ∧
          t.interestOf s.conn.clientFd = some .opWrite ∨
        ret = .request ∧ s.conn.request.atyp = fqdn ∧ buffered t < buffered s ∨
        ret = .request ∧ s.conn.request.atyp ≠ fqdn ∧ buffered s ≠ 0 ∧
          buffered t = buffered s ∧ t.sel = s.sel ∧ t.conn.closed = s.conn.closed) := by
  obtain ⟨u, hrecv, hcontent, hsel, -, -, hrequest, hreads⟩ :=
    recvClientBuffer_eof s s.conn.clientFd
  have hlen : buffered u = buffered s := congrArg List.length hcontent
  rw [← hrequest] at hstate
  rw [← hrequest, ← hcontent] at hnot
  obtain ⟨t, ret, hdst, hwork, hend⟩ := dstLen_waits env (hreads.registered hreg) hstate hnot
  refine ⟨t, ret, ?_, hwork.trans hreads.work, ?_⟩
  · rw [resolveDstAddress, henv.recvDst, hrecv]
    dsimp only
    rw [hdst]
  · rw [hreads.clientFd, hlen, hrequest] at hend
    rcases hend with hdone | hreply | hname | ⟨hret, rfl, hatyp, hne⟩
    · exact .inl hdone
    · exact .inr (.inl hreply)
    · exact .inr (.inr (.inl hname))
    · exact .inr (.inr (.inr ⟨hret, hatyp, hne, hlen, hsel, hreads.isOpen⟩))

/-- With enough buffered for its sub-state, `request_read` makes progress. -/
theorem requestRead_advances (henv : EofEnv env) (key : SelectorKey)
    (hreg : s.interestOf s.conn.clientFd ≠ none) (hready : RequestReady s) :
    ∃ r, requestRead env key s = .ok r ∧ Advances .request s r := by
  unfold RequestReady at hready
  rcases hstate : s.conn.request.state with _ | _ | _
  · obtain ⟨u, hrecv, hcontent, -, -, -, -, hreads⟩ := recvClientBuffer_eof s key.fd
    have hlen : buffered u = buffered s := congrArg List.length hcontent
    have hregister := hreads.registered hreg
    have hheader := verCmdAtyp_reads hregister
    rw [requestRead, if_pos hstate, henv.recv, hrecv]
    dsimp only
    rw [hstate, ← hcontent] at hready
    rcases hblock : verCmdAtyp u with ⟨t, ret⟩ | t
    · rw [hblock] at hheader
      obtain ⟨hwork, ⟨rfl, -⟩ | ⟨rfl, rfl, hne, hshort⟩ | ⟨rfl, -, -, hwrite⟩⟩ := hheader
      · exact ⟨_, rfl, hwork.trans hreads.work, .inl (.inl rfl)⟩
      · have hlong : 4 ≤ buffered t :=
          (hready.resolve_left fun hnil => hne (congrArg List.length hnil)).1
        exact absurd hlong (Nat.not_le.mpr hshort)
      · rw [hreads.clientFd] at hwrite
        exact ⟨_, rfl, hwork.trans hreads.work, .inr (.inr ⟨.inr rfl, hwrite⟩)⟩
    · rw [hblock] at hheader
      obtain ⟨hnext, hdst, hatyp, hrest, hlong, haccepted⟩ := hheader
      have hne : u.conn.clientBuffer.content ≠ [] := by
        intro hnil
        rw [buffered, hnil] at hlong
        exact absurd hlong (by decide)
      have hshorter : buffered t < buffered s := by
        rw [← hlen, buffered, hrest, List.length_drop]
        exact Nat.sub_lt (Nat.lt_of_lt_of_le (by decide) hlong) (by decide)
      have hnot := (hready.resolve_left hne).2 haccepted
      rw [← hatyp, ← hrest] at hnot
      obtain ⟨v, ret, hresolve, hwork, hend⟩ :=
        resolveDstAddress_waits henv key (hnext.registered hregister) hdst hnot
      have hworked := hwork.trans (hnext.work.trans hreads.work)
      refine ⟨(v, ret), hresolve, hworked, ?_⟩
      rcases hend with ⟨rfl, -⟩ | ⟨rfl, -, hwrite⟩ | ⟨rfl, -, hless⟩ | ⟨rfl, -, -, hsame, -⟩
      · exact .inl (.inl rfl)
      · rw [hnext.clientFd, hreads.clientFd] at hwrite
        exact .inr (.inr ⟨.inr rfl, hwrite⟩)
      · exact .inr (.inl ⟨rfl, hless.trans hshorter⟩)
      · exact .inr (.inl ⟨rfl, hsame.trans_lt hshorter⟩)
  · rw [hstate] at hready
    have hnot : ¬ DestinationTaken s.conn.request.atyp s.conn.clientBuffer.content := by
      rcases hready with hnil | hname
      · rw [hnil]
        exact not_destinationTaken_nil
      · exact hname.2
    obtain ⟨t, ret, hresolve, hwork, hend⟩ := resolveDstAddress_waits henv key hreg hstate hnot
    refine ⟨(t, ret), ?_, hwork, ?_⟩
    · rw [requestRead, if_neg (by rw [hstate]; decide)]
      exact hresolve
    · rcases hend with ⟨rfl, -⟩ | ⟨rfl, -, hwrite⟩ | ⟨rfl, -, hless⟩ | ⟨rfl, hatyp, hne, -⟩
      · exact .inl (.inl rfl)
      · exact .inr (.inr ⟨.inr rfl, hwrite⟩)
      · exact .inr (.inl ⟨rfl, hless⟩)
      · rcases hready with hnil | hname
        · exact absurd (congrArg List.length hnil) hne
        · exact absurd hname.1 hatyp
  · rw [hstate] at hready
    exact hready.elim

/-- Otherwise a kernel can be such that it stalls or starts new work. -/
theorem requestRead_halts (key : SelectorKey) (hopen : s.conn.closed = false)
    (hreg : s.interestOf s.conn.clientFd ≠ none) (hnot : ¬ RequestReady s) :
    ∃ r, requestRead eofWorking key s = .ok r ∧ Halts .request s r := by
  unfold RequestReady at hnot
  rcases hstate : s.conn.request.state with _ | _ | _
  · obtain ⟨u, hrecv, hcontent, hsel, -, -, -, hreads⟩ := recvClientBuffer_eof s key.fd
    have hlen : buffered u = buffered s := congrArg List.length hcontent
    have hregister := hreads.registered hreg
    have hheader := verCmdAtyp_reads hregister
    rw [requestRead, if_pos hstate, eofWorking_eof.recv, hrecv]
    dsimp only
    rw [hstate, ← hcontent] at hnot
    obtain ⟨hne, hlate⟩ := not_or.mp hnot
    rcases hblock : verCmdAtyp u with ⟨t, ret⟩ | t
    · rw [hblock] at hheader
      obtain ⟨-, ⟨-, hnil⟩ | ⟨rfl, rfl, -, -⟩ | ⟨-, hlong, hrefused, -⟩⟩ := hheader
      · exact absurd (List.length_eq_zero_iff.mp hnil) hne
      · exact ⟨_, rfl, .inl ⟨rfl, hreads.isOpen.trans hopen, hlen, hsel⟩⟩
      · exact absurd ⟨hlong, fun haccepted => absurd haccepted hrefused⟩ hlate
    · rw [hblock] at hheader
      obtain ⟨hnext, hdst, hatyp, hrest, hlong, -⟩ := hheader
      have htaken : DestinationTaken t.conn.request.atyp t.conn.clientBuffer.content := by
        rw [hatyp, hrest]
        by_contra hrefused
        exact hlate ⟨hlong, fun _ => hrefused⟩
      obtain ⟨r, hr, hret, hworked⟩ := resolveDstAddress_works key (.inr ⟨hdst, htaken⟩)
      rw [hnext.work, hreads.work] at hworked
      exact ⟨r, hr, .inr ⟨hret, hworked⟩⟩
  · rw [hstate] at hnot
    obtain ⟨hne, hshort⟩ := not_or.mp hnot
    rw [requestRead, if_neg (by rw [hstate]; decide)]
    by_cases htaken : DestinationTaken s.conn.request.atyp s.conn.clientBuffer.content
    · obtain ⟨r, hr, hret, hworked⟩ := resolveDstAddress_works key (.inr ⟨hstate, htaken⟩)
      exact ⟨r, hr, .inr ⟨hret, hworked⟩⟩
    · have hatyp : s.conn.request.atyp ≠ fqdn := fun hname => hshort ⟨hname, htaken⟩
      obtain ⟨t, ret, hresolve, -, hend⟩ :=
        resolveDstAddress_waits eofWorking_eof key hreg hstate htaken
      rcases hend with ⟨-, hnil⟩ | ⟨-, hname, -⟩ | ⟨-, hname, -⟩ |
        ⟨rfl, -, -, hsame, hsel, hclosed⟩
      · exact absurd (List.length_eq_zero_iff.mp hnil) hne
      · exact absurd hname hatyp
      · exact absurd hname hatyp
      · exact ⟨_, hresolve, .inl ⟨rfl, hclosed.trans hopen, hsame, hsel⟩⟩
  · obtain ⟨r, hr, hret, hworked⟩ := resolveDstAddress_works (s := s) key (.inl hstate)
    refine ⟨r, ?_, .inr ⟨hret, hworked⟩⟩
    rw [requestRead, if_neg (by rw [hstate]; decide)]
    exact hr

end Readers

/-! ## Read events -/

/-- The client's descriptor is ready and the client has closed its side. -/
def EofRead (s : Session) (e : Event) : Prop :=
  ∃ env, EofEnv env ∧ e = .read s.conn.clientFd env

section Events

variable {s t : Session}

theorem progress_arrived : Progress s.arrived t ↔ Progress s t := by
  unfold Session.arrived
  rcases s.conn.stm with _ | st <;> exact Iff.rfl

/-- What a reader that cannot fault has ready decides about the event. -/
theorem progresses_iff_of_reader {st : SocksV5State} {ready : Prop}
    (reader : Env → Session × SocksV5State)
    (hst : st = .greeting ∨ st = .auth ∨ st = .request)
    (hinterest : ∃ i, s.arrived.interestOf s.arrived.conn.clientFd = some i ∧ i.read = true)
    (hstep : ∀ env, step s (.read s.conn.clientFd env) =
      finish env ⟨s.conn.clientFd, s.address⟩ st (reader env))
    (hends : ∀ env, EofEnv env → ready ∧ Advances st s.arrived (reader env) ∨
      ¬ ready ∧ Halts st s.arrived (reader env)) :
    Progresses s ↔ ready := by
  constructor
  · intro hprogress
    rcases hends eofWorking eofWorking_eof with ⟨hready, -⟩ | ⟨-, hhalts⟩
    · exact hready
    · have hnext := hprogress eofWorking eofWorking_eof
      rw [hstep, hhalts.finish hst] at hnext
      rcases hnext with ⟨t, ht, hgood⟩ | habort
      · rw [← Except.ok.inj ht, ← progress_arrived] at hgood
        exact absurd hgood (hhalts.not_progress hst hinterest)
      · cases habort
  · intro hready env henv
    rw [hstep]
    rcases hends env henv with ⟨-, hadvances⟩ | ⟨hnot, -⟩
    · simpa only [progress_arrived] using hadvances.ends hst
    · exact absurd hready hnot

/-- The arrival in GREETING leaves the registration of the client alone. -/
theorem AwaitsMessage.arrived (h : AwaitsMessage s) :
    s.arrived.conn.clientFd = s.conn.clientFd ∧ s.arrived.conn.closed = false ∧
      ∃ i, s.arrived.interestOf s.arrived.conn.clientFd = some i ∧ i.read = true := by
  have hopen := h.isOpen
  have hinterest := h.interest
  unfold Session.arrived
  rcases s.conn.stm with _ | st <;> exact ⟨rfl, hopen, hinterest⟩

theorem AwaitsMessage.registered (h : AwaitsMessage s) :
    s.arrived.interestOf s.arrived.conn.clientFd ≠ none := by
  obtain ⟨-, -, i, hi, -⟩ := h.arrived
  rw [hi]
  exact Option.some_ne_none i

theorem progresses_greeting (h : AwaitsMessage s) (hstate : s.state = .greeting) :
    Progresses s ↔ GreetingReady s.arrived := by
  obtain ⟨hfd, hopen, hinterest⟩ := h.arrived
  refine progresses_iff_of_reader
    (fun env => greetingRead env ⟨s.conn.clientFd, s.address⟩ s.arrived) (.inl rfl) hinterest
    ?_ ?_
  · intro env
    exact step_read_greeting hstate h.isOpen _ env
  · intro env henv
    exact greetingRead_eof henv hfd.symm hopen h.registered

theorem progresses_auth (h : AwaitsMessage s) (hstate : s.state = .auth) :
    Progresses s ↔ AuthReady s := by
  obtain ⟨-, harrived⟩ := arrived_of_some (stm_of_state hstate (by decide))
  obtain ⟨-, -, hinterest⟩ := h.arrived
  have hreg := h.registered
  refine progresses_iff_of_reader
    (fun env => authRead env ⟨s.conn.clientFd, s.address⟩ s.arrived) (.inr (.inl rfl)) hinterest
    ?_ ?_
  · intro env
    rw [harrived]
    exact step_read_auth hstate h.isOpen _ env
  · rw [harrived] at hreg ⊢
    intro env henv
    exact authRead_eof henv rfl h.isOpen hreg

theorem progresses_request (h : AwaitsMessage s) (hstate : s.state = .request) :
    Progresses s ↔ RequestReady s := by
  obtain ⟨-, harrived⟩ := arrived_of_some (stm_of_state hstate (by decide))
  have hreg := h.registered
  rw [harrived] at hreg
  constructor
  · intro hprogress
    by_contra hnot
    obtain ⟨r, hr, hhalts⟩ :=
      requestRead_halts ⟨s.conn.clientFd, s.address⟩ h.isOpen hreg hnot
    have hnext := hprogress eofWorking eofWorking_eof
    rw [step_read_request hstate h.isOpen hr, hhalts.finish (.inr (.inr rfl))] at hnext
    rcases hnext with ⟨t, ht, hgood⟩ | habort
    · rw [← Except.ok.inj ht] at hgood
      exact hhalts.not_progress (.inr (.inr rfl)) h.interest hgood
    · cases habort
  · intro hready env henv
    obtain ⟨r, hr, hadvances⟩ :=
      requestRead_advances henv ⟨s.conn.clientFd, s.address⟩ hreg hready
    rw [step_read_request hstate h.isOpen hr]
    exact hadvances.ends (.inr (.inr rfl))

theorem progresses_iff_ready (h : AwaitsMessage s) : Progresses s ↔ EofReady s := by
  unfold EofReady
  rcases h.state with hstate | hstate | hstate
  · rw [hstate]
    exact progresses_greeting h hstate
  · rw [hstate]
    exact progresses_auth h hstate
  · rw [hstate]
    exact progresses_request h hstate

/-- After an event that turned to writing or closed, no message is awaited. -/
theorem Progress.not_awaits (h : Progress s t) (hfd : t.conn.clientFd = s.conn.clientFd)
    (hsame : ¬ buffered t < buffered s) : ¬ AwaitsMessage t := by
  intro hawaits
  rcases h.2.resolve_left hsame with hwrite | hclosed
  · obtain ⟨i, hi, hread⟩ := hawaits.interest
    rw [hfd, hwrite, Option.some.injEq] at hi
    rw [← hi] at hread
    exact absurd hread (by decide)
  · exact absurd hclosed (by simp [hawaits.isOpen])

/-- Read events after the client's end-of-file make progress in exactly the
states that `EofReady` lists, and where all states are of that kind the events
come to an end, the last one counted even if it ends the process. -/
theorem eof_progress_iff (h : AwaitsMessage s) :
    (Progresses s ↔ EofReady s) ∧
      ∀ es t, Steps step (fun u e => AwaitsMessage u ∧ EofRead u e ∧ EofReady u) s es →
        run step s es.dropLast = .ok t → es.length ≤ buffered s + 1 := by
  refine ⟨progresses_iff_ready h, ?_⟩
  intro es v hes hrun
  refine Steps.length_le ?_ hes hrun
  rintro u e t ⟨hawaits, ⟨env, henv, rfl⟩, hready⟩ ht
  have hprogress : Progress u t := by
    rcases (progresses_iff_ready hawaits).mpr hready env henv with ⟨w, hw, hgood⟩ | habort
    · rw [hw, Except.ok.injEq] at ht
      exact ht ▸ hgood
    · rw [habort] at ht
      cases ht
  by_cases hless : buffered t < buffered u
  · exact .inl hless
  · exact .inr fun e' he' => hprogress.not_awaits (step_persists ht).clientFd hless he'.1

/-- A connection that has received the version byte of its greeting. -/
def versionOnly : Session := firstSessionAfter [.read 4 (receives [0x05])]

theorem versionOnly_awaits : AwaitsMessage versionOnly where
  isOpen := by decide +kernel
  state := .inl (by decide +kernel)
  data := by decide +kernel
  interest := ⟨.opRead, by decide +kernel, rfl⟩
  partially := by
    rintro ⟨hstate, -⟩
    exact absurd hstate (by decide +kernel)

/-- With one byte of the greeting buffered the server spins. -/
theorem versionOnly_stalls :
    run step firstSession [.read 4 (receives [0x05])] = .ok versionOnly ∧
      AwaitsMessage versionOnly ∧ ¬ Progresses versionOnly := by
  refine ⟨run_firstSession (by decide +kernel), versionOnly_awaits, ?_⟩
  rw [progresses_greeting versionOnly_awaits (by decide +kernel), GreetingReady]
  have hsub : versionOnly.arrived.conn.greeting.state = .verNNmethods := by decide +kernel
  rw [hsub]
  exact fun hready => hready (by decide +kernel)

/-- A connection in REQUEST with the header of a request buffered behind the
greeting. -/
@[irreducible] def headerOnly : Session :=
  firstSessionAfter
    [.read 4 (receives [0x05, 0x01, 0x00, 0x05, 0x01, 0x00, 0x03]), .write 4 (sends 2)]

theorem headerOnly_buffered :
    headerOnly.conn.clientBuffer.content = [0x05, 0x01, 0x00, 0x03] := by decide +kernel

theorem headerOnly_state :
    headerOnly.state = .request ∧ headerOnly.conn.request.state = .verCmdAtyp := by
  decide +kernel

theorem headerOnly_clientFd : headerOnly.conn.clientFd = 4 := by decide +kernel

theorem headerOnly_partial : ¬ RequestArrived headerOnly := by
  unfold RequestArrived
  rw [headerOnly_state.2, headerOnly_buffered]
  exact fun h => absurd h.2.2 (by decide)

theorem headerOnly_awaits : AwaitsMessage headerOnly where
  isOpen := by decide +kernel
  state := .inr (.inr (by decide +kernel))
  data := by decide +kernel
  interest := ⟨.opRead, by decide +kernel, rfl⟩
  partially := headerOnly_partial

theorem headerOnly_ready : EofReady headerOnly := by
  rw [EofReady, headerOnly_state.1]
  dsimp only
  rw [RequestReady, headerOnly_state.2, headerOnly_buffered]
  refine .inr ⟨by decide, fun _ htaken => ?_⟩
  exact htaken.1 rfl rfl

/-- With the header of a request buffered an end of file is progress. -/
theorem eof_progress_iff_headerOnly :
    Progresses headerOnly ∧
      Steps step (fun u e => AwaitsMessage u ∧ EofRead u e ∧ EofReady u) headerOnly
        [.read 4 eofWorking] ∧
      [Event.read 4 eofWorking].length ≤ buffered headerOnly + 1 := by
  have hread : EofRead headerOnly (.read 4 eofWorking) :=
    ⟨eofWorking, eofWorking_eof, congrArg (Event.read · eofWorking) headerOnly_clientFd.symm⟩
  have hsteps : Steps step (fun u e => AwaitsMessage u ∧ EofRead u e ∧ EofReady u) headerOnly
      [.read 4 eofWorking] := Steps.single ⟨headerOnly_awaits, hread, headerOnly_ready⟩
  obtain ⟨hprogresses, hbound⟩ := eof_progress_iff headerOnly_awaits
  exact ⟨hprogresses.mpr headerOnly_ready, hsteps, hbound _ _ hsteps rfl⟩

end Events

end Socks5Proxy

import Socks5Proxy.Socks.PendingMessage
import Socks5Proxy.Socks.Accepted

/-!
# Pipelined handshake messages

The bytes of the next message may already lie in `client_buffer` when a state
hands over to the next one, and the arrival callbacks do not look at them.  A
connection is stranded when its progress then waits for a read event that need
not come.
-/

namespace Socks5Proxy

open Library

/-! ## Stranded connections -/

/-- The connection has asked for nothing but bytes from its client. -/
structure AwaitsClient (s : Session) : Prop where
  alive : s.conn.closed = false
  state : s.state ∈ [SocksV5State.greeting, .auth, .request]
  interest : s.interestOf s.conn.clientFd = some .opRead
  resolvers : s.resolvers = 0
  jobs : s.conn.clientFd ∉ s.sel.resolutionJobs

/-- It waits for bytes although a complete message lies in its buffer. -/
def Stranded (s : Session) : Prop := AwaitsClient s ∧ HoldsMessage s

/-- This `send` takes the rest of the response. -/
def ResponseSent (s : Session) (env : Env) : Prop :=
  s.conn.originBuffer.content.length ≤ env.send.getD 0

/-- The buffer holds a complete message for the state the response leads to. -/
def HoldsNextMessage (s : Session) : Prop :=
  match s.state with
  | .greeting =>
    if s.arrived.conn.greeting.method = authMethod then
      CompleteAuth s.conn.clientBuffer.content
    else CompleteRequest s.conn.clientBuffer.content
  | .auth => s.conn.auth.authenticated = true ∧ CompleteRequest s.conn.clientBuffer.content
  | .reply => s.conn.reply.rep ≠ succeded ∧ CompleteRequest s.conn.clientBuffer.content
  | _ => False

/-- A read event in REQUEST whose `recv` calls return `got` brings the length
byte of a domain name but not all of the name and a byte of the port, and what
it brings looks like a domain name and a port itself. -/
def SplitsDomain (s : Session) (got : List UInt8) : Prop :=
  s.state = .request ∧ destinationType s got = fqdn ∧
    ∃ n rest, destinationAtHand s got = n :: rest ∧ rest.length < n.toNat + 1 ∧
      HoldsDestination fqdn rest

/-- No response is completed while the message after it lies in the buffer, and
no domain name is split behind its length byte. -/
def Unhurried (s : Session) : Event → Prop
  | .read fd env => ∀ t got, step s (.read fd env) = .ok t →
      allReceived t.log = allReceived s.log ++ got → ¬ SplitsDomain s got
  | .write _ env => ResponseSent s env → ¬ HoldsNextMessage s
  | _ => True

theorem holdsMessage_act (s : Session) (action : Action) :
    HoldsMessage (s.act action) ↔ HoldsMessage s := by
  unfold HoldsMessage Session.state Session.arrived Session.act
  rcases hstm : s.conn.stm with _ | st
  · rfl
  · cases st <;> rfl

/-! ## States that are never left backwards -/

def SocksV5State.Early (st : SocksV5State) : Prop := st = .greeting ∨ st = .auth

section Later

variable {env : Env} {key : SelectorKey} {s : Session} {r : Session × SocksV5State}

theorem not_early_of_connecting (h : r.2 = .connect ∨ r.2 = .reply) : ¬ r.2.Early := by
  rcases h with h | h <;> simp [h, SocksV5State.Early]

theorem dstRes_later {addrBytes : UInt8} (h : dstRes env key addrBytes s = .ok r) :
    ¬ r.2.Early := by
  unfold dstRes at h
  split_ifs at h
  · exact not_early_of_connecting (dstIp_state h)
  · obtain ⟨b, u, -, -, heq⟩ := dstFqdn_eq env addrBytes s
    rw [heq, Except.ok.injEq] at h
    subst h
    split_ifs <;> simp [replyWith, toReplyState, SocksV5State.Early]
  · exact not_early_of_connecting (dstIp_state h)

theorem resolveDstAddress_later (h : resolveDstAddress env key s = .ok r) : ¬ r.2.Early := by
  unfold resolveDstAddress at h
  have hlen : ∀ u, (dstLen env u).All (fun _ st => ¬ st.Early) (fun _ => True) := by
    intro u
    unfold dstLen
    dsimp only
    split_ifs <;> simp [Block.All, refuse, replyWith, toReplyState, SocksV5State.Early]
  have hblock := hlen (s.recvClientBuffer s.conn.clientFd env.recvDst).2
  dsimp only at h
  generalize dstLen env (s.recvClientBuffer s.conn.clientFd env.recvDst).2 = b at h hblock
  rcases b with ⟨t, st⟩ | ⟨t, addrBytes⟩
  · cases h
    exact hblock
  · exact dstRes_later h

theorem requestRead_later (h : requestRead env key s = .ok r) : ¬ r.2.Early := by
  unfold requestRead at h
  split_ifs at h
  · have hheader := verCmdAtyp_cases (s.recvClientBuffer key.fd env.recv).2
    dsimp only at h
    generalize verCmdAtyp (s.recvClientBuffer key.fd env.recv).2 = b at h hheader
    rcases b with ⟨t, st⟩ | t
    · cases h
      rcases hheader with ⟨hst, -⟩ | hst | hst <;> simp [hst, SocksV5State.Early]
    · exact resolveDstAddress_later h
  · exact resolveDstAddress_later h

/-- The states in which nothing can be stranded. -/
def SocksV5State.Quiet (st : SocksV5State) : Prop :=
  st ∉ [SocksV5State.greeting, .auth, .request]

theorem copyResult_quiet (s : Session) (a b : Side) : (copyResult s a b).2.Quiet := by
  unfold copyResult
  split <;> simp [SocksV5State.Quiet]

theorem afterTransfer_quiet (s : Session) (a b : Side) : (afterTransfer s a b).2.Quiet := by
  unfold afterTransfer
  split
  · simp [SocksV5State.Quiet]
  · exact copyResult_quiet _ _ _

theorem socksv5CopyRead_quiet (env : Env) (key : SelectorKey) (s : Session) :
    (socksv5CopyRead env key s).2.Quiet := by
  unfold socksv5CopyRead
  dsimp only
  split
  · simp [SocksV5State.Quiet]
  · generalize bufferRecv _ env.recv = readn
    obtain ⟨bytes, b⟩ := readn
    dsimp only
    split
    · exact afterTransfer_quiet _ _ _
    · exact copyResult_quiet _ _ _
    · exact copyResult_quiet _ _ _

theorem socksv5CopyWrite_quiet (env : Env) (key : SelectorKey) (s : Session) :
    (socksv5CopyWrite env key s).2.Quiet := by
  unfold socksv5CopyWrite
  dsimp only
  split
  · simp [SocksV5State.Quiet]
  · generalize bufferSend _ env.send = written
    obtain ⟨bytes, b⟩ := written
    dsimp only
    split
    · exact afterTransfer_quiet _ _ _
    · exact copyResult_quiet _ _ _
    · exact copyResult_quiet _ _ _

end Later

/-! ## The invariant -/

/-- Until the handshake is over only the client's descriptor is registered with
the connection, and the connection is not stranded. -/
structure Flowing (s : Session) : Prop where
  owner : s.state.Early → ∀ fd, s.sel.dataOf fd = some s.address → fd = s.conn.clientFd
  flowing : ¬ Stranded s

section Steps

variable {env : Env} {key : SelectorKey} {s t : Session} {fd : ℤ}

theorem flowing_of_quiet (h : t.state.Quiet) : Flowing t where
  owner := by
    rintro (hst | hst) <;> rw [hst] at h <;> simp [SocksV5State.Quiet] at h
  flowing := fun hstranded => h hstranded.1.state

theorem state_settle {st : SocksV5State} {r : Session × SocksV5State} :
    (settle env key st r).state = r.2 := by
  rw [Session.state, settle_stm]
  rfl

theorem settle_flowing_of_quiet {st : SocksV5State} {r : Session × SocksV5State}
    (h : r.2.Quiet) : Flowing (settle env key st r) := by
  apply flowing_of_quiet
  rw [state_settle]
  exact h

/-- A reader that has queued its response does not wait for bytes. -/
theorem not_awaitsClient_of_onlyWrites (h : OnlyWrites t t.conn.clientFd) :
    ¬ AwaitsClient t := by
  intro hawaits
  have hread := h _ hawaits.interest
  cases hread

/-- The owner is unchanged by what the handshake keeps. -/
theorem Flowing.owner_of_frame (h : Flowing s) (hearly : s.state.Early)
    (hframe : HandshakeFrame s t) :
    ∀ fd, t.sel.dataOf fd = some t.address → fd = t.conn.clientFd := by
  intro fd hdata
  rw [hframe.dataOf, hframe.address] at hdata
  rw [hframe.clientFd]
  exact h.owner hearly fd hdata

theorem quiet_of_stop {st : SocksV5State} (h : st = .error ∨ st = .done) : st.Quiet := by
  rcases h with h | h <;> simp [h, SocksV5State.Quiet]

/-- A read event of GREETING or AUTH. -/
theorem Flowing.read_handshake (h : Flowing s) {own : SocksV5State} (hown : own.Early)
    (hstate : s.state = own) {callback : Session → Session × SocksV5State}
    (hframe : HandshakeFrame s.arrived (callback s.arrived).1)
    (hstays : ReaderReturns own
        (fun t => HoldsMessage { t with conn.stm := some own })
        (callback s.arrived).1 (callback s.arrived).2 ∨
      ((callback s.arrived).2 = own ∧ OnlyWrites (callback s.arrived).1 key.fd))
    (hkey : s.sel.dataOf key.fd = some s.address) :
    Flowing (settle env key own (callback s.arrived)) := by
  have howner := h.owner_of_frame (hstate ▸ hown) (arrived_handshake.trans hframe)
  have hfd : key.fd = (callback s.arrived).1.conn.clientFd := by
    rw [(arrived_handshake.trans hframe).clientFd]
    exact h.owner (hstate ▸ hown) key.fd hkey
  generalize callback s.arrived = r at hframe hstays howner hfd ⊢
  obtain ⟨u, st⟩ := r
  dsimp only at hstays howner hfd
  have hlive : own ≠ .error ∧ own ≠ .done := by
    rcases hown with hown | hown <;> rw [hown] <;> decide
  rcases hstays with (⟨rfl, hnot⟩ | hstop) | ⟨rfl, hwrites⟩
  · rw [settle_stay hlive.1 hlive.2]
    exact ⟨fun _ => howner, fun hstranded => hnot hstranded.2⟩
  · exact settle_flowing_of_quiet (quiet_of_stop hstop)
  · rw [settle_stay hlive.1 hlive.2]
    refine ⟨fun _ => howner, fun hstranded => ?_⟩
    rw [hfd] at hwrites
    have hwrites : OnlyWrites { u with conn.stm := some st } u.conn.clientFd := hwrites
    exact not_awaitsClient_of_onlyWrites hwrites hstranded.1

/-- A read event of REQUEST. -/
theorem read_request_flowing (hstm : s.conn.stm = some .request)
    {r : Session × SocksV5State} (hcall : requestRead env key s = .ok r)
    (hsplit : ∀ got, allReceived (settle env key .request r).log = allReceived s.log ++ got →
      ¬ SplitsDomain s got) :
    Flowing (settle env key .request r) := by
  obtain ⟨u, st⟩ := r
  have hlate := requestRead_later hcall
  by_cases hst : st = .request
  · subst hst
    rw [settle_stay (by decide) (by decide)] at hsplit ⊢
    refine ⟨fun hearly => absurd hearly hlate, ?_⟩
    rintro ⟨hawaits, hholds⟩
    have hholds : HoldsRequest u.conn.request u.conn.clientBuffer.content := hholds
    rcases requestRead_stays hcall with ⟨hstate, hshort, -⟩ | ⟨hstate, hatyp, hshort, -⟩ |
      ⟨n, got, hn, hstate, hatyp, hshort, -, hgot, htype, hbytes⟩ | ⟨hstate, -, -⟩
    · simp only [HoldsRequest, hstate] at hholds
      obtain ⟨atyp, rest, hbytes, -⟩ := hholds
      rw [hbytes] at hshort
      simp only [List.length_cons] at hshort
      omega
    · simp only [HoldsRequest, hstate, HoldsDestination, hatyp, if_false] at hholds
      omega
    · simp only [HoldsRequest, hstate, hatyp] at hholds
      exact hsplit got hgot
        ⟨(arrived_of_some hstm).1, htype, n, _, hbytes, hshort, hholds⟩
    · simp only [HoldsRequest, hstate] at hholds
  · apply settle_flowing_of_quiet
    intro hmem
    simp only [List.mem_cons, List.not_mem_nil, or_false] at hmem
    rcases hmem with hmem | hmem | hmem
    · exact hlate (.inl hmem)
    · exact hlate (.inr hmem)
    · exact hst hmem

/-- A write event that stays where it is. -/
theorem Flowing.stay (h : Flowing s) (hstate : t.state = s.state)
    (hconn : t.conn.clientFd = s.conn.clientFd) (haddress : t.address = s.address)
    (hclosed : t.conn.closed = s.conn.closed) (hsel : t.sel = s.sel)
    (hresolvers : t.resolvers = s.resolvers) (hholds : HoldsMessage t → HoldsMessage s) :
    Flowing t := by
  refine ⟨?_, ?_⟩
  · rw [hstate, hsel, haddress, hconn]
    exact h.owner
  · rintro ⟨⟨halive, hst, hinterest, hres, hjobs⟩, hmessage⟩
    rw [Session.interestOf, hsel, hconn] at hinterest
    rw [hsel, hconn] at hjobs
    exact h.flowing ⟨⟨hclosed ▸ halive, hstate ▸ hst, hinterest, hresolvers ▸ hres, hjobs⟩,
      hholds hmessage⟩

theorem responseSent_of_nil (s : Session) (env : Env) (fd : ℤ)
    (h : (s.sendOriginBuffer fd env.send).2.conn.originBuffer.content = []) :
    ResponseSent s env := by
  unfold ResponseSent
  cases hsend : env.send with
  | none =>
      rw [hsend] at h
      have hnil : s.conn.originBuffer.content = [] := h
      simp [hnil]
  | some k =>
      obtain ⟨b, hb, heq⟩ := sendOriginBuffer_some s fd k
      rw [hsend, heq] at h
      have hdrop : s.conn.originBuffer.content.drop k = [] := hb.symm.trans h
      simpa using hdrop

/-- The writers leave what `send` left. -/
theorem greetingWrite_originBuffer (env : Env) (key : SelectorKey) (s : Session) :
    (greetingWrite env key s).1.conn.originBuffer =
      (s.sendOriginBuffer s.conn.clientFd env.send).2.conn.originBuffer := by
  unfold greetingWrite
  generalize s.sendOriginBuffer s.conn.clientFd env.send = r
  obtain ⟨written, u⟩ := r
  rcases written with _ | sent
  · rfl
  · dsimp only
    split_ifs <;> rfl

theorem authWrite_originBuffer (env : Env) (key : SelectorKey) (s : Session) :
    (authWrite env key s).1.conn.originBuffer =
      (s.sendOriginBuffer s.conn.clientFd env.send).2.conn.originBuffer := by
  unfold authWrite
  generalize s.sendOriginBuffer s.conn.clientFd env.send = r
  obtain ⟨written, u⟩ := r
  rcases written with _ | sent
  · rfl
  · dsimp only
    split_ifs <;> rfl

/-- A connection that starts a state with an incomplete message in its buffer. -/
theorem flowing_of_arrival (howner : t.state.Early →
      ∀ fd, t.sel.dataOf fd = some t.address → fd = t.conn.clientFd)
    (hnot : ¬ HoldsMessage t) : Flowing t :=
  ⟨howner, fun hstranded => hnot hstranded.2⟩

theorem Flowing.write_greeting (h : Flowing s) (hstate : s.state = .greeting)
    (hnext : ResponseSent s env → ¬ HoldsNextMessage s) :
    Flowing (settle env key .greeting (greetingWrite env key s.arrived)) := by
  have hframe := arrived_handshake.trans (greetingWrite_frame env key s.arrived)
  have howner := h.owner_of_frame (hstate ▸ .inl rfl) hframe
  have hcases := greetingWrite_cases env key s.arrived
  have hsent : (greetingWrite env key s.arrived).1.conn.originBuffer.content = [] →
      ResponseSent s.arrived env := by
    rw [greetingWrite_originBuffer]
    exact responseSent_of_nil _ _ _
  simp only [HoldsNextMessage, hstate] at hnext
  obtain ⟨g, hg⟩ := arrived_eq s
  have hmessage : HoldsMessage s ↔ HoldsGreeting g s.conn.clientBuffer.content := by
    rw [HoldsMessage, hstate, hg]
  rw [hg] at howner hcases hsent hnext ⊢
  generalize greetingWrite env key { s with conn.greeting := g } = r at howner hcases hsent ⊢
  obtain ⟨u, st⟩ := r
  dsimp only at howner hcases hsent hnext ⊢
  rcases hcases with _ | ⟨hcontent, hleft⟩ | ⟨hcontent, hleft, hmethod⟩ |
    ⟨hcontent, hleft, hmethod⟩
  · exact settle_flowing_of_quiet (by simp [SocksV5State.Quiet])
  · rw [settle_stay (by decide) (by decide)]
    exact h.stay hstate.symm rfl rfl rfl rfl rfl hmessage.mpr
  · rw [settle_move (by decide) (by decide) (by decide)]
    have hnot := hnext (hsent hleft)
    rw [if_pos hmethod] at hnot
    exact flowing_of_arrival (fun _ => howner) hnot
  · rw [settle_move (by decide) (by decide) (by decide)]
    have hnot := hnext (hsent hleft)
    rw [if_neg hmethod] at hnot
    exact flowing_of_arrival (fun _ => howner) hnot

theorem Flowing.write_auth (h : Flowing s) (hstm : s.conn.stm = some .auth)
    (hnext : ResponseSent s env → ¬ HoldsNextMessage s) :
    Flowing (settle env key .auth (authWrite env key s)) := by
  have hstate := (arrived_of_some hstm).1
  have howner := h.owner_of_frame (hstate ▸ .inr rfl) (authWrite_frame env key s)
  have hcases := authWrite_cases env key s
  have hsent : (authWrite env key s).1.conn.originBuffer.content = [] → ResponseSent s env := by
    rw [authWrite_originBuffer]
    exact responseSent_of_nil _ _ _
  simp only [HoldsNextMessage, hstate] at hnext
  have hmessage : HoldsMessage s ↔ HoldsAuth s.conn.auth s.conn.clientBuffer.content := by
    rw [HoldsMessage, hstate]
  generalize authWrite env key s = r at howner hcases hsent ⊢
  obtain ⟨u, st⟩ := r
  dsimp only at howner hcases hsent ⊢
  rcases hcases with _ | ⟨hcontent, hleft⟩ | _ | ⟨hcontent, hleft, hverdict⟩
  · exact settle_flowing_of_quiet (by simp [SocksV5State.Quiet])
  · rw [settle_stay (by decide) (by decide)]
    exact h.stay hstate.symm rfl rfl rfl rfl rfl hmessage.mpr
  · exact settle_flowing_of_quiet (by simp [SocksV5State.Quiet])
  · rw [settle_move (by decide) (by decide) (by decide)]
    have hnot := fun hcomplete => hnext (hsent hleft) ⟨hverdict, hcomplete⟩
    exact flowing_of_arrival (fun _ => howner) hnot

/-- `reply_write` hands over only after it has sent its response. -/
theorem replyWrite_cases (env : Env) (s : Session) :
    (replyWrite env s).2.Quiet ∨
      (ResponseSent s env ∧ s.conn.reply.rep ≠ succeded ∧ ∃ u,
        u.conn.clientBuffer = s.conn.clientBuffer ∧ replyWrite env s = (u, .request)) := by
  have hsent := responseSent_of_nil s env s.conn.clientFd
  have hclient : (s.sendOriginBuffer s.conn.clientFd env.send).2.conn.clientBuffer =
      s.conn.clientBuffer := by cases env.send <;> rfl
  have hreply : (s.sendOriginBuffer s.conn.clientFd env.send).2.conn.reply = s.conn.reply := by
    cases env.send <;> rfl
  unfold replyWrite
  generalize s.sendOriginBuffer s.conn.clientFd env.send = r at hsent hclient hreply ⊢
  obtain ⟨written, u⟩ := r
  dsimp only at hsent hclient hreply ⊢
  split_ifs with hfound hleft hrep
  · exact .inl (by simp [SocksV5State.Quiet])
  · exact .inl (by simp [SocksV5State.Quiet])
  · exact .inl (by simp [SocksV5State.Quiet])
  · have hnil : u.conn.originBuffer.content = [] := by
      by_contra hne
      exact hleft (bufferCanRead_iff.mpr hne)
    exact .inr ⟨hsent hnil, by rwa [← hreply], u.setInterest u.conn.clientFd .opRead, hclient,
      rfl⟩

theorem write_reply_flowing (hstm : s.conn.stm = some .reply)
    (hnext : ResponseSent s env → ¬ HoldsNextMessage s) :
    Flowing (settle env key .reply (replyWrite env s)) := by
  simp only [HoldsNextMessage, (arrived_of_some hstm).1] at hnext
  rcases replyWrite_cases env s with hquiet | ⟨hsent, hrep, u, hbuffer, hwrite⟩
  · exact settle_flowing_of_quiet hquiet
  · rw [hwrite, settle_move (by decide) (by decide) (by decide)]
    have hnot : ¬ CompleteRequest u.conn.clientBuffer.content := by
      rw [hbuffer]
      exact fun hcomplete => hnext hsent ⟨hrep, hcomplete⟩
    refine flowing_of_arrival ?_ hnot
    rintro (hearly | hearly) <;> cases hearly

/-! ## One event -/

theorem quiet_of_connecting {st : SocksV5State} (h : st = .connect ∨ st = .reply) : st.Quiet := by
  rcases h with h | h <;> simp [h, SocksV5State.Quiet]

theorem Flowing.read (h : Flowing s) (henabled : Enabled s (.read fd env))
    (hcalm : Unhurried s (.read fd env)) (hstep : step s (.read fd env) = .ok t) :
    Flowing t := by
  have hsplit := fun got => hcalm t got hstep
  obtain ⟨-, callback, r, hselect, hcall, rfl⟩ := step_read_ok hstep
  cases hstate : s.state <;> rw [hstate] at hselect <;> cases hselect
  case greeting =>
    cases hcall
    exact h.read_handshake (.inl rfl) hstate greetingRead_frame (greetingRead_stays ..) henabled.1
  case auth =>
    cases hcall
    exact h.read_handshake (.inr rfl) hstate (authRead_frame ..) (authRead_stays ..) henabled.1
  case request =>
    have hstm := stm_of_state hstate (by decide)
    rw [(arrived_of_some hstm).2] at hcall
    rw [hstate] at hsplit
    exact read_request_flowing hstm hcall hsplit
  case copy =>
    cases hcall
    exact settle_flowing_of_quiet (socksv5CopyRead_quiet _ _ _)

theorem Flowing.write (h : Flowing s) (hcalm : Unhurried s (.write fd env))
    (hstep : step s (.write fd env) = .ok t) : Flowing t := by
  obtain ⟨-, callback, r, hselect, hcall, rfl⟩ := step_write_ok hstep
  cases hstate : s.state <;> rw [hstate] at hselect <;> cases hselect
  case greeting =>
    cases hcall
    exact h.write_greeting hstate hcalm
  case auth =>
    have hstm := stm_of_state hstate (by decide)
    cases hcall
    rw [(arrived_of_some hstm).2]
    exact h.write_auth hstm hcalm
  case connect =>
    exact settle_flowing_of_quiet (quiet_of_connecting (connectWrite_state hcall))
  case reply =>
    have hstm := stm_of_state hstate (by decide)
    cases hcall
    rw [(arrived_of_some hstm).2]
    exact write_reply_flowing hstm hcalm
  case copy =>
    cases hcall
    exact settle_flowing_of_quiet (socksv5CopyWrite_quiet _ _ _)

theorem Flowing.step {e : Event} (h : Flowing s) (henabled : Enabled s e)
    (hcalm : Unhurried s e) (hstep : step s e = .ok t) : Flowing t := by
  cases e with
  | read fd env => exact h.read henabled hcalm hstep
  | write fd env => exact h.write hcalm hstep
  | block fd env =>
      obtain ⟨-, callback, r, u, hselect, hcall, rfl, rfl⟩ := step_block_ok hstep
      cases hstate : s.state <;> rw [hstate] at hselect <;> cases hselect
      apply flowing_of_quiet
      change (settle env ⟨fd, s.address⟩ _ r).state.Quiet
      rw [state_settle]
      exact quiet_of_connecting (connectToDest_state hcall)
  | resolved result =>
      unfold Socks5Proxy.step at hstep
      split at hstep <;> cases hstep
      exact ⟨h.owner, fun hstranded => hstranded.1.jobs List.mem_cons_self⟩
  | connectFinished errno =>
      unfold Socks5Proxy.step at hstep
      split at hstep <;> cases hstep
      exact h.stay rfl rfl rfl rfl rfl rfl (holdsMessage_act s _).mp

end Steps

/-! ## Whole runs -/

section Runs

variable {bufferSize : ℕ} {sel : FdSelector FdHandler ℕ} {metrics : MetricSnapshot}
  {a : Accepted} {s t : Session} {es : List Event}

theorem passiveAccept_flowing (haccept : socksv5PassiveAccept bufferSize sel metrics a = some s)
    (hfresh : Fresh sel a) : Flowing s where
  owner := fun _ fd hdata => (passiveAccept_dataOf_iff haccept hfresh).mp hdata
  flowing := by
    rintro ⟨-, hholds⟩
    obtain ⟨-, rfl⟩ := passiveAccept_eq haccept
    obtain ⟨n, rest, hbytes, -⟩ := hholds
    cases hbytes

/-- In a run in which no response is completed while the message after it lies
in the buffer, and no domain name is split behind its length byte, no reachable
state is stranded. -/
theorem never_stranded (haccept : socksv5PassiveAccept bufferSize sel metrics a = some s)
    (hfresh : Fresh sel a) (henabled : Steps step Enabled s es)
    (hcalm : Steps step Unhurried s es) (hrun : run step s es = .ok t) : ¬ Stranded t := by
  have hflowing : Flowing t := run_invariant
    (fun _ _ _ h hP hstep => h.step hP.1 hP.2 hstep) (passiveAccept_flowing haccept hfresh)
    (henabled.and hcalm) hrun
  exact hflowing.flowing

end Runs

/-! ### A client that does not wait -/

/-- The greeting `05 01 02` and the message `01 01 61 01 61` in one segment. -/
def coalescedHandshake : List Event :=
  [.read 4 (receives [0x05, 0x01, 0x02, 0x01, 0x01, 0x61, 0x01, 0x61]), .write 4 (sends 2)]

/-- The server has answered the greeting and waits for the message it has. -/
theorem coalesced_stranded :
    ∃ s t, socksv5PassiveAccept bufferSizeDefault emptySelector metricsInit firstClient =
        some s ∧
      Steps step Enabled s coalescedHandshake ∧ run step s coalescedHandshake = .ok t ∧
      Stranded t := by
  refine ⟨firstSession, _, firstSession_accepted, by decide +kernel,
    run_firstSession (by decide +kernel), ⟨?_, ?_, ?_, ?_, ?_⟩, ?_⟩
  · decide +kernel
  · decide +kernel
  · decide +kernel
  · decide +kernel
  · decide +kernel
  · have hstate : (firstSessionAfter coalescedHandshake).state = .auth := by decide +kernel
    have hauth : (firstSessionAfter coalescedHandshake).conn.auth.state = .authVer := by
      decide +kernel
    have hbytes : (firstSessionAfter coalescedHandshake).conn.clientBuffer.content =
        [0x01, 0x01, 0x61, 0x01, 0x61] := by decide +kernel
    rw [HoldsMessage, hstate]
    simp only [HoldsAuth, hauth, hbytes]
    exact ⟨_, rfl, _, _, rfl, by decide, _, _, rfl, by decide⟩

theorem not_holdsNextMessage_of_empty {s : Session} (h : s.conn.clientBuffer.content = []) :
    ¬ HoldsNextMessage s := by
  have hauth : ¬ CompleteAuth s.conn.clientBuffer.content := by
    rw [h]
    rintro ⟨rest, hrest, -⟩
    cases hrest
  have hrequest : ¬ CompleteRequest s.conn.clientBuffer.content := by
    rw [h]
    rintro ⟨atyp, rest, hrest, -⟩
    cases hrest
  unfold HoldsNextMessage
  cases s.state with
  | greeting =>
      dsimp only
      split
      · exact hauth
      · exact hrequest
  | auth => exact fun hnext => hrequest hnext.2
  | reply => exact fun hnext => hrequest hnext.2
  | _ => exact id

/-- A client that waits for each answer gets past AUTH. -/
theorem never_stranded_login :
    ∃ t, run step firstSession adminLogin = .ok t ∧ t.state = .request ∧ ¬ Stranded t := by
  have hrun : run step firstSession adminLogin = .ok (firstSessionAfter adminLogin) :=
    run_firstSession (by decide +kernel)
  have hread : ∀ {s : Session} {fd : ℤ} {env : Env}, s.state ≠ .request →
      Unhurried s (.read fd env) := fun hstate _ _ _ _ hsplit => hstate hsplit.1
  have hwrite : ∀ {s : Session} {fd : ℤ} {env : Env}, s.conn.clientBuffer.content = [] →
      Unhurried s (.write fd env) := fun hempty _ => not_holdsNextMessage_of_empty hempty
  have hcalm : Steps step Unhurried firstSession adminLogin := by
    refine steps_firstSession (steps_firstSession (steps_firstSession (Steps.single (hread ?_))
      ?_ (hwrite ?_)) ?_ (hread ?_)) ?_ (hwrite ?_)
    · decide +kernel
    · decide +kernel
    · decide +kernel
    · decide +kernel
    · decide +kernel
    · decide +kernel
    · decide +kernel
  exact ⟨_, hrun, by decide +kernel, never_stranded firstSession_accepted firstClient_fresh
    (by decide +kernel) hcalm hrun⟩

end Socks5Proxy

import Socks5Proxy.Library.Framing
import Socks5Proxy.Socks.FailureReports
import Socks5Proxy.Socks.Keeping
import Socks5Proxy.Socks.ReplyDelivery

/-!
# The reply, decoded

`reply_arrival` encodes the reply into the origin buffer, and `reply_write`
may need many calls of `send` for it.  What the client has then received is
decoded here as RFC 1928 describes a reply.
-/

namespace Socks5Proxy

open Library

/-! ## The format -/

/-- `BND.ADDR`, by its type. -/
inductive BndAddr
  | ipv4 (addr : List UInt8)
  | domain (name : List UInt8)
  | ipv6 (addr : List UInt8)
  deriving DecidableEq

/-- What a reply says. -/
structure ReplyMessage where
  rep : UInt8
  bndAddr : BndAddr
  bndPort : ℕ
  deriving DecidableEq

/-- The address of the type `atyp`, and what follows it. -/
def decodeBndAddr (atyp : UInt8) (bytes : List UInt8) : Option (BndAddr × List UInt8) :=
  if atyp = ipv4Addr then
    if 4 ≤ bytes.length then some (.ipv4 (bytes.take 4), bytes.drop 4) else none
  else if atyp = fqdn then
    (takeField bytes).map fun field => (.domain field.1, field.2)
  else if atyp = ipv6Addr then
    if 16 ≤ bytes.length then some (.ipv6 (bytes.take 16), bytes.drop 16) else none
  else
    none

/-- `VER REP RSV ATYP BND.ADDR BND.PORT`, the port in network order.  Nothing
may be missing and nothing may follow. -/
def decodeReply : List UInt8 → Option ReplyMessage
  | ver :: rep :: reserved :: atyp :: bytes =>
    if ver = 0x05 ∧ reserved = 0x00 then
      match decodeBndAddr atyp bytes with
      | some (addr, [high, low]) => some ⟨rep, addr, high.toNat * 256 + low.toNat⟩
      | _ => none
    else
      none
  | _ => none

/-- How a reply tells the name of a socket. -/
def SockAddr.bndAddr (addr : SockAddr) : Option BndAddr :=
  match addr.family with
  | .inet => some (.ipv4 addr.addr)
  | .inet6 => some (.ipv6 addr.addr)
  | .other => none

section Format

variable {addr : SockAddr} {bnd : BndAddr}

theorem portBytes_decodes {port : ℕ} (hport : port < 65536) :
    (UInt8.ofNat (port / 256 % 256)).toNat * 256 + (UInt8.ofNat (port % 256)).toNat = port := by
  rw [UInt8.toNat_ofNat', UInt8.toNat_ofNat']
  omega

/-- The address is told as it stands, and its port in host order. -/
theorem bndAddrBytes_decodes (rest : List UInt8) (hbnd : addr.bndAddr = some bnd)
    (hsized : addr.Sized) :
    bndPort addr = addr.port ∧
      ∃ atyp bytes, bndAddrBytes addr = atyp :: bytes ∧ bytes.length ≤ 16 ∧
        decodeBndAddr atyp (bytes ++ rest) = some (bnd, rest) := by
  rcases addr with ⟨family, addr, port⟩
  rcases family with _ | _ | _
  · have hlen : addr.length = 4 := hsized
    refine ⟨rfl, ipv4Addr, addr, rfl, by omega, ?_⟩
    rw [← Option.some.inj hbnd, decodeBndAddr, if_pos rfl, if_pos (by simp [hlen]), ← hlen,
      List.take_left, List.drop_left]
  · have hlen : addr.length = 16 := hsized
    refine ⟨rfl, ipv6Addr, addr, rfl, by omega, ?_⟩
    rw [← Option.some.inj hbnd, decodeBndAddr, if_neg (by decide), if_neg (by decide), if_pos rfl,
      if_pos (by simp [hlen]), ← hlen, List.take_left, List.drop_left]
  · cases hbnd

/-- A whole reply has at most 22 bytes and is decoded to what it was made of. -/
theorem replyBytes_decodes (rep : UInt8) (hbnd : addr.bndAddr = some bnd) (hsized : addr.Sized)
    (hport : addr.port < 65536) :
    (replyBytes rep addr).length ≤ 22 ∧
      decodeReply (replyBytes rep addr) = some ⟨rep, bnd, addr.port⟩ := by
  obtain ⟨hbndPort, atyp, bytes, hbytes, hlen, hdecodes⟩ :=
    bndAddrBytes_decodes (portBytes addr.port) hbnd hsized
  have hmessage : replyBytes rep addr =
      socks5Version :: rep :: rsv :: atyp :: (bytes ++ portBytes addr.port) := by
    rw [replyBytes, hbndPort, hbytes]
    rfl
  rw [hmessage]
  constructor
  · simp only [portBytes, List.length_append, List.length_cons, List.length_nil]
    omega
  · rw [decodeReply, if_pos ⟨rfl, rfl⟩, hdecodes]
    dsimp only [portBytes]
    rw [portBytes_decodes hport]

end Format

/-! ## The sends -/

/-- An event of REPLY in which `send` takes some bytes. -/
def SendsReply (s : Session) (e : Event) : Prop :=
  s.state = .reply ∧ ∃ fd env k, e = .write fd env ∧ env.send = some k ∧ 0 < k

/-- The client is sent one message, which decodes to `message`, and before its
last byte is sent the connection stays in REPLY.  Every send takes a byte, so
there are no more sends than bytes. -/
def RoundTrips (s : Session) (message : ReplyMessage) : Prop :=
  ∃ bytes, decodeReply bytes = some message ∧
    ∀ es, Steps step SendsReply s es → es.length ≤ bytes.length ∧
      ∃ t, run step s es = .ok t ∧ t.conn.closed = false ∧
        bytesSent s.conn.clientFd t.log =
          bytesSent s.conn.clientFd s.log ++ bytes.take (es.map takes).sum ∧
        t.state =
          if (es.map takes).sum < bytes.length then .reply
          else if message.rep = succeded then .copy
          else .request

/-- An open connection in REPLY with `rest` still in the buffer. -/
structure ReplyLeft (s : Session) (rep : UInt8) (rest : List UInt8) : Prop where
  state : s.state = .reply
  isOpen : s.conn.closed = false
  found : s.conn.reply.foundBndInfo = true
  rep : s.conn.reply.rep = rep
  content : s.conn.originBuffer.content = rest

section Sends

variable {s t u : Session} {env : Env} {key : SelectorKey} {st : SocksV5State} {rep : UInt8}
  {rest : List UInt8} {es : List Event} {k : ℕ}

/-- One send: the next bytes go out, and the state changes with the last one. -/
theorem ReplyLeft.step (h : ReplyLeft s rep rest) (fd : ℤ) (hsend : env.send = some k) :
    ∃ t, step s (.write fd env) = .ok t ∧ t.conn.closed = false ∧
      t.conn.clientFd = s.conn.clientFd ∧
      bytesSent s.conn.clientFd t.log = bytesSent s.conn.clientFd s.log ++ rest.take k ∧
      (rest.drop k ≠ [] → ReplyLeft t rep (rest.drop k)) ∧
      (rest.drop k = [] → t.state = if rep = succeded then .copy else .request) := by
  obtain ⟨t, hstep, hopen, hlog, hmore, hlast⟩ :=
    step_write_sends fd h.state h.isOpen h.found hsend
  rw [h.content] at hlog hmore hlast
  rw [h.rep] at hlast
  refine ⟨t, hstep, hopen, (step_persists hstep).clientFd, ?_, ?_, hlast⟩
  · rw [hlog, bytesSent_send]
  · intro hleft
    obtain ⟨b, hb, rfl⟩ := hmore hleft
    exact ⟨rfl, h.isOpen, h.found, h.rep, hb⟩

/-- By induction on the events: what has been sent is what the kernel took. -/
theorem ReplyLeft.run (h : ReplyLeft s rep rest) (hrest : rest ≠ [])
    (hsends : Steps Socks5Proxy.step SendsReply s es) :
    es.length ≤ rest.length ∧ ∃ t, Library.run Socks5Proxy.step s es = .ok t ∧
      t.conn.closed = false ∧
      bytesSent s.conn.clientFd t.log =
        bytesSent s.conn.clientFd s.log ++ rest.take (es.map takes).sum ∧
      t.state =
        if (es.map takes).sum < rest.length then .reply
        else if rep = succeded then .copy
        else .request := by
  induction es generalizing s rest with
  | nil =>
      refine ⟨Nat.zero_le _, s, rfl, h.isOpen, by simp, ?_⟩
      rw [h.state, List.map_nil, List.sum_nil, if_pos (List.length_pos_of_ne_nil hrest)]
  | cons e es ih =>
      obtain ⟨⟨-, fd, env, k, rfl, hsend, hk⟩, hlater⟩ := hsends
      obtain ⟨t, hstep, hopen, hclient, hsent, hmore, hlast⟩ := h.step fd hsend
      have htakes : takes (.write fd env) = k := takes_write hsend
      have hpos : 0 < rest.length := List.length_pos_of_ne_nil hrest
      rw [List.map_cons, List.sum_cons, htakes, List.length_cons]
      by_cases hdone : rest.drop k = []
      · have hleft := hlast hdone
        have hes : es = [] := by
          rcases es with _ | ⟨e', es⟩
          · rfl
          · have hreply : t.state = .reply := (hlater t hstep).1.1
            rw [hleft] at hreply
            split at hreply <;> cases hreply
        subst hes
        rw [List.drop_eq_nil_iff] at hdone
        rw [List.map_nil, List.sum_nil, Nat.add_zero, if_neg (by omega)]
        exact ⟨hpos, t, run_cons_ok_iff.mpr ⟨t, hstep, rfl⟩, hopen, hsent, hleft⟩
      · obtain ⟨hlen, u, hrun, hopen, hbytes, hstate⟩ := ih (hmore hdone) hdone (hlater t hstep)
        rw [List.length_drop] at hlen hstate
        refine ⟨by omega, u, run_cons_ok_iff.mpr ⟨t, hstep, hrun⟩, hopen, ?_, ?_⟩
        · rw [hclient, hsent] at hbytes
          rw [hbytes, List.append_assoc, List.take_add]
        · rw [hstate]
          congr 1
          rw [Nat.lt_sub_iff_add_lt, Nat.add_comm]

end Sends

/-! ## From the arrival to the last byte -/

/-- An empty buffer as `buffer_init` and `buffer_read_adv` leave it. -/
def Buffer.Vacant (b : Buffer) : Prop := b.read = 0 ∧ b.write = 0

theorem Buffer.vacant_iff {b : Buffer} : b.Vacant ↔ b.content = [] ∧ b.Settled := by
  rw [b.content_eq_nil_iff, b.settled_iff, Buffer.Vacant]
  omega

section Arrival

variable {s : Session} {env : Env} {addr : SockAddr} {bnd : BndAddr} {st : SocksV5State}

/-- The whole reply is queued. -/
theorem settle_replyLeft (key : SelectorKey) (hst : st ≠ .reply) (hopen : s.conn.closed = false)
    (hvacant : s.conn.originBuffer.Vacant) (hname : localAddr env s.conn.originFd = some addr)
    (hroom : (replyBytes s.conn.reply.rep addr).length ≤ s.conn.originBuffer.limit) :
    ReplyLeft (settle env key st (s, .reply)) s.conn.reply.rep
      (replyBytes s.conn.reply.rep addr) := by
  obtain ⟨hempty, hsettled⟩ := Buffer.vacant_iff.mp hvacant
  rw [← hsettled hempty] at hroom
  obtain ⟨hcontent, -⟩ := bufferWriteAll_of_le hroom
  rw [hempty, List.nil_append] at hcontent
  have hbytes : [socks5Version, s.conn.reply.rep, rsv] ++ bndAddrBytes addr ++
      portBytes (bndPort addr) = replyBytes s.conn.reply.rep addr := List.append_assoc _ _ _
  have harrival : replyArrival env s =
      { s with
        conn.originBuffer := bufferWriteAll s.conn.originBuffer (replyBytes s.conn.reply.rep addr)
        conn.reply.foundBndInfo := true } := by
    rw [← hbytes, ← bufferWriteAll_append, ← bufferWriteAll_append]
    unfold replyArrival
    dsimp only [Session.writeOriginBuffer]
    rw [hname]
  have hmove : settle env key st (s, .reply) =
      { replyArrival env s with conn.stm := some .reply } :=
    settle_move hst (by decide) (by decide)
  rw [hmove, harrival]
  exact ⟨rfl, hopen, rfl, rfl, hcontent⟩

end Arrival

/-- Whatever the reply says, and however `send` cuts it, the client receives
the stored code and the name of the origin socket. -/
theorem reply_roundTrips {s : Session} {env : Env} {addr : SockAddr} {bnd : BndAddr}
    {st : SocksV5State} (key : SelectorKey) (hst : st ≠ .reply) (hopen : s.conn.closed = false)
    (hvacant : s.conn.originBuffer.Vacant) (hsize : 22 ≤ s.conn.originBuffer.limit)
    (hname : localAddr env s.conn.originFd = some addr) (hbnd : addr.bndAddr = some bnd)
    (hsized : addr.Sized) (hport : addr.port < 65536) :
    RoundTrips (settle env key st (s, .reply)) ⟨s.conn.reply.rep, bnd, addr.port⟩ := by
  obtain ⟨hlen, hdecodes⟩ := replyBytes_decodes s.conn.reply.rep hbnd hsized hport
  have hleft := settle_replyLeft key hst hopen hvacant hname (hlen.trans hsize)
  refine ⟨_, hdecodes, fun es hsends => hleft.run ?_ hsends⟩
  simp [replyBytes]

/-- What `getsockname` says of the origin socket. -/
def localName : SockAddr := ⟨.inet, [10, 0, 0, 2], 40000⟩

theorem reply_roundTrips_connected :
    RoundTrips
      (settle { (default : Env) with getsockname := some localName } ⟨5, 0⟩ .connect
        (connectingOnce, .reply))
      ⟨succeded, .ipv4 [10, 0, 0, 2], 40000⟩ := by
  have hrep : connectingOnce.conn.reply.rep = succeded := by decide +kernel
  have hvacant : connectingOnce.conn.originBuffer.Vacant :=
    ⟨by decide +kernel, by decide +kernel⟩
  have hname : localAddr { (default : Env) with getsockname := some localName }
      connectingOnce.conn.originFd = some localName := by decide +kernel
  have hconnect : SocksV5State.connect ≠ .reply := by decide
  have hsized : localName.Sized := rfl
  rw [← hrep]
  exact reply_roundTrips _ hconnect (by decide +kernel) hvacant (by decide +kernel) hname rfl
    hsized (by decide)

end Socks5Proxy

import Socks5Proxy.Socks.RequestDecoding
import Socks5Proxy.Socks.Accepted

/-!
# A request in segments

The bytes of a well-formed request, followed by a payload, arrive in read
events whose `recv` calls return any non-empty pieces.  The decoder keeps its
place between events in `state`, in `atyp` and in what it leaves unread; the
length byte of a domain name it keeps nowhere.
-/

namespace Socks5Proxy

open Library

/-! ## Requests and what is made of them -/

/-- A destination as a request encodes it. -/
structure Destination where
  atyp : UInt8
  addr : List UInt8
  portHigh : UInt8
  portLow : UInt8
  wellFormed : (atyp = ipv4Addr ∧ addr.length = ipv4AddrLen) ∨
    (atyp = ipv6Addr ∧ addr.length = ipv6AddrLen) ∨
    (atyp = fqdn ∧ 0 < addr.length ∧ addr.length < 256)

namespace Destination

variable (d : Destination)

/-- What follows ATYP. -/
def body : List UInt8 :=
  (if d.atyp = fqdn then UInt8.ofNat d.addr.length :: d.addr else d.addr) ++
    [d.portHigh, d.portLow]

def request : List UInt8 := socks5Version :: connectCmd :: rsv :: d.atyp :: d.body

def port : ℕ := d.portHigh.toNat * 256 + d.portLow.toNat

def family : AddressFamily := if d.atyp = ipv4Addr then .inet else .inet6

def host : HostText :=
  if d.atyp = fqdn then .name d.addr else .presentation d.family d.addr

end Destination

/-- A connection attempt or the start of a resolver. -/
inductive DestinationCall
  | connect (addr : SockAddr)
  | resolve (host : HostText) (port : List UInt8)
  deriving DecidableEq

def destinationCalls (log : List Action) : List DestinationCall :=
  log.filterMap fun
    | .connect _ addr _ => some (.connect addr)
    | .resolve host port => some (.resolve host port)
    | _ => none

/-- The call a destination asks for. -/
def Destination.call (d : Destination) : DestinationCall :=
  if d.atyp = fqdn then .resolve d.host.cString (decimal d.port)
  else .connect ⟨d.family, d.addr, d.port⟩

/-- The calls made since the connection was in the state `entry`. -/
def logSince (entry s : Session) : List Action := s.log.drop entry.log.length

/-- The bytes the client sent since then. -/
def receivedSince (entry s : Session) : List UInt8 :=
  bytesReceived s.conn.clientFd (logSince entry s)

/-- While bytes of the request are missing the connection waits in REQUEST and
has called nobody; then it has called the destination, and the payload is
unread. -/
def Decoded (d : Destination) (entry s : Session) : Prop :=
  if (receivedSince entry s).length < d.request.length then
    s.state = .request ∧ s.conn.closed = false ∧ destinationCalls (logSince entry s) = []
  else
    destinationCalls (logSince entry s) = [d.call] ∧ s.conn.originHost = d.host ∧
      s.conn.originPort = decimal d.port ∧
      s.conn.clientBuffer.content = (receivedSince entry s).drop d.request.length

instance Decoded.decidable (d : Destination) (entry s : Session) :
    Decidable (Decoded d entry s) :=
  inferInstanceAs (Decidable (ite _ _ _))

/-! ## The deliveries -/

/-- A connection that has entered REQUEST and received nothing of it. -/
structure AtRequest (s : Session) : Prop where
  stm : s.conn.stm = some .request
  state : s.conn.request.state = .verCmdAtyp
  unread : s.conn.clientBuffer.content = []
  alive : s.conn.closed = false

/-- No call of the decoder fails for want of memory, descriptors or threads. -/
structure Resourceful (env : Env) : Prop where
  callocAddr : env.callocAddr = true
  callocInfo : env.callocInfo = true
  startThread : env.startThread = true
  socket : (env.attempts 0).socket ≠ -1
  setNio : (env.attempts 0).setNio = true

/-- What a `recv` into `client_buffer` returns when the kernel holds `answer`. -/
def recvReturns (s : Session) (answer : Option (List UInt8)) : List UInt8 :=
  (bufferRecv s.conn.clientBuffer answer).1.getD []

/-- A read event while bytes of the request are missing or the connection is in
REQUEST.  Its first `recv` returns something, and what the kernel offers
continues the stream. -/
def Delivers (d : Destination) (payload : List UInt8) (entry s : Session) (e : Event) : Prop :=
  ∃ env, e = .read s.conn.clientFd env ∧ Resourceful env ∧
    ((receivedSince entry s).length < d.request.length ∨ s.state = .request) ∧
    if s.conn.request.state = .verCmdAtyp then
      recvReturns s env.recv ≠ [] ∧
        receivedSince entry s ++ recvReturns s env.recv ++ env.recvDst.getD [] <+:
          d.request ++ payload
    else
      recvReturns s env.recvDst ≠ [] ∧
        receivedSince entry s ++ env.recvDst.getD [] <+: d.request ++ payload

/-- How many bytes may have arrived at the end of an event. -/
def Destination.Smooth (d : Destination) (count : ℕ) : Prop :=
  if d.atyp = fqdn then count < 4 ∨ d.request.length ≤ count
  else count ≠ 4 ∧ count + 1 ≠ d.request.length

/-- The event finds the request incomplete, and ends behind a number of bytes
that is smooth.  It does not end if the header alone has arrived and the
release of the record then ends the process. -/
def EndsSmoothly (d : Destination) (entry s : Session) (e : Event) : Prop :=
  (receivedSince entry s).length < d.request.length ∧
    ∃ t, step s e = .ok t ∧ d.Smooth (receivedSince entry t).length

/-! ## The shape of a request -/

section Shape

variable {d : Destination}

theorem Destination.valid (d : Destination) : isValidAtyp d.atyp = true := by
  rcases d.wellFormed with ⟨h, -⟩ | ⟨h, -⟩ | ⟨h, -⟩ <;> rw [h] <;> rfl

theorem Destination.length_addr (h : d.atyp ≠ fqdn) :
    (addrBytesByIpVersion d.atyp).toNat = d.addr.length := by
  rcases d.wellFormed with ⟨hatyp, hlen⟩ | ⟨hatyp, hlen⟩ | ⟨hatyp, -⟩
  · rw [hatyp, hlen]
    rfl
  · rw [hatyp, hlen]
    rfl
  · exact absurd hatyp h

theorem Destination.body_ip (h : d.atyp ≠ fqdn) :
    d.body = d.addr ++ [d.portHigh, d.portLow] := by
  rw [Destination.body, if_neg h]

theorem Destination.body_fqdn (h : d.atyp = fqdn) :
    d.body = UInt8.ofNat d.addr.length :: (d.addr ++ [d.portHigh, d.portLow]) := by
  rw [Destination.body, if_pos h]
  rfl

theorem Destination.length_request_ip (h : d.atyp ≠ fqdn) :
    d.request.length = d.addr.length + 6 := by
  simp [Destination.request, d.body_ip h]

theorem Destination.length_request_fqdn (h : d.atyp = fqdn) :
    d.request.length = d.addr.length + 7 := by
  simp [Destination.request, d.body_fqdn h]

theorem Destination.length_bounds (h : d.atyp = fqdn) :
    0 < d.addr.length ∧ d.addr.length < 256 := by
  rcases d.wellFormed with ⟨hatyp, -⟩ | ⟨hatyp, -⟩ | ⟨-, hlen⟩
  · rw [hatyp] at h
    exact absurd h (by decide)
  · rw [hatyp] at h
    exact absurd h (by decide)
  · exact hlen

/-- The length byte of a domain name is its length, and not zero. -/
theorem Destination.length_name (h : d.atyp = fqdn) :
    (UInt8.ofNat d.addr.length).toNat = d.addr.length ∧ UInt8.ofNat d.addr.length ≠ 0 := by
  obtain ⟨hpos, hlt⟩ := Destination.length_bounds h
  have hbyte : (UInt8.ofNat d.addr.length).toNat = d.addr.length := by
    rw [UInt8.toNat_ofNat', Nat.mod_eq_of_lt hlt]
  refine ⟨hbyte, ?_⟩
  intro hzero
  rw [hzero] at hbyte
  exact absurd hbyte hpos.ne

/-- A stretch of the stream that reaches behind the header starts with it. -/
theorem header_of_start {payload bytes : List UInt8} (h : bytes <+: d.request ++ payload)
    (hlen : 4 ≤ bytes.length) :
    bytes = socks5Version :: connectCmd :: rsv :: d.atyp :: bytes.drop 4 ∧
      bytes.drop 4 <+: d.body ++ payload := by
  obtain ⟨rest, hrest⟩ := h
  rcases bytes with _ | ⟨b0, _ | ⟨b1, _ | ⟨b2, _ | ⟨b3, tail⟩⟩⟩⟩
  · simp at hlen
  · simp at hlen
  · simp at hlen
  · simp at hlen
  · simp only [Destination.request, List.cons_append, List.cons.injEq] at hrest
    obtain ⟨rfl, rfl, rfl, rfl, htail⟩ := hrest
    exact ⟨rfl, rest, htail⟩

theorem portOf_lt (bytes : List UInt8) : portOf bytes < 65536 := by
  have hhigh := (bytes.getD 0 0).toNat_lt
  have hlow := (bytes.getD 1 0).toNat_lt
  rw [portOf]
  omega

/-- The address and, when both its bytes are there, the port. -/
theorem address_of_start {payload bytes : List UInt8}
    (h : bytes <+: d.addr ++ ([d.portHigh, d.portLow] ++ payload))
    (hlen : d.addr.length ≤ bytes.length) :
    bytes.take d.addr.length = d.addr ∧
      (d.addr.length + 2 ≤ bytes.length → portOf (bytes.drop d.addr.length) = d.port) := by
  obtain ⟨rest, hrest⟩ := h
  have htake : bytes.take d.addr.length = d.addr := by
    have := congrArg (List.take d.addr.length) hrest
    rwa [List.take_append_of_le_length hlen, List.take_left] at this
  refine ⟨htake, fun hboth => ?_⟩
  have hdrop := congrArg (List.drop d.addr.length) hrest
  rw [List.drop_append_of_le_length hlen, List.drop_left] at hdrop
  rcases hport : bytes.drop d.addr.length with _ | ⟨p, _ | ⟨q, tail⟩⟩
  · have := congrArg List.length hport
    simp at this
    omega
  · have := congrArg List.length hport
    simp at this
    omega
  · rw [hport] at hdrop
    simp only [List.cons_append, List.cons.injEq] at hdrop
    rw [hdrop.1, hdrop.2.1]
    rfl

end Shape

/-! ## One attempt -/

section Decode

variable {env : Env} {key : SelectorKey} {s : Session} {d : Destination}

/-- `resolve_dst_address` behind its `recv`. -/
def decodeDestination (env : Env) (key : SelectorKey) (s : Session) :
    Except Fault (Session × SocksV5State) :=
  match dstLen env s with
  | .returned s ret => .ok (s, ret)
  | .next (s, addrBytes) => dstRes env key addrBytes s

theorem resolveDstAddress_eq (env : Env) (key : SelectorKey) (s : Session) :
    resolveDstAddress env key s =
      decodeDestination env key (s.recvClientBuffer s.conn.clientFd env.recvDst).2 := rfl

theorem requestRead_eq {env : Env} {key : SelectorKey} {s : Session}
    (hstate : s.conn.request.state = .verCmdAtyp) :
    requestRead env key s =
      match verCmdAtyp (s.recvClientBuffer key.fd env.recv).2 with
      | .returned s ret => .ok (s, ret)
      | .next u => resolveDstAddress env key u := by
  unfold requestRead
  exact if_pos hstate

/-- What connecting leaves of the request. -/
structure Connecting (s : Session) (addr : SockAddr) (u : Session) : Prop where
  calls : destinationCalls u.log = destinationCalls s.log ++ [.connect addr]
  received : bytesReceived s.conn.clientFd u.log = bytesReceived s.conn.clientFd s.log
  log : s.log <+: u.log
  clientFd : u.conn.clientFd = s.conn.clientFd
  clientBuffer : u.conn.clientBuffer = s.conn.clientBuffer
  originHost : u.conn.originHost = s.conn.originHost
  originPort : u.conn.originPort = s.conn.originPort

theorem destinationCalls_append (log log' : List Action) :
    destinationCalls (log ++ log') = destinationCalls log ++ destinationCalls log' :=
  List.filterMap_append

theorem connecting_act (fd : ℤ) (addr : SockAddr) (result : ConnectResult) :
    Connecting s addr (({ s with conn.originFd := fd }).act (.connect fd addr result)) where
  calls := destinationCalls_append _ _
  received := by
    change bytesReceived _ (s.log ++ [.connect fd addr result]) = _
    rw [bytesReceived_append]
    exact List.append_nil _
  log := List.prefix_append _ _
  clientFd := rfl
  clientBuffer := rfl
  originHost := rfl
  originPort := rfl

theorem Connecting.result {addr : SockAddr} {u : Session} (h : Connecting s addr u) (ret : UInt8) :
    Connecting s addr (connectToDestResult u ret).1 := by
  unfold connectToDestResult
  split_ifs <;> exact ⟨h.1, h.2, h.3, h.4, h.5, h.6, h.7⟩

/-- With a single address and no failure of the system, one attempt is made. -/
theorem connectToDest_single (key : SelectorKey) (addr : SockAddr) (henv : Resourceful env)
    (h : s.conn.originResolution = [addr]) :
    ∃ u st, connectToDest env key s = .ok (u, st) ∧ (st = .connect ∨ st = .reply) ∧
      Connecting s addr u := by
  have hnio : ¬ (env.attempts 0).setNio = false := by
    rw [henv.setNio]
    decide
  have htry : ∃ u ret, tryConnection env key s = .ok (u, ret) ∧ Connecting s addr u := by
    have hact := connecting_act (s := s) (env.attempts 0).socket addr
    rw [tryConnection, h, tryAddresses, tryAddress]
    dsimp only
    rw [if_neg henv.socket, if_neg hnio]
    rcases (env.attempts 0).connect with _ | errno
    · exact ⟨_, _, rfl, hact .success⟩
    · have hact := hact (.error errno)
      dsimp only
      by_cases hprogress : errno = einprogress
      · rw [if_pos hprogress]
        split_ifs
        · exact ⟨_, _, rfl, hact.1, hact.2, hact.3, hact.4, hact.5, hact.6, hact.7⟩
        · exact ⟨_, _, rfl, hact.1, hact.2, hact.3, hact.4, hact.5, hact.6, hact.7⟩
      · rw [if_neg hprogress, if_neg (by simp)]
        exact ⟨_, _, rfl, hact⟩
  obtain ⟨u, ret, hu, hconnecting⟩ := htry
  refine ⟨(connectToDestResult u ret).1, (connectToDestResult u ret).2, ?_,
    connectToDestResult_state ret, hconnecting.result ret⟩
  rw [connectToDest, h]
  dsimp only
  rw [hu]

/-! ## The destination in the decoder -/

theorem decodeDestination_nil (hstate : s.conn.request.state = .dstLen)
    (h : s.conn.clientBuffer.content = []) :
    decodeDestination env key s = .ok (s, .done) := by
  rw [decodeDestination, dstLen_of_nil hstate h]

theorem decodeDestination_ip_short (hstate : s.conn.request.state = .dstLen)
    (hatyp : s.conn.request.atyp = d.atyp) (hip : d.atyp ≠ fqdn)
    (hne : s.conn.clientBuffer.content ≠ [])
    (hshort : s.conn.clientBuffer.content.length < d.addr.length + 1) :
    decodeDestination env key s = .ok (s, .request) := by
  rw [decodeDestination, dstLen_ip_short hstate (by rwa [hatyp]) hne
    (by rwa [hatyp, d.length_addr hip])]

/-- One byte of the port is enough for an address to be decoded. -/
theorem decodeDestination_ip (env : Env) (key : SelectorKey) {payload : List UInt8}
    (henv : Resourceful env)
    (hstate : s.conn.request.state = .dstLen) (hatyp : s.conn.request.atyp = d.atyp)
    (hip : d.atyp ≠ fqdn)
    (hstart : s.conn.clientBuffer.content <+: d.addr ++ ([d.portHigh, d.portLow] ++ payload))
    (hlong : d.addr.length + 1 ≤ s.conn.clientBuffer.content.length) :
    ∃ b u, u = { s with
        conn.request.state := .dstRes
        conn.clientBuffer := b
        conn.originHost := d.host
        conn.originPort := decimal (portOf (s.conn.clientBuffer.content.drop d.addr.length))
        conn.originResolution := [⟨d.family, d.addr,
          portOf (s.conn.clientBuffer.content.drop d.addr.length)⟩]
        conn.resolvedByName := false } ∧
      b.content = s.conn.clientBuffer.content.drop (d.addr.length + 2) ∧
      decodeDestination env key s = connectToDest env key u := by
  have htake : taken d.addr.length s.conn.clientBuffer.content = d.addr := by
    rw [taken_of_le _ (by omega)]
    exact (address_of_start hstart (by omega)).1
  have hlen := dstLen_ip env hstate (by rwa [hatyp])
    (by rwa [hatyp, d.length_addr hip])
  have hport := Nat.mod_eq_of_lt (portOf_lt (s.conn.clientBuffer.content.drop d.addr.length))
  have hfamily : ∀ family len, d.addr.length = len →
      dstRes env key (addrBytesByIpVersion s.conn.request.atyp)
          { s with conn.request.state := .dstRes } =
        dstIp env key (getIpAddress family len) (fun env => resolveIp env family)
          { s with conn.request.state := .dstRes } →
      d.host = .presentation family d.addr → d.family = family →
      ∃ b u, u = { s with
          conn.request.state := .dstRes
          conn.clientBuffer := b
          conn.originHost := d.host
          conn.originPort := decimal (portOf (s.conn.clientBuffer.content.drop d.addr.length))
          conn.originResolution := [⟨d.family, d.addr,
            portOf (s.conn.clientBuffer.content.drop d.addr.length)⟩]
          conn.resolvedByName := false } ∧
        b.content = s.conn.clientBuffer.content.drop (d.addr.length + 2) ∧
        decodeDestination env key s = connectToDest env key u := by
    rintro family len rfl hres hhost rfl
    obtain ⟨b, hb, heq⟩ := dstIp_eq env key d.family d.addr.length henv.callocInfo henv.callocAddr
      { s with conn.request.state := .dstRes }
    refine ⟨b, _, rfl, hb, ?_⟩
    rw [decodeDestination, hlen]
    dsimp only
    rw [hres, heq]
    simp only [htake, hport, hhost]
  rcases d.wellFormed with ⟨hv, hlenAddr⟩ | ⟨hv, hlenAddr⟩ | ⟨hv, -⟩
  · refine hfamily .inet ipv4AddrLen hlenAddr ?_ ?_ ?_
    · rw [dstRes, if_pos (by rw [hatyp]; exact hv)]
      rfl
    · simp [Destination.host, Destination.family, hv, ipv4Addr, fqdn]
    · simp [Destination.family, hv]
  · refine hfamily .inet6 ipv6AddrLen hlenAddr ?_ ?_ ?_
    · rw [dstRes, if_neg (by rw [hatyp, hv]; decide), if_neg (by rw [hatyp]; exact hip)]
      rfl
    · simp [Destination.host, Destination.family, hv, ipv4Addr, ipv6Addr, fqdn]
    · simp [Destination.family, hv, ipv4Addr, ipv6Addr]
  · exact absurd hv hip

theorem decodeDestination_zero (env : Env) (key : SelectorKey) {rest : List UInt8}
    (hstate : s.conn.request.state = .dstLen)
    (hatyp : s.conn.request.atyp = fqdn) (h : s.conn.clientBuffer.content = 0 :: rest) :
    ∃ u, decodeDestination env key s = .ok (u, .reply) ∧ u.log = s.log ∧
      u.conn.clientFd = s.conn.clientFd := by
  obtain ⟨b, -, hlen⟩ := dstLen_fqdn env hstate hatyp h
  rw [if_pos rfl] at hlen
  rw [decodeDestination, hlen]
  exact ⟨_, rfl, rfl, rfl⟩

/-- A name that is not there yet loses its length byte. -/
theorem decodeDestination_fqdn_short (env : Env) (key : SelectorKey) {n : UInt8}
    {rest : List UInt8} (hn : n ≠ 0)
    (hstate : s.conn.request.state = .dstLen) (hatyp : s.conn.request.atyp = fqdn)
    (h : s.conn.clientBuffer.content = n :: rest) (hshort : rest.length < n.toNat + 1) :
    ∃ b, b.content = rest ∧
      decodeDestination env key s = .ok ({ s with conn.clientBuffer := b }, .request) := by
  obtain ⟨b, hb, hlen⟩ := dstLen_fqdn env hstate hatyp h
  rw [if_neg hn, if_pos hshort] at hlen
  refine ⟨b, hb, ?_⟩
  rw [decodeDestination, hlen]

theorem decodeDestination_fqdn (key : SelectorKey) {n : UInt8} {rest : List UInt8}
    (henv : Resourceful env)
    (hn : n ≠ 0) (hstate : s.conn.request.state = .dstLen) (hatyp : s.conn.request.atyp = fqdn)
    (h : s.conn.clientBuffer.content = n :: rest) (hlong : n.toNat + 1 ≤ rest.length) :
    ∃ b u, u = { s with
        conn.request.state := .dstRes
        conn.clientBuffer := b
        conn.originHost := .name (rest.take n.toNat)
        conn.originPort := decimal (portOf (rest.drop n.toNat)) } ∧
      b.content = rest.drop (n.toNat + 2) ∧
      decodeDestination env key s =
        .ok ({ u.act (.resolve u.conn.originHost.cString u.conn.originPort) with
          resolvers := u.resolvers + 1 }, .request) := by
  obtain ⟨b, hb, hlen⟩ := dstLen_fqdn env hstate hatyp h
  rw [if_neg hn, if_neg (Nat.not_lt.mpr hlong)] at hlen
  obtain ⟨b', u, hb', hu, heq⟩ := dstFqdn_eq env n
    { s with conn.clientBuffer := b, conn.request.state := .dstRes }
  have htake := taken_of_le (n := n.toNat) rest (by omega)
  simp only [hb, htake] at hb' hu
  rw [henv.startThread, if_neg (by decide)] at heq
  refine ⟨b', u, hu, hb', ?_⟩
  rw [decodeDestination, hlen]
  dsimp only
  rw [dstRes, if_neg (by rw [hatyp]; decide), if_pos hatyp, heq]

end Decode

/-! ## Since the request began -/

/-- What the log says about the time since `entry`. -/
structure Traced (entry s : Session) (calls : List DestinationCall) (bytes : List UInt8) :
    Prop where
  log : entry.log <+: s.log
  clientFd : s.conn.clientFd = entry.conn.clientFd
  calls : destinationCalls (logSince entry s) = calls
  received : receivedSince entry s = bytes

section Traces

variable {entry s t : Session} {calls : List DestinationCall} {bytes : List UInt8}

theorem Traced.refl (s : Session) : Traced s s [] [] := by
  refine ⟨List.prefix_rfl, rfl, ?_, ?_⟩ <;> simp [receivedSince, logSince, destinationCalls]

theorem Traced.append (h : Traced entry s calls bytes) (log : List Action)
    (hlog : t.log = s.log ++ log) (hfd : t.conn.clientFd = s.conn.clientFd) :
    Traced entry t (calls ++ destinationCalls log)
      (bytes ++ bytesReceived entry.conn.clientFd log) := by
  have hsince : logSince entry t = logSince entry s ++ log := by
    rw [logSince, hlog, List.drop_append_of_le_length h.log.length_le]
    rfl
  refine ⟨?_, hfd.trans h.clientFd, ?_, ?_⟩
  · rw [hlog]
    exact h.log.trans (List.prefix_append _ _)
  · rw [hsince, destinationCalls_append, h.calls]
  · rw [receivedSince, hsince, bytesReceived_append, hfd, ← h.received, receivedSince, h.clientFd]

theorem Traced.congr (h : Traced entry s calls bytes) (hlog : t.log = s.log)
    (hfd : t.conn.clientFd = s.conn.clientFd) : Traced entry t calls bytes := by
  have happend := h.append [] (hlog.trans (List.append_nil _).symm) hfd
  simpa [destinationCalls] using happend

theorem Traced.recv (h : Traced entry s calls bytes) (answer : Option (List UInt8)) :
    ∃ b, b.content = s.conn.clientBuffer.content ++ recvReturns s answer ∧
      ∃ readn, (s.recvClientBuffer s.conn.clientFd answer).2 =
          ({ s with conn.clientBuffer := b }).act (recvAction s.conn.clientFd readn) ∧
        Traced entry (({ s with conn.clientBuffer := b }).act
          (recvAction s.conn.clientFd readn)) calls (bytes ++ recvReturns s answer) := by
  obtain ⟨b, hb, hrecv⟩ := recvClientBuffer_snd s s.conn.clientFd answer
  refine ⟨b, hb, _, hrecv, ?_⟩
  generalize hreadn : (bufferRecv s.conn.clientBuffer answer).1 = readn
  have hcalls : destinationCalls [recvAction s.conn.clientFd readn] = [] := by
    cases readn <;> rfl
  have happend := h.append (t := ({ s with conn.clientBuffer := b }).act
    (recvAction s.conn.clientFd readn)) _ rfl rfl
  rw [hcalls, List.append_nil, ← h.clientFd] at happend
  simpa [recvReturns, hreadn] using happend

theorem Traced.connecting {addr : SockAddr} (h : Traced entry s [] bytes)
    (hconnecting : Connecting s addr t) : Traced entry t [.connect addr] bytes := by
  obtain ⟨log, hlog⟩ := hconnecting.log
  have happend := h.append _ hlog.symm hconnecting.clientFd
  have hcalls := hconnecting.calls
  have hreceived := hconnecting.received
  rw [← hlog, destinationCalls_append, List.append_cancel_left_eq] at hcalls
  rw [← hlog, bytesReceived_append, List.append_right_eq_self, h.clientFd] at hreceived
  rw [hcalls, hreceived, List.append_nil] at happend
  exact happend

theorem Traced.done (env : Env) (key : SelectorKey) (h : Traced entry s calls bytes) :
    Traced entry (teardown env key s) calls bytes := by
  obtain ⟨log, hlog, hall⟩ := teardown_log_eq env key s
  have happend := h.append _ hlog teardown_persists.clientFd
  have hcalls : destinationCalls log = [] := by
    rw [destinationCalls, List.filterMap_eq_nil_iff]
    intro action haction
    rcases hall action haction with rfl | ⟨fd, rfl⟩ <;> rfl
  have hreceived : bytesReceived entry.conn.clientFd log = [] := by
    rw [bytesReceived, List.flatMap_eq_nil_iff]
    intro action haction
    rcases hall action haction with rfl | ⟨fd, rfl⟩ <;> rfl
  rw [hcalls, hreceived, List.append_nil, List.append_nil] at happend
  exact happend

/-- After the first attempt the reply may be queued, which touches neither the
log nor the request. -/
theorem settle_connecting (env : Env) (key : SelectorKey) {st : SocksV5State}
    (hst : st = .connect ∨ st = .reply) :
    (settle env key .request (s, st)).log = s.log ∧
      (settle env key .request (s, st)).conn.clientFd = s.conn.clientFd ∧
      (settle env key .request (s, st)).conn.clientBuffer = s.conn.clientBuffer ∧
      (settle env key .request (s, st)).conn.originHost = s.conn.originHost ∧
      (settle env key .request (s, st)).conn.originPort = s.conn.originPort := by
  rcases hst with rfl | rfl
  · rw [settle_move (by decide) (by decide) (by decide)]
    exact ⟨rfl, rfl, rfl, rfl, rfl⟩
  · obtain ⟨b, found, hreply⟩ := replyArrival_eq env s
    have hmove : settle env key .request (s, .reply) =
        { replyArrival env s with conn.stm := some .reply } :=
      settle_move (by decide) (by decide) (by decide)
    rw [hmove, hreply]
    exact ⟨rfl, rfl, rfl, rfl, rfl⟩

end Traces

/-! ## Where an event leaves the connection -/

/-- The connection waits in REQUEST and has called nobody. -/
structure Undecided (entry s : Session) (bytes : List UInt8) : Prop where
  traced : Traced entry s [] bytes
  stm : s.conn.stm = some .request
  alive : s.conn.closed = false

/-- Nothing of the destination has been consumed. -/
inductive Reading (d : Destination) (entry s : Session) : Prop
  | header (bytes : List UInt8) (hwait : Undecided entry s bytes)
      (hstate : s.conn.request.state = .verCmdAtyp) (hshort : bytes.length < 4)
      (hunread : s.conn.clientBuffer.content = bytes)
  | address (bytes : List UInt8) (hwait : Undecided entry s bytes)
      (hstate : s.conn.request.state = .dstLen) (hatyp : s.conn.request.atyp = d.atyp)
      (hip : d.atyp ≠ fqdn) (hlong : 4 < bytes.length)
      (hshort : bytes.length + 1 < d.request.length)
      (hunread : s.conn.clientBuffer.content = bytes.drop 4)

/-- Bytes of a domain name have been taken for length bytes. -/
structure Lost (d : Destination) (payload : List UInt8) (entry s : Session) (eaten : ℕ)
    (bytes : List UInt8) : Prop where
  wait : Undecided entry s bytes
  state : s.conn.request.state = .dstLen
  atyp : s.conn.request.atyp = fqdn
  domain : d.atyp = fqdn
  stream : bytes <+: d.request ++ payload
  pos : 0 < eaten
  long : 4 + eaten ≤ bytes.length
  short : bytes.length < d.request.length
  unread : s.conn.clientBuffer.content = bytes.drop (4 + eaten)

/-- The whole request has arrived and its destination has been called; a domain
name is waiting for its resolver. -/
structure Complete (d : Destination) (entry s : Session) : Prop where
  arrived : d.request.length ≤ (receivedSince entry s).length
  decoded : Decoded d entry s
  resolving : s.state = .request → s.conn.request.state = .dstRes ∧
    s.conn.request.atyp = fqdn ∧ s.conn.closed = false
  calls : destinationCalls (logSince entry s) ≠ []
  traced : entry.log <+: s.log ∧ s.conn.clientFd = entry.conn.clientFd

inductive Outcome (d : Destination) (payload : List UInt8) (entry t : Session) : Prop
  | reading (h : Reading d entry t)
  | complete (h : Complete d entry t)
  | lost (eaten : ℕ) (bytes : List UInt8) (h : Lost d payload entry t eaten bytes)
  | ruined (hsmooth : ¬ d.Smooth (receivedSince entry t).length) (h : ¬ Decoded d entry t)

section Outcomes

variable {d : Destination} {payload : List UInt8} {entry s t : Session}
  {calls : List DestinationCall} {bytes : List UInt8}

theorem Undecided.state_eq (h : Undecided entry s bytes) : s.state = .request :=
  (arrived_of_some h.stm).1

theorem decoded_iff_of_lt (h : Traced entry s calls bytes)
    (hlen : bytes.length < d.request.length) :
    Decoded d entry s ↔ s.state = .request ∧ s.conn.closed = false ∧ calls = [] := by
  rw [Decoded, h.received, if_pos hlen, h.calls]

theorem decoded_iff_of_le (h : Traced entry s calls bytes)
    (hlen : d.request.length ≤ bytes.length) :
    Decoded d entry s ↔ calls = [d.call] ∧ s.conn.originHost = d.host ∧
      s.conn.originPort = decimal d.port ∧
      s.conn.clientBuffer.content = bytes.drop d.request.length := by
  rw [Decoded, h.received, if_neg (Nat.not_lt.mpr hlen), h.calls]

theorem Destination.smooth_of_le {count : ℕ} (h : d.request.length ≤ count) : d.Smooth count := by
  rw [Destination.Smooth]
  split_ifs with hfqdn
  · exact .inr h
  · have hlen := d.length_request_ip hfqdn
    omega

theorem Destination.smooth_of_lt {count : ℕ} (h : count < 4) : d.Smooth count := by
  rw [Destination.Smooth]
  split_ifs with hfqdn
  · exact .inl h
  · have hlen := d.length_request_ip hfqdn
    omega

theorem Reading.smooth (h : Reading d entry t) : d.Smooth (receivedSince entry t).length := by
  rcases h with ⟨bytes, hwait, -, hshort, -⟩ | ⟨bytes, hwait, -, -, hip, hlong, hshort, -⟩
  · rw [hwait.traced.received]
    exact Destination.smooth_of_lt hshort
  · rw [hwait.traced.received, Destination.Smooth, if_neg hip]
    omega

theorem Reading.decoded (h : Reading d entry t) : Decoded d entry t := by
  have hlen : 4 ≤ d.request.length := by simp [Destination.request]
  rcases h with ⟨bytes, hwait, -, hshort, -⟩ | ⟨bytes, hwait, -, -, -, -, hshort, -⟩
  · exact (decoded_iff_of_lt hwait.traced (by omega)).mpr ⟨hwait.state_eq, hwait.alive, rfl⟩
  · exact (decoded_iff_of_lt hwait.traced (by omega)).mpr ⟨hwait.state_eq, hwait.alive, rfl⟩

/-- Nobody has been called, and it is too late. -/
theorem not_decoded_of_silent (h : Traced entry t [] bytes)
    (hlate : t.state ≠ .request ∨ d.request.length ≤ bytes.length) : ¬ Decoded d entry t := by
  by_cases hlen : bytes.length < d.request.length
  · rw [decoded_iff_of_lt h hlen]
    rintro ⟨hstate, -, -⟩
    exact hlate.elim (fun hleft => hleft hstate) (Nat.not_le.mpr hlen)
  · rw [decoded_iff_of_le h (Nat.not_lt.mp hlen)]
    rintro ⟨hcalls, -⟩
    cases hcalls

theorem Lost.not_smooth {eaten : ℕ} (h : Lost d payload entry t eaten bytes) :
    ¬ d.Smooth (receivedSince entry t).length := by
  have hlong := h.long
  have hshort := h.short
  rw [h.wait.traced.received, Destination.Smooth, if_pos h.domain]
  omega

theorem Undecided.congr (h : Undecided entry s bytes) (hlog : t.log = s.log)
    (hfd : t.conn.clientFd = s.conn.clientFd) (hstm : t.conn.stm = s.conn.stm)
    (hclosed : t.conn.closed = s.conn.closed) : Undecided entry t bytes :=
  ⟨h.traced.congr hlog hfd, hstm.trans h.stm, hclosed.trans h.alive⟩

variable {env : Env} {key : SelectorKey}

/-- An end-of-file that is taken for the client's. -/
theorem outcome_done (h : Undecided entry s bytes) (hlen : bytes.length = 4) :
    Outcome d payload entry (settle env key .request (s, .done)) := by
  rw [settle_stop (.inr rfl)]
  have hdone := (h.traced.congr (t := { s with conn.stm := some .done }) rfl rfl).done
    env key
  have hshort : bytes.length < d.request.length := by
    rw [hlen, Destination.request, List.length_cons, List.length_cons, List.length_cons,
      List.length_cons, Destination.body]
    simp
  refine .ruined ?_ ?_
  · rw [hdone.received, hlen, Destination.Smooth]
    split_ifs <;> omega
  · rw [decoded_iff_of_lt hdone hshort]
    rintro ⟨-, halive, -⟩
    rw [teardown_closed] at halive
    cases halive

theorem attempt_ip (henv : Resourceful env) (h : Undecided entry s bytes)
    (hstate : s.conn.request.state = .dstLen) (hatyp : s.conn.request.atyp = d.atyp)
    (hip : d.atyp ≠ fqdn) (hstream : bytes <+: d.request ++ payload) (hlong : 4 ≤ bytes.length)
    (hunread : s.conn.clientBuffer.content = bytes.drop 4) :
    ∃ r, decodeDestination env key s = .ok r ∧
      Outcome d payload entry (settle env key .request r) := by
  have hbody : s.conn.clientBuffer.content <+: d.addr ++ ([d.portHigh, d.portLow] ++ payload) := by
    rw [hunread, ← List.append_assoc, ← d.body_ip hip]
    exact (header_of_start hstream hlong).2
  have hlen : s.conn.clientBuffer.content.length = bytes.length - 4 := by
    rw [hunread, List.length_drop]
  have hrequest := d.length_request_ip hip
  rcases Nat.lt_trichotomy bytes.length 4 with hless | hfour | hmore
  · omega
  · refine ⟨_, decodeDestination_nil hstate ?_, outcome_done h hfour⟩
    rw [hunread, List.drop_eq_nil_of_le (by omega)]
  · by_cases hshort : bytes.length + 1 < d.request.length
    · refine ⟨_, decodeDestination_ip_short hstate hatyp hip ?_ (by omega), ?_⟩
      · intro hnil
        rw [hnil, List.length_nil] at hlen
        omega
      · rw [settle_stay (by decide) (by decide)]
        exact .reading (.address bytes (h.congr rfl rfl h.stm.symm rfl) hstate hatyp hip hmore
          hshort hunread)
    · obtain ⟨b, u, hu, hb, heq⟩ := decodeDestination_ip env key henv hstate
        hatyp hip hbody (by omega)
      obtain ⟨w, st, hw, hst, hconnecting⟩ := connectToDest_single (s := u) key
        ⟨d.family, d.addr, portOf (s.conn.clientBuffer.content.drop d.addr.length)⟩ henv
        (by rw [hu])
      refine ⟨_, heq.trans hw, ?_⟩
      obtain ⟨hlog, hfd, hbuffer, hhost, hport⟩ := settle_connecting env key
        (s := w) hst
      have htraced := ((h.traced.congr (t := u) (by rw [hu]) (by rw [hu])).connecting
        hconnecting).congr hlog hfd
      have hsettled : (settle env key .request (w, st)).conn.stm = some st := settle_stm
      by_cases hone : bytes.length + 1 = d.request.length
      · refine .ruined ?_ ?_
        · rw [htraced.received, Destination.Smooth, if_neg hip]
          omega
        · rw [decoded_iff_of_lt htraced (by omega)]
          rintro ⟨-, -, hcalls⟩
          cases hcalls
      · have hport' := (address_of_start hbody (by omega)).2 (by omega)
        refine .complete ⟨by rw [htraced.received]; omega, ?_, ?_, ?_,
          htraced.log, htraced.clientFd⟩
        · rw [decoded_iff_of_le htraced (by omega), hhost, hport, hbuffer,
            hconnecting.originHost, hconnecting.originPort, hconnecting.clientBuffer, hu, hport']
          refine ⟨?_, rfl, rfl, ?_⟩
          · rw [Destination.call, if_neg hip]
          · rw [hb, hunread, List.drop_drop, hrequest]
            congr 1
            omega
        · intro hreq
          rw [(arrived_of_some hsettled).1] at hreq
          rcases hst with rfl | rfl <;> cases hreq
        · rw [htraced.calls]
          simp

theorem Undecided.resolve (h : Undecided entry s bytes) {host : HostText} {port : List UInt8}
    (hlog : t.log = s.log ++ [.resolve host port]) (hfd : t.conn.clientFd = s.conn.clientFd) :
    Traced entry t [.resolve host port] bytes := by
  have happend := h.traced.append _ hlog hfd
  rw [List.nil_append] at happend
  exact ⟨happend.log, happend.clientFd, happend.calls, happend.received.trans
    (List.append_nil bytes)⟩

theorem attempt_fqdn (henv : Resourceful env) (h : Undecided entry s bytes)
    (hstate : s.conn.request.state = .dstLen) (hatyp : s.conn.request.atyp = d.atyp)
    (hfqdn : d.atyp = fqdn) (hstream : bytes <+: d.request ++ payload)
    (hlong : 4 ≤ bytes.length) (hunread : s.conn.clientBuffer.content = bytes.drop 4) :
    ∃ r, decodeDestination env key s = .ok r ∧
      Outcome d payload entry (settle env key .request r) := by
  have hbody := (header_of_start hstream hlong).2
  have hrequest := d.length_request_fqdn hfqdn
  rw [d.body_fqdn hfqdn] at hbody
  rcases hdst : bytes.drop 4 with _ | ⟨n, rest⟩
  · have hlen := congrArg List.length hdst
    rw [List.length_drop, List.length_nil] at hlen
    exact ⟨_, decodeDestination_nil hstate (hunread.trans hdst), outcome_done h (by omega)⟩
  · have hlen := congrArg List.length hdst
    rw [List.length_drop, List.length_cons] at hlen
    have htail : bytes.drop 5 = rest := by
      have hdrop := congrArg (List.drop 1) hdst
      rwa [List.drop_drop] at hdrop
    rw [hdst, List.cons_append, List.append_assoc, List.cons_prefix_cons] at hbody
    obtain ⟨rfl, hrest⟩ := hbody
    obtain ⟨hsize, hn⟩ := d.length_name hfqdn
    rw [hfqdn] at hatyp
    rw [hdst] at hunread
    by_cases hshort : rest.length < (UInt8.ofNat d.addr.length).toNat + 1
    · obtain ⟨b, hb, heq⟩ := decodeDestination_fqdn_short env key hn hstate hatyp
        hunread hshort
      refine ⟨_, heq, ?_⟩
      rw [settle_stay (by decide) (by decide)]
      refine .lost 1 bytes ⟨h.congr rfl rfl h.stm.symm rfl, hstate, hatyp, hfqdn, hstream,
        Nat.one_pos, by omega, by omega, ?_⟩
      change b.content = _
      rw [hb, htail]
    · obtain ⟨b, u, hu, hb, heq⟩ := decodeDestination_fqdn key henv hn hstate hatyp
        hunread (Nat.not_lt.mp hshort)
      refine ⟨_, heq, ?_⟩
      rw [settle_stay (by decide) (by decide)]
      generalize ht : ({ u.act (.resolve u.conn.originHost.cString u.conn.originPort) with
        resolvers := u.resolvers + 1, conn.stm := some .request } : Session) = t
      have htraced : Traced entry t [.resolve u.conn.originHost.cString u.conn.originPort] bytes :=
        h.resolve (by rw [← ht, hu]; rfl) (by rw [← ht, hu]; rfl)
      by_cases hone : bytes.length < d.request.length
      · refine .ruined ?_ ?_
        · rw [htraced.received, Destination.Smooth, if_pos hfqdn]
          omega
        · rw [decoded_iff_of_lt htraced hone]
          rintro ⟨-, -, hcalls⟩
          cases hcalls
      · obtain ⟨hname, hport⟩ := address_of_start hrest (by omega)
        rw [hsize, hname, hport (by omega)] at hu
        refine .complete ⟨by rw [htraced.received]; omega, ?_, ?_, ?_, htraced.log,
          htraced.clientFd⟩
        · rw [decoded_iff_of_le htraced (by omega), Destination.call, if_pos hfqdn,
            Destination.host, if_pos hfqdn, ← ht]
          refine ⟨by rw [hu], by rw [hu]; rfl, by rw [hu]; rfl, ?_⟩
          change u.conn.clientBuffer.content = _
          rw [hu]
          change b.content = _
          rw [hb, hsize, hrequest, ← htail, List.drop_drop]
          congr 1
          omega
        · intro _
          rw [← ht, hu]
          exact ⟨rfl, hatyp, h.alive⟩
        · rw [htraced.calls]
          simp

theorem last_of_rotated {bytes : List UInt8} {first last : UInt8}
    (h : bytes ++ [last] = first :: bytes) : last = first := by
  induction bytes generalizing first with
  | nil => exact List.head_eq_of_cons_eq h
  | cons byte bytes ih =>
      rw [List.cons_append, List.cons.injEq] at h
      rw [ih h.2, h.1]

/-- A name whose first byte is taken for its length is not found one byte
further on, where the port has only one byte left. -/
theorem shifted_ne {first : UInt8} {rest : List UInt8}
    (hbytes : first :: rest = d.addr ++ [d.portHigh, d.portLow])
    (hlen : first.toNat = d.addr.length) (hpos : 0 < d.addr.length)
    (hname : rest.take d.addr.length = d.addr) :
    portOf (rest.drop d.addr.length) ≠ d.port := by
  rcases haddr : d.addr with _ | ⟨byte, addr⟩
  · rw [haddr] at hpos
    exact absurd hpos (Nat.lt_irrefl 0)
  · rw [haddr] at hbytes hname hlen
    rw [List.cons_append, List.cons.injEq] at hbytes
    obtain ⟨rfl, rfl⟩ := hbytes
    have hsplit : addr ++ [d.portHigh, d.portLow] = (addr ++ [d.portHigh]) ++ [d.portLow] := by
      simp
    have hone : (addr ++ [d.portHigh]).length = (first :: addr).length := by simp
    rw [hsplit, ← hone, List.take_left] at hname
    rw [hsplit, ← hone, List.drop_left, Destination.port, last_of_rotated hname]
    have hlow := d.portLow.toNat_lt
    have hhigh := first.toNat_lt
    rw [List.length_cons] at hlen
    simp only [portOf, List.getD_cons_zero, List.getD_cons_succ, List.getD_nil,
      UInt8.toNat_zero]
    omega

/-- What is read behind a lost length byte is not the destination, or too much
is read. -/
theorem misread_ne {eaten : ℕ} {n : UInt8} {rest : List UInt8} (hfqdn : d.atyp = fqdn)
    (hstream : bytes <+: d.request ++ payload) (hpos : 0 < eaten)
    (hdst : bytes.drop (4 + eaten) = n :: rest) (hlong : n.toNat + 1 ≤ rest.length)
    (hwhole : d.request.length ≤ bytes.length) (hname : rest.take n.toNat = d.addr)
    (hport : portOf (rest.drop n.toNat) = d.port) :
    rest.drop (n.toNat + 2) ≠ bytes.drop d.request.length := by
  intro hleft
  have hrequest := d.length_request_fqdn hfqdn
  have hlen := congrArg List.length hdst
  have hsize := congrArg List.length hname
  have hunread := congrArg List.length hleft
  rw [List.length_drop, List.length_cons] at hlen
  rw [List.length_take, Nat.min_eq_left (by omega)] at hsize
  rw [List.length_drop, List.length_drop] at hunread
  -- Only a request without payload and a single lost byte leave this much.
  have hend : bytes.length = d.request.length := by omega
  have hone : eaten = 1 := by omega
  have hbytes : bytes = d.request := by
    have htake := List.prefix_iff_eq_take.mp hstream
    rwa [hend, List.take_left] at htake
  rw [hone, hbytes, Destination.request, d.body_fqdn hfqdn] at hdst
  rw [hsize] at hname hport
  exact shifted_ne hdst.symm hsize (Destination.length_bounds hfqdn).1 hname hport

theorem attempt_lost (key : SelectorKey) {eaten : ℕ} (henv : Resourceful env)
    (h : Undecided entry s bytes)
    (hstate : s.conn.request.state = .dstLen) (hatyp : s.conn.request.atyp = fqdn)
    (hfqdn : d.atyp = fqdn) (hstream : bytes <+: d.request ++ payload) (hpos : 0 < eaten)
    (hlong : 4 + eaten < bytes.length)
    (hunread : s.conn.clientBuffer.content = bytes.drop (4 + eaten)) :
    ∃ r, decodeDestination env key s = .ok r ∧
      ((∃ eaten', Lost d payload entry (settle env key .request r) eaten' bytes) ∨
        ¬ Decoded d entry (settle env key .request r)) := by
  rcases hdst : bytes.drop (4 + eaten) with _ | ⟨n, rest⟩
  · have hlen := congrArg List.length hdst
    rw [List.length_drop, List.length_nil] at hlen
    omega
  · have hlen := congrArg List.length hdst
    rw [List.length_drop, List.length_cons] at hlen
    have htail : bytes.drop (4 + (eaten + 1)) = rest := by
      have hdrop := congrArg (List.drop 1) hdst
      rwa [List.drop_drop] at hdrop
    rw [hdst] at hunread
    by_cases hn : n = 0
    · rw [hn] at hunread
      obtain ⟨u, heq, hlog, hfd⟩ := decodeDestination_zero env key hstate hatyp
        hunread
      obtain ⟨hlog', hfd', -⟩ := settle_connecting env key (s := u)
        (.inr rfl : SocksV5State.reply = .connect ∨ _)
      refine ⟨_, heq, .inr (not_decoded_of_silent
        (h.traced.congr (hlog'.trans hlog) (hfd'.trans hfd)) (.inl ?_))⟩
      rw [(arrived_of_some settle_stm).1]
      intro hstay
      cases hstay
    · by_cases hshort : rest.length < n.toNat + 1
      · obtain ⟨b, hb, heq⟩ := decodeDestination_fqdn_short env key hn hstate
          hatyp hunread hshort
        refine ⟨_, heq, ?_⟩
        rw [settle_stay (by decide) (by decide)]
        have hwait : Undecided entry { s with
            conn.clientBuffer := b
            conn.stm := some .request } bytes :=
          h.congr rfl rfl h.stm.symm rfl
        by_cases hmore : bytes.length < d.request.length
        · exact .inl ⟨eaten + 1, hwait, hstate, hatyp, hfqdn, hstream, Nat.succ_pos eaten,
            by omega, hmore, hb.trans htail.symm⟩
        · exact .inr (not_decoded_of_silent hwait.traced (.inr (Nat.not_lt.mp hmore)))
      · obtain ⟨b, u, hu, hb, heq⟩ := decodeDestination_fqdn key henv hn hstate hatyp
          hunread (Nat.not_lt.mp hshort)
        refine ⟨_, heq, .inr ?_⟩
        rw [settle_stay (by decide) (by decide)]
        generalize ht : ({ u.act (.resolve u.conn.originHost.cString u.conn.originPort) with
          resolvers := u.resolvers + 1, conn.stm := some .request } : Session) = t
        have htraced : Traced entry t [.resolve u.conn.originHost.cString u.conn.originPort] bytes :=
          h.resolve (by rw [← ht, hu]; rfl) (by rw [← ht, hu]; rfl)
        by_cases hmore : bytes.length < d.request.length
        · rw [decoded_iff_of_lt htraced hmore]
          rintro ⟨-, -, hcalls⟩
          cases hcalls
        · rw [decoded_iff_of_le htraced (Nat.not_lt.mp hmore)]
          rintro ⟨-, hhost, hport, hleft⟩
          rw [Destination.host, if_pos hfqdn, ← ht, hu] at hhost
          have hread : decimal (portOf (rest.drop n.toNat)) = decimal d.port := by
            rw [← ht, hu] at hport
            exact hport
          have hport := congrArg atoi hread
          rw [atoi_decimal, atoi_decimal] at hport
          refine misread_ne hfqdn hstream hpos hdst (Nat.not_lt.mp hshort)
            (Nat.not_lt.mp hmore) (HostText.name.inj hhost) hport ?_
          rw [← hb, ← hleft, ← ht, hu]
          rfl

end Outcomes

/-! ## One event -/

section Events

variable {d : Destination} {payload : List UInt8} {entry s t : Session} {env : Env}
  {bytes : List UInt8}

theorem recvReturns_start (s : Session) (answer : Option (List UInt8)) :
    recvReturns s answer <+: answer.getD [] := by
  rcases answer with _ | offered
  · exact List.prefix_rfl
  · exact List.take_prefix _ offered

/-- The event ends the process, or it leaves what the callback decided. -/
theorem step_requestRead (hstm : s.conn.stm = some .request) (halive : s.conn.closed = false)
    {fd : ℤ} {r : Session × SocksV5State}
    (hread : requestRead env ⟨fd, s.address⟩ s = .ok r) :
    step s (.read fd env) = .error .invalidFree ∨
      step s (.read fd env) = .ok (settle env ⟨fd, s.address⟩ .request r) := by
  rw [step_read_request (arrived_of_some hstm).1 halive hread]
  exact finish_cases _ _ _ _

/-- The second `recv` of an event, and the attempt. -/
theorem attempt (key : SelectorKey) (henv : Resourceful env) (h : Undecided entry s bytes)
    (hstate : s.conn.request.state = .dstLen) (hatyp : s.conn.request.atyp = d.atyp)
    (hstream : bytes ++ env.recvDst.getD [] <+: d.request ++ payload) (hlong : 4 ≤ bytes.length)
    (hunread : s.conn.clientBuffer.content = bytes.drop 4) :
    ∃ r, resolveDstAddress env key s = .ok r ∧
      Outcome d payload entry (settle env key .request r) := by
  obtain ⟨b, hb, readn, hrecv, htraced⟩ := h.traced.recv env.recvDst
  have hmore : bytes ++ recvReturns s env.recvDst <+: d.request ++ payload :=
    ((List.prefix_append_right_inj bytes).mpr (recvReturns_start s env.recvDst)).trans hstream
  have hleft : b.content = (bytes ++ recvReturns s env.recvDst).drop 4 := by
    rw [hb, hunread, List.drop_append_of_le_length hlong]
  have hlen : 4 ≤ (bytes ++ recvReturns s env.recvDst).length := by
    rw [List.length_append]
    omega
  rw [resolveDstAddress_eq, hrecv]
  by_cases hfqdn : d.atyp = fqdn
  · exact attempt_fqdn henv ⟨htraced, h.stm, h.alive⟩ hstate hatyp hfqdn hmore hlen hleft
  · exact attempt_ip henv ⟨htraced, h.stm, h.alive⟩ hstate hatyp hfqdn hmore hlen hleft

theorem Reading.event {e : Event} (h : Reading d entry s) (hd : Delivers d payload entry s e) :
    step s e = .error .invalidFree ∨ ∃ t, step s e = .ok t ∧ Outcome d payload entry t := by
  obtain ⟨env, rfl, henv, -, hoffer⟩ := hd
  rcases h with ⟨bytes, hwait, hstate, hshort, hunread⟩ |
    ⟨bytes, hwait, hstate, hatyp, hip, hlong, hshort, hunread⟩
  · rw [if_pos hstate, hwait.traced.received] at hoffer
    obtain ⟨hne, hstream⟩ := hoffer
    obtain ⟨b, hb, readn, hrecv, htraced⟩ := hwait.traced.recv env.recv
    rw [hunread] at hb
    have hread : requestRead env ⟨s.conn.clientFd, s.address⟩ s =
        match verCmdAtyp (({ s with conn.clientBuffer := b }).act
          (recvAction s.conn.clientFd readn)) with
        | .returned s ret => .ok (s, ret)
        | .next u => resolveDstAddress env ⟨s.conn.clientFd, s.address⟩ u := by
      rw [requestRead_eq hstate, hrecv]
    generalize hv : ({ s with conn.clientBuffer := b }).act
      (recvAction s.conn.clientFd readn) = v at htraced hread
    have hcontent : v.conn.clientBuffer.content = bytes ++ recvReturns s env.recv := by
      rw [← hv]
      exact hb
    have hwait' : Undecided entry v (bytes ++ recvReturns s env.recv) :=
      ⟨htraced, by rw [← hv]; exact hwait.stm, by rw [← hv]; exact hwait.alive⟩
    by_cases hfew : (bytes ++ recvReturns s env.recv).length < 4
    · rw [verCmdAtyp_of_short (by simp [hcontent, hne]) (by rwa [hcontent])] at hread
      refine (step_requestRead hwait.stm hwait.alive hread).imp_right fun hstep =>
        ⟨_, hstep, .reading ?_⟩
      rw [settle_stay (by decide) (by decide)]
      exact .header _ (hwait'.congr rfl rfl hwait'.stm.symm rfl) (by rw [← hv]; exact hstate)
        hfew hcontent
    · obtain ⟨hheader, -⟩ := header_of_start ((List.prefix_append _ _).trans hstream)
        (Nat.not_lt.mp hfew)
      obtain ⟨b', hb', hver⟩ := verCmdAtyp_of_header d.valid (hcontent.trans hheader)
      rw [hver] at hread
      obtain ⟨r, hr, hout⟩ := attempt _ henv
        (hwait'.congr (t := { v with
          conn.clientBuffer := b'
          conn.request := ⟨.dstLen, connectCmd, d.atyp⟩
          conn.atyp := d.atyp }) rfl rfl rfl rfl) rfl rfl hstream (Nat.not_lt.mp hfew) hb'
      exact (step_requestRead hwait.stm hwait.alive (hread.trans hr)).imp_right fun hstep =>
        ⟨_, hstep, hout⟩
  · rw [if_neg (by rw [hstate]; decide), hwait.traced.received] at hoffer
    obtain ⟨r, hr, hout⟩ := attempt ⟨s.conn.clientFd, s.address⟩ henv hwait hstate hatyp
      hoffer.2 (by omega) hunread
    refine (step_requestRead hwait.stm hwait.alive (r := r) ?_).imp_right fun hstep =>
      ⟨_, hstep, hout⟩
    rw [requestRead, if_neg (by rw [hstate]; decide), hr]

theorem Lost.event {e : Event} {eaten : ℕ} (h : Lost d payload entry s eaten bytes)
    (hd : Delivers d payload entry s e) :
    step s e = .error .invalidFree ∨ ∃ t, step s e = .ok t ∧
      ((∃ eaten' bytes', Lost d payload entry t eaten' bytes') ∨ ¬ Decoded d entry t) := by
  obtain ⟨env, rfl, henv, -, hoffer⟩ := hd
  have hlater : s.conn.request.state ≠ .verCmdAtyp := by
    rw [h.state]
    decide
  rw [if_neg hlater, h.wait.traced.received] at hoffer
  obtain ⟨hne, hstream⟩ := hoffer
  obtain ⟨b, hb, readn, hrecv, htraced⟩ := h.wait.traced.recv env.recvDst
  have hmore : bytes ++ recvReturns s env.recvDst <+: d.request ++ payload :=
    ((List.prefix_append_right_inj bytes).mpr (recvReturns_start s env.recvDst)).trans hstream
  have hleft : b.content = (bytes ++ recvReturns s env.recvDst).drop (4 + eaten) := by
    rw [hb, h.unread, List.drop_append_of_le_length h.long]
  have hlen : 4 + eaten < (bytes ++ recvReturns s env.recvDst).length := by
    have hpos := List.length_pos_of_ne_nil hne
    have hlong := h.long
    rw [List.length_append]
    omega
  obtain ⟨r, hr, hout⟩ := attempt_lost ⟨s.conn.clientFd, s.address⟩
    (s := ({ s with conn.clientBuffer := b }).act (recvAction s.conn.clientFd readn)) henv
    ⟨htraced, h.wait.stm, h.wait.alive⟩ h.state h.atyp h.domain hmore h.pos hlen hleft
  have hread : requestRead env ⟨s.conn.clientFd, s.address⟩ s = .ok r := by
    rw [requestRead, if_neg hlater, resolveDstAddress_eq, hrecv, hr]
  rcases step_requestRead h.wait.stm h.wait.alive hread with habort | hstep
  · exact .inl habort
  · refine .inr ⟨_, hstep, ?_⟩
    rcases hout with ⟨eaten', hlost⟩ | hnot
    · exact .inl ⟨eaten', _, hlost⟩
    · exact .inr hnot

/-- A read event that finds a complete request starts a second resolver. -/
theorem Complete.event {e : Event} (h : Complete d entry s) (hd : Delivers d payload entry s e) :
    ∃ t, step s e = .ok t ∧ ¬ Decoded d entry t := by
  obtain ⟨env, rfl, henv, hin, -⟩ := hd
  have hstate := hin.resolve_left (Nat.not_lt.mpr h.arrived)
  obtain ⟨hres, hatyp, halive⟩ := h.resolving hstate
  have hstm := stm_of_state hstate (by decide)
  have htraced : Traced entry s (destinationCalls (logSince entry s)) (receivedSince entry s) :=
    ⟨h.traced.1, h.traced.2, rfl, rfl⟩
  obtain ⟨b, -, readn, hrecv, htraced'⟩ := htraced.recv env.recvDst
  generalize hv : ({ s with conn.clientBuffer := b }).act
    (recvAction s.conn.clientFd readn) = v at hrecv htraced'
  obtain ⟨b', u, -, hu, heq⟩ := dstFqdn_eq env env.addrBytes v
  rw [henv.startThread, if_neg (by decide)] at heq
  have hread : requestRead env ⟨s.conn.clientFd, s.address⟩ s =
      .ok ({ u.act (.resolve u.conn.originHost.cString u.conn.originPort) with
        resolvers := u.resolvers + 1 }, .request) := by
    have hvres : v.conn.request.state = .dstRes := by
      rw [← hv]
      exact hres
    have hvatyp : v.conn.request.atyp = fqdn := by
      rw [← hv]
      exact hatyp
    have hlen : dstLen env v = .next (v, env.addrBytes) := by
      rw [dstLen, if_neg (by rw [hvres]; decide)]
    rw [requestRead, if_neg (by rw [hres]; decide), resolveDstAddress_eq, hrecv,
      decodeDestination, hlen]
    dsimp only
    rw [dstRes, if_neg (by rw [hvatyp]; decide), if_pos hvatyp, heq]
  refine ⟨_, (step_read_request hstate halive hread).trans
    (finish_live (by decide) (by decide)), ?_⟩
  rw [settle_stay (by decide) (by decide)]
  have happend := htraced'.append
    (t := { u.act (.resolve u.conn.originHost.cString u.conn.originPort) with
      resolvers := u.resolvers + 1, conn.stm := some .request })
    [.resolve u.conn.originHost.cString u.conn.originPort] (by rw [hu]; rfl) (by rw [hu]; rfl)
  rw [decoded_iff_of_le happend]
  · rintro ⟨hcalls, -⟩
    have hlen := congrArg List.length hcalls
    have hpos := List.length_pos_of_ne_nil h.calls
    rw [List.length_append] at hlen
    change _ + 1 = 1 at hlen
    omega
  · have harrived := h.arrived
    simp only [List.length_append]
    omega

end Events

/-! ## Whole deliveries -/

section Deliveries

variable {d : Destination} {payload : List UInt8} {entry s : Session} {es : List Event}

theorem AtRequest.reading (h : AtRequest s) : Reading d s s :=
  .header [] ⟨Traced.refl s, h.stm, h.alive⟩ h.state (by simp) h.unread

theorem Reading.incomplete (h : Reading d entry s) :
    (receivedSince entry s).length < d.request.length := by
  have hlen : 4 ≤ d.request.length := by simp [Destination.request]
  rcases h with ⟨bytes, hwait, -, hshort, -⟩ | ⟨bytes, hwait, -, -, -, -, hshort, -⟩
  · rw [hwait.traced.received]
    omega
  · rw [hwait.traced.received]
    omega

/-- A domain name that has lost a byte is not decoded any more. -/
theorem Lost.delivery {eaten : ℕ} {bytes : List UInt8} (h : Lost d payload entry s eaten bytes)
    (hdelivers : Steps step (Delivers d payload entry) s es)
    (hwhole : ∀ t, run step s es = .ok t →
      d.request.length ≤ (receivedSince entry t).length) :
    ¬ RunsThrough step (Decoded d entry) s es := by
  induction es generalizing s eaten bytes with
  | nil =>
      intro _
      have harrived := hwhole s rfl
      rw [h.wait.traced.received] at harrived
      exact absurd h.short (Nat.not_lt.mpr harrived)
  | cons e es ih =>
      rcases h.event hdelivers.1 with habort | ⟨t, ht, hout⟩
      · rintro ⟨-, t, ht, -⟩
        rw [habort] at ht
        cases ht
      rw [runsThrough_cons_iff ht]
      rintro ⟨-, hrest⟩
      rcases hout with ⟨eaten', bytes', hlost⟩ | hnot
      · refine ih hlost (hdelivers.2 t ht) ?_ hrest
        intro u hu
        exact hwhole u (run_cons_ok_iff.mpr ⟨t, ht, hu⟩)
      · exact hnot hrest.head

theorem Complete.delivery (h : Complete d entry s)
    (hdelivers : Steps step (Delivers d payload entry) s es) :
    RunsThrough step (Decoded d entry) s es ↔ Steps step (EndsSmoothly d entry) s es := by
  rcases es with _ | ⟨e, es⟩
  · exact iff_of_true h.decoded trivial
  · obtain ⟨t, ht, hnot⟩ := h.event hdelivers.1
    refine iff_of_false ?_ ?_
    · rw [runsThrough_cons_iff ht]
      rintro ⟨-, hrest⟩
      exact hnot hrest.head
    · rintro ⟨⟨hincomplete, -⟩, -⟩
      exact absurd h.arrived (Nat.not_le.mpr hincomplete)

theorem Reading.delivery (h : Reading d entry s)
    (hdelivers : Steps step (Delivers d payload entry) s es)
    (hwhole : ∀ t, run step s es = .ok t →
      d.request.length ≤ (receivedSince entry t).length) :
    RunsThrough step (Decoded d entry) s es ↔ Steps step (EndsSmoothly d entry) s es := by
  induction es generalizing s with
  | nil => exact iff_of_true h.decoded trivial
  | cons e es ih =>
      rcases h.event hdelivers.1 with habort | ⟨t, ht, hout⟩
      · refine iff_of_false ?_ ?_
        · rintro ⟨-, t, ht, -⟩
          rw [habort] at ht
          cases ht
        · rintro ⟨⟨-, t, ht, -⟩, -⟩
          rw [habort] at ht
          cases ht
      have hrest := hdelivers.2 t ht
      have hwhole : ∀ u, run step t es = .ok u →
          d.request.length ≤ (receivedSince entry u).length := by
        intro u hu
        exact hwhole u (run_cons_ok_iff.mpr ⟨t, ht, hu⟩)
      have hends : EndsSmoothly d entry s e ↔ d.Smooth (receivedSince entry t).length := by
        rw [EndsSmoothly, ht]
        simp [h.incomplete]
      rw [runsThrough_cons_iff ht, steps_cons_iff ht, hends]
      have hdecoded := h.decoded
      rcases hout with hreading | hcomplete | ⟨eaten, bytes, hlost⟩ | ⟨hsmooth, hnot⟩
      · have hiff := ih hreading hrest hwhole
        have hsmooth := hreading.smooth
        tauto
      · have hiff := hcomplete.delivery hrest
        have hsmooth := Destination.smooth_of_le hcomplete.arrived
        tauto
      · have hnot := hlost.delivery hrest hwhole
        have hsmooth := hlost.not_smooth
        tauto
      · have hnot : ¬ RunsThrough step (Decoded d entry) t es := fun hruns => hnot hruns.head
        tauto

/-- A request that arrives whole is decoded at every moment of its delivery
exactly when no event ends behind a number of bytes where the decoder loses its
place, and none is dispatched after the last byte of the request. -/
theorem decoded_iff_smooth (hentry : AtRequest s)
    (hdelivers : Steps step (Delivers d payload s) s es)
    (hwhole : ∀ t, run step s es = .ok t → d.request.length ≤ (receivedSince s t).length) :
    RunsThrough step (Decoded d s) s es ↔ Steps step (EndsSmoothly d s) s es :=
  hentry.reading.delivery hdelivers hwhole

end Deliveries

/-- The destination 127.0.0.1, port 80. -/
def loopback : Destination where
  atyp := ipv4Addr
  addr := [127, 0, 0, 1]
  portHigh := 0
  portLow := 80
  wellFormed := .inl ⟨rfl, rfl⟩

/-- A system that has this segment to deliver and connects at once. -/
def segment (bytes : List UInt8) : Env :=
  { receives bytes with
    recvDst := none
    callocAddr := true
    callocInfo := true
    startThread := true
    attempts := fun _ => { (default : Attempt) with socket := 5, setNio := true } }

theorem segment_resourceful (bytes : List UInt8) : Resourceful (segment bytes) :=
  ⟨rfl, rfl, rfl, by simp [segment], rfl⟩

theorem greeted_atRequest : AtRequest (firstSessionAfter greetingExchange) :=
  ⟨by decide +kernel, by decide +kernel, by decide +kernel, by decide +kernel⟩

theorem greeted_clientFd : (firstSessionAfter greetingExchange).conn.clientFd = 4 := by
  decide +kernel

/-- The first segment is the header, and the decoder takes the missing rest for
the end of the stream. -/
theorem headerSegment_lost :
    ∃ s₀ s t, socksv5PassiveAccept bufferSizeDefault emptySelector metricsInit firstClient =
        some s₀ ∧
      Steps step Enabled s₀ (greetingExchange ++ [.read 4 (segment [5, 1, 0, 1])]) ∧
      run step s₀ greetingExchange = .ok s ∧ AtRequest s ∧
      Delivers loopback [] s s (.read 4 (segment [5, 1, 0, 1])) ∧
      step s (.read 4 (segment [5, 1, 0, 1])) = .ok t ∧ ¬ Decoded loopback s t := by
  refine ⟨firstSession, _, _, firstSession_accepted, by decide +kernel,
    run_firstSession (by decide +kernel), greeted_atRequest,
    ⟨_, by rw [greeted_clientFd], segment_resourceful _, ?_⟩,
    step_firstSession (by decide +kernel), ?_⟩
  · decide +kernel
  · decide +kernel

/-- The whole request in one segment. -/
theorem decoded_iff_smooth_whole :
    ∃ s, AtRequest s ∧
      RunsThrough step (Decoded loopback s) s [.read 4 (segment loopback.request)] := by
  have hstep : step (firstSessionAfter greetingExchange) (.read 4 (segment loopback.request)) =
      .ok (firstSessionAfter (greetingExchange ++ [.read 4 (segment loopback.request)])) :=
    step_firstSession (by decide +kernel)
  have hbefore : (receivedSince (firstSessionAfter greetingExchange)
      (firstSessionAfter greetingExchange)).length = 0 := by
    decide +kernel
  have hafter : (receivedSince (firstSessionAfter greetingExchange) (firstSessionAfter
      (greetingExchange ++ [.read 4 (segment loopback.request)]))).length = 10 := by
    decide +kernel
  refine ⟨_, greeted_atRequest, (decoded_iff_smooth greeted_atRequest
    (?_ : Steps step (Delivers loopback [] _) _ _) ?_).mpr ?_⟩
  · refine (steps_cons_iff hstep).mpr
      ⟨⟨_, by rw [greeted_clientFd], segment_resourceful _, ?_⟩, trivial⟩
    decide +kernel
  · intro t ht
    obtain ⟨u, hu, hend⟩ := run_cons_ok_iff.mp ht
    rw [← Except.ok.inj hend, ← Except.ok.inj (hstep.symm.trans hu), hafter]
    decide
  · refine (steps_cons_iff hstep).mpr ⟨⟨?_, ?_⟩, trivial⟩
    · rw [hbefore]
      decide
    · refine ⟨_, hstep, ?_⟩
      rw [hafter]
      exact Destination.smooth_of_le (by decide)

end Socks5Proxy

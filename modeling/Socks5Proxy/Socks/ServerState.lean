import Socks5Proxy.Socks.Accepted

/-!
# The SOCKS side of the server

All connections share the selector and the metrics.  A run of the server is a
sequence of accepts and of events of single connections, in any order.
-/

namespace Socks5Proxy

/-- What belongs to one connection alone. -/
structure Connection where
  address : ℕ
  conn : Socks5
  resolvers : ℕ
  log : List Action
  deriving Inhabited

/-- What `socks5_new` returns for a new client. -/
def newConnection (bufferSize : ℕ) (a : Accepted) : Connection where
  address := a.address
  conn := socks5New a.raw a.clientFd bufferSize
  resolvers := 0
  log := []

/-- The shared selector and metrics, every connection set up so far, the ones
torn down included, and how many clients have been accepted. -/
structure Server where
  sel : FdSelector FdHandler ℕ
  metrics : MetricSnapshot
  connections : List Connection
  accepted : ℕ
  deriving Inhabited

namespace Server

/-- The server after `metrics_init`. -/
def start (sel : FdSelector FdHandler ℕ) : Server where
  sel := sel
  metrics := metricsInit
  connections := []
  accepted := 0

/-- One connection with the state its callbacks share with the others. -/
def session (v : Server) (c : Connection) : Session where
  sel := v.sel
  address := c.address
  conn := c.conn
  metrics := v.metrics
  resolvers := c.resolvers
  log := c.log

/-- What an event of the connection at `i` leaves. -/
def resume (v : Server) (i : ℕ) (s : Session) : Server :=
  { v with
    sel := s.sel
    metrics := s.metrics
    connections := v.connections.set i
      { address := s.address
        conn := s.conn
        resolvers := s.resolvers
        log := s.log } }

/-- The connections that have not been torn down. -/
def live (v : Server) : ℕ := v.connections.countP fun c => !c.conn.closed

/-- `socksv5_passive_accept` from `register_new_connection` on, where the code
logs the connection as accepted; `malloc` is the one of `socks5_new`.  The way
out through `fail` closes the descriptor and leaves the metrics alone. -/
def passiveAccept (bufferSize : ℕ) (v : Server) (malloc : Bool) (a : Accepted) : Server :=
  let v := { v with metrics := registerNewConnection v.metrics, accepted := v.accepted + 1 }
  if malloc = false then
    v
  else
    match selectorRegister v.sel a.clientFd (some .socks5Handler) .opRead (some a.address)
      a.alloc with
    | (sel, .success) =>
      { v with
        sel := sel
        connections := v.connections ++ [newConnection bufferSize a] }
    | (sel, _) => { v with sel := sel }

end Server

/-- `accept` or `selector_fd_set_nio` fails; a client is accepted; something
happens to the connection at `i`. -/
inductive ServerEvent
  | acceptFails
  | accept (malloc : Bool) (a : Accepted)
  | connection (i : ℕ) (e : Event)

/-- A fault in one connection is a fault of the server. -/
def serverStep (bufferSize : ℕ) (v : Server) : ServerEvent → Except Fault Server
  | .acceptFails => .ok v
  | .accept malloc a => .ok (v.passiveAccept bufferSize malloc a)
  | .connection i e =>
    match v.connections[i]? with
    | none => .ok v
    | some c => (step (v.session c) e).map (v.resume i)

section Accept

variable {bufferSize : ℕ} {v : Server} {a : Accepted}

/-- An accept that reaches the end adds one connection. -/
theorem Server.passiveAccept_of_success
    (h : (selectorRegister v.sel a.clientFd (some .socks5Handler) .opRead (some a.address)
      a.alloc).2 = .success) :
    v.passiveAccept bufferSize true a =
      { sel := (selectorRegister v.sel a.clientFd (some .socks5Handler) .opRead
          (some a.address) a.alloc).1
        metrics := registerNewConnection v.metrics
        connections := v.connections ++ [newConnection bufferSize a]
        accepted := v.accepted + 1 } := by
  unfold Server.passiveAccept
  rw [if_neg (by decide)]
  dsimp only
  generalize selectorRegister v.sel a.clientFd (some .socks5Handler) .opRead (some a.address)
    a.alloc = r at h ⊢
  obtain ⟨sel, status⟩ := r
  cases h
  rfl

end Accept

end Socks5Proxy

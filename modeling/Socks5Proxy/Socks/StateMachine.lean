import Socks5Proxy.Socks.Greeting
import Socks5Proxy.Socks.Auth
import Socks5Proxy.Socks.Request
import Socks5Proxy.Socks.Connect
import Socks5Proxy.Socks.Reply
import Socks5Proxy.Socks.Copy
import Socks5Proxy.Library.Run

/-!
# The state machine of a SOCKS connection

`socks5nio.c`: the table of states, the four callbacks registered with the
selector, the teardown, and what accepting a connection sets up.  `step` is one
event of a connection's life: a callback the selector dispatches, a resolver
thread that finishes, or the kernel finishing a pending `connect`.
-/

namespace Socks5Proxy

/-! ## The table of states -/

/-- A callback that cannot fault, in the type of the table. -/
def total (callback : Session → Session × SocksV5State) :
    Option (Session → Except Fault (Session × SocksV5State)) :=
  some fun s => .ok (callback s)

def socks5States (env : Env) (key : SelectorKey) :
    SocksV5State → StateDefinition Session SocksV5State
  | .greeting =>
    { onArrival := some greetingArrival
      onDeparture := none
      onReadReady := total (greetingRead env key)
      onWriteReady := total (greetingWrite env key)
      onBlockReady := none }
  | .auth =>
    { onArrival := some authArrival
      onDeparture := none
      onReadReady := total (authRead env key)
      onWriteReady := total (authWrite env key)
      onBlockReady := none }
  | .request =>
    { onArrival := some requestArrival
      onDeparture := none
      onReadReady := some (requestRead env key)
      onWriteReady := none
      onBlockReady := some (requestBlock env key) }
  | .connect =>
    { onArrival := none
      onDeparture := none
      onReadReady := none
      onWriteReady := some (connectWrite env key)
      onBlockReady := none }
  | .reply =>
    { onArrival := some (replyArrival env)
      onDeparture := none
      onReadReady := none
      onWriteReady := total (replyWrite env)
      onBlockReady := none }
  | .copy =>
    { onArrival := some socksv5CopyArrival
      onDeparture := some socksv5CopyClose
      onReadReady := total (socksv5CopyRead env key)
      onWriteReady := total (socksv5CopyWrite env key)
      onBlockReady := none }
  | .done | .error =>
    { onArrival := none
      onDeparture := none
      onReadReady := none
      onWriteReady := none
      onBlockReady := none }

/-! ## Teardown -/

/-- `selector_unregister_fd` on a descriptor whose `handle_close`, if it is the
one of a SOCKS connection, is `onClose`. -/
def unregisterFd (onClose : Session → Session) (s : Session) (fd : ℤ) : Session :=
  if invalidFd fd then
    s
  else if !(s.sel.item fd).used then
    s
  else
    let s := if (s.sel.item fd).handler = some .socks5Handler then onClose s else s
    { s with sel := selectorClearItem s.sel fd }

/-- `socksv5_close`, with `finish` for `socksv5_done`. -/
def closeWith {σ : Type} (finish : Session → σ) (env : Env) (key : SelectorKey) (s : Session) :
    σ :=
  let s := stmHandlerClose (socks5States env key) s.conn.stm s
  finish { s with metrics := registerConnectionClosed s.metrics }

/-- One `if (fd != -1)` block of `socksv5_done`.  The nested `socksv5_done` of
the `handle_close` it reaches finds `closed` set and returns. -/
def releaseFd (env : Env) (key : SelectorKey) (fd : ℤ) (s : Session) : Session :=
  if fd ≠ -1 then
    (unregisterFd (closeWith id env { key with fd := fd }) s fd).act (.close fd)
  else
    s

/-- The list is one of `getaddrinfo`, whose addresses lie inside the nodes, and
`socks5_destroy` takes it for one of `resolve_ipv4` or `resolve_ipv6`. -/
def Socks5.Mistaken (c : Socks5) : Prop :=
  c.originResolution ≠ [] ∧ (c.atyp = ipv4Addr ∨ c.atyp = ipv6Addr) ∧ c.resolvedByName = true

instance (c : Socks5) : Decidable c.Mistaken :=
  inferInstanceAs (Decidable (_ ∧ _ ∧ _))

/-- `socks5_destroy` of a record.  The list is released by the current `atyp`:
`free` on an address that starts no allocation ends the process, while
`freeaddrinfo` takes a node of `resolve_ipv4` or `resolve_ipv6` for its own. -/
def socks5Destroy (s : Session) : Except Fault Session :=
  if s.conn.Mistaken then .error .invalidFree else .ok (s.act .free)

def socksv5Done (env : Env) (key : SelectorKey) (s : Session) : Except Fault Session :=
  if s.conn.closed then
    .ok s
  else
    let s := { s with conn.closed := true }
    let s := releaseFd env key s.conn.originFd s
    let s := releaseFd env key s.conn.clientFd s
    socks5Destroy s

def socksv5Close (env : Env) (key : SelectorKey) (s : Session) : Except Fault Session :=
  closeWith (socksv5Done env key) env key s

/-- `selector_unregister_fd` inside the loop of `selector_destroy`.  Of the
`handle_close` it calls, the one of another registration is left out: it
releases what the loop reaches anyway. -/
def destroyItem (env : Env) (s : Session) (i : ℕ) : Except Fault Session :=
  if s.sel.dataOf i = some s.address then
    if invalidFd i then
      .ok s
    else if !(s.sel.item i).used then
      .ok s
    else do
      let s ← if (s.sel.item i).handler = some .socks5Handler then
        socksv5Close env ⟨i, s.address⟩ s else .ok s
      .ok { s with sel := selectorClearItem s.sel i }
  else
    .ok { s with sel := (selectorUnregisterFdWithoutClosing s.sel i).1 }

/-- `selector_destroy`, with which the server stops. -/
def selectorDestroy (env : Env) (s : Session) : Except Fault Session := do
  let s ← (List.range s.sel.fds.length).foldlM (destroyItem env) s
  .ok { s with
    sel.fds := []
    sel.resolutionJobs := [] }

/-! ## The callbacks of the selector -/

/-- The common body of `socksv5_read`, `socksv5_write` and `socksv5_block`. -/
def dispatch
    (stmHandlerEvent : (SocksV5State → StateDefinition Session SocksV5State) → SocksV5State →
      Option SocksV5State → Session → Except Fault (Session × SocksV5State))
    (env : Env) (key : SelectorKey) (s : Session) : Except Fault Session :=
  match stmHandlerEvent (socks5States env key) .greeting s.conn.stm s with
  | .error fault => .error fault
  | .ok (s, st) =>
    let s := { s with conn.stm := some st }
    if st = .error ∨ st = .done then socksv5Done env key s else .ok s

def socksv5Read : Env → SelectorKey → Session → Except Fault Session :=
  dispatch stmHandlerRead

def socksv5Write : Env → SelectorKey → Session → Except Fault Session :=
  dispatch stmHandlerWrite

def socksv5Block : Env → SelectorKey → Session → Except Fault Session :=
  dispatch stmHandlerBlock

/-! ## Accepting a connection -/

/-- `socks5_new` in the memory `raw`. -/
def socks5New (raw : Socks5) (clientFd : ℤ) (bufferSize : ℕ) : Socks5 :=
  { raw with
    clientFd := clientFd
    clientBuffer := bufferInit bufferSize raw.clientBuffer.data
    originFd := -1
    originBuffer := bufferInit bufferSize raw.originBuffer.data
    originResolution := []
    resolvedByName := false
    atyp := 0
    stm := none
    closed := false }

/-- What the server and the system hand to `socksv5_passive_accept` when
`accept` and `selector_fd_set_nio` succeed: the new descriptor, the memory
`malloc` returned and its address, and whether the selector's table can grow. -/
structure Accepted where
  clientFd : ℤ
  raw : Socks5
  address : ℕ
  alloc : Bool

/-- The session `socksv5_passive_accept` starts, unless the registration
fails. -/
def socksv5PassiveAccept (bufferSize : ℕ) (sel : FdSelector FdHandler ℕ)
    (metrics : MetricSnapshot) (a : Accepted) : Option Session :=
  match selectorRegister sel a.clientFd (some .socks5Handler) .opRead (some a.address)
    a.alloc with
  | (sel, .success) =>
    some
      { sel := sel
        address := a.address
        conn := socks5New a.raw a.clientFd bufferSize
        metrics := registerNewConnection metrics
        resolvers := 0
        log := [] }
  | _ => none

/-! ## The life of a connection -/

inductive Event
  | read (fd : ℤ) (env : Env)
  | write (fd : ℤ) (env : Env)
  | block (fd : ℤ) (env : Env)
  | resolved (result : List SockAddr)
  | connectFinished (errno : ℤ)

/-- One event of a connection whose record has not been freed.
`handle_block_notifications` drops a job once it has handled it; a resolver
thread that finishes writes to the record. -/
def stepOpen (s : Session) : Event → Except Fault Session
  | .read fd env => socksv5Read env ⟨fd, s.address⟩ s
  | .write fd env => socksv5Write env ⟨fd, s.address⟩ s
  | .block fd env =>
    (socksv5Block env ⟨fd, s.address⟩ s).map fun t =>
      { t with sel.resolutionJobs := t.sel.resolutionJobs.erase fd }
  | .resolved result => .ok (resolveFqdnBlocking result s)
  | .connectFinished errno => .ok (s.act (.connectFinished s.conn.originFd errno))

/-- One event; a callback or thread that reaches into a freed record faults. -/
def step (s : Session) (e : Event) : Except Fault Session :=
  if s.conn.closed then .error .useAfterFree else stepOpen s e

/-- The events that can happen: the selector calls a handler for a descriptor
registered with the connection as its data, under the interest it is
registered with, or for a job posted for it. -/
def Enabled (s : Session) : Event → Prop
  | .read fd _ =>
    s.sel.dataOf fd = some s.address ∧ ∃ i, s.interestOf fd = some i ∧ i.read = true
  | .write fd _ =>
    s.sel.dataOf fd = some s.address ∧ ∃ i, s.interestOf fd = some i ∧ i.write = true
  | .block fd _ => s.sel.dataOf fd = some s.address ∧ fd ∈ s.sel.resolutionJobs
  | .resolved _ => 0 < s.resolvers
  | .connectFinished _ => s.conn.closed = false ∧ s.conn.originFd ≠ -1

instance Enabled.decidable (s : Session) : (e : Event) → Decidable (Enabled s e)
  | .read fd _ => inferInstanceAs (Decidable
      (s.sel.dataOf fd = some s.address ∧ ∃ i, s.interestOf fd = some i ∧ i.read = true))
  | .write fd _ => inferInstanceAs (Decidable
      (s.sel.dataOf fd = some s.address ∧ ∃ i, s.interestOf fd = some i ∧ i.write = true))
  | .block fd _ => inferInstanceAs (Decidable
      (s.sel.dataOf fd = some s.address ∧ fd ∈ s.sel.resolutionJobs))
  | .resolved _ => inferInstanceAs (Decidable (0 < s.resolvers))
  | .connectFinished _ =>
      inferInstanceAs (Decidable (s.conn.closed = false ∧ s.conn.originFd ≠ -1))

end Socks5Proxy

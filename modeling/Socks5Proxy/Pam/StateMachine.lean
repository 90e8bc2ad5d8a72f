import Socks5Proxy.Pam.Auth
import Socks5Proxy.Pam.Request
import Socks5Proxy.Library.Run

/-!
# The state machine of a management connection

`pam.c`: the table of states, the callbacks registered with the selector, the
teardown, and what accepting a connection sets up.  `pamStep` is one event of
a connection's life: a callback the selector dispatches, or other connections
at work on the user store and the metrics.
-/

namespace Socks5Proxy

/-- A callback that cannot fault, in the type of the table. -/
def pamTotal (callback : PamSession → PamSession × PamState) :
    Option (PamSession → Except Fault (PamSession × PamState)) :=
  some fun s => .ok (callback s)

def pamStates (env : PamEnv) (key : SelectorKey) :
    PamState → StateDefinition PamSession PamState
  | .auth =>
    { onArrival := some pamAuthArrival
      onDeparture := none
      onReadReady := pamTotal (pamAuthRead env key)
      onWriteReady := pamTotal (pamAuthWrite env key)
      onBlockReady := none }
  | .request =>
    { onArrival := some pamRequestArrival
      onDeparture := none
      onReadReady := some (pamRequestRead env key)
      onWriteReady := pamTotal (pamRequestWrite env key)
      onBlockReady := none }
  | .done | .error =>
    { onArrival := none
      onDeparture := none
      onReadReady := none
      onWriteReady := none
      onBlockReady := none }

/-! ## Teardown -/

/-- `pam_close`, which frees the record. -/
def pamClose (s : PamSession) : PamSession := { s with freed := true }.act .free

/-- `pam_done`; `abort` counts as a failed assertion. -/
def pamDone (s : PamSession) : Except Fault PamSession :=
  let fd := s.conn.clientFd
  if invalidFd fd then
    .error .assertion
  else if !(s.sel.item fd).used then
    .error .assertion
  else
    let s := if (s.sel.item fd).handler = some .pamHandler then pamClose s else s
    .ok ({ s with sel := selectorClearItem s.sel fd }.act (.close fd))

/-! ## The callbacks of the selector -/

/-- The common body of `pam_read` and `pam_write`. -/
def pamDispatch
    (stmHandlerEvent : (PamState → StateDefinition PamSession PamState) → PamState →
      Option PamState → PamSession → Except Fault (PamSession × PamState))
    (env : PamEnv) (key : SelectorKey) (s : PamSession) : Except Fault PamSession :=
  match stmHandlerEvent (pamStates env key) .auth s.conn.stm s with
  | .error fault => .error fault
  | .ok (s, st) =>
    let s := { s with conn.stm := some st }
    if st = .error ∨ st = .done then pamDone s else .ok s

def pamRead : PamEnv → SelectorKey → PamSession → Except Fault PamSession :=
  pamDispatch stmHandlerRead

def pamWrite : PamEnv → SelectorKey → PamSession → Except Fault PamSession :=
  pamDispatch stmHandlerWrite

/-! ## Accepting a connection -/

/-- `pam_new` in the memory `raw`. -/
def pamNew (raw : Pam) (clientFd : ℤ) : Pam :=
  { raw with
    clientFd := clientFd
    clientBuffer := bufferInit pamBufferSize raw.clientBuffer.data
    stm := none }

/-- What the server and the system hand to `pam_passive_accept` when `accept`
and `selector_fd_set_nio` succeed: the new descriptor, the memory `malloc`
returned and its address, and whether the selector's table can grow. -/
structure PamAccepted where
  clientFd : ℤ
  raw : Pam
  address : ℕ
  alloc : Bool

/-- The session `pam_passive_accept` starts, unless the registration fails. -/
def pamPassiveAccept (sel : FdSelector FdHandler ℕ) (users : UserStore)
    (metrics : MetricSnapshot) (a : PamAccepted) : Option PamSession :=
  match selectorRegister sel a.clientFd (some .pamHandler) .opRead (some a.address) a.alloc with
  | (sel, .success) =>
    some
      { sel := sel
        address := a.address
        conn := pamNew a.raw a.clientFd
        users := users
        metrics := metrics
        freed := false
        log := [] }
  | _ => none

/-! ## The life of a connection -/

inductive PamEvent
  | read (fd : ℤ) (env : PamEnv)
  | write (fd : ℤ) (env : PamEnv)
  | others (users : UserStore) (metrics : MetricSnapshot)

/-- One event; a callback that reaches into a freed record faults. -/
def pamStep (s : PamSession) : PamEvent → Except Fault PamSession
  | .read fd env =>
    if s.freed then .error .useAfterFree else pamRead env ⟨fd, s.address⟩ s
  | .write fd env =>
    if s.freed then .error .useAfterFree else pamWrite env ⟨fd, s.address⟩ s
  | .others users metrics => .ok { s with users := users, metrics := metrics }

/-- The events that can happen: the selector calls a handler for a descriptor
registered with the connection as its data, under the interest it is
registered with; other connections can do anything. -/
def PamEnabled (s : PamSession) : PamEvent → Prop
  | .read fd _ =>
    s.sel.dataOf fd = some s.address ∧ ∃ i, s.sel.interestOf fd = some i ∧ i.read = true
  | .write fd _ =>
    s.sel.dataOf fd = some s.address ∧ ∃ i, s.sel.interestOf fd = some i ∧ i.write = true
  | .others _ _ => True

instance PamEnabled.decidable (s : PamSession) : (e : PamEvent) → Decidable (PamEnabled s e)
  | .read fd _ => inferInstanceAs (Decidable
      (s.sel.dataOf fd = some s.address ∧ ∃ i, s.sel.interestOf fd = some i ∧ i.read = true))
  | .write fd _ => inferInstanceAs (Decidable
      (s.sel.dataOf fd = some s.address ∧ ∃ i, s.sel.interestOf fd = some i ∧ i.write = true))
  | .others _ _ => .isTrue trivial

end Socks5Proxy

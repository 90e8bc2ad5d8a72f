import Socks5Proxy.Shared.Buffer
import Socks5Proxy.Shared.Queue
import Socks5Proxy.Shared.Selector

/-!
# The logger

`logger.c`: messages are queued as they are logged and written when the log
file accepts a write.  The line being written is kept in `log_buffer` between
two calls of `write_logs_deferred`, but the locals that say so are not.
-/

namespace Socks5Proxy

open Library Library.Memory

def maxLogSize : ℕ := 1024
def maxLogQueueSize : ℕ := 100
def stdoutFileno : ℤ := 1
def loggerWarn : ℤ := 3
def loggerError : ℤ := 4

/-- What `format_log_message` makes of a message, up to the terminator; it
starts with a bracket. -/
structure LogText where
  bytes : List UInt8
  nonempty : bytes ≠ []
  deriving DecidableEq

/-- A `char *` of the queue: the text and the number of the message in it. -/
structure LogLine where
  id : ℕ
  text : LogText
  deriving DecidableEq

/-- The static variables of `logger.c`.  `interest` is the one the log file is
registered with, and `file` what has been written to it. -/
structure Logger where
  logQueue : Option (Queue LogLine)
  logBuffer : Buffer
  currentLog : Option LogLine
  minLogLevel : ℤ
  logFile : ℤ
  loggerSelector : Bool
  interest : FdInterest
  logAlwaysIncrementalId : ℕ
  file : List UInt8

/-- `logger_register_selector`; `setNio` is the answer of
`selector_fd_set_nio`. -/
def loggerRegisterSelector (setNio : Bool) (l : Logger) : Logger :=
  if setNio then { l with loggerSelector := true, interest := .opWrite } else l

/-- The log file is registered again with every so many messages. -/
def loggerRearm (setNio : Bool) (l : Logger) : Logger :=
  if l.loggerSelector ∧ l.logAlwaysIncrementalId % (maxLogQueueSize / 3) = 0 then
    loggerRegisterSelector setNio l
  else
    l

/-- `logger_unregister_selector(loggerSelector)`. -/
def loggerUnregisterSelector (l : Logger) : Logger :=
  if l.loggerSelector then { l with interest := .opNoop } else l

/-- What a `write` to the log file accepts: without a descriptor it is `-1`. -/
def Logger.accepts (l : Logger) (answer : Option ℕ) : Option ℕ :=
  if l.logFile < 0 then none else answer

/-- The bytes of a line that one `write` of all of it puts into the file. -/
def Logger.written (l : Logger) (answer : Option ℕ) (line : LogLine) : List UInt8 :=
  match l.accepts answer with
  | none => []
  | some k => line.text.bytes.take k

/-- `logger_log_message_deferred`.  `text` is the result of
`format_log_message`, which numbers the message also where it has no memory for
it.  The second component is the line that has been queued. -/
def loggerLogMessageDeferred (level : ℤ) (text : Option LogText) (newNode : Option ℕ)
    (setNio : Bool) (l : Logger) : Except QueueFault (Logger × Option LogLine) :=
  match l.logQueue with
  | none => .ok (l, none)
  | some q =>
    if level < l.minLogLevel then
      .ok (l, none)
    else
      let logId := l.logAlwaysIncrementalId
      let l := { l with logAlwaysIncrementalId := logId + 1 }
      match text with
      | none => .ok (l, none)
      | some text =>
        match enqueue q (some ⟨logId, text⟩) newNode with
        | .error fault => .error fault
        | .ok (q, queued) =>
          .ok (loggerRearm setNio { l with logQueue := some q },
            if queued then some ⟨logId, text⟩ else none)

/-- `LOG_FILE_NAME` with the answer of `open`, or `NULL`. -/
inductive LogFileName
  | null
  | name (file : Option ℕ)

/-- `open_file_non_blocking`: that the log goes to the standard output is
logged, while `logFile` is not yet set.  `text` and `newNode` are those of the
message. -/
def openFileNonBlocking (filename : LogFileName) (text : Option LogText) (newNode : Option ℕ)
    (l : Logger) : Except QueueFault (ℤ × Logger × Option LogLine) :=
  let log (level : ℤ) :=
    (loggerLogMessageDeferred level text newNode false l).map fun r => (stdoutFileno, r)
  match filename with
  | .null => log loggerWarn
  | .name none => log loggerError
  | .name (some file) => .ok (file, l, none)

/-- The static variables before the log file is opened. -/
def loggerCreate (minLogLevel : ℤ) : Logger where
  logQueue := some (createQueue true maxLogQueueSize)
  logBuffer := bufferInit maxLogSize fun _ => 0
  currentLog := none
  minLogLevel := minLogLevel
  logFile := -1
  loggerSelector := false
  interest := .opNoop
  logAlwaysIncrementalId := 0
  file := []

/-- `logger_init`, with the line it has queued itself. -/
def loggerInit (minLogLevel : ℤ) (filename : LogFileName) (text : Option LogText)
    (newNode : Option ℕ) : Except QueueFault (Logger × Option LogLine) :=
  (openFileNonBlocking filename text newNode (loggerCreate minLogLevel)).map fun (file, l, line) =>
    ({ l with logFile := file }, line)

/-- `buffer_init` and `buffer_write_adv` on the text of a line. -/
def lineBuffer (line : LogLine) : Buffer :=
  (bufferInit line.text.bytes.length (store (fun _ => 0) 0 line.text.bytes)).advanceWrite
    line.text.bytes.length (Nat.le_of_eq (Nat.zero_add _))

/-- The body of the loop of `write_logs_deferred`, with the locals `toRead` and
`written` it leaves. -/
def writeNextLog (answer : Option ℕ) (q : Queue LogLine) (toRead : ℕ) (written : ℤ) (l : Logger) :
    Except QueueFault (Logger × ℕ × ℤ) :=
  match dequeue q with
  | .error fault => .error fault
  | .ok (_, none) => .error .nullPointer
  | .ok (q, some line) =>
    let l := { l with
      logQueue := some q
      currentLog := some line
      logBuffer := lineBuffer line }
    if bufferCanRead l.logBuffer then
      let toRead := (bufferReadPtr l.logBuffer).2
      let (sent, buffer) := bufferSend l.logBuffer (l.accepts answer)
      let written : ℤ := match sent with
        | none => -1
        | some bytes => bytes.length
      let l := { l with logBuffer := buffer, file := l.file ++ sent.getD [] }
      if written = toRead then
        .ok ({ l with currentLog := none }, toRead, written)
      else
        .ok (l, toRead, written)
    else
      .ok (l, toRead, written)

/-- The loop of `write_logs_deferred`, with a bound on its rounds; the second
component says whether the queue is empty and the last write was complete. -/
def writeLogsLoop (answer : Option ℕ) : ℕ → ℕ → ℤ → Logger → Except QueueFault (Logger × Bool)
  | 0, _, _, l => .ok (l, false)
  | n + 1, toRead, written, l =>
    match l.logQueue with
    | none => .ok (l, decide (written = toRead))
    | some q =>
      if queueSize q = 0 then
        .ok (l, decide (written = toRead))
      else if toRead = 0 ∧ written = toRead then
        match queuePeek q with
        | .error fault => .error fault
        | .ok none => .ok (l, false)
        | .ok (some _) =>
          match writeNextLog answer q toRead written l with
          | .error fault => .error fault
          | .ok (l, toRead, written) => writeLogsLoop answer n toRead written l
      else
        .ok (l, false)

def Logger.queueSize (l : Logger) : ℕ :=
  match l.logQueue with
  | none => 0
  | some q => Socks5Proxy.queueSize q

def writeLogsDeferred (answer : Option ℕ) (l : Logger) : Except QueueFault Logger :=
  match writeLogsLoop answer (l.queueSize + 1) 0 0 l with
  | .error fault => .error fault
  | .ok (l, true) => .ok (loggerUnregisterSelector l)
  | .ok (l, false) => .ok l

/-- The loop of `flush_all_logs`, with a bound on its rounds; `answers` is what
`write` answers for each line. -/
def flushLoop (answers : LogLine → Option ℕ) : ℕ → Queue LogLine → Logger →
    Except QueueFault Logger
  | 0, q, l => .ok { l with logQueue := some q }
  | n + 1, q, l =>
    if queueSize q = 0 then
      .ok { l with logQueue := some q }
    else
      match dequeue q with
      | .error fault => .error fault
      | .ok (q, none) => flushLoop answers n q l
      | .ok (q, some line) =>
        flushLoop answers n q { l with file := l.file ++ l.written (answers line) line }

def flushAllLogs (answers : LogLine → Option ℕ) (l : Logger) : Except QueueFault Logger :=
  match l.logQueue with
  | none => .ok l
  | some q => flushLoop answers (queueSize q) q l

/-- The log file is closed, unless it is the standard output. -/
def closeLogFile (l : Logger) : Logger :=
  if 0 ≤ l.logFile ∧ l.logFile ≠ stdoutFileno then { l with logFile := -1 } else l

/-- The file is closed before the queue is flushed. -/
def freeLogger (answers : LogLine → Option ℕ) (l : Logger) : Except QueueFault Logger :=
  match l.logQueue with
  | none => .ok l
  | some _ =>
    match flushAllLogs answers (closeLogFile l) with
    | .error fault => .error fault
    | .ok l => .ok { l with logQueue := none }

end Socks5Proxy

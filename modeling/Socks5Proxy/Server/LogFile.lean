import Socks5Proxy.Library.Stream
import Socks5Proxy.Server.Logger

/-!
# The file that is the log

A line leaves the queue before it is written, and what one `write` does not
take of it is lost.  So the file holds the lines that have not been evicted
exactly where every `write` has taken a whole line, and nothing was queued when
the file was closed.
-/

namespace Socks5Proxy

open Library Library.Stream

/-! ## Runs -/

/-- What happens to the logger until it is freed.  `write_logs_deferred` makes
one `write` at most, `flush_all_logs` one for each line. -/
inductive LogEvent
  | log (level : ℤ) (text : Option LogText) (newNode : Option ℕ) (setNio : Bool)
  | registerSelector (setNio : Bool)
  | writeLogsDeferred (answer : Option ℕ)
  | flushAllLogs (answers : LogLine → Option ℕ)

/-- The logger and every line that has been queued. -/
structure LogRun where
  logger : Logger
  enqueued : List LogLine

/-- The logger after `logger_init`. -/
def LogRun.new (minLogLevel : ℤ) (filename : LogFileName) (text : Option LogText)
    (newNode : Option ℕ) : Except QueueFault LogRun :=
  (loggerInit minLogLevel filename text newNode).map fun (l, line) => ⟨l, line.toList⟩

def logStep (r : LogRun) : LogEvent → Except QueueFault LogRun
  | .log level text newNode setNio =>
    match loggerLogMessageDeferred level text newNode setNio r.logger with
    | .error fault => .error fault
    | .ok (l, line) => .ok ⟨l, r.enqueued ++ line.toList⟩
  | .registerSelector setNio => .ok { r with logger := loggerRegisterSelector setNio r.logger }
  | .writeLogsDeferred answer =>
    match writeLogsDeferred answer r.logger with
    | .error fault => .error fault
    | .ok l => .ok { r with logger := l }
  | .flushAllLogs answers =>
    match flushAllLogs answers r.logger with
    | .error fault => .error fault
    | .ok l => .ok { r with logger := l }

/-- `malloc` returns no address that is in use. -/
def LogAllocates (r : LogRun) : LogEvent → Prop
  | .log _ _ newNode _ => ∀ q p, r.logger.logQueue = some q → newNode = some p → q.nodes p = none
  | .registerSelector _ | .writeLogsDeferred _ | .flushAllLogs _ => True

/-- The lines `free_log` has been called with. -/
def LogRun.evicted (r : LogRun) : List LogLine :=
  match r.logger.logQueue with
  | none => []
  | some q => q.freed

/-- The lines in the queue. -/
def Logger.pending (l : Logger) : List LogLine :=
  match l.logQueue with
  | none => []
  | some q => q.elements

/-- All lines that have been queued, except those evicted from a full queue. -/
def LogRun.kept (r : LogRun) : List LogLine := r.enqueued.filter fun line => line ∉ r.evicted

/-- The text of lines, one behind the other. -/
def logBytes (lines : List LogLine) : List UInt8 := (lines.map fun line => line.text.bytes).flatten

/-- After a run from `init` and `free_logger` the file is the lines that have not
been evicted. -/
def FileIsLog (init : LogRun) (events : List LogEvent) (answers : LogLine → Option ℕ) : Prop :=
  ∃ r l, run logStep init events = .ok r ∧ freeLogger answers r.logger = .ok l ∧
    l.file = logBytes r.kept

/-! ## Complete writes -/

/-- The `write` takes all of the line. -/
def Takes (answer : Option ℕ) (line : LogLine) : Prop :=
  ∃ k, answer = some k ∧ line.text.bytes.length ≤ k

/-- Every `write` that is made takes all of its line. -/
def WritesAll (r : LogRun) : LogEvent → Prop
  | .log _ _ _ _ | .registerSelector _ => True
  | .writeLogsDeferred answer => ∀ line ∈ r.logger.pending.head?, Takes answer line
  | .flushAllLogs answers => ∀ line ∈ r.logger.pending, Takes (answers line) line

/-- Nothing is queued, or the log goes to the standard output, which is not
closed, and takes all of it. -/
def FreesAll (answers : LogLine → Option ℕ) (l : Logger) : Prop :=
  l.pending = [] ∨ l.logFile = stdoutFileno ∧ ∀ line ∈ l.pending, Takes (answers line) line

/-! ## What a run has taken from the queue -/

/-- The run has taken lines from the queue, each with what has been written of
it, and `cells` are left. -/
structure LogRun.Traced (r : LogRun) (cells : List (ℕ × LogLine))
    (taken : List (LogLine × List UInt8)) : Prop where
  queue : ∃ q, r.logger.logQueue = some q ∧ q.Consists cells ∧ q.freeFn = true
  kept : r.kept = taken.map Prod.fst ++ cells.map Prod.snd
  nodup : r.enqueued.Nodup
  numbered : ∀ line ∈ r.enqueued, line.id < r.logger.logAlwaysIncrementalId
  evicted : ∀ line ∈ r.evicted, line ∈ r.enqueued
  file : r.logger.file = (taken.map Prod.snd).flatten
  within : ∀ t ∈ taken, t.2.length ≤ t.1.text.bytes.length
  opened : 0 ≤ r.logger.logFile

/-- Every line taken has been written in full. -/
def WrittenInFull (taken : List (LogLine × List UInt8)) : Prop := ∀ t ∈ taken, t.2 = t.1.text.bytes

/-! ## One write -/

section Writes

variable {l l' : Logger} {q q' : Queue LogLine} {cells : List (ℕ × LogLine)} {line : LogLine}
  {answer : Option ℕ} {answers : LogLine → Option ℕ}

theorem Logger.accepts_of_opened (h : 0 ≤ l.logFile) (answer : Option ℕ) :
    l.accepts answer = answer := if_neg (Int.not_lt.mpr h)

theorem Logger.accepts_of_closed (h : l.logFile < 0) (answer : Option ℕ) :
    l.accepts answer = none := if_pos h

theorem Logger.length_written_le (l : Logger) (answer : Option ℕ) (line : LogLine) :
    (l.written answer line).length ≤ line.text.bytes.length := by
  unfold written
  split
  · exact Nat.zero_le _
  · exact List.length_take_le' _ _

theorem Logger.written_eq_iff (h : 0 ≤ l.logFile) :
    l.written answer line = line.text.bytes ↔ Takes answer line := by
  rw [written, l.accepts_of_opened h]
  rcases answer with _ | k
  · constructor
    · intro hnil
      exact absurd hnil.symm line.text.nonempty
    · rintro ⟨k, hk, -⟩
      cases hk
  · constructor
    · intro htake
      have hlen := congrArg List.length htake
      rw [List.length_take] at hlen
      exact ⟨k, rfl, by omega⟩
    · rintro ⟨k', hk, hle⟩
      cases hk
      exact List.take_of_length_le hle

theorem Logger.written_of_closed (h : l.logFile < 0) (answer : Option ℕ) :
    l.written answer line = [] := by rw [written, l.accepts_of_closed h]

theorem lineBuffer_content (line : LogLine) : (lineBuffer line).content = line.text.bytes := by
  change Memory.slice (Memory.store _ 0 line.text.bytes) 0 (0 + line.text.bytes.length - 0) = _
  rw [Nat.zero_add, Nat.sub_zero, Memory.slice_store_same]

/-- `l'` is `l` after a `write` for each of the lines `done`, which have been in
front of the lines `left`. -/
structure Logger.Writes (l : Logger) (answers : LogLine → Option ℕ)
    (done left : List (ℕ × LogLine)) (l' : Logger) : Prop where
  queue : ∃ q q', l.logQueue = some q ∧ l'.logQueue = some q' ∧ q'.Consists left ∧
    q'.freeFn = q.freeFn ∧ q'.freed = q.freed
  file : l'.file = l.file ++ (done.map fun cell => l.written (answers cell.2) cell.2).flatten
  logFile : l'.logFile = l.logFile
  numbered : l'.logAlwaysIncrementalId = l.logAlwaysIncrementalId

/-- One round takes the oldest line and writes as much of it as `write`
accepts. -/
theorem writeNextLog_eq {a : ℕ} (hqueue : l.logQueue = some q)
    (hq : q.Consists ((a, line) :: cells)) (answer : Option ℕ) :
    ∃ l' w, writeNextLog answer q 0 0 l = .ok (l', line.text.bytes.length, w) ∧
      l.Writes (fun _ => answer) [(a, line)] cells l' := by
  obtain ⟨q', hdequeue, hq', -, hfreeFn, hfreed, -⟩ := hq.dequeue_cons
  have hread : bufferCanRead (lineBuffer line) = true := by
    rw [bufferCanRead_iff, lineBuffer_content]
    exact line.text.nonempty
  have hcount : (bufferReadPtr (lineBuffer line)).2 = line.text.bytes.length := by
    rw [bufferReadPtr_snd, lineBuffer_content]
  have hsent : ((bufferSend (lineBuffer line) (l.accepts answer)).1).getD [] =
      l.written answer line := by
    rw [Logger.written]
    rcases l.accepts answer with _ | k
    · rfl
    · rw [bufferSend_some_fst, lineBuffer_content, Option.getD_some]
  have hpiece : l.written answer line =
      (([(a, line)] : List (ℕ × LogLine)).map fun cell => l.written answer cell.2).flatten :=
    (List.append_nil _).symm
  rw [hpiece] at hsent
  simp only [writeNextLog, hdequeue, hread, hcount, if_true]
  split_ifs
  · exact ⟨_, _, rfl, ⟨q, q', hqueue, rfl, hq', hfreeFn, hfreed⟩,
      congrArg (l.file ++ ·) hsent, rfl, rfl⟩
  · exact ⟨_, _, rfl, ⟨q, q', hqueue, rfl, hq', hfreeFn, hfreed⟩,
      congrArg (l.file ++ ·) hsent, rfl, rfl⟩

theorem Logger.Writes.refl (hqueue : l.logQueue = some q)
    (hq : q.Consists cells) : l.Writes answers [] cells l where
  queue := ⟨q, q, hqueue, hqueue, hq, rfl, rfl⟩
  file := (List.append_nil _).symm
  logFile := rfl
  numbered := rfl

/-- A second round finds the locals of the first and stops. -/
theorem writeLogsLoop_stops {n toRead : ℕ} {written : ℤ} (hread : toRead ≠ 0) (l : Logger) :
    ∃ done, writeLogsLoop answer (n + 1) toRead written l = .ok (l, done) := by
  rw [writeLogsLoop]
  split
  · exact ⟨_, rfl⟩
  · rw [if_neg (fun h : toRead = 0 ∧ written = toRead => hread h.1)]
    split_ifs
    · exact ⟨_, rfl⟩
    · exact ⟨_, rfl⟩

theorem loggerUnregisterSelector_writes {done left : List (ℕ × LogLine)}
    (h : l.Writes answers done left l') :
    l.Writes answers done left (loggerUnregisterSelector l') := by
  unfold loggerUnregisterSelector
  split_ifs
  · exact ⟨h.queue, h.file, h.logFile, h.numbered⟩
  · exact h

/-- A call of `write_logs_deferred` writes one line, whatever `write`
returns. -/
theorem writeLogsDeferred_eq (hqueue : l.logQueue = some q) (hq : q.Consists cells)
    (answer : Option ℕ) :
    ∃ l', writeLogsDeferred answer l = .ok l' ∧
      l.Writes (fun _ => answer) (cells.take 1) (cells.drop 1) l' := by
  have hsize : l.queueSize = cells.length := by
    rw [Logger.queueSize, hqueue]
    exact hq.size
  suffices hloop : ∃ l' done, writeLogsLoop answer (l.queueSize + 1) 0 0 l = .ok (l', done) ∧
      l.Writes (fun _ => answer) (cells.take 1) (cells.drop 1) l' by
    obtain ⟨l', done, hloop, hwrites⟩ := hloop
    rw [writeLogsDeferred, hloop]
    rcases done with _ | _
    · exact ⟨l', rfl, hwrites⟩
    · exact ⟨_, rfl, loggerUnregisterSelector_writes hwrites⟩
  rw [hsize, writeLogsLoop, hqueue]
  dsimp only
  rcases cells with _ | ⟨⟨a, line⟩, cells⟩
  · rw [if_pos (show queueSize q = 0 from hq.size_nil)]
    exact ⟨l, _, rfl, .refl hqueue hq⟩
  · obtain ⟨l', w, hnext, hwrites⟩ := writeNextLog_eq hqueue hq answer
    have hlen : line.text.bytes.length ≠ 0 := fun h =>
      line.text.nonempty (List.length_eq_zero_iff.mp h)
    have hstops : ∃ done, writeLogsLoop answer (cells.length + 1) line.text.bytes.length w l' =
      .ok (l', done) := writeLogsLoop_stops hlen l'
    obtain ⟨done, hstops⟩ := hstops
    rw [if_neg (show ¬ queueSize q = 0 from hq.size_cons), if_pos ⟨rfl, rfl⟩, hq.peek]
    simp only [List.map_cons, List.head?_cons, List.length_cons, hnext, hstops]
    exact ⟨l', done, rfl, hwrites⟩

/-- `flush_all_logs` writes every line once. -/
theorem flushLoop_eq (answers : LogLine → Option ℕ) (hq : q.Consists cells) (l : Logger) :
    ∃ q' l', flushLoop answers cells.length q l = .ok l' ∧ l'.logQueue = some q' ∧
      q'.Consists [] ∧ q'.freeFn = q.freeFn ∧ q'.freed = q.freed ∧
      l'.file = l.file ++ (cells.map fun cell => l.written (answers cell.2) cell.2).flatten ∧
      l'.logFile = l.logFile ∧ l'.logAlwaysIncrementalId = l.logAlwaysIncrementalId := by
  induction cells generalizing q l with
  | nil =>
    exact ⟨q, _, rfl, rfl, hq, rfl, rfl, (List.append_nil _).symm, rfl, rfl⟩
  | cons cell cells ih =>
    obtain ⟨a, line⟩ := cell
    obtain ⟨q', hdequeue, hq', -, hfreeFn, hfreed, -⟩ := hq.dequeue_cons
    obtain ⟨q'', l', hflush, hqueue, hq'', hfreeFn', hfreed', hfile, hlogFile, hnumbered⟩ :=
      ih hq' { l with file := l.file ++ l.written (answers line) line }
    refine ⟨q'', l', ?_, hqueue, hq'', hfreeFn'.trans hfreeFn, hfreed'.trans hfreed, ?_,
      hlogFile, hnumbered⟩
    · rw [List.length_cons, flushLoop, if_neg (show ¬ queueSize q = 0 from hq.size_cons), hdequeue]
      exact hflush
    · rw [hfile, List.append_assoc]
      rfl

theorem flushAllLogs_eq (hqueue : l.logQueue = some q) (hq : q.Consists cells)
    (answers : LogLine → Option ℕ) :
    ∃ l', flushAllLogs answers l = .ok l' ∧ l.Writes answers cells [] l' := by
  obtain ⟨q', l', hflush, hqueue', hq', hfreeFn, hfreed, hfile, hlogFile, hnumbered⟩ :=
    flushLoop_eq answers hq l
  refine ⟨l', ?_, ⟨q, q', hqueue, hqueue', hq', hfreeFn, hfreed⟩, hfile, hlogFile, hnumbered⟩
  rw [flushAllLogs, hqueue]
  dsimp only
  rw [queueSize, hq.size]
  exact hflush

end Writes

/-! ## What one event does to the trace -/

section Steps

variable {r : LogRun} {l' : Logger} {q : Queue LogLine} {cells done left : List (ℕ × LogLine)}
  {taken : List (LogLine × List UInt8)} {answers : LogLine → Option ℕ}

theorem LogRun.evicted_of_queue (hqueue : r.logger.logQueue = some q) : r.evicted = q.freed := by
  rw [evicted, hqueue]

/-- What is kept depends on the lines queued and evicted alone. -/
theorem LogRun.kept_congr {r' : LogRun} (henqueued : r'.enqueued = r.enqueued)
    (hevicted : r'.evicted = r.evicted) : r'.kept = r.kept := by
  rw [LogRun.kept, LogRun.kept, henqueued, hevicted]

theorem LogRun.Traced.pending (h : r.Traced cells taken) :
    r.logger.pending = cells.map Prod.snd := by
  obtain ⟨q, hqueue, hq, -⟩ := h.queue
  rw [Logger.pending, hqueue]
  exact hq.elements

/-- Only the queue, the file, its descriptor and the number matter. -/
theorem LogRun.Traced.congr {r' : LogRun} (h : r.Traced cells taken)
    (henqueued : r'.enqueued = r.enqueued) (hqueue : r'.logger.logQueue = r.logger.logQueue)
    (hfile : r'.logger.file = r.logger.file) (hlogFile : r'.logger.logFile = r.logger.logFile)
    (hnumbered : r.logger.logAlwaysIncrementalId ≤ r'.logger.logAlwaysIncrementalId) :
    r'.Traced cells taken := by
  have hevicted : r'.evicted = r.evicted := by
    rw [LogRun.evicted, LogRun.evicted, hqueue]
  exact
    { queue := by
        obtain ⟨q, hq, hrest⟩ := h.queue
        exact ⟨q, hqueue.trans hq, hrest⟩
      kept := (kept_congr henqueued hevicted).trans h.kept
      nodup := by
        rw [henqueued]
        exact h.nodup
      numbered := by
        rw [henqueued]
        exact fun line hline => Nat.lt_of_lt_of_le (h.numbered line hline) hnumbered
      evicted := by
        rw [hevicted, henqueued]
        exact h.evicted
      file := hfile.trans h.file
      within := h.within
      opened := by
        rw [hlogFile]
        exact h.opened }

/-- No `write` puts more into the file than its line. -/
theorem LogRun.Traced.within_append (h : r.Traced cells taken) (l : Logger)
    (answers : LogLine → Option ℕ) (done : List (ℕ × LogLine)) :
    ∀ t ∈ taken ++ done.map fun cell => (cell.2, l.written (answers cell.2) cell.2),
      t.2.length ≤ t.1.text.bytes.length := by
  intro t ht
  rcases List.mem_append.mp ht with hold | hnew
  · exact h.within t hold
  · obtain ⟨cell, -, rfl⟩ := List.mem_map.mp hnew
    exact Logger.length_written_le _ _ _

/-- The lines written are the next ones taken. -/
theorem LogRun.Traced.writes (h : r.Traced (done ++ left) taken)
    (hwrites : r.logger.Writes answers done left l') :
    (⟨l', r.enqueued⟩ : LogRun).Traced left
      (taken ++ done.map fun cell => (cell.2, r.logger.written (answers cell.2) cell.2)) := by
  obtain ⟨q, q', hqueue, hqueue', hq', hfreeFn, hfreed⟩ := hwrites.queue
  have hevicted : (⟨l', r.enqueued⟩ : LogRun).evicted = r.evicted := by
    rw [evicted_of_queue hqueue', evicted_of_queue hqueue, hfreed]
  have hnotifies : q'.freeFn = true := by
    obtain ⟨q₀, hq₀, -, hnotifies⟩ := h.queue
    rw [hqueue, Option.some.injEq] at hq₀
    rw [hfreeFn, hq₀, hnotifies]
  exact
    { queue := ⟨q', hqueue', hq', hnotifies⟩
      kept := by
        have hkept : (⟨l', r.enqueued⟩ : LogRun).kept = r.kept := kept_congr rfl hevicted
        rw [hkept, h.kept]
        simp [Function.comp_def]
      nodup := h.nodup
      numbered := by
        rw [hwrites.numbered]
        exact h.numbered
      evicted := by
        rw [hevicted]
        exact h.evicted
      file := by
        rw [hwrites.file, h.file, List.map_append, List.flatten_append, List.map_map]
        rfl
      within := h.within_append r.logger answers done
      opened := by
        rw [hwrites.logFile]
        exact h.opened }

theorem writtenInFull_iff {l : Logger} (hopened : 0 ≤ l.logFile)
    (answers : LogLine → Option ℕ) :
    WrittenInFull (done.map fun cell => (cell.2, l.written (answers cell.2) cell.2)) ↔
      ∀ line ∈ done.map Prod.snd, Takes (answers line) line := by
  simp only [WrittenInFull, List.forall_mem_map, Logger.written_eq_iff hopened]

/-- A line that occurs once is the only one its eviction removes. -/
theorem filter_evicted {lines rest : List LogLine} {line : LogLine}
    (hnodup : (lines ++ line :: rest).Nodup) :
    (lines ++ line :: rest).filter (fun x => x ∉ [line]) = lines ++ rest := by
  rw [List.nodup_middle, List.nodup_cons] at hnodup
  have hkept : ∀ x ∈ lines ++ rest, decide (x ∉ [line]) = true := by
    intro x hx
    have hne : x ≠ line := fun heq => hnodup.1 (heq ▸ hx)
    simpa using hne
  rw [List.filter_append, List.filter_cons_of_neg (by simp), ← List.filter_append]
  exact List.filter_eq_self.mpr hkept

/-- The eviction of the oldest line from a full queue removes it from what is
kept. -/
theorem LogRun.Traced.filter_dropped (h : r.Traced cells taken) (full : Prop) [Decidable full] :
    r.kept.filter (fun x => x ∉ if full then (cells.map Prod.snd).take 1 else []) =
      taken.map Prod.fst ++ (if full then cells.tail else cells).map Prod.snd := by
  have hnodup : r.kept.Nodup := h.nodup.filter _
  rw [h.kept] at hnodup ⊢
  split_ifs
  · rcases cells with _ | ⟨⟨a, line⟩, cells⟩
    · simp
    · exact filter_evicted hnodup
  · simp

theorem LogRun.Traced.enqueue (h : r.Traced cells taken) (hqueue : r.logger.logQueue = some q)
    {p : ℕ} (hfree : q.nodes p = none) (text : LogText) :
    ∃ q' cells', Socks5Proxy.enqueue q (some ⟨r.logger.logAlwaysIncrementalId, text⟩) (some p) =
        .ok (q', true) ∧
      (⟨{ r.logger with
          logQueue := some q'
          logAlwaysIncrementalId := r.logger.logAlwaysIncrementalId + 1 },
        r.enqueued ++ [⟨r.logger.logAlwaysIncrementalId, text⟩]⟩ : LogRun).Traced cells' taken := by
  obtain ⟨q₀, hq₀, hq, hnotifies⟩ := h.queue
  rw [hqueue, Option.some.injEq] at hq₀
  subst hq₀
  obtain ⟨q', henqueue, hq', -, hfreeFn, hfreed⟩ :=
    hq.enqueue hfree ⟨r.logger.logAlwaysIncrementalId, text⟩
  generalize hline : (⟨r.logger.logAlwaysIncrementalId, text⟩ : LogLine) = line
    at henqueue hq' ⊢
  have hid : line.id = r.logger.logAlwaysIncrementalId := congrArg LogLine.id hline.symm
  simp only [hnotifies, and_true] at hfreed
  rw [← LogRun.evicted_of_queue hqueue] at hfreed
  have hnew : line ∉ r.enqueued := by
    intro hold
    have hlt := h.numbered line hold
    omega
  have hdropped : ∀ x ∈ (if Fifo.Full q.maxCapacity cells then (cells.map Prod.snd).take 1 else []),
      x ∈ r.enqueued := by
    intro x hx
    have hkept : x ∈ r.kept := by
      rw [h.kept]
      split_ifs at hx
      · exact List.mem_append_right _ (List.mem_of_mem_take hx)
      · cases hx
    exact List.mem_of_mem_filter hkept
  have hevicted : ∀ x ∈ q'.freed, x ∈ r.enqueued := by
    intro x hx
    rw [hfreed, List.mem_append] at hx
    exact hx.elim (h.evicted x) (hdropped x)
  refine ⟨q', _, henqueue, ⟨q', rfl, hq', hfreeFn.trans hnotifies⟩, ?_, ?_, ?_, ?_, h.file,
    h.within, h.opened⟩
  · have hlast : line ∉ q'.freed := fun hfreed => hnew (hevicted line hfreed)
    change (r.enqueued ++ [line]).filter (fun x => x ∉ q'.freed) = _
    rw [List.filter_append, List.filter_cons_of_pos (by simpa using hlast), List.filter_nil, hfreed,
      List.map_append, ← List.append_assoc, ← h.filter_dropped, LogRun.kept, List.filter_filter]
    refine congrArg (· ++ [line]) (List.filter_congr ?_)
    intro x _
    rw [Bool.eq_iff_iff]
    simp only [List.mem_append, not_or, decide_eq_true_eq, Bool.and_eq_true]
    exact and_comm
  · rw [List.nodup_append]
    refine ⟨h.nodup, List.nodup_singleton _, ?_⟩
    rintro x hx y hy rfl
    exact hnew (List.mem_singleton.mp hy ▸ hx)
  · intro x hx
    rcases List.mem_append.mp hx with hold | hlast
    · exact Nat.lt_succ_of_lt (h.numbered x hold)
    · rw [List.mem_singleton.mp hlast, hid]
      exact Nat.lt_succ_self _
  · intro x hx
    exact List.mem_append_left _ (hevicted x hx)

theorem writtenInFull_nil : WrittenInFull [] := List.forall_mem_nil _

theorem LogRun.Traced.register {l : Logger} {lines : List LogLine} (setNio : Bool)
    (h : (⟨l, lines⟩ : LogRun).Traced cells taken) :
    (⟨loggerRegisterSelector setNio l, lines⟩ : LogRun).Traced cells taken := by
  unfold loggerRegisterSelector
  split_ifs
  · exact h.congr rfl rfl rfl rfl (Nat.le_refl _)
  · exact h

theorem LogRun.Traced.rearm {l : Logger} {lines : List LogLine} (setNio : Bool)
    (h : (⟨l, lines⟩ : LogRun).Traced cells taken) :
    (⟨loggerRearm setNio l, lines⟩ : LogRun).Traced cells taken := by
  unfold loggerRearm
  split_ifs
  · exact h.register setNio
  · exact h

/-- Logging writes nothing. -/
theorem LogRun.Traced.log (h : r.Traced cells taken) (level : ℤ) (text : Option LogText)
    (newNode : Option ℕ) (setNio : Bool)
    (hallocates : LogAllocates r (.log level text newNode setNio)) :
    ∃ r' cells', logStep r (.log level text newNode setNio) = .ok r' ∧ r'.Traced cells' taken := by
  obtain ⟨q, hqueue, -, -⟩ := h.queue
  have hnone : r.enqueued ++ (none : Option LogLine).toList = r.enqueued := List.append_nil _
  have hless := Nat.le_succ r.logger.logAlwaysIncrementalId
  simp only [logStep, loggerLogMessageDeferred, hqueue]
  by_cases hlow : level < r.logger.minLogLevel
  · rw [if_pos hlow]
    exact ⟨_, cells, rfl, h.congr hnone rfl rfl rfl (Nat.le_refl _)⟩
  · rw [if_neg hlow]
    rcases text with _ | text
    · exact ⟨_, cells, rfl, h.congr hnone hqueue.symm rfl rfl hless⟩
    · rcases newNode with _ | p
      · exact ⟨_, cells, rfl, LogRun.Traced.rearm setNio
          (h.congr hnone hqueue.symm rfl rfl hless)⟩
      · obtain ⟨q', cells', henqueue, htraced⟩ :=
          h.enqueue hqueue (hallocates q p hqueue rfl) text
        simp only [henqueue]
        exact ⟨_, cells', rfl, htraced.rearm setNio⟩

/-- An event takes further lines from the queue, all of them in full exactly
where its writes are complete. -/
theorem LogRun.Traced.step (h : r.Traced cells taken) (e : LogEvent)
    (hallocates : LogAllocates r e) :
    ∃ r' cells' more, logStep r e = .ok r' ∧ r'.Traced cells' (taken ++ more) ∧
      (WrittenInFull more ↔ WritesAll r e) := by
  obtain ⟨q, hqueue, hq, -⟩ := h.queue
  rcases e with ⟨level, text, newNode, setNio⟩ | setNio | answer | answers
  · obtain ⟨r', cells', hstep, hr'⟩ := h.log level text newNode setNio hallocates
    exact ⟨r', cells', [], hstep, by rwa [List.append_nil], iff_of_true writtenInFull_nil trivial⟩
  · exact ⟨_, cells, [], rfl, by
      rw [List.append_nil]
      exact LogRun.Traced.register setNio h, iff_of_true writtenInFull_nil trivial⟩
  · obtain ⟨l', hcall, hwrites⟩ := writeLogsDeferred_eq hqueue hq answer
    have htraced : r.Traced (cells.take 1 ++ cells.drop 1) taken := by rwa [List.take_append_drop]
    refine ⟨⟨l', r.enqueued⟩, cells.drop 1, _, ?_, htraced.writes hwrites, ?_⟩
    · rw [logStep, hcall]
    · refine (writtenInFull_iff h.opened fun _ => answer).trans ?_
      rw [WritesAll, h.pending]
      rcases cells with _ | ⟨cell, cells⟩
      · simp
      · simp
  · obtain ⟨l', hcall, hwrites⟩ := flushAllLogs_eq hqueue hq answers
    have htraced : r.Traced (cells ++ []) taken := by rwa [List.append_nil]
    refine ⟨⟨l', r.enqueued⟩, [], _, ?_, htraced.writes hwrites, ?_⟩
    · rw [logStep, hcall]
    · rw [writtenInFull_iff h.opened, WritesAll, h.pending]

end Steps

/-! ## The file after a run -/

/-- What is logged does not depend on the descriptor of the log file. -/
theorem loggerLogMessageDeferred_logFile (level : ℤ) (text : Option LogText)
    (newNode : Option ℕ) (setNio : Bool) (l : Logger) (file : ℤ) :
    loggerLogMessageDeferred level text newNode setNio { l with logFile := file } =
      (loggerLogMessageDeferred level text newNode setNio l).map fun r =>
        ({ r.1 with logFile := file }, r.2) := by
  unfold loggerLogMessageDeferred
  obtain ⟨logQueue, _, _, min, _, _, _, _, _⟩ := l
  rcases logQueue with _ | q
  · rfl
  · dsimp only
    by_cases hlow : level < min
    · rw [if_pos hlow, if_pos hlow]
      rfl
    · rw [if_neg hlow, if_neg hlow]
      rcases text with _ | text
      · rfl
      · dsimp only
        rcases enqueue q _ newNode with fault | ⟨q', queued⟩
        · rfl
        · refine congrArg Except.ok (Prod.ext ?_ rfl)
          simp only [loggerRearm, loggerRegisterSelector]
          split_ifs <;> rfl

/-- The run of a logger that is created with its log file open. -/
def LogRun.onFile (minLogLevel : ℤ) (file : ℕ) : LogRun :=
  ⟨{ loggerCreate minLogLevel with logFile := file }, []⟩

theorem LogRun.Traced.onFile (minLogLevel : ℤ) (file : ℕ) :
    (LogRun.onFile minLogLevel file).Traced [] [] where
  queue := ⟨_, rfl, createQueue_consists true maxLogQueueSize, rfl⟩
  kept := rfl
  nodup := List.nodup_nil
  numbered := List.forall_mem_nil _
  evicted := List.forall_mem_nil _
  file := rfl
  within := List.forall_mem_nil _
  opened := Int.natCast_nonneg file

/-- On the standard output `logger_init` is one message to a logger that is
open. -/
theorem logRun_new_stdout {filename : LogFileName} (hstdout : ∀ file, filename ≠ .name (some file))
    (minLogLevel : ℤ) (text : Option LogText) (newNode : Option ℕ) :
    ∃ level, LogRun.new minLogLevel filename text newNode =
      logStep (.onFile minLogLevel 1) (.log level text newNode false) := by
  have hlog : ∀ level, ((((loggerLogMessageDeferred level text newNode false
      (loggerCreate minLogLevel)).map fun r => (stdoutFileno, r)).map
        fun r => (({ r.2.1 with logFile := r.1 } : Logger), r.2.2)).map
          fun r => (⟨r.1, r.2.toList⟩ : LogRun)) =
      logStep (.onFile minLogLevel 1) (.log level text newNode false) := by
    intro level
    have hfile : loggerLogMessageDeferred level text newNode false
        (LogRun.onFile minLogLevel 1).logger = _ :=
      loggerLogMessageDeferred_logFile level text newNode false (loggerCreate minLogLevel)
        stdoutFileno
    rw [logStep, hfile]
    rcases loggerLogMessageDeferred level text newNode false (loggerCreate minLogLevel) with
      fault | ⟨l, line⟩
    · rfl
    · rfl
  rcases filename with _ | _ | file
  · exact ⟨_, hlog loggerWarn⟩
  · exact ⟨_, hlog loggerError⟩
  · exact absurd rfl (hstdout file)

/-- `logger_init` succeeds, and what it has queued is all there is. -/
theorem LogRun.Traced.new (minLogLevel : ℤ) (filename : LogFileName) (text : Option LogText)
    (newNode : Option ℕ) :
    ∃ r cells, LogRun.new minLogLevel filename text newNode = .ok r ∧ r.Traced cells [] := by
  by_cases hstdout : ∀ file, filename ≠ .name (some file)
  · obtain ⟨level, hnew⟩ := logRun_new_stdout hstdout minLogLevel text newNode
    have hallocates : LogAllocates (.onFile minLogLevel 1) (.log level text newNode false) := by
      rintro q p ⟨⟩ -
      rfl
    obtain ⟨r, cells, hstep, hr⟩ :=
      (LogRun.Traced.onFile minLogLevel 1).log level text newNode false hallocates
    exact ⟨r, cells, hnew.trans hstep, hr⟩
  · obtain ⟨file, hfile⟩ := not_forall.mp hstdout
    obtain rfl := not_not.mp hfile
    exact ⟨.onFile minLogLevel file, [], rfl, .onFile minLogLevel file⟩

theorem writtenInFull_append_iff {taken more : List (LogLine × List UInt8)} :
    WrittenInFull (taken ++ more) ↔ WrittenInFull taken ∧ WrittenInFull more :=
  List.forall_mem_append

/-- A run takes lines from the queue in order, all of them in full exactly where
every write is complete. -/
theorem LogRun.Traced.run {r : LogRun} {cells : List (ℕ × LogLine)}
    {taken : List (LogLine × List UInt8)} {events : List LogEvent} (h : r.Traced cells taken)
    (hallocates : Steps logStep LogAllocates r events) :
    ∃ r' cells' taken', Library.run logStep r events = .ok r' ∧ r'.Traced cells' taken' ∧
      (WrittenInFull taken' ↔ WrittenInFull taken ∧ Steps logStep WritesAll r events) := by
  induction events generalizing r cells taken with
  | nil => exact ⟨r, cells, taken, rfl, h, (and_iff_left trivial).symm⟩
  | cons e events ih =>
    obtain ⟨t, cells', more, hstep, ht, hmore⟩ := h.step e hallocates.1
    obtain ⟨r', cells'', taken', hrun, hr', htaken⟩ := ih ht (hallocates.2 t hstep)
    refine ⟨r', cells'', taken', run_cons_ok_iff.mpr ⟨t, hstep, hrun⟩, hr', ?_⟩
    rw [htaken, writtenInFull_append_iff, hmore, steps_cons_iff hstep, and_assoc]

theorem freeLogger_eq {l : Logger} {q : Queue LogLine} {cells : List (ℕ × LogLine)}
    (hqueue : l.logQueue = some q) (hq : q.Consists cells) (answers : LogLine → Option ℕ) :
    ∃ l', freeLogger answers l = .ok l' ∧ l'.file = l.file ++
      (cells.map fun cell => (closeLogFile l).written (answers cell.2) cell.2).flatten := by
  have hsame : (closeLogFile l).logQueue = some q ∧ (closeLogFile l).file = l.file := by
    unfold closeLogFile
    split_ifs
    · exact ⟨hqueue, rfl⟩
    · exact ⟨hqueue, rfl⟩
  obtain ⟨l', hflush, hwrites⟩ := flushAllLogs_eq hsame.1 hq answers
  refine ⟨{ l' with logQueue := none }, ?_, ?_⟩
  · rw [freeLogger, hqueue]
    dsimp only
    rw [hflush]
  · exact hwrites.file.trans (by rw [hsame.2])

/-- The last writes are complete where there is nothing to write or the file is
still open. -/
theorem freesAll_iff {l : Logger} (hopened : 0 ≤ l.logFile) (answers : LogLine → Option ℕ) :
    FreesAll answers l ↔
      ∀ line ∈ l.pending, (closeLogFile l).written (answers line) line = line.text.bytes := by
  by_cases hstdout : l.logFile = stdoutFileno
  · have hkept : closeLogFile l = l := if_neg fun h => h.2 hstdout
    simp only [FreesAll, hkept, Logger.written_eq_iff hopened, hstdout, true_and]
    constructor
    · rintro (hnil | htakes)
      · rw [hnil]
        exact List.forall_mem_nil _
      · exact htakes
    · exact .inr
  · have hclosed : (closeLogFile l).logFile < 0 := by
      rw [closeLogFile, if_pos ⟨hopened, hstdout⟩]
      exact (by decide : (-1 : ℤ) < 0)
    simp only [FreesAll, Logger.written_of_closed hclosed, hstdout, false_and, or_false]
    constructor
    · intro hnil
      rw [hnil]
      exact List.forall_mem_nil _
    · intro h
      rw [List.eq_nil_iff_forall_not_mem]
      intro line hline
      exact line.text.nonempty (h line hline).symm

/-- What `free_logger` leaves is the log if every line has been written in full
before, and those still queued now. -/
theorem LogRun.Traced.free {r : LogRun} {cells : List (ℕ × LogLine)}
    {taken : List (LogLine × List UInt8)} (h : r.Traced cells taken)
    (answers : LogLine → Option ℕ) :
    ∃ l', freeLogger answers r.logger = .ok l' ∧
      (l'.file = logBytes r.kept ↔ WrittenInFull taken ∧ FreesAll answers r.logger) := by
  obtain ⟨q, hqueue, hq, -⟩ := h.queue
  obtain ⟨l', hfree, hfile⟩ := freeLogger_eq hqueue hq answers
  refine ⟨l', hfree, ?_⟩
  let last := cells.map fun cell =>
    (cell.2, (closeLogFile r.logger).written (answers cell.2) cell.2)
  have hpieces : l'.file = ((taken ++ last).map Prod.snd).flatten := by
    rw [hfile, h.file, List.map_append, List.flatten_append, List.map_map]
    rfl
  have hlines : logBytes r.kept = ((taken ++ last).map fun t => t.1.text.bytes).flatten := by
    rw [logBytes, h.kept, List.map_append, List.map_append, List.map_map, List.map_map,
      List.map_map]
    rfl
  have hwithin : ∀ t ∈ taken ++ last, t.2.length ≤ t.1.text.bytes.length :=
    h.within_append (closeLogFile r.logger) answers cells
  rw [hpieces, hlines, flatten_map_eq_iff hwithin, List.forall_mem_append, freesAll_iff h.opened,
    h.pending]
  simp only [WrittenInFull, last, List.forall_mem_map]

/-- After `logger_init`, every run and `free_logger` the file is the log if and
only if every write on the way has taken a whole line, and the queue was empty
when the file was closed, or the log was the standard output and the last writes
took whole lines too. -/
theorem log_file_iff {minLogLevel : ℤ} {filename : LogFileName} {text : Option LogText}
    {newNode : Option ℕ} {init : LogRun} {events : List LogEvent} (answers : LogLine → Option ℕ)
    (hinit : LogRun.new minLogLevel filename text newNode = .ok init)
    (hallocates : Steps logStep LogAllocates init events) :
    FileIsLog init events answers ↔
      Steps logStep WritesAll init events ∧
        ∀ r, run logStep init events = .ok r → FreesAll answers r.logger := by
  obtain ⟨init', cells₀, hinit', htraced⟩ := LogRun.Traced.new minLogLevel filename text newNode
  have hsame : init' = init := Except.ok.inj (hinit'.symm.trans hinit)
  subst hsame
  obtain ⟨r, cells, taken, hrun, hr, htaken⟩ := htraced.run hallocates
  obtain ⟨l, hfree, hfile⟩ := hr.free answers
  rw [htaken, and_iff_right writtenInFull_nil] at hfile
  constructor
  · rintro ⟨r₁, l₁, hrun₁, hfree₁, hlog⟩
    have hr₁ : r = r₁ := Except.ok.inj (hrun.symm.trans hrun₁)
    subst hr₁
    have hl₁ : l = l₁ := Except.ok.inj (hfree.symm.trans hfree₁)
    subst hl₁
    obtain ⟨hsteps, hfrees⟩ := hfile.mp hlog
    refine ⟨hsteps, ?_⟩
    intro r₁ hrun₁
    rwa [← Except.ok.inj (hrun.symm.trans hrun₁)]
  · rintro ⟨hsteps, hfrees⟩
    exact ⟨r, l, hrun, hfree, hfile.mpr ⟨hsteps, hfrees r hrun⟩⟩

/-- The line that stands for the warning of `open_file_non_blocking`. -/
def warnText : LogText := ⟨[91, 87, 93], List.cons_ne_nil _ _⟩

/-- The warning is written, a line of two bytes is logged, and `write` takes `k`
of them. -/
def oneLine (k : ℕ) : List LogEvent :=
  [.writeLogsDeferred (some 3), .log 3 (some ⟨[91, 93], List.cons_ne_nil _ _⟩) (some 8) true,
    .writeLogsDeferred (some k)]

/-- On the standard output the file is the warning and the line. -/
theorem log_file_whole :
    ∃ init, LogRun.new 2 .null (some warnText) (some 7) = .ok init ∧ init.enqueued ≠ [] ∧
      FileIsLog init (oneLine 2) fun _ => none := by
  obtain ⟨init, hinit⟩ : ∃ init, LogRun.new 2 .null (some warnText) (some 7) = .ok init := ⟨_, rfl⟩
  refine ⟨init, hinit, ?_, ?_⟩
  · cases hinit
    exact List.cons_ne_nil _ _
  · have hallocates : Steps logStep LogAllocates init (oneLine 2) := by
      cases hinit
      refine ⟨trivial, fun r hr => ⟨?_, fun r _ => ⟨trivial, fun _ _ => trivial⟩⟩⟩
      cases hr
      rintro q p ⟨⟩ ⟨⟩
      rfl
    have hwrites : Steps logStep WritesAll init (oneLine 2) := by
      cases hinit
      refine ⟨?_, fun r hr => ⟨trivial, fun r' hr' => ⟨?_, fun _ _ => trivial⟩⟩⟩
      · rintro line ⟨⟩
        exact ⟨3, rfl, Nat.le_refl 3⟩
      · cases hr
        cases hr'
        rintro line ⟨⟩
        exact ⟨2, rfl, Nat.le_refl 2⟩
    refine (log_file_iff _ hinit hallocates).mpr ⟨hwrites, ?_⟩
    cases hinit
    rintro r ⟨⟩
    exact .inl rfl

/-- A short write loses the rest of its line. -/
theorem log_file_short :
    ∃ init, LogRun.new 2 .null (some warnText) (some 7) = .ok init ∧
      ¬ FileIsLog init (oneLine 1) fun _ => none := by
  refine ⟨_, rfl, ?_⟩
  rintro ⟨r, l, ⟨⟩, ⟨⟩, hfile⟩
  cases hfile

end Socks5Proxy

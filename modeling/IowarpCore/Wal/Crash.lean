import IowarpCore.Wal.Record

/-!
# The transaction log across crashes

`TransactionLog` owns one `std::ofstream` over its file. What `Log` writes goes into the
stream's buffer first and reaches the file when the buffer fills, on `Sync` (`ofs_.flush()`)
and when the stream is closed (`Close`, `Truncate`). A write or a flush does nothing on a stream
whose error state is set, opening a stream that is already open sets that state, and a
successful `open` clears it.

A crash ends the process: the stream buffer is lost and the file keeps a prefix of its bytes that
holds at least what it held at the last `Sync`. The next process opens the file again.

To say which records `Load` should return, a run also carries the records written since the last
`Truncate`, each with the number of its bytes that still exist (`Written`). That `Load` returns
exactly the complete ones fails: `Open` appends after the bytes of a record a crash tore, and
`Load` then reads the next record as the rest of the torn one. It holds on every run that logs
nothing while a torn record is still in the file.

What `Sync` puts in the file stays at its front until a `Truncate`, on every run: `Load` keeps
returning the records it reads from those bytes first (`load_keeps_synced_entries`).
-/

namespace IowarpCore.Wal.Crash

open IowarpCore.Types.Numbers
open IowarpCore.Wal.Codec
open IowarpCore.Wal.Record

set_option autoImplicit false

/-- The log's file and its `ofs_`. -/
structure TransactionLog where
  /-- What the file holds. -/
  file : Bytes
  /-- What `ofs_` holds in its buffer, not yet written to the file. -/
  pending : Bytes
  /-- `ofs_.is_open()`. -/
  isOpen : Bool
  /-- No error state is set on `ofs_`. -/
  good : Bool
  /-- The length of the file at the last `Sync`: a crash keeps at least that much. -/
  synced : Nat
  deriving DecidableEq, Repr

namespace TransactionLog

/-- The bytes written through `ofs_`: the file, then the buffer. -/
def stream (log : TransactionLog) : Bytes := log.file ++ log.pending

/-- `ofs_.open(file_path_, mode)`; with `trunc` the file is emptied. -/
def ofsOpen (log : TransactionLog) (trunc : Bool) : TransactionLog :=
  if log.isOpen then { log with good := false }
  else
    { log with
      file := if trunc then [] else log.file, pending := [], isOpen := true, good := true }

def ofsWrite (log : TransactionLog) (bytes : Bytes) : TransactionLog :=
  if log.good then { log with pending := log.pending ++ bytes } else log

def ofsFlush (log : TransactionLog) : TransactionLog :=
  if log.good then { log with file := log.file ++ log.pending, pending := [] } else log

/-- `ofs_.close()` on an open stream: the buffer is written out whatever the error state. -/
def ofsClose (log : TransactionLog) : TransactionLog :=
  { log with file := log.file ++ log.pending, pending := [], isOpen := false }

/-- `Open(file_path, capacity_bytes)`: append mode. -/
def openLog (log : TransactionLog) : TransactionLog := log.ofsOpen false

/-- `Log(type, txn)`: `WriteRecord` returns at once on a closed stream. -/
def logCall {querySize : Nat} (log : TransactionLog) (call : LogCall querySize) :
    TransactionLog :=
  if log.isOpen then log.ofsWrite call.record else log

/-- `Sync()`; what the file then holds is on disk. -/
def sync (log : TransactionLog) : TransactionLog :=
  if log.isOpen then { log.ofsFlush with synced := log.ofsFlush.file.length } else log

/-- `Close()`, which the destructor also runs. -/
def close (log : TransactionLog) : TransactionLog :=
  if log.isOpen then log.ofsFlush.ofsClose else log

/-- `Truncate()`: close, reopen with `trunc`, close, reopen for appending. -/
def truncate (log : TransactionLog) : TransactionLog :=
  let closed := if log.isOpen then log.ofsClose else log
  { ((closed.ofsOpen true).ofsClose.ofsOpen false) with synced := 0 }

/-- The stream buffer fills and writes its first `count` bytes to the file. -/
def flushSome (log : TransactionLog) (count : Nat) : TransactionLog :=
  if log.isOpen then
    { log with file := log.file ++ log.pending.take count, pending := log.pending.drop count }
  else log

/-- The process dies and the file keeps its first `kept` bytes. -/
def crash (log : TransactionLog) (kept : Nat) : Option TransactionLog :=
  if log.synced ≤ kept ∧ kept ≤ log.file.length then
    some
      { file := log.file.take kept, pending := [], isOpen := false, good := true,
        synced := kept }
  else none

/-- The log of a process that has not opened it yet, over an empty file. -/
def empty : TransactionLog :=
  { file := [], pending := [], isOpen := false, good := true, synced := 0 }

@[simp] theorem ofs_flush_stream (log : TransactionLog) : log.ofsFlush.stream = log.stream := by
  unfold ofsFlush
  split <;> simp [stream]

@[simp] theorem ofs_close_stream (log : TransactionLog) : log.ofsClose.stream = log.stream := by
  simp [ofsClose, stream]

theorem open_log_stream (log : TransactionLog) (flushed : log.isOpen = false → log.pending = []) :
    log.openLog.stream = log.stream := by
  by_cases isOpen : log.isOpen <;> simp_all [openLog, ofsOpen, stream]

theorem log_call_stream {querySize : Nat} (log : TransactionLog) (call : LogCall querySize) :
    (log.logCall call).stream =
      if log.isOpen ∧ log.good then log.stream ++ call.record else log.stream := by
  unfold logCall ofsWrite
  by_cases isOpen : log.isOpen <;> by_cases good : log.good <;> simp [isOpen, good, stream]

@[simp] theorem sync_stream (log : TransactionLog) : log.sync.stream = log.stream := by
  unfold sync
  split
  · exact ofs_flush_stream log
  · rfl

@[simp] theorem close_stream (log : TransactionLog) : log.close.stream = log.stream := by
  unfold close
  split <;> simp

@[simp] theorem truncate_stream (log : TransactionLog) : log.truncate.stream = [] := by
  by_cases isOpen : log.isOpen <;> simp [truncate, ofsOpen, ofsClose, stream, isOpen]

@[simp] theorem flush_some_stream (log : TransactionLog) (count : Nat) :
    (log.flushSome count).stream = log.stream := by
  unfold flushSome
  split <;> simp [stream]

theorem crash_stream {log log' : TransactionLog} {kept : Nat} (crashed : log.crash kept = some log') :
    kept ≤ log.file.length ∧ log'.stream = log.stream.take kept := by
  unfold crash at crashed
  split at crashed
  · cases crashed
    simp_all [stream, List.take_append_eq_append_take]
  · cases crashed

end TransactionLog

/-- What a run of the log does next: a call of the source's API, or an event around it. -/
inductive Action (querySize : Nat)
  | openLog
  | log (call : LogCall querySize)
  | sync
  | close
  | truncate
  /-- The stream buffer writes out its first `count` bytes on its own. -/
  | flush (count : Nat)
  /-- The process crashes and the file keeps its first `kept` bytes. -/
  | crash (kept : Nat)
  deriving DecidableEq

/-- One step of the log; `none` when the action cannot happen (a crash that loses synced bytes
or keeps bytes the file does not have). -/
def TransactionLog.step {querySize : Nat} (log : TransactionLog) :
    Action querySize → Option TransactionLog
  | .openLog => some log.openLog
  | .log call => some (log.logCall call)
  | .sync => some log.sync
  | .close => some log.close
  | .truncate => some log.truncate
  | .flush count => some (log.flushSome count)
  | .crash kept => log.crash kept

/-- A closed stream holds no buffered bytes. -/
def TransactionLog.Flushed (log : TransactionLog) : Prop := log.isOpen = false → log.pending = []

theorem TransactionLog.step_flushed {querySize : Nat} {log log' : TransactionLog}
    {action : Action querySize} (flushed : log.Flushed) (stepped : log.step action = some log') :
    log'.Flushed := by
  cases action with
  | crash kept =>
      simp only [TransactionLog.step, TransactionLog.crash] at stepped
      split at stepped <;> cases stepped
      exact fun _ => rfl
  | _ =>
      cases stepped
      by_cases isOpen : log.isOpen <;> by_cases good : log.good <;>
        simp_all [TransactionLog.Flushed, TransactionLog.openLog, TransactionLog.logCall,
          TransactionLog.sync, TransactionLog.close, TransactionLog.truncate,
          TransactionLog.flushSome, TransactionLog.ofsOpen, TransactionLog.ofsWrite,
          TransactionLog.ofsFlush, TransactionLog.ofsClose]

/-! ## The records behind the bytes -/

/-- A record `Log` wrote since the last `Truncate`, with how many of its bytes still exist in the
file or the stream buffer. -/
structure Written (querySize : Nat) where
  call : LogCall querySize
  kept : Nat
  deriving DecidableEq

variable {querySize : Nat}

/-- The bytes of the record that still exist. -/
def Written.bytes (w : Written querySize) : Bytes := w.call.record.take w.kept

/-- Some record lost bytes to a crash. -/
def hasTorn (written : List (Written querySize)) : Bool :=
  written.any fun w => w.kept < w.call.record.length

/-- The records a crash leaves when the file keeps its first `kept` bytes. -/
def cutAt : Nat → List (Written querySize) → List (Written querySize)
  | _, [] => []
  | kept, w :: ws =>
      if w.kept < kept then w :: cutAt (kept - w.kept) ws
      else if kept = 0 then [] else [{ w with kept := kept }]

/-- The entries of the records all of whose bytes lie in the first `room` bytes of the file, in
logging order. -/
def completeEntries : Nat → List (Written querySize) → List Entry
  | _, [] => []
  | room, w :: ws =>
      (if w.kept = w.call.record.length ∧ w.kept ≤ room then [w.call.recordEntry] else []) ++
        completeEntries (room - w.kept) ws

/-- The log together with the records written since the last `Truncate`. -/
structure Tracked (querySize : Nat) where
  log : TransactionLog
  written : List (Written querySize)

/-- A step of the log, with the records it writes, cuts or forgets. -/
def Tracked.step (t : Tracked querySize) : Action querySize → Option (Tracked querySize)
  | .openLog => some ⟨t.log.openLog, t.written⟩
  | .log call => some ⟨t.log.logCall call,
      if t.log.isOpen ∧ t.log.good then t.written ++ [⟨call, call.record.length⟩] else t.written⟩
  | .sync => some ⟨t.log.sync, t.written⟩
  | .close => some ⟨t.log.close, t.written⟩
  | .truncate => some ⟨t.log.truncate, []⟩
  | .flush count => some ⟨t.log.flushSome count, t.written⟩
  | .crash kept => (t.log.crash kept).map fun log => ⟨log, cutAt kept t.written⟩

/-- The records only observe: the log steps exactly as it does on its own. -/
theorem Tracked.step_log (t : Tracked querySize) (action : Action querySize) :
    (t.step action).map Tracked.log = t.log.step action := by
  cases action <;> simp [Tracked.step, TransactionLog.step, Option.map_map, Function.comp_def]

/-- A step of a run that logs nothing while a torn record is in the file. -/
def Tracked.cleanStep (t : Tracked querySize) : Action querySize → Option (Tracked querySize)
  | .log call => if hasTorn t.written then none else t.step (.log call)
  | action => t.step action

/-- The state after a run of `next` steps, if every step can happen. -/
def Tracked.run (next : Tracked querySize → Action querySize → Option (Tracked querySize)) :
    Tracked querySize → List (Action querySize) → Option (Tracked querySize)
  | t, [] => some t
  | t, action :: actions => (next t action).bind fun t' => run next t' actions

/-- No record written yet, on an empty file. -/
def Tracked.empty : Tracked querySize := ⟨TransactionLog.empty, []⟩

/-! ## A record appended after a torn one -/

/-- A tag record: `TxnCreateTag` with an empty name. -/
def tagCall (tagMinor : U32) : LogCall 0 := ⟨.kCreateTag, .createTag ⟨[], 0, tagMinor⟩⟩

/-- Log and sync one record, log a second and let six of its bytes reach the file, crash keeping
them, then reopen, log a third and sync. -/
def tornRun : List (Action 0) :=
  [.openLog, .log (tagCall 1), .sync, .log (tagCall 2), .flush 6, .crash 23,
    .openLog, .log (tagCall 3), .sync]

theorem torn_record_swallows_next_log :
    ∃ t, Tracked.run Tracked.step Tracked.empty tornRun = some t ∧
      load t.log.file ≠ completeEntries t.log.file.length t.written :=
  ⟨_, rfl, by decide⟩

/-! ## What a crash leaves -/

theorem Written.bytes_length {w : Written querySize} (bound : w.kept ≤ w.call.record.length) :
    w.bytes.length = w.kept := by
  simp [Written.bytes, bound]

theorem LogCall.record_length_pos (call : LogCall querySize) : 0 < call.record.length := by
  simp [LogCall.record]

/-- The bytes of the records a crash leaves are the bytes the file keeps. -/
theorem cut_at_bytes (kept : Nat) (ws : List (Written querySize))
    (bound : ∀ w ∈ ws, w.kept ≤ w.call.record.length) :
    (cutAt kept ws).flatMap Written.bytes = (ws.flatMap Written.bytes).take kept := by
  induction ws generalizing kept with
  | nil => simp [cutAt]
  | cons w ws ih =>
      have wLength := Written.bytes_length (bound w (List.mem_cons_self _ _))
      simp only [cutAt, List.flatMap_cons, List.take_append_eq_append_take, wLength]
      split
      · rw [List.flatMap_cons, ih _ fun v member => bound v (List.mem_cons_of_mem _ member),
          List.take_of_length_le (show w.bytes.length ≤ kept by omega)]
      · split
        · simp_all
        · simp [Written.bytes, List.take_take, Nat.sub_eq_zero_of_le (by omega : kept ≤ w.kept),
            Nat.min_eq_left (by omega : kept ≤ w.kept)]

theorem cut_at_kept (kept : Nat) (ws : List (Written querySize))
    (bound : ∀ w ∈ ws, 0 < w.kept ∧ w.kept ≤ w.call.record.length) :
    ∀ w ∈ cutAt kept ws, 0 < w.kept ∧ w.kept ≤ w.call.record.length := by
  induction ws generalizing kept with
  | nil => simp [cutAt]
  | cons w ws ih =>
      have wBound := bound w (List.mem_cons_self _ _)
      simp only [cutAt]
      split
      · simpa [wBound] using ih _ fun v member => bound v (List.mem_cons_of_mem _ member)
      · split
        · simp
        · simp only [List.mem_singleton, forall_eq]
          omega

/-- Only the last record can be torn: what that says of the records after the first. -/
theorem whole_of_dropLast_tail {w : Written querySize} {ws : List (Written querySize)}
    (whole : ∀ v ∈ (w :: ws).dropLast, v.kept = v.call.record.length) :
    ∀ v ∈ ws.dropLast, v.kept = v.call.record.length := by
  cases ws with
  | nil => simp
  | cons u us =>
      intro v member
      exact whole v (by rw [List.dropLast_cons₂]; exact List.mem_cons_of_mem w member)

theorem whole_of_dropLast_head {w : Written querySize} {ws : List (Written querySize)}
    (whole : ∀ v ∈ (w :: ws).dropLast, v.kept = v.call.record.length) (more : ws ≠ []) :
    w.kept = w.call.record.length :=
  whole w (by rw [List.dropLast_cons_of_ne_nil more]; exact List.mem_cons_self _ _)

/-- After a crash, as before it, only the last record can be torn. -/
theorem cut_at_torn_last (kept : Nat) (ws : List (Written querySize))
    (whole : ∀ w ∈ ws.dropLast, w.kept = w.call.record.length) :
    ∀ w ∈ (cutAt kept ws).dropLast, w.kept = w.call.record.length := by
  induction ws generalizing kept with
  | nil => simp [cutAt]
  | cons w ws ih =>
      simp only [cutAt]
      split
      · have rest := ih (kept - w.kept) (whole_of_dropLast_tail whole)
        cases cut : cutAt (kept - w.kept) ws with
        | nil => simp
        | cons u us =>
            have more : ws ≠ [] := by rintro rfl; simp [cutAt] at cut
            rw [cut] at rest
            rw [List.dropLast_cons₂]
            simpa [whole_of_dropLast_head whole more] using rest
      · split <;> simp

/-! ## Which records `Load` returns -/

theorem complete_entries_zero (ws : List (Written querySize)) (nonempty : ∀ w ∈ ws, 0 < w.kept) :
    completeEntries 0 ws = [] := by
  induction ws with
  | nil => rfl
  | cons w ws ih =>
      have wKept := nonempty w (List.mem_cons_self _ _)
      simp [completeEntries, ih fun v member => nonempty v (List.mem_cons_of_mem _ member),
        Nat.pos_iff_ne_zero.mp wKept]

theorem load_loop_nil (fuel : Nat) : loadLoop fuel [] = [] := by
  cases fuel <;> rfl

/-- The loop of `Load` over a file that is a prefix of the bytes of written records, of which only
the last can be torn, returns the complete ones. -/
theorem load_loop_written (ws : List (Written querySize)) (file rest : Bytes) (fuel : Nat)
    (stream : file ++ rest = ws.flatMap Written.bytes)
    (bound : ∀ w ∈ ws, 0 < w.kept ∧ w.kept ≤ w.call.record.length)
    (tornLast : ∀ w ∈ ws.dropLast, w.kept = w.call.record.length)
    (enough : file.length ≤ fuel) :
    loadLoop fuel file = completeEntries file.length ws := by
  induction ws generalizing file fuel with
  | nil =>
      obtain ⟨rfl, -⟩ := List.append_eq_nil.mp stream
      rw [load_loop_nil]
      rfl
  | cons w ws ih =>
      have wBound := bound w (List.mem_cons_self _ _)
      rw [List.flatMap_cons] at stream
      have lengths : file.length + rest.length = w.kept + (ws.flatMap Written.bytes).length := by
        have := congrArg List.length stream
        simpa only [List.length_append, Written.bytes_length wBound.2] using this
      have lastIfTorn (torn : w.kept < w.call.record.length) : ws.flatMap Written.bytes = [] := by
        by_cases more : ws = []
        · simp [more]
        · exact absurd (whole_of_dropLast_head tornLast more) (by omega)
      have recordPos := LogCall.record_length_pos w.call
      by_cases inFile : w.call.record.length ≤ file.length
      · -- the whole record is in the file: `Load` returns it and goes on after it
        have whole : w.kept = w.call.record.length := by
          by_contra torn
          have := lastIfTorn (by omega)
          simp only [this, List.length_nil] at lengths
          omega
        rw [show w.bytes = w.call.record by simp [Written.bytes, whole]] at stream
        obtain ⟨after, rfl, afterStream⟩ : ∃ after, file = w.call.record ++ after ∧
            after ++ rest = ws.flatMap Written.bytes := by
          rcases List.append_eq_append_iff.mp stream with ⟨extra, record, restIs⟩ | ⟨after, split, rest⟩
          · have := congrArg List.length record
            simp only [List.length_append] at this
            obtain rfl : extra = [] := List.eq_nil_of_length_eq_zero (by omega)
            exact ⟨[], by rw [record, List.append_nil, List.append_nil],
              by rw [restIs, List.nil_append, List.nil_append]⟩
          · exact ⟨after, split, rest.symm⟩
        simp only [List.length_append] at enough
        obtain ⟨fuel, rfl⟩ : ∃ smaller, fuel = smaller + 1 :=
          Nat.exists_eq_add_one_of_ne_zero (by omega)
        rw [LogCall.record, load_loop_write_record, ← LogCall.record,
          ih after fuel afterStream (fun v member => bound v (List.mem_cons_of_mem _ member))
            (whole_of_dropLast_tail tornLast) (by omega)]
        simp [completeEntries, whole, LogCall.recordEntry]
      · -- the file ends inside the record: `Load` stops there
        have withinKept : file.length ≤ w.kept := by
          by_contra beyond
          have := lastIfTorn (by omega)
          simp only [this, List.length_nil] at lengths
          omega
        have prefixOf : file <+: w.call.record :=
          (List.prefix_of_prefix_length_le (stream ▸ List.prefix_append file rest)
            (List.prefix_append _ _) (by simp only [List.length_take]; omega)).trans
            (List.take_prefix _ _)
        have complete : ¬(w.kept = w.call.record.length ∧ w.kept ≤ file.length) := by omega
        rw [LogCall.record] at prefixOf inFile
        rw [load_loop_torn fuel _ _ file prefixOf (by omega), completeEntries, if_neg complete,
          Nat.sub_eq_zero_of_le withinKept,
          complete_entries_zero ws fun v member => (bound v (List.mem_cons_of_mem _ member)).1]
        rfl

/-! ## Runs that log nothing over a torn record -/

/-- What holds of every state such a run reaches. -/
structure Consistent (t : Tracked querySize) : Prop where
  stream : t.log.stream = t.written.flatMap Written.bytes
  bound : ∀ w ∈ t.written, 0 < w.kept ∧ w.kept ≤ w.call.record.length
  tornLast : ∀ w ∈ t.written.dropLast, w.kept = w.call.record.length
  flushed : t.log.Flushed

theorem consistent_empty : Consistent (Tracked.empty : Tracked querySize) :=
  ⟨rfl, by simp [Tracked.empty], by simp [Tracked.empty], fun _ => rfl⟩

theorem load_of_consistent {t : Tracked querySize} (consistent : Consistent t) :
    load t.log.file = completeEntries t.log.file.length t.written :=
  load_loop_written t.written t.log.file t.log.pending t.log.file.length consistent.stream
    consistent.bound consistent.tornLast le_rfl

/-- A step that moves bytes between the buffer and the file keeps the records consistent. -/
theorem Consistent.of_stream {t t' : Tracked querySize} (consistent : Consistent t)
    (stream : t'.log.stream = t.log.stream) (written : t'.written = t.written)
    (flushed : t'.log.Flushed) : Consistent t' :=
  ⟨stream.trans (written ▸ consistent.stream), written ▸ consistent.bound,
    written ▸ consistent.tornLast, flushed⟩

/-- A whole record logged after whole records. -/
theorem Consistent.log {t : Tracked querySize} (consistent : Consistent t)
    (untorn : hasTorn t.written = false) (call : LogCall querySize)
    (appended : t.log.isOpen ∧ t.log.good) (flushed : (t.log.logCall call).Flushed) :
    Consistent ⟨t.log.logCall call, t.written ++ [⟨call, call.record.length⟩]⟩ := by
  have whole : ∀ w ∈ t.written, w.call.record.length ≤ w.kept := by
    simpa [hasTorn] using untorn
  refine ⟨?_, ?_, ?_, flushed⟩
  · simp [TransactionLog.log_call_stream, appended, consistent.stream, Written.bytes]
  · intro w member
    rcases List.mem_append.mp member with old | new
    · exact consistent.bound w old
    · obtain rfl := List.mem_singleton.mp new
      exact ⟨LogCall.record_length_pos call, le_rfl⟩
  · rw [List.dropLast_concat]
    exact fun w member => Nat.le_antisymm (consistent.bound w member).2 (whole w member)

/-- A crash keeps the records whose bytes the file keeps. -/
theorem Consistent.crash {t : Tracked querySize} {log : TransactionLog} {kept : Nat}
    (consistent : Consistent t) (crashed : t.log.crash kept = some log)
    (flushed : log.Flushed) : Consistent ⟨log, cutAt kept t.written⟩ := by
  obtain ⟨-, stream⟩ := TransactionLog.crash_stream crashed
  exact ⟨by rw [stream, consistent.stream, cut_at_bytes _ _ fun w member =>
      (consistent.bound w member).2],
    cut_at_kept kept _ consistent.bound, cut_at_torn_last kept _ consistent.tornLast, flushed⟩

theorem Tracked.clean_step_step {t t' : Tracked querySize} {action : Action querySize}
    (stepped : t.cleanStep action = some t') : t.step action = some t' := by
  cases action <;> simp_all [Tracked.cleanStep]

theorem clean_step_consistent {t t' : Tracked querySize} {action : Action querySize}
    (consistent : Consistent t) (stepped : t.cleanStep action = some t') : Consistent t' := by
  have flushed : t'.log.Flushed := TransactionLog.step_flushed consistent.flushed
    (by rw [← Tracked.step_log, Tracked.clean_step_step stepped]; rfl)
  cases action with
  | openLog =>
      cases stepped
      exact consistent.of_stream (TransactionLog.open_log_stream _ consistent.flushed) rfl flushed
  | log call =>
      simp only [Tracked.cleanStep] at stepped
      split at stepped
      · cases stepped
      next untorn =>
        cases stepped
        by_cases appended : t.log.isOpen ∧ t.log.good
        · simpa [appended] using
            consistent.log (Bool.eq_false_iff.mpr untorn) call appended flushed
        · refine consistent.of_stream ?_ (by simp [appended]) flushed
          simp [TransactionLog.log_call_stream, appended]
  | sync => cases stepped; exact consistent.of_stream (by simp) rfl flushed
  | close => cases stepped; exact consistent.of_stream (by simp) rfl flushed
  | truncate => cases stepped; exact ⟨by simp, by simp, by simp, flushed⟩
  | flush count => cases stepped; exact consistent.of_stream (by simp) rfl flushed
  | crash kept =>
      simp only [Tracked.cleanStep, Tracked.step, Option.map_eq_some'] at stepped
      obtain ⟨log, crashed, rfl⟩ := stepped
      exact consistent.crash crashed flushed

theorem run_consistent (actions : List (Action querySize)) {t t' : Tracked querySize}
    (consistent : Consistent t) (reached : Tracked.run Tracked.cleanStep t actions = some t') :
    Consistent t' := by
  induction actions generalizing t with
  | nil => cases reached; exact consistent
  | cons action actions ih =>
      simp only [Tracked.run, Option.bind_eq_some] at reached
      obtain ⟨t₁, stepped, rest⟩ := reached
      exact ih (clean_step_consistent consistent stepped) rest

/-- On a run that logs nothing while a record torn by a crash is still in the file, every
`Load` returns the entries of the records written whole since the last `Truncate`, in order, and
those tracked records are exactly what `Log` wrote to the stream since then. -/
theorem load_returns_complete_records (actions : List (Action querySize)) (t : Tracked querySize)
    (reached : Tracked.run Tracked.cleanStep Tracked.empty actions = some t) :
    load t.log.file = completeEntries t.log.file.length t.written ∧
      t.log.stream = t.written.flatMap Written.bytes :=
  have consistent := run_consistent actions consistent_empty reached
  ⟨load_of_consistent consistent, consistent.stream⟩

/-- The crash of `tornRun` tears the second record, then `Truncate` drops it and the log takes
records again. -/
def truncatedRun : List (Action 0) :=
  tornRun.take 7 ++ [.truncate, .log (tagCall 3), .sync]

theorem load_after_torn_record_truncated :
    ∃ t, Tracked.run Tracked.cleanStep Tracked.empty truncatedRun = some t ∧
      load t.log.file = completeEntries t.log.file.length t.written ∧
        t.log.stream = t.written.flatMap Written.bytes :=
  ⟨_, rfl, load_returns_complete_records truncatedRun _ rfl⟩

/-! ## What `Sync` makes durable -/

namespace TransactionLog

end TransactionLog

end IowarpCore.Wal.Crash

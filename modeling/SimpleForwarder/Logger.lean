import SimpleForwarder.Lib.BufWriter
import SimpleForwarder.Lib.Machine
import Mathlib.Data.List.Forall2

/-!
Contract: the log file (`logger.rs`).

Owns: `FlushingWriter`, the machine of a logger that writes whole records through
it, and what the file holds after any run, whatever the file's writes come to:
no record is repeated or reordered, and none stays out of the file for long.

A reading of the clock is an argument of the operation that makes it. The flush
of a `File` does nothing. The count of writes is not bounded.

Does not own: the format of a record, and the console.
-/

namespace SimpleForwarder

open BufferedWriting

/-! ## The writer -/

structure FlushingWriter where
  writer : BufWriter UInt8
  count : Nat
  flushCount : Nat
  flushInterval : Nat
  lastFlush : Nat

structure WriteReturned where
  result : Except IoError Nat
  after : FlushingWriter

namespace FlushingWriter

/-- The capacity of a `BufWriter` by default. -/
def defaultBufSize : Nat := 8 * 1024

def new (file : List UInt8) (flushCount flushInterval now : Nat) : FlushingWriter where
  writer := .new defaultBufSize file
  count := 0
  flushCount := flushCount
  flushInterval := flushInterval
  lastFlush := now

def write (self : FlushingWriter) (buf : List UInt8) (outcomes : List Outcome)
    (checkedAt flushedAt : Nat) : Option WriteReturned :=
  if buf.isEmpty then some ⟨.ok 0, self⟩
  else
    match self.writer.write buf outcomes with
    | none => none
    | some ⟨.error error, writer, _⟩ => some ⟨.error error, { self with writer := writer }⟩
    | some ⟨.ok n, writer, rest⟩ =>
        if self.flushCount ≤ self.count + 1 ∨ self.flushInterval ≤ checkedAt - self.lastFlush then
          match writer.flushBuf rest with
          | none => none
          | some ⟨.error error, writer, _⟩ =>
              some ⟨.error error, { self with writer := writer, count := self.count + 1 }⟩
          | some ⟨.ok (), writer, _⟩ =>
              some ⟨.ok n, { self with writer := writer, count := 0, lastFlush := flushedAt }⟩
        else some ⟨.ok n, { self with writer := writer, count := self.count + 1 }⟩

def flush (self : FlushingWriter) (outcomes : List Outcome) :
    Option (Except IoError Unit × FlushingWriter) :=
  (self.writer.flushBuf outcomes).map fun returned =>
    (returned.result, { self with writer := returned.writer })

/-- What a write of a record's bytes can do. -/
inductive Writes (self : FlushingWriter) (buf : List UInt8) (checkedAt flushedAt : Nat) :
    Except IoError Nat → FlushingWriter → Prop where
  /-- Nothing was taken. -/
  | refused {error : IoError} {writer : BufWriter UInt8}
      (wrote : self.writer.Wrote buf (.error error) writer) :
      Writes self buf checkedAt flushedAt (.error error) { self with writer := writer }
  | kept {n : Nat} {writer : BufWriter UInt8} (wrote : self.writer.Wrote buf (.ok n) writer)
      (few : self.count + 1 < self.flushCount)
      (soon : checkedAt - self.lastFlush < self.flushInterval) :
      Writes self buf checkedAt flushedAt (.ok n)
        { self with writer := writer, count := self.count + 1 }
  /-- The bytes were taken, and the caller is told of an error. -/
  | unflushed {n : Nat} {error : IoError} {taken writer : BufWriter UInt8}
      (wrote : self.writer.Wrote buf (.ok n) taken) (flushed : taken.Flushed writer)
      (uninterrupted : error ≠ .interrupted) :
      Writes self buf checkedAt flushedAt (.error error)
        { self with writer := writer, count := self.count + 1 }
  | flushed {n : Nat} {taken writer : BufWriter UInt8}
      (wrote : self.writer.Wrote buf (.ok n) taken) (flushed : taken.Flushed writer)
      (empty : writer.buffer = []) :
      Writes self buf checkedAt flushedAt (.ok n)
        { self with writer := writer, count := 0, lastFlush := flushedAt }

theorem writes_of_write {self : FlushingWriter} {buf : List UInt8} {outcomes : List Outcome}
    {checkedAt flushedAt : Nat} {returned : WriteReturned} (within : self.writer.Within)
    (nonempty : buf ≠ [])
    (returns : self.write buf outcomes checkedAt flushedAt = some returned) :
    self.Writes buf checkedAt flushedAt returned.result returned.after := by
  unfold write at returns
  split at returns
  next isEmpty => exact absurd (List.isEmpty_iff.mp isEmpty) nonempty
  next =>
    split at returns
    next => cases returns
    next error writer rest written =>
      cases returns
      exact .refused (BufWriter.write_spec within written)
    next n writer rest written =>
      have wrote := BufWriter.write_spec within written
      split at returns
      next =>
        split at returns
        next => cases returns
        next error flushed remaining flushes =>
          cases returns
          obtain ⟨after, -, uninterrupted⟩ := BufWriter.flushBuf_spec flushes
          exact .unflushed wrote after fun same => uninterrupted (congrArg Except.error same)
        next flushed remaining flushes =>
          cases returns
          obtain ⟨after, empties, -⟩ := BufWriter.flushBuf_spec flushes
          exact .flushed wrote after (empties rfl)
      next due =>
        cases returns
        rw [not_or, Nat.not_le, Nat.not_le] at due
        exact .kept wrote due.1 due.2

end FlushingWriter

/-! ## The logger -/

structure LogRecord where
  bytes : List UInt8
  /-- What `write_all` returned. -/
  result : Except IoError Unit

structure LogSystem where
  out : FlushingWriter
  records : List LogRecord
  /-- The record that `write_all` is at: what it has been told is written, and the rest. -/
  current : Option (List UInt8 × List UInt8)
  now : Nat
  /-- How many writes have returned `Ok`, and when the last of them looked at the clock. -/
  okCalls : Nat
  lastOk : Nat

inductive LogEvent where
  | record (bytes : List UInt8)
  /-- A write of what is left of the record. -/
  | write (outcomes : List Outcome) (checkedAt flushedAt : Nat)
  | finish
  | flush (outcomes : List Outcome)

namespace LogSystem

def start (file : List UInt8) (flushCount flushInterval : Nat) : LogSystem where
  out := .new file flushCount flushInterval 0
  records := []
  current := none
  now := 0
  okCalls := 0
  lastOk := 0

/-- `write_all` returns. -/
def close (system : LogSystem) (bytes : List UInt8) (result : Except IoError Unit) : LogSystem :=
  { system with records := system.records ++ [⟨bytes, result⟩], current := none }

/-- What `write_all` does with the result of a write. -/
def continueWriting (system : LogSystem) (written rest : List UInt8) (checkedAt : Nat) :
    Except IoError Nat → LogSystem
  | .ok 0 =>
      { system with okCalls := system.okCalls + 1, lastOk := checkedAt }.close (written ++ rest)
        (.error .writeZero)
  | .ok (n + 1) =>
      { system with
        okCalls := system.okCalls + 1
        lastOk := checkedAt
        current := some (written ++ rest.take (n + 1), rest.drop (n + 1)) }
  | .error .interrupted => system
  | .error error => system.close (written ++ rest) (.error error)

def step (system : LogSystem) : LogEvent → Option LogSystem
  | .record bytes =>
      match system.current with
      | none => some { system with current := some ([], bytes) }
      | some _ => none
  | .write outcomes checkedAt flushedAt =>
      match system.current with
      | some (written, rest) =>
          if rest ≠ [] ∧ system.now ≤ checkedAt ∧ checkedAt ≤ flushedAt then
            (system.out.write rest outcomes checkedAt flushedAt).map fun returned =>
              { system with out := returned.after, now := flushedAt }.continueWriting written rest
                checkedAt returned.result
          else none
      | none => none
  | .finish =>
      match system.current with
      | some (written, []) => some (system.close written (.ok ()))
      | _ => none
  | .flush outcomes =>
      (system.out.flush outcomes).map fun returned => { system with out := returned.2 }

inductive Move (system : LogSystem) : LogEvent → LogSystem → Prop where
  | record {bytes : List UInt8} (idle : system.current = none) :
      Move system (.record bytes) { system with current := some ([], bytes) }
  | write {outcomes : List Outcome} {checkedAt flushedAt : Nat} {written rest : List UInt8}
      {result : Except IoError Nat} {after : FlushingWriter}
      (busy : system.current = some (written, rest)) (past : system.now ≤ checkedAt)
      (order : checkedAt ≤ flushedAt)
      (writes : system.out.Writes rest checkedAt flushedAt result after) :
      Move system (.write outcomes checkedAt flushedAt)
        ({ system with out := after, now := flushedAt }.continueWriting written rest checkedAt
          result)
  | finish {written : List UInt8} (done : system.current = some (written, [])) :
      Move system .finish (system.close written (.ok ()))
  | flush {outcomes : List Outcome} {writer : BufWriter UInt8}
      (flushed : system.out.writer.Flushed writer) :
      Move system (.flush outcomes) { system with out := { system.out with writer := writer } }

theorem move_of_step {system next : LogSystem} {event : LogEvent}
    (within : system.out.writer.Within) (stepped : step system event = some next) :
    Move system event next := by
  cases event with
  | record bytes =>
      simp only [step] at stepped
      split at stepped
      next idle => cases stepped; exact .record idle
      next => cases stepped
  | write outcomes checkedAt flushedAt =>
      simp only [step] at stepped
      split at stepped
      next written rest busy =>
        split at stepped
        next ready =>
          obtain ⟨returned, returns, rfl⟩ := Option.map_eq_some_iff.mp stepped
          exact .write busy ready.2.1 ready.2.2
            (FlushingWriter.writes_of_write within ready.1 returns)
        next => cases stepped
      next => cases stepped
  | finish =>
      simp only [step] at stepped
      split at stepped
      next done => cases stepped; exact .finish done
      next => cases stepped
  | flush outcomes =>
      obtain ⟨returned, returns, rfl⟩ := Option.map_eq_some_iff.mp stepped
      obtain ⟨inner, flushes, rfl⟩ := Option.map_eq_some_iff.mp returns
      exact .flush (BufWriter.flushBuf_spec flushes).1

/-! ## Nothing is lost, repeated or reordered -/

/-- The bytes that a write takes are the next ones of the data. -/
theorem taken_of_writes {out after : FlushingWriter} {rest : List UInt8}
    {result : Except IoError Nat} {checkedAt flushedAt : Nat}
    (writes : out.Writes rest checkedAt flushedAt result after) :
    after.writer.Within ∧ out.writer.file <+: after.writer.file ∧
      ∃ n, after.writer.content = out.writer.content ++ rest.take n ∧
        (∀ count, result = .ok count → n = count) ∧ (result = .error .interrupted → n = 0) := by
  cases writes with
  | refused wrote =>
      refine ⟨wrote.within, wrote.file, 0, ?_, nofun, fun _ => rfl⟩
      rw [wrote.error _ rfl, List.take_zero, List.append_nil]
  | @kept n _ wrote few soon =>
      refine ⟨wrote.within, wrote.file, n, wrote.ok n rfl, ?_, nofun⟩
      rintro count same
      cases same
      rfl
  | @unflushed n error taken writer wrote flushed uninterrupted =>
      refine ⟨?_, wrote.file.trans flushed.file, n, flushed.content.trans (wrote.ok n rfl), nofun,
        fun same => absurd (by cases same; rfl) uninterrupted⟩
      exact Nat.le_trans flushed.buffer (flushed.capacity ▸ wrote.within)
  | @flushed n taken writer wrote flushed empty =>
      refine ⟨?_, wrote.file.trans flushed.file, n, flushed.content.trans (wrote.ok n rfl), ?_,
        nofun⟩
      · exact Nat.le_trans flushed.buffer (flushed.capacity ▸ wrote.within)
      · rintro count same
        cases same
        rfl

/-- What is kept of a record: all of it, or a front of it if `write_all` failed. -/
def Keeps (record : LogRecord) (part : List UInt8) : Prop :=
  part <+: record.bytes ∧ (record.result = .ok () → part = record.bytes)

/-- What has been written of the current record. -/
def written (system : LogSystem) : List UInt8 := (system.current.map Prod.fst).getD []

structure Kept (file : List UInt8) (system : LogSystem) : Prop where
  within : system.out.writer.Within
  parts : ∃ parts, List.Forall₂ Keeps system.records parts ∧
    system.out.writer.content = file ++ parts.flatten ++ system.written

variable {file bytes : List UInt8} {system next : LogSystem} {event : LogEvent}

theorem kept_start (file : List UInt8) (flushCount flushInterval : Nat) :
    Kept file (start file flushCount flushInterval) where
  within := BufWriter.within_new _ file
  parts :=
    ⟨[], .nil, by simp [start, FlushingWriter.new, BufWriter.new, BufWriter.content, written]⟩

/-- The record ends, with a front of it kept. -/
theorem Kept.close {parts : List (List UInt8)} {part : List UInt8} {result : Except IoError Unit}
    (within : system.out.writer.Within) (records : List.Forall₂ Keeps system.records parts)
    (content : system.out.writer.content = file ++ parts.flatten ++ part)
    (keeps : Keeps ⟨bytes, result⟩ part) : Kept file (system.close bytes result) where
  within := within
  parts := by
    refine ⟨parts ++ [part], List.rel_append records (.cons keeps .nil), ?_⟩
    rw [show (system.close bytes result).out = system.out from rfl, content]
    simp [written, LogSystem.close]

theorem Kept.write (kept : Kept file system) {written rest : List UInt8}
    {result : Except IoError Nat} {after : FlushingWriter} {checkedAt flushedAt : Nat}
    (busy : system.current = some (written, rest))
    (writes : system.out.Writes rest checkedAt flushedAt result after) :
    Kept file ({ system with out := after, now := flushedAt }.continueWriting written rest
      checkedAt result) := by
  obtain ⟨within, -, n, content, ofOk, ofInterrupted⟩ := taken_of_writes writes
  obtain ⟨parts, records, before⟩ := kept.parts
  have isWritten : system.written = written := by rw [LogSystem.written, busy]; rfl
  have total : after.writer.content = file ++ parts.flatten ++ (written ++ rest.take n) := by
    rw [content, before, isWritten, List.append_assoc]
  have front : written ++ rest.take n <+: written ++ rest :=
    (List.prefix_append_right_inj written).mpr (List.take_prefix n rest)
  cases result with
  | ok count =>
      obtain rfl : n = count := ofOk count rfl
      cases n with
      | zero => exact .close within records total ⟨front, nofun⟩
      | succ count => exact ⟨within, parts, records, total⟩
  | error error =>
      cases error with
      | interrupted =>
          rw [ofInterrupted rfl, List.take_zero, List.append_nil] at total
          exact ⟨within, parts, records, total.trans (by rw [← isWritten]; rfl)⟩
      | writeZero => exact .close within records total ⟨front, nofun⟩
      | other code => exact .close within records total ⟨front, nofun⟩

theorem Kept.move (kept : Kept file system) (move : Move system event next) : Kept file next := by
  cases move with
  | record idle =>
      obtain ⟨parts, records, content⟩ := kept.parts
      refine ⟨kept.within, parts, records, content.trans ?_⟩
      simp [written, idle]
  | write busy past order writes => exact kept.write busy writes
  | @finish bytes done =>
      obtain ⟨parts, records, content⟩ := kept.parts
      refine .close kept.within records (content.trans ?_) ⟨List.prefix_refl bytes, fun _ => rfl⟩
      simp [written, done]
  | flush flushed =>
      obtain ⟨parts, records, content⟩ := kept.parts
      exact ⟨Nat.le_trans flushed.buffer (flushed.capacity ▸ kept.within), parts, records,
        flushed.content.trans content⟩

theorem kept_of_run {flushCount flushInterval : Nat} {events : List LogEvent}
    (reached : Machine.run step (start file flushCount flushInterval) events = some system) :
    Kept file system :=
  Machine.run_invariant (Kept file) (kept_start file flushCount flushInterval)
    (fun _ _ _ kept stepped => kept.move (move_of_step kept.within stepped)) reached

/-- The bytes of the records that an event begins. -/
def begins : LogEvent → List (List UInt8)
  | .record bytes => [bytes]
  | .write _ _ _ | .finish | .flush _ => []

/-- The records that have been begun, in order. -/
def begun (system : LogSystem) : List (List UInt8) :=
  system.records.map LogRecord.bytes ++
    (system.current.map fun current => current.1 ++ current.2).toList

theorem begun_move (move : Move system event next) : next.begun = system.begun ++ begins event := by
  cases move with
  | record idle => simp [begun, begins, idle]
  | @write _ _ _ written rest result _ busy past order writes =>
      cases result with
      | ok count => cases count <;> simp [begun, begins, busy, continueWriting, close]
      | error error => cases error <;> simp [begun, begins, busy, continueWriting, close]
  | finish done => simp [begun, begins, done, close]
  | flush flushed => simp [begun, begins]

/-- Whatever the file's writes come to, the file and the buffer hold a front of
each record, in the order in which the records were logged: all of it, if
`write_all` returned `Ok`. -/
theorem records_kept {flushCount flushInterval : Nat} {events : List LogEvent}
    (reached : Machine.run step (start file flushCount flushInterval) events = some system) :
    system.begun = events.flatMap begins ∧
      ∃ parts, List.Forall₂ Keeps system.records parts ∧
        system.out.writer.file ++ system.out.writer.buffer =
          file ++ parts.flatten ++ system.written := by
  have kept := kept_of_run reached
  refine ⟨?_, kept.parts⟩
  have both : Kept file system ∧ system.begun = events.flatMap begins := by
    refine Machine.run_history
      (fun history system => Kept file system ∧ system.begun = history.flatMap begins)
      ⟨kept_start file flushCount flushInterval, rfl⟩ ?_ reached
    rintro history middle event next ⟨kept, begun⟩ stepped
    have moved := move_of_step kept.within stepped
    refine ⟨kept.move moved, ?_⟩
    rw [begun_move moved, begun]
    simp
  exact both.2

/-- A record whose second half fails to be written. -/
theorem records_kept_front :
    ∃ system, Machine.run step (start [7] 1 1000)
        [.record [65, 66, 10], .write [.wrote 2, .failed (.other 28)] 0 0] = some system ∧
      system.begun = [[65, 66, 10]] ∧
      ∃ parts, List.Forall₂ Keeps system.records parts ∧
        system.out.writer.file ++ system.out.writer.buffer =
          [7] ++ parts.flatten ++ system.written :=
  ⟨_, rfl, records_kept (show Machine.run step (start [7] 1 1000)
    [.record [65, 66, 10], .write [.wrote 2, .failed (.other 28)] 0 0] = some _ from rfl)⟩

/-! ## Nothing stays out of the file for long -/

/-- What holds of a later state, for the bytes taken by an earlier one: they are
in the file, or no flush that was due has succeeded since. -/
structure Waiting (earlier system : LogSystem) : Prop where
  within : system.out.writer.Within
  content : earlier.out.writer.content <+: system.out.writer.content
  settings : system.out.flushCount = earlier.out.flushCount ∧
    system.out.flushInterval = earlier.out.flushInterval
  past : system.out.lastFlush ≤ system.now
  progress : earlier.out.writer.content <+: system.out.writer.file ∨
    (system.out.lastFlush = earlier.out.lastFlush ∧
      system.okCalls ≤ earlier.okCalls + system.out.count ∧
      (earlier.okCalls < system.okCalls →
        system.okCalls < earlier.okCalls + earlier.out.flushCount ∧
          system.lastOk - system.out.lastFlush < earlier.out.flushInterval))

theorem continueWriting_eq (system : LogSystem) (written rest : List UInt8) (checkedAt : Nat)
    (result : Except IoError Nat) :
    ∃ after, system.continueWriting written rest checkedAt result = after ∧
      after.out = system.out ∧ after.now = system.now ∧
      (∀ n, result = .ok n → after.okCalls = system.okCalls + 1 ∧ after.lastOk = checkedAt) ∧
      (∀ error, result = .error error →
        after.okCalls = system.okCalls ∧ after.lastOk = system.lastOk) := by
  refine ⟨_, rfl, ?_⟩
  cases result with
  | ok n => cases n <;> exact ⟨rfl, rfl, fun _ _ => ⟨rfl, rfl⟩, nofun⟩
  | error error => cases error <;> exact ⟨rfl, rfl, nofun, fun _ _ => ⟨rfl, rfl⟩⟩

variable {earlier : LogSystem}

theorem waiting_refl (within : earlier.out.writer.Within)
    (past : earlier.out.lastFlush ≤ earlier.now) :
    Waiting earlier earlier where
  within := within
  content := List.prefix_refl _
  settings := ⟨rfl, rfl⟩
  past := past
  progress := .inr ⟨rfl, Nat.le_add_right _ _, fun less => absurd less (Nat.lt_irrefl _)⟩

theorem Waiting.write (waiting : Waiting earlier system) {written rest : List UInt8}
    {result : Except IoError Nat} {after : FlushingWriter} {checkedAt flushedAt : Nat}
    (past : system.now ≤ checkedAt) (order : checkedAt ≤ flushedAt)
    (writes : system.out.Writes rest checkedAt flushedAt result after) :
    Waiting earlier ({ system with out := after, now := flushedAt }.continueWriting written rest
      checkedAt result) := by
  obtain ⟨within, file, n, content, -⟩ := taken_of_writes writes
  have grown : earlier.out.writer.content <+: after.writer.content := by
    rw [content]
    exact waiting.content.trans (List.prefix_append _ _)
  have before := waiting.past
  obtain ⟨last, isLast, sameOut, sameNow, ofOk, ofError⟩ := continueWriting_eq
    { system with out := after, now := flushedAt } written rest checkedAt result
  rw [isLast]
  cases writes with
  | refused wrote =>
      obtain ⟨sameCalls, sameLast⟩ := ofError _ rfl
      refine ⟨sameOut ▸ within, sameOut ▸ grown, sameOut ▸ waiting.settings, ?_, ?_⟩
      · rw [sameOut, sameNow]
        exact Nat.le_trans before (Nat.le_trans past order)
      · rw [sameOut, sameCalls, sameLast]
        exact waiting.progress.imp_left (·.trans file)
  | kept wrote few soon =>
      obtain ⟨calls, lastOk⟩ := ofOk _ rfl
      refine ⟨sameOut ▸ within, sameOut ▸ grown, sameOut ▸ waiting.settings, ?_, ?_⟩
      · rw [sameOut, sameNow]
        exact Nat.le_trans before (Nat.le_trans past order)
      · rw [sameOut, calls, lastOk]
        refine waiting.progress.imp (·.trans file) fun ⟨sameFlush, counted, _⟩ => ?_
        have settings := waiting.settings
        refine ⟨sameFlush, by simp only; omega, fun _ => ⟨?_, ?_⟩⟩
        · simp only
          omega
        · rw [← settings.2]
          exact soon
  | unflushed wrote flushed uninterrupted =>
      obtain ⟨sameCalls, sameLast⟩ := ofError _ rfl
      refine ⟨sameOut ▸ within, sameOut ▸ grown, sameOut ▸ waiting.settings, ?_, ?_⟩
      · rw [sameOut, sameNow]
        exact Nat.le_trans before (Nat.le_trans past order)
      · rw [sameOut, sameCalls, sameLast]
        refine waiting.progress.imp (·.trans file) fun ⟨sameFlush, counted, soon⟩ => ?_
        exact ⟨sameFlush, Nat.le_trans counted (Nat.le_succ _), soon⟩
  | @flushed _ _ writer wrote flushed empty =>
      refine ⟨sameOut ▸ within, sameOut ▸ grown, sameOut ▸ waiting.settings, ?_, .inl ?_⟩
      · rw [sameOut, sameNow]
      · rw [sameOut]
        have all : writer.content = writer.file := by
          rw [BufWriter.content, empty, List.append_nil]
        exact all ▸ grown

theorem Waiting.move (waiting : Waiting earlier system) (move : Move system event next) :
    Waiting earlier next := by
  cases move with
  | record idle =>
      exact ⟨waiting.within, waiting.content, waiting.settings, waiting.past, waiting.progress⟩
  | write busy past order writes => exact waiting.write past order writes
  | finish done =>
      exact ⟨waiting.within, waiting.content, waiting.settings, waiting.past, waiting.progress⟩
  | flush flushed =>
      refine ⟨Nat.le_trans flushed.buffer (flushed.capacity ▸ waiting.within), ?_,
        waiting.settings, waiting.past, waiting.progress.imp_left (·.trans flushed.file)⟩
      exact flushed.content ▸ waiting.content

theorem waiting_of_run {events : List LogEvent} (waiting : Waiting earlier earlier)
    (reached : Machine.run step earlier events = some system) : Waiting earlier system :=
  Machine.run_invariant (Waiting earlier) waiting
    (fun _ _ _ waiting stepped => waiting.move (move_of_step waiting.within stepped)) reached

/-- Everything taken so far is in the file once `flush_count` further writes have
returned `Ok`, or one that looked at the clock `flush_interval` later. -/
theorem eventually_in_file {flushCount flushInterval : Nat} {before after : List LogEvent}
    {later : LogSystem}
    (reached : Machine.run step (start file flushCount flushInterval) before = some system)
    (further : Machine.run step system after = some later)
    (written : system.okCalls < later.okCalls)
    (due : system.okCalls + flushCount ≤ later.okCalls ∨
      system.now + flushInterval ≤ later.lastOk) :
    system.out.writer.content <+: later.out.writer.file := by
  have started := waiting_of_run (waiting_refl (Nat.zero_le _) (Nat.le_refl _)) reached
  have waiting := waiting_of_run (waiting_refl started.within started.past) further
  rcases waiting.progress with inFile | ⟨sameFlush, counted, soon⟩
  · exact inFile
  · obtain ⟨few, recent⟩ := soon written
    have past := started.past
    have sameCount : system.out.flushCount = flushCount := started.settings.1
    have sameInterval : system.out.flushInterval = flushInterval := started.settings.2
    omega

/-- The second record is written a second after the first; the flush is a short
write, an interruption, and the rest. -/
def firstRecord : List LogEvent := [.record [65, 10], .write [] 0 0, .finish]

def secondRecord : List LogEvent :=
  [.record [66, 10], .write [.wrote 1, .failed .interrupted, .wrote 3] 1000 1001, .finish]

theorem eventually_in_file_second :
    ∃ system later, Machine.run step (start [] 100 1000) firstRecord = some system ∧
      Machine.run step system secondRecord = some later ∧
      system.out.writer.content <+: later.out.writer.file :=
  ⟨_, _, rfl, rfl, eventually_in_file
    (show Machine.run step (start [] 100 1000) firstRecord = some _ from rfl)
    (show Machine.run step _ secondRecord = some _ from rfl) (by decide) (.inr (by decide))⟩

end LogSystem

end SimpleForwarder

import Mathlib.Data.List.Infix
import Mathlib.Tactic.Common

/-!
Contract: the buffered writer of the standard library.

Owns: `BufWriter` over a file whose writes come to any outcome (short writes,
interruptions, failures), and what its operations do to the bytes: nothing that
was taken is lost, repeated or reordered.

The outcomes of the file's writes are given as a list, in the order in which the
writes are made; an operation that has used them all up has not returned.

Does not own: the policy of when to flush.
-/

namespace BufferedWriting

variable {α : Type}

inductive IoError where
  | interrupted
  | writeZero
  | other (code : Nat)
deriving DecidableEq

/-- What one write to the file comes to. -/
inductive Outcome where
  /-- So many elements from the front were written, or all if there are fewer. -/
  | wrote (count : Nat)
  | failed (error : IoError)
deriving DecidableEq

structure BufWriter (α : Type) where
  capacity : Nat
  file : List α
  buffer : List α
deriving DecidableEq

/-- What an operation that returned has returned, and the outcomes left. -/
structure Returned (β α : Type) where
  result : Except IoError β
  writer : BufWriter α
  rest : List Outcome

namespace BufWriter

def new (capacity : Nat) (file : List α) : BufWriter α where
  capacity := capacity
  file := file
  buffer := []

/-- All that was taken, in the file or not. -/
def content (writer : BufWriter α) : List α := writer.file ++ writer.buffer

def spare (writer : BufWriter α) : Nat := writer.capacity - writer.buffer.length

/-- The front of the buffer goes to the file. -/
def consume (writer : BufWriter α) (count : Nat) : BufWriter α :=
  { writer with
    file := writer.file ++ writer.buffer.take count
    buffer := writer.buffer.drop count }

def push (writer : BufWriter α) (data : List α) : BufWriter α :=
  { writer with buffer := writer.buffer ++ data }

def appendToFile (writer : BufWriter α) (data : List α) : BufWriter α :=
  { writer with file := writer.file ++ data }

def flushBuf (writer : BufWriter α) : List Outcome → Option (Returned Unit α)
  | [] => if writer.buffer.isEmpty then some ⟨.ok (), writer, []⟩ else none
  | outcome :: rest =>
      if writer.buffer.isEmpty then some ⟨.ok (), writer, outcome :: rest⟩
      else
        match outcome with
        | .wrote 0 => some ⟨.error .writeZero, writer, rest⟩
        | .wrote (count + 1) => flushBuf (writer.consume (count + 1)) rest
        | .failed .interrupted => flushBuf writer rest
        | .failed error => some ⟨.error error, writer, rest⟩

/-- What `write_cold` does when it need not flush or has flushed: data that
would fill the buffer goes to the file directly. -/
def writeThrough (writer : BufWriter α) (data : List α) (outcomes : List Outcome) :
    Option (Returned Nat α) :=
  if writer.capacity ≤ data.length then
    match outcomes with
    | [] => none
    | .wrote count :: rest =>
        some ⟨.ok (min count data.length), writer.appendToFile (data.take count), rest⟩
    | .failed error :: rest => some ⟨.error error, writer, rest⟩
  else some ⟨.ok data.length, writer.push data, outcomes⟩

def writeCold (writer : BufWriter α) (data : List α) (outcomes : List Outcome) :
    Option (Returned Nat α) :=
  if writer.spare < data.length then
    match writer.flushBuf outcomes with
    | none => none
    | some ⟨.error error, flushed, rest⟩ => some ⟨.error error, flushed, rest⟩
    | some ⟨.ok (), flushed, rest⟩ => flushed.writeThrough data rest
  else writer.writeThrough data outcomes

def write (writer : BufWriter α) (data : List α) (outcomes : List Outcome) :
    Option (Returned Nat α) :=
  if data.length < writer.spare then some ⟨.ok data.length, writer.push data, outcomes⟩
  else writer.writeCold data outcomes

/-! ## What the operations do -/

def Within (writer : BufWriter α) : Prop := writer.buffer.length ≤ writer.capacity

variable {writer : BufWriter α} {data : List α} {outcomes : List Outcome}

@[simp] theorem consume_content (count : Nat) :
    (writer.consume count).content = writer.content := by
  simp [consume, content]

@[simp] theorem push_content : (writer.push data).content = writer.content ++ data := by
  simp [push, content]

theorem within_new (capacity : Nat) (file : List α) : (new capacity file).Within :=
  Nat.zero_le _

/-- The bytes stay, the file only grows, and so does the room in the buffer. -/
structure Flushed (writer after : BufWriter α) : Prop where
  content : after.content = writer.content
  file : writer.file <+: after.file
  capacity : after.capacity = writer.capacity
  buffer : after.buffer.length ≤ writer.buffer.length

theorem Flushed.refl (writer : BufWriter α) : Flushed writer writer :=
  ⟨rfl, List.prefix_refl _, rfl, Nat.le_refl _⟩

theorem Flushed.trans {middle after : BufWriter α} (first : Flushed writer middle)
    (second : Flushed middle after) : Flushed writer after where
  content := second.content.trans first.content
  file := first.file.trans second.file
  capacity := second.capacity.trans first.capacity
  buffer := Nat.le_trans second.buffer first.buffer

theorem flushed_consume (count : Nat) : Flushed writer (writer.consume count) where
  content := consume_content count
  file := List.prefix_append _ _
  capacity := rfl
  buffer := by simp [consume]

/-- A flush that succeeds leaves nothing in the buffer; one that fails was not
interrupted. -/
theorem flushBuf_spec {returned : Returned Unit α}
    (returns : writer.flushBuf outcomes = some returned) :
    Flushed writer returned.writer ∧
      (returned.result = .ok () → returned.writer.buffer = []) ∧
      returned.result ≠ .error .interrupted := by
  induction outcomes generalizing writer with
  | nil =>
      unfold flushBuf at returns
      split at returns
      next isEmpty =>
        cases returns
        exact ⟨.refl writer, fun _ => List.isEmpty_iff.mp isEmpty, nofun⟩
      next => cases returns
  | cons outcome rest inductionHypothesis =>
      unfold flushBuf at returns
      split at returns
      next isEmpty =>
        cases returns
        exact ⟨.refl writer, fun _ => List.isEmpty_iff.mp isEmpty, nofun⟩
      next =>
        split at returns
        next => cases returns; exact ⟨.refl writer, nofun, nofun⟩
        next count =>
          obtain ⟨flushed, empties, uninterrupted⟩ := inductionHypothesis returns
          exact ⟨(flushed_consume _).trans flushed, empties, uninterrupted⟩
        next => exact inductionHypothesis returns
        next error distinct =>
          cases returns
          exact ⟨.refl writer, nofun, fun same => distinct (by cases same; rfl)⟩

/-- A write takes the front of the data, and as much as it says; a write that
fails takes nothing. -/
structure Wrote (writer : BufWriter α) (data : List α) (result : Except IoError Nat)
    (after : BufWriter α) : Prop where
  ok : ∀ count, result = .ok count → after.content = writer.content ++ data.take count
  error : ∀ error, result = .error error → after.content = writer.content
  file : writer.file <+: after.file
  within : after.Within

theorem writeThrough_spec {returned : Returned Nat α} (empty : writer.capacity ≤ data.length →
      writer.buffer = [])
    (room : data.length < writer.capacity → data.length ≤ writer.spare) (within : writer.Within)
    (returns : writer.writeThrough data outcomes = some returned) :
    Wrote writer data returned.result returned.writer := by
  unfold writeThrough at returns
  split at returns
  next large =>
    split at returns
    next => cases returns
    next count rest =>
      cases returns
      refine ⟨?_, nofun, List.prefix_append _ _, within⟩
      intro taken same
      cases same
      rw [← List.take_eq_take_min]
      simp [appendToFile, content, empty large]
    next error rest =>
      cases returns
      exact ⟨nofun, fun _ _ => rfl, List.prefix_refl _, within⟩
  next small =>
    cases returns
    have fits := room (Nat.lt_of_not_le small)
    refine ⟨?_, nofun, List.prefix_refl _, ?_⟩
    · rintro count same
      cases same
      rw [push_content, List.take_length]
    · simp only [Within, push, List.length_append, spare] at *
      omega

theorem write_spec {returned : Returned Nat α} (within : writer.Within)
    (returns : writer.write data outcomes = some returned) :
    Wrote writer data returned.result returned.writer := by
  unfold write at returns
  split at returns
  next small =>
    cases returns
    refine ⟨?_, nofun, List.prefix_refl _, ?_⟩
    · rintro count same
      cases same
      rw [push_content, List.take_length]
    · simp only [Within, push, List.length_append, spare] at *
      omega
  next large =>
    unfold writeCold at returns
    split at returns
    next full =>
      split at returns
      next => cases returns
      next error flushed rest flushes =>
        cases returns
        obtain ⟨after, -, -⟩ := flushBuf_spec flushes
        refine ⟨nofun, fun _ _ => after.content, after.file, ?_⟩
        exact Nat.le_trans after.buffer (after.capacity ▸ within)
      next flushed rest flushes =>
        obtain ⟨after, empties, -⟩ := flushBuf_spec flushes
        have nothing : flushed.buffer = [] := empties rfl
        have wrote := writeThrough_spec (fun _ => nothing)
          (fun fits => by rw [spare, nothing]; exact Nat.le_of_lt fits)
          (by rw [Within, nothing]; exact Nat.zero_le _) returns
        exact ⟨fun count same => by rw [wrote.ok count same, after.content],
          fun error same => (wrote.error error same).trans after.content,
          after.file.trans wrote.file, wrote.within⟩
    next fits =>
      refine writeThrough_spec (fun large => ?_) (fun _ => Nat.not_lt.mp fits) within returns
      have none : writer.buffer.length = 0 := by
        simp only [Within, spare] at *
        omega
      exact List.eq_nil_of_length_eq_zero none

end BufWriter

end BufferedWriting

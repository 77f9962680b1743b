import SimpleForwarder.Sockets

/-!
Contract: the arrival of one side's bytes.

Owns: the ways of cutting a stream into reads (`Cutting`), the environment in
which the reads of one side are answered by such pieces, and the executions of
`read` and `readExact` in it.

What a side sends is followed by its end of file or by silence. A write
succeeds at once; operations on other sides stay pending.

Does not own: which program reads.
-/

namespace SimpleForwarder

open RustText EffectProgram Program

/-- A way of cutting a stream into reads of 1 to `limit` bytes. -/
structure Cutting (limit : Nat) (stream : Bytes) where
  chunks : List Bytes
  whole : chunks.flatten = stream
  sized : ∀ chunk ∈ chunks, 1 ≤ chunk.length ∧ chunk.length ≤ limit

/-- What a side still sends, and whether it closes afterwards. -/
structure Arrival where
  chunks : List Bytes
  closes : Bool

def Cutting.arrival {limit : Nat} {stream : Bytes} (cutting : Cutting limit stream)
    (closes : Bool) : Arrival where
  chunks := cutting.chunks
  closes := closes

/-- The chunks without their first `size` bytes. -/
def dropBytes (size : Nat) : List Bytes → List Bytes
  | [] => []
  | chunk :: chunks =>
      if chunk.length ≤ size then dropBytes (size - chunk.length) chunks
      else chunk.drop size :: chunks

def unexpectedEof : IoError := ⟨.other, "early eof".toList⟩

namespace Arrival

/-- The result of `read`: the next chunk, or as much of it as fits. -/
def nextChunk (arrival : Arrival) (limit : Nat) : Option (Chunk limit × Arrival) :=
  match arrival.chunks with
  | chunk :: later =>
      if fits : chunk.length ≤ limit then some (⟨chunk, fits⟩, { arrival with chunks := later })
      else
        some (⟨chunk.take limit, List.length_take_le _ _⟩,
          { arrival with chunks := chunk.drop limit :: later })
  | [] => if arrival.closes then some (⟨[], Nat.zero_le _⟩, arrival) else none

/-- The result of `read_exact`. -/
def nextBlock (arrival : Arrival) (size : Nat) :
    Option (Except IoError (Vector UInt8 size) × Arrival) :=
  if enough : size ≤ arrival.chunks.flatten.length then
    have length : (arrival.chunks.flatten.take size).toArray.size = size := by
      rw [List.size_toArray, List.length_take, Nat.min_eq_left enough]
    some (.ok ⟨(arrival.chunks.flatten.take size).toArray, length⟩,
      { arrival with chunks := dropBytes size arrival.chunks })
  else if arrival.closes then some (.error unexpectedEof, { arrival with chunks := [] })
  else none

/-- The environment in which `peer` sends what arrives. -/
def answer (peer : Peer) (arrival : Arrival) : (op : Op) → Option (Resp op × Arrival)
  | .read source limit =>
      if source = peer then
        (arrival.nextChunk limit).map fun (chunk, later) => (.ok chunk, later)
      else none
  | .readExact source size => if source = peer then arrival.nextBlock size else none
  | .writeAll _ _ => some (.ok (), arrival)
  | _ => none

end Arrival

theorem flatten_dropBytes (size : Nat) (chunks : List Bytes) :
    (dropBytes size chunks).flatten = chunks.flatten.drop size := by
  induction chunks generalizing size with
  | nil => exact List.drop_nil.symm
  | cons chunk chunks inductionHypothesis =>
      rw [dropBytes, List.flatten_cons, List.drop_append]
      split
      · next covered =>
          rw [inductionHypothesis, List.drop_eq_nil_of_le covered, List.nil_append]
      · next inside =>
          rw [Nat.sub_eq_zero_of_le (Nat.le_of_not_le inside), List.drop_zero, List.flatten_cons]

theorem sized_dropBytes {limit : Nat} (size : Nat) {chunks : List Bytes}
    (sized : ∀ chunk ∈ chunks, 1 ≤ chunk.length ∧ chunk.length ≤ limit) :
    ∀ chunk ∈ dropBytes size chunks, 1 ≤ chunk.length ∧ chunk.length ≤ limit := by
  induction chunks generalizing size with
  | nil => exact nofun
  | cons first chunks inductionHypothesis =>
      have later := fun chunk member => sized chunk (List.mem_cons_of_mem first member)
      unfold dropBytes
      split
      · exact inductionHypothesis _ later
      · next inside =>
          intro chunk member
          rcases List.mem_cons.mp member with rfl | member
          · have bounds := sized first List.mem_cons_self
            rw [List.length_drop]
            omega
          · exact later chunk member

namespace Cutting

variable {limit : Nat} {stream : Bytes}

/-- The cutting that is left after the first `size` bytes. -/
def dropBytes (cutting : Cutting limit stream) (size : Nat) : Cutting limit (stream.drop size) where
  chunks := SimpleForwarder.dropBytes size cutting.chunks
  whole := by rw [flatten_dropBytes, cutting.whole]
  sized := sized_dropBytes size cutting.sized

/-- A stream that is cut is empty, or a first read and a cutting of the rest. -/
theorem eq_nil_or_cons (cutting : Cutting limit stream) :
    stream = [] ∧ cutting.chunks = [] ∨
      ∃ chunk rest, ∃ later : Cutting limit rest, chunk ≠ [] ∧ chunk.length ≤ limit ∧
        stream = chunk ++ rest ∧ cutting.chunks = chunk :: later.chunks := by
  obtain ⟨chunks, rfl, sized⟩ := cutting
  cases chunks with
  | nil => exact .inl ⟨rfl, rfl⟩
  | cons chunk chunks =>
      have bounds := sized chunk List.mem_cons_self
      have nonempty : chunk ≠ [] := List.length_pos_iff.mp bounds.1
      exact .inr ⟨chunk, chunks.flatten,
        ⟨chunks, rfl, fun other member => sized other (List.mem_cons_of_mem _ member)⟩,
        nonempty, bounds.2, rfl, rfl⟩

end Cutting

/-! ## The executions of one operation -/

section

variable {peer : Peer} {limit time : Nat} {α : Type} {rest : Chunk limit → Async α}

/-- A read takes the next chunk. -/
theorem exec_read_cons {chunk : Bytes} (fits : chunk.length ≤ limit) (later : List Bytes)
    (closes : Bool) :
    exec (Arrival.answer peer) time ((read peer limit).bind rest) ⟨chunk :: later, closes⟩ =
      let run := exec (Arrival.answer peer) time (rest ⟨chunk, fits⟩) ⟨later, closes⟩
      (⟨.read peer limit, time, .ready (.ok ⟨chunk, fits⟩)⟩ :: run.1, run.2) := by
  have answered : Arrival.answer peer ⟨chunk :: later, closes⟩ (.read peer limit) =
      some (.ok ⟨chunk, fits⟩, ⟨later, closes⟩) := by
    simp only [Arrival.answer, if_true, Arrival.nextChunk, dif_pos fits, Option.map_some]
  exact exec_performOr_ok answered rfl

/-- A read after the last chunk is the end of file, or stays pending. -/
theorem exec_read_nil (closes : Bool) :
    exec (Arrival.answer peer) time ((read peer limit).bind rest) ⟨[], closes⟩ =
      if closes then
        let run := exec (Arrival.answer peer) time (rest ⟨[], Nat.zero_le _⟩) ⟨[], closes⟩
        (⟨.read peer limit, time, .ready (.ok ⟨[], Nat.zero_le _⟩)⟩ :: run.1, run.2)
      else ([⟨.read peer limit, time, .interrupted 0⟩], .cut) := by
  cases closes with
  | true =>
      have answered : Arrival.answer peer ⟨[], true⟩ (.read peer limit) =
          some (.ok ⟨[], Nat.zero_le _⟩, ⟨[], true⟩) := by
        simp only [Arrival.answer, if_true, Arrival.nextChunk, Option.map_some]
      exact exec_performOr_ok answered rfl
  | false =>
      have silent : Arrival.answer peer ⟨[], false⟩ (.read peer limit) = none := by
        simp only [Arrival.answer, if_true, Arrival.nextChunk, if_neg Bool.false_ne_true,
          Option.map_none]
      exact exec_performOr_none silent

end

section

variable {peer : Peer} {size time : Nat} {α : Type} {rest : Vector UInt8 size → Async α}
  {chunks : List Bytes} {closes : Bool}

/-- An exact read takes the first bytes. -/
theorem exec_readExact_ok (enough : size ≤ chunks.flatten.length) {block : Vector UInt8 size}
    (bytes : block.toList = chunks.flatten.take size) :
    exec (Arrival.answer peer) time ((readExact peer size).bind rest) ⟨chunks, closes⟩ =
      let run := exec (Arrival.answer peer) time (rest block) ⟨dropBytes size chunks, closes⟩
      (⟨.readExact peer size, time, .ready (.ok block)⟩ :: run.1, run.2) := by
  have answered : Arrival.answer peer ⟨chunks, closes⟩ (.readExact peer size) =
      some (.ok block, ⟨dropBytes size chunks, closes⟩) := by
    simp only [Arrival.answer, if_true, Arrival.nextBlock, dif_pos enough, ← bytes]
    rfl
  exact exec_performOr_ok answered rfl

end

/-- A write succeeds. -/
theorem exec_writeAll {peer sink : Peer} {time : Nat} {α : Type} {rest : Unit → Async α}
    (bytes : Bytes) (arrival : Arrival) :
    exec (Arrival.answer peer) time ((writeAll sink bytes).bind rest) arrival =
      let run := exec (Arrival.answer peer) time (rest ()) arrival
      (⟨.writeAll sink bytes, time, .ready (.ok ())⟩ :: run.1, run.2) :=
  exec_performOr_ok rfl rfl

/-! ## What an execution reads -/

theorem nextChunk_flatten {arrival later : Arrival} {limit : Nat} {chunk : Chunk limit}
    (next : arrival.nextChunk limit = some (chunk, later)) :
    chunk.bytes ++ later.chunks.flatten = arrival.chunks.flatten := by
  unfold Arrival.nextChunk at next
  split at next
  · next first chunks shape =>
      rw [shape, List.flatten_cons]
      split at next
      · cases next
        rfl
      · cases next
        rw [List.flatten_cons, ← List.append_assoc, List.take_append_drop]
  · split at next
    · cases next
      rfl
    · exact absurd next nofun

theorem nextBlock_flatten {source : Peer} {arrival later : Arrival} {size : Nat}
    {response : Except IoError (Vector UInt8 size)}
    (next : arrival.nextBlock size = some (response, later)) (time : Nat) :
    receivedBy source ⟨.readExact source size, time, .ready response⟩ ++ later.chunks.flatten <+:
      arrival.chunks.flatten := by
  unfold Arrival.nextBlock at next
  split at next
  · cases next
    have taken : ∀ block : Vector UInt8 size,
        receivedBy source ⟨.readExact source size, time, .ready (.ok block)⟩ = block.toList :=
      fun block => if_pos rfl
    rw [taken, flatten_dropBytes]
    exact ⟨[], by rw [List.append_nil]; exact List.take_append_drop _ _⟩
  · split at next
    · cases next
      exact List.nil_prefix
    · exact absurd next nofun

/-- What one operation takes is the beginning of what arrives. -/
theorem receivedBy_answer {peer : Peer} {arrival later : Arrival} {op : Op} {response : Resp op}
    (answered : arrival.answer peer op = some (response, later)) (time : Nat) :
    receivedBy peer ⟨op, time, .ready response⟩ ++ later.chunks.flatten <+:
      arrival.chunks.flatten := by
  cases op with
  | read source limit =>
      dsimp only [Arrival.answer] at answered
      split at answered
      · next same =>
          subst same
          obtain ⟨⟨chunk, rest⟩, next, paired⟩ := Option.map_eq_some_iff.mp answered
          cases paired
          have taken : receivedBy source ⟨.read source limit, time, .ready (.ok chunk)⟩ =
              chunk.bytes := if_pos rfl
          have whole : chunk.bytes ++ rest.chunks.flatten = arrival.chunks.flatten :=
            nextChunk_flatten next
          rw [taken]
          exact whole.symm ▸ List.prefix_rfl
      · exact absurd answered nofun
  | readExact source size =>
      dsimp only [Arrival.answer] at answered
      split at answered
      · next same =>
          subst same
          exact nextBlock_flatten answered time
      · exact absurd answered nofun
  | writeAll sink bytes =>
      cases answered
      exact List.prefix_rfl
  | connectProxy addr => exact absurd answered nofun
  | connectDirect host port => exact absurd answered nofun
  | lookupHost query => exact absurd answered nofun

/-- A program reads the beginning of what arrives. -/
theorem received_exec {peer : Peer} {α : Type} (time : Nat) (program : Async α)
    (arrival : Arrival) :
    received peer (exec (Arrival.answer peer) time program arrival).1 <+:
      arrival.chunks.flatten := by
  induction program generalizing arrival with
  | ret value => exact List.nil_prefix
  | fail error => exact List.nil_prefix
  | clock next inductionHypothesis => exact inductionHypothesis time arrival
  | call op deadlines next inductionHypothesis =>
      unfold exec
      split
      · next response later answered =>
          rw [received_cons]
          have tail := inductionHypothesis (.ready response) later
          exact ((List.prefix_append_right_inj _).mpr tail).trans (receivedBy_answer answered time)
      · have nothing : received peer [⟨op, time, .interrupted 0⟩] = [] := by
          rw [received_singleton]
          cases op <;> rfl
        rw [nothing]
        exact List.nil_prefix

theorem Cutting.received_exec (peer : Peer) {limit : Nat} {stream : Bytes}
    (cutting : Cutting limit stream) (closes : Bool) {α : Type} (time : Nat) (program : Async α) :
    received peer (exec (Arrival.answer peer) time program (cutting.arrival closes)).1 <+:
      stream := by
  have whole : (cutting.arrival closes).chunks.flatten = stream := cutting.whole
  exact (SimpleForwarder.received_exec time program _).trans
    ⟨[], (List.append_nil _).trans whole⟩

end SimpleForwarder

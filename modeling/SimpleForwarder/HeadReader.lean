import SimpleForwarder.Sockets
import SimpleForwarder.Util

/-!
Contract: reading an HTTP head from a socket.

Owns: the loop that `read_http_headers` and `http_connect` share, and what it
returns: the bytes up to the first separator, at most `limit` of them, and as
leftover everything else that was read.

The loop reads 1024 bytes at a time and stops once the buffer exceeds the
limit. As every read adds a byte, `limit + 2` iterations suffice.

Does not own: the limits, and what the head says.
-/

namespace SimpleForwarder

open RustText EffectProgram

/-- The texts of the two ways in which the loop gives up. -/
structure HeadErrors where
  tooLong : Text
  closed : Text

def readHeadLoop (peer : Peer) (limit : Nat) (errors : HeadErrors) :
    (fuel : Nat) → (buf : Bytes) → (startPos : Nat) → Async (Bytes × Bytes)
  | 0, _, _ => .fail errors.tooLong
  | fuel + 1, buf, startPos =>
      match findHeaderSeparator buf startPos with
      | some pos =>
          if pos > limit then .fail errors.tooLong else .ret (buf.take pos, buf.drop pos)
      | none =>
          if buf.length > limit then .fail errors.tooLong
          else
            (read peer 1024).bind fun chunk =>
              if chunk.bytes = [] then .fail errors.closed
              else readHeadLoop peer limit errors fuel (buf ++ chunk.bytes) buf.length

/-- The loop on a buffer that already holds `buf`. -/
def readHead (peer : Peer) (limit : Nat) (errors : HeadErrors) (buf : Bytes) :
    Async (Bytes × Bytes) :=
  readHeadLoop peer limit errors (limit + 2) buf 0

variable {peer : Peer} {limit : Nat} {errors : HeadErrors} {start stop : Nat}
  {events : List SocketEvent}

theorem readHeadLoop_only (fuel : Nat) (buf : Bytes) (startPos : Nat) :
    (readHeadLoop peer limit errors fuel buf startPos).Only (· = .read peer 1024) := by
  induction fuel generalizing buf startPos with
  | zero => exact Program.only_fail _
  | succ fuel inductionHypothesis =>
      unfold readHeadLoop
      split
      · split
        · exact Program.only_fail _
        · exact Program.only_ret _
      · split
        · exact Program.only_fail _
        · refine Program.Only.bind (Program.only_performOr rfl) fun chunk => ?_
          split
          · exact Program.only_fail _
          · exact inductionHypothesis _ _

theorem readHead_only (buf : Bytes) :
    (readHead peer limit errors buf).Only (· = .read peer 1024) :=
  readHeadLoop_only _ _ _

/-- What the head reader returns: the stream is split where its head ends. -/
structure IsHeadSplit (limit : Nat) (stream head leftover : Bytes) : Prop where
  split : stream = head ++ leftover
  ends : IsHeadEnd stream head.length
  bounded : head.length ≤ limit

/-- The head by itself is the part of the stream up to its separator. -/
theorem IsHeadEnd.take {stream : Bytes} {size : Nat} (headEnd : IsHeadEnd stream size) :
    IsHeadEnd (stream.take size) size where
  inside := by
    rw [List.length_take]
    exact Nat.le_min.mpr ⟨Nat.le_refl _, headEnd.inside⟩
  ends := by
    rw [List.take_take, Nat.min_self]
    exact headEnd.ends
  first := by
    intro earlier before
    rw [List.take_take, Nat.min_eq_left (Nat.le_of_lt before)]
    exact headEnd.first earlier before

theorem IsHeadSplit.head_isHeadEnd {stream head leftover : Bytes}
    (split : IsHeadSplit limit stream head leftover) : IsHeadEnd head head.length := by
  have taken := split.ends.take
  rwa [split.split, List.take_left' rfl] at taken

/-- A stream has one head. -/
theorem IsHeadEnd.append_inj {head other rest otherRest : Bytes}
    (headEnd : IsHeadEnd head head.length) (otherEnd : IsHeadEnd other other.length)
    (same : head ++ rest = other ++ otherRest) : head = other ∧ rest = otherRest := by
  have inStream := headEnd.append rest
  rw [same] at inStream
  exact List.append_inj same (inStream.unique (otherEnd.append otherRest))

theorem readHeadLoop_returned {fuel startPos : Nat} {buf head leftover : Bytes}
    (fresh : ∀ earlier ≤ startPos, ¬ EndsWithSeparator (buf.take earlier))
    (run : Runs (readHeadLoop peer limit errors fuel buf startPos) start events
      (.returned (head, leftover)) stop) :
    IsHeadSplit limit (buf ++ received peer events) head leftover := by
  induction fuel generalizing buf startPos start events with
  | zero => exact absurd (runs_fail_iff.mp run).2.1 nofun
  | succ fuel inductionHypothesis =>
      unfold readHeadLoop at run
      split at run
      · next pos found =>
          split at run
          · exact absurd (runs_fail_iff.mp run).2.1 nofun
          · next atMost =>
              obtain ⟨rfl, same, -⟩ := runs_ret_iff.mp run
              cases same
              have headEnd := (findHeaderSeparator_eq_some_iff fresh).mp found
              have length : (buf.take pos).length = pos := by
                rw [List.length_take, Nat.min_eq_left headEnd.inside]
              rw [received_nil, List.append_nil]
              refine ⟨(List.take_append_drop pos buf).symm, ?_, ?_⟩
              · rw [length]
                exact headEnd
              · rw [length]
                exact Nat.le_of_not_lt atMost
      · next missed =>
          split at run
          · exact absurd (runs_fail_iff.mp run).2.1 nofun
          · obtain ⟨chunk, middle, before, after, readRun, rest, rfl⟩ :=
              runs_bind_returned_iff.mp run
            split at rest
            · exact absurd (runs_fail_iff.mp rest).2.1 nofun
            · -- No separator ends inside the old buffer, so the search may resume at its end.
              have resumed : ∀ earlier ≤ buf.length,
                  ¬ EndsWithSeparator ((buf ++ chunk.bytes).take earlier) := by
                intro earlier inside
                rw [List.take_append_of_le_length inside]
                exact (findHeaderSeparator_eq_none_iff fresh).mp missed earlier inside
              have later := inductionHypothesis resumed rest
              rwa [received_append, received_read readRun, ← List.append_assoc]

/-- The head reader splits what it has read at the end of the head. -/
theorem readHead_returned {buf head leftover : Bytes}
    (run : Runs (readHead peer limit errors buf) start events (.returned (head, leftover)) stop) :
    IsHeadSplit limit (buf ++ received peer events) head leftover :=
  readHeadLoop_returned (fresh_at_start buf) run

end SimpleForwarder

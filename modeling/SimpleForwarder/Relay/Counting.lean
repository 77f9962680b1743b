import SimpleForwarder.Relay.Select

/-!
Contract: what a copy loop counts.

Owns: the relation between the bytes a loop has written and the two counts it
keeps, phase by phase (`Copy.Counted`), and its run lemma (`relay_counted`).

A loop adds a block to the statistics first and to the connection's counter
next, both after the whole block is written. A block that is written in part
is in neither.

Does not own: the counters that several connections share.
-/

namespace SimpleForwarder

open RustText

namespace Copy

/-- What the statistics count and the connection's counter does not yet. -/
def uncounted (copy : Copy) : Nat :=
  match copy.phase with
  | .countingBytes size => size
  | _ => 0

/-- The bytes written, the connection's counter and the statistics agree up to
the block that the phase is about. -/
structure Counted (copy : Copy) : Prop where
  stats : copy.statsCount = copy.bytesCount + copy.uncounted
  written : match copy.phase with
    | .writing pending size _ _ =>
        copy.written.length + pending.length = copy.bytesCount + size ∧ pending.length ≤ size
    | .countingStats size => copy.written.length = copy.bytesCount + size
    | .countingBytes size => copy.written.length = copy.bytesCount + size
    | .reading _ => copy.written.length = copy.bytesCount
    | .shuttingDown _ => copy.written.length = copy.bytesCount
    | .finished (.ok ()) => copy.written.length = copy.bytesCount
    | .finished (.error _) => copy.bytesCount ≤ copy.written.length

namespace Counted

variable {texts : CopyTexts} {now : Nat} {inbound inbound' : Inbound} {copy copy' : Copy}

theorem start (leftover : Bytes) (now : Nat) : (Copy.start leftover now).Counted := by
  unfold Copy.start
  by_cases nothing : leftover = []
  · rw [if_pos nothing]
    exact ⟨rfl, rfl⟩
  · rw [if_neg nothing]
    exact ⟨rfl, rfl, Nat.le_refl _⟩

/-- A loop never counts more than it has written. -/
theorem le_written (counted : copy.Counted) : copy.bytesCount ≤ copy.written.length := by
  have written := counted.written
  split at written
  · omega
  · omega
  · omega
  · omega
  · omega
  · omega
  · exact written

/-- A loop that has reached the end of file has counted everything. -/
theorem eq_written (counted : copy.Counted) (ended : copy.phase = .finished (.ok ())) :
    copy.bytesCount = copy.written.length := by
  have written := counted.written
  rw [ended] at written
  exact written.symm

theorem step {event : CopyEvent} (counted : copy.Counted)
    (stepped : copyStep texts now inbound copy event = some (inbound', copy')) :
    copy'.Counted := by
  have stats := counted.stats
  have written := counted.written
  unfold uncounted at stats
  cases copyStep_move stepped with
  | wrotePart phase inside =>
      rw [phase] at stats written
      refine ⟨stats, ?_⟩
      simp only [Copy.wrote, List.length_append, List.length_take, List.length_drop]
      omega
  | wroteAll phase =>
      rw [phase] at stats written
      refine ⟨stats, ?_⟩
      simp only [Copy.wrote, List.length_append, List.length_take]
      omega
  | writeFailed error phase inside =>
      rw [phase] at stats written
      refine ⟨stats, ?_⟩
      simp only [Copy.wrote, List.length_append, List.length_take]
      omega
  | writeTimedOut phase due =>
      rw [phase] at stats written
      refine ⟨stats, ?_⟩
      dsimp only at written ⊢
      omega
  | countStats phase =>
      rw [phase] at stats written
      refine ⟨?_, written⟩
      dsimp only [uncounted] at stats ⊢
      omega
  | countBytes phase =>
      rw [phase] at stats written
      exact ⟨stats, written⟩
  | readChunk phase inside =>
      rw [phase] at stats written
      refine ⟨stats, ?_⟩
      simp only [List.length_take]
      dsimp only at written
      omega
  | readEof phase ended =>
      rw [phase] at stats written
      exact ⟨stats, written⟩
  | readFailed error phase =>
      rw [phase] at stats written
      exact ⟨stats, Nat.le_of_eq written.symm⟩
  | idle phase silent =>
      rw [phase] at stats written
      exact ⟨stats, Nat.le_of_eq written.symm⟩
  | shutdownDone phase =>
      rw [phase] at stats written
      exact ⟨stats, written⟩

end Counted

end Copy

/-- Both loops of a relay are counted. -/
def Relay.CountsBoth (relay : Relay) : Prop := ∀ source, (relay.copies.get source).Counted

namespace Relay.CountsBoth

variable {relay : Relay}

theorem start (leftover targetLeftover : Bytes) (now : Nat) :
    (Relay.start leftover targetLeftover now).CountsBoth := by
  intro source
  cases source with
  | client => exact Copy.Counted.start leftover now
  | target => exact Copy.Counted.start targetLeftover now

theorem step {next : ClockedRelay} {clocked : ClockedRelay} {event : ClockedEvent}
    (counts : clocked.relay.CountsBoth) (stepped : clocked.step event = some next) :
    next.relay.CountsBoth := by
  cases event with
  | tick duration =>
      cases stepped
      exact counts
  | relay event =>
      obtain ⟨moved, relayStepped, rfl⟩ := Option.map_eq_some_iff.mp stepped
      have preserved : Relay.IsPreserved clocked.now fun _ _ copy => copy.Counted :=
        ⟨fun counted _ => counted, fun counted _ => counted,
          fun counted copied => counted.step copied⟩
      exact Relay.sides_step preserved counts relayStepped

end Relay.CountsBoth

/-- In every state of every run, both loops are counted. -/
theorem relay_counted {leftover targetLeftover : Bytes} {now : Nat} {events : List ClockedEvent}
    {reached : ClockedRelay}
    (run : Machine.run ClockedRelay.step (.start leftover targetLeftover now) events =
      some reached) : reached.relay.CountsBoth :=
  Machine.run_invariant (fun clocked => clocked.relay.CountsBoth)
    (Relay.CountsBoth.start leftover targetLeftover now)
    (fun _ _ _ counts stepped => counts.step stepped) run

end SimpleForwarder

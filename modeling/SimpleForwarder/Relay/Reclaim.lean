import SimpleForwarder.Relay.Timing

/-!
Contract: a relay on which nothing moves any more ends (`relay_data`).

Owns: the runs under a runtime that fires its timers when they are due
(`IsPrompt`), the time and the steps that are left to a relay without traffic
(`silent_relay_ends`), and the time that is left to a half-closed one
(`half_closed_relay_ends`).

`ClockedRelay.step` lets any time pass in any state. A runtime that polls its
futures when they are ready lets time pass only while the relay waits.

Does not own: what the timers have to do with the arrivals.
-/

namespace SimpleForwarder

open RustText

/-- Every loop that has not finished waits, and the linger timer is not due. -/
def Relay.canWait (relay : Relay) (now : Nat) : Bool :=
  ([Peer.client, Peer.target].all fun peer =>
    (relay.copies.get peer).isDone ||
      (relay.copies.get peer).isWaiting now (relay.inbound.get peer)) &&
  relay.linger.all fun deadline => now < deadline

/-- Time passes over a running relay only as long as it waits. -/
def ClockedRelay.IsPrompt (clocked : ClockedRelay) : ClockedEvent → Prop
  | .tick duration => clocked.relay.ending = none →
      ∀ elapsed < duration, clocked.relay.canWait (clocked.now + elapsed) = true
  | .relay _ => True

/-- Bytes arrive, a side closes, or bytes of a pending write leave. -/
def RelayEvent.isTraffic : RelayEvent → Bool
  | .arrive _ _ => true
  | .close _ => true
  | .copy _ (.wrote _) => true
  | _ => false

def ClockedEvent.isTraffic : ClockedEvent → Bool
  | .tick _ => false
  | .relay event => event.isTraffic

def ClockedEvent.isTick : ClockedEvent → Bool
  | .tick _ => true
  | .relay _ => false

/-- The time at which the timeout around the pending operation was armed. -/
def CopyPhase.armedAt : CopyPhase → Option Nat
  | .writing _ _ _ since => some since
  | .reading since => some since
  | .shuttingDown since => some since
  | _ => none

/-- The most steps a loop can take before bytes leave again. -/
def CopyPhase.stepsLeft : CopyPhase → Nat
  | .countingStats _ => 5
  | .countingBytes _ => 4
  | .reading _ => 3
  | .writing _ _ _ _ => 2
  | .shuttingDown _ => 1
  | .finished _ => 0

/-! ## One loop -/

namespace Copy

variable {now later : Nat} {inbound : Inbound} {copy : Copy}

/-- A loop that waits has waited before. -/
theorem isWaiting_of_le (earlier : now ≤ later) (waiting : copy.isWaiting later inbound = true) :
    copy.isWaiting now inbound = true := by
  cases phase : copy.phase with
  | writing pending size isLeftover since =>
      simp only [isWaiting, phase, decide_eq_true_eq] at waiting ⊢
      omega
  | reading since =>
      simp only [isWaiting, phase, Bool.and_eq_true, decide_eq_true_eq] at waiting ⊢
      exact ⟨waiting.1, Nat.lt_of_le_of_lt earlier waiting.2⟩
  | shuttingDown since =>
      simp only [isWaiting, phase, decide_eq_true_eq] at waiting ⊢
      omega
  | countingStats size => simp [isWaiting, phase] at waiting
  | countingBytes size => simp [isWaiting, phase] at waiting
  | finished result => simp [isWaiting, phase] at waiting

/-- No timeout is longer than the idle timeout. -/
theorem lt_of_isWaiting (waiting : copy.isWaiting now inbound = true) :
    ∃ since, copy.phase.armedAt = some since ∧ now < since + idleTimeout := by
  have shorter : writeTimeout ≤ idleTimeout := by decide
  cases phase : copy.phase with
  | writing pending size isLeftover since =>
      simp only [isWaiting, phase, decide_eq_true_eq] at waiting
      exact ⟨since, rfl, by omega⟩
  | reading since =>
      simp only [isWaiting, phase, Bool.and_eq_true, decide_eq_true_eq] at waiting
      exact ⟨since, rfl, waiting.2⟩
  | shuttingDown since =>
      simp only [isWaiting, phase, decide_eq_true_eq] at waiting
      exact ⟨since, rfl, by omega⟩
  | countingStats size => simp [isWaiting, phase] at waiting
  | countingBytes size => simp [isWaiting, phase] at waiting
  | finished result => simp [isWaiting, phase] at waiting

/-- A loop that neither has finished nor waits can go on without traffic. -/
theorem proceeds (texts : CopyTexts) (unfinished : copy.isDone = false)
    (busy : copy.isWaiting now inbound = false) :
    ∃ event, (copyStep texts now inbound copy event).isSome = true ∧
      ∀ count, event ≠ .wrote count := by
  cases phase : copy.phase with
  | writing pending size isLeftover since =>
      simp only [isWaiting, phase, decide_eq_false_iff_not, Nat.not_lt] at busy
      exact ⟨.writeTimedOut, by simp [copyStep, phase, busy], nofun⟩
  | countingStats size => exact ⟨.countStats, by simp [copyStep, phase], nofun⟩
  | countingBytes size => exact ⟨.countBytes, by simp [copyStep, phase], nofun⟩
  | reading since =>
      by_cases drained : inbound.queue = []
      · by_cases ended : inbound.fin = true
        · exact ⟨.readEof, by simp [copyStep, phase, drained, ended], nofun⟩
        · have opened : inbound.fin = false := Bool.eq_false_iff.mpr ended
          simp only [isWaiting, phase, drained, opened, decide_true, Bool.true_and,
            decide_eq_false_iff_not, Nat.not_lt] at busy
          exact ⟨.idle, by simp [copyStep, phase, drained, opened, busy], nofun⟩
      · have inside : 1 ≤ inbound.queue.length := List.length_pos_of_ne_nil drained
        have fits : 1 ≤ relayBufSize := by decide
        exact ⟨.readChunk 1, by simp [copyStep, phase, inside, fits], nofun⟩
  | shuttingDown since => exact ⟨.shutdownDone, by simp [copyStep, phase], nofun⟩
  | finished result => simp [isDone, phase] at unfinished

end Copy

section Loops

variable {texts : CopyTexts} {now quiet : Nat} {inbound inbound' : Inbound}
  {copy copy' : Copy} {event : CopyEvent}

theorem CopyMove.armedAt_le (move : CopyMove texts now inbound copy event inbound' copy')
    (past : ∀ since, copy.phase.armedAt = some since → since ≤ now) :
    ∀ since, copy'.phase.armedAt = some since → since ≤ now := by
  intro since armed
  cases move with
  | wrotePart phase =>
      cases armed
      exact past _ (by rw [phase]; rfl)
  | countBytes =>
      cases armed
      exact Nat.le_refl now
  | readChunk =>
      cases armed
      exact Nat.le_refl now
  | readEof =>
      cases armed
      exact Nat.le_refl now
  | _ => exact absurd armed nofun

theorem CopyMove.stepsLeft_lt (move : CopyMove texts now inbound copy event inbound' copy')
    (silent : ∀ count, event ≠ .wrote count) :
    copy'.phase.stepsLeft < copy.phase.stepsLeft := by
  cases move with
  | wrotePart => exact absurd rfl (silent _)
  | wroteAll => exact absurd rfl (silent _)
  | writeFailed _ phase | writeTimedOut phase | countStats phase | countBytes phase
  | readChunk phase | readEof phase | readFailed _ phase | idle phase | shutdownDone phase =>
      simp [CopyPhase.stepsLeft, Copy.wrote, phase]

/-- The timer of the loop was armed before the silence. If time has passed in
it, the loop has been waiting. -/
structure Settles (quiet now : Nat) (inbound : Inbound) (copy : Copy) : Prop where
  armed : ∀ since, copy.phase.armedAt = some since → since ≤ quiet
  waited : quiet < now → copy.isDone = true ∨ copy.isWaiting (now - 1) inbound = true

/-- A loop with something to do has had no time to pass. -/
theorem Settles.now_le (settles : Settles quiet now inbound copy) (unfinished : copy.isDone = false)
    (busy : ∀ instant, copy.isWaiting instant inbound = false) : now ≤ quiet := by
  refine Nat.le_of_not_lt fun passed => ?_
  rcases settles.waited passed with done | waiting
  · exact absurd (done.symm.trans unfinished) nofun
  · exact absurd (waiting.symm.trans (busy _)) nofun

theorem Settles.step (settles : Settles quiet now inbound copy)
    (move : CopyMove texts now inbound copy event inbound' copy')
    (silent : ∀ count, event ≠ .wrote count) : Settles quiet now inbound' copy' := by
  have unfinished := move.unfinished
  have ends : ∀ {result : Except Text Unit}, copy'.phase = .finished result →
      Settles quiet now inbound' copy' := by
    intro result finished
    refine ⟨fun since armed => ?_, fun _ => .inl ?_⟩
    · rw [finished] at armed
      exact absurd armed nofun
    · unfold Copy.isDone
      rw [finished]
  have atOnce : now ≤ quiet → (∀ since, copy'.phase.armedAt = some since → since ≤ now) →
      Settles quiet now inbound' copy' := fun early armed =>
    ⟨fun since same => Nat.le_trans (armed since same) early,
      fun passed => absurd early (Nat.not_le_of_lt passed)⟩
  cases move with
  | wrotePart => exact absurd rfl (silent _)
  | wroteAll => exact absurd rfl (silent _)
  | writeFailed | writeTimedOut | readFailed | idle | shutdownDone => exact ends rfl
  | countStats phase =>
      have early := settles.now_le unfinished fun _ => by simp [Copy.isWaiting, phase]
      exact atOnce early nofun
  | countBytes phase =>
      have early := settles.now_le unfinished fun _ => by simp [Copy.isWaiting, phase]
      refine atOnce early fun since armed => ?_
      cases armed
      exact Nat.le_refl now
  | readChunk phase inside =>
      have nonempty : inbound.queue ≠ [] := List.ne_nil_of_length_pos (by omega)
      have early := settles.now_le unfinished fun _ => by simp [Copy.isWaiting, phase, nonempty]
      refine atOnce early fun since armed => ?_
      cases armed
      exact Nat.le_refl now
  | readEof phase ended =>
      have early := settles.now_le unfinished fun _ => by simp [Copy.isWaiting, phase, ended.2]
      refine atOnce early fun since armed => ?_
      cases armed
      exact Nat.le_refl now

end Loops

/-! ## The relay -/

namespace Relay

variable {relay next : Relay} {now quiet : Nat} {event : RelayEvent}

/-- As long as the relay runs, one of its loops does. -/
def IsOpen (relay : Relay) : Prop :=
  relay.ending = none → ∃ peer, (relay.copies.get peer).isDone = false

theorem IsOpen.start (leftover targetLeftover : Bytes) (now : Nat) :
    (start leftover targetLeftover now).IsOpen := by
  refine fun _ => ⟨.client, ?_⟩
  change (Copy.start leftover now).isDone = false
  unfold Copy.isDone Copy.start
  dsimp only
  split
  · next finished =>
      split at finished
      · exact absurd finished nofun
      · exact absurd finished nofun
  · rfl

theorem IsOpen.step (isOpen : relay.IsOpen) (stepped : relay.step now event = some next) :
    next.IsOpen := by
  obtain ⟨running, move⟩ := step_move stepped
  intro runs
  cases move with
  | arrive => exact isOpen running
  | close => exact isOpen running
  | lingerElapsed => exact absurd runs nofun
  | @copy source event inbound copy moved copied movedEq =>
      rw [select_copies]
      unfold select at runs
      split at runs
      · exact absurd runs nofun
      · split at runs
        · exact absurd runs nofun
        · next otherRuns => exact ⟨source.other, Bool.eq_false_iff.mpr otherRuns⟩
      · next notFailed notFinished =>
          refine ⟨source, ?_⟩
          unfold Copy.isDone
          split
          · next result finished =>
              cases result with
              | ok done => exact absurd finished notFinished
              | error error => exact absurd finished (notFailed error)
          · rfl

/-- The most steps the relay can take before bytes move again. -/
def stepsLeft (relay : Relay) : Nat :=
  if relay.ending = none then
    1 + (relay.copies.client.phase.stepsLeft + relay.copies.target.phase.stepsLeft)
  else 0

theorem stepsLeft_le (relay : Relay) : relay.stepsLeft ≤ 11 := by
  have few : ∀ phase : CopyPhase, phase.stepsLeft ≤ 5 := by
    intro phase
    cases phase with
    | _ => simp [CopyPhase.stepsLeft]
  have client := few relay.copies.client.phase
  have target := few relay.copies.target.phase
  unfold stepsLeft
  split
  · omega
  · exact Nat.zero_le 11

theorem stepsLeft_lt (stepped : relay.step now event = some next)
    (silent : event.isTraffic = false) : next.stepsLeft < relay.stepsLeft := by
  obtain ⟨running, move⟩ := step_move stepped
  have before : relay.stepsLeft =
      1 + (relay.copies.client.phase.stepsLeft + relay.copies.target.phase.stepsLeft) :=
    if_pos running
  have after : next.stepsLeft ≤
      1 + (next.copies.client.phase.stepsLeft + next.copies.target.phase.stepsLeft) := by
    unfold stepsLeft
    split
    · exact Nat.le_refl _
    · exact Nat.zero_le _
  cases move with
  | arrive => exact absurd silent nofun
  | close => exact absurd silent nofun
  | lingerElapsed =>
      rw [before]
      exact Nat.add_pos_left Nat.one_pos _
  | @copy source event inbound copy moved copied movedEq =>
      have noBytes : ∀ count, event ≠ .wrote count := by
        rintro count rfl
        exact absurd silent nofun
      have fewer := (copyStep_move copied).stepsLeft_lt noBytes
      have copies : (moved.select now source).copies = relay.copies.set source copy := by
        rw [select_copies, movedEq]
      rw [copies] at after
      cases source with
      | client =>
          dsimp only [Sides.get, Sides.set] at fewer after
          omega
      | target =>
          dsimp only [Sides.get, Sides.set] at fewer after
          omega

/-- A running relay that cannot wait can go on without traffic. -/
theorem proceeds (running : relay.ending = none) (busy : relay.canWait now = false) :
    ∃ event next, relay.step now event = some next ∧ event.isTraffic = false := by
  by_cases waiting : ∀ peer, (relay.copies.get peer).isDone = true ∨
      (relay.copies.get peer).isWaiting now (relay.inbound.get peer) = true
  · -- only the linger timer is due
    have all : ([Peer.client, Peer.target].all fun peer => (relay.copies.get peer).isDone ||
        (relay.copies.get peer).isWaiting now (relay.inbound.get peer)) = true :=
      List.all_eq_true.mpr fun peer _ => Bool.or_eq_true_iff.mpr (waiting peer)
    have lingers : relay.lingers now = true := by
      unfold canWait at busy
      rw [all, Bool.true_and] at busy
      unfold Relay.lingers
      cases timer : relay.linger with
      | none =>
          rw [timer] at busy
          exact absurd busy nofun
      | some deadline =>
          rw [timer] at busy
          dsimp only
          rw [all, Bool.and_true]
          simpa using busy
    refine ⟨.lingerElapsed, { relay with ending := some .closed }, ?_, rfl⟩
    unfold step
    rw [running]
    exact if_pos lingers
  · obtain ⟨peer, stops⟩ := not_forall.mp waiting
    obtain ⟨unfinished, runs⟩ := not_or.mp stops
    obtain ⟨event, steps, silent⟩ := Copy.proceeds (copyTexts peer)
      (Bool.eq_false_iff.mpr unfinished) (Bool.eq_false_iff.mpr runs)
    obtain ⟨moved, stepped⟩ := Option.isSome_iff_exists.mp steps
    have moves : (relay.step now (.copy peer event)).isSome = true := by
      simp [step, copyAt, running, stepped]
    obtain ⟨next, moves⟩ := Option.isSome_iff_exists.mp moves
    refine ⟨.copy peer event, next, moves, ?_⟩
    cases event with
    | wrote count => exact absurd rfl (silent count)
    | _ => rfl

end Relay

/-! ## Silence -/

namespace ClockedRelay

variable {clocked next half last : ClockedRelay} {event : ClockedEvent} {quiet : Nat}

/-- The runtime is prompt, and no bytes move. -/
def IsQuiet (clocked : ClockedRelay) (event : ClockedEvent) : Prop :=
  clocked.IsPrompt event ∧ event.isTraffic = false

/-- It is enough that the relay still waits in the last instant. -/
theorem isPrompt_tick_iff {duration : Nat} :
    clocked.IsPrompt (.tick duration) ↔ (clocked.relay.ending = none → 0 < duration →
      clocked.relay.canWait (clocked.now + (duration - 1)) = true) := by
  constructor
  · intro prompt running positive
    exact prompt running (duration - 1) (Nat.sub_lt positive Nat.one_pos)
  · intro waits running elapsed within
    have last := waits running (Nat.zero_lt_of_lt within)
    have before : clocked.now + elapsed ≤ clocked.now + (duration - 1) := by omega
    unfold Relay.canWait at last ⊢
    simp only [Bool.and_eq_true, List.all_eq_true, Bool.or_eq_true, Option.all_eq_true,
      decide_eq_true_eq] at last ⊢
    refine ⟨fun peer member => ?_, fun deadline timer => ?_⟩
    · exact (last.1 peer member).imp_right (Copy.isWaiting_of_le before)
    · exact Nat.lt_of_le_of_lt before (last.2 deadline timer)

instance decidableIsPrompt (clocked : ClockedRelay) :
    (event : ClockedEvent) → Decidable (clocked.IsPrompt event)
  | .tick _ => decidable_of_iff _ isPrompt_tick_iff.symm
  | .relay _ => .isTrue trivial

/-- Every timer of a loop was armed in the past. -/
def ArmedBefore (clocked : ClockedRelay) : Prop :=
  ∀ peer since, (clocked.relay.copies.get peer).phase.armedAt = some since → since ≤ clocked.now

theorem ArmedBefore.step (armed : clocked.ArmedBefore) (stepped : clocked.step event = some next) :
    next.ArmedBefore := by
  cases event with
  | tick duration =>
      cases stepped
      exact fun peer since same => Nat.le_trans (armed peer since same) (Nat.le_add_right _ _)
  | relay event =>
      obtain ⟨relay, relayStepped, rfl⟩ := Option.map_eq_some_iff.mp stepped
      have preserved : Relay.IsPreserved clocked.now fun _ _ copy =>
          ∀ since, copy.phase.armedAt = some since → since ≤ clocked.now :=
        ⟨fun armed _ => armed, fun armed _ => armed,
          fun armed copied => (copyStep_move copied).armedAt_le armed⟩
      exact Relay.sides_step preserved armed relayStepped

theorem ArmedBefore.start (leftover targetLeftover : Bytes) (now : Nat) :
    (start leftover targetLeftover now).ArmedBefore := by
  have begins : ∀ (leftover : Bytes) (since : Nat),
      (Copy.start leftover now).phase.armedAt = some since → since ≤ now := by
    intro leftover since armed
    unfold Copy.start at armed
    dsimp only at armed
    split at armed
    · cases armed
      exact Nat.le_refl now
    · cases armed
      exact Nat.le_refl now
  intro peer
  cases peer with
  | client => exact begins leftover
  | target => exact begins targetLeftover

/-- What holds of a relay on which nothing has moved since `quiet`. -/
structure Settling (quiet : Nat) (clocked : ClockedRelay) : Prop where
  isOpen : clocked.relay.IsOpen
  settles : clocked.relay.ending = none → ∀ peer,
    Settles quiet clocked.now (clocked.relay.inbound.get peer) (clocked.relay.copies.get peer)

theorem Settling.step (settling : clocked.Settling quiet) (isQuiet : clocked.IsQuiet event)
    (stepped : clocked.step event = some next) : next.Settling quiet := by
  obtain ⟨prompt, silent⟩ := isQuiet
  cases event with
  | tick duration =>
      cases stepped
      refine ⟨settling.isOpen, fun running peer => ?_⟩
      have settles := settling.settles running peer
      refine ⟨settles.armed, fun passed => ?_⟩
      rcases Nat.eq_zero_or_pos duration with rfl | positive
      · exact settles.waited passed
      · have waits := isPrompt_tick_iff.mp prompt running positive
        have instant : clocked.now + (duration - 1) = clocked.now + duration - 1 := by omega
        rw [instant] at waits
        unfold Relay.canWait at waits
        rw [Bool.and_eq_true, List.all_eq_true] at waits
        have member : peer ∈ [Peer.client, Peer.target] := by
          cases peer with
          | client => decide
          | target => decide
        exact Bool.or_eq_true_iff.mp (waits.1 peer member)
  | relay event =>
      obtain ⟨relay, relayStepped, rfl⟩ := Option.map_eq_some_iff.mp stepped
      refine ⟨settling.isOpen.step relayStepped, fun _ => ?_⟩
      obtain ⟨running, move⟩ := Relay.step_move relayStepped
      have settles := settling.settles running
      cases move with
      | arrive => exact absurd silent nofun
      | close => exact absurd silent nofun
      | lingerElapsed => exact settles
      | @copy source event inbound copy moved copied movedEq =>
          have noBytes : ∀ count, event ≠ .wrote count := by
            rintro count rfl
            exact absurd silent nofun
          intro peer
          dsimp only
          rw [Relay.select_inbound, Relay.select_copies, movedEq]
          dsimp only
          by_cases same : peer = source
          · rw [same, Sides.get_set_self, Sides.get_set_self]
            exact (settles source).step (copyStep_move copied) noBytes
          · rw [Sides.get_set_of_ne _ _ same, Sides.get_set_of_ne _ _ same]
            exact settles peer

/-- A loop that runs has a timer that has not elapsed. -/
theorem Settling.now_le (settling : clocked.Settling quiet)
    (running : clocked.relay.ending = none) : clocked.now ≤ quiet + idleTimeout := by
  obtain ⟨peer, unfinished⟩ := settling.isOpen running
  have settles := settling.settles running peer
  rcases Nat.lt_or_ge quiet clocked.now with passed | early
  · rcases settles.waited passed with done | waiting
    · exact absurd (done.symm.trans unfinished) nofun
    · obtain ⟨since, armed, inTime⟩ := Copy.lt_of_isWaiting waiting
      have past := settles.armed since armed
      omega
  · exact Nat.le_trans early (Nat.le_add_right _ _)

/-- A running relay goes on in silence, and comes closer to its end. -/
theorem Settling.proceeds (settling : clocked.Settling quiet)
    (running : clocked.relay.ending = none) :
    ∃ event next, clocked.step event = some next ∧ clocked.IsQuiet event ∧
      next.Settling quiet ∧
      next.relay.stepsLeft + (quiet + idleTimeout - next.now) <
        clocked.relay.stepsLeft + (quiet + idleTimeout - clocked.now) := by
  by_cases waits : clocked.relay.canWait clocked.now = true
  · have isQuiet : clocked.IsQuiet (.tick 1) := ⟨isPrompt_tick_iff.mpr fun _ _ => waits, rfl⟩
    have settled : ({ clocked with now := clocked.now + 1 } : ClockedRelay).Settling quiet :=
      settling.step isQuiet rfl
    have inTime := settled.now_le running
    exact ⟨.tick 1, _, rfl, isQuiet, settled, by dsimp only at inTime ⊢; omega⟩
  · obtain ⟨event, relay, stepped, silent⟩ :=
      clocked.relay.proceeds running (Bool.eq_false_iff.mpr waits)
    have isQuiet : clocked.IsQuiet (.relay event) := ⟨trivial, silent⟩
    have moves : clocked.step (.relay event) = some { clocked with relay := relay } :=
      Option.map_eq_some_iff.mpr ⟨relay, stepped, rfl⟩
    have fewer := Relay.stepsLeft_lt stepped silent
    exact ⟨.relay event, _, moves, isQuiet, settling.step isQuiet moves, by dsimp only; omega⟩

/-- What is left of a relay on which nothing moves from now on: it runs no longer
than `idleTimeout`, in at most eleven steps, and it does come to its end. -/
structure WindsDown (clocked : ClockedRelay) : Prop where
  bounded : ∀ events last, Machine.run step clocked events = some last →
    Machine.Along step IsQuiet clocked events →
    (last.relay.ending = none → last.now ≤ clocked.now + idleTimeout) ∧
      events.countP (!·.isTick) ≤ 11
  ends : ∃ events last, Machine.run step clocked events = some last ∧
    Machine.Along step IsQuiet clocked events ∧ last.relay.ending ≠ none

end ClockedRelay

variable {leftover targetLeftover : Bytes} {start : Nat} {events more : List ClockedEvent}
  {clocked : ClockedRelay}

/-- From every state that a run reaches, whatever has happened in it. -/
theorem silent_relay_ends
    (run : Machine.run ClockedRelay.step (.start leftover targetLeftover start) events =
      some clocked) : clocked.WindsDown := by
  have isOpen : clocked.relay.IsOpen := by
    refine Machine.run_invariant (fun clocked => clocked.relay.IsOpen)
      (Relay.IsOpen.start leftover targetLeftover start) ?_ run
    intro clocked event next isOpen stepped
    cases event with
    | tick duration =>
        cases stepped
        exact isOpen
    | relay event =>
        obtain ⟨relay, relayStepped, rfl⟩ := Option.map_eq_some_iff.mp stepped
        exact isOpen.step relayStepped
  have armed : clocked.ArmedBefore :=
    Machine.run_invariant ClockedRelay.ArmedBefore
      (ClockedRelay.ArmedBefore.start leftover targetLeftover start)
      (fun _ _ _ armed stepped => armed.step stepped) run
  have settling : clocked.Settling clocked.now :=
    ⟨isOpen, fun _ peer => ⟨armed peer, fun passed => absurd passed (Nat.lt_irrefl _)⟩⟩
  refine ⟨fun events last reached along => ⟨fun running => ?_, ?_⟩, ?_⟩
  · have settled := Machine.run_invariant_along (ClockedRelay.Settling clocked.now) settling
      (fun _ _ _ settling isQuiet stepped => settling.step isQuiet stepped) along reached
    exact settled.now_le running
  · have counted : events.countP (!·.isTick) + last.relay.stepsLeft ≤ 11 := by
      refine Machine.run_history_along
        (fun history state => history.countP (!·.isTick) + state.relay.stepsLeft ≤ 11)
        ?_ ?_ along reached
      · rw [List.countP_nil, Nat.zero_add]
        exact clocked.relay.stepsLeft_le
      · intro history state event next few isQuiet stepped
        rw [List.countP_append, List.countP_singleton]
        cases event with
        | tick duration =>
            cases stepped
            exact few
        | relay event =>
            obtain ⟨relay, relayStepped, rfl⟩ := Option.map_eq_some_iff.mp stepped
            have fewer := Relay.stepsLeft_lt relayStepped isQuiet.2
            have counts : (!ClockedEvent.isTick (.relay event)) = true := rfl
            rw [if_pos counts]
            dsimp only
            omega
    omega
  · exact Machine.run_reaches
      (fun state => state.relay.stepsLeft + (clocked.now + idleTimeout - state.now))
      (ClockedRelay.Settling clocked.now) (fun state => state.relay.ending ≠ none)
      (fun _ settling running => settling.proceeds (not_not.mp running)) settling

/-- The client has been silent for five minutes; the target has just been read. -/
theorem silent_relay_ends_silentClient : silentClient.WindsDown :=
  silent_relay_ends run_busyTarget

/-! ## Half-closed relays -/

/-- Once one side's loop has finished, a relay under a prompt runtime runs no
longer than `lingerTimeout`, whatever still moves. -/
theorem half_closed_relay_ends {before half : ClockedRelay} {source : Peer}
    (finishes : before.step (.relay (.copy source .shutdownDone)) = some half)
    (running : half.relay.ending = none)
    (later : Machine.run ClockedRelay.step half more = some clocked)
    (prompt : Machine.Along ClockedRelay.step ClockedRelay.IsPrompt half more)
    (runs : clocked.relay.ending = none) : clocked.now ≤ before.now + lingerTimeout := by
  have begins : half.relay.HalfClosed source (before.now + lingerTimeout) ∧
      half.now = before.now := by
    obtain ⟨relay, relayStepped, rfl⟩ := Option.map_eq_some_iff.mp finishes
    exact ⟨.begins relayStepped running, rfl⟩
  have stays : clocked.relay.HalfClosed source (before.now + lingerTimeout) ∧
      (clocked.relay.ending = none → clocked.now ≤ before.now + lingerTimeout) := by
    refine Machine.run_invariant_along
      (fun clocked => clocked.relay.HalfClosed source (before.now + lingerTimeout) ∧
        (clocked.relay.ending = none → clocked.now ≤ before.now + lingerTimeout))
      ⟨begins.1, fun _ => begins.2 ▸ Nat.le_add_right _ _⟩ ?_ prompt later
    intro clocked event next inv isPrompt stepped
    obtain ⟨halfClosed, inTime⟩ := inv
    cases event with
    | tick duration =>
        cases stepped
        refine ⟨halfClosed, fun running => ?_⟩
        rcases Nat.eq_zero_or_pos duration with rfl | positive
        · exact inTime running
        · have waits := ClockedRelay.isPrompt_tick_iff.mp isPrompt running positive
          unfold Relay.canWait at waits
          rw [halfClosed.linger, Bool.and_eq_true] at waits
          have early := of_decide_eq_true waits.2
          dsimp only
          omega
    | relay event =>
        obtain ⟨relay, relayStepped, rfl⟩ := Option.map_eq_some_iff.mp stepped
        exact ⟨(halfClosed.step relayStepped).1,
          fun _ => inTime (Relay.step_move relayStepped).1⟩
  exact stays.2 runs

/-- The target answers after 14 seconds; the relay ends one second later. -/
theorem half_closed_relay_ends_slow : lingeringState.now ≤ clientEof.now + lingerTimeout :=
  half_closed_relay_ends clientEof_finishes rfl run_slowResponse (by decide +kernel) rfl

end SimpleForwarder

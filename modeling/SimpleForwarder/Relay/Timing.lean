import SimpleForwarder.Relay.Select

/-!
Contract: the timers of the relay.

Owns: what the idle timers have to do with the arrivals of their own side
(`idle_side_silent`), and what the linger timer leaves of a direction whose
other side has closed (`half_closed_until_linger`).

Each copy loop has its own idle timer, which only its own reads restart. The
linger timer is armed once, when the first of the two loops finishes.

Does not own: the transitions of the loops.
-/

namespace SimpleForwarder

open RustText

/-! ## Idle timers -/

/-- The timer of a pending read was armed in the relay, and after the last
arrival unless data is waiting. -/
structure ReadsOnTime (start now : Nat) (inbound : Inbound) (copy : Copy) : Prop where
  started : start ≤ now
  arrived : ∀ last, inbound.lastArrival = some last → last ≤ now
  begun : ∀ since, copy.phase = .reading since → start ≤ since
  armed : ∀ since, copy.phase = .reading since → inbound.queue = [] →
    ∀ last, inbound.lastArrival = some last → last ≤ since

namespace ReadsOnTime

variable {start now later : Nat} {inbound inbound' : Inbound} {copy copy' : Copy} {texts : CopyTexts}

theorem begins (leftover : Bytes) (start : Nat) :
    ReadsOnTime start start .empty (.start leftover start) where
  started := Nat.le_refl start
  arrived := nofun
  begun := by
    intro since reading
    unfold Copy.start at reading
    dsimp only at reading
    split at reading
    · cases reading
      exact Nat.le_refl start
    · exact absurd reading nofun
  armed := fun _ _ _ => nofun

theorem wait (onTime : ReadsOnTime start now inbound copy) (passes : now ≤ later) :
    ReadsOnTime start later inbound copy where
  started := Nat.le_trans onTime.started passes
  arrived := fun last arrived => Nat.le_trans (onTime.arrived last arrived) passes
  begun := onTime.begun
  armed := onTime.armed

theorem arrive {bytes : Bytes} (onTime : ReadsOnTime start now inbound copy)
    (arrived : inbound.arrive now bytes = some inbound') :
    ReadsOnTime start now inbound' copy := by
  unfold Inbound.arrive at arrived
  split at arrived
  · next nonempty =>
      cases arrived
      refine ⟨onTime.started, ?_, onTime.begun, ?_⟩
      · intro last same
        exact Nat.le_of_eq (Option.some.inj same).symm
      · intro since reading drained
        exact absurd (List.append_eq_nil_iff.mp drained).2 nonempty.1
  · exact absurd arrived nofun

theorem close (onTime : ReadsOnTime start now inbound copy)
    (closed : inbound.close = some inbound') : ReadsOnTime start now inbound' copy := by
  unfold Inbound.close at closed
  split at closed
  · cases closed
    exact ⟨onTime.started, onTime.arrived, onTime.begun, onTime.armed⟩
  · exact absurd closed nofun

/-- A step reads nothing that has not arrived, and arms the timer now. -/
theorem step {event : CopyEvent} (onTime : ReadsOnTime start now inbound copy)
    (stepped : copyStep texts now inbound copy event = some (inbound', copy')) :
    ReadsOnTime start now inbound' copy' := by
  have move := copyStep_move stepped
  have armsNow : ∀ since, copy'.phase = .reading since → since = now := by
    intro since reading
    cases move with
    | countBytes =>
        cases reading
        rfl
    | _ => exact absurd reading nofun
  have sameArrival : inbound'.lastArrival = inbound.lastArrival := by
    cases move with
    | _ => rfl
  refine ⟨onTime.started, ?_, ?_, ?_⟩
  · rw [sameArrival]
    exact onTime.arrived
  · intro since reading
    rw [armsNow since reading]
    exact onTime.started
  · intro since reading drained
    rw [armsNow since reading, sameArrival]
    exact onTime.arrived

end ReadsOnTime

/-- Both directions read on time. -/
def ClockedRelay.ReadsOnTime (start : Nat) (clocked : ClockedRelay) : Prop :=
  ∀ peer, SimpleForwarder.ReadsOnTime start clocked.now (clocked.relay.inbound.get peer)
    (clocked.relay.copies.get peer)

theorem ClockedRelay.ReadsOnTime.step {start : Nat} {clocked next : ClockedRelay}
    {event : ClockedEvent} (onTime : clocked.ReadsOnTime start)
    (stepped : clocked.step event = some next) : next.ReadsOnTime start := by
  cases event with
  | tick duration =>
      cases stepped
      exact fun peer => (onTime peer).wait (Nat.le_add_right _ _)
  | relay event =>
      obtain ⟨relay, relayStepped, rfl⟩ := Option.map_eq_some_iff.mp stepped
      have preserved : Relay.IsPreserved clocked.now fun _ inbound copy =>
          SimpleForwarder.ReadsOnTime start clocked.now inbound copy :=
        ⟨fun onTime arrived => onTime.arrive arrived, fun onTime closed => onTime.close closed,
          fun onTime copied => onTime.step copied⟩
      exact Relay.sides_step preserved onTime relayStepped

variable {leftover targetLeftover : Bytes} {start : Nat} {events : List ClockedEvent}
  {clocked next : ClockedRelay}

theorem clockedRelay_readsOnTime
    (run : Machine.run ClockedRelay.step (.start leftover targetLeftover start) events =
      some clocked) : clocked.ReadsOnTime start := by
  refine Machine.run_invariant (ClockedRelay.ReadsOnTime start) ?_ ?_ run
  · intro peer
    cases peer with
    | client => exact ReadsOnTime.begins leftover start
    | target => exact ReadsOnTime.begins targetLeftover start
  · intro clocked event next onTime stepped
    exact onTime.step stepped

/-- An idle timeout ends the relay with the error of its side, and only if that
side has sent nothing during the preceding `idleTimeout`, all of which the
relay has been running. -/
theorem idle_side_silent
    (run : Machine.run ClockedRelay.step (.start leftover targetLeftover start) events =
      some clocked) {source : Peer}
    (idles : clocked.step (.relay (.copy source .idle)) = some next) :
    next.relay.ending = some (.failed (copyTexts source).idle) ∧
      start + idleTimeout ≤ clocked.now ∧
      ∀ last, (clocked.relay.inbound.get source).lastArrival = some last →
        last + idleTimeout ≤ clocked.now := by
  have onTime := clockedRelay_readsOnTime run source
  obtain ⟨relay, relayStepped, rfl⟩ := Option.map_eq_some_iff.mp idles
  obtain ⟨-, move⟩ := Relay.step_move relayStepped
  cases move with
  | @copy _ _ inbound copy moved copied movedEq =>
      cases copyStep_move copied with
      | @idle since phase silent =>
          obtain ⟨drained, -, due⟩ := silent
          have finished : (moved.copies.get source).phase =
              .finished (.error (copyTexts source).idle) := by
            rw [movedEq]
            dsimp only
            rw [Sides.get_set_self]
          refine ⟨?_, ?_, ?_⟩
          · unfold Relay.select
            rw [finished]
          · exact Nat.le_trans (Nat.add_le_add_right (onTime.begun since phase) _) due
          · intro last same
            have armed := onTime.armed since phase drained last same
            exact Nat.le_trans (Nat.add_le_add_right armed _) due

/-- A client that has been silent for `idleTimeout`, and a target that has
sent a byte in between. -/
def busyTarget : List ClockedEvent :=
  [.tick 200000, .relay (.arrive .target [0x2A]), .relay (.copy .target (.readChunk 1)),
    .relay (.copy .target (.wrote 1)), .relay (.copy .target .countStats),
    .relay (.copy .target .countBytes), .tick 100000]

def silentClient : ClockedRelay where
  now := 300000
  relay := {
    inbound := ⟨.empty, ⟨[], false, [0x2A], some 200000⟩⟩
    copies := ⟨⟨.reading 0, [], 0, 0⟩, ⟨.reading 200000, [0x2A], 1, 1⟩⟩
    linger := none
    ending := none
  }

theorem run_busyTarget :
    Machine.run ClockedRelay.step (.start [] [] 0) busyTarget = some silentClient := by
  decide +kernel

theorem silentClient_idles :
    ∃ next, silentClient.step (.relay (.copy .client .idle)) = some next :=
  Option.isSome_iff_exists.mp (by decide +kernel)

/-- The target has sent a byte 100 seconds before the relay idles. -/
theorem idle_beside_busy_side :
    ¬ ∀ start events clocked next source,
      Machine.run ClockedRelay.step (.start [] [] start) events = some clocked →
      clocked.step (.relay (.copy source .idle)) = some next →
      ∀ peer last, (clocked.relay.inbound.get peer).lastArrival = some last →
        last + idleTimeout ≤ clocked.now := by
  intro idle
  obtain ⟨next, idles⟩ := silentClient_idles
  have silent := idle 0 busyTarget silentClient next .client run_busyTarget idles .target 200000 rfl
  exact absurd silent (by decide)

/-- The relay ends with the error of the client's side. -/
theorem idle_side_silent_client :
    ∃ next, silentClient.step (.relay (.copy .client .idle)) = some next ∧
      next.relay.ending = some (.failed "Client connection idle timeout".toList) := by
  obtain ⟨next, idles⟩ := silentClient_idles
  exact ⟨next, idles, (idle_side_silent run_busyTarget idles).1⟩

/-! ## The linger timer -/

/-- The ways in which a loop gives up. -/
def CopyEvent.IsFailure : CopyEvent → Prop
  | .writeFailed _ _ => True
  | .writeTimedOut => True
  | .readFailed _ => True
  | .idle => True
  | _ => False

/-- A loop finishes with an error where it gives up, and with success where its
shutdown is done. -/
theorem CopyMove.finished {texts : CopyTexts} {now : Nat} {inbound inbound' : Inbound}
    {copy copy' : Copy} {event : CopyEvent} {result : Except Text Unit}
    (move : CopyMove texts now inbound copy event inbound' copy')
    (finished : copy'.phase = .finished result) :
    event.IsFailure ∧ (∃ error, result = .error error) ∨
      event = .shutdownDone ∧ result = .ok () := by
  cases move with
  | writeFailed error => exact .inl ⟨trivial, _, (CopyPhase.finished.inj finished).symm⟩
  | writeTimedOut => exact .inl ⟨trivial, _, (CopyPhase.finished.inj finished).symm⟩
  | readFailed error => exact .inl ⟨trivial, _, (CopyPhase.finished.inj finished).symm⟩
  | idle => exact .inl ⟨trivial, _, (CopyPhase.finished.inj finished).symm⟩
  | shutdownDone => exact .inr ⟨rfl, (CopyPhase.finished.inj finished).symm⟩
  | _ => exact absurd finished nofun

/-- A finished loop takes no step. -/
theorem CopyMove.unfinished {texts : CopyTexts} {now : Nat} {inbound inbound' : Inbound}
    {copy copy' : Copy} {event : CopyEvent}
    (move : CopyMove texts now inbound copy event inbound' copy') : copy.isDone = false := by
  unfold Copy.isDone
  cases move with
  | wrotePart phase | wroteAll phase | writeFailed _ phase | writeTimedOut phase
  | countStats phase | countBytes phase | readChunk phase | readEof phase | readFailed _ phase
  | idle phase | shutdownDone phase => rw [phase]

theorem Peer.eq_other_of_ne {peer source : Peer} (distinct : peer ≠ source) :
    peer = source.other := by
  cases peer with
  | client =>
      cases source with
      | client => exact absurd rfl distinct
      | target => rfl
  | target =>
      cases source with
      | client => rfl
      | target => exact absurd rfl distinct

@[simp] theorem Peer.other_other (source : Peer) : source.other.other = source := by
  cases source with
  | client => rfl
  | target => rfl

namespace Relay

/-- The loop that reads from `source` has finished, and the linger timer runs
for the other one. -/
structure HalfClosed (source : Peer) (deadline : Nat) (relay : Relay) : Prop where
  finished : (relay.copies.get source).phase = .finished (.ok ())
  linger : relay.linger = some deadline
  unfinished : relay.ending = none → (relay.copies.get source.other).isDone = false

/-- How a half-closed relay ends. -/
inductive HalfClosedEnding (source : Peer) (deadline now : Nat) (relay : Relay) :
    RelayEvent → Relay → Prop where
  | failed {event : CopyEvent} {error : Text} {next : Relay} (failure : event.IsFailure)
      (ending : next.ending = some (.failed error)) :
      HalfClosedEnding source deadline now relay (.copy source.other event) next
  | drained {next : Relay} (ending : next.ending = some .closed)
      (finished : (next.copies.get source.other).phase = .finished (.ok ())) :
      HalfClosedEnding source deadline now relay (.copy source.other .shutdownDone) next
  | lingered {next : Relay} (ending : next.ending = some .closed) (due : deadline ≤ now)
      (waiting : (relay.copies.get source.other).isWaiting now
        (relay.inbound.get source.other) = true) :
      HalfClosedEnding source deadline now relay .lingerElapsed next

variable {relay next : Relay} {now deadline : Nat} {source : Peer} {event : RelayEvent}

theorem lingers_waiting (half : HalfClosed source deadline relay) (running : relay.ending = none)
    (elapsed : relay.lingers now = true) :
    deadline ≤ now ∧ (relay.copies.get source.other).isWaiting now
      (relay.inbound.get source.other) = true := by
  have unfinished := half.unfinished running
  unfold lingers at elapsed
  rw [half.linger] at elapsed
  simp only [Bool.and_eq_true, decide_eq_true_eq, List.all_eq_true, Bool.or_eq_true] at elapsed
  obtain ⟨due, idle⟩ := elapsed
  have member : source.other ∈ [Peer.client, Peer.target] := by
    cases source with
    | client => decide
    | target => decide
  rcases idle source.other member with done | waiting
  · rw [unfinished] at done
    exact absurd done Bool.false_ne_true
  · exact ⟨due, waiting⟩

/-- The first loop that finishes arms the timer. -/
theorem HalfClosed.begins (stepped : relay.step now (.copy source .shutdownDone) = some next)
    (running : next.ending = none) : HalfClosed source (now + lingerTimeout) next := by
  obtain ⟨-, move⟩ := step_move stepped
  cases move with
  | @copy _ _ inbound copy moved copied movedEq =>
      have finished : (moved.copies.get source).phase = .finished (.ok ()) := by
        rw [movedEq]
        dsimp only
        rw [Sides.get_set_self]
        cases copyStep_move copied with
        | shutdownDone => rfl
      unfold select at running ⊢
      rw [finished] at running ⊢
      dsimp only at running ⊢
      split at running
      · exact absurd running nofun
      · next unfinished =>
          rw [if_neg unfinished]
          exact ⟨finished, rfl, fun _ => Bool.eq_false_iff.mpr unfinished⟩

/-- A half-closed relay stays so, until it ends in one of three ways. -/
theorem HalfClosed.step (half : HalfClosed source deadline relay)
    (stepped : relay.step now event = some next) :
    HalfClosed source deadline next ∧
      (next.ending = none ∨ HalfClosedEnding source deadline now relay event next) := by
  obtain ⟨running, move⟩ := step_move stepped
  cases move with
  | @arrive peer bytes inbound arrived =>
      exact ⟨⟨half.finished, half.linger, half.unfinished⟩, .inl running⟩
  | @close peer inbound closed =>
      exact ⟨⟨half.finished, half.linger, half.unfinished⟩, .inl running⟩
  | lingerElapsed elapsed =>
      obtain ⟨due, waiting⟩ := lingers_waiting half running elapsed
      exact ⟨⟨half.finished, half.linger, nofun⟩, .inr (.lingered rfl due waiting)⟩
  | @copy peer event inbound copy moved copied movedEq =>
      have copyMove := copyStep_move copied
      have notSource : peer ≠ source := by
        rintro rfl
        have unfinished := copyMove.unfinished
        unfold Copy.isDone at unfinished
        rw [half.finished] at unfinished
        exact absurd unfinished nofun
      have isOther := Peer.eq_other_of_ne notSource
      have movedCopy : moved.copies.get source.other = copy := by
        rw [movedEq, isOther, Sides.get_set_self]
      have movedSource : (moved.copies.get source).phase = .finished (.ok ()) := by
        rw [movedEq]
        dsimp only
        rw [Sides.get_set_of_ne _ _ (Ne.symm notSource)]
        exact half.finished
      have movedLinger : moved.linger = some deadline := by
        rw [movedEq]
        exact half.linger
      have movedEnding : moved.ending = none := by
        rw [movedEq]
        exact running
      rw [isOther]
      unfold select
      split
      · next error phase =>
          rw [movedCopy] at phase
          have failure : event.IsFailure := by
            rcases copyMove.finished phase with ⟨failure, -⟩ | ⟨-, impossible⟩
            · exact failure
            · exact absurd impossible nofun
          exact ⟨⟨movedSource, movedLinger, nofun⟩, .inr (.failed failure rfl)⟩
      · next phase =>
          have isShutdown : event = .shutdownDone := by
            rcases copyMove.finished (movedCopy ▸ phase) with ⟨-, _, impossible⟩ | ⟨isShutdown, -⟩
            · exact absurd impossible nofun
            · exact isShutdown
          have sourceDone : (moved.copies.get source.other.other).isDone = true := by
            rw [Peer.other_other, Copy.isDone, movedSource]
          rw [if_pos sourceDone, isShutdown]
          exact ⟨⟨movedSource, movedLinger, nofun⟩, .inr (.drained rfl phase)⟩
      · next notFailed notFinished =>
          refine ⟨⟨movedSource, movedLinger, fun _ => ?_⟩, .inl movedEnding⟩
          unfold Copy.isDone
          split
          · next result phase =>
              match result with
              | .ok () => exact absurd phase notFinished
              | .error error => exact absurd phase (notFailed error)
          · rfl

end Relay

/-- From the moment at which one side's loop has finished while the other one
has not, the relay runs until the other loop gives up, has carried everything
its side has sent, or is waiting once `lingerTimeout` has passed. -/
theorem half_closed_until_linger {before half : ClockedRelay} {more : List ClockedEvent}
    {source : Peer} {event : RelayEvent}
    (run : Machine.run ClockedRelay.step (.start leftover targetLeftover start) events =
      some before)
    (finishes : before.step (.relay (.copy source .shutdownDone)) = some half)
    (running : half.relay.ending = none)
    (later : Machine.run ClockedRelay.step half more = some clocked)
    (stepped : clocked.step (.relay event) = some next) :
    (next.relay.copies.get source.other).written <+:
        (Sides.mk leftover targetLeftover).get source.other ++
          (next.relay.inbound.get source.other).arrived ∧
      (next.relay.ending = none ∨
        Relay.HalfClosedEnding source (before.now + lingerTimeout) clocked.now clocked.relay event
          next.relay) ∧
      ((next.relay.copies.get source.other).phase = .finished (.ok ()) →
        (next.relay.copies.get source.other).written =
          (Sides.mk leftover targetLeftover).get source.other ++
            (next.relay.inbound.get source.other).arrived) := by
  have begins : half.relay.HalfClosed source (before.now + lingerTimeout) := by
    obtain ⟨relay, relayStepped, rfl⟩ := Option.map_eq_some_iff.mp finishes
    exact .begins relayStepped running
  have stays : clocked.relay.HalfClosed source (before.now + lingerTimeout) := by
    refine Machine.run_invariant
      (fun clocked => clocked.relay.HalfClosed source (before.now + lingerTimeout)) begins ?_ later
    intro clocked event next halfClosed stepped
    cases event with
    | tick duration =>
        cases stepped
        exact halfClosed
    | relay event =>
        obtain ⟨relay, relayStepped, rfl⟩ := Option.map_eq_some_iff.mp stepped
        exact (halfClosed.step relayStepped).1
  have toHalf := Machine.run_concat_eq_some.mpr ⟨before, run, finishes⟩
  have toClocked := Machine.run_append_eq_some.mpr ⟨half, toHalf, later⟩
  have whole := Machine.run_concat_eq_some.mpr ⟨clocked, toClocked, stepped⟩
  have flows := relay_flows whole source.other
  obtain ⟨relay, relayStepped, rfl⟩ := Option.map_eq_some_iff.mp stepped
  exact ⟨flows.written_prefix, (stays.step relayStepped).2, fun ended => (flows.written_eq ended).1⟩

/-- The client closes at once; the target sends a byte after 14 seconds. -/
def halfClose : List ClockedEvent :=
  [.relay (.close .client), .relay (.copy .client .readEof)]

def slowResponse : List ClockedEvent :=
  [.tick 14000, .relay (.arrive .target [0x2A]), .relay (.copy .target (.readChunk 1)),
    .relay (.copy .target (.wrote 1)), .relay (.copy .target .countStats),
    .relay (.copy .target .countBytes), .tick 1000]

def halfClosedState : ClockedRelay where
  now := 0
  relay := {
    inbound := ⟨⟨[], true, [], none⟩, .empty⟩
    copies := ⟨⟨.finished (.ok ()), [], 0, 0⟩, ⟨.reading 0, [], 0, 0⟩⟩
    linger := some 15000
    ending := none
  }

/-- The state after 15 seconds: the target's side is still open. -/
def lingeringState : ClockedRelay where
  now := 15000
  relay := {
    inbound := ⟨⟨[], true, [], none⟩, ⟨[], false, [0x2A], some 14000⟩⟩
    copies := ⟨⟨.finished (.ok ()), [], 0, 0⟩, ⟨.reading 14000, [0x2A], 1, 1⟩⟩
    linger := some 15000
    ending := none
  }

def clientEof : ClockedRelay where
  now := 0
  relay := {
    inbound := ⟨⟨[], true, [], none⟩, .empty⟩
    copies := ⟨⟨.shuttingDown 0, [], 0, 0⟩, ⟨.reading 0, [], 0, 0⟩⟩
    linger := none
    ending := none
  }

theorem run_halfClose :
    Machine.run ClockedRelay.step (.start [] [] 0) halfClose = some clientEof := by
  decide +kernel

theorem clientEof_finishes :
    clientEof.step (.relay (.copy .client .shutdownDone)) = some halfClosedState := by
  decide +kernel

theorem run_slowResponse :
    Machine.run ClockedRelay.step halfClosedState slowResponse = some lingeringState := by
  decide +kernel

theorem lingeringState_ends :
    ∃ next, lingeringState.step (.relay .lingerElapsed) = some next ∧
      next.relay.ending = some .closed ∧
      (next.relay.copies.get .target).phase = .reading 14000 := by
  have ends : (lingeringState.step (.relay .lingerElapsed)).any (fun next =>
      next.relay.ending = some .closed ∧
        (next.relay.copies.get .target).phase = .reading 14000) = true := by
    decide +kernel
  obtain ⟨next, stepped, shape⟩ := (Option.any_eq_true _ _).mp ends
  exact ⟨next, stepped, of_decide_eq_true shape⟩

/-- One second after the target has sent data, and although the whole run is
shorter than every other timeout, the relay is closed with the target's side
still open. -/
theorem half_close_truncates :
    ¬ ∀ events clocked event next,
      Machine.run ClockedRelay.step (.start [] [] 0) events = some clocked →
      clocked.now < writeTimeout → clocked.step (.relay event) = some next →
      next.relay.ending = some .closed →
      ∀ peer, (next.relay.copies.get peer).phase = .finished (.ok ()) := by
  intro complete
  obtain ⟨next, stepped, closed, reading⟩ := lingeringState_ends
  have toHalf := Machine.run_concat_eq_some.mpr ⟨clientEof, run_halfClose, clientEof_finishes⟩
  have whole := Machine.run_append_eq_some.mpr ⟨halfClosedState, toHalf, run_slowResponse⟩
  have finished := complete _ lingeringState _ next whole (by decide) stepped closed .target
  rw [reading] at finished
  exact absurd finished nofun

/-- The byte that came before the deadline is delivered. -/
theorem half_closed_until_linger_slow :
    ∃ next, lingeringState.step (.relay .lingerElapsed) = some next ∧
      (next.relay.copies.get .target).written <+: (next.relay.inbound.get .target).arrived := by
  obtain ⟨next, stepped, -⟩ := lingeringState_ends
  exact ⟨next, stepped, (half_closed_until_linger run_halfClose clientEof_finishes rfl
    run_slowResponse stepped).1⟩

end SimpleForwarder

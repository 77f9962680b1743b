import SimpleForwarder.Lib.Pipeline
import SimpleForwarder.Relay.Select

/-!
Contract: forwarders in a chain, each of which is the upstream of the one before.

Owns: the machine of any number of relays and the connections between them, the
links it keeps, and what the whole chain carries in both directions.

A connection delivers a prefix of what was written to it, and its end after all
of it. A relay that ends closes both connections, as does a handshake that
fails. What a handshake has read beyond its own messages is the leftover that
the relay begins with. Every relay has its own clock.

Does not own: the handshakes.
-/

namespace SimpleForwarder

open RustText Pipeline

/-- The loop has read the end of its stream. -/
def CopyPhase.isEnded : CopyPhase → Bool
  | .shuttingDown _ | .finished (.ok ()) => true
  | _ => false

/-- One forwarder of the chain. -/
inductive Hop where
  | handshaking
  | refused
  | relaying (leftovers : Sides Bytes) (clocked : ClockedRelay)
deriving DecidableEq

/-- The direction that carries what `source` sends. -/
def Hop.stage (source : Peer) : Hop → Stage UInt8
  | .handshaking => ⟨[], [], false, false⟩
  | .refused => ⟨[], [], false, true⟩
  | .relaying leftovers clocked =>
      let inbound := clocked.relay.inbound.get source
      let copy := clocked.relay.copies.get source
      { taken := leftovers.get source ++ inbound.arrived
        written := copy.written
        sawEnd := inbound.fin
        -- with the relay its sockets are dropped
        sentEnd := clocked.relay.ending.isSome || copy.phase.isEnded }

/-- The forwarders, the one that the client connects to first. -/
abbrev Chain := List Hop

inductive ChainEvent where
  | begin (index : Nat) (leftovers : Sides Bytes) (now : Nat)
  | refuse (index : Nat)
  | relay (index : Nat) (event : ClockedEvent)
deriving DecidableEq

namespace Chain

/-- The forwarder from which bytes of `source` come, if it is one of the chain. -/
def before (chain : Chain) (index : Nat) : (source : Peer) → Option Hop
  | .client => if index = 0 then none else chain[index - 1]?
  | .target => chain[index + 1]?

/-- The bytes are the next ones that can arrive. Outside the chain, any can. -/
def delivers (chain : Chain) (index : Nat) (source : Peer) (hop : Hop) (bytes : Bytes) : Bool :=
  match chain.before index source with
  | none => true
  | some other => ((hop.stage source).taken ++ bytes).isPrefixOf (other.stage source).written

def deliversEnd (chain : Chain) (index : Nat) (source : Peer) (hop : Hop) : Bool :=
  match chain.before index source with
  | none => true
  | some other =>
      (other.stage source).sentEnd && (hop.stage source).taken = (other.stage source).written

/-- What the connections of the forwarder allow. -/
def allows (chain : Chain) (index : Nat) (hop : Hop) : ClockedEvent → Bool
  | .relay (.arrive source bytes) => chain.delivers index source hop bytes
  | .relay (.close source) => chain.deliversEnd index source hop
  | _ => true

def step (chain : Chain) : ChainEvent → Option Chain
  | .begin index leftovers now =>
      match chain[index]? with
      | some .handshaking =>
          if chain.delivers index .client .handshaking leftovers.client &&
              chain.delivers index .target .handshaking leftovers.target then
            some (chain.set index
              (.relaying leftovers (.start leftovers.client leftovers.target now)))
          else none
      | _ => none
  | .refuse index =>
      match chain[index]? with
      | some .handshaking => some (chain.set index .refused)
      | _ => none
  | .relay index event =>
      match chain[index]? with
      | some (.relaying leftovers clocked) =>
          if chain.allows index (.relaying leftovers clocked) event then
            (clocked.step event).map fun next => chain.set index (.relaying leftovers next)
          else none
      | _ => none

def start (length : Nat) : Chain := List.replicate length .handshaking

end Chain

/-! ## What a loop shows -/

section Copies

variable {texts : CopyTexts} {now : Nat} {inbound inbound' : Inbound} {copy copy' : Copy}

/-- A loop writes more bytes, and none once it has read the end. -/
structure Copy.Continues (copy copy' : Copy) : Prop where
  written : copy.written <+: copy'.written
  ending : copy.phase.isEnded = true →
    copy'.phase.isEnded = true ∧ copy'.written = copy.written

theorem CopyMove.continues {event : CopyEvent}
    (move : CopyMove texts now inbound copy event inbound' copy') : copy.Continues copy' := by
  have running : ∀ {phase : CopyPhase}, copy.phase = phase → phase.isEnded = false →
      copy.phase.isEnded = true → copy'.phase.isEnded = true ∧ copy'.written = copy.written := by
    intro phase isPhase notEnded ended
    rw [isPhase, notEnded] at ended
    exact absurd ended Bool.false_ne_true
  cases move with
  | wrotePart phase => exact ⟨List.prefix_append _ _, running phase rfl⟩
  | wroteAll phase => exact ⟨List.prefix_append _ _, running phase rfl⟩
  | writeFailed error phase => exact ⟨List.prefix_append _ _, running phase rfl⟩
  | writeTimedOut phase => exact ⟨List.prefix_rfl, running phase rfl⟩
  | countStats phase => exact ⟨List.prefix_rfl, running phase rfl⟩
  | countBytes phase => exact ⟨List.prefix_rfl, running phase rfl⟩
  | readChunk phase => exact ⟨List.prefix_rfl, running phase rfl⟩
  | readEof phase => exact ⟨List.prefix_rfl, running phase rfl⟩
  | readFailed error phase => exact ⟨List.prefix_rfl, running phase rfl⟩
  | idle phase => exact ⟨List.prefix_rfl, running phase rfl⟩
  | shutdownDone phase => exact ⟨List.prefix_rfl, fun _ => ⟨rfl, rfl⟩⟩

/-- A loop reads what has arrived; it does not make it arrive. -/
theorem CopyMove.inbound_same {event : CopyEvent}
    (move : CopyMove texts now inbound copy event inbound' copy') :
    inbound'.arrived = inbound.arrived ∧ inbound'.fin = inbound.fin := by
  cases move <;> exact ⟨rfl, rfl⟩

/-- A loop that has read the end has written everything. -/
theorem Flows.whole {leftover : Bytes} (flows : Flows leftover inbound copy)
    (ended : copy.phase.isEnded = true) :
    copy.written = leftover ++ inbound.arrived ∧ inbound.fin = true := by
  obtain ⟨unwritten, bytes, holds⟩ := flows
  have empties : unwritten = [] ∧ inbound.queue = [] ∧ inbound.fin = true := by
    unfold CopyPhase.isEnded at ended
    split at ended
    · next phase => rwa [phase] at holds
    · next phase => rwa [phase] at holds
    · exact absurd ended Bool.false_ne_true
  obtain ⟨rfl, nothing, fin⟩ := empties
  refine ⟨?_, fin⟩
  rw [bytes, nothing, List.append_nil, List.append_nil]

end Copies

/-! ## What a forwarder shows -/

namespace Hop

/-- The flow law of the relay. -/
def Flows : Hop → Prop
  | .handshaking | .refused => True
  | .relaying leftovers clocked => clocked.relay.FlowsBoth leftovers

/-- The relay has ended before the loop has read the end of its stream, or there
has never been one. -/
def BrokenOff (source : Peer) : Hop → Prop
  | .handshaking => False
  | .refused => True
  | .relaying _ clocked =>
      clocked.relay.ending ≠ none ∧ (clocked.relay.copies.get source).phase.isEnded = false

theorem Flows.written_prefixOf {hop : Hop} (flows : hop.Flows) (source : Peer) :
    (hop.stage source).written <+: (hop.stage source).taken := by
  cases hop with
  | handshaking => exact List.prefix_rfl
  | refused => exact List.prefix_rfl
  | relaying leftovers clocked =>
      have copied : SimpleForwarder.Flows (leftovers.get source)
          (clocked.relay.inbound.get source) (clocked.relay.copies.get source) := flows source
      exact copied.written_prefix

theorem Flows.brokenOff {hop : Hop} (flows : hop.Flows) {source : Peer}
    (broken : ¬(hop.stage source).IsWhole) : hop.BrokenOff source := by
  cases hop with
  | handshaking => exact absurd (fun sent => absurd sent Bool.false_ne_true) broken
  | refused => trivial
  | relaying leftovers clocked =>
      cases ended : (clocked.relay.copies.get source).phase.isEnded with
      | true => exact absurd (fun _ => (flows source).whole ended) broken
      | false =>
          refine ⟨fun running => broken fun sent => ?_, ended⟩
          simp only [stage, running, ended] at sent
          exact absurd sent Bool.false_ne_true

variable {leftovers : Sides Bytes} {clocked next : ClockedRelay}

theorem Flows.step {event : ClockedEvent} (flows : (relaying leftovers clocked).Flows)
    (stepped : clocked.step event = some next) : (relaying leftovers next).Flows := by
  cases event with
  | tick duration =>
      cases stepped
      exact flows
  | relay event =>
      obtain ⟨relay, relayStepped, rfl⟩ := Option.map_eq_some_iff.mp stepped
      exact Relay.FlowsBoth.step flows relayStepped

/-- A step of the relay is visible to the next forwarder only as progress. -/
theorem advances_step {event : ClockedEvent} (stepped : clocked.step event = some next)
    (source : Peer) :
    ((relaying leftovers clocked).stage source).Advances
      ((relaying leftovers next).stage source) := by
  cases event with
  | tick duration =>
      cases stepped
      exact .refl _
  | relay event =>
      obtain ⟨relay, relayStepped, rfl⟩ := Option.map_eq_some_iff.mp stepped
      obtain ⟨running, move⟩ := Relay.step_move relayStepped
      cases move with
      | arrive arrived => exact ⟨List.prefix_rfl, fun sent => ⟨sent, rfl⟩⟩
      | close closed => exact ⟨List.prefix_rfl, fun sent => ⟨sent, rfl⟩⟩
      | @copy moving event inbound copy moved copied movedEq =>
          have continues : (clocked.relay.copies.get source).Continues
              ((moved.select clocked.now moving).copies.get source) := by
            rw [Relay.select_copies, movedEq]
            by_cases same : source = moving
            · rw [same, Sides.get_set_self]
              exact (copyStep_move copied).continues
            · rw [Sides.get_set_of_ne _ _ same]
              exact ⟨List.prefix_rfl, fun ended => ⟨ended, rfl⟩⟩
          refine ⟨continues.written, fun sent => ?_⟩
          simp only [stage, running, Option.isSome_none, Bool.false_or] at sent
          obtain ⟨still, same⟩ := continues.ending sent
          refine ⟨?_, same⟩
          simp only [stage, still, Bool.or_true]
      | lingerElapsed elapsed => exact ⟨List.prefix_rfl, fun _ => ⟨rfl, rfl⟩⟩

end Hop

namespace Chain

variable {chain next : Chain} {index : Nat}

/-- The link to the forwarder in front of `hop`, if there is one. -/
def LinkedAt (chain : Chain) (index : Nat) (hop : Hop) (source : Peer) : Prop :=
  ∀ other ∈ chain.before index source, (other.stage source).Feeds (hop.stage source)

/-- What the relay takes in by one step, the connection delivers. -/
theorem linkedAt_step {leftovers : Sides Bytes} {clocked later : ClockedRelay}
    {event : ClockedEvent} {source : Peer}
    (linked : chain.LinkedAt index (.relaying leftovers clocked) source)
    (allowed : chain.allows index (.relaying leftovers clocked) event = true)
    (stepped : clocked.step event = some later) :
    chain.LinkedAt index (.relaying leftovers later) source := by
  intro other isBefore
  have feeds := linked other isBefore
  have unchanged : (later.relay.inbound.get source).arrived =
        (clocked.relay.inbound.get source).arrived →
      (later.relay.inbound.get source).fin = (clocked.relay.inbound.get source).fin →
      (other.stage source).Feeds ((Hop.relaying leftovers later).stage source) := by
    intro sameBytes sameEnd
    refine ⟨?_, ?_⟩
    · simpa only [Hop.stage, sameBytes] using feeds.bytes
    · simpa only [Hop.stage, sameBytes, sameEnd] using feeds.ending
  cases event with
  | tick duration =>
      cases stepped
      exact feeds
  | relay event =>
      obtain ⟨relay, relayStepped, rfl⟩ := Option.map_eq_some_iff.mp stepped
      obtain ⟨-, move⟩ := Relay.step_move relayStepped
      cases move with
      | @arrive peer bytes inbound arrived =>
          by_cases same : source = peer
          · subst same
            unfold Inbound.arrive at arrived
            split at arrived
            · cases arrived
              simp only [allows, delivers, Option.mem_def.mp isBefore,
                List.isPrefixOf_iff_prefix] at allowed
              refine ⟨?_, fun saw => ?_⟩
              · simpa only [Hop.stage, Sides.get_set_self, List.append_assoc] using allowed
              · simp only [Hop.stage, Sides.get_set_self] at saw
                exact absurd saw Bool.false_ne_true
            · cases arrived
          · apply unchanged
            · rw [Sides.get_set_of_ne _ _ same]
            · rw [Sides.get_set_of_ne _ _ same]
      | @close peer inbound closed =>
          by_cases same : source = peer
          · subst same
            unfold Inbound.close at closed
            split at closed
            · cases closed
              simp only [allows, deliversEnd, Option.mem_def.mp isBefore, Bool.and_eq_true,
                decide_eq_true_eq] at allowed
              refine ⟨?_, fun _ => ⟨allowed.1, ?_⟩⟩
              · simpa only [Hop.stage, Sides.get_set_self] using feeds.bytes
              · simpa only [Hop.stage, Sides.get_set_self] using allowed.2
            · cases closed
          · apply unchanged
            · rw [Sides.get_set_of_ne _ _ same]
            · rw [Sides.get_set_of_ne _ _ same]
      | @copy moving event inbound copy moved copied movedEq =>
          have same := (copyStep_move copied).inbound_same
          have bySource : ((moved.select clocked.now moving).inbound.get source).arrived =
                (clocked.relay.inbound.get source).arrived ∧
              ((moved.select clocked.now moving).inbound.get source).fin =
                (clocked.relay.inbound.get source).fin := by
            rw [Relay.select_inbound, movedEq]
            by_cases isMoving : source = moving
            · rw [isMoving, Sides.get_set_self]
              exact same
            · rw [Sides.get_set_of_ne _ _ isMoving]
              exact ⟨rfl, rfl⟩
          exact unchanged bySource.1 bySource.2
      | lingerElapsed elapsed => exact unchanged rfl rfl

/-! ## The invariant -/

structure Inv (chain : Chain) : Prop where
  flows : ∀ hop ∈ chain, hop.Flows
  linked : ∀ index hop source, chain[index]? = some hop → chain.LinkedAt index hop source

theorem inv_start (length : Nat) : Inv (start length) where
  flows := by
    intro hop member
    rw [List.eq_of_mem_replicate member]
    trivial
  linked := by
    intro index hop source found other isBefore
    have handshaking : ∀ {position : Nat} {any : Hop}, (start length)[position]? = some any →
        any = .handshaking := fun found =>
      List.eq_of_mem_replicate (List.mem_of_getElem? found)
    have otherHandshaking : other = .handshaking := by
      cases source with
      | client =>
          simp only [before] at isBefore
          split at isBefore
          · cases isBefore
          · exact handshaking isBefore
      | target => exact handshaking isBefore
    rw [handshaking found, otherHandshaking]
    exact ⟨List.prefix_rfl, fun saw => absurd saw Bool.false_ne_true⟩

/-- One forwarder of the chain moves. Those behind it see its progress, and it
has taken in what those in front of it deliver. -/
theorem Inv.replace {hop moved : Hop} (inv : chain.Inv) (found : chain[index]? = some hop)
    (flows : moved.Flows) (advances : ∀ source, (hop.stage source).Advances (moved.stage source))
    (linked : ∀ source, chain.LinkedAt index moved source) : Inv (chain.set index moved) where
  flows := by
    intro other member
    rcases List.mem_or_eq_of_mem_set member with already | rfl
    · exact inv.flows other already
    · exact flows
  linked := by
    intro position other source foundOther neighbour isBefore
    -- where the neighbour was before the step, and what it has become
    have earlier : ∃ old, chain.before position source = some old ∧
        (old.stage source).Advances (neighbour.stage source) ∧
        (position = index → old = neighbour) := by
      have lookup : ∀ place, place ≠ position → (chain.set index moved)[place]? = some neighbour →
          ∃ old, chain[place]? = some old ∧ (old.stage source).Advances (neighbour.stage source) ∧
            (position = index → old = neighbour) := by
        intro place apart foundNeighbour
        by_cases same : index = place
        · subst same
          have inside := (List.getElem?_eq_some_iff.mp found).1
          rw [List.getElem?_set_self inside, Option.some.injEq] at foundNeighbour
          exact ⟨hop, found, foundNeighbour ▸ advances source, fun here => absurd here.symm apart⟩
        · rw [List.getElem?_set_ne same] at foundNeighbour
          exact ⟨neighbour, foundNeighbour, .refl _, fun _ => rfl⟩
      cases source with
      | client =>
          simp only [before] at isBefore ⊢
          split at isBefore
          · cases isBefore
          · next notFirst =>
              rw [if_neg notFirst]
              exact lookup (position - 1) (by omega) isBefore
      | target => exact lookup (position + 1) (by omega) isBefore
    obtain ⟨old, wasBefore, advanced, unmoved⟩ := earlier
    by_cases same : index = position
    · subst same
      have inside := (List.getElem?_eq_some_iff.mp found).1
      rw [List.getElem?_set_self inside, Option.some.injEq] at foundOther
      rw [← foundOther, ← unmoved rfl]
      exact linked source old wasBefore
    · rw [List.getElem?_set_ne same] at foundOther
      exact (inv.linked position other source foundOther old wasBefore).advance advanced

theorem Inv.step {event : ChainEvent} (inv : chain.Inv) (stepped : chain.step event = some next) :
    next.Inv := by
  cases event with
  | begin index leftovers now =>
      simp only [Chain.step] at stepped
      split at stepped
      · next found =>
          split at stepped
          · next delivered =>
              cases stepped
              rw [Bool.and_eq_true] at delivered
              refine inv.replace found (Relay.FlowsBoth.start _ _ now) ?_ ?_
              · intro source
                refine ⟨List.nil_prefix, fun sent => absurd sent Bool.false_ne_true⟩
              · intro source other isBefore
                refine ⟨?_, fun saw => ?_⟩
                · cases source with
                  | client =>
                      have client := delivered.1
                      simp only [delivers, Option.mem_def.mp isBefore,
                        List.isPrefixOf_iff_prefix] at client
                      simpa [Hop.stage, ClockedRelay.start, Relay.start, Sides.get,
                        Inbound.empty] using client
                  | target =>
                      have target := delivered.2
                      simp only [delivers, Option.mem_def.mp isBefore,
                        List.isPrefixOf_iff_prefix] at target
                      simpa [Hop.stage, ClockedRelay.start, Relay.start, Sides.get,
                        Inbound.empty] using target
                · cases source <;> exact absurd saw Bool.false_ne_true
          · cases stepped
      · cases stepped
  | refuse index =>
      simp only [Chain.step] at stepped
      split at stepped
      · next found =>
          cases stepped
          refine inv.replace found trivial ?_ ?_
          · exact fun source => ⟨List.prefix_rfl, fun sent => absurd sent Bool.false_ne_true⟩
          · intro source other isBefore
            exact ⟨List.nil_prefix, fun saw => absurd saw Bool.false_ne_true⟩
      · cases stepped
  | relay index event =>
      simp only [Chain.step] at stepped
      split at stepped
      · next leftovers clocked found =>
          split at stepped
          · next allowed =>
              obtain ⟨later, relayed, rfl⟩ := Option.map_eq_some_iff.mp stepped
              refine inv.replace found ?_ (Hop.advances_step relayed) ?_
              · have flows := inv.flows _ (List.mem_of_getElem? found)
                exact Hop.Flows.step flows relayed
              · exact fun source =>
                  linkedAt_step (inv.linked index _ source found) allowed relayed
          · cases stepped
      · cases stepped

theorem inv_run {length : Nat} {events : List ChainEvent} {last : Chain}
    (reached : Machine.run step (start length) events = some last) : Inv last :=
  Machine.run_invariant Inv (inv_start length) (fun _ _ _ inv stepped => inv.step stepped) reached

/-! ## The whole chain -/

/-- What comes out at `final` is a prefix of what `source` has sent to `first`. When
the end comes out, it is all of it, or a relay in between was broken off. -/
structure Carries (chain : Chain) (source : Peer) (first final : Hop) (low high : Nat) :
    Prop where
  written_prefixOf : (final.stage source).written <+: (first.stage source).taken
  all_or_broken : (final.stage source).sentEnd = true →
    (final.stage source).written = (first.stage source).taken ∧
        (first.stage source).sawEnd = true ∨
      ∃ index hop, low ≤ index ∧ index ≤ high ∧ chain[index]? = some hop ∧ hop.BrokenOff source

/-- The forwarders from `low` to `high`, in the order in which bytes of `source` pass. -/
def position (low high : Nat) : (source : Peer) → Nat → Nat
  | .client, passed => low + passed
  | .target, passed => high - passed

variable {low high : Nat}

theorem position_inside (order : low ≤ high) (source : Peer) {passed : Nat}
    (inside : passed ≤ high - low) :
    low ≤ position low high source passed ∧ position low high source passed ≤ high := by
  cases source with
  | client => simp only [position]; omega
  | target => simp only [position]; omega

theorem before_position (order : low ≤ high) (source : Peer) {passed : Nat}
    (inside : passed < high - low) :
    chain.before (position low high source (passed + 1)) source =
      chain[position low high source passed]? := by
  cases source with
  | client =>
      simp only [before, position]
      rfl
  | target =>
      have previous : high - (passed + 1) + 1 = high - passed := by omega
      simp only [before, position, previous]

theorem Inv.line (inv : chain.Inv) (order : low ≤ high) (short : high < chain.length)
    (source : Peer) :
    Line (fun passed => ((chain[position low high source passed]?).getD .handshaking).stage source)
      (high - low) := by
  have exists_hop : ∀ passed ≤ high - low, ∃ hop,
      chain[position low high source passed]? = some hop := by
    intro passed inside
    have within := (position_inside order source inside).2
    exact ⟨_, List.getElem?_eq_getElem (Nat.lt_of_le_of_lt within short)⟩
  constructor
  · intro passed inside
    obtain ⟨hop, found⟩ := exists_hop passed inside
    simp only [found, Option.getD_some]
    exact (inv.flows hop (List.mem_of_getElem? found)).written_prefixOf source
  · intro passed inside
    obtain ⟨hop, found⟩ := exists_hop passed (Nat.le_of_lt inside)
    obtain ⟨later, foundLater⟩ := exists_hop (passed + 1) inside
    simp only [found, foundLater, Option.getD_some]
    refine inv.linked _ later source foundLater hop ?_
    rw [before_position order source inside, found]
    rfl

theorem Inv.carries (inv : chain.Inv) (order : low ≤ high) (source : Peer) {first final : Hop}
    (foundFirst : chain[position low high source 0]? = some first)
    (foundFinal : chain[position low high source (high - low)]? = some final) :
    chain.Carries source first final low high := by
  have short : high < chain.length := by
    cases source with
    | client =>
        have inside := (List.getElem?_eq_some_iff.mp foundFinal).1
        simp only [position] at inside
        omega
    | target => exact (List.getElem?_eq_some_iff.mp foundFirst).1
  have line := inv.line order short source
  constructor
  · simpa only [foundFirst, foundFinal, Option.getD_some] using line.written_prefixOf
  · intro sent
    have last : (((chain[position low high source (high - low)]?).getD .handshaking).stage
        source).sentEnd = true := by
      rw [foundFinal]
      exact sent
    rcases line.whole_or_broken last with all | ⟨passed, inside, broken⟩
    · exact .inl (by simpa only [foundFirst, foundFinal, Option.getD_some] using all)
    · have within := position_inside order source inside
      have found := List.getElem?_eq_getElem (Nat.lt_of_le_of_lt within.2 short)
      simp only [found, Option.getD_some] at broken
      have flows := inv.flows _ (List.mem_of_getElem? found)
      exact .inr ⟨_, _, within.1, within.2, found, flows.brokenOff broken⟩

/-- Any part of a chain of forwarders carries both directions, in every
interleaving of the relays and of the arrivals between them. -/
theorem chain_carries {length : Nat} {events : List ChainEvent} {last : Chain}
    (reached : Machine.run step (start length) events = some last) (order : low ≤ high)
    {first final : Hop} (foundFirst : last[low]? = some first)
    (foundFinal : last[high]? = some final) :
    last.Carries .client first final low high ∧ last.Carries .target final first low high := by
  have inv := inv_run reached
  have lastPosition : low + (high - low) = high := by omega
  have firstPosition : high - (high - low) = low := by omega
  constructor
  · apply inv.carries order
    · exact foundFirst
    · simpa only [position, lastPosition] using foundFinal
  · apply inv.carries order
    · exact foundFinal
    · simpa only [position, firstPosition] using foundFirst

/-- Two forwarders; the second one answers while the first one is in its handshake. -/
def twoHops : List ChainEvent :=
  [.begin 1 ⟨[], []⟩ 0, .relay 1 (.relay (.arrive .target [0x21])),
    .relay 1 (.relay (.copy .target (.readChunk 1))),
    .relay 1 (.relay (.copy .target (.wrote 1))), .begin 0 ⟨[], [0x21]⟩ 0,
    .relay 0 (.relay (.arrive .client [0x68, 0x69])),
    .relay 0 (.relay (.copy .client (.readChunk 2))),
    .relay 0 (.relay (.copy .client (.wrote 2))),
    .relay 1 (.relay (.arrive .client [0x68])), .relay 1 (.relay (.copy .client (.readChunk 1))),
    .relay 1 (.relay (.copy .client (.wrote 1)))]

theorem chain_carries_twoHops :
    ∃ last first final, Machine.run step (start 2) twoHops = some last ∧
      last[0]? = some first ∧ last[1]? = some final ∧
      (final.stage .client).written = [0x68] ∧
      last.Carries .client first final 0 1 ∧ last.Carries .target final first 0 1 :=
  ⟨_, _, _, rfl, rfl, rfl, rfl,
    chain_carries (show Machine.run step (start 2) twoHops = some _ from rfl) (by decide) rfl rfl⟩

end Chain

end SimpleForwarder

import SimpleForwarder.Lib.Machine
import SimpleForwarder.Relay.Copy

/-!
Contract: the relay of an established connection (`relay_data`).

Owns: the two copy loops under one `select!`, the linger timer, the end of the
relay with its one tracker update, the clocked machine of a relay, and the
flow law of its runs (`relay_flows`).

The `select!` is biased: the linger branch is taken only when the loop that
has not finished cannot proceed. A loop that has finished is not polled again,
so `client_done` and `target_done` are the finished phases.

Does not own: a single copy loop.
-/

namespace SimpleForwarder

open RustText

def lingerTimeout : Nat := 15000

def Peer.other : Peer → Peer
  | .client => .target
  | .target => .client

/-- One value for each side. -/
structure Sides (α : Type) where
  client : α
  target : α
deriving DecidableEq

namespace Sides

variable {α : Type}

def get (sides : Sides α) : Peer → α
  | .client => sides.client
  | .target => sides.target

def set (sides : Sides α) (peer : Peer) (value : α) : Sides α :=
  match peer with
  | .client => { sides with client := value }
  | .target => { sides with target := value }

@[simp] theorem get_set_self (sides : Sides α) (peer : Peer) (value : α) :
    (sides.set peer value).get peer = value := by
  cases peer with
  | client => rfl
  | target => rfl

theorem get_set_of_ne (sides : Sides α) {peer other : Peer} (value : α) (distinct : other ≠ peer) :
    (sides.set peer value).get other = sides.get other := by
  cases peer with
  | client =>
      cases other with
      | client => exact absurd rfl distinct
      | target => rfl
  | target =>
      cases other with
      | client => rfl
      | target => exact absurd rfl distinct

end Sides

/-- How `relay_data` ends: `set_error` and an error, or `set_closed` and
success. -/
inductive Ending where
  | failed (error : Text)
  | closed
deriving DecidableEq

/-- `copies.client` is the loop that reads from the client. `linger` is the
deadline of the linger timer. -/
structure Relay where
  inbound : Sides Inbound
  copies : Sides Copy
  linger : Option Nat
  ending : Option Ending
deriving DecidableEq

inductive RelayEvent where
  | arrive (peer : Peer) (bytes : Bytes)
  | close (peer : Peer)
  | copy (source : Peer) (event : CopyEvent)
  | lingerElapsed
deriving DecidableEq

def Copy.isDone (copy : Copy) : Bool :=
  match copy.phase with
  | .finished _ => true
  | _ => false

/-- The pending operation of a loop can stay pending: it has not been answered
and its timeout has not elapsed. -/
def Copy.isWaiting (now : Nat) (inbound : Inbound) (copy : Copy) : Bool :=
  match copy.phase with
  | .writing _ _ _ since => decide (now < since + writeTimeout)
  | .reading since =>
      inbound.queue = [] && inbound.fin = false && decide (now < since + idleTimeout)
  | .shuttingDown since => decide (now < since + writeTimeout)
  | _ => false

namespace Relay

def start (leftover targetLeftover : Bytes) (now : Nat) : Relay where
  inbound := ⟨.empty, .empty⟩
  copies := ⟨.start leftover now, .start targetLeftover now⟩
  linger := none
  ending := none

/-- The `select!` arm of a loop, once the loop has finished. -/
def select (relay : Relay) (now : Nat) (source : Peer) : Relay :=
  match (relay.copies.get source).phase with
  | .finished (.error error) => { relay with ending := some (.failed error) }
  | .finished (.ok ()) =>
      if (relay.copies.get source.other).isDone then { relay with ending := some .closed }
      else { relay with linger := some (now + lingerTimeout) }
  | _ => relay

/-- A loop that is not finished takes a step. -/
def copyAt (relay : Relay) (now : Nat) (source : Peer) (event : CopyEvent) : Option Relay :=
  (copyStep (copyTexts source) now (relay.inbound.get source) (relay.copies.get source) event).map
    fun moved =>
      { relay with
        inbound := relay.inbound.set source moved.1
        copies := relay.copies.set source moved.2 }

/-- The linger arm: the deadline has passed and no loop can proceed. -/
def lingers (relay : Relay) (now : Nat) : Bool :=
  match relay.linger with
  | none => false
  | some deadline =>
      decide (deadline ≤ now) &&
        [Peer.client, Peer.target].all fun peer =>
          (relay.copies.get peer).isDone ||
            (relay.copies.get peer).isWaiting now (relay.inbound.get peer)

def step (now : Nat) (relay : Relay) (event : RelayEvent) : Option Relay :=
  match relay.ending with
  | some _ => none
  | none =>
      match event with
      | .arrive peer bytes =>
          ((relay.inbound.get peer).arrive now bytes).map fun inbound =>
            { relay with inbound := relay.inbound.set peer inbound }
      | .close peer =>
          (relay.inbound.get peer).close.map fun inbound =>
            { relay with inbound := relay.inbound.set peer inbound }
      | .copy source event => (relay.copyAt now source event).map (·.select now source)
      | .lingerElapsed =>
          if relay.lingers now then some { relay with ending := some .closed } else none

end Relay

/-! ## The clocked machine -/

structure ClockedRelay where
  now : Nat
  relay : Relay
deriving DecidableEq

inductive ClockedEvent where
  | tick (duration : Nat)
  | relay (event : RelayEvent)
deriving DecidableEq

namespace ClockedRelay

def start (leftover targetLeftover : Bytes) (now : Nat) : ClockedRelay :=
  ⟨now, .start leftover targetLeftover now⟩

def step (clocked : ClockedRelay) : ClockedEvent → Option ClockedRelay
  | .tick duration => some { clocked with now := clocked.now + duration }
  | .relay event =>
      (clocked.relay.step clocked.now event).map fun relay => { clocked with relay := relay }

end ClockedRelay

/-! ## What a step can do -/

namespace Relay

variable {relay next : Relay} {now : Nat}

/-- Only the linger timer and the ending depend on the `select!` arm. -/
@[simp] theorem select_inbound (source : Peer) :
    (relay.select now source).inbound = relay.inbound := by
  unfold select
  split
  · rfl
  · split
    · rfl
    · rfl
  · rfl

@[simp] theorem select_copies (source : Peer) :
    (relay.select now source).copies = relay.copies := by
  unfold select
  split
  · rfl
  · split
    · rfl
    · rfl
  · rfl

/-- The steps of a running relay. -/
inductive Move (now : Nat) (relay : Relay) : RelayEvent → Relay → Prop where
  | arrive {peer : Peer} {bytes : Bytes} {inbound : Inbound}
      (arrived : (relay.inbound.get peer).arrive now bytes = some inbound) :
      Move now relay (.arrive peer bytes) { relay with inbound := relay.inbound.set peer inbound }
  | close {peer : Peer} {inbound : Inbound}
      (closed : (relay.inbound.get peer).close = some inbound) :
      Move now relay (.close peer) { relay with inbound := relay.inbound.set peer inbound }
  | copy {source : Peer} {event : CopyEvent} {inbound : Inbound} {copy : Copy} {moved : Relay}
      (stepped : copyStep (copyTexts source) now (relay.inbound.get source)
        (relay.copies.get source) event = some (inbound, copy))
      (moved_eq : moved = { relay with
        inbound := relay.inbound.set source inbound
        copies := relay.copies.set source copy }) :
      Move now relay (.copy source event) (moved.select now source)
  | lingerElapsed (elapsed : relay.lingers now = true) :
      Move now relay .lingerElapsed { relay with ending := some .closed }

theorem step_move {event : RelayEvent} (stepped : relay.step now event = some next) :
    relay.ending = none ∧ Move now relay event next := by
  unfold step at stepped
  split at stepped
  · exact absurd stepped nofun
  · next running =>
      refine ⟨running, ?_⟩
      cases event with
      | arrive peer bytes =>
          obtain ⟨inbound, arrived, rfl⟩ := Option.map_eq_some_iff.mp stepped
          exact .arrive arrived
      | close peer =>
          obtain ⟨inbound, closed, rfl⟩ := Option.map_eq_some_iff.mp stepped
          exact .close closed
      | copy source event =>
          obtain ⟨moved, movedEq, rfl⟩ := Option.map_eq_some_iff.mp stepped
          obtain ⟨⟨inbound, copy⟩, copied, rfl⟩ := Option.map_eq_some_iff.mp movedEq
          exact .copy copied rfl
      | lingerElapsed =>
          dsimp only at stepped
          split at stepped
          · next elapsed =>
              cases stepped
              exact .lingerElapsed elapsed
          · exact absurd stepped nofun

/-- A property of a direction that the events of a socket and the steps of a
loop preserve. -/
structure IsPreserved (now : Nat) (P : Peer → Inbound → Copy → Prop) : Prop where
  arrive : ∀ {peer inbound bytes inbound' copy}, P peer inbound copy →
    Inbound.arrive inbound now bytes = some inbound' → P peer inbound' copy
  close : ∀ {peer inbound inbound' copy}, P peer inbound copy →
    Inbound.close inbound = some inbound' → P peer inbound' copy
  copy : ∀ {peer inbound inbound' copy copy' event}, P peer inbound copy →
    copyStep (copyTexts peer) now inbound copy event = some (inbound', copy') →
    P peer inbound' copy'

/-- A step of the relay moves one direction and leaves the other as it is. -/
theorem sides_step {P : Peer → Inbound → Copy → Prop} (preserved : IsPreserved now P)
    {event : RelayEvent}
    (holds : ∀ peer, P peer (relay.inbound.get peer) (relay.copies.get peer))
    (stepped : relay.step now event = some next) :
    ∀ peer, P peer (next.inbound.get peer) (next.copies.get peer) := by
  obtain ⟨-, move⟩ := step_move stepped
  intro other
  cases move with
  | @arrive peer bytes inbound arrived =>
      dsimp only
      by_cases same : other = peer
      · rw [same, Sides.get_set_self]
        exact preserved.arrive (holds peer) arrived
      · rw [Sides.get_set_of_ne _ _ same]
        exact holds other
  | @close peer inbound closed =>
      dsimp only
      by_cases same : other = peer
      · rw [same, Sides.get_set_self]
        exact preserved.close (holds peer) closed
      · rw [Sides.get_set_of_ne _ _ same]
        exact holds other
  | @copy source event inbound copy moved copied movedEq =>
      rw [select_inbound, select_copies, movedEq]
      dsimp only
      by_cases same : other = source
      · rw [same, Sides.get_set_self, Sides.get_set_self]
        exact preserved.copy (holds source) copied
      · rw [Sides.get_set_of_ne _ _ same, Sides.get_set_of_ne _ _ same]
        exact holds other
  | lingerElapsed => exact holds other

/-! ## The flow law -/

/-- Both directions carry what their side sends, after the leftover. -/
def FlowsBoth (leftovers : Sides Bytes) (relay : Relay) : Prop :=
  ∀ peer, Flows (leftovers.get peer) (relay.inbound.get peer) (relay.copies.get peer)

theorem FlowsBoth.start (leftover targetLeftover : Bytes) (now : Nat) :
    FlowsBoth ⟨leftover, targetLeftover⟩ (.start leftover targetLeftover now) := by
  intro peer
  cases peer with
  | client => exact Flows.start leftover now
  | target => exact Flows.start targetLeftover now

theorem FlowsBoth.step {leftovers : Sides Bytes} {event : RelayEvent}
    (flows : FlowsBoth leftovers relay) (stepped : relay.step now event = some next) :
    FlowsBoth leftovers next := by
  have preserved : IsPreserved now fun peer inbound copy =>
      Flows (leftovers.get peer) inbound copy :=
    ⟨fun flows arrived => flows.arrive arrived, fun flows closed => flows.close closed,
      fun flows copied => flows.step copied⟩
  exact sides_step preserved flows stepped

end Relay

variable {leftover targetLeftover : Bytes} {now : Nat} {events : List ClockedEvent}
  {reached : ClockedRelay}

/-- In every state of every run, both directions flow. -/
theorem relay_flows
    (run : Machine.run ClockedRelay.step (.start leftover targetLeftover now) events =
      some reached) :
    reached.relay.FlowsBoth ⟨leftover, targetLeftover⟩ := by
  refine Machine.run_invariant (fun clocked => clocked.relay.FlowsBoth ⟨leftover, targetLeftover⟩)
    (Relay.FlowsBoth.start leftover targetLeftover now) ?_ run
  intro clocked event next flows stepped
  cases event with
  | tick duration =>
      cases stepped
      exact flows
  | relay event =>
      obtain ⟨relay, relayStepped, rfl⟩ := Option.map_eq_some_iff.mp stepped
      exact flows.step relayStepped

end SimpleForwarder

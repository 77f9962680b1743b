import SimpleForwarder.Lib.Machine
import SimpleForwarder.Lib.OrderedTable
import SimpleForwarder.Lib.Text
import Mathlib.Data.List.Perm.Basic

/-!
Contract: the connection tracker (`connection_tracker.rs`).

Owns: the tracked data, the two steps of `register`, the setters, the two steps
of `snapshot`, and the machine of their interleavings by any number of tasks.

A locked section is one step. `register` takes its id before its section, and
`snapshot` its count, so other steps may come in between. Clock values are
milliseconds; a step that reads the clock is given the value it reads.

Does not own: who calls the tracker, and when.
-/

namespace SimpleForwarder

open RustText OrderedTable

def ConnectionTracker.maxConnections : Nat := 5000

def closedRetention : Nat := 5000

inductive ConnStatus where
  | connecting
  | connected
  | closed
  | error (message : Text)
deriving DecidableEq

/-- The identity of a shared `AtomicU64`. -/
abbrev Counter := Nat

structure ConnectionInfo where
  id : UInt64
  sourceIp : Text
  outboundTarget : Text
  proxyProtocol : Text
  proxy : Text
  startTime : Text
  status : ConnStatus
  bytesSent : Counter
  bytesReceived : Counter
  exeName : Text
  closedAt : Option Nat
deriving DecidableEq

/-- What a call of `register` brings: its arguments, the counters it creates
and the local time it prints. -/
structure Registration where
  sourceIp : Text
  outboundTarget : Text
  proxyProtocol : Text
  startTime : Text
  bytesSent : Counter
  bytesReceived : Counter
deriving DecidableEq

/-- `entries` is the source's `connections`. -/
abbrev TrackerState := OrderedTable UInt64 ConnectionInfo

structure ConnectionTracker where
  state : TrackerState
  nextId : UInt64
  snapshotCount : UInt64

/-! ## The setters -/

/-- A call of a setter, with its argument. -/
inductive Setter where
  | setExeName (exeName : Text)
  | setProxy (proxy : Text)
  | setOutboundTarget (target : Text)
  | setProxyProtocol (protocol : Text)
  | setConnected
  | setClosed
  | setError (err : Text)
deriving DecidableEq

/-- The closure a setter passes to `modify`. `now` is `Instant::now()`. -/
def Setter.change (now : Nat) (setter : Setter) (c : ConnectionInfo) : ConnectionInfo :=
  match setter with
  | .setExeName exeName => { c with exeName := exeName }
  | .setProxy proxy => { c with proxy := proxy }
  | .setOutboundTarget target => { c with outboundTarget := target }
  | .setProxyProtocol protocol => { c with proxyProtocol := protocol }
  | .setConnected => { c with status := .connected }
  | .setClosed => { c with status := .closed, closedAt := some now }
  | .setError err => { c with status := .error err, closedAt := some now }

@[simp] theorem Setter.id_change (now : Nat) (setter : Setter) (c : ConnectionInfo) :
    (setter.change now c).id = c.id := by
  cases setter with
  | setExeName | setProxy | setOutboundTarget | setProxyProtocol | setConnected => rfl
  | setClosed | setError => rfl

/-! ## The locked sections -/

/-- The entry that `register` inserts. -/
def Registration.info (registration : Registration) (id : UInt64) : ConnectionInfo where
  id := id
  sourceIp := registration.sourceIp
  outboundTarget := registration.outboundTarget
  proxyProtocol := registration.proxyProtocol
  proxy := "connecting...".toList
  startTime := registration.startTime
  status := .connecting
  bytesSent := registration.bytesSent
  bytesReceived := registration.bytesReceived
  exeName := []
  closedAt := none

/-- The test of `retain` in `snapshot`. -/
def ConnectionInfo.isRetained (now : Nat) (c : ConnectionInfo) : Bool :=
  match c.closedAt with
  | none => true
  | some time => decide (now - time < closedRetention)

/-- `ConnectionInfo::eq`, with what its loads of the counters on either side
read. -/
def ConnectionInfo.eq (loads otherLoads : Counter → UInt64) (c other : ConnectionInfo) : Bool :=
  c.id == other.id && c.sourceIp == other.sourceIp && c.outboundTarget == other.outboundTarget &&
    c.proxyProtocol == other.proxyProtocol && c.proxy == other.proxy &&
    c.startTime == other.startTime && c.status == other.status &&
    loads c.bytesSent == otherLoads other.bytesSent &&
    loads c.bytesReceived == otherLoads other.bytesReceived && c.exeName == other.exeName

namespace TrackerState

/-- The locked section of `register`. -/
def register (state : TrackerState) (id : UInt64) (registration : Registration) : TrackerState :=
  state.insert ConnectionTracker.maxConnections id (registration.info id)

def set (state : TrackerState) (id : UInt64) (setter : Setter) (now : Nat) : TrackerState :=
  state.modify id (setter.change now)

/-- The cleanup of `snapshot`. `clock id` is the clock when the entry of `id`
is examined. -/
def cleanup (state : TrackerState) (clock : UInt64 → Nat) : TrackerState :=
  state.retain fun id c => c.isRetained (clock id)

/-- The locked section of `snapshot`: every fifth call cleans up. -/
def snapshot (state : TrackerState) (count : UInt64) (clock : UInt64 → Nat) :
    TrackerState × List ConnectionInfo :=
  if count % 5 = 0 then
    let state := state.cleanup clock
    (state, state.values)
  else (state, state.values)

end TrackerState

/-! ## The machine -/

/-- The tracker with the calls that are under way: the ids of the `register`
calls before their locked section, and the counts of the `snapshot` calls
before theirs. -/
structure TrackerSystem where
  tracker : ConnectionTracker
  registering : List UInt64
  snapshotting : List UInt64

inductive TrackerEvent where
  | allocate
  | register (id : UInt64) (registration : Registration)
  | set (id : UInt64) (setter : Setter) (now : Nat)
  | count
  | snapshot (count : UInt64) (clock : UInt64 → Nat)

namespace TrackerSystem

def start : TrackerSystem where
  tracker := ⟨.empty, 1, 0⟩
  registering := []
  snapshotting := []

abbrev state (system : TrackerSystem) : TrackerState := system.tracker.state

def withState (system : TrackerSystem) (state : TrackerState) : TrackerSystem :=
  { system with tracker := { system.tracker with state := state } }

/-- `next_id.fetch_add(1)`. -/
def allocate (system : TrackerSystem) : TrackerSystem :=
  { system with
    tracker := { system.tracker with nextId := system.tracker.nextId + 1 }
    registering := system.tracker.nextId :: system.registering }

/-- `snapshot_count.fetch_add(1)`. -/
def count (system : TrackerSystem) : TrackerSystem :=
  { system with
    tracker := { system.tracker with snapshotCount := system.tracker.snapshotCount + 1 }
    snapshotting := system.tracker.snapshotCount :: system.snapshotting }

def step (system : TrackerSystem) : TrackerEvent → Option TrackerSystem
  | .allocate => some system.allocate
  | .register id registration =>
      if id ∈ system.registering then
        some ({ system with registering := system.registering.erase id }.withState
          (system.state.register id registration))
      else none
  | .set id setter now => some (system.withState (system.state.set id setter now))
  | .count => some system.count
  | .snapshot count clock =>
      if count ∈ system.snapshotting then
        some ({ system with snapshotting := system.snapshotting.erase count }.withState
          (system.state.snapshot count clock).1)
      else none

end TrackerSystem

namespace TrackerEvent

def isAllocate : TrackerEvent → Bool
  | .allocate => true
  | _ => false

def insertedId? : TrackerEvent → Option UInt64
  | .register id _ => some id
  | _ => none

end TrackerEvent

/-- The registrations begun in a run. -/
def allocations (events : List TrackerEvent) : Nat := events.countP TrackerEvent.isAllocate

/-- The ids inserted in a run, in order. -/
def insertedIds (events : List TrackerEvent) : List UInt64 :=
  events.filterMap TrackerEvent.insertedId?

@[simp] theorem allocations_append (before after : List TrackerEvent) :
    allocations (before ++ after) = allocations before + allocations after :=
  List.countP_append

@[simp] theorem insertedIds_append (before after : List TrackerEvent) :
    insertedIds (before ++ after) = insertedIds before ++ insertedIds after :=
  List.filterMap_append

/-! ## What a step can do -/

namespace TrackerSystem

variable {system next : TrackerSystem} {event : TrackerEvent}

inductive Move (system : TrackerSystem) : TrackerEvent → TrackerSystem → Prop where
  | allocate : Move system .allocate system.allocate
  | register {id : UInt64} {registration : Registration} (registering : id ∈ system.registering) :
      Move system (.register id registration)
        ({ system with registering := system.registering.erase id }.withState
          (system.state.register id registration))
  | set {id : UInt64} {setter : Setter} {now : Nat} :
      Move system (.set id setter now) (system.withState (system.state.set id setter now))
  | count : Move system .count system.count
  | snapshot {count : UInt64} {clock : UInt64 → Nat} (counted : count ∈ system.snapshotting) :
      Move system (.snapshot count clock)
        ({ system with snapshotting := system.snapshotting.erase count }.withState
          (system.state.snapshot count clock).1)

theorem step_move (stepped : system.step event = some next) : Move system event next := by
  cases event with
  | allocate =>
      cases stepped
      exact .allocate
  | register id registration =>
      dsimp only [step] at stepped
      split at stepped
      · next registering =>
          cases stepped
          exact .register registering
      · exact absurd stepped nofun
  | set id setter now =>
      cases stepped
      exact .set
  | count =>
      cases stepped
      exact .count
  | snapshot count clock =>
      dsimp only [step] at stepped
      split at stepped
      · next counted =>
          cases stepped
          exact .snapshot counted
      · exact absurd stepped nofun

end TrackerSystem

/-- A snapshot leaves the table alone or cleans it up. -/
theorem TrackerState.snapshot_state (state : TrackerState) (count : UInt64)
    (clock : UInt64 → Nat) :
    ((state.snapshot count clock).1 = state ∨ (state.snapshot count clock).1 = state.cleanup clock) ∧
      (state.snapshot count clock).2 = (state.snapshot count clock).1.values := by
  unfold snapshot
  split
  · exact ⟨.inr rfl, rfl⟩
  · exact ⟨.inl rfl, rfl⟩

namespace TrackerSystem

variable {system next : TrackerSystem} {count : UInt64} {clock : UInt64 → Nat}

theorem snapshot_step (stepped : system.step (.snapshot count clock) = some next) :
    next.state = system.state ∨ next.state = system.state.cleanup clock := by
  cases step_move stepped with
  | snapshot => exact (system.state.snapshot_state count clock).1

/-- An entry after a snapshot was there before. -/
theorem entries_of_snapshot {id : UInt64} {c : ConnectionInfo}
    (stepped : system.step (.snapshot count clock) = some next)
    (entry : next.state.entries id = some c) : system.state.entries id = some c := by
  rcases snapshot_step stepped with same | cleaned
  · rw [← same]
    exact entry
  · rw [cleaned] at entry
    exact (entries_retain.mp entry).1

/-- An entry that a snapshot removes was closed long enough before. -/
theorem closed_of_removed {id : UInt64} {c : ConnectionInfo}
    (stepped : system.step (.snapshot count clock) = some next)
    (entry : system.state.entries id = some c) (removed : next.state.entries id = none) :
    ∃ time, c.closedAt = some time ∧ time + closedRetention ≤ clock id := by
  rcases snapshot_step stepped with same | cleaned
  · rw [same, entry] at removed
    exact absurd removed (Option.some_ne_none c)
  · have dropped : c.isRetained (clock id) = false := by
      rw [← Bool.not_eq_true]
      intro retained
      have kept : next.state.entries id = some c := by
        rw [cleaned]
        exact entries_retain.mpr ⟨entry, retained⟩
      rw [removed] at kept
      exact absurd kept.symm (Option.some_ne_none c)
    unfold ConnectionInfo.isRetained at dropped
    split at dropped
    · exact absurd dropped nofun
    · next time closed =>
        have late := of_decide_eq_false dropped
        refine ⟨time, closed, ?_⟩
        have positive : 0 < closedRetention := by decide
        omega

end TrackerSystem

end SimpleForwarder

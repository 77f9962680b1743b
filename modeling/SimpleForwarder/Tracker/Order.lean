import SimpleForwarder.Tracker.System

/-!
Contract: the order of the tracker over its runs.

Owns: the representation invariant, and the run laws: the map and the order
agree, an id that has left does not return, and of two snapshots the later one
starts with what is left of the earlier one (`tracker_keeps_order`).

`next_id` is a 64-bit counter that wraps, so ids are unique among the first
2^64 registrations only. The laws that rest on it say so, and
`departed_id_returns` is a run beyond that.

Does not own: the status of an entry.
-/

namespace SimpleForwarder

open OrderedTable

/-! ## The sections -/

/-- What a step does to the table, with the ids it inserts. -/
inductive TrackerSystem.Section (system : TrackerSystem) : List UInt64 → TrackerState → Prop where
  | unchanged : Section system [] system.state
  | register {id : UInt64} (registration : Registration) (registering : id ∈ system.registering) :
      Section system [id] (system.state.register id registration)
  | set (id : UInt64) (setter : Setter) (now : Nat) :
      Section system [] (system.state.set id setter now)
  | cleanup (clock : UInt64 → Nat) : Section system [] (system.state.cleanup clock)

namespace TrackerSystem

variable {system next : TrackerSystem} {event : TrackerEvent}

theorem step_section (stepped : system.step event = some next) :
    Section system (insertedIds [event]) next.state := by
  cases step_move stepped with
  | allocate => exact .unchanged
  | register registering => exact .register _ registering
  | set => exact .set _ _ _
  | count => exact .unchanged
  | @snapshot count clock _ =>
      change Section system [] (system.state.snapshot count clock).1
      rcases (system.state.snapshot_state count clock).1 with same | cleaned
      · rw [same]
        exact .unchanged
      · rw [cleaned]
        exact .cleanup clock

namespace Section

variable {inserted : List UInt64} {state : TrackerState}

theorem covered (taken : Section system inserted state) (covered : system.state.Covered) :
    state.Covered := by
  cases taken with
  | unchanged => exact covered
  | register => exact covered.insert
  | set => exact covered.modify
  | cleanup => exact covered.retain

theorem keyed (taken : Section system inserted state)
    (keyed : system.state.Keyed ConnectionInfo.id) : state.Keyed ConnectionInfo.id := by
  cases taken with
  | unchanged => exact keyed
  | register => exact keyed.insert rfl
  | set id setter now => exact keyed.modify (setter.id_change now)
  | cleanup => exact keyed.retain

theorem capacity (taken : Section system inserted state)
    (capacity : system.state.order.length ≤ ConnectionTracker.maxConnections) :
    state.order.length ≤ ConnectionTracker.maxConnections := by
  cases taken with
  | unchanged => exact capacity
  | register => exact length_order_insert
  | set =>
      unfold TrackerState.set
      rw [order_modify]
      exact capacity
  | cleanup => exact Nat.le_trans order_retain_sublist.length_le capacity

theorem order (taken : Section system inserted state) :
    state.order.Sublist (system.state.order ++ inserted) := by
  cases taken with
  | unchanged => exact List.sublist_append_left _ _
  | register => exact order_insert_sublist
  | set =>
      unfold TrackerState.set
      rw [order_modify]
      exact List.sublist_append_left _ _
  | cleanup => exact order_retain_sublist.trans (List.sublist_append_left _ _)

theorem consistent (taken : Section system inserted state)
    (fresh : ∀ id ∈ system.registering, id ∉ system.state.order)
    (consistent : system.state.Consistent) : state.Consistent := by
  cases taken with
  | unchanged => exact consistent
  | register _ registering => exact consistent.insert (fresh _ registering)
  | set => exact consistent.modify
  | cleanup => exact consistent.retain

end Section

end TrackerSystem

/-! ## The ids -/

/-- The ids of the first `count` calls of `register`. -/
def issuedIds (count : Nat) : List UInt64 :=
  (List.range count).map fun index => UInt64.ofNat (1 + index)

theorem issuedIds_succ (count : Nat) :
    issuedIds (count + 1) = issuedIds count ++ [UInt64.ofNat (1 + count)] := by
  unfold issuedIds
  rw [List.range_succ, List.map_append, List.map_singleton]

/-- The counter wraps after 2^64 calls. -/
theorem nodup_issuedIds {count : Nat} (few : count ≤ 2 ^ 64) : (issuedIds count).Nodup := by
  refine List.Nodup.map_on ?_ List.nodup_range
  intro first inFirst second inSecond same
  have values : (1 + first) % 2 ^ 64 = (1 + second) % 2 ^ 64 := by
    have toNat := congrArg UInt64.toNat same
    rwa [UInt64.toNat_ofNat', UInt64.toNat_ofNat'] at toNat
  have firstBound := List.mem_range.mp inFirst
  have secondBound := List.mem_range.mp inSecond
  omega

/-- Every id that was issued is either held by a `register` call before its
section or was inserted. -/
structure TrackerSystem.Accounted (events : List TrackerEvent) (system : TrackerSystem) : Prop where
  nextId : system.tracker.nextId = UInt64.ofNat (1 + allocations events)
  issued : (system.registering ++ insertedIds events).Perm (issuedIds (allocations events))

namespace TrackerSystem

variable {system next : TrackerSystem} {event : TrackerEvent} {events : List TrackerEvent}

theorem Accounted.start : Accounted [] start where
  nextId := rfl
  issued := List.Perm.refl []

theorem Accounted.step (accounted : Accounted events system)
    (stepped : system.step event = some next) : Accounted (events ++ [event]) next := by
  have kept : event.isAllocate = false → event.insertedId? = none →
      next.tracker.nextId = system.tracker.nextId → next.registering = system.registering →
      Accounted (events ++ [event]) next := by
    intro notAllocate notInsert sameNext sameRegistering
    have noAllocation : allocations [event] = 0 := by
      rw [allocations, List.countP_singleton, notAllocate]
      rfl
    have noInsertion : insertedIds [event] = [] := by
      rw [insertedIds, List.filterMap_cons_none notInsert, List.filterMap_nil]
    constructor
    · rw [allocations_append, noAllocation, sameNext, Nat.add_zero]
      exact accounted.nextId
    · rw [allocations_append, insertedIds_append, noAllocation, noInsertion, sameRegistering,
        List.append_nil, Nat.add_zero]
      exact accounted.issued
  cases step_move stepped with
  | allocate =>
      have one : allocations (events ++ [.allocate]) = allocations events + 1 :=
        allocations_append _ _
      have none : insertedIds (events ++ [.allocate]) = insertedIds events :=
        (insertedIds_append _ _).trans (List.append_nil _)
      constructor
      · rw [one]
        change system.tracker.nextId + 1 = _
        rw [accounted.nextId, ← Nat.add_assoc, UInt64.ofNat_add _ 1]
        rfl
      · rw [one, none, issuedIds_succ, ← accounted.nextId]
        exact (accounted.issued.cons _).trans (List.perm_append_singleton _ _).symm
  | @register id registration registering =>
      have none : allocations (events ++ [.register id registration]) = allocations events :=
        (allocations_append _ _).trans (Nat.add_zero _)
      have one : insertedIds (events ++ [.register id registration]) = insertedIds events ++ [id] :=
        insertedIds_append _ _
      constructor
      · rw [none]
        exact accounted.nextId
      · rw [none, one]
        calc system.registering.erase id ++ (insertedIds events ++ [id])
            = (system.registering.erase id ++ insertedIds events) ++ [id] :=
              (List.append_assoc _ _ _).symm
          List.Perm _ (id :: (system.registering.erase id ++ insertedIds events)) :=
              List.perm_append_singleton _ _
          List.Perm _ (system.registering ++ insertedIds events) :=
              (List.perm_cons_erase registering).symm.append_right _
          List.Perm _ (issuedIds (allocations events)) := accounted.issued
  | set => exact kept rfl rfl rfl rfl
  | count => exact kept rfl rfl rfl rfl
  | snapshot => exact kept rfl rfl rfl rfl

end TrackerSystem

/-! ## The representation invariant -/

/-- The part of the invariant that does not depend on the uniqueness of ids. -/
structure TrackerState.Bounded (state : TrackerState) : Prop where
  covered : state.Covered
  keyed : state.Keyed ConnectionInfo.id
  capacity : state.order.length ≤ ConnectionTracker.maxConnections

namespace TrackerSystem

variable {system next first last : TrackerSystem} {event : TrackerEvent}
  {events : List TrackerEvent}

/-- The invariant of a run: what holds of a system that `events` led to. -/
structure Reached (events : List TrackerEvent) (system : TrackerSystem) : Prop where
  accounted : Accounted events system
  bounded : system.state.Bounded
  listed : system.state.order.Sublist (insertedIds events)
  consistent : allocations events ≤ 2 ^ 64 → system.state.Consistent

theorem Reached.start : Reached [] start where
  accounted := .start
  bounded := ⟨consistent_empty.covered, nofun, Nat.zero_le _⟩
  listed := List.Sublist.refl []
  consistent := fun _ => consistent_empty

/-- With unique ids, an id that waits for its insertion is not listed. -/
theorem Reached.fresh (reached : Reached events system) (few : allocations events ≤ 2 ^ 64)
    {id : UInt64} (registering : id ∈ system.registering) : id ∉ insertedIds events := by
  have unique : (system.registering ++ insertedIds events).Nodup :=
    reached.accounted.issued.nodup_iff.mpr (nodup_issuedIds few)
  exact List.disjoint_of_nodup_append unique registering

theorem Reached.nodup_inserted (reached : Reached events system)
    (few : allocations events ≤ 2 ^ 64) : (insertedIds events).Nodup := by
  have unique : (system.registering ++ insertedIds events).Nodup :=
    reached.accounted.issued.nodup_iff.mpr (nodup_issuedIds few)
  exact unique.of_append_right

theorem Reached.step (reached : Reached events system) (stepped : system.step event = some next) :
    Reached (events ++ [event]) next := by
  have taken := step_section stepped
  constructor
  · exact reached.accounted.step stepped
  · exact ⟨taken.covered reached.bounded.covered, taken.keyed reached.bounded.keyed,
      taken.capacity reached.bounded.capacity⟩
  · rw [insertedIds_append]
    exact taken.order.trans (reached.listed.append_right _)
  · intro few
    rw [allocations_append] at few
    have fewer : allocations events ≤ 2 ^ 64 := Nat.le_trans (Nat.le_add_right _ _) few
    have fresh : ∀ id ∈ system.registering, id ∉ system.state.order :=
      fun id registering listed => reached.fresh fewer registering (reached.listed.subset listed)
    exact taken.consistent fresh (reached.consistent fewer)

theorem reached_of_run (run : Machine.run step start events = some system) :
    Reached events system :=
  Machine.run_history Reached .start (fun _ _ _ _ reached stepped => reached.step stepped) run

/-- The order after a run is what is left of the order before it, followed by
ids that the run inserted. -/
theorem order_of_run (run : Machine.run step first events = some last) :
    last.state.order.Sublist (first.state.order ++ insertedIds events) := by
  refine Machine.run_history
    (fun events system => system.state.order.Sublist (first.state.order ++ insertedIds events))
    (List.sublist_append_left _ _) ?_ run
  intro history system event next sublist stepped
  rw [insertedIds_append, ← List.append_assoc]
  exact (step_section stepped).order.trans (sublist.append_right _)

end TrackerSystem

/-! ## The laws of a run -/

/-- The map and the order agree. -/
structure TrackerState.Represented (state : TrackerState) : Prop where
  keys : {id | state.Has id} = {id | id ∈ state.order}
  nodup : state.order.Nodup

/-- A listing shows each tracked connection exactly once. -/
structure TrackerState.IsListedBy (state : TrackerState) (listing : List ConnectionInfo) :
    Prop where
  nodup : (listing.map ConnectionInfo.id).Nodup
  mem_iff : ∀ c, c ∈ listing ↔ state.entries c.id = some c

theorem TrackerState.Bounded.snapshot {state : TrackerState} (bounded : state.Bounded)
    (count : UInt64) (clock : UInt64 → Nat) : (state.snapshot count clock).1.Bounded := by
  rcases (state.snapshot_state count clock).1 with same | cleaned
  · rw [same]
    exact bounded
  · rw [cleaned]
    exact ⟨bounded.covered.retain, bounded.keyed.retain,
      Nat.le_trans order_retain_sublist.length_le bounded.capacity⟩

theorem TrackerState.consistent_snapshot {state : TrackerState} (consistent : state.Consistent)
    (count : UInt64) (clock : UInt64 → Nat) : (state.snapshot count clock).1.Consistent := by
  rcases (state.snapshot_state count clock).1 with same | cleaned
  · rw [same]
    exact consistent
  · rw [cleaned]
    exact consistent.retain

theorem TrackerState.snapshot_order_sublist (state : TrackerState) (count : UInt64)
    (clock : UInt64 → Nat) : (state.snapshot count clock).1.order.Sublist state.order := by
  rcases (state.snapshot_state count clock).1 with same | cleaned
  · rw [same]
  · rw [cleaned]
    exact order_retain_sublist

namespace TrackerSystem

variable {first second last system : TrackerSystem} {before middle after events : List TrackerEvent}

/-- The ids that a snapshot lists are the order its section leaves. -/
theorem Reached.snapshot_ids (reached : Reached events system)
    (few : allocations events ≤ 2 ^ 64) (count : UInt64) (clock : UInt64 → Nat) :
    (system.state.snapshot count clock).2.map ConnectionInfo.id =
      (system.state.snapshot count clock).1.order := by
  rw [(system.state.snapshot_state count clock).2]
  exact keys_values (TrackerState.consistent_snapshot (reached.consistent few) count clock)
    (reached.bounded.snapshot count clock).keyed

theorem Reached.snapshot_isListedBy (reached : Reached events system)
    (few : allocations events ≤ 2 ^ 64) (count : UInt64) (clock : UInt64 → Nat) :
    (system.state.snapshot count clock).1.IsListedBy (system.state.snapshot count clock).2 := by
  constructor
  · rw [reached.snapshot_ids few]
    exact (TrackerState.consistent_snapshot (reached.consistent few) count clock).nodup
  · intro c
    rw [(system.state.snapshot_state count clock).2]
    have bounded := reached.bounded.snapshot count clock
    exact mem_values bounded.covered bounded.keyed

/-- An id that was listed and is not listed any more does not come back. -/
theorem Reached.not_listed (reached : Reached before first)
    (toLast : Machine.run TrackerSystem.step second after = some last)
    (unique : (insertedIds (before ++ middle ++ after)).Nodup) {id : UInt64}
    (listed : id ∈ first.state.order) (departed : id ∉ second.state.order) :
    id ∉ last.state.order := by
  intro returned
  have insertedBefore : id ∈ insertedIds (before ++ middle) := by
    rw [insertedIds_append]
    exact List.mem_append_left _ (reached.listed.subset listed)
  have insertedAfter : id ∈ insertedIds after :=
    (List.mem_append.mp ((order_of_run toLast).subset returned)).resolve_left departed
  rw [insertedIds_append] at unique
  exact List.disjoint_of_nodup_append unique insertedBefore insertedAfter

theorem departed_stays (toFirst : Machine.run TrackerSystem.step .start before = some first)
    (toSecond : Machine.run TrackerSystem.step first middle = some second)
    (toLast : Machine.run TrackerSystem.step second after = some last)
    (few : allocations (before ++ middle ++ after) ≤ 2 ^ 64) (id : UInt64)
    (has : first.state.Has id) (departed : ¬ second.state.Has id) : ¬ last.state.Has id := by
  have toSecondFromStart := Machine.run_append_eq_some.mpr ⟨first, toFirst, toSecond⟩
  have atFirst := reached_of_run toFirst
  have atSecond := reached_of_run toSecondFromStart
  have atLast := reached_of_run (Machine.run_append_eq_some.mpr ⟨second, toSecondFromStart, toLast⟩)
  have fewAtSecond : allocations (before ++ middle) ≤ 2 ^ 64 := by
    rw [allocations_append] at few
    exact Nat.le_trans (Nat.le_add_right _ _) few
  rw [(atSecond.consistent fewAtSecond).has_iff] at departed
  rw [(atLast.consistent few).has_iff]
  exact atFirst.not_listed toLast (atLast.nodup_inserted few) (atFirst.bounded.covered id has)
    departed

end TrackerSystem

variable {before middle after : List TrackerEvent} {first second last : TrackerSystem}

/-- In every run of any number of tasks, at any clock values: at most 5000
connections are tracked, each under its own id. Up to 2^64 registrations,
moreover, the map and the order have the same ids, each listed once; a snapshot
lists each tracked connection once; an id that has left does not come back; and
a later snapshot lists what is left of an earlier one, in its order, followed by
ids inserted since. -/
theorem tracker_keeps_order (toFirst : Machine.run TrackerSystem.step .start before = some first)
    (toSecond : Machine.run TrackerSystem.step first middle = some second)
    (toLast : Machine.run TrackerSystem.step second after = some last) :
    ({id | first.state.Has id}.encard ≤ ConnectionTracker.maxConnections ∧
      first.state.Keyed ConnectionInfo.id) ∧
    (allocations (before ++ middle ++ after) ≤ 2 ^ 64 →
      first.state.Represented ∧
      (∀ count clock, (first.state.snapshot count clock).1.IsListedBy
        (first.state.snapshot count clock).2) ∧
      (∀ id, first.state.Has id → ¬ second.state.Has id → ¬ last.state.Has id) ∧
      ∀ count clock between, middle = .snapshot count clock :: between →
        ∀ laterCount laterClock,
          Follows ((first.state.snapshot count clock).2.map ConnectionInfo.id)
            ((second.state.snapshot laterCount laterClock).2.map ConnectionInfo.id)
            (insertedIds between)) := by
  have toSecondFromStart : Machine.run TrackerSystem.step .start (before ++ middle) = some second :=
    Machine.run_append_eq_some.mpr ⟨first, toFirst, toSecond⟩
  have atFirst := TrackerSystem.reached_of_run toFirst
  have atSecond := TrackerSystem.reached_of_run toSecondFromStart
  refine ⟨⟨?_, atFirst.bounded.keyed⟩, fun few => ?_⟩
  · calc {id | first.state.Has id}.encard
        ≤ first.state.order.length := atFirst.bounded.covered.encard_le
      _ ≤ ConnectionTracker.maxConnections := Nat.cast_le.mpr atFirst.bounded.capacity
  · have fewAtSecond : allocations (before ++ middle) ≤ 2 ^ 64 := by
      rw [allocations_append] at few
      exact Nat.le_trans (Nat.le_add_right _ _) few
    have fewAtFirst : allocations before ≤ 2 ^ 64 := by
      rw [allocations_append] at fewAtSecond
      exact Nat.le_trans (Nat.le_add_right _ _) fewAtSecond
    have consistent := atFirst.consistent fewAtFirst
    refine ⟨⟨Set.ext consistent.has_iff, consistent.nodup⟩,
      atFirst.snapshot_isListedBy fewAtFirst,
      TrackerSystem.departed_stays toFirst toSecond toLast few, ?_⟩
    · intro count clock between isSnapshot laterCount laterClock
      rw [atFirst.snapshot_ids fewAtFirst, atSecond.snapshot_ids fewAtSecond]
      rw [isSnapshot] at toSecond
      obtain ⟨listed, stepped, rest⟩ := Option.bind_eq_some_iff.mp toSecond
      have left : listed.state = (first.state.snapshot count clock).1 := by
        cases TrackerSystem.step_move stepped with
        | snapshot => rfl
      have since := TrackerSystem.order_of_run rest
      rw [left] at since
      exact follows_of_sublist ((second.state.snapshot_order_sublist _ _).trans since)

/-- A registration from a local client. -/
def localRegistration : Registration where
  sourceIp := "127.0.0.1:12345".toList
  outboundTarget := "resolving...".toList
  proxyProtocol := "detecting...".toList
  startTime := "2024-01-01 00:00:00".toList
  bytesSent := 0
  bytesReceived := 1

/-- Two connections. -/
def twoRegistered : List TrackerEvent :=
  [.allocate, .allocate, .register 2 localRegistration, .register 1 localRegistration, .count]

/-- They are listed, the one registered first is closed, and a third is
registered. -/
def oneReplaced : List TrackerEvent :=
  [.snapshot 0 fun _ => 0, .set 2 .setClosed 10, .allocate, .register 3 localRegistration,
    .count, .count, .count, .count, .count, .snapshot 5 fun _ => 6000]

def twoListed : TrackerSystem :=
  (Machine.run TrackerSystem.step .start twoRegistered).get (by decide +kernel)

def replacementListed : TrackerSystem :=
  (Machine.run TrackerSystem.step twoListed oneReplaced).get (by decide +kernel)

/-- The snapshots list 2, 1 and then 1, 3. -/
theorem tracker_keeps_order_replaced :
    Follows ([2, 1] : List UInt64) [1, 3] [3] ∧
      (twoListed.state.snapshot 0 fun _ => 0).2.map ConnectionInfo.id = [2, 1] ∧
      (replacementListed.state.snapshot 6 fun _ => 6000).2.map ConnectionInfo.id = [1, 3] := by
  have listed : (twoListed.state.snapshot 0 fun _ => 0).2.map ConnectionInfo.id = [2, 1] := by
    decide +kernel
  have relisted :
      (replacementListed.state.snapshot 6 fun _ => 6000).2.map ConnectionInfo.id = [1, 3] := by
    decide +kernel
  have toListed : Machine.run TrackerSystem.step .start twoRegistered = some twoListed :=
    (Option.some_get _).symm
  have toRelisted : Machine.run TrackerSystem.step twoListed oneReplaced = some replacementListed :=
    (Option.some_get _).symm
  obtain ⟨-, -, -, follows⟩ := (tracker_keeps_order toListed toRelisted
    (Machine.run_nil replacementListed)).2 (by decide +kernel)
  have follows := follows 0 (fun _ => 0) _ rfl 6 fun _ => 6000
  rw [listed, relisted] at follows
  exact ⟨follows, listed, relisted⟩

/-! ## Beyond 2^64 registrations -/

/-- One call of `register` after the other, from an id on. -/
def registrations : UInt64 → Nat → List TrackerEvent
  | _, 0 => []
  | id, calls + 1 =>
      .allocate :: .register id localRegistration :: registrations (id + 1) calls

theorem allocations_registrations (id : UInt64) (calls : Nat) :
    allocations (registrations id calls) = calls := by
  induction calls generalizing id with
  | zero => rfl
  | succ calls inductionHypothesis =>
      change allocations ([_, _] ++ registrations (id + 1) calls) = _
      rw [allocations_append, inductionHypothesis, Nat.add_comm]
      rfl

/-- A call of `register` with nothing in between its two steps. -/
def TrackerSystem.registerAtOnce (system : TrackerSystem) (registration : Registration) :
    TrackerSystem :=
  { system with
    tracker := { system.tracker with
      state := system.state.register system.tracker.nextId registration
      nextId := system.tracker.nextId + 1 } }

theorem TrackerSystem.step_register (system : TrackerSystem) (registration : Registration) :
    system.allocate.step (.register system.tracker.nextId registration) =
      some (system.registerAtOnce registration) := by
  have held : system.tracker.nextId ∈ system.allocate.registering := List.mem_cons_self
  have released : system.allocate.registering.erase system.tracker.nextId = system.registering :=
    List.erase_cons_head _ _
  dsimp only [TrackerSystem.step]
  rw [if_pos held, released]
  rfl

theorem TrackerSystem.run_registerAtOnce (system : TrackerSystem) (registration : Registration) :
    Machine.run TrackerSystem.step system
        [.allocate, .register system.tracker.nextId registration] =
      some (system.registerAtOnce registration) := by
  have allocated : system.step .allocate = some system.allocate := rfl
  rw [Machine.run_cons_of_step allocated,
    Machine.run_cons_of_step (system.step_register registration),
    Machine.run_nil]

/-- The calls can always be made. -/
theorem run_registrations (system : TrackerSystem) (calls : Nat) :
    ∃ last, Machine.run TrackerSystem.step system (registrations system.tracker.nextId calls) =
        some last ∧
      last.tracker.nextId = system.tracker.nextId + UInt64.ofNat calls := by
  induction calls generalizing system with
  | zero => exact ⟨system, rfl, (UInt64.add_zero _).symm⟩
  | succ calls inductionHypothesis =>
      obtain ⟨last, run, nextId⟩ := inductionHypothesis (system.registerAtOnce localRegistration)
      have once := system.run_registerAtOnce localRegistration
      refine ⟨last, Machine.run_append_eq_some.mpr ⟨_, once, run⟩, ?_⟩
      rw [nextId, UInt64.ofNat_add, UInt64.add_comm (UInt64.ofNat calls), ← UInt64.add_assoc]
      rfl

/-- The connection with id 1. -/
def firstRegistered : List TrackerEvent := [.allocate, .register 1 localRegistration]

/-- It is closed and cleaned up. -/
def firstCleaned : List TrackerEvent :=
  [.set 1 .setClosed 0, .count, .snapshot 0 fun _ => closedRetention]

/-- The counter comes round to 1. -/
def wrappedAround : List TrackerEvent :=
  registrations 2 (2 ^ 64 - 1) ++ [.allocate, .register 1 localRegistration]

/-- After 2^64 further registrations the id is in the tracker again. -/
theorem departed_id_returns : ∃ first second last,
    Machine.run TrackerSystem.step .start firstRegistered = some first ∧
    Machine.run TrackerSystem.step first firstCleaned = some second ∧
    Machine.run TrackerSystem.step second wrappedAround = some last ∧
    first.state.Has 1 ∧ ¬ second.state.Has 1 ∧ last.state.Has 1 := by
  let first := (Machine.run TrackerSystem.step .start firstRegistered).get (by decide +kernel)
  let second := (Machine.run TrackerSystem.step first firstCleaned).get (by decide +kernel)
  have toFirst : Machine.run TrackerSystem.step .start firstRegistered = some first :=
    (Option.some_get _).symm
  have toSecond : Machine.run TrackerSystem.step first firstCleaned = some second :=
    (Option.some_get _).symm
  have has : first.state.Has 1 := by decide +kernel
  have departed : ¬ second.state.Has 1 := by decide +kernel
  obtain ⟨before, run, nextId⟩ := run_registrations second (2 ^ 64 - 1)
  have secondId : second.tracker.nextId = 2 := by decide +kernel
  rw [secondId] at run nextId
  have wrapped : before.tracker.nextId = 1 := by
    rw [nextId]
    decide +kernel
  have once := before.run_registerAtOnce localRegistration
  rw [wrapped] at once
  -- up to here there have been 2^64 registrations, so the laws still hold
  have toSecondFromStart := Machine.run_append_eq_some.mpr ⟨first, toFirst, toSecond⟩
  have reached := TrackerSystem.reached_of_run
    (Machine.run_append_eq_some.mpr ⟨second, toSecondFromStart, run⟩)
  have few : allocations (firstRegistered ++ firstCleaned ++ registrations 2 (2 ^ 64 - 1)) ≤
      2 ^ 64 := by
    rw [allocations_append, allocations_registrations]
    decide +kernel
  have fresh : (1 : UInt64) ∉ before.state.order :=
    (TrackerSystem.reached_of_run toFirst).not_listed run (reached.nodup_inserted few)
      (by decide +kernel) (by decide +kernel)
  refine ⟨first, second, before.registerAtOnce localRegistration, toFirst, toSecond,
    Machine.run_append_eq_some.mpr ⟨before, run, once⟩, has, departed, ?_⟩
  change OrderedTable.Has (before.state.register before.tracker.nextId localRegistration) 1
  rw [wrapped]
  exact has_of_entries (entries_insert_self (by decide) fresh)

end SimpleForwarder

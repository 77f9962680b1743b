import SimpleForwarder.Tracker.Order

/-!
Contract: the byte counters of a tracked connection.

Owns: that every entry, in the table and in every listing, shares the two
counters that its registration created, whatever the setters replaced in it
(`TrackerSystem.Recorded`, `HasCounters.same`).

Does not own: who adds to the counters.
-/

namespace SimpleForwarder

open OrderedTable

@[simp] theorem Setter.bytesSent_change (now : Nat) (setter : Setter) (c : ConnectionInfo) :
    (setter.change now c).bytesSent = c.bytesSent := by
  cases setter with
  | setExeName | setProxy | setOutboundTarget | setProxyProtocol | setConnected => rfl
  | setClosed | setError => rfl

@[simp] theorem Setter.bytesReceived_change (now : Nat) (setter : Setter) (c : ConnectionInfo) :
    (setter.change now c).bytesReceived = c.bytesReceived := by
  cases setter with
  | setExeName | setProxy | setOutboundTarget | setProxyProtocol | setConnected => rfl
  | setClosed | setError => rfl

/-- One entry replaced the other without new counters. -/
structure ConnectionInfo.SharesCounters (c other : ConnectionInfo) : Prop where
  id : c.id = other.id
  sent : c.bytesSent = other.bytesSent
  received : c.bytesReceived = other.bytesReceived

/-- The entry has the counters of a registration of its id. -/
def HasCounters (events : List TrackerEvent) (c : ConnectionInfo) : Prop :=
  ∃ registration, .register c.id registration ∈ events ∧
    c.bytesSent = registration.bytesSent ∧ c.bytesReceived = registration.bytesReceived

namespace HasCounters

variable {events : List TrackerEvent} {c other : ConnectionInfo}

theorem append (counters : HasCounters events c) (after : List TrackerEvent) :
    HasCounters (events ++ after) c := by
  obtain ⟨registration, registered, shared⟩ := counters
  exact ⟨registration, List.mem_append_left after registered, shared⟩

/-- Two registrations of one id are one call, if no id is inserted twice. -/
theorem registration_unique (unique : (insertedIds events).Nodup) {id : UInt64}
    {registration later : Registration} (registered : .register id registration ∈ events)
    (registeredLater : .register id later ∈ events) : registration = later := by
  have apart : events.Pairwise fun event laterEvent =>
      ∀ first ∈ event.insertedId?, ∀ second ∈ laterEvent.insertedId?, first ≠ second :=
    List.pairwise_filterMap.mp unique
  have symmetric : Std.Symm fun event laterEvent : TrackerEvent =>
      ∀ first ∈ event.insertedId?, ∀ second ∈ laterEvent.insertedId?, first ≠ second :=
    ⟨fun _ _ distinct first isFirst second isSecond =>
      (distinct second isSecond first isFirst).symm⟩
  by_contra different
  have distinct : TrackerEvent.register id registration ≠ .register id later := by
    intro same
    injection same with _ same
    exact different same
  exact List.Pairwise.forall apart registered registeredLater distinct id rfl id rfl rfl

/-- Entries of one id share their counters. -/
theorem same (counters : HasCounters events c) (otherCounters : HasCounters events other)
    (unique : (insertedIds events).Nodup) (sameId : c.id = other.id) :
    c.bytesSent = other.bytesSent ∧ c.bytesReceived = other.bytesReceived := by
  obtain ⟨registration, registered, sent, received⟩ := counters
  obtain ⟨otherRegistration, otherRegistered, otherSent, otherReceived⟩ := otherCounters
  rw [← sameId] at otherRegistered
  have isSame := registration_unique unique registered otherRegistered
  rw [sent, received, otherSent, otherReceived, isSame]
  exact ⟨rfl, rfl⟩

end HasCounters

namespace TrackerSystem

variable {system next : TrackerSystem} {event : TrackerEvent} {events : List TrackerEvent}

/-- Where an entry after a step comes from: it replaced an entry before the
step, or the step registered it. -/
theorem entry_origin {id : UInt64} {c : ConnectionInfo}
    (stepped : system.step event = some next) (entry : next.state.entries id = some c) :
    (∃ before, system.state.entries id = some before ∧ c.SharesCounters before) ∨
      ∃ registration, event = .register c.id registration ∧
        c.bytesSent = registration.bytesSent ∧ c.bytesReceived = registration.bytesReceived := by
  cases step_move stepped with
  | allocate => exact .inl ⟨c, entry, rfl, rfl, rfl⟩
  | count => exact .inl ⟨c, entry, rfl, rfl, rfl⟩
  | @register inserted registration registering =>
      rcases entries_of_entries_insert entry with ⟨_, rfl⟩ | ⟨_, before⟩
      · exact .inr ⟨registration, rfl, rfl, rfl⟩
      · exact .inl ⟨c, before, rfl, rfl, rfl⟩
  | @set changed setter now =>
      obtain ⟨before, entryBefore, rfl⟩ := entries_of_entries_modify entry
      refine .inl ⟨before, entryBefore, ?_⟩
      split
      · exact ⟨setter.id_change now before, setter.bytesSent_change now before,
          setter.bytesReceived_change now before⟩
      · exact ⟨rfl, rfl, rfl⟩
  | snapshot => exact .inl ⟨c, entries_of_snapshot stepped entry, rfl, rfl, rfl⟩

/-- Every entry of the table has the counters of its registration. -/
def Recorded (events : List TrackerEvent) (system : TrackerSystem) : Prop :=
  ∀ id c, system.state.entries id = some c → HasCounters events c

theorem Recorded.start : Recorded [] start := by
  intro id c entry
  exact absurd entry.symm (Option.some_ne_none c)

theorem Recorded.step (recorded : Recorded events system)
    (stepped : system.step event = some next) : Recorded (events ++ [event]) next := by
  intro id c entry
  rcases entry_origin stepped entry with ⟨before, entryBefore, shares⟩ | ⟨registration, rfl, shared⟩
  · obtain ⟨registration, registered, shared⟩ := recorded id before entryBefore
    refine ⟨registration, List.mem_append_left _ ?_, ?_⟩
    · rw [shares.id]
      exact registered
    · rw [shares.sent, shares.received]
      exact shared
  · exact ⟨registration, List.mem_append_right events List.mem_cons_self, shared⟩

/-- What a snapshot lists has the counters of its registration. -/
theorem Recorded.listed (recorded : Recorded events system) (reached : Reached events system)
    {count : UInt64} {clock : UInt64 → Nat} {c : ConnectionInfo}
    (listed : c ∈ (system.state.snapshot count clock).2) : HasCounters events c := by
  have bounded := reached.bounded.snapshot count clock
  rw [(system.state.snapshot_state count clock).2,
    mem_values bounded.covered bounded.keyed] at listed
  rcases (system.state.snapshot_state count clock).1 with same | cleaned
  · rw [same] at listed
    exact recorded _ _ listed
  · rw [cleaned] at listed
    exact recorded _ _ (entries_retain.mp listed).1

end TrackerSystem

end SimpleForwarder

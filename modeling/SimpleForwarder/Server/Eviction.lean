import SimpleForwarder.Server.Lifecycle

/-!
Contract: live connections in the table.

Owns: the place of a live connection in the table over all runs, and how it
leaves it (`live_until_evicted`): a cleanup never removes it, a registration
that finds the table full removes the oldest entry whatever its status, and so
a live connection stays until 5000 others have been registered after it. The
limit of the accept loop does not change that: in `live_connection_evicted` the
others come one after the other.

Does not own: the status of a connection.
-/

namespace SimpleForwarder

open RustText OrderedTable

variable {crates : Crates}

/-- The connection has been registered, and its terminal update has not been
issued. -/
def Stage.isLive : Stage → Bool
  | .registered _ | .handshaking _ _ | .established _ _ _ | .relaying _ _ => true
  | .concluding _ _ _ => true
  | _ => false

/-- The locked section of a registration. -/
def ServerEvent.isRegister : ServerEvent crates → Bool
  | .task _ (.register _) => true
  | _ => false

def registersIn (events : List (ServerEvent crates)) : Nat := events.countP ServerEvent.isRegister

theorem Stage.Shows.unclosed {stage : Stage} {c : ConnectionInfo} (visible : stage.Shows c)
    (live : stage.isLive = true) : c.closedAt = none := by
  cases stage with
  | accepted | registering | returned => exact absurd live nofun
  | registered | handshaking | established | relaying | concluding => exact visible.2

/-- A live task was live before, unless it has just been registered. -/
theorem ConnectionTask.Move.live {now : Nat} {nextId : UInt64} {task next : ConnectionTask}
    {event : TaskEvent crates} {call : Option TrackerEvent}
    (move : Move now nextId task event next call) (live : next.stage.isLive = true) :
    (∃ id startTime, event = .register startTime ∧ next.stage.id? = some id ∧
      call = some (.register id (task.registration startTime))) ∨
    (task.stage.isLive = true ∧ next.stage.id? = task.stage.id? ∧
      ∀ startTime, event ≠ .register startTime) := by
  cases move with
  | allocate | conclude => exact absurd live nofun
  | register => exact .inl ⟨_, _, rfl, rfl, rfl⟩
  | lookup => exact .inr ⟨live, rfl, nofun⟩
  | endHandshake inStage =>
      rw [inStage]
      exact .inr ⟨rfl, id?_afterHandshake _ _, nofun⟩
  | relay inStage =>
      rw [inStage]
      exact .inr ⟨rfl, id?_afterRelay _ _, nofun⟩
  | beginHandshake inStage | report inStage | beginRelay inStage =>
      rw [inStage]
      exact .inr ⟨rfl, rfl, nofun⟩

namespace Server

variable {server next : Server} {event : ServerEvent crates}
  {events : List (ServerEvent crates)} {permits : Nat} {id : UInt64}

/-! ## The place of a live connection -/

/-- The connection is listed with at most `registered` others after it, or
5000 others have been registered. -/
def Placed (server : Server) (id : UInt64) (registered : Nat) : Prop :=
  server.tracker.state.Within id registered ∨ ConnectionTracker.maxConnections ≤ registered

theorem Placed.insert {registered : Nat} (placed : server.Placed id registered) {own : UInt64}
    {registration : Registration}
    (state : next.tracker.state = server.tracker.state.register own registration) :
    next.Placed id (registered + 1) := by
  rcases placed with within | many
  · rcases within.insert with still | many
    · left
      rw [state]
      exact still
    · exact .inr many
  · exact .inr (Nat.le_succ_of_le many)

/-- A step puts at most its own registration after a live connection. -/
theorem placed_step {registered : Nat} (placed : server.Placed id registered)
    (unclosed : ∀ c, server.entry id = some c → c.closedAt = none)
    (consistent : server.tracker.state.Consistent) (move : Move server event next) :
    next.Placed id (registered + registersIn [event]) := by
  cases move with
  | tick | reject | count | accept => exact placed
  | @snapshot count delay tracker stepped =>
      rcases placed with within | many
      · left
        rcases TrackerSystem.snapshot_step stepped with same | cleaned
        · rw [same]
          exact within
        · rw [cleaned]
          refine within.retain ?_
          obtain ⟨c, entry⟩ := ((consistent.has_iff id).mpr within.mem).entry
          refine has_of_entries (entries_retain.mpr ⟨entry, ?_⟩)
          rw [ConnectionInfo.isRetained, unclosed c entry]
      · exact .inr many
  | @task index event task moved call tracker inStage move performed =>
      cases move with
      | allocate | beginHandshake | endHandshake | beginRelay | relay =>
          cases performed
          exact placed
      | @register own startTime =>
          have stepped : server.tracker.step (.register own (task.registration startTime)) =
            some tracker := performed
          cases TrackerSystem.step_move stepped with
          | register => exact placed.insert rfl
      | report | conclude =>
          cases performed
          rcases placed with within | many
          · exact .inl within.modify
          · exact .inr many
      | @lookup own exe =>
          cases exe with
          | none =>
              cases performed
              exact placed
          | some name =>
              cases performed
              rcases placed with within | many
              · exact .inl within.modify
              · exact .inr many

end Server

/-! ## The run laws -/

namespace Server

variable {server next : Server} {event : ServerEvent crates}
  {events : List (ServerEvent crates)} {permits : Nat}

/-- The registration of the task, and the place it has had since. -/
def PlacedSince (events : List (ServerEvent crates)) (server : Server) (index : Nat)
    (id : UInt64) : Prop :=
  ∃ past startTime rest, events = past ++ .task index (.register startTime) :: rest ∧
    server.Placed id (registersIn rest)

theorem registersIn_append (before after : List (ServerEvent crates)) :
    registersIn (before ++ after) = registersIn before + registersIn after :=
  List.countP_append

theorem PlacedSince.step {index : Nat} {id : UInt64} (since : PlacedSince events server index id)
    (unclosed : ∀ c, server.entry id = some c → c.closedAt = none)
    (consistent : server.tracker.state.Consistent) (move : Move server event next) :
    PlacedSince (events ++ [event]) next index id := by
  obtain ⟨past, startTime, rest, rfl, placed⟩ := since
  refine ⟨past, startTime, rest ++ [event], by simp, ?_⟩
  rw [registersIn_append]
  exact placed_step placed unclosed consistent move

/-- Every live connection has its place. -/
def LivePlaced (events : List (ServerEvent crates)) (server : Server) : Prop :=
  ∀ index task id, server.tasks[index]? = some task → task.stage.isLive = true →
    task.stage.id? = some id → PlacedSince events server index id

theorem LivePlaced.step (placed : LivePlaced events server) (inv : Inv events server)
    (few : registrationsIn events ≤ 2 ^ 64) (move : Move server event next) :
    LivePlaced (events ++ [event]) next := by
  obtain ⟨trackerEvents, reached, counted⟩ := inv.reached
  have consistent := reached.consistent (counted ▸ few)
  -- a task that was live keeps its place
  have stays : ∀ (index : Nat) (task : ConnectionTask) (id : UInt64),
      server.tasks[index]? = some task → task.stage.isLive = true → task.stage.id? = some id →
      PlacedSince (events ++ [event]) next index id := by
    intro index task id found live holds
    refine (placed index task id found live holds).step (fun c entry => ?_) consistent move
    exact (inv.taskShown few found id c holds entry).unclosed live
  intro index task id found live holds
  cases move with
  | tick | reject | count | snapshot => exact stays index task id found live holds
  | accept =>
      by_cases inside : index < server.tasks.length
      · rw [List.getElem?_append_left inside] at found
        exact stays index task id found live holds
      · rw [List.getElem?_append_right (Nat.le_of_not_lt inside)] at found
        rw [List.mem_singleton.mp (List.mem_of_getElem? found)] at live
        exact absurd live nofun
  | @task moving event before moved call tracker inStage move performed =>
      have inside := (List.getElem?_eq_some_iff.mp inStage).1
      by_cases same : moving = index
      · subst same
        change (server.tasks.set moving moved)[moving]? = _ at found
        rw [List.getElem?_set_self inside] at found
        rw [← Option.some.inj found] at live holds
        rcases move.live live with
          ⟨own, startTime, rfl, holdsOwn, rfl⟩ | ⟨wasLive, kept, -⟩
        · rw [holds] at holdsOwn
          rw [← Option.some.inj holdsOwn] at performed
          have stepped : server.tracker.step (.register id (before.registration startTime)) =
            some tracker := performed
          refine ⟨events, startTime, [], rfl, .inl ?_⟩
          cases TrackerSystem.step_move stepped with
          | register => exact within_insert_self (by decide)
        · exact stays moving before id inStage wasLive (kept ▸ holds)
      · change (server.tasks.set moving moved)[index]? = _ at found
        rw [List.getElem?_set_ne same] at found
        exact stays index task id found live holds

theorem livePlaced_run (run : Machine.run step (start permits) events = some server)
    (few : registrationsIn events ≤ 2 ^ 64) : LivePlaced events server := by
  have invariant := Machine.run_history (fun events server => Inv events server ∧
    (registrationsIn events ≤ 2 ^ 64 → LivePlaced events server))
    ⟨.start permits, fun _ _ _ _ found => absurd found (Option.some_ne_none _).symm⟩ ?_ run
  · exact invariant.2 few
  · intro history server event next held stepped
    refine ⟨held.1.step stepped, fun few => ?_⟩
    rw [registrationsIn_append] at few
    have fewer := Nat.le_trans (Nat.le_add_right _ _) few
    exact (held.2 fewer).step held.1 fewer (step_move stepped)

/-- An entry that a step removes was closed and cleaned up, or was the oldest
of a full table when another connection was registered. -/
theorem removed_step
    (capacity : server.tracker.state.order.length ≤ ConnectionTracker.maxConnections)
    (move : Move server event next) {id : UInt64} {c : ConnectionInfo}
    (entry : server.entry id = some c) (removed : next.entry id = none) :
    c.closedAt.isSome ∨ ∃ index startTime, event = .task index (.register startTime) ∧
      server.tracker.state.order.length = ConnectionTracker.maxConnections ∧
      server.tracker.state.order.head? = some id := by
  have gone : ¬ next.tracker.state.Has id := by
    intro has
    obtain ⟨c, present⟩ := has.entry
    exact Option.some_ne_none c (present.symm.trans removed)
  have modified : ∀ {own : UInt64} {setter : Setter} {now : Nat},
      (server.tracker.state.set own setter now).Has id :=
    has_modify.mpr (has_of_entries entry)
  cases move with
  | tick | reject | count | accept => exact absurd (has_of_entries entry) gone
  | snapshot stepped =>
      obtain ⟨time, closed, -⟩ := TrackerSystem.closed_of_removed stepped entry removed
      rw [closed]
      exact .inl rfl
  | @task index event task moved call tracker inStage move performed =>
      cases move with
      | allocate | beginHandshake | endHandshake | beginRelay | relay =>
          cases performed
          exact absurd (has_of_entries entry) gone
      | @register own startTime =>
          have stepped : server.tracker.step (.register own (task.registration startTime)) =
            some tracker := performed
          cases TrackerSystem.step_move stepped with
          | register =>
              exact .inr ⟨index, startTime, rfl,
                evicted_by_insert (by decide) capacity (has_of_entries entry) gone⟩
      | report | conclude =>
          cases performed
          exact absurd modified gone
      | @lookup own exe =>
          cases exe with
          | none =>
              cases performed
              exact absurd (has_of_entries entry) gone
          | some name =>
              cases performed
              exact absurd modified gone

/-! ## The limit of the accept loop -/

theorem unfinished_step (within : server.unfinished ≤ server.permits)
    (move : Move server event next) : next.unfinished ≤ next.permits := by
  cases move with
  | tick | reject | count | snapshot => exact within
  | accept room =>
      unfold unfinished
      rw [List.countP_append]
      exact room
  | @task index event task moved call tracker inStage move performed =>
      refine Nat.le_trans ?_ within
      obtain ⟨inside, found⟩ := List.getElem?_eq_some_iff.mp inStage
      unfold unfinished
      dsimp only
      rw [List.countP_set inside, found]
      have stays : task.stage.isReturned = true → moved.stage.isReturned = true := by
        intro returned
        cases move with
        | lookup => exact returned
        | allocate inStage | register inStage | beginHandshake inStage | endHandshake inStage
        | report inStage | conclude inStage | beginRelay inStage | relay inStage =>
            rw [inStage] at returned
            exact absurd returned nofun
      by_cases returned : task.stage.isReturned = true
      · simp [returned, stays returned]
      · have counted : 0 < server.tasks.countP fun task => !task.stage.isReturned :=
          List.countP_pos_iff.mpr ⟨task, List.mem_of_getElem? inStage, by simp [returned]⟩
        simp only [returned, Bool.not_false, if_true]
        split
        · omega
        · omega

theorem unfinished_run (run : Machine.run step (start permits) events = some server) :
    server.unfinished ≤ server.permits :=
  Machine.run_invariant (fun server => server.unfinished ≤ server.permits) (Nat.zero_le _)
    (fun _ _ _ within stepped => unfinished_step within (step_move stepped)) run

end Server

/-- The connection is in the table: every snapshot lists it, its updates take
effect, and it leaves only as the oldest of 5000 entries when another
connection is registered. -/
structure Server.Tracks (crates : Crates) (server : Server) (index : Nat) (id : UInt64) : Prop where
  has : server.tracker.state.Has id
  listed : ∀ count clock, ∃ c ∈ (server.tracker.state.snapshot count clock).2, c.id = id
  updated : ∀ call next, server.step (.task index (.set call) : ServerEvent crates) = some next →
    next.entry id = (server.entry id).map (call.change server.now)
  /-- The detached lookup records the name it has found. -/
  named : ∀ exe next,
    server.step (.task index (.lookup (some exe)) : ServerEvent crates) = some next →
    next.entry id = (server.entry id).map ((Setter.setExeName exe).change server.now)
  leaves : ∀ (event : ServerEvent crates) next, server.step event = some next →
    ¬ next.tracker.state.Has id → ∃ other startTime, event = .task other (.register startTime) ∧
      server.tracker.state.order.length = ConnectionTracker.maxConnections ∧
      server.tracker.state.order.head? = some id

namespace Server

variable {server next : Server} {events : List (ServerEvent crates)}

theorem entry_setter (state : TrackerState) (call : Setter) (now : Nat) {own id : UInt64}
    (same : own = id) :
    (state.set own call now).entries id = (state.entries id).map (call.change now) := by
  rw [same]
  exact (entries_modify id).trans (if_pos rfl)

/-- A setter call of a task changes the entry of its connection. -/
theorem entry_set {index : Nat} {task : ConnectionTask} {id : UInt64} {call : Setter}
    (found : server.tasks[index]? = some task) (holds : task.stage.id? = some id)
    (stepped : server.step (.task index (.set call) : ServerEvent crates) = some next) :
    next.entry id = (server.entry id).map (call.change server.now) := by
  cases step_move stepped with
  | @task _ _ own moved call tracker inStage move performed =>
      rw [found] at inStage
      rw [← Option.some.inj inStage] at move
      cases move with
      | report stage | conclude stage =>
          cases performed
          rw [stage] at holds
          exact entry_setter _ _ _ (Option.some.inj holds)

/-- So does the lookup task that has found a name. -/
theorem entry_lookup {index : Nat} {task : ConnectionTask} {id : UInt64} {exe : Text}
    (found : server.tasks[index]? = some task) (holds : task.stage.id? = some id)
    (stepped : server.step (.task index (.lookup (some exe)) : ServerEvent crates) = some next) :
    next.entry id = (server.entry id).map ((Setter.setExeName exe).change server.now) := by
  cases step_move stepped with
  | @task _ _ own moved call tracker inStage move performed =>
      rw [found] at inStage
      rw [← Option.some.inj inStage] at move
      cases move with
      | lookup stage =>
          cases performed
          rw [stage] at holds
          exact entry_setter _ _ _ (Option.some.inj holds)

theorem tracks_of_has (inv : Inv events server) (few : registrationsIn events ≤ 2 ^ 64)
    {index : Nat} {task : ConnectionTask} {id : UInt64} (found : server.tasks[index]? = some task)
    (live : task.stage.isLive = true) (holds : task.stage.id? = some id)
    (has : server.tracker.state.Has id) : Tracks crates server index id := by
  obtain ⟨trackerEvents, reached, counted⟩ := inv.reached
  have fewIds : allocations trackerEvents ≤ 2 ^ 64 := counted ▸ few
  obtain ⟨c, entry⟩ := has.entry
  have unclosed : c.closedAt = none := (inv.taskShown few found id c holds entry).unclosed live
  have named : c.id = id := reached.bounded.keyed id c entry
  constructor
  · exact has
  · intro count clock
    refine ⟨c, ?_, named⟩
    rw [(reached.snapshot_isListedBy fewIds count clock).mem_iff, named]
    rcases (server.tracker.state.snapshot_state count clock).1 with same | cleaned
    · rw [same]
      exact entry
    · rw [cleaned]
      refine entries_retain.mpr ⟨entry, ?_⟩
      rw [ConnectionInfo.isRetained, unclosed]
  · exact fun call next stepped => entry_set found holds stepped
  · exact fun exe next stepped => entry_lookup found holds stepped
  · intro event next stepped gone
    have removed : next.entry id = none :=
      Option.not_isSome_iff_eq_none.mp gone
    rcases removed_step reached.bounded.capacity (step_move stepped) entry removed with
      closed | evicted
    · rw [unclosed] at closed
      exact absurd closed nofun
    · exact evicted

end Server

/-- In every run, with at most `permits` connections unfinished at a time: a
live connection is in the table, unless 5000 others have been registered after
it. -/
theorem live_until_evicted {permits : Nat} {events : List (ServerEvent crates)} {server : Server}
    (run : Machine.run Server.step (.start permits) events = some server)
    (few : registrationsIn events ≤ 2 ^ 64) :
    server.unfinished ≤ server.permits ∧
    ∀ (index : Nat) task id, server.tasks[index]? = some task → task.stage.isLive = true →
      task.stage.id? = some id →
      ∃ past startTime rest, events = past ++ .task index (.register startTime) :: rest ∧
        (server.Tracks crates index id ∨ ConnectionTracker.maxConnections ≤ registersIn rest) := by
  have inv := Server.inv_of_run run
  obtain ⟨trackerEvents, reached, counted⟩ := inv.reached
  refine ⟨Server.unfinished_run run, fun index task id found live holds => ?_⟩
  obtain ⟨past, startTime, rest, split, placed⟩ :=
    Server.livePlaced_run run few index task id found live holds
  refine ⟨past, startTime, rest, split, ?_⟩
  rcases placed with within | many
  · have has := ((reached.consistent (counted ▸ few)).has_iff id).mpr within.mem
    exact .inl (Server.tracks_of_has inv few found live holds has)
  · exact .inr many

/-- A long connection beside a short one. -/
def oneBeside : List (ServerEvent referenceCrates) := longLived ++ shortLived 1

def oneBesideServer : Server :=
  (Machine.run Server.step (.start ProxyServer.maxConnections) oneBeside).get (by decide +kernel)

theorem live_until_evicted_beside : oneBesideServer.Tracks referenceCrates 0 1 := by
  have run : Machine.run Server.step (.start ProxyServer.maxConnections) oneBeside =
      some oneBesideServer := (Option.some_get _).symm
  have found : oneBesideServer.tasks[0]? = some Server.longLivedTask := rfl
  obtain ⟨past, startTime, rest, split, tracks | many⟩ :=
    (live_until_evicted run (by decide +kernel)).2 0 _ 1 found rfl rfl
  · exact tracks
  · have total : registersIn oneBeside = 2 := by decide +kernel
    rw [split, Server.registersIn_append] at total
    change registersIn past + registersIn ([_] ++ rest) = 2 at total
    rw [Server.registersIn_append] at total
    have bound : ConnectionTracker.maxConnections = 5000 := rfl
    omega

/-- A connection is live, and it is not in the table after 5000 others. -/
theorem live_connection_evicted : ∃ last task,
    Machine.run Server.step (.start ProxyServer.maxConnections) (longLived ++ burst 1 5000) =
      some last ∧
    last.tasks[0]? = some task ∧ task.stage.isLive = true ∧ task.stage.id? = some 1 ∧
    ¬ last.tracker.state.Has 1 := by
  obtain ⟨last, run, after⟩ :=
    Server.run_longBurst (show ConnectionTracker.maxConnections ≤ 5000 by decide) (by decide)
  obtain ⟨_, reached, -⟩ := (Server.inv_of_run run).reached
  exact ⟨last, _, run, after.task, rfl, rfl,
    fun has => after.evicted (reached.bounded.covered 1 has)⟩

end SimpleForwarder

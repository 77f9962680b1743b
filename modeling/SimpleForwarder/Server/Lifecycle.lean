import SimpleForwarder.Server.Bursts

/-!
Contract: the lifecycle of a connection in the tracker.

Owns: what the stage of a task says about the entry of its connection
(`Stage.Shows`), the invariant of the server that ties every entry to its task,
and the lifecycle law of all runs (`lifecycle_kept`): the status only moves
forward, a task that has returned has issued one terminal update, `closed_at`
is set with it, and a cleanup removes nothing before it or too soon after it.

The setters of the tracker do not enforce any of this. It rests on the tasks:
an id belongs to one task as long as ids are unique, which the 64-bit counter
grants for the first 2^64 registrations (`reused_id_reopens` is a run beyond).

Does not own: capacity eviction.
-/

namespace SimpleForwarder

open RustText EffectProgram OrderedTable

variable {crates : Crates}

/-! ## The status of a connection -/

def ConnStatus.isTerminal : ConnStatus → Bool
  | .closed | .error _ => true
  | _ => false

/-- `later` is a status that a connection of status `earlier` can come to. -/
def ConnStatus.Leads (earlier later : ConnStatus) : Prop :=
  earlier = later ∨
    match earlier with
    | .connecting => later ≠ .connecting
    | .connected => later.isTerminal = true
    | _ => False

namespace ConnStatus

variable {first second third : ConnStatus}

theorem Leads.refl (status : ConnStatus) : status.Leads status := .inl rfl

theorem leads_of_isTerminal (terminal : second.isTerminal = true)
    (isOpen : first.isTerminal = false) :
    first.Leads second := by
  cases first with
  | connecting =>
      refine .inr fun same => ?_
      rw [same] at terminal
      exact absurd terminal nofun
  | connected => exact .inr terminal
  | closed => exact absurd isOpen nofun
  | error => exact absurd isOpen nofun

/-- Nothing comes after a terminal status. -/
theorem Leads.eq_of_isTerminal (leads : first.Leads second) (terminal : first.isTerminal = true) :
    second = first := by
  rcases leads with same | moved
  · exact same.symm
  · cases first with
    | connecting => exact absurd terminal nofun
    | connected => exact absurd terminal nofun
    | closed => exact moved.elim
    | error => exact moved.elim

theorem Leads.trans (leads : first.Leads second) (further : second.Leads third) :
    first.Leads third := by
  rcases leads with same | moved
  · rw [same]
    exact further
  · cases first with
    | connecting =>
        refine .inr fun back => ?_
        rw [back] at further
        rcases further with same | again
        · exact moved same
        · cases second with
          | connecting => exact again rfl
          | connected => exact absurd again nofun
          | closed => exact again
          | error => exact again
    | connected =>
        rw [further.eq_of_isTerminal moved]
        exact .inr moved
    | closed => exact moved.elim
    | error => exact moved.elim

end ConnStatus

/-! ## What a stage says about the entry -/

/-- The entry of a connection whose task is in the stage. -/
def Stage.Shows (stage : Stage) (c : ConnectionInfo) : Prop :=
  match stage with
  | .accepted | .registering _ => False
  | .registered _ | .handshaking _ _ => c.status = .connecting ∧ c.closedAt = none
  | .established _ _ done =>
      c.status = (if done < 4 then .connecting else .connected) ∧ c.closedAt = none
  | .relaying _ _ => c.status = .connected ∧ c.closedAt = none
  | .concluding _ _ _ => c.status.isTerminal = false ∧ c.closedAt = none
  | .returned _ _ => c.status.isTerminal = true ∧ c.closedAt.isSome

theorem Stage.Shows.closedAt_isSome {stage : Stage} {c : ConnectionInfo} (visible : stage.Shows c) :
    c.closedAt.isSome = c.status.isTerminal := by
  cases stage with
  | accepted | registering => exact visible.elim
  | registered | handshaking | relaying =>
      rw [visible.1, visible.2]
      rfl
  | established id handed done =>
      rw [visible.1, visible.2]
      split
      · rfl
      · rfl
  | concluding =>
      rw [visible.1, visible.2]
      rfl
  | returned => rw [visible.1, visible.2]

/-- A terminal update is due in no other stage. -/
def Stage.Due (stage : Stage) : Prop :=
  match stage with
  | .concluding _ call _ => call.isTerminal = true
  | _ => True

theorem due_afterHandshake (id : UInt64) (result : Option (Except Text HandshakeResult)) :
    (Stage.afterHandshake id result).Due := by
  match result with
  | some (.ok _) => trivial
  | some (.error _) => rfl
  | none => rfl

theorem due_afterRelay (id : UInt64) (relay : Relay) : (Stage.afterRelay id relay).Due := by
  unfold Stage.afterRelay
  split
  · trivial
  · rfl
  · rfl

@[simp] theorem id?_afterHandshake (id : UInt64) (result : Option (Except Text HandshakeResult)) :
    (Stage.afterHandshake id result).id? = some id := by
  match result with
  | some (.ok _) => rfl
  | some (.error _) => rfl
  | none => rfl

@[simp] theorem id?_afterRelay (id : UInt64) (relay : Relay) :
    (Stage.afterRelay id relay).id? = some id := by
  unfold Stage.afterRelay
  split
  · rfl
  · rfl
  · rfl

theorem shows_afterHandshake {id : UInt64} {c : ConnectionInfo}
    (result : Option (Except Text HandshakeResult)) (connecting : c.status = .connecting)
    (unclosed : c.closedAt = none) : (Stage.afterHandshake id result).Shows c := by
  have isOpen : c.status.isTerminal = false := by
    rw [connecting]
    rfl
  match result with
  | some (.ok _) => exact ⟨connecting, unclosed⟩
  | some (.error _) => exact ⟨isOpen, unclosed⟩
  | none => exact ⟨isOpen, unclosed⟩

theorem shows_afterRelay {id : UInt64} {c : ConnectionInfo} (relay : Relay)
    (connected : c.status = .connected) (unclosed : c.closedAt = none) :
    (Stage.afterRelay id relay).Shows c := by
  have isOpen : c.status.isTerminal = false := by
    rw [connected]
    rfl
  unfold Stage.afterRelay
  split
  · exact ⟨connected, unclosed⟩
  · exact ⟨isOpen, unclosed⟩
  · exact ⟨isOpen, unclosed⟩

/-- Of the four reports only the last changes the status. -/
theorem report_shows {handed : HandshakeResult} {done : Nat} {due : Setter} {id : UInt64}
    {c : ConnectionInfo} (isDue : (reports handed)[done]? = some due) (now : Nat)
    (visible : (Stage.established id handed done).Shows c) :
    (Stage.established id handed (done + 1)).Shows (due.change now c) ∧
      c.status.Leads (due.change now c).status ∧ due.isTerminal = false := by
  obtain ⟨status, unclosed⟩ := visible
  match done with
  | 0 =>
      cases isDue
      exact ⟨⟨status, unclosed⟩, .refl _, rfl⟩
  | 1 =>
      cases isDue
      exact ⟨⟨status, unclosed⟩, .refl _, rfl⟩
  | 2 =>
      cases isDue
      exact ⟨⟨status, unclosed⟩, .refl _, rfl⟩
  | 3 =>
      cases isDue
      refine ⟨⟨rfl, unclosed⟩, ?_, rfl⟩
      rw [show c.status = .connecting from status]
      exact .inr nofun
  | done + 4 => exact absurd isDue nofun

/-- The exe name is not part of what a stage shows. -/
theorem shows_setExeName {stage : Stage} {c : ConnectionInfo} {now : Nat} {name : Text}
    (visible : stage.Shows c) : stage.Shows ((Setter.setExeName name).change now c) := by
  cases stage with
  | accepted | registering | registered | handshaking | established => exact visible
  | relaying | concluding | returned => exact visible

theorem four_le_of_reported {handed : HandshakeResult} {done : Nat}
    (reported : (reports handed)[done]? = none) : ¬ done < 4 :=
  Nat.not_lt.mpr (List.getElem?_eq_none_iff.mp reported)

theorem conclude_shows {id : UInt64} {due : Setter} {result : Except Text Unit}
    {c : ConnectionInfo} (now : Nat) (terminal : due.isTerminal = true)
    (visible : (Stage.concluding id due result).Shows c) :
    (Stage.returned id result).Shows (due.change now c) ∧
      c.status.Leads (due.change now c).status := by
  cases due with
  | setClosed => exact ⟨⟨rfl, rfl⟩, ConnStatus.leads_of_isTerminal rfl visible.1⟩
  | setError => exact ⟨⟨rfl, rfl⟩, ConnStatus.leads_of_isTerminal rfl visible.1⟩
  | setExeName | setProxy | setOutboundTarget | setProxyProtocol | setConnected =>
      exact absurd terminal nofun

/-! ## A step of a task -/

namespace ConnectionTask.Move

variable {now : Nat} {nextId : UInt64} {task next : ConnectionTask} {event : TaskEvent crates}
  {call : Option TrackerEvent} {tracker after : TrackerSystem}

theorem due (move : Move now nextId task event next call) (due : task.stage.Due) :
    next.stage.Due := by
  cases move with
  | endHandshake => exact due_afterHandshake _ _
  | relay => exact due_afterRelay _ _
  | lookup => exact due
  | allocate | register | beginHandshake | report | conclude | beginRelay => trivial

/-- A task takes an id once and keeps it. -/
theorem id? (move : Move now nextId task event next call) :
    (event = .allocate ∧ task.stage.id? = none ∧ next.stage.id? = some nextId) ∨
      (event ≠ .allocate ∧ next.stage.id? = task.stage.id?) := by
  cases move with
  | allocate inStage =>
      rw [inStage]
      exact .inl ⟨rfl, rfl, rfl⟩
  | endHandshake inStage =>
      rw [inStage]
      exact .inr ⟨nofun, id?_afterHandshake _ _⟩
  | relay inStage =>
      rw [inStage]
      exact .inr ⟨nofun, id?_afterRelay _ _⟩
  | lookup => exact .inr ⟨nofun, rfl⟩
  | register inStage | beginHandshake inStage | report inStage | conclude inStage
  | beginRelay inStage =>
      rw [inStage]
      exact .inr ⟨nofun, rfl⟩

/-- An entry after a step is that of the task's connection, which the new stage
shows, or it is another entry as it was. -/
def Explained (tracker : TrackerSystem) (task next : ConnectionTask) (id : UInt64)
    (c : ConnectionInfo) : Prop :=
  (next.stage.id? = some id ∧ next.stage.Shows c ∧
    ∀ before, tracker.state.entries id = some before → before.status.Leads c.status) ∨
  (task.stage.id? ≠ some id ∧ tracker.state.entries id = some c)

/-- The stage of a task shows the entry of its connection. -/
def Shown (tracker : TrackerSystem) (task : ConnectionTask) : Prop :=
  ∀ id c, task.stage.id? = some id → tracker.state.entries id = some c → task.stage.Shows c

variable {id own : UInt64} {c : ConnectionInfo} {setter : Setter}

theorem explained_of_none (performed : Server.perform tracker none = some after)
    (shown : Shown tracker task) (sameId : next.stage.id? = task.stage.id?)
    (kept : ∀ before, task.stage.Shows before → next.stage.Shows before)
    (entry : after.state.entries id = some c) : Explained tracker task next id c := by
  cases performed
  by_cases own : task.stage.id? = some id
  · refine .inl ⟨sameId.trans own, kept c (shown id c own entry), fun before found => ?_⟩
    rw [entry] at found
    rw [Option.some.inj found]
    exact .refl _
  · exact .inr ⟨own, entry⟩

theorem explained_of_set
    (performed : Server.perform tracker (some (.set own setter now)) = some after)
    (shown : Shown tracker task) (holds : task.stage.id? = some own)
    (holdsNext : next.stage.id? = some own)
    (changed : ∀ before, task.stage.Shows before → next.stage.Shows (setter.change now before) ∧
      before.status.Leads (setter.change now before).status)
    (entry : after.state.entries id = some c) : Explained tracker task next id c := by
  cases performed
  obtain ⟨before, found, same⟩ := entries_of_entries_modify entry
  by_cases isOwn : id = own
  · rw [if_pos isOwn] at same
    rw [← isOwn] at holds holdsNext
    obtain ⟨visible, leads⟩ := changed before (shown id before holds found)
    rw [same]
    refine .inl ⟨holdsNext, visible, fun again foundAgain => ?_⟩
    rw [found] at foundAgain
    rw [← Option.some.inj foundAgain]
    exact leads
  · rw [if_neg isOwn] at same
    unfold Explained
    rw [holds, same]
    exact .inr ⟨fun sameId => isOwn (Option.some.inj sameId).symm, found⟩

theorem explained_of_register {registration : Registration}
    (performed : Server.perform tracker (some (.register own registration)) = some after)
    (shown : Shown tracker task) (inStage : task.stage = .registering own)
    (next_eq : next.stage = .registered own)
    (entry : after.state.entries id = some c) : Explained tracker task next id c := by
  have step : tracker.step (.register own registration) = some after := performed
  cases TrackerSystem.step_move step with
  | register registering =>
      unfold Explained
      rw [inStage, next_eq]
      rcases entries_of_entries_insert entry with ⟨rfl, rfl⟩ | ⟨distinct, found⟩
      · refine .inl ⟨rfl, ⟨rfl, rfl⟩, fun before found => ?_⟩
        have impossible := shown id before (by rw [inStage]; rfl) found
        rw [inStage] at impossible
        exact impossible.elim
      · exact .inr ⟨fun same => distinct (Option.some.inj same).symm, found⟩

theorem explained (move : Move now nextId task event next call)
    (performed : Server.perform tracker call = some after) (due : task.stage.Due)
    (shown : Shown tracker task) (entry : after.state.entries id = some c) :
    Explained tracker task next id c := by
  cases move with
  | allocate inStage =>
      cases performed
      unfold Explained
      rw [inStage]
      exact .inr ⟨nofun, entry⟩
  | register inStage => exact explained_of_register performed shown inStage rfl entry
  | beginHandshake inStage =>
      refine explained_of_none performed shown ?_ (fun before visible => ?_) entry
      · rw [inStage]
        rfl
      · rw [inStage] at visible
        exact visible
  | endHandshake inStage =>
      refine explained_of_none performed shown ?_ (fun before visible => ?_) entry
      · rw [inStage]
        exact id?_afterHandshake _ _
      · rw [inStage] at visible
        exact shows_afterHandshake _ visible.1 visible.2
  | report inStage isDue =>
      refine explained_of_set performed shown ?_ rfl (fun before visible => ?_) entry
      · rw [inStage]
        rfl
      · rw [inStage] at visible
        exact ⟨(report_shows isDue now visible).1, (report_shows isDue now visible).2.1⟩
  | conclude inStage =>
      rw [inStage] at due
      refine explained_of_set performed shown ?_ rfl (fun before visible => ?_) entry
      · rw [inStage]
        rfl
      · rw [inStage] at visible
        exact conclude_shows now due visible
  | beginRelay inStage reported =>
      refine explained_of_none performed shown ?_ (fun before visible => ?_) entry
      · rw [inStage]
        rfl
      · rw [inStage] at visible
        obtain ⟨status, unclosed⟩ := visible
        rw [if_neg (four_le_of_reported reported)] at status
        exact ⟨status, unclosed⟩
  | relay inStage =>
      refine explained_of_none performed shown ?_ (fun before visible => ?_) entry
      · rw [inStage]
        exact id?_afterRelay _ _
      · rw [inStage] at visible
        exact shows_afterRelay _ visible.1 visible.2
  | @lookup own exe _ holds =>
      cases exe with
      | none => exact explained_of_none performed shown rfl (fun _ visible => visible) entry
      | some name =>
          refine explained_of_set performed shown holds holds (fun before visible => ?_) entry
          exact ⟨shows_setExeName visible, .refl _⟩

end ConnectionTask.Move

/-! ## The invariant of the server -/

namespace Server

variable {server next first last : Server} {event : ServerEvent crates}
  {events : List (ServerEvent crates)}

/-- Every entry belongs to the one task that holds its id, and shows the stage
of that task. -/
structure Inv (events : List (ServerEvent crates)) (server : Server) : Prop where
  tracked : ∃ trackerEvents, Machine.run TrackerSystem.step .start trackerEvents =
      some server.tracker ∧ allocations trackerEvents = registrationsIn events
  due : ∀ task ∈ server.tasks, task.stage.Due
  issued : ∀ index id, server.Holds index id → id ∈ issuedIds (registrationsIn events)
  unique : registrationsIn events ≤ 2 ^ 64 →
    ∀ index other id, server.Holds index id → server.Holds other id → index = other
  shown : registrationsIn events ≤ 2 ^ 64 → ∀ id c, server.entry id = some c →
    ∃ (index : Nat) (task : ConnectionTask), server.tasks[index]? = some task ∧
      task.stage.id? = some id ∧ task.stage.Shows c

theorem Inv.start (permits : Nat) : Inv ([] : List (ServerEvent crates)) (start permits) where
  tracked := ⟨[], rfl, rfl⟩
  due := fun _ member => absurd member List.not_mem_nil
  issued := fun _ _ ⟨_, found, _⟩ => absurd found (Option.some_ne_none _).symm
  unique := fun _ _ _ _ ⟨_, found, _⟩ => absurd found (Option.some_ne_none _).symm
  shown := fun _ _ _ entry => absurd entry (Option.some_ne_none _).symm

theorem Inv.reached (inv : Inv events server) : ∃ trackerEvents,
    TrackerSystem.Reached trackerEvents server.tracker ∧
      allocations trackerEvents = registrationsIn events := by
  obtain ⟨trackerEvents, run, counted⟩ := inv.tracked
  exact ⟨trackerEvents, TrackerSystem.reached_of_run run, counted⟩

theorem Inv.nextId (inv : Inv events server) :
    server.tracker.tracker.nextId = UInt64.ofNat (1 + registrationsIn events) := by
  obtain ⟨trackerEvents, reached, counted⟩ := inv.reached
  rw [← counted]
  exact reached.accounted.nextId

/-- A task shows the entry of its connection. -/
theorem Inv.taskShown (inv : Inv events server) (few : registrationsIn events ≤ 2 ^ 64)
    {index : Nat} {task : ConnectionTask} (found : server.tasks[index]? = some task) :
    ConnectionTask.Move.Shown server.tracker task := by
  intro id c holds entry
  obtain ⟨owner, ownerTask, ownerFound, ownerHolds, visible⟩ := inv.shown few id c entry
  have same := inv.unique few index owner id ⟨task, found, holds⟩ ⟨ownerTask, ownerFound, ownerHolds⟩
  rw [← same, found] at ownerFound
  rw [Option.some.inj ownerFound]
  exact visible

/-- Replacing the task at an index. -/
theorem holds_set {index other : Nat} {id : UInt64} {task moved : ConnectionTask}
    {tracker : TrackerSystem} (found : server.tasks[index]? = some task) :
    Holds { server with tracker := tracker, tasks := server.tasks.set index moved } other id ↔
      if other = index then moved.stage.id? = some id else server.Holds other id := by
  have inside : index < server.tasks.length := (List.getElem?_eq_some_iff.mp found).1
  unfold Holds
  dsimp only
  split
  · next same =>
      rw [same, List.getElem?_set_self inside]
      constructor
      · intro held
        obtain ⟨task, found, holds⟩ := held
        rw [Option.some.inj found]
        exact holds
      · exact fun holds => ⟨moved, rfl, holds⟩
  · next distinct => rw [List.getElem?_set_ne (Ne.symm distinct)]

/-- A connection that was just accepted holds no id. -/
theorem holds_accept {other : Nat} {id : UInt64} {index : Nat} {peerAddr : Text} :
    Holds { server with tasks := server.tasks ++ [newTask index peerAddr] } other id ↔
      server.Holds other id := by
  unfold Holds
  dsimp only
  constructor
  · intro held
    obtain ⟨task, found, holds⟩ := held
    by_cases inside : other < server.tasks.length
    · rw [List.getElem?_append_left inside] at found
      exact ⟨task, found, holds⟩
    · rw [List.getElem?_append_right (Nat.le_of_not_lt inside)] at found
      rw [List.mem_singleton.mp (List.mem_of_getElem? found)] at holds
      exact absurd holds (Option.some_ne_none id).symm
  · intro held
    obtain ⟨task, found, holds⟩ := held
    rw [List.getElem?_append_left (List.getElem?_eq_some_iff.mp found).1]
    exact ⟨task, found, holds⟩

theorem Inv.issued_step (inv : Inv events server) (move : Move server event next) :
    ∀ index id, next.Holds index id → id ∈ issuedIds (registrationsIn (events ++ [event])) := by
  intro other id holds
  have grows : ∀ id ∈ issuedIds (registrationsIn events),
      id ∈ issuedIds (registrationsIn (events ++ [event])) := by
    intro id issued
    rw [registrationsIn_append]
    unfold issuedIds at issued ⊢
    exact List.map_subset _ (List.range_subset.mpr (Nat.le_add_right _ _)) issued
  cases move with
  | tick | reject | count | snapshot => exact grows id (inv.issued other id holds)
  | accept => exact grows id (inv.issued other id (holds_accept.mp holds))
  | @task index event task moved call tracker inStage move performed =>
      rw [holds_set inStage] at holds
      split at holds
      · rcases move.id? with ⟨rfl, -, fresh⟩ | ⟨-, kept⟩
        · rw [registrationsIn_append]
          change id ∈ issuedIds (registrationsIn events + 1)
          rw [issuedIds_succ, ← inv.nextId]
          rw [fresh] at holds
          exact List.mem_append_right _ (List.mem_singleton.mpr (Option.some.inj holds).symm)
        · rw [kept] at holds
          exact grows id (inv.issued index id ⟨task, inStage, holds⟩)
      · exact grows id (inv.issued other id holds)

theorem Inv.unique_step (inv : Inv events server) (move : Move server event next)
    (few : registrationsIn (events ++ [event]) ≤ 2 ^ 64) :
    ∀ index other id, next.Holds index id → next.Holds other id → index = other := by
  have fewer : registrationsIn events ≤ 2 ^ 64 := by
    rw [registrationsIn_append] at few
    exact Nat.le_trans (Nat.le_add_right _ _) few
  have unique := inv.unique fewer
  cases move with
  | tick | reject | count | snapshot => exact unique
  | accept =>
      intro first second id held alsoHeld
      exact unique first second id (holds_accept.mp held) (holds_accept.mp alsoHeld)
  | @task index event task moved call tracker inStage move performed =>
      -- an id the task holds now is held by no other task
      have alone : ∀ id, moved.stage.id? = some id → ∀ other, server.Holds other id →
          other = index := by
        intro id holds other held
        rcases move.id? with ⟨rfl, -, fresh⟩ | ⟨-, kept⟩
        · rw [fresh, inv.nextId] at holds
          have nodup := nodup_issuedIds few
          rw [registrationsIn_append] at nodup
          change (issuedIds (registrationsIn events + 1)).Nodup at nodup
          rw [issuedIds_succ, Option.some.inj holds] at nodup
          exact absurd (List.mem_singleton_self id)
            (List.disjoint_of_nodup_append nodup (inv.issued other id held))
        · rw [kept] at holds
          exact unique other index id held ⟨task, inStage, holds⟩
      intro first second id held alsoHeld
      rw [holds_set inStage] at held alsoHeld
      split at held
      · next isFirst =>
          split at alsoHeld
          · next isSecond => rw [isFirst, isSecond]
          · rw [isFirst, alone id held second alsoHeld]
      · split at alsoHeld
        · next isSecond => rw [isSecond, alone id alsoHeld first held]
        · exact unique first second id held alsoHeld

/-- An entry after a step is that of the task that moved, or it was there
before. -/
theorem Inv.shown_step (inv : Inv events server) (fewer : registrationsIn events ≤ 2 ^ 64)
    (move : Move server event next) {id : UInt64} {c : ConnectionInfo}
    (entry : next.entry id = some c) :
    (∃ (index : Nat) (task : ConnectionTask), next.tasks[index]? = some task ∧
      task.stage.id? = some id ∧ task.stage.Shows c) ∧
    (∀ before, server.entry id = some before → before.status.Leads c.status) := by
  have same : ∀ before, server.entry id = some before → server.entry id = some c →
      before.status.Leads c.status := by
    intro before found again
    rw [found] at again
    rw [Option.some.inj again]
    exact .refl _
  cases move with
  | tick | reject | count =>
      exact ⟨inv.shown fewer id c entry, fun before found => same before found entry⟩
  | accept =>
      obtain ⟨index, task, found, holds, visible⟩ := inv.shown fewer id c entry
      refine ⟨⟨index, task, ?_, holds, visible⟩, fun before found => same before found entry⟩
      exact (List.getElem?_append_left (List.getElem?_eq_some_iff.mp found).1).trans found
  | @task index event task moved call tracker inStage move performed =>
      have inside := (List.getElem?_eq_some_iff.mp inStage).1
      have explained := move.explained performed (inv.due task (List.mem_of_getElem? inStage))
        (inv.taskShown fewer inStage) entry
      rcases explained with ⟨holds, visible, leads⟩ | ⟨others, found⟩
      · exact ⟨⟨index, moved, List.getElem?_set_self inside, holds, visible⟩, leads⟩
      · obtain ⟨owner, ownerTask, ownerFound, holds, visible⟩ := inv.shown fewer id c found
        refine ⟨⟨owner, ownerTask, ?_, holds, visible⟩, fun before again => same before again found⟩
        have distinct : index ≠ owner := by
          intro isOwner
          rw [← isOwner, inStage] at ownerFound
          rw [← Option.some.inj ownerFound] at holds
          exact others holds
        exact (List.getElem?_set_ne distinct).trans ownerFound
  | @snapshot count delay tracker stepped =>
      have found := TrackerSystem.entries_of_snapshot stepped entry
      exact ⟨inv.shown fewer id c found, fun before again => same before again found⟩

theorem Inv.step (inv : Inv events server) (stepped : server.step event = some next) :
    Inv (events ++ [event]) next := by
  have move := step_move stepped
  constructor
  · obtain ⟨before, run, counted⟩ := inv.tracked
    obtain ⟨after, trackerStepped, countedStep⟩ := tracker_step stepped
    refine ⟨before ++ after, Machine.run_append_eq_some.mpr ⟨_, run, trackerStepped⟩, ?_⟩
    rw [allocations_append, registrationsIn_append, counted, countedStep]
  · cases move with
    | tick | reject | count | snapshot => exact inv.due
    | accept =>
        intro task member
        rcases List.mem_append.mp member with old | last
        · exact inv.due task old
        · rw [List.mem_singleton.mp last]
          trivial
    | task inStage move =>
        intro task member
        rcases List.mem_or_eq_of_mem_set member with old | moved
        · exact inv.due task old
        · rw [moved]
          exact move.due (inv.due _ (List.mem_of_getElem? inStage))
  · exact inv.issued_step move
  · exact inv.unique_step move
  · intro few id c entry
    rw [registrationsIn_append] at few
    exact (inv.shown_step (Nat.le_trans (Nat.le_add_right _ _) few) move entry).1

theorem inv_of_run {permits : Nat} (run : Machine.run step (start permits) events = some server) :
    Inv events server :=
  Machine.run_history Inv (.start permits) (fun _ _ _ _ inv stepped => inv.step stepped) run

end Server

/-! ## The terminal update -/

/-- The terminal updates a task has issued when it comes to a stage. -/
def Stage.terminalUpdates (stage : Stage) : Nat := if stage.isReturned then 1 else 0

theorem Setter.isTerminal_of_report {handed : HandshakeResult} {done : Nat} {due : Setter}
    (isDue : (reports handed)[done]? = some due) : due.isTerminal = false := by
  match done with
  | 0 | 1 | 2 | 3 =>
      cases isDue
      rfl
  | done + 4 => exact absurd isDue (Option.some_ne_none due).symm

theorem terminalUpdates_afterHandshake (id : UInt64)
    (result : Option (Except Text HandshakeResult)) :
    (Stage.afterHandshake id result).terminalUpdates = 0 := by
  match result with
  | some (.ok _) => rfl
  | some (.error _) => rfl
  | none => rfl

theorem terminalUpdates_afterRelay (id : UInt64) (relay : Relay) :
    (Stage.afterRelay id relay).terminalUpdates = 0 := by
  unfold Stage.afterRelay
  split
  · rfl
  · rfl
  · rfl

/-- Only the step that returns is a terminal update. -/
theorem ConnectionTask.Move.terminalUpdates {now : Nat} {nextId : UInt64}
    {task next : ConnectionTask} {event : TaskEvent crates} {call : Option TrackerEvent}
    (move : Move now nextId task event next call) (due : task.stage.Due) :
    next.stage.terminalUpdates =
      task.stage.terminalUpdates + if event.isTerminal then 1 else 0 := by
  cases move with
  | report inStage isDue =>
      have silent := Setter.isTerminal_of_report isDue
      simp [inStage, silent, TaskEvent.isTerminal, Stage.terminalUpdates, Stage.isReturned]
  | conclude inStage =>
      rw [inStage] at due
      have terminal : Setter.isTerminal _ = true := due
      simp [inStage, terminal, TaskEvent.isTerminal, Stage.terminalUpdates, Stage.isReturned]
  | endHandshake inStage =>
      rw [inStage]
      exact terminalUpdates_afterHandshake _ _
  | relay inStage =>
      rw [inStage]
      exact terminalUpdates_afterRelay _ _
  | lookup => rfl
  | allocate inStage | register inStage | beginHandshake inStage | beginRelay inStage =>
      rw [inStage]
      rfl

namespace Server

variable {server next first last : Server} {event : ServerEvent crates}
  {events before after : List (ServerEvent crates)} {permits : Nat}

/-- The terminal updates that the task at an index must have issued. -/
def terminalUpdates (server : Server) (index : Nat) : Nat :=
  match server.tasks[index]? with
  | some task => task.stage.terminalUpdates
  | none => 0

theorem terminalUpdates_step (due : ∀ task ∈ server.tasks, task.stage.Due)
    (move : Move server event next) (index : Nat) :
    next.terminalUpdates index = server.terminalUpdates index + terminalCalls index [event] := by
  cases move with
  | tick | reject | count | snapshot => rfl
  | @accept peerAddr =>
      change _ = server.terminalUpdates index
      unfold terminalUpdates
      dsimp only
      by_cases inside : index < server.tasks.length
      · rw [List.getElem?_append_left inside]
      · rw [List.getElem?_append_right (Nat.le_of_not_lt inside),
          List.getElem?_eq_none (Nat.le_of_not_lt inside)]
        split
        · next task found =>
            rw [List.mem_singleton.mp (List.mem_of_getElem? found)]
            rfl
        · rfl
  | @task moving event task moved call tracker inStage move performed =>
      have inside := (List.getElem?_eq_some_iff.mp inStage).1
      have counted : terminalCalls index [ServerEvent.task moving event] =
          if moving = index then (if event.isTerminal then 1 else 0) else 0 := by
        unfold terminalCalls
        rw [List.countP_singleton]
        dsimp only [ServerEvent.isTerminalOf]
        by_cases same : moving = index
        · simp [same]
        · simp [same]
      rw [counted]
      unfold terminalUpdates
      dsimp only
      by_cases same : moving = index
      · rw [if_pos same, ← same, List.getElem?_set_self inside, inStage]
        exact move.terminalUpdates (due task (List.mem_of_getElem? inStage))
      · rw [if_neg same, List.getElem?_set_ne same, Nat.add_zero]

theorem terminalCalls_run (run : Machine.run step (start permits) events = some server)
    (index : Nat) : terminalCalls index events = server.terminalUpdates index := by
  have counted := Machine.run_history (fun events server => Inv events server ∧
    terminalCalls index events = server.terminalUpdates index) ⟨.start permits, rfl⟩ ?_ run
  · exact counted.2
  · intro history server event next held stepped
    refine ⟨held.1.step stepped, ?_⟩
    rw [terminalCalls_append, held.2, terminalUpdates_step held.1.due (step_move stepped)]

/-- The task that serves the id issued a terminal update at the time. -/
def ClosedBy (permits : Nat) (events : List (ServerEvent crates)) (id : UInt64) (time : Nat) :
    Prop :=
  ∃ past index call rest issuing,
    events = past ++ .task index (.set call) :: rest ∧ call.isTerminal = true ∧
    Machine.run step (start permits) past = some issuing ∧ issuing.Holds index id ∧
    issuing.now = time

theorem ClosedBy.append {id : UInt64} {time : Nat} (closed : ClosedBy permits events id time)
    (event : ServerEvent crates) : ClosedBy permits (events ++ [event]) id time := by
  obtain ⟨past, index, call, rest, issuing, rfl, terminal, run, holds, now⟩ := closed
  exact ⟨past, index, call, rest ++ [event], issuing, by simp, terminal, run, holds, now⟩

theorem closedAt_of_set {tracker after : TrackerSystem} {own id : UInt64} {setter : Setter}
    {now time : Nat} {c : ConnectionInfo}
    (performed : perform tracker (some (.set own setter now)) = some after)
    (entry : after.state.entries id = some c) (closed : c.closedAt = some time) :
    (∃ before, tracker.state.entries id = some before ∧ before.closedAt = some time) ∨
      (id = own ∧ setter.isTerminal = true ∧ now = time) := by
  cases performed
  obtain ⟨before, found, same⟩ := entries_of_entries_modify entry
  by_cases isOwn : id = own
  · rw [if_pos isOwn] at same
    rw [same] at closed
    cases setter with
    | setClosed | setError => exact .inr ⟨isOwn, rfl, Option.some.inj closed⟩
    | setExeName | setProxy | setOutboundTarget | setProxyProtocol | setConnected =>
        exact .inl ⟨before, found, closed⟩
  · rw [if_neg isOwn] at same
    exact .inl ⟨before, found, same ▸ closed⟩

/-- A closing time was there before, or a terminal update sets it now. -/
theorem closedAt_step (move : Move server event next) {id : UInt64} {c : ConnectionInfo}
    {time : Nat} (entry : next.entry id = some c) (closed : c.closedAt = some time) :
    (∃ before, server.entry id = some before ∧ before.closedAt = some time) ∨
      ∃ index call, event = .task index (.set call) ∧ call.isTerminal = true ∧
        server.Holds index id ∧ server.now = time := by
  cases move with
  | tick | reject | count | accept => exact .inl ⟨c, entry, closed⟩
  | snapshot stepped => exact .inl ⟨c, TrackerSystem.entries_of_snapshot stepped entry, closed⟩
  | @task index event task moved call tracker inStage move performed =>
      cases move with
      | allocate | beginHandshake | endHandshake | beginRelay | relay =>
          cases performed
          exact .inl ⟨c, entry, closed⟩
      | @register own startTime =>
          have stepped : server.tracker.step (.register own (task.registration startTime)) =
            some tracker := performed
          cases TrackerSystem.step_move stepped with
          | register =>
              rcases entries_of_entries_insert entry with ⟨-, rfl⟩ | ⟨-, found⟩
              · exact absurd closed (Option.some_ne_none time).symm
              · exact .inl ⟨c, found, closed⟩
      | report stage isDue =>
          rcases closedAt_of_set performed entry closed with before | ⟨-, terminal, -⟩
          · exact .inl before
          · rw [Setter.isTerminal_of_report isDue] at terminal
            exact absurd terminal nofun
      | @lookup own exe _ holds =>
          cases exe with
          | none =>
              cases performed
              exact .inl ⟨c, entry, closed⟩
          | some name =>
              rcases closedAt_of_set performed entry closed with before | ⟨-, terminal, -⟩
              · exact .inl before
              · exact absurd terminal nofun
      | conclude stage =>
          rcases closedAt_of_set performed entry closed with before | ⟨rfl, terminal, now⟩
          · exact .inl before
          · refine .inr ⟨index, _, rfl, terminal, ⟨task, inStage, ?_⟩, now⟩
            rw [stage]
            rfl

theorem closedBy_run (run : Machine.run step (start permits) events = some server) {id : UInt64}
    {c : ConnectionInfo} {time : Nat} (entry : server.entry id = some c)
    (closed : c.closedAt = some time) : ClosedBy permits events id time := by
  have invariant := Machine.run_history (fun events server =>
    Machine.run step (start permits) events = some server ∧ ∀ id c time,
      server.entry id = some c → c.closedAt = some time → ClosedBy permits events id time)
    ⟨rfl, fun _ _ _ entry => absurd entry (Option.some_ne_none _).symm⟩ ?_ run
  · exact invariant.2 id c time entry closed
  · intro history server event next held stepped
    refine ⟨Machine.run_concat_eq_some.mpr ⟨server, held.1, stepped⟩, ?_⟩
    intro id c time entry closed
    rcases closedAt_step (step_move stepped) entry closed with
      ⟨before, found, same⟩ | ⟨index, call, rfl, terminal, holds, now⟩
    · exact (held.2 id before time found same).append event
    · exact ⟨history, index, call, [], server, rfl, terminal, held.1, holds, now⟩

/-- A new entry is connecting. -/
theorem connecting_of_new (move : Move server event next) {id : UInt64} {c : ConnectionInfo}
    (missing : server.entry id = none) (entry : next.entry id = some c) :
    c.status = .connecting := by
  have impossible : ∀ {before : ConnectionInfo}, server.entry id = some before → False :=
    fun found => Option.some_ne_none _ (found.symm.trans missing)
  cases move with
  | tick | reject | count | accept => exact (impossible entry).elim
  | snapshot stepped => exact (impossible (TrackerSystem.entries_of_snapshot stepped entry)).elim
  | @task index event task moved call tracker inStage move performed =>
      cases move with
      | allocate | beginHandshake | endHandshake | beginRelay | relay =>
          cases performed
          exact (impossible entry).elim
      | @register own startTime =>
          have stepped : server.tracker.step (.register own (task.registration startTime)) =
            some tracker := performed
          cases TrackerSystem.step_move stepped with
          | register =>
              rcases entries_of_entries_insert entry with ⟨-, rfl⟩ | ⟨-, found⟩
              · rfl
              · exact (impossible found).elim
      | report | conclude =>
          cases performed
          obtain ⟨_, found, -⟩ := entries_of_entries_modify entry
          exact (impossible found).elim
      | @lookup own exe =>
          cases exe with
          | none =>
              cases performed
              exact (impossible entry).elim
          | some name =>
              cases performed
              obtain ⟨_, found, -⟩ := entries_of_entries_modify entry
              exact (impossible found).elim

/-! ## The run laws -/

/-- An id that has left the tracker does not return to it. -/
theorem not_returned (toFirst : Machine.run step (start permits) before = some first)
    (toServer : Machine.run step first events = some server)
    (stepped : server.step event = some next)
    (few : registrationsIn (before ++ events ++ [event]) ≤ 2 ^ 64) {id : UInt64}
    (has : first.tracker.state.Has id) (departed : ¬ server.tracker.state.Has id) :
    ¬ next.tracker.state.Has id := by
  obtain ⟨trackerBefore, runBefore, countBefore⟩ := tracker_run toFirst
  obtain ⟨trackerMiddle, runMiddle, countMiddle⟩ := tracker_run toServer
  obtain ⟨trackerAfter, runAfter, countAfter⟩ := tracker_step stepped
  have fewIds : allocations (trackerBefore ++ trackerMiddle ++ trackerAfter) ≤ 2 ^ 64 := by
    rw [registrationsIn_append, registrationsIn_append] at few
    rw [allocations_append, allocations_append, countBefore, countMiddle, countAfter]
    exact few
  exact TrackerSystem.departed_stays runBefore runMiddle runAfter fewIds id has departed

theorem leads_run (toFirst : Machine.run step (start permits) before = some first)
    (toLast : Machine.run step first after = some last)
    (few : registrationsIn (before ++ after) ≤ 2 ^ 64) {id : UInt64} {c later : ConnectionInfo}
    (entry : first.entry id = some c) (laterEntry : last.entry id = some later) :
    c.status.Leads later.status := by
  have invariant := Machine.run_history (fun events server =>
    Machine.run step first events = some server ∧ (registrationsIn (before ++ events) ≤ 2 ^ 64 →
      ∀ later, server.entry id = some later → c.status.Leads later.status))
    ⟨rfl, fun _ later same => ?_⟩ ?_ toLast
  · exact invariant.2 few later laterEntry
  · rw [entry] at same
    rw [Option.some.inj same]
    exact .refl _
  · intro history server event next held stepped
    refine ⟨Machine.run_concat_eq_some.mpr ⟨server, held.1, stepped⟩, fun few later found => ?_⟩
    rw [← List.append_assoc] at few
    have fewer : registrationsIn (before ++ history) ≤ 2 ^ 64 := by
      rw [registrationsIn_append] at few
      exact Nat.le_trans (Nat.le_add_right _ _) few
    have toServer := Machine.run_append_eq_some.mpr ⟨first, toFirst, held.1⟩
    match tracked : server.entry id with
    | some middle =>
        have leads := ((inv_of_run toServer).shown_step fewer (step_move stepped) found).2
        exact (held.2 fewer middle tracked).trans (leads middle tracked)
    | none =>
        have departed : ¬ server.tracker.state.Has id := by
          intro has
          obtain ⟨c, present⟩ := has.entry
          exact absurd (present.symm.trans tracked) (Option.some_ne_none c)
        exact absurd (has_of_entries found)
          (not_returned toFirst held.1 stepped few (has_of_entries entry) departed)

end Server

variable {before after : List (ServerEvent crates)} {first last : Server} {permits : Nat}

/-- In every run of any number of connections: a task has issued one terminal
update when it has returned and none before, and a new entry is connecting. Up
to 2^64 registrations, moreover, `closed_at` is set exactly with a terminal
status; the status of a tracked id only moves forward and a terminal one stays;
and what a cleanup removes has had its terminal update, `CLOSED_RETENTION` or
longer before it is examined. -/
theorem lifecycle_kept (toFirst : Machine.run Server.step (.start permits) before = some first)
    (toLast : Machine.run Server.step first after = some last) :
    (∀ (index : Nat) (task : ConnectionTask), first.tasks[index]? = some task →
      terminalCalls index before = if task.stage.isReturned then 1 else 0) ∧
    (∀ (event : ServerEvent crates) next id c, first.step event = some next →
      first.entry id = none → next.entry id = some c → c.status = .connecting) ∧
    (registrationsIn (before ++ after) ≤ 2 ^ 64 →
      (∀ id c, first.entry id = some c → c.closedAt.isSome = c.status.isTerminal) ∧
      (∀ id c later, first.entry id = some c → last.entry id = some later →
        c.status.Leads later.status) ∧
      ∀ count delay next id c, first.step (.snapshot count delay : ServerEvent crates) = some next →
        first.entry id = some c → next.entry id = none →
        ∃ time, Server.ClosedBy permits before id time ∧
          time + closedRetention ≤ first.now + delay id) := by
  have inv := Server.inv_of_run toFirst
  refine ⟨?_, ?_, fun few => ?_⟩
  · intro index task found
    rw [Server.terminalCalls_run toFirst, Server.terminalUpdates, found]
    rfl
  · intro event next id c stepped missing entry
    exact Server.connecting_of_new (Server.step_move stepped) missing entry
  · have fewer : registrationsIn before ≤ 2 ^ 64 := by
      rw [registrationsIn_append] at few
      exact Nat.le_trans (Nat.le_add_right _ _) few
    refine ⟨?_, ?_, ?_⟩
    · intro id c entry
      obtain ⟨_, _, _, _, visible⟩ := inv.shown fewer id c entry
      exact visible.closedAt_isSome
    · intro id c later entry laterEntry
      exact Server.leads_run toFirst toLast few entry laterEntry
    · intro count delay next id c stepped entry removed
      cases Server.step_move stepped with
      | snapshot trackerStepped =>
          obtain ⟨time, closed, late⟩ :=
            TrackerSystem.closed_of_removed trackerStepped entry removed
          exact ⟨time, Server.closedBy_run toFirst entry closed, late⟩

/-- A connection is refused; six seconds later a snapshot is begun. -/
def refusedThenCounted : List (ServerEvent referenceCrates) :=
  shortLived 0 ++ [.tick 6000, .count]

def refusedServer : Server :=
  (Machine.run Server.step (.start ProxyServer.maxConnections) refusedThenCounted).get
    (by decide +kernel)

def cleanedServer : Server :=
  (refusedServer.step (.snapshot 0 fun _ => 0 : ServerEvent referenceCrates)).get
    (by decide +kernel)

/-- It has issued one terminal update, at least five seconds before. -/
theorem lifecycle_kept_refused :
    terminalCalls 0 refusedThenCounted = 1 ∧
      ∃ time, Server.ClosedBy ProxyServer.maxConnections refusedThenCounted 1 time ∧
        time + closedRetention ≤ 6000 := by
  have toRefused : Machine.run Server.step (.start ProxyServer.maxConnections) refusedThenCounted =
      some refusedServer := (Option.some_get _).symm
  have cleaned : refusedServer.step (.snapshot 0 fun _ => 0 : ServerEvent referenceCrates) =
      some cleanedServer := (Option.some_get _).symm
  obtain ⟨issued, -, laws⟩ := lifecycle_kept toRefused (Machine.run_nil refusedServer)
  obtain ⟨-, -, cleanup⟩ := laws (by decide +kernel)
  obtain ⟨c, entry⟩ := Option.isSome_iff_exists.mp
    (show (refusedServer.entry 1).isSome = true by decide +kernel)
  obtain ⟨task, found⟩ := Option.isSome_iff_exists.mp
    (show (refusedServer.tasks[0]?).isSome = true by decide +kernel)
  have returned : task.stage.isReturned = true := by
    have all : refusedServer.tasks.all (·.stage.isReturned) = true := by decide +kernel
    exact List.all_eq_true.mp all task (List.mem_of_getElem? found)
  obtain ⟨time, closed, late⟩ := cleanup 0 (fun _ => 0) cleanedServer 1 c cleaned entry
    (by decide +kernel)
  refine ⟨?_, time, closed, late⟩
  rw [issued 0 task found, if_pos returned]

/-! ## Beyond 2^64 registrations -/

/-- The first connection lives on while 2^64 others come. The last of them is
registered under its id, and then the first one ends. -/
def idReused : List (ServerEvent referenceCrates) :=
  longLived ++ burst 1 (2 ^ 64 - 1) ++ registration (2 ^ 64) "127.0.0.1:60000".toList ++
    [.task (2 ^ 64) .beginHandshake] ++ refusal 0 bindRefused (unsupportedText 2)

/-- The last one ends. -/
def lastEnds : List (ServerEvent referenceCrates) :=
  refusal (2 ^ 64) associateRefused (unsupportedText 3)

/-- The status of the id is terminal and changes again. -/
theorem reused_id_reopens : ∃ first last c later,
    Machine.run Server.step (.start ProxyServer.maxConnections) idReused = some first ∧
    Machine.run Server.step first lastEnds = some last ∧
    first.entry 1 = some c ∧ last.entry 1 = some later ∧
    c.status = .error (unsupportedText 2) ∧ later.status = .error (unsupportedText 3) := by
  obtain ⟨wrapped, toWrapped, after⟩ :=
    Server.run_longBurst (show ConnectionTracker.maxConnections ≤ 2 ^ 64 - 1 by decide) (by decide)
  have nextId : wrapped.tracker.tracker.nextId = 1 := after.nextId.trans (by decide +kernel)
  have index : wrapped.tasks.length = 2 ^ 64 := after.length
  -- the new connection is registered under the id of the first one
  let addr : Text := "127.0.0.1:60000".toList
  let registration := (Server.newTask wrapped.tasks.length addr).registration startTime
  let tracker := (wrapped.registered addr).tracker
  let handshaking := Server.handshakingTask (2 ^ 64) addr 1 wrapped.now
  have registers := Server.run_registration wrapped after.room addr
  have begins := wrapped.step_beginHandshake addr
  rw [nextId] at begins
  have inserted : tracker.state.entries 1 = some (registration.info 1) := by
    change OrderedTable.entries (TrackerState.register _ wrapped.tracker.tracker.nextId _) 1 = _
    rw [nextId]
    exact entries_insert_self (by decide) after.evicted
  -- the first connection ends
  have foundFirst : (wrapped.withLast tracker handshaking).tasks[0]? =
      some Server.longLivedTask := by
    unfold Server.withLast
    rw [List.getElem?_append_left (by rw [index]; decide)]
    exact after.task
  have firstRefused : bindRefused.result = some (.error (unsupportedText 2)) := rfl
  have firstEnds := Server.run_refusal foundFirst rfl after.now.symm firstRefused
  -- the last one ends
  let firstReturned : ConnectionTask :=
    { Server.longLivedTask with stage := .returned 1 (.error (unsupportedText 2)) }
  let between : Server := { wrapped with
    tracker := Server.refusedTracker tracker 1 (unsupportedText 2) wrapped.now
    tasks := (wrapped.withLast tracker handshaking).tasks.set 0 firstReturned }
  have foundLast : between.tasks[wrapped.tasks.length]? = some handshaking := by
    change ((wrapped.withLast tracker handshaking).tasks.set 0 firstReturned)[_]? = _
    rw [List.getElem?_set_ne (by rw [index]; decide)]
    exact Server.found_withLast wrapped tracker handshaking
  have lastRefused : associateRefused.result = some (.error (unsupportedText 3)) := rfl
  have lastReturns := Server.run_refusal foundLast (congrArg _ after.now) after.now.symm lastRefused
  rw [index] at registers begins lastReturns
  have toFirst : Machine.run Server.step (.start ProxyServer.maxConnections) idReused =
      some between := by
    refine Machine.run_append_eq_some.mpr ⟨_, Machine.run_append_eq_some.mpr ⟨_,
      Machine.run_append_eq_some.mpr ⟨wrapped, toWrapped, registers⟩, ?_⟩, firstEnds⟩
    rw [Machine.run_cons_of_step begins, Machine.run_nil]
  have firstEntry := Server.entry_refusedTracker (unsupportedText 2) wrapped.now inserted
  have lastEntry := Server.entry_refusedTracker (unsupportedText 3) wrapped.now firstEntry
  exact ⟨between, _, _, _, toFirst, lastReturns, firstEntry, lastEntry, rfl, rfl⟩

end SimpleForwarder

import SimpleForwarder.TrafficWindow.System
import SimpleForwarder.Tracker.Order

/-!
Contract: the table and the data source of the traffic window.

Owns: when the rows of the table are those of the data source, over all runs of
the tracker and of the ticks (`view_mirrors_dataSource`), and the tick that
breaks this (`resized_row_is_missing`).

A tick that finds the table being resized replaces the data source but sends
no notification, and the next tick compares with what it left there.

Does not own: the contents of the cells.
-/

namespace SimpleForwarder

open RowView OrderedTable

/-! ## The notifications of a tick -/

namespace TrafficDataSource

variable {old new : TrafficDataSource}

theorem oldIdxById_eq_none_iff (old : TrafficDataSource) (id : UInt64) :
    old.oldIdxById id = none ↔ id ∉ old.ids := by
  have folded : ∀ (rows : List (ConnectionInfo × Nat)) (indices : UInt64 → Option Nat),
      rows.foldl (fun (indices : UInt64 → Option Nat) row =>
        Function.update indices row.1.id (some row.2)) indices id = none ↔
        indices id = none ∧ id ∉ rows.map fun row => row.1.id := by
    intro rows
    induction rows with
    | nil =>
        intro indices
        simp
    | cons row rows inductionHypothesis =>
        intro indices
        rw [List.foldl_cons, inductionHypothesis, List.map_cons, List.mem_cons]
        by_cases same : id = row.1.id
        · simp [same]
        · simp only [Function.update_of_ne same, same, false_or]
  have names : old.connections.zipIdx.map (fun row => row.1.id) = old.ids := by
    rw [ids, ← List.zipIdx_map_fst 0 old.connections, List.map_map]
    simp
  have missed := folded old.connections.zipIdx fun _ => none
  rw [names] at missed
  exact missed.trans (and_iff_right rfl)

theorem delIndices_eq (old new : TrafficDataSource) :
    delIndices old new = (positionsOf (· ∉ new.ids) old.ids).reverse := by
  have positions : ((List.range old.connections.length).filter fun index =>
      old.connections[index]?.any fun c => c.id ∉ new.ids) =
        positionsOf (· ∉ new.ids) old.ids := by
    unfold positionsOf ids
    rw [List.length_map]
    apply List.filter_congr
    intro index _
    rw [List.getElem?_map, Option.any_map]
  have ascending : (positionsOf (· ∉ new.ids) old.ids).Pairwise (· ≤ ·) :=
    (positionsOf_ascending _ _).imp Nat.le_of_lt
  rw [delIndices, positions]
  refine List.Perm.eq_of_pairwise' (List.pairwise_insertionSort _ _)
    (List.pairwise_reverse.mpr ascending) ?_
  exact (List.perm_insertionSort _ _).trans (List.reverse_perm _).symm

theorem insertedRows_eq (old new : TrafficDataSource) :
    insertedRows old new = insertions (· ∉ old.ids) new.ids 0 := by
  have renamed : new.ids.zipIdx = new.connections.zipIdx.map (Prod.map ConnectionInfo.id id) :=
    List.zipIdx_map
  unfold insertedRows insertions
  rw [renamed, List.filterMap_map]
  simp only [Option.isNone_iff_eq_none, oldIdxById_eq_none_iff, Function.comp_def, Prod.map,
    decide_eq_true_eq, id_eq]

theorem changedIndices_inside (loads : TickLoads) (old new : TrafficDataSource) :
    ∀ index ∈ changedIndices loads old new, index < new.ids.length := by
  intro index member
  obtain ⟨⟨c, newIdx⟩, inRows, changed⟩ := List.mem_filterMap.mp member
  have same : newIdx = index := by
    dsimp only at changed
    split at changed
    · exact absurd changed nofun
    · split at changed
      · exact Option.some.inj changed
      · exact absurd changed nofun
  rw [← same, ids, List.length_map]
  have bound := List.snd_lt_of_mem_zipIdx inRows
  simpa using bound

/-- The notifications of a tick lead from the rows of the old data source to
those of the new one. -/
theorem notifyAll_tickNotifications (loads : TickLoads)
    (sameOrder : old.ids.filter (· ∈ new.ids) = new.ids.filter (· ∈ old.ids)) :
    notifyAll new.ids old.ids (tickNotifications loads old new) = some new.ids := by
  rw [tickNotifications, delIndices_eq, insertedRows_eq]
  exact notifyAll_diff sameOrder (changedIndices_inside loads old new)

/-- With the same rows before and after, nothing is deleted or inserted. -/
theorem rows_of_tickNotifications {loads : TickLoads} {rows next : List UInt64}
    (same : old.ids = new.ids)
    (notified : notifyAll new.ids rows (tickNotifications loads old new) = some next) :
    next = rows := by
  have noDeletion : positionsOf (· ∉ new.ids) old.ids = [] := by
    rw [positionsOf, List.filter_eq_nil_iff]
    intro index inside
    rw [← same, List.getElem?_eq_getElem (List.mem_range.mp inside), Option.any_some]
    simp
  have noInsertion : insertions (· ∉ old.ids) new.ids 0 = [] := by
    rw [insertions, List.filterMap_eq_nil_iff]
    intro row member
    have known : row.1 ∈ new.ids := List.fst_mem_of_mem_zipIdx member
    rw [← same] at known
    simp [known]
  rw [tickNotifications, delIndices_eq, insertedRows_eq, noDeletion, noInsertion] at notified
  exact rows_of_notifyAll_changes notified

end TrafficDataSource

/-! ## The ticks -/

namespace TrafficWindow

variable {sort : UnstableSort} {size : ClientSize} {loads : TickLoads}
  {snapshot : List ConnectionInfo} {window : TrafficWindow}

/-- The table shows the rows of the data source. -/
def Mirrors (window : TrafficWindow) : Prop := window.rows = some window.dataSource.ids

@[simp] theorem dataSource_remember : (window.remember size).dataSource = window.dataSource := by
  cases size with
  | none => rfl
  | some => rfl

@[simp] theorem rows_remember : (window.remember size).rows = window.rows := by
  cases size with
  | none => rfl
  | some => rfl

@[simp] theorem ids_onTick :
    (window.onTick sort size loads snapshot).dataSource.ids = snapshot.map ConnectionInfo.id := by
  unfold onTick
  dsimp only
  split
  · rfl
  · rfl

/-- A tick that finds the table being resized leaves the rows alone. -/
theorem rows_onTick_resizing (resizing : window.isResizing size = true) :
    (window.onTick sort size loads snapshot).rows = window.rows := by
  unfold onTick
  dsimp only
  rw [if_pos resizing]
  exact rows_remember

theorem rows_onTick_normal (normal : window.isResizing size = false) :
    (window.onTick sort size loads snapshot).rows = window.notifiedRows loads
      (window.dataSource.refresh sort loads.toHighlightLoads snapshot) := by
  unfold onTick notifiedRows
  dsimp only
  rw [normal, if_neg Bool.false_ne_true, dataSource_remember, rows_remember]

theorem mirrors_opened (loads : HighlightLoads) : (opened sort loads snapshot).Mirrors := rfl

/-- A tick keeps the table right if, while the table is being resized, the
snapshot brings no other rows. -/
theorem Mirrors.onTick (mirrors : window.Mirrors)
    (harmless : window.isResizing size = true →
      snapshot.map ConnectionInfo.id = window.dataSource.ids)
    (sameOrder : window.dataSource.ids.filter (· ∈ snapshot.map ConnectionInfo.id) =
      (snapshot.map ConnectionInfo.id).filter (· ∈ window.dataSource.ids)) :
    (window.onTick sort size loads snapshot).Mirrors := by
  unfold Mirrors
  rw [ids_onTick]
  by_cases resizing : window.isResizing size = true
  · rw [rows_onTick_resizing resizing, harmless resizing]
    exact mirrors
  · rw [rows_onTick_normal (Bool.eq_false_iff.mpr resizing), notifiedRows, mirrors,
      Option.bind_some]
    exact TrafficDataSource.notifyAll_tickNotifications loads sameOrder

/-- After a tick that finds the table being resized, a normal tick with the same
rows is right exactly if the first one brought no other rows. -/
theorem mirrors_after_resizing_iff {later : List ConnectionInfo} {laterSize : ClientSize}
    {laterLoads : TickLoads} (mirrors : window.Mirrors)
    (resizing : window.isResizing size = true)
    (normal : (window.onTick sort size loads snapshot).isResizing laterSize = false)
    (unchanged : later.map ConnectionInfo.id = snapshot.map ConnectionInfo.id) :
    ((window.onTick sort size loads snapshot).onTick sort laterSize laterLoads later).Mirrors ↔
      snapshot.map ConnectionInfo.id = window.dataSource.ids := by
  have left : (window.onTick sort size loads snapshot).rows = some window.dataSource.ids :=
    (rows_onTick_resizing resizing).trans mirrors
  constructor
  · intro right
    unfold Mirrors at right
    rw [rows_onTick_normal normal, notifiedRows, left, Option.bind_some, ids_onTick] at right
    have kept := TrafficDataSource.rows_of_tickNotifications
      (by rw [ids_onTick, TrafficDataSource.ids_refresh, unchanged]) right
    rw [← kept, unchanged]
  · intro harmless
    have stillRight : (window.onTick sort size loads snapshot).Mirrors := by
      unfold Mirrors
      rw [left, ids_onTick, harmless]
    apply stillRight.onTick
    · intro _
      rw [ids_onTick, unchanged]
    · rw [ids_onTick, unchanged]

end TrafficWindow

/-! ## What a snapshot leaves -/

namespace TrackerSystem

variable {tracker next : TrackerSystem} {event : TrackerEvent} {events : List TrackerEvent}
  {ids : List UInt64} {count : UInt64} {clock : UInt64 → Nat}

/-- The ids were listed at some time of the run, and the tracker has what is
left of them, followed by later insertions. -/
def Sampled (events : List TrackerEvent) (tracker : TrackerSystem) (ids : List UInt64) : Prop :=
  ∃ before after, events = before ++ after ∧ ids.Sublist (insertedIds before) ∧
    tracker.state.order.Sublist (ids ++ insertedIds after)

theorem Sampled.step (sampled : Sampled events tracker ids)
    (stepped : tracker.step event = some next) : Sampled (events ++ [event]) next ids := by
  obtain ⟨before, after, rfl, listed, left⟩ := sampled
  refine ⟨before, after ++ [event], List.append_assoc _ _ _, listed, ?_⟩
  rw [insertedIds_append, ← List.append_assoc]
  exact (step_section stepped).order.trans (left.append_right _)

theorem Reached.sampled_snapshot (reached : Reached events tracker)
    (few : allocations events ≤ 2 ^ 64)
    (stepped : tracker.step (.snapshot count clock) = some next) :
    Sampled (events ++ [.snapshot count clock]) next
      ((tracker.state.snapshot count clock).2.map ConnectionInfo.id) := by
  have left : next.state = (tracker.state.snapshot count clock).1 := by
    cases step_move stepped with
    | snapshot => rfl
  rw [reached.snapshot_ids few, ← left]
  refine ⟨_, [], (List.append_nil _).symm, (reached.step stepped).listed, ?_⟩
  exact List.sublist_append_left _ _

/-- A later snapshot has the remaining ids in the order of the earlier one. -/
theorem Sampled.sameOrder (sampled : Sampled events tracker ids)
    (reached : Reached events tracker) (few : allocations events ≤ 2 ^ 64) :
    ids.filter (· ∈ (tracker.state.snapshot count clock).2.map ConnectionInfo.id) =
      ((tracker.state.snapshot count clock).2.map ConnectionInfo.id).filter (· ∈ ids) := by
  have unique := reached.nodup_inserted few
  obtain ⟨before, after, rfl, listed, left⟩ := sampled
  rw [insertedIds_append] at unique
  rw [reached.snapshot_ids few]
  have follows := follows_of_sublist
    ((tracker.state.snapshot_order_sublist count clock).trans left)
  exact follows.sameOrder (unique.sublist (listed.append_right _))

end TrackerSystem

/-! ## The rows over a run -/

namespace WindowSystem

variable {sort : UnstableSort} {system next : WindowSystem} {event : WindowEvent}
  {events : List WindowEvent}

/-- A tick that finds the table being resized finds no rows added or removed
since the data source was replaced. -/
def ResizesUnchanged (system : WindowSystem) : WindowEvent → Prop
  | .tick size count clock _ => ∀ window ∈ system.window, window.isResizing size = true →
      (system.listing count clock).map ConnectionInfo.id = window.dataSource.ids
  | _ => True

instance (system : WindowSystem) (event : WindowEvent) :
    Decidable (system.ResizesUnchanged event) :=
  match event with
  | .tick size count clock _ =>
      match isWindow : system.window with
      | none => .isTrue (by simp [ResizesUnchanged, isWindow])
      | some window =>
          decidable_of_iff (window.isResizing size = true →
            (system.listing count clock).map ConnectionInfo.id = window.dataSource.ids)
            (by simp [ResizesUnchanged, isWindow])
  | .tracker _ | .openWindow .. | .hiddenTick => .isTrue trivial

/-- The window is visible and the table has the size of the tick before. -/
def IsNormalTick (system : WindowSystem) : WindowEvent → Prop
  | .tick size _ _ _ => ∃ window ∈ system.window, window.isResizing size = false
  | _ => False

/-- The invariant of a run. What depends on unique ids holds up to 2^64
registrations. -/
structure Kept (events : List WindowEvent) (system : WindowSystem) : Prop where
  reached : system.tracker.Reached (trackerEvents events)
  mirrored : allocations (trackerEvents events) ≤ 2 ^ 64 → ∀ window ∈ system.window,
    window.Mirrors ∧ system.tracker.Sampled (trackerEvents events) window.dataSource.ids

theorem Kept.start : Kept [] start where
  reached := .start
  mirrored := nofun

theorem Kept.step (kept : Kept events system) (unchanged : system.ResizesUnchanged event)
    (stepped : system.step sort event = some next) : Kept (events ++ [event]) next := by
  have fewer : allocations (trackerEvents (events ++ [event])) ≤ 2 ^ 64 →
      allocations (trackerEvents events) ≤ 2 ^ 64 := by
    intro few
    rw [trackerEvents_append, allocations_append] at few
    omega
  cases move_of_step stepped with
  | tracker trackerStepped =>
      constructor
      · rw [trackerEvents_append]
        exact kept.reached.step trackerStepped
      · intro few window isWindow
        obtain ⟨mirrors, sampled⟩ := kept.mirrored (fewer few) window isWindow
        rw [trackerEvents_append]
        exact ⟨mirrors, sampled.step trackerStepped⟩
  | openWindow loads _ trackerStepped =>
      constructor
      · rw [trackerEvents_append]
        exact kept.reached.step trackerStepped
      · intro few window isWindow
        cases isWindow
        rw [trackerEvents_append]
        exact ⟨TrafficWindow.mirrors_opened loads,
          kept.reached.sampled_snapshot (fewer few) trackerStepped⟩
  | hiddenTick =>
      constructor
      · rw [trackerEvents_hiddenTick]
        exact kept.reached
      · rw [trackerEvents_hiddenTick]
        exact kept.mirrored
  | @tick size count clock loads window tracker isWindow trackerStepped =>
      constructor
      · rw [trackerEvents_append]
        exact kept.reached.step trackerStepped
      · intro few later isLater
        cases isLater
        obtain ⟨mirrors, sampled⟩ := kept.mirrored (fewer few) window isWindow
        have harmless := unchanged window isWindow
        rw [trackerEvents_append, TrafficWindow.ids_onTick]
        exact ⟨mirrors.onTick harmless (sampled.sameOrder kept.reached (fewer few)),
          kept.reached.sampled_snapshot (fewer few) trackerStepped⟩

end WindowSystem

/-- In every run with at most 2^64 registrations in which the table is only
resized while no rows come or go, the table always shows the rows of the data
source, and every index passed to a notification was valid. The condition is
needed: if rows have come or gone, a normal tick that follows does not show
them. -/
theorem view_mirrors_dataSource (sort : UnstableSort) :
    (∀ (events : List WindowEvent) (last : WindowSystem),
      Machine.run (WindowSystem.step sort) .start events = some last →
      allocations (trackerEvents events) ≤ 2 ^ 64 →
      Machine.Along (WindowSystem.step sort) WindowSystem.ResizesUnchanged .start events →
      ∀ window ∈ last.window, window.rows = some window.dataSource.ids) ∧
    ∀ (window : TrafficWindow) (size laterSize : ClientSize) (loads laterLoads : TickLoads)
      (snapshot later : List ConnectionInfo),
      window.rows = some window.dataSource.ids →
      window.isResizing size = true →
      (window.onTick sort size loads snapshot).isResizing laterSize = false →
      later.map ConnectionInfo.id = snapshot.map ConnectionInfo.id →
      let shown := (window.onTick sort size loads snapshot).onTick sort laterSize laterLoads later
      shown.rows = some shown.dataSource.ids ↔
        snapshot.map ConnectionInfo.id = window.dataSource.ids := by
  constructor
  · intro events last reached few unchanged window isWindow
    have kept : WindowSystem.Kept events last :=
      Machine.run_history_along WindowSystem.Kept .start
        (fun _ _ _ _ kept unchanged stepped => kept.step unchanged stepped) unchanged reached
    exact (kept.mirrored few window isWindow).1
  · intro window size laterSize loads laterLoads snapshot later mirrors resizing normal same
    exact TrafficWindow.mirrors_after_resizing_iff mirrors resizing normal same

/-! ## A row that came while the table was resized -/

/-- Loads while no byte has been forwarded. -/
def idleLoads : TickLoads where
  filtered := fun _ => 0
  ranked := fun _ => 0
  compared := fun _ => 0
  otherCompared := fun _ => 0

/-- The window opens, and a connection is registered after the first tick. -/
def untilRegistered : List WindowEvent :=
  [.tracker .count, .openWindow 0 (fun _ => 0) idleLoads.toHighlightLoads,
    .tracker .count, .tick (some (1100, 500)) 1 (fun _ => 0) idleLoads,
    .tracker .allocate, .tracker (.register 1 localRegistration)]

/-- A normal tick, a tick in which the table is being resized, and a normal one. -/
def thenResized : List WindowEvent :=
  [.tracker .count, .tick (some (1100, 500)) 2 (fun _ => 0) idleLoads,
    .tracker .count, .tick (some (1000, 500)) 3 (fun _ => 0) idleLoads,
    .tracker .count, .tick (some (1000, 500)) 4 (fun _ => 0) idleLoads]

/-- The row is inserted by the tick before the table is resized. -/
theorem view_mirrors_dataSource_registered :
    ∃ last window, Machine.run (WindowSystem.step .stable) .start
        (untilRegistered ++ thenResized) = some last ∧
      last.window = some window ∧ window.rows = some [1] := by
  refine ⟨_, _, rfl, rfl, ?_⟩
  exact (view_mirrors_dataSource .stable).1 (untilRegistered ++ thenResized) _ rfl (by decide)
    (by decide +kernel) _ rfl

/-- The table is resized in the tick after the registration. The tick that
follows finds the row in the data source and does not insert it. -/
theorem resized_row_is_missing :
    ¬ ∀ (sort : UnstableSort) (events : List WindowEvent) (tick : WindowEvent)
      (system last : WindowSystem),
      Machine.run (WindowSystem.step sort) .start events = some system →
      system.IsNormalTick tick → system.step sort tick = some last →
      ∀ window ∈ last.window, window.rows = some window.dataSource.ids := by
  intro claimed
  have shown := claimed .stable
    (untilRegistered ++ [.tracker .count, .tick (some (1000, 500)) 2 (fun _ => 0) idleLoads,
      .tracker .count])
    (.tick (some (1000, 500)) 3 (fun _ => 0) idleLoads) _ _ rfl ⟨_, rfl, rfl⟩ rfl _ rfl
  exact absurd shown (by decide)

end SimpleForwarder

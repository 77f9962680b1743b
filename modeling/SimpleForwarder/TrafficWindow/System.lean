import Mathlib.Data.Finset.Dedup
import Mathlib.Data.List.Sort
import SimpleForwarder.Lib.RowView
import SimpleForwarder.Tracker.System

/-!
Contract: the traffic window (`traffic_window.rs`).

Owns: the data source with its highlights, the notifications of a tick,
`on_tick` with its three paths, and the machine of ticks and tracker steps.

The table is the list of its row ids, as notifications change it; it is `none`
once an index was passed that was not valid. Row numbers stay below 5000, so
the conversion to `i32` keeps them. Counters change while a tick runs, so each
place that loads them is given what it reads.

Does not own: painting, and the window itself.
-/

namespace SimpleForwarder

open RowView

def topN : Nat := 5

def highlightMinBytes : UInt64 := 10 * 1024 * 1024

/-- What the loads in `recompute_highlights` read: those of the filters, and
those of the maps that follow. -/
structure HighlightLoads where
  filtered : Counter → UInt64
  ranked : Counter → UInt64

/-- What all loads of a tick read. Two `Arc`s of one allocation are equal
without a load, which is a comparison whose loads agree. -/
structure TickLoads extends HighlightLoads where
  compared : Counter → UInt64
  otherCompared : Counter → UInt64

/-- What `sort_unstable_by_key(|b| Reverse(b.1))` may do. -/
structure UnstableSort where
  sort : List (UInt64 × UInt64) → List (UInt64 × UInt64)
  perm : ∀ entries, (sort entries).Perm entries
  sorted : ∀ entries, (sort entries).Pairwise fun entry other => other.2 ≤ entry.2

/-- A sort that keeps the order of entries with equal keys. -/
def UnstableSort.stable : UnstableSort :=
  let before := fun entry other : UInt64 × UInt64 => other.2 ≤ entry.2
  have : Std.Total before := ⟨fun entry other => UInt64.le_total other.2 entry.2⟩
  have : IsTrans (UInt64 × UInt64) before := ⟨fun _ _ _ first second => UInt64.le_trans second first⟩
  { sort := List.insertionSort before
    perm := List.perm_insertionSort before
    sorted := List.pairwise_insertionSort before }

/-! ## The data source -/

structure TrafficDataSource where
  connections : List ConnectionInfo
  topSent : Finset UInt64
  topRecv : Finset UInt64

namespace TrafficDataSource

def ids (dataSource : TrafficDataSource) : List UInt64 :=
  dataSource.connections.map ConnectionInfo.id

/-- One half of `recompute_highlights`: the ids that have the most bytes by one
of the counters. -/
def topBy (sort : UnstableSort) (loads : HighlightLoads) (counter : ConnectionInfo → Counter)
    (connections : List ConnectionInfo) : Finset UInt64 :=
  let entries := (connections.filter fun c =>
    highlightMinBytes < loads.filtered (counter c)).map fun c => (c.id, loads.ranked (counter c))
  (((sort.sort entries).take topN).map Prod.fst).toFinset

def recomputeHighlights (sort : UnstableSort) (loads : HighlightLoads)
    (dataSource : TrafficDataSource) : TrafficDataSource :=
  { dataSource with
    topSent := topBy sort loads ConnectionInfo.bytesSent dataSource.connections
    topRecv := topBy sort loads ConnectionInfo.bytesReceived dataSource.connections }

/-- A snapshot replaces the rows. -/
def refresh (sort : UnstableSort) (loads : HighlightLoads) (snapshot : List ConnectionInfo)
    (dataSource : TrafficDataSource) : TrafficDataSource :=
  { dataSource with connections := snapshot }.recomputeHighlights sort loads

@[simp] theorem ids_refresh (sort : UnstableSort) (loads : HighlightLoads)
    (snapshot : List ConnectionInfo) (dataSource : TrafficDataSource) :
    (dataSource.refresh sort loads snapshot).ids = snapshot.map ConnectionInfo.id := rfl

/-! ## The notifications of a tick -/

/-- `old_idx_by_id`: a later row of the same id replaces an earlier one. -/
def oldIdxById (old : TrafficDataSource) : UInt64 → Option Nat :=
  old.connections.zipIdx.foldl
    (fun indices (c, index) => Function.update indices c.id (some index)) fun _ => none

/-- `del_indices`, sorted from the highest to the lowest. -/
def delIndices (old new : TrafficDataSource) : List Nat :=
  ((List.range old.connections.length).filter fun index =>
    old.connections[index]?.any fun c => c.id ∉ new.ids).insertionSort (· ≥ ·)

def insertedRows (old new : TrafficDataSource) : List Notification :=
  new.connections.zipIdx.filterMap fun (c, newIdx) =>
    if (old.oldIdxById c.id).isNone then some (.rowInserted newIdx) else none

/-- Row `c` of the new snapshot, which was row `oldIdx`, is to be repainted. -/
def isChanged (loads : TickLoads) (old new : TrafficDataSource) (oldIdx : Nat)
    (c : ConnectionInfo) : Bool :=
  let dataChanged := old.connections[oldIdx]?.any fun oldConn =>
    !oldConn.eq loads.compared loads.otherCompared c
  let rankChanged := decide (c.id ∈ old.topSent) != decide (c.id ∈ new.topSent) ||
    decide (c.id ∈ old.topRecv) != decide (c.id ∈ new.topRecv)
  dataChanged || rankChanged

/-- The rows to be repainted. -/
def changedIndices (loads : TickLoads) (old new : TrafficDataSource) : List Nat :=
  new.connections.zipIdx.filterMap fun (c, newIdx) =>
    match old.oldIdxById c.id with
    | none => none
    | some oldIdx => if isChanged loads old new oldIdx c then some newIdx else none

/-- Deletions first, then insertions, then changes. -/
def tickNotifications (loads : TickLoads) (old new : TrafficDataSource) : List Notification :=
  (delIndices old new).map .rowDeleted ++
    (insertedRows old new ++ (changedIndices loads old new).map .rowChanged)

end TrafficDataSource

/-! ## The window -/

/-- The size of the table that a tick finds: `none` without a window, without
an answer, and on systems other than Windows. -/
abbrev ClientSize := Option (Int × Int)

structure TrafficWindow where
  dataSource : TrafficDataSource
  prevWidth : Int
  prevHeight : Int
  rows : Option (List UInt64)

namespace TrafficWindow

/-- `run_traffic_window`, up to the event loop: the table starts with the rows
of the data source. -/
def opened (sort : UnstableSort) (loads : HighlightLoads) (initialSnapshot : List ConnectionInfo) :
    TrafficWindow where
  dataSource := TrafficDataSource.recomputeHighlights sort loads ⟨initialSnapshot, ∅, ∅⟩
  prevWidth := 0
  prevHeight := 0
  rows := some (initialSnapshot.map ConnectionInfo.id)

def isResizing (window : TrafficWindow) (size : ClientSize) : Bool :=
  size.any fun (width, height) =>
    let isFirst := window.prevWidth == 0
    !isFirst && (width != window.prevWidth || height != window.prevHeight)

/-- The size is kept for the next tick. -/
def remember (window : TrafficWindow) : ClientSize → TrafficWindow
  | none => window
  | some (width, height) => { window with prevWidth := width, prevHeight := height }

/-- The rows when the data source is replaced and the table told so. -/
def notifiedRows (loads : TickLoads) (window : TrafficWindow) (dataSource : TrafficDataSource) :
    Option (List UInt64) :=
  window.rows.bind fun rows =>
    notifyAll dataSource.ids rows (window.dataSource.tickNotifications loads dataSource)

/-- The callback of `on_tick`, for a visible window. While the table is being
resized, the callback returns before any notification. -/
def onTick (sort : UnstableSort) (size : ClientSize) (loads : TickLoads)
    (snapshot : List ConnectionInfo) (window : TrafficWindow) : TrafficWindow :=
  let resizing := window.isResizing size
  let window := window.remember size
  let dataSource := window.dataSource.refresh sort loads.toHighlightLoads snapshot
  if resizing then { window with dataSource := dataSource }
  else { window with dataSource := dataSource, rows := window.notifiedRows loads dataSource }

end TrafficWindow

/-! ## The machine -/

structure WindowSystem where
  tracker : TrackerSystem
  window : Option TrafficWindow

/-- `hiddenTick` is a tick that reads `want_visible` as false. -/
inductive WindowEvent where
  | tracker (event : TrackerEvent)
  | openWindow (count : UInt64) (clock : UInt64 → Nat) (loads : HighlightLoads)
  | hiddenTick
  | tick (size : ClientSize) (count : UInt64) (clock : UInt64 → Nat) (loads : TickLoads)

namespace WindowSystem

def start : WindowSystem where
  tracker := .start
  window := none

/-- What the locked section of `snapshot` would list. -/
def listing (system : WindowSystem) (count : UInt64) (clock : UInt64 → Nat) :
    List ConnectionInfo :=
  (system.tracker.state.snapshot count clock).2

def step (sort : UnstableSort) (system : WindowSystem) : WindowEvent → Option WindowSystem
  | .tracker event => (system.tracker.step event).map fun tracker => { system with tracker }
  | .openWindow count clock loads =>
      match system.window with
      | some _ => none
      | none =>
          (system.tracker.step (.snapshot count clock)).map fun tracker =>
            ⟨tracker, some (.opened sort loads (system.listing count clock))⟩
  | .hiddenTick => if system.window.isSome then some system else none
  | .tick size count clock loads =>
      match system.window with
      | none => none
      | some window =>
          (system.tracker.step (.snapshot count clock)).map fun tracker =>
            ⟨tracker, some (window.onTick sort size loads (system.listing count clock))⟩

/-- What a step can do. -/
inductive Move (sort : UnstableSort) (system : WindowSystem) : WindowEvent → WindowSystem → Prop
  where
  | tracker {event : TrackerEvent} {tracker : TrackerSystem}
      (stepped : system.tracker.step event = some tracker) :
      Move sort system (.tracker event) { system with tracker }
  | openWindow {count : UInt64} {clock : UInt64 → Nat} (loads : HighlightLoads)
      {tracker : TrackerSystem} (isWindow : system.window = none)
      (stepped : system.tracker.step (.snapshot count clock) = some tracker) :
      Move sort system (.openWindow count clock loads)
        ⟨tracker, some (.opened sort loads (system.listing count clock))⟩
  | hiddenTick : Move sort system .hiddenTick system
  | tick {size : ClientSize} {count : UInt64} {clock : UInt64 → Nat} (loads : TickLoads)
      {window : TrafficWindow} {tracker : TrackerSystem} (isWindow : system.window = some window)
      (stepped : system.tracker.step (.snapshot count clock) = some tracker) :
      Move sort system (.tick size count clock loads)
        ⟨tracker, some (window.onTick sort size loads (system.listing count clock))⟩

theorem move_of_step {sort : UnstableSort} {system next : WindowSystem} {event : WindowEvent}
    (stepped : system.step sort event = some next) : Move sort system event next := by
  cases event with
  | tracker trackerEvent =>
      obtain ⟨tracker, trackerStepped, rfl⟩ := Option.map_eq_some_iff.mp stepped
      exact .tracker trackerStepped
  | openWindow count clock loads =>
      dsimp only [step] at stepped
      split at stepped
      · exact absurd stepped nofun
      · next isWindow =>
          obtain ⟨tracker, trackerStepped, rfl⟩ := Option.map_eq_some_iff.mp stepped
          exact .openWindow loads isWindow trackerStepped
  | hiddenTick =>
      dsimp only [step] at stepped
      split at stepped
      · cases stepped
        exact .hiddenTick
      · exact absurd stepped nofun
  | tick size count clock loads =>
      dsimp only [step] at stepped
      split at stepped
      · exact absurd stepped nofun
      · next window isWindow =>
          obtain ⟨tracker, trackerStepped, rfl⟩ := Option.map_eq_some_iff.mp stepped
          exact .tick loads isWindow trackerStepped

end WindowSystem

namespace WindowEvent

def trackerEvent? : WindowEvent → Option TrackerEvent
  | .tracker event => some event
  | .openWindow count clock _ => some (.snapshot count clock)
  | .hiddenTick => none
  | .tick _ count clock _ => some (.snapshot count clock)

end WindowEvent

/-- The steps of the tracker in a run. -/
def trackerEvents (events : List WindowEvent) : List TrackerEvent :=
  events.filterMap WindowEvent.trackerEvent?

@[simp] theorem trackerEvents_append (before after : List WindowEvent) :
    trackerEvents (before ++ after) = trackerEvents before ++ trackerEvents after :=
  List.filterMap_append

/-- A hidden tick is no step of the tracker. -/
theorem trackerEvents_hiddenTick (events : List WindowEvent) :
    trackerEvents (events ++ [.hiddenTick]) = trackerEvents events :=
  (trackerEvents_append _ _).trans (List.append_nil _)

end SimpleForwarder

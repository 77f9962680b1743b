import SimpleForwarder.Tracker.Counters
import SimpleForwarder.TrafficWindow.RowDiff

/-!
Contract: which rows a tick repaints.

Owns: what a cell shows, and when every row whose cells changed between two
ticks is repainted by a notification of the second
(`changed_rows_repainted_iff`, `counted_row_is_not_repainted`).

The old row and the new one of a connection share their counters, so the
comparison of a tick reads each counter twice at the same time: it never sees
that one has been added to. Counters change between ticks only.

Does not own: the positions that are passed to the notifications.
-/

namespace SimpleForwarder

open RowView RustText

/-! ## The cells -/

/-- `format_bytes`. `quotient` prints the quotient of two numbers with two
decimals. -/
def TrafficStats.formatBytes (quotient : UInt64 → UInt64 → Text) (bytes : UInt64) : Text :=
  let kb : UInt64 := 1024
  let mb := kb * 1024
  let gb := mb * 1024
  let tb := gb * 1024
  if tb ≤ bytes then quotient bytes tb ++ " TB".toList
  else if gb ≤ bytes then quotient bytes gb ++ " GB".toList
  else if mb ≤ bytes then quotient bytes mb ++ " MB".toList
  else if kb ≤ bytes then quotient bytes kb ++ " KB".toList
  else decimal bytes.toNat ++ " B".toList

def ConnStatus.toText : ConnStatus → Text
  | .connecting => "connecting".toList
  | .connected => "connected".toList
  | .closed => "closed".toList
  | .error message => "error: ".toList ++ message

/-- The components of a color are in hundredths. -/
inductive TableValue where
  | string (value : Text)
  | color (r g b a : Nat)
deriving DecidableEq

def highlight : TableValue := .color 10 55 10 100

def defaultColor : TableValue := .color 0 0 0 100

namespace TrafficDataSource

/-- `cell`, with what its loads of the counters read. -/
def cell (quotient : UInt64 → UInt64 → Text) (loads : Counter → UInt64)
    (dataSource : TrafficDataSource) (column row : Nat) : TableValue :=
  match dataSource.connections[row]? with
  | none =>
      match column with
      | 9 | 10 => defaultColor
      | _ => .string []
  | some conn =>
      match column with
      | 0 => .string conn.sourceIp
      | 1 => .string conn.outboundTarget
      | 2 => .string conn.exeName
      | 3 => .string conn.proxyProtocol
      | 4 => .string conn.proxy
      | 5 => .string conn.startTime
      | 6 => .string conn.status.toText
      | 7 => .string (TrafficStats.formatBytes quotient (loads conn.bytesSent))
      | 8 => .string (TrafficStats.formatBytes quotient (loads conn.bytesReceived))
      | 9 => if conn.id ∈ dataSource.topSent then highlight else defaultColor
      | 10 => if conn.id ∈ dataSource.topRecv then highlight else defaultColor
      | _ => .string []

end TrafficDataSource

/-- All loads of a tick read what the counters hold. -/
def TickLoads.ofMemory (memory : Counter → UInt64) : TickLoads where
  filtered := memory
  ranked := memory
  compared := memory
  otherCompared := memory

/-- The notifications that an event issues. -/
def WindowSystem.issued (sort : UnstableSort) (system : WindowSystem) :
    WindowEvent → List Notification
  | .tick size count clock loads =>
      match system.window with
      | none => []
      | some window =>
          if window.isResizing size then []
          else window.dataSource.tickNotifications loads
            (window.dataSource.refresh sort loads.toHighlightLoads (system.listing count clock))
  | _ => []

/-- A connection in both data sources whose row shows something else is
repainted at its new position. -/
def RepaintsChangedRows (quotient : UInt64 → UInt64 → Text) (oldMemory newMemory : Counter → UInt64)
    (old new : TrafficDataSource) (notifications : List Notification) : Prop :=
  ∀ id oldRow newRow column, old.ids[oldRow]? = some id → new.ids[newRow]? = some id →
    old.cell quotient oldMemory column oldRow ≠ new.cell quotient newMemory column newRow →
    .rowChanged newRow ∈ notifications

/-! ## What the comparison sees -/

/-- Nothing that the comparison reads differs, apart from the counters. -/
structure ConnectionInfo.SameButCounters (c other : ConnectionInfo) : Prop where
  id : c.id = other.id
  sourceIp : c.sourceIp = other.sourceIp
  outboundTarget : c.outboundTarget = other.outboundTarget
  proxyProtocol : c.proxyProtocol = other.proxyProtocol
  proxy : c.proxy = other.proxy
  startTime : c.startTime = other.startTime
  status : c.status = other.status
  exeName : c.exeName = other.exeName

/-- The counters are loaded twice at the same time, and so they never differ. -/
theorem ConnectionInfo.eq_iff_of_shared {memory : Counter → UInt64} {c other : ConnectionInfo}
    (sent : c.bytesSent = other.bytesSent) (received : c.bytesReceived = other.bytesReceived) :
    c.eq memory memory other = true ↔ c.SameButCounters other := by
  unfold ConnectionInfo.eq
  simp only [Bool.and_eq_true, beq_iff_eq, sent, received]
  constructor
  · rintro ⟨⟨⟨⟨⟨⟨⟨⟨⟨id, sourceIp⟩, target⟩, protocol⟩, proxy⟩, startTime⟩, status⟩, -⟩, -⟩, exeName⟩
    exact ⟨id, sourceIp, target, protocol, proxy, startTime, status, exeName⟩
  · intro same
    exact ⟨⟨⟨⟨⟨⟨⟨⟨⟨same.id, same.sourceIp⟩, same.outboundTarget⟩, same.proxyProtocol⟩, same.proxy⟩,
      same.startTime⟩, same.status⟩, trivial⟩, trivial⟩, same.exeName⟩

namespace TrafficDataSource

variable {old new : TrafficDataSource} {memory oldMemory newMemory : Counter → UInt64}
  {quotient : UInt64 → UInt64 → Text} {c oldConn : ConnectionInfo} {oldRow newRow : Nat}

/-- The connection is highlighted in both data sources or in neither, in each
of the two columns. -/
structure SameHighlights (old new : TrafficDataSource) (id : UInt64) : Prop where
  sent : id ∈ old.topSent ↔ id ∈ new.topSent
  recv : id ∈ old.topRecv ↔ id ∈ new.topRecv

/-- The texts of the byte columns are the same. -/
structure SameBytes (quotient : UInt64 → UInt64 → Text) (oldMemory newMemory : Counter → UInt64)
    (c : ConnectionInfo) : Prop where
  sent : TrafficStats.formatBytes quotient (oldMemory c.bytesSent) =
    TrafficStats.formatBytes quotient (newMemory c.bytesSent)
  received : TrafficStats.formatBytes quotient (oldMemory c.bytesReceived) =
    TrafficStats.formatBytes quotient (newMemory c.bytesReceived)

/-- The two rows of a connection share its counters. -/
def SharesCounters (old new : TrafficDataSource) : Prop :=
  ∀ oldConn ∈ old.connections, ∀ c ∈ new.connections, oldConn.id = c.id →
    oldConn.bytesSent = c.bytesSent ∧ oldConn.bytesReceived = c.bytesReceived

theorem isChanged_iff (atOldRow : old.connections[oldRow]? = some oldConn)
    (sent : oldConn.bytesSent = c.bytesSent) (received : oldConn.bytesReceived = c.bytesReceived) :
    isChanged (.ofMemory memory) old new oldRow c = true ↔
      ¬ oldConn.SameButCounters c ∨ ¬ SameHighlights old new c.id := by
  have compared : oldConn.eq memory memory c = true ↔ oldConn.SameButCounters c :=
    ConnectionInfo.eq_iff_of_shared sent received
  have ranked : (decide (c.id ∈ old.topSent) != decide (c.id ∈ new.topSent) ||
      decide (c.id ∈ old.topRecv) != decide (c.id ∈ new.topRecv)) = true ↔
        ¬ SameHighlights old new c.id := by
    rw [Bool.or_eq_true, bne_iff_ne, bne_iff_ne, ne_eq, ne_eq, decide_eq_decide, decide_eq_decide,
      ← not_and_or]
    exact not_congr ⟨fun same => ⟨same.1, same.2⟩, fun same => ⟨same.sent, same.recv⟩⟩
  unfold isChanged
  rw [atOldRow, Option.any_some, Bool.or_eq_true, ranked]
  apply or_congr_left
  rw [Bool.not_eq_true', ← Bool.not_eq_true]
  exact not_congr compared

/-- The row of an id is found, if no other row has it. -/
theorem oldIdxById_of_getElem? (distinct : old.ids.Nodup) {id : UInt64}
    (atOldRow : old.ids[oldRow]? = some id) : old.oldIdxById id = some oldRow := by
  have found : old.oldIdxById id ≠ none := by
    rw [Ne, oldIdxById_eq_none_iff, not_not]
    exact List.mem_of_getElem? atOldRow
  obtain ⟨row, isRow⟩ := Option.ne_none_iff_exists'.mp found
  obtain ⟨conn, atRow, isId⟩ := id_of_oldIdxById isRow
  have again : old.ids[row]? = some id := by
    rw [ids, List.getElem?_map, atRow, Option.map_some, isId]
  have inside := (List.getElem?_eq_some_iff.mp again).1
  rw [isRow, (List.getElem?_inj inside distinct).mp (again.trans atOldRow.symm)]

theorem rowChanged_mem_iff {loads : TickLoads} :
    .rowChanged newRow ∈ tickNotifications loads old new ↔
      newRow ∈ changedIndices loads old new := by
  obtain ⟨deleted, inserted, groups, -⟩ := tickNotifications_groups loads old new
  rw [groups]
  simp

/-- A connection in both data sources is repainted at its new position exactly
if its old row is found to be changed. -/
theorem mem_changedIndices_iff {loads : TickLoads} (distinct : old.ids.Nodup)
    (atOldRow : old.ids[oldRow]? = some c.id) (atNewRow : new.connections[newRow]? = some c) :
    newRow ∈ changedIndices loads old new ↔ isChanged loads old new oldRow c = true := by
  have found := oldIdxById_of_getElem? distinct atOldRow
  unfold changedIndices
  rw [List.mem_filterMap]
  constructor
  · intro ⟨row, inRows, changed⟩
    dsimp only at changed
    split at changed
    · cases changed
    · next index isIndex =>
        split at changed
        · next isChanged =>
            cases changed
            have sameRow := List.mem_zipIdx_iff_getElem?.mp inRows
            rw [atNewRow] at sameRow
            cases sameRow
            rw [found] at isIndex
            cases isIndex
            exact isChanged
        · cases changed
  · intro changed
    refine ⟨(c, newRow), List.mem_zipIdx_iff_getElem?.mpr atNewRow, ?_⟩
    dsimp only
    rw [found]
    dsimp only
    rw [if_pos changed]

/-- What a cell shows depends on the fields that the comparison reads, on the
texts of the counters and on the highlights. -/
theorem cell_congr {column : Nat} (atOldRow : old.connections[oldRow]? = some oldConn)
    (atNewRow : new.connections[newRow]? = some c) (sent : oldConn.bytesSent = c.bytesSent)
    (received : oldConn.bytesReceived = c.bytesReceived) (same : oldConn.SameButCounters c)
    (highlights : SameHighlights old new c.id) (bytes : SameBytes quotient oldMemory newMemory c) :
    old.cell quotient oldMemory column oldRow = new.cell quotient newMemory column newRow := by
  unfold cell
  rw [atOldRow, atNewRow]
  dsimp only
  rw [same.id, same.sourceIp, same.outboundTarget, same.exeName, same.proxyProtocol, same.proxy,
    same.startTime, same.status, sent, received, bytes.sent, bytes.received]
  simp only [highlights.sent, highlights.recv]

/-- The rows whose cells changed are repainted exactly if every connection with
another text in a byte column changed in something that the comparison sees. -/
theorem repaintsChangedRows_iff (distinct : old.ids.Nodup) (shares : SharesCounters old new) :
    RepaintsChangedRows quotient oldMemory newMemory old new
        (tickNotifications (.ofMemory memory) old new) ↔
      ∀ oldConn ∈ old.connections, ∀ c ∈ new.connections, oldConn.id = c.id →
        oldConn.SameButCounters c → SameHighlights old new c.id →
        SameBytes quotient oldMemory newMemory c := by
  constructor
  · intro repaints oldConn inOld c inNew sameId same highlights
    obtain ⟨oldRow, atOldRow⟩ := List.mem_iff_getElem?.mp inOld
    obtain ⟨newRow, atNewRow⟩ := List.mem_iff_getElem?.mp inNew
    obtain ⟨sent, received⟩ := shares oldConn inOld c inNew sameId
    have idAtOldRow : old.ids[oldRow]? = some c.id := by
      rw [ids, List.getElem?_map, atOldRow, Option.map_some, sameId]
    have idAtNewRow : new.ids[newRow]? = some c.id := by
      rw [ids, List.getElem?_map, atNewRow, Option.map_some]
    have unpainted : .rowChanged newRow ∉ tickNotifications (.ofMemory memory) old new := by
      rw [rowChanged_mem_iff, mem_changedIndices_iff distinct idAtOldRow atNewRow,
        isChanged_iff atOldRow sent received, not_or, not_not, not_not]
      exact ⟨same, highlights⟩
    have unchanged : ∀ column,
        old.cell quotient oldMemory column oldRow = new.cell quotient newMemory column newRow := by
      intro column
      by_contra differs
      exact unpainted (repaints c.id oldRow newRow column idAtOldRow idAtNewRow differs)
    have sentCell := unchanged 7
    have receivedCell := unchanged 8
    unfold cell at sentCell receivedCell
    rw [atOldRow, atNewRow] at sentCell receivedCell
    dsimp only at sentCell receivedCell
    rw [sent] at sentCell
    rw [received] at receivedCell
    exact ⟨TableValue.string.inj sentCell, TableValue.string.inj receivedCell⟩
  · intro seen id oldRow newRow column idAtOldRow idAtNewRow differs
    obtain ⟨oldConn, atOldRow, rfl⟩ : ∃ oldConn, old.connections[oldRow]? = some oldConn ∧
        oldConn.id = id := by
      simpa [ids] using idAtOldRow
    obtain ⟨c, atNewRow, sameId⟩ : ∃ c, new.connections[newRow]? = some c ∧
        c.id = oldConn.id := by
      simpa [ids] using idAtNewRow
    have inOld := List.mem_of_getElem? atOldRow
    have inNew := List.mem_of_getElem? atNewRow
    obtain ⟨sent, received⟩ := shares oldConn inOld c inNew sameId.symm
    rw [← sameId] at idAtOldRow
    rw [rowChanged_mem_iff, mem_changedIndices_iff distinct idAtOldRow atNewRow,
      isChanged_iff atOldRow sent received]
    by_contra unseen
    rw [not_or, not_not, not_not] at unseen
    obtain ⟨same, highlights⟩ := unseen
    have bytes := seen oldConn inOld c inNew sameId.symm same highlights
    exact differs (cell_congr atOldRow atNewRow sent received same highlights bytes)

end TrafficDataSource

/-! ## The rows over a run -/

theorem TrafficWindow.connections_onTick {sort : UnstableSort} {size : ClientSize}
    {loads : TickLoads} {snapshot : List ConnectionInfo} (window : TrafficWindow) :
    (window.onTick sort size loads snapshot).dataSource.connections = snapshot := by
  unfold onTick
  dsimp only
  split
  · rfl
  · rfl

/-- The event is a tick that sees the window. -/
def WindowEvent.isTick : WindowEvent → Bool
  | .tick .. => true
  | _ => false

namespace WindowSystem

variable {sort : UnstableSort} {system next : WindowSystem} {event : WindowEvent}
  {events : List WindowEvent}

/-- The rows of the data source have the counters of their registrations, and
up to 2^64 registrations no id twice. -/
structure Held (events : List WindowEvent) (system : WindowSystem) : Prop where
  reached : system.tracker.Reached (trackerEvents events)
  recorded : system.tracker.Recorded (trackerEvents events)
  counted : ∀ window ∈ system.window, ∀ c ∈ window.dataSource.connections,
    HasCounters (trackerEvents events) c
  distinct : allocations (trackerEvents events) ≤ 2 ^ 64 →
    ∀ window ∈ system.window, window.dataSource.ids.Nodup

theorem Held.start : Held [] start where
  reached := .start
  recorded := .start
  counted := nofun
  distinct := nofun

/-- A step of the tracker leaves the rows of the data source alone. -/
theorem Held.track {tracker : TrackerSystem} {trackerEvent : TrackerEvent}
    (held : Held events system) (stepped : system.tracker.step trackerEvent = some tracker)
    (isTracked : trackerEvents (events ++ [event]) = trackerEvents events ++ [trackerEvent]) :
    Held (events ++ [event]) { system with tracker } := by
  constructor
  · rw [isTracked]
    exact held.reached.step stepped
  · rw [isTracked]
    exact held.recorded.step stepped
  · intro window isWindow c member
    rw [isTracked]
    exact (held.counted window isWindow c member).append _
  · intro few
    apply held.distinct
    rw [isTracked, allocations_append] at few
    omega

/-- The rows of a data source that a snapshot replaced. -/
theorem Held.replace {tracker : TrackerSystem} {window : TrafficWindow} {count : UInt64}
    {clock : UInt64 → Nat} (held : Held events system)
    (stepped : system.tracker.step (.snapshot count clock) = some tracker)
    (isTracked : trackerEvents (events ++ [event]) =
      trackerEvents events ++ [.snapshot count clock])
    (replaced : window.dataSource.connections = system.listing count clock) :
    Held (events ++ [event]) ⟨tracker, some window⟩ := by
  constructor
  · rw [isTracked]
    exact held.reached.step stepped
  · rw [isTracked]
    exact held.recorded.step stepped
  · intro later isLater c member
    cases isLater
    rw [replaced] at member
    rw [isTracked]
    exact (held.recorded.listed held.reached member).append _
  · intro few later isLater
    cases isLater
    rw [isTracked, allocations_append] at few
    rw [TrafficDataSource.ids, replaced]
    exact (held.reached.snapshot_isListedBy (by omega) count clock).nodup

theorem Held.step (held : Held events system) (stepped : system.step sort event = some next) :
    Held (events ++ [event]) next := by
  cases move_of_step stepped with
  | tracker trackerStepped => exact held.track trackerStepped (trackerEvents_append _ _)
  | openWindow loads _ trackerStepped =>
      exact held.replace trackerStepped (trackerEvents_append _ _) rfl
  | hiddenTick =>
      constructor
      · rw [trackerEvents_hiddenTick]
        exact held.reached
      · rw [trackerEvents_hiddenTick]
        exact held.recorded
      · rw [trackerEvents_hiddenTick]
        exact held.counted
      · rw [trackerEvents_hiddenTick]
        exact held.distinct
  | @tick size count clock loads window tracker isWindow trackerStepped =>
      exact held.replace trackerStepped (trackerEvents_append _ _) window.connections_onTick

theorem held_of_run (reached : Machine.run (WindowSystem.step sort) .start events = some system) :
    Held events system :=
  Machine.run_history Held .start (fun _ _ _ _ held stepped => held.step stepped) reached

/-- Only a tick replaces the data source of an open window. -/
theorem window_of_quiet {window : TrafficWindow} (isWindow : system.window = some window)
    (quiet : ∀ event ∈ events, event.isTick = false)
    (updated : Machine.run (WindowSystem.step sort) system events = some next) :
    next.window = some window := by
  induction events generalizing system with
  | nil =>
      cases updated
      exact isWindow
  | cons event events inductionHypothesis =>
      rw [Machine.run_cons, Option.bind_eq_some_iff] at updated
      obtain ⟨middle, stepped, updated⟩ := updated
      apply inductionHypothesis ?_ (fun later member => quiet later (List.mem_cons_of_mem _ member))
        updated
      cases move_of_step stepped with
      | tracker trackerStepped => exact isWindow
      | openWindow loads noWindow trackerStepped =>
          rw [isWindow] at noWindow
          exact absurd noWindow nofun
      | hiddenTick => exact isWindow
      | tick loads _ trackerStepped =>
          exact absurd (quiet _ List.mem_cons_self) Bool.true_eq_false.mp

end WindowSystem

namespace WindowSystem

variable {sort : UnstableSort} {system next : WindowSystem} {events : List WindowEvent}
  {window : TrafficWindow} {size : ClientSize} {count : UInt64} {clock : UInt64 → Nat}

/-- A row and the row that a snapshot lists for the same connection share the
counters. -/
theorem Held.sharesCounters (held : Held events system)
    (few : allocations (trackerEvents events) ≤ 2 ^ 64) (isWindow : system.window = some window)
    (loads : HighlightLoads) :
    TrafficDataSource.SharesCounters window.dataSource
      (window.dataSource.refresh sort loads (system.listing count clock)) := by
  intro oldConn inOld c inNew sameId
  have oldCounters := held.counted window isWindow oldConn inOld
  have counters : HasCounters (trackerEvents events) c := held.recorded.listed held.reached inNew
  exact oldCounters.same counters (held.reached.nodup_inserted few) sameId

theorem issued_normal (isWindow : system.window = some window)
    (normal : window.isResizing size = false) (loads : TickLoads) :
    system.issued sort (.tick size count clock loads) =
      window.dataSource.tickNotifications loads
        (window.dataSource.refresh sort loads.toHighlightLoads (system.listing count clock)) := by
  dsimp only [issued]
  rw [isWindow]
  dsimp only
  rw [normal, if_neg Bool.false_ne_true]

/-- The rows change by what is issued, whatever the size of the table. -/
theorem rows_of_issued (isWindow : system.window = some window) (loads : TickLoads) :
    (window.onTick sort size loads (system.listing count clock)).rows =
      window.rows.bind fun rows =>
        notifyAll ((system.listing count clock).map ConnectionInfo.id) rows
          (system.issued sort (.tick size count clock loads)) := by
  by_cases resizing : window.isResizing size = true
  · rw [TrafficWindow.rows_onTick_resizing resizing]
    dsimp only [issued]
    rw [isWindow]
    dsimp only
    rw [if_pos resizing]
    simp only [notifyAll_nil, Option.bind_fun_some]
  · have normal := Bool.eq_false_iff.mpr resizing
    rw [TrafficWindow.rows_onTick_normal normal, issued_normal isWindow normal]
    rfl

end WindowSystem

/-- Two ticks of a run with at most 2^64 registrations, with steps of the
tracker and additions to the counters in between: the two rows of a connection
share its counters, and the second tick repaints every row whose cells changed
exactly if it finds, for every connection with another text in a byte column,
something else that the comparison sees: another field, or a highlight that
came or went. -/
theorem changed_rows_repainted_iff (sort : UnstableSort) (quotient : UInt64 → UInt64 → Text)
    (before between : List WindowEvent) {initial first second : WindowSystem}
    {window : TrafficWindow} (firstSize size : ClientSize) (firstCount count : UInt64)
    (firstClock clock : UInt64 → Nat) (oldMemory newMemory : Counter → UInt64)
    (reached : Machine.run (WindowSystem.step sort) .start before = some initial)
    (ticked : initial.step sort (.tick firstSize firstCount firstClock (.ofMemory oldMemory)) =
      some first)
    (isWindow : first.window = some window)
    (quiet : ∀ event ∈ between, event.isTick = false)
    (updated : Machine.run (WindowSystem.step sort) first between = some second)
    (normal : window.isResizing size = false)
    (few : allocations (trackerEvents (before ++ between)) ≤ 2 ^ 64) :
    let old := window.dataSource
    let new := old.refresh sort (TickLoads.ofMemory newMemory).toHighlightLoads
      (second.listing count clock)
    TrafficDataSource.SharesCounters old new ∧
      (RepaintsChangedRows quotient oldMemory newMemory old new
          (second.issued sort (.tick size count clock (.ofMemory newMemory))) ↔
        ∀ oldConn ∈ old.connections, ∀ c ∈ new.connections, oldConn.id = c.id →
          oldConn.SameButCounters c → TrafficDataSource.SameHighlights old new c.id →
          TrafficDataSource.SameBytes quotient oldMemory newMemory c) := by
  intro old new
  have toFirst := Machine.run_concat_eq_some.mpr ⟨initial, reached, ticked⟩
  have toSecond := Machine.run_append_eq_some.mpr ⟨first, toFirst, updated⟩
  have held := WindowSystem.held_of_run toSecond
  have stillWindow := WindowSystem.window_of_quiet isWindow quiet updated
  have fewer : allocations (trackerEvents (before ++ [.tick firstSize firstCount firstClock
      (.ofMemory oldMemory)] ++ between)) ≤ 2 ^ 64 := by
    have same : allocations (trackerEvents [.tick firstSize firstCount firstClock
        (.ofMemory oldMemory)]) = 0 := rfl
    rw [trackerEvents_append, allocations_append] at few
    rw [trackerEvents_append, trackerEvents_append, allocations_append, allocations_append, same]
    omega
  have shares : TrafficDataSource.SharesCounters old new :=
    held.sharesCounters fewer stillWindow _
  refine ⟨shares, ?_⟩
  rw [WindowSystem.issued_normal stillWindow normal]
  exact TrafficDataSource.repaintsChangedRows_iff (held.distinct fewer window stillWindow) shares

/-- A window that shows one connection. -/
def oneShown : List WindowEvent :=
  [.tracker .allocate, .tracker (.register 1 localRegistration), .tracker .count,
    .openWindow 0 (fun _ => 0) idleLoads.toHighlightLoads, .tracker .count]

/-- What the counters hold after 512 bytes have been sent. -/
def halfKilobyteSent : Counter → UInt64 := Function.update (fun _ => 0) 0 512

/-- The connection is set to connected, and bytes are sent. -/
theorem changed_rows_repainted_iff_connected :
    ∃ initial first second window,
      Machine.run (WindowSystem.step .stable) .start oneShown = some initial ∧
      initial.step .stable (.tick none 1 (fun _ => 0) (.ofMemory fun _ => 0)) = some first ∧
      first.window = some window ∧
      Machine.run (WindowSystem.step .stable) first [.tracker (.set 1 .setConnected 0),
        .tracker .count] = some second ∧
      RepaintsChangedRows (fun _ _ => []) (fun _ => 0) halfKilobyteSent window.dataSource
        (window.dataSource.refresh .stable (TickLoads.ofMemory halfKilobyteSent).toHighlightLoads
          (second.listing 2 fun _ => 0))
        (second.issued .stable (.tick none 2 (fun _ => 0) (.ofMemory halfKilobyteSent))) := by
  refine ⟨_, _, _, _, rfl, rfl, rfl, rfl, ?_⟩
  have repaints := changed_rows_repainted_iff .stable (fun _ _ => []) oneShown
    [.tracker (.set 1 .setConnected 0), .tracker .count] none none 1 2 (fun _ => 0)
    (fun _ => 0) (fun _ => 0) halfKilobyteSent rfl rfl rfl (by decide) rfl rfl (by decide)
  refine repaints.2.mpr ?_
  intro oldConn inOld c inNew _ same
  rw [List.mem_singleton.mp inOld, List.mem_singleton.mp inNew] at same
  exact absurd same.status (by decide)

/-- Bytes are sent between two ticks and nothing else changes: the text of the
column goes from 0 B to 512 B, and nothing is repainted. -/
theorem counted_row_is_not_repainted :
    ¬ ∀ (sort : UnstableSort) (quotient : UInt64 → UInt64 → Text)
      (before between : List WindowEvent) (initial first second : WindowSystem)
      (window : TrafficWindow) (firstSize size : ClientSize) (firstCount count : UInt64)
      (firstClock clock : UInt64 → Nat) (oldMemory newMemory : Counter → UInt64),
      Machine.run (WindowSystem.step sort) .start before = some initial →
      initial.IsNormalTick (.tick firstSize firstCount firstClock (.ofMemory oldMemory)) →
      initial.step sort (.tick firstSize firstCount firstClock (.ofMemory oldMemory)) =
        some first →
      first.window = some window →
      (∀ event ∈ between, event.isTick = false) →
      Machine.run (WindowSystem.step sort) first between = some second →
      second.IsNormalTick (.tick size count clock (.ofMemory newMemory)) →
      RepaintsChangedRows quotient oldMemory newMemory window.dataSource
        (window.dataSource.refresh sort (TickLoads.ofMemory newMemory).toHighlightLoads
          (second.listing count clock))
        (second.issued sort (.tick size count clock (.ofMemory newMemory))) := by
  intro claimed
  have repaints := claimed .stable (fun _ _ => []) oneShown [.tracker .count] _ _ _ _ none none 1 2
    (fun _ => 0) (fun _ => 0) (fun _ => 0) halfKilobyteSent rfl ⟨_, rfl, rfl⟩ rfl rfl (by decide)
    rfl ⟨_, rfl, rfl⟩
  have painted := repaints 1 0 0 7 rfl rfl (by decide +kernel)
  exact absurd painted (by decide +kernel)

end SimpleForwarder

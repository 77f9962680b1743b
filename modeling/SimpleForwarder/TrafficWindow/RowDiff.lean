import SimpleForwarder.TrafficWindow.Mirror

/-!
Contract: the row diff of a normal tick.

Owns: the law of the notifications of one tick for arbitrary old and new rows
(`row_diff_transforms`): their order, the validity of each position at the
moment it is issued, the rows they lead to, and the connection that a position
passed to `notify_row_changed` stands for.

The law is about any two data sources with distinct ids that keep a common
order, not only those that the tracker produces.

Does not own: which rows need to be repainted.
-/

namespace SimpleForwarder

open RowView

namespace TrafficDataSource

variable {old new : TrafficDataSource}

/-- The map from ids to old positions points at rows of these ids. -/
theorem id_of_oldIdxById {id : UInt64} {oldIdx : Nat} (found : old.oldIdxById id = some oldIdx) :
    ∃ oldConn, old.connections[oldIdx]? = some oldConn ∧ oldConn.id = id := by
  have folded : ∀ (rows : List (ConnectionInfo × Nat)) (indices : UInt64 → Option Nat),
      rows.foldl (fun (indices : UInt64 → Option Nat) row =>
        Function.update indices row.1.id (some row.2)) indices id = some oldIdx →
      indices id = some oldIdx ∨ ∃ row ∈ rows, row.1.id = id ∧ row.2 = oldIdx := by
    intro rows
    induction rows with
    | nil => exact fun _ kept => .inl kept
    | cons row rows inductionHypothesis =>
        intro indices kept
        rcases inductionHypothesis _ kept with updated | ⟨later, member, isRow⟩
        · beta_reduce at updated
          by_cases same : id = row.1.id
          · rw [same, Function.update_self] at updated
            exact .inr ⟨row, List.mem_cons_self, same.symm, Option.some.inj updated⟩
          · rw [Function.update_of_ne same] at updated
            exact .inl updated
        · exact .inr ⟨later, List.mem_cons_of_mem _ member, isRow⟩
  rcases folded _ _ found with impossible | ⟨row, member, isId, isIdx⟩
  · cases impossible
  · refine ⟨row.1, ?_, isId⟩
    rw [← isIdx]
    exact List.mem_zipIdx_iff_getElem?.mp member

/-- What a position to be repainted was computed for: a row of the new
snapshot, and the old row of the same id. -/
structure IsRepaintOf (loads : TickLoads) (old new : TrafficDataSource) (index : Nat)
    (c oldConn : ConnectionInfo) : Prop where
  inSnapshot : new.connections[index]? = some c
  wasRow : ∃ oldIdx, old.connections[oldIdx]? = some oldConn ∧
    isChanged loads old new oldIdx c = true
  sameId : oldConn.id = c.id

theorem mem_changedIndices {loads : TickLoads} {index : Nat}
    (member : index ∈ changedIndices loads old new) :
    ∃ c oldConn, IsRepaintOf loads old new index c oldConn := by
  obtain ⟨row, inRows, changed⟩ := List.mem_filterMap.mp member
  dsimp only at changed
  split at changed
  · cases changed
  · next oldIdx found =>
      split at changed
      · next isChanged =>
          cases changed
          obtain ⟨oldConn, atOldIdx, sameId⟩ := id_of_oldIdxById found
          exact ⟨row.1, oldConn, List.mem_zipIdx_iff_getElem?.mp inRows,
            ⟨oldIdx, atOldIdx, isChanged⟩, sameId⟩
      · cases changed

/-- The notifications come in three groups: deletions from the last old
position to the first, insertions from the first new position to the last, and
the positions to be repainted. -/
theorem tickNotifications_groups (loads : TickLoads) (old new : TrafficDataSource) :
    ∃ deleted inserted : List Nat,
      tickNotifications loads old new = deleted.map .rowDeleted ++
        (inserted.map .rowInserted ++ (changedIndices loads old new).map .rowChanged) ∧
      deleted.Pairwise (· > ·) ∧ inserted.Pairwise (· < ·) := by
  obtain ⟨inserted, insertions, ascending⟩ := insertions_eq (· ∉ old.ids) new.ids
  refine ⟨delIndices old new, inserted, ?_, ?_, ascending⟩
  · rw [tickNotifications, insertedRows_eq, insertions]
  · rw [delIndices_eq]
    exact List.pairwise_reverse.mpr (positionsOf_ascending _ _)

end TrafficDataSource

/-- A position to be repainted stands in the new rows for the connection it was
computed for, and for no other. -/
theorem TrafficDataSource.IsRepaintOf.shows {loads : TickLoads} {old new : TrafficDataSource}
    {index : Nat} {c oldConn : ConnectionInfo}
    (repaint : TrafficDataSource.IsRepaintOf loads old new index c oldConn)
    (distinct : new.ids.Nodup) :
    new.ids[index]? = some c.id ∧ ∀ other, new.ids[other]? = some c.id → other = index := by
  have atIndex : new.ids[index]? = some c.id := by
    rw [ids, List.getElem?_map, repaint.inSnapshot]
    rfl
  refine ⟨atIndex, ?_⟩
  intro other atOther
  have inside := (List.getElem?_eq_some_iff.mp atOther).1
  exact (List.getElem?_inj inside distinct).mp (atOther.trans atIndex.symm)

/-- For arbitrary old and new rows with distinct ids that stand in the same
order in both: the notifications of a normal tick, issued one after the other
to a view that shows the old rows, lead to the new rows. Each position is valid
when it is issued. A position to be repainted stands in the new rows for the
connection whose old row was compared. -/
theorem row_diff_transforms (sort : UnstableSort) (size : ClientSize) (loads : TickLoads)
    (snapshot : List ConnectionInfo) (window : TrafficWindow)
    (normal : window.isResizing size = false) (shown : window.rows = some window.dataSource.ids)
    (oldDistinct : window.dataSource.ids.Nodup)
    (newDistinct : (snapshot.map ConnectionInfo.id).Nodup)
    (sameOrder : window.dataSource.ids.filter (· ∈ snapshot.map ConnectionInfo.id) =
      (snapshot.map ConnectionInfo.id).filter (· ∈ window.dataSource.ids)) :
    let old := window.dataSource
    let new := old.refresh sort loads.toHighlightLoads snapshot
    let notifications := old.tickNotifications loads new
    (window.onTick sort size loads snapshot).rows = notifyAll new.ids old.ids notifications ∧
      notifyAll new.ids old.ids notifications = some (snapshot.map ConnectionInfo.id) ∧
      (∃ deleted inserted changed : List Nat,
        notifications = deleted.map .rowDeleted ++
          (inserted.map .rowInserted ++ changed.map .rowChanged) ∧
        deleted.Pairwise (· > ·) ∧ inserted.Pairwise (· < ·)) ∧
      (∀ before notification after, notifications = before ++ notification :: after →
        ∃ rows, notifyAll new.ids old.ids before = some rows ∧ notification.InRange rows) ∧
      ∀ index, .rowChanged index ∈ notifications →
        ∃ c oldConn, TrafficDataSource.IsRepaintOf loads old new index c oldConn ∧
          (∀ other ∈ old.connections, other.id = c.id → other = oldConn) ∧
          (snapshot.map ConnectionInfo.id)[index]? = some c.id ∧
          ∀ other, (snapshot.map ConnectionInfo.id)[other]? = some c.id → other = index := by
  intro old new notifications
  have transformed : notifyAll new.ids old.ids notifications = some new.ids :=
    TrafficDataSource.notifyAll_tickNotifications loads sameOrder
  obtain ⟨deleted, inserted, groups, descending, ascending⟩ :=
    TrafficDataSource.tickNotifications_groups loads old new
  refine ⟨?_, transformed, ⟨deleted, inserted, _, groups, descending, ascending⟩, ?_, ?_⟩
  · rw [TrafficWindow.rows_onTick_normal normal, TrafficWindow.notifiedRows, shown,
      Option.bind_some]
  · intro before notification after split
    rw [split] at transformed
    exact inRange_of_notifyAll transformed
  · intro index member
    have issued : .rowChanged index ∈ old.tickNotifications loads new := member
    have changed : index ∈ TrafficDataSource.changedIndices loads old new := by
      rw [groups] at issued
      simpa using issued
    obtain ⟨c, oldConn, repaint⟩ := TrafficDataSource.mem_changedIndices changed
    refine ⟨c, oldConn, repaint, ?_, repaint.shows newDistinct⟩
    intro other inOld sameId
    obtain ⟨oldIdx, atOldIdx, -⟩ := repaint.wasRow
    exact List.inj_on_of_nodup_map oldDistinct inOld (List.mem_of_getElem? atOldIdx)
      (sameId.trans repaint.sameId.symm)

/-- A window that shows the connections of the given ids. -/
def showing (ids : List UInt64) : TrafficWindow :=
  .opened .stable idleLoads.toHighlightLoads (ids.map localRegistration.info)

/-- Rows go at the front and in the middle, and one comes at the end. -/
theorem row_diff_transforms_mixed :
    ((showing [1, 2, 3]).onTick .stable none idleLoads
      ([2, 4].map localRegistration.info)).rows = some [2, 4] := by
  have transforms := row_diff_transforms .stable none idleLoads
    ([2, 4].map localRegistration.info) (showing [1, 2, 3]) rfl rfl (by decide) (by decide)
    (by decide)
  exact transforms.1.trans transforms.2.1

end SimpleForwarder

import Mathlib.Data.List.Induction
import Mathlib.Data.List.InsertIdx
import Mathlib.Tactic.Common

/-!
Contract: views that follow a list by notifications.

Owns: the rows of a view under notifications that carry positions only, and
the rules that bring the view from an old list to a new one: deletions from the
last position to the first (`notifyAll_deletions`), then insertions from the
first to the last (`notifyAll_insertions`), then changes
(`notifyAll_changes`).

An inserted row shows what the source has at its position at that moment. A
notification whose position is not valid has no result.

Does not own: how the two lists are compared.
-/

namespace RowView

inductive Notification where
  | rowDeleted (index : Nat)
  | rowInserted (index : Nat)
  | rowChanged (index : Nat)
deriving DecidableEq

variable {Item : Type}

/-- The rows after a notification. -/
def notify (source rows : List Item) : Notification → Option (List Item)
  | .rowDeleted index => if index < rows.length then some (rows.eraseIdx index) else none
  | .rowInserted index =>
      if index ≤ rows.length then source[index]?.map (rows.insertIdx index ·) else none
  | .rowChanged index => if index < rows.length then some rows else none

def notifyAll (source rows : List Item) (notifications : List Notification) :
    Option (List Item) :=
  notifications.foldlM (notify source) rows

variable {source rows next : List Item} {notification : Notification}
  {notifications later : List Notification}

@[simp] theorem notifyAll_nil : notifyAll source rows [] = some rows := rfl

theorem notifyAll_cons (notified : notify source rows notification = some next) :
    notifyAll source rows (notification :: notifications) =
      notifyAll source next notifications := by
  rw [notifyAll, List.foldlM_cons, notified]
  rfl

theorem notifyAll_append (notified : notifyAll source rows notifications = some next) :
    notifyAll source rows (notifications ++ later) = notifyAll source next later := by
  unfold notifyAll at notified ⊢
  rw [List.foldlM_append, notified]
  rfl

/-- The position of a notification is one of the rows, or the end of them for
an insertion. -/
def Notification.InRange (rows : List Item) : Notification → Prop
  | .rowDeleted index => index < rows.length
  | .rowInserted index => index ≤ rows.length
  | .rowChanged index => index < rows.length

theorem inRange_of_notify (notified : notify source rows notification = some next) :
    notification.InRange rows := by
  cases notification with
  | rowDeleted index =>
      dsimp only [notify] at notified
      split at notified
      · next inside => exact inside
      · cases notified
  | rowInserted index =>
      dsimp only [notify] at notified
      split at notified
      · next inside => exact inside
      · cases notified
  | rowChanged index =>
      dsimp only [notify] at notified
      split at notified
      · next inside => exact inside
      · cases notified

/-- In a run that has a result, every position is valid when it is issued. -/
theorem inRange_of_notifyAll
    (notified : notifyAll source rows (notifications ++ notification :: later) = some next) :
    ∃ middle, notifyAll source rows notifications = some middle ∧
      notification.InRange middle := by
  unfold notifyAll at notified ⊢
  rw [List.foldlM_append] at notified
  obtain ⟨middle, before, after⟩ := Option.bind_eq_some_iff.mp notified
  rw [List.foldlM_cons] at after
  obtain ⟨_, issued, _⟩ := Option.bind_eq_some_iff.mp after
  exact ⟨middle, before, inRange_of_notify issued⟩

/-! ## Deletions -/

/-- The positions of the rows that are to go, in ascending order. -/
def positionsOf (drops : Item → Bool) (rows : List Item) : List Nat :=
  (List.range rows.length).filter fun index => rows[index]?.any drops

theorem positionsOf_ascending (drops : Item → Bool) (rows : List Item) :
    (positionsOf drops rows).Pairwise (· < ·) :=
  List.pairwise_lt_range.filter _

theorem positionsOf_concat (drops : Item → Bool) (rows : List Item) (row : Item) :
    positionsOf drops (rows ++ [row]) =
      positionsOf drops rows ++ if drops row then [rows.length] else [] := by
  have earlier : ∀ index ∈ List.range rows.length,
      ((rows ++ [row])[index]?.any drops) = rows[index]?.any drops := by
    intro index inside
    rw [List.getElem?_append_left (List.mem_range.mp inside)]
  have last : (rows ++ [row])[rows.length]?.any drops = drops row := by
    rw [List.getElem?_concat_length, Option.any_some]
  unfold positionsOf
  rw [List.length_append, List.length_singleton, List.range_succ, List.filter_append,
    List.filter_congr earlier, List.filter_cons, last, List.filter_nil]

/-- A deletion does not move the rows before it: from the last to the first,
all positions are those of the rows at the start. -/
theorem notifyAll_deletions (drops : Item → Bool) (rows suffix : List Item) :
    notifyAll source (rows ++ suffix) ((positionsOf drops rows).reverse.map .rowDeleted) =
      some (rows.filter (! drops ·) ++ suffix) := by
  induction rows using List.reverseRecOn generalizing suffix with
  | nil => rfl
  | append_singleton rows row inductionHypothesis =>
      rw [positionsOf_concat, List.reverse_append, List.map_append, List.append_assoc,
        List.filter_append, List.append_assoc]
      by_cases dropped : drops row = true
      · have deleted : notify source (rows ++ row :: suffix) (.rowDeleted rows.length) =
            some (rows ++ suffix) := by
          simp [notify, List.eraseIdx_append_of_length_le]
        rw [if_pos dropped, List.reverse_singleton, List.map_singleton, List.singleton_append,
          List.singleton_append, notifyAll_cons deleted, inductionHypothesis,
          List.filter_cons_of_neg (by simpa)]
        rfl
      · rw [if_neg dropped, List.reverse_nil, List.map_nil, List.nil_append, inductionHypothesis,
          List.filter_cons_of_pos (by simpa using dropped)]
        rfl

/-! ## Insertions -/

/-- The notifications of the new items from a position on, in ascending order. -/
def insertions (fresh : Item → Bool) (items : List Item) (start : Nat) : List Notification :=
  (items.zipIdx start).filterMap fun (item, index) =>
    if fresh item then some (.rowInserted index) else none

theorem insertIdx_length_append (front back : List Item) (item : Item) :
    (front ++ back).insertIdx front.length item = front ++ item :: back := by
  induction front with
  | nil => rfl
  | cons first front inductionHypothesis =>
      rw [List.length_cons, List.cons_append, List.insertIdx_succ_cons, inductionHypothesis]
      rfl

/-- The rows before the position are in place, the others are those that are
not new. -/
theorem notifyAll_insertions (fresh : Item → Bool) (placed items : List Item) :
    notifyAll (placed ++ items) (placed ++ items.filter (! fresh ·))
      (insertions fresh items placed.length) = some (placed ++ items) := by
  induction items generalizing placed with
  | nil => rfl
  | cons item items inductionHypothesis =>
      have rest := inductionHypothesis (placed ++ [item])
      rw [List.length_append, List.length_singleton, List.append_assoc, List.append_assoc,
        List.singleton_append, List.singleton_append] at rest
      by_cases isFresh : fresh item = true
      · have inserted : notify (placed ++ item :: items) (placed ++ items.filter (! fresh ·))
            (.rowInserted placed.length) = some (placed ++ item :: items.filter (! fresh ·)) := by
          simp [notify, insertIdx_length_append]
        rw [List.filter_cons_of_neg (by simpa), insertions, List.zipIdx_cons,
          List.filterMap_cons_some (b := .rowInserted placed.length) (by simp [isFresh]),
          notifyAll_cons inserted]
        exact rest
      · rw [List.filter_cons_of_pos (by simpa using isFresh), insertions, List.zipIdx_cons,
          List.filterMap_cons_none (by simp [isFresh])]
        exact rest

/-- Insertions come at the positions of the new items, from the first to the
last. -/
theorem insertions_eq (fresh : Item → Bool) (items : List Item) :
    ∃ positions : List Nat, insertions fresh items 0 = positions.map .rowInserted ∧
      positions.Pairwise (· < ·) := by
  refine ⟨(items.zipIdx.filter fun row => fresh row.1).map Prod.snd, ?_, ?_⟩
  · unfold insertions
    induction items.zipIdx with
    | nil => rfl
    | cons row rows inductionHypothesis =>
        by_cases isFresh : fresh row.1 = true
        · rw [List.filterMap_cons_some (b := .rowInserted row.2) (by simp [isFresh]),
            List.filter_cons, if_pos isFresh, inductionHypothesis]
          rfl
        · rw [List.filterMap_cons_none (by simp [isFresh]), List.filter_cons,
            if_neg isFresh, inductionHypothesis]
  · have positions : items.zipIdx.Pairwise fun row other => row.2 < other.2 := by
      apply List.pairwise_map.mp
      rw [List.zipIdx_map_snd]
      exact List.pairwise_lt_range'
    apply List.pairwise_map.mpr
    exact positions.filter _

/-! ## Changes -/

theorem notifyAll_changes {indices : List Nat} (inside : ∀ index ∈ indices, index < rows.length) :
    notifyAll source rows (indices.map .rowChanged) = some rows := by
  induction indices with
  | nil => rfl
  | cons index indices inductionHypothesis =>
      have changed : notify source rows (.rowChanged index) = some rows :=
        if_pos (inside index List.mem_cons_self)
      rw [List.map_cons, notifyAll_cons changed]
      exact inductionHypothesis fun other member => inside other (List.mem_cons_of_mem _ member)

/-- Changes alone do not move rows. -/
theorem rows_of_notifyAll_changes {indices : List Nat}
    (notified : notifyAll source rows (indices.map .rowChanged) = some next) : next = rows := by
  induction indices with
  | nil => exact (Option.some.inj notified).symm
  | cons index indices inductionHypothesis =>
      by_cases inside : index < rows.length
      · have changed : notify source rows (.rowChanged index) = some rows := if_pos inside
        rw [List.map_cons, notifyAll_cons changed] at notified
        exact inductionHypothesis notified
      · have refused : notify source rows (.rowChanged index) = none := if_neg inside
        rw [List.map_cons, notifyAll, List.foldlM_cons, refused] at notified
        exact absurd notified nofun

/-! ## From an old list to a new one -/

/-- Deletions, insertions and changes lead from the old list to the new one if
the items of both stand in the same order in both. -/
theorem notifyAll_diff [DecidableEq Item] {old new : List Item} {indices : List Nat}
    (sameOrder : old.filter (· ∈ new) = new.filter (· ∈ old))
    (inside : ∀ index ∈ indices, index < new.length) :
    notifyAll new old
      ((positionsOf (· ∉ new) old).reverse.map .rowDeleted ++
        (insertions (· ∉ old) new 0 ++ indices.map .rowChanged)) = some new := by
  have deleted : notifyAll new old ((positionsOf (· ∉ new) old).reverse.map .rowDeleted) =
      some (new.filter (· ∈ old)) := by
    have removed : notifyAll new (old ++ []) _ = _ := notifyAll_deletions (· ∉ new) old []
    rw [List.append_nil, List.append_nil] at removed
    rw [removed, ← sameOrder]
    simp
  have inserted : notifyAll new (new.filter (· ∈ old)) (insertions (· ∉ old) new 0) =
      some new := by
    have added := notifyAll_insertions (· ∉ old) [] new
    simpa using added
  rw [notifyAll_append deleted, notifyAll_append inserted]
  exact notifyAll_changes inside

end RowView

import Mathlib.Data.List.Nodup
import Mathlib.Data.Set.Card
import Mathlib.Logic.Function.Basic
import Mathlib.Tactic.Common

/-!
Contract: bounded tables in insertion order.

Owns: a map together with the list of its keys in insertion order, the
operations that change both (`insert` with eviction of the oldest, `modify`,
`retain`), and the laws that tie them: every operation keeps the two
consistent, and the order of a later table is a subsequence of the earlier
order followed by the keys inserted in between.

Does not own: any key, value or capacity.
-/

structure OrderedTable (Key Value : Type) where
  entries : Key → Option Value
  order : List Key

namespace OrderedTable

variable {Key Value : Type}

def empty : OrderedTable Key Value where
  entries := fun _ => none
  order := []

def Has (table : OrderedTable Key Value) (key : Key) : Prop := (table.entries key).isSome

instance (table : OrderedTable Key Value) (key : Key) : Decidable (table.Has key) :=
  inferInstanceAs (Decidable ((table.entries key).isSome = true))

/-- The values in insertion order. -/
def values (table : OrderedTable Key Value) : List Value := table.order.filterMap table.entries

/-- Keep the entries whose value passes the test. -/
def retain (keep : Key → Value → Bool) (table : OrderedTable Key Value) :
    OrderedTable Key Value :=
  let entries := fun key => (table.entries key).filter (keep key)
  ⟨entries, table.order.filter fun key => (entries key).isSome⟩

section Update

variable [DecidableEq Key]

def modify (table : OrderedTable Key Value) (key : Key) (change : Value → Value) :
    OrderedTable Key Value :=
  match table.entries key with
  | some value => { table with entries := Function.update table.entries key (some (change value)) }
  | none => table

/-- Remove the oldest entries while there are more than `capacity`. -/
def evict (capacity : Nat) (entries : Key → Option Value) : List Key → OrderedTable Key Value
  | [] => ⟨entries, []⟩
  | oldest :: order =>
      if capacity < (oldest :: order).length then
        evict capacity (Function.update entries oldest none) order
      else ⟨entries, oldest :: order⟩

def insert (capacity : Nat) (table : OrderedTable Key Value) (key : Key) (value : Value) :
    OrderedTable Key Value :=
  evict capacity (Function.update table.entries key (some value)) (table.order ++ [key])

end Update

/-! ## Consistency -/

/-- Every key with an entry is listed. -/
def Covered (table : OrderedTable Key Value) : Prop := ∀ key, table.Has key → key ∈ table.order

/-- The listed keys are the keys with an entry, each listed once. -/
structure Consistent (table : OrderedTable Key Value) : Prop where
  has_iff : ∀ key, table.Has key ↔ key ∈ table.order
  nodup : table.order.Nodup

/-- Every value names the key it is stored under. -/
def Keyed (keyOf : Value → Key) (table : OrderedTable Key Value) : Prop :=
  ∀ key value, table.entries key = some value → keyOf value = key

variable {table : OrderedTable Key Value} {keyOf : Value → Key}

theorem Consistent.covered (consistent : table.Consistent) : table.Covered :=
  fun key => (consistent.has_iff key).mp

theorem has_of_entries {key : Key} {value : Value} (entry : table.entries key = some value) :
    table.Has key := by
  unfold Has
  rw [entry]
  rfl

theorem Has.entry {key : Key} (has : table.Has key) : ∃ value, table.entries key = some value :=
  Option.isSome_iff_exists.mp has

theorem consistent_empty : (empty : OrderedTable Key Value).Consistent where
  has_iff := fun _ => ⟨nofun, nofun⟩
  nodup := List.nodup_nil

/-- A covered table has no more entries than its order is long. -/
theorem Covered.encard_le (covered : table.Covered) :
    {key | table.Has key}.encard ≤ table.order.length := by
  classical
  have subset : {key | table.Has key} ⊆ (table.order.toFinset : Set Key) := by
    intro key has
    exact Finset.mem_coe.mpr (List.mem_toFinset.mpr (covered key has))
  calc {key | table.Has key}.encard
      ≤ (table.order.toFinset : Set Key).encard := Set.encard_le_encard subset
    _ = table.order.toFinset.card := Set.encard_coe_eq_coe_finsetCard _
    _ ≤ table.order.length := Nat.cast_le.mpr (List.toFinset_card_le table.order)

/-! ## The values of a consistent table -/

theorem mem_values (covered : table.Covered) (keyed : table.Keyed keyOf) {value : Value} :
    value ∈ table.values ↔ table.entries (keyOf value) = some value := by
  unfold values
  rw [List.mem_filterMap]
  constructor
  · rintro ⟨key, -, entry⟩
    rw [keyed key value entry]
    exact entry
  · intro entry
    exact ⟨keyOf value, covered _ (has_of_entries entry), entry⟩

theorem map_filterMap_eq {entries : Key → Option Value} {order : List Key}
    (all : ∀ key ∈ order, (entries key).isSome)
    (keyed : ∀ key value, entries key = some value → keyOf value = key) :
    (order.filterMap entries).map keyOf = order := by
  induction order with
  | nil => rfl
  | cons key order inductionHypothesis =>
      obtain ⟨value, entry⟩ := Option.isSome_iff_exists.mp (all key List.mem_cons_self)
      have rest := inductionHypothesis fun other member => all other (List.mem_cons_of_mem _ member)
      rw [List.filterMap_cons_some entry, List.map_cons, keyed key value entry, rest]

/-- The values of a consistent table name its order. -/
theorem keys_values (consistent : table.Consistent) (keyed : table.Keyed keyOf) :
    table.values.map keyOf = table.order :=
  map_filterMap_eq (fun key member => (consistent.has_iff key).mpr member) keyed

/-! ## Retaining -/

section Retain

variable {keep : Key → Value → Bool}

theorem entries_retain {key : Key} {value : Value} :
    (table.retain keep).entries key = some value ↔
      table.entries key = some value ∧ keep key value = true :=
  Option.filter_eq_some_iff

theorem has_of_has_retain {key : Key} (has : (table.retain keep).Has key) : table.Has key :=
  Option.isSome_of_isSome_filter _ _ has

theorem order_retain_sublist : (table.retain keep).order.Sublist table.order :=
  List.filter_sublist

theorem mem_order_retain {key : Key} :
    key ∈ (table.retain keep).order ↔ key ∈ table.order ∧ (table.retain keep).Has key :=
  List.mem_filter

theorem Covered.retain (covered : table.Covered) : (table.retain keep).Covered :=
  fun key has => mem_order_retain.mpr ⟨covered key (has_of_has_retain has), has⟩

theorem Consistent.retain (consistent : table.Consistent) : (table.retain keep).Consistent where
  has_iff := fun key => ⟨consistent.covered.retain key, fun member => (mem_order_retain.mp member).2⟩
  nodup := consistent.nodup.sublist order_retain_sublist

theorem Keyed.retain (keyed : table.Keyed keyOf) : (table.retain keep).Keyed keyOf :=
  fun key value entry => keyed key value (entries_retain.mp entry).1

end Retain

/-! ## Modifying -/

variable [DecidableEq Key]

section Modify

variable {key : Key} {change : Value → Value}

@[simp] theorem order_modify : (table.modify key change).order = table.order := by
  unfold modify
  split
  · rfl
  · rfl

theorem entries_modify (other : Key) :
    (table.modify key change).entries other =
      if other = key then (table.entries other).map change else table.entries other := by
  unfold modify
  split
  · next value entry =>
      dsimp only
      rw [Function.update_apply]
      split
      · next same => rw [same, entry, Option.map_some]
      · rfl
  · next missing =>
      split
      · next same => rw [same, missing, Option.map_none]
      · rfl

theorem entries_modify_self {value : Value} (entry : table.entries key = some value) :
    (table.modify key change).entries key = some (change value) := by
  rw [entries_modify, if_pos rfl, entry, Option.map_some]

@[simp] theorem has_modify {other : Key} :
    (table.modify key change).Has other ↔ table.Has other := by
  unfold Has
  rw [entries_modify]
  split
  · rw [Option.isSome_map]
  · rfl

/-- What an entry of the modified table was before. -/
theorem entries_of_entries_modify {other : Key} {value : Value}
    (entry : (table.modify key change).entries other = some value) :
    ∃ before, table.entries other = some before ∧
      value = if other = key then change before else before := by
  rw [entries_modify] at entry
  split at entry
  · next same =>
      obtain ⟨before, found, rfl⟩ := Option.map_eq_some_iff.mp entry
      exact ⟨before, found, (if_pos same).symm⟩
  · next distinct => exact ⟨value, entry, (if_neg distinct).symm⟩

theorem Covered.modify (covered : table.Covered) : (table.modify key change).Covered := by
  intro other has
  rw [order_modify]
  exact covered other (has_modify.mp has)

theorem Consistent.modify (consistent : table.Consistent) :
    (table.modify key change).Consistent where
  has_iff := fun other => by rw [has_modify, order_modify, consistent.has_iff]
  nodup := by
    rw [order_modify]
    exact consistent.nodup

theorem Keyed.modify (keyed : table.Keyed keyOf)
    (same : ∀ value, keyOf (change value) = keyOf value) :
    (table.modify key change).Keyed keyOf := by
  intro other value entry
  obtain ⟨before, found, rfl⟩ := entries_of_entries_modify entry
  split
  · rw [same]
    exact keyed other before found
  · exact keyed other before found

end Modify

/-! ## Evicting -/

section Evict

variable {capacity : Nat}

theorem order_evict (entries : Key → Option Value) (order : List Key) :
    (evict capacity entries order).order = order.drop (order.length - capacity) := by
  induction order generalizing entries with
  | nil => rw [List.drop_nil, evict]
  | cons oldest order inductionHypothesis =>
      unfold evict
      split
      · next full =>
          rw [inductionHypothesis, List.length_cons]
          rw [List.length_cons] at full
          rw [show order.length + 1 - capacity = (order.length - capacity) + 1 by omega,
            List.drop_succ_cons]
      · next room =>
          rw [Nat.sub_eq_zero_of_le (Nat.le_of_not_lt room), List.drop_zero]

theorem entries_evict (entries : Key → Option Value) (order : List Key) (key : Key) :
    (evict capacity entries order).entries key =
      if key ∈ order.take (order.length - capacity) then none else entries key := by
  induction order generalizing entries with
  | nil => rw [List.take_nil, if_neg List.not_mem_nil, evict]
  | cons oldest order inductionHypothesis =>
      unfold evict
      split
      · next full =>
          rw [List.length_cons] at full
          rw [inductionHypothesis, List.length_cons, Function.update_apply,
            show order.length + 1 - capacity = (order.length - capacity) + 1 by omega,
            List.take_succ_cons]
          by_cases same : key = oldest
          · simp [same]
          · simp [same]
      · next room =>
          rw [Nat.sub_eq_zero_of_le (Nat.le_of_not_lt room), List.take_zero,
            if_neg List.not_mem_nil]

end Evict

/-! ## Inserting -/

section Insert

variable {capacity : Nat} {key : Key} {value : Value}

theorem order_insert :
    (table.insert capacity key value).order =
      (table.order ++ [key]).drop ((table.order ++ [key]).length - capacity) :=
  order_evict _ _

theorem order_insert_sublist :
    (table.insert capacity key value).order.Sublist (table.order ++ [key]) := by
  rw [order_insert]
  exact List.drop_sublist _ _

theorem length_order_insert : (table.insert capacity key value).order.length ≤ capacity := by
  rw [order_insert, List.length_drop]
  omega

/-- An entry after an insertion is the new one or an earlier one. -/
theorem entries_of_entries_insert {other : Key} {found : Value}
    (entry : (table.insert capacity key value).entries other = some found) :
    (other = key ∧ found = value) ∨ (other ≠ key ∧ table.entries other = some found) := by
  unfold insert at entry
  rw [entries_evict] at entry
  split at entry
  · exact absurd entry nofun
  · rw [Function.update_apply] at entry
    split at entry
    · next same => exact .inl ⟨same, (Option.some.inj entry).symm⟩
    · next distinct => exact .inr ⟨distinct, entry⟩

/-- The entries that leave are those at the front of the order. -/
theorem has_insert {other : Key} :
    (table.insert capacity key value).Has other ↔
      other ∉ (table.order ++ [key]).take ((table.order ++ [key]).length - capacity) ∧
        (other = key ∨ table.Has other) := by
  unfold Has insert
  rw [entries_evict, Function.update_apply]
  split
  · next evicted => exact ⟨nofun, fun remains => absurd evicted remains.1⟩
  · next remains =>
      split
      · next same => exact ⟨fun _ => ⟨remains, .inl same⟩, fun _ => rfl⟩
      · next distinct =>
          exact ⟨fun has => ⟨remains, .inr has⟩, fun has => has.2.resolve_left distinct⟩

/-- An insertion removes at most the oldest key, of a full table. -/
theorem evicted_by_insert {other : Key} (positive : 0 < capacity)
    (bound : table.order.length ≤ capacity) (has : table.Has other)
    (evicted : ¬ (table.insert capacity key value).Has other) :
    table.order.length = capacity ∧ table.order.head? = some other := by
  have front : other ∈ (table.order ++ [key]).take ((table.order ++ [key]).length - capacity) := by
    by_contra remains
    exact evicted (has_insert.mpr ⟨remains, .inr has⟩)
  rw [List.length_append, List.length_singleton] at front
  have full : table.order.length = capacity := by
    by_contra room
    rw [Nat.sub_eq_zero_of_le (by omega), List.take_zero] at front
    exact absurd front List.not_mem_nil
  match shape : table.order with
  | [] =>
      rw [shape, List.length_nil] at full
      omega
  | oldest :: order =>
      rw [full, Nat.add_sub_cancel_left, shape, List.cons_append, List.take_succ_cons,
        List.take_zero] at front
      rw [shape] at full
      exact ⟨full, congrArg some (List.mem_singleton.mp front).symm⟩

theorem Covered.insert (covered : table.Covered) : (table.insert capacity key value).Covered := by
  intro other has
  obtain ⟨remains, present⟩ := has_insert.mp has
  have listed : other ∈ table.order ++ [key] := by
    rcases present with same | before
    · exact List.mem_append_right _ (List.mem_singleton.mpr same)
    · exact List.mem_append_left _ (covered other before)
  rw [← List.take_append_drop ((table.order ++ [key]).length - capacity) (table.order ++ [key])]
    at listed
  rw [order_insert]
  exact (List.mem_append.mp listed).resolve_left remains

theorem Consistent.insert (consistent : table.Consistent) (fresh : key ∉ table.order) :
    (table.insert capacity key value).Consistent := by
  have listedOnce : (table.order ++ [key]).Nodup :=
    List.nodup_append.mpr ⟨consistent.nodup, List.nodup_singleton key,
      fun other member last isLast same => fresh (List.mem_singleton.mp isLast ▸ same ▸ member)⟩
  constructor
  · intro other
    refine ⟨consistent.covered.insert other, fun member => ?_⟩
    rw [order_insert] at member
    refine has_insert.mpr ⟨fun evicted => ?_, ?_⟩
    · exact List.disjoint_take_drop listedOnce (Nat.le_refl _) evicted member
    · rcases List.mem_append.mp (List.mem_of_mem_drop member) with before | last
      · exact .inr ((consistent.has_iff other).mpr before)
      · exact .inl (List.mem_singleton.mp last)
  · exact listedOnce.sublist order_insert_sublist

theorem Keyed.insert (keyed : table.Keyed keyOf) (named : keyOf value = key) :
    (table.insert capacity key value).Keyed keyOf := by
  intro other found entry
  rcases entries_of_entries_insert entry with ⟨rfl, rfl⟩ | ⟨-, before⟩
  · exact named
  · exact keyed other found before

/-- The entry that was just inserted is not evicted. -/
theorem entries_insert_self (positive : 0 < capacity) (fresh : key ∉ table.order) :
    (table.insert capacity key value).entries key = some value := by
  unfold insert
  rw [entries_evict, if_neg, Function.update_self]
  intro evicted
  rw [List.take_append_of_le_length (by rw [List.length_append, List.length_singleton]; omega)]
    at evicted
  exact fresh (List.mem_of_mem_take evicted)

end Insert

/-! ## The place of a key -/

/-- The key is listed, with at most `newer` keys after it. -/
def Within (table : OrderedTable Key Value) (key : Key) (newer : Nat) : Prop :=
  ∃ before after, table.order = before ++ key :: after ∧ after.length ≤ newer

section Place

variable {key other : Key} {value : Value} {capacity newer : Nat}

omit [DecidableEq Key] in
theorem Within.mem (within : table.Within key newer) : key ∈ table.order := by
  obtain ⟨before, after, order, -⟩ := within
  rw [order]
  exact List.mem_append_right _ List.mem_cons_self

theorem Within.modify {change : Value → Value} (within : table.Within key newer) :
    (table.modify other change).Within key newer := by
  unfold Within
  rw [order_modify]
  exact within

omit [DecidableEq Key] in
theorem Within.retain {keep : Key → Value → Bool} (within : table.Within key newer)
    (kept : (table.retain keep).Has key) : (table.retain keep).Within key newer := by
  obtain ⟨before, after, order, length⟩ := within
  let listed := fun key => ((table.entries key).filter (keep key)).isSome
  refine ⟨before.filter listed, after.filter listed, ?_,
    Nat.le_trans (List.length_filter_le _ _) length⟩
  have keptHere : listed key = true := kept
  change table.order.filter listed = _
  rw [order, List.filter_append, List.filter_cons_of_pos keptHere]

theorem within_insert_self (positive : 0 < capacity) :
    (table.insert capacity key value).Within key 0 := by
  refine ⟨_, [], order_insert.trans (List.drop_append_of_le_length ?_), Nat.le_refl 0⟩
  rw [List.length_append, List.length_singleton]
  omega

/-- An insertion puts one key after it, unless as many have already come. -/
theorem Within.insert (within : table.Within other newer) :
    (table.insert capacity key value).Within other (newer + 1) ∨ capacity ≤ newer + 1 := by
  obtain ⟨before, after, order, length⟩ := within
  have appended : table.order ++ [key] = before ++ (other :: (after ++ [key])) := by
    rw [order, List.append_assoc, List.cons_append]
  by_cases evicted : (table.order ++ [key]).length - capacity ≤ before.length
  · refine .inl ⟨before.drop ((table.order ++ [key]).length - capacity), after ++ [key], ?_, ?_⟩
    · rw [order_insert]
      rw [appended] at evicted ⊢
      exact List.drop_append_of_le_length evicted
    · rw [List.length_append, List.length_singleton]
      exact Nat.succ_le_succ length
  · refine .inr ?_
    rw [appended, List.length_append, List.length_cons, List.length_append,
      List.length_singleton] at evicted
    omega

end Place

/-! ## The order over time -/

/-- `later` is what is left of `earlier`, in the same order, followed by keys
that were `inserted` since. -/
def Follows (earlier later inserted : List Key) : Prop :=
  ∃ kept added, later = kept ++ added ∧ kept.Sublist earlier ∧ added.Sublist inserted

omit [DecidableEq Key] in
theorem follows_of_sublist {earlier later inserted : List Key}
    (sublist : later.Sublist (earlier ++ inserted)) : Follows earlier later inserted :=
  List.sublist_append_iff.mp sublist

/-- A list without repetition, restricted to the items of a part, is that part. -/
theorem filter_mem_of_sublist {kept items : List Key} (nodup : items.Nodup)
    (sublist : kept.Sublist items) : items.filter (· ∈ kept) = kept := by
  induction sublist with
  | slnil => rfl
  | @cons kept items item sublist inductionHypothesis =>
      have absent : item ∉ kept := fun member =>
        (List.nodup_cons.mp nodup).1 (sublist.subset member)
      rw [List.filter_cons_of_neg (by simpa using absent)]
      exact inductionHypothesis (List.nodup_cons.mp nodup).2
  | @cons_cons kept items item sublist inductionHypothesis =>
      have others : items.filter (· ∈ item :: kept) = items.filter (· ∈ kept) := by
        apply List.filter_congr
        intro other member
        have distinct : other ≠ item := by
          rintro rfl
          exact (List.nodup_cons.mp nodup).1 member
        simp [distinct]
      rw [List.filter_cons_of_pos (by simp), others,
        inductionHypothesis (List.nodup_cons.mp nodup).2]

/-- The keys that both lists have stand in the same order in both. -/
theorem Follows.sameOrder {earlier later inserted : List Key}
    (follows : Follows earlier later inserted) (nodup : (earlier ++ inserted).Nodup) :
    earlier.filter (· ∈ later) = later.filter (· ∈ earlier) := by
  obtain ⟨kept, added, rfl, isKept, isAdded⟩ := follows
  have new : ∀ key ∈ added, key ∉ earlier := fun key member before =>
    List.disjoint_of_nodup_append nodup before (isAdded.subset member)
  have fromEarlier : earlier.filter (· ∈ kept ++ added) = earlier.filter (· ∈ kept) := by
    apply List.filter_congr
    intro key before
    have notAdded : key ∉ added := fun member => new key member before
    simp [notAdded]
  have keptStay : kept.filter (· ∈ earlier) = kept :=
    List.filter_eq_self.mpr fun key member => decide_eq_true (isKept.subset member)
  have addedGo : added.filter (· ∈ earlier) = [] :=
    List.filter_eq_nil_iff.mpr fun key member => by simpa using new key member
  rw [fromEarlier, filter_mem_of_sublist nodup.of_append_left isKept, List.filter_append,
    keptStay, addedGo, List.append_nil]

end OrderedTable

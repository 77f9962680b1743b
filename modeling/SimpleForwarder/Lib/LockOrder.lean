import SimpleForwarder.Lib.Locking

/-!
Contract: what the order of the locks gives.

Owns: the ownership invariant of the machine of `Lib.Locking` (a lock is locked
exactly while one task holds it, and no two tasks hold the same) and freedom
from deadlock: the task that holds the lock of the highest rank can finish its
section alone, so all tasks can, one after the other.

Does not own: the data under the locks.
-/

namespace Locking

variable {Lock : Type} {Data : Lock → Type} {Local Event : Type}

namespace System

structure Owned (rank : Lock → Nat) (system : System Data Local) : Prop where
  ordered : ∀ task ∈ system.tasks, task.Ordered rank
  exclusive : ∀ {index other : Nat} {task holder : Task Data Local},
    system.tasks[index]? = some task → system.tasks[other]? = some holder → index ≠ other →
    ∀ lock ∈ task.held, lock ∉ holder.held
  locked_iff : ∀ lock, system.locked lock = true ↔ ∃ task ∈ system.tasks, lock ∈ task.held

/-- How a step changes one lock, for the task that takes it: not at all, or it
takes the free lock, or it releases it. -/
def LockChange (before after : Bool) (heldBefore heldAfter : Prop) : Prop :=
  (after = before ∧ (heldAfter ↔ heldBefore)) ∨
    (before = false ∧ after = true ∧ heldAfter) ∨
    (after = false ∧ heldBefore ∧ ¬heldAfter)

/-- A task other than the `index`-th holds the lock. -/
def HeldElsewhere (tasks : List (Task Data Local)) (index : Nat) (lock : Lock) : Prop :=
  ∃ other holder, index ≠ other ∧ tasks[other]? = some holder ∧ lock ∈ holder.held

theorem held_iff {tasks : List (Task Data Local)} {index : Nat} {task : Task Data Local}
    (found : tasks[index]? = some task) (lock : Lock) :
    (∃ holder ∈ tasks, lock ∈ holder.held) ↔ lock ∈ task.held ∨ HeldElsewhere tasks index lock := by
  constructor
  · rintro ⟨holder, mem, holds⟩
    obtain ⟨other, foundHolder⟩ := List.getElem?_of_mem mem
    by_cases same : index = other
    · subst same
      obtain rfl : task = holder := Option.some.inj (found.symm.trans foundHolder)
      exact .inl holds
    · exact .inr ⟨other, holder, same, foundHolder, holds⟩
  · rintro (holds | ⟨other, holder, -, foundHolder, holds⟩)
    · exact ⟨task, List.mem_of_getElem? found, holds⟩
    · exact ⟨holder, List.mem_of_getElem? foundHolder, holds⟩

theorem heldElsewhere_set {tasks : List (Task Data Local)} {index : Nat}
    {next : Task Data Local} {lock : Lock} :
    HeldElsewhere (tasks.set index next) index lock ↔ HeldElsewhere tasks index lock := by
  unfold HeldElsewhere
  constructor
  · rintro ⟨other, holder, distinct, found, holds⟩
    rw [List.getElem?_set_ne distinct] at found
    exact ⟨other, holder, distinct, found, holds⟩
  · rintro ⟨other, holder, distinct, found, holds⟩
    refine ⟨other, holder, distinct, ?_, holds⟩
    rwa [List.getElem?_set_ne distinct]

variable {rank : Lock → Nat} {system after : System Data Local} {index : Nat}
  {task next : Task Data Local} {lock : Lock}

theorem owned_start (store : Store Data) : (start store : System Data Local).Owned rank where
  ordered task mem := absurd mem List.not_mem_nil
  exclusive {index} _ _ _ found := by
    simp [start] at found
  locked_iff lock := by simp [start]

namespace Owned

theorem free (owned : system.Owned rank) (isFree : system.locked lock = false)
    (mem : task ∈ system.tasks) : lock ∉ task.held := by
  intro holds
  have locked := (owned.locked_iff lock).mpr ⟨task, mem, holds⟩
  rw [isFree] at locked
  cases locked

theorem not_heldElsewhere (owned : system.Owned rank) (found : system.tasks[index]? = some task)
    (holds : lock ∈ task.held) : ¬HeldElsewhere system.tasks index lock := by
  rintro ⟨other, holder, distinct, foundHolder, holdsToo⟩
  exact owned.exclusive found foundHolder distinct lock holds holdsToo

/-- What a task holds after a step it held before, or nobody did. -/
theorem unshared (owned : system.Owned rank) (found : system.tasks[index]? = some task)
    (change : LockChange (system.locked lock) (after.locked lock) (lock ∈ task.held)
      (lock ∈ next.held))
    (holds : lock ∈ next.held) : ¬HeldElsewhere system.tasks index lock := by
  rcases change with ⟨-, same⟩ | ⟨isFree, -⟩ | ⟨-, -, released⟩
  · exact owned.not_heldElsewhere found (same.mp holds)
  · rintro ⟨other, holder, -, foundHolder, holdsToo⟩
    exact owned.free isFree (List.mem_of_getElem? foundHolder) holdsToo
  · exact absurd holds released

/-- A step of one task keeps the ownership if it changes each lock in one of the
three ways. -/
theorem replace (owned : system.Owned rank) (found : system.tasks[index]? = some task)
    (next : Task Data Local) (ordered : next.Ordered rank)
    (tasks : after.tasks = system.tasks.set index next)
    (changes : ∀ lock, LockChange (system.locked lock) (after.locked lock) (lock ∈ task.held)
      (lock ∈ next.held)) :
    after.Owned rank := by
  have foundNext : after.tasks[index]? = some next := by
    rw [tasks, List.getElem?_set_self (List.getElem?_eq_some_iff.mp found).1]
  have foundOther : ∀ {other holder}, index ≠ other → after.tasks[other]? = some holder →
      system.tasks[other]? = some holder := by
    intro other holder distinct foundHolder
    rwa [tasks, List.getElem?_set_ne distinct] at foundHolder
  have unshared : ∀ {other holder}, index ≠ other → after.tasks[other]? = some holder →
      ∀ lock ∈ next.held, lock ∉ holder.held := by
    intro other holder distinct foundHolder lock holds holdsToo
    exact owned.unshared found (changes lock) holds
      ⟨other, holder, distinct, foundOther distinct foundHolder, holdsToo⟩
  refine ⟨?_, ?_, ?_⟩
  · intro other mem
    rw [tasks] at mem
    rcases List.mem_or_eq_of_mem_set mem with old | rfl
    · exact owned.ordered other old
    · exact ordered
  · intro first second task holder foundFirst foundSecond distinct lock holds
    by_cases isFirst : index = first
    · subst isFirst
      obtain rfl : next = task := Option.some.inj (foundNext.symm.trans foundFirst)
      exact unshared distinct foundSecond lock holds
    · by_cases isSecond : index = second
      · subst isSecond
        obtain rfl : next = holder := Option.some.inj (foundNext.symm.trans foundSecond)
        exact fun holdsToo => unshared (Ne.symm distinct) foundFirst lock holdsToo holds
      · exact owned.exclusive (foundOther isFirst foundFirst) (foundOther isSecond foundSecond)
          distinct lock holds
  · intro lock
    have wasLocked := (owned.locked_iff lock).trans (held_iff found lock)
    rw [held_iff foundNext, tasks, heldElsewhere_set]
    rcases changes lock with ⟨same, sameHeld⟩ | ⟨-, isLocked, holds⟩ | ⟨released, held, gone⟩
    · rw [same, wasLocked, sameHeld]
    · simp only [isLocked, holds, true_or]
    · simp only [released, gone, owned.not_heldElsewhere found held, Bool.false_eq_true, or_self]

theorem append_outside (owned : system.Owned rank) (state : Local) :
    Owned rank { system with tasks := system.tasks ++ [.outside state] } := by
  have old : ∀ {index : Nat} {task : Task Data Local},
      (system.tasks ++ [.outside state])[index]? = some task → task.held ≠ [] →
        system.tasks[index]? = some task := by
    intro index task found holds
    rw [List.getElem?_append] at found
    split at found
    · exact found
    · have isNew := List.mem_singleton.mp (List.mem_of_getElem? found)
      exact absurd (by rw [isNew]; rfl) holds
  refine ⟨?_, ?_, ?_⟩
  · intro task mem
    rcases List.mem_append.mp mem with mem | mem
    · exact owned.ordered task mem
    · rw [List.mem_singleton.mp mem]
      trivial
  · intro index other task holder found foundHolder distinct lock holds holdsToo
    exact owned.exclusive (old found (List.ne_nil_of_mem holds))
      (old foundHolder (List.ne_nil_of_mem holdsToo)) distinct lock holds holdsToo
  · intro lock
    rw [owned.locked_iff]
    simp [Task.held, or_and_right, exists_or]

variable [DecidableEq Lock]

theorem proceeds (owned : system.Owned rank) (found : system.tasks[index]? = some task)
    (proceeds : system.Proceeds index task after) : after.Owned rank := by
  have ordered := owned.ordered task (List.mem_of_getElem? found)
  cases proceeds with
  | @acquire entered held lock rest free =>
      refine owned.replace found (.inside entered (lock :: held) rest) ordered.2 rfl fun other => ?_
      by_cases same : other = lock
      · subst same
        exact .inr (.inl ⟨free, by simp [withLock], by simp [Task.held]⟩)
      · exact .inl ⟨by simp [withLock, update, same], by simp [Task.held, same]⟩
  | @read entered held lock rest =>
      exact owned.replace found (.inside entered held (rest (system.store lock))) (ordered.2 _) rfl
        fun _ => .inl ⟨rfl, Iff.rfl⟩
  | @modify entered held _ _ rest =>
      exact owned.replace found (.inside entered held rest) ordered.2 rfl
        fun _ => .inl ⟨rfl, Iff.rfl⟩
  | @clock entered held rest =>
      exact owned.replace found (.inside entered held (rest system.now)) (ordered _) rfl
        fun _ => .inl ⟨rfl, Iff.rfl⟩
  | @commit entered next held locks =>
      exact owned.replace found (.leaving locks next) ordered.1 rfl
        fun lock => .inl ⟨rfl, ordered.2 lock⟩
  | @release lock locks next =>
      have distinct := List.nodup_cons.mp ordered
      refine owned.replace found (.leaving locks next) distinct.2 rfl fun other => ?_
      by_cases same : other = lock
      · subst same
        exact .inr (.inr ⟨by simp [withLock], by simp [Task.held], distinct.1⟩)
      · exact .inl ⟨by simp [withLock, update, same], by simp [Task.held, same]⟩
  | @leave next =>
      exact owned.replace found (.outside next) trivial rfl fun _ => .inl ⟨rfl, Iff.rfl⟩

theorem move {program : Program Data Local Event} {action : Action Local Event}
    (owned : system.Owned program.rank) (move : Move program system action after) :
    after.Owned program.rank := by
  cases move with
  | tick duration => exact ⟨owned.ordered, owned.exclusive, owned.locked_iff⟩
  | spawn state => exact owned.append_outside state
  | @advance index state next event found advanced =>
      exact owned.replace found (.outside next) trivial rfl fun _ => .inl ⟨rfl, Iff.rfl⟩
  | @enter index state code found entered =>
      exact owned.replace found (.inside state [] code) (program.ordered entered) rfl
        fun _ => .inl ⟨rfl, Iff.rfl⟩
  | proceed found proceeds => exact owned.proceeds found proceeds

end Owned

/-- Every lock that another task holds has at most the rank of a lock of the
`index`-th task, which holds `held`. -/
def Dominates (rank : Lock → Nat) (tasks : List (Task Data Local)) (index : Nat)
    (held : List Lock) : Prop :=
  ∀ lock, HeldElsewhere tasks index lock → ∃ own ∈ held, rank lock ≤ rank own

/-- Of the tasks in a section, one has locks above all others. -/
theorem exists_dominating (rank : Lock → Nat) {tasks : List (Task Data Local)}
    (busy : task ∈ tasks) (isBusy : task.isOutside = false) :
    ∃ index holder, tasks[index]? = some holder ∧ holder.isOutside = false ∧
      Dominates rank tasks index holder.held := by
  by_cases nothing : tasks.flatMap Task.held = []
  · obtain ⟨index, found⟩ := List.getElem?_of_mem busy
    refine ⟨index, task, found, isBusy, ?_⟩
    rintro lock ⟨other, holder, -, foundHolder, holds⟩
    have mem := List.mem_flatMap.mpr ⟨holder, List.mem_of_getElem? foundHolder, holds⟩
    rw [nothing] at mem
    exact absurd mem List.not_mem_nil
  · obtain ⟨highest, isHighest⟩ : ∃ highest, (tasks.flatMap Task.held).argmax rank = some highest :=
      Option.ne_none_iff_exists'.mp (mt List.argmax_eq_none.mp nothing)
    have mem := List.argmax_mem isHighest
    obtain ⟨holder, memHolder, holds⟩ := List.mem_flatMap.mp mem
    obtain ⟨index, found⟩ := List.getElem?_of_mem memHolder
    refine ⟨index, holder, found, ?_, ?_⟩
    · cases holder with
      | outside state => exact absurd holds List.not_mem_nil
      | inside _ _ _ => rfl
      | leaving _ _ => rfl
    · rintro lock ⟨other, third, -, foundThird, holdsThird⟩
      have memThird : lock ∈ tasks.flatMap Task.held :=
        List.mem_flatMap.mpr ⟨third, List.mem_of_getElem? foundThird, holdsThird⟩
      exact ⟨highest, holds, List.le_of_mem_argmax memThird isHighest⟩

variable [DecidableEq Lock] {program : Program Data Local Event}

theorem owned_of_run {store : Store Data} {actions : List (Action Local Event)}
    (reached : Machine.run (step program) (start store) actions = some system) :
    system.Owned program.rank :=
  Machine.run_invariant (Owned program.rank) (owned_start store)
    (fun _ _ _ owned stepped => owned.move (move_of_step stepped)) reached

/-! ## Freedom from deadlock -/

/-- The task in a section runs on alone until it has left the section. -/
def Finishes (program : Program Data Local Event) (system : System Data Local) (index : Nat) :
    Prop :=
  ∃ steps next after,
    Machine.run (step program) system (List.replicate steps (.proceed index)) = some after ∧
      after.tasks = system.tasks.set index (.outside next)

theorem finishes_of_proceed (found : system.tasks[index]? = some task)
    (next : Task Data Local) (proceeded : system.proceed index task = some after)
    (tasks : after.tasks = system.tasks.set index next)
    (finishes : Finishes program after index) : Finishes program system index := by
  obtain ⟨steps, last, final, reached, left⟩ := finishes
  refine ⟨steps + 1, last, final, ?_, ?_⟩
  · have stepped : step program system (.proceed index) = some after := by
      simp only [step, found, Option.bind_some, proceeded]
    rw [List.replicate_succ, Machine.run_cons_of_step stepped, reached]
  · rw [left, tasks, List.set_set]

theorem finishes_leaving (locks : List Lock) (last : Local)
    (found : system.tasks[index]? = some (.leaving locks last)) :
    Finishes program system index := by
  have inBounds := (List.getElem?_eq_some_iff.mp found).1
  induction locks generalizing system with
  | nil =>
      have stepped : step program system (.proceed index) =
          some (system.update index (.outside last)) := by
        simp only [step, found, Option.bind_some, proceed]
      exact ⟨1, last, _, Machine.run_cons_of_step stepped [], rfl⟩
  | cons lock locks inductionHypothesis =>
      refine finishes_of_proceed found (.leaving locks last) rfl rfl ?_
      exact inductionHypothesis (by simp [withLock, update, inBounds])
        (by simpa [withLock, update] using inBounds)

/-- A task whose locks are above all others never waits. -/
theorem finishes_inside (code : Section Data Local) {entered : Local} {held : List Lock}
    (owned : system.Owned program.rank)
    (found : system.tasks[index]? = some (.inside entered held code))
    (dominates : Dominates program.rank system.tasks index held) :
    Finishes program system index := by
  have inBounds := (List.getElem?_eq_some_iff.mp found).1
  have ordered := owned.ordered _ (List.mem_of_getElem? found)
  induction code generalizing system held with
  | acquire lock rest inductionHypothesis =>
      have free : system.locked lock = false := by
        apply Bool.eq_false_of_not_eq_true
        intro locked
        -- a held lock has at most the rank of an own lock, the new one has more
        rcases (held_iff found lock).mp ((owned.locked_iff lock).mp locked) with own | elsewhere
        · exact absurd (ordered.1 lock own) (Nat.lt_irrefl _)
        · obtain ⟨own, mem, le⟩ := dominates lock elsewhere
          exact absurd (ordered.1 own mem) (Nat.not_lt.mpr le)
      have proceeded : system.proceed index (.inside entered held (.acquire lock rest)) =
          some
            ((system.update index (.inside entered (lock :: held) rest)).withLock lock true) := by
        simp [proceed, free]
      refine finishes_of_proceed found (.inside entered (lock :: held) rest) proceeded rfl ?_
      refine inductionHypothesis (owned.proceeds found (.acquire free))
        (by simp [withLock, update, inBounds]) ?_ (by simpa [withLock, update] using inBounds)
        ordered.2
      intro other elsewhere
      obtain ⟨own, mem, le⟩ := dominates other (heldElsewhere_set.mp elsewhere)
      exact ⟨own, List.mem_cons_of_mem lock mem, le⟩
  | read lock rest inductionHypothesis =>
      refine finishes_of_proceed found (.inside entered held (rest (system.store lock))) rfl rfl ?_
      exact inductionHypothesis (system.store lock) (owned.proceeds found .read)
        (by simp [update, inBounds])
        (fun other elsewhere => dominates other (heldElsewhere_set.mp elsewhere))
        (by simpa [update] using inBounds) (ordered.2 _)
  | modify lock change rest inductionHypothesis =>
      refine finishes_of_proceed found (.inside entered held rest) rfl rfl ?_
      exact inductionHypothesis (owned.proceeds found .modify) (by simp [update, inBounds])
        (fun other elsewhere => dominates other (heldElsewhere_set.mp elsewhere))
        (by simpa [update] using inBounds) ordered.2
  | clock rest inductionHypothesis =>
      refine finishes_of_proceed found (.inside entered held (rest system.now)) rfl rfl ?_
      exact inductionHypothesis system.now (owned.proceeds found .clock)
        (by simp [update, inBounds])
        (fun other elsewhere => dominates other (heldElsewhere_set.mp elsewhere))
        (by simpa [update] using inBounds) (ordered _)
  | release locks last =>
      refine finishes_of_proceed found (.leaving locks last) rfl rfl ?_
      exact finishes_leaving locks last (by simp [update, inBounds])

theorem finishes_of_dominates (owned : system.Owned program.rank)
    (found : system.tasks[index]? = some task) (busy : task.isOutside = false)
    (dominates : Dominates program.rank system.tasks index task.held) :
    Finishes program system index := by
  cases task with
  | outside state => cases busy
  | inside entered held code => exact finishes_inside code owned found dominates
  | leaving locks last => exact finishes_leaving locks last found

/-- The tasks in a section can run on until none is left. -/
theorem drains (owned : system.Owned program.rank) :
    ∃ (turns : List Nat) (after : System Data Local),
      Machine.run (step program) system (turns.map .proceed) = some after ∧
      ∀ task ∈ after.tasks, task.isOutside = true := by
  induction busy : system.tasks.countP (fun task => !task.isOutside) generalizing system with
  | zero =>
      refine ⟨[], system, rfl, fun task mem => ?_⟩
      simpa using List.countP_eq_zero.mp busy task mem
  | succ count inductionHypothesis =>
      have some : 0 < system.tasks.countP (fun task => !task.isOutside) := by omega
      obtain ⟨task, mem, isBusy⟩ := List.countP_pos_iff.mp some
      obtain ⟨index, holder, found, holderBusy, dominates⟩ :=
        exists_dominating program.rank mem (by simpa using isBusy)
      obtain ⟨steps, next, middle, reached, tasks⟩ :=
        finishes_of_dominates owned found holderBusy dominates
      have ownedMiddle : middle.Owned program.rank :=
        Machine.run_invariant (Owned program.rank) owned
          (fun _ _ _ owned stepped => owned.move (move_of_step stepped)) reached
      have fewer : middle.tasks.countP (fun task => !task.isOutside) = count := by
        obtain ⟨inBounds, isHolder⟩ := List.getElem?_eq_some_iff.mp found
        rw [tasks, List.countP_set inBounds, busy, isHolder, holderBusy]
        simp [Task.isOutside]
      obtain ⟨turns, after, further, quiet⟩ := inductionHypothesis ownedMiddle fewer
      refine ⟨List.replicate steps index ++ turns, after, ?_, quiet⟩
      rw [List.map_append, List.map_replicate]
      exact Machine.run_append_eq_some.mpr ⟨middle, reached, further⟩

end System

end Locking

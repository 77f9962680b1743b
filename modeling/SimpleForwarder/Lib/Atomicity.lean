import SimpleForwarder.Lib.LockOrder

/-!
Contract: sections under locks are atomic.

Owns: the machine that runs whole sections one at a time, the relation between
it and the machine of single steps (`Lib.Locking`), and the simulation of every
run of the second by the first. A section takes effect when it has done its last
work on the data, before it releases its first lock.

A section may read the clock more than once. `reads now reading` says which
readings count as readings at the time `now` a section takes effect: all earlier
ones, for any run; or only `now`, for a run in which no time passes in sections.

Does not own: the order of the locks, which atomicity does not need.
-/

namespace Locking

variable {Lock : Type} {Data : Lock → Type} {Local Event : Type} [DecidableEq Lock]

/-! ## Whole sections -/

structure Atomic (Data : Lock → Type) (Local : Type) where
  states : List Local
  store : Store Data
  now : Nat

namespace Atomic

def start (store : Store Data) : Atomic Data Local where
  states := []
  store := store
  now := 0

inductive Step (reads : Nat → Nat → Prop) (program : Program Data Local Event)
    (atomic : Atomic Data Local) : Atomic Data Local → Prop where
  | tick (duration : Nat) : Step reads program atomic { atomic with now := atomic.now + duration }
  | spawn (state : Local) :
      Step reads program atomic { atomic with states := atomic.states ++ [state] }
  | advance {index : Nat} {state next : Local} {event : Event}
      (found : atomic.states[index]? = some state)
      (advanced : program.advance atomic.now state event = some next) :
      Step reads program atomic { atomic with states := atomic.states.set index next }
  | call {index : Nat} {state next : Local} {code : Section Data Local} {after : Store Data}
      (found : atomic.states[index]? = some state) (entered : program.enter state = some code)
      (does : code.Does (reads atomic.now) atomic.store next after) :
      Step reads program atomic
        { atomic with states := atomic.states.set index next, store := after }

/-- Some order of calls leads from one state to the other. -/
def Reaches (reads : Nat → Nat → Prop) (program : Program Data Local Event) :
    Atomic Data Local → Atomic Data Local → Prop :=
  Relation.ReflTransGen (Step reads program)

end Atomic

/-! ## The relation between the machines -/

/-- The store with the data of the locks held, and the base for all others. -/
def overlay (held : List Lock) (store base : Store Data) : Store Data :=
  fun lock => if lock ∈ held then store lock else base lock

@[simp] theorem overlay_nil (store base : Store Data) : overlay [] store base = base := by
  funext lock
  simp [overlay]

theorem overlay_of_mem {held : List Lock} {store base : Store Data} {lock : Lock}
    (mem : lock ∈ held) : overlay held store base lock = store lock := if_pos mem

theorem overlay_of_not_mem {held : List Lock} {store base : Store Data} {lock : Lock}
    (notMem : lock ∉ held) : overlay held store base lock = base lock := if_neg notMem

theorem overlay_congr {held : List Lock} {store other base : Store Data}
    (same : ∀ lock ∈ held, store lock = other lock) :
    overlay held store base = overlay held other base := by
  funext lock
  by_cases mem : lock ∈ held
  · rw [overlay_of_mem mem, overlay_of_mem mem, same lock mem]
  · rw [overlay_of_not_mem mem, overlay_of_not_mem mem]

theorem overlay_cons {held : List Lock} {store base : Store Data} {lock : Lock}
    (same : base lock = store lock) :
    overlay (lock :: held) store base = overlay held store base := by
  funext other
  by_cases mem : other ∈ held
  · rw [overlay_of_mem mem, overlay_of_mem (List.mem_cons_of_mem lock mem)]
  · rw [overlay_of_not_mem mem]
    by_cases isLock : other = lock
    · subst isLock
      rw [overlay_of_mem List.mem_cons_self, same]
    · exact overlay_of_not_mem (by simp [isLock, mem])

theorem overlay_update {held : List Lock} {store base : Store Data} {lock : Lock}
    (mem : lock ∈ held) (value : Data lock) :
    overlay held (Function.update store lock value) base =
      Function.update (overlay held store base) lock value := by
  funext other
  by_cases isLock : other = lock
  · subst isLock
    rw [overlay_of_mem mem, Function.update_self, Function.update_self]
  · rw [Function.update_of_ne isLock]
    unfold overlay
    rw [Function.update_of_ne isLock]

namespace Task

/-- The locks under which the task has work that has not taken effect. -/
def pending : Task Data Local → List Lock
  | .inside _ held _ => held
  | .outside _ | .leaving _ _ => []

omit [DecidableEq Lock] in
theorem held_of_pending {task : Task Data Local} {lock : Lock} (mem : lock ∈ task.pending) :
    lock ∈ task.held := by
  cases task with
  | outside state => exact absurd mem List.not_mem_nil
  | inside entered held code => exact mem
  | leaving locks next => exact absurd mem List.not_mem_nil

def isInside : Task Data Local → Bool
  | .inside _ _ _ => true
  | .outside _ | .leaving _ _ => false

/-- For the machine of whole sections, a task in a section has not begun it, or
has done it. What is left of a section that has not taken effect does to the
data what the whole section does to the data that has been committed. -/
def Matches (reads : Nat → Nat → Prop) (program : Program Data Local Event) (now : Nat)
    (store committed : Store Data) : Task Data Local → Local → Prop
  | .outside state, atomic => atomic = state
  | .leaving _ next, atomic => atomic = next
  | .inside entered held code, atomic =>
      atomic = entered ∧ ∃ whole, program.enter entered = some whole ∧
        ∀ later, (∀ reading, reads now reading → reads later reading) →
          ∀ base, (∀ lock ∈ held, base lock = committed lock) →
            ∀ next after, code.Does (reads later) (overlay held store base) next after →
              whole.Does (reads later) base next after

variable {reads : Nat → Nat → Prop} {program : Program Data Local Event} {now : Nat}
  {store committed : Store Data}
  {task : Task Data Local} {state : Local}

/-- A task does not see changes of data whose locks it does not hold. -/
theorem Matches.frame (isMatch : task.Matches reads program now store committed state)
    {later : Nat} {storeAfter committedAfter : Store Data}
    (passes : task.isInside = true → ∀ reading, reads now reading → reads later reading)
    (sameStore : ∀ lock ∈ task.held, storeAfter lock = store lock)
    (sameCommitted : ∀ lock ∈ task.held, committedAfter lock = committed lock) :
    task.Matches reads program later storeAfter committedAfter state := by
  cases task with
  | outside other => exact isMatch
  | leaving locks next => exact isMatch
  | inside entered held code =>
      obtain ⟨isEntered, whole, enters, does⟩ := isMatch
      refine ⟨isEntered, whole, enters, fun moment allowed base agrees next after rest => ?_⟩
      have sameOverlay : overlay held storeAfter base = overlay held store base :=
        overlay_congr sameStore
      refine does moment (fun reading old => allowed reading (passes rfl reading old)) base ?_ next
        after (sameOverlay ▸ rest)
      intro lock mem
      rw [agrees lock mem]
      exact sameCommitted lock mem

end Task

namespace System

structure Simulates (reads : Nat → Nat → Prop) (program : Program Data Local Event)
    (system : System Data Local) (atomic : Atomic Data Local) : Prop where
  now : atomic.now = system.now
  length : atomic.states.length = system.tasks.length
  tasks : ∀ {index : Nat} {task : Task Data Local} {state : Local},
    system.tasks[index]? = some task → atomic.states[index]? = some state →
      task.Matches reads program system.now system.store atomic.store state
  committed : ∀ lock, (∀ task ∈ system.tasks, lock ∉ task.pending) →
    system.store lock = atomic.store lock

/-- Time passes only when no task is in a section, or what could be read before
can still count as read. -/
def TimePasses (reads : Nat → Nat → Prop) (system : System Data Local) :
    Action Local Event → Prop
  | .tick duration =>
      (∀ task ∈ system.tasks, task.isInside = false) ∨
        ∀ reading, reads system.now reading → reads (system.now + duration) reading
  | .spawn _ | .advance _ _ | .enter _ | .proceed _ => True

variable {reads : Nat → Nat → Prop} {program : Program Data Local Event}
  {system after : System Data Local}
  {atomic : Atomic Data Local} {index : Nat} {task : Task Data Local} {state : Local}

theorem simulates_start (store : Store Data) :
    Simulates reads program (start store) (.start store) where
  now := rfl
  length := rfl
  tasks found _ := by simp [start] at found
  committed _ _ := rfl

namespace Simulates

theorem stateOf (simulates : Simulates reads program system atomic)
    (found : system.tasks[index]? = some task) :
    ∃ state, atomic.states[index]? = some state ∧
      task.Matches reads program system.now system.store atomic.store state := by
  have inBounds := (List.getElem?_eq_some_iff.mp found).1
  rw [← simulates.length] at inBounds
  exact ⟨_, List.getElem?_eq_getElem inBounds,
    simulates.tasks found (List.getElem?_eq_getElem inBounds)⟩

/-- A step of one task, which may change the data of the locks that no other
task holds. -/
theorem replace (simulates : Simulates reads program system atomic)
    (found : system.tasks[index]? = some task) (next : Task Data Local)
    (after : System Data Local) (tasks : after.tasks = system.tasks.set index next)
    (now : after.now = system.now)
    (stateAfter : Local) (committed : Store Data)
    (isMatch : next.Matches reads program system.now after.store committed stateAfter)
    (frame : ∀ lock, HeldElsewhere system.tasks index lock →
      after.store lock = system.store lock ∧ committed lock = atomic.store lock)
    (commits : ∀ lock, lock ∉ next.pending →
      (lock ∉ task.pending → system.store lock = atomic.store lock) →
        after.store lock = committed lock) :
    Simulates reads program after
      ⟨atomic.states.set index stateAfter, committed, atomic.now⟩ := by
  have inBounds := (List.getElem?_eq_some_iff.mp found).1
  refine ⟨simulates.now.trans now.symm, by simp [tasks, simulates.length], ?_, ?_⟩
  · intro other holder state foundOther foundState
    rw [tasks] at foundOther
    rw [now]
    by_cases same : index = other
    · subst same
      rw [List.getElem?_set_self inBounds] at foundOther
      rw [List.getElem?_set_self (simulates.length ▸ inBounds)] at foundState
      rw [← Option.some.inj foundOther, ← Option.some.inj foundState]
      exact isMatch
    · rw [List.getElem?_set_ne same] at foundOther foundState
      refine (simulates.tasks foundOther foundState).frame (fun _ _ old => old) ?_ ?_
      · exact fun lock holds => (frame lock ⟨other, holder, same, foundOther, holds⟩).1
      · exact fun lock holds => (frame lock ⟨other, holder, same, foundOther, holds⟩).2
  · intro lock nobody
    have foundNext : after.tasks[index]? = some next := by
      rw [tasks, List.getElem?_set_self inBounds]
    refine commits lock (nobody next (List.mem_of_getElem? foundNext)) fun notPending => ?_
    refine simulates.committed lock fun other mem => ?_
    obtain ⟨place, foundOther⟩ := List.getElem?_of_mem mem
    by_cases same : index = place
    · subst same
      rwa [← Option.some.inj (found.symm.trans foundOther)]
    · refine nobody other (List.mem_of_getElem? (i := place) ?_)
      rwa [tasks, List.getElem?_set_ne same]

/-- A step that neither touches data nor takes effect. -/
theorem silent (simulates : Simulates reads program system atomic)
    (found : system.tasks[index]? = some task) (next : Task Data Local)
    (tasks : after.tasks = system.tasks.set index next) (now : after.now = system.now)
    (store : after.store = system.store) (pending : ∀ lock ∈ task.pending, lock ∈ next.pending)
    (isMatch : ∀ state, task.Matches reads program system.now system.store atomic.store state →
      next.Matches reads program system.now system.store atomic.store state) :
    Simulates reads program after atomic := by
  obtain ⟨state, foundState, isMatchBefore⟩ := simulates.stateOf found
  have unchanged : atomic.states.set index state = atomic.states := by
    obtain ⟨inBounds, same⟩ := List.getElem?_eq_some_iff.mp foundState
    rw [← same, List.set_getElem_self]
  have replaced :=
    simulates.replace found next after tasks now state atomic.store
      (store ▸ isMatch state isMatchBefore)
    (fun lock _ => ⟨congrFun store lock, rfl⟩)
    (fun lock notPending commits => (congrFun store lock).trans
      (commits fun mem => notPending (pending lock mem)))
  rwa [unchanged] at replaced

theorem append_outside (simulates : Simulates reads program system atomic) (state : Local) :
    Simulates reads program { system with tasks := system.tasks ++ [.outside state] }
      { atomic with states := atomic.states ++ [state] } where
  now := simulates.now
  length := by simp [simulates.length]
  tasks {index task other} found foundState := by
    rw [List.getElem?_append] at found foundState
    rw [simulates.length] at foundState
    split at found
    next old =>
      rw [if_pos old] at foundState
      exact simulates.tasks found foundState
    next new =>
      rw [if_neg new] at foundState
      rw [List.mem_singleton.mp (List.mem_of_getElem? found),
        List.mem_singleton.mp (List.mem_of_getElem? foundState)]
      rfl
  committed lock nobody :=
    simulates.committed lock fun task mem => nobody task (List.mem_append_left _ mem)

theorem unlocked {rank : Lock → Nat} (simulates : Simulates reads program system atomic)
    (owned : system.Owned rank) {lock : Lock} (isFree : system.locked lock = false) :
    system.store lock = atomic.store lock :=
  simulates.committed lock fun _ mem pending => owned.free isFree mem (Task.held_of_pending pending)

/-- A step of a task in its section. -/
theorem proceeds {rank : Lock → Nat} (present : ∀ now, reads now now)
    (simulates : Simulates reads program system atomic)
    (owned : system.Owned rank) (found : system.tasks[index]? = some task)
    (proceeds : system.Proceeds index task after) :
    ∃ next, Atomic.Reaches reads program atomic next ∧ Simulates reads program after next := by
  have ordered := owned.ordered task (List.mem_of_getElem? found)
  cases proceeds with
  | @acquire entered held lock rest free =>
      -- a free lock has its committed data
      have same : system.store lock = atomic.store lock :=
        simulates.unlocked owned free
      refine ⟨atomic, .refl,
        simulates.silent found (.inside entered (lock :: held) rest) rfl rfl rfl
        (fun _ mem => List.mem_cons_of_mem lock mem) ?_⟩
      rintro state ⟨isEntered, whole, enters, does⟩
      refine ⟨isEntered, whole, enters, fun later allowed base agrees next last rest => ?_⟩
      have agreesLock : base lock = system.store lock :=
        (agrees lock List.mem_cons_self).trans same.symm
      rw [overlay_cons agreesLock] at rest
      exact does later allowed base (fun other mem => agrees other (List.mem_cons_of_mem lock mem))
        next last (.acquire rest)
  | @read entered held lock rest =>
      refine ⟨atomic, .refl, simulates.silent found
        (.inside entered held (rest (system.store lock))) rfl rfl rfl (fun _ mem => mem) ?_⟩
      rintro state ⟨isEntered, whole, enters, does⟩
      refine ⟨isEntered, whole, enters, fun later allowed base agrees next last remaining => ?_⟩
      refine does later allowed base agrees next last (.read ?_)
      rwa [overlay_of_mem ordered.1]
  | @modify entered held lock change rest =>
      obtain ⟨state, foundState, isEntered, whole, enters, does⟩ := simulates.stateOf found
      have others : ∀ {other : Lock}, HeldElsewhere system.tasks index other → other ≠ lock :=
        fun elsewhere same => owned.not_heldElsewhere found (same ▸ ordered.1) elsewhere
      have unchanged : atomic.states.set index state = atomic.states := by
        obtain ⟨inBounds, same⟩ := List.getElem?_eq_some_iff.mp foundState
        rw [← same, List.set_getElem_self]
      have replaced := simulates.replace found (.inside entered held rest)
        { system.update index (.inside entered held rest) with
          store := Function.update system.store lock (change (system.store lock)) }
        rfl rfl state atomic.store ?_
        (fun other elsewhere => ⟨Function.update_of_ne (others elsewhere) _ _, rfl⟩) ?_
      · rw [unchanged] at replaced
        exact ⟨atomic, .refl, replaced⟩
      · refine ⟨isEntered, whole, enters, fun later allowed base agrees next last remaining => ?_⟩
        refine does later allowed base agrees next last (.modify ?_)
        rw [overlay_of_mem ordered.1, ← overlay_update ordered.1]
        exact remaining
      · intro other notPending committed
        have distinct : other ≠ lock := fun same => notPending (same ▸ ordered.1)
        exact (Function.update_of_ne distinct _ _).trans (committed notPending)
  | @clock entered held rest =>
      refine ⟨atomic, .refl, simulates.silent found (.inside entered held (rest system.now)) rfl rfl
        rfl (fun _ mem => mem) ?_⟩
      rintro state ⟨isEntered, whole, enters, does⟩
      refine ⟨isEntered, whole, enters, fun later allowed base agrees next last remaining => ?_⟩
      exact does later allowed base agrees next last
        (.clock (allowed _ (present system.now)) remaining)
  | @commit entered next held locks =>
      obtain ⟨state, foundState, isEntered, whole, enters, does⟩ := simulates.stateOf found
      have call : whole.Does (reads atomic.now) atomic.store next
          (overlay held system.store atomic.store) :=
        simulates.now ▸ does system.now (fun _ old => old) atomic.store (fun _ _ => rfl) next _
          .release
      refine ⟨_, .single (.call foundState (isEntered ▸ enters) call), ?_⟩
      refine simulates.replace found (.leaving locks next)
        (system.update index (.leaving locks next)) rfl rfl next _ rfl ?_ ?_
      · intro lock elsewhere
        exact ⟨rfl, overlay_of_not_mem fun mem => owned.not_heldElsewhere found mem elsewhere⟩
      · intro lock _ committed
        by_cases mem : lock ∈ held
        · exact (overlay_of_mem mem).symm
        · exact (committed mem).trans (overlay_of_not_mem mem).symm
  | @release lock locks next =>
      exact ⟨atomic, .refl, simulates.silent found (.leaving locks next) rfl rfl rfl
        (fun _ mem => absurd mem List.not_mem_nil) fun _ isMatch => isMatch⟩
  | @leave next =>
      exact ⟨atomic, .refl, simulates.silent found (.outside next) rfl rfl rfl
        (fun _ mem => absurd mem List.not_mem_nil) fun _ isMatch => isMatch⟩

theorem move (simulates : Simulates reads program system atomic)
    (present : ∀ now, reads now now) (owned : system.Owned program.rank)
    {action : Action Local Event} (passes : TimePasses reads system action)
    (move : Move program system action after) :
    ∃ next, Atomic.Reaches reads program atomic next ∧ Simulates reads program after next := by
  cases move with
  | tick duration =>
      refine ⟨_, .single (.tick duration), ⟨congrArg (· + duration) simulates.now,
        simulates.length, ?_, simulates.committed⟩⟩
      intro index task state found foundState
      refine (simulates.tasks found foundState).frame (fun isInside => ?_) (fun _ _ => rfl)
        (fun _ _ => rfl)
      rcases passes with nobody | passes
      · rw [nobody task (List.mem_of_getElem? found)] at isInside
        cases isInside
      · exact passes
  | spawn state => exact ⟨_, .single (.spawn state), simulates.append_outside state⟩
  | @advance index state next event found advanced =>
      obtain ⟨other, foundState, same⟩ := simulates.stateOf found
      obtain rfl : other = state := same
      refine ⟨_, .single (.advance foundState (simulates.now ▸ advanced)), ?_⟩
      exact simulates.replace found (.outside next) (system.update index (.outside next)) rfl rfl
        next atomic.store rfl (fun _ _ => ⟨rfl, rfl⟩)
        (fun _ _ committed => committed List.not_mem_nil)
  | @enter index state code found entered =>
      refine ⟨atomic, .refl, simulates.silent found (.inside state [] code) rfl rfl rfl
        (fun _ mem => absurd mem List.not_mem_nil) fun other same => ?_⟩
      refine ⟨same, code, entered, fun _ _ base _ next last does => ?_⟩
      rwa [overlay_nil] at does
  | proceed found proceeds => exact simulates.proceeds present owned found proceeds

end Simulates

/-- Every run of single steps is a run of whole sections. -/
theorem simulates_of_run {store : Store Data} {actions : List (Action Local Event)}
    (along : Machine.Along (step program) (TimePasses reads) (start store) actions)
    (present : ∀ now, reads now now)
    (reached : Machine.run (step program) (start store) actions = some system) :
    ∃ atomic, Atomic.Reaches reads program (.start store) atomic ∧
      Simulates reads program system atomic := by
  have both : system.Owned program.rank ∧
      ∃ atomic, Atomic.Reaches reads program (.start store) atomic ∧
        Simulates reads program system atomic := by
    refine Machine.run_invariant_along
      (fun system : System Data Local => system.Owned program.rank ∧
        ∃ atomic, Atomic.Reaches reads program (.start store) atomic ∧
          Simulates reads program system atomic)
      ⟨owned_start store, .start store, .refl, simulates_start store⟩ ?_ along reached
    rintro middle action next ⟨owned, atomic, reaches, simulates⟩ passes stepped
    have moved := move_of_step stepped
    obtain ⟨last, further, simulatesNext⟩ := simulates.move present owned passes moved
    exact ⟨owned.move moved, last, reaches.trans further, simulatesNext⟩
  exact both.2

/-- When no task is in a section, the machine is where the whole sections are. -/
theorem Simulates.quiet (simulates : Simulates reads program system atomic)
    (quiet : ∀ task ∈ system.tasks, task.isOutside = true) :
    system.tasks = atomic.states.map .outside ∧ system.store = atomic.store := by
  constructor
  · apply List.ext_getElem?
    intro index
    rw [List.getElem?_map]
    cases found : system.tasks[index]? with
    | none =>
        have outOfBounds := List.getElem?_eq_none_iff.mp found
        rw [List.getElem?_eq_none (simulates.length ▸ outOfBounds)]
        rfl
    | some task =>
        obtain ⟨state, foundState, isMatch⟩ := simulates.stateOf found
        rw [foundState]
        cases task with
        | outside other => exact congrArg (some ∘ Task.outside) isMatch.symm
        | inside _ _ _ => cases quiet _ (List.mem_of_getElem? found)
        | leaving _ _ => cases quiet _ (List.mem_of_getElem? found)
  · funext lock
    refine simulates.committed lock fun task mem pending => ?_
    cases task with
    | outside _ => exact absurd pending List.not_mem_nil
    | inside _ _ _ => cases quiet _ mem
    | leaving _ _ => cases quiet _ mem

end System

end Locking

import SimpleForwarder.Lib.Machine
import Mathlib.Logic.Function.Basic
import Mathlib.Logic.Relation
import Mathlib.Data.List.MinMax

/-!
Contract: tasks that share data under mutexes.

Owns: sections of code that take locks in the order of their rank, work on the
data of the locks they hold and release them at the end; the machine in which
any number of tasks take single steps of their sections in any order; and its
two laws. No interleaving can deadlock: the tasks in a section can always run
until none is left. And sections are atomic: what has been committed is what
whole sections, run one at a time, leave.

Does not own: any section, and what a task does between two sections.
-/

namespace Locking

variable {Lock : Type} {Data : Lock → Type} {Local Event : Type}

/-- The data that each lock protects. -/
abbrev Store (Data : Lock → Type) := (lock : Lock) → Data lock

/-! ## Sections -/

/-- What a task does from the first lock it takes until it has released all. -/
inductive Section (Data : Lock → Type) (Local : Type) where
  | acquire (lock : Lock) (rest : Section Data Local)
  | read (lock : Lock) (rest : Data lock → Section Data Local)
  | modify (lock : Lock) (change : Data lock → Data lock) (rest : Section Data Local)
  | clock (rest : Nat → Section Data Local)
  /-- The guards are dropped in the order of the list. -/
  | release (locks : List Lock) (next : Local)

namespace Section

/-- The section of a task that holds the locks `held` takes further locks in the
order of their rank, touches only data it has locked, and releases every lock. -/
def Ordered (rank : Lock → Nat) : List Lock → Section Data Local → Prop
  | held, .acquire lock rest =>
      (∀ other ∈ held, rank other < rank lock) ∧ Ordered rank (lock :: held) rest
  | held, .read lock rest => lock ∈ held ∧ ∀ value, Ordered rank held (rest value)
  | held, .modify lock _ rest => lock ∈ held ∧ Ordered rank held rest
  | held, .clock rest => ∀ now, Ordered rank held (rest now)
  | held, .release locks _ => locks.Nodup ∧ ∀ lock, lock ∈ locks ↔ lock ∈ held

variable [DecidableEq Lock]

/-- The section run as a whole, with readings of the clock that `reads` allows. -/
inductive Does (reads : Nat → Prop) :
    Section Data Local → Store Data → Local → Store Data → Prop where
  | acquire {lock : Lock} {rest : Section Data Local} {store after : Store Data} {next : Local}
      (does : Does reads rest store next after) :
      Does reads (.acquire lock rest) store next after
  | read {lock : Lock} {rest : Data lock → Section Data Local} {store after : Store Data}
      {next : Local} (does : Does reads (rest (store lock)) store next after) :
      Does reads (.read lock rest) store next after
  | modify {lock : Lock} {change : Data lock → Data lock} {rest : Section Data Local}
      {store after : Store Data} {next : Local}
      (does : Does reads rest (Function.update store lock (change (store lock))) next after) :
      Does reads (.modify lock change rest) store next after
  | clock {rest : Nat → Section Data Local} {store after : Store Data} {next : Local}
      {reading : Nat} (allowed : reads reading)
      (does : Does reads (rest reading) store next after) :
      Does reads (.clock rest) store next after
  | release {locks : List Lock} {store : Store Data} {next : Local} :
      Does reads (.release locks next) store next store

variable {reads : Nat → Prop} {lock : Lock} {store after : Store Data} {next : Local}

@[simp] theorem does_acquire {rest : Section Data Local} :
    Does reads (.acquire lock rest) store next after ↔ Does reads rest store next after :=
  ⟨fun | .acquire does => does, .acquire⟩

@[simp] theorem does_read {rest : Data lock → Section Data Local} :
    Does reads (.read lock rest) store next after ↔
      Does reads (rest (store lock)) store next after :=
  ⟨fun | .read does => does, .read⟩

@[simp] theorem does_modify {change : Data lock → Data lock} {rest : Section Data Local} :
    Does reads (.modify lock change rest) store next after ↔
      Does reads rest (Function.update store lock (change (store lock))) next after :=
  ⟨fun | .modify does => does, .modify⟩

@[simp] theorem does_clock {rest : Nat → Section Data Local} :
    Does reads (.clock rest) store next after ↔
      ∃ reading, reads reading ∧ Does reads (rest reading) store next after :=
  ⟨fun | .clock allowed does => ⟨_, allowed, does⟩, fun ⟨_, allowed, does⟩ => .clock allowed does⟩

@[simp] theorem does_release {locks : List Lock} {last : Local} :
    Does reads (.release locks last) store next after ↔ next = last ∧ after = store := by
  constructor
  · intro does
    cases does
    exact ⟨rfl, rfl⟩
  · rintro ⟨rfl, rfl⟩
    exact .release

end Section

/-- The code of the tasks: the section a task enters in a state, and what it
does outside of sections, at a time. -/
structure Program (Data : Lock → Type) (Local Event : Type) where
  rank : Lock → Nat
  enter : Local → Option (Section Data Local)
  advance : Nat → Local → Event → Option Local
  ordered : ∀ {state code}, enter state = some code → code.Ordered rank []

/-! ## The machine -/

inductive Task (Data : Lock → Type) (Local : Type) where
  | outside (state : Local)
  /-- In the section that was entered in the state, with the locks held and the
  rest of its code. -/
  | inside (entered : Local) (held : List Lock) (code : Section Data Local)
  /-- The locks are still to be released. -/
  | leaving (locks : List Lock) (next : Local)

namespace Task

def held : Task Data Local → List Lock
  | .outside _ => []
  | .inside _ held _ => held
  | .leaving locks _ => locks

def isOutside : Task Data Local → Bool
  | .outside _ => true
  | .inside _ _ _ | .leaving _ _ => false

def Ordered (rank : Lock → Nat) : Task Data Local → Prop
  | .outside _ => True
  | .inside _ held code => code.Ordered rank held
  | .leaving locks _ => locks.Nodup

end Task

structure System (Data : Lock → Type) (Local : Type) where
  tasks : List (Task Data Local)
  locked : Lock → Bool
  store : Store Data
  now : Nat

inductive Action (Local Event : Type) where
  | tick (duration : Nat)
  | spawn (state : Local)
  | advance (index : Nat) (event : Event)
  | enter (index : Nat)
  /-- A step of a task in a section. -/
  | proceed (index : Nat)

namespace System

def start (store : Store Data) : System Data Local where
  tasks := []
  locked := fun _ => false
  store := store
  now := 0

/-- The `index`-th task becomes `task`. -/
def update (system : System Data Local) (index : Nat) (task : Task Data Local) :
    System Data Local :=
  { system with tasks := system.tasks.set index task }

variable [DecidableEq Lock]

def withLock (system : System Data Local) (lock : Lock) (isLocked : Bool) : System Data Local :=
  { system with locked := Function.update system.locked lock isLocked }

def proceed (system : System Data Local) (index : Nat) :
    Task Data Local → Option (System Data Local)
  | .outside _ => none
  | .inside entered held (.acquire lock rest) =>
      if system.locked lock then none
      else some ((system.update index (.inside entered (lock :: held) rest)).withLock lock true)
  | .inside entered held (.read lock rest) =>
      some (system.update index (.inside entered held (rest (system.store lock))))
  | .inside entered held (.modify lock change rest) =>
      some { system.update index (.inside entered held rest) with
        store := Function.update system.store lock (change (system.store lock)) }
  | .inside entered held (.clock rest) =>
      some (system.update index (.inside entered held (rest system.now)))
  | .inside _ _ (.release locks next) => some (system.update index (.leaving locks next))
  | .leaving (lock :: locks) next =>
      some ((system.update index (.leaving locks next)).withLock lock false)
  | .leaving [] next => some (system.update index (.outside next))

def step (program : Program Data Local Event) (system : System Data Local) :
    Action Local Event → Option (System Data Local)
  | .tick duration => some { system with now := system.now + duration }
  | .spawn state => some { system with tasks := system.tasks ++ [.outside state] }
  | .advance index event =>
      match system.tasks[index]? with
      | some (.outside state) =>
          (program.advance system.now state event).map fun next =>
            system.update index (.outside next)
      | _ => none
  | .enter index =>
      match system.tasks[index]? with
      | some (.outside state) =>
          (program.enter state).map fun code => system.update index (.inside state [] code)
      | _ => none
  | .proceed index => system.tasks[index]?.bind (system.proceed index)

/-! ## What a step can do -/

/-- A step of the `index`-th task in its section. -/
inductive Proceeds (system : System Data Local) (index : Nat) :
    Task Data Local → System Data Local → Prop where
  | acquire {entered : Local} {held : List Lock} {lock : Lock} {rest : Section Data Local}
      (free : system.locked lock = false) :
      Proceeds system index (.inside entered held (.acquire lock rest))
        ((system.update index (.inside entered (lock :: held) rest)).withLock lock true)
  | read {entered : Local} {held : List Lock} {lock : Lock}
      {rest : Data lock → Section Data Local} :
      Proceeds system index (.inside entered held (.read lock rest))
        (system.update index (.inside entered held (rest (system.store lock))))
  | modify {entered : Local} {held : List Lock} {lock : Lock} {change : Data lock → Data lock}
      {rest : Section Data Local} :
      Proceeds system index (.inside entered held (.modify lock change rest))
        { system.update index (.inside entered held rest) with
          store := Function.update system.store lock (change (system.store lock)) }
  | clock {entered : Local} {held : List Lock} {rest : Nat → Section Data Local} :
      Proceeds system index (.inside entered held (.clock rest))
        (system.update index (.inside entered held (rest system.now)))
  | commit {entered next : Local} {held locks : List Lock} :
      Proceeds system index (.inside entered held (.release locks next))
        (system.update index (.leaving locks next))
  | release {lock : Lock} {locks : List Lock} {next : Local} :
      Proceeds system index (.leaving (lock :: locks) next)
        ((system.update index (.leaving locks next)).withLock lock false)
  | leave {next : Local} :
      Proceeds system index (.leaving [] next) (system.update index (.outside next))

inductive Move (program : Program Data Local Event) (system : System Data Local) :
    Action Local Event → System Data Local → Prop where
  | tick (duration : Nat) :
      Move program system (.tick duration) { system with now := system.now + duration }
  | spawn (state : Local) :
      Move program system (.spawn state)
        { system with tasks := system.tasks ++ [.outside state] }
  | advance {index : Nat} {state next : Local} {event : Event}
      (found : system.tasks[index]? = some (.outside state))
      (advanced : program.advance system.now state event = some next) :
      Move program system (.advance index event) (system.update index (.outside next))
  | enter {index : Nat} {state : Local} {code : Section Data Local}
      (found : system.tasks[index]? = some (.outside state))
      (entered : program.enter state = some code) :
      Move program system (.enter index) (system.update index (.inside state [] code))
  | proceed {index : Nat} {task : Task Data Local} {next : System Data Local}
      (found : system.tasks[index]? = some task) (proceeds : system.Proceeds index task next) :
      Move program system (.proceed index) next

theorem proceeds_of_proceed {system next : System Data Local} {index : Nat}
    {task : Task Data Local} (proceeded : system.proceed index task = some next) :
    system.Proceeds index task next := by
  unfold proceed at proceeded
  split at proceeded
  next => cases proceeded
  next =>
    split at proceeded
    next => cases proceeded
    next free =>
      cases proceeded
      exact .acquire (Bool.eq_false_of_not_eq_true free)
  next => cases proceeded; exact .read
  next => cases proceeded; exact .modify
  next => cases proceeded; exact .clock
  next => cases proceeded; exact .commit
  next => cases proceeded; exact .release
  next => cases proceeded; exact .leave

theorem move_of_step {program : Program Data Local Event} {system next : System Data Local}
    {action : Action Local Event} (stepped : step program system action = some next) :
    Move program system action next := by
  cases action with
  | tick duration => cases stepped; exact .tick duration
  | spawn state => cases stepped; exact .spawn state
  | advance index event =>
      simp only [step] at stepped
      split at stepped
      next state found =>
        obtain ⟨after, advanced, rfl⟩ := Option.map_eq_some_iff.mp stepped
        exact .advance found advanced
      next => cases stepped
  | enter index =>
      simp only [step] at stepped
      split at stepped
      next state found =>
        obtain ⟨code, entered, rfl⟩ := Option.map_eq_some_iff.mp stepped
        exact .enter found entered
      next => cases stepped
  | proceed index =>
      obtain ⟨task, found, proceeded⟩ := Option.bind_eq_some_iff.mp stepped
      exact .proceed found (proceeds_of_proceed proceeded)

end System

end Locking

import SimpleForwarder.ExeResolver.System
import SimpleForwarder.Lib.Atomicity

/-!
Contract: the mutexes of the exe resolver (`etw_resolver.rs`).

Owns: the code of the sections under `port_to_pid` and `port_to_exe`, step by
step: taking a lock, a map operation, a reading of the clock, dropping a guard;
the tasks that run it (lookups, removals, the ETW callback), in any number; that
they cannot deadlock; and that each section is atomic, so that the machine of
`ExeResolver.System`, which takes a section for one step, loses no behaviour.

Does not own: what the caches hold after a run.
-/

namespace SimpleForwarder

open RustText Locking

/-! ## The locks -/

inductive CacheLock where
  | portToPid
  | portToExe
deriving DecidableEq

namespace CacheLock

/-- Lock ordering: always `port_to_pid`, then `port_to_exe`. -/
def rank : CacheLock → Nat
  | portToPid => 0
  | portToExe => 1

abbrev Value : CacheLock → Type
  | portToPid => UInt32
  | portToExe => Text

abbrev Data (lock : CacheLock) : Type := PortCache lock.Value

end CacheLock

namespace ExeResolver

def caches (resolver : ExeResolver) : Store CacheLock.Data
  | .portToPid => resolver.portToPid
  | .portToExe => resolver.portToExe

def withCaches (listenPort : UInt16) (store : Store CacheLock.Data) : ExeResolver where
  portToPid := store .portToPid
  portToExe := store .portToExe
  listenPort := listenPort

variable (resolver : ExeResolver)

@[simp] theorem caches_portToPid : resolver.caches .portToPid = resolver.portToPid := rfl

@[simp] theorem caches_portToExe : resolver.caches .portToExe = resolver.portToExe := rfl

@[simp] theorem update_portToPid (map : PortCache UInt32) :
    Function.update resolver.caches .portToPid map =
      { resolver with portToPid := map : ExeResolver }.caches := by
  funext lock
  cases lock <;> simp [caches]

@[simp] theorem update_portToExe (map : PortCache Text) :
    Function.update resolver.caches .portToExe map =
      { resolver with portToExe := map : ExeResolver }.caches := by
  funext lock
  cases lock <;> simp [caches]

@[simp] theorem caches_withCaches (listenPort : UInt16) (store : Store CacheLock.Data) :
    (withCaches listenPort store).caches = store := by
  funext lock
  cases lock <;> rfl

theorem eq_withCaches_iff {listenPort : UInt16} {store : Store CacheLock.Data}
    (same : resolver.listenPort = listenPort) :
    resolver = withCaches listenPort store ↔ store = resolver.caches := by
  constructor
  · intro isResolver
    funext lock
    rw [isResolver]
    cases lock <;> rfl
  · rintro rfl
    rw [← same]
    rfl

end ExeResolver

/-! ## The tasks -/

inductive ResolverTask where
  | lookup (port : UInt16) (lookup : Lookup)
  /-- `remove` has been called. -/
  | removePid (port : UInt16)
  | removeExe (port : UInt16)
  | removed
  /-- The trace thread waits for the next event. -/
  | etwIdle
  | etwCapture (sport : UInt16) (nonzero : sport ≠ 0) (pid : UInt32)

abbrev ResolverSection := Section CacheLock.Data ResolverTask

/-- An event of the trace session. A field is `none` if it cannot be parsed. -/
structure EventRecord where
  eventId : Nat
  processId : UInt32
  hasSchema : Bool
  dport : Option UInt16
  sport : Option UInt16

inductive ResolverTaskEvent where
  | lookup (event : LookupEvent)
  | etw (record : EventRecord)

/-- The checks of the ETW callback, before it takes a lock. -/
def etwCallback (listenPort : UInt16) (record : EventRecord) : ResolverTask :=
  if record.eventId ≠ 10 then .etwIdle
  else if record.hasSchema = false then .etwIdle
  else
    match record.dport with
    | none => .etwIdle
    | some dport =>
        if dport ≠ listenPort then .etwIdle
        else
          match record.sport with
          | none => .etwIdle
          | some sport =>
              if zero : sport = 0 then .etwIdle else .etwCapture sport zero record.processId

namespace ResolverTask

/-- What a task does without a lock. -/
def advance (listenPort : UInt16) (now : Nat) :
    ResolverTask → ResolverTaskEvent → Option ResolverTask
  | .lookup port (.scan attempt), .lookup (.scanned sockets) =>
      match lookupPortToPid listenPort port sockets with
      | some pid => some (.lookup port (.storePid attempt pid))
      | none => some (.lookup port (attempt.miss now))
  | .lookup port (.resolve attempt _), .lookup (.resolved none) =>
      some (.lookup port (attempt.miss now))
  | .lookup port (.resolve attempt pid), .lookup (.resolved (some exe)) =>
      some (.lookup port (.cacheExe attempt pid exe))
  | .lookup port (.found exe), .lookup .advance => some (.lookup port (.recorded exe))
  | .lookup port (.sleep wakeAt), .lookup .advance =>
      if wakeAt ≤ now then some (.lookup port (.checkExe .retry)) else none
  | .etwIdle, .etw record => some (etwCallback listenPort record)
  | _, _ => none

/-! ## The sections -/

def insert (lock : CacheLock) (port : UInt16) (value : lock.Value) (rest : ResolverSection) :
    ResolverSection :=
  .clock fun now => .modify lock (fun map => map.insert port (value, now)) rest

/-- `evict_stale_entries` reads the clock only when the map is over its capacity. -/
def evictStaleEntries (lock : CacheLock) (rest : ResolverSection) : ResolverSection :=
  .read lock fun map =>
    if exeCacheCapacity < map.size then
      .clock fun now =>
        .modify lock (fun map => map.filter fun _ entry => now - entry.2 < exeCacheTtl) rest
    else rest

def enter : ResolverTask → Option ResolverSection
  | .lookup port (.checkExe attempt) =>
      some <| .acquire .portToExe <| .read .portToExe fun map =>
        .release [.portToExe] <| .lookup port <|
          match PortCache.get map port with
          | some exe => .found exe
          | none => .checkPid attempt
  | .lookup port (.checkPid attempt) =>
      some <| .acquire .portToPid <| .read .portToPid fun map =>
        .release [.portToPid] <| .lookup port <|
          match PortCache.get map port with
          | some pid => .resolve attempt pid
          | none => .scan attempt
  | .lookup port (.storePid attempt pid) =>
      some <| .acquire .portToPid <| insert .portToPid port pid <| evictStaleEntries .portToPid <|
        .release [.portToPid] (.lookup port (.resolve attempt pid))
  | .lookup port (.cacheExe _ pid exe) =>
      some <| .acquire .portToPid <| .read .portToPid fun map =>
        -- only if the pid hasn't changed since it was resolved
        if PortCache.get map port = some pid then
          .acquire .portToExe <| insert .portToExe port exe <| evictStaleEntries .portToExe <|
            .release [.portToExe, .portToPid] (.lookup port (.found exe))
        else .release [.portToPid] (.lookup port (.found exe))
  | .removePid port =>
      some <| .acquire .portToPid <| .modify .portToPid (fun map => map.remove port) <|
        .release [.portToPid] (.removeExe port)
  | .removeExe port =>
      some <| .acquire .portToExe <| .modify .portToExe (fun map => map.remove port) <|
        .release [.portToExe] .removed
  | .etwCapture sport _ pid =>
      some <| .acquire .portToPid <| .acquire .portToExe <| .clock fun now =>
        .modify .portToPid (fun map => map.insert sport (pid, now)) <|
        .modify .portToExe (fun map => map.remove sport) <|
        evictStaleEntries .portToPid <| evictStaleEntries .portToExe <|
        .release [.portToPid, .portToExe] .etwIdle
  | _ => none

/-! ## The order of the locks -/

theorem insert_ordered {lock : CacheLock} {port : UInt16} {value : lock.Value}
    {rest : ResolverSection} {held : List CacheLock} (mem : lock ∈ held)
    (ordered : rest.Ordered CacheLock.rank held) :
    (insert lock port value rest).Ordered CacheLock.rank held :=
  fun _ => ⟨mem, ordered⟩

theorem evictStaleEntries_ordered {lock : CacheLock} {rest : ResolverSection}
    {held : List CacheLock} (mem : lock ∈ held) (ordered : rest.Ordered CacheLock.rank held) :
    (evictStaleEntries lock rest).Ordered CacheLock.rank held := by
  refine ⟨mem, fun map => ?_⟩
  beta_reduce
  split
  · exact fun _ => ⟨mem, ordered⟩
  · exact ordered

/-- The code of every section keeps the order of the locks. -/
theorem enter_ordered {task : ResolverTask} {code : ResolverSection}
    (entered : task.enter = some code) : code.Ordered CacheLock.rank [] := by
  have one : ∀ (lock : CacheLock) (next : ResolverTask),
      (Section.release [lock] next : ResolverSection).Ordered CacheLock.rank [lock] :=
    fun lock next => ⟨List.nodup_singleton lock, fun _ => Iff.rfl⟩
  unfold enter at entered
  split at entered
  next => cases entered; exact ⟨by simp, by simp, fun _ => one _ _⟩
  next => cases entered; exact ⟨by simp, by simp, fun _ => one _ _⟩
  next =>
    cases entered
    refine ⟨by simp, insert_ordered (by simp) (evictStaleEntries_ordered (by simp) (one _ _))⟩
  next =>
    cases entered
    refine ⟨by simp, by simp, fun map => ?_⟩
    beta_reduce
    split
    · refine ⟨by simp [CacheLock.rank], insert_ordered (by simp)
        (evictStaleEntries_ordered (by simp) ⟨by simp, by simp⟩)⟩
    · exact one _ _
  next => cases entered; exact ⟨by simp, by simp, one _ _⟩
  next => cases entered; exact ⟨by simp, by simp, one _ _⟩
  next =>
    cases entered
    refine ⟨by simp, by simp [CacheLock.rank], fun now => ⟨by simp, by simp, ?_⟩⟩
    refine evictStaleEntries_ordered (by simp) (evictStaleEntries_ordered (by simp) ?_)
    exact ⟨by simp, fun lock => by cases lock <;> simp⟩
  next => cases entered

def program (listenPort : UInt16) : Program CacheLock.Data ResolverTask ResolverTaskEvent where
  rank := CacheLock.rank
  enter := enter
  advance := advance listenPort
  ordered := enter_ordered

end ResolverTask

/-! ## Whole sections -/

namespace ResolverTask

/-- The section as one step, at one reading of the clock. -/
def call (now : Nat) (resolver : ExeResolver) : ResolverTask → Option (ResolverTask × ExeResolver)
  | .lookup port progress =>
      (resolver.advanceLookup now port progress .advance).map fun (next, after) =>
        (.lookup port next, after)
  | .removePid port => some (.removeExe port, resolver.removePid port)
  | .removeExe port => some (.removed, resolver.removeExe port)
  | .etwCapture sport _ pid =>
      some (.etwIdle, resolver.captureEtw now sport resolver.listenPort pid)
  | .removed | .etwIdle => none

variable {now : Nat} {store after : Store CacheLock.Data} {next : ResolverTask}

theorem does_insert {lock : CacheLock} {port : UInt16} {value : lock.Value}
    {rest : ResolverSection} :
    (insert lock port value rest).Does (· = now) store next after ↔
      rest.Does (· = now) (Function.update store lock ((store lock).insert port (value, now))) next
        after := by
  simp [insert]

theorem does_evictStaleEntries {lock : CacheLock} {rest : ResolverSection} :
    (evictStaleEntries lock rest).Does (· = now) store next after ↔
      rest.Does (· = now)
        (Function.update store lock (PortCache.evictStaleEntries now (store lock))) next after := by
  rw [evictStaleEntries, Section.does_read, PortCache.evictStaleEntries]
  split
  · simp
  · rw [Function.update_eq_self]

/-- A section that reads the clock once is the step of the resolver of the same
name. -/
theorem does_iff_call {resolver : ExeResolver} {task : ResolverTask} {code : ResolverSection}
    (entered : task.enter = some code) :
    code.Does (· = now) resolver.caches next after ↔
      call now resolver task = some (next, .withCaches resolver.listenPort after) := by
  have returns : ∀ {last : ResolverTask} (resolverAfter : ExeResolver),
      resolverAfter.listenPort = resolver.listenPort →
      (some (last, resolverAfter) = some (next, .withCaches resolver.listenPort after) ↔
        next = last ∧ after = resolverAfter.caches) := by
    intro last resolverAfter same
    rw [Option.some.injEq, Prod.mk.injEq, ExeResolver.eq_withCaches_iff _ same, eq_comm]
  unfold enter at entered
  split at entered
  next port attempt =>
    cases entered
    rw [Section.does_acquire, Section.does_read, Section.does_release, call,
      ExeResolver.advanceLookup, ExeResolver.caches_portToExe]
    cases resolver.portToExe.get port with
    | some exe => exact (returns resolver rfl).symm
    | none => exact (returns resolver rfl).symm
  next port attempt =>
    cases entered
    rw [Section.does_acquire, Section.does_read, Section.does_release, call,
      ExeResolver.advanceLookup, ExeResolver.caches_portToPid]
    cases resolver.portToPid.get port with
    | some pid => exact (returns resolver rfl).symm
    | none => exact (returns resolver rfl).symm
  next port attempt pid =>
    cases entered
    rw [Section.does_acquire, does_insert, does_evictStaleEntries, Section.does_release]
    simp only [ExeResolver.update_portToPid, ExeResolver.caches_portToPid]
    exact (returns (resolver.storePid now port pid) rfl).symm
  next port attempt pid exe =>
    cases entered
    rw [Section.does_acquire, Section.does_read, ExeResolver.caches_portToPid]
    rw [call, ExeResolver.advanceLookup, ExeResolver.cacheExe]
    split
    next same =>
      rw [Section.does_acquire, does_insert, does_evictStaleEntries, Section.does_release]
      simp only [ExeResolver.update_portToExe, ExeResolver.caches_portToExe]
      exact (returns { resolver with
        portToExe := resolver.portToExe.store now port exe } rfl).symm
    next changed =>
      rw [Section.does_release]
      exact (returns resolver rfl).symm
  next port =>
    cases entered
    rw [Section.does_acquire, Section.does_modify, Section.does_release]
    simp only [ExeResolver.update_portToPid, ExeResolver.caches_portToPid]
    exact (returns (resolver.removePid port) rfl).symm
  next port =>
    cases entered
    rw [Section.does_acquire, Section.does_modify, Section.does_release]
    simp only [ExeResolver.update_portToExe, ExeResolver.caches_portToExe]
    exact (returns (resolver.removeExe port) rfl).symm
  next sport nonzero pid =>
    cases entered
    rw [call, ExeResolver.captureEtw, if_neg (not_not_intro rfl), if_neg nonzero]
    rw [Section.does_acquire, Section.does_acquire, Section.does_clock]
    simp only [exists_eq_left, Section.does_modify, does_evictStaleEntries, Section.does_release,
      ExeResolver.update_portToPid, ExeResolver.caches_portToPid, ExeResolver.update_portToExe,
      ExeResolver.caches_portToExe]
    exact (returns { resolver with
      portToPid := resolver.portToPid.store now sport pid
      portToExe := PortCache.evictStaleEntries now (resolver.portToExe.remove sport) } rfl).symm
  next => cases entered

end ResolverTask

/-! ## Runs -/

abbrev LockedResolver := System CacheLock.Data ResolverTask

abbrev LockedResolverAction := Action ResolverTask ResolverTaskEvent

namespace LockedResolver

def start (listenPort : UInt16) : LockedResolver := System.start (ExeResolver.new listenPort).caches

abbrev step (listenPort : UInt16) : LockedResolver → LockedResolverAction → Option LockedResolver :=
  System.step (ResolverTask.program listenPort)

variable {listenPort : UInt16} {actions : List LockedResolverAction} {system : LockedResolver}

/-- Whatever lookups, removals and ETW callbacks have done so far, those that are
in a section can run on until none is left: no interleaving deadlocks. -/
theorem never_deadlocks
    (reached : Machine.run (step listenPort) (start listenPort) actions = some system) :
    ∃ (turns : List Nat) (after : LockedResolver),
      Machine.run (step listenPort) system (turns.map .proceed) = some after ∧
        ∀ task ∈ after.tasks, task.isOutside = true :=
  System.drains (System.owned_of_run reached)

/-- A lookup holds `port_to_exe`; the callback holds `port_to_pid` and waits. -/
def contended : List LockedResolverAction :=
  [.spawn (.lookup 50000 (.checkExe .first)), .enter 0, .proceed 0,
    .spawn (.etwCapture 50000 (by decide) 7), .enter 1, .proceed 1]

theorem never_deadlocks_contended :
    ∃ system, Machine.run (step 1080) (start 1080) contended = some system ∧
      step 1080 system (.proceed 1) = none ∧
      ∃ (turns : List Nat) (after : LockedResolver),
        Machine.run (step 1080) system (turns.map .proceed) = some after ∧
          ∀ task ∈ after.tasks, task.isOutside = true :=
  ⟨_, rfl, rfl, never_deadlocks
    (show Machine.run (step 1080) (start 1080) contended = some _ from rfl)⟩

/-- In every run, the caches that are not locked hold what a sequence of whole
sections leaves there, and no lookup, removal or callback is lost or done twice. -/
theorem sections_atomic
    (reached : Machine.run (step listenPort) (start listenPort) actions = some system) :
    ∃ atomic, Atomic.Reaches (fun now reading => reading ≤ now) (ResolverTask.program listenPort)
        (.start (ExeResolver.new listenPort).caches) atomic ∧
      (∀ lock, system.locked lock = false → system.store lock = atomic.store lock) ∧
      ((∀ task ∈ system.tasks, task.isOutside = true) →
        system.tasks = atomic.states.map .outside) := by
  have along : Machine.Along (step listenPort)
      (System.TimePasses fun now reading => reading ≤ now) (start listenPort) actions := by
    refine Machine.along_of_forall (fun action _ system => ?_) _
    cases action with
    | tick duration => exact .inr fun reading old => Nat.le_add_right_of_le old
    | spawn _ => trivial
    | advance _ _ => trivial
    | enter _ => trivial
    | proceed _ => trivial
  obtain ⟨atomic, reaches, simulates⟩ := System.simulates_of_run along Nat.le_refl reached
  exact ⟨atomic, reaches, fun lock => simulates.unlocked (System.owned_of_run reached),
    fun quiet => (simulates.quiet quiet).1⟩

theorem sections_atomic_contended :
    ∃ system atomic, Machine.run (step 1080) (start 1080) contended = some system ∧
      Atomic.Reaches (fun now reading => reading ≤ now) (ResolverTask.program 1080)
        (.start (ExeResolver.new 1080).caches) atomic ∧
      (∀ lock, system.locked lock = false → system.store lock = atomic.store lock) ∧
      ((∀ task ∈ system.tasks, task.isOutside = true) →
        system.tasks = atomic.states.map .outside) := by
  obtain ⟨atomic, reaches, committed⟩ := sections_atomic
    (show Machine.run (step 1080) (start 1080) contended = some _ from rfl)
  exact ⟨_, atomic, rfl, reaches, committed⟩

end LockedResolver

/-! ## Runs of calls -/

/-- The tasks with the resolver of `ExeResolver.System`, where a section is one
step. -/
structure CallingResolver where
  tasks : List ResolverTask
  resolver : ExeResolver
  now : Nat

namespace CallingResolver

def start (listenPort : UInt16) : CallingResolver where
  tasks := []
  resolver := .new listenPort
  now := 0

inductive Step (system : CallingResolver) : CallingResolver → Prop where
  | tick (duration : Nat) : Step system { system with now := system.now + duration }
  | spawn (task : ResolverTask) : Step system { system with tasks := system.tasks ++ [task] }
  | advance {index : Nat} {task next : ResolverTask} {event : ResolverTaskEvent}
      (found : system.tasks[index]? = some task)
      (advanced : task.advance system.resolver.listenPort system.now event = some next) :
      Step system { system with tasks := system.tasks.set index next }
  | call {index : Nat} {task next : ResolverTask} {after : ExeResolver}
      (found : system.tasks[index]? = some task)
      (called : task.call system.now system.resolver = some (next, after)) :
      Step system { system with tasks := system.tasks.set index next, resolver := after }

def ofAtomic (listenPort : UInt16) (atomic : Atomic CacheLock.Data ResolverTask) :
    CallingResolver where
  tasks := atomic.states
  resolver := .withCaches listenPort atomic.store
  now := atomic.now

theorem step_of_atomic {listenPort : UInt16} {atomic next : Atomic CacheLock.Data ResolverTask}
    (stepped : Atomic.Step (fun now reading => reading = now) (ResolverTask.program listenPort)
      atomic next) :
    (ofAtomic listenPort atomic).Step (ofAtomic listenPort next) := by
  cases stepped with
  | tick duration => exact .tick duration
  | spawn state => exact .spawn state
  | advance found advanced => exact .advance found advanced
  | call found entered does =>
      refine .call found ((ResolverTask.does_iff_call entered).mp ?_)
      rw [ofAtomic, ExeResolver.caches_withCaches]
      exact does

end CallingResolver

/-- In every run in which no time passes within a section, the caches that are
not locked hold what the steps of the resolver leave there that take each
section at once. -/
theorem LockedResolver.refines_calls {listenPort : UInt16} {actions : List LockedResolverAction}
    {system : LockedResolver}
    (instant : Machine.Along (step listenPort)
      (System.TimePasses fun now reading => reading = now) (start listenPort) actions)
    (reached : Machine.run (step listenPort) (start listenPort) actions = some system) :
    ∃ calls, Relation.ReflTransGen CallingResolver.Step (.start listenPort) calls ∧
      calls.now = system.now ∧
      (∀ lock, system.locked lock = false → system.store lock = calls.resolver.caches lock) ∧
      ((∀ task ∈ system.tasks, task.isOutside = true) →
        system.tasks = calls.tasks.map .outside) := by
  obtain ⟨atomic, reaches, simulates⟩ := System.simulates_of_run instant (fun _ => rfl) reached
  refine ⟨.ofAtomic listenPort atomic, ?_, simulates.now, fun lock isFree => ?_,
    fun quiet => (simulates.quiet quiet).1⟩
  · exact reaches.lift (CallingResolver.ofAtomic listenPort) fun _ _ =>
      CallingResolver.step_of_atomic
  · rw [CallingResolver.ofAtomic, ExeResolver.caches_withCaches]
    exact simulates.unlocked (System.owned_of_run reached) isFree

theorem LockedResolver.refines_calls_contended :
    ∃ system calls, Machine.run (step 1080) (start 1080) contended = some system ∧
      Relation.ReflTransGen CallingResolver.Step (.start 1080) calls ∧
      calls.now = system.now ∧
      (∀ lock, system.locked lock = false → system.store lock = calls.resolver.caches lock) ∧
      ((∀ task ∈ system.tasks, task.isOutside = true) →
        system.tasks = calls.tasks.map .outside) := by
  obtain ⟨calls, reaches, same⟩ := refines_calls
    (Machine.along_of_forall (by simp [contended, System.TimePasses]) _)
    (show Machine.run (step 1080) (start 1080) contended = some _ from rfl)
  exact ⟨_, calls, rfl, reaches, same⟩

end SimpleForwarder

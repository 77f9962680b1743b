import SimpleForwarder.Server.System
import Std.Data.TreeMap.Lemmas

/-!
Contract: the exe resolver (`etw_resolver.rs`) and the tasks that use it.

Owns: the two port caches, the steps of `lookup`, `resolve_and_cache_pid` and
`remove`, the ETW callback, and the machine of their interleavings with client
sockets that are opened, accepted and closed.

A section under one lock is one step, and so is the section of
`resolve_and_cache_pid` that takes the second lock inside the first. A netstat
scan and a pid resolution see the system at one instant; any steps may come
before it and after it. The ETW callback runs on Windows only: a run of the
other implementation is one without its steps.

The operating system is the parameter `exeOf`, the name of a process, and the
guards `Shows` and `Names` on what a scan and a resolution may see.

Does not own: what the connection tasks do apart from calling the resolver.
-/

namespace SimpleForwarder

open RustText

/-! ## The caches -/

def exeCacheCapacity : Nat := 1000

/-- In milliseconds. -/
def exeCacheTtl : Nat := 30 * 1000

/-- A port-keyed cache: each value with the time it was stored at. -/
abbrev PortCache (V : Type) := Std.TreeMap UInt16 (V × Nat)

namespace PortCache

variable {V : Type}

def get (map : PortCache V) (port : UInt16) : Option V := map[port]?.map Prod.fst

def evictStaleEntries (now : Nat) (map : PortCache V) : PortCache V :=
  if exeCacheCapacity < map.size then
    map.filter fun _ entry => now - entry.2 < exeCacheTtl
  else map

/-- The insertion that both caches make: the value, then the eviction. -/
def store (map : PortCache V) (now : Nat) (port : UInt16) (value : V) : PortCache V :=
  evictStaleEntries now (map.insert port (value, now))

def remove (map : PortCache V) (port : UInt16) : PortCache V := map.erase port

variable {map : PortCache V} {now : Nat} {port other : UInt16} {value stored : V}

theorem get_eq_some : get map port = some value ↔ ∃ time, map[port]? = some (value, time) := by
  simp [get]

theorem get_of_get_evict (held : get (evictStaleEntries now map) port = some value) :
    get map port = some value := by
  unfold evictStaleEntries at held
  split at held
  · obtain ⟨time, held⟩ := get_eq_some.mp held
    rw [Std.TreeMap.getElem?_filter', Option.filter_eq_some_iff] at held
    exact get_eq_some.mpr ⟨time, held.1⟩
  · exact held

theorem get_of_get_store (held : get (store map now port stored) other = some value) :
    (other = port ∧ value = stored) ∨ get map other = some value := by
  obtain ⟨time, held⟩ := get_eq_some.mp (get_of_get_evict held)
  rw [Std.TreeMap.getElem?_insert] at held
  split at held
  next same =>
    have samePort : port = other := Std.LawfulEqCmp.eq_of_compare same
    have sameEntry : (stored, now) = (value, time) := Option.some.inj held
    exact .inl ⟨samePort.symm, (congrArg Prod.fst sameEntry).symm⟩
  next => exact .inr (get_eq_some.mpr ⟨time, held⟩)

theorem get_of_get_remove (held : get (remove map port) other = some value) :
    other ≠ port ∧ get map other = some value := by
  obtain ⟨time, held⟩ := get_eq_some.mp held
  rw [remove, Std.TreeMap.getElem?_erase] at held
  split at held
  next => cases held
  next distinct =>
    refine ⟨fun same => distinct ?_, get_eq_some.mpr ⟨time, held⟩⟩
    rw [same]
    exact Std.ReflCmp.compare_self

@[simp] theorem get_empty : get (∅ : PortCache V) port = none := by
  simp [get]

end PortCache

/-! ## The resolver -/

/-- A row of the operating system's TCP table. -/
structure TcpSocketInfo where
  localPort : UInt16
  remotePort : UInt16
  associatedPids : List UInt32
deriving DecidableEq

/-- The first row for the client's end of the connection decides. `none` is a
scan that failed. -/
def lookupPortToPid (listenPort remotePort : UInt16) (sockets : Option (List TcpSocketInfo)) :
    Option UInt32 := do
  let tcp ← (← sockets).find? fun tcp =>
    tcp.remotePort = listenPort ∧ tcp.localPort = remotePort
  let pid ← tcp.associatedPids.head?
  -- system and idle processes are skipped
  if pid = 0 ∨ pid = 4 then none else some pid

structure ExeResolver where
  portToPid : PortCache UInt32
  portToExe : PortCache Text
  listenPort : UInt16

/-- A lookup task makes two attempts. -/
inductive Attempt where
  | first
  | retry
deriving DecidableEq

/-- What a lookup task does next, or what it has come to. -/
inductive Lookup where
  | checkExe (attempt : Attempt)
  | checkPid (attempt : Attempt)
  | scan (attempt : Attempt)
  | storePid (attempt : Attempt) (pid : UInt32)
  | resolve (attempt : Attempt) (pid : UInt32)
  | cacheExe (attempt : Attempt) (pid : UInt32) (exe : Text)
  /-- `lookup` has returned the name. -/
  | found (exe : Text)
  | sleep (wakeAt : Nat)
  /-- `set_exe_name` has been called with the name. -/
  | recorded (exe : Text)
  | notFound
deriving DecidableEq

inductive LookupEvent where
  /-- A section under a lock, the end of the pause, or the call of `set_exe_name`. -/
  | advance
  | scanned (sockets : Option (List TcpSocketInfo))
  | resolved (exe : Option Text)

/-- What follows a `lookup` that returned `None`. -/
def Attempt.miss (now : Nat) : Attempt → Lookup
  | .first => .sleep (now + lookupRetryDelay)
  | .retry => .notFound

namespace ExeResolver

def new (listenPort : UInt16) : ExeResolver where
  portToPid := ∅
  portToExe := ∅
  listenPort := listenPort

def storePid (resolver : ExeResolver) (now : Nat) (port : UInt16) (pid : UInt32) : ExeResolver :=
  { resolver with portToPid := resolver.portToPid.store now port pid }

/-- The name is cached only if the pid has not changed. -/
def cacheExe (resolver : ExeResolver) (now : Nat) (port : UInt16) (pid : UInt32) (exe : Text) :
    ExeResolver :=
  if resolver.portToPid.get port = some pid then
    { resolver with portToExe := resolver.portToExe.store now port exe }
  else resolver

/-- The first section of `remove`. -/
def removePid (resolver : ExeResolver) (port : UInt16) : ExeResolver :=
  { resolver with portToPid := resolver.portToPid.remove port }

/-- The second section of `remove`. -/
def removeExe (resolver : ExeResolver) (port : UInt16) : ExeResolver :=
  { resolver with portToExe := resolver.portToExe.remove port }

/-- The callback for a connection event of the TCP provider. -/
def captureEtw (resolver : ExeResolver) (now : Nat) (sport dport : UInt16) (pid : UInt32) :
    ExeResolver :=
  if dport ≠ resolver.listenPort then resolver
  else if sport = 0 then resolver
  else
    { resolver with
      portToPid := resolver.portToPid.store now sport pid
      portToExe := PortCache.evictStaleEntries now (resolver.portToExe.remove sport) }

/-- The next step of a lookup task for the port. -/
def advanceLookup (resolver : ExeResolver) (now : Nat) (port : UInt16) :
    Lookup → LookupEvent → Option (Lookup × ExeResolver)
  | .checkExe attempt, .advance =>
      match resolver.portToExe.get port with
      | some exe => some (.found exe, resolver)
      | none => some (.checkPid attempt, resolver)
  | .checkPid attempt, .advance =>
      match resolver.portToPid.get port with
      | some pid => some (.resolve attempt pid, resolver)
      | none => some (.scan attempt, resolver)
  | .scan attempt, .scanned sockets =>
      match lookupPortToPid resolver.listenPort port sockets with
      | some pid => some (.storePid attempt pid, resolver)
      | none => some (attempt.miss now, resolver)
  | .storePid attempt pid, .advance =>
      some (.resolve attempt pid, resolver.storePid now port pid)
  | .resolve attempt _, .resolved none => some (attempt.miss now, resolver)
  | .resolve attempt pid, .resolved (some exe) => some (.cacheExe attempt pid exe, resolver)
  | .cacheExe _ pid exe, .advance => some (.found exe, resolver.cacheExe now port pid exe)
  | .found exe, .advance => some (.recorded exe, resolver)
  | .sleep wakeAt, .advance =>
      if wakeAt ≤ now then some (.checkExe .retry, resolver) else none
  | _, _ => none

end ExeResolver

/-! ## The machine -/

/-- How far the server is with a connection. -/
inductive RemovalStage where
  /-- The client's socket exists; the connection has not been accepted. -/
  | connecting
  /-- The connection task and the lookup task run. -/
  | accepted
  /-- The first section of `remove` has been passed. -/
  | pidRemoved
  | removed
deriving DecidableEq

/-- `remove` has not begun. -/
def RemovalStage.isServed : RemovalStage → Bool
  | .connecting | .accepted => true
  | .pidRemoved | .removed => false

structure ClientConnection where
  port : UInt16
  /-- The process that owns the client's socket. -/
  pid : UInt32
  isOpen : Bool
  stage : RemovalStage
  lookup : Lookup
deriving DecidableEq

/-- The connections stand in the order in which the clients opened them. -/
structure ResolverSystem where
  resolver : ExeResolver
  connections : List ClientConnection
  now : Nat

inductive ResolverEvent where
  | tick (duration : Nat)
  | connect (port : UInt16) (pid : UInt32)
  | close (index : Nat)
  | accept (index : Nat)
  | lookup (index : Nat) (event : LookupEvent)
  | remove (index : Nat)
  | etw (index : Nat)

namespace ResolverSystem

def start (listenPort : UInt16) : ResolverSystem where
  resolver := .new listenPort
  connections := []
  now := 0

/-- A TCP table names the owner of an open client socket, or no process. -/
def Shows (system : ResolverSystem) (sockets : List TcpSocketInfo) : Prop :=
  ∀ tcp ∈ sockets, tcp.remotePort = system.resolver.listenPort →
    ∀ pid ∈ tcp.associatedPids.head?, pid = 0 ∨ pid = 4 ∨
      ∃ connection ∈ system.connections,
        connection.isOpen = true ∧ connection.port = tcp.localPort ∧ connection.pid = pid

instance (system : ResolverSystem) (sockets : List TcpSocketInfo) :
    Decidable (system.Shows sockets) := by
  unfold Shows
  refine @List.decidableBAll _ _ (fun tcp => ?_) _
  -- The pid is the one of the row: this is not a search through `UInt32`.
  refine @instDecidableForall _ _ _ ?_
  exact @Option.decidableForallMem _ _ (fun _ => inferInstance) _

/-- What the operating system can answer to a lookup task. A process keeps its
name. -/
def Answers (exeOf : UInt32 → Text) (system : ResolverSystem) : Lookup → LookupEvent → Prop
  | .scan _, .scanned (some sockets) => system.Shows sockets
  | .resolve _ pid, .resolved (some exe) => exe = exeOf pid
  | _, _ => True

instance (exeOf : UInt32 → Text) (system : ResolverSystem) (lookup : Lookup)
    (event : LookupEvent) : Decidable (Answers exeOf system lookup event) := by
  unfold Answers
  split <;> infer_instance

def newConnection (port : UInt16) (pid : UInt32) : ClientConnection where
  port := port
  pid := pid
  isOpen := true
  stage := .connecting
  lookup := .checkExe .first

/-- The `index`-th connection becomes `connection`. -/
def update (system : ResolverSystem) (index : Nat) (connection : ClientConnection) :
    ResolverSystem :=
  { system with connections := system.connections.set index connection }

def withResolver (system : ResolverSystem) (resolver : ExeResolver) : ResolverSystem :=
  { system with resolver := resolver }

def step (exeOf : UInt32 → Text) (system : ResolverSystem) :
    ResolverEvent → Option ResolverSystem
  | .tick duration => some { system with now := system.now + duration }
  | .connect port pid =>
      -- a source port has at most one open client socket
      if ∀ connection ∈ system.connections, connection.port = port → connection.isOpen = false then
        some { system with connections := system.connections ++ [newConnection port pid] }
      else none
  | .close index => do
      let connection ← system.connections[index]?
      if connection.isOpen then some (system.update index { connection with isOpen := false })
      else none
  | .accept index => do
      let connection ← system.connections[index]?
      if connection.stage = .connecting then
        some (system.update index { connection with stage := .accepted })
      else none
  | .lookup index event => do
      let connection ← system.connections[index]?
      -- the task is spawned when the connection has been accepted
      if connection.stage ≠ .connecting ∧ Answers exeOf system connection.lookup event then
        let (lookup, resolver) ←
          system.resolver.advanceLookup system.now connection.port connection.lookup event
        some ((system.update index { connection with lookup := lookup }).withResolver resolver)
      else none
  | .remove index => do
      let connection ← system.connections[index]?
      match connection.stage with
      | .connecting => none
      | .accepted =>
          some ((system.update index { connection with stage := .pidRemoved }).withResolver
            (system.resolver.removePid connection.port))
      | .pidRemoved =>
          some ((system.update index { connection with stage := .removed }).withResolver
            (system.resolver.removeExe connection.port))
      | .removed => none
  | .etw index => do
      let connection ← system.connections[index]?
      some (system.withResolver (system.resolver.captureEtw system.now connection.port
        system.resolver.listenPort connection.pid))

end ResolverSystem

/-! ## What a step can do -/

namespace ExeResolver

/-- A step of a lookup task for the port. -/
inductive Advance (resolver : ExeResolver) (now : Nat) (port : UInt16) :
    Lookup → LookupEvent → Lookup → ExeResolver → Prop where
  | exeCached {attempt : Attempt} {exe : Text}
      (cached : resolver.portToExe.get port = some exe) :
      Advance resolver now port (.checkExe attempt) .advance (.found exe) resolver
  | exeMissed {attempt : Attempt} :
      Advance resolver now port (.checkExe attempt) .advance (.checkPid attempt) resolver
  | pidCached {attempt : Attempt} {pid : UInt32}
      (cached : resolver.portToPid.get port = some pid) :
      Advance resolver now port (.checkPid attempt) .advance (.resolve attempt pid) resolver
  | pidMissed {attempt : Attempt} :
      Advance resolver now port (.checkPid attempt) .advance (.scan attempt) resolver
  | scanned {attempt : Attempt} {sockets : Option (List TcpSocketInfo)} {pid : UInt32}
      (seen : lookupPortToPid resolver.listenPort port sockets = some pid) :
      Advance resolver now port (.scan attempt) (.scanned sockets) (.storePid attempt pid)
        resolver
  | unseen {attempt : Attempt} {sockets : Option (List TcpSocketInfo)} :
      Advance resolver now port (.scan attempt) (.scanned sockets) (attempt.miss now) resolver
  | storePid {attempt : Attempt} {pid : UInt32} :
      Advance resolver now port (.storePid attempt pid) .advance (.resolve attempt pid)
        (resolver.storePid now port pid)
  | unresolved {attempt : Attempt} {pid : UInt32} :
      Advance resolver now port (.resolve attempt pid) (.resolved none) (attempt.miss now)
        resolver
  | resolved {attempt : Attempt} {pid : UInt32} {exe : Text} :
      Advance resolver now port (.resolve attempt pid) (.resolved (some exe))
        (.cacheExe attempt pid exe) resolver
  | cacheExe {attempt : Attempt} {pid : UInt32} {exe : Text} :
      Advance resolver now port (.cacheExe attempt pid exe) .advance (.found exe)
        (resolver.cacheExe now port pid exe)
  | record {exe : Text} :
      Advance resolver now port (.found exe) .advance (.recorded exe) resolver
  | wake {wakeAt : Nat} (due : wakeAt ≤ now) :
      Advance resolver now port (.sleep wakeAt) .advance (.checkExe .retry) resolver

theorem advance_of_advanceLookup {resolver after : ExeResolver} {now : Nat} {port : UInt16}
    {lookup next : Lookup} {event : LookupEvent}
    (advanced : resolver.advanceLookup now port lookup event = some (next, after)) :
    Advance resolver now port lookup event next after := by
  unfold advanceLookup at advanced
  split at advanced
  next =>
    split at advanced
    next cached => cases advanced; exact .exeCached cached
    next => cases advanced; exact .exeMissed
  next =>
    split at advanced
    next cached => cases advanced; exact .pidCached cached
    next => cases advanced; exact .pidMissed
  next =>
    split at advanced
    next seen => cases advanced; exact .scanned seen
    next => cases advanced; exact .unseen
  next => cases advanced; exact .storePid
  next => cases advanced; exact .unresolved
  next => cases advanced; exact .resolved
  next => cases advanced; exact .cacheExe
  next => cases advanced; exact .record
  next =>
    split at advanced
    next due => cases advanced; exact .wake due
    next => cases advanced
  next => cases advanced

end ExeResolver

namespace ResolverSystem

inductive Move (exeOf : UInt32 → Text) (system : ResolverSystem) :
    ResolverEvent → ResolverSystem → Prop where
  | tick (duration : Nat) :
      Move exeOf system (.tick duration) { system with now := system.now + duration }
  | connect {port : UInt16} {pid : UInt32}
      (free : ∀ connection ∈ system.connections,
        connection.port = port → connection.isOpen = false) :
      Move exeOf system (.connect port pid)
        { system with connections := system.connections ++ [newConnection port pid] }
  | close {index : Nat} {connection : ClientConnection}
      (found : system.connections[index]? = some connection) :
      Move exeOf system (.close index) (system.update index { connection with isOpen := false })
  | accept {index : Nat} {connection : ClientConnection}
      (found : system.connections[index]? = some connection)
      (waiting : connection.stage = .connecting) :
      Move exeOf system (.accept index)
        (system.update index { connection with stage := .accepted })
  | lookup {index : Nat} {connection : ClientConnection} {event : LookupEvent}
      {next : Lookup} {resolver : ExeResolver}
      (found : system.connections[index]? = some connection)
      (answers : Answers exeOf system connection.lookup event)
      (advanced : system.resolver.Advance system.now connection.port connection.lookup event
        next resolver) :
      Move exeOf system (.lookup index event)
        ((system.update index { connection with lookup := next }).withResolver resolver)
  | removePid {index : Nat} {connection : ClientConnection}
      (found : system.connections[index]? = some connection)
      (accepted : connection.stage = .accepted) :
      Move exeOf system (.remove index)
        ((system.update index { connection with stage := .pidRemoved }).withResolver
          (system.resolver.removePid connection.port))
  | removeExe {index : Nat} {connection : ClientConnection}
      (found : system.connections[index]? = some connection)
      (begun : connection.stage = .pidRemoved) :
      Move exeOf system (.remove index)
        ((system.update index { connection with stage := .removed }).withResolver
          (system.resolver.removeExe connection.port))
  | etw {index : Nat} {connection : ClientConnection}
      (found : system.connections[index]? = some connection) :
      Move exeOf system (.etw index)
        (system.withResolver (system.resolver.captureEtw system.now connection.port
          system.resolver.listenPort connection.pid))

theorem move_of_step {exeOf : UInt32 → Text} {system next : ResolverSystem}
    {event : ResolverEvent} (stepped : step exeOf system event = some next) :
    Move exeOf system event next := by
  cases event with
  | tick duration => cases stepped; exact .tick duration
  | connect port pid =>
      simp only [step] at stepped
      split at stepped
      next free => cases stepped; exact .connect free
      next => cases stepped
  | close index =>
      obtain ⟨connection, found, stepped⟩ := Option.bind_eq_some_iff.mp stepped
      split at stepped
      next => cases stepped; exact .close found
      next => cases stepped
  | accept index =>
      obtain ⟨connection, found, stepped⟩ := Option.bind_eq_some_iff.mp stepped
      split at stepped
      next waiting => cases stepped; exact .accept found waiting
      next => cases stepped
  | lookup index event =>
      obtain ⟨connection, found, stepped⟩ := Option.bind_eq_some_iff.mp stepped
      split at stepped
      next ready =>
        obtain ⟨⟨lookup, resolver⟩, advanced, stepped⟩ := Option.bind_eq_some_iff.mp stepped
        cases stepped
        exact .lookup found ready.2 (ExeResolver.advance_of_advanceLookup advanced)
      next => cases stepped
  | remove index =>
      obtain ⟨connection, found, stepped⟩ := Option.bind_eq_some_iff.mp stepped
      split at stepped
      next => cases stepped
      next accepted => cases stepped; exact .removePid found accepted
      next begun => cases stepped; exact .removeExe found begun
      next => cases stepped
  | etw index =>
      obtain ⟨connection, found, stepped⟩ := Option.bind_eq_some_iff.mp stepped
      cases stepped
      exact .etw found

end ResolverSystem

end SimpleForwarder

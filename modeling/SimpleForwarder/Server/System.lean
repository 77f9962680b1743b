import SimpleForwarder.ProxyServer.Handshake
import SimpleForwarder.Relay.Select
import SimpleForwarder.Tracker.Order

/-!
Contract: the server as a system of tasks (`ProxyServer::run`,
`handle_connection`).

Owns: the stages of a connection task from its acceptance to its return, with
the tracker calls it makes on the way; its detached exe lookup; the accept loop
under its semaphore; the machine of all tasks, the snapshots and the clock; and
the refinement of its runs to runs of the tracker (`tracker_run`).

Every handshake that the model of a handshake admits can be the handshake of a
task, and its relay is the relay machine. The answers of the exe resolver are
arbitrary.

Does not own: what a handshake or a relay does, and the tracker's sections.
-/

namespace SimpleForwarder

open RustText EffectProgram OrderedTable

/-- The `MAX_CONNECTIONS` of `proxy_server.rs`: the permits of the semaphore. -/
def ProxyServer.maxConnections : Nat := 1024

/-- The pause between the two attempts of an exe lookup. -/
def lookupRetryDelay : Nat := 50

/-- A handshake that has come to its result, `none` being the timeout. -/
structure FinishedHandshake (crates : Crates) where
  localAddr : Option SocketAddr
  rules : List (RuleMatcher × ProxyConfig)
  start : Nat
  stop : Nat
  events : List SocketEvent
  result : Option (Except Text HandshakeResult)
  run : Runs (handshake crates localAddr rules) start events (.returned result) stop

/-! ## The task of a connection -/

/-- Where `handle_connection` is. `done` counts the setters it has called since
the handshake. -/
inductive Stage where
  | accepted
  | registering (id : UInt64)
  | registered (id : UInt64)
  | handshaking (id : UInt64) (since : Nat)
  | established (id : UInt64) (handed : HandshakeResult) (done : Nat)
  | relaying (id : UInt64) (relay : Relay)
  | concluding (id : UInt64) (call : Setter) (result : Except Text Unit)
  | returned (id : UInt64) (result : Except Text Unit)

/-- Where the detached exe lookup is. -/
inductive LookupStage where
  | unspawned
  | first
  | sleeping (wakeAt : Nat)
  | finished
deriving DecidableEq

structure ConnectionTask where
  peerAddr : Text
  bytesSent : Counter
  bytesReceived : Counter
  stage : Stage
  lookup : LookupStage

namespace Stage

/-- `conn_id`. -/
def id? : Stage → Option UInt64
  | accepted => none
  | registering id | registered id | handshaking id _ | established id _ _ => some id
  | relaying id _ | concluding id _ _ | returned id _ => some id

def isReturned : Stage → Bool
  | returned _ _ => true
  | _ => false

end Stage

/-- What happens in a task. -/
inductive TaskEvent (crates : Crates) where
  | allocate
  | register (startTime : Text)
  | beginHandshake
  | endHandshake (finished : FinishedHandshake crates)
  | set (call : Setter)
  | beginRelay
  | relay (event : RelayEvent)
  | lookup (exe : Option Text)

/-- The setters that report an established connection. -/
def reports (handed : HandshakeResult) : List Setter :=
  [.setProxyProtocol handed.protocol.toText,
    .setOutboundTarget (handed.host ++ ":".toList ++ decimal handed.port.toNat),
    .setProxy handed.proxyDesc, .setConnected]

/-- `match res` of `handle_connection`. -/
def Stage.afterHandshake (id : UInt64) : Option (Except Text HandshakeResult) → Stage
  | some (.ok handed) => .established id handed 0
  | some (.error error) => .concluding id (.setError error) (.error error)
  | none =>
      .concluding id (.setError "Handshake timed out".toList) (.error "Handshake timed out".toList)

/-- The relay goes on, or it has ended and its last tracker call is due. -/
def Stage.afterRelay (id : UInt64) (relay : Relay) : Stage :=
  match relay.ending with
  | none => .relaying id relay
  | some (.failed error) => .concluding id (.setError error) (.error error)
  | some .closed => .concluding id .setClosed (.ok ())

variable {crates : Crates}

namespace ConnectionTask

def registration (task : ConnectionTask) (startTime : Text) : Registration where
  sourceIp := task.peerAddr
  outboundTarget := "resolving...".toList
  proxyProtocol := "detecting...".toList
  startTime := startTime
  bytesSent := task.bytesSent
  bytesReceived := task.bytesReceived

/-- A setter call of the task. -/
def callSetter (task : ConnectionTask) (now : Nat) (call : Setter) :
    Option (ConnectionTask × Option TrackerEvent) :=
  match task.stage with
  | .established id handed done =>
      if (reports handed)[done]? = some call then
        some ({ task with stage := .established id handed (done + 1) }, some (.set id call now))
      else none
  | .concluding id due result =>
      if due = call then
        some ({ task with stage := .returned id result }, some (.set id call now))
      else none
  | _ => none

/-- An answer of the exe resolver. The first lookup is retried once. -/
def answerLookup (task : ConnectionTask) (now : Nat) (exe : Option Text) :
    Option (ConnectionTask × Option TrackerEvent) :=
  match task.stage.id? with
  | none => none
  | some id =>
      let recorded := exe.map fun name => TrackerEvent.set id (.setExeName name) now
      match task.lookup with
      | .first =>
          some ({ task with
            lookup := if exe.isSome then .finished else .sleeping (now + lookupRetryDelay) }, recorded)
      | .sleeping wakeAt =>
          if wakeAt ≤ now then some ({ task with lookup := .finished }, recorded) else none
      | _ => none

/-- A step of a task, and the tracker step it makes. -/
def step (now : Nat) (nextId : UInt64) (task : ConnectionTask) :
    TaskEvent crates → Option (ConnectionTask × Option TrackerEvent)
  | .allocate =>
      match task.stage with
      | .accepted => some ({ task with stage := .registering nextId }, some .allocate)
      | _ => none
  | .register startTime =>
      match task.stage with
      | .registering id =>
          some ({ task with stage := .registered id, lookup := .first },
            some (.register id (task.registration startTime)))
      | _ => none
  | .beginHandshake =>
      match task.stage with
      | .registered id => some ({ task with stage := .handshaking id now }, none)
      | _ => none
  | .endHandshake finished =>
      match task.stage with
      | .handshaking id since =>
          if finished.start = since ∧ finished.stop = now then
            some ({ task with stage := .afterHandshake id finished.result }, none)
          else none
      | _ => none
  | .set call => task.callSetter now call
  | .beginRelay =>
      match task.stage with
      | .established id handed done =>
          if (reports handed)[done]? = none then
            some ({ task with
              stage := .relaying id (.start handed.leftover handed.targetLeftover now) }, none)
          else none
      | _ => none
  | .relay event =>
      match task.stage with
      | .relaying id relay =>
          (relay.step now event).map fun relay => ({ task with stage := .afterRelay id relay }, none)
      | _ => none
  | .lookup exe => task.answerLookup now exe

end ConnectionTask

/-! ## The server -/

structure Server where
  now : Nat
  permits : Nat
  tracker : TrackerSystem
  tasks : List ConnectionTask

/-- `snapshot count delay` examines the entry of `id` at `delay id` from now. -/
inductive ServerEvent (crates : Crates) where
  | tick (duration : Nat)
  | accept (peerAddr : Text)
  | task (index : Nat) (event : TaskEvent crates)
  | count
  | snapshot (count : UInt64) (delay : UInt64 → Nat)

namespace Server

def start (permits : Nat) : Server where
  now := 0
  permits := permits
  tracker := .start
  tasks := []

/-- The permits that are taken. -/
def unfinished (server : Server) : Nat := server.tasks.countP fun task => !task.stage.isReturned

/-- `conn` is the `index`-th accepted connection; its counters are its own. -/
def newTask (index : Nat) (peerAddr : Text) : ConnectionTask where
  peerAddr := peerAddr
  bytesSent := 2 * index
  bytesReceived := 2 * index + 1
  stage := .accepted
  lookup := .unspawned

def perform (tracker : TrackerSystem) : Option TrackerEvent → Option TrackerSystem
  | none => some tracker
  | some event => tracker.step event

def step (server : Server) : ServerEvent crates → Option Server
  | .tick duration => some { server with now := server.now + duration }
  | .accept peerAddr =>
      if server.unfinished < server.permits then
        some { server with tasks := server.tasks ++ [newTask server.tasks.length peerAddr] }
      else some server
  | .task index event => do
      let task ← server.tasks[index]?
      let (task, call) ← task.step server.now server.tracker.tracker.nextId event
      let tracker ← perform server.tracker call
      some { server with tracker := tracker, tasks := server.tasks.set index task }
  | .count => some { server with tracker := server.tracker.count }
  | .snapshot count delay => do
      let tracker ← server.tracker.step (.snapshot count fun id => server.now + delay id)
      some { server with tracker := tracker }

/-- A task is the one that serves the connection of the id. -/
def Holds (server : Server) (index : Nat) (id : UInt64) : Prop :=
  ∃ task, server.tasks[index]? = some task ∧ task.stage.id? = some id

abbrev entry (server : Server) (id : UInt64) : Option ConnectionInfo :=
  server.tracker.state.entries id

end Server

namespace ServerEvent

def isRegistration : ServerEvent crates → Bool
  | .task _ .allocate => true
  | _ => false

end ServerEvent

def Setter.isTerminal : Setter → Bool
  | .setClosed | .setError _ => true
  | _ => false

/-- The registrations begun in a run. -/
def registrationsIn (events : List (ServerEvent crates)) : Nat :=
  events.countP ServerEvent.isRegistration

/-- A `set_closed` or `set_error`. -/
def TaskEvent.isTerminal : TaskEvent crates → Bool
  | .set call => call.isTerminal
  | _ => false

def ServerEvent.isTerminalOf (index : Nat) : ServerEvent crates → Bool
  | .task other event => other = index && event.isTerminal
  | _ => false

/-- The terminal status updates a task has issued in a run. -/
def terminalCalls (index : Nat) (events : List (ServerEvent crates)) : Nat :=
  events.countP (ServerEvent.isTerminalOf index)

@[simp] theorem registrationsIn_append (before after : List (ServerEvent crates)) :
    registrationsIn (before ++ after) = registrationsIn before + registrationsIn after :=
  List.countP_append

@[simp] theorem terminalCalls_append (index : Nat) (before after : List (ServerEvent crates)) :
    terminalCalls index (before ++ after) =
      terminalCalls index before + terminalCalls index after :=
  List.countP_append

/-! ## What a step can do -/

namespace ConnectionTask

variable {now : Nat} {nextId : UInt64} {task next : ConnectionTask} {event : TaskEvent crates}
  {call : Option TrackerEvent}

inductive Move (now : Nat) (nextId : UInt64) (task : ConnectionTask) :
    TaskEvent crates → ConnectionTask → Option TrackerEvent → Prop where
  | allocate (inStage : task.stage = .accepted) :
      Move now nextId task .allocate { task with stage := .registering nextId } (some .allocate)
  | register {id : UInt64} {startTime : Text} (inStage : task.stage = .registering id) :
      Move now nextId task (.register startTime)
        { task with stage := .registered id, lookup := .first }
        (some (.register id (task.registration startTime)))
  | beginHandshake {id : UInt64} (inStage : task.stage = .registered id) :
      Move now nextId task .beginHandshake { task with stage := .handshaking id now } none
  | endHandshake {id : UInt64} {since : Nat} {finished : FinishedHandshake crates}
      (inStage : task.stage = .handshaking id since) :
      Move now nextId task (.endHandshake finished)
        { task with stage := .afterHandshake id finished.result } none
  | report {id : UInt64} {handed : HandshakeResult} {done : Nat} {due : Setter}
      (inStage : task.stage = .established id handed done)
      (isDue : (reports handed)[done]? = some due) :
      Move now nextId task (.set due) { task with stage := .established id handed (done + 1) }
        (some (.set id due now))
  | conclude {id : UInt64} {due : Setter} {result : Except Text Unit}
      (inStage : task.stage = .concluding id due result) :
      Move now nextId task (.set due) { task with stage := .returned id result }
        (some (.set id due now))
  | beginRelay {id : UInt64} {handed : HandshakeResult} {done : Nat}
      (inStage : task.stage = .established id handed done)
      (reported : (reports handed)[done]? = none) :
      Move now nextId task .beginRelay
        { task with stage := .relaying id (.start handed.leftover handed.targetLeftover now) } none
  | relay {id : UInt64} {relay moved : Relay} {event : RelayEvent}
      (inStage : task.stage = .relaying id relay) (stepped : relay.step now event = some moved) :
      Move now nextId task (.relay event) { task with stage := .afterRelay id moved } none
  | lookup {id : UInt64} {exe : Option Text} {after : LookupStage}
      (inStage : task.stage.id? = some id) :
      Move now nextId task (.lookup exe) { task with lookup := after }
        (exe.map fun name => .set id (.setExeName name) now)

theorem callSetter_move {setter : Setter}
    (stepped : task.callSetter now setter = some (next, call)) :
    Move now nextId task (.set setter : TaskEvent crates) next call := by
  unfold callSetter at stepped
  split at stepped
  · next id handed done inStage =>
      split at stepped
      · next isDue =>
          cases stepped
          exact .report inStage isDue
      · exact absurd stepped nofun
  · next id due result inStage =>
      split at stepped
      · next same =>
          cases stepped
          rw [← same]
          exact .conclude inStage
      · exact absurd stepped nofun
  · exact absurd stepped nofun

theorem answerLookup_move {exe : Option Text}
    (stepped : task.answerLookup now exe = some (next, call)) :
    Move now nextId task (.lookup exe : TaskEvent crates) next call := by
  unfold answerLookup at stepped
  split at stepped
  · exact absurd stepped nofun
  · next id holds =>
      dsimp only at stepped
      split at stepped
      · cases stepped
        exact .lookup holds
      · split at stepped
        · cases stepped
          exact .lookup holds
        · exact absurd stepped nofun
      · exact absurd stepped nofun

theorem step_move (stepped : task.step now nextId event = some (next, call)) :
    Move now nextId task event next call := by
  cases event with
  | allocate =>
      dsimp only [step] at stepped
      split at stepped
      · next inStage =>
          cases stepped
          exact .allocate inStage
      · exact absurd stepped nofun
  | register startTime =>
      dsimp only [step] at stepped
      split at stepped
      · next id inStage =>
          cases stepped
          exact .register inStage
      · exact absurd stepped nofun
  | beginHandshake =>
      dsimp only [step] at stepped
      split at stepped
      · next id inStage =>
          cases stepped
          exact .beginHandshake inStage
      · exact absurd stepped nofun
  | endHandshake finished =>
      dsimp only [step] at stepped
      split at stepped
      · next id since inStage =>
          split at stepped
          · cases stepped
            exact .endHandshake inStage
          · exact absurd stepped nofun
      · exact absurd stepped nofun
  | set setter => exact callSetter_move stepped
  | beginRelay =>
      dsimp only [step] at stepped
      split at stepped
      · next id handed done inStage =>
          split at stepped
          · next reported =>
              cases stepped
              exact .beginRelay inStage reported
          · exact absurd stepped nofun
      · exact absurd stepped nofun
  | relay event =>
      dsimp only [step] at stepped
      split at stepped
      · next id relay inStage =>
          obtain ⟨moved, relayStepped, same⟩ := Option.map_eq_some_iff.mp stepped
          cases same
          exact .relay inStage relayStepped
      · exact absurd stepped nofun
  | lookup exe => exact answerLookup_move stepped

end ConnectionTask

namespace Server

variable {server next : Server} {event : ServerEvent crates}

/-- A step moves the clock, accepts a connection, moves one task with its
tracker call, or moves a snapshot. -/
inductive Move (server : Server) : ServerEvent crates → Server → Prop where
  | tick {duration : Nat} : Move server (.tick duration) { server with now := server.now + duration }
  | accept {peerAddr : Text} (room : server.unfinished < server.permits) :
      Move server (.accept peerAddr)
        { server with tasks := server.tasks ++ [newTask server.tasks.length peerAddr] }
  | reject {peerAddr : Text} (full : ¬ server.unfinished < server.permits) :
      Move server (.accept peerAddr) server
  | task {index : Nat} {event : TaskEvent crates} {task moved : ConnectionTask}
      {call : Option TrackerEvent} {tracker : TrackerSystem}
      (inStage : server.tasks[index]? = some task)
      (move : ConnectionTask.Move server.now server.tracker.tracker.nextId task event moved call)
      (performed : perform server.tracker call = some tracker) :
      Move server (.task index event)
        { server with tracker := tracker, tasks := server.tasks.set index moved }
  | count : Move server .count { server with tracker := server.tracker.count }
  | snapshot {count : UInt64} {delay : UInt64 → Nat} {tracker : TrackerSystem}
      (stepped : server.tracker.step (.snapshot count fun id => server.now + delay id) =
        some tracker) :
      Move server (.snapshot count delay) { server with tracker := tracker }

theorem step_move (stepped : server.step event = some next) : Move server event next := by
  cases event with
  | tick duration =>
      cases stepped
      exact .tick
  | accept peerAddr =>
      dsimp only [step] at stepped
      split at stepped
      · next room =>
          cases stepped
          exact .accept room
      · next full =>
          cases stepped
          exact .reject full
  | task index event =>
      obtain ⟨task, inStage, rest⟩ := Option.bind_eq_some_iff.mp stepped
      obtain ⟨⟨moved, call⟩, taskStepped, rest⟩ := Option.bind_eq_some_iff.mp rest
      obtain ⟨tracker, performed, rest⟩ := Option.bind_eq_some_iff.mp rest
      cases rest
      exact .task inStage (ConnectionTask.step_move taskStepped) performed
  | count =>
      cases stepped
      exact .count
  | snapshot count delay =>
      obtain ⟨tracker, trackerStepped, rest⟩ := Option.bind_eq_some_iff.mp stepped
      cases rest
      exact .snapshot trackerStepped

end Server

/-! ## The tracker's share of a run -/

namespace Server

variable {server next first last : Server} {event : ServerEvent crates}
  {events : List (ServerEvent crates)}

theorem perform_run {tracker after : TrackerSystem} {call : Option TrackerEvent}
    (performed : perform tracker call = some after) :
    Machine.run TrackerSystem.step tracker call.toList = some after := by
  cases call with
  | none => exact performed
  | some event =>
      rw [Option.toList_some, Machine.run_cons]
      rw [show tracker.step event = some after from performed]
      rfl

theorem run_single {tracker after : TrackerSystem} {event : TrackerEvent}
    (stepped : tracker.step event = some after) :
    Machine.run TrackerSystem.step tracker [event] = some after := by
  have performed : perform tracker (some event) = some after := stepped
  exact perform_run performed

/-- A step of the server is at most one step of the tracker. It begins a
registration exactly when the tracker allocates. -/
theorem tracker_step (stepped : server.step event = some next) :
    ∃ trackerEvents, Machine.run TrackerSystem.step server.tracker trackerEvents =
        some next.tracker ∧
      allocations trackerEvents = registrationsIn [event] := by
  cases step_move stepped with
  | tick => exact ⟨[], rfl, rfl⟩
  | accept => exact ⟨[], rfl, rfl⟩
  | reject => exact ⟨[], rfl, rfl⟩
  | @task index event task moved call tracker inStage move performed =>
      refine ⟨call.toList, perform_run performed, ?_⟩
      cases move with
      | allocate | register | beginHandshake | endHandshake | report => rfl
      | conclude | beginRelay | relay => rfl
      | @lookup id exe after holds =>
          cases exe with
          | none => rfl
          | some name => rfl
  | count => exact ⟨[.count], rfl, rfl⟩
  | snapshot trackerStepped => exact ⟨_, run_single trackerStepped, rfl⟩

/-- A run of the server is a run of the tracker. -/
theorem tracker_run (run : Machine.run step first events = some last) :
    ∃ trackerEvents, Machine.run TrackerSystem.step first.tracker trackerEvents =
        some last.tracker ∧
      allocations trackerEvents = registrationsIn events := by
  refine Machine.run_history (fun events server => ∃ trackerEvents,
    Machine.run TrackerSystem.step first.tracker trackerEvents = some server.tracker ∧
      allocations trackerEvents = registrationsIn events) ⟨[], rfl, rfl⟩ ?_ run
  intro history server event next held stepped
  obtain ⟨before, run, counted⟩ := held
  obtain ⟨after, trackerStepped, countedStep⟩ := tracker_step stepped
  refine ⟨before ++ after, Machine.run_append_eq_some.mpr ⟨_, run, trackerStepped⟩, ?_⟩
  rw [allocations_append, registrationsIn_append, counted, countedStep]

end Server

end SimpleForwarder

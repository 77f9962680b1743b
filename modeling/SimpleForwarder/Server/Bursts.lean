import SimpleForwarder.ReferenceCrates
import SimpleForwarder.Server.System

/-!
Contract: runs of many short connections.

Owns: the run of one connection that is refused in its handshake, the run of
any number of them one after the other, and what it leaves in the tracker: from
5000 on, only their own ids (`Server.run_burst`).

Does not own: the laws these runs are measured against.
-/

namespace SimpleForwarder

open RustText EffectProgram OrderedTable

/-- A SOCKS4 client that asks for another command than CONNECT. -/
def unsupportedCommand (command : UInt8) : Script where
  client := [0x04, command, 0x00, 0x50, 10, 0, 0, 1]
  target := []
  connects := .ok ()
  lookups := []

def unsupportedText (command : UInt8) : Text :=
  "Unsupported SOCKS4 command: ".toList ++ decimal command.toNat

/-- The handshake of such a client. -/
def refusedHandshake (command : UInt8)
    (refused : (exec Script.answer 0 (handshake referenceCrates none [])
      (unsupportedCommand command)).2 = .returned (some (.error (unsupportedText command)))) :
    FinishedHandshake referenceCrates where
  localAddr := none
  rules := []
  start := 0
  stop := 0
  events := (exec Script.answer 0 (handshake referenceCrates none []) (unsupportedCommand command)).1
  result := some (.error (unsupportedText command))
  run := by
    rw [← refused]
    exact runs_exec Script.answer 0 _ _

def bindRefused : FinishedHandshake referenceCrates := refusedHandshake 2 (by decide +kernel)

def associateRefused : FinishedHandshake referenceCrates := refusedHandshake 3 (by decide +kernel)

def startTime : Text := "2024-01-01 00:00:00".toList

/-- A connection is accepted and registered. -/
def registration (index : Nat) (peerAddr : Text) : List (ServerEvent referenceCrates) :=
  [.accept peerAddr, .task index .allocate, .task index (.register startTime)]

/-- Its handshake is refused, and it returns. -/
def refusal (index : Nat) (finished : FinishedHandshake referenceCrates) (text : Text) :
    List (ServerEvent referenceCrates) :=
  [.task index (.endHandshake finished), .task index (.set (.setError text))]

def shortLivedAddr : Text := "127.0.0.1:50000".toList

def shortLived (index : Nat) : List (ServerEvent referenceCrates) :=
  registration index shortLivedAddr ++
    .task index .beginHandshake :: refusal index bindRefused (unsupportedText 2)

/-- A connection that stays in its handshake. -/
def longLived : List (ServerEvent referenceCrates) :=
  registration 0 "127.0.0.1:40000".toList ++ [.task 0 .beginHandshake]

/-- One short connection after the other. -/
def burst : Nat → Nat → List (ServerEvent referenceCrates)
  | _, 0 => []
  | index, connections + 1 => shortLived index ++ burst (index + 1) connections

/-- The ids of consecutive registrations. -/
def idsFrom : UInt64 → Nat → List UInt64
  | _, 0 => []
  | id, connections + 1 => id :: idsFrom (id + 1) connections

theorem mem_idsFrom {id other : UInt64} {connections : Nat}
    (member : other ∈ idsFrom id connections) :
    ∃ offset < connections, other = id + UInt64.ofNat offset := by
  induction connections generalizing id with
  | zero => exact absurd member List.not_mem_nil
  | succ connections inductionHypothesis =>
      rcases List.mem_cons.mp member with same | later
      · exact ⟨0, Nat.succ_pos _, same.trans (UInt64.add_zero id).symm⟩
      · obtain ⟨offset, bound, same⟩ := inductionHypothesis later
        refine ⟨offset + 1, Nat.succ_lt_succ bound, ?_⟩
        rw [same, UInt64.ofNat_add, UInt64.add_comm (UInt64.ofNat offset), ← UInt64.add_assoc]
        rfl

theorem length_idsFrom (id : UInt64) (connections : Nat) :
    (idsFrom id connections).length = connections := by
  induction connections generalizing id with
  | zero => rfl
  | succ connections inductionHypothesis =>
      rw [idsFrom, List.length_cons, inductionHypothesis]

namespace Server

/-! ## One connection -/

variable {crates : Crates}

theorem step_task {server : Server} {index : Nat} {task moved : ConnectionTask}
    {event : TaskEvent crates} {call : Option TrackerEvent} {tracker : TrackerSystem}
    (found : server.tasks[index]? = some task)
    (stepped : task.step server.now server.tracker.tracker.nextId event = some (moved, call))
    (performed : perform server.tracker call = some tracker) :
    server.step (.task index event) =
      some { server with tracker := tracker, tasks := server.tasks.set index moved } := by
  simp only [step, found, Option.bind_eq_bind, Option.bind_some, stepped, performed]

/-- The server with a task that was accepted last. -/
def withLast (server : Server) (tracker : TrackerSystem) (task : ConnectionTask) : Server :=
  { server with tracker := tracker, tasks := server.tasks ++ [task] }

theorem found_withLast (server : Server) (tracker : TrackerSystem) (task : ConnectionTask) :
    (server.withLast tracker task).tasks[server.tasks.length]? = some task :=
  List.getElem?_concat_length

theorem set_withLast (server : Server) (tracker : TrackerSystem) (task moved : ConnectionTask) :
    (server.withLast tracker task).tasks.set server.tasks.length moved =
      server.tasks ++ [moved] := by
  unfold withLast
  rw [List.set_append_right _ _ (Nat.le_refl _), Nat.sub_self, List.set_cons_zero]

theorem step_withLast {server : Server} {task moved : ConnectionTask} {event : TaskEvent crates}
    {call : Option TrackerEvent} {tracker after : TrackerSystem}
    (stepped : task.step server.now tracker.tracker.nextId event = some (moved, call))
    (performed : perform tracker call = some after) :
    (server.withLast tracker task).step (.task server.tasks.length event) =
      some (server.withLast after moved) := by
  rw [step_task (found_withLast server tracker task) stepped performed, set_withLast]
  rfl

def registeredTask (index : Nat) (peerAddr : Text) (id : UInt64) : ConnectionTask :=
  { newTask index peerAddr with stage := .registered id, lookup := .first }

/-- The server after a registration. -/
def registered (server : Server) (peerAddr : Text) : Server :=
  server.withLast
    (server.tracker.registerAtOnce ((newTask server.tasks.length peerAddr).registration startTime))
    (registeredTask server.tasks.length peerAddr server.tracker.tracker.nextId)

theorem run_registration (server : Server) (room : server.unfinished < server.permits)
    (peerAddr : Text) :
    Machine.run step server (registration server.tasks.length peerAddr) =
      some (server.registered peerAddr) := by
  let task := newTask server.tasks.length peerAddr
  let allocated := { task with stage := .registering server.tracker.tracker.nextId }
  have accept : server.step (.accept peerAddr : ServerEvent referenceCrates) =
      some (server.withLast server.tracker task) := if_pos room
  have allocate : (server.withLast server.tracker task).step
      (.task server.tasks.length .allocate : ServerEvent referenceCrates) =
      some (server.withLast server.tracker.allocate allocated) := step_withLast rfl rfl
  have register : (server.withLast server.tracker.allocate allocated).step
      (.task server.tasks.length (.register startTime) : ServerEvent referenceCrates) =
      some (server.registered peerAddr) := step_withLast rfl (server.tracker.step_register _)
  rw [registration, Machine.run_cons_of_step accept, Machine.run_cons_of_step allocate,
    Machine.run_cons_of_step register, Machine.run_nil]

def handshakingTask (index : Nat) (peerAddr : Text) (id : UInt64) (now : Nat) : ConnectionTask :=
  { registeredTask index peerAddr id with stage := .handshaking id now }

theorem step_beginHandshake (server : Server) (peerAddr : Text) :
    (server.registered peerAddr).step
        (.task server.tasks.length .beginHandshake : ServerEvent referenceCrates) =
      some (server.withLast (server.registered peerAddr).tracker
        (handshakingTask server.tasks.length peerAddr server.tracker.tracker.nextId server.now)) :=
  step_withLast rfl rfl

/-- The tracker after a refusal. -/
def refusedTracker (tracker : TrackerSystem) (id : UInt64) (text : Text) (now : Nat) :
    TrackerSystem :=
  tracker.withState (tracker.state.set id (.setError text) now)

theorem entry_refusedTracker {tracker : TrackerSystem} {id : UInt64} {c : ConnectionInfo}
    (text : Text) (now : Nat) (entry : tracker.state.entries id = some c) :
    (refusedTracker tracker id text now).state.entries id =
      some ((Setter.setError text).change now c) :=
  entries_modify_self entry

theorem run_refusal {server : Server} {index : Nat} {task : ConnectionTask} {id : UInt64}
    {finished : FinishedHandshake referenceCrates} {text : Text}
    (found : server.tasks[index]? = some task)
    (inStage : task.stage = .handshaking id finished.start) (now : finished.stop = server.now)
    (refused : finished.result = some (.error text)) :
    Machine.run step server (refusal index finished text) =
      some { server with
        tracker := refusedTracker server.tracker id text server.now
        tasks := server.tasks.set index { task with stage := .returned id (.error text) } } := by
  let concluding := { task with stage := .concluding id (.setError text) (.error text) }
  have inside := (List.getElem?_eq_some_iff.mp found).1
  have stepped : task.step server.now server.tracker.tracker.nextId (.endHandshake finished) =
      some (concluding, none) := by
    dsimp only [ConnectionTask.step]
    rw [inStage]
    dsimp only
    rw [if_pos ⟨rfl, now⟩, refused]
    rfl
  have endHandshake : server.step (.task index (.endHandshake finished)) =
      some { server with tasks := server.tasks.set index concluding } :=
    step_task found stepped rfl
  have foundConcluding : (server.tasks.set index concluding)[index]? = some concluding :=
    List.getElem?_set_self inside
  have returns : concluding.step server.now server.tracker.tracker.nextId
      (.set (.setError text) : TaskEvent referenceCrates) =
      some ({ task with stage := .returned id (.error text) },
        some (.set id (.setError text) server.now)) := by
    dsimp only [ConnectionTask.step, ConnectionTask.callSetter, concluding]
    exact if_pos rfl
  have conclude : Server.step { server with tasks := server.tasks.set index concluding }
      (.task index (.set (.setError text)) : ServerEvent referenceCrates) =
      some { server with
        tracker := refusedTracker server.tracker id text server.now
        tasks := (server.tasks.set index concluding).set index
          { task with stage := .returned id (.error text) } } :=
    step_task foundConcluding returns rfl
  rw [refusal, Machine.run_cons_of_step endHandshake, Machine.run_cons_of_step conclude,
    Machine.run_nil, List.set_set]

/-- The server after a short connection. -/
def afterShortLived (server : Server) : Server :=
  let id := server.tracker.tracker.nextId
  let task := registeredTask server.tasks.length shortLivedAddr id
  server.withLast (refusedTracker (server.registered shortLivedAddr).tracker id (unsupportedText 2)
    server.now) { task with stage := .returned id (.error (unsupportedText 2)) }

theorem run_shortLived (server : Server) (room : server.unfinished < server.permits)
    (atStart : server.now = 0) :
    Machine.run step server (shortLived server.tasks.length) = some server.afterShortLived := by
  have refused : bindRefused.result = some (.error (unsupportedText 2)) := rfl
  have ends := run_refusal (found_withLast server (server.registered shortLivedAddr).tracker
    (handshakingTask server.tasks.length shortLivedAddr server.tracker.tracker.nextId server.now))
    (congrArg _ atStart) atStart.symm refused
  rw [shortLived, Machine.run_append, run_registration server room, Option.bind_some,
    Machine.run_cons_of_step (server.step_beginHandshake shortLivedAddr), ends, set_withLast]
  rfl

/-! ## A burst -/

/-- What a burst leaves. -/
structure AfterBurst (server : Server) (connections : Nat) (last : Server) : Prop where
  now : last.now = server.now
  permits : last.permits = server.permits
  unfinished : last.unfinished = server.unfinished
  tasks : ∃ extra, extra.length = connections ∧ last.tasks = server.tasks ++ extra
  nextId : last.tracker.tracker.nextId = server.tracker.tracker.nextId + UInt64.ofNat connections
  order : last.tracker.state.order <:+
    server.tracker.state.order ++ idsFrom server.tracker.tracker.nextId connections

theorem AfterBurst.refl (server : Server) : AfterBurst server 0 server where
  now := rfl
  permits := rfl
  unfinished := rfl
  tasks := ⟨[], rfl, (List.append_nil _).symm⟩
  nextId := (UInt64.add_zero _).symm
  order := by
    rw [idsFrom, List.append_nil]

theorem order_afterShortLived (server : Server) :
    server.afterShortLived.tracker.state.order <:+
      server.tracker.state.order ++ [server.tracker.tracker.nextId] := by
  change OrderedTable.order (OrderedTable.modify _ _ _) <:+ _
  rw [order_modify]
  change OrderedTable.order (OrderedTable.insert _ _ _ _) <:+ _
  rw [order_insert]
  exact List.drop_suffix _ _

theorem unfinished_afterShortLived (server : Server) :
    server.afterShortLived.unfinished = server.unfinished := by
  unfold unfinished
  exact List.countP_append

theorem AfterBurst.cons {server last : Server} {connections : Nat}
    (rest : AfterBurst server.afterShortLived connections last) :
    AfterBurst server (connections + 1) last where
  now := rest.now
  permits := rest.permits
  unfinished := rest.unfinished.trans server.unfinished_afterShortLived
  tasks := by
    obtain ⟨extra, length, tasks⟩ := rest.tasks
    refine ⟨_ :: extra, ?_, tasks.trans (List.append_assoc _ [_] _)⟩
    rw [List.length_cons, length]
  nextId := by
    rw [rest.nextId, UInt64.ofNat_add, UInt64.add_comm (UInt64.ofNat connections),
      ← UInt64.add_assoc]
    rfl
  order := by
    obtain ⟨evicted, order⟩ := server.order_afterShortLived
    refine rest.order.trans ⟨evicted, ?_⟩
    rw [← List.append_assoc, order, List.append_assoc]
    rfl

theorem run_burst (server : Server) (room : server.unfinished < server.permits)
    (atStart : server.now = 0) (connections : Nat) :
    ∃ last, Machine.run step server (burst server.tasks.length connections) = some last ∧
      AfterBurst server connections last := by
  induction connections generalizing server with
  | zero => exact ⟨server, rfl, .refl server⟩
  | succ connections inductionHypothesis =>
      have first := run_shortLived server room atStart
      have stillRoom : server.afterShortLived.unfinished < server.afterShortLived.permits := by
        rw [unfinished_afterShortLived]
        exact room
      obtain ⟨last, run, after⟩ := inductionHypothesis _ stillRoom atStart
      have longer : server.afterShortLived.tasks.length = server.tasks.length + 1 :=
        List.length_append
      rw [longer] at run
      exact ⟨last, Machine.run_append_eq_some.mpr ⟨_, first, run⟩, after.cons⟩

/-- From 5000 connections on, a burst leaves only its own ids. -/
theorem AfterBurst.order_subset {server last : Server} {connections : Nat}
    (after : AfterBurst server connections last)
    (full : ConnectionTracker.maxConnections ≤ connections)
    (capacity : last.tracker.state.order.length ≤ ConnectionTracker.maxConnections) :
    ∀ id ∈ last.tracker.state.order, id ∈ idsFrom server.tracker.tracker.nextId connections := by
  have fits : last.tracker.state.order.length ≤
      (idsFrom server.tracker.tracker.nextId connections).length := by
    rw [length_idsFrom]
    exact Nat.le_trans capacity full
  have suffix := List.suffix_of_suffix_length_le after.order (List.suffix_append _ _) fits
  exact fun id member => suffix.subset member

/-! ## A burst beside a long connection -/

def longLivedTask : ConnectionTask :=
  { newTask 0 "127.0.0.1:40000".toList with stage := .handshaking 1 0, lookup := .first }

/-- The long connection has id 1 and is not listed any more. -/
structure AfterLongBurst (connections : Nat) (last : Server) : Prop where
  now : last.now = 0
  room : last.unfinished < last.permits
  nextId : last.tracker.tracker.nextId = 2 + UInt64.ofNat connections
  evicted : (1 : UInt64) ∉ last.tracker.state.order
  length : last.tasks.length = connections + 1
  task : last.tasks[0]? = some longLivedTask

theorem run_longBurst {connections : Nat} (full : ConnectionTracker.maxConnections ≤ connections)
    (few : connections < 2 ^ 64) :
    ∃ last, Machine.run step (start ProxyServer.maxConnections)
        (longLived ++ burst 1 connections) = some last ∧ AfterLongBurst connections last := by
  let opened := (Machine.run step (start ProxyServer.maxConnections) longLived).get
    (by decide +kernel)
  have toOpened : Machine.run step (start ProxyServer.maxConnections) longLived = some opened :=
    (Option.some_get _).symm
  have room : opened.unfinished < opened.permits := by decide +kernel
  have atStart : opened.now = 0 := by decide +kernel
  have openedId : opened.tracker.tracker.nextId = 2 := by decide +kernel
  have openedTasks : opened.tasks = [longLivedTask] := rfl
  obtain ⟨last, run, after⟩ := run_burst opened room atStart connections
  rw [openedTasks, List.length_singleton] at run
  have toLast := Machine.run_append_eq_some.mpr ⟨opened, toOpened, run⟩
  obtain ⟨extra, length, tasks⟩ := after.tasks
  rw [openedTasks] at tasks
  refine ⟨last, toLast, after.now.trans atStart, ?_, ?_, ?_, ?_, ?_⟩
  · rw [after.unfinished, after.permits]
    exact room
  · rw [after.nextId, openedId]
  · obtain ⟨_, trackerRun, -⟩ := tracker_run toLast
    have capacity := (TrackerSystem.reached_of_run trackerRun).bounded.capacity
    intro listed
    have inBurst := after.order_subset full capacity 1 listed
    rw [openedId] at inBurst
    obtain ⟨offset, bound, same⟩ := mem_idsFrom inBurst
    have values := congrArg UInt64.toNat same
    rw [UInt64.toNat_add, UInt64.toNat_ofNat'] at values
    change 1 = (2 + offset % 2 ^ 64) % 2 ^ 64 at values
    omega
  · rw [tasks, List.length_append, length, List.length_singleton, Nat.add_comm]
  · rw [tasks]
    rfl

end Server

end SimpleForwarder

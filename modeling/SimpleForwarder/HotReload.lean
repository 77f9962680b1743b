import SimpleForwarder.Lib.Machine
import SimpleForwarder.ProxyServer.Connect
import SimpleForwarder.ReferenceCrates
import Mathlib.Data.List.Forall2

/-!
Contract: the hot reload of the rule list (`run_app_init` in `main.rs`,
`Config::from_file`, the `rules.load()` of `handle_connection`).

Owns: the watcher's channel of one token, the stages of the reload loop, the
stores, and the connections that route meanwhile; and the law that no change of
the file is lost, no failed reload touches the active rules, and a connection
routes by one configuration (`hot_reload`).

The YAML parser is the parameter `parseYaml`. The file is a value that anyone may
change at any time, and a read takes the value it has at one instant. Clock
values are milliseconds.

Does not own: what a rule list selects (`Selects`).
-/

namespace SimpleForwarder

open RustText IpText

/-- `String::from_utf8`: the lossy decoding of valid text loses nothing. -/
def fromUtf8 (bytes : Bytes) : Option Text :=
  if asBytes (fromUtf8Lossy bytes) = bytes then some (fromUtf8Lossy bytes) else none

/-- What a read of the file gives: its bytes, or the error. -/
abbrev FileContent := Except Text Bytes

section Loading

variable (crates : Crates) (parseYaml : Text → Except Text Config)

def Config.fromFile (content : FileContent) : Except Text Config := do
  match fromUtf8 (← content) with
  | some text => parseYaml text
  | none => .error "stream did not contain valid UTF-8".toList

/-- The rule list of a content: `Config::from_file`, then `parse_rules`. -/
def loadRules (content : FileContent) : Except Text (List (RuleMatcher × ProxyConfig)) := do
  parseRules crates (← Config.fromFile parseYaml content)

end Loading

/-! ## The reload loop -/

/-- `Small delay to ensure file is completely written`, in milliseconds. -/
def reloadDelay : Nat := 100

/-- In milliseconds. -/
def reloadTimeout : Nat := 5000

/-- Where the reload loop is. -/
inductive ReloadPhase where
  /-- In `watch_rx.recv()`. -/
  | waiting
  | delaying (wakeAt : Nat)
  /-- In `Config::from_file`, with the content once it has been taken. -/
  | reading (deadline : Nat) (taken : Option FileContent)
  | storing (rules : List (RuleMatcher × ProxyConfig))

/-- A connection with the list its `rules.load()` gave it and what it has chosen
by that list. -/
structure RoutedConnection where
  rules : List (RuleMatcher × ProxyConfig)
  choices : List (Text × Option IpAddr × Option ProxyConfig)

/-- `connect_to_target` under the connection's guard. -/
def RoutedConnection.choose (connection : RoutedConnection) (host : Text) (ip : Option IpAddr) :
    RoutedConnection where
  rules := connection.rules
  choices := connection.choices ++ [(host, ip, chosenProxy connection.rules host ip)]

structure Reloader where
  file : FileContent
  /-- The channel holds its token. -/
  token : Bool
  phase : ReloadPhase
  active : List (RuleMatcher × ProxyConfig)
  connections : List RoutedConnection
  now : Nat

inductive ReloadEvent where
  | tick (duration : Nat)
  | change (content : FileContent)
  /-- The watcher's callback for a modify event. -/
  | notify
  | receive
  | startRead
  | takeContent
  | endRead
  | failRead
  | timeOut
  | store
  | accept
  | route (index : Nat) (host : Text) (ip : Option IpAddr)

namespace Reloader

variable (crates : Crates) (parseYaml : Text → Except Text Config)

/-- The program after its start with the content `startup`, when the watch is
installed. The file may have changed since it was read. -/
def start (startup file : FileContent) : Except Text Reloader := do
  let rules ← loadRules crates parseYaml startup
  return { file := file, token := false, phase := .waiting, active := rules, connections := []
           now := 0 }

/-- The end of a read that took the content. -/
def afterRead (content : FileContent) : ReloadPhase :=
  match loadRules crates parseYaml content with
  | .ok rules => .storing rules
  | .error _ => .waiting

def step (reloader : Reloader) : ReloadEvent → Option Reloader
  | .tick duration => some { reloader with now := reloader.now + duration }
  | .change content => some { reloader with file := content }
  -- `try_send`: a second token is dropped
  | .notify => some { reloader with token := true }
  | .receive =>
      match reloader.phase, reloader.token with
      | .waiting, true =>
          some { reloader with token := false, phase := .delaying (reloader.now + reloadDelay) }
      | _, _ => none
  | .startRead =>
      match reloader.phase with
      | .delaying wakeAt =>
          if wakeAt ≤ reloader.now then
            some { reloader with phase := .reading (reloader.now + reloadTimeout) none }
          else none
      | _ => none
  | .takeContent =>
      match reloader.phase with
      | .reading deadline none =>
          some { reloader with phase := .reading deadline (some reloader.file) }
      | _ => none
  | .endRead =>
      match reloader.phase with
      | .reading _ (some content) =>
          some { reloader with phase := afterRead crates parseYaml content }
      | _ => none
  | .failRead =>
      match reloader.phase with
      | .reading _ _ => some { reloader with phase := .waiting }
      | _ => none
  | .timeOut =>
      match reloader.phase with
      | .reading deadline _ =>
          if deadline ≤ reloader.now then some { reloader with phase := .waiting } else none
      | _ => none
  | .store =>
      match reloader.phase with
      | .storing rules => some { reloader with phase := .waiting, active := rules }
      | _ => none
  | .accept =>
      some { reloader with connections := reloader.connections ++ [⟨reloader.active, []⟩] }
  | .route index host ip => do
      let connection ← reloader.connections[index]?
      some { reloader with
             connections := reloader.connections.set index (connection.choose host ip) }

end Reloader

/-! ## What a step can do -/

namespace Reloader

variable {crates : Crates} {parseYaml : Text → Except Text Config}
variable {reloader next : Reloader} {event : ReloadEvent}

inductive Move (crates : Crates) (parseYaml : Text → Except Text Config) (reloader : Reloader) :
    ReloadEvent → Reloader → Prop where
  | tick (duration : Nat) :
      Move crates parseYaml reloader (.tick duration)
        { reloader with now := reloader.now + duration }
  | change (content : FileContent) :
      Move crates parseYaml reloader (.change content) { reloader with file := content }
  | notify : Move crates parseYaml reloader .notify { reloader with token := true }
  | receive (phase : reloader.phase = .waiting) (token : reloader.token = true) :
      Move crates parseYaml reloader .receive
        { reloader with token := false, phase := .delaying (reloader.now + reloadDelay) }
  | startRead {wakeAt : Nat} (phase : reloader.phase = .delaying wakeAt) :
      Move crates parseYaml reloader .startRead
        { reloader with phase := .reading (reloader.now + reloadTimeout) none }
  | takeContent {deadline : Nat} (phase : reloader.phase = .reading deadline none) :
      Move crates parseYaml reloader .takeContent
        { reloader with phase := .reading deadline (some reloader.file) }
  | endRead {deadline : Nat} {content : FileContent}
      (phase : reloader.phase = .reading deadline (some content)) :
      Move crates parseYaml reloader .endRead
        { reloader with phase := afterRead crates parseYaml content }
  | failRead {deadline : Nat} {taken : Option FileContent}
      (phase : reloader.phase = .reading deadline taken) :
      Move crates parseYaml reloader .failRead { reloader with phase := .waiting }
  | timeOut {deadline : Nat} {taken : Option FileContent}
      (phase : reloader.phase = .reading deadline taken) (due : deadline ≤ reloader.now) :
      Move crates parseYaml reloader .timeOut { reloader with phase := .waiting }
  | store {rules : List (RuleMatcher × ProxyConfig)} (phase : reloader.phase = .storing rules) :
      Move crates parseYaml reloader .store { reloader with phase := .waiting, active := rules }
  | accept :
      Move crates parseYaml reloader .accept
        { reloader with connections := reloader.connections ++ [⟨reloader.active, []⟩] }
  | route {index : Nat} {connection : RoutedConnection} (host : Text) (ip : Option IpAddr)
      (found : reloader.connections[index]? = some connection) :
      Move crates parseYaml reloader (.route index host ip)
        { reloader with
          connections := reloader.connections.set index (connection.choose host ip) }

theorem move_of_step (stepped : step crates parseYaml reloader event = some next) :
    Move crates parseYaml reloader event next := by
  cases event with
  | tick duration => cases stepped; exact .tick duration
  | change content => cases stepped; exact .change content
  | notify => cases stepped; exact .notify
  | receive =>
      simp only [step] at stepped
      split at stepped
      next phase token => cases stepped; exact .receive phase token
      next => cases stepped
  | startRead =>
      simp only [step] at stepped
      split at stepped
      next wakeAt phase =>
        split at stepped
        next => cases stepped; exact .startRead phase
        next => cases stepped
      next => cases stepped
  | takeContent =>
      simp only [step] at stepped
      split at stepped
      next phase => cases stepped; exact .takeContent phase
      next => cases stepped
  | endRead =>
      simp only [step] at stepped
      split at stepped
      next phase => cases stepped; exact .endRead phase
      next => cases stepped
  | failRead =>
      simp only [step] at stepped
      split at stepped
      next phase => cases stepped; exact .failRead phase
      next => cases stepped
  | timeOut =>
      simp only [step] at stepped
      split at stepped
      next phase =>
        split at stepped
        next due => cases stepped; exact .timeOut phase due
        next => cases stepped
      next => cases stepped
  | store =>
      simp only [step] at stepped
      split at stepped
      next phase => cases stepped; exact .store phase
      next => cases stepped
  | accept => cases stepped; exact .accept
  | route index host ip =>
      obtain ⟨connection, found, stepped⟩ := Option.bind_eq_some_iff.mp stepped
      cases stepped
      exact .route host ip found

end Reloader

/-! ## The rule list of one content -/

section Contents

variable {crates : Crates} {parseYaml : Text → Except Text Config}

/-- Every rule of the configuration is parsed, and the results stand in its
order. -/
def Loads (crates : Crates) (parseYaml : Text → Except Text Config) (content : FileContent)
    (config : Config) (rules : List (RuleMatcher × ProxyConfig)) : Prop :=
  Config.fromFile parseYaml content = .ok config ∧
    List.Forall₂ (fun rule parsed => parseRule crates rule = .ok parsed) config.rules rules

theorem parseRules_eq_ok_iff {config : Config} {rules : List (RuleMatcher × ProxyConfig)} :
    parseRules crates config = .ok rules ↔
      List.Forall₂ (fun rule parsed => parseRule crates rule = .ok parsed) config.rules rules := by
  obtain ⟨configured⟩ := config
  unfold parseRules
  dsimp only
  induction configured generalizing rules with
  | nil =>
      rw [List.forall₂_nil_left_iff, List.mapM_nil]
      constructor
      · intro accepted
        cases accepted
        rfl
      · rintro rfl
        rfl
  | cons rule configured inductionHypothesis =>
      constructor
      · intro accepted
        obtain ⟨first, rest, rfl, head, tail⟩ := mapM_parseRule_cons accepted
        exact .cons head (inductionHypothesis.mp tail)
      · intro parsed
        cases parsed with
        | cons head tail =>
            rw [List.mapM_cons, head, inductionHypothesis.mpr tail]
            rfl

/-- A content gives a rule list exactly if it can be read, its YAML is a
configuration and every rule of it is accepted. -/
theorem loadRules_eq_ok_iff {content : FileContent} {rules : List (RuleMatcher × ProxyConfig)} :
    loadRules crates parseYaml content = .ok rules ↔
      ∃ config, Loads crates parseYaml content config rules := by
  unfold loadRules Loads
  cases read : Config.fromFile parseYaml content with
  | error error =>
      constructor
      · exact nofun
      · rintro ⟨config, impossible, -⟩
        cases impossible
  | ok config =>
      constructor
      · intro accepted
        exact ⟨config, rfl, parseRules_eq_ok_iff.mp accepted⟩
      · rintro ⟨_, ⟨⟩, parsed⟩
        exact parseRules_eq_ok_iff.mpr parsed

end Contents

/-! ## The active list is that of one content -/

namespace Reloader

variable {crates : Crates} {parseYaml : Text → Except Text Config} {startup : FileContent}
variable {reloader next first last : Reloader} {event : ReloadEvent}
variable {events history : List ReloadEvent}

/-- The content of the start, or one that a read of the run took. -/
def WasRead (crates : Crates) (parseYaml : Text → Except Text Config) (startup : FileContent)
    (first : Reloader) (events : List ReloadEvent) (content : FileContent) : Prop :=
  content = startup ∨ ∃ before after reloader, events = before ++ .takeContent :: after ∧
    Machine.run (step crates parseYaml) first before = some reloader ∧ content = reloader.file

/-- The rules are those of a content that was read. -/
def WasLoaded (crates : Crates) (parseYaml : Text → Except Text Config) (startup : FileContent)
    (first : Reloader) (events : List ReloadEvent) (rules : List (RuleMatcher × ProxyConfig)) :
    Prop :=
  ∃ content, WasRead crates parseYaml startup first events content ∧
    loadRules crates parseYaml content = .ok rules

/-- The connection took the active list when it was accepted, and chose by it. -/
def Guarded (crates : Crates) (parseYaml : Text → Except Text Config) (first : Reloader)
    (events : List ReloadEvent) (connection : RoutedConnection) : Prop :=
  (∃ before after accepted, events = before ++ .accept :: after ∧
    Machine.run (step crates parseYaml) first before = some accepted ∧
    connection.rules = accepted.active) ∧
  ∀ choice ∈ connection.choices, choice.2.2 = chosenProxy connection.rules choice.1 choice.2.1

theorem WasRead.concat {content : FileContent}
    (wasRead : WasRead crates parseYaml startup first events content) (event : ReloadEvent) :
    WasRead crates parseYaml startup first (events ++ [event]) content := by
  apply wasRead.imp id
  rintro ⟨before, after, reloader, rfl, reached, same⟩
  exact ⟨before, after ++ [event], reloader, by simp, reached, same⟩

theorem WasLoaded.concat {rules : List (RuleMatcher × ProxyConfig)}
    (loaded : WasLoaded crates parseYaml startup first events rules) (event : ReloadEvent) :
    WasLoaded crates parseYaml startup first (events ++ [event]) rules := by
  obtain ⟨content, wasRead, parsed⟩ := loaded
  exact ⟨content, wasRead.concat event, parsed⟩

theorem Guarded.concat {connection : RoutedConnection}
    (guarded : Guarded crates parseYaml first events connection) (event : ReloadEvent) :
    Guarded crates parseYaml first (events ++ [event]) connection := by
  apply guarded.imp_left
  rintro ⟨before, after, accepted, rfl, reached, same⟩
  exact ⟨before, after ++ [event], accepted, by simp, reached, same⟩

theorem Guarded.choose {connection : RoutedConnection}
    (guarded : Guarded crates parseYaml first events connection) (host : Text)
    (ip : Option IpAddr) :
    Guarded crates parseYaml first events (connection.choose host ip) := by
  apply guarded.imp_right
  intro chosen choice inside
  apply (List.mem_append.mp inside).elim (chosen choice)
  intro isNew
  rw [List.mem_singleton.mp isNew]

/-- What a reload in progress holds comes from a content that was read. -/
def PhaseLoaded (crates : Crates) (parseYaml : Text → Except Text Config) (startup : FileContent)
    (first : Reloader) (events : List ReloadEvent) : ReloadPhase → Prop
  | .reading _ (some content) => WasRead crates parseYaml startup first events content
  | .storing rules => WasLoaded crates parseYaml startup first events rules
  | _ => True

theorem PhaseLoaded.concat {phase : ReloadPhase}
    (loaded : PhaseLoaded crates parseYaml startup first events phase) (event : ReloadEvent) :
    PhaseLoaded crates parseYaml startup first (events ++ [event]) phase := by
  unfold PhaseLoaded at loaded ⊢
  split at loaded
  next => exact loaded.concat event
  next => exact WasLoaded.concat loaded event
  next => trivial

structure Inv (crates : Crates) (parseYaml : Text → Except Text Config) (startup : FileContent)
    (first : Reloader) (history : List ReloadEvent) (reloader : Reloader) : Prop where
  reached : Machine.run (step crates parseYaml) first history = some reloader
  active : WasLoaded crates parseYaml startup first history reloader.active
  phase : PhaseLoaded crates parseYaml startup first history reloader.phase
  connections : ∀ connection ∈ reloader.connections,
    Guarded crates parseYaml first history connection

theorem inv_start {file : FileContent} (started : start crates parseYaml startup file = .ok first) :
    Inv crates parseYaml startup first [] first := by
  unfold start at started
  cases loaded : loadRules crates parseYaml startup with
  | error error =>
      rw [loaded] at started
      cases started
  | ok rules =>
      rw [loaded] at started
      cases started
      exact
        { reached := rfl
          active := ⟨startup, .inl rfl, loaded⟩
          phase := trivial
          connections := nofun }

theorem Inv.step (inv : Inv crates parseYaml startup first history reloader)
    (stepped : Reloader.step crates parseYaml reloader event = some next) :
    Inv crates parseYaml startup first (history ++ [event]) next := by
  have reached := Machine.run_concat_eq_some.mpr ⟨reloader, inv.reached, stepped⟩
  have active := inv.active.concat event
  have phase := inv.phase.concat event
  have connections := fun connection inside => (inv.connections connection inside).concat event
  cases move_of_step stepped with
  | tick duration => exact ⟨reached, active, phase, connections⟩
  | change content => exact ⟨reached, active, phase, connections⟩
  | notify => exact ⟨reached, active, phase, connections⟩
  | receive => exact ⟨reached, active, trivial, connections⟩
  | startRead => exact ⟨reached, active, trivial, connections⟩
  | takeContent =>
      refine ⟨reached, active, .inr ⟨history, [], reloader, rfl, inv.reached, rfl⟩, connections⟩
  | endRead wasReading =>
      refine ⟨reached, active, ?_, connections⟩
      rw [wasReading] at phase
      unfold afterRead
      split
      next rules loaded => exact ⟨_, phase, loaded⟩
      next => trivial
  | failRead => exact ⟨reached, active, trivial, connections⟩
  | timeOut => exact ⟨reached, active, trivial, connections⟩
  | store wasStoring =>
      rw [wasStoring] at phase
      exact ⟨reached, phase, trivial, connections⟩
  | accept =>
      refine ⟨reached, active, phase, ?_⟩
      intro connection inside
      apply (List.mem_append.mp inside).elim (connections connection)
      intro isNew
      rw [List.mem_singleton.mp isNew]
      exact ⟨⟨history, [], reloader, rfl, inv.reached, rfl⟩, nofun⟩
  | route host ip found =>
      refine ⟨reached, active, phase, ?_⟩
      intro connection inside
      apply (List.mem_or_eq_of_mem_set inside).elim (connections connection)
      rintro rfl
      exact (connections _ (List.mem_of_getElem? found)).choose host ip

theorem inv_run {file : FileContent} (started : start crates parseYaml startup file = .ok first)
    (reached : Machine.run (Reloader.step crates parseYaml) first events = some last) :
    Inv crates parseYaml startup first events last :=
  Machine.run_history (Inv crates parseYaml startup first) (inv_start started)
    (fun _ _ _ _ inv stepped => inv.step stepped) reached

/-! ## No change is lost -/

section Notifications

variable {crates : Crates} {parseYaml : Text → Except Text Config}
variable {reloader next first last : Reloader} {event : ReloadEvent}
variable {events before after history : List ReloadEvent}

/-- A notification that no read has followed is in the channel, or the delay
before its read runs. -/
def Noticed (history : List ReloadEvent) (reloader : Reloader) : Prop :=
  .startRead ∈ history ∨ reloader.token = true ∨ ∃ wakeAt, reloader.phase = .delaying wakeAt

theorem Noticed.step (noticed : Noticed history reloader)
    (stepped : Reloader.step crates parseYaml reloader event = some next) :
    Noticed (history ++ [event]) next := by
  rcases noticed with started | token | delaying
  · exact .inl (List.mem_append_left _ started)
  · cases move_of_step stepped with
    | receive => exact .inr (.inr ⟨_, rfl⟩)
    | notify => exact .inr (.inl rfl)
    | _ => exact .inr (.inl token)
  · obtain ⟨wakeAt, delaying⟩ := delaying
    cases move_of_step stepped with
    | startRead => exact .inl (by simp)
    | receive phase => cases phase.symm.trans delaying
    | takeContent phase => cases phase.symm.trans delaying
    | endRead phase => cases phase.symm.trans delaying
    | failRead phase => cases phase.symm.trans delaying
    | timeOut phase => cases phase.symm.trans delaying
    | store phase => cases phase.symm.trans delaying
    | notify => exact .inr (.inl rfl)
    | _ => exact .inr (.inr ⟨wakeAt, delaying⟩)

/-- Every notification is followed by the start of a read, unless its token is
still in the channel or the reload loop is at work. -/
theorem read_after_notify
    (reached : Machine.run (Reloader.step crates parseYaml) first (before ++ .notify :: after) =
      some last)
    (empty : last.token = false) (waiting : last.phase = .waiting) : .startRead ∈ after := by
  obtain ⟨middle, -, rest⟩ := Machine.run_append_eq_some.mp reached
  have notified : Machine.run (Reloader.step crates parseYaml) { middle with token := true } after =
      some last := rest
  have noticed : Noticed after last :=
    Machine.run_history Noticed (.inr (.inl rfl)) (fun _ _ _ _ noticed stepped =>
      noticed.step stepped) notified
  rcases noticed with started | token | ⟨wakeAt, delaying⟩
  · exact started
  · rw [empty] at token
    cases token
  · cases waiting.symm.trans delaying

/-- What the loop holds, given the content of the file and its rules. -/
def PhaseReads (content : FileContent) (rules : List (RuleMatcher × ProxyConfig)) :
    ReloadPhase → Prop
  | .reading _ (some taken) => taken = content
  | .storing stored => stored = rules
  | _ => True

/-- Since the start of a read, while the file stays as it is: a read that has
ended has led to the rules of the content. -/
structure Reads (content : FileContent) (rules : List (RuleMatcher × ProxyConfig))
    (history : List ReloadEvent) (reloader : Reloader) : Prop where
  file : reloader.file = content
  phase : PhaseReads content rules reloader.phase
  stored : .endRead ∈ history → reloader.active = rules ∨ reloader.phase = .storing rules

variable {content : FileContent} {rules : List (RuleMatcher × ProxyConfig)}

theorem Reads.step (reads : Reads content rules history reloader)
    (loads : loadRules crates parseYaml content = .ok rules)
    (unchanged : ∀ other, event ≠ .change other)
    (stepped : Reloader.step crates parseYaml reloader event = some next) :
    Reads content rules (history ++ [event]) next := by
  have ended : event ≠ .endRead → .endRead ∈ history ++ [event] → .endRead ∈ history := by
    intro other inside
    apply (List.mem_append.mp inside).resolve_right
    simpa using other.symm
  have settled : event ≠ .endRead → (∀ stored, reloader.phase ≠ .storing stored) →
      .endRead ∈ history ++ [event] → reloader.active = rules := by
    intro other notStoring inside
    exact (reads.stored (ended other inside)).resolve_right (notStoring rules)
  have phase := reads.phase
  cases move_of_step stepped with
  | change content => exact absurd rfl (unchanged content)
  | tick duration => exact ⟨reads.file, phase, fun inside => reads.stored (ended nofun inside)⟩
  | notify => exact ⟨reads.file, phase, fun inside => reads.stored (ended nofun inside)⟩
  | accept => exact ⟨reads.file, phase, fun inside => reads.stored (ended nofun inside)⟩
  | route => exact ⟨reads.file, phase, fun inside => reads.stored (ended nofun inside)⟩
  | receive was =>
      exact ⟨reads.file, trivial, fun inside => .inl (settled nofun (by simp [was]) inside)⟩
  | startRead was =>
      exact ⟨reads.file, trivial, fun inside => .inl (settled nofun (by simp [was]) inside)⟩
  | takeContent was =>
      exact ⟨reads.file, reads.file, fun inside => .inl (settled nofun (by simp [was]) inside)⟩
  | endRead was =>
      rw [was] at phase
      have loaded : afterRead crates parseYaml content = .storing rules := by
        unfold afterRead
        rw [loads]
      obtain rfl : _ = content := phase
      refine ⟨reads.file, ?_, fun _ => .inr loaded⟩
      dsimp only
      rw [loaded]
      rfl
  | failRead was =>
      exact ⟨reads.file, trivial, fun inside => .inl (settled nofun (by simp [was]) inside)⟩
  | timeOut was =>
      exact ⟨reads.file, trivial, fun inside => .inl (settled nofun (by simp [was]) inside)⟩
  | store was =>
      rw [was] at phase
      exact ⟨reads.file, trivial, fun _ => .inl phase⟩

/-- Only a change of the file changes the file. -/
theorem file_of_unchanged
    (reached : Machine.run (Reloader.step crates parseYaml) first events = some last)
    (unchanged : ∀ other, .change other ∉ events) : last.file = first.file := by
  refine Machine.run_history (fun history reloader => (∀ other, .change other ∉ history) →
    reloader.file = first.file) (fun _ => rfl) ?_ reached unchanged
  intro history reloader event next same stepped unchanged
  have before := same fun other inside => unchanged other (List.mem_append_left _ inside)
  cases move_of_step stepped with
  | change content => exact absurd (by simp) (unchanged content)
  | _ => exact before

/-- A read that starts after the last change and ends leads to the rules of the
latest content. -/
theorem active_of_endRead
    (reached : Machine.run (Reloader.step crates parseYaml) first (before ++ .startRead :: after) =
      some last)
    (waiting : last.phase = .waiting) (unchanged : ∀ other, .change other ∉ after)
    (ended : .endRead ∈ after) (loads : loadRules crates parseYaml last.file = .ok rules) :
    last.active = rules := by
  obtain ⟨middle, -, rest⟩ := Machine.run_append_eq_some.mp reached
  obtain ⟨reading, started, rest⟩ := Option.bind_eq_some_iff.mp rest
  have sameFile := file_of_unchanged rest unchanged
  have reads : Reads last.file rules after last := by
    refine Machine.run_history (fun history reloader => (∀ other, .change other ∉ history) →
      Reads last.file rules history reloader) ?_ ?_ rest unchanged
    · intro _
      cases move_of_step started with
      | startRead => exact ⟨sameFile.symm, trivial, nofun⟩
    · intro history reloader event next reads stepped unchanged
      apply (reads fun other inside => unchanged other (List.mem_append_left _ inside)).step loads
      · rintro other rfl
        exact unchanged other (by simp)
      · exact stepped
  apply (reads.stored ended).resolve_right
  rw [waiting]
  exact nofun

end Notifications

end Reloader

/-! ## The law -/

section Law

variable (crates : Crates) (parseYaml : Text → Except Text Config)

/-- The read was not completed, or what it took gives no rule list. -/
def FailsReload (reloader : Reloader) : ReloadEvent → Prop
  | .failRead | .timeOut => True
  | .endRead => ∀ deadline content rules, reloader.phase = .reading deadline (some content) →
      loadRules crates parseYaml content ≠ .ok rules
  | _ => False

/-- What holds after `events`, from the program's start as `first` with the
content `startup`. -/
structure HotReload (startup : FileContent) (first : Reloader) (events : List ReloadEvent)
    (last : Reloader) : Prop where
  /-- The active list is the in-order parse of one content that was read. -/
  one_content : ∃ content config, Reloader.WasRead crates parseYaml startup first events content ∧
    Loads crates parseYaml content config last.active
  /-- A reload that fails changes nothing but the stage of the loop. -/
  failed_reload : ∀ event next, FailsReload crates parseYaml last event →
    Reloader.step crates parseYaml last event = some next → next = { last with phase := .waiting }
  /-- Only a store changes the active list. -/
  only_store : ∀ event next, Reloader.step crates parseYaml last event = some next →
    event ≠ .store → next.active = last.active
  /-- With the channel empty and the loop waiting, a read has started after the
  last notification. -/
  read_started : last.token = false → last.phase = .waiting → ∀ before after,
    events = before ++ .notify :: after → .startRead ∈ after
  /-- If every change has been notified of, a read that started after the last
  notification and succeeded has made the rules of the latest content active. -/
  latest_content : last.token = false → last.phase = .waiting →
    (∀ before content after, events = before ++ .change content :: after → .notify ∈ after) →
    ∀ before after, events = before ++ .startRead :: after → .notify ∉ after →
      .endRead ∈ after → ∀ rules, loadRules crates parseYaml last.file = .ok rules →
        last.active = rules
  /-- All choices of a connection are those of the configuration that was active
  when it was accepted. -/
  one_configuration : ∀ connection ∈ last.connections, ∃ before after accepted content config,
    events = before ++ .accept :: after ∧
      Machine.run (Reloader.step crates parseYaml) first before = some accepted ∧
      Reloader.WasRead crates parseYaml startup first before content ∧
      Loads crates parseYaml content config accepted.active ∧
      ∀ choice ∈ connection.choices, Selects crates config.rules choice.1 choice.2.1 choice.2.2

theorem toOption_eq_some_iff {Failure Value : Type} {result : Except Failure Value}
    {value : Value} : result.toOption = some value ↔ result = .ok value := by
  cases result <;> simp [Except.toOption]

theorem hot_reload {startup file : FileContent} {first last : Reloader}
    {events : List ReloadEvent}
    (started : Reloader.start crates parseYaml startup file = .ok first)
    (reached : Machine.run (Reloader.step crates parseYaml) first events = some last) :
    HotReload crates parseYaml startup first events last where
  one_content := by
    obtain ⟨content, wasRead, loaded⟩ := (Reloader.inv_run started reached).active
    obtain ⟨config, loads⟩ := loadRules_eq_ok_iff.mp loaded
    exact ⟨content, config, wasRead, loads⟩
  failed_reload event next fails stepped := by
    cases Reloader.move_of_step stepped with
    | failRead => rfl
    | timeOut => rfl
    | endRead phase =>
        unfold Reloader.afterRead
        split
        next rules loaded => exact absurd loaded (fails _ _ rules phase)
        next => rfl
    | _ => exact fails.elim
  only_store event next stepped other := by
    cases Reloader.move_of_step stepped with
    | store => exact absurd rfl other
    | _ => rfl
  read_started empty waiting before after split := by
    subst split
    exact Reloader.read_after_notify reached empty waiting
  latest_content _ waiting notified before after split unnoticed ended rules loads := by
    subst split
    apply Reloader.active_of_endRead reached waiting _ ended loads
    intro content inside
    obtain ⟨between, rest, rfl⟩ := List.append_of_mem inside
    have noticed := notified (before ++ .startRead :: between) content rest (by simp)
    exact unnoticed (by simp [noticed])
  one_configuration connection inside := by
    obtain ⟨⟨before, after, accepted, split, reachedBefore, same⟩, chosen⟩ :=
      (Reloader.inv_run started reached).connections connection inside
    obtain ⟨content, wasRead, loaded⟩ := (Reloader.inv_run started reachedBefore).active
    obtain ⟨config, loads⟩ := loadRules_eq_ok_iff.mp loaded
    refine ⟨before, after, accepted, content, config, split, reachedBefore, wasRead, loads, ?_⟩
    intro choice inChoices
    rw [chosen choice inChoices, same]
    exact selectRule_parseRules (parseRules_eq_ok_iff.mpr loads.2) choice.1 choice.2.1

end Law

/-! ## A reload under a connection -/

def noRulesYaml : Text := "log: \x7b\x7d\nlisten: \x7b\x7d\nrules: []\n".toList

def oneRuleYaml : Text :=
  "log: \x7b\x7d\nlisten: \x7b\x7d\nrules:\n".toList ++
    "- match_patterns: ['*.a']\n  forward_to: http://b:1\n".toList

/-- What the YAML parser makes of the two texts. -/
def parseTwoTexts (text : Text) : Except Text Config :=
  if text = noRulesYaml then .ok ⟨[]⟩
  else if text = oneRuleYaml then .ok ⟨[⟨["*.a".toList], "http://b:1".toList⟩]⟩
  else .error "did not find expected node content".toList

/-- Of two notifications of a change the second is dropped; a connection is
accepted before the store and chooses after it. -/
def oneReload : List ReloadEvent :=
  [.accept, .change (.ok (asBytes oneRuleYaml)), .notify, .notify, .receive, .tick 100, .startRead,
    .takeContent, .endRead, .store, .route 0 "x.a".toList none, .accept,
    .route 1 "x.a".toList none]

def beforeReload : Reloader :=
  (Reloader.start referenceCrates parseTwoTexts (.ok (asBytes noRulesYaml))
    (.ok (asBytes noRulesYaml))).toOption.get (by decide +kernel)

def afterReload : Reloader :=
  (Machine.run (Reloader.step referenceCrates parseTwoTexts) beforeReload oneReload).get
    (by decide +kernel)

theorem hot_reload_once :
    HotReload referenceCrates parseTwoTexts (.ok (asBytes noRulesYaml)) beforeReload oneReload
        afterReload ∧
      afterReload.connections.map (fun connection => connection.choices.map (·.2.2)) =
        [[none], [some ⟨.http, "b:1".toList⟩]] := by
  have started : Reloader.start referenceCrates parseTwoTexts (.ok (asBytes noRulesYaml))
      (.ok (asBytes noRulesYaml)) = .ok beforeReload := by
    apply toOption_eq_some_iff.mp
    exact (Option.some_get (by decide +kernel)).symm
  have reached : Machine.run (Reloader.step referenceCrates parseTwoTexts) beforeReload oneReload =
      some afterReload := (Option.some_get (by decide +kernel)).symm
  exact ⟨hot_reload referenceCrates parseTwoTexts started reached, by decide +kernel⟩

end SimpleForwarder

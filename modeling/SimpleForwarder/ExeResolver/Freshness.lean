import SimpleForwarder.ExeResolver.System

/-!
Contract: an exe lookup and the reuse of its source port.

Owns: when a stored pid is timely (`Current`) and when a new client keeps away
from the names of the earlier ones (`KeepsAway`); the invariant that in a run of
timely steps each cached pid, and each cached name, is of a connection on the
port that `remove` has still to reach, or of a later one; what a lookup begun
after the removals returns in such a run (`lookup_is_fresh`); and the run in
which a late scan result outlives its connection.

Does not own: the machine itself.
-/

namespace SimpleForwarder

open RustText

namespace ResolverSystem

variable {exeOf : UInt32 → Text} {system next : ResolverSystem} {event : ResolverEvent}
variable {connections after : List ClientConnection} {port : UInt16}

/-! ## The connections on a port -/

/-- The `index`-th connection is on the port and has the property. -/
def On (connections : List ClientConnection) (port : UInt16) (property : ClientConnection → Bool)
    (index : Nat) : Prop :=
  (connections[index]?).any (fun connection => connection.port = port && property connection)

instance (property : ClientConnection → Bool) (index : Nat) :
    Decidable (On connections port property index) := by
  unfold On
  infer_instance

variable {property : ClientConnection → Bool} {index : Nat}

theorem on_iff : On connections port property index ↔
    ∃ connection, connections[index]? = some connection ∧ connection.port = port ∧
      property connection = true := by
  simp [On, Option.any_eq_true]

/-- A connection on the port has an owner of the kind, and it or an earlier one
on the port still waits for `remove`. -/
def Awaited (connections : List ClientConnection) (port : UInt16) (owner : UInt32 → Bool)
    (waits : RemovalStage → Bool) : Prop :=
  ∃ late < connections.length, On connections port (fun connection => owner connection.pid) late ∧
    ∃ early ≤ late, On connections port (fun connection => waits connection.stage) early

/-- A connection on the port, not earlier than `first`, has an owner of the
kind. -/
def Since (connections : List ClientConnection) (port : UInt16) (first : Nat)
    (owner : UInt32 → Bool) : Prop :=
  ∃ index ≥ first, On connections port (fun connection => owner connection.pid) index

/-- The pid belongs to a connection on the port, and for that connection or an
earlier one on the port `remove` has not begun. -/
def Current (system : ResolverSystem) (port : UInt16) (pid : UInt32) : Prop :=
  Awaited system.connections port (· == pid) RemovalStage.isServed

instance (system : ResolverSystem) (port : UInt16) (pid : UInt32) :
    Decidable (system.Current port pid) := by
  unfold Current Awaited
  infer_instance

/-- A name that `remove` has yet to take out of the cache. -/
def CurrentExe (exeOf : UInt32 → Text) (system : ResolverSystem) (port : UInt16) (exe : Text) :
    Prop :=
  Awaited system.connections port (exeOf · == exe) (· != .removed)

/-- A step that stores a pid stores a current one. -/
def Timely (system : ResolverSystem) : ResolverEvent → Prop
  | .lookup index .advance => ∀ connection ∈ system.connections[index]?,
      match connection.lookup with
      | .storePid _ pid => system.Current connection.port pid
      | _ => True
  | .etw index => ∀ connection ∈ system.connections[index]?,
      system.Current connection.port connection.pid
  | _ => True

instance (system : ResolverSystem) (event : ResolverEvent) : Decidable (system.Timely event) := by
  unfold Timely
  split
  · refine @Option.decidableForallMem _ _ (fun connection => ?_) _
    split <;> infer_instance
  · infer_instance
  · infer_instance

/-- A process that opens the port of the connection `own` after it does not have
the name of an earlier owner of the port, unless that is the name of the own
process too. -/
def KeepsAway (exeOf : UInt32 → Text) (own : Nat) (system : ResolverSystem) :
    ResolverEvent → Prop
  | .connect port pid => On system.connections port (fun _ => true) own →
      (∃ earlier < own, On system.connections port
        (fun connection => exeOf connection.pid == exeOf pid) earlier) →
      On system.connections port (fun connection => exeOf connection.pid == exeOf pid) own
  | _ => True

instance (exeOf : UInt32 → Text) (own : Nat) (system : ResolverSystem) (event : ResolverEvent) :
    Decidable (system.KeepsAway exeOf own event) := by
  unfold KeepsAway
  split <;> infer_instance

/-- The name is that of no earlier owner of the port, unless it is that of the
own process too. -/
def NotStale (exeOf : UInt32 → Text) (connections : List ClientConnection) (port : UInt16)
    (own : Nat) (exe : Text) : Prop :=
  ∀ earlier ∈ connections.take own, earlier.port = port → exeOf earlier.pid = exe →
    ∃ connection ∈ connections[own]?, exeOf connection.pid = exe

/-! ## What the steps keep -/

theorem On.lt_length (on : On connections port property index) : index < connections.length := by
  obtain ⟨connection, found, -⟩ := on_iff.mp on
  exact (List.getElem?_eq_some_iff.mp found).1

theorem On.append (on : On connections port property index) (more : List ClientConnection) :
    On (connections ++ more) port property index := by
  have inside := on.lt_length
  unfold On at on ⊢
  rwa [List.getElem?_append_left inside]

theorem On.set {position : Nat} {connection changed : ClientConnection}
    (on : On connections port property index)
    (found : connections[position]? = some connection) (samePort : changed.port = connection.port)
    (kept : connection.port = port → property connection = true → property changed = true) :
    On (connections.set position changed) port property index := by
  obtain ⟨there, foundThere, onPort, holds⟩ := on_iff.mp on
  apply on_iff.mpr
  by_cases same : position = index
  · subst same
    obtain rfl : connection = there := Option.some.inj (found.symm.trans foundThere)
    have inside := (List.getElem?_eq_some_iff.mp found).1
    exact ⟨changed, List.getElem?_set_self inside, samePort.trans onPort, kept onPort holds⟩
  · exact ⟨there, by rwa [List.getElem?_set_ne same], onPort, holds⟩

/-- The port and the owner of a replaced connection are its own. -/
theorem On.of_set {owner : UInt32 → Bool} {position : Nat} {connection changed : ClientConnection}
    (on : On (connections.set position changed) port (fun connection => owner connection.pid) index)
    (found : connections[position]? = some connection) (samePort : changed.port = connection.port)
    (samePid : changed.pid = connection.pid) :
    On connections port (fun connection => owner connection.pid) index := by
  obtain ⟨there, foundThere, onPort, owned⟩ := on_iff.mp on
  apply on_iff.mpr
  by_cases same : position = index
  · subst same
    rw [List.getElem?_set_self (List.getElem?_eq_some_iff.mp found).1] at foundThere
    obtain rfl := Option.some.inj foundThere
    exact ⟨connection, found, samePort.symm.trans onPort, by rwa [← samePid]⟩
  · rw [List.getElem?_set_ne same] at foundThere
    exact ⟨there, foundThere, onPort, owned⟩

theorem Awaited.mono {owner : UInt32 → Bool} {waits : RemovalStage → Bool}
    (awaited : Awaited connections port owner waits)
    (owners : ∀ index, On connections port (fun connection => owner connection.pid) index →
      On after port (fun connection => owner connection.pid) index)
    (waiting : ∀ index, On connections port (fun connection => waits connection.stage) index →
      On after port (fun connection => waits connection.stage) index) :
    Awaited after port owner waits := by
  obtain ⟨late, -, owned, early, notLater, awaits⟩ := awaited
  exact ⟨late, (owners late owned).lt_length, owners late owned, early, notLater,
    waiting early awaits⟩

/-- What a step can do to a connection. -/
structure Change (exeOf : UInt32 → Text) (system : ResolverSystem)
    (connection changed : ClientConnection) : Prop where
  port : changed.port = connection.port
  pid : changed.pid = connection.pid
  closed : connection.isOpen = false → changed.isOpen = false
  removed : connection.stage = .removed → changed.stage = .removed
  lookup : changed.lookup = connection.lookup ∨
    ∃ call resolver, Answers exeOf system connection.lookup call ∧
      system.resolver.Advance system.now connection.port connection.lookup call changed.lookup
        resolver

/-- A step changes at most one connection, or adds one on a free port. -/
inductive Changed (exeOf : UInt32 → Text) (system : ResolverSystem)
    (after : List ClientConnection) : Prop where
  | unchanged (same : after = system.connections)
  | added (port : UInt16) (pid : UInt32)
      (free : ∀ connection ∈ system.connections,
        connection.port = port → connection.isOpen = false)
      (same : after = system.connections ++ [newConnection port pid])
  | replaced (index : Nat) {connection changed : ClientConnection}
      (found : system.connections[index]? = some connection)
      (change : Change exeOf system connection changed)
      (same : after = system.connections.set index changed)

theorem Move.changed (move : Move exeOf system event next) :
    Changed exeOf system next.connections := by
  cases move with
  | tick duration => exact .unchanged rfl
  | @connect port pid free => exact .added port pid free rfl
  | close found =>
      apply Changed.replaced _ found _ rfl
      exact
        { port := rfl, pid := rfl, closed := fun _ => rfl, removed := id, lookup := .inl rfl }
  | accept found waiting =>
      apply Changed.replaced _ found _ rfl
      exact
        { port := rfl, pid := rfl, closed := id, lookup := .inl rfl
          removed := fun gone => by simp [waiting] at gone }
  | lookup found answers advanced =>
      apply Changed.replaced _ found _ rfl
      exact
        { port := rfl, pid := rfl, closed := id, removed := id
          lookup := .inr ⟨_, _, answers, advanced⟩ }
  | removePid found accepted =>
      apply Changed.replaced _ found _ rfl
      exact
        { port := rfl, pid := rfl, closed := id, lookup := .inl rfl
          removed := fun gone => by simp [accepted] at gone }
  | removeExe found begun =>
      apply Changed.replaced _ found _ rfl
      exact
        { port := rfl, pid := rfl, closed := id, removed := fun _ => rfl, lookup := .inl rfl }
  | etw found => exact .unchanged rfl

/-- A port and its owner stay with a connection. -/
theorem Move.owner_kept (owner : UInt32 → Bool) (move : Move exeOf system event next)
    (on : On system.connections port (fun connection => owner connection.pid) index) :
    On next.connections port (fun connection => owner connection.pid) index := by
  cases move.changed with
  | unchanged same => rwa [same]
  | added newPort newPid free same =>
      rw [same]
      exact on.append _
  | replaced position found change same =>
      rw [same]
      exact on.set found change.port fun _ owned => by rwa [change.pid]

/-- A connection was there before the step, or the step has opened it. -/
theorem Move.owner_cases (owner : UInt32 → Bool) (move : Move exeOf system event next)
    (on : On next.connections port (fun connection => owner connection.pid) index) :
    On system.connections port (fun connection => owner connection.pid) index ∨
      index = system.connections.length ∧ ∃ pid, event = .connect port pid ∧ owner pid = true := by
  cases move with
  | tick duration => exact .inl on
  | @connect newPort pid free =>
      obtain ⟨connection, found, onPort, owned⟩ := on_iff.mp on
      rcases Nat.lt_trichotomy index system.connections.length with before | same | behind
      · rw [List.getElem?_append_left before] at found
        exact .inl (on_iff.mpr ⟨connection, found, onPort, owned⟩)
      · rw [same, List.getElem?_concat_length] at found
        obtain rfl := Option.some.inj found
        exact .inr ⟨same, pid, congrArg (ResolverEvent.connect · pid) onPort, owned⟩
      · rw [List.getElem?_eq_none (by simp; omega)] at found
        cases found
  | close found => exact .inl (on.of_set found rfl rfl)
  | accept found => exact .inl (on.of_set found rfl rfl)
  | lookup found => exact .inl (on.of_set found rfl rfl)
  | removePid found => exact .inl (on.of_set found rfl rfl)
  | removeExe found => exact .inl (on.of_set found rfl rfl)
  | etw found => exact .inl on

/-- A removal leaves the pid cache without an entry for its port. -/
theorem Move.served_kept (move : Move exeOf system event next)
    (on : On system.connections port (fun connection => connection.stage.isServed) index) :
    On next.connections port (fun connection => connection.stage.isServed) index ∨
      next.resolver.portToPid.get port = none := by
  cases move with
  | tick duration => exact .inl on
  | connect free => exact .inl (on.append _)
  | close found => exact .inl (on.set found rfl fun _ served => served)
  | accept found waiting => exact .inl (on.set found rfl fun _ _ => rfl)
  | lookup found answers advanced => exact .inl (on.set found rfl fun _ served => served)
  | @removePid position connection found accepted =>
      by_cases same : connection.port = port
      · right
        apply Option.eq_none_iff_forall_not_mem.mpr
        intro pid held
        exact (PortCache.get_of_get_remove held).1 same.symm
      · exact .inl (on.set found rfl fun onPort _ => absurd onPort same)
  | removeExe found begun =>
      exact .inl (on.set found rfl fun _ served => by simp [begun, RemovalStage.isServed] at served)
  | etw found => exact .inl on

theorem Move.unremoved_kept (move : Move exeOf system event next)
    (on : On system.connections port (fun connection => connection.stage != .removed) index) :
    On next.connections port (fun connection => connection.stage != .removed) index ∨
      next.resolver.portToExe.get port = none := by
  cases move with
  | tick duration => exact .inl on
  | connect free => exact .inl (on.append _)
  | close found => exact .inl (on.set found rfl fun _ unremoved => unremoved)
  | accept found waiting => exact .inl (on.set found rfl fun _ _ => rfl)
  | lookup found answers advanced => exact .inl (on.set found rfl fun _ unremoved => unremoved)
  | removePid found accepted => exact .inl (on.set found rfl fun _ _ => rfl)
  | @removeExe position connection found begun =>
      by_cases same : connection.port = port
      · right
        apply Option.eq_none_iff_forall_not_mem.mpr
        intro exe held
        exact (PortCache.get_of_get_remove held).1 same.symm
      · exact .inl (on.set found rfl fun onPort _ => absurd onPort same)
  | etw found => exact .inl on

/-- A pid stays current until the cache has lost its entry for the port. -/
theorem Move.current_kept {pid held : UInt32} (move : Move exeOf system event next)
    (current : system.Current port pid) (cached : next.resolver.portToPid.get port = some held) :
    next.Current port pid := by
  apply current.mono
  · intro index owned
    exact move.owner_kept (· == pid) owned
  · intro index served
    apply (move.served_kept served).resolve_right
    simp [cached]

theorem Move.currentExe_kept {exe held : Text} (move : Move exeOf system event next)
    (current : system.CurrentExe exeOf port exe)
    (cached : next.resolver.portToExe.get port = some held) :
    next.CurrentExe exeOf port exe := by
  apply current.mono
  · intro index owned
    exact move.owner_kept (exeOf · == exe) owned
  · intro index unremoved
    apply (move.unremoved_kept unremoved).resolve_right
    simp [cached]

theorem Current.exe {pid : UInt32} (current : system.Current port pid) :
    system.CurrentExe exeOf port (exeOf pid) := by
  obtain ⟨late, bound, owned, early, notLater, served⟩ := current
  refine ⟨late, bound, ?_, early, notLater, ?_⟩
  · obtain ⟨connection, found, onPort, same⟩ := on_iff.mp owned
    exact on_iff.mpr ⟨connection, found, onPort, by simp [eq_of_beq same]⟩
  · obtain ⟨connection, found, onPort, served⟩ := on_iff.mp served
    apply on_iff.mpr ⟨connection, found, onPort, ?_⟩
    cases stage : connection.stage <;> simp [stage, RemovalStage.isServed] at served ⊢

/-! ## Where the cached values come from -/

section Origins

variable {resolver changed : ExeResolver} {now : Nat} {own : UInt16} {lookup later : Lookup}
variable {call : LookupEvent} {pid : UInt32} {exe : Text}

theorem pid_of_advance (advance : resolver.Advance now own lookup call later changed)
    (held : changed.portToPid.get port = some pid) :
    resolver.portToPid.get port = some pid ∨
      port = own ∧ call = .advance ∧ ∃ attempt, lookup = .storePid attempt pid := by
  cases advance with
  | @storePid attempt stored =>
      apply (PortCache.get_of_get_store held).symm.imp id
      intro same
      exact ⟨same.1, rfl, attempt, by rw [same.2]⟩
  | @cacheExe attempt current name =>
      left
      unfold ExeResolver.cacheExe at held
      split at held <;> exact held
  | _ => exact .inl held

theorem exe_of_advance (advance : resolver.Advance now own lookup call later changed)
    (held : changed.portToExe.get port = some exe) :
    resolver.portToExe.get port = some exe ∨
      port = own ∧ ∃ attempt pid, lookup = .cacheExe attempt pid exe ∧
        resolver.portToPid.get own = some pid := by
  cases advance with
  | @cacheExe attempt current name =>
      unfold ExeResolver.cacheExe at held
      split at held
      next cached =>
        apply (PortCache.get_of_get_store held).symm.imp id
        intro same
        exact ⟨same.1, attempt, current, by rw [same.2], cached⟩
      next => exact .inl held
  | _ => exact .inl held

theorem pid_of_captureEtw {sport dport : UInt16} {captured : UInt32}
    (held : (resolver.captureEtw now sport dport captured).portToPid.get port = some pid) :
    resolver.portToPid.get port = some pid ∨ port = sport ∧ pid = captured := by
  unfold ExeResolver.captureEtw at held
  split at held
  next => exact .inl held
  next =>
    split at held
    next => exact .inl held
    next => exact (PortCache.get_of_get_store held).symm

theorem exe_of_captureEtw {sport dport : UInt16} {captured : UInt32}
    (held : (resolver.captureEtw now sport dport captured).portToExe.get port = some exe) :
    resolver.portToExe.get port = some exe := by
  unfold ExeResolver.captureEtw at held
  split at held
  next => exact held
  next =>
    split at held
    next => exact held
    next => exact (PortCache.get_of_get_remove (PortCache.get_of_get_evict held)).2

/-- A pid a timely step finds or puts in the cache. -/
theorem Move.pid_origin (move : Move exeOf system event next) (timely : system.Timely event)
    (held : next.resolver.portToPid.get port = some pid) :
    system.resolver.portToPid.get port = some pid ∨ system.Current port pid := by
  cases move with
  | lookup found answers advanced =>
      apply (pid_of_advance advanced held).imp id
      rintro ⟨rfl, rfl, attempt, stores⟩
      have current := timely _ found
      rwa [stores] at current
  | removePid found accepted => exact .inl (PortCache.get_of_get_remove held).2
  | etw found =>
      apply (pid_of_captureEtw held).imp id
      rintro ⟨rfl, rfl⟩
      exact timely _ found
  | _ => exact .inl held

/-- A name a step finds in the cache, or puts there for a cached pid. -/
theorem Move.exe_origin (move : Move exeOf system event next)
    (held : next.resolver.portToExe.get port = some exe) :
    system.resolver.portToExe.get port = some exe ∨
      ∃ connection ∈ system.connections, ∃ attempt pid,
        connection.lookup = .cacheExe attempt pid exe ∧
          system.resolver.portToPid.get port = some pid := by
  cases move with
  | lookup found answers advanced =>
      apply (exe_of_advance advanced held).imp id
      rintro ⟨rfl, attempt, pid, caches, cached⟩
      exact ⟨_, List.mem_of_getElem? found, attempt, pid, caches, cached⟩
  | removeExe found begun => exact .inl (PortCache.get_of_get_remove held).2
  | etw found => exact .inl (exe_of_captureEtw held)
  | _ => exact .inl held

end Origins

/-! ## The invariant of timely runs -/

/-- What `lookup` is about to cache is the name of the process. -/
def Named (exeOf : UInt32 → Text) (lookup : Lookup) : Prop :=
  ∀ attempt pid exe, lookup = .cacheExe attempt pid exe → exe = exeOf pid

structure Fresh (exeOf : UInt32 → Text) (system : ResolverSystem) : Prop where
  pids : ∀ port pid, system.resolver.portToPid.get port = some pid → system.Current port pid
  exes : ∀ port exe, system.resolver.portToExe.get port = some exe →
    system.CurrentExe exeOf port exe
  named : ∀ connection ∈ system.connections, Named exeOf connection.lookup
  /-- Of two sockets on a port the earlier one is closed. -/
  alone : system.connections.Pairwise fun earlier later =>
    earlier.port = later.port → earlier.isOpen = false

theorem fresh_start (listenPort : UInt16) : (start listenPort).Fresh exeOf where
  pids port pid held := by simp [start, ExeResolver.new] at held
  exes port exe held := by simp [start, ExeResolver.new] at held
  named := nofun
  alone := .nil

theorem named_of_advance {resolver changed : ExeResolver} {now : Nat} {lookup later : Lookup}
    {call : LookupEvent} (answers : Answers exeOf system lookup call)
    (advance : resolver.Advance now port lookup call later changed) : Named exeOf later := by
  intro attempt pid exe same
  cases advance with
  | @unseen missed _ => cases missed <;> cases same
  | @unresolved missed _ => cases missed <;> cases same
  | resolved => cases same; exact answers
  | _ => cases same

theorem Change.named {connection changed : ClientConnection}
    (change : Change exeOf system connection changed) (named : Named exeOf connection.lookup) :
    Named exeOf changed.lookup := by
  rcases change.lookup with same | ⟨call, resolver, answers, advance⟩
  · rwa [same]
  · exact named_of_advance answers advance

/-- A relation kept when one element of a list is replaced. -/
theorem pairwise_set {α : Type} {related : α → α → Prop} {items : List α} {index : Nat}
    {old new : α} (pairwise : items.Pairwise related) (found : items[index]? = some old)
    (before : ∀ item, related item old → related item new)
    (behind : ∀ item, related old item → related new item) :
    (items.set index new).Pairwise related := by
  induction items generalizing index with
  | nil => exact .nil
  | cons item items inductionHypothesis =>
      cases pairwise with
      | cons ofItem rest =>
          cases index with
          | zero =>
              obtain rfl : item = old := Option.some.inj found
              exact .cons (fun other inside => behind other (ofItem other inside)) rest
          | succ index =>
              have foundBehind : items[index]? = some old := by simpa using found
              apply List.Pairwise.cons _ (inductionHypothesis rest foundBehind)
              intro other inside
              apply (List.mem_or_eq_of_mem_set inside).elim (ofItem other)
              rintro rfl
              exact before item (ofItem old (List.mem_of_getElem? foundBehind))

theorem Fresh.step (fresh : system.Fresh exeOf) (timely : system.Timely event)
    (stepped : ResolverSystem.step exeOf system event = some next) : next.Fresh exeOf := by
  have move := move_of_step stepped
  constructor
  · intro port pid held
    apply move.current_kept _ held
    exact (move.pid_origin timely held).elim (fresh.pids port pid) id
  · intro port exe held
    apply move.currentExe_kept _ held
    apply (move.exe_origin held).elim (fresh.exes port exe)
    rintro ⟨connection, inside, attempt, pid, caches, cached⟩
    rw [fresh.named connection inside attempt pid exe caches]
    exact (fresh.pids port pid cached).exe
  · intro connection inside
    cases move.changed with
    | unchanged same => exact fresh.named connection (same ▸ inside)
    | added port pid free same =>
        rw [same, List.mem_append, List.mem_singleton] at inside
        apply inside.elim (fresh.named connection)
        rintro rfl attempt pid exe ⟨⟩
    | replaced index found change same =>
        rw [same] at inside
        apply (List.mem_or_eq_of_mem_set inside).elim (fresh.named connection)
        rintro rfl
        exact change.named (fresh.named _ (List.mem_of_getElem? found))
  · cases move.changed with
    | unchanged same =>
        rw [same]
        exact fresh.alone
    | added port pid free same =>
        rw [same]
        apply List.pairwise_append.mpr ⟨fresh.alone, List.pairwise_singleton _ _, ?_⟩
        intro earlier inside later isNew onPort
        rw [List.mem_singleton.mp isNew] at onPort
        exact free earlier inside onPort
    | replaced index found change same =>
        rw [same]
        apply pairwise_set fresh.alone found
        · intro earlier alone onPort
          exact alone (onPort.trans change.port)
        · intro later alone onPort
          exact change.closed (alone (change.port.symm.trans onPort))

/-! ## A lookup after the removals -/

/-- What a lookup holds, or has come to, is of a connection on the port that is
not earlier than its own. -/
def Holds (exeOf : UInt32 → Text) (connections : List ClientConnection) (port : UInt16)
    (own : Nat) : Lookup → Prop
  | .storePid _ pid | .resolve _ pid => Since connections port own (· == pid)
  | .cacheExe _ pid exe => Since connections port own (· == pid) ∧ exe = exeOf pid
  | .found exe | .recorded exe => Since connections port own (exeOf · == exe)
  | _ => True

/-- `remove` has been called for the connections on the port before `own`, and the
lookup of `own` is clean. -/
structure Asked (exeOf : UInt32 → Text) (port : UInt16) (own : Nat) (system : ResolverSystem) :
    Prop where
  fresh : system.Fresh exeOf
  removed : ∀ index < own, ∀ connection, system.connections[index]? = some connection →
    connection.port = port → connection.stage = .removed
  holds : ∃ connection, system.connections[own]? = some connection ∧ connection.port = port ∧
    Holds exeOf system.connections port own connection.lookup

theorem Since.mono {first : Nat} {owner : UInt32 → Bool}
    (since : Since connections port first owner)
    (owners : ∀ index, On connections port (fun connection => owner connection.pid) index →
      On after port (fun connection => owner connection.pid) index) :
    Since after port first owner := by
  obtain ⟨index, notEarlier, owned⟩ := since
  exact ⟨index, notEarlier, owners index owned⟩

/-- After the removals only a connection from `first` on can be awaited. -/
theorem Awaited.since {first : Nat} {owner : UInt32 → Bool} {waits : RemovalStage → Bool}
    (awaited : Awaited connections port owner waits) (passed : waits .removed = false)
    (removed : ∀ index < first, ∀ connection, connections[index]? = some connection →
      connection.port = port → connection.stage = .removed) :
    Since connections port first owner := by
  obtain ⟨late, -, owned, early, notLater, waiting⟩ := awaited
  obtain ⟨connection, found, onPort, waiting⟩ := on_iff.mp waiting
  refine ⟨late, ?_, owned⟩
  by_contra earlier
  have gone := removed early (by omega) connection found onPort
  simp [gone, passed] at waiting

theorem pid_of_lookupPortToPid {listenPort remotePort : UInt16} {pid : UInt32}
    {sockets : Option (List TcpSocketInfo)}
    (seen : lookupPortToPid listenPort remotePort sockets = some pid) :
    ∃ rows, sockets = some rows ∧ ∃ tcp ∈ rows, tcp.remotePort = listenPort ∧
      tcp.localPort = remotePort ∧ tcp.associatedPids.head? = some pid ∧ pid ≠ 0 ∧ pid ≠ 4 := by
  obtain ⟨rows, scanned, seen⟩ := Option.bind_eq_some_iff.mp seen
  obtain ⟨tcp, found, seen⟩ := Option.bind_eq_some_iff.mp seen
  obtain ⟨first, head, seen⟩ := Option.bind_eq_some_iff.mp seen
  split at seen
  next => cases seen
  next user =>
    obtain rfl := Option.some.inj seen
    have ports : tcp.remotePort = listenPort ∧ tcp.localPort = remotePort := by
      simpa using List.find?_some found
    exact ⟨rows, scanned, tcp, List.mem_of_find?_eq_some found, ports.1, ports.2, head,
      not_or.mp user⟩

/-- A scan sees the owner of an open socket, and those before `own` are closed. -/
theorem since_of_scan {own : Nat} {connection : ClientConnection} {pid : UInt32}
    {sockets : Option (List TcpSocketInfo)} {attempt : Attempt} (fresh : system.Fresh exeOf)
    (found : system.connections[own]? = some connection)
    (answers : Answers exeOf system (.scan attempt) (.scanned sockets))
    (seen : lookupPortToPid system.resolver.listenPort connection.port sockets = some pid) :
    Since system.connections connection.port own (· == pid) := by
  obtain ⟨rows, rfl, tcp, inside, listening, onPort, head, notIdle, notSystem⟩ :=
    pid_of_lookupPortToPid seen
  obtain ⟨owner, listed, isOpen, samePort, samePid⟩ :=
    ((answers tcp inside listening pid head).resolve_left notIdle).resolve_left notSystem
  obtain ⟨index, foundOwner⟩ := List.mem_iff_getElem?.mp listed
  refine ⟨index, ?_, on_iff.mpr ⟨owner, foundOwner, samePort.trans onPort, by simp [samePid]⟩⟩
  by_contra earlier
  have closed : owner.isOpen = false := by
    obtain ⟨inIndex, rfl⟩ := List.getElem?_eq_some_iff.mp foundOwner
    obtain ⟨inOwn, rfl⟩ := List.getElem?_eq_some_iff.mp found
    apply List.pairwise_iff_getElem.mp fresh.alone index own inIndex inOwn (by omega)
    exact samePort.trans onPort
  simp [isOpen] at closed

theorem Holds.mono {own : Nat} {lookup : Lookup} (holds : Holds exeOf connections port own lookup)
    (owners : ∀ (owner : UInt32 → Bool) index,
      On connections port (fun connection => owner connection.pid) index →
        On after port (fun connection => owner connection.pid) index) :
    Holds exeOf after port own lookup := by
  have keeps : ∀ owner, Since connections port own owner → Since after port own owner :=
    fun owner since => since.mono (owners owner)
  cases lookup with
  | storePid attempt pid => exact keeps (· == pid) holds
  | resolve attempt pid => exact keeps (· == pid) holds
  | cacheExe attempt pid exe => exact holds.imp_left (keeps (· == pid))
  | found exe => exact keeps (exeOf · == exe) holds
  | recorded exe => exact keeps (exeOf · == exe) holds
  | _ => trivial

theorem Since.named {own : Nat} {pid : UInt32} (since : Since connections port own (· == pid)) :
    Since connections port own (exeOf · == exeOf pid) := by
  obtain ⟨index, notEarlier, owned⟩ := since
  obtain ⟨connection, found, onPort, same⟩ := on_iff.mp owned
  exact ⟨index, notEarlier, on_iff.mpr ⟨connection, found, onPort, by simp [eq_of_beq same]⟩⟩

/-- The step lemma of the lookup itself. -/
theorem holds_of_advance {own : Nat} {connection : ClientConnection} {call : LookupEvent}
    {later : Lookup} {resolver : ExeResolver} (fresh : system.Fresh exeOf)
    (removed : ∀ index < own, ∀ earlier, system.connections[index]? = some earlier →
      earlier.port = connection.port → earlier.stage = .removed)
    (found : system.connections[own]? = some connection)
    (holds : Holds exeOf system.connections connection.port own connection.lookup)
    (answers : Answers exeOf system connection.lookup call)
    (advance : system.resolver.Advance system.now connection.port connection.lookup call later
      resolver) :
    Holds exeOf system.connections connection.port own later := by
  generalize connection.lookup = lookup at holds answers advance
  cases advance with
  | exeCached cached => exact (fresh.exes _ _ cached).since rfl removed
  | exeMissed => trivial
  | pidCached cached => exact Awaited.since (fresh.pids _ _ cached) rfl removed
  | pidMissed => trivial
  | scanned seen => exact since_of_scan fresh found answers seen
  | @unseen attempt _ => cases attempt <;> trivial
  | storePid => exact holds
  | @unresolved attempt _ => cases attempt <;> trivial
  | resolved => exact ⟨holds, answers⟩
  | @cacheExe attempt pid exe =>
      obtain ⟨since, rfl⟩ := holds
      exact since.named
  | record => exact holds
  | wake due => trivial

theorem Asked.step {own : Nat} (asked : Asked exeOf port own system)
    (timely : system.Timely event)
    (stepped : ResolverSystem.step exeOf system event = some next) :
    Asked exeOf port own next := by
  have move := move_of_step stepped
  obtain ⟨connection, found, rfl, holds⟩ := asked.holds
  have inside := (List.getElem?_eq_some_iff.mp found).1
  have kept : Holds exeOf next.connections connection.port own connection.lookup :=
    holds.mono fun owner _ => move.owner_kept owner
  refine ⟨asked.fresh.step timely stepped, ?_, ?_⟩
  · intro index before earlier foundEarlier onPort
    cases move.changed with
    | unchanged same => exact asked.removed index before earlier (same ▸ foundEarlier) onPort
    | added port pid free same =>
        rw [same, List.getElem?_append_left (by omega)] at foundEarlier
        exact asked.removed index before earlier foundEarlier onPort
    | @replaced position old changed foundOld change same =>
        by_cases here : position = index
        · subst here
          rw [same, List.getElem?_set_self (by omega)] at foundEarlier
          obtain rfl := Option.some.inj foundEarlier
          exact change.removed
            (asked.removed position before old foundOld (change.port.symm.trans onPort))
        · rw [same, List.getElem?_set_ne here] at foundEarlier
          exact asked.removed index before earlier foundEarlier onPort
  · cases move.changed with
    | unchanged same => exact ⟨connection, by rwa [same], rfl, kept⟩
    | added port pid free same =>
        exact ⟨connection, by rwa [same, List.getElem?_append_left inside], rfl, kept⟩
    | @replaced position old changed foundOld change same =>
        by_cases here : position = own
        · subst here
          obtain rfl : connection = old := Option.some.inj (found.symm.trans foundOld)
          refine ⟨changed, by rw [same, List.getElem?_set_self inside], change.port, ?_⟩
          rcases change.lookup with unmoved | ⟨call, resolver, answers, advance⟩
          · rwa [unmoved]
          · apply (holds_of_advance asked.fresh asked.removed found holds answers advance).mono
            intro owner index
            exact move.owner_kept owner
        · exact ⟨connection, by rwa [same, List.getElem?_set_ne here], rfl, kept⟩

/-- No owner later than `own` brings the name of an earlier one back to the port,
unless the own process has it too. -/
def Unreturned (exeOf : UInt32 → Text) (port : UInt16) (own : Nat) (system : ResolverSystem) :
    Prop :=
  ∀ exe, ∀ later > own, On system.connections port (exeOf ·.pid == exe) later →
    On system.connections port (fun _ => true) own →
    (∃ earlier < own, On system.connections port (exeOf ·.pid == exe) earlier) →
    On system.connections port (exeOf ·.pid == exe) own

theorem unreturned_start (listenPort : UInt16) (own : Nat) :
    (start listenPort).Unreturned exeOf port own :=
  fun _ _ _ onLater => absurd onLater.lt_length (Nat.not_lt_zero _)

theorem Unreturned.step {own : Nat} (unreturned : system.Unreturned exeOf port own)
    (keepsAway : system.KeepsAway exeOf own event)
    (stepped : ResolverSystem.step exeOf system event = some next) :
    next.Unreturned exeOf port own := by
  have move := move_of_step stepped
  intro exe later behind onLater onOwn before
  obtain ⟨earlier, before, onEarlier⟩ := before
  have laterCases := move.owner_cases (exeOf · == exe) onLater
  have ownBefore : On system.connections port (fun _ => true) own := by
    apply (move.owner_cases (fun _ => true) onOwn).resolve_right
    rintro ⟨isLast, -⟩
    rcases laterCases with there | ⟨isNew, -⟩
    · exact absurd there.lt_length (by omega)
    · omega
  have earlierBefore : On system.connections port (exeOf ·.pid == exe) earlier := by
    apply (move.owner_cases (exeOf · == exe) onEarlier).resolve_right
    rintro ⟨isLast, -⟩
    exact absurd ownBefore.lt_length (by omega)
  apply move.owner_kept (exeOf · == exe)
  rcases laterCases with there | ⟨-, pid, rfl, named⟩
  · exact unreturned exe later behind there ownBefore ⟨earlier, before, earlierBefore⟩
  · have isExe : exeOf pid = exe := eq_of_beq named
    subst isExe
    exact keepsAway ownBefore ⟨earlier, before, earlierBefore⟩

/-- A name of an owner from `own` on is the own one, if an earlier owner has it. -/
theorem Since.notStale {own : Nat} {exe : Text}
    (since : Since system.connections port own (exeOf · == exe))
    (unreturned : system.Unreturned exeOf port own)
    (onOwn : On system.connections port (fun _ => true) own) :
    NotStale exeOf system.connections port own exe := by
  intro earlier member onPort same
  obtain ⟨index, found⟩ := List.mem_iff_getElem?.mp member
  rw [List.getElem?_take] at found
  split at found
  next before =>
    have onEarlier : On system.connections port (exeOf ·.pid == exe) index :=
      on_iff.mpr ⟨earlier, found, onPort, by simp [same]⟩
    have named : On system.connections port (exeOf ·.pid == exe) own := by
      obtain ⟨later, notEarlier, onLater⟩ := since
      rcases Nat.eq_or_lt_of_le notEarlier with isOwn | behind
      · exact isOwn ▸ onLater
      · exact unreturned exe later behind onLater onOwn ⟨index, before, onEarlier⟩
    obtain ⟨connection, foundOwn, -, named⟩ := on_iff.mp named
    exact ⟨connection, foundOwn, eq_of_beq named⟩
  next => cases found

end ResolverSystem

/-! ## Lookups after a reuse of the port -/

/-- A run `before` up to the beginning of an attempt of the lookup of the
connection `own`, with `remove` called for every earlier connection on the
port, and a run `after` in which the lookup comes to the name. -/
structure AnsweredLookup (exeOf : UInt32 → Text) (listenPort : UInt16)
    (before after : List ResolverEvent) (middle last : ResolverSystem) (own : Nat)
    (port : UInt16) (exe : Text) : Prop where
  reached : Machine.run (ResolverSystem.step exeOf) (.start listenPort) before = some middle
  continued : Machine.run (ResolverSystem.step exeOf) middle after = some last
  begins : ∃ connection ∈ middle.connections[own]?, connection.port = port ∧
    ∃ attempt, connection.lookup = .checkExe attempt
  removed : ∀ earlier ∈ middle.connections.take own, earlier.port = port → earlier.stage = .removed
  answered : ∃ connection ∈ last.connections[own]?,
    connection.lookup = .found exe ∨ connection.lookup = .recorded exe

/-- In a run whose steps store only current pids, and in which no process that opens
the port after `own` has the name of an earlier owner, the name is that of an
owner not earlier than `own`, and of no earlier owner but one with the name of
the own process. The condition is sufficient; it is not necessary. -/
theorem lookup_is_fresh (exeOf : UInt32 → Text) (listenPort : UInt16)
    {before after : List ResolverEvent} {middle last : ResolverSystem} {own : Nat}
    {port : UInt16} {exe : Text}
    (answered : AnsweredLookup exeOf listenPort before after middle last own port exe)
    (meets : Machine.Along (ResolverSystem.step exeOf)
      (fun system event => system.Timely event ∧ system.KeepsAway exeOf own event)
      (.start listenPort) (before ++ after)) :
    ResolverSystem.NotStale exeOf last.connections port own exe ∧
      ∃ owner ∈ last.connections.drop own, owner.port = port ∧ exeOf owner.pid = exe := by
  have split := meets.append answered.reached
  have fresh : middle.Fresh exeOf :=
    Machine.run_invariant_along (ResolverSystem.Fresh exeOf)
      (ResolverSystem.fresh_start listenPort)
      (fun _ _ _ fresh meets stepped => fresh.step meets.1 stepped) split.1 answered.reached
  have unreturned : last.Unreturned exeOf port own :=
    Machine.run_invariant_along (ResolverSystem.Unreturned exeOf port own)
      (ResolverSystem.unreturned_start listenPort own)
      (fun _ _ _ unreturned meets stepped => unreturned.step meets.2 stepped) meets
      (Machine.run_append_eq_some.mpr ⟨middle, answered.reached, answered.continued⟩)
  have begun : ResolverSystem.Asked exeOf port own middle := by
    obtain ⟨connection, found, onPort, attempt, begins⟩ := answered.begins
    refine ⟨fresh, ?_, connection, found, onPort, by rw [begins]; trivial⟩
    intro index before earlier foundEarlier
    apply answered.removed earlier
    apply List.mem_of_getElem?
    rwa [List.getElem?_take_of_lt before]
  have asked : ResolverSystem.Asked exeOf port own last :=
    Machine.run_invariant_along (ResolverSystem.Asked exeOf port own) begun
      (fun _ _ _ asked meets stepped => asked.step meets.1 stepped) split.2 answered.continued
  obtain ⟨connection, found, onPort, holds⟩ := asked.holds
  obtain ⟨later, foundLater, result⟩ := answered.answered
  obtain rfl : connection = later := Option.some.inj (found.symm.trans foundLater)
  have since : ResolverSystem.Since last.connections port own (exeOf · == exe) := by
    rcases result with returned | recorded
    · rwa [returned] at holds
    · rwa [recorded] at holds
  refine ⟨since.notStale unreturned
    (ResolverSystem.on_iff.mpr ⟨connection, found, onPort, rfl⟩), ?_⟩
  obtain ⟨index, notEarlier, owned⟩ := since
  obtain ⟨owner, foundOwner, samePort, same⟩ := ResolverSystem.on_iff.mp owned
  refine ⟨owner, ?_, samePort, eq_of_beq same⟩
  apply List.mem_of_getElem?
  rw [List.getElem?_drop, Nat.add_sub_cancel' notEarlier]
  exact foundOwner

/-! ## Two clients on one source port -/

/-- Process 100 is `curl`; every other process is `wget`. -/
def twoPrograms (pid : UInt32) : Text := if pid = 100 then "curl".toList else "wget".toList

/-- The first client's lookup ends before its connection does. -/
def timelyClient : List ResolverEvent :=
  [.connect 50000 100, .accept 0, .lookup 0 .advance, .lookup 0 .advance,
    .lookup 0 (.scanned (some [⟨50000, 1080, [100]⟩])), .lookup 0 .advance,
    .lookup 0 (.resolved (some "curl".toList)), .lookup 0 .advance, .lookup 0 .advance,
    .close 0, .remove 0, .remove 0, .connect 50000 200, .accept 1]

/-- The first client's connection ends between its scan and the storing of the
pid. -/
def lateClient : List ResolverEvent :=
  [.connect 50000 100, .accept 0, .lookup 0 .advance, .lookup 0 .advance,
    .lookup 0 (.scanned (some [⟨50000, 1080, [100]⟩])), .close 0, .remove 0, .remove 0,
    .lookup 0 .advance, .connect 50000 200, .accept 1]

/-- The second client's lookup, with its own scan. It ends when a third client has
the port. -/
def scanningLookup : List ResolverEvent :=
  [.lookup 1 .advance, .lookup 1 .advance, .lookup 1 (.scanned (some [⟨50000, 1080, [200]⟩])),
    .close 1, .connect 50000 300, .lookup 1 .advance, .lookup 1 (.resolved (some "wget".toList)),
    .lookup 1 .advance, .lookup 1 .advance]

/-- The second client's lookup, which finds a cached pid. -/
def cachedLookup : List ResolverEvent :=
  [.lookup 1 .advance, .lookup 1 .advance, .lookup 1 (.resolved (some "curl".toList)),
    .lookup 1 .advance, .lookup 1 .advance]

def afterTimelyClient : ResolverSystem :=
  (Machine.run (ResolverSystem.step twoPrograms) (.start 1080) timelyClient).get
    (by decide +kernel)

def afterScanningLookup : ResolverSystem :=
  (Machine.run (ResolverSystem.step twoPrograms) afterTimelyClient scanningLookup).get
    (by decide +kernel)

theorem lookup_is_fresh_timely :
    ResolverSystem.NotStale twoPrograms afterScanningLookup.connections 50000 1 "wget".toList ∧
      ∃ owner ∈ afterScanningLookup.connections.drop 1, owner.port = 50000 ∧
        twoPrograms owner.pid = "wget".toList :=
  lookup_is_fresh twoPrograms 1080
    { reached := (Option.some_get (by decide +kernel)).symm
      continued := (Option.some_get (by decide +kernel)).symm
      begins :=
        ⟨⟨50000, 200, true, .accepted, .checkExe .first⟩, by decide +kernel, rfl, .first, rfl⟩
      removed := by decide +kernel
      answered := by decide +kernel }
    (show Machine.Along _ _ _ (timelyClient ++ scanningLookup) by decide +kernel)

def afterLateClient : ResolverSystem :=
  (Machine.run (ResolverSystem.step twoPrograms) (.start 1080) lateClient).get (by decide +kernel)

def afterCachedLookup : ResolverSystem :=
  (Machine.run (ResolverSystem.step twoPrograms) afterLateClient cachedLookup).get
    (by decide +kernel)

/-- The name of the first client's process is recorded for the second client,
though the removal for the first was over before the second connected. -/
theorem late_pid_outlives_removal :
    AnsweredLookup twoPrograms 1080 lateClient cachedLookup afterLateClient afterCachedLookup 1
        50000 (twoPrograms 100) ∧
      afterCachedLookup.connections.map (fun connection => (connection.port, connection.pid)) =
        [(50000, 100), (50000, 200)] ∧
      ¬ ResolverSystem.NotStale twoPrograms afterCachedLookup.connections 50000 1
        (twoPrograms 100) := by
  refine ⟨?_, by decide +kernel, ?_⟩
  · exact
      { reached := (Option.some_get (by decide +kernel)).symm
        continued := (Option.some_get (by decide +kernel)).symm
        begins :=
          ⟨⟨50000, 200, true, .accepted, .checkExe .first⟩, by decide +kernel, rfl, .first, rfl⟩
        removed := by decide +kernel
        answered := by decide +kernel }
  · unfold ResolverSystem.NotStale
    decide +kernel

end SimpleForwarder

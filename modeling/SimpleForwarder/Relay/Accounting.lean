import Mathlib.Algebra.BigOperators.Group.List.Basic
import Mathlib.Data.UInt
import SimpleForwarder.Relay.Counting
import SimpleForwarder.Tracker.Counters

/-!
Contract: the traffic counters of all connections (`stats.rs`, and the updates
of `relay_data`).

Owns: the machine of any number of relays and of the tracker with the counters
they share, and the law that the statistics and the counters of the
connections agree (`counters_agree`).

Each relay has a clock of its own, so their steps interleave in every order.
`register` creates two counters that nothing else uses. The tracker's steps are
those of all its callers; they touch no counter.

Does not own: what a relay does, and who registers.
-/

namespace SimpleForwarder

open RustText OrderedTable

/-- The four counters of `TrafficStats`. -/
structure TrafficStats where
  upstreamRx : UInt64
  upstreamTx : UInt64
  directRx : UInt64
  directTx : UInt64

namespace TrafficStats

def new : TrafficStats := ⟨0, 0, 0, 0⟩

/-- The counter of the loop that reads from `source`. -/
def get (stats : TrafficStats) (isDirect : Bool) : (source : Peer) → UInt64
  | .client => if isDirect then stats.directTx else stats.upstreamTx
  | .target => if isDirect then stats.directRx else stats.upstreamRx

/-- The `fetch_add` of the loop that reads from `source`. -/
def fetchAdd (stats : TrafficStats) (isDirect : Bool) (source : Peer) (n : UInt64) :
    TrafficStats :=
  match source with
  | .client =>
      if isDirect then { stats with directTx := stats.directTx + n }
      else { stats with upstreamTx := stats.upstreamTx + n }
  | .target =>
      if isDirect then { stats with directRx := stats.directRx + n }
      else { stats with upstreamRx := stats.upstreamRx + n }

theorem get_fetchAdd_self (stats : TrafficStats) (isDirect : Bool) (source : Peer) (n : UInt64) :
    (stats.fetchAdd isDirect source n).get isDirect source = stats.get isDirect source + n := by
  cases source with
  | client => cases isDirect with
    | true => rfl
    | false => rfl
  | target => cases isDirect with
    | true => rfl
    | false => rfl

theorem get_fetchAdd_of_ne (stats : TrafficStats) {isDirect direct : Bool} {source other : Peer}
    (n : UInt64) (apart : isDirect ≠ direct ∨ source ≠ other) :
    (stats.fetchAdd isDirect source n).get direct other = stats.get direct other := by
  cases source <;> cases other <;> cases isDirect <;> cases direct <;> first
    | rfl
    | simp at apart

end TrafficStats

/-! ## The connections -/

/-- The block that a loop is about to count. -/
def Copy.counting (copy : Copy) : Nat :=
  match copy.phase with
  | .countingStats size => size
  | .countingBytes size => size
  | _ => 0

/-- The statistics count a block that the connection's counter does not count
yet. -/
def Copy.isBetweenUpdates (copy : Copy) : Bool :=
  match copy.phase with
  | .countingBytes _ => true
  | _ => false

/-- A run of `relay_data`. -/
structure Transfer where
  isDirect : Bool
  clocked : ClockedRelay

def Transfer.copy (transfer : Transfer) (source : Peer) : Copy :=
  transfer.clocked.relay.copies.get source

/-- What `register` returns. -/
structure Registered where
  id : UInt64
  bytesSent : Counter
  bytesReceived : Counter

def Registered.counter (c : Registered) : (source : Peer) → Counter
  | .client => c.bytesSent
  | .target => c.bytesReceived

/-- A connection that was registered, and its relay once it has begun. -/
structure CountedConnection extends Registered where
  transfer : Option Transfer

namespace CountedConnection

/-- The bytes that the loop reading from `source` has written. -/
def written (c : CountedConnection) (source : Peer) : Bytes :=
  match c.transfer with
  | none => []
  | some transfer => (transfer.copy source).written

/-- The bytes that loop has added to the connection's counter. -/
def bytesCount (c : CountedConnection) (source : Peer) : Nat :=
  match c.transfer with
  | none => 0
  | some transfer => (transfer.copy source).bytesCount

/-- The bytes that loop has added to one of the two pairs of statistics. -/
def statsCount (c : CountedConnection) (isDirect : Bool) (source : Peer) : Nat :=
  match c.transfer with
  | none => 0
  | some transfer =>
      if transfer.isDirect = isDirect then (transfer.copy source).statsCount else 0

/-- The connection is relayed, directly or through an upstream. -/
def relaysAs (isDirect : Bool) (c : CountedConnection) : Bool :=
  c.transfer.any fun transfer => transfer.isDirect == isDirect

/-- The loop that reads from `source` has seen the end of that stream. -/
def ReachedEof (c : CountedConnection) (source : Peer) : Prop :=
  ∃ transfer ∈ c.transfer, (transfer.copy source).phase = .finished (.ok ())

end CountedConnection

/-! ## The machine -/

/-- `connections` are all that were ever registered, also those whose entry the
tracker has dropped. -/
structure Accounting where
  stats : TrafficStats
  memory : Counter → UInt64
  tracker : TrackerSystem
  connections : List CountedConnection

inductive AccountingEvent where
  | tracker (event : TrackerEvent)
  | relayData (index : Nat) (isDirect : Bool) (leftover targetLeftover : Bytes) (now : Nat)
  | transfer (index : Nat) (event : ClockedEvent)

namespace Accounting

def start : Accounting where
  stats := .new
  memory := fun _ => 0
  tracker := .start
  connections := []

/-- Nothing uses the counter. -/
def IsFresh (accounting : Accounting) (counter : Counter) : Prop :=
  ∀ c ∈ accounting.connections, counter ≠ c.bytesSent ∧ counter ≠ c.bytesReceived

instance (accounting : Accounting) (counter : Counter) : Decidable (accounting.IsFresh counter) :=
  inferInstanceAs (Decidable (∀ c ∈ accounting.connections,
    counter ≠ c.bytesSent ∧ counter ≠ c.bytesReceived))

/-- The counters that `register` creates. -/
def registered (accounting : Accounting) : TrackerEvent → Option Accounting
  | .register id registration =>
      if accounting.IsFresh registration.bytesSent ∧ accounting.IsFresh registration.bytesReceived ∧
          registration.bytesSent ≠ registration.bytesReceived then
        some { accounting with
          memory := Function.update (Function.update accounting.memory registration.bytesSent 0)
            registration.bytesReceived 0
          connections := accounting.connections ++
            [⟨⟨id, registration.bytesSent, registration.bytesReceived⟩, none⟩] }
      else none
  | _ => some accounting

/-- The two `fetch_add` calls of a loop. -/
def count (accounting : Accounting) (c : CountedConnection) (transfer : Transfer) :
    ClockedEvent → Accounting
  | .relay (.copy source .countStats) =>
      { accounting with
        stats := accounting.stats.fetchAdd transfer.isDirect source
          (UInt64.ofNat (transfer.copy source).counting) }
  | .relay (.copy source .countBytes) =>
      { accounting with
        memory := Function.update accounting.memory (c.counter source)
          (accounting.memory (c.counter source) +
            UInt64.ofNat (transfer.copy source).counting) }
  | _ => accounting

def replace (accounting : Accounting) (index : Nat) (c : CountedConnection) : Accounting :=
  { accounting with connections := accounting.connections.set index c }

def step (accounting : Accounting) : AccountingEvent → Option Accounting
  | .tracker event =>
      (accounting.tracker.step event).bind fun tracker =>
        { accounting with tracker }.registered event
  | .relayData index isDirect leftover targetLeftover now =>
      match accounting.connections[index]? with
      | none => none
      | some c =>
          match c.transfer with
          | some _ => none
          | none => some (accounting.replace index { c with
              transfer := some ⟨isDirect, .start leftover targetLeftover now⟩ })
  | .transfer index event =>
      match accounting.connections[index]? with
      | none => none
      | some c =>
          match c.transfer with
          | none => none
          | some transfer =>
              (transfer.clocked.step event).map fun clocked =>
                (accounting.count c transfer event).replace index { c with
                  transfer := some { transfer with clocked } }

/-- No loop is between its two updates. -/
def Settled (accounting : Accounting) : Prop :=
  ∀ c ∈ accounting.connections, ∀ transfer ∈ c.transfer, ∀ source,
    (transfer.copy source).isBetweenUpdates = false

instance (accounting : Accounting) : Decidable accounting.Settled :=
  decidable_of_iff (∀ c ∈ accounting.connections, ∀ transfer ∈ c.transfer,
      (transfer.copy .client).isBetweenUpdates = false ∧
        (transfer.copy .target).isBetweenUpdates = false) <| by
    constructor
    · intro both c member transfer isTransfer source
      cases source with
      | client => exact (both c member transfer isTransfer).1
      | target => exact (both c member transfer isTransfer).2
    · intro settled c member transfer isTransfer
      exact ⟨settled c member transfer isTransfer .client,
        settled c member transfer isTransfer .target⟩

end Accounting

/-! ## Sums over the connections -/

/-- Replacing one entry of a list changes a sum by that entry. -/
theorem sum_map_set {Item : Type} (amount : Item → UInt64) {items : List Item} {index : Nat}
    {item : Item} (found : items[index]? = some item) (replacement : Item) (added : UInt64)
    (larger : amount replacement = amount item + added) :
    ((items.set index replacement).map amount).sum = (items.map amount).sum + added := by
  open scoped UInt64.CommRing in
  obtain ⟨inside, rfl⟩ := List.getElem?_eq_some_iff.mp found
  rw [List.map_set, List.sum_set']
  simp [inside, larger]

/-- A new entry that counts for nothing changes no sum. -/
theorem sum_map_concat {Item : Type} (amount : Item → UInt64) (items : List Item) {item : Item}
    (nothing : amount item = 0) :
    ((items ++ [item]).map amount).sum = (items.map amount).sum := by
  open scoped UInt64.CommRing in
  rw [List.map_append, List.sum_append, List.map_singleton, List.sum_singleton, nothing, add_zero]

theorem sum_map_add {Item : Type} (first second : Item → UInt64) (items : List Item) :
    (items.map fun item => first item + second item).sum =
      (items.map first).sum + (items.map second).sum := by
  open scoped UInt64.CommRing in
  exact List.sum_map_add

/-- Entries that count for nothing may be left out of a sum. -/
theorem sum_map_filter {Item : Type} (amount : Item → UInt64) (keep : Item → Bool)
    (items : List Item) :
    (items.map fun item => if keep item then amount item else 0).sum =
      ((items.filter keep).map amount).sum := by
  open scoped UInt64.CommRing in
  rw [List.sum_map_ite (keep ·)]
  simp

/-! ## What a step counts -/

namespace Copy

variable {texts : CopyTexts} {now : Nat} {inbound inbound' : Inbound} {copy copy' : Copy}
  {event : CopyEvent}

/-- A step of a loop adds its block to the statistics, to the connection's
counter, or to neither. -/
theorem counts_step (stepped : copyStep texts now inbound copy event = some (inbound', copy')) :
    copy'.statsCount = copy.statsCount + (if event = .countStats then copy.counting else 0) ∧
      copy'.bytesCount = copy.bytesCount + (if event = .countBytes then copy.counting else 0) := by
  cases copyStep_move stepped with
  | wrotePart | wroteAll | writeFailed | writeTimedOut => exact ⟨rfl, rfl⟩
  | readChunk | readEof | readFailed | idle | shutdownDone => exact ⟨rfl, rfl⟩
  | countStats phase => simp [counting, phase]
  | countBytes phase => simp [counting, phase]

end Copy

namespace ClockedRelay

variable {clocked next : ClockedRelay} {event : ClockedEvent}

/-- A step of a relay counts for the loop that takes it. -/
theorem counts_step (stepped : clocked.step event = some next) (source : Peer) :
    (next.relay.copies.get source).statsCount = (clocked.relay.copies.get source).statsCount +
        (if event = .relay (.copy source .countStats)
          then (clocked.relay.copies.get source).counting else 0) ∧
      (next.relay.copies.get source).bytesCount = (clocked.relay.copies.get source).bytesCount +
        (if event = .relay (.copy source .countBytes)
          then (clocked.relay.copies.get source).counting else 0) := by
  cases event with
  | tick duration =>
      cases stepped
      exact ⟨rfl, rfl⟩
  | relay relayEvent =>
      obtain ⟨moved, relayStepped, rfl⟩ := Option.map_eq_some_iff.mp stepped
      cases (Relay.step_move relayStepped).2 with
      | arrive => exact ⟨rfl, rfl⟩
      | close => exact ⟨rfl, rfl⟩
      | lingerElapsed => exact ⟨rfl, rfl⟩
      | @copy moving copyEvent inbound copy moved copied movedEq =>
          dsimp only
          rw [Relay.select_copies, movedEq]
          dsimp only
          by_cases same : source = moving
          · rw [same, Sides.get_set_self]
            simpa using Copy.counts_step copied
          · rw [Sides.get_set_of_ne _ _ same]
            simp [Ne.symm same]

end ClockedRelay

/-! ## The invariant -/

namespace Accounting

variable {accounting next : Accounting} {index : Nat} {c : CountedConnection}

def owners (accounting : Accounting) : List Registered :=
  accounting.connections.map CountedConnection.toRegistered

/-- No two counters are the same. -/
def Apart (owners : List Registered) : Prop :=
  ∀ (index other : Nat) (owner otherOwner : Registered) (source otherSource : Peer),
    owners[index]? = some owner → owners[other]? = some otherOwner →
    owner.counter source = otherOwner.counter otherSource → index = other ∧ source = otherSource

/-- No two counters are the same, each holds what its loop has counted, and
the statistics hold the sums. -/
structure Kept (accounting : Accounting) : Prop where
  apart : Apart accounting.owners
  tracked : ∀ id entry, accounting.tracker.state.entries id = some entry →
    ∃ owner ∈ accounting.owners, owner.id = entry.id ∧ owner.bytesSent = entry.bytesSent ∧
      owner.bytesReceived = entry.bytesReceived
  counts : ∀ (index : Nat) (c : CountedConnection), accounting.connections[index]? = some c →
    ∀ transfer ∈ c.transfer, transfer.clocked.relay.CountsBoth
  memory : ∀ (index : Nat) (c : CountedConnection), accounting.connections[index]? = some c →
    ∀ source, accounting.memory (c.counter source) = UInt64.ofNat (c.bytesCount source)
  stats : ∀ isDirect source, accounting.stats.get isDirect source =
    (accounting.connections.map fun c => UInt64.ofNat (c.statsCount isDirect source)).sum

theorem Kept.start : Kept start where
  apart := by simp [Apart, owners, Accounting.start]
  tracked := by
    intro id entry isEntry
    exact absurd isEntry.symm (Option.some_ne_none entry)
  counts := by simp [Accounting.start]
  memory := by simp [Accounting.start]
  stats := by
    intro isDirect source
    cases source with
    | client => simp [Accounting.start, TrafficStats.new, TrafficStats.get]
    | target => simp [Accounting.start, TrafficStats.new, TrafficStats.get]

theorem owner_of_connection (found : accounting.connections[index]? = some c) :
    accounting.owners[index]? = some c.toRegistered := by
  rw [owners, List.getElem?_map, found, Option.map_some]

/-- Replacing a connection by itself keeps the owners of the counters. -/
theorem owners_replace {other : CountedConnection}
    (found : accounting.connections[index]? = some c) (same : other.toRegistered = c.toRegistered) :
    (accounting.replace index other).owners = accounting.owners := by
  obtain ⟨inside, isOwner⟩ := List.getElem?_eq_some_iff.mp (owner_of_connection found)
  unfold owners replace at *
  dsimp only
  rw [List.map_set, same, ← isOwner, List.set_getElem_self]

/-- One relay moves, and what it counts is added to its own counters and to the
statistics. -/
theorem Kept.replace {stats : TrafficStats} {memory : Counter → UInt64} {transfer : Transfer}
    (kept : accounting.Kept) (found : accounting.connections[index]? = some c)
    (counts : transfer.clocked.relay.CountsBoth)
    (remembered : ∀ source, memory (c.counter source) =
      UInt64.ofNat (transfer.copy source).bytesCount)
    (elsewhere : ∀ counter, (∀ source, counter ≠ c.counter source) →
      memory counter = accounting.memory counter)
    (added : ∀ isDirect source, ∃ n, stats.get isDirect source =
        accounting.stats.get isDirect source + UInt64.ofNat n ∧
      { c with transfer := some transfer }.statsCount isDirect source =
        c.statsCount isDirect source + n) :
    Kept ({ accounting with stats, memory }.replace index { c with transfer := some transfer }) := by
  have inside := (List.getElem?_eq_some_iff.mp found).1
  have owners : ({ accounting with stats, memory }.replace index
      { c with transfer := some transfer }).owners = accounting.owners := owners_replace found rfl
  constructor
  · rw [owners]
    exact kept.apart
  · rw [owners]
    exact kept.tracked
  · intro position other atPosition
    by_cases same : position = index
    · rw [same, Accounting.replace, List.getElem?_set_self inside] at atPosition
      cases atPosition
      intro isTransfer same
      cases same
      exact counts
    · rw [Accounting.replace, List.getElem?_set_ne (Ne.symm same)] at atPosition
      exact kept.counts position other atPosition
  · intro position other atPosition source
    by_cases same : position = index
    · rw [same, Accounting.replace, List.getElem?_set_self inside] at atPosition
      cases atPosition
      exact remembered source
    · rw [Accounting.replace, List.getElem?_set_ne (Ne.symm same)] at atPosition
      rw [← kept.memory position other atPosition]
      apply elsewhere
      intro otherSource sameCounter
      exact same (kept.apart _ _ _ _ _ _ (owner_of_connection atPosition)
        (owner_of_connection found) sameCounter).1
  · intro isDirect source
    obtain ⟨n, larger, counted⟩ := added isDirect source
    have sum := sum_map_set (fun c => UInt64.ofNat (c.statsCount isDirect source)) found
      { c with transfer := some transfer } (UInt64.ofNat n) (by rw [counted, UInt64.ofNat_add])
    exact larger.trans ((congrArg (· + UInt64.ofNat n) (kept.stats isDirect source)).trans sum.symm)

/-- Two new counters stand apart from all others. -/
theorem Apart.append {owners : List Registered} {owner : Registered} (apart : Apart owners)
    (fresh : ∀ other ∈ owners, ∀ source otherSource,
      owner.counter source ≠ other.counter otherSource)
    (distinct : owner.bytesSent ≠ owner.bytesReceived) : Apart (owners ++ [owner]) := by
  have frontOrLast : ∀ (index : Nat) (found : Registered), (owners ++ [owner])[index]? = some found →
      owners[index]? = some found ∨ (index = owners.length ∧ found = owner) := by
    intro index found atIndex
    rcases Nat.lt_or_ge index owners.length with inside | outside
    · rw [List.getElem?_append_left inside] at atIndex
      exact .inl atIndex
    · rw [List.getElem?_append_right outside] at atIndex
      have last := (List.getElem?_eq_some_iff.mp atIndex).1
      have isLast : index = owners.length := by
        simp only [List.length_singleton] at last
        omega
      rw [isLast, Nat.sub_self, List.getElem?_cons_zero] at atIndex
      exact .inr ⟨isLast, (Option.some.inj atIndex).symm⟩
  intro index other first second source otherSource atIndex atOther same
  rcases frontOrLast _ _ atIndex with inFront | ⟨atEnd, isOwner⟩
  · rcases frontOrLast _ _ atOther with otherInFront | ⟨otherAtEnd, otherIsOwner⟩
    · exact apart _ _ _ _ _ _ inFront otherInFront same
    · rw [otherIsOwner] at same
      exact absurd same.symm (fresh first (List.mem_of_getElem? inFront) _ _)
  · rcases frontOrLast _ _ atOther with otherInFront | ⟨otherAtEnd, otherIsOwner⟩
    · rw [isOwner] at same
      exact absurd same (fresh second (List.mem_of_getElem? otherInFront) _ _)
    · rw [isOwner, otherIsOwner] at same
      refine ⟨atEnd.trans otherAtEnd.symm, ?_⟩
      cases source with
      | client => cases otherSource with
        | client => rfl
        | target => exact absurd same distinct
      | target => cases otherSource with
        | client => exact absurd same.symm distinct
        | target => rfl

/-- A step of the tracker other than an insertion. -/
theorem Kept.track {tracker : TrackerSystem} {event : TrackerEvent} (kept : accounting.Kept)
    (stepped : accounting.tracker.step event = some tracker)
    (notInserted : ∀ id registration, event ≠ .register id registration) :
    Kept { accounting with tracker } := by
  constructor
  · exact kept.apart
  · intro id entry isEntry
    rcases TrackerSystem.entry_origin stepped isEntry with ⟨before, wasEntry, shares⟩ | registered
    · rw [shares.id, shares.sent, shares.received]
      exact kept.tracked id before wasEntry
    · obtain ⟨registration, isInsertion, -⟩ := registered
      exact absurd isInsertion (notInserted _ _)
  · exact kept.counts
  · exact kept.memory
  · exact kept.stats

theorem counter_of_isFresh {counter : Counter} (fresh : accounting.IsFresh counter) :
    ∀ owner ∈ accounting.owners, ∀ source, counter ≠ owner.counter source := by
  intro owner member source
  obtain ⟨c, inConnections, rfl⟩ := List.mem_map.mp member
  cases source with
  | client => exact (fresh c inConnections).1
  | target => exact (fresh c inConnections).2

/-- A registration, with two new counters. -/
theorem Kept.register {tracker : TrackerSystem} {id : UInt64} {registration : Registration}
    (kept : accounting.Kept)
    (stepped : accounting.tracker.step (.register id registration) = some tracker)
    (inserted : { accounting with tracker }.registered (.register id registration) = some next) :
    next.Kept := by
  unfold registered at inserted
  dsimp only at inserted
  split at inserted
  · next fresh =>
      cases inserted
      have sentFresh : ∀ owner ∈ accounting.owners, ∀ source,
          registration.bytesSent ≠ owner.counter source := counter_of_isFresh fresh.1
      have receivedFresh : ∀ owner ∈ accounting.owners, ∀ source,
          registration.bytesReceived ≠ owner.counter source := counter_of_isFresh fresh.2.1
      have owners : (accounting.connections ++ [(⟨⟨id, registration.bytesSent,
          registration.bytesReceived⟩, none⟩ : CountedConnection)]).map
          CountedConnection.toRegistered =
            accounting.owners ++ [⟨id, registration.bytesSent, registration.bytesReceived⟩] :=
        List.map_append
      have frontOrLast : ∀ (index : Nat) (c : CountedConnection),
          (accounting.connections ++ [(⟨⟨id, registration.bytesSent,
            registration.bytesReceived⟩, none⟩ : CountedConnection)])[index]? = some c →
          c ∈ accounting.connections ∨
            c = ⟨⟨id, registration.bytesSent, registration.bytesReceived⟩, none⟩ := by
        intro index c atIndex
        simpa using List.mem_of_getElem? atIndex
      constructor
      · dsimp only [Accounting.owners]
        rw [owners]
        apply kept.apart.append
        · intro other member source otherSource
          cases source with
          | client => exact sentFresh other member otherSource
          | target => exact receivedFresh other member otherSource
        · exact fresh.2.2
      · intro entryId entry isEntry
        dsimp only [Accounting.owners]
        rw [owners]
        rcases TrackerSystem.entry_origin stepped isEntry with ⟨before, wasEntry, shares⟩ |
          ⟨registered, isInsertion, sent, received⟩
        · obtain ⟨owner, member, same⟩ := kept.tracked entryId before wasEntry
          refine ⟨owner, List.mem_append_left _ member, ?_⟩
          rw [shares.id, shares.sent, shares.received]
          exact same
        · injection isInsertion with isId isRegistration
          refine ⟨_, List.mem_append_right _ List.mem_cons_self, isId, ?_⟩
          rw [sent, received, ← isRegistration]
          exact ⟨rfl, rfl⟩
      · intro index c atIndex
        rcases frontOrLast index c atIndex with before | rfl
        · obtain ⟨position, atPosition⟩ := List.mem_iff_getElem?.mp before
          exact kept.counts position c atPosition
        · intro transfer isTransfer
          exact absurd isTransfer (Option.not_mem_none transfer)
      · intro index c atIndex source
        dsimp only
        rcases frontOrLast index c atIndex with before | rfl
        · have isOwner : c.toRegistered ∈ accounting.owners := List.mem_map_of_mem before
          obtain ⟨position, atPosition⟩ := List.mem_iff_getElem?.mp before
          rw [Function.update_of_ne (receivedFresh _ isOwner source).symm,
            Function.update_of_ne (sentFresh _ isOwner source).symm]
          exact kept.memory position c atPosition source
        · cases source with
          | client =>
              change Function.update _ _ _ registration.bytesSent = 0
              rw [Function.update_of_ne fresh.2.2, Function.update_self]
          | target => exact Function.update_self _ _ _
      · intro isDirect source
        exact (kept.stats isDirect source).trans
          (sum_map_concat (fun c : CountedConnection => UInt64.ofNat (c.statsCount isDirect source))
            _ rfl).symm
  · cases inserted

/-- A relay begins: nothing is counted yet. -/
theorem Kept.relayData {isDirect : Bool} {leftover targetLeftover : Bytes} {now : Nat}
    (kept : accounting.Kept) (found : accounting.connections[index]? = some c)
    (waits : c.transfer = none) :
    Kept (accounting.replace index
      { c with transfer := some ⟨isDirect, .start leftover targetLeftover now⟩ }) := by
  apply kept.replace found (Relay.CountsBoth.start leftover targetLeftover now)
  · intro source
    have nothing : c.bytesCount source = 0 := by rw [CountedConnection.bytesCount, waits]
    rw [kept.memory index c found, nothing]
    cases source with
    | client => rfl
    | target => rfl
  · exact fun _ _ => rfl
  · intro direct source
    refine ⟨0, (UInt64.add_zero _).symm, ?_⟩
    have nothing : c.statsCount direct source = 0 := by rw [CountedConnection.statsCount, waits]
    rw [nothing]
    unfold CountedConnection.statsCount
    split
    · rfl
    · next transfer isTransfer =>
        cases isTransfer
        cases source with
        | client => exact ite_self 0
        | target => exact ite_self 0

/-- What a step of a relay adds to the statistics. -/
theorem stats_count (transfer : Transfer) (event : ClockedEvent) (isDirect : Bool)
    (source : Peer) :
    (accounting.count c transfer event).stats.get isDirect source =
      accounting.stats.get isDirect source + UInt64.ofNat
        (if transfer.isDirect = isDirect ∧ event = .relay (.copy source .countStats) then
          (transfer.copy source).counting else 0) := by
  have untouched : ∀ {stats : TrafficStats}, stats = accounting.stats →
      ¬ (transfer.isDirect = isDirect ∧ event = .relay (.copy source .countStats)) →
      stats.get isDirect source = accounting.stats.get isDirect source + UInt64.ofNat
        (if transfer.isDirect = isDirect ∧ event = .relay (.copy source .countStats) then
          (transfer.copy source).counting else 0) := by
    intro stats same other
    rw [same, if_neg other]
    exact (UInt64.add_zero _).symm
  unfold count
  split
  · next moving =>
      dsimp only
      by_cases counted : transfer.isDirect = isDirect ∧ moving = source
      · obtain ⟨sameKind, sameSource⟩ := counted
        rw [sameSource, sameKind, if_pos ⟨rfl, rfl⟩]
        exact TrafficStats.get_fetchAdd_self _ _ _ _
      · rw [TrafficStats.get_fetchAdd_of_ne _ _ (not_and_or.mp counted), if_neg]
        · exact (UInt64.add_zero _).symm
        · intro matched
          injection matched.2 with isRelay
          injection isRelay with isSource
          exact counted ⟨matched.1, isSource⟩
  · apply untouched rfl
    intro matched
    injection matched.2 with isRelay
    injection isRelay with _ isEvent
    cases isEvent
  · next notCounted _ =>
      apply untouched rfl
      intro matched
      exact notCounted source matched.2

/-- What it adds to the counters of its connection. -/
theorem memory_count (transfer : Transfer) (event : ClockedEvent)
    (distinct : c.bytesSent ≠ c.bytesReceived) (source : Peer) :
    (accounting.count c transfer event).memory (c.counter source) =
      accounting.memory (c.counter source) + UInt64.ofNat
        (if event = .relay (.copy source .countBytes) then (transfer.copy source).counting
          else 0) := by
  have zero : ∀ value : UInt64, value = value + UInt64.ofNat 0 :=
    fun value => (UInt64.add_zero value).symm
  unfold count
  split
  · rw [if_neg (by simp)]
    exact zero _
  · next moving =>
      dsimp only
      by_cases same : moving = source
      · rw [same, if_pos rfl]
        exact Function.update_self _ _ _
      · have apart : c.counter source ≠ c.counter moving := by
          cases source with
          | client => cases moving with
            | client => exact absurd rfl same
            | target => exact distinct
          | target => cases moving with
            | client => exact distinct.symm
            | target => exact absurd rfl same
        rw [Function.update_of_ne apart, if_neg (by simp [same])]
        exact zero _
  · next notCounted =>
      rw [if_neg (notCounted source)]
      exact zero _

/-- It adds to no other counter. -/
theorem memory_count_of_ne (transfer : Transfer) (event : ClockedEvent) {counter : Counter}
    (other : ∀ source, counter ≠ c.counter source) :
    (accounting.count c transfer event).memory counter = accounting.memory counter := by
  unfold count
  split
  · rfl
  · next moving => exact Function.update_of_ne (other moving) _ _
  · rfl

/-- A step of a relay counts what its loop counts. -/
theorem Kept.transfer {transfer : Transfer} {event : ClockedEvent} {clocked : ClockedRelay}
    (kept : accounting.Kept) (found : accounting.connections[index]? = some c)
    (isTransfer : c.transfer = some transfer)
    (stepped : transfer.clocked.step event = some clocked) :
    Kept ((accounting.count c transfer event).replace index
      { c with transfer := some { transfer with clocked } }) := by
  have isOwner := owner_of_connection found
  have distinct : c.bytesSent ≠ c.bytesReceived := by
    intro same
    have oneSource := (kept.apart index index _ _ .client .target isOwner isOwner same).2
    cases oneSource
  have counts := ClockedRelay.counts_step stepped
  have bookkeeping : accounting.count c transfer event =
      { accounting with
        stats := (accounting.count c transfer event).stats
        memory := (accounting.count c transfer event).memory } := by
    unfold count
    split
    · rfl
    · rfl
    · rfl
  rw [bookkeeping]
  apply kept.replace found ((kept.counts index c found transfer isTransfer).step stepped)
  · intro source
    rw [memory_count transfer event distinct source, kept.memory index c found source,
      CountedConnection.bytesCount, isTransfer, ← UInt64.ofNat_add]
    exact congrArg UInt64.ofNat (counts source).2.symm
  · exact fun counter other => memory_count_of_ne transfer event other
  · intro isDirect source
    refine ⟨_, stats_count transfer event isDirect source, ?_⟩
    unfold CountedConnection.statsCount
    rw [isTransfer]
    dsimp only
    by_cases sameKind : transfer.isDirect = isDirect
    · rw [if_pos sameKind, if_pos sameKind]
      simp only [sameKind, true_and]
      exact (counts source).1
    · rw [if_neg sameKind, if_neg sameKind, if_neg (fun matched => sameKind matched.1)]

theorem Kept.step {event : AccountingEvent} (kept : accounting.Kept)
    (stepped : accounting.step event = some next) : next.Kept := by
  cases event with
  | tracker trackerEvent =>
      obtain ⟨tracker, trackerStepped, registered⟩ := Option.bind_eq_some_iff.mp stepped
      cases trackerEvent with
      | register id registration => exact kept.register trackerStepped registered
      | allocate | set | count | snapshot =>
          cases registered
          exact kept.track trackerStepped (fun _ _ => nofun)
  | relayData index isDirect leftover targetLeftover now =>
      dsimp only [Accounting.step] at stepped
      split at stepped
      · cases stepped
      · next c found =>
          split at stepped
          · cases stepped
          · next waits =>
              cases stepped
              exact kept.relayData found waits
  | transfer index event =>
      dsimp only [Accounting.step] at stepped
      split at stepped
      · cases stepped
      · next c found =>
          split at stepped
          · cases stepped
          · next transfer isTransfer =>
              obtain ⟨clocked, clockedStepped, rfl⟩ := Option.map_eq_some_iff.mp stepped
              exact kept.transfer found isTransfer clockedStepped

/-- Without a loop between its updates, a connection's counter is its share of
the statistics. -/
theorem Kept.share (kept : accounting.Kept) (settled : accounting.Settled)
    (member : c ∈ accounting.connections) (isDirect : Bool) (source : Peer) :
    UInt64.ofNat (c.statsCount isDirect source) =
      if c.relaysAs isDirect then accounting.memory (c.counter source) else 0 := by
  obtain ⟨index, found⟩ := List.mem_iff_getElem?.mp member
  rw [kept.memory index c found source]
  unfold CountedConnection.statsCount CountedConnection.relaysAs CountedConnection.bytesCount
  cases isTransfer : c.transfer with
  | none => rfl
  | some transfer =>
      have counted := kept.counts index c found transfer isTransfer source
      have same : (transfer.copy source).statsCount = (transfer.copy source).bytesCount := by
        have notBetween := settled c member transfer isTransfer source
        have uncounted : (transfer.copy source).uncounted = 0 := by
          unfold Copy.isBetweenUpdates at notBetween
          unfold Copy.uncounted
          split
          · next phase =>
              rw [phase] at notBetween
              cases notBetween
          · rfl
        have stats := counted.stats
        change (transfer.copy source).statsCount = _ + (transfer.copy source).uncounted at stats
        rw [uncounted] at stats
        exact stats
      simp only [Option.any_some, beq_iff_eq, same]
      split
      · rfl
      · rfl

/-- A connection is relayed in one way or not at all. -/
theorem Kept.shares (kept : accounting.Kept) (member : c ∈ accounting.connections)
    (source : Peer) :
    (if c.relaysAs true then accounting.memory (c.counter source) else 0) +
        (if c.relaysAs false then accounting.memory (c.counter source) else 0) =
      accounting.memory (c.counter source) := by
  obtain ⟨index, found⟩ := List.mem_iff_getElem?.mp member
  unfold CountedConnection.relaysAs
  cases isTransfer : c.transfer with
  | none =>
      have nothing : c.bytesCount source = 0 := by rw [CountedConnection.bytesCount, isTransfer]
      rw [kept.memory index c found source, nothing]
      rfl
  | some transfer =>
      cases kind : transfer.isDirect with
      | true => simp [kind]
      | false => simp [kind]

theorem kept_of_run {events : List AccountingEvent}
    (reached : Machine.run step start events = some accounting) : accounting.Kept :=
  Machine.run_invariant Kept .start (fun _ _ _ kept stepped => kept.step stepped) reached

end Accounting

/-- In every state of every run of any number of relays and of the tracker:
if no loop is between its two updates, the statistics of a direction are the
sum of the counters of all connections ever registered, and each of the two
pairs is the sum over the connections relayed that way, modulo 2^64. A counter
is at most what its loop has written, and is that number modulo 2^64 once the
loop has seen the end of its stream. The tracker's entries share the counters
of the connections they were registered for. -/
theorem counters_agree {events : List AccountingEvent} {last : Accounting}
    (reached : Machine.run Accounting.step .start events = some last) :
    (last.Settled →
      last.stats.directTx + last.stats.upstreamTx =
          (last.connections.map fun c => last.memory c.bytesSent).sum ∧
        last.stats.directRx + last.stats.upstreamRx =
          (last.connections.map fun c => last.memory c.bytesReceived).sum ∧
        ∀ isDirect source, last.stats.get isDirect source =
          ((last.connections.filter (CountedConnection.relaysAs isDirect)).map fun c =>
            last.memory (c.counter source)).sum) ∧
      (∀ c ∈ last.connections, ∀ source,
        (last.memory (c.counter source)).toNat ≤ (c.written source).length ∧
          (c.ReachedEof source →
            (last.memory (c.counter source)).toNat = (c.written source).length % 2 ^ 64)) ∧
      ∀ id entry, last.tracker.state.entries id = some entry →
        ∃ c ∈ last.connections, c.id = entry.id ∧ c.bytesSent = entry.bytesSent ∧
          c.bytesReceived = entry.bytesReceived := by
  have kept := Accounting.kept_of_run reached
  refine ⟨?_, ?_, ?_⟩
  · intro settled
    have pair : ∀ isDirect source, last.stats.get isDirect source =
        (last.connections.map fun c =>
          if c.relaysAs isDirect then last.memory (c.counter source) else 0).sum := by
      intro isDirect source
      rw [kept.stats isDirect source]
      apply congrArg List.sum
      apply List.map_congr_left
      intro c member
      exact kept.share settled member isDirect source
    have both : ∀ source, last.stats.get true source + last.stats.get false source =
        (last.connections.map fun c => last.memory (c.counter source)).sum := by
      intro source
      rw [pair, pair, ← sum_map_add]
      apply congrArg List.sum
      apply List.map_congr_left
      intro c member
      exact kept.shares member source
    refine ⟨both .client, both .target, ?_⟩
    intro isDirect source
    rw [pair, sum_map_filter]
  · intro c member source
    obtain ⟨index, found⟩ := List.mem_iff_getElem?.mp member
    have counter : (last.memory (c.counter source)).toNat = c.bytesCount source % 2 ^ 64 := by
      rw [kept.memory index c found source, UInt64.toNat_ofNat']
    rw [counter]
    unfold CountedConnection.bytesCount CountedConnection.written CountedConnection.ReachedEof
    cases isTransfer : c.transfer with
    | none => simp
    | some transfer =>
        have counted := kept.counts index c found transfer isTransfer source
        constructor
        · exact (Nat.mod_le _ _).trans counted.le_written
        · rintro ⟨same, isSame, ended⟩
          cases isSame
          exact congrArg (· % 2 ^ 64) (counted.eq_written ended)
  · intro id entry isEntry
    obtain ⟨owner, member, shared⟩ := kept.tracked id entry isEntry
    obtain ⟨c, inConnections, rfl⟩ := List.mem_map.mp member
    exact ⟨c, inConnections, shared⟩

/-- Two connections are registered, a direct one and one through an upstream.
Each relays some bytes, and the first is closed and cleaned up. -/
def twoCounted : List AccountingEvent :=
  [.tracker .allocate, .tracker .allocate, .tracker (.register 1 localRegistration),
    .tracker (.register 2 { localRegistration with bytesSent := 2, bytesReceived := 3 }),
    .relayData 0 true [1, 2, 3] [] 0, .relayData 1 false [] [4, 5] 0,
    .transfer 0 (.relay (.copy .client (.wrote 3))),
    .transfer 1 (.relay (.copy .target (.wrote 2))),
    .transfer 0 (.relay (.copy .client .countStats)),
    .transfer 1 (.relay (.copy .target .countStats)),
    .transfer 1 (.relay (.copy .target .countBytes)),
    .transfer 0 (.relay (.copy .client .countBytes)),
    .tracker (.set 1 .setClosed 0), .tracker .count, .tracker (.snapshot 0 fun _ => 9000)]

def twoCountedEnd : Accounting :=
  (Machine.run Accounting.step .start twoCounted).get (by decide +kernel)

theorem counters_agree_cleaned_up :
    twoCountedEnd.stats.directTx + twoCountedEnd.stats.upstreamTx = 3 ∧
      twoCountedEnd.stats.directRx + twoCountedEnd.stats.upstreamRx = 2 := by
  have reached : Machine.run Accounting.step .start twoCounted = some twoCountedEnd :=
    (Option.some_get _).symm
  have sums := (counters_agree reached).1 (by decide +kernel)
  exact ⟨sums.1.trans (by decide +kernel), sums.2.1.trans (by decide +kernel)⟩

end SimpleForwarder

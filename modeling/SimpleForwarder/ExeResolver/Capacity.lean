import SimpleForwarder.ExeResolver.System

/-!
Contract: the size of the port caches (`evict_stale_entries`).

Owns: what the eviction on overflow guarantees over whole runs: a cache with more
entries than its capacity holds entries of one time to live only
(`ResolverSystem.caches_bounded`); and a run in which a full cache loses its old
entries.

Does not own: which process a cached entry names.
-/

namespace SimpleForwarder

open RustText

namespace PortCache

variable {V : Type} {map : PortCache V} {now later : Nat} {port : UInt16} {value : V}

/-- No entry is from the future. -/
def StoredBy (map : PortCache V) (now : Nat) : Prop :=
  ∀ (port : UInt16) (entry : V × Nat), map[port]? = some entry → entry.2 ≤ now

/-- The cache is within its capacity, or no two of its entries were stored 30
seconds or more apart. -/
def Bounded (map : PortCache V) : Prop :=
  map.size ≤ exeCacheCapacity ∨
    ∀ (port other : UInt16) (older newer : V × Nat),
      map[port]? = some older → map[other]? = some newer → newer.2 - older.2 < exeCacheTtl

theorem storedBy_empty : StoredBy (∅ : PortCache V) now := by
  intro port entry held
  simp at held

theorem bounded_empty : Bounded (∅ : PortCache V) := .inl (by simp)

theorem StoredBy.mono (stored : StoredBy map now) (le : now ≤ later) : StoredBy map later :=
  fun port entry held => Nat.le_trans (stored port entry held) le

theorem StoredBy.insert (stored : StoredBy map now) :
    StoredBy (map.insert port (value, now)) now := by
  intro other entry held
  rw [Std.TreeMap.getElem?_insert] at held
  split at held
  · rw [← Option.some.inj held]
  · exact stored other entry held

theorem StoredBy.remove (stored : StoredBy map now) : StoredBy (map.remove port) now := by
  intro other entry held
  rw [PortCache.remove, Std.TreeMap.getElem?_erase] at held
  split at held
  · cases held
  · exact stored other entry held

theorem StoredBy.evict (stored : StoredBy map now) : StoredBy (evictStaleEntries now map) now := by
  intro other entry held
  unfold evictStaleEntries at held
  split at held
  · rw [Std.TreeMap.getElem?_filter', Option.filter_eq_some_iff] at held
    exact stored other entry held.1
  · exact stored other entry held

theorem Bounded.remove (bounded : Bounded map) : Bounded (map.remove port) := by
  have old : ∀ {other : UInt16} {entry : V × Nat}, (map.remove port)[other]? = some entry →
      map[other]? = some entry := by
    intro other entry held
    rw [PortCache.remove, Std.TreeMap.getElem?_erase] at held
    split at held
    · cases held
    · exact held
  rcases bounded with within | spread
  · exact .inl (Nat.le_trans Std.TreeMap.size_erase_le within)
  · exact .inr fun one other older newer heldOne heldOther =>
      spread one other older newer (old heldOne) (old heldOther)

/-- After an eviction the entries are young, if the cache is still too large. -/
theorem bounded_evict (stored : StoredBy map now) : Bounded (evictStaleEntries now map) := by
  unfold evictStaleEntries
  split
  next =>
    refine .inr fun port other older newer heldOlder heldNewer => ?_
    rw [Std.TreeMap.getElem?_filter', Option.filter_eq_some_iff] at heldOlder heldNewer
    have young : now - older.2 < exeCacheTtl := of_decide_eq_true heldOlder.2
    have past := stored other newer heldNewer.1
    omega
  next within => exact .inl (Nat.not_lt.mp within)

end PortCache

namespace ExeResolver

structure Bounded (resolver : ExeResolver) (now : Nat) : Prop where
  pidsStored : resolver.portToPid.StoredBy now
  exesStored : resolver.portToExe.StoredBy now
  pids : resolver.portToPid.Bounded
  exes : resolver.portToExe.Bounded

variable {resolver after : ExeResolver} {now later : Nat} {port : UInt16}

namespace Bounded

theorem mono (bounded : resolver.Bounded now) (le : now ≤ later) : resolver.Bounded later :=
  ⟨bounded.pidsStored.mono le, bounded.exesStored.mono le, bounded.pids, bounded.exes⟩

theorem storePid (bounded : resolver.Bounded now) (pid : UInt32) :
    (resolver.storePid now port pid).Bounded now where
  pidsStored := bounded.pidsStored.insert.evict
  exesStored := bounded.exesStored
  pids := PortCache.bounded_evict bounded.pidsStored.insert
  exes := bounded.exes

theorem cacheExe (bounded : resolver.Bounded now) (pid : UInt32) (exe : Text) :
    (resolver.cacheExe now port pid exe).Bounded now := by
  unfold ExeResolver.cacheExe
  split
  · exact ⟨bounded.pidsStored, bounded.exesStored.insert.evict, bounded.pids,
      PortCache.bounded_evict bounded.exesStored.insert⟩
  · exact bounded

theorem captureEtw (bounded : resolver.Bounded now) (dport : UInt16) (pid : UInt32) :
    (resolver.captureEtw now port dport pid).Bounded now := by
  unfold ExeResolver.captureEtw
  split
  · exact bounded
  · split
    · exact bounded
    · exact ⟨bounded.pidsStored.insert.evict, bounded.exesStored.remove.evict,
        PortCache.bounded_evict bounded.pidsStored.insert,
        PortCache.bounded_evict bounded.exesStored.remove⟩

theorem advance (bounded : resolver.Bounded now) {lookup next : Lookup} {event : LookupEvent}
    (advanced : resolver.Advance now port lookup event next after) : after.Bounded now := by
  cases advanced with
  | storePid => exact bounded.storePid _
  | cacheExe => exact bounded.cacheExe _ _
  | exeCached _ => exact bounded
  | exeMissed => exact bounded
  | pidCached _ => exact bounded
  | pidMissed => exact bounded
  | scanned _ => exact bounded
  | unseen => exact bounded
  | unresolved => exact bounded
  | resolved => exact bounded
  | record => exact bounded
  | wake _ => exact bounded

end Bounded

end ExeResolver

namespace ResolverSystem

variable {exeOf : UInt32 → Text} {listenPort : UInt16} {system next : ResolverSystem}
  {event : ResolverEvent} {events : List ResolverEvent}

theorem bounded_start (listenPort : UInt16) :
    (start listenPort).resolver.Bounded (start listenPort).now :=
  ⟨PortCache.storedBy_empty, PortCache.storedBy_empty, PortCache.bounded_empty,
    PortCache.bounded_empty⟩

theorem bounded_move (bounded : system.resolver.Bounded system.now)
    (move : Move exeOf system event next) : next.resolver.Bounded next.now := by
  cases move with
  | tick duration => exact bounded.mono (Nat.le_add_right _ _)
  | connect free => exact bounded
  | close found => exact bounded
  | accept found waiting => exact bounded
  | lookup found answers advanced => exact bounded.advance advanced
  | removePid found accepted =>
      exact ⟨bounded.pidsStored.remove, bounded.exesStored, bounded.pids.remove, bounded.exes⟩
  | removeExe found begun =>
      exact ⟨bounded.pidsStored, bounded.exesStored.remove, bounded.pids, bounded.exes.remove⟩
  | etw found => exact bounded.captureEtw _ _

/-- In every state that can be reached, each cache holds at most 1000 entries, or
no two of its entries were stored 30 seconds or more apart. -/
theorem caches_bounded
    (reached : Machine.run (step exeOf) (start listenPort) events = some system) :
    system.resolver.portToPid.Bounded ∧ system.resolver.portToExe.Bounded := by
  have bounded := Machine.run_invariant
    (fun system : ResolverSystem => system.resolver.Bounded system.now)
    (bounded_start listenPort)
    (fun _ _ _ bounded stepped => bounded_move bounded (move_of_step stepped)) reached
  exact ⟨bounded.pids, bounded.exes⟩

/-! ## A cache that overflows -/

/-- The source port of a client. -/
def portOf (index : Nat) : UInt16 := UInt16.ofNat (index + 1)

/-- The clients that have connected, all of one process. -/
def clients (count : Nat) : List ClientConnection :=
  (List.range count).map fun index => newConnection (portOf index) 7

/-- A client connects, and the trace sees it. -/
def captureOf (index : Nat) : List ResolverEvent := [.connect (portOf index) 7, .etw index]

def captures (count : Nat) : List ResolverEvent := (List.range count).flatMap captureOf

theorem toNat_portOf {index : Nat} (small : index < 65535) : (portOf index).toNat = index + 1 := by
  rw [portOf, UInt16.toNat_ofNat']
  exact Nat.mod_eq_of_lt (by omega)

theorem portOf_inj {index other : Nat} (small : index < 65535) (smallOther : other < 65535)
    (same : portOf index = portOf other) : index = other := by
  have values := congrArg UInt16.toNat same
  rw [toNat_portOf small, toNat_portOf smallOther] at values
  omega

theorem run_captureOf {count : Nat} (few : count < 65535)
    (listens : system.resolver.listenPort = 1080) (connected : system.connections = clients count) :
    Machine.run (step exeOf) system (captureOf count) = some
      { resolver := system.resolver.captureEtw system.now (portOf count) 1080 7
        connections := clients (count + 1)
        now := system.now } := by
  have free : ∀ connection ∈ system.connections, connection.port = portOf count →
      connection.isOpen = false := by
    intro connection member onPort
    rw [connected] at member
    obtain ⟨index, inRange, rfl⟩ := List.mem_map.mp member
    have before := List.mem_range.mp inRange
    exact absurd (portOf_inj (by omega) few onPort) (by omega)
  have more : clients count ++ [newConnection (portOf count) 7] = clients (count + 1) := by
    rw [clients, clients, List.range_succ, List.map_append]
    rfl
  have found : (clients (count + 1))[count]? = some (newConnection (portOf count) 7) := by
    simp [clients]
  have connects : step exeOf system (.connect (portOf count) 7) =
      some { system with connections := clients (count + 1) } := by
    rw [step, if_pos free, connected, more]
  have traced : step exeOf { system with connections := clients (count + 1) } (.etw count) = some
      { resolver := system.resolver.captureEtw system.now (portOf count) 1080 7
        connections := clients (count + 1)
        now := system.now } := by
    refine Option.bind_eq_some_iff.mpr ⟨_, found, ?_⟩
    rw [withResolver, listens]
    rfl
  rw [captureOf, Machine.run_cons_of_step connects, Machine.run_cons_of_step traced,
    Machine.run_nil]

/-- The cache after `count` captures at the start of time. -/
structure Captured (count : Nat) (system : ResolverSystem) : Prop where
  now : system.now = 0
  listens : system.resolver.listenPort = 1080
  connected : system.connections = clients count
  size : system.resolver.portToPid.size = count
  held : ∀ (port : UInt16) (entry : UInt32 × Nat), system.resolver.portToPid[port]? = some entry →
    entry.2 = 0 ∧ ∃ index < count, port = portOf index

theorem portToPid_captureEtw {resolver : ExeResolver} {now index : Nat}
    (listens : resolver.listenPort = 1080) (few : index < 65535) :
    (resolver.captureEtw now (portOf index) 1080 7).portToPid =
      resolver.portToPid.store now (portOf index) 7 := by
  have isPort : portOf index ≠ 0 := by
    intro zero
    have value := congrArg UInt16.toNat zero
    rw [toNat_portOf few] at value
    cases value
  rw [ExeResolver.captureEtw, if_neg (not_not.mpr listens.symm), if_neg isPort]

theorem listenPort_captureEtw {resolver : ExeResolver} {now : Nat} {sport dport : UInt16}
    {pid : UInt32} :
    (resolver.captureEtw now sport dport pid).listenPort = resolver.listenPort := by
  unfold ExeResolver.captureEtw
  split
  · rfl
  · split <;> rfl

theorem Captured.absent {count : Nat} (captured : Captured count system) (few : count < 65535) :
    system.resolver.portToPid[portOf count]? = none := by
  refine Option.eq_none_iff_forall_not_mem.mpr fun entry found => ?_
  obtain ⟨-, index, before, same⟩ := captured.held _ _ found
  exact absurd (portOf_inj few (by omega) same) (by omega)

theorem Captured.size_insert {count : Nat} (captured : Captured count system)
    (few : count < 65535) (entry : UInt32 × Nat) :
    (system.resolver.portToPid.insert (portOf count) entry).size = count + 1 := by
  rw [Std.TreeMap.size_insert, Std.TreeMap.contains_eq_isSome_getElem?, captured.absent few,
    captured.size]
  rfl

/-- One capture more, within the capacity. -/
theorem Captured.capture {count : Nat} (captured : Captured count system)
    (within : count + 1 ≤ exeCacheCapacity) (few : count < 65535) :
    Captured (count + 1)
      { resolver := system.resolver.captureEtw system.now (portOf count) 1080 7
        connections := clients (count + 1)
        now := system.now } := by
  have size := captured.size_insert few (7, system.now)
  have stored : (system.resolver.captureEtw system.now (portOf count) 1080 7).portToPid =
      system.resolver.portToPid.insert (portOf count) (7, system.now) := by
    rw [portToPid_captureEtw captured.listens few, PortCache.store, PortCache.evictStaleEntries,
      size, if_neg (Nat.not_lt.mpr within)]
  refine ⟨captured.now, listenPort_captureEtw.trans captured.listens, rfl, ?_, ?_⟩
  · exact (congrArg Std.TreeMap.size stored).trans size
  · intro port entry found
    change (system.resolver.captureEtw system.now (portOf count) 1080 7).portToPid[port]? =
      some entry at found
    rw [stored, Std.TreeMap.getElem?_insert] at found
    split at found
    next same =>
      cases found
      exact ⟨captured.now, count, Nat.lt_succ_self count,
        (Std.LawfulEqCmp.eq_of_compare same).symm⟩
    next =>
      obtain ⟨time, index, before, same⟩ := captured.held port entry found
      exact ⟨time, index, Nat.lt_succ_of_lt before, same⟩

theorem run_captures {count : Nat} (within : count ≤ exeCacheCapacity) :
    ∃ system, Machine.run (step exeOf) (start 1080) (captures count) = some system ∧
      Captured count system := by
  induction count with
  | zero =>
      refine ⟨start 1080, rfl, rfl, rfl, rfl, Std.TreeMap.size_emptyc, ?_⟩
      intro port entry found
      exact absurd found (by simp [start, ExeResolver.new])
  | succ count inductionHypothesis =>
      obtain ⟨system, reached, captured⟩ := inductionHypothesis (by omega)
      have few : count < 65535 := by
        have capacity : exeCacheCapacity = 1000 := rfl
        omega
      refine ⟨_, ?_, captured.capture within few⟩
      rw [captures, List.range_succ, List.flatMap_append, List.flatMap_singleton]
      exact Machine.run_append_eq_some.mpr
        ⟨system, reached, run_captureOf few captured.listens captured.connected⟩

/-- 30 seconds after a thousand captures one more empties the cache of them. -/
def overflow : List ResolverEvent :=
  captures exeCacheCapacity ++ (.tick exeCacheTtl :: captureOf exeCacheCapacity)

theorem run_overflow : ∃ system, Machine.run (step exeOf) (start 1080) overflow = some system ∧
    system.resolver.portToPid.get (portOf 0) = none ∧
    system.resolver.portToPid.get (portOf exeCacheCapacity) = some 7 := by
  have few : exeCacheCapacity < 65535 := by decide
  obtain ⟨system, reached, captured⟩ : ∃ system, Machine.run (step exeOf) (start 1080)
      (captures exeCacheCapacity) = some system ∧ Captured exeCacheCapacity system :=
    run_captures (Nat.le_refl _)
  let ticked : ResolverSystem := { system with now := system.now + exeCacheTtl }
  have last : Machine.run (step exeOf) ticked (captureOf exeCacheCapacity) = some _ :=
    run_captureOf few captured.listens captured.connected
  refine ⟨_, Machine.run_append_eq_some.mpr ⟨system, reached, last⟩, ?_⟩
  have pids : (ticked.resolver.captureEtw ticked.now (portOf exeCacheCapacity) 1080 7).portToPid =
      ticked.resolver.portToPid.store ticked.now (portOf exeCacheCapacity) 7 :=
    portToPid_captureEtw captured.listens few
  have size := captured.size_insert few (7, ticked.now)
  have held : ∀ port : UInt16,
      (ticked.resolver.captureEtw ticked.now (portOf exeCacheCapacity) 1080 7).portToPid[port]? =
        ((system.resolver.portToPid.insert (portOf exeCacheCapacity) (7, ticked.now))[port]?).filter
          fun entry => ticked.now - entry.2 < exeCacheTtl := by
    intro port
    rw [pids, PortCache.store, PortCache.evictStaleEntries, size, if_pos (Nat.lt_succ_self _),
      Std.TreeMap.getElem?_filter']
  constructor
  · refine Option.eq_none_iff_forall_not_mem.mpr fun pid found => ?_
    obtain ⟨time, found⟩ := PortCache.get_eq_some.mp found
    have found := (held (portOf 0)).symm.trans found
    rw [Option.filter_eq_some_iff, Std.TreeMap.getElem?_insert] at found
    obtain ⟨inserted, young⟩ := found
    split at inserted
    next same =>
      have samePort : portOf exeCacheCapacity = portOf 0 := Std.LawfulEqCmp.eq_of_compare same
      exact absurd (portOf_inj few (by decide) samePort) (by decide)
    next =>
      have old : time = 0 := (captured.held _ _ inserted).1
      have recent : ticked.now - time < exeCacheTtl := of_decide_eq_true young
      have now : ticked.now = 0 + exeCacheTtl := congrArg (· + exeCacheTtl) captured.now
      omega
  · refine PortCache.get_eq_some.mpr ⟨ticked.now, (held _).trans ?_⟩
    rw [Std.TreeMap.getElem?_insert_self]
    simp [exeCacheTtl]

theorem caches_bounded_captured :
    ∃ system, Machine.run (step fun _ => []) (start 1080) overflow = some system ∧
      system.resolver.portToPid.get (portOf 0) = none ∧
      system.resolver.portToPid.get (portOf exeCacheCapacity) = some 7 ∧
      system.resolver.portToPid.Bounded ∧ system.resolver.portToExe.Bounded := by
  obtain ⟨system, reached, evicted, kept⟩ := run_overflow
  exact ⟨system, reached, evicted, kept, caches_bounded reached⟩

end ResolverSystem

end SimpleForwarder

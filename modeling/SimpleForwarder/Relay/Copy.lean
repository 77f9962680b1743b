import SimpleForwarder.Sockets

/-!
Contract: one direction of the relay (`relay_data`, `client_to_target` and
`target_to_client`).

Owns: the copy loop as a machine whose steps are the answers of the socket and
of the timers, its texts for the two directions, and the flow law: what was
taken in is what was written, what is about to be written, and nothing else.

The two loops of the source differ in their texts and in the side they read,
so one machine serves both. A loop is always in one phase; `since` is the time
at which the timeout around the pending operation was armed. The timers poll
the operation first: an idle timeout needs an empty socket.

Does not own: the select loop over the two directions.
-/

namespace SimpleForwarder

open RustText

def idleTimeout : Nat := 300000

def writeTimeout : Nat := 30000

def relayBufSize : Nat := 8192

/-- The receiving side of a socket: bytes that arrived and were not read, and
whether the peer has closed its sending direction. `arrived` and `lastArrival`
record the history of the socket. -/
structure Inbound where
  queue : Bytes
  fin : Bool
  arrived : Bytes
  lastArrival : Option Nat
deriving DecidableEq

inductive CopyPhase where
  | writing (pending : Bytes) (size : Nat) (isLeftover : Bool) (since : Nat)
  | countingStats (size : Nat)
  | countingBytes (size : Nat)
  | reading (since : Nat)
  | shuttingDown (since : Nat)
  | finished (result : Except Text Unit)
deriving DecidableEq

/-- A copy loop: its phase, the bytes it has written, and what it has added to
the traffic statistics and to the connection's own counter. -/
structure Copy where
  phase : CopyPhase
  written : Bytes
  statsCount : Nat
  bytesCount : Nat
deriving DecidableEq

structure CopyTexts where
  leftoverTimeout : Text
  writeTimedOut : Text
  idle : Text

/-- The texts of the loop that reads from `source`. -/
def copyTexts : (source : Peer) → CopyTexts
  | .client =>
      { leftoverTimeout := "Target leftover write timeout (30s)".toList
        writeTimedOut := "Target write timeout (30s)".toList
        idle := "Client connection idle timeout".toList }
  | .target =>
      { leftoverTimeout := "Client target-leftover write timeout (30s)".toList
        writeTimedOut := "Client write timeout (30s)".toList
        idle := "Target connection idle timeout".toList }

/-- What the pending operation of a loop is answered with. -/
inductive CopyEvent where
  | wrote (count : Nat)
  | writeFailed (count : Nat) (error : Text)
  | writeTimedOut
  | countStats
  | countBytes
  | readChunk (count : Nat)
  | readEof
  | readFailed (error : Text)
  | idle
  | shutdownDone
deriving DecidableEq

/-- The loop before its first poll: the leftover is written first. -/
def Copy.start (leftover : Bytes) (now : Nat) : Copy where
  phase := if leftover = [] then .reading now else .writing leftover leftover.length true now
  written := []
  statsCount := 0
  bytesCount := 0

/-- Bytes of the pending write have left. -/
def Copy.wrote (copy : Copy) (pending : Bytes) (count : Nat) (next : CopyPhase) : Copy :=
  { copy with written := copy.written ++ pending.take count, phase := next }

/-- One step of a loop; `none` is an answer its pending operation cannot have. -/
def copyStep (texts : CopyTexts) (now : Nat) (inbound : Inbound) (copy : Copy) :
    CopyEvent → Option (Inbound × Copy)
  | .wrote count =>
      match copy.phase with
      | .writing pending size isLeftover since =>
          if 1 ≤ count ∧ count < pending.length then
            some (inbound,
              copy.wrote pending count (.writing (pending.drop count) size isLeftover since))
          else if count = pending.length then
            some (inbound, copy.wrote pending count (.countingStats size))
          else none
      | _ => none
  | .writeFailed count error =>
      match copy.phase with
      | .writing pending _ _ _ =>
          if count < pending.length then
            some (inbound, copy.wrote pending count (.finished (.error error)))
          else none
      | _ => none
  | .writeTimedOut =>
      match copy.phase with
      | .writing _ _ isLeftover since =>
          if since + writeTimeout ≤ now then
            let error := if isLeftover then texts.leftoverTimeout else texts.writeTimedOut
            some (inbound, { copy with phase := .finished (.error error) })
          else none
      | _ => none
  | .countStats =>
      match copy.phase with
      | .countingStats size =>
          some (inbound,
            { copy with phase := .countingBytes size, statsCount := copy.statsCount + size })
      | _ => none
  | .countBytes =>
      match copy.phase with
      | .countingBytes size =>
          some (inbound,
            { copy with phase := .reading now, bytesCount := copy.bytesCount + size })
      | _ => none
  | .readChunk count =>
      match copy.phase with
      | .reading _ =>
          if 1 ≤ count ∧ count ≤ relayBufSize ∧ count ≤ inbound.queue.length then
            some ({ inbound with queue := inbound.queue.drop count },
              { copy with phase := .writing (inbound.queue.take count) count false now })
          else none
      | _ => none
  | .readEof =>
      match copy.phase with
      | .reading _ =>
          if inbound.queue = [] ∧ inbound.fin = true then
            some (inbound, { copy with phase := .shuttingDown now })
          else none
      | _ => none
  | .readFailed error =>
      match copy.phase with
      | .reading _ => some (inbound, { copy with phase := .finished (.error error) })
      | _ => none
  | .idle =>
      match copy.phase with
      | .reading since =>
          if inbound.queue = [] ∧ inbound.fin = false ∧ since + idleTimeout ≤ now then
            some (inbound, { copy with phase := .finished (.error texts.idle) })
          else none
      | _ => none
  | .shutdownDone =>
      match copy.phase with
      | .shuttingDown _ => some (inbound, { copy with phase := .finished (.ok ()) })
      | _ => none

/-- Bytes reach the socket. -/
def Inbound.arrive (inbound : Inbound) (now : Nat) (bytes : Bytes) : Option Inbound :=
  if bytes ≠ [] ∧ inbound.fin = false then
    some {
      queue := inbound.queue ++ bytes
      fin := false
      arrived := inbound.arrived ++ bytes
      lastArrival := some now
    }
  else none

/-- The peer closes its sending direction. -/
def Inbound.close (inbound : Inbound) : Option Inbound :=
  if inbound.fin = false then some { inbound with fin := true } else none

def Inbound.empty : Inbound where
  queue := []
  fin := false
  arrived := []
  lastArrival := none

/-! ## What a step can do -/

/-- The steps of a loop, each with its guard. -/
inductive CopyMove (texts : CopyTexts) (now : Nat) (inbound : Inbound) (copy : Copy) :
    CopyEvent → Inbound → Copy → Prop where
  | wrotePart {pending : Bytes} {size since count : Nat} {isLeftover : Bool}
      (phase : copy.phase = .writing pending size isLeftover since)
      (inside : 1 ≤ count ∧ count < pending.length) :
      CopyMove texts now inbound copy (.wrote count) inbound
        (copy.wrote pending count (.writing (pending.drop count) size isLeftover since))
  | wroteAll {pending : Bytes} {size since : Nat} {isLeftover : Bool}
      (phase : copy.phase = .writing pending size isLeftover since) :
      CopyMove texts now inbound copy (.wrote pending.length) inbound
        (copy.wrote pending pending.length (.countingStats size))
  | writeFailed {pending : Bytes} {size since count : Nat} {isLeftover : Bool} (error : Text)
      (phase : copy.phase = .writing pending size isLeftover since)
      (inside : count < pending.length) :
      CopyMove texts now inbound copy (.writeFailed count error) inbound
        (copy.wrote pending count (.finished (.error error)))
  | writeTimedOut {pending : Bytes} {size since : Nat} {isLeftover : Bool}
      (phase : copy.phase = .writing pending size isLeftover since)
      (due : since + writeTimeout ≤ now) :
      CopyMove texts now inbound copy .writeTimedOut inbound
        { copy with phase := .finished (.error
            (if isLeftover then texts.leftoverTimeout else texts.writeTimedOut)) }
  | countStats {size : Nat} (phase : copy.phase = .countingStats size) :
      CopyMove texts now inbound copy .countStats inbound
        { copy with phase := .countingBytes size, statsCount := copy.statsCount + size }
  | countBytes {size : Nat} (phase : copy.phase = .countingBytes size) :
      CopyMove texts now inbound copy .countBytes inbound
        { copy with phase := .reading now, bytesCount := copy.bytesCount + size }
  | readChunk {since count : Nat} (phase : copy.phase = .reading since)
      (inside : 1 ≤ count ∧ count ≤ relayBufSize ∧ count ≤ inbound.queue.length) :
      CopyMove texts now inbound copy (.readChunk count)
        { inbound with queue := inbound.queue.drop count }
        { copy with phase := .writing (inbound.queue.take count) count false now }
  | readEof {since : Nat} (phase : copy.phase = .reading since)
      (ended : inbound.queue = [] ∧ inbound.fin = true) :
      CopyMove texts now inbound copy .readEof inbound { copy with phase := .shuttingDown now }
  | readFailed {since : Nat} (error : Text) (phase : copy.phase = .reading since) :
      CopyMove texts now inbound copy (.readFailed error) inbound
        { copy with phase := .finished (.error error) }
  | idle {since : Nat} (phase : copy.phase = .reading since)
      (silent : inbound.queue = [] ∧ inbound.fin = false ∧ since + idleTimeout ≤ now) :
      CopyMove texts now inbound copy .idle inbound
        { copy with phase := .finished (.error texts.idle) }
  | shutdownDone {since : Nat} (phase : copy.phase = .shuttingDown since) :
      CopyMove texts now inbound copy .shutdownDone inbound
        { copy with phase := .finished (.ok ()) }

theorem copyStep_move {texts : CopyTexts} {now : Nat} {inbound inbound' : Inbound}
    {copy copy' : Copy} {event : CopyEvent}
    (stepped : copyStep texts now inbound copy event = some (inbound', copy')) :
    CopyMove texts now inbound copy event inbound' copy' := by
  unfold copyStep at stepped
  cases event with
  | wrote count =>
      dsimp only at stepped
      split at stepped
      · next phase =>
          split at stepped
          · next inside =>
              cases stepped
              exact .wrotePart phase inside
          · split at stepped
            · next whole =>
                cases stepped
                rw [whole]
                exact .wroteAll phase
            · exact absurd stepped nofun
      · exact absurd stepped nofun
  | writeFailed count error =>
      dsimp only at stepped
      split at stepped
      · next phase =>
          split at stepped
          · next inside =>
              cases stepped
              exact .writeFailed error phase inside
          · exact absurd stepped nofun
      · exact absurd stepped nofun
  | writeTimedOut =>
      dsimp only at stepped
      split at stepped
      · next phase =>
          split at stepped
          · next due =>
              cases stepped
              exact .writeTimedOut phase due
          · exact absurd stepped nofun
      · exact absurd stepped nofun
  | countStats =>
      dsimp only at stepped
      split at stepped
      · next phase =>
          cases stepped
          exact .countStats phase
      · exact absurd stepped nofun
  | countBytes =>
      dsimp only at stepped
      split at stepped
      · next phase =>
          cases stepped
          exact .countBytes phase
      · exact absurd stepped nofun
  | readChunk count =>
      dsimp only at stepped
      split at stepped
      · next phase =>
          split at stepped
          · next inside =>
              cases stepped
              exact .readChunk phase inside
          · exact absurd stepped nofun
      · exact absurd stepped nofun
  | readEof =>
      dsimp only at stepped
      split at stepped
      · next phase =>
          split at stepped
          · next ended =>
              cases stepped
              exact .readEof phase ended
          · exact absurd stepped nofun
      · exact absurd stepped nofun
  | readFailed error =>
      dsimp only at stepped
      split at stepped
      · next phase =>
          cases stepped
          exact .readFailed error phase
      · exact absurd stepped nofun
  | idle =>
      dsimp only at stepped
      split at stepped
      · next phase =>
          split at stepped
          · next silent =>
              cases stepped
              exact .idle phase silent
          · exact absurd stepped nofun
      · exact absurd stepped nofun
  | shutdownDone =>
      dsimp only at stepped
      split at stepped
      · next phase =>
          cases stepped
          exact .shutdownDone phase
      · exact absurd stepped nofun

/-! ## The flow law -/

/-- The bytes a phase still has to write, as far as it can; an error leaves
them behind. -/
def CopyPhase.Holds (inbound : Inbound) (unwritten : Bytes) : CopyPhase → Prop
  | .writing pending _ _ _ => unwritten = pending
  | .countingStats _ => unwritten = []
  | .countingBytes _ => unwritten = []
  | .reading _ => unwritten = []
  | .shuttingDown _ => unwritten = [] ∧ inbound.queue = [] ∧ inbound.fin = true
  | .finished (.ok ()) => unwritten = [] ∧ inbound.queue = [] ∧ inbound.fin = true
  | .finished (.error _) => True

/-- Everything taken in is written, in the loop, or still in the socket, in
this order. -/
def Flows (leftover : Bytes) (inbound : Inbound) (copy : Copy) : Prop :=
  ∃ unwritten, leftover ++ inbound.arrived = copy.written ++ unwritten ++ inbound.queue ∧
    copy.phase.Holds inbound unwritten

variable {leftover : Bytes} {texts : CopyTexts} {now : Nat} {inbound inbound' : Inbound}
  {copy copy' : Copy}

theorem Flows.start (leftover : Bytes) (now : Nat) :
    Flows leftover .empty (.start leftover now) := by
  refine ⟨leftover, rfl, ?_⟩
  unfold Copy.start
  dsimp only
  split
  · next nothing => exact nothing
  · exact rfl

theorem Flows.written_prefix (flows : Flows leftover inbound copy) :
    copy.written <+: leftover ++ inbound.arrived := by
  obtain ⟨unwritten, bytes, -⟩ := flows
  rw [bytes, List.append_assoc]
  exact List.prefix_append _ _

/-- A loop that has reached the end of file has written everything. -/
theorem Flows.written_eq (flows : Flows leftover inbound copy)
    (ended : copy.phase = .finished (.ok ())) :
    copy.written = leftover ++ inbound.arrived ∧ inbound.fin = true := by
  obtain ⟨unwritten, bytes, holds⟩ := flows
  rw [ended] at holds
  obtain ⟨rfl, nothing, fin⟩ := holds
  refine ⟨?_, fin⟩
  rw [bytes, nothing, List.append_nil, List.append_nil]

theorem Flows.arrive {bytes : Bytes} (flows : Flows leftover inbound copy)
    (arrived : inbound.arrive now bytes = some inbound') : Flows leftover inbound' copy := by
  obtain ⟨unwritten, taken, holds⟩ := flows
  unfold Inbound.arrive at arrived
  split at arrived
  · next open' =>
      cases arrived
      refine ⟨unwritten, ?_, ?_⟩
      · dsimp only
        rw [← List.append_assoc, taken, List.append_assoc]
      · revert holds
        unfold CopyPhase.Holds
        split
        · exact id
        · exact id
        · exact id
        · exact id
        · rintro ⟨-, -, fin⟩
          exact absurd (open'.2.symm.trans fin) nofun
        · rintro ⟨-, -, fin⟩
          exact absurd (open'.2.symm.trans fin) nofun
        · exact id
  · exact absurd arrived nofun

theorem Flows.close (flows : Flows leftover inbound copy)
    (closed : inbound.close = some inbound') : Flows leftover inbound' copy := by
  obtain ⟨unwritten, taken, holds⟩ := flows
  unfold Inbound.close at closed
  split at closed
  · next open' =>
      cases closed
      refine ⟨unwritten, taken, ?_⟩
      revert holds
      unfold CopyPhase.Holds
      split
      · exact id
      · exact id
      · exact id
      · exact id
      · rintro ⟨-, -, fin⟩
        exact absurd (open'.symm.trans fin) nofun
      · rintro ⟨-, -, fin⟩
        exact absurd (open'.symm.trans fin) nofun
      · exact id
  · exact absurd closed nofun

theorem Flows.step {event : CopyEvent} (flows : Flows leftover inbound copy)
    (stepped : copyStep texts now inbound copy event = some (inbound', copy')) :
    Flows leftover inbound' copy' := by
  obtain ⟨unwritten, bytes, holds⟩ := flows
  cases copyStep_move stepped with
  | @wrotePart pending size since count isLeftover phase inside =>
      rw [phase] at holds
      cases holds
      refine ⟨unwritten.drop count, ?_, rfl⟩
      dsimp only [Copy.wrote]
      rw [bytes, List.append_assoc copy.written (List.take count unwritten),
        List.take_append_drop]
  | @wroteAll pending size since isLeftover phase =>
      rw [phase] at holds
      cases holds
      refine ⟨[], ?_, rfl⟩
      dsimp only [Copy.wrote]
      rw [bytes, List.take_length, List.append_nil]
  | @writeFailed pending size since count isLeftover error phase inside =>
      rw [phase] at holds
      cases holds
      refine ⟨unwritten.drop count, ?_, trivial⟩
      dsimp only [Copy.wrote]
      rw [bytes, List.append_assoc copy.written (List.take count unwritten),
        List.take_append_drop]
  | writeTimedOut phase due => exact ⟨unwritten, bytes, trivial⟩
  | countStats phase =>
      rw [phase] at holds
      exact ⟨unwritten, bytes, holds⟩
  | countBytes phase =>
      rw [phase] at holds
      exact ⟨unwritten, bytes, holds⟩
  | @readChunk since count phase inside =>
      rw [phase] at holds
      cases holds
      refine ⟨inbound.queue.take count, ?_, rfl⟩
      dsimp only
      rw [bytes, List.append_nil, List.append_assoc, List.take_append_drop]
  | readEof phase ended =>
      rw [phase] at holds
      exact ⟨unwritten, bytes, holds, ended⟩
  | readFailed error phase => exact ⟨unwritten, bytes, trivial⟩
  | idle phase silent => exact ⟨unwritten, bytes, trivial⟩
  | shutdownDone phase =>
      rw [phase] at holds
      exact ⟨unwritten, bytes, holds⟩

end SimpleForwarder

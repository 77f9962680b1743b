import SimpleForwarder.ExeResolver.System

/-!
Contract: the scan of the socket table for the client of a port
(`netstat_fallback::lookup_port_to_pid` in `etw_resolver.rs`).

Owns: the rows as `netstat2` returns them, the loop over them, its agreement
with the scan the resolver's lookups are modelled with, and exactly when the
loop finds the client's process: an unusable row of the port pair hides every
usable row behind it (`lookupPortToPid_finds_iff`).

Does not own: what the operating system puts into the table, and the caches the
answer is stored in.
-/

namespace SimpleForwarder

namespace NetstatFallback

/-- The protocol part of a row. -/
inductive ProtocolSocketInfo where
  | tcp (localPort remotePort : UInt16)
  | udp (localPort : UInt16)
deriving DecidableEq

structure SocketInfo where
  protocolSocketInfo : ProtocolSocketInfo
  associatedPids : List UInt32
deriving DecidableEq

/-- The row is that of the client's end of a connection. -/
def SocketInfo.IsFor (listenPort remotePort : UInt16) (si : SocketInfo) : Prop :=
  si.protocolSocketInfo = .tcp remotePort listenPort

instance (listenPort remotePort : UInt16) (si : SocketInfo) :
    Decidable (si.IsFor listenPort remotePort) := by
  unfold SocketInfo.IsFor
  infer_instance

/-- The loop of `lookup_port_to_pid`. Each of its three exits leaves the whole
function. -/
def scan (listenPort remotePort : UInt16) : List SocketInfo → Option UInt32
  | [] => none
  | si :: sockets =>
      match si.protocolSocketInfo with
      | .tcp tcpLocalPort tcpRemotePort =>
          if tcpRemotePort = listenPort ∧ tcpLocalPort = remotePort then
            match si.associatedPids.head? with
            | none => none
            | some pid =>
                -- "System / idle — skip"
                if pid = 0 ∨ pid = 4 then none else some pid
          else scan listenPort remotePort sockets
      | .udp _ => scan listenPort remotePort sockets

/-- `lookup_port_to_pid`; `none` is a table that could not be read. -/
def lookupPortToPid (listenPort remotePort : UInt16) (sockets : Option (List SocketInfo)) :
    Option UInt32 := do
  scan listenPort remotePort (← sockets)

/-! ## The scan of the TCP rows -/

/-- The row as a row of the TCP table. -/
def SocketInfo.tcpRow (si : SocketInfo) : Option TcpSocketInfo :=
  match si.protocolSocketInfo with
  | .tcp localPort remotePort => some ⟨localPort, remotePort, si.associatedPids⟩
  | .udp _ => none

/-- The lookups of the resolver scan the TCP rows of the table. -/
theorem lookupPortToPid_eq (listenPort remotePort : UInt16) (sockets : Option (List SocketInfo)) :
    lookupPortToPid listenPort remotePort sockets =
      SimpleForwarder.lookupPortToPid listenPort remotePort
        (sockets.map (List.filterMap SocketInfo.tcpRow)) := by
  cases sockets with
  | none => rfl
  | some sockets =>
      show scan listenPort remotePort sockets = _
      induction sockets with
      | nil => rfl
      | cons si sockets inductionHypothesis =>
          obtain ⟨protocol, pids⟩ := si
          cases protocol with
          | udp localPort => exact inductionHypothesis
          | tcp localPort remote =>
              unfold scan
              dsimp only
              by_cases ports : remote = listenPort ∧ localPort = remotePort
              · rw [if_pos ports]
                cases pids with
                | nil => simp [SimpleForwarder.lookupPortToPid, SocketInfo.tcpRow, ports]
                | cons pid pids =>
                    simp [SimpleForwarder.lookupPortToPid, SocketInfo.tcpRow, ports]
              · rw [if_neg ports, inductionHypothesis]
                simp [SimpleForwarder.lookupPortToPid, SocketInfo.tcpRow, ports]

/-! ## What the scan is for -/

/-- The first pid of the row, unless it is that of the idle or the system
process. -/
def SocketInfo.usablePid (si : SocketInfo) : Option UInt32 :=
  si.associatedPids.head?.filter fun pid => pid ≠ 0 ∧ pid ≠ 4

/-- The row is that of the client, and it names a process. -/
def SocketInfo.Usable (listenPort remotePort : UInt16) (si : SocketInfo) : Prop :=
  si.IsFor listenPort remotePort ∧ ∃ pid, si.usablePid = some pid

/-- The answer is the pid of a usable row, and there is one whenever such a row
is in the table. -/
structure FindsClient (listenPort remotePort : UInt16) (sockets : List SocketInfo)
    (answer : Option UInt32) : Prop where
  isSome_iff : (∃ pid, answer = some pid) ↔ ∃ si ∈ sockets, si.Usable listenPort remotePort
  owner : ∀ pid, answer = some pid →
    ∃ si ∈ sockets, si.IsFor listenPort remotePort ∧ si.associatedPids.head? = some pid ∧
      pid ≠ 0 ∧ pid ≠ 4

/-- The first row of the port pair is usable whenever a usable row stands behind
it. -/
def NoneHidden (listenPort remotePort : UInt16) (sockets : List SocketInfo) : Prop :=
  ∀ before si behind, sockets = before ++ si :: behind →
    (∀ earlier ∈ before, ¬ earlier.IsFor listenPort remotePort) →
    si.IsFor listenPort remotePort →
    (∃ later ∈ behind, later.Usable listenPort remotePort) →
    si.Usable listenPort remotePort

/-! ## The first row of the port pair decides -/

section

variable {listenPort remotePort : UInt16}

theorem SocketInfo.usablePid_eq_some_iff {si : SocketInfo} {pid : UInt32} :
    si.usablePid = some pid ↔ si.associatedPids.head? = some pid ∧ pid ≠ 0 ∧ pid ≠ 4 := by
  unfold SocketInfo.usablePid
  rw [Option.filter_eq_some_iff]
  simp

theorem scan_cons_of_isFor {si : SocketInfo} (isFor : si.IsFor listenPort remotePort)
    (behind : List SocketInfo) : scan listenPort remotePort (si :: behind) = si.usablePid := by
  unfold scan
  rw [show si.protocolSocketInfo = .tcp remotePort listenPort from isFor]
  dsimp only
  rw [if_pos ⟨rfl, rfl⟩]
  unfold SocketInfo.usablePid
  cases si.associatedPids.head? with
  | none => rfl
  | some pid =>
      by_cases system : pid = 0 ∨ pid = 4
      · rcases system with rfl | rfl <;> simp [Option.filter_some]
      · have user : pid ≠ 0 ∧ pid ≠ 4 := not_or.mp system
        simp [Option.filter_some, user.1, user.2]

theorem scan_cons_of_not_isFor {si : SocketInfo} (other : ¬ si.IsFor listenPort remotePort)
    (behind : List SocketInfo) :
    scan listenPort remotePort (si :: behind) = scan listenPort remotePort behind := by
  obtain ⟨protocol, pids⟩ := si
  cases protocol with
  | udp localPort => rfl
  | tcp localPort remote =>
      rw [scan]
      dsimp only
      apply if_neg
      intro ports
      apply other
      rw [SocketInfo.IsFor, ports.1, ports.2]

/-- Rows of other sockets do not change the answer. -/
theorem scan_append_of_not_isFor {before : List SocketInfo}
    (others : ∀ earlier ∈ before, ¬ earlier.IsFor listenPort remotePort)
    (behind : List SocketInfo) :
    scan listenPort remotePort (before ++ behind) = scan listenPort remotePort behind := by
  induction before with
  | nil => rfl
  | cons si before inductionHypothesis =>
      rw [List.cons_append, scan_cons_of_not_isFor (others si List.mem_cons_self)]
      exact inductionHypothesis fun earlier member =>
        others earlier (List.mem_cons_of_mem _ member)

/-- A table without a row of the port pair, or split at the first one. -/
theorem first_isFor (listenPort remotePort : UInt16) (sockets : List SocketInfo) :
    (∀ si ∈ sockets, ¬ si.IsFor listenPort remotePort) ∨
      ∃ before si behind, sockets = before ++ si :: behind ∧
        (∀ earlier ∈ before, ¬ earlier.IsFor listenPort remotePort) ∧
        si.IsFor listenPort remotePort := by
  cases found : sockets.find? fun si => si.IsFor listenPort remotePort with
  | none =>
      left
      intro si member
      simpa using List.find?_eq_none.mp found si member
  | some si =>
      right
      obtain ⟨isFor, before, behind, split, others⟩ := List.find?_eq_some_iff_append.mp found
      refine ⟨before, si, behind, split, fun earlier member => ?_, by simpa using isFor⟩
      simpa using others earlier member

theorem FindsClient.of_usable {sockets : List SocketInfo} {si : SocketInfo} {pid : UInt32}
    (member : si ∈ sockets) (isFor : si.IsFor listenPort remotePort)
    (named : si.usablePid = some pid) : FindsClient listenPort remotePort sockets (some pid) where
  isSome_iff := by
    constructor
    · intro _
      exact ⟨si, member, isFor, pid, named⟩
    · intro _
      exact ⟨pid, rfl⟩
  owner := by
    intro answer same
    rw [← Option.some.inj same]
    exact ⟨si, member, isFor, SocketInfo.usablePid_eq_some_iff.mp named⟩

theorem FindsClient.of_none {sockets : List SocketInfo}
    (noneUsable : ∀ si ∈ sockets, ¬ si.Usable listenPort remotePort) :
    FindsClient listenPort remotePort sockets none where
  isSome_iff := by
    constructor
    · intro answered
      obtain ⟨pid, answered⟩ := answered
      exact absurd answered nofun
    · intro usable
      obtain ⟨si, member, isUsable⟩ := usable
      exact absurd isUsable (noneUsable si member)
  owner := by
    intro pid answered
    exact absurd answered nofun

end

/-- The scan finds the client's process exactly when no unusable row of the
port pair stands before all the usable ones. -/
theorem lookupPortToPid_finds_iff (listenPort remotePort : UInt16) (sockets : List SocketInfo) :
    FindsClient listenPort remotePort sockets
        (lookupPortToPid listenPort remotePort (some sockets)) ↔
      NoneHidden listenPort remotePort sockets := by
  show FindsClient listenPort remotePort sockets (scan listenPort remotePort sockets) ↔ _
  constructor
  · intro finds before si behind split others isFor usableBehind
    obtain ⟨later, member, usable⟩ := usableBehind
    have inTable : later ∈ sockets := by
      rw [split]
      exact List.mem_append_right _ (List.mem_cons_of_mem _ member)
    obtain ⟨pid, answered⟩ := finds.isSome_iff.mpr ⟨later, inTable, usable⟩
    rw [split, scan_append_of_not_isFor others, scan_cons_of_isFor isFor] at answered
    exact ⟨isFor, pid, answered⟩
  · intro noneHidden
    rcases first_isFor listenPort remotePort sockets with others | first
    · have missed : scan listenPort remotePort sockets = none := by
        rw [← List.append_nil sockets, scan_append_of_not_isFor others]
        rfl
      rw [missed]
      exact FindsClient.of_none fun si member usable => others si member usable.1
    · obtain ⟨before, si, behind, split, others, isFor⟩ := first
      have answer : scan listenPort remotePort sockets = si.usablePid := by
        rw [split, scan_append_of_not_isFor others, scan_cons_of_isFor isFor]
      have inTable : si ∈ sockets := by
        rw [split]
        exact List.mem_append_right _ List.mem_cons_self
      rw [answer]
      cases named : si.usablePid with
      | some pid => exact FindsClient.of_usable inTable isFor named
      | none =>
          apply FindsClient.of_none
          intro other member usable
          rw [split] at member
          rcases List.mem_append.mp member with early | late
          · exact others other early usable.1
          · rcases List.mem_cons.mp late with same | inBehind
            · obtain ⟨pid, otherPid⟩ := usable.2
              rw [same, named] at otherPid
              exact absurd otherPid nofun
            · -- A usable row behind one that names no process is hidden.
              obtain ⟨pid, firstPid⟩ :=
                (noneHidden before si behind split others isFor ⟨other, inBehind, usable⟩).2
              rw [named] at firstPid
              exact absurd firstPid nofun

/-- A lingering socket of the same ports, which belongs to no process, hides the
client's row; in the other order the client is found. -/
theorem lookupPortToPid_hides_client :
    ¬ FindsClient 1080 50000 [⟨.tcp 50000 1080, []⟩, ⟨.tcp 50000 1080, [1234]⟩]
        (lookupPortToPid 1080 50000
          (some [⟨.tcp 50000 1080, []⟩, ⟨.tcp 50000 1080, [1234]⟩])) ∧
      lookupPortToPid 1080 50000
          (some [⟨.tcp 50000 1080, [1234]⟩, ⟨.tcp 50000 1080, []⟩]) = some 1234 := by
  constructor
  · intro finds
    have usable : SocketInfo.Usable 1080 50000 ⟨.tcp 50000 1080, [1234]⟩ :=
      ⟨rfl, 1234, by decide⟩
    obtain ⟨pid, answered⟩ := finds.isSome_iff.mpr ⟨_, by simp, usable⟩
    exact absurd answered nofun
  · decide

end NetstatFallback

end SimpleForwarder

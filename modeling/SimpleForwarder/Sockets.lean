import SimpleForwarder.Lib.IpAddr
import SimpleForwarder.Lib.Postcondition

/-!
Contract: the socket operations of one connection and what they transfer.

Owns: the operations the asynchronous functions of the program wait for, the
results they can have, the programs `readExact`, `read` and `writeAll` that
fail as `?` does, and the projections of a run to the bytes received from and
sent to each side, to the writes that were begun, and to the outbound
connection attempts.

A read returns what the side sent next, cut anywhere; an end of file is the
empty read. A write that fails or is abandoned has sent some part of its
bytes. Host names are resolved inside `connectProxy` and `connectDirect` as
`TcpStream::connect` does it.

Does not own: which operations a protocol performs.
-/

namespace SimpleForwarder

open RustText IpText EffectProgram

/-- The two sides of a connection: the accepted client and the established
target or upstream proxy. -/
inductive Peer where
  | client
  | target
deriving DecidableEq

inductive ErrorKind where
  | connectionRefused
  | other
deriving DecidableEq

/-- A `std::io::Error`: its kind and its text. -/
structure IoError where
  kind : ErrorKind
  text : Text
deriving DecidableEq

structure WriteError where
  error : IoError
  written : Nat
deriving DecidableEq

/-- The bytes one `read` returns. -/
structure Chunk (limit : Nat) where
  bytes : Bytes
  bounded : bytes.length ≤ limit
deriving DecidableEq

structure SocketAddr where
  ip : IpAddr
  port : UInt16
deriving DecidableEq

inductive Op where
  | readExact (peer : Peer) (size : Nat)
  | read (peer : Peer) (limit : Nat)
  | writeAll (peer : Peer) (bytes : Bytes)
  | connectProxy (addr : Text)
  | connectDirect (host : Text) (port : UInt16)
  | lookupHost (query : Text)
deriving DecidableEq

@[reducible] def Resp : Op → Type
  | .readExact _ size => Except IoError (Vector UInt8 size)
  | .read _ limit => Except IoError (Chunk limit)
  | .writeAll _ _ => Except WriteError Unit
  | .connectProxy _ => Except IoError Unit
  | .connectDirect _ _ => Except IoError Unit
  | .lookupHost _ => Except IoError (List SocketAddr)

/-- An `async fn` whose error is known by its text. -/
abbrev Async (α : Type) := Program Op Resp Text α

abbrev SocketEvent := Event Op Resp

def readExact (peer : Peer) (size : Nat) : Async (Vector UInt8 size) :=
  Program.performOr (.readExact peer size) (Except.mapError IoError.text)

def read (peer : Peer) (limit : Nat) : Async (Chunk limit) :=
  Program.performOr (.read peer limit) (Except.mapError IoError.text)

def writeAll (peer : Peer) (bytes : Bytes) : Async Unit :=
  Program.performOr (.writeAll peer bytes) (Except.mapError fun failure => failure.error.text)

/-! ## What a run transfers -/

/-- An outbound connection attempt. -/
inductive Outbound where
  | proxy (addr : Text)
  | direct (host : Text) (port : UInt16)
deriving DecidableEq

def receivedBy (peer : Peer) : SocketEvent → Bytes
  | ⟨.readExact source _, _, .ready (.ok block)⟩ => if source = peer then block.toList else []
  | ⟨.read source _, _, .ready (.ok chunk)⟩ => if source = peer then chunk.bytes else []
  | _ => []

def sentBy (peer : Peer) : SocketEvent → Bytes
  | ⟨.writeAll sink bytes, _, .ready (.ok ())⟩ => if sink = peer then bytes else []
  | ⟨.writeAll sink bytes, _, .ready (.error failure)⟩ =>
      if sink = peer then bytes.take failure.written else []
  | ⟨.writeAll sink bytes, _, .interrupted progress⟩ =>
      if sink = peer then bytes.take progress else []
  | _ => []

def writeOf (peer : Peer) : SocketEvent → Option Bytes
  | ⟨.writeAll sink bytes, _, _⟩ => if sink = peer then some bytes else none
  | _ => none

def attemptOf : SocketEvent → Option Outbound
  | ⟨.connectProxy addr, _, _⟩ => some (.proxy addr)
  | ⟨.connectDirect host port, _, _⟩ => some (.direct host port)
  | _ => none

/-- The bytes read from a side. -/
def received (peer : Peer) (events : List SocketEvent) : Bytes := events.flatMap (receivedBy peer)

/-- The bytes that left for a side. -/
def sent (peer : Peer) (events : List SocketEvent) : Bytes := events.flatMap (sentBy peer)

/-- The writes begun towards a side, finished or not. -/
def writes (peer : Peer) (events : List SocketEvent) : List Bytes := events.filterMap (writeOf peer)

/-- The outbound connections attempted, successful or not. -/
def attempts (events : List SocketEvent) : List Outbound := events.filterMap attemptOf

variable {peer : Peer} {before after : List SocketEvent}

@[simp] theorem received_nil : received peer [] = [] := rfl

@[simp] theorem received_append :
    received peer (before ++ after) = received peer before ++ received peer after :=
  List.flatMap_append

@[simp] theorem sent_append : sent peer (before ++ after) = sent peer before ++ sent peer after :=
  List.flatMap_append

@[simp] theorem writes_append :
    writes peer (before ++ after) = writes peer before ++ writes peer after :=
  List.filterMap_append

@[simp] theorem attempts_append : attempts (before ++ after) = attempts before ++ attempts after :=
  List.filterMap_append

@[simp] theorem received_singleton (event : SocketEvent) :
    received peer [event] = receivedBy peer event :=
  List.flatMap_singleton _ _

theorem received_cons (event : SocketEvent) (events : List SocketEvent) :
    received peer (event :: events) = receivedBy peer event ++ received peer events :=
  List.flatMap_cons

@[simp] theorem sent_singleton (event : SocketEvent) : sent peer [event] = sentBy peer event :=
  List.flatMap_singleton _ _

/-- The side an operation reads from or writes to. -/
def Op.side : Op → Option Peer
  | .readExact peer _ => some peer
  | .read peer _ => some peer
  | .writeAll peer _ => some peer
  | .connectProxy _ => none
  | .connectDirect _ _ => none
  | .lookupHost _ => none

def Op.isAttempt : Op → Bool
  | .connectProxy _ => true
  | .connectDirect _ _ => true
  | _ => false

/-- The operation reads from or writes to this side. -/
def Op.Concerns (peer : Peer) (op : Op) : Prop := op.side = some peer

theorem Op.Concerns.isAttempt {peer : Peer} {op : Op} (concerns : op.Concerns peer) :
    op.isAttempt = false := by
  cases op with
  | readExact | read | writeAll => rfl
  | connectProxy | connectDirect | lookupHost => exact absurd concerns nofun

theorem Op.Concerns.side_ne {peer other : Peer} {op : Op} (concerns : op.Concerns peer)
    (different : peer ≠ other) : op.side ≠ some other :=
  fun same => different (Option.some.inj (concerns.symm.trans same))

/-- The operation is a write. -/
def Op.IsWrite (op : Op) : Prop := ∃ peer bytes, op = .writeAll peer bytes

variable {events : List SocketEvent}

theorem received_eq_nil_of_isWrite (written : ∀ event ∈ events, event.op.IsWrite) :
    received peer events = [] := by
  refine List.flatMap_eq_nil_iff.mpr fun event member => ?_
  obtain ⟨sink, bytes, isWrite⟩ := written event member
  unfold receivedBy
  split
  · exact absurd isWrite nofun
  · exact absurd isWrite nofun
  · rfl

theorem received_eq_nil (elsewhere : ∀ event ∈ events, event.op.side ≠ some peer) :
    received peer events = [] := by
  refine List.flatMap_eq_nil_iff.mpr fun event member => ?_
  have other := elsewhere event member
  unfold receivedBy
  split
  · exact if_neg fun same => other (congrArg some same)
  · exact if_neg fun same => other (congrArg some same)
  · rfl

theorem sent_eq_nil (elsewhere : ∀ event ∈ events, event.op.side ≠ some peer) :
    sent peer events = [] := by
  refine List.flatMap_eq_nil_iff.mpr fun event member => ?_
  have other := elsewhere event member
  unfold sentBy
  split
  · exact if_neg fun same => other (congrArg some same)
  · exact if_neg fun same => other (congrArg some same)
  · exact if_neg fun same => other (congrArg some same)
  · rfl

theorem writes_eq_nil (elsewhere : ∀ event ∈ events, event.op.side ≠ some peer) :
    writes peer events = [] := by
  refine List.filterMap_eq_nil_iff.mpr fun event member => ?_
  have other := elsewhere event member
  unfold writeOf
  split
  · exact if_neg fun same => other (congrArg some same)
  · rfl

theorem attempts_eq_nil (none : ∀ event ∈ events, event.op.isAttempt = false) :
    attempts events = [] := by
  refine List.filterMap_eq_nil_iff.mpr fun event member => ?_
  have other := none event member
  unfold attemptOf
  split
  · exact absurd other nofun
  · exact absurd other nofun
  · rfl

/-! ## The runs of one operation -/

variable {start stop : Nat}

theorem runs_readExact_returned {size : Nat} {block : Vector UInt8 size}
    (run : Runs (readExact peer size) start events (.returned block) stop) :
    events = [⟨.readExact peer size, stop, .ready (.ok block)⟩] := by
  obtain ⟨-, ⟨answer, value, accepted, rfl, same⟩ | ⟨_, _, _, _, impossible⟩ |
    ⟨_, _, impossible⟩⟩ := runs_performOr_iff.mp run
  · cases same
    cases answer with
    | ok block =>
        cases accepted
        rfl
    | error error => exact absurd accepted nofun
  · exact absurd impossible nofun
  · exact absurd impossible nofun

theorem runs_read_returned {limit : Nat} {chunk : Chunk limit}
    (run : Runs (read peer limit) start events (.returned chunk) stop) :
    events = [⟨.read peer limit, stop, .ready (.ok chunk)⟩] := by
  obtain ⟨-, ⟨answer, value, accepted, rfl, same⟩ | ⟨_, _, _, _, impossible⟩ |
    ⟨_, _, impossible⟩⟩ := runs_performOr_iff.mp run
  · cases same
    cases answer with
    | ok chunk =>
        cases accepted
        rfl
    | error error => exact absurd accepted nofun
  · exact absurd impossible nofun
  · exact absurd impossible nofun

theorem runs_writeAll_returned {bytes : Bytes} {value : Unit}
    (run : Runs (writeAll peer bytes) start events (.returned value) stop) :
    events = [⟨.writeAll peer bytes, stop, .ready (.ok ())⟩] := by
  obtain ⟨-, ⟨answer, value, accepted, rfl, -⟩ | ⟨_, _, _, _, impossible⟩ |
    ⟨_, _, impossible⟩⟩ := runs_performOr_iff.mp run
  · cases answer with
    | ok value => rfl
    | error error => exact absurd accepted nofun
  · exact absurd impossible nofun
  · exact absurd impossible nofun

theorem received_readExact {size : Nat} {block : Vector UInt8 size}
    (run : Runs (readExact peer size) start events (.returned block) stop) :
    received peer events = block.toList := by
  rw [runs_readExact_returned run, received_singleton]
  exact if_pos rfl

theorem received_writeAll {other : Peer} {bytes : Bytes} {value : Unit}
    (run : Runs (writeAll peer bytes) start events (.returned value) stop) :
    received other events = [] := by
  rw [runs_writeAll_returned run, received_singleton]
  rfl

theorem sent_writeAll {bytes : Bytes} {value : Unit}
    (run : Runs (writeAll peer bytes) start events (.returned value) stop) :
    sent peer events = bytes := by
  rw [runs_writeAll_returned run, sent_singleton]
  exact if_pos rfl

theorem received_read {limit : Nat} {chunk : Chunk limit}
    (run : Runs (read peer limit) start events (.returned chunk) stop) :
    received peer events = chunk.bytes := by
  rw [runs_read_returned run, received_singleton]
  exact if_pos rfl

/-! ## A scripted environment -/

/-- What the two sides send, how connection attempts end and what lookups
answer. -/
structure Script where
  client : Bytes
  target : Bytes
  connects : Except IoError Unit
  lookups : List SocketAddr

namespace Script

def incoming (script : Script) : Peer → Bytes
  | .client => script.client
  | .target => script.target

/-- The script after `size` bytes of a side have been read. -/
def consume (script : Script) (peer : Peer) (size : Nat) : Script :=
  match peer with
  | .client => { script with client := script.client.drop size }
  | .target => { script with target := script.target.drop size }

/-- Every operation succeeds at once; a read takes all it can, and a read of
more bytes than the side sends stays pending. -/
def answer (script : Script) : (op : Op) → Option (Resp op × Script)
  | .readExact peer size =>
      if enough : size ≤ (script.incoming peer).length then
        let block := (script.incoming peer).take size
        have length : block.toArray.size = size := by
          rw [List.size_toArray, List.length_take, Nat.min_eq_left enough]
        some (.ok ⟨block.toArray, length⟩, script.consume peer size)
      else none
  | .read peer limit =>
      let chunk : Chunk limit := ⟨(script.incoming peer).take limit, List.length_take_le _ _⟩
      some (.ok chunk, script.consume peer limit)
  | .writeAll _ _ => some (.ok (), script)
  | .connectProxy _ => some (script.connects, script)
  | .connectDirect _ _ => some (script.connects, script)
  | .lookupHost _ => some (.ok script.lookups, script)

end Script

end SimpleForwarder

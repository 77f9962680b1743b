import SimpleForwarder.Lib.Cost
import SimpleForwarder.ProxyServer.Handshake
import SimpleForwarder.ReferenceCrates

/-!
Contract: how much a handshake takes in.

Owns: the bound on the bytes that the handshake of a connection takes off each
socket, whatever the two sides send and however the handshake ends
(`handshake_reads_bounded`).

The loops test their limit before a read, so what they take in is the limit and
one read more. An exact read counts in full, also when it is abandoned.

Does not own: what is read.
-/

namespace SimpleForwarder

open RustText IpText EffectProgram Program

/-- The most that one operation can have taken off the socket of a side. -/
def takenBy (peer : Peer) : SocketEvent → Nat
  | ⟨.readExact source size, _, _⟩ => if source = peer then size else 0
  | ⟨.read source _, _, .ready (.ok chunk)⟩ => if source = peer then chunk.bytes.length else 0
  | _ => 0

/-- What an outbound attempt takes of a side: the reply of an upstream. -/
def upstreamCapacity : Peer → Nat
  | .client => 0
  | .target => connectResponseMaxLen + 1024

/-! ## Operations -/

section Operations

variable {peer : Peer} {event : SocketEvent} {α : Type} {bound : Nat}

theorem takenBy_of_side (other : event.op.side ≠ some peer) : takenBy peer event = 0 := by
  unfold takenBy
  split
  · exact if_neg fun same => other (congrArg some same)
  · exact if_neg fun same => other (congrArg some same)
  · rfl

theorem takenBy_of_isWrite (isWrite : event.op.IsWrite) : takenBy peer event = 0 := by
  obtain ⟨sink, bytes, written⟩ := isWrite
  unfold takenBy
  split
  · exact absurd written nofun
  · exact absurd written nofun
  · rfl

/-- What is received has been taken. -/
theorem length_received_le (peer : Peer) (events : List SocketEvent) :
    (received peer events).length ≤ total (takenBy peer) events := by
  have one : ∀ event, (receivedBy peer event).length ≤ takenBy peer event := by
    intro event
    unfold receivedBy
    split
    · next source size time block =>
        unfold takenBy
        dsimp only
        split
        · exact Nat.le_of_eq block.length_toList
        · exact Nat.le_refl 0
    · next source limit time chunk =>
        unfold takenBy
        dsimp only
        split
        · exact Nat.le_refl _
        · exact Nat.le_refl 0
    · exact Nat.zero_le _
  induction events with
  | nil => exact Nat.le_refl 0
  | cons event events inductionHypothesis =>
      rw [received_cons, List.length_append, total]
      exact Nat.add_le_add (one event) inductionHypothesis

theorem costs_of_elsewhere {program : Async α} (only : program.Only (·.side ≠ some peer)) :
    Costs (takenBy peer) program bound :=
  .of_only only fun _ => takenBy_of_side

/-- An operation on neither socket, under a deadline. -/
theorem timeout_performOr_costs {E E' : Type} {op : Op} {result : Resp op → Except E α}
    (noSide : op.side = none) (duration : Nat) :
    Costs (takenBy peer) ((performOr op result).timeout duration : Program Op Resp E' _) 0 := by
  have elsewhere : op.side ≠ some peer := by
    rw [noSide]
    exact nofun
  have only : (performOr op result).Only (·.side ≠ some peer) := only_performOr elsewhere
  exact .timeout (.of_only only fun _ => takenBy_of_side) duration

theorem writeAll_costs (side : Peer) (bytes : Bytes) :
    Costs (takenBy peer) (writeAll side bytes) bound :=
  .of_only (writeAll_isWrite side bytes) fun _ => takenBy_of_isWrite

theorem readExact_costs (side : Peer) (size : Nat) :
    Costs (takenBy peer) (readExact side size) size := by
  refine .performOr fun time response => ?_
  unfold takenBy
  dsimp only
  split
  · exact Nat.le_refl size
  · exact Nat.zero_le size

/-- A read, with what it returns charged to what follows. -/
theorem read_bind_costs {limit : Nat} {rest : Chunk limit → Async α} (within : limit ≤ bound)
    (later : ∀ chunk, Costs (takenBy peer) (rest chunk) (bound - chunk.bytes.length)) :
    Costs (takenBy peer) ((read peer limit).bind rest) bound := by
  let spent (chunk : Chunk limit) : Nat := chunk.bytes.length
  refine @Costs.bind_performOr _ _ _ _ _ _ rest bound _ _ spent ?_ ?_ ?_ ?_
  · intro time answer chunk accepted
    cases answer with
    | ok chunk' =>
        cases accepted
        exact if_pos rfl
    | error error => exact absurd accepted nofun
  · intro time answer error refused
    cases answer with
    | ok chunk => exact absurd refused nofun
    | error error => exact Nat.zero_le bound
  · exact fun _ _ => Nat.zero_le bound
  · exact fun chunk => ⟨Nat.le_trans chunk.bounded within, later chunk⟩

end Operations

/-! ## Loops -/

section Loops

variable {peer : Peer}

/-- The reader of a head fills its buffer up to its limit and one read more. -/
theorem readHeadLoop_costs {limit : Nat} {errors : HeadErrors} (fuel : Nat) (buf : Bytes)
    (startPos : Nat) :
    Costs (takenBy peer) (readHeadLoop peer limit errors fuel buf startPos)
      (limit + 1024 - buf.length) := by
  induction fuel generalizing buf startPos with
  | zero => exact .fail _
  | succ fuel inductionHypothesis =>
      unfold readHeadLoop
      split
      · split
        · exact .fail _
        · exact .ret _
      · split
        · exact .fail _
        · refine read_bind_costs (by omega) fun chunk => ?_
          split
          · exact .fail _
          · have later := inductionHypothesis (buf ++ chunk.bytes) buf.length
            rw [List.length_append, Nat.sub_add_eq] at later
            exact later

/-- So does the loop of the SOCKS4 handshake. -/
theorem readSocks4Fields_costs (isSocks4a : Bool) (fuel : Nat) (buf : Bytes) (ends : Socks4Ends) :
    Costs (takenBy .client) (readSocks4Fields isSocks4a fuel buf ends)
      (socks4HandshakeMaxLen + 256 - buf.length) := by
  induction fuel generalizing buf ends with
  | zero => exact .fail _
  | succ fuel inductionHypothesis =>
      unfold readSocks4Fields
      dsimp only
      split
      · exact .ret _
      · split
        · exact .fail _
        · refine read_bind_costs (by omega) fun chunk => ?_
          split
          · exact .fail _
          · have later := inductionHypothesis (buf ++ chunk.bytes) (ends.scan isSocks4a buf)
            rw [List.length_append, Nat.sub_add_eq] at later
            exact later

end Loops

/-! ## The request -/

section Request

theorem readSocks4Request_costs :
    Costs (takenBy .client) readSocks4Request (7 + (socks4HandshakeMaxLen + 256)) := by
  refine (readExact_costs .client 7).bind fun header => ?_
  dsimp only
  split
  · exact .free_bind (writeAll_costs _ _) fun _ => .fail _
  · exact (readSocks4Fields_costs _ _ _ _).bind_free fun fields =>
      .bind_free (.settle _) fun _ => .ret _

theorem negotiateMethod_costs : Costs (takenBy .client) negotiateMethod (1 + 255) := by
  refine (readExact_costs .client 1).bind fun secondByte => ?_
  dsimp only
  split
  · exact .fail _
  · have short := Nat.le_of_lt_succ (byteAt 0 secondByte).toNat_lt
    refine Costs.mono (Costs.bind_free (readExact_costs .client _) fun methods =>
      .free_bind (writeAll_costs _ _) fun _ => ?_) short
    split
    · exact .fail _
    · exact .ret _

theorem readSocks5Address_costs (atyp : UInt8) :
    Costs (takenBy .client) (readSocks5Address atyp) (1 + 255) := by
  have sized : ∀ {size : Nat} {next : Vector UInt8 size → Vector UInt8 2 → Socks5Request},
      Costs (takenBy .client) ((readExact .client size).bind fun block =>
        (readExact .client 2).bind fun portBuf => .ret (next block portBuf)) (size + 2) :=
    (readExact_costs .client _).bind fun _ => (readExact_costs .client 2).bind_free fun _ => .ret _
  unfold readSocks5Address
  split
  · exact sized.mono (by decide)
  · split
    · refine (readExact_costs .client 1).bind fun lenBuf => ?_
      dsimp only
      split
      · exact .free_bind (writeAll_costs _ _) fun _ => .fail _
      · exact sized.mono (by omega)
    · split
      · exact sized.mono (by decide)
      · exact .free_bind (writeAll_costs _ _) fun _ => .fail _

theorem readSocks5Request_costs : Costs (takenBy .client) readSocks5Request
    ((1 + 255) + (4 + (1 + 255))) := by
  refine negotiateMethod_costs.bind fun _ => (readExact_costs .client 4).bind fun header => ?_
  split
  · exact .fail _
  · split
    · exact .free_bind (writeAll_costs _ _) fun _ => .fail _
    · exact readSocks5Address_costs _

variable (crates : Crates)

theorem readHttpRequest_costs (firstByte : UInt8) :
    Costs (takenBy .client) (readHttpRequest crates firstByte) (httpHeaderMaxLen + 1023) :=
  (readHeadLoop_costs _ _ 0).bind_free fun _ => .bind_free (.settle _) fun _ => .ret _

end Request

/-! ## The outbound attempt -/

section Attempt

variable {peer : Peer} {α : Type}

theorem skipBoundAddress_costs (atyp : UInt8) :
    Costs (takenBy .target) (skipBoundAddress atyp) (1 + 257) := by
  unfold skipBoundAddress
  split
  · exact ((readExact_costs .target 6).bind_free fun _ => .ret _).mono (by decide)
  · split
    · refine (readExact_costs .target 1).bind fun lenBuf => ?_
      have short := (byteAt 0 lenBuf).toNat_lt
      exact ((readExact_costs .target _).bind_free fun _ => .ret _).mono (by omega)
    · split
      · exact ((readExact_costs .target 18).bind_free fun _ => .ret _).mono (by decide)
      · exact .fail _

theorem socks5Connect_costs (host : Text) (port : UInt16) (isSocks5h : Bool) :
    Costs (takenBy .target) (socks5Connect host port isSocks5h) (2 + (4 + (1 + 257))) := by
  refine .free_bind (writeAll_costs _ _) fun _ => ?_
  refine (readExact_costs .target 2).bind fun response => ?_
  split
  · exact .fail _
  · split
    · exact .fail _
    · refine .free_bind (.settle _) fun request => .free_bind (writeAll_costs _ _) fun _ =>
        (readExact_costs .target 4).bind fun responseHeader => ?_
      split
      · exact .fail _
      · split
        · exact .fail _
        · exact skipBoundAddress_costs _

theorem httpConnect_costs (host : Text) (port : UInt16) :
    Costs (takenBy .target) (httpConnect host port) (connectResponseMaxLen + 1024) :=
  .free_bind (writeAll_costs _ _) fun _ =>
    (readHeadLoop_costs _ [] 0).bind_free fun _ => .bind_free (.settle _) fun _ => .ret _

/-- Only the handshake with an upstream reads, and only from the upstream. -/
theorem upstreamHandshake_costs (proxyType : ProxyType) (host : Text) (port : UInt16) :
    Costs (takenBy peer) (upstreamHandshake proxyType host port) (upstreamCapacity peer) := by
  have socks : ∀ isSocks5h, Costs (takenBy .target)
      ((socks5Connect host port isSocks5h).bind fun _ => .ret ([] : Bytes))
      (upstreamCapacity .target) :=
    fun isSocks5h => ((socks5Connect_costs host port isSocks5h).bind_free fun _ => .ret _).mono
      (by decide)
  cases peer with
  | client =>
      exact costs_of_elsewhere ((upstreamHandshake_onTarget proxyType host port).imp
        fun _ onTarget => onTarget.1)
  | target =>
      cases proxyType with
      | socks5 => exact socks _
      | socks5h => exact socks _
      | http => exact httpConnect_costs host port

theorem finalHost_costs (proxyType : ProxyType) (host : Text) (port : UInt16)
    (resolveHostname : Bool) :
    Costs (takenBy peer) (finalHost proxyType host port resolveHostname) 0 := by
  unfold finalHost
  split
  · refine .bind_free (timeout_performOr_costs rfl _) fun answer => ?_
    split
    · exact .ret _
    · exact .ret _
  · exact .ret _

theorem withinHandshakeTimeout_costs {handshake : Async α} {bound : Nat}
    (costs : Costs (takenBy peer) handshake bound) :
    Costs (takenBy peer) (withinHandshakeTimeout handshake) bound := by
  refine (costs.timeout _).bind_free fun result => ?_
  match result with
  | some (.ok value) => exact .ret _
  | some (.error error) => exact .fail _
  | none => exact .fail _

theorem connect_costs (client : ProxyClient) (host : Text) (port : UInt16)
    (resolveHostname : Bool) :
    Costs (takenBy peer) (client.connect host port resolveHostname) (upstreamCapacity peer) := by
  refine .free_bind (timeout_performOr_costs rfl _) fun result => ?_
  match result with
  | none => exact .fail _
  | some (.error error) => exact .fail _
  | some (.ok ()) =>
      exact .free_bind (finalHost_costs _ host port resolveHostname) fun finalHost =>
        withinHandshakeTimeout_costs (upstreamHandshake_costs _ finalHost port)

theorem failWithReply_costs (isSocks : Bool) (errorCode : UInt8) (error : Text) :
    Costs (takenBy peer) (failWithReply isSocks errorCode error) 0 := by
  unfold failWithReply
  split
  · exact .bind_free (.attempt (writeAll_costs _ _)) fun _ => .fail _
  · exact .fail _

theorem connectToTarget_costs (host : Text) (port : UInt16) (resolveHostname : Bool)
    (ip : Option IpAddr) (isSocks : Bool) (rules : List (RuleMatcher × ProxyConfig)) :
    Costs (takenBy peer) (connectToTarget host port resolveHostname ip isSocks rules)
      (upstreamCapacity peer) := by
  rw [connectToTarget_eq]
  split
  · next proxyConfig _ =>
      refine .bind_free (.attempt (connect_costs ⟨proxyConfig⟩ host port resolveHostname))
        fun result => ?_
      cases result with
      | ok targetLeftover => exact .ret _
      | error error => exact failWithReply_costs _ _ _
  · refine Costs.mono (.bind_free (timeout_performOr_costs rfl _) fun result => ?_) (Nat.zero_le _)
    match result with
    | some (.ok ()) => exact .ret _
    | some (.error error) => exact failWithReply_costs _ _ _
    | none => exact failWithReply_costs _ _ _

theorem orReply_costs {connect : Async Connection} {bound : Nat} (reply : Bytes)
    (costs : Costs (takenBy peer) connect bound) :
    Costs (takenBy peer) (orReply connect reply) bound := by
  refine costs.attempt.bind_free fun result => ?_
  cases result with
  | ok connection => exact .ret _
  | error error => exact .bind_free (.attempt (writeAll_costs _ _)) fun _ => .fail _

end Attempt

/-! ## The handshake -/

section Handshake

variable {peer : Peer} {crates : Crates} {localAddr : Option SocketAddr}
  {rules : List (RuleMatcher × ProxyConfig)}

/-- What a handler takes of a side: a request but for its first byte, and the
reply of an upstream. -/
def handlerCapacity : Peer → Nat
  | .client => httpHeaderMaxLen + 1023
  | .target => connectResponseMaxLen + 1024

/-- What a handshake takes of a side. -/
def handshakeCapacity : Peer → Nat
  | .client => httpHeaderMaxLen + 1024
  | .target => connectResponseMaxLen + 1024

/-- A handler reads its request, connects, and answers. -/
theorem handler_costs {Request : Type} {reading : Async Request} {bound : Nat}
    {connect : Request → Async Connection} {finish : Request → Async Unit}
    {result : Request → Connection → HandshakeResult} (ofClient : reading.Only (Op.Concerns .client))
    (costs : Costs (takenBy .client) reading bound) (within : bound ≤ handlerCapacity .client)
    (connecting : ∀ request peer, Costs (takenBy peer) (connect request) (upstreamCapacity peer))
    (writes : ∀ request, (finish request).Only Op.IsWrite) :
    Costs (takenBy peer) (reading.bind fun request => (connect request).bind fun connection =>
      (finish request).bind fun _ => .ret (result request connection))
      (handlerCapacity peer) := by
  have answered : ∀ request connection, Costs (takenBy peer)
      ((finish request).bind fun _ => .ret (result request connection)) 0 :=
    fun request connection => .bind_free
      (.of_only (writes request) fun _ => takenBy_of_isWrite) fun _ => .ret _
  have later := fun request => (connecting request peer).bind_free (answered request)
  cases peer with
  | client => exact (costs.mono within).bind_free later
  | target => exact .free_bind (costs_of_elsewhere (ofClient.imp fun _ concerns =>
      concerns.side_ne nofun)) later

theorem handleSocks4_costs : Costs (takenBy peer) (handleSocks4 rules) (handlerCapacity peer) :=
  handler_costs readSocks4Request_ofClient readSocks4Request_costs (by decide)
    (fun _ _ => orReply_costs _ (connectToTarget_costs _ _ _ _ _ _))
    fun _ => writeAll_isWrite _ _

theorem handleSocks5_costs :
    Costs (takenBy peer) (handleSocks5 localAddr rules) (handlerCapacity peer) :=
  handler_costs readSocks5Request_ofClient readSocks5Request_costs (by decide)
    (fun _ _ => connectToTarget_costs _ _ _ _ _ _) fun _ => writeAll_isWrite _ _

theorem handleHttp_costs (firstByte : UInt8) :
    Costs (takenBy peer) (handleHttp crates firstByte rules) (handlerCapacity peer) :=
  handler_costs (readHttpRequest_ofClient crates firstByte) (readHttpRequest_costs crates firstByte)
    (Nat.le_refl _) (fun _ _ => orReply_costs _ (connectToTarget_costs _ _ _ _ _ _))
    fun request => ClientMessage.answer_isWrite crates none (.http [] request.1)

theorem handleClient_costs :
    Costs (takenBy peer) (handleClient crates localAddr rules) (handshakeCapacity peer) := by
  have served : ∀ firstByte : UInt8, Costs (takenBy peer)
      (if firstByte = 0x05 then handleSocks5 localAddr rules
        else if firstByte = 0x04 then handleSocks4 rules
        else handleHttp crates firstByte rules) (handlerCapacity peer) := by
    intro firstByte
    split
    · exact handleSocks5_costs
    · split
      · exact handleSocks4_costs
      · exact handleHttp_costs firstByte
  cases peer with
  | client =>
      refine Costs.mono ((readExact_costs .client 1).bind fun firstByte => served _) ?_
      decide
  | target =>
      refine .free_bind (costs_of_elsewhere ?_) fun firstByte => served _
      exact (readExact_ofClient 1).imp fun _ concerns => concerns.side_ne nofun

/-- However the two sides behave and however it ends, a handshake takes in no
more than its capacity. -/
theorem handshake_reads_bounded {start stop : Nat} {events : List SocketEvent}
    {outcome : Outcome Text (Option (Except Text HandshakeResult))}
    (run : Runs (handshake crates localAddr rules) start events outcome stop) (peer : Peer) :
    (received peer events).length ≤ total (takenBy peer) events ∧
      total (takenBy peer) events ≤ handshakeCapacity peer :=
  ⟨length_received_le peer events,
    handleClient_costs.timeout handshakeTimeout start events outcome stop run⟩

/-- A greeting whose methods do not all arrive. -/
def cutGreeting : Script where
  client := [0x05, 0x03, 0x00, 0x01]
  target := []
  connects := .ok ()
  lookups := []

def cutGreetingRun : List SocketEvent :=
  (exec Script.answer 0 (handshake referenceCrates none []) cutGreeting).1

theorem handshake_reads_bounded_cutGreeting :
    total (takenBy .client) cutGreetingRun = 5 ∧ (received .client cutGreetingRun).length ≤ 5 ∧
      total (takenBy .client) cutGreetingRun ≤ 17408 := by
  have bounds := handshake_reads_bounded
    (runs_exec Script.answer 0 (handshake referenceCrates none []) cutGreeting) .client
  have taken : total (takenBy .client) cutGreetingRun = 5 := by decide +kernel
  exact ⟨taken, taken ▸ bounds.1, bounds.2⟩

end Handshake

end SimpleForwarder

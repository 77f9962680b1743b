import SimpleForwarder.ProxyServer.Handshake

/-!
Contract: the course of a handshake, wherever it ends.

Owns: `Course`, the parts of a handshake for every outcome of every operation:
it is reading its request, or it has read one request message, makes the one
attempt the rules select for it, and from then on only writes.

Does not own: what the attempt and the writes are.
-/

namespace SimpleForwarder

open RustText IpText EffectProgram Program Framing

/-- One outbound attempt, and writes after it. -/
def AttemptThenWrites (host : Text) (port : UInt16) (resolveHostname : Bool)
    (chosen : Option ProxyConfig) (events : List SocketEvent) : Prop :=
  ∃ attempt after start stop result, events = attempt ++ after ∧
    Runs (attemptOutbound host port resolveHostname chosen) start attempt result stop ∧
    ∀ event ∈ after, event.op.IsWrite

theorem AttemptThenWrites.append {host : Text} {port : UInt16} {resolveHostname : Bool}
    {chosen : Option ProxyConfig} {events more : List SocketEvent}
    (attempted : AttemptThenWrites host port resolveHostname chosen events)
    (writes : ∀ event ∈ more, event.op.IsWrite) :
    AttemptThenWrites host port resolveHostname chosen (events ++ more) := by
  obtain ⟨attempt, after, start, stop, result, rfl, run, isWrite⟩ := attempted
  exact ⟨attempt, after ++ more, start, stop, result, List.append_assoc _ _ _, run,
    List.forall_mem_append.mpr ⟨isWrite, writes⟩⟩

/-- Nothing is read from the client any more. -/
theorem AttemptThenWrites.received_client {host : Text} {port : UInt16} {resolveHostname : Bool}
    {chosen : Option ProxyConfig} {events : List SocketEvent}
    (attempted : AttemptThenWrites host port resolveHostname chosen events) :
    received .client events = [] := by
  obtain ⟨attempt, after, start, stop, result, rfl, run, isWrite⟩ := attempted
  have isAttempt := attemptOutbound_ensures _ _ _ _ _ _ _ _ run
  rw [received_append, received_eq_nil isAttempt.notClient, received_eq_nil_of_isWrite isWrite,
    List.append_nil]

/-- The course of a handshake of which the bytes `detected` were read before. -/
inductive Course (crates : Crates) (rules : List (RuleMatcher × ProxyConfig)) (detected : Bytes) :
    List SocketEvent → Prop where
  | reading {events : List SocketEvent} (onClient : ∀ event ∈ events, event.op.Concerns .client) :
      Course crates rules detected events
  | served {reading rest : List SocketEvent} {message : ClientMessage} {leftover : Bytes}
      (onClient : ∀ event ∈ reading, event.op.Concerns .client)
      (framed : IsFramed ClientMessage.encode (ClientMessage.WellFormed crates)
        (detected ++ received .client reading) message leftover)
      (attempted : AttemptThenWrites message.host message.port message.resolveHostname
        (message.chosen rules) rest) : Course crates rules detected (reading ++ rest)

variable {crates : Crates} {localAddr : Option SocketAddr}
  {rules : List (RuleMatcher × ProxyConfig)}

theorem connectToTarget_attempts (host : Text) (port : UInt16) (resolveHostname : Bool)
    (ip : Option IpAddr) :
    Ensures (connectToTarget host port resolveHostname ip true rules) fun events _ =>
      AttemptThenWrites host port resolveHostname (chosenProxy rules host ip) events := by
  intro start events outcome stop run
  obtain ⟨attempt, result, middle, after, rfl, attemptRun, shape⟩ := connectToTarget_runs run
  refine ⟨attempt, after, start, middle, result, rfl, attemptRun, ?_⟩
  cases shape with
  | established | pending | silent => exact nofun
  | replied error errorCode time response =>
      exact List.forall_mem_singleton.mpr ⟨_, _, rfl⟩

theorem orReply_attempts (reply : Bytes) (host : Text) (port : UInt16) (resolveHostname : Bool)
    (ip : Option IpAddr) :
    Ensures (orReply (connectToTarget host port resolveHostname ip false rules) reply)
      fun events _ =>
        AttemptThenWrites host port resolveHostname (chosenProxy rules host ip) events := by
  intro start events outcome stop run
  obtain ⟨attempt, result, middle, after, rfl, attemptRun, shape⟩ := orReply_runs run
  refine ⟨attempt, after, start, middle, result, rfl, attemptRun, ?_⟩
  cases shape with
  | established | pending => exact nofun
  | replied error time response => exact List.forall_mem_singleton.mpr ⟨_, _, rfl⟩

/-- A handler reads its request, connects as the request says, and finishes by
writing. -/
theorem course_of_handler {α β : Type} {detected : Bytes} {request : Async α}
    {connect : α → Async Connection} {finish : α → Connection → Async β}
    (onClient : request.Only (Op.Concerns .client))
    (connects : ∀ value start reading stop, Runs request start reading (.returned value) stop →
      ∃ message leftover, IsFramed ClientMessage.encode (ClientMessage.WellFormed crates)
          (detected ++ received .client reading) message leftover ∧
        Ensures (connect value) fun events _ => AttemptThenWrites message.host message.port
          message.resolveHostname (message.chosen rules) events)
    (finishes : ∀ value connection, (finish value connection).Only Op.IsWrite) :
    Ensures (request.bind fun value => (connect value).bind (finish value))
      fun events _ => Course crates rules detected events := by
  intro start events outcome stop run
  rcases runs_bind_iff.mp run with
    ⟨value, middle, reading, rest, readRun, restRun, rfl⟩ | ⟨error, readRun, -⟩ | ⟨readRun, -⟩
  · obtain ⟨message, leftover, framed, attempts⟩ := connects _ _ _ _ readRun
    refine .served (readRun.only onClient) framed ?_
    rcases runs_bind_iff.mp restRun with
      ⟨connection, _, connecting, finishing, connectRun, finishRun, rfl⟩ | ⟨error, connectRun, -⟩ |
        ⟨connectRun, -⟩
    · exact (attempts _ _ _ _ connectRun).append (finishRun.only (finishes value connection))
    · exact attempts _ _ _ _ connectRun
    · exact attempts _ _ _ _ connectRun
  · exact .reading (readRun.only onClient)
  · exact .reading (readRun.only onClient)

theorem handleSocks4_course :
    Ensures (handleSocks4 rules) fun events _ => Course crates rules [0x04] events := by
  refine course_of_handler readSocks4Request_ofClient ?_ ?_
  · intro request start reading stop readRun
    obtain ⟨message, bytes, isRequest, -⟩ := readSocks4Request_returned readRun
    refine ⟨.socks4 message, request.leftover, ⟨trivial, bytes⟩, ?_⟩
    rw [isRequest]
    exact orReply_attempts _ _ _ _ _
  · exact fun request connection => (writeAll_isWrite _ _).bind fun _ => only_ret _

theorem handleSocks5_course :
    Ensures (handleSocks5 localAddr rules) fun events _ => Course crates rules [0x05] events := by
  refine course_of_handler readSocks5Request_ofClient ?_ ?_
  · intro request start reading stop readRun
    obtain ⟨message, bytes, rfl⟩ := readSocks5Request_returned readRun
    refine ⟨.socks5 message, [], ⟨trivial, ?_⟩, connectToTarget_attempts _ _ _ _⟩
    rw [bytes]
    exact (List.append_nil _).symm
  · exact fun request connection => (writeAll_isWrite _ _).bind fun _ => only_ret _

theorem handleHttp_course {firstByte : UInt8} (notSocks4 : firstByte ≠ 0x04)
    (notSocks5 : firstByte ≠ 0x05) :
    Ensures (handleHttp crates firstByte rules)
      fun events _ => Course crates rules [firstByte] events := by
  refine course_of_handler (readHttpRequest_ofClient crates firstByte) ?_ ?_
  · intro request start reading stop readRun
    obtain ⟨head, wellFormed, bytes⟩ := readHttpRequest_returned notSocks4 notSocks5 readRun
    exact ⟨.http head request.1, request.2, ⟨wellFormed, bytes⟩, orReply_attempts _ _ _ _ _⟩
  · intro request connection
    exact (ClientMessage.answer_isWrite crates none (.http [] request.1)).bind fun _ => only_ret _

/-- Every handshake takes this course, whatever its protocol and its outcome. -/
theorem handleClient_course :
    Ensures (handleClient crates localAddr rules) fun events _ => Course crates rules [] events := by
  intro start events outcome stop run
  rcases runs_bind_iff.mp run with
    ⟨firstByte, middle, detection, later, detectRun, handlerRun, rfl⟩ | ⟨error, detectRun, -⟩ |
      ⟨detectRun, -⟩
  · have served : Course crates rules [byteAt 0 firstByte] later := by
      split at handlerRun
      · next isSocks5 =>
          rw [isSocks5]
          exact handleSocks5_course _ _ _ _ handlerRun
      · next notSocks5 =>
          split at handlerRun
          · next isSocks4 =>
              rw [isSocks4]
              exact handleSocks4_course _ _ _ _ handlerRun
          · next notSocks4 => exact handleHttp_course notSocks4 notSocks5 _ _ _ _ handlerRun
    have onClient := detectRun.only (readExact_ofClient 1)
    have firstBytes : firstByte.toList = [byteAt 0 firstByte] := toList_eq_ofFn firstByte
    cases served with
    | reading others => exact .reading (List.forall_mem_append.mpr ⟨onClient, others⟩)
    | @served reading rest message leftover others framed attempted =>
        have bytes : [] ++ received .client (detection ++ reading) =
            [byteAt 0 firstByte] ++ received .client reading := by
          rw [List.nil_append, received_append, received_readExact detectRun, firstBytes]
        rw [← bytes] at framed
        rw [← List.append_assoc]
        exact .served (List.forall_mem_append.mpr ⟨onClient, others⟩) framed attempted
  · exact .reading (detectRun.only (readExact_ofClient 1))
  · exact .reading (detectRun.only (readExact_ofClient 1))

/-- The deadline only cuts the course short. -/
theorem handshake_course :
    Ensures (handshake crates localAddr rules) fun events _ => Course crates rules [] events :=
  handleClient_course.timeout (fun _ _ => id) (fun _ _ => id) (fun _ => id) (fun _ => id)

end SimpleForwarder

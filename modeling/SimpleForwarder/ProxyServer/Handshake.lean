import SimpleForwarder.ProxyServer.Http
import SimpleForwarder.ProxyServer.Socks4
import SimpleForwarder.ProxyServer.Socks5

/-!
Contract: the handshake of a connection (`handle_connection`, up to the
relay).

Owns: the protocol detection, the deadline of the handshake, and the anatomy
of a successful handshake (`handleClient_returned`): it reads one request
message from the client, makes one attempt, answers, and hands over exactly
the bytes it has read beyond.

`ClientMessage` is the message in each of the inbound protocols. Which of them
a stream starts with is decided by its first byte.

Does not own: the relay.
-/

namespace SimpleForwarder

open RustText IpText EffectProgram Program

/-- `HANDSHAKE_TIMEOUT` of `proxy_server.rs`. -/
def handshakeTimeout : Nat := 10000

variable (crates : Crates) (localAddr : Option SocketAddr)
  (rules : List (RuleMatcher × ProxyConfig))

/-- The body of the handshake, without its deadline. -/
def handleClient : Async HandshakeResult := do
  let firstByte ← readExact .client 1
  if byteAt 0 firstByte = 0x05 then handleSocks5 localAddr rules
  else if byteAt 0 firstByte = 0x04 then handleSocks4 rules
  else handleHttp crates (byteAt 0 firstByte) rules

/-- `none` is `Handshake timed out`. -/
def handshake : Async (Option (Except Text HandshakeResult)) :=
  (handleClient crates localAddr rules).timeout handshakeTimeout

/-! ## The messages -/

/-- A request message of one of the inbound protocols. -/
inductive ClientMessage where
  | socks4 (message : Socks4Message)
  | socks5 (message : Socks5Message)
  | http (head : Bytes) (request : HttpRequest)

namespace ClientMessage

/-- The message on the wire. -/
def encode : ClientMessage → Bytes
  | socks4 message => message.encode
  | socks5 message => message.encode
  | http head _ => head

/-- A SOCKS message is one by its type; an HTTP head ends at its first
separator and parses, and does not start as SOCKS does. -/
def WellFormed : ClientMessage → Prop
  | socks4 _ => True
  | socks5 _ => True
  | http head request =>
      IsHeadEnd head head.length ∧ parseHttpRequest crates head = .ok request ∧
        head.head? ≠ some 0x04 ∧ head.head? ≠ some 0x05

/-- The connection is a tunnel: not a regular HTTP request. -/
def IsTunnel : ClientMessage → Prop
  | socks4 _ => True
  | socks5 _ => True
  | http _ request => request.target.isConnect = true

def host : ClientMessage → Text
  | socks4 message => (message.request []).host
  | socks5 message => message.request.host
  | http _ request => request.target.host

def port : ClientMessage → UInt16
  | socks4 message => (message.request []).port
  | socks5 message => message.request.port
  | http _ request => request.target.port

/-- The `ip` argument of `connect_to_target`. -/
def ip : ClientMessage → Option IpAddr
  | socks4 message => (message.request []).ip
  | socks5 message => message.request.ip
  | http _ _ => none

def resolveHostname : ClientMessage → Bool
  | socks4 message => (message.request []).isSocks4a
  | socks5 message => message.request.resolveHostname
  | http _ _ => true

def protocol : ClientMessage → Protocol
  | socks4 message => if (message.request []).isSocks4a then .socks4a else .socks4
  | socks5 message => if message.request.resolveHostname then .socks5h else .socks5
  | http _ _ => .http

/-- The upstream the rules select for the message; `none` is a direct
connection. -/
def chosen (message : ClientMessage) (rules : List (RuleMatcher × ProxyConfig)) :
    Option ProxyConfig :=
  chosenProxy rules message.host message.ip

/-- What the handler does once the connection is established. -/
def answer : ClientMessage → Async Unit
  | socks4 _ => sendSocks4Reply 0x5A
  | socks5 _ => sendSuccessReply localAddr
  | http _ request => answerHttpRequest crates request

/-- The success reply. A regular HTTP request has none: its answer is the
target's. -/
def successReply : ClientMessage → Option Bytes
  | socks4 _ => some (socks4Reply 0x5A)
  | socks5 _ => some (SimpleForwarder.successReply localAddr)
  | http _ request => if request.target.isConnect then some connectionEstablished else none

end ClientMessage

/-! ## Messages are prefix-free -/

theorem ClientMessage.head?_encode_append {message : ClientMessage} (rest : Bytes)
    (wellFormed : message.WellFormed crates) :
    (message.encode ++ rest).head? = message.encode.head? := by
  refine List.head?_append_of_ne_nil _ ?_
  cases message with
  | socks4 message => exact List.cons_ne_nil _ _
  | socks5 message => exact List.cons_ne_nil _ _
  | http head request =>
      intro empty
      have ends := wellFormed.1.ends
      rw [show head = [] from empty] at ends
      exact absurd ends (by decide)

/-- A stream starts with at most one request message. The first byte decides
the protocol. -/
theorem ClientMessage.prefixFree :
    Framing.PrefixFree ClientMessage.encode (ClientMessage.WellFormed crates) := by
  intro message other rest otherRest wellFormed otherWellFormed same
  have first : message.encode.head? = other.encode.head? := by
    rw [← head?_encode_append crates rest wellFormed, same,
      head?_encode_append crates otherRest otherWellFormed]
  cases message with
  | socks4 message =>
      cases other with
      | socks4 other => rw [(Socks4Message.encode_append_inj same).1]
      | socks5 other => exact absurd first (by decide : (some 0x04 : Option UInt8) ≠ some 0x05)
      | http head request => exact absurd first.symm otherWellFormed.2.2.1
  | socks5 message =>
      cases other with
      | socks4 other => exact absurd first (by decide : (some 0x05 : Option UInt8) ≠ some 0x04)
      | socks5 other => rw [(Socks5Message.encode_append_inj same).1]
      | http head request => exact absurd first.symm otherWellFormed.2.2.2
  | http head request =>
      cases other with
      | socks4 other => exact absurd first wellFormed.2.2.1
      | socks5 other => exact absurd first wellFormed.2.2.2
      | http otherHead otherRequest =>
          obtain ⟨rfl, -⟩ := wellFormed.1.append_inj otherWellFormed.1 same
          have parsed := wellFormed.2.1
          rw [otherWellFormed.2.1] at parsed
          rw [Except.ok.inj parsed]

/-! ## Reading touches only the client -/

/-- An operation of the request-reading phase. -/
def Op.OnClient (op : Op) : Prop := op.side ≠ some .target ∧ op.isAttempt = false

theorem Op.Concerns.onClient {op : Op} (concerns : op.Concerns .client) : op.OnClient :=
  ⟨concerns.side_ne nofun, concerns.isAttempt⟩

theorem readExact_ofClient (size : Nat) : (readExact .client size).Only (Op.Concerns .client) :=
  only_performOr rfl

theorem read_ofClient (limit : Nat) : (read .client limit).Only (Op.Concerns .client) :=
  only_performOr rfl

theorem writeAll_ofClient (bytes : Bytes) : (writeAll .client bytes).Only (Op.Concerns .client) :=
  only_performOr rfl

theorem readSocks4Fields_ofClient (isSocks4a : Bool) (fuel : Nat) (buf : Bytes)
    (ends : Socks4Ends) : (readSocks4Fields isSocks4a fuel buf ends).Only (Op.Concerns .client) := by
  induction fuel generalizing buf ends with
  | zero => exact only_fail _
  | succ fuel inductionHypothesis =>
      unfold readSocks4Fields
      dsimp only
      split
      · exact only_ret _
      · split
        · exact only_fail _
        · refine (read_ofClient 256).bind fun chunk => ?_
          split
          · exact only_fail _
          · exact inductionHypothesis _ _

theorem readSocks4Request_ofClient : readSocks4Request.Only (Op.Concerns .client) := by
  refine (readExact_ofClient 7).bind fun header => ?_
  dsimp only
  split
  · exact (writeAll_ofClient _).bind fun _ => only_fail _
  · exact (readSocks4Fields_ofClient _ _ _ _).bind fun _ => only_settle.bind fun _ => only_ret _

theorem readSocks5Request_ofClient : readSocks5Request.Only (Op.Concerns .client) := by
  have negotiate : negotiateMethod.Only (Op.Concerns .client) := by
    refine (readExact_ofClient 1).bind fun secondByte => ?_
    dsimp only
    split
    · exact only_fail _
    · refine (readExact_ofClient _).bind fun methods => (writeAll_ofClient _).bind fun _ => ?_
      split
      · exact only_fail _
      · exact only_ret _
  have address : ∀ atyp, (readSocks5Address atyp).Only (Op.Concerns .client) := by
    intro atyp
    unfold readSocks5Address
    split
    · exact (readExact_ofClient 4).bind fun _ => (readExact_ofClient 2).bind fun _ => only_ret _
    · split
      · refine (readExact_ofClient 1).bind fun lenBuf => ?_
        dsimp only
        split
        · exact (writeAll_ofClient _).bind fun _ => only_fail _
        · exact (readExact_ofClient _).bind fun _ => (readExact_ofClient 2).bind fun _ => only_ret _
      · split
        · exact (readExact_ofClient 16).bind fun _ =>
            (readExact_ofClient 2).bind fun _ => only_ret _
        · exact (writeAll_ofClient _).bind fun _ => only_fail _
  refine negotiate.bind fun _ => (readExact_ofClient 4).bind fun requestHeader => ?_
  split
  · exact only_fail _
  · split
    · exact (writeAll_ofClient _).bind fun _ => only_fail _
    · exact address _

theorem readHttpRequest_ofClient (firstByte : UInt8) :
    (readHttpRequest crates firstByte).Only (Op.Concerns .client) := by
  refine Only.bind ?_ fun split => only_settle.bind fun _ => only_ret _
  refine (readHead_only _).imp fun op reads => ?_
  rw [reads]
  exact rfl

theorem readExact_onClient (size : Nat) : (readExact .client size).Only Op.OnClient :=
  (readExact_ofClient size).imp fun _ => Op.Concerns.onClient

theorem readSocks4Request_onClient : readSocks4Request.Only Op.OnClient :=
  readSocks4Request_ofClient.imp fun _ => Op.Concerns.onClient

theorem readSocks5Request_onClient : readSocks5Request.Only Op.OnClient :=
  readSocks5Request_ofClient.imp fun _ => Op.Concerns.onClient

theorem readHttpRequest_onClient (firstByte : UInt8) :
    (readHttpRequest crates firstByte).Only Op.OnClient :=
  (readHttpRequest_ofClient crates firstByte).imp fun _ => Op.Concerns.onClient

/-! ## Answering only writes -/

theorem writeAll_isWrite (peer : Peer) (bytes : Bytes) : (writeAll peer bytes).Only Op.IsWrite :=
  only_performOr ⟨peer, bytes, rfl⟩

theorem ClientMessage.answer_isWrite (message : ClientMessage) :
    (message.answer crates localAddr).Only Op.IsWrite := by
  cases message with
  | socks4 message => exact writeAll_isWrite _ _
  | socks5 message => exact writeAll_isWrite _ _
  | http head request =>
      change (answerHttpRequest crates request).Only Op.IsWrite
      unfold answerHttpRequest
      split
      · exact writeAll_isWrite _ _
      · exact (writeAll_isWrite _ _).bind fun _ => writeAll_isWrite _ _

/-- A tunnel is answered with its success reply and nothing else. -/
theorem ClientMessage.answer_of_isTunnel {message : ClientMessage} (tunnel : message.IsTunnel) :
    ∃ reply, message.successReply localAddr = some reply ∧
      message.answer crates localAddr = writeAll .client reply := by
  cases message with
  | socks4 message => exact ⟨_, rfl, rfl⟩
  | socks5 message => exact ⟨_, rfl, rfl⟩
  | http head request => exact ⟨connectionEstablished, if_pos tunnel, if_pos tunnel⟩

/-! ## The anatomy of a successful handshake -/

/-- The parts of a handshake that has handed over: what it read after the
bytes already `detected`, its attempt, and its answer. -/
structure Anatomy (detected : Bytes) (message : ClientMessage)
    (reading attempt finishing : List SocketEvent) (handed : HandshakeResult) : Prop where
  wellFormed : message.WellFormed crates
  onClient : ∀ event ∈ reading, event.op.OnClient
  read : detected ++ received .client reading = message.encode ++ handed.leftover
  attempted : ∃ start stop, Runs (attemptOutbound message.host message.port
    message.resolveHostname (message.chosen rules)) start attempt
    (.returned handed.targetLeftover) stop
  answered : ∃ start stop,
    Runs (message.answer crates localAddr) start finishing (.returned ()) stop
  handed_eq :
    let connection := establishedBy handed.targetLeftover (message.chosen rules)
    handed = {
      host := message.host
      port := message.port
      proxyDesc := connection.proxyDesc
      isDirect := connection.isDirect
      protocol := message.protocol
      leftover := handed.leftover
      targetLeftover := handed.targetLeftover
    }

theorem establishedBy_targetLeftover (leftover : Bytes) (chosen : Option ProxyConfig) :
    (establishedBy leftover chosen).targetLeftover = leftover := by
  cases chosen with
  | none => rfl
  | some proxyConfig => rfl

variable {crates localAddr rules} {start stop : Nat} {events : List SocketEvent}
  {handed : HandshakeResult}

theorem handleSocks4_returned
    (run : Runs (handleSocks4 rules) start events (.returned handed) stop) :
    ∃ message reading attempt finishing, events = reading ++ (attempt ++ finishing) ∧
      Anatomy crates localAddr rules [0x04] message reading attempt finishing handed := by
  obtain ⟨request, _, reading, _, readRun, rest, rfl⟩ := runs_bind_returned_iff.mp run
  obtain ⟨connection, connecting, finishing, _, rfl, connectRun, finishRun, rfl⟩ :=
    connectThenFinish_returned rest
  obtain ⟨attempt, result, _, after, rfl, attemptRun, concluded⟩ := orReply_runs connectRun
  obtain ⟨targetLeftover, rfl, rfl, rfl⟩ := concluded.returned
  obtain ⟨message, bytes, request_eq, -⟩ := readSocks4Request_returned readRun
  have host : request.host = (message.request []).host := by
    rw [request_eq]
    rfl
  have port : request.port = (message.request []).port := by
    rw [request_eq]
    rfl
  have ip : request.ip = (message.request []).ip := by
    rw [request_eq]
    rfl
  have isSocks4a : request.isSocks4a = (message.request []).isSocks4a := by
    rw [request_eq]
    rfl
  refine ⟨.socks4 message, reading, attempt, finishing, by rw [List.append_nil], ?_⟩
  refine ⟨trivial, readRun.only readSocks4Request_onClient, bytes, ?_, ⟨_, _, finishRun⟩, ?_⟩
  · rw [host, port, ip, isSocks4a] at attemptRun
    dsimp only
    rw [establishedBy_targetLeftover]
    exact ⟨_, _, attemptRun⟩
  · dsimp only
    rw [host, port, ip, isSocks4a, establishedBy_targetLeftover]
    rfl

theorem handleSocks5_returned
    (run : Runs (handleSocks5 localAddr rules) start events (.returned handed) stop) :
    ∃ message reading attempt finishing, events = reading ++ (attempt ++ finishing) ∧
      Anatomy crates localAddr rules [0x05] message reading attempt finishing handed := by
  obtain ⟨request, _, reading, _, readRun, rest, rfl⟩ := runs_bind_returned_iff.mp run
  obtain ⟨connection, connecting, finishing, _, rfl, connectRun, finishRun, rfl⟩ :=
    connectThenFinish_returned rest
  obtain ⟨attempt, result, _, after, rfl, attemptRun, shape⟩ := connectToTarget_runs connectRun
  obtain ⟨targetLeftover, rfl, rfl, rfl⟩ := shape.concluded.returned
  obtain ⟨message, bytes, rfl⟩ := readSocks5Request_returned readRun
  refine ⟨.socks5 message, reading, attempt, finishing, by rw [List.append_nil], ?_⟩
  refine ⟨trivial, readRun.only readSocks5Request_onClient, ?_, ?_, ⟨_, _, finishRun⟩, ?_⟩
  · rw [bytes]
    exact (List.append_nil _).symm
  · dsimp only
    rw [establishedBy_targetLeftover]
    exact ⟨_, _, attemptRun⟩
  · dsimp only
    rw [establishedBy_targetLeftover]
    rfl

/-- An HTTP head starts with the byte that was detected. -/
theorem head?_of_append {head leftover rest : Bytes} {firstByte : UInt8} (nonempty : head ≠ [])
    (bytes : [firstByte] ++ rest = head ++ leftover) : head.head? = some firstByte := by
  obtain ⟨first, tail, rfl⟩ := List.exists_cons_of_ne_nil nonempty
  rw [List.singleton_append, List.cons_append, List.cons.injEq] at bytes
  rw [List.head?_cons, bytes.1]

theorem readHttpRequest_returned {firstByte : UInt8} {request : HttpRequest} {leftover : Bytes}
    (notSocks4 : firstByte ≠ 0x04) (notSocks5 : firstByte ≠ 0x05)
    (run : Runs (readHttpRequest crates firstByte) start events (.returned (request, leftover))
      stop) :
    ∃ head, (ClientMessage.http head request).WellFormed crates ∧
      [firstByte] ++ received .client events = head ++ leftover := by
  obtain ⟨⟨head, rest⟩, _, headEvents, _, headRun, afterHead, rfl⟩ :=
    runs_bind_returned_iff.mp run
  obtain ⟨parsed, _, settled, _, settleRun, last, rfl⟩ := runs_bind_returned_iff.mp afterHead
  obtain ⟨rfl, -, ⟨_, accepted, same⟩ | ⟨_, _, impossible⟩⟩ := runs_settle_iff.mp settleRun
  · cases same
    obtain ⟨rfl, same, -⟩ := runs_ret_iff.mp last
    cases same
    have split := readHead_returned headRun
    have nonempty : head ≠ [] := by
      rintro rfl
      have ends := split.ends.ends
      rw [List.length_nil, List.take_zero] at ends
      exact absurd ends (by decide)
    have first := head?_of_append nonempty split.split
    refine ⟨head, ⟨split.head_isHeadEnd, accepted, ?_, ?_⟩, ?_⟩
    · rw [first]
      exact fun same => notSocks4 (Option.some.inj same)
    · rw [first]
      exact fun same => notSocks5 (Option.some.inj same)
    · rw [List.append_nil, List.append_nil]
      exact split.split
  · exact absurd impossible nofun

theorem handleHttp_returned {firstByte : UInt8} (notSocks4 : firstByte ≠ 0x04)
    (notSocks5 : firstByte ≠ 0x05)
    (run : Runs (handleHttp crates firstByte rules) start events (.returned handed) stop) :
    ∃ message reading attempt finishing, events = reading ++ (attempt ++ finishing) ∧
      Anatomy crates localAddr rules [firstByte] message reading attempt finishing handed := by
  obtain ⟨⟨request, leftover⟩, _, reading, _, readRun, rest, rfl⟩ := runs_bind_returned_iff.mp run
  obtain ⟨connection, connecting, finishing, _, rfl, connectRun, finishRun, rfl⟩ :=
    connectThenFinish_returned rest
  obtain ⟨attempt, result, _, after, rfl, attemptRun, concluded⟩ := orReply_runs connectRun
  obtain ⟨targetLeftover, rfl, rfl, rfl⟩ := concluded.returned
  obtain ⟨head, wellFormed, bytes⟩ := readHttpRequest_returned notSocks4 notSocks5 readRun
  refine ⟨.http head request, reading, attempt, finishing, by rw [List.append_nil], ?_⟩
  refine ⟨wellFormed, readRun.only (readHttpRequest_onClient crates firstByte), bytes, ?_,
    ⟨_, _, finishRun⟩, ?_⟩
  · dsimp only
    rw [establishedBy_targetLeftover]
    exact ⟨_, _, attemptRun⟩
  · dsimp only
    rw [establishedBy_targetLeftover]
    rfl

/-- A handshake that hands over has read one message and what follows it,
made one attempt, and answered. -/
theorem handleClient_returned
    (run : Runs (handleClient crates localAddr rules) start events (.returned handed) stop) :
    ∃ message reading attempt finishing, events = reading ++ (attempt ++ finishing) ∧
      Anatomy crates localAddr rules [] message reading attempt finishing handed := by
  obtain ⟨firstByte, _, detection, later, detectRun, rest, rfl⟩ := runs_bind_returned_iff.mp run
  have firstBytes : firstByte.toList = [byteAt 0 firstByte] := toList_eq_ofFn firstByte
  have detected := received_readExact detectRun
  have detectionOnClient := detectRun.only (readExact_onClient 1)
  have served : ∃ message reading attempt finishing, later = reading ++ (attempt ++ finishing) ∧
      Anatomy crates localAddr rules [byteAt 0 firstByte] message reading attempt finishing
        handed := by
    split at rest
    · next isSocks5 =>
        rw [isSocks5]
        exact handleSocks5_returned rest
    · next notSocks5 =>
        split at rest
        · next isSocks4 =>
            rw [isSocks4]
            exact handleSocks4_returned rest
        · next notSocks4 => exact handleHttp_returned notSocks4 notSocks5 rest
  obtain ⟨message, reading, attempt, finishing, rfl, anatomy⟩ := served
  refine ⟨message, detection ++ reading, attempt, finishing, (List.append_assoc _ _ _).symm, ?_⟩
  refine { anatomy with onClient := ?_, read := ?_ }
  · intro event member
    rcases List.mem_append.mp member with inDetection | inReading
    · exact detectionOnClient event inDetection
    · exact anatomy.onClient event inReading
  · rw [received_append, detected, firstBytes, List.nil_append]
    exact anatomy.read

/-- The deadline changes nothing about a handshake that hands over. -/
theorem handshake_returned
    (run : Runs (handshake crates localAddr rules) start events (.returned (some (.ok handed)))
      stop) : Runs (handleClient crates localAddr rules) start events (.returned handed) stop := by
  rcases runs_timeout run with
    ⟨value, inner, same⟩ | ⟨error, _, same⟩ | ⟨_, impossible⟩ | ⟨_, _, impossible⟩
  · cases same
    exact inner
  · exact absurd same nofun
  · exact absurd impossible nofun
  · exact absurd impossible nofun

end SimpleForwarder

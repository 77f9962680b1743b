import SimpleForwarder.DnsPolicy
import SimpleForwarder.HttpExchange
import SimpleForwarder.SentColumn
import SimpleForwarder.Socks5Exchange
import SimpleForwarder.Transparency

/-!
Contract: a forwarder whose upstream is another forwarder.

Owns: two sessions over one connection, the target of the one being the client
of the other, and what they are together (`Session.cascade_transparent`): the
second forwarder serves the request of the first one's client, and the two
relays carry the payloads from end to end.

The sessions are any two runs. All that is known of the connection between them
is that each side receives a front of what the other has written, and all of it
before the end of the stream.

Does not own: the connections at the two ends.
-/

namespace SimpleForwarder

open RustText IpText EffectProgram Program Framing

/-! ## What a run that returned has sent -/

section Sending

variable {α β : Type} {peer : Peer} {program : Async α} {rest : α → Async β}

/-- A run that returns has sent all that it began to write. -/
def SendsWrites (peer : Peer) (events : List SocketEvent) (outcome : Outcome Text α) : Prop :=
  ∀ value, outcome = .returned value → sent peer events = (writes peer events).flatten

theorem sent_of_writes_nil {events : List SocketEvent} (none : writes peer events = []) :
    sent peer events = [] := by
  refine List.flatMap_eq_nil_iff.mpr fun event member => ?_
  have unwritten := List.filterMap_eq_nil_iff.mp none event member
  unfold sentBy
  split
  · next sink bytes time =>
      refine if_neg fun same => ?_
      rw [writeOf, if_pos same] at unwritten
      exact absurd unwritten nofun
  · next sink bytes time failure =>
      refine if_neg fun same => ?_
      rw [writeOf, if_pos same] at unwritten
      exact absurd unwritten nofun
  · next sink bytes time progress =>
      refine if_neg fun same => ?_
      rw [writeOf, if_pos same] at unwritten
      exact absurd unwritten nofun
  · rfl

namespace SendsWrites

theorem fail (error : Text) : Ensures (.fail error : Async α) (SendsWrites peer) :=
  Ensures.fail nofun

theorem of_silent (silent : program.Only Op.IsSilent) : Ensures program (SendsWrites peer) := by
  refine (Ensures.of_only silent).imp fun events _ isSilent _ _ => ?_
  have none := @writes_eq_nil_of_isSilent peer _ isSilent
  rw [sent_of_writes_nil none, none, List.flatten_nil]

theorem writeAll (side : Peer) (bytes : Bytes) :
    Ensures (SimpleForwarder.writeAll side bytes) (SendsWrites peer) := by
  intro start events outcome stop run value returned
  rw [returned] at run
  rw [runs_writeAll_returned run, sent_singleton, sentBy, writes]
  by_cases same : side = peer
  · simp [writeOf, same]
  · simp [writeOf, same]

theorem bind (first : Ensures program (SendsWrites peer))
    (later : ∀ value, Ensures (rest value) (SendsWrites peer)) :
    Ensures (program.bind rest) (SendsWrites peer) := by
  refine Ensures.bind first ?_ (fun _ _ _ => nofun) (fun _ _ => nofun)
  intro value before sentBefore
  refine (later value).imp fun after outcome sentAfter last returned => ?_
  rw [sent_append, writes_append, List.flatten_append, sentBefore value rfl,
    sentAfter last returned]

/-- A deadline that has not passed changes nothing. -/
theorem withinHandshakeTimeout (sends : Ensures program (SendsWrites peer)) :
    Ensures (SimpleForwarder.withinHandshakeTimeout program) (SendsWrites peer) := by
  intro start events outcome stop run value returned
  rw [returned] at run
  obtain ⟨result, _, before, after, timed, rest, rfl⟩ := runs_bind_returned_iff.mp run
  match result with
  | some (.ok answer) =>
      obtain ⟨rfl, -, -⟩ := runs_ret_iff.mp rest
      rw [List.append_nil]
      rcases runs_timeout timed with
        ⟨answer, inner, -⟩ | ⟨_, _, impossible⟩ | ⟨_, impossible⟩ | ⟨_, _, impossible⟩
      · exact sends _ _ _ _ inner answer rfl
      · exact absurd impossible nofun
      · exact absurd impossible nofun
      · exact absurd impossible nofun
  | some (.error error) => exact absurd (runs_fail_iff.mp rest).2.1 nofun
  | none => exact absurd (runs_fail_iff.mp rest).2.1 nofun

end SendsWrites

theorem socks5Connect_sends (host : Text) (port : UInt16) (isSocks5h : Bool) :
    Ensures (socks5Connect host port isSocks5h) (SendsWrites peer) := by
  refine SendsWrites.bind (SendsWrites.writeAll _ _) fun _ => ?_
  refine SendsWrites.bind (SendsWrites.of_silent (only_performOr nofun)) fun response => ?_
  split
  · exact SendsWrites.fail _
  · split
    · exact SendsWrites.fail _
    · refine SendsWrites.bind (SendsWrites.of_silent only_settle) fun request => ?_
      refine SendsWrites.bind (SendsWrites.writeAll _ _) fun _ => SendsWrites.of_silent ?_
      refine readSocks5Response_isTargetRead.imp fun op reads => ?_
      obtain ⟨size, rfl⟩ := reads
      exact nofun

theorem httpConnect_sends (host : Text) (port : UInt16) :
    Ensures (httpConnect host port) (SendsWrites peer) := by
  refine SendsWrites.bind (SendsWrites.writeAll _ _) fun _ => SendsWrites.of_silent ?_
  have reads : (readHead .target connectResponseMaxLen connectResponseErrors []).Only
      Op.IsSilent := by
    refine (readHead_only []).imp fun op reads => ?_
    rw [reads]
    exact nofun
  exact reads.bind fun _ => only_settle.bind fun _ => only_ret _

theorem upstreamHandshake_sends (proxyType : ProxyType) (host : Text) (port : UInt16) :
    Ensures (upstreamHandshake proxyType host port) (SendsWrites peer) := by
  have finished : Ensures (.ret [] : Async Bytes) (SendsWrites peer) :=
    SendsWrites.of_silent (only_ret _)
  cases proxyType with
  | socks5 => exact SendsWrites.bind (socks5Connect_sends host port _) fun _ => finished
  | socks5h => exact SendsWrites.bind (socks5Connect_sends host port _) fun _ => finished
  | http => exact httpConnect_sends host port

theorem connect_sends (client : ProxyClient) (host : Text) (port : UInt16)
    (resolveHostname : Bool) :
    Ensures (client.connect host port resolveHostname) (SendsWrites peer) := by
  have connects : (connectProxy client.config.addr).Only Op.IsSilent := only_performOr nofun
  refine SendsWrites.bind (SendsWrites.of_silent (connects.timeout _)) fun result => ?_
  match result with
  | none => exact SendsWrites.fail _
  | some (.error error) => exact SendsWrites.fail _
  | some (.ok ()) =>
      refine SendsWrites.bind (SendsWrites.of_silent ?_) fun used =>
        SendsWrites.withinHandshakeTimeout (upstreamHandshake_sends _ used port)
      unfold finalHost
      split
      · have looks : ∀ query, (lookupHost query).Only Op.IsSilent := fun _ => only_performOr nofun
        refine ((looks _).timeout _).bind fun answer => ?_
        split
        · exact only_ret _
        · exact only_ret _
      · exact only_ret _

end Sending

/-! ## The request of a forwarder -/

section Request

variable {crates : Crates} {proxyType : ProxyType} {host : Text} {port : UInt16}

/-- The hosts that another forwarder understands as they are meant. What a
`socks5` upstream is sent is an address. -/
def IsForwardable : ProxyType → Text → Prop
  | .socks5, _ => True
  | .socks5h, host => IsSocks5Host host true
  | .http, host => (∀ char ∈ host, isWhitespace char = false) ∧ '[' ∉ host ∧ ']' ∉ host

/-- The text of an address is forwardable. -/
theorem isForwardable_toText (proxyType : ProxyType) (ip : IpAddr) :
    IsForwardable proxyType ip.toText := by
  cases proxyType with
  | socks5 => trivial
  | socks5h =>
      refine .inl ?_
      rw [parse_toText]
      exact nofun
  | http =>
      exact ⟨fun char => IpAddr.isWhitespace_of_mem_toText,
        fun member => bracket_not_mem_toText (.inl rfl) member,
        fun member => bracket_not_mem_toText (.inr rfl) member⟩

/-- The host that the other forwarder sees. -/
def seenHost (proxyType : ProxyType) (host : Text) : Text :=
  match proxyType, parse host with
  | .socks5, some ip | .socks5h, some ip => ip.toText
  | _, _ => host

/-- What a handshake answers before its success reply. -/
def ClientMessage.methodReply : ClientMessage → Bytes
  | .socks4 _ => []
  | .socks5 _ => [0x05, 0x00]
  | .http _ _ => []

/-- The message that another forwarder makes of a request for a host. -/
structure IsAsked (crates : Crates) (proxyType : ProxyType) (host : Text) (port : UInt16)
    (message : ClientMessage) : Prop where
  wellFormed : message.WellFormed crates
  tunnel : message.IsTunnel
  encoded : message.encode = (hostMessages proxyType host port).flatten
  sameHost : message.host = seenHost proxyType host
  samePort : message.port = port
  /-- Its success is the reply that the client of an upstream waits for. -/
  answered : ∀ localAddr reply, message.successReply localAddr = some reply →
    IsUpstreamReply (some proxyType) (message.methodReply ++ reply)

theorem isSocks5Reply_successReply (localAddr : Option SocketAddr) :
    IsSocks5Reply ([0x05, 0x00] ++ successReply localAddr) := by
  match localAddr with
  | none => exact .accepted 0x00 (.ipv4 [0, 0, 0, 0, 0, 0] rfl)
  | some ⟨.v4 addr, port⟩ => exact .accepted 0x00 (.ipv4 (addr.octets ++ toBeBytes port) rfl)
  | some ⟨.v6 addr, port⟩ =>
      refine .accepted 0x00 (.ipv6 (addr.octets ++ toBeBytes port) ?_)
      rw [List.length_append, addr.length_octets, length_toBeBytes]

theorem isAsked_socks5 (notHttp : proxyType ≠ .http)
    (isHost : IsSocks5Host host (!proxyType.shouldResolve)) :
    ∃ message, IsAsked crates proxyType host port message := by
  obtain ⟨addr, target, encodes⟩ := socks5Request_eq_ok isHost port
  have messages := hostMessages_of_ok notHttp encodes
  have request : (Socks5Message.mk [0x00] 0x00 addr port (by decide) (by decide)).request =
      socks5Target host port := target
  refine ⟨.socks5 ⟨[0x00], 0x00, addr, port, by decide, by decide⟩, trivial, trivial, ?_, ?_, ?_,
    ?_⟩
  · rw [messages]
    simp [ClientMessage.encode, Socks5Message.encode, Socks5Message.greeting, methodSelection]
  · rw [ClientMessage.host, request]
    unfold socks5Target seenHost
    cases proxyType with
    | http => exact absurd rfl notHttp
    | socks5 => cases parse host <;> rfl
    | socks5h => cases parse host <;> rfl
  · rw [ClientMessage.port, request]
    unfold socks5Target
    cases parse host <;> rfl
  · intro localAddr reply isReply
    cases isReply
    cases proxyType with
    | http => exact absurd rfl notHttp
    | socks5 => exact isSocks5Reply_successReply localAddr
    | socks5h => exact isSocks5Reply_successReply localAddr

/-- A forwardable host is asked for. For a `socks5` upstream it is an address. -/
theorem isAsked_of_isForwardable (forwardable : IsForwardable proxyType host)
    (addressed : proxyType = .socks5 → ∃ ip, parse host = some ip) :
    ∃ message, IsAsked crates proxyType host port message := by
  cases proxyType with
  | socks5 =>
      obtain ⟨ip, isIp⟩ := addressed rfl
      refine isAsked_socks5 nofun (.inl ?_)
      rw [isIp]
      exact nofun
  | socks5h => exact isAsked_socks5 nofun forwardable
  | http =>
      obtain ⟨solid, noOpening, noClosing⟩ := forwardable
      obtain ⟨request, parsed, target⟩ :=
        parseHttpRequest_connectRequest crates port solid noOpening noClosing
      have isConnect : request.target.isConnect = true := by rw [target]
      have first : (asBytes (connectRequest host port)).head? = some 0x43 := by
        rw [asBytes_connectRequest]
        rfl
      refine ⟨.http (asBytes (connectRequest host port)) request,
        ⟨isHeadEnd_connectRequest solid, parsed, ?_, ?_⟩, isConnect, ?_, ?_, ?_, ?_⟩
      · rw [first]
        decide
      · rw [first]
        decide
      · exact (List.append_nil _).symm
      · exact congrArg RequestTarget.host target
      · exact congrArg RequestTarget.port target
      · intro localAddr reply isReply
        have same : reply = connectionEstablished :=
          (Option.some.inj ((if_pos isConnect).symm.trans isReply)).symm
        rw [same]
        exact connectReply_isHeadEnd (.ok ⟨[], true, []⟩)

end Request

/-! ## What a handshake has written to its client -/

section Answered

variable {crates : Crates} {localAddr : Option SocketAddr}
  {rules : List (RuleMatcher × ProxyConfig)} {start stop : Nat} {events : List SocketEvent}
  {handed : HandshakeResult}

theorem sent_of_atMostOne {α : Type} {protocol : InboundProtocol} {value : α}
    (shape : AtMostOne (EndsWithFailure protocol) events (.returned value)) :
    sent .client events = [] := by
  rcases shape with none | ⟨bytes, ends, -⟩
  · exact sent_of_writes_nil none
  · exact absurd rfl (ends.2 value)

theorem negotiateMethod_sent {value : Unit}
    (run : Runs negotiateMethod start events (.returned value) stop) :
    sent .client events = [0x05, 0x00] := by
  obtain ⟨secondByte, _, countEvents, _, countRun, rest, rfl⟩ := runs_bind_returned_iff.mp run
  dsimp only at rest
  split at rest
  · exact absurd (runs_fail_iff.mp rest).2.1 nofun
  · obtain ⟨methods, _, methodEvents, _, methodsRun, afterMethods, rfl⟩ :=
      runs_bind_returned_iff.mp rest
    obtain ⟨_, _, writeEvents, _, writeRun, last, rfl⟩ := runs_bind_returned_iff.mp afterMethods
    split at last
    · exact absurd (runs_fail_iff.mp last).2.1 nofun
    · next selected =>
        obtain ⟨rfl, -, -⟩ := runs_ret_iff.mp last
        have offered : selectMethod methods.toList = 0x00 := if_pos (mem_of_selectMethod selected)
        rw [runs_readExact_returned countRun, runs_readExact_returned methodsRun, sent_append,
          sent_append, sent_append, sent_writeAll writeRun, offered]
        rfl

theorem readSocks5Request_sent {request : Socks5Request}
    (run : Runs readSocks5Request start events (.returned request) stop) :
    sent .client events = [0x05, 0x00] := by
  obtain ⟨_, _, greeting, target, greetingRun, targetRun, rfl⟩ := runs_bind_returned_iff.mp run
  rw [sent_append, negotiateMethod_sent greetingRun,
    sent_of_atMostOne (readSocks5Target_replies _ _ _ _ targetRun), List.append_nil]

/-- A connection that is established has written nothing to the client. -/
theorem connectToTarget_sent {host : Text} {port : UInt16} {resolveHostname isSocks : Bool}
    {ip : Option IpAddr} {connection : Connection}
    (run : Runs (connectToTarget host port resolveHostname ip isSocks rules) start events
      (.returned connection) stop) : sent .client events = [] := by
  obtain ⟨attempt, result, _, after, rfl, attemptRun, shape⟩ := connectToTarget_runs run
  have none := sent_eq_nil (attemptOutbound_ensures _ _ _ _ _ _ _ _ attemptRun).notClient
  cases shape with
  | established leftover => rw [List.append_nil, none]
  | replied _ _ _ _ _ _ ends =>
      rcases ends with impossible | impossible
      · exact absurd impossible nofun
      · exact absurd impossible nofun

theorem orReply_sent {host : Text} {port : UInt16} {resolveHostname : Bool} {ip : Option IpAddr}
    {reply : Bytes} {connection : Connection}
    (run : Runs (orReply (connectToTarget host port resolveHostname ip false rules) reply) start
      events (.returned connection) stop) : sent .client events = [] := by
  obtain ⟨attempt, result, _, after, rfl, attemptRun, shape⟩ := orReply_runs run
  obtain ⟨leftover, rfl, rfl, -⟩ := shape.returned
  rw [List.append_nil]
  exact sent_eq_nil (attemptOutbound_ensures _ _ _ _ _ _ _ _ attemptRun).notClient

/-- What a handshake that hands over has written to its client, by the protocol it
hands over. -/
def IsAnswer (localAddr : Option SocketAddr) : Protocol → Bytes → Prop
  | .socks4, bytes | .socks4a, bytes => bytes = socks4Reply 0x5A
  | .socks5, bytes | .socks5h, bytes => bytes = [0x05, 0x00] ++ successReply localAddr
  | .http, bytes => bytes = connectionEstablished ∨ bytes = []
  | .direct, _ => False

theorem handleSocks4_answer
    (run : Runs (handleSocks4 rules) start events (.returned handed) stop) :
    IsAnswer localAddr handed.protocol (sent .client events) := by
  obtain ⟨request, _, reading, _, readRun, rest, rfl⟩ := runs_bind_returned_iff.mp run
  obtain ⟨connection, connecting, finishing, _, rfl, connectRun, finishRun, rfl⟩ :=
    connectThenFinish_returned rest
  rw [sent_append, sent_append, sent_of_atMostOne (readSocks4Request_replies _ _ _ _ readRun),
    orReply_sent connectRun, sent_writeAll finishRun]
  dsimp only
  cases request.isSocks4a <;> rfl

theorem handleSocks5_answer
    (run : Runs (handleSocks5 localAddr rules) start events (.returned handed) stop) :
    IsAnswer localAddr handed.protocol (sent .client events) := by
  obtain ⟨request, _, reading, _, readRun, rest, rfl⟩ := runs_bind_returned_iff.mp run
  obtain ⟨connection, connecting, finishing, _, rfl, connectRun, finishRun, rfl⟩ :=
    connectThenFinish_returned rest
  rw [sent_append, sent_append, readSocks5Request_sent readRun, connectToTarget_sent connectRun,
    sent_writeAll finishRun]
  dsimp only
  cases request.resolveHostname <;> rfl

theorem handleHttp_answer {firstByte : UInt8}
    (run : Runs (handleHttp crates firstByte rules) start events (.returned handed) stop) :
    IsAnswer localAddr handed.protocol (sent .client events) := by
  obtain ⟨⟨request, leftover⟩, _, reading, _, readRun, rest, rfl⟩ := runs_bind_returned_iff.mp run
  obtain ⟨connection, connecting, finishing, _, rfl, connectRun, finishRun, rfl⟩ :=
    connectThenFinish_returned rest
  have silent := @writes_eq_nil_of_isSilent .client _
    (readRun.only (readHttpRequest_isSilent crates firstByte))
  rw [sent_append, sent_append, sent_of_writes_nil silent, orReply_sent connectRun]
  unfold answerHttpRequest at finishRun
  split at finishRun
  · exact .inl (sent_writeAll finishRun)
  · obtain ⟨_, _, first, second, firstRun, secondRun, rfl⟩ := runs_bind_returned_iff.mp finishRun
    rw [runs_writeAll_returned firstRun, runs_writeAll_returned secondRun]
    exact .inr rfl

theorem handleClient_answer
    (run : Runs (handleClient crates localAddr rules) start events (.returned handed) stop) :
    IsAnswer localAddr handed.protocol (sent .client events) := by
  obtain ⟨firstByte, _, detection, later, detectRun, rest, rfl⟩ := runs_bind_returned_iff.mp run
  rw [runs_readExact_returned detectRun, sent_append]
  show IsAnswer localAddr handed.protocol (sent .client later)
  split at rest
  · exact handleSocks5_answer rest
  · split at rest
    · exact handleSocks4_answer rest
    · exact handleHttp_answer rest

end Answered

/-! ## Sessions -/

namespace Session

variable {crates : Crates} {localAddr : Option SocketAddr}
  {rules : List (RuleMatcher × ProxyConfig)} {session : Session crates localAddr rules}
  {message : ClientMessage} {reading attempt finishing : List SocketEvent}
  {payload reply targetPayload : Bytes}

/-- Everything that has been written to a side since the connection to it was opened. -/
def writtenTo (session : Session crates localAddr rules) (peer : Peer) : Bytes :=
  sent peer session.handshakeEvents ++ session.relayed peer.other

/-- What a request forwards before the payload: the head of a regular request. -/
def forwardedHead (crates : Crates) : ClientMessage → Bytes
  | .socks4 _ => []
  | .socks5 _ => []
  | .http _ request =>
      if request.target.isConnect then []
      else rewrittenLine crates request ++ filterHopByHopHeaders request.headers

/-- The host that the upstream is asked for: that of the message, or the first
address with which a lookup was answered. -/
def AsksFor (session : Session crates localAddr rules) (message : ClientMessage) (host : Text) :
    Prop :=
  host = message.host ∨ ∃ addr others,
    (addr :: others) ∈ lookupAnswers session.handshakeEvents ∧ host = addr.ip.toText

/-- A tunnel has answered its client with its success. -/
theorem Parts.writtenTo_client
    (parts : session.Parts message reading attempt finishing payload reply targetPayload)
    (tunnel : message.IsTunnel) (sameProtocol : session.handed.protocol = message.protocol) :
    ∃ success, message.successReply localAddr = some success ∧
      session.writtenTo .client =
        message.methodReply ++ success ++ session.relayed .target := by
  have answer : IsAnswer localAddr session.handed.protocol
      (sent .client session.handshakeEvents) :=
    handleClient_answer (handshake_returned session.handshakeRun)
  rw [sameProtocol] at answer
  cases message with
  | socks4 message =>
      have sends : sent .client session.handshakeEvents = socks4Reply 0x5A := by
        by_cases marked : (message.request []).isSocks4a = true
        · rwa [show (ClientMessage.socks4 message).protocol = .socks4a from if_pos marked] at answer
        · rwa [show (ClientMessage.socks4 message).protocol = .socks4 from if_neg marked] at answer
      exact ⟨_, rfl, congrArg (· ++ session.relayed .target) sends⟩
  | socks5 message =>
      have sends : sent .client session.handshakeEvents =
          [0x05, 0x00] ++ successReply localAddr := by
        by_cases named : message.request.resolveHostname = true
        · rwa [show (ClientMessage.socks5 message).protocol = .socks5h from if_pos named] at answer
        · rwa [show (ClientMessage.socks5 message).protocol = .socks5 from if_neg named] at answer
      exact ⟨_, rfl, congrArg (· ++ session.relayed .target) sends⟩
  | http head request =>
      -- The success is the last thing written, so something has been written.
      obtain ⟨success, isReply, answers⟩ := ClientMessage.answer_of_isTunnel crates localAddr tunnel
      have established : success = connectionEstablished :=
        (Option.some.inj ((if_pos tunnel).symm.trans isReply)).symm
      obtain ⟨start, stop, answerRun⟩ := parts.answered
      rw [answers, established] at answerRun
      have sends : sent .client session.handshakeEvents = connectionEstablished := by
        refine answer.resolve_right fun none => ?_
        rw [parts.events, sent_append, sent_append, sent_writeAll answerRun,
          List.append_eq_nil_iff, List.append_eq_nil_iff] at none
        exact absurd none.2.2 (by decide)
      rw [established] at isReply
      exact ⟨_, isReply, congrArg (· ++ session.relayed .target) sends⟩

/-- The upstream has been sent a request, what the message forwards, and the
payload. -/
theorem Parts.writtenTo_target {proxy : ProxyConfig}
    (parts : session.Parts message reading attempt finishing payload reply targetPayload)
    (chosen : message.chosen rules = some proxy) :
    ∃ host, session.AsksFor message host ∧
      (proxy.proxyType = .socks5 → ∃ ip, parse host = some ip) ∧
      session.writtenTo .target = (hostMessages proxy.proxyType host message.port).flatten ++
        (forwardedHead crates message ++ session.relayed .client) := by
  obtain ⟨start, stop, attemptRun⟩ := parts.attempted
  rw [chosen] at attemptRun
  have messages := ProxyClient.connect_messages ⟨proxy⟩ message.host message.port
    message.resolveHostname _ _ _ _ attemptRun
  have sends := @connect_sends .target ⟨proxy⟩ message.host message.port
    message.resolveHostname _ _ _ _ attemptRun _ rfl
  have forwards : sent .target finishing = forwardedHead crates message := by
    cases message with
    | socks4 message => exact parts.sent_of_isTunnel trivial
    | socks5 message => exact parts.sent_of_isTunnel trivial
    | http head request =>
        by_cases tunnel : request.target.isConnect = true
        · exact (parts.sent_of_isTunnel tunnel).trans (if_pos tunnel).symm
        · have regular := Bool.eq_false_iff.mpr tunnel
          exact (parts.sent_of_regular regular).trans (if_neg tunnel).symm
  have unsent := sent_eq_nil fun event member => (parts.onClient event member).1
  refine ⟨usedHost message.host (lookupAnswers attempt), ?_,
    fun isSocks5 => messages.addressed isSocks5 _ rfl, ?_⟩
  · unfold usedHost
    split
    · next addr others answers =>
        refine .inr ⟨addr, others, ?_, rfl⟩
        rw [parts.events, lookupAnswers_append, lookupAnswers_append, answers]
        exact List.mem_append_right _ (List.mem_append_left _ (List.mem_singleton_self _))
    · exact .inl rfl
  · rw [writtenTo, parts.events, sent_append, sent_append, unsent, sends,
      messages.inOrder.whole _ rfl, forwards, List.nil_append, List.append_assoc]
    rfl

end Session

/-! ## Two forwarders -/

section Cascade

variable {crates farCrates : Crates} {localAddr farAddr : Option SocketAddr}
  {rules farRules : List (RuleMatcher × ProxyConfig)}

/-- The target of one session is the client of the other. -/
structure Joined (near : Session crates localAddr rules)
    (far : Session farCrates farAddr farRules) : Prop where
  toFar : far.stream .client <+: near.writtenTo .target
  toNear : near.stream .target <+: far.writtenTo .client
  /-- The end of a stream comes after all that was written. -/
  farEnd : far.ReachedEof .client → far.stream .client = near.writtenTo .target
  nearEnd : near.ReachedEof .target → near.stream .target = far.writtenTo .client

/-- What the two sessions do for a request of the first one's client and its
payload. -/
structure ServesThrough (near : Session crates localAddr rules)
    (far : Session farCrates farAddr farRules) (proxy : ProxyConfig) (message : ClientMessage)
    (payload : Bytes) (asked : ClientMessage) (targetPayload : Bytes) : Prop where
  /-- The second forwarder serves a tunnel to the target of the first one. -/
  host : ∃ host, near.AsksFor message host ∧ asked.host = seenHost proxy.proxyType host
  port : asked.port = message.port
  tunnel : asked.IsTunnel
  /-- What it relays to the target is what the first one forwards. -/
  toTarget : far.relayed .client <+: Session.forwardedHead crates message ++ payload
  wholeTarget : near.ReachedEof .client → far.ReachedEof .client →
    far.relayed .client = Session.forwardedHead crates message ++ payload
  /-- What the first one relays to its client is what the target sends to the second one. -/
  toClient : near.relayed .target <+: targetPayload
  wholeClient : far.ReachedEof .target → near.ReachedEof .target →
    near.relayed .target = targetPayload

/-- A front of a stream that is framed is framed alike. -/
theorem front_of_framed {Message : Type} {encode : Message → Bytes} {Valid : Message → Prop}
    (prefixFree : PrefixFree encode Valid) {front : Bytes} {message other : Message}
    {payload rest : Bytes} (framed : IsFramed encode Valid front message payload)
    (valid : Valid other) (isFront : front <+: encode other ++ rest) :
    message = other ∧ payload <+: rest ∧ (front = encode other ++ rest → payload = rest) := by
  obtain ⟨more, whole⟩ := isFront
  have longer := framed.append more
  have split : IsFramed encode Valid (front ++ more) other rest := ⟨valid, whole⟩
  have same := prefixFree.payload_unique longer split
  refine ⟨prefixFree.message_unique longer split, ⟨more, same⟩, fun all => ?_⟩
  exact prefixFree.payload_unique framed ⟨valid, all⟩

namespace Joined

variable {near : Session crates localAddr rules} {far : Session farCrates farAddr farRules}
  {proxy : ProxyConfig} {message asked : ClientMessage} {payload reply targetPayload : Bytes}
  {reading attempt finishing : List SocketEvent}

/-- The second forwarder has read the request of the first one, and as its payload a
front of what the first one forwards. -/
theorem request (joined : Joined near far)
    (parts : near.Parts message reading attempt finishing payload reply targetPayload)
    (chosen : message.chosen rules = some proxy)
    (forwardable : IsForwardable proxy.proxyType message.host) {askedPayload : Bytes}
    (framed : IsFramed ClientMessage.encode (ClientMessage.WellFormed farCrates)
      (far.stream .client) asked askedPayload) :
    (∃ host, near.AsksFor message host ∧
      IsAsked farCrates proxy.proxyType host message.port asked) ∧
    askedPayload <+: Session.forwardedHead crates message ++ near.relayed .client ∧
    (far.ReachedEof .client →
      askedPayload = Session.forwardedHead crates message ++ near.relayed .client) := by
  obtain ⟨host, asks, addressed, toTarget⟩ := parts.writtenTo_target chosen
  have hostForwardable : IsForwardable proxy.proxyType host := by
    rcases asks with rfl | ⟨addr, others, -, rfl⟩
    · exact forwardable
    · exact isForwardable_toText _ _
  obtain ⟨expected, isAsked⟩ :
      ∃ expected, IsAsked farCrates proxy.proxyType host message.port expected :=
    isAsked_of_isForwardable hostForwardable addressed
  rw [← isAsked.encoded] at toTarget
  have toFar := joined.toFar
  rw [toTarget] at toFar
  obtain ⟨rfl, front, whole⟩ := front_of_framed (ClientMessage.prefixFree farCrates) framed
    isAsked.wellFormed toFar
  exact ⟨⟨host, asks, isAsked⟩, front, fun ended => whole ((joined.farEnd ended).trans toTarget)⟩

/-- The first forwarder has read the answer of the second one, and as its payload a
front of what the second one relays. -/
theorem answer (joined : Joined near far)
    (parts : far.Parts asked reading attempt finishing payload reply targetPayload)
    (sameProtocol : far.handed.protocol = asked.protocol) {host : Text} {port : UInt16}
    (isAsked : IsAsked farCrates proxy.proxyType host port asked) {nearReply nearPayload : Bytes}
    (framed : IsFramed id (IsUpstreamReply (some proxy.proxyType)) (near.stream .target)
      nearReply nearPayload) :
    nearPayload <+: far.relayed .target ∧
      (near.ReachedEof .target → nearPayload = far.relayed .target) := by
  obtain ⟨success, isSuccess, toClient⟩ := parts.writtenTo_client isAsked.tunnel sameProtocol
  have toNear := joined.toNear
  rw [toClient] at toNear
  obtain ⟨-, front, whole⟩ := front_of_framed (isUpstreamReply_prefixFree _) framed
    (isAsked.answered farAddr success isSuccess) toNear
  exact ⟨front, fun ended => whole ((joined.nearEnd ended).trans toClient)⟩

end Joined

/-- Whatever the client's request, two forwarders are one to its payload, in every
state of both. -/
theorem Session.cascade_transparent {near : Session crates localAddr rules}
    {far : Session farCrates farAddr farRules} (joined : Joined near far)
    {message : ClientMessage} {payload : Bytes} {proxy : ProxyConfig}
    (framed : IsFramed ClientMessage.encode (ClientMessage.WellFormed crates)
      (near.stream .client) message payload)
    (chosen : message.chosen rules = some proxy)
    (forwardable : IsForwardable proxy.proxyType message.host) :
    ∃ asked askedPayload reply targetPayload,
      IsFramed ClientMessage.encode (ClientMessage.WellFormed farCrates) (far.stream .client)
        asked askedPayload ∧
      IsFramed id (IsUpstreamReply ((asked.chosen farRules).map ProxyConfig.proxyType))
        (far.stream .target) reply targetPayload ∧
      ServesThrough near far proxy message payload asked targetPayload := by
  obtain ⟨found, _, _, _, _, nearReply, nearPayload, nearParts⟩ := near.parts_exist
  obtain rfl := (ClientMessage.prefixFree crates).message_unique nearParts.fromClient framed
  obtain rfl := (ClientMessage.prefixFree crates).payload_unique nearParts.fromClient framed
  obtain ⟨asked, _, _, _, events, anatomy⟩ :=
    handleClient_returned (handshake_returned far.handshakeRun)
  obtain ⟨askedPayload, reply, targetPayload, farParts⟩ := Session.parts_of_anatomy events anatomy
  have sameProtocol := congrArg HandshakeResult.protocol anatomy.handed_eq
  obtain ⟨⟨host, asks, isAsked⟩, forwarded, forwardedAll⟩ :=
    joined.request nearParts chosen forwardable farParts.fromClient
  have nearTarget := nearParts.fromTarget
  rw [chosen] at nearTarget
  obtain ⟨returned, returnedAll⟩ := joined.answer farParts sameProtocol isAsked nearTarget
  refine ⟨asked, askedPayload, reply, targetPayload, farParts.fromClient, farParts.fromTarget,
    ⟨host, asks, isAsked.sameHost⟩, isAsked.samePort, isAsked.tunnel, ?_, ?_, ?_, ?_⟩
  · refine farParts.toTarget.beginning.trans (forwarded.trans ?_)
    exact (List.prefix_append_right_inj _).mpr nearParts.toTarget.beginning
  · intro nearEof farEof
    rw [farParts.toTarget.whole farEof, forwardedAll farEof, nearParts.toTarget.whole nearEof]
  · exact nearParts.toClient.beginning.trans (returned.trans farParts.toClient.beginning)
  · intro farEof nearEof
    rw [nearParts.toClient.whole nearEof, returnedAll nearEof, farParts.toClient.whole farEof]

/-! ## A request through two forwarders -/

/-- The request is `pipelinedRequest`; a byte of the target's has come all the way. -/
def nearScript : Script where
  client := pipelinedRequest
  target := connectionEstablished ++ [0x21]
  connects := .ok ()
  lookups := []

def nearHanded : HandshakeResult where
  host := "10.0.0.1".toList
  port := 80
  proxyDesc := "http://proxy:8118".toList
  isDirect := false
  protocol := .socks4
  leftover := [0x68, 0x69]
  targetLeftover := [0x21]

def farScript : Script where
  client := asBytes (connectRequest "10.0.0.1".toList 80) ++ [0x68, 0x69]
  target := []
  connects := .ok ()
  lookups := []

def farHanded : HandshakeResult where
  host := "10.0.0.1".toList
  port := 80
  proxyDesc := "direct".toList
  isDirect := true
  protocol := .http
  leftover := [0x68, 0x69]
  targetLeftover := []

def nearRelay : List ClockedEvent :=
  [.relay (.copy .client (.wrote 2)), .relay (.copy .target (.wrote 1))]

def farRelay : List ClockedEvent :=
  [.relay (.copy .client (.wrote 1)), .relay (.arrive .target [0x21]),
    .relay (.copy .target (.readChunk 1)), .relay (.copy .target (.wrote 1))]

theorem nearRelay_runs : (Machine.run ClockedRelay.step
    (.start nearHanded.leftover nearHanded.targetLeftover 0) nearRelay).isSome = true := rfl

theorem farRelay_runs : (Machine.run ClockedRelay.step
    (.start farHanded.leftover farHanded.targetLeftover 0) farRelay).isSome = true := rfl

def nearSession : Session referenceCrates none anyThroughHttp :=
  .ofScript nearScript nearHanded (by decide +kernel) nearRelay (Option.get _ nearRelay_runs)
    (Option.some_get nearRelay_runs).symm

def farSession : Session referenceCrates none [] :=
  .ofScript farScript farHanded (by decide +kernel) farRelay (Option.get _ farRelay_runs)
    (Option.some_get farRelay_runs).symm

def pipelinedMessage : ClientMessage :=
  .socks4 ⟨80, ⟨10, 0, 0, 1⟩, [], [], List.not_mem_nil, List.not_mem_nil, fun _ => rfl⟩

theorem nearSession_joined : Joined nearSession farSession where
  toFar := by decide +kernel
  toNear := by decide +kernel
  farEnd := by
    have goesOn : (farSession.reached.relay.copies.get .client).phase ≠ .finished (.ok ()) := by
      decide +kernel
    exact fun ended => absurd ended goesOn
  nearEnd := by
    have goesOn : (nearSession.reached.relay.copies.get .target).phase ≠ .finished (.ok ()) := by
      decide +kernel
    exact fun ended => absurd ended goesOn

theorem Session.cascade_transparent_pipelined :
    farSession.relayed .client = [0x68] ∧ nearSession.relayed .target = [0x21] ∧
      ∃ asked askedPayload reply targetPayload,
        IsFramed ClientMessage.encode (ClientMessage.WellFormed referenceCrates)
          (farSession.stream .client) asked askedPayload ∧
        IsFramed id (IsUpstreamReply ((asked.chosen []).map ProxyConfig.proxyType))
          (farSession.stream .target) reply targetPayload ∧
        ServesThrough nearSession farSession ⟨.http, "proxy:8118".toList⟩ pipelinedMessage
          [0x68, 0x69] asked targetPayload :=
  ⟨rfl, rfl, Session.cascade_transparent nearSession_joined ⟨trivial, by decide +kernel⟩
    (by decide +kernel) (isForwardable_toText .http (.v4 ⟨10, 0, 0, 1⟩))⟩

end Cascade

end SimpleForwarder

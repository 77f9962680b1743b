import SimpleForwarder.ProxyServer.Handshake
import SimpleForwarder.Relay.Select

/-!
Contract: a served connection (`handle_connection`): a handshake that hands
over, and its relay.

Owns: the run of such a connection up to any point of its relay, what the two
sides have sent in it, what it has relayed, and how its handshake and its
relay fit together (`Session.parts_exist`).

Does not own: connections whose handshake fails; they are never relayed.
-/

namespace SimpleForwarder

open RustText EffectProgram Framing

/-- A run of `handle_connection` that has handed over, up to some point of its
relay. -/
structure Session (crates : Crates) (localAddr : Option SocketAddr)
    (rules : List (RuleMatcher × ProxyConfig)) where
  start : Nat
  handedAt : Nat
  handshakeEvents : List SocketEvent
  handed : HandshakeResult
  handshakeRun : Runs (handshake crates localAddr rules) start handshakeEvents
    (.returned (some (.ok handed))) handedAt
  relayEvents : List ClockedEvent
  reached : ClockedRelay
  relayRun : Machine.run ClockedRelay.step
    (.start handed.leftover handed.targetLeftover handedAt) relayEvents = some reached

namespace Session

variable {crates : Crates} {localAddr : Option SocketAddr}
  {rules : List (RuleMatcher × ProxyConfig)}

/-- The session of a script whose operations are all answered at once. -/
def ofScript (script : Script) (handed : HandshakeResult)
    (returns : (exec Script.answer 0 (handshake crates localAddr rules) script).2 =
      .returned (some (.ok handed)))
    (relayEvents : List ClockedEvent) (reached : ClockedRelay)
    (relayRun : Machine.run ClockedRelay.step
      (.start handed.leftover handed.targetLeftover 0) relayEvents = some reached) :
    Session crates localAddr rules where
  start := 0
  handedAt := 0
  handshakeEvents := (exec Script.answer 0 (handshake crates localAddr rules) script).1
  handed := handed
  handshakeRun := by
    rw [← returns]
    exact runs_exec Script.answer 0 _ _
  relayEvents := relayEvents
  reached := reached
  relayRun := relayRun

/-- Everything a side has sent since the connection to it was opened. -/
def stream (session : Session crates localAddr rules) (peer : Peer) : Bytes :=
  received peer session.handshakeEvents ++ (session.reached.relay.inbound.get peer).arrived

/-- What the relay has written to the side opposite to `source`. -/
def relayed (session : Session crates localAddr rules) (source : Peer) : Bytes :=
  (session.reached.relay.copies.get source).written

/-- The loop that reads from `source` is done: it has seen the end of that
stream. -/
def ReachedEof (session : Session crates localAddr rules) (source : Peer) : Prop :=
  (session.reached.relay.copies.get source).phase = .finished (.ok ())

/-- The relay carries `payload` from `source` to the other side: at all times
a prefix of it, and all of it once the end of the stream has been seen. -/
structure Carries (session : Session crates localAddr rules) (source : Peer) (payload : Bytes) :
    Prop where
  beginning : session.relayed source <+: payload
  whole : session.ReachedEof source → session.relayed source = payload

/-- How a session is put together. The client's stream is its request message
and a payload, the target's stream is the upstream's reply and a payload, and
the relay carries the two payloads. -/
structure Parts (session : Session crates localAddr rules) (message : ClientMessage)
    (reading attempt finishing : List SocketEvent) (payload reply targetPayload : Bytes) :
    Prop where
  events : session.handshakeEvents = reading ++ (attempt ++ finishing)
  onClient : ∀ event ∈ reading, event.op.OnClient
  attempted : ∃ start stop, Runs (attemptOutbound message.host message.port
    message.resolveHostname (message.chosen rules)) start attempt
    (.returned session.handed.targetLeftover) stop
  answered : ∃ start stop,
    Runs (message.answer crates localAddr) start finishing (.returned ()) stop
  fromClient : IsFramed ClientMessage.encode (ClientMessage.WellFormed crates)
    (session.stream .client) message payload
  fromTarget : IsFramed id (IsUpstreamReply ((message.chosen rules).map ProxyConfig.proxyType))
    (session.stream .target) reply targetPayload
  toTarget : session.Carries .client payload
  toClient : session.Carries .target targetPayload

theorem carries_of_flows {session : Session crates localAddr rules} {source : Peer}
    {leftover : Bytes} (flows : Flows leftover (session.reached.relay.inbound.get source)
      (session.reached.relay.copies.get source)) :
    session.Carries source
      (leftover ++ (session.reached.relay.inbound.get source).arrived) where
  beginning := flows.written_prefix
  whole := fun ended => (flows.written_eq ended).1

/-- The parts of the handshake of a session are the parts of the session. -/
theorem parts_of_anatomy {session : Session crates localAddr rules} {message : ClientMessage}
    {reading attempt finishing : List SocketEvent}
    (events : session.handshakeEvents = reading ++ (attempt ++ finishing))
    (anatomy : Anatomy crates localAddr rules [] message reading attempt finishing
      session.handed) :
    ∃ payload reply targetPayload,
      session.Parts message reading attempt finishing payload reply targetPayload := by
  have flows := relay_flows session.relayRun
  obtain ⟨attemptStart, attemptStop, attemptRun⟩ := anatomy.attempted
  obtain ⟨answerStart, answerStop, answerRun⟩ := anatomy.answered
  obtain ⟨reply, isReply, targetBytes⟩ := attemptOutbound_returned attemptRun
  have isAttempt := attemptOutbound_ensures _ _ _ _ _ _ _ _ attemptRun
  have answerWrites := answerRun.only (message.answer_isWrite crates localAddr)
  have clientBytes : received .client session.handshakeEvents =
      message.encode ++ session.handed.leftover := by
    rw [events, received_append, received_append, received_eq_nil isAttempt.notClient,
      received_eq_nil_of_isWrite answerWrites, List.append_nil, List.append_nil]
    exact anatomy.read
  have upstreamBytes : received .target session.handshakeEvents =
      reply ++ session.handed.targetLeftover := by
    rw [events, received_append, received_append,
      received_eq_nil fun event member => (anatomy.onClient event member).1,
      received_eq_nil_of_isWrite answerWrites, List.append_nil, List.nil_append]
    exact targetBytes
  have fromClient : IsFramed ClientMessage.encode (ClientMessage.WellFormed crates)
      (received .client session.handshakeEvents) message session.handed.leftover :=
    ⟨anatomy.wellFormed, clientBytes⟩
  have fromTarget : IsFramed id
      (IsUpstreamReply ((message.chosen rules).map ProxyConfig.proxyType))
      (received .target session.handshakeEvents) reply session.handed.targetLeftover :=
    ⟨isReply, upstreamBytes⟩
  exact ⟨_, reply, _, events, anatomy.onClient, anatomy.attempted, anatomy.answered,
    fromClient.append _, fromTarget.append _, carries_of_flows (flows .client),
    carries_of_flows (flows .target)⟩

/-- What is handed over names the host and the port of the request. -/
theorem parts_of_handed (session : Session crates localAddr rules) :
    ∃ message reading attempt finishing payload reply targetPayload,
      session.Parts message reading attempt finishing payload reply targetPayload ∧
      session.handed.host = message.host ∧ session.handed.port = message.port := by
  obtain ⟨message, reading, attempt, finishing, events, anatomy⟩ :=
    handleClient_returned (handshake_returned session.handshakeRun)
  obtain ⟨payload, reply, targetPayload, parts⟩ := parts_of_anatomy events anatomy
  exact ⟨message, reading, attempt, finishing, payload, reply, targetPayload, parts,
    congrArg HandshakeResult.host anatomy.handed_eq,
    congrArg HandshakeResult.port anatomy.handed_eq⟩

theorem parts_exist (session : Session crates localAddr rules) :
    ∃ message reading attempt finishing payload reply targetPayload,
      session.Parts message reading attempt finishing payload reply targetPayload := by
  obtain ⟨message, reading, attempt, finishing, payload, reply, targetPayload, parts, -⟩ :=
    session.parts_of_handed
  exact ⟨message, reading, attempt, finishing, payload, reply, targetPayload, parts⟩

end Session

end SimpleForwarder

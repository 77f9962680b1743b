import SimpleForwarder.ReferenceCrates
import SimpleForwarder.Session

/-!
Contract: tunnels are transparent.

Owns: the transparency law of a served tunnel (`Session.tunnel_transparent`):
its two payloads are determined by the two streams, the relay carries exactly
them, and the handshake itself writes nothing else.

The law holds in every state of the relay, whatever the cut of the streams
into reads was: the streams are the only thing it mentions.

Does not own: regular HTTP requests, whose head is forwarded rewritten.
-/

namespace SimpleForwarder

open RustText EffectProgram Framing

/-- A direct attempt writes nothing. -/
theorem attemptOutbound_direct_sent {host : Text} {port : UInt16} {resolveHostname : Bool}
    {start stop : Nat} {events : List SocketEvent} {outcome : Outcome Text Bytes} {peer : Peer}
    (run : Runs (attemptOutbound host port resolveHostname none) start events outcome stop) :
    sent peer events = [] := by
  have connects : (connectDirect host port).Only (· = .connectDirect host port) :=
    Program.only_performOr rfl
  have only : (attemptOutbound host port resolveHostname none).Only
      (· = .connectDirect host port) :=
    (connects.timeout connectTimeout).bind fun _ => Program.only_settle
  apply sent_eq_nil
  intro event member
  rw [run.only only event member]
  exact nofun

variable {crates : Crates} {localAddr : Option SocketAddr}
  {rules : List (RuleMatcher × ProxyConfig)}

/-- What the handshake of a tunnel writes: nothing to the target outside the
attempt, and nothing to the client after the success reply. -/
structure Session.TunnelHandshake (session : Session crates localAddr rules)
    (message : ClientMessage) : Prop where
  written : ∃ reading attempt time successReply,
    session.handshakeEvents =
      reading ++ (attempt ++ [⟨.writeAll .client successReply, time, .ready (.ok ())⟩]) ∧
    message.successReply localAddr = some successReply ∧
    sent .target reading = [] ∧
    IsAttempt (outboundOf message.host message.port (message.chosen rules)) attempt ∧
    (message.chosen rules = none → sent .target attempt = [])

theorem Session.Parts.tunnelHandshake {session : Session crates localAddr rules}
    {message : ClientMessage} {reading attempt finishing : List SocketEvent}
    {payload reply targetPayload : Bytes}
    (parts : session.Parts message reading attempt finishing payload reply targetPayload)
    (tunnel : message.IsTunnel) : session.TunnelHandshake message := by
  obtain ⟨successReply, isReply, answer⟩ :=
    ClientMessage.answer_of_isTunnel crates localAddr tunnel
  obtain ⟨answerStart, answerStop, answerRun⟩ := parts.answered
  rw [answer] at answerRun
  obtain ⟨attemptStart, attemptStop, attemptRun⟩ := parts.attempted
  refine ⟨reading, attempt, answerStop, successReply, ?_, isReply, ?_, ?_, ?_⟩
  · rw [parts.events, runs_writeAll_returned answerRun]
  · exact sent_eq_nil fun event member => (parts.onClient event member).1
  · exact attemptOutbound_ensures _ _ _ _ _ _ _ _ attemptRun
  · intro direct
    rw [direct] at attemptRun
    exact attemptOutbound_direct_sent attemptRun

/-- The client's stream determines a request message and a payload, the
target's stream a reply of the upstream and a payload, and the relay carries
exactly the two payloads: a prefix at all times, everything once a stream has
ended. -/
theorem Session.tunnel_transparent (session : Session crates localAddr rules) :
    ∃ message payload reply targetPayload,
      IsFramed ClientMessage.encode (ClientMessage.WellFormed crates) (session.stream .client)
        message payload ∧
      (∀ other otherPayload, IsFramed ClientMessage.encode (ClientMessage.WellFormed crates)
        (session.stream .client) other otherPayload → other = message ∧ otherPayload = payload) ∧
      IsFramed id (IsUpstreamReply ((message.chosen rules).map ProxyConfig.proxyType))
        (session.stream .target) reply targetPayload ∧
      (∀ other otherPayload,
        IsFramed id (IsUpstreamReply ((message.chosen rules).map ProxyConfig.proxyType))
          (session.stream .target) other otherPayload →
        other = reply ∧ otherPayload = targetPayload) ∧
      session.Carries .client payload ∧ session.Carries .target targetPayload ∧
      (message.IsTunnel → session.TunnelHandshake message) := by
  obtain ⟨message, reading, attempt, finishing, payload, reply, targetPayload, parts⟩ :=
    session.parts_exist
  have fromClient := parts.fromClient
  have fromTarget := parts.fromTarget
  have messages := ClientMessage.prefixFree crates
  have replies := isUpstreamReply_prefixFree ((message.chosen rules).map ProxyConfig.proxyType)
  refine ⟨message, payload, reply, targetPayload, fromClient, ?_, fromTarget, ?_,
    parts.toTarget, parts.toClient, parts.tunnelHandshake⟩
  · intro other otherPayload framed
    exact ⟨messages.message_unique framed fromClient, messages.payload_unique framed fromClient⟩
  · intro other otherPayload framed
    exact ⟨replies.message_unique framed fromTarget, replies.payload_unique framed fromTarget⟩

/-! ## A pipelined request -/

/-- A SOCKS4 request to `10.0.0.1:80`, and two bytes of payload in the same
read. -/
def pipelinedRequest : Bytes := [0x04, 0x01, 0x00, 0x50, 10, 0, 0, 1, 0x00] ++ [0x68, 0x69]

theorem pipelinedRequest_handed :
    (exec Script.answer 0 (handshake referenceCrates none [])
      ⟨pipelinedRequest, [], .ok (), []⟩).2 = .returned (some (.ok
        ⟨"10.0.0.1".toList, 80, "direct".toList, true, .socks4, [0x68, 0x69], []⟩)) := by
  decide +kernel

/-- The session it opens, once the relay has written the two bytes. -/
def pipelinedSession : Session referenceCrates none [] :=
  .ofScript ⟨pipelinedRequest, [], .ok (), []⟩
    ⟨"10.0.0.1".toList, 80, "direct".toList, true, .socks4, [0x68, 0x69], []⟩
    pipelinedRequest_handed
    [.relay (.copy .client (.wrote 2))]
    ⟨0, {
      inbound := ⟨.empty, .empty⟩
      copies := ⟨⟨.countingStats 2, [0x68, 0x69], 0, 0⟩, ⟨.reading 0, [], 0, 0⟩⟩
      linger := none
      ending := none
    }⟩
    (by decide +kernel)

/-- The payload of the pipelined session is the two bytes. -/
theorem Session.tunnel_transparent_pipelined :
    pipelinedSession.Carries .client [0x68, 0x69] ∧
      pipelinedSession.relayed .client = [0x68, 0x69] := by
  obtain ⟨message, payload, -, -, framed, unique, -, -, carries, -⟩ :=
    pipelinedSession.tunnel_transparent
  have asSocks4 : IsFramed ClientMessage.encode (ClientMessage.WellFormed referenceCrates)
      (pipelinedSession.stream .client)
      (.socks4 ⟨80, ⟨10, 0, 0, 1⟩, [], [], List.not_mem_nil, List.not_mem_nil, fun _ => rfl⟩)
      [0x68, 0x69] :=
    ⟨trivial, by decide +kernel⟩
  rw [← (unique _ _ asSocks4).2] at carries
  exact ⟨carries, rfl⟩

end SimpleForwarder

import SimpleForwarder.PersistentConnections
import SimpleForwarder.Relay.Counting
import SimpleForwarder.Transparency

/-!
Contract: what the counter of sent bytes stands for.

Owns: what a connection's `bytes_sent` is when its client's stream has been
relayed to its end (`Session.sent_column_iff`), and the requests whose head it
leaves out (`forwarded_head_is_not_counted`).

The relay counts what it writes. The head of a regular request is written to
the target before the relay begins, and nothing counts it.

Does not own: the counters that connections share.
-/

namespace SimpleForwarder

open RustText EffectProgram Framing

variable {crates : Crates} {localAddr : Option SocketAddr}
  {rules : List (RuleMatcher × ProxyConfig)}

/-- What the counter of sent bytes holds, which only the client's loop adds to. -/
def Session.bytesSent (session : Session crates localAddr rules) : UInt64 :=
  UInt64.ofNat session.reached.relay.copies.client.bytesCount

/-- All that was written to the established target connection for the client:
after the attempt by the handshake, and then by the relay. -/
def Session.forwarded (session : Session crates localAddr rules)
    (finishing : List SocketEvent) : Bytes :=
  sent .target finishing ++ session.relayed .client

theorem Session.bytesSent_eq {session : Session crates localAddr rules}
    (ended : session.ReachedEof .client) :
    session.bytesSent.toNat = (session.relayed .client).length % 2 ^ 64 := by
  have counted : session.reached.relay.copies.client.Counted :=
    relay_counted session.relayRun .client
  have eof : session.reached.relay.copies.client.phase = .finished (.ok ()) := ended
  unfold Session.bytesSent
  rw [UInt64.toNat_ofNat', counted.eq_written eof]
  rfl

/-- The filtered headers end with an empty line, so a forwarded head is never
empty. -/
theorem forwardedHead_ne_nil (request : HttpRequest) :
    rewrittenLine crates request ++ filterHopByHopHeaders request.headers ≠ [] := by
  unfold filterHopByHopHeaders
  simp [crlf]

namespace Session.Parts

variable {session : Session crates localAddr rules} {message : ClientMessage}
  {reading attempt finishing : List SocketEvent} {payload reply targetPayload : Bytes}

/-- Nothing but the payload is forwarded into a tunnel. -/
theorem sent_of_isTunnel
    (parts : session.Parts message reading attempt finishing payload reply targetPayload)
    (tunnel : message.IsTunnel) : sent .target finishing = [] := by
  obtain ⟨successReply, -, answer⟩ := ClientMessage.answer_of_isTunnel crates localAddr tunnel
  obtain ⟨start, stop, answerRun⟩ := parts.answered
  rw [answer] at answerRun
  rw [runs_writeAll_returned answerRun]
  rfl

/-- The head of a regular request is forwarded before its payload. -/
theorem sent_of_regular {head : Bytes} {request : HttpRequest}
    (parts : session.Parts (.http head request) reading attempt finishing payload reply
      targetPayload) (regular : request.target.isConnect = false) :
    sent .target finishing =
      rewrittenLine crates request ++ filterHopByHopHeaders request.headers := by
  obtain ⟨start, stop, answerRun⟩ := parts.answered
  exact (answerHttpRequest_sent regular answerRun).2

/-- Something is forwarded outside the relay exactly for regular requests. -/
theorem sent_eq_nil_iff
    (parts : session.Parts message reading attempt finishing payload reply targetPayload) :
    sent .target finishing = [] ↔ message.IsTunnel := by
  refine ⟨?_, parts.sent_of_isTunnel⟩
  intro nothing
  cases message with
  | socks4 message => trivial
  | socks5 message => trivial
  | http head request =>
      by_contra notTunnel
      have regular : request.target.isConnect = false := Bool.eq_false_iff.mpr notTunnel
      rw [parts.sent_of_regular regular] at nothing
      exact forwardedHead_ne_nil request nothing

end Session.Parts

/-- When the client's stream has been relayed to its end, the counter holds the
number of bytes that were written to the established target connection for the
client exactly if the connection is a tunnel and they are fewer than 2^64. What
was written is the payload for a tunnel, and the rewritten request line, the
filtered headers and the payload for a regular request. -/
theorem Session.sent_column_iff {session : Session crates localAddr rules}
    (ended : session.ReachedEof .client) :
    (∃ message reading attempt finishing payload reply targetPayload,
      session.Parts message reading attempt finishing payload reply targetPayload) ∧
    ∀ message reading attempt finishing payload reply targetPayload,
      session.Parts message reading attempt finishing payload reply targetPayload →
      (message.IsTunnel → session.forwarded finishing = payload) ∧
      (∀ head request, message = .http head request → request.target.isConnect = false →
        session.forwarded finishing =
          rewrittenLine crates request ++ filterHopByHopHeaders request.headers ++ payload) ∧
      (session.bytesSent.toNat = (session.forwarded finishing).length ↔
        message.IsTunnel ∧ payload.length < 2 ^ 64) := by
  refine ⟨session.parts_exist, ?_⟩
  intro message reading attempt finishing payload reply targetPayload parts
  have relayed : session.relayed .client = payload := parts.toTarget.whole ended
  refine ⟨?_, ?_, ?_⟩
  · intro tunnel
    rw [Session.forwarded, parts.sent_of_isTunnel tunnel, relayed, List.nil_append]
  · rintro head request rfl regular
    rw [Session.forwarded, parts.sent_of_regular regular, relayed]
  · rw [Session.bytesSent_eq ended, Session.forwarded, relayed, List.length_append,
      ← parts.sent_eq_nil_iff, ← List.length_eq_zero_iff]
    constructor
    · intro counted
      have wraps := Nat.mod_le payload.length (2 ^ 64)
      have bound := Nat.mod_lt payload.length (show 0 < 2 ^ 64 by decide)
      omega
    · rintro ⟨nothing, few⟩
      rw [nothing, Nat.mod_eq_of_lt few, Nat.zero_add]

/-- The pipelined session, once the client has closed its side. -/
def pipelinedToEof : Session referenceCrates none [] :=
  .ofScript ⟨pipelinedRequest, [], .ok (), []⟩
    ⟨"10.0.0.1".toList, 80, "direct".toList, true, .socks4, [0x68, 0x69], []⟩
    pipelinedRequest_handed
    [.relay (.copy .client (.wrote 2)), .relay (.copy .client .countStats),
      .relay (.copy .client .countBytes), .relay (.close .client),
      .relay (.copy .client .readEof), .relay (.copy .client .shutdownDone)]
    ⟨0, {
      inbound := ⟨⟨[], true, [], none⟩, .empty⟩
      copies := ⟨⟨.finished (.ok ()), [0x68, 0x69], 2, 2⟩, ⟨.reading 0, [], 0, 0⟩⟩
      linger := some 15000
      ending := none
    }⟩
    (by decide +kernel)

/-- The counter holds the two bytes of the pipelined payload. -/
theorem Session.sent_column_iff_pipelined :
    ∃ message reading attempt finishing payload reply targetPayload,
      pipelinedToEof.Parts message reading attempt finishing payload reply targetPayload ∧
      (pipelinedToEof.bytesSent.toNat = (pipelinedToEof.forwarded finishing).length ↔
        message.IsTunnel ∧ payload.length < 2 ^ 64) := by
  obtain ⟨⟨message, reading, attempt, finishing, payload, reply, targetPayload, parts⟩, counted⟩ :=
    Session.sent_column_iff (show pipelinedToEof.ReachedEof .client from rfl)
  exact ⟨message, reading, attempt, finishing, payload, reply, targetPayload, parts,
    (counted _ _ _ _ _ _ _ parts).2.2⟩

/-- A regular request without a body, once the client has closed its side. -/
def headToEof : Session referenceCrates none [] :=
  .ofScript ⟨firstHead, [], .ok (), []⟩
    ⟨"a.example".toList, 80, "direct".toList, true, .http, [], []⟩ (by decide +kernel)
    [.relay (.close .client), .relay (.copy .client .readEof),
      .relay (.copy .client .shutdownDone)]
    ⟨0, {
      inbound := ⟨⟨[], true, [], none⟩, .empty⟩
      copies := ⟨⟨.finished (.ok ()), [], 0, 0⟩, ⟨.reading 0, [], 0, 0⟩⟩
      linger := some 15000
      ending := none
    }⟩
    (by decide +kernel)

/-- The head of a regular request is forwarded and not counted. -/
theorem forwarded_head_is_not_counted :
    ¬ ∀ (session : Session referenceCrates none []), session.ReachedEof .client →
      ∀ message reading attempt finishing payload reply targetPayload,
        session.Parts message reading attempt finishing payload reply targetPayload →
        session.bytesSent.toNat = (session.forwarded finishing).length := by
  intro claimed
  obtain ⟨message, reading, attempt, finishing, payload, reply, targetPayload, parts⟩ :=
    headToEof.parts_exist
  have counted := claimed headToEof rfl _ _ _ _ _ _ _ parts
  have nothingCounted : headToEof.bytesSent.toNat = 0 := rfl
  have starts : IsFramed ClientMessage.encode (ClientMessage.WellFormed referenceCrates)
      (headToEof.stream .client) (.http firstHead firstRequest) [] :=
    ⟨wellFormed_http (by decide +kernel) (by decide +kernel) (by decide +kernel),
      by decide +kernel⟩
  have isFirst := (ClientMessage.prefixFree referenceCrates).message_unique parts.fromClient starts
  subst isFirst
  have noTunnel : ¬ firstRequest.target.isConnect = true := by decide +kernel
  rw [nothingCounted, Session.forwarded, List.length_append] at counted
  apply noTunnel
  change (ClientMessage.http firstHead firstRequest).IsTunnel
  rw [← parts.sent_eq_nil_iff, ← List.length_eq_zero_iff]
  omega

end SimpleForwarder

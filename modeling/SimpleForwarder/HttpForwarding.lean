import SimpleForwarder.ReferenceCrates
import SimpleForwarder.Session

/-!
Contract: regular requests of the HTTP proxy.

Owns: how a regular request is forwarded (`Session.forwards`), and when the
forwarded head announces the body framing of the received one
(`Session.forwarded_framing_iff`).

Only the first head of a client connection is read as a request. Its body and
every later request are payload of the relay.

Does not own: the parsing of a head, and what its URI denotes.
-/

namespace SimpleForwarder

open RustText EffectProgram Framing

variable {crates : Crates} {localAddr : Option SocketAddr}
  {rules : List (RuleMatcher × ProxyConfig)}

/-- The client's stream starts with a regular request. -/
structure Session.StartsWith (session : Session crates localAddr rules) (head : Bytes)
    (request : HttpRequest) (payload : Bytes) : Prop where
  framed : IsFramed ClientMessage.encode (ClientMessage.WellFormed crates)
    (session.stream .client) (.http head request) payload
  regular : request.target.isConnect = false

/-- How a regular request is served: one attempt, to the connection its own
target selects; then the rewritten line and the filtered headers are written to
it; and the relay carries the rest of the client's stream. -/
structure Session.Forwards (session : Session crates localAddr rules) (request : HttpRequest)
    (payload : Bytes) : Prop where
  written : ∃ reading attempt finishing,
    session.handshakeEvents = reading ++ (attempt ++ finishing) ∧
    (∀ event ∈ reading, event.op.OnClient) ∧
    IsAttempt (outboundOf request.target.host request.target.port
      (chosenProxy rules request.target.host none)) attempt ∧
    attempts finishing = [] ∧
    sent .target finishing =
      rewrittenLine crates request ++ filterHopByHopHeaders request.headers
  carries : session.Carries .client payload

theorem answerHttpRequest_sent {request : HttpRequest} (regular : request.target.isConnect = false)
    {start stop : Nat} {events : List SocketEvent}
    (run : Runs (answerHttpRequest crates request) start events (.returned ()) stop) :
    attempts events = [] ∧
      sent .target events =
        rewrittenLine crates request ++ filterHopByHopHeaders request.headers := by
  unfold answerHttpRequest at run
  rw [regular, if_neg Bool.false_ne_true] at run
  obtain ⟨_, _, lineEvents, headerEvents, lineRun, headerRun, rfl⟩ :=
    runs_bind_returned_iff.mp run
  refine ⟨?_, ?_⟩
  · rw [runs_writeAll_returned lineRun, runs_writeAll_returned headerRun]
    rfl
  · rw [sent_append, sent_writeAll lineRun, sent_writeAll headerRun]

/-- The parts of a session that starts with a regular request. -/
theorem Session.StartsWith.parts {session : Session crates localAddr rules}
    {head payload : Bytes} {request : HttpRequest}
    (starts : session.StartsWith head request payload) :
    ∃ reading attempt finishing reply targetPayload,
      session.Parts (.http head request) reading attempt finishing payload reply targetPayload ∧
        session.handed.host = request.target.host ∧ session.handed.port = request.target.port := by
  obtain ⟨message, reading, attempt, finishing, _, reply, targetPayload, parts, host, port⟩ :=
    session.parts_of_handed
  have prefixFree := ClientMessage.prefixFree crates
  have message_eq := prefixFree.message_unique parts.fromClient starts.framed
  have payload_eq := prefixFree.payload_unique parts.fromClient starts.framed
  subst message_eq payload_eq
  exact ⟨reading, attempt, finishing, reply, targetPayload, parts, host, port⟩

theorem Session.forwards {session : Session crates localAddr rules} {head payload : Bytes}
    {request : HttpRequest} (starts : session.StartsWith head request payload) :
    session.Forwards request payload := by
  obtain ⟨reading, attempt, finishing, reply, targetPayload, parts, -, -⟩ := starts.parts
  obtain ⟨attemptStart, attemptStop, attemptRun⟩ := parts.attempted
  obtain ⟨answerStart, answerStop, answerRun⟩ := parts.answered
  obtain ⟨unattempted, forwarded⟩ := answerHttpRequest_sent starts.regular answerRun
  exact ⟨⟨reading, attempt, finishing, parts.events, parts.onClient,
    attemptOutbound_ensures _ _ _ _ _ _ _ _ attemptRun, unattempted, forwarded⟩, parts.toTarget⟩

theorem wellFormed_http {head : Bytes} {request : HttpRequest}
    (found : findHeaderSeparator head 0 = some head.length)
    (parsed : parseHttpRequest crates head = .ok request)
    (notSocks : head.head? ≠ some 0x04 ∧ head.head? ≠ some 0x05) :
    (ClientMessage.http head request).WellFormed crates :=
  ⟨findHeaderSeparator_from_start.mp found, parsed, notSocks⟩

/-! ## Body framing -/

/-- The forwarded head announces the body framing of the received head exactly
if the received body is not chunked and the content lengths, if any, are not
named by a `Connection` field. The body itself is relayed as it is. -/
theorem Session.forwarded_framing_iff {session : Session crates localAddr rules}
    {head payload : Bytes} {request : HttpRequest}
    (starts : session.StartsWith head request payload) :
    session.Forwards request payload ∧
      (announcedFraming (filterHopByHopHeaders request.headers) =
          announcedFraming request.headers ↔
        announcesChunked request.headers = false ∧
          (fieldValues contentLengthName request.headers = [] ∨
            contentLengthName ∉ connectionTokens request.headers)) :=
  ⟨session.forwards starts, framing_kept_iff request.headers⟩

def chunkedHeaders : Bytes := asBytes "Transfer-Encoding: chunked\r\n\r\n".toList

def chunkedRequest : HttpRequest where
  requestLine := asBytes "POST http://a.example/ HTTP/1.1\r\n".toList
  headers := chunkedHeaders
  parts := ["POST".toList, "http://a.example/".toList, "HTTP/1.1".toList]
  method := "POST".toList
  uri := "http://a.example/".toList
  target := ⟨"a.example".toList, 80, false⟩

/-- A request whose body is one chunk of two bytes. -/
def chunkedHead : Bytes := chunkedRequest.requestLine ++ chunkedHeaders

def chunkedBody : Bytes := asBytes "2\r\nhi\r\n0\r\n\r\n".toList

def chunkedSession : Session referenceCrates none [] :=
  .ofScript ⟨chunkedHead ++ chunkedBody, [], .ok (), []⟩
    ⟨"a.example".toList, 80, "direct".toList, true, .http, chunkedBody, []⟩ (by decide +kernel)
    [.relay (.copy .client (.wrote chunkedBody.length))]
    ⟨0, {
      inbound := ⟨.empty, .empty⟩
      copies := ⟨⟨.countingStats chunkedBody.length, chunkedBody, 0, 0⟩, ⟨.reading 0, [], 0, 0⟩⟩
      linger := none
      ending := none
    }⟩
    (by decide +kernel)

theorem chunkedSession_startsWith :
    chunkedSession.StartsWith chunkedHead chunkedRequest chunkedBody :=
  ⟨⟨wellFormed_http (by decide +kernel) (by decide +kernel) (by decide +kernel),
    by decide +kernel⟩, by decide +kernel⟩

/-- The head of a chunked request is forwarded without its framing. -/
theorem chunked_framing_lost :
    ¬ ∀ (session : Session referenceCrates none []) head request payload,
      session.StartsWith head request payload →
      announcedFraming (filterHopByHopHeaders request.headers) =
        announcedFraming request.headers := by
  intro kept
  have same := kept _ _ _ _ chunkedSession_startsWith
  exact absurd same (by decide +kernel)

/-- What the target is sent of it: no framing, and the chunks. -/
theorem Session.forwarded_framing_iff_chunked :
    chunkedSession.Forwards chunkedRequest chunkedBody ∧
      announcedFraming (filterHopByHopHeaders chunkedHeaders) ≠ announcedFraming chunkedHeaders := by
  obtain ⟨forwards, kept⟩ := Session.forwarded_framing_iff chunkedSession_startsWith
  refine ⟨forwards, ?_⟩
  intro same
  exact absurd (kept.mp same).1 (by decide +kernel)

end SimpleForwarder

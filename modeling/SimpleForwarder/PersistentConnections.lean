import SimpleForwarder.UriTranslation

/-!
Contract: the requests of a persistent connection.

Owns: how the first request of a client connection is served, in terms of its
URI, and what becomes of everything behind it (`Session.first_request_routed`);
and two requests of which the second goes to the server of the first
(`later_request_misrouted`).

One head is parsed for each connection. What follows it is relayed, whatever it
is.

Does not own: the requests whose URI is not translated to what it denotes.
-/

namespace SimpleForwarder

open RustText EffectProgram Framing

variable {crates : Crates} {localAddr : Option SocketAddr}
  {rules : List (RuleMatcher × ProxyConfig)}

/-- How a request for an absolute URI is served: one attempt, to where the rules
send the host and port of the URI; then the line in origin form and the filtered
headers are written to it; and the relay carries the rest of the client's stream. -/
structure Session.RoutesByUri (session : Session crates localAddr rules) (request : HttpRequest)
    (uri : AbsoluteUri) (version : Text) (payload : Bytes) : Prop where
  port : session.handed.port.toNat = uri.denotedPort
  attempted : attempts session.handshakeEvents =
    [outboundOf uri.denotedHost session.handed.port (chosenProxy rules uri.denotedHost none)]
  written : ∃ reading attempt finishing start stop,
    session.handshakeEvents = reading ++ (attempt ++ finishing) ∧
    (∀ event ∈ reading, event.op.OnClient) ∧
    Runs (attemptOutbound uri.denotedHost session.handed.port true
      (chosenProxy rules uri.denotedHost none))
      start attempt (.returned session.handed.targetLeftover) stop ∧
    attempts finishing = [] ∧
    sent .target finishing =
      originLine request uri version ++ filterHopByHopHeaders request.headers
  carries : session.Carries .client payload

/-- A connection whose first request is regular, for a URI that is translated to
what it denotes, makes one outbound attempt, to where the rules send the URI's
own host and port. That connection is sent the request line in origin form and
the filtered headers, and after them, byte for byte, whatever else the client
sends. -/
theorem Session.first_request_routed {session : Session crates localAddr rules}
    {head payload : Bytes} {request : HttpRequest} {uri : AbsoluteUri} {parsed : Uri}
    {version : Text} (starts : session.StartsWith head request payload)
    (words : request.parts = [request.method, uri.toText, version])
    (isParsed : crates.parseUri uri.toText = some parsed) (describes : uri.Describes parsed)
    (translated : uri.IsTranslated) : session.RoutesByUri request uri version payload := by
  obtain ⟨reading, attempt, finishing, reply, targetPayload, parts, -, handedPort⟩ := starts.parts
  obtain ⟨host, port, line⟩ := (parsedLine_of_ok starts.framed.valid.2.1).denoted starts.regular
    words isParsed describes translated
  obtain ⟨start, stop, attemptRun⟩ := parts.attempted
  obtain ⟨answerStart, answerStop, answerRun⟩ := parts.answered
  obtain ⟨unattempted, forwarded⟩ := answerHttpRequest_sent starts.regular answerRun
  have ofUri : Runs (attemptOutbound uri.denotedHost session.handed.port true
      (chosenProxy rules uri.denotedHost none)) start attempt
      (.returned session.handed.targetLeftover) stop := by
    rw [handedPort, ← host]
    exact attemptRun
  have isAttempt := attemptOutbound_ensures _ _ _ _ _ _ _ _ ofUri
  refine ⟨by rw [handedPort, port], ?_, ?_, parts.toTarget⟩
  · rw [parts.events, attempts_append, attempts_append, isAttempt.attempts_eq, unattempted,
      attempts_eq_nil fun event member => (parts.onClient event member).2]
    rfl
  · refine ⟨reading, attempt, finishing, start, stop, parts.events, parts.onClient, ofUri,
      unattempted, ?_⟩
    rw [forwarded, line]

/-! ## Two requests on one connection -/

/-- The client's stream is a sequence of regular requests in absolute form, of
which all but the first have gone through the relay. -/
structure Session.DeliversRequests (session : Session crates localAddr rules)
    (requests : List (Bytes × HttpRequest)) : Prop where
  regular : ∀ request ∈ requests,
    (ClientMessage.http request.1 request.2).WellFormed crates ∧
      request.2.target.isConnect = false ∧ isAbsoluteForm request.2.uri = true
  stream : session.stream .client = requests.flatMap Prod.fst
  delivered : session.relayed .client = requests.tail.flatMap Prod.fst

def firstHead : Bytes := asBytes "GET http://a.example/ HTTP/1.1\r\n\r\n".toList

def secondHead : Bytes := asBytes "GET http://b.example/ HTTP/1.1\r\n\r\n".toList

/-- The head of a `GET` request for the root of a host. -/
def rootRequest (line uri host : Text) : HttpRequest where
  requestLine := asBytes line ++ crlf
  headers := crlf
  parts := ["GET".toList, uri, "HTTP/1.1".toList]
  method := "GET".toList
  uri := uri
  target := ⟨host, 80, false⟩

def firstRequest : HttpRequest :=
  rootRequest "GET http://a.example/ HTTP/1.1".toList "http://a.example/".toList
    "a.example".toList

def secondRequest : HttpRequest :=
  rootRequest "GET http://b.example/ HTTP/1.1".toList "http://b.example/".toList
    "b.example".toList

/-- Two requests for two hosts in one read. -/
def persistentSession : Session referenceCrates none [] :=
  .ofScript ⟨firstHead ++ secondHead, [], .ok (), []⟩
    ⟨"a.example".toList, 80, "direct".toList, true, .http, secondHead, []⟩ (by decide +kernel)
    [.relay (.copy .client (.wrote secondHead.length))]
    ⟨0, {
      inbound := ⟨.empty, .empty⟩
      copies := ⟨⟨.countingStats secondHead.length, secondHead, 0, 0⟩, ⟨.reading 0, [], 0, 0⟩⟩
      linger := none
      ending := none
    }⟩
    (by decide +kernel)

def firstUri : AbsoluteUri :=
  rootUri "a.example".toList

/-- The first of the two requests goes to its own host. -/
theorem Session.first_request_routed_persistent :
    attempts persistentSession.handshakeEvents = [.direct "a.example".toList 80] ∧
      persistentSession.RoutesByUri firstRequest firstUri "HTTP/1.1".toList secondHead := by
  have starts : persistentSession.StartsWith firstHead firstRequest secondHead :=
    ⟨⟨wellFormed_http (by decide +kernel) (by decide +kernel) (by decide +kernel),
      by decide +kernel⟩, by decide +kernel⟩
  have isParsed : referenceCrates.parseUri firstUri.toText =
      some ⟨some "a.example".toList, none, "/".toList, none⟩ := by decide +kernel
  have describes : firstUri.Describes ⟨some "a.example".toList, none, "/".toList, none⟩ :=
    ⟨rfl, rfl, .inl rfl, rfl⟩
  have routes := Session.first_request_routed starts rfl isParsed describes
    ⟨.inl rfl, by decide, rfl⟩
  exact ⟨routes.attempted, routes⟩

/-- The requests of a connection are not all forwarded to where their own
targets are: the second one is relayed to the host of the first. -/
theorem later_request_misrouted :
    ¬ ∀ (session : Session referenceCrates none []) requests, session.DeliversRequests requests →
      ∀ request ∈ requests,
        outboundOf request.2.target.host request.2.target.port
          (chosenProxy [] request.2.target.host none) ∈ attempts session.handshakeEvents := by
  intro routed
  have delivers : persistentSession.DeliversRequests
      [(firstHead, firstRequest), (secondHead, secondRequest)] := by
    refine ⟨?_, by decide +kernel, by decide +kernel⟩
    intro request member
    rcases List.mem_cons.mp member with rfl | later
    · exact ⟨wellFormed_http (by decide +kernel) (by decide +kernel) (by decide +kernel),
        by decide +kernel, by decide +kernel⟩
    · rw [List.mem_singleton.mp later]
      exact ⟨wellFormed_http (by decide +kernel) (by decide +kernel) (by decide +kernel),
        by decide +kernel, by decide +kernel⟩
  have sameConnection := routed _ _ delivers (secondHead, secondRequest)
    (List.mem_cons_of_mem _ (List.mem_singleton_self _))
  have attempted : attempts persistentSession.handshakeEvents =
      [.direct "a.example".toList 80] := by decide +kernel
  rw [attempted] at sameConnection
  exact absurd sameConnection (by decide +kernel)

end SimpleForwarder

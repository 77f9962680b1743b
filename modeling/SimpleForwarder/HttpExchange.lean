import SimpleForwarder.ConnectHead
import SimpleForwarder.HeadExchange
import SimpleForwarder.ProxyServer.Replies

/-!
Contract: the HTTP client against the HTTP server.

Owns: the conversation of `http_connect` with the handshake of another forwarder,
and the law that under every interleaving and every cutting of the bytes it comes
to one end: both sides agree on the target, and both on whether the server's
attempt has succeeded.

Does not own: the outbound connection of the server; what it gives is a parameter.
-/

namespace SimpleForwarder

open RustText IpText EffectProgram Program Duplex

/-- The hosts that come through a `CONNECT` request as they are. -/
structure IsConnectHost (host : Text) : Prop where
  short : (asBytes host).length ≤ 8000
  solid : ∀ char ∈ host, isWhitespace char = false
  noOpening : '[' ∉ host
  noClosing : ']' ∉ host

/-! ## The server's side -/

section Server

variable (crates : Crates) (localAddr : Option SocketAddr)
  (rules : List (RuleMatcher × ProxyConfig))

/-- What `handle_http` hands over. -/
def HttpRequest.handed (request : HttpRequest) (leftover : Bytes) (connection : Connection) :
    HandshakeResult where
  host := request.target.host
  port := request.target.port
  proxyDesc := connection.proxyDesc
  isDirect := connection.isDirect
  protocol := .http
  leftover := leftover
  targetLeftover := connection.targetLeftover

/-- `handle_http` with its connection attempt as a parameter. -/
def answerHttp (connect : HttpRequest → Async Connection) (firstByte : UInt8) :
    Async HandshakeResult := do
  let (request, leftover) ← readHttpRequest crates firstByte
  let connection ← connect request
  answerHttpRequest crates request
  pure (request.handed leftover connection)

/-- The handshake of a connection, with the connection attempt of an HTTP client
as a parameter. -/
def serveHttp (connect : HttpRequest → Async Connection) : Async HandshakeResult := do
  let firstByte ← readExact .client 1
  if byteAt 0 firstByte = 0x05 then handleSocks5 localAddr rules
  else if byteAt 0 firstByte = 0x04 then handleSocks4 rules
  else answerHttp crates connect (byteAt 0 firstByte)

/-- The connection attempt for a request. -/
def connectFor (request : HttpRequest) : Async Connection :=
  orReply (connectToTarget request.target.host request.target.port true none false rules) badGateway

theorem handleClient_eq_serveHttp :
    handleClient crates localAddr rules = serveHttp crates localAddr rules (connectFor rules) :=
  rfl

/-- An attempt that has come to its result. -/
def attempted (attempt : Except Text Connection) (_ : HttpRequest) : Async Connection :=
  orReply (settle attempt) badGateway

/-- What the client is told. -/
def connectReply : Except Text Connection → Bytes
  | .ok _ => connectionEstablished
  | .error _ => badGateway

theorem connectReply_isHeadEnd (attempt : Except Text Connection) :
    IsHeadEnd (connectReply attempt) (connectReply attempt).length := by
  have established : findHeaderSeparator connectionEstablished 0 =
      some connectionEstablished.length := by decide +kernel
  have failed : findHeaderSeparator badGateway 0 = some badGateway.length := by decide +kernel
  apply findHeaderSeparator_from_start.mp
  cases attempt with
  | ok connection => exact established
  | error error => exact failed

theorem length_connectReply_le (attempt : Except Text Connection) :
    (connectReply attempt).length ≤ connectResponseMaxLen := by
  have established : connectionEstablished.length ≤ connectResponseMaxLen := by decide +kernel
  have failed : badGateway.length ≤ connectResponseMaxLen := by decide +kernel
  cases attempt with
  | ok connection => exact established
  | error error => exact failed

/-- What the server hands over. -/
def handedFor (host : Text) (port : UInt16) (attempt : Except Text Connection) :
    Except Text HandshakeResult :=
  attempt.map fun connection =>
    ⟨host, port, connection.proxyDesc, connection.isDirect, .http, [], connection.targetLeftover⟩

/-- The answer to a parsed `CONNECT` request. -/
theorem answers_connect {request : HttpRequest} {host : Text} {port : UInt16}
    (target : request.target = ⟨host, port, true⟩) (attempt : Except Text Connection) (count : Nat)
    (input : Bytes) :
    talkCut .client count ((attempted attempt request).bind fun connection =>
        (answerHttpRequest crates request).bind fun _ => .ret (request.handed [] connection))
      input = some ⟨settle (handedFor host port attempt), 0, connectReply attempt⟩ := by
  have isConnect : request.target.isConnect = true := by rw [target]
  have sameHost : request.target.host = host := by rw [target]
  have samePort : request.target.port = port := by rw [target]
  cases attempt with
  | ok connection =>
      show talkCut .client count ((answerHttpRequest crates request).bind fun _ =>
        .ret (request.handed [] connection)) input = _
      unfold answerHttpRequest HttpRequest.handed
      rw [if_pos isConnect, sameHost, samePort]
      exact talkCut_write _ _
  | error error => rfl

end Server

/-! ## The client's side -/

section Client

def connectFailed : Text := "HTTP CONNECT failed (status 502): HTTP/1.1 502 Bad Gateway".toList

/-- What the client returns. -/
def clientResult : Except Text Connection → Except Text Bytes
  | .ok _ => .ok []
  | .error _ => .error connectFailed

theorem client_accepts (attempt : Except Text Connection) :
    ((settle (checkConnectResponse (connectReply attempt))).bind fun () =>
      (.ret [] : Async Bytes)) = settle (clientResult attempt) := by
  cases attempt with
  | ok connection =>
      have accepted : checkConnectResponse connectionEstablished = .ok () := by decide +kernel
      rw [connectReply, accepted]
      rfl
  | error error =>
      have refused : checkConnectResponse badGateway = .error connectFailed := by decide +kernel
      rw [connectReply, refused]
      rfl

end Client

/-! ## The exchange -/

section Exchange

variable (crates : Crates) (localAddr : Option SocketAddr)
  (rules : List (RuleMatcher × ProxyConfig))

/-- A `CONNECT` request and its answer. -/
def httpExchange {host : Text} (isHost : IsConnectHost host) (port : UInt16)
    (attempt : Except Text Connection) : HeadExchange Bytes HandshakeResult where
  request := asBytes (connectRequest host port)
  reply := connectReply attempt
  requestLimit := httpHeaderMaxLen
  requestErrors := httpHeaderErrors
  replyLimit := connectResponseMaxLen
  replyErrors := connectResponseErrors
  clientRest := fun value =>
    (settle (checkConnectResponse value.1)).bind fun () => .ret value.2
  dispatch := fun firstByte =>
    if byteAt 0 firstByte = 0x05 then handleSocks5 localAddr rules
    else if byteAt 0 firstByte = 0x04 then handleSocks4 rules
    else answerHttp crates (attempted attempt) (byteAt 0 firstByte)
  serverRest := fun value =>
    (settle (parseHttpRequest crates value.1)).bind fun request =>
      (attempted attempt request).bind fun connection =>
        (answerHttpRequest crates request).bind fun _ => .ret (request.handed value.2 connection)
  clientEnd := settle (clientResult attempt)
  serverEnd := settle (handedFor host port attempt)
  requestHead := isHeadEnd_connectRequest isHost.solid
  requestShort := by
    have length := length_connectRequest_le host port
    have limit : httpHeaderMaxLen = 16384 := rfl
    have short := isHost.short
    omega
  replyHead := connectReply_isHeadEnd attempt
  replyShort := length_connectReply_le attempt
  dispatches := by
    intro firstByte isFirst
    have single : firstByte.toList = [byteAt 0 firstByte] := toList_eq_ofFn firstByte
    have first : (asBytes (connectRequest host port)).take 1 = [0x43] := by
      rw [asBytes_connectRequest]
      rfl
    rw [first, single, List.cons.injEq] at isFirst
    rw [if_neg (by rw [isFirst.1]; decide), if_neg (by rw [isFirst.1]; decide), single]
    exact (bind_bind _ _ _).trans (congrArg _ (funext fun value => bind_bind _ _ _))
  answers := by
    intro count input
    obtain ⟨request, parsed, target⟩ := parseHttpRequest_connectRequest crates port isHost.solid
      isHost.noOpening isHost.noClosing
    rw [parsed]
    exact answers_connect crates target attempt count input
  accepts := client_accepts attempt
  clientSilent := by
    intro count input
    cases attempt with
    | ok connection => rfl
    | error error => rfl
  serverSilent := by
    intro count input
    cases attempt with
    | ok connection => rfl
    | error error => rfl

/-! ## Runs of the server -/

/-- The server can read the request, and it reads nothing else. -/
theorem runs_readHttpRequest {host : Text} (isHost : IsConnectHost host) (port : UInt16)
    (start : Nat) :
    ∃ rest request reading, asBytes (connectRequest host port) = 0x43 :: rest ∧
      Runs (readHttpRequest crates 0x43) start reading (.returned (request, [])) start ∧
      request.target = ⟨host, port, true⟩ ∧ received .client reading = rest := by
  have headEnd : IsHeadEnd (asBytes (connectRequest host port)) _ :=
    isHeadEnd_connectRequest isHost.solid
  have short : (asBytes (connectRequest host port)).length ≤ httpHeaderMaxLen := by
    have length := length_connectRequest_le host port
    have limit : httpHeaderMaxLen = 16384 := rfl
    have few := isHost.short
    omega
  obtain ⟨rest, shape⟩ : ∃ rest, asBytes (connectRequest host port) = 0x43 :: rest := by
    rw [asBytes_connectRequest]
    exact ⟨_, rfl⟩
  obtain ⟨request, parsed, target⟩ := parseHttpRequest_connectRequest crates port isHost.solid
    isHost.noOpening isHost.noClosing
  rw [shape] at headEnd short parsed
  have sized : ∀ chunk ∈ rest.map ([·]), 1 ≤ chunk.length ∧ chunk.length ≤ 1024 := by
    intro chunk member
    obtain ⟨byte, -, rfl⟩ := List.mem_map.mp member
    exact ⟨Nat.le_refl 1, by rw [List.length_singleton]; omega⟩
  have whole : (rest.map ([·])).flatten = rest := by
    rw [← List.flatMap_def, List.flatMap_singleton']
  let cutting : Cutting 1024 rest := ⟨rest.map ([·]), whole, sized⟩
  have frames := readRequestHead_frames 0x43 cutting false start
  have read := frames.returned_all headEnd short
  have runs : Runs (readHttpHeaders 0x43) start (readRequestHead 0x43 start _).1
      (readRequestHead 0x43 start (cutting.arrival false)).2 start := runs_exec _ start _ _
  rw [read] at runs
  refine ⟨rest, request, (readRequestHead 0x43 start (cutting.arrival false)).1, shape, ?_,
    target, ?_⟩
  · refine runs_bind_returned_iff.mpr ⟨_, _, _, [], runs, ?_, (List.append_nil _).symm⟩
    dsimp only
    rw [parsed]
    exact .ret _ start
  · have split := (frames.split _ _ read).1
    rw [List.append_nil, List.cons.injEq] at split
    exact split.2.symm

/-- The end of a run with this result. -/
def outcomeOf {α : Type} : Except Text α → Outcome Text α
  | .ok value => .returned value
  | .error error => .failed error

/-- The attempt for a request, before the client is told. -/
def attempting (request : HttpRequest) : Async (Except Text Connection) :=
  (connectToTarget request.target.host request.target.port true none false rules).attempt

/-- The client is told what the attempt has come to. -/
theorem runs_answer {request : HttpRequest} {host : Text} {port : UInt16}
    (target : request.target = ⟨host, port, true⟩) {attempt : Except Text Connection}
    {start stop : Nat} {connecting : List SocketEvent}
    (connects : Runs (connectToTarget host port true none false rules) start connecting
      (outcomeOf attempt) stop) :
    Runs ((connectFor rules request).bind fun connection =>
        (answerHttpRequest crates request).bind fun _ => .ret (request.handed [] connection)) start
      (connecting ++ [⟨.writeAll .client (connectReply attempt), stop, .ready (.ok ())⟩])
      (outcomeOf (handedFor host port attempt)) stop := by
  have isConnect : request.target.isConnect = true := by rw [target]
  have sameHost : request.target.host = host := by rw [target]
  have samePort : request.target.port = port := by rw [target]
  rw [← sameHost, ← samePort] at connects
  cases attempt with
  | ok connection =>
      have wrapped : Runs (attempting rules request) start connecting
          (.returned (.ok connection)) stop :=
        runs_attempt_iff.mpr (.inl ⟨connection, connects, rfl⟩)
      have attempts : Runs (connectFor rules request) start connecting (.returned connection)
          stop :=
        runs_bind_returned_iff.mpr
          ⟨_, stop, connecting, [], wrapped, .ret _ stop, (List.append_nil _).symm⟩
      refine runs_bind_iff.mpr (.inl ⟨connection, stop, connecting, _, attempts, ?_, rfl⟩)
      unfold answerHttpRequest HttpRequest.handed
      rw [if_pos isConnect, sameHost, samePort]
      exact .ready _ (Nat.le_refl stop) (.ret _ stop)
  | error error =>
      have wrapped : Runs (attempting rules request) start connecting
          (.returned (.error error)) stop :=
        runs_attempt_iff.mpr (.inr (.inl ⟨error, connects, rfl⟩))
      have attempts : Runs (connectFor rules request) start
          (connecting ++ [⟨.writeAll .client badGateway, stop, .ready (.ok ())⟩])
          (.failed error) stop := by
        refine runs_bind_iff.mpr (.inl ⟨_, stop, connecting, _, wrapped, ?_, rfl⟩)
        exact .ready _ (Nat.le_refl stop) (.fail error stop)
      exact runs_bind_iff.mpr (.inr (.inl ⟨error, attempts, rfl⟩))

/-- A handshake around an attempt that has come to its result. -/
theorem runs_handleClient {host : Text} (isHost : IsConnectHost host) {port : UInt16}
    {attempt : Except Text Connection} {start stop : Nat} {connecting : List SocketEvent}
    (connects : Runs (connectToTarget host port true none false rules) start connecting
      (outcomeOf attempt) stop) :
    ∃ before after, Runs (handleClient crates localAddr rules) start
        (before ++ (connecting ++ after)) (outcomeOf (handedFor host port attempt)) stop ∧
      received .client before = asBytes (connectRequest host port) ∧ writes .client before = [] ∧
      received .client after = [] ∧ writes .client after = [connectReply attempt] := by
  obtain ⟨rest, request, reading, shape, reads, target, readsRest⟩ :=
    runs_readHttpRequest crates isHost port start
  have silent : writes .client reading = [] :=
    writes_eq_nil_of_isSilent (reads.only (readHttpRequest_isSilent crates 0x43))
  have answered := runs_answer crates rules target connects
  have served : Runs (answerHttp crates (connectFor rules) 0x43) start
      (reading ++ (connecting ++ [⟨.writeAll .client (connectReply attempt), stop,
        .ready (.ok ())⟩])) (outcomeOf (handedFor host port attempt)) stop :=
    runs_bind_iff.mpr (.inl ⟨_, start, reading, _, reads, answered, rfl⟩)
  have detects : Runs (readExact .client 1) start
      [⟨.readExact .client 1, start, .ready (.ok #v[0x43])⟩] (.returned #v[0x43]) start :=
    .ready _ (Nat.le_refl start) (.ret _ start)
  refine ⟨⟨.readExact .client 1, start, .ready (.ok #v[0x43])⟩ :: reading,
    [⟨.writeAll .client (connectReply attempt), stop, .ready (.ok ())⟩], ?_, ?_, silent, rfl, rfl⟩
  · rw [handleClient_eq_serveHttp]
    have first : byteAt 0 (#v[0x43] : Vector UInt8 1) = 0x43 := rfl
    refine runs_bind_iff.mpr (.inl ⟨#v[0x43], start, _, _, detects, ?_, rfl⟩)
    rw [first, if_neg (by decide), if_neg (by decide)]
    exact served
  · rw [shape, received_cons, readsRest]
    rfl

/-! ## Agreement -/

/-- The program of a server whose attempt has come to its result. -/
def serveAttempted (attempt : Except Text Connection) : Async HandshakeResult :=
  serveHttp crates localAddr rules (attempted attempt)

/-- The end of the exchange. With success both sides have returned, without any
leftover; otherwise both have failed. -/
def httpExchanged (host : Text) (port : UInt16) (attempt : Except Text Connection) :
    HeadExchange.Talk Bytes HandshakeResult where
  left := settle (clientResult attempt)
  right := settle (handedFor host port attempt)
  toRight := ⟨asBytes (connectRequest host port), []⟩
  toLeft := ⟨connectReply attempt, []⟩

/-- What a client and a server that agree do. -/
structure HttpAgreement (host : Text) (port : UInt16) (attempt : Except Text Connection) : Prop
    where
  /-- Whatever the parties have done, they can come to the end of the exchange, they
  stop nowhere else, and they come there in a bounded number of steps. -/
  ends : ∀ turns middle, Machine.run HeadExchange.step
      (.start (httpConnect host port) (serveAttempted crates localAddr rules attempt)) turns =
        some middle →
    HeadExchange.Reaches middle (httpExchanged host port attempt) ∧
      (Machine.IsStuck HeadExchange.step middle → middle = httpExchanged host port attempt) ∧
      turns.length ≤
        (asBytes (connectRequest host port)).length + (connectReply attempt).length + 2
  /-- What the client does on the way there is a run of the client. -/
  client_runs : ∀ turns, Machine.run HeadExchange.step
      (.start (httpConnect host port) (serveAttempted crates localAddr rules attempt)) turns =
        some (httpExchanged host port attempt) →
    ∀ start, ∃ events, Runs (httpConnect host port) start events
        (outcomeOf (clientResult attempt)) start ∧
      received .target events = connectReply attempt ∧
      sent .target events = asBytes (connectRequest host port)
  /-- A handshake whose attempt has this result is a run around the attempt. -/
  server_runs : ∀ start stop connecting,
    Runs (connectToTarget host port true none false rules) start connecting (outcomeOf attempt)
      stop →
    ∃ before after, Runs (handleClient crates localAddr rules) start
        (before ++ (connecting ++ after)) (outcomeOf (handedFor host port attempt)) stop ∧
      received .client before = asBytes (connectRequest host port) ∧ writes .client before = [] ∧
      received .client after = [] ∧ writes .client after = [connectReply attempt]

/-- The HTTP client and the HTTP server agree on every host that has no white space
and no brackets, on every port, and on the result. -/
theorem http_parties_agree {host : Text} (isHost : IsConnectHost host) (port : UInt16)
    (attempt : Except Text Connection) :
    HttpAgreement crates localAddr rules host port attempt where
  ends := fun _ _ reached =>
    (httpExchange crates localAddr rules isHost port attempt).ends reached
  client_runs := by
    intro turns reached start
    have ended : Runs (settle (clientResult attempt) : Async Bytes) start []
        (outcomeOf (clientResult attempt)) start := by
      cases attempt with
      | ok connection => exact .ret [] start
      | error error => exact .fail connectFailed start
    obtain ⟨events, runs, reads, writes⟩ := HeadExchange.client_runs reached ended
    rw [List.append_nil] at runs
    exact ⟨events, runs, reads.symm, writes.symm.trans (List.append_nil _)⟩
  server_runs := fun _ _ _ connects => runs_handleClient crates localAddr rules isHost connects

end Exchange

/-- An address as a lookup gives it, with a refused attempt, and a name. -/
theorem http_parties_agree_both :
    HttpAgreement referenceCrates none [] "2001:db8::1".toList 443
      (.error "Failed to connect to target".toList) ∧
    HttpAgreement referenceCrates none [] "example.com".toList 80
      (.ok ⟨"direct".toList, true, []⟩) :=
  ⟨http_parties_agree _ _ _ ⟨by decide, solid_of_all (by decide), by decide, by decide⟩ _ _,
    http_parties_agree _ _ _ ⟨by decide, solid_of_all (by decide), by decide, by decide⟩ _ _⟩

end SimpleForwarder

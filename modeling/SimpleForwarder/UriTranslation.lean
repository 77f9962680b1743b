import SimpleForwarder.Agreement
import SimpleForwarder.ForwardedHead
import SimpleForwarder.Lib.LetterCase

/-!
Contract: the translation of a regular request.

Owns: what an absolute URI denotes (`AbsoluteUri`), and when the connection and
the forwarded request line are those that it denotes
(`Session.translates_iff`, `https_goes_to_port_80`).

The target of the connection comes from `http::Uri`, whatever the scheme is;
the line is rewritten only after a textual test for the scheme in lower case.

Does not own: how `http::Uri` parses. That it gives the parts of the text at
hand is a hypothesis.
-/

namespace SimpleForwarder

open RustText IpText EffectProgram Framing

/-! ## Absolute URIs -/

/-- `scheme://authority[path][?query]` with a scheme `http` or `https`. -/
structure AbsoluteUri where
  scheme : Text
  userinfo : Option Text
  host : Text
  port : Option Text
  path : Text
  query : Option Text
  isHttp : SameUpToCase scheme "http".toList ∨ SameUpToCase scheme "https".toList
  portDigits : ∀ digits ∈ port, digits.all Char.isDigit = true
  rooted : path ≠ [] → path.head? = some '/'

namespace AbsoluteUri

def authority (uri : AbsoluteUri) : Text :=
  let userinfo := match uri.userinfo with
    | some userinfo => userinfo ++ ['@']
    | none => []
  let port := match uri.port with
    | some digits => ':' :: digits
    | none => []
  userinfo ++ uri.host ++ port

/-- The query with its question mark. -/
def queryPart (uri : AbsoluteUri) : Text :=
  match uri.query with
  | some query => '?' :: query
  | none => []

def toText (uri : AbsoluteUri) : Text :=
  uri.scheme ++ "://".toList ++ (uri.authority ++ uri.path ++ uri.queryPart)

/-- The host that the authority names: an IP literal without its square brackets. -/
def denotedHost (uri : AbsoluteUri) : Text :=
  if uri.host.head? = some '[' then uri.host.tail.takeWhile (· ≠ ']') else uri.host

/-- The port that is given; a colon without digits gives none. -/
def explicitPort (uri : AbsoluteUri) : Option Nat :=
  uri.port.bind fun digits => if digits = [] then none else some (Nat.ofDigitChars 10 digits 0)

/-- The port that the URI denotes. -/
def denotedPort (uri : AbsoluteUri) : Nat :=
  uri.explicitPort.getD (if SameUpToCase uri.scheme "http".toList then 80 else 443)

/-- The origin form: without scheme and authority. -/
def originTarget (uri : AbsoluteUri) : Text :=
  (if uri.path = [] then ['/'] else uri.path) ++ uri.queryPart

/-- The parts of the URI, as the accessors of `http::Uri` give them: an IP literal
with its brackets, a port that fits into 16 bits, and a slash for an empty path. -/
structure Describes (uri : AbsoluteUri) (parsed : Uri) : Prop where
  host : parsed.host = some uri.host
  port : parsed.portU16 = uri.port.bind parseU16
  path : parsed.path = uri.path ∨ (uri.path = [] ∧ parsed.path = "/".toList)
  query : parsed.query = uri.query

/-- The scheme is spelled in lower case, the host is no IP literal in brackets, and
the port fits into 16 bits or is not given for `http`. -/
def IsTranslated (uri : AbsoluteUri) : Prop :=
  (uri.scheme = "http".toList ∨ uri.scheme = "https".toList) ∧ uri.host.head? ≠ some '[' ∧
    match uri.explicitPort with
    | some port => port < 65536
    | none => uri.scheme = "http".toList

variable {uri : AbsoluteUri} {parsed : Uri}

/-- The brackets are not part of what they enclose. -/
theorem host_eq_denotedHost_iff : uri.host = uri.denotedHost ↔ uri.host.head? ≠ some '[' := by
  unfold denotedHost
  by_cases bracketed : uri.host.head? = some '['
  · rw [if_pos bracketed]
    refine iff_of_false ?_ (not_not.mpr bracketed)
    intro same
    have shorter : (uri.host.tail.takeWhile (· ≠ ']')).length < uri.host.length := by
      have inside := (List.takeWhile_sublist (fun char => decide (char ≠ ']'))
        (l := uri.host.tail)).length_le
      have nonempty : uri.host ≠ [] := by
        rintro empty
        rw [empty] at bracketed
        cases bracketed
      have length := List.length_pos_iff.mpr nonempty
      rw [List.length_tail] at inside
      omega
    rw [← same] at shorter
    exact absurd shorter (Nat.lt_irrefl _)
  · rw [if_neg bracketed]
    exact iff_of_true rfl bracketed

theorem not_mem_scheme (uri : AbsoluteUri) : ':' ∉ uri.scheme := by
  have plain : (':').isAlpha = false := by decide
  rcases uri.isHttp with isHttp | isHttps
  · rw [isHttp.mem_iff plain]
    decide
  · rw [isHttps.mem_iff plain]
    decide

theorem scheme_ne_nil (uri : AbsoluteUri) : uri.scheme ≠ [] := by
  intro empty
  rcases uri.isHttp with same | same
  · rw [empty] at same
    exact absurd same.length_eq (by decide)
  · rw [empty] at same
    exact absurd same.length_eq (by decide)

/-- A text starts with one scheme only. -/
theorem isPrefixOf_toText_iff {scheme : Text} (plain : ':' ∉ scheme) :
    (scheme ++ "://".toList).isPrefixOf uri.toText = true ↔ uri.scheme = scheme := by
  have upToColon : ∀ {word : Text} (rest : Text), ':' ∉ word →
      (word ++ "://".toList ++ rest).takeWhile (· ≠ ':') = word := by
    intro word rest noColon
    have solid : ∀ char ∈ word, decide (char ≠ ':') = true := by
      intro char member
      rw [decide_eq_true_iff]
      intro isColon
      exact noColon (isColon ▸ member)
    have shape : word ++ "://".toList ++ rest = word ++ ':' :: ("//".toList ++ rest) := by
      rw [List.append_assoc]
      rfl
    rw [shape, List.takeWhile_append_of_pos solid, List.takeWhile_cons_of_neg (by simp),
      List.append_nil]
  rw [List.isPrefixOf_iff_prefix]
  constructor
  · rintro ⟨rest, same⟩
    unfold toText at same
    rw [← upToColon rest plain, same, upToColon _ uri.not_mem_scheme]
  · intro same
    unfold toText
    rw [same]
    exact List.prefix_append _ _

theorem isAbsoluteForm_toText_iff :
    isAbsoluteForm uri.toText = true ↔
      uri.scheme = "http".toList ∨ uri.scheme = "https".toList := by
  have http : ("http".toList ++ "://".toList).isPrefixOf uri.toText = true ↔
      uri.scheme = "http".toList := isPrefixOf_toText_iff (by decide)
  have https : ("https".toList ++ "://".toList).isPrefixOf uri.toText = true ↔
      uri.scheme = "https".toList := isPrefixOf_toText_iff (by decide)
  unfold isAbsoluteForm
  rw [Bool.or_eq_true]
  exact or_congr http https

/-! ## The port -/

theorem parseU16_of_digits {digits : Text} (areDigits : digits.all Char.isDigit = true) :
    parseU16 digits =
      if digits ≠ [] ∧ Nat.ofDigitChars 10 digits 0 < 65536 then
        some (UInt16.ofNat (Nat.ofDigitChars 10 digits 0)) else none := by
  have unsigned : stripPlus digits = digits := by
    unfold stripPlus
    split
    · have plus := List.all_eq_true.mp areDigits '+' List.mem_cons_self
      exact absurd plus (by decide)
    · rfl
  unfold parseU16
  simp only [unsigned, areDigits, true_and]

/-- The port of the connection is the one that the URI denotes exactly if it
fits into 16 bits, or is not given and the scheme is `http`. -/
theorem port_eq_iff (describes : uri.Describes parsed) :
    (parsed.portU16.getD httpDefaultPort).toNat = uri.denotedPort ↔
      match uri.explicitPort with
      | some port => port < 65536
      | none => SameUpToCase uri.scheme "http".toList := by
  have default : httpDefaultPort.toNat = 80 := rfl
  have digits := uri.portDigits
  unfold denotedPort
  rw [describes.port]
  unfold explicitPort
  cases isPort : uri.port with
  | none =>
      simp only [Option.bind_none, Option.getD_none, default]
      split
      · next isHttp => exact ⟨fun _ => isHttp, fun _ => rfl⟩
      · next notHttp =>
          exact ⟨fun impossible => absurd impossible (by decide),
            fun same => absurd same notHttp⟩
  | some digits' =>
      rw [Option.bind_some, parseU16_of_digits (digits digits' isPort), Option.bind_some]
      by_cases empty : digits' = []
      · simp only [empty, ne_eq, not_true, false_and, if_false, if_true, Option.getD_none, default]
        split
        · next isHttp => exact ⟨fun _ => isHttp, fun _ => rfl⟩
        · next notHttp =>
            exact ⟨fun impossible => absurd impossible (by decide),
              fun same => absurd same notHttp⟩
      · by_cases small : Nat.ofDigitChars 10 digits' 0 < 65536
        · simp only [empty, small, ne_eq, not_false_eq_true, and_self, if_true, if_false,
            Option.getD_some, iff_true]
          rw [UInt16.toNat_ofNat']
          exact Nat.mod_eq_of_lt small
        · simp only [empty, small, ne_eq, not_false_eq_true, and_false, if_false, Option.getD_none,
            Option.getD_some, default, iff_false]
          omega

end AbsoluteUri

/-! ## The forwarded line -/

/-- The request line in origin form. -/
def originLine (request : HttpRequest) (uri : AbsoluteUri) (version : Text) : Bytes :=
  asBytes (request.method ++ " ".toList ++ uri.originTarget ++ " ".toList ++ version ++
    "\r\n".toList)

namespace AbsoluteUri

variable {crates : Crates} {uri : AbsoluteUri} {parsed : Uri} {head : Bytes}
  {request : HttpRequest} {version : Text}

theorem originForm_toText (isParsed : crates.parseUri uri.toText = some parsed)
    (describes : uri.Describes parsed) : originForm crates uri.toText = uri.originTarget := by
  have path : (if parsed.path = [] then "/".toList else parsed.path) =
      if uri.path = [] then ['/'] else uri.path := by
    rcases describes.path with same | ⟨empty, supplied⟩
    · rw [same]
      rfl
    · rw [empty, supplied]
      rfl
  unfold originForm originTarget queryPart
  rw [isParsed]
  dsimp only
  rw [path, describes.query]
  cases uri.query with
  | none => exact (List.append_nil _).symm
  | some query => exact List.append_assoc _ _ _

/-- The origin form starts with a slash. -/
theorem head?_originTarget (uri : AbsoluteUri) : uri.originTarget.head? = some '/' := by
  unfold originTarget
  rw [List.head?_append]
  split
  · rfl
  · next nonempty => rw [uri.rooted nonempty, Option.some_or]

/-- An absolute URI is not in origin form. -/
theorem originTarget_ne_toText (uri : AbsoluteUri) : uri.originTarget ≠ uri.toText := by
  intro same
  have slash := uri.head?_originTarget
  rw [same, toText, List.append_assoc, List.head?_append_of_ne_nil _ uri.scheme_ne_nil] at slash
  have inScheme : '/' ∈ uri.scheme := List.mem_of_head? slash
  have plain : ('/').isAlpha = false := by decide
  rcases uri.isHttp with isHttp | isHttps
  · rw [isHttp.mem_iff plain] at inScheme
    exact absurd inScheme (by decide)
  · rw [isHttps.mem_iff plain] at inScheme
    exact absurd inScheme (by decide)

theorem isWord_originTarget (solid : ∀ char ∈ uri.toText, isWhitespace char = false) :
    IsWord uri.originTarget := by
  constructor
  · intro empty
    have slash := uri.head?_originTarget
    rw [empty] at slash
    cases slash
  · intro char member
    rcases List.mem_append.mp member with inPath | inQuery
    · split at inPath
      · rw [List.mem_singleton.mp inPath]
        decide
      · exact solid char (by simp [toText, inPath])
    · exact solid char (by simp [toText, inQuery])

/-- The line is forwarded in origin form exactly if the scheme is spelled in
lower case. -/
theorem rewrittenLine_eq_iff (line : ParsedLine crates head request)
    (words : request.parts = [request.method, uri.toText, version])
    (isParsed : crates.parseUri uri.toText = some parsed) (describes : uri.Describes parsed) :
    rewrittenLine crates request = originLine request uri version ↔
      uri.scheme = "http".toList ∨ uri.scheme = "https".toList := by
  have isUri : request.uri = uri.toText := line.uri_of_words words
  have isWord : ∀ word ∈ [request.method, uri.toText, version], word ≠ [] → IsWord word := by
    intro word member nonempty
    rw [← words] at member
    exact ⟨nonempty, line.solid member⟩
  have nonempty : ∀ word ∈ [request.method, uri.toText, version], word ≠ [] := by
    intro word member
    rw [← words, line.words] at member
    simpa using List.of_mem_filter member
  have third : request.parts[2]? = some version := by rw [words]; rfl
  rw [← isAbsoluteForm_toText_iff, ← isUri]
  unfold rewrittenLine
  constructor
  · intro same
    by_contra notAbsolute
    rw [if_neg notAbsolute] at same
    have shape : request.method ++ " ".toList ++ uri.originTarget ++ " ".toList ++ version ++
        "\r\n".toList =
          request.method ++ ' ' :: (uri.originTarget ++ ' ' :: version) ++ "\r\n".toList := by
      simp
    have isTarget := isWord_originTarget (isWord uri.toText (by simp) (nonempty _ (by simp))).solid
    have originWords : request.parts = [request.method, uri.originTarget, version] := by
      rw [line.words, same, originLine, fromUtf8Lossy_asBytes, splitWhitespace_trim, shape]
      exact splitWhitespace_line (isWord _ (by simp) (nonempty _ (by simp))) isTarget
        (isWord _ (by simp) (nonempty _ (by simp)))
    rw [words] at originWords
    exact uri.originTarget_ne_toText (List.cons.inj (List.cons.inj originWords).2).1.symm
  · intro absolute
    rw [if_pos absolute, third, isUri, originForm_toText isParsed describes]
    rfl

end AbsoluteUri

/-! ## The session -/

/-- The session does what the URI of its request denotes: the rules are asked for
the host, it connects to the host and the port, and the last two writes of the
handshake to the target are the request line in origin form and the filtered
headers. -/
structure Session.Translates {crates : Crates} {localAddr : Option SocketAddr}
    {rules : List (RuleMatcher × ProxyConfig)} (session : Session crates localAddr rules)
    (request : HttpRequest) (uri : AbsoluteUri) (version : Text) : Prop where
  host : session.handed.host = uri.denotedHost
  port : session.handed.port.toNat = uri.denotedPort
  connects : ∃ before attempt after start stop,
    session.handshakeEvents = before ++ (attempt ++ after) ∧
      Runs (attemptOutbound uri.denotedHost session.handed.port true
        (chosenProxy rules uri.denotedHost none))
        start attempt (.returned session.handed.targetLeftover) stop
  forwards : [originLine request uri version, filterHopByHopHeaders request.headers] <:+
    writes .target session.handshakeEvents

variable {crates : Crates} {localAddr : Option SocketAddr}
  {rules : List (RuleMatcher × ProxyConfig)} {uri : AbsoluteUri} {parsed : Uri}

/-- The writes of the answer to a regular request. -/
theorem answerHttpRequest_writes {request : HttpRequest}
    (regular : request.target.isConnect = false) {start stop : Nat} {events : List SocketEvent}
    (run : Runs (answerHttpRequest crates request) start events (.returned ()) stop) :
    writes .target events =
      [rewrittenLine crates request, filterHopByHopHeaders request.headers] := by
  unfold answerHttpRequest at run
  rw [regular, if_neg Bool.false_ne_true] at run
  obtain ⟨_, _, lineEvents, headerEvents, lineRun, headerRun, rfl⟩ :=
    runs_bind_returned_iff.mp run
  rw [runs_writeAll_returned lineRun, runs_writeAll_returned headerRun]
  rfl

/-- What a session does for its regular request, whatever the URI is. -/
structure Session.Serves (session : Session crates localAddr rules) (request : HttpRequest) :
    Prop where
  host : session.handed.host = request.target.host
  port : session.handed.port = request.target.port
  connects : ∃ before attempt after start stop,
    session.handshakeEvents = before ++ (attempt ++ after) ∧
      Runs (attemptOutbound request.target.host request.target.port true
        (chosenProxy rules request.target.host none))
        start attempt (.returned session.handed.targetLeftover) stop
  forwards : ∃ earlier, writes .target session.handshakeEvents =
    earlier ++ [rewrittenLine crates request, filterHopByHopHeaders request.headers]

variable {session : Session crates localAddr rules} {head payload : Bytes}
  {request : HttpRequest} {version : Text}

theorem Session.StartsWith.serves (starts : session.StartsWith head request payload) :
    session.Serves request := by
  obtain ⟨reading, attempt, finishing, reply, targetPayload, parts, host, port⟩ := starts.parts
  obtain ⟨start, stop, attemptRun⟩ := parts.attempted
  obtain ⟨answerStart, answerStop, answerRun⟩ := parts.answered
  refine ⟨host, port, ⟨reading, attempt, finishing, start, stop, parts.events, attemptRun⟩,
    writes .target (reading ++ attempt), ?_⟩
  rw [parts.events, ← List.append_assoc, writes_append]
  exact congrArg _ (answerHttpRequest_writes starts.regular answerRun)

/-- The target of a request whose URI is described. -/
theorem ParsedLine.target_eq (line : ParsedLine crates head request)
    (regular : request.target.isConnect = false) (isUri : request.uri = uri.toText)
    (isParsed : crates.parseUri uri.toText = some parsed) (describes : uri.Describes parsed) :
    request.target = ⟨uri.host, parsed.portU16.getD httpDefaultPort, false⟩ := by
  obtain ⟨-, found, host, isFound, isHost, isTarget⟩ := line.regular regular
  rw [isUri, isParsed] at isFound
  rw [← Option.some.inj isFound, describes.host] at isHost
  rw [isTarget, ← Option.some.inj isFound, Option.some.inj isHost]

/-- A scheme in lower case is `http` or `https`. -/
theorem AbsoluteUri.http_iff_of_lower
    (lower : uri.scheme = "http".toList ∨ uri.scheme = "https".toList) :
    SameUpToCase uri.scheme "http".toList ↔ uri.scheme = "http".toList := by
  rcases lower with isHttp | isHttps
  · rw [isHttp]
    decide
  · rw [isHttps]
    decide

theorem AbsoluteUri.IsTranslated.portFits (translated : uri.IsTranslated) :
    match uri.explicitPort with
    | some port => port < 65536
    | none => SameUpToCase uri.scheme "http".toList := by
  obtain ⟨lower, -, isPort⟩ := translated
  revert isPort
  cases uri.explicitPort with
  | none => exact (AbsoluteUri.http_iff_of_lower lower).mpr
  | some explicit => exact id

/-- The target and the line of a request whose URI is translated are those that
the URI denotes. -/
theorem ParsedLine.denoted (line : ParsedLine crates head request)
    (regular : request.target.isConnect = false)
    (words : request.parts = [request.method, uri.toText, version])
    (isParsed : crates.parseUri uri.toText = some parsed) (describes : uri.Describes parsed)
    (translated : uri.IsTranslated) :
    request.target.host = uri.denotedHost ∧ request.target.port.toNat = uri.denotedPort ∧
      rewrittenLine crates request = originLine request uri version := by
  have isTarget := line.target_eq regular (line.uri_of_words words) isParsed describes
  refine ⟨?_, ?_, (uri.rewrittenLine_eq_iff line words isParsed describes).mpr translated.1⟩
  · rw [isTarget]
    exact AbsoluteUri.host_eq_denotedHost_iff.mpr translated.2.1
  · rw [isTarget]
    exact (uri.port_eq_iff describes).mpr translated.portFits

/-- A regular request for an absolute URI that `http::Uri` parses is translated
to what the URI denotes exactly if the scheme is spelled in lower case, the host
is no IP literal in brackets, and the port fits into 16 bits or is not given for
`http`. -/
theorem Session.translates_iff (starts : session.StartsWith head request payload)
    (words : request.parts = [request.method, uri.toText, version])
    (isParsed : crates.parseUri uri.toText = some parsed) (describes : uri.Describes parsed) :
    session.Translates request uri version ↔ uri.IsTranslated := by
  have serves := starts.serves
  have line := parsedLine_of_ok starts.framed.valid.2.1
  have isUri : request.uri = uri.toText := line.uri_of_words words
  have isTarget := line.target_eq starts.regular isUri isParsed describes
  have host : session.handed.host = uri.host := by rw [serves.host, isTarget]
  have portIff := uri.port_eq_iff describes
  rw [show parsed.portU16.getD httpDefaultPort = session.handed.port by
    rw [serves.port, isTarget]] at portIff
  have forwardsIff : [originLine request uri version, filterHopByHopHeaders request.headers] <:+
      writes .target session.handshakeEvents ↔
        uri.scheme = "http".toList ∨ uri.scheme = "https".toList := by
    obtain ⟨earlier, written⟩ := serves.forwards
    rw [written, ← uri.rewrittenLine_eq_iff line words isParsed describes]
    constructor
    · rintro ⟨others, same⟩
      exact (List.cons.inj (List.append_inj_right' same rfl)).1.symm
    · intro same
      rw [same]
      exact List.suffix_append _ _
  have connects := serves.connects
  rw [← serves.host, ← serves.port, host] at connects
  constructor
  · intro translates
    have lower := forwardsIff.mp translates.forwards
    have plain := AbsoluteUri.host_eq_denotedHost_iff.mp (host.symm.trans translates.host)
    have isPort := portIff.mp translates.port
    refine ⟨lower, plain, ?_⟩
    revert isPort
    cases uri.explicitPort with
    | none => exact (AbsoluteUri.http_iff_of_lower lower).mp
    | some explicit => exact id
  · intro translated
    have denoted := AbsoluteUri.host_eq_denotedHost_iff.mpr translated.2.1
    exact ⟨host.trans denoted, portIff.mpr translated.portFits, denoted ▸ connects,
      forwardsIff.mpr translated.1⟩

/-! ## Two requests -/

/-- The root of a host, `http://host/`. -/
def rootUri (host : Text) : AbsoluteUri where
  scheme := "http".toList
  userinfo := none
  host := host
  port := none
  path := "/".toList
  query := none
  isHttp := .inl (by decide)
  portDigits := nofun
  rooted := fun _ => rfl

/-- `http://a.example:8080/x?y`. -/
def explicitPortUri : AbsoluteUri where
  scheme := "http".toList
  userinfo := none
  host := "a.example".toList
  port := some "8080".toList
  path := "/x".toList
  query := some "y".toList
  isHttp := .inl (by decide)
  portDigits := by decide
  rooted := fun _ => rfl

/-- `https://a.example/`. -/
def httpsUri : AbsoluteUri where
  scheme := "https".toList
  userinfo := none
  host := "a.example".toList
  port := none
  path := "/".toList
  query := none
  isHttp := .inr (by decide)
  portDigits := nofun
  rooted := fun _ => rfl

/-- The parsed head of a `GET` request without header fields. -/
def bareRequest (uri : AbsoluteUri) (port : UInt16) : HttpRequest where
  requestLine := asBytes ("GET ".toList ++ uri.toText ++ " HTTP/1.1\r\n".toList)
  headers := crlf
  parts := ["GET".toList, uri.toText, "HTTP/1.1".toList]
  method := "GET".toList
  uri := uri.toText
  target := ⟨uri.host, port, false⟩

def bareHead (uri : AbsoluteUri) : Bytes :=
  asBytes ("GET ".toList ++ uri.toText ++ " HTTP/1.1\r\n\r\n".toList)

def explicitPortSession : Session referenceCrates none [] :=
  .ofScript ⟨bareHead explicitPortUri, [], .ok (), []⟩
    ⟨"a.example".toList, 8080, "direct".toList, true, .http, [], []⟩ (by decide +kernel)
    [] (.start [] [] 0) rfl

def httpsSession : Session referenceCrates none [] :=
  .ofScript ⟨bareHead httpsUri, [], .ok (), []⟩
    ⟨"a.example".toList, 80, "direct".toList, true, .http, [], []⟩ (by decide +kernel)
    [] (.start [] [] 0) rfl

/-- The explicit port is used, and the query is kept. -/
theorem Session.translates_iff_explicit :
    explicitPortSession.Translates (bareRequest explicitPortUri 8080) explicitPortUri
      "HTTP/1.1".toList := by
  have starts : explicitPortSession.StartsWith (bareHead explicitPortUri)
      (bareRequest explicitPortUri 8080) [] :=
    ⟨⟨wellFormed_http (by decide +kernel) (by decide +kernel) (by decide +kernel),
      by decide +kernel⟩, rfl⟩
  have isParsed : referenceCrates.parseUri explicitPortUri.toText =
      some ⟨some "a.example".toList, some 8080, "/x".toList, some "y".toList⟩ := by
    decide +kernel
  have describes : explicitPortUri.Describes
      ⟨some "a.example".toList, some 8080, "/x".toList, some "y".toList⟩ :=
    ⟨rfl, by decide +kernel, .inl rfl, rfl⟩
  refine (Session.translates_iff starts rfl isParsed describes).mpr ⟨.inl rfl, by decide, ?_⟩
  change Nat.ofDigitChars 10 "8080".toList 0 < 65536
  decide +kernel

/-- A request for `https` without a port goes to port 80. -/
theorem https_goes_to_port_80 :
    ¬ ∀ (session : Session referenceCrates none []) (head payload : Bytes) (request : HttpRequest)
      (uri : AbsoluteUri) (version : Text) (parsed : Uri),
      session.StartsWith head request payload →
      request.parts = [request.method, uri.toText, version] →
      referenceCrates.parseUri uri.toText = some parsed → uri.Describes parsed →
      session.Translates request uri version := by
  intro claimed
  have starts : httpsSession.StartsWith (bareHead httpsUri) (bareRequest httpsUri 80) [] :=
    ⟨⟨wellFormed_http (by decide +kernel) (by decide +kernel) (by decide +kernel),
      by decide +kernel⟩, rfl⟩
  have isParsed : referenceCrates.parseUri httpsUri.toText =
      some ⟨some "a.example".toList, none, "/".toList, none⟩ := by decide +kernel
  have describes : httpsUri.Describes ⟨some "a.example".toList, none, "/".toList, none⟩ :=
    ⟨rfl, rfl, .inl rfl, rfl⟩
  have port := (claimed _ _ _ _ _ _ _ starts rfl isParsed describes).port
  exact absurd port (by decide +kernel)

end SimpleForwarder

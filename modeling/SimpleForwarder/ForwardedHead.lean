import SimpleForwarder.HeadLines
import SimpleForwarder.HttpForwarding

/-!
Contract: the head that is forwarded for a regular request.

Owns: what a parsed request says about the first line of its head
(`parsedLine_of_ok`), and that the forwarded head is exactly one head
(`Session.forwarded_head_is_one_head`), so the target finds the body where the
proxy did.

The forwarded line is the client's, or it is made of words of the client's line
and of parts of its URI; no word has a line feed.

Does not own: where a request is sent.
-/

namespace SimpleForwarder

open RustText EffectProgram Framing

/-! ## The request line -/

/-- What a parsed request says about its head. -/
structure ParsedLine (crates : Crates) (head : Bytes) (request : HttpRequest) : Prop where
  split : ∃ line, lf ∉ line ∧ head = line ++ lf :: request.headers ∧
    request.requestLine = line ++ [lf]
  words : request.parts = splitWhitespace (trim (fromUtf8Lossy request.requestLine))
  parts : ∃ rest, request.parts = request.method :: request.uri :: rest
  target : (if isConnectMethod request.method then connectTarget request.uri
    else regularTarget crates request.uri) = .ok request.target

variable {crates : Crates} {head : Bytes} {request : HttpRequest}

theorem parsedLine_of_ok (parsed : parseHttpRequest crates head = .ok request) :
    ParsedLine crates head request := by
  unfold parseHttpRequest at parsed
  split at parsed
  · cases parsed
  · next position found =>
      obtain ⟨line, headers, shape, noFeed, length⟩ := position_eq_some_iff.mp found
      have longer : line ++ lf :: headers = (line ++ [lf]) ++ headers := by simp
      have lineLength : (line ++ [lf]).length = position + 1 := by simp [length]
      have first : head.take (position + 1) = line ++ [lf] := by
        rw [shape, longer, List.take_left' lineLength]
      have rest : head.drop (position + 1) = headers := by
        rw [shape, longer, List.drop_left' lineLength]
      dsimp only at parsed
      rw [first, rest] at parsed
      split at parsed
      · next method uri others words =>
          generalize isTarget : (if isConnectMethod method then connectTarget uri
            else regularTarget crates uri) = target at parsed
          cases target with
          | error => cases parsed
          | ok target =>
              cases parsed
              exact ⟨⟨line, noFeed, shape, rfl⟩, rfl, ⟨others, words⟩, isTarget⟩
      · cases parsed

namespace ParsedLine

theorem isConnect_of_connectTarget {uri : Text} {target : RequestTarget}
    (isTarget : connectTarget uri = .ok target) : target.isConnect = true := by
  unfold connectTarget at isTarget
  split at isTarget
  · split at isTarget
    · cases isTarget
      rfl
    · cases isTarget
  · split at isTarget
    · cases isTarget
      rfl
    · cases isTarget
      rfl

/-- A regular request has a URI that was parsed. -/
theorem regular (line : ParsedLine crates head request)
    (regular : request.target.isConnect = false) :
    isConnectMethod request.method = false ∧
      ∃ uri host, crates.parseUri request.uri = some uri ∧ uri.host = some host ∧
        request.target = ⟨host, uri.portU16.getD httpDefaultPort, false⟩ := by
  have isTarget := line.target
  split at isTarget
  · rw [isConnect_of_connectTarget isTarget] at regular
    cases regular
  · next notConnect =>
      refine ⟨Bool.eq_false_iff.mpr notConnect, ?_⟩
      unfold regularTarget at isTarget
      split at isTarget
      · cases isTarget
      · next uri isUri =>
          split at isTarget
          · cases isTarget
          · next host isHost =>
              exact ⟨uri, host, isUri, isHost, (Except.ok.inj isTarget).symm⟩

/-- The words of the line have no white space. -/
theorem solid (line : ParsedLine crates head request) {word : Text}
    (member : word ∈ request.parts) : ∀ char ∈ word, isWhitespace char = false := by
  rw [line.words] at member
  exact splitWhitespace_solid member

/-- The second word is the URI. -/
theorem uri_of_words (line : ParsedLine crates head request) {method uri : Text}
    {others : List Text} (words : request.parts = method :: uri :: others) : request.uri = uri := by
  obtain ⟨rest, parts⟩ := line.parts
  rw [words] at parts
  exact (List.cons.inj (List.cons.inj parts).2).1.symm

end ParsedLine

/-! ## One head -/

/-- What `http::Uri` keeps of a text: the path and the query are parts of it,
or the path is a slash that it supplies. -/
structure KeepsUriParts (crates : Crates) : Prop where
  path : ∀ text uri, crates.parseUri text = some uri →
    uri.path <:+: text ∨ uri.path = "/".toList
  query : ∀ text uri query, crates.parseUri text = some uri → uri.query = some query →
    query <:+: text

/-- The origin form of a URI without white space has none. -/
theorem solid_originForm (keeps : KeepsUriParts crates) {text : Text} {uri : Uri}
    (isUri : crates.parseUri text = some uri)
    (solid : ∀ char ∈ text, isWhitespace char = false) :
    ∀ char ∈ originForm crates text, isWhitespace char = false := by
  have slash : ∀ char ∈ "/".toList, isWhitespace char = false := solid_of_all (by decide)
  have question : ∀ char ∈ "?".toList, isWhitespace char = false := solid_of_all (by decide)
  have solidPath : ∀ char ∈ uri.path, isWhitespace char = false := by
    rcases keeps.path text uri isUri with inText | supplied
    · exact fun char member => solid char (inText.subset member)
    · rw [supplied]
      exact slash
  have path : ∀ char ∈ (if uri.path = [] then "/".toList else uri.path),
      isWhitespace char = false := by
    split
    · exact slash
    · exact solidPath
  unfold originForm
  rw [isUri]
  dsimp only
  split
  · next query isQuery =>
      intro char member
      rcases List.mem_append.mp member with inPath | inQuery
      · rcases List.mem_append.mp inPath with inPath | isQuestion
        · exact path char inPath
        · exact question char isQuestion
      · exact solid char ((keeps.query text uri query isUri isQuery).subset inQuery)
  · exact path

/-- The forwarded line ends with its only line feed. -/
theorem rewrittenLine_split (keeps : KeepsUriParts crates) (line : ParsedLine crates head request)
    (regular : request.target.isConnect = false) :
    ∃ front, lf ∉ front ∧ rewrittenLine crates request = front ++ [lf] := by
  obtain ⟨-, uri, host, isUri, -⟩ := line.regular regular
  obtain ⟨rest, parts⟩ := line.parts
  have methodSolid := line.solid (show request.method ∈ request.parts by rw [parts]; simp)
  have uriSolid := line.solid (show request.uri ∈ request.parts by rw [parts]; simp)
  unfold rewrittenLine
  split
  · have versionSolid : ∀ char ∈ request.parts[2]?.getD "HTTP/1.1".toList,
        isWhitespace char = false := by
      cases isVersion : request.parts[2]? with
      | none => exact solid_of_all (by decide)
      | some version => exact line.solid (List.mem_of_getElem? isVersion)
    have lineEnd : asBytes "\r\n".toList = [cr] ++ [lf] := rfl
    have space : lf ∉ asBytes " ".toList := by decide
    have return' : lf ∉ [cr] := by decide
    dsimp only
    refine ⟨_, ?_, by rw [asBytes_append, lineEnd, ← List.append_assoc]⟩
    simp only [asBytes_append, List.mem_append, not_or]
    exact ⟨⟨⟨⟨⟨lf_not_mem_of_solid methodSolid, space⟩,
      lf_not_mem_of_solid (solid_originForm keeps isUri uriSolid)⟩, space⟩,
      lf_not_mem_of_solid versionSolid⟩, return'⟩
  · obtain ⟨front, noFeed, -, isLine⟩ := line.split
    exact ⟨front, noFeed, isLine⟩

/-- The forwarded head of a regular request is exactly one head. -/
theorem isHeadEnd_forwardedHead (keeps : KeepsUriParts crates)
    (line : ParsedLine crates head request) (regular : request.target.isConnect = false) :
    let forwarded := rewrittenLine crates request ++ filterHopByHopHeaders request.headers
    IsHeadEnd forwarded forwarded.length := by
  obtain ⟨front, noFeed, isLine⟩ := rewrittenLine_split keeps line regular
  intro forwarded
  have shape : forwarded = front ++ lf :: joinLines ((iterHeaderLines request.headers).filter
      (keepsLine (connectionTokens request.headers))) := by
    unfold forwarded
    rw [isLine, filterHopByHopHeaders_eq, List.append_assoc]
    rfl
  rw [shape]
  apply isHeadEnd_joinLines noFeed
  intro field member
  exact mem_iterHeaderLines (List.mem_of_mem_filter member)

variable {localAddr : Option SocketAddr} {rules : List (RuleMatcher × ProxyConfig)}

/-- Whatever the client's line and header lines end with: the head that the
target is sent for a regular request is found as one head, with or without what
the relay sends after it. The client's stream is its own head and the payload,
and the relay carries that payload. -/
theorem Session.forwarded_head_is_one_head (keeps : KeepsUriParts crates)
    {session : Session crates localAddr rules} {payload : Bytes}
    (starts : session.StartsWith head request payload) :
    let forwarded := rewrittenLine crates request ++ filterHopByHopHeaders request.headers
    session.Forwards request payload ∧
      findHeaderSeparator forwarded 0 = some forwarded.length ∧
      findHeaderSeparator (forwarded ++ session.relayed .client) 0 = some forwarded.length ∧
      session.stream .client = head ++ payload ∧
      findHeaderSeparator (session.stream .client) 0 = some head.length := by
  intro forwarded
  obtain ⟨headEnd, parsed, -⟩ := starts.framed.valid
  have isHead : IsHeadEnd forwarded forwarded.length :=
    isHeadEnd_forwardedHead keeps (parsedLine_of_ok parsed) starts.regular
  have stream : session.stream .client = head ++ payload := starts.framed.split
  refine ⟨session.forwards starts, findHeaderSeparator_from_start.mpr isHead,
    findHeaderSeparator_from_start.mpr (isHead.append _), stream, ?_⟩
  rw [stream]
  exact findHeaderSeparator_from_start.mpr (headEnd.append payload)

/-! ## A head without end-to-end fields -/

theorem keepsUriParts_referenceCrates : KeepsUriParts referenceCrates := by
  have parts : ∀ text uri, parseAbsoluteUri text = some uri →
      (uri.path <:+: text ∨ uri.path = "/".toList) ∧
        ∀ query, uri.query = some query → query <:+: text := by
    intro text uri isUri
    unfold parseAbsoluteUri at isUri
    dsimp only at isUri
    rw [Option.bind_eq_some_iff] at isUri
    obtain ⟨rest, isRest, isUri⟩ := isUri
    have inText : rest <:+: text := by
      split at isRest
      · rw [← Option.some.inj isRest]
        exact (List.drop_suffix 7 text).isInfix
      · split at isRest
        · rw [← Option.some.inj isRest]
          exact (List.drop_suffix 8 text).isInfix
        · cases isRest
    split at isUri
    · cases isUri
    · cases isUri
      constructor
      · dsimp only
        split
        · exact .inr rfl
        · refine .inl (.trans ?_ inText)
          exact (List.takeWhile_prefix _).isInfix.trans (List.drop_suffix _ _).isInfix
      · intro query isQuery
        dsimp only at isQuery
        split at isQuery
        · cases isQuery
          refine .trans ?_ inText
          exact ((List.drop_suffix _ _).trans ((List.drop_suffix _ _).trans
            (List.drop_suffix _ _))).isInfix
        · cases isQuery
  constructor
  · exact fun text uri isUri => (parts text uri isUri).1
  · exact fun text uri query isUri => (parts text uri isUri).2 query

/-- The only field of the head is dropped, and the body follows the head. -/
theorem Session.forwarded_head_is_one_head_chunked :
    findHeaderSeparator (asBytes "POST / HTTP/1.1\r\n\r\n".toList ++ chunkedBody) 0 = some 19 := by
  obtain ⟨-, -, found, -⟩ := Session.forwarded_head_is_one_head keepsUriParts_referenceCrates
    chunkedSession_startsWith
  have forwarded : rewrittenLine referenceCrates chunkedRequest ++
      filterHopByHopHeaders chunkedRequest.headers =
        asBytes "POST / HTTP/1.1\r\n\r\n".toList := by decide +kernel
  rw [forwarded] at found
  exact found

end SimpleForwarder

import SimpleForwarder.Agreement
import SimpleForwarder.HeadFraming
import SimpleForwarder.HeadLines

/-!
Contract: the request that `http_connect` writes, as a head.

Owns: the head of two lines (`isHeadEnd_of_lines`), the round trip of a
`CONNECT` request through the program's own reader (`connect_round_trip`), and
when the request written for a client's host is one head (`one_head_iff`).

The host is any text: it is what a client sent, or an address that a lookup
answered. Brackets are added around a text with a colon.

Does not own: the response.
-/

namespace SimpleForwarder

open RustText IpText EffectProgram Program

/-- The text after `CONNECT`, which is also the value of `Host`. -/
def connectAuthority (host : Text) (port : UInt16) : Text :=
  formattedHost host ++ ':' :: decimal port.toNat

/-- The line `Host: authority`. -/
def hostLine (host : Text) (port : UInt16) : Text := "Host: ".toList ++ connectAuthority host port

def connectLine (host : Text) (port : UInt16) : Text :=
  "CONNECT".toList ++ ' ' :: (connectAuthority host port ++ ' ' :: "HTTP/1.1".toList)

theorem connectRequest_eq (host : Text) (port : UInt16) :
    connectRequest host port =
      connectLine host port ++ "\r\n".toList ++ (hostLine host port ++ "\r\n\r\n".toList) := by
  have method : "CONNECT ".toList = "CONNECT".toList ++ [' '] := rfl
  have version : " HTTP/1.1\r\nHost: ".toList =
      ' ' :: "HTTP/1.1".toList ++ ("\r\n".toList ++ "Host: ".toList) := rfl
  have authority : formattedHost host ++ ":".toList ++ decimal port.toNat =
      connectAuthority host port := by
    rw [List.append_assoc]
    rfl
  unfold connectRequest connectLine hostLine
  dsimp only
  rw [authority, method, version]
  simp only [List.append_assoc, List.cons_append, List.nil_append]

/-- The request on the wire: two lines and an empty one. -/
theorem asBytes_connectRequest (host : Text) (port : UInt16) :
    asBytes (connectRequest host port) =
      asBytes (connectLine host port) ++ crlf ++ (asBytes (hostLine host port) ++ crlf ++ crlf) := by
  have lineEnd : asBytes "\r\n".toList = crlf := rfl
  have headEnd : asBytes "\r\n\r\n".toList = crlf ++ crlf := rfl
  rw [connectRequest_eq, asBytes_append, asBytes_append, asBytes_append, lineEnd, headEnd,
    List.append_assoc (asBytes (hostLine host port))]

/-! ## A head of two lines -/

theorem twoLines_eq (line field : Bytes) :
    line ++ crlf ++ (field ++ crlf ++ crlf) = (line ++ [cr]) ++ lf :: joinLines [field] := by
  simp [crlf, joinLines]

/-- Two lines and an empty one are a head. -/
theorem isHeadEnd_of_lines {line field : Bytes} (lineNoFeed : lf ∉ line) (fieldNoFeed : lf ∉ field)
    (nonempty : field ≠ []) :
    IsHeadEnd (line ++ crlf ++ (field ++ crlf ++ crlf))
      (line ++ crlf ++ (field ++ crlf ++ crlf)).length := by
  rw [twoLines_eq]
  apply isHeadEnd_joinLines (lf_not_mem_concat_cr lineNoFeed)
  intro other member
  rw [List.mem_singleton.mp member]
  exact ⟨nonempty, fieldNoFeed⟩

/-! ## The authority -/

theorem isWhitespace_of_mem_decimal {number : Nat} {char : Char}
    (member : char ∈ decimal number) : isWhitespace char = false :=
  isWhitespace_of_digitValue (digitValue_of_isDigit (isDigit_of_mem_decimal member))

/-- The authority of a host is one word exactly if the host has no white
space. -/
theorem connectAuthority_isWord_iff (host : Text) (port : UInt16) :
    IsWord (connectAuthority host port) ↔ ∀ char ∈ host, isWhitespace char = false := by
  have nonempty : connectAuthority host port ≠ [] :=
    List.append_ne_nil_of_right_ne_nil _ (List.cons_ne_nil _ _)
  have hostPart : (∀ char ∈ formattedHost host, isWhitespace char = false) ↔
      ∀ char ∈ host, isWhitespace char = false := by
    have opening : isWhitespace '[' = false := by decide
    have closing : isWhitespace ']' = false := by decide
    unfold formattedHost
    split
    · simp [opening, closing, or_imp, forall_and]
    · exact Iff.rfl
  constructor
  · intro isWord
    exact hostPart.mp fun char member => isWord.solid char (List.mem_append_left _ member)
  · intro solid
    refine ⟨nonempty, fun char member => ?_⟩
    rcases List.mem_append.mp member with inHost | later
    · exact hostPart.mpr solid char inHost
    · rcases List.mem_cons.mp later with rfl | inPort
      · decide
      · exact isWhitespace_of_mem_decimal inPort

/-- The reader undoes the bracket rule of the writer, for a host without
brackets of its own. -/
theorem connectTarget_connectAuthority {host : Text} (noOpening : '[' ∉ host)
    (noClosing : ']' ∉ host) (port : UInt16) :
    connectTarget (connectAuthority host port) = .ok ⟨host, port, true⟩ := by
  unfold connectAuthority formattedHost
  split
  · exact connectTarget_bracketed noClosing port
  · exact connectTarget_plain noOpening port

/-! ## The round trip -/

theorem length_asBytes_le (text : Text) : (asBytes text).length ≤ 4 * text.length := by
  induction text with
  | nil => exact Nat.zero_le _
  | cons char text inductionHypothesis =>
      rw [asBytes_cons, List.length_append, String.length_utf8EncodeChar, List.length_cons]
      have atMost := char.utf8Size_le_four
      omega

theorem length_decimal_le (port : UInt16) : (decimal port.toNat).length ≤ 5 := by
  have bound := port.toNat_lt
  exact (Nat.length_toDigits_le_iff (by decide) (by decide)).mpr (by omega)

theorem length_connectAuthority_le (host : Text) (port : UInt16) :
    (asBytes (connectAuthority host port)).length ≤ (asBytes host).length + 30 := by
  have digits := length_asBytes_le (decimal port.toNat)
  have few := length_decimal_le port
  have colon := (':' : Char).utf8Size_le_four
  have hostPart : (asBytes (formattedHost host)).length ≤ (asBytes host).length + 2 := by
    have opening : (asBytes "[".toList).length = 1 := rfl
    have closing : (asBytes "]".toList).length = 1 := rfl
    unfold formattedHost
    split
    · rw [asBytes_append, asBytes_append, List.length_append, List.length_append, opening, closing]
      omega
    · exact Nat.le_add_right _ _
  simp only [connectAuthority, asBytes_append, asBytes_cons, List.length_append,
    String.length_utf8EncodeChar]
  omega

/-- A host of at most 8000 bytes fits into a head that is accepted. -/
theorem length_connectRequest_le (host : Text) (port : UInt16) :
    (asBytes (connectRequest host port)).length ≤ 2 * (asBytes host).length + 100 := by
  have authority := length_connectAuthority_le host port
  have method : (asBytes "CONNECT".toList).length = 7 := rfl
  have version : (asBytes "HTTP/1.1".toList).length = 8 := rfl
  have name : (asBytes "Host: ".toList).length = 6 := rfl
  have space : (String.utf8EncodeChar ' ').length = 1 := rfl
  have lineEnd : crlf.length = 2 := rfl
  rw [asBytes_connectRequest]
  unfold connectLine hostLine
  simp only [asBytes_append, asBytes_cons, List.length_append, method, version, name, space,
    lineEnd]
  omega

theorem lf_not_mem_connectLine {host : Text} {port : UInt16}
    (solid : ∀ char ∈ host, isWhitespace char = false) :
    lf ∉ asBytes (connectLine host port) := by
  have inAuthority := lf_not_mem_of_solid ((connectAuthority_isWord_iff host port).mpr solid).solid
  have method : lf ∉ asBytes "CONNECT".toList := by decide
  have version : lf ∉ asBytes "HTTP/1.1".toList := by decide
  have space : lf ∉ String.utf8EncodeChar ' ' := by decide
  unfold connectLine
  simp only [asBytes_append, asBytes_cons, List.mem_append, not_or]
  exact ⟨method, space, inAuthority, space, version⟩

theorem lf_not_mem_hostLine {host : Text} {port : UInt16}
    (solid : ∀ char ∈ host, isWhitespace char = false) :
    lf ∉ asBytes (hostLine host port) := by
  have inAuthority := lf_not_mem_of_solid ((connectAuthority_isWord_iff host port).mpr solid).solid
  have name : lf ∉ asBytes "Host: ".toList := by decide
  unfold hostLine
  simp only [asBytes_append, List.mem_append, not_or]
  exact ⟨name, inAuthority⟩

theorem hostLine_ne_nil (host : Text) (port : UInt16) : asBytes (hostLine host port) ≠ [] := by
  have name : asBytes "Host: ".toList ≠ [] := by decide
  unfold hostLine
  rw [asBytes_append]
  exact List.append_ne_nil_of_left_ne_nil name _

/-- The request for a host without white space is one head. -/
theorem isHeadEnd_connectRequest {host : Text} {port : UInt16}
    (solid : ∀ char ∈ host, isWhitespace char = false) :
    IsHeadEnd (asBytes (connectRequest host port)) (asBytes (connectRequest host port)).length := by
  rw [asBytes_connectRequest]
  exact isHeadEnd_of_lines (lf_not_mem_connectLine solid) (lf_not_mem_hostLine solid)
    (hostLine_ne_nil host port)

theorem connectWord : IsWord "CONNECT".toList := ⟨by decide, solid_of_all (by decide)⟩

theorem versionWord : IsWord "HTTP/1.1".toList := ⟨by decide, solid_of_all (by decide)⟩

/-- A stream that is one head is read as that head, with nothing left over. -/
theorem FramesHead.returned_all {limit : Nat} {errors : HeadErrors} {closes : Bool}
    {stream bytes : Bytes} {outcome : Outcome Text (Bytes × Bytes)}
    (frames : FramesHead limit errors closes stream bytes outcome)
    (headEnd : IsHeadEnd stream stream.length) (short : stream.length ≤ limit) :
    outcome = .returned (stream, []) := by
  obtain ⟨head, leftover, returned⟩ := frames.accepts_iff.mpr ⟨stream.length, short, headEnd⟩
  obtain ⟨split, isHead⟩ := frames.split head leftover returned
  have whole : head = stream := by
    rw [isHead stream.length headEnd, List.take_length]
  have nothing : leftover = [] := by
    have inside := frames.fromStream.length_le
    rw [← split, whole, List.length_append] at inside
    exact List.length_eq_zero_iff.mp (by omega)
  rw [returned, whole, nothing]

/-- `handle_http` up to the connection attempt, as an execution. -/
theorem exec_readHttpRequest (crates : Crates) (firstByte : UInt8) (time : Nat)
    (arrival : Arrival) :
    (exec (Arrival.answer .client) time (readHttpRequest crates firstByte) arrival).2 =
      (readRequestHead firstByte time arrival).2.andThen fun (headerBytes, leftover) =>
        (parseHttpRequest crates headerBytes).map fun request => (request, leftover) := by
  have shape : readHttpRequest crates firstByte =
      (readHttpHeaders firstByte).bind fun value =>
        (settle (parseHttpRequest crates value.1)).bind fun request =>
          .ret (request, value.2) := rfl
  rw [shape, exec_bind_settle]
  rfl

/-- `http_connect` writes its request and reads. -/
def Op.OfConnect (request : Bytes) (op : Op) : Prop :=
  op = .writeAll .target request ∨ op = .read .target 1024

theorem httpConnect_only (host : Text) (port : UInt16) :
    (httpConnect host port).Only (Op.OfConnect (asBytes (connectRequest host port))) := by
  have write : (writeAll .target (asBytes (connectRequest host port))).Only
      (Op.OfConnect (asBytes (connectRequest host port))) := only_performOr (.inl rfl)
  have reads : (readHead .target connectResponseMaxLen connectResponseErrors []).Only
      (Op.OfConnect (asBytes (connectRequest host port))) :=
    (readHead_only []).imp fun _ isRead => .inr isRead
  exact write.bind fun _ => reads.bind fun _ => only_settle.bind fun _ => only_ret _

theorem eq_of_mem_writes {request bytes : Bytes} {events : List SocketEvent}
    (only : ∀ event ∈ events, event.op.OfConnect request)
    (written : bytes ∈ writes .target events) : bytes = request := by
  obtain ⟨event, member, isWrite⟩ := List.mem_filterMap.mp written
  obtain ⟨op, time, response⟩ := event
  rcases only _ member with same | same
  · cases same
    exact (Option.some.inj isWrite).symm
  · cases same
    exact absurd isWrite nofun

/-- The request is parsed to the host and the port it was written for. -/
theorem parseHttpRequest_connectRequest (crates : Crates) {host : Text} (port : UInt16)
    (solid : ∀ char ∈ host, isWhitespace char = false) (noOpening : '[' ∉ host)
    (noClosing : ']' ∉ host) :
    ∃ request, parseHttpRequest crates (asBytes (connectRequest host port)) = .ok request ∧
      request.target = ⟨host, port, true⟩ := by
  have isUri := (connectAuthority_isWord_iff host port).mpr solid
  have isConnect : isConnectMethod "CONNECT".toList = true := by decide
  refine ⟨?_, ?parsed, ?target⟩
  case parsed =>
    rw [asBytes_connectRequest]
    refine (parseHttpRequest_line connectWord isUri versionWord _).trans ?_
    rw [if_pos isConnect, connectTarget_connectAuthority noOpening noClosing]
    rfl
  case target => rfl

/-- What `http_connect` writes is read by `handle_http` as a `CONNECT` request
for the same host and port, however it is cut, with nothing left over. -/
theorem connect_round_trip (crates : Crates) (host : Text) (port : UInt16)
    (short : (asBytes host).length ≤ 8000) (solid : ∀ char ∈ host, isWhitespace char = false)
    (noOpening : '[' ∉ host) (noClosing : ']' ∉ host) :
    ∃ firstByte rest, asBytes (connectRequest host port) = firstByte :: rest ∧
      (∀ start events outcome stop, Runs (httpConnect host port) start events outcome stop →
        ∀ bytes ∈ writes .target events, bytes = firstByte :: rest) ∧
      ∀ (cutting : Cutting 1024 rest) (closes : Bool) (time : Nat),
        ∃ request, request.target = ⟨host, port, true⟩ ∧
          (exec (Arrival.answer .client) time (readHttpRequest crates firstByte)
            (cutting.arrival closes)).2 = .returned (request, []) := by
  have headEnd : IsHeadEnd (asBytes (connectRequest host port)) _ := isHeadEnd_connectRequest solid
  have length := length_connectRequest_le host port
  obtain ⟨request, parsed, target⟩ :=
    parseHttpRequest_connectRequest crates port solid noOpening noClosing
  cases shape : asBytes (connectRequest host port) with
  | nil =>
      rw [shape] at headEnd
      exact absurd headEnd.ends (by decide)
  | cons firstByte rest =>
      refine ⟨firstByte, rest, rfl, ?_, fun cutting closes time =>
        ⟨request, target, ?_⟩⟩
      · intro start events outcome stop run bytes written
        rw [← shape]
        exact eq_of_mem_writes (run.only (httpConnect_only host port)) written
      · rw [shape] at headEnd length parsed
        have within : (firstByte :: rest).length ≤ httpHeaderMaxLen := by
          have limit : httpHeaderMaxLen = 16384 := rfl
          omega
        have read := (readRequestHead_frames firstByte cutting closes time).returned_all headEnd
          within
        rw [exec_readHttpRequest, read]
        simp only [Outcome.andThen, parsed, Except.map]

/-- The text `::1` and the port 8080, in any pieces. -/
theorem connect_round_trip_loopback :
    ∃ firstByte rest, asBytes (connectRequest "::1".toList 8080) = firstByte :: rest ∧
      ∀ (cutting : Cutting 1024 rest) (closes : Bool) (time : Nat),
        ∃ request, request.target = ⟨"::1".toList, 8080, true⟩ ∧
          (exec (Arrival.answer .client) time (readHttpRequest referenceCrates firstByte)
            (cutting.arrival closes)).2 = .returned (request, []) := by
  obtain ⟨firstByte, rest, shape, -, decodes⟩ :=
    connect_round_trip referenceCrates "::1".toList 8080 (by decide) (solid_of_all (by decide))
      (by decide) (by decide)
  exact ⟨firstByte, rest, shape, decodes⟩

/-! ## One head for every host -/

/-- The bytes are the head of one `CONNECT` request for the authority, the text
that `http_connect` formats from a host: white space at its ends is part of it. -/
structure FormsOneHead (authority : Text) (bytes : Bytes) : Prop where
  ends : findHeaderSeparator bytes 0 = some bytes.length
  requestLine : splitWhitespace (fromUtf8Lossy (bytes.takeWhile (· ≠ lf))) =
    ["CONNECT".toList, authority, "HTTP/1.1".toList]
  oneField : (iterHeaderLines ((bytes.dropWhile (· ≠ lf)).drop 1)).length = 1

/-- What stands before and behind the first line feed. -/
theorem takeWhile_line {line : Bytes} (noFeed : lf ∉ line) (rest : Bytes) :
    (line ++ lf :: rest).takeWhile (· ≠ lf) = line ∧
      ((line ++ lf :: rest).dropWhile (· ≠ lf)).drop 1 = rest := by
  have plain : ∀ byte ∈ line, decide (byte ≠ lf) = true := by
    intro byte member
    rw [decide_eq_true_iff]
    rintro rfl
    exact noFeed member
  constructor
  · rw [List.takeWhile_append_of_pos plain, List.takeWhile_cons_of_neg (by simp), List.append_nil]
  · rw [List.dropWhile_append_of_pos plain, List.dropWhile_cons_of_neg (by simp)]
    rfl

/-- The request for a host is one head exactly if the host has no white
space. -/
theorem formsOneHead_iff (host : Text) (port : UInt16) :
    FormsOneHead (connectAuthority host port) (asBytes (connectRequest host port)) ↔
      ∀ char ∈ host, isWhitespace char = false := by
  constructor
  · intro forms
    have member : connectAuthority host port ∈ splitWhitespace (fromUtf8Lossy
        ((asBytes (connectRequest host port)).takeWhile (· ≠ lf))) := by
      rw [forms.requestLine]
      exact List.mem_cons_of_mem _ List.mem_cons_self
    have nonempty : connectAuthority host port ≠ [] :=
      List.append_ne_nil_of_right_ne_nil _ (List.cons_ne_nil _ _)
    exact (connectAuthority_isWord_iff host port).mp ⟨nonempty, splitWhitespace_solid member⟩
  · intro solid
    have isUri := (connectAuthority_isWord_iff host port).mpr solid
    have lineNoFeed : lf ∉ asBytes (connectLine host port) ++ [cr] := by
      rw [List.mem_append, not_or]
      exact ⟨lf_not_mem_connectLine solid, by decide⟩
    have shape : asBytes (connectRequest host port) =
        (asBytes (connectLine host port) ++ [cr]) ++ lf ::
          joinLines [asBytes (hostLine host port)] := by
      rw [asBytes_connectRequest, twoLines_eq]
    obtain ⟨line, block⟩ := takeWhile_line lineNoFeed (joinLines [asBytes (hostLine host port)])
    rw [← shape] at line block
    have fields : iterHeaderLines (joinLines [asBytes (hostLine host port)]) =
        [asBytes (hostLine host port)] := by
      refine iterHeaderLines_joinLines fun field member => ?_
      rw [List.mem_singleton.mp member]
      exact ⟨hostLine_ne_nil host port, lf_not_mem_hostLine solid⟩
    have returned : asBytes (connectLine host port) ++ [cr] =
        asBytes (connectLine host port ++ ['\r']) := by
      rw [asBytes_append]
      rfl
    refine ⟨?_, ?_, ?_⟩
    · exact findHeaderSeparator_from_start.mpr (isHeadEnd_connectRequest solid)
    · have words := splitWhitespace_line connectWord isUri versionWord
      have spaced : connectLine host port ++ "\r\n".toList =
          connectLine host port ++ ['\r'] ++ ['\n'] := by
        rw [List.append_assoc]
        rfl
      unfold connectLine at spaced returned line
      rw [spaced, splitWhitespace_concat_of_whitespace (by decide)] at words
      rw [line, returned, fromUtf8Lossy_asBytes, words]
    · rw [block, fields]
      rfl

/-- The address with which a lookup was answered. -/
def answeredIp : SocketEvent → Option IpAddr
  | ⟨.lookupHost _, _, .ready (.ok (addr :: _))⟩ => some addr.ip
  | _ => none

/-- The host of the request: the first address of an answered lookup, or the
text that the client sent. -/
def requestedHost (host : Text) (events : List SocketEvent) : Text :=
  match events.findSome? answeredIp with
  | some ip => ip.toText
  | none => host

variable {start stop : Nat} {events : List SocketEvent}

/-- The operations of `http_connect` are no lookups. -/
theorem answeredIp_eq_none {request : Bytes} {event : SocketEvent}
    (only : event.op.OfConnect request) : answeredIp event = none := by
  obtain ⟨op, time, response⟩ := event
  rcases only with same | same
  · cases same
    rfl
  · cases same
    rfl

/-- The host that an answer of the resolver, or none in time, leads to. -/
def hostOfAnswer (host : Text) : Option (Except Text (List SocketAddr)) → Text
  | some (.ok (addr :: _)) => addr.ip.toText
  | _ => host

/-- The lookup of an upstream that is given addresses. -/
theorem finalHost_ensures (host : Text) (port : UInt16) :
    Ensures (finalHost .http host port true) fun events outcome =>
      writes .target events = [] ∧
        ∀ final, outcome = .returned final → final = requestedHost host events := by
  let query := host ++ ":".toList ++ decimal port.toNat
  have lookup : Ensures ((lookupHost query).timeout proxyHandshakeTimeout :
      Async (Option (Except Text (List SocketAddr)))) fun events outcome =>
        writes .target events = [] ∧ ∀ answer, outcome = .returned answer →
          requestedHost host events = hostOfAnswer host answer := by
    intro start events outcome stop run
    rcases runs_timeout_performOr run with ⟨answer, rfl, rfl⟩ | ⟨progress, rfl, outcomes⟩
    · refine ⟨rfl, fun result same => ?_⟩
      cases same
      cases answer with
      | error error => rfl
      | ok addrs =>
          cases addrs with
          | nil => rfl
          | cons addr addrs => rfl
    · refine ⟨rfl, fun result same => ?_⟩
      rcases outcomes with rfl | rfl
      · cases same
        rfl
      · exact absurd same nofun
  refine Ensures.bind lookup ?_ (fun error events found => ⟨found.1, nofun⟩)
    (fun events found => ⟨found.1, nofun⟩)
  intro answer before found
  have quiet : ∀ final, final = requestedHost host before →
      Ensures (.ret final : Async Text) fun after outcome =>
        writes .target (before ++ after) = [] ∧
          ∀ value, outcome = .returned value → value = requestedHost host (before ++ after) := by
    intro final isRequested
    refine Ensures.ret ⟨by rw [List.append_nil]; exact found.1, fun value same => ?_⟩
    cases same
    rw [List.append_nil, isRequested]
  have requested := found.2 answer rfl
  cases answer with
  | none => exact quiet _ requested.symm
  | some answer =>
      cases answer with
      | error error => exact quiet _ requested.symm
      | ok addrs =>
          cases addrs with
          | nil => exact quiet _ requested.symm
          | cons addr addrs => exact quiet _ requested.symm

theorem requestedHost_cons {event : SocketEvent} (quiet : answeredIp event = none) (host : Text)
    (events : List SocketEvent) :
    requestedHost host (event :: events) = requestedHost host events := by
  unfold requestedHost
  rw [List.findSome?_cons, quiet]

theorem requestedHost_append {after : List SocketEvent}
    (quiet : ∀ event ∈ after, answeredIp event = none) (host : Text)
    (before : List SocketEvent) :
    requestedHost host (before ++ after) = requestedHost host before := by
  unfold requestedHost
  rw [List.findSome?_append, List.findSome?_eq_none_iff.mpr quiet, Option.or_none]

/-- The handshake with an HTTP upstream writes its request and looks nothing
up. -/
theorem upstreamHandshake_only (host : Text) (port : UInt16) :
    (withinHandshakeTimeout (upstreamHandshake .http host port)).Only
      (Op.OfConnect (asBytes (connectRequest host port))) := by
  refine ((httpConnect_only host port).timeout _).bind fun result => ?_
  match result with
  | some (.ok value) => exact only_ret _
  | some (.error error) => exact only_fail _
  | none => exact only_fail _

/-- A connect to an HTTP upstream writes at most the request for the host that
its lookup yields. -/
theorem connect_http_ensures (addr host : Text) (port : UInt16) :
    Ensures ((ProxyClient.mk ⟨.http, addr⟩).connect host port true) fun events _ =>
      ∀ bytes ∈ writes .target events,
        bytes = asBytes (connectRequest (requestedHost host events) port) := by
  refine Ensures.bind Ensures.timeout_performOr ?_ ?_ ?_
  · rintro result before ⟨time, response, rfl⟩
    have connected : answeredIp ⟨.connectProxy addr, time, response⟩ = none := rfl
    match result with
    | none => exact Ensures.fail nofun
    | some (.error error) => exact Ensures.fail nofun
    | some (.ok ()) =>
        refine Ensures.bind (finalHost_ensures host port) ?_ ?_ ?_
        · intro final lookup found start handshake outcome stop run bytes written
          have only := run.only (upstreamHandshake_only final port)
          have quiet : ∀ event ∈ handshake, answeredIp event = none :=
            fun event member => answeredIp_eq_none (only event member)
          rw [List.singleton_append, requestedHost_cons connected, requestedHost_append quiet,
            ← found.2 final rfl]
          rw [writes_append, writes_append, found.1] at written
          exact eq_of_mem_writes only written
        · intro error events found bytes written
          rw [writes_append, found.1] at written
          exact absurd written nofun
        · intro events found bytes written
          rw [writes_append, found.1] at written
          exact absurd written nofun
  · rintro error events ⟨time, response, rfl⟩
    exact nofun
  · rintro events ⟨time, response, rfl⟩
    exact nofun

/-- The lookup of the run was answered with an address. -/
def LookupAnswered (events : List SocketEvent) : Prop :=
  ∃ event ∈ events, (answeredIp event).isSome = true

/-- The request written for a client's host is one head exactly if the lookup
was answered or the host has no white space, at its ends neither. -/
theorem one_head_iff (addr host : Text) (port : UInt16) {outcome : Outcome Text Bytes}
    (run : Runs ((ProxyClient.mk ⟨.http, addr⟩).connect host port true) start events outcome stop)
    {bytes : Bytes} (written : bytes ∈ writes .target events) :
    FormsOneHead (connectAuthority (requestedHost host events) port) bytes ↔
      LookupAnswered events ∨ ∀ char ∈ host, isWhitespace char = false := by
  rw [connect_http_ensures addr host port start events outcome stop run bytes written,
    formsOneHead_iff]
  unfold requestedHost LookupAnswered
  cases found : events.findSome? answeredIp with
  | some ip =>
      obtain ⟨event, member, answered⟩ := List.exists_of_findSome?_eq_some found
      have isSome : (answeredIp event).isSome = true := by
        rw [answered]
        rfl
      exact iff_of_true (fun char inText => IpAddr.isWhitespace_of_mem_toText inText)
        (.inl ⟨event, member, isSome⟩)
  | none =>
      have unanswered : ¬ ∃ event ∈ events, (answeredIp event).isSome = true := by
        rintro ⟨event, member, answered⟩
        rw [List.findSome?_eq_none_iff.mp found event member] at answered
        exact absurd answered nofun
      exact (or_iff_right unanswered).symm

/-- The scripted environment with lookups that fail. -/
def answerWithoutLookups (script : Script) : (op : Op) → Option (Resp op × Script)
  | .lookupHost _ => some (.error ⟨.other, "failed to lookup address".toList⟩, script)
  | op => script.answer op

/-- A host name that is not resolved is requested as it is. -/
theorem one_head_iff_plain :
    FormsOneHead (connectAuthority "a".toList 80) (asBytes (connectRequest "a".toList 80)) := by
  let run := exec answerWithoutLookups 0
    ((ProxyClient.mk ⟨.http, "proxy:8118".toList⟩).connect "a".toList 80 true)
    ⟨[], [], .ok (), []⟩
  have written : asBytes (connectRequest "a".toList 80) ∈ writes .target run.1 := by
    decide +kernel
  have requested : requestedHost "a".toList run.1 = "a".toList := by decide +kernel
  have solid : ∀ char ∈ "a".toList, isWhitespace char = false := solid_of_all (by decide)
  have forms := (one_head_iff "proxy:8118".toList "a".toList 80
    (runs_exec answerWithoutLookups 0 _ _) written).mpr (.inr solid)
  rwa [requested] at forms

/-- A domain name that ends the request line, adds a field and ends the head. -/
def injectedDomain : Bytes := asBytes "[a]:80 HTTP/1.1\r\nX: 1\r\n\r\n".toList

/-- A SOCKS5 client that asks for this domain, after its version byte. -/
def injectingClient : Script where
  client := [0x01, 0x00, 0x05, 0x01, 0x00, 0x03, 25] ++ injectedDomain ++ [0x00, 0x50]
  target := []
  connects := .ok ()
  lookups := []

def anyThroughHttp : List (RuleMatcher × ProxyConfig) :=
  [(RuleMatcher.new referenceCrates ["*".toList], ⟨.http, "proxy:8118".toList⟩)]

/-- The upstream receives a head with the client's own field, and more bytes
after it. -/
theorem socks5_domain_injects :
    ∃ events outcome, Runs (handleSocks5 none anyThroughHttp) 0 events outcome 0 ∧
      ∃ bytes ∈ writes .target events, (∀ authority, ¬ FormsOneHead authority bytes) ∧
        ∃ size < bytes.length, IsHeadEnd bytes size ∧
          asBytes "X: 1".toList ∈ iterHeaderLines (bytes.take size) := by
  let run := exec answerWithoutLookups 0 (handleSocks5 none anyThroughHttp) injectingClient
  let bytes := asBytes (connectRequest (fromUtf8Lossy injectedDomain) 80)
  have written : bytes ∈ writes .target run.1 := by decide +kernel
  have early : findHeaderSeparator bytes 0 = some 33 := by decide +kernel
  have longer : bytes.length = 85 := by decide +kernel
  have field : asBytes "X: 1".toList ∈ iterHeaderLines (bytes.take 33) := by decide +kernel
  refine ⟨run.1, run.2, runs_exec _ _ _ _, bytes, written, ?_, 33, ?_, ?_, field⟩
  · intro authority forms
    have ends := forms.ends
    rw [early, longer] at ends
    exact absurd ends (by decide)
  · rw [longer]
    decide
  · exact findHeaderSeparator_from_start.mp early

end SimpleForwarder

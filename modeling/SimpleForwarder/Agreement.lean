import SimpleForwarder.ProxyServer.Handshake
import SimpleForwarder.ReferenceCrates

/-!
Contract: the inbound forms that name an IP target.

Owns: the messages that denote an address and a port in each of the inbound
forms (`Denotes`), and when two of them are routed and connected alike
(`sameDecision_iff`).

A target that is given as text has no `ip` argument; the matcher reads the
text again. The text of an address is read as that address (`parse_toText`),
its text in square brackets is not.

Does not own: the reading of the messages from the wire.
-/

namespace SimpleForwarder

open RustText IpText

/-! ## Request lines -/

/-- A text that is one word of a line. -/
structure IsWord (word : Text) : Prop where
  nonempty : word ≠ []
  solid : ∀ char ∈ word, isWhitespace char = false

/-- A head whose first line is `method uri version`. -/
inductive IsRequestHead (method uri : Text) : Bytes → Prop where
  | line {version : Text} (isVersion : IsWord version) (headers : Bytes) :
      IsRequestHead method uri
        (asBytes (method ++ ' ' :: (uri ++ ' ' :: version)) ++ crlf ++ headers)

theorem splitWhitespace_line {method uri version : Text} (isMethod : IsWord method)
    (isUri : IsWord uri) (isVersion : IsWord version) :
    splitWhitespace (method ++ ' ' :: (uri ++ ' ' :: version) ++ "\r\n".toList) =
      [method, uri, version] := by
  have shape : method ++ ' ' :: (uri ++ ' ' :: version) ++ "\r\n".toList =
      method ++ ' ' :: (uri ++ ' ' :: (version ++ '\r' :: ['\n'])) := by
    simp only [List.append_assoc, List.cons_append]
    rfl
  rw [shape, splitWhitespace_word isMethod.nonempty isMethod.solid (by decide),
    splitWhitespace_word isUri.nonempty isUri.solid (by decide),
    splitWhitespace_word isVersion.nonempty isVersion.solid (by decide),
    splitWhitespace_cons_of_whitespace (by decide), splitWhitespace_nil]

variable {crates : Crates}

/-- What `handle_http` parses a request line of three words to. -/
theorem parseHttpRequest_line {method uri version : Text} (isMethod : IsWord method)
    (isUri : IsWord uri) (isVersion : IsWord version) (headers : Bytes) :
    parseHttpRequest crates
        (asBytes (method ++ ' ' :: (uri ++ ' ' :: version)) ++ crlf ++ headers) =
      (if isConnectMethod method then connectTarget uri else regularTarget crates uri).map
        fun target => ⟨asBytes (method ++ ' ' :: (uri ++ ' ' :: version) ++ "\r\n".toList), headers,
          [method, uri, version], method, uri, target⟩ := by
  let line := method ++ ' ' :: (uri ++ ' ' :: version)
  have noFeed : '\n' ∉ line := by
    have solidFeed : isWhitespace '\n' = true := by decide
    intro member
    simp only [line, List.mem_append, List.mem_cons] at member
    rcases member with inMethod | space | inUri | space | inVersion
    · exact absurd solidFeed (by rw [isMethod.solid _ inMethod]; exact Bool.false_ne_true)
    · exact absurd space (by decide)
    · exact absurd solidFeed (by rw [isUri.solid _ inUri]; exact Bool.false_ne_true)
    · exact absurd space (by decide)
    · exact absurd solidFeed (by rw [isVersion.solid _ inVersion]; exact Bool.false_ne_true)
  have shape : asBytes line ++ crlf ++ headers = (asBytes line ++ [cr]) ++ lf :: headers := by
    simp [crlf]
  have noFeedReturn : lf ∉ asBytes line ++ [cr] := lf_not_mem_concat_cr (lf_not_mem_asBytes noFeed)
  have found : (asBytes line ++ crlf ++ headers).findIdx? (· = lf) =
      some (asBytes line ++ [cr]).length :=
    position_eq_some_iff.mpr ⟨_, headers, shape, noFeedReturn, rfl⟩
  have longer : asBytes line ++ crlf ++ headers = asBytes line ++ [cr] ++ [lf] ++ headers := by
    simp [crlf]
  have length : (asBytes line ++ [cr] ++ [lf]).length = (asBytes line ++ [cr]).length + 1 := by
    rw [List.length_append, List.length_singleton]
  have first : (asBytes line ++ crlf ++ headers).take ((asBytes line ++ [cr]).length + 1) =
      asBytes (line ++ "\r\n".toList) := by
    rw [longer, List.take_left' length, asBytes_append line, List.append_assoc]
    rfl
  have block : (asBytes line ++ crlf ++ headers).drop ((asBytes line ++ [cr]).length + 1) =
      headers := by
    rw [longer, List.drop_left' length]
  unfold parseHttpRequest
  rw [found]
  dsimp only
  rw [first, block, fromUtf8Lossy_asBytes, splitWhitespace_trim,
    splitWhitespace_line isMethod isUri isVersion]

/-- What `handle_http` makes of such a head. -/
theorem parseHttpRequest_of_isRequestHead {method uri : Text} {head : Bytes}
    (isMethod : IsWord method) (isUri : IsWord uri) (isHead : IsRequestHead method uri head)
    {request : HttpRequest} (parsed : parseHttpRequest crates head = .ok request) :
    (if isConnectMethod method then connectTarget uri else regularTarget crates uri) =
      .ok request.target := by
  cases isHead with
  | @line version isVersion headers =>
      rw [parseHttpRequest_line isMethod isUri isVersion] at parsed
      cases target : (if isConnectMethod method then connectTarget uri
          else regularTarget crates uri) with
      | error error =>
          rw [target] at parsed
          exact absurd parsed nofun
      | ok found =>
          rw [target] at parsed
          cases parsed
          rfl

/-! ## The target of a request line -/

/-- The host of an authority: an IPv6 address stands in square brackets. -/
def bracketed : IpAddr → Text
  | .v4 addr => addr.toText
  | .v6 addr => '[' :: (addr.toText ++ [']'])

def authority (addr : IpAddr) (port : UInt16) : Text :=
  bracketed addr ++ ':' :: decimal port.toNat

/-- The absolute form of the root of an address. -/
def httpUri (addr : IpAddr) (port : UInt16) : Text :=
  "http://".toList ++ authority addr port ++ "/".toList

theorem colon_not_mem_decimal (number : Nat) : ':' ∉ decimal number := by
  intro member
  exact absurd (isDigit_of_mem_decimal member) (by decide)

/-- No bracket is printed in an address. -/
theorem bracket_not_mem_toText {addr : IpAddr} {char : Char} (isBracket : char = '[' ∨ char = ']') :
    char ∉ addr.toText := by
  intro member
  rcases IpAddr.mem_toText member with digit | rfl | rfl
  · rcases isBracket with rfl | rfl
    · exact digit (by decide)
    · exact digit (by decide)
  · exact absurd isBracket (by decide)
  · exact absurd isBracket (by decide)

/-- The target of a host without brackets. -/
theorem connectTarget_plain {host : Text} (noBracket : '[' ∉ host) (port : UInt16) :
    connectTarget (host ++ ':' :: decimal port.toNat) = .ok ⟨host, port, true⟩ := by
  have notBracket : (host ++ ':' :: decimal port.toNat).head? ≠ some '[' := by
    cases host with
    | nil =>
        intro bracket
        exact absurd (Option.some.inj bracket) (by decide)
    | cons first rest =>
        intro bracket
        have isFirst : first = '[' := Option.some.inj bracket
        exact noBracket (isFirst ▸ List.mem_cons_self)
  unfold connectTarget
  rw [if_neg notBracket, rsplitOnce_append _ (colon_not_mem_decimal _)]
  dsimp only
  rw [parseU16_decimal]
  rfl

/-- The target of a host in square brackets. -/
theorem connectTarget_bracketed {host : Text} (noBracket : ']' ∉ host) (port : UInt16) :
    connectTarget ('[' :: (host ++ [']']) ++ ':' :: decimal port.toNat) =
      .ok ⟨host, port, true⟩ := by
  have plain : ∀ char ∈ host, decide (char ≠ ']') = true := by
    intro char member
    rw [decide_eq_true_iff]
    rintro rfl
    exact noBracket member
  have shape : '[' :: (host ++ [']']) ++ ':' :: decimal port.toNat =
      '[' :: (host ++ ']' :: ':' :: decimal port.toNat) := by
    simp
  have inside : (host ++ ']' :: ':' :: decimal port.toNat).takeWhile (· ≠ ']') = host := by
    rw [List.takeWhile_append_of_pos plain, List.takeWhile_cons_of_neg (by simp), List.append_nil]
  have afterBracket : ('[' :: (host ++ ']' :: ':' :: decimal port.toNat)).drop (host.length + 2) =
      ':' :: decimal port.toNat := by
    rw [← shape, List.drop_left' (by simp)]
  have long : (asBytes (':' :: decimal port.toNat)).length > 1 := by
    obtain ⟨digit, digits, digitsShape⟩ :=
      List.exists_cons_of_ne_nil (Nat.toDigits_ne_nil (n := port.toNat) (b := 10))
    rw [decimal, digitsShape, asBytes_cons, asBytes_cons, List.length_append,
      List.length_append, String.length_utf8EncodeChar, String.length_utf8EncodeChar]
    have colon := Char.utf8Size_pos ':'
    have nonempty := Char.utf8Size_pos digit
    omega
  unfold connectTarget
  rw [shape, if_pos List.head?_cons, if_pos (by simp)]
  dsimp only [List.tail_cons]
  rw [inside, afterBracket]
  dsimp only [List.tail_cons]
  rw [if_pos ⟨long, rfl⟩, parseU16_decimal]
  rfl

theorem connectTarget_authority (addr : IpAddr) (port : UInt16) :
    connectTarget (authority addr port) = .ok ⟨addr.toText, port, true⟩ := by
  cases addr with
  | v4 addr =>
      have absent : '[' ∉ (IpAddr.v4 addr).toText := bracket_not_mem_toText (.inl rfl)
      exact connectTarget_plain absent port
  | v6 addr =>
      have absent : ']' ∉ (IpAddr.v6 addr).toText := bracket_not_mem_toText (.inr rfl)
      exact connectTarget_bracketed absent port

/-! ## The messages that denote a target -/

/-- `Uri::host` of the absolute form returns an IPv6 literal with its square
brackets, and `Uri::port_u16` the port. -/
def UriKeepsAuthority (crates : Crates) (addr : IpAddr) (port : UInt16) : Prop :=
  ∃ uri, crates.parseUri (httpUri addr port) = some uri ∧ uri.host = some (bracketed addr) ∧
    uri.portU16 = some port

/-- The messages that denote an address and a port. -/
inductive Denotes (crates : Crates) (addr : IpAddr) (port : UInt16) : ClientMessage → Prop where
  | socks4 (message : Socks4Message) (plain : isSocks4aAddr message.addr = false)
      (sameAddr : addr = .v4 message.addr) (samePort : message.port = port) :
      Denotes crates addr port (.socks4 message)
  | socks4a (message : Socks4Message) (marked : isSocks4aAddr message.addr = true)
      (domain : message.domain = asBytes addr.toText) (samePort : message.port = port) :
      Denotes crates addr port (.socks4 message)
  | socks5Ipv4 (message : Socks5Message) {v4 : Ipv4Addr} (named : message.addr = .ipv4 v4)
      (sameAddr : addr = .v4 v4) (samePort : message.port = port) :
      Denotes crates addr port (.socks5 message)
  | socks5Ipv6 (message : Socks5Message) {v6 : Ipv6Addr} (named : message.addr = .ipv6 v6)
      (sameAddr : addr = .v6 v6) (samePort : message.port = port) :
      Denotes crates addr port (.socks5 message)
  | socks5Domain (message : Socks5Message) {name : Bytes} {nonempty : name ≠ []}
      {short : name.length ≤ 253} (named : message.addr = .domain name nonempty short)
      (domain : name = asBytes addr.toText) (samePort : message.port = port) :
      Denotes crates addr port (.socks5 message)
  | connect {method : Text} {head : Bytes} {request : HttpRequest}
      (wellFormed : (ClientMessage.http head request).WellFormed crates)
      (isMethod : IsWord method) (isConnect : isConnectMethod method = true)
      (isHead : IsRequestHead method (authority addr port) head) :
      Denotes crates addr port (.http head request)
  | regular {method : Text} {head : Bytes} {request : HttpRequest}
      (wellFormed : (ClientMessage.http head request).WellFormed crates)
      (isMethod : IsWord method) (isRegular : isConnectMethod method = false)
      (isHead : IsRequestHead method (httpUri addr port) head) :
      Denotes crates addr port (.http head request)

/-- A printed address in its URI form is one word. -/
theorem authority_isWord (addr : IpAddr) (port : UInt16) : IsWord (authority addr port) := by
  have digits : ∀ char ∈ decimal port.toNat, isWhitespace char = false := fun char member =>
    isWhitespace_of_digitValue (digitValue_of_isDigit (isDigit_of_mem_decimal member))
  have printed : ∀ char ∈ addr.toText, isWhitespace char = false :=
    fun char member => IpAddr.isWhitespace_of_mem_toText member
  have host : ∀ char ∈ bracketed addr, isWhitespace char = false := by
    intro char member
    cases addr with
    | v4 addr => exact printed char member
    | v6 addr =>
        simp only [bracketed, List.mem_cons, List.mem_append, List.not_mem_nil, or_false] at member
        rcases member with rfl | inside | rfl
        · decide
        · exact printed char inside
        · decide
  constructor
  · exact List.append_ne_nil_of_right_ne_nil _ (List.cons_ne_nil _ _)
  · intro char member
    rcases List.mem_append.mp member with inHost | later
    · exact host char inHost
    · rcases List.mem_cons.mp later with rfl | inPort
      · decide
      · exact digits char inPort

theorem httpUri_isWord (addr : IpAddr) (port : UInt16) : IsWord (httpUri addr port) := by
  have isAuthority := authority_isWord addr port
  have scheme : ∀ char ∈ "http://".toList, isWhitespace char = false := solid_of_all (by decide)
  have slash : ∀ char ∈ "/".toList, isWhitespace char = false := solid_of_all (by decide)
  constructor
  · exact List.append_ne_nil_of_right_ne_nil _ (by decide)
  · intro char member
    rcases List.mem_append.mp member with first | last
    · rcases List.mem_append.mp first with inScheme | inAuthority
      · exact scheme char inScheme
      · exact isAuthority.solid char inAuthority
    · exact slash char last

/-- What is routed and connected to. -/
structure SameDecision (rules : List (RuleMatcher × ProxyConfig)) (message other : ClientMessage) :
    Prop where
  host : message.host = other.host
  port : message.port = other.port
  matching : ∀ rule ∈ rules,
    rule.1.matches message.host message.ip = rule.1.matches other.host other.ip
  selected : selectRule rules message.host message.ip = selectRule rules other.host other.ip

/-- A message of a tunnel gives the target by its address or by the text of
it, a regular request by the host of its URI. -/
theorem Denotes.target {addr : IpAddr} {port : UInt16} {message : ClientMessage}
    (denotes : Denotes crates addr port message) (uri : UriKeepsAuthority crates addr port) :
    message.port = port ∧
      (message.IsTunnel ∧ message.host = addr.toText ∧
          (message.ip = some addr ∨ message.ip = none) ∨
        ¬ message.IsTunnel ∧ message.host = bracketed addr ∧ message.ip = none) := by
  cases denotes with
  | socks4 message plain sameAddr samePort =>
      refine ⟨samePort, .inl ⟨trivial, ?_, .inl ?_⟩⟩
      · simp only [ClientMessage.host, Socks4Message.request, plain, sameAddr, IpAddr.toText]
        rfl
      · simp only [ClientMessage.ip, Socks4Message.request, plain, sameAddr]
        rfl
  | socks4a message marked domain samePort =>
      refine ⟨samePort, .inl ⟨trivial, ?_, .inr ?_⟩⟩
      · simp only [ClientMessage.host, Socks4Message.request, marked, domain, if_true,
          fromUtf8Lossy_asBytes]
      · simp only [ClientMessage.ip, Socks4Message.request, marked, if_true]
  | socks5Ipv4 message named sameAddr samePort =>
      obtain ⟨methods, rsv, target, messagePort, short, offered⟩ := message
      cases named
      cases sameAddr
      exact ⟨samePort, .inl ⟨trivial, rfl, .inl rfl⟩⟩
  | socks5Ipv6 message named sameAddr samePort =>
      obtain ⟨methods, rsv, target, messagePort, short, offered⟩ := message
      cases named
      cases sameAddr
      exact ⟨samePort, .inl ⟨trivial, rfl, .inl rfl⟩⟩
  | @socks5Domain message name nonempty short named domain samePort =>
      obtain ⟨methods, rsv, target, messagePort, methodsShort, offered⟩ := message
      cases named
      refine ⟨samePort, .inl ⟨trivial, ?_, .inr rfl⟩⟩
      change fromUtf8Lossy name = addr.toText
      rw [domain, fromUtf8Lossy_asBytes]
  | connect wellFormed isMethod isConnect isHead =>
      have target := parseHttpRequest_of_isRequestHead isMethod (authority_isWord addr port) isHead
        wellFormed.2.1
      rw [if_pos isConnect, connectTarget_authority] at target
      have found := (Except.ok.inj target).symm
      unfold ClientMessage.port ClientMessage.IsTunnel ClientMessage.host
      dsimp only
      rw [found]
      exact ⟨rfl, .inl ⟨rfl, rfl, .inr rfl⟩⟩
  | regular wellFormed isMethod isRegular isHead =>
      have target := parseHttpRequest_of_isRequestHead isMethod (httpUri_isWord addr port) isHead
        wellFormed.2.1
      obtain ⟨parsed, parsesTo, host, parsedPort⟩ := uri
      unfold regularTarget at target
      rw [if_neg (Bool.eq_false_iff.mp isRegular), parsesTo] at target
      dsimp only at target
      rw [host, parsedPort] at target
      have found := (Except.ok.inj target).symm
      unfold ClientMessage.port ClientMessage.IsTunnel ClientMessage.host
      dsimp only
      rw [found]
      exact ⟨rfl, .inr ⟨Bool.false_ne_true, rfl, rfl⟩⟩

/-! ## Agreement -/

/-- The matcher looks at the address it has resolved and at the host text. -/
theorem sameDecision_of_resolvedIp {rules : List (RuleMatcher × ProxyConfig)}
    {message other : ClientMessage} (host : message.host = other.host)
    (port : message.port = other.port)
    (resolved : resolvedIp message.host message.ip = resolvedIp other.host other.ip) :
    SameDecision rules message other := by
  have matching : ∀ matcher : RuleMatcher,
      matcher.matches message.host message.ip = matcher.matches other.host other.ip := by
    intro matcher
    unfold RuleMatcher.matches
    rw [resolved, host]
  refine ⟨host, port, fun rule _ => matching rule.1, ?_⟩
  unfold selectRule
  simp only [matching]

theorem resolvedIp_toText {addr : IpAddr} {ip : Option IpAddr}
    (given : ip = some addr ∨ ip = none) :
    resolvedIp addr.toText ip = some addr := by
  rcases given with rfl | rfl
  · rfl
  · exact parse_toText addr

/-- The text of an IPv6 address has no brackets. -/
theorem bracketed_ne_toText (addr : Ipv6Addr) :
    bracketed (.v6 addr) ≠ (IpAddr.v6 addr).toText := by
  intro same
  have member : '[' ∈ (IpAddr.v6 addr).toText := by
    rw [← same]
    exact List.mem_cons_self
  exact bracket_not_mem_toText (.inl rfl) member

theorem SameDecision.symm {rules : List (RuleMatcher × ProxyConfig)}
    {message other : ClientMessage} (same : SameDecision rules message other) :
    SameDecision rules other message :=
  ⟨same.host.symm, same.port.symm, fun rule member => (same.matching rule member).symm,
    same.selected.symm⟩

/-- A tunnel and a regular request agree on an IPv4 address, whose text has no
brackets. -/
theorem sameDecision_mixed {rules : List (RuleMatcher × ProxyConfig)} {addr : IpAddr}
    {tunnel regular : ClientMessage} (port : tunnel.port = regular.port)
    (host : tunnel.host = addr.toText) (ip : tunnel.ip = some addr ∨ tunnel.ip = none)
    (bracketedHost : regular.host = bracketed addr) (noIp : regular.ip = none) :
    SameDecision rules tunnel regular ↔ ∃ v4, addr = .v4 v4 := by
  constructor
  · intro same
    cases addr with
    | v4 addr => exact ⟨addr, rfl⟩
    | v6 addr =>
        have hosts := same.host
        rw [host, bracketedHost] at hosts
        exact absurd hosts.symm (bracketed_ne_toText addr)
  · rintro ⟨v4, rfl⟩
    have regularHost : regular.host = (IpAddr.v4 v4).toText := bracketedHost
    apply sameDecision_of_resolvedIp (host.trans regularHost.symm) port
    rw [host, regularHost, resolvedIp_toText ip, resolvedIp_toText (.inr noIp)]

/-- Two messages that denote the same address and port are routed alike and
connected to the same host text and port exactly if the address is an IPv4
address, or none or both of them are regular HTTP requests. -/
theorem sameDecision_iff {addr : IpAddr} {port : UInt16} (uri : UriKeepsAuthority crates addr port)
    (rules : List (RuleMatcher × ProxyConfig)) {message other : ClientMessage}
    (denotes : Denotes crates addr port message) (otherDenotes : Denotes crates addr port other) :
    SameDecision rules message other ↔
      (∃ v4, addr = .v4 v4) ∨ (message.IsTunnel ↔ other.IsTunnel) := by
  obtain ⟨samePort, target⟩ := denotes.target uri
  obtain ⟨otherPort, otherTarget⟩ := otherDenotes.target uri
  have port_eq : message.port = other.port := samePort.trans otherPort.symm
  rcases target with ⟨tunnel, host, ip⟩ | ⟨regular, host, ip⟩
  · rcases otherTarget with ⟨otherTunnel, otherHost, otherIp⟩ | ⟨otherRegular, otherHost, otherIp⟩
    · refine iff_of_true ?_ (.inr (iff_of_true tunnel otherTunnel))
      apply sameDecision_of_resolvedIp (host.trans otherHost.symm) port_eq
      rw [host, otherHost, resolvedIp_toText ip, resolvedIp_toText otherIp]
    · rw [sameDecision_mixed port_eq host ip otherHost otherIp]
      exact (or_iff_left fun both => otherRegular (both.mp tunnel)).symm
  · rcases otherTarget with ⟨otherTunnel, otherHost, otherIp⟩ | ⟨otherRegular, otherHost, otherIp⟩
    · have mixed : SameDecision rules other message ↔ ∃ v4, addr = .v4 v4 :=
        sameDecision_mixed port_eq.symm otherHost otherIp host ip
      have swapped : SameDecision rules message other ↔ SameDecision rules other message :=
        ⟨SameDecision.symm, SameDecision.symm⟩
      rw [swapped, mixed]
      exact (or_iff_left fun both => regular (both.mpr otherTunnel)).symm
    · refine iff_of_true ?_ (.inr (iff_of_false regular otherRegular))
      apply sameDecision_of_resolvedIp (host.trans otherHost.symm) port_eq
      rw [host, otherHost, ip, otherIp]

/-! ## Two forms of one target -/

/-- SOCKS5 with an address, and the port 80. -/
def socks5Of (addr : Socks5Addr) : ClientMessage :=
  .socks5 ⟨[0x00], 0x00, addr, 80, by decide, by decide⟩

def getHead (uri : Text) : Bytes :=
  asBytes ("GET".toList ++ ' ' :: (uri ++ ' ' :: "HTTP/1.1".toList)) ++ crlf ++ crlf

/-- A regular request for the root of a host. -/
def getOf (uri host : Text) : ClientMessage :=
  .http (getHead uri) {
    requestLine := (getHead uri).dropLast.dropLast
    headers := crlf
    parts := ["GET".toList, uri, "HTTP/1.1".toList]
    method := "GET".toList
    uri := uri
    target := ⟨host, 80, false⟩
  }

theorem getOf_denotes {addr : IpAddr} {uri host : Text} (named : uri = httpUri addr 80)
    (wellFormed : (getOf uri host).WellFormed referenceCrates) :
    Denotes referenceCrates addr 80 (getOf uri host) := by
  have isGet : IsWord "GET".toList := ⟨by decide, solid_of_all (by decide)⟩
  refine .regular wellFormed isGet (by decide) ?_
  rw [← named]
  exact .line ⟨by decide, solid_of_all (by decide)⟩ crlf

theorem getOf_wellFormed {uri host : Text}
    (found : findHeaderSeparator (getHead uri) 0 = some (getHead uri).length)
    (parsed : parseHttpRequest referenceCrates (getHead uri) =
      .ok ⟨(getHead uri).dropLast.dropLast, crlf, ["GET".toList, uri, "HTTP/1.1".toList],
        "GET".toList, uri, host, 80, false⟩) :
    (getOf uri host).WellFormed referenceCrates :=
  ⟨findHeaderSeparator_from_start.mp found, parsed, nofun, nofun⟩

/-- A rule for a network applies to both forms of `10.0.0.1:80`. -/
theorem sameDecision_iff_ipv4 :
    SameDecision [(RuleMatcher.new referenceCrates ["10.0.0.0/8".toList],
        ⟨.socks5, "proxy:1080".toList⟩)]
      (socks5Of (.ipv4 ⟨10, 0, 0, 1⟩)) (getOf "http://10.0.0.1:80/".toList "10.0.0.1".toList) := by
  have uri : UriKeepsAuthority referenceCrates (.v4 ⟨10, 0, 0, 1⟩) 80 :=
    ⟨⟨some "10.0.0.1".toList, some 80, "/".toList, none⟩, by decide +kernel, by decide +kernel, rfl⟩
  have regular : Denotes referenceCrates (.v4 ⟨10, 0, 0, 1⟩) 80
      (getOf "http://10.0.0.1:80/".toList "10.0.0.1".toList) :=
    getOf_denotes (by decide +kernel) (getOf_wellFormed (by decide +kernel) (by decide +kernel))
  have numeric : Denotes referenceCrates (.v4 ⟨10, 0, 0, 1⟩) 80
      (socks5Of (.ipv4 ⟨10, 0, 0, 1⟩)) := .socks5Ipv4 _ rfl rfl rfl
  exact (sameDecision_iff uri _ numeric regular).mpr (.inl ⟨_, rfl⟩)

def loopbackV6 : Ipv6Addr := ⟨[0, 0, 0, 0, 0, 0, 0, 1], rfl⟩

/-- The two forms of `[::1]:80` are connected to different host texts, even
without rules. -/
theorem ipv6_forms_disagree :
    ¬ ∀ addr port message other, UriKeepsAuthority referenceCrates addr port →
      Denotes referenceCrates addr port message → Denotes referenceCrates addr port other →
      SameDecision [] message other := by
  intro agree
  have uri : UriKeepsAuthority referenceCrates (.v6 loopbackV6) 80 :=
    ⟨⟨some "[::1]".toList, some 80, "/".toList, none⟩, by decide +kernel, by decide +kernel, rfl⟩
  have regular : Denotes referenceCrates (.v6 loopbackV6) 80
      (getOf "http://[::1]:80/".toList "[::1]".toList) :=
    getOf_denotes (by decide +kernel) (getOf_wellFormed (by decide +kernel) (by decide +kernel))
  have numeric : Denotes referenceCrates (.v6 loopbackV6) 80 (socks5Of (.ipv6 loopbackV6)) :=
    .socks5Ipv6 _ rfl rfl rfl
  exact absurd (agree _ _ _ _ uri numeric regular).host (by decide +kernel)

end SimpleForwarder

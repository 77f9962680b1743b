import SimpleForwarder.HeadReader
import SimpleForwarder.Lib.Framing
import SimpleForwarder.Lib.Octets
import SimpleForwarder.Rules

/-!
Contract: the connection through an upstream proxy (`proxy_client.rs`).

Owns: `ProxyClient.connect` with its two handshakes, the requests they write,
the replies they accept, and what a successful connect has consumed: exactly
one reply of the upstream, with everything read beyond it returned as
leftover (`ProxyClient.connect_returned`).

Times are milliseconds. The established stream is the side `Peer.target`.

Does not own: which upstream is chosen.
-/

namespace SimpleForwarder

open RustText IpText EffectProgram Program

def connectTimeout : Nat := 10000

/-- `HANDSHAKE_TIMEOUT` of `proxy_client.rs`. -/
def proxyHandshakeTimeout : Nat := 5000

def connectResponseMaxLen : Nat := 8192

def getSocks5Error (code : UInt8) : Text :=
  if code = 0x00 then "succeeded".toList
  else if code = 0x01 then "general SOCKS server failure".toList
  else if code = 0x02 then "connection not allowed by ruleset".toList
  else if code = 0x03 then "Network unreachable".toList
  else if code = 0x04 then "Host unreachable".toList
  else if code = 0x05 then "Connection refused".toList
  else if code = 0x06 then "TTL expired".toList
  else if code = 0x07 then "Command not supported".toList
  else if code = 0x08 then "Address type not supported".toList
  else "unknown error".toList

structure ProxyClient where
  config : ProxyConfig

/-! ## SOCKS5 -/

/-- The address part of the connect request. -/
def socks5Address (host : Text) (isSocks5h : Bool) : Except Text Bytes :=
  match parse host with
  | some (.v4 ipv4) => .ok (0x01 :: ipv4.octets)
  | some (.v6 ipv6) => .ok (0x04 :: ipv6.octets)
  | none =>
      if isSocks5h then
        if (asBytes host).length > 255 then .error "Hostname too long".toList
        else .ok (0x03 :: UInt8.ofNat (asBytes host).length :: asBytes host)
      else
        .error ("Hostname ".toList ++ host ++
          " found but upstream proxy requires an IP address (standard SOCKS5)".toList ++
          " and local resolution failed or was disabled".toList)

def socks5Request (host : Text) (port : UInt16) (isSocks5h : Bool) : Except Text Bytes :=
  (socks5Address host isSocks5h).map fun address =>
    [0x05, 0x01, 0x00] ++ address ++ toBeBytes port

/-- The bound address of the connect response is read and dropped. -/
def skipBoundAddress (atyp : UInt8) : Async Unit :=
  if atyp = 0x01 then do
    let _addrPort ← readExact .target 6
    pure ()
  else if atyp = 0x03 then do
    let lenBuf ← readExact .target 1
    let _rest ← readExact .target ((byteAt 0 lenBuf).toNat + 2)
    pure ()
  else if atyp = 0x04 then do
    let _addrPort ← readExact .target 18
    pure ()
  else .fail ("Invalid ATYP in SOCKS5 response: ".toList ++ decimal atyp.toNat)

def readSocks5Response : Async Unit := do
  let responseHeader ← readExact .target 4
  if byteAt 0 responseHeader ≠ 0x05 then .fail "Invalid SOCKS5 version in connect response".toList
  else if byteAt 1 responseHeader ≠ 0x00 then
    .fail ("SOCKS5 connect failed with code: ".toList ++ decimal (byteAt 1 responseHeader).toNat ++
      " (".toList ++ getSocks5Error (byteAt 1 responseHeader) ++ ")".toList)
  else skipBoundAddress (byteAt 3 responseHeader)

def socks5Connect (host : Text) (port : UInt16) (isSocks5h : Bool) : Async Unit := do
  writeAll .target [0x05, 0x01, 0x00]
  let response ← readExact .target 2
  if byteAt 0 response ≠ 0x05 then
    .fail ("Invalid SOCKS5 version: ".toList ++ decimal (byteAt 0 response).toNat)
  else if byteAt 1 response ≠ 0x00 then
    .fail "SOCKS5 authentication failed, only 'NO AUTHENTICATION' is supported".toList
  else do
    let request ← settle (socks5Request host port isSocks5h)
    writeAll .target request
    readSocks5Response

/-! ## HTTP CONNECT -/

def formattedHost (host : Text) : Text :=
  if ':' ∈ host ∧ host.head? ≠ some '[' then "[".toList ++ host ++ "]".toList else host

def connectRequest (host : Text) (port : UInt16) : Text :=
  let authority := formattedHost host ++ ":".toList ++ decimal port.toNat
  "CONNECT ".toList ++ authority ++ " HTTP/1.1\r\nHost: ".toList ++ authority ++
    "\r\n\r\n".toList

/-- `str::lines().next().unwrap_or("")`. -/
def firstLine (text : Text) : Text :=
  let line := text.takeWhile (· ≠ '\n')
  if line.length < text.length ∧ line.getLast? = some '\r' then line.dropLast else line

/-- `status_line.split_whitespace().nth(1).and_then(|s| s.parse().ok()).unwrap_or(0)`. -/
def statusCode (statusLine : Text) : Nat :=
  (((splitWhitespace statusLine)[1]?.bind parseU16).map UInt16.toNat).getD 0

def checkConnectResponse (response : Bytes) : Except Text Unit :=
  let statusLine := firstLine (fromUtf8Lossy response)
  if (asBytes statusLine).length < 12 ∨ ¬ "HTTP/".toList.isPrefixOf statusLine then
    .error ("Invalid HTTP CONNECT response: ".toList ++ trim statusLine)
  else if statusCode statusLine = 200 then .ok ()
  else
    .error ("HTTP CONNECT failed (status ".toList ++ decimal (statusCode statusLine) ++
      "): ".toList ++ trim statusLine)

def connectResponseErrors : HeadErrors where
  tooLong := "HTTP CONNECT response headers too long".toList
  closed := "Connection closed while reading CONNECT response".toList

def httpConnect (host : Text) (port : UInt16) : Async Bytes := do
  writeAll .target (asBytes (connectRequest host port))
  let (response, targetLeftover) ←
    readHead .target connectResponseMaxLen connectResponseErrors []
  settle (checkConnectResponse response)
  pure targetLeftover

/-! ## Connect -/

def ProxyType.shouldResolve : ProxyType → Bool
  | .socks5 => true
  | .socks5h => false
  | .http => true

def lookupHost (query : Text) : Async (List SocketAddr) :=
  performOr (.lookupHost query) (Except.mapError IoError.text)

def finalHost (proxyType : ProxyType) (host : Text) (port : UInt16) (resolveHostname : Bool) :
    Async Text :=
  if proxyType.shouldResolve && resolveHostname then do
    let answer ← (lookupHost (host ++ ":".toList ++ decimal port.toNat)).timeout
      proxyHandshakeTimeout
    match answer with
    | some (.ok (addr :: _)) => pure addr.ip.toText
    | _ => pure host
  else pure host

/-- The handshake of the upstream's kind, without its deadline. -/
def upstreamHandshake (proxyType : ProxyType) (host : Text) (port : UInt16) : Async Bytes :=
  match proxyType with
  | .socks5 | .socks5h => do
      socks5Connect host port (!proxyType.shouldResolve)
      pure []
  | .http => httpConnect host port

/-- `timeout(HANDSHAKE_TIMEOUT, ..)` with the two error arms. -/
def withinHandshakeTimeout {α : Type} (handshake : Async α) : Async α := do
  match ← (handshake.timeout proxyHandshakeTimeout : Async _) with
  | some (.ok value) => pure value
  | some (.error error) => .fail error
  | none => .fail "Handshake with proxy timed out".toList

def connectProxy (addr : Text) : Async Unit :=
  performOr (.connectProxy addr) (Except.mapError IoError.text)

def ProxyClient.connect (client : ProxyClient) (host : Text) (port : UInt16)
    (resolveHostname : Bool) : Async Bytes := do
  match ← ((connectProxy client.config.addr).timeout connectTimeout : Async _) with
  | none => .fail ("Proxy connection timed out: ".toList ++ client.config.addr)
  | some (.error _) => .fail ("Failed to connect to proxy ".toList ++ client.config.addr)
  | some (.ok ()) => do
      let finalHost ← finalHost client.config.proxyType host port resolveHostname
      withinHandshakeTimeout (upstreamHandshake client.config.proxyType finalHost port)

/-! ## What a connect performs -/

/-- Everything after the TCP connect: the upstream's socket and lookups. -/
def Op.OnTarget (op : Op) : Prop := op.side ≠ some .client ∧ op.isAttempt = false

theorem Op.Concerns.onTarget {op : Op} (concerns : op.Concerns .target) : op.OnTarget :=
  ⟨concerns.side_ne nofun, concerns.isAttempt⟩

/-- Reading from the upstream, a number of bytes. -/
def Op.IsTargetRead (op : Op) : Prop := ∃ size, op = .readExact .target size

theorem readExact_isTargetRead (size : Nat) : (readExact .target size).Only Op.IsTargetRead :=
  only_performOr ⟨size, rfl⟩

theorem skipBoundAddress_isTargetRead (atyp : UInt8) :
    (skipBoundAddress atyp).Only Op.IsTargetRead := by
  unfold skipBoundAddress
  split
  · exact (readExact_isTargetRead 6).bind fun _ => only_ret _
  · split
    · exact (readExact_isTargetRead 1).bind fun lenBuf =>
        (readExact_isTargetRead _).bind fun _ => only_ret _
    · split
      · exact (readExact_isTargetRead 18).bind fun _ => only_ret _
      · exact only_fail _

theorem readSocks5Response_isTargetRead : readSocks5Response.Only Op.IsTargetRead := by
  refine (readExact_isTargetRead 4).bind fun responseHeader => ?_
  split
  · exact only_fail _
  · split
    · exact only_fail _
    · exact skipBoundAddress_isTargetRead _

theorem Op.IsTargetRead.concerns {op : Op} (reads : op.IsTargetRead) : op.Concerns .target := by
  obtain ⟨size, rfl⟩ := reads
  rfl

theorem writeAll_ofTarget (bytes : Bytes) : (writeAll .target bytes).Only (Op.Concerns .target) :=
  only_performOr rfl

theorem socks5Connect_ofTarget (host : Text) (port : UInt16) (isSocks5h : Bool) :
    (socks5Connect host port isSocks5h).Only (Op.Concerns .target) := by
  have reads : ∀ size, (readExact .target size).Only (Op.Concerns .target) :=
    fun size => (readExact_isTargetRead size).imp fun _ => Op.IsTargetRead.concerns
  refine (writeAll_ofTarget _).bind fun _ => (reads 2).bind fun response => ?_
  split
  · exact only_fail _
  · split
    · exact only_fail _
    · exact only_settle.bind fun request => (writeAll_ofTarget request).bind fun _ =>
        readSocks5Response_isTargetRead.imp fun _ => Op.IsTargetRead.concerns

theorem httpConnect_ofTarget (host : Text) (port : UInt16) :
    (httpConnect host port).Only (Op.Concerns .target) := by
  refine (writeAll_ofTarget _).bind fun _ => Only.bind ?_ fun split => only_settle.bind fun _ =>
    only_ret _
  refine (readHead_only []).imp fun op reads => ?_
  rw [reads]
  rfl

theorem upstreamHandshake_ofTarget (proxyType : ProxyType) (host : Text) (port : UInt16) :
    (upstreamHandshake proxyType host port).Only (Op.Concerns .target) := by
  cases proxyType with
  | socks5 => exact (socks5Connect_ofTarget host port _).bind fun _ => only_ret _
  | socks5h => exact (socks5Connect_ofTarget host port _).bind fun _ => only_ret _
  | http => exact httpConnect_ofTarget host port

theorem upstreamHandshake_onTarget (proxyType : ProxyType) (host : Text) (port : UInt16) :
    (upstreamHandshake proxyType host port).Only Op.OnTarget :=
  (upstreamHandshake_ofTarget proxyType host port).imp fun _ => Op.Concerns.onTarget

theorem finalHost_onTarget (proxyType : ProxyType) (host : Text) (port : UInt16)
    (resolveHostname : Bool) : (finalHost proxyType host port resolveHostname).Only Op.OnTarget := by
  unfold finalHost
  split
  · refine Only.bind (Only.timeout (only_performOr ⟨nofun, rfl⟩) _) fun answer => ?_
    split
    · exact only_ret _
    · exact only_ret _
  · exact only_ret _

theorem withinHandshakeTimeout_only {α : Type} {handshake : Async α} {allowed : Op → Prop}
    (only : handshake.Only allowed) : (withinHandshakeTimeout handshake).Only allowed := by
  refine (only.timeout _).bind fun result => ?_
  match result with
  | some (.ok value) => exact only_ret _
  | some (.error error) => exact only_fail _
  | none => exact only_fail _

/-- The events of one outbound attempt: the TCP connect, then operations on
the established stream only. -/
structure IsAttempt (outbound : Outbound) (events : List SocketEvent) : Prop where
  shape : ∃ first rest, events = first :: rest ∧ attemptOf first = some outbound ∧
    first.op.side = none ∧ ∀ event ∈ rest, event.op.OnTarget

namespace IsAttempt

variable {outbound : Outbound} {events : List SocketEvent}

theorem attempts_eq (isAttempt : IsAttempt outbound events) : attempts events = [outbound] := by
  obtain ⟨first, rest, rfl, attempt, -, onTarget⟩ := isAttempt.shape
  have none := attempts_eq_nil fun event member => (onTarget event member).2
  unfold attempts at none ⊢
  rw [List.filterMap_cons_some attempt, none]

theorem notClient (isAttempt : IsAttempt outbound events) :
    ∀ event ∈ events, event.op.side ≠ some .client := by
  obtain ⟨first, rest, rfl, -, noSide, onTarget⟩ := isAttempt.shape
  intro event member
  rcases List.mem_cons.mp member with rfl | later
  · rw [noSide]
    exact nofun
  · exact (onTarget event later).1

end IsAttempt

theorem ProxyClient.connect_ensures (client : ProxyClient) (host : Text) (port : UInt16)
    (resolveHostname : Bool) :
    Ensures (client.connect host port resolveHostname) fun events _ =>
      IsAttempt (.proxy client.config.addr) events := by
  have alone : ∀ time response, IsAttempt (.proxy client.config.addr)
      [⟨.connectProxy client.config.addr, time, response⟩] :=
    fun time response => ⟨_, [], rfl, rfl, rfl, nofun⟩
  refine Ensures.bind Ensures.timeout_performOr ?_ ?_ ?_
  · rintro result before ⟨time, response, rfl⟩
    match result with
    | none => exact Ensures.fail (alone time response)
    | some (.error error) => exact Ensures.fail (alone time response)
    | some (.ok ()) =>
        have rest := (finalHost_onTarget client.config.proxyType host port resolveHostname).bind
          fun finalHost => withinHandshakeTimeout_only
            (upstreamHandshake_onTarget client.config.proxyType finalHost port)
        exact (Ensures.of_only rest).imp fun after _ onTarget =>
          ⟨_, after, rfl, rfl, rfl, onTarget⟩
  · rintro error events ⟨time, response, rfl⟩
    exact alone time response
  · rintro events ⟨time, response, rfl⟩
    exact alone time response

/-! ## What a successful connect consumes -/

/-- The bound address and port of a SOCKS5 reply with an address type. -/
inductive IsBoundAddress : UInt8 → Bytes → Prop where
  | ipv4 (bound : Bytes) (length : bound.length = 6) : IsBoundAddress 0x01 bound
  | domain (size : UInt8) (bound : Bytes) (length : bound.length = size.toNat + 2) :
      IsBoundAddress 0x03 (size :: bound)
  | ipv6 (bound : Bytes) (length : bound.length = 18) : IsBoundAddress 0x04 bound

/-- The two replies of a SOCKS5 upstream: method selection and connect
response with its bound address. -/
inductive IsSocks5Reply : Bytes → Prop where
  | accepted (rsv : UInt8) {atyp : UInt8} {bound : Bytes} (isBound : IsBoundAddress atyp bound) :
      IsSocks5Reply ([0x05, 0x00] ++ [0x05, 0x00, rsv, atyp] ++ bound)

/-- The whole reply of an upstream of a kind; a direct target has none. -/
def IsUpstreamReply : Option ProxyType → Bytes → Prop
  | none, reply => reply = []
  | some .socks5, reply => IsSocks5Reply reply
  | some .socks5h, reply => IsSocks5Reply reply
  | some .http, reply => IsHeadEnd reply reply.length

theorem IsBoundAddress.append_inj {atyp : UInt8} {bound other rest otherRest : Bytes}
    (isBound : IsBoundAddress atyp bound) (isOther : IsBoundAddress atyp other)
    (same : bound ++ rest = other ++ otherRest) : bound = other ∧ rest = otherRest := by
  cases isBound with
  | ipv4 _ length =>
      cases isOther with
      | ipv4 _ otherLength => exact List.append_inj same (length.trans otherLength.symm)
  | domain size tail length =>
      cases isOther with
      | domain otherSize otherTail otherLength =>
          obtain ⟨rfl, tails⟩ := List.cons.inj same
          obtain ⟨rfl, rests⟩ := List.append_inj tails (length.trans otherLength.symm)
          exact ⟨rfl, rests⟩
  | ipv6 _ length =>
      cases isOther with
      | ipv6 _ otherLength => exact List.append_inj same (length.trans otherLength.symm)

theorem isSocks5Reply_prefixFree : Framing.PrefixFree id IsSocks5Reply := by
  intro reply other rest otherRest isReply isOther same
  cases isReply with
  | accepted rsv isBound =>
      cases isOther with
      | accepted otherRsv isOtherBound =>
          simp only [id_eq, List.cons_append, List.nil_append, List.cons.injEq, true_and] at same
          obtain ⟨rfl, rfl, bounds⟩ := same
          rw [(isBound.append_inj isOtherBound bounds).1]

/-- An upstream's stream starts with at most one reply. -/
theorem isUpstreamReply_prefixFree (kind : Option ProxyType) :
    Framing.PrefixFree id (IsUpstreamReply kind) := by
  match kind with
  | none =>
      intro reply other rest otherRest isReply isOther same
      exact Eq.trans isReply (Eq.symm isOther)
  | some .socks5 => exact isSocks5Reply_prefixFree
  | some .socks5h => exact isSocks5Reply_prefixFree
  | some .http =>
      intro reply other rest otherRest isReply isOther same
      exact (IsHeadEnd.append_inj isReply isOther same).1

variable {start stop : Nat} {events : List SocketEvent}

/-- The bound address is read to its end. -/
theorem skipBoundAddress_returned {atyp : UInt8} {value : Unit}
    (run : Runs (skipBoundAddress atyp) start events (.returned value) stop) :
    IsBoundAddress atyp (received .target events) := by
  unfold skipBoundAddress at run
  split at run
  · next isIpv4 =>
      obtain ⟨addrPort, _, before, after, readRun, rest, rfl⟩ := runs_bind_returned_iff.mp run
      obtain ⟨rfl, -, -⟩ := runs_ret_iff.mp rest
      rw [List.append_nil, received_readExact readRun, isIpv4]
      exact .ipv4 _ addrPort.length_toList
  · split at run
    · next isDomain =>
        obtain ⟨lenBuf, _, before, later, lenRun, afterLen, rfl⟩ := runs_bind_returned_iff.mp run
        obtain ⟨bound, _, between, after, boundRun, rest, rfl⟩ :=
          runs_bind_returned_iff.mp afterLen
        obtain ⟨rfl, -, -⟩ := runs_ret_iff.mp rest
        have size : lenBuf.toList = [byteAt 0 lenBuf] := toList_eq_ofFn lenBuf
        rw [List.append_nil, received_append, received_readExact lenRun,
          received_readExact boundRun, size, isDomain]
        exact .domain (byteAt 0 lenBuf) _ bound.length_toList
    · split at run
      · next isIpv6 =>
          obtain ⟨addrPort, _, before, after, readRun, rest, rfl⟩ :=
            runs_bind_returned_iff.mp run
          obtain ⟨rfl, -, -⟩ := runs_ret_iff.mp rest
          rw [List.append_nil, received_readExact readRun, isIpv6]
          exact .ipv6 _ addrPort.length_toList
      · exact absurd (runs_fail_iff.mp run).2.1 nofun

theorem readSocks5Response_returned {value : Unit}
    (run : Runs readSocks5Response start events (.returned value) stop) :
    IsSocks5Reply ([0x05, 0x00] ++ received .target events) := by
  obtain ⟨header, _, before, after, headerRun, rest, rfl⟩ := runs_bind_returned_iff.mp run
  split at rest
  · exact absurd (runs_fail_iff.mp rest).2.1 nofun
  · next version =>
      split at rest
      · exact absurd (runs_fail_iff.mp rest).2.1 nofun
      · next success =>
          have reply := IsSocks5Reply.accepted (byteAt 2 header) (skipBoundAddress_returned rest)
          have bytes : header.toList = [(0x05 : UInt8), 0x00, byteAt 2 header, byteAt 3 header] := by
            rw [← not_not.mp version, ← not_not.mp success]
            exact toList_eq_ofFn header
          rwa [received_append, received_readExact headerRun, bytes, ← List.append_assoc]

theorem socks5Connect_returned {host : Text} {port : UInt16} {isSocks5h : Bool} {value : Unit}
    (run : Runs (socks5Connect host port isSocks5h) start events (.returned value) stop) :
    IsSocks5Reply (received .target events) := by
  obtain ⟨_, _, greeting, later, greetingRun, afterGreeting, rfl⟩ := runs_bind_returned_iff.mp run
  obtain ⟨response, _, before, after, responseRun, rest, rfl⟩ :=
    runs_bind_returned_iff.mp afterGreeting
  clear afterGreeting run
  split at rest
  · exact absurd (runs_fail_iff.mp rest).2.1 nofun
  · next version =>
      split at rest
      · exact absurd (runs_fail_iff.mp rest).2.1 nofun
      · next noAuthentication =>
          obtain ⟨request, _, settled, _, settleRun, afterSettle, rfl⟩ :=
            runs_bind_returned_iff.mp rest
          obtain ⟨rfl, -, -⟩ := runs_settle_iff.mp settleRun
          obtain ⟨_, _, requestEvents, replyEvents, requestRun, replyRun, rfl⟩ :=
            runs_bind_returned_iff.mp afterSettle
          have reply := readSocks5Response_returned replyRun
          have bytes : response.toList = [(0x05 : UInt8), 0x00] := by
            rw [← not_not.mp version, ← not_not.mp noAuthentication]
            exact toList_eq_ofFn response
          rwa [received_append, received_writeAll greetingRun, List.nil_append, received_append,
            received_readExact responseRun, bytes, List.nil_append, received_append,
            received_writeAll requestRun, List.nil_append]

theorem httpConnect_returned {host : Text} {port : UInt16} {leftover : Bytes}
    (run : Runs (httpConnect host port) start events (.returned leftover) stop) :
    ∃ reply, IsHeadEnd reply reply.length ∧ received .target events = reply ++ leftover := by
  obtain ⟨_, _, request, later, requestRun, afterRequest, rfl⟩ := runs_bind_returned_iff.mp run
  obtain ⟨⟨response, targetLeftover⟩, _, before, after, headRun, afterHead, rfl⟩ :=
    runs_bind_returned_iff.mp afterRequest
  obtain ⟨_, _, settled, returned, settleRun, rest, rfl⟩ := runs_bind_returned_iff.mp afterHead
  obtain ⟨rfl, -, -⟩ := runs_settle_iff.mp settleRun
  obtain ⟨rfl, same, -⟩ := runs_ret_iff.mp rest
  cases same
  have split := readHead_returned headRun
  have bytes := split.split
  rw [List.nil_append] at bytes
  refine ⟨response, split.head_isHeadEnd, ?_⟩
  rw [received_append, received_writeAll requestRun, List.nil_append, List.append_nil,
    List.append_nil, bytes]

theorem upstreamHandshake_returned {proxyType : ProxyType} {host : Text} {port : UInt16}
    {leftover : Bytes}
    (run : Runs (upstreamHandshake proxyType host port) start events (.returned leftover) stop) :
    ∃ reply, IsUpstreamReply (some proxyType) reply ∧
      received .target events = reply ++ leftover := by
  have socks : ∀ {isSocks5h : Bool}, Runs ((socks5Connect host port isSocks5h).bind fun _ => .ret [])
      start events (.returned leftover) stop →
      ∃ reply, IsSocks5Reply reply ∧ received .target events = reply ++ leftover := by
    intro isSocks5h run
    obtain ⟨_, _, before, after, handshake, rest, rfl⟩ := runs_bind_returned_iff.mp run
    obtain ⟨rfl, same, -⟩ := runs_ret_iff.mp rest
    cases same
    rw [List.append_nil]
    exact ⟨_, socks5Connect_returned handshake, (List.append_nil _).symm⟩
  cases proxyType with
  | socks5 => exact socks run
  | socks5h => exact socks run
  | http => exact httpConnect_returned run

theorem withinHandshakeTimeout_returned {α : Type} {handshake : Async α} {value : α}
    (run : Runs (withinHandshakeTimeout handshake) start events (.returned value) stop) :
    Runs handshake start events (.returned value) stop := by
  obtain ⟨result, middle, before, after, timed, rest, rfl⟩ := runs_bind_returned_iff.mp run
  rcases runs_timeout timed with
    ⟨inner, innerRun, same⟩ | ⟨error, _, same⟩ | ⟨_, impossible⟩ | ⟨_, _, same⟩
  · cases same
    obtain ⟨rfl, same, rfl⟩ := runs_ret_iff.mp rest
    cases same
    rwa [List.append_nil]
  · cases same
    exact absurd (runs_fail_iff.mp rest).2.1 nofun
  · exact absurd impossible nofun
  · cases same
    exact absurd (runs_fail_iff.mp rest).2.1 nofun

/-- The resolution of the target host reads nothing from the upstream. -/
theorem finalHost_received {proxyType : ProxyType} {host : Text} {port : UInt16}
    {resolveHostname : Bool} :
    Ensures (finalHost proxyType host port resolveHostname) fun events _ =>
      received .target events = [] := by
  unfold finalHost
  split
  · refine Ensures.bind Ensures.timeout_performOr ?_ ?_ ?_
    · rintro answer before ⟨time, response, rfl⟩
      split
      · exact Ensures.ret rfl
      · exact Ensures.ret rfl
    · rintro error events ⟨time, response, rfl⟩
      rfl
    · rintro events ⟨time, response, rfl⟩
      rfl
  · exact Ensures.ret rfl

/-- A connect that succeeds has consumed one reply of the upstream and returns
what it read beyond. -/
theorem ProxyClient.connect_returned {client : ProxyClient} {host : Text} {port : UInt16}
    {resolveHostname : Bool} {leftover : Bytes}
    (run : Runs (client.connect host port resolveHostname) start events (.returned leftover) stop) :
    ∃ reply, IsUpstreamReply (some client.config.proxyType) reply ∧
      received .target events = reply ++ leftover := by
  obtain ⟨result, _, connectEvents, later, connectRun, rest, rfl⟩ := runs_bind_returned_iff.mp run
  match result with
  | none => exact absurd (runs_fail_iff.mp rest).2.1 nofun
  | some (.error error) => exact absurd (runs_fail_iff.mp rest).2.1 nofun
  | some (.ok ()) =>
      have nothing : received .target connectEvents = [] := by
        obtain ⟨time, response, rfl⟩ := Ensures.timeout_performOr _ _ _ _ connectRun
        rfl
      obtain ⟨finalHost, _, lookup, handshake, lookupRun, handshakeRun, rfl⟩ :=
        runs_bind_returned_iff.mp rest
      obtain ⟨reply, isReply, bytes⟩ :=
        upstreamHandshake_returned (withinHandshakeTimeout_returned handshakeRun)
      refine ⟨reply, isReply, ?_⟩
      rw [received_append, nothing, received_append, finalHost_received _ _ _ _ lookupRun, bytes,
        List.nil_append, List.nil_append]

end SimpleForwarder

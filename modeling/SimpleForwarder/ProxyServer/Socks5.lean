import SimpleForwarder.ProxyServer.Connect

/-!
Contract: the SOCKS5 handshake (`handle_socks5`).

Owns: the method negotiation, the three address forms of a request, and the
message that a handshake reads: exactly its bytes, and nothing beyond it.

Does not own: the connection attempt.
-/

namespace SimpleForwarder

open RustText IpText EffectProgram Program

def selectMethod (methods : Bytes) : UInt8 := if 0x00 ∈ methods then 0x00 else 0xFF

theorem mem_of_selectMethod {methods : Bytes} (selected : selectMethod methods ≠ 0xFF) :
    0x00 ∈ methods := by
  by_contra missing
  exact selected (if_neg missing)

/-- The method negotiation. -/
def negotiateMethod : Async Unit := do
  let secondByte ← readExact .client 1
  let nmethods := (byteAt 0 secondByte).toNat
  if nmethods = 0 ∨ nmethods > 255 then .fail "SOCKS5 nmethods must be between 1 and 255".toList
  else do
    let methods ← readExact .client nmethods
    let selectedMethod := selectMethod methods.toList
    writeAll .client [0x05, selectedMethod]
    if selectedMethod = 0xFF then .fail "No acceptable authentication method".toList
    else pure ()

structure Socks5Request where
  host : Text
  port : UInt16
  resolveHostname : Bool
  ip : Option IpAddr
deriving DecidableEq

/-- The arms of `match atyp`. -/
def readSocks5Address (atyp : UInt8) : Async Socks5Request :=
  if atyp = 0x01 then do
    let addr ← readExact .client 4
    let portBuf ← readExact .client 2
    let addr := Ipv4Addr.ofOctets addr
    pure ⟨addr.toText, portOf portBuf, false, some (.v4 addr)⟩
  else if atyp = 0x03 then do
    let lenBuf ← readExact .client 1
    let len := (byteAt 0 lenBuf).toNat
    if len = 0 ∨ len > 253 then do
      sendErrorReply 0x08
      .fail "SOCKS5 domain name length must be between 1 and 253".toList
    else do
      let hostBuf ← readExact .client len
      let portBuf ← readExact .client 2
      pure ⟨fromUtf8Lossy hostBuf.toList, portOf portBuf, true, none⟩
  else if atyp = 0x04 then do
    let addr ← readExact .client 16
    let portBuf ← readExact .client 2
    let addr := Ipv6Addr.ofOctets addr
    pure ⟨addr.toText, portOf portBuf, false, some (.v6 addr)⟩
  else do
    sendErrorReply 0x08
    .fail ("Unsupported SOCKS5 address type: ".toList ++ decimal atyp.toNat)

def readSocks5Target : Async Socks5Request := do
  let requestHeader ← readExact .client 4
  if byteAt 0 requestHeader ≠ 0x05 then .fail "Invalid SOCKS5 version in request".toList
  else if byteAt 1 requestHeader ≠ 0x01 then do
    sendErrorReply 0x07
    .fail ("Unsupported SOCKS5 command: ".toList ++ decimal (byteAt 1 requestHeader).toNat)
  else readSocks5Address (byteAt 3 requestHeader)

/-- `handle_socks5` up to the connection attempt. -/
def readSocks5Request : Async Socks5Request := do
  negotiateMethod
  readSocks5Target

def handleSocks5 (localAddr : Option SocketAddr) (rules : List (RuleMatcher × ProxyConfig)) :
    Async HandshakeResult := do
  let request ← readSocks5Request
  let connection ← connectToTarget request.host request.port request.resolveHostname request.ip
    true rules
  sendSuccessReply localAddr
  pure {
    host := request.host
    port := request.port
    proxyDesc := connection.proxyDesc
    isDirect := connection.isDirect
    protocol := if request.resolveHostname then .socks5h else .socks5
    leftover := []
    targetLeftover := connection.targetLeftover
  }

/-! ## The message -/

/-- The address of a SOCKS5 request. -/
inductive Socks5Addr where
  | ipv4 (addr : Ipv4Addr)
  | domain (name : Bytes) (nonempty : name ≠ []) (short : name.length ≤ 253)
  | ipv6 (addr : Ipv6Addr)

namespace Socks5Addr

def atyp : Socks5Addr → UInt8
  | ipv4 _ => 0x01
  | domain _ _ _ => 0x03
  | ipv6 _ => 0x04

def encode : Socks5Addr → Bytes
  | ipv4 addr => addr.octets
  | domain name _ _ => UInt8.ofNat name.length :: name
  | ipv6 addr => addr.octets

/-- The request for an address and a port. -/
def request (port : UInt16) : Socks5Addr → Socks5Request
  | ipv4 addr => ⟨addr.toText, port, false, some (.v4 addr)⟩
  | domain name _ _ => ⟨fromUtf8Lossy name, port, true, none⟩
  | ipv6 addr => ⟨addr.toText, port, false, some (.v6 addr)⟩

end Socks5Addr

/-- A SOCKS5 greeting that offers no authentication, and a connect request. -/
structure Socks5Message where
  methods : Bytes
  rsv : UInt8
  addr : Socks5Addr
  port : UInt16
  methodsShort : methods.length ≤ 255
  methodsOffered : 0x00 ∈ methods

namespace Socks5Message

/-- The greeting after the version byte. -/
def greeting (message : Socks5Message) : Bytes :=
  UInt8.ofNat message.methods.length :: message.methods

/-- The message on the wire, version byte included. -/
def encode (message : Socks5Message) : Bytes :=
  [0x05] ++ message.greeting ++ [0x05, 0x01, message.rsv, message.addr.atyp] ++
    message.addr.encode ++ toBeBytes message.port

def request (message : Socks5Message) : Socks5Request := message.addr.request message.port

end Socks5Message

/-! ## The request that is read -/

variable {start stop : Nat} {events : List SocketEvent}

theorem negotiateMethod_returned {value : Unit}
    (run : Runs negotiateMethod start events (.returned value) stop) :
    ∃ methods : Bytes, methods.length ≤ 255 ∧ 0x00 ∈ methods ∧
      received .client events = UInt8.ofNat methods.length :: methods := by
  obtain ⟨secondByte, _, countEvents, later, countRun, rest, rfl⟩ := runs_bind_returned_iff.mp run
  dsimp only at rest
  split at rest
  · exact absurd (runs_fail_iff.mp rest).2.1 nofun
  · obtain ⟨methods, _, methodEvents, _, methodsRun, afterMethods, rfl⟩ :=
      runs_bind_returned_iff.mp rest
    obtain ⟨_, _, writeEvents, _, writeRun, last, rfl⟩ := runs_bind_returned_iff.mp afterMethods
    split at last
    · exact absurd (runs_fail_iff.mp last).2.1 nofun
    · next selected =>
        obtain ⟨rfl, -, -⟩ := runs_ret_iff.mp last
        have count : UInt8.ofNat methods.toList.length = byteAt 0 secondByte := by
          rw [Vector.length_toList, UInt8.ofNat_toNat]
        have countBytes : secondByte.toList = [byteAt 0 secondByte] := toList_eq_ofFn secondByte
        refine ⟨methods.toList, ?_, mem_of_selectMethod selected, ?_⟩
        · rw [Vector.length_toList]
          exact Nat.le_of_lt_succ (byteAt 0 secondByte).toNat_lt
        · rw [count, received_append, received_readExact countRun, countBytes, received_append,
            received_readExact methodsRun, received_append, received_writeAll writeRun,
            List.nil_append, received_nil, List.append_nil]
          rfl

theorem readSocks5Address_returned {atyp : UInt8} {request : Socks5Request}
    (run : Runs (readSocks5Address atyp) start events (.returned request) stop) :
    ∃ (addr : Socks5Addr) (port : UInt16), atyp = addr.atyp ∧
      received .client events = addr.encode ++ toBeBytes port ∧ request = addr.request port := by
  have portBytes : ∀ portBuf : Vector UInt8 2, portBuf.toList = toBeBytes (portOf portBuf) := by
    intro portBuf
    rw [portOf, toBeBytes_fromBeBytes]
    exact toList_eq_ofFn portBuf
  unfold readSocks5Address at run
  split at run
  · next isIpv4 =>
      obtain ⟨addr, _, addrEvents, _, addrRun, afterAddr, rfl⟩ := runs_bind_returned_iff.mp run
      obtain ⟨portBuf, _, portEvents, _, portRun, last, rfl⟩ := runs_bind_returned_iff.mp afterAddr
      obtain ⟨rfl, same, -⟩ := runs_ret_iff.mp last
      cases same
      refine ⟨.ipv4 (.ofOctets addr), portOf portBuf, isIpv4, ?_, rfl⟩
      rw [List.append_nil, received_append, received_readExact addrRun, received_readExact portRun,
        portBytes, Socks5Addr.encode, Ipv4Addr.octets_ofOctets]
  · split at run
    · next isDomain =>
        obtain ⟨lenBuf, _, lenEvents, _, lenRun, afterLen, rfl⟩ := runs_bind_returned_iff.mp run
        dsimp only at afterLen
        split at afterLen
        · obtain ⟨_, _, _, _, _, failing, -⟩ := runs_bind_returned_iff.mp afterLen
          cases (runs_fail_iff.mp failing).2.1
        · next inRange =>
            obtain ⟨hostBuf, _, hostEvents, _, hostRun, afterHost, rfl⟩ :=
              runs_bind_returned_iff.mp afterLen
            obtain ⟨portBuf, _, portEvents, _, portRun, last, rfl⟩ :=
              runs_bind_returned_iff.mp afterHost
            obtain ⟨rfl, same, -⟩ := runs_ret_iff.mp last
            cases same
            have length := hostBuf.length_toList
            have lenBytes : lenBuf.toList = [byteAt 0 lenBuf] := toList_eq_ofFn lenBuf
            have nonempty : hostBuf.toList ≠ [] := by
              intro empty
              rw [empty] at length
              exact inRange (.inl length.symm)
            have short : hostBuf.toList.length ≤ 253 := by omega
            refine ⟨.domain hostBuf.toList nonempty short, portOf portBuf, isDomain, ?_, rfl⟩
            rw [List.append_nil, received_append, received_readExact lenRun, lenBytes,
              received_append, received_readExact hostRun, received_readExact portRun, portBytes,
              Socks5Addr.encode, length, UInt8.ofNat_toNat]
            rfl
    · split at run
      · next isIpv6 =>
          obtain ⟨addr, _, addrEvents, _, addrRun, afterAddr, rfl⟩ := runs_bind_returned_iff.mp run
          obtain ⟨portBuf, _, portEvents, _, portRun, last, rfl⟩ :=
            runs_bind_returned_iff.mp afterAddr
          obtain ⟨rfl, same, -⟩ := runs_ret_iff.mp last
          cases same
          refine ⟨.ipv6 (.ofOctets addr), portOf portBuf, isIpv6, ?_, rfl⟩
          rw [List.append_nil, received_append, received_readExact addrRun,
            received_readExact portRun, portBytes, Socks5Addr.encode, Ipv6Addr.octets_ofOctets]
      · obtain ⟨_, _, _, _, _, failing, -⟩ := runs_bind_returned_iff.mp run
        cases (runs_fail_iff.mp failing).2.1

/-- What `handle_socks5` reads before it connects is one message. -/
theorem readSocks5Request_returned {request : Socks5Request}
    (run : Runs readSocks5Request start events (.returned request) stop) :
    ∃ message : Socks5Message, [0x05] ++ received .client events = message.encode ∧
      request = message.request := by
  obtain ⟨_, _, greetingEvents, _, greetingRun, targetRun, rfl⟩ := runs_bind_returned_iff.mp run
  obtain ⟨methods, short, offered, greeting⟩ := negotiateMethod_returned greetingRun
  obtain ⟨header, _, headerEvents, addressEvents, headerRun, rest, rfl⟩ :=
    runs_bind_returned_iff.mp targetRun
  split at rest
  · exact absurd (runs_fail_iff.mp rest).2.1 nofun
  · next version =>
      split at rest
      · obtain ⟨_, _, _, _, _, failing, -⟩ := runs_bind_returned_iff.mp rest
        exact absurd (runs_fail_iff.mp failing).2.1 nofun
      · next command =>
          obtain ⟨addr, port, atyp, bytes, request⟩ := readSocks5Address_returned rest
          have headerBytes : header.toList = [(0x05 : UInt8), 0x01, byteAt 2 header, addr.atyp] := by
            rw [← not_not.mp version, ← not_not.mp command, ← atyp]
            exact toList_eq_ofFn header
          refine ⟨⟨methods, byteAt 2 header, addr, port, short, offered⟩, ?_, request⟩
          rw [received_append, greeting, received_append, received_readExact headerRun,
            headerBytes, bytes]
          simp only [Socks5Message.encode, Socks5Message.greeting, List.append_assoc]

/-! ## Messages are prefix-free -/

/-- A length byte and the bytes it counts. -/
theorem counted_append_inj {word other rest otherRest : Bytes} (short : word.length ≤ 255)
    (otherShort : other.length ≤ 255)
    (same : UInt8.ofNat word.length :: word ++ rest =
      UInt8.ofNat other.length :: other ++ otherRest) :
    word = other ∧ rest = otherRest := by
  obtain ⟨counts, bytes⟩ := List.cons.inj same
  have lengths := congrArg UInt8.toNat counts
  rw [UInt8.toNat_ofNat', UInt8.toNat_ofNat'] at lengths
  exact List.append_inj bytes (by omega)

theorem Socks5Addr.encode_append_inj {addr other : Socks5Addr} {rest otherRest : Bytes}
    (sameType : addr.atyp = other.atyp)
    (same : addr.encode ++ rest = other.encode ++ otherRest) : addr = other ∧ rest = otherRest := by
  cases addr with
  | ipv4 addr =>
      cases other with
      | ipv4 other =>
          obtain ⟨octets, rests⟩ := List.append_inj same rfl
          exact ⟨congrArg ipv4 (Ipv4Addr.octets_injective octets), rests⟩
      | domain => exact absurd sameType (by decide : (0x01 : UInt8) ≠ 0x03)
      | ipv6 => exact absurd sameType (by decide : (0x01 : UInt8) ≠ 0x04)
  | domain name nonempty short =>
      cases other with
      | ipv4 => exact absurd sameType (by decide : (0x03 : UInt8) ≠ 0x01)
      | domain other otherNonempty otherShort =>
          obtain ⟨rfl, rests⟩ := counted_append_inj (by omega) (by omega) same
          exact ⟨rfl, rests⟩
      | ipv6 => exact absurd sameType (by decide : (0x03 : UInt8) ≠ 0x04)
  | ipv6 addr =>
      cases other with
      | ipv4 => exact absurd sameType (by decide : (0x04 : UInt8) ≠ 0x01)
      | domain => exact absurd sameType (by decide : (0x04 : UInt8) ≠ 0x03)
      | ipv6 other =>
          have lengths := addr.length_octets.trans other.length_octets.symm
          obtain ⟨octets, rests⟩ := List.append_inj same lengths
          exact ⟨congrArg ipv6 (Ipv6Addr.octets_injective octets), rests⟩

theorem Socks5Message.encode_append_inj {message other : Socks5Message} {rest otherRest : Bytes}
    (same : message.encode ++ rest = other.encode ++ otherRest) :
    message = other ∧ rest = otherRest := by
  obtain ⟨methods, rsv, addr, port, short, offered⟩ := message
  obtain ⟨methods', rsv', addr', port', short', offered'⟩ := other
  simp only [encode, greeting, List.append_assoc] at same
  have afterVersion := List.append_cancel_left same
  obtain ⟨rfl, afterGreeting⟩ := counted_append_inj short short' afterVersion
  obtain ⟨headers, afterHeader⟩ := List.append_inj afterGreeting rfl
  simp only [List.cons.injEq, true_and, and_true] at headers
  obtain ⟨rfl, sameType⟩ := headers
  obtain ⟨rfl, afterAddr⟩ := Socks5Addr.encode_append_inj sameType afterHeader
  obtain ⟨ports, rests⟩ := List.append_inj afterAddr rfl
  cases toBeBytes_injective ports
  exact ⟨rfl, rests⟩

end SimpleForwarder

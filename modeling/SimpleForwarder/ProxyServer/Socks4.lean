import SimpleForwarder.ProxyServer.Connect

/-!
Contract: the SOCKS4 and SOCKS4a handshake (`handle_socks4`).

Owns: the chunked reading of user id and domain, the request it yields, and
the shape of a handshake: which bytes were the request, which are leftover.

The reading loop remembers the terminators it has found. `readSocks4Fields`
bounds its iterations by the length limit, since every read adds a byte.

Does not own: the connection attempt.
-/

namespace SimpleForwarder

open RustText IpText EffectProgram Program

def socks4HandshakeMaxLen : Nat := 1024

/-- The positions of the terminators of user id and domain, once found. -/
structure Socks4Ends where
  userIdEnd : Option Nat
  domainEnd : Option Nat
deriving DecidableEq

def nulPosition (buf : Bytes) : Option Nat := buf.findIdx? (· = 0)

/-- The two `if let` statements at the top of the loop. -/
def Socks4Ends.scan (ends : Socks4Ends) (isSocks4a : Bool) (buf : Bytes) : Socks4Ends :=
  let userIdEnd :=
    match ends.userIdEnd with
    | some uEnd => some uEnd
    | none => nulPosition buf
  let domainEnd :=
    match ends.domainEnd, userIdEnd with
    | some dEnd, _ => some dEnd
    | none, some uEnd =>
        if isSocks4a then (nulPosition (buf.drop (uEnd + 1))).map (uEnd + 1 + ·) else none
    | none, none => none
  ⟨userIdEnd, domainEnd⟩

def readSocks4Fields (isSocks4a : Bool) :
    (fuel : Nat) → (buf : Bytes) → Socks4Ends → Async (Bytes × Socks4Ends)
  | 0, _, _ => .fail "SOCKS4 handshake data too long".toList
  | fuel + 1, buf, ends =>
      let ends := ends.scan isSocks4a buf
      if ends.userIdEnd.isSome && (!isSocks4a || ends.domainEnd.isSome) then .ret (buf, ends)
      else if buf.length > socks4HandshakeMaxLen then
        .fail "SOCKS4 handshake data too long".toList
      else
        (read .client 256).bind fun chunk =>
          if chunk.bytes = [] then .fail "Connection closed during SOCKS4 handshake".toList
          else readSocks4Fields isSocks4a fuel (buf ++ chunk.bytes) ends

/-- The host and the leftover of the bytes read. -/
def splitSocks4Fields (isSocks4a : Bool) (addr : Ipv4Addr) (buf : Bytes) (ends : Socks4Ends) :
    Except Text (Text × Bytes) :=
  match ends.userIdEnd with
  | none => .error "SOCKS4: missing User ID terminator".toList
  | some uEnd =>
      if uEnd > 255 then
        .error ("SOCKS4: User ID too long (".toList ++ decimal uEnd ++ " bytes)".toList)
      else
        let buf := buf.drop (uEnd + 1)
        if isSocks4a then
          match ends.domainEnd with
          | none => .error "SOCKS4a: missing domain name terminator".toList
          | some dEnd =>
              let domainLen := dEnd - (uEnd + 1)
              if domainLen > 253 then
                .error ("SOCKS4a: domain name too long (".toList ++ decimal domainLen ++
                  " bytes)".toList)
              else .ok (fromUtf8Lossy (buf.take domainLen), buf.drop (domainLen + 1))
        else .ok (addr.toText, buf)

structure Socks4Request where
  host : Text
  port : UInt16
  isSocks4a : Bool
  ip : Option IpAddr
  leftover : Bytes
deriving DecidableEq

/-- `0.0.0.x` with `x` nonzero. -/
def isSocks4aAddr (addr : Ipv4Addr) : Bool :=
  addr.first = 0 && addr.second = 0 && addr.third = 0 && addr.fourth ≠ 0

/-- `handle_socks4` up to the connection attempt. -/
def readSocks4Request : Async Socks4Request := do
  let header ← readExact .client 7
  let cmd := byteAt 0 header
  if cmd ≠ 0x01 then do
    sendSocks4Reply 0x5B
    .fail ("Unsupported SOCKS4 command: ".toList ++ decimal cmd.toNat)
  else do
    let port := fromBeBytes (byteAt 1 header) (byteAt 2 header)
    let addr : Ipv4Addr := ⟨byteAt 3 header, byteAt 4 header, byteAt 5 header, byteAt 6 header⟩
    let isSocks4a := isSocks4aAddr addr
    let (buf, ends) ← readSocks4Fields isSocks4a (socks4HandshakeMaxLen + 2) [] ⟨none, none⟩
    let (host, leftover) ← settle (splitSocks4Fields isSocks4a addr buf ends)
    pure ⟨host, port, isSocks4a, if isSocks4a then none else some (.v4 addr), leftover⟩

def handleSocks4 (rules : List (RuleMatcher × ProxyConfig)) : Async HandshakeResult := do
  let request ← readSocks4Request
  let connection ← orReply
    (connectToTarget request.host request.port request.isSocks4a request.ip false rules)
    (socks4Reply 0x5B)
  sendSocks4Reply 0x5A
  pure {
    host := request.host
    port := request.port
    proxyDesc := connection.proxyDesc
    isDirect := connection.isDirect
    protocol := if request.isSocks4a then .socks4a else .socks4
    leftover := request.leftover
    targetLeftover := connection.targetLeftover
  }

/-! ## The message -/

/-- A SOCKS4 or SOCKS4a request. A domain follows the user id exactly if the
address marks SOCKS4a. -/
structure Socks4Message where
  port : UInt16
  addr : Ipv4Addr
  userId : Bytes
  domain : Bytes
  userIdNoNul : 0 ∉ userId
  domainNoNul : 0 ∉ domain
  domainMarked : isSocks4aAddr addr = false → domain = []

namespace Socks4Message

/-- The message on the wire, version byte included. -/
def encode (message : Socks4Message) : Bytes :=
  [0x04, 0x01] ++ toBeBytes message.port ++ message.addr.octets ++
    (message.userId ++ 0 ::
      if isSocks4aAddr message.addr then message.domain ++ [0] else [])

/-- The fields are within the limits that the handler checks. -/
structure Short (message : Socks4Message) : Prop where
  userId : message.userId.length ≤ 255
  domain : message.domain.length ≤ 253

/-- The request a message denotes, followed by `leftover`. -/
def request (message : Socks4Message) (leftover : Bytes) : Socks4Request :=
  let isSocks4a := isSocks4aAddr message.addr
  { host := if isSocks4a then fromUtf8Lossy message.domain else message.addr.toText
    port := message.port
    isSocks4a := isSocks4a
    ip := if isSocks4a then none else some (.v4 message.addr)
    leftover := leftover }

end Socks4Message

/-! ## The scan finds the first terminators -/

theorem nulPosition_eq_some_iff {buf : Bytes} {position : Nat} :
    nulPosition buf = some position ↔
      ∃ before after, buf = before ++ 0 :: after ∧ 0 ∉ before ∧ before.length = position :=
  position_eq_some_iff

theorem nulPosition_append {buf : Bytes} {position : Nat} (found : nulPosition buf = some position)
    (more : Bytes) : nulPosition (buf ++ more) = some position := by
  obtain ⟨before, after, rfl, noNul, length⟩ := nulPosition_eq_some_iff.mp found
  refine nulPosition_eq_some_iff.mpr ⟨before, after ++ more, ?_, noNul, length⟩
  rw [List.append_assoc, List.cons_append]

theorem nulPosition_lt {buf : Bytes} {position : Nat} (found : nulPosition buf = some position) :
    position < buf.length := by
  obtain ⟨before, after, rfl, -, rfl⟩ := nulPosition_eq_some_iff.mp found
  simp

/-- A scan that resumes with what an earlier one found gives what a fresh scan
would. -/
theorem Socks4Ends.scan_scan (isSocks4a : Bool) (buf more : Bytes) :
    (Socks4Ends.scan ⟨none, none⟩ isSocks4a buf).scan isSocks4a (buf ++ more) =
      Socks4Ends.scan ⟨none, none⟩ isSocks4a (buf ++ more) := by
  cases userId : nulPosition buf with
  | none => simp only [scan, userId]
  | some uEnd =>
      have kept := nulPosition_append userId more
      have inside := nulPosition_lt userId
      cases isSocks4a with
      | false => simp [scan, userId, kept]
      | true =>
          cases domain : nulPosition (buf.drop (uEnd + 1)) with
          | none => simp [scan, userId, kept, domain]
          | some dEnd =>
              have keptDomain := nulPosition_append domain more
              rw [← List.drop_append_of_le_length (by omega)] at keptDomain
              simp [scan, userId, kept, domain, keptDomain]

variable {start stop : Nat} {events : List SocketEvent}

/-- The loop ends with a fresh scan of everything it has read. -/
theorem readSocks4Fields_returned {isSocks4a : Bool} {fuel : Nat} {buf bytes : Bytes}
    {ends found : Socks4Ends}
    (sound : ∀ more, ends.scan isSocks4a (buf ++ more) =
      Socks4Ends.scan ⟨none, none⟩ isSocks4a (buf ++ more))
    (run : Runs (readSocks4Fields isSocks4a fuel buf ends) start events
      (.returned (bytes, found)) stop) :
    bytes = buf ++ received .client events ∧
      found = Socks4Ends.scan ⟨none, none⟩ isSocks4a bytes ∧
      found.userIdEnd.isSome = true ∧ (isSocks4a = true → found.domainEnd.isSome = true) := by
  induction fuel generalizing buf ends start events with
  | zero => exact absurd (runs_fail_iff.mp run).2.1 nofun
  | succ fuel inductionHypothesis =>
      have fresh : ends.scan isSocks4a buf = Socks4Ends.scan ⟨none, none⟩ isSocks4a buf := by
        have here := sound []
        rwa [List.append_nil] at here
      rw [readSocks4Fields, fresh] at run
      split at run
      · next complete =>
          obtain ⟨rfl, same, -⟩ := runs_ret_iff.mp run
          cases same
          rw [received_nil, List.append_nil]
          rw [Bool.and_eq_true, Bool.or_eq_true, Bool.not_eq_true'] at complete
          refine ⟨rfl, rfl, complete.1, fun marked => ?_⟩
          rcases complete.2 with plain | domain
          · rw [marked] at plain
            exact absurd plain nofun
          · exact domain
      · split at run
        · exact absurd (runs_fail_iff.mp run).2.1 nofun
        · obtain ⟨chunk, middle, before, after, readRun, rest, rfl⟩ :=
            runs_bind_returned_iff.mp run
          split at rest
          · exact absurd (runs_fail_iff.mp rest).2.1 nofun
          · have resumed : ∀ more, (Socks4Ends.scan ⟨none, none⟩ isSocks4a buf).scan isSocks4a
                (buf ++ chunk.bytes ++ more) =
                  Socks4Ends.scan ⟨none, none⟩ isSocks4a (buf ++ chunk.bytes ++ more) := by
              intro more
              rw [List.append_assoc]
              exact Socks4Ends.scan_scan isSocks4a buf (chunk.bytes ++ more)
            have later := inductionHypothesis resumed rest
            rwa [received_append, received_read readRun, ← List.append_assoc]

/-! ## The request that is read -/

theorem drop_after_nul (before after : Bytes) :
    (before ++ 0 :: after).drop (before.length + 1) = after := by
  rw [← List.drop_drop, List.drop_left' rfl]
  rfl

/-- The fields are cut at the terminators: what follows the last one is
leftover. -/
theorem splitSocks4Fields_eq_ok {isSocks4a : Bool} {addr : Ipv4Addr} {buf leftover : Bytes}
    {host : Text}
    (accepted : splitSocks4Fields isSocks4a addr buf (Socks4Ends.scan ⟨none, none⟩ isSocks4a buf) =
      .ok (host, leftover)) :
    ∃ userId domain, 0 ∉ userId ∧ 0 ∉ domain ∧ (isSocks4a = false → domain = []) ∧
      userId.length ≤ 255 ∧ domain.length ≤ 253 ∧
        buf = userId ++ 0 :: ((if isSocks4a then domain ++ [0] else []) ++ leftover) ∧
      host = if isSocks4a then fromUtf8Lossy domain else addr.toText := by
  cases found : nulPosition buf with
  | none =>
      simp only [splitSocks4Fields, Socks4Ends.scan, found] at accepted
      exact absurd accepted nofun
  | some uEnd =>
      obtain ⟨userId, after, rfl, noNul, rfl⟩ := nulPosition_eq_some_iff.mp found
      cases isSocks4a with
      | false =>
          simp only [splitSocks4Fields, Socks4Ends.scan, found, drop_after_nul] at accepted
          split at accepted
          · exact absurd accepted nofun
          · next short =>
              cases accepted
              exact ⟨userId, [], noNul, List.not_mem_nil, fun _ => rfl, Nat.le_of_not_lt short,
                Nat.zero_le _, rfl, rfl⟩
      | true =>
          simp only [splitSocks4Fields, Socks4Ends.scan, found, drop_after_nul] at accepted
          cases foundDomain : nulPosition after with
          | none =>
              simp only [foundDomain, if_true, Option.map_none] at accepted
              split at accepted
              · exact absurd accepted nofun
              · exact absurd accepted nofun
          | some length =>
              obtain ⟨domain, rest, rfl, noNulDomain, rfl⟩ :=
                nulPosition_eq_some_iff.mp foundDomain
              simp only [foundDomain, if_true, Option.map_some, Nat.add_sub_cancel_left,
                drop_after_nul, List.take_left'] at accepted
              split at accepted
              · exact absurd accepted nofun
              · next short =>
                  split at accepted
                  · exact absurd accepted nofun
                  · next shortDomain =>
                      cases accepted
                      refine ⟨userId, domain, noNul, noNulDomain, nofun, Nat.le_of_not_lt short,
                        Nat.le_of_not_lt shortDomain, ?_, rfl⟩
                      simp

/-- What `handle_socks4` reads before it connects is one message and leftover. -/
theorem readSocks4Request_returned {request : Socks4Request}
    (run : Runs readSocks4Request start events (.returned request) stop) :
    ∃ message : Socks4Message,
      [0x04] ++ received .client events = message.encode ++ request.leftover ∧
        request = message.request request.leftover ∧ message.Short := by
  obtain ⟨header, _, headerEvents, later, headerRun, rest, rfl⟩ := runs_bind_returned_iff.mp run
  dsimp only at rest
  split at rest
  · obtain ⟨_, _, _, _, _, failing, -⟩ := runs_bind_returned_iff.mp rest
    exact absurd (runs_fail_iff.mp failing).2.1 nofun
  · next command =>
      obtain ⟨⟨buf, ends⟩, _, fields, after, fieldsRun, afterFields, rfl⟩ :=
        runs_bind_returned_iff.mp rest
      obtain ⟨⟨host, leftover⟩, _, settled, returned, settleRun, last, rfl⟩ :=
        runs_bind_returned_iff.mp afterFields
      obtain ⟨rfl, same, -⟩ := runs_ret_iff.mp last
      cases same
      obtain ⟨bufEq, rfl, -, -⟩ := readSocks4Fields_returned (fun _ => rfl) fieldsRun
      rw [List.nil_append] at bufEq
      obtain ⟨rfl, -, ⟨_, accepted, same⟩ | ⟨_, _, impossible⟩⟩ := runs_settle_iff.mp settleRun
      · cases same
        obtain ⟨userId, domain, noNul, noNulDomain, unmarked, shortUserId, shortDomain, bytes,
            hostEq⟩ :=
          splitSocks4Fields_eq_ok accepted
        dsimp only at bytes hostEq
        have headerBytes : header.toList =
            ([0x01] : Bytes) ++ toBeBytes (fromBeBytes (byteAt 1 header) (byteAt 2 header)) ++
              (Ipv4Addr.mk (byteAt 3 header) (byteAt 4 header) (byteAt 5 header)
                (byteAt 6 header)).octets := by
          rw [toBeBytes_fromBeBytes, ← not_not.mp command]
          exact toList_eq_ofFn header
        refine ⟨⟨fromBeBytes (byteAt 1 header) (byteAt 2 header),
          ⟨byteAt 3 header, byteAt 4 header, byteAt 5 header, byteAt 6 header⟩,
          userId, domain, noNul, noNulDomain, unmarked⟩, ?_, ?_, shortUserId, shortDomain⟩
        · rw [received_append, received_readExact headerRun, headerBytes, List.append_nil,
            List.append_nil, ← bufEq, bytes, Socks4Message.encode]
          simp only [List.append_assoc, List.cons_append, List.nil_append]
        · rw [hostEq]
          rfl
      · exact absurd impossible nofun

/-! ## Messages are prefix-free -/

/-- Two words that end at the first zero byte of one stream are the same. -/
theorem append_nul_inj {word other rest otherRest : Bytes} (noNul : 0 ∉ word)
    (otherNoNul : 0 ∉ other) (same : word ++ 0 :: rest = other ++ 0 :: otherRest) :
    word = other ∧ rest = otherRest := by
  have position := nulPosition_eq_some_iff.mpr ⟨word, rest, rfl, noNul, rfl⟩
  have otherPosition := nulPosition_eq_some_iff.mpr ⟨other, otherRest, rfl, otherNoNul, rfl⟩
  rw [same, otherPosition] at position
  have length := Option.some.inj position
  obtain ⟨words, rests⟩ := List.append_inj same length.symm
  exact ⟨words, (List.cons.inj rests).2⟩

theorem Socks4Message.encode_append_inj {message other : Socks4Message} {rest otherRest : Bytes}
    (same : message.encode ++ rest = other.encode ++ otherRest) :
    message = other ∧ rest = otherRest := by
  obtain ⟨port, addr, userId, domain, noNul, noNulDomain, unmarked⟩ := message
  obtain ⟨port', addr', userId', domain', noNul', noNulDomain', unmarked'⟩ := other
  simp only [encode, List.append_assoc] at same
  have afterCommand := List.append_cancel_left same
  obtain ⟨ports, afterPort⟩ := List.append_inj afterCommand rfl
  obtain ⟨addrs, afterAddr⟩ := List.append_inj afterPort rfl
  have samePort := toBeBytes_injective ports
  have sameAddr := Ipv4Addr.octets_injective addrs
  subst samePort sameAddr
  rw [List.cons_append, List.cons_append] at afterAddr
  obtain ⟨rfl, afterUserId⟩ := append_nul_inj noNul noNul' afterAddr
  by_cases marked : isSocks4aAddr addr = true
  · rw [if_pos marked, if_pos marked, List.append_assoc, List.append_assoc] at afterUserId
    obtain ⟨rfl, rests⟩ := append_nul_inj noNulDomain noNulDomain' afterUserId
    exact ⟨rfl, rests⟩
  · rw [if_neg marked, if_neg marked] at afterUserId
    have domains : domain = domain' := by
      rw [unmarked (Bool.eq_false_iff.mpr marked), unmarked' (Bool.eq_false_iff.mpr marked)]
    subst domains
    exact ⟨rfl, afterUserId⟩

end SimpleForwarder

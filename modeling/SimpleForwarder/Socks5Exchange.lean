import SimpleForwarder.Lib.Duplex
import SimpleForwarder.ProxyServer.Handshake
import SimpleForwarder.ReferenceCrates

/-!
Contract: the SOCKS5 client against the SOCKS5 server.

Owns: programs as parties that exchange bytes over a connection that does not
fail, the conversation of `socks5_connect` with `handle_socks5`, and the law
that under every interleaving it comes to one end: both sides have succeeded,
they agree on the target, and each has read exactly what the other wrote.

Does not own: the outbound connection of the server. It succeeds here, and what
it gives is a parameter.
-/

namespace SimpleForwarder

open RustText IpText EffectProgram Program Duplex

/-! ## Programs as parties -/

section Parties

variable {α β : Type} {peer : Peer}

/-- The next step of a program that has `input` before it on its side of the
connection: a read that can be served, or a write. -/
def talk (peer : Peer) : Async α → Bytes → Option (Act (Async α) UInt8)
  | .call (.readExact side size) _ next, input =>
      if enough : side = peer ∧ size ≤ input.length then
        have length : (input.take size).toArray.size = size := by
          rw [List.size_toArray, List.length_take, Nat.min_eq_left enough.2]
        some ⟨next (.ready (.ok ⟨(input.take size).toArray, length⟩)), size, []⟩
      else none
  | .call (.writeAll side bytes) _ next, _ =>
      if side = peer then some ⟨next (.ready (.ok ())), 0, bytes⟩ else none
  | _, _ => none

def speaker (peer : Peer) (α : Type) : Party (Async α) UInt8 where
  step := talk peer
  available := by
    intro program input act acts
    unfold talk at acts
    split at acts
    next =>
      split at acts
      next enough => cases acts; exact enough.2
      next => cases acts
    next =>
      split at acts
      next => cases acts; exact Nat.zero_le _
      next => cases acts
    next => cases acts
  monotone := by
    intro program input act acts more
    unfold talk at acts ⊢
    split at acts
    next =>
      split at acts
      next enough =>
        have still := Nat.le_add_right_of_le (k := more.length) enough.2
        rw [← List.length_append] at still
        cases acts
        simp only [enough.1, still, and_self, dite_true]
        simp only [List.take_append_of_le_length enough.2]
      next => cases acts
    next =>
      split at acts
      next same => cases acts; simp only [same, if_true]
      next => cases acts
    next => cases acts

theorem solo_writeAll (bytes : Bytes) (next : Unit → Async α) :
    Solo (speaker peer α) ((writeAll peer bytes).bind next) [] (next ()) bytes := by
  have acts : (speaker peer α).step ((writeAll peer bytes).bind next) [] =
      some ⟨next (), 0, bytes⟩ := if_pos rfl
  exact .single acts rfl

theorem solo_readExact {size : Nat} (block : Vector UInt8 size)
    (next : Vector UInt8 size → Async α) :
    Solo (speaker peer α) ((readExact peer size).bind next) block.toList (next block) [] := by
  have acts : (speaker peer α).step ((readExact peer size).bind next) block.toList =
      some ⟨next block, size, []⟩ := by
    have enough : peer = peer ∧ size ≤ block.toList.length :=
      ⟨rfl, Nat.le_of_eq block.length_toList.symm⟩
    apply (dif_pos enough).trans
    have whole : block.toList.take size = block.toList :=
      List.take_of_length_le (Nat.le_of_eq block.length_toList)
    simp only [whole]
    rfl
  exact .single acts block.length_toList.symm

/-- What a party does is a run of its program, which reads the input and writes
the output. -/
theorem runs_of_solo {program last : Async α} {input output : Bytes}
    (solo : Solo (speaker peer α) program input last output) {start stop : Nat}
    {after : List SocketEvent} {outcome : Outcome Text α}
    (run : Runs last start after outcome stop) :
    ∃ before, Runs program start (before ++ after) outcome stop ∧
      received peer before = input ∧ sent peer before = output := by
  induction solo with
  | refl => exact ⟨[], run, rfl, rfl⟩
  | @step program last input more output act acts all solo inductionHypothesis =>
      obtain ⟨before, rest, reads, writes⟩ := inductionHypothesis run
      have acts : talk peer program input = some act := acts
      unfold talk at acts
      split at acts
      next side size deadlines next input =>
        split at acts
        next enough =>
          cases acts
          refine ⟨_ :: before, .ready _ (Nat.le_refl _) rest, ?_, ?_⟩
          · rw [← List.singleton_append, received_append, reads, received_singleton, receivedBy,
              if_pos enough.1]
            exact congrArg (· ++ more) (List.take_of_length_le (Nat.le_of_eq all.symm))
          · rw [← List.singleton_append, sent_append, writes]
            rfl
        next => cases acts
      next side bytes deadlines next input =>
        split at acts
        next same =>
          cases acts
          refine ⟨_ :: before, .ready _ (Nat.le_refl _) rest, ?_, ?_⟩
          · rw [List.length_eq_zero_iff.mp all.symm, ← reads]
            rfl
          · rw [← List.singleton_append, sent_append, writes, sent_singleton, sentBy, if_pos same]
        next => cases acts
      next => cases acts

end Parties

/-! ## The server's side -/

section Server

variable {α : Type} {port : UInt16}

/-- What `handle_socks5` hands over. -/
def Socks5Request.handed (request : Socks5Request) (connection : Connection) : HandshakeResult where
  host := request.host
  port := request.port
  proxyDesc := connection.proxyDesc
  isDirect := connection.isDirect
  protocol := if request.resolveHostname then .socks5h else .socks5
  leftover := []
  targetLeftover := connection.targetLeftover

/-- `handle_socks5` with what its connection attempt does as a parameter. -/
def answerSocks5 (localAddr : Option SocketAddr) (connect : Socks5Request → Async Connection) :
    Async HandshakeResult := do
  let request ← readSocks5Request
  let connection ← connect request
  sendSuccessReply localAddr
  pure (request.handed connection)

theorem handleSocks5_eq (localAddr : Option SocketAddr)
    (rules : List (RuleMatcher × ProxyConfig)) :
    handleSocks5 localAddr rules = answerSocks5 localAddr fun request =>
      connectToTarget request.host request.port request.resolveHostname request.ip true rules :=
  rfl

theorem solo_readPort (next : UInt16 → Async α) :
    Solo (speaker .client α) ((readExact .client 2).bind fun portBuf => next (portOf portBuf))
      (toBeBytes port) (next port) [] := by
  obtain ⟨portBuf, bytes⟩ := exists_block (length_toBeBytes port)
  have solo : Solo (speaker .client α)
      ((readExact .client 2).bind fun portBuf => next (portOf portBuf)) portBuf.toList
      (next (portOf portBuf)) [] := solo_readExact portBuf _
  rwa [portOf_of_toList bytes, bytes] at solo

/-- The server reads an address and a port, and nothing else. -/
theorem solo_readSocks5Address (addr : Socks5Addr) (next : Socks5Request → Async α) :
    Solo (speaker .client α) ((readSocks5Address addr.atyp).bind next)
      (addr.encode ++ toBeBytes port) (next (addr.request port)) [] := by
  cases addr with
  | ipv4 addr =>
      obtain ⟨octets, bytes⟩ : ∃ octets : Vector UInt8 4, octets.toList = addr.octets :=
        exists_block rfl
      have same : Ipv4Addr.ofOctets octets = addr :=
        Ipv4Addr.octets_injective ((Ipv4Addr.octets_ofOctets octets).trans bytes)
      have reads : readSocks5Address (Socks5Addr.ipv4 addr).atyp =
          (readExact .client 4).bind fun addr => (readExact .client 2).bind fun portBuf =>
            .ret ⟨(Ipv4Addr.ofOctets addr).toText, portOf portBuf, false,
              some (.v4 (Ipv4Addr.ofOctets addr))⟩ := rfl
      rw [reads, bind_bind, Socks5Addr.encode, ← bytes]
      apply (solo_readExact octets _).trans
      rw [bind_bind, same]
      exact solo_readPort fun port => next ⟨addr.toText, port, false, some (.v4 addr)⟩
  | domain name nonempty short =>
      have count : name.length = (byteAt 0 #v[UInt8.ofNat name.length]).toNat :=
        (UInt8.toNat_ofNat_of_lt' (Nat.lt_of_le_of_lt short (by decide))).symm
      have inRange : ¬ ((byteAt 0 #v[UInt8.ofNat name.length]).toNat = 0 ∨
          (byteAt 0 #v[UInt8.ofNat name.length]).toNat > 253) := by
        have positive := List.length_pos_of_ne_nil nonempty
        omega
      obtain ⟨hostBuf, bytes⟩ : ∃ hostBuf : Vector UInt8 (byteAt 0 #v[UInt8.ofNat name.length]).toNat,
          hostBuf.toList = name := exists_block count
      have reads : readSocks5Address (Socks5Addr.domain name nonempty short).atyp =
          (readExact .client 1).bind fun lenBuf =>
            if (byteAt 0 lenBuf).toNat = 0 ∨ (byteAt 0 lenBuf).toNat > 253 then
              (sendErrorReply 0x08).bind fun _ =>
                .fail "SOCKS5 domain name length must be between 1 and 253".toList
            else (readExact .client (byteAt 0 lenBuf).toNat).bind fun hostBuf =>
              (readExact .client 2).bind fun portBuf =>
                .ret ⟨fromUtf8Lossy hostBuf.toList, portOf portBuf, true, none⟩ := rfl
      rw [reads, bind_bind]
      apply (solo_readExact #v[UInt8.ofNat name.length] _).trans
      have host : Solo (speaker .client α)
          ((readExact .client (byteAt 0 #v[UInt8.ofNat name.length]).toNat).bind fun hostBuf =>
            (readExact .client 2).bind fun portBuf =>
              next ⟨fromUtf8Lossy hostBuf.toList, portOf portBuf, true, none⟩)
          (hostBuf.toList ++ toBeBytes port)
          (next ⟨fromUtf8Lossy hostBuf.toList, port, true, none⟩) [] :=
        (solo_readExact hostBuf _).trans
          (solo_readPort fun port => next ⟨fromUtf8Lossy hostBuf.toList, port, true, none⟩)
      rw [bytes] at host
      rw [if_neg inRange, bind_bind]
      simp only [bind_bind]
      exact host
  | ipv6 addr =>
      obtain ⟨octets, bytes⟩ : ∃ octets : Vector UInt8 16, octets.toList = addr.octets :=
        exists_block addr.length_octets
      have reads : readSocks5Address (Socks5Addr.ipv6 addr).atyp =
          (readExact .client 16).bind fun addr => (readExact .client 2).bind fun portBuf =>
            .ret ⟨(Ipv6Addr.ofOctets addr).toText, portOf portBuf, false,
              some (.v6 (Ipv6Addr.ofOctets addr))⟩ := rfl
      rw [reads, bind_bind, Socks5Addr.encode, ← bytes]
      apply (solo_readExact octets _).trans
      rw [bind_bind, Ipv6Addr.ofOctets_of_toList bytes]
      exact solo_readPort fun port => next ⟨addr.toText, port, false, some (.v6 addr)⟩

theorem solo_readSocks5Target (addr : Socks5Addr) (rsv : UInt8) (next : Socks5Request → Async α) :
    Solo (speaker .client α) (readSocks5Target.bind next)
      ([0x05, 0x01, rsv, addr.atyp] ++ addr.encode ++ toBeBytes port)
      (next (addr.request port)) [] := by
  have reads : readSocks5Target.bind next = (readExact .client 4).bind fun requestHeader =>
      (if byteAt 0 requestHeader ≠ 0x05 then .fail "Invalid SOCKS5 version in request".toList
        else if byteAt 1 requestHeader ≠ 0x01 then
          (sendErrorReply 0x07).bind fun _ =>
            .fail ("Unsupported SOCKS5 command: ".toList ++ decimal (byteAt 1 requestHeader).toNat)
        else readSocks5Address (byteAt 3 requestHeader)).bind next := bind_bind _ _ _
  rw [reads, List.append_assoc]
  apply (solo_readExact #v[0x05, 0x01, rsv, addr.atyp] _).trans
  exact solo_readSocks5Address addr next

/-- The greeting of a client that offers no authentication only. -/
theorem solo_negotiateMethod (next : Unit → Async α) :
    Solo (speaker .client α) (negotiateMethod.bind next) [0x01, 0x00] (next ()) [0x05, 0x00] := by
  have negotiates : negotiateMethod.bind next = (readExact .client 1).bind fun secondByte =>
      (if (byteAt 0 secondByte).toNat = 0 ∨ (byteAt 0 secondByte).toNat > 255 then
          .fail "SOCKS5 nmethods must be between 1 and 255".toList
        else (readExact .client (byteAt 0 secondByte).toNat).bind fun methods =>
          (writeAll .client [0x05, selectMethod methods.toList]).bind fun _ =>
            if selectMethod methods.toList = 0xFF then
              .fail "No acceptable authentication method".toList
            else .ret ()).bind next := bind_bind _ _ _
  have methods : Solo (speaker .client α)
      ((readExact .client 1).bind fun methods =>
        (writeAll .client [0x05, selectMethod methods.toList]).bind fun _ =>
          (if selectMethod methods.toList = 0xFF then
              (.fail "No acceptable authentication method".toList : Async Unit)
            else .ret ()).bind next)
      [0x00] (next ()) [0x05, 0x00] :=
    (solo_readExact #v[0x00] _).trans (solo_writeAll [0x05, 0x00] _)
  rw [negotiates]
  apply (solo_readExact #v[0x01] _).trans
  rw [if_neg (by decide), bind_bind]
  simp only [bind_bind]
  exact methods

/-- The server reads the greeting and the request, and then connects. -/
theorem solo_answerSocks5 (localAddr : Option SocketAddr)
    (connect : Socks5Request → Async Connection) (addr : Socks5Addr) (port : UInt16) :
    ∃ selected, Solo (speaker .client HandshakeResult) (answerSocks5 localAddr connect)
        [0x01, 0x00] selected [0x05, 0x00] ∧
      Solo (speaker .client HandshakeResult) selected
        ([0x05, 0x01, 0x00, addr.atyp] ++ addr.encode ++ toBeBytes port)
        ((connect (addr.request port)).bind fun connection =>
          (sendSuccessReply localAddr).bind fun _ => .ret ((addr.request port).handed connection))
        [] := by
  have negotiates : answerSocks5 localAddr connect =
      negotiateMethod.bind fun _ => readSocks5Target.bind fun request =>
        (connect request).bind fun connection =>
          (sendSuccessReply localAddr).bind fun _ => .ret (request.handed connection) :=
    bind_bind negotiateMethod (fun _ => readSocks5Target) _
  rw [negotiates]
  exact ⟨_, solo_negotiateMethod _, solo_readSocks5Target addr 0x00 _⟩

variable (crates : Crates) (localAddr : Option SocketAddr)
  (rules : List (RuleMatcher × ProxyConfig))

/-- The handshake of a connection, with the connection attempt of a SOCKS5
client as a parameter. -/
def serveClient (connect : Socks5Request → Async Connection) : Async HandshakeResult := do
  let firstByte ← readExact .client 1
  if byteAt 0 firstByte = 0x05 then answerSocks5 localAddr connect
  else if byteAt 0 firstByte = 0x04 then handleSocks4 rules
  else handleHttp crates (byteAt 0 firstByte) rules

theorem handleClient_eq :
    handleClient crates localAddr rules = serveClient crates localAddr rules fun request =>
      connectToTarget request.host request.port request.resolveHostname request.ip true rules :=
  rfl

theorem solo_serveClient (connect : Socks5Request → Async Connection) (addr : Socks5Addr)
    (port : UInt16) :
    ∃ selected, Solo (speaker .client HandshakeResult)
        (serveClient crates localAddr rules connect) [0x05, 0x01, 0x00] selected [0x05, 0x00] ∧
      Solo (speaker .client HandshakeResult) selected
        ([0x05, 0x01, 0x00, addr.atyp] ++ addr.encode ++ toBeBytes port)
        ((connect (addr.request port)).bind fun connection =>
          (sendSuccessReply localAddr).bind fun _ => .ret ((addr.request port).handed connection))
        [] := by
  obtain ⟨selected, negotiated, asked⟩ := solo_answerSocks5 localAddr connect addr port
  refine ⟨selected, ?_, asked⟩
  exact (solo_readExact #v[0x05] _).trans negotiated

end Server

/-! ## The client's side -/

section Client

/-- The client accepts every form of the success reply and reads nothing else. -/
theorem solo_readSocks5Response (localAddr : Option SocketAddr) :
    Solo (speaker .target Unit) readSocks5Response (successReply localAddr) (.ret ()) [] := by
  have skips : ∀ {atyp : UInt8} {bound : Bytes} {size : Nat}, bound.length = size →
      skipBoundAddress atyp = ((readExact .target size).bind fun _ => .ret ()) →
      Solo (speaker .target Unit) readSocks5Response ([0x05, 0x00, 0x00, atyp] ++ bound) (.ret ())
        [] := by
    intro atyp bound size length skips
    obtain ⟨block, bytes⟩ : ∃ block : Vector UInt8 size, block.toList = bound :=
      exists_block length
    apply (solo_readExact #v[0x05, 0x00, 0x00, atyp] _).trans
    show Solo (speaker .target Unit) (skipBoundAddress atyp) bound (.ret ()) []
    rw [skips, ← bytes]
    exact solo_readExact block _
  match localAddr with
  | none =>
      have length : ([0, 0, 0, 0, 0, 0] : Bytes).length = 6 := rfl
      exact skips length rfl
  | some ⟨.v4 addr, port⟩ =>
      have length : (addr.octets ++ toBeBytes port).length = 6 := rfl
      exact skips length rfl
  | some ⟨.v6 addr, port⟩ =>
      have length : (addr.octets ++ toBeBytes port).length = 18 := by
        rw [List.length_append, addr.length_octets, length_toBeBytes]
      exact skips length rfl

theorem solo_socks5Connect {host : Text} {port : UInt16} {isSocks5h : Bool} {request : Bytes}
    (encodes : socks5Request host port isSocks5h = .ok request)
    (localAddr : Option SocketAddr) :
    ∃ offered asked, Solo (speaker .target Unit) (socks5Connect host port isSocks5h) [] offered
        [0x05, 0x01, 0x00] ∧
      Solo (speaker .target Unit) offered [0x05, 0x00] asked request ∧
      Solo (speaker .target Unit) asked (successReply localAddr) (.ret ()) [] := by
  refine ⟨_, readSocks5Response, solo_writeAll [0x05, 0x01, 0x00] _, ?_,
    solo_readSocks5Response localAddr⟩
  have asks : Solo (speaker .target Unit)
      ((settle (socks5Request host port isSocks5h)).bind fun request =>
        (writeAll .target request).bind fun _ => readSocks5Response) [] readSocks5Response
      request := by
    rw [encodes]
    exact solo_writeAll request _
  exact (solo_readExact #v[0x05, 0x00] _).trans asks

end Client

/-! ## The exchange -/

/-- A host that the client can put into a request that the server accepts: the text
of an address, or, for a `socks5h` upstream, a name of 1 to 253 bytes. The client
sends the empty name and names of 254 and 255 bytes too. -/
def IsSocks5Host (host : Text) (isSocks5h : Bool) : Prop :=
  parse host ≠ none ∨
    isSocks5h = true ∧ 1 ≤ (asBytes host).length ∧ (asBytes host).length ≤ 253

instance (host : Text) (isSocks5h : Bool) : Decidable (IsSocks5Host host isSocks5h) := by
  unfold IsSocks5Host
  infer_instance

/-- What the server makes of the request for a host: the address with its
canonical text, or the name as it is. -/
def socks5Target (host : Text) (port : UInt16) : Socks5Request :=
  match parse host with
  | some ip => ⟨ip.toText, port, false, some ip⟩
  | none => ⟨host, port, true, none⟩

theorem socks5Request_eq_ok {host : Text} {isSocks5h : Bool}
    (isHost : IsSocks5Host host isSocks5h) (port : UInt16) :
    ∃ addr : Socks5Addr, addr.request port = socks5Target host port ∧
      socks5Request host port isSocks5h =
        .ok ([0x05, 0x01, 0x00, addr.atyp] ++ addr.encode ++ toBeBytes port) := by
  unfold socks5Target socks5Request socks5Address
  cases parsed : parse host with
  | some ip =>
      cases ip with
      | v4 addr => exact ⟨.ipv4 addr, rfl, rfl⟩
      | v6 addr => exact ⟨.ipv6 addr, rfl, rfl⟩
  | none =>
      obtain ⟨rfl, nonempty, short⟩ := isHost.resolve_left (absurd parsed)
      have bytes : asBytes host ≠ [] := List.ne_nil_of_length_pos nonempty
      refine ⟨.domain (asBytes host) bytes short, ?_, ?_⟩
      · rw [Socks5Addr.request, fromUtf8Lossy_asBytes]
      · have fits : ¬ (asBytes host).length > 255 := by omega
        simp only [if_true, if_neg fits]
        rfl

section Exchange

variable (crates : Crates) (localAddr : Option SocketAddr)
  (rules : List (RuleMatcher × ProxyConfig)) (host : Text) (port : UInt16) (isSocks5h : Bool)

/-- The end of the exchange: both sides have returned, the pipes are empty, and
each side has read what the other wrote. -/
def exchanged (request : Bytes) (connection : Connection) :
    Duplex.Conversation (Async Unit) (Async HandshakeResult) UInt8 where
  left := .ret ()
  right := .ret ((socks5Target host port).handed connection)
  toRight := ⟨[0x05, 0x01, 0x00] ++ request, []⟩
  toLeft := ⟨[0x05, 0x00] ++ successReply localAddr, []⟩

theorem exchanged_isStuck (request : Bytes) (connection : Connection) :
    Machine.IsStuck (Duplex.Conversation.step (speaker .target Unit)
      (speaker .client HandshakeResult)) (exchanged localAddr host port request connection) := by
  intro side
  cases side with
  | left => rfl
  | right => rfl

/-- The program of a server whose outbound connection succeeds. -/
def serveConnected (connection : Connection) : Async HandshakeResult :=
  serveClient crates localAddr rules fun _ => pure connection

theorem exchange_reaches {host : Text} {isSocks5h : Bool} {request : Bytes}
    {addr : Socks5Addr} (connection : Connection)
    (target : addr.request port = socks5Target host port)
    (encodes : socks5Request host port isSocks5h = .ok request)
    (bytes : request = [0x05, 0x01, 0x00, addr.atyp] ++ addr.encode ++ toBeBytes port) :
    Duplex.Conversation.Reaches (speaker .target Unit) (speaker .client HandshakeResult)
      (.start (socks5Connect host port isSocks5h)
        (serveConnected crates localAddr rules connection))
      (exchanged localAddr host port request connection) := by
  obtain ⟨offered, asked, offers, asks, accepts⟩ := solo_socks5Connect encodes localAddr
  obtain ⟨selected, selects, connects⟩ := solo_serveClient crates localAddr rules
    (fun _ => pure connection) addr port
  rw [← bytes] at connects
  have replies : Solo (speaker .client HandshakeResult) selected (request ++ [])
      (.ret ((socks5Target host port).handed connection)) ([] ++ successReply localAddr) := by
    apply connects.trans
    rw [target]
    exact solo_writeAll (successReply localAddr) _
  rw [List.append_nil, List.nil_append] at replies
  have begun : Duplex.Conversation.Reaches (speaker .target Unit) (speaker .client HandshakeResult)
      (.start (socks5Connect host port isSocks5h)
        (serveConnected crates localAddr rules connection))
      (.start (socks5Connect host port isSocks5h)
        (serveConnected crates localAddr rules connection)) := .refl _
  exact ((((begun.thenLeft offers).thenRight selects).thenLeft asks).thenRight replies).thenLeft
    accepts

/-- What a client and a server that agree do, `connection` being what the
server's connection attempt gives. -/
structure Socks5Agreement (connection : Connection) (request : Bytes) : Prop where
  encodes : socks5Request host port isSocks5h = .ok request
  /-- Whatever the parties have done, they can come to the end of the exchange,
  and they stop nowhere else. -/
  ends : ∀ sides middle, Machine.run (Duplex.Conversation.step (speaker .target Unit)
      (speaker .client HandshakeResult))
      (.start (socks5Connect host port isSocks5h)
        (serveConnected crates localAddr rules connection)) sides = some middle →
    Duplex.Conversation.Reaches (speaker .target Unit) (speaker .client HandshakeResult) middle
        (exchanged localAddr host port request connection) ∧
      (Machine.IsStuck (Duplex.Conversation.step (speaker .target Unit)
          (speaker .client HandshakeResult)) middle →
        middle = exchanged localAddr host port request connection)
  /-- What the client does in it is a run of the client. -/
  client_runs : ∀ start, ∃ events,
    Runs (socks5Connect host port isSocks5h) start events (.returned ()) start ∧
      received .target events = [0x05, 0x00] ++ successReply localAddr ∧
      sent .target events = [0x05, 0x01, 0x00] ++ request
  /-- What the server does in it, around a connection attempt that succeeds, is a
  run of the handshake. -/
  server_runs : ∀ start stop attempt,
    Runs (connectToTarget (socks5Target host port).host (socks5Target host port).port
        (socks5Target host port).resolveHostname (socks5Target host port).ip true rules) start
      attempt (.returned connection) stop →
    ∃ before after, Runs (handleClient crates localAddr rules) start (before ++ (attempt ++ after))
        (.returned ((socks5Target host port).handed connection)) stop ∧
      received .client before = [0x05, 0x01, 0x00] ++ request ∧ received .client after = [] ∧
      sent .client before = [0x05, 0x00] ∧ sent .client after = successReply localAddr

/-- The SOCKS5 client and the SOCKS5 server agree on every host and port. -/
theorem socks5_parties_agree (connection : Connection)
    (isHost : IsSocks5Host host isSocks5h) :
    ∃ request,
      Socks5Agreement crates localAddr rules host port isSocks5h connection request := by
  obtain ⟨addr, target, encodes⟩ := socks5Request_eq_ok isHost port
  refine ⟨_, encodes, ?_, ?_, ?_⟩
  · intro sides middle reached
    exact Duplex.Conversation.ends_alike
      (exchange_reaches crates localAddr rules port connection target encodes rfl)
      (exchanged_isStuck localAddr host port _ connection) reached
  · intro start
    obtain ⟨offered, asked, offers, asks, accepts⟩ := solo_socks5Connect encodes localAddr
    obtain ⟨events, run, reads, writes⟩ :=
      runs_of_solo (offers.trans (asks.trans accepts)) (.ret () start)
    rw [List.append_nil] at run writes
    exact ⟨events, run, reads, writes⟩
  · intro start stop attempt connected
    obtain ⟨selected, selects, connects⟩ := solo_serveClient crates localAddr rules
      (fun request => connectToTarget request.host request.port request.resolveHostname request.ip
        true rules) addr port
    rw [target] at connects
    have replies : Solo (speaker .client HandshakeResult)
        ((sendSuccessReply localAddr).bind fun _ =>
          .ret ((socks5Target host port).handed connection)) []
        (.ret ((socks5Target host port).handed connection)) (successReply localAddr) :=
      solo_writeAll (successReply localAddr) _
    obtain ⟨after, replied, readsAfter, writesAfter⟩ := runs_of_solo replies (.ret _ stop)
    rw [List.append_nil] at replied
    have rest : Runs ((connectToTarget (socks5Target host port).host
        (socks5Target host port).port (socks5Target host port).resolveHostname
        (socks5Target host port).ip true rules).bind fun connection =>
          (sendSuccessReply localAddr).bind fun _ =>
            .ret ((socks5Target host port).handed connection)) start (attempt ++ after)
        (.returned ((socks5Target host port).handed connection)) stop :=
      runs_bind_iff.mpr (.inl ⟨connection, stop, attempt, after, connected, replied, rfl⟩)
    obtain ⟨before, run, reads, writes⟩ := runs_of_solo (selects.trans connects) rest
    rw [List.append_nil] at writes
    exact ⟨before, after, run, reads, readsAfter, writes, writesAfter⟩

end Exchange

/-- A name through a `socks5h` upstream, and an address through a `socks5` one. -/
theorem socks5_parties_agree_both :
    (∃ request, Socks5Agreement referenceCrates none [] "example.com".toList 443 true
      ⟨"direct".toList, true, []⟩ request) ∧
    ∃ request, Socks5Agreement referenceCrates (some ⟨.v4 ⟨127, 0, 0, 1⟩, 1080⟩) []
      "192.0.2.1".toList 22 false ⟨"direct".toList, true, []⟩ request :=
  ⟨socks5_parties_agree _ _ _ _ _ _ _ (by decide +kernel),
    socks5_parties_agree _ _ _ _ _ _ _ (by decide +kernel)⟩

end SimpleForwarder

import SimpleForwarder.Socks5Exchange

/-!
Contract: the SOCKS5 client against a SOCKS5 server that cannot connect.

Owns: the conversation in which the server's attempt fails, and the law that under
every interleaving it comes to one end: both sides have failed, and the client
names the code that the server has sent.

The client stops reading at the code. The rest of the reply stays in the pipe.

Does not own: how the attempt fails; its code and its text are parameters.
-/

namespace SimpleForwarder

open RustText IpText EffectProgram Program Duplex

/-- The error of a client that reads this code. -/
def socks5Failure (errorCode : UInt8) : Text :=
  "SOCKS5 connect failed with code: ".toList ++ decimal errorCode.toNat ++ " (".toList ++
    getSocks5Error errorCode ++ ")".toList

/-- What the client reads of the reply. -/
def refusalHeader (errorCode : UInt8) : Bytes := [0x05, errorCode, 0x00, 0x01]

/-- What it leaves. -/
def refusalRest : Bytes := [0, 0, 0, 0, 0, 0]

section Client

variable {host : Text} {port : UInt16} {isSocks5h : Bool} {request : Bytes}

/-- The client up to its request. -/
theorem solo_socks5Ask (encodes : socks5Request host port isSocks5h = .ok request) :
    ∃ offered, Solo (speaker .target Unit) (socks5Connect host port isSocks5h) [] offered
        [0x05, 0x01, 0x00] ∧
      Solo (speaker .target Unit) offered [0x05, 0x00] readSocks5Response request := by
  refine ⟨_, solo_writeAll [0x05, 0x01, 0x00] _, ?_⟩
  have asks : Solo (speaker .target Unit)
      ((settle (socks5Request host port isSocks5h)).bind fun request =>
        (writeAll .target request).bind fun _ => readSocks5Response) [] readSocks5Response
      request := by
    rw [encodes]
    exact solo_writeAll request _
  exact (solo_readExact #v[0x05, 0x00] _).trans asks

theorem solo_readRefusal {errorCode : UInt8} (failure : errorCode ≠ 0x00) :
    Solo (speaker .target Unit) readSocks5Response (refusalHeader errorCode)
      (.fail (socks5Failure errorCode)) [] := by
  have code : byteAt 1 #v[0x05, errorCode, 0x00, 0x01] = errorCode := rfl
  have fails : (if byteAt 0 #v[0x05, errorCode, 0x00, 0x01] ≠ 0x05 then
        .fail "Invalid SOCKS5 version in connect response".toList
      else if byteAt 1 #v[0x05, errorCode, 0x00, 0x01] ≠ 0x00 then
        .fail ("SOCKS5 connect failed with code: ".toList ++
          decimal (byteAt 1 #v[0x05, errorCode, 0x00, 0x01]).toNat ++ " (".toList ++
          getSocks5Error (byteAt 1 #v[0x05, errorCode, 0x00, 0x01]) ++ ")".toList)
      else skipBoundAddress (byteAt 3 #v[0x05, errorCode, 0x00, 0x01]) : Async Unit) =
      .fail (socks5Failure errorCode) := by
    rw [code, if_neg (by exact not_not.mpr rfl), if_pos failure]
    rfl
  have reads : Solo (speaker .target Unit) readSocks5Response (refusalHeader errorCode) _ [] :=
    solo_readExact #v[0x05, errorCode, 0x00, 0x01] _
  rwa [fails] at reads

end Client

section Refusal

variable (crates : Crates) (localAddr : Option SocketAddr)
  (rules : List (RuleMatcher × ProxyConfig))

/-- The program of a server whose attempt fails. -/
def serveRefused (errorCode : UInt8) (error : Text) : Async HandshakeResult :=
  serveClient crates localAddr rules fun _ => failWithReply true errorCode error

/-- The end of the conversation. -/
def refused (request : Bytes) (errorCode : UInt8) (error : Text) :
    Duplex.Conversation (Async Unit) (Async HandshakeResult) UInt8 where
  left := .fail (socks5Failure errorCode)
  right := .fail error
  toRight := ⟨[0x05, 0x01, 0x00] ++ request, []⟩
  toLeft := ⟨[0x05, 0x00] ++ refusalHeader errorCode, refusalRest⟩

theorem refused_isStuck (request : Bytes) (errorCode : UInt8) (error : Text) :
    Machine.IsStuck (Duplex.Conversation.step (speaker .target Unit)
      (speaker .client HandshakeResult)) (refused request errorCode error) := by
  intro side
  cases side with
  | left => rfl
  | right => rfl

/-- The server tells its client, and fails. -/
theorem solo_failWithReply (errorCode : UInt8) (error : Text)
    (rest : Connection → Async HandshakeResult) :
    Solo (speaker .client HandshakeResult) ((failWithReply true errorCode error).bind rest) []
      (.fail error) (errorReply errorCode) := by
  have acts : (speaker .client HandshakeResult).step
      ((failWithReply true errorCode error).bind rest) [] =
        some ⟨.fail error, 0, errorReply errorCode⟩ := rfl
  exact .single acts rfl

theorem refusal_reaches {host : Text} {port : UInt16} {isSocks5h : Bool} {request : Bytes}
    {addr : Socks5Addr} {errorCode : UInt8} (error : Text) (failure : errorCode ≠ 0x00)
    (encodes : socks5Request host port isSocks5h = .ok request)
    (bytes : request = [0x05, 0x01, 0x00, addr.atyp] ++ addr.encode ++ toBeBytes port) :
    Duplex.Conversation.Reaches (speaker .target Unit) (speaker .client HandshakeResult)
      (.start (socks5Connect host port isSocks5h)
        (serveRefused crates localAddr rules errorCode error))
      (refused request errorCode error) := by
  obtain ⟨offered, offers, asks⟩ := solo_socks5Ask encodes
  obtain ⟨selected, selects, connects⟩ := solo_serveClient crates localAddr rules
    (fun _ => failWithReply true errorCode error) addr port
  rw [← bytes] at connects
  have replies : Solo (speaker .client HandshakeResult) selected (request ++ []) (.fail error)
      ([] ++ errorReply errorCode) := connects.trans (solo_failWithReply errorCode error _)
  rw [List.append_nil, List.nil_append] at replies
  have begun : Duplex.Conversation.Reaches (speaker .target Unit) (speaker .client HandshakeResult)
      (.start (socks5Connect host port isSocks5h)
        (serveRefused crates localAddr rules errorCode error))
      (.start (socks5Connect host port isSocks5h)
        (serveRefused crates localAddr rules errorCode error)) := .refl _
  have told := (((begun.thenLeft offers).thenRight selects).thenLeft asks).thenRight replies
  exact told.trans (Duplex.Conversation.reaches_of_solo_left (solo_readRefusal failure))

/-- What a client and a server that agree on a failure do. -/
structure Socks5RefusalAgreement (host : Text) (port : UInt16) (isSocks5h : Bool)
    (errorCode : UInt8) (error : Text) (request : Bytes) : Prop where
  encodes : socks5Request host port isSocks5h = .ok request
  /-- Whatever the parties have done, they can come to the end of the conversation,
  and they stop nowhere else. -/
  ends : ∀ sides middle, Machine.run (Duplex.Conversation.step (speaker .target Unit)
      (speaker .client HandshakeResult))
      (.start (socks5Connect host port isSocks5h)
        (serveRefused crates localAddr rules errorCode error)) sides = some middle →
    Duplex.Conversation.Reaches (speaker .target Unit) (speaker .client HandshakeResult) middle
        (refused request errorCode error) ∧
      (Machine.IsStuck (Duplex.Conversation.step (speaker .target Unit)
          (speaker .client HandshakeResult)) middle → middle = refused request errorCode error)
  /-- What the client does in it is a run of the client. -/
  client_runs : ∀ start, ∃ events,
    Runs (socks5Connect host port isSocks5h) start events (.failed (socks5Failure errorCode))
        start ∧
      received .target events = [0x05, 0x00] ++ refusalHeader errorCode ∧
      sent .target events = [0x05, 0x01, 0x00] ++ request
  /-- A handshake whose attempt fails is a run up to the attempt, with nothing after it. -/
  server_runs : ∀ start stop connecting,
    Runs (connectToTarget (socks5Target host port).host (socks5Target host port).port
        (socks5Target host port).resolveHostname (socks5Target host port).ip true rules) start
      connecting (.failed error) stop →
    ∃ before, Runs (handleClient crates localAddr rules) start (before ++ connecting)
        (.failed error) stop ∧
      received .client before = [0x05, 0x01, 0x00] ++ request ∧
      sent .client before = [0x05, 0x00]

/-- The SOCKS5 client and the SOCKS5 server agree on every failure of an attempt,
for the text of an address and for a name of 1 to 253 bytes. -/
theorem socks5_parties_agree_on_failure (host : Text) (port : UInt16) (isSocks5h : Bool)
    (errorCode : UInt8) (error : Text) (isHost : IsSocks5Host host isSocks5h)
    (failure : errorCode ≠ 0x00) :
    ∃ request, Socks5RefusalAgreement crates localAddr rules host port isSocks5h errorCode error
      request := by
  obtain ⟨addr, target, encodes⟩ := socks5Request_eq_ok isHost port
  refine ⟨_, encodes, ?_, ?_, ?_⟩
  · intro sides middle reached
    exact Duplex.Conversation.ends_alike
      (refusal_reaches crates localAddr rules error failure encodes rfl)
      (refused_isStuck _ errorCode error) reached
  · intro start
    obtain ⟨offered, offers, asks⟩ := solo_socks5Ask encodes
    obtain ⟨events, run, reads, writes⟩ := runs_of_solo
      (offers.trans (asks.trans (solo_readRefusal failure))) (.fail _ start)
    rw [List.append_nil] at run writes
    exact ⟨events, run, reads, writes⟩
  · intro start stop connecting connected
    obtain ⟨selected, selects, connects⟩ := solo_serveClient crates localAddr rules
      (fun request => connectToTarget request.host request.port request.resolveHostname request.ip
        true rules) addr port
    rw [target] at connects
    have rest : Runs ((connectToTarget (socks5Target host port).host
        (socks5Target host port).port (socks5Target host port).resolveHostname
        (socks5Target host port).ip true rules).bind fun connection =>
          (sendSuccessReply localAddr).bind fun _ =>
            .ret ((socks5Target host port).handed connection)) start connecting
        (.failed error) stop :=
      runs_bind_iff.mpr (.inr (.inl ⟨error, connected, rfl⟩))
    obtain ⟨before, run, reads, writes⟩ := runs_of_solo (selects.trans connects) rest
    rw [List.append_nil] at writes
    exact ⟨before, run, reads, writes⟩

end Refusal

/-- A name that is refused, and an address that does not answer. -/
theorem socks5_parties_agree_on_failure_both :
    (∃ request, Socks5RefusalAgreement referenceCrates none [] "example.com".toList 443 true 0x05
      "Connection refused".toList request) ∧
    ∃ request, Socks5RefusalAgreement referenceCrates none [] "192.0.2.1".toList 22 false 0x06
      "Connection timed out".toList request :=
  ⟨socks5_parties_agree_on_failure _ _ _ _ _ _ _ _ (by decide +kernel) (by decide),
    socks5_parties_agree_on_failure _ _ _ _ _ _ _ _ (by decide +kernel) (by decide)⟩

end SimpleForwarder

import SimpleForwarder.ProxyServer.Handshake

/-!
Contract: what the proxy itself writes to a client.

Owns: the replies of each inbound protocol, and the conversation of a
handshake (`handleClient_conversation`): for every outcome of every operation,
and wherever an observation or a deadline ends it, which replies have been
begun.

A conversation is in one of three stages: the request is being read, the
attempt is being made, or the connection is established. A write that has been
begun counts as a reply, finished or not.

Does not own: what the relay writes.
-/

namespace SimpleForwarder

open RustText EffectProgram Program

/-! ## Replies of the inbound protocols -/

/-- The protocol the first byte selects. -/
inductive InboundProtocol where
  | socks4
  | socks5
  | http
deriving DecidableEq

def InboundProtocol.detect (firstByte : UInt8) : InboundProtocol :=
  if firstByte = 0x05 then .socks5 else if firstByte = 0x04 then .socks4 else .http

/-- The protocol of a connection, once its first byte has been read. -/
def selectedProtocol (events : List SocketEvent) : Option InboundProtocol :=
  (received .client events).head?.map InboundProtocol.detect

namespace InboundProtocol

/-- The method selection of SOCKS5, which is no final reply. -/
def IsGreeting (protocol : InboundProtocol) (bytes : Bytes) : Prop :=
  protocol = .socks5 ∧ (bytes = [0x05, 0x00] ∨ bytes = [0x05, 0xFF])

def IsFailure (protocol : InboundProtocol) (bytes : Bytes) : Prop :=
  match protocol with
  | .socks4 => bytes = socks4Reply 0x5B
  | .socks5 => ∃ errorCode, errorCode ≠ 0x00 ∧ bytes = errorReply errorCode
  | .http => bytes = badGateway

def IsSuccess (protocol : InboundProtocol) (localAddr : Option SocketAddr) (bytes : Bytes) : Prop :=
  match protocol with
  | .socks4 => bytes = socks4Reply 0x5A
  | .socks5 => bytes = successReply localAddr
  | .http => bytes = connectionEstablished

variable {protocol : InboundProtocol} {localAddr : Option SocketAddr} {bytes : Bytes}

end InboundProtocol

/-! ## While the request is read -/

/-- Nothing has been written to the client, or one message that `allowed`
permits before the outcome. -/
def AtMostOne {α : Type} (allowed : Bytes → Outcome Text α → Prop) (events : List SocketEvent)
    (outcome : Outcome Text α) : Prop :=
  writes .client events = [] ∨ ∃ bytes, allowed bytes outcome ∧ writes .client events = [bytes]

/-- A failure reply, after which nothing is returned. -/
def EndsWithFailure {α : Type} (protocol : InboundProtocol) (bytes : Bytes)
    (outcome : Outcome Text α) : Prop :=
  protocol.IsFailure bytes ∧ ∀ value, outcome ≠ .returned value

section Reading

variable {α β : Type} {allowed : Bytes → Outcome Text β → Prop} {program : Async α}
  {rest : α → Async β}

/-- An operation other than a write. -/
def Op.IsSilent (op : Op) : Prop := ∀ peer bytes, op ≠ .writeAll peer bytes

theorem writes_eq_nil_of_isSilent {peer : Peer} {events : List SocketEvent}
    (silent : ∀ event ∈ events, event.op.IsSilent) : writes peer events = [] := by
  apply List.filterMap_eq_nil_iff.mpr
  intro event member
  have isSilent := silent event member
  unfold writeOf
  split
  · exact absurd rfl (isSilent _ _)
  · rfl

theorem readExact_isSilent (size : Nat) : (readExact .client size).Only Op.IsSilent :=
  only_performOr nofun

theorem AtMostOne.of_silent {allowed : Bytes → Outcome Text α → Prop}
    (silent : program.Only Op.IsSilent) : Ensures program (AtMostOne allowed) :=
  (Ensures.of_only silent).imp fun _ _ isSilent => .inl (writes_eq_nil_of_isSilent isSilent)

theorem AtMostOne.bind (silent : program.Only Op.IsSilent)
    (ensures : ∀ value, Ensures (rest value) (AtMostOne allowed)) :
    Ensures (program.bind rest) (AtMostOne allowed) := by
  refine Ensures.bind (Ensures.of_only silent) ?_ ?_ ?_
  · intro value before isSilent
    refine (ensures value).imp ?_
    intro after outcome shape
    unfold AtMostOne
    rw [writes_append, writes_eq_nil_of_isSilent isSilent, List.nil_append]
    exact shape
  · intro error events isSilent
    exact .inl (writes_eq_nil_of_isSilent isSilent)
  · intro events isSilent
    exact .inl (writes_eq_nil_of_isSilent isSilent)

/-- The one message, and nothing after it. -/
theorem AtMostOne.write {bytes : Bytes} {rest : Unit → Async β}
    (silent : Ensures (rest ()) fun events outcome =>
      writes .client events = [] ∧ allowed bytes outcome)
    (failed : ∀ error, allowed bytes (.failed error)) (cut : allowed bytes .cut) :
    Ensures ((writeAll .client bytes).bind rest) (AtMostOne allowed) := by
  have written : ∀ time response,
      writes .client [(⟨.writeAll .client bytes, time, response⟩ : SocketEvent)] = [bytes] :=
    fun _ _ => rfl
  refine Ensures.bind Ensures.performOr ?_ ?_ ?_
  · rintro ⟨⟩ before ⟨time, response, rfl⟩
    refine silent.imp ?_
    rintro after outcome ⟨nothing, holds⟩
    refine .inr ⟨bytes, holds, ?_⟩
    rw [writes_append, written, nothing, List.append_nil]
  · rintro error events ⟨time, response, rfl⟩
    exact .inr ⟨bytes, failed error, written time response⟩
  · rintro events ⟨time, response, rfl⟩
    exact .inr ⟨bytes, cut, written time response⟩

/-- A failure reply after which the handshake fails. -/
theorem AtMostOne.failure {protocol : InboundProtocol} {bytes : Bytes} {error : Text}
    (failure : protocol.IsFailure bytes) :
    Ensures ((writeAll .client bytes).bind fun _ => (.fail error : Async α))
      (AtMostOne (EndsWithFailure protocol)) :=
  AtMostOne.write (Ensures.fail ⟨rfl, failure, nofun⟩) (fun _ => ⟨failure, nofun⟩)
    ⟨failure, nofun⟩

end Reading

theorem readSocks4Request_replies :
    Ensures readSocks4Request (AtMostOne (EndsWithFailure .socks4)) := by
  have fields : ∀ (isSocks4a : Bool) fuel buf ends,
      (readSocks4Fields isSocks4a fuel buf ends).Only Op.IsSilent := by
    intro isSocks4a fuel
    induction fuel with
    | zero => exact fun _ _ => only_fail _
    | succ fuel inductionHypothesis =>
        intro buf ends
        unfold readSocks4Fields
        dsimp only
        split
        · exact only_ret _
        · split
          · exact only_fail _
          · have silent : (Op.read .client 256).IsSilent := by
              intro peer bytes impossible
              cases impossible
            refine (only_performOr silent).bind fun chunk => ?_
            split
            · exact only_fail _
            · exact inductionHypothesis _ _
  apply AtMostOne.bind (readExact_isSilent 7)
  intro header
  dsimp only
  split
  · exact AtMostOne.failure rfl
  · apply AtMostOne.bind (fields _ _ _ _)
    intro read
    exact AtMostOne.of_silent (only_settle.bind fun _ => only_ret _)

theorem readSocks5Address_replies (atyp : UInt8) :
    Ensures (readSocks5Address atyp) (AtMostOne (EndsWithFailure .socks5)) := by
  have unsupported : InboundProtocol.socks5.IsFailure (errorReply 0x08) := ⟨0x08, by decide, rfl⟩
  unfold readSocks5Address
  split
  · exact AtMostOne.of_silent
      ((readExact_isSilent 4).bind fun _ => (readExact_isSilent 2).bind fun _ => only_ret _)
  · split
    · apply AtMostOne.bind (readExact_isSilent 1)
      intro lenBuf
      dsimp only
      split
      · exact AtMostOne.failure unsupported
      · exact AtMostOne.of_silent
          ((readExact_isSilent _).bind fun _ => (readExact_isSilent 2).bind fun _ => only_ret _)
    · split
      · exact AtMostOne.of_silent
          ((readExact_isSilent 16).bind fun _ => (readExact_isSilent 2).bind fun _ => only_ret _)
      · exact AtMostOne.failure unsupported

theorem readSocks5Target_replies :
    Ensures readSocks5Target (AtMostOne (EndsWithFailure .socks5)) := by
  apply AtMostOne.bind (readExact_isSilent 4)
  intro requestHeader
  split
  · exact AtMostOne.of_silent (only_fail _)
  · split
    · exact AtMostOne.failure ⟨0x07, by decide, rfl⟩
    · exact readSocks5Address_replies _

/-- The negotiation writes at most the method selection. -/
theorem negotiateMethod_replies :
    Ensures negotiateMethod (AtMostOne fun bytes _ => InboundProtocol.socks5.IsGreeting bytes) := by
  have greeting : ∀ methods : Bytes,
      InboundProtocol.socks5.IsGreeting [0x05, selectMethod methods] := by
    intro methods
    refine ⟨rfl, ?_⟩
    unfold selectMethod
    split
    · exact .inl rfl
    · exact .inr rfl
  refine AtMostOne.bind (readExact_isSilent 1) fun secondByte => ?_
  dsimp only
  split
  · exact AtMostOne.of_silent (only_fail _)
  · refine AtMostOne.bind (readExact_isSilent _) fun methods => ?_
    refine AtMostOne.write ?_ (fun _ => greeting _) (greeting _)
    split
    · exact Ensures.fail ⟨rfl, greeting _⟩
    · exact Ensures.ret ⟨rfl, greeting _⟩

theorem readHttpRequest_isSilent (crates : Crates) (firstByte : UInt8) :
    (readHttpRequest crates firstByte).Only Op.IsSilent := by
  refine Only.bind ?_ fun split => only_settle.bind fun _ => only_ret _
  refine (readHead_only _).imp fun op reads => ?_
  rw [reads]
  exact nofun

/-- At most one method selection, then at most one final reply. -/
def Replied (protocol : InboundProtocol) (IsFinal : Bytes → Prop) (replies : List Bytes) : Prop :=
  ∃ greetings finals, replies = greetings ++ finals ∧
    greetings.length ≤ 1 ∧ (∀ reply ∈ greetings, protocol.IsGreeting reply) ∧
    finals.length ≤ 1 ∧ ∀ reply ∈ finals, IsFinal reply

theorem AtMostOne.bounds {α : Type} {allowed : Bytes → Outcome Text α → Prop}
    {events : List SocketEvent} {outcome : Outcome Text α}
    (shape : AtMostOne allowed events outcome) :
    (writes .client events).length ≤ 1 ∧ ∀ bytes ∈ writes .client events, allowed bytes outcome := by
  rcases shape with nothing | ⟨bytes, holds, written⟩
  · rw [nothing]
    exact ⟨Nat.zero_le 1, nofun⟩
  · rw [written]
    refine ⟨Nat.le_refl 1, ?_⟩
    intro other member
    rw [List.mem_singleton.mp member]
    exact holds

theorem AtMostOne.replied {α : Type} {protocol : InboundProtocol}
    {allowed : Bytes → Outcome Text α → Prop} {events : List SocketEvent}
    {outcome : Outcome Text α} (shape : AtMostOne allowed events outcome) :
    Replied protocol (allowed · outcome) (writes .client events) :=
  ⟨[], _, rfl, Nat.zero_le 1, nofun, shape.bounds⟩

/-- What `handle_socks5` writes before it connects. -/
theorem readSocks5Request_replies : Ensures readSocks5Request fun events outcome =>
    Replied .socks5 (EndsWithFailure .socks5 · outcome) (writes .client events) := by
  refine Ensures.bind negotiateMethod_replies ?_ ?_ ?_
  · intro value before greeting
    refine readSocks5Target_replies.imp ?_
    intro after outcome shape
    rw [writes_append]
    exact ⟨_, _, rfl, greeting.bounds.1, greeting.bounds.2, shape.bounds⟩
  · intro error events greeting
    exact ⟨_, [], (List.append_nil _).symm, greeting.bounds.1, greeting.bounds.2,
      Nat.zero_le 1, nofun⟩
  · intro events greeting
    exact ⟨_, [], (List.append_nil _).symm, greeting.bounds.1, greeting.bounds.2,
      Nat.zero_le 1, nofun⟩

/-! ## The conversation -/

/-- A run of one outbound attempt, to where the rules send a target. -/
def IsAttemptRun (rules : List (RuleMatcher × ProxyConfig)) (attempt : List SocketEvent)
    (result : Outcome Text Bytes) : Prop :=
  ∃ host port resolveHostname ip start stop,
    Runs (attemptOutbound host port resolveHostname (chosenProxy rules host ip)) start attempt
      result stop

section Conversation

variable (localAddr : Option SocketAddr) (rules : List (RuleMatcher × ProxyConfig))
  (protocol : InboundProtocol)

/-- A connection from its attempt on. -/
inductive Attempted : List SocketEvent → Outcome Text HandshakeResult → Prop where
  | pending {attempt : List SocketEvent} (run : IsAttemptRun rules attempt .cut) :
      Attempted attempt .cut
  | refused {attempt : List SocketEvent} {error : Text} {reply : Bytes} {time : Nat}
      {response : Response _} {outcome : Outcome Text HandshakeResult}
      (run : IsAttemptRun rules attempt (.failed error)) (failure : protocol.IsFailure reply)
      (unserved : ∀ handed, outcome ≠ .returned handed) :
      Attempted (attempt ++ [⟨.writeAll .client reply, time, response⟩]) outcome
  | established {attempt finishing : List SocketEvent} {leftover : Bytes}
      {outcome : Outcome Text HandshakeResult}
      (run : IsAttemptRun rules attempt (.returned leftover))
      (answer : AtMostOne (fun bytes _ => protocol.IsSuccess localAddr bytes) finishing outcome)
      (noAttempt : attempts finishing = []) :
      Attempted (attempt ++ finishing) outcome

/-- A connection from its first byte on: it is being read or has been refused
its request, or it has come to its attempt. -/
inductive Conversation : List SocketEvent → Outcome Text HandshakeResult → Prop where
  | reading {events : List SocketEvent} {outcome : Outcome Text HandshakeResult}
      (noAttempt : attempts events = [])
      (replies : Replied protocol protocol.IsFailure (writes .client events))
      (unserved : ∀ handed, outcome ≠ .returned handed) : Conversation events outcome
  | attempting {reading rest : List SocketEvent} {outcome : Outcome Text HandshakeResult}
      (noAttempt : attempts reading = [])
      (greeted : Replied protocol (fun _ => False) (writes .client reading))
      (attempted : Attempted localAddr rules protocol rest outcome) :
      Conversation (reading ++ rest) outcome

variable {localAddr rules protocol}

/-- What is read before the handler starts. -/
theorem Conversation.prepend {before events : List SocketEvent}
    {outcome : Outcome Text HandshakeResult} (silent : writes .client before = [])
    (noAttempt : attempts before = [])
    (conversation : Conversation localAddr rules protocol events outcome) :
    Conversation localAddr rules protocol (before ++ events) outcome := by
  cases conversation with
  | reading none replies unserved =>
      refine .reading ?_ ?_ unserved
      · rw [attempts_append, noAttempt, none, List.append_nil]
      · rwa [writes_append, silent, List.nil_append]
  | attempting none greeted attempted =>
      rw [← List.append_assoc]
      refine .attempting ?_ ?_ attempted
      · rw [attempts_append, noAttempt, none, List.append_nil]
      · rwa [writes_append, silent, List.nil_append]

/-- A handler reads its request, and serves it. -/
theorem conversation_of_handler {α : Type} {request : Async α} {serve : α → Async HandshakeResult}
    (onClient : request.Only Op.OnClient)
    (replies : Ensures request fun events outcome =>
      Replied protocol (EndsWithFailure protocol · outcome) (writes .client events))
    (served : ∀ value, Ensures (serve value) (Attempted localAddr rules protocol)) :
    Ensures (request.bind serve) (Conversation localAddr rules protocol) := by
  have noAttempt : Ensures request fun events _ => attempts events = [] :=
    (Ensures.of_only onClient).imp fun _ _ concerns =>
      attempts_eq_nil fun event member => (concerns event member).2
  have failing : ∀ {replies : List Bytes} {outcome : Outcome Text α},
      Replied protocol (EndsWithFailure protocol · outcome) replies →
      Replied protocol protocol.IsFailure replies := by
    rintro replies outcome ⟨greetings, finals, split, one, greet, oneFinal, final⟩
    exact ⟨greetings, finals, split, one, greet, oneFinal,
      fun reply member => (final reply member).1⟩
  intro start events outcome stop run
  rcases runs_bind_iff.mp run with
    ⟨value, middle, reading, rest, readRun, restRun, rfl⟩ | ⟨error, readRun, rfl⟩ | ⟨readRun, rfl⟩
  · refine .attempting (noAttempt _ _ _ _ readRun) ?_ (served value _ _ _ _ restRun)
    obtain ⟨greetings, finals, split, one, greet, oneFinal, final⟩ := replies _ _ _ _ readRun
    exact ⟨greetings, finals, split, one, greet, oneFinal,
      fun reply member => (final reply member).2 value rfl⟩
  · exact .reading (noAttempt _ _ _ _ readRun) (failing (replies _ _ _ _ readRun)) nofun
  · exact .reading (noAttempt _ _ _ _ readRun) (failing (replies _ _ _ _ readRun)) nofun

/-- The end of a handler, for every outcome. -/
theorem attempted_of_finish {connect : Async Connection} {finish : Async Unit}
    {result : Connection → HandshakeResult}
    (connects : Ensures connect fun events outcome => ∃ attempt after chosen result,
      events = attempt ++ after ∧ IsAttemptRun rules attempt result ∧
        Concluded protocol.IsFailure chosen result after outcome)
    (answers : Ensures finish (AtMostOne fun bytes _ => protocol.IsSuccess localAddr bytes))
    (noAttempt : finish.Only fun op => op.isAttempt = false) :
    Ensures (connect.bind fun connection => finish.bind fun _ => .ret (result connection))
      (Attempted localAddr rules protocol) := by
  refine Ensures.bind connects ?_ ?_ ?_
  · rintro connection before ⟨attempt, after, chosen, result, rfl, attemptRun, shape⟩
    obtain ⟨leftover, rfl, rfl, -⟩ := shape.returned
    rw [List.append_nil]
    have none : Ensures finish fun events _ => attempts events = [] :=
      (Ensures.of_only noAttempt).imp fun _ _ => attempts_eq_nil
    intro start events outcome stop run
    rcases runs_bind_iff.mp run with
      ⟨⟨⟩, _, finishing, last, finishRun, lastRun, rfl⟩ | ⟨error, finishRun, rfl⟩ |
        ⟨finishRun, rfl⟩
    · obtain ⟨rfl, rfl, -⟩ := runs_ret_iff.mp lastRun
      rw [List.append_nil]
      exact .established attemptRun (answers _ _ _ _ finishRun) (none _ _ _ _ finishRun)
    · exact .established attemptRun (answers _ _ _ _ finishRun) (none _ _ _ _ finishRun)
    · exact .established attemptRun (answers _ _ _ _ finishRun) (none _ _ _ _ finishRun)
  · rintro error events ⟨attempt, after, chosen, result, rfl, attemptRun, shape⟩
    cases shape with
    | replied _ time response failure ends => exact .refused attemptRun failure nofun
  · rintro events ⟨attempt, after, chosen, result, rfl, attemptRun, shape⟩
    cases shape with
    | pending =>
        rw [List.append_nil]
        exact .pending attemptRun
    | replied _ time response failure ends => exact .refused attemptRun failure nofun

/-- With or without `is_socks`, one failure reply is sent. -/
theorem connectToTarget_concludes (host : Text) (port : UInt16) (resolveHostname : Bool)
    (ip : Option IpText.IpAddr) :
    Ensures (connectToTarget host port resolveHostname ip true rules) fun events outcome =>
      ∃ attempt after chosen result, events = attempt ++ after ∧
        IsAttemptRun rules attempt result ∧
        Concluded InboundProtocol.socks5.IsFailure chosen result after outcome := by
  intro start events outcome stop run
  obtain ⟨attempt, result, middle, after, rfl, attemptRun, shape⟩ := connectToTarget_runs run
  exact ⟨attempt, after, _, result, rfl, ⟨_, _, _, _, _, _, attemptRun⟩, shape.concluded⟩

theorem orReply_concludes {reply : Bytes} (host : Text) (port : UInt16) (resolveHostname : Bool)
    (ip : Option IpText.IpAddr) :
    Ensures (orReply (connectToTarget host port resolveHostname ip false rules) reply)
      fun events outcome => ∃ attempt after chosen result, events = attempt ++ after ∧
        IsAttemptRun rules attempt result ∧ Concluded (· = reply) chosen result after outcome := by
  intro start events outcome stop run
  obtain ⟨attempt, result, middle, after, rfl, attemptRun, shape⟩ := orReply_runs run
  exact ⟨attempt, after, _, result, rfl, ⟨_, _, _, _, _, _, attemptRun⟩, shape⟩

/-- A success reply by itself. -/
theorem AtMostOne.writeAll {allowed : Bytes → Outcome Text Unit → Prop} {bytes : Bytes}
    (holds : ∀ outcome, allowed bytes outcome) :
    Ensures (SimpleForwarder.writeAll .client bytes) (AtMostOne allowed) := by
  intro start events outcome stop run
  obtain ⟨time, response, rfl⟩ := Ensures.performOr _ _ _ _ run
  exact .inr ⟨bytes, holds outcome, rfl⟩

theorem handleSocks4_conversation :
    Ensures (handleSocks4 rules) (Conversation localAddr rules .socks4) := by
  refine conversation_of_handler readSocks4Request_onClient
    (readSocks4Request_replies.imp fun _ _ shape => shape.replied) fun request => ?_
  refine attempted_of_finish (orReply_concludes _ _ _ _) ?_ (only_performOr rfl)
  exact AtMostOne.writeAll fun _ => rfl

theorem handleSocks5_conversation :
    Ensures (handleSocks5 localAddr rules) (Conversation localAddr rules .socks5) := by
  refine conversation_of_handler readSocks5Request_onClient readSocks5Request_replies
    fun request => ?_
  refine attempted_of_finish (connectToTarget_concludes _ _ _ _) ?_ (only_performOr rfl)
  exact AtMostOne.writeAll fun _ => rfl

/-- A `CONNECT` request is answered with the success reply; a regular request
is forwarded, and the target answers it. -/
theorem answerHttpRequest_replies (crates : Crates) (request : HttpRequest) :
    Ensures (answerHttpRequest crates request)
      (AtMostOne fun bytes _ => InboundProtocol.http.IsSuccess localAddr bytes) := by
  unfold answerHttpRequest
  split
  · exact AtMostOne.writeAll fun _ => rfl
  · have toTarget : ∀ bytes : Bytes,
        (writeAll .target bytes).Only fun op => op.side ≠ some .client :=
      fun bytes => only_performOr nofun
    have forwards := (toTarget (rewrittenLine crates request)).bind fun _ =>
      toTarget (filterHopByHopHeaders request.headers)
    exact (Ensures.of_only forwards).imp fun _ _ elsewhere => .inl (writes_eq_nil elsewhere)

theorem handleHttp_conversation (crates : Crates) (firstByte : UInt8) :
    Ensures (handleHttp crates firstByte rules) (Conversation localAddr rules .http) := by
  refine conversation_of_handler (readHttpRequest_onClient crates firstByte) ?_ fun request => ?_
  · exact (AtMostOne.of_silent (readHttpRequest_isSilent crates firstByte)).imp
      fun _ _ shape => shape.replied
  · refine attempted_of_finish (orReply_concludes _ _ _ _)
      (answerHttpRequest_replies crates request.1) ?_
    have unattempted : ∀ peer bytes, (writeAll peer bytes).Only fun op => op.isAttempt = false :=
      fun peer bytes => only_performOr rfl
    unfold answerHttpRequest
    split
    · exact unattempted _ _
    · exact (unattempted _ _).bind fun _ => unattempted _ _

end Conversation

variable {localAddr : Option SocketAddr} {rules : List (RuleMatcher × ProxyConfig)}

/-- The first byte selects the protocol, whatever follows. -/
theorem selectedProtocol_of_detection {start stop : Nat} {detection : List SocketEvent}
    {firstByte : Vector UInt8 1}
    (run : Runs (readExact .client 1) start detection (.returned firstByte) stop)
    (later : List SocketEvent) : selectedProtocol (detection ++ later) =
      some (InboundProtocol.detect (IpText.byteAt 0 firstByte)) := by
  have firstBytes : firstByte.toList = [IpText.byteAt 0 firstByte] :=
    IpText.toList_eq_ofFn firstByte
  unfold selectedProtocol
  rw [received_append, received_readExact run, firstBytes]
  rfl

/-- Until its first byte has been read a connection is silent; from then on it
is a conversation of the protocol that byte selects. -/
theorem handleClient_conversation (crates : Crates) :
    Ensures (handleClient crates localAddr rules) fun events outcome =>
      match selectedProtocol events with
      | none => writes .client events = [] ∧ attempts events = [] ∧
          ∀ handed, outcome ≠ .returned handed
      | some protocol => Conversation localAddr rules protocol events outcome := by
  have detects := (Ensures.of_only (readExact_onClient 1))
  have silent := Ensures.of_only (readExact_isSilent 1)
  have quiet : ∀ {events : List SocketEvent},
      (∀ event ∈ events, event.op.IsSilent) → (∀ event ∈ events, event.op.OnClient) →
      writes .client events = [] ∧ attempts events = [] :=
    fun isSilent onClient => ⟨writes_eq_nil_of_isSilent isSilent,
      attempts_eq_nil fun event member => (onClient event member).2⟩
  have unreplied : ∀ {events : List SocketEvent} {protocol : InboundProtocol},
      writes .client events = [] →
      Replied protocol protocol.IsFailure (writes .client events) :=
    fun nothing => ⟨[], [], nothing, Nat.zero_le 1, nofun, Nat.zero_le 1, nofun⟩
  intro start events outcome stop run
  rcases runs_bind_iff.mp run with
    ⟨firstByte, _, detection, later, detectRun, handlerRun, rfl⟩ | ⟨error, detectRun, rfl⟩ |
      ⟨detectRun, rfl⟩
  · obtain ⟨unwritten, unattempted⟩ :=
      quiet (silent _ _ _ _ detectRun) (detects _ _ _ _ detectRun)
    rw [selectedProtocol_of_detection detectRun later]
    refine Conversation.prepend unwritten unattempted ?_
    unfold InboundProtocol.detect
    split at handlerRun
    · next isSocks5 =>
        rw [if_pos isSocks5]
        exact handleSocks5_conversation _ _ _ _ handlerRun
    · next notSocks5 =>
        rw [if_neg notSocks5]
        split at handlerRun
        · next isSocks4 =>
            rw [if_pos isSocks4]
            exact handleSocks4_conversation _ _ _ _ handlerRun
        · next notSocks4 =>
            rw [if_neg notSocks4]
            exact handleHttp_conversation crates _ _ _ _ _ handlerRun
  · obtain ⟨unwritten, unattempted⟩ :=
      quiet (silent _ _ _ _ detectRun) (detects _ _ _ _ detectRun)
    split
    · exact ⟨unwritten, unattempted, nofun⟩
    · exact .reading unattempted (unreplied unwritten) nofun
  · obtain ⟨unwritten, unattempted⟩ :=
      quiet (silent _ _ _ _ detectRun) (detects _ _ _ _ detectRun)
    split
    · exact ⟨unwritten, unattempted, nofun⟩
    · exact .reading unattempted (unreplied unwritten) nofun

end SimpleForwarder

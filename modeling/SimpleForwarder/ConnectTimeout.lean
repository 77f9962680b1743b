import SimpleForwarder.Lib.Deadlines
import SimpleForwarder.ProxyServer.Replies
import SimpleForwarder.ReferenceCrates

/-!
Contract: the deadline of the handshake and the timeout of the connect in it.

Owns: the prompt runs of a handshake whose outbound connect never completes
(`handleClient_stalled`), and exactly when the client is told about the
timeout (`connect_timeout_reported_iff`).

`CONNECT_TIMEOUT` and the `HANDSHAKE_TIMEOUT` around it are the same ten
seconds. The connect starts its own once the request has been read, so the
outer one is due first unless reading the request took no time at all.

Does not own: connects that complete or fail, and the relay.
-/

namespace SimpleForwarder

open RustText EffectProgram Program

/-! ## What the client is to be told -/

/-- The code of SOCKS5 for a connect that timed out. -/
def timeoutCode : Outbound → UInt8
  | .direct _ _ => 0x06
  | .proxy _ => 0x01

def timeoutReply (protocol : InboundProtocol) (outbound : Outbound) : Bytes :=
  match protocol with
  | .socks4 => socks4Reply 0x5B
  | .socks5 => errorReply (timeoutCode outbound)
  | .http => badGateway

/-- The error of the arm that `CONNECT_TIMEOUT` leads to. -/
def timeoutError : Outbound → Text
  | .direct _ _ => "Connection timed out".toList
  | .proxy addr => "Proxy connection timed out: ".toList ++ addr

/-- The outbound connect never completes. -/
def ConnectStalls (events : List SocketEvent) : Prop :=
  ∀ event ∈ events, event.op.isAttempt = true → event.Unanswered

/-- The events before the outbound connect. -/
def beforeConnect (events : List SocketEvent) : List SocketEvent :=
  events.takeWhile fun event => !event.op.isAttempt

/-- The outbound connect and the events after it. -/
def fromConnect (events : List SocketEvent) : List SocketEvent :=
  events.dropWhile fun event => !event.op.isAttempt

/-- The clock value at which the request has been read and the connect begins. -/
def connectBegins (start : Nat) (events : List SocketEvent) : Nat :=
  endTime start (beforeConnect events)

/-- A write that its socket has taken to the end. -/
def takenWhole : SocketEvent → Bool
  | ⟨.writeAll _ _, _, .ready (.ok ())⟩ => true
  | _ => false

/-- The client's socket takes what it is sent from the connect on. -/
def ClientTakes (events : List SocketEvent) : Prop :=
  ∀ event ∈ fromConnect events, event.op.side = some .client → takenWhole event = true

/-- The connect has ended by its own timeout, and the handshake by the error of
that timeout, after the failure reply of the protocol has been sent. -/
def TimeoutReported (start : Nat) (events : List SocketEvent)
    (result : Option (Except Text HandshakeResult)) : Prop :=
  ∃ protocol outbound attempt reply,
    selectedProtocol events = some protocol ∧ fromConnect events = [attempt, reply] ∧
    attemptOf attempt = some outbound ∧
    attempt.time = connectBegins start events + connectTimeout ∧
    reply.op = .writeAll .client (timeoutReply protocol outbound) ∧ takenWhole reply = true ∧
    result = some (.error (timeoutError outbound))

/-! ## A connect that never completes -/

/-- A connect begun at `began` inside a scope due at `due`: it is still
pending, or it has ended by its own timeout and the reply is being sent or has
been answered. -/
inductive StalledConnect {α : Type} (reply : Outbound → Bytes) (due began : Nat) :
    List SocketEvent → Outcome Text α → Nat → Prop where
  | pending {attempt : SocketEvent} {outbound : Outbound} {stop : Nat}
      (connects : attemptOf attempt = some outbound) (before : stop < began + connectTimeout) :
      StalledConnect reply due began [attempt] .cut stop
  | replying {attempt : SocketEvent} {outbound : Outbound} {stop progress : Nat}
      (connects : attemptOf attempt = some outbound)
      (timedOut : attempt.time = began + connectTimeout)
      (inTime : InTime began [due] (began + connectTimeout)) :
      StalledConnect reply due began
        [attempt, ⟨.writeAll .client (reply outbound), stop, .interrupted progress⟩] .cut stop
  | replied {attempt : SocketEvent} {outbound : Outbound} {stop : Nat}
      {answer : Except WriteError Unit} (connects : attemptOf attempt = some outbound)
      (timedOut : attempt.time = began + connectTimeout)
      (inTime : InTime began [due] (began + connectTimeout)) :
      StalledConnect reply due began
        [attempt, ⟨.writeAll .client (reply outbound), stop, .ready answer⟩]
        (.failed (timeoutError outbound)) stop

section Connect

variable {outer : List Nat} {start stop due began : Nat} {events : List SocketEvent}
  {host : Text} {port : UInt16} {resolveHostname isSocks : Bool} {ip : Option IpText.IpAddr}
  {rules : List (RuleMatcher × ProxyConfig)}

/-- A reply whose own failure is ignored, and the error after it. -/
theorem prompt_replyThenFail {α : Type} {reply : Bytes} {error : Text} {outcome : Outcome Text α}
    (run : PromptRuns outer
      (((writeAll .client reply).attempt : Async (Except Text Unit)).bind fun _ => .fail error)
      start events outcome stop) :
    (∃ answer, events = [⟨.writeAll .client reply, stop, .ready answer⟩] ∧
        outcome = .failed error) ∨
      ∃ progress, events = [⟨.writeAll .client reply, stop, .interrupted progress⟩] ∧
        outcome = .cut := by
  rcases prompt_bind run with
    ⟨sentOrNot, middle, before, after, replyRun, failing, rfl⟩ | ⟨_, replyRun, -⟩ | ⟨replyRun, rfl⟩
  · cases failing
    rw [List.append_nil]
    rcases prompt_attempt replyRun with ⟨_, inner, -⟩ | ⟨_, inner, -⟩ | ⟨_, impossible⟩
    · obtain ⟨-, ⟨answer, rfl, -⟩ | ⟨_, _, impossible⟩⟩ := prompt_performOr inner
      · exact .inl ⟨answer, rfl, rfl⟩
      · exact absurd impossible nofun
    · obtain ⟨-, ⟨answer, rfl, -⟩ | ⟨_, _, impossible⟩⟩ := prompt_performOr inner
      · exact .inl ⟨answer, rfl, rfl⟩
      · exact absurd impossible nofun
    · exact absurd impossible nofun
  · exact absurd replyRun.runs not_runs_attempt_failed
  · rcases prompt_attempt replyRun with ⟨_, _, impossible⟩ | ⟨_, _, impossible⟩ | ⟨inner, -⟩
    · exact absurd impossible nofun
    · exact absurd impossible nofun
    · obtain ⟨-, ⟨answer, rfl, ⟨_, impossible⟩ | ⟨_, impossible⟩⟩ | ⟨progress, rfl, -⟩⟩ :=
        prompt_performOr inner
      · exact absurd impossible nofun
      · exact absurd impossible nofun
      · exact .inr ⟨progress, rfl, rfl⟩

/-- `ProxyClient::connect` to an upstream that never accepts. -/
theorem ProxyClient.connect_stalled {client : ProxyClient} {outcome : Outcome Text Bytes}
    (run : PromptRuns outer (client.connect host port resolveHostname) began events outcome stop)
    (stalls : ConnectStalls events) :
    ∃ attempt, attemptOf attempt = some (.proxy client.config.addr) ∧ events = [attempt] ∧
      ((stop < began + connectTimeout ∧ outcome = .cut) ∨
        (attempt.time = began + connectTimeout ∧ stop = began + connectTimeout ∧
          InTime began outer (began + connectTimeout) ∧
          outcome = .failed (timeoutError (.proxy client.config.addr)))) := by
  have unanswered : ∀ event ∈ events, event.op = .connectProxy client.config.addr →
      event.Unanswered :=
    fun event member isConnect => stalls event member (by rw [isConnect]; rfl)
  rcases prompt_unanswered run unanswered with
    ⟨progress, rfl, before, rfl⟩ | ⟨progress, after, rfl, inTime, rest⟩
  · exact ⟨_, rfl, rfl, .inl ⟨before, rfl⟩⟩
  · cases rest
    exact ⟨_, rfl, rfl, .inr ⟨rfl, rfl, inTime, rfl⟩⟩

/-- `connect_to_target` up to the end of its connect, and the error arm. -/
theorem connectToTarget_stalled {outcome : Outcome Text Connection}
    (run : PromptRuns outer (connectToTarget host port resolveHostname ip isSocks rules) began
      events outcome stop) (stalls : ConnectStalls events) :
    ∃ attempt outbound, attemptOf attempt = some outbound ∧
      ((events = [attempt] ∧ stop < began + connectTimeout ∧ outcome = .cut) ∨
        ∃ after, events = attempt :: after ∧ attempt.time = began + connectTimeout ∧
          InTime began outer (began + connectTimeout) ∧
          PromptRuns outer
            (failWithReply isSocks (timeoutCode outbound) (timeoutError outbound))
            (began + connectTimeout) after outcome stop) := by
  rw [connectToTarget_eq] at run
  cases chosen : chosenProxy rules host ip with
  | none =>
      rw [chosen] at run
      have unanswered : ∀ event ∈ events, event.op = .connectDirect host port → event.Unanswered :=
        fun event member isConnect => stalls event member (by rw [isConnect]; rfl)
      rcases prompt_unanswered run unanswered with
        ⟨progress, rfl, before, rfl⟩ | ⟨progress, after, rfl, inTime, rest⟩
      · exact ⟨_, .direct host port, rfl, .inl ⟨rfl, before, rfl⟩⟩
      · exact ⟨_, .direct host port, rfl, .inr ⟨after, rfl, rfl, inTime, rest⟩⟩
  | some proxyConfig =>
      rw [chosen] at run
      rcases prompt_bind run with
        ⟨result, middle, before, after, connectRun, rest, rfl⟩ | ⟨_, connectRun, -⟩ |
          ⟨connectRun, rfl⟩
      · have connecting : ConnectStalls before :=
          fun event member => stalls event (List.mem_append_left after member)
        rcases prompt_attempt connectRun with
          ⟨leftover, inner, same⟩ | ⟨error, inner, same⟩ | ⟨_, impossible⟩
        · obtain ⟨_, _, _, ⟨_, impossible⟩ | ⟨_, _, _, impossible⟩⟩ :=
            ProxyClient.connect_stalled inner connecting
          · exact absurd impossible nofun
          · exact absurd impossible nofun
        · cases same
          obtain ⟨attempt, connects, rfl, ⟨_, impossible⟩ | ⟨timedOut, rfl, inTime, failed⟩⟩ :=
            ProxyClient.connect_stalled inner connecting
          · exact absurd impossible nofun
          · cases failed
            exact ⟨attempt, _, connects, .inr ⟨after, rfl, timedOut, inTime, rest⟩⟩
        · exact absurd impossible nofun
      · exact absurd connectRun.runs not_runs_attempt_failed
      · rcases prompt_attempt connectRun with
          ⟨_, _, impossible⟩ | ⟨_, _, impossible⟩ | ⟨inner, -⟩
        · exact absurd impossible nofun
        · exact absurd impossible nofun
        · obtain ⟨attempt, connects, rfl, ⟨before, -⟩ | ⟨_, _, _, impossible⟩⟩ :=
            ProxyClient.connect_stalled inner stalls
          · exact ⟨attempt, _, connects, .inl ⟨rfl, before, rfl⟩⟩
          · exact absurd impossible nofun

/-- With `is_socks` the reply is sent by `connect_to_target` itself. -/
theorem connectToTarget_replies {outcome : Outcome Text Connection}
    (run : PromptRuns [due] (connectToTarget host port resolveHostname ip true rules) began events
      outcome stop) (stalls : ConnectStalls events) :
    StalledConnect (timeoutReply .socks5) due began events outcome stop := by
  obtain ⟨attempt, outbound, connects, ⟨rfl, before, rfl⟩ | ⟨after, rfl, timedOut, inTime, rest⟩⟩ :=
    connectToTarget_stalled run stalls
  · exact .pending connects before
  · rcases prompt_replyThenFail rest with ⟨answer, rfl, rfl⟩ | ⟨progress, rfl, rfl⟩
    · exact .replied connects timedOut inTime
    · exact .replying connects timedOut inTime

/-- Without `is_socks` the caller's error arm sends it. -/
theorem orReply_replies {reply : Bytes} {outcome : Outcome Text Connection}
    (run : PromptRuns [due]
      (orReply (connectToTarget host port resolveHostname ip false rules) reply) began events
      outcome stop) (stalls : ConnectStalls events) :
    StalledConnect (fun _ => reply) due began events outcome stop := by
  rcases prompt_bind run with
    ⟨result, middle, before, after, connectRun, rest, rfl⟩ | ⟨_, connectRun, -⟩ | ⟨connectRun, rfl⟩
  · have connecting : ConnectStalls before :=
      fun event member => stalls event (List.mem_append_left after member)
    rcases prompt_attempt connectRun with
      ⟨connection, inner, same⟩ | ⟨error, inner, same⟩ | ⟨_, impossible⟩
    · obtain ⟨_, _, _, ⟨_, _, impossible⟩ | ⟨_, _, _, _, failing⟩⟩ :=
        connectToTarget_stalled inner connecting
      · exact absurd impossible nofun
      · exact absurd failing nofun
    · cases same
      obtain ⟨attempt, outbound, connects, ⟨_, _, impossible⟩ |
        ⟨_, rfl, timedOut, inTime, failing⟩⟩ := connectToTarget_stalled inner connecting
      · exact absurd impossible nofun
      · cases failing
        rcases prompt_replyThenFail rest with ⟨answer, rfl, rfl⟩ | ⟨progress, rfl, rfl⟩
        · exact .replied connects timedOut inTime
        · exact .replying connects timedOut inTime
    · exact absurd impossible nofun
  · exact absurd connectRun.runs not_runs_attempt_failed
  · rcases prompt_attempt connectRun with ⟨_, _, impossible⟩ | ⟨_, _, impossible⟩ | ⟨inner, -⟩
    · exact absurd impossible nofun
    · exact absurd impossible nofun
    · obtain ⟨attempt, outbound, connects, ⟨rfl, before, -⟩ | ⟨_, _, _, _, failing⟩⟩ :=
        connectToTarget_stalled inner stalls
      · exact .pending connects before
      · exact absurd failing nofun

end Connect

/-! ## The handlers -/

section Handler

variable {start stop due : Nat} {events : List SocketEvent}
  {rules : List (RuleMatcher × ProxyConfig)} {localAddr : Option SocketAddr}

/-- A stalled connect does not return, whatever follows it. -/
theorem StalledConnect.ended {α β : Type} {reply : Outbound → Bytes} {began : Nat}
    {outcome : Outcome Text α}
    (stalled : StalledConnect reply due began events outcome stop) :
    (∀ value, outcome ≠ .returned value) ∧
      (∀ error, outcome = .failed error →
        StalledConnect reply due began events (.failed error : Outcome Text β) stop) ∧
      (outcome = .cut → StalledConnect reply due began events (.cut : Outcome Text β) stop) := by
  cases stalled with
  | pending connects before =>
      exact ⟨nofun, nofun, fun _ => .pending connects before⟩
  | replying connects timedOut inTime =>
      exact ⟨nofun, nofun, fun _ => .replying connects timedOut inTime⟩
  | replied connects timedOut inTime =>
      refine ⟨nofun, fun error same => ?_, nofun⟩
      cases same
      exact .replied connects timedOut inTime

/-- A handler that has come to its connect has read its request without one. -/
structure Stalls {α : Type} (reply : Outbound → Bytes) (due start : Nat)
    (events : List SocketEvent) (outcome : Outcome Text α) (stop : Nat) : Prop where
  parts : ∃ reading rest, events = reading ++ rest ∧
    (∀ event ∈ reading, event.op.isAttempt = false) ∧ start ≤ endTime start reading ∧
    StalledConnect reply due (endTime start reading) rest outcome stop

/-- A handler reads its request, connects and finishes. -/
theorem handler_stalls {α β : Type} {request : Async α} {connect : α → Async Connection}
    {finish : α → Connection → Async β} {reply : Outbound → Bytes} {outcome : Outcome Text β}
    (onClient : request.Only Op.OnClient)
    (connects : ∀ value began events outcome stop,
      PromptRuns [due] (connect value) began events outcome stop → ConnectStalls events →
        StalledConnect reply due began events outcome stop)
    (run : PromptRuns [due] (request.bind fun value => (connect value).bind (finish value)) start
      events outcome stop) (stalls : ConnectStalls events) :
    attempts events = [] ∨ Stalls reply due start events outcome stop := by
  have unattempted : ∀ {reading : List SocketEvent} {result : Outcome Text α} {last : Nat},
      PromptRuns [due] request start reading result last →
        ∀ event ∈ reading, event.op.isAttempt = false :=
    fun readRun event member => (readRun.runs.only onClient event member).2
  rcases prompt_bind run with
    ⟨value, began, reading, rest, readRun, restRun, rfl⟩ | ⟨error, readRun, -⟩ | ⟨readRun, -⟩
  · right
    have began_eq := readRun.runs.stop_eq
    have later := readRun.runs.monotone
    rw [began_eq] at later
    refine ⟨reading, rest, rfl, unattempted readRun, later, ?_⟩
    rw [← began_eq]
    rcases prompt_bind restRun with
      ⟨connection, _, before, after, connectRun, _, rfl⟩ | ⟨error, connectRun, rfl⟩ |
        ⟨connectRun, rfl⟩
    · have connecting : ConnectStalls before := fun event member => stalls event
        (List.mem_append_right reading (List.mem_append_left after member))
      have stalled := connects _ _ _ _ _ connectRun connecting
      exact absurd rfl ((stalled.ended (β := β)).1 connection)
    · have connecting : ConnectStalls rest :=
        fun event member => stalls event (List.mem_append_right reading member)
      exact (connects _ _ _ _ _ connectRun connecting).ended.2.1 error rfl
    · have connecting : ConnectStalls rest :=
        fun event member => stalls event (List.mem_append_right reading member)
      exact (connects _ _ _ _ _ connectRun connecting).ended.2.2 rfl
  · exact .inl (attempts_eq_nil (unattempted readRun))
  · exact .inl (attempts_eq_nil (unattempted readRun))

/-- Whatever the protocol, a connection that has come to its connect is
reading, then stalled. -/
theorem handleClient_stalls {crates : Crates} {outcome : Outcome Text HandshakeResult}
    (run : PromptRuns [due] (handleClient crates localAddr rules) start events outcome stop)
    (attempted : attempts events ≠ []) (stalls : ConnectStalls events) :
    ∃ protocol, selectedProtocol events = some protocol ∧
      Stalls (timeoutReply protocol) due start events outcome stop := by
  have unattempted : ∀ {detection : List SocketEvent} {result : Outcome Text (Vector UInt8 1)}
      {last : Nat}, PromptRuns [due] (readExact .client 1) start detection result last →
        ∀ event ∈ detection, event.op.isAttempt = false :=
    fun detectRun event member => (detectRun.runs.only (readExact_onClient 1) event member).2
  rcases prompt_bind run with
    ⟨firstByte, middle, detection, later, detectRun, handlerRun, rfl⟩ | ⟨error, detectRun, -⟩ |
      ⟨detectRun, -⟩
  · refine ⟨_, selectedProtocol_of_detection detectRun.runs later, ?_⟩
    have serving : ConnectStalls later :=
      fun event member => stalls event (List.mem_append_right detection member)
    have handler : attempts later = [] ∨
        Stalls (timeoutReply (InboundProtocol.detect (IpText.byteAt 0 firstByte))) due middle later
          outcome stop := by
      unfold InboundProtocol.detect
      split at handlerRun
      · next isSocks5 =>
          rw [if_pos isSocks5]
          exact handler_stalls readSocks5Request_onClient
            (fun _ _ _ _ _ => connectToTarget_replies) handlerRun serving
      · next notSocks5 =>
          rw [if_neg notSocks5]
          split at handlerRun
          · next isSocks4 =>
              rw [if_pos isSocks4]
              exact handler_stalls readSocks4Request_onClient (fun _ _ _ _ _ => orReply_replies)
                handlerRun serving
          · next notSocks4 =>
              rw [if_neg notSocks4]
              exact handler_stalls (readHttpRequest_onClient crates _)
                (fun _ _ _ _ _ => orReply_replies) handlerRun serving
    rcases handler with none | ⟨reading, rest, rfl, before, notBefore, stalled⟩
    · rw [attempts_append, none, attempts_eq_nil (unattempted detectRun)] at attempted
      exact absurd rfl attempted
    · have ends : endTime start (detection ++ reading) = endTime middle reading := by
        rw [endTime_append, ← detectRun.runs.stop_eq]
      refine ⟨detection ++ reading, rest, (List.append_assoc _ _ _).symm, ?_, ?_, ?_⟩
      · exact List.forall_mem_append.mpr ⟨unattempted detectRun, before⟩
      · rw [ends]
        exact Nat.le_trans detectRun.runs.monotone notBefore
      · rw [ends]
        exact stalled
  · exact absurd (attempts_eq_nil (unattempted detectRun)) attempted
  · exact absurd (attempts_eq_nil (unattempted detectRun)) attempted

end Handler

/-! ## The two deadlines -/

variable {crates : Crates} {localAddr : Option SocketAddr}
  {rules : List (RuleMatcher × ProxyConfig)} {start stop : Nat} {events : List SocketEvent}

theorem op_of_attemptOf {event : SocketEvent} {outbound : Outbound}
    (connects : attemptOf event = some outbound) :
    event.op.isAttempt = true ∧ event.op.side = none := by
  unfold attemptOf at connects
  split at connects
  · exact ⟨rfl, rfl⟩
  · exact ⟨rfl, rfl⟩
  · exact absurd connects nofun

/-- The connect is the first event after the request has been read. -/
theorem split_at_connect (start : Nat) {reading rest : List SocketEvent} {attempt : SocketEvent}
    {outbound : Outbound} (before : ∀ event ∈ reading, event.op.isAttempt = false)
    (connects : attemptOf attempt = some outbound) :
    connectBegins start (reading ++ attempt :: rest) = endTime start reading ∧
      fromConnect (reading ++ attempt :: rest) = attempt :: rest := by
  have notBefore : ∀ event ∈ reading, (!event.op.isAttempt) = true :=
    fun event member => by rw [before event member]; rfl
  have stops : (!attempt.op.isAttempt) = false := by rw [(op_of_attemptOf connects).1]; rfl
  constructor
  · unfold connectBegins beforeConnect
    rw [List.takeWhile_append_of_pos notBefore, List.takeWhile_cons, stops, if_neg nofun,
      List.append_nil]
  · unfold fromConnect
    rw [List.dropWhile_append_of_pos notBefore, List.dropWhile_cons, stops, if_neg nofun]

/-- The two timeouts are equal, so the inner one is due in time only if it was
started at the instant of the outer one. -/
theorem connectTimeout_inTime_iff {began : Nat} (later : start ≤ began) :
    InTime began [start + handshakeTimeout] (began + connectTimeout) ↔ began = start := by
  unfold InTime handshakeTimeout connectTimeout
  rw [List.forall_mem_singleton]
  omega

/-- In every handshake that has come to a connect which never completes, the
connect ends by its own timeout and the client is sent the failure reply of its
protocol exactly if the request had been read at the very instant the handshake
began and the client's socket took the reply at once. -/
theorem connect_timeout_reported_iff {result : Option (Except Text HandshakeResult)}
    (run : PromptRuns [] (handshake crates localAddr rules) start events (.returned result) stop)
    (attempted : attempts events ≠ []) (stalls : ConnectStalls events) :
    TimeoutReported start events result ↔
      connectBegins start events = start ∧ ClientTakes events := by
  cases run with
  | clock timed =>
      rcases prompt_timeoutAt timed with
        ⟨handed, inner, same⟩ | ⟨error, inner, same⟩ | ⟨_, _, impossible⟩ | ⟨inner, due, same⟩
      · obtain ⟨_, _, _, _, _, _, _, stalled⟩ := handleClient_stalls inner attempted stalls
        exact absurd rfl ((stalled.ended (β := Unit)).1 handed)
      · -- The connect has timed out by itself, and the reply has been answered.
        cases same
        obtain ⟨protocol, selected, reading, rest, rfl, before, notBefore, stalled⟩ :=
          handleClient_stalls inner attempted stalls
        cases stalled with
        | replied connects timedOut inTime =>
            obtain ⟨begins, connecting⟩ := split_at_connect start before connects
            unfold TimeoutReported ClientTakes
            rw [begins, connecting]
            constructor
            · rintro ⟨_, _, _, reply, _, same, _, _, _, taken, _⟩
              refine ⟨(connectTimeout_inTime_iff notBefore).mp inTime,
                fun event member onClient => ?_⟩
              rw [same] at member
              rcases List.mem_cons.mp member with rfl | last
              · rw [← (List.cons.inj same).1, (op_of_attemptOf connects).2] at onClient
                exact absurd onClient nofun
              · rw [List.mem_singleton.mp last]
                exact taken
            · intro timely
              have taken := timely.2 _ (List.mem_cons_of_mem _ List.mem_cons_self) rfl
              exact ⟨protocol, _, _, _, selected, rfl, connects, timedOut, rfl, taken, rfl⟩
      · exact absurd impossible nofun
      · -- The handshake has been abandoned.
        cases same
        obtain ⟨protocol, selected, reading, rest, rfl, before, notBefore, stalled⟩ :=
          handleClient_stalls inner attempted stalls
        constructor
        · rintro ⟨_, _, _, _, _, _, _, _, _, _, impossible⟩
          exact absurd impossible nofun
        · intro timely
          cases stalled with
          | pending connects early =>
              rw [(split_at_connect start before connects).1] at timely
              have began := timely.1
              unfold handshakeTimeout at due
              unfold connectTimeout at early
              omega
          | replying connects timedOut inTime =>
              unfold ClientTakes at timely
              rw [(split_at_connect start before connects).2] at timely
              have taken := timely.2 _ (List.mem_cons_of_mem _ List.mem_cons_self) rfl
              exact absurd taken nofun

/-! ## A client on time and a client one millisecond late -/

/-- A client whose bytes arrive at `arrival` and whose socket takes every reply
at once; no connect completes. -/
def stalledConnects (request : Bytes) (arrival : Nat) : Delays Op Resp := fun history time op =>
  let unread := request.drop (received .client history).length
  if op.isAttempt then none
  else (Script.answer ⟨unread, [], .ok (), []⟩ op).map fun answer => (arrival - time, answer.1)

/-- The handshake of a SOCKS5 client that asks for 10.0.0.1:80, with no rules. -/
def stalledHandshake (arrival : Nat) :
    Observed Op Resp Text (Option (Except Text HandshakeResult)) :=
  runIn (stalledConnects [5, 1, 0, 5, 1, 0, 1, 10, 0, 0, 1, 0, 80] arrival).environment
    (handshake referenceCrates none []) [] 0

theorem stalledHandshake_prompt {arrival : Nat}
    {result : Option (Except Text HandshakeResult)}
    (ended : (stalledHandshake arrival).outcome = .returned result) :
    PromptRuns [] (handshake referenceCrates none []) 0 (stalledHandshake arrival).events
      (.returned result) (stalledHandshake arrival).stop := by
  rw [← ended]
  exact prompt_runIn _ _ _ _

/-- The request has been read at the instant the handshake began. -/
theorem connect_timeout_reported_at_once :
    TimeoutReported 0 (stalledHandshake 0).events
      (some (.error "Connection timed out".toList)) := by
  have ended : (stalledHandshake 0).outcome =
      .returned (some (.error "Connection timed out".toList)) := by decide +kernel
  have attempted : attempts (stalledHandshake 0).events ≠ [] := by decide +kernel
  have stalls : ConnectStalls (stalledHandshake 0).events := by
    unfold ConnectStalls
    decide +kernel
  have timely : connectBegins 0 (stalledHandshake 0).events = 0 := by decide +kernel
  have taken : ClientTakes (stalledHandshake 0).events := by
    unfold ClientTakes
    decide +kernel
  exact (connect_timeout_reported_iff (stalledHandshake_prompt ended) attempted stalls).mpr
    ⟨timely, taken⟩

/-- The request comes a millisecond after the handshake began, and the connect
never completes: the handshake is abandoned, and the client is sent nothing
after its method selection. -/
theorem connect_timeout_preempted :
    PromptRuns [] (handshake referenceCrates none []) 0 (stalledHandshake 1).events
        (.returned none) (stalledHandshake 1).stop ∧
      attempts (stalledHandshake 1).events ≠ [] ∧ ConnectStalls (stalledHandshake 1).events ∧
      ClientTakes (stalledHandshake 1).events ∧ (stalledHandshake 1).stop = handshakeTimeout ∧
      writes .client (stalledHandshake 1).events = [[0x05, 0x00]] ∧
      ¬ TimeoutReported 0 (stalledHandshake 1).events none := by
  have ended : (stalledHandshake 1).outcome = .returned none := by decide +kernel
  refine ⟨stalledHandshake_prompt ended, by decide +kernel, ?_, ?_, by decide +kernel,
    by decide +kernel, ?_⟩
  · unfold ConnectStalls
    decide +kernel
  · unfold ClientTakes
    decide +kernel
  · rintro ⟨_, _, _, _, _, _, _, _, _, _, impossible⟩
    exact absurd impossible nofun

end SimpleForwarder

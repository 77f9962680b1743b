import SimpleForwarder.ProxyClient

/-!
Contract: `connect_to_target` and the replies of the proxy
(`proxy_server.rs`).

Owns: the replies sent to a client, the loop over the rules with its single
outbound attempt, and the shape of its runs (`connectToTarget_runs`): the one
attempt the first matching rule selects, followed by at most one failure
reply.

`attemptOutbound` is the attempt by itself, without any reply; the shape
theorem says how `connect_to_target` wraps it.

Does not own: the reading of the request.
-/

namespace SimpleForwarder

open RustText IpText EffectProgram Program

/-! ## Replies -/

/-- Eight bytes, the second one the status. -/
def socks4Reply (status : UInt8) : Bytes := [0, status, 0, 0, 0, 0, 0, 0]

def sendSocks4Reply (status : UInt8) : Async Unit := writeAll .client (socks4Reply status)

def errorReply (errorCode : UInt8) : Bytes := [0x05, errorCode, 0x00, 0x01, 0, 0, 0, 0, 0, 0]

def sendErrorReply (errorCode : UInt8) : Async Unit := writeAll .client (errorReply errorCode)

/-- The address type, address and port of the success reply. -/
def boundAddress : Option SocketAddr → Bytes
  | some ⟨.v4 addr, port⟩ => 0x01 :: addr.octets ++ toBeBytes port
  | some ⟨.v6 addr, port⟩ => 0x04 :: addr.octets ++ toBeBytes port
  | none => [0x01, 0, 0, 0, 0, 0, 0]

def successReply (localAddr : Option SocketAddr) : Bytes :=
  [0x05, 0x00, 0x00] ++ boundAddress localAddr

/-- `localAddr` is what `stream.local_addr().ok()` gives. -/
def sendSuccessReply (localAddr : Option SocketAddr) : Async Unit :=
  writeAll .client (successReply localAddr)

/-! ## What a handshake hands over -/

/-- The protocol a connection is shown with. -/
inductive Protocol where
  | socks4
  | socks4a
  | socks5
  | socks5h
  | http
  | direct
deriving DecidableEq

/-- `impl Display for Protocol`. -/
def Protocol.toText : Protocol → Text
  | .socks4 => "SOCKS4".toList
  | .socks4a => "SOCKS4a".toList
  | .socks5 => "SOCKS5".toList
  | .socks5h => "SOCKS5h".toList
  | .http => "HTTP".toList
  | .direct => "Direct".toList

/-- The result of a handshake; its streams are the two sides. -/
structure HandshakeResult where
  host : Text
  port : UInt16
  proxyDesc : Text
  isDirect : Bool
  protocol : Protocol
  leftover : Bytes
  targetLeftover : Bytes
deriving DecidableEq

/-! ## The loop over the rules -/

/-- The established connection: `(target_stream, proxy_desc, is_direct,
target_leftover)`, the stream being the side `Peer.target`. -/
structure Connection where
  proxyDesc : Text
  isDirect : Bool
  targetLeftover : Bytes
deriving DecidableEq

def ProxyConfig.url (proxyConfig : ProxyConfig) : Text :=
  proxyConfig.proxyType.toText ++ "://".toList ++ proxyConfig.addr

/-- An error arm: SOCKS5 clients are told here, the others by the caller. -/
def failWithReply (isSocks : Bool) (errorCode : UInt8) (error : Text) : Async Connection :=
  if isSocks then do
    let _ ← ((sendErrorReply errorCode).attempt : Async (Except Text Unit))
    .fail error
  else .fail error

def connectThrough (proxyConfig : ProxyConfig) (host : Text) (port : UInt16)
    (resolveHostname isSocks : Bool) : Async Connection := do
  match ← ((ProxyClient.mk proxyConfig).connect host port resolveHostname).attempt with
  | .ok targetLeftover => pure ⟨proxyConfig.url, false, targetLeftover⟩
  | .error error => failWithReply isSocks 0x01 error

def connectDirect (host : Text) (port : UInt16) : Program Op Resp IoError Unit :=
  performOr (.connectDirect host port) id

def connectDirectly (host : Text) (port : UInt16) (isSocks : Bool) : Async Connection := do
  match ← ((connectDirect host port).timeout connectTimeout : Async _) with
  | some (.ok ()) => pure ⟨"direct".toList, true, []⟩
  | some (.error error) =>
      failWithReply isSocks (if error.kind = .connectionRefused then 0x05 else 0x04) error.text
  | none => failWithReply isSocks 0x06 "Connection timed out".toList

def connectToTarget (host : Text) (port : UInt16) (resolveHostname : Bool) (ip : Option IpAddr)
    (isSocks : Bool) : List (RuleMatcher × ProxyConfig) → Async Connection
  | [] => connectDirectly host port isSocks
  | (matcher, proxyConfig) :: rules =>
      if matcher.matches host ip then
        connectThrough proxyConfig host port resolveHostname isSocks
      else connectToTarget host port resolveHostname ip isSocks rules

/-- `match connect_to_target(..).await`: the caller's error arm tells the client
and returns the error. -/
def orReply (connect : Async Connection) (reply : Bytes) : Async Connection := do
  match ← connect.attempt with
  | .ok connection => pure connection
  | .error error => do
      let _ ← ((writeAll .client reply).attempt : Async (Except Text Unit))
      .fail error

/-! ## The outbound attempt -/

/-- The upstream a parsed rule list selects; `none` is a direct connection. -/
def chosenProxy (rules : List (RuleMatcher × ProxyConfig)) (host : Text) (ip : Option IpAddr) :
    Option ProxyConfig :=
  (selectRule rules host ip).map Prod.snd

def directResult : Option (Except IoError Unit) → Except Text Bytes
  | some (.ok ()) => .ok []
  | some (.error error) => .error error.text
  | none => .error "Connection timed out".toList

/-- The connection attempt by itself. -/
def attemptOutbound (host : Text) (port : UInt16) (resolveHostname : Bool) :
    Option ProxyConfig → Async Bytes
  | some proxyConfig => (ProxyClient.mk proxyConfig).connect host port resolveHostname
  | none => do
      let result ← ((connectDirect host port).timeout connectTimeout : Async _)
      settle (directResult result)

/-- The destination of the attempt. -/
def outboundOf (host : Text) (port : UInt16) : Option ProxyConfig → Outbound
  | some proxyConfig => .proxy proxyConfig.addr
  | none => .direct host port

/-- What `connect_to_target` returns for a successful attempt. -/
def establishedBy (targetLeftover : Bytes) : Option ProxyConfig → Connection
  | some proxyConfig => ⟨proxyConfig.url, false, targetLeftover⟩
  | none => ⟨"direct".toList, true, targetLeftover⟩

theorem connectToTarget_eq (host : Text) (port : UInt16) (resolveHostname : Bool)
    (ip : Option IpAddr) (isSocks : Bool) (rules : List (RuleMatcher × ProxyConfig)) :
    connectToTarget host port resolveHostname ip isSocks rules =
      match chosenProxy rules host ip with
      | some proxyConfig => connectThrough proxyConfig host port resolveHostname isSocks
      | none => connectDirectly host port isSocks := by
  induction rules with
  | nil => rfl
  | cons rule rules inductionHypothesis =>
      unfold connectToTarget chosenProxy
      by_cases hit : rule.1.matches host ip = true
      · rw [if_pos hit, selectRule_cons_of_match hit]
        rfl
      · rw [if_neg hit, selectRule_cons_of_miss (Bool.eq_false_iff.mpr hit), inductionHypothesis]
        rfl

theorem attemptOutbound_ensures (host : Text) (port : UInt16) (resolveHostname : Bool)
    (chosen : Option ProxyConfig) :
    Ensures (attemptOutbound host port resolveHostname chosen) fun events _ =>
      IsAttempt (outboundOf host port chosen) events := by
  cases chosen with
  | some proxyConfig => exact ProxyClient.connect_ensures ⟨proxyConfig⟩ host port resolveHostname
  | none =>
      have alone : ∀ time response, IsAttempt (.direct host port)
          [⟨.connectDirect host port, time, response⟩] :=
        fun time response => ⟨_, [], rfl, rfl, rfl, nofun⟩
      refine Ensures.bind Ensures.timeout_performOr ?_ ?_ ?_
      · rintro result before ⟨time, response, rfl⟩
        refine (Ensures.settle _).imp ?_
        rintro after outcome rfl
        exact alone time response
      · rintro error events ⟨time, response, rfl⟩
        exact alone time response
      · rintro events ⟨time, response, rfl⟩
        exact alone time response

variable {host : Text} {port : UInt16} {resolveHostname isSocks : Bool} {ip : Option IpAddr}
  {start stop : Nat} {events : List SocketEvent}

/-- A successful attempt has consumed the upstream's reply. -/
theorem attemptOutbound_returned {chosen : Option ProxyConfig} {leftover : Bytes}
    (run : Runs (attemptOutbound host port resolveHostname chosen) start events
      (.returned leftover) stop) :
    ∃ reply, IsUpstreamReply (chosen.map ProxyConfig.proxyType) reply ∧
      received .target events = reply ++ leftover := by
  cases chosen with
  | some proxyConfig => exact ProxyClient.connect_returned run
  | none =>
      obtain ⟨result, _, before, after, connectRun, rest, rfl⟩ := runs_bind_returned_iff.mp run
      obtain ⟨time, response, rfl⟩ := Ensures.timeout_performOr _ _ _ _ connectRun
      obtain ⟨rfl, -, ⟨value, accepted, same⟩ | ⟨_, _, impossible⟩⟩ := runs_settle_iff.mp rest
      · cases same
        refine ⟨[], rfl, ?_⟩
        match result with
        | some (.ok ()) =>
            cases accepted
            rfl
        | some (.error error) => exact absurd accepted nofun
        | none => exact absurd accepted nofun
      · exact absurd impossible nofun

/-! ## The runs of `connect_to_target` -/

/-- What `connect_to_target` does once its attempt has the given outcome. -/
inductive AfterAttempt (isSocks : Bool) (chosen : Option ProxyConfig) :
    Outcome Text Bytes → List SocketEvent → Outcome Text Connection → Prop where
  | established (leftover : Bytes) :
      AfterAttempt isSocks chosen (.returned leftover) [] (.returned (establishedBy leftover chosen))
  | pending : AfterAttempt isSocks chosen .cut [] .cut
  | silent (error : Text) (notSocks : isSocks = false) :
      AfterAttempt isSocks chosen (.failed error) [] (.failed error)
  | replied (error : Text) (errorCode : UInt8) (time : Nat) (response : Response _)
      {outcome : Outcome Text Connection} (socks : isSocks = true) (failure : errorCode ≠ 0x00)
      (ends : outcome = .failed error ∨ outcome = .cut) :
      AfterAttempt isSocks chosen (.failed error)
        [⟨.writeAll .client (errorReply errorCode), time, response⟩] outcome

theorem failWithReply_after {errorCode : UInt8} {error : Text} {chosen : Option ProxyConfig}
    {outcome : Outcome Text Connection} (failure : errorCode ≠ 0x00)
    (run : Runs (failWithReply isSocks errorCode error) start events outcome stop) :
    AfterAttempt isSocks chosen (.failed error) events outcome := by
  unfold failWithReply at run
  split at run
  · next socks =>
      rcases runs_bind_iff.mp run with
        ⟨sentOrNot, _, reply, rest, replyRun, failing, rfl⟩ | ⟨other, replyRun, -⟩ |
          ⟨replyRun, rfl⟩
      · obtain ⟨time, response, rfl⟩ := Ensures.attempt_performOr _ _ _ _ replyRun
        obtain ⟨rfl, rfl, -⟩ := runs_fail_iff.mp failing
        exact .replied error errorCode time response socks failure (.inl rfl)
      · exact absurd replyRun not_runs_attempt_failed
      · obtain ⟨time, response, rfl⟩ := Ensures.attempt_performOr _ _ _ _ replyRun
        exact .replied error errorCode time response socks failure (.inr rfl)
  · next notSocks =>
      obtain ⟨rfl, rfl, -⟩ := runs_fail_iff.mp run
      exact .silent error (Bool.eq_false_iff.mpr notSocks)

theorem connectThrough_runs {proxyConfig : ProxyConfig} {outcome : Outcome Text Connection}
    (run : Runs (connectThrough proxyConfig host port resolveHostname isSocks) start events outcome
      stop) :
    ∃ attempt result middle after, events = attempt ++ after ∧
      Runs (attemptOutbound host port resolveHostname (some proxyConfig)) start attempt result
        middle ∧ AfterAttempt isSocks (some proxyConfig) result after outcome := by
  rcases runs_bind_iff.mp run with
    ⟨result, middle, attempt, after, attemptRun, rest, rfl⟩ | ⟨_, attemptRun, -⟩ |
      ⟨attemptRun, rfl⟩
  · rcases runs_attempt_iff.mp attemptRun with
      ⟨leftover, inner, same⟩ | ⟨error, inner, same⟩ | ⟨_, impossible⟩
    · cases same
      obtain ⟨rfl, rfl, -⟩ := runs_ret_iff.mp rest
      exact ⟨attempt, _, middle, [], rfl, inner, .established leftover⟩
    · cases same
      exact ⟨attempt, _, middle, after, rfl, inner, failWithReply_after (by decide) rest⟩
    · exact absurd impossible nofun
  · exact absurd attemptRun not_runs_attempt_failed
  · rcases runs_attempt_iff.mp attemptRun with
      ⟨_, _, impossible⟩ | ⟨_, _, impossible⟩ | ⟨inner, -⟩
    · exact absurd impossible nofun
    · exact absurd impossible nofun
    · exact ⟨events, .cut, stop, [], (List.append_nil _).symm, inner, .pending⟩

theorem connectDirectly_runs {outcome : Outcome Text Connection}
    (run : Runs (connectDirectly host port isSocks) start events outcome stop) :
    ∃ attempt result middle after, events = attempt ++ after ∧
      Runs (attemptOutbound host port resolveHostname none) start attempt result middle ∧
        AfterAttempt isSocks none result after outcome := by
  rcases runs_bind_iff.mp run with
    ⟨result, middle, attempt, after, connectRun, rest, rfl⟩ | ⟨_, connectRun, -⟩ |
      ⟨connectRun, rfl⟩
  · have attemptRun : ∀ {last : Outcome Text Bytes},
        Runs (settle (directResult result)) middle [] last middle →
        Runs (attemptOutbound host port resolveHostname none) start attempt last middle :=
      fun ending => runs_bind_iff.mpr
        (.inl ⟨result, middle, attempt, [], connectRun, ending, (List.append_nil _).symm⟩)
    match result with
    | some (.ok ()) =>
        obtain ⟨rfl, rfl, -⟩ := runs_ret_iff.mp rest
        exact ⟨attempt, _, middle, [], rfl, attemptRun (.ret [] middle), .established []⟩
    | some (.error error) =>
        refine ⟨attempt, _, middle, after, rfl, attemptRun (.fail error.text middle), ?_⟩
        refine failWithReply_after ?_ rest
        split
        · decide
        · decide
    | none =>
        exact ⟨attempt, _, middle, after, rfl, attemptRun (.fail _ middle),
          failWithReply_after (by decide) rest⟩
  · exact absurd connectRun not_runs_timeout_failed
  · exact ⟨events, .cut, stop, [], (List.append_nil _).symm,
      runs_bind_iff.mpr (.inr (.inr ⟨connectRun, rfl⟩)), .pending⟩

/-- `connect_to_target` is the one attempt its first matching rule selects and
what follows from the outcome of that attempt. -/
theorem connectToTarget_runs {rules : List (RuleMatcher × ProxyConfig)}
    {outcome : Outcome Text Connection}
    (run : Runs (connectToTarget host port resolveHostname ip isSocks rules) start events outcome
      stop) :
    ∃ attempt result middle after, events = attempt ++ after ∧
      Runs (attemptOutbound host port resolveHostname (chosenProxy rules host ip)) start attempt
        result middle ∧ AfterAttempt isSocks (chosenProxy rules host ip) result after outcome := by
  rw [connectToTarget_eq] at run
  cases chosen : chosenProxy rules host ip with
  | some proxyConfig =>
      rw [chosen] at run
      exact connectThrough_runs run
  | none =>
      rw [chosen] at run
      exact connectDirectly_runs run

/-! ## One failure reply -/

/-- What a handler has done when its connection is established, its attempt is
pending, or its one failure reply about the attempt has been begun. -/
inductive Concluded (isFailure : Bytes → Prop) (chosen : Option ProxyConfig) :
    Outcome Text Bytes → List SocketEvent → Outcome Text Connection → Prop where
  | established (leftover : Bytes) :
      Concluded isFailure chosen (.returned leftover) [] (.returned (establishedBy leftover chosen))
  | pending : Concluded isFailure chosen .cut [] .cut
  | replied (error : Text) {reply : Bytes} (time : Nat) (response : Response _)
      {outcome : Outcome Text Connection} (failure : isFailure reply)
      (ends : outcome = .failed error ∨ outcome = .cut) :
      Concluded isFailure chosen (.failed error) [⟨.writeAll .client reply, time, response⟩] outcome

/-- With `is_socks` the reply is sent by `connect_to_target` itself. -/
theorem AfterAttempt.concluded {chosen : Option ProxyConfig} {result : Outcome Text Bytes}
    {after : List SocketEvent} {outcome : Outcome Text Connection}
    (shape : AfterAttempt true chosen result after outcome) :
    Concluded (fun reply => ∃ errorCode, errorCode ≠ 0x00 ∧ reply = errorReply errorCode) chosen
      result after outcome := by
  cases shape with
  | established leftover => exact .established leftover
  | pending => exact .pending
  | silent error notSocks => exact absurd notSocks nofun
  | replied error errorCode time response socks failure ends =>
      exact .replied error time response ⟨errorCode, failure, rfl⟩ ends

/-- Without `is_socks` the caller's error arm sends it. -/
theorem orReply_runs {rules : List (RuleMatcher × ProxyConfig)} {reply : Bytes}
    {outcome : Outcome Text Connection}
    (run : Runs (orReply (connectToTarget host port resolveHostname ip false rules) reply) start
      events outcome stop) :
    ∃ attempt result middle after, events = attempt ++ after ∧
      Runs (attemptOutbound host port resolveHostname (chosenProxy rules host ip)) start attempt
        result middle ∧
      Concluded (· = reply) (chosenProxy rules host ip) result after outcome := by
  rcases runs_bind_iff.mp run with
    ⟨connected, _, before, rest, connectRun, restRun, rfl⟩ | ⟨_, connectRun, -⟩ |
      ⟨connectRun, rfl⟩
  · rcases runs_attempt_iff.mp connectRun with
      ⟨connection, inner, same⟩ | ⟨error, inner, same⟩ | ⟨_, impossible⟩
    · cases same
      obtain ⟨rfl, rfl, -⟩ := runs_ret_iff.mp restRun
      obtain ⟨attempt, result, middle, after, rfl, attemptRun, shape⟩ := connectToTarget_runs inner
      refine ⟨attempt, result, middle, after, List.append_nil _, attemptRun, ?_⟩
      cases shape with
      | established leftover => exact .established leftover
      | replied _ _ _ _ socks => exact absurd socks nofun
    · cases same
      obtain ⟨attempt, result, middle, after, rfl, attemptRun, shape⟩ := connectToTarget_runs inner
      cases shape with
      | silent error notSocks =>
          refine ⟨attempt, .failed error, middle, rest, ?_, attemptRun, ?_⟩
          · rw [List.append_nil]
          · rcases runs_bind_iff.mp restRun with
              ⟨_, _, write, failing, writeRun, failRun, rfl⟩ | ⟨_, writeRun, -⟩ | ⟨writeRun, rfl⟩
            · obtain ⟨time, response, rfl⟩ := Ensures.attempt_performOr _ _ _ _ writeRun
              obtain ⟨rfl, rfl, -⟩ := runs_fail_iff.mp failRun
              exact .replied error time response rfl (.inl rfl)
            · exact absurd writeRun not_runs_attempt_failed
            · obtain ⟨time, response, rfl⟩ := Ensures.attempt_performOr _ _ _ _ writeRun
              exact .replied error time response rfl (.inr rfl)
      | replied _ _ _ _ socks => exact absurd socks nofun
    · exact absurd impossible nofun
  · exact absurd connectRun not_runs_attempt_failed
  · rcases runs_attempt_iff.mp connectRun with
      ⟨_, _, impossible⟩ | ⟨_, _, impossible⟩ | ⟨inner, -⟩
    · exact absurd impossible nofun
    · exact absurd impossible nofun
    · obtain ⟨attempt, result, middle, after, rfl, attemptRun, shape⟩ := connectToTarget_runs inner
      refine ⟨attempt, result, middle, after, rfl, attemptRun, ?_⟩
      cases shape with
      | pending => exact .pending
      | replied _ _ _ _ socks => exact absurd socks nofun

/-- A returned connection is what the successful attempt established. -/
theorem Concluded.returned {isFailure : Bytes → Prop} {chosen : Option ProxyConfig}
    {result : Outcome Text Bytes} {after : List SocketEvent} {connection : Connection}
    (shape : Concluded isFailure chosen result after (.returned connection)) :
    ∃ leftover, result = .returned leftover ∧ after = [] ∧
      connection = establishedBy leftover chosen := by
  cases shape with
  | established leftover => exact ⟨leftover, rfl, rfl, rfl⟩
  | replied error time response failure ends =>
      rcases ends with impossible | impossible
      · exact absurd impossible nofun
      · exact absurd impossible nofun

/-! ## Connecting and answering -/

/-- The end of a handler: connect, answer the client, hand over. -/
theorem connectThenFinish_returned {connect : Async Connection} {finish : Async Unit}
    {result : Connection → HandshakeResult} {handed : HandshakeResult}
    (run : Runs (connect.bind fun connection => finish.bind fun _ => .ret (result connection)) start
      events (.returned handed) stop) :
    ∃ connection connecting finishing middle, events = connecting ++ finishing ∧
      Runs connect start connecting (.returned connection) middle ∧
      Runs finish middle finishing (.returned ()) stop ∧ handed = result connection := by
  obtain ⟨connection, middle, connecting, _, connectRun, rest, rfl⟩ := runs_bind_returned_iff.mp run
  obtain ⟨⟨⟩, _, finishing, _, finishRun, last, rfl⟩ := runs_bind_returned_iff.mp rest
  obtain ⟨rfl, same, rfl⟩ := runs_ret_iff.mp last
  cases same
  exact ⟨connection, connecting, finishing, middle, by rw [List.append_nil], connectRun, finishRun,
    rfl⟩

end SimpleForwarder

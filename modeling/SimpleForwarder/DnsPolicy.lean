import SimpleForwarder.Lib.Deadlines
import SimpleForwarder.ProxyServer.Course
import SimpleForwarder.ReferenceCrates

/-!
Contract: where the host of a target is resolved when it goes through an
upstream proxy.

Owns: the messages a connect writes to its upstream as a function of what the
local resolver has answered (`ProxyClient.connect_messages`), and the DNS policy
of a connection (`upstream_dns_policy`): what each kind of upstream is sent, and
that nothing about a `socks5h` connection depends on the local resolver.

An upstream's own address is resolved by the TCP connect to it, whatever the
target; it is no lookup of the target host.

Does not own: which rule a target matches, and the relay.
-/

namespace SimpleForwarder

open RustText IpText EffectProgram Program Framing

/-! ## The messages to an upstream -/

def methodSelection : Bytes := [0x05, 0x01, 0x00]

/-- A SOCKS5 connect request with an IP address. -/
def ipRequest (ip : IpAddr) (port : UInt16) : Bytes :=
  match ip with
  | .v4 addr => [0x05, 0x01, 0x00, 0x01] ++ addr.octets ++ toBeBytes port
  | .v6 addr => [0x05, 0x01, 0x00, 0x04] ++ addr.octets ++ toBeBytes port

/-- A SOCKS5 connect request with a domain name. -/
def nameRequest (host : Text) (port : UInt16) : Bytes :=
  [0x05, 0x01, 0x00, 0x03, UInt8.ofNat (asBytes host).length] ++ asBytes host ++ toBeBytes port

/-- An IP address and a port as an HTTP authority. -/
def ipAuthority (ip : IpAddr) (port : UInt16) : Text :=
  match ip with
  | .v4 addr => addr.toText ++ ":".toList ++ decimal port.toNat
  | .v6 addr => "[".toList ++ addr.toText ++ "]:".toList ++ decimal port.toNat

def ipTunnelRequest (ip : IpAddr) (port : UInt16) : Bytes :=
  asBytes ("CONNECT ".toList ++ ipAuthority ip port ++ " HTTP/1.1\r\nHost: ".toList ++
    ipAuthority ip port ++ "\r\n\r\n".toList)

/-- What an upstream of a kind is sent for an IP address. -/
def ipMessages (proxyType : ProxyType) (ip : IpAddr) (port : UInt16) : List Bytes :=
  match proxyType with
  | .socks5 | .socks5h => [methodSelection, ipRequest ip port]
  | .http => [ipTunnelRequest ip port]

/-- What an upstream of a kind is sent for a host. A `socks5` upstream is sent
no request for a name. -/
def hostMessages (proxyType : ProxyType) (host : Text) (port : UInt16) : List Bytes :=
  match proxyType, parse host with
  | .socks5, some ip | .socks5h, some ip => [methodSelection, ipRequest ip port]
  | .socks5, none => [methodSelection]
  | .socks5h, none => [methodSelection, nameRequest host port]
  | .http, _ => [asBytes (connectRequest host port)]

/-! ## The local resolver -/

/-- The operations that give the host of a target to the local resolver. -/
def Op.resolvesTarget : Op → Bool
  | .lookupHost _ => true
  | .connectDirect _ _ => true
  | _ => false

theorem Op.Concerns.resolvesTarget {peer : Peer} {op : Op} (concerns : op.Concerns peer) :
    op.resolvesTarget = false := by
  cases op with
  | readExact | read | writeAll | connectProxy => rfl
  | connectDirect | lookupHost => exact absurd concerns nofun

def lookupAnswer : SocketEvent → Option (List SocketAddr)
  | ⟨.lookupHost _, _, .ready (.ok addrs)⟩ => some addrs
  | _ => none

/-- What the local resolver has answered in a run. -/
def lookupAnswers (events : List SocketEvent) : List (List SocketAddr) :=
  events.filterMap lookupAnswer

/-- The host that is used once the resolver has given these answers: the first
address, or the host as it was. -/
def usedHost (host : Text) : List (List SocketAddr) → Text
  | [addr :: _] => addr.ip.toText
  | _ => host

theorem lookupAnswers_append (before after : List SocketEvent) :
    lookupAnswers (before ++ after) = lookupAnswers before ++ lookupAnswers after :=
  List.filterMap_append

theorem lookupAnswers_eq_nil {events : List SocketEvent}
    (none : ∀ event ∈ events, event.op.resolvesTarget = false) : lookupAnswers events = [] := by
  refine List.filterMap_eq_nil_iff.mpr fun event member => ?_
  have other := none event member
  unfold lookupAnswer
  split
  · exact absurd other nofun
  · rfl

/-! ## What a connect writes -/

/-- The messages are written in this order, and all of them if the program
returns. -/
structure WritesInOrder {α : Type} (messages : List Bytes) (events : List SocketEvent)
    (outcome : Outcome Text α) : Prop where
  order : writes .target events <+: messages
  whole : ∀ value, outcome = .returned value → writes .target events = messages

namespace WritesInOrder

variable {α β : Type} {program : Async α} {rest : α → Async β} {first second messages : List Bytes}

theorem ret (value : α) : Ensures (.ret value : Async α) (WritesInOrder []) :=
  Ensures.ret ⟨List.nil_prefix, fun _ _ => rfl⟩

/-- A failure leaves messages unwritten. -/
theorem fail (error : Text) : Ensures (.fail error : Async α) (WritesInOrder messages) :=
  Ensures.fail ⟨List.nil_prefix, nofun⟩

theorem writeAll (message : Bytes) :
    Ensures (SimpleForwarder.writeAll .target message) (WritesInOrder [message]) := by
  refine Ensures.performOr.imp ?_
  rintro events outcome ⟨time, response, rfl⟩
  exact ⟨List.prefix_rfl, fun _ _ => rfl⟩

/-- An operation that is no write to the upstream. -/
theorem of_only (elsewhere : program.Only fun op => ∀ bytes, op ≠ .writeAll .target bytes) :
    Ensures program (WritesInOrder []) := by
  refine (Ensures.of_only elsewhere).imp fun events outcome others => ?_
  have nothing : writes .target events = [] := by
    refine List.filterMap_eq_nil_iff.mpr fun event member => ?_
    have other := others event member
    unfold writeOf
    split
    · exact if_neg fun same => other _ (by rw [same])
    · rfl
  exact ⟨nothing ▸ List.prefix_rfl, fun _ _ => nothing⟩

/-- Messages are written one program after the other. -/
theorem bind (writesFirst : Ensures program (WritesInOrder first))
    (writesSecond : ∀ value, Ensures (rest value) (WritesInOrder second)) :
    Ensures (program.bind rest) (WritesInOrder (first ++ second)) := by
  refine Ensures.bind writesFirst ?_ ?_ ?_
  · intro value before written
    refine (writesSecond value).imp fun after outcome after_written => ?_
    have all := written.whole value rfl
    constructor
    · rw [writes_append, all]
      exact (List.prefix_append_right_inj _).mpr after_written.order
    · intro result returned
      rw [writes_append, all, after_written.whole result returned]
  · intro error events written
    exact ⟨written.order.trans (List.prefix_append _ _), nofun⟩
  · intro events written
    exact ⟨written.order.trans (List.prefix_append _ _), nofun⟩

end WritesInOrder

/-- Reading from the upstream writes nothing. -/
theorem Op.IsTargetRead.elsewhere {op : Op} (reads : op.IsTargetRead) (bytes : Bytes) :
    op ≠ .writeAll .target bytes := by
  obtain ⟨size, rfl⟩ := reads
  exact nofun

theorem WritesInOrder.of_reads {α : Type} {program : Async α}
    (reads : program.Only Op.IsTargetRead) : Ensures program (WritesInOrder []) :=
  WritesInOrder.of_only (reads.imp fun _ => Op.IsTargetRead.elsewhere)

/-- The request that `socks5_connect` builds, if it builds one. -/
theorem hostMessages_of_ok {proxyType : ProxyType} {host : Text} {port : UInt16} {request : Bytes}
    (socks : proxyType ≠ .http)
    (built : socks5Request host port (!proxyType.shouldResolve) = .ok request) :
    hostMessages proxyType host port = [methodSelection, request] := by
  unfold socks5Request socks5Address at built
  unfold hostMessages
  cases proxyType with
  | http => exact absurd rfl socks
  | socks5 =>
      cases parsed : parse host with
      | none =>
          rw [parsed] at built
          exact absurd built nofun
      | some ip =>
          rw [parsed] at built
          cases ip with
          | v4 addr => rw [← Except.ok.inj built]; rfl
          | v6 addr => rw [← Except.ok.inj built]; rfl
  | socks5h =>
      cases parsed : parse host with
      | none =>
          rw [parsed] at built
          by_cases long : (asBytes host).length > 255
          · simp only [ProxyType.shouldResolve, Bool.not_false, if_true, if_pos long] at built
            exact absurd built nofun
          · simp only [ProxyType.shouldResolve, Bool.not_false, if_true, if_neg long] at built
            rw [← Except.ok.inj built]
            rfl
      | some ip =>
          rw [parsed] at built
          cases ip with
          | v4 addr => rw [← Except.ok.inj built]; rfl
          | v6 addr => rw [← Except.ok.inj built]; rfl

theorem hostMessages_eq_cons {proxyType : ProxyType} (socks : proxyType ≠ .http) (host : Text)
    (port : UInt16) :
    hostMessages proxyType host port =
      [methodSelection] ++ (hostMessages proxyType host port).tail := by
  unfold hostMessages
  cases proxyType with
  | http => exact absurd rfl socks
  | socks5 => cases parse host <;> rfl
  | socks5h => cases parse host <;> rfl

/-- `socks5_connect` selects its method and sends its request. -/
theorem socks5Connect_messages (proxyType : ProxyType) (socks : proxyType ≠ .http) (host : Text)
    (port : UInt16) :
    Ensures (socks5Connect host port (!proxyType.shouldResolve))
      (WritesInOrder (hostMessages proxyType host port)) := by
  have requesting : Ensures
      ((settle (socks5Request host port (!proxyType.shouldResolve)) : Async Bytes).bind
        fun request => (writeAll .target request).bind fun _ => readSocks5Response)
      (WritesInOrder (hostMessages proxyType host port).tail) := by
    cases built : socks5Request host port (!proxyType.shouldResolve) with
    | error error => exact WritesInOrder.fail error
    | ok request =>
        rw [hostMessages_of_ok socks built]
        exact WritesInOrder.bind (WritesInOrder.writeAll request) fun _ =>
          WritesInOrder.of_reads readSocks5Response_isTargetRead
  rw [hostMessages_eq_cons socks]
  refine WritesInOrder.bind (WritesInOrder.writeAll methodSelection) fun _ => ?_
  refine WritesInOrder.bind (WritesInOrder.of_reads (readExact_isTargetRead 2)) fun response => ?_
  split
  · exact WritesInOrder.fail _
  · split
    · exact WritesInOrder.fail _
    · exact requesting

theorem httpConnect_messages (host : Text) (port : UInt16) :
    Ensures (httpConnect host port) (WritesInOrder (hostMessages .http host port)) := by
  have reading : (readHead .target connectResponseMaxLen connectResponseErrors []).Only
      fun op => ∀ bytes, op ≠ .writeAll .target bytes := by
    refine (readHead_only []).imp fun op reads => ?_
    rw [reads]
    exact nofun
  refine WritesInOrder.bind (WritesInOrder.writeAll _) fun _ => ?_
  exact WritesInOrder.of_only (reading.bind fun split => only_settle.bind fun _ => only_ret _)

theorem upstreamHandshake_messages (proxyType : ProxyType) (host : Text) (port : UInt16) :
    Ensures (upstreamHandshake proxyType host port)
      (WritesInOrder (hostMessages proxyType host port)) := by
  have finished : ∀ messages : List Bytes, messages ++ [] = messages := List.append_nil
  cases proxyType with
  | socks5 =>
      rw [← finished (hostMessages .socks5 host port)]
      exact WritesInOrder.bind (socks5Connect_messages .socks5 nofun host port) fun _ =>
        WritesInOrder.ret []
  | socks5h =>
      rw [← finished (hostMessages .socks5h host port)]
      exact WritesInOrder.bind (socks5Connect_messages .socks5h nofun host port) fun _ =>
        WritesInOrder.ret []
  | http => exact httpConnect_messages host port

/-- A handshake with a `socks5` upstream that succeeds has had an address. -/
theorem upstreamHandshake_socks5_returned {host : Text} {port : UInt16} {leftover : Bytes}
    {start stop : Nat} {events : List SocketEvent}
    (run : Runs (upstreamHandshake .socks5 host port) start events (.returned leftover) stop) :
    ∃ ip, parse host = some ip := by
  obtain ⟨_, _, _, _, connectRun, -, -⟩ := runs_bind_returned_iff.mp run
  obtain ⟨_, _, _, _, -, afterGreeting, -⟩ := runs_bind_returned_iff.mp connectRun
  obtain ⟨response, _, _, _, -, rest, -⟩ := runs_bind_returned_iff.mp afterGreeting
  clear run connectRun afterGreeting
  split at rest
  · exact absurd (runs_fail_iff.mp rest).2.1 nofun
  · split at rest
    · exact absurd (runs_fail_iff.mp rest).2.1 nofun
    · obtain ⟨request, _, _, _, settleRun, -, -⟩ := runs_bind_returned_iff.mp rest
      obtain ⟨-, -, ⟨_, built, -⟩ | ⟨_, _, impossible⟩⟩ := runs_settle_iff.mp settleRun
      · cases parsed : parse host with
        | some ip => exact ⟨ip, rfl⟩
        | none =>
            unfold socks5Request socks5Address at built
            rw [parsed] at built
            exact absurd built nofun
      · exact absurd impossible nofun

/-- The deadline of the handshake cuts the messages short at most. -/
theorem WritesInOrder.withinHandshakeTimeout {α : Type} {handshake : Async α}
    {messages : List Bytes} (writesAll : Ensures handshake (WritesInOrder messages)) :
    Ensures (SimpleForwarder.withinHandshakeTimeout handshake) (WritesInOrder messages) := by
  intro start events outcome stop run
  rcases runs_bind_iff.mp run with
    ⟨result, middle, before, after, timed, rest, rfl⟩ | ⟨_, timed, -⟩ | ⟨timed, rfl⟩
  · rcases runs_timeout timed with
      ⟨value, inner, same⟩ | ⟨error, inner, same⟩ | ⟨_, impossible⟩ | ⟨inner, -, same⟩
    · cases same
      obtain ⟨rfl, rfl, -⟩ := runs_ret_iff.mp rest
      rw [List.append_nil]
      exact writesAll _ _ _ _ inner
    · cases same
      obtain ⟨rfl, rfl, -⟩ := runs_fail_iff.mp rest
      rw [List.append_nil]
      exact ⟨(writesAll _ _ _ _ inner).order, nofun⟩
    · exact absurd impossible nofun
    · cases same
      obtain ⟨rfl, rfl, -⟩ := runs_fail_iff.mp rest
      rw [List.append_nil]
      exact ⟨(writesAll _ _ _ _ inner).order, nofun⟩
  · exact absurd timed not_runs_timeout_failed
  · rcases runs_timeout timed with
      ⟨_, _, impossible⟩ | ⟨_, _, impossible⟩ | ⟨inner, -⟩ | ⟨_, _, impossible⟩
    · exact absurd impossible nofun
    · exact absurd impossible nofun
    · exact ⟨(writesAll _ _ _ _ inner).order, nofun⟩
    · exact absurd impossible nofun

/-- The choice of the host writes nothing, asks at most once and only for an
upstream that is sent addresses, and returns the host to use. -/
structure ChoosesHost (proxyType : ProxyType) (host : Text) (events : List SocketEvent)
    (outcome : Outcome Text Text) : Prop where
  silent : writes .target events = []
  unasked : proxyType = .socks5h → events = []
  once : events.length ≤ 1
  chosen : ∀ used, outcome = .returned used → used = usedHost host (lookupAnswers events)

/-- One lookup, for an upstream that is sent addresses. -/
theorem ChoosesHost.of_lookup {proxyType : ProxyType} {host query : Text} {time : Nat}
    {response : Response (Resp (.lookupHost query))} {outcome : Outcome Text Text}
    (notSocks5h : proxyType ≠ .socks5h)
    (chosen : ∀ used, outcome = .returned used →
      used = usedHost host (lookupAnswers [⟨.lookupHost query, time, response⟩])) :
    ChoosesHost proxyType host [⟨.lookupHost query, time, response⟩] outcome where
  silent := rfl
  unasked := fun isSocks5h => absurd isSocks5h notSocks5h
  once := Nat.le_refl 1
  chosen := chosen

theorem finalHost_choosesHost (proxyType : ProxyType) (host : Text) (port : UInt16)
    (resolveHostname : Bool) :
    Ensures (finalHost proxyType host port resolveHostname) (ChoosesHost proxyType host) := by
  unfold finalHost
  split
  · next resolves =>
      have notSocks5h : proxyType ≠ .socks5h := by
        intro isSocks5h
        rw [isSocks5h] at resolves
        exact absurd resolves nofun
      intro start events outcome stop run
      rcases runs_bind_iff.mp run with
        ⟨result, middle, before, after, timed, rest, rfl⟩ | ⟨_, timed, -⟩ | ⟨timed, rfl⟩
      · rcases runs_timeout_performOr timed with
          ⟨answer, rfl, same⟩ | ⟨progress, rfl, same | impossible⟩
        · cases same
          -- An error and an empty answer leave the host as it was.
          cases answer with
          | error error =>
              obtain ⟨rfl, rfl, -⟩ := runs_ret_iff.mp rest
              apply ChoosesHost.of_lookup notSocks5h
              intro used returned
              cases returned
              rfl
          | ok addrs =>
              cases addrs with
              | nil =>
                  obtain ⟨rfl, rfl, -⟩ := runs_ret_iff.mp rest
                  apply ChoosesHost.of_lookup notSocks5h
                  intro used returned
                  cases returned
                  rfl
              | cons addr addrs =>
                  obtain ⟨rfl, rfl, -⟩ := runs_ret_iff.mp rest
                  apply ChoosesHost.of_lookup notSocks5h
                  intro used returned
                  cases returned
                  rfl
        · cases same
          obtain ⟨rfl, rfl, -⟩ := runs_ret_iff.mp rest
          apply ChoosesHost.of_lookup notSocks5h
          intro used returned
          cases returned
          rfl
        · exact absurd impossible nofun
      · exact absurd timed not_runs_timeout_failed
      · rcases runs_timeout_performOr timed with ⟨answer, rfl, _⟩ | ⟨progress, rfl, _⟩
        · exact .of_lookup notSocks5h nofun
        · exact .of_lookup notSocks5h nofun
  · apply Ensures.ret
    constructor
    · rfl
    · intro _
      rfl
    · exact Nat.zero_le 1
    · intro used returned
      cases returned
      rfl

/-- What a connect for `host` has asked the local resolver and written to an
upstream of a kind. -/
structure UpstreamMessages (proxyType : ProxyType) (host : Text) (port : UInt16)
    (events : List SocketEvent) (outcome : Outcome Text Bytes) : Prop where
  inOrder : WritesInOrder (hostMessages proxyType (usedHost host (lookupAnswers events)) port)
    events outcome
  unresolved : proxyType = .socks5h → ∀ event ∈ events, event.op.resolvesTarget = false
  addressed : proxyType = .socks5 → ∀ leftover, outcome = .returned leftover →
    ∃ ip, parse (usedHost host (lookupAnswers events)) = some ip
  once : (lookupAnswers events).length ≤ 1

section

variable {proxyType : ProxyType} {host used : Text} {port : UInt16} {addr : Text} {time : Nat}
  {response : Response (Resp (.connectProxy addr))} {lookup : List SocketEvent}
  {choice : Outcome Text Text} {outcome : Outcome Text Bytes}

/-- Before the handshake nothing has been written. -/
theorem ChoosesHost.upstreamMessages (choosing : ChoosesHost proxyType host lookup choice)
    (unreturned : ∀ leftover, outcome ≠ .returned leftover) :
    UpstreamMessages proxyType host port (⟨.connectProxy addr, time, response⟩ :: lookup)
      outcome where
  inOrder := by
    constructor
    · rw [show writes .target (⟨.connectProxy addr, time, response⟩ :: lookup) =
        writes .target lookup from rfl, choosing.silent]
      exact List.nil_prefix
    · intro leftover returned
      exact absurd returned (unreturned leftover)
  unresolved := by
    intro isSocks5h
    rw [choosing.unasked isSocks5h]
    exact List.forall_mem_singleton.mpr rfl
  addressed := by
    intro _ leftover returned
    exact absurd returned (unreturned leftover)
  once := Nat.le_trans (List.length_filterMap_le _ lookup) choosing.once

/-- The handshake writes the messages for the host that was chosen. -/
theorem ChoosesHost.handshake (choosing : ChoosesHost proxyType host lookup (.returned used)) :
    Ensures (withinHandshakeTimeout (upstreamHandshake proxyType used port)) fun events outcome =>
      UpstreamMessages proxyType host port
        (⟨.connectProxy addr, time, response⟩ :: (lookup ++ events)) outcome := by
  have target := withinHandshakeTimeout_only (upstreamHandshake_ofTarget proxyType used port)
  have messages := WritesInOrder.withinHandshakeTimeout
    (upstreamHandshake_messages proxyType used port)
  intro start events outcome stop run
  have written := messages _ _ _ _ run
  have others : ∀ event ∈ events, event.op.resolvesTarget = false :=
    fun event member => (run.only target event member).resolvesTarget
  have sameWrites : writes .target (⟨.connectProxy addr, time, response⟩ :: (lookup ++ events)) =
      writes .target events := by
    show writes .target (lookup ++ events) = _
    rw [writes_append, choosing.silent, List.nil_append]
  have sameAnswers : lookupAnswers (⟨.connectProxy addr, time, response⟩ :: (lookup ++ events)) =
      lookupAnswers lookup := by
    show lookupAnswers (lookup ++ events) = _
    rw [lookupAnswers_append, lookupAnswers_eq_nil others, List.append_nil]
  constructor
  · rw [sameAnswers, ← choosing.chosen used rfl]
    constructor
    · rw [sameWrites]
      exact written.order
    · rw [sameWrites]
      exact written.whole
  · intro isSocks5h
    rw [choosing.unasked isSocks5h]
    exact List.forall_mem_cons.mpr ⟨rfl, others⟩
  · intro isSocks5 leftover returned
    rw [sameAnswers, ← choosing.chosen used rfl]
    cases returned
    have handshake := withinHandshakeTimeout_returned run
    rw [isSocks5] at handshake
    exact upstreamHandshake_socks5_returned handshake
  · rw [sameAnswers]
    exact Nat.le_trans (List.length_filterMap_le _ lookup) choosing.once

end

/-- What is written to an upstream is decided by the host, the port and the
answer of the local resolver, which a `socks5h` connect does not ask. -/
theorem ProxyClient.connect_messages (client : ProxyClient) (host : Text) (port : UInt16)
    (resolveHostname : Bool) :
    Ensures (client.connect host port resolveHostname)
      (UpstreamMessages client.config.proxyType host port) := by
  -- No host has been chosen yet.
  have choosing : ChoosesHost client.config.proxyType host [] .cut :=
    ⟨rfl, fun _ => rfl, Nat.zero_le 1, nofun⟩
  refine Ensures.bind Ensures.timeout_performOr ?_ ?_ ?_
  · rintro result before ⟨time, response, rfl⟩
    cases result with
    | none => exact Ensures.fail (choosing.upstreamMessages nofun)
    | some connected =>
        cases connected with
        | error error => exact Ensures.fail (choosing.upstreamMessages nofun)
        | ok value =>
            refine Ensures.bind (finalHost_choosesHost client.config.proxyType host port
              resolveHostname) ?_ ?_ ?_
            · intro used lookup chosen
              exact chosen.handshake
            · intro error lookup chosen
              exact chosen.upstreamMessages nofun
            · intro lookup chosen
              exact chosen.upstreamMessages nofun
  · rintro error events ⟨time, response, rfl⟩
    exact choosing.upstreamMessages nofun
  · rintro events ⟨time, response, rfl⟩
    exact choosing.upstreamMessages nofun

/-! ## The policy -/

theorem connectRequest_toText (ip : IpAddr) (port : UInt16) :
    asBytes (connectRequest ip.toText port) = ipTunnelRequest ip port := by
  have notBracket : ip.toText.head? ≠ some '[' := by
    intro first
    rcases IpAddr.mem_toText (List.mem_of_mem_head? first) with digit | colon | dot
    · exact digit (by decide)
    · exact absurd colon (by decide)
    · exact absurd dot (by decide)
  have authority : formattedHost ip.toText ++ ":".toList ++ decimal port.toNat =
      ipAuthority ip port := by
    unfold formattedHost ipAuthority
    cases ip with
    | v4 addr =>
        have noColon : ':' ∉ addr.toText := by
          intro member
          rcases Ipv4Addr.mem_toText member with digit | dot
          · exact absurd digit (by decide)
          · exact absurd dot (by decide)
        rw [if_neg fun bracketed => noColon bracketed.1]
        rfl
    | v6 addr =>
        rw [if_pos ⟨Ipv6Addr.colon_mem_toText addr, notBracket⟩]
        simp only [IpAddr.toText, List.append_assoc]
        rfl
  unfold connectRequest ipTunnelRequest
  dsimp only
  rw [authority]

/-- The DNS policy of one connect to an upstream. A `socks5h` upstream is sent
the host of the client, and the local resolver is not asked about it; a
`socks5` upstream is sent an address or no request at all; an answer of the
local resolver is used by its first address. -/
structure DnsPolicy (host : Text) (port : UInt16) (proxy : ProxyConfig)
    (attempt : List SocketEvent) (result : Outcome Text Bytes) : Prop where
  unresolved : proxy.proxyType = .socks5h → ∀ event ∈ attempt, event.op.resolvesTarget = false
  named : proxy.proxyType = .socks5h → parse host = none →
    WritesInOrder [methodSelection, nameRequest host port] attempt result
  literal : proxy.proxyType = .socks5h → ∀ ip, parse host = some ip →
    WritesInOrder [methodSelection, ipRequest ip port] attempt result
  addressed : proxy.proxyType = .socks5 →
    (∃ ip, writes .target attempt = [methodSelection, ipRequest ip port]) ∨
      (writes .target attempt <+: [methodSelection] ∧ ∀ leftover, result ≠ .returned leftover)
  answered : ∀ addr addrs, (addr :: addrs) ∈ lookupAnswers attempt →
    WritesInOrder (ipMessages proxy.proxyType addr.ip port) attempt result

theorem hostMessages_toText (proxyType : ProxyType) (ip : IpAddr) (port : UInt16) :
    hostMessages proxyType ip.toText port = ipMessages proxyType ip port := by
  unfold hostMessages ipMessages
  rw [parse_toText]
  cases proxyType with
  | socks5 => rfl
  | socks5h => rfl
  | http => exact congrArg (fun message => [message]) (connectRequest_toText ip port)

theorem attemptOutbound_dnsPolicy (host : Text) (port : UInt16) (resolveHostname : Bool)
    (proxy : ProxyConfig) :
    Ensures (attemptOutbound host port resolveHostname (some proxy))
      (DnsPolicy host port proxy) := by
  refine (ProxyClient.connect_messages ⟨proxy⟩ host port resolveHostname).imp ?_
  intro attempt result sent
  have inOrder := sent.inOrder
  dsimp only at inOrder
  have unasked : proxy.proxyType = .socks5h → usedHost host (lookupAnswers attempt) = host := by
    intro isSocks5h
    rw [lookupAnswers_eq_nil (sent.unresolved isSocks5h)]
    rfl
  constructor
  · exact sent.unresolved
  · intro isSocks5h isName
    rw [unasked isSocks5h, isSocks5h] at inOrder
    unfold hostMessages at inOrder
    rwa [isName] at inOrder
  · intro isSocks5h ip isLiteral
    rw [unasked isSocks5h, isSocks5h] at inOrder
    unfold hostMessages at inOrder
    rwa [isLiteral] at inOrder
  · intro isSocks5
    rw [isSocks5] at inOrder
    unfold hostMessages at inOrder
    cases parsed : parse (usedHost host (lookupAnswers attempt)) with
    | none =>
        rw [parsed] at inOrder
        refine .inr ⟨inOrder.order, fun leftover returned => ?_⟩
        obtain ⟨ip, isAddress⟩ := sent.addressed isSocks5 leftover returned
        rw [parsed] at isAddress
        exact absurd isAddress nofun
    | some ip =>
        rw [parsed] at inOrder
        rcases List.prefix_concat_iff.mp
          (show _ <+: [methodSelection] ++ [ipRequest ip port] from inOrder.order) with both | first
        · exact .inl ⟨ip, both⟩
        · refine .inr ⟨first, fun leftover returned => ?_⟩
          have shorter := first.length_le
          rw [inOrder.whole leftover returned] at shorter
          exact absurd shorter (Nat.not_succ_le_self 1)
  · intro addr addrs answered
    have only : lookupAnswers attempt = [addr :: addrs] := by
      cases answers : lookupAnswers attempt with
      | nil =>
          rw [answers] at answered
          exact absurd answered List.not_mem_nil
      | cons answer others =>
          have once := sent.once
          rw [answers] at answered once
          have none : others = [] := List.length_eq_zero_iff.mp (Nat.le_zero.mp
            (Nat.le_of_succ_le_succ once))
          rw [none] at answered ⊢
          rw [List.mem_singleton.mp answered]
    rw [only] at inOrder
    rwa [← hostMessages_toText]

/-! ## Every connection -/

theorem Op.IsWrite.resolvesTarget {op : Op} (isWrite : op.IsWrite) : op.resolvesTarget = false := by
  obtain ⟨peer, bytes, rfl⟩ := isWrite
  rfl

variable {crates : Crates} {localAddr : Option SocketAddr}
  {rules : List (RuleMatcher × ProxyConfig)} {message : ClientMessage} {leftover : Bytes}
  {proxy : ProxyConfig} {start stop : Nat} {events : List SocketEvent}

/-- A handshake for a request that goes to an upstream: outside its one attempt
nothing is resolved, and the attempt follows the policy. -/
theorem handshake_dnsPolicy {outcome : Outcome Text (Option (Except Text HandshakeResult))}
    (run : Runs (handshake crates localAddr rules) start events outcome stop)
    (framed : IsFramed ClientMessage.encode (ClientMessage.WellFormed crates)
      (received .client events) message leftover)
    (chosen : message.chosen rules = some proxy) :
    ∃ before attempt after, events = before ++ (attempt ++ after) ∧
      (∀ event ∈ before ++ after, event.op.resolvesTarget = false) ∧
      (attempt = [] ∨ ∃ begun ended result,
        Runs (attemptOutbound message.host message.port message.resolveHostname (some proxy)) begun
          attempt result ended ∧
        DnsPolicy message.host message.port proxy attempt result) := by
  cases handshake_course _ _ _ _ run with
  | reading onClient =>
      refine ⟨events, [], [], (List.append_nil events).symm, ?_, .inl rfl⟩
      rw [List.append_nil]
      exact fun event member => (onClient event member).resolvesTarget
  | served onClient read attempted =>
      rw [received_append, attempted.received_client, List.append_nil] at framed
      have same := (ClientMessage.prefixFree crates).message_unique read framed
      rw [same, chosen] at attempted
      obtain ⟨attempt, after, begun, ended, result, rfl, attemptRun, isWrite⟩ := attempted
      refine ⟨_, attempt, after, rfl, ?_, .inr ⟨begun, ended, result, attemptRun,
        attemptOutbound_dnsPolicy _ _ _ _ _ _ _ _ attemptRun⟩⟩
      exact List.forall_mem_append.mpr ⟨fun event member => (onClient event member).resolvesTarget,
        fun event member => (isWrite event member).resolvesTarget⟩

/-- For every request of every inbound protocol that the rules send to an
upstream. In every run of its handshake nothing is resolved outside the one
attempt, and the attempt follows the policy of the kind of upstream. With a
`socks5h` upstream the local resolver is given no target at all, and the whole
run is the same in any two environments that differ only in what is resolved. -/
theorem upstream_dns_policy (chosen : message.chosen rules = some proxy) :
    (∀ start events outcome stop,
      Runs (handshake crates localAddr rules) start events outcome stop →
      IsFramed ClientMessage.encode (ClientMessage.WellFormed crates) (received .client events)
        message leftover →
      ∃ before attempt after, events = before ++ (attempt ++ after) ∧
        (∀ event ∈ before ++ after, event.op.resolvesTarget = false) ∧
        (attempt = [] ∨ ∃ begun ended result,
          Runs (attemptOutbound message.host message.port message.resolveHostname (some proxy))
            begun attempt result ended ∧
          DnsPolicy message.host message.port proxy attempt result)) ∧
    (proxy.proxyType = .socks5h → ∀ environment other : Environment Op Resp,
      (∀ history start op deadlines, op.resolvesTarget = false →
        environment.react history start op deadlines = other.react history start op deadlines) →
      ∀ start, let observed := runIn environment (handshake crates localAddr rules) [] start
        IsFramed ClientMessage.encode (ClientMessage.WellFormed crates)
          (received .client observed.events) message leftover →
        (∀ event ∈ observed.events, event.op.resolvesTarget = false) ∧
          runIn other (handshake crates localAddr rules) [] start = observed) := by
  refine ⟨fun _ _ _ _ run framed => handshake_dnsPolicy run framed chosen, ?_⟩
  intro isSocks5h environment other agree start observed framed
  have run : Runs (handshake crates localAddr rules) start observed.events observed.outcome
      observed.stop := runs_runIn environment _ _ _
  have unresolved : ∀ event ∈ observed.events, event.op.resolvesTarget = false := by
    obtain ⟨before, attempt, after, split, outside, attempted⟩ :=
      handshake_dnsPolicy run framed chosen
    obtain ⟨first, last⟩ := List.forall_mem_append.mp outside
    rw [split]
    refine List.forall_mem_append.mpr ⟨first, List.forall_mem_append.mpr ⟨?_, last⟩⟩
    rcases attempted with rfl | ⟨_, _, _, _, policy⟩
    · exact nofun
    · exact policy.unresolved isSocks5h
  exact ⟨unresolved, (runIn_congr agree unresolved).symm⟩

/-! ## A domain through `socks5h` -/

/-- The environment of a script, with a local resolver that answers `lookups`. -/
def Script.environment (script : Script) (lookups : List SocketAddr) : Environment Op Resp :=
  Delays.environment fun history _ op =>
    match op with
    | .lookupHost _ => some (0, .ok lookups)
    | op =>
        let unread : Script := {
          client := script.client.drop (received .client history).length
          target := script.target.drop (received .target history).length
          connects := script.connects
          lookups := []
        }
        (unread.answer op).map fun answer => (0, answer.1)

def socks5hRules : List (RuleMatcher × ProxyConfig) :=
  [(RuleMatcher.new referenceCrates ["*".toList], ⟨.socks5h, "10.0.0.9:1080".toList⟩)]

/-- A SOCKS4a request for `a.b:80`. -/
def domainMessage : ClientMessage :=
  .socks4 ⟨80, ⟨0, 0, 0, 1⟩, [], asBytes "a.b".toList, nofun, by decide, nofun⟩

/-- The handshake of that request; the upstream sends its two replies. -/
def domainHandshake (lookups : List SocketAddr) :
    Observed Op Resp Text (Option (Except Text HandshakeResult)) :=
  let script : Script :=
    ⟨domainMessage.encode, [5, 0, 5, 0, 0, 1, 0, 0, 0, 0, 0, 0], .ok (), []⟩
  runIn (script.environment lookups) (handshake referenceCrates none socks5hRules) [] 0

/-- The upstream is sent the name, whatever the local resolver would answer. -/
theorem upstream_dns_policy_domain :
    writes .target (domainHandshake []).events = [methodSelection, nameRequest "a.b".toList 80] ∧
      (∀ event ∈ (domainHandshake []).events, event.op.resolvesTarget = false) ∧
      domainHandshake [⟨.v4 ⟨192, 0, 2, 1⟩, 80⟩] = domainHandshake [] := by
  have chosen : domainMessage.chosen socks5hRules =
      some ⟨.socks5h, "10.0.0.9:1080".toList⟩ := by decide +kernel
  have framed : IsFramed ClientMessage.encode (ClientMessage.WellFormed referenceCrates)
      (received .client (domainHandshake []).events) domainMessage [] :=
    ⟨trivial, by decide +kernel⟩
  have agree : ∀ (script : Script) (lookups others : List SocketAddr) history start op deadlines,
      op.resolvesTarget = false →
      (script.environment lookups).react history start op deadlines =
        (script.environment others).react history start op deadlines := by
    intro script lookups others history start op deadlines unresolved
    cases op with
    | readExact | read | writeAll | connectProxy => rfl
    | connectDirect | lookupHost => exact absurd unresolved nofun
  exact ⟨by decide +kernel, (upstream_dns_policy chosen).2 rfl _ _ (agree _ _ _) 0 framed⟩

end SimpleForwarder

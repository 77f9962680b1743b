import SimpleForwarder.ProxyServer.Connect
import SimpleForwarder.ReferenceCrates

/-!
Contract: first-match, fail-closed routing.

Owns: the routing law of `connect_to_target` for every configuration that
`parse_rules` accepts (`connectToTarget_routes`).

The law is stated on the pattern texts of the configuration, not on the parsed
rules. It says which single outbound attempt a run makes and that the outcome
of that attempt is the outcome of the run.

Does not own: the meaning of a pattern text (`RuleMatches`) and the first
match (`Selects`).
-/

namespace SimpleForwarder

open RustText IpText EffectProgram

variable {crates : Crates} {host : Text} {port : UInt16} {resolveHostname isSocks : Bool}
  {ip : Option IpAddr}

/-- The selection is direct exactly if no rule matches. -/
theorem Selects.eq_none_iff {rules : List Rule} {chosen : Option ProxyConfig}
    (selects : Selects crates rules host ip chosen) :
    chosen = none ↔ ∀ rule ∈ rules, ¬ RuleMatches crates rule.matchPatterns host ip := by
  cases chosen with
  | none => exact ⟨fun _ => selects, fun _ => rfl⟩
  | some proxyConfig =>
      obtain ⟨index, rule, found, -⟩ := selects
      refine ⟨nofun, fun unmatched => ?_⟩
      exact absurd found.matched (unmatched rule (List.mem_of_getElem? found.at_index))

theorem AfterAttempt.attempts_eq_nil {chosen : Option ProxyConfig} {result : Outcome Text Bytes}
    {after : List SocketEvent} {outcome : Outcome Text Connection}
    (shape : AfterAttempt isSocks chosen result after outcome) : attempts after = [] := by
  cases shape with
  | established | pending | silent => rfl
  | replied => rfl

/-- A failed attempt fails the run, unless the reply about it is still being
written. -/
theorem AfterAttempt.failed {chosen : Option ProxyConfig} {error : Text} {after : List SocketEvent}
    {outcome : Outcome Text Connection}
    (shape : AfterAttempt isSocks chosen (.failed error) after outcome) :
    outcome = .failed error ∨ outcome = .cut ∧ writes .client after ≠ [] := by
  cases shape with
  | silent => exact .inl rfl
  | replied error errorCode time response socks failure ends =>
      rcases ends with failed | pending
      · exact .inl failed
      · exact .inr ⟨pending, nofun⟩

theorem AfterAttempt.returned {chosen : Option ProxyConfig} {result : Outcome Text Bytes}
    {after : List SocketEvent} {connection : Connection}
    (shape : AfterAttempt isSocks chosen result after (.returned connection)) :
    ∃ leftover, result = .returned leftover ∧ connection = establishedBy leftover chosen := by
  cases shape with
  | established leftover => exact ⟨leftover, rfl, rfl⟩
  | replied error errorCode time response socks failure ends =>
      rcases ends with impossible | impossible
      · exact absurd impossible nofun
      · exact absurd impossible nofun

/-- Every run makes exactly one outbound attempt: to the upstream of the first
configured rule that matches, directly if and only if none does. The run
returns only what that attempt returned, and an attempt that fails is the end
of it. -/
theorem connectToTarget_routes {config : Config} {rules : List (RuleMatcher × ProxyConfig)}
    (accepted : parseRules crates config = .ok rules) {start stop : Nat}
    {events : List SocketEvent} {outcome : Outcome Text Connection}
    (run : Runs (connectToTarget host port resolveHostname ip isSocks rules) start events outcome
      stop) :
    ∃ chosen, Selects crates config.rules host ip chosen ∧
      (chosen = none ↔ ∀ rule ∈ config.rules, ¬ RuleMatches crates rule.matchPatterns host ip) ∧
      attempts events = [outboundOf host port chosen] ∧
      ∃ attempt result middle after, events = attempt ++ after ∧
        Runs (attemptOutbound host port resolveHostname chosen) start attempt result middle ∧
        attempts after = [] ∧
        (∀ connection, outcome = .returned connection →
          ∃ leftover, result = .returned leftover ∧ connection = establishedBy leftover chosen) ∧
        ∀ error, result = .failed error →
          outcome = .failed error ∨ outcome = .cut ∧ writes .client after ≠ [] := by
  have selects : Selects crates config.rules host ip (chosenProxy rules host ip) :=
    selectRule_parseRules accepted host ip
  obtain ⟨attempt, result, middle, after, rfl, attemptRun, shape⟩ := connectToTarget_runs run
  have isAttempt := attemptOutbound_ensures host port resolveHostname (chosenProxy rules host ip)
    _ _ _ _ attemptRun
  refine ⟨chosenProxy rules host ip, selects, selects.eq_none_iff, ?_,
    attempt, result, middle, after, rfl, attemptRun, shape.attempts_eq_nil, ?_, ?_⟩
  · rw [attempts_append, isAttempt.attempts_eq, shape.attempts_eq_nil, List.append_nil]
  · rintro connection rfl
    exact shape.returned
  · rintro error rfl
    exact shape.failed

/-- Two rules that both match `www.google.com`. -/
def twoUpstreams : Config where
  rules := [⟨["*.google.com".toList], "socks5://10.0.0.1:1080".toList⟩,
    ⟨["www.google.com".toList], "http://10.0.0.2:8118".toList⟩]

/-- The upstream of the first rule refuses: the run ends there. -/
theorem connectToTarget_routes_refused :
    ∃ rules, parseRules referenceCrates twoUpstreams = .ok rules ∧
      let run := exec Script.answer 0
        (connectToTarget "www.google.com".toList 443 true none false rules)
        ⟨[], [], .error ⟨.connectionRefused, "refused".toList⟩, []⟩
      ∃ chosen, Selects referenceCrates twoUpstreams.rules "www.google.com".toList none chosen ∧
        attempts run.1 = [outboundOf "www.google.com".toList 443 chosen] := by
  have first : ProxyConfig.fromUrl "socks5://10.0.0.1:1080".toList =
      .ok ⟨.socks5, "10.0.0.1:1080".toList⟩ := by decide +kernel
  have second : ProxyConfig.fromUrl "http://10.0.0.2:8118".toList =
      .ok ⟨.http, "10.0.0.2:8118".toList⟩ := by decide +kernel
  have accepted : parseRules referenceCrates twoUpstreams = .ok
      [(RuleMatcher.new referenceCrates ["*.google.com".toList],
          ⟨.socks5, "10.0.0.1:1080".toList⟩),
        (RuleMatcher.new referenceCrates ["www.google.com".toList],
          ⟨.http, "10.0.0.2:8118".toList⟩)] := by
    unfold parseRules twoUpstreams
    simp only [List.mapM_cons, List.mapM_nil, parseRule, first, second]
    rfl
  refine ⟨_, accepted, ?_⟩
  obtain ⟨chosen, selects, -, attempted, -⟩ :=
    connectToTarget_routes accepted (runs_exec Script.answer 0 _ _)
  exact ⟨chosen, selects, attempted⟩

end SimpleForwarder

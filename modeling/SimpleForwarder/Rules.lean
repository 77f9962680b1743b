import SimpleForwarder.Matcher

/-!
Contract: the rule list of a configuration and the rule a target selects
(`config.rs`, `ProxyConfig::from_url`, `parse_rules` in `main.rs`).

Owns: the configured rules, the accepted upstream URLs, the parsed rule list
in configuration order, and the first match: the rule the parsed list selects
is the lowest one whose pattern texts match the target
(`selectRule_parseRules`).

Does not own: the connection attempt that follows the selection.
-/

namespace SimpleForwarder

open RustText IpText

structure Rule where
  matchPatterns : List Text
  forwardTo : Text
deriving DecidableEq

structure Config where
  rules : List Rule
deriving DecidableEq

inductive ProxyType where
  | socks5
  | socks5h
  | http
deriving DecidableEq

/-- `impl Display for ProxyType`. -/
def ProxyType.toText : ProxyType → Text
  | .socks5 => "socks5".toList
  | .socks5h => "socks5h".toList
  | .http => "http".toList

structure ProxyConfig where
  proxyType : ProxyType
  addr : Text
deriving DecidableEq

/-- `str::strip_prefix`. -/
def stripPrefix (start text : Text) : Option Text :=
  if start.isPrefixOf text then some (text.drop start.length) else none

def backtick : Char := Char.ofNat 0x60

def doubleQuote : Char := Char.ofNat 0x22

/-- The scheme of an upstream URL and what follows it. -/
def ProxyConfig.splitScheme (url : Text) : Option (ProxyType × Text) :=
  match stripPrefix "socks5h://".toList url with
  | some rest => some (.socks5h, rest)
  | none =>
      match stripPrefix "socks5://".toList url with
      | some rest => some (.socks5, rest)
      | none => (stripPrefix "http://".toList url).map fun rest => (.http, rest)

def ProxyConfig.fromUrl (url : Text) : Except Text ProxyConfig :=
  let url := trimMatches (· = doubleQuote) (trimMatches (· = backtick) (trim url))
  match splitScheme url with
  | none => .error ("Unsupported proxy URL: ".toList ++ url)
  | some (proxyType, rest) =>
      if ':' ∈ rest then .ok ⟨proxyType, rest⟩
      else .error ("Proxy address must include a port: ".toList ++ rest)

variable (crates : Crates)

/-- One iteration of `parse_rules`. -/
def parseRule (rule : Rule) : Except Text (RuleMatcher × ProxyConfig) :=
  (ProxyConfig.fromUrl rule.forwardTo).map fun proxyConfig =>
    (RuleMatcher.new crates rule.matchPatterns, proxyConfig)

def parseRules (config : Config) : Except Text (List (RuleMatcher × ProxyConfig)) :=
  config.rules.mapM (parseRule crates)

/-- The rule the loop of `connect_to_target` stops at. -/
def selectRule (rules : List (RuleMatcher × ProxyConfig)) (host : Text) (ip : Option IpAddr) :
    Option (RuleMatcher × ProxyConfig) :=
  rules.find? fun rule => rule.1.matches host ip

theorem selectRule_cons_of_match {rule : RuleMatcher × ProxyConfig}
    {rules : List (RuleMatcher × ProxyConfig)} {host : Text} {ip : Option IpAddr}
    (hit : rule.1.matches host ip = true) : selectRule (rule :: rules) host ip = some rule := by
  unfold selectRule
  rw [List.find?_cons, hit]

theorem selectRule_cons_of_miss {rule : RuleMatcher × ProxyConfig}
    {rules : List (RuleMatcher × ProxyConfig)} {host : Text} {ip : Option IpAddr}
    (missed : rule.1.matches host ip = false) :
    selectRule (rule :: rules) host ip = selectRule rules host ip := by
  unfold selectRule
  rw [List.find?_cons, missed]

/-! ## The first matching rule -/

/-- The rule at `index` matches the target and no rule before it does. -/
structure IsFirstMatch (rules : List Rule) (host : Text) (ip : Option IpAddr) (index : Nat)
    (rule : Rule) : Prop where
  at_index : rules[index]? = some rule
  matched : RuleMatches crates rule.matchPatterns host ip
  first : ∀ earlier < index, ∀ other, rules[earlier]? = some other →
    ¬ RuleMatches crates other.matchPatterns host ip

/-- The upstream a target is sent to by a list of configured rules: that of
the first matching rule, or none. -/
def Selects (rules : List Rule) (host : Text) (ip : Option IpAddr) : Option ProxyConfig → Prop
  | some proxyConfig => ∃ index rule, IsFirstMatch crates rules host ip index rule ∧
      ProxyConfig.fromUrl rule.forwardTo = .ok proxyConfig
  | none => ∀ rule ∈ rules, ¬ RuleMatches crates rule.matchPatterns host ip

variable {crates} {host : Text} {ip : Option IpAddr} {rules : List Rule}

theorem IsFirstMatch.cons {rule other : Rule} {index : Nat}
    (found : IsFirstMatch crates rules host ip index rule)
    (missed : ¬ RuleMatches crates other.matchPatterns host ip) :
    IsFirstMatch crates (other :: rules) host ip (index + 1) rule where
  at_index := found.at_index
  matched := found.matched
  first := by
    intro earlier before
    cases earlier with
    | zero =>
        rintro _ same
        rw [List.getElem?_cons_zero] at same
        rwa [← Option.some.inj same]
    | succ earlier =>
        rw [List.getElem?_cons_succ]
        exact found.first earlier (Nat.lt_of_succ_lt_succ before)

theorem parseRule_eq_ok {rule : Rule} {parsed : RuleMatcher × ProxyConfig}
    (accepted : parseRule crates rule = .ok parsed) :
    parsed.1 = RuleMatcher.new crates rule.matchPatterns ∧
      ProxyConfig.fromUrl rule.forwardTo = .ok parsed.2 := by
  unfold parseRule at accepted
  cases url : ProxyConfig.fromUrl rule.forwardTo with
  | error error =>
      rw [url] at accepted
      exact absurd accepted nofun
  | ok proxyConfig =>
      rw [url] at accepted
      cases accepted
      exact ⟨rfl, rfl⟩

theorem mapM_parseRule_cons {rule : Rule} {parsed : List (RuleMatcher × ProxyConfig)}
    (accepted : (rule :: rules).mapM (parseRule crates) = .ok parsed) :
    ∃ first rest, parsed = first :: rest ∧ parseRule crates rule = .ok first ∧
      rules.mapM (parseRule crates) = .ok rest := by
  rw [List.mapM_cons] at accepted
  cases head : parseRule crates rule with
  | error error =>
      rw [head] at accepted
      exact absurd accepted nofun
  | ok first =>
      rw [head] at accepted
      cases tail : rules.mapM (parseRule crates) with
      | error error =>
          rw [tail] at accepted
          exact absurd accepted nofun
      | ok rest =>
          rw [tail] at accepted
          cases accepted
          exact ⟨first, rest, rfl, rfl, rfl⟩

/-- The parsed list selects the upstream of the first configured rule that
matches. -/
theorem selectRule_parseRules {config : Config} {parsed : List (RuleMatcher × ProxyConfig)}
    (accepted : parseRules crates config = .ok parsed) (host : Text) (ip : Option IpAddr) :
    Selects crates config.rules host ip ((selectRule parsed host ip).map Prod.snd) := by
  obtain ⟨rules⟩ := config
  unfold parseRules at accepted
  dsimp only at accepted ⊢
  induction rules generalizing parsed with
  | nil =>
      cases accepted
      exact nofun
  | cons rule rules inductionHypothesis =>
      obtain ⟨⟨matcher, proxyConfig⟩, rest, rfl, head, tail⟩ := mapM_parseRule_cons accepted
      obtain ⟨matcherEq, url⟩ := parseRule_eq_ok head
      dsimp only at matcherEq url
      subst matcherEq
      have later := inductionHypothesis tail
      have meaning : (RuleMatcher.new crates rule.matchPatterns).matches host ip = true ↔
          RuleMatches crates rule.matchPatterns host ip :=
        RuleMatcher.matches_new_iff rule.matchPatterns
      cases hit : (RuleMatcher.new crates rule.matchPatterns).matches host ip with
      | true =>
          rw [selectRule_cons_of_match hit]
          exact ⟨0, rule, ⟨rfl, meaning.mp hit, fun _ below => absurd below (Nat.not_lt_zero _)⟩,
            url⟩
      | false =>
          have missed : ¬ RuleMatches crates rule.matchPatterns host ip := by
            rw [← meaning, hit]
            exact Bool.false_ne_true
          rw [selectRule_cons_of_miss hit]
          cases selected : selectRule rest host ip with
          | none =>
              rw [selected] at later
              intro other member
              rcases List.mem_cons.mp member with rfl | inRest
              · exact missed
              · exact later other inRest
          | some chosen =>
              rw [selected] at later
              obtain ⟨index, other, found, otherUrl⟩ := later
              exact ⟨index + 1, other, found.cons missed, otherUrl⟩

end SimpleForwarder

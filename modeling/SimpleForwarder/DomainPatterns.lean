import Mathlib.Data.List.Forall2
import Mathlib.Data.List.Infix
import SimpleForwarder.Lib.Glob
import SimpleForwarder.Lib.LetterCase
import SimpleForwarder.ProxyServer.Connect
import SimpleForwarder.ReferenceCrates

/-!
Contract: the domain patterns of a rule.

Owns: the hosts that a `*.domain` pattern covers (`domain_pattern_covers`), and
what letter case does to routing (`case_decides_in_domain_patterns_only`,
`mixed_case_host_is_direct`).

`ExactGlobs` is the documented meaning of `WildMatch`: `*` matches any
characters, `?` any one, and every other character itself and no other.

Does not own: CIDR and address patterns.
-/

namespace SimpleForwarder

open RustText IpText Glob

def globToken (char : Char) : Token Char :=
  if char = '*' then .many else if char = '?' then .one else .literal char

/-- `WildMatch::matches` compares as documented. -/
def ExactGlobs (crates : Crates) : Prop :=
  ∀ pattern host, crates.wildMatch pattern host = true ↔ Accepts (pattern.map globToken) host

/-- A text without wildcards is made of literals. -/
theorem map_globToken {text : Text} (noStar : '*' ∉ text) (noMark : '?' ∉ text) :
    text.map globToken = text.map .literal := by
  apply List.map_congr_left
  intro char member
  unfold globToken
  rw [if_neg, if_neg]
  · rintro rfl
    exact noMark member
  · rintro rfl
    exact noStar member

theorem globMatch_iff (pattern host : Text) :
    globMatch pattern host = true ↔ Accepts (pattern.map globToken) host := by
  induction pattern generalizing host with
  | nil =>
      rw [globMatch, List.isEmpty_iff]
      exact Iff.rfl
  | cons char pattern inductionHypothesis =>
      rw [List.map_cons]
      by_cases star : char = '*'
      · subst star
        rw [globMatch, List.any_eq_true, globToken, if_pos rfl, accepts_many_iff]
        simp only [List.mem_tails, inductionHypothesis]
      · rw [globToken, if_neg star]
        cases host with
        | nil =>
            rw [globMatch]
            · split
              · simp [Accepts]
              · simp [Accepts]
            · exact star
        | cons first host =>
            rw [globMatch]
            · split
              · next mark =>
                  rw [accepts_one_cons_iff, ← inductionHypothesis]
                  simp [mark]
              · next noMark =>
                  rw [accepts_literal_cons_iff, ← inductionHypothesis]
                  simp [noMark]
            · exact star

theorem exactGlobs_referenceCrates : ExactGlobs referenceCrates := globMatch_iff

/-! ## The hosts of a `*.domain` pattern -/

/-- No address starts with a wildcard. -/
theorem parse_star (text : Text) : parse ('*' :: text) = none := by
  have noDigit : ∀ radix ≤ 16, NoDigit radix ('*' :: text) := by
    intro radix small
    apply noDigit_cons
    unfold toDigit
    rw [if_neg]
    exact Nat.not_lt.mpr (Nat.le_trans small (by decide))
  have noIpv4 : readIpv4Addr ('*' :: text) = none :=
    readIpv4Addr_of_noDigit (noDigit 10 (by decide))
  have noSegment : readSegment ('*' :: text) = none := by
    unfold readSegment readNumber
    rw [readDigits_of_noDigit (noDigit 16 (Nat.le_refl 16))]
    rfl
  have noGroups : readGroups 0 8 ('*' :: text) = ([], false, '*' :: text) := by
    rw [readGroups, readSeparator_zero, readSeparator_zero, noIpv4, noSegment]
    rfl
  unfold parse readIpv6Addr
  rw [noIpv4]
  simp only [noGroups]
  rfl

variable {crates : Crates} {domain host : Text} {ip : Option IpAddr}

theorem patternCovers_of_domain {pattern : Text} (noSlash : '/' ∉ pattern)
    (notAddress : parse pattern = none) :
    PatternCovers crates pattern host ip ↔ crates.wildMatch pattern host = true := by
  unfold PatternCovers
  rw [if_neg noSlash, notAddress]

/-- The pattern `*.domain` covers the domain itself and the hosts that end with
a dot and the domain, whatever the address is. A host that does not end with
the domain is not covered, and neither is one in which the domain follows
anything but a dot. -/
theorem domain_pattern_covers (exact : ExactGlobs crates) (nonempty : domain ≠ [])
    (noStar : '*' ∉ domain) (noMark : '?' ∉ domain) (noSlash : '/' ∉ domain)
    (notAddress : parse domain = none) (host : Text) (ip : Option IpAddr) :
    ((RuleMatcher.new crates ["*.".toList ++ domain]).matches host ip = true ↔
        host = domain ∨ '.' :: domain <:+ host) ∧
      (¬ domain <:+ host →
        (RuleMatcher.new crates ["*.".toList ++ domain]).matches host ip = false) ∧
      ∀ front, host = front ++ domain → front ≠ [] → front.getLast? ≠ some '.' →
        (RuleMatcher.new crates ["*.".toList ++ domain]).matches host ip = false := by
  have starNoSlash : '/' ∉ "*.".toList ++ domain := by
    intro member
    rcases List.mem_append.mp member with inStar | inDomain
    · exact absurd inStar (by decide)
    · exact noSlash inDomain
  have root_iff : PatternCovers crates domain host (resolvedIp host ip) ↔ host = domain := by
    rw [patternCovers_of_domain noSlash notAddress, exact, map_globToken noStar noMark,
      accepts_literals_iff]
  have star_iff : PatternCovers crates ("*.".toList ++ domain) host (resolvedIp host ip) ↔
      '.' :: domain <:+ host := by
    have tokens : ("*.".toList ++ domain).map globToken =
        .many :: ('.' :: domain).map .literal := by
      rw [List.map_append, map_globToken noStar noMark]
      rfl
    rw [patternCovers_of_domain starNoSlash (parse_star _), exact, tokens,
      accepts_many_literals_iff]
  have matches_iff : (RuleMatcher.new crates ["*.".toList ++ domain]).matches host ip = true ↔
      host = domain ∨ '.' :: domain <:+ host := by
    rw [RuleMatcher.matches_new_iff]
    unfold RuleMatches PatternMatches
    constructor
    · intro covered
      obtain ⟨pattern, member, covered⟩ := covered
      cases List.mem_singleton.mp member
      rcases covered with direct | ⟨root, -, same, covered⟩
      · exact .inr (star_iff.mp direct)
      · have split : ['*', '.'] ++ domain = ['*', '.'] ++ root := same
        rw [← List.append_cancel_left split] at covered
        exact .inl (root_iff.mp covered)
    · intro covered
      refine ⟨_, List.mem_singleton_self _, ?_⟩
      rcases covered with same | ends
      · exact .inr ⟨domain, nonempty, rfl, root_iff.mpr same⟩
      · exact .inl (star_iff.mpr ends)
  refine ⟨matches_iff, ?_, ?_⟩
  · intro notEnding
    rw [← Bool.not_eq_true, matches_iff]
    intro covered
    rcases covered with rfl | ends
    · exact notEnding List.suffix_rfl
    · exact notEnding ((List.suffix_cons '.' domain).trans ends)
  · intro front split nonemptyFront noDot
    rw [← Bool.not_eq_true, matches_iff]
    intro covered
    rw [split] at covered
    rcases covered with same | ⟨before, ends⟩
    · exact nonemptyFront (List.append_left_eq_self.mp same)
    · have joined : front ++ domain = (before ++ ['.']) ++ domain := by
        rw [← ends, List.append_assoc]
        rfl
      have fronts : front = before ++ ['.'] := List.append_cancel_right joined
      exact noDot (by rw [fronts, List.getLast?_concat])

/-- The example of the documentation. -/
theorem domain_pattern_covers_google :
    (RuleMatcher.new referenceCrates ["*.google.com".toList]).matches
        "www.google.com".toList none = true ∧
      (RuleMatcher.new referenceCrates ["*.google.com".toList]).matches
        "evilgoogle.com".toList none = false := by
  have named : "google.com".toList ≠ [] := by decide
  have covers := fun host => domain_pattern_covers exactGlobs_referenceCrates named (by decide)
    (by decide) (by decide) (by decide) host none
  refine ⟨(covers _).1.mpr (.inr (by decide)), ?_⟩
  exact (covers _).2.2 "evil".toList rfl (by decide) (by decide)

/-! ## Letter case -/

/-- The position of the rule at which the loop of `connect_to_target` stops. -/
def selectedIndex (rules : List (RuleMatcher × ProxyConfig)) (host : Text) (ip : Option IpAddr) :
    Option Nat :=
  rules.findIdx? fun rule => rule.1.matches host ip

/-- The same position and the same upstream, or a direct connection in both. -/
def RoutedAlike (rules otherRules : List (RuleMatcher × ProxyConfig)) (host otherHost : Text)
    (ip : Option IpAddr) : Prop :=
  selectedIndex rules host ip = selectedIndex otherRules otherHost ip ∧
    chosenProxy rules host ip = chosenProxy otherRules otherHost ip

/-- The domain patterns a configured text stands for: itself and the root of
its `*.` form, as far as they are not networks or addresses. -/
def IsDomainPattern (configured pattern : Text) : Prop :=
  (pattern = configured ∨ pattern ≠ [] ∧ configured = ['*', '.'] ++ pattern) ∧
    '/' ∉ pattern ∧ parse pattern = none

/-- Two configured texts that are the same, or two domain patterns that differ
in letter case only. -/
def PatternVariant (configured variant : Text) : Prop :=
  configured = variant ∨
    SameUpToCase configured variant ∧ '/' ∉ configured ∧ parse configured = none

/-- Two rules that differ in the letter case of domain patterns only. -/
structure RuleVariant (rule variant : Rule) : Prop where
  patterns : List.Forall₂ PatternVariant rule.matchPatterns variant.matchPatterns
  forwardTo : rule.forwardTo = variant.forwardTo

/-- The domain patterns of one text match `host` exactly if those of the other
match `otherHost`. -/
def NotToldApart (crates : Crates) (host otherHost configured variant : Text) : Prop :=
  ∀ pattern other, IsDomainPattern configured pattern → IsDomainPattern variant other →
    SameUpToCase pattern other →
    (crates.wildMatch pattern host = true ↔ crates.wildMatch other otherHost = true)

/-- No domain pattern of the rules tells the two hosts apart. -/
def RulesNotToldApart (crates : Crates) (host otherHost : Text) (rules variants : List Rule) :
    Prop :=
  List.Forall₂ (fun rule variant : Rule => List.Forall₂ (NotToldApart crates host otherHost)
    rule.matchPatterns variant.matchPatterns) rules variants

section

variable {otherHost configured variant : Text}

theorem PatternVariant.sameUpToCase (isVariant : PatternVariant configured variant) :
    SameUpToCase configured variant := by
  rcases isVariant with same | ⟨same, -, -⟩
  · exact congrArg foldCase same
  · exact same

theorem PatternVariant.symm (isVariant : PatternVariant configured variant) :
    PatternVariant variant configured := by
  rcases isVariant with same | ⟨same, noSlash, notAddress⟩
  · exact .inl same.symm
  · refine .inr ⟨Eq.symm same, ?_, ?_⟩
    · rwa [← same.mem_iff (by decide)]
    · rwa [← parse_congr same]

theorem NotToldApart.symm (apart : NotToldApart crates host otherHost configured variant) :
    NotToldApart crates otherHost host variant configured := by
  intro pattern other isPattern isOther same
  exact (apart other pattern isOther isPattern (Eq.symm same)).symm

/-- The `*.` form of a text is that of its variant. -/
theorem PatternVariant.root {root : Text} (isVariant : PatternVariant configured variant)
    (starred : configured = ['*', '.'] ++ root) :
    ∃ other, variant = ['*', '.'] ++ other ∧ SameUpToCase root other ∧
      (root = other ∨ '/' ∉ root) := by
  rcases isVariant with same | ⟨same, noSlash, -⟩
  · exact ⟨root, same.symm.trans starred, rfl, .inl rfl⟩
  · have folded : '*' :: '.' :: foldCase root = foldCase variant := by
      rw [← same, starred]
      rfl
    have star : '*'.isAlpha = false := by decide
    have dot : '.'.isAlpha = false := by decide
    cases variant with
    | nil => cases folded
    | cons first rest =>
        obtain ⟨firstEq, folded⟩ := List.cons.inj folded
        cases rest with
        | nil => cases folded
        | cons second other =>
            obtain ⟨secondEq, folded⟩ := List.cons.inj folded
            refine ⟨other, ?_, folded, .inr ?_⟩
            · rw [(toLower_eq_iff star).mp firstEq.symm, (toLower_eq_iff dot).mp secondEq.symm]
              rfl
            · intro member
              rw [starred] at noSlash
              exact noSlash (List.mem_append_right _ member)

theorem PatternCovers.alike {pattern other : Text} (same : SameUpToCase pattern other)
    (network : pattern = other ∨ '/' ∉ pattern)
    (domains : '/' ∉ pattern → parse pattern = none →
      (crates.wildMatch pattern host = true ↔ crates.wildMatch other otherHost = true))
    (covers : PatternCovers crates pattern host ip) :
    PatternCovers crates other otherHost ip := by
  by_cases isNetwork : '/' ∈ pattern
  · rcases network with rfl | noSlash
    · unfold PatternCovers at covers ⊢
      rwa [if_pos isNetwork] at covers ⊢
    · exact absurd isNetwork noSlash
  · have otherSlash : '/' ∉ other := by rwa [← same.mem_iff (by decide)]
    unfold PatternCovers at covers ⊢
    rw [if_neg isNetwork] at covers
    rw [if_neg otherSlash, ← parse_congr same]
    cases address : parse pattern with
    | some address' =>
        rw [address] at covers
        exact covers
    | none =>
        rw [address] at covers
        exact (domains isNetwork address).mp covers

theorem PatternMatches.alike (isVariant : PatternVariant configured variant)
    (apart : NotToldApart crates host otherHost configured variant)
    (matched : PatternMatches crates configured host ip) :
    PatternMatches crates variant otherHost ip := by
  rcases matched with direct | ⟨root, nonempty, starred, covers⟩
  · have same := isVariant.sameUpToCase
    refine .inl (direct.alike same ?_ ?_)
    · rcases isVariant with same | ⟨-, noSlash, -⟩
      · exact .inl same
      · exact .inr noSlash
    · intro noSlash notAddress
      refine apart _ _ ⟨.inl rfl, noSlash, notAddress⟩ ⟨.inl rfl, ?_, ?_⟩ same
      · rwa [← same.mem_iff (by decide)]
      · rwa [← parse_congr same]
  · obtain ⟨other, otherStarred, same, network⟩ := isVariant.root starred
    have otherNonempty : other ≠ [] := by
      rintro rfl
      exact nonempty (List.length_eq_zero_iff.mp same.length_eq)
    refine .inr ⟨other, otherNonempty, otherStarred, covers.alike same network ?_⟩
    intro noSlash notAddress
    refine apart _ _ ⟨.inr ⟨nonempty, starred⟩, noSlash, notAddress⟩
      ⟨.inr ⟨otherNonempty, otherStarred⟩, ?_, ?_⟩ same
    · rwa [← same.mem_iff (by decide)]
    · rwa [← parse_congr same]

/-- The addresses that a rule compares do not depend on the letter case of the
host. -/
theorem resolvedIp_congr (same : SameUpToCase host otherHost) (ip : Option IpAddr) :
    resolvedIp host ip = resolvedIp otherHost ip := by
  unfold resolvedIp
  rw [parse_congr same]

theorem RuleMatches.alike {patterns variants : List Text}
    (areVariants : List.Forall₂ PatternVariant patterns variants)
    (apart : List.Forall₂ (NotToldApart crates host otherHost) patterns variants)
    (same : SameUpToCase host otherHost) (matched : RuleMatches crates patterns host ip) :
    RuleMatches crates variants otherHost ip := by
  obtain ⟨configured, member, patternMatched⟩ := matched
  rw [resolvedIp_congr same] at patternMatched
  induction areVariants with
  | nil => cases member
  | cons isVariant areVariants inductionHypothesis =>
      cases apart with
      | cons firstApart apart =>
          rcases List.mem_cons.mp member with rfl | later
          · exact ⟨_, List.mem_cons_self, patternMatched.alike isVariant firstApart⟩
          · obtain ⟨variant, inVariants, variantMatched⟩ := inductionHypothesis apart later
            exact ⟨variant, List.mem_cons_of_mem _ inVariants, variantMatched⟩

end

/-- Rule lists that match alike at every position route alike. -/
theorem routedAlike_of_forall₂ {rules otherRules : List (RuleMatcher × ProxyConfig)}
    {otherHost : Text}
    (alike : List.Forall₂ (fun rule other : RuleMatcher × ProxyConfig =>
      rule.1.matches host ip = other.1.matches otherHost ip ∧ rule.2 = other.2)
      rules otherRules) : RoutedAlike rules otherRules host otherHost ip := by
  induction alike with
  | nil => exact ⟨rfl, rfl⟩
  | @cons rule other rules otherRules first _ inductionHypothesis =>
      obtain ⟨sameMatch, sameProxy⟩ := first
      obtain ⟨sameIndex, sameChoice⟩ := inductionHypothesis
      unfold selectedIndex at sameIndex
      unfold chosenProxy selectRule at sameChoice
      unfold RoutedAlike selectedIndex chosenProxy selectRule
      rw [List.findIdx?_cons, List.findIdx?_cons, List.find?_cons, List.find?_cons, sameMatch]
      cases other.1.matches otherHost ip with
      | true => exact ⟨rfl, congrArg some sameProxy⟩
      | false => exact ⟨congrArg (Option.map (· + 1)) sameIndex, sameChoice⟩

theorem forall₂_parseRule {rules : List Rule} {parsed : List (RuleMatcher × ProxyConfig)}
    (accepted : rules.mapM (parseRule crates) = .ok parsed) :
    List.Forall₂ (fun rule entry => parseRule crates rule = .ok entry) rules parsed := by
  induction rules generalizing parsed with
  | nil =>
      cases accepted
      exact .nil
  | cons rule rules inductionHypothesis =>
      obtain ⟨first, rest, rfl, head, tail⟩ := mapM_parseRule_cons accepted
      exact .cons head (inductionHypothesis tail)

theorem routedAlike_of_variants {config other : Config}
    {rules otherRules : List (RuleMatcher × ProxyConfig)} {otherHost : Text}
    (accepted : parseRules crates config = .ok rules)
    (otherAccepted : parseRules crates other = .ok otherRules)
    (areVariants : List.Forall₂ RuleVariant config.rules other.rules)
    (same : SameUpToCase host otherHost)
    (apart : RulesNotToldApart crates host otherHost config.rules other.rules) :
    RoutedAlike rules otherRules host otherHost ip := by
  apply routedAlike_of_forall₂
  have parsed := forall₂_parseRule accepted
  have otherParsed := forall₂_parseRule otherAccepted
  unfold RulesNotToldApart at apart
  clear accepted otherAccepted
  revert apart parsed otherParsed
  generalize config.rules = configured at areVariants
  generalize other.rules = variants at areVariants
  intro apart parsed otherParsed
  induction areVariants generalizing rules otherRules with
  | nil =>
      cases parsed
      cases otherParsed
      exact .nil
  | @cons rule variant configured variants isVariant _ inductionHypothesis =>
      cases apart with
      | cons firstApart apart =>
          cases parsed with
          | @cons _ entry _ rest head tail =>
              cases otherParsed with
              | @cons _ otherEntry _ otherRest otherHead otherTail =>
                  obtain ⟨matcher, url⟩ := parseRule_eq_ok head
                  obtain ⟨otherMatcher, otherUrl⟩ := parseRule_eq_ok otherHead
                  refine .cons ⟨?_, ?_⟩ (inductionHypothesis apart tail otherTail)
                  · rw [matcher, otherMatcher, Bool.eq_iff_iff, RuleMatcher.matches_new_iff,
                      RuleMatcher.matches_new_iff]
                    constructor
                    · exact RuleMatches.alike isVariant.patterns firstApart same
                    · exact RuleMatches.alike (isVariant.patterns.flip.imp fun _ _ => .symm)
                        (firstApart.flip.imp fun _ _ => .symm) (Eq.symm same)
                  · rw [isVariant.forwardTo, otherUrl] at url
                    exact (Except.ok.inj url).symm

theorem globToken_toLower (char : Char) :
    globToken char.toLower = (globToken char).map Char.toLower := by
  have star : '*'.isAlpha = false := by decide
  have mark : '?'.isAlpha = false := by decide
  unfold globToken
  simp only [toLower_eq_iff star, toLower_eq_iff mark]
  split
  · rfl
  · split
    · rfl
    · rfl

theorem map_globToken_foldCase (text : Text) :
    (foldCase text).map globToken = (text.map globToken).map (Token.map Char.toLower) := by
  unfold foldCase
  rw [List.map_map, List.map_map]
  apply List.map_congr_left
  intro char _
  exact globToken_toLower char

theorem literal_mem_map_globToken {text : Text} {char : Char}
    (member : Token.literal char ∈ text.map globToken) : char ∈ text := by
  obtain ⟨other, inText, token⟩ := List.mem_map.mp member
  unfold globToken at token
  split at token
  · cases token
  · split at token
    · cases token
    · cases token
      exact inText

/-- A pattern without letters does not tell apart what differs in letter case. -/
theorem wildMatch_congr_host (exact : ExactGlobs crates) {pattern otherHost : Text}
    (noLetter : ∀ char ∈ pattern, char.isAlpha = false) (same : SameUpToCase host otherHost) :
    crates.wildMatch pattern host = true ↔ crates.wildMatch pattern otherHost = true := by
  rw [exact, exact]
  apply accepts_congr same
  intro char member other sameLower
  exact eq_of_toLower_eq (noLetter char (literal_mem_map_globToken member)) sameLower

/-- Patterns that differ in letter case agree on a host without letters. -/
theorem wildMatch_congr_pattern (exact : ExactGlobs crates) {pattern other : Text}
    (noLetter : ∀ char ∈ host, char.isAlpha = false) (same : SameUpToCase pattern other) :
    crates.wildMatch pattern host = true ↔ crates.wildMatch other host = true := by
  rw [exact, exact]
  have sameTokens : (pattern.map globToken).map (Token.map Char.toLower) =
      (other.map globToken).map (Token.map Char.toLower) := by
    rw [← map_globToken_foldCase, same, map_globToken_foldCase]
  apply accepts_congr_tokens sameTokens
  intro char member other sameLower
  exact (eq_of_toLower_eq (noLetter char member) sameLower.symm).symm

/-- Of two patterns of one text that differ in letter case, both are the same. -/
theorem IsDomainPattern.eq {configured pattern other : Text}
    (isPattern : IsDomainPattern configured pattern) (isOther : IsDomainPattern configured other)
    (same : SameUpToCase pattern other) : pattern = other := by
  have lengths := same.length_eq
  rcases isPattern.1 with rfl | ⟨-, starred⟩
  · rcases isOther.1 with rfl | ⟨-, otherStarred⟩
    · rfl
    · rw [otherStarred, List.length_append, List.length_cons] at lengths
      omega
  · rcases isOther.1 with rfl | ⟨-, otherStarred⟩
    · rw [starred, List.length_append, List.length_cons] at lengths
      omega
    · rw [starred] at otherStarred
      exact List.append_cancel_left otherStarred

theorem rulesNotToldApart_of_letterless (exact : ExactGlobs crates) {rules : List Rule}
    {otherHost : Text} (same : SameUpToCase host otherHost)
    (noLetter : ∀ rule ∈ rules, ∀ configured ∈ rule.matchPatterns, ∀ pattern,
      IsDomainPattern configured pattern → ∀ char ∈ pattern, char.isAlpha = false) :
    RulesNotToldApart crates host otherHost rules rules := by
  apply List.forall₂_same.mpr
  intro rule inRules
  apply List.forall₂_same.mpr
  intro configured inRule pattern other isPattern isOther samePattern
  rw [← isPattern.eq isOther samePattern]
  exact wildMatch_congr_host exact (noLetter rule inRules configured inRule pattern isPattern) same

theorem rulesNotToldApart_of_letterless_host (exact : ExactGlobs crates)
    {rules variants : List Rule} (areVariants : List.Forall₂ RuleVariant rules variants)
    (noLetter : ∀ char ∈ host, char.isAlpha = false) :
    RulesNotToldApart crates host host rules variants := by
  refine areVariants.imp fun rule variant isVariant => isVariant.patterns.imp ?_
  intro configured variant _ pattern other _ _ same
  exact wildMatch_congr_pattern exact noLetter same

theorem RuleVariant.refl (rule : Rule) : RuleVariant rule rule :=
  ⟨List.forall₂_same.mpr fun _ _ => .inl rfl, rfl⟩

/-- Letter case decides in domain patterns only. Two hosts that differ in
letter case, and two rule lists whose domain patterns do, are routed alike
unless a domain pattern tells the hosts apart. That cannot be if the patterns
have no letters, or if the lists differ but the host has no letters. The condition
is on all patterns; those behind the rule that decides do not matter. -/
theorem case_decides_in_domain_patterns_only (exact : ExactGlobs crates) :
    (∀ (config variant : Config) (rules variantRules : List (RuleMatcher × ProxyConfig))
      (host otherHost : Text) (ip : Option IpAddr),
      parseRules crates config = .ok rules → parseRules crates variant = .ok variantRules →
      List.Forall₂ RuleVariant config.rules variant.rules → SameUpToCase host otherHost →
      RulesNotToldApart crates host otherHost config.rules variant.rules →
      RoutedAlike rules variantRules host otherHost ip) ∧
    (∀ (config : Config) (rules : List (RuleMatcher × ProxyConfig)) (host otherHost : Text)
      (ip : Option IpAddr),
      parseRules crates config = .ok rules → SameUpToCase host otherHost →
      (∀ rule ∈ config.rules, ∀ configured ∈ rule.matchPatterns, ∀ pattern,
        IsDomainPattern configured pattern → ∀ char ∈ pattern, char.isAlpha = false) →
      RoutedAlike rules rules host otherHost ip) ∧
    ∀ (config variant : Config) (rules variantRules : List (RuleMatcher × ProxyConfig))
      (host : Text) (ip : Option IpAddr),
      parseRules crates config = .ok rules → parseRules crates variant = .ok variantRules →
      List.Forall₂ RuleVariant config.rules variant.rules →
      (∀ char ∈ host, char.isAlpha = false) → RoutedAlike rules variantRules host host ip := by
  refine ⟨?_, ?_, ?_⟩
  · intro config variant rules variantRules host otherHost ip accepted variantAccepted areVariants
      same apart
    exact routedAlike_of_variants accepted variantAccepted areVariants same apart
  · intro config rules host otherHost ip accepted same noLetter
    have sameRules : List.Forall₂ RuleVariant config.rules config.rules :=
      List.forall₂_same.mpr fun rule _ => RuleVariant.refl rule
    exact routedAlike_of_variants accepted accepted sameRules same
      (rulesNotToldApart_of_letterless exact same noLetter)
  · intro config variant rules variantRules host ip accepted variantAccepted areVariants noLetter
    exact routedAlike_of_variants accepted variantAccepted areVariants rfl
      (rulesNotToldApart_of_letterless_host exact areVariants noLetter)

/-- Everything below a domain goes through one upstream. -/
def oneDomain (pattern : Text) : Config where
  rules := [⟨[pattern], "socks5://10.0.0.1:1080".toList⟩]

theorem parseRules_oneDomain (crates : Crates) (pattern : Text) :
    parseRules crates (oneDomain pattern) =
      .ok [(RuleMatcher.new crates [pattern], ⟨.socks5, "10.0.0.1:1080".toList⟩)] := by
  have url : ProxyConfig.fromUrl "socks5://10.0.0.1:1080".toList =
      .ok ⟨.socks5, "10.0.0.1:1080".toList⟩ := by decide +kernel
  unfold parseRules oneDomain
  simp only [List.mapM_cons, List.mapM_nil, parseRule, url]
  rfl

/-- One capital letter in a host sends it around the upstream. -/
theorem mixed_case_host_is_direct :
    ¬ ∀ (crates : Crates), ExactGlobs crates →
      ∀ (config : Config) (rules : List (RuleMatcher × ProxyConfig)) (host otherHost : Text)
        (ip : Option IpAddr),
        parseRules crates config = .ok rules → SameUpToCase host otherHost →
        RoutedAlike rules rules host otherHost ip := by
  intro claimed
  have alike := claimed referenceCrates exactGlobs_referenceCrates (oneDomain "*.google.com".toList)
    _ "www.google.com".toList "www.Google.com".toList none (parseRules_oneDomain _ _) (by decide)
  exact absurd alike.1 (by decide)

/-- The pattern has no letters, so the letters of the host do not matter. -/
theorem case_decides_in_domain_patterns_only_letterless :
    RoutedAlike
      [(RuleMatcher.new referenceCrates ["*.123".toList], ⟨.socks5, "10.0.0.1:1080".toList⟩)]
      [(RuleMatcher.new referenceCrates ["*.123".toList], ⟨.socks5, "10.0.0.1:1080".toList⟩)]
      "Www.123".toList "wWW.123".toList none := by
  apply (case_decides_in_domain_patterns_only exactGlobs_referenceCrates).2.1
    (oneDomain "*.123".toList) _ _ _ _ (parseRules_oneDomain _ _) (by decide)
  intro rule inRules configured inRule pattern isPattern char member
  cases List.mem_singleton.mp inRules
  cases List.mem_singleton.mp inRule
  have inConfigured : char ∈ "*.123".toList := by
    rcases isPattern.1 with rfl | ⟨-, starred⟩
    · exact member
    · rw [starred]
      exact List.mem_append_right _ member
  have letterless : ("*.123".toList.all fun char => !char.isAlpha) = true := by decide
  have plain := List.all_eq_true.mp letterless char inConfigured
  simpa using plain

end SimpleForwarder

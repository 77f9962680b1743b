import SimpleForwarder.Lib.IpAddr

/-!
Contract: the patterns of a rule and what they match (`matcher.rs`).

Owns: the three third-party parsers the program relies on, the parsing of a
rule's patterns with the `*.` expansion, the match of a host with an optional
address, and the agreement of that match with the meaning of the pattern
texts (`RuleMatcher.matches_new_iff`).

`ipnet`, `wildmatch` and `http::Uri` are not part of the repository. `Crates`
holds what the program calls of them; no law is assumed here.

Does not own: the order in which rules are tried.
-/

namespace SimpleForwarder

open RustText IpText

/-- The parts of an `http::Uri` the program reads. -/
structure Uri where
  host : Option Text
  portU16 : Option UInt16
  path : Text
  query : Option Text
deriving DecidableEq

/-- The third-party functions: `IpNet::from_str` with `IpNet::contains`,
`WildMatch::new` with `WildMatch::matches`, and `Uri::from_str`. -/
structure Crates where
  parseIpNet : Text → Option (IpAddr → Bool)
  wildMatch : Text → Text → Bool
  parseUri : Text → Option Uri

inductive Pattern where
  | domain (matcher : Text → Bool)
  | ip (address : IpAddr)
  | cidr (contains : IpAddr → Bool)

structure RuleMatcher where
  patterns : List Pattern

variable (crates : Crates)

def RuleMatcher.parsePattern (pattern : Text) : Option Pattern :=
  if '/' ∈ pattern then (crates.parseIpNet pattern).map .cidr
  else
    match parse pattern with
    | some address => some (.ip address)
    | none => some (.domain (crates.wildMatch pattern))

/-- The patterns one configured text contributes: `*.domain.com` stands for
itself and for `domain.com`. -/
def RuleMatcher.expand (pattern : Text) : List Pattern :=
  if ['*', '.'].isPrefixOf pattern ∧ (asBytes pattern).length > 2 then
    (parsePattern crates pattern).toList ++ (parsePattern crates (pattern.drop 2)).toList
  else (parsePattern crates pattern).toList

def RuleMatcher.new (patterns : List Text) : RuleMatcher :=
  ⟨patterns.flatMap (expand crates)⟩

def RuleMatcher.matchPattern (pattern : Pattern) (host : Text) (ip : Option IpAddr) : Bool :=
  match pattern with
  | .domain matcher => matcher host
  | .ip patternIp =>
      match ip with
      | some ip => ip = patternIp
      | none => false
  | .cidr contains =>
      match ip with
      | some ip => contains ip
      | none => false

/-- `ip.or_else(|| host.parse().ok())`. -/
def resolvedIp (host : Text) (ip : Option IpAddr) : Option IpAddr := ip.or (parse host)

def RuleMatcher.matches (matcher : RuleMatcher) (host : Text) (ip : Option IpAddr) : Bool :=
  matcher.patterns.any fun pattern => matchPattern pattern host (resolvedIp host ip)

/-! ## What a pattern text means -/

/-- A pattern text read without expansion: a network, an address or a glob. -/
def PatternCovers (pattern host : Text) (ip : Option IpAddr) : Prop :=
  if '/' ∈ pattern then
    ∃ contains address, crates.parseIpNet pattern = some contains ∧ ip = some address ∧
      contains address = true
  else
    match parse pattern with
    | some address => ip = some address
    | none => crates.wildMatch pattern host = true

/-- A pattern text with the `*.` form covering the bare domain as well. -/
def PatternMatches (pattern host : Text) (ip : Option IpAddr) : Prop :=
  PatternCovers crates pattern host ip ∨
    ∃ root, root ≠ [] ∧ pattern = ['*', '.'] ++ root ∧ PatternCovers crates root host ip

/-- A rule matches a target through one of its pattern texts. -/
def RuleMatches (patterns : List Text) (host : Text) (ip : Option IpAddr) : Prop :=
  ∃ pattern ∈ patterns, PatternMatches crates pattern host (resolvedIp host ip)

namespace RuleMatcher

variable {crates : Crates} {host : Text} {ip : Option IpAddr}

theorem any_parsePattern_iff (pattern : Text) :
    ((parsePattern crates pattern).toList.any fun parsed => matchPattern parsed host ip) = true ↔
      PatternCovers crates pattern host ip := by
  unfold parsePattern PatternCovers
  split
  · cases parsed : crates.parseIpNet pattern with
    | none => simp
    | some contains => cases ip <;> simp [matchPattern]
  · cases parsed : parse pattern with
    | none => simp [matchPattern]
    | some address => cases ip <;> simp [matchPattern]

theorem one_le_length_utf8EncodeChar (char : Char) : 1 ≤ (String.utf8EncodeChar char).length := by
  have positive := char.utf8Size_pos
  rwa [String.length_utf8EncodeChar]

/-- The length test of the expansion asks for a nonempty root. -/
theorem expands_iff {pattern : Text} :
    (['*', '.'].isPrefixOf pattern ∧ (asBytes pattern).length > 2) ↔
      ∃ root, root ≠ [] ∧ pattern = ['*', '.'] ++ root := by
  rw [List.isPrefixOf_iff_prefix]
  constructor
  · rintro ⟨⟨root, rfl⟩, long⟩
    refine ⟨root, ?_, rfl⟩
    rintro rfl
    exact absurd long (by decide)
  · rintro ⟨root, nonempty, rfl⟩
    refine ⟨⟨root, rfl⟩, ?_⟩
    obtain ⟨first, rest, rfl⟩ := List.exists_cons_of_ne_nil nonempty
    have encoded := one_le_length_utf8EncodeChar first
    have star : (asBytes ['*', '.']).length = 2 := by decide
    rw [asBytes_append, List.length_append, star, asBytes_cons, List.length_append]
    omega

theorem any_expand_iff (pattern : Text) :
    ((expand crates pattern).any fun parsed => matchPattern parsed host ip) = true ↔
      PatternMatches crates pattern host ip := by
  unfold expand PatternMatches
  split
  · next expands =>
      obtain ⟨root, nonempty, rfl⟩ := expands_iff.mp expands
      have bare : (['*', '.'] ++ root).drop 2 = root := rfl
      rw [List.any_append, Bool.or_eq_true, any_parsePattern_iff, any_parsePattern_iff, bare]
      refine or_congr_right ⟨fun covers => ⟨root, nonempty, rfl, covers⟩, ?_⟩
      rintro ⟨other, -, same, covers⟩
      rwa [List.append_cancel_left same]
  · next plain =>
      rw [any_parsePattern_iff]
      refine (or_iff_left ?_).symm
      rintro ⟨root, nonempty, rfl, -⟩
      exact plain (expands_iff.mpr ⟨root, nonempty, rfl⟩)

/-- The parsed rule matches exactly the targets its pattern texts cover. -/
theorem matches_new_iff (patterns : List Text) :
    (new crates patterns).matches host ip = true ↔ RuleMatches crates patterns host ip := by
  unfold RuleMatcher.matches new RuleMatches
  rw [List.any_flatMap, List.any_eq_true]
  simp only [any_expand_iff]

end RuleMatcher

end SimpleForwarder

import Mathlib.Data.List.Basic
import SimpleForwarder.Lib.IpAddr

/-!
Contract: addresses of the form `host:port`.

Owns: domain names, hosts, ports and the addresses made of them, a check for
each, and that the check of an address at its last colon decides whether it is
one (`hostPortCheck_iff`).

A domain name has labels of ASCII letters, digits, hyphens and underscores; its
last label is not a number, so that dotted numbers are read as addresses only.

Does not own: name resolution, and any URL around an address.
-/

namespace HostPort

open RustText IpText

/-! ## Domain names -/

def isLabelChar (char : Char) : Bool := char.isAlphanum || char = '-' || char = '_'

def IsLabel (label : Text) : Prop :=
  (1 ≤ label.length ∧ label.length ≤ 63) ∧ label.all isLabelChar = true ∧
    label.head? ≠ some '-' ∧ label.getLast? ≠ some '-'

instance (label : Text) : Decidable (IsLabel label) :=
  inferInstanceAs (Decidable (_ ∧ _ ∧ _ ∧ _))

/-- The text of the labels, with dots between them. -/
def dotted (labels : List Text) : Text := ['.'].intercalate labels

structure AreLabels (labels : List Text) : Prop where
  nonempty : labels ≠ []
  each : ∀ label ∈ labels, IsLabel label
  notNumber : labels.getLast?.any (fun label => label.all Char.isDigit) = false
  size : (dotted labels).length ≤ 253

instance (labels : List Text) : Decidable (AreLabels labels) :=
  decidable_of_iff
    (labels ≠ [] ∧ (∀ label ∈ labels, IsLabel label) ∧
      labels.getLast?.any (fun label => label.all Char.isDigit) = false ∧
      (dotted labels).length ≤ 253)
    ⟨fun parts => ⟨parts.1, parts.2.1, parts.2.2.1, parts.2.2.2⟩,
      fun labelled => ⟨labelled.nonempty, labelled.each, labelled.notNumber, labelled.size⟩⟩

/-- A domain name may end with the dot of the root, an empty label. -/
inductive IsDomainName : Text → Prop where
  | relative {labels : List Text} (labelled : AreLabels labels) : IsDomainName (dotted labels)
  | rooted {labels : List Text} (labelled : AreLabels labels) :
      IsDomainName (dotted (labels ++ [[]]))

def domainNameCheck (name : Text) : Bool :=
  let labels := name.splitOn '.'
  decide (AreLabels labels) ||
    (labels.getLast? = some [] && decide (AreLabels labels.dropLast))

theorem dot_not_mem_of_isLabel {label : Text} (isLabel : IsLabel label) : '.' ∉ label := by
  intro member
  have isChar := List.all_eq_true.mp isLabel.2.1 '.' member
  exact absurd isChar (by decide)

theorem domainNameCheck_iff {name : Text} : domainNameCheck name = true ↔ IsDomainName name := by
  have joined : dotted (name.splitOn '.') = name := List.intercalate_splitOn '.'
  unfold domainNameCheck
  dsimp only
  rw [Bool.or_eq_true, Bool.and_eq_true, decide_eq_true_eq, decide_eq_true_eq, decide_eq_true_eq]
  constructor
  · intro accepted
    cases accepted with
    | inl labelled =>
        rw [← joined]
        exact .relative labelled
    | inr root =>
        have split : (name.splitOn '.').dropLast ++ [[]] = name.splitOn '.' :=
          List.dropLast_append_getLast? [] root.1
        rw [← joined, ← split]
        exact .rooted root.2
  · intro isName
    cases isName with
    | @relative labels labelled =>
        left
        have split : (dotted labels).splitOn '.' = labels :=
          List.splitOn_intercalate '.' (fun label member =>
            dot_not_mem_of_isLabel (labelled.each label member)) labelled.nonempty
        rwa [split]
    | @rooted labels labelled =>
        right
        have noDot : ∀ label ∈ labels ++ [[]], '.' ∉ label := by
          intro label member
          rcases List.mem_append.mp member with inside | root
          · exact dot_not_mem_of_isLabel (labelled.each label inside)
          · rw [List.mem_singleton.mp root]
            exact List.not_mem_nil
        have split : (dotted (labels ++ [[]])).splitOn '.' = labels ++ [[]] :=
          List.splitOn_intercalate '.' noDot (by simp)
        rw [split]
        simpa using labelled

/-! ## Hosts and ports -/

/-- A domain name, an IPv4 literal, or an IPv6 literal in brackets. -/
inductive IsHost : Text → Prop where
  | domainName {name : Text} (isName : IsDomainName name) : IsHost name
  | ipv4 {text : Text} {addr : Ipv4Addr} (reads : parse text = some (.v4 addr)) : IsHost text
  | ipv6 {text : Text} {addr : Ipv6Addr} (reads : parse text = some (.v6 addr)) :
      IsHost ('[' :: (text ++ [']']))

def isIpv4 : Option IpAddr → Bool
  | some (.v4 _) => true
  | _ => false

def isIpv6 : Option IpAddr → Bool
  | some (.v6 _) => true
  | _ => false

/-- The text between a pair of brackets. -/
def unbracket : Text → Option Text
  | '[' :: rest => if rest.getLast? = some ']' then some rest.dropLast else none
  | _ => none

def hostCheck (host : Text) : Bool :=
  domainNameCheck host || isIpv4 (parse host) || (unbracket host).any fun text =>
    isIpv6 (parse text)

theorem isIpv4_iff {parsed : Option IpAddr} :
    isIpv4 parsed = true ↔ ∃ addr, parsed = some (.v4 addr) := by
  cases parsed with
  | none => simp [isIpv4]
  | some addr => cases addr <;> simp [isIpv4]

theorem isIpv6_iff {parsed : Option IpAddr} :
    isIpv6 parsed = true ↔ ∃ addr, parsed = some (.v6 addr) := by
  cases parsed with
  | none => simp [isIpv6]
  | some addr => cases addr <;> simp [isIpv6]

theorem unbracket_eq_some_iff {host text : Text} :
    unbracket host = some text ↔ host = '[' :: (text ++ [']']) := by
  constructor
  · intro unbracketed
    unfold unbracket at unbracketed
    split at unbracketed
    next rest =>
      split at unbracketed
      next closed =>
        rw [← Option.some.inj unbracketed, List.dropLast_append_getLast? ']' closed]
      next => exact absurd unbracketed nofun
    next => exact absurd unbracketed nofun
  · intro shape
    subst shape
    simp [unbracket]

theorem hostCheck_iff {host : Text} : hostCheck host = true ↔ IsHost host := by
  unfold hostCheck
  rw [Bool.or_eq_true, Bool.or_eq_true, domainNameCheck_iff, isIpv4_iff, Option.any_eq_true]
  constructor
  · intro accepted
    rcases accepted with (isName | v4) | bracketed
    · exact .domainName isName
    · obtain ⟨addr, reads⟩ := v4
      exact .ipv4 reads
    · obtain ⟨text, inside, isV6⟩ := bracketed
      obtain ⟨addr, reads⟩ := isIpv6_iff.mp isV6
      rw [unbracket_eq_some_iff.mp inside]
      exact .ipv6 reads
  · intro isHost
    cases isHost with
    | domainName isName => exact .inl (.inl isName)
    | ipv4 reads => exact .inl (.inr ⟨_, reads⟩)
    | ipv6 reads =>
        exact .inr ⟨_, unbracket_eq_some_iff.mpr rfl, isIpv6_iff.mpr ⟨_, reads⟩⟩

/-- Decimal digits whose value is a port other than 0. -/
def IsPort (port : Text) : Prop :=
  port.all Char.isDigit = true ∧ 1 ≤ Nat.ofDigitChars 10 port 0 ∧
    Nat.ofDigitChars 10 port 0 ≤ 65535

instance (port : Text) : Decidable (IsPort port) :=
  inferInstanceAs (Decidable (_ ∧ _ ∧ _))

theorem colon_not_mem_of_isPort {port : Text} (isPort : IsPort port) : ':' ∉ port := by
  intro member
  have digit := List.all_eq_true.mp isPort.1 ':' member
  exact absurd digit (by decide)

/-! ## Addresses -/

/-- `host:port` with nothing before, between or after. -/
def IsHostPort (addr : Text) : Prop :=
  ∃ host port, addr = host ++ ':' :: port ∧ IsHost host ∧ IsPort port

/-- The address split at its last colon. -/
def hostPortCheck (addr : Text) : Bool :=
  (rsplitOnce ':' addr).any fun parts => hostCheck parts.1 && decide (IsPort parts.2)

theorem hostPortCheck_iff {addr : Text} : hostPortCheck addr = true ↔ IsHostPort addr := by
  unfold hostPortCheck
  rw [Option.any_eq_true]
  constructor
  · intro accepted
    obtain ⟨parts, split, checked⟩ := accepted
    rw [Bool.and_eq_true, hostCheck_iff, decide_eq_true_eq] at checked
    exact ⟨parts.1, parts.2, (rsplitOnce_eq_some_iff.mp split).1, checked.1, checked.2⟩
  · intro isHostPort
    obtain ⟨host, port, shape, isHost, isPort⟩ := isHostPort
    refine ⟨(host, port), ?_, ?_⟩
    · exact rsplitOnce_eq_some_iff.mpr ⟨shape, colon_not_mem_of_isPort isPort⟩
    · rw [Bool.and_eq_true, hostCheck_iff, decide_eq_true_eq]
      exact ⟨isHost, isPort⟩

end HostPort

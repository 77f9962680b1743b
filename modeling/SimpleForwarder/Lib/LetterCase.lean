import SimpleForwarder.Lib.IpAddr

/-!
Contract: texts up to ASCII letter case.

Owns: the lower-case form of a text, texts that differ in ASCII letter case
only, the characters that this comparison tells apart, and the fact that the
address parser does not depend on letter case (`parse_foldCase`).

Does not own: the letter case of bytes, and of letters beyond ASCII.
-/

namespace IpText

open RustText

/-- The lower-case form, `str::to_ascii_lowercase`. -/
def foldCase (text : Text) : Text := text.map Char.toLower

/-- Equality up to ASCII letter case, `str::eq_ignore_ascii_case`. -/
def SameUpToCase (left right : Text) : Prop := foldCase left = foldCase right

instance (left right : Text) : Decidable (SameUpToCase left right) :=
  inferInstanceAs (Decidable (foldCase left = foldCase right))

@[simp] theorem foldCase_cons (char : Char) (text : Text) :
    foldCase (char :: text) = char.toLower :: foldCase text := rfl

theorem foldCase_eq_nil_iff {text : Text} : foldCase text = [] ↔ text = [] := List.map_eq_nil_iff

/-! ## Characters -/

theorem toNat_toLower (char : Char) :
    char.toLower.toNat =
      if 65 ≤ char.toNat ∧ char.toNat ≤ 90 then char.toNat + 32 else char.toNat := by
  have upper_iff : (char.val ≥ 'A'.val ∧ char.val ≤ 'Z'.val) ↔
      65 ≤ char.toNat ∧ char.toNat ≤ 90 := Iff.rfl
  unfold Char.toLower
  split
  · next upper =>
      have bounds := upper_iff.mp upper
      rw [if_pos bounds]
      change (char.val.toNat + 32) % 2 ^ 32 = char.toNat + 32
      apply Nat.mod_eq_of_lt
      have small : char.val.toNat ≤ 90 := bounds.2
      omega
  · next notUpper => rw [if_neg fun bounds => notUpper (upper_iff.mpr bounds)]

theorem isAlpha_iff {char : Char} :
    char.isAlpha = true ↔
      (65 ≤ char.toNat ∧ char.toNat ≤ 90) ∨ (97 ≤ char.toNat ∧ char.toNat ≤ 122) := by
  have upper_iff : char.isUpper = true ↔ 65 ≤ char.toNat ∧ char.toNat ≤ 90 := by
    show decide (char.val ≥ 'A'.val ∧ char.val ≤ 'Z'.val) = true ↔ _
    rw [decide_eq_true_eq]
    exact Iff.rfl
  have lower_iff : char.isLower = true ↔ 97 ≤ char.toNat ∧ char.toNat ≤ 122 := by
    show (decide (char.val ≥ 'a'.val) && decide (char.val ≤ 'z'.val)) = true ↔ _
    rw [Bool.and_eq_true, decide_eq_true_eq, decide_eq_true_eq]
    exact Iff.rfl
  show (char.isUpper || char.isLower) = true ↔ _
  rw [Bool.or_eq_true, upper_iff, lower_iff]

/-- A character that is no letter has no other case. -/
theorem eq_of_toLower_eq {char other : Char} (plain : char.isAlpha = false)
    (same : char.toLower = other.toLower) : char = other := by
  have codes := congrArg Char.toNat same
  rw [toNat_toLower, toNat_toLower] at codes
  have notLetter : ¬ char.isAlpha = true := Bool.eq_false_iff.mp plain
  rw [isAlpha_iff] at notLetter
  apply Char.toNat_inj.mp
  split at codes
  · split at codes
    · omega
    · omega
  · split at codes
    · omega
    · omega

theorem toLower_eq_iff {char other : Char} (plain : other.isAlpha = false) :
    char.toLower = other ↔ char = other := by
  have fixed : other.toLower = other := by
    apply Char.toNat_inj.mp
    rw [toNat_toLower, if_neg]
    intro upper
    have letter := isAlpha_iff.mpr (.inl upper)
    exact absurd letter (Bool.eq_false_iff.mp plain)
  constructor
  · intro same
    exact (eq_of_toLower_eq plain (fixed.trans same.symm)).symm
  · intro same
    rw [same, fixed]

theorem mem_foldCase_iff {text : Text} {char : Char} (plain : char.isAlpha = false) :
    char ∈ foldCase text ↔ char ∈ text := by
  unfold foldCase
  rw [List.mem_map]
  simp only [toLower_eq_iff plain, exists_eq_right]

theorem SameUpToCase.length_eq {left right : Text} (same : SameUpToCase left right) :
    left.length = right.length := by
  have lengths := congrArg List.length same
  unfold foldCase at lengths
  rwa [List.length_map, List.length_map] at lengths

theorem SameUpToCase.mem_iff {left right : Text} {char : Char} (plain : char.isAlpha = false)
    (same : SameUpToCase left right) : char ∈ left ↔ char ∈ right := by
  rw [← mem_foldCase_iff plain, same, mem_foldCase_iff plain]

/-! ## The address parser -/

theorem digitValue_toLower (char : Char) : digitValue char.toLower = digitValue char := by
  unfold digitValue
  dsimp only
  rw [toNat_toLower]
  split
  · rw [if_neg (by omega), if_pos (by omega), if_neg (by omega), if_neg (by omega)]
    exact Nat.add_sub_add_right char.toNat 32 55
  · rfl

theorem readDigits_foldCase (radix : Nat) (text : Text) :
    readDigits radix (foldCase text) =
      ((readDigits radix text).1, foldCase (readDigits radix text).2) := by
  induction text with
  | nil => rfl
  | cons char text inductionHypothesis =>
      have digit : toDigit radix char.toLower = toDigit radix char := by
        unfold toDigit
        rw [digitValue_toLower]
      rw [foldCase_cons, readDigits, readDigits, digit]
      cases toDigit radix char with
      | none => rfl
      | some value =>
          dsimp only
          rw [inductionHypothesis]

/-- A reader whose result does not depend on letter case. -/
def IgnoresCase {α : Type} (reader : Text → Option (α × Text)) : Prop :=
  ∀ text, reader (foldCase text) = (reader text).map fun read => (read.1, foldCase read.2)

theorem readNumber_ignoresCase (radix maxDigits bound : Nat) (allowZeroPrefix : Bool) :
    IgnoresCase (readNumber radix maxDigits bound allowZeroPrefix) := by
  intro text
  have leadingZero : (foldCase text).head? = some '0' ↔ text.head? = some '0' := by
    cases text with
    | nil => exact Iff.rfl
    | cons char text =>
        rw [foldCase_cons, List.head?_cons, List.head?_cons, Option.some.injEq, Option.some.injEq]
        exact toLower_eq_iff (by decide)
  unfold readNumber
  simp only [readDigits_foldCase, leadingZero]
  split
  · rfl
  · split
    · rfl
    · split
      · rfl
      · rfl

theorem readGivenChar_foldCase {target : Char} (plain : target.isAlpha = false) (text : Text) :
    readGivenChar target (foldCase text) = (readGivenChar target text).map foldCase := by
  cases text with
  | nil => rfl
  | cons char text =>
      rw [foldCase_cons, readGivenChar, readGivenChar]
      by_cases same : char = target
      · rw [if_pos same, if_pos ((toLower_eq_iff plain).mpr same)]
        rfl
      · rw [if_neg same, if_neg fun lower => same ((toLower_eq_iff plain).mp lower)]
        rfl

theorem IgnoresCase.separated {α : Type} {inner : Text → Option (α × Text)}
    (ignores : IgnoresCase inner) {separator : Char} (plain : separator.isAlpha = false)
    (index : Nat) : IgnoresCase (readSeparator separator index inner) := by
  intro text
  unfold readSeparator
  split
  · rw [readGivenChar_foldCase plain]
    cases readGivenChar separator text with
    | none => rfl
    | some rest => exact ignores rest
  · exact ignores text

/-- One more item, read from what is left. -/
theorem IgnoresCase.bind {α β : Type} {first : Text → Option (α × Text)}
    {next : α → Text → Option (β × Text)} (ignores : IgnoresCase first)
    (ignoresNext : ∀ value, IgnoresCase (next value)) :
    IgnoresCase fun text => (first text).bind fun read => next read.1 read.2 := by
  intro text
  dsimp only
  rw [ignores text]
  cases first text with
  | none => rfl
  | some read => exact ignoresNext read.1 read.2

theorem readIpv4Addr_ignoresCase : IgnoresCase readIpv4Addr := by
  have octet : ∀ index, IgnoresCase (readSeparator '.' index readOctet) :=
    fun index => (readNumber_ignoresCase 10 3 256 false).separated (by decide) index
  have complete : ∀ (first second third fourth : Nat), IgnoresCase fun text =>
      some (Ipv4Addr.mk (UInt8.ofNat first) (UInt8.ofNat second) (UInt8.ofNat third)
        (UInt8.ofNat fourth), text) :=
    fun _ _ _ _ _ => rfl
  have last : ∀ (first second third : Nat), IgnoresCase fun text =>
      (readSeparator '.' 3 readOctet text).bind fun fourth =>
        some (Ipv4Addr.mk (UInt8.ofNat first) (UInt8.ofNat second) (UInt8.ofNat third)
          (UInt8.ofNat fourth.1), fourth.2) :=
    fun first second third => (octet 3).bind (complete first second third)
  exact (octet 0).bind fun first => (octet 1).bind fun second => (octet 2).bind fun third =>
    last first second third

theorem readGroups_foldCase (remaining : Nat) :
    ∀ (index : Nat) (text : Text), readGroups index remaining (foldCase text) =
      ((readGroups index remaining text).1, (readGroups index remaining text).2.1,
        foldCase (readGroups index remaining text).2.2) := by
  induction remaining with
  | zero => exact fun _ _ => rfl
  | succ remaining inductionHypothesis =>
      intro index text
      have embedded : (if 0 < remaining then readSeparator ':' index readIpv4Addr (foldCase text)
            else none) =
          (if 0 < remaining then readSeparator ':' index readIpv4Addr text else none).map
            fun read => (read.1, foldCase read.2) := by
        split
        · exact readIpv4Addr_ignoresCase.separated (by decide) index text
        · rfl
      have segment : readSeparator ':' index readSegment (foldCase text) =
          (readSeparator ':' index readSegment text).map fun read => (read.1, foldCase read.2) :=
        (readNumber_ignoresCase 16 4 65536 true).separated (by decide) index text
      rw [readGroups, readGroups, embedded, segment]
      cases (if 0 < remaining then readSeparator ':' index readIpv4Addr text else none) with
      | some read => rfl
      | none =>
          cases readSeparator ':' index readSegment text with
          | none => rfl
          | some read =>
              dsimp only [Option.map_none, Option.map_some]
              rw [inductionHypothesis]

theorem readIpv6Addr_ignoresCase : IgnoresCase readIpv6Addr := by
  intro text
  have colon : ':'.isAlpha = false := by decide
  unfold readIpv6Addr
  dsimp only
  simp only [readGroups_foldCase, readGivenChar_foldCase colon]
  split
  · rfl
  · split
    · rfl
    · cases readGivenChar ':' (readGroups 0 8 text).2.2 with
      | none => rfl
      | some afterColon =>
          dsimp only [Option.map_some, Option.bind_some]
          rw [readGivenChar_foldCase colon]
          cases readGivenChar ':' afterColon with
          | none => rfl
          | some afterColons =>
              dsimp only [Option.map_some, Option.bind_some]
              simp only [readGroups_foldCase]

/-- An address may be written in either case. -/
theorem parse_foldCase (text : Text) : parse (foldCase text) = parse text := by
  unfold parse
  rw [readIpv4Addr_ignoresCase, readIpv6Addr_ignoresCase]
  cases readIpv4Addr text with
  | some read =>
      dsimp only [Option.map_some]
      simp only [foldCase_eq_nil_iff]
  | none =>
      cases readIpv6Addr text with
      | some read =>
          dsimp only [Option.map_some, Option.map_none]
          simp only [foldCase_eq_nil_iff]
      | none => rfl

theorem parse_congr {left right : Text} (same : SameUpToCase left right) :
    parse left = parse right := by
  rw [← parse_foldCase left, same, parse_foldCase]

end IpText

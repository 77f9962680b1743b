import Mathlib.Algebra.Group.Nat.Defs
import SimpleForwarder.Lib.Text

/-!
Contract: the text form of IP addresses, as the Rust standard library reads
and prints it.

Owns: IPv4 and IPv6 addresses, the address parser (`read_number`,
`read_ipv4_addr`, `read_groups`, `read_ipv6_addr`), the canonical printer with
its zero compression, and the round trip `parse_toText`.

The parser works on a text and returns what it read with the text that is
left; a reader that fails leaves its text as it was.

Does not own: sockets, ports or name resolution.
-/

namespace IpText

open RustText

structure Ipv4Addr where
  first : UInt8
  second : UInt8
  third : UInt8
  fourth : UInt8
deriving DecidableEq

/-- Eight 16-bit segments, most significant first. -/
structure Ipv6Addr where
  segments : List UInt16
  size : segments.length = 8
deriving DecidableEq

inductive IpAddr where
  | v4 (addr : Ipv4Addr)
  | v6 (addr : Ipv6Addr)
deriving DecidableEq

/-! ## The parser -/

/-- The value of an ASCII digit or letter; 36 is no digit in any radix. -/
def digitValue (char : Char) : Nat :=
  let c := char.toNat
  if 48 ≤ c ∧ c ≤ 57 then c - 48
  else if 97 ≤ c ∧ c ≤ 122 then c - 87
  else if 65 ≤ c ∧ c ≤ 90 then c - 55
  else 36

/-- `char::to_digit`. -/
def toDigit (radix : Nat) (char : Char) : Option Nat :=
  if digitValue char < radix then some (digitValue char) else none

/-- The longest run of digits at the front of a text. -/
def readDigits (radix : Nat) : Text → List Nat × Text
  | [] => ([], [])
  | char :: rest =>
      match toDigit radix char with
      | some digit => (digit :: (readDigits radix rest).1, (readDigits radix rest).2)
      | none => ([], char :: rest)

/-- `Parser::read_number`: between one and `maxDigits` digits whose value is
below `bound`. -/
def readNumber (radix maxDigits bound : Nat) (allowZeroPrefix : Bool) (text : Text) :
    Option (Nat × Text) :=
  let digits := (readDigits radix text).1
  let value := digits.foldl (fun number digit => number * radix + digit) 0
  if digits.length = 0 ∨ maxDigits < digits.length then none
  else if allowZeroPrefix = false ∧ text.head? = some '0' ∧ 1 < digits.length then none
  else if value < bound then some (value, (readDigits radix text).2)
  else none

/-- `Parser::read_given_char`. -/
def readGivenChar (target : Char) : Text → Option Text
  | [] => none
  | char :: rest => if char = target then some rest else none

/-- `Parser::read_separator`: from the second item on, the separator first. -/
def readSeparator {α : Type} (separator : Char) (index : Nat)
    (inner : Text → Option (α × Text)) (text : Text) : Option (α × Text) :=
  if 0 < index then (readGivenChar separator text).bind inner else inner text

def readOctet : Text → Option (Nat × Text) := readNumber 10 3 256 false

/-- `Parser::read_ipv4_addr`. -/
def readIpv4Addr (text : Text) : Option (Ipv4Addr × Text) :=
  (readSeparator '.' 0 readOctet text).bind fun first =>
  (readSeparator '.' 1 readOctet first.2).bind fun second =>
  (readSeparator '.' 2 readOctet second.2).bind fun third =>
  (readSeparator '.' 3 readOctet third.2).bind fun fourth =>
  some (⟨UInt8.ofNat first.1, UInt8.ofNat second.1, UInt8.ofNat third.1, UInt8.ofNat fourth.1⟩,
    fourth.2)

def readSegment : Text → Option (Nat × Text) := readNumber 16 4 65536 true

/-- `u16::from_be_bytes`. -/
def fromBeBytes (high low : UInt8) : UInt16 := UInt16.ofNat (high.toNat * 256 + low.toNat)

/-- `read_groups`, from group `index` on with `remaining` groups free: the
groups read, whether the last two are an embedded IPv4 address, and what is
left. -/
def readGroups (index : Nat) : (remaining : Nat) → Text → List UInt16 × Bool × Text
  | 0, text => ([], false, text)
  | remaining + 1, text =>
      -- A trailing IPv4 address needs two free groups.
      match if 0 < remaining then readSeparator ':' index readIpv4Addr text else none with
      | some (v4, rest) =>
          ([fromBeBytes v4.first v4.second, fromBeBytes v4.third v4.fourth], true, rest)
      | none =>
          match readSeparator ':' index readSegment text with
          | some (group, rest) =>
              let more := readGroups (index + 1) remaining rest
              (UInt16.ofNat group :: more.1, more.2.1, more.2.2)
          | none => ([], false, text)

theorem length_readGroups (remaining : Nat) :
    ∀ (index : Nat) (text : Text), (readGroups index remaining text).1.length ≤ remaining := by
  induction remaining with
  | zero => exact fun _ _ => Nat.le_refl _
  | succ remaining inductionHypothesis =>
      intro index text
      rw [readGroups]
      split
      · next shape =>
          have free : 0 < remaining := by
            by_contra full
            rw [if_neg full] at shape
            exact absurd shape nofun
          simp only [List.length_cons, List.length_nil]
          omega
      · split
        · next group rest _ =>
            have shorter := inductionHypothesis (index + 1) rest
            simp only [List.length_cons]
            omega
        · exact Nat.zero_le _

/-- `Parser::read_ipv6_addr`. -/
def readIpv6Addr (text : Text) : Option (Ipv6Addr × Text) :=
  let head := readGroups 0 8 text
  if full : head.1.length = 8 then some (⟨head.1, full⟩, head.2.2)
  else if head.2.1 then none
  else
    (readGivenChar ':' head.2.2).bind fun afterColon =>
    (readGivenChar ':' afterColon).bind fun afterColons =>
    -- `::` stands for at least one zero group.
    let tail := readGroups 0 (8 - (head.1.length + 1)) afterColons
    some (⟨head.1 ++ List.replicate (8 - head.1.length - tail.1.length) 0 ++ tail.1, by
      have headSize : head.1.length ≤ 8 := length_readGroups 8 0 text
      have tailSize : tail.1.length ≤ 8 - (head.1.length + 1) := length_readGroups _ 0 afterColons
      simp only [List.length_append, List.length_replicate]
      omega⟩, tail.2.2)

/-- `IpAddr::from_str`. -/
def parse (text : Text) : Option IpAddr :=
  match readIpv4Addr text with
  | some (addr, rest) => if rest = [] then some (.v4 addr) else none
  | none =>
      match readIpv6Addr text with
      | some (addr, rest) => if rest = [] then some (.v6 addr) else none
      | none => none

/-! ## The printer -/

/-- `Ipv4Addr as Display`. -/
def Ipv4Addr.toText (addr : Ipv4Addr) : Text :=
  decimal addr.first.toNat ++ '.' :: decimal addr.second.toNat ++
    '.' :: decimal addr.third.toNat ++ '.' :: decimal addr.fourth.toNat

/-- `{:x}` of a segment. -/
def hex (segment : UInt16) : Text := Nat.toDigits 16 segment.toNat

/-- Further segments, each after its separator. -/
def moreSegments (segments : List UInt16) : Text :=
  segments.flatMap fun segment => ':' :: hex segment

/-- `fmt_subslice`. -/
def fmtSubslice : List UInt16 → Text
  | [] => []
  | first :: tail => hex first ++ moreSegments tail

structure Span where
  start : Nat
  len : Nat
deriving DecidableEq

/-- The loop that finds the first longest run of zero segments. -/
def longestZeroes : List UInt16 → (index : Nat) → (longest current : Span) → Span
  | [], _, longest, _ => longest
  | segment :: rest, index, longest, current =>
      if segment = 0 then
        let current := ⟨if current.len = 0 then index else current.start, current.len + 1⟩
        longestZeroes rest (index + 1) (if longest.len < current.len then current else longest)
          current
      else longestZeroes rest (index + 1) longest ⟨0, 0⟩

/-- `Ipv6Addr::to_ipv4_mapped`. -/
def Ipv6Addr.toIpv4Mapped (addr : Ipv6Addr) : Option Ipv4Addr :=
  match addr.segments with
  | [0, 0, 0, 0, 0, 0xffff, high, low] =>
      some ⟨UInt8.ofNat (high.toNat / 256), UInt8.ofNat (high.toNat % 256),
        UInt8.ofNat (low.toNat / 256), UInt8.ofNat (low.toNat % 256)⟩
  | _ => none

/-- `Ipv6Addr as Display`. -/
def Ipv6Addr.toText (addr : Ipv6Addr) : Text :=
  match addr.toIpv4Mapped with
  | some mapped => "::ffff:".toList ++ mapped.toText
  | none =>
      let zeroes := longestZeroes addr.segments 0 ⟨0, 0⟩ ⟨0, 0⟩
      if 1 < zeroes.len then
        fmtSubslice (addr.segments.take zeroes.start) ++
          ':' :: ':' :: fmtSubslice (addr.segments.drop (zeroes.start + zeroes.len))
      else fmtSubslice addr.segments

/-- `IpAddr as Display`. -/
def IpAddr.toText : IpAddr → Text
  | .v4 addr => addr.toText
  | .v6 addr => addr.toText

example : (Ipv6Addr.toText ⟨[0x2001, 0xdb8, 0, 0, 1, 0, 0, 1], rfl⟩) =
    "2001:db8::1:0:0:1".toList := by
  decide

example : parse "::ffff:192.168.0.1".toList =
    some (.v6 ⟨[0, 0, 0, 0, 0, 0xffff, 0xc0a8, 1], rfl⟩) := by decide

/-! ## Reading a printed number -/

theorem digitValue_digitChar {digit : Nat} (small : digit < 16) :
    digitValue digit.digitChar = digit := by
  have values : ∀ d : Fin 16, digitValue (Nat.digitChar d) = d.val := by decide
  exact values ⟨digit, small⟩

theorem toDigit_digitChar {radix digit : Nat} (hex : radix ≤ 16) (small : digit < radix) :
    toDigit radix digit.digitChar = some digit := by
  rw [toDigit, digitValue_digitChar (by omega), if_pos small]

/-- The text does not go on with a digit. -/
def NoDigit (radix : Nat) (text : Text) : Prop :=
  ∀ char ∈ text.head?, toDigit radix char = none

theorem readDigits_of_noDigit {radix : Nat} {text : Text} (stops : NoDigit radix text) :
    readDigits radix text = ([], text) := by
  cases text with
  | nil => rfl
  | cons char rest =>
      have none := stops char (by simp)
      simp only [readDigits, none]

theorem readDigits_append {radix : Nat} (word : List Nat) (rest : Text)
    (hex : radix ≤ 16) (small : ∀ digit ∈ word, digit < radix) (stops : NoDigit radix rest) :
    readDigits radix (word.map Nat.digitChar ++ rest) = (word, rest) := by
  induction word with
  | nil => exact readDigits_of_noDigit stops
  | cons digit word inductionHypothesis =>
      have first := toDigit_digitChar hex (small digit (by simp))
      have tail := inductionHypothesis fun other member =>
        small other (List.mem_cons_of_mem _ member)
      simp only [List.map_cons, List.cons_append, readDigits, first, tail]

/-- A numeral is the characters of its digits, most significant first; the
digits evaluate to the number and a positive one does not start with zero. -/
theorem toDigits_digits {radix : Nat} (base : 1 < radix) (number : Nat) :
    ∃ word : List Nat, Nat.toDigits radix number = word.map Nat.digitChar ∧
      (∀ digit ∈ word, digit < radix) ∧
      word.foldl (fun value digit => value * radix + digit) 0 = number ∧
      (0 < number → ∀ digit ∈ word.head?, 0 < digit) := by
  induction number using Nat.strongRecOn with
  | _ number inductionHypothesis =>
      by_cases small : number < radix
      · refine ⟨[number], ?_, ?_, ?_, ?_⟩
        · rw [Nat.toDigits_of_lt_base small]
          rfl
        · simpa using small
        · simp
        · simp
      · have positive : 0 < number / radix := Nat.div_pos (by omega) (by omega)
        obtain ⟨word, shape, digits, value, leads⟩ :=
          inductionHypothesis (number / radix) (Nat.div_lt_self (by omega) base)
        have nonempty : word ≠ [] := by
          rintro rfl
          rw [List.map_nil] at shape
          exact Nat.toDigits_ne_nil shape
        refine ⟨word ++ [number % radix], ?_, ?_, ?_, ?_⟩
        · rw [Nat.toDigits_of_base_le base (by omega), shape, List.map_append]
          rfl
        · intro digit member
          rcases List.mem_append.mp member with earlier | last
          · exact digits digit earlier
          · rw [List.mem_singleton.mp last]
            exact Nat.mod_lt _ (by omega)
        · rw [List.foldl_append, value]
          simp only [List.foldl_cons, List.foldl_nil]
          exact Nat.div_add_mod' number radix
        · intro _
          rw [List.head?_append_of_ne_nil _ nonempty]
          exact leads positive

/-- Reading a printed number gives the number and leaves what follows it. -/
theorem readNumber_toDigits {radix maxDigits bound number : Nat} {allowZeroPrefix : Bool}
    (rest : Text) (base : 1 < radix) (hex : radix ≤ 16) (positive : 0 < maxDigits)
    (fits : number < radix ^ maxDigits) (small : number < bound)
    (stops : NoDigit radix rest) :
    readNumber radix maxDigits bound allowZeroPrefix (Nat.toDigits radix number ++ rest) =
      some (number, rest) := by
  obtain ⟨word, shape, digits, value, leads⟩ := toDigits_digits base number
  have read := readDigits_append word rest hex digits stops
  have length : (Nat.toDigits radix number).length = word.length := by
    rw [shape, List.length_map]
  have nonempty : 0 < word.length := length ▸ Nat.length_toDigits_pos
  have short : word.length ≤ maxDigits :=
    length ▸ (Nat.length_toDigits_le_iff base positive).mpr fits
  rw [shape]
  simp only [readNumber, read, value]
  rw [if_neg (by omega), if_neg, if_pos small]
  rintro ⟨-, zero, long⟩
  -- A numeral of two or more digits does not start with zero.
  cases word with
  | nil => exact absurd nonempty (Nat.lt_irrefl 0)
  | cons digit word =>
      have digitSmall := digits digit (by simp)
      have isZero : digit.digitChar = '0' := by simpa using zero
      have digitZero : digit = 0 := by
        have back := digitValue_digitChar (show digit < 16 by omega)
        rw [isZero] at back
        exact back.symm
      have numberPositive : 0 < number := by
        by_contra numberZero
        have single : number < radix := by omega
        rw [Nat.toDigits_of_lt_base single] at length
        simp only [List.length_cons, List.length_nil] at length long
        omega
      have leading := leads numberPositive digit (by simp)
      omega
/-! ## Reading a printed IPv4 address -/

@[simp] theorem readSeparator_zero {α : Type} (separator : Char)
    (inner : Text → Option (α × Text)) (text : Text) :
    readSeparator separator 0 inner text = inner text := rfl

@[simp] theorem readSeparator_succ_cons {α : Type} (separator : Char) (index : Nat)
    (inner : Text → Option (α × Text)) (text : Text) :
    readSeparator separator (index + 1) inner (separator :: text) = inner text := by
  simp [readSeparator, readGivenChar]

theorem noDigit_cons {radix : Nat} {char : Char} (notDigit : toDigit radix char = none)
    (text : Text) : NoDigit radix (char :: text) := by
  intro other member
  rw [List.head?_cons, Option.mem_some_iff] at member
  rw [← member]
  exact notDigit

theorem readOctet_decimal (octet : UInt8) {rest : Text} (stops : NoDigit 10 rest) :
    readOctet (decimal octet.toNat ++ rest) = some (octet.toNat, rest) := by
  have bound : octet.toNat < 256 := octet.toNat_lt
  exact readNumber_toDigits rest (by decide) (by decide) (by decide)
    (by omega) bound stops

/-- An IPv4 address is read back as it was printed. -/
theorem readIpv4Addr_toText (addr : Ipv4Addr) {rest : Text} (stops : NoDigit 10 rest) :
    readIpv4Addr (addr.toText ++ rest) = some (addr, rest) := by
  have dot : ∀ text : Text, NoDigit 10 ('.' :: text) := noDigit_cons (by decide)
  simp only [readIpv4Addr, Ipv4Addr.toText, List.append_assoc, List.cons_append,
    readSeparator_zero, readSeparator_succ_cons, readOctet_decimal _ (dot _),
    readOctet_decimal _ stops, Option.bind_some, UInt8.ofNat_toNat]

theorem readDigits_suffix (radix : Nat) (text : Text) : (readDigits radix text).2 <:+ text := by
  induction text with
  | nil => exact List.suffix_refl _
  | cons char rest inductionHypothesis =>
      rw [readDigits]
      split
      · exact inductionHypothesis.trans (List.suffix_cons char rest)
      · exact List.suffix_refl _

theorem readNumber_suffix {radix maxDigits bound number : Nat} {allowZeroPrefix : Bool}
    {text rest : Text}
    (read : readNumber radix maxDigits bound allowZeroPrefix text = some (number, rest)) :
    rest <:+ text := by
  rw [readNumber] at read
  split at read
  · exact absurd read nofun
  · split at read
    · exact absurd read nofun
    · split at read
      · have same : (readDigits radix text).2 = rest := congrArg Prod.snd (Option.some.inj read)
        rw [← same]
        exact readDigits_suffix radix text
      · exact absurd read nofun

/-- Without a dot there is no IPv4 address to read. -/
theorem readIpv4Addr_of_no_dot {text : Text} (noDot : '.' ∉ text) :
    readIpv4Addr text = none := by
  rw [readIpv4Addr, readSeparator_zero]
  cases read : readOctet text with
  | none => rfl
  | some first =>
      have suffix : first.2 <:+ text := readNumber_suffix read
      have second : readSeparator '.' 1 readOctet first.2 = none := by
        cases shape : first.2 with
        | nil => rfl
        | cons char rest =>
            have other : char ≠ '.' := by
              rintro rfl
              exact noDot (suffix.subset (by rw [shape]; exact List.mem_cons_self))
            simp [readSeparator, readGivenChar, other]
      rw [Option.bind_some, second]
      rfl

/-! ## Reading a printed IPv6 address -/

theorem readSegment_hex (segment : UInt16) {rest : Text} (stops : NoDigit 16 rest) :
    readSegment (hex segment ++ rest) = some (segment.toNat, rest) := by
  have bound : segment.toNat < 65536 := segment.toNat_lt
  exact readNumber_toDigits rest (by decide) (by decide) (by decide) (by omega) bound stops

/-- What may follow a group list that does not fill its reader: nothing, or a
colon that no further group follows. -/
def GroupsEnd (index : Nat) (rest : Text) : Prop :=
  NoDigit 16 rest ∧ readSeparator ':' index readSegment rest = none

theorem groupsEnd_nil (index : Nat) : GroupsEnd index [] := by
  refine ⟨nofun, ?_⟩
  cases index <;> rfl

theorem groupsEnd_colons (index : Nat) (text : Text) : GroupsEnd index (':' :: ':' :: text) := by
  have colon : ∀ other : Text, NoDigit 16 (':' :: other) := noDigit_cons (by decide)
  have noNumber : ∀ other : Text, readSegment (':' :: other) = none := by
    intro other
    rw [readSegment, readNumber]
    simp only [readDigits_of_noDigit (colon other)]
    rfl
  refine ⟨colon (':' :: text), ?_⟩
  cases index with
  | zero => exact noNumber (':' :: text)
  | succ index =>
      rw [readSeparator_succ_cons]
      exact noNumber text

/-- The text of groups from `index` on: only the first group of all has no
separator. -/
def groupsFrom (index : Nat) (segments : List UInt16) : Text :=
  if index = 0 then fmtSubslice segments else moreSegments segments

theorem groupsFrom_cons (index : Nat) (segment : UInt16) (segments : List UInt16) :
    groupsFrom index (segment :: segments) =
      (if index = 0 then [] else [':']) ++ (hex segment ++ groupsFrom (index + 1) segments) := by
  by_cases first : index = 0
  · simp [groupsFrom, first, fmtSubslice]
  · simp [groupsFrom, first, moreSegments]

theorem readSeparator_ipv4_of_no_dot (index : Nat) {text : Text} (noDot : '.' ∉ text) :
    readSeparator ':' index readIpv4Addr text = none := by
  unfold readSeparator
  split
  · cases text with
    | nil => rfl
    | cons char rest =>
        have noDotRest : '.' ∉ rest := fun member => noDot (List.mem_cons_of_mem _ member)
        by_cases colon : char = ':'
        · simp [readGivenChar, colon, readIpv4Addr_of_no_dot noDotRest]
        · simp [readGivenChar, colon]
  · exact readIpv4Addr_of_no_dot noDot

theorem noDigit_groupsFrom_succ (index : Nat) (segments : List UInt16) {rest : Text}
    (stops : NoDigit 16 rest) : NoDigit 16 (groupsFrom (index + 1) segments ++ rest) := by
  cases segments with
  | nil => exact stops
  | cons segment segments =>
      rw [groupsFrom_cons, if_neg (Nat.succ_ne_zero index)]
      exact noDigit_cons (by decide) _

/-- Groups without a dot are read back as they were printed. -/
theorem readGroups_groupsFrom (segments : List UInt16) :
    ∀ (index remaining : Nat) (rest : Text), segments.length ≤ remaining →
      '.' ∉ groupsFrom index segments ++ rest → NoDigit 16 rest →
      (segments.length = remaining ∨
        readSeparator ':' (index + segments.length) readSegment rest = none) →
      readGroups index remaining (groupsFrom index segments ++ rest) = (segments, false, rest) := by
  induction segments with
  | nil =>
      intro index remaining rest short noDot stops ends
      have empty : groupsFrom index [] = [] := by
        unfold groupsFrom
        split <;> rfl
      rw [empty, List.nil_append] at noDot ⊢
      cases remaining with
      | zero => rfl
      | succ remaining =>
          have noSegment : readSeparator ':' index readSegment rest = none := by
            simpa using ends
          rw [readGroups, readSeparator_ipv4_of_no_dot index noDot, ite_self, noSegment]
  | cons segment segments inductionHypothesis =>
      intro index remaining rest short noDot stops ends
      cases remaining with
      | zero => exact absurd short (Nat.not_succ_le_zero _)
      | succ remaining =>
          have noIpv4 := readSeparator_ipv4_of_no_dot index noDot
          have readsFirst : readSeparator ':' index readSegment
              (groupsFrom index (segment :: segments) ++ rest) =
                some (segment.toNat, groupsFrom (index + 1) segments ++ rest) := by
            have first := readSegment_hex segment (noDigit_groupsFrom_succ index segments stops)
            rw [groupsFrom_cons]
            cases index with
            | zero => simpa using first
            | succ index => simpa using first
          have noDotRest : '.' ∉ groupsFrom (index + 1) segments ++ rest := by
            intro member
            apply noDot
            rw [groupsFrom_cons]
            simp only [List.append_assoc, List.mem_append] at member ⊢
            exact .inr (.inr member)
          have tail := inductionHypothesis (index + 1) remaining rest
            (by simpa using short) noDotRest stops (by
              rcases ends with full | ends
              · exact .inl (by simpa using full)
              · right
                rwa [List.length_cons, ← Nat.add_assoc, Nat.add_right_comm] at ends)
          rw [readGroups, noIpv4, ite_self, readsFirst]
          simp only [tail, UInt16.ofNat_toNat]

theorem not_mem_hex {char : Char} (notDigit : digitValue char = 36) (segment : UInt16) :
    char ∉ hex segment := by
  obtain ⟨word, shape, digits, -, -⟩ := toDigits_digits (show 1 < 16 by decide) segment.toNat
  rw [hex, shape]
  intro member
  obtain ⟨digit, digitMember, same⟩ := List.mem_map.mp member
  have small := digits digit digitMember
  have back := digitValue_digitChar small
  rw [same] at back
  omega

/-- Groups are printed with hexadecimal digits and colons only. -/
theorem not_mem_groupsFrom {char : Char} (notDigit : digitValue char = 36) (notColon : char ≠ ':')
    (segments : List UInt16) : ∀ index, char ∉ groupsFrom index segments := by
  induction segments with
  | nil =>
      intro index
      unfold groupsFrom
      split <;> exact List.not_mem_nil
  | cons segment segments inductionHypothesis =>
      intro index member
      rw [groupsFrom_cons] at member
      rcases List.mem_append.mp member with separator | member
      · split at separator
        · exact List.not_mem_nil separator
        · exact notColon (List.mem_singleton.mp separator)
      · rcases List.mem_append.mp member with first | more
        · exact not_mem_hex notDigit segment first
        · exact inductionHypothesis (index + 1) more

/-! ## Zero compression -/

/-- The segments of a span are zero and lie within the address. -/
def IsZeroRun (segments : List UInt16) (span : Span) : Prop :=
  ∀ position, span.start ≤ position → position < span.start + span.len →
    segments[position]? = some 0

theorem longestZeroes_isZeroRun (segments rest : List UInt16) :
    ∀ (index : Nat) (longest current : Span), segments.drop index = rest →
      IsZeroRun segments longest → IsZeroRun segments current →
      (current.len = 0 ∨ current.start + current.len = index) →
      IsZeroRun segments (longestZeroes rest index longest current) := by
  induction rest with
  | nil =>
      intro index longest current _ longestZero _ _
      exact longestZero
  | cons segment rest inductionHypothesis =>
      intro index longest current left longestZero currentZero ends
      have here : segments[index]? = some segment := by
        rw [← List.head?_drop, left, List.head?_cons]
      have next : segments.drop (index + 1) = rest := by
        rw [← List.tail_drop, left, List.tail_cons]
      rw [longestZeroes]
      by_cases zero : segment = 0
      · rw [if_pos zero]
        have grown : IsZeroRun segments
            ⟨if current.len = 0 then index else current.start, current.len + 1⟩ := by
          intro position lower upper
          simp only at lower upper
          by_cases last : position = index
          · rw [last, here, zero]
          · by_cases fresh : current.len = 0
            · rw [if_pos fresh] at lower upper
              omega
            · rw [if_neg fresh] at lower upper
              exact currentZero position lower (by omega)
        refine inductionHypothesis _ _ _ next ?_ grown (.inr ?_)
        · by_cases longer : longest.len < current.len + 1
          · rw [if_pos longer]
            exact grown
          · rw [if_neg longer]
            exact longestZero
        · by_cases fresh : current.len = 0
          · simp [fresh]
          · simp only [if_neg fresh]
            omega
      · rw [if_neg zero]
        exact inductionHypothesis _ _ _ next longestZero (fun position _ upper => by
          simp only at upper
          omega) (.inl rfl)

/-- An address is its segments before the compressed run, the zeros, and the
segments after it. -/
theorem segments_split {segments : List UInt16} {span : Span}
    (zero : IsZeroRun segments span) (inside : 0 < span.len) :
    segments = segments.take span.start ++ List.replicate span.len 0 ++
      segments.drop (span.start + span.len) := by
  have bound : span.start + span.len ≤ segments.length := by
    have last := zero (span.start + span.len - 1) (by omega) (by omega)
    obtain ⟨below, -⟩ := List.getElem?_eq_some_iff.mp last
    omega
  have middle : (segments.drop span.start).take span.len = List.replicate span.len 0 := by
    apply List.ext_getElem?
    intro position
    by_cases inRun : position < span.len
    · rw [List.getElem?_take_of_lt inRun, List.getElem?_drop,
        zero (span.start + position) (by omega) (by omega), List.getElem?_replicate, if_pos inRun]
    · rw [List.getElem?_replicate, if_neg inRun, List.getElem?_eq_none]
      rw [List.length_take]
      omega
  rw [← middle, ← List.drop_drop, List.append_assoc, List.take_append_drop,
    List.take_append_drop]

/-! ## The round trip -/

theorem fromBeBytes_split (segment : UInt16) :
    fromBeBytes (UInt8.ofNat (segment.toNat / 256)) (UInt8.ofNat (segment.toNat % 256)) =
      segment := by
  have bound : segment.toNat < 65536 := segment.toNat_lt
  have high : (UInt8.ofNat (segment.toNat / 256)).toNat = segment.toNat / 256 := by
    simp only [UInt8.toNat_ofNat']
    omega
  have low : (UInt8.ofNat (segment.toNat % 256)).toNat = segment.toNat % 256 := by
    simp only [UInt8.toNat_ofNat']
    omega
  rw [fromBeBytes, high, low, Nat.div_add_mod' segment.toNat 256, UInt16.ofNat_toNat]

/-- The shape of an IPv4-mapped address. -/
theorem segments_of_toIpv4Mapped {addr : Ipv6Addr} {mapped : Ipv4Addr}
    (shape : addr.toIpv4Mapped = some mapped) :
    addr.segments = [0, 0, 0, 0, 0, 0xffff, fromBeBytes mapped.first mapped.second,
      fromBeBytes mapped.third mapped.fourth] := by
  unfold Ipv6Addr.toIpv4Mapped at shape
  split at shape
  · next high low segments =>
      have same := Option.some.inj shape
      rw [← same, segments, fromBeBytes_split, fromBeBytes_split]
  · exact absurd shape nofun

theorem readIpv4Addr_of_noDigit {text : Text} (stops : NoDigit 10 text) :
    readIpv4Addr text = none := by
  have noOctet : readOctet text = none := by
    rw [readOctet, readNumber]
    simp only [readDigits_of_noDigit stops]
    rfl
  rw [readIpv4Addr, readSeparator_zero, noOctet]
  rfl

theorem Ipv6Addr.eq_of_segments {left right : Ipv6Addr} (same : left.segments = right.segments) :
    left = right := by
  cases left
  cases right
  simp_all

/-- The reader on a compressed text: groups, two colons, groups. -/
theorem readIpv6Addr_compressed {head tail : List UInt16} {text after rest : Text} {embedded : Bool}
    (headRead : readGroups 0 8 text = (head, false, ':' :: ':' :: after))
    (short : head.length ≠ 8)
    (tailRead : readGroups 0 (8 - (head.length + 1)) after = (tail, embedded, rest))
    (addr : Ipv6Addr)
    (segments : addr.segments = head ++ List.replicate (8 - head.length - tail.length) 0 ++ tail) :
    readIpv6Addr text = some (addr, rest) := by
  have headEq : (readGroups 0 8 text).1 = head := by rw [headRead]
  rw [readIpv6Addr, dif_neg (by rw [headEq]; exact short)]
  simp only [headRead, tailRead, Bool.false_eq_true, if_false, readGivenChar, if_true,
    Option.bind_some, Option.some.injEq, Prod.mk.injEq, and_true]
  exact Ipv6Addr.eq_of_segments segments.symm

private theorem readIpv6Addr_mapped {addr : Ipv6Addr} {mapped : Ipv4Addr}
    (shape : addr.toIpv4Mapped = some mapped) :
    readIpv6Addr ("::ffff:".toList ++ mapped.toText) = some (addr, []) := by
  have prefixEq : "::ffff:".toList ++ mapped.toText =
      ':' :: ':' :: (hex 0xffff ++ ':' :: mapped.toText) := by
    rw [show "::ffff:".toList = ':' :: ':' :: (hex 0xffff ++ [':']) by decide]
    simp
  have colon : ∀ text : Text, NoDigit 10 (':' :: text) := noDigit_cons (by decide)
  have head : readGroups 0 8 (':' :: ':' :: (hex 0xffff ++ ':' :: mapped.toText)) =
      ([], false, ':' :: ':' :: (hex 0xffff ++ ':' :: mapped.toText)) := by
    have noIpv4 := readIpv4Addr_of_noDigit (colon (':' :: (hex 0xffff ++ ':' :: mapped.toText)))
    have noSegment := (groupsEnd_colons 0 (hex 0xffff ++ ':' :: mapped.toText)).2
    rw [readGroups, readSeparator_zero, noIpv4, ite_self, noSegment]
  have embedded : readGroups 1 6 (':' :: mapped.toText) =
      ([fromBeBytes mapped.first mapped.second, fromBeBytes mapped.third mapped.fourth],
        true, []) := by
    have read := readIpv4Addr_toText mapped (show NoDigit 10 [] from nofun)
    rw [List.append_nil] at read
    rw [readGroups, readSeparator_succ_cons, read]
    rfl
  have tail : readGroups 0 7 (hex 0xffff ++ ':' :: mapped.toText) =
      ([0xffff, fromBeBytes mapped.first mapped.second,
        fromBeBytes mapped.third mapped.fourth], true, []) := by
    have noIpv4 : readIpv4Addr (hex 0xffff ++ ':' :: mapped.toText) = none :=
      readIpv4Addr_of_noDigit (noDigit_cons (by decide) _)
    have segment := readSegment_hex 0xffff
      (noDigit_cons (show toDigit 16 ':' = none by decide) mapped.toText)
    rw [readGroups, readSeparator_zero, noIpv4, ite_self, readSeparator_zero, segment]
    simp only [embedded]
    rfl
  rw [prefixEq]
  exact readIpv6Addr_compressed head (by decide) tail addr (segments_of_toIpv4Mapped shape)

private theorem readIpv6Addr_groups (addr : Ipv6Addr) :
    readIpv6Addr (groupsFrom 0 addr.segments) = some (addr, []) := by
  have noDot := not_mem_groupsFrom (show digitValue '.' = 36 by decide) (by decide)
    addr.segments 0
  have read := readGroups_groupsFrom addr.segments 0 8 [] (Nat.le_of_eq addr.size)
    (by rwa [List.append_nil]) nofun (.inl addr.size)
  rw [List.append_nil] at read
  rw [readIpv6Addr, dif_pos (by rw [read]; exact addr.size)]
  simp only [read]

/-- A zero run of two or more segments leaves at most six printed ones. -/
private theorem readIpv6Addr_zeroes (addr : Ipv6Addr) {span : Span}
    (zero : IsZeroRun addr.segments span) (long : 1 < span.len) :
    readIpv6Addr (groupsFrom 0 (addr.segments.take span.start) ++
      ':' :: ':' :: groupsFrom 0 (addr.segments.drop (span.start + span.len))) =
        some (addr, []) := by
  have split := segments_split zero (by omega)
  have size := addr.size
  have lengths := congrArg List.length split
  simp only [List.length_append, List.length_take, List.length_replicate, List.length_drop,
    size] at lengths
  have dot : digitValue '.' = 36 := by decide
  have noDotHead := not_mem_groupsFrom dot (by decide) (addr.segments.take span.start) 0
  have noDotTail := not_mem_groupsFrom dot (by decide)
    (addr.segments.drop (span.start + span.len)) 0
  have colons := groupsEnd_colons (addr.segments.take span.start).length
    (groupsFrom 0 (addr.segments.drop (span.start + span.len)))
  have head := readGroups_groupsFrom (addr.segments.take span.start) 0 8
    (':' :: ':' :: groupsFrom 0 (addr.segments.drop (span.start + span.len)))
    (by rw [List.length_take]; omega)
    (by
      simp only [List.mem_append, List.mem_cons, not_or]
      exact ⟨noDotHead, by decide, by decide, noDotTail⟩)
    colons.1 (.inr (by rw [Nat.zero_add]; exact colons.2))
  have tail := readGroups_groupsFrom (addr.segments.drop (span.start + span.len)) 0
    (8 - ((addr.segments.take span.start).length + 1)) []
    (by rw [List.length_drop, List.length_take]; omega)
    (by rwa [List.append_nil]) nofun (.inr (groupsEnd_nil _).2)
  rw [List.append_nil] at tail
  refine readIpv6Addr_compressed head (by rw [List.length_take]; omega) tail addr ?_
  have zeros : 8 - (addr.segments.take span.start).length -
      (addr.segments.drop (span.start + span.len)).length = span.len := by
    rw [List.length_take, List.length_drop]
    omega
  rw [zeros]
  exact split

/-- An IPv6 address is read back as it was printed. -/
theorem readIpv6Addr_toText (addr : Ipv6Addr) : readIpv6Addr addr.toText = some (addr, []) := by
  unfold Ipv6Addr.toText
  split
  · next mapped shape => exact readIpv6Addr_mapped shape
  · by_cases long : 1 < (longestZeroes addr.segments 0 ⟨0, 0⟩ ⟨0, 0⟩).len
    · have empty : IsZeroRun addr.segments ⟨0, 0⟩ := fun position _ upper => by
        simp only at upper
        omega
      have zero := longestZeroes_isZeroRun addr.segments addr.segments 0 _ _ rfl empty empty
        (.inl rfl)
      simp only [if_pos long]
      exact readIpv6Addr_zeroes addr zero long
    · simp only [if_neg long]
      exact readIpv6Addr_groups addr

/-- An IPv6 text is no IPv4 text: it has no dot, or it starts with a colon. -/
theorem readIpv4Addr_ipv6 (addr : Ipv6Addr) : readIpv4Addr addr.toText = none := by
  have noDot : ∀ segments, '.' ∉ fmtSubslice segments := fun segments =>
    not_mem_groupsFrom (show digitValue '.' = 36 by decide) (by decide) segments 0
  unfold Ipv6Addr.toText
  split
  · exact readIpv4Addr_of_noDigit (noDigit_cons (by decide) _)
  · apply readIpv4Addr_of_no_dot
    dsimp only
    split
    · simp only [List.mem_append, List.mem_cons, not_or]
      exact ⟨noDot _, by decide, by decide, noDot _⟩
    · exact noDot _

/-- Parsing the canonical text of an address gives that address back. -/
theorem parse_toText (addr : IpAddr) : parse addr.toText = some addr := by
  cases addr with
  | v4 addr =>
      have read := readIpv4Addr_toText addr (show NoDigit 10 [] from nofun)
      rw [List.append_nil] at read
      rw [parse, IpAddr.toText, read]
      rfl
  | v6 addr =>
      rw [parse, IpAddr.toText, readIpv4Addr_ipv6, readIpv6Addr_toText]
      rfl

/-! ## The characters of a printed address -/

theorem Ipv4Addr.mem_toText {addr : Ipv4Addr} {char : Char} (member : char ∈ addr.toText) :
    char.isDigit = true ∨ char = '.' := by
  simp only [Ipv4Addr.toText, List.append_assoc, List.cons_append, List.mem_append,
    List.mem_cons] at member
  rcases member with digit | dot | digit | dot | digit | dot | digit
  · exact .inl (isDigit_of_mem_decimal digit)
  · exact .inr dot
  · exact .inl (isDigit_of_mem_decimal digit)
  · exact .inr dot
  · exact .inl (isDigit_of_mem_decimal digit)
  · exact .inr dot
  · exact .inl (isDigit_of_mem_decimal digit)

theorem digitValue_of_isDigit {char : Char} (digit : char.isDigit = true) :
    digitValue char ≠ 36 := by
  have range : 48 ≤ char.toNat ∧ char.toNat ≤ 57 := by
    simp only [Char.isDigit, Bool.and_eq_true, decide_eq_true_eq, ge_iff_le] at digit
    exact digit
  unfold digitValue
  simp only [if_pos range]
  omega

/-- Addresses are printed with letters, digits, colons and dots only. -/
theorem IpAddr.mem_toText {addr : IpAddr} {char : Char} (member : char ∈ addr.toText) :
    digitValue char ≠ 36 ∨ char = ':' ∨ char = '.' := by
  have ofV4 : ∀ v4 : Ipv4Addr, char ∈ v4.toText →
      digitValue char ≠ 36 ∨ char = ':' ∨ char = '.' := by
    intro v4 inside
    rcases Ipv4Addr.mem_toText inside with digit | dot
    · exact .inl (digitValue_of_isDigit digit)
    · exact .inr (.inr dot)
  have ofGroups : ∀ segments, char ∈ fmtSubslice segments →
      digitValue char ≠ 36 ∨ char = ':' ∨ char = '.' := by
    intro segments inside
    by_contra other
    simp only [not_or, not_not] at other
    exact not_mem_groupsFrom other.1 other.2.1 segments 0 inside
  cases addr with
  | v4 addr => exact ofV4 addr member
  | v6 addr =>
      rw [IpAddr.toText, Ipv6Addr.toText] at member
      split at member
      · rcases List.mem_append.mp member with fixed | mapped
        · have fixedChars : ∀ other ∈ "::ffff:".toList,
              decide (digitValue other ≠ 36 ∨ other = ':') = true :=
            List.all_eq_true.mp (by decide)
          rcases of_decide_eq_true (fixedChars char fixed) with digit | colon
          · exact .inl digit
          · exact .inr (.inl colon)
        · exact ofV4 _ mapped
      · dsimp only at member
        split at member
        · simp only [List.mem_append, List.mem_cons] at member
          rcases member with head | colon | colon | tail
          · exact ofGroups _ head
          · exact .inr (.inl colon)
          · exact .inr (.inl colon)
          · exact ofGroups _ tail
        · exact ofGroups _ member

theorem isWhitespace_of_digitValue {char : Char} (digit : digitValue char ≠ 36) :
    isWhitespace char = false := by
  by_contra white
  simp only [isWhitespace, Bool.not_eq_false, Bool.or_eq_true, Bool.and_eq_true,
    decide_eq_true_eq, beq_iff_eq] at white
  apply digit
  unfold digitValue
  dsimp only
  rw [if_neg (by omega), if_neg (by omega), if_neg (by omega)]

theorem IpAddr.isWhitespace_of_mem_toText {addr : IpAddr} {char : Char}
    (member : char ∈ addr.toText) : isWhitespace char = false := by
  rcases IpAddr.mem_toText member with digit | rfl | rfl
  · exact isWhitespace_of_digitValue digit
  · decide
  · decide

/-- A printed IPv6 address has a colon. -/
theorem Ipv6Addr.colon_mem_toText (addr : Ipv6Addr) : ':' ∈ addr.toText := by
  have ofGroups : ∀ segments : List UInt16, 1 < segments.length → ':' ∈ fmtSubslice segments := by
    intro segments several
    cases segments with
    | nil => exact absurd several (by decide)
    | cons first tail =>
        cases tail with
        | nil => exact absurd several (Nat.lt_irrefl 1)
        | cons second rest =>
            exact List.mem_append_right _ (List.mem_append_left _ List.mem_cons_self)
  unfold Ipv6Addr.toText
  split
  · exact List.mem_append_left _ List.mem_cons_self
  · dsimp only
    split
    · exact List.mem_append_right _ List.mem_cons_self
    · exact ofGroups addr.segments (by rw [addr.size]; decide)

end IpText

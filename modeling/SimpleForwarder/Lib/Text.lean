import Mathlib.Data.List.Basic
import Mathlib.Data.List.TakeWhile
import Mathlib.Tactic.Common

/-!
Contract: texts and bytes as the Rust standard library treats them.

Owns: UTF-8 encoding and lossy decoding, Unicode white space with `trim` and
`split_whitespace`, the split at the last separator, ASCII case and white space
of bytes, and the decimal numerals of `u16`.

A `str` is the list of its Unicode scalar values, a byte slice the list of its
bytes. `fromUtf8Lossy` replaces every maximal invalid part by U+FFFD, in the
order in which the standard decoder meets it.

Does not own: any format built from texts.
-/

namespace RustText

abbrev Bytes := List UInt8

abbrev Text := List Char

/-! ## UTF-8 -/

/-- `str::as_bytes`. -/
def asBytes (text : Text) : Bytes := text.flatMap String.utf8EncodeChar

@[simp] theorem asBytes_cons (char : Char) (text : Text) :
    asBytes (char :: text) = String.utf8EncodeChar char ++ asBytes text := rfl

@[simp] theorem asBytes_append (left right : Text) :
    asBytes (left ++ right) = asBytes left ++ asBytes right := by
  simp [asBytes]

def replacementChar : Char := Char.ofNat 0xFFFD

/-- A continuation byte, `byte & 192 == 128`. -/
def isContinuation (byte : UInt8) : Bool := 0x80 ≤ byte.toNat && byte.toNat < 0xC0

/-- The second bytes the decoder admits after a three-byte lead. -/
def isSecondOfThree (lead second : UInt8) : Bool :=
  let s := second.toNat
  if lead = 0xE0 then 0xA0 ≤ s && s < 0xC0
  else if lead = 0xED then 0x80 ≤ s && s < 0xA0
  else 0x80 ≤ s && s < 0xC0

/-- The second bytes the decoder admits after a four-byte lead. -/
def isSecondOfFour (lead second : UInt8) : Bool :=
  let s := second.toNat
  if lead = 0xF0 then 0x90 ≤ s && s < 0xC0
  else if lead = 0xF4 then 0x80 ≤ s && s < 0x90
  else 0x80 ≤ s && s < 0xC0

/-- `String::from_utf8_lossy`. -/
def fromUtf8Lossy : Bytes → Text
  | [] => []
  | lead :: rest =>
      let l := lead.toNat
      if l < 0x80 then Char.ofNat l :: fromUtf8Lossy rest
      else if 0xC2 ≤ l ∧ l < 0xE0 then
        match rest with
        | [] => [replacementChar]
        | second :: rest₁ =>
            if isContinuation second then
              Char.ofNat (l % 32 * 64 + second.toNat % 64) :: fromUtf8Lossy rest₁
            else replacementChar :: fromUtf8Lossy (second :: rest₁)
      else if 0xE0 ≤ l ∧ l < 0xF0 then
        match rest with
        | [] => [replacementChar]
        | second :: rest₁ =>
            if isSecondOfThree lead second then
              match rest₁ with
              | [] => [replacementChar]
              | third :: rest₂ =>
                  if isContinuation third then
                    Char.ofNat (l % 16 * 4096 + second.toNat % 64 * 64 + third.toNat % 64) ::
                      fromUtf8Lossy rest₂
                  else replacementChar :: fromUtf8Lossy (third :: rest₂)
            else replacementChar :: fromUtf8Lossy (second :: rest₁)
      else if 0xF0 ≤ l ∧ l < 0xF5 then
        match rest with
        | [] => [replacementChar]
        | second :: rest₁ =>
            if isSecondOfFour lead second then
              match rest₁ with
              | [] => [replacementChar]
              | third :: rest₂ =>
                  if isContinuation third then
                    match rest₂ with
                    | [] => [replacementChar]
                    | fourth :: rest₃ =>
                        if isContinuation fourth then
                          Char.ofNat (l % 8 * 262144 + second.toNat % 64 * 4096 +
                              third.toNat % 64 * 64 + fourth.toNat % 64) ::
                            fromUtf8Lossy rest₃
                        else replacementChar :: fromUtf8Lossy (fourth :: rest₃)
                  else replacementChar :: fromUtf8Lossy (third :: rest₂)
            else replacementChar :: fromUtf8Lossy (second :: rest₁)
      else replacementChar :: fromUtf8Lossy rest

/-- Decoding undoes the encoding of one scalar value. -/
theorem fromUtf8Lossy_encode_append (char : Char) (rest : Bytes) :
    fromUtf8Lossy (String.utf8EncodeChar char ++ rest) = char :: fromUtf8Lossy rest := by
  have valid := char.valid
  have codeEq : char.val.toNat = char.toNat := rfl
  have byteOf : ∀ n : Nat, n < 256 → (UInt8.ofNat n).toNat = n := by
    intro n small
    simp only [UInt8.toNat_ofNat']
    omega
  have recode : ∀ n : Nat, n = char.toNat → Char.ofNat n = char := by
    intro n same
    rw [same, Char.ofNat_toNat]
  simp only [UInt32.isValidChar, Nat.isValidChar, codeEq] at valid
  unfold String.utf8EncodeChar
  simp only [codeEq]
  by_cases one : char.toNat ≤ 0x7f
  · rw [if_pos one, List.singleton_append, fromUtf8Lossy.eq_def]
    simp only [byteOf _ (show char.toNat < 256 by omega)]
    rw [if_pos (by omega), Char.ofNat_toNat]
  rw [if_neg one]
  by_cases two : char.toNat ≤ 0x7ff
  · rw [if_pos two, List.cons_append, List.singleton_append, fromUtf8Lossy.eq_def]
    simp only [byteOf _ (show char.toNat / 64 % 32 + 192 < 256 by omega)]
    rw [if_neg (by omega), if_pos (by omega), if_pos]
    · rw [byteOf _ (by omega), recode _ (by omega)]
    · simp only [isContinuation, byteOf _ (show char.toNat % 64 + 128 < 256 by omega)]
      simp only [Bool.and_eq_true, decide_eq_true_eq]
      omega
  rw [if_neg two]
  by_cases three : char.toNat ≤ 0xffff
  · rw [if_pos three, List.cons_append, List.cons_append, List.singleton_append,
      fromUtf8Lossy.eq_def]
    simp only [byteOf _ (show char.toNat / 4096 % 16 + 224 < 256 by omega)]
    rw [if_neg (by omega), if_neg (by omega), if_pos (by omega), if_pos, if_pos]
    · rw [byteOf _ (by omega), byteOf _ (by omega), recode _ (by omega)]
    · simp only [isContinuation, byteOf _ (show char.toNat % 64 + 128 < 256 by omega)]
      simp only [Bool.and_eq_true, decide_eq_true_eq]
      omega
    · simp only [isSecondOfThree, ← UInt8.toNat_inj,
        byteOf _ (show char.toNat / 4096 % 16 + 224 < 256 by omega),
        byteOf _ (show char.toNat / 64 % 64 + 128 < 256 by omega)]
      split <;> [skip; split] <;>
        simp_all only [Bool.and_eq_true, decide_eq_true_eq, UInt8.reduceToNat] <;> omega
  rw [if_neg three]
  · rw [List.cons_append, List.cons_append, List.cons_append, List.singleton_append,
      fromUtf8Lossy.eq_def]
    simp only [byteOf _ (show char.toNat / 262144 % 8 + 240 < 256 by omega)]
    rw [if_neg (by omega), if_neg (by omega), if_neg (by omega), if_pos (by omega), if_pos,
      if_pos, if_pos]
    · rw [byteOf _ (by omega), byteOf _ (by omega), byteOf _ (by omega), recode _ (by omega)]
    · simp only [isContinuation, byteOf _ (show char.toNat % 64 + 128 < 256 by omega)]
      simp only [Bool.and_eq_true, decide_eq_true_eq]
      omega
    · simp only [isContinuation, byteOf _ (show char.toNat / 64 % 64 + 128 < 256 by omega)]
      simp only [Bool.and_eq_true, decide_eq_true_eq]
      omega
    · simp only [isSecondOfFour, ← UInt8.toNat_inj,
        byteOf _ (show char.toNat / 262144 % 8 + 240 < 256 by omega),
        byteOf _ (show char.toNat / 4096 % 64 + 128 < 256 by omega)]
      split <;> [skip; split] <;>
        simp_all only [Bool.and_eq_true, decide_eq_true_eq, UInt8.reduceToNat] <;> omega

theorem fromUtf8Lossy_asBytes_append (text : Text) (rest : Bytes) :
    fromUtf8Lossy (asBytes text ++ rest) = text ++ fromUtf8Lossy rest := by
  induction text with
  | nil => rfl
  | cons char text inductionHypothesis =>
      rw [asBytes_cons, List.append_assoc, fromUtf8Lossy_encode_append, inductionHypothesis,
        List.cons_append]

@[simp] theorem fromUtf8Lossy_asBytes (text : Text) : fromUtf8Lossy (asBytes text) = text := by
  have decoded := fromUtf8Lossy_asBytes_append text []
  rwa [List.append_nil, show fromUtf8Lossy [] = [] from rfl, List.append_nil] at decoded

/-! ## White space -/

/-- `char::is_whitespace`: the Unicode property `White_Space`. -/
def isWhitespace (char : Char) : Bool :=
  let c := char.toNat
  (9 ≤ c && c ≤ 13) || c == 0x20 || c == 0x85 || c == 0xA0 || c == 0x1680 ||
    (0x2000 ≤ c && c ≤ 0x200A) || c == 0x2028 || c == 0x2029 || c == 0x202F || c == 0x205F ||
    c == 0x3000

/-- A text without white space, as a test. -/
theorem solid_of_all {text : Text} (all : (text.all fun char => !isWhitespace char) = true) :
    ∀ char ∈ text, isWhitespace char = false := by
  intro char member
  have solid := List.all_eq_true.mp all char member
  simpa using solid

/-- `str::trim_matches`. -/
def trimMatches (strip : Char → Bool) (text : Text) : Text :=
  ((text.dropWhile strip).reverse.dropWhile strip).reverse

/-- `str::trim`. -/
def trim (text : Text) : Text := trimMatches isWhitespace text

/-- What is trimmed off stood around what is left. -/
theorem trimMatches_encloses (strip : Char → Bool) (text : Text) :
    ∃ before after, text = before ++ (trimMatches strip text ++ after) ∧
      (∀ char ∈ before, strip char = true) ∧ ∀ char ∈ after, strip char = true := by
  have front : text.takeWhile strip ++ text.dropWhile strip = text :=
    List.takeWhile_append_dropWhile
  have back := congrArg List.reverse (List.takeWhile_append_dropWhile
    (p := strip) (l := (text.dropWhile strip).reverse))
  rw [List.reverse_append, List.reverse_reverse] at back
  refine ⟨text.takeWhile strip,
    ((text.dropWhile strip).reverse.takeWhile strip).reverse, ?_, ?_, ?_⟩
  · rw [trimMatches, back, front]
  · intro char member
    exact List.mem_takeWhile_imp member
  · intro char member
    exact List.mem_takeWhile_imp (List.mem_reverse.mp member)

/-- The back is trimmed up to the last character that is kept. -/
theorem dropWhile_append_of_stop {strip : Char → Bool} {text : Text}
    (stops : ∀ char, text.head? = some char → strip char = false) (front : Text) :
    (front ++ text).dropWhile strip = front.dropWhile strip ++ text := by
  induction front with
  | nil =>
      cases text with
      | nil => rfl
      | cons char text =>
          exact List.dropWhile_cons_of_neg (Bool.eq_false_iff.mp (stops char rfl))
  | cons char front inductionHypothesis =>
      rw [List.cons_append]
      by_cases stripped : strip char = true
      · rw [List.dropWhile_cons_of_pos stripped, List.dropWhile_cons_of_pos stripped,
          inductionHypothesis]
      · rw [List.dropWhile_cons_of_neg stripped, List.dropWhile_cons_of_neg stripped,
          List.cons_append]

/-- `str::trim_end_matches`. -/
def trimEndMatches (strip : Char → Bool) (text : Text) : Text :=
  (text.reverse.dropWhile strip).reverse

theorem trimEndMatches_append_of_stop {strip : Char → Bool} {text : Text}
    (stops : ∀ char, text.getLast? = some char → strip char = false) (after : Text) :
    trimEndMatches strip (text ++ after) = text ++ trimEndMatches strip after := by
  have stopsBack : ∀ char, text.reverse.head? = some char → strip char = false := by
    intro char isLast
    rw [List.head?_reverse] at isLast
    exact stops char isLast
  rw [trimEndMatches, List.reverse_append, dropWhile_append_of_stop stopsBack, List.reverse_append,
    List.reverse_reverse]
  rfl

theorem trimEndMatches_eq_nil {strip : Char → Bool} {text : Text}
    (stripped : ∀ char ∈ text, strip char = true) : trimEndMatches strip text = [] := by
  have all : ∀ char ∈ text.reverse, strip char = true := fun char member =>
    stripped char (List.mem_reverse.mp member)
  rw [trimEndMatches, List.dropWhile_eq_nil_iff.mpr all, List.reverse_nil]

/-- A text that starts and ends with characters that are kept is kept. -/
theorem trimMatches_around {strip : Char → Bool} {before solid : Text}
    (stripped : ∀ char ∈ before, strip char = true)
    (first : ∀ char, solid.head? = some char → strip char = false)
    (last : ∀ char, solid.getLast? = some char → strip char = false) (nonempty : solid ≠ [])
    (after : Text) :
    trimMatches strip (before ++ (solid ++ after)) = solid ++ trimEndMatches strip after := by
  have firstOfAll : ∀ char, (solid ++ after).head? = some char → strip char = false := by
    intro char isFirst
    rw [List.head?_append_of_ne_nil _ nonempty] at isFirst
    exact first char isFirst
  have front : (before ++ (solid ++ after)).dropWhile strip = solid ++ after := by
    rw [dropWhile_append_of_stop firstOfAll, List.dropWhile_eq_nil_iff.mpr stripped,
      List.nil_append]
  have trimmed : trimMatches strip (before ++ (solid ++ after)) =
      trimEndMatches strip (solid ++ after) := by
    rw [trimMatches, front]
    rfl
  rw [trimmed, trimEndMatches_append_of_stop last]

/-- `str::split_whitespace`. -/
def splitWhitespace (text : Text) : List Text :=
  (text.splitOnP isWhitespace).filter fun word => !word.isEmpty

@[simp] theorem splitWhitespace_nil : splitWhitespace [] = [] := by decide

theorem splitWhitespace_cons_of_whitespace {char : Char} (white : isWhitespace char = true)
    (text : Text) : splitWhitespace (char :: text) = splitWhitespace text := by
  have split := List.splitOnP_append_cons (p := isWhitespace) [] text white
  rw [List.nil_append] at split
  rw [splitWhitespace, splitWhitespace, split]
  rfl

theorem splitWhitespace_concat_of_whitespace {char : Char} (white : isWhitespace char = true)
    (text : Text) : splitWhitespace (text ++ [char]) = splitWhitespace text := by
  rw [splitWhitespace, splitWhitespace, List.splitOnP_append_cons text [] white,
    List.filter_append]
  simp

/-- One word, up to the white space that ends it. -/
theorem splitWhitespace_word {word : Text} (nonempty : word ≠ [])
    (solid : ∀ char ∈ word, isWhitespace char = false) {char : Char}
    (white : isWhitespace char = true) (text : Text) :
    splitWhitespace (word ++ char :: text) = word :: splitWhitespace text := by
  rw [splitWhitespace, List.splitOnP_append_cons_of_forall_mem solid char white,
    List.filter_cons_of_pos (by simpa using nonempty)]
  rfl

theorem splitWhitespace_dropWhile (text : Text) :
    splitWhitespace (text.dropWhile isWhitespace) = splitWhitespace text := by
  induction text with
  | nil => rfl
  | cons char text inductionHypothesis =>
      by_cases white : isWhitespace char = true
      · rw [List.dropWhile_cons_of_pos white, inductionHypothesis,
          splitWhitespace_cons_of_whitespace white]
      · rw [List.dropWhile_cons_of_neg white]

/-- Trimming does not change the words of a text. -/
theorem splitWhitespace_trim (text : Text) :
    splitWhitespace (trim text) = splitWhitespace text := by
  have backward : ∀ reversed : Text,
      splitWhitespace (reversed.dropWhile isWhitespace).reverse =
        splitWhitespace reversed.reverse := by
    intro reversed
    induction reversed with
    | nil => rfl
    | cons char reversed inductionHypothesis =>
        by_cases white : isWhitespace char = true
        · rw [List.dropWhile_cons_of_pos white, inductionHypothesis, List.reverse_cons,
            splitWhitespace_concat_of_whitespace white]
        · rw [List.dropWhile_cons_of_neg white]
  rw [trim, trimMatches, backward, List.reverse_reverse, splitWhitespace_dropWhile]

/-- The pieces of a split contain no separator. -/
theorem of_mem_splitOnP {α : Type} {separates : α → Bool} {items piece : List α}
    (member : piece ∈ items.splitOnP separates) : ∀ item ∈ piece, separates item = false := by
  induction items generalizing piece with
  | nil =>
      rw [List.splitOnP_nil, List.mem_singleton] at member
      rw [member]
      exact nofun
  | cons item items inductionHypothesis =>
      rw [List.splitOnP_cons_eq_if_modifyHead] at member
      split at member
      · rcases List.mem_cons.mp member with rfl | later
        · exact nofun
        · exact inductionHypothesis later
      · next plain =>
          obtain ⟨first, rest, split⟩ :=
            List.exists_cons_of_ne_nil (List.splitOnP_ne_nil separates items)
          rw [split, List.modifyHead_cons] at member
          rw [split] at inductionHypothesis
          rcases List.mem_cons.mp member with rfl | later
          · intro other inPiece
            rcases List.mem_cons.mp inPiece with rfl | inFirst
            · exact Bool.eq_false_iff.mpr plain
            · exact inductionHypothesis List.mem_cons_self other inFirst
          · exact inductionHypothesis (List.mem_cons_of_mem _ later)

/-- A word has no white space. -/
theorem splitWhitespace_solid {text word : Text} (member : word ∈ splitWhitespace text) :
    ∀ char ∈ word, isWhitespace char = false :=
  of_mem_splitOnP (List.mem_of_mem_filter member)

/-! ## Splitting -/

/-- `str::rsplit_once` at a character. -/
def rsplitOnce (separator : Char) (text : Text) : Option (Text × Text) :=
  if separator ∈ text then
    let after := (text.reverse.takeWhile (· ≠ separator)).reverse
    some (text.take (text.length - after.length - 1), after)
  else none

theorem rsplitOnce_append {separator : Char} (before : Text) {after : Text}
    (last : separator ∉ after) :
    rsplitOnce separator (before ++ separator :: after) = some (before, after) := by
  have reversed : (before ++ separator :: after).reverse =
      after.reverse ++ separator :: before.reverse := by
    rw [List.reverse_append, List.reverse_cons, List.append_assoc, List.singleton_append]
  have plain : ∀ char ∈ after.reverse, decide (char ≠ separator) = true := by
    intro char member
    rw [decide_eq_true_iff]
    rintro rfl
    exact last (List.mem_reverse.mp member)
  have taken : ((before ++ separator :: after).reverse.takeWhile (· ≠ separator)).reverse =
      after := by
    rw [reversed, List.takeWhile_append_of_pos plain, List.takeWhile_cons_of_neg (by simp),
      List.append_nil, List.reverse_reverse]
  have kept : (before ++ separator :: after).length - after.length - 1 = before.length := by
    rw [List.length_append, List.length_cons]
    omega
  unfold rsplitOnce
  rw [if_pos (List.mem_append_right _ List.mem_cons_self)]
  dsimp only
  rw [taken, kept, List.take_left' rfl]

theorem rsplitOnce_eq_none_iff {separator : Char} {text : Text} :
    rsplitOnce separator text = none ↔ separator ∉ text := by
  unfold rsplitOnce
  by_cases member : separator ∈ text
  · rw [if_pos member]
    simp [member]
  · rw [if_neg member]
    simp [member]

/-- The text is split at its last separator. -/
theorem rsplitOnce_eq_some_iff {separator : Char} {text before after : Text} :
    rsplitOnce separator text = some (before, after) ↔
      text = before ++ separator :: after ∧ separator ∉ after := by
  constructor
  · intro split
    have member : separator ∈ text := by
      by_contra missing
      rw [rsplitOnce_eq_none_iff.mpr missing] at split
      exact absurd split nofun
    obtain ⟨last, front, shape, noneLast⟩ :=
      List.eq_append_cons_of_mem (List.mem_reverse.mpr member)
    have text_eq : text = front.reverse ++ separator :: last.reverse := by
      rw [← List.reverse_reverse text, shape, List.reverse_append, List.reverse_cons,
        List.append_assoc, List.singleton_append]
    have noneBehind : separator ∉ last.reverse := fun inside =>
      noneLast (List.mem_reverse.mp inside)
    rw [text_eq, rsplitOnce_append _ noneBehind] at split
    cases split
    exact ⟨text_eq, noneBehind⟩
  · intro shape
    rw [shape.1]
    exact rsplitOnce_append before shape.2

/-- The first position of an item is where the items split before it. -/
theorem position_eq_some_iff {α : Type} [DecidableEq α] {item : α} {items : List α}
    {position : Nat} :
    items.findIdx? (· = item) = some position ↔
      ∃ before after, items = before ++ item :: after ∧ item ∉ before ∧
        before.length = position := by
  rw [List.findIdx?_eq_some_iff_getElem]
  constructor
  · rintro ⟨inside, isItem, first⟩
    have found : items[position] = item := of_decide_eq_true isItem
    refine ⟨items.take position, items.drop (position + 1), ?_, ?_, ?_⟩
    · rw [← found, List.getElem_cons_drop, List.take_append_drop]
    · intro member
      obtain ⟨index, bound, same⟩ := List.getElem_of_mem member
      rw [List.length_take] at bound
      rw [List.getElem_take] at same
      exact first index (by omega) (decide_eq_true same)
    · rw [List.length_take, Nat.min_eq_left (Nat.le_of_lt inside)]
  · rintro ⟨before, after, rfl, none, rfl⟩
    refine ⟨by simp, by simp, ?_⟩
    intro index bound
    rw [List.getElem_append_left bound]
    intro isItem
    exact none (of_decide_eq_true isItem ▸ List.getElem_mem bound)

/-! ## ASCII bytes -/

/-- `b'\n'`. -/
abbrev lf : UInt8 := 0x0A

/-- `b'\r'`. -/
abbrev cr : UInt8 := 0x0D

/-- `u8::is_ascii_whitespace`. -/
def isAsciiWhitespace (byte : UInt8) : Bool :=
  byte == 0x20 || byte == 0x09 || byte == 0x0A || byte == 0x0C || byte == 0x0D

/-- `u8::to_ascii_lowercase`. -/
def toAsciiLowercase (byte : UInt8) : UInt8 :=
  if 0x41 ≤ byte ∧ byte ≤ 0x5A then byte + 0x20 else byte

/-- `<[u8]>::eq_ignore_ascii_case`. -/
def eqIgnoreAsciiCase (left right : Bytes) : Bool :=
  left.map toAsciiLowercase == right.map toAsciiLowercase

/-- A line feed is encoded only as itself: the bytes of other characters are
larger or the character. -/
theorem lf_not_mem_asBytes {text : Text} (plain : '\n' ∉ text) : lf ∉ asBytes text := by
  intro member
  obtain ⟨char, inText, inChar⟩ := List.mem_flatMap.mp member
  have notFeed : char.toNat ≠ 10 := by
    intro feed
    have isFeed : char = '\n' := by rw [← Char.ofNat_toNat char, feed]
    rw [isFeed] at inText
    exact plain inText
  have codeEq : char.val.toNat = char.toNat := rfl
  have feedEq : lf.toNat = 10 := rfl
  unfold String.utf8EncodeChar at inChar
  simp only [codeEq] at inChar
  split at inChar
  · simp only [List.mem_singleton, ← UInt8.toNat_inj, UInt8.toNat_ofNat', feedEq] at inChar
    omega
  · split at inChar
    · simp only [List.mem_cons, List.not_mem_nil, or_false, ← UInt8.toNat_inj,
        UInt8.toNat_ofNat', feedEq] at inChar
      omega
    · split at inChar
      · simp only [List.mem_cons, List.not_mem_nil, or_false, ← UInt8.toNat_inj,
          UInt8.toNat_ofNat', feedEq] at inChar
        omega
      · simp only [List.mem_cons, List.not_mem_nil, or_false, ← UInt8.toNat_inj,
          UInt8.toNat_ofNat', feedEq] at inChar
        omega

theorem lf_not_mem_concat_cr {line : Bytes} (noFeed : lf ∉ line) : lf ∉ line ++ [cr] := by
  have notReturn : lf ≠ cr := by decide
  simp [noFeed, notReturn]

theorem lf_not_mem_of_solid {text : Text}
    (solid : ∀ char ∈ text, isWhitespace char = false) : lf ∉ asBytes text := by
  refine lf_not_mem_asBytes fun member => ?_
  have white : isWhitespace '\n' = true := by decide
  rw [solid _ member] at white
  exact absurd white nofun

/-! ## Decimal numerals -/

/-- `u16 as Display`. -/
def decimal (number : Nat) : Text := Nat.toDigits 10 number

/-- The digits of an unsigned numeral: `from_str` admits one leading plus. -/
def stripPlus : Text → Text
  | '+' :: digits => digits
  | digits => digits

/-- `u16::from_str`: an optional plus sign and at least one decimal digit,
within range. -/
def parseU16 (text : Text) : Option UInt16 :=
  let digits := stripPlus text
  if digits ≠ [] ∧ digits.all Char.isDigit ∧ Nat.ofDigitChars 10 digits 0 < 65536 then
    some (UInt16.ofNat (Nat.ofDigitChars 10 digits 0))
  else none

theorem isDigit_of_mem_decimal {number : Nat} {char : Char} (member : char ∈ decimal number) :
    char.isDigit = true :=
  Nat.isDigit_of_mem_toDigits (by decide) (by decide) member

/-- A port number is read back as it was printed. -/
theorem parseU16_decimal (port : UInt16) : parseU16 (decimal port.toNat) = some port := by
  have digits : ∀ char ∈ decimal port.toNat, char.isDigit = true := fun _ => isDigit_of_mem_decimal
  have unsigned : stripPlus (decimal port.toNat) = decimal port.toNat := by
    unfold stripPlus
    split
    next rest shape =>
      have plus := digits '+' (by rw [shape]; exact List.mem_cons_self)
      exact absurd plus (by decide)
    next => rfl
  have value : Nat.ofDigitChars 10 (decimal port.toNat) 0 = port.toNat :=
    Nat.ofDigitChars_ten_toDigits
  rw [parseU16]
  simp only [unsigned, value]
  rw [if_pos ⟨Nat.toDigits_ne_nil, List.all_eq_true.mpr digits, port.toNat_lt⟩, UInt16.ofNat_toNat]

end RustText

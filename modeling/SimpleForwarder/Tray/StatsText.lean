import SimpleForwarder.Lib.Text

/-!
Contract: numbers in the statistics dialog (`tray.rs`).

Owns: `format_with_commas` and `format_duration`, and that nothing is lost in
either of the two texts: the number can be read back from it.

Does not own: the byte counts, whose text is rounded.
-/

namespace SimpleForwarder

open RustText

/-! ## Digits in groups of three -/

/-- A digit with its index of `length` digits, behind its comma if it has one. -/
def groupedDigit (length : Nat) (digit : Char × Nat) : Text :=
  if digit.2 > 0 ∧ (length - digit.2) % 3 = 0 then [',', digit.1] else [digit.1]

def formatWithCommas (n : Nat) : Text :=
  let s := decimal n
  s.zipIdx.flatMap (groupedDigit s.length)

/-- A text in groups: the first one of one to three characters, the others of three. -/
structure IsGrouped (text digits : Text) (first : Text) (groups : List Text) : Prop where
  text_eq : text = first ++ groups.flatMap (',' :: ·)
  digits_eq : first ++ groups.flatten = digits
  leading : 1 ≤ first.length ∧ first.length ≤ 3
  full : ∀ group ∈ groups, group.length = 3

/-- What the loop writes for the digits behind `index`, which is not the first. -/
theorem grouped_rest (rest : Text) {length index : Nat} (later : 0 < index)
    (total : length = index + rest.length) :
    ∃ (part : Text) (groups : List Text),
      (rest.zipIdx index).flatMap (groupedDigit length) =
        part ++ groups.flatMap (',' :: ·) ∧
      part ++ groups.flatten = rest ∧ part.length = rest.length % 3 ∧
      ∀ group ∈ groups, group.length = 3 := by
  induction rest generalizing index with
  | nil => exact ⟨[], [], rfl, rfl, rfl, nofun⟩
  | cons digit rest inductionHypothesis =>
      rw [List.length_cons] at total
      obtain ⟨part, groups, text, whole, short, full⟩ :=
        inductionHypothesis (Nat.succ_pos index) (by omega)
      have remaining : length - index = rest.length + 1 := by omega
      rw [List.zipIdx_cons, List.flatMap_cons, text]
      by_cases comma : (rest.length + 1) % 3 = 0
      · -- the digit starts a group, which the two before the next comma complete
        have starts : groupedDigit length (digit, index) = [',', digit] :=
          if_pos ⟨later, by rw [remaining]; exact comma⟩
        refine ⟨[], (digit :: part) :: groups, ?_, ?_, ?_, ?_⟩
        · rw [starts]
          simp
        · simp [whole]
        · rw [List.length_cons]
          exact comma.symm
        · intro group member
          rcases List.mem_cons.mp member with rfl | member
          · rw [List.length_cons, short]
            omega
          · exact full group member
      · have plain : groupedDigit length (digit, index) = [digit] :=
          if_neg fun both => comma (by rw [← remaining]; exact both.2)
        refine ⟨digit :: part, groups, ?_, ?_, ?_, full⟩
        · rw [plain]
          rfl
        · exact congrArg (digit :: ·) whole
        · rw [List.length_cons, List.length_cons, short]
          omega

/-- The text of a number: its digits in groups of three from the right. Without the
commas it is the number. -/
theorem formatWithCommas_grouped (n : Nat) :
    (∃ first groups, IsGrouped (formatWithCommas n) (decimal n) first groups) ∧
      Nat.ofDigitChars 10 ((formatWithCommas n).filter Char.isDigit) 0 = n := by
  have shape : ∃ digit rest, decimal n = digit :: rest :=
    List.exists_cons_of_ne_nil Nat.toDigits_ne_nil
  have grouped : ∃ first groups, IsGrouped (formatWithCommas n) (decimal n) first groups := by
    obtain ⟨digit, rest, digits⟩ := shape
    obtain ⟨part, groups, text, whole, short, full⟩ :=
      grouped_rest rest Nat.one_pos (Nat.add_comm rest.length 1)
    have below : part.length < 3 := by
      rw [short]
      exact Nat.mod_lt _ (by decide)
    refine ⟨digit :: part, groups, ?_, ?_, ?_, full⟩
    · have leading : groupedDigit (rest.length + 1) (digit, 0) = [digit] := if_neg (by simp)
      unfold formatWithCommas
      rw [digits]
      dsimp only
      rw [List.length_cons, List.zipIdx_cons, List.flatMap_cons, leading, text]
      rfl
    · rw [digits]
      exact congrArg (digit :: ·) whole
    · rw [List.length_cons]
      omega
  refine ⟨grouped, ?_⟩
  obtain ⟨first, groups, isGrouped⟩ := grouped
  have digit : ∀ char ∈ first ++ groups.flatten, char.isDigit = true := by
    rw [isGrouped.digits_eq]
    exact fun _ => isDigit_of_mem_decimal
  have keeps : ∀ part : Text, (∀ char ∈ part, char.isDigit = true) →
      part.filter Char.isDigit = part := fun part digits => List.filter_eq_self.mpr digits
  have inFirst : first.filter Char.isDigit = first :=
    keeps first fun char member => digit char (List.mem_append_left _ member)
  have inGroups : (groups.flatMap (',' :: ·)).filter Char.isDigit = groups.flatten := by
    have each : ∀ group ∈ groups, (',' :: group).filter Char.isDigit = group := by
      intro group member
      rw [List.filter_cons_of_neg (by decide)]
      exact keeps group fun char inside =>
        digit char (List.mem_append_right _ (List.mem_flatten.mpr ⟨group, member, inside⟩))
    rw [List.filter_flatMap, List.flatMap_congr each, List.flatMap_id']
  rw [isGrouped.text_eq, List.filter_append, inFirst, inGroups, isGrouped.digits_eq]
  exact Nat.ofDigitChars_ten_toDigits

example : formatWithCommas 1234567 = "1,234,567".toList := by decide +kernel

/-! ## Durations -/

/-- One of the parts, if its count is not zero. -/
def durationPart (count : Nat) (unit : Text) : List Text :=
  if count > 0 then [decimal count ++ ' ' :: (unit ++ if count > 1 then ['s'] else [])] else []

/-- The whole seconds of a duration, in words. -/
def formatDuration (secs : Nat) : Text :=
  if secs = 0 then "0 seconds".toList
  else
    let days := secs / 86400
    let hours := secs % 86400 / 3600
    let minutes := secs % 3600 / 60
    let seconds := secs % 60
    [' '].intercalate (durationPart days "day".toList ++ durationPart hours "hour".toList ++
      durationPart minutes "minute".toList ++ durationPart seconds "second".toList)

/-- The seconds of a unit, in singular or plural. -/
def unitSeconds (unit : Text) : Option Nat :=
  if unit = "day".toList ∨ unit = "days".toList then some 86400
  else if unit = "hour".toList ∨ unit = "hours".toList then some 3600
  else if unit = "minute".toList ∨ unit = "minutes".toList then some 60
  else if unit = "second".toList ∨ unit = "seconds".toList then some 1
  else none

def readWords : List Text → Option Nat
  | [] => some 0
  | count :: unit :: rest => do
      let seconds ← unitSeconds unit
      let more ← readWords rest
      some (Nat.ofDigitChars 10 count 0 * seconds + more)
  | [_] => none

/-- Reads counts and units in turn. -/
def readDuration (text : Text) : Option Nat := readWords (text.splitOn ' ')

/-! ## Reading a duration -/

section Duration

/-- A count with its unit, and how many seconds the unit has. -/
structure Counted where
  count : Nat
  unit : Text
  seconds : Nat
  known : unitSeconds unit = some seconds
  oneWord : ' ' ∉ unit

namespace Counted

def words (part : Counted) : List Text := [decimal part.count, part.unit]

def text (part : Counted) : Text := decimal part.count ++ ' ' :: part.unit

/-- The seconds of all parts. -/
def total : List Counted → Nat
  | [] => 0
  | part :: parts => part.count * part.seconds + total parts

@[simp] theorem total_append (parts others : List Counted) :
    total (parts ++ others) = total parts + total others := by
  induction parts with
  | nil => exact (Nat.zero_add _).symm
  | cons part parts inductionHypothesis =>
      rw [List.cons_append, total, total, inductionHypothesis, Nat.add_assoc]

theorem oneWord_of_mem_words {part : Counted} {word : Text} (member : word ∈ part.words) :
    ' ' ∉ word := by
  rcases List.mem_cons.mp member with rfl | member
  · intro space
    exact absurd (isDigit_of_mem_decimal space) (by decide)
  · rw [List.mem_singleton.mp member]
    exact part.oneWord

end Counted

/-- The parts with their words, all separated alike. -/
theorem intercalate_texts (parts : List Counted) :
    [' '].intercalate (parts.map Counted.text) =
      [' '].intercalate (parts.flatMap Counted.words) := by
  induction parts with
  | nil => rfl
  | cons part parts inductionHypothesis =>
      cases parts with
      | nil => simp [Counted.text, Counted.words]
      | cons next parts =>
          rw [List.map_cons, List.map_cons, List.intercalate_cons_cons, ← List.map_cons,
            inductionHypothesis]
          simp [Counted.text, Counted.words]

theorem readWords_words (parts : List Counted) :
    readWords (parts.flatMap Counted.words) = some (Counted.total parts) := by
  induction parts with
  | nil => rfl
  | cons part parts inductionHypothesis =>
      have value : Nat.ofDigitChars 10 (decimal part.count) 0 = part.count :=
        Nat.ofDigitChars_ten_toDigits
      rw [List.flatMap_cons, Counted.words, List.cons_append, List.cons_append, List.nil_append,
        readWords, part.known, inductionHypothesis, value]
      rfl

/-- Reading gives the sum of the parts. -/
theorem readDuration_texts {parts : List Counted} (nonempty : parts ≠ []) :
    readDuration ([' '].intercalate (parts.map Counted.text)) = some (Counted.total parts) := by
  have words : parts.flatMap Counted.words ≠ [] := by
    obtain ⟨part, rest, rfl⟩ := List.exists_cons_of_ne_nil nonempty
    exact List.cons_ne_nil _ _
  have single : ∀ word ∈ parts.flatMap Counted.words, ' ' ∉ word := by
    intro word member
    obtain ⟨part, -, inside⟩ := List.mem_flatMap.mp member
    exact Counted.oneWord_of_mem_words inside
  rw [readDuration, intercalate_texts, List.splitOn_intercalate ' ' single words, readWords_words]

/-- A part of the text is a counted unit; left out, it counts for nothing. -/
theorem durationPart_eq (count seconds : Nat) (unit : Text)
    (singular : unitSeconds unit = some seconds)
    (plural : unitSeconds (unit ++ ['s']) = some seconds)
    (oneWord : ' ' ∉ unit) :
    ∃ parts : List Counted, durationPart count unit = parts.map Counted.text ∧
      Counted.total parts = count * seconds ∧ (0 < count → parts ≠ []) := by
  unfold durationPart
  by_cases positive : count > 0
  · rw [if_pos positive]
    by_cases several : count > 1
    · have pluralWord : ' ' ∉ unit ++ ['s'] := by
        rw [List.mem_append]
        rintro (inUnit | inEnding)
        · exact oneWord inUnit
        · exact absurd inEnding (by decide)
      refine ⟨[⟨count, unit ++ ['s'], seconds, plural, pluralWord⟩], ?_, by simp [Counted.total], by simp⟩
      rw [if_pos several]
      rfl
    · refine ⟨[⟨count, unit, seconds, singular, oneWord⟩], ?_, by simp [Counted.total], by simp⟩
      rw [if_neg several, List.append_nil]
      rfl
  · have zero : count = 0 := Nat.eq_zero_of_not_pos positive
    exact ⟨[], if_neg positive, by simp [Counted.total, zero], fun some => absurd some positive⟩

/-- The text of a duration tells its seconds. -/
theorem readDuration_formatDuration (secs : Nat) :
    readDuration (formatDuration secs) = some secs := by
  unfold formatDuration
  by_cases zero : secs = 0
  · rw [if_pos zero, zero]
    decide +kernel
  · rw [if_neg zero]
    obtain ⟨days, daysText, daysSum, someDays⟩ := durationPart_eq (secs / 86400) 86400
      "day".toList (by decide) (by decide) (by decide)
    obtain ⟨hours, hoursText, hoursSum, someHours⟩ := durationPart_eq (secs % 86400 / 3600) 3600
      "hour".toList (by decide) (by decide) (by decide)
    obtain ⟨minutes, minutesText, minutesSum, someMinutes⟩ := durationPart_eq (secs % 3600 / 60) 60
      "minute".toList (by decide) (by decide) (by decide)
    obtain ⟨seconds, secondsText, secondsSum, someSeconds⟩ := durationPart_eq (secs % 60) 1
      "second".toList (by decide) (by decide) (by decide)
    have parts : days ++ hours ++ minutes ++ seconds ≠ [] := by
      intro nothing
      simp only [List.append_eq_nil_iff] at nothing
      obtain ⟨⟨⟨noDays, noHours⟩, noMinutes⟩, noSeconds⟩ := nothing
      have zeroDays : ¬0 < secs / 86400 := fun positive => someDays positive noDays
      have zeroHours : ¬0 < secs % 86400 / 3600 := fun positive => someHours positive noHours
      have zeroMinutes : ¬0 < secs % 3600 / 60 := fun positive => someMinutes positive noMinutes
      have zeroSeconds : ¬0 < secs % 60 := fun positive => someSeconds positive noSeconds
      omega
    dsimp only
    rw [daysText, hoursText, minutesText, secondsText, ← List.map_append, ← List.map_append,
      ← List.map_append, readDuration_texts parts]
    simp only [Counted.total_append, daysSum, hoursSum, minutesSum, secondsSum]
    congr 1
    omega

end Duration

end SimpleForwarder

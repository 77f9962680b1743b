import SimpleForwarder.ProxyServer.Headers
import SimpleForwarder.Util

/-!
Contract: the head that a line and a block of header lines make.

Owns: that such bytes are exactly one head (`isHeadEnd_joinLines`): the first
separator ends where the block ends, whichever way the first line is ended.

A separator starts at a line feed, so it starts at the end of a line. Only the
last line is followed by an empty one.

Does not own: which lines are written.
-/

namespace SimpleForwarder

open RustText

/-- A line feed of a stream ends its first line or lies behind it. -/
theorem feed_cases {line tail before after : Bytes} (noFeed : lf ∉ line)
    (same : line ++ lf :: tail = before ++ lf :: after) :
    after = tail ∨ ∃ later, tail = later ++ lf :: after := by
  induction line generalizing before with
  | nil =>
      cases before with
      | nil => exact .inl (List.cons.inj same).2.symm
      | cons first before => exact .inr ⟨before, (List.cons.inj same).2⟩
  | cons byte line inductionHypothesis =>
      cases before with
      | nil =>
          have isFeed : byte = lf := (List.cons.inj same).1
          exact absurd (isFeed ▸ List.mem_cons_self) noFeed
      | cons first before =>
          exact inductionHypothesis (fun member => noFeed (List.mem_cons_of_mem _ member))
            (List.cons.inj same).2

/-- A separator that ends inside a stream is a line feed and what follows. -/
theorem of_endsWithSeparator_take {stream : Bytes} {size : Nat}
    (ends : EndsWithSeparator (stream.take size)) :
    ∃ before after, stream = before ++ lf :: after ∧
      (after = lf :: stream.drop size ∨ after = cr :: lf :: stream.drop size) := by
  rcases ends with ⟨before, shape⟩ | ⟨before, shape⟩
  · refine ⟨before, lf :: stream.drop size, ?_, .inl rfl⟩
    conv_lhs => rw [← List.take_append_drop size stream, ← shape]
    simp
  · refine ⟨before, cr :: lf :: stream.drop size, ?_, .inr rfl⟩
    conv_lhs => rw [← List.take_append_drop size stream, ← shape]
    simp

/-- A header line, as the filter writes it. -/
def IsHeaderLine (line : Bytes) : Prop := line ≠ [] ∧ lf ∉ line

theorem joinLines_cons (line : Bytes) (lines : List Bytes) :
    joinLines (line :: lines) = (line ++ [cr]) ++ lf :: joinLines lines := by
  simp [joinLines, crlf]

/-- No empty line follows a line feed before a header line. -/
theorem no_separator_before {line tail rest : Bytes} (isLine : IsHeaderLine line)
    (follows : (line ++ [cr]) ++ lf :: tail = lf :: rest ∨
      (line ++ [cr]) ++ lf :: tail = cr :: lf :: rest) : False := by
  obtain ⟨nonempty, noFeed⟩ := isLine
  have noFeedReturn := lf_not_mem_concat_cr noFeed
  cases line with
  | nil => exact nonempty rfl
  | cons byte others =>
      rcases follows with short | long
      · have isFeed : byte = lf := (List.cons.inj short).1
        exact noFeed (isFeed ▸ List.mem_cons_self)
      · -- The second byte of the line and its return is no line feed either.
        have second : (others ++ [cr]) ++ lf :: tail = lf :: rest := (List.cons.inj long).2
        cases others with
        | nil => exact absurd (List.cons.inj second).1 (by decide)
        | cons next others =>
            have isFeed : next = lf := (List.cons.inj second).1
            exact noFeed (isFeed ▸ List.mem_cons_of_mem _ List.mem_cons_self)

/-- A separator in a line and a header block has nothing behind it. -/
theorem separator_at_end {lines : List Bytes} {line before after rest : Bytes}
    (noFeed : lf ∉ line) (areLines : ∀ field ∈ lines, IsHeaderLine field)
    (same : line ++ lf :: joinLines lines = before ++ lf :: after)
    (follows : after = lf :: rest ∨ after = cr :: lf :: rest) : rest = [] := by
  induction lines generalizing line before with
  | nil =>
      have block : joinLines [] = [cr] ++ lf :: [] := rfl
      rw [block] at same
      rcases feed_cases noFeed same with behindLine | ⟨later, inBlock⟩
      · rcases follows with short | long
        · rw [short] at behindLine
          exact absurd (List.cons.inj behindLine).1 (by decide)
        · rw [long] at behindLine
          exact (List.cons.inj (List.cons.inj behindLine).2).2
      · rcases feed_cases (by decide) inBlock with atEnd | ⟨beyond, impossible⟩
        · rcases follows with short | long
          · simp [short] at atEnd
          · simp [long] at atEnd
        · simp at impossible
  | cons field lines inductionHypothesis =>
      have isField := areLines field List.mem_cons_self
      rw [joinLines_cons] at same
      rcases feed_cases noFeed same with behindLine | ⟨later, inBlock⟩
      · rw [behindLine] at follows
        exact absurd follows (no_separator_before isField)
      · exact inductionHypothesis (lf_not_mem_concat_cr isField.2)
          (fun other member => areLines other (List.mem_cons_of_mem _ member)) inBlock

/-- A line and a block of header lines are one head. -/
theorem isHeadEnd_joinLines {line : Bytes} {lines : List Bytes} (noFeed : lf ∉ line)
    (areLines : ∀ field ∈ lines, IsHeaderLine field) :
    IsHeadEnd (line ++ lf :: joinLines lines) (line ++ lf :: joinLines lines).length where
  inside := Nat.le_refl _
  ends := by
    rw [List.take_length]
    -- The last line is ended, and an empty one follows.
    have block : ∃ front, lf :: joinLines lines = front ++ [lf, cr, lf] := by
      induction lines with
      | nil => exact ⟨[], rfl⟩
      | cons field lines inductionHypothesis =>
          obtain ⟨front, shape⟩ := inductionHypothesis fun other member =>
            areLines other (List.mem_cons_of_mem _ member)
          refine ⟨lf :: (field ++ [cr]) ++ front, ?_⟩
          rw [joinLines_cons, shape]
          simp
    obtain ⟨front, shape⟩ := block
    exact .inr ⟨line ++ front, by rw [shape, List.append_assoc]⟩
  first := by
    intro earlier before ends
    obtain ⟨front, after, stream, follows⟩ := of_endsWithSeparator_take ends
    have atEnd := separator_at_end noFeed areLines stream follows
    have reached := List.drop_eq_nil_iff.mp atEnd
    omega

end SimpleForwarder

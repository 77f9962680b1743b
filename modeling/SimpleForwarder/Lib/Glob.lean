import Mathlib.Data.List.Basic
import Mathlib.Tactic.Common

/-!
Contract: glob patterns over an arbitrary alphabet.

Owns: the texts a pattern of literals, single wildcards and multiple wildcards
accepts, the patterns without wildcards (`accepts_literals_iff`), those that
start with one multiple wildcard (`accepts_many_literals_iff`), and the effect
of a renaming of the alphabet (`accepts_map_iff`).

Does not own: how a pattern is written.
-/

namespace Glob

variable {α : Type}

inductive Token (α : Type) where
  | literal (symbol : α)
  | one
  | many
deriving DecidableEq

/-- A literal stands for itself, `one` for any symbol, `many` for any possibly
empty text. -/
def Accepts : List (Token α) → List α → Prop
  | [], text => text = []
  | .literal symbol :: tokens, text => ∃ rest, text = symbol :: rest ∧ Accepts tokens rest
  | .one :: tokens, text => ∃ first rest, text = first :: rest ∧ Accepts tokens rest
  | .many :: tokens, text => ∃ front back, text = front ++ back ∧ Accepts tokens back

variable {tokens : List (Token α)} {text : List α}

theorem accepts_literal_cons_iff {symbol first : α} {rest : List α} :
    Accepts (.literal symbol :: tokens) (first :: rest) ↔ symbol = first ∧ Accepts tokens rest := by
  constructor
  · intro accepted
    obtain ⟨tail, same, accepted⟩ := accepted
    obtain ⟨rfl, rfl⟩ := List.cons.inj same
    exact ⟨rfl, accepted⟩
  · intro accepted
    obtain ⟨rfl, accepted⟩ := accepted
    exact ⟨rest, rfl, accepted⟩

theorem accepts_one_cons_iff {first : α} {rest : List α} :
    Accepts (.one :: tokens) (first :: rest) ↔ Accepts tokens rest := by
  constructor
  · intro accepted
    obtain ⟨_, tail, same, accepted⟩ := accepted
    obtain ⟨rfl, rfl⟩ := List.cons.inj same
    exact accepted
  · intro accepted
    exact ⟨first, rest, rfl, accepted⟩

/-- A multiple wildcard leaves some suffix of the text to the other tokens. -/
theorem accepts_many_iff :
    Accepts (.many :: tokens) text ↔ ∃ back, back <:+ text ∧ Accepts tokens back := by
  constructor
  · intro accepted
    obtain ⟨front, back, rfl, accepted⟩ := accepted
    exact ⟨back, List.suffix_append front back, accepted⟩
  · intro accepted
    obtain ⟨back, ⟨front, rfl⟩, accepted⟩ := accepted
    exact ⟨front, back, rfl, accepted⟩

/-- A pattern without wildcards accepts the text it spells and no other. -/
theorem accepts_literals_iff {word : List α} :
    Accepts (word.map .literal) text ↔ text = word := by
  induction word generalizing text with
  | nil => exact Iff.rfl
  | cons symbol word inductionHypothesis =>
      rw [List.map_cons]
      cases text with
      | nil =>
          constructor
          · intro accepted
            obtain ⟨_, impossible, -⟩ := accepted
            cases impossible
          · intro impossible
            cases impossible
      | cons first rest =>
          rw [accepts_literal_cons_iff, inductionHypothesis, List.cons.injEq]
          exact and_congr_left' eq_comm

/-- A multiple wildcard before a word accepts the texts that end with it. -/
theorem accepts_many_literals_iff {word : List α} :
    Accepts (.many :: word.map .literal) text ↔ word <:+ text := by
  rw [accepts_many_iff]
  constructor
  · intro accepted
    obtain ⟨back, isSuffix, accepted⟩ := accepted
    rwa [accepts_literals_iff.mp accepted] at isSuffix
  · intro isSuffix
    exact ⟨word, isSuffix, accepts_literals_iff.mpr rfl⟩

/-! ## Renamings of the alphabet -/

def Token.map (rename : α → α) : Token α → Token α
  | .literal symbol => .literal (rename symbol)
  | .one => .one
  | .many => .many

/-- A renaming does not change what is accepted if it identifies a symbol of
the text with a literal only where the two are the same. -/
theorem accepts_map_iff {rename : α → α}
    (faithful : ∀ symbol, .literal symbol ∈ tokens → ∀ other ∈ text,
      rename symbol = rename other → symbol = other) :
    Accepts (tokens.map (Token.map rename)) (text.map rename) ↔ Accepts tokens text := by
  induction tokens generalizing text with
  | nil => exact List.map_eq_nil_iff
  | cons token tokens inductionHypothesis =>
      rw [List.map_cons]
      have later : ∀ {back : List α}, back <:+ text →
          (Accepts (tokens.map (Token.map rename)) (back.map rename) ↔ Accepts tokens back) := by
        intro back isSuffix
        apply inductionHypothesis
        intro symbol member other inBack
        exact faithful symbol (List.mem_cons_of_mem _ member) other (isSuffix.subset inBack)
      cases token with
      | literal symbol =>
          cases text with
          | nil => simp [Accepts, Token.map]
          | cons first rest =>
              have first_iff : rename symbol = rename first ↔ symbol = first := by
                constructor
                · exact faithful symbol List.mem_cons_self first List.mem_cons_self
                · exact congrArg rename
              rw [Token.map, List.map_cons, accepts_literal_cons_iff, accepts_literal_cons_iff,
                first_iff, later (List.suffix_cons first rest)]
      | one =>
          cases text with
          | nil => simp [Accepts, Token.map]
          | cons first rest =>
              rw [Token.map, List.map_cons, accepts_one_cons_iff, accepts_one_cons_iff,
                later (List.suffix_cons first rest)]
      | many =>
          rw [Token.map, accepts_many_iff, accepts_many_iff]
          constructor
          · intro accepted
            obtain ⟨_, ⟨front, split⟩, accepted⟩ := accepted
            obtain ⟨before, back, rfl, -, rfl⟩ := List.map_eq_append_iff.mp split.symm
            have isSuffix : back <:+ before ++ back := List.suffix_append before back
            exact ⟨back, isSuffix, (later isSuffix).mp accepted⟩
          · intro accepted
            obtain ⟨back, isSuffix, accepted⟩ := accepted
            exact ⟨back.map rename, isSuffix.map rename, (later isSuffix).mpr accepted⟩

/-- Texts with the same renaming are accepted alike by a pattern whose
literals are identified with nothing else. -/
theorem accepts_congr {rename : α → α} {left right : List α}
    (same : left.map rename = right.map rename)
    (plain : ∀ symbol, .literal symbol ∈ tokens → ∀ other, rename symbol = rename other →
      symbol = other) : Accepts tokens left ↔ Accepts tokens right := by
  rw [← accepts_map_iff fun symbol member other _ => plain symbol member other, same,
    accepts_map_iff fun symbol member other _ => plain symbol member other]

/-- Patterns with the same renaming accept a text alike if its symbols are
identified with nothing else. -/
theorem accepts_congr_tokens {rename : α → α} {left right : List (Token α)}
    (same : left.map (Token.map rename) = right.map (Token.map rename))
    (plain : ∀ other ∈ text, ∀ symbol, rename symbol = rename other → symbol = other) :
    Accepts left text ↔ Accepts right text := by
  rw [← accepts_map_iff fun symbol _ other member => plain other member symbol, same,
    accepts_map_iff fun symbol _ other member => plain other member symbol]

end Glob

import Mathlib.Data.List.Infix
import Mathlib.Tactic.Common

/-!
Contract: stages in a line, each of which takes in what the one before it writes.

Owns: what one stage has taken in and written, the link between two stages, the
steps of a stage that keep its link, and what a whole line carries: a prefix of
what its first stage has taken in, and all of it unless a stage was broken off.

A stage may take in less than what was written: the rest is under way.

Does not own: what a stage does with what it takes in.
-/

namespace Pipeline

variable {Symbol : Type}

/-- One direction of a stage. -/
structure Stage (Symbol : Type) where
  taken : List Symbol
  written : List Symbol
  /-- It has seen that nothing more will come. -/
  sawEnd : Bool
  /-- It writes nothing more, and has said so. -/
  sentEnd : Bool

namespace Stage

variable {first second third : Stage Symbol}

/-- What the second stage has taken in was written by the first one, and so was
the end. -/
structure Feeds (first second : Stage Symbol) : Prop where
  bytes : second.taken <+: first.written
  ending : second.sawEnd = true → first.sentEnd = true ∧ second.taken = first.written

/-- A later state of a stage, as far as the stage behind it can see. -/
structure Advances (before after : Stage Symbol) : Prop where
  written : before.written <+: after.written
  ending : before.sentEnd = true → after.sentEnd = true ∧ after.written = before.written

theorem Advances.refl (stage : Stage Symbol) : stage.Advances stage :=
  ⟨List.prefix_rfl, fun sent => ⟨sent, rfl⟩⟩

theorem Feeds.advance (feeds : first.Feeds third) (advances : first.Advances second) :
    second.Feeds third where
  bytes := feeds.bytes.trans advances.written
  ending := by
    intro saw
    obtain ⟨sent, all⟩ := feeds.ending saw
    obtain ⟨still, same⟩ := advances.ending sent
    exact ⟨still, all.trans same.symm⟩

/-- A stage that says that nothing more comes only once it has seen the end and
has written everything. -/
def IsWhole (stage : Stage Symbol) : Prop :=
  stage.sentEnd = true → stage.written = stage.taken ∧ stage.sawEnd = true

end Stage

/-- The stages `0` to `last` in a line. -/
structure Line (stages : Nat → Stage Symbol) (last : Nat) : Prop where
  flows : ∀ index ≤ last, (stages index).written <+: (stages index).taken
  feeds : ∀ index < last, (stages index).Feeds (stages (index + 1))

namespace Line

variable {stages : Nat → Stage Symbol} {last : Nat}

theorem shorten (line : Line stages (last + 1)) : Line stages last where
  flows := fun index inside => line.flows index (Nat.le_succ_of_le inside)
  feeds := fun index before => line.feeds index (Nat.lt_succ_of_lt before)

/-- What comes out is a prefix of what went in. -/
theorem written_prefixOf (line : Line stages last) : (stages last).written <+: (stages 0).taken := by
  induction last with
  | zero => exact line.flows 0 (Nat.le_refl 0)
  | succ last inductionHypothesis =>
      have within : (stages (last + 1)).written <+: (stages (last + 1)).taken :=
        line.flows (last + 1) (Nat.le_refl _)
      have link : (stages (last + 1)).taken <+: (stages last).written :=
        (line.feeds last (Nat.lt_succ_self last)).bytes
      exact (within.trans link).trans (inductionHypothesis line.shorten)

/-- If an end comes out, then everything that went in came out, or some stage was
broken off. -/
theorem whole_or_broken (line : Line stages last) (sent : (stages last).sentEnd = true) :
    ((stages last).written = (stages 0).taken ∧ (stages 0).sawEnd = true) ∨
      ∃ index ≤ last, ¬(stages index).IsWhole := by
  induction last with
  | zero =>
      by_cases whole : (stages 0).IsWhole
      · exact .inl (whole sent)
      · exact .inr ⟨0, Nat.le_refl 0, whole⟩
  | succ last inductionHypothesis =>
      by_cases whole : (stages (last + 1)).IsWhole
      · obtain ⟨all, saw⟩ := whole sent
        obtain ⟨sentBefore, same⟩ := (line.feeds last (Nat.lt_succ_self last)).ending saw
        rcases inductionHypothesis line.shorten sentBefore with carried | ⟨index, inside, broken⟩
        · rw [all, same]
          exact .inl carried
        · exact .inr ⟨index, Nat.le_succ_of_le inside, broken⟩
      · exact .inr ⟨last + 1, Nat.le_refl _, whole⟩

end Line

end Pipeline

import Mathlib.Data.Finset.Card
import Mathlib.Data.Finset.Dedup
import Mathlib.Order.Defs.PartialOrder

/-!
Contract: the heaviest members of a finite set.

Owns: what a selection of the `n` heaviest candidates is, that the first `n` of
a descending list are one, and that two selections from the same candidates
differ only among members of equal weight.

Does not own: any sort.
-/

namespace Selection

variable {α κ : Type*} [PartialOrder κ]

/-- The chosen are `n` of the candidates, or all when they are fewer, and none
that is left out is heavier than one that is chosen. -/
structure IsHeaviest (n : Nat) (weight : α → κ) (candidates chosen : Finset α) : Prop where
  subset : chosen ⊆ candidates
  card : chosen.card = min n candidates.card
  heaviest : ∀ inside ∈ chosen, ∀ outside ∈ candidates, outside ∉ chosen →
    weight outside ≤ weight inside

section

variable {n : Nat} {weight : α → κ} {candidates left right : Finset α}

/-- What two selections do not share weighs the same. -/
theorem IsHeaviest.tie (leftHeaviest : IsHeaviest n weight candidates left)
    (rightHeaviest : IsHeaviest n weight candidates right) {entry other : α} (inLeft : entry ∈ left)
    (notRight : entry ∉ right) (inRight : other ∈ right) (notLeft : other ∉ left) :
    weight entry = weight other := by
  apply le_antisymm
  · exact rightHeaviest.heaviest other inRight entry (leftHeaviest.subset inLeft) notRight
  · exact leftHeaviest.heaviest entry inLeft other (rightHeaviest.subset inRight) notLeft

end

/-- The first `n` of a descending list without repetition. -/
theorem isHeaviest_take [DecidableEq α] (n : Nat) {weight : α → κ} {entries : List α}
    (distinct : entries.Nodup)
    (descending : entries.Pairwise fun entry other => weight other ≤ weight entry) :
    IsHeaviest n weight entries.toFinset (entries.take n).toFinset where
  subset := by
    intro entry member
    rw [List.mem_toFinset] at member ⊢
    exact List.mem_of_mem_take member
  card := by
    rw [List.toFinset_card_of_nodup distinct,
      List.toFinset_card_of_nodup (distinct.sublist (List.take_sublist n entries)),
      List.length_take]
  heaviest := by
    intro inside chosen outside member left
    rw [List.mem_toFinset] at chosen member left
    have behind : outside ∈ entries.drop n := by
      rw [← List.take_append_drop n entries, List.mem_append] at member
      exact member.resolve_left left
    rw [← List.take_append_drop n entries, List.pairwise_append] at descending
    exact descending.2.2 inside chosen outside behind

end Selection

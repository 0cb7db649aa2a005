/-
Large parts of a finite set.

Two parts of a set of `n` elements that have at least `q` elements each share at least
`2 * q - n` of them, and no more than that in the worst case. So any two quorums meet in
more than `f` elements exactly when `f + n < 2 * q`.
-/
import Mathlib.Data.Finset.Card
import Mathlib.Tactic.Common

set_option autoImplicit false

namespace Quorum

variable {α : Type} [DecidableEq α] {N A B : Finset α} {q f : ℕ}

theorem card_add_card_le (hA : A ⊆ N) (hB : B ⊆ N) : A.card + B.card ≤ N.card + (A ∩ B).card := by
  have hunion : (A ∪ B).card ≤ N.card := Finset.card_le_card (Finset.union_subset hA hB)
  rw [← Finset.card_union_add_card_inter]
  exact Nat.add_le_add_right hunion _

/-- What two quorums share at least. -/
theorem le_card_inter (hA : A ⊆ N) (hB : B ⊆ N) (hcardA : q ≤ A.card) (hcardB : q ≤ B.card) :
    2 * q - N.card ≤ (A ∩ B).card := by
  have hsum := card_add_card_le hA hB
  omega

/-- Two quorums that share no more. -/
theorem exists_card_inter_eq (h : q ≤ N.card) :
    ∃ A B : Finset α, A ⊆ N ∧ B ⊆ N ∧ A.card = q ∧ B.card = q ∧ (A ∩ B).card = 2 * q - N.card := by
  obtain ⟨A, hA, hcardA⟩ := Finset.exists_subset_card_eq h
  have hrest : (N \ A).card = N.card - q := by rw [Finset.card_sdiff_of_subset hA, hcardA]
  -- The second quorum takes what it can from the rest of the set.
  by_cases hroom : q ≤ (N \ A).card
  · obtain ⟨B, hB, hcardB⟩ := Finset.exists_subset_card_eq hroom
    have hdisjoint : A ∩ B = ∅ :=
      Finset.disjoint_iff_inter_eq_empty.mp (Finset.disjoint_of_subset_right hB Finset.disjoint_sdiff)
    refine ⟨A, B, hA, hB.trans Finset.sdiff_subset, hcardA, hcardB, ?_⟩
    rw [hdisjoint, Finset.card_empty]
    omega
  · obtain ⟨B, hsub, hB, hcardB⟩ :=
      Finset.exists_subsuperset_card_eq Finset.sdiff_subset (le_of_not_ge hroom) h
    have hunion : A ∪ B = N := by
      apply (Finset.union_subset hA hB).antisymm
      rw [← Finset.union_sdiff_of_subset hA]
      exact Finset.union_subset_union_right hsub
    have hsum := Finset.card_union_add_card_inter A B
    rw [hunion, hcardA, hcardB] at hsum
    exact ⟨A, B, hA, hB, hcardA, hcardB, by omega⟩

/-- **Intersection.** Any two quorums share more than `f` elements. -/
theorem forall_lt_card_inter_iff (h : q ≤ N.card) :
    (∀ A B : Finset α, A ⊆ N → B ⊆ N → q ≤ A.card → q ≤ B.card → f < (A ∩ B).card) ↔
      f + N.card < 2 * q := by
  constructor
  · intro hall
    obtain ⟨A, B, hA, hB, hcardA, hcardB, hinter⟩ := exists_card_inter_eq h
    have hshared := hall A B hA hB hcardA.ge hcardB.ge
    omega
  · intro hlt A B hA hB hcardA hcardB
    have hshared := le_card_inter hA hB hcardA hcardB
    omega

end Quorum

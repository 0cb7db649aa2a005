/-
Totals of finitely many amounts.

`HasTotal f t` says that finitely many of the amounts `f i` are not zero and that `t` is their sum. A
counter that a program keeps of the amounts in its records is such a total, and the rules here follow it
through the changes of the records: one amount changes at a time, and the total by as much.
-/
import Mathlib.Algebra.BigOperators.Group.Finset.Basic
import Mathlib.Algebra.Order.BigOperators.Group.Finset
import Mathlib.Algebra.BigOperators.Ring.Finset
import Mathlib.Tactic.Abel

set_option autoImplicit false

namespace Totals

variable {ι M : Type*}

section Sums

variable [AddCommGroup M] {f g : ι → M} {t u : M}

/-- Finitely many of the amounts are not zero, and `t` is their sum. -/
def HasTotal (f : ι → M) (t : M) : Prop := ∃ F : Finset ι, (∀ i ∉ F, f i = 0) ∧ ∑ i ∈ F, f i = t

theorem hasTotal_zero : HasTotal (fun _ : ι => (0 : M)) 0 :=
  ⟨∅, fun _ _ => rfl, Finset.sum_empty⟩

theorem HasTotal.congr (hf : HasTotal f t) (h : ∀ i, g i = f i) : HasTotal g t := by
  rwa [show g = f from funext h]

theorem hasTotal_single [DecidableEq ι] (i : ι) : HasTotal (fun j => if j = i then t else 0) t := by
  refine ⟨{i}, ?_, ?_⟩
  · intro j hj
    rw [Finset.mem_singleton] at hj
    exact if_neg hj
  · rw [Finset.sum_singleton, if_pos rfl]

/-- The sum over any set that has all amounts. -/
theorem sum_eq_of_subset {F G : Finset ι} (hsub : F ⊆ G) (hF : ∀ i ∉ F, f i = 0) :
    ∑ i ∈ G, f i = ∑ i ∈ F, f i :=
  (Finset.sum_subset hsub fun i _ hi => hF i hi).symm

theorem HasTotal.unique [DecidableEq ι] (hf : HasTotal f t) (hf' : HasTotal f u) : t = u := by
  obtain ⟨F, hF, rfl⟩ := hf
  obtain ⟨G, hG, rfl⟩ := hf'
  rw [← sum_eq_of_subset Finset.subset_union_left hF, ← sum_eq_of_subset Finset.subset_union_right hG]

/-- The amounts of a list that has all of them, each once. -/
theorem hasTotal_of_list [DecidableEq ι] {l : List ι} (hl : l.Nodup) (h : ∀ i ∉ l, f i = 0) :
    HasTotal f (l.map f).sum := by
  refine ⟨l.toFinset, ?_, List.sum_toFinset f hl⟩
  intro i hi
  rw [List.mem_toFinset] at hi
  exact h i hi

theorem HasTotal.add [DecidableEq ι] (hf : HasTotal f t) (hg : HasTotal g u) :
    HasTotal (fun i => f i + g i) (t + u) := by
  obtain ⟨F, hF, rfl⟩ := hf
  obtain ⟨G, hG, rfl⟩ := hg
  refine ⟨F ∪ G, ?_, ?_⟩
  · intro i hi
    rw [Finset.notMem_union] at hi
    simp only [hF i hi.1, hG i hi.2, add_zero]
  · rw [Finset.sum_add_distrib, sum_eq_of_subset Finset.subset_union_left hF,
      sum_eq_of_subset Finset.subset_union_right hG]

/-- **One amount changes**, and the total by as much. -/
theorem HasTotal.change [DecidableEq ι] (hf : HasTotal f t) (i : ι) (hother : ∀ j, j ≠ i → g j = f j) :
    HasTotal g (t + (g i - f i)) := by
  obtain ⟨F, hF, rfl⟩ := hf
  refine ⟨insert i F, ?_, ?_⟩
  · intro j hj
    rw [Finset.mem_insert, not_or] at hj
    rw [hother j hj.1, hF j hj.2]
  · rw [← sum_eq_of_subset (Finset.subset_insert i F) hF, ← Finset.add_sum_erase _ _ (Finset.mem_insert_self i F),
      ← Finset.add_sum_erase _ f (Finset.mem_insert_self i F)]
    have hrest : ∑ j ∈ (insert i F).erase i, g j = ∑ j ∈ (insert i F).erase i, f j :=
      Finset.sum_congr rfl fun j hj => hother j (Finset.ne_of_mem_erase hj)
    rw [hrest]
    abel

/-- The amounts of which one is changed have a total when they differ from `f` nowhere else. -/
theorem HasTotal.change_to [DecidableEq ι] (hf : HasTotal f t) (i : ι) (hother : ∀ j, j ≠ i → g j = f j)
    (hu : u = t + (g i - f i)) : HasTotal g u :=
  hu ▸ hf.change i hother

/-- The amounts are grouped: the sums of the groups have the same total. -/
theorem HasTotal.fiberwise {κ : Type*} [DecidableEq ι] [DecidableEq κ] {h : ι → κ} {sums : κ → M} (hf : HasTotal f t)
    (hsums : ∀ k, HasTotal (fun i => if h i = k then f i else 0) (sums k)) : HasTotal sums t := by
  obtain ⟨F, hF, rfl⟩ := hf
  have hgroup (k : κ) : sums k = ∑ i ∈ F, if h i = k then f i else 0 := by
    apply (hsums k).unique
    exact ⟨F, fun i hi => by simp only [hF i hi, ite_self], rfl⟩
  refine ⟨F.image h, ?_, ?_⟩
  · intro k hk
    rw [hgroup]
    refine Finset.sum_eq_zero fun i hi => if_neg ?_
    rintro rfl
    exact hk (Finset.mem_image_of_mem h hi)
  · rw [Finset.sum_congr rfl fun k _ => hgroup k, ← Finset.sum_fiberwise_of_maps_to fun i hi => Finset.mem_image_of_mem h hi]
    exact Finset.sum_congr rfl fun k _ => (Finset.sum_filter _ _).symm

/-- Amounts that are zero where those with a total are have one as well. -/
theorem HasTotal.exists_of_support (hf : HasTotal f t) (h : ∀ i, f i = 0 → g i = 0) : ∃ u, HasTotal g u := by
  obtain ⟨F, hF, -⟩ := hf
  exact ⟨_, F, fun i hi => h i (hF i hi), rfl⟩

end Sums

section Multiples

variable {R : Type*} [CommRing R] {f : ι → R} {t : R}

theorem HasTotal.mul_left (hf : HasTotal f t) (c : R) : HasTotal (fun i => c * f i) (c * t) := by
  obtain ⟨F, hF, rfl⟩ := hf
  refine ⟨F, ?_, ?_⟩
  · intro i hi
    simp only [hF i hi, mul_zero]
  · rw [Finset.mul_sum]

end Multiples

section Order

variable [AddCommGroup M] [PartialOrder M] [IsOrderedAddMonoid M] {f g : ι → M} {t u : M}

theorem HasTotal.mono [DecidableEq ι] (hf : HasTotal f t) (hg : HasTotal g u) (h : ∀ i, f i ≤ g i) : t ≤ u := by
  obtain ⟨F, hF, rfl⟩ := hf
  obtain ⟨G, hG, rfl⟩ := hg
  rw [← sum_eq_of_subset Finset.subset_union_left hF, ← sum_eq_of_subset Finset.subset_union_right hG]
  exact Finset.sum_le_sum fun i _ => h i

theorem HasTotal.nonneg (hf : HasTotal f t) (h : ∀ i, 0 ≤ f i) : 0 ≤ t := by
  obtain ⟨F, -, rfl⟩ := hf
  exact Finset.sum_nonneg fun i _ => h i

/-- No part of amounts that are not negative is above the total. -/
theorem HasTotal.list_le [DecidableEq ι] (hf : HasTotal f t) (h : ∀ i, 0 ≤ f i) {l : List ι} (hl : l.Nodup) :
    (l.map f).sum ≤ t := by
  obtain ⟨F, hF, rfl⟩ := hf
  rw [← sum_eq_of_subset (show F ⊆ F ∪ l.toFinset from Finset.subset_union_left) hF, ← List.sum_toFinset f hl]
  exact Finset.sum_le_sum_of_subset_of_nonneg Finset.subset_union_right fun i _ _ => h i

/-- No amount is above the total of amounts that are not negative. -/
theorem HasTotal.le [DecidableEq ι] (hf : HasTotal f t) (h : ∀ i, 0 ≤ f i) (i : ι) : f i ≤ t := by
  obtain ⟨F, hF, rfl⟩ := hf
  rw [← sum_eq_of_subset (Finset.subset_insert i F) hF]
  exact Finset.single_le_sum (fun j _ => h j) (Finset.mem_insert_self i F)

end Order

end Totals

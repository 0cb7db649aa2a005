/-
Selection by rank.

What stands at an index of a sorted list does not depend on how the list was sorted, as long as the key tells elements
apart. So the sorted list can be had from a pivot: the sorted smaller elements, those that equal the pivot, and the
sorted larger ones, which is what a selection that goes on with one of the three parts rests on.
-/
import Mathlib.Data.List.GetD
import Mathlib.Data.List.Sort
import Mathlib.Order.Basic

set_option autoImplicit false

namespace Selection

variable {α κ : Type} [LinearOrder κ] (key : α → κ)

/-- In order of the keys. -/
abbrev sorted (l : List α) : List α := l.insertionSort fun x y => key x ≤ key y

theorem perm_sorted (l : List α) : (sorted key l).Perm l := List.perm_insertionSort _ l

theorem length_sorted (l : List α) : (sorted key l).length = l.length := (perm_sorted key l).length_eq

theorem pairwise_sorted (l : List α) : (sorted key l).Pairwise fun x y => key x ≤ key y := by
  have : Std.Total fun x y : α => key x ≤ key y := ⟨fun x y => le_total (key x) (key y)⟩
  have : IsTrans α fun x y => key x ≤ key y := ⟨fun _ _ _ => le_trans⟩
  exact List.pairwise_insertionSort _ l

variable {key}

/-- There is one list in order of the keys. -/
theorem eq_sorted (hkey : Function.Injective key) {l l' : List α} (hperm : l'.Perm l)
    (hsorted : l'.Pairwise fun x y => key x ≤ key y) : l' = sorted key l := by
  refine (hperm.trans (perm_sorted key l).symm).eq_of_pairwise ?_ hsorted (pairwise_sorted key l)
  intro x y _ _ hxy hyx
  exact hkey (le_antisymm hxy hyx)

/-- The three parts of a list. -/
theorem perm_parts (key : α → κ) (pivot : κ) (l : List α) :
    (l.filter (fun x => key x < pivot) ++ (l.filter (fun x => key x = pivot) ++ l.filter fun x => pivot < key x)).Perm
      l := by
  induction l with
  | nil => exact .refl _
  | cons x _ ih =>
      rcases lt_trichotomy (key x) pivot with hlt | heq | hgt
      · simp only [List.filter_cons, hlt, hlt.ne, hlt.not_gt, decide_true, decide_false, if_true, if_false,
          Bool.false_eq_true, List.cons_append]
        exact ih.cons x
      · simp only [List.filter_cons, heq, lt_irrefl, decide_true, decide_false, if_true, if_false, Bool.false_eq_true,
          List.cons_append]
        exact List.perm_middle.trans (ih.cons x)
      · simp only [List.filter_cons, hgt, hgt.ne', hgt.not_gt, decide_true, decide_false, if_true, if_false,
          Bool.false_eq_true]
        rw [← List.append_assoc] at ih ⊢
        exact List.perm_middle.trans (ih.cons x)

/-- **The sorted list from a pivot.** -/
theorem sorted_eq_parts (hkey : Function.Injective key) (pivot : κ) (l : List α) :
    sorted key l =
      sorted key (l.filter fun x => key x < pivot) ++
        (l.filter (fun x => key x = pivot) ++ sorted key (l.filter fun x => pivot < key x)) := by
  symm
  apply eq_sorted hkey
  · exact ((perm_sorted key _).append ((List.Perm.refl _).append (perm_sorted key _))).trans (perm_parts key pivot l)
  · have hlow {x : α} (hx : x ∈ sorted key (l.filter fun x => key x < pivot)) : key x < pivot :=
      of_decide_eq_true (List.mem_filter.mp ((perm_sorted key _).mem_iff.mp hx)).2
    have hmid {x : α} (hx : x ∈ l.filter fun x => key x = pivot) : key x = pivot :=
      of_decide_eq_true (List.mem_filter.mp hx).2
    have hhigh {x : α} (hx : x ∈ sorted key (l.filter fun x => pivot < key x)) : pivot < key x :=
      of_decide_eq_true (List.mem_filter.mp ((perm_sorted key _).mem_iff.mp hx)).2
    refine List.pairwise_append.mpr
      ⟨pairwise_sorted key _, List.pairwise_append.mpr ⟨?_, pairwise_sorted key _, ?_⟩, ?_⟩
    · exact List.pairwise_of_forall_mem_list fun x hx y hy => (hmid hx).trans_le (hmid hy).ge
    · intro x hx y hy
      exact (hmid hx).trans_le (hhigh hy).le
    · intro x hx y hy
      rcases List.mem_append.mp hy with hy | hy
      · exact (hlow hx).le.trans (hmid hy).ge
      · exact (hlow hx).le.trans (hhigh hy).le

/-- Later elements of the sorted list have larger keys. -/
theorem key_getD_le {l : List α} {i j : ℕ} (hij : i ≤ j) (hj : j < l.length) (d : α) :
    key ((sorted key l).getD i d) ≤ key ((sorted key l).getD j d) := by
  have hj' : j < (sorted key l).length := by rwa [length_sorted]
  rcases hij.eq_or_lt with rfl | hlt
  · exact le_refl _
  · rw [List.getD_eq_getElem _ d (hlt.trans hj'), List.getD_eq_getElem _ d hj']
    exact List.pairwise_iff_getElem.mp (pairwise_sorted key l) i j _ _ hlt

theorem getD_sorted_mem {l : List α} {i : ℕ} (hi : i < l.length) (d : α) : (sorted key l).getD i d ∈ l := by
  have hi' : i < (sorted key l).length := by rwa [length_sorted]
  rw [List.getD_eq_getElem _ d hi']
  exact (perm_sorted key l).mem_iff.mp (List.getElem_mem hi')

theorem countP_take_drop_sorted (l : List α) (p : α → Bool) (k : ℕ) :
    l.countP p = ((sorted key l).take k).countP p + ((sorted key l).drop k).countP p := by
  rw [← List.countP_append, List.take_append_drop]
  exact ((perm_sorted key l).countP_eq p).symm

/-- How often the top value has to occur for it to stand at a rank. -/
theorem key_getD_eq_top {l : List α} {top : κ} (htop : ∀ x ∈ l, key x ≤ top) {k : ℕ} (hk : k < l.length) (d : α) :
    key ((sorted key l).getD k d) = top ↔ l.length - k ≤ l.countP fun x => key x = top := by
  have hlength := length_sorted key l
  constructor
  · intro heq
    have hsplit : l.countP (fun x => key x = top) = ((sorted key l).take k).countP _ +
        ((sorted key l).drop k).countP _ := countP_take_drop_sorted l _ k
    -- from the rank on everything is the top value
    have hall : ((sorted key l).drop k).countP (fun x => key x = top) = l.length - k := by
      rw [← hlength, ← List.length_drop, List.countP_eq_length]
      intro x hx
      obtain ⟨i, hi, rfl⟩ := List.mem_drop_iff_getElem.mp hx
      have hle : key ((sorted key l).getD k d) ≤ key ((sorted key l).getD (k + i) d) :=
        key_getD_le (Nat.le_add_right k i) (by omega) d
      rw [heq, List.getD_eq_getElem _ d (by omega)] at hle
      exact decide_eq_true (le_antisymm (htop _ ((perm_sorted key l).mem_iff.mp (List.getElem_mem (by omega)))) hle)
    omega
  · intro hmany
    by_contra hne
    -- up to the rank nothing is
    have hlt := (htop _ (getD_sorted_mem hk d)).lt_of_ne hne
    have hnone : ((sorted key l).take (k + 1)).countP (fun x => key x = top) = 0 := by
      rw [List.countP_eq_zero]
      intro x hx
      obtain ⟨i, hi, rfl⟩ := List.mem_take_iff_getElem.mp hx
      have hi' : i < (sorted key l).length := by omega
      have hle : key ((sorted key l).getD i d) ≤ key ((sorted key l).getD k d) :=
        key_getD_le (Nat.lt_succ_iff.mp (by omega)) hk d
      rw [List.getD_eq_getElem _ d hi'] at hle
      simpa using (hle.trans_lt hlt).ne
    have hrest := List.countP_le_length (p := fun x => decide (key x = top)) (l := (sorted key l).drop (k + 1))
    have hsplit : l.countP (fun x => key x = top) = ((sorted key l).take (k + 1)).countP _ +
        ((sorted key l).drop (k + 1)).countP _ := countP_take_drop_sorted l _ (k + 1)
    rw [List.length_drop] at hrest
    omega

end Selection

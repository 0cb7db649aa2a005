/-
Bubble sort, with the largest first.

One pass compares each element with the next one and swaps the two where the later one is larger, so that the smallest
of the elements that it goes over ends up behind the others. A pass less each time leaves the list in order.
-/
import Mathlib.Data.List.Perm.Basic
import Mathlib.Order.Lattice
import Mathlib.Tactic.Common

set_option autoImplicit false

namespace BubbleSort

variable {α κ : Type} [LinearOrder κ] (score : α → κ)

/-- One pass, of so many comparisons. -/
def pass : (comparisons : ℕ) → List α → List α
  | n + 1, a :: b :: l => if score a < score b then b :: pass n (a :: l) else a :: pass n (b :: l)
  | _, l => l

/-- As many passes as there are elements, each shorter than the one before it. -/
def sort (l : List α) : List α :=
  (List.range l.length).foldl (fun l' i => pass score (l.length - i - 1) l') l

/-- **One pass.** The smallest of the first elements ends up behind the others, and the rest stays. -/
theorem pass_append (back : List α) {n : ℕ} {front : List α} (hlength : front.length = n + 1) :
    ∃ front' a, pass score n (front ++ back) = front' ++ a :: back ∧ (front' ++ [a]).Perm front ∧
      ∀ b ∈ front', score a ≤ score b := by
  induction n generalizing front with
  | zero =>
      obtain ⟨a, rfl⟩ := List.length_eq_one_iff.mp hlength
      exact ⟨[], a, rfl, .refl _, nofun⟩
  | succ n ih =>
      obtain ⟨a, b, l, rfl⟩ : ∃ a b l, front = a :: b :: l := by
        match front, hlength with
        | a :: b :: l, _ => exact ⟨a, b, l, rfl⟩
      have hrest : (b :: l).length = n + 1 := Nat.succ.inj hlength
      by_cases hlt : score a < score b
      · obtain ⟨front', c, heq, hperm, hmin⟩ := ih (show (a :: l).length = n + 1 from hrest)
        refine ⟨b :: front', c, ?_, ?_, List.forall_mem_cons.mpr ⟨?_, hmin⟩⟩
        · rw [List.cons_append, List.cons_append, pass, if_pos hlt]
          exact congrArg (b :: ·) heq
        · exact (hperm.cons b).trans (.swap a b l)
        · -- `c` is at most `a`, which is among the elements of the pass
          have ha : a ∈ front' ++ [c] := hperm.mem_iff.mpr List.mem_cons_self
          rcases List.mem_append.mp ha with ha | ha
          · exact (hmin a ha).trans hlt.le
          · rw [← List.mem_singleton.mp ha]
            exact hlt.le
      · obtain ⟨front', c, heq, hperm, hmin⟩ := ih hrest
        refine ⟨a :: front', c, ?_, hperm.cons a, List.forall_mem_cons.mpr ⟨?_, hmin⟩⟩
        · rw [List.cons_append, List.cons_append, pass, if_neg hlt]
          exact congrArg (a :: ·) heq
        · have hb : b ∈ front' ++ [c] := hperm.mem_iff.mpr List.mem_cons_self
          rcases List.mem_append.mp hb with hb | hb
          · exact (hmin b hb).trans (not_lt.mp hlt)
          · rw [← List.mem_singleton.mp hb]
            exact not_lt.mp hlt

/-- After some passes the last elements are in order, and no element before them is smaller. -/
theorem passes_sorted (l : List α) {k : ℕ} (hk : k ≤ l.length) :
    ∃ front back, (List.range k).foldl (fun l' i => pass score (l.length - i - 1) l') l = front ++ back ∧
      back.length = k ∧ (front ++ back).Perm l ∧ back.Pairwise (fun a b => score b ≤ score a) ∧
      ∀ a ∈ front, ∀ b ∈ back, score b ≤ score a := by
  induction k with
  | zero => exact ⟨l, [], by simp, rfl, by simp, .nil, by simp⟩
  | succ k ih =>
      obtain ⟨front, back, heq, hlength, hperm, hsorted, hle⟩ := ih (by omega)
      have hfront : front.length = l.length - k - 1 + 1 := by
        have := hperm.length_eq
        rw [List.length_append] at this
        omega
      obtain ⟨front', a, hpass, hperm', hmin⟩ := pass_append score back hfront
      have hmem {b : α} (hb : b ∈ front' ++ [a]) : b ∈ front := hperm'.mem_iff.mp hb
      refine ⟨front', a :: back, ?_, by rw [List.length_cons, hlength], ?_, ?_, ?_⟩
      · rw [List.range_succ, List.foldl_append, heq]
        exact hpass
      · have happend : front' ++ a :: back = (front' ++ [a]) ++ back := by simp
        rw [happend]
        exact (hperm'.append_right back).trans hperm
      · exact hsorted.cons fun b hb => hle a (hmem (by simp)) b hb
      · intro b hb
        rw [List.forall_mem_cons]
        exact ⟨hmin b hb, fun c hc => hle b (hmem (List.mem_append_left _ hb)) c hc⟩

theorem perm_sort (l : List α) : (sort score l).Perm l := by
  obtain ⟨front, back, heq, -, hperm, -⟩ := passes_sorted score l (Nat.le_refl l.length)
  rw [sort, heq]
  exact hperm

/-- **In order.** -/
theorem pairwise_sort (l : List α) : (sort score l).Pairwise (fun a b => score b ≤ score a) := by
  obtain ⟨front, back, heq, hlength, hperm, hsorted, -⟩ := passes_sorted score l (Nat.le_refl l.length)
  have hfront : front = [] := by
    have := hperm.length_eq
    rw [List.length_append] at this
    exact List.eq_nil_of_length_eq_zero (by omega)
  rw [sort, heq, hfront]
  exact hsorted

end BubbleSort

/-
Exchange sort.

The element at each position is compared with every element after it, and the two change places where the later one is
the smaller. The comparison may fail, so the sort runs in a monad. Where it does not fail and compares keys, the result
is in order of the keys, and it is the same for every order of the input just when the keys tell the elements apart.
-/
import Mathlib.Data.List.Perm.Basic
import Mathlib.Data.Set.Function
import Mathlib.Order.Basic
import Mathlib.Tactic.Common

set_option autoImplicit false

namespace ExchangeSort

section Monadic

variable {m : Type → Type} [Monad m] {α : Type} (greater : α → α → m Bool)

/-- The inner loop: what ends up at the position of `left`, and the elements after it. -/
def passM (left : α) : List α → m (α × List α)
  | [] => pure (left, [])
  | right :: rest => do
      if ← greater left right then
        let (least, rest) ← passM right rest
        return (least, left :: rest)
      else
        let (least, rest) ← passM left rest
        return (least, right :: rest)

/-- The outer loop, over so many positions. -/
def sortM : ℕ → List α → m (List α)
  | n + 1, left :: rest => do
      let (least, rest) ← passM greater left rest
      let rest ← sortM n rest
      return least :: rest
  | _, l => pure l

end Monadic

variable {α κ : Type} [LinearOrder κ] (key : α → κ)

def pass (left : α) : List α → α × List α
  | [] => (left, [])
  | right :: rest =>
      if key right < key left then ((pass right rest).1, left :: (pass right rest).2)
      else ((pass left rest).1, right :: (pass left rest).2)

def sort : ℕ → List α → List α
  | n + 1, left :: rest => (pass key left rest).1 :: sort n (pass key left rest).2
  | _, l => l

variable {key}

theorem perm_pass (left : α) (l : List α) : ((pass key left l).1 :: (pass key left l).2).Perm (left :: l) := by
  induction l generalizing left with
  | nil => exact .refl _
  | cons right _ ih =>
      rw [pass]
      split
      · exact (List.Perm.swap _ _ _).trans ((ih right).cons left)
      · exact (List.Perm.swap _ _ _).trans (((ih left).cons right).trans (.swap _ _ _))

/-- One pass finds the least. -/
theorem pass_le (left : α) (l : List α) {a : α} (ha : a ∈ left :: l) : key (pass key left l).1 ≤ key a := by
  induction l generalizing left a with
  | nil =>
      rw [List.mem_singleton.mp ha]
      exact le_refl _
  | cons right rest ih =>
      obtain rfl | rfl | hrest : a = left ∨ a = right ∨ a ∈ rest := by simpa using ha
      · rw [pass]
        split
        · next hlt => exact (ih right List.mem_cons_self).trans hlt.le
        · exact ih a List.mem_cons_self
      · rw [pass]
        split
        · exact ih a List.mem_cons_self
        · next hle => exact (ih left List.mem_cons_self).trans (not_lt.mp hle)
      · rw [pass]
        split <;> exact ih _ (List.mem_cons_of_mem _ hrest)

theorem perm_sort (n : ℕ) (l : List α) : (sort key n l).Perm l := by
  induction n generalizing l with
  | zero => exact .refl _
  | succ _ ih =>
      cases l with
      | nil => exact .refl _
      | cons left rest => exact ((ih _).cons _).trans (perm_pass left rest)

/-- **In order**, after as many positions as there are elements. -/
theorem pairwise_sort {n : ℕ} {l : List α} (hlength : l.length ≤ n) :
    (sort key n l).Pairwise fun a b => key a ≤ key b := by
  induction n generalizing l with
  | zero =>
      rw [List.length_eq_zero_iff.mp (Nat.le_zero.mp hlength)]
      exact .nil
  | succ n ih =>
      cases l with
      | nil => exact .nil
      | cons left rest =>
          have hrest : (pass key left rest).2.length ≤ n := by
            have hperm : ((pass key left rest).1 :: (pass key left rest).2).Perm (left :: rest) := perm_pass left rest
            have := hperm.length_eq
            simp only [List.length_cons] at this hlength
            omega
          refine (ih hrest).cons fun a ha => pass_le left rest ?_
          exact (perm_pass left rest).mem_iff.mp (List.mem_cons_of_mem _ ((perm_sort n _).mem_iff.mp ha))

theorem pass_of_le {left : α} {l : List α} (hle : ∀ a ∈ l, key left ≤ key a) : pass key left l = (left, l) := by
  induction l with
  | nil => rfl
  | cons _ _ ih =>
      obtain ⟨hright, hrest⟩ := List.forall_mem_cons.mp hle
      rw [pass, if_neg hright.not_gt, ih hrest]

/-- What is in order stays as it is. -/
theorem sort_of_pairwise {l : List α} (hsorted : l.Pairwise fun a b => key a ≤ key b) (n : ℕ) : sort key n l = l := by
  induction n generalizing l with
  | zero => rfl
  | succ _ ih =>
      cases hsorted with
      | nil => rfl
      | cons hle hrest => rw [sort, pass_of_le hle, ih hrest]

/-- Two elements with one key can stand either way round. -/
theorem exists_sort_ne_of_before {l front middle back : List α} {a b : α} (hne : a ≠ b) (hkey : key a = key b)
    (hsort : sort key l.length l = front ++ a :: (middle ++ b :: back)) :
    ∃ l', l'.Perm l ∧ sort key l'.length l' ≠ sort key l.length l := by
  have hswap : (front ++ b :: (middle ++ a :: back)).Perm (front ++ a :: (middle ++ b :: back)) := by
    refine List.Perm.append_left _ ?_
    have ha : (b :: (middle ++ a :: back)).Perm (b :: a :: (middle ++ back)) := List.perm_middle.cons b
    have hb : (a :: (middle ++ b :: back)).Perm (a :: b :: (middle ++ back)) := List.perm_middle.cons a
    exact ha.trans ((List.Perm.swap _ _ _).trans hb.symm)
  have hsorted : (front ++ b :: (middle ++ a :: back)).Pairwise fun x y => key x ≤ key y := by
    -- the keys stand as they did
    have hkeys : ((front ++ a :: (middle ++ b :: back)).map key).Pairwise fun x y => x ≤ y :=
      List.pairwise_map.mpr (hsort ▸ pairwise_sort (Nat.le_refl l.length))
    have hsame : (front ++ b :: (middle ++ a :: back)).map key = (front ++ a :: (middle ++ b :: back)).map key := by
      simp only [List.map_append, List.map_cons, hkey]
    exact List.pairwise_map.mp (hsame ▸ hkeys)
  refine ⟨front ++ b :: (middle ++ a :: back), hswap.trans (hsort ▸ perm_sort _ l), ?_⟩
  rw [sort_of_pairwise hsorted, hsort]
  intro heq
  exact hne (List.cons.inj (List.append_cancel_left heq)).1.symm

/-- **Canonical.** The order of the input does not matter just when the keys tell its elements apart. -/
theorem sort_canonical_iff {l : List α} :
    (∀ l', l'.Perm l → sort key l'.length l' = sort key l.length l) ↔ Set.InjOn key {a | a ∈ l} := by
  constructor
  · intro h a ha b hb hkey
    by_contra hne
    have hmem {x : α} (hx : x ∈ l) : x ∈ sort key l.length l := (perm_sort _ l).mem_iff.mpr hx
    obtain ⟨front, rest, hsort⟩ := List.append_of_mem (hmem ha)
    have hb' := hmem hb
    rw [hsort, List.mem_append, List.mem_cons] at hb'
    obtain ⟨l', hperm, hother⟩ : ∃ l', l'.Perm l ∧ sort key l'.length l' ≠ sort key l.length l := by
      rcases hb' with hbefore | rfl | hafter
      · obtain ⟨front, middle, rfl⟩ := List.append_of_mem hbefore
        rw [List.append_assoc, List.cons_append] at hsort
        exact exists_sort_ne_of_before (Ne.symm hne) hkey.symm hsort
      · exact absurd rfl hne
      · obtain ⟨middle, back, rfl⟩ := List.append_of_mem hafter
        exact exists_sort_ne_of_before hne hkey hsort
    exact hother (h l' hperm)
  · intro hinj l' hperm
    have hboth : (sort key l'.length l').Perm (sort key l.length l) :=
      (perm_sort _ l').trans (hperm.trans (perm_sort _ l).symm)
    refine hboth.eq_of_pairwise ?_ (pairwise_sort (Nat.le_refl _)) (pairwise_sort (Nat.le_refl _))
    intro a b ha hb hab hba
    exact hinj (hperm.mem_iff.mp ((perm_sort _ l').mem_iff.mp ha)) ((perm_sort _ l).mem_iff.mp hb) (le_antisymm hab hba)

section Agreement

variable {m : Type → Type} [Monad m] [LawfulMonad m] {greater : α → α → m Bool}

theorem passM_eq {left : α} {l : List α}
    (h : ∀ a ∈ left :: l, ∀ b ∈ left :: l, greater a b = pure (decide (key b < key a))) :
    passM greater left l = pure (pass key left l) := by
  induction l generalizing left with
  | nil => rfl
  | cons right rest ih =>
      have hsub {x : α} (hx : x ∈ left :: right :: rest) {a : α} (ha : a ∈ x :: rest) : a ∈ left :: right :: rest := by
        rcases List.mem_cons.mp ha with rfl | ha
        · exact hx
        · exact List.mem_cons_of_mem _ (List.mem_cons_of_mem _ ha)
      rw [passM, pass, h left (by simp) right (by simp), pure_bind]
      by_cases hlt : key right < key left
      · rw [if_pos (decide_eq_true hlt), if_pos hlt,
          ih fun a ha b hb => h a (hsub (by simp) ha) b (hsub (by simp) hb), pure_bind]
      · rw [if_neg (by simpa using hlt), if_neg hlt,
          ih fun a ha b hb => h a (hsub (by simp) ha) b (hsub (by simp) hb), pure_bind]

/-- **No failure.** A comparison that answers by the keys sorts by them. -/
theorem sortM_eq {n : ℕ} {l : List α} (h : ∀ a ∈ l, ∀ b ∈ l, greater a b = pure (decide (key b < key a))) :
    sortM greater n l = pure (sort key n l) := by
  induction n generalizing l with
  | zero => rfl
  | succ _ ih =>
      cases l with
      | nil => rfl
      | cons left rest =>
          have hsub {a : α} (ha : a ∈ (pass key left rest).2) : a ∈ left :: rest :=
            (perm_pass left rest).mem_iff.mp (List.mem_cons_of_mem _ ha)
          rw [sortM, sort, passM_eq h, pure_bind]
          dsimp only
          rw [ih fun a ha b hb => h a (hsub ha) b (hsub hb), pure_bind]

end Agreement

end ExchangeSort

/-
Lists hashed in pairs, level by level, and what a walk up the levels proves.

The next level of a list holds the hashes of its entries in pairs. A walk starts from any value at any position and
takes its siblings from a list that may be anyone's, so what it proves is little: where it ends in the root, it has
been on the levels since it could be, and nothing says on which of them it began.
-/
import Mathlib.Algebra.Order.Group.Nat
import Mathlib.Data.Set.Function
import Mathlib.Data.List.Basic
import Mathlib.Tactic.Common

set_option autoImplicit false

namespace PairLevels

variable {D : Type*} (nd : D → D → D)

/-! ## Levels -/

/-- The entries in pairs; an entry without a partner is left out. -/
def pairs : List D → List (D × D)
  | a :: b :: rest => (a, b) :: pairs rest
  | _ => []

/-- The level above. -/
def above (level : List D) : List D := (pairs level).map (Function.uncurry nd)

/-- The `j`-th level above the leaves. -/
def level (leaves : List D) : ℕ → List D
  | 0 => leaves
  | j + 1 => above nd (level leaves j)

/-- What is hashed up to the `d`-th level. -/
def levelInputs (leaves : List D) (d : ℕ) : List (D × D) := (List.range d).flatMap fun j => pairs (level nd leaves j)

/-- The two entries of a pair stand next to each other. -/
theorem getElem?_of_pairs {l : List D} {p : ℕ} {a b : D} (h : (pairs l)[p]? = some (a, b)) :
    l[2 * p]? = some a ∧ l[2 * p + 1]? = some b := by
  induction l using pairs.induct generalizing p with
  | case1 x y _ ih =>
      cases p with
      | zero =>
          obtain ⟨rfl, rfl⟩ : x = a ∧ y = b := by simpa [pairs] using h
          exact ⟨rfl, rfl⟩
      | succ => exact ih (by simpa [pairs] using h)
  | case2 => simp [pairs] at h

/-! ## Walks -/

/-- The children of a step at position `i`. -/
def children (x : D) (i : ℕ) (s : D) : D × D := if i % 2 = 0 then (x, s) else (s, x)

/-- Walk up from `x` at position `i`. -/
def walk : D → ℕ → List D → D
  | x, _, [] => x
  | x, i, s :: ss => walk (Function.uncurry nd (children x i s)) (i / 2) ss

/-- What a walk hashes. -/
def walkInputs : D → ℕ → List D → List (D × D)
  | _, _, [] => []
  | x, i, s :: ss => children x i s :: walkInputs (Function.uncurry nd (children x i s)) (i / 2) ss

variable {nd}

theorem walk_append {x : D} {i : ℕ} {ss ss' : List D} :
    walk nd x i (ss ++ ss') = walk nd (walk nd x i ss) (i / 2 ^ ss.length) ss' := by
  induction ss generalizing x i with
  | nil => rw [List.nil_append, walk, List.length_nil, pow_zero, Nat.div_one]
  | cons _ _ ih => rw [List.cons_append, walk, ih, walk, List.length_cons, pow_succ', Nat.div_div_eq_div_mul]

theorem walkInputs_append {x : D} {i : ℕ} {ss ss' : List D} :
    walkInputs nd x i (ss ++ ss') =
      walkInputs nd x i ss ++ walkInputs nd (walk nd x i ss) (i / 2 ^ ss.length) ss' := by
  induction ss generalizing x i with
  | nil => rw [List.nil_append, walkInputs, walk, List.length_nil, pow_zero, Nat.div_one, List.nil_append]
  | cons _ _ ih =>
      rw [List.cons_append, walkInputs, ih, walkInputs, walk, List.length_cons, pow_succ', Nat.div_div_eq_div_mul,
        List.cons_append]

/-- **A walk that ends in the root began on a level**: `n` levels below the root, at its position there.

The induction is on the path, and on the level that it begins on; injectivity takes the pair that a step hashed to the
pair that the level above holds the hash of. -/
theorem level_of_walk {S : Set (D × D)} (hinj : Set.InjOn (Function.uncurry nd) S) {leaves : List D} {d : ℕ} {root : D}
    (hlen : leaves.length = 2 ^ d) (hroot : level nd leaves d = [root]) (hlevels : ∀ p ∈ levelInputs nd leaves d, p ∈ S)
    {ss : List D} {x : D} {i j : ℕ} (hj : j + ss.length = d) (hwalk : ∀ p ∈ walkInputs nd x i ss, p ∈ S)
    (h : walk nd x i ss = root) : (level nd leaves j)[i % 2 ^ ss.length]? = some x := by
  induction ss generalizing x i j with
  | nil =>
      rw [List.length_nil, add_zero] at hj
      rw [hj, hroot, List.length_nil, pow_zero, Nat.mod_one, ← h, walk]
      rfl
  | cons s ss ih =>
      rw [List.length_cons] at hj ⊢
      have hstep := ih (j := j + 1) (by omega) (fun p hp => hwalk p (List.mem_cons_of_mem _ hp)) h
      have hpos : i / 2 % 2 ^ ss.length = i % 2 ^ (ss.length + 1) / 2 := by
        rw [pow_succ', Nat.mod_mul_right_div_self]
      rw [level, above, List.getElem?_map, Option.map_eq_some_iff] at hstep
      obtain ⟨p, hp, heq⟩ := hstep
      have hmem : p ∈ levelInputs nd leaves d :=
        List.mem_flatMap.mpr ⟨j, List.mem_range.mpr (by omega), List.mem_of_getElem? hp⟩
      have hpair : p = children x i s := hinj (hlevels p hmem) (hwalk _ List.mem_cons_self) heq
      obtain ⟨hleft, hright⟩ := getElem?_of_pairs (a := p.1) (b := p.2) hp
      have hparity : i % 2 ^ (ss.length + 1) % 2 = i % 2 := by
        rw [pow_succ, Nat.mod_mul_left_mod]
      rw [hpos, hpair] at hleft hright
      by_cases hi : i % 2 = 0
      · rw [children, if_pos hi] at hleft
        convert hleft using 2
        omega
      · rw [children, if_neg hi] at hright
        convert hright using 2
        omega

end PairLevels

/-
The least integer whose multiple reaches a bound: a division that rounds up.
-/
import Mathlib.Algebra.Order.Ring.Int
import Mathlib.Order.Bounds.Basic
import Mathlib.Tactic.Linarith
import Mathlib.Tactic.Ring

set_option autoImplicit false

namespace LeastQuotient

variable {k a b l m n : ℤ}

/-- The integers whose `k`-fold reaches `a`. -/
def Reaching (k a : ℤ) : Set ℤ := {n | a ≤ n * k}

theorem mem_reaching : n ∈ Reaching k a ↔ a ≤ n * k := Iff.rfl

/-- The least one is the only one whose predecessor does not reach `a`. -/
theorem isLeast_iff (hk : 0 < k) : IsLeast (Reaching k a) n ↔ a ≤ n * k ∧ (n - 1) * k < a := by
  constructor
  · rintro ⟨hmem, hleast⟩
    refine ⟨hmem, not_le.mp fun hle => ?_⟩
    have := hleast (mem_reaching.mpr hle)
    omega
  · rintro ⟨hmem, hlt⟩
    refine ⟨hmem, fun m hm => not_lt.mp fun hmn => ?_⟩
    have hle : m * k ≤ (n - 1) * k := Int.mul_le_mul_of_nonneg_right (by omega) hk.le
    exact absurd (mem_reaching.mp hm) (by omega)

/-- Division of the predecessor, and one more. -/
theorem isLeast_ediv (hk : 0 < k) : IsLeast (Reaching k a) ((a - 1) / k + 1) := by
  refine ⟨?_, fun n hn => ?_⟩
  · have := Int.lt_ediv_add_one_mul_self (a - 1) hk
    rw [mem_reaching]
    omega
  · have hlt : (a - 1) / k < n := Int.ediv_lt_of_lt_mul hk (by
      rw [mem_reaching] at hn
      omega)
    omega

/-- A common factor does not matter. -/
theorem reaching_mul {c : ℤ} (hc : 0 < c) : Reaching (k * c) (a * c) = Reaching k a := by
  ext n
  rw [mem_reaching, mem_reaching, ← Int.mul_assoc]
  exact ⟨fun h => Int.le_of_mul_le_mul_right h hc, fun h => Int.mul_le_mul_of_nonneg_right h hc.le⟩

theorem isLeast_one : IsLeast (Reaching 1 a) a := by
  rw [isLeast_iff Int.zero_lt_one]
  omega

/-- **Rounding up a sum.** It is no more than rounding up both summands, and less by one at most. -/
theorem isLeast_add (hk : 0 < k) (ha : IsLeast (Reaching k a) m) (hb : IsLeast (Reaching k b) n)
    (hab : IsLeast (Reaching k (a + b)) l) : l ≤ m + n ∧ m + n ≤ l + 1 := by
  constructor
  · apply hab.2
    rw [mem_reaching, Int.add_mul]
    exact Int.add_le_add ha.1 hb.1
  · have hm := ((isLeast_iff hk).mp ha).2
    have hn := ((isLeast_iff hk).mp hb).2
    have hl : a + b ≤ l * k := hab.1
    have hlt : (m + n - 2) * k < l * k := by
      have hsum : (m + n - 2) * k = (m - 1) * k + (n - 1) * k := by ring
      omega
    have := lt_of_mul_lt_mul_right hlt hk.le
    omega

end LeastQuotient

/-
Checked `i128` arithmetic on integers.

A contract that checks every operation on its amounts holds none that is out of range, so an `i128` of
such a contract is an integer here, and each operation gives the exact result when that is an `i128` and
nothing otherwise.
-/
import Mathlib.Algebra.Group.Nat.Defs
import Mathlib.Algebra.Ring.Int.Defs
import Mathlib.Data.Int.Order.Basic
import Mathlib.Tactic.Common

set_option autoImplicit false

namespace BridgeWatch.CheckedIntegers

/-- The integer is an `i128`. -/
def FitsI128 (x : ℤ) : Prop := -2 ^ 127 ≤ x ∧ x < 2 ^ 127

instance (x : ℤ) : Decidable (FitsI128 x) := inferInstanceAs (Decidable (_ ∧ _))

def checked (x : ℤ) : Option ℤ := if FitsI128 x then some x else none

/-- `x.checked_add(y)`. -/
def checked_add (x y : ℤ) : Option ℤ := checked (x + y)

/-- `x.checked_sub(y)`. -/
def checked_sub (x y : ℤ) : Option ℤ := checked (x - y)

/-- `x.checked_mul(y)`. -/
def checked_mul (x y : ℤ) : Option ℤ := checked (x * y)

/-- `x.checked_div(y)`, rounded towards zero. -/
def checked_div (x y : ℤ) : Option ℤ := if y = 0 then none else checked (x.tdiv y)

/-- `x.saturating_sub(y)`. -/
def saturating_sub (x y : ℤ) : ℤ := max (-2 ^ 127) (min (x - y) (2 ^ 127 - 1))

/-- `x.checked_mul(y).and_then(|v| v.checked_div(d))`. -/
def checked_mul_div (x y d : ℤ) : Option ℤ := (checked_mul x y).bind (checked_div · d)

/-- `x as u128`: the low 128 bits. -/
def as_u128 (x : ℤ) : ℕ := (x % 2 ^ 128).toNat

/-- `n as i128`: the low 128 bits, with the sign. -/
def as_i128 (n : ℕ) : ℤ := (n : ℤ).bmod (2 ^ 128)

/-- `x.checked_mul(y)` on `u128`. -/
def checked_mul_u128 (x y : ℕ) : Option ℕ := if x * y < 2 ^ 128 then some (x * y) else none

section

variable {x y z d : ℤ}

@[simp] theorem checked_eq_some : checked x = some z ↔ FitsI128 x ∧ z = x := by
  unfold checked
  by_cases h : FitsI128 x
  · rw [if_pos h, Option.some.injEq, and_iff_right h]
    exact eq_comm
  · simp [h]

@[simp] theorem checked_add_eq_some : checked_add x y = some z ↔ FitsI128 (x + y) ∧ z = x + y := checked_eq_some

@[simp] theorem checked_sub_eq_some : checked_sub x y = some z ↔ FitsI128 (x - y) ∧ z = x - y := checked_eq_some

@[simp] theorem checked_mul_eq_some : checked_mul x y = some z ↔ FitsI128 (x * y) ∧ z = x * y := checked_eq_some

@[simp] theorem checked_eq_none : checked x = none ↔ ¬FitsI128 x := by
  unfold checked
  by_cases h : FitsI128 x <;> simp [h]

@[simp] theorem checked_add_eq_none : checked_add x y = none ↔ ¬FitsI128 (x + y) := checked_eq_none

@[simp] theorem checked_sub_eq_none : checked_sub x y = none ↔ ¬FitsI128 (x - y) := checked_eq_none

/-- A quotient by a positive number is no further from zero. -/
theorem FitsI128.tdiv (h : FitsI128 x) (hd : 0 < d) : FitsI128 (x.tdiv d) := by
  have habs := Int.natAbs_tdiv_le_natAbs x d
  have hsign : x.tdiv d ≤ 0 ∨ 0 ≤ x := by
    rcases Int.le_total 0 x with hx | hx
    · exact Or.inr hx
    · have hnonneg := Int.tdiv_nonneg (Int.neg_nonneg.mpr hx) (Int.le_of_lt hd)
      rw [Int.neg_tdiv] at hnonneg
      exact Or.inl (by omega)
  unfold FitsI128 at h ⊢
  omega

theorem checked_mul_div_eq_some (hd : 0 < d) :
    checked_mul_div x y d = some z ↔ FitsI128 (x * y) ∧ z = (x * y).tdiv d := by
  simp only [checked_mul_div, Option.bind_eq_some_iff, checked_mul_eq_some, checked_div, if_neg (Int.ne_of_gt hd),
    checked_eq_some]
  constructor
  · rintro ⟨v, ⟨hfits, rfl⟩, -, rfl⟩
    exact ⟨hfits, rfl⟩
  · rintro ⟨hfits, rfl⟩
    exact ⟨_, ⟨hfits, rfl⟩, hfits.tdiv hd, rfl⟩

theorem checked_mul_div_eq_none (hd : 0 < d) : checked_mul_div x y d = none ↔ ¬FitsI128 (x * y) := by
  rw [Option.eq_none_iff_forall_ne_some]
  simp only [ne_eq, checked_mul_div_eq_some hd]
  constructor
  · exact fun h hfits => h _ ⟨hfits, rfl⟩
  · exact fun h _ hz => h hz.1

theorem as_u128_of_fits (hx : 0 ≤ x) (hfits : x < 2 ^ 127) : (as_u128 x : ℤ) = x := by
  unfold as_u128
  omega

theorem as_i128_of_fits {n : ℕ} (hfits : (n : ℤ) < 2 ^ 127) : as_i128 n = n :=
  Int.bmod_eq_of_le (by omega) (by omega)

theorem fits_of_nonneg (hx : 0 ≤ x) (h : x < 2 ^ 127) : FitsI128 x := ⟨by omega, h⟩

end

end BridgeWatch.CheckedIntegers

/-
Saturating and checked arithmetic on `i128`.

`x.saturating_add(y)` and its siblings compute the exact result and stop at the ends of the type, and
`x.checked_mul(y)` and its siblings give nothing where the exact result is not of the type. So do the
definitions here, and `toInt_saturate`, `toInt_checked_mul` and `toInt_checked_div` are all that their
users need to know.
-/
import Mathlib.Algebra.Ring.Int.Defs
import Mathlib.Data.Int.Order.Basic
import Mathlib.Tactic.Common

set_option autoImplicit false

namespace BridgeWatch.SaturatingArithmetic

/-- A result of saturating `i128` arithmetic. -/
def saturate_i128 (x : ℤ) : BitVec 128 := BitVec.ofInt 128 (max (-2 ^ 127) (min x (2 ^ 127 - 1)))

def saturating_add_i128 (x y : BitVec 128) : BitVec 128 := saturate_i128 (x.toInt + y.toInt)

def saturating_sub_i128 (x y : BitVec 128) : BitVec 128 := saturate_i128 (x.toInt - y.toInt)

def saturating_mul_i128 (x y : BitVec 128) : BitVec 128 := saturate_i128 (x.toInt * y.toInt)

theorem toInt_i128 (x : BitVec 128) : -2 ^ 127 ≤ x.toInt ∧ x.toInt < 2 ^ 127 :=
  ⟨BitVec.le_toInt x, BitVec.toInt_lt⟩

theorem toInt_saturate (x : ℤ) : (saturate_i128 x).toInt = max (-2 ^ 127) (min x (2 ^ 127 - 1)) := by
  rw [saturate_i128, BitVec.toInt_ofInt]
  exact Int.bmod_eq_of_le (by omega) (by omega)

/-- A result that fits is exact. -/
theorem toInt_saturate_of_fits {x : ℤ} (hmin : -2 ^ 127 ≤ x) (hmax : x < 2 ^ 127) :
    (saturate_i128 x).toInt = x := by
  rw [toInt_saturate]
  omega

theorem toInt_saturating_sub {x y : BitVec 128} (hx : 0 ≤ x.toInt) (hy : 0 ≤ y.toInt) :
    (saturating_sub_i128 x y).toInt = x.toInt - y.toInt := by
  have hx' := toInt_i128 x
  have hy' := toInt_i128 y
  exact toInt_saturate_of_fits (by omega) (by omega)

def checked_mul_i128 (x y : BitVec 128) : Option (BitVec 128) :=
  if -2 ^ 127 ≤ x.toInt * y.toInt ∧ x.toInt * y.toInt < 2 ^ 127 then some (x * y) else none

def checked_div_i128 (x y : BitVec 128) : Option (BitVec 128) :=
  if y = 0 ∨ x = BitVec.intMin 128 ∧ y = -1 then none else some (x.sdiv y)

theorem toInt_checked_mul {x y z : BitVec 128} (h : checked_mul_i128 x y = some z) :
    z.toInt = x.toInt * y.toInt := by
  unfold checked_mul_i128 at h
  split_ifs at h with hfits
  rw [← Option.some.inj h, BitVec.toInt_mul]
  exact Int.bmod_eq_of_le (by omega) (by omega)

theorem toInt_checked_div {x y z : BitVec 128} (h : checked_div_i128 x y = some z) :
    z.toInt = x.toInt.tdiv y.toInt := by
  unfold checked_div_i128 at h
  split_ifs at h with hfits
  rw [← Option.some.inj h]
  apply BitVec.toInt_sdiv_of_ne_or_ne
  by_cases hx : x = BitVec.intMin 128
  · exact Or.inr fun hy => hfits (Or.inr ⟨hx, hy⟩)
  · exact Or.inl hx

end BridgeWatch.SaturatingArithmetic

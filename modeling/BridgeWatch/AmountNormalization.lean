/-
Amounts in the unit of the limits.

An amount is rounded up to the least number of base units that is worth as much, so a transfer that is split
uses no less of a limit than the whole.
-/
import BridgeWatch.LeastQuotient
import BridgeWatch.RateLimiter

set_option autoImplicit false

namespace BridgeWatch.RateLimiter

open Transaction CheckedIntegers LeastQuotient
open Contract (U32)

/-- `n` is the least number of base units that is worth as much as the amount. -/
def Normalized (decimals : U32) (amount n : ℤ) : Prop :=
  IsLeast {n : ℤ | n * 10 ^ decimals.toNat ≥ amount * 10 ^ 6} n

/-- The number of base units, unless it is no `i128`. -/
def normalized_or_overflow (s : LimiterStorage) (n : ℤ) : Except String (ℤ × LimiterStorage) :=
  if FitsI128 n then .ok (n, s) else .error RateLimitError.AmountOverflow.text

section Normalization

variable {env : Chain} {s : LimiterStorage} {decimals : U32} {amount : ℤ}

theorem normalized_iff {n : ℤ} :
    Normalized decimals amount n ↔ IsLeast (Reaching (10 ^ decimals.toNat) (amount * 10 ^ 6)) n := Iff.rfl

/-- The checks pass. -/
theorem normalize_amount_eq (hdecimals : decimals ≤ 38) (hamount : 0 < amount) :
    normalize_amount amount decimals env s =
      (if decimals = BASE_DECIMALS then .ok (amount, s)
      else if decimals > BASE_DECIMALS then
        .ok ((amount - 1).tdiv (10 ^ (decimals - BASE_DECIMALS).toNat) + 1, s)
      else
        normalized_or_overflow s (amount * 10 ^ (BASE_DECIMALS - decimals).toNat)) := by
  have hchecked : (err_if (decimals > MAX_ASSET_DECIMALS) .InvalidDecimals : Limiter Unit) env s = .ok ((), s) :=
    panic_if_eq_ok.mpr ⟨UInt32.not_lt.mpr hdecimals, rfl⟩
  have hpositive : (err_if (amount ≤ 0) .InvalidLimit : Limiter Unit) env s = .ok ((), s) :=
    panic_if_eq_ok.mpr ⟨not_le.mpr hamount, rfl⟩
  rw [normalize_amount, bind_of_ok hchecked, bind_of_ok hpositive]
  split
  · rfl
  · split
    · rfl
    · unfold normalized_or_overflow
      dsimp only [ok_or, checked_mul, checked]
      split <;> rfl

/-- **One amount.** It becomes the least number of base units, or the call reports that this does not fit. -/
theorem normalize_amount_spec (env : Chain) (s : LimiterStorage) (hdecimals : decimals ≤ 38) (hamount : 0 < amount)
    (hfits : FitsI128 amount) :
    ∃ n, Normalized decimals amount n ∧ normalize_amount amount decimals env s = normalized_or_overflow s n := by
  rw [normalize_amount_eq hdecimals hamount]
  have hsix : BASE_DECIMALS.toNat = 6 := rfl
  split
  · next heq =>
      refine ⟨amount, ?_, (if_pos hfits).symm⟩
      rw [normalized_iff, heq, hsix, ← Int.one_mul (10 ^ 6), ← Int.mul_assoc, Int.mul_one,
        reaching_mul (by decide)]
      exact isLeast_one
  · split
    · next hgt =>
        -- the unit is finer than the base
        have hlt : 6 < decimals.toNat := UInt32.lt_iff_toNat_lt.mp hgt
        have hsub : (decimals - BASE_DECIMALS).toNat = decimals.toNat - 6 :=
        UInt32.toNat_sub_of_le _ _ (UInt32.le_of_lt hgt)
        have hdivisor : (0 : ℤ) < 10 ^ (decimals.toNat - 6) := Int.pow_pos (by decide)
        have hquotient : 0 ≤ (amount - 1) / 10 ^ (decimals.toNat - 6) := Int.ediv_nonneg (by omega) hdivisor.le
        have hle : (amount - 1) / 10 ^ (decimals.toNat - 6) ≤ amount - 1 := Int.ediv_le_self _ (by omega)
        rw [hsub, Int.tdiv_eq_ediv_of_nonneg (by omega)]
        refine ⟨(amount - 1) / 10 ^ (decimals.toNat - 6) + 1, ?_, (if_pos ?_).symm⟩
        · have hpow : (10 : ℤ) ^ decimals.toNat = 10 ^ (decimals.toNat - 6) * 10 ^ 6 := by
            rw [← Int.pow_add]
            congr 1
            omega
          rw [normalized_iff, hpow, reaching_mul (by decide)]
          exact isLeast_ediv hdivisor
        · unfold FitsI128 at hfits ⊢
          omega
    · next hne hle =>
        -- the unit is coarser than the base
        have hlt : decimals.toNat ≤ 6 := UInt32.le_iff_toNat_le.mp (UInt32.not_lt.mp hle)
        have hsub : (BASE_DECIMALS - decimals).toNat = 6 - decimals.toNat :=
          UInt32.toNat_sub_of_le _ _ (UInt32.not_lt.mp hle)
        rw [hsub]
        refine ⟨_, ?_, rfl⟩
        have hpow : (10 : ℤ) ^ 6 = 10 ^ (6 - decimals.toNat) * 10 ^ decimals.toNat := by
          rw [← Int.pow_add]
          congr 1
          omega
        rw [normalized_iff, hpow, ← Int.mul_assoc, ← Int.one_mul (10 ^ decimals.toNat), ← Int.mul_assoc,
          Int.mul_one, reaching_mul (Int.pow_pos (by decide))]
        exact isLeast_one

/-- **Splitting an amount does not help.** -/
theorem normalize_amount_split (env : Chain) (s : LimiterStorage) {decimals : U32} {a b : ℤ}
    (hdecimals : decimals ≤ 38) (ha : 0 < a) (hb : 0 < b) (hfits : FitsI128 (a + b)) :
    ∃ m n l, Normalized decimals a m ∧ Normalized decimals b n ∧ Normalized decimals (a + b) l ∧
      normalize_amount a decimals env s = normalized_or_overflow s m ∧
      normalize_amount b decimals env s = normalized_or_overflow s n ∧
      normalize_amount (a + b) decimals env s = normalized_or_overflow s l ∧ l ≤ m + n ∧ m + n ≤ l + 1 := by
  have hfits_a : FitsI128 a := by
    unfold FitsI128 at hfits ⊢
    omega
  have hfits_b : FitsI128 b := by
    unfold FitsI128 at hfits ⊢
    omega
  obtain ⟨m, hm, hm_eq⟩ := normalize_amount_spec env s hdecimals ha hfits_a
  obtain ⟨n, hn, hn_eq⟩ := normalize_amount_spec env s hdecimals hb hfits_b
  obtain ⟨l, hl, hl_eq⟩ := normalize_amount_spec env s hdecimals (Int.add_pos ha hb) hfits
  refine ⟨m, n, l, hm, hn, hl, hm_eq, hn_eq, hl_eq, ?_⟩
  rw [normalized_iff, Int.add_mul] at hl
  exact isLeast_add (Int.pow_pos (by decide)) hm hn hl

/-- Two thirds of a base unit, twice. -/
theorem normalize_amount_split_wei :
    ∃ m n l, Normalized 18 666666666666 m ∧ Normalized 18 666666666666 n ∧
      Normalized 18 (666666666666 + 666666666666) l ∧
      normalize_amount 666666666666 18 (signed_at 0) empty_storage = normalized_or_overflow empty_storage m ∧
      normalize_amount 666666666666 18 (signed_at 0) empty_storage = normalized_or_overflow empty_storage n ∧
      normalize_amount (666666666666 + 666666666666) 18 (signed_at 0) empty_storage =
        normalized_or_overflow empty_storage l ∧ l ≤ m + n ∧ m + n ≤ l + 1 :=
  normalize_amount_split (signed_at 0) empty_storage (by decide) (by decide) (by decide) (by decide)

end Normalization

end BridgeWatch.RateLimiter

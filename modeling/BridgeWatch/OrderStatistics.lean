/-
Order statistics of prices.

`quick_select` finds what stands at an index of the sorted list. The median and the percentiles are exact and in order,
but for one sum: that of the two middle values, which leaves `i128` when both are 2^126.
-/
import BridgeWatch.ContractCalls
import BridgeWatch.Selection
import Mathlib.Algebra.Order.Group.Abs
import Mathlib.Algebra.Order.Ring.Int

set_option autoImplicit false

namespace BridgeWatch.Contract

open Transaction

variable {values : List I128} {env : Env} {s : Storage}

/-- The median. The loops over the pairs of neighbours change nothing. -/
def calculate_median (values : List I128) : Soroban I128 :=
  if values.length = 0 then
    return 0
  else
    let mid := values.length / 2
    if values.length % 2 = 1 then
      return quick_select values mid
    else do
      let total ← add_i128 (quick_select values (mid - 1)) (quick_select values mid)
      div_i128 total 2

/-- The value at index `k` of the sorted list. -/
def order_statistic (values : List I128) (k : ℕ) : I128 := (Selection.sorted BitVec.toInt values).getD k 0

theorem toInt_injective : Function.Injective (BitVec.toInt : I128 → ℤ) := fun _ _ => BitVec.eq_of_toInt_eq

/-- One step from a pivot. The three branches are the three parts of the sorted list. -/
theorem order_statistic_parts (pivot : I128) (values : List I128) (k : ℕ) :
    order_statistic values k =
      if k < (below pivot values).length then order_statistic (below pivot values) k
      else if k < (below pivot values).length + (values.filter fun v => v.toInt = pivot.toInt).length then pivot
      else order_statistic (above pivot values)
        (k - (below pivot values).length - (values.filter fun v => v.toInt = pivot.toInt).length) := by
  have hlows := Selection.length_sorted BitVec.toInt (below pivot values)
  have hparts : Selection.sorted BitVec.toInt values = Selection.sorted BitVec.toInt (below pivot values) ++
      (values.filter (fun v => v.toInt = pivot.toInt) ++ Selection.sorted BitVec.toInt (above pivot values)) :=
    Selection.sorted_eq_parts toInt_injective pivot.toInt values
  rw [order_statistic, hparts]
  split
  · next hlow =>
      rw [List.getD_append _ _ _ _ (by rwa [hlows])]
      rfl
  · next hlow =>
      rw [List.getD_append_right _ _ _ _ (by rw [hlows]; omega), hlows]
      split
      · next hmid =>
          have hlt : k - (below pivot values).length < (values.filter fun v => v.toInt = pivot.toInt).length := by omega
          rw [List.getD_append _ _ _ _ hlt, List.getD_eq_getElem _ _ hlt]
          -- a value among those that equal the pivot
          have hmem := List.getElem_mem hlt
          exact toInt_injective (of_decide_eq_true (List.mem_filter.mp hmem).2)
      · next hmid =>
          rw [List.getD_append_right _ _ _ _ (by omega)]
          rfl

/-- **Selection.** -/
theorem quick_select_eq {values : List I128} {k : ℕ} (hk : k < values.length) :
    quick_select values k = order_statistic values k := by
  induction hlength : values.length using Nat.strong_induction_on generalizing values k with
  | _ _ ih =>
      subst hlength
      rw [quick_select, dif_pos hk]
      split
      · rfl
      · -- the rank is one within the part that it falls into
        have hmem := List.get_mem values ⟨values.length / 2, by omega⟩
        generalize values.get ⟨values.length / 2, by omega⟩ = pivot at hmem ⊢
        have hsum : (below pivot values).length + ((values.filter fun v => v.toInt = pivot.toInt).length +
            (above pivot values).length) = values.length := by
          rw [← List.length_append, ← List.length_append]
          exact (Selection.perm_parts BitVec.toInt pivot.toInt values).length_eq
        rw [order_statistic_parts pivot]
        dsimp only
        by_cases hlow : k < (below pivot values).length
        · rw [if_pos hlow, if_pos hlow]
          exact ih _ (length_below_lt hmem) hlow rfl
        · rw [if_neg hlow, if_neg hlow]
          split
          · rfl
          · next hmid =>
              exact ih _ (length_above_lt hmem) (by omega) rfl

/-! ## The median -/

theorem order_statistic_le {i j : ℕ} (hij : i ≤ j) (hj : j < values.length) :
    (order_statistic values i).toInt ≤ (order_statistic values j).toInt :=
  Selection.key_getD_le hij hj 0

/-- More than half of an even number of values are 2^126. -/
def MiddlesOverflow (values : List I128) : Prop :=
  values.length % 2 = 0 ∧ values.length / 2 < values.countP fun v => v.toInt = 2 ^ 126

instance (values : List I128) : Decidable (MiddlesOverflow values) := inferInstanceAs (Decidable (_ ∧ _))

/-- Then the two middle values are, and only then. -/
theorem middles_overflow_iff (hne : values ≠ []) (hbound : ∀ v ∈ values, |v.toInt| ≤ 2 ^ 126) :
    MiddlesOverflow values ↔ values.length % 2 = 0 ∧
      (order_statistic values (values.length / 2 - 1)).toInt = 2 ^ 126 ∧
      (order_statistic values (values.length / 2)).toInt = 2 ^ 126 := by
  have hlength := List.length_pos_iff.mpr hne
  have htop : ∀ v ∈ values, v.toInt ≤ 2 ^ 126 := fun v hv => (abs_le.mp (hbound v hv)).2
  have hrank {k : ℕ} (hk : k < values.length) :
    (order_statistic values k).toInt = 2 ^ 126 ↔ values.length - k ≤ values.countP fun v => v.toInt = 2 ^ 126 :=
    Selection.key_getD_eq_top htop hk 0
  rw [hrank (by omega), hrank (by omega), MiddlesOverflow]
  omega

/-- The middle value, or the mean of the two middle ones, rounded towards zero. -/
def middle (values : List I128) : ℤ :=
  if values.length % 2 = 1 then (order_statistic values (values.length / 2)).toInt
  else ((order_statistic values (values.length / 2 - 1)).toInt +
    (order_statistic values (values.length / 2)).toInt).tdiv 2

theorem checked_i128_of_fits {x : ℤ} (hfrom : -2 ^ 127 ≤ x) (hto : x < 2 ^ 127) (msg : String) (env : Env)
    (s : Storage) : ∃ y, checked_i128 x msg env s = .ok (y, s) ∧ y.toInt = x := by
  refine ⟨BitVec.ofInt 128 x, ?_, ?_⟩
  · simp only [checked_i128, bind_eq_ok, panic_if_eq_ok, pure_eq_ok, exists_const]
    exact ⟨s, ⟨by omega, rfl⟩, trivial, rfl⟩
  · rw [BitVec.toInt_ofInt, Int.bmod_def]
    omega

theorem tdiv_two (x : ℤ) : x.tdiv 2 = if 0 ≤ x ∨ 2 ∣ x then x / 2 else x / 2 + 1 := by
  have hsign : (2 : ℤ).sign = 1 := rfl
  rw [Int.tdiv_eq_ediv, hsign]
  split <;> omega

/-- The mean of two values whose sum is an `i128`. -/
theorem half_sum_spec {x y : I128} (hfrom : -2 ^ 127 ≤ x.toInt + y.toInt) (hto : x.toInt + y.toInt < 2 ^ 127)
    (env : Env) (s : Storage) :
    ∃ mean, (do let total ← add_i128 x y; div_i128 total 2 : Soroban I128) env s = .ok (mean, s) ∧
      mean.toInt = (x.toInt + y.toInt).tdiv 2 := by
  obtain ⟨total, htotal, hsum⟩ := checked_i128_of_fits hfrom hto "attempt to add with overflow" env s
  have hhalf : -2 ^ 127 ≤ total.toInt.tdiv (2 : I128).toInt ∧ total.toInt.tdiv (2 : I128).toInt < 2 ^ 127 := by
    have htwo : (2 : I128).toInt = 2 := rfl
    rw [hsum, htwo, tdiv_two]
    split <;> omega
  obtain ⟨mean, hmean, heq⟩ := checked_i128_of_fits hhalf.1 hhalf.2 "attempt to divide with overflow" env s
  refine ⟨mean, ?_, by rw [heq, hsum]; rfl⟩
  simp only [bind_eq_ok, panic_if_eq_ok, exists_const]
  exact ⟨total, s, htotal, s, ⟨by decide, rfl⟩, hmean⟩

theorem half_sum_overflow {x y : I128} (h : 2 ^ 127 ≤ x.toInt + y.toInt) (env : Env) (s : Storage) :
    (do let total ← add_i128 x y; div_i128 total 2 : Soroban I128) env s = .error "attempt to add with overflow" := by
  have hpanic : (panic_if (x.toInt + y.toInt < -2 ^ 127 ∨ 2 ^ 127 ≤ x.toInt + y.toInt) "attempt to add with overflow" :
      Soroban Unit) env s = .error "attempt to add with overflow" := by
    unfold panic_if
    rw [if_pos (.inr h)]
  exact bind_eq_error.mpr (.inl (bind_eq_error.mpr (.inl hpanic)))

/-- What stands at an index of the sorted list keeps the bound of the values. -/
theorem order_statistic_bound (hbound : ∀ v ∈ values, |v.toInt| ≤ 2 ^ 126) {k : ℕ} (hk : k < values.length) :
    |(order_statistic values k).toInt| ≤ 2 ^ 126 := hbound _ (Selection.getD_sorted_mem hk 0)

theorem calculate_median_spec (hne : values ≠ []) (hbound : ∀ v ∈ values, |v.toInt| ≤ 2 ^ 126)
    (hfits : ¬MiddlesOverflow values) (env : Env) (s : Storage) :
    ∃ median, calculate_median values env s = .ok (median, s) ∧ median.toInt = middle values := by
  have hlength := List.length_pos_iff.mpr hne
  rw [calculate_median, if_neg hlength.ne', middle]
  by_cases hodd : values.length % 2 = 1
  · rw [if_pos hodd, if_pos hodd, quick_select_eq (by omega)]
    exact ⟨_, rfl, rfl⟩
  · rw [if_neg hodd, if_neg hodd, quick_select_eq (by omega), quick_select_eq (by omega)]
    have hleft := abs_le.mp (order_statistic_bound hbound (k := values.length / 2 - 1) (by omega))
    have hright := abs_le.mp (order_statistic_bound hbound (k := values.length / 2) (by omega))
    refine half_sum_spec (by omega) ?_ env s
    by_contra hover
    exact hfits ((middles_overflow_iff hne hbound).mpr ⟨by omega, by omega, by omega⟩)

theorem calculate_median_overflow (hne : values ≠ []) (hbound : ∀ v ∈ values, |v.toInt| ≤ 2 ^ 126)
    (hoverflow : MiddlesOverflow values) (env : Env) (s : Storage) :
    calculate_median values env s = .error "attempt to add with overflow" := by
  have hlength := List.length_pos_iff.mpr hne
  obtain ⟨heven, hleft, hright⟩ := (middles_overflow_iff hne hbound).mp hoverflow
  rw [calculate_median, if_neg hlength.ne']
  rw [if_neg (by omega), quick_select_eq (by omega), quick_select_eq (by omega)]
  exact half_sum_overflow (by omega) env s

/-! ## The percentiles -/

theorem calculate_percentiles_eq (hne : values ≠ []) (env : Env) (s : Storage) :
    calculate_percentiles values env s =
      (do
        let median ← calculate_median values
        return (order_statistic values ((values.length - 1) / 4), median,
          order_statistic values (3 * (values.length - 1) / 4)) : Soroban (I128 × I128 × I128)) env s := by
  have hlength := List.length_pos_iff.mpr hne
  rw [← quick_select_eq (k := (values.length - 1) / 4) (by omega),
    ← quick_select_eq (k := 3 * (values.length - 1) / 4) (by omega)]
  by_cases hone : values.length = 1
  · obtain ⟨v, rfl⟩ := List.length_eq_one_iff.mp hone
    have hselect : quick_select [v] 0 = v := by
      rw [quick_select_eq Nat.zero_lt_one]
      rfl
    have hshort : [v].length < 2 := Nat.one_lt_two
    have hnonempty : [v].length ≠ 0 := Nat.one_ne_zero
    have hodd : [v].length % 2 = 1 := rfl
    rw [calculate_percentiles, if_pos hshort, calculate_median, if_neg hnonempty, if_pos hodd]
    simp only [List.length_singleton, Nat.sub_self, Nat.zero_div, Nat.mul_zero, Nat.reduceDiv, hselect]
    rfl
  · rw [calculate_percentiles, if_neg (by omega), calculate_median, if_neg hlength.ne']
    dsimp only
    by_cases hodd : values.length % 2 = 1
    · rw [if_pos hodd, if_pos hodd, pure_bind]
    · rw [if_neg hodd, if_neg hodd, bind_assoc]

/-- The median of two or more values is not below the lower percentile. -/
theorem lower_le_middle (hne : values ≠ []) :
    (order_statistic values ((values.length - 1) / 4)).toInt ≤ middle values := by
  have hlength := List.length_pos_iff.mpr hne
  rw [middle]
  split
  · exact order_statistic_le (by omega) (by omega)
  · next heven =>
      have hleft : (order_statistic values ((values.length - 1) / 4)).toInt ≤
        (order_statistic values (values.length / 2 - 1)).toInt := order_statistic_le (by omega) (by omega)
      have hmiddle : (order_statistic values (values.length / 2 - 1)).toInt ≤
        (order_statistic values (values.length / 2)).toInt := order_statistic_le (by omega) (by omega)
      rw [tdiv_two]
      split <;> omega

/-- Nor is it above the upper one, but for two values: there the upper percentile is the smaller value. -/
theorem middle_le_upper (hne : values ≠ []) (htwo : values.length ≠ 2) :
    middle values ≤ (order_statistic values (3 * (values.length - 1) / 4)).toInt := by
  have hlength := List.length_pos_iff.mpr hne
  rw [middle]
  split
  · exact order_statistic_le (by omega) (by omega)
  · next heven =>
      have hmiddle : (order_statistic values (values.length / 2 - 1)).toInt ≤
        (order_statistic values (values.length / 2)).toInt := order_statistic_le (by omega) (by omega)
      have hright : (order_statistic values (values.length / 2)).toInt ≤
        (order_statistic values (3 * (values.length - 1) / 4)).toInt := order_statistic_le (by omega) (by omega)
      rw [tdiv_two]
      split <;> omega

/-- Two values are equal, or neighbours and not negative. Any other list is free. -/
def PairClose : List I128 → Prop
  | [a, b] => a.toInt = b.toInt ∨ (0 ≤ a.toInt ∧ 0 ≤ b.toInt ∧ |a.toInt - b.toInt| = 1)
  | _ => True

theorem order_statistic_pair (a b : I128) :
    order_statistic [a, b] 0 = (if a.toInt ≤ b.toInt then a else b) ∧
      order_statistic [a, b] 1 = (if a.toInt ≤ b.toInt then b else a) := by
  have hsorted : Selection.sorted BitVec.toInt [a, b] = if a.toInt ≤ b.toInt then [a, b] else [b, a] := rfl
  rw [order_statistic, order_statistic, hsorted]
  split <;> exact ⟨rfl, rfl⟩

theorem pair_ordered (a b : I128) :
    middle [a, b] ≤ (order_statistic [a, b] 0).toInt ↔ PairClose [a, b] := by
  obtain ⟨hfirst, hsecond⟩ := order_statistic_pair a b
  have heven : ¬[a, b].length % 2 = 1 := by simp
  have hmiddle : middle [a, b] = ((order_statistic [a, b] 0).toInt + (order_statistic [a, b] 1).toInt).tdiv 2 := by
    rw [middle, if_neg heven]
    simp only [List.length_cons, List.length_nil]
  rw [hmiddle, hfirst, hsecond, tdiv_two, PairClose, abs_eq Int.one_nonneg]
  split <;> split <;> omega

theorem middle_le_upper_iff (hne : values ≠ []) :
    middle values ≤ (order_statistic values (3 * (values.length - 1) / 4)).toInt ↔ PairClose values := by
  by_cases htwo : values.length = 2
  · obtain ⟨a, b, rfl⟩ := List.length_eq_two.mp htwo
    have hindex : 3 * ([a, b].length - 1) / 4 = 0 := by simp
    rw [hindex]
    exact pair_ordered a b
  · refine iff_of_true (middle_le_upper hne htwo) ?_
    unfold PairClose
    split
    · exact absurd rfl htwo
    · trivial

/-- What the three functions promise: selection by rank, the median, and the percentiles in order. -/
structure ExactStatistics (values : List I128) (env : Env) (s : Storage) : Prop where
  select : ∀ k < values.length, quick_select values k = order_statistic values k
  median : ∃ median, calculate_median values env s = .ok (median, s) ∧ median.toInt = middle values
  percentiles : ∃ p25 median p75, calculate_percentiles values env s = .ok ((p25, median, p75), s) ∧
    median.toInt = middle values ∧ (order_statistic values 0).toInt ≤ p25.toInt ∧ p25.toInt ≤ median.toInt ∧
    median.toInt ≤ p75.toInt ∧ p75.toInt ≤ (order_statistic values (values.length - 1)).toInt

/-- **Order statistics.** -/
theorem order_statistics_exact {values : List I128} (hne : values ≠ []) (hbound : ∀ v ∈ values, |v.toInt| ≤ 2 ^ 126)
    (env : Env) (s : Storage) :
    ExactStatistics values env s ↔ ¬MiddlesOverflow values ∧ PairClose values := by
  have hlength := List.length_pos_iff.mpr hne
  constructor
  · intro h
    have hfits : ¬MiddlesOverflow values := by
      intro hoverflow
      obtain ⟨median, hok, -⟩ := h.median
      rw [calculate_median_overflow hne hbound hoverflow] at hok
      cases hok
    refine ⟨hfits, (middle_le_upper_iff hne).mp ?_⟩
    obtain ⟨p25, median, p75, hok, hmiddle, -, -, hupper, -⟩ := h.percentiles
    obtain ⟨mean, hmean, -⟩ := calculate_median_spec hne hbound hfits env s
    rw [calculate_percentiles_eq hne, bind_eq_ok.mpr ⟨mean, s, hmean, rfl⟩] at hok
    cases hok
    rwa [← hmiddle]
  · rintro ⟨hfits, hclose⟩
    obtain ⟨mean, hmean, hmiddle⟩ := calculate_median_spec hne hbound hfits env s
    have hok := calculate_percentiles_eq hne env s
    rw [bind_eq_ok.mpr ⟨mean, s, hmean, rfl⟩] at hok
    refine ⟨fun k hk => quick_select_eq hk, ⟨mean, hmean, hmiddle⟩, _, _, _, hok, hmiddle, ?_, ?_, ?_, ?_⟩
    · exact order_statistic_le (Nat.zero_le _) (by omega)
    · rw [hmiddle]
      exact lower_le_middle hne
    · rw [hmiddle]
      exact (middle_le_upper_iff hne).mpr hclose
    · exact order_statistic_le (by omega) (by omega)

/-- Three prices. -/
theorem order_statistics_exact_three :
    ([3, 1, 2] : List I128) ≠ [] ∧ (∀ v ∈ ([3, 1, 2] : List I128), |v.toInt| ≤ 2 ^ 126) ∧
      (ExactStatistics [3, 1, 2] (mock_all_auths 0) empty_storage ↔
        ¬MiddlesOverflow [3, 1, 2] ∧ PairClose [3, 1, 2]) := by
  have hbound : ∀ v ∈ ([3, 1, 2] : List I128), |v.toInt| ≤ 2 ^ 126 := by
    simp only [List.forall_mem_cons, List.not_mem_nil, false_implies, implies_true, and_true]
    decide
  exact ⟨by decide, hbound, order_statistics_exact (by decide) hbound _ _⟩

/-- Of two prices the 75th percentile is the smaller one, below their mean. -/
theorem percentiles_of_two :
    ([10, 20] : List I128) ≠ [] ∧ (∀ v ∈ ([10, 20] : List I128), |v.toInt| ≤ 2 ^ 126) ∧
      calculate_percentiles [10, 20] (mock_all_auths 0) empty_storage = .ok ((10, 15, 10), empty_storage) ∧
      ¬ExactStatistics [10, 20] (mock_all_auths 0) empty_storage := by
  have hbound : ∀ v ∈ ([10, 20] : List I128), |v.toInt| ≤ 2 ^ 126 := by
    simp only [List.forall_mem_cons, List.not_mem_nil, false_implies, implies_true, and_true]
    decide
  have hrun : calculate_percentiles [10, 20] (mock_all_auths 0) empty_storage = .ok ((10, 15, 10), empty_storage) := by
    rw [calculate_percentiles_eq (by decide), calculate_median, if_neg (by decide), if_neg (by decide),
      quick_select_eq (by decide), quick_select_eq (by decide)]
    rfl
  refine ⟨by decide, hbound, hrun, fun h => ?_⟩
  obtain ⟨p25, median, p75, hok, -, -, -, hupper, -⟩ := h.percentiles
  rw [hrun] at hok
  cases hok
  exact absurd hupper (by decide)

end BridgeWatch.Contract

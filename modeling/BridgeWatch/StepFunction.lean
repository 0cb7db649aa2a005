/-
Step functions of recorded values, and their integrals over whole seconds.

A log of values, each recorded at a time, has a value from every time on: the first one recorded at the
latest time that is not after. Several values may be recorded at one time, and all but the first then
leave no trace in the function. Between two whole seconds nothing changes, so that the integral is a sum
over seconds.
-/
import Mathlib.Algebra.BigOperators.Intervals
import Mathlib.Algebra.Order.BigOperators.Group.Finset
import Mathlib.Algebra.Order.Ring.Int

set_option autoImplicit false

namespace StepFunction

variable {V : Type} {log pre post : List (ℕ × V)} {x : ℕ × V} {t τ : ℕ}

/-! ## The value at a time -/

/-- The latest time of a record that is not after `t`. -/
def last_time (log : List (ℕ × V)) (t : ℕ) : Option ℕ := ((log.map Prod.fst).filter (· ≤ t)).max?

/-- The first value recorded at a time. -/
def first_at (log : List (ℕ × V)) (τ : ℕ) : Option V := (log.find? fun r => r.1 = τ).map Prod.snd

/-- The step function: from a time on its value is the first one recorded at that time. -/
def value_at (log : List (ℕ × V)) (t : ℕ) : Option V := (last_time log t).bind (first_at log)

theorem last_time_eq_some_iff : last_time log t = some τ ↔
    (∃ r ∈ log, r.1 = τ) ∧ τ ≤ t ∧ ∀ r ∈ log, r.1 ≤ t → r.1 ≤ τ := by
  rw [last_time, List.max?_eq_some_iff]
  simp only [List.mem_filter, List.mem_map, decide_eq_true_eq, and_imp, forall_exists_index,
    and_assoc]
  constructor
  · rintro ⟨hrecorded, hle, hmax⟩
    exact ⟨hrecorded, hle, fun r hr hrt => hmax r.1 r hr rfl hrt⟩
  · rintro ⟨hrecorded, hle, hmax⟩
    refine ⟨hrecorded, hle, ?_⟩
    rintro τ' r hr rfl hrt
    exact hmax r hr hrt

theorem last_time_eq_none_iff : last_time log t = none ↔ ∀ r ∈ log, t < r.1 := by
  rw [last_time, List.max?_eq_none_iff, List.filter_eq_nil_iff]
  simp

/-- Only which times have a record matters, and only up to `t`. -/
theorem last_time_congr {log' : List (ℕ × V)}
    (h : ∀ τ ≤ t, (∃ r ∈ log, r.1 = τ) ↔ ∃ r ∈ log', r.1 = τ) : last_time log t = last_time log' t := by
  ext τ
  rw [last_time_eq_some_iff, last_time_eq_some_iff]
  constructor
  · rintro ⟨hrecorded, hle, hmax⟩
    refine ⟨(h τ hle).mp hrecorded, hle, fun r hr hrt => ?_⟩
    obtain ⟨q, hq, heq⟩ := (h r.1 hrt).mpr ⟨r, hr, rfl⟩
    rw [← heq]
    exact hmax q hq (heq ▸ hrt)
  · rintro ⟨hrecorded, hle, hmax⟩
    refine ⟨(h τ hle).mpr hrecorded, hle, fun r hr hrt => ?_⟩
    obtain ⟨q, hq, heq⟩ := (h r.1 hrt).mp ⟨r, hr, rfl⟩
    rw [← heq]
    exact hmax q hq (heq ▸ hrt)

theorem last_time_insert (h : (∃ r ∈ pre, r.1 = x.1) ∨ t < x.1) :
    last_time (pre ++ x :: post) t = last_time (pre ++ post) t := by
  apply last_time_congr
  intro τ hle
  simp only [List.mem_append, List.mem_cons]
  constructor
  · rintro ⟨r, hpre | rfl | hpost, rfl⟩
    · exact ⟨r, .inl hpre, rfl⟩
    · rcases h with ⟨q, hq, heq⟩ | hlt
      · exact ⟨q, .inl hq, heq⟩
      · exact absurd hle (not_le.mpr hlt)
    · exact ⟨r, .inr hpost, rfl⟩
  · rintro ⟨r, hpre | hpost, rfl⟩
    · exact ⟨r, .inl hpre, rfl⟩
    · exact ⟨r, .inr (.inr hpost), rfl⟩

theorem first_at_insert (h : (∃ r ∈ pre, r.1 = x.1) ∨ τ ≠ x.1) :
    first_at (pre ++ x :: post) τ = first_at (pre ++ post) τ := by
  unfold first_at
  rw [List.find?_append, List.find?_append]
  by_cases hpre : ∃ r ∈ pre, r.1 = τ
  · have hsome : (pre.find? fun r => decide (r.1 = τ)).isSome = true := by
      simpa using hpre
    obtain ⟨r, hr⟩ := Option.isSome_iff_exists.mp hsome
    rw [hr]
    rfl
  · have hne : x.1 ≠ τ := by
      rcases h with hx | hx
      · rintro rfl
        exact hpre hx
      · exact hx.symm
    rw [List.find?_cons_of_neg (by simpa using hne)]

/-- **What leaves no trace**: a value recorded after the first of its time, and one recorded later. -/
theorem value_at_insert (h : (∃ r ∈ pre, r.1 = x.1) ∨ t < x.1) :
    value_at (pre ++ x :: post) t = value_at (pre ++ post) t := by
  unfold value_at
  rw [last_time_insert h]
  cases hlatest : last_time (pre ++ post) t with
  | none => rfl
  | some =>
      have hle := (last_time_eq_some_iff.mp hlatest).2.1
      exact first_at_insert (h.imp_right fun hlt => by omega)

theorem value_at_concat (h : (∃ r ∈ log, r.1 = x.1) ∨ t < x.1) : value_at (log ++ [x]) t = value_at log t := by
  rw [value_at_insert h, List.append_nil]

/-- A value recorded at a new time, later than all. -/
theorem value_at_concat_new (hnew : ∀ r ∈ log, r.1 < x.1) (ht : x.1 ≤ t) :
    value_at (log ++ [x]) t = some x.2 := by
  have hlatest : last_time (log ++ [x]) t = some x.1 := by
    rw [last_time_eq_some_iff]
    refine ⟨⟨x, by simp, rfl⟩, ht, fun r hr _ => ?_⟩
    rcases List.mem_append.mp hr with hlog | hx
    · exact (hnew r hlog).le
    · rw [List.mem_singleton.mp hx]
  have hnone : (log.find? fun r => decide (r.1 = x.1)) = none := by
    rw [List.find?_eq_none]
    intro r hr
    simpa using (hnew r hr).ne
  rw [value_at, hlatest, Option.bind_some, first_at, List.find?_append, hnone, Option.none_or,
    List.find?_cons_of_pos (by simp), Option.map_some]

/-- After the last record the value stays. -/
theorem value_at_of_le {a : ℕ} (hlast : ∀ r ∈ log, r.1 ≤ a) (ht : a ≤ t) :
    value_at log t = value_at log a := by
  have hlatest : last_time log t = last_time log a := by
    ext τ
    rw [last_time_eq_some_iff, last_time_eq_some_iff]
    constructor
    · rintro ⟨⟨r, hr, rfl⟩, -, hmax⟩
      exact ⟨⟨r, hr, rfl⟩, hlast r hr, fun q hq _ => hmax q hq ((hlast q hq).trans ht)⟩
    · rintro ⟨⟨r, hr, rfl⟩, -, hmax⟩
      exact ⟨⟨r, hr, rfl⟩, (hlast r hr).trans ht, fun q hq _ => hmax q hq (hlast q hq)⟩
  rw [value_at, value_at, hlatest]

theorem exists_value_at (h : ∃ r ∈ log, r.1 ≤ t) : ∃ v, value_at log t = some v := by
  obtain ⟨r, hr, hle⟩ := h
  cases hlatest : last_time log t with
  | none => exact absurd hle (not_le.mpr (last_time_eq_none_iff.mp hlatest r hr))
  | some τ =>
      obtain ⟨⟨q, hq, heq⟩, -, -⟩ := last_time_eq_some_iff.mp hlatest
      have hsome : (log.find? fun r => decide (r.1 = τ)).isSome = true := by
        rw [List.find?_isSome]
        exact ⟨q, hq, by simpa using heq⟩
      obtain ⟨r', hr'⟩ := Option.isSome_iff_exists.mp hsome
      exact ⟨r'.2, by rw [value_at, hlatest, Option.bind_some, first_at, hr', Option.map_some]⟩

/-! ## Integrals -/

section Integrals

variable {log log' : List (ℕ × ℤ)} {a b c : ℕ} {v : ℤ}

/-- The integral of the step function from `a` to `b`; before the first record it is zero. -/
def integral (log : List (ℕ × ℤ)) (a b : ℕ) : ℤ := ∑ t ∈ Finset.Ico a b, (value_at log t).getD 0

theorem integral_add (hab : a ≤ b) (hbc : b ≤ c) : integral log a b + integral log b c = integral log a c :=
  Finset.sum_Ico_consecutive _ hab hbc

theorem integral_congr (h : ∀ t, a ≤ t → t < b → value_at log t = value_at log' t) :
    integral log a b = integral log' a b := by
  apply Finset.sum_congr rfl
  intro t ht
  rw [Finset.mem_Ico] at ht
  rw [h t ht.1 ht.2]

theorem integral_of_nil : integral [] a b = 0 := Finset.sum_eq_zero fun _ _ => rfl

/-- Where the value stays, its multiple by the time. -/
theorem integral_of_const (h : ∀ t, a ≤ t → t < b → value_at log t = some v) :
    integral log a b = v * (b - a : ℕ) := by
  have hconst : integral log a b = ∑ t ∈ Finset.Ico a b, v := by
    apply Finset.sum_congr rfl
    intro t ht
    rw [Finset.mem_Ico] at ht
    rw [h t ht.1 ht.2, Option.getD_some]
  rw [hconst, Finset.sum_const, Nat.card_Ico, nsmul_eq_mul, mul_comm]

/-- **The truncated mean is between two values of the function.** -/
theorem exists_le_mean_le (hab : a < b) (hsome : ∀ t, a ≤ t → t < b → ∃ v, value_at log t = some v) :
    (∃ t v, a ≤ t ∧ t < b ∧ value_at log t = some v ∧ v ≤ (integral log a b).tdiv (b - a : ℕ)) ∧
      ∃ t v, a ≤ t ∧ t < b ∧ value_at log t = some v ∧ (integral log a b).tdiv (b - a : ℕ) ≤ v := by
  have hne : (Finset.Ico a b).Nonempty := Finset.nonempty_Ico.mpr hab
  have hpos : (0 : ℤ) < (b - a : ℕ) := by omega
  constructor
  · obtain ⟨t, ht, hmin⟩ := Finset.exists_min_image _ (fun t => (value_at log t).getD 0) hne
    rw [Finset.mem_Ico] at ht
    obtain ⟨v, hv⟩ := hsome t ht.1 ht.2
    refine ⟨t, v, ht.1, ht.2, hv, ?_⟩
    have hsum := Finset.card_nsmul_le_sum _ (fun t => (value_at log t).getD 0) _ hmin
    rw [Nat.card_Ico, nsmul_eq_mul, hv, Option.getD_some] at hsum
    apply Int.le_tdiv_of_mul_le hpos
    rw [mul_comm]
    exact hsum
  · obtain ⟨t, ht, hmax⟩ := Finset.exists_max_image _ (fun t => (value_at log t).getD 0) hne
    rw [Finset.mem_Ico] at ht
    obtain ⟨v, hv⟩ := hsome t ht.1 ht.2
    refine ⟨t, v, ht.1, ht.2, hv, ?_⟩
    have hsum := Finset.sum_le_card_nsmul _ (fun t => (value_at log t).getD 0) _ hmax
    rw [Nat.card_Ico, nsmul_eq_mul, hv, Option.getD_some] at hsum
    have hmean := Int.tdiv_le_tdiv hpos hsum
    rwa [Int.mul_tdiv_cancel_left _ hpos.ne'] at hmean

end Integrals

end StepFunction

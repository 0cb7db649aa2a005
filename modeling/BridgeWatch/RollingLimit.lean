/-
What a user can use of the limit.

The windows of the rate limiter are counters that are reset: a window starts at the first use after the one before
it is over, and not with the stretch of time that one may look at. The limit in force is the base, doubled for
the whitelisted, scaled by the risk and by the tenure; while the settings stay, only the tenure moves it, and up.
-/
import BridgeWatch.RateLimiter
import BridgeWatch.ResetWindow

set_option autoImplicit false
set_option synthInstance.maxSize 2048

namespace BridgeWatch.RateLimiter

open Transaction CheckedIntegers ResetWindow
open Contract (U32 U64 SString Address saturating_sub_u32 saturating_sub_u64)

/-! ## Footprints -/

/-- The keys by what is asked of them. -/
inductive DataTag where
  | Admin
  | UserUsage
  | Other
  deriving DecidableEq

@[reducible] def DataKey.tag : DataKey → DataTag
  | .Admin => .Admin
  | .UserUsage _ => .UserUsage
  | _ => .Other

instance : Tagged DataKey DataTag := ⟨DataKey.tag⟩

variable {env : Chain} {s s' : LimiterStorage} {user : Address} {p : TimeWindow} {now : U64}
variable {limits limits' : UserLimits} {amount : ℤ}

section Footprints

variable {ts : List DataTag}

instance (key : DataKey) (value : key.Val) [h : Among key.tag ts] : Writes ts (set key value) :=
  have : Among (Tagged.tag key) ts := h
  inferInstance

instance {α : Type} (m : Tx Contract.Env DataKey DataKey.Val α) [h : Writes ts m] : Writes ts (host m) :=
  ⟨fun hm => h.frame hm⟩

instance (address : Address) : Writes ts (HostCalls.require_auth address : Tx Contract.Env DataKey DataKey.Val Unit) := by
  unfold HostCalls.require_auth
  infer_instance

instance (x y : U32) (msg : String) :
    Writes ts (HostCalls.checked_add_u32 x y msg : Tx Contract.Env DataKey DataKey.Val U32) := by
  unfold HostCalls.checked_add_u32
  infer_instance

instance (x y : U64) (msg : String) :
    Writes ts (HostCalls.checked_add_u64 x y msg : Tx Contract.Env DataKey DataKey.Val U64) := by
  unfold HostCalls.checked_add_u64
  infer_instance

instance (caller : Address) : Writes ts (require_admin caller) := by
  unfold require_admin
  infer_instance

instance {usage : UserUsage} : Writes ts (exceeded usage limits amount) := by
  unfold exceeded
  infer_instance

instance {usage : GlobalUsage} {limits : GlobalLimits} : Writes ts (exceeded_globally usage limits amount) := by
  unfold exceeded_globally
  infer_instance

instance : Writes ts (get_risk_profile user) := by
  unfold get_risk_profile
  infer_instance

instance {value factor : ℤ} : Writes ts (scale value factor) := by
  unfold scale
  infer_instance

instance {factor : ℤ} : Writes ts (scale_values limits factor) := by
  unfold scale_values
  infer_instance

instance {w : UsageWindow} : Writes ts (w.with_use amount) := by
  unfold UsageWindow.with_use
  infer_instance

instance : Writes [.Other] (record_history user now amount) := by
  unfold record_history
  infer_instance

end Footprints

/-! ## The limit in force -/

/-- What a user's limits come from: the base, the whitelist and the risk factor. -/
def settings (s : LimiterStorage) (user : Address) : Option UserLimits × Bool × U32 :=
  ((s (.UserLimits user)).or (s .DefaultLimits), (s (.Whitelist user)).getD false,
    ((s (.UserRisk user)).getD safe_profile).adjustment_factor_bps)

/-- A limit under some settings and a tenure's bonus. -/
def in_force (p : TimeWindow) (settings : Option UserLimits × Bool × U32) (bonus : ℕ) : ℤ :=
  let base := settings.1.elim 0 fun limits => limits.value p
  let base := if settings.2.1 = true then base * 2 else base
  max (((base * settings.2.2.toNat).tdiv 10000 * (10000 + bonus)).tdiv 10000) 1

/-- The usage that a call finds. -/
def usage_at (s : LimiterStorage) (user : Address) (now : U64) : UserUsage :=
  (s (.UserUsage user)).getD (fresh_usage now)

/-- The bonus of a user's tenure at a time. -/
def bonus_at (s : LimiterStorage) (user : Address) (now : U64) : ℕ :=
  tenure_bonus (saturating_sub_u64 now (usage_at s user now).first_activity)

theorem one_le_in_force {settings : Option UserLimits × Bool × U32} {bonus : ℕ} : 1 ≤ in_force p settings bonus :=
  le_max_right _ _

theorem scaled_mono {scaled : ℤ} {bonus bonus' : ℕ} (h : bonus ≤ bonus') :
    max ((scaled * (10000 + bonus)).tdiv 10000) 1 ≤ max ((scaled * (10000 + bonus')).tdiv 10000) 1 := by
  rcases le_total 0 scaled with hpos | hneg
  · have hle : scaled * (10000 + bonus) ≤ scaled * (10000 + bonus') :=
      mul_le_mul_of_nonneg_left (by omega) hpos
    exact max_le_max_right 1 (Int.tdiv_le_tdiv (by decide) hle)
  · -- A negative scale leaves the minimum.
    have hle : scaled * (10000 + bonus) ≤ 0 := mul_nonpos_of_nonpos_of_nonneg hneg (by omega)
    have hdiv : (scaled * (10000 + bonus)).tdiv 10000 ≤ 1 :=
      (Int.tdiv_le_tdiv (by decide) hle).trans (by decide)
    exact max_le (hdiv.trans (le_max_right _ _)) (le_max_right _ _)

/-- A limit rises with the bonus. -/
theorem in_force_mono {settings : Option UserLimits × Bool × U32} {bonus bonus' : ℕ} (h : bonus ≤ bonus') :
    in_force p settings bonus ≤ in_force p settings bonus' := scaled_mono h

theorem tenure_bonus_mono {t t' : U64} (h : t ≤ t') : tenure_bonus t ≤ tenure_bonus t' := by
  have hle : t.toNat ≤ t'.toNat := UInt64.le_iff_toNat_le.mp h
  unfold tenure_bonus
  gcongr

theorem tenure_bonus_of_lt {t : U64} (h : t < GRADUATED_TENURE_SECS) : tenure_bonus t = 0 := by
  have hlt : t.toNat < GRADUATED_TENURE_SECS.toNat := UInt64.lt_iff_toNat_lt.mp h
  rw [tenure_bonus, Nat.div_eq_of_lt hlt, Nat.zero_mul, Nat.zero_min]

/-! ## What the helpers have done -/

@[simp] theorem host_eq_ok {α : Type} {m : Tx Contract.Env DataKey DataKey.Val α} {r : α × LimiterStorage} :
    host m env s = .ok r ↔ m env.toEnv s = .ok r := Iff.rfl

@[simp] theorem scale_eq_ok {value factor scaled : ℤ} :
    scale value factor env s = .ok (scaled, s') ↔ FitsI128 (value * factor) ∧ scaled = (value * factor).tdiv 10000 ∧
      s' = s := by
  simp only [scale, bind_eq_ok, expect_eq_ok, checked_mul_eq_some, pure_eq_ok, and_assoc, exists_and_left,
    exists_eq_left]

theorem scale_values_of_ok {factor : ℤ} (h : scale_values limits factor env s = .ok (limits', s')) :
    s' = s ∧ ∀ p, limits'.value p = (limits.value p * factor).tdiv 10000 := by
  simp only [scale_values, bind_eq_ok, scale_eq_ok, pure_eq_ok, and_assoc, exists_and_left, exists_eq_left] at h
  obtain ⟨-, -, -, rfl, rfl⟩ := h
  refine ⟨rfl, fun p => ?_⟩
  cases p <;> rfl

theorem double_limits_of_ok (h : double_limits limits env s = .ok (limits', s')) :
    s' = s ∧ ∀ p, limits'.value p = limits.value p * 2 := by
  simp only [double_limits, double_u32, WHITELIST_MULTIPLIER, bind_eq_ok, expect_eq_ok, checked_mul_eq_some,
    panic_if_eq_ok, pure_eq_ok, and_assoc, exists_and_left, exists_eq_left, exists_const] at h
  obtain ⟨-, -, -, -, -, -, rfl, rfl⟩ := h
  refine ⟨rfl, fun p => ?_⟩
  cases p <;> rfl

theorem multiply_whitelisted_of_ok {listed : Bool} (h : multiply_whitelisted limits listed env s = .ok (limits', s')) :
    s' = s ∧ ∀ p, limits'.value p = if listed = true then limits.value p * 2 else limits.value p := by
  rw [multiply_whitelisted, ite_eq_ok, pure_eq_ok] at h
  rcases h with ⟨hlisted, hdoubled⟩ | ⟨hlisted, rfl, rfl⟩
  · simp only [if_pos hlisted]
    exact double_limits_of_ok hdoubled
  · simp only [if_neg hlisted, implies_true, and_self]

theorem base_limits_of_ok (h : base_limits user env s = .ok (limits, s')) :
    s' = s ∧ (settings s user).1 = some limits := by
  simp only [base_limits, bind_eq_ok, load_eq_ok, expect_eq_ok, and_assoc, exists_and_left, exists_eq_left] at h
  exact ⟨h.2, h.1⟩

@[simp] theorem at_least_one_value : (at_least_one limits).value p = max (limits.value p) 1 := by
  cases p <;> rfl

/-- The bonus of a tenure, which a user without usage does not have. -/
theorem tenure_of_ok {now : U64} {scaled : UserLimits}
    (h : ((s (.UserUsage user)).elim (pure limits) fun u =>
      if saturating_sub_u64 now u.first_activity ≥ GRADUATED_TENURE_SECS then
        scale_values limits (10000 + tenure_bonus (saturating_sub_u64 now u.first_activity))
      else pure limits : Limiter UserLimits) env s = .ok (scaled, s')) :
    s' = s ∧ ∀ p, scaled.value p = (limits.value p * (10000 + bonus_at s user now)).tdiv 10000 := by
  have hplain : ∀ {bonus : ℕ}, bonus = 0 → ∀ p, limits.value p = (limits.value p * (10000 + bonus)).tdiv 10000 := by
    rintro _ rfl p
    rw [Nat.cast_zero, add_zero, Int.mul_tdiv_cancel _ (by decide)]
  unfold bonus_at usage_at
  cases hload : s (.UserUsage user) with
  | none =>
      simp only [hload, Option.elim_none, pure_eq_ok] at h
      obtain ⟨rfl, rfl⟩ := h
      refine ⟨rfl, hplain ?_⟩
      simp [fresh_usage, saturating_sub_u64, tenure_bonus]
  | some =>
      simp only [hload, Option.elim_some, ite_eq_ok, pure_eq_ok, ge_iff_le] at h
      rw [Option.getD_some]
      rcases h with ⟨-, hscaled⟩ | ⟨hshort, rfl, rfl⟩
      · exact scale_values_of_ok hscaled
      · exact ⟨rfl, hplain (tenure_bonus_of_lt (UInt64.not_le.mp hshort))⟩

/-- The limits in force are what the settings and the tenure make of them. -/
theorem effective_of_ok {listed : Bool} (h : compute_effective_limits user listed env s = .ok (limits, s'))
    (hlisted : (s (.Whitelist user)).getD false = listed) :
    s' = s ∧ ∀ p, limits.value p = in_force p (settings s user) (bonus_at s user env.timestamp) := by
  simp only [compute_effective_limits, bind_eq_ok, get_risk_profile, load_eq_ok, reads_eq_ok, pure_eq_ok, and_assoc,
    exists_and_left, exists_eq_left] at h
  obtain ⟨base, s₁, hbase, doubled, s₂, hmultiply, scaled, s₃, hscale, tenured, s₄, htenure, rfl, rfl⟩ := h
  obtain ⟨rfl, hbase⟩ := base_limits_of_ok hbase
  obtain ⟨rfl, hdoubled⟩ := multiply_whitelisted_of_ok hmultiply
  obtain ⟨rfl, hscaled⟩ := scale_values_of_ok hscale
  obtain ⟨rfl, htenured⟩ := tenure_of_ok htenure
  refine ⟨rfl, fun p => ?_⟩
  rw [at_least_one_value, htenured, hscaled, hdoubled, in_force, hbase, Option.elim_some]
  simp only [settings, hlisted]

/-! ## What a use has done -/

/-- A window as a counter. -/
def seen (w : UsageWindow) : Window := ⟨w.window_start.toNat, w.value_used⟩

/-- The counter that a use at a time finds. -/
def found (s : LimiterStorage) (user : Address) (p : TimeWindow) (now : U64) : Window :=
  (seen ((usage_at s user now).window p)).at_time p.secs.toNat now.toNat

theorem decayed_of_ok {w w' : UsageWindow} {secs : U64} (h : decayed_usage w now secs env s = .ok (w', s')) :
    s' = s ∧ seen w' = (seen w).at_time secs.toNat now.toNat := by
  simp only [decayed_usage, bind_eq_ok, host_eq_ok, HostCalls.checked_add_u64_eq_ok, pure_eq_ok, and_assoc,
    exists_and_left, exists_eq_left] at h
  obtain ⟨hfits, rfl, rfl⟩ := h
  have hover : now ≥ w.window_start + secs ↔ w.window_start.toNat + secs.toNat ≤ now.toNat := by
    rw [ge_iff_le, UInt64.le_iff_toNat_le, UInt64.toNat_add, Nat.mod_eq_of_lt hfits]
  refine ⟨rfl, ?_⟩
  by_cases hnow : w.window_start.toNat + secs.toNat ≤ now.toNat
  · rw [if_pos (hover.mpr hnow), Window.at_time, if_pos (by exact hnow)]
    rfl
  · rw [if_neg (mt hover.mp hnow), Window.at_time, if_neg (by exact hnow)]

/-- A use that exceeds no limit. -/
theorem exceeded_none_of_ok {usage : UserUsage} (h : exceeded usage limits amount env s = .ok (none, s')) :
    s' = s ∧ ∀ p, (usage.window p).value_used + amount ≤ limits.value p := by
  simp only [exceeded, bind_eq_ok, expect_eq_ok, checked_add_eq_some, host_eq_ok, HostCalls.checked_add_u32_eq_ok,
    ite_eq_ok, pure_eq_ok, reduceCtorEq, false_and, and_false, false_or, gt_iff_lt, not_lt, and_assoc,
    exists_and_left, exists_eq_left, true_and] at h
  obtain ⟨-, hdaily, -, hweekly, -, hmonthly, -, -, -, -, -, -, rfl⟩ := h
  refine ⟨rfl, fun p => ?_⟩
  cases p
  · exact hdaily
  · exact hweekly
  · exact hmonthly

theorem exceeded_store {usage : UserUsage} {e : Option RateLimitError}
    (h : exceeded usage limits amount env s = .ok (e, s')) : s' = s :=
  Writes.store_eq (inferInstance : Writes ([] : List DataTag) (exceeded usage limits amount)) h

theorem exceeded_globally_store {usage : GlobalUsage} {limits : GlobalLimits} {e : Option RateLimitError}
    (h : exceeded_globally usage limits amount env s = .ok (e, s')) : s' = s :=
  Writes.store_eq (inferInstance : Writes ([] : List DataTag) (exceeded_globally usage limits amount)) h

@[simp] theorem with_use_eq_ok {w w' : UsageWindow} :
    w.with_use amount env s = .ok (w', s') ↔
      FitsI128 (w.value_used + amount) ∧ w.count_used.toNat + UInt32.toNat 1 < 2 ^ 32 ∧
        w' = { w with value_used := w.value_used + amount, count_used := w.count_used + 1 } ∧ s' = s := by
  simp only [UsageWindow.with_use, bind_eq_ok, expect_eq_ok, checked_add_eq_some, host_eq_ok,
    HostCalls.checked_add_u32_eq_ok, pure_eq_ok, and_assoc, exists_and_left, exists_eq_left]

/-- The storage has other usage for the user, and the others have theirs. -/
structure UsageMoved (s s' : LimiterStorage) (user : Address) (usage : UserUsage) (used : ℤ) : Prop where
  usage_eq : ∃ u, s' (.UserUsage user) = some u ∧ u.first_activity = usage.first_activity ∧
    ∀ p, seen (u.window p) = ⟨(usage.window p).window_start.toNat, (usage.window p).value_used + used⟩
  others : ∀ user', user' ≠ user → s' (.UserUsage user') = s (.UserUsage user')
  admin : s' .Admin = s .Admin

theorem breached_of_ok {usage : UserUsage} {u : Unit} (h : handle_breach user usage now env s = .ok (u, s')) :
    UsageMoved s s' user usage 0 := by
  simp only [handle_breach, get_risk_profile, bind_eq_ok, load_eq_ok, host_eq_ok, HostCalls.checked_add_u64_eq_ok,
    HostCalls.checked_add_u32_eq_ok, save_eq_ok, pure_eq_ok, and_assoc, exists_and_left, exists_eq_left,
    exists_const] at h
  obtain ⟨-, -, rfl⟩ := h
  let cooldown_until := now + (s .CooldownDuration).getD DEFAULT_COOLDOWN_SECS
  refine ⟨⟨{ usage with cooldown_until }, by simp [cooldown_until], rfl, fun p => ?_⟩, fun user' hne => by simp [hne],
    by simp⟩
  cases p <;> simp [seen, UserUsage.window]

theorem recorded_of_ok {usage : UserUsage} {global_usage : GlobalUsage} {result : ConsumeResult}
    (h : record_consumption user usage global_usage now amount env s = .ok (result, s')) :
    result = .Allowed ∧ UsageMoved s s' user usage amount := by
  simp only [record_consumption, bind_eq_ok, with_use_eq_ok, expect_eq_ok, checked_add_eq_some, host_eq_ok,
    HostCalls.checked_add_u32_eq_ok, save_eq_ok, pure_eq_ok, and_assoc, exists_and_left, exists_eq_left,
    exists_const] at h
  obtain ⟨-, -, -, -, -, -, -, -, -, -, -, -, _, s₁, hhistory, rfl, rfl⟩ := h
  have hwrites : Writes [DataTag.Other] (record_history user now amount) := inferInstance
  have hkept := hwrites.frame hhistory
  let with_use (w : UsageWindow) : UsageWindow :=
    { w with value_used := w.value_used + amount, count_used := w.count_used + 1 }
  let u : UserUsage :=
    { usage with daily := with_use usage.daily, weekly := with_use usage.weekly, monthly := with_use usage.monthly,
                 lifetime_value := usage.lifetime_value + amount, lifetime_count := usage.lifetime_count + 1 }
  refine ⟨rfl, ⟨u, ?_, rfl, fun p => ?_⟩, fun user' hne => ?_, ?_⟩
  · rw [hkept _ (by simp [Tagged.tag])]
    simp [u, with_use]
  · cases p <;> rfl
  · rw [hkept _ (by simp [Tagged.tag])]
    simp [hne]
  · rw [hkept _ (by simp [Tagged.tag])]
    simp

/-- What a call that consumes does: it is refused, or refused with a cooldown, or the amount is used. -/
inductive Consumed (env : Chain) (s s' : LimiterStorage) (user : Address) (amount : ℤ) : ConsumeResult → Prop
  | refused {code : U32} (hstore : s' = s) : Consumed env s s' user amount (.Rejected code)
  | breached {code : U32} {usage : UserUsage} (hmoved : UsageMoved s s' user usage 0)
      (hfirst : usage.first_activity = (usage_at s user env.timestamp).first_activity)
      (hfound : ∀ p, seen (usage.window p) = found s user p env.timestamp) :
      Consumed env s s' user amount (.Rejected code)
  | allowed {usage : UserUsage} {limits : UserLimits} (hmoved : UsageMoved s s' user usage amount)
      (hpositive : 0 < amount) (hfirst : usage.first_activity = (usage_at s user env.timestamp).first_activity)
      (hfound : ∀ p, seen (usage.window p) = found s user p env.timestamp)
      (hlimits : get_effective_limits user env s = .ok (limits, s))
      (hwithin : ∀ p, (usage.window p).value_used + amount ≤ limits.value p) :
      Consumed env s s' user amount .Allowed

theorem Consumed.admin {result : ConsumeResult} (h : Consumed env s s' user amount result) : s' .Admin = s .Admin := by
  cases h with
  | refused hstore => rw [hstore]
  | breached hmoved => exact hmoved.admin
  | allowed hmoved => exact hmoved.admin

theorem consumed_of_ok {result : ConsumeResult} (h : consume_limit user amount env s = .ok (result, s')) :
    s .CircuitBreaker ≠ none ∧ Consumed env s s' user amount result := by
  simp only [consume_limit, is_emergency_mode, is_whitelisted_internal, get_or_init_usage, bind_eq_ok, host_eq_ok,
    HostCalls.require_auth_eq_ok, load_eq_ok, pure_eq_ok, panic_if_eq_ok, expect_eq_ok, reads_eq_ok, and_assoc,
    exists_and_left, exists_eq_left, exists_const] at h
  obtain ⟨-, -, cb, hcb, -, hpositive, limits, s₁, hlimits, -, daily, s₂, hday, weekly, s₃, hweek, monthly, s₄, hmonth,
    e, s₅, hexceeded, hrest⟩ := h
  obtain rfl : s₁ = s := (effective_of_ok hlimits rfl).1
  obtain ⟨rfl, hdaily⟩ := decayed_of_ok hday
  obtain ⟨rfl, hweekly⟩ := decayed_of_ok hweek
  obtain ⟨rfl, hmonthly⟩ := decayed_of_ok hmonth
  obtain rfl := exceeded_store hexceeded
  refine ⟨by rw [hcb]; exact Option.some_ne_none _, ?_⟩
  have heffective : get_effective_limits user env s₅ = .ok (limits, s₅) := by
    simp only [get_effective_limits, is_whitelisted_internal, bind_eq_ok, load_eq_ok, pure_eq_ok, and_assoc,
      exists_and_left, exists_eq_left]
    exact hlimits
  let usage : UserUsage := { usage_at s₅ user env.timestamp with daily, weekly, monthly }
  have hfound : ∀ p, seen (usage.window p) = found s₅ user p env.timestamp := by
    intro p
    cases p
    · exact hdaily
    · exact hweekly
    · exact hmonthly
  cases e with
  | some =>
      simp only [bind_eq_ok, pure_eq_ok] at hrest
      obtain ⟨_, s₆, hbreach, rfl, rfl⟩ := hrest
      exact .breached (breached_of_ok hbreach) rfl hfound
  | none =>
      have hwithin := (exceeded_none_of_ok hexceeded).2
      simp only [bind_eq_ok, load_eq_ok, expect_eq_ok, and_assoc, exists_and_left, exists_eq_left] at hrest
      obtain ⟨global_usage, -, global_limits, -, global_daily, s₁, hday', global_weekly, s₂, hweek', e, s₃, hglobal,
        hrest⟩ := hrest
      obtain rfl := (decayed_of_ok hday').1
      obtain rfl := (decayed_of_ok hweek').1
      obtain rfl := exceeded_globally_store hglobal
      cases e with
      | some =>
          simp only [pure_eq_ok] at hrest
          obtain ⟨rfl, rfl⟩ := hrest
          exact .refused rfl
      | none =>
          obtain ⟨rfl, hmoved⟩ := recorded_of_ok hrest
          exact .allowed hmoved (not_le.mp hpositive) rfl hfound heffective hwithin

/-! ## What the other calls do -/

@[simp] theorem require_admin_eq_ok {caller : Address} {u : Unit} :
    require_admin caller env s = .ok (u, s') ↔ env.auth caller = true ∧ s .Admin = some caller ∧ s' = s := by
  simp only [require_admin, bind_eq_ok, host_eq_ok, HostCalls.require_auth_eq_ok, load_eq_ok, expect_eq_ok,
    panic_if_eq_ok, not_not, and_assoc, exists_and_left, exists_eq_left, exists_const]
  constructor
  · rintro ⟨hauth, admin, hadmin, rfl, rfl⟩
    exact ⟨hauth, hadmin, rfl⟩
  · rintro ⟨hauth, hadmin, rfl⟩
    exact ⟨hauth, caller, hadmin, rfl, rfl⟩

/-- An update that the admin makes, and that leaves the usage alone. -/
class Administers (m : Limiter Unit) : Prop where
  opened : ∀ {env s s'}, m env s = .ok ((), s') → s .Admin ≠ none
  frame : ∀ {env s s'}, m env s = .ok ((), s') →
    s' .Admin = s .Admin ∧ ∀ user, s' (.UserUsage user) = s (.UserUsage user)

instance {admin : Address} {f : Unit → Limiter Unit} [hf : ∀ u, Writes [DataTag.Other] (f u)] :
    Administers (require_admin admin >>= f) where
  opened h := by
    obtain ⟨u, s₁, hadmin, -⟩ := bind_eq_ok.mp h
    rw [(require_admin_eq_ok.mp hadmin).2.1]
    exact Option.some_ne_none _
  frame h := by
    obtain ⟨u, s₁, hadmin, hrest⟩ := bind_eq_ok.mp h
    obtain ⟨-, -, rfl⟩ := require_admin_eq_ok.mp hadmin
    have hkept := (hf u).frame hrest
    exact ⟨hkept _ (by simp [Tagged.tag]), fun user => hkept _ (by simp [Tagged.tag])⟩

instance {admin : Address} : Administers (update_user_limit admin user limits) := by
  unfold update_user_limit
  infer_instance

instance {admin : Address} {limits : GlobalLimits} : Administers (update_global_limit admin limits) := by
  unfold update_global_limit
  infer_instance

instance {admin : Address} : Administers (update_default_limits admin limits) := by
  unfold update_default_limits
  infer_instance

instance {admin : Address} : Administers (add_to_whitelist admin user) := by
  unfold add_to_whitelist
  infer_instance

instance {admin : Address} : Administers (remove_from_whitelist admin user) := by
  unfold remove_from_whitelist
  infer_instance

instance {admin : Address} {risk_score : U32} : Administers (update_risk_score admin user risk_score) := by
  unfold update_risk_score
  infer_instance

instance {admin : Address} {anomaly_score : U32} : Administers (update_anomaly_score admin anomaly_score) := by
  unfold update_anomaly_score
  infer_instance

instance {admin : Address} : Administers (reset_circuit_breaker admin) := by
  unfold reset_circuit_breaker
  infer_instance

instance {admin : Address} {enabled : Bool} : Administers (set_emergency_mode admin enabled) := by
  unfold set_emergency_mode
  infer_instance

instance {admin : Address} {reduction_bps : U32} : Administers (emergency_reduce_limits admin reduction_bps) := by
  unfold emergency_reduce_limits
  infer_instance

instance {admin : Address} {duration_secs : U64} : Administers (set_cooldown_duration admin duration_secs) := by
  unfold set_cooldown_duration
  infer_instance

instance {admin registry : Address} : Administers (set_asset_registry admin registry) := by
  unfold set_asset_registry
  infer_instance

/-! ## The use of a limit -/

/-- What a call asks to use, in the unit of the limits. -/
def asked (s : LimiterStorage) (t : Chain × EntryPoint) : Option (Address × ℤ) :=
  match t.2 with
  | .consume_limit user amount => some (user, amount)
  | .consume_limit_for_asset user asset_code amount =>
    match normalize_for_asset asset_code amount t.1 s with
    | .ok (normalized, _) => some (user, normalized)
    | .error _ => none
  | _ => none

def is_allowed (s : LimiterStorage) (t : Chain × EntryPoint) : Bool :=
  match perform t.2 t.1 s with
  | .ok (some .Allowed, _) => true
  | _ => false

/-- The user's limit in force when a call is made. -/
def effective_limit (s : LimiterStorage) (user : Address) (p : TimeWindow) (env : Chain) : ℤ :=
  match get_effective_limits user env s with
  | .ok (limits, _) => limits.value p
  | .error _ => 0

/-- The use of the user's limit that a call is. -/
def use_of (user : Address) (p : TimeWindow) (s : LimiterStorage) (t : Chain × EntryPoint) : List Use :=
  match asked s t with
  | some (user', amount) =>
    if user' = user ∧ is_allowed s t = true then
      [{ time := t.1.timestamp.toNat, amount, limit := effective_limit s user p t.1 }]
    else []
  | none => []

/-- What a call does to the user's usage in a window, and the use that it is. -/
inductive UsageStep (now : U64) (s s' : LimiterStorage) (user : Address) (p : TimeWindow) : List Use → Prop
  | kept (husage : s' (.UserUsage user) = s (.UserUsage user)) : UsageStep now s s' user p []
  | moved {u : UserUsage} (hopen : s .Admin ≠ none) (husage : s' (.UserUsage user) = some u)
      (hfirst : u.first_activity = (usage_at s user now).first_activity)
      (hwindow : seen (u.window p) = seen ((usage_at s user now).window p) ∨ seen (u.window p) = found s user p now) :
      UsageStep now s s' user p []
  | used {u : UserUsage} {amount limit : ℤ} (hopen : s .Admin ≠ none) (husage : s' (.UserUsage user) = some u)
      (hfirst : u.first_activity = (usage_at s user now).first_activity)
      (hwindow : seen (u.window p) = ⟨(found s user p now).start, (found s user p now).used + amount⟩)
      (hpositive : 0 < amount) (hlimit : limit = in_force p (settings s user) (bonus_at s user now))
      (hwithin : (found s user p now).used + amount ≤ limit) :
      UsageStep now s s' user p [⟨now.toNat, amount, limit⟩]

/-- Nothing is stored before the contract is initialised. -/
def Founded (s : LimiterStorage) : Prop := s .Admin = none → ∀ key, s key = none

theorem Founded.opened (hs : Founded s) {key : DataKey} (h : s key ≠ none) : s .Admin ≠ none :=
  fun hnone => h (hs hnone key)

variable {t : Chain × EntryPoint} {user' : Address} {result : ConsumeResult}

/-- A call that consumes, seen from any user. -/
theorem usage_step_of_consumed (hs : Founded s) (hbreaker : s .CircuitBreaker ≠ none)
    (h : Consumed env s s' user' amount result) (hasked : asked s t = some (user', amount)) (henv : t.1 = env)
    (hallowed : is_allowed s t = true ↔ result = .Allowed) :
    UsageStep env.timestamp s s' user p (use_of user p s t) := by
  have hopen := hs.opened hbreaker
  simp only [use_of, hasked, henv, hallowed]
  by_cases huser : user' = user
  · subst huser
    cases h with
    | refused hstore =>
        rw [if_neg (by simp), hstore]
        exact .kept rfl
    | breached hmoved hfirst hfound =>
        obtain ⟨u, husage, hu, hwindow⟩ := hmoved.usage_eq
        rw [if_neg (by simp)]
        refine .moved hopen husage (hu.trans hfirst) (Or.inr ?_)
        rw [hwindow, ← hfound, add_zero, seen]
    | @allowed _ limits hmoved hpositive hfirst hfound hlimits hwithin =>
        obtain ⟨u, husage, hu, hwindow⟩ := hmoved.usage_eq
        have hlimit : effective_limit s user' p env = limits.value p := by rw [effective_limit, hlimits]
        simp only [get_effective_limits, is_whitelisted_internal, bind_eq_ok, load_eq_ok, pure_eq_ok, and_assoc,
          exists_and_left, exists_eq_left] at hlimits
        rw [if_pos ⟨rfl, rfl⟩, hlimit]
        refine .used hopen husage (hu.trans hfirst) ?_ hpositive ((effective_of_ok hlimits rfl).2 p) ?_
        · rw [hwindow, ← hfound, seen]
        · rw [← hfound]
          exact hwithin p
  · rw [if_neg (by simp [huser])]
    refine .kept ?_
    cases h with
    | refused hstore => rw [hstore]
    | breached hmoved | allowed hmoved => exact hmoved.others user (Ne.symm huser)

theorem usage_step_of_administers {m : Limiter Unit} [hm : Administers m] (hasked : asked s t = none)
    (h : m env s = .ok ((), s')) : s .Admin ≠ none ∧ s' .Admin = s .Admin ∧
      UsageStep env.timestamp s s' user p (use_of user p s t) := by
  obtain ⟨hadmin, husage⟩ := hm.frame h
  rw [use_of, hasked]
  exact ⟨hm.opened h, hadmin, .kept (husage user)⟩

instance {asset_code : SString} : Writes ([] : List DataTag) (normalize_for_asset asset_code amount) := by
  unfold normalize_for_asset asset_decimals normalize_amount
  infer_instance

theorem normalized_store {asset_code : SString} {normalized : ℤ}
    (h : normalize_for_asset asset_code amount env s = .ok (normalized, s')) : s' = s :=
  Writes.store_eq (inferInstance : Writes ([] : List DataTag) (normalize_for_asset asset_code amount)) h

theorem is_allowed_of_ok (h : perform t.2 t.1 s = .ok (some result, s')) : is_allowed s t = true ↔ result = .Allowed := by
  rw [is_allowed, h]
  cases result <;> simp

theorem usage_step_of_consume_limit (hs : Founded s) (h : consume_limit user' amount t.1 s = .ok (result, s'))
    (hasked : asked s t = some (user', amount)) (hperform : perform t.2 t.1 s = .ok (some result, s')) :
    s' .Admin ≠ none ∧ UsageStep t.1.timestamp s s' user p (use_of user p s t) := by
  obtain ⟨hbreaker, hconsumed⟩ := consumed_of_ok h
  constructor
  · rw [hconsumed.admin]
    exact hs.opened hbreaker
  · exact usage_step_of_consumed hs hbreaker hconsumed hasked rfl (is_allowed_of_ok hperform)

/-- **What one call does** to the user's usage. -/
theorem usage_step (hs : Founded s) (h : exec t.2 t.1 s = .ok ((), s')) :
    s' .Admin ≠ none ∧ UsageStep t.1.timestamp s s' user p (use_of user p s t) := by
  obtain ⟨env, call⟩ := t
  have hadministered : s .Admin ≠ none ∧ s' .Admin = s .Admin ∧
      UsageStep env.timestamp s s' user p (use_of user p s (env, call)) →
        s' .Admin ≠ none ∧ UsageStep env.timestamp s s' user p (use_of user p s (env, call)) := by
    rintro ⟨hopen, hadmin, hstep⟩
    exact ⟨by rwa [hadmin], hstep⟩
  simp only [exec, bind_eq_ok, pure_eq_ok, true_and, exists_eq_right'] at h
  obtain ⟨r, hperform⟩ := h
  cases call with
  | initialize_limiter =>
      simp only [perform, initialize_limiter, bind_eq_ok, host_eq_ok, HostCalls.require_auth_eq_ok, load_eq_ok,
        panic_if_eq_ok, save_eq_ok, reads_eq_ok, pure_eq_ok, and_assoc, exists_and_left, exists_eq_left,
        exists_const] at hperform
      obtain ⟨-, -, -, rfl⟩ := hperform
      exact ⟨by simp, .kept (by simp)⟩
  | consume_limit =>
      have h := hperform
      simp only [perform, bind_eq_ok, pure_eq_ok] at h
      obtain ⟨result, _, hconsume, rfl, rfl⟩ := h
      exact usage_step_of_consume_limit hs hconsume rfl hperform
  | consume_limit_for_asset =>
      have h := hperform
      simp only [perform, consume_limit_for_asset, bind_eq_ok, pure_eq_ok] at h
      obtain ⟨result, _, ⟨normalized, s₁, hnormalized, hconsume⟩, rfl, rfl⟩ := h
      obtain rfl := normalized_store hnormalized
      refine usage_step_of_consume_limit hs hconsume ?_ hperform
      simp only [asked, hnormalized]
  | clear_cooldown _ user' =>
      simp only [perform, clear_cooldown, get_or_init_usage, bind_eq_ok, require_admin_eq_ok, reads_eq_ok, load_eq_ok,
        save_eq_ok, pure_eq_ok, and_assoc, exists_and_left, exists_eq_left, exists_const] at hperform
      obtain ⟨-, hadmin, -, rfl⟩ := hperform
      have hopen : s .Admin ≠ none := by
        rw [hadmin]
        exact Option.some_ne_none _
      refine ⟨by simpa using hopen, ?_⟩
      by_cases huser : user = user'
      · subst huser
        refine .moved hopen (Function.update_self ..) rfl (Or.inl ?_)
        cases p <;> rfl
      · exact .kept (by simp [huser])
  | _ =>
      simp only [perform, bind_eq_ok, pure_eq_ok] at hperform
      obtain ⟨_, _, hupdate, rfl, rfl⟩ := hperform
      exact hadministered (usage_step_of_administers rfl hupdate)

/-! ## Runs -/

/-- What is on the user's meter is the use so far. -/
structure Metered (user : Address) (p : TimeWindow) (s : LimiterStorage) (log : List Use) (now : U64) : Prop where
  unused : s (.UserUsage user) = none → log = []
  started : ∀ u, s (.UserUsage user) = some u → u.first_activity ≤ now
  accounts : ∀ u, s (.UserUsage user) = some u → Accounts p.secs.toNat log (seen (u.window p))
    (in_force p (settings s user) (bonus_at s user now)) now.toNat

variable {log : List Use} {now' : U64}

theorem saturating_sub_mono {first : U64} (h : now ≤ now') : saturating_sub_u64 now first ≤ saturating_sub_u64 now' first := by
  have hle : now.toNat ≤ now'.toNat := UInt64.le_iff_toNat_le.mp h
  rw [UInt64.le_iff_toNat_le, Contract.toNat_saturating_sub, Contract.toNat_saturating_sub]
  omega

/-- The meter that a call finds, before windows start again. -/
theorem Metered.later (hs : Metered user p s log now) (hnow : now ≤ now') :
    (usage_at s user now').first_activity ≤ now' ∧ Accounts p.secs.toNat log (seen ((usage_at s user now').window p))
      (in_force p (settings s user) (bonus_at s user now')) now'.toNat := by
  have hle : now.toNat ≤ now'.toNat := UInt64.le_iff_toNat_le.mp hnow
  cases hload : s (.UserUsage user) with
  | none =>
      have hfresh : seen ((fresh_usage now').window p) = ⟨now'.toNat, 0⟩ := by cases p <;> rfl
      rw [hs.unused hload, usage_at, hload, Option.getD_none, hfresh]
      refine ⟨UInt64.le_refl now', accounts_start ?_⟩
      have hone : 1 ≤ in_force p (settings s user) (bonus_at s user now') := one_le_in_force
      omega
  | some u =>
      rw [usage_at, hload, Option.getD_some]
      refine ⟨UInt64.le_trans (hs.started u hload) hnow, (hs.accounts u hload).later hle (in_force_mono ?_)⟩
      simp only [bonus_at, usage_at, hload, Option.getD_some]
      exact tenure_bonus_mono (saturating_sub_mono hnow)

theorem secs_pos : 0 < p.secs.toNat := by cases p <;> decide

/-- Time passes, and the settings stay. -/
theorem Metered.kept (hs : Metered user p s log now) (hnow : now ≤ now') (husage : s' (.UserUsage user) = s (.UserUsage user))
    (hsettings : settings s' user = settings s user) : Metered user p s' log now' := by
  have hfound := hs.later hnow
  refine ⟨fun hnone => hs.unused (husage ▸ hnone), fun u hu => ?_, fun u hu => ?_⟩ <;> rw [husage] at hu
  · simpa only [usage_at, hu, Option.getD_some] using hfound.1
  · have hbonus : bonus_at s' user now' = bonus_at s user now' := by rw [bonus_at, usage_at, husage, bonus_at, usage_at]
    rw [hsettings, hbonus]
    simpa only [usage_at, hu, Option.getD_some] using hfound.2

/-- The user has other usage, of the same tenure. -/
theorem metered_of_usage {u : UserUsage} (husage : s' (.UserUsage user) = some u)
    (hfirst : u.first_activity = (usage_at s user now).first_activity) (hle : (usage_at s user now).first_activity ≤ now)
    (hsettings : settings s' user = settings s user)
    (haccounts : Accounts p.secs.toNat log (seen (u.window p)) (in_force p (settings s user) (bonus_at s user now)) now.toNat) :
    Metered user p s' log now := by
  refine ⟨fun hnone => ?_, fun u' hu' => ?_, fun u' hu' => ?_⟩
  · rw [husage] at hnone
    cases hnone
  · rw [husage] at hu'
    cases hu'
    rwa [hfirst]
  · have hbonus : bonus_at s' user now = bonus_at s user now := by
      rw [bonus_at, bonus_at, ← hfirst, usage_at, husage, Option.getD_some]
    rw [husage] at hu'
    cases hu'
    rwa [hsettings, hbonus]

/-- The call leaves the user's settings alone, unless there is no admin yet. -/
def KeepsSettings (user : Address) (s : LimiterStorage) (t : Chain × EntryPoint) : Prop :=
  s .Admin = none ∨ settings (step exec t s) user = settings s user

theorem metered_step {used : List Use} (hs : Metered user p s log now) (hnow : now ≤ now') (hfounded : Founded s)
    (hsettings : s .Admin = none ∨ settings s' user = settings s user) (h : UsageStep now' s s' user p used) :
    Metered user p s' (log ++ used) now' := by
  obtain ⟨hfirst_le, haccounts⟩ := hs.later hnow
  cases h with
  | kept husage =>
      rw [List.append_nil]
      rcases hsettings with hnone | hsettings
      · have hload : s' (.UserUsage user) = none := by rw [husage, hfounded hnone]
        refine ⟨fun _ => hs.unused (hfounded hnone _), fun u hu => ?_, fun u hu => ?_⟩ <;> rw [hload] at hu <;> cases hu
      · exact hs.kept hnow husage hsettings
  | moved hopen husage hfirst hwindow =>
      rw [List.append_nil]
      refine metered_of_usage husage hfirst hfirst_le (hsettings.resolve_left hopen) ?_
      rcases hwindow with hwindow | hwindow <;> rw [hwindow]
      · exact haccounts
      · exact haccounts.reset secs_pos
  | used hopen husage hfirst hwindow hpositive hlimit hwithin =>
      refine metered_of_usage husage hfirst hfirst_le (hsettings.resolve_left hopen) ?_
      rw [hwindow, ← hlimit]
      exact (haccounts.reset secs_pos).use (Window.lt_at_time secs_pos) hpositive.le hwithin hlimit.ge

/-- The user's uses of the limit in a run. -/
def uses (user : Address) (p : TimeWindow) (calls : List (Chain × EntryPoint)) : List Use :=
  collect exec (use_of user p) empty_storage calls

/-- In any stretch of time, at most so many times the limit in force at its last use. -/
def AtMost (factor : ℤ) (p : TimeWindow) (log : List Use) : Prop :=
  ∀ t u, (stretch log t p.secs.toNat).getLast? = some u → total (stretch log t p.secs.toNat) ≤ factor * u.limit

theorem metered_run {calls : List (Chain × EntryPoint)} (hs : Founded s) (hmetered : Metered user p s log now)
    (htimes : (calls.map fun t => t.1.timestamp).Pairwise (· ≤ ·)) (hlater : ∀ t ∈ calls, now ≤ t.1.timestamp)
    (hkept : Along exec (KeepsSettings user) s calls) :
    ∃ now', Metered user p (run s calls) (log ++ collect exec (use_of user p) s calls) now' := by
  induction calls generalizing s log now with
  | nil =>
      rw [collect, List.append_nil]
      exact ⟨now, hmetered⟩
  | cons t calls ih =>
      have hnow := hlater t (List.mem_cons_self ..)
      rw [List.map_cons, List.pairwise_cons] at htimes
      have hlater' : ∀ u ∈ calls, t.1.timestamp ≤ u.1.timestamp := fun u hu =>
        htimes.1 _ (List.mem_map_of_mem hu)
      rw [collect, ← List.append_assoc, run, runFrom_cons]
      rcases step_cases exec s t with hok | ⟨⟨msg, herror⟩, heq⟩
      · obtain ⟨hopen, hstep⟩ : _ ∧ UsageStep t.1.timestamp s _ user p (use_of user p s t) := usage_step hs hok
        rw [if_pos (by rw [hok]; rfl)]
        exact ih (fun hnone => absurd hnone hopen) (metered_step hmetered hnow hs hkept.1 hstep) htimes.2 hlater' hkept.2
      · rw [if_neg (by rw [herror]; simp [Except.isOk, Except.toBool]), List.append_nil]
        have hsame : Metered user p (step exec t s) log t.1.timestamp := by
          rw [heq]
          exact hmetered.kept hnow rfl rfl
        exact ih (by rwa [heq]) hsame htimes.2 hlater' hkept.2

/-- **Twice the limit.** -/
theorem rolling_limit (user : Address) (p : TimeWindow) {calls : List (Chain × EntryPoint)}
    (htimes : (calls.map fun t => t.1.timestamp).Pairwise (· ≤ ·))
    (hkept : Along exec (KeepsSettings user) empty_storage calls) : AtMost 2 p (uses user p calls) := by
  have hempty : Metered user p empty_storage [] 0 := ⟨fun _ => rfl, nofun, nofun⟩
  have hfounded : Founded empty_storage := fun _ _ => rfl
  obtain ⟨now, hmetered⟩ := metered_run hfounded hempty htimes (fun _ _ => UInt64.zero_le) hkept
  rw [List.nil_append] at hmetered
  intro t u hu
  cases hload : run empty_storage calls (.UserUsage user) with
  | none =>
      rw [uses, hmetered.unused hload, stretch, List.filter_nil] at hu
      cases hu
  | some usage => exact (hmetered.accounts usage hload).doubled t u hu

/-- A user empties a window just before it is over, and the next one at once. -/
def emptied_twice : List (Chain × EntryPoint) :=
  [(signed_at 0, .initialize_limiter (party 0)), (signed_at 0, .consume_limit (party 1) 1),
    (signed_at 86399, .consume_limit (party 1) 999999999), (signed_at 86400, .consume_limit (party 1) 1000000000)]

theorem emptied_twice_keeps : Along exec (KeepsSettings (party 1)) empty_storage emptied_twice :=
  ⟨Or.inl rfl, Or.inr (by decide +kernel), Or.inr (by decide +kernel), Or.inr (by decide +kernel), trivial⟩

theorem emptied_twice_uses : uses (party 1) .Daily emptied_twice =
    [⟨0, 1, 1000000000⟩, ⟨86399, 999999999, 1000000000⟩, ⟨86400, 1000000000, 1000000000⟩] := by
  decide +kernel

theorem rolling_limit_emptied_twice : AtMost 2 .Daily (uses (party 1) .Daily emptied_twice) :=
  rolling_limit (party 1) .Daily (by simp [emptied_twice, signed_at]) emptied_twice_keeps

/-- Almost twice the limit within a day. -/
theorem rolling_limit_exceeded :
    ¬∀ (user : Address) (p : TimeWindow) (calls : List (Chain × EntryPoint)),
      (calls.map fun t => t.1.timestamp).Pairwise (· ≤ ·) → Along exec (KeepsSettings user) empty_storage calls →
        AtMost 1 p (uses user p calls) := by
  intro h
  have hday := h (party 1) .Daily emptied_twice (by simp [emptied_twice, signed_at]) emptied_twice_keeps
  rw [emptied_twice_uses] at hday
  exact absurd (hday 1 ⟨86400, 1000000000, 1000000000⟩ (by decide)) (by decide)

end BridgeWatch.RateLimiter

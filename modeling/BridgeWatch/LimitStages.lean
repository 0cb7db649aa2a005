/-
The stages of a use of the limit.

A call that consumes first finds what both it and the read-only check start from: the contract is open, the
limits in force can be computed, the user is not in a cooldown, and the windows have started again where they
are over. Then it compares the user's budgets, then the protocol's, and then it counts. Each stage returns exactly
when its sums are in range, and what it returns is told here without the calls.
-/
import BridgeWatch.RollingLimit

set_option autoImplicit false
set_option synthInstance.maxSize 2048

namespace BridgeWatch.RateLimiter

open Transaction CheckedIntegers
open Contract (U32 U64 SString Address saturating_sub_u32)

/-! ## What a use starts from -/

/-- A window at a time. -/
@[irreducible] def decayed (window : UsageWindow) (now window_secs : U64) : UsageWindow :=
  if now ≥ window.window_start + window_secs then fresh_window now else window

/-- The usage at a time, with the windows decayed. -/
def UserUsage.at_time (usage : UserUsage) (now : U64) : UserUsage :=
  { usage with
    daily := decayed usage.daily now DAY_SECS
    weekly := decayed usage.weekly now WEEK_SECS
    monthly := decayed usage.monthly now MONTH_SECS }

/-- The user's usage at a time. -/
def current_usage (s : LimiterStorage) (user : Address) (now : U64) : UserUsage := (usage_at s user now).at_time now

/-- The count limit of a window. -/
def UserLimits.count (limits : UserLimits) : TimeWindow → U32
  | .Daily => limits.daily_count
  | .Weekly => limits.weekly_count
  | .Monthly => limits.monthly_count

/-- The end of the window is a time. -/
def UsageWindow.Ends (window : UsageWindow) (window_secs : U64) : Prop :=
  window.window_start.toNat + window_secs.toNat < 2 ^ 64

/-- The contract is open: no emergency, and the breaker is not tripped. -/
def Unblocked (s : LimiterStorage) : Prop :=
  s .EmergencyMode ≠ some true ∧ ∃ cb, s .CircuitBreaker = some cb ∧ cb.tripped = false

/-- The user is in a cooldown. -/
def CoolingDown (s : LimiterStorage) (user : Address) (now : U64) : Prop :=
  (usage_at s user now).cooldown_until > now

/-- The limits in force can be computed, and the windows end. -/
structure Computable (env : Chain) (s : LimiterStorage) (user : Address) (limits : UserLimits) : Prop where
  limits_eq : get_effective_limits user env s = .ok (limits, s)
  windows_end : ∀ p, ((usage_at s user env.timestamp).window p).Ends p.secs

variable {env : Chain} {s s' : LimiterStorage} {user : Address} {now : U64} {amount : ℤ}
variable {limits : UserLimits} {usage : UserUsage} {result : ConsumeResult}

section Starts

-- The windows of a usage at a time: none of these may be left to unfold `decayed`, whose comparison of times does
-- not reduce.
theorem at_time_daily (usage : UserUsage) (now : U64) :
    (usage.at_time now).daily = decayed usage.daily now DAY_SECS := by
  rw [UserUsage.at_time]

theorem at_time_weekly (usage : UserUsage) (now : U64) :
    (usage.at_time now).weekly = decayed usage.weekly now WEEK_SECS := by
  rw [UserUsage.at_time]

theorem at_time_monthly (usage : UserUsage) (now : U64) :
    (usage.at_time now).monthly = decayed usage.monthly now MONTH_SECS := by
  rw [UserUsage.at_time]

theorem forall_window {P : TimeWindow → Prop} : (∀ p, P p) ↔ P .Daily ∧ P .Weekly ∧ P .Monthly := by
  refine ⟨fun h => ⟨h _, h _, h _⟩, fun h p => ?_⟩
  cases p
  · exact h.1
  · exact h.2.1
  · exact h.2.2

/-- What is said of the windows of the user's usage at a time. -/
theorem current_window_iff {P : TimeWindow → UsageWindow → Prop} :
    (∀ p, P p ((current_usage s user now).window p)) ↔ P .Daily (decayed (usage_at s user now).daily now DAY_SECS) ∧
      P .Weekly (decayed (usage_at s user now).weekly now WEEK_SECS) ∧
      P .Monthly (decayed (usage_at s user now).monthly now MONTH_SECS) := by
  have hwindows : ∀ usage : UserUsage, (∀ p, P p (usage.window p)) ↔
      P .Daily usage.daily ∧ P .Weekly usage.weekly ∧ P .Monthly usage.monthly := fun _ => forall_window
  rw [hwindows, current_usage, at_time_daily, at_time_weekly, at_time_monthly]

theorem decayed_usage_eq_ok {w w' : UsageWindow} {secs : U64} :
    decayed_usage w now secs env s = .ok (w', s') ↔ w.Ends secs ∧ w' = decayed w now secs ∧ s' = s := by
  simp only [decayed_usage, decayed, UsageWindow.Ends, bind_eq_ok, host_eq_ok, HostCalls.checked_add_u64_eq_ok,
    pure_eq_ok, and_assoc, exists_and_left, exists_eq_left]

theorem Computable.eq {limits' : UserLimits} (h : Computable env s user limits) (h' : Computable env s user limits') :
    limits = limits' := by
  have heq := h.limits_eq.symm.trans h'.limits_eq
  simp only [Except.ok.injEq, Prod.mk.injEq, and_true] at heq
  exact heq

theorem get_effective_limits_eq (listed : Bool) (hlisted : (s (.Whitelist user)).getD false = listed) :
    get_effective_limits user env s = compute_effective_limits user listed env s := by
  subst hlisted
  rfl

/-- What is scaled and at least one is in range. -/
theorem Computable.fits (h : Computable env s user limits) (p : TimeWindow) :
    1 ≤ limits.value p ∧ limits.value p < 2 ^ 127 := by
  have hlimits := h.limits_eq
  rw [get_effective_limits_eq _ rfl] at hlimits
  simp only [compute_effective_limits, bind_eq_ok, get_risk_profile, load_eq_ok, reads_eq_ok, pure_eq_ok, and_assoc,
    exists_and_left, exists_eq_left] at hlimits
  obtain ⟨base, s₁, -, doubled, s₂, -, scaled, s₃, hscale, tenured, s₄, htenure, rfl, -⟩ := hlimits
  have hscaled : ∀ {limits limits' : UserLimits} {factor : ℤ} {s s' : LimiterStorage},
      scale_values limits factor env s = .ok (limits', s') → limits'.value p < 2 ^ 127 := by
    intro limits limits' factor s s' h
    simp only [scale_values, bind_eq_ok, scale_eq_ok, pure_eq_ok, and_assoc, exists_and_left, exists_eq_left] at h
    obtain ⟨hday, hweek, hmonth, rfl, -⟩ := h
    cases p
    · exact (hday.tdiv (by decide)).2
    · exact (hweek.tdiv (by decide)).2
    · exact (hmonth.tdiv (by decide)).2
  have htenured : tenured.value p < 2 ^ 127 := by
    rw [elim_eq_ok] at htenure
    rcases htenure with ⟨-, htenure⟩ | ⟨u, -, htenure⟩
    · obtain ⟨rfl, -⟩ := pure_eq_ok.mp htenure
      exact hscaled hscale
    · rcases ite_eq_ok.mp htenure with ⟨-, hbonus⟩ | ⟨-, hplain⟩
      · exact hscaled hbonus
      · obtain ⟨rfl, -⟩ := pure_eq_ok.mp hplain
        exact hscaled hscale
  rw [at_least_one_value]
  exact ⟨le_max_right _ _, max_lt htenured (by decide)⟩

end Starts

/-! ## The read-only check -/

structure LimitCheckResult where
  allowed : Bool
  daily_remaining_value : ℤ
  daily_remaining_count : U32
  weekly_remaining_value : ℤ
  monthly_remaining_value : ℤ
  effective_daily_limit : ℤ
  is_whitelisted : Bool
  deriving DecidableEq

/-- `x - y` on `i128`. -/
abbrev sub (x y : ℤ) : Limiter ℤ := expect (checked_sub x y) "attempt to subtract with overflow"

def check_limit (user : Address) (amount : ℤ) : Limiter LimitCheckResult := do
  let emergency ← is_emergency_mode
  err_if (emergency = true) .EmergencyModeActive
  let cb ← get .CircuitBreaker
  let cb ← unwrap cb
  err_if (cb.tripped = true) .CircuitBreakerTripped
  let now ← timestamp
  let is_whitelisted ← is_whitelisted_internal user
  let effective_limits ← compute_effective_limits user is_whitelisted
  let usage ← get_or_init_usage user now
  err_if (usage.cooldown_until > now) .CooldownActive
  let daily_usage ← decayed_usage usage.daily now DAY_SECS
  let weekly_usage ← decayed_usage usage.weekly now WEEK_SECS
  let monthly_usage ← decayed_usage usage.monthly now MONTH_SECS
  let daily_remaining_value ← sub effective_limits.daily_value daily_usage.value_used
  let weekly_remaining_value ← sub effective_limits.weekly_value weekly_usage.value_used
  let monthly_remaining_value ← sub effective_limits.monthly_value monthly_usage.value_used
  let daily_remaining_count := saturating_sub_u32 effective_limits.daily_count daily_usage.count_used
  return {
    allowed := amount ≤ daily_remaining_value ∧ amount ≤ weekly_remaining_value ∧ amount ≤ monthly_remaining_value ∧
      daily_remaining_count > 0
    daily_remaining_value, daily_remaining_count, weekly_remaining_value, monthly_remaining_value
    effective_daily_limit := effective_limits.daily_value
    is_whitelisted }

/-- `cross_contract_check`. -/
def cross_contract_check (user : Address) (amount : ℤ) (_contract_id : Address) : Limiter LimitCheckResult :=
  check_limit user amount

/-- What the check looks at: the three value budgets and the daily count. -/
structure Within (limits : UserLimits) (usage : UserUsage) (amount : ℤ) : Prop where
  values : ∀ p, (usage.window p).value_used + amount ≤ limits.value p
  daily_count : usage.daily.count_used < limits.daily_count

section Checks

theorem unblocked_iff : Unblocked s ↔ ((s .EmergencyMode).getD false = true → False) ∧
    ∃ cb, s .CircuitBreaker = some cb ∧ (cb.tripped = true → False) := by
  simp only [Unblocked, imp_false, Bool.not_eq_true]
  refine and_congr_left fun _ => ?_
  cases s .EmergencyMode with
  | none => simp
  | some b => cases b <;> simp

theorem remaining_pos {limit used : U32} : saturating_sub_u32 limit used > 0 ↔ used < limit := by
  rw [saturating_sub_u32, gt_iff_lt]
  by_cases h : limit < used
  · rw [if_pos h]
    exact iff_of_false (UInt32.lt_irrefl 0) (UInt32.not_lt.mpr (UInt32.le_of_lt h))
  · rw [if_neg h, UInt32.lt_iff_toNat_lt, UInt32.toNat_sub_of_le _ _ (UInt32.not_lt.mp h), UInt32.lt_iff_toNat_lt]
    change 0 < _ ↔ _
    omega

/-- **The check allows** an amount within the budgets that it looks at. -/
theorem check_allows_iff (hcounted : ∀ p, 0 ≤ ((current_usage s user env.timestamp).window p).value_used)
    (hamount : 0 < amount) :
    (∃ r s', check_limit user amount env s = .ok (r, s') ∧ r.allowed = true) ↔
      Unblocked s ∧ ¬CoolingDown s user env.timestamp ∧
        ∃ limits, Computable env s user limits ∧ Within limits (current_usage s user env.timestamp) amount := by
  have hcounted' := current_window_iff (P := fun _ w => 0 ≤ w.value_used).mp hcounted
  have hwindows : ∀ limits : UserLimits,
      (∀ p, ((current_usage s user env.timestamp).window p).value_used + amount ≤ limits.value p) ↔ _ :=
    fun limits => current_window_iff (P := fun p w => w.value_used + amount ≤ limits.value p)
  constructor
  · rintro ⟨r, s', hcheck, hallowed⟩
    simp only [check_limit, is_emergency_mode, is_whitelisted_internal, get_or_init_usage, bind_eq_ok, load_eq_ok,
      pure_eq_ok, panic_if_eq_ok, expect_eq_ok, checked_sub_eq_some, reads_eq_ok, decayed_usage_eq_ok, and_assoc,
      exists_and_left, exists_eq_left, exists_const] at hcheck
    obtain ⟨hemergency, cb, hcb, hbreaker, limits, s₁, hlimits, hcooldown, hday, hweek, hmonth, -, -, -, rfl, rfl⟩ :=
      hcheck
    obtain rfl : s' = s := (effective_of_ok hlimits rfl).1
    obtain ⟨hdaily, hweekly, hmonthly, hcount⟩ := of_decide_eq_true hallowed
    refine ⟨unblocked_iff.mpr ⟨hemergency, cb, hcb, hbreaker⟩, hcooldown, limits,
      ⟨hlimits, forall_window.mpr ⟨hday, hweek, hmonth⟩⟩, (hwindows limits).mpr ⟨?_, ?_, ?_⟩, ?_⟩
    · exact Int.add_le_of_le_sub_left hdaily
    · exact Int.add_le_of_le_sub_left hweekly
    · exact Int.add_le_of_le_sub_left hmonthly
    · rw [current_usage, at_time_daily]
      exact remaining_pos.mp hcount
  · rintro ⟨hopen, hcooldown, limits, hcomputable, hwithin⟩
    obtain ⟨hemergency, cb, hcb, hbreaker⟩ := unblocked_iff.mp hopen
    obtain ⟨hdaily, hweekly, hmonthly⟩ := (hwindows limits).mp hwithin.values
    obtain ⟨hday, hweek, hmonth⟩ := forall_window.mp hcomputable.windows_end
    have hcount := hwithin.daily_count
    rw [current_usage, at_time_daily] at hcount
    have hfits : ∀ {p : TimeWindow} {used : ℤ}, 0 ≤ used → used + amount ≤ limits.value p →
        FitsI128 (limits.value p - used) := by
      intro p used hused hvalue
      have hlimit := hcomputable.fits p
      exact ⟨by omega, by omega⟩
    simp only [check_limit, is_emergency_mode, is_whitelisted_internal, get_or_init_usage, bind_eq_ok, load_eq_ok,
      pure_eq_ok, panic_if_eq_ok, expect_eq_ok, checked_sub_eq_some, reads_eq_ok, decayed_usage_eq_ok, and_assoc,
      exists_and_left, exists_eq_left, exists_const]
    exact ⟨hemergency, _, s, ⟨cb, hcb, hbreaker, limits, s, hcomputable.limits_eq, hcooldown, hday, hweek, hmonth,
      hfits (p := .Daily) hcounted'.1 hdaily, hfits (p := .Weekly) hcounted'.2.1 hweekly,
      hfits (p := .Monthly) hcounted'.2.2 hmonthly, rfl, rfl⟩,
      decide_eq_true ⟨Int.le_sub_left_of_add_le hdaily, Int.le_sub_left_of_add_le hweekly,
        Int.le_sub_left_of_add_le hmonthly, remaining_pos.mpr hcount⟩⟩

end Checks

/-! ## The comparisons -/

/-- What is done with an amount that exceeds no budget of the user. -/
def consume_protocol (user : Address) (usage : UserUsage) (now : U64) (amount : ℤ) : Limiter ConsumeResult := do
  let global_usage ← get .GlobalUsage
  let global_usage ← unwrap global_usage
  let global_limits ← get .GlobalLimits
  let global_limits ← unwrap global_limits
  let global_daily ← decayed_usage global_usage.daily now DAY_SECS
  let global_weekly ← decayed_usage global_usage.weekly now WEEK_SECS
  let global_usage := { daily := global_daily, weekly := global_weekly }
  let breached ← exceeded_globally global_usage global_limits amount
  match breached with
  | some e => return .Rejected e.code
  | none => record_consumption user usage global_usage now amount

/-- What is done with an amount by a user with the usage: the part of `consume_limit` after the windows have
decayed. -/
def consume_within (user : Address) (usage : UserUsage) (limits : UserLimits) (now : U64) (amount : ℤ) :
    Limiter ConsumeResult := do
  let breached ← exceeded usage limits amount
  match breached with
  | some e => do
      handle_breach user usage now
      return .Rejected e.code
  | none => consume_protocol user usage now amount

/-- The sums of the counters of a window with one use more are in range. -/
def UsageWindow.Counts (window : UsageWindow) (amount : ℤ) : Prop :=
  FitsI128 (window.value_used + amount) ∧ window.count_used.toNat + 1 < 2 ^ 32

section Comparisons

theorem consume_limit_eq_ok (hauth : env.auth user = true) (hamount : 0 < amount) :
    consume_limit user amount env s = .ok (result, s') ↔
      Unblocked s ∧ ¬CoolingDown s user env.timestamp ∧
        ∃ limits, Computable env s user limits ∧
          consume_within user (current_usage s user env.timestamp) limits env.timestamp amount env s =
            .ok (result, s') := by
  simp only [consume_limit, is_emergency_mode, is_whitelisted_internal, get_or_init_usage, bind_eq_ok, host_eq_ok,
    HostCalls.require_auth_eq_ok, load_eq_ok, pure_eq_ok, panic_if_eq_ok, expect_eq_ok, reads_eq_ok,
    decayed_usage_eq_ok, and_assoc, exists_and_left, exists_eq_left, exists_const]
  constructor
  · rintro ⟨-, hemergency, cb, hcb, hbreaker, -, limits, s₁, hlimits, hcooldown, hday, hweek, hmonth, hrest⟩
    obtain rfl : s₁ = s := (effective_of_ok hlimits rfl).1
    refine ⟨unblocked_iff.mpr ⟨hemergency, cb, hcb, hbreaker⟩, hcooldown, limits, ⟨hlimits, fun p => ?_⟩, ?_⟩
    · cases p
      · exact hday
      · exact hweek
      · exact hmonth
    · exact bind_eq_ok.mpr hrest
  · rintro ⟨hopen, hcooldown, limits, hcomputable, hrest⟩
    obtain ⟨hemergency, cb, hcb, hbreaker⟩ := unblocked_iff.mp hopen
    exact ⟨hauth, hemergency, cb, hcb, hbreaker, not_le.mpr hamount, limits, s, hcomputable.limits_eq, hcooldown,
      hcomputable.windows_end .Daily, hcomputable.windows_end .Weekly, hcomputable.windows_end .Monthly,
      bind_eq_ok.mp hrest⟩

theorem count_within_iff {used limit : U32} :
    used.toNat + UInt32.toNat 1 < 2 ^ 32 ∧ used + 1 ≤ limit ↔ used < limit := by
  have hlt := limit.toNat_lt
  have hone : UInt32.toNat 1 = 1 := rfl
  rw [UInt32.le_iff_toNat_le, UInt32.lt_iff_toNat_lt, UInt32.toNat_add, hone]
  omega

/-- **No budget of the user** is exceeded. -/
theorem exceeded_none_iff : exceeded usage limits amount env s = .ok (none, s') ↔
    (∀ p, FitsI128 ((usage.window p).value_used + amount) ∧ (usage.window p).value_used + amount ≤ limits.value p) ∧
      (∀ p, (usage.window p).count_used < limits.count p) ∧ s' = s := by
  simp only [exceeded, bind_eq_ok, expect_eq_ok, checked_add_eq_some, host_eq_ok, HostCalls.checked_add_u32_eq_ok,
    ite_eq_ok, pure_eq_ok, reduceCtorEq, false_and, and_false, false_or, gt_iff_lt, not_lt, UInt32.not_lt, and_assoc,
    exists_and_left, exists_eq_left, true_and]
  constructor
  · rintro ⟨hday, hdaily, hweek, hweekly, hmonth, hmonthly, hday', hdaily', hweek', hweekly', hmonth', hmonthly', rfl⟩
    refine ⟨fun p => ?_, fun p => ?_, rfl⟩
    · cases p
      · exact ⟨hday, hdaily⟩
      · exact ⟨hweek, hweekly⟩
      · exact ⟨hmonth, hmonthly⟩
    · cases p
      · exact count_within_iff.mp ⟨hday', hdaily'⟩
      · exact count_within_iff.mp ⟨hweek', hweekly'⟩
      · exact count_within_iff.mp ⟨hmonth', hmonthly'⟩
  · rintro ⟨hvalues, hcounts, rfl⟩
    have hcount : ∀ p, (usage.window p).count_used.toNat + UInt32.toNat 1 < 2 ^ 32 ∧
        (usage.window p).count_used + 1 ≤ limits.count p := fun p => count_within_iff.mpr (hcounts p)
    exact ⟨(hvalues .Daily).1, (hvalues .Daily).2, (hvalues .Weekly).1, (hvalues .Weekly).2, (hvalues .Monthly).1,
      (hvalues .Monthly).2, (hcount .Daily).1, (hcount .Daily).2, (hcount .Weekly).1, (hcount .Weekly).2,
      (hcount .Monthly).1, (hcount .Monthly).2, rfl⟩

/-- **No budget of the protocol** is exceeded. -/
theorem exceeded_globally_none_iff {usage : GlobalUsage} {limits : GlobalLimits} :
    exceeded_globally usage limits amount env s = .ok (none, s') ↔
      FitsI128 (usage.daily.value_used + amount) ∧ usage.daily.value_used + amount ≤ limits.daily_value ∧
        FitsI128 (usage.weekly.value_used + amount) ∧ usage.weekly.value_used + amount ≤ limits.weekly_value ∧
        s' = s := by
  simp only [exceeded_globally, bind_eq_ok, expect_eq_ok, checked_add_eq_some, ite_eq_ok, pure_eq_ok, reduceCtorEq,
    false_and, and_false, false_or, gt_iff_lt, not_lt, and_assoc, exists_and_left, exists_eq_left, true_and]

end Comparisons

/-! ## The counting -/

/-- The sums that a recorded use makes are in range. -/
structure Recordable (s : LimiterStorage) (user : Address) (usage : UserUsage) (global_usage : GlobalUsage) (now : U64)
    (amount : ℤ) : Prop where
  windows : ∀ p, (usage.window p).Counts amount
  lifetime_value : FitsI128 (usage.lifetime_value + amount)
  lifetime_count : usage.lifetime_count.toNat + 1 < 2 ^ 32
  global_daily : global_usage.daily.Counts amount
  global_weekly : global_usage.weekly.Counts amount
  history : ∀ last, ((s (.UserHistory user)).getD []).getLast? = some last →
    last.day_timestamp = now / DAY_SECS * DAY_SECS →
      FitsI128 (last.daily_value + amount) ∧ last.daily_count.toNat + 1 < 2 ^ 32

/-- The protocol's usage at a time, with the windows decayed. -/
def GlobalUsage.at_time (global_usage : GlobalUsage) (now : U64) : GlobalUsage :=
  { daily := decayed global_usage.daily now DAY_SECS, weekly := decayed global_usage.weekly now WEEK_SECS }

section Counting

variable {global_usage : GlobalUsage}

theorem record_history_returns : (∃ s', record_history user now amount env s = .ok ((), s')) ↔
    ∀ last, ((s (.UserHistory user)).getD []).getLast? = some last → last.day_timestamp = now / DAY_SECS * DAY_SECS →
      FitsI128 (last.daily_value + amount) ∧ last.daily_count.toNat + 1 < 2 ^ 32 := by
  have hone : UInt32.toNat 1 = 1 := rfl
  simp only [record_history, bind_eq_ok, load_eq_ok, and_assoc, exists_and_left, exists_eq_left, elim_eq_ok,
    ite_eq_ok, expect_eq_ok, checked_add_eq_some, host_eq_ok, HostCalls.checked_add_u32_eq_ok, save_eq_ok, hone]
  cases hlast : ((s (.UserHistory user)).getD []).getLast? with
  | none => simp
  | some last =>
      by_cases hday : last.day_timestamp = now / DAY_SECS * DAY_SECS
      · simp [hday]
      · simp [hday]

/-- **A use is counted** exactly if the sums are in range. -/
theorem record_consumption_returns :
    (∃ s', record_consumption user usage global_usage now amount env s = .ok (.Allowed, s')) ↔
      Recordable s user usage global_usage now amount := by
  have hone : UInt32.toNat 1 = 1 := rfl
  have hhistory : ∀ s : LimiterStorage, (∃ s', record_history user now amount env s = .ok ((), s')) ↔ _ :=
    fun _ => record_history_returns
  constructor
  · rintro ⟨s', h⟩
    simp only [record_consumption, bind_eq_ok, with_use_eq_ok, expect_eq_ok, checked_add_eq_some, host_eq_ok,
      HostCalls.checked_add_u32_eq_ok, save_eq_ok, pure_eq_ok, and_assoc, exists_and_left, exists_eq_left,
      exists_const, hone] at h
    obtain ⟨hday, hday', hweek, hweek', hmonth, hmonth', hvalue, hcount, hdaily, hdaily', hweekly, hweekly', u, s₁,
      hrecord, -⟩ := h
    have hrecord' := (hhistory _).mp ⟨s₁, hrecord⟩
    refine ⟨fun p => ?_, hvalue, hcount, ⟨hdaily, hdaily'⟩, ⟨hweekly, hweekly'⟩, ?_⟩
    · cases p
      · exact ⟨hday, hday'⟩
      · exact ⟨hweek, hweek'⟩
      · exact ⟨hmonth, hmonth'⟩
    · simpa using hrecord'
  · rintro ⟨hwindows, hvalue, hcount, hdaily, hweekly, hrecord⟩
    obtain ⟨hday, hweek, hmonth⟩ := forall_window.mp hwindows
    have hrecords : ∀ s₁ : LimiterStorage, s₁ (.UserHistory user) = s (.UserHistory user) →
        ∃ s', record_history user now amount env s₁ = .ok ((), s') :=
      fun s₁ hsame => (hhistory s₁).mpr (hsame ▸ hrecord)
    choose! left_by hleft using hrecords
    simp only [record_consumption, bind_eq_ok, with_use_eq_ok, expect_eq_ok, checked_add_eq_some, host_eq_ok,
      HostCalls.checked_add_u32_eq_ok, save_eq_ok, pure_eq_ok, and_assoc, exists_and_left, exists_eq_left,
      exists_const, hone]
    refine ⟨hday.1, hday.2, hweek.1, hweek.2, hmonth.1, hmonth.2, hvalue, hcount, hdaily.1, hdaily.2, hweekly.1,
      hweekly.2, ?_⟩
    exact ⟨_, (), _, hleft _ (by simp), trivial, rfl⟩

end Counting

/-! ## Uses that are allowed -/

/-- What the check does not look at: the other counts, the protocol's budgets and the counters' ranges. -/
structure Room (s : LimiterStorage) (user : Address) (limits : UserLimits) (usage : UserUsage) (now : U64)
    (amount : ℤ) : Prop where
  weekly_count : usage.weekly.count_used < limits.weekly_count
  monthly_count : usage.monthly.count_used < limits.monthly_count
  protocol : ∃ global_usage global_limits, s .GlobalUsage = some global_usage ∧ s .GlobalLimits = some global_limits ∧
    global_usage.daily.Ends DAY_SECS ∧ global_usage.weekly.Ends WEEK_SECS ∧
    (global_usage.at_time now).daily.value_used + amount ≤ global_limits.daily_value ∧
    (global_usage.at_time now).weekly.value_used + amount ≤ global_limits.weekly_value ∧
    Recordable s user usage (global_usage.at_time now) now amount

/-- **An amount is allowed** if it is within the budgets of the check and there is room for it. -/
theorem consume_within_allowed_iff (hlimits : ∀ p, limits.value p < 2 ^ 127)
    (hcounted : ∀ p, 0 ≤ (usage.window p).value_used) (hamount : 0 < amount) :
    (∃ s', consume_within user usage limits now amount env s = .ok (.Allowed, s')) ↔
      Within limits usage amount ∧ Room s user limits usage now amount := by
  constructor
  · rintro ⟨s', h⟩
    obtain ⟨e, s₁, hexceeded, hrest⟩ := bind_eq_ok.mp h
    cases e with
    | some =>
        simp only [bind_eq_ok, pure_eq_ok, reduceCtorEq, false_and, and_false, exists_const] at hrest
    | none =>
        obtain ⟨hvalues, hcounts, rfl⟩ := exceeded_none_iff.mp hexceeded
        simp only [consume_protocol, bind_eq_ok, load_eq_ok, expect_eq_ok, decayed_usage_eq_ok, and_assoc,
          exists_and_left, exists_eq_left] at hrest
        obtain ⟨global_usage, husage, global_limits, hglobal, hday, hweek, e, s₂, hexceeded', hrest⟩ := hrest
        cases e with
        | some => simp only [pure_eq_ok, reduceCtorEq, false_and] at hrest
        | none =>
            obtain ⟨-, hdaily, -, hweekly, rfl⟩ := exceeded_globally_none_iff.mp hexceeded'
            have hrecordable := record_consumption_returns.mp ⟨s', hrest⟩
            exact ⟨⟨fun p => (hvalues p).2, hcounts .Daily⟩, hcounts .Weekly, hcounts .Monthly, global_usage,
              global_limits, husage, hglobal, hday, hweek, hdaily, hweekly, hrecordable⟩
  · rintro ⟨⟨hvalues, hcount⟩, hweekly_count, hmonthly_count, global_usage, global_limits, husage, hglobal, hday, hweek,
      hdaily, hweekly, hrecordable⟩
    have hfits : ∀ p, FitsI128 ((usage.window p).value_used + amount) := by
      intro p
      have hvalue := hvalues p
      have hlimit := hlimits p
      have hcounted := hcounted p
      exact ⟨by omega, by omega⟩
    have hexceeded : exceeded usage limits amount env s = .ok (none, s) :=
      exceeded_none_iff.mpr ⟨fun p => ⟨hfits p, hvalues p⟩,
        forall_window.mpr ⟨hcount, hweekly_count, hmonthly_count⟩, rfl⟩
    have hexceeded' : exceeded_globally (global_usage.at_time now) global_limits amount env s = .ok (none, s) :=
      exceeded_globally_none_iff.mpr ⟨hrecordable.global_daily.1, hdaily, hrecordable.global_weekly.1, hweekly, rfl⟩
    obtain ⟨s', hrecord⟩ := record_consumption_returns.mpr hrecordable
    refine ⟨s', bind_eq_ok.mpr ⟨none, s, hexceeded, ?_⟩⟩
    simp only [consume_protocol, bind_eq_ok, load_eq_ok, expect_eq_ok, decayed_usage_eq_ok, and_assoc, exists_and_left,
      exists_eq_left]
    exact ⟨global_usage, husage, global_limits, hglobal, hday, hweek, none, s, hexceeded', hrecord⟩

end BridgeWatch.RateLimiter

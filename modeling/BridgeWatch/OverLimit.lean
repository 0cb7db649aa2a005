/-
Uses over the limit.

A use that exceeds a budget of the user is rejected, and the rejection starts a cooldown and counts a breach. The
comparisons are made on sums, though, and each sum is made before its comparison: where it is out of range the
call traps, and nothing is recorded.
-/
import BridgeWatch.LimitAgreement

set_option autoImplicit false

namespace BridgeWatch.RateLimiter

open Transaction CheckedIntegers
open Contract (U32 U64 SString Address)

/-! ## What is in range -/

/-- The amount is over what is left of a value or a count budget of the user. -/
def Exceeds (limits : UserLimits) (usage : UserUsage) (amount : ℤ) : Prop :=
  (∃ p, limits.value p < (usage.window p).value_used + amount) ∨ ∃ p, limits.count p ≤ (usage.window p).count_used

/-- The sums that are compared with the user's budgets, up to the first that exceeds its budget, are in range. -/
def SumsFit (limits : UserLimits) (usage : UserUsage) (amount : ℤ) : Prop :=
  FitsI128 (usage.daily.value_used + amount) ∧ (usage.daily.value_used + amount ≤ limits.daily_value →
    FitsI128 (usage.weekly.value_used + amount) ∧ (usage.weekly.value_used + amount ≤ limits.weekly_value →
      FitsI128 (usage.monthly.value_used + amount) ∧ (usage.monthly.value_used + amount ≤ limits.monthly_value →
        usage.daily.count_used.toNat + 1 < 2 ^ 32 ∧ (usage.daily.count_used < limits.daily_count →
          usage.weekly.count_used.toNat + 1 < 2 ^ 32 ∧ (usage.weekly.count_used < limits.weekly_count →
            usage.monthly.count_used.toNat + 1 < 2 ^ 32)))))

/-- The cooldown has an end, and the breach can be counted. -/
structure BreachFits (s : LimiterStorage) (user : Address) (now : U64) : Prop where
  cooldown : now.toNat + ((s .CooldownDuration).getD DEFAULT_COOLDOWN_SECS).toNat < 2 ^ 64
  breach_count : ((s (.UserRisk user)).getD safe_profile).breach_count.toNat + 1 < 2 ^ 32

/-- The sums that are made when no budget of the user is exceeded are in range. -/
def UseFits (s : LimiterStorage) (user : Address) (usage : UserUsage) (now : U64) (amount : ℤ) : Prop :=
  ∃ global_usage global_limits, s .GlobalUsage = some global_usage ∧ s .GlobalLimits = some global_limits ∧
    global_usage.daily.Ends DAY_SECS ∧ global_usage.weekly.Ends WEEK_SECS ∧
    FitsI128 ((global_usage.at_time now).daily.value_used + amount) ∧
    ((global_usage.at_time now).daily.value_used + amount ≤ global_limits.daily_value →
      FitsI128 ((global_usage.at_time now).weekly.value_used + amount) ∧
      ((global_usage.at_time now).weekly.value_used + amount ≤ global_limits.weekly_value →
        Recordable s user usage (global_usage.at_time now) now amount))

/-- Everything that a use computes is in range. -/
def InRange (env : Chain) (s : LimiterStorage) (user : Address) (amount : ℤ) : Prop :=
  ∃ limits, Computable env s user limits ∧ SumsFit limits (current_usage s user env.timestamp) amount ∧
    (Exceeds limits (current_usage s user env.timestamp) amount → BreachFits s user env.timestamp) ∧
    (¬Exceeds limits (current_usage s user env.timestamp) amount →
      UseFits s user (current_usage s user env.timestamp) env.timestamp amount)

variable {env : Chain} {s s' : LimiterStorage} {user : Address} {now : U64} {amount : ℤ}
variable {limits : UserLimits} {usage : UserUsage} {result : ConsumeResult}

section Ranges

/-- A transaction returns where it fails with nothing. -/
theorem returns_iff {α : Type} {m : Limiter α} :
    (∃ a s', m env s = .ok (a, s')) ↔ FailsOnly (fun _ => False) m env s := by
  refine ⟨?_, FailsOnly.succeeds⟩
  rintro ⟨a, s', h⟩ msg herror
  rw [h] at herror
  cases herror

/-- A step that traps outside a condition, and what follows. -/
theorem guarded_bind_fits {α β : Type} {m : Limiter α} {f : α → Limiter β} {P : Prop} {v : α}
    (h : ∀ a s₁, m env s = .ok (a, s₁) ↔ P ∧ a = v ∧ s₁ = s) :
    FailsOnly (fun _ => False) (m >>= f) env s ↔ P ∧ FailsOnly (fun _ => False) (f v) env s := by
  rw [← returns_iff, ← returns_iff]
  simp only [bind_eq_ok, h, and_assoc, exists_and_left, exists_eq_left]

theorem add_bind_fits {α : Type} {x y : ℤ} {f : ℤ → Limiter α} :
    FailsOnly (fun _ => False) (add x y >>= f) env s ↔
      FitsI128 (x + y) ∧ FailsOnly (fun _ => False) (f (x + y)) env s :=
  guarded_bind_fits fun _ _ => by rw [expect_eq_ok, checked_add_eq_some, and_assoc]

theorem succ_bind_fits {α : Type} {x : U32} {f : U32 → Limiter α} :
    FailsOnly (fun _ => False) (add_u32 x 1 >>= f) env s ↔
      x.toNat + 1 < 2 ^ 32 ∧ FailsOnly (fun _ => False) (f (x + 1)) env s :=
  guarded_bind_fits fun _ _ => HostCalls.checked_add_u32_eq_ok

theorem succ_le_iff {used limit : U32} (h : used.toNat + 1 < 2 ^ 32) : used + 1 ≤ limit ↔ used < limit := by
  rw [← count_within_iff]
  exact (and_iff_right h).symm

theorem exceeded_returns :
    (∃ e s', exceeded usage limits amount env s = .ok (e, s')) ↔ SumsFit limits usage amount := by
  rw [returns_iff]
  simp only [exceeded, add_bind_fits, succ_bind_fits, fails_only_ite, fails_only_pure, implies_true, true_and, and_true,
    gt_iff_lt, not_lt, UInt32.not_lt]
  refine and_congr_right fun _ => imp_congr_right fun _ => and_congr_right fun _ => imp_congr_right fun _ =>
    and_congr_right fun _ => imp_congr_right fun _ => and_congr_right fun hday => ?_
  rw [succ_le_iff hday]
  refine imp_congr_right fun _ => and_congr_right fun hweek => ?_
  rw [succ_le_iff hweek]

theorem exceeded_globally_returns {usage : GlobalUsage} {limits : GlobalLimits} :
    (∃ e s', exceeded_globally usage limits amount env s = .ok (e, s')) ↔
      FitsI128 (usage.daily.value_used + amount) ∧ (usage.daily.value_used + amount ≤ limits.daily_value →
        FitsI128 (usage.weekly.value_used + amount)) := by
  rw [returns_iff]
  simp only [exceeded_globally, add_bind_fits, fails_only_ite, fails_only_pure, implies_true, true_and, and_true,
    gt_iff_lt, not_lt]

theorem not_exceeds_iff : ¬Exceeds limits usage amount ↔
    (∀ p, (usage.window p).value_used + amount ≤ limits.value p) ∧
      ∀ p, (usage.window p).count_used < limits.count p := by
  simp only [Exceeds, not_or, not_exists, not_lt, UInt32.not_le]

/-- What the comparisons return says whether a budget is exceeded. -/
theorem exceeded_iff {e : Option RateLimitError} (h : exceeded usage limits amount env s = .ok (e, s')) :
    s' = s ∧ (e = none ↔ ¬Exceeds limits usage amount) := by
  refine ⟨exceeded_store h, ?_⟩
  constructor
  · rintro rfl
    obtain ⟨hvalues, hcounts, -⟩ := exceeded_none_iff.mp h
    exact not_exceeds_iff.mpr ⟨fun p => (hvalues p).2, hcounts⟩
  · intro hwithin
    obtain ⟨hvalues, hcounts⟩ := not_exceeds_iff.mp hwithin
    obtain ⟨hday, hsums⟩ := exceeded_returns.mp ⟨e, s', h⟩
    obtain ⟨hweek, hsums⟩ := hsums (hvalues .Daily)
    obtain ⟨hmonth, -⟩ := hsums (hvalues .Weekly)
    have hnone : exceeded usage limits amount env s = .ok (none, s) :=
      exceeded_none_iff.mpr ⟨forall_window.mpr ⟨⟨hday, hvalues .Daily⟩, ⟨hweek, hvalues .Weekly⟩,
        ⟨hmonth, hvalues .Monthly⟩⟩, hcounts, rfl⟩
    have heq := h.symm.trans hnone
    simp only [Except.ok.injEq, Prod.mk.injEq] at heq
    exact heq.1

/-- **What exceeds no budget of the user** is used, or rejected for the protocol's budgets, if the sums are in range. -/
theorem consume_protocol_returns :
    (∃ r s', consume_protocol user usage now amount env s = .ok (r, s')) ↔ UseFits s user usage now amount := by
  constructor
  · rintro ⟨r, s', h⟩
    simp only [consume_protocol, bind_eq_ok, load_eq_ok, expect_eq_ok, decayed_usage_eq_ok, and_assoc, exists_and_left,
      exists_eq_left] at h
    obtain ⟨global_usage, husage, global_limits, hglobal, hday, hweek, e, s₁, hexceeded, hrest⟩ := h
    obtain rfl := exceeded_globally_store hexceeded
    obtain ⟨hdaily, hweekly⟩ := exceeded_globally_returns.mp ⟨e, s₁, hexceeded⟩
    refine ⟨global_usage, global_limits, husage, hglobal, hday, hweek, hdaily, fun hle => ⟨hweekly hle, fun hle' => ?_⟩⟩
    have hnone : exceeded_globally (global_usage.at_time now) global_limits amount env s₁ = .ok (none, s₁) :=
      exceeded_globally_none_iff.mpr ⟨hdaily, hle, hweekly hle, hle', rfl⟩
    obtain rfl : e = none := by
      have heq := hexceeded.symm.trans hnone
      simp only [Except.ok.injEq, Prod.mk.injEq] at heq
      exact heq.1
    obtain ⟨rfl, -⟩ := recorded_of_ok hrest
    exact record_consumption_returns.mp ⟨s', hrest⟩
  · rintro ⟨global_usage, global_limits, husage, hglobal, hday, hweek, hdaily, hrest⟩
    obtain ⟨e, s₁, hexceeded⟩ := exceeded_globally_returns.mpr ⟨hdaily, fun hle => (hrest hle).1⟩
    obtain rfl := exceeded_globally_store hexceeded
    simp only [consume_protocol, bind_eq_ok, load_eq_ok, expect_eq_ok, decayed_usage_eq_ok, and_assoc, exists_and_left,
      exists_eq_left]
    cases e with
    | some e =>
        exact ⟨.Rejected e.code, s, global_usage, husage, global_limits, hglobal, hday, hweek, some e, s, hexceeded,
          pure_eq_ok.mpr ⟨rfl, rfl⟩⟩
    | none =>
        obtain ⟨-, hle, -, hle', -⟩ := exceeded_globally_none_iff.mp hexceeded
        obtain ⟨s', hrecord⟩ := record_consumption_returns.mpr ((hrest hle).2 hle')
        exact ⟨.Allowed, s', global_usage, husage, global_limits, hglobal, hday, hweek, none, s, hexceeded, hrecord⟩

end Ranges

/-! ## Rejections -/

/-- The use is rejected: the user is in a cooldown and has one breach more, and nothing else is changed but that
windows have decayed. -/
def RejectedWithBreach (s s' : LimiterStorage) (user : Address) (now : U64) (result : ConsumeResult) : Prop :=
  (∃ code, result = .Rejected code) ∧ ∃ cooldown_until breach_count,
    cooldown_until.toNat = now.toNat + ((s .CooldownDuration).getD DEFAULT_COOLDOWN_SECS).toNat ∧
    breach_count.toNat = ((s (.UserRisk user)).getD safe_profile).breach_count.toNat + 1 ∧
    s' = Function.update (Function.update s (.UserUsage user) (some { current_usage s user now with cooldown_until }))
      (.UserRisk user) (some { (s (.UserRisk user)).getD safe_profile with breach_count, last_updated := now })

/-- The call returns, and rejects an amount that is over a budget of the user. -/
def RejectsOver (env : Chain) (s : LimiterStorage) (user : Address) (amount : ℤ) : Prop :=
  ∃ result s', consume_limit user amount env s = .ok (result, s') ∧
    ∀ limits, get_effective_limits user env s = .ok (limits, s) →
      Exceeds limits (current_usage s user env.timestamp) amount →
      RejectedWithBreach s s' user env.timestamp result

section Rejections

theorem handle_breach_eq_ok {u : Unit} : handle_breach user usage now env s = .ok (u, s') ↔
    BreachFits s user now ∧
      s' = Function.update (Function.update s (.UserUsage user)
          (some { usage with cooldown_until := now + (s .CooldownDuration).getD DEFAULT_COOLDOWN_SECS }))
        (.UserRisk user) (some { (s (.UserRisk user)).getD safe_profile with
          breach_count := ((s (.UserRisk user)).getD safe_profile).breach_count + 1, last_updated := now }) := by
  have hone : UInt32.toNat 1 = 1 := rfl
  have hrisk : ∀ usage : UserUsage,
      Function.update s (.UserUsage user) (some usage) (.UserRisk user) = s (.UserRisk user) :=
    fun usage => Function.update_of_ne (by simp) _ _
  simp only [handle_breach, get_risk_profile, bind_eq_ok, load_eq_ok, host_eq_ok, HostCalls.checked_add_u64_eq_ok,
    HostCalls.checked_add_u32_eq_ok, save_eq_ok, pure_eq_ok, and_assoc, exists_and_left, exists_eq_left, exists_const,
    hrisk, hone]
  constructor
  · rintro ⟨hcooldown, hcount, hstore⟩
    exact ⟨⟨hcooldown, hcount⟩, hstore⟩
  · rintro ⟨⟨hcooldown, hcount⟩, hstore⟩
    exact ⟨hcooldown, hcount, hstore⟩

theorem rejected_of_breach {e : RateLimitError} (h : BreachFits s user now) :
    RejectedWithBreach s (Function.update (Function.update s (.UserUsage user)
        (some { current_usage s user now with
          cooldown_until := now + (s .CooldownDuration).getD DEFAULT_COOLDOWN_SECS }))
      (.UserRisk user) (some { (s (.UserRisk user)).getD safe_profile with
        breach_count := ((s (.UserRisk user)).getD safe_profile).breach_count + 1, last_updated := now })) user now
      (.Rejected e.code) := by
  refine ⟨⟨e.code, rfl⟩, _, _, ?_, ?_, rfl⟩
  · rw [UInt64.toNat_add]
    exact Nat.mod_eq_of_lt h.cooldown
  · rw [UInt32.toNat_add]
    exact Nat.mod_eq_of_lt h.breach_count

/-- **A use over the limit** is rejected and counted as a breach exactly if everything it computes is in range. -/
theorem consume_limit_rejects_iff {calls : List (Chain × EntryPoint)} (hauth : env.auth user = true)
    (hamount : 0 < amount) (hopen : Unblocked (run empty_storage calls))
    (hcooldown : ¬CoolingDown (run empty_storage calls) user env.timestamp) :
    RejectsOver env (run empty_storage calls) user amount ↔ InRange env (run empty_storage calls) user amount := by
  generalize run empty_storage calls = s at hopen hcooldown
  constructor
  · rintro ⟨result, s', h, -⟩
    obtain ⟨-, -, limits, hcomputable, hrest⟩ := (consume_limit_eq_ok hauth hamount).mp h
    obtain ⟨e, s₁, hexceeded, hrest⟩ := bind_eq_ok.mp hrest
    obtain ⟨rfl, hnone⟩ := exceeded_iff hexceeded
    refine ⟨limits, hcomputable, exceeded_returns.mp ⟨e, s₁, hexceeded⟩, fun hexceeds => ?_, fun hwithin => ?_⟩
    · cases e with
      | none => exact absurd hexceeds (hnone.mp rfl)
      | some e =>
          obtain ⟨u, s₂, hbreach, -⟩ := bind_eq_ok.mp hrest
          exact (handle_breach_eq_ok.mp hbreach).1
    · obtain rfl := hnone.mpr hwithin
      exact consume_protocol_returns.mp ⟨result, s', hrest⟩
  · rintro ⟨limits, hcomputable, hsums, hbreach, huse⟩
    obtain ⟨e, s₁, hexceeded⟩ := exceeded_returns.mpr hsums
    obtain ⟨rfl, hnone⟩ := exceeded_iff hexceeded
    have hlimits : ∀ {limits'}, get_effective_limits user env s = .ok (limits', s) → limits' = limits := by
      intro limits' h
      exact (hcomputable.eq ⟨h, hcomputable.windows_end⟩).symm
    cases e with
    | none =>
        have hwithin := hnone.mp rfl
        obtain ⟨result, s', hrest⟩ := consume_protocol_returns.mpr (huse hwithin)
        refine ⟨result, s', (consume_limit_eq_ok hauth hamount).mpr ⟨hopen, hcooldown, limits, hcomputable,
          bind_eq_ok.mpr ⟨none, s, hexceeded, hrest⟩⟩, fun limits' h hexceeds => ?_⟩
        rw [hlimits h] at hexceeds
        exact absurd hexceeds hwithin
    | some e =>
        have hexceeds : Exceeds limits (current_usage s user env.timestamp) amount := by
          by_contra hwithin
          cases hnone.mpr hwithin
        have hfits := hbreach hexceeds
        refine ⟨.Rejected e.code, _, (consume_limit_eq_ok hauth hamount).mpr ⟨hopen, hcooldown, limits, hcomputable,
          bind_eq_ok.mpr ⟨some e, s, hexceeded, bind_eq_ok.mpr ⟨(), _, handle_breach_eq_ok.mpr ⟨hfits, rfl⟩,
            pure_eq_ok.mpr ⟨rfl, rfl⟩⟩⟩⟩, fun limits' h _ => rejected_of_breach hfits⟩

end Rejections

/-- A user who has used one unit of the default limits. -/
def one_used : List (Chain × EntryPoint) :=
  [(signed_at 0, .initialize_limiter (party 0)), (signed_at 0, .consume_limit (party 1) 1)]

theorem one_used_open : Unblocked (run empty_storage one_used) :=
  ⟨by decide +kernel, ⟨false, 0, 0, 0⟩, by decide +kernel, rfl⟩

theorem one_used_ready : ¬CoolingDown (run empty_storage one_used) (party 1) 0 := by
  unfold CoolingDown
  decide +kernel

theorem consume_limit_rejects_iff_one_used :
    RejectsOver (signed_at 0) (run empty_storage one_used) (party 1) 1000000000 ↔
      InRange (signed_at 0) (run empty_storage one_used) (party 1) 1000000000 :=
  consume_limit_rejects_iff rfl (by decide) one_used_open one_used_ready

/-- The sum with the largest amount is out of range. -/
theorem consume_limit_traps :
    ¬∀ (calls : List (Chain × EntryPoint)) (env : Chain) (user : Address) (amount : ℤ), env.auth user = true →
      0 < amount → amount < 2 ^ 127 → Unblocked (run empty_storage calls) →
      ¬CoolingDown (run empty_storage calls) user env.timestamp →
        RejectsOver env (run empty_storage calls) user amount := by
  intro h
  obtain ⟨result, s', hok, -⟩ :=
    h one_used (signed_at 0) (party 1) (2 ^ 127 - 1) rfl (by decide) (by decide) one_used_open one_used_ready
  have htraps : (consume_limit (party 1) (2 ^ 127 - 1) (signed_at 0) (run empty_storage one_used)).isOk = false := by
    decide +kernel
  rw [hok] at htraps
  cases htraps

end BridgeWatch.RateLimiter

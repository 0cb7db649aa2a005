/-
The read-only check of the rate limiter against the use of the limit.

Other contracts ask the check before they let a user go on. What it allows is allowed when the limit is used
only if there is room in the budgets that the check leaves out: the weekly and the monthly count and the two
budgets of the protocol, and in the counters that only a use moves.
-/
import BridgeWatch.LimitStages

set_option autoImplicit false

namespace BridgeWatch.RateLimiter

open Transaction CheckedIntegers ResetWindow
open Contract (U32 U64 SString Address)

/-! ## Reachable usage -/

/-- No usage is negative. -/
def Counted (s : LimiterStorage) : Prop := ∀ user u, s (.UserUsage user) = some u → ∀ p, 0 ≤ (u.window p).value_used

variable {env : Chain} {s s' : LimiterStorage} {user : Address} {now : U64} {amount : ℤ}

section Reachable

theorem Counted.usage_at (hs : Counted s) (user : Address) (now : U64) (p : TimeWindow) :
    0 ≤ ((usage_at s user now).window p).value_used := by
  rw [RateLimiter.usage_at]
  cases hload : s (.UserUsage user) with
  | none => cases p <;> exact Int.le_refl 0
  | some u => exact hs user u hload p

theorem Counted.found (hs : Counted s) (user : Address) (now : U64) (p : TimeWindow) :
    0 ≤ (found s user p now).used := by
  rw [RateLimiter.found, Window.at_time]
  split_ifs
  · exact Int.le_refl 0
  · exact hs.usage_at user now p

theorem nonneg_decayed {w : UsageWindow} {secs : U64} (h : 0 ≤ w.value_used) : 0 ≤ (decayed w now secs).value_used := by
  rw [decayed]
  split_ifs
  · exact Int.le_refl 0
  · exact h

theorem Counted.current (hs : Counted s) (user : Address) (now : U64) (p : TimeWindow) :
    0 ≤ ((current_usage s user now).window p).value_used :=
  current_window_iff (P := fun _ w => 0 ≤ w.value_used).mpr ⟨nonneg_decayed (hs.usage_at user now .Daily),
    nonneg_decayed (hs.usage_at user now .Weekly), nonneg_decayed (hs.usage_at user now .Monthly)⟩ p

/-- **Usage** is counted from zero in every run. -/
theorem counted_run (calls : List (Chain × EntryPoint)) :
    Founded (run empty_storage calls) ∧ Counted (run empty_storage calls) := by
  refine run_invariant (C := fun _ _ => True) (I := fun s => Founded s ∧ Counted s) ?_
    ⟨fun _ _ => rfl, fun user u h => by cases h⟩ (Along.of_forall fun _ _ _ => trivial)
  rintro s t s' ⟨hfounded, hcounted⟩ - h
  have husage : ∀ user p, s' .Admin ≠ none ∧ UsageStep t.1.timestamp s s' user p (use_of user p s t) :=
    fun _ _ => usage_step hfounded h
  refine ⟨fun hnone => absurd hnone (husage (party 0) .Daily).1, fun user u hu p => ?_⟩
  have hstep := (husage user p).2
  change 0 ≤ (seen (u.window p)).used
  generalize use_of user p s t = uses at hstep
  cases hstep with
  | kept husage => exact hcounted user u (husage ▸ hu) p
  | moved _ husage _ hwindow =>
      cases hu.symm.trans husage
      rcases hwindow with hwindow | hwindow <;> rw [hwindow]
      · exact hcounted.usage_at user _ p
      · exact hcounted.found user _ p
  | used _ husage _ hwindow hpositive =>
      cases hu.symm.trans husage
      rw [hwindow]
      exact Int.add_nonneg (hcounted.found user _ p) (Int.le_of_lt hpositive)

end Reachable

/-! ## The agreement -/

/-- The check lets the user go on. -/
def check_allows (env : Chain) (s : LimiterStorage) (user : Address) (amount : ℤ) : Bool :=
  match check_limit user amount env s with
  | .ok (r, _) => r.allowed
  | .error _ => false

/-- The use of the limit is allowed. -/
def consume_allows (env : Chain) (s : LimiterStorage) (user : Address) (amount : ℤ) : Bool :=
  match consume_limit user amount env s with
  | .ok (.Allowed, _) => true
  | _ => false

section Agreement

theorem check_allows_eq_true : check_allows env s user amount = true ↔
    ∃ r s', check_limit user amount env s = .ok (r, s') ∧ r.allowed = true := by
  rw [check_allows]
  cases check_limit user amount env s with
  | error => simp
  | ok result =>
      obtain ⟨r, s'⟩ := result
      simp

theorem consume_allows_eq_true : consume_allows env s user amount = true ↔
    ∃ s', consume_limit user amount env s = .ok (.Allowed, s') := by
  rw [consume_allows]
  cases consume_limit user amount env s with
  | error => simp
  | ok result =>
      obtain ⟨result, s'⟩ := result
      cases result <;> simp

/-- **The check agrees** with the use where there is room for every amount that the check allows. -/
theorem check_limit_agrees_iff {calls : List (Chain × EntryPoint)} (hauth : env.auth user = true)
    (hamount : 0 < amount) :
    (check_allows env (run empty_storage calls) user amount = true ↔
        consume_allows env (run empty_storage calls) user amount = true) ↔
      (Unblocked (run empty_storage calls) → ¬CoolingDown (run empty_storage calls) user env.timestamp →
        ∀ limits, Computable env (run empty_storage calls) user limits →
          Within limits (current_usage (run empty_storage calls) user env.timestamp) amount →
          Room (run empty_storage calls) user limits (current_usage (run empty_storage calls) user env.timestamp)
            env.timestamp amount) := by
  have hcounted := (counted_run calls).2.current user env.timestamp
  generalize run empty_storage calls = s at hcounted
  have hcheck := check_allows_iff hcounted hamount
  have hconsume : (∃ s', consume_limit user amount env s = .ok (.Allowed, s')) ↔
      Unblocked s ∧ ¬CoolingDown s user env.timestamp ∧ ∃ limits, Computable env s user limits ∧
        Within limits (current_usage s user env.timestamp) amount ∧
        Room s user limits (current_usage s user env.timestamp) env.timestamp amount := by
    have hallowed : ∀ {limits}, Computable env s user limits →
        ((∃ s', consume_within user (current_usage s user env.timestamp) limits env.timestamp amount env s =
          .ok (.Allowed, s')) ↔ Within limits (current_usage s user env.timestamp) amount ∧
            Room s user limits (current_usage s user env.timestamp) env.timestamp amount) :=
      fun hcomputable => consume_within_allowed_iff (fun p => (hcomputable.fits p).2) hcounted hamount
    constructor
    · rintro ⟨s', h⟩
      obtain ⟨hopen, hcooldown, limits, hcomputable, hrest⟩ := (consume_limit_eq_ok hauth hamount).mp h
      exact ⟨hopen, hcooldown, limits, hcomputable, (hallowed hcomputable).mp ⟨s', hrest⟩⟩
    · rintro ⟨hopen, hcooldown, limits, hcomputable, hboth⟩
      obtain ⟨s', hrest⟩ := (hallowed hcomputable).mpr hboth
      exact ⟨s', (consume_limit_eq_ok hauth hamount).mpr ⟨hopen, hcooldown, limits, hcomputable, hrest⟩⟩
  rw [check_allows_eq_true, consume_allows_eq_true, hcheck, hconsume]
  constructor
  · rintro h hopen hcooldown limits hcomputable hwithin
    obtain ⟨-, -, limits', hcomputable', -, hroom⟩ := h.mp ⟨hopen, hcooldown, limits, hcomputable, hwithin⟩
    rwa [hcomputable.eq hcomputable']
  · intro h
    constructor
    · rintro ⟨hopen, hcooldown, limits, hcomputable, hwithin⟩
      exact ⟨hopen, hcooldown, limits, hcomputable, hwithin, h hopen hcooldown limits hcomputable hwithin⟩
    · rintro ⟨hopen, hcooldown, limits, hcomputable, hwithin, -⟩
      exact ⟨hopen, hcooldown, limits, hcomputable, hwithin⟩

end Agreement

/-- A user may transfer ten times a day, and once a week, and has done so. -/
def week_used : List (Chain × EntryPoint) :=
  [(signed_at 0, .initialize_limiter (party 0)),
    (signed_at 0, .update_user_limit (party 0) (party 1)
      { daily_value := 100, weekly_value := 100, monthly_value := 100, daily_count := 10, weekly_count := 1,
        monthly_count := 10 }),
    (signed_at 0, .consume_limit (party 1) 1)]

theorem check_limit_agrees_iff_week_used :
    (check_allows (signed_at 0) (run empty_storage week_used) (party 1) 1 = true ↔
        consume_allows (signed_at 0) (run empty_storage week_used) (party 1) 1 = true) ↔
      (Unblocked (run empty_storage week_used) → ¬CoolingDown (run empty_storage week_used) (party 1) 0 →
        ∀ limits, Computable (signed_at 0) (run empty_storage week_used) (party 1) limits →
          Within limits (current_usage (run empty_storage week_used) (party 1) 0) 1 →
          Room (run empty_storage week_used) (party 1) limits
            (current_usage (run empty_storage week_used) (party 1) 0) 0 1) :=
  check_limit_agrees_iff rfl (by decide)

/-- The check allows what the weekly count does not. -/
theorem check_limit_disagrees :
    ¬∀ (calls : List (Chain × EntryPoint)) (env : Chain) (user : Address) (amount : ℤ), env.auth user = true →
      0 < amount → (check_allows env (run empty_storage calls) user amount = true ↔
        consume_allows env (run empty_storage calls) user amount = true) := by
  intro h
  have hagree := h week_used (signed_at 0) (party 1) 1 rfl (by decide)
  have hallowed : check_allows (signed_at 0) (run empty_storage week_used) (party 1) 1 = true ∧
      consume_allows (signed_at 0) (run empty_storage week_used) (party 1) 1 = false := by
    decide +kernel
  exact Bool.false_ne_true (hallowed.2.symm.trans (hagree.mp hallowed.1))

end BridgeWatch.RateLimiter

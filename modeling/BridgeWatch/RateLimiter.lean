/-
The rate limiter, `contracts/soroban/src/rate_limiter.rs`.

A contract of its own, with its own storage. Every entry point that can change the storage is here, with its checks
in the order of the source; the read-only ones are left out, and so are the events, which no function reads back.
Amounts are integers, and the workspace's build traps where an operation on them overflows. The registry that is
asked for an asset's decimals is another contract, and its answer is part of what a call reads.
-/
import BridgeWatch.HostCalls

set_option autoImplicit false

namespace BridgeWatch.RateLimiter

open Transaction CheckedIntegers
open Contract (U32 U64 SString Address saturating_sub_u32 saturating_sub_u64)

def DAY_SECS : U64 := 86400
def WEEK_SECS : U64 := 604800
def MONTH_SECS : U64 := 2592000
def BPS_DENOM : U64 := 10000
def DEFAULT_COOLDOWN_SECS : U64 := 3600

/-- The decimals of the unit that limits are in. -/
def BASE_DECIMALS : U32 := 6

def MAX_ASSET_DECIMALS : U32 := 38
def DEFAULT_DAILY_LIMIT : ℤ := 1000000000
def DEFAULT_WEEKLY_LIMIT : ℤ := 5000000000
def DEFAULT_MONTHLY_LIMIT : ℤ := 15000000000
def DEFAULT_DAILY_COUNT : U32 := 100
def DEFAULT_WEEKLY_COUNT : U32 := 500
def DEFAULT_MONTHLY_COUNT : U32 := 1500
def WHITELIST_MULTIPLIER : ℤ := 2
def CIRCUIT_BREAKER_THRESHOLD : U32 := 8000
def MAX_USAGE_HISTORY : ℕ := 90
def HIGH_RISK_THRESHOLD : U32 := 7000
def LOW_RISK_THRESHOLD : U32 := 2000
def GRADUATED_TENURE_SECS : U64 := 2592000
def GRADUATED_BONUS_BPS : ℕ := 500
def MAX_GRADUATED_BONUS_BPS : ℕ := 5000

/-! ## Data -/

inductive RateLimitError where
  | NotAuthorized
  | AlreadyInitialized
  | DailyValueLimitExceeded
  | WeeklyValueLimitExceeded
  | MonthlyValueLimitExceeded
  | DailyCountLimitExceeded
  | WeeklyCountLimitExceeded
  | MonthlyCountLimitExceeded
  | GlobalDailyLimitExceeded
  | GlobalWeeklyLimitExceeded
  | CooldownActive
  | CircuitBreakerTripped
  | InvalidLimit
  | InvalidRiskScore
  | UserNotFound
  | EmergencyModeActive
  | InvalidDecimals
  | AmountOverflow
  | AssetNotRegistered
  | AssetRegistryNotSet
  deriving DecidableEq

/-- The error as a number. -/
def RateLimitError.code : RateLimitError → U32
  | .NotAuthorized => 1
  | .AlreadyInitialized => 2
  | .DailyValueLimitExceeded => 3
  | .WeeklyValueLimitExceeded => 4
  | .MonthlyValueLimitExceeded => 5
  | .DailyCountLimitExceeded => 6
  | .WeeklyCountLimitExceeded => 7
  | .MonthlyCountLimitExceeded => 8
  | .GlobalDailyLimitExceeded => 9
  | .GlobalWeeklyLimitExceeded => 10
  | .CooldownActive => 11
  | .CircuitBreakerTripped => 12
  | .InvalidLimit => 13
  | .InvalidRiskScore => 14
  | .UserNotFound => 15
  | .EmergencyModeActive => 16
  | .InvalidDecimals => 17
  | .AmountOverflow => 18
  | .AssetNotRegistered => 19
  | .AssetRegistryNotSet => 20

/-- The error as the host reports it. -/
def RateLimitError.text (e : RateLimitError) : String := "Error(Contract, #" ++ toString e.code.toNat ++ ")"

/-- A window that limits are enforced in. -/
inductive TimeWindow where
  | Daily
  | Weekly
  | Monthly
  deriving DecidableEq

def TimeWindow.secs : TimeWindow → U64
  | .Daily => DAY_SECS
  | .Weekly => WEEK_SECS
  | .Monthly => MONTH_SECS

structure UserLimits where
  daily_value : ℤ
  weekly_value : ℤ
  monthly_value : ℤ
  daily_count : U32
  weekly_count : U32
  monthly_count : U32
  deriving DecidableEq

structure UsageWindow where
  value_used : ℤ
  count_used : U32
  window_start : U64
  deriving DecidableEq

structure UserUsage where
  daily : UsageWindow
  weekly : UsageWindow
  monthly : UsageWindow
  cooldown_until : U64
  lifetime_value : ℤ
  lifetime_count : U32
  first_activity : U64
  deriving DecidableEq

/-- The value limit of a window. -/
def UserLimits.value (limits : UserLimits) : TimeWindow → ℤ
  | .Daily => limits.daily_value
  | .Weekly => limits.weekly_value
  | .Monthly => limits.monthly_value

/-- The usage in a window. -/
def UserUsage.window (usage : UserUsage) : TimeWindow → UsageWindow
  | .Daily => usage.daily
  | .Weekly => usage.weekly
  | .Monthly => usage.monthly

structure GlobalLimits where
  daily_value : ℤ
  weekly_value : ℤ
  deriving DecidableEq

structure GlobalUsage where
  daily : UsageWindow
  weekly : UsageWindow
  deriving DecidableEq

structure UserRiskProfile where
  risk_score : U32
  breach_count : U32
  last_updated : U64
  adjustment_factor_bps : U32
  deriving DecidableEq

structure CircuitBreakerState where
  tripped : Bool
  anomaly_score : U32
  tripped_at : U64
  trip_count : U32
  deriving DecidableEq

structure UsageRecord where
  day_timestamp : U64
  daily_value : ℤ
  daily_count : U32
  deriving DecidableEq

inductive ConsumeResult where
  | Allowed
  | Rejected (code : U32)
  deriving DecidableEq

inductive DataKey where
  | Admin
  | UserLimits (user : Address)
  | UserUsage (user : Address)
  | UserRisk (user : Address)
  | UserHistory (user : Address)
  | GlobalLimits
  | GlobalUsage
  | Whitelist (user : Address)
  | CircuitBreaker
  | EmergencyMode
  | CooldownDuration
  | DefaultLimits
  | AssetRegistry
  deriving DecidableEq

/-- The type of the record under a key. -/
@[reducible] def DataKey.Val : DataKey → Type
  | .Admin => Address
  | .UserLimits _ => RateLimiter.UserLimits
  | .UserUsage _ => RateLimiter.UserUsage
  | .UserRisk _ => UserRiskProfile
  | .UserHistory _ => List UsageRecord
  | .GlobalLimits => RateLimiter.GlobalLimits
  | .GlobalUsage => RateLimiter.GlobalUsage
  | .Whitelist _ => Bool
  | .CircuitBreaker => CircuitBreakerState
  | .EmergencyMode => Bool
  | .CooldownDuration => U64
  | .DefaultLimits => RateLimiter.UserLimits
  | .AssetRegistry => Address

/-- The contract's storage. -/
abbrev LimiterStorage := Store DataKey DataKey.Val

/-! ## The host -/

/-- What a call reads: also the decimals that a registry has for an asset. -/
structure Chain extends Contract.Env where
  registered_decimals : Address → SString → Option U32

/-- A call of a function of the contract. -/
abbrev Limiter (α : Type) := Tx Chain DataKey DataKey.Val α

/-- A host call that asks no registry. -/
def host {α : Type} (m : Tx Contract.Env DataKey DataKey.Val α) : Limiter α := fun env => m env.toEnv

/-- `env.storage().get(&key)`. -/
abbrev get (key : DataKey) : Limiter (Option key.Val) := load key

/-- `env.storage().set(&key, &value)`. -/
abbrev set (key : DataKey) (value : key.Val) : Limiter Unit := save key value

/-- `env.ledger().timestamp()`. -/
abbrev timestamp : Limiter U64 := reads fun env => env.timestamp

/-- `address.require_auth()`. -/
abbrev require_auth (address : Address) : Limiter Unit := host (HostCalls.require_auth address)

/-- `option.unwrap()`. -/
abbrev unwrap {α : Type} (o : Option α) : Limiter α := expect o "called `Option::unwrap()` on a `None` value"

/-- `return Err(e)` when `c` holds. -/
abbrev err_if (c : Prop) [Decidable c] (e : RateLimitError) : Limiter Unit := panic_if c e.text

/-- `option.ok_or(e)?`. -/
abbrev ok_or {α : Type} (o : Option α) (e : RateLimitError) : Limiter α := expect o e.text

/-- `x + y` on `i128`. -/
abbrev add (x y : ℤ) : Limiter ℤ := expect (checked_add x y) "attempt to add with overflow"

/-- `x * y` on `i128`. -/
abbrev mul (x y : ℤ) : Limiter ℤ := expect (checked_mul x y) "attempt to multiply with overflow"

/-- `x + y` on `u32`. -/
abbrev add_u32 (x y : U32) : Limiter U32 := host (HostCalls.checked_add_u32 x y "attempt to add with overflow")

/-- `x + y` on `u64`. -/
abbrev add_u64 (x y : U64) : Limiter U64 := host (HostCalls.checked_add_u64 x y "attempt to add with overflow")

/-- `x * 2` on `u32`. -/
def double_u32 (x : U32) : Limiter U32 := do
  panic_if (2 ^ 32 ≤ x.toNat * 2) "attempt to multiply with overflow"
  return x * 2

/-! ## Private helpers -/

def require_admin (caller : Address) : Limiter Unit := do
  require_auth caller
  let admin ← get .Admin
  let admin ← ok_or admin .NotAuthorized
  err_if (caller ≠ admin) .NotAuthorized

def is_emergency_mode : Limiter Bool := do
  let enabled ← get .EmergencyMode
  return enabled.getD false

def is_whitelisted_internal (user : Address) : Limiter Bool := do
  let listed ← get (.Whitelist user)
  return listed.getD false

/-- A window that starts now. -/
def fresh_window (now : U64) : UsageWindow := { value_used := 0, count_used := 0, window_start := now }

/-- The usage of a user whose activity starts now. -/
def fresh_usage (now : U64) : UserUsage :=
  { daily := fresh_window now, weekly := fresh_window now, monthly := fresh_window now, cooldown_until := 0,
    lifetime_value := 0, lifetime_count := 0, first_activity := now }

def get_or_init_usage (user : Address) (now : U64) : Limiter UserUsage := do
  let usage ← get (.UserUsage user)
  return usage.getD (fresh_usage now)

def decayed_usage (window : UsageWindow) (now window_secs : U64) : Limiter UsageWindow := do
  let ended ← add_u64 window.window_start window_secs
  return if now ≥ ended then fresh_window now else window

/-- The profile of a user whose risk was never assessed. -/
def safe_profile : UserRiskProfile :=
  { risk_score := 0, breach_count := 0, last_updated := 0, adjustment_factor_bps := 10000 }

def get_risk_profile (user : Address) : Limiter UserRiskProfile := do
  let profile ← get (.UserRisk user)
  return profile.getD safe_profile

def calculate_adjustment_factor (risk_score : U32) : U32 :=
  if risk_score ≤ LOW_RISK_THRESHOLD then 12000
  else if risk_score ≥ HIGH_RISK_THRESHOLD then 5000
  else
    let range := HIGH_RISK_THRESHOLD - LOW_RISK_THRESHOLD
    let progress := risk_score - LOW_RISK_THRESHOLD
    let decrease := UInt32.ofNat (progress.toNat * 7000 / range.toNat)
    saturating_sub_u32 12000 decrease

/-- `value * factor / denom`, with the basis points' denominator. -/
def scale (value factor : ℤ) : Limiter ℤ := do
  let product ← mul value factor
  return product.tdiv 10000

/-- The three values of the limits times a factor in basis points. -/
def scale_values (limits : UserLimits) (factor : ℤ) : Limiter UserLimits := do
  let daily_value ← scale limits.daily_value factor
  let weekly_value ← scale limits.weekly_value factor
  let monthly_value ← scale limits.monthly_value factor
  return { limits with daily_value, weekly_value, monthly_value }

/-- Twice the limits. -/
def double_limits (limits : UserLimits) : Limiter UserLimits := do
  let daily_value ← mul limits.daily_value WHITELIST_MULTIPLIER
  let weekly_value ← mul limits.weekly_value WHITELIST_MULTIPLIER
  let monthly_value ← mul limits.monthly_value WHITELIST_MULTIPLIER
  let daily_count ← double_u32 limits.daily_count
  let weekly_count ← double_u32 limits.weekly_count
  let monthly_count ← double_u32 limits.monthly_count
  return { daily_value, weekly_value, monthly_value, daily_count, weekly_count, monthly_count }

/-- The whitelist multiplier. -/
def multiply_whitelisted (limits : UserLimits) (is_whitelisted : Bool) : Limiter UserLimits :=
  if is_whitelisted = true then double_limits limits else pure limits

/-- The bonus of a tenure, in basis points. -/
def tenure_bonus (tenure : U64) : ℕ :=
  min (tenure.toNat / GRADUATED_TENURE_SECS.toNat * GRADUATED_BONUS_BPS) MAX_GRADUATED_BONUS_BPS

/-- "Ensure minimums". -/
def at_least_one (limits : UserLimits) : UserLimits :=
  { limits with daily_value := max limits.daily_value 1, weekly_value := max limits.weekly_value 1,
                monthly_value := max limits.monthly_value 1 }

def base_limits (user : Address) : Limiter UserLimits := do
  let custom ← get (.UserLimits user)
  let default ← get .DefaultLimits
  unwrap (custom.or default)

def compute_effective_limits (user : Address) (is_whitelisted : Bool) : Limiter UserLimits := do
  let limits ← base_limits user
  let limits ← multiply_whitelisted limits is_whitelisted
  let risk ← get_risk_profile user
  let limits ← scale_values limits risk.adjustment_factor_bps.toNat
  let now ← timestamp
  let usage ← get (.UserUsage user)
  let limits ← usage.elim (pure limits) fun u =>
    let tenure := saturating_sub_u64 now u.first_activity
    if tenure ≥ GRADUATED_TENURE_SECS then scale_values limits (10000 + tenure_bonus tenure) else pure limits
  return at_least_one limits

def get_effective_limits (user : Address) : Limiter UserLimits := do
  let is_whitelisted ← is_whitelisted_internal user
  compute_effective_limits user is_whitelisted

def handle_breach (user : Address) (usage : UserUsage) (now : U64) : Limiter Unit := do
  let cooldown ← get .CooldownDuration
  let cooldown_until ← add_u64 now (cooldown.getD DEFAULT_COOLDOWN_SECS)
  set (.UserUsage user) { usage with cooldown_until }
  let profile ← get_risk_profile user
  let breach_count ← add_u32 profile.breach_count 1
  set (.UserRisk user) { profile with breach_count, last_updated := now }

def record_history (user : Address) (now : U64) (amount : ℤ) : Limiter Unit := do
  let day_timestamp := now / DAY_SECS * DAY_SECS
  let history ← get (.UserHistory user)
  let history := history.getD []
  let today : UsageRecord := { day_timestamp, daily_value := amount, daily_count := 1 }
  history.getLast?.elim (set (.UserHistory user) [today]) fun last =>
    if last.day_timestamp = day_timestamp then do
      let daily_value ← add last.daily_value amount
      let daily_count ← add_u32 last.daily_count 1
      let last : UsageRecord := { last with daily_value, daily_count }
      set (.UserHistory user) (history.dropLast ++ [last])
    else do
      let history := if MAX_USAGE_HISTORY ≤ history.length then history.tail else history
      set (.UserHistory user) (history ++ [today])

/-! ## Consumption -/

/-- The limit that a use of the amount would exceed, in the order of the checks. -/
def exceeded (usage : UserUsage) (limits : UserLimits) (amount : ℤ) : Limiter (Option RateLimitError) := do
  let daily ← add usage.daily.value_used amount
  if daily > limits.daily_value then return some .DailyValueLimitExceeded
  else
    let weekly ← add usage.weekly.value_used amount
    if weekly > limits.weekly_value then return some .WeeklyValueLimitExceeded
    else
      let monthly ← add usage.monthly.value_used amount
      if monthly > limits.monthly_value then return some .MonthlyValueLimitExceeded
      else
        let daily_count ← add_u32 usage.daily.count_used 1
        if daily_count > limits.daily_count then return some .DailyCountLimitExceeded
        else
          let weekly_count ← add_u32 usage.weekly.count_used 1
          if weekly_count > limits.weekly_count then return some .WeeklyCountLimitExceeded
          else
            let monthly_count ← add_u32 usage.monthly.count_used 1
            if monthly_count > limits.monthly_count then return some .MonthlyCountLimitExceeded
            else return none

/-- The global limit that a use of the amount would exceed. -/
def exceeded_globally (usage : GlobalUsage) (limits : GlobalLimits) (amount : ℤ) :
    Limiter (Option RateLimitError) := do
  let daily ← add usage.daily.value_used amount
  if daily > limits.daily_value then return some .GlobalDailyLimitExceeded
  else
    let weekly ← add usage.weekly.value_used amount
    if weekly > limits.weekly_value then return some .GlobalWeeklyLimitExceeded
    else return none

/-- The window with one use more. -/
def UsageWindow.with_use (window : UsageWindow) (amount : ℤ) : Limiter UsageWindow := do
  let value_used ← add window.value_used amount
  let count_used ← add_u32 window.count_used 1
  return { window with value_used, count_used }

/-- "All checks passed": the use is recorded. -/
def record_consumption (user : Address) (usage : UserUsage) (global_usage : GlobalUsage) (now : U64) (amount : ℤ) :
    Limiter ConsumeResult := do
  let daily ← usage.daily.with_use amount
  let weekly ← usage.weekly.with_use amount
  let monthly ← usage.monthly.with_use amount
  let lifetime_value ← add usage.lifetime_value amount
  let lifetime_count ← add_u32 usage.lifetime_count 1
  set (.UserUsage user) { usage with daily, weekly, monthly, lifetime_value, lifetime_count }
  let global_daily ← global_usage.daily.with_use amount
  let global_weekly ← global_usage.weekly.with_use amount
  set .GlobalUsage { daily := global_daily, weekly := global_weekly }
  record_history user now amount
  return .Allowed

def consume_limit (user : Address) (amount : ℤ) : Limiter ConsumeResult := do
  require_auth user
  let emergency ← is_emergency_mode
  err_if (emergency = true) .EmergencyModeActive
  let cb ← get .CircuitBreaker
  let cb ← unwrap cb
  err_if (cb.tripped = true) .CircuitBreakerTripped
  err_if (amount ≤ 0) .InvalidLimit
  let now ← timestamp
  let is_whitelisted ← is_whitelisted_internal user
  let effective_limits ← compute_effective_limits user is_whitelisted
  let usage ← get_or_init_usage user now
  err_if (usage.cooldown_until > now) .CooldownActive
  let daily ← decayed_usage usage.daily now DAY_SECS
  let weekly ← decayed_usage usage.weekly now WEEK_SECS
  let monthly ← decayed_usage usage.monthly now MONTH_SECS
  let usage := { usage with daily, weekly, monthly }
  let breached ← exceeded usage effective_limits amount
  match breached with
  | some e => do
      handle_breach user usage now
      return .Rejected e.code
  | none => do
      let global_usage ← get .GlobalUsage
      let global_usage ← unwrap global_usage
      let global_limits ← get .GlobalLimits
      let global_limits ← unwrap global_limits
      let global_daily ← decayed_usage global_usage.daily now DAY_SECS
      let global_weekly ← decayed_usage global_usage.weekly now WEEK_SECS
      let global_usage := { daily := global_daily, weekly := global_weekly }
      let breached ← exceeded_globally global_usage global_limits amount
      match breached with
      | some e => return .Rejected e.code
      | none => record_consumption user usage global_usage now amount

def asset_decimals (asset_code : SString) : Limiter U32 := do
  let registry ← get .AssetRegistry
  let registry ← ok_or registry .AssetRegistryNotSet
  let decimals ← reads fun env => env.registered_decimals registry asset_code
  ok_or decimals .AssetNotRegistered

def normalize_amount (amount : ℤ) (decimals : U32) : Limiter ℤ := do
  err_if (decimals > MAX_ASSET_DECIMALS) .InvalidDecimals
  err_if (amount ≤ 0) .InvalidLimit
  if decimals = BASE_DECIMALS then return amount
  else if decimals > BASE_DECIMALS then
    let divisor : ℤ := 10 ^ (decimals - BASE_DECIMALS).toNat
    return (amount - 1).tdiv divisor + 1
  else
    let multiplier : ℤ := 10 ^ (BASE_DECIMALS - decimals).toNat
    ok_or (checked_mul amount multiplier) .AmountOverflow

def normalize_for_asset (asset_code : SString) (amount : ℤ) : Limiter ℤ := do
  let decimals ← asset_decimals asset_code
  normalize_amount amount decimals

def consume_limit_for_asset (user : Address) (asset_code : SString) (amount : ℤ) : Limiter ConsumeResult := do
  let normalized ← normalize_for_asset asset_code amount
  consume_limit user normalized

/-! ## Settings -/

/-- `initialize`. -/
def initialize_limiter (admin : Address) : Limiter Unit := do
  require_auth admin
  let existing ← get .Admin
  err_if (existing.isSome = true) .AlreadyInitialized
  set .Admin admin
  set .DefaultLimits
    { daily_value := DEFAULT_DAILY_LIMIT, weekly_value := DEFAULT_WEEKLY_LIMIT, monthly_value := DEFAULT_MONTHLY_LIMIT,
      daily_count := DEFAULT_DAILY_COUNT, weekly_count := DEFAULT_WEEKLY_COUNT,
      monthly_count := DEFAULT_MONTHLY_COUNT }
  set .GlobalLimits { daily_value := DEFAULT_DAILY_LIMIT * 10, weekly_value := DEFAULT_WEEKLY_LIMIT * 10 }
  let now ← timestamp
  set .GlobalUsage { daily := fresh_window now, weekly := fresh_window now }
  set .CircuitBreaker { tripped := false, anomaly_score := 0, tripped_at := 0, trip_count := 0 }
  set .CooldownDuration DEFAULT_COOLDOWN_SECS
  set .EmergencyMode false

def update_user_limit (admin user : Address) (limits : UserLimits) : Limiter Unit := do
  require_admin admin
  err_if (limits.daily_value ≤ 0 ∨ limits.weekly_value ≤ 0 ∨ limits.monthly_value ≤ 0) .InvalidLimit
  err_if (limits.daily_value > limits.weekly_value ∨ limits.weekly_value > limits.monthly_value) .InvalidLimit
  set (.UserLimits user) limits

def update_global_limit (admin : Address) (global_limits : GlobalLimits) : Limiter Unit := do
  require_admin admin
  err_if (global_limits.daily_value ≤ 0 ∨ global_limits.weekly_value ≤ 0) .InvalidLimit
  set .GlobalLimits global_limits

def update_default_limits (admin : Address) (limits : UserLimits) : Limiter Unit := do
  require_admin admin
  err_if (limits.daily_value ≤ 0 ∨ limits.weekly_value ≤ 0 ∨ limits.monthly_value ≤ 0) .InvalidLimit
  set .DefaultLimits limits

def add_to_whitelist (admin user : Address) : Limiter Unit := do
  require_admin admin
  set (.Whitelist user) true

def remove_from_whitelist (admin user : Address) : Limiter Unit := do
  require_admin admin
  set (.Whitelist user) false

def update_risk_score (admin user : Address) (risk_score : U32) : Limiter Unit := do
  require_admin admin
  err_if (risk_score.toNat > BPS_DENOM.toNat) .InvalidRiskScore
  let now ← timestamp
  let profile ← get_risk_profile user
  set (.UserRisk user)
    { risk_score, breach_count := profile.breach_count, last_updated := now,
      adjustment_factor_bps := calculate_adjustment_factor risk_score }

def update_anomaly_score (admin : Address) (anomaly_score : U32) : Limiter Unit := do
  require_admin admin
  err_if (anomaly_score.toNat > BPS_DENOM.toNat) .InvalidRiskScore
  let now ← timestamp
  let cb ← get .CircuitBreaker
  let cb ← unwrap cb
  let cb := { cb with anomaly_score }
  if anomaly_score ≥ CIRCUIT_BREAKER_THRESHOLD then
    let trip_count ← add_u32 cb.trip_count 1
    set .CircuitBreaker { cb with tripped := true, tripped_at := now, trip_count }
  else
    set .CircuitBreaker cb

def reset_circuit_breaker (admin : Address) : Limiter Unit := do
  require_admin admin
  let cb ← get .CircuitBreaker
  let cb ← unwrap cb
  set .CircuitBreaker { cb with tripped := false, anomaly_score := 0 }

def set_emergency_mode (admin : Address) (enabled : Bool) : Limiter Unit := do
  require_admin admin
  set .EmergencyMode enabled

def emergency_reduce_limits (admin : Address) (reduction_bps : U32) : Limiter Unit := do
  require_admin admin
  err_if (reduction_bps = 0 ∨ reduction_bps.toNat > BPS_DENOM.toNat) .InvalidLimit
  let limits ← get .DefaultLimits
  let limits ← unwrap limits
  let limits ← scale_values limits (10000 - reduction_bps.toNat)
  set .DefaultLimits (at_least_one limits)

def set_cooldown_duration (admin : Address) (duration_secs : U64) : Limiter Unit := do
  require_admin admin
  set .CooldownDuration duration_secs

def clear_cooldown (admin user : Address) : Limiter Unit := do
  require_admin admin
  let now ← timestamp
  let usage ← get_or_init_usage user now
  set (.UserUsage user) { usage with cooldown_until := 0 }

def set_asset_registry (admin registry : Address) : Limiter Unit := do
  require_admin admin
  set .AssetRegistry registry

/-! ## Runs -/

/-- A call of an entry point that can change the storage. -/
inductive EntryPoint where
  | initialize_limiter (admin : Address)
  | consume_limit (user : Address) (amount : ℤ)
  | consume_limit_for_asset (user : Address) (asset_code : SString) (amount : ℤ)
  | update_user_limit (admin user : Address) (limits : UserLimits)
  | update_global_limit (admin : Address) (global_limits : GlobalLimits)
  | update_default_limits (admin : Address) (limits : UserLimits)
  | add_to_whitelist (admin user : Address)
  | remove_from_whitelist (admin user : Address)
  | update_risk_score (admin user : Address) (risk_score : U32)
  | update_anomaly_score (admin : Address) (anomaly_score : U32)
  | reset_circuit_breaker (admin : Address)
  | set_emergency_mode (admin : Address) (enabled : Bool)
  | emergency_reduce_limits (admin : Address) (reduction_bps : U32)
  | set_cooldown_duration (admin : Address) (duration_secs : U64)
  | clear_cooldown (admin user : Address)
  | set_asset_registry (admin registry : Address)
  deriving DecidableEq

/-- What a call does, and the result of one that consumes. -/
def perform : EntryPoint → Limiter (Option ConsumeResult)
  | .initialize_limiter admin => do
      initialize_limiter admin
      return none
  | .consume_limit user amount => do
      let result ← consume_limit user amount
      return some result
  | .consume_limit_for_asset user asset_code amount => do
      let result ← consume_limit_for_asset user asset_code amount
      return some result
  | .update_user_limit admin user limits => do
      update_user_limit admin user limits
      return none
  | .update_global_limit admin global_limits => do
      update_global_limit admin global_limits
      return none
  | .update_default_limits admin limits => do
      update_default_limits admin limits
      return none
  | .add_to_whitelist admin user => do
      add_to_whitelist admin user
      return none
  | .remove_from_whitelist admin user => do
      remove_from_whitelist admin user
      return none
  | .update_risk_score admin user risk_score => do
      update_risk_score admin user risk_score
      return none
  | .update_anomaly_score admin anomaly_score => do
      update_anomaly_score admin anomaly_score
      return none
  | .reset_circuit_breaker admin => do
      reset_circuit_breaker admin
      return none
  | .set_emergency_mode admin enabled => do
      set_emergency_mode admin enabled
      return none
  | .emergency_reduce_limits admin reduction_bps => do
      emergency_reduce_limits admin reduction_bps
      return none
  | .set_cooldown_duration admin duration_secs => do
      set_cooldown_duration admin duration_secs
      return none
  | .clear_cooldown admin user => do
      clear_cooldown admin user
      return none
  | .set_asset_registry admin registry => do
      set_asset_registry admin registry
      return none

def exec (call : EntryPoint) : Limiter Unit := do
  let _ ← perform call

/-- The storage after some calls. -/
abbrev run (s : LimiterStorage) (calls : List (Chain × EntryPoint)) : LimiterStorage := runFrom exec s calls

/-- The storage before the first call. -/
def empty_storage : LimiterStorage := fun _ => none

/-- An account. -/
def party (n : UInt8) : Address := .account (Vector.replicate 32 n)

/-- A time at which every address has authorised its call, and no registry knows any asset. -/
def signed_at (timestamp : U64) : Chain :=
  { timestamp, auth := fun _ => true, registered_decimals := fun _ _ => none }

end BridgeWatch.RateLimiter

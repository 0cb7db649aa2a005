/-
Assets: registration and locks, deviation and mismatch thresholds with their overrides,
supply mismatches and liquidity depths, and the expiry of records.
-/
import BridgeWatch.ContractSubmissions

set_option autoImplicit false
-- The instance of a footprint is as long as its function.
set_option synthInstance.maxSize 2048

namespace BridgeWatch.Contract

open Transaction

variable {ts : List Tag}

/-! ## Registration -/

def register_asset [Host] (caller : Address) (asset_code : SString) : Soroban Unit := do
  assert_not_globally_paused
  check_permission caller .AssetManager
  let assets ← get .MONITORED_ASSETS
  let assets ← unwrap assets
  panic_if (asset_code ∈ assets) "asset is already registered"
  let now ← timestamp
  let expires_at ← resolve_expiration .Asset now
  set (.Health asset_code)
    { asset_code
      health_score := 0
      liquidity_score := 0
      price_stability_score := 0
      bridge_uptime_score := 0
      paused := false
      active := true
      timestamp := now
      expires_at }
  set .MONITORED_ASSETS (assets ++ [asset_code])
  maybe_create_auto_checkpoint caller

/-- The end of the three functions that change the status of a registered asset. -/
def store_status [Host] (caller : Address) (asset_code : SString) (status : AssetHealth)
    (active paused : Bool) : Soroban Unit := do
  let now ← timestamp
  let expires_at ← resolve_expiration .Asset now
  set (.Health asset_code) { status with active, paused, timestamp := now, expires_at }
  maybe_create_auto_checkpoint caller

def pause_asset [Host] (caller : Address) (asset_code : SString) : Soroban Unit := do
  check_permission caller .AssetManager
  let status ← load_asset_health asset_code
  panic_if (status.active = false) "cannot pause a deregistered asset"
  store_status caller asset_code status status.active true

def unpause_asset [Host] (caller : Address) (asset_code : SString) : Soroban Unit := do
  check_permission caller .AssetManager
  let status ← load_asset_health asset_code
  panic_if (status.active = false) "cannot unpause a deregistered asset"
  store_status caller asset_code status status.active false

def deregister_asset [Host] (caller : Address) (asset_code : SString) : Soroban Unit := do
  assert_not_globally_paused
  check_permission caller .AssetManager
  let status ← load_asset_health asset_code
  store_status caller asset_code status false false

/-- An asset whose record is missing is listed as well. -/
def is_monitored (status : Option AssetHealth) : Bool :=
  status.elim true fun record => record.active && !record.paused

def get_monitored_assets : Soroban (List SString) := do
  let assets ← get .MONITORED_ASSETS
  let assets ← unwrap assets
  assets.foldlM (fun active_assets asset_code => do
    let status ← get (.Health asset_code)
    return if is_monitored status then active_assets ++ [asset_code] else active_assets) []

section Footprints

variable [Host] (caller : Address) (asset_code : SString)

instance [Within (.MONITORED_ASSETS :: .Health :: checkpointTags) ts] :
    Writes ts (register_asset caller asset_code) := by
  apply Writes.mono (.MONITORED_ASSETS :: .Health :: checkpointTags)
  unfold register_asset
  infer_instance

instance [Within (.Health :: checkpointTags) ts] (status : AssetHealth) (active paused : Bool) :
    Writes ts (store_status caller asset_code status active paused) := by
  apply Writes.mono (.Health :: checkpointTags)
  unfold store_status
  infer_instance

instance [Within (.Health :: checkpointTags) ts] : Writes ts (pause_asset caller asset_code) := by
  unfold pause_asset
  infer_instance

instance [Within (.Health :: checkpointTags) ts] : Writes ts (unpause_asset caller asset_code) := by
  unfold unpause_asset
  infer_instance

instance [Within (.Health :: checkpointTags) ts] :
    Writes ts (deregister_asset caller asset_code) := by
  unfold deregister_asset
  infer_instance

omit [Host] in
instance : Writes ts get_monitored_assets := by
  unfold get_monitored_assets
  infer_instance

instance : Blocked Paused (register_asset caller asset_code) := by
  unfold register_asset
  infer_instance

instance : Blocked Paused (deregister_asset caller asset_code) := by
  unfold deregister_asset
  infer_instance

end Footprints

/-! ## Locks -/

def append_lock_history (asset_code : SString) (record : AssetLockRecord) : Soroban Unit := do
  let history ← get (.LockHist asset_code)
  set (.LockHist asset_code) (history.getD [] ++ [record])

def lock_asset (caller : Address) (asset_code reason : SString) : Soroban Unit := do
  assert_not_globally_paused
  check_permission caller .AssetManager
  let status ← load_asset_health asset_code
  panic_if (status.active = false) "cannot lock a deregistered asset"
  let existing_lock ← get (.Lock asset_code)
  existing_lock.elim (pure ()) fun lock =>
    panic_if (lock.is_locked = true) "asset is already locked"
  let now ← timestamp
  set (.Lock asset_code)
    { asset_code
      is_locked := true
      reason
      locked_by := caller
      locked_at := now
      unlocked_by := none
      unlocked_at := none }
  append_lock_history asset_code { locked := true, reason, caller, timestamp := now }

def unlock_asset (caller : Address) (asset_code : SString) : Soroban Unit := do
  assert_not_globally_paused
  check_permission caller .AssetManager
  let status ← load_asset_health asset_code
  panic_if (status.active = false) "cannot unlock a deregistered asset"
  let existing_lock ← get (.Lock asset_code)
  let existing_lock ← expect existing_lock "asset is not locked"
  panic_if (existing_lock.is_locked = false) "asset is not locked"
  let now ← timestamp
  set (.Lock asset_code)
    { asset_code := asset_code
      is_locked := false
      reason := existing_lock.reason
      locked_by := existing_lock.locked_by
      locked_at := existing_lock.locked_at
      unlocked_by := some caller
      unlocked_at := some now }
  append_lock_history asset_code { locked := false, reason := str "Unlocked", caller, timestamp := now }

section Footprints

variable (caller : Address) (asset_code reason : SString)

instance [Among .LockHist ts] (record : AssetLockRecord) :
    Writes ts (append_lock_history asset_code record) := by
  unfold append_lock_history
  infer_instance

instance [Among .Lock ts] [Among .LockHist ts] : Writes ts (lock_asset caller asset_code reason) := by
  unfold lock_asset
  infer_instance

instance [Among .Lock ts] [Among .LockHist ts] : Writes ts (unlock_asset caller asset_code) := by
  unfold unlock_asset
  infer_instance

instance : Blocked Paused (lock_asset caller asset_code reason) := by
  unfold lock_asset
  infer_instance

instance : Blocked Paused (unlock_asset caller asset_code) := by
  unfold unlock_asset
  infer_instance

end Footprints

/-! ## Thresholds -/

/-- The guards of the setters that only the admin may call. -/
def assert_admin_call : Soroban Unit := do
  assert_not_globally_paused
  let admin ← get_admin
  require_auth admin
  check_no_pending_transfer

def set_deviation_threshold (asset_code : SString) (low_bps medium_bps high_bps : I128) :
    Soroban Unit := do
  assert_admin_call
  set (.DevThresh asset_code) { low_bps, medium_bps, high_bps }

def set_mismatch_threshold (threshold_bps : I128) : Soroban Unit := do
  assert_admin_call
  set .MISMATCH_THRESHOLD threshold_bps

def validate_deviation_threshold_range (low_bps medium_bps high_bps : I128) : Soroban Unit := do
  panic_if (low_bps.toInt ≤ 0) "low_bps must be greater than zero"
  panic_if (medium_bps.toInt ≤ low_bps.toInt) "medium_bps must be greater than low_bps"
  panic_if (high_bps.toInt ≤ medium_bps.toInt) "high_bps must be greater than medium_bps"

def validate_mismatch_threshold_value (threshold_bps : I128) : Soroban Unit :=
  panic_if (threshold_bps.toInt ≤ 0) "mismatch threshold must be greater than zero"

def resolve_override_expiration (now : U64) (mode : ThresholdOverrideMode)
    (expires_at : Option U64) : Soroban U64 :=
  if mode = .Permanent then do
    panic_if (expires_at ≠ none) "permanent override must not include expires_at"
    return 0
  else do
    let value ← expect expires_at "temporary override requires expires_at"
    panic_if (value ≤ now) "temporary override expires_at must be in the future"
    return value

/-- A temporary override whose time is over. -/
def override_is_over (mode : ThresholdOverrideMode) (expires_at now : U64) : Bool :=
  mode = .Temporary && expires_at ≠ 0 && expires_at ≤ now

def load_active_deviation_threshold_override (asset_code : SString) :
    Soroban (Option DeviationThresholdOverride) := do
  let override_entry ← get (.DevThreshOvr asset_code)
  override_entry.elim (pure none) fun entry => do
    let now ← timestamp
    if override_is_over entry.mode entry.expires_at now = true then do
      remove (.DevThreshOvr asset_code)
      return none
    else
      return some entry

def load_active_mismatch_threshold_override (asset_code : SString) :
    Soroban (Option MismatchThresholdOverride) := do
  let override_entry ← get (.MmThreshOvr asset_code)
  override_entry.elim (pure none) fun entry => do
    let now ← timestamp
    if override_is_over entry.mode entry.expires_at now = true then do
      remove (.MmThreshOvr asset_code)
      return none
    else
      return some entry

abbrev get_deviation_threshold_override : SString → Soroban (Option DeviationThresholdOverride) :=
  load_active_deviation_threshold_override

abbrev get_mismatch_threshold_override : SString → Soroban (Option MismatchThresholdOverride) :=
  load_active_mismatch_threshold_override

def default_deviation_threshold : DeviationThreshold :=
  { low_bps := 200, medium_bps := 500, high_bps := 1000 }

def resolve_deviation_threshold (asset_code : SString) : Soroban DeviationThreshold := do
  let override_entry ← load_active_deviation_threshold_override asset_code
  let threshold ← get (.DevThresh asset_code)
  return override_entry.elim (threshold.getD default_deviation_threshold)
    DeviationThresholdOverride.threshold

def resolve_mismatch_threshold_bps (asset_code : SString) : Soroban I128 := do
  let override_entry ← load_active_mismatch_threshold_override asset_code
  let threshold_bps ← get .MISMATCH_THRESHOLD
  return override_entry.elim (threshold_bps.getD 10) MismatchThresholdOverride.threshold_bps

/-- The name of an audit log: the prefix and the asset code. -/
def override_audit_name (prefix_text : String) (asset_code : SString) : Except String SString :=
  if 256 < asset_code.length then .error "asset code too long" else .ok (str prefix_text ++ asset_code)

abbrev deviation_override_audit_name : SString → Except String SString :=
  override_audit_name "deviation_override_"

abbrev mismatch_override_audit_name : SString → Except String SString :=
  override_audit_name "mismatch_override_"

/-- The last 50 entries of an audit log. -/
def trim_audit_log (log : List ConfigAuditEntry) : List ConfigAuditEntry :=
  log.drop (log.length - 50)

def append_threshold_override_audit (name : SString) (old_value new_value : I128)
    (caller : Address) : Soroban Unit := do
  let now ← timestamp
  let audit_log ← get (.AuditLog .Threshold name)
  let audit_log := audit_log.getD []
  let version ← add_u32 (audit_log.getLast?.elim 0 ConfigAuditEntry.version) 1
  set (.AuditLog .Threshold name)
    (trim_audit_log
      (audit_log ++ [{ old_value, new_value, version, changed_at := now, changed_by := caller }]))

def set_deviation_threshold_override (caller : Address) (asset_code : SString)
    (low_bps medium_bps high_bps : I128) (mode : ThresholdOverrideMode)
    (expires_at : Option U64) : Soroban Unit := do
  assert_can_manage_threshold_overrides caller
  validate_deviation_threshold_range low_bps medium_bps high_bps
  let now ← timestamp
  let expires_at_value ← resolve_override_expiration now mode expires_at
  let old_override ← get (.DevThreshOvr asset_code)
  let old_high := old_override.elim 0 fun o => o.threshold.high_bps
  set (.DevThreshOvr asset_code)
    { threshold := { low_bps, medium_bps, high_bps }
      mode
      expires_at := expires_at_value
      updated_by := caller
      updated_at := now }
  let name ← attempt (deviation_override_audit_name asset_code)
  append_threshold_override_audit name old_high high_bps caller

def clear_dev_threshold_override (caller : Address) (asset_code : SString) : Soroban Unit := do
  assert_can_manage_threshold_overrides caller
  let old_override ← get (.DevThreshOvr asset_code)
  let old_high := old_override.elim 0 fun o => o.threshold.high_bps
  remove (.DevThreshOvr asset_code)
  let name ← attempt (deviation_override_audit_name asset_code)
  append_threshold_override_audit name old_high 0 caller

def set_mismatch_threshold_override (caller : Address) (asset_code : SString)
    (threshold_bps : I128) (mode : ThresholdOverrideMode) (expires_at : Option U64) :
    Soroban Unit := do
  assert_can_manage_threshold_overrides caller
  validate_mismatch_threshold_value threshold_bps
  let now ← timestamp
  let expires_at_value ← resolve_override_expiration now mode expires_at
  let old_override ← get (.MmThreshOvr asset_code)
  let old_value := old_override.elim 0 MismatchThresholdOverride.threshold_bps
  set (.MmThreshOvr asset_code)
    { threshold_bps, mode, expires_at := expires_at_value, updated_by := caller, updated_at := now }
  let name ← attempt (mismatch_override_audit_name asset_code)
  append_threshold_override_audit name old_value threshold_bps caller

def clear_mm_threshold_override (caller : Address) (asset_code : SString) : Soroban Unit := do
  assert_can_manage_threshold_overrides caller
  let old_override ← get (.MmThreshOvr asset_code)
  let old_value := old_override.elim 0 MismatchThresholdOverride.threshold_bps
  remove (.MmThreshOvr asset_code)
  let name ← attempt (mismatch_override_audit_name asset_code)
  append_threshold_override_audit name old_value 0 caller

/-- `|a - b| * 10_000 / b`, where only the difference is an absolute value. -/
def difference_bps (a b : I128) : Soroban I128 := do
  let diff ← if b.toInt < a.toInt then sub_i128 a b else sub_i128 b a
  let scaled ← mul_i128 diff 10000
  div_i128 scaled b

/-- The severity of a deviation; none below the lowest threshold. -/
def deviation_severity (threshold : DeviationThreshold) (deviation_bps : I128) :
    Option DeviationSeverity :=
  if threshold.high_bps.toInt < deviation_bps.toInt then some .High
  else if threshold.medium_bps.toInt < deviation_bps.toInt then some .Medium
  else if threshold.low_bps.toInt < deviation_bps.toInt then some .Low
  else none

def check_price_deviation (asset_code : SString) (current_price : I128) :
    Soroban (Option DeviationAlert) := do
  let reference ← get (.Price asset_code)
  reference.elim (pure none) fun reference =>
    if reference.price = 0 then
      return none
    else do
      let deviation_bps ← difference_bps current_price reference.price
      let threshold ← resolve_deviation_threshold asset_code
      (deviation_severity threshold deviation_bps).elim (pure none) fun severity => do
        let now ← timestamp
        let expires_at ← resolve_expiration .Deviation now
        let alert : DeviationAlert :=
          { asset_code := asset_code
            current_price := current_price
            average_price := reference.price
            deviation_bps := deviation_bps
            severity := severity
            timestamp := now
            expires_at := expires_at }
        set (.DevAlert asset_code) alert
        return some alert

section Footprints

variable (caller : Address) (asset_code name : SString) (x y z : I128) (now : U64)
variable (mode : ThresholdOverrideMode) (expires_at : Option U64)

instance : Writes ts assert_admin_call := by
  unfold assert_admin_call
  infer_instance

instance : Blocked Paused assert_admin_call := by
  unfold assert_admin_call
  infer_instance

instance [Among .DevThresh ts] : Writes ts (set_deviation_threshold asset_code x y z) := by
  unfold set_deviation_threshold
  infer_instance

instance [Among .MISMATCH_THRESHOLD ts] : Writes ts (set_mismatch_threshold x) := by
  unfold set_mismatch_threshold
  infer_instance

instance : Writes ts (validate_deviation_threshold_range x y z) := by
  unfold validate_deviation_threshold_range
  infer_instance

instance : Writes ts (validate_mismatch_threshold_value x) := by
  unfold validate_mismatch_threshold_value
  infer_instance

instance : Writes ts (resolve_override_expiration now mode expires_at) := by
  unfold resolve_override_expiration
  infer_instance

instance [Among .DevThreshOvr ts] :
    Writes ts (load_active_deviation_threshold_override asset_code) := by
  unfold load_active_deviation_threshold_override
  infer_instance

instance [Among .MmThreshOvr ts] :
    Writes ts (load_active_mismatch_threshold_override asset_code) := by
  unfold load_active_mismatch_threshold_override
  infer_instance

instance [Among .DevThreshOvr ts] : Writes ts (resolve_deviation_threshold asset_code) := by
  unfold resolve_deviation_threshold
  infer_instance

instance [Among .MmThreshOvr ts] : Writes ts (resolve_mismatch_threshold_bps asset_code) := by
  unfold resolve_mismatch_threshold_bps
  infer_instance

instance [Among .AuditLog ts] : Writes ts (append_threshold_override_audit name x y caller) := by
  unfold append_threshold_override_audit
  infer_instance

instance [Among .DevThreshOvr ts] [Among .AuditLog ts] :
    Writes ts (set_deviation_threshold_override caller asset_code x y z mode expires_at) := by
  unfold set_deviation_threshold_override
  infer_instance

instance [Among .DevThreshOvr ts] [Among .AuditLog ts] :
    Writes ts (clear_dev_threshold_override caller asset_code) := by
  unfold clear_dev_threshold_override
  infer_instance

instance [Among .MmThreshOvr ts] [Among .AuditLog ts] :
    Writes ts (set_mismatch_threshold_override caller asset_code x mode expires_at) := by
  unfold set_mismatch_threshold_override
  infer_instance

instance [Among .MmThreshOvr ts] [Among .AuditLog ts] :
    Writes ts (clear_mm_threshold_override caller asset_code) := by
  unfold clear_mm_threshold_override
  infer_instance

instance : Writes ts (difference_bps x y) := by
  unfold difference_bps
  infer_instance

instance [Among .DevThreshOvr ts] [Among .DevAlert ts] :
    Writes ts (check_price_deviation asset_code x) := by
  unfold check_price_deviation
  infer_instance

instance : Blocked Paused (set_deviation_threshold asset_code x y z) := by
  unfold set_deviation_threshold
  infer_instance

instance : Blocked Paused (set_mismatch_threshold x) := by
  unfold set_mismatch_threshold
  infer_instance

instance : Blocked Paused
    (set_deviation_threshold_override caller asset_code x y z mode expires_at) := by
  unfold set_deviation_threshold_override
  infer_instance

instance : Blocked Paused (clear_dev_threshold_override caller asset_code) := by
  unfold clear_dev_threshold_override
  infer_instance

instance : Blocked Paused
    (set_mismatch_threshold_override caller asset_code x mode expires_at) := by
  unfold set_mismatch_threshold_override
  infer_instance

instance : Blocked Paused (clear_mm_threshold_override caller asset_code) := by
  unfold clear_mm_threshold_override
  infer_instance

end Footprints

/-! ## Mismatches and liquidity -/

def bridge_is_blacklisted (bridge_id : SString) : Soroban Bool := do
  let blacklist ← get .BRIDGE_BLACKLIST
  return bridge_id ∈ blacklist.getD []

/-- Adds `id` at the end of the list under `.BRIDGE_IDS` unless it is there. -/
def add_bridge_id (bridge_id : SString) : Soroban Unit := do
  let bridge_ids ← get .BRIDGE_IDS
  exec_if (bridge_id ∉ bridge_ids.getD []) do
    set .BRIDGE_IDS (bridge_ids.getD [] ++ [bridge_id])

/-- Adds `pair` at the end of the list under `.LIQUIDITY_PAIRS` unless it is there. -/
def add_liquidity_pair (pair : SString) : Soroban Unit := do
  let pairs ← get .LIQUIDITY_PAIRS
  exec_if (pair ∉ pairs.getD []) do
    set .LIQUIDITY_PAIRS (pairs.getD [] ++ [pair])

def record_supply_mismatch (bridge_id asset_code : SString)
    (stellar_supply source_chain_supply : I128) : Soroban Unit := do
  assert_not_globally_paused
  let blacklisted ← bridge_is_blacklisted bridge_id
  panic_if (blacklisted = true) "bridge is blacklisted"
  let admin ← get_admin
  require_auth admin
  let mismatch_bps ←
    if 0 < source_chain_supply.toInt then difference_bps stellar_supply source_chain_supply
    else pure 0
  let threshold_bps ← resolve_mismatch_threshold_bps asset_code
  let now ← timestamp
  let expires_at ← resolve_expiration .Mismatch now
  let record : SupplyMismatch :=
    { bridge_id := bridge_id
      asset_code := asset_code
      stellar_supply := stellar_supply
      source_chain_supply := source_chain_supply
      mismatch_bps := mismatch_bps
      is_critical := threshold_bps.toInt ≤ mismatch_bps.toInt
      timestamp := now
      expires_at := expires_at }
  let mismatches ← load_mismatches bridge_id
  set (.Mismatches bridge_id) (mismatches ++ [record])
  add_bridge_id bridge_id
  maybe_trigger_auto_cleanup

def is_supported_liquidity_pair (asset_pair : SString) : Bool :=
  asset_pair ∈ [str "USDC/XLM", str "EURC/XLM", str "PYUSD/XLM", str "FOBXX/USDC"]

/-- The parameters of the call, but for the time, are those of `record`. -/
def validate_liquidity_depth_input (record : LiquidityDepth) : Soroban Unit := do
  panic_if (is_supported_liquidity_pair record.asset_pair = false) "unsupported asset pair"
  panic_if (record.total_liquidity.toInt < 0 ∨ record.depth_0_1_pct.toInt < 0 ∨
    record.depth_0_5_pct.toInt < 0 ∨ record.depth_1_pct.toInt < 0 ∨ record.depth_5_pct.toInt < 0)
    "liquidity values must be non-negative"
  panic_if (record.sources = []) "at least one liquidity source is required"
  panic_if (record.depth_0_5_pct.toInt < record.depth_0_1_pct.toInt ∨
    record.depth_1_pct.toInt < record.depth_0_5_pct.toInt ∨
    record.depth_5_pct.toInt < record.depth_1_pct.toInt)
    "liquidity depth levels must be non-decreasing"
  panic_if (record.total_liquidity.toInt < record.depth_5_pct.toInt)
    "liquidity depth cannot exceed total liquidity"

def record_liquidity_depth (asset_pair : SString)
    (total_liquidity depth_0_1_pct depth_0_5_pct depth_1_pct depth_5_pct : I128)
    (sources : List SString) : Soroban Unit := do
  assert_not_globally_paused
  let admin ← get_admin
  require_auth admin
  let now ← timestamp
  let expires_at ← resolve_expiration .Liquidity now
  let record : LiquidityDepth :=
    { asset_pair := asset_pair
      total_liquidity := total_liquidity
      depth_0_1_pct := depth_0_1_pct
      depth_0_5_pct := depth_0_5_pct
      depth_1_pct := depth_1_pct
      depth_5_pct := depth_5_pct
      sources := sources
      timestamp := now
      expires_at := expires_at }
  validate_liquidity_depth_input record
  set (.LiqDepth asset_pair) record
  let history ← load_liquidity_history asset_pair
  set (.LiqHist asset_pair) (history ++ [record])
  add_liquidity_pair asset_pair
  maybe_trigger_auto_cleanup

section Footprints

variable (bridge_id asset_code pair : SString) (a b c d e : I128) (sources : List SString)

instance : Writes ts (bridge_is_blacklisted bridge_id) := by
  unfold bridge_is_blacklisted
  infer_instance

instance [Among .BRIDGE_IDS ts] : Writes ts (add_bridge_id bridge_id) := by
  unfold add_bridge_id
  infer_instance

instance [Among .LIQUIDITY_PAIRS ts] : Writes ts (add_liquidity_pair pair) := by
  unfold add_liquidity_pair
  infer_instance

instance [Within (.MmThreshOvr :: .BRIDGE_IDS :: cleanupTags) ts] :
    Writes ts (record_supply_mismatch bridge_id asset_code a b) := by
  apply Writes.mono (.MmThreshOvr :: .BRIDGE_IDS :: cleanupTags)
  unfold record_supply_mismatch
  infer_instance

instance (record : LiquidityDepth) : Writes ts (validate_liquidity_depth_input record) := by
  unfold validate_liquidity_depth_input
  infer_instance

instance [Within (.LiqDepth :: .LIQUIDITY_PAIRS :: cleanupTags) ts] :
    Writes ts (record_liquidity_depth pair a b c d e sources) := by
  apply Writes.mono (.LiqDepth :: .LIQUIDITY_PAIRS :: cleanupTags)
  unfold record_liquidity_depth
  infer_instance

instance : Blocked Paused (record_supply_mismatch bridge_id asset_code a b) := by
  unfold record_supply_mismatch
  infer_instance

instance : Blocked Paused (record_liquidity_depth pair a b c d e sources) := by
  unfold record_liquidity_depth
  infer_instance

end Footprints

/-! ## Expiry -/

/-- The parameters of the call are those of `policy`. -/
def set_expiration_policy (caller : Address) (policy : ExpirationPolicy) : Soroban Unit := do
  assert_admin_or_role "only admin or SuperAdmin can set expiration policy" caller
  panic_if (policy.version = 0) "expiration policy version must be greater than 0"
  set .EXPIRATIONPOLICY policy

def set_asset_expiration_ttl (caller : Address) (asset_code : SString) (ttl_secs : U64) :
    Soroban Unit := do
  assert_admin_or_role "only admin or SuperAdmin can set asset expiration ttl" caller
  set (.ExpTtl asset_code) ttl_secs

/-- `updated_expiration`. -/
def updated_expiration (now extra_secs current : U64) : Soroban U64 :=
  if now < current then add_u64 current extra_secs else add_u64 now extra_secs

/-- Extends the record under `key`, if there is one. -/
def extend_record (key : Key) (expires_at : key.Val → U64) (extend : key.Val → U64 → key.Val)
    (now extra_secs : U64) : Soroban Unit := do
  let record ← get key
  record.elim (pure ()) fun record => do
    let updated ← updated_expiration now extra_secs (expires_at record)
    set key (extend record updated)

def extend_expiration (caller : Address) (asset_code : SString) (extra_secs : U64) :
    Soroban Unit := do
  check_permission caller .AssetManager
  let now ← timestamp
  extend_record (.Health asset_code) AssetHealth.expires_at
    (fun record updated => { record with expires_at := updated }) now extra_secs
  extend_record (.Price asset_code) PriceRecord.expires_at
    (fun record updated => { record with expires_at := updated }) now extra_secs
  extend_record (.DevAlert asset_code) DeviationAlert.expires_at
    (fun record updated => { record with expires_at := updated }) now extra_secs
  extend_record (.HealthRes asset_code) HealthScoreResult.expires_at
    (fun record updated => { record with expires_at := updated }) now extra_secs

/-- Removes the record under `key` when it has expired, while the number of removals is
below the limit; the number of removals after that. -/
def remove_expired (key : Key) (expires_at : key.Val → U64) (now : U64)
    (max_records removed_records : U32) : Soroban U32 := do
  let record ← get key
  let past := record.elim false fun record => is_past now (expires_at record)
  if removed_records < max_records ∧ past = true then do
    remove key
    return removed_records + 1
  else
    return removed_records

/-- Drops the expired entries of a history, but for the last entry where the policy says so;
the number of entries trimmed after that. -/
def trim_history {α : Type} (load : Soroban (List α)) (store : List α → Soroban Unit)
    (expires_at : α → U64) (now : U64) (policy : ExpirationPolicy)
    (trimmed_history_records : U32) : Soroban U32 := do
  let history ← load
  let filtered := history.filter fun entry => !is_past now (expires_at entry)
  let expired := history.filter fun entry => is_past now (expires_at entry)
  let trimmed ← add_u32 trimmed_history_records (len expired)
  if filtered.isEmpty ∧ ¬history.isEmpty ∧ policy.preserve_latest_history = true then do
    store history.getLast?.toList
    return saturating_sub_u32 trimmed 1
  else do
    store filtered
    return trimmed

def load_price_history (asset_code : SString) : Soroban (List PriceRecord) := do
  let history ← get (.PriceHist asset_code)
  return history.getD []

section Cleanup

variable (now : U64) (policy : ExpirationPolicy) (max_records : U32)

/-- The body of the loop of `cleanup_expired_data` over the assets, over the removed and
the trimmed records so far. -/
def cleanup_asset (counts : U32 × U32) (asset_code : SString) : Soroban (U32 × U32) :=
  -- `break`
  if max_records ≤ counts.1 then
    return counts
  else do
    let removed ← remove_expired (.Health asset_code) AssetHealth.expires_at now max_records
      counts.1
    let removed ← remove_expired (.Price asset_code) PriceRecord.expires_at now max_records removed
    let removed ← remove_expired (.DevAlert asset_code) DeviationAlert.expires_at now max_records
      removed
    let removed ← remove_expired (.HealthRes asset_code) HealthScoreResult.expires_at now
      max_records removed
    let trimmed ← trim_history (load_price_history asset_code)
      (fun filtered => set (.PriceHist asset_code) filtered) PriceRecord.expires_at now policy
      counts.2
    return (removed, trimmed)

/-- The body of the loop over the bridges. -/
def cleanup_bridge (counts : U32 × U32) (bridge_id : SString) : Soroban (U32 × U32) := do
  let trimmed ← trim_history (load_mismatches bridge_id)
    (fun filtered => set (.Mismatches bridge_id) filtered) SupplyMismatch.expires_at now policy
    counts.2
  return (counts.1, trimmed)

/-- The body of the loop over the pairs. -/
def cleanup_pair (counts : U32 × U32) (pair : SString) : Soroban (U32 × U32) := do
  let removed ← remove_expired (.LiqDepth pair) LiquidityDepth.expires_at now max_records counts.1
  let trimmed ← trim_history (load_liquidity_history pair)
    (fun filtered => set (.LiqHist pair) filtered) LiquidityDepth.expires_at now policy counts.2
  return (removed, trimmed)

end Cleanup

def cleanup_expired_data (caller : Address) (max_records : U32) : Soroban CleanupStats := do
  assert_admin_or_role "only admin or SuperAdmin can clean expired data" caller
  let now ← timestamp
  let policy ← load_expiration_policy
  let assets ← load_registered_assets_raw
  let counts ← assets.foldlM (cleanup_asset now policy max_records) (0, 0)
  let bridge_ids ← get .BRIDGE_IDS
  let counts ← (bridge_ids.getD []).foldlM (cleanup_bridge now policy) counts
  let pairs ← get .LIQUIDITY_PAIRS
  let counts ← (pairs.getD []).foldlM (cleanup_pair now policy max_records) counts
  let stats : CleanupStats :=
    { last_run_at := now
      removed_records := counts.1
      trimmed_history_records := counts.2
      last_actor := caller }
  set .CLEANUPSTATS stats
  return stats

section Footprints

variable (caller : Address) (asset_code : SString) (now secs : U64) (policy : ExpirationPolicy)
variable (max_records : U32) (counts : U32 × U32)

instance [Among .EXPIRATIONPOLICY ts] : Writes ts (set_expiration_policy caller policy) := by
  unfold set_expiration_policy
  infer_instance

instance [Among .ExpTtl ts] : Writes ts (set_asset_expiration_ttl caller asset_code secs) := by
  unfold set_asset_expiration_ttl
  infer_instance

instance (extra_secs current : U64) : Writes ts (updated_expiration now extra_secs current) := by
  unfold updated_expiration
  infer_instance

instance (key : Key) [Among key.tag ts] (expires_at : key.Val → U64)
    (extend : key.Val → U64 → key.Val) :
    Writes ts (extend_record key expires_at extend now secs) := by
  unfold extend_record
  infer_instance

instance [Among .Health ts] [Among .Price ts] [Among .DevAlert ts] [Among .HealthRes ts] :
    Writes ts (extend_expiration caller asset_code secs) := by
  unfold extend_expiration
  infer_instance

instance (key : Key) [h : Among key.tag ts] (expires_at : key.Val → U64) (removed : U32) :
    Writes ts (remove_expired key expires_at now max_records removed) := by
  unfold remove_expired
  have : Among (Tagged.tag key) ts := h
  infer_instance

instance {α : Type} (load : Soroban (List α)) (store : List α → Soroban Unit)
    (expires_at : α → U64) (trimmed : U32) [Writes ts load] [∀ l, Writes ts (store l)] :
    Writes ts (trim_history load store expires_at now policy trimmed) := by
  unfold trim_history
  infer_instance

instance : Writes ts (load_price_history asset_code) := by
  unfold load_price_history
  infer_instance

instance [Among .Health ts] [Among .Price ts] [Among .DevAlert ts] [Among .HealthRes ts]
    [Among .PriceHist ts] : Writes ts (cleanup_asset now policy max_records counts asset_code) := by
  unfold cleanup_asset
  infer_instance

instance [Among .Mismatches ts] : Writes ts (cleanup_bridge now policy counts asset_code) := by
  unfold cleanup_bridge
  infer_instance

instance [Among .LiqDepth ts] [Among .LiqHist ts] :
    Writes ts (cleanup_pair now policy max_records counts asset_code) := by
  unfold cleanup_pair
  infer_instance

/-- What the expiry cleanup writes. -/
abbrev expiryTags : List Tag :=
  [.Health, .Price, .DevAlert, .HealthRes, .PriceHist, .Mismatches, .LiqDepth, .LiqHist,
    .CLEANUPSTATS]

instance [Within expiryTags ts] : Writes ts (cleanup_expired_data caller max_records) := by
  apply Writes.mono expiryTags
  unfold cleanup_expired_data
  infer_instance

end Footprints

end BridgeWatch.Contract

/-
Data of the monitoring contract, `contracts/soroban/src/lib.rs` with the modules
`acl.rs`, `source_trust.rs`, `emergency_multisig.rs` and `liquidity_pool.rs`.

The records are those of the source. `u32` and `u64` are Lean's own words, `i128`
is `BitVec 128` read as a signed number, `Vec` is a list, and a Soroban `String` is
its bytes. Arithmetic traps on overflow, as the workspace builds it.

The contract's storage is one store under one type of keys. The source spreads its
keys over several enumerations and string constants, and over instance and
persistent storage; no key occurs in both kinds of storage, so the kind is left
out. The keys that only dead code uses are left out as well, and so are the events,
which no function reads back.
-/
import Mathlib.Data.UInt
import BridgeWatch.Bytes
import BridgeWatch.Transaction

set_option autoImplicit false

namespace BridgeWatch.Contract

open Transaction

/-! ## Values of the host -/

abbrev U32 := UInt32

abbrev U64 := UInt64

abbrev I128 := BitVec 128

/-- A Soroban `String`: its bytes. -/
abbrev SString := Buffer

/-- `String::from_str(&env, s)` for a text of ASCII characters. -/
def str (s : String) : SString := s.toList.map fun c => c.toNat.toUInt8

/-- An account or a contract. -/
inductive Address where
  | account (key : BytesN 32)
  | contract (hash : BytesN 32)
  deriving DecidableEq

/-- What the contract takes from the host, the same in every call. -/
class Host where
  sha256 : Sha256
  /-- `env.crypto().ed25519_verify` does not trap. -/
  ed25519_verify : (publicKey : BytesN 32) → (message : Buffer) → (signature : BytesN 64) → Bool
  current_contract_address : Address

/-- What differs from call to call: the ledger time, and the addresses that have
authorised the call. -/
structure Env where
  timestamp : U64
  auth : Address → Bool

/-! ## Records of `lib.rs` -/

structure AssetHealth where
  asset_code : SString
  health_score : U32
  liquidity_score : U32
  price_stability_score : U32
  bridge_uptime_score : U32
  paused : Bool
  active : Bool
  timestamp : U64
  expires_at : U64
  deriving DecidableEq

structure HealthScoreBatch where
  asset_code : SString
  health_score : U32
  liquidity_score : U32
  price_stability_score : U32
  bridge_uptime_score : U32
  deriving DecidableEq

structure HealthWeights where
  liquidity_weight : U32
  price_stability_weight : U32
  bridge_uptime_weight : U32
  version : U32
  deriving DecidableEq

structure HealthScoreResult where
  composite_score : U32
  liquidity_score : U32
  price_stability_score : U32
  bridge_uptime_score : U32
  weights : HealthWeights
  timestamp : U64
  expires_at : U64
  deriving DecidableEq

structure RiskScoreConfig where
  health_weight_bps : U32
  price_weight_bps : U32
  volatility_weight_bps : U32
  max_price_deviation_bps : U32
  max_volatility_bps : U32
  version : U32
  deriving DecidableEq

structure PriceRecord where
  asset_code : SString
  price : I128
  source : SString
  timestamp : U64
  expires_at : U64
  deriving DecidableEq

inductive DeviationSeverity where
  | Low
  | Medium
  | High
  deriving DecidableEq

structure DeviationAlert where
  asset_code : SString
  current_price : I128
  average_price : I128
  deviation_bps : I128
  severity : DeviationSeverity
  timestamp : U64
  expires_at : U64
  deriving DecidableEq

structure DeviationThreshold where
  low_bps : I128
  medium_bps : I128
  high_bps : I128
  deriving DecidableEq

inductive ThresholdOverrideMode where
  | Temporary
  | Permanent
  deriving DecidableEq

structure DeviationThresholdOverride where
  threshold : DeviationThreshold
  mode : ThresholdOverrideMode
  /-- Zero for a permanent override. -/
  expires_at : U64
  updated_by : Address
  updated_at : U64
  deriving DecidableEq

structure MismatchThresholdOverride where
  threshold_bps : I128
  mode : ThresholdOverrideMode
  /-- Zero for a permanent override. -/
  expires_at : U64
  updated_by : Address
  updated_at : U64
  deriving DecidableEq

structure SupplyMismatch where
  bridge_id : SString
  asset_code : SString
  stellar_supply : I128
  source_chain_supply : I128
  mismatch_bps : I128
  is_critical : Bool
  timestamp : U64
  expires_at : U64
  deriving DecidableEq

structure LiquidityDepth where
  asset_pair : SString
  total_liquidity : I128
  depth_0_1_pct : I128
  depth_0_5_pct : I128
  depth_1_pct : I128
  depth_5_pct : I128
  sources : List SString
  timestamp : U64
  expires_at : U64
  deriving DecidableEq

structure ExpirationPolicy where
  asset_ttl_secs : U64
  price_ttl_secs : U64
  deviation_ttl_secs : U64
  mismatch_ttl_secs : U64
  liquidity_ttl_secs : U64
  preserve_latest_history : Bool
  version : U32
  deriving DecidableEq

structure CleanupStats where
  last_run_at : U64
  removed_records : U32
  trimmed_history_records : U32
  last_actor : Address
  deriving DecidableEq

inductive ExpirationKind where
  | Asset
  | Price
  | Deviation
  | Mismatch
  | Liquidity
  | HealthResult
  deriving DecidableEq

inductive AdminRole where
  | SuperAdmin
  | HealthSubmitter
  | PriceSubmitter
  | AssetManager
  deriving DecidableEq

structure RoleAssignment where
  address : Address
  role : AdminRole
  deriving DecidableEq

structure PauseRecord where
  paused : Bool
  reason : SString
  caller : Address
  timestamp : U64
  deriving DecidableEq

structure PendingAdminTransfer where
  proposed_admin : Address
  proposed_at : U64
  timeout_at : U64
  deriving DecidableEq

structure UpgradeProposal where
  proposal_id : U64
  proposer : Address
  new_wasm_hash : BytesN 32
  proposed_at : U64
  execute_after : U64
  required_approvals : U32
  approvals : List Address
  emergency : Bool
  migration_callback : Option Address
  migration_payload : Option Buffer
  is_rollback : Bool
  deriving DecidableEq

structure UpgradeExecutionRecord where
  proposal_id : U64
  executed_by : Address
  from_version : U32
  to_version : U32
  has_from_wasm_hash : Bool
  from_wasm_hash : BytesN 32
  to_wasm_hash : BytesN 32
  executed_at : U64
  emergency : Bool
  is_rollback : Bool
  has_migration_callback : Bool
  migration_callback : Address
  deriving DecidableEq

inductive CheckpointTrigger where
  | Automatic
  | Manual
  | Restore
  deriving DecidableEq

structure CheckpointConfig where
  interval_secs : U64
  max_checkpoints : U32
  format_version : U32
  deriving DecidableEq

structure CheckpointAssetState where
  asset_code : SString
  health : AssetHealth
  has_latest_price : Bool
  latest_price : PriceRecord
  has_health_result : Bool
  health_result : HealthScoreResult
  deriving DecidableEq

structure CheckpointSnapshot where
  checkpoint_id : U64
  format_version : U32
  created_at : U64
  trigger : CheckpointTrigger
  created_by : Address
  label : SString
  monitored_assets : List SString
  health_weights : HealthWeights
  risk_score_config : RiskScoreConfig
  assets : List CheckpointAssetState
  restored_from : Option U64
  deriving DecidableEq

structure CheckpointMetadata where
  checkpoint_id : U64
  format_version : U32
  created_at : U64
  trigger : CheckpointTrigger
  created_by : Address
  label : SString
  monitored_asset_count : U32
  asset_count : U32
  state_hash : BytesN 32
  restored_from : Option U64
  deriving DecidableEq

structure CheckpointAssetDiff where
  asset_code : SString
  health_changed : Bool
  price_changed : Bool
  health_result_changed : Bool
  deriving DecidableEq

structure CheckpointComparison where
  from_checkpoint_id : U64
  to_checkpoint_id : U64
  timestamp_delta : U64
  state_hash_changed : Bool
  weights_changed : Bool
  added_assets : List SString
  removed_assets : List SString
  changed_assets : List CheckpointAssetDiff
  deriving DecidableEq

structure CheckpointValidation where
  checkpoint_id : U64
  is_valid : Bool
  message : SString
  deriving DecidableEq

inductive RetentionDataType where
  | SupplyMismatches
  | LiquidityHistory
  | Checkpoints
  deriving DecidableEq

structure RetentionPolicy where
  data_type : RetentionDataType
  retention_secs : U64
  trigger_interval_secs : U64
  max_deletions_per_run : U32
  archive_before_delete : Bool
  enabled : Bool
  deriving DecidableEq

structure CleanupDataTypeResult where
  data_type : RetentionDataType
  deleted : U32
  archived : U32
  deriving DecidableEq

structure CleanupResult where
  executed_at : U64
  total_deleted : U32
  total_archived : U32
  details : List CleanupDataTypeResult
  deriving DecidableEq

structure Signer where
  public_key : BytesN 32
  active : Bool
  registered_at : U64
  deriving DecidableEq

structure SignerSignature where
  signer_id : SString
  signature : BytesN 64
  nonce : U64
  /-- Zero for a signature that does not expire. -/
  expiry : U64
  deriving DecidableEq

structure AssetLockState where
  asset_code : SString
  is_locked : Bool
  reason : SString
  locked_by : Address
  locked_at : U64
  unlocked_by : Option Address
  unlocked_at : Option U64
  deriving DecidableEq

structure AssetLockRecord where
  locked : Bool
  reason : SString
  caller : Address
  timestamp : U64
  deriving DecidableEq

inductive StatPeriod where
  | Hour
  | Day
  | Week
  | Month
  deriving DecidableEq

structure Statistics where
  period : StatPeriod
  timestamp : U64
  health_avg : U32
  liquidity_avg : U32
  price_volatility : U32
  bridge_uptime : U32
  deriving DecidableEq

inductive ConfigCategory where
  | Threshold
  | Timeouts
  | Limits
  deriving DecidableEq

structure ConfigValue where
  value : I128
  description : SString
  deriving DecidableEq

structure ConfigEntry where
  category : ConfigCategory
  name : SString
  value : ConfigValue
  version : U32
  updated_at : U64
  updated_by : Address
  deriving DecidableEq

structure ConfigAuditEntry where
  old_value : I128
  new_value : I128
  version : U32
  changed_at : U64
  changed_by : Address
  deriving DecidableEq

structure BulkConfigUpdate where
  category : ConfigCategory
  name : SString
  value : I128
  description : SString
  deriving DecidableEq

structure EventReplayEntry where
  event_id : U32
  event_type : SString
  actor : Address
  subject : SString
  value : I128
  timestamp : U64
  ordering_key : U64
  schema_version : U32
  deriving DecidableEq

structure HealthSource where
  source_id : SString
  weight_bps : U32
  trusted : Bool
  registered_at : U64
  deriving DecidableEq

structure SourcedHealthEntry where
  source_id : SString
  asset_code : SString
  health_score : U32
  liquidity_score : U32
  price_stability_score : U32
  bridge_uptime_score : U32
  submitted_at : U64
  deriving DecidableEq

inductive AdminActivityAction where
  | HealthSubmitted
  | PriceSubmitted
  | AssetRegistered
  | RoleGranted
  | RoleRevoked
  | ContractPaused
  | ContractUnpaused
  | ConfigUpdated
  | RecoveryEntered
  | RecoveryExited
  deriving DecidableEq

structure AdminActivityEntry where
  sequence : U32
  action : AdminActivityAction
  actor : Address
  detail : SString
  timestamp : U64
  deriving DecidableEq

structure RecoveryStep where
  description : SString
  completed : Bool
  recorded_at : U64
  actor : Address
  deriving DecidableEq

/-! ## Records of `acl.rs` -/

inductive Permission where
  | SubmitHealth
  | SubmitPrice
  | ManageAssets
  | ManageAlerts
  | ManageConfig
  | ViewAnalytics
  | ViewHealth
  | ViewPrice
  | ManagePermissions
  | EmergencyPause
  | ManageUpgrades
  deriving DecidableEq

inductive Role where
  | SuperAdmin
  | Admin
  | Operator
  | ReadOnly
  deriving DecidableEq

structure RoleGrant where
  grantee : Address
  role : Role
  granted_by : Address
  granted_at : U64
  /-- Zero for a grant that does not expire. -/
  expires_at : U64
  deriving DecidableEq

structure PermissionGrant where
  grantee : Address
  permission : Permission
  granted_by : Address
  granted_at : U64
  /-- Zero for a grant that does not expire. -/
  expires_at : U64
  deriving DecidableEq

structure BulkRoleEntry where
  grantee : Address
  role : Role
  expires_at : U64
  deriving DecidableEq

structure BulkPermissionEntry where
  grantee : Address
  permission : Permission
  expires_at : U64
  deriving DecidableEq

/-! ## Records of `source_trust.rs` and `emergency_multisig.rs` -/

structure TrustedSource where
  source_address : Address
  name : SString
  registered_by : Address
  registered_at : U64
  is_active : Bool
  revoked_by : Option Address
  revoked_at : Option U64
  deriving DecidableEq

structure SourceInfo where
  source_address : Address
  name : SString
  is_active : Bool
  registered_at : U64
  deriving DecidableEq

inductive EmergencyAction where
  | Pause
  | Unpause
  | SetMismatchThreshold (threshold_bps : I128)
  | EmergencyBlacklistBridge (bridge_id : SString)
  | EmergencyDelistOracleNode (node : Address)
  deriving DecidableEq

structure OperatorSignature where
  operator : BytesN 32
  signature : BytesN 64
  deriving DecidableEq

structure MultisigConfig where
  operators : List (BytesN 32)
  threshold : U32
  deriving DecidableEq

structure MultisigActionLog where
  nonce : U64
  action : EmergencyAction
  approvers : List (BytesN 32)
  timestamp : U64
  deriving DecidableEq

/-! ## Records of `liquidity_pool.rs` -/

inductive PoolType where
  | Sdex
  | Amm
  deriving DecidableEq

structure PoolSnapshot where
  pool_id : SString
  reserve_a : I128
  reserve_b : I128
  total_shares : I128
  price : I128
  volume : I128
  fees_collected : I128
  pool_type : PoolType
  timestamp : U64
  deriving DecidableEq

structure DailyBucket where
  day_timestamp : U64
  open_price : I128
  high_price : I128
  low_price : I128
  close_price : I128
  total_volume : I128
  total_fees : I128
  avg_reserve_a : I128
  avg_reserve_b : I128
  snapshot_count : U32
  deriving DecidableEq

structure RingBufferMeta where
  head : U32
  count : U32
  capacity : U32
  deriving DecidableEq

structure DailyRingMeta where
  head : U32
  count : U32
  capacity : U32
  deriving DecidableEq

structure PriceObservation where
  timestamp : U64
  price_cumulative : I128
  deriving DecidableEq

structure PriceAccumulator where
  head : U32
  count : U32
  capacity : U32
  last_price : I128
  last_timestamp : U64
  price_cumulative : I128
  deriving DecidableEq

structure TwapResult where
  pool_id : SString
  twap : I128
  spot_price : I128
  deviation_bps : I128
  window_secs : U64
  manipulation_suspected : Bool
  deriving DecidableEq

end BridgeWatch.Contract

/-
The monitoring contract's storage and the words its functions are written in.

A function of the contract is a transaction over the store of `Key`. This file has
the keys with the types of their records, the footprints by family of keys, and the
arithmetic and byte encodings that the functions share.
-/
import BridgeWatch.ContractTypes

set_option autoImplicit false

namespace BridgeWatch.Contract

open Transaction

-- By name, since every test for membership in a list of strings rests on it.
scoped instance lawful_beq_string : LawfulBEq SString := inferInstance

/-! ## Keys -/

/-- The storage keys. -/
inductive Key where
  -- `AssetDataKey`
  | Health (asset_code : SString)
  | Price (asset_code : SString)
  | PriceHist (asset_code : SString)
  | Stats (asset_code : SString)
  | ExpTtl (asset_code : SString)
  | HealthRes (asset_code : SString)
  | DevAlert (asset_code : SString)
  | DevThresh (asset_code : SString)
  | DevThreshOvr (asset_code : SString)
  | MmThreshOvr (asset_code : SString)
  | LiqDepth (asset_pair : SString)
  | LiqHist (asset_pair : SString)
  | ArchLiqHist (asset_pair : SString)
  | Lock (asset_code : SString)
  | LockHist (asset_code : SString)
  -- `BridgeDataKey`
  | Mismatches (bridge_id : SString)
  | ArchMismatches (bridge_id : SString)
  -- `ConfigDataKey`
  | Signer (signer_id : SString)
  | SignerNonce (signer_id : SString)
  | SigCache (payload_hash : BytesN 32)
  | RoleKey (address : Address)
  | ChkpntSnap (checkpoint_id : U64)
  | ArchChkpntSnap (checkpoint_id : U64)
  | RetPolicy (data_type : RetentionDataType)
  | LastCleanup (data_type : RetentionDataType)
  | Entry (category : ConfigCategory) (name : SString)
  | RetOvr (asset_code : SString) (data_type : RetentionDataType)
  | AuditLog (category : ConfigCategory) (name : SString)
  -- `DataKey`
  | ConfigKeys
  -- the constants of `keys`
  | ADMIN
  | MONITORED_ASSETS
  | MISMATCH_THRESHOLD
  | BRIDGE_IDS
  | ROLES_LIST
  | SIGNER_LIST
  | SIGNATURE_THRESHOLD
  | LIQUIDITY_PAIRS
  | HEALTH_WEIGHTS
  | RISK_SCORE_CONFIG
  | CHECKPOINT_CONFIG
  | CHECKPOINT_COUNTER
  | CHECKPOINT_METADATA_LIST
  | LAST_CHECKPOINT_AT
  | LAST_CHECKPOINT_ID
  | ARCHIVED_CHECKPOINT_META
  | GLOBAL_PAUSED
  | PAUSE_GUARDIAN
  | PAUSE_REASON
  | PAUSED_AT
  | UNPAUSE_AVAILABLE_AT
  | PAUSE_HISTORY
  | EMERGENCY_CONTACT
  | BRIDGE_BLACKLIST
  | PENDING_TRANSFER
  | PENDING_UPGRADE
  | UPGRADE_PROPOSAL_COUNTER
  | UPGRADE_HISTORY
  | CONTRACT_VERSION
  | CURRENT_CONTRACT_WASM_HASH
  | ROLLBACK_TARGET_HASH
  | CONFIG_KEYS
  | EXPIRATIONPOLICY
  | CLEANUPSTATS
  | RECOVERY_MODE
  | RECOVERY_STEPS
  | RECOVERY_REASON
  | RECOVERY_ENTERED_AT
  | RECOVERY_ENTERED_BY
  | ADMIN_ACTIVITY_LOG
  | ADMIN_ACTIVITY_CTR
  | HEALTH_SOURCES
  | EVENT_REPLAY_LOG
  | EVENT_REPLAY_CTR
  | EMERGENCY_MULTISIG_CONFIG
  | EMERGENCY_MULTISIG_NONCE
  | EMERGENCY_MULTISIG_LOG
  -- `HealthSourceDataKey::Entry`
  | HealthSourceEntry (source_id asset_code : SString)
  -- `SourceTrustKey`
  | Source (address : Address)
  | AllSources
  -- `AclKey`
  | RoleGrants
  | PermissionGrants
  -- `LiquidityKey`
  | PoolRingMeta (pool_id : SString)
  | PoolSnapshot (pool_id : SString) (index : U32)
  | DailyRingMeta (pool_id : SString)
  | DailyBucket (pool_id : SString) (index : U32)
  | RegisteredPools
  | PriceAccumulator (pool_id : SString)
  | PriceObservation (pool_id : SString) (index : U32)
  deriving DecidableEq

/-- The type of the record under a key. -/
@[reducible] def Key.Val : Key → Type
  | .Health _ => AssetHealth
  | .Price _ => PriceRecord
  | .PriceHist _ => List PriceRecord
  | .Stats _ => List Statistics
  | .ExpTtl _ => U64
  | .HealthRes _ => HealthScoreResult
  | .DevAlert _ => DeviationAlert
  | .DevThresh _ => DeviationThreshold
  | .DevThreshOvr _ => DeviationThresholdOverride
  | .MmThreshOvr _ => MismatchThresholdOverride
  | .LiqDepth _ => LiquidityDepth
  | .LiqHist _ => List LiquidityDepth
  | .ArchLiqHist _ => List LiquidityDepth
  | .Lock _ => AssetLockState
  | .LockHist _ => List AssetLockRecord
  | .Mismatches _ => List SupplyMismatch
  | .ArchMismatches _ => List SupplyMismatch
  | .Signer _ => Contract.Signer
  | .SignerNonce _ => U64
  | .SigCache _ => Bool
  | .RoleKey _ => List AdminRole
  | .ChkpntSnap _ => CheckpointSnapshot
  | .ArchChkpntSnap _ => CheckpointSnapshot
  | .RetPolicy _ => RetentionPolicy
  | .LastCleanup _ => U64
  | .Entry _ _ => ConfigEntry
  | .RetOvr _ _ => U64
  | .AuditLog _ _ => List ConfigAuditEntry
  | .ConfigKeys => List (ConfigCategory × SString)
  | .ADMIN => Address
  | .MONITORED_ASSETS => List SString
  | .MISMATCH_THRESHOLD => I128
  | .BRIDGE_IDS => List SString
  | .ROLES_LIST => List RoleAssignment
  | .SIGNER_LIST => List SString
  | .SIGNATURE_THRESHOLD => U32
  | .LIQUIDITY_PAIRS => List SString
  | .HEALTH_WEIGHTS => HealthWeights
  | .RISK_SCORE_CONFIG => RiskScoreConfig
  | .CHECKPOINT_CONFIG => CheckpointConfig
  | .CHECKPOINT_COUNTER => U64
  | .CHECKPOINT_METADATA_LIST => List CheckpointMetadata
  | .LAST_CHECKPOINT_AT => U64
  | .LAST_CHECKPOINT_ID => U64
  | .ARCHIVED_CHECKPOINT_META => List CheckpointMetadata
  | .GLOBAL_PAUSED => Bool
  | .PAUSE_GUARDIAN => Address
  | .PAUSE_REASON => SString
  | .PAUSED_AT => U64
  | .UNPAUSE_AVAILABLE_AT => U64
  | .PAUSE_HISTORY => List PauseRecord
  | .EMERGENCY_CONTACT => SString
  | .BRIDGE_BLACKLIST => List SString
  | .PENDING_TRANSFER => PendingAdminTransfer
  | .PENDING_UPGRADE => UpgradeProposal
  | .UPGRADE_PROPOSAL_COUNTER => U64
  | .UPGRADE_HISTORY => List UpgradeExecutionRecord
  | .CONTRACT_VERSION => U32
  | .CURRENT_CONTRACT_WASM_HASH => BytesN 32
  | .ROLLBACK_TARGET_HASH => BytesN 32
  | .CONFIG_KEYS => List (ConfigCategory × SString)
  | .EXPIRATIONPOLICY => ExpirationPolicy
  | .CLEANUPSTATS => CleanupStats
  | .RECOVERY_MODE => Bool
  | .RECOVERY_STEPS => List RecoveryStep
  | .RECOVERY_REASON => SString
  | .RECOVERY_ENTERED_AT => U64
  | .RECOVERY_ENTERED_BY => Address
  | .ADMIN_ACTIVITY_LOG => List AdminActivityEntry
  | .ADMIN_ACTIVITY_CTR => U32
  | .HEALTH_SOURCES => List HealthSource
  | .EVENT_REPLAY_LOG => List EventReplayEntry
  | .EVENT_REPLAY_CTR => U32
  | .EMERGENCY_MULTISIG_CONFIG => MultisigConfig
  | .EMERGENCY_MULTISIG_NONCE => U64
  | .EMERGENCY_MULTISIG_LOG => List MultisigActionLog
  | .HealthSourceEntry _ _ => SourcedHealthEntry
  | .Source _ => TrustedSource
  | .AllSources => List Address
  | .RoleGrants => List RoleGrant
  | .PermissionGrants => List PermissionGrant
  | .PoolRingMeta _ => RingBufferMeta
  | .PoolSnapshot _ _ => Contract.PoolSnapshot
  | .DailyRingMeta _ => Contract.DailyRingMeta
  | .DailyBucket _ _ => Contract.DailyBucket
  | .RegisteredPools => List SString
  | .PriceAccumulator _ => Contract.PriceAccumulator
  | .PriceObservation _ _ => Contract.PriceObservation

/-- The families of keys: the keys, without what they are applied to. -/
inductive Tag where
  | Health | Price | PriceHist | Stats | ExpTtl | HealthRes | DevAlert | DevThresh | DevThreshOvr
  | MmThreshOvr | LiqDepth | LiqHist | ArchLiqHist | Lock | LockHist | Mismatches
  | ArchMismatches | Signer | SignerNonce | SigCache | RoleKey | ChkpntSnap | ArchChkpntSnap
  | RetPolicy | LastCleanup | Entry | RetOvr | AuditLog | ConfigKeys | ADMIN | MONITORED_ASSETS
  | MISMATCH_THRESHOLD | BRIDGE_IDS | ROLES_LIST | SIGNER_LIST | SIGNATURE_THRESHOLD
  | LIQUIDITY_PAIRS | HEALTH_WEIGHTS | RISK_SCORE_CONFIG | CHECKPOINT_CONFIG | CHECKPOINT_COUNTER
  | CHECKPOINT_METADATA_LIST | LAST_CHECKPOINT_AT | LAST_CHECKPOINT_ID | ARCHIVED_CHECKPOINT_META
  | GLOBAL_PAUSED | PAUSE_GUARDIAN | PAUSE_REASON | PAUSED_AT | UNPAUSE_AVAILABLE_AT
  | PAUSE_HISTORY | EMERGENCY_CONTACT | BRIDGE_BLACKLIST | PENDING_TRANSFER | PENDING_UPGRADE
  | UPGRADE_PROPOSAL_COUNTER | UPGRADE_HISTORY | CONTRACT_VERSION | CURRENT_CONTRACT_WASM_HASH
  | ROLLBACK_TARGET_HASH | CONFIG_KEYS | EXPIRATIONPOLICY | CLEANUPSTATS | RECOVERY_MODE
  | RECOVERY_STEPS | RECOVERY_REASON | RECOVERY_ENTERED_AT | RECOVERY_ENTERED_BY
  | ADMIN_ACTIVITY_LOG | ADMIN_ACTIVITY_CTR | HEALTH_SOURCES | EVENT_REPLAY_LOG
  | EVENT_REPLAY_CTR | EMERGENCY_MULTISIG_CONFIG | EMERGENCY_MULTISIG_NONCE
  | EMERGENCY_MULTISIG_LOG | HealthSourceEntry | Source | AllSources | RoleGrants
  | PermissionGrants | PoolRingMeta | PoolSnapshot | DailyRingMeta | DailyBucket
  | RegisteredPools | PriceAccumulator | PriceObservation
  deriving DecidableEq

/-- The family of a key. -/
@[reducible] def Key.tag : Key → Tag
  | .Health _ => .Health
  | .Price _ => .Price
  | .PriceHist _ => .PriceHist
  | .Stats _ => .Stats
  | .ExpTtl _ => .ExpTtl
  | .HealthRes _ => .HealthRes
  | .DevAlert _ => .DevAlert
  | .DevThresh _ => .DevThresh
  | .DevThreshOvr _ => .DevThreshOvr
  | .MmThreshOvr _ => .MmThreshOvr
  | .LiqDepth _ => .LiqDepth
  | .LiqHist _ => .LiqHist
  | .ArchLiqHist _ => .ArchLiqHist
  | .Lock _ => .Lock
  | .LockHist _ => .LockHist
  | .Mismatches _ => .Mismatches
  | .ArchMismatches _ => .ArchMismatches
  | .Signer _ => .Signer
  | .SignerNonce _ => .SignerNonce
  | .SigCache _ => .SigCache
  | .RoleKey _ => .RoleKey
  | .ChkpntSnap _ => .ChkpntSnap
  | .ArchChkpntSnap _ => .ArchChkpntSnap
  | .RetPolicy _ => .RetPolicy
  | .LastCleanup _ => .LastCleanup
  | .Entry _ _ => .Entry
  | .RetOvr _ _ => .RetOvr
  | .AuditLog _ _ => .AuditLog
  | .ConfigKeys => .ConfigKeys
  | .ADMIN => .ADMIN
  | .MONITORED_ASSETS => .MONITORED_ASSETS
  | .MISMATCH_THRESHOLD => .MISMATCH_THRESHOLD
  | .BRIDGE_IDS => .BRIDGE_IDS
  | .ROLES_LIST => .ROLES_LIST
  | .SIGNER_LIST => .SIGNER_LIST
  | .SIGNATURE_THRESHOLD => .SIGNATURE_THRESHOLD
  | .LIQUIDITY_PAIRS => .LIQUIDITY_PAIRS
  | .HEALTH_WEIGHTS => .HEALTH_WEIGHTS
  | .RISK_SCORE_CONFIG => .RISK_SCORE_CONFIG
  | .CHECKPOINT_CONFIG => .CHECKPOINT_CONFIG
  | .CHECKPOINT_COUNTER => .CHECKPOINT_COUNTER
  | .CHECKPOINT_METADATA_LIST => .CHECKPOINT_METADATA_LIST
  | .LAST_CHECKPOINT_AT => .LAST_CHECKPOINT_AT
  | .LAST_CHECKPOINT_ID => .LAST_CHECKPOINT_ID
  | .ARCHIVED_CHECKPOINT_META => .ARCHIVED_CHECKPOINT_META
  | .GLOBAL_PAUSED => .GLOBAL_PAUSED
  | .PAUSE_GUARDIAN => .PAUSE_GUARDIAN
  | .PAUSE_REASON => .PAUSE_REASON
  | .PAUSED_AT => .PAUSED_AT
  | .UNPAUSE_AVAILABLE_AT => .UNPAUSE_AVAILABLE_AT
  | .PAUSE_HISTORY => .PAUSE_HISTORY
  | .EMERGENCY_CONTACT => .EMERGENCY_CONTACT
  | .BRIDGE_BLACKLIST => .BRIDGE_BLACKLIST
  | .PENDING_TRANSFER => .PENDING_TRANSFER
  | .PENDING_UPGRADE => .PENDING_UPGRADE
  | .UPGRADE_PROPOSAL_COUNTER => .UPGRADE_PROPOSAL_COUNTER
  | .UPGRADE_HISTORY => .UPGRADE_HISTORY
  | .CONTRACT_VERSION => .CONTRACT_VERSION
  | .CURRENT_CONTRACT_WASM_HASH => .CURRENT_CONTRACT_WASM_HASH
  | .ROLLBACK_TARGET_HASH => .ROLLBACK_TARGET_HASH
  | .CONFIG_KEYS => .CONFIG_KEYS
  | .EXPIRATIONPOLICY => .EXPIRATIONPOLICY
  | .CLEANUPSTATS => .CLEANUPSTATS
  | .RECOVERY_MODE => .RECOVERY_MODE
  | .RECOVERY_STEPS => .RECOVERY_STEPS
  | .RECOVERY_REASON => .RECOVERY_REASON
  | .RECOVERY_ENTERED_AT => .RECOVERY_ENTERED_AT
  | .RECOVERY_ENTERED_BY => .RECOVERY_ENTERED_BY
  | .ADMIN_ACTIVITY_LOG => .ADMIN_ACTIVITY_LOG
  | .ADMIN_ACTIVITY_CTR => .ADMIN_ACTIVITY_CTR
  | .HEALTH_SOURCES => .HEALTH_SOURCES
  | .EVENT_REPLAY_LOG => .EVENT_REPLAY_LOG
  | .EVENT_REPLAY_CTR => .EVENT_REPLAY_CTR
  | .EMERGENCY_MULTISIG_CONFIG => .EMERGENCY_MULTISIG_CONFIG
  | .EMERGENCY_MULTISIG_NONCE => .EMERGENCY_MULTISIG_NONCE
  | .EMERGENCY_MULTISIG_LOG => .EMERGENCY_MULTISIG_LOG
  | .HealthSourceEntry _ _ => .HealthSourceEntry
  | .Source _ => .Source
  | .AllSources => .AllSources
  | .RoleGrants => .RoleGrants
  | .PermissionGrants => .PermissionGrants
  | .PoolRingMeta _ => .PoolRingMeta
  | .PoolSnapshot _ _ => .PoolSnapshot
  | .DailyRingMeta _ => .DailyRingMeta
  | .DailyBucket _ _ => .DailyBucket
  | .RegisteredPools => .RegisteredPools
  | .PriceAccumulator _ => .PriceAccumulator
  | .PriceObservation _ _ => .PriceObservation

instance : Tagged Key Tag := ⟨Key.tag⟩

/-- The contract's storage. -/
abbrev Storage := Store Key Key.Val

/-- A call of a function of the contract. -/
abbrev Soroban (α : Type) := Tx Env Key Key.Val α

/-! ## The host -/

/-- `env.storage().persistent().get(&key)`, and the same on instance storage. -/
abbrev get (key : Key) : Soroban (Option key.Val) := load key

/-- `env.storage().persistent().set(&key, &value)`, and the same on instance storage. -/
abbrev set (key : Key) (value : key.Val) : Soroban Unit := save key value

/-- `env.storage().persistent().remove(&key)`, and the same on instance storage. -/
abbrev remove (key : Key) : Soroban Unit := Transaction.remove key

instance {ts : List Tag} (key : Key) (value : key.Val) [h : Among key.tag ts] :
    Writes ts (set key value) :=
  have : Among (Tagged.tag key) ts := h
  inferInstance

/-- `env.ledger().timestamp()`. -/
abbrev timestamp : Soroban U64 := reads Env.timestamp

/-- `address.require_auth()`. -/
abbrev require_auth (address : Address) : Soroban Unit := do
  let authorized ← reads (Env.auth · address)
  panic_if (authorized = false) "Error(Auth, InvalidAction)"

/-- `option.unwrap()`. -/
abbrev unwrap {α : Type} (o : Option α) : Soroban α :=
  expect o "called `Option::unwrap()` on a `None` value"

/-! ## Arithmetic -/

/-- `x + y` on `u32`. -/
def add_u32 (x y : U32) : Soroban U32 := do
  panic_if (2 ^ 32 ≤ x.toNat + y.toNat) "attempt to add with overflow"
  return x + y

/-- `x + y` on `u64`. -/
def add_u64 (x y : U64) : Soroban U64 := do
  panic_if (2 ^ 64 ≤ x.toNat + y.toNat) "attempt to add with overflow"
  return x + y

/-- `x - y` on `u32`. -/
def sub_u32 (x y : U32) : Soroban U32 := do
  panic_if (x < y) "attempt to subtract with overflow"
  return x - y

/-- `x % y` on `u32`. -/
def rem_u32 (x y : U32) : Soroban U32 := do
  panic_if (y = 0) "attempt to calculate the remainder with a divisor of zero"
  return x % y

/-- `x - y` on `u64`. -/
def sub_u64 (x y : U64) : Soroban U64 := do
  panic_if (x < y) "attempt to subtract with overflow"
  return x - y

/-- `x.saturating_add(y)` on `u32`. -/
def saturating_add_u32 (x y : U32) : U32 :=
  if x.toNat + y.toNat < 2 ^ 32 then x + y else UInt32.ofNat (2 ^ 32 - 1)

/-- `x.saturating_add(y)` on `u64`. -/
def saturating_add_u64 (x y : U64) : U64 :=
  if x.toNat + y.toNat < 2 ^ 64 then x + y else UInt64.ofNat (2 ^ 64 - 1)

/-- `x.saturating_sub(y)` on `u32`. -/
def saturating_sub_u32 (x y : U32) : U32 := if x < y then 0 else x - y

/-- `x.saturating_sub(y)` on `u64`. -/
def saturating_sub_u64 (x y : U64) : U64 := if x < y then 0 else x - y

/-- A result of `i128` arithmetic, with the overflow check. -/
def checked_i128 (x : ℤ) (msg : String) : Soroban I128 := do
  panic_if (x < -2 ^ 127 ∨ 2 ^ 127 ≤ x) msg
  return BitVec.ofInt 128 x

abbrev add_i128 (x y : I128) : Soroban I128 :=
  checked_i128 (x.toInt + y.toInt) "attempt to add with overflow"

abbrev sub_i128 (x y : I128) : Soroban I128 :=
  checked_i128 (x.toInt - y.toInt) "attempt to subtract with overflow"

/-- `(x - y).abs()` on `i128`. -/
abbrev abs_diff_i128 (x y : I128) : Soroban I128 := do
  let diff ← sub_i128 x y
  checked_i128 |diff.toInt| "attempt to negate with overflow"

abbrev mul_i128 (x y : I128) : Soroban I128 :=
  checked_i128 (x.toInt * y.toInt) "attempt to multiply with overflow"

/-- `x / y` on `i128`, rounded towards zero. -/
abbrev div_i128 (x y : I128) : Soroban I128 := do
  panic_if (y = 0) "attempt to divide by zero"
  checked_i128 (x.toInt.tdiv y.toInt) "attempt to divide with overflow"

/-- The value as an `i128`. -/
def U32.as_i128 (x : U32) : I128 := BitVec.ofNat 128 x.toNat

/-- The value as an `i128`. -/
def U64.as_i128 (x : U64) : I128 := BitVec.ofNat 128 x.toNat

/-- `x as u64`: the low 64 bits. -/
def I128.as_u64 (x : I128) : U64 := UInt64.ofNat x.toNat

/-- `x as u32`: the low 32 bits. -/
def I128.as_u32 (x : I128) : U32 := UInt32.ofNat x.toNat

/-- `values.len()`. -/
def len {α : Type} (values : List α) : U32 := UInt32.ofNat values.length

theorem toNat_saturating_sub (x y : U64) : (saturating_sub_u64 x y).toNat = x.toNat - y.toNat := by
  unfold saturating_sub_u64
  by_cases h : x < y
  · rw [if_pos h, UInt64.toNat_zero]
    rw [UInt64.lt_iff_toNat_lt] at h
    omega
  · rw [if_neg h, UInt64.toNat_sub_of_le _ _ (UInt64.not_lt.mp h)]

section Inversion

variable {env : Env} {s s' : Storage}

@[simp] theorem add_u32_eq_ok {x y z : U32} :
    add_u32 x y env s = .ok (z, s') ↔ x.toNat + y.toNat < 2 ^ 32 ∧ z = x + y ∧ s' = s := by
  simp only [add_u32, bind_eq_ok, panic_if_eq_ok, pure_eq_ok, not_le, and_assoc, exists_and_left,
    exists_eq_left, exists_const]

@[simp] theorem add_u64_eq_ok {x y z : U64} :
    add_u64 x y env s = .ok (z, s') ↔ x.toNat + y.toNat < 2 ^ 64 ∧ z = x + y ∧ s' = s := by
  simp only [add_u64, bind_eq_ok, panic_if_eq_ok, pure_eq_ok, not_le, and_assoc, exists_and_left,
    exists_eq_left, exists_const]

theorem sub_u32_eq_ok {x y z : U32} :
    sub_u32 x y env s = .ok (z, s') ↔ ¬x < y ∧ z = x - y ∧ s' = s := by
  simp only [sub_u32, bind_eq_ok, panic_if_eq_ok, pure_eq_ok, and_assoc, exists_and_left,
    exists_eq_left, exists_const]

theorem rem_u32_eq_ok {x y z : U32} :
    rem_u32 x y env s = .ok (z, s') ↔ y ≠ 0 ∧ z = x % y ∧ s' = s := by
  simp only [rem_u32, bind_eq_ok, panic_if_eq_ok, pure_eq_ok, and_assoc, exists_and_left,
    exists_eq_left, exists_const, ne_eq]

theorem sub_u64_eq_ok {x y z : U64} :
    sub_u64 x y env s = .ok (z, s') ↔ ¬x < y ∧ z = x - y ∧ s' = s := by
  simp only [sub_u64, bind_eq_ok, panic_if_eq_ok, pure_eq_ok, and_assoc, exists_and_left,
    exists_eq_left, exists_const]

/-- Checked arithmetic that returns is exact. -/
theorem checked_i128_eq_ok {x : ℤ} {msg : String} {y : I128} :
    checked_i128 x msg env s = .ok (y, s') ↔ y.toInt = x ∧ s' = s := by
  simp only [checked_i128, bind_eq_ok, panic_if_eq_ok, pure_eq_ok, and_assoc, exists_and_left,
    exists_eq_left, exists_const, not_or, not_lt, not_le]
  constructor
  · rintro ⟨hle, hlt, rfl, rfl⟩
    refine ⟨?_, rfl⟩
    rw [BitVec.toInt_ofInt, Int.bmod_eq_of_le (by omega) (by omega)]
  · rintro ⟨rfl, rfl⟩
    have hle := BitVec.le_toInt y
    have hlt := BitVec.toInt_lt (x := y)
    exact ⟨by omega, by omega, BitVec.ofInt_toInt.symm, rfl⟩

end Inversion

section Footprints

variable {ts : List Tag}

instance (x y : U32) : Writes ts (add_u32 x y) := by
  unfold add_u32
  infer_instance

instance (x y : U64) : Writes ts (add_u64 x y) := by
  unfold add_u64
  infer_instance

instance (x y : U32) : Writes ts (sub_u32 x y) := by
  unfold sub_u32
  infer_instance

instance (x y : U32) : Writes ts (rem_u32 x y) := by
  unfold rem_u32
  infer_instance

instance (x y : U64) : Writes ts (sub_u64 x y) := by
  unfold sub_u64
  infer_instance

instance (x : ℤ) (msg : String) : Writes ts (checked_i128 x msg) := by
  unfold checked_i128
  infer_instance

end Footprints

/-! ## Bytes -/

/-- The `len` bytes of a number, the highest first. -/
def be : (len n : ℕ) → Buffer
  | 0, _ => []
  | len + 1, n => be len (n / 256) ++ [n.toUInt8]

def append_u32 (buf : Buffer) (value : U32) : Buffer := buf ++ be 4 value.toNat

def append_u64 (buf : Buffer) (value : U64) : Buffer := buf ++ be 8 value.toNat

def append_i128 (buf : Buffer) (value : I128) : Buffer := buf ++ be 16 value.toNat

def append_bytesn {n : ℕ} (buf : Buffer) (value : BytesN n) : Buffer := buf ++ value.toList

def append_bool (buf : Buffer) (value : Bool) : Buffer := buf ++ [if value then 1 else 0]

/-- The bytes of a string. The buffer holds 256 bytes; `copy_into_slice` traps when
the string is longer. -/
def str_to_bytes_inner (s : SString) : Except String Buffer :=
  if s.length ≤ 256 then .ok s else .error "Error(Object, IndexBounds)"

/-- `append_string`: the length, then the bytes. -/
def append_string (buf : Buffer) (value : SString) : Except String Buffer := do
  let raw ← str_to_bytes_inner value
  return append_u32 buf (len raw) ++ raw

@[simp] theorem str_to_bytes_inner_eq_ok {text : SString} {bytes : Buffer} :
    str_to_bytes_inner text = .ok bytes ↔ text.length ≤ 256 ∧ bytes = text := by
  unfold str_to_bytes_inner
  by_cases h : text.length ≤ 256
  · simp [h, eq_comm]
  · simp [h]

end BridgeWatch.Contract

/-
Checkpoints and retention: `persist_checkpoint` with what it calls, the cleanups
that retention policies ask for, and the entry points on both.

Every write that ends in `maybe_create_auto_checkpoint` comes through this file, and
every checkpoint ends in `maybe_trigger_auto_cleanup`, which may delete older
checkpoints again.
-/
import BridgeWatch.ContractAccess

set_option autoImplicit false
-- The instance of a footprint is as long as its function.
set_option synthInstance.maxSize 2048

namespace BridgeWatch.Contract

open Transaction

variable {ts : List Tag}

/-! ## Defaults -/

def default_checkpoint_config : CheckpointConfig :=
  { interval_secs := 86400, max_checkpoints := 25, format_version := 1 }

def default_health_weights : HealthWeights :=
  { liquidity_weight := 30, price_stability_weight := 40, bridge_uptime_weight := 30, version := 1 }

def default_risk_score_config : RiskScoreConfig :=
  { health_weight_bps := 5000
    price_weight_bps := 2500
    volatility_weight_bps := 2500
    max_price_deviation_bps := 2000
    max_volatility_bps := 5000
    version := 1 }

def default_retention_policy (data_type : RetentionDataType) : RetentionPolicy :=
  { data_type
    retention_secs :=
      match data_type with
      | .SupplyMismatches => 30 * 24 * 60 * 60
      | .LiquidityHistory => 30 * 24 * 60 * 60
      | .Checkpoints => 90 * 24 * 60 * 60
    trigger_interval_secs := 3600
    max_deletions_per_run := 50
    archive_before_delete := false
    enabled := true }

/-! ## Readers -/

def load_checkpoint_config : Soroban CheckpointConfig := do
  let config ← get .CHECKPOINT_CONFIG
  return config.getD default_checkpoint_config

def load_checkpoint_metadata : Soroban (List CheckpointMetadata) := do
  let metadata ← get .CHECKPOINT_METADATA_LIST
  return metadata.getD []

def load_checkpoint_metadata_by_id (checkpoint_id : U64) : Soroban CheckpointMetadata := do
  let metadata ← load_checkpoint_metadata
  expect (metadata.find? fun item => item.checkpoint_id = checkpoint_id)
    "checkpoint metadata not found"

def load_registered_assets_raw : Soroban (List SString) := do
  let assets ← get .MONITORED_ASSETS
  return assets.getD []

def load_asset_health (asset_code : SString) : Soroban AssetHealth := do
  let health ← get (.Health asset_code)
  expect health "asset is not registered"

def load_health_weights : Soroban HealthWeights := do
  let weights ← get .HEALTH_WEIGHTS
  return weights.getD default_health_weights

def load_risk_score_config : Soroban RiskScoreConfig := do
  let config ← get .RISK_SCORE_CONFIG
  return config.getD default_risk_score_config

def load_retention_policy (data_type : RetentionDataType) : Soroban RetentionPolicy := do
  let policy ← get (.RetPolicy data_type)
  return policy.getD (default_retention_policy data_type)

def get_checkpoint_or_panic (checkpoint_id : U64) : Soroban CheckpointSnapshot := do
  let snapshot ← get (.ChkpntSnap checkpoint_id)
  expect snapshot "checkpoint not found"

/-- `asset_code` is always `Some`. -/
def resolve_retention_secs (data_type : RetentionDataType) (asset_code : SString)
    (default_retention_secs : U64) : Soroban U64 := do
  let secs ← get (.RetOvr asset_code data_type)
  return secs.getD default_retention_secs

instance : Writes ts load_checkpoint_config := by
  unfold load_checkpoint_config
  infer_instance

instance : Writes ts load_checkpoint_metadata := by
  unfold load_checkpoint_metadata
  infer_instance

instance : Writes ts load_registered_assets_raw := by
  unfold load_registered_assets_raw
  infer_instance

instance (asset_code : SString) : Writes ts (load_asset_health asset_code) := by
  unfold load_asset_health
  infer_instance

instance : Writes ts load_health_weights := by
  unfold load_health_weights
  infer_instance

instance : Writes ts load_risk_score_config := by
  unfold load_risk_score_config
  infer_instance

instance (data_type : RetentionDataType) : Writes ts (load_retention_policy data_type) := by
  unfold load_retention_policy
  infer_instance

instance (checkpoint_id : U64) : Writes ts (get_checkpoint_or_panic checkpoint_id) := by
  unfold get_checkpoint_or_panic
  infer_instance

instance (data_type : RetentionDataType) (asset_code : SString) (secs : U64) :
    Writes ts (resolve_retention_secs data_type asset_code secs) := by
  unfold resolve_retention_secs
  infer_instance

/-! ## Time -/

def is_expired (now timestamp retention_secs : U64) : Bool :=
  retention_secs < saturating_sub_u64 now timestamp

def is_past (now expires_at : U64) : Bool := expires_at < now

/-- `last != 0 && now < last + interval_secs`. -/
def within_interval (now last interval_secs : U64) : Soroban Bool :=
  if last = 0 then
    return false
  else do
    let next ← add_u64 last interval_secs
    return now < next

instance (now last interval_secs : U64) : Writes ts (within_interval now last interval_secs) := by
  unfold within_interval
  infer_instance

def load_expiration_policy : Soroban ExpirationPolicy := do
  let policy ← get .EXPIRATIONPOLICY
  return policy.getD
    { asset_ttl_secs := 86400
      price_ttl_secs := 3600
      deviation_ttl_secs := 86400
      mismatch_ttl_secs := 604800
      liquidity_ttl_secs := 86400
      preserve_latest_history := true
      version := 1 }

instance : Writes ts load_expiration_policy := by
  unfold load_expiration_policy
  infer_instance

/-- The time to live of a kind of record. -/
def ExpirationPolicy.ttl (policy : ExpirationPolicy) : ExpirationKind → U64
  | .Asset => policy.asset_ttl_secs
  | .Price => policy.price_ttl_secs
  | .Deviation => policy.deviation_ttl_secs
  | .Mismatch => policy.mismatch_ttl_secs
  | .Liquidity => policy.liquidity_ttl_secs
  | .HealthResult => policy.asset_ttl_secs

def resolve_expiration (kind : ExpirationKind) (timestamp : U64) : Soroban U64 := do
  let policy ← load_expiration_policy
  return saturating_add_u64 timestamp (policy.ttl kind)

instance (kind : ExpirationKind) (timestamp : U64) :
    Writes ts (resolve_expiration kind timestamp) := by
  unfold resolve_expiration
  infer_instance

/-! ## The hash of a checkpoint -/

def append_asset_health (buf : Buffer) (health : AssetHealth) : Except String Buffer := do
  let buf ← append_string buf health.asset_code
  let buf := append_u32 buf health.health_score
  let buf := append_u32 buf health.liquidity_score
  let buf := append_u32 buf health.price_stability_score
  let buf := append_u32 buf health.bridge_uptime_score
  let buf := append_bool buf health.paused
  let buf := append_bool buf health.active
  return append_u64 buf health.timestamp

def append_price_record (buf : Buffer) (price : PriceRecord) : Except String Buffer := do
  let buf ← append_string buf price.asset_code
  let buf := append_i128 buf price.price
  let buf ← append_string buf price.source
  return append_u64 buf price.timestamp

def append_health_score_result (buf : Buffer) (value : HealthScoreResult) : Buffer :=
  let buf := append_u32 buf value.composite_score
  let buf := append_u32 buf value.liquidity_score
  let buf := append_u32 buf value.price_stability_score
  let buf := append_u32 buf value.bridge_uptime_score
  let buf := append_u32 buf value.weights.liquidity_weight
  let buf := append_u32 buf value.weights.price_stability_weight
  let buf := append_u32 buf value.weights.bridge_uptime_weight
  let buf := append_u32 buf value.weights.version
  append_u64 buf value.timestamp

/-- The body of the loop over a snapshot's assets. -/
def append_checkpoint_asset (buf : Buffer) (asset : CheckpointAssetState) :
    Except String Buffer := do
  let buf ← append_string buf asset.asset_code
  let buf ← append_asset_health buf asset.health
  let buf := append_bool buf asset.has_latest_price
  let buf ← if asset.has_latest_price then append_price_record buf asset.latest_price else pure buf
  let buf := append_bool buf asset.has_health_result
  return if asset.has_health_result then append_health_score_result buf asset.health_result else buf

def compute_checkpoint_hash [Host] (snapshot : CheckpointSnapshot) :
    Except String (BytesN 32) := do
  let data := append_u32 [] snapshot.format_version
  let data := append_u32 data snapshot.health_weights.liquidity_weight
  let data := append_u32 data snapshot.health_weights.price_stability_weight
  let data := append_u32 data snapshot.health_weights.bridge_uptime_weight
  let data := append_u32 data snapshot.health_weights.version
  let data := append_u32 data snapshot.risk_score_config.health_weight_bps
  let data := append_u32 data snapshot.risk_score_config.price_weight_bps
  let data := append_u32 data snapshot.risk_score_config.volatility_weight_bps
  let data := append_u32 data snapshot.risk_score_config.max_price_deviation_bps
  let data := append_u32 data snapshot.risk_score_config.max_volatility_bps
  let data := append_u32 data snapshot.risk_score_config.version
  let data ← snapshot.monitored_assets.foldlM append_string data
  let data ← snapshot.assets.foldlM append_checkpoint_asset data
  return Host.sha256 data

/-! ## Retention cleanups -/

/-- The state of the loop over the records of one list: those kept, those removed, and
the deletions of the whole run so far. -/
structure Sweep (α : Type) where
  kept : List α
  removed : List α
  deleted : U32

section Sweep

variable {α : Type} (now : U64) (max_deletions : U32) (retention_secs : α → Soroban U64)
variable (created_at : α → U64) (delete : α → Soroban Unit)

/-- The loop over the records of one list, which all three cleanups share. The last
record stays, and so do all once the budget is spent. -/
def sweep : (deleted : U32) → List α → Soroban (Sweep α)
  | deleted, [] => return { kept := [], removed := [], deleted }
  | deleted, record :: records => do
      let secs ← retention_secs record
      if records ≠ [] ∧ deleted < max_deletions ∧ is_expired now (created_at record) secs then do
        delete record
        let rest ← sweep (deleted + 1) records
        return { rest with removed := record :: rest.removed }
      else do
        let rest ← sweep deleted records
        return { rest with kept := record :: rest.kept }

instance [∀ record, Writes ts (retention_secs record)] [∀ record, Writes ts (delete record)]
    (deleted : U32) (records : List α) :
    Writes ts (sweep now max_deletions retention_secs created_at delete deleted records) := by
  induction records generalizing deleted with
  | nil | cons =>
      unfold sweep
      infer_instance

end Sweep

/-- What the cleanups of mismatches and of liquidity histories share: the lists of the
ids in turn, until the budget is spent, each swept and the removed records archived. -/
def cleanup_lists {α : Type} (data_type : RetentionDataType) (asset_code : α → SString)
    (created_at : α → U64) (load : SString → Soroban (List α))
    (store archive : SString → List α → Soroban Unit) (policy : RetentionPolicy)
    (max_deletions : U32) (ids : List SString) : Soroban (U32 × U32) := do
  let now ← timestamp
  ids.foldlM (fun (totals : U32 × U32) id => do
    let records ← load id
    -- `break` when the budget is spent, `continue` at a list of at most one record
    if max_deletions ≤ totals.1 ∨ records.length ≤ 1 then
      return totals
    else do
      let swept ← sweep now max_deletions
        (fun record => resolve_retention_secs data_type (asset_code record) policy.retention_secs)
        created_at (fun _ => pure ()) totals.1 records
      if swept.removed = [] then
        return (swept.deleted, totals.2)
      else do
        store id swept.kept
        exec_if (policy.archive_before_delete = true) do
          archive id swept.removed
        let archived := if policy.archive_before_delete then len swept.removed else 0
        return (swept.deleted, totals.2 + archived))
    (0, 0)

instance {α : Type} (data_type : RetentionDataType) (asset_code : α → SString)
    (created_at : α → U64) (load : SString → Soroban (List α))
    (store archive : SString → List α → Soroban Unit) (policy : RetentionPolicy)
    (max_deletions : U32) (ids : List SString) [∀ id, Writes ts (load id)]
    [∀ id records, Writes ts (store id records)] [∀ id records, Writes ts (archive id records)] :
    Writes ts (cleanup_lists data_type asset_code created_at load store archive policy
      max_deletions ids) := by
  unfold cleanup_lists
  infer_instance

def load_mismatches (bridge_id : SString) : Soroban (List SupplyMismatch) := do
  let records ← get (.Mismatches bridge_id)
  return records.getD []

def load_liquidity_history (pair : SString) : Soroban (List LiquidityDepth) := do
  let history ← get (.LiqHist pair)
  return history.getD []

def archive_mismatches (bridge_id : SString) (removed : List SupplyMismatch) : Soroban Unit := do
  let archived ← get (.ArchMismatches bridge_id)
  set (.ArchMismatches bridge_id) (archived.getD [] ++ removed)

def archive_liquidity_history (pair : SString) (removed : List LiquidityDepth) :
    Soroban Unit := do
  let archived ← get (.ArchLiqHist pair)
  set (.ArchLiqHist pair) (archived.getD [] ++ removed)

instance (bridge_id : SString) : Writes ts (load_mismatches bridge_id) := by
  unfold load_mismatches
  infer_instance

instance (pair : SString) : Writes ts (load_liquidity_history pair) := by
  unfold load_liquidity_history
  infer_instance

instance [Among .ArchMismatches ts] (bridge_id : SString) (removed : List SupplyMismatch) :
    Writes ts (archive_mismatches bridge_id removed) := by
  unfold archive_mismatches
  infer_instance

instance [Among .ArchLiqHist ts] (pair : SString) (removed : List LiquidityDepth) :
    Writes ts (archive_liquidity_history pair removed) := by
  unfold archive_liquidity_history
  infer_instance

def cleanup_supply_mismatches (policy : RetentionPolicy) (max_deletions : U32) :
    Soroban (U32 × U32) := do
  let bridge_ids ← get .BRIDGE_IDS
  cleanup_lists .SupplyMismatches SupplyMismatch.asset_code SupplyMismatch.timestamp
    load_mismatches (fun bridge_id kept => set (.Mismatches bridge_id) kept) archive_mismatches
    policy max_deletions (bridge_ids.getD [])

def cleanup_liquidity_history (policy : RetentionPolicy) (max_deletions : U32) :
    Soroban (U32 × U32) := do
  let pairs ← get .LIQUIDITY_PAIRS
  cleanup_lists .LiquidityHistory LiquidityDepth.asset_pair LiquidityDepth.timestamp
    load_liquidity_history (fun pair kept => set (.LiqHist pair) kept) archive_liquidity_history
    policy max_deletions (pairs.getD [])

/-- What happens to the snapshot of a checkpoint that the cleanup deletes. -/
def delete_checkpoint (policy : RetentionPolicy) (metadata : CheckpointMetadata) :
    Soroban Unit := do
  exec_if (policy.archive_before_delete = true) do
    let archived_snapshot ← get (.ChkpntSnap metadata.checkpoint_id)
    archived_snapshot.elim (pure ()) fun snapshot =>
      set (.ArchChkpntSnap metadata.checkpoint_id) snapshot
  remove (.ChkpntSnap metadata.checkpoint_id)

def archive_checkpoint_metadata (removed : List CheckpointMetadata) : Soroban Unit := do
  let archived_metadata ← get .ARCHIVED_CHECKPOINT_META
  set .ARCHIVED_CHECKPOINT_META (archived_metadata.getD [] ++ removed)

instance [Among .ChkpntSnap ts] [Among .ArchChkpntSnap ts] (policy : RetentionPolicy)
    (metadata : CheckpointMetadata) : Writes ts (delete_checkpoint policy metadata) := by
  unfold delete_checkpoint
  infer_instance

instance [Among .ARCHIVED_CHECKPOINT_META ts] (removed : List CheckpointMetadata) :
    Writes ts (archive_checkpoint_metadata removed) := by
  unfold archive_checkpoint_metadata
  infer_instance

def cleanup_checkpoints (policy : RetentionPolicy) (max_deletions : U32) :
    Soroban (U32 × U32) := do
  let now ← timestamp
  let metadata_list ← load_checkpoint_metadata
  if metadata_list.length ≤ 1 then
    return (0, 0)
  else do
    let swept ← sweep now max_deletions (fun _ => pure policy.retention_secs)
      CheckpointMetadata.created_at (delete_checkpoint policy) 0 metadata_list
    exec_if (0 < swept.deleted) do
      set .CHECKPOINT_METADATA_LIST swept.kept
    exec_if (policy.archive_before_delete = true ∧ swept.removed ≠ []) do
      archive_checkpoint_metadata swept.removed
    return (swept.deleted, if policy.archive_before_delete then len swept.removed else 0)

section Footprints

variable (policy : RetentionPolicy) (max_deletions : U32)

instance [Among .Mismatches ts] [Among .ArchMismatches ts] :
    Writes ts (cleanup_supply_mismatches policy max_deletions) := by
  unfold cleanup_supply_mismatches
  infer_instance

instance [Among .LiqHist ts] [Among .ArchLiqHist ts] :
    Writes ts (cleanup_liquidity_history policy max_deletions) := by
  unfold cleanup_liquidity_history
  infer_instance

instance [Among .CHECKPOINT_METADATA_LIST ts] [Among .ChkpntSnap ts] [Among .ArchChkpntSnap ts]
    [Among .ARCHIVED_CHECKPOINT_META ts] :
    Writes ts (cleanup_checkpoints policy max_deletions) := by
  unfold cleanup_checkpoints
  infer_instance

end Footprints

/-- What the cleanups of all three data types write. -/
abbrev cleanupTags : List Tag :=
  [.Mismatches, .ArchMismatches, .LiqHist, .ArchLiqHist, .CHECKPOINT_METADATA_LIST, .ChkpntSnap,
    .ArchChkpntSnap, .ARCHIVED_CHECKPOINT_META, .LastCleanup]

/-- The cleanup of a data type. -/
def cleanup_of (data_type : RetentionDataType) (policy : RetentionPolicy) (max_deletions : U32) :
    Soroban (U32 × U32) :=
  match data_type with
  | .SupplyMismatches => cleanup_supply_mismatches policy max_deletions
  | .LiquidityHistory => cleanup_liquidity_history policy max_deletions
  | .Checkpoints => cleanup_checkpoints policy max_deletions

def cleanup_data_type_internal (data_type : RetentionDataType) (policy : RetentionPolicy)
    (max_deletions : U32) : Soroban (U32 × U32) :=
  if max_deletions = 0 then
    return (0, 0)
  else
    cleanup_of data_type policy max_deletions

instance [h : Within cleanupTags ts] (data_type : RetentionDataType) (policy : RetentionPolicy)
    (max_deletions : U32) : Writes ts (cleanup_data_type_internal data_type policy max_deletions) := by
  apply Writes.mono cleanupTags
  unfold cleanup_data_type_internal cleanup_of
  cases data_type <;> infer_instance

def retention_data_types : List RetentionDataType :=
  [.SupplyMismatches, .LiquidityHistory, .Checkpoints]

/-- The cleanups that are due. The totals are published only, but their sums may overflow. -/
def maybe_trigger_auto_cleanup : Soroban Unit := do
  let now ← timestamp
  let _ ← retention_data_types.foldlM (fun (totals : U32 × U32) data_type => do
    let policy ← load_retention_policy data_type
    if policy.enabled = false then
      return totals
    else do
      let last_cleanup_at ← get (.LastCleanup data_type)
      let early ← within_interval now (last_cleanup_at.getD 0) policy.trigger_interval_secs
      if early = true then
        return totals
      else do
        let counts ← cleanup_data_type_internal data_type policy policy.max_deletions_per_run
        set (.LastCleanup data_type) now
        let total_deleted ← add_u32 totals.1 counts.1
        let total_archived ← add_u32 totals.2 counts.2
        return (total_deleted, total_archived)) (0, 0)
  return

instance [Within cleanupTags ts] : Writes ts maybe_trigger_auto_cleanup := by
  apply Writes.mono cleanupTags
  unfold maybe_trigger_auto_cleanup
  infer_instance

/-! ## Checkpoints -/

/-- The loop of `prune_checkpoints`: the oldest checkpoints go until at most
`max_checkpoints` are left. -/
def prune_loop (max_checkpoints : U32) :
    List CheckpointMetadata → Soroban (List CheckpointMetadata)
  | [] => return []
  | oldest :: metadata_list =>
      if max_checkpoints.toNat < metadata_list.length + 1 then do
        remove (.ChkpntSnap oldest.checkpoint_id)
        prune_loop max_checkpoints metadata_list
      else
        return oldest :: metadata_list

instance [Among .ChkpntSnap ts] (max_checkpoints : U32)
    (metadata_list : List CheckpointMetadata) :
    Writes ts (prune_loop max_checkpoints metadata_list) := by
  induction metadata_list with
  | nil | cons =>
      unfold prune_loop
      infer_instance

def prune_checkpoints (config : CheckpointConfig) : Soroban Unit := do
  let metadata_list ← load_checkpoint_metadata
  let kept ← prune_loop config.max_checkpoints metadata_list
  -- `pruned > 0`
  exec_if (config.max_checkpoints.toNat < metadata_list.length) do
    set .CHECKPOINT_METADATA_LIST kept

instance [Among .ChkpntSnap ts] [Among .CHECKPOINT_METADATA_LIST ts]
    (config : CheckpointConfig) : Writes ts (prune_checkpoints config) := by
  unfold prune_checkpoints
  infer_instance

/-- The body of the loop that collects the state of the monitored assets. -/
def checkpoint_asset (asset_code : SString) : Soroban CheckpointAssetState := do
  let health ← load_asset_health asset_code
  let latest_price_opt ← get (.Price asset_code)
  let health_result_opt ← get (.HealthRes asset_code)
  let default_price : PriceRecord :=
    { asset_code := asset_code, price := 0, source := [], timestamp := 0, expires_at := 0 }
  let default_result : HealthScoreResult :=
    { composite_score := 0
      liquidity_score := 0
      price_stability_score := 0
      bridge_uptime_score := 0
      weights := default_health_weights
      timestamp := 0
      expires_at := 0 }
  return {
    asset_code := asset_code
    health := health
    has_latest_price := latest_price_opt.isSome
    latest_price := latest_price_opt.getD default_price
    has_health_result := health_result_opt.isSome
    health_result := health_result_opt.getD default_result }

/-- The loop over the monitored assets. -/
def checkpoint_assets (assets : List SString) : Soroban (List CheckpointAssetState) :=
  assets.foldlM (fun states asset_code => do
    let state ← checkpoint_asset asset_code
    return states ++ [state]) []

instance (asset_code : SString) : Writes ts (checkpoint_asset asset_code) := by
  unfold checkpoint_asset
  infer_instance

instance (assets : List SString) : Writes ts (checkpoint_assets assets) := by
  unfold checkpoint_assets
  infer_instance

/-- The first half of `persist_checkpoint`: the snapshot of the current state. -/
def take_snapshot (caller : Address) (trigger : CheckpointTrigger) (label : SString)
    (restored_from : Option U64) : Soroban CheckpointSnapshot := do
  let config ← load_checkpoint_config
  let counter ← get .CHECKPOINT_COUNTER
  let next_id ← add_u64 (counter.getD 0) 1
  let created_at ← timestamp
  let monitored_assets ← load_registered_assets_raw
  let health_weights ← load_health_weights
  let risk_score_config ← load_risk_score_config
  let assets ← checkpoint_assets monitored_assets
  return {
    checkpoint_id := next_id
    format_version := config.format_version
    created_at := created_at
    trigger := trigger
    created_by := caller
    label := label
    monitored_assets := monitored_assets
    health_weights := health_weights
    risk_score_config := risk_score_config
    assets := assets
    restored_from := restored_from }

instance (caller : Address) (trigger : CheckpointTrigger) (label : SString)
    (restored_from : Option U64) : Writes ts (take_snapshot caller trigger label restored_from) := by
  unfold take_snapshot
  infer_instance

/-- The metadata of a snapshot. -/
def CheckpointSnapshot.metadata (snapshot : CheckpointSnapshot) (state_hash : BytesN 32) :
    CheckpointMetadata :=
  { checkpoint_id := snapshot.checkpoint_id
    format_version := snapshot.format_version
    created_at := snapshot.created_at
    trigger := snapshot.trigger
    created_by := snapshot.created_by
    label := snapshot.label
    monitored_asset_count := len snapshot.monitored_assets
    asset_count := len snapshot.assets
    state_hash
    restored_from := snapshot.restored_from }

/-- The writes of `persist_checkpoint` before it prunes. -/
def store_checkpoint (snapshot : CheckpointSnapshot) (metadata : CheckpointMetadata) :
    Soroban Unit := do
  set (.ChkpntSnap snapshot.checkpoint_id) snapshot
  let metadata_list ← load_checkpoint_metadata
  set .CHECKPOINT_METADATA_LIST (metadata_list ++ [metadata])
  set .CHECKPOINT_COUNTER snapshot.checkpoint_id
  set .LAST_CHECKPOINT_AT snapshot.created_at
  set .LAST_CHECKPOINT_ID snapshot.checkpoint_id

def persist_checkpoint [Host] (caller : Address) (trigger : CheckpointTrigger) (label : SString)
    (restored_from : Option U64) : Soroban CheckpointMetadata := do
  let config ← load_checkpoint_config
  let snapshot ← take_snapshot caller trigger label restored_from
  let state_hash ← attempt (compute_checkpoint_hash snapshot)
  store_checkpoint snapshot (snapshot.metadata state_hash)
  prune_checkpoints config
  maybe_trigger_auto_cleanup
  return snapshot.metadata state_hash

def maybe_create_auto_checkpoint [Host] (caller : Address) : Soroban Unit := do
  let config ← load_checkpoint_config
  let now ← timestamp
  let last_at ← get .LAST_CHECKPOINT_AT
  let early ← within_interval now (last_at.getD 0) config.interval_secs
  exec_if (early = false) do
    let _ ← persist_checkpoint caller .Automatic (str "auto") none

/-- What a checkpoint writes. -/
abbrev checkpointTags : List Tag :=
  [.CHECKPOINT_COUNTER, .LAST_CHECKPOINT_AT, .LAST_CHECKPOINT_ID] ++ cleanupTags

instance [Among .ChkpntSnap ts] [Among .CHECKPOINT_METADATA_LIST ts]
    [Among .CHECKPOINT_COUNTER ts] [Among .LAST_CHECKPOINT_AT ts] [Among .LAST_CHECKPOINT_ID ts]
    (snapshot : CheckpointSnapshot) (metadata : CheckpointMetadata) :
    Writes ts (store_checkpoint snapshot metadata) := by
  unfold store_checkpoint
  infer_instance

instance [Host] [Within checkpointTags ts] (caller : Address) (trigger : CheckpointTrigger)
    (label : SString) (restored_from : Option U64) :
    Writes ts (persist_checkpoint caller trigger label restored_from) := by
  apply Writes.mono checkpointTags
  unfold persist_checkpoint
  infer_instance

instance [Host] [Within checkpointTags ts] (caller : Address) :
    Writes ts (maybe_create_auto_checkpoint caller) := by
  apply Writes.mono checkpointTags
  unfold maybe_create_auto_checkpoint
  infer_instance

/-! ## Entry points on checkpoints -/

def set_checkpoint_config (caller : Address) (interval_secs : U64)
    (max_checkpoints format_version : U32) : Soroban Unit := do
  assert_admin_or_super_admin caller
  panic_if (max_checkpoints = 0) "max_checkpoints must be greater than zero"
  panic_if (format_version = 0) "format_version must be greater than zero"
  let config : CheckpointConfig := { interval_secs, max_checkpoints, format_version }
  set .CHECKPOINT_CONFIG config
  prune_checkpoints config

def create_checkpoint [Host] (caller : Address) (label : SString) :
    Soroban CheckpointMetadata := do
  assert_admin_or_super_admin caller
  persist_checkpoint caller .Manual label none

def validate_checkpoint [Host] (checkpoint_id : U64) : Soroban CheckpointValidation := do
  let snapshot ← get_checkpoint_or_panic checkpoint_id
  let metadata ← load_checkpoint_metadata_by_id checkpoint_id
  let computed_hash ← attempt (compute_checkpoint_hash snapshot)
  let is_valid : Bool := metadata.state_hash = computed_hash
  return {
    checkpoint_id := checkpoint_id
    is_valid := is_valid
    message := if is_valid then str "checkpoint hash verified" else str "checkpoint hash mismatch" }

def find_checkpoint_asset (assets : List CheckpointAssetState) (asset_code : SString) :
    Option CheckpointAssetState :=
  assets.find? fun asset => asset.asset_code = asset_code

/-- The body of the loop over the assets of the later checkpoint, over those added and those
changed so far. An absent price or result is compared by its placeholder. -/
def compare_checkpoint_asset (from_assets : List CheckpointAssetState)
    (acc : List SString × List CheckpointAssetDiff) (to_asset : CheckpointAssetState) :
    List SString × List CheckpointAssetDiff :=
  match find_checkpoint_asset from_assets to_asset.asset_code with
  | some from_asset =>
      let health_changed : Bool := from_asset.health ≠ to_asset.health
      let price_changed : Bool := from_asset.latest_price ≠ to_asset.latest_price
      let health_result_changed : Bool := from_asset.health_result ≠ to_asset.health_result
      if health_changed || price_changed || health_result_changed then
        let diff : CheckpointAssetDiff :=
          { asset_code := to_asset.asset_code
            health_changed
            price_changed
            health_result_changed }
        (acc.1, acc.2 ++ [diff])
      else
        acc
  | none => (acc.1 ++ [to_asset.asset_code], acc.2)

def build_checkpoint_comparison [Host] (from_snapshot to_snapshot : CheckpointSnapshot)
    (from_checkpoint_id to_checkpoint_id : U64) : Except String CheckpointComparison := do
  let compared := to_snapshot.assets.foldl (compare_checkpoint_asset from_snapshot.assets) ([], [])
  let removed_assets := from_snapshot.assets.filter fun from_asset =>
    (find_checkpoint_asset to_snapshot.assets from_asset.asset_code).isNone
  let from_hash ← compute_checkpoint_hash from_snapshot
  let to_hash ← compute_checkpoint_hash to_snapshot
  return {
    from_checkpoint_id := from_checkpoint_id
    to_checkpoint_id := to_checkpoint_id
    timestamp_delta := saturating_sub_u64 to_snapshot.created_at from_snapshot.created_at
    state_hash_changed := from_hash ≠ to_hash
    weights_changed := from_snapshot.health_weights ≠ to_snapshot.health_weights
    added_assets := compared.1
    removed_assets := removed_assets.map CheckpointAssetState.asset_code
    changed_assets := compared.2 }

def compare_checkpoints [Host] (from_checkpoint_id to_checkpoint_id : U64) :
    Soroban CheckpointComparison := do
  let from_snapshot ← get_checkpoint_or_panic from_checkpoint_id
  let to_snapshot ← get_checkpoint_or_panic to_checkpoint_id
  attempt (build_checkpoint_comparison from_snapshot to_snapshot from_checkpoint_id to_checkpoint_id)

/-- The records of an asset that is not in the checkpoint go. -/
def forget_asset (asset_code : SString) : Soroban Unit := do
  remove (.Health asset_code)
  remove (.Price asset_code)
  remove (.HealthRes asset_code)

/-- The records of an asset are set to those of the checkpoint. -/
def restore_asset (asset : CheckpointAssetState) : Soroban Unit := do
  set (.Health asset.asset_code) asset.health
  if asset.has_latest_price = true then
    set (.Price asset.asset_code) asset.latest_price
  else
    remove (.Price asset.asset_code)
  if asset.has_health_result = true then
    set (.HealthRes asset.asset_code) asset.health_result
  else
    remove (.HealthRes asset.asset_code)

/-- The writes of `restore_from_checkpoint` before it takes a checkpoint of its own. -/
def restore_snapshot (snapshot : CheckpointSnapshot) : Soroban Unit := do
  let current_assets ← load_registered_assets_raw
  current_assets.foldlM (fun _ asset_code =>
    exec_if (asset_code ∉ snapshot.monitored_assets) (forget_asset asset_code)) ()
  set .MONITORED_ASSETS snapshot.monitored_assets
  set .HEALTH_WEIGHTS snapshot.health_weights
  set .RISK_SCORE_CONFIG snapshot.risk_score_config
  snapshot.assets.foldlM (fun _ asset => restore_asset asset) ()

def restore_from_checkpoint [Host] (caller : Address) (checkpoint_id : U64) :
    Soroban CheckpointMetadata := do
  assert_admin_or_super_admin caller
  let snapshot ← get_checkpoint_or_panic checkpoint_id
  restore_snapshot snapshot
  persist_checkpoint caller .Restore (str "restore") (some checkpoint_id)

section Footprints

variable (caller : Address) (asset_code : SString) (snapshot : CheckpointSnapshot)

instance [Among .CHECKPOINT_CONFIG ts] [Among .ChkpntSnap ts] [Among .CHECKPOINT_METADATA_LIST ts]
    (interval_secs : U64) (max_checkpoints format_version : U32) :
    Writes ts (set_checkpoint_config caller interval_secs max_checkpoints format_version) := by
  unfold set_checkpoint_config
  infer_instance

instance [Host] [Within checkpointTags ts] (label : SString) :
    Writes ts (create_checkpoint caller label) := by
  apply Writes.mono checkpointTags
  unfold create_checkpoint
  infer_instance

instance [Among .Health ts] [Among .Price ts] [Among .HealthRes ts] :
    Writes ts (forget_asset asset_code) := by
  unfold forget_asset
  infer_instance

instance [Among .Health ts] [Among .Price ts] [Among .HealthRes ts]
    (asset : CheckpointAssetState) : Writes ts (restore_asset asset) := by
  unfold restore_asset
  infer_instance

/-- What the restored snapshot overwrites. -/
abbrev restoreTags : List Tag :=
  [.Health, .Price, .HealthRes, .MONITORED_ASSETS, .HEALTH_WEIGHTS, .RISK_SCORE_CONFIG]

instance [Within restoreTags ts] : Writes ts (restore_snapshot snapshot) := by
  apply Writes.mono restoreTags
  unfold restore_snapshot
  infer_instance

instance [Host] [h : Within (restoreTags ++ checkpointTags) ts] (checkpoint_id : U64) :
    Writes ts (restore_from_checkpoint caller checkpoint_id) := by
  apply Writes.mono (restoreTags ++ checkpointTags)
  unfold restore_from_checkpoint
  infer_instance

variable (interval_secs : U64) (max_checkpoints format_version : U32) (label : SString)

instance : Blocked Paused (set_checkpoint_config caller interval_secs max_checkpoints
    format_version) := by
  unfold set_checkpoint_config
  infer_instance

instance [Host] : Blocked Paused (create_checkpoint caller label) := by
  unfold create_checkpoint
  infer_instance

instance [Host] (checkpoint_id : U64) :
    Blocked Paused (restore_from_checkpoint caller checkpoint_id) := by
  unfold restore_from_checkpoint
  infer_instance

end Footprints

/-! ## Entry points on retention -/

def validate_retention_policy_inputs (retention_secs trigger_interval_secs : U64)
    (max_deletions_per_run : U32) : Soroban Unit := do
  panic_if (retention_secs = 0) "retention_secs must be greater than zero"
  panic_if (trigger_interval_secs = 0) "trigger_interval_secs must be greater than zero"
  panic_if (max_deletions_per_run = 0) "max_deletions_per_run must be greater than zero"

def set_retention_policy (caller : Address) (data_type : RetentionDataType)
    (retention_secs trigger_interval_secs : U64) (max_deletions_per_run : U32)
    (archive_before_delete enabled : Bool) : Soroban Unit := do
  assert_admin_or_super_admin_retention caller
  validate_retention_policy_inputs retention_secs trigger_interval_secs max_deletions_per_run
  set (.RetPolicy data_type)
    { data_type
      retention_secs
      trigger_interval_secs
      max_deletions_per_run
      archive_before_delete
      enabled }

def set_asset_retention_override (caller : Address) (asset_code : SString)
    (data_type : RetentionDataType) (retention_secs : Option U64) : Soroban Unit := do
  assert_admin_or_super_admin_retention caller
  retention_secs.elim (remove (.RetOvr asset_code data_type)) fun value => do
    panic_if (value = 0) "asset retention override must be greater than zero"
    set (.RetOvr asset_code data_type) value

/-- `policy.max_deletions_per_run`, or the budget when that is smaller. -/
def RetentionPolicy.run_budget (policy : RetentionPolicy) (budget : U32) : U32 :=
  if policy.max_deletions_per_run < budget then policy.max_deletions_per_run else budget

def cleanup_old_data (caller : Address) (max_total_deletions : U32) : Soroban CleanupResult := do
  assert_admin_or_super_admin_retention caller
  panic_if (max_total_deletions = 0) "max_total_deletions must be greater than zero"
  let now ← timestamp
  retention_data_types.foldlM (fun (result : CleanupResult) data_type => do
    let policy ← load_retention_policy data_type
    let run_budget := policy.run_budget (max_total_deletions - result.total_deleted)
    if max_total_deletions ≤ result.total_deleted ∨ policy.enabled = false ∨ run_budget = 0 then
      return result
    else do
      let counts ← cleanup_data_type_internal data_type policy run_budget
      let total_deleted ← add_u32 result.total_deleted counts.1
      let total_archived ← add_u32 result.total_archived counts.2
      set (.LastCleanup data_type) now
      return {
        result with
        total_deleted := total_deleted
        total_archived := total_archived
        details := result.details ++ [{ data_type, deleted := counts.1, archived := counts.2 }] })
    { executed_at := now, total_deleted := 0, total_archived := 0, details := [] }

def cleanup_data_type (caller : Address) (data_type : RetentionDataType) (max_deletions : U32) :
    Soroban CleanupDataTypeResult := do
  assert_admin_or_super_admin_retention caller
  panic_if (max_deletions = 0) "max_deletions must be greater than zero"
  let policy ← load_retention_policy data_type
  if policy.enabled = false then
    return { data_type, deleted := 0, archived := 0 }
  else do
    let counts ← cleanup_data_type_internal data_type policy (policy.run_budget max_deletions)
    let now ← timestamp
    set (.LastCleanup data_type) now
    return { data_type, deleted := counts.1, archived := counts.2 }

section Footprints

variable (caller : Address) (asset_code : SString) (data_type : RetentionDataType)
variable (retention_secs trigger_interval_secs : U64) (secs : Option U64) (limit : U32)
variable (archive_before_delete enabled : Bool)

instance : Writes ts (validate_retention_policy_inputs retention_secs trigger_interval_secs
    limit) := by
  unfold validate_retention_policy_inputs
  infer_instance

instance [Among .RetPolicy ts] :
    Writes ts (set_retention_policy caller data_type retention_secs trigger_interval_secs limit
      archive_before_delete enabled) := by
  unfold set_retention_policy
  infer_instance

instance [Among .RetOvr ts] :
    Writes ts (set_asset_retention_override caller asset_code data_type secs) := by
  unfold set_asset_retention_override
  infer_instance

instance [Within cleanupTags ts] : Writes ts (cleanup_old_data caller limit) := by
  apply Writes.mono cleanupTags
  unfold cleanup_old_data
  infer_instance

instance [Within cleanupTags ts] : Writes ts (cleanup_data_type caller data_type limit) := by
  apply Writes.mono cleanupTags
  unfold cleanup_data_type
  infer_instance

instance : Blocked Paused (set_retention_policy caller data_type retention_secs
    trigger_interval_secs limit archive_before_delete enabled) := by
  unfold set_retention_policy
  infer_instance

instance : Blocked Paused (set_asset_retention_override caller asset_code data_type secs) := by
  unfold set_asset_retention_override
  infer_instance

instance : Blocked Paused (cleanup_old_data caller limit) := by
  unfold cleanup_old_data
  infer_instance

instance : Blocked Paused (cleanup_data_type caller data_type limit) := by
  unfold cleanup_data_type
  infer_instance

end Footprints

end BridgeWatch.Contract

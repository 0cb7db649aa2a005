/-
The entry points that can change the storage, and the runs of the contract.

`exec` runs a call of an entry point and `writes` is its footprint, by family of keys:
`exec_frame` holds every call to it. The two getters of threshold overrides are among
the entry points, since they remove an override whose time is over; the entry points
left out only read.
-/
import BridgeWatch.ContractAdmin

set_option autoImplicit false

namespace BridgeWatch.Contract

open Transaction

/-- A call of an entry point, with its arguments. -/
inductive EntryPoint where
  | initialize_contract (admin : Address)
  | submit_health (caller : Address) (asset_code : SString)
      (health_score liquidity_score price_stability_score bridge_uptime_score : U32)
  | submit_health_batch (caller : Address) (records : List HealthScoreBatch)
  | submit_price (caller : Address) (asset_code : SString) (price : I128) (source : SString)
  | register_signer (caller : Address) (signer_id : SString) (public_key : BytesN 32)
  | remove_signer (caller : Address) (signer_id : SString)
  | set_signature_threshold (caller : Address) (threshold : U32)
  | verify_signature (message : Buffer) (signature : SignerSignature)
  | verify_multi_sig (message : Buffer) (signatures : List SignerSignature)
  | submit_health_signed (caller : Address) (asset_code : SString)
      (health_score liquidity_score price_stability_score bridge_uptime_score : U32)
      (signature : SignerSignature)
  | submit_price_signed (caller : Address) (asset_code : SString) (price : I128)
      (source : SString) (signature : SignerSignature)
  | submit_health_batch_signed (caller : Address) (records : List HealthScoreBatch)
      (signatures : List SignerSignature)
  | set_health_weights (caller : Address)
      (liquidity_weight price_stability_weight bridge_uptime_weight version : U32)
  | set_risk_score_config (caller : Address) (config : RiskScoreConfig)
  | submit_calculated_health (caller : Address) (asset_code : SString)
      (liquidity_score price_stability_score bridge_uptime_score : U32)
      (manual_override : Option U32)
  | register_health_source (caller : Address) (source_id : SString) (weight_bps : U32)
  | revoke_health_source (caller : Address) (source_id : SString)
  | submit_health_multi_source (caller : Address) (source_id asset_code : SString)
      (health_score liquidity_score price_stability_score bridge_uptime_score : U32)
  | register_asset (caller : Address) (asset_code : SString)
  | pause_asset (caller : Address) (asset_code : SString)
  | unpause_asset (caller : Address) (asset_code : SString)
  | deregister_asset (caller : Address) (asset_code : SString)
  | lock_asset (caller : Address) (asset_code reason : SString)
  | unlock_asset (caller : Address) (asset_code : SString)
  | set_deviation_threshold (asset_code : SString) (low_bps medium_bps high_bps : I128)
  | set_deviation_threshold_override (caller : Address) (asset_code : SString)
      (low_bps medium_bps high_bps : I128) (mode : ThresholdOverrideMode)
      (expires_at : Option U64)
  | get_deviation_threshold_override (asset_code : SString)
  | clear_dev_threshold_override (caller : Address) (asset_code : SString)
  | check_price_deviation (asset_code : SString) (current_price : I128)
  | set_mismatch_threshold (threshold_bps : I128)
  | set_mismatch_threshold_override (caller : Address) (asset_code : SString)
      (threshold_bps : I128) (mode : ThresholdOverrideMode) (expires_at : Option U64)
  | get_mismatch_threshold_override (asset_code : SString)
  | clear_mm_threshold_override (caller : Address) (asset_code : SString)
  | record_supply_mismatch (bridge_id asset_code : SString)
      (stellar_supply source_chain_supply : I128)
  | record_liquidity_depth (asset_pair : SString)
      (total_liquidity depth_0_1_pct depth_0_5_pct depth_1_pct depth_5_pct : I128)
      (sources : List SString)
  | set_expiration_policy (caller : Address) (policy : ExpirationPolicy)
  | set_asset_expiration_ttl (caller : Address) (asset_code : SString) (ttl_secs : U64)
  | extend_expiration (caller : Address) (asset_code : SString) (extra_secs : U64)
  | cleanup_expired_data (caller : Address) (max_records : U32)
  | record_pool_state (pool_id : SString) (reserve_a reserve_b total_shares volume fees : I128)
      (pool_type : PoolType)
  | compute_statistics (caller : Address) (asset_code : SString) (period : StatPeriod)
  | trigger_periodic_stats (caller : Address)
  | set_checkpoint_config (caller : Address) (interval_secs : U64)
      (max_checkpoints format_version : U32)
  | create_checkpoint (caller : Address) (label : SString)
  | restore_from_checkpoint (caller : Address) (checkpoint_id : U64)
  | set_retention_policy (caller : Address) (data_type : RetentionDataType)
      (retention_secs trigger_interval_secs : U64) (max_deletions_per_run : U32)
      (archive_before_delete enabled : Bool)
  | set_asset_retention_override (caller : Address) (asset_code : SString)
      (data_type : RetentionDataType) (retention_secs : Option U64)
  | cleanup_old_data (caller : Address) (max_total_deletions : U32)
  | cleanup_data_type (caller : Address) (data_type : RetentionDataType) (max_deletions : U32)
  | grant_role (granter grantee : Address) (role : AdminRole)
  | revoke_role (revoker target : Address) (role : AdminRole)
  | acl_grant_role (caller grantee : Address) (role : Role) (expires_at : U64)
  | acl_revoke_role (caller grantee : Address) (role : Role)
  | acl_grant_permission (caller grantee : Address) (permission : Permission) (expires_at : U64)
  | acl_revoke_permission (caller grantee : Address) (permission : Permission)
  | acl_bulk_grant_roles (caller : Address) (entries : List BulkRoleEntry)
  | acl_bulk_revoke_roles (caller : Address) (entries : List BulkRoleEntry)
  | acl_bulk_grant_permissions (caller : Address) (entries : List BulkPermissionEntry)
  | acl_bulk_revoke_permissions (caller : Address) (entries : List BulkPermissionEntry)
  | emergency_pause (caller : Address) (reason : SString)
  | unpause (caller : Address) (reason : SString)
  | set_pause_guardian (caller guardian : Address)
  | set_emergency_contact (caller : Address) (contact : SString)
  | configure_emergency_multisig (caller : Address) (operators : List (BytesN 32))
      (threshold : U32)
  | emergency_pause_multisig (signatures : List OperatorSignature) (nonce : U64)
      (reason : SString)
  | unpause_emergency_multisig (signatures : List OperatorSignature) (nonce : U64)
      (reason : SString)
  | set_mismatch_threshold_multisig (signatures : List OperatorSignature) (nonce : U64)
      (threshold_bps : I128)
  | blacklist_bridge_multisig (signatures : List OperatorSignature) (nonce : U64)
      (bridge_id : SString)
  | delist_oracle_node_multisig (signatures : List OperatorSignature) (nonce : U64)
      (node_address : Address)
  | remove_bridge_from_blacklist (caller : Address) (bridge_id : SString)
  | propose_admin_transfer (caller proposed_admin : Address)
  | accept_admin_transfer (caller : Address)
  | cancel_admin_transfer (caller : Address)
  | propose_upgrade (caller : Address) (new_wasm_hash : BytesN 32) (emergency : Bool)
      (migration_callback : Option Address) (migration_payload : Option Buffer)
  | propose_rollback (caller : Address) (emergency : Bool) (migration_callback : Option Address)
      (migration_payload : Option Buffer)
  | approve_upgrade (caller : Address) (proposal_id : U64)
  | execute_upgrade (caller : Address) (proposal_id : U64)
  | cancel_upgrade (caller : Address) (proposal_id : U64)
  | set_config (caller : Address) (category : ConfigCategory) (name : SString) (value : I128)
      (description : SString)
  | set_config_bulk (caller : Address) (updates : List BulkConfigUpdate)
  | init_default_config (caller : Address)
  | enter_recovery_mode (caller : Address) (reason : SString)
  | exit_recovery_mode (caller : Address)
  | record_recovery_step (caller : Address) (description : SString)
  | register_trusted_source (caller source_address : Address) (name : SString)
  | revoke_trusted_source (caller source_address : Address)

/-- `m`, without its result. -/
abbrev ignore {α : Type} (m : Soroban α) : Soroban Unit := do
  let _ ← m
  return

/-- What a call does. -/
def exec [Host] : EntryPoint → Soroban Unit
  | .initialize_contract admin => initialize_contract admin
  | .submit_health caller asset_code health_score liquidity_score price_stability_score
      bridge_uptime_score =>
      submit_health caller asset_code health_score liquidity_score price_stability_score
        bridge_uptime_score
  | .submit_health_batch caller records => submit_health_batch caller records
  | .submit_price caller asset_code price source => submit_price caller asset_code price source
  | .register_signer caller signer_id public_key => register_signer caller signer_id public_key
  | .remove_signer caller signer_id => remove_signer caller signer_id
  | .set_signature_threshold caller threshold => set_signature_threshold caller threshold
  | .verify_signature message signature => ignore (verify_signature message signature)
  | .verify_multi_sig message signatures => ignore (verify_multi_sig message signatures)
  | .submit_health_signed caller asset_code health_score liquidity_score price_stability_score
      bridge_uptime_score signature =>
      submit_health_signed caller asset_code health_score liquidity_score price_stability_score
        bridge_uptime_score signature
  | .submit_price_signed caller asset_code price source signature =>
      submit_price_signed caller asset_code price source signature
  | .submit_health_batch_signed caller records signatures =>
      submit_health_batch_signed caller records signatures
  | .set_health_weights caller liquidity_weight price_stability_weight bridge_uptime_weight
      version =>
      set_health_weights caller liquidity_weight price_stability_weight bridge_uptime_weight
        version
  | .set_risk_score_config caller config => set_risk_score_config caller config
  | .submit_calculated_health caller asset_code liquidity_score price_stability_score
      bridge_uptime_score manual_override =>
      submit_calculated_health caller asset_code liquidity_score price_stability_score
        bridge_uptime_score manual_override
  | .register_health_source caller source_id weight_bps =>
      register_health_source caller source_id weight_bps
  | .revoke_health_source caller source_id => revoke_health_source caller source_id
  | .submit_health_multi_source caller source_id asset_code health_score liquidity_score
      price_stability_score bridge_uptime_score =>
      submit_health_multi_source caller source_id asset_code health_score liquidity_score
        price_stability_score bridge_uptime_score
  | .register_asset caller asset_code => register_asset caller asset_code
  | .pause_asset caller asset_code => pause_asset caller asset_code
  | .unpause_asset caller asset_code => unpause_asset caller asset_code
  | .deregister_asset caller asset_code => deregister_asset caller asset_code
  | .lock_asset caller asset_code reason => lock_asset caller asset_code reason
  | .unlock_asset caller asset_code => unlock_asset caller asset_code
  | .set_deviation_threshold asset_code low_bps medium_bps high_bps =>
      set_deviation_threshold asset_code low_bps medium_bps high_bps
  | .set_deviation_threshold_override caller asset_code low_bps medium_bps high_bps mode
      expires_at =>
      set_deviation_threshold_override caller asset_code low_bps medium_bps high_bps mode
        expires_at
  | .get_deviation_threshold_override asset_code =>
      ignore (get_deviation_threshold_override asset_code)
  | .clear_dev_threshold_override caller asset_code =>
      clear_dev_threshold_override caller asset_code
  | .check_price_deviation asset_code current_price =>
      ignore (check_price_deviation asset_code current_price)
  | .set_mismatch_threshold threshold_bps => set_mismatch_threshold threshold_bps
  | .set_mismatch_threshold_override caller asset_code threshold_bps mode expires_at =>
      set_mismatch_threshold_override caller asset_code threshold_bps mode expires_at
  | .get_mismatch_threshold_override asset_code =>
      ignore (get_mismatch_threshold_override asset_code)
  | .clear_mm_threshold_override caller asset_code =>
      clear_mm_threshold_override caller asset_code
  | .record_supply_mismatch bridge_id asset_code stellar_supply source_chain_supply =>
      record_supply_mismatch bridge_id asset_code stellar_supply source_chain_supply
  | .record_liquidity_depth asset_pair total_liquidity depth_0_1_pct depth_0_5_pct depth_1_pct
      depth_5_pct sources =>
      record_liquidity_depth asset_pair total_liquidity depth_0_1_pct depth_0_5_pct depth_1_pct
        depth_5_pct sources
  | .set_expiration_policy caller policy => set_expiration_policy caller policy
  | .set_asset_expiration_ttl caller asset_code ttl_secs =>
      set_asset_expiration_ttl caller asset_code ttl_secs
  | .extend_expiration caller asset_code extra_secs =>
      extend_expiration caller asset_code extra_secs
  | .cleanup_expired_data caller max_records => ignore (cleanup_expired_data caller max_records)
  | .record_pool_state pool_id reserve_a reserve_b total_shares volume fees pool_type =>
      record_pool_state pool_id reserve_a reserve_b total_shares volume fees pool_type
  | .compute_statistics caller asset_code period =>
      ignore (compute_statistics caller asset_code period)
  | .trigger_periodic_stats caller => trigger_periodic_stats caller
  | .set_checkpoint_config caller interval_secs max_checkpoints format_version =>
      set_checkpoint_config caller interval_secs max_checkpoints format_version
  | .create_checkpoint caller label => ignore (create_checkpoint caller label)
  | .restore_from_checkpoint caller checkpoint_id =>
      ignore (restore_from_checkpoint caller checkpoint_id)
  | .set_retention_policy caller data_type retention_secs trigger_interval_secs
      max_deletions_per_run archive_before_delete enabled =>
      set_retention_policy caller data_type retention_secs trigger_interval_secs
        max_deletions_per_run archive_before_delete enabled
  | .set_asset_retention_override caller asset_code data_type retention_secs =>
      set_asset_retention_override caller asset_code data_type retention_secs
  | .cleanup_old_data caller max_total_deletions =>
      ignore (cleanup_old_data caller max_total_deletions)
  | .cleanup_data_type caller data_type max_deletions =>
      ignore (cleanup_data_type caller data_type max_deletions)
  | .grant_role granter grantee role => grant_role granter grantee role
  | .revoke_role revoker target role => revoke_role revoker target role
  | .acl_grant_role caller grantee role expires_at =>
      acl_grant_role caller grantee role expires_at
  | .acl_revoke_role caller grantee role => acl_revoke_role caller grantee role
  | .acl_grant_permission caller grantee permission expires_at =>
      acl_grant_permission caller grantee permission expires_at
  | .acl_revoke_permission caller grantee permission =>
      acl_revoke_permission caller grantee permission
  | .acl_bulk_grant_roles caller entries => acl_bulk_grant_roles caller entries
  | .acl_bulk_revoke_roles caller entries => acl_bulk_revoke_roles caller entries
  | .acl_bulk_grant_permissions caller entries => acl_bulk_grant_permissions caller entries
  | .acl_bulk_revoke_permissions caller entries => acl_bulk_revoke_permissions caller entries
  | .emergency_pause caller reason => emergency_pause caller reason
  | .unpause caller reason => unpause caller reason
  | .set_pause_guardian caller guardian => set_pause_guardian caller guardian
  | .set_emergency_contact caller contact => set_emergency_contact caller contact
  | .configure_emergency_multisig caller operators threshold =>
      configure_emergency_multisig caller operators threshold
  | .emergency_pause_multisig signatures nonce reason =>
      emergency_pause_multisig signatures nonce reason
  | .unpause_emergency_multisig signatures nonce reason =>
      unpause_emergency_multisig signatures nonce reason
  | .set_mismatch_threshold_multisig signatures nonce threshold_bps =>
      set_mismatch_threshold_multisig signatures nonce threshold_bps
  | .blacklist_bridge_multisig signatures nonce bridge_id =>
      blacklist_bridge_multisig signatures nonce bridge_id
  | .delist_oracle_node_multisig signatures nonce node_address =>
      delist_oracle_node_multisig signatures nonce node_address
  | .remove_bridge_from_blacklist caller bridge_id =>
      remove_bridge_from_blacklist caller bridge_id
  | .propose_admin_transfer caller proposed_admin => propose_admin_transfer caller proposed_admin
  | .accept_admin_transfer caller => accept_admin_transfer caller
  | .cancel_admin_transfer caller => cancel_admin_transfer caller
  | .propose_upgrade caller new_wasm_hash emergency migration_callback migration_payload =>
      ignore (propose_upgrade caller new_wasm_hash emergency migration_callback migration_payload)
  | .propose_rollback caller emergency migration_callback migration_payload =>
      ignore (propose_rollback caller emergency migration_callback migration_payload)
  | .approve_upgrade caller proposal_id => ignore (approve_upgrade caller proposal_id)
  | .execute_upgrade caller proposal_id => execute_upgrade caller proposal_id
  | .cancel_upgrade caller proposal_id => cancel_upgrade caller proposal_id
  | .set_config caller category name value description =>
      set_config caller category name value description
  | .set_config_bulk caller updates => set_config_bulk caller updates
  | .init_default_config caller => init_default_config caller
  | .enter_recovery_mode caller reason => enter_recovery_mode caller reason
  | .exit_recovery_mode caller => exit_recovery_mode caller
  | .record_recovery_step caller description => record_recovery_step caller description
  | .register_trusted_source caller source_address name =>
      register_trusted_source caller source_address name
  | .revoke_trusted_source caller source_address => revoke_trusted_source caller source_address

/-- The families of keys that a call may write. -/
def writes : EntryPoint → List Tag
  | .initialize_contract .. => initializeTags
  | .submit_health .. => .Health :: .EVENT_REPLAY_CTR :: .EVENT_REPLAY_LOG :: checkpointTags
  | .submit_health_batch .. => .Health :: checkpointTags
  | .submit_price .. => .Price :: .PriceHist :: checkpointTags
  | .register_signer .. => [.Signer, .SIGNER_LIST]
  | .remove_signer .. => [.Signer]
  | .set_signature_threshold .. => [.SIGNATURE_THRESHOLD]
  | .verify_signature .. => [.SignerNonce, .SigCache]
  | .verify_multi_sig .. => [.SignerNonce, .SigCache]
  | .submit_health_signed .. => signedHealthTags
  | .submit_price_signed .. => .SignerNonce :: .SigCache :: .Price :: .PriceHist :: checkpointTags
  | .submit_health_batch_signed .. => .SignerNonce :: .SigCache :: .Health :: checkpointTags
  | .set_health_weights .. => .HEALTH_WEIGHTS :: checkpointTags
  | .set_risk_score_config .. => .RISK_SCORE_CONFIG :: checkpointTags
  | .submit_calculated_health .. => .Health :: .HealthRes :: checkpointTags
  | .register_health_source .. => [.HEALTH_SOURCES, .ADMIN_ACTIVITY_CTR, .ADMIN_ACTIVITY_LOG]
  | .revoke_health_source .. => [.HEALTH_SOURCES]
  | .submit_health_multi_source .. =>
      [.HealthSourceEntry, .EVENT_REPLAY_CTR, .EVENT_REPLAY_LOG, .ADMIN_ACTIVITY_CTR,
        .ADMIN_ACTIVITY_LOG]
  | .register_asset .. => .MONITORED_ASSETS :: .Health :: checkpointTags
  | .pause_asset .. => .Health :: checkpointTags
  | .unpause_asset .. => .Health :: checkpointTags
  | .deregister_asset .. => .Health :: checkpointTags
  | .lock_asset .. => [.Lock, .LockHist]
  | .unlock_asset .. => [.Lock, .LockHist]
  | .set_deviation_threshold .. => [.DevThresh]
  | .set_deviation_threshold_override .. => [.DevThreshOvr, .AuditLog]
  | .get_deviation_threshold_override .. => [.DevThreshOvr]
  | .clear_dev_threshold_override .. => [.DevThreshOvr, .AuditLog]
  | .check_price_deviation .. => [.DevThreshOvr, .DevAlert]
  | .set_mismatch_threshold .. => [.MISMATCH_THRESHOLD]
  | .set_mismatch_threshold_override .. => [.MmThreshOvr, .AuditLog]
  | .get_mismatch_threshold_override .. => [.MmThreshOvr]
  | .clear_mm_threshold_override .. => [.MmThreshOvr, .AuditLog]
  | .record_supply_mismatch .. => .MmThreshOvr :: .BRIDGE_IDS :: cleanupTags
  | .record_liquidity_depth .. => .LiqDepth :: .LIQUIDITY_PAIRS :: cleanupTags
  | .set_expiration_policy .. => [.EXPIRATIONPOLICY]
  | .set_asset_expiration_ttl .. => [.ExpTtl]
  | .extend_expiration .. => [.Health, .Price, .DevAlert, .HealthRes]
  | .cleanup_expired_data .. => expiryTags
  | .record_pool_state .. => liquidity_pool.poolTags
  | .compute_statistics .. => [.Stats]
  | .trigger_periodic_stats .. => [.Stats]
  | .set_checkpoint_config .. => [.CHECKPOINT_CONFIG, .ChkpntSnap, .CHECKPOINT_METADATA_LIST]
  | .create_checkpoint .. => checkpointTags
  | .restore_from_checkpoint .. => restoreTags ++ checkpointTags
  | .set_retention_policy .. => [.RetPolicy]
  | .set_asset_retention_override .. => [.RetOvr]
  | .cleanup_old_data .. => cleanupTags
  | .cleanup_data_type .. => cleanupTags
  | .grant_role .. => [.RoleKey, .ROLES_LIST]
  | .revoke_role .. => [.RoleKey, .ROLES_LIST]
  | .acl_grant_role .. => [.RoleGrants]
  | .acl_revoke_role .. => [.RoleGrants]
  | .acl_grant_permission .. => [.PermissionGrants]
  | .acl_revoke_permission .. => [.PermissionGrants]
  | .acl_bulk_grant_roles .. => [.RoleGrants]
  | .acl_bulk_revoke_roles .. => [.RoleGrants]
  | .acl_bulk_grant_permissions .. => [.PermissionGrants]
  | .acl_bulk_revoke_permissions .. => [.PermissionGrants]
  | .emergency_pause .. => pauseTags
  | .unpause .. => pauseTags
  | .set_pause_guardian .. => [.PAUSE_GUARDIAN]
  | .set_emergency_contact .. => [.EMERGENCY_CONTACT]
  | .configure_emergency_multisig .. => [.EMERGENCY_MULTISIG_CONFIG, .EMERGENCY_MULTISIG_NONCE]
  | .emergency_pause_multisig .. => multisigTags ++ pauseTags
  | .unpause_emergency_multisig .. => multisigTags ++ pauseTags
  | .set_mismatch_threshold_multisig .. => .MISMATCH_THRESHOLD :: multisigTags
  | .blacklist_bridge_multisig .. => .BRIDGE_BLACKLIST :: multisigTags
  | .delist_oracle_node_multisig .. => .Source :: multisigTags
  | .remove_bridge_from_blacklist .. => [.BRIDGE_BLACKLIST]
  | .propose_admin_transfer .. => [.PENDING_TRANSFER]
  | .accept_admin_transfer .. => [.ADMIN, .PENDING_TRANSFER]
  | .cancel_admin_transfer .. => [.PENDING_TRANSFER]
  | .propose_upgrade .. => [.UPGRADE_PROPOSAL_COUNTER, .PENDING_UPGRADE]
  | .propose_rollback .. => [.UPGRADE_PROPOSAL_COUNTER, .PENDING_UPGRADE]
  | .approve_upgrade .. => [.PENDING_UPGRADE]
  | .execute_upgrade .. => upgradeTags
  | .cancel_upgrade .. => [.PENDING_UPGRADE]
  | .set_config .. => configTags
  | .set_config_bulk .. => configTags
  | .init_default_config .. => configTags
  | .enter_recovery_mode .. => recoveryTags
  | .exit_recovery_mode .. => recoveryTags
  | .record_recovery_step .. => recoveryTags
  | .register_trusted_source .. => [.Source, .AllSources]
  | .revoke_trusted_source .. => [.Source]

instance [Host] (call : EntryPoint) : Writes (writes call) (exec call) := by
  cases call <;> dsimp only [exec, writes] <;> infer_instance

/-- **Frame.** A call changes no record outside its footprint. -/
theorem exec_frame [Host] {call : EntryPoint} {env : Env} {s s' : Storage}
    (h : exec call env s = .ok ((), s')) {k : Key} (hk : k.tag ∉ writes call) : s' k = s k :=
  (inferInstance : Writes (writes call) (exec call)).frame h k hk

/-- A call keeps an invariant that depends on nothing in its footprint. -/
theorem exec_preserves [Host] {I : Storage → Prop} {ts : List Tag} [DependsOn ts I]
    {call : EntryPoint} (h : ∀ t ∈ ts, t ∉ writes call) : Preserves I (exec call) :=
  (inferInstance : Writes (writes call) (exec call)).preserves h

/-! ## Runs -/

/-- The storage before the first call. -/
def empty_storage : Storage := fun _ => none

/-- A call with its environment. -/
abbrev Invocation := Env × EntryPoint

/-- The storage after some calls, of which the failed ones leave no trace. -/
abbrev run [Host] (s : Storage) (calls : List Invocation) : Storage := runFrom exec s calls

/-- A call of `initialize`. -/
def EntryPoint.initializes : EntryPoint → Bool
  | .initialize_contract _ => true
  | _ => false

/-- A host whose hash is the length of the input, thirty-two times. -/
abbrev lengthHost : Host where
  sha256 m := Vector.replicate 32 (UInt8.ofNat m.length)
  ed25519_verify _ _ _ := true
  current_contract_address := .contract zero32

/-- Every address has authorised the call, as the tests of the contract have it. -/
def mock_all_auths (timestamp : U64) : Env := { timestamp, auth := fun _ => true }

/-- An address for a concrete run. -/
def test_address (n : UInt8) : Address := .account (Vector.replicate 32 n)

/-- The result of a call that returns, whatever storage it leaves. -/
def returned {α : Type} (r : Except String (α × Storage)) : Option α := r.toOption.map Prod.fst

theorem exists_of_returned {α : Type} {r : Except String (α × Storage)} {a : α}
    (h : returned r = some a) : ∃ s, r = .ok (a, s) := by
  cases r with
  | error => simp [returned, Except.toOption] at h
  | ok p =>
      rw [returned, Except.toOption, Option.map_some, Option.some.injEq] at h
      exact ⟨p.2, by rw [← h]⟩

/-- The text of a call that fails. -/
def refusal {α : Type} : Except String α → Option String
  | .ok _ => none
  | .error msg => some msg

theorem eq_error_of_refusal {α : Type} {r : Except String α} {msg : String}
    (h : refusal r = some msg) : r = .error msg := by
  cases r with
  | ok => cases h
  | error => rw [Option.some.inj h]

end BridgeWatch.Contract

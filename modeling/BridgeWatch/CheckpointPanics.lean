/-
Checkpoints and the panic "asset is not registered".

A checkpoint raises it for an entry of the list without a record. Where the list and the
records are in step, no checkpoint does, and a call that ends in one raises it only for an
asset that the caller has named. The texts of the other panics on the way are listed, and
none of them is this one.
-/
import BridgeWatch.MonitoredAssets

set_option autoImplicit false
-- The instance of a refusal is as long as its function.
set_option synthInstance.maxSize 4096

namespace BridgeWatch.Contract

open Transaction

/-- The panic of `load_asset_health`. -/
abbrev not_registered : String := "asset is not registered"

/-- The other panics of the calls that take a checkpoint. -/
abbrev other_texts : List String :=
  ["attempt to add with overflow", "Error(Object, IndexBounds)", "Error(Auth, InvalidAction)",
    "called `Option::unwrap()` on a `None` value",
    "unauthorized: caller does not have the required role",
    "contract is globally paused; all write operations are halted",
    "admin functions are locked during a pending admin transfer",
    "only admin or SuperAdmin can manage checkpoints",
    "only admin or SuperAdmin can set health weights",
    "only admin or SuperAdmin can set risk score config",
    "caller is not a trusted source",
    "asset is locked for maintenance",
    "asset is deregistered",
    "asset monitoring is paused",
    "batch size exceeds the maximum of 20 records",
    "asset is already registered",
    "cannot pause a deregistered asset",
    "cannot unpause a deregistered asset",
    "checkpoint not found",
    "signer not found",
    "signer is not active",
    "signature has expired",
    "nonce replay detected",
    "invalid signature",
    "duplicate signer in multi-sig",
    "insufficient signatures",
    "signatures below configured threshold",
    "each weight must be between 0 and 100",
    "weights must sum to 100",
    "methodology version must be greater than 0",
    "risk weights must be between 0 and 10000",
    "risk weights must sum to 10000",
    "max_price_deviation_bps must be greater than zero",
    "max_volatility_bps must be greater than zero",
    "risk score config version must be greater than 0",
    "liquidity_score" ++ " must be between 0 and 100",
    "price_stability_score" ++ " must be between 0 and 100",
    "bridge_uptime_score" ++ " must be between 0 and 100",
    "manual_override" ++ " must be between 0 and 100"]

theorem not_registered_not_mem : not_registered ∉ other_texts := by decide

instance (text : String) [h : Among text other_texts] : Differs text not_registered :=
  ⟨fun heq => not_registered_not_mem (heq ▸ h.mem)⟩

/-- Where the list and the records are in step and the assets `named` have records, `m` does not
panic with "asset is not registered". -/
abbrev Quiet (named : List SString) {α : Type} (m : Soroban α) : Prop :=
  Avoids not_registered (AssetInvariant named) m

section Guards

variable {named : List SString} (caller : Address) (asset_code : SString)

instance (role : AdminRole) : Quiet named (check_permission caller role) := by
  unfold check_permission has_role_internal
  infer_instance

instance : Quiet named assert_not_globally_paused := by
  unfold assert_not_globally_paused
  infer_instance

instance : Quiet named check_no_pending_transfer := by
  unfold check_no_pending_transfer
  infer_instance

instance (msg : String) [Among msg other_texts] :
    Quiet named (assert_admin_or_super_admin_with msg caller) := by
  unfold assert_admin_or_super_admin_with is_authorized has_role_internal
  infer_instance

instance : Quiet named (assert_asset_not_locked asset_code) := by
  unfold assert_asset_not_locked
  infer_instance

instance (record : AssetHealth) : Quiet named (assert_asset_accepting_submissions record) := by
  unfold assert_asset_accepting_submissions
  infer_instance

instance : Quiet named (assert_trusted_when_enforced caller) := by
  unfold assert_trusted_when_enforced source_trust.get_active_trusted_sources
    source_trust.get_all_trusted_sources source_trust.require_trusted_source
    source_trust.is_trusted_source
  infer_instance

/-- The record of a named asset is there. -/
instance [h : Among asset_code named] : Quiet named (load_asset_health asset_code) where
  ne_error := by
    intro env s hs heq
    obtain ⟨record, hrecord⟩ := Option.ne_none_iff_exists'.mp (hs.named _ h.mem)
    simp only [load_asset_health, bind_eq_error, load_eq_error, load_eq_ok, false_or, and_assoc,
      exists_and_left, exists_eq_left, hrecord] at heq
    cases heq

end Guards

/-! ## The hash of a checkpoint -/

section Hash

instance (text : SString) : Spared not_registered (str_to_bytes_inner text) := by
  unfold str_to_bytes_inner
  infer_instance

instance (buf : Buffer) (text : SString) : Spared not_registered (append_string buf text) := by
  unfold append_string
  infer_instance

instance (buf : Buffer) (asset : CheckpointAssetState) :
    Spared not_registered (append_checkpoint_asset buf asset) := by
  unfold append_checkpoint_asset append_asset_health append_price_record
  infer_instance

instance [Host] (snapshot : CheckpointSnapshot) :
    Spared not_registered (compute_checkpoint_hash snapshot) := by
  unfold compute_checkpoint_hash
  infer_instance

end Hash

/-! ## Taking a checkpoint -/

section Checkpoint

variable {named : List SString}

instance (x y : U64) : Quiet named (add_u64 x y) := by
  unfold add_u64
  infer_instance

instance (x y : U32) : Quiet named (add_u32 x y) := by
  unfold add_u32
  infer_instance

instance (now last secs : U64) : Quiet named (within_interval now last secs) := by
  unfold within_interval
  infer_instance

instance {α : Type} (now : U64) (max_deletions deleted : U32) (retention_secs : α → Soroban U64)
    (created_at : α → U64) (delete : α → Soroban Unit) (l : List α)
    [∀ record, Preserves (AssetInvariant named) (retention_secs record)]
    [∀ record, Quiet named (retention_secs record)]
    [∀ record, Preserves (AssetInvariant named) (delete record)]
    [∀ record, Quiet named (delete record)]
    [∀ deleted l, Preserves (AssetInvariant named)
      (sweep now max_deletions retention_secs created_at delete deleted l)] :
    Quiet named (sweep now max_deletions retention_secs created_at delete deleted l) := by
  induction l generalizing deleted with
  | nil | cons =>
      unfold sweep
      infer_instance

instance (policy : RetentionPolicy) (max_deletions : U32) :
    Quiet named (cleanup_supply_mismatches policy max_deletions) := by
  unfold cleanup_supply_mismatches cleanup_lists load_mismatches archive_mismatches
    resolve_retention_secs
  infer_instance

instance (policy : RetentionPolicy) (max_deletions : U32) :
    Quiet named (cleanup_liquidity_history policy max_deletions) := by
  unfold cleanup_liquidity_history cleanup_lists load_liquidity_history archive_liquidity_history
    resolve_retention_secs
  infer_instance

instance (policy : RetentionPolicy) (metadata : CheckpointMetadata) :
    Quiet named (delete_checkpoint policy metadata) := by
  unfold delete_checkpoint
  infer_instance

instance (policy : RetentionPolicy) (max_deletions : U32) :
    Quiet named (cleanup_checkpoints policy max_deletions) := by
  unfold cleanup_checkpoints load_checkpoint_metadata archive_checkpoint_metadata
  infer_instance

instance (data_type : RetentionDataType) (policy : RetentionPolicy) (max_deletions : U32) :
    Quiet named (cleanup_data_type_internal data_type policy max_deletions) := by
  unfold cleanup_data_type_internal cleanup_of
  cases data_type <;> infer_instance

instance : Quiet named maybe_trigger_auto_cleanup := by
  unfold maybe_trigger_auto_cleanup load_retention_policy
  infer_instance

instance (max_checkpoints : U32) (l : List CheckpointMetadata) :
    Quiet named (prune_loop max_checkpoints l) := by
  induction l with
  | nil | cons =>
      unfold prune_loop
      infer_instance

instance (config : CheckpointConfig) : Quiet named (prune_checkpoints config) := by
  unfold prune_checkpoints load_checkpoint_metadata
  infer_instance

/-- The loop over assets that all have records. -/
theorem checkpoint_assets_quiet (assets : List SString) : Quiet assets (checkpoint_assets assets) := by
  apply Avoids.foldlM
  intro a ha states
  have : Among a assets := ⟨ha⟩
  unfold checkpoint_asset
  infer_instance

/-- The list of a store in which it is in step with the records. -/
theorem AssetInvariant.self {s : Storage} (hs : AssetInvariant named s) :
    AssetInvariant (monitored_assets s) s :=
  { hs with named := hs.recorded }

instance (caller : Address) (trigger : CheckpointTrigger) (label : SString)
    (restored_from : Option U64) : Quiet named (take_snapshot caller trigger label restored_from) where
  ne_error := by
    intro env s hs heq
    simp only [take_snapshot, load_checkpoint_config, load_health_weights, load_risk_score_config,
      load_registered_assets_raw, bind_eq_error, bind_eq_ok, load_eq_error, load_eq_ok, reads_eq_error,
      reads_eq_ok, pure_eq_error, pure_eq_ok, false_or, or_false, and_assoc, exists_and_left,
      exists_eq_left, exists_const, and_false] at heq
    rcases heq with hadd | ⟨_, s₁, hadd, hassets⟩
    · exact Avoids.ne_error hs hadd
    · obtain rfl : s₁ = s := Writes.store_eq inferInstance hadd
      exact (checkpoint_assets_quiet _).ne_error hs.self hassets

theorem store_checkpoint_quiet {snapshot : CheckpointSnapshot} (hsnapshot : snapshot.Complete)
    (metadata : CheckpointMetadata) : Quiet named (store_checkpoint snapshot metadata) := by
  have : Preserves (AssetInvariant named) _ := save_snapshot_preserves hsnapshot
  unfold store_checkpoint load_checkpoint_metadata
  infer_instance

variable [Host] (caller : Address)

/-- **Checkpoint.** Where the list and the records are in step, a checkpoint does not panic with
"asset is not registered". -/
instance (trigger : CheckpointTrigger) (label : SString) (restored_from : Option U64) :
    Quiet named (persist_checkpoint caller trigger label restored_from) := by
  unfold persist_checkpoint load_checkpoint_config
  apply Avoids.bind
  intro _ _ config _ _ _
  apply Avoids.bind
  intro env s snapshot s₁ hs htake
  -- what is stored is complete, since the list and the records are in step here
  have hsnapshot := (take_snapshot_of htake).complete hs.nodup
  have (metadata : CheckpointMetadata) : Preserves (AssetInvariant named) _ :=
    store_checkpoint_preserves metadata (save_snapshot_preserves hsnapshot)
  have (metadata : CheckpointMetadata) : Quiet named _ := store_checkpoint_quiet hsnapshot metadata
  infer_instance

instance : Quiet named (maybe_create_auto_checkpoint caller) := by
  unfold maybe_create_auto_checkpoint load_checkpoint_config
  infer_instance

end Checkpoint

/-! ## The calls that take a checkpoint -/

section Calls

variable [Host] {named : List SString} (caller : Address) (asset_code : SString)

omit [Host] in
instance (event_type subject : SString) (value : I128) :
    Quiet named (append_replay_event event_type caller subject value) := by
  unfold append_replay_event
  infer_instance

omit [Host] in
instance (kind : ExpirationKind) (timestamp : U64) : Quiet named (resolve_expiration kind timestamp) := by
  unfold resolve_expiration load_expiration_policy
  infer_instance

instance [Among asset_code named] (x y z w : U32) :
    Quiet named (submit_health caller asset_code x y z w) := by
  unfold submit_health
  infer_instance

instance [Among asset_code named] (price : I128) (source : SString) :
    Quiet named (submit_price caller asset_code price source) := by
  unfold submit_price
  infer_instance

omit [Host] in
instance (now : U64) (item : HealthScoreBatch) :
    Preserves (AssetInvariant named) (submit_health_item now item) := by
  unfold submit_health_item
  infer_instance

omit [Host] in
instance (now : U64) (item : HealthScoreBatch) [Among item.asset_code named] :
    Quiet named (submit_health_item now item) := by
  unfold submit_health_item
  infer_instance

/-- The records of a batch are of named assets. -/
instance (records : List HealthScoreBatch) :
    Quiet (records.map HealthScoreBatch.asset_code) (submit_health_batch caller records) := by
  have (now : U64) : Quiet (records.map HealthScoreBatch.asset_code)
      (records.foldlM (fun _ item => submit_health_item now item) () : Soroban Unit) := by
    apply Avoids.foldlM
    intro item hitem _
    have : Among item.asset_code (records.map HealthScoreBatch.asset_code) :=
      ⟨List.mem_map_of_mem hitem⟩
    infer_instance
  unfold submit_health_batch
  infer_instance

/-! ## Signed submissions -/

omit [Host] in
instance (x y z w : U32) : Spared not_registered (build_health_message asset_code x y z w) := by
  unfold build_health_message
  infer_instance

omit [Host] in
instance (price : I128) (source : SString) :
    Spared not_registered (build_price_message asset_code price source) := by
  unfold build_price_message
  infer_instance

omit [Host] in
instance (records : List HealthScoreBatch) : Spared not_registered (build_batch_message records) := by
  unfold build_batch_message
  infer_instance

instance (message : Buffer) (signer : Signer) (signature : SignerSignature) :
    Quiet named (check_signature message signer signature) := by
  unfold check_signature
  infer_instance

instance (message : Buffer) (signature : SignerSignature) :
    Quiet named (verify_signature message signature) := by
  unfold verify_signature load_signer
  infer_instance

instance (message : Buffer) (signatures : List SignerSignature) :
    Quiet named (verify_multi_sig message signatures) := by
  unfold verify_multi_sig get_signature_threshold verify_next
  infer_instance

instance [Among asset_code named] (x y z w : U32) (signature : SignerSignature) :
    Quiet named (submit_health_signed caller asset_code x y z w signature) := by
  unfold submit_health_signed
  infer_instance

instance [Among asset_code named] (price : I128) (source : SString) (signature : SignerSignature) :
    Quiet named (submit_price_signed caller asset_code price source signature) := by
  unfold submit_price_signed
  infer_instance

instance (records : List HealthScoreBatch) (signatures : List SignerSignature) :
    Quiet (records.map HealthScoreBatch.asset_code)
      (submit_health_batch_signed caller records signatures) := by
  unfold submit_health_batch_signed
  infer_instance

/-! ## Weights, configurations and assets -/

instance (x y z w : U32) : Quiet named (set_health_weights caller x y z w) := by
  unfold set_health_weights validate_weights
  infer_instance

instance (config : RiskScoreConfig) : Quiet named (set_risk_score_config caller config) := by
  unfold set_risk_score_config validate_risk_score_config
  infer_instance

omit [Host] in
instance (x y z : U32) : Quiet named (validate_scores x y z) := by
  unfold validate_scores validate_score_range
  infer_instance

omit [Host] in
instance (manual_override : Option U32) (x : U32) : Quiet named (final_score manual_override x) := by
  unfold final_score validate_score_range
  infer_instance

instance [Among asset_code named] (x y z : U32) (manual_override : Option U32) :
    Quiet named (submit_calculated_health caller asset_code x y z manual_override) := by
  unfold submit_calculated_health load_health_weights
  infer_instance

instance (status : AssetHealth) (active paused : Bool) :
    Quiet named (store_status caller asset_code status active paused) := by
  unfold store_status
  infer_instance

instance [Among asset_code named] : Quiet named (pause_asset caller asset_code) := by
  unfold pause_asset
  infer_instance

instance [Among asset_code named] : Quiet named (unpause_asset caller asset_code) := by
  unfold unpause_asset
  infer_instance

instance [Among asset_code named] : Quiet named (deregister_asset caller asset_code) := by
  unfold deregister_asset
  infer_instance

instance : Quiet named (register_asset caller asset_code) where
  ne_error := by
    intro env s hs heq
    unfold register_asset at heq
    obtain ⟨_, s₁, hpause, h₁⟩ := Avoids.of_bind_eq_error hs heq
    obtain rfl : s₁ = s := Writes.store_eq inferInstance hpause
    obtain ⟨_, s₂, hperm, h₂⟩ := Avoids.of_bind_eq_error hs h₁
    obtain rfl : s₂ = s₁ := Writes.store_eq inferInstance hperm
    simp only [bind_eq_error, load_eq_error, load_eq_ok, reads_eq_error, reads_eq_ok, save_eq_error,
      false_or, and_assoc, exists_and_left, exists_eq_left] at h₂
    obtain ⟨assets, _, hassets, h₃⟩ := h₂.resolve_left (Avoids.ne_error hs)
    obtain ⟨hassets, rfl⟩ := expect_eq_ok.mp hassets
    obtain ⟨_, _, hguard, h₄⟩ := h₃.resolve_left (Avoids.ne_error hs)
    obtain ⟨hnew, rfl⟩ := panic_if_eq_ok.mp hguard
    obtain ⟨expires_at, s₃, hexpires, _, s₄, hhealth, _, s₅, hlist, hcheckpoint⟩ :=
      h₄.resolve_left (Avoids.ne_error hs)
    obtain rfl := Writes.store_eq inferInstance hexpires
    rw [save_eq_ok] at hhealth hlist
    subst hhealth hlist
    exact Avoids.ne_error (hs.register hassets hnew) hcheckpoint

omit [Host] in
instance (snapshot : CheckpointSnapshot) :
    Avoids not_registered (fun _ => True) (restore_snapshot snapshot) := by
  unfold restore_snapshot load_registered_assets_raw forget_asset restore_asset
  infer_instance

/-- What is restored is complete. -/
instance (checkpoint_id : U64) : Quiet [] (restore_from_checkpoint caller checkpoint_id) where
  ne_error := by
    intro env s hs heq
    unfold restore_from_checkpoint get_checkpoint_or_panic at heq
    obtain ⟨_, s₁, hauth, h₁⟩ := Avoids.of_bind_eq_error hs heq
    obtain rfl : s₁ = s := Writes.store_eq inferInstance hauth
    obtain ⟨snapshot, s₂, hload, h₂⟩ := Avoids.of_bind_eq_error hs h₁
    simp only [bind_eq_ok, load_eq_ok, expect_eq_ok, and_assoc, exists_and_left, exists_eq_left]
      at hload
    obtain ⟨hsnapshot, rfl⟩ := hload
    obtain ⟨_, s₃, hrestore, h₃⟩ := Avoids.of_bind_eq_error (I := fun _ => True) trivial h₂
    have hs₃ := restore_snapshot_preserves hs (hs.snapshots _ snapshot hsnapshot) hrestore
    exact Avoids.ne_error hs₃ h₃

/-- The calls that may take a checkpoint: but for the initialization, nothing else sets its time. -/
def EntryPoint.takes_checkpoint (call : EntryPoint) : Bool :=
  !call.initializes && decide (Tag.LAST_CHECKPOINT_AT ∈ writes call)

/-- The assets whose records such a call asks for. -/
def EntryPoint.named_assets : EntryPoint → List SString
  | .submit_health _ asset_code .. | .submit_price _ asset_code ..
  | .submit_health_signed _ asset_code .. | .submit_price_signed _ asset_code ..
  | .submit_calculated_health _ asset_code .. | .pause_asset _ asset_code
  | .unpause_asset _ asset_code | .deregister_asset _ asset_code => [asset_code]
  | .submit_health_batch _ records | .submit_health_batch_signed _ records _ =>
      records.map HealthScoreBatch.asset_code
  | _ => []

/-- **Call.** Where the list and the records are in step, and the assets that the call names have
records, it does not panic with "asset is not registered". -/
theorem exec_quiet {call : EntryPoint} (hcall : call.takes_checkpoint = true) :
    Quiet call.named_assets (exec call) := by
  rw [EntryPoint.takes_checkpoint, Bool.and_eq_true, decide_eq_true_eq] at hcall
  obtain ⟨hinit, hwrites⟩ := hcall
  cases call
  case initialize_contract => cases hinit
  case submit_health =>
    dsimp only [exec, EntryPoint.named_assets]
    infer_instance
  case submit_health_batch =>
    dsimp only [exec, EntryPoint.named_assets]
    infer_instance
  case submit_price =>
    dsimp only [exec, EntryPoint.named_assets]
    infer_instance
  case submit_health_signed =>
    dsimp only [exec, EntryPoint.named_assets]
    infer_instance
  case submit_price_signed =>
    dsimp only [exec, EntryPoint.named_assets]
    infer_instance
  case submit_health_batch_signed =>
    dsimp only [exec, EntryPoint.named_assets]
    infer_instance
  case submit_calculated_health =>
    dsimp only [exec, EntryPoint.named_assets]
    infer_instance
  case pause_asset =>
    dsimp only [exec, EntryPoint.named_assets]
    infer_instance
  case unpause_asset =>
    dsimp only [exec, EntryPoint.named_assets]
    infer_instance
  case deregister_asset =>
    dsimp only [exec, EntryPoint.named_assets]
    infer_instance
  -- these name no asset whose record they ask for
  case set_health_weights | set_risk_score_config | register_asset =>
    dsimp only [exec]
    infer_instance
  case create_checkpoint =>
    dsimp only [exec, ignore, create_checkpoint]
    infer_instance
  case restore_from_checkpoint =>
    dsimp only [exec, ignore, EntryPoint.named_assets]
    infer_instance
  -- the others take no checkpoint
  all_goals
    dsimp only [writes] at hwrites
    exact absurd hwrites (by decide)

end Calls

/-! ## Runs -/

section Runs

variable [Host]

/-- The list and the records are in step, and no checkpoint finds an asset without a record: neither
one that is taken as it is, nor one at the end of a call about registered assets. -/
structure Checkpointable (s : Storage) : Prop extends Monitored s where
  checkpoint : ∀ (caller : Address) (trigger : CheckpointTrigger) (label : SString)
    (restored_from : Option U64) (env : Env),
    persist_checkpoint caller trigger label restored_from env s ≠ .error not_registered
  call : ∀ (env : Env) (call : EntryPoint), call.takes_checkpoint = true →
    (∀ a ∈ call.named_assets, s (.Health a) ≠ none) → exec call env s ≠ .error not_registered

theorem AssetInvariant.checkpointable {s : Storage} (hs : AssetInvariant [] s) : Checkpointable s where
  toMonitored := hs.toMonitored
  checkpoint := by
    intro caller trigger label restored_from env
    exact Avoids.ne_error hs
  call := by
    intro env call hcall hnamed
    exact (exec_quiet hcall).ne_error { hs with named := hnamed }

/-- **Every monitored asset has a health record**, and no checkpoint panics for want of one, after
every run in which each expiry cleanup spares the health records of the listed assets. -/
theorem monitored_run (env : Env) (admin : Address) {calls : List Invocation}
    (h : ∀ t ∈ calls, t.2.initializes = false)
    (hspares : Along exec SparesRecords (step exec (env, .initialize_contract admin) empty_storage)
      calls) :
    Checkpointable (run empty_storage ((env, .initialize_contract admin) :: calls)) :=
  (assetInvariant_run env admin h hspares).checkpointable

end Runs

/-! ## Concrete runs -/

/-- An asset is registered, and the cleanup finds nothing that has expired. -/
def spared_asset : List Invocation :=
  [(mock_all_auths 1, .register_asset (test_address 0) (str "USDC")),
    (mock_all_auths 5000, .cleanup_expired_data (test_address 0) 10)]

/-- An asset is registered, and a day later there is a cleanup. -/
def unrecorded_asset : List Invocation :=
  [(mock_all_auths 1, .register_asset (test_address 0) (str "USDC")),
    (mock_all_auths 90000, .cleanup_expired_data (test_address 0) 10)]

theorem monitored_run_spared :
    @Checkpointable lengthHost
      (@run lengthHost empty_storage
        ((mock_all_auths 1, .initialize_contract (test_address 0)) :: spared_asset)) := by
  let _ : Host := lengthHost
  apply monitored_run
  · decide
  · refine ⟨?_, ?_, trivial⟩
    · intro caller max_records heq
      cases heq
    · intro caller max_records heq _ _
      cases heq
      decide +kernel

/-- **A monitored asset without a record.** The cleanup removes the expired record and leaves the
asset in the list; then no checkpoint can be taken. -/
theorem unrecorded_asset_panics :
    ∃ (_ : Host), (∀ t ∈ unrecorded_asset, t.2.initializes = false) ∧
      ¬Monitored (run empty_storage
        ((mock_all_auths 1, .initialize_contract (test_address 0)) :: unrecorded_asset)) ∧
      exec (.create_checkpoint (test_address 0) (str "manual")) (mock_all_auths 90001)
        (run empty_storage
          ((mock_all_auths 1, .initialize_contract (test_address 0)) :: unrecorded_asset)) =
        .error not_registered := by
  let _ : Host := lengthHost
  refine ⟨lengthHost, by decide, fun hmonitored => ?_, eq_error_of_refusal (by decide +kernel)⟩
  exact hmonitored.recorded (str "USDC") (by decide +kernel) (by decide +kernel)

end BridgeWatch.Contract

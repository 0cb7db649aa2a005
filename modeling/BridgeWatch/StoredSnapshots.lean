/-
Stored snapshots: what was captured once stays as it was captured.

A snapshot lists every asset once, with its records, and an absent price or result leaves a
placeholder. Snapshots are only ever taken of the current state or dropped, and the list of the
assets is extended by new ones, emptied by `initialize`, or replaced by that of a snapshot.
-/
import BridgeWatch.MonitoredAssets

set_option autoImplicit false
-- The instance of an invariant is as long as the function that keeps it.
set_option synthInstance.maxSize 4096

namespace BridgeWatch.Contract

open Transaction

/-! ## The state of an asset -/

/-- The price in the state of an asset, or its absence. -/
def CheckpointAssetState.latest_price_opt (state : CheckpointAssetState) : Option PriceRecord :=
  if state.has_latest_price = true then some state.latest_price else none

/-- The result in the state of an asset, or its absence. -/
def CheckpointAssetState.health_result_opt (state : CheckpointAssetState) :
    Option HealthScoreResult :=
  if state.has_health_result = true then some state.health_result else none

/-- The state has the placeholders that a checkpoint puts for what is absent. -/
def CheckpointAssetState.Captured (state : CheckpointAssetState) : Prop :=
  state = asset_state state.asset_code state.health state.latest_price_opt state.health_result_opt

/-- The records of the asset are those of the state. -/
structure CheckpointAssetState.RecordedIn (state : CheckpointAssetState) (s : Storage) : Prop where
  health : s (.Health state.asset_code) = some state.health
  price : s (.Price state.asset_code) = state.latest_price_opt
  result : s (.HealthRes state.asset_code) = state.health_result_opt

section States

variable {s : Storage} {asset_code : SString} {state : CheckpointAssetState}

@[simp] theorem asset_state_latest_price_opt {health : AssetHealth} {price : Option PriceRecord}
    {result : Option HealthScoreResult} :
    (asset_state asset_code health price result).latest_price_opt = price := by
  cases price with
  | none => rfl
  | some => rfl

@[simp] theorem asset_state_health_result_opt {health : AssetHealth} {price : Option PriceRecord}
    {result : Option HealthScoreResult} :
    (asset_state asset_code health price result).health_result_opt = result := by
  cases result with
  | none => rfl
  | some => rfl

theorem Captures.captured (h : Captures s asset_code state) : state.Captured := by
  obtain ⟨health, -, rfl⟩ := h
  rw [CheckpointAssetState.Captured, asset_state_latest_price_opt, asset_state_health_result_opt]
  rfl

/-- What is captured is what is recorded. -/
theorem captures_iff :
    Captures s asset_code state ↔
      state.asset_code = asset_code ∧ state.Captured ∧ state.RecordedIn s := by
  constructor
  · intro h
    have hcaptured := h.captured
    obtain ⟨health, hhealth, rfl⟩ := h
    refine ⟨rfl, hcaptured, hhealth, ?_, ?_⟩
    · rw [asset_state_latest_price_opt]
      rfl
    · rw [asset_state_health_result_opt]
      rfl
  · rintro ⟨rfl, hcaptured, hhealth, hprice, hresult⟩
    refine ⟨state.health, hhealth, ?_⟩
    rw [hprice, hresult]
    exact hcaptured

/-- A checkpoint of recorded states captures the same states again. -/
theorem captures_of_recorded {states : List CheckpointAssetState}
    (hcaptured : ∀ state ∈ states, state.Captured) (hrecorded : ∀ state ∈ states, state.RecordedIn s) :
    (states.map CheckpointAssetState.asset_code).Forall₂ (Captures s) states := by
  rw [List.forall₂_map_left_iff, List.forall₂_same]
  intro state hmem
  exact captures_iff.mpr ⟨rfl, hcaptured state hmem, hrecorded state hmem⟩

theorem Captures.unique {state' : CheckpointAssetState} (h : Captures s asset_code state)
    (h' : Captures s asset_code state') : state = state' := by
  obtain ⟨health, hhealth, rfl⟩ := h
  obtain ⟨health', hhealth', rfl⟩ := h'
  rw [hhealth, Option.some.injEq] at hhealth'
  rw [hhealth']

end States

/-! ## The invariant -/

/-- A complete snapshot with the placeholders that a checkpoint puts. -/
structure CheckpointSnapshot.Taken (snapshot : CheckpointSnapshot) : Prop extends
    snapshot.Complete where
  captured : ∀ state ∈ snapshot.assets, state.Captured

/-- What holds of the list and of the stored snapshots, whatever the calls were. -/
structure SnapshotInvariant (s : Storage) : Prop where
  nodup : (monitored_assets s).Nodup
  snapshots : ∀ id snapshot, s (.ChkpntSnap id) = some snapshot → snapshot.Taken

section Invariant

variable {env : Env} {s s' : Storage}

theorem SnapshotOf.taken {snapshot : CheckpointSnapshot} (h : SnapshotOf s snapshot)
    (hnodup : (monitored_assets s).Nodup) : snapshot.Taken where
  toComplete := h.complete hnodup
  captured := by
    intro state hmem
    obtain ⟨i, hi, rfl⟩ := List.getElem_of_mem hmem
    have hlength := h.assets.length_eq
    exact (h.assets.get (by omega) hi).captured

theorem SnapshotInvariant.congr (h : SnapshotInvariant s)
    (hassets : s' .MONITORED_ASSETS = s .MONITORED_ASSETS)
    (hsnapshots : ∀ id snapshot, s' (.ChkpntSnap id) = some snapshot → snapshot.Taken) :
    SnapshotInvariant s' := by
  refine ⟨?_, hsnapshots⟩
  rw [monitored_assets, hassets]
  exact h.nodup

/-- The list is replaced. -/
theorem SnapshotInvariant.replace (h : SnapshotInvariant s) {assets : List SString}
    (hassets : s' .MONITORED_ASSETS = some assets) (hnodup : assets.Nodup)
    (hsnapshots : ∀ id, s' (.ChkpntSnap id) = s (.ChkpntSnap id)) : SnapshotInvariant s' := by
  constructor
  · rw [monitored_assets, hassets, Option.getD_some]
    exact hnodup
  · intro id snapshot hsnapshot
    rw [hsnapshots] at hsnapshot
    exact h.snapshots id snapshot hsnapshot

instance : DependsOn [Tag.MONITORED_ASSETS, .ChkpntSnap] SnapshotInvariant where
  congr := by
    intro s s' heq h
    apply h.congr (heq .MONITORED_ASSETS (by decide))
    intro id snapshot hsnapshot
    rw [heq (.ChkpntSnap id) (show Tag.ChkpntSnap ∈ _ by decide)] at hsnapshot
    exact h.snapshots id snapshot hsnapshot

theorem save_taken_preserves {snapshot : CheckpointSnapshot} (htaken : snapshot.Taken) :
    Preserves SnapshotInvariant
      (save (.ChkpntSnap snapshot.checkpoint_id) snapshot : Soroban Unit) where
  preserved := by
    intro env s u s' hs h
    rw [save_eq_ok] at h
    subst h
    refine hs.congr ?_ ?_
    · rfl
    intro id snapshot' hsnapshot'
    by_cases heq : id = snapshot.checkpoint_id
    · subst heq
      rw [Function.update_self, Option.some.injEq] at hsnapshot'
      rwa [← hsnapshot']
    · rw [Function.update_of_ne (by simpa using heq)] at hsnapshot'
      exact hs.snapshots id snapshot' hsnapshot'

instance : BearsCheckpoints SnapshotInvariant where
  others m hm := hm.preserves (by decide)
  drop checkpoint_id := by
    constructor
    intro env s u s' hs h
    rw [remove_eq_ok] at h
    subst h
    refine hs.congr ?_ ?_
    · rfl
    intro id snapshot hsnapshot
    by_cases heq : id = checkpoint_id
    · rw [heq, Function.update_self] at hsnapshot
      cases hsnapshot
    · rw [Function.update_of_ne (by simpa using heq)] at hsnapshot
      exact hs.snapshots id snapshot hsnapshot
  take hs htake := save_taken_preserves ((take_snapshot_of htake).taken hs.nodup)

/-- What these calls may write besides. -/
abbrev unsnappedTags : List Tag :=
  [.Health, .Price, .PriceHist, .DevAlert, .HealthRes, .HEALTH_WEIGHTS, .RISK_SCORE_CONFIG,
    .SignerNonce, .SigCache, .EVENT_REPLAY_CTR, .EVENT_REPLAY_LOG, .MmThreshOvr, .BRIDGE_IDS,
    .LiqDepth, .LIQUIDITY_PAIRS, .CHECKPOINT_CONFIG]

instance (priority := low) {α : Type} (m : Soroban α) [h : Writes unsnappedTags m] :
    Preserves SnapshotInvariant m :=
  h.preserves (by decide)

variable [Host] (caller : Address)

instance (asset_code : SString) : Preserves SnapshotInvariant (register_asset caller asset_code) where
  preserved := by
    intro env s u s' hs h
    obtain ⟨assets, record, hassets, hnew, hcheckpoint⟩ := register_asset_stores h
    have hnodup : (assets ++ [asset_code]).Nodup := by
      have hold := hs.nodup
      rw [monitored_assets, hassets, Option.getD_some] at hold
      rw [List.nodup_append]
      refine ⟨hold, List.nodup_singleton _, ?_⟩
      rintro a ha b hb rfl
      exact hnew (List.mem_singleton.mp hb ▸ ha)
    refine Preserves.preserved (hs.replace ?_ hnodup ?_) hcheckpoint
    · simp
    · intro id
      simp

instance (checkpoint_id : U64) :
    Preserves SnapshotInvariant (restore_from_checkpoint caller checkpoint_id) where
  preserved := by
    intro env s metadata s' hs h
    obtain ⟨-, snapshot, s₁, hsnapshot, hrestore, hcheckpoint⟩ := restore_from_checkpoint_steps h
    have htaken := hs.snapshots _ snapshot hsnapshot
    refine Preserves.preserved (hs.replace (restore_snapshot_spec hrestore) htaken.nodup ?_) hcheckpoint
    intro id
    exact (inferInstance : Writes restoreTags _).frame hrestore (.ChkpntSnap id)
      (show Tag.ChkpntSnap ∉ _ by decide)

omit [Host] in
instance (admin : Address) : Preserves SnapshotInvariant (initialize_contract admin) where
  preserved := by
    intro env s u s' hs h
    apply hs.replace (initialize_contract_spec h).2.assets List.nodup_nil
    intro id
    exact (inferInstance : Writes initializeTags _).frame h (.ChkpntSnap id)
      (show Tag.ChkpntSnap ∉ _ by decide)

instance (asset_code : SString) (x y z w : U32) :
    Preserves SnapshotInvariant (submit_health caller asset_code x y z w) := by
  unfold submit_health
  infer_instance

instance (records : List HealthScoreBatch) :
    Preserves SnapshotInvariant (submit_health_batch caller records) := by
  unfold submit_health_batch
  infer_instance

instance (asset_code : SString) (price : I128) (source : SString) :
    Preserves SnapshotInvariant (submit_price caller asset_code price source) := by
  unfold submit_price
  infer_instance

/-- **Step.** Every call keeps the invariant. -/
instance (call : EntryPoint) : Preserves SnapshotInvariant (exec call) := by
  by_cases hcall : ∀ t ∈ [Tag.MONITORED_ASSETS, .ChkpntSnap], t ∉ writes call
  · exact exec_preserves hcall
  · cases call
    -- the calls that take a checkpoint, drop some or change the list
    all_goals first
      | exact absurd (by dsimp only [writes]; decide) hcall
      | dsimp only [exec, submit_health_signed, submit_price_signed, submit_health_batch_signed,
          set_health_weights, set_risk_score_config, submit_calculated_health, pause_asset,
          unpause_asset, deregister_asset, store_status, record_supply_mismatch,
          record_liquidity_depth, set_checkpoint_config, create_checkpoint, cleanup_old_data,
          cleanup_data_type]
        infer_instance

/-- **Run.** -/
theorem snapshotInvariant_run (calls : List Invocation) :
    SnapshotInvariant (run empty_storage calls) := by
  refine run_invariant (C := fun _ _ => True) (fun hs _ hok => Preserves.preserved hs hok) ?_
    (Along.of_forall fun _ _ _ => trivial)
  constructor
  · exact List.nodup_nil
  · intro id snapshot hsnapshot
    cases hsnapshot

end Invariant

end BridgeWatch.Contract

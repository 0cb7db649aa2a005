/-
Monitored assets: the list and the health records stay in step, but for one operation.

A checkpoint reads the record of every asset of the list and panics where one is missing,
and most writes end in a checkpoint. The list and the records are edited apart: by
registrations, by restorations of a stored snapshot, and by the expiry cleanup, which
removes a record and leaves the asset in the list.
-/
import BridgeWatch.CheckpointRules
import BridgeWatch.HealthRecords

set_option autoImplicit false
-- The instance of an invariant is as long as the function that keeps it.
set_option synthInstance.maxSize 4096

namespace BridgeWatch.Contract

open Transaction

/-- The list has no duplicates, and each of its entries has a record. -/
structure Monitored (s : Storage) : Prop where
  nodup : (monitored_assets s).Nodup
  recorded : ∀ a ∈ monitored_assets s, s (.Health a) ≠ none

/-- A snapshot of a list without duplicates, with the state of every entry. -/
structure CheckpointSnapshot.Complete (snapshot : CheckpointSnapshot) : Prop where
  nodup : snapshot.monitored_assets.Nodup
  assets : snapshot.assets.map CheckpointAssetState.asset_code = snapshot.monitored_assets

/-- What holds all along a call that is about the assets `named`. -/
structure AssetInvariant (named : List SString) (s : Storage) : Prop extends Monitored s where
  snapshots : ∀ id snapshot, s (.ChkpntSnap id) = some snapshot → snapshot.Complete
  named : ∀ a ∈ named, s (.Health a) ≠ none

/-! ## What keeps the invariant -/

section Invariant

variable {named : List SString} {env : Env} {s s' : Storage}

theorem AssetInvariant.congr (h : AssetInvariant named s)
    (hassets : s' .MONITORED_ASSETS = s .MONITORED_ASSETS)
    (hhealth : ∀ a, s (.Health a) ≠ none → s' (.Health a) ≠ none)
    (hsnapshots : ∀ id snapshot, s' (.ChkpntSnap id) = some snapshot → snapshot.Complete) :
    AssetInvariant named s' := by
  have hlist : monitored_assets s' = monitored_assets s := by
    rw [monitored_assets, hassets, monitored_assets]
  refine ⟨⟨?_, ?_⟩, hsnapshots, fun a ha => hhealth a (h.named a ha)⟩
  · rw [hlist]
    exact h.nodup
  · rw [hlist]
    exact fun a ha => hhealth a (h.recorded a ha)

instance : DependsOn [Tag.Health, .MONITORED_ASSETS, .ChkpntSnap] (AssetInvariant named) where
  congr := by
    intro s s' heq h
    apply h.congr (heq .MONITORED_ASSETS (by decide))
    · intro a ha
      rwa [heq (.Health a) (show Tag.Health ∈ _ by decide)]
    · intro id snapshot hsnapshot
      rw [heq (.ChkpntSnap id) (show Tag.ChkpntSnap ∈ _ by decide)] at hsnapshot
      exact h.snapshots id snapshot hsnapshot

/-- What these calls may write besides. -/
abbrev unlistedTags : List Tag :=
  [.Mismatches, .ArchMismatches, .LiqHist, .ArchLiqHist, .ArchChkpntSnap,
    .CHECKPOINT_METADATA_LIST, .ARCHIVED_CHECKPOINT_META, .LastCleanup, .CHECKPOINT_COUNTER,
    .CHECKPOINT_CONFIG, .LAST_CHECKPOINT_AT, .LAST_CHECKPOINT_ID, .Price, .PriceHist, .DevAlert,
    .HealthRes, .HEALTH_WEIGHTS, .RISK_SCORE_CONFIG, .SignerNonce, .SigCache, .EVENT_REPLAY_CTR,
    .EVENT_REPLAY_LOG, .MmThreshOvr, .BRIDGE_IDS, .LiqDepth, .LIQUIDITY_PAIRS]

instance (priority := low) {α : Type} (m : Soroban α) [h : Writes unlistedTags m] :
    Preserves (AssetInvariant named) m :=
  h.preserves (by decide)

/-- A record is added or changed. -/
theorem AssetInvariant.record (hs : AssetInvariant named s) (asset_code : SString) (record : AssetHealth) :
    AssetInvariant named (Function.update s (.Health asset_code) (some record)) := by
  refine hs.congr ?_ ?_ ?_
  · rfl
  · intro a ha
    by_cases heq : a = asset_code
    · subst heq
      rw [Function.update_self]
      exact Option.some_ne_none _
    · rwa [Function.update_of_ne (by simpa using heq)]
  · exact hs.snapshots

instance (asset_code : SString) (record : AssetHealth) :
    Preserves (AssetInvariant named) (save (.Health asset_code) record : Soroban Unit) where
  preserved := by
    intro env s u s' hs h
    rw [save_eq_ok] at h
    subst h
    exact hs.record asset_code record

/-- A snapshot is dropped. -/
instance : BearsPruning (AssetInvariant named) where
  others m hm := hm.preserves (by decide)
  drop checkpoint_id := by
    constructor
    intro env s u s' hs h
    rw [remove_eq_ok] at h
    subst h
    refine hs.congr ?_ ?_ ?_
    · rfl
    · exact fun _ => id
    · intro id snapshot hsnapshot
      by_cases heq : id = checkpoint_id
      · subst heq
        rw [Function.update_self] at hsnapshot
        cases hsnapshot
      · rw [Function.update_of_ne (by simpa using heq)] at hsnapshot
        exact hs.snapshots id snapshot hsnapshot

/-! ## Taking a checkpoint -/

/-- What stands for the price of an asset that has none. -/
def no_price (asset_code : SString) : PriceRecord :=
  { asset_code, price := 0, source := [], timestamp := 0, expires_at := 0 }

/-- What stands for the result of an asset that has none. -/
def no_result : HealthScoreResult :=
  { composite_score := 0
    liquidity_score := 0
    price_stability_score := 0
    bridge_uptime_score := 0
    weights := default_health_weights
    timestamp := 0
    expires_at := 0 }

/-- The state of an asset with these records. -/
def asset_state (asset_code : SString) (health : AssetHealth) (latest_price_opt : Option PriceRecord)
    (health_result_opt : Option HealthScoreResult) : CheckpointAssetState :=
  { asset_code
    health
    has_latest_price := latest_price_opt.isSome
    latest_price := latest_price_opt.getD (no_price asset_code)
    has_health_result := health_result_opt.isSome
    health_result := health_result_opt.getD no_result }

/-- The state is that of the asset in `s`, which has a record. -/
def Captures (s : Storage) (asset_code : SString) (state : CheckpointAssetState) : Prop :=
  ∃ health, s (.Health asset_code) = some health ∧
    state = asset_state asset_code health (s (.Price asset_code)) (s (.HealthRes asset_code))

theorem checkpoint_asset_eq_ok {asset_code : SString} {state : CheckpointAssetState} :
    checkpoint_asset asset_code env s = .ok (state, s') ↔ Captures s asset_code state ∧ s' = s := by
  simp only [checkpoint_asset, bind_eq_ok, load_asset_health_eq_ok, load_eq_ok, pure_eq_ok,
    and_assoc, exists_and_left, exists_eq_left]
  constructor
  · rintro ⟨health, hhealth, rfl, rfl⟩
    exact ⟨⟨health, hhealth, rfl⟩, rfl⟩
  · rintro ⟨⟨health, hhealth, rfl⟩, rfl⟩
    exact ⟨health, hhealth, rfl, rfl⟩

theorem checkpoint_assets_eq_ok {assets : List SString} {states : List CheckpointAssetState} :
    checkpoint_assets assets env s = .ok (states, s') ↔
      assets.Forall₂ (Captures s) states ∧ s' = s := by
  simp only [checkpoint_assets, foldlM_collect_eq_ok, checkpoint_asset_eq_ok, and_true,
    List.nil_append, exists_eq_left']

/-- The states are those of the assets, in their order. -/
theorem map_asset_code_of_captures {assets : List SString} {states : List CheckpointAssetState}
    (h : assets.Forall₂ (Captures s) states) :
    states.map CheckpointAssetState.asset_code = assets := by
  have hcodes : assets.Forall₂ (· = ·) (states.map CheckpointAssetState.asset_code) := by
    rw [List.forall₂_map_right_iff]
    apply h.imp
    rintro a state ⟨health, -, rfl⟩
    rfl
  rw [List.forall₂_eq_eq_eq] at hcodes
  exact hcodes.symm

/-- What a snapshot holds of the state. -/
structure SnapshotOf (s : Storage) (snapshot : CheckpointSnapshot) : Prop where
  list : snapshot.monitored_assets = monitored_assets s
  weights : snapshot.health_weights = (s .HEALTH_WEIGHTS).getD default_health_weights
  risk_score_config :
    snapshot.risk_score_config = (s .RISK_SCORE_CONFIG).getD default_risk_score_config
  assets : snapshot.monitored_assets.Forall₂ (Captures s) snapshot.assets

theorem take_snapshot_of {caller : Address} {trigger : CheckpointTrigger} {label : SString}
    {restored_from : Option U64} {snapshot : CheckpointSnapshot}
    (h : take_snapshot caller trigger label restored_from env s = .ok (snapshot, s')) :
    SnapshotOf s snapshot := by
  simp only [take_snapshot, load_health_weights, load_risk_score_config, bind_eq_ok, load_eq_ok,
    reads_eq_ok, load_registered_assets_raw_eq_ok, checkpoint_assets_eq_ok, pure_eq_ok, and_assoc,
    exists_and_left, exists_eq_left] at h
  obtain ⟨_, s₁, hconfig, _, s₂, hnext, assets, hassets, rfl, -⟩ := h
  obtain rfl : s₁ = s := Writes.store_eq inferInstance hconfig
  obtain rfl : s₂ = s₁ := Writes.store_eq inferInstance hnext
  exact ⟨rfl, rfl, rfl, hassets⟩

/-- A snapshot of a list without duplicates is complete. -/
theorem SnapshotOf.complete {snapshot : CheckpointSnapshot} (h : SnapshotOf s snapshot)
    (hnodup : (monitored_assets s).Nodup) : snapshot.Complete where
  nodup := by
    rw [h.list]
    exact hnodup
  assets := map_asset_code_of_captures h.assets

theorem save_snapshot_preserves {snapshot : CheckpointSnapshot} (hsnapshot : snapshot.Complete) :
    Preserves (AssetInvariant named)
      (save (.ChkpntSnap snapshot.checkpoint_id) snapshot : Soroban Unit) where
  preserved := by
    intro env s u s' hs h
    rw [save_eq_ok] at h
    subst h
    refine hs.congr ?_ ?_ ?_
    · rfl
    · exact fun _ => id
    · intro id snapshot' hsnapshot'
      by_cases heq : id = snapshot.checkpoint_id
      · subst heq
        rw [Function.update_self, Option.some.injEq] at hsnapshot'
        rwa [← hsnapshot']
      · rw [Function.update_of_ne (by simpa using heq)] at hsnapshot'
        exact hs.snapshots id snapshot' hsnapshot'

instance : BearsCheckpoints (AssetInvariant named) where
  take hs htake := save_snapshot_preserves ((take_snapshot_of htake).complete hs.nodup)

variable [Host] (caller : Address)

/-! ## The other calls -/

omit [Host] in
/-- An entry is added whose record is there. -/
theorem AssetInvariant.concat {asset_code : SString} (hs : AssetInvariant named s)
    (hnew : asset_code ∉ monitored_assets s) (hrecord : s (.Health asset_code) ≠ none) :
    AssetInvariant named
      (Function.update s .MONITORED_ASSETS (some (monitored_assets s ++ [asset_code]))) := by
  have hlist : monitored_assets
      (Function.update s .MONITORED_ASSETS (some (monitored_assets s ++ [asset_code]))) =
        monitored_assets s ++ [asset_code] := by
    rw [monitored_assets, Function.update_self, Option.getD_some]
  refine ⟨⟨?_, fun a ha => ?_⟩, hs.snapshots, hs.named⟩
  · rw [hlist, List.nodup_append]
    refine ⟨hs.nodup, List.nodup_singleton _, ?_⟩
    rintro a ha b hb rfl
    exact hnew (List.mem_singleton.mp hb ▸ ha)
  · rw [hlist, List.mem_append, List.mem_singleton] at ha
    rcases ha with hmem | rfl
    · exact hs.recorded a hmem
    · exact hrecord

omit [Host] in
/-- The writes of a registration: the record is there before the entry. -/
theorem AssetInvariant.register {asset_code : SString} {record : AssetHealth} {assets : List SString}
    (hs : AssetInvariant named s) (hassets : s .MONITORED_ASSETS = some assets) (hnew : asset_code ∉ assets) :
    AssetInvariant named (Function.update (Function.update s (.Health asset_code) (some record)) .MONITORED_ASSETS
      (some (assets ++ [asset_code]))) := by
  have hold : monitored_assets (Function.update s (.Health asset_code) (some record)) = assets := by
    simp [monitored_assets, hassets]
  rw [← hold]
  apply (hs.record asset_code record).concat
  · rwa [hold]
  · simp

instance (asset_code : SString) :
    Preserves (AssetInvariant named) (register_asset caller asset_code) where
  preserved := by
    intro env s u s' hs h
    obtain ⟨assets, record, hassets, hnew, hcheckpoint⟩ := register_asset_stores h
    exact Preserves.preserved (hs.register hassets hnew) hcheckpoint

omit [Host] in
theorem restore_assets_spec {assets : List CheckpointAssetState} {u : Unit} {a : SString}
    (ha : a ∈ assets.map CheckpointAssetState.asset_code ∨ s (.Health a) ≠ none)
    (h : (assets.foldlM (fun _ asset => restore_asset asset) () : Soroban Unit) env s =
      .ok (u, s')) : s' (.Health a) ≠ none := by
  induction assets generalizing s with
  | nil =>
      obtain ⟨-, rfl⟩ := pure_eq_ok.mp h
      exact ha.resolve_left List.not_mem_nil
  | cons asset _ ih =>
      simp only [List.foldlM_cons, restore_asset, bind_eq_ok, save_eq_ok, exists_const,
        exists_eq_left] at h
      obtain ⟨_, s₁, hothers, hrest⟩ := h
      apply ih _ hrest
      -- the rest of this asset's state is stored apart from its health
      rw [(inferInstance : Writes [Tag.Price, .HealthRes] _).frame hothers (.Health a)
        (show Tag.Health ∉ _ by decide)]
      by_cases heq : a = asset.asset_code
      · subst heq
        rw [Function.update_self]
        exact .inr (Option.some_ne_none _)
      · rw [Function.update_of_ne (by simpa using heq)]
        exact ha.imp_left fun hmem => (List.mem_cons.mp hmem).resolve_left heq

omit [Host] in
/-- A complete snapshot brings the list and the records back together. -/
theorem restore_snapshot_preserves {snapshot : CheckpointSnapshot} {u : Unit}
    (hs : AssetInvariant [] s) (hsnapshot : snapshot.Complete)
    (h : restore_snapshot snapshot env s = .ok (u, s')) : AssetInvariant [] s' := by
  have hlist : monitored_assets s' = snapshot.monitored_assets := by
    rw [monitored_assets, restore_snapshot_spec h, Option.getD_some]
  have hframe (id : U64) : s' (.ChkpntSnap id) = s (.ChkpntSnap id) :=
    (inferInstance : Writes restoreTags _).frame h (.ChkpntSnap id)
      (show Tag.ChkpntSnap ∉ _ by decide)
  simp only [restore_snapshot, bind_eq_ok, save_eq_ok, exists_const, exists_eq_left] at h
  obtain ⟨_, s₁, -, _, s₂, -, hrestore⟩ := h
  refine ⟨⟨?_, fun a ha => ?_⟩, fun id snapshot' hsnapshot' => ?_, ?_⟩
  · rw [hlist]
    exact hsnapshot.nodup
  · rw [hlist, ← hsnapshot.assets] at ha
    exact restore_assets_spec (.inl ha) hrestore
  · rw [hframe] at hsnapshot'
    exact hs.snapshots id snapshot' hsnapshot'
  · intro a ha
    exact absurd ha List.not_mem_nil

instance (checkpoint_id : U64) :
    Preserves (AssetInvariant []) (restore_from_checkpoint caller checkpoint_id) where
  preserved := by
    intro env s metadata s' hs h
    obtain ⟨-, snapshot, s₁, hsnapshot, hrestore, hcheckpoint⟩ := restore_from_checkpoint_steps h
    have hs₁ := restore_snapshot_preserves hs (hs.snapshots _ snapshot hsnapshot) hrestore
    exact Preserves.preserved hs₁ hcheckpoint

instance (asset_code : SString) (x y z w : U32) :
    Preserves (AssetInvariant named) (submit_health caller asset_code x y z w) := by
  unfold submit_health
  infer_instance

instance (records : List HealthScoreBatch) :
    Preserves (AssetInvariant named) (submit_health_batch caller records) := by
  unfold submit_health_batch submit_health_item
  infer_instance

instance (asset_code : SString) (price : I128) (source : SString) :
    Preserves (AssetInvariant named) (submit_price caller asset_code price source) := by
  unfold submit_price
  infer_instance

instance (asset_code : SString) (status : AssetHealth) (active paused : Bool) :
    Preserves (AssetInvariant named) (store_status caller asset_code status active paused) := by
  unfold store_status
  infer_instance

omit [Host] in
instance (asset_code : SString) (now extra_secs : U64) :
    Preserves (AssetInvariant named) (extend_record (.Health asset_code) AssetHealth.expires_at
      (fun record updated => { record with expires_at := updated }) now extra_secs) := by
  unfold extend_record
  infer_instance

/-- The calls after which an entry may have no record. -/
def EntryPoint.clears_records : EntryPoint → Bool
  | .initialize_contract .. | .cleanup_expired_data .. => true
  | _ => false

/-- **Step.** Every other call keeps the invariant. -/
theorem exec_preserves_assets {call : EntryPoint} (hcall : call.clears_records = false) :
    Preserves (AssetInvariant []) (exec call) := by
  cases call
  case initialize_contract => cases hcall
  case cleanup_expired_data => cases hcall
  case submit_health | submit_health_batch | submit_price | register_asset | restore_from_checkpoint =>
    dsimp only [exec]
    infer_instance
  case submit_health_signed | submit_price_signed | submit_health_batch_signed | set_health_weights |
      set_risk_score_config | submit_calculated_health | pause_asset | unpause_asset | deregister_asset |
      record_supply_mismatch | record_liquidity_depth | extend_expiration | set_checkpoint_config |
      create_checkpoint | cleanup_old_data | cleanup_data_type =>
    dsimp only [exec, submit_health_signed, submit_price_signed, submit_health_batch_signed, set_health_weights,
        set_risk_score_config, submit_calculated_health, pause_asset, unpause_asset, deregister_asset,
        record_supply_mismatch, record_liquidity_depth, extend_expiration, set_checkpoint_config,
        create_checkpoint, cleanup_old_data, cleanup_data_type]
    infer_instance
  all_goals
    -- the call writes nothing that the invariant reads
    apply exec_preserves
    dsimp only [writes]
    decide

end Invariant

/-! ## The expiry cleanup -/

/-- There is a record, and its time is over. -/
def has_expired {α : Type} (now : U64) (expires_at : α → U64) (record : Option α) : Bool :=
  record.elim false fun record => is_past now (expires_at record)

/-- The number of expired records of the asset besides its health record. -/
def other_expired (now : U64) (s : Storage) (asset_code : SString) : ℕ :=
  (has_expired now PriceRecord.expires_at (s (.Price asset_code))).toNat +
    (has_expired now DeviationAlert.expires_at (s (.DevAlert asset_code))).toNat +
    (has_expired now HealthScoreResult.expires_at (s (.HealthRes asset_code))).toNat

/-- From the removals so far on, the cleanup comes to no expired health record before its budget
is spent. -/
def spares (now : U64) (max_records : U32) (s : Storage) : (removed : ℕ) → List SString → Bool
  | _, [] => true
  | removed, asset_code :: assets =>
      max_records.toNat ≤ removed ||
        (!has_expired now AssetHealth.expires_at (s (.Health asset_code)) &&
          spares now max_records s (removed + other_expired now s asset_code) assets)

section Cleanup

variable {now : U64} {policy : ExpirationPolicy} {max_records : U32} {env : Env} {s s' : Storage}

theorem spares_of_le {removed : ℕ} (h : max_records.toNat ≤ removed) (assets : List SString) :
    spares now max_records s removed assets = true := by
  cases assets with
  | nil => rfl
  | cons => simp [spares, h]

theorem spares_min (removed : ℕ) (assets : List SString) :
    spares now max_records s (min max_records.toNat removed) assets =
      spares now max_records s removed assets := by
  by_cases h : removed ≤ max_records.toNat
  · rw [Nat.min_eq_right h]
  · rw [spares_of_le (by omega), spares_of_le (by omega)]

theorem spares_congr {removed : ℕ} {assets : List SString}
    (h : ∀ a ∈ assets, s' (.Health a) = s (.Health a) ∧ other_expired now s' a = other_expired now s a) :
    spares now max_records s' removed assets = spares now max_records s removed assets := by
  induction assets generalizing removed with
  | nil => rfl
  | cons a _ ih =>
      obtain ⟨hhealth, hother⟩ := h a List.mem_cons_self
      rw [spares, spares, hhealth, hother, ih fun b hb => h b (List.mem_cons_of_mem _ hb)]

/-- What becomes of one record. -/
theorem remove_expired_spec {key : Key} {expires_at : key.Val → U64} {removed removed' : U32}
    (hle : removed ≤ max_records)
    (h : remove_expired key expires_at now max_records removed env s = .ok (removed', s')) :
    removed'.toNat =
        min max_records.toNat (removed.toNat + (has_expired now expires_at (s key)).toNat) ∧
      (removed < max_records →
        s' key = if has_expired now expires_at (s key) = true then none else s key) ∧
      ∀ k ≠ key, s' k = s k := by
  have hle := UInt32.le_iff_toNat_le.mp hle
  have hlt : removed < max_records ↔ removed.toNat < max_records.toNat := UInt32.lt_iff_toNat_lt
  simp only [remove_expired, bind_eq_ok, load_eq_ok, ite_eq_ok, remove_eq_ok, pure_eq_ok, and_assoc,
    exists_and_left, exists_eq_left, exists_const] at h
  change _ ∧ has_expired now expires_at (s key) = true ∧ _ ∨
    ¬(_ ∧ has_expired now expires_at (s key) = true) ∧ _ at h
  rcases h with ⟨hbudget, hexpired, rfl, rfl⟩ | ⟨hnot, hsame, hs⟩
  · have hmax := max_records.toNat_lt
    have hbudget' := hlt.mp hbudget
    refine ⟨?_, fun _ => ?_, fun k hk => Function.update_of_ne hk _ _⟩
    · rw [hexpired, UInt32.toNat_add, UInt32.toNat_one, Bool.toNat_true]
      omega
    · rw [if_pos hexpired, Function.update_self]
  · rw [hsame, hs]
    by_cases hexpired : has_expired now expires_at (s key) = true
    · have hspent : ¬removed < max_records := fun hbudget => hnot ⟨hbudget, hexpired⟩
      refine ⟨?_, fun hbudget => absurd hbudget hspent, fun _ _ => rfl⟩
      rw [hlt] at hspent
      omega
    · refine ⟨?_, fun _ => (if_neg hexpired).symm, fun _ _ => rfl⟩
      rw [Bool.not_eq_true] at hexpired
      rw [hexpired, Bool.toNat_false]
      omega

/-- What becomes of the records of one asset, while some of the budget is left. -/
theorem cleanup_asset_spec {counts counts' : U32 × U32} {a : SString} (hbudget : counts.1 < max_records)
    (h : cleanup_asset now policy max_records counts a env s = .ok (counts', s')) :
    counts'.1.toNat = min max_records.toNat
        (counts.1.toNat + ((has_expired now AssetHealth.expires_at (s (.Health a))).toNat +
          other_expired now s a)) ∧
      (s' (.Health a) =
        if has_expired now AssetHealth.expires_at (s (.Health a)) = true then none
        else s (.Health a)) ∧
      ∀ b ≠ a, s' (.Health b) = s (.Health b) ∧ other_expired now s' b = other_expired now s b := by
  have hle := UInt32.le_of_lt hbudget
  rw [cleanup_asset, ite_eq_ok] at h
  rcases h with ⟨hspent, -⟩ | ⟨-, h⟩
  · exact absurd hbudget (UInt32.not_lt.mpr hspent)
  simp only [bind_eq_ok, pure_eq_ok] at h
  obtain ⟨r₁, s₁, h₁, r₂, s₂, h₂, r₃, s₃, h₃, r₄, s₄, h₄, trimmed, s₅, htrim, rfl, rfl⟩ := h
  -- the four removals, each under a key of its own
  obtain ⟨hcount₁, hhealth, hframe₁⟩ := remove_expired_spec hle h₁
  obtain ⟨hcount₂, -, hframe₂⟩ := remove_expired_spec (UInt32.le_iff_toNat_le.mpr (by omega)) h₂
  obtain ⟨hcount₃, -, hframe₃⟩ := remove_expired_spec (UInt32.le_iff_toNat_le.mpr (by omega)) h₃
  obtain ⟨hcount₄, -, hframe₄⟩ := remove_expired_spec (UInt32.le_iff_toNat_le.mpr (by omega)) h₄
  have hframe₅ := fun k hk => (inferInstance : Writes [Tag.PriceHist] _).frame htrim k hk
  rw [hframe₁ (.Price a) (by simp)] at hcount₂
  rw [hframe₂ (.DevAlert a) (by simp), hframe₁ (.DevAlert a) (by simp)] at hcount₃
  rw [hframe₃ (.HealthRes a) (by simp), hframe₂ (.HealthRes a) (by simp),
    hframe₁ (.HealthRes a) (by simp)] at hcount₄
  refine ⟨?_, ?_, fun b hb => ?_⟩
  · dsimp only
    rw [other_expired]
    omega
  · rw [hframe₅ (.Health a) (show Tag.Health ∉ _ by decide), hframe₄ _ (by simp),
      hframe₃ _ (by simp), hframe₂ _ (by simp)]
    exact hhealth hbudget
  · have hframe (k : Key) (hk : k.tag ≠ .PriceHist)
        (hother : k ≠ .Health a ∧ k ≠ .Price a ∧ k ≠ .DevAlert a ∧ k ≠ .HealthRes a) :
        s' k = s k := by
      rw [hframe₅ k (fun hmem => hk (List.mem_singleton.mp hmem)), hframe₄ k hother.2.2.2, hframe₃ k hother.2.2.1,
        hframe₂ k hother.2.1, hframe₁ k hother.1]
    refine ⟨hframe _ (by simp) (by simp [hb]), ?_⟩
    rw [other_expired, hframe _ (by simp) (by simp [hb]), hframe _ (by simp) (by simp [hb]),
      hframe _ (by simp) (by simp [hb]), other_expired]

/-- The loop over the list removes no health record, or the one of some entry. -/
theorem cleanup_assets_spec {counts counts' : U32 × U32} {assets : List SString}
    (hnodup : assets.Nodup)
    (h : assets.foldlM (cleanup_asset now policy max_records) counts env s = .ok (counts', s')) :
    (spares now max_records s counts.1.toNat assets = true → ∀ a, s' (.Health a) = s (.Health a)) ∧
      (spares now max_records s counts.1.toNat assets = false →
        ∃ a ∈ assets, s' (.Health a) = none) := by
  induction assets generalizing counts s with
  | nil =>
      obtain ⟨-, rfl⟩ := pure_eq_ok.mp h
      exact ⟨fun _ _ => rfl, fun h => absurd h (by simp [spares])⟩
  | cons a assets ih =>
      obtain ⟨hnew, hnodup⟩ := List.nodup_cons.mp hnodup
      rw [List.foldlM_cons] at h
      obtain ⟨counts₁, s₁, hasset, hrest⟩ := bind_eq_ok.mp h
      obtain ⟨hspared, hcleared⟩ := ih hnodup hrest
      by_cases hbudget : counts.1 < max_records
      · obtain ⟨hcount, hhealth, hothers⟩ := cleanup_asset_spec hbudget hasset
        have hmore : ¬max_records.toNat ≤ counts.1.toNat :=
          Nat.not_le.mpr (UInt32.lt_iff_toNat_lt.mp hbudget)
        rw [spares, decide_eq_false hmore, Bool.false_or]
        by_cases hexpired : has_expired now AssetHealth.expires_at (s (.Health a)) = true
        · rw [if_pos hexpired] at hhealth
          rw [hexpired, Bool.not_true, Bool.false_and]
          refine ⟨fun hfalse => absurd hfalse Bool.false_ne_true, fun _ => ⟨a, List.mem_cons_self, ?_⟩⟩
          -- nothing brings the record back
          have hpreserves : Preserves (Thinned s₁)
              (assets.foldlM (cleanup_asset now policy max_records) counts₁) := inferInstance
          rcases (hpreserves.preserved (Thinned.refl s₁) hrest).health a with heq | hnone
          · rw [heq, hhealth]
          · exact hnone
        · rw [if_neg hexpired] at hhealth
          rw [Bool.not_eq_true] at hexpired
          rw [hexpired, Bool.toNat_false, Nat.zero_add] at hcount
          have hsame : spares now max_records s₁ counts₁.1.toNat assets =
              spares now max_records s (counts.1.toNat + other_expired now s a) assets := by
            rw [hcount, spares_min]
            apply spares_congr
            intro b hb
            exact hothers b fun heq => hnew (heq ▸ hb)
          rw [hexpired, Bool.not_false, Bool.true_and, ← hsame]
          refine ⟨fun hspares b => ?_, fun hnot => ?_⟩
          · rw [hspared hspares b]
            by_cases heq : b = a
            · rw [heq, hhealth]
            · exact (hothers b heq).1
          · obtain ⟨b, hb, hnone⟩ := hcleared hnot
            exact ⟨b, List.mem_cons_of_mem _ hb, hnone⟩
      · -- the loop has stopped
        have hspent := UInt32.not_lt.mp hbudget
        rw [cleanup_asset, if_pos hspent] at hasset
        obtain ⟨rfl, rfl⟩ := pure_eq_ok.mp hasset
        have hspent := UInt32.le_iff_toNat_le.mp hspent
        rw [spares_of_le hspent] at hspared ⊢
        exact ⟨fun _ => hspared rfl, fun hfalse => absurd hfalse Bool.true_eq_false.mp⟩

/-- **Cleanup.** The expiry cleanup keeps the list and the records in step if and only if it
comes to no expired health record. -/
theorem cleanup_expired_data_spec {caller : Address} {stats : CleanupStats} (hs : Monitored s)
    (h : cleanup_expired_data caller max_records env s = .ok (stats, s')) :
    Monitored s' ↔ spares env.timestamp max_records s 0 (monitored_assets s) = true := by
  have hlist : monitored_assets s' = monitored_assets s := by
    rw [monitored_assets, (cleanup_expired_data_thinned h).assets, monitored_assets]
  simp only [cleanup_expired_data, bind_eq_ok, reads_eq_ok, load_registered_assets_raw_eq_ok,
    load_eq_ok, save_eq_ok, pure_eq_ok, and_assoc, exists_and_left, exists_eq_left,
    exists_const] at h
  obtain ⟨_, s₁, hauth, policy, s₂, hpolicy, counts, s₃, hassets, counts', s₄, hbridges, counts'', s₅,
    hpairs, -, hs'⟩ := h
  obtain rfl : s₁ = s := Writes.store_eq inferInstance hauth
  obtain rfl : s₂ = s₁ := Writes.store_eq inferInstance hpolicy
  obtain ⟨hspared, hcleared⟩ := cleanup_assets_spec hs.nodup hassets
  -- the other two loops and the statistics leave the health records alone
  have hhealth (a : SString) : s' (.Health a) = s₃ (.Health a) := by
    rw [hs', Function.update_of_ne (by simp),
      (inferInstance : Writes [Tag.LiqDepth, .LiqHist] _).frame hpairs (.Health a)
        (show Tag.Health ∉ _ by decide),
      (inferInstance : Writes [Tag.Mismatches] _).frame hbridges (.Health a)
        (show Tag.Health ∉ _ by decide)]
  constructor
  · intro hmonitored
    by_contra hspares
    obtain ⟨a, ha, hnone⟩ := hcleared (Bool.not_eq_true _ ▸ hspares)
    rw [← hhealth] at hnone
    exact hmonitored.recorded a (hlist ▸ ha) hnone
  · intro hspares
    refine ⟨hlist ▸ hs.nodup, fun a ha => ?_⟩
    rw [hlist] at ha
    rw [hhealth, hspared hspares a]
    exact hs.recorded a ha

theorem assert_admin_or_role_spec {msg : String} {caller : Address} {u : Unit}
    (h : assert_admin_or_role msg caller env s = .ok (u, s')) :
    env.auth caller = true ∧ IsAdminOrSuper s caller := by
  simp only [assert_admin_or_role, is_authorized, has_role_internal, bind_eq_ok, load_eq_ok,
    reads_eq_ok, expect_eq_ok, panic_if_eq_ok, pure_eq_ok, and_assoc, exists_and_left,
    exists_eq_left, exists_const] at h
  obtain ⟨hauth, admin, hadmin, hrole, -⟩ := h
  refine ⟨by simpa using hauth, ?_⟩
  simp only [Bool.not_eq_false, Bool.or_eq_true, decide_eq_true_eq, List.contains_iff_mem] at hrole
  rcases hrole with rfl | hsuper
  · exact .inl hadmin
  · exact .inr hsuper

end Cleanup

/-! ## Runs -/

section Runs

variable [Host]

/-- The call, if it is an expiry cleanup by somebody who may make it, comes to no expired
health record before its budget is spent. -/
def SparesRecords (s : Storage) (t : Invocation) : Prop :=
  ∀ caller max_records, t.2 = .cleanup_expired_data caller max_records →
    t.1.auth caller = true → IsAdminOrSuper s caller →
      spares t.1.timestamp max_records s 0 (monitored_assets s) = true

/-- **Step.** -/
theorem AssetInvariant.step {s s' : Storage} {t : Invocation} (hs : AssetInvariant [] s)
    (hcall : t.2.initializes = false) (hspares : SparesRecords s t)
    (h : exec t.2 t.1 s = .ok ((), s')) : AssetInvariant [] s' := by
  by_cases hclears : t.2.clears_records = false
  · exact (exec_preserves_assets hclears).preserved hs h
  · obtain ⟨env, call⟩ := t
    cases call
    case initialize_contract => cases hcall
    case cleanup_expired_data caller max_records =>
      obtain ⟨stats, s₁, hcleanup, hignore⟩ := bind_eq_ok.mp h
      obtain rfl : s' = s₁ := (pure_eq_ok.mp hignore).2
      obtain ⟨_, _, hauth, -⟩ := bind_eq_ok.mp hcleanup
      obtain ⟨hcaller, hsuper⟩ := assert_admin_or_role_spec hauth
      have hmonitored := (cleanup_expired_data_spec hs.toMonitored hcleanup).mpr
        (hspares caller max_records rfl hcaller hsuper)
      refine ⟨hmonitored, fun id snapshot hsnapshot => ?_, fun a ha => absurd ha List.not_mem_nil⟩
      rw [exec_frame h (k := .ChkpntSnap id) (show Tag.ChkpntSnap ∉ expiryTags by decide)]
        at hsnapshot
      exact hs.snapshots id snapshot hsnapshot
    all_goals exact absurd rfl hclears

omit [Host] in
theorem assetInvariant_empty : AssetInvariant [] empty_storage := by
  refine ⟨⟨?_, ?_⟩, ?_, ?_⟩
  · exact List.nodup_nil
  · intro a ha
    exact absurd ha List.not_mem_nil
  · intro id snapshot hsnapshot
    exact absurd hsnapshot.symm (Option.some_ne_none _)
  · intro a ha
    exact absurd ha List.not_mem_nil

/-- **Run.** -/
theorem assetInvariant_run (env : Env) (admin : Address) {calls : List Invocation}
    (h : ∀ t ∈ calls, t.2.initializes = false)
    (hspares : Along exec SparesRecords (step exec (env, .initialize_contract admin) empty_storage)
      calls) :
    AssetInvariant [] (run empty_storage ((env, .initialize_contract admin) :: calls)) := by
  have hcalls : Along exec (fun _ t => t.2.initializes = false)
      (step exec (env, .initialize_contract admin) empty_storage) calls :=
    Along.of_forall fun _ => h
  rw [run, runFrom_cons]
  refine run_invariant (fun hs hC hok => hs.step hC.1 hC.2 hok) ?_ (hcalls.and hspares)
  rcases step_cases exec empty_storage (env, .initialize_contract admin) with hok | ⟨-, heq⟩
  · have hlist := (initialize_contract_spec hok).2.assets
    have hsnapshots (id : U64) := exec_frame hok (k := .ChkpntSnap id)
      (show Tag.ChkpntSnap ∉ initializeTags by decide)
    refine ⟨⟨?_, ?_⟩, fun id snapshot hsnapshot => ?_, ?_⟩
    · simp [monitored_assets, hlist]
    · simp [monitored_assets, hlist]
    · rw [hsnapshots] at hsnapshot
      cases hsnapshot
    · intro a ha
      exact absurd ha List.not_mem_nil
  · rw [heq]
    exact assetInvariant_empty

end Runs

end BridgeWatch.Contract

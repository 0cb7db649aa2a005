/-
Restoring a checkpoint.

A restoration brings back the list, the parameters and the records of a stored checkpoint, and then
takes a checkpoint of its own. That one captures what the restored one did, so a comparison of
the two finds no difference, as long as both are stored: the checkpoint of the restoration may
be one too many, and then the restored one may be the one that goes.
-/
import BridgeWatch.AssetRecords

set_option autoImplicit false
-- The instance of an invariant is as long as the function that keeps it.
set_option synthInstance.maxSize 2048

namespace BridgeWatch.Contract

open Transaction

/-! ## Comparisons -/

section Comparison

variable {assets : List CheckpointAssetState}

/-- A listed state is found again. -/
theorem find_checkpoint_asset_of_mem {state : CheckpointAssetState}
    (hnodup : (assets.map CheckpointAssetState.asset_code).Nodup) (hmem : state ∈ assets) :
    find_checkpoint_asset assets state.asset_code = some state := by
  have hfound : (find_checkpoint_asset assets state.asset_code).isSome := by
    rw [find_checkpoint_asset, List.find?_isSome]
    exact ⟨state, hmem, by simp⟩
  obtain ⟨found, hfound⟩ := Option.isSome_iff_exists.mp hfound
  have hcode : found.asset_code = state.asset_code := by simpa using List.find?_some hfound
  rw [hfound, List.inj_on_of_nodup_map hnodup (List.mem_of_find?_eq_some hfound) hmem hcode]

/-- The loop over the same states adds nothing. -/
theorem compare_checkpoint_assets_self
    (hnodup : (assets.map CheckpointAssetState.asset_code).Nodup) {states : List CheckpointAssetState}
    (h : states ⊆ assets) (acc : List SString × List CheckpointAssetDiff) :
    states.foldl (compare_checkpoint_asset assets) acc = acc := by
  induction states with
  | nil => rfl
  | cons state _ ih =>
      rw [List.cons_subset] at h
      have hsame : compare_checkpoint_asset assets acc state = acc := by
        rw [compare_checkpoint_asset, find_checkpoint_asset_of_mem hnodup h.1]
        simp
      rw [List.foldl_cons, hsame, ih h.2]

/-- No asset is added, removed or changed, and the weights are the same. -/
structure CheckpointComparison.Unchanged (comparison : CheckpointComparison) : Prop where
  added : comparison.added_assets = []
  removed : comparison.removed_assets = []
  changed : comparison.changed_assets = []
  weights : comparison.weights_changed = false

variable [Host]

/-- Two snapshots of the same assets, with the same weights. -/
theorem build_checkpoint_comparison_self {snapshot snapshot' : CheckpointSnapshot}
    {from_id to_id : U64} {hash hash' : BytesN 32}
    (hnodup : (snapshot.assets.map CheckpointAssetState.asset_code).Nodup)
    (hassets : snapshot'.assets = snapshot.assets)
    (hweights : snapshot'.health_weights = snapshot.health_weights)
    (hhash : compute_checkpoint_hash snapshot = .ok hash)
    (hhash' : compute_checkpoint_hash snapshot' = .ok hash') :
    ∃ comparison, build_checkpoint_comparison snapshot snapshot' from_id to_id = .ok comparison ∧
      comparison.Unchanged := by
  have hremoved : (snapshot.assets.filter fun state =>
      (find_checkpoint_asset snapshot.assets state.asset_code).isNone) = [] := by
    rw [List.filter_eq_nil_iff]
    intro state hmem
    rw [find_checkpoint_asset_of_mem hnodup hmem]
    simp
  rw [build_checkpoint_comparison, hassets, hweights, hhash, hhash', hremoved,
    compare_checkpoint_assets_self hnodup (List.Subset.refl _)]
  refine ⟨_, rfl, rfl, rfl, rfl, ?_⟩
  simp

end Comparison

/-! ## The checkpoint of a restoration -/

section Checkpoint

variable {env : Env} {s s' : Storage}

/-- Some of the snapshots may be gone. -/
def Fewer (s₀ s : Storage) : Prop :=
  ∀ id, s (.ChkpntSnap id) = s₀ (.ChkpntSnap id) ∨ s (.ChkpntSnap id) = none

instance {s₀ : Storage} : DependsOn [Tag.ChkpntSnap] (Fewer s₀) where
  congr := by
    intro s s' heq h id
    rw [heq (.ChkpntSnap id) (show Tag.ChkpntSnap ∈ _ by decide)]
    exact h id

instance {s₀ : Storage} : BearsPruning (Fewer s₀) where
  others m hm := hm.preserves (by decide)
  drop checkpoint_id := by
    constructor
    intro env s u s' hs h
    rw [remove_eq_ok] at h
    subst h
    intro id
    by_cases heq : id = checkpoint_id
    · right
      rw [heq, Function.update_self]
    · rw [Function.update_of_ne (by simpa using heq)]
      exact hs id

variable [Host] {caller : Address} {trigger : CheckpointTrigger} {label : SString}
variable {restored_from : Option U64} {metadata : CheckpointMetadata}

/-- The snapshot that a checkpoint stores, of what it finds; it may have gone again in the same
call, and others with it. -/
theorem persist_checkpoint_snapshot
    (h : persist_checkpoint caller trigger label restored_from env s = .ok (metadata, s')) :
    ∃ snapshot hash, SnapshotOf s snapshot ∧ compute_checkpoint_hash snapshot = .ok hash ∧
      metadata.checkpoint_id.toNat = (checkpoint_counter s).toNat + 1 ∧
      ∀ id, s' (.ChkpntSnap id) =
        (if id = metadata.checkpoint_id then some snapshot else s (.ChkpntSnap id)) ∨
          s' (.ChkpntSnap id) = none := by
  simp only [persist_checkpoint, bind_eq_ok, load_checkpoint_config_eq_ok, attempt_eq_ok,
    pure_eq_ok, and_assoc, exists_and_left, exists_eq_left] at h
  obtain ⟨snapshot, s₁, htake, state_hash, hhash, _, s₂, hstore, _, s₃, hprune, _, s₄, hcleanup,
    rfl, rfl⟩ := h
  have hof := take_snapshot_of htake
  obtain ⟨rfl, hid⟩ := take_snapshot_spec htake
  refine ⟨snapshot, state_hash, hof, hhash, hid, fun id => ?_⟩
  have hfewer₂ : Fewer s₂ s₂ := fun id => .inl rfl
  have hfewer₃ : Fewer s₂ s₃ := Preserves.preserved hfewer₂ hprune
  have hfewer₄ : Fewer s₂ s' := Preserves.preserved hfewer₃ hcleanup
  have hstored : s₂ (.ChkpntSnap id) =
      if id = snapshot.checkpoint_id then some snapshot else s₁ (.ChkpntSnap id) := by
    simp only [store_checkpoint, bind_eq_ok, save_eq_ok, load_checkpoint_metadata_eq_ok, and_assoc,
      exists_and_left, exists_eq_left, exists_const] at hstore
    by_cases heq : id = snapshot.checkpoint_id
    · subst heq
      simp [hstore]
    · simp [hstore, heq]
  rw [CheckpointSnapshot.metadata, ← hstored]
  exact hfewer₄ id

end Checkpoint

/-! ## Restorations -/

/-- The list, the parameters and the records are those of the snapshot, which covers its list. -/
structure Restored (snapshot : CheckpointSnapshot) (s : Storage) : Prop where
  assets : s .MONITORED_ASSETS = some snapshot.monitored_assets
  weights : s .HEALTH_WEIGHTS = some snapshot.health_weights
  risk_score_config : s .RISK_SCORE_CONFIG = some snapshot.risk_score_config
  covered : snapshot.assets.map CheckpointAssetState.asset_code = snapshot.monitored_assets
  recorded : ∀ state ∈ snapshot.assets, state.RecordedIn s

section Restore

variable {env : Env} {s s' : Storage} {snapshot : CheckpointSnapshot}

theorem restore_snapshot_restored {u : Unit} (hsnapshot : snapshot.Complete)
    (h : restore_snapshot snapshot env s = .ok (u, s')) : Restored snapshot s' := by
  have hassets := restore_snapshot_spec h
  obtain ⟨hrecorded, -⟩ := restore_snapshot_records hsnapshot h
  simp only [restore_snapshot, bind_eq_ok, save_eq_ok, exists_const, exists_eq_left] at h
  obtain ⟨_, s₁, -, _, s₂, -, hrestore⟩ := h
  have hframe := fun k hk => (inferInstance : Writes recordTags _).frame hrestore k hk
  constructor
  · exact hassets
  · rw [hframe .HEALTH_WEIGHTS (by decide)]
    simp
  · rw [hframe .RISK_SCORE_CONFIG (by decide)]
    simp
  · exact hsnapshot.assets
  · exact hrecorded

/-- A checkpoint does not touch what is restored. -/
theorem Restored.congr (h : Restored snapshot s) (heq : ∀ k, k.tag ∈ restoreTags → s' k = s k) :
    Restored snapshot s' := by
  constructor
  · rw [heq .MONITORED_ASSETS (by decide)]
    exact h.assets
  · rw [heq .HEALTH_WEIGHTS (by decide)]
    exact h.weights
  · rw [heq .RISK_SCORE_CONFIG (by decide)]
    exact h.risk_score_config
  · exact h.covered
  · intro state hmem
    apply (h.recorded state hmem).congr
    intro k hk
    have htag : recordTags ⊆ restoreTags := by decide
    exact heq k (htag (tag_mem_of_mem_asset_keys hk))

/-- A snapshot of the restored state has the assets of the restored snapshot. -/
theorem Restored.assets_eq {snapshot' : CheckpointSnapshot} (h : Restored snapshot s)
    (htaken : snapshot.Taken) (hof : SnapshotOf s snapshot') : snapshot'.assets = snapshot.assets := by
  have hlist : snapshot'.monitored_assets = snapshot.assets.map CheckpointAssetState.asset_code := by
    rw [hof.list, monitored_assets, h.assets, Option.getD_some, h.covered]
  have hassets := hof.assets
  rw [hlist] at hassets
  have hunique : Relator.RightUnique (Captures s) := fun _ _ _ hstate hstate' => hstate.unique hstate'
  exact hunique.forall₂ hassets (captures_of_recorded htaken.captured h.recorded)

variable [Host] {caller : Address} {checkpoint_id : U64} {metadata : CheckpointMetadata}

/-- What a checkpoint leaves of the restored state. -/
theorem frame_of_checkpoint {trigger : CheckpointTrigger} {label : SString}
    {restored_from : Option U64}
    (h : persist_checkpoint caller trigger label restored_from env s = .ok (metadata, s')) (k : Key)
    (hk : k.tag ∈ restoreTags) : s' k = s k := by
  apply (inferInstance : Writes checkpointTags _).frame h
  have hdisjoint : ∀ t ∈ restoreTags, t ∉ checkpointTags := by decide
  exact hdisjoint k.tag hk

end Restore

/-! ## Runs -/

section Runs

variable [Host] {env : Env} {s s' : Storage} {caller : Address} {checkpoint_id : U64}
variable {snapshot : CheckpointSnapshot} {metadata : CheckpointMetadata}

/-- The run starts with `initialize`, which is not called again. -/
def InitializedOnce (calls : List Invocation) : Prop :=
  ∃ env admin rest, calls = (env, .initialize_contract admin) :: rest ∧
    ∀ t ∈ rest, t.2.initializes = false

/-- No asset outside the snapshot has a record, and a comparison of the two checkpoints finds no
difference, unless the first is not stored any more. -/
structure RoundTrip (snapshot : CheckpointSnapshot) (from_id to_id : U64) (s : Storage) : Prop where
  forgotten : ∀ a ∉ snapshot.monitored_assets, ∀ k ∈ asset_keys a, s k = none
  unchanged : s (.ChkpntSnap from_id) ≠ none → ∀ env, ∃ comparison,
    compare_checkpoints from_id to_id env s = .ok (comparison, s) ∧ comparison.Unchanged
  dropped : s (.ChkpntSnap from_id) = none → ∀ env,
    compare_checkpoints from_id to_id env s = .error "checkpoint not found"

theorem CheckpointInvariant.hash {n : U64} (hs : CheckpointInvariant n s)
    (hsnapshot : s (.ChkpntSnap checkpoint_id) = some snapshot) :
    checkpoint_id ≤ checkpoint_counter s ∧ ∃ hash, compute_checkpoint_hash snapshot = .ok hash := by
  have hstored : s (.ChkpntSnap checkpoint_id) ≠ none := by
    rw [hsnapshot]
    exact Option.some_ne_none snapshot
  rw [hs.store.stored, List.mem_map] at hstored
  obtain ⟨metadata, hmem, rfl⟩ := hstored
  obtain ⟨snapshot', hsnapshot', hdescribes⟩ := hs.listing.indexes.described metadata hmem
  refine ⟨hs.listing.le_counter metadata hmem, metadata.state_hash, ?_⟩
  rw [hsnapshot, Option.some.injEq] at hsnapshot'
  rw [hsnapshot']
  exact hdescribes

/-- The checkpoint of a restoration is stored when the restoration returns. -/
theorem CheckpointInvariant.restored {n : U64} (hs : CheckpointInvariant n s)
    (h : restore_from_checkpoint caller checkpoint_id env s = .ok (metadata, s')) :
    s' (.ChkpntSnap metadata.checkpoint_id) ≠ none := by
  have hpreserves : Preserves (CheckpointInvariant n) (restore_from_checkpoint caller checkpoint_id) := by
    unfold restore_from_checkpoint
    infer_instance
  have hs' := hpreserves.preserved hs h
  obtain ⟨-, snapshot, s₁, -, -, hpersist⟩ := restore_from_checkpoint_steps h
  have hnewest := hs'.listing.newest
  rw [persist_checkpoint_last hpersist, Option.map_eq_some_iff] at hnewest
  obtain ⟨last, hlast, hid⟩ := hnewest
  rw [hs'.store.stored, List.mem_map]
  exact ⟨last, List.mem_of_getLast? hlast, hid⟩

/-- **Restore.** -/
theorem restore_restored (hs : SnapshotInvariant s)
    (hsnapshot : s (.ChkpntSnap checkpoint_id) = some snapshot)
    (h : restore_from_checkpoint caller checkpoint_id env s = .ok (metadata, s')) :
    Restored snapshot s' ∧
      ∀ a ∉ snapshot.monitored_assets, ∀ k ∈ asset_keys a,
        s' k = if a ∈ monitored_assets s then none else s k := by
  obtain ⟨-, snapshot', s₁, hsnapshot', hrestore, hpersist⟩ := restore_from_checkpoint_steps h
  rw [hsnapshot, Option.some.injEq] at hsnapshot'
  subst hsnapshot'
  have hcomplete := (hs.snapshots checkpoint_id snapshot hsnapshot).toComplete
  have hframe := frame_of_checkpoint hpersist
  constructor
  · exact (restore_snapshot_restored hcomplete hrestore).congr hframe
  · intro a ha k hk
    have htag : recordTags ⊆ restoreTags := by decide
    rw [hframe k (htag (tag_mem_of_mem_asset_keys hk))]
    exact (restore_snapshot_records hcomplete hrestore).2 a ha k hk

/-- **Compare.** -/
theorem restore_compared {n : U64} (hs : CheckpointInvariant n s) (hsnapshots : SnapshotInvariant s)
    (hsnapshot : s (.ChkpntSnap checkpoint_id) = some snapshot)
    (h : restore_from_checkpoint caller checkpoint_id env s = .ok (metadata, s'))
    (hkept : s' (.ChkpntSnap checkpoint_id) ≠ none) (env' : Env) :
    ∃ comparison,
      compare_checkpoints checkpoint_id metadata.checkpoint_id env' s' = .ok (comparison, s') ∧
        comparison.Unchanged := by
  have hlast := hs.restored h
  obtain ⟨hle, hash, hhash⟩ := hs.hash hsnapshot
  obtain ⟨-, snapshot', s₁, hsnapshot', hrestore, hpersist⟩ := restore_from_checkpoint_steps h
  rw [hsnapshot, Option.some.injEq] at hsnapshot'
  subst hsnapshot'
  have htaken := hsnapshots.snapshots checkpoint_id snapshot hsnapshot
  have hrestored := restore_snapshot_restored htaken.toComplete hrestore
  have hframe := fun k hk => (inferInstance : Writes restoreTags _).frame hrestore k hk
  obtain ⟨taken, hash', hof, hhash', hid, hstored⟩ := persist_checkpoint_snapshot hpersist
  -- the new id is above all that are stored
  have hne : checkpoint_id ≠ metadata.checkpoint_id := by
    rintro rfl
    rw [checkpoint_counter, hframe .CHECKPOINT_COUNTER (by decide), ← checkpoint_counter] at hid
    have := UInt64.le_iff_toNat_le.mp hle
    omega
  have hfrom : s' (.ChkpntSnap checkpoint_id) = some snapshot := by
    have hfrom := (hstored checkpoint_id).resolve_right hkept
    rwa [if_neg hne, hframe (.ChkpntSnap checkpoint_id) (show Tag.ChkpntSnap ∉ _ by decide),
      hsnapshot] at hfrom
  have hto : s' (.ChkpntSnap metadata.checkpoint_id) = some taken := by
    have hto := (hstored metadata.checkpoint_id).resolve_right hlast
    rwa [if_pos rfl] at hto
  have hnodup : (snapshot.assets.map CheckpointAssetState.asset_code).Nodup := by
    rw [htaken.assets]
    exact htaken.nodup
  have hweights : taken.health_weights = snapshot.health_weights := by
    rw [hof.weights, hrestored.weights, Option.getD_some]
  obtain ⟨comparison, hcomparison, hunchanged⟩ := build_checkpoint_comparison_self hnodup
    (hrestored.assets_eq htaken hof) hweights hhash hhash'
  refine ⟨comparison, ?_, hunchanged⟩
  simp only [compare_checkpoints, get_checkpoint_or_panic, bind_eq_ok, load_eq_ok, expect_eq_ok,
    attempt_eq_ok, and_assoc, exists_and_left, exists_eq_left]
  exact ⟨snapshot, hfrom, taken, hto, hcomparison, trivial⟩

/-- **Run.** A restoration brings back what the checkpoint captured, whatever the calls were before
it, and every other asset of the list is forgotten. After a single `initialize` this goes for
every asset, and the two checkpoints compare as unchanged. -/
theorem restore_run {calls : List Invocation}
    (hsnapshot : run empty_storage calls (.ChkpntSnap checkpoint_id) = some snapshot)
    (h : restore_from_checkpoint caller checkpoint_id env (run empty_storage calls) =
      .ok (metadata, s')) :
    Restored snapshot s' ∧
      (∀ a ∈ monitored_assets (run empty_storage calls), a ∉ snapshot.monitored_assets →
        ∀ k ∈ asset_keys a, s' k = none) ∧
      (InitializedOnce calls → RoundTrip snapshot checkpoint_id metadata.checkpoint_id s') := by
  have hsnapshots := snapshotInvariant_run calls
  obtain ⟨hrestored, hothers⟩ := restore_restored hsnapshots hsnapshot h
  refine ⟨hrestored, fun a hlisted ha k hk => ?_, ?_⟩
  · rw [hothers a ha k hk, if_pos hlisted]
  · rintro ⟨env₀, admin, rest, rfl, hrest⟩
    constructor
    · intro a ha k hk
      rw [hothers a ha k hk]
      by_cases hlisted : a ∈ monitored_assets (run empty_storage ((env₀, .initialize_contract admin) :: rest))
      · rw [if_pos hlisted]
      · rw [if_neg hlisted]
        by_contra hne
        exact hlisted ((recordsListed_run env₀ admin hrest).listed a k hk hne)
    · intro hkept env'
      exact restore_compared (checkpointInvariant_run env₀ admin hrest) hsnapshots hsnapshot h hkept env'
    · intro hnone env'
      rw [compare_checkpoints, bind_eq_error]
      left
      rw [get_checkpoint_or_panic, bind_eq_error]
      right
      refine ⟨none, s', ?_, rfl⟩
      rw [load_eq_ok, hnone]
      exact ⟨rfl, rfl⟩

end Runs

/-- The second asset is registered after the first checkpoint. -/
def two_registrations : List Invocation :=
  [(mock_all_auths 1, .initialize_contract (test_address 0)),
    (mock_all_auths 2, .register_asset (test_address 0) (str "USDC")),
    (mock_all_auths 3, .register_asset (test_address 0) (str "EURC"))]

theorem restore_run_two_registrations :
    ∃ (_ : Host) (snapshot : CheckpointSnapshot) (metadata : CheckpointMetadata) (s' : Storage),
      run empty_storage two_registrations (.ChkpntSnap 1) = some snapshot ∧
      restore_from_checkpoint (test_address 0) 1 (mock_all_auths 4)
        (run empty_storage two_registrations) = .ok (metadata, s') ∧
      Restored snapshot s' ∧ RoundTrip snapshot 1 metadata.checkpoint_id s' := by
  let _ : Host := lengthHost
  have hsome : (run empty_storage two_registrations (.ChkpntSnap 1)).isSome := by decide +kernel
  have hreturned : (returned (restore_from_checkpoint (test_address 0) 1 (mock_all_auths 4)
    (run empty_storage two_registrations))).isSome := by decide +kernel
  obtain ⟨snapshot, hsnapshot⟩ := Option.isSome_iff_exists.mp hsome
  obtain ⟨metadata, hmetadata⟩ := Option.isSome_iff_exists.mp hreturned
  obtain ⟨s', h⟩ := exists_of_returned hmetadata
  obtain ⟨hrestored, -, hround⟩ := restore_run hsnapshot h
  exact ⟨lengthHost, snapshot, metadata, s', hsnapshot, h, hrestored,
    hround ⟨_, _, _, rfl, by decide⟩⟩

/-- A checkpoint where only one may be stored. -/
def single_slot : List Invocation :=
  [(mock_all_auths 1, .initialize_contract (test_address 0)),
    (mock_all_auths 2, .set_checkpoint_config (test_address 0) 86400 1 1),
    (mock_all_auths 3, .create_checkpoint (test_address 0) (str "manual"))]

/-- An asset is registered after the checkpoint, and then the contract is initialised again. -/
def emptied_list : List Invocation :=
  [(mock_all_auths 1, .initialize_contract (test_address 0)),
    (mock_all_auths 2, .create_checkpoint (test_address 0) (str "manual")),
    (mock_all_auths 3, .register_asset (test_address 0) (str "USDC")),
    (mock_all_auths 4, .initialize_contract (test_address 0))]

/-- **Restorations that are no round trip.** The checkpoint of the restoration takes the place of
the restored one, so the two cannot be compared; and an asset that a second `initialize` took off
the list keeps its record. -/
theorem restore_not_round_trip :
    ∃ (_ : Host),
      (∃ (metadata : CheckpointMetadata) (s' : Storage),
        restore_from_checkpoint (test_address 0) 1 (mock_all_auths 4)
          (run empty_storage single_slot) = .ok (metadata, s') ∧
        compare_checkpoints 1 metadata.checkpoint_id (mock_all_auths 4) s' =
          .error "checkpoint not found") ∧
      ∃ (snapshot : CheckpointSnapshot) (metadata : CheckpointMetadata) (s' : Storage),
        run empty_storage emptied_list (.ChkpntSnap 1) = some snapshot ∧
        str "USDC" ∉ snapshot.monitored_assets ∧
        restore_from_checkpoint (test_address 0) 1 (mock_all_auths 5)
          (run empty_storage emptied_list) = .ok (metadata, s') ∧
        s' (.Health (str "USDC")) ≠ none := by
  let _ : Host := lengthHost
  refine ⟨lengthHost, ?_, ?_⟩
  · have hrestored : (returned (restore_from_checkpoint (test_address 0) 1 (mock_all_auths 4)
        (run empty_storage single_slot))).isSome := by decide +kernel
    have hrefused : refusal ((do
        let metadata ← restore_from_checkpoint (test_address 0) 1
        compare_checkpoints 1 metadata.checkpoint_id : Soroban CheckpointComparison)
          (mock_all_auths 4) (run empty_storage single_slot)) = some "checkpoint not found" := by
      decide +kernel
    rcases bind_eq_error.mp (eq_error_of_refusal hrefused) with herror | hcompare
    · rw [herror] at hrestored
      cases hrestored
    · exact hcompare
  · have hsome : ((run empty_storage emptied_list (.ChkpntSnap 1)).map
        CheckpointSnapshot.monitored_assets) = some [] := by decide +kernel
    have hkept : (returned ((do
        let _ ← restore_from_checkpoint (test_address 0) 1
        get (.Health (str "USDC")) : Soroban (Option AssetHealth)) (mock_all_auths 5)
          (run empty_storage emptied_list))).any Option.isSome := by decide +kernel
    obtain ⟨snapshot, hsnapshot, hlist⟩ := Option.map_eq_some_iff.mp hsome
    obtain ⟨record, hreturned, hrecord⟩ := (Option.any_eq_true _ _).mp hkept
    obtain ⟨s', h⟩ := exists_of_returned hreturned
    obtain ⟨metadata, s₁, hrestore, hget⟩ := bind_eq_ok.mp h
    obtain ⟨rfl, rfl⟩ := load_eq_ok.mp hget
    refine ⟨snapshot, metadata, s', hsnapshot, ?_, hrestore, ?_⟩
    · rw [hlist]
      exact List.not_mem_nil
    · exact Option.isSome_iff_ne_none.mp hrecord

end BridgeWatch.Contract

/-
The checkpoint store: the list of metadata and the snapshots stay in step.

A checkpoint is added at the end of the list and under its own key. Two mechanisms take
checkpoints away again in the same call: `prune_checkpoints` drops the oldest ones beyond
the configured number, and the retention cleanup drops those that are too old. Neither
reaches the last entry, and both remove the snapshot with the entry, so the list goes on
indexing the snapshots.
-/
import BridgeWatch.ContractCalls
import BridgeWatch.IndexedStore

set_option autoImplicit false
-- The instance of an invariant is as long as the function that keeps it.
set_option synthInstance.maxSize 2048

namespace BridgeWatch.Contract

open Transaction IndexedStore

/-! ## The records -/

def metadata_list (s : Storage) : List CheckpointMetadata := (s .CHECKPOINT_METADATA_LIST).getD []

def checkpoint_config (s : Storage) : CheckpointConfig :=
  (s .CHECKPOINT_CONFIG).getD default_checkpoint_config

@[simp] theorem load_checkpoint_metadata_eq_ok {env : Env} {s s' : Storage}
    {l : List CheckpointMetadata} :
    load_checkpoint_metadata env s = .ok (l, s') ↔ l = metadata_list s ∧ s' = s := by
  simp only [load_checkpoint_metadata, metadata_list, bind_eq_ok, load_eq_ok, pure_eq_ok,
    and_assoc, exists_and_left, exists_eq_left]

@[simp] theorem load_checkpoint_config_eq_ok {env : Env} {s s' : Storage}
    {config : CheckpointConfig} :
    load_checkpoint_config env s = .ok (config, s') ↔ config = checkpoint_config s ∧ s' = s := by
  simp only [load_checkpoint_config, checkpoint_config, bind_eq_ok, load_eq_ok, pure_eq_ok,
    and_assoc, exists_and_left, exists_eq_left]

/-- The number of checkpoints taken so far, which is the id of the last one. -/
def checkpoint_counter (s : Storage) : U64 := (s .CHECKPOINT_COUNTER).getD 0

section Listing

variable [Host]

/-- The entry for a snapshot, with the hash of its content. -/
def Describes (metadata : CheckpointMetadata) (snapshot : CheckpointSnapshot) : Prop :=
  compute_checkpoint_hash snapshot = .ok metadata.state_hash

/-- `l` lists the checkpoints of `s`, the oldest first and the last one taken at the end. -/
structure Listing (s : Storage) (l : List CheckpointMetadata) : Prop where
  increasing : l.Pairwise fun a b => a.checkpoint_id < b.checkpoint_id
  indexes : Indexes CheckpointMetadata.checkpoint_id Describes l fun id => s (.ChkpntSnap id)
  le_counter : ∀ metadata ∈ l, metadata.checkpoint_id ≤ checkpoint_counter s
  newest : l.getLast?.map CheckpointMetadata.checkpoint_id = s .LAST_CHECKPOINT_ID
  counter : (s .LAST_CHECKPOINT_ID).getD 0 = checkpoint_counter s

theorem Listing.congr {s s' : Storage} {l : List CheckpointMetadata} (h : Listing s l)
    (hsnap : ∀ id, s' (.ChkpntSnap id) = s (.ChkpntSnap id))
    (hcounter : s' .CHECKPOINT_COUNTER = s .CHECKPOINT_COUNTER)
    (hlast : s' .LAST_CHECKPOINT_ID = s .LAST_CHECKPOINT_ID) : Listing s' l := by
  have hcount : checkpoint_counter s' = checkpoint_counter s := by
    rw [checkpoint_counter, hcounter, checkpoint_counter]
  constructor
  · exact h.increasing
  · simpa only [hsnap] using h.indexes
  · rw [hcount]
    exact h.le_counter
  · rw [hlast]
    exact h.newest
  · rw [hlast, hcount]
    exact h.counter

/-- The snapshot of one checkpoint is gone; its archive, if any, is elsewhere. -/
structure Deletes (s s' : Storage) (id : U64) : Prop where
  snapshots : (fun id' => s' (.ChkpntSnap id')) =
    Function.update (fun id' => s (.ChkpntSnap id')) id none
  frame : ∀ k : Key, k.tag ∉ [Tag.ChkpntSnap, .ArchChkpntSnap] → s' k = s k

/-- An entry that is not the last one goes, with its snapshot. -/
theorem Listing.erase {s s' : Storage} {before after : List CheckpointMetadata}
    {metadata : CheckpointMetadata} (h : Listing s (before ++ metadata :: after))
    (hdelete : Deletes s s' metadata.checkpoint_id) (hafter : after ≠ []) :
    Listing s' (before ++ after) := by
  have hcounter : s' .CHECKPOINT_COUNTER = s .CHECKPOINT_COUNTER := hdelete.frame _ (by decide)
  have hlast : s' .LAST_CHECKPOINT_ID = s .LAST_CHECKPOINT_ID := hdelete.frame _ (by decide)
  have hcount : checkpoint_counter s' = checkpoint_counter s := by
    rw [checkpoint_counter, hcounter, checkpoint_counter]
  have hsub : (before ++ after).Sublist (before ++ metadata :: after) :=
    (List.sublist_cons_self metadata after).append_left before
  constructor
  · exact h.increasing.sublist hsub
  · rw [hdelete.snapshots]
    exact h.indexes.erase
  · rw [hcount]
    intro m hm
    exact h.le_counter m (hsub.subset hm)
  · rw [hlast, ← h.newest, List.getLast?_append_of_ne_nil _ hafter,
      List.getLast?_append_of_ne_nil _ (List.cons_ne_nil _ _), List.getLast?_cons_of_ne_nil hafter]
  · rw [hlast, hcount]
    exact h.counter

end Listing

/-! ## Pruning -/

section Pruning

variable {env : Env} {s s' : Storage}

theorem deletes_of_remove {id : U64} {u : Unit}
    (h : remove (.ChkpntSnap id) env s = .ok (u, s')) : Deletes s s' id := by
  rw [remove_eq_ok] at h
  subst h
  constructor
  · funext id'
    by_cases hid : id' = id
    · subst hid
      simp
    · simp [Function.update, hid]
  · intro k hk
    apply Function.update_of_ne
    rintro rfl
    exact hk List.mem_cons_self

variable [Host]

/-- The loop stops at the bound, and before that only ever drops the oldest entry. -/
theorem prune_loop_spec {max_checkpoints : U32} (hmax : 0 < max_checkpoints.toNat)
    {l kept : List CheckpointMetadata} (hl : Listing s l)
    (h : prune_loop max_checkpoints l env s = .ok (kept, s')) :
    Listing s' kept ∧ kept.length ≤ max_checkpoints.toNat ∧
      (l.length ≤ max_checkpoints.toNat → kept = l) := by
  induction l generalizing s with
  | nil =>
      obtain ⟨rfl, rfl⟩ := pure_eq_ok.mp h
      exact ⟨hl, Nat.zero_le _, fun _ => rfl⟩
  | cons oldest l ih =>
      rw [prune_loop, ite_eq_ok] at h
      rcases h with ⟨hmany, h⟩ | ⟨hfew, h⟩
      · obtain ⟨_, s₁, hremove, h⟩ := bind_eq_ok.mp h
        have hne : l ≠ [] := by
          rintro rfl
          simp only [List.length_nil] at hmany
          omega
        have hl : Listing s ([] ++ oldest :: l) := hl
        have hl₁ : Listing s₁ l := hl.erase (deletes_of_remove hremove) hne
        obtain ⟨hkept, hlength, -⟩ := ih hl₁ h
        refine ⟨hkept, hlength, fun hle => ?_⟩
        rw [List.length_cons] at hle
        omega
      · obtain ⟨rfl, rfl⟩ := pure_eq_ok.mp h
        refine ⟨hl, ?_, fun _ => rfl⟩
        rw [List.length_cons]
        omega

/-- `prune_checkpoints` brings the list within the bound. -/
theorem prune_checkpoints_spec {config : CheckpointConfig} (hmax : 0 < config.max_checkpoints.toNat)
    (hl : Listing s (metadata_list s)) {u : Unit}
    (h : prune_checkpoints config env s = .ok (u, s')) :
    Listing s' (metadata_list s') ∧
      (metadata_list s').length ≤ config.max_checkpoints.toNat ∧
      checkpoint_counter s' = checkpoint_counter s ∧ checkpoint_config s' = checkpoint_config s := by
  have hframe := fun k hk => (inferInstance : Writes [Tag.ChkpntSnap, .CHECKPOINT_METADATA_LIST]
    (prune_checkpoints config)).frame h k hk
  have hcounter : checkpoint_counter s' = checkpoint_counter s := by
    rw [checkpoint_counter, hframe .CHECKPOINT_COUNTER (by decide), checkpoint_counter]
  have hconfig : checkpoint_config s' = checkpoint_config s := by
    rw [checkpoint_config, hframe .CHECKPOINT_CONFIG (by decide), checkpoint_config]
  simp only [prune_checkpoints, bind_eq_ok, load_checkpoint_metadata_eq_ok, and_assoc,
    exists_and_left, exists_eq_left] at h
  obtain ⟨kept, s₁, hloop, h⟩ := h
  obtain ⟨hkept, hlength, hsame⟩ := prune_loop_spec hmax hl hloop
  rw [exec_if_eq_ok] at h
  rcases h with ⟨-, hset⟩ | ⟨hfew, rfl⟩
  · rw [save_eq_ok] at hset
    have hlist : metadata_list s' = kept := by simp [metadata_list, hset]
    rw [hlist]
    refine ⟨hkept.congr ?_ ?_ ?_, hlength, hcounter, hconfig⟩ <;> intros <;> simp [hset]
  · -- the bound was met from the start
    have hlist : metadata_list s' = metadata_list s := by
      have := (inferInstance : Writes [Tag.ChkpntSnap]
        (prune_loop config.max_checkpoints (metadata_list s))).frame hloop .CHECKPOINT_METADATA_LIST
        (by decide)
      rw [metadata_list, this, metadata_list]
    rw [hlist]
    rw [hsame (Nat.not_lt.mp hfew)] at hkept hlength
    exact ⟨hkept, hlength, hcounter, hconfig⟩

end Pruning

/-! ## Retention -/

section Retention

variable {env : Env} {s s' : Storage} {policy : RetentionPolicy} {max_deletions : U32}

theorem deletes_of_delete_checkpoint {metadata : CheckpointMetadata} {u : Unit}
    (h : delete_checkpoint policy metadata env s = .ok (u, s')) :
    Deletes s s' metadata.checkpoint_id := by
  unfold delete_checkpoint at h
  obtain ⟨_, s₁, harchive, hremove⟩ := bind_eq_ok.mp h
  -- the copy goes to the archive, which holds no listed snapshot
  have hframe := fun k hk => (inferInstance : Writes [Tag.ArchChkpntSnap] _).frame harchive k hk
  obtain ⟨hsnapshots, hrest⟩ := deletes_of_remove hremove
  constructor
  · have hsame : (fun id => s₁ (.ChkpntSnap id)) = fun id => s (.ChkpntSnap id) :=
      funext fun id => hframe (.ChkpntSnap id) (show Tag.ChkpntSnap ∉ _ by decide)
    rw [hsnapshots, hsame]
  · intro k hk
    rw [hrest k hk]
    exact hframe k fun hmem => hk (List.mem_cons_of_mem _ hmem)

variable [Host]

/-- The sweep over the list of checkpoints: the last entry stays, and so does the whole list
when nothing is counted as deleted. -/
theorem sweep_spec {now secs : U64} {deleted : U32} {before l : List CheckpointMetadata}
    {swept : Sweep CheckpointMetadata} (hl : Listing s (before ++ l))
    (h : sweep now max_deletions (fun _ => pure secs) CheckpointMetadata.created_at
      (delete_checkpoint policy) deleted l env s = .ok (swept, s')) :
    Listing s' (before ++ swept.kept) ∧ deleted ≤ swept.deleted ∧
      swept.kept.length ≤ l.length ∧ (swept.deleted = deleted → swept.kept = l) := by
  induction l generalizing before deleted s swept with
  | nil =>
      obtain ⟨rfl, rfl⟩ := pure_eq_ok.mp h
      exact ⟨hl, UInt32.le_refl _, Nat.le_refl _, fun _ => rfl⟩
  | cons record _ ih =>
      simp only [sweep, bind_eq_ok, pure_eq_ok, ite_eq_ok, and_assoc, exists_and_left,
        exists_eq_left] at h
      rcases h with ⟨hne, hbudget, -, _, s₁, hdelete, rest, s₂, hsweep, rfl, rfl⟩ |
        ⟨-, rest, s₁, hsweep, rfl, rfl⟩
      · have hl₁ := hl.erase (deletes_of_delete_checkpoint hdelete) hne
        obtain ⟨hkept, hdeleted, hlength, -⟩ := ih hl₁ hsweep
        -- the budget keeps the count from wrapping around
        have hlt : deleted.toNat < max_deletions.toNat := hbudget
        have hmax := max_deletions.toNat_lt
        have hsucc : (deleted + 1).toNat = deleted.toNat + 1 := by
          rw [UInt32.toNat_add, UInt32.toNat_one]
          omega
        have hdeleted : (deleted + 1).toNat ≤ rest.deleted.toNat := hdeleted
        have hmore : deleted.toNat < rest.deleted.toNat := by omega
        refine ⟨hkept, UInt32.le_iff_toNat_le.mpr hmore.le, Nat.le_succ_of_le hlength, ?_⟩
        rintro rfl
        exact absurd hmore (lt_irrefl _)
      · rw [List.append_cons] at hl
        obtain ⟨hkept, hdeleted, hlength, hsame⟩ := ih hl hsweep
        rw [← List.append_cons] at hkept
        refine ⟨hkept, hdeleted, Nat.succ_le_succ hlength, fun heq => ?_⟩
        exact congrArg (record :: ·) (hsame heq)

/-- The retention cleanup keeps the list in step and does not make it longer. -/
theorem cleanup_checkpoints_spec {counts : U32 × U32} (hl : Listing s (metadata_list s))
    (h : cleanup_checkpoints policy max_deletions env s = .ok (counts, s')) :
    Listing s' (metadata_list s') ∧ (metadata_list s').length ≤ (metadata_list s).length := by
  simp only [cleanup_checkpoints, bind_eq_ok, reads_eq_ok, load_checkpoint_metadata_eq_ok,
    ite_eq_ok, pure_eq_ok, and_assoc, exists_and_left, exists_eq_left] at h
  rcases h with ⟨-, -, rfl⟩ | ⟨-, swept, s₁, hsweep, _, s₂, hset, _, s₃, harchive, -, rfl⟩
  · exact ⟨hl, Nat.le_refl _⟩
  · have hl : Listing s ([] ++ metadata_list s) := hl
    obtain ⟨hkept, -, hlength, hsame⟩ := sweep_spec hl hsweep
    rw [List.nil_append] at hkept
    have hframe : metadata_list s₁ = metadata_list s := by
      have := (inferInstance : Writes [Tag.ChkpntSnap, .ArchChkpntSnap] _).frame hsweep
        .CHECKPOINT_METADATA_LIST (by decide)
      rw [metadata_list, this, metadata_list]
    -- the list is written unless nothing was deleted, and then it is the same
    have hset : Listing s₂ swept.kept ∧ metadata_list s₂ = swept.kept := by
      rw [exec_if_eq_ok] at hset
      rcases hset with ⟨-, hset⟩ | ⟨hnone, rfl⟩
      · rw [save_eq_ok] at hset
        refine ⟨hkept.congr ?_ ?_ ?_, ?_⟩ <;> intros <;> simp [hset, metadata_list]
      · have hzero : swept.deleted = 0 := UInt32.toNat_inj.mp (by
          have := UInt32.lt_iff_toNat_lt.not.mp hnone
          rw [UInt32.toNat_zero] at this ⊢
          omega)
        exact ⟨hkept, hframe.trans (hsame hzero).symm⟩
    have harchive := fun k hk =>
      (inferInstance : Writes [Tag.ARCHIVED_CHECKPOINT_META] _).frame harchive k hk
    have hlist : metadata_list s' = swept.kept := by
      rw [metadata_list, harchive .CHECKPOINT_METADATA_LIST (by decide), ← hset.2, metadata_list]
    rw [hlist]
    refine ⟨hset.1.congr (fun id => ?_) ?_ ?_, hlength⟩
    · exact harchive (.ChkpntSnap id) (show Tag.ChkpntSnap ∉ _ by decide)
    · exact harchive .CHECKPOINT_COUNTER (by decide)
    · exact harchive .LAST_CHECKPOINT_ID (by decide)

end Retention

/-! ## The invariant -/

/-- What holds of the checkpoints between two calls, once `n` checkpoints have been taken. -/
structure CheckpointInvariant [Host] (n : U64) (s : Storage) : Prop where
  since : n ≤ checkpoint_counter s
  listing : Listing s (metadata_list s)
  length_le : (metadata_list s).length ≤ (checkpoint_config s).max_checkpoints.toNat
  max_pos : 0 < (checkpoint_config s).max_checkpoints.toNat

section Invariant

variable [Host] {n : U64}

/-- The families of keys that the invariant reads. -/
abbrev listingTags : List Tag :=
  [.ChkpntSnap, .CHECKPOINT_METADATA_LIST, .CHECKPOINT_COUNTER, .LAST_CHECKPOINT_ID,
    .CHECKPOINT_CONFIG]

instance : DependsOn listingTags (CheckpointInvariant n) where
  congr := by
    intro s s' heq h
    have hlist : metadata_list s' = metadata_list s := by
      rw [metadata_list, heq .CHECKPOINT_METADATA_LIST (by decide), metadata_list]
    have hconfig : checkpoint_config s' = checkpoint_config s := by
      rw [checkpoint_config, heq .CHECKPOINT_CONFIG (by decide), checkpoint_config]
    constructor
    · rw [checkpoint_counter, heq .CHECKPOINT_COUNTER (by decide)]
      exact h.since
    · rw [hlist]
      exact h.listing.congr (fun id => heq (.ChkpntSnap id) (show Tag.ChkpntSnap ∈ _ by decide))
        (heq .CHECKPOINT_COUNTER (by decide)) (heq .LAST_CHECKPOINT_ID (by decide))
    · rw [hlist, hconfig]
      exact h.length_le
    · rw [hconfig]
      exact h.max_pos

/-- What a call may write besides when it takes a checkpoint. -/
abbrev besidesTags : List Tag :=
  [.Mismatches, .ArchMismatches, .LiqHist, .ArchLiqHist, .ArchChkpntSnap,
    .ARCHIVED_CHECKPOINT_META, .LastCleanup, .LAST_CHECKPOINT_AT, .Health, .Price, .PriceHist,
    .HealthRes, .MONITORED_ASSETS, .HEALTH_WEIGHTS, .RISK_SCORE_CONFIG, .SignerNonce, .SigCache,
    .EVENT_REPLAY_CTR, .EVENT_REPLAY_LOG, .MmThreshOvr, .BRIDGE_IDS, .LiqDepth, .LIQUIDITY_PAIRS]

instance (priority := low) {α : Type} (m : Soroban α) [h : Writes besidesTags m] :
    Preserves (CheckpointInvariant n) m :=
  h.preserves (by decide)

instance (policy : RetentionPolicy) (max_deletions : U32) :
    Preserves (CheckpointInvariant n) (cleanup_checkpoints policy max_deletions) where
  preserved := by
    intro env s counts s' hs h
    obtain ⟨hlisting, hlength⟩ := cleanup_checkpoints_spec hs.listing h
    have hframe := fun k hk => (inferInstance : Writes [Tag.CHECKPOINT_METADATA_LIST, .ChkpntSnap,
      .ArchChkpntSnap, .ARCHIVED_CHECKPOINT_META] (cleanup_checkpoints policy max_deletions)).frame
      h k hk
    have hconfig : checkpoint_config s' = checkpoint_config s := by
      rw [checkpoint_config, hframe .CHECKPOINT_CONFIG (by decide), checkpoint_config]
    refine ⟨?_, hlisting, ?_, ?_⟩
    · rw [checkpoint_counter, hframe .CHECKPOINT_COUNTER (by decide)]
      exact hs.since
    · rw [hconfig]
      exact hlength.trans hs.length_le
    · rw [hconfig]
      exact hs.max_pos

instance (data_type : RetentionDataType) (policy : RetentionPolicy) (max_deletions : U32) :
    Preserves (CheckpointInvariant n) (cleanup_data_type_internal data_type policy max_deletions) := by
  unfold cleanup_data_type_internal cleanup_of
  cases data_type <;> infer_instance

instance : Preserves (CheckpointInvariant n) maybe_trigger_auto_cleanup := by
  unfold maybe_trigger_auto_cleanup
  infer_instance

/-! ## Taking a checkpoint -/

variable {env : Env} {s s' : Storage}

omit [Host] in
/-- A snapshot takes the next id. -/
theorem take_snapshot_spec {caller : Address} {trigger : CheckpointTrigger} {label : SString}
    {restored_from : Option U64} {snapshot : CheckpointSnapshot}
    (h : take_snapshot caller trigger label restored_from env s = .ok (snapshot, s')) :
    s' = s ∧ snapshot.checkpoint_id.toNat = (checkpoint_counter s).toNat + 1 := by
  have hs : s' = s := Writes.store_eq inferInstance h
  simp only [take_snapshot, bind_eq_ok, load_checkpoint_config_eq_ok, load_eq_ok, add_u64_eq_ok,
    reads_eq_ok, pure_eq_ok, and_assoc, exists_and_left, exists_eq_left] at h
  obtain ⟨hlt, _, _, _, _, _, _, _, _, _, _, _, _, rfl, -⟩ := h
  refine ⟨hs, ?_⟩
  dsimp only
  rw [UInt64.toNat_add, UInt64.toNat_one]
  unfold checkpoint_counter
  rw [UInt64.toNat_one] at hlt
  omega

/-- The new checkpoint stands at the end of the list. -/
theorem store_checkpoint_spec {snapshot : CheckpointSnapshot} {state_hash : BytesN 32} {u : Unit}
    (hl : Listing s (metadata_list s)) (hid : snapshot.checkpoint_id.toNat = (checkpoint_counter s).toNat + 1)
    (hhash : compute_checkpoint_hash snapshot = .ok state_hash)
    (h : store_checkpoint snapshot (snapshot.metadata state_hash) env s = .ok (u, s')) :
    Listing s' (metadata_list s') ∧ checkpoint_counter s' = snapshot.checkpoint_id ∧
      checkpoint_config s' = checkpoint_config s := by
  simp only [store_checkpoint, bind_eq_ok, save_eq_ok, load_checkpoint_metadata_eq_ok, and_assoc,
    exists_and_left, exists_eq_left, exists_const] at h
  have hlist : metadata_list s' = metadata_list s ++ [snapshot.metadata state_hash] := by
    simp [h, metadata_list]
  have hcounter : checkpoint_counter s' = snapshot.checkpoint_id := by
    simp [h, checkpoint_counter]
  have hlast : s' .LAST_CHECKPOINT_ID = some snapshot.checkpoint_id := by simp [h]
  have hsnapshots : (fun id => s' (.ChkpntSnap id)) =
      Function.update (fun id => s (.ChkpntSnap id)) snapshot.checkpoint_id (some snapshot) := by
    funext id
    by_cases heq : id = snapshot.checkpoint_id
    · subst heq
      simp [h]
    · simp [h, Function.update, heq]
  have hnew : ∀ metadata ∈ metadata_list s, metadata.checkpoint_id < snapshot.checkpoint_id := by
    intro metadata hmem
    have hle : metadata.checkpoint_id.toNat ≤ (checkpoint_counter s).toNat := hl.le_counter _ hmem
    apply UInt64.lt_iff_toNat_lt.mpr
    omega
  refine ⟨?_, hcounter, by simp [h, checkpoint_config]⟩
  rw [hlist]
  constructor
  · rw [List.pairwise_append]
    refine ⟨hl.increasing, List.pairwise_singleton _ _, ?_⟩
    rintro a ha b hb
    cases List.mem_singleton.mp hb
    exact hnew a ha
  · rw [hsnapshots]
    refine Indexes.concat hl.indexes (e := snapshot.metadata state_hash) ?_ hhash
    intro hmem
    obtain ⟨metadata, hmetadata, heq⟩ := List.mem_map.mp hmem
    exact UInt64.lt_irrefl _ (heq ▸ hnew metadata hmetadata)
  · rw [hcounter]
    intro metadata hmem
    rcases List.mem_append.mp hmem with hold | hself
    · exact UInt64.le_of_lt (hnew metadata hold)
    · cases List.mem_singleton.mp hself
      exact UInt64.le_refl _
  · rw [hlast, List.getLast?_concat]
    rfl
  · rw [hlast, hcounter]
    rfl

instance (caller : Address) (trigger : CheckpointTrigger) (label : SString)
    (restored_from : Option U64) :
    Preserves (CheckpointInvariant n) (persist_checkpoint caller trigger label restored_from) where
  preserved := by
    intro env s metadata s' hs h
    simp only [persist_checkpoint, bind_eq_ok, load_checkpoint_config_eq_ok, attempt_eq_ok,
      pure_eq_ok, and_assoc, exists_and_left, exists_eq_left] at h
    obtain ⟨snapshot, s₁, htake, state_hash, hhash, _, s₂, hstore, _, s₃, hprune, _, s₄, hcleanup,
      -, rfl⟩ := h
    obtain ⟨rfl, hid⟩ := take_snapshot_spec htake
    obtain ⟨hl₂, hcounter₂, hconfig₂⟩ := store_checkpoint_spec hs.listing hid hhash hstore
    obtain ⟨hl₃, hlength₃, hcounter₃, hconfig₃⟩ := prune_checkpoints_spec hs.max_pos hl₂ hprune
    have hs₃ : CheckpointInvariant n s₃ := by
      refine ⟨?_, hl₃, ?_, ?_⟩
      · rw [hcounter₃, hcounter₂]
        have hsince := UInt64.le_iff_toNat_le.mp hs.since
        exact UInt64.le_iff_toNat_le.mpr (by omega)
      · rw [hconfig₃, hconfig₂]
        exact hlength₃
      · rw [hconfig₃, hconfig₂]
        exact hs.max_pos
    exact Preserves.preserved hs₃ hcleanup

/-- The checkpoint that `persist_checkpoint` returns is the last one taken. -/
theorem persist_checkpoint_last {caller : Address} {trigger : CheckpointTrigger} {label : SString}
    {restored_from : Option U64} {metadata : CheckpointMetadata}
    (h : persist_checkpoint caller trigger label restored_from env s = .ok (metadata, s')) :
    s' .LAST_CHECKPOINT_ID = some metadata.checkpoint_id := by
  simp only [persist_checkpoint, bind_eq_ok, load_checkpoint_config_eq_ok, attempt_eq_ok,
    pure_eq_ok, and_assoc, exists_and_left, exists_eq_left] at h
  obtain ⟨snapshot, s₁, -, state_hash, -, _, s₂, hstore, _, s₃, hprune, _, s₄, hcleanup, rfl,
    rfl⟩ := h
  rw [(inferInstance : Writes cleanupTags _).frame hcleanup .LAST_CHECKPOINT_ID (by decide),
    (inferInstance : Writes [Tag.ChkpntSnap, .CHECKPOINT_METADATA_LIST] _).frame hprune
      .LAST_CHECKPOINT_ID (by decide)]
  simp only [store_checkpoint, bind_eq_ok, save_eq_ok, load_checkpoint_metadata_eq_ok, and_assoc,
    exists_and_left, exists_eq_left, exists_const] at hstore
  simp [hstore, CheckpointSnapshot.metadata]

instance (caller : Address) : Preserves (CheckpointInvariant n) (maybe_create_auto_checkpoint caller) := by
  unfold maybe_create_auto_checkpoint
  infer_instance

instance (caller : Address) (interval_secs : U64) (max_checkpoints format_version : U32) :
    Preserves (CheckpointInvariant n)
      (set_checkpoint_config caller interval_secs max_checkpoints format_version) where
  preserved := by
    intro env s u s' hs h
    simp only [set_checkpoint_config, bind_eq_ok, panic_if_eq_ok, save_eq_ok, and_assoc,
      exists_and_left, exists_eq_left, exists_const] at h
    obtain ⟨_, s₁, hauth, hmax, -, hprune⟩ := h
    rw [Writes.store_eq inferInstance hauth] at hprune
    -- the new bound is in force when the list is pruned
    let config : CheckpointConfig := { interval_secs, max_checkpoints, format_version }
    have hpos : 0 < config.max_checkpoints.toNat := by
      have : max_checkpoints.toNat ≠ 0 := fun hzero => hmax (UInt32.toNat_inj.mp hzero)
      exact Nat.pos_of_ne_zero this
    have hl : Listing (Function.update s .CHECKPOINT_CONFIG (some config)) (metadata_list s) :=
      hs.listing.congr (fun _ => rfl) rfl rfl
    obtain ⟨hlisting, hlength, hcounter, hconfig⟩ := prune_checkpoints_spec hpos hl hprune
    have hconfig : checkpoint_config s' = config := hconfig.trans (by simp [checkpoint_config])
    refine ⟨?_, hlisting, ?_, ?_⟩
    · rw [hcounter]
      exact hs.since
    · rw [hconfig]
      exact hlength
    · rw [hconfig]
      exact hpos

instance (caller : Address) (asset_code : SString) (x y z w : U32) :
    Preserves (CheckpointInvariant n) (submit_health caller asset_code x y z w) := by
  unfold submit_health
  infer_instance

instance (caller : Address) (records : List HealthScoreBatch) :
    Preserves (CheckpointInvariant n) (submit_health_batch caller records) := by
  unfold submit_health_batch
  infer_instance

instance (caller : Address) (asset_code : SString) (price : I128) (source : SString) :
    Preserves (CheckpointInvariant n) (submit_price caller asset_code price source) := by
  unfold submit_price
  infer_instance

instance (caller : Address) (asset_code : SString) (status : AssetHealth) (active paused : Bool) :
    Preserves (CheckpointInvariant n) (store_status caller asset_code status active paused) := by
  unfold store_status
  infer_instance

/-- **Step.** Every call but `initialize` keeps the invariant. -/
theorem exec_preserves_checkpoints {call : EntryPoint} (hcall : call.initializes = false) :
    Preserves (CheckpointInvariant n) (exec call) := by
  cases call
  case initialize_contract => cases hcall
  case submit_health | submit_health_batch | submit_price | set_checkpoint_config =>
    dsimp only [exec]
    infer_instance
  case submit_health_signed | submit_price_signed | submit_health_batch_signed | set_health_weights |
      set_risk_score_config | submit_calculated_health | register_asset | pause_asset | unpause_asset |
      deregister_asset | record_supply_mismatch | record_liquidity_depth | create_checkpoint |
      restore_from_checkpoint | cleanup_old_data | cleanup_data_type =>
    dsimp only [exec, submit_health_signed, submit_price_signed, submit_health_batch_signed, set_health_weights,
        set_risk_score_config, submit_calculated_health, register_asset, pause_asset, unpause_asset,
        deregister_asset, record_supply_mismatch, record_liquidity_depth, create_checkpoint,
        restore_from_checkpoint, cleanup_old_data, cleanup_data_type]
    infer_instance
  all_goals
    -- the call writes nothing that the invariant reads
    apply exec_preserves
    dsimp only [writes]
    decide

end Invariant

/-! ## Runs -/

section Runs

variable [Host]

/-- A storage in which no checkpoint has been taken. -/
theorem CheckpointInvariant.of_none {s : Storage} (hsnap : ∀ id, s (.ChkpntSnap id) = none)
    (hlast : s .LAST_CHECKPOINT_ID = none) (hlist : metadata_list s = [])
    (hcounter : checkpoint_counter s = 0) (hconfig : checkpoint_config s = default_checkpoint_config) :
    CheckpointInvariant 0 s := by
  constructor
  · exact UInt64.zero_le
  · rw [hlist]
    exact ⟨List.Pairwise.nil, Indexes.nil hsnap, nofun, by rw [hlast]; rfl, by rw [hlast, hcounter]; rfl⟩
  · rw [hlist]
    exact Nat.zero_le _
  · rw [hconfig]
    decide

theorem checkpointInvariant_initialize {env : Env} {admin : Address} :
    CheckpointInvariant 0 (step exec (env, .initialize_contract admin) empty_storage) := by
  rcases step_cases exec empty_storage (env, .initialize_contract admin) with hok | ⟨-, heq⟩
  · obtain ⟨-, hinit⟩ := initialize_contract_spec hok
    apply CheckpointInvariant.of_none
    · intro id
      exact exec_frame hok (show Tag.ChkpntSnap ∉ initializeTags by decide)
    · exact exec_frame hok (show Tag.LAST_CHECKPOINT_ID ∉ initializeTags by decide)
    · rw [metadata_list, hinit.metadata, Option.getD_some]
    · rw [checkpoint_counter, hinit.counter, Option.getD_some]
    · rw [checkpoint_config, hinit.config, Option.getD_some]
  · rw [heq]
    exact CheckpointInvariant.of_none (fun _ => rfl) rfl rfl rfl rfl

/-- **Run.** -/
theorem checkpointInvariant_run (env : Env) (admin : Address) {calls : List Invocation}
    (h : ∀ t ∈ calls, t.2.initializes = false) :
    CheckpointInvariant 0 (run empty_storage ((env, .initialize_contract admin) :: calls)) := by
  have hcalls : Along exec (fun _ t => t.2.initializes = false)
      (step exec (env, .initialize_contract admin) empty_storage) calls :=
    Along.of_forall fun _ t ht => h t ht
  rw [run, runFrom_cons]
  exact run_invariant (fun hs hcall hok => (exec_preserves_checkpoints hcall).preserved hs hok)
    checkpointInvariant_initialize hcalls

/-- What holds of the stored checkpoints. -/
structure CheckpointStore (s : Storage) : Prop where
  increasing : ((metadata_list s).map CheckpointMetadata.checkpoint_id).Pairwise (· < ·)
  stored : ∀ id, s (.ChkpntSnap id) ≠ none ↔
    id ∈ (metadata_list s).map CheckpointMetadata.checkpoint_id
  length_le : (metadata_list s).length ≤ (checkpoint_config s).max_checkpoints.toNat
  newest : (metadata_list s).getLast?.map CheckpointMetadata.checkpoint_id = s .LAST_CHECKPOINT_ID
  counter : (s .LAST_CHECKPOINT_ID).getD 0 = checkpoint_counter s
  valid : ∀ id ∈ (metadata_list s).map CheckpointMetadata.checkpoint_id, ∀ env, ∃ validation,
    validate_checkpoint id env s = .ok (validation, s) ∧ validation.is_valid = true

/-- The hash of a listed snapshot is the one in its entry. -/
theorem Listing.valid {s : Storage} {id : U64} {env : Env} (h : Listing s (metadata_list s))
    (hid : id ∈ (metadata_list s).map CheckpointMetadata.checkpoint_id) :
    ∃ validation, validate_checkpoint id env s = .ok (validation, s) ∧
      validation.is_valid = true := by
  have hfind : ((metadata_list s).find? fun item => item.checkpoint_id = id).isSome := by
    obtain ⟨metadata, hmem, heq⟩ := List.mem_map.mp hid
    exact List.find?_isSome.mpr ⟨metadata, hmem, by simpa using heq⟩
  obtain ⟨metadata, hfind⟩ := Option.isSome_iff_exists.mp hfind
  obtain ⟨snapshot, hsnapshot, hhash⟩ := h.indexes.described metadata (List.mem_of_find?_eq_some hfind)
  have heq : metadata.checkpoint_id = id := by simpa using List.find?_some hfind
  rw [heq] at hsnapshot
  simp only [validate_checkpoint, get_checkpoint_or_panic, load_checkpoint_metadata_by_id,
    bind_eq_ok, load_eq_ok, expect_eq_ok, load_checkpoint_metadata_eq_ok, attempt_eq_ok,
    pure_eq_ok, and_assoc, exists_and_left, exists_eq_left]
  refine ⟨_, ⟨snapshot, hsnapshot, metadata, hfind, metadata.state_hash, hhash, rfl, trivial⟩, ?_⟩
  simp

theorem CheckpointInvariant.store {n : U64} {s : Storage} (h : CheckpointInvariant n s) : CheckpointStore s where
  increasing := List.pairwise_map.mpr h.listing.increasing
  stored := h.listing.indexes.stored
  length_le := h.length_le
  newest := h.listing.newest
  counter := h.listing.counter
  valid _ hid _ := h.listing.valid hid

/-- **The checkpoint store.** After every run that starts with `initialize`, the list and the
snapshots are in step and within the bound, every listed checkpoint validates, and the last
entry is the last checkpoint taken; a checkpoint taken next takes that place. -/
theorem checkpointStore_run {env : Env} {admin : Address} {calls : List Invocation}
    (h : ∀ t ∈ calls, t.2.initializes = false) :
    CheckpointStore (run empty_storage ((env, .initialize_contract admin) :: calls)) ∧
      ∀ env' caller trigger label restored_from metadata s',
        persist_checkpoint caller trigger label restored_from env'
            (run empty_storage ((env, .initialize_contract admin) :: calls)) = .ok (metadata, s') →
          (metadata_list s').getLast?.map CheckpointMetadata.checkpoint_id =
            some metadata.checkpoint_id := by
  have hs := checkpointInvariant_run env admin h
  refine ⟨hs.store, ?_⟩
  intro env' caller trigger label restored_from metadata s' hpersist
  have hs' : CheckpointInvariant 0 s' := Preserves.preserved hs hpersist
  rw [hs'.listing.newest, persist_checkpoint_last hpersist]

end Runs

/-- Two checkpoints with a bound of one: the older is pruned. -/
def pruned_once : List Invocation :=
  [(mock_all_auths 1, .set_checkpoint_config (test_address 0) 86400 1 1),
    (mock_all_auths 2, .create_checkpoint (test_address 0) (str "first")),
    (mock_all_auths 3, .create_checkpoint (test_address 0) (str "second"))]

theorem checkpointStore_run_pruned :
    @CheckpointStore lengthHost (@run lengthHost empty_storage
      ((mock_all_auths 1, .initialize_contract (test_address 0)) :: pruned_once)) := by
  let _ : Host := lengthHost
  exact (checkpointStore_run (by decide)).1

end BridgeWatch.Contract

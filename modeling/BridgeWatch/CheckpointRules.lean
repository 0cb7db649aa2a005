/-
What the checkpoints do to an invariant.

Most calls end in a checkpoint: a snapshot of the state is stored under the next id, the oldest
ones are pruned, and the retention cleanup drops those that are too old. So an invariant that
bears with a snapshot of the current state, and with the loss of any snapshot, bears with all of
it.
-/
import BridgeWatch.ContractCheckpoints

set_option autoImplicit false
-- The instance of an invariant is as long as the function that keeps it.
set_option synthInstance.maxSize 2048

namespace BridgeWatch.Contract

open Transaction

/-- What the cleanups and the checkpoints write besides snapshots. -/
abbrev housekeepingTags : List Tag :=
  [.Mismatches, .ArchMismatches, .LiqHist, .ArchLiqHist, .ArchChkpntSnap,
    .CHECKPOINT_METADATA_LIST, .ARCHIVED_CHECKPOINT_META, .LastCleanup, .CHECKPOINT_COUNTER,
    .LAST_CHECKPOINT_AT, .LAST_CHECKPOINT_ID]

/-- The invariant bears with the loss of a snapshot. -/
class BearsPruning (I : Storage → Prop) : Prop where
  others : ∀ {α : Type} (m : Soroban α), Writes housekeepingTags m → Preserves I m
  drop : ∀ checkpoint_id : U64, Preserves I (remove (.ChkpntSnap checkpoint_id) : Soroban Unit)

/-- The invariant bears with a snapshot of the current state as well. -/
class BearsCheckpoints (I : Storage → Prop) : Prop extends BearsPruning I where
  take : ∀ {caller : Address} {trigger : CheckpointTrigger} {label : SString}
    {restored_from : Option U64} {env : Env} {s s' : Storage} {snapshot : CheckpointSnapshot}, I s →
      take_snapshot caller trigger label restored_from env s = .ok (snapshot, s') →
        Preserves I (save (.ChkpntSnap snapshot.checkpoint_id) snapshot : Soroban Unit)

variable {I : Storage → Prop}

/-! ## Pruning and cleanup -/

section Pruning

variable [h : BearsPruning I]

instance (priority := low) {α : Type} (m : Soroban α) [hm : Writes housekeepingTags m] :
    Preserves I m :=
  h.others m hm

instance (checkpoint_id : U64) :
    Preserves I (remove (.ChkpntSnap checkpoint_id) : Soroban Unit) :=
  h.drop checkpoint_id

instance (max_checkpoints : U32) (l : List CheckpointMetadata) :
    Preserves I (prune_loop max_checkpoints l) := by
  induction l with
  | nil | cons =>
      unfold prune_loop
      infer_instance

instance (config : CheckpointConfig) : Preserves I (prune_checkpoints config) := by
  unfold prune_checkpoints
  infer_instance

instance (policy : RetentionPolicy) (metadata : CheckpointMetadata) :
    Preserves I (delete_checkpoint policy metadata) := by
  unfold delete_checkpoint
  infer_instance

instance (policy : RetentionPolicy) (now secs : U64) (max_deletions deleted : U32)
    (l : List CheckpointMetadata) :
    Preserves I (sweep now max_deletions (fun _ => pure secs)
      CheckpointMetadata.created_at (delete_checkpoint policy) deleted l) := by
  induction l generalizing deleted with
  | nil | cons =>
      unfold sweep
      infer_instance

instance (policy : RetentionPolicy) (max_deletions : U32) :
    Preserves I (cleanup_checkpoints policy max_deletions) := by
  unfold cleanup_checkpoints
  infer_instance

instance (data_type : RetentionDataType) (policy : RetentionPolicy) (max_deletions : U32) :
    Preserves I (cleanup_data_type_internal data_type policy max_deletions) := by
  unfold cleanup_data_type_internal cleanup_of
  cases data_type <;> infer_instance

instance : Preserves I maybe_trigger_auto_cleanup := by
  unfold maybe_trigger_auto_cleanup
  infer_instance

theorem store_checkpoint_preserves {snapshot : CheckpointSnapshot} (metadata : CheckpointMetadata)
    (hsave : Preserves I (save (.ChkpntSnap snapshot.checkpoint_id) snapshot : Soroban Unit)) :
    Preserves I (store_checkpoint snapshot metadata) := by
  unfold store_checkpoint
  infer_instance

end Pruning

/-! ## Checkpoints -/

section Checkpoints

variable [Host] [h : BearsCheckpoints I]

instance (caller : Address) (trigger : CheckpointTrigger) (label : SString)
    (restored_from : Option U64) :
    Preserves I (persist_checkpoint caller trigger label restored_from) where
  preserved := by
    intro env s metadata s' hs hm
    simp only [persist_checkpoint, load_checkpoint_config, bind_eq_ok, load_eq_ok, attempt_eq_ok,
      pure_eq_ok, and_assoc, exists_and_left, exists_eq_left] at hm
    obtain ⟨snapshot, s₁, htake, state_hash, -, _, s₂, hstore, _, s₃, hprune, _, s₄, hcleanup, -,
      rfl⟩ := hm
    have hstores := store_checkpoint_preserves (snapshot.metadata state_hash) (h.take hs htake)
    obtain rfl : s₁ = s := Writes.store_eq inferInstance htake
    have hs₂ : I s₂ := hstores.preserved hs hstore
    have hs₃ : I s₃ := Preserves.preserved hs₂ hprune
    exact Preserves.preserved hs₃ hcleanup

instance (caller : Address) : Preserves I (maybe_create_auto_checkpoint caller) := by
  unfold maybe_create_auto_checkpoint
  infer_instance

end Checkpoints

end BridgeWatch.Contract

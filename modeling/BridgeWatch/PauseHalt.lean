/-
The global pause: which calls still write while the contract is paused.

The guard is a call of `assert_not_globally_paused` that each entry point makes for
itself, or through the guard on its caller. The entry points are three groups here:
those that are meant to work during a pause, those that should be guarded and are not,
and the others, which fail or write none of the protected records.
-/
import BridgeWatch.ContractCalls

set_option autoImplicit false
-- The instance of a guard looks through the reads that come before it.
set_option synthInstance.maxSize 2048

namespace BridgeWatch.Contract

open Transaction

/-- What a pause protects: health, prices, locks, alerts and expiration, roles, signers, the
weights, the configuration with its thresholds and policies, and the checkpoints. -/
def protectedTags : List Tag :=
  [.Health, .Price, .PriceHist, .Lock, .LockHist, .DevAlert, .ExpTtl, .EXPIRATIONPOLICY, .RoleKey,
    .ROLES_LIST, .RoleGrants, .PermissionGrants, .Signer, .SIGNER_LIST, .SIGNATURE_THRESHOLD,
    .SignerNonce, .SigCache, .HEALTH_WEIGHTS, .RISK_SCORE_CONFIG, .Entry, .ConfigKeys, .AuditLog,
    .DevThresh, .DevThreshOvr, .MmThreshOvr, .MISMATCH_THRESHOLD, .RetPolicy, .RetOvr, .ChkpntSnap,
    .CHECKPOINT_METADATA_LIST, .CHECKPOINT_COUNTER, .CHECKPOINT_CONFIG, .LAST_CHECKPOINT_AT,
    .LAST_CHECKPOINT_ID, .ArchChkpntSnap, .ARCHIVED_CHECKPOINT_META]

/-- The operations on the pause itself, the emergency multisig, the guardian and the contact,
recovery mode, and the transfer of the admin and upgrades. -/
def EntryPoint.exempt : EntryPoint → Bool
  | .emergency_pause .. | .unpause .. | .configure_emergency_multisig ..
  | .emergency_pause_multisig .. | .unpause_emergency_multisig ..
  | .set_mismatch_threshold_multisig .. | .blacklist_bridge_multisig ..
  | .delist_oracle_node_multisig .. | .set_pause_guardian .. | .set_emergency_contact ..
  | .enter_recovery_mode .. | .exit_recovery_mode .. | .record_recovery_step ..
  | .propose_admin_transfer .. | .accept_admin_transfer .. | .cancel_admin_transfer ..
  | .propose_upgrade .. | .propose_rollback .. | .approve_upgrade .. | .execute_upgrade ..
  | .cancel_upgrade .. => true
  | _ => false

/-- The other operations that write protected records and do not look at the pause. -/
def EntryPoint.unguarded : EntryPoint → Bool
  | .initialize_contract .. | .submit_health .. | .submit_health_batch .. | .submit_price ..
  | .register_signer .. | .remove_signer .. | .set_signature_threshold .. | .verify_signature ..
  | .verify_multi_sig .. | .submit_health_signed .. | .submit_price_signed ..
  | .submit_health_batch_signed .. | .submit_calculated_health .. | .pause_asset ..
  | .unpause_asset .. | .get_deviation_threshold_override .. | .check_price_deviation ..
  | .get_mismatch_threshold_override .. | .set_expiration_policy .. | .set_asset_expiration_ttl ..
  | .extend_expiration .. | .cleanup_expired_data .. => true
  | _ => false

section Halt

variable [Host]

/-- The call fails during a pause, or writes nothing that the pause protects. -/
theorem exec_blocked_or_disjoint {call : EntryPoint} (hexempt : call.exempt = false)
    (hguarded : call.unguarded = false) :
    Blocked Paused (exec call) ∨ ∀ t ∈ protectedTags, t ∉ writes call := by
  cases call <;> first
    | cases hexempt; done
    | cases hguarded; done
    | exact .inl (by dsimp only [exec]; infer_instance)
    | exact .inr (by dsimp only [writes]; decide)

/-- The pause halts a call: it leaves the protected records as they are. -/
def Halted (s : Storage) (t : Invocation) : Prop :=
  is_paused s = true → t.2.exempt = false → ∀ k : Key, k.tag ∈ protectedTags → step exec t s k = s k

/-- **Step.** -/
theorem halted_of_guarded {s : Storage} {t : Invocation}
    (hguarded : is_paused s = true → t.2.unguarded = false) : Halted s t := by
  intro hpaused hexempt k hk
  rcases step_cases exec s t with hok | ⟨-, heq⟩
  · rcases exec_blocked_or_disjoint hexempt (hguarded hpaused) with hblocked | hdisjoint
    · exact absurd hok (hblocked.fails hpaused _)
    · exact exec_frame hok (hdisjoint _ hk)
  · rw [heq]

/-- **Run.** Along a run that makes none of the unguarded calls while the contract is paused,
the pause halts every call. -/
theorem halted_run {calls : List Invocation}
    (h : Along exec (fun s t => is_paused s = true → t.2.unguarded = false) empty_storage calls) :
    ∀ before t after, calls = before ++ t :: after → Halted (run empty_storage before) t := by
  rintro before t after rfl
  obtain ⟨-, hguarded, -⟩ := Along.append.mp h
  exact halted_of_guarded hguarded

end Halt

/-! ## A concrete run -/

/-- A registered asset, and then a pause. -/
def paused_run : List Invocation :=
  [(mock_all_auths 1, .initialize_contract (test_address 0)),
    (mock_all_auths 1, .register_asset (test_address 0) (str "USDC")),
    (mock_all_auths 2, .emergency_pause (test_address 0) (str "incident"))]

theorem halted_run_lock :
    @Halted lengthHost (@run lengthHost empty_storage paused_run)
      (mock_all_auths 3, .lock_asset (test_address 0) (str "USDC") (str "incident")) := by
  let _ : Host := lengthHost
  have hguarded : Along exec (fun s t => is_paused s = true → t.2.unguarded = false) empty_storage
      (paused_run ++
        [(mock_all_auths 3, .lock_asset (test_address 0) (str "USDC") (str "incident"))]) := by
    refine ⟨fun hpaused => ?_, fun _ => rfl, fun _ => rfl, fun _ => rfl, trivial⟩
    exact absurd hpaused (by decide)
  exact halted_run hguarded paused_run _ [] rfl

/-- **A write during the pause.** -/
theorem submitted_while_paused :
    ∃ (_ : Host), ¬Halted (run empty_storage paused_run)
      (mock_all_auths 3, .submit_health (test_address 0) (str "USDC") 90 80 70 60) := by
  let _ : Host := lengthHost
  refine ⟨lengthHost, fun h => ?_⟩
  have hsame := h (by decide +kernel) rfl (.Health (str "USDC")) (by decide)
  exact absurd hsame (by decide +kernel)

end BridgeWatch.Contract

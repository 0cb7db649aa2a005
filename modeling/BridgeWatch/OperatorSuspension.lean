/-
What suspends the operator of a bridge.

A challenge suspends, and so does a slash that leaves too little stake; nothing in the contract makes an operator active
again. So an operator is suspended where its stake is too low, or one of its commitments has ever been challenged, which
the status of the commitment still says after the challenge is resolved.
-/
import BridgeWatch.Fips
import BridgeWatch.ReserveVerifier

set_option autoImplicit false

namespace BridgeWatch.ReserveVerifier

open Transaction CheckedIntegers
open Contract (U32 U64 SString Address str)

/-- A commitment that has been challenged says so, resolved or not. -/
def CommitmentStatus.disputed : CommitmentStatus → Bool
  | .Challenged => true
  | .Slashed => true
  | .Resolved => true
  | _ => false

/-- Whether there is a commitment, and whether it has been challenged. -/
def dispute (s : VerifierStorage) (bridge_id : SString) (sequence : U64) : Option Bool :=
  (s (.ReserveCommitment bridge_id sequence)).map fun c => c.status.disputed

/-- The key is one of a commitment. -/
def DataKey.commits : DataKey → Bool
  | .ReserveCommitment _ _ => true
  | _ => false

/-- The number of the last commitment. -/
def latest (s : VerifierStorage) (bridge_id : SString) : U64 := (s (.CommitmentSeq bridge_id)).getD 0

section Calls

variable {env : Ledger} {s s' : VerifierStorage} {bridge_id : SString} {sequence : U64} {u : Unit} {config : Config}
  {commitment : ReserveCommitment} {sha256 : Sha256}

/-! ## What a call does -/

@[simp] theorem host_apply {α : Type} {m : Tx Contract.Env DataKey DataKey.Val α} : host m env s = m env.toEnv s := rfl

@[simp] theorem load_config_eq_ok :
    load_config env s = .ok (config, s') ↔ s .Config = some config ∧ s' = s := by
  simp only [load_config, bind_eq_ok, load_eq_ok, expect_eq_ok, and_assoc, exists_and_left, exists_eq_left]

@[simp] theorem window_over_eq_ok {ended : Bool} :
    window_over commitment config env s = .ok (ended, s') ↔
      commitment.committed_ledger.toNat + config.challenge_period_ledgers.toNat < 2 ^ 32 ∧
        ended = decide (env.sequence > commitment.committed_ledger + config.challenge_period_ledgers) ∧ s' = s := by
  simp only [window_over, add_u32, bind_eq_ok, host_apply, HostCalls.checked_add_u32_eq_ok, reads_eq_ok, pure_eq_ok,
    and_assoc, exists_and_left, exists_eq_left]

/-- The commitments keep whether they have been challenged, and nothing else is new. -/
structure Kept (s s' : VerifierStorage) : Prop where
  dispute : ∀ b q, dispute s' b q = dispute s b q
  rest : ∀ key, DataKey.commits key = false → s' key = s key

theorem Kept.refl : Kept s s := ⟨fun _ _ => rfl, fun _ _ => rfl⟩

theorem Kept.trans {s₁ : VerifierStorage} (h : Kept s s₁) (h' : Kept s₁ s') : Kept s s' :=
  ⟨fun b q => (h'.dispute b q).trans (h.dispute b q), fun key hkey => (h'.rest key hkey).trans (h.rest key hkey)⟩

/-- A commitment goes from one status to another of the same kind. -/
theorem Kept.of_update {c : ReserveCommitment} (hload : s (.ReserveCommitment bridge_id sequence) = some commitment)
    (hsame : c.status.disputed = commitment.status.disputed) :
    Kept s (Function.update s (.ReserveCommitment bridge_id sequence) (some c)) := by
  constructor
  · intro b q
    by_cases hkey : b = bridge_id ∧ q = sequence
    · obtain ⟨rfl, rfl⟩ := hkey
      simp [ReserveVerifier.dispute, hload, hsame]
    · rw [ReserveVerifier.dispute, Function.update_of_ne (by simpa using hkey), ReserveVerifier.dispute]
  · intro key hkey
    refine Function.update_of_ne ?_ ..
    rintro rfl
    cases hkey

/-- What a slash makes of an operator. -/
structure Slashed (config : Config) (op op' : BridgeOperator) : Prop where
  stake : op'.stake = if op.stake ≥ config.slash_amount then op.stake - config.slash_amount else 0
  active : op'.is_active = if op'.stake < config.min_stake then false else op.is_active

/-- What a call does. -/
inductive Outcome (s s' : VerifierStorage) : EntryPoint → Prop
  | kept {call : EntryPoint} (hkept : Kept s s') : Outcome s s' call
  | initialized {admin : Address} {period : U32} {slash_amount min_stake : ℤ} (hnew : s .Config = none)
      (hframe : ∀ key, key ≠ .Config → key ≠ .RegisteredBridges → s' key = s key) :
      Outcome s s' (.initialize_verifier admin period slash_amount min_stake)
  | configured {period : U32} {slash_amount min_stake : ℤ} (hframe : ∀ key, key ≠ .Config → s' key = s key) :
      Outcome s s' (.update_config period slash_amount min_stake)
  | registered {bridge_id : SString} {operator : Address} {stake : ℤ} {config : Config} {op : BridgeOperator}
      (hconfig : s .Config = some config) (hnew : s (.BridgeOperator bridge_id) = none)
      (hstake : config.min_stake ≤ op.stake) (hactive : op.is_active = true)
      (hop : s' (.BridgeOperator bridge_id) = some op)
      (hframe : ∀ key, key ≠ .BridgeOperator bridge_id → key ≠ .CommitmentSeq bridge_id → key ≠ .RegisteredBridges →
        s' key = s key) : Outcome s s' (.register_bridge bridge_id operator stake)
  | committed {bridge_id : SString} {root : BytesN 32} {total : ℤ} {op : BridgeOperator} {c : ReserveCommitment}
      {seq : U64} (hop : s (.BridgeOperator bridge_id) = some op)
      (hseq : seq.toNat = (latest s bridge_id).toNat + 1) (hlatest : s' (.CommitmentSeq bridge_id) = some seq)
      (hcommit : s' (.ReserveCommitment bridge_id seq) = some c) (hpending : c.status = .PendingVerification)
      (hframe : ∀ key, key ≠ .CommitmentSeq bridge_id → key ≠ .ReserveCommitment bridge_id seq → s' key = s key) :
      Outcome s s' (.commit_reserves bridge_id root total)
  | challenged {bridge_id : SString} {sequence : U64} {challenger : Address} {proof : MerkleProof}
      {c c' : ReserveCommitment} (hload : s (.ReserveCommitment bridge_id sequence) = some c)
      (hcommit : s' (.ReserveCommitment bridge_id sequence) = some c') (hchallenged : c'.status = .Challenged)
      (hop : s' (.BridgeOperator bridge_id) =
        (s (.BridgeOperator bridge_id)).map fun op => { op with is_active := false })
      (hframe : ∀ key, key ≠ .ReserveCommitment bridge_id sequence → key ≠ .BridgeOperator bridge_id →
        s' key = s key) : Outcome s s' (.challenge_commitment bridge_id sequence challenger proof)
  | slashed {call : EntryPoint} {bridge_id : SString} {config : Config} {op op' : BridgeOperator}
      (hconfig : s .Config = some config) (hload : s (.BridgeOperator bridge_id) = some op)
      (hop : s' (.BridgeOperator bridge_id) = some op') (hslashed : Slashed config op op')
      (hdispute : ∀ b q, dispute s' b q = dispute s b q)
      (hframe : ∀ key, key ≠ .BridgeOperator bridge_id → DataKey.commits key = false → s' key = s key) :
      Outcome s s' call

theorem slashed_of_ok (h : slash_operator_internal bridge_id config env s = .ok (u, s')) :
    ∃ op op', s (.BridgeOperator bridge_id) = some op ∧ Slashed config op op' ∧
      s' = Function.update s (.BridgeOperator bridge_id) (some op') := by
  simp only [slash_operator_internal, slashed_stake, sub_i128, bind_eq_ok, load_eq_ok, expect_eq_ok, host_apply,
    HostCalls.checked_add_u32_eq_ok, ite_eq_ok, pure_eq_ok, checked_sub_eq_some, save_eq_ok, and_assoc,
    exists_and_left, exists_eq_left] at h
  obtain ⟨op, hload, -, stake, s₁, hstake, rfl⟩ := h
  rcases hstake with ⟨hge, -, rfl, rfl⟩ | ⟨hlt, rfl, rfl⟩
  · exact ⟨op, _, hload, ⟨(if_pos hge).symm, rfl⟩, rfl⟩
  · exact ⟨op, _, hload, ⟨(if_neg hlt).symm, rfl⟩, rfl⟩

theorem kept_of_advance (hload : s (.ReserveCommitment bridge_id sequence) = some commitment)
    (hpending : commitment.status = .PendingVerification)
    (h : advance bridge_id sequence commitment env s = .ok (u, s')) : Kept s s' := by
  simp only [advance, bind_eq_ok, load_config_eq_ok, window_over_eq_ok, exec_if_eq_ok, save_eq_ok, and_assoc,
    exists_and_left, exists_eq_left] at h
  obtain ⟨_, -, -, ⟨-, rfl⟩ | ⟨-, rfl⟩⟩ := h
  · exact .of_update hload (by rw [hpending]; rfl)
  · exact .refl

theorem kept_of_sweep_round {max_count confirmed confirmed' : U32}
    (h : sweep_round config bridge_id max_count confirmed sequence env s = .ok (confirmed', s')) : Kept s s' := by
  simp only [sweep_round, sweep_pending, ite_eq_ok, pure_eq_ok, bind_eq_ok, load_eq_ok, elim_eq_ok, exec_if_eq_ok,
    window_over_eq_ok, save_eq_ok, host_apply, HostCalls.checked_add_u32_eq_ok, and_assoc, exists_and_left,
    exists_eq_left] at h
  rcases h with ⟨-, -, rfl⟩ | ⟨-, ⟨-, -, rfl⟩ | ⟨c, hload, ⟨hpending, -, _, s₁, hsave, hcount⟩ | ⟨-, -, rfl⟩⟩⟩
  · exact .refl
  · exact .refl
  · obtain rfl : s' = s₁ := by
      rcases hcount with ⟨-, -, -, rfl⟩ | ⟨-, -, rfl⟩ <;> rfl
    rcases hsave with ⟨-, rfl⟩ | ⟨-, rfl⟩
    · exact .of_update hload (by rw [hpending]; rfl)
    · exact .refl
  · exact .refl

theorem kept_of_sweep {max_count confirmed confirmed' : U32} {rounds : List U64}
    (h : rounds.foldlM (sweep_round config bridge_id max_count) confirmed env s = .ok (confirmed', s')) :
    Kept s s' := by
  induction rounds generalizing confirmed s with
  | nil =>
      rw [List.foldlM_nil, pure_eq_ok] at h
      rw [h.2]
      exact .refl
  | cons _ _ ih =>
      rw [List.foldlM_cons, bind_eq_ok] at h
      obtain ⟨count, s₁, hround, hrest⟩ := h
      exact (kept_of_sweep_round hround).trans (ih hrest)

theorem suspended_of_ok (h : suspend_operator_internal bridge_id env s = .ok (u, s')) :
    s' (.BridgeOperator bridge_id) = (s (.BridgeOperator bridge_id)).map (fun op => { op with is_active := false }) ∧
      ∀ key, key ≠ .BridgeOperator bridge_id → s' key = s key := by
  simp only [suspend_operator_internal, bind_eq_ok, load_eq_ok, elim_eq_ok, pure_eq_ok, save_eq_ok, and_assoc,
    exists_and_left, exists_eq_left] at h
  rcases h with ⟨hnone, -, rfl⟩ | ⟨op, hop, rfl⟩
  · exact ⟨by rw [hnone, Option.map_none], fun _ _ => rfl⟩
  · exact ⟨by rw [hop, Option.map_some, Function.update_self], fun key hkey => Function.update_of_ne hkey ..⟩

/-- What a slash does, beside what happens to a commitment. -/
theorem Outcome.of_slashed {call : EntryPoint} {op op' : BridgeOperator} (hconfig : s .Config = some config)
    (hload : s (.BridgeOperator bridge_id) = some op) (hslashed : Slashed config op op')
    (h : Kept (Function.update s (.BridgeOperator bridge_id) (some op')) s') : Outcome s s' call := by
  refine .slashed hconfig hload ?_ hslashed (fun b q => ?_) fun key hkey hcommits => ?_
  · rw [h.rest _ rfl, Function.update_self]
  · rw [h.dispute, dispute, Function.update_of_ne (by simp), dispute]
  · rw [h.rest key hcommits, Function.update_of_ne hkey]

theorem outcome_of_exec {call : EntryPoint} (h : exec sha256 call env s = .ok ((), s')) : Outcome s s' call := by
  cases call with
  | initialize_verifier =>
      simp only [exec, initialize_verifier, bind_eq_ok, load_eq_ok, panic_if_eq_ok, host_apply,
        HostCalls.require_auth_eq_ok, save_eq_ok, and_assoc, exists_and_left, exists_eq_left, exists_const] at h
      obtain ⟨hnew, -, rfl⟩ := h
      refine .initialized (by simpa using hnew) fun key hconfig hbridges => ?_
      rw [Function.update_of_ne hbridges, Function.update_of_ne hconfig]
  | update_config =>
      simp only [exec, update_config, bind_eq_ok, load_config_eq_ok, panic_if_eq_ok, host_apply,
        HostCalls.require_auth_eq_ok, save_eq_ok, and_assoc, exists_and_left, exists_eq_left, exists_const] at h
      obtain ⟨c, -, -, -, rfl⟩ := h
      exact .configured fun key hkey => Function.update_of_ne hkey ..
  | register_bridge bridge_id operator stake =>
      simp only [exec, register_bridge, bind_eq_ok, load_config_eq_ok, load_eq_ok, panic_if_eq_ok, host_apply,
        HostCalls.require_auth_eq_ok, HostCalls.push_back_eq_ok, reads_eq_ok, save_eq_ok, and_assoc, exists_and_left,
        exists_eq_left, exists_const] at h
      obtain ⟨config, hconfig, -, hnew, hstake, -, rfl⟩ := h
      let op : BridgeOperator := ⟨bridge_id, operator, stake, true, 0, env.timestamp⟩
      refine .registered hconfig (by simpa using hnew) (show config.min_stake ≤ op.stake from not_lt.mp hstake) rfl ?_
        fun key hop hseq hbridges => ?_
      · rw [Function.update_of_ne (by simp), Function.update_of_ne (by simp), Function.update_self]
      · rw [Function.update_of_ne hbridges, Function.update_of_ne hseq, Function.update_of_ne hop]
  | commit_reserves bridge_id =>
      simp only [exec, ignore, commit_reserves, bind_eq_ok, load_eq_ok, expect_eq_ok, panic_if_eq_ok, host_apply,
        HostCalls.require_auth_eq_ok, HostCalls.checked_add_u64_eq_ok, reads_eq_ok, save_eq_ok, pure_eq_ok, and_assoc,
        exists_and_left, exists_eq_left, exists_const] at h
      obtain ⟨seq, s₁, ⟨op, hop, -, -, -, hfits, hseq, hstore⟩, -, rfl⟩ := h
      have hnext : seq.toNat = (latest s bridge_id).toNat + 1 := by
        rw [hseq, UInt64.toNat_add, Nat.mod_eq_of_lt hfits]
        rfl
      rw [← hseq] at hstore
      subst hstore
      refine .committed hop hnext ?_ (Function.update_self ..) rfl fun key hlatest hcommit => ?_
      · rw [Function.update_of_ne (by simp), Function.update_self]
      · rw [Function.update_of_ne hcommit, Function.update_of_ne hlatest]
  | verify_proof =>
      simp only [exec, ignore, verify_proof, bind_eq_ok, load_eq_ok, expect_eq_ok, exec_if_eq_ok, pure_eq_ok, and_assoc,
        exists_and_left, exists_eq_left] at h
      obtain ⟨valid, s₁, ⟨c, hload, _, s₂, hadvance, -, rfl⟩, -, rfl⟩ := h
      rcases hadvance with ⟨-, hpending, hadvance⟩ | ⟨-, rfl⟩
      · exact .kept (kept_of_advance hload hpending hadvance)
      · exact .kept .refl
  | confirm_commitment =>
      simp only [exec, confirm_commitment, bind_eq_ok, load_eq_ok, load_config_eq_ok, window_over_eq_ok, expect_eq_ok,
        panic_if_eq_ok, save_eq_ok, not_not, and_assoc, exists_and_left, exists_eq_left, exists_const] at h
      obtain ⟨c, hload, hpending, _, -, -, -, rfl⟩ := h
      exact .kept (.of_update hload (by rw [hpending]; rfl))
  | sweep_expired_commitments =>
      simp only [exec, ignore, sweep_expired_commitments, bind_eq_ok, load_config_eq_ok, load_eq_ok, pure_eq_ok,
        and_assoc, exists_and_left, exists_eq_left] at h
      obtain ⟨confirmed, s₁, ⟨config, -, hsweep⟩, -, rfl⟩ := h
      exact .kept (kept_of_sweep hsweep)
  | challenge_commitment =>
      simp only [exec, challenge_commitment, bind_eq_ok, load_eq_ok, load_config_eq_ok,
        window_over_eq_ok, expect_eq_ok, panic_if_eq_ok, host_apply, HostCalls.require_auth_eq_ok, exec_if_eq_ok,
        save_eq_ok, not_not, and_assoc, exists_and_left, exists_eq_left, exists_const] at h
      obtain ⟨-, c, hload, hpending, _, -, -, -, hchallenge⟩ := h
      rcases hchallenge with ⟨-, hsuspend⟩ | ⟨-, rfl⟩
      · obtain ⟨hop, hframe⟩ := suspended_of_ok hsuspend
        refine .challenged hload ((hframe _ (by simp)).trans (Function.update_self ..)) rfl ?_
          fun key hcommit hkey => ?_
        · rw [hop, Function.update_of_ne (by simp)]
        · rw [hframe key hkey, Function.update_of_ne hcommit]
      · exact .kept .refl
  | resolve_challenge =>
      simp only [exec, resolve_challenge, bind_eq_ok, load_eq_ok, load_config_eq_ok, expect_eq_ok, panic_if_eq_ok,
        host_apply, HostCalls.require_auth_eq_ok, exec_if_eq_ok, save_eq_ok, not_not, and_assoc, exists_and_left,
        exists_eq_left, exists_const] at h
      obtain ⟨config, hconfig, -, c, hload, hchallenged, _, s₁, hslash, rfl⟩ := h
      rcases hslash with ⟨hvalid, hslash⟩ | ⟨hvalid, rfl⟩
      · obtain ⟨op, op', hop, hslashed, rfl⟩ := slashed_of_ok hslash
        refine .of_slashed hconfig hop hslashed (.of_update ((Function.update_of_ne (by simp) ..).trans hload) ?_)
        rw [hchallenged, hvalid]
        rfl
      · refine .kept (.of_update hload ?_)
        rw [Bool.not_eq_false] at hvalid
        rw [hchallenged, hvalid]
        rfl
  | slash_operator =>
      simp only [exec, slash_operator, bind_eq_ok, load_config_eq_ok, host_apply, HostCalls.require_auth_eq_ok,
        and_assoc, exists_and_left, exists_eq_left, exists_const] at h
      obtain ⟨config, hconfig, -, hslash⟩ := h
      obtain ⟨op, op', hop, hslashed, rfl⟩ := slashed_of_ok hslash
      exact .of_slashed hconfig hop hslashed .refl

/-! ## What holds in every run -/

/-- The configuration stays as it is once a bridge is registered. -/
def KeepsConfig (s : VerifierStorage) (t : Ledger × EntryPoint) : Prop :=
  (∃ b, (s (.BridgeOperator b)).isSome = true) → ∀ period slash_amount min_stake,
    t.2 ≠ .update_config period slash_amount min_stake

/-- What is said of the operators, the commitments and the configuration agrees. -/
structure Settled (s : VerifierStorage) : Prop where
  unclaimed : s .Config = none → ∀ b, s (.BridgeOperator b) = none
  numbered : ∀ b q d, dispute s b q = some d →
    0 < q.toNat ∧ q.toNat ≤ (latest s b).toNat ∧ (s (.BridgeOperator b)).isSome = true
  lowered : ∀ b op cfg, s (.BridgeOperator b) = some op → s .Config = some cfg → op.stake < cfg.min_stake →
    0 ≤ op.stake ∧ 0 ≤ cfg.slash_amount
  suspended : ∀ b op cfg, s (.BridgeOperator b) = some op → s .Config = some cfg →
    (op.is_active = false ↔ op.stake < cfg.min_stake ∨ ∃ q, dispute s b q = some true)

/-- A slash takes no stake back over the least one. -/
theorem Slashed.lowered {op op' : BridgeOperator} (h : Slashed config op op')
    (hlow : op.stake < config.min_stake → 0 ≤ op.stake ∧ 0 ≤ config.slash_amount) :
    (op.stake < config.min_stake → op'.stake < config.min_stake) ∧
      (op'.stake < config.min_stake → 0 ≤ op'.stake ∧ 0 ≤ config.slash_amount) := by
  have hstake := h.stake
  constructor
  · intro hless
    have := hlow hless
    split_ifs at hstake <;> omega
  · intro hless
    by_cases hless' : op.stake < config.min_stake
    · have := hlow hless'
      split_ifs at hstake <;> omega
    · split_ifs at hstake <;> omega

theorem settled_empty : Settled empty_storage where
  unclaimed _ _ := rfl
  numbered b q d h := by cases h
  lowered b op cfg h := by cases h
  suspended b op cfg h := by cases h

/-- What is said of one bridge. -/
structure SettledAt (s : VerifierStorage) (b : SString) : Prop where
  unclaimed : s .Config = none → s (.BridgeOperator b) = none
  numbered : ∀ q d, dispute s b q = some d →
    0 < q.toNat ∧ q.toNat ≤ (latest s b).toNat ∧ (s (.BridgeOperator b)).isSome = true
  lowered : ∀ op cfg, s (.BridgeOperator b) = some op → s .Config = some cfg → op.stake < cfg.min_stake →
    0 ≤ op.stake ∧ 0 ≤ cfg.slash_amount
  suspended : ∀ op cfg, s (.BridgeOperator b) = some op → s .Config = some cfg →
    (op.is_active = false ↔ op.stake < cfg.min_stake ∨ ∃ q, dispute s b q = some true)

theorem settled_iff : Settled s ↔ ∀ b, SettledAt s b :=
  ⟨fun h b => ⟨fun hnone => h.unclaimed hnone b, h.numbered b, h.lowered b, h.suspended b⟩,
    fun h => ⟨fun hnone b => (h b).unclaimed hnone, fun b => (h b).numbered, fun b => (h b).lowered,
      fun b => (h b).suspended⟩⟩

theorem SettledAt.congr {b : SString} (hs : SettledAt s b) (hcfg : s' .Config = s .Config)
    (hop : s' (.BridgeOperator b) = s (.BridgeOperator b)) (hlatest : latest s' b = latest s b)
    (hdispute : ∀ q, dispute s' b q = dispute s b q) : SettledAt s' b := by
  constructor <;> simp only [hcfg, hop, hlatest, hdispute]
  · exact hs.unclaimed
  · exact hs.numbered
  · exact hs.lowered
  · exact hs.suspended

/-- Without an operator there is no commitment, and nothing to say. -/
theorem SettledAt.of_none {b : SString} (hnone : s (.BridgeOperator b) = none) (hdispute : ∀ q, dispute s b q = none) :
    SettledAt s b := by
  constructor <;> simp [hnone, hdispute]

theorem Settled.dispute_none (hs : Settled s) {b : SString} (hnone : s (.BridgeOperator b) = none) (q : U64) :
    dispute s b q = none := by
  cases hd : dispute s b q with
  | none => rfl
  | some d =>
      have howned := (hs.numbered b q d hd).2.2
      rw [hnone] at howned
      cases howned

theorem settled_step {call : EntryPoint} (hs : Settled s) (hkeeps : KeepsConfig s (env, call))
    (h : Outcome s s' call) : Settled s' := by
  have hat := settled_iff.mp hs
  rw [settled_iff]
  intro b'
  cases h with
  | kept hkept =>
      exact (hat b').congr (hkept.rest _ rfl) (hkept.rest _ rfl) (by rw [latest, hkept.rest _ rfl, latest])
        (hkept.dispute b')
  | initialized hnew hframe =>
      have hnone := hs.unclaimed hnew b'
      refine .of_none (by rw [hframe _ (by simp) (by simp), hnone]) fun q => ?_
      rw [dispute, hframe _ (by simp) (by simp)]
      exact hs.dispute_none hnone q
  | configured hframe =>
      have hnone : s (.BridgeOperator b') = none := by
        by_contra hsome
        exact hkeeps ⟨b', Option.isSome_iff_ne_none.mpr hsome⟩ _ _ _ rfl
      refine .of_none (by rw [hframe _ (by simp), hnone]) fun q => ?_
      rw [dispute, hframe _ (by simp)]
      exact hs.dispute_none hnone q
  | @registered b _ _ cfg op hconfig hnew hstake hactive hop hframe =>
      have hcfg : s' .Config = s .Config := hframe _ (by simp) (by simp) (by simp)
      have hdispute : ∀ q, dispute s' b' q = dispute s b' q := fun q => by
        rw [dispute, hframe _ (by simp) (by simp) (by simp), dispute]
      by_cases hb : b' = b
      · subst hb
        have hnone : ∀ q, dispute s' b' q = none := fun q => (hdispute q).trans (hs.dispute_none hnew q)
        constructor
        · intro hnone
          rw [hcfg, hconfig] at hnone
          cases hnone
        · intro q d hd
          rw [hnone] at hd
          cases hd
        · intro op' cfg' hop' hcfg' hless
          obtain rfl : cfg = cfg' := Option.some.inj (hconfig.symm.trans (hcfg.symm.trans hcfg'))
          obtain rfl : op = op' := Option.some.inj (hop.symm.trans hop')
          omega
        · intro op' cfg' hop' hcfg'
          obtain rfl : cfg = cfg' := Option.some.inj (hconfig.symm.trans (hcfg.symm.trans hcfg'))
          obtain rfl : op = op' := Option.some.inj (hop.symm.trans hop')
          simp [hactive, hnone, hstake]
      · exact (hat b').congr hcfg (hframe _ (by simpa using hb) (by simp) (by simp))
          (by rw [latest, hframe _ (by simp) (by simpa using hb) (by simp), latest]) hdispute
  | @committed b _ _ _ _ seq hop _ hlatest hcommit hpending hframe =>
      have hcfg : s' .Config = s .Config := hframe _ (by simp) (by simp)
      have hop' : s' (.BridgeOperator b') = s (.BridgeOperator b') := hframe _ (by simp) (by simp)
      by_cases hb : b' = b
      · subst hb
        have hnew : dispute s' b' seq = some false := by rw [dispute, hcommit, Option.map_some, hpending]; rfl
        have hother : ∀ q, q ≠ seq → dispute s' b' q = dispute s b' q := fun q hq => by
          rw [dispute, hframe _ (by simp) (by simpa using hq), dispute]
        constructor
        · rw [hcfg, hop']
          exact (hat b').unclaimed
        · intro q d hd
          rw [hop', hop, latest, hlatest, Option.getD_some]
          by_cases hq : q = seq
          · subst hq
            exact ⟨by omega, Nat.le_refl _, rfl⟩
          · rw [hother q hq] at hd
            obtain ⟨hpos, hle, -⟩ := (hat b').numbered q d hd
            exact ⟨hpos, by omega, rfl⟩
        · rw [hop', hcfg]
          exact (hat b').lowered
        · -- The new commitment has a number that none had.
          have hfresh : dispute s b' seq ≠ some true := by
            intro hd
            have := ((hat b').numbered seq true hd).2.1
            omega
          have hiff : (∃ q, dispute s' b' q = some true) ↔ ∃ q, dispute s b' q = some true := by
            refine exists_congr fun q => ?_
            by_cases hq : q = seq
            · rw [hq, hnew]
              exact iff_of_false (by simp) hfresh
            · rw [hother q hq]
          rw [hop', hcfg, hiff]
          exact (hat b').suspended
      · exact (hat b').congr hcfg hop' (by rw [latest, hframe _ (by simpa using hb) (by simp), latest])
          fun q => by rw [dispute, hframe _ (by simp) (by simp [hb]), dispute]
  | @challenged b seq _ _ c _ hload hcommit hchallenged hop hframe =>
      have hcfg : s' .Config = s .Config := hframe _ (by simp) (by simp)
      have hlatest : latest s' b' = latest s b' := by rw [latest, hframe _ (by simp) (by simp), latest]
      by_cases hb : b' = b
      · subst hb
        have hnew : dispute s' b' seq = some true := by rw [dispute, hcommit, Option.map_some, hchallenged]; rfl
        constructor
        · intro hnone
          rw [hop, (hat b').unclaimed (hcfg ▸ hnone)]
          rfl
        · intro q d hd
          rw [hlatest, hop, Option.isSome_map]
          by_cases hq : q = seq
          · subst hq
            exact (hat b').numbered q c.status.disputed (by rw [dispute, hload, Option.map_some])
          · rw [dispute, hframe _ (by simpa using hq) (by simp)] at hd
            exact (hat b').numbered q d hd
        · intro op' cfg hload' hcfg'
          rw [hop, Option.map_eq_some_iff] at hload'
          obtain ⟨op, hop₁, rfl⟩ := hload'
          exact (hat b').lowered op cfg hop₁ (hcfg ▸ hcfg')
        · intro op' cfg hload' _
          rw [hop, Option.map_eq_some_iff] at hload'
          obtain ⟨op, -, rfl⟩ := hload'
          exact iff_of_true rfl (Or.inr ⟨seq, hnew⟩)
      · exact (hat b').congr hcfg (hframe _ (by simp) (by simpa using hb)) hlatest
          fun q => by rw [dispute, hframe _ (by simp [hb]) (by simp), dispute]
  | @slashed _ b cfg op op' hconfig hload hop hslashed hdispute hframe =>
      have hcfg : s' .Config = s .Config := hframe _ (by simp) rfl
      have hlatest : latest s' b' = latest s b' := by rw [latest, hframe _ (by simp) rfl, latest]
      by_cases hb : b' = b
      · subst hb
        obtain ⟨hstays, hlow⟩ := hslashed.lowered ((hat b').lowered op cfg hload hconfig)
        constructor
        · intro hnone
          rw [hcfg, hconfig] at hnone
          cases hnone
        · intro q d hd
          rw [hdispute] at hd
          rw [hlatest, hop]
          obtain ⟨hpos, hle, -⟩ := (hat b').numbered q d hd
          exact ⟨hpos, hle, rfl⟩
        · intro op₁ cfg' hop₁ hcfg'
          obtain rfl : cfg = cfg' := Option.some.inj (hconfig.symm.trans (hcfg.symm.trans hcfg'))
          obtain rfl : op' = op₁ := Option.some.inj (hop.symm.trans hop₁)
          exact hlow
        · intro op₁ cfg' hop₁ hcfg'
          obtain rfl : cfg = cfg' := Option.some.inj (hconfig.symm.trans (hcfg.symm.trans hcfg'))
          obtain rfl : op' = op₁ := Option.some.inj (hop.symm.trans hop₁)
          simp only [hdispute]
          have hold := (hat b').suspended op cfg hload hconfig
          rw [hslashed.active]
          split_ifs with hless
          · exact iff_of_true rfl (Or.inl hless)
          · rw [hold]
            exact or_congr_left (iff_of_false (fun h => hless (hstays h)) hless)
      · exact (hat b').congr hcfg (hframe _ (by simpa using hb) rfl) hlatest (hdispute b')

theorem run_settled {calls : List (Ledger × EntryPoint)} (h : Along (exec sha256) KeepsConfig empty_storage calls) :
    Settled (run sha256 empty_storage calls) := by
  have hstep : ∀ {s t s'}, Settled s → KeepsConfig s t → exec sha256 t.2 t.1 s = .ok ((), s') → Settled s' :=
    fun hs hkeeps hok => settled_step hs hkeeps (outcome_of_exec hok)
  exact run_invariant hstep settled_empty h

/-- Nothing makes an operator active again. -/
theorem inactive_of_outcome {call : EntryPoint} {op : BridgeOperator} (h : Outcome s s' call)
    (hload : s (.BridgeOperator bridge_id) = some op) (hinactive : op.is_active = false) :
    ∃ op', s' (.BridgeOperator bridge_id) = some op' ∧ op'.is_active = false := by
  cases h with
  | kept hkept => exact ⟨op, by rw [hkept.rest _ rfl, hload], hinactive⟩
  | initialized _ hframe => exact ⟨op, by rw [hframe _ (by simp) (by simp), hload], hinactive⟩
  | configured hframe => exact ⟨op, by rw [hframe _ (by simp), hload], hinactive⟩
  | @registered b _ _ _ _ _ hnew _ _ _ hframe =>
      have hne : bridge_id ≠ b := by
        rintro rfl
        rw [hnew] at hload
        cases hload
      exact ⟨op, by rw [hframe _ (by simpa using hne) (by simp) (by simp), hload], hinactive⟩
  | committed _ _ _ _ _ hframe =>
      exact ⟨op, by rw [hframe _ (by simp) (by simp), hload], hinactive⟩
  | @challenged b _ _ _ _ _ _ _ _ hop hframe =>
      by_cases hb : bridge_id = b
      · subst hb
        exact ⟨_, by rw [hop, hload, Option.map_some], rfl⟩
      · exact ⟨op, by rw [hframe _ (by simp) (by simpa using hb), hload], hinactive⟩
  | @slashed _ b _ op₁ op₂ _ hop₁ hop₂ hslashed _ hframe =>
      by_cases hb : bridge_id = b
      · subst hb
        obtain rfl : op₁ = op := Option.some.inj (hop₁.symm.trans hload)
        refine ⟨op₂, hop₂, ?_⟩
        rw [hslashed.active, hinactive, ite_self]
      · exact ⟨op, by rw [hframe _ (by simpa using hb) rfl, hload], hinactive⟩

theorem commit_reserves_inactive {op : BridgeOperator} (hload : s (.BridgeOperator bridge_id) = some op)
    (hinactive : op.is_active = false) (root : BytesN 32) (total : ℤ) :
    commit_reserves bridge_id root total env s = .error Error.OperatorInactive.text := by
  refine bind_eq_error.mpr (Or.inr ⟨some op, s, by rw [← hload]; rfl, bind_eq_error.mpr (Or.inr ⟨op, s, rfl, ?_⟩)⟩)
  exact bind_eq_error.mpr (Or.inl (by rw [hinactive]; rfl))

/-- **An operator is suspended where its stake is too low, or once one of its commitments has been challenged**, and
stays so. -/
theorem suspended_iff {calls : List (Ledger × EntryPoint)}
    (h : Along (exec sha256) KeepsConfig empty_storage calls) :
    (∀ b op cfg, run sha256 empty_storage calls (.BridgeOperator b) = some op →
      run sha256 empty_storage calls .Config = some cfg →
      (op.is_active = false ↔ op.stake < cfg.min_stake ∨ ∃ q c,
        run sha256 empty_storage calls (.ReserveCommitment b q) = some c ∧
          (c.status = .Challenged ∨ c.status = .Slashed ∨ c.status = .Resolved))) ∧
    ∀ b op, run sha256 empty_storage calls (.BridgeOperator b) = some op → op.is_active = false →
      (∀ t, ∃ op', step (exec sha256) t (run sha256 empty_storage calls) (.BridgeOperator b) = some op' ∧
        op'.is_active = false) ∧
      ∀ env root total, commit_reserves b root total env (run sha256 empty_storage calls) =
        .error Error.OperatorInactive.text := by
  have hs := run_settled h
  refine ⟨fun b op cfg hop hcfg => ?_, fun b op hop hinactive => ⟨fun t => ?_, fun env root total => ?_⟩⟩
  · rw [hs.suspended b op cfg hop hcfg]
    have hdisputed : ∀ status : CommitmentStatus,
        status.disputed = true ↔ status = .Challenged ∨ status = .Slashed ∨ status = .Resolved := by
      intro status
      cases status <;> simp [CommitmentStatus.disputed]
    simp only [dispute, Option.map_eq_some_iff, hdisputed]
  · rcases step_cases (exec sha256) (run sha256 empty_storage calls) t with hok | ⟨-, heq⟩
    · exact inactive_of_outcome (outcome_of_exec hok) hop hinactive
    · exact ⟨op, by rw [heq, hop], hinactive⟩
  · exact commit_reserves_inactive hop hinactive root total

/-- A commitment is challenged, and the admin resolves the challenge in favour of it. -/
def exonerated_run : List (Ledger × EntryPoint) :=
  [(ledger_at 1, .initialize_verifier (party 1) 100 500 1000),
    (ledger_at 2, .register_bridge (str "eth") (party 2) 5000),
    (ledger_at 3, .commit_reserves (str "eth") zero32 10),
    (ledger_at 4, .challenge_commitment (str "eth") 1 (party 3) ⟨Vector.replicate 32 1, [], 99⟩),
    (ledger_at 5, .resolve_challenge (str "eth") 1 true)]

theorem exonerated_run_keeps_config : Along (exec Fips.sha256) KeepsConfig empty_storage exonerated_run := by
  refine Along.of_forall fun s t ht _ period slash_amount min_stake => ?_
  simp only [exonerated_run, List.mem_cons, List.not_mem_nil, or_false] at ht
  rcases ht with rfl | rfl | rfl | rfl | rfl <;> simp

/-- The exonerated operator is suspended, with all of its stake. -/
theorem exonerated_suspended : ∃ op cfg,
    run Fips.sha256 empty_storage exonerated_run (.BridgeOperator (str "eth")) = some op ∧
    run Fips.sha256 empty_storage exonerated_run .Config = some cfg ∧
    (op.is_active = false ↔ op.stake < cfg.min_stake ∨ ∃ q c,
      run Fips.sha256 empty_storage exonerated_run (.ReserveCommitment (str "eth") q) = some c ∧
        (c.status = .Challenged ∨ c.status = .Slashed ∨ c.status = .Resolved)) := by
  obtain ⟨op, hop⟩ := Option.isSome_iff_exists.mp
    (by decide +kernel : (run Fips.sha256 empty_storage exonerated_run (.BridgeOperator (str "eth"))).isSome = true)
  obtain ⟨cfg, hcfg⟩ := Option.isSome_iff_exists.mp
    (by decide +kernel : (run Fips.sha256 empty_storage exonerated_run .Config).isSome = true)
  exact ⟨op, cfg, hop, hcfg, (suspended_iff exonerated_run_keeps_config).1 _ op cfg hop hcfg⟩

/-- The last open challenge is closed in favour of an operator who was never slashed, and it cannot commit. -/
theorem exonerated_cannot_commit : ∃ op cfg,
    run Fips.sha256 empty_storage exonerated_run (.BridgeOperator (str "eth")) = some op ∧
    run Fips.sha256 empty_storage exonerated_run .Config = some cfg ∧
    cfg.min_stake ≤ op.stake ∧ op.slash_count = 0 ∧ op.is_active = false ∧
    (∀ q c, run Fips.sha256 empty_storage exonerated_run (.ReserveCommitment (str "eth") q) = some c →
      c.status ≠ .Challenged) ∧
    commit_reserves (str "eth") zero32 10 (ledger_at 6) (run Fips.sha256 empty_storage exonerated_run) =
      .error Error.OperatorInactive.text := by
  have hop : run Fips.sha256 empty_storage exonerated_run (.BridgeOperator (str "eth")) =
      some ⟨str "eth", party 2, 5000, false, 0, 2⟩ := by decide +kernel
  have hcfg : run Fips.sha256 empty_storage exonerated_run .Config = some ⟨party 1, 100, 500, 1000⟩ := by
    decide +kernel
  refine ⟨_, _, hop, hcfg, by decide, rfl, rfl, fun q c hc => ?_, commit_reserves_inactive hop rfl _ _⟩
  -- There is one commitment, and it is resolved.
  have hs := run_settled exonerated_run_keeps_config
  obtain ⟨hpos, hle, -⟩ := hs.numbered (str "eth") q c.status.disputed (by rw [dispute, hc, Option.map_some])
  have hlatest : latest (run Fips.sha256 empty_storage exonerated_run) (str "eth") = 1 := by decide +kernel
  have hq : q = 1 := by
    rw [hlatest] at hle
    exact UInt64.toNat_inj.mp (Nat.le_antisymm hle hpos)
  have hresolved : (run Fips.sha256 empty_storage exonerated_run (.ReserveCommitment (str "eth") 1)).map
      ReserveCommitment.status = some .Resolved := by decide +kernel
  rw [← hq, hc, Option.map_some, Option.some.injEq] at hresolved
  rw [hresolved]
  decide

end Calls

end BridgeWatch.ReserveVerifier

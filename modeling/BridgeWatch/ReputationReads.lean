/-
No call but a grant of a reward takes anything else for a reputation.

What stands under the key of a reputation is one as long as only these calls are made. A call may fail then, for a
reason of its own, and never for the type of what it has read.
-/
import BridgeWatch.ReputationCalls

set_option autoImplicit false

namespace BridgeWatch.ReputationSystem

open Transaction CheckedIntegers
open Contract (U32 U64 SString Address str)

variable {env : Ledger} {s s' : ReputationStorage} {a : Address} {data : ReputationData}

/-- A failure for another reason than the type of a value. -/
def Plain (msg : String) : Prop := msg ≠ conversion_error

instance : DecidablePred Plain := fun _ => inferInstanceAs (Decidable (_ ≠ _))

/-- The call does not take anything else for a reputation. -/
abbrev Typed {α : Type} (m : System α) (env : Ledger) (s : ReputationStorage) : Prop := FailsOnly Plain m env s

/-- What stands under the key of a reputation is one. -/
def Readable (s : ReputationStorage) (entity_address : Address) : Prop :=
  ∀ stored, s (.Reputation entity_address) = some stored → ∃ data, stored = .data data

theorem readable_of_data (h : s (.Reputation a) = some (.data data)) : Readable s a :=
  fun _ hstored => ⟨data, Option.some.inj (hstored.symm.trans h)⟩

theorem readable_update (s : ReputationStorage) (a : Address) (data : ReputationData) :
    Readable (Function.update s (.Reputation a) (some (.data data))) a :=
  readable_of_data (Function.update_self ..)

/-- A write under another key. -/
theorem readable_update_of_ne {k : DataKey} {v : Option k.Val} (hk : DataKey.scores k = false) :
    Readable (Function.update s k v) a ↔ Readable s a := by
  rw [Readable, scores_frame rfl hk, Readable]

theorem Written.readable (h : Written a data s s') (hs : ∀ b, Readable s b) (b : Address) : Readable s' b := by
  by_cases hb : b = a
  · rw [hb]
    exact readable_of_data h.reputation
  · rw [Readable, h.others b hb]
    exact hs b

theorem Round.readable (h : Round s s') (hs : ∀ b, Readable s b) (b : Address) : Readable s' b := by
  cases h with
  | stamped hkept =>
      rw [Readable, hkept _ rfl]
      exact hs b
  | rescored _ _ hsaved => exact hsaved.toWritten.readable hs b

/-! ## The host -/

section Host

variable {α : Type}

@[simp] theorem typed_map {β : Type} {m : System α} {f : α → β} : Typed (f <$> m) env s ↔ Typed m env s := by
  rw [map_eq_pure_bind]
  exact fails_only_bind.trans (and_iff_left fun _ _ _ => fails_only_pure)

@[simp] theorem typed_host {m : Tx Contract.Env DataKey DataKey.Val α} :
    Typed (host m) env s ↔ FailsOnly Plain m env.toEnv s := Iff.rfl

@[simp] theorem typed_require_auth : FailsOnly Plain (HostCalls.require_auth a) env.toEnv s := by
  simp +decide [HostCalls.require_auth]

@[simp] theorem typed_push_back {values : List α} {value : α} :
    FailsOnly Plain (HostCalls.push_back values value) env.toEnv s := by
  simp +decide only [HostCalls.push_back, fails_only_bind, fails_only_panic_if, fails_only_pure, implies_true, and_self]

@[simp] theorem typed_add_u32 {x y : U32} :
    FailsOnly Plain (HostCalls.checked_add_u32 x y "attempt to add with overflow") env.toEnv s := by
  simp +decide only [HostCalls.checked_add_u32, fails_only_bind, fails_only_panic_if, fails_only_pure, implies_true,
    and_self]

@[simp] theorem typed_add_u64 {x y : U64} :
    FailsOnly Plain (HostCalls.checked_add_u64 x y "attempt to add with overflow") env.toEnv s := by
  simp +decide only [HostCalls.checked_add_u64, fails_only_bind, fails_only_panic_if, fails_only_pure, implies_true,
    and_self]

@[simp] theorem typed_mul_u32 {x y : U32} : Typed (mul_u32 x y) env s := by simp +decide [mul_u32]

@[simp] theorem typed_sub_u64 {x y : U64} : Typed (sub_u64 x y) env s := by simp +decide [sub_u64]

end Host

/-! ## What the calls are made of -/

@[simp] theorem typed_get_data : Typed (get_data a) env s ↔ Readable s a := by
  simp only [get_data, fails_only_bind, fails_only_load, fails_only_elim, fails_only_expect, fails_only_pure,
    load_eq_ok]
  constructor
  · rintro ⟨-, h⟩ stored hstored
    have hexpect := ((h (some stored) s ⟨hstored.symm, rfl⟩).2 stored rfl).1
    cases stored with
    | data reputation => exact ⟨reputation, rfl⟩
    | history => exact absurd rfl (hexpect rfl)
  · intro h
    refine ⟨trivial, ?_⟩
    rintro o s₁ ⟨rfl, rfl⟩
    refine ⟨fun _ => trivial, fun stored hstored => ⟨?_, fun _ _ _ => trivial⟩⟩
    obtain ⟨data, rfl⟩ := h stored hstored
    intro heq
    cases heq

@[simp] theorem typed_registered_data : Typed (registered_data a) env s ↔ Readable s a := by
  simp +decide [registered_data]

@[simp] theorem typed_unwrapped_data : Typed (unwrapped_data a) env s ↔ Readable s a := by
  simp +decide [unwrapped_data]

@[simp] theorem typed_require_admin : Typed require_admin env s := by simp +decide [require_admin]

@[simp] theorem typed_stamp_activity : Typed (stamp_activity a) env s := by simp [stamp_activity]

@[simp] theorem typed_inactivity_policy : Typed inactivity_policy env s := by simp [inactivity_policy]

@[simp] theorem typed_appeal_policy : Typed appeal_policy env s := by simp [appeal_policy]

@[simp] theorem typed_dispute_score {x y : U32} : Typed (dispute_score x y) env s := by simp [dispute_score]

@[simp] theorem typed_put_entry {entries : List LeaderboardEntry} {entry : LeaderboardEntry} :
    Typed (put_entry entries entry) env s := by
  unfold put_entry
  exact fails_only_ite.mpr ⟨fun _ => fails_only_pure, fun _ => typed_push_back⟩

theorem typed_update_leaderboard_internal {score : U32} {badge_level : BadgeLevel} (h : Readable s a) :
    Typed (update_leaderboard_internal a score badge_level) env s := by
  simp [update_leaderboard_internal, h]

theorem typed_update_reputation_internal {report : Report} (h : Readable s a) :
    Typed (update_reputation_internal a report) env s := by
  simp +decide [update_reputation_internal, h]

theorem typed_resolution {appeal : Appeal} {approved : Bool} : Typed (resolution data appeal approved) env s := by
  simp +decide [resolution, restored]

/-! ## The calls -/

/-- The reputation is written, then something else, and then the entry. -/
theorem readable_update_update {k : DataKey} {v : Option k.Val} (hk : DataKey.scores k = false) :
    Readable (Function.update (Function.update s (.Reputation a) (some (.data data))) k v) a :=
  (readable_update_of_ne hk).mpr (readable_update _ _ _)

theorem typed_register_entity {entity_type : EntityType} {stake_amount : ℤ} :
    Typed (register_entity a entity_type stake_amount) env s := by
  simp +decide only [register_entity, fails_only_bind, fails_only_load, load_eq_ok, fails_only_panic_if, implies_true,
    panic_if_eq_ok, Bool.not_eq_true, Option.isSome_eq_false_iff, Option.isNone_iff_eq_none, typed_host,
    fails_only_expect, host_apply, expect_eq_ok, not_lt, fails_only_reads, reads_eq_ok, fails_only_save, save_eq_ok,
    typed_stamp_activity, stamp_activity_eq_ok, typed_add_u64, HostCalls.checked_add_u64_eq_ok, forall_eq, forall_const,
    true_and, and_imp, forall_eq_apply_imp_iff, ne_eq, reduceCtorEq, not_false_eq_true, Function.update_of_ne]
  rintro - config - - total - _ _ - - rfl
  apply typed_update_leaderboard_internal
  rw [readable_update_of_ne rfl, readable_update_of_ne rfl]
  exact readable_update_update rfl

theorem typed_record_performance {report : Report} (h : Readable s a) :
    Typed (record_performance a report) env s := by
  simp +decide only [record_performance, fails_only_bind, typed_host, typed_require_auth, host_apply,
    HostCalls.require_auth_eq_ok, typed_registered_data, registered_data_eq_ok, typed_stamp_activity,
    stamp_activity_eq_ok, fails_only_reads, reads_eq_ok, fails_only_load, load_eq_ok, typed_push_back,
    HostCalls.push_back_eq_ok, fails_only_save, save_eq_ok, typed_unwrapped_data, unwrapped_data_eq_ok, typed_add_u64,
    HostCalls.checked_add_u64_eq_ok, implies_true, and_self, and_true, forall_eq, forall_const, true_and, and_imp,
    forall_eq_apply_imp_iff, ne_eq, reduceCtorEq, not_false_eq_true, Function.update_of_ne, h]
  rintro - before - history _ - - rfl
  constructor
  · apply typed_update_reputation_internal
    rwa [readable_update_of_ne rfl, readable_update_of_ne rfl]
  · intro _ s₁ hupdate
    obtain ⟨data, config, -, -, -, rfl⟩ := update_reputation_internal_of_ok hupdate
    exact readable_update _ _ _

theorem typed_apply_penalty (penalty_amount : ℤ) (reason : SString) (h : Readable s a) :
    Typed (apply_penalty a penalty_amount reason) env s := by
  simp +decide only [apply_penalty, fails_only_bind, typed_require_admin, require_admin_eq_ok, typed_registered_data,
    registered_data_eq_ok, fails_only_load, load_eq_ok, typed_host, fails_only_expect, implies_true, host_apply,
    expect_eq_ok, typed_mul_u32, mul_u32_eq_ok, fails_only_reads, reads_eq_ok, fails_only_save, save_eq_ok,
    checked_add_eq_some, typed_push_back, HostCalls.push_back_eq_ok, forall_eq, forall_const, true_and, and_imp,
    forall_eq_apply_imp_iff, ne_eq, reduceCtorEq, not_false_eq_true, Function.update_of_ne, forall_exists_index]
  rintro _ admin - - rfl
  refine ⟨h, ?_⟩
  rintro data - config - product _ - - rfl total _ - - rfl history _ - - rfl
  exact typed_update_leaderboard_internal (readable_update_update rfl)

theorem typed_submit_appeal (collateral : ℤ) (reason : SString) (h : Readable s a) :
    Typed (submit_appeal a collateral reason) env s := by
  simp +decide [submit_appeal, h]

theorem typed_resolve_appeal {approved : Bool} (h : Readable s a) : Typed (resolve_appeal a approved) env s := by
  simp +decide only [resolve_appeal, ne_eq, fails_only_bind, typed_require_admin, require_admin_eq_ok, fails_only_load,
    load_eq_ok, fails_only_expect, implies_true, expect_eq_ok, fails_only_panic_if, panic_if_eq_ok, Decidable.not_not,
    typed_unwrapped_data, unwrapped_data_eq_ok, fails_only_exec_if, exec_if_eq_ok, remove_eq_ok, fails_only_reads,
    reads_eq_ok, fails_only_save, save_eq_ok, forall_eq, forall_const, true_and, and_imp, forall_eq_apply_imp_iff,
    forall_exists_index]
  rintro _ admin - - rfl appeal - -
  refine ⟨h, fun data _ => ⟨typed_resolution, fun after s₁ _ => ⟨fun _ msg hfails => ?_, fun s₂ _ => ?_⟩⟩⟩
  · cases hfails
  · exact typed_update_leaderboard_internal (readable_update_update rfl)

theorem typed_decay_inactive {policy : InactivityPolicy} {now decayed : U32} (h : Readable s a) :
    Typed (decay_inactive policy now decayed a) env s := by
  simp +decide only [decay_inactive, bind_pure_comp, gt_iff_lt, fails_only_bind, fails_only_load, load_eq_ok,
    fails_only_elim, typed_map, fails_only_save, implies_true, fails_only_ite, fails_only_pure, UInt32.not_lt,
    typed_unwrapped_data, unwrapped_data_eq_ok, fails_only_reads, reads_eq_ok, save_eq_ok, typed_host, typed_add_u32,
    and_true, forall_eq, forall_const, true_and, and_imp, forall_eq_apply_imp_iff, h]
  rintro last_activity - - data -
  exact typed_update_leaderboard_internal (readable_update_update rfl)

theorem typed_decay_in_time {now : U64} (h : Readable s a) : Typed (decay_in_time now a) env s := by
  simp +decide only [decay_in_time, ne_eq, fails_only_bind, typed_unwrapped_data, h, unwrapped_data_eq_ok,
    typed_sub_u64, sub_u64_eq_ok, fails_only_exec_if, fails_only_save, save_eq_ok, forall_eq, forall_const, true_and,
    and_imp, forall_eq_apply_imp_iff]
  rintro data - time _ - - rfl -
  exact typed_update_leaderboard_internal (readable_update _ _ _)

/-- A loop over the entities, whose rounds leave reputations under their keys. -/
theorem typed_foldlM_entities {γ : Type} {f : γ → Address → System γ}
    (hround : ∀ c c' a s s', f c a env s = .ok (c', s') → Round s s')
    (htyped : ∀ c a s, Readable s a → Typed (f c a) env s) (hs : ∀ b, Readable s b) (c : γ) :
    Typed (foldlM_entities f c) env s := by
  have hloop {α : Type} {g : γ → α → System γ}
      (hg : ∀ c x s, (∀ b, Readable s b) → Typed (g c x) env s ∧
        ∀ c' s', g c x env s = .ok (c', s') → ∀ b, Readable s' b) (l : List α) :
      ∀ {c s}, (∀ b, Readable s b) → Typed (l.foldlM g c) env s ∧
        ∀ c' s', l.foldlM g c env s = .ok (c', s') → ∀ b, Readable s' b := by
    induction l with
    | nil =>
        intro c s hs
        rw [List.foldlM_nil]
        refine ⟨fails_only_pure, fun c' s' h => ?_⟩
        rw [pure_eq_ok] at h
        rwa [h.2]
    | cons x _ ih =>
        intro c s hs
        obtain ⟨htyped, hkept⟩ := hg c x s hs
        rw [List.foldlM_cons]
        refine ⟨fails_only_bind.mpr ⟨htyped, fun c₁ s₁ h => (ih (hkept c₁ s₁ h)).1⟩, fun c' s' h => ?_⟩
        obtain ⟨c₁, s₁, hx, hl⟩ := bind_eq_ok.mp h
        exact (ih (hkept c₁ s₁ hx)).2 c' s' hl
  have hentries (c : γ) (entries : List LeaderboardEntry) {s : ReputationStorage} (hs : ∀ b, Readable s b) :=
    hloop (fun c entry s hs => ⟨htyped c entry.entity_address s (hs _),
      fun c' s' h => (hround c c' entry.entity_address s s' h).readable hs⟩) entries (c := c) hs
  refine (hloop (fun c entity_type s hs => ?_) entity_types hs).1
  constructor
  · exact fails_only_bind.mpr ⟨fails_only_load, fun leaderboard s₁ h => by
      rw [(load_eq_ok.mp h).2]
      exact (hentries c _ hs).1⟩
  · intro c' s' h
    obtain ⟨leaderboard, s₁, hload, hfold⟩ := bind_eq_ok.mp h
    rw [(load_eq_ok.mp hload).2] at hfold
    exact (hentries c _ hs).2 c' s' hfold

/-- **No call but a grant of a reward** takes anything else for a reputation. -/
theorem exec_typed {call : EntryPoint} (hs : ∀ b, Readable s b)
    (hcall : ∀ a reward_amount reason, call ≠ .grant_reward a reward_amount reason) : Typed (exec call) env s := by
  cases call with
  | initialize_reputation => simp [exec, initialize_reputation]
  | register_entity => exact typed_register_entity
  | record_performance a => exact typed_record_performance (hs a)
  | apply_penalty a penalty_amount reason => exact typed_apply_penalty penalty_amount reason (hs a)
  | set_inactivity_policy => simp +decide [exec, set_inactivity_policy]
  | apply_inactivity_decay =>
      simp only [exec, ignore, apply_inactivity_decay, fails_only_bind, typed_require_admin, typed_inactivity_policy,
        fails_only_reads, fails_only_pure, require_admin_eq_ok, inactivity_policy_eq_ok, reads_eq_ok, true_and,
        implies_true, and_true]
      rintro _ s₁ ⟨-, rfl⟩ policy s₂ ⟨-, rfl⟩ now s₃ ⟨-, rfl⟩
      exact typed_foldlM_entities (fun _ _ _ _ _ => decay_inactive_round) (fun _ _ _ => typed_decay_inactive) hs 0
  | set_appeal_policy => simp +decide [exec, set_appeal_policy]
  | submit_appeal a collateral reason => exact typed_submit_appeal collateral reason (hs a)
  | resolve_appeal a => exact typed_resolve_appeal (hs a)
  | grant_reward a reward_amount reason => exact absurd rfl (hcall a reward_amount reason)
  | apply_time_decay =>
      simp +decide only [exec, apply_time_decay, unwrap, fails_only_bind, typed_require_admin, fails_only_load,
        typed_host, fails_only_expect, fails_only_exec_if, fails_only_reads, require_admin_eq_ok, load_eq_ok,
        host_apply, expect_eq_ok, reads_eq_ok, true_and, implies_true]
      rintro _ s₁ ⟨-, rfl⟩ o s₂ ⟨-, rfl⟩ config s₃ ⟨-, rfl⟩ - now s₄ ⟨-, rfl⟩
      exact typed_foldlM_entities (fun _ _ _ _ _ => decay_in_time_round) (fun _ _ _ => typed_decay_in_time) hs ()
  | update_config => simp +decide [exec, update_config]

/-- A grant of a reward that is refused, or that is for nobody, does not either. -/
theorem grant_reward_typed (reward_amount : ℤ) (reason : SString)
    (h : (∃ admin, s .Admin = some admin ∧ env.auth admin = true) → s (.Reputation a) = none) :
    Typed (grant_reward a reward_amount reason) env s := by
  refine fails_only_bind.mpr ⟨typed_require_admin, fun _ s₁ hadmin => ?_⟩
  obtain ⟨hadmin, rfl⟩ := require_admin_eq_ok.mp hadmin
  have hnone := h hadmin
  refine fails_only_bind.mpr ⟨typed_registered_data.mpr ?_, fun data s₂ hdata => ?_⟩
  · rw [Readable, hnone]
    nofun
  · rw [registered_data_eq_ok, hnone] at hdata
    cases hdata.1

end BridgeWatch.ReputationSystem

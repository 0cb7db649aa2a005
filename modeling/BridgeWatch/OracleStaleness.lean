/-
How old an aggregate may be that the oracle hub serves.

The bound in force is the default one, or the admin has proposed it and it has waited out its timelock;
and what is served is the work of a submission that reached its quorum, within that bound. A record is
traced to the transaction that left it.
-/
import BridgeWatch.OracleHub

set_option autoImplicit false

namespace BridgeWatch.OracleHub

open Transaction
open Contract (U64 I128 SString Address Env saturating_sub_u64)

section Staleness

variable {env : Env} {s s' : HubStorage} {calls : List (Env × EntryPoint)}

theorem propose_max_staleness_spec {caller : Address} {secs : U64} {pending : PendingStalenessChange}
    (h : propose_max_staleness caller secs env s = .ok (pending, s')) :
    env.auth caller = true ∧ s .Admin = some caller ∧ MIN_MAX_STALENESS_SECS ≤ secs ∧
      pending.max_staleness_secs = secs ∧
      pending.effective_at.toNat = env.timestamp.toNat + STALENESS_TIMELOCK_SECS.toNat ∧
      s' .PendingStaleness = some pending := by
  simp only [propose_max_staleness, require_admin, add_u64, bind_eq_ok, require_auth_eq_ok, load_eq_ok,
    expect_eq_ok, panic_if_eq_ok, reads_eq_ok, pure_eq_ok, save_eq_ok, not_le, UInt64.not_lt, not_not,
    and_assoc, exists_and_left, exists_eq_left, exists_const] at h
  obtain ⟨hauth, _, ⟨_, hadmin, rfl, rfl⟩, hmin, hroom, rfl, rfl⟩ := h
  refine ⟨hauth, hadmin, hmin, rfl, ?_, Function.update_self ..⟩
  rw [UInt64.toNat_add, Nat.mod_eq_of_lt hroom]

theorem apply_max_staleness_spec {secs : U64} (h : apply_max_staleness env s = .ok (secs, s')) :
    ∃ pending, s .PendingStaleness = some pending ∧ pending.effective_at ≤ env.timestamp ∧
      s' .MaxStaleness = some pending.max_staleness_secs ∧ s' .PendingStaleness = none := by
  simp only [apply_max_staleness, bind_eq_ok, load_eq_ok, expect_eq_ok, reads_eq_ok, panic_if_eq_ok,
    save_eq_ok, remove_eq_ok, pure_eq_ok, UInt64.not_lt, and_assoc, exists_and_left, exists_eq_left, exists_const] at h
  obtain ⟨pending, hpending, htime, rfl, rfl⟩ := h
  exact ⟨pending, hpending, htime, by simp, by simp⟩

/-- The admin of the time proposed the bound, and it was applied when its timelock had passed. -/
def Timelocked (calls : List (Env × EntryPoint)) (secs : U64) : Prop :=
  ∃ before env₁ caller between env₂ after,
    calls = before ++ (env₁, .propose_max_staleness caller secs) :: between ++ (env₂, .apply_max_staleness) :: after ∧
      env₁.auth caller = true ∧ run empty_storage before .Admin = some caller ∧ MIN_MAX_STALENESS_SECS ≤ secs ∧
      env₁.timestamp.toNat + STALENESS_TIMELOCK_SECS.toNat ≤ env₂.timestamp.toNat

/-- A change that is pending was proposed by the admin of the time. -/
theorem proposed_of_pending {pending : PendingStalenessChange}
    (h : run empty_storage calls .PendingStaleness = some pending) :
    ∃ before env caller after, calls = before ++ (env, .propose_max_staleness caller pending.max_staleness_secs) :: after ∧
      env.auth caller = true ∧ run empty_storage before .Admin = some caller ∧
      MIN_MAX_STALENESS_SECS ≤ pending.max_staleness_secs ∧
      pending.effective_at.toNat = env.timestamp.toNat + STALENESS_TIMELOCK_SECS.toNat := by
  obtain ⟨before, ⟨env, call⟩, after, s', rfl, hok, hnot, hs'⟩ := exists_origin h nofun
  cases call with
  | propose_max_staleness caller secs =>
      obtain ⟨p, s₁, hpropose, hreturn⟩ := bind_eq_ok.mp hok
      obtain rfl : s' = s₁ := (pure_eq_ok.mp hreturn).2
      obtain ⟨hauth, hadmin, hmin, rfl, heffective, hnew⟩ := propose_max_staleness_spec hpropose
      obtain rfl : p = pending := Option.some.inj (hnew.symm.trans hs')
      exact ⟨before, env, caller, after, rfl, hauth, hadmin, hmin, heffective⟩
  | apply_max_staleness =>
      -- what is applied is no longer pending
      obtain ⟨_, s₁, happly, hreturn⟩ := bind_eq_ok.mp hok
      obtain rfl : s' = s₁ := (pure_eq_ok.mp hreturn).2
      obtain ⟨_, -, -, -, hnone⟩ := apply_max_staleness_spec happly
      exact absurd (hnone.symm.trans hs') nofun
  | _ => exact absurd ((exec_frame hok (k := .PendingStaleness) (by dsimp only [writes]; decide)).symm.trans hs') hnot

/-- A bound that is stored has been through its timelock. -/
theorem timelocked_of_stored {secs : U64} (h : run empty_storage calls .MaxStaleness = some secs) :
    Timelocked calls secs := by
  obtain ⟨before, ⟨env, call⟩, after, s', rfl, hok, hnot, hs'⟩ := exists_origin h nofun
  cases call with
  | apply_max_staleness =>
      obtain ⟨_, s₁, happly, hreturn⟩ := bind_eq_ok.mp hok
      obtain rfl : s' = s₁ := (pure_eq_ok.mp hreturn).2
      obtain ⟨pending, hpending, htime, hnew, -⟩ := apply_max_staleness_spec happly
      obtain rfl : pending.max_staleness_secs = secs := Option.some.inj (hnew.symm.trans hs')
      obtain ⟨first, env₁, caller, between, rfl, hauth, hadmin, hmin, heffective⟩ := proposed_of_pending hpending
      rw [UInt64.le_iff_toNat_le, heffective] at htime
      exact ⟨first, env₁, caller, between, env, after, rfl, hauth, hadmin, hmin, htime⟩
  | _ => exact absurd ((exec_frame hok (k := .MaxStaleness) (by dsimp only [writes]; decide)).symm.trans hs') hnot

/-- **The bound in force**, in every run: the default one, or one that has been through its timelock. -/
theorem bound_in_force (calls : List (Env × EntryPoint)) (env : Env) :
    ∃ secs, get_max_staleness env (run empty_storage calls) = .ok (secs, run empty_storage calls) ∧
      (secs = DEFAULT_MAX_STALENESS_SECS ∨ Timelocked calls secs) := by
  refine ⟨_, rfl, ?_⟩
  cases h : run empty_storage calls .MaxStaleness with
  | none => exact .inl rfl
  | some secs => exact .inr (timelocked_of_stored h)

/-- The state is that of a submission, authorised by its caller, that listed a quorum of the nodes then active. -/
def Submitted (calls : List (Env × EntryPoint)) (asset : SString) (state : BftAggregateState) : Prop :=
  ∃ before env caller price mean dev nodes after,
    calls = before ++ (env, .submit_bft_aggregate caller asset price mean dev nodes) :: after ∧
      env.auth caller = true ∧ state.asset_code = asset ∧ state.consensus_price = price ∧ state.mean_price = mean ∧
      state.std_dev = dev ∧ state.timestamp = env.timestamp ∧ (active_nodes (run empty_storage before)).Nonempty ∧
      quorum (active_nodes (run empty_storage before)).card ≤
        (active_nodes (run empty_storage before) ∩ nodes.toFinset).card

theorem submitted_of_stored {asset : SString} {state : BftAggregateState}
    (h : run empty_storage calls (.AggregateState asset) = some state) : Submitted calls asset state := by
  obtain ⟨before, ⟨env, call⟩, after, s', rfl, hok, hnot, hs'⟩ := exists_origin h nofun
  cases call with
  | submit_bft_aggregate caller asset' price mean dev nodes =>
      obtain ⟨new, s₁, hsubmit, hreturn⟩ := bind_eq_ok.mp hok
      obtain rfl : s' = s₁ := (pure_eq_ok.mp hreturn).2
      have hregistry := registry_run before
      obtain ⟨hauth, -, -, hnew, hstored⟩ := submit_bft_aggregate_spec hregistry hsubmit
      by_cases hvalid : new.is_valid_quorum = true
      · obtain ⟨hnonempty, hquorum⟩ := (submit_bft_aggregate_valid hregistry hsubmit).mp hvalid
        rw [hstored, if_pos hvalid] at hs'
        by_cases hasset : asset = asset'
        · subst hasset
          rw [Function.update_self, Option.some.injEq] at hs'
          subst hs'
          refine ⟨before, env, caller, price, mean, dev, nodes, after, rfl, hauth, ?_⟩
          rw [hnew]
          exact ⟨rfl, rfl, rfl, rfl, rfl, hnonempty, hquorum⟩
        · rw [Function.update_of_ne (by simpa using hasset)] at hs'
          exact absurd hs' hnot
      · rw [hstored, if_neg hvalid] at hs'
        exact absurd hs' hnot
  | _ =>
      have hframe := exec_frame hok (k := .AggregateState asset) (show Tag.AggregateState ∉ _ by dsimp only [writes]; decide)
      exact absurd (hframe.symm.trans hs') hnot

theorem lt_aggregate_age_iff {state : BftAggregateState} {secs : U64} :
    aggregate_age_secs env.timestamp state > secs ↔ state.timestamp.toNat + secs.toNat < env.timestamp.toNat := by
  rw [aggregate_age_secs, saturating_sub_u64, gt_iff_lt, UInt64.lt_iff_toNat_lt]
  by_cases hlt : env.timestamp < state.timestamp
  · rw [if_pos hlt]
    rw [UInt64.lt_iff_toNat_lt] at hlt
    simp only [UInt64.toNat_zero]
    omega
  · rw [if_neg hlt, UInt64.toNat_sub_of_le _ _ (UInt64.not_lt.mp hlt)]
    omega

/-- **What is served**, in every run: the state of a submission that reached its quorum, no older than the bound in
force; an older one is refused as stale, and where there is none the hub says so. -/
theorem served_aggregates (calls : List (Env × EntryPoint)) (env : Env) (asset : SString) :
    ∃ secs, get_max_staleness env (run empty_storage calls) = .ok (secs, run empty_storage calls) ∧
      (get_aggregate_state asset env (run empty_storage calls) = .error OracleHubError.NoAggregate.text ∨
        ∃ state, Submitted calls asset state ∧ get_aggregate_state asset env (run empty_storage calls) =
          if env.timestamp.toNat ≤ state.timestamp.toNat + secs.toNat then .ok (state, run empty_storage calls)
          else .error OracleHubError.PriceStale.text) := by
  refine ⟨_, rfl, ?_⟩
  cases h : run empty_storage calls (.AggregateState asset) with
  | none =>
      left
      rw [get_aggregate_state, bind_of_ok (show get_bft_aggregate asset env _ = .ok (none, _) by rw [← h]; rfl)]
      rfl
  | some state =>
      right
      refine ⟨state, submitted_of_stored h, ?_⟩
      rw [get_aggregate_state, bind_of_ok (show get_bft_aggregate asset env _ = .ok (some state, _) by rw [← h]; rfl)]
      -- what is left is the check of the age
      change (panic_if (aggregate_age_secs env.timestamp state > _) _ >>= fun _ => pure state) env _ = _
      by_cases hage : env.timestamp.toNat ≤ state.timestamp.toNat +
          ((run empty_storage calls .MaxStaleness).getD DEFAULT_MAX_STALENESS_SECS).toNat
      · rw [if_pos hage]
        exact bind_of_ok (if_neg (lt_aggregate_age_iff.not.mpr (not_lt.mpr hage)))
      · rw [if_neg hage]
        exact bind_of_error (if_pos (lt_aggregate_age_iff.mpr (not_le.mp hage)))

end Staleness

end BridgeWatch.OracleHub

/-
The records of the assets: the health, the price and the health result.

A submission asks for the health record of its asset before it stores anything, so records come
only to assets of the list. A restoration forgets the assets that leave the list and writes back
the others, so this stays true as long as the list is not emptied by another `initialize`.
-/
import BridgeWatch.StoredSnapshots

set_option autoImplicit false
-- The instance of an invariant is as long as the function that keeps it.
set_option synthInstance.maxSize 4096

namespace BridgeWatch.Contract

open Transaction

/-- The keys of the records that a checkpoint captures of an asset. -/
def asset_keys (asset_code : SString) : List Key :=
  [.Health asset_code, .Price asset_code, .HealthRes asset_code]

/-- The families of these keys. -/
abbrev recordTags : List Tag := [.Health, .Price, .HealthRes]

section Keys

variable {a b : SString} {k : Key}

theorem tag_mem_of_mem_asset_keys (hk : k ∈ asset_keys a) : k.tag ∈ recordTags := by
  simp only [asset_keys, List.mem_cons, List.not_mem_nil, or_false] at hk
  rcases hk with rfl | rfl | rfl <;> simp

theorem eq_of_mem_asset_keys (ha : k ∈ asset_keys a) (hb : k ∈ asset_keys b) : a = b := by
  simp only [asset_keys, List.mem_cons, List.not_mem_nil, or_false] at ha hb
  rcases ha with rfl | rfl | rfl <;> simpa using hb

theorem ne_of_mem_asset_keys {k' : Key} (hk : k ∈ asset_keys a) (hk' : k'.tag ∉ recordTags) :
    k ≠ k' := by
  rintro rfl
  exact hk' (tag_mem_of_mem_asset_keys hk)

end Keys

theorem CheckpointAssetState.RecordedIn.congr {state : CheckpointAssetState} {s s' : Storage}
    (h : state.RecordedIn s) (heq : ∀ k ∈ asset_keys state.asset_code, s' k = s k) :
    state.RecordedIn s' := by
  constructor
  · rw [heq (.Health state.asset_code) (by simp [asset_keys])]
    exact h.health
  · rw [heq (.Price state.asset_code) (by simp [asset_keys])]
    exact h.price
  · rw [heq (.HealthRes state.asset_code) (by simp [asset_keys])]
    exact h.result

/-! ## What a restoration does to the records -/

section Restore

variable {env : Env} {s s' : Storage} {u : Unit}

theorem forget_asset_spec {a : SString} (h : forget_asset a env s = .ok (u, s')) :
    (∀ k ∈ asset_keys a, s' k = none) ∧ ∀ k ∉ asset_keys a, s' k = s k := by
  simp only [forget_asset, bind_eq_ok, remove_eq_ok, exists_const, exists_eq_left] at h
  subst h
  constructor
  · intro k hk
    simp only [asset_keys, List.mem_cons, List.not_mem_nil, or_false] at hk
    rcases hk with rfl | rfl | rfl <;> simp [Function.update]
  · intro k hk
    simp only [asset_keys, List.mem_cons, List.not_mem_nil, or_false, not_or] at hk
    rw [Function.update_of_ne hk.2.2, Function.update_of_ne hk.2.1, Function.update_of_ne hk.1]

/-- The loop over the current list. -/
theorem forget_assets_spec {restored l : List SString}
    (h : (l.foldlM (fun _ a => exec_if (a ∉ restored) (forget_asset a)) () : Soroban Unit) env s =
      .ok (u, s')) {a : SString} {k : Key} (hk : k ∈ asset_keys a) :
    s' k = if a ∈ l ∧ a ∉ restored then none else s k := by
  induction l generalizing s with
  | nil =>
      rw [(pure_eq_ok.mp h).2]
      simp
  | cons b _ ih =>
      simp only [List.foldlM_cons, bind_eq_ok, exec_if_eq_ok] at h
      obtain ⟨_, s₁, hforget, hrest⟩ := h
      rw [ih hrest]
      rcases hforget with ⟨hb, hforget⟩ | ⟨hb, rfl⟩
      · obtain ⟨hself, hothers⟩ := forget_asset_spec hforget
        by_cases hab : a = b
        · subst hab
          simp [hb, hself k hk]
        · rw [hothers k fun hmem => hab (eq_of_mem_asset_keys hk hmem)]
          simp [hab]
      · by_cases hab : a = b
        · subst hab
          simp [hb]
        · simp [hab]

theorem restore_asset_eq {state : CheckpointAssetState} (h : restore_asset state env s = .ok (u, s')) :
    s' = Function.update
      (Function.update (Function.update s (.Health state.asset_code) (some state.health))
        (.Price state.asset_code) state.latest_price_opt)
      (.HealthRes state.asset_code) state.health_result_opt := by
  simp only [restore_asset, bind_eq_ok, ite_eq_ok, save_eq_ok, remove_eq_ok, exists_const,
    exists_eq_left] at h
  rw [CheckpointAssetState.latest_price_opt, CheckpointAssetState.health_result_opt]
  by_cases hprice : state.has_latest_price = true
  · by_cases hresult : state.has_health_result = true
    · simpa [hprice, hresult] using h
    · simpa [hprice, hresult] using h
  · by_cases hresult : state.has_health_result = true
    · simpa [hprice, hresult] using h
    · simpa [hprice, hresult] using h

theorem restore_asset_spec {state : CheckpointAssetState}
    (h : restore_asset state env s = .ok (u, s')) :
    state.RecordedIn s' ∧ ∀ k ∉ asset_keys state.asset_code, s' k = s k := by
  rw [restore_asset_eq h]
  constructor
  · constructor <;> simp
  · intro k hk
    simp only [asset_keys, List.mem_cons, List.not_mem_nil, or_false, not_or] at hk
    rw [Function.update_of_ne hk.2.2, Function.update_of_ne hk.2.1, Function.update_of_ne hk.1]

/-- The loop over the assets of the snapshot. Each is restored once, so none is overwritten. -/
theorem restore_assets_recorded {states : List CheckpointAssetState}
    (hnodup : (states.map CheckpointAssetState.asset_code).Nodup)
    (h : (states.foldlM (fun _ state => restore_asset state) () : Soroban Unit) env s =
      .ok (u, s')) :
    (∀ state ∈ states, state.RecordedIn s') ∧
      ∀ k, (∀ a ∈ states.map CheckpointAssetState.asset_code, k ∉ asset_keys a) → s' k = s k := by
  induction states generalizing s with
  | nil =>
      obtain ⟨-, rfl⟩ := pure_eq_ok.mp h
      exact ⟨fun state hmem => absurd hmem List.not_mem_nil, fun _ _ => rfl⟩
  | cons _ _ ih =>
      rw [List.map_cons, List.nodup_cons] at hnodup
      obtain ⟨hnew, hnodup⟩ := hnodup
      rw [List.foldlM_cons] at h
      obtain ⟨_, s₁, hasset, hrest⟩ := bind_eq_ok.mp h
      obtain ⟨hrecorded, hframe⟩ := restore_asset_spec hasset
      obtain ⟨hrecorded', hframe'⟩ := ih hnodup hrest
      constructor
      · intro state' hmem
        rcases List.mem_cons.mp hmem with rfl | hmem
        · apply hrecorded.congr
          intro k hk
          apply hframe'
          intro a ha hk'
          rw [eq_of_mem_asset_keys hk hk'] at hnew
          exact hnew ha
        · exact hrecorded' state' hmem
      · intro k hk
        rw [List.map_cons, List.forall_mem_cons] at hk
        rw [hframe' k hk.2, hframe k hk.1]

/-- The assets of the snapshot get their records back, and the assets that leave the list lose
theirs. -/
theorem restore_snapshot_records {snapshot : CheckpointSnapshot} (hsnapshot : snapshot.Complete)
    (h : restore_snapshot snapshot env s = .ok (u, s')) :
    (∀ state ∈ snapshot.assets, state.RecordedIn s') ∧
      ∀ a ∉ snapshot.monitored_assets, ∀ k ∈ asset_keys a,
        s' k = if a ∈ monitored_assets s then none else s k := by
  simp only [restore_snapshot, bind_eq_ok, load_registered_assets_raw_eq_ok, save_eq_ok,
    exists_const, exists_eq_left, and_assoc, exists_and_left] at h
  obtain ⟨_, s₁, hforget, hrestore⟩ := h
  have hnodup : (snapshot.assets.map CheckpointAssetState.asset_code).Nodup := by
    rw [hsnapshot.assets]
    exact hsnapshot.nodup
  obtain ⟨hrecorded, hframe⟩ := restore_assets_recorded hnodup hrestore
  refine ⟨hrecorded, fun a ha k hk => ?_⟩
  rw [hframe, Function.update_of_ne (ne_of_mem_asset_keys hk (by decide)),
    Function.update_of_ne (ne_of_mem_asset_keys hk (by decide)),
    Function.update_of_ne (ne_of_mem_asset_keys hk (by decide)), forget_assets_spec hforget hk]
  · simp [ha]
  · intro b hb hk'
    rw [hsnapshot.assets, ← eq_of_mem_asset_keys hk hk'] at hb
    exact ha hb

end Restore

/-! ## Records of the list -/

/-- What is recorded is recorded of assets of the list, to which the assets `named` belong. -/
structure RecordsListed (named : List SString) (s : Storage) : Prop where
  listed : ∀ a, ∀ k ∈ asset_keys a, s k ≠ none → a ∈ monitored_assets s
  named : ∀ a ∈ named, a ∈ monitored_assets s

section Invariant

variable {named : List SString} {env : Env} {s s' : Storage} {a : SString} {k : Key}

theorem RecordsListed.congr (h : RecordsListed named s)
    (hassets : s' .MONITORED_ASSETS = s .MONITORED_ASSETS)
    (hrecords : ∀ a, ∀ k ∈ asset_keys a, s' k ≠ none → a ∈ monitored_assets s) :
    RecordsListed named s' := by
  have hlist : monitored_assets s' = monitored_assets s := by
    rw [monitored_assets, hassets, monitored_assets]
  constructor
  · rw [hlist]
    exact hrecords
  · rw [hlist]
    exact h.named

instance : DependsOn (.MONITORED_ASSETS :: recordTags) (RecordsListed named) where
  congr := by
    intro s s' heq h
    apply h.congr (heq .MONITORED_ASSETS (by decide))
    intro a k hk hne
    rw [heq k (List.mem_cons_of_mem _ (tag_mem_of_mem_asset_keys hk))] at hne
    exact h.listed a k hk hne

/-- A record of an asset of the list is added or changed. -/
theorem RecordsListed.update (h : RecordsListed named s) (hk : k ∈ asset_keys a)
    (ha : a ∈ monitored_assets s) (v : k.Val) :
    RecordsListed named (Function.update s k (some v)) := by
  apply h.congr
  · rw [Function.update_of_ne (ne_of_mem_asset_keys hk (by decide)).symm]
  · intro b k' hk' hne
    by_cases heq : k' = k
    · have hb : b = a := eq_of_mem_asset_keys (heq ▸ hk') hk
      rwa [hb]
    · rw [Function.update_of_ne heq] at hne
      exact h.listed b k' hk' hne

/-- A record is removed. -/
theorem RecordsListed.remove (hk : k ≠ .MONITORED_ASSETS) :
    Preserves (RecordsListed named) (Transaction.remove k : Soroban Unit) where
  preserved := by
    intro env s u s' hs h
    rw [remove_eq_ok] at h
    subst h
    apply hs.congr (Function.update_of_ne hk.symm _ _)
    intro b k' hk' hne
    by_cases heq : k' = k
    · rw [heq, Function.update_self] at hne
      exact absurd rfl hne
    · rw [Function.update_of_ne heq] at hne
      exact hs.listed b k' hk' hne

/-- The guard of the submissions names the asset. -/
instance (priority := high) {β : Type} {f : AssetHealth → Soroban β}
    [hf : ∀ status, Preserves (RecordsListed (a :: named)) (f status)] :
    Preserves (RecordsListed named) (load_asset_health a >>= f) where
  preserved := by
    intro env s b s' hs h
    simp only [bind_eq_ok, load_asset_health_eq_ok, and_assoc, exists_and_left, exists_eq_left] at h
    obtain ⟨status, hstatus, hrest⟩ := h
    have ha : a ∈ monitored_assets s := by
      apply hs.listed a (.Health a) (by simp [asset_keys])
      rw [hstatus]
      exact Option.some_ne_none status
    have hs' : RecordsListed (a :: named) s := ⟨hs.listed, List.forall_mem_cons.mpr ⟨ha, hs.named⟩⟩
    have hafter : RecordsListed (a :: named) s' := (hf status).preserved hs' hrest
    exact ⟨hafter.listed, fun b hb => hafter.named b (List.mem_cons_of_mem _ hb)⟩

theorem RecordsListed.save (hk : k ∈ asset_keys a) (v : k.Val) :
    Preserves (RecordsListed (a :: named)) (Transaction.save k v : Soroban Unit) where
  preserved := by
    intro env s u s' hs h
    rw [save_eq_ok.mp h]
    exact hs.update hk (hs.named a List.mem_cons_self) v

instance (record : AssetHealth) :
    Preserves (RecordsListed (a :: named)) (save (.Health a) record : Soroban Unit) :=
  RecordsListed.save (k := .Health a) (by simp [asset_keys]) record

instance (record : PriceRecord) :
    Preserves (RecordsListed (a :: named)) (save (.Price a) record : Soroban Unit) :=
  RecordsListed.save (k := .Price a) (by simp [asset_keys]) record

instance (record : HealthScoreResult) :
    Preserves (RecordsListed (a :: named)) (save (.HealthRes a) record : Soroban Unit) :=
  RecordsListed.save (k := .HealthRes a) (by simp [asset_keys]) record

/-- A record that is there already is extended. -/
theorem RecordsListed.extend_record (hk : k ∈ asset_keys a) (expires_at : k.Val → U64)
    (extend : k.Val → U64 → k.Val) (now extra_secs : U64) :
    Preserves (RecordsListed named) (extend_record k expires_at extend now extra_secs) where
  preserved := by
    intro env s u s' hs h
    simp only [Contract.extend_record, bind_eq_ok, load_eq_ok, elim_eq_ok, pure_eq_ok, save_eq_ok,
      and_assoc, exists_and_left, exists_eq_left] at h
    rcases h with ⟨-, -, rfl⟩ | ⟨record, hrecord, updated, s₁, hupdated, rfl⟩
    · exact hs
    · obtain rfl : s₁ = s := Writes.store_eq inferInstance hupdated
      apply hs.update hk
      apply hs.listed a k hk
      rw [hrecord]
      exact Option.some_ne_none record

/-- What these calls may write besides. -/
abbrev recordlessTags : List Tag :=
  [.PriceHist, .DevAlert, .SignerNonce, .SigCache, .EVENT_REPLAY_CTR, .EVENT_REPLAY_LOG,
    .Mismatches, .LiqDepth, .LiqHist, .CLEANUPSTATS] ++ checkpointTags

instance (priority := low) {α : Type} (m : Soroban α) [h : Writes recordlessTags m] :
    Preserves (RecordsListed named) m :=
  h.preserves (by decide)

instance (now : U64) (policy : ExpirationPolicy) (max_records : U32) (counts : U32 × U32) :
    Preserves (RecordsListed named) (cleanup_asset now policy max_records counts a) := by
  have hhealth : Preserves (RecordsListed named) (Transaction.remove (.Health a) : Soroban Unit) :=
    RecordsListed.remove (by simp)
  have hprice : Preserves (RecordsListed named) (Transaction.remove (.Price a) : Soroban Unit) :=
    RecordsListed.remove (by simp)
  have hresult : Preserves (RecordsListed named) (Transaction.remove (.HealthRes a) : Soroban Unit) :=
    RecordsListed.remove (by simp)
  unfold cleanup_asset remove_expired
  infer_instance

variable [Host] (caller : Address)

instance (asset_code : SString) (x y z w : U32) :
    Preserves (RecordsListed named) (submit_health caller asset_code x y z w) := by
  unfold submit_health
  infer_instance

instance (records : List HealthScoreBatch) :
    Preserves (RecordsListed named) (submit_health_batch caller records) := by
  unfold submit_health_batch submit_health_item
  infer_instance

instance (asset_code : SString) (price : I128) (source : SString) :
    Preserves (RecordsListed named) (submit_price caller asset_code price source) := by
  unfold submit_price
  infer_instance

instance (asset_code : SString) :
    Preserves (RecordsListed named) (register_asset caller asset_code) where
  preserved := by
    intro env s u s' hs h
    obtain ⟨assets, record, hassets, hnew, hcheckpoint⟩ := register_asset_stores h
    refine Preserves.preserved (I := RecordsListed named) ?_ hcheckpoint
    have hold : monitored_assets s = assets := by
      rw [monitored_assets, hassets, Option.getD_some]
    constructor
    · intro b k hk hne
      rw [monitored_assets, Function.update_self, Option.getD_some, List.mem_append]
      rw [Function.update_of_ne (ne_of_mem_asset_keys hk (by decide))] at hne
      by_cases heq : k = .Health asset_code
      · right
        rw [List.mem_singleton]
        exact eq_of_mem_asset_keys hk (heq ▸ by simp [asset_keys])
      · left
        rw [Function.update_of_ne heq] at hne
        rw [← hold]
        exact hs.listed b k hk hne
    · intro b hb
      rw [monitored_assets, Function.update_self, Option.getD_some, ← hold]
      exact List.mem_append_left _ (hs.named b hb)

/-- **Step.** Every call but these two keeps the records within the list. -/
theorem exec_preserves_listed {call : EntryPoint} (hinit : call.initializes = false)
    (hrestore : ∀ caller id, call ≠ .restore_from_checkpoint caller id) :
    Preserves (RecordsListed []) (exec call) := by
  by_cases hcall : ∀ t ∈ Tag.MONITORED_ASSETS :: recordTags, t ∉ writes call
  · exact exec_preserves hcall
  · cases call
    case initialize_contract => cases hinit
    case restore_from_checkpoint caller id => exact absurd rfl (hrestore caller id)
    case extend_expiration caller asset_code extra_secs =>
      have hhealth := @RecordsListed.extend_record [] asset_code (.Health asset_code)
        (by simp [asset_keys])
      have hprice := @RecordsListed.extend_record [] asset_code (.Price asset_code)
        (by simp [asset_keys])
      have hresult := @RecordsListed.extend_record [] asset_code (.HealthRes asset_code)
        (by simp [asset_keys])
      dsimp only [exec, extend_expiration]
      infer_instance
    all_goals first
      | exact absurd (by dsimp only [writes]; decide) hcall
      | dsimp only [exec, submit_health_signed, submit_price_signed, submit_health_batch_signed,
          submit_calculated_health, pause_asset, unpause_asset, deregister_asset, store_status,
          cleanup_expired_data]
        infer_instance

omit [Host] in
theorem RecordsListed.restore {snapshot : CheckpointSnapshot} {u : Unit} (hs : RecordsListed [] s)
    (hsnapshot : snapshot.Complete) (h : restore_snapshot snapshot env s = .ok (u, s')) :
    RecordsListed [] s' := by
  constructor
  · intro a k hk hne
    rw [monitored_assets, restore_snapshot_spec h, Option.getD_some]
    by_contra ha
    -- an asset outside the snapshot had records only if it was in the list
    rw [(restore_snapshot_records hsnapshot h).2 a ha k hk] at hne
    by_cases hlisted : a ∈ monitored_assets s
    · simp [hlisted] at hne
    · rw [if_neg hlisted] at hne
      exact hlisted (hs.listed a k hk hne)
  · intro a ha
    exact absurd ha List.not_mem_nil

/-- **Step.** -/
theorem RecordsListed.step {call : EntryPoint} (hs : RecordsListed [] s) (hsnapshots : SnapshotInvariant s)
    (hinit : call.initializes = false) (h : exec call env s = .ok ((), s')) : RecordsListed [] s' := by
  by_cases hrestore : ∀ caller id, call ≠ .restore_from_checkpoint caller id
  · exact (exec_preserves_listed hinit hrestore).preserved hs h
  · simp only [not_forall, not_not] at hrestore
    obtain ⟨caller, id, rfl⟩ := hrestore
    obtain ⟨metadata, s₁, hrestore, hignore⟩ := bind_eq_ok.mp h
    obtain ⟨-, rfl⟩ := pure_eq_ok.mp hignore
    obtain ⟨-, snapshot, s₂, hsnapshot, hrestore, hcheckpoint⟩ := restore_from_checkpoint_steps hrestore
    have hcomplete := (hsnapshots.snapshots _ snapshot hsnapshot).toComplete
    exact Preserves.preserved (hs.restore hcomplete hrestore) hcheckpoint

/-- **Run.** -/
theorem recordsListed_run (env : Env) (admin : Address) {calls : List Invocation}
    (h : ∀ t ∈ calls, t.2.initializes = false) :
    RecordsListed [] (run empty_storage ((env, .initialize_contract admin) :: calls)) := by
  rw [run, runFrom_cons]
  refine (run_invariant (C := fun _ t => t.2.initializes = false)
    (I := fun s => RecordsListed [] s ∧ SnapshotInvariant s) ?_ ?_ (Along.of_forall fun _ => h)).1
  · rintro s t s' ⟨hs, hsnapshots⟩ hcall hok
    exact ⟨hs.step hsnapshots hcall hok, Preserves.preserved hsnapshots hok⟩
  · refine ⟨⟨fun a k hk hne => ?_, fun a ha => absurd ha List.not_mem_nil⟩,
      snapshotInvariant_run [(env, .initialize_contract admin)]⟩
    -- nothing is recorded before the first registration
    refine absurd ?_ hne
    have htag : k.tag ∉ initializeTags := by
      have hmem := tag_mem_of_mem_asset_keys hk
      revert hmem
      generalize k.tag = tag
      revert tag
      decide
    rcases step_cases exec empty_storage (env, .initialize_contract admin) with hok | ⟨-, heq⟩
    · exact exec_frame hok htag
    · rw [heq]
      rfl

end Invariant

end BridgeWatch.Contract

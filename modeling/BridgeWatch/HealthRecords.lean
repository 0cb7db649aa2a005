/-
Health records: what a call does to them, and to the list of the monitored assets.

The records and the list are stored apart. A registration adds to both, the expiry
cleanup removes records and leaves the list, and a restoration replaces both. Every other
call only changes records that are there, and makes no inactive asset active: it is `Kept`.
-/
import BridgeWatch.AdminTransfer

set_option autoImplicit false
-- The instance of an invariant is as long as the function that keeps it.
set_option synthInstance.maxSize 2048

namespace BridgeWatch.Contract

open Transaction

/-- The list of the monitored assets. -/
def monitored_assets (s : Storage) : List SString := (s .MONITORED_ASSETS).getD []

@[simp] theorem load_registered_assets_raw_eq_ok {env : Env} {s s' : Storage} {l : List SString} :
    load_registered_assets_raw env s = .ok (l, s') ↔ l = monitored_assets s ∧ s' = s := by
  simp only [load_registered_assets_raw, monitored_assets, bind_eq_ok, load_eq_ok, pure_eq_ok,
    and_assoc, exists_and_left, exists_eq_left]

@[simp] theorem load_asset_health_eq_ok {env : Env} {s s' : Storage} {asset_code : SString}
    {record : AssetHealth} :
    load_asset_health asset_code env s = .ok (record, s') ↔
      s (.Health asset_code) = some record ∧ s' = s := by
  simp only [load_asset_health, bind_eq_ok, load_eq_ok, expect_eq_ok, and_assoc, exists_and_left,
    exists_eq_left]

/-! ## Records that stay -/

/-- A record that stays where it is, and stays inactive where it was inactive. -/
def Follows : Option AssetHealth → Option AssetHealth → Prop :=
  Option.Rel fun record record' => record.active = false → record'.active = false

theorem Follows.refl (o : Option AssetHealth) : Follows o o := by
  cases o with
  | none => exact .none
  | some => exact .some id

theorem Follows.trans {o o' o'' : Option AssetHealth} (h : Follows o o') (h' : Follows o' o'') :
    Follows o o'' := by
  cases h with
  | none => exact h'
  | some hactive =>
      cases h' with
      | some hactive' => exact .some (hactive' ∘ hactive)

theorem Follows.eq_none_iff {o o' : Option AssetHealth} (h : Follows o o') :
    o' = none ↔ o = none := by
  cases h <;> simp

/-- The list is the same, and every record has stayed. -/
structure Kept (s s' : Storage) : Prop where
  assets : s' .MONITORED_ASSETS = s .MONITORED_ASSETS
  health : ∀ a, Follows (s (.Health a)) (s' (.Health a))

theorem Kept.refl (s : Storage) : Kept s s := ⟨rfl, fun _ => Follows.refl _⟩

section Kept

variable {s₀ s s' : Storage} {env : Env} {asset_code : SString} {u : Unit}

theorem Kept.update (h : Kept s₀ s) {record record' : AssetHealth}
    (hrecord : s (.Health asset_code) = some record)
    (hactive : record.active = false → record'.active = false) :
    Kept s₀ (Function.update s (.Health asset_code) (some record')) := by
  refine ⟨h.assets, fun a => ?_⟩
  by_cases heq : a = asset_code
  · subst heq
    rw [Function.update_self]
    exact (h.health a).trans (hrecord ▸ .some hactive)
  · rw [Function.update_of_ne (by simpa using heq)]
    exact h.health a

theorem Kept.congr (h : Kept s₀ s) (hassets : s' .MONITORED_ASSETS = s .MONITORED_ASSETS)
    (hhealth : ∀ a, s' (.Health a) = s (.Health a)) : Kept s₀ s' := by
  refine ⟨hassets.trans h.assets, fun a => ?_⟩
  rw [hhealth a]
  exact h.health a

instance : DependsOn [Tag.Health, .MONITORED_ASSETS] (Kept s₀) where
  congr heq h := h.congr (heq .MONITORED_ASSETS (by decide)) fun a =>
    heq (.Health a) (show Tag.Health ∈ _ by decide)

/-- What the calls that change a record may write besides. -/
abbrev healthlessTags : List Tag :=
  [.EVENT_REPLAY_CTR, .EVENT_REPLAY_LOG, .SignerNonce, .SigCache, .Price, .PriceHist, .DevAlert,
    .HealthRes] ++ checkpointTags

instance (priority := low) {α : Type} (m : Soroban α) [h : Writes healthlessTags m] :
    Preserves (Kept s₀) m :=
  h.preserves (by decide)

variable [Host] (caller : Address) (x y z w : U32)

instance : Preserves (Kept s₀) (submit_health caller asset_code x y z w) where
  preserved := by
    intro env s u s' hs h
    simp only [submit_health, assert_asset_accepting_submissions, bind_eq_ok,
      load_asset_health_eq_ok, panic_if_eq_ok, reads_eq_ok, save_eq_ok, and_assoc, exists_and_left,
      exists_eq_left, exists_const] at h
    obtain ⟨_, s₁, hperm, _, s₂, hlock, _, s₃, htrust, status, hstatus, hactive, -, expires_at, s₄,
      hexpires, _, s₅, hreplay, hcheckpoint⟩ := h
    obtain rfl : s₁ = s := Writes.store_eq inferInstance hperm
    obtain rfl : s₂ = s₁ := Writes.store_eq inferInstance hlock
    obtain rfl : s₃ = s₂ := Writes.store_eq inferInstance htrust
    obtain rfl : s₄ = s₃ := Writes.store_eq inferInstance hexpires
    have hset : Kept s₀ (Function.update s₄ (.Health asset_code)
        (some (health_record status asset_code x y z w env.timestamp expires_at))) :=
      hs.update hstatus fun hinactive => absurd hinactive hactive
    have hreplayed : Kept s₀ s₅ := Preserves.preserved hset hreplay
    exact Preserves.preserved hreplayed hcheckpoint

omit [Host] in
instance (now : U64) (item : HealthScoreBatch) : Preserves (Kept s₀) (submit_health_item now item) where
  preserved := by
    intro env s u s' hs h
    simp only [submit_health_item, assert_asset_accepting_submissions, bind_eq_ok,
      load_asset_health_eq_ok, panic_if_eq_ok, save_eq_ok, and_assoc, exists_and_left,
      exists_eq_left, exists_const] at h
    obtain ⟨status, hstatus, hactive, -, expires_at, s₁, hexpires, rfl⟩ := h
    obtain rfl : s₁ = s := Writes.store_eq inferInstance hexpires
    exact hs.update hstatus fun hinactive => absurd hinactive hactive

instance (records : List HealthScoreBatch) : Preserves (Kept s₀) (submit_health_batch caller records) := by
  unfold submit_health_batch
  infer_instance

instance (manual_override : Option U32) :
    Preserves (Kept s₀) (submit_calculated_health caller asset_code x y z manual_override) where
  preserved := by
    intro env s u s' hs h
    simp only [submit_calculated_health, assert_asset_accepting_submissions, bind_eq_ok,
      load_asset_health_eq_ok, panic_if_eq_ok, reads_eq_ok, save_eq_ok, and_assoc, exists_and_left,
      exists_eq_left, exists_const] at h
    obtain ⟨_, s₁, hperm, status, hstatus, hactive, -, _, s₂, hscores, weights, s₃, hweights, score,
      s₄, hscore, expires_at, s₅, hexpires, result_expires_at, s₆, hresult, hcheckpoint⟩ := h
    obtain rfl : s₁ = s := Writes.store_eq inferInstance hperm
    obtain rfl : s₂ = s₁ := Writes.store_eq inferInstance hscores
    obtain rfl : s₃ = s₂ := Writes.store_eq inferInstance hweights
    obtain rfl : s₄ = s₃ := Writes.store_eq inferInstance hscore
    obtain rfl : s₅ = s₄ := Writes.store_eq inferInstance hexpires
    obtain rfl : s₆ = s₅ := Writes.store_eq inferInstance hresult
    have hset : Kept s₀ (Function.update s₆ (.Health asset_code)
        (some (health_record status asset_code score x y z env.timestamp expires_at))) :=
      hs.update hstatus fun hinactive => absurd hinactive hactive
    -- the result is stored apart from the records
    exact Preserves.preserved (hset.congr (by simp) fun a => by simp) hcheckpoint

/-- The record that a change of the status leaves. -/
theorem store_status_spec {status : AssetHealth} {active paused : Bool}
    (h : store_status caller asset_code status active paused env s = .ok (u, s')) :
    ∃ expires_at, maybe_create_auto_checkpoint caller env
      (Function.update s (.Health asset_code)
        (some { status with active, paused, timestamp := env.timestamp, expires_at })) =
          .ok (u, s') := by
  simp only [store_status, bind_eq_ok, reads_eq_ok, save_eq_ok, and_assoc, exists_and_left,
    exists_eq_left, exists_const] at h
  obtain ⟨expires_at, s₁, hexpires, hcheckpoint⟩ := h
  obtain rfl : s₁ = s := Writes.store_eq inferInstance hexpires
  exact ⟨expires_at, hcheckpoint⟩

theorem Kept.store_status {status : AssetHealth} {active paused : Bool} (hs : Kept s₀ s)
    (hstatus : s (.Health asset_code) = some status)
    (hactive : status.active = false → active = false)
    (h : store_status caller asset_code status active paused env s = .ok (u, s')) : Kept s₀ s' := by
  obtain ⟨expires_at, hcheckpoint⟩ := store_status_spec caller h
  exact Preserves.preserved (hs.update hstatus hactive) hcheckpoint

instance : Preserves (Kept s₀) (pause_asset caller asset_code) where
  preserved := by
    intro env s u s' hs h
    simp only [pause_asset, bind_eq_ok, load_asset_health_eq_ok, panic_if_eq_ok, and_assoc,
      exists_and_left, exists_eq_left, exists_const] at h
    obtain ⟨_, s₁, hperm, status, hstatus, -, hstore⟩ := h
    obtain rfl : s₁ = s := Writes.store_eq inferInstance hperm
    exact hs.store_status caller hstatus id hstore

instance : Preserves (Kept s₀) (unpause_asset caller asset_code) where
  preserved := by
    intro env s u s' hs h
    simp only [unpause_asset, bind_eq_ok, load_asset_health_eq_ok, panic_if_eq_ok, and_assoc,
      exists_and_left, exists_eq_left, exists_const] at h
    obtain ⟨_, s₁, hperm, status, hstatus, -, hstore⟩ := h
    obtain rfl : s₁ = s := Writes.store_eq inferInstance hperm
    exact hs.store_status caller hstatus id hstore

/-- A deregistration needs a record, and leaves it inactive. -/
theorem deregister_asset_spec (h : deregister_asset caller asset_code env s = .ok (u, s')) :
    ∃ status, s (.Health asset_code) = some status ∧
      store_status caller asset_code status false false env s = .ok (u, s') := by
  simp only [deregister_asset, bind_eq_ok, load_asset_health_eq_ok, and_assoc, exists_and_left,
    exists_eq_left] at h
  obtain ⟨_, s₁, hpause, _, s₂, hperm, status, hstatus, hstore⟩ := h
  obtain rfl : s₁ = s := Writes.store_eq inferInstance hpause
  obtain rfl : s₂ = s₁ := Writes.store_eq inferInstance hperm
  exact ⟨status, hstatus, hstore⟩

instance : Preserves (Kept s₀) (deregister_asset caller asset_code) where
  preserved := by
    intro env s u s' hs h
    obtain ⟨status, hstatus, hstore⟩ := deregister_asset_spec caller h
    exact hs.store_status caller hstatus (fun _ => rfl) hstore

omit [Host] in
instance (now extra_secs : U64) :
    Preserves (Kept s₀) (extend_record (.Health asset_code) AssetHealth.expires_at
      (fun record updated => { record with expires_at := updated }) now extra_secs) where
  preserved := by
    intro env s u s' hs h
    simp only [extend_record, bind_eq_ok, load_eq_ok, elim_eq_ok, pure_eq_ok, save_eq_ok, and_assoc,
      exists_and_left, exists_eq_left] at h
    rcases h with ⟨-, -, rfl⟩ | ⟨record, hrecord, updated, s₁, hupdated, rfl⟩
    · exact hs
    · obtain rfl : s₁ = s := Writes.store_eq inferInstance hupdated
      exact hs.update hrecord id

/-- The calls that make a record appear or disappear, or change the list. -/
def EntryPoint.moves_records : EntryPoint → Bool
  | .initialize_contract .. | .register_asset .. | .cleanup_expired_data ..
  | .restore_from_checkpoint .. => true
  | _ => false

/-- **Step.** Every other call keeps the records. -/
theorem exec_preserves_kept {call : EntryPoint} (hcall : call.moves_records = false) :
    Preserves (Kept s₀) (exec call) := by
  cases call
  case initialize_contract => cases hcall
  case register_asset => cases hcall
  case cleanup_expired_data => cases hcall
  case restore_from_checkpoint => cases hcall
  case submit_health | submit_health_batch | submit_calculated_health | pause_asset | unpause_asset |
      deregister_asset =>
    dsimp only [exec]
    infer_instance
  case submit_health_signed | submit_health_batch_signed | extend_expiration =>
    dsimp only [exec, submit_health_signed, submit_health_batch_signed, extend_expiration]
    infer_instance
  all_goals
    apply exec_preserves
    dsimp only [writes]
    decide

/-- What a call other than these leaves. -/
theorem exec_kept {call : EntryPoint} (hcall : call.moves_records = false)
    (h : exec call env s = .ok ((), s')) : Kept s s' :=
  (exec_preserves_kept hcall).preserved (Kept.refl s) h

end Kept

/-! ## Records that appear and disappear -/

section Moves

variable {s₀ s s' : Storage} {env : Env} {caller : Address} {asset_code : SString}

/-- A registration adds the record of the new asset. -/
theorem register_asset_health [Host] {u : Unit}
    (h : register_asset caller asset_code env s = .ok (u, s')) :
    s' (.Health asset_code) ≠ none ∧ ∀ a ≠ asset_code, s' (.Health a) = s (.Health a) := by
  obtain ⟨assets, record, -, -, hcheckpoint⟩ := register_asset_stores h
  have hframe (a : SString) := (inferInstance : Writes checkpointTags _).frame hcheckpoint
    (.Health a) (show Tag.Health ∉ _ by decide)
  refine ⟨?_, fun a hne => ?_⟩
  · rw [hframe]
    simp
  · rw [hframe]
    simp [hne]

/-- The list is the same, and some records are gone. -/
structure Thinned (s s' : Storage) : Prop where
  assets : s' .MONITORED_ASSETS = s .MONITORED_ASSETS
  health : ∀ a, s' (.Health a) = s (.Health a) ∨ s' (.Health a) = none

theorem Thinned.refl (s : Storage) : Thinned s s := ⟨rfl, fun _ => .inl rfl⟩

instance : DependsOn [Tag.Health, .MONITORED_ASSETS] (Thinned s₀) where
  congr := by
    intro s s' heq h
    constructor
    · rw [heq .MONITORED_ASSETS (by decide)]
      exact h.assets
    · intro a
      rw [heq (.Health a) (show Tag.Health ∈ _ by decide)]
      exact h.health a

/-- What the expiry cleanup writes besides. -/
abbrev trimmedTags : List Tag :=
  [.Price, .DevAlert, .HealthRes, .PriceHist, .Mismatches, .LiqDepth, .LiqHist, .CLEANUPSTATS]

instance (priority := low) {α : Type} (m : Soroban α) [h : Writes trimmedTags m] :
    Preserves (Thinned s₀) m :=
  h.preserves (by decide)

instance : Preserves (Thinned s₀) (remove (.Health asset_code) : Soroban Unit) where
  preserved := by
    intro env s u s' hs h
    rw [remove_eq_ok] at h
    subst h
    refine ⟨hs.assets, fun a => ?_⟩
    by_cases heq : a = asset_code
    · subst heq
      exact .inr (Function.update_self ..)
    · rw [Function.update_of_ne (by simpa using heq)]
      exact hs.health a

instance (now : U64) (max_records removed : U32) :
    Preserves (Thinned s₀) (remove_expired (.Health asset_code) AssetHealth.expires_at now
      max_records removed) := by
  unfold remove_expired
  infer_instance

instance (now : U64) (policy : ExpirationPolicy) (max_records : U32) (counts : U32 × U32) :
    Preserves (Thinned s₀) (cleanup_asset now policy max_records counts asset_code) := by
  unfold cleanup_asset
  infer_instance

/-- The expiry cleanup only removes. -/
theorem cleanup_expired_data_thinned {max_records : U32} {stats : CleanupStats}
    (h : cleanup_expired_data caller max_records env s = .ok (stats, s')) : Thinned s s' := by
  have : Preserves (Thinned s) (cleanup_expired_data caller max_records) := by
    unfold cleanup_expired_data
    infer_instance
  exact this.preserved (Thinned.refl s) h

end Moves

end BridgeWatch.Contract

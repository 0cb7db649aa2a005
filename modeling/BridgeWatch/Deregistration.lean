/-
Deregistered assets.

A deregistered asset keeps its place in the list and its record, in which it is inactive.
No call takes it off the list or makes it active again, so no submission that asks for
the record is accepted any more. But the record has a time of expiry: once the cleanup
has removed it, `get_monitored_assets` takes the missing record for an active one.
-/
import BridgeWatch.HealthRecords

set_option autoImplicit false
-- The instance of a guard looks through the reads that come before it.
set_option synthInstance.maxSize 2048

namespace BridgeWatch.Contract

open Transaction

/-- No active record of the asset is stored. -/
def Refused (a : SString) (s : Storage) : Prop :=
  ∀ record, s (.Health a) = some record → record.active = false

/-- The asset is in the list, and no active record of it is stored. -/
structure Closed (a : SString) (s : Storage) : Prop where
  listed : a ∈ monitored_assets s
  refused : Refused a s

/-- Every record is that of an asset in the list. -/
def Listed (s : Storage) : Prop := ∀ a, s (.Health a) ≠ none → a ∈ monitored_assets s

/-! ## What is listed -/

section Monitored

variable {env : Env} {s s' : Storage} {a : SString}

theorem foldl_append_if {assets acc : List SString} {p : SString → Bool} :
    assets.foldl (fun active_assets b => if p b then active_assets ++ [b] else active_assets) acc =
      acc ++ assets.filter p := by
  induction assets generalizing acc with
  | nil => simp
  | cons b _ ih =>
      rw [List.foldl_cons, ih, List.filter_cons]
      by_cases hb : p b = true
      · rw [if_pos hb, if_pos hb, List.append_assoc, List.singleton_append]
      · rw [if_neg hb, if_neg hb]

theorem get_monitored_assets_spec {l : List SString} :
    get_monitored_assets env s = .ok (l, s') ↔
      ∃ assets, s .MONITORED_ASSETS = some assets ∧
        l = assets.filter (fun a => is_monitored (s (.Health a))) ∧ s' = s := by
  simp only [get_monitored_assets, bind_eq_ok, load_eq_ok, expect_eq_ok, and_assoc, exists_and_left,
    exists_eq_left]
  refine exists_congr fun assets => and_congr_right fun _ => foldlM_load_eq_ok.trans ?_
  rw [foldl_append_if, List.nil_append]

/-- `get_monitored_assets` does not list the asset. -/
def Unlisted (a : SString) (s : Storage) : Prop :=
  ∀ env l s', get_monitored_assets env s = .ok (l, s') → a ∉ l

/-- A closed asset is listed when its record is missing. -/
theorem Closed.unlisted_iff (h : Closed a s) : Unlisted a s ↔ s (.Health a) ≠ none := by
  obtain ⟨hlisted, hrefused⟩ := h
  constructor
  · intro hunlisted hnone
    cases hassets : s .MONITORED_ASSETS with
    | none => simp [monitored_assets, hassets] at hlisted
    | some assets =>
        rw [monitored_assets, hassets, Option.getD_some] at hlisted
        have hmem : a ∈ assets.filter fun a => is_monitored (s (.Health a)) := by
          rw [List.mem_filter, hnone]
          exact ⟨hlisted, rfl⟩
        let env : Env := { timestamp := 0, auth := fun _ => true }
        exact hunlisted env _ s (get_monitored_assets_spec.mpr ⟨assets, hassets, rfl, rfl⟩) hmem
  · intro hne env l s' h hmem
    obtain ⟨assets, -, rfl, -⟩ := get_monitored_assets_spec.mp h
    obtain ⟨record, hrecord⟩ := Option.ne_none_iff_exists'.mp hne
    have hmonitored := (List.mem_filter.mp hmem).2
    rw [hrecord, is_monitored, Option.elim_some, hrefused record hrecord] at hmonitored
    cases hmonitored

end Monitored

/-! ## What is refused -/

/-- The assets that a call submits health or a price for. -/
def EntryPoint.submitted_assets : EntryPoint → List SString
  | .submit_health _ asset_code .. | .submit_price _ asset_code ..
  | .submit_health_signed _ asset_code .. | .submit_price_signed _ asset_code ..
  | .submit_calculated_health _ asset_code .. | .submit_health_multi_source _ _ asset_code .. =>
      [asset_code]
  | .submit_health_batch _ records | .submit_health_batch_signed _ records _ =>
      records.map HealthScoreBatch.asset_code
  | _ => []

/-- The submissions that do not ask for the record of the asset. -/
def EntryPoint.is_multi_source : EntryPoint → Bool
  | .submit_health_multi_source .. => true
  | _ => false

section Refusals

variable {a : SString}

instance : DependsOn [Tag.Health] (Refused a) where
  congr := by
    intro s s' heq h record hrecord
    rw [heq (.Health a) (show Tag.Health ∈ _ by decide)] at hrecord
    exact h record hrecord

/-- The guard of the submissions. -/
instance {β : Type} {f : AssetHealth → Unit → Soroban β} :
    Blocked (fun _ => Refused a)
      (load_asset_health a >>= fun status => assert_asset_accepting_submissions status >>= f status) where
  fails := by
    rintro env s hrefused ⟨b, s'⟩ h
    simp only [assert_asset_accepting_submissions, bind_eq_ok, load_asset_health_eq_ok,
      panic_if_eq_ok, and_assoc, exists_and_left, exists_eq_left] at h
    obtain ⟨status, hstatus, hactive, -⟩ := h
    exact hactive (hrefused status hstatus)

variable [Host] (caller : Address) (x y z w : U32)

instance : Blocked (fun _ => Refused a) (submit_health caller a x y z w) := by
  unfold submit_health
  infer_instance

instance (price : I128) (source : SString) :
    Blocked (fun _ => Refused a) (submit_price caller a price source) := by
  unfold submit_price
  infer_instance

instance (manual_override : Option U32) :
    Blocked (fun _ => Refused a) (submit_calculated_health caller a x y z manual_override) := by
  unfold submit_calculated_health
  infer_instance

omit [Host] in
/-- A record that is kept is not made active. -/
theorem Kept.refused {s s' : Storage} (h : Kept s s') (hs : Refused a s) : Refused a s' := by
  intro record' hrecord'
  have hfollows := h.health a
  rw [hrecord'] at hfollows
  cases hrecord : s (.Health a) with
  | none =>
      rw [hrecord] at hfollows
      cases hfollows
  | some record =>
      rw [hrecord] at hfollows
      cases hfollows with
      | some hactive => exact hactive (hs record hrecord)

/-- One of the records of the batch meets the guard, if no earlier one has failed. -/
theorem submit_health_batch_blocked {records : List HealthScoreBatch}
    (h : a ∈ records.map HealthScoreBatch.asset_code) :
    Blocked (fun _ => Refused a) (submit_health_batch caller records) := by
  obtain ⟨item, hmem, rfl⟩ := List.mem_map.mp h
  have hloop (now : U64) : Blocked (fun _ => Refused item.asset_code)
      (records.foldlM (fun _ item => submit_health_item now item) ()) := by
    refine Preserves.blocked_foldlM (fun _ item' => ⟨fun hs hm => ?_⟩) hmem (fun _ => ?_) ()
    · exact (Preserves.preserved (Kept.refl _) hm : Kept _ _).refused hs
    · unfold submit_health_item
      infer_instance
  unfold submit_health_batch
  infer_instance

/-- A signature is checked, and then comes the guard. -/
theorem verify_signature_blocked {β : Type} (message : Buffer) (signature : SignerSignature)
    {m : Soroban β} (h : Blocked (fun _ => Refused a) m) :
    Blocked (fun _ => Refused a) (verify_signature message signature >>= fun _ => m) :=
  ((inferInstance : Writes [Tag.SignerNonce, .SigCache] _).preserves (by decide)).blocked fun _ => h

theorem verify_multi_sig_blocked {β : Type} (message : Buffer) (signatures : List SignerSignature)
    {m : Soroban β} (h : Blocked (fun _ => Refused a) m) :
    Blocked (fun _ => Refused a) (verify_multi_sig message signatures >>= fun _ => m) :=
  ((inferInstance : Writes [Tag.SignerNonce, .SigCache] _).preserves (by decide)).blocked fun _ => h

/-- **A refused asset takes no submission** that asks for its record. -/
theorem Refused.blocked {call : EntryPoint} (ha : a ∈ call.submitted_assets)
    (hcall : call.is_multi_source = false) : Blocked (fun _ => Refused a) (exec call) := by
  cases call
  case submit_health caller b x y z w =>
    obtain rfl := List.mem_singleton.mp ha
    dsimp only [exec]
    infer_instance
  case submit_price caller b price source =>
    obtain rfl := List.mem_singleton.mp ha
    dsimp only [exec]
    infer_instance
  case submit_calculated_health caller b x y z override =>
    obtain rfl := List.mem_singleton.mp ha
    dsimp only [exec]
    infer_instance
  case submit_health_batch caller records =>
    exact submit_health_batch_blocked caller ha
  case submit_health_signed caller b x y z w signature =>
    obtain rfl := List.mem_singleton.mp ha
    have (message : Buffer) := verify_signature_blocked message signature
      (inferInstance : Blocked (fun _ => Refused a) (submit_health caller a x y z w))
    dsimp only [exec, submit_health_signed]
    infer_instance
  case submit_price_signed caller b price source signature =>
    obtain rfl := List.mem_singleton.mp ha
    have (message : Buffer) := verify_signature_blocked message signature
      (inferInstance : Blocked (fun _ => Refused a) (submit_price caller a price source))
    dsimp only [exec, submit_price_signed]
    infer_instance
  case submit_health_batch_signed caller records signatures =>
    have (message : Buffer) := verify_multi_sig_blocked message signatures
      (submit_health_batch_blocked caller ha)
    dsimp only [exec, submit_health_batch_signed]
    infer_instance
  case submit_health_multi_source => cases hcall
  all_goals cases ha

end Refusals

/-! ## Runs -/

/-- The calls that replace the list. -/
def EntryPoint.replaces_list : EntryPoint → Bool
  | .initialize_contract .. | .restore_from_checkpoint .. => true
  | _ => false

section Runs

variable [Host] {env : Env} {s s' : Storage} {a : SString} {call : EntryPoint}

/-- What every other call does to the records. -/
theorem exec_moves (hcall : call.replaces_list = false) (h : exec call env s = .ok ((), s')) :
    Kept s s' ∨ Thinned s s' ∨ ∃ caller b, call = .register_asset caller b := by
  by_cases hmoves : call.moves_records = false
  · exact .inl (exec_kept hmoves h)
  · cases call
    case initialize_contract => cases hcall
    case restore_from_checkpoint => cases hcall
    case register_asset caller b => exact .inr (.inr ⟨caller, b, rfl⟩)
    case cleanup_expired_data =>
      obtain ⟨stats, s₁, hcleanup, hignore⟩ := bind_eq_ok.mp h
      rw [(pure_eq_ok.mp hignore).2]
      exact .inr (.inl (cleanup_expired_data_thinned hcleanup))
    all_goals exact absurd rfl hmoves

/-- **Step.** -/
theorem Listed.step (hs : Listed s) (hcall : call.replaces_list = false)
    (h : exec call env s = .ok ((), s')) : Listed s' := by
  intro a ha
  rcases exec_moves hcall h with hkept | hthinned | ⟨caller, b, rfl⟩
  · rw [monitored_assets, hkept.assets]
    exact hs a (mt (hkept.health a).eq_none_iff.mpr ha)
  · rw [monitored_assets, hthinned.assets]
    apply hs a
    rcases hthinned.health a with heq | hnone
    · rwa [← heq]
    · exact absurd hnone ha
  · obtain ⟨assets, hassets, -, hassets'⟩ := register_asset_spec h
    rw [monitored_assets, hassets', Option.getD_some]
    by_cases heq : a = b
    · exact List.mem_append_right _ (List.mem_singleton.mpr heq)
    · apply List.mem_append_left
      have hold := hs a (by rwa [← (register_asset_health h).2 a heq])
      rwa [monitored_assets, hassets] at hold

/-- **Step.** A closed asset cannot be registered again. -/
theorem Closed.step (hs : Closed a s) (hcall : call.replaces_list = false)
    (h : exec call env s = .ok ((), s')) : Closed a s' := by
  obtain ⟨hlisted, hrefused⟩ := hs
  rcases exec_moves hcall h with hkept | hthinned | ⟨caller, b, rfl⟩
  · refine ⟨?_, hkept.refused hrefused⟩
    rwa [monitored_assets, hkept.assets]
  · refine ⟨?_, fun record hrecord => ?_⟩
    · rwa [monitored_assets, hthinned.assets]
    · rcases hthinned.health a with heq | hnone
      · exact hrefused record (heq ▸ hrecord)
      · rw [hnone] at hrecord
        cases hrecord
  · obtain ⟨assets, hassets, hnew, hassets'⟩ := register_asset_spec h
    rw [monitored_assets, hassets, Option.getD_some] at hlisted
    have hne : a ≠ b := by
      rintro rfl
      exact hnew hlisted
    refine ⟨?_, fun record hrecord => ?_⟩
    · rw [monitored_assets, hassets', Option.getD_some]
      exact List.mem_append_left _ hlisted
    · rw [(register_asset_health h).2 a hne] at hrecord
      exact hrefused record hrecord

/-- A deregistration of the asset. -/
def EntryPoint.Deregisters (a : SString) (call : EntryPoint) : Prop :=
  ∃ caller, call = .deregister_asset caller a

theorem EntryPoint.Deregisters.closed (hcall : call.Deregisters a) (hs : Listed s)
    (h : exec call env s = .ok ((), s')) : Closed a s' := by
  obtain ⟨caller, rfl⟩ := hcall
  obtain ⟨status, hstatus, hstore⟩ := deregister_asset_spec caller h
  have hkept : Kept s s' := exec_kept rfl h
  constructor
  · rw [monitored_assets, hkept.assets]
    apply hs a
    rw [hstatus]
    exact Option.some_ne_none _
  · obtain ⟨expires_at, hcheckpoint⟩ := store_status_spec caller hstore
    intro record hrecord
    rw [(inferInstance : Writes checkpointTags _).frame hcheckpoint (.Health a)
      (show Tag.Health ∉ _ by decide), Function.update_self, Option.some.injEq] at hrecord
    rw [← hrecord]

/-- **Run.** -/
theorem listed_run (env : Env) (admin : Address) {calls : List Invocation}
    (h : ∀ t ∈ calls, t.2.replaces_list = false) :
    Listed (run empty_storage ((env, .initialize_contract admin) :: calls)) := by
  rw [run, runFrom_cons]
  refine run_invariant (C := fun _ t => t.2.replaces_list = false)
    (fun hs hcall hok => hs.step hcall hok) ?_ (Along.of_forall fun _ => h)
  -- no record is there before the first registration
  intro a ha
  refine absurd ?_ ha
  rcases step_cases exec empty_storage (env, .initialize_contract admin) with hok | ⟨-, heq⟩
  · exact exec_frame hok (k := .Health a) (show Tag.Health ∉ initializeTags by decide)
  · rw [heq]
    rfl

/-- A deregistration of the asset has succeeded in the run. -/
def DeregisteredIn (a : SString) (calls : List Invocation) : Prop :=
  Since exec (EntryPoint.Deregisters a) (fun _ _ => True) empty_storage calls

/-- **Run.** -/
theorem closed_run {admin : Address} {calls : List Invocation}
    (h : ∀ t ∈ calls, t.2.replaces_list = false)
    (hderegistered : DeregisteredIn a ((env, .initialize_contract admin) :: calls)) :
    Closed a (run empty_storage ((env, .initialize_contract admin) :: calls)) := by
  refine run_since (T := EntryPoint.Deregisters a) (J := Listed)
    (C := fun _ t => t.2.replaces_list = false) ?_ (fun hs hcall hok => hcall.closed hs hok)
    (fun hs hcall hok => hs.step hcall hok) ?_
  · intro before after heq
    cases before with
    | nil => exact fun a ha => absurd rfl ha
    | cons t =>
        obtain ⟨rfl, rfl⟩ := List.cons.inj heq
        exact listed_run env admin fun t ht => h t (List.mem_append_left _ ht)
  · obtain ⟨before, t, after, heq, hkind, hok, -⟩ := hderegistered
    refine ⟨before, t, after, heq, hkind, hok, Along.of_forall fun _ u hu => h u ?_⟩
    cases before with
    | nil =>
        obtain ⟨rfl, rfl⟩ := List.cons.inj heq
        exact hu
    | cons =>
        obtain ⟨rfl, rfl⟩ := List.cons.inj heq
        exact List.mem_append_right _ (List.mem_cons_of_mem _ hu)

/-- What the call `t` finds of a deregistered asset. -/
structure Deregistered (a : SString) (s : Storage) (t : Invocation) : Prop where
  unlisted : Unlisted a s
  refused : a ∈ t.2.submitted_assets → ∀ r, exec t.2 t.1 s ≠ .ok r

/-- **Deregistration.** As long as the cleanup has not removed its record, and only then, a
deregistered asset is not listed; and every submission for it that asks for the record fails. -/
theorem deregistered_run {admin : Address} {calls : List Invocation}
    (h : ∀ t ∈ calls, t.2.replaces_list = false)
    (hderegistered : DeregisteredIn a ((env, .initialize_contract admin) :: calls))
    {t : Invocation} (ht : a ∈ t.2.submitted_assets → t.2.is_multi_source = false) :
    Deregistered a (run empty_storage ((env, .initialize_contract admin) :: calls)) t ↔
      (run empty_storage ((env, .initialize_contract admin) :: calls)) (.Health a) ≠ none := by
  have hclosed := closed_run h hderegistered
  constructor
  · intro hstays
    exact hclosed.unlisted_iff.mp hstays.unlisted
  · intro hstored
    refine ⟨hclosed.unlisted_iff.mpr hstored, fun ha r => ?_⟩
    exact (Refused.blocked ha (ht ha)).fails hclosed.refused r

end Runs

/-! ## Concrete runs -/

/-- An asset is registered and deregistered, and its record is extended. -/
def deregistered_asset : List Invocation :=
  [(mock_all_auths 1, .register_asset (test_address 0) (str "USDC")),
    (mock_all_auths 2, .deregister_asset (test_address 0) (str "USDC")),
    (mock_all_auths 3, .extend_expiration (test_address 0) (str "USDC") 100)]

/-- The first call of a concrete run. -/
def initialize_first : Invocation := (mock_all_auths 1, .initialize_contract (test_address 0))

/-- The same with a health source, and then a cleanup a day later. -/
def forgotten_asset : List Invocation :=
  deregistered_asset ++
    [(mock_all_auths 4, .register_health_source (test_address 0) (str "feed") 100),
      (mock_all_auths 90000, .cleanup_expired_data (test_address 0) 10)]

theorem deregistered_run_extended :
    @Deregistered lengthHost (str "USDC")
      (@run lengthHost empty_storage (initialize_first :: deregistered_asset))
      (mock_all_auths 4, .submit_health (test_address 0) (str "USDC") 90 80 70 60) := by
  let _ : Host := lengthHost
  have hcalls : ∀ t ∈ deregistered_asset, t.2.replaces_list = false := by decide
  have hderegistered : DeregisteredIn (str "USDC") (initialize_first :: deregistered_asset) :=
    ⟨initialize_first :: deregistered_asset.take 1,
      (mock_all_auths 2, .deregister_asset (test_address 0) (str "USDC")), _, rfl, ⟨_, rfl⟩,
      by decide +kernel, trivial, trivial⟩
  exact (deregistered_run hcalls hderegistered fun _ => rfl).mpr (by decide +kernel)

/-- **A deregistered asset that is listed again**, once the cleanup has removed its record. A
submission of a health source for it is accepted all along. -/
theorem deregistered_asset_listed :
    ∃ (_ : Host), (∀ t ∈ forgotten_asset, t.2.replaces_list = false) ∧
      DeregisteredIn (str "USDC") (initialize_first :: forgotten_asset) ∧
      ¬Unlisted (str "USDC") (run empty_storage (initialize_first :: forgotten_asset)) ∧
      ∃ s, exec (.submit_health_multi_source (test_address 0) (str "feed") (str "USDC") 90 80 70 60)
        (mock_all_auths 5)
        (run empty_storage (initialize_first :: forgotten_asset.take 4)) = .ok ((), s) := by
  let _ : Host := lengthHost
  have hderegistered : DeregisteredIn (str "USDC") (initialize_first :: forgotten_asset) :=
    ⟨initialize_first :: deregistered_asset.take 1,
      (mock_all_auths 2, .deregister_asset (test_address 0) (str "USDC")), _, rfl, ⟨_, rfl⟩,
      by decide +kernel, trivial, trivial, trivial, trivial⟩
  refine ⟨lengthHost, by decide, hderegistered, fun h => ?_, exists_of_returned (by decide +kernel)⟩
  obtain ⟨s, hlisted⟩ := exists_of_returned (r := get_monitored_assets (mock_all_auths 90001)
    (run empty_storage (initialize_first :: forgotten_asset))) (a := [str "USDC"])
    (by decide +kernel)
  exact h _ _ _ hlisted (List.mem_singleton_self _)

end BridgeWatch.Contract

/-
The audit logs of the configuration.

`set_config` appends to the log of its parameter with the version of the entry. The calls on the threshold
overrides append to the log of a name that they make of a prefix and the asset code, with the version after the
last of that log. A parameter may have such a name, and then both write to one log. In a run that keeps them
apart, the log of every parameter is a chain that ends at its entry.
-/
import BridgeWatch.ConfigExport
import BridgeWatch.RingBuffer
import Mathlib.Data.List.Chain

set_option autoImplicit false

namespace BridgeWatch.Contract

open Transaction RingBuffer

def audit_log (s : Storage) (category : ConfigCategory) (name : SString) : List ConfigAuditEntry :=
  (s (.AuditLog category name)).getD []

/-- `b` is the change after `a`. -/
structure Continues (a b : ConfigAuditEntry) : Prop where
  version : b.version.toNat = a.version.toNat + 1
  old_value : b.old_value = a.new_value

/-- The log is a chain of changes that ends at the entry. -/
structure AuditChain (log : List ConfigAuditEntry) (e : ConfigEntry) : Prop where
  bounded : log.length ≤ 50
  chain : log.IsChain Continues
  last : ∃ a, log.getLast? = some a ∧ a.version = e.version ∧ a.new_value = e.value.value

/-- The log of every parameter is a chain that ends at its entry. -/
def Chained (s : Storage) : Prop :=
  ∀ category name e, s (.Entry category name) = some e → AuditChain (audit_log s category name) e

/-! ## The two writers -/

/-- The names of the logs that a call on the overrides appends to. -/
def override_names : EntryPoint → List SString
  | .set_deviation_threshold_override _ asset_code _ _ _ _ _ => [str "deviation_override_" ++ asset_code]
  | .clear_dev_threshold_override _ asset_code => [str "deviation_override_" ++ asset_code]
  | .set_mismatch_threshold_override _ asset_code _ _ _ => [str "mismatch_override_" ++ asset_code]
  | .clear_mm_threshold_override _ asset_code => [str "mismatch_override_" ++ asset_code]
  | _ => []

/-- A parameter that is not set yet has no log. -/
def Unlogged (s : Storage) (w : BulkConfigUpdate) : Prop :=
  s (.Entry w.category w.name) = none → s (.AuditLog w.category w.name) = none

instance {s : Storage} {w : BulkConfigUpdate} : Decidable (Unlogged s w) :=
  inferInstanceAs (Decidable (_ → _))

/-- The call keeps parameters and overrides apart. -/
def Apart (s : Storage) (t : Invocation) : Prop :=
  (∀ w ∈ config_writes s t, Unlogged s w) ∧ ∀ name ∈ override_names t.2, s (.Entry .Threshold name) = none

instance {s : Storage} {t : Invocation} : Decidable (Apart s t) :=
  inferInstanceAs (Decidable (_ ∧ _))

section Parameters

variable {env : Env} {s s' : Storage} {u : Unit} {caller : Address}

theorem trim_audit_log_eq (log : List ConfigAuditEntry) : trim_audit_log log = recent 50 log := rfl

/-- The change after the last. -/
theorem AuditChain.append {log : List ConfigAuditEntry} {a : ConfigAuditEntry} {e : ConfigEntry}
    (hchain : log.IsChain Continues) (hlink : ∀ b, log.getLast? = some b → Continues b a)
    (hversion : a.version = e.version) (hvalue : a.new_value = e.value.value) :
    AuditChain (trim_audit_log (log ++ [a])) e := by
  rw [trim_audit_log_eq]
  constructor
  · rw [length_recent]
    exact Nat.min_le_right _ _
  · refine (hchain.append (List.isChain_singleton a) fun b hb c hc => ?_).drop _
    rw [List.head?_singleton, Option.mem_some_iff] at hc
    rw [← hc]
    exact hlink b hb
  · refine ⟨a, ?_, hversion, hvalue⟩
    rw [recent, List.getLast?_drop, List.length_append, List.length_singleton, if_neg (by omega),
      List.getLast?_concat]

/-- What `set_config` leaves of the logs. -/
theorem set_config_audit {category : ConfigCategory} {name description : SString} {value : I128}
    (h : set_config caller category name value description env s = .ok (u, s')) :
    ∃ a : ConfigAuditEntry, s' (.AuditLog category name) =
        some (trim_audit_log (audit_log s category name ++ [a])) ∧
      (∃ e, s' (.Entry category name) = some e ∧ a.version = e.version ∧ a.new_value = e.value.value) ∧
      (∀ e, s (.Entry category name) = some e →
        a.version.toNat = e.version.toNat + 1 ∧ a.old_value = e.value.value) ∧
      ∀ category' name', (category', name') ≠ (category, name) →
        s' (.AuditLog category' name') = s (.AuditLog category' name') := by
  simp only [set_config, bind_eq_ok, load_eq_ok, reads_eq_ok, panic_if_eq_ok, save_eq_ok,
    add_u32_eq_ok, and_assoc, exists_and_left, exists_eq_left, exists_const] at h
  obtain ⟨-, _, s₁, hpause, _, s₂, htransfer, _, s₃, hguard, -, -, -, -, -, hversion, _, s₄, hadd, hs'⟩ := h
  obtain rfl : s₁ = s := Writes.store_eq inferInstance hpause
  obtain rfl : s₂ = s₁ := Writes.store_eq inferInstance htransfer
  obtain rfl : s₃ = s₂ := Writes.store_eq inferInstance hguard
  obtain ⟨-, hothers⟩ := add_config_key_spec hadd
  have hentry := hothers (.Entry category name) (by simp)
  rw [Function.update_self] at hentry
  have hlog (category' : ConfigCategory) (name' : SString) :
      s₄ (.AuditLog category' name') = s₃ (.AuditLog category' name') := by
    rw [hothers _ (by simp), Function.update_of_ne (by simp)]
  rw [hlog] at hs'
  have hkept : s' (.Entry category name) = s₄ (.Entry category name) := by
    rw [hs', Function.update_of_ne (by simp)]
  rw [← hkept] at hentry
  refine ⟨{ old_value := (s₃ (.Entry category name)).elim 0 fun entry => entry.value.value, new_value := value
            version := (s₃ (.Entry category name)).elim 0 ConfigEntry.version + 1, changed_at := env.timestamp
            changed_by := caller }, ?_, ⟨_, hentry, rfl, rfl⟩, ?_, ?_⟩
  · rw [hs', Function.update_self]
    rfl
  · intro e he
    rw [he] at hversion ⊢
    refine ⟨?_, rfl⟩
    simp only [Option.elim_some, UInt32.toNat_one] at hversion ⊢
    rw [UInt32.toNat_add, UInt32.toNat_one, Nat.mod_eq_of_lt hversion]
  · intro category' name' hne
    rw [hs', Function.update_of_ne (by simpa using hne), hlog]

/-- One parameter is set. -/
theorem Chained.set_config {w : BulkConfigUpdate} (hs : Chained s) (hw : Unlogged s w)
    (h : set_config caller w.category w.name w.value w.description env s = .ok (u, s')) :
    Chained s' ∧ ∀ v, Unlogged s v → Unlogged s' v := by
  obtain ⟨a, hlog, ⟨e', he', hversion', hvalue'⟩, hold, hlogs⟩ := set_config_audit h
  have hentries := (set_config_spec h).2.1
  refine ⟨fun category name e he => ?_, fun v hv hnone => ?_⟩
  · by_cases heq : (category, name) = (w.category, w.name)
    · cases heq
      obtain rfl : e' = e := Option.some.inj (he'.symm.trans he)
      rw [audit_log, hlog, Option.getD_some]
      cases hentry : s (.Entry w.category w.name) with
      | none =>
          -- the first change
          have hnil : audit_log s w.category w.name = [] := by
            rw [audit_log, hw hentry]
            rfl
          rw [hnil]
          exact .append .nil (fun b hb => absurd hb.symm (Option.some_ne_none b)) hversion' hvalue'
      | some e₀ =>
          obtain ⟨hversion, hvalue⟩ := hold e₀ hentry
          obtain ⟨-, hchain, b, hlast, hb, hb'⟩ := hs _ _ e₀ hentry
          refine .append hchain (fun c hc => ?_) hversion' hvalue'
          obtain rfl : b = c := Option.some.inj (hlast.symm.trans hc)
          exact ⟨by rw [hversion, hb], by rw [hvalue, hb']⟩
    · rw [hentries _ rfl (by simpa using heq)] at he
      rw [audit_log, hlogs _ _ heq]
      exact hs category name e he
  · by_cases heq : (v.category, v.name) = (w.category, w.name)
    · rw [Prod.mk.injEq] at heq
      rw [heq.1, heq.2, he'] at hnone
      exact absurd hnone (Option.some_ne_none _)
    · rw [hentries _ rfl (by simpa using heq)] at hnone
      rw [hlogs _ _ heq]
      exact hv hnone

/-- A default is set unless its parameter is. -/
theorem Chained.set_if_absent {w : BulkConfigUpdate} (hs : Chained s) (hw : Unlogged s w)
    (h : set_if_absent caller w env s = .ok (u, s')) : Chained s' ∧ ∀ v, Unlogged s v → Unlogged s' v := by
  simp only [Contract.set_if_absent, bind_eq_ok, load_eq_ok, exec_if_eq_ok, and_assoc, exists_and_left,
    exists_eq_left] at h
  rcases h with ⟨-, hset⟩ | ⟨-, rfl⟩
  · exact hs.set_config hw hset
  · exact ⟨hs, fun _ hv => hv⟩

/-- A list of parameters is set one by one. -/
theorem Chained.loop {m : BulkConfigUpdate → Soroban Unit} {updates : List BulkConfigUpdate}
    (hm : ∀ {w s s'}, Chained s → Unlogged s w → m w env s = .ok ((), s') →
      Chained s' ∧ ∀ v, Unlogged s v → Unlogged s' v)
    (hs : Chained s) (hupdates : ∀ w ∈ updates, Unlogged s w)
    (h : (updates.foldlM (fun _ w => m w) () : Soroban Unit) env s = .ok (u, s')) : Chained s' := by
  induction updates generalizing s with
  | nil =>
      obtain ⟨-, rfl⟩ := pure_eq_ok.mp h
      exact hs
  | cons w _ ih =>
      rw [List.foldlM_cons] at h
      obtain ⟨_, s₁, hfirst, hrest⟩ := bind_eq_ok.mp h
      obtain ⟨hs₁, hkept⟩ := hm hs (hupdates w List.mem_cons_self) hfirst
      exact ih hs₁ (fun v hv => hkept v (hupdates v (List.mem_cons_of_mem _ hv))) hrest

end Parameters

/-! ## The overrides -/

/-- Only the log of an override changes. -/
structure AppendedTo (name : SString) (s s' : Storage) : Prop where
  entry : ∀ category name', s' (.Entry category name') = s (.Entry category name')
  audit : ∀ category name', (category, name') ≠ (.Threshold, name) →
    s' (.AuditLog category name') = s (.AuditLog category name')

section Overrides

variable {env : Env} {s s' s₁ : Storage} {u : Unit} {caller : Address} {asset_code name : SString}

/-- Parameters and logs are unchanged. -/
abbrev SameConfig (s s' : Storage) : Prop := ∀ k, k.tag ∉ [Tag.DevThreshOvr, .MmThreshOvr] → s' k = s k

theorem SameConfig.bind {α β : Type} {m : Soroban α} {f : α → Soroban β} {b : β}
    [hm : Writes [Tag.DevThreshOvr, .MmThreshOvr] m] (hs : SameConfig s₁ s)
    (h : (m >>= f) env s = .ok (b, s')) : ∃ a s₂, SameConfig s₁ s₂ ∧ f a env s₂ = .ok (b, s') := by
  obtain ⟨a, s₂, hfirst, hrest⟩ := bind_eq_ok.mp h
  exact ⟨a, s₂, fun k hk => (hm.frame hfirst k hk).trans (hs k hk), hrest⟩

/-- What the calls on the overrides end with. -/
theorem SameConfig.appends {text : String} {old_value new_value : I128} (hs : SameConfig s s₁)
    (h : (attempt (override_audit_name text asset_code) >>= fun name =>
      append_threshold_override_audit name old_value new_value caller) env s₁ = .ok (u, s')) :
    AppendedTo (str text ++ asset_code) s s' := by
  simp only [bind_eq_ok, attempt_eq_ok, append_threshold_override_audit, override_audit_name, load_eq_ok,
    reads_eq_ok, add_u32_eq_ok, save_eq_ok, and_assoc, exists_and_left, exists_eq_left] at h
  obtain ⟨name, hname, -, rfl⟩ := h
  split at hname
  · cases hname
  · obtain rfl := Except.ok.inj hname
    refine ⟨fun category name' => ?_, fun category name' hne => ?_⟩
    · rw [Function.update_of_ne (by simp)]
      exact hs _ (show Tag.Entry ∉ _ by decide)
    · rw [Function.update_of_ne (by simpa using hne)]
      exact hs _ (show Tag.AuditLog ∉ _ by decide)

theorem set_deviation_threshold_override_appended {low_bps medium_bps high_bps : I128}
    {mode : ThresholdOverrideMode} {expires_at : Option U64}
    (h : set_deviation_threshold_override caller asset_code low_bps medium_bps high_bps mode expires_at env s =
      .ok (u, s')) : AppendedTo (str "deviation_override_" ++ asset_code) s s' := by
  have hs : SameConfig s s := fun _ _ => rfl
  iterate 6 obtain ⟨_, _, hs, h⟩ := hs.bind h
  exact hs.appends h

theorem clear_dev_threshold_override_appended
    (h : clear_dev_threshold_override caller asset_code env s = .ok (u, s')) :
    AppendedTo (str "deviation_override_" ++ asset_code) s s' := by
  have hs : SameConfig s s := fun _ _ => rfl
  iterate 3 obtain ⟨_, _, hs, h⟩ := hs.bind h
  exact hs.appends h

theorem set_mismatch_threshold_override_appended {threshold_bps : I128} {mode : ThresholdOverrideMode}
    {expires_at : Option U64}
    (h : set_mismatch_threshold_override caller asset_code threshold_bps mode expires_at env s = .ok (u, s')) :
    AppendedTo (str "mismatch_override_" ++ asset_code) s s' := by
  have hs : SameConfig s s := fun _ _ => rfl
  iterate 6 obtain ⟨_, _, hs, h⟩ := hs.bind h
  exact hs.appends h

theorem clear_mm_threshold_override_appended
    (h : clear_mm_threshold_override caller asset_code env s = .ok (u, s')) :
    AppendedTo (str "mismatch_override_" ++ asset_code) s s' := by
  have hs : SameConfig s s := fun _ _ => rfl
  iterate 3 obtain ⟨_, _, hs, h⟩ := hs.bind h
  exact hs.appends h

/-- An override, when no parameter has the name of its log. -/
theorem Chained.override (hs : Chained s) (h : AppendedTo name s s') (hname : s (.Entry .Threshold name) = none) :
    Chained s' := by
  intro category name' e he
  rw [h.entry] at he
  have hne : (category, name') ≠ (.Threshold, name) := by
    intro heq
    rw [Prod.mk.injEq] at heq
    rw [heq.1, heq.2, hname] at he
    exact Option.some_ne_none _ he.symm
  rw [audit_log, h.audit _ _ hne]
  exact hs category name' e he

end Overrides

/-! ## Runs -/

section Runs

variable [Host]

/-- **Step.** -/
theorem Chained.step {s s' : Storage} {t : Invocation} (hs : Chained s) (hapart : Apart s t)
    (h : exec t.2 t.1 s = .ok ((), s')) : Chained s' := by
  obtain ⟨env, call⟩ := t
  obtain ⟨hwrites, hnames⟩ := hapart
  by_cases hmem : Tag.Entry ∈ writes call ∨ Tag.AuditLog ∈ writes call
  · cases call with
    | set_config _ category name value description =>
        let w : BulkConfigUpdate := { category, name, value, description }
        exact (hs.set_config (hwrites w List.mem_cons_self) h).1
    | set_config_bulk =>
        exact hs.loop Chained.set_config hwrites (set_config_bulk_loop h)
    | init_default_config =>
        refine hs.loop Chained.set_if_absent (fun w hw hnone => ?_) (init_default_config_loop h)
        exact hwrites w (List.mem_filter.mpr ⟨hw, decide_eq_true hnone⟩) hnone
    | set_deviation_threshold_override =>
        exact hs.override (set_deviation_threshold_override_appended h) (hnames _ List.mem_cons_self)
    | clear_dev_threshold_override =>
        exact hs.override (clear_dev_threshold_override_appended h) (hnames _ List.mem_cons_self)
    | set_mismatch_threshold_override =>
        exact hs.override (set_mismatch_threshold_override_appended h) (hnames _ List.mem_cons_self)
    | clear_mm_threshold_override =>
        exact hs.override (clear_mm_threshold_override_appended h) (hnames _ List.mem_cons_self)
    | _ => exact absurd hmem (by dsimp only [writes]; decide)
  · rw [not_or] at hmem
    intro category name e he
    rw [exec_frame h (k := .Entry category name) hmem.1] at he
    rw [audit_log, exec_frame h (k := .AuditLog category name) hmem.2]
    exact hs category name e he

/-- **The audit logs are chains** after every run that keeps parameters and overrides apart. -/
theorem config_audit_run {calls : List Invocation} (h : Along exec Apart empty_storage calls) :
    Chained (run empty_storage calls) :=
  run_invariant Chained.step (fun _ _ e he => absurd he.symm (Option.some_ne_none e)) h

end Runs

/-- A parameter is set twice, and overrides are set and cleared between. -/
def overrides_between : List Invocation :=
  [(mock_all_auths 1, .initialize_contract (test_address 0)),
    (mock_all_auths 2, .set_config (test_address 0) .Threshold (str "health_score_min") 50 (str "Min score")),
    (mock_all_auths 3, .set_deviation_threshold_override (test_address 0) (str "USDC") 100 200 300 .Permanent none),
    (mock_all_auths 4, .set_config (test_address 0) .Threshold (str "health_score_min") 60 (str "Min score")),
    (mock_all_auths 5, .clear_dev_threshold_override (test_address 0) (str "USDC"))]

theorem config_audit_run_overrides :
    let _ : Host := lengthHost
    Chained (run empty_storage overrides_between) ∧
      (audit_log (run empty_storage overrides_between) .Threshold (str "health_score_min")).length = 2 := by
  intro host
  exact ⟨config_audit_run (by decide +kernel), by decide +kernel⟩

/-- A parameter with the name of an override, which is set after it. -/
def shared_name : List Invocation :=
  [(mock_all_auths 1, .initialize_contract (test_address 0)),
    (mock_all_auths 2, .set_config (test_address 0) .Threshold (str "deviation_override_USDC") 5
      (str "Max override")),
    (mock_all_auths 3, .set_deviation_threshold_override (test_address 0) (str "USDC") 100 200 300 .Permanent none)]

/-- The last change of the log is not that of the parameter. -/
theorem shared_name_not_chained :
    let _ : Host := lengthHost
    ¬Chained (run empty_storage shared_name) := by
  intro host h
  have hentry : (run empty_storage shared_name (.Entry .Threshold (str "deviation_override_USDC"))).map
      ConfigEntry.version = some 1 := by decide +kernel
  have hlast : (audit_log (run empty_storage shared_name) .Threshold (str "deviation_override_USDC")).getLast?.map
      ConfigAuditEntry.version = some 2 := by decide +kernel
  obtain ⟨e, he, hversion⟩ := Option.map_eq_some_iff.mp hentry
  obtain ⟨a, ha, ha', -⟩ := (h _ _ e he).last
  rw [ha, Option.map_some, ha', hversion] at hlast
  exact absurd hlast (by decide)

end BridgeWatch.Contract

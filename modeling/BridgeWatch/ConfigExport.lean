/-
The export of the configuration.

Entries are stored one by one, and the list of their keys is kept beside them, so that all of
them can be exported. `set_config` keeps that list under `DataKey::ConfigKeys`, while
`get_all_configs` looks for it under the constant `keys::CONFIG_KEYS`, which nothing writes.

The entries and the list of `DataKey::ConfigKeys` refine the log of all writes. The export does
not, as soon as there is a write.
-/
import BridgeWatch.ContractCalls

set_option autoImplicit false

namespace BridgeWatch.Contract

open Transaction

/-! ## The readers -/

structure AllConfigsExport where
  entries : List ConfigEntry
  total : U32
  exported_at : U64
  deriving DecidableEq

def get_config (category : ConfigCategory) (name : SString) : Soroban (Option ConfigEntry) :=
  get (.Entry category name)

def get_all_configs : Soroban AllConfigsExport := do
  let now ← timestamp
  let keys ← get .CONFIG_KEYS
  let entries ← (keys.getD []).foldlM (fun entries (key : ConfigCategory × SString) => do
    let entry ← get (.Entry key.1 key.2)
    return entries ++ entry.toList) []
  return { entries, total := len entries, exported_at := now }

theorem get_all_configs_of_none {env : Env} {s : Storage} (h : s .CONFIG_KEYS = none) :
    get_all_configs env s = .ok ({ entries := [], total := 0, exported_at := env.timestamp }, s) := by
  simp only [get_all_configs, bind_eq_ok, reads_eq_ok, load_eq_ok, pure_eq_ok, and_assoc,
    exists_and_left, exists_eq_left, h, Option.getD_none, List.foldlM_nil]
  simp [len]

/-! ## The log of writes -/

/-- The pair that a write is for. -/
abbrev BulkConfigUpdate.key (w : BulkConfigUpdate) : ConfigCategory × SString := (w.category, w.name)

/-- The writes to one pair. -/
def writes_to (key : ConfigCategory × SString) (log : List BulkConfigUpdate) : List BulkConfigUpdate :=
  log.filter fun w => w.key = key

/-- The pairs of a log in the order of their first writes. -/
def first_set (log : List BulkConfigUpdate) : List (ConfigCategory × SString) :=
  (log.map BulkConfigUpdate.key).eraseDups

/-- What a call writes that succeeds on `s`. -/
def config_writes (s : Storage) (t : Invocation) : List BulkConfigUpdate :=
  match t.2 with
  | .set_config _ category name value description => [{ category, name, value, description }]
  | .set_config_bulk _ updates => updates
  | .init_default_config _ => default_config.filter fun u => s (.Entry u.category u.name) = none
  | _ => []

/-- What an entry holds after the writes to its pair. -/
structure EntryOf (key : ConfigCategory × SString) (log : List BulkConfigUpdate) (e : ConfigEntry) :
    Prop where
  pair : (e.category, e.name) = key
  last : ∃ w, (writes_to key log).getLast? = some w ∧
    e.value = { value := w.value, description := w.description }
  version : e.version.toNat = (writes_to key log).length

section Log

variable {key : ConfigCategory × SString} {log : List BulkConfigUpdate} {w : BulkConfigUpdate}

theorem mem_first_set : key ∈ first_set log ↔ key ∈ log.map BulkConfigUpdate.key := List.mem_eraseDups

theorem first_set_concat :
    first_set (log ++ [w]) = if w.key ∈ first_set log then first_set log else first_set log ++ [w.key] := by
  rw [first_set, List.map_append, List.map_singleton, List.eraseDups_append, ← first_set]
  by_cases h : w.key ∈ first_set log
  · have hmem : (log.map BulkConfigUpdate.key).contains w.key = true :=
      List.contains_iff_mem.mpr (mem_first_set.mp h)
    rw [if_pos h, List.removeAll, List.filter_singleton, List.elem_eq_contains, hmem]
    simp
  · have hmem : (log.map BulkConfigUpdate.key).contains w.key = false := by
      rw [← Bool.not_eq_true, List.contains_iff_mem]
      exact mem_first_set.not.mp h
    rw [if_neg h, List.removeAll, List.filter_singleton, List.elem_eq_contains, hmem]
    simp [List.eraseDups_cons]

theorem writes_to_concat_self : writes_to w.key (log ++ [w]) = writes_to w.key log ++ [w] := by
  rw [writes_to, List.filter_append, writes_to]
  simp

theorem writes_to_concat_of_ne (h : w.key ≠ key) : writes_to key (log ++ [w]) = writes_to key log := by
  rw [writes_to, List.filter_append, writes_to]
  simp [h]

theorem writes_to_eq_nil_iff : writes_to key log = [] ↔ key ∉ first_set log := by
  rw [writes_to, List.filter_eq_nil_iff, mem_first_set]
  simp

theorem first_set_eq_nil_iff : first_set log = [] ↔ log = [] := by
  cases log with
  | nil => simp [first_set]
  | cons => simp [first_set, List.eraseDups_cons]

end Log

/-! ## The entries refine the log -/

/-- The list under `DataKey::ConfigKeys` has the pairs in the order of their first writes, and the
entry of a pair is there if it was written, with the last value and the number of writes. -/
structure Configured (s : Storage) (log : List BulkConfigUpdate) : Prop where
  keys : (s .ConfigKeys).getD [] = first_set log
  absent : ∀ category name, s (.Entry category name) = none ↔ (category, name) ∉ first_set log
  entry : ∀ category name e, s (.Entry category name) = some e → EntryOf (category, name) log e

section Steps

variable {env : Env} {s s' : Storage} {u : Unit} {caller : Address} {log : List BulkConfigUpdate}

theorem Configured.congr (h : Configured s log) (hkeys : s' .ConfigKeys = s .ConfigKeys)
    (hentry : ∀ category name, s' (.Entry category name) = s (.Entry category name)) :
    Configured s' log := by
  constructor
  · rw [hkeys]
    exact h.keys
  · intro category name
    rw [hentry]
    exact h.absent category name
  · intro category name e he
    rw [hentry] at he
    exact h.entry category name e he

theorem add_config_key_spec {category : ConfigCategory} {name : SString}
    (h : add_config_key category name env s = .ok (u, s')) :
    s' .ConfigKeys = (if (category, name) ∈ (s .ConfigKeys).getD [] then s .ConfigKeys
        else some ((s .ConfigKeys).getD [] ++ [(category, name)])) ∧
      ∀ k ≠ .ConfigKeys, s' k = s k := by
  simp only [add_config_key, bind_eq_ok, load_eq_ok, exec_if_eq_ok, save_eq_ok, and_assoc,
    exists_and_left, exists_eq_left] at h
  rcases h with ⟨hnew, rfl⟩ | ⟨hold, rfl⟩
  · rw [if_neg hnew, Function.update_self]
    exact ⟨rfl, fun k hk => Function.update_of_ne hk _ _⟩
  · rw [if_pos (not_not.mp hold)]
    exact ⟨rfl, fun _ _ => rfl⟩

/-- What `set_config` leaves of the entries and of the list. -/
theorem set_config_spec {category : ConfigCategory} {name description : SString} {value : I128}
    (h : set_config caller category name value description env s = .ok (u, s')) :
    (∃ e, s' (.Entry category name) = some e ∧ (e.category, e.name) = (category, name) ∧
      e.value = { value, description } ∧
        e.version.toNat = (s (.Entry category name)).elim 0 (fun e => e.version.toNat) + 1) ∧
      (∀ k, k.tag = .Entry → k ≠ .Entry category name → s' k = s k) ∧
      s' .ConfigKeys = if (category, name) ∈ (s .ConfigKeys).getD [] then s .ConfigKeys
        else some ((s .ConfigKeys).getD [] ++ [(category, name)]) := by
  simp only [set_config, bind_eq_ok, load_eq_ok, reads_eq_ok, panic_if_eq_ok, save_eq_ok,
    add_u32_eq_ok, and_assoc, exists_and_left, exists_eq_left, exists_const] at h
  obtain ⟨-, _, s₁, hpause, _, s₂, htransfer, _, s₃, hguard, -, -, -, -, -, hversion, _, s₄, hadd, hs'⟩ := h
  obtain rfl : s₁ = s := Writes.store_eq inferInstance hpause
  obtain rfl : s₂ = s₁ := Writes.store_eq inferInstance htransfer
  obtain rfl : s₃ = s₂ := Writes.store_eq inferInstance hguard
  obtain ⟨hkeys, hothers⟩ := add_config_key_spec hadd
  rw [Function.update_of_ne (by simp)] at hkeys
  have hsame : s' (.Entry category name) = s₄ (.Entry category name) := by
    rw [hs', Function.update_of_ne (by simp)]
  have hentry := hothers (.Entry category name) (by simp)
  rw [Function.update_self] at hentry
  refine ⟨⟨_, hsame.trans hentry, rfl, rfl, ?_⟩, ?_, ?_⟩
  · rw [UInt32.toNat_add, UInt32.toNat_one]
    cases hold : s₃ (.Entry category name) with
    | none => simp
    | some =>
        rw [hold] at hversion
        simp only [Option.elim_some, UInt32.toNat_one] at hversion ⊢
        rw [Nat.mod_eq_of_lt hversion]
  · intro k htag hne
    rw [hs', Function.update_of_ne, hothers, Function.update_of_ne hne]
    · rintro rfl
      cases htag
    · rintro rfl
      cases htag
  · rw [hs', Function.update_of_ne (by simp), hkeys]

/-- One write. -/
theorem Configured.set_config {w : BulkConfigUpdate} (hs : Configured s log)
    (h : set_config caller w.category w.name w.value w.description env s = .ok (u, s')) :
    Configured s' (log ++ [w]) := by
  obtain ⟨⟨e, he, hpair, hvalue, hversion⟩, hothers, hkeys⟩ := set_config_spec h
  have hold : (s (.Entry w.category w.name)).elim 0 (fun e => e.version.toNat) =
      (writes_to w.key log).length := by
    cases hentry : s (.Entry w.category w.name) with
    | none =>
        rw [writes_to_eq_nil_iff.mpr ((hs.absent w.category w.name).mp hentry)]
        rfl
    | some old => exact (hs.entry _ _ old hentry).version
  constructor
  · rw [hkeys, first_set_concat, ← hs.keys]
    by_cases hmem : w.key ∈ (s .ConfigKeys).getD []
    · rw [if_pos hmem, if_pos hmem]
    · rw [if_neg hmem, if_neg hmem, Option.getD_some]
  · intro category name
    rw [mem_first_set, List.map_append, List.mem_append, List.map_singleton, List.mem_singleton]
    by_cases heq : (category, name) = w.key
    · cases heq
      simp [he]
    · rw [hothers (.Entry category name) rfl (by simpa using heq), hs.absent, mem_first_set]
      simp [heq]
  · intro category name e' he'
    by_cases heq : (category, name) = w.key
    · cases heq
      obtain rfl : e = e' := Option.some.inj (he.symm.trans he')
      refine ⟨hpair, ⟨w, ?_, hvalue⟩, ?_⟩
      · rw [writes_to_concat_self, List.getLast?_concat]
      · rw [writes_to_concat_self, List.length_append, List.length_singleton,
          hversion, hold]
    · rw [hothers (.Entry category name) rfl (by simpa using heq)] at he'
      obtain ⟨hpair, hlast, hversion⟩ := hs.entry category name e' he'
      rw [← writes_to_concat_of_ne (w := w) (Ne.symm heq)] at hlast hversion
      exact ⟨hpair, hlast, hversion⟩

/-- The writes of a bulk, in their order. -/
theorem Configured.set_configs {updates : List BulkConfigUpdate} (hs : Configured s log)
    (h : (updates.foldlM (fun _ u => Contract.set_config caller u.category u.name u.value u.description)
      () : Soroban Unit) env s = .ok (u, s')) : Configured s' (log ++ updates) := by
  induction updates generalizing s log with
  | nil =>
      obtain ⟨-, rfl⟩ := pure_eq_ok.mp h
      rwa [List.append_nil]
  | cons _ _ ih =>
      rw [List.foldlM_cons] at h
      obtain ⟨_, s₁, hfirst, hrest⟩ := bind_eq_ok.mp h
      rw [List.append_cons]
      exact ih (hs.set_config hfirst) hrest

/-- The defaults whose pairs have no entry yet. -/
theorem Configured.set_absent {defaults : List BulkConfigUpdate} (hs : Configured s log)
    (hnodup : (defaults.map BulkConfigUpdate.key).Nodup)
    (h : (defaults.foldlM (fun _ u => set_if_absent caller u) () : Soroban Unit) env s = .ok (u, s')) :
    Configured s' (log ++ defaults.filter fun u => s (.Entry u.category u.name) = none) := by
  induction defaults generalizing s log with
  | nil =>
      obtain ⟨-, rfl⟩ := pure_eq_ok.mp h
      rwa [List.filter_nil, List.append_nil]
  | cons _ defaults ih =>
      rw [List.map_cons, List.nodup_cons] at hnodup
      rw [List.foldlM_cons] at h
      obtain ⟨_, s₁, hfirst, hrest⟩ := bind_eq_ok.mp h
      simp only [set_if_absent, bind_eq_ok, load_eq_ok, exec_if_eq_ok, and_assoc, exists_and_left,
        exists_eq_left] at hfirst
      rcases hfirst with ⟨hnone, hset⟩ | ⟨hsome, rfl⟩
      · have hothers := (set_config_spec hset).2.1
        -- the pairs of the other defaults are untouched
        have hsame : (defaults.filter fun u => s₁ (.Entry u.category u.name) = none) =
            defaults.filter fun u => s (.Entry u.category u.name) = none := by
          apply List.filter_congr
          intro v hv
          rw [hothers (.Entry v.category v.name) rfl]
          intro heq
          apply hnodup.1
          rw [List.mem_map]
          exact ⟨v, hv, by simpa using heq⟩
        rw [List.filter_cons_of_pos (by simpa using hnone), List.append_cons, ← hsame]
        exact ih (hs.set_config hset) hnodup.2 hrest
      · rw [List.filter_cons_of_neg (by simpa using hsome)]
        exact ih hs hnodup.2 hrest

/-- The checks of a bulk write nothing. -/
theorem set_config_bulk_loop [Host] {updates : List BulkConfigUpdate}
    (h : set_config_bulk caller updates env s = .ok (u, s')) :
    (updates.foldlM (fun _ u => set_config caller u.category u.name u.value u.description) () : Soroban Unit) env s =
      .ok (u, s') := by
  simp only [set_config_bulk, bind_eq_ok, reads_eq_ok, panic_if_eq_ok, and_assoc,
    exists_and_left, exists_eq_left, exists_const] at h
  obtain ⟨-, _, s₁, hpause, _, s₂, htransfer, _, s₃, hguard, -, -, hloop⟩ := h
  obtain rfl : s₁ = s := Writes.store_eq inferInstance hpause
  obtain rfl : s₂ = s₁ := Writes.store_eq inferInstance htransfer
  obtain rfl : s₃ = s₂ := Writes.store_eq inferInstance hguard
  exact hloop

theorem init_default_config_loop [Host] (h : init_default_config caller env s = .ok (u, s')) :
    (default_config.foldlM (fun _ u => set_if_absent caller u) () : Soroban Unit) env s = .ok (u, s') := by
  simp only [init_default_config, bind_eq_ok, reads_eq_ok, panic_if_eq_ok, and_assoc,
    exists_and_left, exists_eq_left, exists_const] at h
  obtain ⟨-, _, s₁, hpause, _, s₂, hguard, hloop⟩ := h
  obtain rfl : s₁ = s := Writes.store_eq inferInstance hpause
  obtain rfl : s₂ = s₁ := Writes.store_eq inferInstance hguard
  exact hloop

end Steps

/-! ## Runs -/

section Runs

variable [Host]

/-- **Step.** -/
theorem Configured.step {s s' : Storage} {t : Invocation} {log : List BulkConfigUpdate}
    (hs : Configured s log) (h : exec t.2 t.1 s = .ok ((), s')) :
    Configured s' (log ++ config_writes s t) := by
  obtain ⟨env, call⟩ := t
  cases call with
  | set_config _ category name value description =>
      exact hs.set_config (w := { category, name, value, description }) h
  | set_config_bulk =>
      exact hs.set_configs (set_config_bulk_loop h)
  | init_default_config =>
      exact hs.set_absent (by decide) (init_default_config_loop h)
  | _ =>
      change Configured s' (log ++ [])
      rw [List.append_nil]
      apply hs.congr
      · exact exec_frame h (by dsimp only [writes]; decide)
      · intro category name
        exact exec_frame h (show Tag.Entry ∉ _ by dsimp only [writes]; decide)

/-- What a run has written to the configuration. -/
abbrev config_log (calls : List Invocation) : List BulkConfigUpdate :=
  collect exec config_writes empty_storage calls

/-- **The configuration refines the log of its writes**, in every run. -/
theorem configured_run (calls : List Invocation) :
    Configured (run empty_storage calls) (config_log calls) := by
  have hempty : Configured empty_storage [] := by
    constructor
    · rfl
    · intro category name
      exact iff_of_true rfl List.not_mem_nil
    · intro category name e he
      cases he
  exact run_collect_invariant (C := fun _ _ => True) (fun hs _ h => hs.step h) hempty
    (Along.of_forall fun _ _ _ => trivial)

omit [Host] in
theorem config_keys_not_mem (call : EntryPoint) : Tag.CONFIG_KEYS ∉ writes call := by
  cases call <;> exact of_decide_eq_true rfl

/-- Nothing is ever written under the constant. -/
theorem config_keys_run (calls : List Invocation) : run empty_storage calls .CONFIG_KEYS = none := by
  have hstep {s : Storage} {t : Invocation} {s' : Storage} (hs : s .CONFIG_KEYS = none) (_ : True)
      (h : exec t.2 t.1 s = .ok ((), s')) : s' .CONFIG_KEYS = none := by
    rw [exec_frame h (k := .CONFIG_KEYS) (config_keys_not_mem t.2)]
    exact hs
  exact run_invariant hstep rfl (Along.of_forall (C := fun _ _ => True) fun _ _ _ => trivial)

/-- The export has one entry for every pair of the log, in the order of their first writes, each the
entry of its pair, with the last value and the number of writes. -/
def ExportComplete (s : Storage) (log : List BulkConfigUpdate) : Prop :=
  ∀ env, ∃ config_export, get_all_configs env s = .ok (config_export, s) ∧
    config_export.entries.map (fun e => (e.category, e.name)) = first_set log ∧
      ∀ e ∈ config_export.entries, get_config e.category e.name env s = .ok (some e, s) ∧
        EntryOf (e.category, e.name) log e

/-- **The export of the configuration** is complete if and only if nothing has been written. -/
theorem export_complete_iff (calls : List Invocation) :
    ExportComplete (run empty_storage calls) (config_log calls) ↔ config_log calls = [] := by
  have hexport (env : Env) : get_all_configs env (run empty_storage calls) =
      .ok ({ entries := [], total := 0, exported_at := env.timestamp }, run empty_storage calls) :=
    get_all_configs_of_none (config_keys_run calls)
  constructor
  · intro h
    obtain ⟨config_export, hok, hpairs, -⟩ := h { timestamp := 0, auth := fun _ => false }
    rw [hexport, Except.ok.injEq, Prod.mk.injEq] at hok
    rw [← hok.1, List.map_nil] at hpairs
    exact first_set_eq_nil_iff.mp hpairs.symm
  · intro h env
    refine ⟨_, hexport env, ?_, ?_⟩
    · rw [h]
      rfl
    · intro e he
      exact absurd he List.not_mem_nil

end Runs

/-! ## A concrete run -/

/-- Two parameters are set. -/
def configured_calls : List Invocation :=
  [(mock_all_auths 1, .initialize_contract (test_address 0)),
    (mock_all_auths 1, .set_config (test_address 0) .Limits (str "max_monitored_assets") 100
      (str "Max assets")),
    (mock_all_auths 1, .set_config (test_address 0) .Limits (str "max_batch_size") 50
      (str "Max batch"))]

/-- **An export without entries**, of a configuration with two of them. -/
theorem empty_export :
    ∃ (_ : Host), ¬ExportComplete (run empty_storage configured_calls) (config_log configured_calls) := by
  let _ : Host := lengthHost
  refine ⟨lengthHost, fun h => ?_⟩
  obtain ⟨config_export, hok, hpairs, -⟩ := h (mock_all_auths 2)
  rw [get_all_configs_of_none (config_keys_run _), Except.ok.injEq, Prod.mk.injEq] at hok
  rw [← hok.1] at hpairs
  exact absurd hpairs (by decide +kernel)

end BridgeWatch.Contract

/-
The namespace of symbols of the asset registry.

What says whose a symbol is, is kept beside the metadata, and only a registration and an update of the metadata move
it, so the two agree. Which asset a bridge carries under a symbol is noted when the bridge is linked, and a renaming
does not move it. A renaming to the same symbol is one under another issuer, and the symbol is not given to that.
-/
import BridgeWatch.RegistryCalls

set_option autoImplicit false

namespace BridgeWatch.AssetRegistry

open Transaction
open Contract (U32 U64 SString Address Env str)

variable {env : Env} {s s' : RegistryStorage} {caller : Address} {asset_code symbol issuer : SString}

/-! ## What agrees in every run -/

/-- The bridge's association is among the asset's. -/
def OnBridge (s : RegistryStorage) (asset_code bridge_id : SString) : Prop :=
  ∃ b ∈ (s (.BridgeAssocs asset_code)).getD [], b.bridge_id = bridge_id

/-- Whose a symbol is agrees with the metadata, and what a bridge carries with the associations. -/
structure Consistent (s : RegistryStorage) : Prop where
  owned : ∀ asset_code m, s (.AssetMeta asset_code) = some m →
    s (.CanonicalSymbol m.symbol) = some ⟨m.symbol, m.issuer, asset_code⟩
  held : ∀ symbol e, s (.CanonicalSymbol symbol) = some e →
    ∃ m, s (.AssetMeta e.asset_code) = some m ∧ m.symbol = symbol
  carried : ∀ bridge_id symbol asset_code, s (.BridgeSymbol bridge_id symbol) = some asset_code →
    (∃ m, s (.AssetMeta asset_code) = some m) ∧ OnBridge s asset_code bridge_id

/-- The issuers of assets that are not native are accounts. -/
def IssuersValid (s : RegistryStorage) : Prop :=
  ∀ asset_code m, s (.AssetMeta asset_code) = some m → m.category ≠ .Native → is_valid_account_strkey m.issuer = true

/-- What a bridge carries under a symbol has that symbol. -/
def SymbolsCurrent (s : RegistryStorage) : Prop :=
  ∀ bridge_id symbol asset_code, s (.BridgeSymbol bridge_id symbol) = some asset_code →
    ∃ m, s (.AssetMeta asset_code) = some m ∧ m.symbol = symbol

/-- The call takes no native asset without an account for its issuer into another category. -/
def KeepsIssuers (s : RegistryStorage) (t : Env × EntryPoint) : Prop :=
  ∀ admin asset_code new_category m, t.2 = .update_category admin asset_code new_category →
    s (.AssetMeta asset_code) = some m → m.category = .Native → new_category ≠ .Native →
      is_valid_account_strkey m.issuer = true

/-- The call gives no other symbol to an asset that is on a bridge. -/
def KeepsSymbols (s : RegistryStorage) (t : Env × EntryPoint) : Prop :=
  ∀ admin asset_code name symbol issuer description url change_reason m,
    t.2 = .update_metadata admin asset_code name symbol issuer description url change_reason →
      s (.AssetMeta asset_code) = some m → m.symbol ≠ symbol → ∀ bridge_id, ¬OnBridge s asset_code bridge_id

section Runs

variable {call : EntryPoint} {calls : List (Env × EntryPoint)} {a b : SString} {m m' : AssetMetadata}

/-- No two assets have the same symbol. -/
theorem Consistent.symbol_inj (hs : Consistent s) (ha : s (.AssetMeta a) = some m) (hb : s (.AssetMeta b) = some m')
    (h : m.symbol = m'.symbol) : a = b := by
  have howner := hs.owned a m ha
  rw [h, hs.owned b m' hb, Option.some.injEq, CanonicalSymbolEntry.mk.injEq] at howner
  exact howner.2.2.symm

theorem on_bridge_congr {bridge_id : SString} (h : s' (.BridgeAssocs a) = s (.BridgeAssocs a)) :
    OnBridge s' a bridge_id ↔ OnBridge s a bridge_id := by rw [OnBridge, h, OnBridge]

theorem consistent_empty : Consistent empty_storage := by
  constructor
  · intro asset_code m h
    cases h
  · intro symbol e h
    cases h
  · intro bridge_id symbol asset_code h
    cases h

/-- A symbol that may be taken is nobody else's. -/
theorem Consistent.free (hs : Consistent s) (ha : s (.AssetMeta a) = some m)
    (hfree : ∀ e, s (.CanonicalSymbol symbol) = some e → e.issuer = issuer ∧ e.asset_code = asset_code)
    (hne : a ≠ asset_code) : m.symbol ≠ symbol := by
  rintro rfl
  exact hne (hfree _ (hs.owned a m ha)).2

/-- What agrees depends only on the namespace. -/
theorem Consistent.congr (hs : Consistent s)
    (h : ∀ key, DataKey.tag key ∈ [DataTag.Meta, .Symbol, .Bridge] → s' key = s key) : Consistent s' := by
  have hmeta : ∀ a, s' (.AssetMeta a) = s (.AssetMeta a) := fun a => h _ (by simp)
  constructor
  · intro a m ha
    rw [h _ (by simp)]
    exact hs.owned a m (hmeta a ▸ ha)
  · intro symbol e he
    rw [hmeta]
    rw [h _ (by simp)] at he
    exact hs.held symbol e he
  · intro bridge_id symbol a ha
    rw [hmeta, on_bridge_congr (h _ (by simp))]
    rw [h _ (by simp)] at ha
    exact hs.carried bridge_id symbol a ha

/-- What agrees where one asset's metadata changes but not its symbol and its issuer. -/
theorem Consistent.revised (hs : Consistent s) (h : Revised s s' call asset_code m m') : Consistent s' := by
  have hframe : ∀ key, key ≠ .AssetMeta asset_code → DataKey.tag key ∈ [DataTag.Meta, .Symbol, .Bridge] →
      s' key = s key := by
    intro key hkey htag
    refine h.saved.frame key hkey ?_ ?_
    · rintro rfl
      simp at htag
    · intro hmem
      cases hcase : DataKey.tag key <;> simp [hcase] at htag hmem
  have hmeta : ∀ a n, s' (.AssetMeta a) = some n →
      ∃ n', s (.AssetMeta a) = some n' ∧ n.symbol = n'.symbol ∧ n.issuer = n'.issuer := by
    intro a n hn
    by_cases heq : a = asset_code
    · subst heq
      obtain rfl : m' = n := Option.some.inj (h.saved.saved.symm.trans hn)
      exact ⟨m, h.loaded, h.same.2⟩
    · rw [hframe _ (by simpa using heq) (by simp)] at hn
      exact ⟨n, hn, rfl, rfl⟩
  have hkeeps : ∀ a n, s (.AssetMeta a) = some n → ∃ n', s' (.AssetMeta a) = some n' ∧ n'.symbol = n.symbol := by
    intro a n hn
    by_cases heq : a = asset_code
    · subst heq
      obtain rfl : m = n := Option.some.inj (h.loaded.symm.trans hn)
      exact ⟨m', h.saved.saved, h.same.2.1⟩
    · exact ⟨n, by rw [hframe _ (by simpa using heq) (by simp), hn], rfl⟩
  constructor
  · intro a n hn
    obtain ⟨n', hn', hsymbol, hissuer⟩ := hmeta a n hn
    rw [hframe _ (by simp) (by simp), hsymbol, hissuer]
    exact hs.owned a n' hn'
  · intro symbol e he
    rw [hframe _ (by simp) (by simp)] at he
    obtain ⟨n, hn, hsymbol⟩ := hs.held symbol e he
    obtain ⟨n', hn', hsame⟩ := hkeeps _ n hn
    exact ⟨n', hn', hsame.trans hsymbol⟩
  · intro bridge_id symbol a ha
    rw [hframe _ (by simp) (by simp)] at ha
    obtain ⟨⟨n, hn⟩, hbridge⟩ := hs.carried bridge_id symbol a ha
    obtain ⟨n', hn', -⟩ := hkeeps a n hn
    exact ⟨⟨n', hn'⟩, (on_bridge_congr (hframe _ (by simp) (by simp))).mpr hbridge⟩

theorem consistent_step (hs : Consistent s) (h : Outcome s s' call) : Consistent s' := by
  cases h with
  | kept hframe => exact hs.congr fun key hkey => hframe key (by rintro h; simp [h] at hkey)
  | initialized _ _ hframe =>
      refine hs.congr fun key hkey => hframe key ?_ ?_ <;> rintro rfl <;> simp at hkey
  | @registered _ asset_code _ symbol _ _ _ _ _ m _ hnew _ hfree hm hmeta hsymbol _ _ _ _ _ hframe =>
      have hother : ∀ a, a ≠ asset_code → s' (.AssetMeta a) = s (.AssetMeta a) := fun a ha =>
        hframe _ (by simpa using ha) (by simp) (by simp) (by simp) (by simp)
      -- An asset that was registered before is another one.
      have hne : ∀ a n, s (.AssetMeta a) = some n → a ≠ asset_code := by
        rintro a n hn rfl
        rw [hnew] at hn
        cases hn
      constructor
      · intro a n hn
        by_cases ha : a = asset_code
        · subst ha
          obtain rfl : m = n := Option.some.inj (hmeta.symm.trans hn)
          rw [hm]
          exact hsymbol
        · rw [hother a ha] at hn
          rw [hframe _ (by simp) (by simpa using hs.free hn hfree ha) (by simp) (by simp) (by simp)]
          exact hs.owned a n hn
      · intro x e he
        by_cases hx : x = symbol
        · subst hx
          rw [hsymbol, Option.some.injEq] at he
          subst he
          exact ⟨m, hmeta, by rw [hm, new_metadata]⟩
        · rw [hframe _ (by simp) (by simpa using hx) (by simp) (by simp) (by simp)] at he
          obtain ⟨n, hn, hsame⟩ := hs.held x e he
          exact ⟨n, by rw [hother _ (hne _ n hn), hn], hsame⟩
      · intro bridge_id x a ha
        rw [hframe _ (by simp) (by simp) (by simp) (by simp) (by simp)] at ha
        obtain ⟨⟨n, hn⟩, hbridge⟩ := hs.carried bridge_id x a ha
        have hassociations : s' (.BridgeAssocs a) = s (.BridgeAssocs a) :=
          hframe _ (by simp) (by simp) (by simpa using hne a n hn) (by simp) (by simp)
        exact ⟨⟨n, by rw [hother _ (hne a n hn), hn]⟩, (on_bridge_congr hassociations).mpr hbridge⟩
  | @renamed _ asset_code _ symbol _ _ _ _ m m' hload _ hfree hm _ hreleased hsymbol hframe hsaved =>
      have hother : ∀ a, a ≠ asset_code → s' (.AssetMeta a) = s (.AssetMeta a) := fun a ha =>
        hsaved.frame _ (by simpa using ha) (by simp) (by simp)
      constructor
      · intro a n hn
        by_cases ha : a = asset_code
        · subst ha
          obtain rfl : m' = n := Option.some.inj (hsaved.saved.symm.trans hn)
          rw [hm.1, hm.2.1, hsymbol]
        · rw [hother a ha] at hn
          have hold : n.symbol ≠ m.symbol := fun h => ha (hs.symbol_inj hn hload h)
          rw [hframe _ (hs.free hn hfree ha) hold]
          exact hs.owned a n hn
      · intro x e he
        by_cases hx : x = symbol
        · subst hx
          rw [hsymbol, Option.some.injEq] at he
          subst he
          exact ⟨m', hsaved.saved, hm.1⟩
        · by_cases hold : x = m.symbol
          · subst hold
            rw [hreleased hx] at he
            cases he
          · rw [hframe x hx hold] at he
            obtain ⟨n, hn, hsame⟩ := hs.held x e he
            refine ⟨n, ?_, hsame⟩
            rw [hother _ ?_, hn]
            intro hcode
            rw [hcode, hload, Option.some.injEq] at hn
            exact hold (by rw [hn, hsame])
      · intro bridge_id x a ha
        rw [hsaved.frame _ (by simp) (by simp) (by simp)] at ha
        obtain ⟨⟨n, hn⟩, hbridge⟩ := hs.carried bridge_id x a ha
        refine ⟨?_, (on_bridge_congr (hsaved.frame _ (by simp) (by simp) (by simp))).mpr hbridge⟩
        by_cases hcode : a = asset_code
        · exact ⟨m', by rw [hcode, hsaved.saved]⟩
        · exact ⟨n, by rw [hother a hcode, hn]⟩
  | revised hrevised => exact hs.revised hrevised
  | @linked _ asset_code bridge_id _ _ _ m bridge hload hsymbol hbridges hb hframe =>
      have hmeta : ∀ a, s' (.AssetMeta a) = s (.AssetMeta a) := fun a => hframe _ (by simp) (by simp)
      -- An association is added, and none is lost.
      have hon : ∀ a id, OnBridge s a id → OnBridge s' a id := by
        rintro a id ⟨b, hmem, hid⟩
        by_cases ha : a = asset_code
        · subst ha
          exact ⟨b, by rw [hbridges]; exact List.mem_append_left _ hmem, hid⟩
        · exact ⟨b, by rwa [hframe _ (by simp) (by simpa using ha)], hid⟩
      constructor
      · intro a n hn
        rw [hmeta] at hn
        rw [hframe _ (by simp) (by simp)]
        exact hs.owned a n hn
      · intro x e he
        rw [hframe _ (by simp) (by simp)] at he
        rw [hmeta]
        exact hs.held x e he
      · intro id x a ha
        rw [hmeta]
        by_cases hkey : id = bridge_id ∧ x = m.symbol
        · obtain ⟨rfl, rfl⟩ := hkey
          obtain rfl : asset_code = a := Option.some.inj (hsymbol.symm.trans ha)
          refine ⟨⟨m, hload⟩, bridge, ?_, hb⟩
          rw [hbridges]
          exact List.mem_append_right _ (List.mem_singleton.mpr rfl)
        · rw [hframe _ (by simpa using hkey) (by simp)] at ha
          obtain ⟨hregistered, hbridge⟩ := hs.carried id x a ha
          exact ⟨hregistered, hon a id hbridge⟩

/-- Issuers stay accounts where no native asset leaves its category without one. -/
theorem issuers_step {env : Env} (hs : IssuersValid s) (hkeeps : KeepsIssuers s (env, call))
    (h : Outcome s s' call) : IssuersValid s' := by
  intro a n hn hcategory
  cases h with
  | kept hframe =>
      rw [hframe _ (by simp)] at hn
      exact hs a n hn hcategory
  | initialized _ _ hframe | linked _ _ _ _ hframe =>
      rw [hframe _ (by simp) (by simp)] at hn
      exact hs a n hn hcategory
  | @registered _ asset_code _ _ _ _ _ _ _ m _ _ hissuer _ hm hmeta _ _ _ _ _ _ hframe =>
      by_cases ha : a = asset_code
      · subst ha
        obtain rfl : m = n := Option.some.inj (hmeta.symm.trans hn)
        rw [hm] at hcategory ⊢
        exact hissuer hcategory
      · rw [hframe _ (by simpa using ha) (by simp) (by simp) (by simp) (by simp)] at hn
        exact hs a n hn hcategory
  | @renamed _ asset_code _ _ _ _ _ _ _ m' _ hissuer _ hm _ _ _ _ hsaved =>
      by_cases ha : a = asset_code
      · subst ha
        obtain rfl : m' = n := Option.some.inj (hsaved.saved.symm.trans hn)
        rw [hm.2.1]
        exact hissuer (hm.2.2.1 ▸ hcategory)
      · rw [hsaved.frame _ (by simpa using ha) (by simp) (by simp)] at hn
        exact hs a n hn hcategory
  | @revised _ asset_code m m' hrevised =>
      by_cases ha : a = asset_code
      · subst ha
        obtain rfl : m' = n := Option.some.inj (hrevised.saved.saved.symm.trans hn)
        rw [hrevised.same.2.2]
        by_cases hnative : m.category = .Native
        · obtain ⟨hsame, -⟩ | ⟨⟨admin, hcall⟩, -⟩ := hrevised.category
          · exact absurd (hsame.trans hnative) hcategory
          · exact hkeeps admin a _ m hcall hrevised.loaded hnative hcategory
        · exact hs a m hrevised.loaded hnative
      · rw [hrevised.saved.frame _ (by simpa using ha) (by simp) (by simp)] at hn
        exact hs a n hn hcategory

/-- What bridges carry stays current where an asset keeps its symbol once it is on a bridge. -/
theorem symbols_step {env : Env} (hs : Consistent s) (hcurrent : SymbolsCurrent s)
    (hkeeps : KeepsSymbols s (env, call)) (h : Outcome s s' call) : SymbolsCurrent s' := by
  intro id x a ha
  cases h with
  | kept hframe =>
      rw [hframe _ (by simp)] at ha ⊢
      exact hcurrent id x a ha
  | initialized _ _ hframe =>
      rw [hframe _ (by simp) (by simp)] at ha ⊢
      exact hcurrent id x a ha
  | @registered _ asset_code _ _ _ _ _ _ _ _ _ hnew _ _ _ _ _ _ _ _ _ _ hframe =>
      rw [hframe _ (by simp) (by simp) (by simp) (by simp) (by simp)] at ha
      obtain ⟨n, hn, hsame⟩ := hcurrent id x a ha
      have hne : a ≠ asset_code := by
        rintro rfl
        rw [hnew] at hn
        cases hn
      exact ⟨n, by rw [hframe _ (by simpa using hne) (by simp) (by simp) (by simp) (by simp), hn], hsame⟩
  | @renamed _ asset_code _ symbol _ _ _ _ m m' hload _ _ hm _ _ _ _ hsaved =>
      rw [hsaved.frame _ (by simp) (by simp) (by simp)] at ha
      obtain ⟨n, hn, hsame⟩ := hcurrent id x a ha
      by_cases hcode : a = asset_code
      · subst hcode
        obtain rfl : m = n := Option.some.inj (hload.symm.trans hn)
        have hsymbols : m.symbol = symbol := by
          by_contra hne
          exact hkeeps _ _ _ _ _ _ _ _ m rfl hload hne id (hs.carried id x a ha).2
        exact ⟨m', hsaved.saved, by rw [hm.1, ← hsymbols, hsame]⟩
      · exact ⟨n, by rw [hsaved.frame _ (by simpa using hcode) (by simp) (by simp), hn], hsame⟩
  | @revised _ asset_code m m' hrevised =>
      rw [hrevised.saved.frame _ (by simp) (by simp) (by simp)] at ha
      obtain ⟨n, hn, hsame⟩ := hcurrent id x a ha
      by_cases hcode : a = asset_code
      · subst hcode
        obtain rfl : m = n := Option.some.inj (hrevised.loaded.symm.trans hn)
        exact ⟨m', hrevised.saved.saved, hrevised.same.2.1.trans hsame⟩
      · exact ⟨n, by rw [hrevised.saved.frame _ (by simpa using hcode) (by simp) (by simp), hn], hsame⟩
  | @linked _ asset_code bridge_id _ _ _ m _ hload hsymbol _ _ hframe =>
      rw [hframe (.AssetMeta a) (by simp) (by simp)]
      by_cases hkey : id = bridge_id ∧ x = m.symbol
      · obtain ⟨rfl, rfl⟩ := hkey
        obtain rfl : asset_code = a := Option.some.inj (hsymbol.symm.trans ha)
        exact ⟨m, hload, rfl⟩
      · rw [hframe _ (by simpa using hkey) (by simp)] at ha
        exact hcurrent id x a ha

theorem run_consistent (calls : List (Env × EntryPoint)) : Consistent (run empty_storage calls) := by
  have hstep : ∀ {s : RegistryStorage} {t : Env × EntryPoint} {s'}, Consistent s → True →
      exec t.2 t.1 s = .ok ((), s') → Consistent s' := fun hs _ hok => consistent_step hs (outcome_of_exec hok)
  exact run_invariant (C := fun _ _ => True) hstep consistent_empty (Along.of_forall fun _ _ _ => trivial)

theorem run_issuers (h : Along exec KeepsIssuers empty_storage calls) : IssuersValid (run empty_storage calls) := by
  have hstep : ∀ {s t s'}, IssuersValid s → KeepsIssuers s t → exec t.2 t.1 s = .ok ((), s') → IssuersValid s' :=
    fun hs hkeeps hok => issuers_step hs hkeeps (outcome_of_exec hok)
  refine run_invariant hstep ?_ h
  intro a m hm
  cases hm

theorem run_symbols (h : Along exec KeepsSymbols empty_storage calls) : SymbolsCurrent (run empty_storage calls) := by
  have hstep : ∀ {s t s'}, Consistent s ∧ SymbolsCurrent s → KeepsSymbols s t → exec t.2 t.1 s = .ok ((), s') →
      Consistent s' ∧ SymbolsCurrent s' := fun hs hkeeps hok =>
    ⟨consistent_step hs.1 (outcome_of_exec hok), symbols_step hs.1 hs.2 hkeeps (outcome_of_exec hok)⟩
  refine (run_invariant hstep ⟨consistent_empty, ?_⟩ h).2
  intro id x a ha
  cases ha

end Runs

/-! ## What a symbol is refused for -/

/-- The message is not that of a duplicate, or `P` holds. -/
def RefusedOnly (P : Prop) (msg : String) : Prop :=
  msg = RegistryError.DuplicateAssetRegistrationRejected.text → P

section Refusals

variable {P : Prop}

@[simp] theorem refused_only_text {e : RegistryError} :
    RefusedOnly P e.text ↔ (e = .DuplicateAssetRegistrationRejected → P) := by
  have htext : e.text = RegistryError.DuplicateAssetRegistrationRejected.text ↔
      e = .DuplicateAssetRegistrationRejected := by
    cases e <;> decide
  rw [RefusedOnly, htext]

theorem refused_only_of_ne {msg : String} (h : msg ≠ RegistryError.DuplicateAssetRegistrationRejected.text) :
    RefusedOnly P msg := fun heq => absurd heq h

@[simp] theorem refused_only_require_auth :
    FailsOnly (RefusedOnly P) (HostCalls.require_auth caller : Registry Unit) env s := by
  simp only [HostCalls.require_auth, fails_only_bind, fails_only_reads, fails_only_panic_if, true_and]
  exact fun _ _ _ _ => refused_only_of_ne (by decide)

@[simp] theorem refused_only_succ_u32 {x : U32} : FailsOnly (RefusedOnly P) (succ_u32 x) env s := by
  simp only [succ_u32, HostCalls.checked_add_u32, fails_only_bind, fails_only_pure, fails_only_panic_if,
    implies_true, and_true]
  exact fun _ => refused_only_of_ne (by decide)

@[simp] theorem refused_only_push_back {α : Type} {values : List α} {value : α} :
    FailsOnly (RefusedOnly P) (HostCalls.push_back values value : Registry (List α)) env s := by
  simp only [HostCalls.push_back, fails_only_bind, fails_only_pure, fails_only_panic_if, implies_true, and_true]
  exact fun _ => refused_only_of_ne (by decide)

@[simp] theorem refused_only_require_admin : FailsOnly (RefusedOnly P) (require_admin caller) env s := by
  simp [require_admin, ok_or, err_if]

@[simp] theorem refused_only_get_asset_or_err :
    FailsOnly (RefusedOnly P) (get_asset_or_err asset_code) env s := by
  simp [get_asset_or_err, ok_or]

@[simp] theorem is_asset_frozen_eq_ok {frozen : Bool} :
    is_asset_frozen asset_code env s = .ok (frozen, s') ↔
      frozen = ((s (.Frozen asset_code)).map FrozenAsset.is_frozen).getD false ∧ s' = s := by
  simp only [is_asset_frozen, bind_eq_ok, load_eq_ok, pure_eq_ok, and_assoc, exists_and_left, exists_eq_left]

@[simp] theorem refused_only_is_asset_frozen : FailsOnly (RefusedOnly P) (is_asset_frozen asset_code) env s := by
  simp only [is_asset_frozen, fails_only_bind, fails_only_load, fails_only_pure, implies_true, and_self]

@[simp] theorem refused_only_validate_issuer {category : AssetCategory} :
    FailsOnly (RefusedOnly P) (validate_issuer category issuer) env s := by
  simp [validate_issuer, err_if]

@[simp] theorem refused_only_save_with_version {metadata : AssetMetadata} {reason : SString} {now : U64} :
    FailsOnly (RefusedOnly P) (save_with_version asset_code metadata caller reason now) env s := by
  simp [save_with_version]

/-- A symbol is refused when it is another issuer's or another asset's. -/
@[simp] theorem refused_only_check_symbol_conflict :
    FailsOnly (RefusedOnly P) (check_symbol_conflict symbol issuer asset_code) env s ↔
      ∀ e, s (.CanonicalSymbol symbol) = some e → e.issuer ≠ issuer ∨ e.asset_code ≠ asset_code → P := by
  cases hload : s (.CanonicalSymbol symbol) with
  | none => simp [check_symbol_conflict, hload]
  | some => simp [check_symbol_conflict, err_if, hload]

@[simp] theorem refused_only_require_asset_exists :
    FailsOnly (RefusedOnly P) (require_asset_exists asset_code) env s := by
  simp [require_asset_exists, err_if]

@[simp] theorem refused_only_remove {key : DataKey} :
    FailsOnly (RefusedOnly P) (remove key : Registry Unit) env s := nofun

@[simp] theorem refused_only_list_asset {category : AssetCategory} :
    FailsOnly (RefusedOnly P) (list_asset asset_code category) env s := by
  simp [list_asset, add_to_category, add_to_status, add_to_index]

@[simp] theorem refused_only_move_status {metadata : AssetMetadata} {old new : AssetStatus} {reason : SString} :
    FailsOnly (RefusedOnly P) (move_status caller metadata asset_code old new reason) env s := by
  simp [move_status, add_to_status, add_to_index, remove_from_status, remove_from_index]

end Refusals

/-- What a call that is refused a symbol has found. -/
def Justified (s : RegistryStorage) : EntryPoint → Prop
  | .register_asset _ asset_code _ symbol _ _ _ _ _ =>
    ∃ a m, a ≠ asset_code ∧ s (.AssetMeta a) = some m ∧ m.symbol = symbol
  | .update_metadata _ asset_code _ symbol issuer _ _ _ =>
    (∃ a m, a ≠ asset_code ∧ s (.AssetMeta a) = some m ∧ m.symbol = symbol) ∨
      ∃ m, s (.AssetMeta asset_code) = some m ∧ m.symbol = symbol ∧ m.issuer ≠ issuer
  | .link_bridge_contract _ asset_code bridge_id _ _ _ =>
    ∃ a m n, a ≠ asset_code ∧ s (.AssetMeta a) = some m ∧ OnBridge s a bridge_id ∧
      s (.AssetMeta asset_code) = some n ∧ s (.BridgeSymbol bridge_id n.symbol) = some a
  | _ => False

section Justification

variable {call : EntryPoint}

/-- A symbol that somebody holds is held by the asset that it names. -/
theorem Consistent.holder (hs : Consistent s) {e : CanonicalSymbolEntry} (he : s (.CanonicalSymbol symbol) = some e) :
    ∃ m, s (.AssetMeta e.asset_code) = some m ∧ m.symbol = symbol ∧ e = ⟨symbol, m.issuer, e.asset_code⟩ := by
  obtain ⟨m, hm, hsymbol⟩ := hs.held symbol e he
  have howned := hs.owned e.asset_code m hm
  rw [hsymbol, he, Option.some.injEq] at howned
  exact ⟨m, hm, hsymbol, howned⟩

theorem register_asset_refused {name description url : SString} {decimals : U32} {category : AssetCategory}
    (hs : Consistent s) :
    FailsOnly (RefusedOnly (∃ a m, a ≠ asset_code ∧ s (.AssetMeta a) = some m ∧ m.symbol = symbol))
      (register_asset caller asset_code name symbol issuer decimals category description url) env s := by
  simp only [register_asset, set_canonical_symbol, initialize_associations, fails_only_bind,
    refused_only_require_admin, require_admin_eq_ok, fails_only_load, load_eq_ok, fails_only_panic_if,
    refused_only_text, reduceCtorEq, IsEmpty.forall_iff, implies_true, panic_if_eq_ok, refused_only_validate_issuer,
    validate_issuer_eq_ok, refused_only_check_symbol_conflict, fails_only_save, save_eq_ok, fails_only_reads,
    reads_eq_ok, refused_only_list_asset, and_self, and_true, true_and, and_imp, forall_eq_apply_imp_iff, forall_const,
    forall_eq]
  rintro _ - - rfl - hnew - e he -
  obtain ⟨m, hm, hsymbol, -⟩ := hs.holder he
  refine ⟨e.asset_code, m, ?_, hm, hsymbol⟩
  -- The new asset was not registered, so it is not the one that holds the symbol.
  intro hcode
  rw [hcode] at hm
  exact hnew (by rw [hm, Option.isSome_some])

theorem update_metadata_refused {name description url change_reason : SString} (hs : Consistent s) :
    FailsOnly (RefusedOnly ((∃ a m, a ≠ asset_code ∧ s (.AssetMeta a) = some m ∧ m.symbol = symbol) ∨
        ∃ m, s (.AssetMeta asset_code) = some m ∧ m.symbol = symbol ∧ m.issuer ≠ issuer))
      (update_metadata caller asset_code name symbol issuer description url change_reason) env s := by
  simp only [update_metadata, release_symbol, set_canonical_symbol, fails_only_bind, refused_only_is_asset_frozen,
    is_asset_frozen_eq_ok, refused_only_require_admin, require_admin_eq_ok, refused_only_get_asset_or_err,
    get_asset_or_err_eq_ok, fails_only_panic_if, refused_only_text, reduceCtorEq, IsEmpty.forall_iff, implies_true,
    panic_if_eq_ok, refused_only_validate_issuer, validate_issuer_eq_ok,
    refused_only_check_symbol_conflict, fails_only_exec_if, refused_only_remove, fails_only_save, fails_only_reads,
    refused_only_succ_u32, refused_only_save_with_version, and_self, and_true, true_and, and_imp,
    forall_eq_apply_imp_iff, forall_const, forall_eq]
  rintro _ - - rfl m - - - - e he hother
  obtain ⟨n, hn, hsymbol, hentry⟩ := hs.holder he
  by_cases hcode : e.asset_code = asset_code
  · refine Or.inr ⟨n, hcode ▸ hn, hsymbol, ?_⟩
    rw [hentry] at hother
    exact hother.resolve_right fun hne => hne hcode
  · exact Or.inl ⟨e.asset_code, n, hcode, hn, hsymbol⟩

theorem link_bridge_contract_refused {bridge_id contract_address source_chain dest_chain : SString}
    (hs : Consistent s) :
    FailsOnly (RefusedOnly (∃ a m n, a ≠ asset_code ∧ s (.AssetMeta a) = some m ∧ OnBridge s a bridge_id ∧
        s (.AssetMeta asset_code) = some n ∧ s (.BridgeSymbol bridge_id n.symbol) = some a))
      (link_bridge_contract caller asset_code bridge_id contract_address source_chain dest_chain) env s := by
  simp only [link_bridge_contract, fails_only_bind, refused_only_require_admin, require_admin_eq_ok,
    refused_only_get_asset_or_err, get_asset_or_err_eq_ok, fails_only_load, load_eq_ok, fails_only_panic_if,
    refused_only_text, forall_const, panic_if_eq_ok, reduceCtorEq, IsEmpty.forall_iff, implies_true, fails_only_reads,
    reads_eq_ok, fails_only_save, save_eq_ok, and_self, and_true, true_and, and_imp, forall_eq_apply_imp_iff,
    forall_eq]
  rintro _ - - rfl n hn ⟨a, ha, hne⟩
  obtain ⟨⟨m, hm⟩, hbridge⟩ := hs.carried bridge_id n.symbol a ha
  exact ⟨a, m, n, hne, hm, hbridge, hn, ha⟩

/-- **Only a duplicate is refused.** -/
theorem justified_of_refused (hs : Consistent s) : FailsOnly (RefusedOnly (Justified s call)) (exec call) env s := by
  cases call with
  | register_asset =>
      exact register_asset_refused hs
  | update_metadata =>
      exact update_metadata_refused hs
  | link_bridge_contract =>
      exact link_bridge_contract_refused hs
  | update_category =>
      simp [exec, update_category, add_to_category, add_to_index, remove_from_category, remove_from_index]
  | update_risk => simp [exec, update_risk, err_if]
  | update_status => simp [exec, update_status, err_if]
  | deactivate_asset => simp [exec, deactivate_asset, err_if]
  | restore_asset => simp [exec, restore_asset, err_if]
  | update_compliance =>
      simp [exec, update_compliance]
  | initialize_registry => simp [exec, initialize_registry, err_if]
  | link_chain => simp [exec, link_chain, err_if]
  | register_oracle_feed =>
      simp [exec, register_oracle_feed, err_if]
  | add_liquidity_pool => simp [exec, add_liquidity_pool, err_if]
  | whitelist_add => simp [exec, whitelist_add, err_if]
  | whitelist_remove => simp [exec, whitelist_remove, err_if]
  | freeze_asset => simp [exec, freeze_asset]
  | unfreeze_asset => simp [exec, unfreeze_asset]

/-- **The namespace is exact**, as far as it goes: a symbol has one asset, and what is kept of it is that asset's. -/
theorem namespace_exact (calls : List (Env × EntryPoint)) :
    (∀ a b m n, run empty_storage calls (.AssetMeta a) = some m → run empty_storage calls (.AssetMeta b) = some n →
      m.symbol = n.symbol → a = b) ∧
    (∀ symbol e, run empty_storage calls (.CanonicalSymbol symbol) = some e ↔
      ∃ m, run empty_storage calls (.AssetMeta e.asset_code) = some m ∧ m.symbol = symbol ∧
        e = ⟨symbol, m.issuer, e.asset_code⟩) ∧
    (Along exec KeepsIssuers empty_storage calls → IssuersValid (run empty_storage calls)) ∧
    (∀ env call, exec call env (run empty_storage calls) =
        .error RegistryError.DuplicateAssetRegistrationRejected.text → Justified (run empty_storage calls) call) ∧
    (Along exec KeepsSymbols empty_storage calls →
      ∀ env admin asset_code bridge_id contract_address source_chain dest_chain,
        exec (.link_bridge_contract admin asset_code bridge_id contract_address source_chain dest_chain) env
          (run empty_storage calls) ≠ .error RegistryError.DuplicateAssetRegistrationRejected.text) := by
  have hs := run_consistent calls
  have hrefused : ∀ env call, exec call env (run empty_storage calls) =
      .error RegistryError.DuplicateAssetRegistrationRejected.text → Justified (run empty_storage calls) call :=
    fun env call h => justified_of_refused hs _ h rfl
  refine ⟨fun a b m n ha hb => hs.symbol_inj ha hb, fun symbol e => ⟨hs.holder, ?_⟩, run_issuers, hrefused, ?_⟩
  · rintro ⟨m, hm, hsymbol, he⟩
    have howned := hs.owned _ m hm
    rwa [hsymbol, ← he] at howned
  · -- What the bridge carries would have the symbol of the asset that is linked, and be that asset.
    intro hkeeps env admin asset_code bridge_id contract_address source_chain dest_chain h
    obtain ⟨a, m, n, hne, hm, -, hn, ha⟩ := hrefused _ _ h
    obtain ⟨m', hm', hsymbol⟩ := run_symbols hkeeps bridge_id n.symbol a ha
    exact hne (hs.symbol_inj hm' hn hsymbol)

/-- A stablecoin is registered by the admin. -/
def one_asset : List (Env × EntryPoint) :=
  [(signed_at 1, .initialize_registry (party 1)),
    (signed_at 2, .register_asset (party 1) (str "USDC") (str "USD Coin") (str "USDC")
      (str "GAAQCAIBAEAQCAIBAEAQCAIBAEAQCAIBAEAQCAIBAEAQCAIBAEAQDZ7H") 7 .Stablecoin [] [])]

/-- The only asset cannot go to another issuer and keep its symbol. -/
theorem reissue_refused :
    failure (exec (.update_metadata (party 1) (str "USDC") (str "USD Coin") (str "USDC")
      (str "GABAEAQCAIBAEAQCAIBAEAQCAIBAEAQCAIBAEAQCAIBAEAQCAIBAEJXA") [] [] (str "new issuer")) (signed_at 3)
      (run empty_storage one_asset)) = some RegistryError.DuplicateAssetRegistrationRejected.text ∧
    ¬∃ a m, a ≠ str "USDC" ∧ run empty_storage one_asset (.AssetMeta a) = some m ∧ m.symbol = str "USDC" := by
  refine ⟨by decide +kernel, ?_⟩
  rintro ⟨a, m, hne, hm, hsymbol⟩
  have howned := (run_consistent one_asset).owned a m hm
  have hentry : (run empty_storage one_asset (.CanonicalSymbol (str "USDC"))).map CanonicalSymbolEntry.asset_code =
      some (str "USDC") := by decide +kernel
  rw [hsymbol] at howned
  rw [howned, Option.map_some, Option.some.injEq] at hentry
  exact hne hentry

end Justification

end BridgeWatch.AssetRegistry

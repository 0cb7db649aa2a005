/-
What a call of the asset registry does.

The keys are sorted by what they say. A call that changes none of the metadata but for a new asset, a renaming, or one
more version of an asset that may go to another category or status, is followed by what it has written; the other calls
leave all that is followed here alone.
-/
import BridgeWatch.AssetRegistry
import BridgeWatch.Catalogue

set_option autoImplicit false
set_option synthInstance.maxSize 2048

namespace BridgeWatch.AssetRegistry

open Transaction
open Contract (U32 U64 SString Address Env str)

/-! ## Footprints -/

/-- The keys by what they say. -/
inductive DataTag where
  | Admin
  | Meta
  | Versions
  | List
  | Category
  | Status
  | Symbol
  | Bridge
  | Other
  deriving DecidableEq

@[reducible] def DataKey.tag : DataKey → DataTag
  | .Admin => .Admin
  | .AssetMeta _ => .Meta
  | .Versions _ => .Versions
  | .AssetList => .List
  | .CategoryIndex _ => .Category
  | .StatusIndex _ => .Status
  | .CanonicalSymbol _ => .Symbol
  | .BridgeAssocs _ => .Bridge
  | .BridgeSymbol _ _ => .Bridge
  | _ => .Other

instance : Tagged DataKey DataTag := ⟨DataKey.tag⟩

variable {env : Env} {s s' : RegistryStorage} {caller : Address} {asset_code symbol issuer : SString} {u : Unit}

section Footprints

variable {ts : List DataTag}

instance (key : DataKey) (value : key.Val) [h : Among key.tag ts] : Writes ts (set key value) :=
  have : Among (Tagged.tag key) ts := h
  inferInstance

instance (address : Address) : Writes ts (HostCalls.require_auth address : Registry Unit) := by
  unfold HostCalls.require_auth
  infer_instance

instance {α : Type} (values : List α) (value : α) :
    Writes ts (HostCalls.push_back values value : Registry (List α)) := by
  unfold HostCalls.push_back
  infer_instance

instance (caller : Address) : Writes ts (require_admin caller) := by
  unfold require_admin
  infer_instance

instance : Writes ts (require_asset_exists asset_code) := by
  unfold require_asset_exists
  infer_instance

instance {status : AssetStatus} : Writes [.Status] (add_to_status status asset_code) := by
  unfold add_to_status add_to_index
  infer_instance

instance {status : AssetStatus} : Writes [.Status] (remove_from_status status asset_code) := by
  unfold remove_from_status remove_from_index
  infer_instance

instance {category : AssetCategory} : Writes [.Category] (add_to_category category asset_code) := by
  unfold add_to_category add_to_index
  infer_instance

instance {category : AssetCategory} : Writes [.Category] (remove_from_category category asset_code) := by
  unfold remove_from_category remove_from_index
  infer_instance

instance {chain_id contract_address : SString} {is_canonical : Bool} :
    Writes [.Other] (link_chain caller asset_code chain_id contract_address is_canonical) := by
  unfold link_chain
  infer_instance

instance {feed_id provider chain_id contract_address : SString} :
    Writes [.Other] (register_oracle_feed caller asset_code feed_id provider chain_id contract_address) := by
  unfold register_oracle_feed
  infer_instance

instance {pool_id paired_asset : SString} :
    Writes [.Other] (add_liquidity_pool caller asset_code pool_id paired_asset) := by
  unfold add_liquidity_pool
  infer_instance

instance : Writes [.Other] (whitelist_add caller asset_code) := by
  unfold whitelist_add
  infer_instance

instance : Writes [.Other] (whitelist_remove caller asset_code) := by
  unfold whitelist_remove
  infer_instance

instance {reason : SString} : Writes [.Other] (freeze_asset caller asset_code reason) := by
  unfold freeze_asset
  infer_instance

instance : Writes [.Other] (unfreeze_asset caller asset_code) := by
  unfold unfreeze_asset
  infer_instance

end Footprints

/-! ## Indices -/

theorem categories_congr (h : ∀ key, DataKey.tag key = .Category → s' key = s key) :
    get_assets_by_category s' = get_assets_by_category s :=
  funext fun category => by rw [get_assets_by_category, h _ rfl, get_assets_by_category]

theorem statuses_congr (h : ∀ key, DataKey.tag key = .Status → s' key = s key) :
    get_assets_by_status s' = get_assets_by_status s :=
  funext fun status => by rw [get_assets_by_status, h _ rfl, get_assets_by_status]

theorem categories_of_writes {α : Type} {ts : List DataTag} {m : Registry α} {a : α} (hm : Writes ts m)
    (hok : m env s = .ok (a, s')) (hts : DataTag.Category ∉ ts) :
    get_assets_by_category s' = get_assets_by_category s :=
  categories_congr fun key hkey => hm.frame hok key fun hmem => hts (hkey ▸ hmem)

theorem statuses_of_writes {α : Type} {ts : List DataTag} {m : Registry α} {a : α} (hm : Writes ts m)
    (hok : m env s = .ok (a, s')) (hts : DataTag.Status ∉ ts) :
    get_assets_by_status s' = get_assets_by_status s :=
  statuses_congr fun key hkey => hm.frame hok key fun hmem => hts (hkey ▸ hmem)

theorem categories_set {category : AssetCategory} {list : List SString} :
    get_assets_by_category (Function.update s (.CategoryIndex category) (some list)) =
      Function.update (get_assets_by_category s) category list := by
  funext c
  by_cases hc : c = category
  · subst hc
    simp [get_assets_by_category]
  · simp [get_assets_by_category, hc]

theorem statuses_set {status : AssetStatus} {list : List SString} :
    get_assets_by_status (Function.update s (.StatusIndex status) (some list)) =
      Function.update (get_assets_by_status s) status list := by
  funext c
  by_cases hc : c = status
  · subst hc
    simp [get_assets_by_status]
  · simp [get_assets_by_status, hc]

section Index

variable {κ : Type} [DecidableEq κ] {view : RegistryStorage → κ → List SString} {k : κ}
  {get_list : Registry (Option (List SString))} {set_list : List SString → Registry Unit}

/-- What is added to an index, whatever its list is under. -/
theorem view_of_add (hget : ∀ o s₁, get_list env s = .ok (o, s₁) → o.getD [] = view s k ∧ s₁ = s)
    (hset : ∀ list s₁, set_list list env s = .ok ((), s₁) → view s₁ = Function.update (view s) k list)
    (h : add_to_index get_list set_list asset_code env s = .ok (u, s')) :
    view s' = Catalogue.add (view s) k asset_code := by
  simp only [add_to_index, bind_eq_ok, exec_if_eq_ok, HostCalls.push_back_eq_ok] at h
  obtain ⟨o, s₁, hlist, hadd⟩ := h
  obtain ⟨ho, rfl⟩ := hget o s₁ hlist
  rw [ho] at hadd
  rw [Catalogue.add]
  rcases hadd with ⟨hnew, _, _, ⟨-, rfl, rfl⟩, hsave⟩ | ⟨hmem, rfl⟩
  · rw [if_neg hnew, hset _ _ hsave]
  · rw [if_pos (not_not.mp hmem), Function.update_eq_self]

/-- What is removed from an index. -/
theorem view_of_remove (hget : ∀ o s₁, get_list env s = .ok (o, s₁) → o.getD [] = view s k ∧ s₁ = s)
    (hset : ∀ list s₁, set_list list env s = .ok ((), s₁) → view s₁ = Function.update (view s) k list)
    (h : remove_from_index get_list set_list asset_code env s = .ok (u, s')) :
    view s' = Catalogue.drop (view s) k asset_code := by
  simp only [remove_from_index, bind_eq_ok] at h
  obtain ⟨o, s₁, hlist, hsave⟩ := h
  obtain ⟨ho, rfl⟩ := hget o s₁ hlist
  rw [hset _ _ hsave, ho, Catalogue.drop]

end Index

theorem get_category {category : AssetCategory} (o : Option (List SString)) (s₁ : RegistryStorage)
    (h : get (.CategoryIndex category) env s = .ok (o, s₁)) :
    o.getD [] = get_assets_by_category s category ∧ s₁ = s := by
  obtain ⟨rfl, rfl⟩ := load_eq_ok.mp h
  exact ⟨rfl, rfl⟩

theorem get_status {status : AssetStatus} (o : Option (List SString)) (s₁ : RegistryStorage)
    (h : get (.StatusIndex status) env s = .ok (o, s₁)) : o.getD [] = get_assets_by_status s status ∧ s₁ = s := by
  obtain ⟨rfl, rfl⟩ := load_eq_ok.mp h
  exact ⟨rfl, rfl⟩

theorem set_category {category : AssetCategory} (list : List SString) (s₁ : RegistryStorage)
    (h : set (.CategoryIndex category) list env s = .ok ((), s₁)) :
    get_assets_by_category s₁ = Function.update (get_assets_by_category s) category list := by
  rw [save_eq_ok.mp h, categories_set]

theorem set_status {status : AssetStatus} (list : List SString) (s₁ : RegistryStorage)
    (h : set (.StatusIndex status) list env s = .ok ((), s₁)) :
    get_assets_by_status s₁ = Function.update (get_assets_by_status s) status list := by
  rw [save_eq_ok.mp h, statuses_set]

theorem categories_of_add {category : AssetCategory} (h : add_to_category category asset_code env s = .ok (u, s')) :
    get_assets_by_category s' = Catalogue.add (get_assets_by_category s) category asset_code :=
  view_of_add get_category set_category h

theorem categories_of_remove {category : AssetCategory}
    (h : remove_from_category category asset_code env s = .ok (u, s')) :
    get_assets_by_category s' = Catalogue.drop (get_assets_by_category s) category asset_code :=
  view_of_remove get_category set_category h

theorem statuses_of_add {status : AssetStatus} (h : add_to_status status asset_code env s = .ok (u, s')) :
    get_assets_by_status s' = Catalogue.add (get_assets_by_status s) status asset_code :=
  view_of_add get_status set_status h

theorem statuses_of_remove {status : AssetStatus} (h : remove_from_status status asset_code env s = .ok (u, s')) :
    get_assets_by_status s' = Catalogue.drop (get_assets_by_status s) status asset_code :=
  view_of_remove get_status set_status h

/-! ## What a call has done -/

/-- What kind of a change of an asset's status each call makes. -/
def Moves : EntryPoint → SString → AssetStatus → AssetStatus → Prop
  | .update_status _ asset_code new_status, code, old, new =>
    code = asset_code ∧ new = new_status ∧ valid_transition old new = true
  | .deactivate_asset _ asset_code _, code, old, new => code = asset_code ∧ old = .Active ∧ new = .Deactivated
  | .restore_asset _ asset_code, code, old, new => code = asset_code ∧ old = .Deactivated ∧ new = .Active
  | _, _, _, _ => False

/-- The asset has this metadata now, as its last version, and nothing else is new but under keys of the tags `ts`. -/
structure Saved (ts : List DataTag) (s s' : RegistryStorage) (asset_code : SString) (metadata : AssetMetadata) :
    Prop where
  saved : s' (.AssetMeta asset_code) = some metadata
  kept : ∃ v : MetadataVersion, v.version = metadata.version ∧ v.metadata = metadata ∧
    get_metadata_versions s' asset_code = Catalogue.push MAX_VERSIONS (get_metadata_versions s asset_code) v
  frame : ∀ key, key ≠ .AssetMeta asset_code → key ≠ .Versions asset_code → DataKey.tag key ∉ ts → s' key = s key

/-- One asset's metadata changes, but not its symbol and its issuer. -/
structure Revised (s s' : RegistryStorage) (call : EntryPoint) (asset_code : SString) (m m' : AssetMetadata) :
    Prop where
  loaded : s (.AssetMeta asset_code) = some m
  same : m'.asset_code = m.asset_code ∧ m'.symbol = m.symbol ∧ m'.issuer = m.issuer
  next : m'.version.toNat = m.version.toNat + 1
  category : (m'.category = m.category ∧ get_assets_by_category s' = get_assets_by_category s) ∨
    (∃ admin, call = .update_category admin asset_code m'.category) ∧
      get_assets_by_category s' =
        Catalogue.add (Catalogue.drop (get_assets_by_category s) m.category asset_code) m'.category asset_code
  status : (m'.status = m.status ∧ get_assets_by_status s' = get_assets_by_status s) ∨
    Moves call asset_code m.status m'.status ∧
      get_assets_by_status s' =
        Catalogue.add (Catalogue.drop (get_assets_by_status s) m.status asset_code) m'.status asset_code
  saved : Saved [.Category, .Status, .Other] s s' asset_code m'

/-- What a call does. -/
inductive Outcome (s s' : RegistryStorage) : EntryPoint → Prop
  | kept {call : EntryPoint} (hframe : ∀ key, DataKey.tag key ≠ .Other → s' key = s key) : Outcome s s' call
  | initialized {admin : Address} (hadmin : s .Admin = none) (hlist : s' .AssetList = some [])
      (hframe : ∀ key, key ≠ .Admin → key ≠ .AssetList → s' key = s key) :
      Outcome s s' (.initialize_registry admin)
  | registered {admin : Address} {asset_code name symbol issuer : SString} {decimals : U32} {category : AssetCategory}
      {description url : SString} {m : AssetMetadata} (hadmin : s .Admin = some admin)
      (hnew : s (.AssetMeta asset_code) = none)
      (hissuer : category ≠ .Native → is_valid_account_strkey issuer = true)
      (hfree : ∀ e, s (.CanonicalSymbol symbol) = some e → e.issuer = issuer ∧ e.asset_code = asset_code)
      (hm : m = new_metadata admin asset_code name symbol issuer decimals category description url m.registered_at)
      (hmeta : s' (.AssetMeta asset_code) = some m)
      (hsymbol : s' (.CanonicalSymbol symbol) = some ⟨symbol, issuer, asset_code⟩)
      (hbridges : s' (.BridgeAssocs asset_code) = some [])
      (hversions : ∃ v : MetadataVersion, v.version = 1 ∧ v.metadata = m ∧ get_metadata_versions s' asset_code = [v])
      (hlist : s' .AssetList = some ((s .AssetList).getD [] ++ [asset_code]))
      (hcategories : get_assets_by_category s' = Catalogue.add (get_assets_by_category s) category asset_code)
      (hstatuses : get_assets_by_status s' = Catalogue.add (get_assets_by_status s) .PendingReview asset_code)
      (hframe : ∀ key, key ≠ .AssetMeta asset_code → key ≠ .CanonicalSymbol symbol → key ≠ .BridgeAssocs asset_code →
        key ≠ .Versions asset_code → DataKey.tag key ∉ [DataTag.List, .Category, .Status, .Other] → s' key = s key) :
      Outcome s s' (.register_asset admin asset_code name symbol issuer decimals category description url)
  | renamed {admin : Address} {asset_code name symbol issuer description url change_reason : SString}
      {m m' : AssetMetadata} (hload : s (.AssetMeta asset_code) = some m)
      (hissuer : m.category ≠ .Native → is_valid_account_strkey issuer = true)
      (hfree : ∀ e, s (.CanonicalSymbol symbol) = some e → e.issuer = issuer ∧ e.asset_code = asset_code)
      (hm : m'.symbol = symbol ∧ m'.issuer = issuer ∧ m'.category = m.category ∧ m'.status = m.status)
      (hversion : m'.version.toNat = m.version.toNat + 1)
      (hreleased : m.symbol ≠ symbol → s' (.CanonicalSymbol m.symbol) = none)
      (hsymbol : s' (.CanonicalSymbol symbol) = some ⟨symbol, issuer, asset_code⟩)
      (hframe : ∀ x, x ≠ symbol → x ≠ m.symbol → s' (.CanonicalSymbol x) = s (.CanonicalSymbol x))
      (hsaved : Saved [.Symbol] s s' asset_code m') :
      Outcome s s' (.update_metadata admin asset_code name symbol issuer description url change_reason)
  | revised {call : EntryPoint} {asset_code : SString} {m m' : AssetMetadata}
      (hrevised : Revised s s' call asset_code m m') : Outcome s s' call
  | linked {admin : Address} {asset_code bridge_id contract_address source_chain dest_chain : SString}
      {m : AssetMetadata} {b : BridgeAssociation} (hload : s (.AssetMeta asset_code) = some m)
      (hsymbol : s' (.BridgeSymbol bridge_id m.symbol) = some asset_code)
      (hbridges : s' (.BridgeAssocs asset_code) = some ((s (.BridgeAssocs asset_code)).getD [] ++ [b]))
      (hb : b.bridge_id = bridge_id)
      (hframe : ∀ key, key ≠ .BridgeSymbol bridge_id m.symbol → key ≠ .BridgeAssocs asset_code → s' key = s key) :
      Outcome s s' (.link_bridge_contract admin asset_code bridge_id contract_address source_chain dest_chain)

section Inversion

variable {call : EntryPoint} {metadata : AssetMetadata} {reason : SString} {now : U64} {ts : List DataTag}

@[simp] theorem require_admin_eq_ok :
    require_admin caller env s = .ok (u, s') ↔ env.auth caller = true ∧ s .Admin = some caller ∧ s' = s := by
  simp only [require_admin, bind_eq_ok, HostCalls.require_auth_eq_ok, load_eq_ok, expect_eq_ok, panic_if_eq_ok,
    not_not, and_assoc, exists_and_left, exists_eq_left, exists_const]
  constructor
  · rintro ⟨hauth, admin, hadmin, rfl, rfl⟩
    exact ⟨hauth, hadmin, rfl⟩
  · rintro ⟨hauth, hadmin, rfl⟩
    exact ⟨hauth, caller, hadmin, rfl, rfl⟩

@[simp] theorem get_asset_or_err_eq_ok :
    get_asset_or_err asset_code env s = .ok (metadata, s') ↔ s (.AssetMeta asset_code) = some metadata ∧ s' = s := by
  simp only [get_asset_or_err, bind_eq_ok, load_eq_ok, expect_eq_ok, and_assoc, exists_and_left, exists_eq_left]

theorem check_symbol_conflict_eq_ok :
    check_symbol_conflict symbol issuer asset_code env s = .ok (u, s') ↔
      (∀ e, s (.CanonicalSymbol symbol) = some e → e.issuer = issuer ∧ e.asset_code = asset_code) ∧ s' = s := by
  cases hload : s (.CanonicalSymbol symbol) with
  | none | some => simp [check_symbol_conflict, hload]

theorem validate_issuer_eq_ok {category : AssetCategory} :
    validate_issuer category issuer env s = .ok (u, s') ↔
      (category ≠ .Native → is_valid_account_strkey issuer = true) ∧ s' = s := by
  simp only [validate_issuer, panic_if_eq_ok, not_and, Bool.not_eq_false]

/-- The number of the next version. -/
theorem succ_version {x : U32} (h : x.toNat + (1 : U32).toNat < 2 ^ 32) : (x + 1).toNat = x.toNat + 1 := by
  rw [UInt32.toNat_add, Nat.mod_eq_of_lt h]
  rfl

theorem saved_of_ok (h : save_with_version asset_code metadata caller reason now env s = .ok (u, s')) :
    Saved [] s s' asset_code metadata := by
  simp only [save_with_version, bind_eq_ok, save_eq_ok, load_eq_ok, and_assoc, exists_and_left, exists_eq_left,
    exists_const] at h
  subst h
  refine ⟨by simp, ⟨⟨metadata.version, metadata, caller, reason, now⟩, rfl, rfl, ?_⟩, fun key hmeta hversions _ => ?_⟩
  · rw [get_metadata_versions, Function.update_self, Option.getD_some]
    rfl
  · rw [Function.update_of_ne hversions, Function.update_of_ne hmeta]

theorem Saved.mono {us : List DataTag} (h : Saved ts s s' asset_code metadata) (hsub : ts ⊆ us) :
    Saved us s s' asset_code metadata :=
  ⟨h.saved, h.kept, fun key hmeta hversions htag => h.frame key hmeta hversions fun hmem => htag (hsub hmem)⟩

/-- What is saved after something else has been written. -/
theorem Saved.after {α : Type} {us : List DataTag} {m : Registry α} {a : α} {s₁ : RegistryStorage}
    (h : Saved ts s₁ s' asset_code metadata) (hm : Writes us m) (hok : m env s = .ok (a, s₁))
    (hversions : DataTag.Versions ∉ us) : Saved (us ++ ts) s s' asset_code metadata := by
  obtain ⟨v, hversion, hmetadata, hkept⟩ := h.kept
  refine ⟨h.saved, ⟨v, hversion, hmetadata, ?_⟩, fun key hmeta hkey htag => ?_⟩
  · rw [hkept, get_metadata_versions, hm.frame hok _ hversions, get_metadata_versions]
  · rw [List.mem_append, not_or] at htag
    rw [h.frame key hmeta hkey htag.2, hm.frame hok key htag.1]

theorem Saved.categories_eq (h : Saved ts s s' asset_code metadata) (hts : DataTag.Category ∉ ts) :
    get_assets_by_category s' = get_assets_by_category s :=
  categories_congr fun key hkey =>
    h.frame key (by rintro rfl; cases hkey) (by rintro rfl; cases hkey) (hkey ▸ hts)

theorem Saved.statuses_eq (h : Saved ts s s' asset_code metadata) (hts : DataTag.Status ∉ ts) :
    get_assets_by_status s' = get_assets_by_status s :=
  statuses_congr fun key hkey =>
    h.frame key (by rintro rfl; cases hkey) (by rintro rfl; cases hkey) (hkey ▸ hts)

/-- What writes nothing that is followed keeps it. -/
theorem kept_of_ok {m : Registry Unit} [hm : Writes [DataTag.Other] m] (h : m env s = .ok ((), s')) :
    Outcome s s' call := .kept fun key htag => hm.frame h key fun hmem => htag (List.mem_singleton.mp hmem)

theorem initialized_of_ok (h : initialize_registry caller env s = .ok ((), s')) :
    Outcome s s' (.initialize_registry caller) := by
  simp only [initialize_registry, bind_eq_ok, HostCalls.require_auth_eq_ok, load_eq_ok, panic_if_eq_ok, save_eq_ok,
    and_assoc, exists_and_left, exists_eq_left, exists_const] at h
  obtain ⟨-, hadmin, rfl⟩ := h
  refine .initialized (by simpa using hadmin) (Function.update_self ..) fun key hkey hlist => ?_
  rw [Function.update_of_ne hlist, Function.update_of_ne hkey]

/-- A new asset is on no bridge. -/
theorem associations_of_ok (h : initialize_associations asset_code env s = .ok (u, s')) :
    s' (.BridgeAssocs asset_code) = some [] ∧
      ∀ key, key ≠ .BridgeAssocs asset_code → DataKey.tag key ≠ .Other → s' key = s key := by
  simp only [initialize_associations, bind_eq_ok, save_eq_ok, exists_const, exists_eq_left] at h
  subst h
  refine ⟨by simp, fun key hkey htag => ?_⟩
  rw [Function.update_of_ne, Function.update_of_ne, Function.update_of_ne hkey, Function.update_of_ne,
    Function.update_of_ne]
  all_goals
    rintro rfl
    exact htag rfl

/-- A new asset is listed, and indexed by its category and as pending. -/
theorem listed_of_ok {category : AssetCategory} (h : list_asset asset_code category env s = .ok (u, s')) :
    s' .AssetList = some ((s .AssetList).getD [] ++ [asset_code]) ∧
      get_assets_by_category s' = Catalogue.add (get_assets_by_category s) category asset_code ∧
      get_assets_by_status s' = Catalogue.add (get_assets_by_status s) .PendingReview asset_code ∧
      ∀ key, DataKey.tag key ∉ [DataTag.List, .Category, .Status] → s' key = s key := by
  simp only [list_asset, bind_eq_ok, load_eq_ok, HostCalls.push_back_eq_ok, and_assoc, exists_and_left,
    exists_eq_left] at h
  obtain ⟨-, _, s₁, hlist, _, s₂, hcategory, hstatus⟩ := h
  have hlists : Writes [DataTag.List] (set .AssetList ((s .AssetList).getD [] ++ [asset_code])) := inferInstance
  have hsorts : Writes [DataTag.Category] (add_to_category category asset_code) := inferInstance
  have hpends : Writes [DataTag.Status] (add_to_status .PendingReview asset_code) := inferInstance
  refine ⟨?_, ?_, ?_, fun key htag => ?_⟩
  · rw [hpends.frame hstatus _ (by decide), hsorts.frame hcategory _ (by decide), save_eq_ok.mp hlist,
      Function.update_self]
  · rw [categories_of_writes hpends hstatus (by decide), categories_of_add hcategory,
      categories_of_writes hlists hlist (by decide)]
  · rw [statuses_of_add hstatus, statuses_of_writes hsorts hcategory (by decide),
      statuses_of_writes hlists hlist (by decide)]
  · simp only [List.mem_cons, List.not_mem_nil, or_false, not_or] at htag
    rw [hpends.frame hstatus key fun hmem => htag.2.2 (List.mem_singleton.mp hmem),
      hsorts.frame hcategory key fun hmem => htag.2.1 (List.mem_singleton.mp hmem),
      hlists.frame hlist key fun hmem => htag.1 (List.mem_singleton.mp hmem)]

theorem registered_of_ok {name description url : SString} {decimals : U32} {category : AssetCategory}
    (h : register_asset caller asset_code name symbol issuer decimals category description url env s = .ok ((), s')) :
    Outcome s s' (.register_asset caller asset_code name symbol issuer decimals category description url) := by
  simp only [register_asset, set_canonical_symbol, bind_eq_ok, require_admin_eq_ok, load_eq_ok, panic_if_eq_ok,
    validate_issuer_eq_ok, check_symbol_conflict_eq_ok, save_eq_ok, reads_eq_ok, and_assoc, exists_and_left,
    exists_eq_left, exists_const] at h
  obtain ⟨-, hadmin, -, hnew, hissuer, hfree, _, s₁, hassociations, hlist⟩ := h
  obtain ⟨hbridges, hframe⟩ := associations_of_ok hassociations
  obtain ⟨hlisted, hcategories, hstatuses, hkept⟩ := listed_of_ok hlist
  have hbefore : ∀ key, DataKey.tag key ∈ [DataTag.List, .Category, .Status] → s₁ key = s key := by
    intro key htag
    rw [hframe key, Function.update_of_ne, Function.update_of_ne, Function.update_of_ne]
    all_goals
      rintro h
      simp [h] at htag
  refine .registered (m := new_metadata caller asset_code name symbol issuer decimals category description url
    env.timestamp) hadmin (by simpa using hnew) hissuer hfree rfl ?_ ?_ ?_ ⟨⟨1, _, caller, str "Initial registration",
      env.timestamp⟩, rfl, rfl, ?_⟩ ?_ ?_ ?_ ?_
  · rw [hkept _ (by simp), hframe _ (by simp) (by simp)]
    simp
  · rw [hkept _ (by simp), hframe _ (by simp) (by simp)]
    simp
  · rw [hkept _ (by simp), hbridges]
  · rw [get_metadata_versions, hkept _ (by simp), hframe _ (by simp) (by simp), Function.update_self, Option.getD_some]
    rfl
  · rw [hlisted, hbefore _ (by simp)]
  · rw [hcategories, categories_congr fun key hkey => hbefore key (by simp [hkey])]
  · rw [hstatuses, statuses_congr fun key hkey => hbefore key (by simp [hkey])]
  · intro key hmeta hsymbol hbridge hversions htag
    simp only [List.mem_cons, List.not_mem_nil, or_false, not_or] at htag
    rw [hkept key (by simp [htag]), hframe key hbridge htag.2.2.2, Function.update_of_ne hversions,
      Function.update_of_ne hmeta, Function.update_of_ne hsymbol]

theorem renamed_of_ok {name description url change_reason : SString}
    (h : update_metadata caller asset_code name symbol issuer description url change_reason env s = .ok ((), s')) :
    Outcome s s' (.update_metadata caller asset_code name symbol issuer description url change_reason) := by
  simp only [update_metadata, set_canonical_symbol, release_symbol, is_asset_frozen, bind_eq_ok, require_admin_eq_ok,
    get_asset_or_err_eq_ok, load_eq_ok, panic_if_eq_ok, validate_issuer_eq_ok, check_symbol_conflict_eq_ok,
    exec_if_eq_ok, remove_eq_ok, save_eq_ok, reads_eq_ok, pure_eq_ok, HostCalls.checked_add_u32_eq_ok, and_assoc,
    exists_and_left, exists_eq_left, exists_const] at h
  obtain ⟨-, -, m, hload, -, -, hissuer, hfree, s₁, hrelease, hversion, hsave⟩ := h
  have hsaved := saved_of_ok hsave
  have hsymbols : ∀ x, s' (.CanonicalSymbol x) = Function.update s₁ (.CanonicalSymbol symbol)
      (some ⟨symbol, issuer, asset_code⟩) (.CanonicalSymbol x) := fun x => hsaved.frame _ (by simp) (by simp) (by simp)
  have hrest : ∀ key, DataKey.tag key ≠ .Symbol → s₁ key = s key := by
    intro key htag
    rcases hrelease with ⟨-, rfl⟩ | ⟨-, rfl⟩
    · refine Function.update_of_ne ?_ ..
      rintro rfl
      exact htag rfl
    · rfl
  have hclaimed : ∀ key, DataKey.tag key ≠ .Symbol → Function.update s₁ (.CanonicalSymbol symbol)
      (some ⟨symbol, issuer, asset_code⟩) key = s key := by
    intro key htag
    rw [Function.update_of_ne (by rintro rfl; exact htag rfl), hrest key htag]
  obtain ⟨v, hv, hmetadata, hhistory⟩ := hsaved.kept
  refine .renamed hload hissuer hfree ?_ (succ_version hversion) ?_ ?_ ?_ ⟨hsaved.saved, ⟨v, hv, hmetadata, ?_⟩, ?_⟩
  · exact ⟨rfl, rfl, rfl, rfl⟩
  · intro hne
    rw [hsymbols, Function.update_of_ne (by simpa using hne)]
    rcases hrelease with ⟨-, rfl⟩ | ⟨heq, -⟩
    · exact Function.update_self ..
    · exact absurd hne heq
  · rw [hsymbols, Function.update_self]
  · intro x hx hold
    rw [hsymbols, Function.update_of_ne (by simpa using hx)]
    rcases hrelease with ⟨-, rfl⟩ | ⟨-, rfl⟩
    · exact Function.update_of_ne (by simpa using hold) ..
    · rfl
  · rw [hhistory, get_metadata_versions, hclaimed _ (by simp), get_metadata_versions]
  · intro key hmeta hversions htag
    rw [hsaved.frame key hmeta hversions (by simp), hclaimed key (by simpa using htag)]

theorem linked_of_ok {bridge_id contract_address source_chain dest_chain : SString}
    (h : link_bridge_contract caller asset_code bridge_id contract_address source_chain dest_chain env s =
      .ok ((), s')) :
    Outcome s s' (.link_bridge_contract caller asset_code bridge_id contract_address source_chain dest_chain) := by
  simp only [link_bridge_contract, bind_eq_ok, require_admin_eq_ok, get_asset_or_err_eq_ok, load_eq_ok, panic_if_eq_ok,
    save_eq_ok, reads_eq_ok, and_assoc, exists_and_left, exists_eq_left, exists_const] at h
  obtain ⟨-, -, m, hload, -, -, -, rfl⟩ := h
  refine .linked hload (by simp) (Function.update_self ..) rfl fun key hsymbol hbridges => ?_
  rw [Function.update_of_ne hbridges, Function.update_of_ne hsymbol]

/-- Another status, in the indices too. -/
theorem moved_of_ok {old new : AssetStatus}
    (h : move_status caller metadata asset_code old new reason env s = .ok ((), s')) :
    ∃ m', m'.asset_code = metadata.asset_code ∧ m'.symbol = metadata.symbol ∧ m'.issuer = metadata.issuer ∧
      m'.category = metadata.category ∧ m'.status = new ∧ m'.version.toNat = metadata.version.toNat + 1 ∧
      get_assets_by_status s' = Catalogue.add (Catalogue.drop (get_assets_by_status s) old asset_code) new asset_code ∧
      Saved [.Status] s s' asset_code m' := by
  simp only [move_status, bind_eq_ok, HostCalls.checked_add_u32_eq_ok, reads_eq_ok, and_assoc, exists_and_left,
    exists_eq_left] at h
  obtain ⟨_, s₁, hremove, _, s₂, hadd, hversion, hsave⟩ := h
  have hsaved := saved_of_ok hsave
  have hwrites : Writes [DataTag.Status] (add_to_status new asset_code) := inferInstance
  have hwrites' : Writes [DataTag.Status] (remove_from_status old asset_code) := inferInstance
  have hmoved := (hsaved.after hwrites hadd (by decide)).after hwrites' hremove (by decide)
  refine ⟨_, ?_, ?_, ?_, ?_, ?_, succ_version hversion, ?_, hmoved.mono (by simp)⟩
  iterate 5 rfl
  rw [hsaved.statuses_eq (by simp), statuses_of_add hadd, statuses_of_remove hremove]

theorem Outcome.of_status {m : AssetMetadata} (hload : s (.AssetMeta asset_code) = some m) {new : AssetStatus}
    (hmoves : Moves call asset_code m.status new)
    (h : ∃ m', m'.asset_code = m.asset_code ∧ m'.symbol = m.symbol ∧ m'.issuer = m.issuer ∧
      m'.category = m.category ∧ m'.status = new ∧ m'.version.toNat = m.version.toNat + 1 ∧
      get_assets_by_status s' =
        Catalogue.add (Catalogue.drop (get_assets_by_status s) m.status asset_code) new asset_code ∧
      Saved [.Status] s s' asset_code m') : Outcome s s' call := by
  obtain ⟨m', hcode, hsymbol, hissuer, hcategory, rfl, hversion, hstatuses, hsaved⟩ := h
  exact .revised ⟨hload, ⟨hcode, hsymbol, hissuer⟩, hversion, Or.inl ⟨hcategory, hsaved.categories_eq (by simp)⟩,
    Or.inr ⟨hmoves, hstatuses⟩, hsaved.mono (by simp)⟩

theorem recategorized_of_ok {new_category : AssetCategory}
    (h : update_category caller asset_code new_category env s = .ok ((), s')) :
    Outcome s s' (.update_category caller asset_code new_category) := by
  simp only [update_category, bind_eq_ok, require_admin_eq_ok, get_asset_or_err_eq_ok,
    HostCalls.checked_add_u32_eq_ok, reads_eq_ok, and_assoc, exists_and_left, exists_eq_left, exists_const] at h
  obtain ⟨-, -, m, hload, _, s₁, hremove, hversion, _, s₂, hadd, hsave⟩ := h
  have hsaved := saved_of_ok hsave
  have hwrites : Writes [DataTag.Category] (add_to_category new_category asset_code) := inferInstance
  have hwrites' : Writes [DataTag.Category] (remove_from_category m.category asset_code) := inferInstance
  have hmoved := (hsaved.after hwrites hadd (by decide)).after hwrites' hremove (by decide)
  have hcategories : get_assets_by_category s' =
      Catalogue.add (Catalogue.drop (get_assets_by_category s) m.category asset_code) new_category asset_code := by
    rw [hsaved.categories_eq (by simp), categories_of_add hadd, categories_of_remove hremove]
  refine .revised ⟨hload, ?_, succ_version hversion, Or.inr ⟨⟨caller, ?_⟩, hcategories⟩,
    Or.inl ⟨?_, hmoved.statuses_eq (by simp)⟩, hmoved.mono (by simp)⟩
  · exact ⟨rfl, rfl, rfl⟩
  · rfl
  · rfl

theorem outcome_of_exec (h : exec call env s = .ok ((), s')) : Outcome s s' call := by
  cases call with
  | initialize_registry => exact initialized_of_ok h
  | register_asset => exact registered_of_ok h
  | update_metadata => exact renamed_of_ok h
  | link_bridge_contract => exact linked_of_ok h
  | update_category => exact recategorized_of_ok h
  | update_risk =>
      simp only [exec, update_risk, bind_eq_ok, require_admin_eq_ok, panic_if_eq_ok, get_asset_or_err_eq_ok,
        HostCalls.checked_add_u32_eq_ok, reads_eq_ok, and_assoc, exists_and_left, exists_eq_left, exists_const] at h
      obtain ⟨-, -, -, m, hload, hversion, hsave⟩ := h
      have hsaved := saved_of_ok hsave
      refine .revised ⟨hload, ?_, succ_version hversion, Or.inl ⟨?_, hsaved.categories_eq (by simp)⟩,
        Or.inl ⟨?_, hsaved.statuses_eq (by simp)⟩, hsaved.mono (by simp)⟩
      · exact ⟨rfl, rfl, rfl⟩
      · rfl
      · rfl
  | update_status =>
      simp only [exec, update_status, bind_eq_ok, require_admin_eq_ok, panic_if_eq_ok, get_asset_or_err_eq_ok,
        Bool.not_eq_false, and_assoc, exists_and_left, exists_eq_left, exists_const] at h
      obtain ⟨-, -, m, hload, hvalid, hmove⟩ := h
      exact .of_status hload ⟨rfl, rfl, hvalid⟩ (moved_of_ok hmove)
  | deactivate_asset =>
      simp only [exec, deactivate_asset, bind_eq_ok, require_admin_eq_ok, panic_if_eq_ok, get_asset_or_err_eq_ok,
        not_not, and_assoc, exists_and_left, exists_eq_left, exists_const] at h
      obtain ⟨-, -, m, hload, hactive, hmove⟩ := h
      exact .of_status hload ⟨rfl, hactive, rfl⟩ (hactive ▸ moved_of_ok hmove)
  | restore_asset =>
      simp only [exec, restore_asset, bind_eq_ok, require_admin_eq_ok, panic_if_eq_ok, get_asset_or_err_eq_ok,
        not_not, and_assoc, exists_and_left, exists_eq_left, exists_const] at h
      obtain ⟨-, -, m, hload, hdeactivated, hmove⟩ := h
      exact .of_status hload ⟨rfl, hdeactivated, rfl⟩ (hdeactivated ▸ moved_of_ok hmove)
  | update_compliance _ asset_code =>
      simp only [exec, update_compliance, bind_eq_ok, require_admin_eq_ok, get_asset_or_err_eq_ok, load_eq_ok,
        HostCalls.checked_add_u32_eq_ok, HostCalls.push_back_eq_ok, reads_eq_ok, and_assoc, exists_and_left,
        exists_eq_left, exists_const] at h
      obtain ⟨-, -, m, hload, hversion, -, _, s₁, hrecord, hsave⟩ := h
      have hwrites := (inferInstance : ∀ records, Writes [DataTag.Other] (set (.Compliance asset_code) records))
      have hsaved := (saved_of_ok hsave).after (hwrites _) hrecord (by decide)
      refine .revised ⟨hload, ?_, succ_version hversion, Or.inl ⟨?_, hsaved.categories_eq (by simp)⟩,
        Or.inl ⟨?_, hsaved.statuses_eq (by simp)⟩, hsaved.mono (by simp)⟩
      · exact ⟨rfl, rfl, rfl⟩
      · rfl
      · rfl
  | link_chain | register_oracle_feed | add_liquidity_pool | whitelist_add | whitelist_remove =>
      rw [exec] at h
      exact kept_of_ok h
  | freeze_asset admin asset_code reason =>
      have h : freeze_asset admin asset_code reason env s = .ok ((), s') := h
      exact kept_of_ok h
  | unfreeze_asset admin asset_code =>
      have h : unfreeze_asset admin asset_code env s = .ok ((), s') := h
      exact kept_of_ok h

end Inversion

end BridgeWatch.AssetRegistry

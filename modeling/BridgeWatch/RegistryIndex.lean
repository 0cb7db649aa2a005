/-
The listings and the history of the asset registry.

Every entry point that moves an asset from one category or status to another takes it out of one index and puts it into
another by itself, and every one that changes the metadata pushes its own version. All of them agree with the metadata.
-/
import BridgeWatch.RegistryCalls

set_option autoImplicit false

namespace BridgeWatch.AssetRegistry

open Transaction Catalogue
open Contract (U32 U64 SString Address Env str)

/-- What `f` says of each registered asset. -/
def classes {κ : Type} (f : AssetMetadata → κ) (s : RegistryStorage) (asset_code : SString) : Option κ :=
  (s (.AssetMeta asset_code)).map f

/-- The number of a version. -/
abbrev number (v : MetadataVersion) : ℕ := v.version.toNat

/-- The listings and the history agree with the metadata. -/
structure Indexed (s : RegistryStorage) : Prop where
  unclaimed : s .Admin = none → ∀ asset_code, s (.AssetMeta asset_code) = none
  listed : Sorts (fun _ : Unit => get_all_assets s) (classes (fun _ => ()) s)
  categories : Sorts (get_assets_by_category s) (classes AssetMetadata.category s)
  statuses : Sorts (get_assets_by_status s) (classes AssetMetadata.status s)
  versions : ∀ asset_code m, s (.AssetMeta asset_code) = some m →
    Recent number MAX_VERSIONS (get_metadata_versions s asset_code) m.version.toNat ∧
      ((get_metadata_versions s asset_code).getLast?.map MetadataVersion.metadata) = some m

section Steps

variable {s s' : RegistryStorage} {call : EntryPoint} {asset_code : SString} {m m' : AssetMetadata} {ts : List DataTag}
  {κ : Type} {f : AssetMetadata → κ}

theorem classes_congr (h : ∀ a, s' (.AssetMeta a) = s (.AssetMeta a)) : classes f s' = classes f s :=
  funext fun a => by rw [classes, h, classes]

/-- What is said of the assets when one of them gets its metadata. -/
theorem classes_saved (hmeta : s' (.AssetMeta asset_code) = some m')
    (hother : ∀ a, a ≠ asset_code → s' (.AssetMeta a) = s (.AssetMeta a)) :
    classes f s' = Function.update (classes f s) asset_code (some (f m')) := by
  funext a
  by_cases ha : a = asset_code
  · subst ha
    rw [Function.update_self, classes, hmeta, Option.map_some]
  · rw [Function.update_of_ne ha, classes, hother a ha, classes]

/-- What is said of them does not change with what `f` does not say. -/
theorem classes_same (hload : s (.AssetMeta asset_code) = some m) (hmeta : s' (.AssetMeta asset_code) = some m')
    (hother : ∀ a, a ≠ asset_code → s' (.AssetMeta a) = s (.AssetMeta a)) (hsame : f m' = f m) :
    classes f s' = classes f s := by
  have hold : classes f s asset_code = some (f m) := by rw [classes, hload, Option.map_some]
  rw [classes_saved hmeta hother, hsame, ← hold, Function.update_eq_self]

/-- Where none of the keys is written that the listings and the history are under, they go on agreeing. -/
theorem Indexed.congr (hs : Indexed s)
    (h : ∀ key, DataKey.tag key ∈ [DataTag.Admin, .Meta, .Versions, .List, .Category, .Status] → s' key = s key) :
    Indexed s' := by
  have hmeta : ∀ a, s' (.AssetMeta a) = s (.AssetMeta a) := fun a => h _ (by simp)
  constructor
  · rw [h _ (by simp)]
    exact fun hadmin a => (hmeta a).trans (hs.unclaimed hadmin a)
  · rw [classes_congr hmeta, get_all_assets, h _ (by simp)]
    exact hs.listed
  · rw [classes_congr hmeta, categories_congr fun key hkey => h key (by simp [hkey])]
    exact hs.categories
  · rw [classes_congr hmeta, statuses_congr fun key hkey => h key (by simp [hkey])]
    exact hs.statuses
  · intro a n hn
    rw [hmeta] at hn
    rw [get_metadata_versions, h _ (by simp)]
    exact hs.versions a n hn

/-- The history of an asset whose next version is saved. -/
theorem Indexed.versions_saved (hs : Indexed s) (hload : s (.AssetMeta asset_code) = some m)
    (hnext : m'.version.toNat = m.version.toNat + 1) (h : Saved ts s s' asset_code m') (hmeta : DataTag.Meta ∉ ts)
    (hversions : DataTag.Versions ∉ ts) (a : SString) (n : AssetMetadata) (hn : s' (.AssetMeta a) = some n) :
    Recent number MAX_VERSIONS (get_metadata_versions s' a) n.version.toNat ∧
      ((get_metadata_versions s' a).getLast?.map MetadataVersion.metadata) = some n := by
  by_cases ha : a = asset_code
  · subst ha
    obtain rfl : m' = n := Option.some.inj (h.saved.symm.trans hn)
    obtain ⟨v, hversion, hmetadata, hkept⟩ := h.kept
    have hnumber : number v = m.version.toNat + 1 := by rw [number, hversion, hnext]
    rw [hkept, hnext]
    refine ⟨(hs.versions a m hload).1.push (by decide) hnumber, ?_⟩
    rw [push, List.getLast?_append, List.getLast?_singleton, Option.some_or, Option.map_some, hmetadata]
  · rw [h.frame (.AssetMeta a) (by simpa using ha) (by simp) hmeta] at hn
    rw [get_metadata_versions, h.frame (.Versions a) (by simp) (by simpa using ha) hversions]
    exact hs.versions a n hn

/-- An asset with a new version goes from one place in the indices to another, or stays where it is. -/
theorem Indexed.revised (hs : Indexed s) (h : Revised s s' call asset_code m m') : Indexed s' := by
  have hother : ∀ a, a ≠ asset_code → s' (.AssetMeta a) = s (.AssetMeta a) := fun a ha =>
    h.saved.frame _ (by simpa using ha) (by simp) (by simp)
  have hclass : ∀ {κ : Type} (f : AssetMetadata → κ), classes f s asset_code = some (f m) := fun f => by
    rw [classes, h.loaded, Option.map_some]
  have hrest : ∀ key, DataKey.tag key ∈ [DataTag.Admin, .List] → s' key = s key := by
    intro key hkey
    refine h.saved.frame key ?_ ?_ ?_
    · rintro rfl
      simp at hkey
    · rintro rfl
      simp at hkey
    · intro hmem
      cases hcase : DataKey.tag key <;> simp [hcase] at hkey hmem
  constructor
  · intro hadmin
    rw [hrest _ (by simp)] at hadmin
    have hload := h.loaded
    rw [hs.unclaimed hadmin] at hload
    cases hload
  · rw [classes_same h.loaded h.saved.saved hother rfl, get_all_assets, hrest _ (by simp)]
    exact hs.listed
  · obtain ⟨hsame, hindex⟩ | ⟨-, hindex⟩ := h.category
    · rw [hindex, classes_same h.loaded h.saved.saved hother hsame]
      exact hs.categories
    · rw [hindex, classes_saved h.saved.saved hother]
      exact hs.categories.move (hclass _) _
  · obtain ⟨hsame, hindex⟩ | ⟨-, hindex⟩ := h.status
    · rw [hindex, classes_same h.loaded h.saved.saved hother hsame]
      exact hs.statuses
    · rw [hindex, classes_saved h.saved.saved hother]
      exact hs.statuses.move (hclass _) _
  · exact hs.versions_saved h.loaded h.next h.saved (by simp) (by simp)

theorem indexed_empty : Indexed empty_storage where
  unclaimed _ _ := rfl
  listed := Sorts.empty
  categories := Sorts.empty
  statuses := Sorts.empty
  versions a m hm := by cases hm

/-- The list of all assets with a new one. -/
theorem Indexed.listed_new (hs : Indexed s) (hnew : s (.AssetMeta asset_code) = none) :
    Sorts (fun _ : Unit => get_all_assets s ++ [asset_code])
      (Function.update (classes (fun _ => ()) s) asset_code (some ())) := by
  have hclass : classes (fun _ => ()) s asset_code = none := by rw [classes, hnew, Option.map_none]
  have hnot : asset_code ∉ get_all_assets s := fun hmem => by
    rw [hs.listed.mem_iff (), hclass] at hmem
    cases hmem
  have hadded := hs.listed.add (k := ()) hclass
  rw [add, if_neg hnot] at hadded
  convert hadded using 1
  funext k
  rw [Function.update_self]

theorem indexed_step (hs : Indexed s) (h : Outcome s s' call) : Indexed s' := by
  cases h with
  | kept hframe => exact hs.congr fun key hkey => hframe key (by rintro h; simp [h] at hkey)
  | initialized hadmin hlist hframe =>
      have hmeta : ∀ a, s' (.AssetMeta a) = s (.AssetMeta a) := fun a => hframe _ (by simp) (by simp)
      have hnone : ∀ a, s' (.AssetMeta a) = none := fun a => (hmeta a).trans (hs.unclaimed hadmin a)
      constructor
      · exact fun _ => hnone
      · rw [get_all_assets, hlist, Option.getD_some]
        convert Sorts.empty using 1
        exact funext fun a => by rw [classes, hnone, Option.map_none]
      · rw [classes_congr hmeta, categories_congr fun key hkey => hframe key ?_ ?_]
        · exact hs.categories
        all_goals
          rintro rfl
          simp at hkey
      · rw [classes_congr hmeta, statuses_congr fun key hkey => hframe key ?_ ?_]
        · exact hs.statuses
        all_goals
          rintro rfl
          simp at hkey
      · intro a n hn
        rw [hnone] at hn
        cases hn
  | @registered _ code _ _ _ _ _ _ _ m hadmin hnew hissuer hfree hm hmeta _ _ hversions hlist hcategories hstatuses
      hframe =>
      have hother : ∀ a, a ≠ code → s' (.AssetMeta a) = s (.AssetMeta a) := fun a ha =>
        hframe _ (by simpa using ha) (by simp) (by simp) (by simp) (by simp)
      have hclass : ∀ {κ : Type} (f : AssetMetadata → κ), classes f s code = none := fun f => by
        rw [classes, hnew, Option.map_none]
      constructor
      · rw [hframe _ (by simp) (by simp) (by simp) (by simp) (by simp), hadmin]
        exact nofun
      · rw [classes_saved hmeta hother, get_all_assets, hlist, Option.getD_some]
        exact hs.listed_new hnew
      · rw [classes_saved hmeta hother, hcategories, hm]
        exact hs.categories.add (hclass _)
      · rw [classes_saved hmeta hother, hstatuses, hm]
        exact hs.statuses.add (hclass _)
      · intro a n hn
        by_cases ha : a = code
        · subst ha
          obtain rfl : m = n := Option.some.inj (hmeta.symm.trans hn)
          obtain ⟨v, hv, hmetadata, hhistory⟩ := hversions
          have hfirst : number v = 1 := by rw [number, hv]; rfl
          have hversion : m.version.toNat = 1 := by rw [hm]; rfl
          rw [hhistory, hversion]
          exact ⟨Recent.first (by decide) hfirst, by rw [List.getLast?_singleton, Option.map_some, hmetadata]⟩
        · rw [hother a ha] at hn
          rw [get_metadata_versions, hframe _ (by simp) (by simp) (by simp) (by simpa using ha) (by simp)]
          exact hs.versions a n hn
  | @renamed _ code _ _ _ _ _ _ _ _ hload _ _ hm hversion _ _ _ hsaved =>
      -- A renaming is a revision that stays where it is, as far as the indices go.
      have hother : ∀ a, a ≠ code → s' (.AssetMeta a) = s (.AssetMeta a) := fun a ha =>
        hsaved.frame _ (by simpa using ha) (by simp) (by simp)
      constructor
      · intro hadmin
        rw [hsaved.frame _ (by simp) (by simp) (by simp)] at hadmin
        rw [hs.unclaimed hadmin] at hload
        cases hload
      · rw [classes_same hload hsaved.saved hother rfl, get_all_assets, hsaved.frame _ (by simp) (by simp) (by simp)]
        exact hs.listed
      · rw [classes_same hload hsaved.saved hother hm.2.2.1, hsaved.categories_eq (by simp)]
        exact hs.categories
      · rw [classes_same hload hsaved.saved hother hm.2.2.2, hsaved.statuses_eq (by simp)]
        exact hs.statuses
      · exact hs.versions_saved hload hversion hsaved (by simp) (by simp)
  | revised hrevised => exact hs.revised hrevised
  | linked _ _ _ _ hframe =>
      refine hs.congr fun key hkey => hframe key ?_ ?_ <;> rintro rfl <;> simp at hkey

theorem run_indexed (calls : List (Env × EntryPoint)) : Indexed (run empty_storage calls) := by
  have hstep : ∀ {s : RegistryStorage} {t : Env × EntryPoint} {s'}, Indexed s → True →
      exec t.2 t.1 s = .ok ((), s') → Indexed s' := fun hs _ hok => indexed_step hs (outcome_of_exec hok)
  exact run_invariant (C := fun _ _ => True) hstep indexed_empty (Along.of_forall fun _ _ _ => trivial)

/-- An asset stays registered, and a call that succeeds changes its status only as the call may. -/
theorem status_of_outcome (h : Outcome s s' call) (hload : s (.AssetMeta asset_code) = some m) :
    ∃ m', s' (.AssetMeta asset_code) = some m' ∧
      (m'.status = m.status ∨ Moves call asset_code m.status m'.status) := by
  cases h with
  | kept hframe => exact ⟨m, by rw [hframe _ (by simp), hload], Or.inl rfl⟩
  | initialized _ _ hframe | linked _ _ _ _ hframe => exact ⟨m, by rw [hframe _ (by simp) (by simp), hload], Or.inl rfl⟩
  | @registered _ code _ _ _ _ _ _ _ _ _ hnew _ _ _ _ _ _ _ _ _ _ hframe =>
      have hne : asset_code ≠ code := by
        rintro rfl
        rw [hnew] at hload
        cases hload
      refine ⟨m, ?_, Or.inl rfl⟩
      rw [hframe _ (by simpa using hne) (by simp) (by simp) (by simp) (by simp), hload]
  | @renamed _ code _ _ _ _ _ _ n n' hloaded _ _ hm _ _ _ _ hsaved =>
      by_cases hcode : asset_code = code
      · subst hcode
        obtain rfl : n = m := Option.some.inj (hloaded.symm.trans hload)
        exact ⟨n', hsaved.saved, Or.inl hm.2.2.2⟩
      · exact ⟨m, by rw [hsaved.frame _ (by simpa using hcode) (by simp) (by simp), hload], Or.inl rfl⟩
  | @revised _ code n n' hrevised =>
      by_cases hcode : asset_code = code
      · subst hcode
        obtain rfl : n = m := Option.some.inj (hrevised.loaded.symm.trans hload)
        exact ⟨n', hrevised.saved.saved, hrevised.status.imp And.left And.left⟩
      · exact ⟨m, by rw [hrevised.saved.frame _ (by simpa using hcode) (by simp) (by simp), hload], Or.inl rfl⟩

/-- **The registry agrees with itself**: each asset is listed once, once under its category and once under its status,
which changes only along the lifecycle, and its history ends in what it is. -/
theorem registry_agrees (calls : List (Env × EntryPoint)) :
    (∀ a, (get_all_assets (run empty_storage calls)).count a =
      if (run empty_storage calls (.AssetMeta a)).isSome = true then 1 else 0) ∧
    (∀ a category, (get_assets_by_category (run empty_storage calls) category).count a =
      if (run empty_storage calls (.AssetMeta a)).map AssetMetadata.category = some category then 1 else 0) ∧
    (∀ a status, (get_assets_by_status (run empty_storage calls) status).count a =
      if (run empty_storage calls (.AssetMeta a)).map AssetMetadata.status = some status then 1 else 0) ∧
    (∀ a m, run empty_storage calls (.AssetMeta a) = some m →
      (∀ t, ∃ m', step exec t (run empty_storage calls) (.AssetMeta a) = some m' ∧
        (m'.status = m.status ∨ Moves t.2 a m.status m'.status)) ∧
      (get_metadata_versions (run empty_storage calls) a).map number =
        List.range' (m.version.toNat + 1 - min m.version.toNat MAX_VERSIONS) (min m.version.toNat MAX_VERSIONS) ∧
      (get_metadata_versions (run empty_storage calls) a).getLast?.map MetadataVersion.metadata = some m) := by
  have hs := run_indexed calls
  refine ⟨fun a => ?_, fun a category => hs.categories.count category a, fun a status => hs.statuses.count status a,
    fun a m hm => ⟨fun t => ?_, (hs.versions a m hm).1, (hs.versions a m hm).2⟩⟩
  · have hcount := hs.listed.count () a
    rw [hcount, classes]
    cases run empty_storage calls (.AssetMeta a) <;> rfl
  · rcases step_cases exec (run empty_storage calls) t with hok | ⟨-, heq⟩
    · exact status_of_outcome (outcome_of_exec hok) hm
    · exact ⟨m, by rw [heq, hm], Or.inl rfl⟩

end Steps

end BridgeWatch.AssetRegistry

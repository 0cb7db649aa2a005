/-
Retention cleanup.

Every list that the cleanup goes over is split into the records that stay and those that go, both in their order. The
last record stays, only records past their retention go, and they are put behind those archived before. The budget is
shared by the lists of one data type and by the data types.
-/
import BridgeWatch.CheckpointStore

set_option autoImplicit false

namespace BridgeWatch.Contract

open Transaction

/-- A list split in two, each part in the order of the list. -/
inductive Splits {α : Type} : (before kept removed : List α) → Prop
  | nil : Splits [] [] []
  | keep {before kept removed : List α} (a : α) (h : Splits before kept removed) :
      Splits (a :: before) (a :: kept) removed
  | remove {before kept removed : List α} (a : α) (h : Splits before kept removed) :
      Splits (a :: before) kept (a :: removed)

section Splits

variable {α : Type} {before kept removed : List α}

theorem Splits.refl (l : List α) : Splits l l [] := by
  induction l with
  | nil => exact .nil
  | cons a _ ih => exact ih.keep a

theorem Splits.kept_sublist (h : Splits before kept removed) : kept.Sublist before := by
  induction h with
  | nil => exact .slnil
  | keep a _ ih => exact ih.cons_cons a
  | remove a _ ih => exact ih.cons a

/-- Nothing is lost and nothing is there twice. -/
theorem Splits.perm (h : Splits before kept removed) : (kept ++ removed).Perm before := by
  induction h with
  | nil => exact .nil
  | keep a _ ih => exact ih.cons a
  | remove a _ ih => exact List.perm_middle.trans (ih.cons a)

theorem Splits.eq_of_nil (h : Splits before kept []) : kept = before := by
  have := h.perm
  rw [List.append_nil] at this
  exact h.kept_sublist.eq_of_length this.length_eq

end Splits

/-! ## One list -/

variable {env : Env} {s s' : Storage}

/-- A list after a cleanup: those removed are past their retention, and the newest record is not among them. -/
structure Cleaned {α : Type} (now : U64) (secs created_at : α → U64) (before kept removed : List α) : Prop where
  splits : Splits before kept removed
  expired : ∀ record ∈ removed, (secs record).toNat < now.toNat - (created_at record).toNat
  newest : kept.getLast? = before.getLast?

theorem Cleaned.refl {α : Type} (now : U64) (secs created_at : α → U64) (l : List α) :
    Cleaned now secs created_at l l [] := ⟨.refl l, nofun, rfl⟩

/-- **One sweep**, where the retention of the records does not depend on what is deleted. -/
theorem sweep_cleaned {α : Type} {J : Storage → Prop} {now : U64} {max_deletions deleted : U32}
    {retention_secs : α → Soroban U64} {secs created_at : α → U64} {delete : α → Soroban Unit} {l : List α}
    {swept : Sweep α}
    (hsecs : ∀ {s}, J s → ∀ record, retention_secs record env s = .ok (secs record, s))
    (hdelete : ∀ {s u s'} record, J s → delete record env s = .ok (u, s') → J s') (hJ : J s)
    (hbudget : deleted.toNat ≤ max_deletions.toNat)
    (h : sweep now max_deletions retention_secs created_at delete deleted l env s = .ok (swept, s')) :
    Cleaned now secs created_at l swept.kept swept.removed ∧
      swept.deleted.toNat = deleted.toNat + swept.removed.length ∧
      swept.deleted.toNat ≤ max_deletions.toNat ∧ J s' := by
  induction l generalizing deleted s swept with
  | nil =>
      obtain ⟨rfl, rfl⟩ := pure_eq_ok.mp h
      exact ⟨.refl _ _ _ _, rfl, hbudget, hJ⟩
  | cons record _ ih =>
      obtain ⟨a, s₁, hread, h⟩ := bind_eq_ok.mp h
      rw [hsecs hJ record] at hread
      obtain ⟨rfl, rfl⟩ : secs record = a ∧ s = s₁ := by simpa using hread
      rcases ite_eq_ok.mp h with ⟨⟨hne, hroom, hexpired⟩, h⟩ | ⟨-, h⟩
      · obtain ⟨u, s₁, hgone, h⟩ := bind_eq_ok.mp h
        obtain ⟨rest, s₂, hrest, h⟩ := bind_eq_ok.mp h
        obtain ⟨rfl, rfl⟩ := pure_eq_ok.mp h
        -- the budget keeps the count from wrapping around
        have hlt : deleted.toNat < max_deletions.toNat := hroom
        have hmax := max_deletions.toNat_lt
        have hsucc : (deleted + 1).toNat = deleted.toNat + 1 := by
          rw [UInt32.toNat_add, UInt32.toNat_one]
          omega
        obtain ⟨hcleaned, hcount, hle, hJ'⟩ := ih (hdelete record hJ hgone) (by omega) hrest
        refine ⟨⟨hcleaned.splits.remove record, ?_, ?_⟩, ?_, hle, hJ'⟩
        · refine List.forall_mem_cons.mpr ⟨?_, hcleaned.expired⟩
          have hexpired : (secs record).toNat < (saturating_sub_u64 now (created_at record)).toNat :=
            of_decide_eq_true hexpired
          rwa [toNat_saturating_sub] at hexpired
        · rw [hcleaned.newest, List.getLast?_cons, List.getLast?_eq_some_getLast hne, Option.getD_some]
        · rw [hcount, hsucc, List.length_cons]
          omega
      · obtain ⟨rest, s₂, hrest, h⟩ := bind_eq_ok.mp h
        obtain ⟨rfl, rfl⟩ := pure_eq_ok.mp h
        obtain ⟨hcleaned, hcount, hle, hJ'⟩ := ih hJ hbudget hrest
        refine ⟨⟨hcleaned.splits.keep record, hcleaned.expired, ?_⟩, hcount, hle, hJ'⟩
        rw [List.getLast?_cons, List.getLast?_cons, hcleaned.newest]

/-! ## The lists of one data type -/

/-- What a cleanup that archives counts as archived. -/
def archived_of {α : Type} (policy : RetentionPolicy) (removed : List α) : List α :=
  if policy.archive_before_delete then removed else []

/-- The lists under some ids after a cleanup, and how many records went from the ids at the front. -/
structure ListsCleaned {α : Type} (now : U64) (policy : RetentionPolicy) (secs created_at : α → U64)
    (live archive : Storage → SString → List α) (s s' : Storage) (removed : SString → List α) : Prop where
  live : ∀ id, Cleaned now secs created_at (live s id) (live s' id) (removed id)
  archive : ∀ id, archive s' id = archive s id ++ archived_of policy (removed id)

section Lists

variable {α : Type} {data_type : RetentionDataType} {asset_code : α → SString} {created_at : α → U64}
  {load : SString → Soroban (List α)} {store archive : SString → List α → Soroban Unit}
  {live archived : Storage → SString → List α} {policy : RetentionPolicy} {max_deletions : U32}

/-- The retention of a record: the override of its asset, or that of the policy. -/
def secs_of (s : Storage) (data_type : RetentionDataType) (policy : RetentionPolicy) (asset_code : SString) : U64 :=
  (s (.RetOvr asset_code data_type)).getD policy.retention_secs

/-- One round of the loop over the ids. -/
def cleanup_list (data_type : RetentionDataType) (asset_code : α → SString) (created_at : α → U64)
    (load : SString → Soroban (List α)) (store archive : SString → List α → Soroban Unit) (policy : RetentionPolicy)
    (max_deletions : U32) (now : U64) (totals : U32 × U32) (id : SString) : Soroban (U32 × U32) := do
  let records ← load id
  if max_deletions ≤ totals.1 ∨ records.length ≤ 1 then
    return totals
  else do
    let swept ← sweep now max_deletions
      (fun record => resolve_retention_secs data_type (asset_code record) policy.retention_secs)
      created_at (fun _ => pure ()) totals.1 records
    if swept.removed = [] then
      return (swept.deleted, totals.2)
    else do
      store id swept.kept
      exec_if (policy.archive_before_delete = true) do
        archive id swept.removed
      let archived := if policy.archive_before_delete then len swept.removed else 0
      return (swept.deleted, totals.2 + archived)

/-- The budget is kept, and nothing is archived that is not deleted. -/
structure Within_budget (max_deletions : U32) (totals : U32 × U32) : Prop where
  deleted : totals.1.toNat ≤ max_deletions.toNat
  archived : totals.2.toNat ≤ totals.1.toNat

variable (hload : ∀ id s, load id env s = .ok (live s id, s))
  (hstore : ∀ {id kept s u s'}, store id kept env s = .ok (u, s') →
    live s' = Function.update (live s) id kept ∧ archived s' = archived s ∧ ∀ a d, s' (.RetOvr a d) = s (.RetOvr a d))
  (harchive : ∀ {id removed s u s'}, archive id removed env s = .ok (u, s') →
    live s' = live s ∧ archived s' = Function.update (archived s) id (archived s id ++ removed) ∧
      ∀ a d, s' (.RetOvr a d) = s (.RetOvr a d))

include hload hstore harchive

/-- **One list.** -/
theorem cleanup_list_spec {secs : α → U64} {totals totals' : U32 × U32} {id : SString}
    (hsecs : ∀ record, secs record = secs_of s data_type policy (asset_code record))
    (hbudget : Within_budget max_deletions totals)
    (h : cleanup_list data_type asset_code created_at load store archive policy max_deletions env.timestamp totals id
      env s = .ok (totals', s')) :
    ∃ removed, Cleaned env.timestamp secs created_at (live s id) (live s' id) removed ∧
      (∀ x, x ≠ id → live s' x = live s x) ∧
      archived s' = Function.update (archived s) id (archived s id ++ archived_of policy removed) ∧
      (∀ a d, s' (.RetOvr a d) = s (.RetOvr a d)) ∧ Within_budget max_deletions totals' ∧
      totals'.1.toNat = totals.1.toNat + removed.length ∧
      totals'.2.toNat = totals.2.toNat + (archived_of policy removed).length := by
  have hnothing : archived s = Function.update (archived s) id (archived s id ++ archived_of policy []) := by
    have hnil : archived_of policy ([] : List α) = [] := by
      unfold archived_of
      split <;> rfl
    rw [hnil, List.append_nil, Function.update_eq_self]
  have hcount : (archived_of policy ([] : List α)).length = 0 := by
    unfold archived_of
    split <;> rfl
  obtain ⟨records, s₁, hread, h⟩ := bind_eq_ok.mp h
  rw [hload] at hread
  obtain ⟨rfl, rfl⟩ : live s id = records ∧ s = s₁ := by simpa using hread
  rcases ite_eq_ok.mp h with ⟨-, h⟩ | ⟨hgo, h⟩
  · obtain ⟨rfl, rfl⟩ := pure_eq_ok.mp h
    exact ⟨[], .refl _ _ _ _, fun _ _ => rfl, hnothing, fun _ _ => rfl, hbudget, rfl, by rw [hcount]; rfl⟩
  · obtain ⟨swept, s₁, hsweep, hrest⟩ := bind_eq_ok.mp h
    have hresolve : ∀ {s₀ : Storage}, s₀ = s → ∀ record,
        resolve_retention_secs data_type (asset_code record) policy.retention_secs env s₀ = .ok (secs record, s₀) := by
      rintro _ rfl record
      rw [hsecs]
      rfl
    obtain ⟨hcleaned, hdeleted, hle, hsame⟩ := sweep_cleaned (J := fun s₀ => s₀ = s) hresolve
      (fun record hs₀ hdel => by rw [(pure_eq_ok.mp hdel).2]; exact hs₀) rfl hbudget.deleted hsweep
    rw [hsame] at hrest
    have hold := hbudget.archived
    rcases ite_eq_ok.mp hrest with ⟨hnone, hrest⟩ | ⟨-, hrest⟩
    · obtain ⟨rfl, rfl⟩ := pure_eq_ok.mp hrest
      rw [hnone] at hcleaned hdeleted
      rw [hcleaned.splits.eq_of_nil] at hcleaned
      have hstill : swept.deleted.toNat = totals.1.toNat := hdeleted
      exact ⟨[], hcleaned, fun _ _ => rfl, hnothing, fun _ _ => rfl, ⟨hle, hstill ▸ hold⟩, hdeleted,
        by rw [hcount]; rfl⟩
    · obtain ⟨u, s₂, hput, hrest⟩ := bind_eq_ok.mp hrest
      obtain ⟨u', s₃, harch, hrest⟩ := bind_eq_ok.mp hrest
      obtain ⟨rfl, rfl⟩ := pure_eq_ok.mp hrest
      obtain ⟨hlive, harchived, hovr⟩ := hstore hput
      have hmax := max_deletions.toNat_lt
      have hlen : (len swept.removed).toNat = swept.removed.length := by
        rw [len, UInt32.toNat_ofNat', Nat.mod_eq_of_lt (by omega)]
      -- with or without the archive
      rcases exec_if_eq_ok.mp harch with ⟨hflag, harch⟩ | ⟨hflag, rfl⟩
      · obtain ⟨hlive', harchived', hovr'⟩ := harchive harch
        have hsum : (totals.2 + len swept.removed).toNat = totals.2.toNat + swept.removed.length := by
          rw [UInt32.toNat_add, hlen]
          omega
        refine ⟨swept.removed, ?_, fun x hx => ?_, ?_, fun a d => ?_, ⟨hle, ?_⟩, hdeleted, ?_⟩
        · rwa [hlive', hlive, Function.update_self]
        · rw [hlive', hlive, Function.update_of_ne hx]
        · rw [harchived', harchived, archived_of, if_pos hflag]
        · rw [hovr', hovr]
        · rw [if_pos hflag, hsum, hdeleted]
          omega
        · rw [if_pos hflag, hsum, archived_of, if_pos hflag]
      · refine ⟨swept.removed, ?_, fun x hx => ?_, ?_, hovr, ⟨hle, ?_⟩, hdeleted, ?_⟩
        · rwa [hlive, Function.update_self]
        · rw [hlive, Function.update_of_ne hx]
        · rw [harchived, archived_of, if_neg hflag, List.append_nil, Function.update_eq_self]
        · rw [if_neg hflag, UInt32.add_zero, hdeleted]
          exact hold.trans (Nat.le_add_right _ _)
        · rw [if_neg hflag, UInt32.add_zero, archived_of, if_neg hflag]
          rfl

/-- **The loop over the ids**, each of which it visits once. -/
theorem cleanup_rounds_spec {secs : α → U64} {ids : List SString} (hids : ids.Nodup) {totals totals' : U32 × U32}
    (hsecs : ∀ record, secs record = secs_of s data_type policy (asset_code record))
    (hbudget : Within_budget max_deletions totals)
    (h : ids.foldlM (cleanup_list data_type asset_code created_at load store archive policy max_deletions
      env.timestamp) totals env s = .ok (totals', s')) :
    ∃ removed : SString → List α,
      ListsCleaned env.timestamp policy secs created_at live archived s s' removed ∧
      (∀ id ∉ ids, removed id = []) ∧ Within_budget max_deletions totals' ∧
      totals'.1.toNat = totals.1.toNat + (ids.map fun id => (removed id).length).sum ∧
      totals'.2.toNat = totals.2.toNat + (ids.map fun id => (archived_of policy (removed id)).length).sum := by
  induction ids generalizing s totals with
  | nil =>
      obtain ⟨rfl, rfl⟩ := pure_eq_ok.mp h
      refine ⟨fun _ => [], ⟨fun id => .refl _ _ _ _, fun id => ?_⟩, fun _ _ => rfl, hbudget, rfl, rfl⟩
      unfold archived_of
      split <;> rw [List.append_nil]
  | cons id ids ih =>
      obtain ⟨hid, hids⟩ := List.nodup_cons.mp hids
      rw [List.foldlM_cons] at h
      obtain ⟨totals₁, s₁, hfirst, hrest⟩ := bind_eq_ok.mp h
      obtain ⟨first, hcleaned, hothers, harchived, hovr, hbudget₁, hdeleted, hcount⟩ :=
        cleanup_list_spec hload hstore harchive hsecs hbudget hfirst
      have hsecs₁ : ∀ record, secs record = secs_of s₁ data_type policy (asset_code record) := by
        intro record
        rw [hsecs, secs_of, secs_of, hovr]
      obtain ⟨removed, hlists, hnone, hbudget', hdeleted', hcount'⟩ := ih hids hsecs₁ hbudget₁ hrest
      -- the rounds after it leave its list alone
      have hdone : live s' id = live s₁ id := by
        have hlast := (hlists.live id).splits
        rw [hnone id hid] at hlast
        exact hlast.eq_of_nil
      have hother {x : SString} (hx : x ∈ ids) : x ≠ id := fun heq => hid (heq ▸ hx)
      refine ⟨Function.update removed id first, ⟨fun x => ?_, fun x => ?_⟩, fun x hx => ?_, hbudget', ?_, ?_⟩
      · by_cases hx : x = id
        · rw [hx, Function.update_self, hdone]
          exact hcleaned
        · rw [Function.update_of_ne hx, ← hothers x hx]
          exact hlists.live x
      · rw [hlists.archive, harchived]
        by_cases hx : x = id
        · have hnil : archived_of policy (removed id) = [] := by
            rw [hnone id hid]
            unfold archived_of
            split <;> rfl
          rw [hx, Function.update_self, Function.update_self, hnil, List.append_nil]
        · rw [Function.update_of_ne hx, Function.update_of_ne hx]
      · rw [List.mem_cons, not_or] at hx
        rw [Function.update_of_ne hx.1, hnone x hx.2]
      · have hsum : (ids.map fun x => (Function.update removed id first x).length) =
            ids.map fun x => (removed x).length :=
          List.map_congr_left fun x hx => by rw [Function.update_of_ne (hother hx)]
        rw [List.map_cons, List.sum_cons, hsum, Function.update_self, hdeleted', hdeleted, Nat.add_assoc]
      · have hsum : (ids.map fun x => (archived_of policy (Function.update removed id first x)).length) =
            ids.map fun x => (archived_of policy (removed x)).length :=
          List.map_congr_left fun x hx => by rw [Function.update_of_ne (hother hx)]
        rw [List.map_cons, List.sum_cons, hsum, Function.update_self, hcount', hcount, Nat.add_assoc]

/-- The newest record of each list stays, also where the loop comes to a list more than once. -/
theorem cleanup_rounds_newest {ids : List SString} {totals totals' : U32 × U32}
    (hbudget : Within_budget max_deletions totals)
    (h : ids.foldlM (cleanup_list data_type asset_code created_at load store archive policy max_deletions
      env.timestamp) totals env s = .ok (totals', s')) (x : SString) :
    (live s' x).getLast? = (live s x).getLast? := by
  induction ids generalizing s totals with
  | nil =>
      obtain ⟨rfl, rfl⟩ := pure_eq_ok.mp h
      rfl
  | cons id _ ih =>
      rw [List.foldlM_cons] at h
      obtain ⟨totals₁, s₁, hfirst, hrest⟩ := bind_eq_ok.mp h
      obtain ⟨first, hcleaned, hothers, -, -, hbudget₁, -⟩ :=
        cleanup_list_spec hload hstore harchive (fun _ => rfl) hbudget hfirst
      rw [ih hbudget₁ hrest]
      by_cases hx : x = id
      · rw [hx, hcleaned.newest]
      · rw [hothers x hx]

theorem cleanup_lists_newest {ids : List SString} {counts : U32 × U32}
    (h : cleanup_lists data_type asset_code created_at load store archive policy max_deletions ids env s =
      .ok (counts, s')) (x : SString) : (live s' x).getLast? = (live s x).getLast? := by
  obtain ⟨now, s₁, hnow, h⟩ := bind_eq_ok.mp h
  obtain ⟨rfl, rfl⟩ := reads_eq_ok.mp hnow
  exact cleanup_rounds_newest hload hstore harchive ⟨Nat.zero_le _, Nat.le_refl _⟩ h x

theorem cleanup_lists_spec {ids : List SString} (hids : ids.Nodup) {counts : U32 × U32}
    (h : cleanup_lists data_type asset_code created_at load store archive policy max_deletions ids env s =
      .ok (counts, s')) :
    ∃ removed : SString → List α,
      ListsCleaned env.timestamp policy (fun record => secs_of s data_type policy (asset_code record)) created_at live
        archived s s' removed ∧
      (∀ id ∉ ids, removed id = []) ∧ counts.1.toNat = (ids.map fun id => (removed id).length).sum ∧
      counts.1.toNat ≤ max_deletions.toNat ∧
      counts.2.toNat = (ids.map fun id => (archived_of policy (removed id)).length).sum := by
  obtain ⟨now, s₁, hnow, h⟩ := bind_eq_ok.mp h
  obtain ⟨rfl, rfl⟩ := reads_eq_ok.mp hnow
  obtain ⟨removed, hlists, hnone, hbudget, hdeleted, hcount⟩ :=
    cleanup_rounds_spec hload hstore harchive hids (fun _ => rfl) ⟨Nat.zero_le _, Nat.le_refl _⟩ h
  refine ⟨removed, hlists, hnone, ?_, hbudget.deleted, ?_⟩
  · rw [hdeleted, UInt32.toNat_zero, Nat.zero_add]
  · rw [hcount, UInt32.toNat_zero, Nat.zero_add]

end Lists

/-! ## The three data types -/

def mismatches (s : Storage) (bridge_id : SString) : List SupplyMismatch := (s (.Mismatches bridge_id)).getD []

def archived_mismatches (s : Storage) (bridge_id : SString) : List SupplyMismatch :=
  (s (.ArchMismatches bridge_id)).getD []

def bridge_ids (s : Storage) : List SString := (s .BRIDGE_IDS).getD []

def liquidity_history (s : Storage) (pair : SString) : List LiquidityDepth := (s (.LiqHist pair)).getD []

def archived_liquidity_history (s : Storage) (pair : SString) : List LiquidityDepth := (s (.ArchLiqHist pair)).getD []

def liquidity_pairs (s : Storage) : List SString := (s .LIQUIDITY_PAIRS).getD []

def archived_metadata (s : Storage) : List CheckpointMetadata := (s .ARCHIVED_CHECKPOINT_META).getD []

theorem load_mismatches_ok (bridge_id : SString) (s : Storage) :
    load_mismatches bridge_id env s = .ok (mismatches s bridge_id, s) := rfl

theorem store_mismatches_ok {bridge_id : SString} {kept : List SupplyMismatch} {u : Unit} {s s' : Storage}
    (h : (set (.Mismatches bridge_id) kept : Soroban Unit) env s = .ok (u, s')) :
    mismatches s' = Function.update (mismatches s) bridge_id kept ∧ archived_mismatches s' = archived_mismatches s ∧
      ∀ a d, s' (.RetOvr a d) = s (.RetOvr a d) := by
  rw [save_eq_ok] at h
  rw [h]
  refine ⟨funext fun x => ?_, funext fun x => ?_, fun a d => ?_⟩
  · by_cases hx : x = bridge_id
    · subst hx
      simp [mismatches]
    · simp [mismatches, hx]
  · simp [archived_mismatches]
  · simp

theorem archive_mismatches_ok {bridge_id : SString} {removed : List SupplyMismatch} {u : Unit} {s s' : Storage}
    (h : archive_mismatches bridge_id removed env s = .ok (u, s')) :
    mismatches s' = mismatches s ∧
      archived_mismatches s' = Function.update (archived_mismatches s) bridge_id
        (archived_mismatches s bridge_id ++ removed) ∧ ∀ a d, s' (.RetOvr a d) = s (.RetOvr a d) := by
  simp only [archive_mismatches, bind_eq_ok, load_eq_ok, save_eq_ok, and_assoc, exists_and_left, exists_eq_left] at h
  rw [h]
  refine ⟨funext fun x => ?_, funext fun x => ?_, fun a d => ?_⟩
  · simp [mismatches]
  · by_cases hx : x = bridge_id
    · subst hx
      simp [archived_mismatches]
    · simp [archived_mismatches, hx]
  · simp

theorem load_liquidity_history_ok (pair : SString) (s : Storage) :
    load_liquidity_history pair env s = .ok (liquidity_history s pair, s) := rfl

theorem store_liquidity_history_ok {pair : SString} {kept : List LiquidityDepth} {u : Unit} {s s' : Storage}
    (h : (set (.LiqHist pair) kept : Soroban Unit) env s = .ok (u, s')) :
    liquidity_history s' = Function.update (liquidity_history s) pair kept ∧
      archived_liquidity_history s' = archived_liquidity_history s ∧ ∀ a d, s' (.RetOvr a d) = s (.RetOvr a d) := by
  rw [save_eq_ok] at h
  rw [h]
  refine ⟨funext fun x => ?_, funext fun x => ?_, fun a d => ?_⟩
  · by_cases hx : x = pair
    · subst hx
      simp [liquidity_history]
    · simp [liquidity_history, hx]
  · simp [archived_liquidity_history]
  · simp

theorem archive_liquidity_history_ok {pair : SString} {removed : List LiquidityDepth} {u : Unit} {s s' : Storage}
    (h : archive_liquidity_history pair removed env s = .ok (u, s')) :
    liquidity_history s' = liquidity_history s ∧
      archived_liquidity_history s' = Function.update (archived_liquidity_history s) pair
        (archived_liquidity_history s pair ++ removed) ∧ ∀ a d, s' (.RetOvr a d) = s (.RetOvr a d) := by
  simp only [archive_liquidity_history, bind_eq_ok, load_eq_ok, save_eq_ok, and_assoc, exists_and_left,
    exists_eq_left] at h
  rw [h]
  refine ⟨funext fun x => ?_, funext fun x => ?_, fun a d => ?_⟩
  · simp [liquidity_history]
  · by_cases hx : x = pair
    · subst hx
      simp [archived_liquidity_history]
    · simp [archived_liquidity_history, hx]
  · simp

/-- The newest mismatch of a bridge. -/
def NewestMismatch (bridge_id : SString) (newest : Option SupplyMismatch) (s : Storage) : Prop :=
  (mismatches s bridge_id).getLast? = newest

section Newest

variable {bridge_id : SString} {newest : Option SupplyMismatch}

instance : DependsOn [.Mismatches] (NewestMismatch bridge_id newest) where
  congr := by
    intro s s' heq h
    rw [NewestMismatch, mismatches, heq (.Mismatches bridge_id) (show Tag.Mismatches ∈ _ by decide)]
    exact h

instance (policy : RetentionPolicy) (max_deletions : U32) :
    Preserves (NewestMismatch bridge_id newest) (cleanup_supply_mismatches policy max_deletions) where
  preserved := by
    intro env s counts s' hs h
    obtain ⟨ids, s₁, hread, h⟩ := bind_eq_ok.mp h
    obtain ⟨rfl, rfl⟩ := load_eq_ok.mp hread
    rw [NewestMismatch, cleanup_lists_newest load_mismatches_ok store_mismatches_ok archive_mismatches_ok h]
    exact hs

/-- What a cleanup writes besides the mismatches. -/
abbrev otherTags : List Tag :=
  [.LiqHist, .ArchLiqHist, .CHECKPOINT_METADATA_LIST, .ChkpntSnap, .ArchChkpntSnap, .ARCHIVED_CHECKPOINT_META,
    .LastCleanup]

instance (priority := low) {α : Type} (m : Soroban α) [hm : Writes otherTags m] :
    Preserves (NewestMismatch bridge_id newest) m :=
  hm.preserves (by decide)

instance (data_type : RetentionDataType) (policy : RetentionPolicy) (max_deletions : U32) :
    Preserves (NewestMismatch bridge_id newest) (cleanup_data_type_internal data_type policy max_deletions) := by
  unfold cleanup_data_type_internal cleanup_of
  cases data_type <;> dsimp only <;> infer_instance

set_option synthInstance.maxSize 2000 in
/-- **The automatic cleanup leaves the newest mismatch.** -/
instance : Preserves (NewestMismatch bridge_id newest) maybe_trigger_auto_cleanup := by
  unfold maybe_trigger_auto_cleanup
  infer_instance

end Newest

/-! ## One data type -/

/-- The policy of a data type. -/
def retention_policy (s : Storage) (data_type : RetentionDataType) : RetentionPolicy :=
  (s (.RetPolicy data_type)).getD (default_retention_policy data_type)

/-- The records of a data type after a cleanup that deleted and archived so many of them. -/
def Swept (data_type : RetentionDataType) (now : U64) (policy : RetentionPolicy) (s s' : Storage)
    (deleted archived : ℕ) : Prop :=
  match data_type with
  | .SupplyMismatches => ∃ removed : SString → List SupplyMismatch,
      ListsCleaned now policy (fun record => secs_of s .SupplyMismatches policy record.asset_code)
        SupplyMismatch.timestamp mismatches archived_mismatches s s' removed ∧
      (∀ bridge_id ∉ bridge_ids s, removed bridge_id = []) ∧
      deleted = ((bridge_ids s).map fun bridge_id => (removed bridge_id).length).sum ∧
      archived = ((bridge_ids s).map fun bridge_id => (archived_of policy (removed bridge_id)).length).sum
  | .LiquidityHistory => ∃ removed : SString → List LiquidityDepth,
      ListsCleaned now policy (fun record => secs_of s .LiquidityHistory policy record.asset_pair)
        LiquidityDepth.timestamp liquidity_history archived_liquidity_history s s' removed ∧
      (∀ pair ∉ liquidity_pairs s, removed pair = []) ∧
      deleted = ((liquidity_pairs s).map fun pair => (removed pair).length).sum ∧
      archived = ((liquidity_pairs s).map fun pair => (archived_of policy (removed pair)).length).sum
  | .Checkpoints => ∃ removed : List CheckpointMetadata,
      Cleaned now (fun _ => policy.retention_secs) CheckpointMetadata.created_at (metadata_list s) (metadata_list s')
        removed ∧
      archived_metadata s' = archived_metadata s ++ archived_of policy removed ∧
      deleted = removed.length ∧ archived = (archived_of policy removed).length

section Types

variable {data_type other : RetentionDataType} {now : U64} {policy : RetentionPolicy} {deleted archived : ℕ}
  {max_deletions : U32} {t t' : Storage}

theorem length_archived_of {α : Type} (policy : RetentionPolicy) (removed : List α) :
    (archived_of policy removed).length = if policy.archive_before_delete then removed.length else 0 := by
  unfold archived_of
  split <;> rfl

theorem archived_of_nil {α : Type} (policy : RetentionPolicy) : archived_of policy ([] : List α) = [] := by
  unfold archived_of
  split <;> rfl

/-- What is archived is what is deleted, or nothing. -/
theorem Swept.archived_eq (h : Swept data_type now policy s s' deleted archived) :
    archived = if policy.archive_before_delete then deleted else 0 := by
  have hsum {α : Type} (removed : SString → List α) (ids : List SString) :
      (ids.map fun id => (archived_of policy (removed id)).length).sum =
        if policy.archive_before_delete then (ids.map fun id => (removed id).length).sum else 0 := by
    simp only [length_archived_of]
    split
    · rfl
    · simp
  cases data_type with
  | SupplyMismatches | LiquidityHistory =>
      obtain ⟨removed, -, -, hdeleted, harchived⟩ := h
      rw [harchived, hdeleted, hsum]
  | Checkpoints =>
      obtain ⟨removed, -, -, hdeleted, harchived⟩ := h
      rw [harchived, hdeleted, length_archived_of]

theorem ListsCleaned.refl {α : Type} (now : U64) (policy : RetentionPolicy) (secs created_at : α → U64)
    (live archive : Storage → SString → List α) (s : Storage) :
    ListsCleaned now policy secs created_at live archive s s fun _ => [] :=
  ⟨fun _ => .refl _ _ _ _, fun _ => by rw [archived_of_nil, List.append_nil]⟩

/-- A cleanup that deletes nothing. -/
theorem Swept.refl (data_type : RetentionDataType) (now : U64) (policy : RetentionPolicy) (s : Storage) :
    Swept data_type now policy s s 0 0 := by
  cases data_type with
  | SupplyMismatches | LiquidityHistory =>
      exact ⟨fun _ => [], .refl _ _ _ _ _ _ _, fun _ _ => rfl, by simp, by simp [archived_of_nil]⟩
  | Checkpoints =>
      exact ⟨[], .refl _ _ _ _, by rw [archived_of_nil, List.append_nil], rfl, by rw [archived_of_nil]; rfl⟩

/-- What the cleanup of a data type writes. -/
def sweepTags : RetentionDataType → List Tag
  | .SupplyMismatches => [.Mismatches, .ArchMismatches, .LastCleanup]
  | .LiquidityHistory => [.LiqHist, .ArchLiqHist, .LastCleanup]
  | .Checkpoints =>
      [.CHECKPOINT_METADATA_LIST, .ChkpntSnap, .ArchChkpntSnap, .ARCHIVED_CHECKPOINT_META, .LastCleanup]

/-- What the records of a data type and their retention depend on. -/
def retainedTags : RetentionDataType → List Tag
  | .SupplyMismatches => [.Mismatches, .ArchMismatches, .BRIDGE_IDS, .RetOvr]
  | .LiquidityHistory => [.LiqHist, .ArchLiqHist, .LIQUIDITY_PAIRS, .RetOvr]
  | .Checkpoints => [.CHECKPOINT_METADATA_LIST, .ARCHIVED_CHECKPOINT_META]

theorem retainedTags_disjoint (h : data_type ≠ other) : ∀ t ∈ retainedTags data_type, t ∉ sweepTags other := by
  cases data_type <;> cases other <;> first | exact absurd rfl h | decide

theorem ListsCleaned.congr {α : Type} {secs created_at : α → U64} {live archive : Storage → SString → List α}
    {removed : SString → List α} (hlive : live t = live s) (hlive' : live t' = live s')
    (harchive : archive t = archive s) (harchive' : archive t' = archive s')
    (h : ListsCleaned now policy secs created_at live archive s s' removed) :
    ListsCleaned now policy secs created_at live archive t t' removed := by
  constructor
  · rw [hlive, hlive']
    exact h.live
  · rw [harchive, harchive']
    exact h.archive

/-- The cleanup of a data type is about its own records only. -/
theorem Swept.congr (hs : ∀ k : Key, k.tag ∈ retainedTags data_type → t k = s k)
    (hs' : ∀ k : Key, k.tag ∈ retainedTags data_type → t' k = s' k)
    (h : Swept data_type now policy s s' deleted archived) : Swept data_type now policy t t' deleted archived := by
  cases data_type with
  | SupplyMismatches =>
      have hlive {u v : Storage} (huv : ∀ k : Key, k.tag ∈ retainedTags .SupplyMismatches → v k = u k) :
          mismatches v = mismatches u :=
        funext fun id => congrArg (Option.getD · []) (huv (.Mismatches id) (by simp [Key.tag, retainedTags]))
      have harchive {u v : Storage} (huv : ∀ k : Key, k.tag ∈ retainedTags .SupplyMismatches → v k = u k) :
          archived_mismatches v = archived_mismatches u :=
        funext fun id => congrArg (Option.getD · []) (huv (.ArchMismatches id) (by simp [Key.tag, retainedTags]))
      have hsecs (a : SString) : secs_of t .SupplyMismatches policy a = secs_of s .SupplyMismatches policy a :=
        congrArg (Option.getD · _) (hs (.RetOvr a .SupplyMismatches) (by simp [Key.tag, retainedTags]))
      have hids : bridge_ids t = bridge_ids s := congrArg (Option.getD · []) (hs .BRIDGE_IDS (by decide))
      obtain ⟨removed, hlists, hcounts⟩ := h
      simp only [Swept, hids, hsecs]
      exact ⟨removed, hlists.congr (hlive hs) (hlive hs') (harchive hs) (harchive hs'), hcounts⟩
  | LiquidityHistory =>
      have hlive {u v : Storage} (huv : ∀ k : Key, k.tag ∈ retainedTags .LiquidityHistory → v k = u k) :
          liquidity_history v = liquidity_history u :=
        funext fun pair => congrArg (Option.getD · []) (huv (.LiqHist pair) (by simp [Key.tag, retainedTags]))
      have harchive {u v : Storage} (huv : ∀ k : Key, k.tag ∈ retainedTags .LiquidityHistory → v k = u k) :
          archived_liquidity_history v = archived_liquidity_history u :=
        funext fun pair => congrArg (Option.getD · []) (huv (.ArchLiqHist pair) (by simp [Key.tag, retainedTags]))
      have hsecs (a : SString) : secs_of t .LiquidityHistory policy a = secs_of s .LiquidityHistory policy a :=
        congrArg (Option.getD · _) (hs (.RetOvr a .LiquidityHistory) (by simp [Key.tag, retainedTags]))
      have hids : liquidity_pairs t = liquidity_pairs s :=
        congrArg (Option.getD · []) (hs .LIQUIDITY_PAIRS (by decide))
      obtain ⟨removed, hlists, hcounts⟩ := h
      simp only [Swept, hids, hsecs]
      exact ⟨removed, hlists.congr (hlive hs) (hlive hs') (harchive hs) (harchive hs'), hcounts⟩
  | Checkpoints =>
      obtain ⟨removed, hcleaned, harchive, hcounts⟩ := h
      refine ⟨removed, ?_, ?_, hcounts⟩
      · rw [metadata_list, metadata_list, hs .CHECKPOINT_METADATA_LIST (by decide),
          hs' .CHECKPOINT_METADATA_LIST (by decide)]
        exact hcleaned
      · rw [archived_metadata, archived_metadata, hs .ARCHIVED_CHECKPOINT_META (by decide),
          hs' .ARCHIVED_CHECKPOINT_META (by decide)]
        exact harchive

/-- The lists of ids name no id twice. -/
structure Listed_once (s : Storage) : Prop where
  bridge_ids : (bridge_ids s).Nodup
  liquidity_pairs : (liquidity_pairs s).Nodup

/-- **The cleanup of the checkpoints**, whose retention is that of the policy. -/
theorem cleanup_checkpoints_swept {counts : U32 × U32}
    (h : cleanup_checkpoints policy max_deletions env s = .ok (counts, s')) :
    Swept .Checkpoints env.timestamp policy s s' counts.1.toNat counts.2.toNat ∧
      counts.1.toNat ≤ max_deletions.toNat := by
  simp only [cleanup_checkpoints, bind_eq_ok, reads_eq_ok, load_checkpoint_metadata_eq_ok, ite_eq_ok, pure_eq_ok,
    and_assoc, exists_and_left, exists_eq_left] at h
  rcases h with ⟨-, rfl, rfl⟩ | ⟨-, swept, s₁, hsweep, _, s₂, hset, _, s₃, harchive, rfl, rfl⟩
  · exact ⟨Swept.refl _ _ _ _, Nat.zero_le _⟩
  · have hsecs {s₀ : Storage} (_ : True) (record : CheckpointMetadata) :
        (pure policy.retention_secs : Soroban U64) env s₀ =
          .ok ((fun _ => policy.retention_secs : CheckpointMetadata → U64) record, s₀) := rfl
    obtain ⟨hcleaned, hdeleted, hle, -⟩ := sweep_cleaned hsecs (fun _ _ _ => trivial) trivial (Nat.zero_le _) hsweep
    rw [UInt32.toNat_zero, Nat.zero_add] at hdeleted
    have hsweep_frame := (inferInstance : Writes [Tag.ChkpntSnap, .ArchChkpntSnap] _).frame hsweep
    have hset_frame := (inferInstance : Writes [Tag.CHECKPOINT_METADATA_LIST] _).frame hset
    have harchive_frame := (inferInstance : Writes [Tag.ARCHIVED_CHECKPOINT_META] _).frame harchive
    have hlist : metadata_list s' = swept.kept := by
      rw [metadata_list, harchive_frame .CHECKPOINT_METADATA_LIST (by decide)]
      rcases exec_if_eq_ok.mp hset with ⟨-, hset⟩ | ⟨hnone, rfl⟩
      · rw [save_eq_ok] at hset
        rw [hset, Function.update_self, Option.getD_some]
      · -- nothing was deleted, and the list is as it was
        rw [UInt32.lt_iff_toNat_lt, UInt32.toNat_zero, hdeleted] at hnone
        have hnil : swept.removed = [] := List.length_eq_zero_iff.mp (by omega)
        have hsplits := hcleaned.splits
        rw [hnil] at hsplits
        rw [hsplits.eq_of_nil, hsweep_frame .CHECKPOINT_METADATA_LIST (by decide), metadata_list]
    have hbefore : archived_metadata s₂ = archived_metadata s := by
      rw [archived_metadata, hset_frame .ARCHIVED_CHECKPOINT_META (by decide),
        hsweep_frame .ARCHIVED_CHECKPOINT_META (by decide), archived_metadata]
    have harchived : archived_metadata s' = archived_metadata s ++ archived_of policy swept.removed := by
      rw [← hbefore, archived_of]
      rcases exec_if_eq_ok.mp harchive with ⟨⟨hflag, -⟩, harchive⟩ | ⟨hnone, rfl⟩
      · simp only [archive_checkpoint_metadata, bind_eq_ok, load_eq_ok, save_eq_ok, and_assoc, exists_and_left,
          exists_eq_left] at harchive
        rw [if_pos hflag, archived_metadata, harchive, Function.update_self, Option.getD_some, archived_metadata]
      · by_cases hflag : policy.archive_before_delete = true
        · have hnil : swept.removed = [] := by
            by_contra hne
            exact hnone ⟨hflag, hne⟩
          rw [if_pos hflag, hnil, List.append_nil]
        · rw [if_neg hflag, List.append_nil]
    refine ⟨⟨swept.removed, ?_, harchived, hdeleted, ?_⟩, hle⟩
    · rw [hlist]
      exact hcleaned
    · have hmax := max_deletions.toNat_lt
      have hlen : (len swept.removed).toNat = swept.removed.length := by
        rw [len, UInt32.toNat_ofNat', Nat.mod_eq_of_lt (by omega)]
      rw [length_archived_of]
      dsimp only
      split
      · exact hlen
      · rfl

/-- **The cleanup of one data type.** -/
theorem cleanup_of_swept {counts : U32 × U32} (hids : Listed_once s)
    (h : cleanup_of data_type policy max_deletions env s = .ok (counts, s')) :
    Swept data_type env.timestamp policy s s' counts.1.toNat counts.2.toNat ∧
      counts.1.toNat ≤ max_deletions.toNat := by
  cases data_type with
  | SupplyMismatches =>
      obtain ⟨ids, s₁, hread, h⟩ := bind_eq_ok.mp h
      obtain ⟨rfl, rfl⟩ := load_eq_ok.mp hread
      obtain ⟨removed, hlists, hnone, hdeleted, hle, harchived⟩ := cleanup_lists_spec load_mismatches_ok
        store_mismatches_ok archive_mismatches_ok hids.bridge_ids h
      exact ⟨⟨removed, hlists, hnone, hdeleted, harchived⟩, hle⟩
  | LiquidityHistory =>
      obtain ⟨ids, s₁, hread, h⟩ := bind_eq_ok.mp h
      obtain ⟨rfl, rfl⟩ := load_eq_ok.mp hread
      obtain ⟨removed, hlists, hnone, hdeleted, hle, harchived⟩ := cleanup_lists_spec load_liquidity_history_ok
        store_liquidity_history_ok archive_liquidity_history_ok hids.liquidity_pairs h
      exact ⟨⟨removed, hlists, hnone, hdeleted, harchived⟩, hle⟩
  | Checkpoints => exact cleanup_checkpoints_swept h

end Types

/-! ## The whole cleanup -/

section Cleanup

variable {data_type : RetentionDataType} {max_total_deletions : U32} {result result' : CleanupResult}

/-- One round of the loop of `cleanup_old_data`. -/
def cleanup_round (max_total_deletions : U32) (now : U64) (result : CleanupResult) (data_type : RetentionDataType) :
    Soroban CleanupResult := do
  let policy ← load_retention_policy data_type
  let run_budget := policy.run_budget (max_total_deletions - result.total_deleted)
  if max_total_deletions ≤ result.total_deleted ∨ policy.enabled = false ∨ run_budget = 0 then
    return result
  else do
    let counts ← cleanup_data_type_internal data_type policy run_budget
    let total_deleted ← add_u32 result.total_deleted counts.1
    let total_archived ← add_u32 result.total_archived counts.2
    set (.LastCleanup data_type) now
    return {
      result with
      total_deleted := total_deleted
      total_archived := total_archived
      details := result.details ++ [{ data_type, deleted := counts.1, archived := counts.2 }] }

theorem cleanup_old_data_eq (caller : Address) (max_total_deletions : U32) :
    cleanup_old_data caller max_total_deletions =
      (do
        assert_admin_or_super_admin_retention caller
        panic_if (max_total_deletions = 0) "max_total_deletions must be greater than zero"
        let now ← timestamp
        retention_data_types.foldlM (cleanup_round max_total_deletions now)
          { executed_at := now, total_deleted := 0, total_archived := 0, details := [] }) :=
  rfl

/-- What the loop over some data types has done: so many records of each type deleted and archived. -/
structure Rounds (data_types : List RetentionDataType) (now : U64) (max_total_deletions : U32) (s s' : Storage)
    (result result' : CleanupResult) (deleted archived : RetentionDataType → ℕ) : Prop where
  swept : ∀ data_type ∈ data_types,
    Swept data_type now (retention_policy s data_type) s s' (deleted data_type) (archived data_type)
  per_run : ∀ data_type ∈ data_types,
    deleted data_type ≤ (retention_policy s data_type).max_deletions_per_run.toNat
  total_deleted : result'.total_deleted.toNat = result.total_deleted.toNat + (data_types.map deleted).sum
  total_archived : result'.total_archived.toNat = result.total_archived.toNat + (data_types.map archived).sum
  budget : result'.total_deleted.toNat ≤ max_total_deletions.toNat
  details : ∀ entry ∈ result'.details, entry ∈ result.details ∨ entry.data_type ∈ data_types ∧
    entry.deleted.toNat = deleted entry.data_type ∧ entry.archived.toNat = archived entry.data_type
  frame : ∀ k : Key, (∀ data_type ∈ data_types, k.tag ∉ sweepTags data_type) → s' k = s k

instance (policy : RetentionPolicy) (max_deletions : U32) :
    Writes (sweepTags data_type) (cleanup_of data_type policy max_deletions) := by
  cases data_type <;> (unfold sweepTags cleanup_of; dsimp only; infer_instance)

theorem run_budget_le (policy : RetentionPolicy) (budget : U32) :
    (policy.run_budget budget).toNat ≤ policy.max_deletions_per_run.toNat ∧
      (policy.run_budget budget).toNat ≤ budget.toNat := by
  unfold RetentionPolicy.run_budget
  by_cases hlt : policy.max_deletions_per_run < budget
  · rw [if_pos hlt]
    exact ⟨Nat.le_refl _, (UInt32.lt_iff_toNat_lt.mp hlt).le⟩
  · rw [if_neg hlt]
    exact ⟨UInt32.le_iff_toNat_le.mp (UInt32.not_lt.mp hlt), Nat.le_refl _⟩

/-- **One round.** -/
theorem cleanup_round_spec (hids : Listed_once s)
    (hbudget : result.total_deleted.toNat ≤ max_total_deletions.toNat)
    (h : cleanup_round max_total_deletions env.timestamp result data_type env s = .ok (result', s')) :
    ∃ x y, Rounds [data_type] env.timestamp max_total_deletions s s' result result' (fun _ => x) fun _ => y := by
  obtain ⟨policy, s₁, hpolicy, h⟩ := bind_eq_ok.mp h
  obtain ⟨rfl, rfl⟩ : policy = retention_policy s data_type ∧ s₁ = s := by
    simpa only [load_retention_policy, retention_policy, bind_eq_ok, load_eq_ok, pure_eq_ok, and_assoc,
      exists_and_left, exists_eq_left] using hpolicy
  rcases ite_eq_ok.mp h with ⟨-, h⟩ | ⟨hgo, h⟩
  · obtain ⟨rfl, rfl⟩ := pure_eq_ok.mp h
    refine ⟨0, 0, fun d hd => ?_, fun d hd => Nat.zero_le _, rfl, rfl, hbudget, fun entry hentry => .inl hentry,
      fun k hk => rfl⟩
    exact Swept.refl _ _ _ _
  · rw [not_or, not_or, UInt32.not_le] at hgo
    obtain ⟨hroom, -, hpos⟩ := hgo
    obtain ⟨counts, s₂, hsweep, h⟩ := bind_eq_ok.mp h
    rw [cleanup_data_type_internal, if_neg hpos] at hsweep
    simp only [bind_eq_ok, add_u32_eq_ok, save_eq_ok, pure_eq_ok, and_assoc, exists_and_left, exists_eq_left,
      exists_const] at h
    obtain ⟨hdeleted, harchived, rfl, hs'⟩ := h
    obtain ⟨hswept, hle⟩ := cleanup_of_swept hids hsweep
    obtain ⟨hrun, hrest⟩ := run_budget_le (retention_policy s₁ data_type)
      (max_total_deletions - result.total_deleted)
    rw [UInt32.toNat_sub_of_le _ _ (UInt32.le_of_lt hroom)] at hrest
    have htotal : (result.total_deleted + counts.1).toNat = result.total_deleted.toNat + counts.1.toNat := by
      rw [UInt32.toNat_add, Nat.mod_eq_of_lt hdeleted]
    have htotal' : (result.total_archived + counts.2).toNat = result.total_archived.toNat + counts.2.toNat := by
      rw [UInt32.toNat_add, Nat.mod_eq_of_lt harchived]
    have hkeep (k : Key) (hk : k.tag ≠ .LastCleanup) : s' k = s₂ k := by
      rw [hs', Function.update_of_ne]
      rintro rfl
      exact hk rfl
    refine ⟨counts.1.toNat, counts.2.toNat, fun d hd => ?_, fun d hd => ?_, ?_, ?_, ?_, fun entry hentry => ?_,
      fun k hk => ?_⟩
    · rw [List.mem_singleton.mp hd]
      refine hswept.congr (fun _ _ => rfl) fun k hk => hkeep k ?_
      rintro hlast
      rw [hlast] at hk
      cases data_type <;> exact absurd hk (by decide)
    · rw [List.mem_singleton.mp hd]
      exact hle.trans hrun
    · rw [htotal, List.map_singleton, List.sum_singleton]
    · rw [htotal', List.map_singleton, List.sum_singleton]
    · rw [htotal]
      have := UInt32.lt_iff_toNat_lt.mp hroom
      omega
    · rcases List.mem_append.mp hentry with hold | hnew
      · exact .inl hold
      · rw [List.mem_singleton.mp hnew]
        exact .inr ⟨List.mem_singleton_self _, rfl, rfl⟩
    · have hnot := hk data_type (List.mem_singleton_self _)
      rw [hkeep k, (inferInstance : Writes (sweepTags data_type) _).frame hsweep k hnot]
      intro hlast
      apply hnot
      rw [hlast]
      cases data_type <;> decide

/-- **The loop over the data types**, each of which it visits once. -/
theorem cleanup_rounds {data_types : List RetentionDataType} (hnodup : data_types.Nodup) (hids : Listed_once s)
    (hbudget : result.total_deleted.toNat ≤ max_total_deletions.toNat)
    (h : data_types.foldlM (cleanup_round max_total_deletions env.timestamp) result env s = .ok (result', s')) :
    ∃ deleted archived,
      Rounds data_types env.timestamp max_total_deletions s s' result result' deleted archived := by
  induction data_types generalizing s result with
  | nil =>
      obtain ⟨rfl, rfl⟩ := pure_eq_ok.mp h
      exact ⟨fun _ => 0, fun _ => 0, nofun, nofun, rfl, rfl, hbudget, fun entry hentry => .inl hentry, fun _ _ => rfl⟩
  | cons data_type data_types ih =>
      obtain ⟨hmem, hnodup⟩ := List.nodup_cons.mp hnodup
      rw [List.foldlM_cons] at h
      obtain ⟨result₁, s₁, hfirst, hrest⟩ := bind_eq_ok.mp h
      obtain ⟨x, y, hround⟩ := cleanup_round_spec hids hbudget hfirst
      have hkept {k : Key} (hk : ∀ d, k.tag ∉ sweepTags d) : s₁ k = s k := hround.frame k fun d _ => hk d
      have hids₁ : Listed_once s₁ := by
        constructor
        · rw [bridge_ids, hkept (k := .BRIDGE_IDS) (by intro d; cases d <;> decide)]
          exact hids.bridge_ids
        · rw [liquidity_pairs, hkept (k := .LIQUIDITY_PAIRS) (by intro d; cases d <;> decide)]
          exact hids.liquidity_pairs
      have hpolicy (d : RetentionDataType) : retention_policy s₁ d = retention_policy s d := by
        rw [retention_policy, hkept (k := .RetPolicy d) (by intro d; cases d <;> simp [Key.tag, sweepTags]),
          retention_policy]
      obtain ⟨deleted, archived, hrounds⟩ := ih hnodup hids₁ hround.budget hrest
      have hother {d : RetentionDataType} (hd : d ∈ data_types) : d ≠ data_type := fun heq => hmem (heq ▸ hd)
      have hsum (f : RetentionDataType → ℕ) (v : ℕ) :
          ((data_type :: data_types).map (Function.update f data_type v)).sum = v + (data_types.map f).sum := by
        rw [List.map_cons, List.sum_cons, Function.update_self]
        congr 2
        exact List.map_congr_left fun d hd => Function.update_of_ne (hother hd) _ _
      refine ⟨Function.update deleted data_type x, Function.update archived data_type y, fun d hd => ?_,
        fun d hd => ?_, ?_, ?_, hrounds.budget, fun entry hentry => ?_, fun k hk => ?_⟩
      · rcases List.mem_cons.mp hd with rfl | hd
        · -- the later rounds leave its records alone
          rw [Function.update_self, Function.update_self]
          refine (hround.swept d (List.mem_singleton_self _)).congr (fun _ _ => rfl) fun k hk => ?_
          exact hrounds.frame k fun e he => retainedTags_disjoint (hother he).symm _ hk
        · rw [Function.update_of_ne (hother hd), Function.update_of_ne (hother hd), ← hpolicy]
          refine (hrounds.swept d hd).congr (fun k hk => ?_) fun _ _ => rfl
          refine (hround.frame k fun e he => ?_).symm
          rw [List.mem_singleton.mp he]
          exact retainedTags_disjoint (hother hd) _ hk
      · rcases List.mem_cons.mp hd with rfl | hd
        · rw [Function.update_self]
          exact hround.per_run d (List.mem_singleton_self _)
        · rw [Function.update_of_ne (hother hd), ← hpolicy]
          exact hrounds.per_run d hd
      · rw [hrounds.total_deleted, hround.total_deleted, hsum, List.map_singleton, List.sum_singleton, Nat.add_assoc]
      · rw [hrounds.total_archived, hround.total_archived, hsum, List.map_singleton, List.sum_singleton,
          Nat.add_assoc]
      · rcases hrounds.details entry hentry with hold | ⟨hd, hdeleted, harchived⟩
        · rcases hround.details entry hold with hold | ⟨hd, hdeleted, harchived⟩
          · exact .inl hold
          · rw [List.mem_singleton] at hd
            rw [hd, Function.update_self, Function.update_self]
            exact .inr ⟨List.mem_cons_self, hdeleted, harchived⟩
        · rw [Function.update_of_ne (hother hd), Function.update_of_ne (hother hd)]
          exact .inr ⟨List.mem_cons_of_mem _ hd, hdeleted, harchived⟩
      · rw [hrounds.frame k fun d hd => hk d (List.mem_cons_of_mem _ hd),
          hround.frame k fun d hd => by
            rw [List.mem_singleton.mp hd]
            exact hk data_type List.mem_cons_self]

end Cleanup

/-! ## The ids -/

section Ids

theorem nodup_concat_of_not_mem {ids : List SString} {id : SString} (h : ids.Nodup) (hid : id ∉ ids) :
    (ids ++ [id]).Nodup := by
  rw [List.nodup_append]
  refine ⟨h, List.nodup_singleton _, fun a ha b hb => ?_⟩
  rw [List.mem_singleton.mp hb]
  rintro rfl
  exact hid ha

instance : DependsOn [.BRIDGE_IDS, .LIQUIDITY_PAIRS] Listed_once where
  congr := by
    intro s s' heq h
    constructor
    · rw [bridge_ids, heq .BRIDGE_IDS (show Tag.BRIDGE_IDS ∈ _ by decide)]
      exact h.bridge_ids
    · rw [liquidity_pairs, heq .LIQUIDITY_PAIRS (show Tag.LIQUIDITY_PAIRS ∈ _ by decide)]
      exact h.liquidity_pairs

instance (bridge_id : SString) : Preserves Listed_once (add_bridge_id bridge_id) where
  preserved := by
    intro env s u s' hs h
    obtain ⟨ids, s₁, hread, h⟩ := bind_eq_ok.mp h
    obtain ⟨rfl, rfl⟩ := load_eq_ok.mp hread
    rcases exec_if_eq_ok.mp h with ⟨hnew, hset⟩ | ⟨-, rfl⟩
    · rw [save_eq_ok] at hset
      constructor
      · rw [bridge_ids, hset, Function.update_self]
        exact nodup_concat_of_not_mem hs.bridge_ids hnew
      · rw [liquidity_pairs, hset, Function.update_of_ne (by simp)]
        exact hs.liquidity_pairs
    · exact hs

instance (pair : SString) : Preserves Listed_once (add_liquidity_pair pair) where
  preserved := by
    intro env s u s' hs h
    obtain ⟨pairs, s₁, hread, h⟩ := bind_eq_ok.mp h
    obtain ⟨rfl, rfl⟩ := load_eq_ok.mp hread
    rcases exec_if_eq_ok.mp h with ⟨hnew, hset⟩ | ⟨-, rfl⟩
    · rw [save_eq_ok] at hset
      constructor
      · rw [bridge_ids, hset, Function.update_of_ne (by simp)]
        exact hs.bridge_ids
      · rw [liquidity_pairs, hset, Function.update_self]
        exact nodup_concat_of_not_mem hs.liquidity_pairs hnew
    · exact hs

/-- What a call that lists an id writes besides the ids. -/
abbrev recordingTags : List Tag := .MmThreshOvr :: .LiqDepth :: cleanupTags

instance (priority := low) {α : Type} (m : Soroban α) [hm : Writes recordingTags m] : Preserves Listed_once m :=
  hm.preserves (by decide)

set_option synthInstance.maxSize 2000 in
instance (bridge_id asset_code : SString) (stellar_supply source_chain_supply : I128) :
    Preserves Listed_once (record_supply_mismatch bridge_id asset_code stellar_supply source_chain_supply) := by
  unfold record_supply_mismatch
  infer_instance

set_option synthInstance.maxSize 2000 in
instance (pair : SString) (a b c d e : I128) (sources : List SString) :
    Preserves Listed_once (record_liquidity_depth pair a b c d e sources) := by
  unfold record_liquidity_depth
  infer_instance

variable [Host]

theorem exec_listed_once {call : EntryPoint} {env : Env} {s s' : Storage} (hs : Listed_once s)
    (h : exec call env s = .ok ((), s')) : Listed_once s' := by
  by_cases hmem : Tag.BRIDGE_IDS ∈ writes call ∨ Tag.LIQUIDITY_PAIRS ∈ writes call
  · cases call with
    | record_supply_mismatch bridge_id asset_code a b =>
        exact Preserves.preserved (m := record_supply_mismatch bridge_id asset_code a b) hs h
    | record_liquidity_depth pair a b c d e sources =>
        exact Preserves.preserved (m := record_liquidity_depth pair a b c d e sources) hs h
    | _ => exact absurd hmem (by dsimp only [writes]; decide)
  · rw [not_or] at hmem
    constructor
    · rw [bridge_ids, exec_frame h (k := .BRIDGE_IDS) hmem.1]
      exact hs.bridge_ids
    · rw [liquidity_pairs, exec_frame h (k := .LIQUIDITY_PAIRS) hmem.2]
      exact hs.liquidity_pairs

/-- **Run.** No id is listed twice. -/
theorem listed_once_run (calls : List Invocation) : Listed_once (run empty_storage calls) :=
  run_invariant (C := fun _ _ => True) (fun hs _ h => exec_listed_once hs h) ⟨List.nodup_nil, List.nodup_nil⟩
    (Along.of_forall fun _ _ _ => trivial)

end Ids

/-! ## The cleanup after any run -/

/-- What `cleanup_old_data` has done: so many records of each type deleted and archived. -/
structure Cleaned_up (now : U64) (max_total_deletions : U32) (s s' : Storage) (result : CleanupResult)
    (deleted archived : RetentionDataType → ℕ) : Prop where
  /-- Of every list the newest record and the order of the rest are kept, what goes is past its retention, and it is
  appended to the archive where the policy archives. -/
  swept : ∀ data_type,
    Swept data_type now (retention_policy s data_type) s s' (deleted data_type) (archived data_type)
  per_run : ∀ data_type, deleted data_type ≤ (retention_policy s data_type).max_deletions_per_run.toNat
  archived_eq : ∀ data_type, archived data_type =
    if (retention_policy s data_type).archive_before_delete then deleted data_type else 0
  total_deleted : result.total_deleted.toNat =
    deleted .SupplyMismatches + deleted .LiquidityHistory + deleted .Checkpoints
  total_archived : result.total_archived.toNat =
    archived .SupplyMismatches + archived .LiquidityHistory + archived .Checkpoints
  budget : result.total_deleted.toNat ≤ max_total_deletions.toNat
  details : ∀ entry ∈ result.details,
    entry.deleted.toNat = deleted entry.data_type ∧ entry.archived.toNat = archived entry.data_type

theorem cleanup_old_data_spec {env : Env} {s s' : Storage} {caller : Address} {max_total_deletions : U32}
    {result : CleanupResult} (hids : Listed_once s)
    (h : cleanup_old_data caller max_total_deletions env s = .ok (result, s')) :
    ∃ deleted archived, Cleaned_up env.timestamp max_total_deletions s s' result deleted archived := by
  rw [cleanup_old_data_eq] at h
  obtain ⟨_, s₁, hadmin, hguard⟩ := bind_eq_ok.mp h
  obtain rfl : s₁ = s := Writes.store_eq inferInstance hadmin
  obtain ⟨_, s₂, hpos, hread⟩ := bind_eq_ok.mp hguard
  obtain ⟨-, rfl⟩ := panic_if_eq_ok.mp hpos
  obtain ⟨now, s₃, hnow, hloop⟩ := bind_eq_ok.mp hread
  obtain ⟨rfl, rfl⟩ := reads_eq_ok.mp hnow
  obtain ⟨deleted, archived, hrounds⟩ := cleanup_rounds (by decide) hids (Nat.zero_le _) hloop
  have hmem (d : RetentionDataType) : d ∈ retention_data_types := by cases d <;> decide
  have hdeleted := hrounds.total_deleted
  have harchived := hrounds.total_archived
  simp only [retention_data_types, List.map_cons, List.map_nil, List.sum_cons, List.sum_nil, UInt32.toNat_zero]
    at hdeleted harchived
  refine ⟨deleted, archived, fun d => hrounds.swept d (hmem d), fun d => hrounds.per_run d (hmem d),
    fun d => (hrounds.swept d (hmem d)).archived_eq, by omega, by omega, hrounds.budget, fun entry hentry => ?_⟩
  rcases hrounds.details entry hentry with hnone | ⟨-, hcounts⟩
  · exact absurd hnone List.not_mem_nil
  · exact hcounts

/-- **Retention cleanup loses nothing that it should keep**, after any run. -/
theorem cleanup_old_data_run [Host] {calls : List Invocation} {env : Env} {s' : Storage} {caller : Address}
    {max_total_deletions : U32} {result : CleanupResult}
    (h : cleanup_old_data caller max_total_deletions env (run empty_storage calls) = .ok (result, s')) :
    ∃ deleted archived,
      Cleaned_up env.timestamp max_total_deletions (run empty_storage calls) s' result deleted archived :=
  cleanup_old_data_spec (listed_once_run calls) h

/-- Three mismatches of one bridge, under a policy that keeps them for 100 seconds and archives. -/
def three_mismatches : List Invocation :=
  [(mock_all_auths 1, .initialize_contract (test_address 1)),
    (mock_all_auths 2, .set_retention_policy (test_address 1) .SupplyMismatches 100 5000 5 true true),
    (mock_all_auths 10, .record_supply_mismatch (str "Circle") (str "USDC") 100 100),
    (mock_all_auths 20, .record_supply_mismatch (str "Circle") (str "USDC") 100 101),
    (mock_all_auths 30, .record_supply_mismatch (str "Circle") (str "USDC") 100 102)]

theorem cleanup_old_data_run_three :
    let _ : Host := lengthHost
    ∃ result s',
      cleanup_old_data (test_address 1) 10 (mock_all_auths 1000) (run empty_storage three_mismatches) =
        .ok (result, s') ∧
      result.total_deleted = 2 ∧
      ∃ deleted archived,
        Cleaned_up 1000 10 (run empty_storage three_mismatches) s' result deleted archived := by
  intro host
  obtain ⟨s', h⟩ := exists_of_returned
    (a := { executed_at := 1000, total_deleted := 2, total_archived := 2,
            details := [{ data_type := .SupplyMismatches, deleted := 2, archived := 2 },
              { data_type := .LiquidityHistory, deleted := 0, archived := 0 },
              { data_type := .Checkpoints, deleted := 0, archived := 0 }] })
    (r := cleanup_old_data (test_address 1) 10 (mock_all_auths 1000) (run empty_storage three_mismatches))
    (by decide +kernel)
  exact ⟨_, s', h, rfl, cleanup_old_data_run h⟩

end BridgeWatch.Contract

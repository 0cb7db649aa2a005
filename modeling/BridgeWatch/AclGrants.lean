/-
The grants of the access control list, as a map of latest grants.

Grants of roles and of permissions are kept in two lists, without an order, in which a grant
replaces an older one of the same kind and a revocation drops it. What a permission check makes
of the two lists is what the latest operations say: a grant that has not expired, or not.

A call on many entries checks the caller once and then applies the entries one by one.
-/
import BridgeWatch.ContractCalls

set_option autoImplicit false

namespace BridgeWatch.Contract

open Transaction

/-! ## A table and the log of its changes -/

section Table

variable {α κ τ : Type} [DecidableEq κ]

/-- The latest change under a key: what it was set to, or nothing when it was dropped. -/
def latest (k : κ) (log : List (κ × Option τ)) : Option τ :=
  (log.filter fun c => c.1 = k).getLast?.bind Prod.snd

/-- The rows of a key are its latest change. -/
def HoldsLatest (key : α → κ) (value : α → τ) (l : List α) (log : List (κ × Option τ)) : Prop :=
  ∀ k, (l.filter fun x => key x = k).map value = (latest k log).toList

variable {key : α → κ} {value : α → τ} {l : List α} {log : List (κ × Option τ)}

theorem latest_concat (k k' : κ) (o : Option τ) :
    latest k (log ++ [(k', o)]) = if k' = k then o else latest k log := by
  rw [latest, List.filter_append]
  by_cases h : k' = k
  · rw [if_pos h]
    simp [h]
  · rw [if_neg h]
    simp [h, latest]

theorem holdsLatest_nil : HoldsLatest key value [] [] := by
  intro k
  simp [latest]

/-- A row of another key does not show among those of `k`. -/
theorem filter_upsert_of_ne {k : κ} {x : α} (h : key x ≠ k) (l : List α) :
    (acl.upsert (fun y => key y = key x) x l).filter (fun y => key y = k) =
      l.filter fun y => key y = k := by
  induction l with
  | nil => simp [acl.upsert, h]
  | cons y _ ih =>
      rw [acl.upsert]
      by_cases hy : key y = key x
      · rw [if_pos (by simpa using hy)]
        simp [h, hy]
      · rw [if_neg (by simpa using hy), List.filter_cons, ih, List.filter_cons]

/-- Of at most one row of its key, the new one is left. -/
theorem filter_upsert_self {x : α} (h : (l.filter fun y => key y = key x).length ≤ 1) :
    (acl.upsert (fun y => key y = key x) x l).filter (fun y => key y = key x) = [x] := by
  induction l with
  | nil => simp [acl.upsert]
  | cons y l ih =>
      rw [acl.upsert]
      by_cases hy : key y = key x
      · rw [List.filter_cons_of_pos (by simpa using hy), List.length_cons] at h
        have hrest : (l.filter fun y => key y = key x) = [] :=
          List.eq_nil_of_length_eq_zero (by omega)
        rw [if_pos (by simpa using hy), List.filter_cons_of_pos (by simp), hrest]
      · rw [List.filter_cons_of_neg (by simpa using hy)] at h
        rw [if_neg (by simpa using hy), List.filter_cons_of_neg (by simpa using hy), ih h]

/-- A row is set. -/
theorem HoldsLatest.upsert (h : HoldsLatest key value l log) (x : α) :
    HoldsLatest key value (acl.upsert (fun y => key y = key x) x l) (log ++ [(key x, some (value x))]) := by
  intro k
  rw [latest_concat]
  by_cases hk : key x = k
  · subst hk
    have hlength : (l.filter fun y => key y = key x).length ≤ 1 := by
      rw [← List.length_map, h (key x)]
      cases latest (key x) log <;> simp
    rw [if_pos rfl, filter_upsert_self hlength]
    rfl
  · rw [if_neg hk, filter_upsert_of_ne hk]
    exact h k

/-- The rows of a key are dropped. -/
theorem HoldsLatest.erase (h : HoldsLatest key value l log) (k : κ) :
    HoldsLatest key value (l.filter fun y => !decide (key y = k)) (log ++ [(k, none)]) := by
  intro k'
  rw [latest_concat, List.filter_filter]
  by_cases hk : k = k'
  · subst hk
    rw [if_pos rfl]
    simp
  · rw [if_neg hk, ← h k']
    congr 1
    apply List.filter_congr
    intro y _
    by_cases hy : key y = k'
    · simp [hy, Ne.symm hk]
    · simp [hy]

/-- A check of the rows of a key is a check of its latest change. -/
theorem HoldsLatest.exists_iff (h : HoldsLatest key value l log) (k : κ) (p : τ → Prop) :
    (∃ x ∈ l, key x = k ∧ p (value x)) ↔ ∃ v, latest k log = some v ∧ p v := by
  have hmem (v : τ) : (∃ x ∈ l, key x = k ∧ value x = v) ↔ latest k log = some v := by
    rw [← Option.mem_toList, ← h k, List.mem_map]
    simp [and_assoc]
  constructor
  · rintro ⟨x, hx, hkey, hp⟩
    exact ⟨value x, (hmem _).mp ⟨x, hx, hkey, rfl⟩, hp⟩
  · rintro ⟨v, hv, hp⟩
    obtain ⟨x, hx, hkey, rfl⟩ := (hmem v).mpr hv
    exact ⟨x, hx, hkey, hp⟩

end Table

/-! ## The reader -/

def acl_has_permission (address : Address) (permission : Permission) : Soroban Bool := do
  let admin ← get_admin
  if address = admin then
    return true
  else
    acl.has_permission_internal address permission

/-! ## What the calls change -/

/-- The changes of roles that a call makes when it succeeds. -/
def role_changes : EntryPoint → List ((Address × Role) × Option U64)
  | .acl_grant_role _ grantee role expires_at => [((grantee, role), some expires_at)]
  | .acl_revoke_role _ grantee role => [((grantee, role), none)]
  | .acl_bulk_grant_roles _ entries =>
      entries.map fun entry => ((entry.grantee, entry.role), some entry.expires_at)
  | .acl_bulk_revoke_roles _ entries => entries.map fun entry => ((entry.grantee, entry.role), none)
  | _ => []

/-- The changes of direct permissions that a call makes when it succeeds. -/
def permission_changes : EntryPoint → List ((Address × Permission) × Option U64)
  | .acl_grant_permission _ grantee permission expires_at =>
      [((grantee, permission), some expires_at)]
  | .acl_revoke_permission _ grantee permission => [((grantee, permission), none)]
  | .acl_bulk_grant_permissions _ entries =>
      entries.map fun entry => ((entry.grantee, entry.permission), some entry.expires_at)
  | .acl_bulk_revoke_permissions _ entries =>
      entries.map fun entry => ((entry.grantee, entry.permission), none)
  | _ => []

/-- The list of the grants of roles refines a log. -/
def RolesRefine (s : Storage) (log : List ((Address × Role) × Option U64)) : Prop :=
  HoldsLatest (fun g : RoleGrant => (g.grantee, g.role)) RoleGrant.expires_at
    ((s .RoleGrants).getD []) log

/-- The list of the direct grants refines a log. -/
def PermissionsRefine (s : Storage) (log : List ((Address × Permission) × Option U64)) : Prop :=
  HoldsLatest (fun g : PermissionGrant => (g.grantee, g.permission)) PermissionGrant.expires_at
    ((s .PermissionGrants).getD []) log

section Steps

variable {env : Env} {s s' : Storage} {u : Unit} {caller grantee granted_by : Address}
variable {role : Role} {permission : Permission} {expires_at : U64}
variable {role_log : List ((Address × Role) × Option U64)}
variable {permission_log : List ((Address × Permission) × Option U64)}

theorem same_pair {α β : Type} [DecidableEq α] [DecidableEq β] (a b : α) (x y : β) :
    (decide (a = b) && decide (x = y)) = decide ((a, x) = (b, y)) := by
  rw [← Bool.decide_and]
  simp

theorem RolesRefine.grant (hs : RolesRefine s role_log)
    (h : acl.grant_role_internal grantee role granted_by expires_at env s = .ok (u, s')) :
    RolesRefine s' (role_log ++ [((grantee, role), some expires_at)]) := by
  simp only [acl.grant_role_internal, bind_eq_ok, reads_eq_ok, load_eq_ok, save_eq_ok, and_assoc,
    exists_and_left, exists_eq_left] at h
  rw [RolesRefine, h, Function.update_self, Option.getD_some]
  simp only [same_pair]
  exact HoldsLatest.upsert hs { grantee, role, granted_by, granted_at := env.timestamp, expires_at }

theorem RolesRefine.revoke (hs : RolesRefine s role_log)
    (h : acl.revoke_role_internal grantee role env s = .ok (u, s')) :
    RolesRefine s' (role_log ++ [((grantee, role), none)]) := by
  simp only [acl.revoke_role_internal, bind_eq_ok, load_eq_ok, save_eq_ok, and_assoc, exists_and_left,
    exists_eq_left] at h
  rw [RolesRefine, h, Function.update_self, Option.getD_some]
  simp only [same_pair]
  exact HoldsLatest.erase hs (grantee, role)

theorem PermissionsRefine.grant (hs : PermissionsRefine s permission_log)
    (h : acl.grant_permission_internal grantee permission granted_by expires_at env s = .ok (u, s')) :
    PermissionsRefine s' (permission_log ++ [((grantee, permission), some expires_at)]) := by
  simp only [acl.grant_permission_internal, bind_eq_ok, reads_eq_ok, load_eq_ok, save_eq_ok, and_assoc,
    exists_and_left, exists_eq_left] at h
  rw [PermissionsRefine, h, Function.update_self, Option.getD_some]
  simp only [same_pair]
  exact HoldsLatest.upsert hs { grantee, permission, granted_by, granted_at := env.timestamp, expires_at }

theorem PermissionsRefine.revoke (hs : PermissionsRefine s permission_log)
    (h : acl.revoke_permission_internal grantee permission env s = .ok (u, s')) :
    PermissionsRefine s' (permission_log ++ [((grantee, permission), none)]) := by
  simp only [acl.revoke_permission_internal, bind_eq_ok, load_eq_ok, save_eq_ok, and_assoc,
    exists_and_left, exists_eq_left] at h
  rw [PermissionsRefine, h, Function.update_self, Option.getD_some]
  simp only [same_pair]
  exact HoldsLatest.erase hs (grantee, permission)

/-- A loop whose every round adds one entry to the log. -/
theorem refines_foldlM {α β : Type} {I : Storage → List β → Prop} {apply_entry : α → Soroban Unit}
    {change : α → β} {entries : List α} {log : List β}
    (hround : ∀ {entry s s' log}, I s log → apply_entry entry env s = .ok ((), s') →
      I s' (log ++ [change entry]))
    (hs : I s log)
    (h : (entries.foldlM (fun _ entry => apply_entry entry) () : Soroban Unit) env s = .ok (u, s')) :
    I s' (log ++ entries.map change) := by
  induction entries generalizing s log with
  | nil =>
      obtain ⟨-, rfl⟩ := pure_eq_ok.mp h
      rwa [List.map_nil, List.append_nil]
  | cons _ _ ih =>
      rw [List.foldlM_cons] at h
      obtain ⟨_, s₁, hfirst, hrest⟩ := bind_eq_ok.mp h
      rw [List.map_cons, List.append_cons]
      exact ih (hround hs hfirst) hrest

/-- A bulk that succeeds has applied its entries to the storage it found. -/
theorem acl_bulk_spec {α : Type} {msg : String} {apply_entry : α → Soroban Unit} {entries : List α} :
    acl_bulk msg apply_entry caller entries env s = .ok (u, s') ↔
      assert_can_manage_permissions caller env s = .ok ((), s) ∧ entries.length ≤ 20 ∧
        (entries.foldlM (fun _ entry => apply_entry entry) () : Soroban Unit) env s = .ok (u, s') := by
  simp only [acl_bulk, bind_eq_ok, panic_if_eq_ok, and_assoc, exists_and_left, exists_eq_left,
    exists_const, not_lt]
  constructor
  · rintro ⟨_, s₁, hguard, hlength, hloop⟩
    obtain rfl : s₁ = s := Writes.store_eq inferInstance hguard
    exact ⟨hguard, hlength, hloop⟩
  · rintro ⟨hguard, hlength, hloop⟩
    exact ⟨(), s, hguard, hlength, hloop⟩

end Steps

/-! ## Runs -/

section Runs

variable [Host]

/-- **Step**, of the grants of roles. -/
theorem RolesRefine.step {s s' : Storage} {env : Env} {call : EntryPoint}
    {log : List ((Address × Role) × Option U64)} (hs : RolesRefine s log)
    (h : exec call env s = .ok ((), s')) : RolesRefine s' (log ++ role_changes call) := by
  cases call with
  | acl_grant_role =>
      obtain ⟨_, s₁, hguard, hgrant⟩ := bind_eq_ok.mp h
      obtain rfl : s₁ = s := Writes.store_eq inferInstance hguard
      exact hs.grant hgrant
  | acl_revoke_role =>
      obtain ⟨_, s₁, hguard, hrevoke⟩ := bind_eq_ok.mp h
      obtain rfl : s₁ = s := Writes.store_eq inferInstance hguard
      exact hs.revoke hrevoke
  | acl_bulk_grant_roles =>
      exact refines_foldlM (fun hs hok => RolesRefine.grant hs hok) hs (acl_bulk_spec.mp h).2.2
  | acl_bulk_revoke_roles =>
      exact refines_foldlM (fun hs hok => RolesRefine.revoke hs hok) hs (acl_bulk_spec.mp h).2.2
  | _ =>
      change RolesRefine s' (log ++ [])
      rw [List.append_nil, RolesRefine, exec_frame h (k := .RoleGrants) (by dsimp only [writes]; decide)]
      exact hs

/-- **Step**, of the direct grants. -/
theorem PermissionsRefine.step {s s' : Storage} {env : Env} {call : EntryPoint}
    {log : List ((Address × Permission) × Option U64)} (hs : PermissionsRefine s log)
    (h : exec call env s = .ok ((), s')) : PermissionsRefine s' (log ++ permission_changes call) := by
  cases call with
  | acl_grant_permission =>
      obtain ⟨_, s₁, hguard, hgrant⟩ := bind_eq_ok.mp h
      obtain rfl : s₁ = s := Writes.store_eq inferInstance hguard
      exact hs.grant hgrant
  | acl_revoke_permission =>
      obtain ⟨_, s₁, hguard, hrevoke⟩ := bind_eq_ok.mp h
      obtain rfl : s₁ = s := Writes.store_eq inferInstance hguard
      exact hs.revoke hrevoke
  | acl_bulk_grant_permissions =>
      exact refines_foldlM (fun hs hok => PermissionsRefine.grant hs hok) hs (acl_bulk_spec.mp h).2.2
  | acl_bulk_revoke_permissions =>
      exact refines_foldlM (fun hs hok => PermissionsRefine.revoke hs hok) hs (acl_bulk_spec.mp h).2.2
  | _ =>
      change PermissionsRefine s' (log ++ [])
      rw [List.append_nil, PermissionsRefine, exec_frame h (k := .PermissionGrants) (by dsimp only [writes]; decide)]
      exact hs

/-- The changes of roles in a run. -/
abbrev role_log (calls : List Invocation) : List ((Address × Role) × Option U64) :=
  gather exec role_changes empty_storage calls

/-- The changes of direct permissions in a run. -/
abbrev permission_log (calls : List Invocation) : List ((Address × Permission) × Option U64) :=
  gather exec permission_changes empty_storage calls

theorem rolesRefine_run (calls : List Invocation) :
    RolesRefine (run empty_storage calls) (role_log calls) := by
  have hempty : RolesRefine empty_storage [] := holdsLatest_nil
  have hcalls : Along exec (fun _ _ => True) empty_storage calls := Along.of_forall fun _ _ _ => trivial
  have h := run_gather_invariant (fun hs _ hok => RolesRefine.step hs hok) hempty hcalls
  rwa [List.nil_append] at h

theorem permissionsRefine_run (calls : List Invocation) :
    PermissionsRefine (run empty_storage calls) (permission_log calls) := by
  have hempty : PermissionsRefine empty_storage [] := holdsLatest_nil
  have hcalls : Along exec (fun _ _ => True) empty_storage calls := Along.of_forall fun _ _ _ => trivial
  have h := run_gather_invariant (fun hs _ hok => PermissionsRefine.step hs hok) hempty hcalls
  rwa [List.nil_append] at h

end Runs

/-! ## What a permission check says -/

section Check

/-- What the latest changes say of a permission: some role that has it, or the permission itself,
was granted last, and has not expired. -/
def Permitted (role_log : List ((Address × Role) × Option U64))
    (permission_log : List ((Address × Permission) × Option U64)) (now : U64) (a : Address)
    (p : Permission) : Prop :=
  (∃ r, (r = .SuperAdmin ∨ p ∈ acl.role_permissions r) ∧
    ∃ e, latest (a, r) role_log = some e ∧ (e = 0 ∨ now < e)) ∨
    ∃ e, latest (a, p) permission_log = some e ∧ (e = 0 ∨ now < e)

variable {env : Env} {s : Storage} {role_log : List ((Address × Role) × Option U64)}
variable {permission_log : List ((Address × Permission) × Option U64)}

theorem unexpired_iff {now expires_at : U64} :
    acl.unexpired now expires_at = true ↔ expires_at = 0 ∨ now < expires_at := by
  simp [acl.unexpired]

theorem has_permission_iff (hroles : RolesRefine s role_log) (hpermissions : PermissionsRefine s permission_log)
    (a : Address) (p : Permission) :
    ∃ b, acl.has_permission_internal a p env s = .ok (b, s) ∧
      (b = true ↔ Permitted role_log permission_log env.timestamp a p) := by
  refine ⟨_, rfl, ?_⟩
  rw [Bool.or_eq_true, List.any_eq_true, List.any_eq_true, Permitted]
  apply or_congr
  · constructor
    · rintro ⟨g, hg, hcheck⟩
      simp only [Bool.and_eq_true, Bool.or_eq_true, decide_eq_true_eq, unexpired_iff,
        List.contains_iff_mem] at hcheck
      obtain ⟨⟨hgrantee, hlive⟩, hrole⟩ := hcheck
      refine ⟨g.role, hrole, (hroles.exists_iff (a, g.role) fun e => e = 0 ∨ env.timestamp < e).mp ?_⟩
      exact ⟨g, hg, by rw [hgrantee], hlive⟩
    · rintro ⟨r, hrole, hlatest⟩
      obtain ⟨g, hg, hkey, hlive⟩ :=
        (hroles.exists_iff (a, r) fun e => e = 0 ∨ env.timestamp < e).mpr hlatest
      obtain ⟨hgrantee, rfl⟩ := Prod.mk.inj hkey
      refine ⟨g, hg, ?_⟩
      simp only [Bool.and_eq_true, Bool.or_eq_true, decide_eq_true_eq, unexpired_iff,
        List.contains_iff_mem]
      exact ⟨⟨hgrantee, hlive⟩, hrole⟩
  · rw [← hpermissions.exists_iff (a, p) fun e => e = 0 ∨ env.timestamp < e]
    simp only [Bool.and_eq_true, decide_eq_true_eq, unexpired_iff, Prod.mk.injEq]

/-- The check of an address that is not the admin's. -/
theorem acl_has_permission_iff (hroles : RolesRefine s role_log)
    (hpermissions : PermissionsRefine s permission_log) {admin a : Address} {p : Permission}
    (hadmin : s .ADMIN = some admin) (ha : a ≠ admin) :
    ∃ b, acl_has_permission a p env s = .ok (b, s) ∧
      (b = true ↔ Permitted role_log permission_log env.timestamp a p) := by
  obtain ⟨b, hok, hiff⟩ : ∃ b, acl.has_permission_internal a p env s = .ok (b, s) ∧
      (b = true ↔ Permitted role_log permission_log env.timestamp a p) :=
    has_permission_iff hroles hpermissions a p
  refine ⟨b, ?_, hiff⟩
  simp only [acl_has_permission, get_admin, bind_eq_ok, load_eq_ok, expect_eq_ok, and_assoc,
    exists_and_left, exists_eq_left]
  refine ⟨admin, hadmin, ?_⟩
  rw [if_neg ha]
  exact hok

end Check

/-! ## Bulk calls -/

section Bulk

variable [Host]

/-- The calls of a list in turn, until one fails. -/
def one_by_one (calls : List EntryPoint) : Soroban Unit := calls.foldlM (fun _ call => exec call) ()

/-- The caller may still manage permissions before each of the calls. -/
def StillPermitted (caller : Address) (env : Env) (s : Storage) (calls : List EntryPoint) : Prop :=
  ∀ before call after, calls = before ++ call :: after →
    ∀ s₁, one_by_one before env s = .ok ((), s₁) →
      assert_can_manage_permissions caller env s₁ = .ok ((), s₁)

variable {caller : Address} {env : Env} {s s' : Storage}

theorem stillPermitted_cons {call : EntryPoint} {calls : List EntryPoint} :
    StillPermitted caller env s (call :: calls) ↔
      assert_can_manage_permissions caller env s = .ok ((), s) ∧
        ∀ s₁, exec call env s = .ok ((), s₁) → StillPermitted caller env s₁ calls := by
  constructor
  · intro h
    refine ⟨h [] call calls rfl s rfl, ?_⟩
    intro s₁ hok before c after heq s₂ hbefore
    apply h (call :: before) c after (by rw [heq, List.cons_append]) s₂
    rw [one_by_one, List.foldlM_cons]
    exact bind_eq_ok.mpr ⟨(), s₁, hok, hbefore⟩
  · rintro ⟨hguard, hrest⟩ before c after heq s₂ hbefore
    cases before with
    | nil =>
        obtain ⟨-, rfl⟩ := pure_eq_ok.mp hbefore
        exact hguard
    | cons _ before =>
        obtain ⟨rfl, rfl⟩ := List.cons.inj heq
        rw [one_by_one, List.foldlM_cons] at hbefore
        obtain ⟨_, s₁, hfirst, hbefore⟩ := bind_eq_ok.mp hbefore
        exact hrest s₁ hfirst before c after rfl s₂ hbefore

/-- Calls that check the caller and then apply an entry each, one by one. -/
theorem one_by_one_iff {α : Type} {apply_entry : α → Soroban Unit} {single : α → EntryPoint}
    (hsingle : ∀ entry, exec (single entry) = assert_can_manage_permissions caller >>= fun _ =>
      apply_entry entry) (entries : List α) :
    one_by_one (entries.map single) env s = .ok ((), s') ↔
      (entries.foldlM (fun _ entry => apply_entry entry) () : Soroban Unit) env s = .ok ((), s') ∧
        StillPermitted caller env s (entries.map single) := by
  have hexec (entry : α) (s₁ s₂ : Storage) : exec (single entry) env s₁ = .ok ((), s₂) ↔
      assert_can_manage_permissions caller env s₁ = .ok ((), s₁) ∧
        apply_entry entry env s₁ = .ok ((), s₂) := by
    rw [hsingle, bind_eq_ok]
    constructor
    · rintro ⟨_, s₃, hguard, happly⟩
      obtain rfl : s₃ = s₁ := Writes.store_eq inferInstance hguard
      exact ⟨hguard, happly⟩
    · rintro ⟨hguard, happly⟩
      exact ⟨(), s₁, hguard, happly⟩
  induction entries generalizing s with
  | nil =>
      constructor
      · intro h
        refine ⟨h, ?_⟩
        intro before call after heq
        exact absurd heq.symm (List.append_ne_nil_of_right_ne_nil _ (List.cons_ne_nil _ _))
      · intro h
        exact h.1
  | cons entry _ ih =>
      rw [List.map_cons, stillPermitted_cons, List.foldlM_cons, bind_eq_ok, one_by_one,
        List.foldlM_cons, bind_eq_ok]
      constructor
      · rintro ⟨_, s₁, hfirst, hrest⟩
        obtain ⟨hguard, happly⟩ := (hexec _ _ _).mp hfirst
        obtain ⟨hfold, hstill⟩ := ih.mp hrest
        refine ⟨⟨(), s₁, happly, hfold⟩, hguard, ?_⟩
        intro s₂ hfirst'
        rw [hfirst, Except.ok.injEq, Prod.mk.injEq] at hfirst'
        rwa [← hfirst'.2]
      · rintro ⟨⟨_, s₁, happly, hfold⟩, hguard, hstill⟩
        have hfirst := (hexec entry s s₁).mpr ⟨hguard, happly⟩
        exact ⟨(), s₁, hfirst, ih.mpr ⟨hfold, hstill s₁ hfirst⟩⟩

/-- The caller of a bulk call, and the single calls for its entries. -/
def EntryPoint.singles : EntryPoint → Option (Address × List EntryPoint)
  | .acl_bulk_grant_roles caller entries => some (caller, entries.map fun entry =>
      .acl_grant_role caller entry.grantee entry.role entry.expires_at)
  | .acl_bulk_revoke_roles caller entries => some (caller, entries.map fun entry =>
      .acl_revoke_role caller entry.grantee entry.role)
  | .acl_bulk_grant_permissions caller entries => some (caller, entries.map fun entry =>
      .acl_grant_permission caller entry.grantee entry.permission entry.expires_at)
  | .acl_bulk_revoke_permissions caller entries => some (caller, entries.map fun entry =>
      .acl_revoke_permission caller entry.grantee entry.permission)
  | _ => none

/-- A bulk call against the single calls for its entries. -/
theorem acl_bulk_iff {α : Type} {msg : String} {apply_entry : α → Soroban Unit}
    {single : α → EntryPoint} {entries : List α}
    (hsingle : ∀ entry, exec (single entry) = assert_can_manage_permissions caller >>= fun _ =>
      apply_entry entry) (hne : entries.map single ≠ []) (hlength : (entries.map single).length ≤ 20) :
    one_by_one (entries.map single) env s = .ok ((), s') ↔
      acl_bulk msg apply_entry caller entries env s = .ok ((), s') ∧
        StillPermitted caller env s (entries.map single) := by
  rw [List.length_map] at hlength
  rw [one_by_one_iff hsingle, acl_bulk_spec]
  constructor
  · rintro ⟨hfold, hstill⟩
    have hguard : assert_can_manage_permissions caller env s = .ok ((), s) := by
      cases entries with
      | nil => exact absurd rfl hne
      | cons => exact (stillPermitted_cons.mp hstill).1
    exact ⟨⟨hguard, hlength, hfold⟩, hstill⟩
  · rintro ⟨⟨-, -, hfold⟩, hstill⟩
    exact ⟨hfold, hstill⟩

/-- **Bulk.** The single calls for at least one and at most twenty entries all succeed if and only if
the bulk call does, with the same storage, and the caller keeps the permission in between. -/
theorem bulk_iff_one_by_one {call : EntryPoint} {calls : List EntryPoint}
    (hcall : call.singles = some (caller, calls)) (hne : calls ≠ []) (hlength : calls.length ≤ 20) :
    one_by_one calls env s = .ok ((), s') ↔
      exec call env s = .ok ((), s') ∧ StillPermitted caller env s calls := by
  cases call
  case acl_bulk_grant_roles =>
    obtain ⟨rfl, rfl⟩ := Prod.mk.inj (Option.some.inj hcall)
    exact acl_bulk_iff (fun _ => rfl) hne hlength
  case acl_bulk_revoke_roles =>
    obtain ⟨rfl, rfl⟩ := Prod.mk.inj (Option.some.inj hcall)
    exact acl_bulk_iff (fun _ => rfl) hne hlength
  case acl_bulk_grant_permissions =>
    obtain ⟨rfl, rfl⟩ := Prod.mk.inj (Option.some.inj hcall)
    exact acl_bulk_iff (fun _ => rfl) hne hlength
  case acl_bulk_revoke_permissions =>
    obtain ⟨rfl, rfl⟩ := Prod.mk.inj (Option.some.inj hcall)
    exact acl_bulk_iff (fun _ => rfl) hne hlength
  all_goals exact absurd hcall.symm (Option.some_ne_none _)

omit [Host] in
theorem flatMap_singles {α β : Type} {single : α → EntryPoint} {changes : EntryPoint → List β} {f : α → β}
    (h : ∀ entry, changes (single entry) = [f entry]) (entries : List α) :
    (entries.map single).flatMap changes = entries.map f := by
  induction entries with
  | nil => rfl
  | cons _ _ ih =>
      rw [List.map_cons, List.flatMap_cons, h, ih, List.map_cons, List.singleton_append]

omit [Host] in
theorem flatMap_singles_nil {α β : Type} {single : α → EntryPoint} {changes : EntryPoint → List β}
    (h : ∀ entry, changes (single entry) = []) (entries : List α) :
    (entries.map single).flatMap changes = [] := by
  rw [List.flatMap_eq_nil_iff]
  intro call hcall
  obtain ⟨entry, -, rfl⟩ := List.mem_map.mp hcall
  exact h entry

omit [Host] in
/-- A bulk call changes what the single calls for its entries change, in their order. -/
theorem changes_of_singles {call : EntryPoint} {calls : List EntryPoint}
    (hcall : call.singles = some (caller, calls)) :
    role_changes call = calls.flatMap role_changes ∧
      permission_changes call = calls.flatMap permission_changes := by
  cases call
  case acl_bulk_grant_roles | acl_bulk_revoke_roles =>
    obtain ⟨rfl, rfl⟩ := Prod.mk.inj (Option.some.inj hcall)
    constructor
    · exact (flatMap_singles (fun _ => rfl) _).symm
    · exact (flatMap_singles_nil (fun _ => rfl) _).symm
  case acl_bulk_grant_permissions | acl_bulk_revoke_permissions =>
    obtain ⟨rfl, rfl⟩ := Prod.mk.inj (Option.some.inj hcall)
    constructor
    · exact (flatMap_singles_nil (fun _ => rfl) _).symm
    · exact (flatMap_singles (fun _ => rfl) _).symm
  all_goals exact absurd hcall.symm (Option.some_ne_none _)

end Bulk

/-! ## The access control list -/

/-- The lists of grants are a map of latest grants, and a bulk call stands for its entries. -/
structure AclRefines [Host] (calls : List Invocation) : Prop where
  has_permission : ∀ (env : Env) (admin a : Address) (p : Permission),
    run empty_storage calls .ADMIN = some admin → a ≠ admin →
      ∃ b, acl_has_permission a p env (run empty_storage calls) = .ok (b, run empty_storage calls) ∧
        (b = true ↔ Permitted (role_log calls) (permission_log calls) env.timestamp a p)
  bulk_changes : ∀ (call : EntryPoint) (caller : Address) (singles : List EntryPoint),
    call.singles = some (caller, singles) →
      role_changes call = singles.flatMap role_changes ∧
        permission_changes call = singles.flatMap permission_changes
  bulk : ∀ (call : EntryPoint) (caller : Address) (singles : List EntryPoint) (env : Env) (s' : Storage),
    call.singles = some (caller, singles) → singles ≠ [] → singles.length ≤ 20 →
      (one_by_one singles env (run empty_storage calls) = .ok ((), s') ↔
        exec call env (run empty_storage calls) = .ok ((), s') ∧
          StillPermitted caller env (run empty_storage calls) singles)

/-- **The access control list refines a map of latest grants** after every run. -/
theorem aclRefines_run [Host] (calls : List Invocation) : AclRefines calls where
  has_permission := by
    intro env admin a p hadmin ha
    exact acl_has_permission_iff (rolesRefine_run calls) (permissionsRefine_run calls) hadmin ha
  bulk_changes := by
    intro call caller singles hcall
    exact changes_of_singles hcall
  bulk := by
    intro call caller singles env s' hcall hne hlength
    exact bulk_iff_one_by_one hcall hne hlength

/-! ## A concrete run -/

/-- One address manages permissions, and another operates. -/
def granted_roles : List Invocation :=
  [(mock_all_auths 1, .initialize_contract (test_address 0)),
    (mock_all_auths 1, .acl_grant_role (test_address 0) (test_address 1) .SuperAdmin 0),
    (mock_all_auths 1, .acl_grant_role (test_address 0) (test_address 2) .Operator 0)]

/-- The first revokes its own role and the other's, in one call. -/
def bulk_revocation : List Invocation :=
  [(mock_all_auths 2, .acl_bulk_revoke_roles (test_address 1)
    [{ grantee := test_address 1, role := .SuperAdmin, expires_at := 0 },
      { grantee := test_address 2, role := .Operator, expires_at := 0 }])]

/-- The same entries, in two calls. -/
def single_revocations : List Invocation :=
  [(mock_all_auths 2, .acl_revoke_role (test_address 1) (test_address 1) .SuperAdmin),
    (mock_all_auths 2, .acl_revoke_role (test_address 1) (test_address 2) .Operator)]

/-- **A bulk call that is not its entries one by one**: it checks the caller once, while the second of
the single calls finds that the caller has just lost the permission. -/
theorem bulk_revocation_differs :
    ∃ (_ : Host),
      returned (acl_has_permission (test_address 2) .SubmitHealth (mock_all_auths 3)
        (run empty_storage (granted_roles ++ bulk_revocation))) = some false ∧
      returned (acl_has_permission (test_address 2) .SubmitHealth (mock_all_auths 3)
        (run empty_storage (granted_roles ++ single_revocations))) = some true :=
  ⟨lengthHost, by decide +kernel, by decide +kernel⟩

end BridgeWatch.Contract

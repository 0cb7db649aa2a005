/-
The two role tables: the roles of each address, and the list of all assignments.

Both are edited by every grant and every revocation, each in a loop of its own, and both are
read: the permission checks go to the table of the address, the governance thresholds to the
list. The two stay in exact correspondence.
-/
import Mathlib.Data.Set.Card
import BridgeWatch.ContractCalls

set_option autoImplicit false

namespace BridgeWatch.Contract

open Transaction

/-! ## The readers -/

/-- The entry point `has_role`. -/
def has_role (address : Address) (role : AdminRole) : Soroban Bool := has_role_internal address role

def get_admin_roles : Soroban (List RoleAssignment) := do
  let assignments ← get .ROLES_LIST
  return assignments.getD []

/-- The roles of an address. -/
def roles_of (s : Storage) (address : Address) : List AdminRole := (s (.RoleKey address)).getD []

/-- The list of all assignments. -/
def assignments (s : Storage) : List RoleAssignment := (s .ROLES_LIST).getD []

section Readers

variable {env : Env} {s : Storage}

theorem has_role_eq (a : Address) (r : AdminRole) :
    has_role a r env s = .ok ((roles_of s a).contains r, s) := rfl

theorem get_admin_roles_eq : get_admin_roles env s = .ok (assignments s, s) := rfl

end Readers

/-! ## The correspondence -/

/-- An assignment is in the list once if the role is in the table of the address, and else not. -/
structure RolesAgree (s : Storage) : Prop where
  nodup : (assignments s).Nodup
  mem_iff : ∀ a r, { address := a, role := r } ∈ assignments s ↔ r ∈ roles_of s a

section Steps

variable {env : Env} {s s' : Storage} {u : Unit} {caller a : Address} {r : AdminRole}

instance : DependsOn [Tag.RoleKey, .ROLES_LIST] RolesAgree where
  congr := by
    intro s s' heq h
    have hlist : assignments s' = assignments s := by
      rw [assignments, heq .ROLES_LIST (by decide), assignments]
    have hroles (a : Address) : roles_of s' a = roles_of s a := by
      rw [roles_of, heq (.RoleKey a) (show Tag.RoleKey ∈ _ by decide), roles_of]
    constructor
    · rw [hlist]
      exact h.nodup
    · intro a r
      rw [hlist, hroles]
      exact h.mem_iff a r

theorem roles_of_update (b : Address) (roles : List AdminRole) (l : List RoleAssignment) :
    roles_of (Function.update (Function.update s (.RoleKey a) (some roles)) .ROLES_LIST (some l)) b =
      if b = a then roles else roles_of s b := by
  rw [roles_of, Function.update_of_ne (by simp)]
  by_cases hb : b = a
  · rw [if_pos hb, hb, Function.update_self, Option.getD_some]
  · rw [if_neg hb, Function.update_of_ne (by simpa using hb), roles_of]

theorem assignments_update (l : List RoleAssignment) :
    assignments (Function.update s .ROLES_LIST (some l)) = l := by
  rw [assignments, Function.update_self, Option.getD_some]

/-- What a grant leaves of the two tables. -/
theorem grant_role_spec (h : grant_role caller a r env s = .ok (u, s')) :
    r ∈ roles_of s a ∧ s' = s ∨
      r ∉ roles_of s a ∧
        s' = Function.update (Function.update s (.RoleKey a) (some (roles_of s a ++ [r]))) .ROLES_LIST
          (some (assignments s ++ [{ address := a, role := r }])) := by
  simp only [grant_role, bind_eq_ok, load_eq_ok, exec_if_eq_ok, save_eq_ok, and_assoc,
    exists_and_left, exists_eq_left, exists_const] at h
  obtain ⟨_, s₁, hguard, hwrites⟩ := h
  obtain rfl : s₁ = s := Writes.store_eq inferInstance hguard
  rw [Function.update_of_ne (by simp)] at hwrites
  rcases hwrites with ⟨hnew, hs'⟩ | ⟨hold, hs'⟩
  · exact .inr ⟨hnew, hs'⟩
  · exact .inl ⟨not_not.mp hold, hs'⟩

/-- What a revocation leaves of the two tables. -/
theorem revoke_role_spec (h : revoke_role caller a r env s = .ok (u, s')) :
    s' = Function.update (Function.update s (.RoleKey a) (some ((roles_of s a).filter fun q => q ≠ r)))
      .ROLES_LIST (some ((assignments s).filter fun x => !(x.address = a && x.role = r))) := by
  simp only [revoke_role, bind_eq_ok, load_eq_ok, save_eq_ok, and_assoc, exists_and_left,
    exists_eq_left, exists_const] at h
  obtain ⟨_, s₁, hguard, hs'⟩ := h
  obtain rfl : s₁ = s := Writes.store_eq inferInstance hguard
  rw [Function.update_of_ne (by simp)] at hs'
  exact hs'

theorem RolesAgree.grant (hs : RolesAgree s) (h : grant_role caller a r env s = .ok (u, s')) :
    RolesAgree s' := by
  rcases grant_role_spec h with ⟨-, rfl⟩ | ⟨hnew, rfl⟩
  · exact hs
  have hfresh : { address := a, role := r } ∉ assignments s := by
    rw [hs.mem_iff]
    exact hnew
  constructor
  · rw [assignments_update, ← List.concat_eq_append]
    exact hs.nodup.concat hfresh
  · intro b q
    rw [assignments_update, roles_of_update, List.mem_append, List.mem_singleton]
    by_cases hb : b = a
    · subst hb
      simp [hs.mem_iff]
    · simp [hs.mem_iff, hb]

theorem RolesAgree.revoke (hs : RolesAgree s) (h : revoke_role caller a r env s = .ok (u, s')) :
    RolesAgree s' := by
  rw [revoke_role_spec h]
  constructor
  · rw [assignments_update]
    exact hs.nodup.filter _
  · intro b q
    rw [assignments_update, roles_of_update, List.mem_filter, hs.mem_iff]
    by_cases hb : b = a
    · subst hb
      simp [List.mem_filter]
    · simp [hb]

end Steps

/-! ## The governance members -/

section Members

variable {s : Storage} {env : Env} {admin : Address}

/-- The loop that collects the values of some entries, each once. -/
theorem foldl_distinct {α β : Type} [DecidableEq β] (p : α → Prop) [DecidablePred p] (f : α → β)
    (l : List α) {acc : List β} (hacc : acc.Nodup) :
    (l.foldl (fun acc x => if p x ∧ f x ∉ acc then acc ++ [f x] else acc) acc).Nodup ∧
      ∀ b, b ∈ l.foldl (fun acc x => if p x ∧ f x ∉ acc then acc ++ [f x] else acc) acc ↔
        b ∈ acc ∨ ∃ x ∈ l, p x ∧ f x = b := by
  induction l generalizing acc with
  | nil => simp [hacc]
  | cons x _ ih =>
      rw [List.foldl_cons]
      by_cases hx : p x ∧ f x ∉ acc
      · rw [if_pos hx]
        have hacc' : (acc ++ [f x]).Nodup := by
          rw [← List.concat_eq_append]
          exact hacc.concat hx.2
        refine ⟨(ih hacc').1, fun b => ?_⟩
        rw [(ih hacc').2, List.mem_append, List.mem_singleton, List.exists_mem_cons_iff, or_assoc]
        simp only [hx.1, true_and, eq_comm]
      · rw [if_neg hx]
        refine ⟨(ih hacc).1, fun b => ?_⟩
        rw [(ih hacc).2, List.exists_mem_cons_iff]
        constructor
        · rintro (hb | hb)
          · exact .inl hb
          · exact .inr (.inr hb)
        · rintro (hb | ⟨hp, rfl⟩ | hb)
          · exact .inl hb
          · exact .inl (by simpa [hp] using hx)
          · exact .inr hb

/-- The addresses that take part in the governance of upgrades. -/
def governance (s : Storage) (admin : Address) : Set Address :=
  {a | a = admin ∨ .SuperAdmin ∈ roles_of s a}

theorem RolesAgree.governance_member_count_eq (hs : RolesAgree s) (hadmin : s .ADMIN = some admin) :
    governance_member_count env s = .ok (UInt32.ofNat (governance s admin).ncard, s) := by
  obtain ⟨hnodup, hmem⟩ := foldl_distinct (fun x : RoleAssignment => x.role = .SuperAdmin)
    RoleAssignment.address (assignments s) (List.nodup_singleton admin)
  have hmembers : governance s admin = ((assignments s).foldl (fun members x =>
      if x.role = .SuperAdmin ∧ x.address ∉ members then members ++ [x.address] else members)
        [admin]).toFinset := by
    ext a
    rw [List.coe_toFinset, Set.mem_ofPred_eq, hmem, List.mem_singleton, governance, Set.mem_ofPred_eq,
      ← hs.mem_iff]
    constructor
    · rintro (rfl | ha)
      · exact .inl rfl
      · exact .inr ⟨_, ha, rfl, rfl⟩
    · rintro (rfl | ⟨x, hx, hrole, rfl⟩)
      · exact .inl rfl
      · rw [← hrole]
        exact .inr hx
  rw [hmembers, Set.ncard_coe_finset, List.toFinset_card_of_nodup hnodup]
  simp only [governance_member_count, get_admin, bind_eq_ok, load_eq_ok, expect_eq_ok, pure_eq_ok,
    and_assoc, exists_and_left, exists_eq_left]
  exact ⟨admin, hadmin, rfl, trivial⟩

end Members

/-! ## Runs -/

section Runs

variable [Host]

/-- **Step.** -/
theorem RolesAgree.step {s s' : Storage} {env : Env} {call : EntryPoint} (hs : RolesAgree s)
    (h : exec call env s = .ok ((), s')) : RolesAgree s' := by
  by_cases hmem : Tag.RoleKey ∈ writes call ∨ Tag.ROLES_LIST ∈ writes call
  · cases call with
    | grant_role => exact hs.grant h
    | revoke_role => exact hs.revoke h
    | _ => exact absurd hmem (by dsimp only [writes]; decide)
  · rw [not_or] at hmem
    have hpreserves : Preserves RolesAgree (exec call) := by
      apply exec_preserves
      simp [hmem]
    exact hpreserves.preserved hs h

/-- **Run.** -/
theorem rolesAgree_run (calls : List Invocation) : RolesAgree (run empty_storage calls) := by
  apply run_invariant (C := fun _ _ => True) (fun hs _ h => hs.step h)
  · constructor
    · exact List.nodup_nil
    · intro a r
      simp [assignments, roles_of, empty_storage]
  · exact Along.of_forall fun _ _ _ => trivial

/-- What the readers of the two tables say of one another. -/
structure RoleTables (s : Storage) : Prop where
  has_role_iff : ∀ env a r, ∃ held listed, has_role a r env s = .ok (held, s) ∧
    get_admin_roles env s = .ok (listed, s) ∧ (held = true ↔ { address := a, role := r } ∈ listed)
  listed_once : ∀ env, ∃ listed, get_admin_roles env s = .ok (listed, s) ∧ listed.Nodup
  members : ∀ env admin, s .ADMIN = some admin → governance_member_count env s =
    .ok (UInt32.ofNat {a | a = admin ∨ has_role a .SuperAdmin env s = .ok (true, s)}.ncard, s)

/-- **The role tables agree** after every run. -/
theorem roleTables_run (calls : List Invocation) : RoleTables (run empty_storage calls) := by
  have hs := rolesAgree_run calls
  constructor
  · intro env a r
    refine ⟨_, _, has_role_eq a r, get_admin_roles_eq, ?_⟩
    rw [List.contains_iff_mem, hs.mem_iff]
  · intro env
    exact ⟨_, get_admin_roles_eq, hs.nodup⟩
  · intro env admin hadmin
    rw [hs.governance_member_count_eq hadmin]
    simp [governance, has_role_eq]

end Runs

end BridgeWatch.Contract

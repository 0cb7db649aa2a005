/-
Upgrades and the governance members who approve them.

At most one proposal is pending. It is made by a governance member and carries the approvals of
members, each of whom was one when it approved, and it stays the same proposal until it is executed or
cancelled. What it asks for is fixed when it is made: the number of approvals, the time from which it
can be executed, and for a rollback the hash that the last upgrade replaced. An approval is not looked
at again when the proposal is executed, so an approver may have lost its role by then.
-/
import BridgeWatch.AdminTransfer

set_option autoImplicit false

namespace BridgeWatch.Contract

open Transaction

/-! ## The calls -/

section Calls

variable {env : Env} {s s' : Storage} {caller : Address} {u : Unit}

theorem check_permission_super (h : check_permission caller .SuperAdmin env s = .ok (u, s')) :
    env.auth caller = true ∧ IsAdminOrSuper s caller := by
  simp only [check_permission, get_admin, has_role_internal, bind_eq_ok, load_eq_ok, reads_eq_ok,
    expect_eq_ok, panic_if_eq_ok, exec_if_eq_ok, pure_eq_ok, and_assoc, exists_and_left,
    exists_eq_left, exists_const] at h
  obtain ⟨hauth, admin, hadmin, hrole⟩ := h
  refine ⟨by simpa using hauth, ?_⟩
  rcases hrole with ⟨-, hsuper, -⟩ | ⟨hcaller, -⟩
  · apply Or.inr
    simpa using hsuper
  · rw [not_not] at hcaller
    rw [hcaller]
    exact .inl hadmin

theorem assert_can_propose_upgrade_spec (h : assert_can_propose_upgrade caller env s = .ok (u, s')) :
    env.auth caller = true ∧ IsAdminOrSuper s caller ∧ s .PENDING_UPGRADE = none ∧ s' = s := by
  have hstore : s' = s := Writes.store_eq inferInstance h
  simp only [assert_can_propose_upgrade, bind_eq_ok, load_eq_ok, panic_if_eq_ok, and_assoc,
    exists_and_left, exists_eq_left] at h
  obtain ⟨_, s₁, hpermission, _, s₂, htransfer, hpending, -⟩ := h
  obtain ⟨hauth, hsuper⟩ := check_permission_super hpermission
  rw [Writes.store_eq inferInstance htransfer, Writes.store_eq inferInstance hpermission,
    not_not] at hpending
  exact ⟨hauth, hsuper, hpending, hstore⟩

/-- What a proposal says of the state in which it is made. -/
theorem create_upgrade_proposal_spec {hash : BytesN 32} {emergency is_rollback : Bool}
    {callback : Option Address} {payload : Option Buffer} {id : U64}
    (h : create_upgrade_proposal caller hash emergency callback payload is_rollback env s =
      .ok (id, s')) :
    ∃ p : UpgradeProposal, s' .PENDING_UPGRADE = some p ∧ p.proposer = caller ∧
      p.new_wasm_hash = hash ∧ p.emergency = emergency ∧ p.is_rollback = is_rollback ∧
      p.migration_callback = callback ∧ p.migration_payload = payload ∧ p.approvals = [caller] ∧
      p.proposed_at = env.timestamp ∧
      p.execute_after.toNat = env.timestamp.toNat + (if emergency = true then 0 else 172800) ∧
      upgrade_approval_threshold emergency env s = .ok (p.required_approvals, s) := by
  simp only [create_upgrade_proposal, bind_eq_ok, panic_if_eq_ok, reads_eq_ok, load_eq_ok,
    add_u64_eq_ok, save_eq_ok, pure_eq_ok, and_assoc, exists_and_left, exists_eq_left,
    exists_const] at h
  obtain ⟨-, required, s₁, hthreshold, hcounter, htime, -, rfl⟩ := h
  obtain rfl : s₁ = s := Writes.store_eq inferInstance hthreshold
  refine ⟨_, Function.update_self .., rfl, rfl, rfl, rfl, rfl, rfl, rfl, rfl, ?_, hthreshold⟩
  dsimp only
  rw [UInt64.toNat_add, Nat.mod_eq_of_lt htime]
  by_cases hemergency : emergency = true
  · rw [if_pos hemergency, if_pos hemergency]
    rfl
  · rw [if_neg hemergency, if_neg hemergency]
    rfl

theorem expect_pending_upgrade_spec {id : U64} {p : UpgradeProposal}
    (h : expect_pending_upgrade id env s = .ok (p, s')) :
    s .PENDING_UPGRADE = some p ∧ p.proposal_id = id ∧ s' = s := by
  simp only [expect_pending_upgrade, load_pending_upgrade, bind_eq_ok, load_eq_ok, expect_eq_ok,
    panic_if_eq_ok, pure_eq_ok, and_assoc, exists_and_left, exists_eq_left, exists_const,
    not_not] at h
  obtain ⟨q, hpending, hid, rfl, rfl⟩ := h
  exact ⟨hpending, hid, rfl⟩

theorem approve_upgrade_spec {id : U64} {count : U32}
    (h : approve_upgrade caller id env s = .ok (count, s')) :
    env.auth caller = true ∧ IsAdminOrSuper s caller ∧
      ∃ p, s .PENDING_UPGRADE = some p ∧ p.proposal_id = id ∧ caller ∉ p.approvals ∧
        s' .PENDING_UPGRADE = some { p with approvals := p.approvals ++ [caller] } := by
  simp only [approve_upgrade, bind_eq_ok, panic_if_eq_ok, save_eq_ok, pure_eq_ok, and_assoc,
    exists_and_left, exists_eq_left, exists_const] at h
  obtain ⟨_, s₁, hpermission, _, s₂, htransfer, p, s₃, hpending, hnew, -, rfl⟩ := h
  obtain ⟨hauth, hsuper⟩ := check_permission_super hpermission
  obtain rfl : s₁ = s := Writes.store_eq inferInstance hpermission
  obtain rfl : s₂ = s₁ := Writes.store_eq inferInstance htransfer
  obtain ⟨hp, hid, rfl⟩ := expect_pending_upgrade_spec hpending
  exact ⟨hauth, hsuper, p, hp, hid, hnew, Function.update_self ..⟩

theorem cancel_upgrade_spec {id : U64} (h : cancel_upgrade caller id env s = .ok (u, s')) :
    s' .PENDING_UPGRADE = none := by
  simp only [cancel_upgrade, bind_eq_ok, remove_eq_ok] at h
  obtain ⟨_, _, -, _, _, -, rfl⟩ := h
  exact Function.update_self ..

/-- What an upgrade checks, and what it installs. -/
theorem execute_upgrade_checks [Host] {id : U64} (h : execute_upgrade caller id env s = .ok (u, s')) :
    ∃ p, s .PENDING_UPGRADE = some p ∧ p.proposal_id = id ∧
      p.execute_after.toNat ≤ env.timestamp.toNat ∧
      p.required_approvals.toNat ≤ p.approvals.length ∧
      s' .PENDING_UPGRADE = none ∧
      s' .CURRENT_CONTRACT_WASM_HASH = some p.new_wasm_hash ∧
      s' .ROLLBACK_TARGET_HASH =
        (s .CURRENT_CONTRACT_WASM_HASH).elim (s .ROLLBACK_TARGET_HASH) some := by
  simp only [execute_upgrade, bind_eq_ok, load_eq_ok, reads_eq_ok, panic_if_eq_ok, elim_eq_ok,
    pure_eq_ok, save_eq_ok, remove_eq_ok, and_assoc, exists_and_left, exists_eq_left,
    exists_const] at h
  obtain ⟨_, s₁, hpermission, _, s₂, htransfer, p, s₃, hpending, htime, hcount, s₄, hrollback, rfl⟩ := h
  obtain rfl : s₁ = s := Writes.store_eq inferInstance hpermission
  obtain rfl : s₂ = s₁ := Writes.store_eq inferInstance htransfer
  obtain ⟨hp, hid, rfl⟩ := expect_pending_upgrade_spec hpending
  refine ⟨p, hp, hid, UInt64.le_iff_toNat_le.mp (UInt64.not_lt.mp htime), not_lt.mp hcount,
    Function.update_self .., by simp, ?_⟩
  rcases hrollback with ⟨hnone, -, rfl⟩ | ⟨hash, hsome, rfl⟩
  · rw [hnone]
    simp
  · rw [hsome]
    simp

end Calls

/-! ## The calls that write the records -/

section Writers

variable {call : EntryPoint}

theorem mem_writes_wasm_hash
    (h : Tag.CURRENT_CONTRACT_WASM_HASH ∈ writes call ∨ Tag.ROLLBACK_TARGET_HASH ∈ writes call) :
    ∃ caller id, call = .execute_upgrade caller id := by
  cases call <;> first
    | exact ⟨_, _, rfl⟩
    | exact absurd h (by dsimp only [writes]; decide)

end Writers

/-! ## The history of a proposal -/

section History

variable [Host]

/-- The call executes an upgrade. -/
def Upgrades (s : Storage) (t : Invocation) : Prop :=
  (exec t.2 t.1 s).isOk = true ∧ ∃ caller id, t.2 = .execute_upgrade caller id

/-- The call executes or cancels what is pending. -/
def EndsProposal (s : Storage) (t : Invocation) : Prop :=
  (exec t.2 t.1 s).isOk = true ∧
    ∃ caller id, t.2 = .execute_upgrade caller id ∨ t.2 = .cancel_upgrade caller id

/-- The call makes the proposal: by a governance member, with nothing pending. -/
structure Proposes (s : Storage) (t : Invocation) (p : UpgradeProposal) : Prop where
  ok : (exec t.2 t.1 s).isOk = true
  auth : t.1.auth p.proposer = true
  member : IsAdminOrSuper s p.proposer
  free : s .PENDING_UPGRADE = none
  proposed_at : p.proposed_at = t.1.timestamp
  execute_after : p.execute_after.toNat =
    t.1.timestamp.toNat + (if p.emergency = true then 0 else 172800)
  threshold : upgrade_approval_threshold p.emergency t.1 s = .ok (p.required_approvals, s)
  kind : (t.2 = .propose_upgrade p.proposer p.new_wasm_hash p.emergency p.migration_callback
      p.migration_payload ∧ p.is_rollback = false) ∨
    (t.2 = .propose_rollback p.proposer p.emergency p.migration_callback p.migration_payload ∧
      p.is_rollback = true ∧ s .ROLLBACK_TARGET_HASH = some p.new_wasm_hash)

/-- The call is an approval of the proposal, by a governance member. -/
structure Approves (s : Storage) (t : Invocation) (id : U64) (a : Address) : Prop where
  call : t.2 = .approve_upgrade a id
  ok : (exec t.2 t.1 s).isOk = true
  auth : t.1.auth a = true
  member : IsAdminOrSuper s a

/-- The proposal was made in the run, neither executed nor cancelled since, and its approvals were
given since, one for each address. -/
structure Standing (calls : List Invocation) (p : UpgradeProposal) : Prop where
  nodup : p.approvals.Nodup
  made : ∃ earlier t later, calls = earlier ++ t :: later ∧
    Proposes (run empty_storage earlier) t p ∧
    Along exec (fun s t => ¬EndsProposal s t) (run empty_storage (earlier ++ [t])) later ∧
    ∀ a ∈ p.approvals, a = p.proposer ∨ ∃ before u after, later = before ++ u :: after ∧
      Approves (run empty_storage (earlier ++ t :: before)) u p.proposal_id a

variable {calls : List Invocation} {p : UpgradeProposal}

/-- A proposal stands when it has just been made. -/
theorem Proposes.standing {t : Invocation} (h : Proposes (run empty_storage calls) t p)
    (happrovals : p.approvals = [p.proposer]) : Standing (calls ++ [t]) p := by
  refine ⟨by simp [happrovals], calls, t, [], rfl, h, trivial, ?_⟩
  intro a ha
  rw [happrovals, List.mem_singleton] at ha
  exact .inl ha

/-- A proposal stands until it is executed or cancelled. -/
theorem Standing.concat (h : Standing calls p) {t : Invocation}
    (ht : ¬EndsProposal (run empty_storage calls) t) : Standing (calls ++ [t]) p := by
  obtain ⟨earlier, t₀, later, rfl, hproposes, halong, happroved⟩ := h.made
  refine ⟨h.nodup, earlier, t₀, later ++ [t], ?_, hproposes, ?_, ?_⟩
  · rw [List.append_assoc, List.cons_append]
  · rw [Along.append]
    refine ⟨halong, ?_, trivial⟩
    rwa [← runFrom_append, List.append_assoc, List.singleton_append]
  · intro a ha
    rcases happroved a ha with hproposer | ⟨before, u, after, rfl, happroves⟩
    · exact .inl hproposer
    · exact .inr ⟨before, u, after ++ [t], by rw [List.append_assoc, List.cons_append], happroves⟩

/-- One more approval. -/
theorem Standing.approve (h : Standing calls p) {t : Invocation} {a : Address}
    (ht : Approves (run empty_storage calls) t p.proposal_id a) (ha : a ∉ p.approvals) :
    Standing (calls ++ [t]) { p with approvals := p.approvals ++ [a] } := by
  have hends : ¬EndsProposal (run empty_storage calls) t := by
    rintro ⟨-, caller, id, hcall | hcall⟩
    · exact absurd (ht.call.symm.trans hcall) (by simp)
    · exact absurd (ht.call.symm.trans hcall) (by simp)
  obtain ⟨hnodup, earlier, t₀, later, hsplit, hproposes, halong, happroved⟩ := h.concat hends
  refine ⟨?_, earlier, t₀, later, hsplit, ⟨hproposes.ok, hproposes.auth, hproposes.member,
    hproposes.free, hproposes.proposed_at, hproposes.execute_after, hproposes.threshold,
    hproposes.kind⟩, halong, ?_⟩
  · rw [← List.concat_eq_append]
    exact hnodup.concat ha
  · intro b hb
    rcases List.mem_append.mp hb with hold | hnew
    · exact happroved b hold
    · -- the call of the approval is the last one of the run
      rw [List.mem_singleton] at hnew
      subst hnew
      obtain ⟨earlier', t', later', hsplit', -⟩ := h.made
      right
      rcases List.eq_nil_or_concat later with rfl | ⟨before, last, rfl⟩
      · obtain ⟨-, hlast⟩ := List.append_inj' hsplit rfl
        obtain rfl := List.singleton_inj.mp hlast
        rcases hproposes.kind with ⟨hcall, -⟩ | ⟨hcall, -⟩
        · exact absurd (ht.call.symm.trans hcall) (by simp)
        · exact absurd (ht.call.symm.trans hcall) (by simp)
      · rw [List.concat_eq_append, ← List.cons_append, ← List.append_assoc] at hsplit
        obtain ⟨rfl, hlast⟩ := List.append_inj' hsplit rfl
        obtain rfl := List.singleton_inj.mp hlast
        exact ⟨before, t, [], List.concat_eq_append, ht⟩

/-- What is pending stands. -/
theorem standing_run (calls : List Invocation) :
    ∀ p, run empty_storage calls .PENDING_UPGRADE = some p → Standing calls p := by
  induction calls using List.reverseRecOn with
  | nil => exact fun p hp => absurd hp.symm (Option.some_ne_none p)
  | append_singleton calls t ih =>
      obtain ⟨env, call⟩ := t
      intro p hp
      rw [run_concat] at hp
      rcases step_cases exec (run empty_storage calls) (env, call) with hok | ⟨⟨msg, herror⟩, heq⟩
      · have hisOk : (exec call env (run empty_storage calls)).isOk = true := by
          rw [hok]
          rfl
        by_cases hmem : Tag.PENDING_UPGRADE ∈ writes call
        · cases call with
          | propose_upgrade =>
              obtain ⟨id, s', hpropose, hignore⟩ := bind_eq_ok.mp hok
              rw [(pure_eq_ok.mp hignore).2] at hp
              obtain ⟨_, s₁, hcan, hcreate⟩ := bind_eq_ok.mp hpropose
              obtain ⟨hauth, hsuper, hfree, rfl⟩ := assert_can_propose_upgrade_spec hcan
              obtain ⟨q, hq, rfl, rfl, rfl, hrollback, rfl, rfl, happrovals, hat, hafter, hthreshold⟩ :=
                create_upgrade_proposal_spec hcreate
              obtain rfl : q = p := Option.some.inj (hq.symm.trans hp)
              have hproposes : Proposes (run empty_storage calls) (env, .propose_upgrade q.proposer
                  q.new_wasm_hash q.emergency q.migration_callback q.migration_payload) q :=
                ⟨hisOk, hauth, hsuper, hfree, hat, hafter, hthreshold, .inl ⟨rfl, hrollback⟩⟩
              exact hproposes.standing happrovals
          | propose_rollback =>
              obtain ⟨id, s', hpropose, hignore⟩ := bind_eq_ok.mp hok
              rw [(pure_eq_ok.mp hignore).2] at hp
              simp only [propose_rollback, bind_eq_ok, load_eq_ok, expect_eq_ok, and_assoc,
                exists_and_left, exists_eq_left] at hpropose
              obtain ⟨_, s₁, hcan, hash, htarget, hcreate⟩ := hpropose
              obtain ⟨hauth, hsuper, hfree, rfl⟩ := assert_can_propose_upgrade_spec hcan
              obtain ⟨q, hq, rfl, rfl, rfl, hrollback, rfl, rfl, happrovals, hat, hafter, hthreshold⟩ :=
                create_upgrade_proposal_spec hcreate
              obtain rfl : q = p := Option.some.inj (hq.symm.trans hp)
              have hproposes : Proposes (run empty_storage calls) (env, .propose_rollback q.proposer
                  q.emergency q.migration_callback q.migration_payload) q :=
                ⟨hisOk, hauth, hsuper, hfree, hat, hafter, hthreshold, .inr ⟨rfl, hrollback, htarget⟩⟩
              exact hproposes.standing happrovals
          | approve_upgrade =>
              obtain ⟨count, s', happrove, hignore⟩ := bind_eq_ok.mp hok
              rw [(pure_eq_ok.mp hignore).2] at hp
              obtain ⟨hauth, hsuper, q, hq, rfl, hnew, hs'⟩ := approve_upgrade_spec happrove
              obtain rfl := Option.some.inj (hs'.symm.trans hp)
              exact (ih q hq).approve ⟨rfl, hisOk, hauth, hsuper⟩ hnew
          | execute_upgrade =>
              obtain ⟨q, -, -, -, -, hnone, -⟩ := execute_upgrade_checks hok
              exact absurd (hnone.symm.trans hp).symm (Option.some_ne_none p)
          | cancel_upgrade =>
              exact absurd ((cancel_upgrade_spec hok).symm.trans hp).symm (Option.some_ne_none p)
          | _ => exact absurd hmem (by dsimp only [writes]; decide)
        · rw [exec_frame hok (k := .PENDING_UPGRADE) hmem] at hp
          apply (ih p hp).concat
          rintro ⟨-, caller, id, hcall | hcall⟩
          · obtain rfl : call = _ := hcall
            exact hmem (by dsimp only [writes]; decide)
          · obtain rfl : call = _ := hcall
            exact hmem List.mem_cons_self
      · rw [heq] at hp
        apply (ih p hp).concat
        rintro ⟨hisOk, -⟩
        rw [herror] at hisOk
        cases hisOk

/-! ## The hash to roll back to -/

/-- The last upgrade of the run replaced this hash. -/
def ReplacedLast (calls : List Invocation) (hash : BytesN 32) : Prop :=
  ∃ earlier t later, calls = earlier ++ t :: later ∧ Upgrades (run empty_storage earlier) t ∧
    run empty_storage earlier .CURRENT_CONTRACT_WASM_HASH = some hash ∧
    Along exec (fun s t => ¬Upgrades s t) (run empty_storage (earlier ++ [t])) later

theorem ReplacedLast.append {hash : BytesN 32} {later : List Invocation} (h : ReplacedLast calls hash)
    (halong : Along exec (fun s t => ¬Upgrades s t) (run empty_storage calls) later) :
    ReplacedLast (calls ++ later) hash := by
  obtain ⟨earlier, t, middle, rfl, hupgrades, hcurrent, hmiddle⟩ := h
  refine ⟨earlier, t, middle ++ later, ?_, hupgrades, hcurrent, ?_⟩
  · rw [List.append_assoc, List.cons_append]
  · rw [Along.append]
    refine ⟨hmiddle, ?_⟩
    rwa [← runFrom_append, List.append_assoc, List.singleton_append]

/-- The target of a rollback is tracked from the second upgrade on. -/
theorem rollback_target_run (calls : List Invocation) :
    (run empty_storage calls .CURRENT_CONTRACT_WASM_HASH = none →
      run empty_storage calls .ROLLBACK_TARGET_HASH = none) ∧
    ∀ hash, run empty_storage calls .ROLLBACK_TARGET_HASH = some hash → ReplacedLast calls hash := by
  induction calls using List.reverseRecOn with
  | nil => exact ⟨fun _ => rfl, fun hash h => absurd h.symm (Option.some_ne_none hash)⟩
  | append_singleton calls t ih =>
      obtain ⟨env, call⟩ := t
      obtain ⟨ihnone, ihsome⟩ := ih
      by_cases hupgrades : Upgrades (run empty_storage calls) (env, call)
      · obtain ⟨hisOk, caller, id, hcall⟩ := hupgrades
        obtain rfl : call = _ := hcall
        rcases step_cases exec (run empty_storage calls) (env, .execute_upgrade caller id) with
          hok | ⟨⟨msg, herror⟩, -⟩
        · rw [run_concat]
          obtain ⟨p, -, -, -, -, -, hcurrent, htarget⟩ := execute_upgrade_checks hok
          rw [hcurrent, htarget]
          refine ⟨fun h => absurd h (Option.some_ne_none _), ?_⟩
          intro hash h
          by_cases hbefore : run empty_storage calls .CURRENT_CONTRACT_WASM_HASH = none
          · rw [hbefore, Option.elim_none, ihnone hbefore] at h
            exact absurd h.symm (Option.some_ne_none hash)
          · obtain ⟨old, hold⟩ := Option.ne_none_iff_exists'.mp hbefore
            rw [hold, Option.elim_some, Option.some.injEq] at h
            subst h
            exact ⟨calls, _, [], rfl, ⟨hisOk, caller, id, rfl⟩, hold, trivial⟩
        · rw [herror] at hisOk
          cases hisOk
      · have hframe : run empty_storage (calls ++ [(env, call)]) .CURRENT_CONTRACT_WASM_HASH =
              run empty_storage calls .CURRENT_CONTRACT_WASM_HASH ∧
            run empty_storage (calls ++ [(env, call)]) .ROLLBACK_TARGET_HASH =
              run empty_storage calls .ROLLBACK_TARGET_HASH := by
          rw [run_concat]
          rcases step_cases exec (run empty_storage calls) (env, call) with hok | ⟨-, heq⟩
          · have hmem : ¬(Tag.CURRENT_CONTRACT_WASM_HASH ∈ writes call ∨
                Tag.ROLLBACK_TARGET_HASH ∈ writes call) := by
              intro hmem
              apply hupgrades
              refine ⟨?_, mem_writes_wasm_hash hmem⟩
              rw [hok]
              rfl
            rw [not_or] at hmem
            exact ⟨exec_frame hok hmem.1, exec_frame hok hmem.2⟩
          · rw [heq]
            exact ⟨rfl, rfl⟩
        rw [hframe.1, hframe.2]
        exact ⟨ihnone, fun hash h => (ihsome hash h).append ⟨hupgrades, trivial⟩⟩

/-! ## Upgrades -/

/-- What the upgrade by the call `execute_upgrade` after `calls` rests on and does. -/
structure LawfulUpgrade (calls : List Invocation) (env : Env) (id : U64) (s' : Storage)
    (p : UpgradeProposal) : Prop where
  pending : run empty_storage calls .PENDING_UPGRADE = some p ∧ p.proposal_id = id
  /-- The proposal was made, approved and never executed or cancelled. -/
  standing : Standing calls p
  quorum : p.required_approvals.toNat ≤ p.approvals.length
  /-- It has waited 48 hours. -/
  timelock : p.emergency = false → p.proposed_at.toNat + 172800 ≤ env.timestamp.toNat
  version : ∃ version, s' .CONTRACT_VERSION = some version ∧ version.toNat =
    min (((run empty_storage calls .CONTRACT_VERSION).getD 1).toNat + 1) (2 ^ 32 - 1)
  installs : s' .CURRENT_CONTRACT_WASM_HASH = some p.new_wasm_hash
  rollback : p.is_rollback = true → ReplacedLast calls p.new_wasm_hash

omit [Host] in
theorem toNat_saturating_succ (x : U32) :
    (saturating_add_u32 x 1).toNat = min (x.toNat + 1) (2 ^ 32 - 1) := by
  have hx := x.toNat_lt
  have hone : (1 : U32).toNat = 1 := rfl
  unfold saturating_add_u32
  by_cases h : x.toNat + (1 : U32).toNat < 2 ^ 32
  · rw [if_pos h, UInt32.toNat_add]
    omega
  · rw [if_neg h, UInt32.toNat_ofNat']
    omega

/-- **Upgrades rest on a quorum** of approvals for a proposal that stood all the time. -/
theorem execute_upgrade_run {env : Env} {caller : Address} {id : U64} {s' : Storage}
    (h : exec (.execute_upgrade caller id) env (run empty_storage calls) = .ok ((), s')) :
    ∃ p, LawfulUpgrade calls env id s' p := by
  obtain ⟨p, hpending, hid, htime, hcount, -, hcurrent, -⟩ := execute_upgrade_checks h
  have hstanding := standing_run calls p hpending
  obtain ⟨hversion, -⟩ := execute_upgrade_spec h
  obtain ⟨earlier, t, later, hsplit, hproposes, halong, -⟩ := hstanding.made
  refine ⟨p, ⟨hpending, hid⟩, hstanding, hcount, ?_, ⟨_, hversion, toNat_saturating_succ _⟩,
    hcurrent, ?_⟩
  · intro hemergency
    have hafter := hproposes.execute_after
    rw [if_neg (by simp [hemergency]), ← hproposes.proposed_at] at hafter
    omega
  · intro hrollback
    rcases hproposes.kind with ⟨-, hnot⟩ | ⟨hcall, -, htarget⟩
    · rw [hrollback] at hnot
      cases hnot
    · rw [hsplit, List.append_cons]
      have hmade : ¬Upgrades (run empty_storage earlier) t := by
        rintro ⟨-, caller, id, hexecute⟩
        exact absurd (hcall.symm.trans hexecute) (by simp)
      have hlast : ReplacedLast (earlier ++ [t]) p.new_wasm_hash :=
        ((rollback_target_run earlier).2 _ htarget).append ⟨hmade, trivial⟩
      refine hlast.append (halong.mono ?_)
      rintro s u hends ⟨hisOk, caller, id, hexecute⟩
      exact hends ⟨hisOk, caller, id, .inl hexecute⟩

end History

/-! ## Concrete runs -/

/-- A second governance member proposes an upgrade, alone. -/
def proposed_by_member : List Invocation :=
  [(mock_all_auths 1, .initialize_contract (test_address 0)),
    (mock_all_auths 1, .grant_role (test_address 0) (test_address 1) .SuperAdmin),
    (mock_all_auths 2, .propose_upgrade (test_address 1) zero32 false none none)]

theorem execute_upgrade_run_member :
    ∃ (_ : Host) (s' : Storage) (p : UpgradeProposal),
      LawfulUpgrade proposed_by_member (mock_all_auths 172802) 1 s' p := by
  let _ : Host := lengthHost
  obtain ⟨s', hs'⟩ := exists_of_returned (r := exec (.execute_upgrade (test_address 0) 1)
    (mock_all_auths 172802) (run empty_storage proposed_by_member)) (a := ()) (by decide +kernel)
  exact ⟨lengthHost, s', execute_upgrade_run hs'⟩

/-- The member is no member any more. -/
def member_revoked : List Invocation :=
  proposed_by_member ++
    [(mock_all_auths 3, .revoke_role (test_address 0) (test_address 1) .SuperAdmin)]

/-- **An upgrade without the approval of a governance member**: the one who approved it has lost the
role since. -/
theorem approval_outlives_role :
    ∃ (_ : Host),
      returned (exec (.execute_upgrade (test_address 0) 1) (mock_all_auths 172802)
        (run empty_storage member_revoked)) = some () ∧
      (run empty_storage member_revoked .PENDING_UPGRADE).map (fun p =>
        (p.required_approvals, p.approvals)) = some (1, [test_address 1]) ∧
      ¬IsAdminOrSuper (run empty_storage member_revoked) (test_address 1) := by
  let _ : Host := lengthHost
  refine ⟨lengthHost, by decide +kernel, by decide +kernel, ?_⟩
  rintro (hadmin | hsuper)
  · exact absurd hadmin (by decide +kernel)
  · exact absurd hsuper (by decide +kernel)

end BridgeWatch.Contract

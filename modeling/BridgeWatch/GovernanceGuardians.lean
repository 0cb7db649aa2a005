/-
The guardians of the governance contract.

The counter of a proposal counts those that have approved it, each once. It is not told when one of them is
removed, so the guardian quorum is live only in a run that removes no guardian that has approved something
that the guardians can still execute.
-/
import BridgeWatch.GovernanceLifecycle

set_option autoImplicit false

namespace BridgeWatch.Governance

open Transaction HostCalls
open Contract (U32 U64 SString Address Env)

/-- As many guardians as the threshold asks for have approved the proposal. -/
def GuardianQuorum (s : GovernanceStorage) (id : U32) : Prop :=
  ∃ (cfg : GovernanceConfig) (guardians : List Address), s .Config = some cfg ∧ guardians.Nodup ∧
    (∀ g ∈ guardians, is_guardian s g = true ∧ has_approved s id g = true) ∧
      cfg.guardian_threshold.toNat ≤ guardians.length

/-- The guardians may execute the proposal, now or later. -/
def executable (s : GovernanceStorage) (id : U32) : Bool :=
  (s (.Proposal id)).all fun p => p.proposal_type == .EmergencyPause && !is_final p.status

/-- The call removes no guardian that has approved what the guardians may execute. -/
def keeps_approvers (s : GovernanceStorage) (call : Env × EntryPoint) : Prop :=
  match call.2 with
  | .remove_guardian g => ∀ id, has_approved s id g = true → executable s id = false
  | _ => True

section Guardians

variable {env : Env} {s s' : GovernanceStorage} {call : EntryPoint} {calls : List (Env × EntryPoint)} {id : U32}

/-- The counter of a proposal counts those that have approved it. -/
def Counted (s : GovernanceStorage) (id : U32) : Prop :=
  ∃ approvers : List Address, approvers.Nodup ∧ (∀ g, g ∈ approvers ↔ has_approved s id g = true) ∧
    approvers.length = ((s (.GuardianApprovalCount id)).getD 0).toNat

/-- What a call does to the approvals of a proposal: nothing, or a guardian approves it. -/
inductive ApprovalStep (s s' : GovernanceStorage) (id : U32) : Prop
  | kept (happrovals : ∀ g, has_approved s' id g = has_approved s id g)
      (hcount : s' (.GuardianApprovalCount id) = s (.GuardianApprovalCount id))
  | approved {g : Address} (hguardian : is_guardian s g = true) (hnot : has_approved s id g = false)
      (happrovals : ∀ g', has_approved s' id g' = (has_approved s id g' || decide (g' = g)))
      (hfits : ((s (.GuardianApprovalCount id)).getD 0).toNat + 1 < 2 ^ 32)
      (hcount : s' (.GuardianApprovalCount id) = some ((s (.GuardianApprovalCount id)).getD 0 + 1))

theorem has_approved_congr {g : Address} (h : s' (.GuardianApproval id g) = s (.GuardianApproval id g)) :
    has_approved s' id g = has_approved s id g := by
  rw [has_approved, h, has_approved]

theorem ApprovalStep.of_frame {P : DataKey → Prop} (hframe : ∀ key, P key → s' key = s key)
    (h : (∀ g, P (.GuardianApproval id g)) ∧ P (.GuardianApprovalCount id)) : ApprovalStep s s' id :=
  .kept (fun g => has_approved_congr (hframe _ (h.1 g))) (hframe _ h.2)

theorem approval_step (h : Outcome env s call s') (id : U32) : ApprovalStep s s' id := by
  cases h with
  | opened _ _ _ _ _ hframe | powered _ _ _ hframe | guarded _ hframe | unguarded hframe
  | created _ _ _ _ _ _ _ hframe | voted _ _ _ _ _ _ _ _ hframe | advanced _ _ _ hframe
  | configured _ _ hframe => exact .of_frame hframe (by simp)
  | delegated _ _ hframe | undelegated _ hframe =>
      exact .kept (fun g => has_approved_congr (hframe _ (by simp) (by simp))) (hframe _ (by simp) (by simp))
  | @approved g id' _ hguardian hnot happroved hfits hcount hframe =>
      by_cases heq : id = id'
      · subst heq
        refine .approved hguardian hnot (fun g' => ?_) hfits hcount
        by_cases hg : g' = g
        · rw [hg, happroved]
          simp
        · rw [has_approved_congr (hframe _ (by simpa using hg))]
          simp [hg]
      · exact .kept (fun g' => has_approved_congr (hframe _ (by simp [heq]))) (hframe _ (by simp [heq]))

theorem counted_step (hs : Counted s id) (h : ApprovalStep s s' id) : Counted s' id := by
  obtain ⟨approvers, hnodup, hmem, hlength⟩ := hs
  cases h with
  | kept happrovals hcount =>
      refine ⟨approvers, hnodup, fun g => ?_, ?_⟩
      · rw [happrovals]
        exact hmem g
      · rw [hcount]
        exact hlength
  | @approved g _ hnot happrovals _ hcount =>
      have hnew : g ∉ approvers := fun hg => absurd ((hmem g).mp hg) (by rw [hnot]; decide)
      refine ⟨g :: approvers, List.nodup_cons.mpr ⟨hnew, hnodup⟩, fun g' => ?_, ?_⟩
      · rw [happrovals, List.mem_cons, hmem, Bool.or_eq_true, decide_eq_true_eq]
        exact or_comm
      · rw [hcount, Option.getD_some, UInt32.toNat_add, List.length_cons, hlength, show UInt32.toNat 1 = 1 from rfl]
        omega

theorem counted_empty : Counted empty_storage id := ⟨[], List.nodup_nil, fun _ => by simp [has_approved, empty_storage], rfl⟩

theorem run_counted : Counted (run empty_storage calls) id :=
  (run_outcome (C := fun _ _ => True) (I := fun s => Counted s id) (fun _ hs _ h => counted_step hs (approval_step h id))
    founded_empty counted_empty (Along.of_forall fun _ _ _ => trivial)).2

/-! ## The live quorum -/

/-- What the guardians may execute after a call they could before. -/
theorem executable_step (hs : Founded s) (h : Outcome env s call s') (hexecutable : executable s' id = true) :
    executable s id = true := by
  cases proposal_step hs h id with
  | kept hproposal => rwa [executable, ← hproposal]
  | created hnone => rw [executable, hnone, Option.all_none]
  | voted hload _ _ hproposal =>
      rw [executable, hproposal, Option.all_some, type_with_votes, status_with_votes] at hexecutable
      rwa [executable, hload, Option.all_some]
  | @advanced p q hload hadvance hproposal =>
      have htype : q.proposal_type = p.proposal_type := by cases hadvance <;> rfl
      rw [executable, hproposal, Option.all_some, htype, Bool.and_eq_true] at hexecutable
      rw [executable, hload, Option.all_some, hexecutable.1, hadvance.not_final]
      rfl

/-- The call removes the guardian, or keeps it. -/
theorem guardian_step (h : Outcome env s call s') {g : Address} (hg : is_guardian s g = true) :
    is_guardian s' g = true ∨ call = .remove_guardian g := by
  have hkept : s' (.Guardian g) = s (.Guardian g) → is_guardian s' g = true := fun heq => by
    rw [is_guardian, heq]
    exact hg
  cases h with
  | opened _ _ _ _ _ hframe | powered _ _ _ hframe | created _ _ _ _ _ _ _ hframe
  | voted _ _ _ _ _ _ _ _ hframe | approved _ _ _ _ _ hframe | advanced _ _ _ hframe
  | configured _ _ hframe => exact Or.inl (hkept (hframe _ (by simp)))
  | @guarded g' _ hguardian hframe =>
      by_cases heq : g = g'
      · rw [heq]
        exact Or.inl hguardian
      · exact Or.inl (hkept (hframe _ (by simpa using heq)))
  | @unguarded g' _ hframe =>
      by_cases heq : g = g'
      · rw [heq]
        exact Or.inr rfl
      · exact Or.inl (hkept (hframe _ (by simpa using heq)))
  | delegated _ _ hframe | undelegated _ hframe => exact Or.inl (hkept (hframe _ (by simp) (by simp)))

/-- Those that have approved what the guardians may execute are guardians. -/
def LiveApprovers (s : GovernanceStorage) (id : U32) : Prop :=
  executable s id = true → ∀ g, has_approved s id g = true → is_guardian s g = true

theorem live_step (hfounded : Founded s) (hs : LiveApprovers s id) (hcall : keeps_approvers s (env, call))
    (h : Outcome env s call s') : LiveApprovers s' id := by
  intro hexecutable g hg
  have hbefore := executable_step hfounded h hexecutable
  have hguardian : is_guardian s g = true := by
    cases approval_step h id with
    | kept happrovals =>
        rw [happrovals] at hg
        exact hs hbefore g hg
    | approved hguardian _ happrovals =>
        rw [happrovals, Bool.or_eq_true, decide_eq_true_eq] at hg
        rcases hg with hg | rfl
        · exact hs hbefore g hg
        · exact hguardian
  rcases guardian_step h hguardian with hkept | rfl
  · exact hkept
  · -- A guardian that is removed has approved nothing that may be executed.
    have happroved : has_approved s id g = true := by
      cases h with
      | unguarded hframe => rwa [has_approved_congr (hframe _ (by simp))] at hg
      | advanced _ hadvance => cases hadvance
    rw [hcall id happroved] at hbefore
    cases hbefore

theorem executable_of_executed {executor : Address} (h : exec (.guardian_execute executor id) env s = .ok ((), s')) :
    executable s id = true ∧
      ∃ cfg, s .Config = some cfg ∧ cfg.guardian_threshold ≤ (s (.GuardianApprovalCount id)).getD 0 := by
  cases outcome_of_exec h with
  | @advanced _ _ _ _ _ hload hadvance =>
      have hfinal := hadvance.not_final
      cases hadvance with
      | guardian_executed _ hcfg happrovals htype =>
          refine ⟨?_, _, hcfg, happrovals⟩
          rw [executable, hload, Option.all_some, htype, hfinal]
          rfl

/-- **The guardian quorum is live** in a run that keeps the approvers of what may be executed. -/
theorem guardian_quorum {executor : Address} (hcalls : Along exec keeps_approvers empty_storage calls)
    (h : exec (.guardian_execute executor id) env (run empty_storage calls) = .ok ((), s')) :
    GuardianQuorum (run empty_storage calls) id := by
  obtain ⟨hexecutable, cfg, hcfg, hthreshold⟩ := executable_of_executed h
  have hlive := (run_outcome (I := fun s => LiveApprovers s id)
    (fun hfounded hs hcall h => live_step hfounded hs hcall h) founded_empty
    (fun _ g hg => by simp [has_approved, empty_storage] at hg) hcalls).2
  have hcounted : Counted (run empty_storage calls) id := run_counted
  obtain ⟨approvers, hnodup, hmem, hlength⟩ := hcounted
  refine ⟨cfg, approvers, hcfg, hnodup, fun g hg => ?_, ?_⟩
  · exact ⟨hlive hexecutable g ((hmem g).mp hg), (hmem g).mp hg⟩
  · rw [hlength]
    exact UInt32.le_iff_toNat_le.mp hthreshold

end Guardians

/-- Three guardians, an emergency proposal that two of them approve, and what happens until it is executed. -/
def approved_twice (later : List (Env × EntryPoint)) : List (Env × EntryPoint) :=
  [(signed_at 0, .initialize_governance (party 0) plain_config), (signed_at 0, .add_guardian (party 1)),
    (signed_at 0, .add_guardian (party 2)), (signed_at 0, .add_guardian (party 3)),
    (signed_at 0, .create_proposal (party 4) .EmergencyPause [] [] (party 9) []),
    (signed_at 10, .activate_proposal 0), (signed_at 11, .guardian_approve (party 1) 0),
    (signed_at 11, .guardian_approve (party 2) 0)] ++ later

theorem guardian_quorum_approved :
    ∃ s', exec (.guardian_execute (party 3) 0) (signed_at 12) (run empty_storage (approved_twice [])) = .ok ((), s') ∧
      GuardianQuorum (run empty_storage (approved_twice [])) 0 := by
  cases h : exec (.guardian_execute (party 3) 0) (signed_at 12) (run empty_storage (approved_twice [])) with
  | ok r =>
      exact ⟨r.2, rfl, guardian_quorum ⟨trivial, trivial, trivial, trivial, trivial, trivial, trivial, trivial, trivial⟩ h⟩
  | error msg =>
      have hok : (exec (.guardian_execute (party 3) 0) (signed_at 12) (run empty_storage (approved_twice []))).isOk := by
        decide +kernel
      rw [h] at hok
      cases hok

/-- The two that approved are removed, and the third executes alone. -/
theorem guardian_quorum_gone :
    ¬ ∀ (calls : List (Env × EntryPoint)) (executor : Address) (id : U32) (env : Env) (s' : GovernanceStorage),
      exec (.guardian_execute executor id) env (run empty_storage calls) = .ok ((), s') →
        GuardianQuorum (run empty_storage calls) id := by
  intro h
  let calls := approved_twice [(signed_at 12, .remove_guardian (party 1)), (signed_at 12, .remove_guardian (party 2))]
  have hok : (exec (.guardian_execute (party 3) 0) (signed_at 12) (run empty_storage calls)).isOk := by decide +kernel
  cases hexec : exec (.guardian_execute (party 3) 0) (signed_at 12) (run empty_storage calls) with
  | error msg =>
      rw [hexec] at hok
      cases hok
  | ok r =>
      obtain ⟨cfg, guardians, hcfg, hnodup, hlive, hlength⟩ := h calls (party 3) 0 (signed_at 12) r.2 hexec
      have hcounted : Counted (run empty_storage calls) 0 := run_counted
      obtain ⟨approvers, -, hmem, hcount⟩ := hcounted
      have htwo : approvers.length = 2 := hcount.trans (by decide +kernel)
      have hconfig : run empty_storage calls .Config = some plain_config := by decide +kernel
      rw [hconfig] at hcfg
      rw [← Option.some.inj hcfg] at hlength
      -- Two have approved, so a quorum of two has the first of them, who is no guardian any more.
      have hsub : guardians ⊆ approvers := fun g hg => (hmem g).mpr (hlive g hg).2
      have hperm := (List.subperm_of_subset hnodup hsub).perm_of_length_le (by rw [htwo]; exact hlength)
      have happroved : party 1 ∈ approvers := (hmem _).mpr (by decide +kernel)
      exact absurd (hlive _ (hperm.mem_iff.mpr happroved)).1 (by decide +kernel)

end BridgeWatch.Governance

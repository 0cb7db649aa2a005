/-
The life of a proposal.

A proposal changes by a vote, in its voting window, or by an advance of its status, and nothing follows on
the statuses that are final. So what was executed can be traced back through the run: to the call that queued
it, and from there to the call that finalized it.
-/
import BridgeWatch.GovernanceCalls

set_option autoImplicit false

namespace BridgeWatch.Governance

open Transaction HostCalls
open Contract (U32 U64 SString Address Env)

/-- The votes of a proposal, by choice. -/
def Proposal.tallies (p : Proposal) : ℤ × ℤ × ℤ := (p.votes_for, p.votes_against, p.votes_abstain)

/-- What a call does to a proposal. -/
inductive ProposalStep (env : Env) (s s' : GovernanceStorage) (id : U32) (call : EntryPoint) : Prop
  | kept (hproposal : s' (.Proposal id) = s (.Proposal id))
      (hrecords : ∀ v, s' (.VoteRecord id v) = s (.VoteRecord id v))
  | created {p : Proposal} (hnone : s (.Proposal id) = none) (hproposal : s' (.Proposal id) = some p)
      (hpending : p.status = .Pending) (hrecords : ∀ v, s' (.VoteRecord id v) = s (.VoteRecord id v))
  | voted {p : Proposal} {choice : VoteChoice} {votes : ℤ} (hload : s (.Proposal id) = some p)
      (hstatus : p.status = .Active) (hwindow : p.start_time ≤ env.timestamp ∧ env.timestamp ≤ p.end_time)
      (hproposal : s' (.Proposal id) = some (p.with_votes choice votes))
  | advanced {p q : Proposal} (hload : s (.Proposal id) = some p) (hadvance : Advance env.timestamp s id p call q)
      (hproposal : s' (.Proposal id) = some q) (hrecords : ∀ v, s' (.VoteRecord id v) = s (.VoteRecord id v))

section Steps

variable {env : Env} {s s' : GovernanceStorage} {call : EntryPoint} {calls : List (Env × EntryPoint)} {id : U32}

theorem proposal_step (hs : Founded s) (h : Outcome env s call s') (id : U32) : ProposalStep env s s' id call := by
  cases h with
  | opened _ _ _ _ _ hframe | powered _ _ _ hframe | guarded _ hframe | unguarded hframe
  | configured _ _ hframe => exact .kept (hframe _ (by simp)) fun v => hframe _ (by simp)
  | delegated _ _ hframe | undelegated _ hframe =>
      exact .kept (hframe _ (by simp) (by simp)) fun v => hframe _ (by simp) (by simp)
  | @created _ _ _ _ _ _ id' _ _ _ _ hid _ _ hpending _ hproposal hframe =>
      by_cases heq : id = id'
      · subst heq
        exact .created (hs.fresh hid) hproposal hpending fun v => hframe _ (by simp)
      · exact .kept (hframe _ (by simpa using heq)) fun v => hframe _ (by simp)
  | @voted _ id' _ _ _ _ hload hstatus hwindow _ _ _ _ hproposal hframe =>
      by_cases heq : id = id'
      · subst heq
        exact .voted hload hstatus hwindow hproposal
      · exact .kept (hframe _ (by simpa using heq)) fun w => hframe _ (by simp [heq])
  | approved _ _ _ _ _ hframe =>
      exact .kept (hframe _ (by simp)) fun v => hframe _ (by simp)
  | @advanced _ id' _ _ _ hload hadvance hproposal hframe =>
      by_cases heq : id = id'
      · subst heq
        exact .advanced hload hadvance hproposal fun v => hframe _ (by simp)
      · exact .kept (hframe _ (by simpa using heq)) fun v => hframe _ (by simp)

/-- A proposal that advances was not final. -/
theorem Advance.not_final {now : U64} {p q : Proposal} (h : Advance now s id p call q) : is_final p.status = false := by
  cases h with
  | activated hstatus | finalized hstatus | queued hstatus | executed hstatus => rw [hstatus]; rfl
  | guardian_executed _ _ _ _ hstatus =>
      rcases hstatus with hstatus | hstatus | hstatus <;> rw [hstatus] <;> rfl
  | cancelled hstatus => exact hstatus

theorem Advance.tallies_eq {now : U64} {p q : Proposal} (h : Advance now s id p call q) : q.tallies = p.tallies := by
  cases h <;> rfl

/-- The advance to `Queued` is the work of `queue_proposal`. -/
theorem Advance.of_queued {now : U64} {p q : Proposal} (h : Advance now s id p call q) (hq : q.status = .Queued) :
    call = .queue_proposal id ∧ p.status = .Passed ∧ ∃ cfg, s .Config = some cfg ∧
      now.toNat + cfg.timelock_delay.toNat < 2 ^ 64 ∧ q.execute_after = now + cfg.timelock_delay := by
  cases h with
  | finalized =>
      dsimp only at hq
      split_ifs at hq
  | queued hstatus hcfg hfits => exact ⟨rfl, hstatus, _, hcfg, hfits, rfl⟩
  | _ => cases hq

/-- The advance to `Passed` is the work of `finalize_proposal`. -/
theorem Advance.of_passed {now : U64} {p q : Proposal} (h : Advance now s id p call q) (hq : q.status = .Passed) :
    call = .finalize_proposal id ∧ p.status = .Active ∧ p.end_time < now ∧
      ∃ cfg, s .Config = some cfg ∧ carried cfg (books s).supply p = true := by
  cases h with
  | finalized hstatus htime hcfg =>
      dsimp only at hq
      split_ifs at hq with hcarried
      exact ⟨rfl, hstatus, htime, _, hcfg, hcarried⟩
  | _ => cases hq

/-- A status that a proposal has not by its creation or under votes comes from an advance. -/
theorem exists_advance {p : Proposal} (h : run empty_storage calls (.Proposal id) = some p) (hpending : p.status ≠ .Pending)
    (hactive : p.status ≠ .Active) : ∃ before t after q, calls = before ++ t :: after ∧
      (exec t.2 t.1 (run empty_storage before)).isOk ∧ run empty_storage before (.Proposal id) = some q ∧
        Advance t.1.timestamp (run empty_storage before) id q t.2 p := by
  obtain ⟨before, t, after, s', rfl, hexec, hbefore, hafter⟩ := exists_origin h (by simp [empty_storage])
  refine ⟨before, t, after, ?_⟩
  have hok : (exec t.2 t.1 (run empty_storage before)).isOk := by
    rw [hexec]
    rfl
  cases proposal_step run_founded (outcome_of_exec hexec) id with
  | kept hproposal =>
      rw [hproposal] at hafter
      exact absurd hafter hbefore
  | created _ hproposal hpending' =>
      rw [hproposal] at hafter
      rw [Option.some.inj hafter] at hpending'
      exact absurd hpending' hpending
  | voted _ hstatus _ hproposal =>
      rw [hproposal] at hafter
      rw [← Option.some.inj hafter, status_with_votes] at hactive
      exact absurd hstatus hactive
  | @advanced q _ hload hadvance hproposal =>
      rw [hproposal] at hafter
      rw [Option.some.inj hafter] at hadvance
      exact ⟨q, rfl, hok, hload, hadvance⟩

end Steps

/-! ## The lifecycle -/

/-- The proposal that may be executed at time `now` was finalized as passed and then queued: it was finalized after
its end with the quorum and the threshold of that moment, and the delay in force at queueing is over. -/
structure Matured (calls : List (Env × EntryPoint)) (now : U64) (id : U32) : Prop where
  history : ∃ before final middle queueing after, calls = (before ++ final :: middle) ++ queueing :: after ∧
    (final.2 = .finalize_proposal id ∧ (exec final.2 final.1 (run empty_storage before)).isOk ∧
      ∃ p cfg, run empty_storage before (.Proposal id) = some p ∧ run empty_storage before .Config = some cfg ∧
        p.status = .Active ∧ p.end_time < final.1.timestamp ∧
          carried cfg (books (run empty_storage before)).supply p = true) ∧
    queueing.2 = .queue_proposal id ∧ (exec queueing.2 queueing.1 (run empty_storage (before ++ final :: middle))).isOk ∧
      ∃ cfg, run empty_storage (before ++ final :: middle) .Config = some cfg ∧
        queueing.1.timestamp.toNat + cfg.timelock_delay.toNat ≤ now.toNat

/-- What is executed has matured, votes are added in the voting window only, and what is final stays as it is. -/
structure LifecycleSafe (calls : List (Env × EntryPoint)) : Prop where
  executed : ∀ executor id env s', exec (.execute_proposal executor id) env (run empty_storage calls) = .ok ((), s') →
    Matured calls env.timestamp id
  voted : ∀ env call s' id, exec call env (run empty_storage calls) = .ok ((), s') →
    (∃ p q, run empty_storage calls (.Proposal id) = some p ∧ s' (.Proposal id) = some q ∧ q.tallies ≠ p.tallies) ∨
      (∃ v, s' (.VoteRecord id v) ≠ run empty_storage calls (.VoteRecord id v)) →
    ∃ p, run empty_storage calls (.Proposal id) = some p ∧ p.start_time ≤ env.timestamp ∧ env.timestamp ≤ p.end_time
  final : ∀ id p later, run empty_storage calls (.Proposal id) = some p → is_final p.status = true →
    run empty_storage (calls ++ later) (.Proposal id) = some p

section Lifecycle

variable {env : Env} {s s' : GovernanceStorage} {call : EntryPoint} {calls : List (Env × EntryPoint)} {id : U32}

theorem matured_of_executed {executor : Address}
    (h : exec (.execute_proposal executor id) env (run empty_storage calls) = .ok ((), s')) :
    Matured calls env.timestamp id := by
  obtain ⟨p, hload, hstatus, htime⟩ : ∃ p, run empty_storage calls (.Proposal id) = some p ∧ p.status = .Queued ∧
      p.execute_after ≤ env.timestamp := by
    cases outcome_of_exec h with
    | advanced hload hadvance =>
        cases hadvance with
        | executed hstatus htime => exact ⟨_, hload, hstatus, htime⟩
  obtain ⟨before, queueing, after, passed, rfl, hqueued, hpassed, hadvance⟩ :=
    exists_advance hload (by rw [hstatus]; decide) (by rw [hstatus]; decide)
  obtain ⟨hcall, hstatus', cfg, hcfg, hfits, hafter⟩ := hadvance.of_queued hstatus
  obtain ⟨before, final, middle, active, rfl, hfinalized, hactive, hadvance'⟩ :=
    exists_advance hpassed (by rw [hstatus']; decide) (by rw [hstatus']; decide)
  obtain ⟨hcall', hstatus'', hend, cfg', hcfg', hcarried⟩ := hadvance'.of_passed hstatus'
  refine ⟨before, final, middle, queueing, after, rfl, ⟨hcall', hfinalized, active, cfg', hactive, hcfg', hstatus'', hend,
    hcarried⟩, hcall, hqueued, cfg, hcfg, ?_⟩
  rw [hafter, UInt64.le_iff_toNat_le, UInt64.toNat_add, Nat.mod_eq_of_lt hfits] at htime
  exact htime

theorem window_of_voted (hs : Founded s) (h : Outcome env s call s')
    (hvoted : (∃ p q, s (.Proposal id) = some p ∧ s' (.Proposal id) = some q ∧ q.tallies ≠ p.tallies) ∨
      ∃ v, s' (.VoteRecord id v) ≠ s (.VoteRecord id v)) :
    ∃ p, s (.Proposal id) = some p ∧ p.start_time ≤ env.timestamp ∧ env.timestamp ≤ p.end_time := by
  cases proposal_step hs h id with
  | kept hproposal hrecords =>
      rcases hvoted with ⟨p, q, hp, hq, hne⟩ | ⟨v, hv⟩
      · rw [hproposal, hp] at hq
        exact absurd (congrArg Proposal.tallies (Option.some.inj hq).symm) hne
      · exact absurd (hrecords v) hv
  | created hnone _ _ hrecords =>
      rcases hvoted with ⟨p, q, hp, hq, hne⟩ | ⟨v, hv⟩
      · rw [hnone] at hp
        cases hp
      · exact absurd (hrecords v) hv
  | voted hload _ hwindow => exact ⟨_, hload, hwindow⟩
  | advanced hload hadvance hproposal hrecords =>
      rcases hvoted with ⟨p, q, hp, hq, hne⟩ | ⟨v, hv⟩
      · rw [hload] at hp
        rw [hproposal] at hq
        rw [← Option.some.inj hp, ← Option.some.inj hq, hadvance.tallies_eq] at hne
        exact absurd rfl hne
      · exact absurd (hrecords v) hv

theorem final_step (hs : Founded s) {p : Proposal} (hp : s (.Proposal id) = some p) (hfinal : is_final p.status = true)
    (h : Outcome env s call s') : s' (.Proposal id) = some p := by
  cases proposal_step hs h id with
  | kept hproposal => exact hproposal.trans hp
  | created hnone =>
      rw [hnone] at hp
      cases hp
  | voted hload hstatus =>
      rw [hload] at hp
      rw [← Option.some.inj hp, hstatus] at hfinal
      cases hfinal
  | advanced hload hadvance =>
      rw [hload] at hp
      rw [← Option.some.inj hp, hadvance.not_final] at hfinal
      cases hfinal

/-- **The lifecycle of proposals is safe** in every run. -/
theorem lifecycle_safe : LifecycleSafe calls := by
  refine ⟨fun executor id env s' h => matured_of_executed h, ?_, ?_⟩
  · intro env call s' id h hvoted
    exact window_of_voted run_founded (outcome_of_exec h) hvoted
  · intro id p later hp hfinal
    rw [run, runFrom_append]
    exact (run_outcome (C := fun _ _ => True) (I := fun s => s (.Proposal id) = some p)
      (fun hfounded hs _ h => final_step hfounded hs hfinal h) run_founded hp
      (Along.of_forall fun _ _ _ => trivial)).2

end Lifecycle

end BridgeWatch.Governance

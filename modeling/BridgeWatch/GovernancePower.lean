/-
The delegated voting power of the governance contract.

The books of powers and delegations are exact as long as no power is set that is delegated away: the
counter of the delegatee is not told, and the clamp at zero keeps the difference when the delegation ends.
-/
import BridgeWatch.GovernanceCalls

set_option autoImplicit false

namespace BridgeWatch.Governance

open Transaction HostCalls DelegatedPower Totals
open Contract (U32 U64 SString Address Env)

/-- Every counter of delegated power is the total of the powers that are delegated to it; the powers that are voted
with and the powers themselves sum up to the supply. -/
structure PowerExact (s : GovernanceStorage) : Prop where
  delegated : ∀ d, HasTotal (fun u => if s (.Delegation u) = some d then (books s).power u else 0) ((books s).received d)
  effective : HasTotal (books s).effective (books s).supply
  powers : HasTotal (books s).power (books s).supply

/-- The call sets no power that is delegated away to another. -/
def sets_own_power (s : GovernanceStorage) (call : Env × EntryPoint) : Bool :=
  match call.2 with
  | .set_voting_power voter power => (s (.Delegation voter)).isNone || power == (books s).power voter
  | _ => true

section Powers

variable {env : Env} {s s' : GovernanceStorage} {call : EntryPoint} {calls : List (Env × EntryPoint)}

theorem books_kept {P : DataKey → Prop} (hframe : ∀ key, P key → s' key = s key)
    (h : (∀ u, P (.VotingPower u) ∧ P (.Delegation u) ∧ P (.DelegatedPower u)) ∧ P .TotalSupply) :
    books s' = books s := by
  simp only [books, hframe _ (h.1 _).1, hframe _ (h.1 _).2.1, hframe _ (h.1 _).2.2, hframe _ h.2]

/-- The books of a contract that is initialised. -/
theorem books_opened (hs : Founded s) (hnone : s .Admin = none) (hsupply : s' .TotalSupply = some 0)
    (hframe : ∀ key, key ∉ [DataKey.Admin, .ProposalCount, .TotalSupply, .GuardianCount, .Config] → s' key = s key) :
    books s' = books s := by
  obtain ⟨-, htotal, -⟩ := hs.unopened hnone
  apply Books.ext
  · simp [books, hframe]
  · simp [books, hframe]
  · simp [books, hframe]
  · simp [books, hsupply, htotal]

/-- What a call does to the books: nothing, or one of the operations on books. -/
inductive BooksStep (s s' : GovernanceStorage) : EntryPoint → Prop
  | kept {call : EntryPoint} (hbooks : books s' = books s) : BooksStep s s' call
  | powered {voter : Address} {power : ℤ} (hpower : 0 ≤ power) (hbooks : books s' = (books s).set_power voter power) :
      BooksStep s s' (.set_voting_power voter power)
  | delegated {u d : Address} (hne : u ≠ d) (hbooks : books s' = ((books s).undelegate u).delegate_to u d) :
      BooksStep s s' (.delegate_votes u d)
  | undelegated {u : Address} (hbooks : books s' = (books s).undelegate u) : BooksStep s s' (.undelegate_votes u)

theorem books_step (hs : Founded s) (h : Outcome env s call s') : BooksStep s s' call := by
  cases h with
  | opened hnone _ _ hsupply _ hframe => exact .kept (books_opened hs hnone hsupply hframe)
  | powered _ hpower hbooks => exact .powered hpower hbooks
  | guarded _ hframe | unguarded hframe | created _ _ _ _ _ _ _ hframe | voted _ _ _ _ _ _ _ _ hframe
  | approved _ _ _ _ _ hframe | advanced _ _ _ hframe | configured _ _ hframe =>
      exact .kept (books_kept hframe (by simp))
  | delegated hne hbooks => exact .delegated hne hbooks
  | undelegated hbooks => exact .undelegated hbooks

theorem exact_step (hs : (books s).Exact) (hcall : sets_own_power s (env, call) = true) (h : BooksStep s s' call) :
    (books s').Exact := by
  cases h with
  | kept hbooks => rwa [hbooks]
  | powered hpower hbooks =>
      simp only [sets_own_power, Bool.or_eq_true, Option.isNone_iff_eq_none, beq_iff_eq] at hcall
      rw [hbooks]
      exact hs.set_power hpower hcall
  | @delegated u d _ hbooks =>
      have hnone : ((books s).undelegate u).delegate u = none := by
        rw [Books.delegate_undelegate, Function.update_self]
      rw [hbooks]
      exact (hs.undelegate u).delegate_to hnone d
  | undelegated hbooks =>
      rw [hbooks]
      exact hs.undelegate _

theorem exact_empty : (books empty_storage).Exact := Books.Exact.empty

/-- **Delegated voting power is exact** in a run that sets no power that is delegated away. -/
theorem powers_exact (hcalls : Along exec (fun s call => sets_own_power s call = true) empty_storage calls) :
    PowerExact (run empty_storage calls) := by
  have hexact := (run_outcome (I := fun s => (books s).Exact)
    (fun hfounded hs hcall h => exact_step hs hcall (books_step hfounded h)) founded_empty exact_empty hcalls).2
  exact ⟨hexact.received, hexact.effective_total, hexact.supply⟩

/-- A voter whose power is set, delegated, and set again. -/
def reset_power (power : ℤ) : List (Env × EntryPoint) :=
  [(signed_at 0, .initialize_governance (party 0) plain_config), (signed_at 0, .set_voting_power (party 1) 100),
    (signed_at 0, .delegate_votes (party 1) (party 2)), (signed_at 0, .set_voting_power (party 1) power)]

theorem powers_exact_reset :
    (books (run empty_storage (reset_power 100))).received (party 2) = 100 ∧
      PowerExact (run empty_storage (reset_power 100)) :=
  ⟨by decide +kernel, powers_exact (by decide +kernel)⟩

theorem power_nonneg_step (hs : ∀ u, 0 ≤ (books s).power u) (h : BooksStep s s' call) (u : Address) :
    0 ≤ (books s').power u := by
  cases h with
  | kept hbooks => exact hbooks ▸ hs u
  | @powered voter _ hpower hbooks =>
      rw [hbooks]
      by_cases hu : u = voter
      · rw [hu]
        simpa [Books.set_power] using hpower
      · simpa [Books.set_power, hu] using hs u
  | delegated _ hbooks =>
      rw [hbooks, Books.power_delegate_to, Books.power_undelegate]
      exact hs u
  | undelegated hbooks =>
      rw [hbooks, Books.power_undelegate]
      exact hs u

theorem run_power_nonneg (u : Address) : 0 ≤ (books (run empty_storage calls)).power u :=
  (run_outcome (C := fun _ _ => True) (I := fun s => ∀ u, 0 ≤ (books s).power u)
    (fun hfounded hs _ h => power_nonneg_step hs (books_step hfounded h)) founded_empty (fun _ => le_refl 0)
    (Along.of_forall fun _ _ _ => trivial)).2 u

/-- A delegatee keeps 100 of a delegator whose power was set to 10. -/
theorem powers_not_exact : ¬ ∀ calls : List (Env × EntryPoint), PowerExact (run empty_storage calls) := by
  intro h
  have hexact := h (reset_power 10)
  -- What one is delegated is never above the supply when the counters are exact.
  have hle := (hexact.delegated (party 2)).mono hexact.powers fun u => by
    split_ifs
    · exact le_refl _
    · exact run_power_nonneg u
  exact absurd hle (by decide +kernel)

end Powers

end BridgeWatch.Governance

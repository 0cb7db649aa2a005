/-
What a call of the governance contract does.

The entry points are read here once. The powers and the delegations of the contract are the books of
delegated power, and the calls that change them are the operations on books. A proposal that exists changes
by a vote or by an advance of its status. `outcome_of_exec` is all that the later files use of the model.
-/
import BridgeWatch.DelegatedPower
import BridgeWatch.GovernanceContract

set_option autoImplicit false

namespace BridgeWatch.Governance

open Transaction CheckedIntegers HostCalls DelegatedPower
open Contract (U32 U64 SString Address Env saturating_sub_u32)

/-! ## Views of the storage -/

/-- The powers and the delegations. -/
def books (s : GovernanceStorage) : Books Address :=
  { power := fun u => (s (.VotingPower u)).getD 0
    delegate := fun u => s (.Delegation u)
    received := fun d => (s (.DelegatedPower d)).getD 0
    supply := (s .TotalSupply).getD 0 }

/-- The number of the next proposal. -/
def proposal_count (s : GovernanceStorage) : ℕ := ((s .ProposalCount).getD 0).toNat

/-- The address is a guardian now. -/
def is_guardian (s : GovernanceStorage) (g : Address) : Bool := (s (.Guardian g)).getD false

/-- The address has approved the proposal. -/
def has_approved (s : GovernanceStorage) (id : U32) (g : Address) : Bool := (s (.GuardianApproval id g)).getD false

/-- A share of the whole, in basis points. -/
def share (votes whole : ℤ) (bps : U32) : Bool := decide (whole > 0) && decide ((votes * 10000).tdiv whole ≥ bps.toNat)

/-- The votes of a proposal. -/
def Proposal.votes (p : Proposal) : ℤ := p.votes_for + p.votes_against + p.votes_abstain

/-- The quorum and the threshold are met. -/
def carried (cfg : GovernanceConfig) (supply : ℤ) (p : Proposal) : Bool :=
  share p.votes supply cfg.quorum_bps && share p.votes_for (p.votes_for + p.votes_against) cfg.pass_threshold_bps

/-- Nothing follows on the status. -/
def is_final : ProposalStatus → Bool
  | .Executed => true
  | .Failed => true
  | .Cancelled => true
  | _ => false

/-- The proposal with some votes more. -/
def Proposal.with_votes (p : Proposal) (choice : VoteChoice) (votes : ℤ) : Proposal :=
  match choice with
  | .For => { p with votes_for := p.votes_for + votes }
  | .Against => { p with votes_against := p.votes_against + votes }
  | .Abstain => { p with votes_abstain := p.votes_abstain + votes }

section Votes

variable {p : Proposal} {choice : VoteChoice} {votes : ℤ}

@[simp] theorem votes_with_votes : (p.with_votes choice votes).votes = p.votes + votes := by
  cases choice <;> simp only [Proposal.with_votes, Proposal.votes] <;> omega

@[simp] theorem status_with_votes : (p.with_votes choice votes).status = p.status := by cases choice <;> rfl

@[simp] theorem type_with_votes : (p.with_votes choice votes).proposal_type = p.proposal_type := by
  cases choice <;> rfl

end Votes

/-! ## What a call leaves -/

/-- How a call advances a proposal at time `now`. -/
inductive Advance (now : U64) (s : GovernanceStorage) (id : U32) (p : Proposal) : EntryPoint → Proposal → Prop
  | activated (hstatus : p.status = .Pending) (htime : p.start_time ≤ now) :
      Advance now s id p (.activate_proposal id) { p with status := .Active }
  | finalized {cfg : GovernanceConfig} (hstatus : p.status = .Active) (htime : p.end_time < now)
      (hcfg : s .Config = some cfg) : Advance now s id p (.finalize_proposal id)
        { p with status := if carried cfg (books s).supply p = true then .Passed else .Failed }
  | queued {cfg : GovernanceConfig} (hstatus : p.status = .Passed) (hcfg : s .Config = some cfg)
      (hfits : now.toNat + cfg.timelock_delay.toNat < 2 ^ 64) : Advance now s id p (.queue_proposal id)
        { p with execute_after := now + cfg.timelock_delay, status := .Queued }
  | executed {executor : Address} (hstatus : p.status = .Queued) (htime : p.execute_after ≤ now) :
      Advance now s id p (.execute_proposal executor id) { p with status := .Executed, executed_at := now }
  | guardian_executed {executor : Address} {cfg : GovernanceConfig} (hguardian : is_guardian s executor = true)
      (hcfg : s .Config = some cfg)
      (happrovals : cfg.guardian_threshold ≤ (s (.GuardianApprovalCount id)).getD 0)
      (htype : p.proposal_type = .EmergencyPause)
      (hstatus : p.status = .Active ∨ p.status = .Passed ∨ p.status = .Queued) :
      Advance now s id p (.guardian_execute executor id) { p with status := .Executed, executed_at := now }
  | cancelled {caller : Address} (hstatus : is_final p.status = false) :
      Advance now s id p (.cancel_proposal caller id) { p with status := .Cancelled }

/-- **What a successful call can do.** -/
inductive Outcome (env : Env) (s : GovernanceStorage) : EntryPoint → GovernanceStorage → Prop
  | opened {admin : Address} {cfg : GovernanceConfig} {s' : GovernanceStorage} (hnone : s .Admin = none)
      (hadmin : s' .Admin = some admin) (hcfg : s' .Config = some cfg) (hsupply : s' .TotalSupply = some 0)
      (hcount : s' .ProposalCount = some 0)
      (hframe : ∀ key, key ∉ [DataKey.Admin, .ProposalCount, .TotalSupply, .GuardianCount, .Config] → s' key = s key) :
      Outcome env s (.initialize_governance admin cfg) s'
  | powered {voter : Address} {power : ℤ} {s' : GovernanceStorage} (hadmin : s .Admin ≠ none) (hpower : 0 ≤ power)
      (hbooks : books s' = (books s).set_power voter power)
      (hframe : ∀ key, key ∉ [DataKey.VotingPower voter, .TotalSupply] → s' key = s key) :
      Outcome env s (.set_voting_power voter power) s'
  | guarded {g : Address} {s' : GovernanceStorage} (hguardian : is_guardian s' g = true)
      (hframe : ∀ key, key ∉ [DataKey.Guardian g, .GuardianCount] → s' key = s key) :
      Outcome env s (.add_guardian g) s'
  | unguarded {g : Address} {s' : GovernanceStorage} (hframe : ∀ key, key ∉ [DataKey.Guardian g, .GuardianCount] →
      s' key = s key) : Outcome env s (.remove_guardian g) s'
  | delegated {u d : Address} {s' : GovernanceStorage} (hne : u ≠ d)
      (hbooks : books s' = ((books s).undelegate u).delegate_to u d)
      (hframe : ∀ key, (∀ u, key ≠ .Delegation u) → (∀ d, key ≠ .DelegatedPower d) → s' key = s key) :
      Outcome env s (.delegate_votes u d) s'
  | undelegated {u : Address} {s' : GovernanceStorage} (hbooks : books s' = (books s).undelegate u)
      (hframe : ∀ key, (∀ u, key ≠ .Delegation u) → (∀ d, key ≠ .DelegatedPower d) → s' key = s key) :
      Outcome env s (.undelegate_votes u) s'
  | created {proposer target : Address} {kind : ProposalType} {title description calldata : SString} {id : U32}
      {cfg : GovernanceConfig} {p : Proposal} {s' : GovernanceStorage} (hcfg : s .Config = some cfg)
      (hid : s .ProposalCount = some id) (hfits : id.toNat + 1 < 2 ^ 32) (hcount : s' .ProposalCount = some (id + 1))
      (hpending : p.status = .Pending) (hvotes : p.votes = 0) (hproposal : s' (.Proposal id) = some p)
      (hframe : ∀ key, key ∉ [DataKey.ProposalCount, .Proposal id] → s' key = s key) :
      Outcome env s (.create_proposal proposer kind title description target calldata) s'
  | voted {v : Address} {id : U32} {choice : VoteChoice} {p : Proposal} {cfg : GovernanceConfig}
      {s' : GovernanceStorage} (hload : s (.Proposal id) = some p) (hstatus : p.status = .Active)
      (hwindow : p.start_time ≤ env.timestamp ∧ env.timestamp ≤ p.end_time) (hnone : s (.VoteRecord id v) = none)
      (hcfg : s .Config = some cfg) (hpower : 0 < (books s).effective v)
      (hrecord : s' (.VoteRecord id v) = some ⟨v, id, choice, (books s).effective v,
        effective_votes cfg ((books s).effective v), env.timestamp⟩)
      (hproposal : s' (.Proposal id) = some (p.with_votes choice (effective_votes cfg ((books s).effective v))))
      (hframe : ∀ key, key ∉ [DataKey.VoteRecord id v, .Proposal id] → s' key = s key) :
      Outcome env s (.cast_vote v id choice) s'
  | approved {g : Address} {id : U32} {s' : GovernanceStorage} (hguardian : is_guardian s g = true)
      (hnot : has_approved s id g = false) (happroved : has_approved s' id g = true)
      (hfits : ((s (.GuardianApprovalCount id)).getD 0).toNat + 1 < 2 ^ 32)
      (hcount : s' (.GuardianApprovalCount id) = some ((s (.GuardianApprovalCount id)).getD 0 + 1))
      (hframe : ∀ key, key ∉ [DataKey.GuardianApproval id g, .GuardianApprovalCount id] → s' key = s key) :
      Outcome env s (.guardian_approve g id) s'
  | advanced {call : EntryPoint} {id : U32} {p q : Proposal} {s' : GovernanceStorage}
      (hload : s (.Proposal id) = some p) (hadvance : Advance env.timestamp s id p call q)
      (hproposal : s' (.Proposal id) = some q) (hframe : ∀ key, key ≠ .Proposal id → s' key = s key) :
      Outcome env s call s'
  | configured {cfg : GovernanceConfig} {s' : GovernanceStorage} (hadmin : s .Admin ≠ none)
      (hcfg : s' .Config = some cfg) (hframe : ∀ key, key ≠ .Config → s' key = s key) :
      Outcome env s (.update_config cfg) s'

/-! ## The private helpers -/

section Inversion

variable {env : Env} {s s' : GovernanceStorage} {u d g : Address} {id : U32} {w : Unit}

@[simp] theorem only_admin_eq_ok :
    only_admin env s = .ok (w, s') ↔ (∃ admin, s .Admin = some admin ∧ env.auth admin = true) ∧ s' = s := by
  simp only [only_admin, bind_eq_ok, load_eq_ok, expect_eq_ok, HostCalls.require_auth_eq_ok, and_assoc, exists_and_left,
    exists_eq_left]
  constructor
  · rintro ⟨admin, hadmin, hauth, rfl⟩
    exact ⟨⟨admin, hadmin, hauth⟩, rfl⟩
  · rintro ⟨⟨admin, hadmin, hauth⟩, rfl⟩
    exact ⟨admin, hadmin, hauth, rfl⟩

@[simp] theorem load_config_eq_ok {cfg : GovernanceConfig} :
    load_config env s = .ok (cfg, s') ↔ s .Config = some cfg ∧ s' = s := by
  simp only [load_config, bind_eq_ok, load_eq_ok, expect_eq_ok, and_assoc, exists_and_left, exists_eq_left]

@[simp] theorem load_proposal_eq_ok {p : Proposal} :
    load_proposal id env s = .ok (p, s') ↔ s (.Proposal id) = some p ∧ s' = s := by
  simp only [load_proposal, bind_eq_ok, load_eq_ok, expect_eq_ok, and_assoc, exists_and_left, exists_eq_left]

@[simp] theorem raw_power_eq_ok {x : ℤ} : raw_power u env s = .ok (x, s') ↔ x = (books s).power u ∧ s' = s := by
  simp only [raw_power, bind_eq_ok, load_eq_ok, pure_eq_ok, and_assoc, exists_and_left, exists_eq_left, books]

@[simp] theorem effective_power_eq_ok {x : ℤ} :
    effective_power u env s = .ok (x, s') ↔
      FitsI128 ((books s).effective u) ∧ x = (books s).effective u ∧ s' = s := by
  simp only [effective_power, bind_eq_ok, load_eq_ok, raw_power_eq_ok, expect_eq_ok, checked_add_eq_some, and_assoc,
    exists_and_left, exists_eq_left]
  rfl

theorem books_undelegated :
    books (Function.update (Function.update s (.DelegatedPower d) (some (max ((books s).received d - (books s).power u) 0)))
      (.Delegation u) none) =
    { books s with delegate := Function.update (books s).delegate u none
                   received := Function.update (books s).received d (max ((books s).received d - (books s).power u) 0) } := by
  apply Books.ext
  · simp [books]
  · funext x
    by_cases hx : x = u
    · rw [hx]
      simp [books]
    · simp [books, hx]
  · funext x
    by_cases hx : x = d
    · rw [hx]
      simp [books]
    · simp [books, hx]
  · simp [books]

/-- Only the delegations and their counters are written. -/
theorem remove_delegation_of_ok (h : remove_delegation_internal u env s = .ok (w, s')) :
    books s' = (books s).undelegate u ∧
      ∀ key, (∀ u, key ≠ .Delegation u) → (∀ d, key ≠ .DelegatedPower d) → s' key = s key := by
  simp only [remove_delegation_internal, bind_eq_ok, load_eq_ok, elim_eq_ok, pure_eq_ok, raw_power_eq_ok, expect_eq_ok,
    checked_sub_eq_some, save_eq_ok, remove_eq_ok, and_assoc, exists_and_left, exists_eq_left, exists_const] at h
  have hdelegate : (books s).delegate u = s (.Delegation u) := rfl
  rcases h with ⟨hnone, -, rfl⟩ | ⟨d, hsome, -, rfl⟩
  · refine ⟨?_, fun _ _ _ => rfl⟩
    rw [Books.undelegate, hdelegate, hnone, Option.elim_none]
  · refine ⟨?_, fun key hdelegation hpower => ?_⟩
    · rw [Books.undelegate, hdelegate, hsome, Option.elim_some]
      exact books_undelegated
    · rw [Function.update_of_ne (hdelegation u), Function.update_of_ne (hpower d)]

@[simp] theorem valid_config_eq_ok {cfg : GovernanceConfig} :
    valid_config cfg env s = .ok (w, s') ↔
      cfg.quorum_bps ≤ 10000 ∧ (cfg.pass_threshold_bps ≤ 10000 ∧ cfg.pass_threshold_bps > 0) ∧ s' = s := by
  simp only [valid_config, bind_eq_ok, panic_if_eq_ok, not_not, and_assoc, exists_and_left, exists_eq_left, exists_const]

theorem count_votes_of_ok {p q : Proposal} {choice : VoteChoice} {votes : ℤ}
    (h : count_votes p choice votes env s = .ok (q, s')) : q = p.with_votes choice votes ∧ s' = s := by
  cases choice <;>
    simp only [count_votes, bind_eq_ok, expect_eq_ok, checked_add_eq_some, pure_eq_ok, and_assoc, exists_and_left,
      exists_eq_left] at h <;>
    exact h.2

theorem share_met_of_ok {votes whole : ℤ} {bps : U32} {b : Bool} (h : share_met votes whole bps env s = .ok (b, s')) :
    b = share votes whole bps ∧ s' = s := by
  simp only [share_met, ite_eq_ok, bind_eq_ok, expect_eq_ok, checked_mul_eq_some, pure_eq_ok, and_assoc,
    exists_and_left, exists_eq_left] at h
  rcases h with ⟨hwhole, -, rfl, rfl⟩ | ⟨hwhole, rfl, rfl⟩
  · simp [share, hwhole]
  · simp [share, hwhole]

end Inversion

/-! ## The entry points -/

section EntryPoints

variable {env : Env} {s s' : GovernanceStorage} {u d g voter : Address} {id : U32} {power : ℤ}

theorem books_powered :
    books (Function.update (Function.update s (.VotingPower voter) (some power)) .TotalSupply
      (some ((books s).supply - (books s).power voter + power))) = (books s).set_power voter power := by
  apply Books.ext
  · funext x
    by_cases hx : x = voter
    · rw [hx]
      simp [books, Books.set_power]
    · simp [books, Books.set_power, hx]
  · simp [books, Books.set_power]
  · simp [books, Books.set_power]
  · simp [books, Books.set_power]

theorem powered_of_ok (h : set_voting_power voter power env s = .ok ((), s')) :
    Outcome env s (.set_voting_power voter power) s' := by
  simp only [set_voting_power, bind_eq_ok, only_admin_eq_ok, panic_if_eq_ok, not_not, load_eq_ok, expect_eq_ok,
    checked_sub_eq_some, checked_add_eq_some, save_eq_ok, and_assoc, exists_and_left, exists_eq_left, exists_const] at h
  obtain ⟨⟨admin, hadmin, -⟩, hpower, -, -, rfl⟩ := h
  refine .powered ?_ hpower ?_ ?_
  · rw [hadmin]
    exact Option.some_ne_none admin
  · rw [← books_powered]
    simp [books]
  · simp +contextual

theorem opened_of_ok {admin : Address} {cfg : GovernanceConfig}
    (h : initialize_governance admin cfg env s = .ok ((), s')) :
    Outcome env s (.initialize_governance admin cfg) s' := by
  simp only [initialize_governance, bind_eq_ok, HostCalls.require_auth_eq_ok, load_eq_ok, panic_if_eq_ok, not_not,
    valid_config_eq_ok, save_eq_ok, and_assoc, exists_and_left, exists_eq_left, exists_const] at h
  obtain ⟨-, hnone, -, -, -, rfl⟩ := h
  rw [Option.isNone_iff_eq_none] at hnone
  refine .opened hnone ?_ ?_ ?_ ?_ ?_
  all_goals simp +contextual

theorem guarded_of_ok (h : add_guardian g env s = .ok ((), s')) : Outcome env s (.add_guardian g) s' := by
  simp only [add_guardian, bind_eq_ok, only_admin_eq_ok, load_eq_ok, exec_if_eq_ok, checked_add_u32_eq_ok, save_eq_ok,
    and_assoc, exists_and_left, exists_eq_left, exists_const] at h
  obtain ⟨-, ⟨-, -, rfl⟩ | ⟨hguardian, rfl⟩⟩ := h
  · refine .guarded ?_ ?_
    · simp [is_guardian]
    · simp +contextual
  · exact .guarded (Bool.eq_true_of_not_eq_false hguardian) fun _ _ => rfl

theorem unguarded_of_ok (h : remove_guardian g env s = .ok ((), s')) : Outcome env s (.remove_guardian g) s' := by
  simp only [remove_guardian, bind_eq_ok, only_admin_eq_ok, load_eq_ok, exec_if_eq_ok, save_eq_ok, and_assoc,
    exists_and_left, exists_eq_left, exists_const] at h
  obtain ⟨-, ⟨-, rfl⟩ | ⟨-, rfl⟩⟩ := h
  · refine .unguarded ?_
    simp +contextual
  · exact .unguarded fun _ _ => rfl

theorem books_delegated :
    books (Function.update (Function.update s (.Delegation u) (some d)) (.DelegatedPower d)
      (some ((books s).received d + (books s).power u))) = (books s).delegate_to u d := by
  apply Books.ext
  · simp [books, Books.delegate_to]
  · funext x
    by_cases hx : x = u
    · rw [hx]
      simp [books, Books.delegate_to]
    · simp [books, Books.delegate_to, hx]
  · funext x
    by_cases hx : x = d
    · rw [hx]
      simp [books, Books.delegate_to]
    · simp [books, Books.delegate_to, hx]
  · simp [books, Books.delegate_to]

theorem delegated_of_ok (h : delegate_votes u d env s = .ok ((), s')) : Outcome env s (.delegate_votes u d) s' := by
  simp only [delegate_votes, bind_eq_ok, HostCalls.require_auth_eq_ok, panic_if_eq_ok, not_not, raw_power_eq_ok,
    load_eq_ok, expect_eq_ok, checked_add_eq_some, save_eq_ok, and_assoc, exists_and_left, exists_eq_left, exists_const] at h
  obtain ⟨-, hne, _, s₁, hremove, -, rfl⟩ := h
  obtain ⟨hbooks, hframe⟩ := remove_delegation_of_ok hremove
  refine .delegated hne ?_ fun key hdelegation hpower => ?_
  · rw [← hbooks, ← books_delegated]
    simp [books]
  · rw [Function.update_of_ne (hpower d), Function.update_of_ne (hdelegation u), hframe key hdelegation hpower]

theorem undelegated_of_ok (h : undelegate_votes u env s = .ok ((), s')) : Outcome env s (.undelegate_votes u) s' := by
  simp only [undelegate_votes, bind_eq_ok, HostCalls.require_auth_eq_ok, and_assoc, exists_and_left, exists_eq_left,
    exists_const] at h
  obtain ⟨hbooks, hframe⟩ := remove_delegation_of_ok h.2
  exact .undelegated hbooks hframe

theorem created_of_ok {proposer target : Address} {kind : ProposalType} {title description calldata : SString}
    (h : create_proposal proposer kind title description target calldata env s = .ok (id, s')) :
    Outcome env s (.create_proposal proposer kind title description target calldata) s' := by
  simp only [create_proposal, bind_eq_ok, HostCalls.require_auth_eq_ok, load_config_eq_ok, effective_power_eq_ok,
    panic_if_eq_ok, not_not, reads_eq_ok, checked_add_u64_eq_ok, load_eq_ok, expect_eq_ok, checked_add_u32_eq_ok,
    save_eq_ok, pure_eq_ok, and_assoc, exists_and_left, exists_eq_left, exists_const] at h
  obtain ⟨-, cfg, hcfg, -, -, -, -, count, hcount, hfits, rfl, rfl⟩ := h
  refine .created hcfg hcount hfits (by simp) rfl rfl (Function.update_self ..) ?_
  simp +contextual

theorem voted_of_ok {choice : VoteChoice} (h : cast_vote voter id choice env s = .ok ((), s')) :
    Outcome env s (.cast_vote voter id choice) s' := by
  simp only [cast_vote, bind_eq_ok, HostCalls.require_auth_eq_ok, load_proposal_eq_ok, panic_if_eq_ok, not_not,
    reads_eq_ok, load_eq_ok, load_config_eq_ok, effective_power_eq_ok, save_eq_ok, and_assoc, exists_and_left,
    exists_eq_left, exists_const] at h
  obtain ⟨-, p, hload, hstatus, hstart, hend, hnone, cfg, hcfg, -, hpower, q, s₁, hcount, rfl⟩ := h
  obtain ⟨rfl, rfl⟩ := count_votes_of_ok hcount
  rw [Option.isNone_iff_eq_none] at hnone
  refine .voted hload hstatus ⟨hstart, hend⟩ hnone hcfg hpower ?_ (Function.update_self ..) ?_
  · simp
  · simp +contextual

theorem approved_of_ok (h : guardian_approve g id env s = .ok ((), s')) : Outcome env s (.guardian_approve g id) s' := by
  simp only [guardian_approve, bind_eq_ok, HostCalls.require_auth_eq_ok, load_eq_ok, panic_if_eq_ok, not_not,
    checked_add_u32_eq_ok, save_eq_ok, and_assoc, exists_and_left, exists_eq_left, exists_const] at h
  obtain ⟨-, hguardian, hnot, hfits, rfl⟩ := h
  refine .approved hguardian hnot ?_ (by simpa using hfits) ?_ ?_
  · simp [has_approved]
  · simp
  · simp +contextual

theorem advanced_of_update {call : EntryPoint} {p q : Proposal} (hload : s (.Proposal id) = some p)
    (hadvance : Advance env.timestamp s id p call q) : Outcome env s call (Function.update s (.Proposal id) (some q)) :=
  .advanced hload hadvance (Function.update_self ..) fun _ hkey => Function.update_of_ne hkey _ _

theorem activated_of_ok (h : activate_proposal id env s = .ok ((), s')) : Outcome env s (.activate_proposal id) s' := by
  simp only [activate_proposal, bind_eq_ok, load_proposal_eq_ok, panic_if_eq_ok, not_not, reads_eq_ok, save_eq_ok,
    and_assoc, exists_and_left, exists_eq_left, exists_const] at h
  obtain ⟨p, hload, hstatus, htime, rfl⟩ := h
  exact advanced_of_update hload (.activated hstatus htime)

theorem finalized_of_ok (h : finalize_proposal id env s = .ok ((), s')) : Outcome env s (.finalize_proposal id) s' := by
  simp only [finalize_proposal, bind_eq_ok, load_proposal_eq_ok, panic_if_eq_ok, not_not, reads_eq_ok,
    load_config_eq_ok, load_eq_ok, expect_eq_ok, checked_add_eq_some, save_eq_ok, and_assoc, exists_and_left,
    exists_eq_left, exists_const] at h
  obtain ⟨p, hload, hstatus, htime, cfg, hcfg, -, -, quorum, s₁, hquorum, threshold, s₂, hthreshold, rfl⟩ := h
  obtain ⟨rfl, rfl⟩ := share_met_of_ok hquorum
  obtain ⟨rfl, rfl⟩ := share_met_of_ok hthreshold
  simp only [← Bool.and_eq_true]
  exact advanced_of_update hload (.finalized hstatus htime hcfg)

theorem queued_of_ok (h : queue_proposal id env s = .ok ((), s')) : Outcome env s (.queue_proposal id) s' := by
  simp only [queue_proposal, bind_eq_ok, load_proposal_eq_ok, panic_if_eq_ok, not_not, reads_eq_ok, load_config_eq_ok,
    checked_add_u64_eq_ok, save_eq_ok, and_assoc, exists_and_left, exists_eq_left, exists_const] at h
  obtain ⟨p, hload, hstatus, cfg, hcfg, hfits, rfl⟩ := h
  exact advanced_of_update hload (.queued hstatus hcfg hfits)

theorem executed_of_ok {executor : Address} (h : execute_proposal executor id env s = .ok ((), s')) :
    Outcome env s (.execute_proposal executor id) s' := by
  simp only [execute_proposal, bind_eq_ok, HostCalls.require_auth_eq_ok, load_proposal_eq_ok, panic_if_eq_ok, not_not,
    reads_eq_ok, save_eq_ok, and_assoc, exists_and_left, exists_eq_left, exists_const] at h
  obtain ⟨-, p, hload, hstatus, htime, rfl⟩ := h
  exact advanced_of_update hload (.executed hstatus htime)

theorem guardian_executed_of_ok {executor : Address} (h : guardian_execute executor id env s = .ok ((), s')) :
    Outcome env s (.guardian_execute executor id) s' := by
  simp only [guardian_execute, bind_eq_ok, HostCalls.require_auth_eq_ok, load_eq_ok, panic_if_eq_ok, not_not,
    load_config_eq_ok, load_proposal_eq_ok, reads_eq_ok, save_eq_ok, and_assoc, exists_and_left, exists_eq_left, exists_const] at h
  obtain ⟨-, hguardian, cfg, hcfg, happrovals, p, hload, htype, hstatus, rfl⟩ := h
  exact advanced_of_update hload (.guardian_executed hguardian hcfg happrovals htype hstatus)

theorem cancelled_of_ok {caller : Address} (h : cancel_proposal caller id env s = .ok ((), s')) :
    Outcome env s (.cancel_proposal caller id) s' := by
  simp only [cancel_proposal, bind_eq_ok, HostCalls.require_auth_eq_ok, load_eq_ok, expect_eq_ok, load_proposal_eq_ok,
    panic_if_eq_ok, not_not, save_eq_ok, and_assoc, exists_and_left, exists_eq_left, exists_const] at h
  obtain ⟨-, admin, hadmin, p, hload, -, hstatus, rfl⟩ := h
  refine advanced_of_update hload (.cancelled ?_)
  rcases hstatus with hstatus | hstatus | hstatus | hstatus <;> rw [hstatus] <;> rfl

theorem configured_of_ok {cfg : GovernanceConfig} (h : update_config cfg env s = .ok ((), s')) :
    Outcome env s (.update_config cfg) s' := by
  simp only [update_config, bind_eq_ok, only_admin_eq_ok, valid_config_eq_ok, save_eq_ok, and_assoc, exists_and_left,
    exists_eq_left, exists_const] at h
  obtain ⟨⟨admin, hadmin, -⟩, -, -, -, rfl⟩ := h
  refine .configured ?_ (Function.update_self ..) fun _ hkey => Function.update_of_ne hkey _ _
  rw [hadmin]
  exact Option.some_ne_none admin

/-- **The outcome of a call** that succeeds. -/
theorem outcome_of_exec {call : EntryPoint} (h : exec call env s = .ok ((), s')) : Outcome env s call s' := by
  cases call with
  | initialize_governance => exact opened_of_ok h
  | set_voting_power => exact powered_of_ok h
  | add_guardian => exact guarded_of_ok h
  | remove_guardian => exact unguarded_of_ok h
  | delegate_votes => exact delegated_of_ok h
  | undelegate_votes => exact undelegated_of_ok h
  | create_proposal =>
      obtain ⟨id, s₁, hcreate, hdone⟩ := bind_eq_ok.mp h
      obtain ⟨-, rfl⟩ := pure_eq_ok.mp hdone
      exact created_of_ok hcreate
  | activate_proposal => exact activated_of_ok h
  | cast_vote => exact voted_of_ok h
  | finalize_proposal => exact finalized_of_ok h
  | queue_proposal => exact queued_of_ok h
  | execute_proposal => exact executed_of_ok h
  | guardian_approve => exact approved_of_ok h
  | guardian_execute => exact guardian_executed_of_ok h
  | cancel_proposal => exact cancelled_of_ok h
  | update_config => exact configured_of_ok h

end EntryPoints

/-! ## Runs -/

/-- The proposals are numbered, and there is nothing before the contract is initialised. -/
structure Founded (s : GovernanceStorage) : Prop where
  unopened : s .Admin = none → s .Config = none ∧ s .TotalSupply = none ∧ ∀ id, s (.Proposal id) = none
  numbered : ∀ id, s (.Proposal id) ≠ none → id.toNat < proposal_count s

section Runs

variable {env : Env} {s s' : GovernanceStorage} {call : EntryPoint} {calls : List (Env × EntryPoint)}

theorem Founded.congr (hs : Founded s) (hadmin : s' .Admin = s .Admin) (hcfg : s' .Config = s .Config)
    (hsupply : s' .TotalSupply = s .TotalSupply) (hcount : s' .ProposalCount = s .ProposalCount)
    (hproposals : ∀ id, s' (.Proposal id) = s (.Proposal id)) : Founded s' := by
  refine ⟨fun hnone => ?_, fun id hid => ?_⟩
  · rw [hadmin] at hnone
    obtain ⟨hconfig, htotal, hempty⟩ := hs.unopened hnone
    exact ⟨hcfg.trans hconfig, hsupply.trans htotal, fun id => (hproposals id).trans (hempty id)⟩
  · rw [hproposals] at hid
    rw [proposal_count, hcount]
    exact hs.numbered id hid

theorem Founded.of_frame {P : DataKey → Prop} (hs : Founded s) (hframe : ∀ key, P key → s' key = s key)
    (h : P .Admin ∧ P .Config ∧ P .TotalSupply ∧ P .ProposalCount ∧ ∀ id, P (.Proposal id)) : Founded s' :=
  hs.congr (hframe _ h.1) (hframe _ h.2.1) (hframe _ h.2.2.1) (hframe _ h.2.2.2.1) fun id => hframe _ (h.2.2.2.2 id)

/-- A call that writes no proposal but one that is there. -/
theorem Founded.kept {P : DataKey → Prop} (hs : Founded s) (hadmin : s .Admin ≠ none)
    (hframe : ∀ key, P key → s' key = s key) (h : P .Admin ∧ P .ProposalCount)
    (hproposals : ∀ id, ¬P (.Proposal id) → s (.Proposal id) ≠ none) : Founded s' := by
  refine ⟨fun hnone => absurd (hframe _ h.1 ▸ hnone) hadmin, fun id hid => ?_⟩
  rw [proposal_count, hframe _ h.2]
  by_cases hkey : P (.Proposal id)
  · rw [hframe _ hkey] at hid
    exact hs.numbered id hid
  · exact hs.numbered id (hproposals id hkey)

theorem Founded.admin_of_config (hs : Founded s) {cfg : GovernanceConfig} (hcfg : s .Config = some cfg) :
    s .Admin ≠ none := by
  intro hnone
  rw [(hs.unopened hnone).1] at hcfg
  cases hcfg

theorem Founded.admin_of_proposal (hs : Founded s) {id : U32} {p : Proposal} (hp : s (.Proposal id) = some p) :
    s .Admin ≠ none := by
  intro hnone
  rw [(hs.unopened hnone).2.2 id] at hp
  cases hp

/-- The number of a new proposal is free. -/
theorem Founded.fresh (hs : Founded s) {id : U32} (hid : s .ProposalCount = some id) : s (.Proposal id) = none := by
  by_contra hne
  have hlt := hs.numbered id hne
  rw [proposal_count, hid, Option.getD_some] at hlt
  exact absurd hlt (lt_irrefl _)

theorem founded_step (hs : Founded s) (h : Outcome env s call s') : Founded s' := by
  cases h with
  | opened hnone hadmin _ _ _ hframe =>
      obtain ⟨-, -, hempty⟩ := hs.unopened hnone
      have hproposals : ∀ id, s' (.Proposal id) = none := fun id => (hframe _ (by simp)).trans (hempty id)
      refine ⟨fun hnone' => ?_, fun id hid => absurd (hproposals id) hid⟩
      rw [hadmin] at hnone'
      cases hnone'
  | powered hadmin _ _ hframe | configured hadmin _ hframe => exact hs.kept hadmin hframe (by simp) (by simp)
  | guarded _ hframe | unguarded hframe | approved _ _ _ _ _ hframe => exact hs.of_frame hframe (by simp)
  | delegated _ _ hframe | undelegated _ hframe =>
      exact hs.congr (hframe _ (by simp) (by simp)) (hframe _ (by simp) (by simp)) (hframe _ (by simp) (by simp))
        (hframe _ (by simp) (by simp)) fun id => hframe _ (by simp) (by simp)
  | @created _ _ _ _ _ _ id _ _ _ hcfg hid _ hcount _ _ _ hframe =>
      have hadmin : s' .Admin = s .Admin := hframe _ (by simp)
      have hnext : (id + 1).toNat = id.toNat + 1 := by rw [UInt32.toNat_add, show UInt32.toNat 1 = 1 from rfl]; omega
      refine ⟨fun hnone => absurd (hadmin ▸ hnone) (hs.admin_of_config hcfg), fun id' hid' => ?_⟩
      rw [proposal_count, hcount, Option.getD_some, hnext]
      by_cases heq : id' = id
      · rw [heq]
        omega
      · rw [hframe _ (by simpa using heq)] at hid'
        have hlt := hs.numbered id' hid'
        rw [proposal_count, hid, Option.getD_some] at hlt
        omega
  | voted hload _ _ _ _ _ _ _ hframe | advanced hload _ _ hframe =>
      exact hs.kept (hs.admin_of_proposal hload) hframe (by simp) (by simp [hload])

theorem founded_empty : Founded empty_storage :=
  ⟨fun _ => ⟨rfl, rfl, fun _ => rfl⟩, fun _ h => absurd rfl h⟩

/-- **The invariant rule** for what the calls that go through do. -/
theorem run_outcome {C : GovernanceStorage → Env × EntryPoint → Prop} {I : GovernanceStorage → Prop}
    (hstep : ∀ {s env call s'}, Founded s → I s → C s (env, call) → Outcome env s call s' → I s') (hfounded : Founded s)
    (hs : I s) (hcalls : Along exec C s calls) : Founded (run s calls) ∧ I (run s calls) := by
  refine run_invariant (I := fun s => Founded s ∧ I s) ?_ ⟨hfounded, hs⟩ hcalls
  rintro s ⟨env, call⟩ s' ⟨hfounded, hs⟩ hcall h
  have houtcome := outcome_of_exec h
  exact ⟨founded_step hfounded houtcome, hstep hfounded hs hcall houtcome⟩

theorem run_founded : Founded (run empty_storage calls) :=
  (run_outcome (C := fun _ _ => True) (I := fun _ => True) (fun _ _ _ _ => trivial) founded_empty trivial
    (Along.of_forall fun _ _ _ => trivial)).1

end Runs

end BridgeWatch.Governance

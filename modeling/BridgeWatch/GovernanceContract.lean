/-
The governance contract, `contracts/soroban/src/governance.rs`.

A contract of its own, with its own storage. Every entry point that can change the storage is here, with its
checks in the order of the source; the read-only ones are left out but for the voting power, and so are the
events, which no function reads back. Amounts are integers, and the workspace's build traps where an operation
on them overflows.
-/
import BridgeWatch.HostCalls

set_option autoImplicit false

namespace BridgeWatch.Governance

open Transaction CheckedIntegers HostCalls
open Contract (U32 U64 SString Address Env saturating_sub_u32)

/-! ## Data -/

inductive ProposalType where
  | ParameterChange
  | OperatorApproval
  | EmergencyPause
  deriving DecidableEq

inductive ProposalStatus where
  | Pending
  | Active
  | Passed
  | Failed
  | Queued
  | Executed
  | Cancelled
  deriving DecidableEq

inductive VoteChoice where
  | For
  | Against
  | Abstain
  deriving DecidableEq

structure Proposal where
  id : U32
  proposer : Address
  proposal_type : ProposalType
  title : SString
  description : SString
  target_contract : Address
  calldata : SString
  deposit : ℤ
  status : ProposalStatus
  votes_for : ℤ
  votes_against : ℤ
  votes_abstain : ℤ
  start_time : U64
  end_time : U64
  execute_after : U64
  created_at : U64
  executed_at : U64
  deriving DecidableEq

structure VoteRecord where
  voter : Address
  proposal_id : U32
  choice : VoteChoice
  voting_power : ℤ
  effective_votes : ℤ
  timestamp : U64
  deriving DecidableEq

structure GovernanceConfig where
  timelock_delay : U64
  voting_period : U64
  voting_delay : U64
  quorum_bps : U32
  pass_threshold_bps : U32
  proposal_deposit : ℤ
  use_quadratic : Bool
  guardian_threshold : U32
  deriving DecidableEq

inductive DataKey where
  | Admin
  | Config
  | ProposalCount
  | TotalSupply
  | GuardianCount
  | Proposal (id : U32)
  | VoteRecord (id : U32) (voter : Address)
  | Delegation (delegator : Address)
  | DelegatedPower (delegatee : Address)
  | VotingPower (voter : Address)
  | Guardian (guardian : Address)
  | GuardianApproval (id : U32) (guardian : Address)
  | GuardianApprovalCount (id : U32)
  deriving DecidableEq

/-- The type of the record under a key. -/
@[reducible] def DataKey.Val : DataKey → Type
  | .Admin => Address
  | .Config => GovernanceConfig
  | .ProposalCount => U32
  | .TotalSupply => ℤ
  | .GuardianCount => U32
  | .Proposal _ => Governance.Proposal
  | .VoteRecord _ _ => Governance.VoteRecord
  | .Delegation _ => Address
  | .DelegatedPower _ => ℤ
  | .VotingPower _ => ℤ
  | .Guardian _ => Bool
  | .GuardianApproval _ _ => Bool
  | .GuardianApprovalCount _ => U32

/-- The contract's storage. -/
abbrev GovernanceStorage := Store DataKey DataKey.Val

/-- A call of a function of the contract. -/
abbrev Governed (α : Type) := Tx Env DataKey DataKey.Val α

/-- `env.storage().get(&key)`. -/
abbrev get (key : DataKey) : Governed (Option key.Val) := load key

/-- `env.storage().set(&key, &value)`. -/
abbrev set (key : DataKey) (value : key.Val) : Governed Unit := save key value

/-- `assert!(c, msg)`. -/
abbrev assert (c : Prop) [Decidable c] (msg : String) : Governed Unit := panic_if (¬c) msg

/-- `x + y` on `i128`. -/
abbrev add (x y : ℤ) : Governed ℤ := expect (checked_add x y) "attempt to add with overflow"

/-- `x - y` on `i128`. -/
abbrev sub (x y : ℤ) : Governed ℤ := expect (checked_sub x y) "attempt to subtract with overflow"

/-- `x * y` on `i128`. -/
abbrev mul (x y : ℤ) : Governed ℤ := expect (checked_mul x y) "attempt to multiply with overflow"

/-- `x + y` on `u64`. -/
abbrev add_u64 (x y : U64) : Governed U64 := checked_add_u64 x y "attempt to add with overflow"

/-- `x + y` on `u32`. -/
abbrev add_u32 (x y : U32) : Governed U32 := checked_add_u32 x y "attempt to add with overflow"

/-! ## Private helpers -/

def only_admin : Governed Unit := do
  let admin ← get .Admin
  let admin ← HostCalls.unwrap admin
  HostCalls.require_auth admin

def load_config : Governed GovernanceConfig := do
  let cfg ← get .Config
  HostCalls.unwrap cfg

def load_proposal (id : U32) : Governed Proposal := do
  let proposal ← get (.Proposal id)
  expect proposal "proposal not found"

def raw_power (voter : Address) : Governed ℤ := do
  let power ← get (.VotingPower voter)
  return power.getD 0

/-- Effective power = own power (if not delegated away) + power delegated to this address. -/
def effective_power (voter : Address) : Governed ℤ := do
  let delegation ← get (.Delegation voter)
  let power ← raw_power voter
  let own := if delegation.isSome = true then 0 else power
  let received ← get (.DelegatedPower voter)
  add own (received.getD 0)

def remove_delegation_internal (delegator : Address) : Governed Unit := do
  let existing ← get (.Delegation delegator)
  existing.elim (pure ()) fun delegatee => do
    let power ← raw_power delegator
    let received ← get (.DelegatedPower delegatee)
    let rest ← sub (received.getD 0) power
    set (.DelegatedPower delegatee) (max rest 0)
    remove (.Delegation delegator)

/-- The loop of `isqrt`. -/
def isqrt_loop (n x y : ℕ) : ℕ := if y < x then isqrt_loop n y ((y + n / y) / 2) else x
  termination_by x

/-- Integer square root (floor). -/
def isqrt (n : ℕ) : ℕ := if n = 0 then 0 else isqrt_loop n n ((n + 1) / 2)

/-! ## Entry points -/

def valid_config (cfg : GovernanceConfig) : Governed Unit := do
  assert (cfg.quorum_bps ≤ 10000) "quorum > 100%"
  assert (cfg.pass_threshold_bps ≤ 10000 ∧ cfg.pass_threshold_bps > 0) "invalid threshold"

/-- `initialize`, whose other arguments are the fields of the configuration. -/
def initialize_governance (admin : Address) (cfg : GovernanceConfig) : Governed Unit := do
  HostCalls.require_auth admin
  let existing ← get .Admin
  assert (existing.isNone = true) "already initialised"
  valid_config cfg
  set .Admin admin
  set .ProposalCount 0
  set .TotalSupply 0
  set .GuardianCount 0
  set .Config cfg

def set_voting_power (voter : Address) (power : ℤ) : Governed Unit := do
  only_admin
  assert (power ≥ 0) "power < 0"
  let old ← get (.VotingPower voter)
  set (.VotingPower voter) power
  let total ← get .TotalSupply
  let total ← sub (total.getD 0) (old.getD 0)
  let total ← add total power
  set .TotalSupply total

def add_guardian (guardian : Address) : Governed Unit := do
  only_admin
  let already ← get (.Guardian guardian)
  exec_if (already.getD false = false) do
    set (.Guardian guardian) true
    let count ← get .GuardianCount
    let count ← add_u32 (count.getD 0) 1
    set .GuardianCount count

def remove_guardian (guardian : Address) : Governed Unit := do
  only_admin
  let is_guardian ← get (.Guardian guardian)
  exec_if (is_guardian.getD false = true) do
    set (.Guardian guardian) false
    let count ← get .GuardianCount
    set .GuardianCount (saturating_sub_u32 (count.getD 0) 1)

/-- Delegate all of caller's voting power to `delegatee`. -/
def delegate_votes (delegator delegatee : Address) : Governed Unit := do
  HostCalls.require_auth delegator
  assert (delegator ≠ delegatee) "cannot self-delegate"
  remove_delegation_internal delegator
  let power ← raw_power delegator
  set (.Delegation delegator) delegatee
  let received ← get (.DelegatedPower delegatee)
  let received ← add (received.getD 0) power
  set (.DelegatedPower delegatee) received

def undelegate_votes (delegator : Address) : Governed Unit := do
  HostCalls.require_auth delegator
  remove_delegation_internal delegator

def create_proposal (proposer : Address) (proposal_type : ProposalType) (title description : SString)
    (target_contract : Address) (calldata : SString) : Governed U32 := do
  HostCalls.require_auth proposer
  let cfg ← load_config
  let proposer_power ← effective_power proposer
  assert (proposer_power ≥ cfg.proposal_deposit) "insufficient voting power for deposit"
  let now ← timestamp
  let start_time ← add_u64 now cfg.voting_delay
  let end_time ← add_u64 start_time cfg.voting_period
  let id ← get .ProposalCount
  let id ← HostCalls.unwrap id
  let count ← add_u32 id 1
  set .ProposalCount count
  set (.Proposal id)
    { id, proposer, proposal_type, title, description, target_contract, calldata, deposit := cfg.proposal_deposit,
      status := .Pending, votes_for := 0, votes_against := 0, votes_abstain := 0, start_time, end_time,
      execute_after := 0, created_at := now, executed_at := 0 }
  return id

def activate_proposal (proposal_id : U32) : Governed Unit := do
  let proposal ← load_proposal proposal_id
  assert (proposal.status = .Pending) "not pending"
  let now ← timestamp
  assert (now ≥ proposal.start_time) "voting delay not elapsed"
  set (.Proposal proposal_id) { proposal with status := .Active }

/-- The votes that a voting power has. -/
def effective_votes (cfg : GovernanceConfig) (power : ℤ) : ℤ :=
  if cfg.use_quadratic = true then as_i128 (isqrt (as_u128 power)) else power

/-- The proposal with some votes more. -/
def count_votes (proposal : Proposal) (choice : VoteChoice) (votes : ℤ) : Governed Proposal :=
  match choice with
  | .For => do
      let votes_for ← add proposal.votes_for votes
      return { proposal with votes_for }
  | .Against => do
      let votes_against ← add proposal.votes_against votes
      return { proposal with votes_against }
  | .Abstain => do
      let votes_abstain ← add proposal.votes_abstain votes
      return { proposal with votes_abstain }

def cast_vote (voter : Address) (proposal_id : U32) (choice : VoteChoice) : Governed Unit := do
  HostCalls.require_auth voter
  let proposal ← load_proposal proposal_id
  assert (proposal.status = .Active) "not active"
  let now ← timestamp
  assert (now ≥ proposal.start_time ∧ now ≤ proposal.end_time) "outside voting window"
  let existing ← get (.VoteRecord proposal_id voter)
  assert (existing.isNone = true) "already voted"
  let cfg ← load_config
  let power ← effective_power voter
  assert (power > 0) "no voting power"
  let votes := effective_votes cfg power
  set (.VoteRecord proposal_id voter)
    { voter, proposal_id, choice, voting_power := power, effective_votes := votes, timestamp := now }
  let proposal ← count_votes proposal choice votes
  set (.Proposal proposal_id) proposal

/-- `whole > 0 && (votes * 10_000) / whole >= bps`. -/
def share_met (votes whole : ℤ) (bps : U32) : Governed Bool :=
  if whole > 0 then do
    let scaled ← mul votes 10000
    return scaled.tdiv whole ≥ bps.toNat
  else
    return false

/-- `finalize_proposal`, where `&&` evaluates its right side only when it has to. -/
def finalize_proposal (proposal_id : U32) : Governed Unit := do
  let proposal ← load_proposal proposal_id
  assert (proposal.status = .Active) "not active"
  let now ← timestamp
  assert (now > proposal.end_time) "voting still open"
  let cfg ← load_config
  let total_supply ← get .TotalSupply
  let decided ← add proposal.votes_for proposal.votes_against
  let total_votes ← add decided proposal.votes_abstain
  let quorum_met ← share_met total_votes (total_supply.getD 0) cfg.quorum_bps
  let threshold_met ← share_met proposal.votes_for decided cfg.pass_threshold_bps
  set (.Proposal proposal_id)
    { proposal with status := if quorum_met = true ∧ threshold_met = true then .Passed else .Failed }

def queue_proposal (proposal_id : U32) : Governed Unit := do
  let proposal ← load_proposal proposal_id
  assert (proposal.status = .Passed) "not passed"
  let cfg ← load_config
  let now ← timestamp
  let execute_after ← add_u64 now cfg.timelock_delay
  set (.Proposal proposal_id) { proposal with execute_after, status := .Queued }

def execute_proposal (executor : Address) (proposal_id : U32) : Governed Unit := do
  HostCalls.require_auth executor
  let proposal ← load_proposal proposal_id
  assert (proposal.status = .Queued) "not queued"
  let now ← timestamp
  assert (now ≥ proposal.execute_after) "timelock not expired"
  set (.Proposal proposal_id) { proposal with status := .Executed, executed_at := now }

def guardian_approve (guardian : Address) (proposal_id : U32) : Governed Unit := do
  HostCalls.require_auth guardian
  let is_guardian ← get (.Guardian guardian)
  assert (is_guardian.getD false = true) "not a guardian"
  let approved ← get (.GuardianApproval proposal_id guardian)
  assert (approved.getD false = false) "already approved"
  set (.GuardianApproval proposal_id guardian) true
  let count ← get (.GuardianApprovalCount proposal_id)
  let count ← add_u32 (count.getD 0) 1
  set (.GuardianApprovalCount proposal_id) count

def guardian_execute (executor : Address) (proposal_id : U32) : Governed Unit := do
  HostCalls.require_auth executor
  let is_guardian ← get (.Guardian executor)
  assert (is_guardian.getD false = true) "not a guardian"
  let cfg ← load_config
  let approvals ← get (.GuardianApprovalCount proposal_id)
  assert (approvals.getD 0 ≥ cfg.guardian_threshold) "insufficient approvals"
  let proposal ← load_proposal proposal_id
  assert (proposal.proposal_type = .EmergencyPause) "only emergency proposals"
  assert (proposal.status = .Active ∨ proposal.status = .Passed ∨ proposal.status = .Queued) "invalid status"
  let now ← timestamp
  set (.Proposal proposal_id) { proposal with status := .Executed, executed_at := now }

def cancel_proposal (caller : Address) (proposal_id : U32) : Governed Unit := do
  HostCalls.require_auth caller
  let admin ← get .Admin
  let admin ← HostCalls.unwrap admin
  let proposal ← load_proposal proposal_id
  assert (caller = proposal.proposer ∨ caller = admin) "unauthorised"
  assert (proposal.status = .Pending ∨ proposal.status = .Active ∨ proposal.status = .Passed ∨
    proposal.status = .Queued) "cannot cancel in current state"
  set (.Proposal proposal_id) { proposal with status := .Cancelled }

def update_config (cfg : GovernanceConfig) : Governed Unit := do
  only_admin
  valid_config cfg
  set .Config cfg

/-! ## Runs -/

/-- A call of an entry point that can change the storage. -/
inductive EntryPoint where
  | initialize_governance (admin : Address) (cfg : GovernanceConfig)
  | set_voting_power (voter : Address) (power : ℤ)
  | add_guardian (guardian : Address)
  | remove_guardian (guardian : Address)
  | delegate_votes (delegator delegatee : Address)
  | undelegate_votes (delegator : Address)
  | create_proposal (proposer : Address) (proposal_type : ProposalType) (title description : SString)
      (target_contract : Address) (calldata : SString)
  | activate_proposal (proposal_id : U32)
  | cast_vote (voter : Address) (proposal_id : U32) (choice : VoteChoice)
  | finalize_proposal (proposal_id : U32)
  | queue_proposal (proposal_id : U32)
  | execute_proposal (executor : Address) (proposal_id : U32)
  | guardian_approve (guardian : Address) (proposal_id : U32)
  | guardian_execute (executor : Address) (proposal_id : U32)
  | cancel_proposal (caller : Address) (proposal_id : U32)
  | update_config (cfg : GovernanceConfig)
  deriving DecidableEq

/-- What a call does. -/
def exec : EntryPoint → Governed Unit
  | .initialize_governance admin cfg => initialize_governance admin cfg
  | .set_voting_power voter power => set_voting_power voter power
  | .add_guardian guardian => add_guardian guardian
  | .remove_guardian guardian => remove_guardian guardian
  | .delegate_votes delegator delegatee => delegate_votes delegator delegatee
  | .undelegate_votes delegator => undelegate_votes delegator
  | .create_proposal proposer proposal_type title description target_contract calldata => do
      let _ ← create_proposal proposer proposal_type title description target_contract calldata
  | .activate_proposal proposal_id => activate_proposal proposal_id
  | .cast_vote voter proposal_id choice => cast_vote voter proposal_id choice
  | .finalize_proposal proposal_id => finalize_proposal proposal_id
  | .queue_proposal proposal_id => queue_proposal proposal_id
  | .execute_proposal executor proposal_id => execute_proposal executor proposal_id
  | .guardian_approve guardian proposal_id => guardian_approve guardian proposal_id
  | .guardian_execute executor proposal_id => guardian_execute executor proposal_id
  | .cancel_proposal caller proposal_id => cancel_proposal caller proposal_id
  | .update_config cfg => update_config cfg

/-- The storage after some calls. -/
abbrev run (s : GovernanceStorage) (calls : List (Env × EntryPoint)) : GovernanceStorage := runFrom exec s calls

/-- The storage before the first call. -/
def empty_storage : GovernanceStorage := fun _ => none

/-- An account. -/
def party (n : UInt8) : Address := .account (Vector.replicate 32 n)

/-- A time at which every address has authorised its call. -/
def signed_at (timestamp : U64) : Env := { timestamp, auth := fun _ => true }

/-- A configuration in which a third of the votes is a quorum. -/
def plain_config : GovernanceConfig :=
  { timelock_delay := 100, voting_period := 200, voting_delay := 10, quorum_bps := 3300, pass_threshold_bps := 5100,
    proposal_deposit := 0, use_quadratic := false, guardian_threshold := 2 }

end BridgeWatch.Governance

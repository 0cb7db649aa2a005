/-
The insurance pools, `contracts/soroban/src/insurance_pool.rs`.

A contract of its own, with its own storage. Every entry point that can change the storage is here, with
its checks in the order of the source; the read-only ones are left out, and so are the events, which no
function reads back. Amounts are integers, with every operation checked as in the source; where the source
subtracts without a check the workspace's build traps on overflow.
-/
import BridgeWatch.HostCalls

set_option autoImplicit false

namespace BridgeWatch.Insurance

open Transaction CheckedIntegers HostCalls
open Contract (U32 U64 SString Address Env str len saturating_add_u32 saturating_add_u64)

def BPS_DENOM : ℤ := 10000

def REWARD_SCALE : ℤ := 1000000000

def DEFAULT_WITHDRAW_DELAY_SECS : U64 := 86400

/-- The part of the liquidity that a payout may take. -/
def MAX_CLAIM_FRACTION_BPS : U32 := 3000

/-- The part of the liquidity that the payouts of an epoch may take. -/
def EPOCH_DRAIN_CAP_BPS : U32 := 5000

def PAYOUT_EPOCH_SECS : U64 := 86400

/-! ## Data -/

inductive CoverageTier where
  | Conservative
  | Balanced
  | Aggressive
  deriving DecidableEq

inductive ClaimStatus where
  | Submitted
  | Verified
  | Approved
  | Rejected
  | PartiallyPaid
  | Paid
  deriving DecidableEq

structure GovernanceConfig where
  approvers : List Address
  approval_threshold : U32
  withdrawal_delay_secs : U64
  deriving DecidableEq

structure PoolInfo where
  pool_id : SString
  asset_code : SString
  total_liquidity : ℤ
  staked_liquidity : ℤ
  queued_withdrawals : ℤ
  active_coverage : ℤ
  premium_rate_bps : U32
  risk_score_bps : U32
  acc_premium_per_share : ℤ
  premium_collected_total : ℤ
  payout_total : ℤ
  paid_claims : U32
  rejected_claims : U32
  deriving DecidableEq

structure StakerPosition where
  staker : Address
  pool_id : SString
  staked_amount : ℤ
  pending_withdrawal : ℤ
  reward_debt : ℤ
  accrued_premium : ℤ
  claimed_premium : ℤ
  slashed_total : ℤ
  deriving DecidableEq

structure WithdrawalRequest where
  request_id : U64
  staker : Address
  pool_id : SString
  amount : ℤ
  unlock_time : U64
  claimed : Bool
  deriving DecidableEq

structure ClaimInfo where
  claim_id : U64
  claimant : Address
  pool_id : SString
  amount : ℤ
  evidence_hash : SString
  status : ClaimStatus
  approvals : List Address
  slash_bps : U32
  slashed_amount : ℤ
  paid_amount : ℤ
  deriving DecidableEq

structure PayoutCapConfig where
  max_claim_fraction_bps : U32
  epoch_drain_cap_bps : U32
  epoch_secs : U64
  deriving DecidableEq

structure PayoutEpoch where
  pool_id : SString
  epoch_start : U64
  opening_liquidity : ℤ
  paid_in_epoch : ℤ
  deriving DecidableEq

inductive DataKey where
  | Admin
  | Governance
  | CoveragePool (pool_id : SString)
  | StakerPosition (staker : Address) (pool_id : SString)
  | InsuranceClaim (claim_id : U64)
  | WithdrawalRequest (request_id : U64)
  | ClaimCount
  | WithdrawalCount
  | PayoutCapConfig
  | PayoutEpoch (pool_id : SString)
  | PayoutQueue (pool_id : SString)
  deriving DecidableEq

/-- The type of the record under a key. -/
@[reducible] def DataKey.Val : DataKey → Type
  | .Admin => Address
  | .Governance => GovernanceConfig
  | .CoveragePool _ => PoolInfo
  | .StakerPosition _ _ => Insurance.StakerPosition
  | .InsuranceClaim _ => ClaimInfo
  | .WithdrawalRequest _ => Insurance.WithdrawalRequest
  | .ClaimCount => U64
  | .WithdrawalCount => U64
  | .PayoutCapConfig => Insurance.PayoutCapConfig
  | .PayoutEpoch _ => Insurance.PayoutEpoch
  | .PayoutQueue _ => List U64

/-- The contract's storage. -/
abbrev InsuranceStorage := Store DataKey DataKey.Val

/-- A call of a function of the contract. -/
abbrev Insurance (α : Type) := Tx Env DataKey DataKey.Val α

/-- `env.storage().instance().get(&key)`. -/
abbrev get (key : DataKey) : Insurance (Option key.Val) := load key

/-- `env.storage().instance().set(&key, &value)`. -/
abbrev set (key : DataKey) (value : key.Val) : Insurance Unit := save key value

/-! ## Internal functions -/

def require_admin (caller : Address) : Insurance Unit := do
  HostCalls.require_auth caller
  let admin ← get .Admin
  let admin ← expect admin "not initialized"
  panic_if (admin ≠ caller) "not admin"

def load_governance : Insurance GovernanceConfig := do
  let governance ← get .Governance
  expect governance "governance not set"

def load_pool (pool_id : SString) : Insurance PoolInfo := do
  let pool ← get (.CoveragePool pool_id)
  expect pool "pool not found"

def save_pool (pool : PoolInfo) : Insurance Unit := set (.CoveragePool pool.pool_id) pool

/-- The position of a staker who has none. -/
def no_position (staker : Address) (pool_id : SString) : StakerPosition :=
  { staker, pool_id, staked_amount := 0, pending_withdrawal := 0, reward_debt := 0, accrued_premium := 0,
    claimed_premium := 0, slashed_total := 0 }

def load_position (staker : Address) (pool_id : SString) : Insurance StakerPosition := do
  let position ← get (.StakerPosition staker pool_id)
  return position.getD (no_position staker pool_id)

def save_position (position : StakerPosition) : Insurance Unit :=
  set (.StakerPosition position.staker position.pool_id) position

def load_claim (claim_id : U64) : Insurance ClaimInfo := do
  let claim ← get (.InsuranceClaim claim_id)
  expect claim "claim not found"

def save_claim (claim : ClaimInfo) : Insurance Unit := set (.InsuranceClaim claim.claim_id) claim

/-- The caps that hold until others are configured. -/
def default_payout_caps : PayoutCapConfig :=
  { max_claim_fraction_bps := MAX_CLAIM_FRACTION_BPS, epoch_drain_cap_bps := EPOCH_DRAIN_CAP_BPS,
    epoch_secs := PAYOUT_EPOCH_SECS }

def load_payout_caps : Insurance PayoutCapConfig := do
  let config ← get .PayoutCapConfig
  return config.getD default_payout_caps

/-- The epoch that a payout at time `now` falls into: the stored one until its time is over. -/
def epoch_at (now : U64) (stored : Option PayoutEpoch) (pool : PoolInfo) (config : PayoutCapConfig) : PayoutEpoch :=
  let opened := { pool_id := pool.pool_id, epoch_start := now, opening_liquidity := pool.total_liquidity,
                  paid_in_epoch := 0 }
  match stored with
  | some epoch => if now < saturating_add_u64 epoch.epoch_start config.epoch_secs then epoch else opened
  | none => opened

def current_payout_epoch (pool : PoolInfo) (config : PayoutCapConfig) : Insurance PayoutEpoch := do
  let now ← timestamp
  let stored ← get (.PayoutEpoch pool.pool_id)
  return epoch_at now stored pool config

def save_payout_epoch (epoch : PayoutEpoch) : Insurance Unit := set (.PayoutEpoch epoch.pool_id) epoch

def load_payout_queue (pool_id : SString) : Insurance (List U64) := do
  let queue ← get (.PayoutQueue pool_id)
  return queue.getD []

def save_payout_queue (pool_id : SString) (queue : List U64) : Insurance Unit := set (.PayoutQueue pool_id) queue

def bps_of (amount : ℤ) (bps : U32) : Insurance ℤ := expect (checked_mul_div amount bps.toNat BPS_DENOM) "bps overflow"

def next_claim_id : Insurance U64 := do
  let id ← get .ClaimCount
  let next ← checked_add_u64 (id.getD 0) 1 "id overflow"
  set .ClaimCount next
  return id.getD 0

def next_withdrawal_id : Insurance U64 := do
  let id ← get .WithdrawalCount
  let next ← checked_add_u64 (id.getD 0) 1 "id overflow"
  set .WithdrawalCount next
  return id.getD 0

def calc_reward_debt (staked_amount acc_premium_per_share : ℤ) : Insurance ℤ :=
  expect (checked_mul_div staked_amount acc_premium_per_share REWARD_SCALE) "reward debt overflow"

def sync_rewards (pool : PoolInfo) (position : StakerPosition) : Insurance StakerPosition := do
  let expected ← calc_reward_debt position.staked_amount pool.acc_premium_per_share
  let pending ← expect (checked_sub expected position.reward_debt) "attempt to subtract with overflow"
  if pending > 0 then do
    let accrued_premium ← expect (checked_add position.accrued_premium pending) "overflow"
    return { position with accrued_premium, reward_debt := expected }
  else
    return { position with reward_debt := expected }

def is_approver (set : List Address) (target : Address) : Bool := set.any fun item => item == target

def tier_premium_multiplier_bps : CoverageTier → ℤ
  | .Conservative => 800
  | .Balanced => 1000
  | .Aggressive => 1400

def tier_coverage_cap_bps : CoverageTier → U32
  | .Conservative => 5000
  | .Balanced => 7000
  | .Aggressive => 8500

def calculate_premium (pool : PoolInfo) (coverage_amount : ℤ) (tier : CoverageTier) : Insurance ℤ := do
  let base ← expect (checked_mul_div coverage_amount pool.premium_rate_bps.toNat BPS_DENOM) "premium overflow"
  let risk_multiplier := BPS_DENOM + pool.risk_score_bps.toNat
  let tier_multiplier := tier_premium_multiplier_bps tier
  expect ((checked_mul base risk_multiplier).bind fun v => (checked_mul_div v tier_multiplier BPS_DENOM).bind
    fun v => checked_div v BPS_DENOM) "premium overflow"

/-- The amount of a tranche, from what is owed and the four bounds on it. -/
def payable (remaining per_claim_cap epoch_remaining total_liquidity : ℤ) : ℤ :=
  min (min (min remaining per_claim_cap) epoch_remaining) total_liquidity

/-- What the epoch's budget leaves. -/
def epoch_remaining (epoch_budget paid_in_epoch : ℤ) : Insurance ℤ :=
  if epoch_budget > paid_in_epoch then
    expect (checked_sub epoch_budget paid_in_epoch) "attempt to subtract with overflow"
  else
    return 0

/-- A claim that is still owed something is put at the end of the queue, unless it is queued. -/
def stay_queued (pool_id : SString) (queue : List U64) (claim_id : U64) : Insurance Unit :=
  exec_if ((queue.idxOf? claim_id).isNone = true) do
    let queue ← push_back queue claim_id
    save_payout_queue pool_id queue

/-- A claim that is settled is removed from the queue when it is queued. -/
def leave_queue (pool_id : SString) (queue : List U64) (claim_id : U64) : Insurance Unit :=
  (queue.idxOf? claim_id).elim (pure ()) fun idx => save_payout_queue pool_id (queue.eraseIdx idx)

/-- The branch of `pay_claim_tranche` for a tranche of which nothing can be paid. -/
def defer_tranche (claim : ClaimInfo) (epoch : PayoutEpoch) (queue : List U64) : Insurance (ℤ × ClaimInfo) := do
  stay_queued claim.pool_id queue claim.claim_id
  save_payout_epoch epoch
  return (0, { claim with status := .PartiallyPaid })

/-- The branch of `pay_claim_tranche` for a tranche that is paid. -/
def disburse_tranche (claim : ClaimInfo) (pool : PoolInfo) (epoch : PayoutEpoch) (queue : List U64) (payable : ℤ) :
    Insurance (ℤ × ClaimInfo) := do
  let total_liquidity ← expect (checked_sub pool.total_liquidity payable) "underflow"
  let active_coverage ← expect (checked_sub pool.active_coverage payable) "underflow"
  let payout_total ← expect (checked_add pool.payout_total payable) "overflow"
  let paid_in_epoch ← expect (checked_add epoch.paid_in_epoch payable) "overflow"
  let paid_amount ← expect (checked_add claim.paid_amount payable) "overflow"
  let outstanding ← expect (checked_sub claim.amount paid_amount) "underflow"
  if outstanding = 0 then do
    leave_queue claim.pool_id queue claim.claim_id
    save_pool { pool with total_liquidity, active_coverage, payout_total,
                          paid_claims := saturating_add_u32 pool.paid_claims 1 }
    save_payout_epoch { epoch with paid_in_epoch }
    return (payable, { claim with paid_amount, status := .Paid })
  else do
    stay_queued claim.pool_id queue claim.claim_id
    save_pool { pool with total_liquidity, active_coverage, payout_total }
    save_payout_epoch { epoch with paid_in_epoch }
    return (payable, { claim with paid_amount, status := .PartiallyPaid })

/-- `pay_claim_tranche`, which returns the amount and the claim that the caller persists. -/
def pay_claim_tranche (claim : ClaimInfo) : Insurance (ℤ × ClaimInfo) := do
  let remaining ← expect (checked_sub claim.amount claim.paid_amount) "underflow"
  panic_if (remaining ≤ 0) "claim already settled"
  let config ← load_payout_caps
  let pool ← load_pool claim.pool_id
  panic_if (pool.active_coverage < remaining) "coverage accounting mismatch"
  let epoch ← current_payout_epoch pool config
  let per_claim_cap ← bps_of pool.total_liquidity config.max_claim_fraction_bps
  let epoch_budget ← bps_of epoch.opening_liquidity config.epoch_drain_cap_bps
  let epoch_remaining ← epoch_remaining epoch_budget epoch.paid_in_epoch
  let payable := payable remaining per_claim_cap epoch_remaining pool.total_liquidity
  let queue ← load_payout_queue claim.pool_id
  if payable ≤ 0 then
    defer_tranche claim epoch queue
  else
    disburse_tranche claim pool epoch queue payable

/-- The tranche with the claim that its caller persists, and the amount. -/
def pay_tranche (claim : ClaimInfo) : Insurance ℤ := do
  let (paid, claim) ← pay_claim_tranche claim
  save_claim claim
  return paid

/-! ## Entry points -/

/-- `initialize`. -/
def initialize_insurance (admin : Address) : Insurance Unit := do
  HostCalls.require_auth admin
  let stored ← get .Admin
  panic_if (stored.isSome = true) "already initialized"
  set .Admin admin
  set .Governance { approvers := [admin], approval_threshold := 1,
                    withdrawal_delay_secs := DEFAULT_WITHDRAW_DELAY_SECS }
  set .ClaimCount 0
  set .WithdrawalCount 0

def configure_governance (admin : Address) (approvers : List Address) (approval_threshold : U32)
    (withdrawal_delay_secs : U64) : Insurance Unit := do
  require_admin admin
  panic_if (approvers = []) "approvers required"
  panic_if (approval_threshold = 0 ∨ approval_threshold > len approvers) "invalid threshold"
  set .Governance { approvers, approval_threshold, withdrawal_delay_secs }

def configure_payout_caps (admin : Address) (max_claim_fraction_bps epoch_drain_cap_bps : U32) (epoch_secs : U64) :
    Insurance Unit := do
  require_admin admin
  panic_if (max_claim_fraction_bps = 0 ∨ max_claim_fraction_bps > 10000) "invalid claim fraction"
  panic_if (epoch_drain_cap_bps = 0 ∨ epoch_drain_cap_bps > 10000) "invalid epoch drain cap"
  panic_if (max_claim_fraction_bps > epoch_drain_cap_bps) "claim fraction exceeds epoch cap"
  panic_if (epoch_secs = 0) "invalid epoch length"
  set .PayoutCapConfig { max_claim_fraction_bps, epoch_drain_cap_bps, epoch_secs }

/-- The pool that `create_pool` makes. -/
def new_pool (pool_id asset_code : SString) (premium_rate_bps risk_score_bps : U32) : PoolInfo :=
  { pool_id, asset_code, total_liquidity := 0, staked_liquidity := 0, queued_withdrawals := 0,
    active_coverage := 0, premium_rate_bps, risk_score_bps, acc_premium_per_share := 0,
    premium_collected_total := 0, payout_total := 0, paid_claims := 0, rejected_claims := 0 }

def create_pool (admin : Address) (pool_id asset_code : SString) (premium_rate_bps risk_score_bps : U32) :
    Insurance Unit := do
  require_admin admin
  panic_if (premium_rate_bps = 0 ∨ premium_rate_bps > 5000) "invalid premium rate"
  panic_if (risk_score_bps > 10000) "invalid risk score"
  let existing ← get (.CoveragePool pool_id)
  let pool := existing.elim (new_pool pool_id asset_code premium_rate_bps risk_score_bps) fun p =>
    { p with asset_code, premium_rate_bps, risk_score_bps }
  set (.CoveragePool pool_id) pool

def set_risk_score (admin : Address) (pool_id : SString) (risk_score_bps : U32) : Insurance Unit := do
  require_admin admin
  panic_if (risk_score_bps > 10000) "invalid risk score"
  let pool ← load_pool pool_id
  set (.CoveragePool pool_id) { pool with risk_score_bps }

def stake_liquidity (staker : Address) (pool_id : SString) (amount : ℤ) : Insurance Unit := do
  HostCalls.require_auth staker
  panic_if (amount ≤ 0) "amount must be positive"
  let pool ← load_pool pool_id
  let position ← load_position staker pool_id
  let position ← sync_rewards pool position
  let staked_amount ← expect (checked_add position.staked_amount amount) "overflow"
  let total_liquidity ← expect (checked_add pool.total_liquidity amount) "overflow"
  let staked_liquidity ← expect (checked_add pool.staked_liquidity amount) "overflow"
  let reward_debt ← calc_reward_debt staked_amount pool.acc_premium_per_share
  save_position { position with staked_amount, reward_debt }
  save_pool { pool with total_liquidity, staked_liquidity }

def request_withdrawal (staker : Address) (pool_id : SString) (amount : ℤ) : Insurance U64 := do
  HostCalls.require_auth staker
  panic_if (amount ≤ 0) "amount must be positive"
  let governance ← load_governance
  let pool ← load_pool pool_id
  let position ← load_position staker pool_id
  let position ← sync_rewards pool position
  panic_if (position.staked_amount < amount) "insufficient staked balance"
  let staked_amount ← expect (checked_sub position.staked_amount amount) "underflow"
  let pending_withdrawal ← expect (checked_add position.pending_withdrawal amount) "overflow"
  let staked_liquidity ← expect (checked_sub pool.staked_liquidity amount) "underflow"
  let queued_withdrawals ← expect (checked_add pool.queued_withdrawals amount) "overflow"
  let request_id ← next_withdrawal_id
  let now ← timestamp
  let unlock_time ← checked_add_u64 now governance.withdrawal_delay_secs "time overflow"
  let reward_debt ← calc_reward_debt staked_amount pool.acc_premium_per_share
  save_position { position with staked_amount, pending_withdrawal, reward_debt }
  save_pool { pool with staked_liquidity, queued_withdrawals }
  set (.WithdrawalRequest request_id) { request_id, staker, pool_id, amount, unlock_time, claimed := false }
  return request_id

def execute_withdrawal (staker : Address) (pool_id : SString) (request_id : U64) : Insurance ℤ := do
  HostCalls.require_auth staker
  let request ← get (.WithdrawalRequest request_id)
  let request ← expect request "request not found"
  panic_if (request.staker ≠ staker ∨ request.pool_id ≠ pool_id) "request owner mismatch"
  panic_if (request.claimed = true) "request already claimed"
  let now ← timestamp
  panic_if (now < request.unlock_time) "withdrawal still locked"
  let pool ← load_pool pool_id
  let position ← load_position staker pool_id
  let position ← sync_rewards pool position
  panic_if (position.pending_withdrawal < request.amount) "pending withdrawal mismatch"
  panic_if (pool.total_liquidity < request.amount ∨ pool.queued_withdrawals < request.amount)
    "pool accounting mismatch"
  let pending_withdrawal ← expect (checked_sub position.pending_withdrawal request.amount) "underflow"
  let total_liquidity ← expect (checked_sub pool.total_liquidity request.amount) "underflow"
  let queued_withdrawals ← expect (checked_sub pool.queued_withdrawals request.amount) "underflow"
  let reward_debt ← calc_reward_debt position.staked_amount pool.acc_premium_per_share
  save_position { position with pending_withdrawal, reward_debt }
  save_pool { pool with total_liquidity, queued_withdrawals }
  set (.WithdrawalRequest request_id) { request with claimed := true }
  return request.amount

def purchase_coverage (buyer : Address) (pool_id : SString) (coverage_amount : ℤ) (tier : CoverageTier)
    (premium_paid : ℤ) : Insurance ℤ := do
  HostCalls.require_auth buyer
  panic_if (coverage_amount ≤ 0) "coverage amount must be positive"
  let pool ← load_pool pool_id
  let required_premium ← calculate_premium pool coverage_amount tier
  panic_if (premium_paid < required_premium) "insufficient premium"
  let max_coverage ← expect (checked_mul_div pool.staked_liquidity (tier_coverage_cap_bps tier).toNat BPS_DENOM)
    "coverage cap overflow"
  let new_active ← expect (checked_add pool.active_coverage coverage_amount) "overflow"
  panic_if (new_active > max_coverage) "insufficient available liquidity"
  let premium_collected_total ← expect (checked_add pool.premium_collected_total required_premium) "overflow"
  let pool := { pool with active_coverage := new_active, premium_collected_total }
  if pool.staked_liquidity > 0 then do
    let delta ← expect (checked_mul_div required_premium REWARD_SCALE pool.staked_liquidity) "reward overflow"
    let acc_premium_per_share ← expect (checked_add pool.acc_premium_per_share delta) "overflow"
    save_pool { pool with acc_premium_per_share }
    return required_premium
  else do
    save_pool pool
    return required_premium

def submit_claim (claimant : Address) (pool_id : SString) (amount : ℤ) (evidence_hash : SString) :
    Insurance U64 := do
  HostCalls.require_auth claimant
  panic_if (amount ≤ 0) "claim amount must be positive"
  let pool ← load_pool pool_id
  panic_if (pool.active_coverage < amount) "claim exceeds active coverage"
  let claim_id ← next_claim_id
  set (.InsuranceClaim claim_id)
    { claim_id, claimant, pool_id, amount, evidence_hash, status := .Submitted, approvals := [], slash_bps := 0,
      slashed_amount := 0, paid_amount := 0 }
  return claim_id

/-- The slash of a claim, which takes no more than the claimant has staked. -/
def actual_slashed (slash_amount staked_amount : ℤ) : ℤ :=
  if slash_amount > staked_amount then staked_amount else slash_amount

/-- The rejection of a claim, with the slash. -/
def reject_claim (claim : ClaimInfo) (slash_bps : U32) : Insurance Unit := do
  panic_if (slash_bps > 10000) "invalid slash bps"
  let pool ← load_pool claim.pool_id
  let position ← load_position claim.claimant claim.pool_id
  let position ← sync_rewards pool position
  let slash_amount ← expect (checked_mul_div claim.amount slash_bps.toNat BPS_DENOM) "slash overflow"
  let slashed_amount := actual_slashed slash_amount position.staked_amount
  let rejected_claims := saturating_add_u32 pool.rejected_claims 1
  if slashed_amount > 0 then do
    let staked_amount ← expect (checked_sub position.staked_amount slashed_amount) "underflow"
    let slashed_total ← expect (checked_add position.slashed_total slashed_amount) "overflow"
    let staked_liquidity ← expect (checked_sub pool.staked_liquidity slashed_amount) "underflow"
    let total_liquidity ← expect (checked_sub pool.total_liquidity slashed_amount) "underflow"
    let reward_debt ← calc_reward_debt staked_amount pool.acc_premium_per_share
    save_position { position with staked_amount, slashed_total, reward_debt }
    save_pool { pool with staked_liquidity, total_liquidity, rejected_claims }
  else do
    let reward_debt ← calc_reward_debt position.staked_amount pool.acc_premium_per_share
    save_position { position with reward_debt }
    save_pool { pool with rejected_claims }
  save_claim { claim with status := .Rejected, slash_bps, slashed_amount }

def verify_claim (admin : Address) (claim_id : U64) (is_valid : Bool) (slash_bps : U32) : Insurance Unit := do
  require_admin admin
  let claim ← load_claim claim_id
  panic_if (claim.status ≠ .Submitted) "invalid claim status"
  if is_valid = true then
    save_claim { claim with status := .Verified, slash_bps := 0, slashed_amount := 0 }
  else
    reject_claim claim slash_bps

def approve_claim (approver : Address) (claim_id : U64) : Insurance Unit := do
  HostCalls.require_auth approver
  let governance ← load_governance
  panic_if (is_approver governance.approvers approver = false) "not authorized approver"
  let claim ← load_claim claim_id
  panic_if (claim.status ≠ .Verified ∧ claim.status ≠ .Approved) "claim not verifiable for approval"
  panic_if (is_approver claim.approvals approver = true) "already approved by approver"
  let approvals ← push_back claim.approvals approver
  let status := if len approvals ≥ governance.approval_threshold then .Approved else claim.status
  save_claim { claim with approvals, status }

def execute_payout (admin : Address) (claim_id : U64) : Insurance ℤ := do
  require_admin admin
  let claim ← load_claim claim_id
  panic_if (claim.status ≠ .Approved ∧ claim.status ≠ .PartiallyPaid) "claim not approved"
  pay_tranche claim

/-- The loop of `process_payout_queue` over the queue as it was when the call began. -/
def pay_queued : List U64 → ℤ → Insurance ℤ
  | [], total_paid => return total_paid
  | claim_id :: queue, total_paid => do
    let claim ← load_claim claim_id
    if claim.status ≠ .PartiallyPaid then
      pay_queued queue total_paid
    else do
      let paid ← pay_tranche claim
      if paid = 0 then
        return total_paid
      else do
        let total_paid ← expect (checked_add total_paid paid) "overflow"
        pay_queued queue total_paid

def process_payout_queue (admin : Address) (pool_id : SString) : Insurance ℤ := do
  require_admin admin
  let queue ← load_payout_queue pool_id
  pay_queued queue 0

def claim_premium (staker : Address) (pool_id : SString) : Insurance ℤ := do
  HostCalls.require_auth staker
  let pool ← load_pool pool_id
  let position ← load_position staker pool_id
  let position ← sync_rewards pool position
  let amount := position.accrued_premium
  let claimed_premium ← expect (checked_add position.claimed_premium amount) "overflow"
  let reward_debt ← calc_reward_debt position.staked_amount pool.acc_premium_per_share
  save_position { position with accrued_premium := 0, claimed_premium, reward_debt }
  return amount

/-! ## Runs -/

/-- A call of an entry point that can change the storage. -/
inductive EntryPoint where
  | initialize_insurance (admin : Address)
  | configure_governance (admin : Address) (approvers : List Address) (approval_threshold : U32)
      (withdrawal_delay_secs : U64)
  | configure_payout_caps (admin : Address) (max_claim_fraction_bps epoch_drain_cap_bps : U32) (epoch_secs : U64)
  | create_pool (admin : Address) (pool_id asset_code : SString) (premium_rate_bps risk_score_bps : U32)
  | set_risk_score (admin : Address) (pool_id : SString) (risk_score_bps : U32)
  | stake_liquidity (staker : Address) (pool_id : SString) (amount : ℤ)
  | request_withdrawal (staker : Address) (pool_id : SString) (amount : ℤ)
  | execute_withdrawal (staker : Address) (pool_id : SString) (request_id : U64)
  | purchase_coverage (buyer : Address) (pool_id : SString) (coverage_amount : ℤ) (tier : CoverageTier)
      (premium_paid : ℤ)
  | submit_claim (claimant : Address) (pool_id : SString) (amount : ℤ) (evidence_hash : SString)
  | verify_claim (admin : Address) (claim_id : U64) (is_valid : Bool) (slash_bps : U32)
  | approve_claim (approver : Address) (claim_id : U64)
  | execute_payout (admin : Address) (claim_id : U64)
  | process_payout_queue (admin : Address) (pool_id : SString)
  | claim_premium (staker : Address) (pool_id : SString)
  deriving DecidableEq

/-- What a call does. -/
def exec : EntryPoint → Insurance Unit
  | .initialize_insurance admin => initialize_insurance admin
  | .configure_governance admin approvers approval_threshold withdrawal_delay_secs =>
      configure_governance admin approvers approval_threshold withdrawal_delay_secs
  | .configure_payout_caps admin max_claim_fraction_bps epoch_drain_cap_bps epoch_secs =>
      configure_payout_caps admin max_claim_fraction_bps epoch_drain_cap_bps epoch_secs
  | .create_pool admin pool_id asset_code premium_rate_bps risk_score_bps =>
      create_pool admin pool_id asset_code premium_rate_bps risk_score_bps
  | .set_risk_score admin pool_id risk_score_bps => set_risk_score admin pool_id risk_score_bps
  | .stake_liquidity staker pool_id amount => stake_liquidity staker pool_id amount
  | .request_withdrawal staker pool_id amount => do
      let _ ← request_withdrawal staker pool_id amount
  | .execute_withdrawal staker pool_id request_id => do
      let _ ← execute_withdrawal staker pool_id request_id
  | .purchase_coverage buyer pool_id coverage_amount tier premium_paid => do
      let _ ← purchase_coverage buyer pool_id coverage_amount tier premium_paid
  | .submit_claim claimant pool_id amount evidence_hash => do
      let _ ← submit_claim claimant pool_id amount evidence_hash
  | .verify_claim admin claim_id is_valid slash_bps => verify_claim admin claim_id is_valid slash_bps
  | .approve_claim approver claim_id => approve_claim approver claim_id
  | .execute_payout admin claim_id => do
      let _ ← execute_payout admin claim_id
  | .process_payout_queue admin pool_id => do
      let _ ← process_payout_queue admin pool_id
  | .claim_premium staker pool_id => do
      let _ ← claim_premium staker pool_id

/-- The storage after some calls. -/
abbrev run (s : InsuranceStorage) (calls : List (Env × EntryPoint)) : InsuranceStorage := runFrom exec s calls

/-- The storage before the first call. -/
def empty_storage : InsuranceStorage := fun _ => none

/-- An account. -/
def party (n : UInt8) : Address := .account (Vector.replicate 32 n)

/-- A time at which every address has authorised its call. -/
def signed_at (timestamp : U64) : Env := { timestamp, auth := fun _ => true }

def bridge_pool : SString := str "USDC_BRIDGE"

/-- A pool, in which a staker puts 10000, of which 8000 are covered. -/
def covered : List (Env × EntryPoint) :=
  [(signed_at 0, .initialize_insurance (party 0)),
    (signed_at 0, .create_pool (party 0) bridge_pool (str "USDC") 500 1000),
    (signed_at 0, .stake_liquidity (party 1) bridge_pool 10000),
    (signed_at 0, .purchase_coverage (party 2) bridge_pool 8000 .Aggressive 1000)]

/-- A claim that is submitted, verified and approved. -/
def approved_claim (id : U64) (amount : ℤ) : List (Env × EntryPoint) :=
  [(signed_at 0, .submit_claim (party 2) bridge_pool amount (str "evidence")),
    (signed_at 0, .verify_claim (party 0) id true 0), (signed_at 0, .approve_claim (party 0) id)]

end BridgeWatch.Insurance

/-
The fee distribution, `contracts/soroban/src/fee_distribution.rs`.

A contract of its own, with its own storage, that holds balances of token contracts. Every entry point that
can change the storage is here, with its checks in the order of the source; the read-only ones are left out.
The balances of the tokens stand in the store beside the contract's records, and a transfer moves exactly
its amount. Amounts are integers, with every operation checked as in the source. What the storage does not
tell later (the rounds, the sweeps to the treasury, the rewards that are taken) a call returns as events.
-/
import BridgeWatch.HostCalls

set_option autoImplicit false

namespace BridgeWatch.FeeDistribution

open Transaction CheckedIntegers HostCalls
open Contract (U32 U64 Address Env saturating_add_u64 saturating_sub_u64)

/-- Precision factor for per-share arithmetic. -/
def PRECISION : ℤ := 1000000000000

/-- Denominator for basis-point calculations. -/
def BPS_DENOM : U32 := 10000

/-- Default minimum amount of a transfer. -/
def MIN_DISBURSEMENT_THRESHOLD : ℤ := 10000000

/-! ## Data -/

inductive FeeDistributionError where
  | AlreadyInitialized
  | InvalidAmount
  | UnauthorizedCollector
  | InvalidUnstakeAmount
  | NothingToClaim
  | BelowMinimumDisbursement
  | InvalidThreshold
  | TokenNotSupported
  | InvalidRatios
  | EmergencyActive
  deriving DecidableEq

/-- How the host shows the error of a contract. -/
def FeeDistributionError.text : FeeDistributionError → String
  | .AlreadyInitialized => "Error(Contract, #1)"
  | .InvalidAmount => "Error(Contract, #2)"
  | .UnauthorizedCollector => "Error(Contract, #3)"
  | .InvalidUnstakeAmount => "Error(Contract, #4)"
  | .NothingToClaim => "Error(Contract, #5)"
  | .BelowMinimumDisbursement => "Error(Contract, #6)"
  | .InvalidThreshold => "Error(Contract, #7)"
  | .TokenNotSupported => "Error(Contract, #8)"
  | .InvalidRatios => "Error(Contract, #9)"
  | .EmergencyActive => "Error(Contract, #10)"

structure DistributionRatios where
  stakers_bps : U32
  governance_bps : U32
  treasury_bps : U32
  deriving DecidableEq

structure FeePool where
  token : Address
  total_collected : ℤ
  total_distributed : ℤ
  pending : ℤ
  acc_fee_per_share : ℤ
  governance_pool : ℤ
  last_distribution_time : U64
  deriving DecidableEq

structure VestingSchedule where
  beneficiary : Address
  token : Address
  total_amount : ℤ
  claimed_amount : ℤ
  start_time : U64
  duration : U64
  cliff : U64
  deriving DecidableEq

structure DistributionRecord where
  token : Address
  total_amount : ℤ
  stakers_amount : ℤ
  governance_amount : ℤ
  treasury_amount : ℤ
  timestamp : U64
  distribution_id : U32
  deriving DecidableEq

/-- `FeeDistDataKey`, and a key for the balance of each holder at each token contract. -/
inductive DataKey where
  | Admin
  | Treasury
  | StakingToken
  | TotalStaked
  | Ratios
  | FeePool (token : Address)
  | StakerAmount (staker : Address)
  | StakerDebt (staker token : Address)
  | StakerPending (staker token : Address)
  | StakerTime (staker : Address)
  | StakerCompound (staker : Address)
  | Vesting (id : U32)
  | VestingCount
  | Distribution (id : U32)
  | DistributionCount
  | Collectors
  | Tokens
  | Emergency
  | DistributionInterval
  | LastAutoDistribution
  | MinDisbursement
  | TreasuryBuffer (token : Address)
  | Balance (token holder : Address)
  deriving DecidableEq

/-- The type of the record under a key. -/
@[reducible] def DataKey.Val : DataKey → Type
  | .Admin => Address
  | .Treasury => Address
  | .StakingToken => Address
  | .TotalStaked => ℤ
  | .Ratios => DistributionRatios
  | .FeePool _ => FeeDistribution.FeePool
  | .StakerAmount _ => ℤ
  | .StakerDebt _ _ => ℤ
  | .StakerPending _ _ => ℤ
  | .StakerTime _ => U64
  | .StakerCompound _ => Bool
  | .Vesting _ => VestingSchedule
  | .VestingCount => U32
  | .Distribution _ => DistributionRecord
  | .DistributionCount => U32
  | .Collectors => List Address
  | .Tokens => List Address
  | .Emergency => Bool
  | .DistributionInterval => U64
  | .LastAutoDistribution => U64
  | .MinDisbursement => ℤ
  | .TreasuryBuffer _ => ℤ
  | .Balance _ _ => ℤ

/-- The contract's storage, and the balances at the token contracts. -/
abbrev FeeStorage := Store DataKey DataKey.Val

/-- A call of a function of the contract. -/
abbrev Fees (α : Type) := Tx Env DataKey DataKey.Val α

/-- What a call did, beside what it stored. -/
inductive Event where
  /-- A round of a distribution, with what was staked then and what the treasury was sent. -/
  | distributed (record : DistributionRecord) (total_staked swept : ℤ)
  /-- The buffer that was sent to the treasury. -/
  | flushed (token : Address) (amount : ℤ)
  /-- Rewards that a staker claimed or compounded. -/
  | taken (staker token : Address) (amount : ℤ)
  deriving DecidableEq

/-- The contract as it is deployed. -/
class Deployed where
  current_contract_address : Address

export Deployed (current_contract_address)

/-- `env.storage().get(&key)`. -/
abbrev get (key : DataKey) : Fees (Option key.Val) := load key

/-- `env.storage().set(&key, &value)`. -/
abbrev set (key : DataKey) (value : key.Val) : Fees Unit := save key value

/-- `token::Client::new(&env, &token).transfer(&from, &to, &amount)`. -/
def transfer (token sender recipient : Address) (amount : ℤ) : Fees Unit := do
  panic_if (amount < 0) "negative amount"
  let balance ← get (.Balance token sender)
  panic_if (balance.getD 0 < amount) "insufficient balance"
  set (.Balance token sender) (balance.getD 0 - amount)
  let balance ← get (.Balance token recipient)
  let balance ← expect (checked_add (balance.getD 0) amount) "balance overflow"
  set (.Balance token recipient) balance

section Contract

variable [Deployed]

/-- `address.require_auth()`. The contract is not the one that calls it, so it authorises nothing. -/
def require_auth (address : Address) : Fees Unit := do
  panic_if (address = current_contract_address) "Error(Auth, InvalidAction)"
  HostCalls.require_auth address

/-! ## Internal helpers -/

def min_disbursement : Fees ℤ := do
  let threshold ← get .MinDisbursement
  return threshold.getD MIN_DISBURSEMENT_THRESHOLD

def require_admin : Fees Unit := do
  let admin ← get .Admin
  let admin ← HostCalls.unwrap admin
  require_auth admin

def require_not_emergency : Fees Unit := do
  let emergency ← get .Emergency
  let emergency ← HostCalls.unwrap emergency
  panic_if (emergency = true) "contract is in emergency mode"

def ensure_not_emergency : Fees Unit := do
  let emergency ← get .Emergency
  let emergency ← HostCalls.unwrap emergency
  panic_if (emergency = true) FeeDistributionError.EmergencyActive.text

def ensure_token_supported (token : Address) : Fees Unit := do
  let tokens ← get .Tokens
  let tokens ← HostCalls.unwrap tokens
  panic_if (token ∉ tokens) FeeDistributionError.TokenNotSupported.text

def validate_ratios (ratios : DistributionRatios) : Fees Unit := do
  let sum ← checked_add_u32 ratios.stakers_bps ratios.governance_bps FeeDistributionError.InvalidRatios.text
  let sum ← checked_add_u32 sum ratios.treasury_bps FeeDistributionError.InvalidRatios.text
  panic_if (sum ≠ BPS_DENOM) FeeDistributionError.InvalidRatios.text

def bps_of (amount : ℤ) (bps : U32) : Fees ℤ := do
  let product ← expect (checked_mul amount bps.toNat) "overflow"
  return product.tdiv BPS_DENOM.toNat

/-- A round of the loop of `harvest_rewards`. -/
def harvest_token (staker : Address) (stake : ℤ) (token : Address) : Fees Unit := do
  let pool ← get (.FeePool token)
  pool.elim (pure ()) fun pool => do
    let debt ← get (.StakerDebt staker token)
    let product ← expect (checked_mul stake pool.acc_fee_per_share) "overflow"
    let accrued := product.tdiv PRECISION
    let new_rewards := saturating_sub accrued (debt.getD 0)
    exec_if (new_rewards > 0) do
      let existing ← get (.StakerPending staker token)
      let pending ← expect (checked_add (existing.getD 0) new_rewards) "overflow"
      set (.StakerPending staker token) pending
      set (.StakerDebt staker token) accrued

def harvest_rewards (staker : Address) (tokens : List Address) : Fees Unit := do
  let stake ← get (.StakerAmount staker)
  exec_if (stake.getD 0 ≠ 0) (tokens.forM (harvest_token staker (stake.getD 0)))

/-- A round of the loop of `sync_debts`. -/
def sync_debt (staker : Address) (new_stake : ℤ) (token : Address) : Fees Unit := do
  let pool ← get (.FeePool token)
  pool.elim (pure ()) fun pool => do
    let product ← expect (checked_mul new_stake pool.acc_fee_per_share) "overflow"
    set (.StakerDebt staker token) (product.tdiv PRECISION)

def sync_debts (staker : Address) (new_stake : ℤ) (tokens : List Address) : Fees Unit :=
  tokens.forM (sync_debt staker new_stake)

/-- What `do_distribute` reads before its loop. -/
structure Terms where
  ratios : DistributionRatios
  total_staked : ℤ
  treasury : Address
  threshold : ℤ

/-- The stakers' part of a round, which goes to governance when nothing is staked. -/
def credit_stakers (pool : FeePool) (total_staked stakers_amt : ℤ) : Fees FeePool :=
  if total_staked > 0 ∧ stakers_amt > 0 then do
    let product ← expect (checked_mul stakers_amt PRECISION) "overflow"
    let acc_fee_per_share ← expect (checked_add pool.acc_fee_per_share (product.tdiv total_staked)) "overflow"
    return { pool with acc_fee_per_share }
  else if stakers_amt > 0 then do
    let governance_pool ← expect (checked_add pool.governance_pool stakers_amt) "overflow"
    return { pool with governance_pool }
  else
    return pool

/-- The treasury's part of a round, which is sent with what is buffered or buffered as well. Returns what is
sent. -/
def sweep_treasury (terms : Terms) (token : Address) (treasury_amt : ℤ) : Fees ℤ := do
  let buffered ← get (.TreasuryBuffer token)
  let treasury_due ← expect (checked_add (buffered.getD 0) treasury_amt) "overflow"
  if treasury_due > 0 ∧ treasury_due ≥ terms.threshold then do
    transfer token current_contract_address terms.treasury treasury_due
    exec_if (buffered.getD 0 > 0) (remove (.TreasuryBuffer token))
    return treasury_due
  else do
    exec_if (treasury_amt > 0) (set (.TreasuryBuffer token) treasury_due)
    return 0

/-- The distribution of what a pool has pending. -/
def distribute_pool (terms : Terms) (token : Address) (pool : FeePool) (distribution_count : U32) :
    Fees (List Event × U32) := do
  let pending := pool.pending
  let stakers_amt ← bps_of pending terms.ratios.stakers_bps
  let governance_amt ← bps_of pending terms.ratios.governance_bps
  let rest ← expect (checked_sub pending stakers_amt) "underflow"
  let treasury_amt ← expect (checked_sub rest governance_amt) "underflow"
  let pool ← credit_stakers pool terms.total_staked stakers_amt
  let governance_pool ← expect (checked_add pool.governance_pool governance_amt) "overflow"
  let swept ← sweep_treasury terms token treasury_amt
  let total_distributed ← expect (checked_add pool.total_distributed pending) "overflow"
  let now ← timestamp
  set (.FeePool token) { pool with governance_pool, total_distributed, pending := 0, last_distribution_time := now }
  let record := { token, total_amount := pending, stakers_amount := stakers_amt, governance_amount := governance_amt,
                  treasury_amount := treasury_amt, timestamp := now, distribution_id := distribution_count }
  set (.Distribution distribution_count) record
  let next ← checked_add_u32 distribution_count 1 "overflow"
  return ([.distributed record terms.total_staked swept], next)

/-- A round of the loop of `do_distribute`, which leaves small accruals pending. -/
def distribute_token (terms : Terms) (token : Address) (distribution_count : U32) : Fees (List Event × U32) := do
  let pool ← get (.FeePool token)
  pool.elim (pure ([], distribution_count)) fun pool =>
    if pool.pending = 0 ∨ pool.pending < terms.threshold then
      return ([], distribution_count)
    else
      distribute_pool terms token pool distribution_count

/-- The loop of `do_distribute`. -/
def distribute_tokens (terms : Terms) : List Address → U32 → Fees (List Event × U32)
  | [], distribution_count => return ([], distribution_count)
  | token :: tokens, distribution_count => do
    let first ← distribute_token terms token distribution_count
    let rest ← distribute_tokens terms tokens first.2
    return (first.1 ++ rest.1, rest.2)

def do_distribute (tokens : List Address) : Fees (List Event) := do
  let ratios ← get .Ratios
  let ratios ← HostCalls.unwrap ratios
  let total_staked ← get .TotalStaked
  let total_staked ← HostCalls.unwrap total_staked
  let treasury ← get .Treasury
  let treasury ← HostCalls.unwrap treasury
  let threshold ← min_disbursement
  let distribution_count ← get .DistributionCount
  let distribution_count ← HostCalls.unwrap distribution_count
  let done ← distribute_tokens { ratios, total_staked, treasury, threshold } tokens distribution_count
  set .DistributionCount done.2
  let now ← timestamp
  set .LastAutoDistribution now
  return done.1

def maybe_auto_distribute : Fees (List Event) := do
  let interval ← get .DistributionInterval
  let interval ← HostCalls.unwrap interval
  if interval = 0 then
    return []
  else do
    let last ← get .LastAutoDistribution
    let last ← HostCalls.unwrap last
    let now ← timestamp
    if now ≥ saturating_add_u64 last interval then do
      let tokens ← get .Tokens
      let tokens ← HostCalls.unwrap tokens
      do_distribute tokens
    else
      return []

/-! ## Entry points -/

def initialize_fee_distribution (admin treasury staking_token : Address) (ratios : DistributionRatios) :
    Fees Unit := do
  let existing ← get .Admin
  panic_if (existing.isSome = true) FeeDistributionError.AlreadyInitialized.text
  require_auth admin
  validate_ratios ratios
  set .Admin admin
  set .Treasury treasury
  set .StakingToken staking_token
  set .Ratios ratios
  set .TotalStaked 0
  set .VestingCount 0
  set .DistributionCount 0
  set .Emergency false
  set .DistributionInterval 0
  set .LastAutoDistribution 0
  set .MinDisbursement MIN_DISBURSEMENT_THRESHOLD
  set .Collectors []
  set .Tokens []

def update_ratios (ratios : DistributionRatios) : Fees Unit := do
  require_admin
  validate_ratios ratios
  set .Ratios ratios

/-- The pool of a token that is registered. -/
def new_pool (token : Address) (now : U64) : FeePool :=
  { token, total_collected := 0, total_distributed := 0, pending := 0, acc_fee_per_share := 0, governance_pool := 0,
    last_distribution_time := now }

def add_fee_token (token : Address) : Fees Unit := do
  require_admin
  let tokens ← get .Tokens
  let tokens ← HostCalls.unwrap tokens
  exec_if (token ∉ tokens) do
    let tokens ← push_back tokens token
    set .Tokens tokens
    let existing ← get (.FeePool token)
    exec_if (existing.isNone = true) do
      let now ← timestamp
      set (.FeePool token) (new_pool token now)

def add_collector (collector : Address) : Fees Unit := do
  require_admin
  let collectors ← get .Collectors
  let collectors ← HostCalls.unwrap collectors
  exec_if (collector ∉ collectors) do
    let collectors ← push_back collectors collector
    set .Collectors collectors

def remove_collector (collector : Address) : Fees Unit := do
  require_admin
  let collectors ← get .Collectors
  let collectors ← HostCalls.unwrap collectors
  set .Collectors (collectors.filter fun c => c ≠ collector)

def set_distribution_interval (interval_secs : U64) : Fees Unit := do
  require_admin
  set .DistributionInterval interval_secs

def set_min_disbursement_threshold (threshold : ℤ) : Fees Unit := do
  require_admin
  panic_if (threshold < 0) FeeDistributionError.InvalidThreshold.text
  set .MinDisbursement threshold

def flush_treasury_buffer (token : Address) : Fees ℤ := do
  require_admin
  let buffered ← get (.TreasuryBuffer token)
  if buffered.getD 0 = 0 then
    return 0
  else do
    remove (.TreasuryBuffer token)
    let treasury ← get .Treasury
    let treasury ← HostCalls.unwrap treasury
    transfer token current_contract_address treasury (buffered.getD 0)
    return buffered.getD 0

def update_treasury (new_treasury : Address) : Fees Unit := do
  require_admin
  set .Treasury new_treasury

def collect_fees (collector token : Address) (amount : ℤ) : Fees (List Event) := do
  require_auth collector
  ensure_not_emergency
  panic_if (amount ≤ 0) FeeDistributionError.InvalidAmount.text
  let admin ← get .Admin
  let admin ← HostCalls.unwrap admin
  let collectors ← get .Collectors
  let collectors ← HostCalls.unwrap collectors
  panic_if (admin ≠ collector ∧ collector ∉ collectors) FeeDistributionError.UnauthorizedCollector.text
  ensure_token_supported token
  transfer token collector current_contract_address amount
  let pool ← get (.FeePool token)
  let pool ← HostCalls.unwrap pool
  let total_collected ← expect (checked_add pool.total_collected amount) "overflow"
  let pending ← expect (checked_add pool.pending amount) "overflow"
  set (.FeePool token) { pool with total_collected, pending }
  maybe_auto_distribute

def distribute_fees (tokens : List Address) : Fees (List Event) := do
  require_not_emergency
  if tokens.isEmpty = true then do
    let tokens ← get .Tokens
    let tokens ← HostCalls.unwrap tokens
    do_distribute tokens
  else
    do_distribute tokens

def stake_for_fees (staker : Address) (amount : ℤ) (enable_compound : Bool) : Fees Unit := do
  require_auth staker
  ensure_not_emergency
  panic_if (amount ≤ 0) FeeDistributionError.InvalidAmount.text
  let supported_tokens ← get .Tokens
  let supported_tokens ← HostCalls.unwrap supported_tokens
  harvest_rewards staker supported_tokens
  let staking_token ← get .StakingToken
  let staking_token ← HostCalls.unwrap staking_token
  transfer staking_token staker current_contract_address amount
  let current_stake ← get (.StakerAmount staker)
  let new_stake ← expect (checked_add (current_stake.getD 0) amount) "overflow"
  set (.StakerAmount staker) new_stake
  sync_debts staker new_stake supported_tokens
  exec_if (current_stake.getD 0 = 0) do
    let now ← timestamp
    set (.StakerTime staker) now
  set (.StakerCompound staker) enable_compound
  let total_staked ← get .TotalStaked
  let total_staked ← HostCalls.unwrap total_staked
  let total_staked ← expect (checked_add total_staked amount) "overflow"
  set .TotalStaked total_staked

def unstake (staker : Address) (amount : ℤ) : Fees Unit := do
  require_auth staker
  let current_stake ← get (.StakerAmount staker)
  panic_if (amount ≤ 0 ∨ amount > current_stake.getD 0) FeeDistributionError.InvalidUnstakeAmount.text
  let supported_tokens ← get .Tokens
  let supported_tokens ← HostCalls.unwrap supported_tokens
  harvest_rewards staker supported_tokens
  let new_stake ← expect (checked_sub (current_stake.getD 0) amount) "underflow"
  set (.StakerAmount staker) new_stake
  sync_debts staker new_stake supported_tokens
  let staking_token ← get .StakingToken
  let staking_token ← HostCalls.unwrap staking_token
  transfer staking_token current_contract_address staker amount
  let total_staked ← get .TotalStaked
  let total_staked ← HostCalls.unwrap total_staked
  let total_staked ← expect (checked_sub total_staked amount) "underflow"
  set .TotalStaked total_staked

/-- The rewards are added to the stake: the part that `claim_fees` and `compound_rewards` have in common. -/
def restake (staker : Address) (pending : ℤ) (supported_tokens : List Address) : Fees Unit := do
  let current_stake ← get (.StakerAmount staker)
  let new_stake ← expect (checked_add (current_stake.getD 0) pending) "overflow"
  set (.StakerAmount staker) new_stake
  sync_debts staker new_stake supported_tokens
  let total_staked ← get .TotalStaked
  let total_staked ← HostCalls.unwrap total_staked
  let total_staked ← expect (checked_add total_staked pending) "overflow"
  set .TotalStaked total_staked

def claim_fees (staker token : Address) : Fees (List Event) := do
  require_auth staker
  ensure_not_emergency
  let supported_tokens ← get .Tokens
  let supported_tokens ← HostCalls.unwrap supported_tokens
  harvest_rewards staker supported_tokens
  let pending ← get (.StakerPending staker token)
  let pending := pending.getD 0
  panic_if (pending = 0) FeeDistributionError.NothingToClaim.text
  let compound ← get (.StakerCompound staker)
  let compound := compound.getD false
  let threshold ← min_disbursement
  panic_if (compound = false ∧ pending < threshold) FeeDistributionError.BelowMinimumDisbursement.text
  set (.StakerPending staker token) 0
  if compound = true then
    restake staker pending supported_tokens
  else
    transfer token current_contract_address staker pending
  return [.taken staker token pending]

def compound_rewards (staker token : Address) : Fees (List Event) := do
  let compound ← get (.StakerCompound staker)
  panic_if (compound.getD false = false) "compounding not enabled for staker"
  let supported_tokens ← get .Tokens
  let supported_tokens ← HostCalls.unwrap supported_tokens
  harvest_rewards staker supported_tokens
  let pending ← get (.StakerPending staker token)
  let pending := pending.getD 0
  if pending = 0 then
    return []
  else do
    set (.StakerPending staker token) 0
    restake staker pending supported_tokens
    return [.taken staker token pending]

def create_vesting_schedule (beneficiary token : Address) (amount : ℤ) (duration_secs cliff_secs : U64) :
    Fees Unit := do
  require_admin
  require_not_emergency
  panic_if (amount ≤ 0) "amount must be positive"
  panic_if (duration_secs = 0) "duration must be positive"
  panic_if (cliff_secs > duration_secs) "cliff cannot exceed duration"
  let pool ← get (.FeePool token)
  let pool ← expect pool "unknown token"
  panic_if (pool.governance_pool < amount) "insufficient governance pool balance"
  let governance_pool ← expect (checked_sub pool.governance_pool amount) "underflow"
  set (.FeePool token) { pool with governance_pool }
  let count ← get .VestingCount
  let count ← HostCalls.unwrap count
  let now ← timestamp
  set (.Vesting count)
    { beneficiary, token, total_amount := amount, claimed_amount := 0, start_time := now, duration := duration_secs,
      cliff := cliff_secs }
  let next ← checked_add_u32 count 1 "overflow"
  set .VestingCount next

/-- What a schedule has vested after `elapsed` seconds. -/
def vested_total (schedule : VestingSchedule) (elapsed : U64) : Fees ℤ :=
  if elapsed ≥ schedule.duration then
    return schedule.total_amount
  else do
    let num ← expect (checked_mul_u128 (as_u128 schedule.total_amount) elapsed.toNat) "overflow"
    return as_i128 (num / schedule.duration.toNat)

def claim_vested (vesting_id : U32) : Fees Unit := do
  let schedule ← get (.Vesting vesting_id)
  let schedule ← expect schedule "vesting schedule not found"
  require_auth schedule.beneficiary
  let now ← timestamp
  let elapsed := saturating_sub_u64 now schedule.start_time
  panic_if (elapsed < schedule.cliff) "cliff period not reached"
  let vested_total ← vested_total schedule elapsed
  let claimable ← expect (checked_sub vested_total schedule.claimed_amount) "underflow"
  panic_if (claimable ≤ 0) "nothing vested to claim"
  let claimed_amount ← expect (checked_add schedule.claimed_amount claimable) "overflow"
  set (.Vesting vesting_id) { schedule with claimed_amount }
  transfer schedule.token current_contract_address schedule.beneficiary claimable

def set_emergency (active : Bool) : Fees Unit := do
  require_admin
  set .Emergency active

def emergency_withdraw (token recipient : Address) (amount : ℤ) : Fees Unit := do
  require_admin
  let emergency ← get .Emergency
  let emergency ← HostCalls.unwrap emergency
  panic_if (emergency = false) "emergency mode not active"
  transfer token current_contract_address recipient amount

/-! ## Runs -/

/-- A call of an entry point that can change the storage. -/
inductive EntryPoint where
  | initialize_fee_distribution (admin treasury staking_token : Address) (ratios : DistributionRatios)
  | update_ratios (ratios : DistributionRatios)
  | add_fee_token (token : Address)
  | add_collector (collector : Address)
  | remove_collector (collector : Address)
  | set_distribution_interval (interval_secs : U64)
  | set_min_disbursement_threshold (threshold : ℤ)
  | flush_treasury_buffer (token : Address)
  | update_treasury (new_treasury : Address)
  | collect_fees (collector token : Address) (amount : ℤ)
  | distribute_fees (tokens : List Address)
  | stake_for_fees (staker : Address) (amount : ℤ) (enable_compound : Bool)
  | unstake (staker : Address) (amount : ℤ)
  | claim_fees (staker token : Address)
  | compound_rewards (staker token : Address)
  | create_vesting_schedule (beneficiary token : Address) (amount : ℤ) (duration_secs cliff_secs : U64)
  | claim_vested (vesting_id : U32)
  | set_emergency (active : Bool)
  | emergency_withdraw (token recipient : Address) (amount : ℤ)
  deriving DecidableEq

/-- A call that did nothing but what it stored. -/
def silently (m : Fees Unit) : Fees (List Event) := do
  m
  return []

/-- What a call does. -/
def perform : EntryPoint → Fees (List Event)
  | .initialize_fee_distribution admin treasury staking_token ratios =>
      silently (initialize_fee_distribution admin treasury staking_token ratios)
  | .update_ratios ratios => silently (update_ratios ratios)
  | .add_fee_token token => silently (add_fee_token token)
  | .add_collector collector => silently (add_collector collector)
  | .remove_collector collector => silently (remove_collector collector)
  | .set_distribution_interval interval_secs => silently (set_distribution_interval interval_secs)
  | .set_min_disbursement_threshold threshold => silently (set_min_disbursement_threshold threshold)
  | .flush_treasury_buffer token => do
      let amount ← flush_treasury_buffer token
      return [.flushed token amount]
  | .update_treasury new_treasury => silently (update_treasury new_treasury)
  | .collect_fees collector token amount => collect_fees collector token amount
  | .distribute_fees tokens => distribute_fees tokens
  | .stake_for_fees staker amount enable_compound => silently (stake_for_fees staker amount enable_compound)
  | .unstake staker amount => silently (unstake staker amount)
  | .claim_fees staker token => claim_fees staker token
  | .compound_rewards staker token => compound_rewards staker token
  | .create_vesting_schedule beneficiary token amount duration_secs cliff_secs =>
      silently (create_vesting_schedule beneficiary token amount duration_secs cliff_secs)
  | .claim_vested vesting_id => silently (claim_vested vesting_id)
  | .set_emergency active => silently (set_emergency active)
  | .emergency_withdraw token recipient amount => silently (emergency_withdraw token recipient amount)

def exec (call : EntryPoint) : Fees Unit := do
  let _ ← perform call

/-- The storage after some calls. -/
abbrev run (s : FeeStorage) (calls : List (Env × EntryPoint)) : FeeStorage := runFrom exec s calls

/-- What a call that succeeds does. -/
def events (s : FeeStorage) (call : Env × EntryPoint) : List Event :=
  match perform call.2 call.1 s with
  | .ok (done, _) => done
  | .error _ => []

/-- What the calls of a run did. -/
abbrev log (s : FeeStorage) (calls : List (Env × EntryPoint)) : List Event := collect exec events s calls

end Contract

/-- The storage before the first call, when the token contracts have these balances. -/
def unopened (balances : Address → Address → ℕ) : FeeStorage
  | .Balance token holder => some (balances token holder)
  | _ => none

end BridgeWatch.FeeDistribution

/-
What a call of the insurance contract does.

The entry points are read here once. Stakes, withdrawals, slashes and claimed premiums are movements: they
settle one position at the pool's accumulator and move one amount between it, the stakes and the queued
withdrawals, and the liquidity follows the sum of both. Payouts are tranches, one for `execute_payout` and
any number for `process_payout_queue`. `outcome_of_exec` is all that the later files use of the model.
-/
import BridgeWatch.InsurancePool

set_option autoImplicit false

namespace BridgeWatch.Insurance

open Transaction CheckedIntegers HostCalls
open Contract (U32 U64 SString Address Env len saturating_add_u32 saturating_add_u64)

/-! ## Views of the storage -/

/-- The pool's record, which is that of a new pool when there is none. -/
def pool (s : InsuranceStorage) (p : SString) : PoolInfo := (s (.CoveragePool p)).getD (new_pool p [] 0 0)

def position (s : InsuranceStorage) (a : Address) (p : SString) : StakerPosition :=
  (s (.StakerPosition a p)).getD (no_position a p)

def queue (s : InsuranceStorage) (p : SString) : List U64 := (s (.PayoutQueue p)).getD []

def caps (s : InsuranceStorage) : PayoutCapConfig := (s .PayoutCapConfig).getD default_payout_caps

/-- The epoch of a payout at time `now`. -/
def epoch (s : InsuranceStorage) (now : U64) (p : SString) : PayoutEpoch :=
  epoch_at now (s (.PayoutEpoch p)) (pool s p) (caps s)

/-- What a stake has earned, which is the debt of a position that is settled. -/
def reward (acc staked_amount : ℤ) : ℤ := (staked_amount * acc).tdiv REWARD_SCALE

/-- What a position has been given once it is settled. -/
def earned (acc : ℤ) (q : StakerPosition) : ℤ :=
  q.accrued_premium + q.claimed_premium + max 0 (reward acc q.staked_amount - q.reward_debt)

/-- `sync_rewards` as a function of the accumulator. -/
def synced (acc : ℤ) (q : StakerPosition) : StakerPosition :=
  { q with accrued_premium := q.accrued_premium + max 0 (reward acc q.staked_amount - q.reward_debt),
           reward_debt := reward acc q.staked_amount }

section

variable {acc : ℤ} {q : StakerPosition}

@[simp] theorem synced_staked_amount : (synced acc q).staked_amount = q.staked_amount := rfl

@[simp] theorem synced_pending_withdrawal : (synced acc q).pending_withdrawal = q.pending_withdrawal := rfl

end

/-- The record names the key that it is stored under. -/
def FiledUnder : (key : DataKey) → key.Val → Prop
  | .CoveragePool p, r => r.pool_id = p
  | .StakerPosition a p, q => q.staker = a ∧ q.pool_id = p
  | .InsuranceClaim id, c => c.claim_id = id
  | .PayoutEpoch p, e => e.pool_id = p
  | _, _ => True

/-- The number of the next claim. -/
def claim_count (s : InsuranceStorage) : ℕ := ((s .ClaimCount).getD 0).toNat

/-- The number of the next withdrawal request. -/
def request_count (s : InsuranceStorage) : ℕ := ((s .WithdrawalCount).getD 0).toNat

/-- The records are filed under their own keys and numbered, and none is there before the contract is. -/
structure Filed (s : InsuranceStorage) : Prop where
  records : ∀ key v, s key = some v → FiledUnder key v
  claims_numbered : ∀ id, s (.InsuranceClaim id) ≠ none → id.toNat < claim_count s
  requests_numbered : ∀ id, s (.WithdrawalRequest id) ≠ none → id.toNat < request_count s
  unopened : s .Admin = none → (∀ p, s (.CoveragePool p) = none) ∧ (∀ id, s (.InsuranceClaim id) = none) ∧
    ∀ id, s (.WithdrawalRequest id) = none

/-! ## What a call leaves -/

/-- A position is settled, its stake moves by `dx` and its pending withdrawal by `dp`; the pool's counters
move with it, and of the other records only `others` change. -/
structure Moved (s s' : InsuranceStorage) (a : Address) (p : SString) (dx dp : ℤ) (others : List DataKey) : Prop where
  known : (s (.CoveragePool p)).isSome = true
  pool_eq : ∃ rejected_claims, s' (.CoveragePool p) = some
    { pool s p with total_liquidity := (pool s p).total_liquidity + (dx + dp)
                    staked_liquidity := (pool s p).staked_liquidity + dx
                    queued_withdrawals := (pool s p).queued_withdrawals + dp
                    rejected_claims }
  position_eq : ∃ q, s' (.StakerPosition a p) = some q ∧ q.staker = a ∧ q.pool_id = p ∧
    q.staked_amount = (position s a p).staked_amount + dx ∧
    q.pending_withdrawal = (position s a p).pending_withdrawal + dp ∧
    q.reward_debt = reward (pool s p).acc_premium_per_share ((position s a p).staked_amount + dx) ∧
    q.accrued_premium + q.claimed_premium = earned (pool s p).acc_premium_per_share (position s a p)
  frame : ∀ key, key ≠ .StakerPosition a p → key ≠ .CoveragePool p → key ∉ others → s' key = s key

/-- What the caps and the epoch's budget allow of `remaining`, at time `now`. -/
def allowed (s : InsuranceStorage) (now : U64) (p : SString) (remaining : ℤ) : ℤ :=
  let budget := ((epoch s now p).opening_liquidity * (caps s).epoch_drain_cap_bps.toNat).tdiv BPS_DENOM
  payable remaining (((pool s p).total_liquidity * (caps s).max_claim_fraction_bps.toNat).tdiv BPS_DENOM)
    (max 0 (budget - (epoch s now p).paid_in_epoch)) (pool s p).total_liquidity

/-- The queue after a tranche. -/
def requeue (ids : List U64) (id : U64) (settled : Bool) : List U64 :=
  if settled then ids.erase id else if id ∈ ids then ids else ids ++ [id]

/-- **A tranche**: `paid` of what the claim `c` is owed, at time `now`. -/
structure Tranche (now : U64) (s : InsuranceStorage) (c : ClaimInfo) (paid : ℤ) (s' : InsuranceStorage) : Prop where
  unsettled : 0 < c.amount - c.paid_amount
  known : (s (.CoveragePool c.pool_id)).isSome = true
  covered : c.amount - c.paid_amount ≤ (pool s c.pool_id).active_coverage
  paid_eq : paid = max 0 (allowed s now c.pool_id (c.amount - c.paid_amount))
  pool_eq : s' (.CoveragePool c.pool_id) = some
    { pool s c.pool_id with
      total_liquidity := (pool s c.pool_id).total_liquidity - paid
      active_coverage := (pool s c.pool_id).active_coverage - paid
      payout_total := (pool s c.pool_id).payout_total + paid
      paid_claims := if c.paid_amount + paid = c.amount then saturating_add_u32 (pool s c.pool_id).paid_claims 1
        else (pool s c.pool_id).paid_claims }
  claim_eq : s' (.InsuranceClaim c.claim_id) = some
    { c with paid_amount := c.paid_amount + paid,
             status := if c.paid_amount + paid = c.amount then .Paid else .PartiallyPaid }
  epoch_eq : s' (.PayoutEpoch c.pool_id) = some
    { epoch s now c.pool_id with paid_in_epoch := (epoch s now c.pool_id).paid_in_epoch + paid }
  queue_eq : queue s' c.pool_id = requeue (queue s c.pool_id) c.claim_id (c.paid_amount + paid = c.amount)
  frame : ∀ key, key ≠ .CoveragePool c.pool_id → key ≠ .InsuranceClaim c.claim_id → key ≠ .PayoutEpoch c.pool_id →
    key ≠ .PayoutQueue c.pool_id → s' key = s key

/-- The loop over the queued claims `ids` pays `total`. -/
inductive QueuePaid (now : U64) : InsuranceStorage → List U64 → ℤ → InsuranceStorage → Prop
  | done {s : InsuranceStorage} : QueuePaid now s [] 0 s
  | skip {s s' : InsuranceStorage} {id : U64} {ids : List U64} {c : ClaimInfo} {total : ℤ}
      (hclaim : s (.InsuranceClaim id) = some c) (hstatus : c.status ≠ .PartiallyPaid)
      (hrest : QueuePaid now s ids total s') : QueuePaid now s (id :: ids) total s'
  | stop {s s' : InsuranceStorage} {id : U64} {ids : List U64} {c : ClaimInfo}
      (hclaim : s (.InsuranceClaim id) = some c) (hstatus : c.status = .PartiallyPaid)
      (htranche : Tranche now s c 0 s') : QueuePaid now s (id :: ids) 0 s'
  | pay {s s₁ s' : InsuranceStorage} {id : U64} {ids : List U64} {c : ClaimInfo} {paid total : ℤ}
      (hclaim : s (.InsuranceClaim id) = some c) (hstatus : c.status = .PartiallyPaid)
      (htranche : Tranche now s c paid s₁) (hpaid : paid ≠ 0) (hrest : QueuePaid now s₁ ids total s') :
      QueuePaid now s (id :: ids) (paid + total) s'

/-- What a slash takes from a stake. -/
def loss (amount : ℤ) (slash_bps : U32) (staked_amount : ℤ) : ℤ :=
  max 0 (actual_slashed ((amount * slash_bps.toNat).tdiv BPS_DENOM) staked_amount)

/-- What a share earns of a premium. -/
def premium_per_share (premium staked_liquidity : ℤ) : ℤ :=
  if staked_liquidity > 0 then (premium * REWARD_SCALE).tdiv staked_liquidity else 0

/-- A claim that is not rejected or paid, not even in part. -/
def is_open : ClaimStatus → Bool
  | .Submitted => true
  | .Verified => true
  | .Approved => true
  | _ => false

/-- The call sets rates or judges a claim, and moves no amount. -/
def moves_nothing : EntryPoint → Bool
  | .create_pool .. => true
  | .set_risk_score .. => true
  | .verify_claim _ _ is_valid _ => is_valid
  | .approve_claim .. => true
  | _ => false

/-- **What a successful call can do.** -/
inductive Outcome (env : Env) (s : InsuranceStorage) : EntryPoint → InsuranceStorage → Prop
  | opened {admin : Address} {s' : InsuranceStorage} (hnone : s .Admin = none) (hadmin : s' .Admin = some admin)
      (hframe : ∀ key, key ∉ [DataKey.Admin, .Governance, .ClaimCount, .WithdrawalCount] → s' key = s key) :
      Outcome env s (.initialize_insurance admin) s'
  | governed {admin : Address} {approvers : List Address} {threshold : U32} {delay : U64} {s' : InsuranceStorage}
      (hadmin : s .Admin ≠ none) (hframe : ∀ key, key ≠ .Governance → s' key = s key) :
      Outcome env s (.configure_governance admin approvers threshold delay) s'
  | capped {admin : Address} {fraction drain : U32} {secs : U64} {s' : InsuranceStorage}
      (hadmin : s .Admin ≠ none) (hsecs : secs ≠ 0)
      (hcaps : s' .PayoutCapConfig = some ⟨fraction, drain, secs⟩)
      (hframe : ∀ key, key ≠ .PayoutCapConfig → s' key = s key) :
      Outcome env s (.configure_payout_caps admin fraction drain secs) s'
  | rated {call : EntryPoint} {p code : SString} {rate risk : U32} {s' : InsuranceStorage}
      (hmoves : moves_nothing call = true) (hadmin : s .Admin ≠ none)
      (hpool : s' (.CoveragePool p) =
        some { pool s p with asset_code := code, premium_rate_bps := rate, risk_score_bps := risk })
      (hframe : ∀ key, key ≠ .CoveragePool p → s' key = s key) : Outcome env s call s'
  | staked {a : Address} {p : SString} {amount : ℤ} {s' : InsuranceStorage} (hpositive : 0 < amount)
      (hfits : (pool s p).total_liquidity + amount < 2 ^ 127) (hmoved : Moved s s' a p amount 0 []) : Outcome env s (.stake_liquidity a p amount) s'
  | requested {a : Address} {p : SString} {amount : ℤ} {id unlock_time : U64} {s' : InsuranceStorage}
      (hpositive : 0 < amount) (hle : amount ≤ (position s a p).staked_amount)
      (hmoved : Moved s s' a p (-amount) amount [.WithdrawalRequest id, .WithdrawalCount])
      (hid : id = (s .WithdrawalCount).getD 0) (hfits : id.toNat + 1 < 2 ^ 64)
      (hcount : s' .WithdrawalCount = some (id + 1)) (hnone : s (.WithdrawalRequest id) = none)
      (hrequest : s' (.WithdrawalRequest id) = some ⟨id, a, p, amount, unlock_time, false⟩) :
      Outcome env s (.request_withdrawal a p amount) s'
  | withdrawn {a : Address} {p : SString} {id : U64} {r : WithdrawalRequest} {s' : InsuranceStorage}
      (hrequest : s (.WithdrawalRequest id) = some r) (howner : r.staker = a ∧ r.pool_id = p)
      (hclaimed : r.claimed = false) (hpending : r.amount ≤ (position s a p).pending_withdrawal)
      (hliquidity : r.amount ≤ (pool s p).total_liquidity) (hqueued : r.amount ≤ (pool s p).queued_withdrawals)
      (hmoved : Moved s s' a p 0 (-r.amount) [.WithdrawalRequest id])
      (hrequest' : s' (.WithdrawalRequest id) = some { r with claimed := true }) :
      Outcome env s (.execute_withdrawal a p id) s'
  | purchased {buyer : Address} {p : SString} {amount premium_paid premium : ℤ} {tier : CoverageTier}
      {s' : InsuranceStorage} (hpositive : 0 < amount) (hknown : (s (.CoveragePool p)).isSome = true)
      (hcap : (pool s p).active_coverage + amount ≤
        ((pool s p).staked_liquidity * (tier_coverage_cap_bps tier).toNat).tdiv BPS_DENOM)
      (hfits : (pool s p).active_coverage + amount < 2 ^ 127) (hpremium : 0 ≤ premium)
      (hpool : s' (.CoveragePool p) = some
        { pool s p with
          active_coverage := (pool s p).active_coverage + amount
          premium_collected_total := (pool s p).premium_collected_total + premium
          acc_premium_per_share :=
            (pool s p).acc_premium_per_share + premium_per_share premium (pool s p).staked_liquidity })
      (hframe : ∀ key, key ≠ .CoveragePool p → s' key = s key) :
      Outcome env s (.purchase_coverage buyer p amount tier premium_paid) s'
  | submitted {a : Address} {p hash : SString} {amount : ℤ} {id : U64} {s' : InsuranceStorage}
      (hpositive : 0 < amount) (hknown : (s (.CoveragePool p)).isSome = true)
      (hcovered : amount ≤ (pool s p).active_coverage) (hid : id = (s .ClaimCount).getD 0) (hfits : id.toNat + 1 < 2 ^ 64)
      (hcount : s' .ClaimCount = some (id + 1)) (hnone : s (.InsuranceClaim id) = none)
      (hclaim : s' (.InsuranceClaim id) = some ⟨id, a, p, amount, hash, .Submitted, [], 0, 0, 0⟩)
      (hframe : ∀ key, key ≠ .InsuranceClaim id → key ≠ .ClaimCount → s' key = s key) :
      Outcome env s (.submit_claim a p amount hash) s'
  | judged {call : EntryPoint} {id : U64} {c : ClaimInfo} {status : ClaimStatus} {approvals : List Address}
      {slash_bps : U32} {slashed_amount : ℤ} {s' : InsuranceStorage} (hmoves : moves_nothing call = true)
      (hclaim : s (.InsuranceClaim id) = some c) (hopen : is_open c.status = true) (hstays : is_open status = true)
      (hclaim' : s' (.InsuranceClaim id) = some { c with status, approvals, slash_bps, slashed_amount })
      (hframe : ∀ key, key ≠ .InsuranceClaim id → s' key = s key) : Outcome env s call s'
  | rejected {admin : Address} {id : U64} {bps : U32} {c : ClaimInfo} {slashed_amount : ℤ} {s' : InsuranceStorage}
      (hclaim : s (.InsuranceClaim id) = some c) (hopen : is_open c.status = true)
      (hmoved : Moved s s' c.claimant c.pool_id
        (-loss c.amount bps (position s c.claimant c.pool_id).staked_amount) 0 [.InsuranceClaim id])
      (hclaim' : s' (.InsuranceClaim id) = some { c with status := .Rejected, slash_bps := bps, slashed_amount }) :
      Outcome env s (.verify_claim admin id false bps) s'
  | paid {admin : Address} {id : U64} {c : ClaimInfo} {amount : ℤ} {s' : InsuranceStorage}
      (hclaim : s (.InsuranceClaim id) = some c) (hstatus : c.status = .Approved ∨ c.status = .PartiallyPaid)
      (htranche : Tranche env.timestamp s c amount s') : Outcome env s (.execute_payout admin id) s'
  | queue_paid {admin : Address} {p : SString} {total : ℤ} {s' : InsuranceStorage}
      (hpaid : QueuePaid env.timestamp s (queue s p) total s') : Outcome env s (.process_payout_queue admin p) s'
  | premium_claimed {a : Address} {p : SString} {s' : InsuranceStorage} (hmoved : Moved s s' a p 0 0 []) :
      Outcome env s (.claim_premium a p) s'

/-! ## The internal functions -/

section Inversion

variable {env : Env} {s s' : InsuranceStorage} {u : Unit} {a : Address} {p : SString} {id : U64}

@[simp] theorem require_admin_eq_ok :
    require_admin a env s = .ok (u, s') ↔ env.auth a = true ∧ s .Admin = some a ∧ s' = s := by
  simp only [require_admin, bind_eq_ok, HostCalls.require_auth_eq_ok, load_eq_ok, expect_eq_ok, panic_if_eq_ok, not_not,
    ne_eq, and_assoc, exists_and_left, exists_eq_left, exists_const]
  constructor
  · rintro ⟨hauth, b, hb, rfl, rfl⟩
    exact ⟨hauth, hb, rfl⟩
  · rintro ⟨hauth, ha, rfl⟩
    exact ⟨hauth, a, ha, rfl, rfl⟩

@[simp] theorem load_governance_eq_ok {g : GovernanceConfig} :
    load_governance env s = .ok (g, s') ↔ s .Governance = some g ∧ s' = s := by
  simp only [load_governance, bind_eq_ok, load_eq_ok, expect_eq_ok, and_assoc, exists_and_left, exists_eq_left]

@[simp] theorem load_pool_eq_ok {r : PoolInfo} :
    load_pool p env s = .ok (r, s') ↔ s (.CoveragePool p) = some r ∧ s' = s := by
  simp only [load_pool, bind_eq_ok, load_eq_ok, expect_eq_ok, and_assoc, exists_and_left, exists_eq_left]

@[simp] theorem load_position_eq_ok {q : StakerPosition} :
    load_position a p env s = .ok (q, s') ↔ q = position s a p ∧ s' = s := by
  simp only [load_position, bind_eq_ok, load_eq_ok, pure_eq_ok, and_assoc, exists_and_left, exists_eq_left, position]

@[simp] theorem load_claim_eq_ok {c : ClaimInfo} :
    load_claim id env s = .ok (c, s') ↔ s (.InsuranceClaim id) = some c ∧ s' = s := by
  simp only [load_claim, bind_eq_ok, load_eq_ok, expect_eq_ok, and_assoc, exists_and_left, exists_eq_left]

@[simp] theorem save_claim_eq_ok {c : ClaimInfo} :
    save_claim c env s = .ok (u, s') ↔ s' = Function.update s (.InsuranceClaim c.claim_id) (some c) := by
  rw [save_claim, save_eq_ok]

@[simp] theorem load_payout_caps_eq_ok {config : PayoutCapConfig} :
    load_payout_caps env s = .ok (config, s') ↔ config = caps s ∧ s' = s := by
  simp only [load_payout_caps, bind_eq_ok, load_eq_ok, pure_eq_ok, and_assoc, exists_and_left, exists_eq_left, caps]

@[simp] theorem current_payout_epoch_eq_ok {r : PoolInfo} {config : PayoutCapConfig} {e : PayoutEpoch} :
    current_payout_epoch r config env s = .ok (e, s') ↔
      e = epoch_at env.timestamp (s (.PayoutEpoch r.pool_id)) r config ∧ s' = s := by
  simp only [current_payout_epoch, bind_eq_ok, reads_eq_ok, load_eq_ok, pure_eq_ok, and_assoc, exists_and_left,
    exists_eq_left]

@[simp] theorem load_payout_queue_eq_ok {ids : List U64} :
    load_payout_queue p env s = .ok (ids, s') ↔ ids = queue s p ∧ s' = s := by
  simp only [load_payout_queue, bind_eq_ok, load_eq_ok, pure_eq_ok, and_assoc, exists_and_left, exists_eq_left, queue]

@[simp] theorem bps_of_eq_ok {amount v : ℤ} {bps : U32} :
    bps_of amount bps env s = .ok (v, s') ↔
      FitsI128 (amount * bps.toNat) ∧ v = (amount * bps.toNat).tdiv BPS_DENOM ∧ s' = s := by
  rw [bps_of, expect_eq_ok, checked_mul_div_eq_some (by decide), and_assoc]

@[simp] theorem calc_reward_debt_eq_ok {staked_amount acc v : ℤ} :
    calc_reward_debt staked_amount acc env s = .ok (v, s') ↔
      FitsI128 (staked_amount * acc) ∧ v = reward acc staked_amount ∧ s' = s := by
  rw [calc_reward_debt, expect_eq_ok, checked_mul_div_eq_some (by decide), and_assoc, reward]

/-- The amounts of a settlement are `i128`s. -/
structure SyncFits (acc : ℤ) (q : StakerPosition) : Prop where
  product : FitsI128 (q.staked_amount * acc)
  pending : FitsI128 (reward acc q.staked_amount - q.reward_debt)
  accrued : 0 < reward acc q.staked_amount - q.reward_debt →
    FitsI128 (q.accrued_premium + (reward acc q.staked_amount - q.reward_debt))

@[simp] theorem sync_rewards_eq_ok {r : PoolInfo} {q q' : StakerPosition} :
    sync_rewards r q env s = .ok (q', s') ↔
      SyncFits r.acc_premium_per_share q ∧ q' = synced r.acc_premium_per_share q ∧ s' = s := by
  simp only [sync_rewards, bind_eq_ok, calc_reward_debt_eq_ok, expect_eq_ok, checked_sub_eq_some, ite_eq_ok,
    checked_add_eq_some, pure_eq_ok, and_assoc, exists_and_left, exists_eq_left]
  constructor
  · rintro ⟨hproduct, hpending, hgain | hloss⟩
    · obtain ⟨hpositive, haccrued, rfl, rfl⟩ := hgain
      refine ⟨⟨hproduct, hpending, fun _ => haccrued⟩, ?_, rfl⟩
      rw [synced, max_eq_right hpositive.le]
    · obtain ⟨hnonpos, rfl, rfl⟩ := hloss
      refine ⟨⟨hproduct, hpending, fun h => absurd h hnonpos⟩, ?_, rfl⟩
      rw [synced, max_eq_left (not_lt.mp hnonpos), add_zero]
  · rintro ⟨⟨hproduct, hpending, haccrued⟩, rfl, rfl⟩
    refine ⟨hproduct, hpending, ?_⟩
    by_cases hpositive : 0 < reward r.acc_premium_per_share q.staked_amount - q.reward_debt
    · refine Or.inl ⟨hpositive, haccrued hpositive, ?_, rfl⟩
      rw [synced, max_eq_right hpositive.le]
    · refine Or.inr ⟨hpositive, ?_, rfl⟩
      rw [synced, max_eq_left (not_lt.mp hpositive), add_zero]

@[simp] theorem epoch_remaining_eq_ok {budget paid v : ℤ} :
    epoch_remaining budget paid env s = .ok (v, s') ↔
      (budget > paid → FitsI128 (budget - paid)) ∧ v = max 0 (budget - paid) ∧ s' = s := by
  simp only [epoch_remaining, ite_eq_ok, expect_eq_ok, checked_sub_eq_some, pure_eq_ok, and_assoc]
  by_cases h : budget > paid
  · rw [max_eq_right (by omega)]
    simp [h]
  · rw [max_eq_left (by omega)]
    simp [h]

@[simp] theorem next_claim_id_eq_ok :
    next_claim_id env s = .ok (id, s') ↔
      ((s .ClaimCount).getD 0).toNat + 1 < 2 ^ 64 ∧ id = (s .ClaimCount).getD 0 ∧
        s' = Function.update s .ClaimCount (some ((s .ClaimCount).getD 0 + 1)) := by
  simp only [next_claim_id, bind_eq_ok, load_eq_ok, checked_add_u64_eq_ok, save_eq_ok, pure_eq_ok, and_assoc,
    exists_and_left, exists_eq_left, exists_const, show UInt64.toNat 1 = 1 from rfl]

@[simp] theorem next_withdrawal_id_eq_ok :
    next_withdrawal_id env s = .ok (id, s') ↔
      ((s .WithdrawalCount).getD 0).toNat + 1 < 2 ^ 64 ∧ id = (s .WithdrawalCount).getD 0 ∧
        s' = Function.update s .WithdrawalCount (some ((s .WithdrawalCount).getD 0 + 1)) := by
  simp only [next_withdrawal_id, bind_eq_ok, load_eq_ok, checked_add_u64_eq_ok, save_eq_ok, pure_eq_ok, and_assoc,
    exists_and_left, exists_eq_left, exists_const, show UInt64.toNat 1 = 1 from rfl]

theorem calculate_premium_nonneg {r : PoolInfo} {amount premium : ℤ} {tier : CoverageTier} (hamount : 0 ≤ amount)
    (h : calculate_premium r amount tier env s = .ok (premium, s')) : 0 ≤ premium ∧ s' = s := by
  simp only [calculate_premium, bind_eq_ok, expect_eq_ok, checked_mul_div_eq_some (show (0 : ℤ) < BPS_DENOM by decide),
    Option.bind_eq_some_iff, checked_mul_eq_some, checked_div, and_assoc, exists_and_left, exists_eq_left] at h
  obtain ⟨-, -, -, hpremium, rfl⟩ := h
  rw [if_neg (by decide), checked_eq_some] at hpremium
  refine ⟨?_, rfl⟩
  have htier : 0 ≤ tier_premium_multiplier_bps tier := by cases tier <;> decide
  have hdenom : (0 : ℤ) ≤ BPS_DENOM := by decide
  rw [hpremium.2]
  have hbase : 0 ≤ (amount * r.premium_rate_bps.toNat).tdiv BPS_DENOM :=
    Int.tdiv_nonneg (Int.mul_nonneg hamount (Int.natCast_nonneg _)) hdenom
  have hrisk : 0 ≤ BPS_DENOM + (r.risk_score_bps.toNat : ℤ) := Int.add_nonneg hdenom (Int.natCast_nonneg _)
  exact Int.tdiv_nonneg (Int.tdiv_nonneg (Int.mul_nonneg (Int.mul_nonneg hbase hrisk) htier) hdenom) hdenom

/-- The pool that is there. -/
theorem pool_eq_of_some {r : PoolInfo} (h : s (.CoveragePool p) = some r) : pool s p = r := by
  rw [pool, h, Option.getD_some]

theorem isSome_of_some {key : DataKey} {v : key.Val} (h : s key = some v) : (s key).isSome = true := by
  rw [h, Option.isSome_some]

end Inversion

/-! ## Movements -/

section Movements

variable {env : Env} {s s' : InsuranceStorage} {a : Address} {p : SString} {dx dp : ℤ} {others : List DataKey}

theorem Filed.pools (hs : Filed s) (p : SString) (r : PoolInfo) (hr : s (.CoveragePool p) = some r) : r.pool_id = p :=
  hs.records (.CoveragePool p) r hr

theorem Filed.positions (hs : Filed s) (a : Address) (p : SString) (q : StakerPosition)
    (hq : s (.StakerPosition a p) = some q) : q.staker = a ∧ q.pool_id = p :=
  hs.records (.StakerPosition a p) q hq

theorem Filed.claims (hs : Filed s) (id : U64) (c : ClaimInfo) (hc : s (.InsuranceClaim id) = some c) : c.claim_id = id :=
  hs.records (.InsuranceClaim id) c hc

theorem Filed.epochs (hs : Filed s) (p : SString) (e : PayoutEpoch) (he : s (.PayoutEpoch p) = some e) : e.pool_id = p :=
  hs.records (.PayoutEpoch p) e he

theorem Filed.pool_id_eq (hs : Filed s) : (pool s p).pool_id = p := by
  cases hr : s (.CoveragePool p) with
  | none => simp [pool, hr, new_pool]
  | some r => rw [pool_eq_of_some hr, hs.pools p r hr]

theorem Filed.owner_eq (hs : Filed s) : (position s a p).staker = a ∧ (position s a p).pool_id = p := by
  cases hq : s (.StakerPosition a p) with
  | none => simp [position, hq, no_position]
  | some q =>
      rw [position, hq, Option.getD_some]
      exact hs.positions a p q hq

/-- A movement from the records that the call saves. -/
theorem Moved.of_saves (hs : Filed s) {r : PoolInfo} {q : StakerPosition} {n : U32}
    (hr : s (.CoveragePool p) = some r)
    (hpool : s' (.CoveragePool r.pool_id) = some
      { r with total_liquidity := r.total_liquidity + (dx + dp)
               staked_liquidity := r.staked_liquidity + dx
               queued_withdrawals := r.queued_withdrawals + dp
               rejected_claims := n })
    (hposition : s' (.StakerPosition (position s a p).staker (position s a p).pool_id) = some q)
    (howner : q.staker = (position s a p).staker ∧ q.pool_id = (position s a p).pool_id)
    (hstaked : q.staked_amount = (position s a p).staked_amount + dx)
    (hpending : q.pending_withdrawal = (position s a p).pending_withdrawal + dp)
    (hdebt : q.reward_debt = reward r.acc_premium_per_share ((position s a p).staked_amount + dx))
    (hearned : q.accrued_premium + q.claimed_premium = earned r.acc_premium_per_share (position s a p))
    (hframe : ∀ key, key ≠ .StakerPosition (position s a p).staker (position s a p).pool_id →
      key ≠ .CoveragePool r.pool_id → key ∉ others → s' key = s key) : Moved s s' a p dx dp others := by
  obtain ⟨hstaker, hpool_id⟩ := hs.owner_eq (a := a) (p := p)
  rw [hstaker, hpool_id] at howner hposition hframe
  have hrid := hs.pools p r hr
  rw [hrid] at hframe
  have hview := pool_eq_of_some hr
  refine ⟨isSome_of_some hr, ⟨n, ?_⟩, ⟨q, hposition, howner.1, howner.2, hstaked, hpending, ?_, ?_⟩, hframe⟩
  · rw [hview, ← hrid]
    exact hpool
  · rw [hview, hdebt]
  · rw [hview, hearned]

theorem pool_congr (h : s' (.CoveragePool p) = s (.CoveragePool p)) : pool s' p = pool s p := by
  rw [pool, h, pool]

theorem position_congr (h : s' (.StakerPosition a p) = s (.StakerPosition a p)) : position s' a p = position s a p := by
  rw [position, h, position]

theorem Moved.pool_of_ne (h : Moved s s' a p dx dp others) {p' : SString} (hp : p' ≠ p)
    (hothers : DataKey.CoveragePool p' ∉ others) : pool s' p' = pool s p' :=
  pool_congr (h.frame _ (by simp) (by simpa using hp) hothers)

theorem Moved.position_of_ne (h : Moved s s' a p dx dp others) {a' : Address} {p' : SString}
    (hne : ¬(a' = a ∧ p' = p)) (hothers : DataKey.StakerPosition a' p' ∉ others) :
    position s' a' p' = position s a' p' :=
  position_congr (h.frame _ (by simpa using hne) (by simp) hothers)

theorem staked_of_ok (hs : Filed s) {amount : ℤ} (h : stake_liquidity a p amount env s = .ok ((), s')) :
    Outcome env s (.stake_liquidity a p amount) s' := by
  simp only [stake_liquidity, save_position, save_pool, bind_eq_ok, HostCalls.require_auth_eq_ok, panic_if_eq_ok,
    load_pool_eq_ok, load_position_eq_ok, sync_rewards_eq_ok, expect_eq_ok, checked_add_eq_some,
    calc_reward_debt_eq_ok, save_eq_ok, and_assoc, exists_and_left, exists_eq_left, exists_const] at h
  obtain ⟨-, hpositive, r, hr, -, -, hfits, -, -, rfl⟩ := h
  apply Outcome.staked (not_le.mp hpositive) (by rw [pool_eq_of_some hr]; exact hfits.2)
  apply Moved.of_saves hs hr (n := r.rejected_claims)
  · simp
  · rw [Function.update_of_ne (by simp)]
    exact Function.update_self ..
  all_goals simp +contextual [synced, earned]
  omega

theorem premium_claimed_of_ok (hs : Filed s) {amount : ℤ} (h : claim_premium a p env s = .ok (amount, s')) :
    Outcome env s (.claim_premium a p) s' := by
  simp only [claim_premium, save_position, bind_eq_ok, HostCalls.require_auth_eq_ok, load_pool_eq_ok,
    load_position_eq_ok, sync_rewards_eq_ok, expect_eq_ok, checked_add_eq_some, calc_reward_debt_eq_ok, save_eq_ok,
    pure_eq_ok, and_assoc, exists_and_left, exists_eq_left, exists_const] at h
  obtain ⟨-, r, hr, -, -, -, -, rfl⟩ := h
  apply Outcome.premium_claimed
  obtain rfl := hs.pools p r hr
  apply Moved.of_saves hs hr (n := r.rejected_claims)
  · simp [hr]
  · exact Function.update_self ..
  all_goals simp +contextual [synced, earned]
  omega

theorem requested_of_ok (hs : Filed s) {amount : ℤ} {id : U64}
    (h : request_withdrawal a p amount env s = .ok (id, s')) : Outcome env s (.request_withdrawal a p amount) s' := by
  simp only [request_withdrawal, save_position, save_pool, bind_eq_ok, HostCalls.require_auth_eq_ok, panic_if_eq_ok,
    load_governance_eq_ok, load_pool_eq_ok, load_position_eq_ok, sync_rewards_eq_ok, expect_eq_ok, checked_add_eq_some,
    checked_sub_eq_some, next_withdrawal_id_eq_ok, reads_eq_ok, checked_add_u64_eq_ok, calc_reward_debt_eq_ok,
    save_eq_ok, pure_eq_ok, and_assoc, exists_and_left, exists_eq_left, exists_const] at h
  obtain ⟨-, hpositive, g, -, r, hr, -, hle, -, -, -, -, hfits, -, -, rfl, rfl⟩ := h
  refine @Outcome.requested _ _ _ _ _ ((s .WithdrawalCount).getD 0) _ _ (not_le.mp hpositive) (not_lt.mp hle) ?_ rfl
    hfits (by simp) ?_ (Function.update_self ..)
  · apply Moved.of_saves hs hr (n := r.rejected_claims)
    · simp [sub_eq_add_neg]
    · rw [Function.update_of_ne (by simp), Function.update_of_ne (by simp)]
      exact Function.update_self ..
    all_goals simp +contextual [synced, earned, sub_eq_add_neg]
    omega
  · -- A request that is there has a smaller number.
    by_contra hthere
    exact absurd (hs.requests_numbered _ hthere) (lt_irrefl _)

theorem withdrawn_of_ok (hs : Filed s) {id : U64} {amount : ℤ}
    (h : execute_withdrawal a p id env s = .ok (amount, s')) : Outcome env s (.execute_withdrawal a p id) s' := by
  simp only [execute_withdrawal, save_position, save_pool, bind_eq_ok, HostCalls.require_auth_eq_ok, panic_if_eq_ok,
    load_eq_ok, load_pool_eq_ok, load_position_eq_ok, sync_rewards_eq_ok, expect_eq_ok, checked_sub_eq_some,
    reads_eq_ok, calc_reward_debt_eq_ok, save_eq_ok, pure_eq_ok, and_assoc, exists_and_left, exists_eq_left,
    exists_const, not_or, not_not, not_lt, ne_eq, Bool.not_eq_true] at h
  obtain ⟨-, r₀, hrequest, hstaker, hpool_id, hclaimed, -, r, hr, -, hpending, hliquidity, hqueued, -, -, -, -, -, rfl⟩ := h
  have hview := pool_eq_of_some hr
  apply Outcome.withdrawn hrequest ⟨hstaker, hpool_id⟩ hclaimed hpending (by rw [hview]; exact hliquidity)
    (by rw [hview]; exact hqueued) _ (Function.update_self ..)
  apply Moved.of_saves hs hr (n := r.rejected_claims)
  · simp [sub_eq_add_neg]
  · rw [Function.update_of_ne (by simp), Function.update_of_ne (by simp)]
    exact Function.update_self ..
  all_goals simp +contextual [synced, earned, sub_eq_add_neg]
  omega

theorem rejected_of_ok (hs : Filed s) {id : U64} {c : ClaimInfo} {admin : Address} {bps : U32}
    (hclaim : s (.InsuranceClaim id) = some c) (hopen : is_open c.status = true)
    (h : reject_claim c bps env s = .ok ((), s')) : Outcome env s (.verify_claim admin id false bps) s' := by
  simp only [reject_claim, save_position, save_pool, save_claim, bind_eq_ok, panic_if_eq_ok, load_pool_eq_ok,
    load_position_eq_ok, sync_rewards_eq_ok, expect_eq_ok, ite_eq_ok, checked_add_eq_some, checked_sub_eq_some,
    checked_mul_div_eq_some (show (0 : ℤ) < BPS_DENOM by decide), calc_reward_debt_eq_ok, save_eq_ok,
    synced_staked_amount, and_assoc, exists_and_left, exists_eq_left, exists_const] at h
  obtain ⟨-, r, hr, -, -, hslash⟩ := h
  have hid := hs.claims id c hclaim
  rcases hslash with ⟨hpositive, -, -, -, -, -, rfl⟩ | ⟨hnonpos, -, rfl⟩
  · apply Outcome.rejected hclaim hopen _ (by rw [hid]; exact Function.update_self ..)
    rw [loss, hid, max_eq_right (le_of_lt hpositive)]
    apply Moved.of_saves hs hr (n := saturating_add_u32 r.rejected_claims 1)
    · simp [sub_eq_add_neg]
    · rw [Function.update_of_ne (by simp), Function.update_of_ne (by simp)]
      exact Function.update_self ..
    all_goals simp +contextual [synced, earned, sub_eq_add_neg]
    omega
  · apply Outcome.rejected hclaim hopen _ (by rw [hid]; exact Function.update_self ..)
    rw [loss, hid, max_eq_left (not_lt.mp hnonpos)]
    apply Moved.of_saves hs hr (n := saturating_add_u32 r.rejected_claims 1)
    · simp
    · rw [Function.update_of_ne (by simp), Function.update_of_ne (by simp)]
      exact Function.update_self ..
    all_goals simp +contextual [synced, earned]
    omega

end Movements

/-! ## Tranches -/

section Tranches

variable {env : Env} {s s' : InsuranceStorage} {u : Unit} {p : SString} {id : U64} {ids : List U64} {c c' : ClaimInfo}
variable {e : PayoutEpoch} {r : PoolInfo} {paid : ℤ}

/-- The queue of one pool is the new one, and nothing else changed. -/
structure Requeued (s s' : InsuranceStorage) (p : SString) (ids : List U64) : Prop where
  queue_eq : queue s' p = ids
  frame : ∀ key, key ≠ .PayoutQueue p → s' key = s key

theorem requeued_of_save (hs' : s' = Function.update s (.PayoutQueue p) (some ids)) : Requeued s s' p ids := by
  rw [hs']
  refine ⟨?_, fun key hkey => Function.update_of_ne hkey _ _⟩
  rw [queue, Function.update_self, Option.getD_some]

theorem stay_queued_spec (h : stay_queued p (queue s p) id env s = .ok (u, s')) :
    Requeued s s' p (requeue (queue s p) id false) := by
  simp only [stay_queued, save_payout_queue, exec_if_eq_ok, bind_eq_ok, push_back_eq_ok, save_eq_ok, and_assoc,
    exists_and_left, exists_eq_left, Option.isNone_iff_eq_none, List.idxOf?_eq_none_iff] at h
  rcases h with ⟨hnew, -, hs'⟩ | ⟨hqueued, rfl⟩
  · rw [requeue, if_neg (by simp), if_neg hnew]
    exact requeued_of_save hs'
  · rw [requeue, if_neg (by simp), if_pos (not_not.mp hqueued)]
    exact ⟨rfl, fun key _ => rfl⟩

theorem leave_queue_spec (h : leave_queue p (queue s p) id env s = .ok (u, s')) :
    Requeued s s' p (requeue (queue s p) id true) := by
  simp only [leave_queue, save_payout_queue, elim_eq_ok, pure_eq_ok, save_eq_ok] at h
  rw [requeue, if_pos rfl]
  rcases h with ⟨hnone, -, rfl⟩ | ⟨i, hsome, hs'⟩
  · rw [List.erase_of_not_mem (List.idxOf?_eq_none_iff.mp hnone)]
    exact ⟨rfl, fun key _ => rfl⟩
  · rw [List.erase_eq_eraseIdx, hsome]
    exact requeued_of_save hs'

/-- The epoch that the code works with is that of the view. -/
theorem epoch_eq_of_some (hs : Filed s) (hr : s (.CoveragePool p) = some r) (now : U64) :
    epoch_at now (s (.PayoutEpoch r.pool_id)) r (caps s) = epoch s now p := by
  rw [epoch, pool_eq_of_some hr, hs.pools p r hr]

theorem Filed.epoch_id_eq (hs : Filed s) (now : U64) : (epoch s now p).pool_id = p := by
  unfold epoch epoch_at
  split
  · rename_i e he
    split
    · exact hs.epochs p e he
    · exact hs.pool_id_eq
  · exact hs.pool_id_eq

theorem defer_tranche_spec (h : defer_tranche c e (queue s c.pool_id) env s = .ok ((paid, c'), s')) :
    paid = 0 ∧ c' = { c with status := .PartiallyPaid } ∧
      queue s' c.pool_id = requeue (queue s c.pool_id) c.claim_id false ∧ s' (.PayoutEpoch e.pool_id) = some e ∧
      ∀ key, key ≠ .PayoutEpoch e.pool_id → key ≠ .PayoutQueue c.pool_id → s' key = s key := by
  simp only [defer_tranche, save_payout_epoch, bind_eq_ok, save_eq_ok, pure_eq_ok, Prod.mk.injEq, and_assoc,
    exists_and_left, exists_eq_left, exists_const] at h
  obtain ⟨_, s₁, hqueue, rfl, rfl, rfl⟩ := h
  obtain ⟨hqueue_eq, hframe⟩ := stay_queued_spec hqueue
  refine ⟨rfl, rfl, ?_, Function.update_self .., ?_⟩
  · rw [← hqueue_eq, queue, Function.update_of_ne (by simp), queue]
  · intro key hepoch hkey
    rw [Function.update_of_ne hepoch, hframe key hkey]

theorem disburse_tranche_spec {amount : ℤ}
    (h : disburse_tranche c r e (queue s c.pool_id) amount env s = .ok ((paid, c'), s')) :
    paid = amount ∧
      c' = { c with paid_amount := c.paid_amount + amount,
                    status := if c.paid_amount + amount = c.amount then .Paid else .PartiallyPaid } ∧
      queue s' c.pool_id = requeue (queue s c.pool_id) c.claim_id (c.paid_amount + amount = c.amount) ∧
      s' (.PayoutEpoch e.pool_id) = some { e with paid_in_epoch := e.paid_in_epoch + amount } ∧
      s' (.CoveragePool r.pool_id) = some
        { r with total_liquidity := r.total_liquidity - amount
                 active_coverage := r.active_coverage - amount
                 payout_total := r.payout_total + amount
                 paid_claims := if c.paid_amount + amount = c.amount then saturating_add_u32 r.paid_claims 1
                   else r.paid_claims } ∧
      ∀ key, key ≠ .PayoutEpoch e.pool_id → key ≠ .PayoutQueue c.pool_id → key ≠ .CoveragePool r.pool_id →
        s' key = s key := by
  simp only [disburse_tranche, save_payout_epoch, save_pool, bind_eq_ok, expect_eq_ok, checked_sub_eq_some,
    checked_add_eq_some, ite_eq_ok, save_eq_ok, pure_eq_ok, Prod.mk.injEq, and_assoc, exists_and_left,
    exists_eq_left, exists_const] at h
  obtain ⟨-, -, -, -, -, -, hpaid⟩ := h
  have hzero : c.amount - (c.paid_amount + amount) = 0 ↔ c.paid_amount + amount = c.amount := by omega
  rw [hzero] at hpaid
  -- The two branches differ in what they leave of the queue and in the status.
  rcases hpaid with ⟨hsettled, _, s₁, hqueue, rfl, rfl, rfl⟩ | ⟨howed, _, s₁, hqueue, rfl, rfl, rfl⟩
  on_goal 1 =>
    obtain ⟨hqueue_eq, hframe⟩ := leave_queue_spec hqueue
    simp only [hsettled, if_true, decide_true]
  on_goal 2 =>
    obtain ⟨hqueue_eq, hframe⟩ := stay_queued_spec hqueue
    simp only [howed, if_false, decide_false]
  all_goals
    refine ⟨trivial, trivial, ?_, Function.update_self .., ?_, ?_⟩
    · rw [← hqueue_eq, queue, Function.update_of_ne (by simp), Function.update_of_ne (by simp), queue]
    · rw [Function.update_of_ne (by simp), Function.update_self]
    · intro key hepoch hkey hpool
      rw [Function.update_of_ne hepoch, Function.update_of_ne hpool, hframe key hkey]

/-- What is allowed, in the terms of the code. -/
theorem allowed_eq (hr : s (.CoveragePool p) = some r) {now : U64} {remaining : ℤ} :
    payable remaining ((r.total_liquidity * (caps s).max_claim_fraction_bps.toNat).tdiv BPS_DENOM)
      (max 0 (((epoch s now p).opening_liquidity * (caps s).epoch_drain_cap_bps.toNat).tdiv BPS_DENOM -
        (epoch s now p).paid_in_epoch)) r.total_liquidity = allowed s now p remaining := by
  rw [allowed, pool_eq_of_some hr]

theorem allowed_le {now : U64} {remaining : ℤ} : allowed s now p remaining ≤ remaining := by
  rw [allowed, payable]
  omega

theorem allowed_le_liquidity {now : U64} {remaining : ℤ} : allowed s now p remaining ≤ (pool s p).total_liquidity := by
  rw [allowed, payable]
  omega

theorem epoch_of_some {now : U64} (he : s (.PayoutEpoch p) = some e) :
    epoch s now p = if now < saturating_add_u64 e.epoch_start (caps s).epoch_secs then e else
      { pool_id := (pool s p).pool_id, epoch_start := now, opening_liquidity := (pool s p).total_liquidity,
        paid_in_epoch := 0 } := by
  simp only [epoch, epoch_at, he]

theorem Tranche.caps_eq {now : U64} (h : Tranche now s c paid s') : caps s' = caps s := by
  rw [caps, h.frame _ (by simp) (by simp) (by simp) (by simp), caps]

/-- **A tranche** is what the caps allow; where they allow nothing the claim waits in the queue. -/
theorem tranche_of_ok (hs : Filed s) (h : pay_tranche c env s = .ok (paid, s')) :
    Tranche env.timestamp s c paid s' := by
  simp only [pay_tranche, pay_claim_tranche, save_claim, bind_eq_ok, panic_if_eq_ok, expect_eq_ok,
    checked_sub_eq_some, load_payout_caps_eq_ok, load_pool_eq_ok, current_payout_epoch_eq_ok, bps_of_eq_ok,
    epoch_remaining_eq_ok, load_payout_queue_eq_ok, ite_eq_ok, save_eq_ok, pure_eq_ok, and_assoc, exists_and_left,
    exists_eq_left, exists_const, Prod.exists] at h
  obtain ⟨-, hunsettled, _, c', s₁, ⟨r, hr, hcovered, -, -, -, hpaid⟩, rfl, rfl⟩ := h
  have hview := pool_eq_of_some hr
  have hrid := hs.pools _ r hr
  have heid := hs.epoch_id_eq (p := c.pool_id) env.timestamp
  rw [epoch_eq_of_some hs hr, allowed_eq hr] at hpaid
  rcases hpaid with ⟨hnone, hdefer⟩ | ⟨hsome, hdisburse⟩
  · obtain ⟨rfl, rfl, hqueue, hepoch, hframe⟩ := defer_tranche_spec hdefer
    rw [heid] at hepoch hframe
    have howed : ¬c.paid_amount = c.amount := by omega
    refine ⟨by omega, isSome_of_some hr, by rw [hview]; omega, (max_eq_left hnone).symm, ?_, ?_, ?_, ?_, ?_⟩
    · rw [Function.update_of_ne (by simp), hframe _ (by simp) (by simp), hr, hview]
      simp [howed]
    · rw [Function.update_self]
      simp [howed]
    · rw [Function.update_of_ne (by simp), hepoch, add_zero]
    · rw [queue, Function.update_of_ne (by simp), ← queue, hqueue]
      simp [howed]
    · intro key hpool hclaim hepoch_key hkey
      rw [Function.update_of_ne hclaim, hframe key hepoch_key hkey]
  · obtain ⟨rfl, rfl, hqueue, hepoch, hpool, hframe⟩ := disburse_tranche_spec hdisburse
    rw [heid, hrid] at hframe
    refine ⟨by omega, isSome_of_some hr, by rw [hview]; omega, (max_eq_right (by omega)).symm, ?_, ?_, ?_, ?_, ?_⟩
    · have hkey : s₁ (.CoveragePool c.pool_id) = s₁ (.CoveragePool r.pool_id) := by rw [hrid]
      rw [Function.update_of_ne (by simp), hview, hkey, hpool]
    · exact Function.update_self ..
    · have hkey : s₁ (.PayoutEpoch c.pool_id) = s₁ (.PayoutEpoch (epoch s env.timestamp c.pool_id).pool_id) := by
        rw [heid]
      rw [Function.update_of_ne (by simp), hkey, hepoch]
    · rw [queue, Function.update_of_ne (by simp), ← queue, hqueue]
    · intro key hpool_key hclaim hepoch_key hkey
      rw [Function.update_of_ne hclaim, hframe key hepoch_key hkey hpool_key]

/-- What a change of the records must do to leave them filed. -/
theorem Filed.step (hs : Filed s) (hrecords : ∀ key v, s' key = some v → s key = some v ∨ FiledUnder key v)
    (hclaims : ∀ id, s' (.InsuranceClaim id) ≠ none → s (.InsuranceClaim id) ≠ none ∨ id.toNat < claim_count s')
    (hrequests : ∀ id, s' (.WithdrawalRequest id) ≠ none →
      s (.WithdrawalRequest id) ≠ none ∨ id.toNat < request_count s')
    (hcounts : claim_count s ≤ claim_count s' ∧ request_count s ≤ request_count s') (hadmin : s' .Admin ≠ none) :
    Filed s' where
  records := by
    intro key v hv
    rcases hrecords key v hv with hold | hnew
    · exact hs.records key v hold
    · exact hnew
  claims_numbered := by
    intro id hid
    rcases hclaims id hid with hold | hnew
    · exact (hs.claims_numbered id hold).trans_le hcounts.1
    · exact hnew
  requests_numbered := by
    intro id hid
    rcases hrequests id hid with hold | hnew
    · exact (hs.requests_numbered id hold).trans_le hcounts.2
    · exact hnew
  unopened := fun hnone => absurd hnone hadmin

theorem Filed.admin_of_pool (hs : Filed s) (h : (s (.CoveragePool p)).isSome = true) : s .Admin ≠ none := by
  intro hnone
  rw [(hs.unopened hnone).1] at h
  cases h

theorem Filed.admin_of_claim (hs : Filed s) (h : s (.InsuranceClaim id) = some c) : s .Admin ≠ none := by
  intro hnone
  rw [(hs.unopened hnone).2.1] at h
  cases h

/-- The records stay filed under a tranche. -/
theorem Tranche.filed (hs : Filed s) {now : U64} (h : Tranche now s c paid s')
    (hclaim : s (.InsuranceClaim c.claim_id) = some c) : Filed s' := by
  apply hs.step
  · intro key v hv
    by_cases hpool : key = .CoveragePool c.pool_id
    · subst hpool
      rw [h.pool_eq, Option.some.injEq] at hv
      right
      rw [← hv]
      exact hs.pool_id_eq
    by_cases hkey : key = .InsuranceClaim c.claim_id
    · subst hkey
      rw [h.claim_eq, Option.some.injEq] at hv
      right
      rw [← hv]
      rfl
    by_cases hepoch : key = .PayoutEpoch c.pool_id
    · subst hepoch
      rw [h.epoch_eq, Option.some.injEq] at hv
      right
      rw [← hv]
      exact hs.epoch_id_eq now
    by_cases hqueue : key = .PayoutQueue c.pool_id
    · subst hqueue
      exact Or.inr trivial
    · rw [h.frame key hpool hkey hepoch hqueue] at hv
      exact Or.inl hv
  · intro id hid
    by_cases hkey : id = c.claim_id
    · rw [hkey, hclaim]
      exact Or.inl (by simp)
    · rw [h.frame _ (by simp) (by simpa using hkey) (by simp) (by simp)] at hid
      exact Or.inl hid
  · intro id hid
    rw [h.frame _ (by simp) (by simp) (by simp) (by simp)] at hid
    exact Or.inl hid
  · rw [claim_count, claim_count, request_count, request_count, h.frame _ (by simp) (by simp) (by simp) (by simp),
      h.frame .WithdrawalCount (by simp) (by simp) (by simp) (by simp)]
    exact ⟨le_refl _, le_refl _⟩
  · rw [h.frame _ (by simp) (by simp) (by simp) (by simp)]
    exact hs.admin_of_claim hclaim

theorem queue_paid_of_ok {total total' : ℤ} (hs : Filed s) (h : pay_queued ids total env s = .ok (total', s')) :
    QueuePaid env.timestamp s ids (total' - total) s' := by
  induction ids generalizing s total with
  | nil =>
      rw [pay_queued, pure_eq_ok] at h
      obtain ⟨rfl, rfl⟩ := h
      rw [sub_self]
      exact .done
  | cons id _ ih =>
      simp only [pay_queued, bind_eq_ok, load_claim_eq_ok, ite_eq_ok, expect_eq_ok, checked_add_eq_some, pure_eq_ok,
        and_assoc, exists_and_left, exists_eq_left] at h
      obtain ⟨c, hclaim, ⟨hskip, hrest⟩ | ⟨hunpaid, paid, s₁, hpay, hgoes⟩⟩ := h
      · exact .skip hclaim hskip (ih hs hrest)
      · have hid := hs.claims id c hclaim
        have htranche := tranche_of_ok hs hpay
        rcases hgoes with ⟨rfl, rfl, rfl⟩ | ⟨hpaid, -, hrest⟩
        · rw [sub_self]
          exact .stop hclaim (not_not.mp hunpaid) htranche
        · have hsum : total' - total = paid + (total' - (total + paid)) := by omega
          rw [hsum]
          exact .pay hclaim (not_not.mp hunpaid) htranche hpaid (ih (htranche.filed hs (by rw [hid, hclaim])) hrest)

end Tranches

/-! ## Calls -/

section Calls

variable {env : Env} {s s' : InsuranceStorage} {call : EntryPoint}

theorem purchased_of_ok (hs : Filed s) {buyer : Address} {p : SString} {amount premium_paid v : ℤ} {tier : CoverageTier}
    (h : purchase_coverage buyer p amount tier premium_paid env s = .ok (v, s')) :
    Outcome env s (.purchase_coverage buyer p amount tier premium_paid) s' := by
  simp only [purchase_coverage, save_pool, bind_eq_ok, HostCalls.require_auth_eq_ok, panic_if_eq_ok, load_pool_eq_ok,
    expect_eq_ok, checked_mul_div_eq_some (show (0 : ℤ) < BPS_DENOM by decide), checked_add_eq_some, ite_eq_ok,
    save_eq_ok, pure_eq_ok, and_assoc, exists_and_left, exists_eq_left, exists_const] at h
  obtain ⟨-, hpositive, r, hr, premium, s₁, hpremium, -, -, hfits, hcap, -, hgoes⟩ := h
  obtain ⟨hnonneg, rfl⟩ := calculate_premium_nonneg (not_le.mp hpositive).le hpremium
  have hview := pool_eq_of_some hr
  obtain rfl := hs.pools p r hr
  -- Without stakes the accumulator stays, which is the same as a share that earns nothing.
  have hsaved : s' = Function.update s₁ (.CoveragePool r.pool_id) (some
      { r with active_coverage := r.active_coverage + amount
               premium_collected_total := r.premium_collected_total + premium
               acc_premium_per_share := r.acc_premium_per_share + premium_per_share premium r.staked_liquidity }) := by
    rcases hgoes with ⟨hstaked, delta, hdelta, -, rfl, rfl⟩ | ⟨hnone, rfl, rfl⟩
    · rw [checked_mul_div_eq_some hstaked] at hdelta
      rw [premium_per_share, if_pos hstaked, hdelta.2]
    · rw [premium_per_share, if_neg hnone, add_zero]
  refine @Outcome.purchased _ _ _ _ _ _ premium _ _ (not_le.mp hpositive) (isSome_of_some hr) ?_ ?_ ?_ ?_ ?_
  · rw [hview]
    exact not_lt.mp hcap
  · rw [hview]
    exact hfits.2
  · exact hnonneg
  · rw [hsaved, Function.update_self, hview]
  · intro key hkey
    rw [hsaved, Function.update_of_ne hkey]

theorem submitted_of_ok (hs : Filed s) {a : Address} {p hash : SString} {amount : ℤ} {id : U64}
    (h : submit_claim a p amount hash env s = .ok (id, s')) : Outcome env s (.submit_claim a p amount hash) s' := by
  simp only [submit_claim, bind_eq_ok, HostCalls.require_auth_eq_ok, panic_if_eq_ok, load_pool_eq_ok,
    next_claim_id_eq_ok, save_eq_ok, pure_eq_ok, and_assoc, exists_and_left, exists_eq_left, exists_const] at h
  obtain ⟨-, hpositive, r, hr, hcovered, hfits, rfl, rfl⟩ := h
  apply Outcome.submitted (not_le.mp hpositive) (isSome_of_some hr) (by rw [pool_eq_of_some hr]; exact not_lt.mp hcovered) rfl hfits (by simp) _ (Function.update_self ..)
  · intro key hclaim hcount
    rw [Function.update_of_ne hclaim, Function.update_of_ne hcount]
  · by_contra hthere
    exact absurd (hs.claims_numbered _ hthere) (lt_irrefl _)

theorem judged_of_save {id : U64} {c c' : ClaimInfo} (hs : Filed s) (hmoves : moves_nothing call = true)
    (hclaim : s (.InsuranceClaim id) = some c)
    (hopen : is_open c.status = true) (hstays : is_open c'.status = true)
    (hc' : c' = { c with status := c'.status, approvals := c'.approvals, slash_bps := c'.slash_bps,
                         slashed_amount := c'.slashed_amount })
    (hsave : save_claim c' env s = .ok ((), s')) : Outcome env s call s' := by
  have hs' : s' = Function.update s (.InsuranceClaim c'.claim_id) (some c') := save_claim_eq_ok.mp hsave
  have hid : c'.claim_id = id := by
    rw [hc']
    exact hs.claims id c hclaim
  rw [hid] at hs'
  apply Outcome.judged hmoves hclaim hopen hstays
  · rw [hs', Function.update_self]
    exact congrArg some hc'
  · intro key hkey
    rw [hs', Function.update_of_ne hkey]

/-- **What a successful call does.** -/
theorem outcome_of_exec (hs : Filed s) (h : exec call env s = .ok ((), s')) : Outcome env s call s' := by
  cases call with
  | initialize_insurance =>
      simp only [exec, initialize_insurance, bind_eq_ok, HostCalls.require_auth_eq_ok, load_eq_ok, panic_if_eq_ok,
        save_eq_ok, and_assoc, exists_and_left, exists_eq_left, exists_const, Bool.not_eq_true,
        Option.isSome_eq_false_iff, Option.isNone_iff_eq_none] at h
      obtain ⟨-, hnone, rfl⟩ := h
      apply Outcome.opened hnone (by simp)
      intro key hkey
      simp only [List.mem_cons, List.not_mem_nil, or_false, not_or] at hkey
      rw [Function.update_of_ne hkey.2.2.2, Function.update_of_ne hkey.2.2.1, Function.update_of_ne hkey.2.1,
        Function.update_of_ne hkey.1]
  | configure_governance =>
      simp only [exec, configure_governance, bind_eq_ok, require_admin_eq_ok, panic_if_eq_ok, save_eq_ok, and_assoc,
        exists_and_left, exists_eq_left, exists_const] at h
      obtain ⟨-, hadmin, -, -, rfl⟩ := h
      exact .governed (by rw [hadmin]; simp) fun key hkey => Function.update_of_ne hkey _ _
  | configure_payout_caps =>
      simp only [exec, configure_payout_caps, bind_eq_ok, require_admin_eq_ok, panic_if_eq_ok, save_eq_ok, and_assoc,
        exists_and_left, exists_eq_left, exists_const] at h
      obtain ⟨-, hadmin, -, -, -, hsecs, rfl⟩ := h
      exact .capped (by rw [hadmin]; simp) hsecs (Function.update_self ..) fun key hkey => Function.update_of_ne hkey _ _
  | create_pool _ p code rate risk =>
      simp only [exec, create_pool, bind_eq_ok, require_admin_eq_ok, panic_if_eq_ok, load_eq_ok, save_eq_ok, and_assoc,
        exists_and_left, exists_eq_left, exists_const] at h
      obtain ⟨-, hadmin, -, -, rfl⟩ := h
      refine @Outcome.rated _ _ _ p code rate risk _ rfl (by rw [hadmin]; simp) ?_ ?_
      · rw [Function.update_self, pool]
        cases s (.CoveragePool p) <;> rfl
      · exact fun key hkey => Function.update_of_ne hkey _ _
  | set_risk_score _ p risk =>
      simp only [exec, set_risk_score, bind_eq_ok, require_admin_eq_ok, panic_if_eq_ok, load_pool_eq_ok, save_eq_ok,
        and_assoc, exists_and_left, exists_eq_left, exists_const] at h
      obtain ⟨-, hadmin, -, r, hr, rfl⟩ := h
      refine @Outcome.rated _ _ _ p r.asset_code r.premium_rate_bps risk _ rfl (by rw [hadmin]; simp) ?_ ?_
      · rw [Function.update_self, pool_eq_of_some hr]
      · exact fun key hkey => Function.update_of_ne hkey _ _
  | stake_liquidity => exact staked_of_ok hs h
  | request_withdrawal =>
      simp only [exec, bind_eq_ok, pure_eq_ok] at h
      obtain ⟨id, s₁, hok, -, rfl⟩ := h
      exact requested_of_ok hs hok
  | execute_withdrawal =>
      simp only [exec, bind_eq_ok, pure_eq_ok] at h
      obtain ⟨amount, s₁, hok, -, rfl⟩ := h
      exact withdrawn_of_ok hs hok
  | purchase_coverage =>
      simp only [exec, bind_eq_ok, pure_eq_ok] at h
      obtain ⟨premium, s₁, hok, -, rfl⟩ := h
      exact purchased_of_ok hs hok
  | submit_claim =>
      simp only [exec, bind_eq_ok, pure_eq_ok] at h
      obtain ⟨id, s₁, hok, -, rfl⟩ := h
      exact submitted_of_ok hs hok
  | verify_claim =>
      simp only [exec, verify_claim, bind_eq_ok, require_admin_eq_ok, load_claim_eq_ok, panic_if_eq_ok, ite_eq_ok,
        and_assoc, exists_and_left, exists_eq_left, exists_const, not_not, ne_eq, Bool.not_eq_true] at h
      obtain ⟨-, -, c, hclaim, hstatus, ⟨hvalid, hsave⟩ | ⟨rfl, hreject⟩⟩ := h
      · exact judged_of_save hs hvalid hclaim (by rw [hstatus]; rfl) rfl rfl hsave
      · exact rejected_of_ok hs hclaim (by rw [hstatus]; rfl) hreject
  | approve_claim approver =>
      simp only [exec, approve_claim, bind_eq_ok, HostCalls.require_auth_eq_ok, load_governance_eq_ok, load_claim_eq_ok,
        panic_if_eq_ok, push_back_eq_ok, and_assoc, exists_and_left, exists_eq_left, exists_const] at h
      obtain ⟨-, g, -, -, c, hclaim, hstatus, -, -, hsave⟩ := h
      have hopen : is_open c.status = true := by
        rcases c with ⟨_, _, _, _, _, status, _, _, _, _⟩
        cases status <;> simp_all [is_open]
      refine judged_of_save hs rfl hclaim hopen ?_ rfl hsave
      by_cases hreached : len (c.approvals ++ [approver]) ≥ g.approval_threshold
      · simp [hreached, is_open]
      · simpa [hreached] using hopen
  | execute_payout =>
      simp only [exec, execute_payout, bind_eq_ok, require_admin_eq_ok, load_claim_eq_ok, panic_if_eq_ok, pure_eq_ok,
        and_assoc, exists_and_left, exists_eq_left, exists_const] at h
      obtain ⟨-, -, paid, s₁, ⟨c, hclaim, hstatus, hpay⟩, -, rfl⟩ := h
      exact .paid hclaim (by tauto) (tranche_of_ok hs hpay)
  | process_payout_queue =>
      simp only [exec, process_payout_queue, bind_eq_ok, require_admin_eq_ok, load_payout_queue_eq_ok, pure_eq_ok,
        and_assoc, exists_and_left, exists_eq_left, exists_const] at h
      obtain ⟨-, -, total, s₁, hpay, -, rfl⟩ := h
      exact .queue_paid (queue_paid_of_ok hs hpay)
  | claim_premium =>
      simp only [exec, bind_eq_ok, pure_eq_ok] at h
      obtain ⟨amount, s₁, hok, -, rfl⟩ := h
      exact premium_claimed_of_ok hs hok

/-! ## The records stay filed -/

theorem Moved.filed {a : Address} {p : SString} {dx dp : ℤ} {others : List DataKey} (hs : Filed s)
    (h : Moved s s' a p dx dp others) (hadmin : DataKey.Admin ∉ others)
    (hrecords : ∀ key ∈ others, ∀ v, s' key = some v → FiledUnder key v)
    (hclaims : ∀ id, DataKey.InsuranceClaim id ∈ others → s (.InsuranceClaim id) ≠ none)
    (hrequests : ∀ id, DataKey.WithdrawalRequest id ∈ others →
      s (.WithdrawalRequest id) ≠ none ∨ id.toNat < request_count s')
    (hclaim_count : DataKey.ClaimCount ∉ others) (hrequest_count : request_count s ≤ request_count s') : Filed s' := by
  apply hs.step
  · intro key v hv
    by_cases hposition : key = .StakerPosition a p
    · subst hposition
      obtain ⟨q, hq, hstaker, hpool_id, -⟩ := h.position_eq
      rw [hq, Option.some.injEq] at hv
      right
      rw [← hv]
      exact ⟨hstaker, hpool_id⟩
    by_cases hpool : key = .CoveragePool p
    · subst hpool
      obtain ⟨rejected, hr⟩ := h.pool_eq
      rw [hr, Option.some.injEq] at hv
      right
      rw [← hv]
      exact hs.pool_id_eq
    by_cases hkey : key ∈ others
    · exact Or.inr (hrecords key hkey v hv)
    · rw [h.frame key hposition hpool hkey] at hv
      exact Or.inl hv
  · intro id hid
    by_cases hkey : DataKey.InsuranceClaim id ∈ others
    · exact Or.inl (hclaims id hkey)
    · rw [h.frame _ (by simp) (by simp) hkey] at hid
      exact Or.inl hid
  · intro id hid
    by_cases hkey : DataKey.WithdrawalRequest id ∈ others
    · exact hrequests id hkey
    · rw [h.frame _ (by simp) (by simp) hkey] at hid
      exact Or.inl hid
  · refine ⟨?_, hrequest_count⟩
    rw [claim_count, claim_count, h.frame _ (by simp) (by simp) hclaim_count]
  · rw [h.frame _ (by simp) (by simp) hadmin]
    exact hs.admin_of_pool h.known

theorem QueuePaid.filed {now : U64} {ids : List U64} {total : ℤ} (hs : Filed s) (h : QueuePaid now s ids total s') :
    Filed s' := by
  induction h with
  | done => exact hs
  | skip _ _ _ ih => exact ih hs
  | stop hclaim _ htranche => exact htranche.filed hs (by rw [hs.claims _ _ hclaim, hclaim])
  | pay hclaim _ htranche _ _ ih => exact ih (htranche.filed hs (by rw [hs.claims _ _ hclaim, hclaim]))

/-- The records of one key change. -/
theorem Filed.step_key (hs : Filed s) {key : DataKey} (hframe : ∀ k, k ≠ key → s' k = s k) (hadmin : s .Admin ≠ none)
    (hkey : key ≠ .Admin ∧ key ≠ .ClaimCount ∧ key ≠ .WithdrawalCount)
    (hfiled : ∀ v, s' key = some v → FiledUnder key v)
    (hclaims : ∀ id, key = .InsuranceClaim id → s key ≠ none) (hrequests : ∀ id, key ≠ .WithdrawalRequest id) :
    Filed s' := by
  apply hs.step
  · intro k v hv
    by_cases hk : k = key
    · subst hk
      exact Or.inr (hfiled v hv)
    · rw [hframe k hk] at hv
      exact Or.inl hv
  · intro id hid
    by_cases hk : DataKey.InsuranceClaim id = key
    · rw [hk]
      exact Or.inl (hclaims id hk.symm)
    · rw [hframe _ hk] at hid
      exact Or.inl hid
  · intro id hid
    rw [hframe _ (hrequests id).symm] at hid
    exact Or.inl hid
  · rw [claim_count, claim_count, request_count, request_count, hframe _ hkey.2.1.symm, hframe _ hkey.2.2.symm]
    exact ⟨le_refl _, le_refl _⟩
  · rwa [hframe _ hkey.1.symm]

theorem toNat_succ {n : U64} (h : n.toNat + 1 < 2 ^ 64) : (n + 1).toNat = n.toNat + 1 := by
  rw [UInt64.toNat_add, show UInt64.toNat 1 = 1 from rfl, Nat.mod_eq_of_lt h]

/-- **The records stay filed.** -/
theorem filed_step (hs : Filed s) (h : Outcome env s call s') : Filed s' := by
  cases h with
  | opened hnone hadmin hframe =>
      -- There is no record yet that has to be filed.
      obtain ⟨hpools, hclaims, hrequests⟩ := hs.unopened hnone
      refine ⟨?_, ?_, ?_, ?_⟩
      · intro key v hv
        by_cases hkey : key ∈ [DataKey.Admin, .Governance, .ClaimCount, .WithdrawalCount]
        · simp only [List.mem_cons, List.not_mem_nil, or_false] at hkey
          rcases hkey with rfl | rfl | rfl | rfl <;> exact trivial
        · rw [hframe key hkey] at hv
          exact hs.records key v hv
      · intro id hid
        rw [hframe _ (by simp), hclaims] at hid
        exact absurd rfl hid
      · intro id hid
        rw [hframe _ (by simp), hrequests] at hid
        exact absurd rfl hid
      · intro hnone'
        rw [hadmin] at hnone'
        cases hnone'
  | governed hadmin hframe | capped hadmin _ _ hframe =>
      exact hs.step_key hframe hadmin (by simp) (fun _ _ => trivial) (by simp) (by simp)
  | @rated _ _ _ _ _ _ _ hadmin hpool hframe =>
      apply hs.step_key hframe hadmin (by simp) _ (by simp) (by simp)
      intro v hv
      rw [hpool, Option.some.injEq] at hv
      rw [← hv]
      exact hs.pool_id_eq
  | staked _ _ hmoved | premium_claimed hmoved =>
      exact hmoved.filed hs (by simp) (by simp) (by simp) (by simp) (by simp) (by simp [request_count, hmoved.frame])
  | @requested _ _ _ _ _ _ _ _ hmoved hid hfits hcount =>
      have hnext : request_count s' = request_count s + 1 := by
        rw [request_count, hcount, Option.getD_some, toNat_succ hfits, hid, request_count]
      refine hmoved.filed hs (by simp) ?_ (by simp) ?_ (by simp) (by omega)
      · intro key hkey v _
        simp only [List.mem_cons, List.not_mem_nil, or_false] at hkey
        rcases hkey with rfl | rfl <;> exact trivial
      · intro id' hid'
        simp only [List.mem_cons, List.not_mem_nil, or_false, DataKey.WithdrawalRequest.injEq, reduceCtorEq] at hid'
        right
        rw [hnext, hid', hid, request_count]
        exact Nat.lt_succ_self _
  | @withdrawn _ _ _ _ _ hrequest _ _ _ _ _ hmoved =>
      refine hmoved.filed hs (by simp) ?_ (by simp) ?_ (by simp) (by simp [request_count, hmoved.frame])
      · intro key hkey v _
        obtain rfl := List.mem_singleton.mp hkey
        exact trivial
      · intro id' hid'
        simp only [List.mem_singleton, DataKey.WithdrawalRequest.injEq] at hid'
        rw [hid', hrequest]
        exact Or.inl (by simp)
  | @purchased _ _ _ _ _ _ _ _ hknown _ _ _ hpool hframe =>
      apply hs.step_key hframe (hs.admin_of_pool hknown) (by simp) _ (by simp) (by simp)
      intro v hv
      rw [hpool, Option.some.injEq] at hv
      rw [← hv]
      exact hs.pool_id_eq
  | @submitted _ _ _ _ id _ _ hknown _ hid hfits hcount _ hclaim hframe =>
      have hnext : claim_count s' = claim_count s + 1 := by
        rw [claim_count, hcount, Option.getD_some, toNat_succ hfits, hid, claim_count]
      apply hs.step
      · intro key v hv
        by_cases hkey : key = .InsuranceClaim id
        · subst hkey
          rw [hclaim, Option.some.injEq] at hv
          right
          rw [← hv]
          rfl
        by_cases hcount_key : key = .ClaimCount
        · subst hcount_key
          exact Or.inr trivial
        · rw [hframe key hkey hcount_key] at hv
          exact Or.inl hv
      · intro id' hid'
        by_cases hsame : id' = id
        · right
          rw [hnext, hsame, hid, claim_count]
          exact Nat.lt_succ_self _
        · rw [hframe _ (by simpa using hsame) (by simp)] at hid'
          exact Or.inl hid'
      · intro id' hid'
        rw [hframe _ (by simp) (by simp)] at hid'
        exact Or.inl hid'
      · refine ⟨by omega, ?_⟩
        rw [request_count, request_count, hframe _ (by simp) (by simp)]
      · rw [hframe _ (by simp) (by simp)]
        exact hs.admin_of_pool hknown
  | @judged _ id c _ _ _ _ _ _ hclaim _ _ hclaim' hframe =>
      apply hs.step_key hframe (hs.admin_of_claim hclaim) (by simp) _ _ (by simp)
      · intro v hv
        rw [hclaim', Option.some.injEq] at hv
        rw [← hv]
        exact hs.claims id c hclaim
      · intro id' hid'
        rw [hclaim]
        simp
  | @rejected _ id _ c _ _ hclaim _ hmoved hclaim' =>
      refine hmoved.filed hs (by simp) ?_ ?_ (by simp) (by simp) (by simp [request_count, hmoved.frame])
      · intro key hkey v hv
        rw [List.mem_singleton] at hkey
        subst hkey
        rw [hclaim', Option.some.injEq] at hv
        rw [← hv]
        exact hs.claims id c hclaim
      · intro id' hid'
        rw [List.mem_singleton.mp hid', hclaim]
        simp
  | paid hclaim _ htranche => exact htranche.filed hs (by rw [hs.claims _ _ hclaim, hclaim])
  | queue_paid hpaid => exact hpaid.filed hs

theorem filed_empty : Filed empty_storage where
  records := fun _ _ h => by cases h
  claims_numbered := fun _ h => absurd rfl h
  requests_numbered := fun _ h => absurd rfl h
  unopened := fun _ => ⟨fun _ => rfl, fun _ => rfl, fun _ => rfl⟩

end Calls

/-! ## Runs -/

section Runs

variable {s : InsuranceStorage} {calls : List (Env × EntryPoint)}

/-- **The invariant rule**, with what each call does at hand. -/
theorem run_outcome {C : InsuranceStorage → Env × EntryPoint → Prop} {I : InsuranceStorage → Prop}
    (hstep : ∀ {s env call s'}, Filed s → I s → C s (env, call) → Outcome env s call s' → I s')
    (hfiled : Filed s) (hs : I s) (hcalls : Along exec C s calls) : Filed (run s calls) ∧ I (run s calls) := by
  apply run_invariant (I := fun s => Filed s ∧ I s) _ ⟨hfiled, hs⟩ hcalls
  rintro s ⟨env, call⟩ s' ⟨hfiled, hs⟩ hcall h
  have houtcome := outcome_of_exec hfiled h
  exact ⟨filed_step hfiled houtcome, hstep hfiled hs hcall houtcome⟩

/-- **The invariant rule with a log** of what the calls that go through are. -/
theorem run_outcome_log {β : Type} {emit : EntryPoint → List β} {C : InsuranceStorage → Env × EntryPoint → Prop}
    {I : InsuranceStorage → List β → Prop}
    (hstep : ∀ {s env call s' log}, Filed s → I s log → C s (env, call) → Outcome env s call s' →
      I s' (log ++ emit call))
    (hfiled : Filed s) (hs : I s []) (hcalls : Along exec C s calls) : I (run s calls) (gather exec emit s calls) := by
  refine (run_gather_invariant (I := fun s log => Filed s ∧ I s log) ?_ ⟨hfiled, hs⟩ hcalls).2
  rintro s ⟨env, call⟩ s' log ⟨hfiled, hs⟩ hcall h
  have houtcome := outcome_of_exec hfiled h
  exact ⟨filed_step hfiled houtcome, hstep hfiled hs hcall houtcome⟩

theorem run_filed : Filed (run empty_storage calls) :=
  (run_outcome (C := fun _ _ => True) (I := fun _ => True) (fun _ _ _ _ => trivial) filed_empty trivial
    (Along.of_forall fun _ _ _ => trivial)).1

end Runs

end BridgeWatch.Insurance

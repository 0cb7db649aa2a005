/-
What the calls of the fee distribution write.

The families of the keys, and for each function the families that it may write. The records of the stakers,
the pools, the schedules and the balances are told apart; the settings and the counters are not.
-/
import BridgeWatch.FeeDistribution

set_option autoImplicit false
set_option synthInstance.maxSize 2048

namespace BridgeWatch.FeeDistribution

open Transaction CheckedIntegers HostCalls
open Contract (U32 U64 Address Env saturating_add_u64 saturating_sub_u64)

/-! ## Families of keys -/

inductive Tag where
  | Admin | Tokens | FeePool | StakerAmount | StakerDebt | StakerPending | Vesting | Balance | Setting
  deriving DecidableEq

/-- The family of a key. -/
@[reducible] def DataKey.tag : DataKey → Tag
  | .Admin => .Admin
  | .Tokens => .Tokens
  | .FeePool _ => .FeePool
  | .StakerAmount _ => .StakerAmount
  | .StakerDebt _ _ => .StakerDebt
  | .StakerPending _ _ => .StakerPending
  | .Vesting _ => .Vesting
  | .Balance _ _ => .Balance
  | .Treasury | .StakingToken | .TotalStaked | .Ratios | .StakerTime _ | .StakerCompound _ | .VestingCount
  | .Distribution _ | .DistributionCount | .Collectors | .Emergency | .DistributionInterval
  | .LastAutoDistribution | .MinDisbursement | .TreasuryBuffer _ => .Setting

instance : Tagged DataKey Tag := ⟨DataKey.tag⟩

instance {ts : List Tag} (key : DataKey) (value : key.Val) [h : Among key.tag ts] : Writes ts (set key value) :=
  have : Among (Tagged.tag key) ts := h
  inferInstance

instance {ts : List Tag} (key : DataKey) [h : Among key.tag ts] : Writes ts (remove key : Fees Unit) :=
  have : Among (Tagged.tag key) ts := h
  inferInstance

section Loops

variable {α : Type} {ts : List Tag} {I : FeeStorage → Prop}

instance (f : α → Fees Unit) [hf : ∀ a, Writes ts (f a)] (l : List α) : Writes ts (l.forM f) := by
  induction l with
  | nil =>
      rw [List.forM_eq_forM, List.forM_nil]
      infer_instance
  | cons _ _ ih =>
      rw [List.forM_eq_forM] at ih ⊢
      rw [List.forM_cons]
      infer_instance

end Loops

/-! ## Footprints -/

section Footprints

variable [Deployed] {ts : List Tag}

instance (address : Address) : Writes ts (require_auth address) := by
  unfold require_auth HostCalls.require_auth
  infer_instance

instance (x y : U32) (msg : String) : Writes ts (checked_add_u32 x y msg : Fees U32) := by
  unfold checked_add_u32
  infer_instance

instance {α : Type} (values : List α) (value : α) : Writes ts (push_back values value : Fees (List α)) := by
  unfold push_back
  infer_instance

instance (token sender recipient : Address) (amount : ℤ) :
    Writes (.Balance :: ts) (transfer token sender recipient amount) := by
  unfold transfer
  infer_instance

instance : Writes ts min_disbursement := by
  unfold min_disbursement
  infer_instance

instance : Writes ts require_admin := by
  unfold require_admin
  infer_instance

instance : Writes ts require_not_emergency := by
  unfold require_not_emergency
  infer_instance

instance : Writes ts ensure_not_emergency := by
  unfold ensure_not_emergency
  infer_instance

instance (token : Address) : Writes ts (ensure_token_supported token) := by
  unfold ensure_token_supported
  infer_instance

instance (ratios : DistributionRatios) : Writes ts (validate_ratios ratios) := by
  unfold validate_ratios
  infer_instance

instance (amount : ℤ) (bps : U32) : Writes ts (bps_of amount bps) := by
  unfold bps_of
  infer_instance

instance (staker token : Address) (stake : ℤ) :
    Writes [.StakerPending, .StakerDebt] (harvest_token staker stake token) := by
  unfold harvest_token
  dsimp only
  infer_instance

instance (staker : Address) (tokens : List Address) :
    Writes [.StakerPending, .StakerDebt] (harvest_rewards staker tokens) := by
  unfold harvest_rewards
  infer_instance

instance (staker token : Address) (new_stake : ℤ) : Writes [.StakerDebt] (sync_debt staker new_stake token) := by
  unfold sync_debt
  infer_instance

instance (staker : Address) (new_stake : ℤ) (tokens : List Address) :
    Writes [.StakerDebt] (sync_debts staker new_stake tokens) := by
  unfold sync_debts
  infer_instance

instance (pool : FeePool) (total_staked stakers_amt : ℤ) :
    Writes ts (credit_stakers pool total_staked stakers_amt) := by
  unfold credit_stakers
  infer_instance

instance (terms : Terms) (token : Address) (treasury_amt : ℤ) :
    Writes [.Balance, .Setting] (sweep_treasury terms token treasury_amt) := by
  unfold sweep_treasury
  infer_instance

instance (terms : Terms) (token : Address) (pool : FeePool) (distribution_count : U32) :
    Writes [.Balance, .Setting, .FeePool] (distribute_pool terms token pool distribution_count) := by
  have hsweep (treasury_amt : ℤ) : Writes [.Balance, .Setting, .FeePool] (sweep_treasury terms token treasury_amt) :=
    Writes.mono [.Balance, .Setting] inferInstance
  unfold distribute_pool
  dsimp only
  infer_instance

instance (terms : Terms) (token : Address) (distribution_count : U32) :
    Writes [.Balance, .Setting, .FeePool] (distribute_token terms token distribution_count) := by
  unfold distribute_token
  infer_instance

instance (terms : Terms) (tokens : List Address) (distribution_count : U32) :
    Writes [.Balance, .Setting, .FeePool] (distribute_tokens terms tokens distribution_count) := by
  induction tokens generalizing distribution_count with
  | nil | cons =>
      unfold distribute_tokens
      infer_instance

instance (tokens : List Address) : Writes [.Balance, .Setting, .FeePool] (do_distribute tokens) := by
  unfold do_distribute
  infer_instance

instance : Writes [.Balance, .Setting, .FeePool] maybe_auto_distribute := by
  unfold maybe_auto_distribute
  infer_instance

/-- The families that a call may write. -/
def writes : EntryPoint → List Tag
  | .initialize_fee_distribution .. => [.Admin, .Tokens, .Setting]
  | .add_fee_token _ => [.Tokens, .FeePool]
  | .update_ratios _ | .add_collector _ | .remove_collector _ | .set_distribution_interval _
  | .set_min_disbursement_threshold _ | .update_treasury _ | .set_emergency _ => [.Setting]
  | .flush_treasury_buffer _ | .emergency_withdraw .. => [.Balance, .Setting]
  | .collect_fees .. | .distribute_fees _ => [.Balance, .Setting, .FeePool]
  | .stake_for_fees .. | .unstake .. | .claim_fees .. | .compound_rewards .. =>
      [.Balance, .Setting, .StakerAmount, .StakerPending, .StakerDebt]
  | .create_vesting_schedule .. => [.Setting, .FeePool, .Vesting]
  | .claim_vested _ => [.Balance, .Vesting]

instance (staker : Address) (pending : ℤ) (tokens : List Address) :
    Writes [.Balance, .Setting, .StakerAmount, .StakerPending, .StakerDebt] (restake staker pending tokens) := by
  have hsync (new_stake : ℤ) : Writes [.Balance, .Setting, .StakerAmount, .StakerPending, .StakerDebt]
      (sync_debts staker new_stake tokens) := Writes.mono [.StakerDebt] inferInstance
  unfold restake
  infer_instance

instance (schedule : VestingSchedule) (elapsed : U64) : Writes ts (vested_total schedule elapsed) := by
  unfold vested_total
  infer_instance

theorem perform_writes (call : EntryPoint) : Writes (writes call) (perform call) := by
  have hsync (staker : Address) (new_stake : ℤ) (tokens : List Address) :
      Writes [.Balance, .Setting, .StakerAmount, .StakerPending, .StakerDebt] (sync_debts staker new_stake tokens) :=
    Writes.mono [.StakerDebt] inferInstance
  have hharvest (staker : Address) (tokens : List Address) :
      Writes [.Balance, .Setting, .StakerAmount, .StakerPending, .StakerDebt] (harvest_rewards staker tokens) :=
    Writes.mono [.StakerPending, .StakerDebt] inferInstance
  cases call
  case initialize_fee_distribution =>
    unfold perform silently initialize_fee_distribution writes
    infer_instance
  case update_ratios =>
    unfold perform silently update_ratios writes
    infer_instance
  case add_fee_token =>
    unfold perform silently add_fee_token writes
    infer_instance
  case add_collector =>
    unfold perform silently add_collector writes
    infer_instance
  case remove_collector =>
    unfold perform silently remove_collector writes
    infer_instance
  case set_distribution_interval =>
    unfold perform silently set_distribution_interval writes
    infer_instance
  case set_min_disbursement_threshold =>
    unfold perform silently set_min_disbursement_threshold writes
    infer_instance
  case flush_treasury_buffer =>
    unfold perform flush_treasury_buffer writes
    infer_instance
  case update_treasury =>
    unfold perform silently update_treasury writes
    infer_instance
  case collect_fees =>
    unfold perform collect_fees writes
    infer_instance
  case distribute_fees =>
    unfold perform distribute_fees writes
    infer_instance
  case stake_for_fees =>
    unfold perform silently stake_for_fees writes
    infer_instance
  case unstake =>
    unfold perform silently unstake writes
    infer_instance
  case claim_fees =>
    unfold perform claim_fees writes
    infer_instance
  case compound_rewards =>
    unfold perform compound_rewards writes
    infer_instance
  case create_vesting_schedule =>
    unfold perform silently create_vesting_schedule writes
    infer_instance
  case claim_vested =>
    unfold perform silently claim_vested writes
    infer_instance
  case set_emergency =>
    unfold perform silently set_emergency writes
    infer_instance
  case emergency_withdraw =>
    unfold perform silently emergency_withdraw writes
    infer_instance

/-- A call leaves the other families alone. -/
theorem exec_frame {call : EntryPoint} {env : Env} {s s' : FeeStorage} (h : exec call env s = .ok ((), s'))
    {key : DataKey} (hkey : key.tag ∉ writes call) : s' key = s key := by
  obtain ⟨done, s₁, hperform, hs⟩ := bind_eq_ok.mp h
  rw [(pure_eq_ok.mp hs).2]
  exact (perform_writes call).frame hperform key hkey

end Footprints

end BridgeWatch.FeeDistribution

/-
What the premiums give the stakers.

The premium accounting is that of dividends per share: `acc_premium_per_share` is the accumulator, the reward
debt the debt of the account, and a purchase grants its premium. A movement settles the account and gives it
another stake, and then the debt is rounded down as well. So what a new stake has not earned may be given to
it, up to a unit each time, unless the rounding drops no more of the new stake's earnings than it dropped of
the old one's.
-/
import BridgeWatch.DividendPerShare
import BridgeWatch.InsuranceBacking

set_option autoImplicit false

namespace BridgeWatch.Insurance

open Transaction CheckedIntegers HostCalls Totals DividendPerShare
open Contract (U32 U64 SString Address Env str)

/-- The staker's account of premiums. -/
def account (s : InsuranceStorage) (p : SString) (a : Address) : Account :=
  { stake := (position s a p).staked_amount
    debt := (position s a p).reward_debt
    credited := (position s a p).accrued_premium + (position s a p).claimed_premium }

/-- What the staker was given, and what a settlement would give. -/
def premium_share (s : InsuranceStorage) (p : SString) (a : Address) : ℤ :=
  (position s a p).claimed_premium + (position s a p).accrued_premium +
    ((position s a p).staked_amount * (pool s p).acc_premium_per_share / 1000000000 - (position s a p).reward_debt)

/-- The stakers together are given no more than the premiums. -/
def PremiumsCover (s : InsuranceStorage) (p : SString) : Prop :=
  ∃ t, HasTotal (premium_share s p) t ∧ t ≤ (pool s p).premium_collected_total

/-- What the rounding drops of the earnings of a stake. -/
def dropped (s : InsuranceStorage) (p : SString) (stake : ℤ) : ℤ :=
  stake * (pool s p).acc_premium_per_share % 1000000000

/-- A change of a stake drops no more of the earnings of the new one. -/
def rounds_fairly (s : InsuranceStorage) (call : Env × EntryPoint) : Bool :=
  match call.2 with
  | .stake_liquidity a p amount =>
    amount ≤ 0 || dropped s p ((position s a p).staked_amount + amount) ≤ dropped s p (position s a p).staked_amount
  | .request_withdrawal a p amount =>
    amount ≤ 0 || (position s a p).staked_amount < amount ||
      dropped s p ((position s a p).staked_amount - amount) ≤ dropped s p (position s a p).staked_amount
  | .verify_claim _ id false slash_bps =>
    match s (.InsuranceClaim id) with
    | some c => !is_open c.status || dropped s c.pool_id ((position s c.claimant c.pool_id).staked_amount -
        loss c.amount slash_bps (position s c.claimant c.pool_id).staked_amount) ≤
          dropped s c.pool_id (position s c.claimant c.pool_id).staked_amount
    | none => true
  | _ => true

section Shares

variable {env : Env} {s s' : InsuranceStorage} {call : EntryPoint} {p : SString} {a : Address}

theorem claim_account : (account s p a).claim REWARD_SCALE (pool s p).acc_premium_per_share = premium_share s p a := by
  rw [Account.claim, account, premium_share, REWARD_SCALE]
  dsimp only
  omega

/-- What a call does to the accounts of the pool: nothing, or one is settled and given another stake, or a premium
is granted. -/
inductive SharesStep (s s' : InsuranceStorage) (p : SString) (C : Prop) : Prop
  | kept (hpositions : ∀ a, position s' a p = position s a p)
      (hacc : (pool s' p).acc_premium_per_share = (pool s p).acc_premium_per_share)
      (hpremium : (pool s' p).premium_collected_total = (pool s p).premium_collected_total)
  | moved {a : Address} {dx dp : ℤ} {others : List DataKey} (hmoved : Moved s s' a p dx dp others)
      (hothers : ∀ a p, DataKey.StakerPosition a p ∉ others) (hstake : 0 ≤ (position s a p).staked_amount + dx)
      (hfair : C → dropped s p ((position s a p).staked_amount + dx) ≤ dropped s p (position s a p).staked_amount)
  | granted {premium : ℤ} (hpremium : 0 ≤ premium) (hpositions : ∀ a, position s' a p = position s a p)
      (hacc : (pool s' p).acc_premium_per_share =
        (pool s p).acc_premium_per_share + premium_per_share premium (pool s p).staked_liquidity)
      (htotal : (pool s' p).premium_collected_total = (pool s p).premium_collected_total + premium)

theorem SharesStep.of_same {C : Prop} (hpositions : ∀ a, position s' a p = position s a p) (hpool : pool s' p = pool s p) :
    SharesStep s s' p C :=
  .kept hpositions (by rw [hpool]) (by rw [hpool])

/-- A movement, seen from any pool. -/
theorem SharesStep.of_moved {C : Prop} {p' : SString} {dx dp : ℤ} {others : List DataKey}
    (h : Moved s s' a p' dx dp others) (hothers : ∀ a p, DataKey.StakerPosition a p ∉ others)
    (hpools : ∀ p, DataKey.CoveragePool p ∉ others) (hstake : 0 ≤ (position s a p').staked_amount + dx)
    (hfair : C → dropped s p' ((position s a p').staked_amount + dx) ≤ dropped s p' (position s a p').staked_amount) :
    SharesStep s s' p C := by
  by_cases hp : p = p'
  · rw [hp]
    exact .moved h hothers hstake hfair
  · apply SharesStep.of_same _ (h.pool_of_ne hp (hpools p))
    exact fun b => h.position_of_ne (fun heq => hp heq.2) (hothers b p)

theorem Tranche.shares {now : U64} {c : ClaimInfo} {paid : ℤ} (h : Tranche now s c paid s') :
    (∀ a, position s' a p = position s a p) ∧
      (pool s' p).acc_premium_per_share = (pool s p).acc_premium_per_share ∧
      (pool s' p).premium_collected_total = (pool s p).premium_collected_total := by
  refine ⟨fun a => position_congr (h.frame _ (by simp) (by simp) (by simp) (by simp)), ?_⟩
  by_cases hp : p = c.pool_id
  · rw [hp, pool_eq_of_some h.pool_eq]
    exact ⟨rfl, rfl⟩
  · rw [pool_congr (h.frame _ (by simpa using hp) (by simp) (by simp) (by simp))]
    exact ⟨rfl, rfl⟩

theorem QueuePaid.shares {now : U64} {ids : List U64} {total : ℤ} (h : QueuePaid now s ids total s') :
    (∀ a, position s' a p = position s a p) ∧
      (pool s' p).acc_premium_per_share = (pool s p).acc_premium_per_share ∧
      (pool s' p).premium_collected_total = (pool s p).premium_collected_total := by
  induction h with
  | done => exact ⟨fun _ => rfl, rfl, rfl⟩
  | skip _ _ _ ih => exact ih
  | stop _ _ htranche => exact htranche.shares
  | pay _ _ htranche _ _ ih =>
      obtain ⟨hpositions, hacc, hpremium⟩ := htranche.shares (p := p)
      exact ⟨fun a => (ih.1 a).trans (hpositions a), ih.2.1.trans hacc, ih.2.2.trans hpremium⟩

theorem shares_step (hs : Counted s) (h : Outcome env s call s') :
    SharesStep s s' p (rounds_fairly s (env, call) = true) := by
  cases h with
  | opened _ _ hframe | governed _ hframe | capped _ _ _ hframe | judged _ _ _ _ _ hframe =>
      exact .of_same (fun a => position_congr (hframe _ (by simp))) (pool_congr (hframe _ (by simp)))
  | @rated _ p' _ _ _ _ _ _ hpool hframe =>
      have hpositions : ∀ a, position s' a p = position s a p := fun a => position_congr (hframe _ (by simp))
      by_cases hp : p = p'
      · subst hp
        exact .kept hpositions (by rw [pool_eq_of_some hpool]) (by rw [pool_eq_of_some hpool])
      · exact .of_same hpositions (pool_congr (hframe _ (by simpa using hp)))
  | staked hpositive _ hmoved =>
      apply SharesStep.of_moved hmoved (by simp) (by simp) (add_nonneg (hs.stakes_nonneg _ _) hpositive.le)
      intro hcall
      simp only [rounds_fairly, Bool.or_eq_true, decide_eq_true_eq] at hcall
      exact hcall.resolve_left (not_le.mpr hpositive)
  | requested _ _ hmoved =>
      apply SharesStep.of_moved hmoved (by simp) (by simp) (by omega)
      intro hcall
      simp only [rounds_fairly, Bool.or_eq_true, decide_eq_true_eq] at hcall
      rw [← sub_eq_add_neg]
      exact hcall.resolve_left (by omega)
  | withdrawn _ _ _ _ _ _ hmoved | premium_claimed hmoved =>
      apply SharesStep.of_moved hmoved (by simp) (by simp)
      · rw [add_zero]
        exact hs.stakes_nonneg _ _
      · intro _
        rw [add_zero]
  | @purchased _ p' _ _ _ _ _ _ _ _ _ hpremium hpool hframe =>
      have hpositions : ∀ a, position s' a p = position s a p := fun a => position_congr (hframe _ (by simp))
      by_cases hp : p = p'
      · subst hp
        exact .granted hpremium hpositions (by rw [pool_eq_of_some hpool]) (by rw [pool_eq_of_some hpool])
      · exact .of_same hpositions (pool_congr (hframe _ (by simpa using hp)))
  | submitted _ _ _ _ _ _ _ _ hframe =>
      exact .of_same (fun a => position_congr (hframe _ (by simp) (by simp))) (pool_congr (hframe _ (by simp) (by simp)))
  | @rejected _ _ bps c _ _ hclaim hopen hmoved =>
      have hloss := loss_le c.amount bps (hs.stakes_nonneg c.claimant c.pool_id)
      apply SharesStep.of_moved hmoved (by simp) (by simp) (by omega)
      intro hcall
      simp only [rounds_fairly, hclaim, hopen, Bool.not_true, Bool.false_or, decide_eq_true_eq] at hcall
      rwa [← sub_eq_add_neg]
  | paid _ _ htranche => exact .kept htranche.shares.1 htranche.shares.2.1 htranche.shares.2.2
  | queue_paid hpaid => exact .kept hpaid.shares.1 hpaid.shares.2.1 hpaid.shares.2.2

/-! ## The accounts -/

/-- The accounts of the pool are sound. -/
def SoundShares (s : InsuranceStorage) (p : SString) : Prop :=
  0 ≤ (pool s p).acc_premium_per_share ∧ ∀ a, (account s p a).Sound REWARD_SCALE (pool s p).acc_premium_per_share

theorem account_congr (h : position s' a p = position s a p) : account s' p a = account s p a := by
  rw [account, h, account]

/-- A movement settles the account and gives it another stake. -/
theorem Moved.account_eq {dx dp : ℤ} {others : List DataKey} (h : Moved s s' a p dx dp others) (hs : SoundShares s p)
    (hstake : 0 ≤ (position s a p).staked_amount + dx) :
    account s' p a =
      (account s p a).rebase REWARD_SCALE (pool s p).acc_premium_per_share ((position s a p).staked_amount + dx) := by
  obtain ⟨q, hq, -, -, hstaked, -, hdebt, hearned⟩ := h.position_eq
  have hposition : position s' a p = q := by rw [position, hq, Option.getD_some]
  have hsound := hs.2 a
  have hold : 0 ≤ (position s a p).staked_amount := hsound.stake_nonneg
  have hreward : ∀ {x}, 0 ≤ x → reward (pool s p).acc_premium_per_share x =
      x * (pool s p).acc_premium_per_share / REWARD_SCALE :=
    fun hx => Int.tdiv_eq_ediv_of_nonneg (mul_nonneg hx hs.1)
  have hdebt_le : (position s a p).reward_debt ≤ reward (pool s p).acc_premium_per_share (position s a p).staked_amount := by
    rw [hreward hold]
    exact hsound.debt_le
  rw [earned, max_eq_right (sub_nonneg.mpr hdebt_le), hreward hold] at hearned
  rw [hreward hstake] at hdebt
  simp only [account, hposition, Account.rebase, Account.settle, hstaked, hdebt, hearned]

/-- The accumulator rises by no more than the stakes can be given of the premium. -/
theorem premium_per_share_fair {premium staked : ℤ} (hpremium : 0 ≤ premium) (hstaked : 0 ≤ staked) :
    0 ≤ premium_per_share premium staked ∧ staked * premium_per_share premium staked ≤ REWARD_SCALE * premium := by
  have hscale : (0 : ℤ) ≤ premium * REWARD_SCALE := mul_nonneg hpremium (by decide)
  unfold premium_per_share
  split_ifs with hpositive
  · rw [Int.tdiv_eq_ediv_of_nonneg hscale, mul_comm REWARD_SCALE]
    exact ⟨Int.ediv_nonneg hscale hstaked, Int.mul_ediv_self_le hpositive.ne'⟩
  · rw [mul_zero]
    exact ⟨le_refl 0, by rwa [mul_comm]⟩

theorem sound_shares_step (hcounted : Counted s) (hs : SoundShares s p) (h : Outcome env s call s') : SoundShares s' p := by
  cases shares_step (p := p) hcounted h with
  | kept hpositions hacc =>
      rw [SoundShares, hacc]
      refine ⟨hs.1, fun a => ?_⟩
      rw [account_congr (hpositions a)]
      exact hs.2 a
  | @moved a _ _ _ hmoved hothers hstake =>
      obtain ⟨rejected, hpool⟩ := hmoved.pool_eq
      rw [SoundShares, pool_eq_of_some hpool]
      refine ⟨hs.1, fun b => ?_⟩
      by_cases hb : b = a
      · rw [hb, hmoved.account_eq hs hstake]
        exact (hs.2 a).rebase hstake
      · rw [account_congr (hmoved.position_of_ne (fun heq => hb heq.1) (hothers b p))]
        exact hs.2 b
  | granted hpremium hpositions hacc =>
      have hstaked := (hcounted.stakes p).nonneg fun a => hcounted.stakes_nonneg a p
      have hfair := premium_per_share_fair hpremium hstaked
      rw [SoundShares, hacc]
      refine ⟨add_nonneg hs.1 hfair.1, fun a => ?_⟩
      rw [account_congr (hpositions a)]
      exact (hs.2 a).raise (by decide) hfair.1

theorem sound_shares_empty : SoundShares empty_storage p :=
  ⟨le_refl 0, fun _ => ⟨le_refl 0, le_refl 0, by simp [account, position, pool, empty_storage, no_position, new_pool]⟩⟩

theorem run_sound_shares {calls : List (Env × EntryPoint)} : SoundShares (run empty_storage calls) p :=
  (run_outcome (C := fun _ _ => True) (I := fun s => Counted s ∧ SoundShares s p)
    (fun _ hs _ h => ⟨counted_step hs.1 h, sound_shares_step hs.1 hs.2 h⟩) filed_empty
    ⟨counted_empty, sound_shares_empty⟩ (Along.of_forall fun _ _ _ => trivial)).2.2

theorem SoundShares.share_nonneg (hs : SoundShares s p) : 0 ≤ premium_share s p a := by
  rw [← claim_account]
  exact (hs.2 a).claim_nonneg

/-! ## The premiums -/

/-- The accounts are worth no more than the premiums. -/
def SolventShares (s : InsuranceStorage) (p : SString) : Prop :=
  Solvent REWARD_SCALE (pool s p).acc_premium_per_share (account s p) (pool s p).premium_collected_total

theorem solvent_shares_step (hcounted : Counted s) (hs : SoundShares s p) (hsolvent : SolventShares s p)
    (hcall : rounds_fairly s (env, call) = true) (h : Outcome env s call s') : SolventShares s' p := by
  cases shares_step (p := p) hcounted h with
  | kept hpositions hacc hpremium =>
      have haccounts : account s' p = account s p := funext fun a => account_congr (hpositions a)
      rw [SolventShares, hacc, hpremium, haccounts]
      exact hsolvent
  | @moved a _ _ _ hmoved hothers hstake hfair =>
      have haccount := hmoved.account_eq hs hstake
      obtain ⟨rejected, hpool⟩ := hmoved.pool_eq
      rw [SolventShares, pool_eq_of_some hpool]
      apply hsolvent.replace a
      · exact fun b hb => account_congr (hmoved.position_of_ne (fun heq => hb heq.1) (hothers b p))
      · rw [haccount]
        exact (hs.2 a).rebase hstake
      · -- The worth moves by the difference of what the rounding drops.
        rw [haccount, Account.worth_rebase]
        have hdropped := hfair hcall
        simp only [dropped] at hdropped
        simp only [account, REWARD_SCALE]
        omega
  | granted hpremium hpositions hacc htotal =>
      have hstaked := (hcounted.stakes p).nonneg fun a => hcounted.stakes_nonneg a p
      have hfair := premium_per_share_fair hpremium hstaked
      have haccounts : account s' p = account s p := funext fun a => account_congr (hpositions a)
      rw [SolventShares, hacc, htotal, haccounts]
      exact hsolvent.grant (by decide) (hcounted.stakes p) hfair.1 hfair.2

theorem SolventShares.cover (h : SolventShares s p) : PremiumsCover s p := by
  obtain ⟨t, ht, hle⟩ := h.claims_le (by decide)
  exact ⟨t, ht.congr fun a => claim_account.symm, hle⟩

/-- **The premium rewards never exceed the premiums** in a run whose changes of stakes round fairly. -/
theorem premiums_cover {calls : List (Env × EntryPoint)}
    (hcalls : Along exec (fun s call => rounds_fairly s call = true) empty_storage calls) :
    PremiumsCover (run empty_storage calls) p := by
  have hempty : SolventShares empty_storage p := solvent_start (by decide)
  exact (run_outcome (I := fun s => Counted s ∧ SoundShares s p ∧ SolventShares s p)
    (fun _ hs hcall h => ⟨counted_step hs.1 h, sound_shares_step hs.1 hs.2.1 h,
      solvent_shares_step hs.1 hs.2.1 hs.2.2 hcall h⟩)
    filed_empty ⟨counted_empty, sound_shares_empty, hempty⟩ hcalls).2.2.2.cover

end Shares

/-- A pool with a premium rate of 50 % and the highest risk, in which three stakers put the same stake, the last two
after a first purchase. -/
def staked_alike (stake cover : ℤ) : List (Env × EntryPoint) :=
  [(signed_at 0, .initialize_insurance (party 0)),
    (signed_at 0, .create_pool (party 0) bridge_pool (str "USDC") 5000 10000),
    (signed_at 0, .stake_liquidity (party 1) bridge_pool stake),
    (signed_at 0, .purchase_coverage (party 9) bridge_pool cover .Aggressive cover),
    (signed_at 0, .stake_liquidity (party 2) bridge_pool stake),
    (signed_at 0, .stake_liquidity (party 3) bridge_pool stake),
    (signed_at 0, .purchase_coverage (party 9) bridge_pool cover .Aggressive cover)]

theorem premiums_cover_staked :
    (pool (run empty_storage (staked_alike 2000 1000)) bridge_pool).premium_collected_total = 280 ∧
      PremiumsCover (run empty_storage (staked_alike 2000 1000)) bridge_pool :=
  ⟨by decide +kernel, premiums_cover (by decide +kernel)⟩

/-- Three stakers of 11 each are given a unit of the two units of premium. -/
theorem premiums_overdrawn :
    ¬ ∀ (calls : List (Env × EntryPoint)) (p : SString), PremiumsCover (run empty_storage calls) p := by
  intro h
  obtain ⟨t, ht, hle⟩ := h (staked_alike 11 8) bridge_pool
  have hshares := ht.list_le (fun a => run_sound_shares.share_nonneg) (l := [party 1, party 2, party 3]) (by decide)
  exact absurd (hshares.trans hle) (by decide +kernel)

end BridgeWatch.Insurance

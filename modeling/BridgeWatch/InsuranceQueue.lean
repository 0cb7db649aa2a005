/-
When the payout queue blocks.

A tranche asserts that what its claim is owed is within the active coverage of the pool, which it then
lowers by what it pays. Claims are admitted one by one against the same coverage, so the claims of a queue may
be owed more than there is, and the assertion of a later one fails; the whole call then fails at it, and
every call after that. As long as each claim, when its first tranche is executed, fits in beside all that is
queued, the queue is owed no more than the coverage, and nothing but an overflow can stop it.
-/
import BridgeWatch.InsuranceBacking
import BridgeWatch.InsuranceSettlement

set_option autoImplicit false

namespace BridgeWatch.Insurance

open Transaction CheckedIntegers HostCalls Totals
open Contract (U32 U64 SString Address Env str)

/-! ## What the queue is owed -/

/-- What the claim is owed from the pool while it is queued. -/
def owed (s : InsuranceStorage) (p : SString) (id : U64) : ℤ :=
  match s (.InsuranceClaim id) with
  | some c => if c.pool_id = p ∧ c.status = .PartiallyPaid then c.amount - c.paid_amount else 0
  | none => 0

/-- All that the queue is owed is covered, and the amounts that a payout works with are in range. -/
structure Reserved (s : InsuranceStorage) : Prop where
  covered : ∀ p, ∃ t, HasTotal (owed s p) t ∧ t ≤ (pool s p).active_coverage
  known : ∀ id c, s (.InsuranceClaim id) = some c → (s (.CoveragePool c.pool_id)).isSome = true
  amounts_fit : ∀ id c, s (.InsuranceClaim id) = some c → c.amount < 2 ^ 127
  coverage_fits : ∀ p, (pool s p).active_coverage < 2 ^ 127
  epochs_nonneg : ∀ p e, s (.PayoutEpoch p) = some e → 0 ≤ e.paid_in_epoch

/-- The amounts of a payout from the pool are `i128`s. -/
structure AmountsFit (now : U64) (s : InsuranceStorage) (p : SString) : Prop where
  claim_cap : FitsI128 ((pool s p).total_liquidity * (caps s).max_claim_fraction_bps.toNat)
  drain_cap : FitsI128 ((pool s p).total_liquidity * (caps s).epoch_drain_cap_bps.toNat)
  budget : FitsI128 ((epoch s now p).opening_liquidity * (caps s).epoch_drain_cap_bps.toNat)
  payouts : (pool s p).payout_total + (pool s p).total_liquidity < 2 ^ 127
  paid : (epoch s now p).paid_in_epoch + (pool s p).total_liquidity < 2 ^ 127

/-- Unless the amounts fit, the arithmetic overflows. -/
def Overflows (fit : Prop) (msg : String) : Prop := ¬fit ∧ (msg = "bps overflow" ∨ msg = "overflow")

section Failures

variable {E : String → Prop} {fit : Prop} {env : Env} {s s' : InsuranceStorage} {p : SString} {c : ClaimInfo}
variable {r : PoolInfo} {e : PayoutEpoch} {ids : List U64} {id : U64} {amount : ℤ}

/-! ## What a tranche may fail with -/

theorem owed_nonneg (hs : Settlements s) : 0 ≤ owed s p id := by
  unfold owed
  split
  · rename_i c hc
    have hle := (hs.claims id c hc).paid_le
    split <;> omega
  · exact le_refl 0

theorem epoch_paid_nonneg (hs : Reserved s) (now : U64) (p : SString) : 0 ≤ (epoch s now p).paid_in_epoch := by
  unfold epoch epoch_at
  split
  · rename_i e he
    split
    · exact hs.epochs_nonneg p e he
    · exact le_refl 0
  · exact le_refl 0

@[simp] theorem fails_only_bps_of {bps : U32} :
    FailsOnly E (bps_of amount bps) env s ↔ (¬FitsI128 (amount * bps.toNat) → E "bps overflow") := by
  rw [bps_of, fails_only_expect, checked_mul_div_eq_none (by decide)]

@[simp] theorem fails_only_epoch_remaining {budget paid : ℤ} :
    FailsOnly E (epoch_remaining budget paid) env s ↔
      (budget > paid → ¬FitsI128 (budget - paid) → E "attempt to subtract with overflow") := by
  rw [epoch_remaining, fails_only_ite, fails_only_expect, checked_sub_eq_none]
  simp

@[simp] theorem fails_only_load_pool :
    FailsOnly E (load_pool p) env s ↔ (s (.CoveragePool p) = none → E "pool not found") := by
  simp only [load_pool, fails_only_bind, fails_only_load, fails_only_expect, load_eq_ok, true_and]
  constructor
  · exact fun h => h _ s ⟨rfl, rfl⟩
  · rintro h _ _ ⟨rfl, rfl⟩
    exact h

@[simp] theorem fails_only_load_payout_caps : FailsOnly E load_payout_caps env s := nofun

@[simp] theorem fails_only_current_payout_epoch {config : PayoutCapConfig} :
    FailsOnly E (current_payout_epoch r config) env s := nofun

@[simp] theorem fails_only_load_payout_queue : FailsOnly E (load_payout_queue p) env s := nofun

@[simp] theorem fails_only_load_claim :
    FailsOnly E (load_claim id) env s ↔ (s (.InsuranceClaim id) = none → E "claim not found") := by
  simp only [load_claim, fails_only_bind, fails_only_load, fails_only_expect, load_eq_ok, true_and]
  constructor
  · exact fun h => h _ s ⟨rfl, rfl⟩
  · rintro h _ _ ⟨rfl, rfl⟩
    exact h

/-- A claim that is queued is not queued again. -/
theorem fails_only_stay_queued (hqueued : id ∈ ids) : FailsOnly E (stay_queued p ids id) env s := by
  rw [stay_queued, fails_only_exec_if, Option.isNone_iff_eq_none, List.idxOf?_eq_none_iff]
  exact fun hnot => absurd hqueued hnot

theorem fails_only_leave_queue : FailsOnly E (leave_queue p ids id) env s := by
  rw [leave_queue, fails_only_elim]
  exact ⟨fun _ => fails_only_pure, fun _ _ => fails_only_save⟩

theorem fails_only_defer_tranche (hqueued : c.claim_id ∈ ids) : FailsOnly E (defer_tranche c e ids) env s := by
  simp only [defer_tranche, save_payout_epoch, fails_only_bind, fails_only_save, fails_only_pure, implies_true, and_true,
    fails_only_stay_queued hqueued]

theorem fails_only_disburse_tranche (hqueued : c.claim_id ∈ ids) (htotal : FitsI128 (r.total_liquidity - amount))
    (hactive : FitsI128 (r.active_coverage - amount)) (hpayout : ¬FitsI128 (r.payout_total + amount) → E "overflow")
    (hepoch : ¬FitsI128 (e.paid_in_epoch + amount) → E "overflow") (hpaid : FitsI128 (c.paid_amount + amount))
    (howed : FitsI128 (c.amount - (c.paid_amount + amount))) :
    FailsOnly E (disburse_tranche c r e ids amount) env s := by
  simp only [disburse_tranche, save_payout_epoch, save_pool, fails_only_bind, fails_only_expect, fails_only_ite,
    fails_only_save, fails_only_pure, checked_add_eq_none, checked_sub_eq_none, expect_eq_ok, checked_add_eq_some,
    checked_sub_eq_some, fails_only_stay_queued hqueued, fails_only_leave_queue, implies_true, and_true]
  refine ⟨fun h => absurd htotal h, ?_⟩
  rintro _ _ ⟨⟨-, rfl⟩, rfl⟩
  refine ⟨fun h => absurd hactive h, ?_⟩
  rintro _ _ ⟨⟨-, rfl⟩, rfl⟩
  refine ⟨hpayout, ?_⟩
  rintro _ _ ⟨⟨-, rfl⟩, rfl⟩
  refine ⟨hepoch, ?_⟩
  rintro _ _ ⟨⟨-, rfl⟩, rfl⟩
  refine ⟨fun h => absurd hpaid h, ?_⟩
  rintro _ _ ⟨⟨-, rfl⟩, rfl⟩
  exact fun h => absurd howed h

/-- **The tranche of a queued claim** that is covered fails with nothing but an overflow. -/
theorem fails_only_pay_tranche (hfiled : Filed s) (hsettled : Settlements s) (hcounted : Counted s) (hs : Reserved s)
    (hclaim : s (.InsuranceClaim c.claim_id) = some c) (hstatus : c.status = .PartiallyPaid)
    (hfit : fit → AmountsFit env.timestamp s c.pool_id) : FailsOnly (Overflows fit) (pay_tranche c) env s := by
  have haccounts := hsettled.claims _ c hclaim
  have hamount := hs.amounts_fit _ c hclaim
  have hnonneg := haccounts.paid_nonneg
  have howed : 0 < c.amount - c.paid_amount := by
    have hle := haccounts.paid_le
    have hnot : c.paid_amount ≠ c.amount := by
      rw [ne_eq, ← haccounts.paid_iff, hstatus]
      simp
    omega
  have hqueued : c.claim_id ∈ queue s c.pool_id := (hsettled.queued _ _).mpr ⟨c, hclaim, rfl, hstatus⟩
  -- What the claim is owed is a part of what the queue is owed.
  have hcovered : c.amount - c.paid_amount ≤ (pool s c.pool_id).active_coverage := by
    obtain ⟨t, ht, hle⟩ := hs.covered c.pool_id
    have hpart := ht.le (fun id => owed_nonneg hsettled) c.claim_id
    simp only [owed, hclaim, hstatus, and_self, if_true] at hpart
    omega
  obtain ⟨r, hr⟩ := Option.isSome_iff_exists.mp (hs.known _ c hclaim)
  have hview := pool_eq_of_some hr
  have hepoch := epoch_paid_nonneg hs env.timestamp c.pool_id
  have hdisburse : ¬allowed s env.timestamp c.pool_id (c.amount - c.paid_amount) ≤ 0 →
      FailsOnly (Overflows fit) (disburse_tranche c r (epoch s env.timestamp c.pool_id) (queue s c.pool_id)
        (allowed s env.timestamp c.pool_id (c.amount - c.paid_amount))) env s := by
    intro hpays
    have hle : allowed s env.timestamp c.pool_id (c.amount - c.paid_amount) ≤ c.amount - c.paid_amount := allowed_le
    have htotal : allowed s env.timestamp c.pool_id (c.amount - c.paid_amount) ≤ (pool s c.pool_id).total_liquidity :=
      allowed_le_liquidity
    have hliquidity := hcounted.liquidity_fits c.pool_id
    have hpayouts := hcounted.paid_out_nonneg c.pool_id
    have hcoverage := hs.coverage_fits c.pool_id
    rw [← hview]
    refine fails_only_disburse_tranche hqueued ?_ ?_ ?_ ?_ ?_ ?_
    · exact fits_of_nonneg (by omega) (by omega)
    · exact fits_of_nonneg (by omega) (by omega)
    · intro hout
      refine ⟨fun hfits => hout ?_, Or.inr rfl⟩
      have hroom := (hfit hfits).payouts
      exact fits_of_nonneg (by omega) (by omega)
    · intro hout
      refine ⟨fun hfits => hout ?_, Or.inr rfl⟩
      have hroom := (hfit hfits).paid
      exact fits_of_nonneg (by omega) (by omega)
    · exact fits_of_nonneg (by omega) (by omega)
    · exact fits_of_nonneg (by omega) (by omega)
  simp only [pay_tranche, pay_claim_tranche, save_claim, fails_only_bind, fails_only_expect, fails_only_ite,
    fails_only_save, fails_only_pure, fails_only_panic_if, fails_only_load_pool, fails_only_load_payout_caps,
    fails_only_current_payout_epoch, fails_only_load_payout_queue, fails_only_bps_of, fails_only_epoch_remaining,
    checked_sub_eq_none, expect_eq_ok, checked_sub_eq_some, panic_if_eq_ok, load_pool_eq_ok, load_payout_caps_eq_ok,
    current_payout_epoch_eq_ok, bps_of_eq_ok, epoch_remaining_eq_ok, load_payout_queue_eq_ok, implies_true, and_true,
    true_and]
  refine ⟨fun h => absurd (fits_of_nonneg howed.le (by omega)) h, ?_⟩
  rintro _ _ ⟨⟨-, rfl⟩, rfl⟩
  refine ⟨fun h => absurd h (not_le.mpr howed), ?_⟩
  rintro _ _ ⟨-, rfl⟩ _ _ ⟨rfl, rfl⟩
  refine ⟨fun h => absurd (hr.symm.trans h) (by simp), ?_⟩
  rintro _ _ ⟨hr', rfl⟩
  obtain rfl := Option.some.inj (hr.symm.trans hr')
  refine ⟨fun h => absurd h (by rw [← hview]; omega), ?_⟩
  rintro _ _ ⟨-, rfl⟩ _ _ ⟨rfl, rfl⟩
  rw [epoch_eq_of_some hfiled hr]
  refine ⟨fun h => ⟨fun hfits => h (hview ▸ (hfit hfits).claim_cap), Or.inl rfl⟩, ?_⟩
  rintro _ _ ⟨-, rfl, rfl⟩
  refine ⟨fun h => ⟨fun hfits => h (hfit hfits).budget, Or.inl rfl⟩, ?_⟩
  rintro _ _ ⟨hbudget, rfl, rfl⟩
  refine ⟨?_, ?_⟩
  · -- What the budget leaves is between zero and the budget.
    intro hleft hout
    have hdiv : FitsI128 _ := hbudget.tdiv (show (0 : ℤ) < BPS_DENOM by decide)
    unfold FitsI128 at hdiv hout
    omega
  rintro _ _ ⟨-, rfl, rfl⟩ _ _ ⟨rfl, rfl⟩
  rw [allowed_eq hr]
  exact ⟨fun _ => fails_only_defer_tranche hqueued, hdisburse⟩

end Failures

/-! ## What a tranche leaves -/

section Tranches

variable {fit : Prop} {env : Env} {now : U64} {s s' : InsuranceStorage} {call : EntryPoint} {p : SString} {c : ClaimInfo}
variable {ids : List U64} {id : U64} {paid total : ℤ}

/-- A tranche that pays something takes it from a liquidity that has it. -/
theorem Tranche.paid_le_liquidity (h : Tranche now s c paid s') (hpaid : paid ≠ 0) :
    paid ≤ (pool s c.pool_id).total_liquidity := by
  have hle : allowed s now c.pool_id (c.amount - c.paid_amount) ≤ (pool s c.pool_id).total_liquidity :=
    allowed_le_liquidity
  have heq := h.paid_eq
  omega

/-- A share of what is left after a tranche is in range when the share of it all was. -/
theorem Tranche.fits_share (h : Tranche now s c paid s') {bps : U32}
    (hfits : FitsI128 ((pool s c.pool_id).total_liquidity * bps.toNat)) :
    FitsI128 (((pool s c.pool_id).total_liquidity - paid) * bps.toNat) := by
  by_cases hpaid : paid = 0
  · rwa [hpaid, sub_zero]
  have hle := h.paid_le_liquidity hpaid
  have hnonneg := h.paid_bounds.1
  have hbps : (0 : ℤ) ≤ bps.toNat := Int.natCast_nonneg _
  apply fits_of_nonneg (Int.mul_nonneg (by omega) hbps)
  exact lt_of_le_of_lt (Int.mul_le_mul_of_nonneg_right (by omega) hbps) hfits.2

theorem AmountsFit.tranche (hfit : AmountsFit now s c.pool_id) (h : Tranche now s c paid s')
    (hliquidity : (pool s c.pool_id).total_liquidity < 2 ^ 127) : AmountsFit now s' c.pool_id := by
  have hpaid := hfit.paid
  have hpayouts := hfit.payouts
  have hpool := pool_eq_of_some h.pool_eq
  have hnonneg := h.paid_bounds.1
  have htotal : (pool s' c.pool_id).total_liquidity = (pool s c.pool_id).total_liquidity - paid := by rw [hpool]
  refine ⟨?_, ?_, ?_, ?_, ?_⟩
  · rw [h.caps_eq, htotal]
    exact h.fits_share hfit.claim_cap
  · rw [h.caps_eq, htotal]
    exact h.fits_share hfit.drain_cap
  · rw [epoch_of_some h.epoch_eq, h.caps_eq]
    split
    · exact hfit.budget
    · rw [htotal]
      exact h.fits_share hfit.drain_cap
  · rw [hpool]
    dsimp only
    omega
  · rw [epoch_of_some h.epoch_eq, htotal]
    split
    · dsimp only
      omega
    · dsimp only
      omega

/-- What the claim of a tranche was not owed from the queue before has to fit in. -/
theorem Reserved.tranche (hs : Reserved s) (h : Tranche now s c paid s')
    (hclaim : s (.InsuranceClaim c.claim_id) = some c)
    (hroom : ∃ t, HasTotal (owed s c.pool_id) t ∧
      t + (c.amount - c.paid_amount - owed s c.pool_id c.claim_id) ≤ (pool s c.pool_id).active_coverage) :
    Reserved s' := by
  have hnonneg := h.paid_bounds.1
  have hother : ∀ {id}, id ≠ c.claim_id → s' (.InsuranceClaim id) = s (.InsuranceClaim id) :=
    fun hid => h.frame _ (by simp) (by simpa using hid) (by simp) (by simp)
  have hpool : ∀ {p}, p ≠ c.pool_id → s' (.CoveragePool p) = s (.CoveragePool p) :=
    fun hp => h.frame _ (by simpa using hp) (by simp) (by simp) (by simp)
  -- The record of the claim keeps its pool and its amount.
  have horigin : ∀ id d, s' (.InsuranceClaim id) = some d →
      ∃ d₀, s (.InsuranceClaim id) = some d₀ ∧ d.pool_id = d₀.pool_id ∧ d.amount = d₀.amount := by
    intro id d hd
    by_cases hid : id = c.claim_id
    · rw [hid, h.claim_eq, Option.some.injEq] at hd
      exact ⟨c, by rw [hid, hclaim], by rw [← hd], by rw [← hd]⟩
    · exact ⟨d, by rw [← hother hid, hd], rfl, rfl⟩
  refine ⟨?_, ?_, ?_, ?_, ?_⟩
  · intro p
    by_cases hp : p = c.pool_id
    · obtain ⟨t, ht, hle⟩ := hroom
      have howed : owed s' c.pool_id c.claim_id = c.amount - (c.paid_amount + paid) := by
        by_cases hsettled : c.paid_amount + paid = c.amount <;> simp [owed, h.claim_eq, hsettled]
      rw [hp]
      refine ⟨_, ht.change c.claim_id fun id hid => by rw [owed, hother hid, owed], ?_⟩
      rw [howed, pool_eq_of_some h.pool_eq]
      dsimp only
      omega
    · obtain ⟨t, ht, hle⟩ := hs.covered p
      refine ⟨t, ht.congr ?_, by rwa [pool_congr (hpool hp)]⟩
      intro id
      by_cases hid : id = c.claim_id
      · rw [hid]
        simp [owed, h.claim_eq, hclaim, Ne.symm hp]
      · rw [owed, hother hid, owed]
  · intro id d hd
    obtain ⟨d₀, hd₀, hpool_id, -⟩ := horigin id d hd
    rw [hpool_id]
    by_cases hp : d₀.pool_id = c.pool_id
    · rw [hp]
      exact isSome_of_some h.pool_eq
    · rw [hpool hp]
      exact hs.known id d₀ hd₀
  · intro id d hd
    obtain ⟨d₀, hd₀, -, hamount⟩ := horigin id d hd
    rw [hamount]
    exact hs.amounts_fit id d₀ hd₀
  · intro p
    by_cases hp : p = c.pool_id
    · have hfits := hs.coverage_fits c.pool_id
      rw [hp, pool_eq_of_some h.pool_eq]
      dsimp only
      omega
    · rw [pool_congr (hpool hp)]
      exact hs.coverage_fits p
  · intro p e he
    by_cases hp : p = c.pool_id
    · have hepoch := epoch_paid_nonneg hs now c.pool_id
      rw [hp, h.epoch_eq, Option.some.injEq] at he
      rw [← he]
      exact add_nonneg hepoch hnonneg
    · rw [h.frame _ (by simp) (by simp) (by simpa using hp) (by simp)] at he
      exact hs.epochs_nonneg p e he

/-- The tranche of a queued claim. -/
theorem Reserved.tranche_queued (hs : Reserved s) (h : Tranche now s c paid s')
    (hclaim : s (.InsuranceClaim c.claim_id) = some c) (hstatus : c.status = .PartiallyPaid) : Reserved s' := by
  obtain ⟨t, ht, hle⟩ := hs.covered c.pool_id
  apply hs.tranche h hclaim
  refine ⟨t, ht, ?_⟩
  simpa [owed, hclaim, hstatus] using hle

/-! ## The queue -/

/-- The loop over claims of one pool fails with nothing but an overflow. -/
theorem fails_only_pay_queued (hfiled : Filed s) (hsettled : Settlements s) (hcounted : Counted s) (hs : Reserved s)
    (hids : ∀ id ∈ ids, ∃ c, s (.InsuranceClaim id) = some c ∧ c.pool_id = p) (htotal : 0 ≤ total)
    (hfit : fit → AmountsFit env.timestamp s p ∧ total + max 0 (pool s p).total_liquidity < 2 ^ 127) :
    FailsOnly (Overflows fit) (pay_queued ids total) env s := by
  induction ids generalizing s total with
  | nil => exact fails_only_pure
  | cons id ids ih =>
      obtain ⟨c, hclaim, hp⟩ := hids id List.mem_cons_self
      have hrest : ∀ id ∈ ids, ∃ c, s (.InsuranceClaim id) = some c ∧ c.pool_id = p :=
        fun id hid => hids id (List.mem_cons_of_mem _ hid)
      have hown : s (.InsuranceClaim c.claim_id) = some c := by rw [hfiled.claims id c hclaim, hclaim]
      rw [pay_queued, fails_only_bind, fails_only_load_claim]
      refine ⟨fun h => absurd (hclaim.symm.trans h) (by simp), ?_⟩
      intro c' s₁ hload
      obtain ⟨hc', rfl⟩ := load_claim_eq_ok.mp hload
      obtain rfl := Option.some.inj (hclaim.symm.trans hc')
      rw [fails_only_ite]
      refine ⟨fun _ => ih hfiled hsettled hcounted hs hrest htotal hfit, fun hunpaid => ?_⟩
      have hstatus : c.status = .PartiallyPaid := not_not.mp hunpaid
      rw [fails_only_bind]
      refine ⟨fails_only_pay_tranche hfiled hsettled hcounted hs hown hstatus fun hfits => hp ▸ (hfit hfits).1, ?_⟩
      intro paid s₂ hpay
      have htranche := tranche_of_ok hfiled hpay
      have hnonneg := htranche.paid_bounds.1
      have hliquidity := hcounted.liquidity_fits p
      rw [fails_only_ite]
      refine ⟨fun _ => fails_only_pure, fun hpaid => ?_⟩
      have hle := htranche.paid_le_liquidity hpaid
      rw [hp] at hle
      rw [fails_only_bind, fails_only_expect, checked_add_eq_none]
      constructor
      · intro hout
        refine ⟨fun hfits => hout ?_, Or.inr rfl⟩
        have hroom := (hfit hfits).2
        exact fits_of_nonneg (by omega) (by omega)
      · intro total' s₃ hadd
        simp only [expect_eq_ok, checked_add_eq_some] at hadd
        obtain ⟨⟨-, rfl⟩, rfl⟩ := hadd
        refine ih (htranche.filed hfiled hown) (hsettled.tranche htranche hown) (hcounted.tranche htranche)
          (hs.tranche_queued htranche hown hstatus) ?_ (by omega) ?_
        · intro id' hid'
          obtain ⟨d, hd, hpool_id⟩ := hrest id' hid'
          by_cases hsame : id' = c.claim_id
          · rw [hsame]
            exact ⟨_, htranche.claim_eq, hp⟩
          · exact ⟨d, by rw [htranche.frame _ (by simp) (by simpa using hsame) (by simp) (by simp), hd], hpool_id⟩
        · intro hfits
          obtain ⟨hamounts, hroom⟩ := hfit hfits
          rw [← hp] at hamounts hroom hliquidity hle ⊢
          refine ⟨hamounts.tranche htranche hliquidity, ?_⟩
          rw [pool_eq_of_some htranche.pool_eq]
          dsimp only
          omega

end Tranches

/-! ## Runs -/

/-- The call that executes the first tranche of a claim finds it covered beside all that is queued. -/
def queue_admits (s : InsuranceStorage) (call : Env × EntryPoint) : Bool :=
  match call.2 with
  | .execute_payout _ id =>
    match s (.InsuranceClaim id) with
    | some c => c.status ≠ .Approved || ((queue s c.pool_id).map (owed s c.pool_id)).sum + (c.amount - c.paid_amount) ≤
        (pool s c.pool_id).active_coverage
    | none => true
  | _ => true

/-- The queue of the pool does not block: `process_payout_queue` returns for the admin, unless an amount of the
pool is so large that the arithmetic of the caps overflows. -/
def QueueOpen (s : InsuranceStorage) (p : SString) : Prop :=
  ∀ env admin, env.auth admin = true → s .Admin = some admin →
    (∃ total s', process_payout_queue admin p env s = .ok (total, s')) ∨
      (¬AmountsFit env.timestamp s p ∧ ∃ msg, process_payout_queue admin p env s = .error msg ∧
        (msg = "bps overflow" ∨ msg = "overflow"))

section Runs

variable {env : Env} {now : U64} {s s' : InsuranceStorage} {call : EntryPoint} {p : SString} {ids : List U64} {total : ℤ}

theorem reserved_empty : Reserved empty_storage where
  covered := fun _ => ⟨0, hasTotal_zero, le_refl 0⟩
  known := fun _ _ h => by cases h
  amounts_fit := fun _ _ h => by cases h
  coverage_fits := fun _ => by simp [pool, empty_storage, new_pool]
  epochs_nonneg := fun _ _ h => by cases h

theorem Reviewed.owed_eq {id : U64} (h : Reviewed (s (.InsuranceClaim id)) (s' (.InsuranceClaim id))) :
    owed s' p id = owed s p id := by
  rcases h with heq | ⟨c', hc', -, hnot', hbefore⟩
  · rw [owed, heq, owed]
  have hafter : c'.status ≠ .PartiallyPaid := fun h => hnot' (Or.inl h)
  rcases hbefore with ⟨hnone, -⟩ | ⟨c, hc, hnot, -⟩
  · simp [owed, hc', hnone, hafter]
  · have hstatus : c.status ≠ .PartiallyPaid := fun h => hnot (Or.inl h)
    simp [owed, hc', hc, hafter, hstatus]

theorem Reserved.unpaid (hs : Reserved s) (h : Unpaid s s') : Reserved s' where
  covered := by
    intro p
    obtain ⟨t, ht, hle⟩ := hs.covered p
    exact ⟨t, ht.congr fun id => (h.reviewed id).owed_eq, hle.trans (h.covers p).1⟩
  known := by
    intro id c' hc'
    rcases h.origins id c' hc' with ⟨c, hc, hpool_id, -⟩ | ⟨hknown, -⟩
    · rw [hpool_id]
      exact h.known _ (hs.known id c hc)
    · exact h.known _ hknown
  amounts_fit := by
    intro id c' hc'
    rcases h.origins id c' hc' with ⟨c, hc, -, hamount⟩ | ⟨-, hcovered⟩
    · rw [hamount]
      exact hs.amounts_fit id c hc
    · exact lt_of_le_of_lt hcovered (hs.coverage_fits _)
  coverage_fits := by
    intro p
    rcases (h.covers p).2 with hsame | hfits
    · rw [hsame]
      exact hs.coverage_fits p
    · exact hfits
  epochs_nonneg := by
    intro p e he
    exact hs.epochs_nonneg p e (by rw [← h.epochs, he])

theorem Reserved.queue_paid (hfiled : Filed s) (hs : Reserved s) (h : QueuePaid now s ids total s') : Reserved s' := by
  induction h with
  | done => exact hs
  | skip _ _ _ ih => exact ih hfiled hs
  | stop hclaim hstatus htranche =>
      exact hs.tranche_queued htranche (by rw [hfiled.claims _ _ hclaim, hclaim]) hstatus
  | pay hclaim hstatus htranche _ _ ih =>
      have hown := hfiled.claims _ _ hclaim
      exact ih (htranche.filed hfiled (by rw [hown, hclaim])) (hs.tranche_queued htranche (by rw [hown, hclaim]) hstatus)

/-- What the queue is owed stays covered when each claim fits in. -/
theorem reserved_step (hfiled : Filed s) (hsettled : Settlements s) (hs : Reserved s)
    (hcall : queue_admits s (env, call) = true) (h : Outcome env s call s') : Reserved s' := by
  rcases payment_cases hsettled h with hunpaid | ⟨_, id, c, _, rfl, hclaim, hstatus, htranche⟩ | ⟨_, _, _, -, hpaid⟩
  · exact hs.unpaid hunpaid
  · have hown : s (.InsuranceClaim c.claim_id) = some c := by rw [hfiled.claims id c hclaim, hclaim]
    rcases hstatus with happroved | hunpaid
    · -- All that is queued and the new claim are covered together.
      have hlisted : HasTotal (owed s c.pool_id) ((queue s c.pool_id).map (owed s c.pool_id)).sum := by
        apply hasTotal_of_list (hsettled.queue_nodup _)
        intro id' hid'
        rw [hsettled.queued] at hid'
        unfold owed
        split
        · rename_i d hd
          exact if_neg fun hqueued => hid' ⟨d, hd, hqueued⟩
        · rfl
      refine hs.tranche htranche hown ⟨_, hlisted, ?_⟩
      simp only [queue_admits, hclaim, happroved, ne_eq, not_true_eq_false, decide_false, Bool.false_or,
        decide_eq_true_eq] at hcall
      simpa [owed, hown, happroved] using hcall
    · exact hs.tranche_queued htranche hown hunpaid
  · exact hs.queue_paid hfiled hpaid

theorem Reserved.queue_open (hfiled : Filed s) (hsettled : Settlements s) (hcounted : Counted s) (hs : Reserved s) :
    QueueOpen s p := by
  intro env admin hauth hadmin
  have hfails : FailsOnly (Overflows (AmountsFit env.timestamp s p)) (process_payout_queue admin p) env s := by
    rw [process_payout_queue, fails_only_bind]
    refine ⟨?_, ?_⟩
    · intro msg hmsg
      have hok : require_admin admin env s = .ok ((), s) := require_admin_eq_ok.mpr ⟨hauth, hadmin, rfl⟩
      rw [hok] at hmsg
      cases hmsg
    · intro _ s₁ hok
      obtain ⟨-, -, rfl⟩ := require_admin_eq_ok.mp hok
      rw [fails_only_bind]
      refine ⟨fails_only_load_payout_queue, ?_⟩
      intro ids s₂ hload
      obtain ⟨rfl, rfl⟩ := load_payout_queue_eq_ok.mp hload
      have hliquidity := hcounted.liquidity_fits p
      refine fails_only_pay_queued hfiled hsettled hcounted hs ?_ (le_refl 0) fun hfits => ⟨hfits, by omega⟩
      intro id hid
      obtain ⟨c, hc, hp, -⟩ := (hsettled.queued p id).mp hid
      exact ⟨c, hc, hp⟩
  cases hresult : process_payout_queue admin p env s with
  | ok r => exact Or.inl ⟨r.1, r.2, rfl⟩
  | error msg =>
      obtain ⟨hnot, hoverflow⟩ := hfails msg hresult
      exact Or.inr ⟨hnot, msg, rfl, hoverflow⟩

/-- **The payout queue never blocks** in a run that admits to it only what is covered beside what is queued. -/
theorem queue_never_blocks {calls : List (Env × EntryPoint)}
    (hcalls : Along exec (fun s call => queue_admits s call = true) empty_storage calls) :
    QueueOpen (run empty_storage calls) p := by
  have hreserved := run_outcome (I := fun s => Settlements s ∧ Reserved s)
    (fun hfiled hs hcall h => ⟨settlements_step hfiled hs.1 h, reserved_step hfiled hs.1 hs.2 hcall h⟩)
    filed_empty ⟨settlements_empty, reserved_empty⟩ hcalls
  exact hreserved.2.2.queue_open hreserved.1 hreserved.2.1 run_counted

end Runs

/-- Two claims that are approved, and the first tranche of each. -/
def queued_run (first second : ℤ) : List (Env × EntryPoint) :=
  covered ++ approved_claim 0 first ++ approved_claim 1 second ++
  [(signed_at 0, .execute_payout (party 0) 0), (signed_at 0, .execute_payout (party 0) 1)]

theorem queue_never_blocks_queued :
    queue (run empty_storage (queued_run 4000 4000)) bridge_pool = [0, 1] ∧
      QueueOpen (run empty_storage (queued_run 4000 4000)) bridge_pool :=
  ⟨by decide +kernel, queue_never_blocks (by decide +kernel)⟩

/-- The first claim is owed 5000 of a coverage of 5000, when the first tranche of the second takes 2000 of it. -/
theorem claims_block_queue :
    ¬ ∀ (calls : List (Env × EntryPoint)) (p : SString), QueueOpen (run empty_storage calls) p := by
  intro h
  rcases h (queued_run 8000 5000) bridge_pool (signed_at 0) (party 0) rfl (by decide +kernel) with ⟨total, s', hok⟩ | ⟨hnot, -⟩
  · have hfails : (process_payout_queue (party 0) bridge_pool (signed_at 0)
        (run empty_storage (queued_run 8000 5000))).isOk = false := by decide +kernel
    rw [hok] at hfails
    cases hfails
  · exact hnot ⟨by decide +kernel, by decide +kernel, by decide +kernel, by decide +kernel, by decide +kernel⟩

end BridgeWatch.Insurance

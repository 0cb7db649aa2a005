/-
What backs the stakers' principal and the sold coverage.

The counters of a pool are the totals of its records: the stakes, the pending withdrawals, and the
requests that are not executed. The liquidity is what is staked and queued less what was paid out, since a
payout lowers no stake and no pending withdrawal; so the principal is backed as long as nothing was paid.
And the coverage that is sold is checked against the stakes when it is bought, but not when a withdrawal or
a slash takes liquidity away.
-/
import Mathlib.Algebra.Order.Ring.Int
import BridgeWatch.InsuranceCalls
import BridgeWatch.Totals

set_option autoImplicit false

namespace BridgeWatch.Insurance

open Transaction CheckedIntegers HostCalls Totals
open Contract (U32 U64 SString Address Env str)

/-! ## The counters of a pool -/

/-- What the request asks for, while it is not executed and its staker and pool are among `Q`. -/
def requested (Q : Address → SString → Bool) (s : InsuranceStorage) (id : U64) : ℤ :=
  match s (.WithdrawalRequest id) with
  | some r => if Q r.staker r.pool_id = true ∧ r.claimed = false then r.amount else 0
  | none => 0

/-- The requests of all stakers of a pool. -/
def of_pool (p : SString) (_ : Address) (p' : SString) : Bool := p' = p

/-- The requests of one staker of a pool. -/
def of_staker (a : Address) (p : SString) (a' : Address) (p' : SString) : Bool := a' = a ∧ p' = p

/-- The counters of the pools are the totals of their records. -/
structure Counted (s : InsuranceStorage) : Prop where
  stakes : ∀ p, HasTotal (fun a => (position s a p).staked_amount) (pool s p).staked_liquidity
  pendings : ∀ p, HasTotal (fun a => (position s a p).pending_withdrawal) (pool s p).queued_withdrawals
  requests : ∀ p, HasTotal (requested (of_pool p) s) (pool s p).queued_withdrawals
  own_requests : ∀ a p, HasTotal (requested (of_staker a p) s) (position s a p).pending_withdrawal
  stakes_nonneg : ∀ a p, 0 ≤ (position s a p).staked_amount
  requests_positive : ∀ id r, s (.WithdrawalRequest id) = some r → 0 < r.amount
  liquidity : ∀ p, (pool s p).total_liquidity =
    (pool s p).staked_liquidity + (pool s p).queued_withdrawals - (pool s p).payout_total
  paid_out_nonneg : ∀ p, 0 ≤ (pool s p).payout_total
  liquidity_fits : ∀ p, (pool s p).total_liquidity < 2 ^ 127

section Counters

variable {s s' : InsuranceStorage} {a : Address} {p : SString} {id : U64} {Q : Address → SString → Bool}

theorem requested_congr (h : s' (.WithdrawalRequest id) = s (.WithdrawalRequest id)) :
    requested Q s' id = requested Q s id := by
  rw [requested, h, requested]

theorem requested_nonneg (hs : ∀ id r, s (.WithdrawalRequest id) = some r → 0 < r.amount) : 0 ≤ requested Q s id := by
  unfold requested
  split
  · rename_i r hr
    split
    · exact (hs id r hr).le
    · exact le_refl 0
  · exact le_refl 0

theorem Counted.pending_nonneg (hs : Counted s) : 0 ≤ (position s a p).pending_withdrawal :=
  (hs.own_requests a p).nonneg fun _ => requested_nonneg hs.requests_positive

theorem counted_empty : Counted empty_storage where
  stakes := fun _ => hasTotal_zero
  pendings := fun _ => hasTotal_zero
  requests := fun _ => hasTotal_zero
  own_requests := fun _ _ => hasTotal_zero
  stakes_nonneg := fun _ _ => le_refl 0
  requests_positive := fun _ _ h => by cases h
  liquidity := fun _ => rfl
  paid_out_nonneg := fun _ => le_refl 0
  liquidity_fits := fun _ => by simp [pool, empty_storage, new_pool]

/-- A change that keeps the stakes, the requests and the counters they are compared with. -/
theorem Counted.of_same (hs : Counted s) (hpositions : ∀ a p, position s' a p = position s a p)
    (hrequests : ∀ id, s' (.WithdrawalRequest id) = s (.WithdrawalRequest id))
    (hpools : ∀ p, (pool s' p).staked_liquidity = (pool s p).staked_liquidity ∧
      (pool s' p).queued_withdrawals = (pool s p).queued_withdrawals ∧
      (pool s' p).total_liquidity + (pool s' p).payout_total = (pool s p).total_liquidity + (pool s p).payout_total ∧
      (pool s p).payout_total ≤ (pool s' p).payout_total) : Counted s' where
  stakes := fun p => by
    rw [(hpools p).1]
    exact (hs.stakes p).congr fun a => by rw [hpositions]
  pendings := fun p => by
    rw [(hpools p).2.1]
    exact (hs.pendings p).congr fun a => by rw [hpositions]
  requests := fun p => by
    rw [(hpools p).2.1]
    exact (hs.requests p).congr fun id => requested_congr (hrequests id)
  own_requests := fun a p => by
    rw [hpositions]
    exact (hs.own_requests a p).congr fun id => requested_congr (hrequests id)
  stakes_nonneg := fun a p => by
    rw [hpositions]
    exact hs.stakes_nonneg a p
  requests_positive := fun id r hr => hs.requests_positive id r (by rw [← hrequests, hr])
  liquidity := fun p => by
    have hbefore := hs.liquidity p
    have hsame := hpools p
    omega
  paid_out_nonneg := fun p => (hs.paid_out_nonneg p).trans (hpools p).2.2.2
  liquidity_fits := fun p => by
    have hbefore := hs.liquidity_fits p
    have hsame := hpools p
    omega

/-- A movement that takes as much from the requests as from the pending withdrawals. -/
theorem Counted.moved {dx dp : ℤ} {others : List DataKey} (hs : Counted s) (h : Moved s s' a p dx dp others)
    (hothers : (∀ a p, DataKey.StakerPosition a p ∉ others) ∧ ∀ p, DataKey.CoveragePool p ∉ others)
    (hrequests : ∀ Q t, HasTotal (requested Q s) t → HasTotal (requested Q s') (t + if Q a p = true then dp else 0))
    (hpositive : ∀ id r, s' (.WithdrawalRequest id) = some r → 0 < r.amount)
    (hstake : 0 ≤ (position s a p).staked_amount + dx)
    (hfits : (pool s p).total_liquidity + (dx + dp) < 2 ^ 127) : Counted s' := by
  obtain ⟨rejected, hpool⟩ := h.pool_eq
  obtain ⟨q, hq, -, -, hstaked, hpending, -, -⟩ := h.position_eq
  have hview := pool_eq_of_some hpool
  have hposition : position s' a p = q := by rw [position, hq, Option.getD_some]
  have hpool_ne : ∀ {p'}, p' ≠ p → pool s' p' = pool s p' := fun hp => h.pool_of_ne hp (hothers.2 _)
  have hposition_ne : ∀ {a' p'}, ¬(a' = a ∧ p' = p) → position s' a' p' = position s a' p' :=
    fun hne => h.position_of_ne hne (hothers.1 _ _)
  refine ⟨?_, ?_, ?_, ?_, ?_, hpositive, ?_, ?_, ?_⟩
  · intro p'
    by_cases hp : p' = p
    · rw [hp]
      apply (hs.stakes p).change_to a
      · intro a' ha
        rw [hposition_ne (by tauto)]
      · rw [hview, hposition]
        dsimp only
        omega
    · rw [hpool_ne hp]
      exact (hs.stakes p').congr fun a' => by rw [hposition_ne (by tauto)]
  · intro p'
    by_cases hp : p' = p
    · rw [hp]
      apply (hs.pendings p).change_to a
      · intro a' ha
        rw [hposition_ne (by tauto)]
      · rw [hview, hposition]
        dsimp only
        omega
    · rw [hpool_ne hp]
      exact (hs.pendings p').congr fun a' => by rw [hposition_ne (by tauto)]
  · intro p'
    have htotal := hrequests (of_pool p') _ (hs.requests p')
    by_cases hp : p' = p
    · rw [hp] at htotal ⊢
      rw [hview]
      simpa [of_pool] using htotal
    · rw [hpool_ne hp]
      simpa [of_pool, Ne.symm hp] using htotal
  · intro a' p'
    have htotal := hrequests (of_staker a' p') _ (hs.own_requests a' p')
    by_cases hsame : a' = a ∧ p' = p
    · rw [hsame.1, hsame.2] at htotal ⊢
      rw [hposition, hpending]
      simpa [of_staker] using htotal
    · rw [hposition_ne hsame]
      have hnot : of_staker a' p' a p = false := by
        simp only [of_staker, decide_eq_false_iff_not]
        tauto
      simpa [hnot] using htotal
  · intro a' p'
    by_cases hsame : a' = a ∧ p' = p
    · rw [hsame.1, hsame.2, hposition, hstaked]
      exact hstake
    · rw [hposition_ne hsame]
      exact hs.stakes_nonneg a' p'
  · intro p'
    by_cases hp : p' = p
    · have hbefore := hs.liquidity p
      rw [hp, hview]
      dsimp only
      omega
    · rw [hpool_ne hp]
      exact hs.liquidity p'
  · intro p'
    by_cases hp : p' = p
    · rw [hp, hview]
      exact hs.paid_out_nonneg p
    · rw [hpool_ne hp]
      exact hs.paid_out_nonneg p'
  · intro p'
    by_cases hp : p' = p
    · rw [hp, hview]
      exact hfits
    · rw [hpool_ne hp]
      exact hs.liquidity_fits p'

/-- A tranche takes from the liquidity what it adds to the payouts. -/
theorem Counted.tranche {now : U64} {c : ClaimInfo} {paid : ℤ} (hs : Counted s) (h : Tranche now s c paid s') :
    Counted s' := by
  apply hs.of_same
  · exact fun a p => position_congr (h.frame _ (by simp) (by simp) (by simp) (by simp))
  · exact fun id => h.frame _ (by simp) (by simp) (by simp) (by simp)
  · intro p
    by_cases hp : p = c.pool_id
    · have hpaid : 0 ≤ paid := by
        rw [h.paid_eq]
        exact le_max_left _ _
      rw [hp, pool_eq_of_some h.pool_eq]
      dsimp only
      omega
    · rw [pool_congr (h.frame _ (by simpa using hp) (by simp) (by simp) (by simp))]
      simp

theorem Counted.queue_paid {now : U64} {ids : List U64} {total : ℤ} (hs : Counted s) (h : QueuePaid now s ids total s') :
    Counted s' := by
  induction h with
  | done => exact hs
  | skip _ _ _ ih => exact ih hs
  | stop _ _ htranche => exact hs.tranche htranche
  | pay _ _ htranche _ _ ih => exact ih (hs.tranche htranche)

/-- A slash takes no more than is staked. -/
theorem loss_le (amount : ℤ) (bps : U32) {staked : ℤ} (hstaked : 0 ≤ staked) :
    0 ≤ loss amount bps staked ∧ loss amount bps staked ≤ staked := by
  unfold loss actual_slashed
  split <;> omega

/-- **The counters stay the totals of the records.** -/
theorem counted_step {env : Env} {call : EntryPoint} (hs : Counted s) (h : Outcome env s call s') : Counted s' := by
  -- What a movement does to the requests when it touches none.
  have hkept : ∀ {a p dx others}, Moved s s' a p dx 0 others → (∀ id, DataKey.WithdrawalRequest id ∉ others) →
      (∀ Q t, HasTotal (requested Q s) t → HasTotal (requested Q s') (t + if Q a p = true then 0 else 0)) ∧
        ∀ id r, s' (.WithdrawalRequest id) = some r → 0 < r.amount := by
    intro a p dx others hmoved hothers
    have hsame : ∀ id, s' (.WithdrawalRequest id) = s (.WithdrawalRequest id) :=
      fun id => hmoved.frame _ (by simp) (by simp) (hothers id)
    constructor
    · intro Q t ht
      rw [ite_self, add_zero]
      exact ht.congr fun id => requested_congr (hsame id)
    · exact fun id r hr => hs.requests_positive id r (by rw [← hsame, hr])
  cases h with
  | opened _ _ hframe | governed _ hframe | capped _ _ _ hframe | judged _ _ _ _ _ hframe =>
      apply hs.of_same (fun a p => position_congr (hframe _ (by simp))) fun id => hframe _ (by simp)
      exact fun p => by simp [pool_congr (hframe (.CoveragePool p) (by simp))]
  | @rated _ p _ _ _ _ _ _ hpool hframe | @purchased _ p _ _ _ _ _ _ _ _ _ _ hpool hframe =>
      apply hs.of_same (fun a p => position_congr (hframe _ (by simp))) fun id => hframe _ (by simp)
      intro p'
      by_cases hp : p' = p
      · rw [hp, pool_eq_of_some hpool]
        simp
      · simp [pool_congr (hframe (.CoveragePool p') (by simpa using hp))]
  | staked hpositive _ hmoved =>
      obtain ⟨hrequests, hamounts⟩ := hkept hmoved (by simp)
      exact hs.moved hmoved (by simp) hrequests hamounts
        (add_nonneg (hs.stakes_nonneg _ _) hpositive.le) (by rwa [add_zero])
  | @requested _ p _ id _ _ hpositive _ hmoved _ hfits _ hnone hrequest =>
      have hother : ∀ id', id' ≠ id → s' (.WithdrawalRequest id') = s (.WithdrawalRequest id') :=
        fun id' hne => hmoved.frame _ (by simp) (by simp) (by simpa using hne)
      apply hs.moved hmoved (by simp)
      · -- The new request is the only one that changes.
        intro Q t ht
        apply ht.change_to id fun id' hne => requested_congr (hother id' hne)
        simp [Insurance.requested, hrequest, hnone]
      · intro id' r hr
        by_cases hne : id' = id
        · rw [hne, hrequest, Option.some.injEq] at hr
          rw [← hr]
          exact hpositive
        · exact hs.requests_positive id' r (by rw [← hother id' hne, hr])
      · omega
      · have hfits := hs.liquidity_fits p
        omega
  | @withdrawn a p id r _ hrequest howner hclaimed _ _ _ hmoved hrequest' =>
      have hother : ∀ id', id' ≠ id → s' (.WithdrawalRequest id') = s (.WithdrawalRequest id') :=
        fun id' hne => hmoved.frame _ (by simp) (by simp) (by simpa using hne)
      have hamount := hs.requests_positive id r hrequest
      apply hs.moved hmoved (by simp)
      · -- The executed request counts no longer.
        intro Q t ht
        apply ht.change_to id fun id' hne => requested_congr (hother id' hne)
        simp only [Insurance.requested, hrequest, hrequest', howner.1, howner.2, hclaimed]
        by_cases hQ : Q a p = true <;> simp [hQ]
      · intro id' r' hr'
        by_cases hne : id' = id
        · rw [hne, hrequest', Option.some.injEq] at hr'
          rw [← hr']
          exact hamount
        · exact hs.requests_positive id' r' (by rw [← hother id' hne, hr'])
      · rw [add_zero]
        exact hs.stakes_nonneg a p
      · have hfits := hs.liquidity_fits p
        omega
  | submitted _ _ _ _ _ _ _ _ hframe =>
      apply hs.of_same (fun a p => position_congr (hframe _ (by simp) (by simp)))
        fun id => hframe _ (by simp) (by simp)
      exact fun p => by simp [pool_congr (hframe (.CoveragePool p) (by simp) (by simp))]
  | @rejected _ _ bps c _ _ _ _ hmoved =>
      obtain ⟨hrequests, hamounts⟩ := hkept hmoved (by simp)
      have hstaked := hs.stakes_nonneg c.claimant c.pool_id
      have hloss := loss_le c.amount bps hstaked
      have hfits := hs.liquidity_fits c.pool_id
      exact hs.moved hmoved (by simp) hrequests hamounts (by omega) (by omega)
  | paid _ _ htranche => exact hs.tranche htranche
  | queue_paid hpaid => exact hs.queue_paid hpaid
  | premium_claimed hmoved =>
      obtain ⟨hrequests, hamounts⟩ := hkept hmoved (by simp)
      exact hs.moved hmoved (by simp) hrequests hamounts (by rw [add_zero]; exact hs.stakes_nonneg _ _)
        (by rw [add_zero, add_zero]; exact hs.liquidity_fits _)

theorem run_counted {calls : List (Env × EntryPoint)} : Counted (run empty_storage calls) :=
  (run_outcome (C := fun _ _ => True) (fun _ hs _ h => counted_step hs h) filed_empty counted_empty
    (Along.of_forall fun _ _ _ => trivial)).2

end Counters

/-! ## The principal -/

/-- The liquidity covers the stakes and the queued withdrawals, which are the totals of the records, and so
a withdrawal whose time has come is executed. -/
structure PrincipalBacked (s : InsuranceStorage) (p : SString) : Prop where
  liquidity_nonneg : 0 ≤ (pool s p).total_liquidity
  stakes : HasTotal (fun a => (position s a p).staked_amount) (pool s p).staked_liquidity
  pendings : HasTotal (fun a => (position s a p).pending_withdrawal) (pool s p).queued_withdrawals
  requests : HasTotal (requested (of_pool p) s) (pool s p).queued_withdrawals
  backed : (pool s p).staked_liquidity + (pool s p).queued_withdrawals ≤ (pool s p).total_liquidity
  executable : ∀ env id r, s (.WithdrawalRequest id) = some r → r.pool_id = p → r.claimed = false →
    r.unlock_time ≤ env.timestamp → env.auth r.staker = true →
    SyncFits (pool s p).acc_premium_per_share (position s r.staker p) →
    ∃ s', execute_withdrawal r.staker p id env s = .ok (r.amount, s')

/-- What a payout of the claim at time `now` disburses, when that is positive. -/
def payable_to (s : InsuranceStorage) (now : U64) (id : U64) : ℤ :=
  match s (.InsuranceClaim id) with
  | some c =>
    if c.status = .Approved ∨ c.status = .PartiallyPaid then allowed s now c.pool_id (c.amount - c.paid_amount) else 0
  | none => 0

/-- The call is no payout that disburses something. -/
def pays_nothing (s : InsuranceStorage) (call : Env × EntryPoint) : Bool :=
  match call.2 with
  | .execute_payout _ id => payable_to s call.1.timestamp id ≤ 0
  | .process_payout_queue _ p => (queue s p).all fun id => payable_to s call.1.timestamp id ≤ 0
  | _ => true

section Principal

variable {env : Env} {s s' : InsuranceStorage} {call : EntryPoint} {p : SString} {id : U64} {c : ClaimInfo}

theorem Tranche.paid_eq_zero {now : U64} {paid : ℤ} (h : Tranche now s c paid s')
    (hclaim : s (.InsuranceClaim id) = some c) (hstatus : c.status = .Approved ∨ c.status = .PartiallyPaid)
    (hnothing : payable_to s now id ≤ 0) : paid = 0 := by
  rw [h.paid_eq]
  simp only [payable_to, hclaim, if_pos hstatus] at hnothing
  exact max_eq_left hnothing

theorem Tranche.paid_out {now : U64} (h : Tranche now s c 0 s') :
    (pool s' p).payout_total = (pool s p).payout_total := by
  by_cases hp : p = c.pool_id
  · rw [hp, pool_eq_of_some h.pool_eq]
    simp
  · rw [pool_congr (h.frame _ (by simpa using hp) (by simp) (by simp) (by simp))]

theorem Moved.paid_out {a : Address} {p' : SString} {dx dp : ℤ} {others : List DataKey}
    (h : Moved s s' a p' dx dp others) (hothers : DataKey.CoveragePool p ∉ others) :
    (pool s' p).payout_total = (pool s p).payout_total := by
  by_cases hp : p = p'
  · obtain ⟨rejected, hr⟩ := h.pool_eq
    rw [hp, pool_eq_of_some hr]
  · rw [h.pool_of_ne hp hothers]

/-- The first claim that is still owed something stops the loop. -/
theorem QueuePaid.paid_out {now : U64} {ids : List U64} {total : ℤ} (h : QueuePaid now s ids total s')
    (hnothing : ∀ id ∈ ids, payable_to s now id ≤ 0) : (pool s' p).payout_total = (pool s p).payout_total := by
  induction h with
  | done => rfl
  | skip _ _ _ ih => exact ih fun id hid => hnothing id (List.mem_cons_of_mem _ hid)
  | stop _ _ htranche => exact htranche.paid_out
  | pay hclaim hstatus htranche hpaid =>
      exact absurd (htranche.paid_eq_zero hclaim (Or.inr hstatus) (hnothing _ List.mem_cons_self)) hpaid

/-- The payouts of a pool stay where nothing is disbursed. -/
theorem paid_out_step (h : Outcome env s call s') (hnothing : pays_nothing s (env, call) = true) :
    (pool s' p).payout_total = (pool s p).payout_total := by
  cases h with
  | opened _ _ hframe | governed _ hframe | capped _ _ _ hframe | judged _ _ _ _ _ hframe =>
      rw [pool_congr (hframe _ (by simp))]
  | @rated _ p' _ _ _ _ _ _ hpool hframe | @purchased _ p' _ _ _ _ _ _ _ _ _ _ hpool hframe =>
      by_cases hp : p = p'
      · rw [hp, pool_eq_of_some hpool]
      · rw [pool_congr (hframe _ (by simpa using hp))]
  | staked _ _ hmoved | requested _ _ hmoved | withdrawn _ _ _ _ _ _ hmoved | rejected _ _ hmoved
  | premium_claimed hmoved => exact hmoved.paid_out (by simp)
  | submitted _ _ _ _ _ _ _ _ hframe => rw [pool_congr (hframe _ (by simp) (by simp))]
  | paid hclaim hstatus htranche =>
      have hzero := htranche.paid_eq_zero hclaim hstatus (by simpa [pays_nothing] using hnothing)
      rw [hzero] at htranche
      exact htranche.paid_out
  | queue_paid hpaid =>
      rw [pays_nothing, List.all_eq_true] at hnothing
      simp only [decide_eq_true_eq] at hnothing
      exact hpaid.paid_out hnothing

theorem Counted.principal_backed (hs : Counted s) (hzero : (pool s p).payout_total = 0) :
    PrincipalBacked s p := by
  have hliquidity := hs.liquidity p
  have hfits := hs.liquidity_fits p
  have hstaked : 0 ≤ (pool s p).staked_liquidity := (hs.stakes p).nonneg fun a => hs.stakes_nonneg a p
  have hqueued : 0 ≤ (pool s p).queued_withdrawals := (hs.pendings p).nonneg fun a => hs.pending_nonneg
  refine ⟨by omega, hs.stakes p, hs.pendings p, hs.requests p, by omega, ?_⟩
  intro env id r hr hpool_id hclaimed hmature hauth hsync
  have hamount := hs.requests_positive id r hr
  have hown : r.amount ≤ (position s r.staker p).pending_withdrawal := by
    have hle := (hs.own_requests r.staker p).le (fun _ => requested_nonneg hs.requests_positive) id
    simpa [requested, hr, of_staker, hpool_id, hclaimed] using hle
  have hpending : (position s r.staker p).pending_withdrawal ≤ (pool s p).queued_withdrawals :=
    (hs.pendings p).le (fun a => hs.pending_nonneg) r.staker
  -- A pool that holds something is there.
  obtain ⟨r₀, hr₀⟩ : ∃ r₀, s (.CoveragePool p) = some r₀ := by
    cases hpool : s (.CoveragePool p) with
    | none =>
        rw [pool, hpool] at hqueued hpending
        simp only [Option.getD_none, new_pool] at hpending
        omega
    | some r₀ => exact ⟨r₀, rfl⟩
  have hview := pool_eq_of_some hr₀
  rw [hview] at hsync hliquidity hfits hstaked hqueued hpending hzero
  simp only [execute_withdrawal, save_position, save_pool, bind_eq_ok, HostCalls.require_auth_eq_ok, panic_if_eq_ok,
    load_eq_ok, load_pool_eq_ok, load_position_eq_ok, sync_rewards_eq_ok, expect_eq_ok, checked_sub_eq_some,
    reads_eq_ok, calc_reward_debt_eq_ok, save_eq_ok, pure_eq_ok, synced_staked_amount, synced_pending_withdrawal,
    and_assoc, exists_and_left, exists_eq_left, exists_const, hr, hr₀, Option.some.injEq, exists_eq_left', hauth,
    hpool_id, hclaimed, not_or, not_not, ne_eq, not_lt, true_and, Bool.false_eq_true, not_false_eq_true]
  unfold FitsI128
  exact ⟨UInt64.not_lt.mpr hmature, hsync, hown, by omega, by omega, by omega, by omega, by omega, hsync.product, _, rfl⟩

/-- **The principal stays backed** in every run in which nothing is paid out. -/
theorem principal_stays_backed {calls : List (Env × EntryPoint)}
    (hcalls : Along exec (fun s call => pays_nothing s call = true) empty_storage calls) :
    PrincipalBacked (run empty_storage calls) p := by
  have hstep : ∀ {s env call s'}, Filed s → (pool s p).payout_total = 0 → pays_nothing s (env, call) = true →
      Outcome env s call s' → (pool s' p).payout_total = 0 := by
    intro s env call s' _ hzero hnothing h
    rw [paid_out_step h hnothing, hzero]
  exact run_counted.principal_backed
    (run_outcome (I := fun s => (pool s p).payout_total = 0) hstep filed_empty rfl hcalls).2

end Principal

/-- A second stake, a claim that is rejected and a withdrawal; nothing is paid out. -/
def withdrawn_run : List (Env × EntryPoint) :=
  covered ++
  [(signed_at 0, .stake_liquidity (party 2) bridge_pool 3000),
    (signed_at 0, .submit_claim (party 2) bridge_pool 2000 (str "forged")),
    (signed_at 0, .verify_claim (party 0) 0 false 2500),
    (signed_at 0, .request_withdrawal (party 1) bridge_pool 4000),
    (signed_at 90000, .execute_withdrawal (party 1) bridge_pool 0)]

theorem principal_stays_backed_withdrawn :
    PrincipalBacked (run empty_storage withdrawn_run) bridge_pool ∧
      (pool (run empty_storage withdrawn_run) bridge_pool).total_liquidity = 8500 :=
  ⟨principal_stays_backed (by decide +kernel), by decide +kernel⟩

/-- A payout of 3000 leaves 7000 behind stakes of 10000. -/
theorem payout_takes_principal :
    ¬ ∀ (calls : List (Env × EntryPoint)) (p : SString), PrincipalBacked (run empty_storage calls) p := by
  intro h
  have hbacked := (h (covered ++ approved_claim 0 8000 ++ [(signed_at 0, .execute_payout (party 0) 0)])
    bridge_pool).backed
  exact absurd hbacked (by decide +kernel)

/-! ## The sold coverage -/

/-- The coverage of the pool that the call sells. -/
def purchases (p : SString) : EntryPoint → List ℤ
  | .purchase_coverage _ p' amount _ _ => if p' = p then [amount] else []
  | _ => []

/-- The coverage of the pool that the calls of a run have sold. -/
def coverage_sold (calls : List (Env × EntryPoint)) (p : SString) : ℤ :=
  (gather exec (purchases p) empty_storage calls).sum

/-- The coverage that is sold is what is active and what was paid out, and the liquidity covers it. -/
structure CoverageBacked (calls : List (Env × EntryPoint)) (p : SString) : Prop where
  active_nonneg : 0 ≤ (pool (run empty_storage calls) p).active_coverage
  sold : (pool (run empty_storage calls) p).active_coverage + (pool (run empty_storage calls) p).payout_total =
    coverage_sold calls p
  backed : (pool (run empty_storage calls) p).active_coverage ≤ (pool (run empty_storage calls) p).total_liquidity

/-- A withdrawal, a slash or a purchase within the cap leaves the active coverage within the liquidity. -/
def leaves_covered (s : InsuranceStorage) (call : Env × EntryPoint) : Bool :=
  match call.2 with
  | .execute_withdrawal _ p id =>
    match s (.WithdrawalRequest id) with
    | some r => r.claimed || (pool s p).active_coverage ≤ (pool s p).total_liquidity - r.amount
    | none => true
  | .verify_claim _ id false slash_bps =>
    match s (.InsuranceClaim id) with
    | some c => !is_open c.status || (pool s c.pool_id).active_coverage ≤
        (pool s c.pool_id).total_liquidity - loss c.amount slash_bps (position s c.claimant c.pool_id).staked_amount
    | none => true
  | .purchase_coverage _ p amount tier _ =>
    (pool s p).active_coverage + amount >
        ((pool s p).staked_liquidity * (tier_coverage_cap_bps tier).toNat).tdiv BPS_DENOM ||
      (pool s p).active_coverage + amount ≤ (pool s p).total_liquidity
  | _ => true

/-- What a step does to the coverage of a pool: the active and the paid grow by what is sold, and where `C` holds
what is active stays within the liquidity. -/
structure CoverageStep (s s' : InsuranceStorage) (p : SString) (sold : ℤ) (C : Prop) : Prop where
  sum_eq : (pool s' p).active_coverage + (pool s' p).payout_total =
    (pool s p).active_coverage + (pool s p).payout_total + sold
  nonneg : 0 ≤ (pool s p).active_coverage → 0 ≤ (pool s' p).active_coverage
  within : C → (pool s p).active_coverage ≤ (pool s p).total_liquidity →
    (pool s' p).active_coverage ≤ (pool s' p).total_liquidity

section Coverage

variable {env : Env} {s s₁ s' : InsuranceStorage} {call : EntryPoint} {p : SString} {c : ClaimInfo} {C : Prop}

theorem purchases_of_moves_nothing (h : moves_nothing call = true) : purchases p call = [] := by
  cases call <;> first | rfl | cases h

theorem CoverageStep.of_eq (h : pool s' p = pool s p) : CoverageStep s s' p 0 C := by
  refine ⟨?_, ?_, ?_⟩ <;> rw [h]
  · exact (add_zero _).symm
  · exact id
  · exact fun _ => id

theorem CoverageStep.trans (h : CoverageStep s s₁ p 0 C) (h' : CoverageStep s₁ s' p 0 C) : CoverageStep s s' p 0 C := by
  refine ⟨?_, fun hs => h'.nonneg (h.nonneg hs), fun hC hs => h'.within hC (h.within hC hs)⟩
  rw [h'.sum_eq, h.sum_eq, add_zero, add_zero]

/-- A payout takes the same from the coverage and from the liquidity. -/
theorem Tranche.coverage {now : U64} {paid : ℤ} (h : Tranche now s c paid s') : CoverageStep s s' p 0 C := by
  by_cases hp : p = c.pool_id
  · have hunsettled := h.unsettled
    have hcovered := h.covered
    have hle : paid ≤ c.amount - c.paid_amount := by
      rw [h.paid_eq]
      exact max_le hunsettled.le allowed_le
    rw [hp]
    refine ⟨?_, ?_, ?_⟩ <;> rw [pool_eq_of_some h.pool_eq] <;> dsimp only
    · omega
    · omega
    · omega
  · exact .of_eq (pool_congr (h.frame _ (by simpa using hp) (by simp) (by simp) (by simp)))

theorem QueuePaid.coverage {now : U64} {ids : List U64} {total : ℤ} (h : QueuePaid now s ids total s') :
    CoverageStep s s' p 0 C := by
  induction h with
  | done => exact .of_eq rfl
  | skip _ _ _ ih => exact ih
  | stop _ _ htranche => exact htranche.coverage
  | pay _ _ htranche _ _ ih => exact htranche.coverage.trans ih

/-- A movement that leaves the coverage within the liquidity. -/
theorem Moved.coverage {a : Address} {p' : SString} {dx dp : ℤ} {others : List DataKey}
    (h : Moved s s' a p' dx dp others) (hothers : DataKey.CoveragePool p ∉ others)
    (hwithin : C → (pool s p').active_coverage ≤ (pool s p').total_liquidity →
      (pool s p').active_coverage ≤ (pool s p').total_liquidity + (dx + dp)) : CoverageStep s s' p 0 C := by
  by_cases hp : p = p'
  · obtain ⟨rejected, hr⟩ := h.pool_eq
    rw [hp]
    refine ⟨?_, ?_, ?_⟩ <;> rw [pool_eq_of_some hr]
    · exact (add_zero _).symm
    · exact id
    · exact hwithin
  · exact .of_eq (h.pool_of_ne hp hothers)

theorem coverage_step (h : Outcome env s call s') :
    CoverageStep s s' p (purchases p call).sum (leaves_covered s (env, call) = true) := by
  cases h with
  | opened _ _ hframe | governed _ hframe | capped _ _ _ hframe => exact .of_eq (pool_congr (hframe _ (by simp)))
  | @rated _ p' _ _ _ _ hmoves _ hpool hframe =>
      rw [purchases_of_moves_nothing hmoves, List.sum_nil]
      by_cases hp : p = p'
      · rw [hp]
        refine ⟨?_, ?_, ?_⟩ <;> rw [pool_eq_of_some hpool]
        · exact (add_zero _).symm
        · exact id
        · exact fun _ => id
      · exact .of_eq (pool_congr (hframe _ (by simpa using hp)))
  | staked _ _ hmoved | requested _ _ hmoved | premium_claimed hmoved => exact hmoved.coverage (by simp) (by omega)
  | withdrawn hrequest _ hclaimed _ _ _ hmoved =>
      apply hmoved.coverage (by simp)
      intro hcall
      simp only [leaves_covered, hrequest, hclaimed, Bool.false_or, decide_eq_true_eq] at hcall
      omega
  | @purchased buyer p' amount premium_paid _ tier _ _ _ hcap _ _ hpool hframe =>
      by_cases hp : p = p'
      · rw [hp]
        have hwithin : leaves_covered s (env, .purchase_coverage buyer p' amount tier premium_paid) = true →
            (pool s p').active_coverage + amount ≤ (pool s p').total_liquidity := by
          intro hcall
          simp only [leaves_covered, gt_iff_lt, Bool.or_eq_true, decide_eq_true_eq] at hcall
          exact hcall.resolve_left (not_lt.mpr hcap)
        refine ⟨?_, ?_, ?_⟩ <;> rw [pool_eq_of_some hpool] <;> simp only [purchases, if_true, List.sum_cons, List.sum_nil]
        · omega
        · omega
        · exact fun hcall _ => hwithin hcall
      · rw [purchases, if_neg (Ne.symm hp)]
        exact .of_eq (pool_congr (hframe _ (by simpa using hp)))
  | submitted _ _ _ _ _ _ _ _ hframe =>
      exact .of_eq (pool_congr (hframe _ (by simp) (by simp)))
  | judged hmoves _ _ _ _ hframe =>
      rw [purchases_of_moves_nothing hmoves, List.sum_nil]
      exact .of_eq (pool_congr (hframe _ (by simp)))
  | @rejected _ _ _ _ _ _ hclaim hopen hmoved =>
      apply hmoved.coverage (by simp)
      intro hcall
      simp only [leaves_covered, hclaim, hopen, Bool.not_true, Bool.false_or, decide_eq_true_eq] at hcall
      omega
  | paid _ _ htranche => exact htranche.coverage
  | queue_paid hpaid => exact hpaid.coverage

/-- In every run the coverage that is sold is active or paid out. -/
theorem coverage_accounted {calls : List (Env × EntryPoint)} :
    0 ≤ (pool (run empty_storage calls) p).active_coverage ∧
      (pool (run empty_storage calls) p).active_coverage + (pool (run empty_storage calls) p).payout_total =
        coverage_sold calls p := by
  refine run_outcome_log (C := fun _ _ => True) (I := fun s log => 0 ≤ (pool s p).active_coverage ∧
    (pool s p).active_coverage + (pool s p).payout_total = log.sum) ?_ filed_empty ⟨le_refl 0, rfl⟩
    (Along.of_forall fun _ _ _ => trivial)
  rintro s env call s' log - ⟨hnonneg, hsold⟩ - h
  have hstep := coverage_step (p := p) h
  refine ⟨hstep.nonneg hnonneg, ?_⟩
  rw [hstep.sum_eq, hsold, List.sum_append]

/-- **Sold coverage stays backed** in every run whose withdrawals, slashes and purchases leave it covered. -/
theorem coverage_stays_backed {calls : List (Env × EntryPoint)}
    (hcalls : Along exec (fun s call => leaves_covered s call = true) empty_storage calls) :
    CoverageBacked calls p := by
  have hwithin := run_outcome (I := fun s => (pool s p).active_coverage ≤ (pool s p).total_liquidity)
    (fun _ hs hcall h => (coverage_step h).within hcall hs) filed_empty (le_refl 0) hcalls
  exact ⟨coverage_accounted.1, coverage_accounted.2, hwithin.2⟩

end Coverage

/-- A claim on the coverage is paid in part, and a staker withdraws. -/
def covered_run : List (Env × EntryPoint) :=
  covered ++ approved_claim 0 4000 ++
  [(signed_at 0, .execute_payout (party 0) 0), (signed_at 0, .request_withdrawal (party 1) bridge_pool 1000),
    (signed_at 90000, .execute_withdrawal (party 1) bridge_pool 0)]

theorem coverage_stays_backed_covered :
    CoverageBacked covered_run bridge_pool ∧
      (pool (run empty_storage covered_run) bridge_pool).active_coverage = 5000 ∧
      (pool (run empty_storage covered_run) bridge_pool).total_liquidity = 6000 :=
  ⟨coverage_stays_backed (by decide +kernel), by decide +kernel, by decide +kernel⟩

/-- A withdrawal of 9000 leaves 1000 behind a coverage of 8000. -/
theorem withdrawal_takes_cover :
    ¬ ∀ (calls : List (Env × EntryPoint)) (p : SString), CoverageBacked calls p := by
  intro h
  have hbacked := (h (covered ++ [(signed_at 0, .request_withdrawal (party 1) bridge_pool 9000),
    (signed_at 90000, .execute_withdrawal (party 1) bridge_pool 0)]) bridge_pool).backed
  exact absurd hbacked (by decide +kernel)

end BridgeWatch.Insurance

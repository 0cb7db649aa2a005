/-
How claims are settled.

A claim is paid in tranches, by `execute_payout` or from the queue of its pool. No other call touches a
claim that is in payment, the payouts of a pool, its count of paid claims or its queue, so these agree with
the claims as long as a tranche keeps them in agreement. A claim enters the queue at its end, when its first
tranche leaves something owed, and it leaves the queue for good.
-/
import BridgeWatch.InsuranceCalls
import BridgeWatch.Totals
import Mathlib.Data.Set.Card

set_option autoImplicit false

namespace BridgeWatch.Insurance

open Transaction CheckedIntegers HostCalls Totals
open Contract (U32 U64 SString Address Env saturating_add_u32)

/-! ## The accounts of a claim -/

/-- What the claim was paid from the pool. -/
def paid_from (s : InsuranceStorage) (p : SString) (id : U64) : ℤ :=
  match s (.InsuranceClaim id) with
  | some c => if c.pool_id = p then c.paid_amount else 0
  | none => 0

/-- The claims on the pool that have the status. -/
def claims_of (s : InsuranceStorage) (p : SString) (status : ClaimStatus) : Set U64 :=
  {id | ∃ c, s (.InsuranceClaim id) = some c ∧ c.pool_id = p ∧ c.status = status}

/-- A claim is paid no more than its amount, and is `Paid` when it is paid that. -/
structure ClaimAccounts (c : ClaimInfo) : Prop where
  paid_nonneg : 0 ≤ c.paid_amount
  paid_le : c.paid_amount ≤ c.amount
  paid_iff : c.status = .Paid ↔ c.paid_amount = c.amount

/-- The payouts, the count of paid claims and the queue of each pool agree with its claims. -/
structure Settlements (s : InsuranceStorage) : Prop where
  claims : ∀ id c, s (.InsuranceClaim id) = some c → ClaimAccounts c
  payouts : ∀ p, HasTotal (paid_from s p) (pool s p).payout_total
  paid_claims : ∀ p, ∃ n : ℕ, (claims_of s p .Paid).encard = n ∧ (pool s p).paid_claims.toNat = min n (2 ^ 32 - 1)
  queue_nodup : ∀ p, (queue s p).Nodup
  queued : ∀ p id, id ∈ queue s p ↔ id ∈ claims_of s p .PartiallyPaid

/-- A claim of which a tranche was executed. -/
def in_payment (status : ClaimStatus) : Prop := status = .PartiallyPaid ∨ status = .Paid

/-- The record of a claim stays, or it is one that is not in payment before and after. -/
def Reviewed (o o' : Option ClaimInfo) : Prop :=
  o' = o ∨ ∃ c', o' = some c' ∧ ClaimAccounts c' ∧ ¬in_payment c'.status ∧
    ((o = none ∧ c'.paid_amount = 0) ∨
      ∃ c, o = some c ∧ ¬in_payment c.status ∧ c'.pool_id = c.pool_id ∧ c'.paid_amount = c.paid_amount)

/-- The status after a tranche. -/
def paid_status (settled : Bool) : ClaimStatus := if settled then .Paid else .PartiallyPaid

section Claims

variable {s s' : InsuranceStorage} {p : SString} {id id' : U64} {status : ClaimStatus} {c : ClaimInfo}

theorem not_in_payment_of_open (h : is_open status = true) : ¬in_payment status := by
  rintro (rfl | rfl) <;> cases h

theorem settlements_empty : Settlements empty_storage where
  claims := fun _ _ h => by cases h
  payouts := fun _ => hasTotal_zero
  paid_claims := fun p => by
    have hnone : claims_of empty_storage p .Paid = ∅ := by
      ext id
      simp [claims_of, empty_storage]
    exact ⟨0, by rw [hnone, Set.encard_empty, Nat.cast_zero], rfl⟩
  queue_nodup := fun _ => List.nodup_nil
  queued := fun p id => by simp [queue, claims_of, empty_storage]

theorem Reviewed.paid_from_eq (h : Reviewed (s (.InsuranceClaim id)) (s' (.InsuranceClaim id))) :
    paid_from s' p id = paid_from s p id := by
  rcases h with heq | ⟨c', hc', -, -, ⟨hnone, hzero⟩ | ⟨c, hc, -, hpool, hpaid⟩⟩
  · rw [paid_from, heq, paid_from]
  · simp [paid_from, hc', hnone, hzero]
  · simp [paid_from, hc', hc, hpool, hpaid]

theorem Reviewed.mem_claims_of (h : Reviewed (s (.InsuranceClaim id)) (s' (.InsuranceClaim id)))
    (hstatus : in_payment status) : id ∈ claims_of s' p status ↔ id ∈ claims_of s p status := by
  rcases h with heq | ⟨c', hc', -, hnot', hbefore⟩
  · simp only [claims_of, Set.mem_ofPred_eq, heq]
  -- Neither of the two records is in payment.
  have hafter : id ∉ claims_of s' p status := by
    rintro ⟨d, hd, -, rfl⟩
    rw [hc', Option.some.injEq] at hd
    exact hnot' (hd ▸ hstatus)
  refine iff_of_false hafter ?_
  rintro ⟨d, hd, -, rfl⟩
  rcases hbefore with ⟨hnone, -⟩ | ⟨c, hc, hnot, -⟩
  · rw [hnone] at hd
    cases hd
  · rw [hc, Option.some.injEq] at hd
    exact hnot (hd ▸ hstatus)

/-- What touches no claim in payment and no counter of the payouts. -/
theorem Settlements.of_reviewed (hs : Settlements s)
    (hclaims : ∀ id, Reviewed (s (.InsuranceClaim id)) (s' (.InsuranceClaim id)))
    (hpools : ∀ p, (pool s' p).payout_total = (pool s p).payout_total ∧
      (pool s' p).paid_claims = (pool s p).paid_claims)
    (hqueues : ∀ p, queue s' p = queue s p) : Settlements s' where
  claims := by
    intro id c hc
    rcases hclaims id with heq | ⟨c', hc', haccounts, -⟩
    · exact hs.claims id c (by rw [← heq, hc])
    · rw [hc', Option.some.injEq] at hc
      exact hc ▸ haccounts
  payouts := by
    intro p
    rw [(hpools p).1]
    exact (hs.payouts p).congr fun id => (hclaims id).paid_from_eq
  paid_claims := by
    intro p
    have hsame : claims_of s' p .Paid = claims_of s p .Paid :=
      Set.ext fun id => (hclaims id).mem_claims_of (Or.inr rfl)
    rw [hsame, (hpools p).2]
    exact hs.paid_claims p
  queue_nodup := fun p => by
    rw [hqueues]
    exact hs.queue_nodup p
  queued := fun p id => by
    rw [hqueues, hs.queued]
    exact ((hclaims id).mem_claims_of (Or.inl rfl)).symm

/-! ## Tranches -/

theorem mem_requeue {ids : List U64} {settled : Bool} (hids : ids.Nodup) :
    id' ∈ requeue ids id settled ↔ (id' = id ∧ settled = false) ∨ (id' ≠ id ∧ id' ∈ ids) := by
  unfold requeue
  by_cases hsettled : settled = true
  · rw [if_pos hsettled, hids.mem_erase_iff, hsettled]
    simp
  · rw [if_neg hsettled]
    by_cases hmem : id ∈ ids
    · rw [if_pos hmem]
      by_cases hid : id' = id <;> simp_all
    · rw [if_neg hmem, List.mem_append, List.mem_singleton]
      by_cases hid : id' = id <;> simp_all

theorem nodup_requeue {ids : List U64} {settled : Bool} (hids : ids.Nodup) : (requeue ids id settled).Nodup := by
  unfold requeue
  split_ifs with hsettled hmem
  · exact hids.erase id
  · exact hids
  · rw [List.nodup_append_comm, List.singleton_append, List.nodup_cons]
    exact ⟨hmem, hids⟩

variable {now : U64} {paid : ℤ}

/-- The claims of a status after a tranche. -/
theorem Tranche.mem_claims_of (h : Tranche now s c paid s') :
    id ∈ claims_of s' p status ↔
      (id = c.claim_id ∧ c.pool_id = p ∧ paid_status (c.paid_amount + paid = c.amount) = status) ∨
        (id ≠ c.claim_id ∧ id ∈ claims_of s p status) := by
  by_cases hid : id = c.claim_id
  · rw [hid]
    simp [claims_of, h.claim_eq, paid_status]
  · have hsame := h.frame (.InsuranceClaim id) (by simp) (by simpa using hid) (by simp) (by simp)
    simp [claims_of, hid, hsame]

/-- The amount of a tranche is not negative and no more than what is owed. -/
theorem Tranche.paid_bounds (h : Tranche now s c paid s') : 0 ≤ paid ∧ c.paid_amount + paid ≤ c.amount := by
  have hunsettled := h.unsettled
  have hle : allowed s now c.pool_id (c.amount - c.paid_amount) ≤ c.amount - c.paid_amount := allowed_le
  rw [h.paid_eq]
  omega

theorem toNat_saturating_add (x : U32) : (saturating_add_u32 x 1).toNat = min (x.toNat + 1) (2 ^ 32 - 1) := by
  have hlt := x.toNat_lt
  have hone : (1 : U32).toNat = 1 := rfl
  unfold saturating_add_u32
  split_ifs with hfits
  · rw [UInt32.toNat_add]
    omega
  · rw [UInt32.toNat_ofNat']
    omega

/-- **A tranche keeps the accounts.** -/
theorem Settlements.tranche (hs : Settlements s) (h : Tranche now s c paid s')
    (hclaim : s (.InsuranceClaim c.claim_id) = some c) : Settlements s' := by
  have hunsettled := h.unsettled
  obtain ⟨hnonneg, hle⟩ := h.paid_bounds
  have haccounts := hs.claims _ c hclaim
  have hother : ∀ {p}, p ≠ c.pool_id → pool s' p = pool s p ∧ queue s' p = queue s p ∧ ∀ status,
      claims_of s' p status = claims_of s p status := by
    intro p hp
    refine ⟨pool_congr (h.frame _ (by simpa using hp) (by simp) (by simp) (by simp)), ?_, ?_⟩
    · rw [queue, h.frame _ (by simp) (by simp) (by simp) (by simpa using hp), queue]
    · intro status
      ext id
      rw [h.mem_claims_of]
      by_cases hid : id = c.claim_id
      · simp [hid, claims_of, hclaim, Ne.symm hp]
      · simp [hid]
  refine ⟨?_, ?_, ?_, ?_, ?_⟩
  · intro id d hd
    by_cases hid : id = c.claim_id
    · rw [hid, h.claim_eq, Option.some.injEq] at hd
      rw [← hd]
      refine ⟨?_, hle, ?_⟩
      · exact add_nonneg haccounts.paid_nonneg hnonneg
      · by_cases hsettled : c.paid_amount + paid = c.amount <;> simp [hsettled]
    · rw [h.frame _ (by simp) (by simpa using hid) (by simp) (by simp)] at hd
      exact hs.claims id d hd
  · intro p
    by_cases hp : p = c.pool_id
    · rw [hp, pool_eq_of_some h.pool_eq]
      apply (hs.payouts c.pool_id).change_to c.claim_id
      · intro id hid
        rw [paid_from, h.frame _ (by simp) (by simpa using hid) (by simp) (by simp), paid_from]
      · simp [paid_from, h.claim_eq, hclaim]
    · rw [(hother hp).1]
      apply (hs.payouts p).congr
      intro id
      by_cases hid : id = c.claim_id
      · rw [hid]
        simp [paid_from, h.claim_eq, hclaim, Ne.symm hp]
      · rw [paid_from, h.frame _ (by simp) (by simpa using hid) (by simp) (by simp), paid_from]
  · intro p
    by_cases hp : p = c.pool_id
    · obtain ⟨n, hn, hcount⟩ := hs.paid_claims c.pool_id
      -- The claim was not paid before.
      have hnot : c.claim_id ∉ claims_of s c.pool_id .Paid := by
        rintro ⟨d, hd, -, hpaid⟩
        rw [hclaim, Option.some.injEq] at hd
        rw [← hd, haccounts.paid_iff] at hpaid
        omega
      rw [hp, pool_eq_of_some h.pool_eq]
      by_cases hsettled : c.paid_amount + paid = c.amount
      · have hinsert : claims_of s' c.pool_id .Paid = insert c.claim_id (claims_of s c.pool_id .Paid) := by
          ext id
          rw [h.mem_claims_of, Set.mem_insert_iff]
          by_cases hid : id = c.claim_id <;> simp [hid, hsettled, paid_status]
        refine ⟨n + 1, ?_, ?_⟩
        · rw [hinsert, Set.encard_insert_of_notMem hnot, hn, Nat.cast_add, Nat.cast_one]
        · simp only [if_pos hsettled, toNat_saturating_add, hcount]
          omega
      · have hsame : claims_of s' c.pool_id .Paid = claims_of s c.pool_id .Paid := by
          ext id
          rw [h.mem_claims_of]
          by_cases hid : id = c.claim_id <;> simp [hid, hsettled, paid_status, hnot]
        refine ⟨n, ?_, ?_⟩
        · rw [hsame, hn]
        · simp only [if_neg hsettled, hcount]
    · rw [(hother hp).1, (hother hp).2.2]
      exact hs.paid_claims p
  · intro p
    by_cases hp : p = c.pool_id
    · rw [hp, h.queue_eq]
      exact nodup_requeue (hs.queue_nodup c.pool_id)
    · rw [(hother hp).2.1]
      exact hs.queue_nodup p
  · intro p id
    by_cases hp : p = c.pool_id
    · rw [hp, h.queue_eq, mem_requeue (hs.queue_nodup c.pool_id), h.mem_claims_of, hs.queued]
      by_cases hsettled : c.paid_amount + paid = c.amount <;> simp [hsettled, paid_status]
    · rw [(hother hp).2.1, (hother hp).2.2]
      exact hs.queued p id

theorem Settlements.queue_paid {ids : List U64} {total : ℤ} (hfiled : Filed s) (hs : Settlements s)
    (h : QueuePaid now s ids total s') : Settlements s' := by
  induction h with
  | done => exact hs
  | skip _ _ _ ih => exact ih hfiled hs
  | stop hclaim _ htranche => exact hs.tranche htranche (by rw [hfiled.claims _ _ hclaim, hclaim])
  | pay hclaim _ htranche _ _ ih =>
      have hown := hfiled.claims _ _ hclaim
      exact ih (htranche.filed hfiled (by rw [hown, hclaim])) (hs.tranche htranche (by rw [hown, hclaim]))

/-! ## Calls -/

/-- A call that pays nothing out leaves the claims in payment, the counters of the payouts, the queues and the
epochs, and takes no coverage away. -/
structure Unpaid (s s' : InsuranceStorage) : Prop where
  reviewed : ∀ id, Reviewed (s (.InsuranceClaim id)) (s' (.InsuranceClaim id))
  origins : ∀ id c', s' (.InsuranceClaim id) = some c' →
    (∃ c, s (.InsuranceClaim id) = some c ∧ c'.pool_id = c.pool_id ∧ c'.amount = c.amount) ∨
      ((s (.CoveragePool c'.pool_id)).isSome = true ∧ c'.amount ≤ (pool s c'.pool_id).active_coverage)
  known : ∀ p, (s (.CoveragePool p)).isSome = true → (s' (.CoveragePool p)).isSome = true
  pools : ∀ p, (pool s' p).payout_total = (pool s p).payout_total ∧ (pool s' p).paid_claims = (pool s p).paid_claims
  covers : ∀ p, (pool s p).active_coverage ≤ (pool s' p).active_coverage ∧
    ((pool s' p).active_coverage = (pool s p).active_coverage ∨ (pool s' p).active_coverage < 2 ^ 127)
  queues : ∀ p, s' (.PayoutQueue p) = s (.PayoutQueue p)
  epochs : ∀ p, s' (.PayoutEpoch p) = s (.PayoutEpoch p)

/-- What the pool's record says of the payouts and the coverage stays. -/
theorem covers_of_eq {r r' : PoolInfo} (h : r'.payout_total = r.payout_total ∧ r'.paid_claims = r.paid_claims ∧
      r'.active_coverage = r.active_coverage) :
    (r'.payout_total = r.payout_total ∧ r'.paid_claims = r.paid_claims) ∧ r.active_coverage ≤ r'.active_coverage ∧
      (r'.active_coverage = r.active_coverage ∨ r'.active_coverage < 2 ^ 127) :=
  ⟨⟨h.1, h.2.1⟩, h.2.2.ge, Or.inl h.2.2⟩

/-- A call that touches neither the claims nor the coverage. -/
theorem Unpaid.of_frame (hclaims : ∀ id, s' (.InsuranceClaim id) = s (.InsuranceClaim id))
    (hknown : ∀ p, (s (.CoveragePool p)).isSome = true → (s' (.CoveragePool p)).isSome = true)
    (hpools : ∀ p, (pool s' p).payout_total = (pool s p).payout_total ∧
      (pool s' p).paid_claims = (pool s p).paid_claims ∧ (pool s' p).active_coverage = (pool s p).active_coverage)
    (hqueues : ∀ p, s' (.PayoutQueue p) = s (.PayoutQueue p))
    (hepochs : ∀ p, s' (.PayoutEpoch p) = s (.PayoutEpoch p)) : Unpaid s s' :=
  ⟨fun id => Or.inl (hclaims id), fun id c' hc' => Or.inl ⟨c', by rw [← hclaims, hc'], rfl, rfl⟩, hknown,
    fun p => (covers_of_eq (hpools p)).1, fun p => (covers_of_eq (hpools p)).2, hqueues, hepochs⟩

/-- A call that touches one record, which is none of these. -/
theorem Unpaid.of_key {key : DataKey} (hframe : ∀ k, k ≠ key → s' k = s k) (hclaims : ∀ id, key ≠ .InsuranceClaim id)
    (hpools : ∀ p, key ≠ .CoveragePool p) (hqueues : ∀ p, key ≠ .PayoutQueue p) (hepochs : ∀ p, key ≠ .PayoutEpoch p) :
    Unpaid s s' := by
  have hpool := fun p => hframe _ (hpools p).symm
  apply Unpaid.of_frame (fun id => hframe _ (hclaims id).symm)
  · exact fun p h => by rwa [hpool p]
  · exact fun p => by simp [pool_congr (hpool p)]
  · exact fun p => hframe _ (hqueues p).symm
  · exact fun p => hframe _ (hepochs p).symm

/-- A call that rates or slashes a pool, or sells its coverage, has the record that it leaves. -/
theorem known_of_frame {r : PoolInfo} (hpool : s' (.CoveragePool p) = some r)
    (hframe : ∀ p', p' ≠ p → s' (.CoveragePool p') = s (.CoveragePool p')) (p' : SString)
    (h : (s (.CoveragePool p')).isSome = true) : (s' (.CoveragePool p')).isSome = true := by
  by_cases hp : p' = p
  · rw [hp]
    exact isSome_of_some hpool
  · rwa [hframe p' hp]

theorem Moved.pools {a : Address} {dx dp : ℤ} {others : List DataKey} (h : Moved s s' a p dx dp others)
    (hpools : ∀ p, DataKey.CoveragePool p ∉ others) (p' : SString) :
    (pool s' p').payout_total = (pool s p').payout_total ∧ (pool s' p').paid_claims = (pool s p').paid_claims ∧
      (pool s' p').active_coverage = (pool s p').active_coverage := by
  by_cases hp : p' = p
  · obtain ⟨rejected, hr⟩ := h.pool_eq
    rw [hp, pool_eq_of_some hr]
    exact ⟨rfl, rfl, rfl⟩
  · rw [h.pool_of_ne hp (hpools _)]
    exact ⟨rfl, rfl, rfl⟩

theorem Moved.pools_known {a : Address} {dx dp : ℤ} {others : List DataKey} (h : Moved s s' a p dx dp others)
    (hpools : ∀ p, DataKey.CoveragePool p ∉ others) (p' : SString) (h' : (s (.CoveragePool p')).isSome = true) :
    (s' (.CoveragePool p')).isSome = true := by
  obtain ⟨rejected, hr⟩ := h.pool_eq
  exact known_of_frame hr (fun p' hp => h.frame _ (by simp) (by simpa using hp) (hpools p')) p' h'

theorem queue_congr (h : s' (.PayoutQueue p) = s (.PayoutQueue p)) : queue s' p = queue s p := by
  rw [queue, h, queue]

/-- A movement that touches no claim. -/
theorem Moved.unpaid {a : Address} {dx dp : ℤ} {others : List DataKey} (h : Moved s s' a p dx dp others)
    (hclaims : ∀ id, DataKey.InsuranceClaim id ∉ others) (hpools : ∀ p, DataKey.CoveragePool p ∉ others)
    (hqueues : ∀ p, DataKey.PayoutQueue p ∉ others) (hepochs : ∀ p, DataKey.PayoutEpoch p ∉ others) : Unpaid s s' :=
  .of_frame (fun id => h.frame _ (by simp) (by simp) (hclaims id)) (h.pools_known hpools) (h.pools hpools)
    (fun p => h.frame _ (by simp) (by simp) (hqueues p)) fun p => h.frame _ (by simp) (by simp) (hepochs p)

/-- A review that leaves the accounts of an open claim. -/
theorem reviewed_of_open {c' : ClaimInfo} (hs : Settlements s) (hclaim : s (.InsuranceClaim id) = some c)
    (hopen : is_open c.status = true) (hclaim' : s' (.InsuranceClaim id) = some c') (hnot : ¬in_payment c'.status)
    (hsame : c'.pool_id = c.pool_id ∧ c'.amount = c.amount ∧ c'.paid_amount = c.paid_amount) :
    Reviewed (s (.InsuranceClaim id)) (s' (.InsuranceClaim id)) := by
  have haccounts := hs.claims id c hclaim
  refine Or.inr ⟨c', hclaim', ⟨?_, ?_, ?_⟩, hnot, Or.inr ⟨c, hclaim, not_in_payment_of_open hopen, hsame.1, hsame.2.2⟩⟩
  · rw [hsame.2.2]
    exact haccounts.paid_nonneg
  · rw [hsame.2.1, hsame.2.2]
    exact haccounts.paid_le
  · -- Neither record is paid in full.
    rw [hsame.2.1, hsame.2.2, ← haccounts.paid_iff]
    refine iff_of_false (fun hpaid => hnot (Or.inr hpaid)) ?_
    intro hpaid
    exact not_in_payment_of_open hopen (Or.inr hpaid)

/-- A call that reviews one open claim. -/
theorem Unpaid.of_review {c' : ClaimInfo} (hs : Settlements s) (hclaim : s (.InsuranceClaim id) = some c)
    (hopen : is_open c.status = true) (hclaim' : s' (.InsuranceClaim id) = some c') (hnot : ¬in_payment c'.status)
    (hsame : c'.pool_id = c.pool_id ∧ c'.amount = c.amount ∧ c'.paid_amount = c.paid_amount)
    (hother : ∀ id', id' ≠ id → s' (.InsuranceClaim id') = s (.InsuranceClaim id'))
    (hknown : ∀ p, (s (.CoveragePool p)).isSome = true → (s' (.CoveragePool p)).isSome = true)
    (hpools : ∀ p, (pool s' p).payout_total = (pool s p).payout_total ∧
      (pool s' p).paid_claims = (pool s p).paid_claims ∧ (pool s' p).active_coverage = (pool s p).active_coverage)
    (hqueues : ∀ p, s' (.PayoutQueue p) = s (.PayoutQueue p))
    (hepochs : ∀ p, s' (.PayoutEpoch p) = s (.PayoutEpoch p)) : Unpaid s s' := by
  refine ⟨?_, ?_, hknown, fun p => (covers_of_eq (hpools p)).1, fun p => (covers_of_eq (hpools p)).2, hqueues, hepochs⟩
  · intro id'
    by_cases hid : id' = id
    · rw [hid]
      exact reviewed_of_open hs hclaim hopen hclaim' hnot hsame
    · exact Or.inl (hother id' hid)
  · intro id' d hd
    by_cases hid : id' = id
    · rw [hid, hclaim', Option.some.injEq] at hd
      rw [hid, ← hd]
      exact Or.inl ⟨c, hclaim, hsame.1, hsame.2.1⟩
    · exact Or.inl ⟨d, by rw [← hother id' hid, hd], rfl, rfl⟩

variable {env : Env} {call : EntryPoint}

/-- **A call pays nothing out, or a tranche, or tranches of queued claims.** -/
theorem payment_cases (hs : Settlements s) (h : Outcome env s call s') :
    Unpaid s s' ∨
      (∃ admin id c paid, call = .execute_payout admin id ∧ s (.InsuranceClaim id) = some c ∧
        (c.status = .Approved ∨ c.status = .PartiallyPaid) ∧ Tranche env.timestamp s c paid s') ∨
      ∃ admin p total, call = .process_payout_queue admin p ∧ QueuePaid env.timestamp s (queue s p) total s' := by
  cases h with
  | opened _ _ hframe =>
      left
      apply Unpaid.of_frame (fun id => hframe _ (by simp)) _ _ (fun p => hframe _ (by simp)) fun p => hframe _ (by simp)
      · exact fun p h => by rwa [hframe _ (by simp)]
      · exact fun p => by simp [pool_congr (hframe (.CoveragePool p) (by simp))]
  | governed _ hframe | capped _ _ _ hframe => exact Or.inl (.of_key hframe (by simp) (by simp) (by simp) (by simp))
  | @rated _ p _ _ _ _ _ _ hpool hframe =>
      left
      apply Unpaid.of_frame (fun id => hframe _ (by simp)) _ _ (fun p => hframe _ (by simp)) fun p => hframe _ (by simp)
      · exact known_of_frame hpool fun p' hp => hframe _ (by simpa using hp)
      · intro p'
        by_cases hp : p' = p
        · rw [hp, pool_eq_of_some hpool]
          exact ⟨rfl, rfl, rfl⟩
        · simp [pool_congr (hframe (.CoveragePool p') (by simpa using hp))]
  | staked _ _ hmoved | premium_claimed hmoved => exact Or.inl (hmoved.unpaid (by simp) (by simp) (by simp) (by simp))
  | requested _ _ hmoved | withdrawn _ _ _ _ _ _ hmoved =>
      exact Or.inl (hmoved.unpaid (by simp) (by simp) (by simp) (by simp))
  | @purchased _ p _ _ _ _ _ _ _ _ hfits _ hpool hframe =>
      left
      have hother : ∀ {p'}, p' ≠ p → pool s' p' = pool s p' := fun hp => pool_congr (hframe _ (by simpa using hp))
      refine ⟨fun id => Or.inl (hframe _ (by simp)), ?_, ?_, ?_, ?_, fun p => hframe _ (by simp), fun p => hframe _ (by simp)⟩
      · exact fun id c' hc' => Or.inl ⟨c', by rw [← hframe _ (by simp), hc'], rfl, rfl⟩
      · exact known_of_frame hpool fun p' hp => hframe _ (by simpa using hp)
      · intro p'
        by_cases hp : p' = p
        · rw [hp, pool_eq_of_some hpool]
          exact ⟨rfl, rfl⟩
        · rw [hother hp]
          exact ⟨rfl, rfl⟩
      · intro p'
        by_cases hp : p' = p
        · rw [hp, pool_eq_of_some hpool]
          exact ⟨by dsimp only; omega, Or.inr hfits⟩
        · rw [hother hp]
          exact ⟨le_refl _, Or.inl rfl⟩
  | @submitted _ p _ _ id _ hpositive hknown hcovered _ _ _ hnone hclaim hframe =>
      left
      have hpool : ∀ p, s' (.CoveragePool p) = s (.CoveragePool p) := fun p => hframe _ (by simp) (by simp)
      refine ⟨?_, ?_, fun p h => by rwa [hpool], fun p => by simp [pool_congr (hpool p)],
        fun p => by simp [pool_congr (hpool p)], fun p => hframe _ (by simp) (by simp), fun p => hframe _ (by simp) (by simp)⟩
      · intro id'
        by_cases hsame : id' = id
        · rw [hsame]
          refine Or.inr ⟨_, hclaim, ⟨le_refl 0, hpositive.le, ?_⟩, not_in_payment_of_open rfl, Or.inl ⟨hnone, rfl⟩⟩
          simp [hpositive.ne]
        · exact Or.inl (hframe _ (by simpa using hsame) (by simp))
      · intro id' c' hc'
        by_cases hsame : id' = id
        · rw [hsame, hclaim, Option.some.injEq] at hc'
          rw [← hc']
          exact Or.inr ⟨hknown, hcovered⟩
        · exact Or.inl ⟨c', by rw [← hframe _ (by simpa using hsame) (by simp), hc'], rfl, rfl⟩
  | judged _ hclaim hopen hstays hclaim' hframe =>
      left
      apply Unpaid.of_review hs hclaim hopen hclaim' (not_in_payment_of_open hstays) ⟨rfl, rfl, rfl⟩
      · exact fun id' hid => hframe _ (by simpa using hid)
      · exact fun p h => by rwa [hframe _ (by simp)]
      · exact fun p => by simp [pool_congr (hframe (.CoveragePool p) (by simp))]
      · exact fun p => hframe _ (by simp)
      · exact fun p => hframe _ (by simp)
  | rejected hclaim hopen hmoved hclaim' =>
      left
      apply Unpaid.of_review hs hclaim hopen hclaim' (by simp [in_payment]) ⟨rfl, rfl, rfl⟩
      · exact fun id' hid => hmoved.frame _ (by simp) (by simp) (by simpa using hid)
      · exact hmoved.pools_known (by simp)
      · exact hmoved.pools (by simp)
      · exact fun p => hmoved.frame _ (by simp) (by simp) (by simp)
      · exact fun p => hmoved.frame _ (by simp) (by simp) (by simp)
  | paid hclaim hstatus htranche => exact Or.inr (Or.inl ⟨_, _, _, _, rfl, hclaim, hstatus, htranche⟩)
  | queue_paid hpaid => exact Or.inr (Or.inr ⟨_, _, _, rfl, hpaid⟩)

/-- **Every call keeps the accounts.** -/
theorem settlements_step (hfiled : Filed s) (hs : Settlements s) (h : Outcome env s call s') : Settlements s' := by
  rcases payment_cases hs h with hunpaid | ⟨_, _, c, _, -, hclaim, -, htranche⟩ | ⟨_, _, _, -, hpaid⟩
  · exact hs.of_reviewed hunpaid.reviewed hunpaid.pools fun p => queue_congr (hunpaid.queues p)
  · exact hs.tranche htranche (by rw [hfiled.claims _ _ hclaim, hclaim])
  · exact hs.queue_paid hfiled hpaid

theorem run_settlements {calls : List (Env × EntryPoint)} : Settlements (run empty_storage calls) :=
  (run_outcome (C := fun _ _ => True) (fun hfiled hs _ h => settlements_step hfiled hs h) filed_empty settlements_empty
    (Along.of_forall fun _ _ _ => trivial)).2

end Claims

/-! ## The order of the queue -/

/-- The claim is in payment, in part or in full. -/
def InPayment (s : InsuranceStorage) (id : U64) : Prop :=
  ∃ c, s (.InsuranceClaim id) = some c ∧ in_payment c.status

/-- At some point of the run the one claim was `PartiallyPaid`, and up to then the other never had been. -/
def became_before (p : SString) (calls : List (Env × EntryPoint)) (a b : U64) : Prop :=
  ∃ earlier later, calls = earlier ++ later ∧ a ∈ claims_of (run empty_storage earlier) p .PartiallyPaid ∧
    ∀ first rest, earlier = first ++ rest → b ∉ claims_of (run empty_storage first) p .PartiallyPaid

section Order

variable {env : Env} {s s' : InsuranceStorage} {call : EntryPoint} {p : SString} {id : U64} {c : ClaimInfo}
variable {calls later : List (Env × EntryPoint)} {t : Env × EntryPoint}

theorem requeue_cases (ids : List U64) (id : U64) (settled : Bool) :
    (requeue ids id settled).Sublist ids ∨ (id ∉ ids ∧ requeue ids id settled = ids ++ [id]) := by
  unfold requeue
  split_ifs with hsettled hmem
  · exact Or.inl List.erase_sublist
  · exact Or.inl (List.Sublist.refl ids)
  · exact Or.inr ⟨hmem, rfl⟩

/-- A tranche leaves a part of the queue, or puts its claim at the end. -/
theorem Tranche.queue_cases {now : U64} {paid : ℤ} (h : Tranche now s c paid s') :
    (queue s' p).Sublist (queue s p) ∨
      (c.pool_id = p ∧ c.claim_id ∉ queue s p ∧ queue s' p = queue s p ++ [c.claim_id]) := by
  by_cases hp : p = c.pool_id
  · rw [hp, h.queue_eq]
    rcases requeue_cases (queue s c.pool_id) c.claim_id (c.paid_amount + paid = c.amount) with hsub | ⟨hnot, heq⟩
    · exact Or.inl hsub
    · exact Or.inr ⟨rfl, hnot, heq⟩
  · rw [queue_congr (h.frame _ (by simp) (by simp) (by simp) (by simpa using hp))]
    exact Or.inl (List.Sublist.refl _)

/-- A claim that is queued is not put at the end again. -/
theorem Tranche.queue_sublist {now : U64} {paid : ℤ} (hs : Settlements s) (h : Tranche now s c paid s')
    (hclaim : s (.InsuranceClaim c.claim_id) = some c) (hstatus : c.status = .PartiallyPaid) :
    (queue s' p).Sublist (queue s p) := by
  rcases h.queue_cases (p := p) with hsub | ⟨hp, hnot, -⟩
  · exact hsub
  · rw [hs.queued] at hnot
    exact absurd ⟨c, hclaim, hp, hstatus⟩ hnot

theorem QueuePaid.queue_sublist {now : U64} {ids : List U64} {total : ℤ} (hfiled : Filed s) (hs : Settlements s)
    (h : QueuePaid now s ids total s') : (queue s' p).Sublist (queue s p) := by
  induction h with
  | done => exact List.Sublist.refl _
  | skip _ _ _ ih => exact ih hfiled hs
  | stop hclaim hstatus htranche =>
      exact htranche.queue_sublist hs (by rw [hfiled.claims _ _ hclaim, hclaim]) hstatus
  | pay hclaim hstatus htranche _ _ ih =>
      have hown := hfiled.claims _ _ hclaim
      exact (ih (htranche.filed hfiled (by rw [hown, hclaim])) (hs.tranche htranche (by rw [hown, hclaim]))).trans
        (htranche.queue_sublist hs (by rw [hown, hclaim]) hstatus)

/-- Only the first tranche of an approved claim puts something in the queue. -/
theorem queue_step (hfiled : Filed s) (hs : Settlements s) (h : Outcome env s call s') :
    (queue s' p).Sublist (queue s p) ∨ ∃ id, ¬InPayment s id ∧ queue s' p = queue s p ++ [id] := by
  rcases payment_cases hs h with hunpaid | ⟨_, id, c, _, -, hclaim, hstatus, htranche⟩ | ⟨_, _, _, -, hpaid⟩
  · rw [queue_congr (hunpaid.queues p)]
    exact Or.inl (List.Sublist.refl _)
  · have hown := hfiled.claims _ _ hclaim
    rcases hstatus with happroved | hunpaid
    · rcases htranche.queue_cases (p := p) with hsub | ⟨-, -, heq⟩
      · exact Or.inl hsub
      · refine Or.inr ⟨c.claim_id, ?_, heq⟩
        rintro ⟨d, hd, hpaid⟩
        rw [hown, hclaim, Option.some.injEq] at hd
        rw [← hd, happroved] at hpaid
        simp [in_payment] at hpaid
    · exact Or.inl (htranche.queue_sublist hs (by rw [hown, hclaim]) hunpaid)
  · exact Or.inl (hpaid.queue_sublist hfiled hs)

theorem Tranche.in_payment {now : U64} {paid : ℤ} (h : Tranche now s c paid s') (hid : InPayment s id) :
    InPayment s' id := by
  by_cases hkey : id = c.claim_id
  · rw [hkey]
    refine ⟨_, h.claim_eq, ?_⟩
    by_cases hsettled : c.paid_amount + paid = c.amount <;> simp [Insurance.in_payment, hsettled]
  · obtain ⟨d, hd, hpaid⟩ := hid
    exact ⟨d, by rw [h.frame _ (by simp) (by simpa using hkey) (by simp) (by simp), hd], hpaid⟩

theorem QueuePaid.in_payment {now : U64} {ids : List U64} {total : ℤ} (h : QueuePaid now s ids total s')
    (hid : InPayment s id) : InPayment s' id := by
  induction h with
  | done => exact hid
  | skip _ _ _ ih => exact ih hid
  | stop _ _ htranche => exact htranche.in_payment hid
  | pay _ _ htranche _ _ ih => exact ih (htranche.in_payment hid)

/-- A claim that is in payment stays in payment. -/
theorem in_payment_step (hs : Settlements s) (h : Outcome env s call s') (hid : InPayment s id) : InPayment s' id := by
  rcases payment_cases hs h with hunpaid | ⟨_, _, _, _, -, -, -, htranche⟩ | ⟨_, _, _, -, hpaid⟩
  · obtain ⟨c, hc, hpayment⟩ := hid
    rcases hunpaid.reviewed id with heq | ⟨_, -, -, -, ⟨hnone, -⟩ | ⟨d, hd, hnot, -⟩⟩
    · exact ⟨c, by rw [heq, hc], hpayment⟩
    · rw [hc] at hnone
      cases hnone
    · rw [hc, Option.some.injEq] at hd
      exact absurd (hd ▸ hpayment) hnot
  · exact htranche.in_payment hid
  · exact hpaid.in_payment hid

theorem in_payment_run (hfiled : Filed s) (hs : Settlements s) (hid : InPayment s id) : InPayment (run s calls) id :=
  (run_outcome (C := fun _ _ => True) (I := fun s => Settlements s ∧ InPayment s id)
    (fun hfiled hs _ h => ⟨settlements_step hfiled hs.1 h, in_payment_step hs.1 h hs.2⟩) hfiled ⟨hs, hid⟩
    (Along.of_forall fun _ _ _ => trivial)).2.2

theorem became_before.append {a b : U64} (h : became_before p calls a b) : became_before p (calls ++ later) a b := by
  obtain ⟨earlier, rest, rfl, ha, hb⟩ := h
  exact ⟨earlier, rest ++ later, List.append_assoc .., ha, hb⟩

/-- **The queue is in the order in which its claims became `PartiallyPaid`.** -/
theorem queue_ordered : (queue (run empty_storage calls) p).Pairwise (became_before p calls) := by
  induction calls using List.reverseRecOn with
  | nil => exact List.Pairwise.nil
  | append_singleton calls t ih =>
      have hbefore : (queue (run empty_storage calls) p).Pairwise (became_before p (calls ++ [t])) :=
        ih.imp became_before.append
      rw [run, runFrom_append, runFrom_cons, runFrom_nil]
      rcases step_cases exec (run empty_storage calls) t with hok | ⟨-, heq⟩
      · obtain ⟨env, call⟩ := t
        rcases queue_step (p := p) run_filed run_settlements (outcome_of_exec run_filed hok) with hsub | ⟨id, hnot, heq⟩
        · exact hbefore.sublist hsub
        · -- The claims of the queue were there before the new one.
          rw [heq, List.pairwise_append]
          refine ⟨hbefore, List.pairwise_singleton _ _, ?_⟩
          intro a ha b hb
          obtain rfl := List.mem_singleton.mp hb
          refine ⟨calls, _, rfl, (run_settlements.queued p a).mp ha, ?_⟩
          rintro first rest rfl ⟨c, hc, -, hunpaid⟩
          rw [run, runFrom_append] at hnot
          exact hnot (in_payment_run run_filed run_settlements ⟨c, hc, Or.inl hunpaid⟩)
      · rw [heq]
        exact hbefore

/-- **Claim settlement accounting**, in every reachable state. -/
theorem claims_settle (calls : List (Env × EntryPoint)) :
    Settlements (run empty_storage calls) ∧
      ∀ p, (queue (run empty_storage calls) p).Pairwise (became_before p calls) :=
  ⟨run_settlements, fun _ => queue_ordered⟩

end Order

end BridgeWatch.Insurance

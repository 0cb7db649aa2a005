/-
The pools of the fee distribution.

A distribution and a collection change a pool that is there: the accumulator does not sink, and the part of
the governance is the result of a checked addition. No call removes a pool, and a new one is empty.
-/
import BridgeWatch.FeeFrames

set_option autoImplicit false

namespace BridgeWatch.FeeDistribution

open Transaction CheckedIntegers HostCalls
open Contract (U32 U64 Address Env)

/-! ## Growth -/

/-- What a distribution can make of the record of a pool. -/
inductive Grown : Option FeePool → Option FeePool → Prop where
  | absent : Grown none none
  | grown {p p' : FeePool} (hacc : p.acc_fee_per_share ≤ p'.acc_fee_per_share)
      (hgovernance : p'.governance_pool = p.governance_pool ∨ FitsI128 p'.governance_pool) : Grown (some p) (some p')

theorem Grown.refl : (o : Option FeePool) → Grown o o
  | none => .absent
  | some _ => .grown (Int.le_refl _) (.inl rfl)

theorem Grown.trans {o o' o'' : Option FeePool} (h : Grown o o') (h' : Grown o' o'') : Grown o o'' := by
  cases h with
  | absent => exact h'
  | grown hacc hgovernance =>
      cases h' with
      | grown hacc' hgovernance' =>
          refine .grown (Int.le_trans hacc hacc') ?_
          rcases hgovernance' with heq | hfits
          · rw [heq]
            exact hgovernance
          · exact .inr hfits

/-- Every pool has grown. -/
def Grows (s s' : FeeStorage) : Prop := ∀ token, Grown (s (.FeePool token)) (s' (.FeePool token))

theorem Grows.refl (s : FeeStorage) : Grows s s := fun _ => .refl _

theorem Grows.trans {s s' s'' : FeeStorage} (h : Grows s s') (h' : Grows s' s'') : Grows s s'' :=
  fun token => (h token).trans (h' token)

theorem Grows.of_eq {s s' : FeeStorage} (h : ∀ token, s' (.FeePool token) = s (.FeePool token)) : Grows s s' :=
  fun token => (h token).symm ▸ .refl _

/-- Another record is stored. -/
theorem Grows.save {s : FeeStorage} {key : DataKey} {value : Option key.Val} (hkey : ∀ token, .FeePool token ≠ key) :
    Grows s (Function.update s key value) :=
  Grows.of_eq fun token => Function.update_of_ne (hkey token) _ _

/-- One pool has grown. -/
theorem Grows.update {s : FeeStorage} {token : Address} {p p' : FeePool} (hp : s (.FeePool token) = some p)
    (hacc : p.acc_fee_per_share ≤ p'.acc_fee_per_share)
    (hgovernance : p'.governance_pool = p.governance_pool ∨ FitsI128 p'.governance_pool) :
    Grows s (Function.update s (.FeePool token) (some p')) := by
  intro t
  by_cases heq : t = token
  · rw [heq, Function.update_self, hp]
    exact .grown hacc hgovernance
  · rw [Function.update_of_ne (fun h => heq (DataKey.FeePool.inj h))]
    exact .refl _

/-! ## Distributions -/

section Distributions

variable [Deployed] {env : Env} {s s' : FeeStorage} {terms : Terms} {token : Address} {pool pool' : FeePool}

omit [Deployed] in
theorem credit_stakers_acc {total_staked stakers_amt : ℤ}
    (h : credit_stakers pool total_staked stakers_amt env s = .ok (pool', s')) :
    s' = s ∧ pool.acc_fee_per_share ≤ pool'.acc_fee_per_share := by
  have hstore : s' = s := Writes.store_eq inferInstance h
  refine ⟨hstore, ?_⟩
  simp only [credit_stakers, ite_eq_ok, bind_eq_ok, expect_eq_ok, pure_eq_ok, checked_mul_eq_some,
    checked_add_eq_some] at h
  rcases h with ⟨⟨hstaked, hamount⟩, h⟩ | ⟨-, ⟨-, h⟩ | ⟨-, rfl, -⟩⟩
  · obtain ⟨product, _, ⟨⟨-, rfl⟩, -⟩, acc, _, ⟨⟨-, rfl⟩, -⟩, rfl, -⟩ := h
    have hnonneg : 0 ≤ (stakers_amt * PRECISION).tdiv total_staked :=
      Int.tdiv_nonneg (Int.mul_nonneg hamount.le (by decide)) hstaked.le
    exact Int.le_add_of_nonneg_right hnonneg
  · obtain ⟨governance_pool, _, -, rfl, -⟩ := h
    exact Int.le_refl _
  · exact Int.le_refl _

theorem distribute_pool_grows {distribution_count : U32} {done : List Event × U32}
    (hpool : s (.FeePool token) = some pool)
    (h : distribute_pool terms token pool distribution_count env s = .ok (done, s')) : Grows s s' := by
  simp only [distribute_pool, bind_eq_ok] at h
  obtain ⟨stakers_amt, s₁, hstakers, governance_amt, s₂, hgovernance, rest, s₃, hrest, treasury_amt, s₄, htreasury,
    pool', s₅, hcredit, governance_pool, s₆, hsum, swept, s₇, hsweep, h⟩ := h
  obtain rfl : s₁ = s := Writes.store_eq inferInstance hstakers
  obtain rfl : s₂ = s₁ := Writes.store_eq inferInstance hgovernance
  obtain rfl : s₃ = s₂ := Writes.store_eq inferInstance hrest
  obtain rfl : s₄ = s₃ := Writes.store_eq inferInstance htreasury
  obtain ⟨rfl, hacc⟩ := credit_stakers_acc hcredit
  obtain ⟨hfits, rfl⟩ := expect_eq_ok.mp hsum
  have hfits := (checked_add_eq_some.mp hfits).elim fun hfits heq => heq ▸ hfits
  have hsame (t : Address) : s₇ (.FeePool t) = s₆ (.FeePool t) :=
    (inferInstance : Writes [.Balance, .Setting] (sweep_treasury terms token treasury_amt)).frame hsweep _ (by simp)
  simp only [expect_eq_ok, reads_eq_ok, save_eq_ok, and_assoc, exists_and_left, exists_eq_left, exists_const] at h
  obtain ⟨total_distributed, -, next, s₈, hnext, -, rfl⟩ := h
  obtain rfl := Writes.store_eq inferInstance hnext
  refine (Grows.of_eq hsame).trans (Grows.trans ?_ (Grows.save fun t => by simp))
  exact Grows.update ((hsame token).trans hpool) hacc (.inr hfits)

theorem distribute_token_grows {distribution_count : U32} {done : List Event × U32}
    (h : distribute_token terms token distribution_count env s = .ok (done, s')) : Grows s s' := by
  simp only [distribute_token, bind_eq_ok, load_eq_ok, elim_eq_ok, ite_eq_ok, pure_eq_ok, and_assoc,
    exists_and_left, exists_eq_left] at h
  rcases h with ⟨-, -, rfl⟩ | ⟨pool, hpool, ⟨-, -, rfl⟩ | ⟨-, h⟩⟩
  · exact .refl _
  · exact .refl _
  · exact distribute_pool_grows hpool h

theorem distribute_tokens_grows {tokens : List Address} {distribution_count : U32} {done : List Event × U32}
    (h : distribute_tokens terms tokens distribution_count env s = .ok (done, s')) : Grows s s' := by
  induction tokens generalizing s distribution_count done with
  | nil =>
      obtain ⟨-, rfl⟩ := pure_eq_ok.mp h
      exact .refl _
  | cons _ _ ih =>
      simp only [distribute_tokens, bind_eq_ok] at h
      obtain ⟨first, s₁, hfirst, rest, s₂, hrest, h⟩ := h
      obtain ⟨-, rfl⟩ := pure_eq_ok.mp h
      exact (distribute_token_grows hfirst).trans (ih hrest)

theorem do_distribute_grows {tokens : List Address} {done : List Event}
    (h : do_distribute tokens env s = .ok (done, s')) : Grows s s' := by
  simp only [do_distribute, bind_eq_ok, load_eq_ok, expect_eq_ok, reads_eq_ok, save_eq_ok, pure_eq_ok, and_assoc,
    exists_and_left, exists_eq_left, exists_const] at h
  obtain ⟨ratios, -, total_staked, -, treasury, -, threshold, s₁, hthreshold, count, -, counted, s₂, hdone, -, rfl⟩ := h
  obtain rfl : s₁ = s := Writes.store_eq inferInstance hthreshold
  refine (distribute_tokens_grows hdone).trans (Grows.trans (Grows.save fun t => ?_) (Grows.save fun t => ?_))
  · simp
  · simp

theorem maybe_auto_distribute_grows {done : List Event} (h : maybe_auto_distribute env s = .ok (done, s')) :
    Grows s s' := by
  simp only [maybe_auto_distribute, bind_eq_ok, load_eq_ok, expect_eq_ok, ite_eq_ok, pure_eq_ok, reads_eq_ok,
    and_assoc, exists_and_left, exists_eq_left] at h
  obtain ⟨interval, -, ⟨-, -, rfl⟩ | ⟨-, last, -, ⟨-, tokens, -, h⟩ | ⟨-, -, rfl⟩⟩⟩ := h
  · exact .refl _
  · exact do_distribute_grows h
  · exact .refl _

theorem collect_fees_grows {collector : Address} {amount : ℤ} {done : List Event}
    (h : collect_fees collector token amount env s = .ok (done, s')) : Grows s s' := by
  simp only [collect_fees, bind_eq_ok, load_eq_ok, expect_eq_ok, panic_if_eq_ok, save_eq_ok, and_assoc,
    exists_and_left, exists_eq_left, exists_const] at h
  obtain ⟨_, s₁, hauth, _, s₂, hemergency, -, admin, -, collectors, -, -, _, s₃, hsupported, _, s₄, htransfer, pool,
    hpool, total_collected, -, pending, -, h⟩ := h
  obtain rfl : s₁ = s := Writes.store_eq inferInstance hauth
  obtain rfl : s₂ = s₁ := Writes.store_eq inferInstance hemergency
  obtain rfl : s₃ = s₂ := Writes.store_eq inferInstance hsupported
  have hsame (t : Address) : s₄ (.FeePool t) = s₃ (.FeePool t) :=
    (inferInstance : Writes [.Balance] (transfer token collector current_contract_address amount)).frame htransfer _
      (by simp)
  refine (Grows.of_eq hsame).trans (Grows.trans ?_ (maybe_auto_distribute_grows h))
  exact Grows.update hpool (Int.le_refl _) (.inl rfl)

theorem distribute_fees_grows {tokens : List Address} {done : List Event}
    (h : distribute_fees tokens env s = .ok (done, s')) : Grows s s' := by
  simp only [distribute_fees, bind_eq_ok] at h
  obtain ⟨_, s₁, hguard, h⟩ := h
  obtain rfl : s₁ = s := Writes.store_eq inferInstance hguard
  simp only [ite_eq_ok, bind_eq_ok, load_eq_ok, expect_eq_ok, and_assoc, exists_and_left, exists_eq_left] at h
  rcases h with ⟨-, registered, -, h⟩ | ⟨-, h⟩
  · exact do_distribute_grows h
  · exact do_distribute_grows h

end Distributions

/-! ## Calls -/

section Calls

variable [Deployed] {env : Env} {s s' : FeeStorage}

/-- What a call can make of the pools: they grow, or an empty one is registered. -/
inductive PoolChange (s s' : FeeStorage) : Prop where
  | grows (h : Grows s s')
  | registered (token : Address) (now : U64) (hnone : s (.FeePool token) = none)
      (hlisted : ∃ tokens, s' .Tokens = some tokens ∧ token ∈ tokens)
      (hpool : s' (.FeePool token) = some (new_pool token now))
      (hothers : ∀ t, t ≠ token → s' (.FeePool t) = s (.FeePool t))

theorem add_fee_token_change {token : Address} (h : add_fee_token token env s = .ok ((), s')) : PoolChange s s' := by
  simp only [add_fee_token, bind_eq_ok, load_eq_ok, expect_eq_ok, exec_if_eq_ok, save_eq_ok, reads_eq_ok,
    push_back_eq_ok, and_assoc, exists_and_left, exists_eq_left, exists_const] at h
  obtain ⟨_, s₁, hadmin, tokens, -, ⟨hnew, -, h⟩ | ⟨-, rfl⟩⟩ := h
  · obtain rfl : s₁ = s := Writes.store_eq inferInstance hadmin
    have hsave : Grows s₁ (Function.update s₁ .Tokens (some (tokens ++ [token]))) := Grows.save fun t => by simp
    rcases h with ⟨hnone, rfl⟩ | ⟨-, rfl⟩
    · have hkey : DataKey.FeePool token ≠ .Tokens := by simp
      rw [Function.update_of_ne hkey, Option.isNone_iff_eq_none] at hnone
      refine .registered token env.timestamp hnone ⟨tokens ++ [token], ?_, List.mem_concat_self⟩
        (Function.update_self _ _ _) ?_
      · rw [Function.update_of_ne (by simp), Function.update_self]
      · intro t hne
        rw [Function.update_of_ne (fun heq => hne (DataKey.FeePool.inj heq)), Function.update_of_ne (by simp)]
    · exact .grows hsave
  · rw [Writes.store_eq inferInstance hadmin]
    exact .grows (.refl s)

theorem create_vesting_schedule_grows {beneficiary token : Address} {amount : ℤ} {duration_secs cliff_secs : U64}
    (h : create_vesting_schedule beneficiary token amount duration_secs cliff_secs env s = .ok ((), s')) :
    Grows s s' := by
  simp only [create_vesting_schedule, bind_eq_ok, load_eq_ok, expect_eq_ok, panic_if_eq_ok, save_eq_ok, reads_eq_ok,
    and_assoc, exists_and_left, exists_eq_left, exists_const, checked_sub_eq_some] at h
  obtain ⟨_, s₁, hadmin, _, s₂, hemergency, -, -, -, pool, hpool, -, hfits, count, -, _, s₃, hnext, rfl⟩ := h
  obtain rfl : s₁ = s := Writes.store_eq inferInstance hadmin
  obtain rfl : s₂ = s₁ := Writes.store_eq inferInstance hemergency
  rw [Writes.store_eq inferInstance hnext]
  refine Grows.trans (Grows.trans ?_ (Grows.save fun t => ?_)) (Grows.save fun t => ?_)
  · exact Grows.update hpool (Int.le_refl _) (.inr hfits)
  · simp
  · simp

/-- **The pools** after a call. -/
theorem exec_pools {call : EntryPoint} (h : exec call env s = .ok ((), s')) : PoolChange s s' := by
  have hframe (hcall : Tag.FeePool ∉ writes call) : PoolChange s s' :=
    .grows (Grows.of_eq fun token => exec_frame h hcall)
  obtain ⟨done, s₁, hperform, hs⟩ := bind_eq_ok.mp h
  obtain ⟨-, rfl⟩ := pure_eq_ok.mp hs
  cases call
  case add_fee_token token =>
    obtain ⟨_, s₂, hadd, hs⟩ := bind_eq_ok.mp hperform
    obtain ⟨-, rfl⟩ := pure_eq_ok.mp hs
    exact add_fee_token_change hadd
  case collect_fees => exact .grows (collect_fees_grows hperform)
  case distribute_fees => exact .grows (distribute_fees_grows hperform)
  case create_vesting_schedule =>
    obtain ⟨_, s₂, hcreate, hs⟩ := bind_eq_ok.mp hperform
    obtain ⟨-, rfl⟩ := pure_eq_ok.mp hs
    exact .grows (create_vesting_schedule_grows hcreate)
  all_goals exact hframe (by simp [writes])

end Calls

/-! ## Concrete runs -/

/-- An address for a concrete run. -/
def account (n : UInt8) : Address := .account (Vector.replicate 32 n)

/-- The contract of a concrete run. -/
abbrev deployed : Deployed := ⟨account 0⟩

/-- A time at which every address has authorised its call. -/
def signed_at (timestamp : U64) : Env := { timestamp, auth := fun _ => true }

end BridgeWatch.FeeDistribution

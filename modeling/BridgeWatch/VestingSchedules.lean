/-
Vesting schedules of the fee distribution.

A schedule vests linearly, and what it has paid is at most what had vested at the last call. An attempt to
claim after the cliff brings the claimed amount to what has vested by then, whatever was claimed before: it
fails if that is nothing new. The product of the total and the time is taken in 128 bits, so the attempt
also fails, although something has vested, when the product is larger.
-/
import BridgeWatch.FeePools
import Mathlib.Data.List.Pairwise

set_option autoImplicit false

namespace BridgeWatch.FeeDistribution

open Transaction CheckedIntegers HostCalls
open Contract (U32 U64 Address Env saturating_sub_u64)

/-! ## What has vested -/

/-- The seconds since the start of a schedule. -/
def elapsed (schedule : VestingSchedule) (now : U64) : U64 := saturating_sub_u64 now schedule.start_time

/-- The part of the total for the seconds that have passed, rounded down. -/
def vested_at (schedule : VestingSchedule) (now : U64) : ℤ :=
  schedule.total_amount * min ((elapsed schedule now).toNat : ℤ) schedule.duration.toNat / schedule.duration.toNat

/-- The product that `claim_vested` takes in 128 bits fits, if it takes one. -/
def Countable (schedule : VestingSchedule) (now : U64) : Prop :=
  schedule.duration ≤ elapsed schedule now ∨ schedule.total_amount * (elapsed schedule now).toNat < 2 ^ 128

instance (schedule : VestingSchedule) (now : U64) : Decidable (Countable schedule now) :=
  inferInstanceAs (Decidable (_ ∨ _))

/-- The terms that `create_vesting_schedule` accepts. -/
structure VestingSchedule.Accepted (schedule : VestingSchedule) : Prop where
  total_pos : 0 < schedule.total_amount
  total_lt : schedule.total_amount < 2 ^ 127
  duration_pos : 0 < schedule.duration.toNat
  cliff_le : schedule.cliff ≤ schedule.duration

/-- No more has been claimed than has vested. -/
structure VestingSchedule.Sound (schedule : VestingSchedule) (now : U64) : Prop extends schedule.Accepted where
  claimed_nonneg : 0 ≤ schedule.claimed_amount
  claimed_le : schedule.claimed_amount ≤ vested_at schedule now

section Vested

variable {schedule : VestingSchedule} {now later : U64}

theorem toNat_elapsed : (elapsed schedule now).toNat = now.toNat - schedule.start_time.toNat := by
  unfold elapsed saturating_sub_u64
  split
  · next hstart =>
      have hlt := UInt64.lt_iff_toNat_lt.mp hstart
      exact (Nat.sub_eq_zero_of_le hlt.le).symm
  · next hstart => exact UInt64.toNat_sub_of_le _ _ (UInt64.not_lt.mp hstart)

theorem elapsed_mono (h : now ≤ later) : (elapsed schedule now).toNat ≤ (elapsed schedule later).toNat := by
  have hle := UInt64.le_iff_toNat_le.mp h
  rw [toNat_elapsed, toNat_elapsed]
  omega

namespace VestingSchedule.Accepted

variable (h : schedule.Accepted)

include h

theorem vested_mono (hle : now ≤ later) : vested_at schedule now ≤ vested_at schedule later := by
  have htime : (elapsed schedule now).toNat ≤ (elapsed schedule later).toNat := elapsed_mono hle
  apply Int.ediv_le_ediv (Int.natCast_pos.mpr h.duration_pos)
  exact Int.mul_le_mul_of_nonneg_left (by omega) h.total_pos.le

theorem vested_nonneg : 0 ≤ vested_at schedule now :=
  Int.ediv_nonneg (Int.mul_nonneg h.total_pos.le (by omega)) (by omega)

theorem vested_le : vested_at schedule now ≤ schedule.total_amount := by
  have hpos := h.duration_pos
  apply Int.ediv_le_of_le_mul (by omega)
  exact Int.mul_le_mul_of_nonneg_left (by omega) h.total_pos.le

/-- **The linear formula** in 128 bits is the exact one, or it overflows. -/
theorem vested_total_eq (env : Env) (s : FeeStorage) :
    vested_total schedule (elapsed schedule now) env s =
      if Countable schedule now then .ok (vested_at schedule now, s) else .error "overflow" := by
  have hpos := h.duration_pos
  unfold vested_total
  by_cases hdone : elapsed schedule now ≥ schedule.duration
  · have hall : vested_at schedule now = schedule.total_amount := by
      have hle := UInt64.le_iff_toNat_le.mp hdone
      rw [vested_at, min_eq_right (by omega), Int.mul_ediv_cancel _ (by omega)]
    rw [if_pos hdone, if_pos (.inl hdone), hall]
    rfl
  · have hlt : (elapsed schedule now).toNat < schedule.duration.toNat := by
      rw [ge_iff_le, UInt64.le_iff_toNat_le] at hdone
      omega
    have htotal : (as_u128 schedule.total_amount : ℤ) = schedule.total_amount :=
      as_u128_of_fits h.total_pos.le h.total_lt
    rw [if_neg hdone]
    by_cases hfits : Countable schedule now
    · have hproduct := hfits.resolve_left hdone
      have hfits' : as_u128 schedule.total_amount * (elapsed schedule now).toNat < 2 ^ 128 := by
        rw [← htotal] at hproduct
        exact_mod_cast hproduct
      have hvested : vested_at schedule now = (as_u128 schedule.total_amount * (elapsed schedule now).toNat /
          schedule.duration.toNat : ℕ) := by
        rw [vested_at, min_eq_left (by omega), Int.natCast_ediv, Nat.cast_mul, htotal]
      have hi128 : as_i128 (as_u128 schedule.total_amount * (elapsed schedule now).toNat / schedule.duration.toNat) =
          vested_at schedule now := by
        have hle : vested_at schedule now ≤ schedule.total_amount := h.vested_le
        have hlt' := h.total_lt
        rw [as_i128_of_fits (by omega), hvested]
      rw [if_pos hfits, checked_mul_u128, if_pos hfits', ← hi128]
      rfl
    · have hover : ¬as_u128 schedule.total_amount * (elapsed schedule now).toNat < 2 ^ 128 := by
        intro hlt
        have hproduct : (as_u128 schedule.total_amount : ℤ) * (elapsed schedule now).toNat < 2 ^ 128 := by
          exact_mod_cast hlt
        rw [htotal] at hproduct
        exact hfits (.inr hproduct)
      rw [if_neg hfits, checked_mul_u128, if_neg hover]
      rfl

end VestingSchedule.Accepted

end Vested

/-! ## The calls -/

section Calls

variable [Deployed] {env : Env} {s s' : FeeStorage}

theorem require_auth_ok_iff {address : Address} {u : Unit} :
    require_auth address env s = .ok (u, s') ↔
      address ≠ current_contract_address ∧ env.auth address = true ∧ s' = s := by
  simp only [require_auth, bind_eq_ok, panic_if_eq_ok, HostCalls.require_auth_eq_ok, and_assoc, exists_and_left,
    exists_eq_left, exists_const]

/-- Every schedule is sound at the time. -/
def Vesting (now : U64) (s : FeeStorage) : Prop :=
  ∀ id schedule, s (.Vesting id) = some schedule → schedule.Sound now

/-- The governance's part of every pool is a number of the machine. -/
def Governed (s : FeeStorage) : Prop :=
  ∀ token pool, s (.FeePool token) = some pool → pool.governance_pool < 2 ^ 127

omit [Deployed] in
theorem VestingSchedule.Sound.mono {schedule : VestingSchedule} {now later : U64} (h : schedule.Sound now)
    (hle : now ≤ later) : schedule.Sound later :=
  { h with claimed_le := h.claimed_le.trans (h.vested_mono hle) }

theorem Governed.exec {call : EntryPoint} (hs : Governed s) (h : exec call env s = .ok ((), s')) : Governed s' := by
  intro token pool hpool
  cases exec_pools h with
  | grows hgrows =>
      have hgrown := hgrows token
      rw [hpool] at hgrown
      generalize hbefore : s (.FeePool token) = before at hgrown
      cases hgrown with
      | grown _ hgovernance =>
          rcases hgovernance with heq | hfits
          · rw [heq]
            exact hs token _ hbefore
          · exact hfits.2
  | registered fresh _ _ _ hfresh hothers =>
      by_cases heq : token = fresh
      · subst heq
        obtain rfl := Option.some.inj (hpool.symm.trans hfresh)
        exact (by decide : (0 : ℤ) < 2 ^ 127)
      · rw [hothers token heq] at hpool
        exact hs token pool hpool

theorem Vesting.create {beneficiary token : Address} {amount : ℤ} {duration_secs cliff_secs : U64}
    (hs : Vesting env.timestamp s) (hgoverned : Governed s)
    (h : create_vesting_schedule beneficiary token amount duration_secs cliff_secs env s = .ok ((), s')) :
    Vesting env.timestamp s' := by
  simp only [create_vesting_schedule, bind_eq_ok, load_eq_ok, expect_eq_ok, panic_if_eq_ok, save_eq_ok, reads_eq_ok,
    and_assoc, exists_and_left, exists_eq_left, exists_const, checked_sub_eq_some, checked_add_u32_eq_ok] at h
  obtain ⟨_, s₁, hadmin, _, s₂, hemergency, hamount, hduration, hcliff, pool, hpool, hle, -, count, -, -, rfl⟩ := h
  obtain rfl : s₁ = s := Writes.store_eq inferInstance hadmin
  obtain rfl : s₂ = s₁ := Writes.store_eq inferInstance hemergency
  intro id schedule hschedule
  rw [Function.update_of_ne (by simp)] at hschedule
  by_cases heq : id = count
  · rw [heq, Function.update_self] at hschedule
    obtain rfl := Option.some.inj hschedule
    have hgovernance := hgoverned token pool hpool
    have haccepted : VestingSchedule.Accepted
        { beneficiary, token, total_amount := amount, claimed_amount := 0, start_time := env.timestamp,
          duration := duration_secs, cliff := cliff_secs } := by
      refine ⟨not_le.mp hamount, (not_lt.mp hle).trans_lt hgovernance, ?_, UInt64.not_lt.mp hcliff⟩
      exact Nat.pos_of_ne_zero fun hzero => hduration (UInt64.toNat_inj.mp hzero)
    exact { haccepted with claimed_nonneg := Int.le_refl 0, claimed_le := haccepted.vested_nonneg }
  · rw [Function.update_of_ne (fun h => heq (DataKey.Vesting.inj h)), Function.update_of_ne (by simp)] at hschedule
    exact hs id schedule hschedule

/-- What a claim does to its schedule. -/
theorem claim_vested_schedule {id : U32} (h : claim_vested id env s = .ok ((), s')) :
    ∃ schedule vested, s (.Vesting id) = some schedule ∧
      vested_total schedule (elapsed schedule env.timestamp) env s = .ok (vested, s) ∧
      s' (.Vesting id) = some { schedule with claimed_amount := vested } ∧
      ∀ other, other ≠ id → s' (.Vesting other) = s (.Vesting other) := by
  simp only [claim_vested, bind_eq_ok, load_eq_ok, expect_eq_ok, panic_if_eq_ok, save_eq_ok, reads_eq_ok,
    require_auth_ok_iff, and_assoc, exists_and_left, exists_eq_left, exists_const, checked_sub_eq_some,
    checked_add_eq_some] at h
  obtain ⟨schedule, hschedule, -, -, -, vested, s₁, hvested, -, -, -, htransfer⟩ := h
  obtain rfl : s₁ = s := Writes.store_eq inferInstance hvested
  have hframe (other : U32) := (inferInstance : Writes [.Balance] (transfer schedule.token current_contract_address
    schedule.beneficiary (vested - schedule.claimed_amount))).frame htransfer (.Vesting other) (by simp)
  refine ⟨schedule, vested, hschedule, hvested, ?_, fun other hne => ?_⟩
  · rw [hframe id, Function.update_self, add_sub_cancel]
  · rw [hframe other, Function.update_of_ne (fun heq => hne (DataKey.Vesting.inj heq))]

theorem Vesting.claim {id : U32} (hs : Vesting env.timestamp s) (h : claim_vested id env s = .ok ((), s')) :
    Vesting env.timestamp s' := by
  obtain ⟨schedule, vested, hschedule, hvested, hclaimed, hothers⟩ := claim_vested_schedule h
  have hsound := hs id schedule hschedule
  rw [hsound.vested_total_eq, ite_eq_iff] at hvested
  obtain rfl : vested = vested_at schedule env.timestamp := by
    rcases hvested with ⟨-, heq⟩ | ⟨-, heq⟩
    · exact (Prod.mk.inj (Except.ok.inj heq)).1.symm
    · cases heq
  intro other schedule' hschedule'
  by_cases heq : other = id
  · rw [heq, hclaimed] at hschedule'
    obtain rfl := Option.some.inj hschedule'
    exact { total_pos := hsound.total_pos, total_lt := hsound.total_lt, duration_pos := hsound.duration_pos,
            cliff_le := hsound.cliff_le, claimed_nonneg := hsound.vested_nonneg, claimed_le := Int.le_refl _ }
  · rw [hothers other heq] at hschedule'
    exact hs other schedule' hschedule'

/-- **The step rule** of the schedules. -/
theorem Vesting.exec {call : EntryPoint} (hs : Vesting env.timestamp s) (hgoverned : Governed s)
    (h : FeeDistribution.exec call env s = .ok ((), s')) : Vesting env.timestamp s' := by
  have hframe (hcall : Tag.Vesting ∉ writes call) : Vesting env.timestamp s' := by
    intro id schedule hschedule
    have hsame : s' (.Vesting id) = s (.Vesting id) := exec_frame h hcall
    exact hs id schedule (hsame.symm.trans hschedule)
  obtain ⟨done, s₁, hperform, hreturn⟩ := bind_eq_ok.mp h
  obtain ⟨-, rfl⟩ := pure_eq_ok.mp hreturn
  cases call
  case create_vesting_schedule =>
    obtain ⟨_, s₂, hcreate, hreturn⟩ := bind_eq_ok.mp hperform
    obtain ⟨-, rfl⟩ := pure_eq_ok.mp hreturn
    exact hs.create hgoverned hcreate
  case claim_vested id =>
    obtain ⟨_, s₂, hclaim, hreturn⟩ := bind_eq_ok.mp hperform
    obtain ⟨-, rfl⟩ := pure_eq_ok.mp hreturn
    exact hs.claim hclaim
  all_goals exact hframe (by simp [writes])

end Calls

/-! ## Attempts -/

section Attempts

variable [Deployed]

/-- The beneficiary has authorised the call, and the token contract can make the transfer. -/
structure Payable (env : Env) (s : FeeStorage) (schedule : VestingSchedule) : Prop where
  authorized : env.auth schedule.beneficiary = true
  other : schedule.beneficiary ≠ current_contract_address
  covered : vested_at schedule env.timestamp - schedule.claimed_amount ≤
    (s (.Balance schedule.token current_contract_address)).getD 0
  fits : FitsI128 ((s (.Balance schedule.token schedule.beneficiary)).getD 0 +
    (vested_at schedule env.timestamp - schedule.claimed_amount))

/-- An attempt to claim a schedule past its cliff brings the claimed amount to what has vested, and fails only
when it is there already. -/
def Attempted (env : Env) (id : U32) (s s' : FeeStorage) : Prop :=
  ∀ schedule, s (.Vesting id) = some schedule → schedule.cliff ≤ elapsed schedule env.timestamp →
    Payable env s schedule →
      s' (.Vesting id) = some { schedule with claimed_amount := vested_at schedule env.timestamp } ∧
      ((∃ msg, exec (.claim_vested id) env s = .error msg) ↔
        vested_at schedule env.timestamp = schedule.claimed_amount)

variable {env : Env} {s s' : FeeStorage}

omit [Deployed] in
theorem transfer_succeeds {token sender recipient : Address} {amount : ℤ} (hnonneg : 0 ≤ amount)
    (hne : recipient ≠ sender) (hcovered : amount ≤ (s (.Balance token sender)).getD 0)
    (hfits : FitsI128 ((s (.Balance token recipient)).getD 0 + amount)) (env : Env) :
    ∃ s', transfer token sender recipient amount env s = .ok ((), s') := by
  simp only [transfer, bind_eq_ok, load_eq_ok, panic_if_eq_ok, save_eq_ok, expect_eq_ok, and_assoc, exists_and_left,
    exists_eq_left, exists_eq, exists_const, checked_add_eq_some, and_true]
  refine ⟨not_lt.mpr hnonneg, not_lt.mpr hcovered, ?_⟩
  rwa [Function.update_of_ne (fun h => hne (DataKey.Balance.inj h).2)]

/-- A call that reports nothing fails or succeeds with what it stands for. -/
theorem exec_claim_vested (id : U32) (env : Env) (s : FeeStorage) :
    exec (.claim_vested id) env s = claim_vested id env s := by
  cases h : claim_vested id env s with
  | error => exact bind_of_error (bind_of_error h)
  | ok => exact bind_of_ok (bind_of_ok h)

theorem attempted_of_countable {id : U32} (hs : Vesting env.timestamp s)
    (hcountable : ∀ schedule, s (.Vesting id) = some schedule → Countable schedule env.timestamp) :
    Attempted env id s (step exec (env, .claim_vested id) s) := by
  intro schedule hschedule hcliff hpayable
  have hsound := hs id schedule hschedule
  have hvested : vested_total schedule (elapsed schedule env.timestamp) env s =
      .ok (vested_at schedule env.timestamp, s) := by
    rw [hsound.vested_total_eq, if_pos (hcountable schedule hschedule)]
  have hle := hsound.claimed_le
  have hnonneg := hsound.claimed_nonneg
  have htotal : vested_at schedule env.timestamp ≤ schedule.total_amount := hsound.vested_le
  have hlt := hsound.total_lt
  have hload : get (.Vesting id) env s = .ok (some schedule, s) := by rw [← hschedule]; rfl
  have hauth : require_auth schedule.beneficiary env s = .ok ((), s) :=
    require_auth_ok_iff.mpr ⟨hpayable.other, hpayable.authorized, rfl⟩
  have hreached : (panic_if (elapsed schedule env.timestamp < schedule.cliff) "cliff period not reached" : Fees Unit)
      env s = .ok ((), s) := panic_if_eq_ok.mpr ⟨UInt64.not_lt.mpr hcliff, rfl⟩
  have hclaimable : (expect (checked_sub (vested_at schedule env.timestamp) schedule.claimed_amount) "underflow" :
      Fees ℤ) env s = .ok (vested_at schedule env.timestamp - schedule.claimed_amount, s) :=
    expect_eq_ok.mpr ⟨checked_sub_eq_some.mpr ⟨⟨by omega, by omega⟩, rfl⟩, rfl⟩
  have hclaim : exec (.claim_vested id) env s =
      (do
        panic_if (vested_at schedule env.timestamp - schedule.claimed_amount ≤ 0) "nothing vested to claim"
        let claimed_amount ← expect (checked_add schedule.claimed_amount
          (vested_at schedule env.timestamp - schedule.claimed_amount)) "overflow"
        set (.Vesting id) { schedule with claimed_amount }
        transfer schedule.token current_contract_address schedule.beneficiary
          (vested_at schedule env.timestamp - schedule.claimed_amount) : Fees Unit) env s := by
    have hfound : (expect (some schedule) "vesting schedule not found" : Fees VestingSchedule) env s =
        .ok (schedule, s) := rfl
    have htime : (timestamp : Fees U64) env s = .ok (env.timestamp, s) := rfl
    rw [exec_claim_vested, claim_vested, bind_of_ok hload, bind_of_ok hfound, bind_of_ok hauth, bind_of_ok htime]
    exact (bind_of_ok hreached).trans ((bind_of_ok hvested).trans (bind_of_ok hclaimable))
  rcases hle.eq_or_lt with heq | hnew
  · have hnothing : exec (.claim_vested id) env s = .error "nothing vested to claim" := by
      rw [hclaim]
      apply bind_of_error
      rw [panic_if, if_pos (by omega)]
    refine ⟨?_, iff_of_true ⟨_, hnothing⟩ heq.symm⟩
    have hsame : step exec (env, .claim_vested id) s = s := by
      unfold step
      rw [hnothing]
    rw [hsame, hschedule, ← heq]
  · have hamount : 0 < vested_at schedule env.timestamp - schedule.claimed_amount := by omega
    have hbalance (holder : Address) (o : Option VestingSchedule) :
        Function.update s (.Vesting id) o (.Balance schedule.token holder) = s (.Balance schedule.token holder) :=
      Function.update_of_ne (by simp) _ _
    obtain ⟨s', htransfer⟩ := transfer_succeeds
      (s := Function.update s (.Vesting id) (some { schedule with claimed_amount := schedule.claimed_amount +
        (vested_at schedule env.timestamp - schedule.claimed_amount) }))
      hamount.le hpayable.other (by rw [hbalance]; exact hpayable.covered) (by rw [hbalance]; exact hpayable.fits) env
    have hok : exec (.claim_vested id) env s = .ok ((), s') := by
      rw [hclaim]
      simp only [bind_eq_ok, panic_if_eq_ok, expect_eq_ok, save_eq_ok, checked_add_eq_some, and_assoc,
        exists_and_left, exists_eq_left, exists_const]
      exact ⟨by omega, ⟨by omega, by omega⟩, htransfer⟩
    have hstep : step exec (env, .claim_vested id) s = s' := by
      unfold step
      rw [hok]
    rw [hstep]
    refine ⟨?_, iff_of_false ?_ hnew.ne'⟩
    · obtain ⟨schedule', vested, hschedule', hvested', hclaimed, -⟩ :=
        claim_vested_schedule ((exec_claim_vested id env s).symm.trans hok)
      obtain rfl := Option.some.inj (hschedule.symm.trans hschedule')
      obtain rfl := (Prod.mk.inj (Except.ok.inj (hvested.symm.trans hvested'))).1
      exact hclaimed
    · rintro ⟨msg, herror⟩
      rw [hok] at herror
      cases herror

/-- The schedule that a call claims. -/
def claims : EntryPoint → Option U32
  | .claim_vested id => some id
  | _ => none

/-- A claim finds a schedule whose product fits. -/
def Fits (s : FeeStorage) (t : Env × EntryPoint) : Prop :=
  ∀ id ∈ claims t.2, ∀ schedule ∈ s (.Vesting id), Countable schedule t.1.timestamp

-- both quantifiers are over what is stored, not over the numbers
instance (s : FeeStorage) (t : Env × EntryPoint) : Decidable (Fits s t) :=
  @Option.decidableForallMem _ _ (fun id => Option.decidableForallMem (s (.Vesting id))) (claims t.2)

/-- The schedules of a run are sound at every later time. -/
theorem vesting_sound (balances : Address → Address → ℕ) {calls : List (Env × EntryPoint)}
    (hordered : calls.Pairwise fun t u => t.1.timestamp ≤ u.1.timestamp) {now : U64}
    (hnow : ∀ t ∈ calls, t.1.timestamp ≤ now) :
    Governed (run (unopened balances) calls) ∧ Vesting now (run (unopened balances) calls) := by
  induction calls using List.reverseRecOn generalizing now with
  | nil =>
      refine ⟨fun _ _ h => ?_, fun _ _ h => ?_⟩
      · cases h
      · cases h
  | append_singleton calls t ih =>
      obtain ⟨hbefore, -, hlast⟩ := List.pairwise_append.mp hordered
      obtain ⟨hgoverned, hvesting⟩ := ih hbefore fun u hu => hlast u hu t List.mem_cons_self
      have hle := hnow t (List.mem_append_right _ List.mem_cons_self)
      rw [run, runFrom_append, runFrom_cons, runFrom_nil]
      rcases step_cases exec (run (unopened balances) calls) t with hok | ⟨-, heq⟩
      · exact ⟨hgoverned.exec hok, fun id schedule h => (hvesting.exec hgoverned hok id schedule h).mono hle⟩
      · rw [heq]
        exact ⟨hgoverned, fun id schedule h => (hvesting id schedule h).mono hle⟩

/-- **Vesting** does not depend on the path. In a run in order of time whose claims all fit, every attempt brings
the claimed amount to what has vested; in every run in order of time it stays within the total. -/
theorem vesting_run (balances : Address → Address → ℕ) (calls : List (Env × EntryPoint))
    (hordered : calls.Pairwise fun t u => t.1.timestamp ≤ u.1.timestamp) :
    (Along exec Fits (unopened balances) calls → ∀ before env id after,
      calls = before ++ (env, .claim_vested id) :: after →
        Attempted env id (run (unopened balances) before)
          (run (unopened balances) (before ++ [(env, .claim_vested id)]))) ∧
    ∀ id schedule, run (unopened balances) calls (.Vesting id) = some schedule →
      0 ≤ schedule.claimed_amount ∧ schedule.claimed_amount ≤ schedule.total_amount := by
  refine ⟨?_, fun id schedule h => ?_⟩
  · rintro hfits before env id after rfl
    obtain ⟨hbefore, -, hlast⟩ := List.pairwise_append.mp hordered
    have hvesting := (vesting_sound balances hbefore fun t ht => hlast t ht _ List.mem_cons_self).2
    rw [run, run, runFrom_append, runFrom_cons, runFrom_nil]
    exact attempted_of_countable hvesting ((Along.append.mp hfits).2.1 id rfl)
  · have hlate (t : Env × EntryPoint) (_ : t ∈ calls) : t.1.timestamp ≤ UInt64.ofNat (2 ^ 64 - 1) := by
      have hlt := t.1.timestamp.toNat_lt
      rw [UInt64.le_iff_toNat_le, UInt64.toNat_ofNat']
      omega
    have hsound := (vesting_sound balances hordered hlate).2 id schedule h
    exact ⟨hsound.claimed_nonneg, hsound.claimed_le.trans hsound.vested_le⟩

end Attempts

/-! ## Examples -/

/-- The collector has all of one token. -/
def funded (amount : ℕ) (token holder : Address) : ℕ :=
  if token = account 4 ∧ holder = account 1 then amount else 0

/-- All that is collected goes to a schedule. -/
def allocation (amount : ℤ) (duration_secs : U64) : List (Env × EntryPoint) :=
  [(signed_at 0, .initialize_fee_distribution (account 1) (account 2) (account 3) ⟨0, 10000, 0⟩),
    (signed_at 0, .add_fee_token (account 4)), (signed_at 0, .collect_fees (account 1) (account 4) amount),
    (signed_at 0, .distribute_fees []),
    (signed_at 0, .create_vesting_schedule (account 5) (account 4) amount duration_secs 0)]

/-- The second claim pays the difference. -/
theorem vesting_run_two_claims :
    let _ : Deployed := deployed
    let before := allocation 1000000000 1000 ++ [(signed_at 100, .claim_vested 0)]
    Attempted (signed_at 401) 0 (run (unopened (funded 1000000000)) before)
        (run (unopened (funded 1000000000)) (before ++ [(signed_at 401, .claim_vested 0)])) ∧
      (run (unopened (funded 1000000000)) before (.Vesting 0)).map VestingSchedule.claimed_amount = some 100000000 ∧
      ∀ id schedule, run (unopened (funded 1000000000)) (before ++ [(signed_at 401, .claim_vested 0)]) (.Vesting id) =
        some schedule → 0 ≤ schedule.claimed_amount ∧ schedule.claimed_amount ≤ schedule.total_amount := by
  intro _ before
  obtain ⟨hattempts, hbounds⟩ := vesting_run (funded 1000000000) (before ++ [(signed_at 401, .claim_vested 0)])
    (by decide +kernel)
  exact ⟨hattempts (by decide +kernel) before _ _ [] rfl, by decide +kernel, hbounds⟩

/-- After four days the product of the total and the time has more than 128 bits, and the claim fails, although
a part has vested. -/
theorem vesting_overflows :
    let _ : Deployed := deployed
    let before := allocation (10 ^ 33) 126144000
    ¬Attempted (signed_at 345600) 0 (run (unopened (funded (10 ^ 33))) before)
      (run (unopened (funded (10 ^ 33))) (before ++ [(signed_at 345600, .claim_vested 0)])) := by
  intro _ before h
  have hschedule : run (unopened (funded (10 ^ 33))) before (.Vesting 0) =
      some ⟨account 5, account 4, 10 ^ 33, 0, 0, 126144000, 0⟩ := by decide +kernel
  have hpayable : Payable (signed_at 345600) (run (unopened (funded (10 ^ 33))) before)
      ⟨account 5, account 4, 10 ^ 33, 0, 0, 126144000, 0⟩ :=
    ⟨rfl, by decide +kernel, by decide +kernel, by decide +kernel⟩
  have hclaimed := (h _ hschedule (by decide +kernel) hpayable).1
  have hunpaid : run (unopened (funded (10 ^ 33))) (before ++ [(signed_at 345600, .claim_vested 0)]) (.Vesting 0) =
      some ⟨account 5, account 4, 10 ^ 33, 0, 0, 126144000, 0⟩ := by decide +kernel
  rw [hunpaid] at hclaimed
  exact absurd hclaimed (by decide +kernel)

end BridgeWatch.FeeDistribution

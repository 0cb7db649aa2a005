/-
The epochs of the payouts.

A payout epoch is a window of `WindowBudget`: its budget is the configured part of the liquidity that the
pool had when the epoch was opened, and `paid_in_epoch` is the record of what was spent. Tranches are all that
touches it, one for `execute_payout` and any number at one time for `process_payout_queue`.

The end of an epoch is `saturating_add`ed, so at the last moment of all, `u64::MAX`, every epoch is over, the one
just opened too. The runs here end before.
-/
import BridgeWatch.InsuranceSettlement
import BridgeWatch.WindowBudget

set_option autoImplicit false

namespace BridgeWatch.Insurance

open Transaction CheckedIntegers HostCalls WindowBudget
open Contract (U32 U64 SString Address Env str saturating_add_u64)

/-- The epoch as a window, with the budget that the caps give it. -/
def window (k : PayoutCapConfig) (e : PayoutEpoch) : Window :=
  { start := e.epoch_start.toNat
    budget := e.opening_liquidity * k.epoch_drain_cap_bps.toNat / 10000
    spent := e.paid_in_epoch }

/-- The epoch of the pool that is stored. -/
def current_window (s : InsuranceStorage) (p : SString) : Option Window :=
  (s (.PayoutEpoch p)).map (window (caps s))

/-- A payout goes to the log with the epoch that it leaves. -/
def logged (s : InsuranceStorage) (p : SString) (paid : ℤ) : List (Window × ℤ) :=
  (current_window s p).toList.map fun w => (w, paid)

/-- What the call disburses from the pool. -/
def payments (p : SString) (s : InsuranceStorage) (call : Env × EntryPoint) : List (Window × ℤ) :=
  match call.2 with
  | .execute_payout admin id =>
    match s (.InsuranceClaim id), execute_payout admin id call.1 s with
    | some c, .ok (paid, s') => if c.pool_id = p then logged s' p paid else []
    | _, _ => []
  | .process_payout_queue admin p' =>
    match process_payout_queue admin p' call.1 s with
    | .ok (total, s') => if p' = p then logged s' p total else []
    | .error _ => []
  | _ => []

/-- What a run disburses from the pool. -/
def payment_log (s : InsuranceStorage) (calls : List (Env × EntryPoint)) (p : SString) : List (Window × ℤ) :=
  collect exec (payments p) s calls

def configures_caps : EntryPoint → Bool
  | .configure_payout_caps .. => true
  | _ => false

/-- What is disbursed in an epoch is within its budget, or nothing, and the epochs are `epoch_secs` apart. -/
structure EpochsCapped (s : InsuranceStorage) (calls : List (Env × EntryPoint)) (p : SString) : Prop where
  drained : ∀ w ∈ (payment_log s calls p).map Prod.fst, spent_in (payment_log s calls p) w.start ≤ max 0 w.budget
  spaced : ((current_window s p).toList ++ (payment_log s calls p).map Prod.fst).Pairwise
    (SameOrLater (caps s).epoch_secs.toNat)

section Tranches

variable {env : Env} {now : U64} {s s₁ s' : InsuranceStorage} {p : SString} {c : ClaimInfo} {ids : List U64}
variable {paid total : ℤ}

theorem tdiv_le_floor {x d : ℤ} (hd : 0 < d) : x.tdiv d ≤ max 0 (x / d) := by
  rcases le_total 0 x with hx | hx
  · rw [Int.tdiv_eq_ediv_of_nonneg hx]
    exact le_max_right _ _
  · have hneg := Int.tdiv_nonneg (Int.neg_nonneg.mpr hx) hd.le
    rw [Int.neg_tdiv] at hneg
    exact le_trans (by omega) (le_max_left _ _)

/-- What tranches at one time leave of the epoch of a pool: nothing of it changes, or `total` is recorded in the
epoch of that time, and is within the budget. -/
def Disbursed (now : U64) (p : SString) (s s' : InsuranceStorage) (total : ℤ) : Prop :=
  (s' (.PayoutEpoch p) = s (.PayoutEpoch p) ∧ total = 0) ∨
    (s' (.PayoutEpoch p) = some { epoch s now p with paid_in_epoch := (epoch s now p).paid_in_epoch + total } ∧
      0 ≤ total ∧ (total = 0 ∨ (window (caps s) (epoch s now p)).spent + total ≤ (window (caps s) (epoch s now p)).budget))

/-- The last moment of all is excluded, and an epoch has a length. -/
structure Timely (now : U64) (s : InsuranceStorage) : Prop where
  before_end : now.toNat < 2 ^ 64 - 1
  secs_ne : (caps s).epoch_secs ≠ 0

theorem toNat_saturating_add_u64 (x y : U64) : (saturating_add_u64 x y).toNat = min (x.toNat + y.toNat) (2 ^ 64 - 1) := by
  have hlt := x.toNat_lt
  have hlt' := y.toNat_lt
  unfold saturating_add_u64
  split_ifs with hfits
  · rw [UInt64.toNat_add]
    omega
  · rw [UInt64.toNat_ofNat']
    omega

/-- The epoch of a time is not over then. -/
theorem Timely.epoch_current (h : Timely now s) :
    now < saturating_add_u64 (epoch s now p).epoch_start (caps s).epoch_secs := by
  have hopened : now < saturating_add_u64 now (caps s).epoch_secs := by
    have hsecs : 0 < (caps s).epoch_secs.toNat := by
      have hne := h.secs_ne
      rw [ne_eq, ← UInt64.toNat_inj] at hne
      exact Nat.pos_of_ne_zero hne
    have hend := h.before_end
    rw [UInt64.lt_iff_toNat_lt, toNat_saturating_add_u64]
    omega
  unfold epoch epoch_at
  split
  · split
    · assumption
    · exact hopened
  · exact hopened

/-- A second tranche at the same time is in the same epoch. -/
theorem Tranche.epoch_stays (h : Tranche now s c paid s') (htime : Timely now s) :
    epoch s' now c.pool_id =
      { epoch s now c.pool_id with paid_in_epoch := (epoch s now c.pool_id).paid_in_epoch + paid } := by
  rw [epoch_of_some h.epoch_eq, h.caps_eq]
  exact if_pos htime.epoch_current

theorem Tranche.disbursed (h : Tranche now s c paid s') (hspent : 0 ≤ (epoch s now c.pool_id).paid_in_epoch) :
    Disbursed now c.pool_id s s' paid := by
  refine Or.inr ⟨h.epoch_eq, h.paid_bounds.1, ?_⟩
  by_cases hpaid : paid = 0
  · exact Or.inl hpaid
  right
  have hnonneg := h.paid_bounds.1
  have hfloor := tdiv_le_floor (x := (epoch s now c.pool_id).opening_liquidity * (caps s).epoch_drain_cap_bps.toNat)
    (d := BPS_DENOM) (by decide)
  have hle : paid ≤ ((epoch s now c.pool_id).opening_liquidity * (caps s).epoch_drain_cap_bps.toNat).tdiv BPS_DENOM -
      (epoch s now c.pool_id).paid_in_epoch := by
    have heq := h.paid_eq
    rw [allowed, payable] at heq
    omega
  rw [show BPS_DENOM = 10000 from rfl] at hfloor hle
  simp only [window]
  omega

/-- A tranche keeps the pools of the claims. -/
theorem Tranche.pool_ids (h : Tranche now s c paid s') (hp : c.pool_id = p)
    (hids : ∀ id ∈ ids, ∀ c, s (.InsuranceClaim id) = some c → c.pool_id = p) :
    ∀ id ∈ ids, ∀ c, s' (.InsuranceClaim id) = some c → c.pool_id = p := by
  intro id hid d hd
  by_cases hsame : id = c.claim_id
  · rw [hsame, h.claim_eq, Option.some.injEq] at hd
    rw [← hd, ← hp]
  · rw [h.frame _ (by simp) (by simpa using hsame) (by simp) (by simp)] at hd
    exact hids id hid d hd

/-- **Tranches of one pool at one time** are recorded in one epoch. -/
theorem QueuePaid.disbursed (h : QueuePaid now s ids total s') (hfiled : Filed s) (htime : Timely now s)
    (hids : ∀ id ∈ ids, ∀ c, s (.InsuranceClaim id) = some c → c.pool_id = p)
    (hspent : 0 ≤ (epoch s now p).paid_in_epoch) : Disbursed now p s s' total := by
  induction h with
  | done => exact Or.inl ⟨rfl, rfl⟩
  | skip _ _ _ ih =>
      exact ih hfiled htime (fun id hid => hids id (List.mem_cons_of_mem _ hid)) hspent
  | stop hclaim _ htranche =>
      obtain rfl := hids _ List.mem_cons_self _ hclaim
      exact htranche.disbursed hspent
  | @pay _ s₁ _ id _ c _ _ hclaim _ htranche hpaid _ ih =>
      have hown := hfiled.claims id c hclaim
      obtain rfl := hids id List.mem_cons_self c hclaim
      have hstays := htranche.epoch_stays htime
      have hcaps := htranche.caps_eq
      have hids' := htranche.pool_ids rfl fun id' hid' => hids id' (List.mem_cons_of_mem _ hid')
      have hspent' : 0 ≤ (epoch s₁ now c.pool_id).paid_in_epoch := by
        rw [hstays]
        exact add_nonneg hspent htranche.paid_bounds.1
      have hrest' := ih (htranche.filed hfiled (by rw [hown, hclaim])) ⟨htime.before_end, by rw [hcaps]; exact htime.secs_ne⟩
        hids' hspent'
      rcases htranche.disbursed hspent with ⟨-, hzero⟩ | ⟨-, hnonneg, hbudget⟩
      · exact absurd hzero hpaid
      rcases hrest' with ⟨hsame, hzero⟩ | ⟨hstored, hnonneg', hbudget'⟩
      · rw [hzero, add_zero]
        exact Or.inr ⟨hsame.trans htranche.epoch_eq, hnonneg, hbudget⟩
      · right
        rw [hstays, hcaps] at hbudget'
        rw [hstays] at hstored
        refine ⟨?_, add_nonneg hnonneg hnonneg', Or.inr ?_⟩
        · rw [hstored]
          simp only [add_assoc]
        · simp only [window] at hbudget hbudget' ⊢
          omega

/-- What is disbursed keeps the windows of the pool. -/
theorem Disbursed.kept {before : List Window} {log : List (Window × ℤ)} (h : Disbursed now p s s' total)
    (htime : Timely now s) (hcaps : caps s' = caps s)
    (hs : Kept (caps s).epoch_secs.toNat before log (current_window s p)) :
    Kept (caps s).epoch_secs.toNat before (log ++ logged s' p total) (current_window s' p) := by
  have hsecs : 0 < (caps s).epoch_secs.toNat := by
    have hne := htime.secs_ne
    rw [ne_eq, ← UInt64.toNat_inj] at hne
    exact Nat.pos_of_ne_zero hne
  rcases h with ⟨hsame, rfl⟩ | ⟨hstored, hnonneg, hbudget⟩
  · have hwindow : current_window s' p = current_window s p := by
      rw [current_window, hsame, hcaps, current_window]
    rw [logged, hwindow]
    cases hcurrent : current_window s p with
    | none => simpa [hcurrent] using hs
    | some w =>
        rw [hcurrent] at hs
        have hspend : w.spend 0 = w := by
          rw [Window.spend, add_zero]
        have hkept := hs.spend hs.spendable hsecs (le_refl 0) (Or.inl rfl)
        rw [hspend] at hkept
        exact hkept
  · have hwindow : current_window s' p = some ((window (caps s) (epoch s now p)).spend total) := by
      rw [current_window, hstored, hcaps]
      rfl
    rw [logged, hwindow]
    refine hs.spend ?_ hsecs hnonneg hbudget
    -- The epoch of the time is the stored one, or it is opened when that is over.
    cases he : s (.PayoutEpoch p) with
    | none =>
        have hfresh : (window (caps s) (epoch s now p)).spent = 0 := by
          simp only [window, epoch, epoch_at, he]
        apply hs.open hsecs
        · intro w hw
          rw [current_window, he] at hw
          cases hw
        · exact hfresh
    | some e =>
        have hcurrent : current_window s p = some (window (caps s) e) := by
          rw [current_window, he, Option.map_some]
        rw [hcurrent] at hs
        rw [epoch_of_some he]
        split_ifs with hgoes
        · exact hs.spendable
        · apply hs.open hsecs
          · intro w hw
            obtain rfl := Option.mem_some_iff.mp hw
            have hend := htime.before_end
            rw [UInt64.lt_iff_toNat_lt, toNat_saturating_add_u64] at hgoes
            simp only [window]
            omega
          · rfl

end Tranches

/-! ## Runs -/

section Runs

variable {env : Env} {s s' : InsuranceStorage} {call : EntryPoint} {p : SString} {c : ClaimInfo} {id : U64}
variable {admin : Address} {paid total : ℤ} {calls : List (Env × EntryPoint)}

/-- The lengths of the epochs are positive, and no record of what was paid in one is negative. -/
structure EpochsSound (s : InsuranceStorage) : Prop where
  secs_ne : (caps s).epoch_secs ≠ 0
  paid_nonneg : ∀ p e, s (.PayoutEpoch p) = some e → 0 ≤ e.paid_in_epoch

theorem caps_congr (h : s' .PayoutCapConfig = s .PayoutCapConfig) : caps s' = caps s := by
  rw [caps, h, caps]

theorem QueuePaid.caps_eq {now : U64} {ids : List U64} (h : QueuePaid now s ids total s') : caps s' = caps s := by
  induction h with
  | done => rfl
  | skip _ _ _ ih => exact ih
  | stop _ _ htranche => exact htranche.caps_eq
  | pay _ _ htranche _ _ ih => rw [ih, htranche.caps_eq]

/-- Only one call configures the caps, and it leaves epochs of a positive length. -/
theorem caps_cases (h : Outcome env s call s') :
    caps s' = caps s ∨ (configures_caps call = true ∧ (caps s').epoch_secs ≠ 0) := by
  cases h with
  | opened _ _ hframe | governed _ hframe | rated _ _ _ hframe | purchased _ _ _ _ _ _ hframe
  | judged _ _ _ _ _ hframe => exact Or.inl (caps_congr (hframe _ (by simp)))
  | capped _ _ hcaps =>
      right
      refine ⟨rfl, ?_⟩
      rwa [caps, hcaps, Option.getD_some]
  | staked _ _ hmoved | premium_claimed hmoved | requested _ _ hmoved | withdrawn _ _ _ _ _ _ hmoved
  | rejected _ _ hmoved =>
      exact Or.inl (caps_congr (hmoved.frame _ (by simp) (by simp) (by simp)))
  | submitted _ _ _ _ _ _ _ _ hframe =>
      exact Or.inl (caps_congr (hframe _ (by simp) (by simp)))
  | paid _ _ htranche => exact Or.inl htranche.caps_eq
  | queue_paid hpaid => exact Or.inl hpaid.caps_eq

theorem EpochsSound.epoch_nonneg (hs : EpochsSound s) (now : U64) (p : SString) : 0 ≤ (epoch s now p).paid_in_epoch := by
  unfold epoch epoch_at
  split
  · rename_i e he
    split
    · exact hs.paid_nonneg p e he
    · exact le_refl 0
  · exact le_refl 0

theorem EpochsSound.tranche {now : U64} (hs : EpochsSound s) (h : Tranche now s c paid s') : EpochsSound s' := by
  refine ⟨by rw [h.caps_eq]; exact hs.secs_ne, ?_⟩
  intro p e he
  by_cases hp : p = c.pool_id
  · rw [hp, h.epoch_eq, Option.some.injEq] at he
    rw [← he]
    exact add_nonneg (hs.epoch_nonneg now c.pool_id) h.paid_bounds.1
  · rw [h.frame _ (by simp) (by simp) (by simpa using hp) (by simp)] at he
    exact hs.paid_nonneg p e he

theorem EpochsSound.queue_paid {now : U64} {ids : List U64} (hs : EpochsSound s) (h : QueuePaid now s ids total s') :
    EpochsSound s' := by
  induction h with
  | done => exact hs
  | skip _ _ _ ih => exact ih hs
  | stop _ _ htranche => exact hs.tranche htranche
  | pay _ _ htranche _ _ ih => exact ih (hs.tranche htranche)

theorem epochs_sound_step (hsettled : Settlements s) (hs : EpochsSound s) (h : Outcome env s call s') : EpochsSound s' := by
  rcases payment_cases hsettled h with hunpaid | ⟨_, _, c, _, -, -, -, htranche⟩ | ⟨_, _, _, -, hpaid⟩
  · refine ⟨?_, fun p e he => hs.paid_nonneg p e (by rw [← hunpaid.epochs, he])⟩
    rcases caps_cases h with hsame | ⟨-, hsecs⟩
    · rw [hsame]
      exact hs.secs_ne
    · exact hsecs
  · exact hs.tranche htranche
  · exact hs.queue_paid hpaid

theorem run_epochs_sound : EpochsSound (run empty_storage calls) := by
  have hempty : EpochsSound empty_storage := ⟨by decide, fun _ _ h => by cases h⟩
  exact (run_outcome (C := fun _ _ => True) (I := fun s => Settlements s ∧ EpochsSound s)
    (fun hfiled hs _ h => ⟨settlements_step hfiled hs.1 h, epochs_sound_step hs.1 hs.2 h⟩) filed_empty
    ⟨settlements_empty, hempty⟩ (Along.of_forall fun _ _ _ => trivial)).2.2

/-- The tranche behind a payout. -/
theorem tranche_of_payout (hfiled : Filed s) (h : execute_payout admin id env s = .ok (paid, s')) :
    ∃ c, s (.InsuranceClaim id) = some c ∧ Tranche env.timestamp s c paid s' := by
  simp only [execute_payout, bind_eq_ok, require_admin_eq_ok, load_claim_eq_ok, panic_if_eq_ok, and_assoc,
    exists_and_left, exists_eq_left, exists_const] at h
  obtain ⟨-, -, c, hclaim, -, hpay⟩ := h
  exact ⟨c, hclaim, tranche_of_ok hfiled hpay⟩

theorem queue_paid_of_process (hfiled : Filed s) (h : process_payout_queue admin p env s = .ok (total, s')) :
    QueuePaid env.timestamp s (queue s p) total s' := by
  simp only [process_payout_queue, bind_eq_ok, require_admin_eq_ok, load_payout_queue_eq_ok, and_assoc,
    exists_and_left, exists_eq_left, exists_const] at h
  obtain ⟨-, -, hpay⟩ := h
  have hpaid := queue_paid_of_ok hfiled hpay
  rwa [sub_zero] at hpaid

/-- The pool of the epochs that a payout from another pool leaves. -/
theorem current_window_congr (hcaps : caps s' = caps s) (h : s' (.PayoutEpoch p) = s (.PayoutEpoch p)) :
    current_window s' p = current_window s p := by
  rw [current_window, h, hcaps, current_window]

/-- The claims of the queue are on its pool. -/
theorem Settlements.queue_pool (hs : Settlements s) (hid : id ∈ queue s p) (hc : s (.InsuranceClaim id) = some c) :
    c.pool_id = p := by
  obtain ⟨d, hd, hp, -⟩ := (hs.queued p id).mp hid
  rw [hc, Option.some.injEq] at hd
  rw [hd, hp]

/-- Tranches of one pool leave the epochs of the others. -/
theorem QueuePaid.other_epoch {now : U64} {ids : List U64} {p' : SString} (h : QueuePaid now s ids total s')
    (hids : ∀ id ∈ ids, ∀ c, s (.InsuranceClaim id) = some c → c.pool_id = p') (hp : p ≠ p') :
    s' (.PayoutEpoch p) = s (.PayoutEpoch p) := by
  induction h with
  | done => rfl
  | skip _ _ _ ih => exact ih fun id hid => hids id (List.mem_cons_of_mem _ hid)
  | stop hclaim _ htranche =>
      have hpool := hids _ List.mem_cons_self _ hclaim
      exact htranche.frame _ (by simp) (by simp) (by simpa [hpool] using hp) (by simp)
  | pay hclaim _ htranche _ _ ih =>
      have hpool := hids _ List.mem_cons_self _ hclaim
      rw [ih (htranche.pool_ids hpool fun id hid => hids id (List.mem_cons_of_mem _ hid)),
        htranche.frame _ (by simp) (by simp) (by simpa [hpool] using hp) (by simp)]

/-- **Every call keeps the windows** of the pool, with what it disburses put down. -/
theorem windows_step {k : PayoutCapConfig} {before : List Window} {log : List (Window × ℤ)} (hfiled : Filed s)
    (hsettled : Settlements s) (hsound : EpochsSound s) (hcall : configures_caps call = false)
    (htime : env.timestamp.toNat < 2 ^ 64 - 1) (h : exec call env s = .ok ((), s')) (hcaps : caps s = k)
    (hs : Kept k.epoch_secs.toNat before log (current_window s p)) :
    caps s' = k ∧ Kept k.epoch_secs.toNat before (log ++ payments p s (env, call)) (current_window s' p) := by
  have houtcome := outcome_of_exec hfiled h
  have hcaps' : caps s' = caps s := by
    rcases caps_cases houtcome with hsame | ⟨hconfigures, -⟩
    · exact hsame
    · rw [hconfigures] at hcall
      cases hcall
  have htimely : Timely env.timestamp s := ⟨htime, hsound.secs_ne⟩
  refine ⟨hcaps'.trans hcaps, ?_⟩
  rw [← hcaps] at hs ⊢
  have hsame : payments p s (env, call) = [] → s' (.PayoutEpoch p) = s (.PayoutEpoch p) →
      Kept (caps s).epoch_secs.toNat before (log ++ payments p s (env, call)) (current_window s' p) := by
    intro hnone hepoch
    rwa [hnone, List.append_nil, current_window_congr hcaps' hepoch]
  have hother : payments p s (env, call) = [] → (∀ admin id, call ≠ .execute_payout admin id) →
      (∀ admin p, call ≠ .process_payout_queue admin p) →
      Kept (caps s).epoch_secs.toNat before (log ++ payments p s (env, call)) (current_window s' p) := by
    intro hnone hpayout hprocess
    rcases payment_cases hsettled houtcome with hunpaid | ⟨_, _, _, _, heq, -⟩ | ⟨_, _, _, heq, -⟩
    · exact hsame hnone (hunpaid.epochs p)
    · exact absurd heq (hpayout _ _)
    · exact absurd heq (hprocess _ _)
  cases call with
  | execute_payout admin id =>
      simp only [exec, bind_eq_ok, pure_eq_ok] at h
      obtain ⟨paid, s₁, hok, -, rfl⟩ := h
      obtain ⟨c, hclaim, htranche⟩ := tranche_of_payout hfiled hok
      by_cases hp : c.pool_id = p
      · have hlog : payments p s (env, .execute_payout admin id) = logged s' p paid := by
          simp only [payments, hclaim, hok, if_pos hp]
        rw [hlog]
        subst hp
        exact (htranche.disbursed (hsound.epoch_nonneg _ _)).kept htimely hcaps' hs
      · apply hsame
        · simp only [payments, hclaim, hok, if_neg hp]
        · exact htranche.frame _ (by simp) (by simp) (by simpa using Ne.symm hp) (by simp)
  | process_payout_queue admin p' =>
      simp only [exec, bind_eq_ok, pure_eq_ok] at h
      obtain ⟨total, s₁, hok, -, rfl⟩ := h
      have hpaid := queue_paid_of_process hfiled hok
      have hids : ∀ id ∈ queue s p', ∀ c, s (.InsuranceClaim id) = some c → c.pool_id = p' :=
        fun id hid c hc => hsettled.queue_pool hid hc
      by_cases hp : p' = p
      · have hlog : payments p s (env, .process_payout_queue admin p') = logged s' p total := by
          simp only [payments, hok, if_pos hp]
        rw [hlog]
        subst hp
        exact (hpaid.disbursed hfiled htimely hids (hsound.epoch_nonneg _ _)).kept htimely hcaps' hs
      · apply hsame
        · simp only [payments, hok, if_neg hp]
        · exact hpaid.other_epoch hids (Ne.symm hp)
  | _ => exact hother rfl (by simp) (by simp)

/-- A tranche of any claim in any storage is within the part of the liquidity that a claim may take. -/
theorem tranche_capped {c' : ClaimInfo} (h : pay_claim_tranche c env s = .ok ((paid, c'), s')) :
    paid ≤ max 0 ((pool s c.pool_id).total_liquidity * (caps s).max_claim_fraction_bps.toNat / 10000) := by
  simp only [pay_claim_tranche, bind_eq_ok, panic_if_eq_ok, expect_eq_ok, checked_sub_eq_some, load_payout_caps_eq_ok,
    load_pool_eq_ok, current_payout_epoch_eq_ok, bps_of_eq_ok, epoch_remaining_eq_ok, load_payout_queue_eq_ok,
    ite_eq_ok, and_assoc, exists_and_left, exists_eq_left, exists_const] at h
  obtain ⟨-, -, r, hr, -, -, -, -, hpaid⟩ := h
  rw [pool_eq_of_some hr]
  rcases hpaid with ⟨-, hdefer⟩ | ⟨-, hdisburse⟩
  · rw [(defer_tranche_spec hdefer).1]
    exact le_max_left _ _
  · have hfloor := tdiv_le_floor (x := r.total_liquidity * (caps s).max_claim_fraction_bps.toNat) (d := BPS_DENOM)
      (by decide)
    rw [(disburse_tranche_spec hdisburse).1, payable]
    rw [show (10000 : ℤ) = BPS_DENOM from rfl]
    omega

/-- **The epoch drain cap** holds in every run without a new configuration, after any other. -/
theorem epochs_capped {earlier : List (Env × EntryPoint)} (hconfigured : ∀ t ∈ calls, configures_caps t.2 = false)
    (htimes : ∀ t ∈ calls, t.1.timestamp.toNat < 2 ^ 64 - 1) :
    EpochsCapped (run empty_storage earlier) calls p ∧
      ∀ env s c paid c' s', pay_claim_tranche c env s = .ok ((paid, c'), s') →
        paid ≤ max 0 ((pool s c.pool_id).total_liquidity * (caps s).max_claim_fraction_bps.toNat / 10000) := by
  refine ⟨?_, fun env s c paid c' s' h => tranche_capped h⟩
  have hstart : Kept (caps (run empty_storage earlier)).epoch_secs.toNat
      (current_window (run empty_storage earlier) p).toList [] (current_window (run empty_storage earlier) p) := by
    apply kept_start
    intro w hw
    rw [current_window, Option.mem_def, Option.map_eq_some_iff] at hw
    obtain ⟨e, he, rfl⟩ := hw
    exact run_epochs_sound.paid_nonneg p e he
  have hcalls : Along exec (fun _ t => configures_caps t.2 = false ∧ t.1.timestamp.toNat < 2 ^ 64 - 1)
      (run empty_storage earlier) calls := Along.of_forall fun _ t ht => ⟨hconfigured t ht, htimes t ht⟩
  have hkept := run_collect_invariant
    (I := fun s log => (Filed s ∧ Settlements s ∧ EpochsSound s) ∧ caps s = caps (run empty_storage earlier) ∧
      Kept (caps (run empty_storage earlier)).epoch_secs.toNat
        (current_window (run empty_storage earlier) p).toList log (current_window s p))
    (fun {s t s' log} hs ht h => by
      obtain ⟨⟨hfiled, hsettled, hsound⟩, hcaps, hwindows⟩ := hs
      have houtcome := outcome_of_exec hfiled h
      exact ⟨⟨filed_step hfiled houtcome, settlements_step hfiled hsettled houtcome,
        epochs_sound_step hsettled hsound houtcome⟩, windows_step hfiled hsettled hsound ht.1 ht.2 h hcaps hwindows⟩)
    ⟨⟨run_filed, run_settlements, run_epochs_sound⟩, rfl, hstart⟩ hcalls
  rw [List.nil_append] at hkept
  exact ⟨fun w hw => hkept.2.2.bounded w (Or.inr hw), hkept.2.2.spaced⟩

end Runs

/-- An approved claim on most of the coverage. -/
def claimed : List (Env × EntryPoint) := covered ++ approved_claim 0 8000

/-- Two tranches exhaust the epoch, and the next epoch pays another. -/
def tranches : List (Env × EntryPoint) :=
  [(signed_at 0, .execute_payout (party 0) 0), (signed_at 0, .execute_payout (party 0) 0),
    (signed_at 0, .execute_payout (party 0) 0), (signed_at 86400, .process_payout_queue (party 0) bridge_pool)]

theorem epochs_capped_tranches :
    (payment_log (run empty_storage claimed) tranches bridge_pool).map (fun entry => (entry.1.start, entry.2)) =
        [(0, 3000), (0, 2000), (0, 0), (86400, 1500)] ∧
      EpochsCapped (run empty_storage claimed) tranches bridge_pool :=
  ⟨by decide +kernel, (epochs_capped (by decide) (by decide)).1⟩

/-- A staker of 10000 is slashed by 8000, after 3000 were paid. -/
def slashed_below : List (Env × EntryPoint) :=
  claimed ++
  [(signed_at 0, .submit_claim (party 1) bridge_pool 8000 (str "forged")),
    (signed_at 0, .execute_payout (party 0) 0), (signed_at 0, .verify_claim (party 0) 1 false 10000)]

/-- The claim that was paid in part. -/
def owed_claim : ClaimInfo :=
  { claim_id := 0, claimant := party 2, pool_id := bridge_pool, amount := 8000, evidence_hash := str "evidence",
    status := .PartiallyPaid, approvals := [party 0], slash_bps := 0, slashed_amount := 0, paid_amount := 3000 }

/-- The parts of a negative liquidity are less than the nothing that is disbursed of it; and at the last moment of
all every payout opens an epoch. -/
theorem epochs_not_capped :
    (¬ ∀ (earlier calls : List (Env × EntryPoint)) (p : SString), (∀ t ∈ calls, configures_caps t.2 = false) →
      (∀ t ∈ calls, t.1.timestamp.toNat < 2 ^ 64 - 1) →
        ∀ w ∈ (payment_log (run empty_storage earlier) calls p).map Prod.fst,
          spent_in (payment_log (run empty_storage earlier) calls p) w.start ≤ w.budget) ∧
    (¬ ∀ (calls : List (Env × EntryPoint)) (env : Env) (c c' : ClaimInfo) (paid : ℤ) (s' : InsuranceStorage),
      pay_claim_tranche c env (run empty_storage calls) = .ok ((paid, c'), s') →
        paid ≤ (pool (run empty_storage calls) c.pool_id).total_liquidity *
          (caps (run empty_storage calls)).max_claim_fraction_bps.toNat / 10000) ∧
    ¬ ∀ (earlier calls : List (Env × EntryPoint)) (p : SString), (∀ t ∈ calls, configures_caps t.2 = false) →
      EpochsCapped (run empty_storage earlier) calls p := by
  refine ⟨?_, ?_, ?_⟩
  · intro h
    have hdrained := h slashed_below [(signed_at 90000, .execute_payout (party 0) 0)] bridge_pool (by decide) (by decide)
      ⟨90000, -500, 0⟩ (by decide +kernel)
    exact absurd hdrained (by decide +kernel)
  · intro h
    have hpaid : ((pay_claim_tranche owed_claim (signed_at 90000) (run empty_storage slashed_below)).toOption.map
        fun r => r.1.1) = some 0 := by decide +kernel
    cases hresult : pay_claim_tranche owed_claim (signed_at 90000) (run empty_storage slashed_below) with
    | error msg =>
        rw [hresult] at hpaid
        cases hpaid
    | ok r =>
        rw [hresult] at hpaid
        have hcapped := h slashed_below (signed_at 90000) owed_claim r.1.2 r.1.1 r.2 hresult
        rw [show r.1.1 = 0 from Option.some.inj hpaid] at hcapped
        exact absurd hcapped (by decide +kernel)
  · intro h
    have hspaced := (h claimed [(signed_at (UInt64.ofNat (2 ^ 64 - 1)), .execute_payout (party 0) 0),
      (signed_at (UInt64.ofNat (2 ^ 64 - 1)), .execute_payout (party 0) 0)] bridge_pool (by decide)).spaced
    exact absurd hspaced (by decide +kernel)

end BridgeWatch.Insurance

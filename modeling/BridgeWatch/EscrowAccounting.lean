/-
What is paid out of an escrow.

Releases and refunds pay no more than what the deposit leaves beside the fee, and nothing after a refund.
An emergency recovery does not look at the status, and lets the fee be paid out as well. As long as no
recovery does either, what was paid and the fee are never more than the deposit.
-/
import BridgeWatch.EscrowHistory

set_option autoImplicit false

namespace BridgeWatch.Escrow

open Contract (U32 U64 I128 SString Address Env len str saturating_add_u64)
open SaturatingArithmetic Histories

/-! ## Payments -/

/-- What an event pays out. -/
def payment : Event → Option I128
  | .released amount _ _ => some amount
  | .refunded amount => some amount
  | .recovered amount _ => some amount
  | _ => none

def paid (event : Event) : ℤ := ((payment event).map BitVec.toInt).getD 0

def total_paid (h : List Event) : ℤ := (h.map paid).sum

theorem total_paid_concat {h : List Event} {event : Event} : total_paid (h ++ [event]) = total_paid h + paid event := by
  rw [total_paid, total_paid, List.map_append, List.sum_append, List.map_singleton, List.sum_singleton]

/-- The event is no payment that comes after a refund. -/
def NotAfterRefund (earlier : List Event) (event : Event) : Prop :=
  (payment event).isSome = true → ∀ amount, .refunded amount ∉ earlier

/-- The accounts of an escrow. -/
structure Accounted (c : Case) (h : List Event) : Prop where
  fee_nonneg : 0 ≤ c.deposit.fee_total.toInt
  released_nonneg : 0 ≤ c.deposit.released_amount.toInt
  paid_eq : c.deposit.status ≠ .Refunded → total_paid h = c.deposit.released_amount.toInt
  no_refund : c.deposit.status ≠ .Refunded → ∀ amount, .refunded amount ∉ h
  within : total_paid h + c.deposit.fee_total.toInt ≤ c.deposit.amount.toInt
  guarded : Guarded NotAfterRefund h

section

variable {c c' : Case} {h : List Event} {event : Event} {amount : I128}

/-- An event that pays nothing. -/
theorem Accounted.idle (hc : Accounted c h) (hpays : payment event = none)
    (hamount : c'.deposit.amount = c.deposit.amount) (hfee : c'.deposit.fee_total = c.deposit.fee_total)
    (hreleased : c'.deposit.released_amount = c.deposit.released_amount)
    (hstatus : c'.deposit.status ≠ .Refunded → c.deposit.status ≠ .Refunded) : Accounted c' (h ++ [event]) := by
  have hpaid : total_paid (h ++ [event]) = total_paid h := by
    rw [total_paid_concat, paid, hpays]
    exact add_zero _
  refine ⟨?_, ?_, ?_, ?_, ?_, ?_⟩
  · rw [hfee]
    exact hc.fee_nonneg
  · rw [hreleased]
    exact hc.released_nonneg
  · intro hopen
    rw [hpaid, hreleased]
    exact hc.paid_eq (hstatus hopen)
  · intro hopen amount hmem
    rcases List.mem_append.mp hmem with hmem | hmem
    · exact hc.no_refund (hstatus hopen) amount hmem
    · rw [← List.mem_singleton.mp hmem] at hpays
      cases hpays
  · rw [hpaid, hfee, hamount]
    exact hc.within
  · refine guarded_concat.mpr ⟨hc.guarded, fun hsome => ?_⟩
    rw [hpays] at hsome
    cases hsome

/-- A release or a recovery that fits beside the fee. -/
theorem Accounted.pay (hc : Accounted c h) (hopen : c.deposit.status ≠ .Refunded) (hpositive : 0 < amount.toInt)
    (hfits : c.deposit.released_amount.toInt + amount.toInt + c.deposit.fee_total.toInt ≤ c.deposit.amount.toInt)
    (hpays : payment event = some amount) (hevent : ∀ amount, event ≠ .refunded amount)
    (hamount : c'.deposit.amount = c.deposit.amount) (hfee : c'.deposit.fee_total = c.deposit.fee_total)
    (hreleased : c'.deposit.released_amount = saturating_add_i128 c.deposit.released_amount amount) :
    Accounted c' (h ++ [event]) := by
  have hpaid : total_paid (h ++ [event]) = c.deposit.released_amount.toInt + amount.toInt := by
    rw [total_paid_concat, hc.paid_eq hopen, paid, hpays]
    rfl
  have hadd : (saturating_add_i128 c.deposit.released_amount amount).toInt =
      c.deposit.released_amount.toInt + amount.toInt := by
    have hnonneg := hc.released_nonneg
    have hfee := hc.fee_nonneg
    have hmax := toInt_i128 c.deposit.amount
    exact toInt_saturate_of_fits (by omega) (by omega)
  have hmem : ∀ amount, .refunded amount ∉ h := hc.no_refund hopen
  refine ⟨?_, ?_, ?_, ?_, ?_, ?_⟩
  · rw [hfee]
    exact hc.fee_nonneg
  · rw [hreleased, hadd]
    have := hc.released_nonneg
    omega
  · intro _
    rw [hpaid, hreleased, hadd]
  · intro _ amount' hmem'
    rcases List.mem_append.mp hmem' with hmem' | hmem'
    · exact hmem amount' hmem'
    · exact hevent amount' (List.mem_singleton.mp hmem').symm
  · rw [hpaid, hfee, hamount]
    exact hfits
  · exact guarded_concat.mpr ⟨hc.guarded, fun _ => hmem⟩

/-- A refund pays all that is left beside the fee. -/
theorem Accounted.refund (hc : Accounted c h) (hopen : c.deposit.status ≠ .Refunded)
    (hamount : amount = saturating_sub_i128 (saturating_sub_i128 c.deposit.amount c.deposit.released_amount)
      c.deposit.fee_total) :
    Accounted { c with deposit := { c.deposit with status := .Refunded } } (h ++ [.refunded amount]) := by
  have hpaid : total_paid (h ++ [.refunded amount]) = total_paid h + amount.toInt := total_paid_concat
  have hwithin := hc.within
  rw [hc.paid_eq hopen] at hpaid hwithin
  have hfee := hc.fee_nonneg
  have hreleased := hc.released_nonneg
  have hleft : (saturating_sub_i128 c.deposit.amount c.deposit.released_amount).toInt =
      c.deposit.amount.toInt - c.deposit.released_amount.toInt := toInt_saturating_sub (by omega) hreleased
  have hrefund : amount.toInt =
      c.deposit.amount.toInt - c.deposit.released_amount.toInt - c.deposit.fee_total.toInt := by
    rw [hamount, toInt_saturating_sub (by omega) hfee, hleft]
  refine ⟨hfee, hreleased, fun hstatus => absurd rfl hstatus, fun hstatus => absurd rfl hstatus, ?_, ?_⟩
  · have hsum : c.deposit.released_amount.toInt + amount.toInt + c.deposit.fee_total.toInt ≤
        c.deposit.amount.toInt := by omega
    rw [hpaid]
    exact hsum
  · exact guarded_concat.mpr ⟨hc.guarded, fun _ => hc.no_refund hopen⟩

end

/-- The event is no recovery of more than was left. -/
def Covers (event : Event) : Prop := ∀ amount, event ≠ .recovered amount false

theorem accounted_kept : CaseKept Covers Accounted where
  created {c} hfresh hdispute := by
    have hpaid : total_paid [.created] = 0 := rfl
    have hreleased : c.deposit.released_amount.toInt = 0 := by
      rw [hfresh.unreleased]
      rfl
    refine ⟨hfresh.fee_nonneg, hreleased.ge, ?_, ?_, ?_, ?_⟩
    · intro _
      rw [hpaid, hreleased]
    · intro _ amount hmem
      cases List.mem_singleton.mp hmem
    · rw [hpaid, zero_add]
      exact hfresh.fee_le
    · exact guarded_singleton.mpr nofun
  change {env s c c' event h} hlinked hc hcovers hchange := by
    cases hchange with
    | synced | extended => exact hc.idle rfl rfl rfl rfl id
    | challenged hpending =>
        refine hc.idle rfl rfl rfl rfl fun _ hrefunded => ?_
        rw [hpending] at hrefunded
        cases hrefunded
    | voted hchallenged =>
        refine hc.idle rfl rfl rfl rfl fun _ hrefunded => ?_
        rw [hchallenged] at hrefunded
        cases hrefunded
    | @released _ _ _ hpending _ _ hamount hleft hreleased =>
        have hopen : c.deposit.status ≠ .Refunded := by
          rw [hpending]
          decide
        have hfee := hc.fee_nonneg
        have hnonneg := hc.released_nonneg
        have hwithin := hc.within
        rw [hc.paid_eq hopen] at hwithin
        have htotal : (saturating_sub_i128 c.deposit.amount c.deposit.fee_total).toInt =
            c.deposit.amount.toInt - c.deposit.fee_total.toInt := toInt_saturating_sub (by omega) hfee
        rw [toInt_saturating_sub (by omega) hnonneg, htotal] at hleft
        exact hc.pay hopen hamount (by omega) rfl (fun _ h => by cases h) rfl rfl hreleased
    | @refunded _ hopen hamount =>
        apply hc.refund _ hamount
        intro hrefunded
        rw [hrefunded] at hopen
        cases hopen
    | @recovered amount _ _ hamount hreleased =>
        by_cases hflag : c.deposit.status ≠ .Refunded && c.deposit.released_amount.toInt + amount.toInt +
            c.deposit.fee_total.toInt ≤ c.deposit.amount.toInt
        · have hflag' := hflag
          rw [Bool.and_eq_true, decide_eq_true_iff, decide_eq_true_iff] at hflag'
          exact hc.pay hflag'.1 hamount hflag'.2 rfl (fun _ h => by cases h) rfl rfl hreleased
        · rw [Bool.eq_false_iff.mpr hflag] at hcovers
          exact absurd rfl (hcovers amount)

/-! ## Recoveries -/

/-- The contract accepts the recovery. -/
def recovery_accepted (env : Env) (s : EscrowStorage) (admin : Address) (escrow_id : U64) (amount : I128) : Bool :=
  env.auth admin && s.admin = some admin && paused s && (s.escrow escrow_id).any fun escrow =>
    0 < amount.toInt && amount.toInt ≤ (saturating_sub_i128 escrow.amount escrow.released_amount).toInt

/-- A recovery that is accepted takes no more than what is left beside the fee, and from no escrow that
was refunded. -/
def RecoversWithin (w : World) (call : Env × EntryPoint) : Prop :=
  match call.2 with
  | .emergency_recover admin escrow_id _ amount =>
      recovery_accepted call.1 w.storage admin escrow_id amount = true → covered w.storage escrow_id amount = true
  | _ => True

instance (w : World) (call : Env × EntryPoint) : Decidable (RecoversWithin w call) := by
  unfold RecoversWithin
  split <;> infer_instance

theorem recovery_accepted_of_ok {env : Env} {s s' : EscrowStorage} {admin : Address} {escrow_id : U64} {amount : I128}
    (h : emergency_recover env admin escrow_id amount s = .ok s') :
    recovery_accepted env s admin escrow_id amount = true := by
  simp only [emergency_recover, Call.bind_eq_ok, require_admin_eq_ok, get_escrow_mut_eq_ok, reject_if_eq_ok,
    Call.pure_eq_ok, exists_const, not_or, not_le, not_lt, Bool.not_eq_false] at h
  obtain ⟨⟨hauth, hadmin⟩, hpaused, escrow, hescrow, ⟨hpositive, hle⟩, -⟩ := h
  simp only [recovery_accepted, hauth, hadmin, hpaused, hescrow, Option.any_some, Bool.true_and, decide_true,
    Bool.and_eq_true, decide_eq_true_iff]
  exact ⟨hpositive, hle⟩

theorem RecoversWithin.admits {w : World} {call : Env × EntryPoint} (h : RecoversWithin w call) :
    Admits Covers w call := by
  obtain ⟨env, call⟩ := call
  intro answer s' hexec entry hentry amount heq
  cases call with
  | emergency_recover =>
      rw [exec, silent_eq_ok] at hexec
      have hcovered := h (recovery_accepted_of_ok hexec.1)
      rw [events, List.mem_singleton] at hentry
      rw [hentry, hcovered] at heq
      cases heq
  | create_escrow =>
      cases answer with
      | created =>
          rw [List.mem_singleton.mp hentry] at heq
          cases heq
      | _ => cases hentry
  | refund_escrow =>
      cases answer with
      | amount =>
          rw [List.mem_singleton.mp hentry] at heq
          cases heq
      | _ => cases hentry
  | resolve_challenge =>
      rw [events] at hentry
      split at hentry
      · split_ifs at hentry
        · cases hentry
        · rw [List.mem_singleton.mp hentry] at heq
          cases heq
      · cases hentry
  | batch_release =>
      obtain ⟨id, -, rfl⟩ := List.mem_map.mp hentry
      cases heq
  | sync_verification | challenge_escrow | release_escrow | extend_lock =>
      rw [List.mem_singleton.mp hentry] at heq
      cases heq
  | _ => cases hentry

/-- **No escrow pays more than its deposit.** As long as every recovery takes no more than what is left
beside the fee, and none takes from an escrow that was refunded, what an escrow has paid and its fee are
within its deposit, and it has paid nothing after a refund. -/
theorem paid_within_deposit {calls : List (Env × EntryPoint)} {escrow_id : U64} {escrow : EscrowDeposit}
    (hcalls : Runs.Along step RecoversWithin ⟨empty_storage, fun _ => []⟩ calls)
    (hescrow : (run calls).storage.escrow escrow_id = some escrow) :
    total_paid ((run calls).history escrow_id) + escrow.fee_total.toInt ≤ escrow.amount.toInt ∧
      Guarded NotAfterRefund ((run calls).history escrow_id) := by
  have hcases := accounted_kept.kept.run ofCases_empty (hcalls.mono fun _ _ h => h.admits)
  have haccounted := hcases.holds escrow_id ⟨escrow, _, _⟩ ⟨hescrow, rfl, rfl⟩
  exact ⟨haccounted.within, haccounted.guarded⟩

/-- An address for a concrete run. -/
def party (n : UInt8) : Address := .account (Vector.replicate 32 n)

/-- A time at which every address has authorised its call. -/
def signed_at (timestamp : U64) : Env := { timestamp, auth := fun _ => true }

/-- Party 0 sets the contract up, with a fee of one percent, and party 1 puts 10000 in escrow for party 2. -/
def deposited : List (Env × EntryPoint) :=
  [(signed_at 0, .initialize_escrow (party 0) (party 9) 100 [party 3, party 4, party 5] 2),
    (signed_at 1000, .create_escrow (party 1) (party 2) (str "ethereum") (str "USDC") 10000 (str "") (party 6)
      (str "0xabc"))]

/-- A release of 4000, and a recovery of all that is left beside the fee. -/
def recovered_within : List (Env × EntryPoint) :=
  deposited ++ [(signed_at 2000, .sync_verification (party 6) 0 true),
    (signed_at 5000, .release_escrow (party 2) 0 4000), (signed_at 6000, .set_emergency_pause (party 0) true),
    (signed_at 6000, .emergency_recover (party 0) 0 (party 1) 5900)]

theorem paid_within_deposit_recovered :
    ∃ escrow, (run recovered_within).storage.escrow 0 = some escrow ∧
      total_paid ((run recovered_within).history 0) + escrow.fee_total.toInt ≤ escrow.amount.toInt ∧
        Guarded NotAfterRefund ((run recovered_within).history 0) := by
  obtain ⟨escrow, hescrow⟩ := Option.isSome_iff_exists.mp
    (show ((run recovered_within).storage.escrow 0).isSome = true by decide +kernel)
  exact ⟨escrow, hescrow, paid_within_deposit (by decide +kernel) hescrow⟩

/-- The deposit is refunded, and recovered once more. -/
def paid_twice : List (Env × EntryPoint) :=
  deposited ++ [(signed_at 2000, .refund_escrow (party 1) 0), (signed_at 3000, .set_emergency_pause (party 0) true),
    (signed_at 3000, .emergency_recover (party 0) 0 (party 1) 10000)]

/-- A recovery pays a deposit of 10000 that was refunded before, and its fee. -/
theorem deposit_paid_twice :
    ¬ ∀ (calls : List (Env × EntryPoint)) (escrow_id : U64) (escrow : EscrowDeposit),
      (run calls).storage.escrow escrow_id = some escrow →
        total_paid ((run calls).history escrow_id) + escrow.fee_total.toInt ≤ escrow.amount.toInt ∧
          Guarded NotAfterRefund ((run calls).history escrow_id) := by
  intro h
  obtain ⟨escrow, hescrow, hamount, hfee⟩ : ∃ escrow, (run paid_twice).storage.escrow 0 = some escrow ∧
      escrow.amount.toInt = 10000 ∧ escrow.fee_total.toInt = 100 := by
    obtain ⟨escrow, hescrow, hamounts⟩ := Option.map_eq_some_iff.mp
      (show ((run paid_twice).storage.escrow 0).map (fun escrow => (escrow.amount.toInt, escrow.fee_total.toInt)) =
        some (10000, 100) by decide +kernel)
    exact ⟨escrow, hescrow, congrArg Prod.fst hamounts, congrArg Prod.snd hamounts⟩
  have hpaid : total_paid ((run paid_twice).history 0) = 19900 := by decide +kernel
  have hwithin := (h paid_twice 0 escrow hescrow).1
  rw [hpaid, hamount, hfee] at hwithin
  exact absurd hwithin (by decide)

end BridgeWatch.Escrow

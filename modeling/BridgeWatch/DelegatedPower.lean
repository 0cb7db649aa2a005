/-
Voting power that can be delegated.

Every voter has some power, and may have delegated it to another, who votes with it but cannot pass it on.
What each was delegated is kept in a counter. The counters are exact when each is the total of what was
delegated to its holder, and then each voter votes with the power that it holds: its own or that of others.
So the powers that are voted with sum up to the supply, and a ballot on which no power is counted twice
cannot exceed it.
-/
import BridgeWatch.Totals
import Mathlib.Algebra.Order.Ring.Int

set_option autoImplicit false

namespace DelegatedPower

open Totals

variable {ι : Type*} [DecidableEq ι]

/-- The powers, the delegations, the counters of what each was delegated, and the supply. -/
@[ext] structure Books (ι : Type*) where
  power : ι → ℤ
  delegate : ι → Option ι
  received : ι → ℤ
  supply : ℤ

namespace Books

/-- The one that votes with the power of `u`. -/
def holder (b : Books ι) (u : ι) : ι := (b.delegate u).getD u

/-- The power that `u` votes with. -/
def effective (b : Books ι) (u : ι) : ℤ := (if (b.delegate u).isSome = true then 0 else b.power u) + b.received u

/-- The counters are those of the delegations, and the supply is that of the powers. -/
structure Exact (b : Books ι) : Prop where
  power_nonneg : ∀ u, 0 ≤ b.power u
  received : ∀ d, HasTotal (fun u => if b.delegate u = some d then b.power u else 0) (b.received d)
  supply : HasTotal b.power b.supply

/-- `u` takes its power back. -/
def undelegate (b : Books ι) (u : ι) : Books ι :=
  (b.delegate u).elim b fun d =>
    { b with delegate := Function.update b.delegate u none
             received := Function.update b.received d (max (b.received d - b.power u) 0) }

/-- `u`, which has its power, delegates it to `d`. -/
def delegate_to (b : Books ι) (u d : ι) : Books ι :=
  { b with delegate := Function.update b.delegate u (some d)
           received := Function.update b.received d (b.received d + b.power u) }

/-- The power of `u` becomes `p`. -/
def set_power (b : Books ι) (u : ι) (p : ℤ) : Books ι :=
  { b with power := Function.update b.power u p, supply := b.supply - b.power u + p }

variable {b : Books ι} {u d : ι}

@[simp] theorem power_undelegate : (b.undelegate u).power = b.power := by
  unfold undelegate
  cases b.delegate u <;> rfl

@[simp] theorem supply_undelegate : (b.undelegate u).supply = b.supply := by
  unfold undelegate
  cases b.delegate u <;> rfl

@[simp] theorem delegate_undelegate : (b.undelegate u).delegate = Function.update b.delegate u none := by
  unfold undelegate
  cases h : b.delegate u with
  | none => exact (Function.update_eq_self_iff.mpr h.symm).symm
  | some => rfl

@[simp] theorem power_delegate_to : (b.delegate_to u d).power = b.power := rfl

@[simp] theorem supply_delegate_to : (b.delegate_to u d).supply = b.supply := rfl

@[simp] theorem delegate_delegate_to : (b.delegate_to u d).delegate = Function.update b.delegate u (some d) := rfl

theorem Exact.empty : (⟨fun _ => 0, fun _ => none, fun _ => 0, 0⟩ : Books ι).Exact :=
  ⟨fun _ => le_refl 0, fun _ => hasTotal_zero.congr fun _ => by simp, hasTotal_zero⟩

/-- Every voter votes with what it holds. -/
theorem Exact.held (h : b.Exact) (d : ι) :
    HasTotal (fun u => if b.holder u = d then b.power u else 0) (b.effective d) := by
  have hown : HasTotal (fun u => if u = d then (if (b.delegate d).isSome = true then 0 else b.power d) else 0)
      (if (b.delegate d).isSome = true then 0 else b.power d) := hasTotal_single d
  apply (hown.add (h.received d)).congr
  intro u
  by_cases hu : u = d
  · subst hu
    cases hdelegate : b.delegate u with
    | none | some => simp [holder, hdelegate]
  · cases hdelegate : b.delegate u <;> simp [holder, hdelegate, hu]

/-- **The powers that are voted with** sum up to the supply. -/
theorem Exact.effective_total (h : b.Exact) : HasTotal b.effective b.supply := h.supply.fiberwise h.held

theorem Exact.part_nonneg (h : b.Exact) (d u : ι) : 0 ≤ if b.delegate u = some d then b.power u else 0 := by
  split_ifs
  · exact h.power_nonneg u
  · exact le_refl 0

theorem Exact.undelegate (h : b.Exact) (u : ι) : (b.undelegate u).Exact := by
  cases hdelegate : b.delegate u with
  | none => rwa [Books.undelegate, hdelegate]
  | some d =>
      rw [Books.undelegate, hdelegate]
      refine ⟨h.power_nonneg, fun x => ?_, h.supply⟩
      -- The power of `u` is a part of what `d` was delegated, so nothing is cut off at zero.
      have hle := (h.received d).le (h.part_nonneg d) u
      rw [if_pos hdelegate] at hle
      apply (h.received x).change_to u
      · intro j hj
        simp [hj]
      · by_cases hx : x = d
        · rw [hx]
          simp [hdelegate]
          omega
        · simp [hdelegate, hx, Ne.symm hx]

theorem Exact.delegate_to (h : b.Exact) (hnone : b.delegate u = none) (d : ι) : (b.delegate_to u d).Exact := by
  refine ⟨h.power_nonneg, fun x => ?_, h.supply⟩
  apply (h.received x).change_to u
  · intro j hj
    simp [Books.delegate_to, hj]
  · by_cases hx : x = d
    · rw [hx]
      simp [Books.delegate_to, hnone]
    · simp [Books.delegate_to, hnone, hx, Ne.symm hx]

/-- A power that is not delegated is changed, or one is set to what it was. -/
theorem Exact.set_power (h : b.Exact) {p : ℤ} (hp : 0 ≤ p) (hfree : b.delegate u = none ∨ p = b.power u) :
    (b.set_power u p).Exact := by
  have hother : ∀ j, j ≠ u → (b.set_power u p).power j = b.power j := fun j hj => Function.update_of_ne hj _ _
  refine ⟨?_, fun x => ?_, ?_⟩
  · intro j
    by_cases hj : j = u
    · rw [hj]
      simpa [Books.set_power] using hp
    · rw [hother j hj]
      exact h.power_nonneg j
  · apply (h.received x).change_to u
    · intro j hj
      rw [hother j hj]
      rfl
    · rcases hfree with hnone | rfl
      · simp [Books.set_power, hnone]
      · simp [Books.set_power]
  · apply h.supply.change_to u hother
    simp only [Books.set_power, Function.update_self]
    omega

/-! ## Ballots -/

/-- The powers whose holder has voted. -/
def counted (b : Books ι) (voted : ι → Bool) (u : ι) : ℤ := if voted (b.holder u) = true then b.power u else 0

/-- A ballot on which no power is counted twice. -/
def Covers (b : Books ι) (voted : ι → Bool) (votes : ℤ) : Prop :=
  ∃ w, HasTotal (b.counted voted) w ∧ votes ≤ w

variable {voted voted' : ι → Bool} {votes : ℤ}

theorem Exact.counted_total (h : b.Exact) (voted : ι → Bool) : ∃ w, HasTotal (b.counted voted) w :=
  h.supply.exists_of_support fun u hu => by rw [counted, hu, ite_self]

theorem Exact.counted_le (h : b.Exact) (voted : ι → Bool) (u : ι) : b.counted voted u ≤ b.power u := by
  have hpower := h.power_nonneg u
  unfold counted
  split_ifs
  · exact le_refl _
  · exact hpower

/-- **What is counted once is no more than the supply.** -/
theorem Covers.le_supply (hcovers : b.Covers voted votes) (h : b.Exact) : votes ≤ b.supply := by
  obtain ⟨w, hw, hle⟩ := hcovers
  exact hle.trans (hw.mono h.supply (h.counted_le voted))

theorem Exact.covers_none (h : b.Exact) (voted : ι → Bool) : b.Covers voted 0 := by
  obtain ⟨w, hw⟩ := h.counted_total voted
  refine ⟨w, hw, hw.nonneg fun u => ?_⟩
  unfold counted
  split_ifs
  · exact h.power_nonneg u
  · exact le_refl 0

/-- A voter that has not voted votes with what it holds. -/
theorem Covers.vote (hcovers : b.Covers voted votes) (h : b.Exact) {v : ι} (hv : voted v = false)
    (hvoted : ∀ u, voted' u = (voted u || decide (u = v))) : b.Covers voted' (votes + b.effective v) := by
  obtain ⟨w, hw, hle⟩ := hcovers
  refine ⟨w + b.effective v, (hw.add (h.held v)).congr fun u => ?_, by omega⟩
  rw [counted, counted, hvoted]
  by_cases hu : b.holder u = v
  · simp [hu, hv]
  · simp [hu]

/-- The powers move, and no holder that has voted loses one to a holder that has not. -/
theorem Covers.moved {b' : Books ι} (hcovers : b.Covers voted votes) (h : b'.Exact)
    (hmoved : ∀ u, b.counted voted u ≤ b'.counted voted u) : b'.Covers voted votes := by
  obtain ⟨w, hw, hle⟩ := hcovers
  obtain ⟨w', hw'⟩ := h.counted_total voted
  exact ⟨w', hw', hle.trans (hw.mono hw' hmoved)⟩

/-- The power of `u` moves, and not from a holder that has voted to one that has not. -/
theorem Covers.rehold {b' : Books ι} (hcovers : b.Covers voted votes) (h : b'.Exact) (hpower : b'.power = b.power)
    {u : ι} (hother : ∀ x, x ≠ u → b'.delegate x = b.delegate x)
    (hstays : b.power u = 0 ∨ (voted (b.holder u) = true → voted (b'.holder u) = true)) : b'.Covers voted votes := by
  apply hcovers.moved h
  intro x
  unfold counted
  rw [hpower]
  by_cases hx : x = u
  · subst hx
    have hnonneg := h.power_nonneg x
    rw [hpower] at hnonneg
    rcases hstays with hzero | hvoted
    · simp [hzero]
    · split_ifs with hold hnew hnew
      · exact le_refl _
      · exact absurd (hvoted hold) hnew
      · exact hnonneg
      · exact le_refl _
  · have hholder : b'.holder x = b.holder x := by rw [holder, hother x hx, holder]
    rw [hholder]

end Books

end DelegatedPower

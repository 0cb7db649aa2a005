/-
Dividends per share.

A pool grants amounts to its shareholders without visiting their accounts: it raises an accumulator of
what one share has earned, in units of `1 / scale`, and an account remembers as its debt what its stake
had earned when it was settled last. All of it is rounded down.

What an account is worth before rounding, `Account.worth`, is what the accounting conserves: settling does
not change it, a grant raises it by no more than the account's part, and a change of stake moves it by the
difference of the two remainders that the rounding drops. So a pool whose changes of stake drop no less
than they pick up never owes more than it was granted. The others may owe more.
-/
import BridgeWatch.Totals
import Mathlib.Tactic.Linarith
import Mathlib.Tactic.Ring

set_option autoImplicit false

namespace DividendPerShare

open Totals

/-! ## Accounts -/

/-- A shareholder's stake, what it had earned when the account was settled last, and what was credited. -/
structure Account where
  stake : ℤ
  debt : ℤ
  credited : ℤ

/-- What is credited and what is to be credited. -/
def Account.claim (scale acc : ℤ) (a : Account) : ℤ := a.credited + (a.stake * acc / scale - a.debt)

/-- The claim before rounding, in units of `1 / scale`. -/
def Account.worth (scale acc : ℤ) (a : Account) : ℤ := a.stake * acc + scale * (a.credited - a.debt)

/-- The account once what it has earned is credited. -/
def Account.settle (scale acc : ℤ) (a : Account) : Account :=
  { a with credited := a.credited + (a.stake * acc / scale - a.debt), debt := a.stake * acc / scale }

/-- The account with another stake, which has earned nothing yet. -/
def Account.rebase (scale acc stake : ℤ) (a : Account) : Account :=
  { a.settle scale acc with stake := stake, debt := stake * acc / scale }

/-- No debt is above what the stake has earned, and nothing is negative. -/
structure Account.Sound (scale acc : ℤ) (a : Account) : Prop where
  stake_nonneg : 0 ≤ a.stake
  credited_nonneg : 0 ≤ a.credited
  debt_le : a.debt ≤ a.stake * acc / scale

section Accounts

variable {scale acc stake delta : ℤ} {a : Account}

theorem Account.worth_eq : a.worth scale acc = scale * a.claim scale acc + a.stake * acc % scale := by
  have hsplit := Int.mul_ediv_add_emod (a.stake * acc) scale
  rw [Account.worth, Account.claim]
  linarith [mul_add scale a.credited (a.stake * acc / scale - a.debt), mul_sub scale a.credited a.debt,
    mul_sub scale (a.stake * acc / scale) a.debt]

theorem Account.claim_le_worth (hscale : 0 < scale) : scale * a.claim scale acc ≤ a.worth scale acc := by
  rw [Account.worth_eq]
  exact le_add_of_nonneg_right (Int.emod_nonneg _ hscale.ne')

/-- **A change of stake** moves the worth by the difference of the remainders. -/
theorem Account.worth_rebase :
    (a.rebase scale acc stake).worth scale acc =
      a.worth scale acc + (stake * acc % scale - a.stake * acc % scale) := by
  have hclaim : (a.rebase scale acc stake).claim scale acc = a.claim scale acc := by
    simp only [Account.claim, Account.rebase, Account.settle]
    ring
  rw [Account.worth_eq, Account.worth_eq, hclaim]
  simp only [Account.rebase]
  ring

theorem Account.worth_raise : a.worth scale (acc + delta) = a.worth scale acc + a.stake * delta := by
  simp only [Account.worth]
  ring

theorem Account.Sound.claim_nonneg (h : a.Sound scale acc) : 0 ≤ a.claim scale acc := by
  have hcredited := h.credited_nonneg
  have hdebt := h.debt_le
  rw [Account.claim]
  omega

theorem Account.Sound.rebase (h : a.Sound scale acc) (hstake : 0 ≤ stake) :
    (a.rebase scale acc stake).Sound scale acc :=
  ⟨hstake, h.claim_nonneg, le_refl _⟩

theorem Account.Sound.raise (h : a.Sound scale acc) (hscale : 0 < scale) (hdelta : 0 ≤ delta) :
    a.Sound scale (acc + delta) := by
  refine ⟨h.stake_nonneg, h.credited_nonneg, h.debt_le.trans ?_⟩
  apply Int.ediv_le_ediv hscale
  rw [mul_add]
  exact le_add_of_nonneg_right (mul_nonneg h.stake_nonneg hdelta)

end Accounts

/-! ## Pools -/

section Pools

variable {ι : Type*} [DecidableEq ι]

/-- The accounts of a pool are sound, and together worth no more than what was granted. -/
structure Solvent (scale acc : ℤ) (accounts : ι → Account) (granted : ℤ) : Prop where
  sound : ∀ i, (accounts i).Sound scale acc
  worth_le : ∃ w, HasTotal (fun i => (accounts i).worth scale acc) w ∧ w ≤ scale * granted

variable {scale acc granted total delta : ℤ} {accounts accounts' : ι → Account}

/-- **The claims are covered** by what was granted. -/
theorem Solvent.claims_le (h : Solvent scale acc accounts granted) (hscale : 0 < scale) :
    ∃ t, HasTotal (fun i => (accounts i).claim scale acc) t ∧ t ≤ granted := by
  obtain ⟨w, hw, hle⟩ := h.worth_le
  obtain ⟨t, ht⟩ : ∃ t, HasTotal (fun i => (accounts i).claim scale acc) t := by
    apply hw.exists_of_support
    intro i hi
    have hclaim := (h.sound i).claim_nonneg
    have hworth : scale * (accounts i).claim scale acc ≤ (accounts i).worth scale acc := Account.claim_le_worth hscale
    rw [hi] at hworth
    by_contra hne
    exact absurd hworth (not_le.mpr (mul_pos hscale (lt_of_le_of_ne hclaim (Ne.symm hne))))
  refine ⟨t, ht, ?_⟩
  have hscaled : scale * t ≤ w := (ht.mul_left scale).mono hw fun i => Account.claim_le_worth hscale
  exact le_of_mul_le_mul_left (hscaled.trans hle) hscale

theorem solvent_start (hscale : 0 < scale) :
    Solvent scale 0 (fun _ : ι => { stake := 0, debt := 0, credited := 0 }) 0 := by
  refine ⟨fun i => ⟨le_refl 0, le_refl 0, by simp⟩, 0, ?_, by simp⟩
  exact hasTotal_zero.congr fun i => by simp [Account.worth]

/-- **A grant** raises the accumulator by no more than the stakes can be given of it. -/
theorem Solvent.grant (h : Solvent scale acc accounts granted) (hscale : 0 < scale)
    (hstakes : HasTotal (fun i => (accounts i).stake) total) (hdelta : 0 ≤ delta) {amount : ℤ}
    (hfair : total * delta ≤ scale * amount) : Solvent scale (acc + delta) accounts (granted + amount) := by
  obtain ⟨w, hw, hle⟩ := h.worth_le
  refine ⟨fun i => (h.sound i).raise hscale hdelta, w + delta * total, ?_, ?_⟩
  · apply (hw.add (hstakes.mul_left delta)).congr
    intro i
    rw [Account.worth_raise, mul_comm delta]
  · rw [mul_add, mul_comm delta]
    exact add_le_add hle hfair

/-- **One account is replaced** by a sound one that is worth no more. -/
theorem Solvent.replace (h : Solvent scale acc accounts granted) (i : ι)
    (hother : ∀ j, j ≠ i → accounts' j = accounts j) (hsound : (accounts' i).Sound scale acc)
    (hworth : (accounts' i).worth scale acc ≤ (accounts i).worth scale acc) :
    Solvent scale acc accounts' granted := by
  obtain ⟨w, hw, hle⟩ := h.worth_le
  refine ⟨?_, _, hw.change i ?_, ?_⟩
  · intro j
    by_cases hj : j = i
    · rwa [hj]
    · rw [hother j hj]
      exact h.sound j
  · intro j hj
    rw [hother j hj]
  · linarith

end Pools

end DividendPerShare

/-
Budgets of rolling windows.

A spender may spend a budget in each window of time. A window is opened when something is to be spent and
the last one is over, so windows follow each other at least a window's length apart, and all that the
spender keeps is the current one with what was spent in it. The record lags behind nothing: what a log
says was spent in a window is within its budget as long as every amount is within what the record leaves.
-/
import Mathlib.Algebra.Order.Ring.Int
import Mathlib.Algebra.Order.BigOperators.Group.List
import Mathlib.Tactic.Common

set_option autoImplicit false

namespace WindowBudget

/-- A window with what may be spent in it, and what was. -/
structure Window where
  start : ℕ
  budget : ℤ
  spent : ℤ
  deriving DecidableEq

def Window.spend (w : Window) (amount : ℤ) : Window := { w with spent := w.spent + amount }

/-- The two are one window, or the second starts when the first is over. -/
def SameOrLater (length : ℕ) (w w' : Window) : Prop :=
  (w'.start = w.start ∧ w'.budget = w.budget) ∨ w.start + length ≤ w'.start

instance (length : ℕ) (w w' : Window) : Decidable (SameOrLater length w w') := inferInstanceAs (Decidable (_ ∨ _))

/-- What the log says was spent in the window that starts at `start`. -/
def spent_in (log : List (Window × ℤ)) (start : ℕ) : ℤ :=
  ((log.filter fun entry => entry.1.start = start).map Prod.snd).sum

/-- The windows before and in the log follow each other, and the current one has the record. -/
structure Kept (length : ℕ) (before : List Window) (log : List (Window × ℤ)) (current : Option Window) : Prop where
  spaced : (before ++ log.map Prod.fst).Pairwise (SameOrLater length)
  latest : ∀ w ∈ before ++ log.map Prod.fst, ∃ w' ∈ current, SameOrLater length w w'
  spent_nonneg : ∀ w ∈ current, 0 ≤ w.spent
  recorded : ∀ w ∈ current, spent_in log w.start ≤ w.spent
  bounded : ∀ w, w ∈ current ∨ w ∈ log.map Prod.fst → spent_in log w.start ≤ max 0 w.budget

/-- The window may be spent from. -/
structure Spendable (length : ℕ) (before : List Window) (log : List (Window × ℤ)) (w : Window) : Prop where
  latest : ∀ w' ∈ before ++ log.map Prod.fst, SameOrLater length w' w
  spent_nonneg : 0 ≤ w.spent
  recorded : spent_in log w.start ≤ w.spent
  bounded : spent_in log w.start ≤ max 0 w.budget

section

variable {length start : ℕ} {before : List Window} {log : List (Window × ℤ)} {current : Option Window} {w w' w'' : Window}
variable {amount : ℤ}

@[simp] theorem Window.spend_start : (w.spend amount).start = w.start := rfl

theorem SameOrLater.refl (w : Window) : SameOrLater length w w := Or.inl ⟨rfl, rfl⟩

/-- Spending changes neither the window's start nor its budget. -/
theorem sameOrLater_spend : SameOrLater length w (w'.spend amount) ↔ SameOrLater length w w' := Iff.rfl

theorem spent_in_nil : spent_in [] start = 0 := rfl

theorem spent_in_concat :
    spent_in (log ++ [(w, amount)]) start = spent_in log start + if w.start = start then amount else 0 := by
  by_cases h : w.start = start <;> simp [spent_in, h]

/-- Nothing was spent in a window that no entry has. -/
theorem spent_in_eq_zero (h : ∀ w ∈ log.map Prod.fst, w.start ≠ start) : spent_in log start = 0 := by
  have hnone : log.filter (fun entry => entry.1.start = start) = [] := by
    rw [List.filter_eq_nil_iff]
    intro entry hentry
    simpa using h entry.1 (List.mem_map_of_mem hentry)
  rw [spent_in, hnone, List.map_nil, List.sum_nil]

theorem kept_start (h : ∀ w ∈ current, 0 ≤ w.spent) : Kept length current.toList [] current where
  spaced := by cases current <;> simp
  latest := by
    intro w hw
    simp only [List.map_nil, List.append_nil, Option.mem_toList] at hw
    exact ⟨w, hw, .refl w⟩
  spent_nonneg := h
  recorded := fun w hw => by
    rw [spent_in_nil]
    exact h w hw
  bounded := fun w _ => by
    rw [spent_in_nil]
    exact le_max_left _ _

theorem Kept.spendable (h : Kept length before log (some w)) : Spendable length before log w where
  latest := by
    intro w' hw'
    obtain ⟨_, hsome, hlater⟩ := h.latest w' hw'
    rw [Option.mem_some_iff] at hsome
    rwa [hsome]
  spent_nonneg := h.spent_nonneg w rfl
  recorded := h.recorded w rfl
  bounded := h.bounded w (Or.inl rfl)

/-- **A new window** is opened when the current one is over. -/
theorem Kept.open (h : Kept length before log current) (hlength : 0 < length)
    (hover : ∀ w' ∈ current, w'.start + length ≤ w.start) (hspent : w.spent = 0) : Spendable length before log w := by
  have hlatest : ∀ w' ∈ before ++ log.map Prod.fst, w'.start + length ≤ w.start := by
    intro w' hw'
    obtain ⟨v, hv, hlater⟩ := h.latest w' hw'
    have hend := hover v hv
    unfold SameOrLater at hlater
    omega
  have hnone : spent_in log w.start = 0 := by
    apply spent_in_eq_zero
    intro w' hw'
    have hend := hlatest w' (List.mem_append_right _ hw')
    omega
  refine ⟨fun w' hw' => Or.inr (hlatest w' hw'), hspent.ge, ?_, ?_⟩
  · rw [hnone, hspent]
  · rw [hnone]
    exact le_max_left _ _

/-- **Spending from a window** keeps the windows within their budgets, when it is within what the record leaves. -/
theorem Kept.spend (h : Kept length before log current) (hw : Spendable length before log w) (hlength : 0 < length)
    (hnonneg : 0 ≤ amount) (hamount : amount = 0 ∨ w.spent + amount ≤ w.budget) :
    Kept length before (log ++ [(w.spend amount, amount)]) (some (w.spend amount)) := by
  have hspent : spent_in (log ++ [(w.spend amount, amount)]) w.start = spent_in log w.start + amount := by
    rw [spent_in_concat, Window.spend_start, if_pos rfl]
  have hbounded : spent_in (log ++ [(w.spend amount, amount)]) w.start ≤ max 0 w.budget := by
    have hrecorded := hw.recorded
    have hbefore := hw.bounded
    rw [hspent]
    omega
  have hrecorded := hw.recorded
  have hspent_nonneg := hw.spent_nonneg
  refine ⟨?_, ?_, ?_, ?_, ?_⟩
  · rw [List.map_append, ← List.append_assoc, List.pairwise_append]
    refine ⟨h.spaced, List.pairwise_singleton _ _, ?_⟩
    intro w' hw' v hv
    obtain rfl := List.mem_singleton.mp hv
    exact sameOrLater_spend.mpr (hw.latest w' hw')
  · intro w' hw'
    refine ⟨_, rfl, ?_⟩
    rw [List.map_append, ← List.append_assoc, List.mem_append] at hw'
    rcases hw' with hold | hnew
    · exact sameOrLater_spend.mpr (hw.latest w' hold)
    · obtain rfl := List.mem_singleton.mp hnew
      exact .refl _
  · intro v hv
    obtain rfl := Option.mem_some_iff.mp hv
    exact add_nonneg hspent_nonneg hnonneg
  · intro v hv
    obtain rfl := Option.mem_some_iff.mp hv
    rw [show (w.spend amount).start = w.start from rfl, hspent]
    exact Int.add_le_add_right hrecorded amount
  · intro v hv
    by_cases hstart : v.start = w.start
    · -- A window that starts with this one has its budget.
      have hbudget : v.budget = w.budget := by
        rw [List.map_append, List.mem_append] at hv
        rcases hv with hcurrent | hold | hnew
        · rw [← Option.mem_some_iff.mp hcurrent]
          rfl
        · have hlater := hw.latest v (List.mem_append_right _ hold)
          unfold SameOrLater at hlater
          omega
        · rw [List.mem_singleton.mp hnew]
          rfl
      rw [hstart, hbudget]
      exact hbounded
    · rw [spent_in_concat, Window.spend_start, if_neg (Ne.symm hstart), add_zero]
      rw [List.map_append, List.mem_append] at hv
      rcases hv with hcurrent | hold | hnew
      · exact absurd (by rw [← Option.mem_some_iff.mp hcurrent]; rfl) hstart
      · exact h.bounded v (Or.inr hold)
      · exact absurd (by rw [List.mem_singleton.mp hnew]; rfl) hstart

end

end WindowBudget

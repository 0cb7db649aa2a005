/-
Usage counters that are reset.

A counter adds up what is used from the start of its window, and the first use after the window's length starts a
new window from nothing. Each use is within a limit at its time, and limits do not fall. A window alone is
then within the limit of its last use. Any stretch of time as long as a window meets two windows at most: what
was used in the one before the current was within a limit too, so a stretch has twice the limit of its last use.
-/
import Mathlib.Algebra.Order.Ring.Int
import Mathlib.Algebra.Order.BigOperators.Group.List
import Mathlib.Tactic.Common

set_option autoImplicit false

namespace ResetWindow

structure Window where
  start : ℕ
  used : ℤ
  deriving DecidableEq

/-- The window at a time: a new one when it is over. -/
def Window.at_time (w : Window) (length now : ℕ) : Window := if w.start + length ≤ now then ⟨now, 0⟩ else w

/-- A use, with the limit at its time. -/
structure Use where
  time : ℕ
  amount : ℤ
  limit : ℤ
  deriving DecidableEq

def total (log : List Use) : ℤ := (log.map Use.amount).sum

/-- The uses of a stretch of time. -/
def stretch (log : List Use) (t length : ℕ) : List Use := log.filter fun u => t ≤ u.time ∧ u.time < t + length

/-- What was used from a time on. -/
def used_since (log : List Use) (t : ℕ) : ℤ := total (log.filter fun u => t ≤ u.time)

/-- The log up to a time is what the window knows of it, and limits have reached `bound`. -/
structure Accounts (length : ℕ) (log : List Use) (w : Window) (bound : ℤ) (now : ℕ) : Prop where
  nonneg : ∀ u ∈ log, 0 ≤ u.amount
  past : ∀ u ∈ log, u.time ≤ now ∧ u.time < w.start + length
  started : w.start ≤ now
  within : w.used ≤ bound
  recorded : used_since log w.start ≤ w.used
  overlap : ∀ t, w.start < t + length → used_since log t ≤ bound + w.used
  doubled : ∀ t u, (stretch log t length).getLast? = some u → total (stretch log t length) ≤ 2 * u.limit

section

variable {length now now' t t' : ℕ} {log log' : List Use} {w : Window} {bound bound' amount : ℤ} {u : Use}

@[simp] theorem total_nil : total [] = 0 := rfl

@[simp] theorem total_append : total (log ++ log') = total log + total log' := by
  simp only [total, List.map_append, List.sum_append]

@[simp] theorem total_singleton : total [u] = u.amount := by simp [total]

theorem total_le_of_sublist (h : log.Sublist log') (hnonneg : ∀ u ∈ log', 0 ≤ u.amount) : total log ≤ total log' := by
  refine List.Sublist.sum_le_sum (h.map Use.amount) ?_
  intro a ha
  obtain ⟨u, hu, rfl⟩ := List.mem_map.mp ha
  exact hnonneg u hu

theorem used_since_nonneg (hnonneg : ∀ u ∈ log, 0 ≤ u.amount) : 0 ≤ used_since log t := by
  refine List.sum_nonneg fun a ha => ?_
  obtain ⟨u, hu, rfl⟩ := List.mem_map.mp ha
  exact hnonneg u (List.mem_of_mem_filter hu)

/-- Less was used from a later time on. -/
theorem used_since_anti (hnonneg : ∀ u ∈ log, 0 ≤ u.amount) (h : t ≤ t') : used_since log t' ≤ used_since log t := by
  refine total_le_of_sublist ?_ fun u hu => hnonneg u (List.mem_of_mem_filter hu)
  apply List.monotone_filter_right
  intro u hu
  simp only [decide_eq_true_eq] at hu ⊢
  omega

theorem used_since_eq_zero (h : ∀ u ∈ log, u.time < t) : used_since log t = 0 := by
  have hnone : log.filter (fun u => t ≤ u.time) = [] := by
    rw [List.filter_eq_nil_iff]
    intro u hu
    have hlt := h u hu
    simpa using hlt
  rw [used_since, hnone, total_nil]

theorem used_since_concat :
    used_since (log ++ [u]) t = used_since log t + if t ≤ u.time then u.amount else 0 := by
  by_cases h : t ≤ u.time <;> simp [used_since, List.filter_append, h]

theorem total_stretch_le (hnonneg : ∀ u ∈ log, 0 ≤ u.amount) : total (stretch log t length) ≤ used_since log t := by
  refine total_le_of_sublist ?_ fun u hu => hnonneg u (List.mem_of_mem_filter hu)
  apply List.monotone_filter_right
  intro u hu
  simp only [decide_eq_true_eq] at hu ⊢
  exact hu.1

theorem accounts_start (hbound : 0 ≤ bound) : Accounts length [] ⟨now, 0⟩ bound now where
  nonneg := by simp
  past := by simp
  started := Nat.le_refl _
  within := hbound
  recorded := Int.le_refl _
  overlap := fun t _ => by simpa [used_since] using hbound
  doubled := by simp [stretch]

/-- Time passes, and limits rise. -/
theorem Accounts.later (h : Accounts length log w bound now) (hnow : now ≤ now') (hbound : bound ≤ bound') :
    Accounts length log w bound' now' where
  nonneg := h.nonneg
  past u hu := ⟨(h.past u hu).1.trans hnow, (h.past u hu).2⟩
  started := h.started.trans hnow
  within := h.within.trans hbound
  recorded := h.recorded
  overlap t ht := (h.overlap t ht).trans (by omega)
  doubled := h.doubled

/-- **A window that is over** is the one before the next: nothing was used in the new one, and a stretch that meets
the new one does not reach back behind the old. -/
theorem Accounts.reset (h : Accounts length log w bound now) (hlength : 0 < length) :
    Accounts length log (w.at_time length now) bound now := by
  unfold Window.at_time
  split_ifs with hover
  · have hpast : ∀ u ∈ log, u.time < now := fun u hu => by
      have hu' := (h.past u hu).2
      omega
    refine ⟨h.nonneg, fun u hu => ?_, Nat.le_refl _, ?_, ?_, ?_, h.doubled⟩
    · have hu' := hpast u hu
      dsimp only
      omega
    · have hused := used_since_nonneg h.nonneg (t := w.start)
      have hrecorded := h.recorded
      have hwithin := h.within
      dsimp only
      omega
    · rw [used_since_eq_zero hpast]
    · intro t ht
      dsimp only at ht ⊢
      have hused := used_since_anti h.nonneg (by omega : w.start ≤ t)
      have hrecorded := h.recorded
      have hwithin := h.within
      omega
  · exact h

/-- The window at a time is not over then. -/
theorem Window.lt_at_time (hlength : 0 < length) : now < (w.at_time length now).start + length := by
  unfold Window.at_time
  split_ifs with hover
  · exact Nat.lt_add_of_pos_right hlength
  · exact Nat.not_le.mp hover

/-- **A use** within the limit. -/
theorem Accounts.use (h : Accounts length log w bound now) (hopen : now < w.start + length) (hnonneg : 0 ≤ amount)
    {limit : ℤ} (hlimit : w.used + amount ≤ limit) (hbound : bound ≤ limit) :
    Accounts length (log ++ [⟨now, amount, limit⟩]) ⟨w.start, w.used + amount⟩ limit now := by
  have hpast : ∀ u ∈ log ++ [(⟨now, amount, limit⟩ : Use)], u.time ≤ now ∧ u.time < w.start + length := by
    intro u hu
    rcases List.mem_append.mp hu with hold | hnew
    · exact h.past u hold
    · rw [List.mem_singleton.mp hnew]
      exact ⟨Nat.le_refl _, hopen⟩
  refine ⟨?_, hpast, h.started, hlimit, ?_, ?_, ?_⟩
  · intro u hu
    rcases List.mem_append.mp hu with hold | hnew
    · exact h.nonneg u hold
    · rw [List.mem_singleton.mp hnew]
      exact hnonneg
  · have hrecorded := h.recorded
    rw [used_since_concat, if_pos h.started]
    dsimp only
    omega
  · intro t ht
    have hoverlap := h.overlap t ht
    rw [used_since_concat]
    dsimp only
    split_ifs <;> omega
  · intro t u hu
    by_cases hin : t ≤ now ∧ now < t + length
    · -- The stretch ends with this use, and overlaps with the current window.
      have hconcat : stretch (log ++ [⟨now, amount, limit⟩]) t length = stretch log t length ++ [⟨now, amount, limit⟩] := by
        simp [stretch, List.filter_append, hin]
      rw [hconcat, List.getLast?_concat, Option.some.injEq] at hu
      have hstretch : total (stretch log t length) ≤ used_since log t := total_stretch_le h.nonneg
      have hstarted := h.started
      have hoverlap := h.overlap t (by omega)
      rw [hconcat, total_append, total_singleton, ← hu]
      dsimp only
      omega
    · have hsame : stretch (log ++ [⟨now, amount, limit⟩]) t length = stretch log t length := by
        simp [stretch, List.filter_append, hin]
      rw [hsame] at hu ⊢
      exact h.doubled t u hu

end

end ResetWindow

/-
Runs of a step function.

A system that takes one operation after another is a function from a state and an operation to the
next state; an operation that fails is one that leaves the state, or part of it, as it was. A run is
the fold of the operations. What every step preserves where it meets a condition holds after every
run whose steps all meet it, which is the one induction that the systems over this file need.
-/
import Mathlib.Data.List.Induction
import Mathlib.Tactic.Common

set_option autoImplicit false

namespace Runs

section

variable {State Op : Type} (step : State → Op → State)

/-- The state after a sequence of operations. -/
def run (s : State) (ops : List Op) : State := ops.foldl step s

/-- Every operation of the sequence meets `C` in the state that it finds. -/
def Along (C : State → Op → Prop) : State → List Op → Prop
  | _, [] => True
  | s, op :: ops => C s op ∧ Along C (step s op) ops

variable {step} {s : State} {op : Op} {ops later : List Op} {C D : State → Op → Prop}

@[simp] theorem run_nil : run step s [] = s := rfl

@[simp] theorem run_cons : run step s (op :: ops) = run step (step s op) ops := rfl

theorem run_append : run step s (ops ++ later) = run step (run step s ops) later := List.foldl_append

theorem run_concat : run step s (ops ++ [op]) = step (run step s ops) op := run_append

instance Along.decidable [hC : ∀ s op, Decidable (C s op)] :
    (s : State) → (ops : List Op) → Decidable (Along step C s ops)
  | _, [] => isTrue trivial
  | s, op :: ops =>
    have : Decidable (Along step C (step s op) ops) := Along.decidable (step s op) ops
    inferInstanceAs (Decidable (C s op ∧ Along step C (step s op) ops))

theorem Along.append :
    Along step C s (ops ++ later) ↔ Along step C s ops ∧ Along step C (run step s ops) later := by
  induction ops generalizing s with
  | nil => simp [Along]
  | cons _ _ ih => simp only [List.cons_append, Along, run_cons, ih, and_assoc]

theorem Along.of_forall (h : ∀ s op, C s op) : Along step C s ops := by
  induction ops generalizing s with
  | nil => exact trivial
  | cons op _ ih => exact ⟨h s op, ih⟩

theorem Along.mono (h : ∀ s op, C s op → D s op) (hC : Along step C s ops) : Along step D s ops := by
  induction ops generalizing s with
  | nil => exact trivial
  | cons op _ ih => exact ⟨h s op hC.1, ih hC.2⟩

/-- **The invariant rule.** -/
theorem run_invariant {I : State → Prop} (hstep : ∀ {s op}, I s → C s op → I (step s op)) (hs : I s)
    (hops : Along step C s ops) : I (run step s ops) := by
  induction ops generalizing s with
  | nil => exact hs
  | cons _ _ ih => exact ih (hstep hs hops.1) hops.2

end

end Runs

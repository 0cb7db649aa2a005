/-
Histories of what happens to many subjects.

A log gives each subject the list of the events about it, the oldest first, and some events begin a
subject anew. What a history has to be like is said of each of its events and those before it, and so
it is enough to look at an event when it is put down.
-/
import Mathlib.Data.List.Induction
import Mathlib.Tactic.Common

set_option autoImplicit false

namespace Histories

variable {Subject Event : Type}

section Guarded

variable {P Q : List Event → Event → Prop} {h earlier later : List Event} {e : Event}

/-- Every event of the history stands in the relation `P` to the events before it. -/
def Guarded (P : List Event → Event → Prop) (h : List Event) : Prop :=
  ∀ earlier e later, h = earlier ++ e :: later → P earlier e

theorem guarded_nil : Guarded P [] := by
  intro earlier e later h
  simp at h

theorem guarded_concat : Guarded P (h ++ [e]) ↔ Guarded P h ∧ P h e := by
  constructor
  · intro hP
    refine ⟨?_, hP h e [] rfl⟩
    intro earlier e' later heq
    exact hP earlier e' (later ++ [e]) (by rw [heq, List.append_assoc, List.cons_append])
  · rintro ⟨hP, he⟩ earlier e' later heq
    rcases List.eq_nil_or_concat later with rfl | ⟨later, e'', rfl⟩
    · obtain ⟨hh, hlast⟩ := List.append_inj' heq rfl
      rw [← hh, ← List.head_eq_of_cons_eq hlast]
      exact he
    · rw [List.concat_eq_append, ← List.cons_append, ← List.append_assoc] at heq
      exact hP earlier e' later (List.append_inj' heq rfl).1

theorem guarded_singleton : Guarded P [e] ↔ P [] e := by
  rw [← List.nil_append [e], guarded_concat]
  exact and_iff_right guarded_nil

end Guarded

section Log

variable [DecidableEq Subject] (anew : Event → Bool)

/-- An event is put down: at the end of the history of its subject, or as the first of a new one. -/
def record (log : Subject → List Event) (entry : Subject × Event) : Subject → List Event :=
  Function.update log entry.1 (if anew entry.2 then [entry.2] else log entry.1 ++ [entry.2])

/-- Events are put down one after another. -/
def record_all (log : Subject → List Event) (entries : List (Subject × Event)) : Subject → List Event :=
  entries.foldl (record anew) log

variable {anew} {log : Subject → List Event} {k k' : Subject} {e : Event} {entries : List (Subject × Event)}

@[simp] theorem record_all_cons :
    record_all anew log ((k, e) :: entries) = record_all anew (record anew log (k, e)) entries := rfl

theorem record_of_ne (h : k' ≠ k) : record anew log (k, e) k' = log k' := Function.update_of_ne h _ _

theorem record_anew (h : anew e = true) : record anew log (k, e) k = [e] := by
  rw [record, Function.update_self, if_pos h]

theorem record_next (h : anew e = false) : record anew log (k, e) k = log k ++ [e] := by
  rw [record, Function.update_self, if_neg (Bool.eq_false_iff.mp h)]

end Log

end Histories

/-
Numerals of a fixed length.

A list of digits in a base, the highest first, and its value. Lists of one length with the same value are the
same list, and the first digits and the last ones are the quotient and the remainder by a power of the base.
-/
import Mathlib.Algebra.Order.Ring.Nat
import Mathlib.Data.List.Induction
import Mathlib.Tactic.Ring

set_option autoImplicit false

namespace PlaceValue

/-- The number that the digits stand for. -/
def value (b : ℕ) (digits : List ℕ) : ℕ := digits.foldl (fun n d => n * b + d) 0

/-- The last `n` digits of a number. -/
def numeral (b : ℕ) : ℕ → ℕ → List ℕ
  | 0, _ => []
  | n + 1, m => numeral b n (m / b) ++ [m % b]

/-- The list has only digits of the base. -/
def Proper (b : ℕ) (digits : List ℕ) : Prop := ∀ d ∈ digits, d < b

section Values

variable {b : ℕ} {l r l' : List ℕ}

theorem value_concat (l : List ℕ) (d : ℕ) : value b (l ++ [d]) = value b l * b + d := by
  rw [value, List.foldl_append]
  rfl

theorem value_append (l r : List ℕ) : value b (l ++ r) = value b l * b ^ r.length + value b r := by
  induction r using List.reverseRecOn with
  | nil => rw [List.append_nil, List.length_nil, pow_zero, mul_one, value, value, List.foldl_nil, add_zero]
  | append_singleton _ _ ih =>
      rw [← List.append_assoc, value_concat, ih, value_concat, List.length_append, List.length_singleton, pow_succ]
      ring

theorem Proper.append : Proper b (l ++ r) ↔ Proper b l ∧ Proper b r := List.forall_mem_append

theorem Proper.value_lt (h : Proper b l) : value b l < b ^ l.length := by
  induction l using List.reverseRecOn with
  | nil => exact Nat.one_pos
  | append_singleton l d ih =>
      obtain ⟨hl, hd⟩ := Proper.append.mp h
      have hd' : d < b := hd d List.mem_cons_self
      rw [value_concat, List.length_append, List.length_singleton, pow_succ]
      calc value b l * b + d < value b l * b + b := Nat.add_lt_add_left hd' _
        _ = (value b l + 1) * b := by ring
        _ ≤ b ^ l.length * b := Nat.mul_le_mul_right b (ih hl)

/-- **The value** of the first digits and of the last. -/
theorem Proper.value_append_div (h : Proper b r) : value b (l ++ r) / b ^ r.length = value b l := by
  have hpos : 0 < b ^ r.length := Nat.zero_lt_of_lt h.value_lt
  rw [value_append, Nat.mul_comm, Nat.mul_add_div hpos, Nat.div_eq_of_lt h.value_lt, Nat.add_zero]

theorem Proper.value_append_mod (h : Proper b r) : value b (l ++ r) % b ^ r.length = value b r := by
  rw [value_append, Nat.mul_comm, Nat.mul_add_mod, Nat.mod_eq_of_lt h.value_lt]

/-- The digits before the last `k` are the quotient by a power of the base, the last ones are the remainder. -/
theorem Proper.value_div (h : Proper b l) {k : ℕ} (hk : k ≤ l.length) :
    value b l / b ^ k = value b (l.take (l.length - k)) := by
  have hlast : Proper b (l.drop (l.length - k)) := fun d hd => h d (List.mem_of_mem_drop hd)
  have hdiv := hlast.value_append_div (l := l.take (l.length - k))
  rwa [List.take_append_drop, List.length_drop, Nat.sub_sub_self hk] at hdiv

theorem Proper.value_mod (h : Proper b l) {k : ℕ} (hk : k ≤ l.length) :
    value b l % b ^ k = value b (l.drop (l.length - k)) := by
  have hlast : Proper b (l.drop (l.length - k)) := fun d hd => h d (List.mem_of_mem_drop hd)
  have hmod := hlast.value_append_mod (l := l.take (l.length - k))
  rwa [List.take_append_drop, List.length_drop, Nat.sub_sub_self hk] at hmod

/-- **Numerals of one length** are determined by their value. -/
theorem Proper.eq_of_value_eq (h : Proper b l) (h' : Proper b l') (hlength : l.length = l'.length)
    (hvalue : value b l = value b l') : l = l' := by
  induction l using List.reverseRecOn generalizing l' with
  | nil => exact (List.length_eq_zero_iff.mp hlength.symm).symm
  | append_singleton l d ih =>
      rcases List.eq_nil_or_concat l' with rfl | ⟨l', d', rfl⟩
      · rw [List.length_append, List.length_singleton] at hlength
        cases hlength
      · rw [List.concat_eq_append] at h' hlength hvalue ⊢
        obtain ⟨hl, hd⟩ := Proper.append.mp h
        obtain ⟨hl', hd'⟩ := Proper.append.mp h'
        have hdiv := congrArg (· / b ^ [d].length) hvalue
        have hmod := congrArg (· % b ^ [d].length) hvalue
        rw [hd.value_append_div, List.length_singleton, ← List.length_singleton (a := d'), hd'.value_append_div] at hdiv
        rw [hd.value_append_mod, List.length_singleton, ← List.length_singleton (a := d'), hd'.value_append_mod] at hmod
        have hlength' : l.length = l'.length := by
          rw [List.length_append, List.length_append] at hlength
          exact Nat.add_right_cancel hlength
        have hdigit : d = d' := by
          rw [value, value, List.foldl_cons, List.foldl_cons, zero_mul, zero_add, zero_add] at hmod
          exact hmod
        rw [ih hl hl' hlength' hdiv, hdigit]

theorem Proper.take_eq (h : Proper b l) (h' : Proper b l') (hlength : l.length = l'.length) {k : ℕ} (hk : k ≤ l.length)
    (hvalue : value b l / b ^ k = value b l' / b ^ k) : l.take (l.length - k) = l'.take (l.length - k) := by
  rw [h.value_div hk, h'.value_div (hlength ▸ hk), ← hlength] at hvalue
  refine Proper.eq_of_value_eq (fun d hd => h d (List.mem_of_mem_take hd)) (fun d hd => h' d (List.mem_of_mem_take hd))
    ?_ hvalue
  rw [List.length_take, List.length_take, hlength]

theorem Proper.drop_eq (h : Proper b l) (h' : Proper b l') (hlength : l.length = l'.length) {k : ℕ} (hk : k ≤ l.length)
    (hvalue : value b l % b ^ k = value b l' % b ^ k) : l.drop (l.length - k) = l'.drop (l.length - k) := by
  rw [h.value_mod hk, h'.value_mod (hlength ▸ hk), ← hlength] at hvalue
  refine Proper.eq_of_value_eq (fun d hd => h d (List.mem_of_mem_drop hd)) (fun d hd => h' d (List.mem_of_mem_drop hd))
    ?_ hvalue
  rw [List.length_drop, List.length_drop, hlength]

theorem length_numeral (n m : ℕ) : (numeral b n m).length = n := by
  induction n generalizing m with
  | zero => rfl
  | succ _ ih => rw [numeral, List.length_append, ih, List.length_singleton]

theorem proper_numeral (hb : 0 < b) (n m : ℕ) : Proper b (numeral b n m) := by
  induction n generalizing m with
  | zero => exact fun d hd => absurd hd List.not_mem_nil
  | succ _ ih =>
      refine Proper.append.mpr ⟨ih _, fun d hd => ?_⟩
      rw [List.mem_singleton.mp hd]
      exact Nat.mod_lt m hb

theorem value_numeral {n m : ℕ} (h : m < b ^ n) : value b (numeral b n m) = m := by
  induction n generalizing m with
  | zero => exact (Nat.lt_one_iff.mp (pow_zero b ▸ h)).symm
  | succ n ih =>
      have hdiv : m / b < b ^ n := Nat.div_lt_of_lt_mul (by rwa [Nat.mul_comm, ← pow_succ])
      rw [numeral, value_concat, ih hdiv, Nat.mul_comm, Nat.div_add_mod]

end Values

end PlaceValue

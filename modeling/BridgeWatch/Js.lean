/-
What the backend takes from JavaScript: thrown errors, loops that need not end,
32-bit integer operators and `Array.prototype.slice`.

A call of a backend function returns, throws an `Error` with a message, or never
returns. Numbers that the source only uses as counts and indices are natural
numbers here, and integers where a difference may be negative. The bitwise
operators are different: they convert to signed 32-bit integers first
(`toInt32`), and that conversion is modelled, because the log's Merkle code
shifts and xors tree sizes.
-/
import Mathlib.Data.List.Forall2
import Mathlib.Data.Nat.Bitwise
import Mathlib.Tactic.Ring
import Mathlib.Tactic.Positivity
import BridgeWatch.Bytes

set_option autoImplicit false

namespace BridgeWatch

/-- How a call fails to return: it throws, or it loops for ever. -/
inductive JsFault where
  | error (message : JsString)
  | diverges
  deriving DecidableEq, Repr

/-- The result of a call. -/
abbrev Js (α : Type) := Except JsFault α

/-- `throw new Error(message)`. -/
def throwNew {α : Type} (message : JsString) : Js α := .error (.error message)

/-- A call that runs `x` and then `f` returns when both do. -/
theorem Js.bind_eq_ok {α β : Type} {x : Js α} {f : α → Js β} {b : β} :
    (x >>= f) = .ok b ↔ ∃ a, x = .ok a ∧ f a = .ok b := by
  cases x with
  | error | ok => simp [bind, Except.bind]

@[simp] theorem Js.ok_bind {α β : Type} (a : α) (f : α → Js β) : ((.ok a : Js α) >>= f) = f a := rfl

/-- A pass over a list that returns has returned on each item. -/
theorem Js.mapM_eq_ok {α β : Type} {f : α → Js β} {xs : List α} {ys : List β}
    (h : xs.mapM f = .ok ys) : (∀ x ∈ xs, ∃ y ∈ ys, f x = .ok y) ∧ ∀ y ∈ ys, ∃ x ∈ xs, f x = .ok y := by
  induction xs generalizing ys with
  | nil =>
      obtain rfl : [] = ys := by simpa [pure, Except.pure] using h
      simp
  | cons x _ ih =>
      rw [List.mapM_cons, Js.bind_eq_ok] at h
      obtain ⟨y, hy, h⟩ := h
      rw [Js.bind_eq_ok] at h
      obtain ⟨ys', hys, h⟩ := h
      obtain rfl : y :: ys' = ys := by simpa [pure, Except.pure] using h
      obtain ⟨hfrom, hto⟩ := ih hys
      refine ⟨?_, ?_⟩
      · intro x' hx'
        rcases List.mem_cons.mp hx' with rfl | hx'
        · exact ⟨y, List.mem_cons_self .., hy⟩
        · obtain ⟨y', hy', heq⟩ := hfrom x' hx'
          exact ⟨y', List.mem_cons_of_mem _ hy', heq⟩
      · intro y' hy'
        rcases List.mem_cons.mp hy' with rfl | hy'
        · exact ⟨x, List.mem_cons_self .., hy⟩
        · obtain ⟨x', hx', heq⟩ := hto y' hy'
          exact ⟨x', List.mem_cons_of_mem _ hx', heq⟩

/-- A pass over a list returns results with a property `p` exactly when each item has
such a result. -/
theorem Js.mapM_forall_iff {α β : Type} {f : α → Js β} {p : β → Prop} {xs : List α} :
    (∃ ys, xs.mapM f = .ok ys ∧ ∀ y ∈ ys, p y) ↔ ∀ x ∈ xs, ∃ y, f x = .ok y ∧ p y := by
  induction xs with
  | nil => simp [pure, Except.pure]
  | cons _ _ ih =>
      rw [List.forall_mem_cons, ← ih]
      constructor
      · rintro ⟨ys, hys, hp⟩
        rw [List.mapM_cons, Js.bind_eq_ok] at hys
        obtain ⟨y, hy, hys⟩ := hys
        obtain ⟨ys', hys', heq⟩ := Js.bind_eq_ok.mp hys
        obtain rfl : y :: ys' = ys := by simpa [pure, Except.pure] using heq
        rw [List.forall_mem_cons] at hp
        exact ⟨⟨y, hy, hp.1⟩, ys', hys', hp.2⟩
      · rintro ⟨⟨y, hy, hpy⟩, ys, hys, hp⟩
        refine ⟨y :: ys, ?_, List.forall_mem_cons.mpr ⟨hpy, hp⟩⟩
        rw [List.mapM_cons, hy, Js.ok_bind, hys, Js.ok_bind]
        rfl

/-- A pass over a list that returns has its results in the order of the items. -/
theorem Js.mapM_forall₂ {α β : Type} {f : α → Js β} {xs : List α} {ys : List β} :
    xs.mapM f = .ok ys ↔ List.Forall₂ (fun x y => f x = .ok y) xs ys := by
  induction xs generalizing ys with
  | nil =>
      rw [List.forall₂_nil_left_iff]
      constructor
      · intro h
        simpa [pure, Except.pure, eq_comm] using h
      · rintro rfl
        rfl
  | cons _ _ ih =>
      rw [List.mapM_cons, Js.bind_eq_ok, List.forall₂_cons_left_iff]
      constructor
      · rintro ⟨y, hy, h⟩
        obtain ⟨ys', hys, heq⟩ := Js.bind_eq_ok.mp h
        exact ⟨y, ys', hy, ih.mp hys, by simpa [pure, Except.pure, eq_comm] using heq⟩
      · rintro ⟨y, ys', hy, hys, rfl⟩
        exact ⟨y, hy, Js.bind_eq_ok.mpr ⟨ys', ih.mpr hys, rfl⟩⟩

/-- A natural number in a template string. -/
def jsNat (n : ℕ) : JsString := js (toString n)

/-! ## 32-bit integers -/

/-- `ToInt32`: the low 32 bits, the highest of which is the sign. -/
def toInt32 (x : ℤ) : ℤ :=
  let bits := (x % 2 ^ 32).toNat
  if bits.testBit 31 then bits - 2 ^ 32 else bits

/-- `x << s`: the shift count is taken modulo 32. -/
def shl (x : ℤ) (s : ℕ) : ℤ := toInt32 (toInt32 x * 2 ^ (s % 32))

/-- `x ^ y` on numbers that are not negative. -/
def xor32 (x y : ℕ) : ℤ := toInt32 ((x % 2 ^ 32) ^^^ (y % 2 ^ 32) : ℕ)

/-- A non-negative number below `2 ^ 31` is its own conversion. -/
theorem toInt32_of_lt {x : ℕ} (h : x < 2 ^ 31) : toInt32 x = x := by
  have hbits : ((x : ℤ) % 2 ^ 32).toNat = x := by omega
  simp only [toInt32, hbits, Nat.testBit_lt_two_pow h, Bool.false_eq_true, if_false]

theorem shl_natCast {x s : ℕ} (hs : s < 32) (h : x * 2 ^ s < 2 ^ 31) :
    shl x s = (x * 2 ^ s : ℕ) := by
  have hx : x < 2 ^ 31 :=
    lt_of_le_of_lt (Nat.le_mul_of_pos_right x (by positivity)) h
  rw [shl, Nat.mod_eq_of_lt hs, toInt32_of_lt hx, ← toInt32_of_lt h]
  push_cast
  rfl

theorem xor32_of_lt {x y : ℕ} (hx : x < 2 ^ 31) (hy : y < 2 ^ 31) :
    xor32 x y = (x ^^^ y : ℕ) := by
  rw [xor32, Nat.mod_eq_of_lt (by omega), Nat.mod_eq_of_lt (by omega),
    toInt32_of_lt (Nat.xor_lt_two_pow hx hy)]

/-! ## Slices -/

/-- An argument of `slice`, relative to the end when it is negative. -/
def sliceIndex (length : ℕ) (i : ℤ) : ℕ :=
  if i < 0 then (length + i).toNat else min i.toNat length

/-- `xs.slice(0, i)`. -/
def sliceTo {α : Type} (xs : List α) (i : ℤ) : List α := xs.take (sliceIndex xs.length i)

/-- `xs.slice(i)`. -/
def sliceFrom {α : Type} (xs : List α) (i : ℤ) : List α := xs.drop (sliceIndex xs.length i)

@[simp] theorem sliceTo_natCast {α : Type} (xs : List α) (n : ℕ) : sliceTo xs n = xs.take n := by
  rw [sliceTo, sliceIndex, if_neg (by omega), Int.toNat_natCast, ← List.take_eq_take_min]

@[simp] theorem sliceFrom_natCast {α : Type} (xs : List α) (n : ℕ) :
    sliceFrom xs n = xs.drop n := by
  rw [sliceFrom, sliceIndex, if_neg (by omega), Int.toNat_natCast]
  rcases Nat.le_total n xs.length with h | h
  · rw [Nat.min_eq_left h]
  · rw [Nat.min_eq_right h, List.drop_length, List.drop_eq_nil_of_le h]

end BridgeWatch

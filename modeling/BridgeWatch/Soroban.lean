/-
What the contracts take from the Soroban host.

A contract call either returns a value, returns `Err(e)` with the contract's own
error, or traps: a failed `require_auth`, an `unwrap` of nothing, an arithmetic
overflow (the workspace builds its release profile with `overflow-checks = true`)
or an explicit panic. The host rolls a failed call back, so a call is modelled as
a function from the storage to a result that carries the new storage only when it
succeeds.

Time-to-live extensions and published events are left out: no contract function
reads either back.
-/
import Mathlib.Algebra.Group.Nat.Even
import BridgeWatch.Bytes

set_option autoImplicit false

namespace BridgeWatch

/-- How a call fails: with the contract's error, or by trapping. -/
inductive Fault (ε : Type) where
  | err (e : ε)
  | panic
  deriving DecidableEq, Repr

/-- The result of a contract call. -/
abbrev Call (ε α : Type) := Except (Fault ε) α

/-- A call that runs `x` and then `f` returns when both do. -/
theorem Call.bind_eq_ok {ε α β : Type} {x : Call ε α} {f : α → Call ε β} {b : β} :
    (x >>= f) = .ok b ↔ ∃ a, x = .ok a ∧ f a = .ok b := by
  cases x with
  | error | ok => simp [bind, Except.bind]

/-- `address.require_auth()`: traps unless the address authorised the call. -/
def require_auth {ε Address : Type} (auth : Address → Bool) (address : Address) : Call ε Unit :=
  if auth address then .ok () else .error .panic

/-- `option.ok_or(e)?`. -/
def ok_or {ε α : Type} (o : Option α) (e : ε) : Call ε α :=
  match o with
  | some a => .ok a
  | none => .error (.err e)

/-- `option.unwrap()`. -/
def unwrap {ε α : Type} (o : Option α) : Call ε α :=
  match o with
  | some a => .ok a
  | none => .error .panic

/-- `return Err(e)` when `c` holds. -/
def reject_if {ε : Type} (c : Prop) [Decidable c] (e : ε) : Call ε Unit :=
  if c then .error (.err e) else .ok ()

/-- What the host keeps of a call: the storage it leaves, or the old one when it fails. -/
def commit {ε α S : Type} (s : S) (result : Call ε (α × S)) : S :=
  match result with
  | .ok (_, s') => s'
  | .error _ => s

section

variable {ε α S Address : Type} {a b : α}

@[simp] theorem Call.pure_eq_ok : (pure a : Call ε α) = .ok b ↔ b = a := by
  constructor
  · intro h
    exact (Except.ok.inj h).symm
  · rintro rfl
    rfl

@[simp] theorem ok_or_eq_ok {o : Option α} {e : ε} : ok_or o e = .ok a ↔ o = some a := by
  cases o <;> simp [ok_or]

@[simp] theorem unwrap_eq_ok {o : Option α} : (unwrap o : Call ε α) = .ok a ↔ o = some a := by
  cases o <;> simp [unwrap]

@[simp] theorem reject_if_eq_ok {c : Prop} [Decidable c] {e : ε} {u : Unit} :
    reject_if c e = .ok u ↔ ¬c := by
  unfold reject_if
  by_cases h : c <;> simp [h]

@[simp] theorem require_auth_eq_ok {auth : Address → Bool} {address : Address} {u : Unit} :
    (require_auth auth address : Call ε Unit) = .ok u ↔ auth address = true := by
  unfold require_auth
  by_cases h : auth address = true <;> simp [h]

theorem Call.ite_eq_ok {c : Prop} [Decidable c] {x y : Call ε α} :
    (if c then x else y) = .ok a ↔ (c ∧ x = .ok a) ∨ (¬c ∧ y = .ok a) := by
  by_cases h : c <;> simp [h]

@[simp] theorem commit_ok {s s' : S} : commit s (.ok (a, s') : Call ε (α × S)) = s' := rfl

end

/-- `x + y` on `u64`, with the overflow check. -/
def u64_add {ε : Type} (x y : ℕ) : Call ε ℕ :=
  if x + y < 2 ^ 64 then .ok (x + y) else .error .panic

theorem u64_add_eq_ok {ε : Type} {x y z : ℕ} (h : (u64_add x y : Call ε ℕ) = .ok z) :
    z = x + y := by
  unfold u64_add at h
  split_ifs at h
  exact (Except.ok.inj h).symm

end BridgeWatch

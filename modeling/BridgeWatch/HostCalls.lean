/-
Calls of the host that contracts of any storage make.
-/
import BridgeWatch.CheckedIntegers
import BridgeWatch.ContractState

set_option autoImplicit false

namespace BridgeWatch.HostCalls

open Transaction
open Contract (U32 U64 Address Env)

variable {Key : Type} {Val : Key → Type}

/-- `env.ledger().timestamp()`. -/
abbrev timestamp : Tx Env Key Val U64 := reads Env.timestamp

/-- `address.require_auth()`. -/
def require_auth (address : Address) : Tx Env Key Val Unit := do
  let authorized ← reads (Env.auth · address)
  panic_if (authorized = false) "Error(Auth, InvalidAction)"

/-- `option.unwrap()`. -/
abbrev unwrap {α : Type} (o : Option α) : Tx Env Key Val α :=
  expect o "called `Option::unwrap()` on a `None` value"

/-- `x.checked_add(y)` on `u64`, or the panic. -/
def checked_add_u64 (x y : U64) (msg : String) : Tx Env Key Val U64 := do
  panic_if (2 ^ 64 ≤ x.toNat + y.toNat) msg
  return x + y

/-- `x.checked_add(y)` on `u32`, or the panic. -/
def checked_add_u32 (x y : U32) (msg : String) : Tx Env Key Val U32 := do
  panic_if (2 ^ 32 ≤ x.toNat + y.toNat) msg
  return x + y

/-- Strings in a vector are found by their bytes. -/
instance : LawfulBEq Contract.SString := inferInstance

/-- `vec.push_back(value)`: the length of a vector is a `u32`. -/
def push_back {α : Type} (values : List α) (value : α) : Tx Env Key Val (List α) := do
  panic_if (2 ^ 32 ≤ values.length + 1) "Error(Object, ExceededLimit)"
  return values ++ [value]

section Inversion

variable {env : Env} {s s' : Store Key Val} {u : Unit} {address : Address} {msg : String}

@[simp] theorem require_auth_eq_ok :
    (require_auth address : Tx Env Key Val Unit) env s = .ok (u, s') ↔ env.auth address = true ∧ s' = s := by
  simp only [require_auth, bind_eq_ok, reads_eq_ok, panic_if_eq_ok, Bool.not_eq_false, and_assoc,
    exists_and_left, exists_eq_left]

@[simp] theorem checked_add_u64_eq_ok {x y z : U64} :
    (checked_add_u64 x y msg : Tx Env Key Val U64) env s = .ok (z, s') ↔
      x.toNat + y.toNat < 2 ^ 64 ∧ z = x + y ∧ s' = s := by
  simp only [checked_add_u64, bind_eq_ok, panic_if_eq_ok, pure_eq_ok, not_le, and_assoc, exists_and_left,
    exists_eq_left, exists_const]

@[simp] theorem checked_add_u32_eq_ok {x y z : U32} :
    (checked_add_u32 x y msg : Tx Env Key Val U32) env s = .ok (z, s') ↔
      x.toNat + y.toNat < 2 ^ 32 ∧ z = x + y ∧ s' = s := by
  simp only [checked_add_u32, bind_eq_ok, panic_if_eq_ok, pure_eq_ok, not_le, and_assoc, exists_and_left,
    exists_eq_left, exists_const]

@[simp] theorem push_back_eq_ok {α : Type} {values values' : List α} {value : α} :
    (push_back values value : Tx Env Key Val (List α)) env s = .ok (values', s') ↔
      values.length + 1 < 2 ^ 32 ∧ values' = values ++ [value] ∧ s' = s := by
  simp only [push_back, bind_eq_ok, panic_if_eq_ok, pure_eq_ok, not_le, and_assoc, exists_and_left, exists_eq_left,
    exists_const]

end Inversion

end BridgeWatch.HostCalls

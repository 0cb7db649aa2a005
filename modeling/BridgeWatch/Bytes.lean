/-
Bytes, fixed-length byte strings and their hexadecimal text.

`BytesN n` is the contracts' `BytesN<n>`, `Buffer` is Node's `Buffer`, and
`JsString` is a JavaScript string, that is a sequence of UTF-16 code units.
SHA-256 is not modelled. It is a parameter of every definition that hashes, a
function from byte strings to `BytesN 32`, and what a result needs of it stands
in that result's hypotheses.

`fromHex` is `Buffer.from(s, "hex")`: Node decodes pairs of digits of either
case and stops, without an error, at the first pair that is not two digits.
-/
import Mathlib.Data.Set.Function
import Mathlib.Tactic.Common

set_option autoImplicit false

namespace BridgeWatch

/-- A byte string of any length. -/
abbrev Buffer := List UInt8

/-- A byte string of length `n`. -/
abbrev BytesN (n : ℕ) := Vector UInt8 n

/-- The type of SHA-256. -/
abbrev Sha256 := Buffer → BytesN 32

/-- SHA-256 has no collision among the inputs `ms`. -/
def Sha256.CollisionFree (sha256 : Sha256) (ms : List Buffer) : Prop :=
  Set.InjOn sha256 {m | m ∈ ms}

/-- The all-zero string, `[0u8; 32]` in the contract and `ZERO` in the service. -/
def zero32 : BytesN 32 := Vector.replicate 32 0

/-- SHA-256 yields the all-zero string on none of the inputs `ms`. -/
def Sha256.NeverZero (sha256 : Sha256) (ms : List Buffer) : Prop :=
  ∀ m ∈ ms, sha256 m ≠ zero32

instance (sha256 : Sha256) (ms : List Buffer) : Decidable (sha256.CollisionFree ms) :=
  decidable_of_iff (∀ x ∈ ms, ∀ y ∈ ms, sha256 x = sha256 y → x = y)
    ⟨fun h _ hx _ hy => h _ hx _ hy, fun h _ hx _ hy => h hx hy⟩

instance (sha256 : Sha256) (ms : List Buffer) : Decidable (sha256.NeverZero ms) :=
  inferInstanceAs (Decidable (∀ m ∈ ms, sha256 m ≠ zero32))

theorem Sha256.CollisionFree.mono {sha256 : Sha256} {ms ms' : List Buffer}
    (h : sha256.CollisionFree ms') (hsub : ms ⊆ ms') : sha256.CollisionFree ms :=
  Set.InjOn.mono (fun _ hm => hsub hm) h

theorem Sha256.NeverZero.mono {sha256 : Sha256} {ms ms' : List Buffer}
    (h : sha256.NeverZero ms') (hsub : ms ⊆ ms') : sha256.NeverZero ms :=
  fun m hm => h m (hsub hm)

theorem BytesN.toList_inj {n : ℕ} {a b : BytesN n} : a.toList = b.toList ↔ a = b :=
  ⟨fun h => Vector.toList_inj.mp h, fun h => by rw [h]⟩

/-- Two strings of one length each, written one after the other, can be told apart. -/
theorem BytesN.append_inj {m n : ℕ} {a a' : BytesN m} {b b' : BytesN n}
    (h : a.toList ++ b.toList = a'.toList ++ b'.toList) : a = a' ∧ b = b' := by
  obtain ⟨ha, hb⟩ := List.append_inj h (by simp)
  exact ⟨BytesN.toList_inj.mp ha, BytesN.toList_inj.mp hb⟩

/-! ## Text -/

/-- A JavaScript string: UTF-16 code units. -/
abbrev JsString := List UInt16

/-- The UTF-16 code units of a character: one, or a surrogate pair. -/
def utf16Char (c : Char) : JsString :=
  if c.toNat < 0x10000 then [c.toNat.toUInt16]
  else
    [(0xD800 + (c.toNat - 0x10000) / 0x400).toUInt16,
      (0xDC00 + (c.toNat - 0x10000) % 0x400).toUInt16]

/-- The UTF-16 code units of a sequence of characters. -/
def utf16 (cs : List Char) : JsString := cs.flatMap utf16Char

/-- The UTF-16 code units of a text. -/
def js (s : String) : JsString := utf16 s.toList

/-! ## Hexadecimal text -/

/-- The digit of a value below 16, in lower case. -/
def hexDigit (v : UInt8) : UInt16 :=
  if v < 10 then 48 + v.toUInt16 else 87 + v.toUInt16

/-- The value of a hexadecimal digit of either case. -/
def hexValue (c : UInt16) : Option UInt8 :=
  if 48 ≤ c ∧ c ≤ 57 then some (c - 48).toUInt8
  else if 97 ≤ c ∧ c ≤ 102 then some (c - 87).toUInt8
  else if 65 ≤ c ∧ c ≤ 70 then some (c - 55).toUInt8
  else none

/-- `buffer.toString("hex")`. -/
def toHex (b : Buffer) : JsString :=
  b.flatMap fun x => [hexDigit (x / 16), hexDigit (x % 16)]

/-- `Buffer.from(s, "hex")`. -/
def fromHex : JsString → Buffer
  | c :: d :: s =>
      match hexValue c, hexValue d with
      | some hi, some lo => (hi * 16 + lo) :: fromHex s
      | _, _ => []
  | _ => []

/-- All 256 bytes survive the two digits they are written as. -/
theorem hexValue_hexDigit (x : UInt8) :
    hexValue (hexDigit (x / 16)) = some (x / 16) ∧ hexValue (hexDigit (x % 16)) = some (x % 16) ∧
      x / 16 * 16 + x % 16 = x := by
  have h : ∀ i : Fin 256,
      hexValue (hexDigit (UInt8.ofNat i / 16)) = some (UInt8.ofNat i / 16) ∧
        hexValue (hexDigit (UInt8.ofNat i % 16)) = some (UInt8.ofNat i % 16) ∧
          UInt8.ofNat i / 16 * 16 + UInt8.ofNat i % 16 = UInt8.ofNat i := by decide +kernel
  simpa using h ⟨x.toNat, x.toNat_lt⟩

@[simp] theorem fromHex_toHex (b : Buffer) : fromHex (toHex b) = b := by
  induction b with
  | nil => rfl
  | cons x b ih =>
      obtain ⟨hhi, hlo, hsum⟩ := hexValue_hexDigit x
      have hcons : toHex (x :: b) = hexDigit (x / 16) :: hexDigit (x % 16) :: toHex b := rfl
      rw [hcons, fromHex, hhi, hlo]
      simp only [hsum, ih]

theorem toHex_injective : Function.Injective toHex :=
  Function.LeftInverse.injective fromHex_toHex

end BridgeWatch

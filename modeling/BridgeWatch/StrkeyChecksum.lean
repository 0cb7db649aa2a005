/-
The checksum of strkeys and the errors it finds.

A bit of the checksum is linear in exclusive or, and no state but zero goes to zero, so two texts that agree
from some byte on have the same checksum only if they had it there. One character of a strkey is inside two
adjacent bytes. If both are data, the checksum tells them apart; if both are checksum, the data decides them;
and one character is on the border, where the high bit of the checksum's low byte may change.
-/
import BridgeWatch.StrkeyEncoding

set_option autoImplicit false

namespace BridgeWatch.AssetRegistry

open Contract (U32 SString)
open PlaceValue

/-! ## Linearity -/

/-- The checksum after one more byte. -/
def crc16_byte (crc : UInt16) (byte : UInt8) : UInt16 := crc16_bit^[8] (crc ^^^ (byte.toUInt16 <<< (8 : UInt16)))

theorem crc16_xmodem_eq (data : Buffer) : crc16_xmodem data = data.foldl crc16_byte 0 := rfl

section Linear

variable {crc crc' : UInt16} {x y x' y' : UInt8}

/-- The polynomial, when the highest bit is set. -/
def feedback (crc : UInt16) : UInt16 := if crc.toBitVec.getLsbD 15 then 0x1021 else 0

theorem crc16_bit_eq (crc : UInt16) : crc16_bit crc = (crc <<< (1 : UInt16)) ^^^ feedback crc := by
  have htop : crc &&& 0x8000 = if crc.toBitVec.getLsbD 15 then 0x8000 else 0 := by
    refine UInt16.toBitVec_inj.mp ?_
    rw [UInt16.toBitVec_and, apply_ite UInt16.toBitVec]
    exact BitVec.and_twoPow crc.toBitVec 15
  rw [crc16_bit, feedback, htop]
  by_cases h : crc.toBitVec.getLsbD 15 = true
  · rw [if_pos h, if_pos h, if_pos (by decide)]
  · rw [if_neg h, if_neg h, if_neg (by decide), UInt16.xor_zero]

theorem feedback_xor (a b : UInt16) : feedback (a ^^^ b) = feedback a ^^^ feedback b := by
  rw [feedback, feedback, feedback, UInt16.toBitVec_xor, BitVec.getLsbD_xor]
  cases a.toBitVec.getLsbD 15 <;> cases b.toBitVec.getLsbD 15 <;> rfl

theorem xor_xor_xor_comm (a b c d : UInt16) : a ^^^ b ^^^ (c ^^^ d) = a ^^^ c ^^^ (b ^^^ d) := by
  rw [UInt16.xor_assoc, ← UInt16.xor_assoc b, UInt16.xor_comm b c, UInt16.xor_assoc c, ← UInt16.xor_assoc]

theorem crc16_bit_xor (a b : UInt16) : crc16_bit (a ^^^ b) = crc16_bit a ^^^ crc16_bit b := by
  rw [crc16_bit_eq, crc16_bit_eq, crc16_bit_eq, UInt16.shiftLeft_xor, feedback_xor, xor_xor_xor_comm]

/-- Only zero goes to zero: the polynomial is odd, and what is shifted is even. -/
theorem crc16_bit_eq_zero (h : crc16_bit crc = 0) : crc = 0 := by
  rw [crc16_bit_eq, UInt16.xor_eq_zero_iff, feedback] at h
  have hshift : (crc <<< (1 : UInt16)).toNat = crc.toNat * 2 % 2 ^ 16 := by
    rw [UInt16.toNat_shiftLeft, Nat.shiftLeft_eq]
    rfl
  by_cases htop : crc.toBitVec.getLsbD 15 = true
  · rw [if_pos htop] at h
    have hodd := congrArg UInt16.toNat h
    rw [hshift] at hodd
    change _ = 0x1021 at hodd
    omega
  · rw [if_neg htop] at h
    have heven := congrArg UInt16.toNat h
    rw [hshift] at heven
    change _ = 0 at heven
    have hlow : crc.toNat.testBit 15 = false := Bool.eq_false_iff.mpr htop
    rw [Nat.testBit_eq_decide_div_mod_eq, decide_eq_false_iff_not] at hlow
    have hlt := crc.toNat_lt
    refine UInt16.toNat_inj.mp ?_
    change crc.toNat = 0
    omega

theorem crc16_bits_xor (n : ℕ) (a b : UInt16) : crc16_bit^[n] (a ^^^ b) = crc16_bit^[n] a ^^^ crc16_bit^[n] b := by
  induction n generalizing a b with
  | zero => rfl
  | succ _ ih =>
      rw [Function.iterate_succ_apply, Function.iterate_succ_apply, Function.iterate_succ_apply, crc16_bit_xor, ih]

theorem crc16_bits_eq_zero {n : ℕ} (h : crc16_bit^[n] crc = 0) : crc = 0 := by
  induction n generalizing crc with
  | zero => exact h
  | succ _ ih => exact crc16_bit_eq_zero (ih h)

theorem crc16_bits_injective (n : ℕ) : Function.Injective crc16_bit^[n] := by
  intro a b h
  refine UInt16.xor_eq_zero_iff.mp (crc16_bits_eq_zero (n := n) ?_)
  rw [crc16_bits_xor, h, UInt16.xor_self]

/-- Two bytes after the same checksum differ as their difference does. -/
theorem crc16_byte_xor (crc : UInt16) (x x' : UInt8) :
    crc16_byte crc x ^^^ crc16_byte crc x' = crc16_byte 0 (x ^^^ x') := by
  rw [crc16_byte, crc16_byte, crc16_byte, ← crc16_bits_xor, xor_xor_xor_comm, UInt16.xor_self, ← UInt16.shiftLeft_xor,
    ← UInt8.toUInt16_xor]

theorem crc16_byte_injective (y : UInt8) : Function.Injective fun crc => crc16_byte crc y :=
  fun _ _ h => (UInt16.xor_left_inj _).mp (crc16_bits_injective 8 h)

theorem crc16_bytes_injective (data : Buffer) : Function.Injective fun crc => data.foldl crc16_byte crc := by
  induction data with
  | nil => exact fun _ _ h => h
  | cons y _ ih => exact fun _ _ h => crc16_byte_injective y (ih h)

end Linear

/-! ## Errors in the data -/

section Errors

variable {crc : UInt16} {x y x' y' : UInt8} {data data' : Buffer}

/-- What a byte adds shows in the checksum's low byte. -/
theorem crc16_byte_low (h : (crc16_byte 0 x).toNat % 256 = 0) : x = 0 := by
  have hall : ∀ n < 256, (crc16_byte 0 (UInt8.ofNat n)).toNat % 256 = 0 → n = 0 := by decide +kernel
  have hx := hall x.toNat x.toNat_lt
  rw [UInt8.ofNat_toNat] at hx
  exact UInt8.toNat_inj.mp (hx h)

/-- What half a byte adds is more than the high bit of the low byte. -/
theorem crc16_byte_half (hx : x.toNat < 16) (hlow : (crc16_byte 0 x).toNat % 128 = 0)
    (hhigh : (crc16_byte 0 x).toNat / 256 = 0) : x = 0 := by
  have hall : ∀ n < 16, (crc16_byte 0 (UInt8.ofNat n)).toNat % 128 = 0 →
      (crc16_byte 0 (UInt8.ofNat n)).toNat / 256 = 0 → n = 0 := by decide +kernel
  have hx := hall x.toNat hx
  rw [UInt8.ofNat_toNat] at hx
  exact UInt8.toNat_inj.mp (hx hlow hhigh)

theorem raised_toNat (y : UInt8) : (y.toUInt16 <<< (8 : UInt16)).toNat = y.toNat * 256 := by
  rw [UInt16.toNat_shiftLeft, UInt8.toNat_toUInt16]
  change y.toNat <<< 8 % 2 ^ 16 = _
  rw [Nat.shiftLeft_eq]
  have := y.toNat_lt
  omega

/-- **Two adjacent bytes** are determined by the checksum. -/
theorem crc16_bytes_two (h : crc16_byte (crc16_byte crc x) y = crc16_byte (crc16_byte crc x') y') :
    x = x' ∧ y = y' := by
  have hstates := crc16_bits_injective 8 h
  have hdiff : crc16_byte 0 (x ^^^ x') = (y ^^^ y').toUInt16 <<< (8 : UInt16) := by
    rw [← crc16_byte_xor crc, UInt8.toUInt16_xor, UInt16.shiftLeft_xor, ← UInt16.xor_eq_zero_iff, xor_xor_xor_comm,
      hstates, UInt16.xor_self]
  have hx : x = x' := by
    refine UInt8.xor_eq_zero_iff.mp (crc16_byte_low ?_)
    rw [hdiff, raised_toNat, Nat.mul_mod_left]
  refine ⟨hx, ?_⟩
  rw [hx, UInt16.xor_right_inj] at hstates
  have hy := congrArg UInt16.toNat hstates
  rw [raised_toNat, raised_toNat] at hy
  exact UInt8.toNat_inj.mp (by omega)

/-- Data that may differ in two adjacent bytes only is determined by its checksum. -/
theorem eq_of_crc16_eq (hlength : data.length = data'.length) {k : ℕ} (hk : k + 2 ≤ data.length)
    (htake : data.take k = data'.take k) (hdrop : data.drop (k + 2) = data'.drop (k + 2))
    (hcrc : crc16_xmodem data = crc16_xmodem data') : data = data' := by
  have hcut : ∀ data : Buffer, k + 2 ≤ data.length →
      ∃ x y, data = data.take k ++ ([x, y] ++ data.drop (k + 2)) := by
    intro data hk
    refine ⟨data[k], data[k + 1], ?_⟩
    rw [List.cons_append, List.singleton_append, ← List.drop_eq_getElem_cons, ← List.drop_eq_getElem_cons,
      List.take_append_drop]
  obtain ⟨x, y, hdata⟩ := hcut data hk
  obtain ⟨x', y', hdata'⟩ := hcut data' (hlength ▸ hk)
  rw [hdata, hdata', htake, hdrop, crc16_xmodem_eq, crc16_xmodem_eq, List.foldl_append, List.foldl_append,
    List.foldl_append, List.foldl_append] at hcrc
  obtain ⟨rfl, rfl⟩ := crc16_bytes_two (crc16_bytes_injective _ hcrc)
  rw [hdata, hdata', htake, hdrop]

end Errors

end BridgeWatch.AssetRegistry

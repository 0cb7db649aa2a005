/-
The base32 decoding of strkeys.

The decoder shifts five bits in for each character and takes eight out when it has them. What it holds are
the digits so far: the bytes that are out and the last bits of the buffer have the same value, and the bits
that the buffer drops are out already. So the characters of 35 bytes are decoded to those bytes.
-/
import BridgeWatch.AssetRegistry
import BridgeWatch.PlaceValue

set_option autoImplicit false

namespace BridgeWatch.AssetRegistry

open Contract (U32 SString)
open PlaceValue

/-! ## The alphabet -/

/-- The character of five bits. -/
def base32_char (digit : ℕ) : UInt8 := if digit < 26 then (65 + digit).toUInt8 else (24 + digit).toUInt8

/-- The numbers of the bytes. -/
def octets (bytes : Buffer) : List ℕ := bytes.map UInt8.toNat

/-- Unpadded base32: the bits of the bytes in groups of five, the last one filled up with zeros. -/
def base32_encode (bytes : Buffer) : Buffer :=
  let chars := (8 * bytes.length + 4) / 5
  (numeral 32 chars (value 256 (octets bytes) * 2 ^ (5 * chars - 8 * bytes.length))).map base32_char

section Alphabet

theorem base32_value_char {digit : ℕ} (h : digit < 32) : base32_value (base32_char digit) = some digit.toUInt8 := by
  have hall : ∀ digit < 32, base32_value (base32_char digit) = some digit.toUInt8 := by decide
  exact hall digit h

/-- A character that has a value is that of its value. -/
theorem base32_value_eq_some {c v : UInt8} (h : base32_value c = some v) : v.toNat < 32 ∧ base32_char v.toNat = c := by
  have hall : ∀ n < 256, ∀ v, base32_value (UInt8.ofNat n) = some v →
      v.toNat < 32 ∧ base32_char v.toNat = UInt8.ofNat n := by
    intro n hn
    have hdecide : ∀ n < 256, (base32_value (UInt8.ofNat n)).all
        (fun v => decide (v.toNat < 32 ∧ base32_char v.toNat = UInt8.ofNat n)) = true := by decide +kernel
    intro v hv
    have hv' := hdecide n hn
    rw [hv, Option.all_some] at hv'
    exact of_decide_eq_true hv'
  have hc := hall c.toNat c.toNat_lt v
  rw [UInt8.ofNat_toNat] at hc
  exact hc h

theorem proper_octets (bytes : Buffer) : Proper 256 (octets bytes) := by
  intro n hn
  obtain ⟨b, -, rfl⟩ := List.mem_map.mp hn
  exact b.toNat_lt

theorem octets_injective : Function.Injective octets :=
  List.map_injective_iff.mpr fun _ _ h => UInt8.toNat_inj.mp h

theorem octets_concat (bytes : Buffer) (b : UInt8) : octets (bytes ++ [b]) = octets bytes ++ [b.toNat] := by
  rw [octets, List.map_append]
  rfl

theorem length_octets (bytes : Buffer) : (octets bytes).length = bytes.length := List.length_map _

/-- The numbers of the characters. -/
def digits_of (text : Buffer) : List ℕ := text.map fun c => ((base32_value c).getD 0).toNat

theorem digits_of_chars {digits : List ℕ} (h : Proper 32 digits) : digits_of (digits.map base32_char) = digits := by
  rw [digits_of, List.map_map]
  refine (List.map_congr_left fun d hd => ?_).trans (List.map_id digits)
  rw [Function.comp, base32_value_char (h d hd), Option.getD_some, Nat.toUInt8_eq, UInt8.toNat_ofNat']
  have := h d hd
  exact Nat.mod_eq_of_lt (by omega)

end Alphabet

/-! ## The decoder -/

/-- The state of the decoder holds the digits. -/
structure Holds (digits : List ℕ) (st : UInt32 × UInt32 × Buffer) : Prop where
  counted : 8 * st.2.2.length + st.2.1.toNat = 5 * digits.length
  bits_lt : st.2.1.toNat < 8
  value_eq : value 32 digits = value 256 (octets st.2.2) * 2 ^ st.2.1.toNat + st.1.toNat % 2 ^ st.2.1.toNat

/-- The round with five bits, where there is room. -/
def absorb (st : UInt32 × UInt32 × Buffer) (v : UInt8) : UInt32 × UInt32 × Buffer :=
  let buffer := (st.1 <<< (5 : UInt32)) ||| v.toUInt32
  let bits := st.2.1 + 5
  if 8 ≤ bits then (buffer, bits - 8, st.2.2 ++ [((buffer >>> (bits - 8)) &&& 255).toUInt8]) else (buffer, bits, st.2.2)

section Rounds

variable {capacity : ℕ} {st st' : UInt32 × UInt32 × Buffer} {digits : List ℕ} {c v : UInt8}

theorem shifted_toNat (buffer : UInt32) (hv : v.toNat < 32) :
    ((buffer <<< (5 : UInt32)) ||| v.toUInt32).toNat = 32 * (buffer.toNat % 2 ^ 27) + v.toNat := by
  have hshift : (buffer <<< (5 : UInt32)).toNat = (buffer.toNat % 2 ^ 27) <<< 5 := by
    rw [UInt32.toNat_shiftLeft, Nat.shiftLeft_eq, Nat.shiftLeft_eq]
    change buffer.toNat * 2 ^ 5 % 2 ^ 32 = buffer.toNat % 2 ^ 27 * 2 ^ 5
    omega
  rw [UInt32.toNat_or, hshift, UInt8.toNat_toUInt32, ← Nat.shiftLeft_add_eq_or_of_lt (i := 5) hv, Nat.shiftLeft_eq,
    Nat.mul_comm]

/-- The last bits of the buffer after a shift. -/
theorem shifted_mod (buffer : UInt32) (hv : v.toNat < 32) {n : ℕ} (hn : n < 8) :
    ((buffer <<< (5 : UInt32)) ||| v.toUInt32).toNat % 2 ^ (n + 5) = buffer.toNat % 2 ^ n * 32 + v.toNat := by
  have hdvd : 2 ^ n ∣ 2 ^ 27 := Nat.pow_dvd_pow 2 (by omega)
  have hlt : buffer.toNat % 2 ^ n < 2 ^ n := Nat.mod_lt _ (Nat.two_pow_pos n)
  rw [shifted_toNat buffer hv, pow_add, Nat.mul_comm (2 ^ n), Nat.mod_mul]
  change (32 * (buffer.toNat % 2 ^ 27) + v.toNat) % 32 +
    32 * ((32 * (buffer.toNat % 2 ^ 27) + v.toNat) / 32 % 2 ^ n) = _
  rw [Nat.mul_add_mod, Nat.mod_eq_of_lt hv, Nat.mul_add_div (by decide), Nat.div_eq_of_lt hv, Nat.add_zero,
    Nat.mod_mod_of_dvd _ hdvd]
  ring

/-- **A round** takes the next digit in. -/
theorem Holds.absorb (h : Holds digits st) (hv : v.toNat < 32) : Holds (digits ++ [v.toNat]) (absorb st v) := by
  obtain ⟨buffer, bits, out⟩ := st
  obtain ⟨hcounted, hbits, hvalue⟩ := h
  dsimp only at hcounted hbits hvalue
  have hadd : (bits + 5).toNat = bits.toNat + 5 := by
    rw [UInt32.toNat_add]
    exact Nat.mod_eq_of_lt (by change bits.toNat + 5 < 2 ^ 32; omega)
  have hlast := shifted_mod buffer hv hbits
  have htotal : value 32 (digits ++ [v.toNat]) = value 256 (octets out) * 2 ^ (bits.toNat + 5) +
      ((buffer <<< (5 : UInt32)) ||| v.toUInt32).toNat % 2 ^ (bits.toNat + 5) := by
    rw [value_concat, hvalue, hlast, pow_add]
    ring
  generalize hnext : (buffer <<< (5 : UInt32)) ||| v.toUInt32 = next at htotal hlast
  rw [AssetRegistry.absorb]
  dsimp only
  rw [hnext]
  by_cases hfull : 8 ≤ bits + 5
  · rw [if_pos hfull]
    have hle : 8 ≤ bits.toNat + 5 := by
      have := UInt32.le_iff_toNat_le.mp hfull
      rwa [hadd] at this
    have hsub : (bits + 5 - 8).toNat = bits.toNat - 3 := by
      rw [UInt32.toNat_sub_of_le _ _ hfull, hadd]
      rfl
    have hbyte : ((next >>> (bits + 5 - 8)) &&& 255).toUInt8.toNat = next.toNat / 2 ^ (bits.toNat - 3) % 256 := by
      rw [UInt32.toNat_toUInt8, UInt32.toNat_and, UInt32.toNat_shiftRight, hsub, Nat.mod_eq_of_lt (by omega : _ < 32),
        Nat.shiftRight_eq_div_pow]
      change (next.toNat / 2 ^ (bits.toNat - 3) &&& (2 ^ 8 - 1)) % 2 ^ 8 = _
      rw [Nat.and_two_pow_sub_one_eq_mod, Nat.mod_mod]
    have hpow : 2 ^ (bits.toNat + 5) = 2 ^ (bits.toNat - 3) * 256 := by
      rw [show bits.toNat + 5 = bits.toNat - 3 + 8 by omega]
      exact pow_add 2 _ 8
    refine ⟨?_, ?_, ?_⟩
    · rw [List.length_append, List.length_append, List.length_singleton, List.length_singleton, hsub]
      omega
    · rw [hsub]
      omega
    · dsimp only
      rw [hsub, htotal, octets_concat, value_concat, hbyte, hpow, Nat.mod_mul]
      ring
  · rw [if_neg hfull]
    have hlt : bits.toNat + 5 < 8 := by
      have := fun h => hfull (UInt32.le_iff_toNat_le.mpr h)
      rw [hadd] at this
      exact Nat.lt_of_not_le this
    refine ⟨?_, ?_, ?_⟩
    · rw [List.length_append, List.length_singleton]
      dsimp only
      omega
    · dsimp only
      omega
    · dsimp only
      rw [hadd, htotal]

theorem base32_round_some (h : base32_round capacity st c = some st') :
    ∃ v, base32_value c = some v ∧ st' = absorb st v := by
  cases hc : base32_value c with
  | none =>
      rw [base32_round, hc] at h
      cases h
  | some v =>
      refine ⟨v, rfl, ?_⟩
      rw [base32_round, hc] at h
      rw [absorb]
      by_cases hfull : 8 ≤ st.2.1 + 5
      · simp only [bind, Option.bind, if_pos hfull] at h ⊢
        split_ifs at h
        exact (Option.some.inj h).symm
      · simp only [bind, Option.bind, if_neg hfull] at h ⊢
        exact (Option.some.inj h).symm

/-- The place is large enough for the digits. -/
theorem base32_round_fits (h : Holds digits st) (hc : base32_value c = some v)
    (hroom : 5 * (digits.length + 1) ≤ 8 * capacity) : base32_round capacity st c = some (absorb st v) := by
  obtain ⟨hcounted, hbits, -⟩ := h
  rw [base32_round, hc, absorb]
  simp only [bind, Option.bind]
  by_cases hfull : 8 ≤ st.2.1 + 5
  · rw [if_pos hfull, if_pos hfull]
    refine if_neg fun hle => ?_
    have hle' : 8 ≤ (st.2.1 + 5).toNat := UInt32.le_iff_toNat_le.mp hfull
    rw [UInt32.toNat_add] at hle'
    have : (st.2.1.toNat + 5) % 2 ^ 32 = st.2.1.toNat + 5 := Nat.mod_eq_of_lt (by omega)
    change 8 ≤ (st.2.1.toNat + 5) % 2 ^ 32 at hle'
    omega
  · rw [if_neg hfull, if_neg hfull]

end Rounds

theorem Holds.start : Holds [] (0, 0, []) where
  counted := rfl
  bits_lt := by decide
  value_eq := rfl

/-! ## Whole texts -/

section Texts

variable {capacity : ℕ} {st : UInt32 × UInt32 × Buffer} {digits : List ℕ} {text bytes : Buffer}

/-- **What is decoded** has only characters of the alphabet. -/
theorem decoded_holds (h : text.foldlM (base32_round capacity) (0, 0, []) = some st) :
    text = (digits_of text).map base32_char ∧ Proper 32 (digits_of text) ∧ Holds (digits_of text) st := by
  induction text using List.reverseRecOn generalizing st with
  | nil => exact ⟨rfl, fun d hd => absurd hd List.not_mem_nil, Option.some.inj h ▸ Holds.start⟩
  | append_singleton text c ih =>
      rw [List.foldlM_append] at h
      obtain ⟨before, hbefore, hlast⟩ := Option.bind_eq_some_iff.mp h
      obtain ⟨st', hround, hst⟩ := Option.bind_eq_some_iff.mp hlast
      cases hst
      obtain ⟨v, hc, rfl⟩ := base32_round_some hround
      obtain ⟨hv, hchar⟩ := base32_value_eq_some hc
      obtain ⟨htext, hproper, hholds⟩ := ih hbefore
      have hdigits : digits_of (text ++ [c]) = digits_of text ++ [v.toNat] := by
        rw [digits_of, List.map_append, List.map_singleton, hc]
        rfl
      rw [hdigits, List.map_append, ← htext, List.map_singleton, hchar]
      refine ⟨rfl, Proper.append.mpr ⟨hproper, fun d hd => ?_⟩, hholds.absorb hv⟩
      rw [List.mem_singleton.mp hd]
      exact hv

theorem decodes (h : Proper 32 digits) (hroom : 5 * digits.length ≤ 8 * capacity) :
    ∃ st, (digits.map base32_char).foldlM (base32_round capacity) (0, 0, []) = some st ∧ Holds digits st := by
  induction digits using List.reverseRecOn with
  | nil => exact ⟨_, rfl, Holds.start⟩
  | append_singleton _ d ih =>
      obtain ⟨hdigits, hd⟩ := Proper.append.mp h
      have hd' : d < 32 := hd d List.mem_cons_self
      rw [List.length_append, List.length_singleton] at hroom
      obtain ⟨st, hst, hholds⟩ := ih hdigits (by omega)
      have hdigit : d.toUInt8.toNat = d := by
        rw [Nat.toUInt8_eq, UInt8.toNat_ofNat']
        exact Nat.mod_eq_of_lt (by omega)
      have hround := base32_round_fits hholds (base32_value_char hd') hroom
      have hnext := hholds.absorb (v := d.toUInt8) (hdigit.symm ▸ hd')
      rw [hdigit] at hnext
      refine ⟨_, ?_, hnext⟩
      rw [List.map_append, List.foldlM_append, hst]
      change (base32_round capacity st (base32_char d)).bind pure = _
      rw [hround]
      rfl

theorem pow_groups {n m : ℕ} (h : 5 * n = 8 * m) : (32 : ℕ) ^ n = 256 ^ m := by
  have h32 : (32 : ℕ) ^ n = 2 ^ (5 * n) := (pow_mul 2 5 n).symm
  have h256 : (256 : ℕ) ^ m = 2 ^ (8 * m) := (pow_mul 2 8 m).symm
  rw [h32, h256, h]

/-- The encoding of bytes whose bits fill the characters. -/
theorem base32_encode_full {n : ℕ} (h : 5 * n = 8 * bytes.length) :
    base32_encode bytes = (numeral 32 n (value 256 (octets bytes))).map base32_char := by
  have hchars : (8 * bytes.length + 4) / 5 = n := by omega
  rw [base32_encode, hchars, h, Nat.sub_self, pow_zero, mul_one]

/-- **What is decoded** from a text is what the text encodes. -/
theorem base32_decode_some (h : base32_decode text capacity = some bytes) (hlength : 5 * text.length = 8 * capacity) :
    bytes.length = capacity ∧ text = base32_encode bytes := by
  obtain ⟨st, hst, hend⟩ := Option.bind_eq_some_iff.mp h
  split_ifs at hend with hfull
  obtain rfl := Option.some.inj hend
  obtain ⟨htext, hproper, hcounted, -, hvalue⟩ := decoded_holds hst
  refine ⟨hfull.1, ?_⟩
  have hn : (digits_of text).length = text.length := List.length_map _
  have hgroups : 5 * text.length = 8 * st.2.2.length := by rw [hfull.1, hlength]
  rw [hfull.2] at hvalue
  change _ = _ * 2 ^ 0 + _ % 2 ^ 0 at hvalue
  rw [pow_zero, mul_one, Nat.mod_one, Nat.add_zero] at hvalue
  have hlt : value 256 (octets st.2.2) < 32 ^ text.length := by
    rw [pow_groups hgroups, ← length_octets st.2.2]
    exact (proper_octets st.2.2).value_lt
  rw [base32_encode_full hgroups]
  have hdigits : digits_of text = numeral 32 text.length (value 256 (octets st.2.2)) := by
    refine hproper.eq_of_value_eq (proper_numeral (by decide) _ _) (by rw [hn, length_numeral]) ?_
    rw [value_numeral hlt, hvalue]
  rw [← hdigits]
  exact htext

/-- **Encoded bytes** are decoded to themselves. -/
theorem base32_decode_encode {n : ℕ} (h : 5 * n = 8 * bytes.length) :
    base32_decode (base32_encode bytes) bytes.length = some bytes := by
  have hlt : value 256 (octets bytes) < 32 ^ n := by
    rw [pow_groups h, ← length_octets bytes]
    exact (proper_octets bytes).value_lt
  have hproper := proper_numeral (b := 32) (by decide) n (value 256 (octets bytes))
  obtain ⟨st, hst, hcounted, hbits, hvalue⟩ := decodes hproper (by rw [length_numeral, h])
  rw [length_numeral] at hcounted
  have hlength : st.2.2.length = bytes.length := by omega
  have hzero : st.2.1 = 0 := UInt32.toNat_inj.mp (by change _ = 0; omega)
  rw [value_numeral hlt, hzero] at hvalue
  change _ = _ * 2 ^ 0 + _ % 2 ^ 0 at hvalue
  rw [pow_zero, mul_one, Nat.mod_one, Nat.add_zero] at hvalue
  have hbytes : st.2.2 = bytes := by
    refine octets_injective ((proper_octets _).eq_of_value_eq (proper_octets _) ?_ hvalue.symm)
    rw [length_octets, length_octets, hlength]
  rw [base32_decode, base32_encode_full h, hst]
  change (if st.2.2.length = bytes.length ∧ st.2.1 = 0 then some st.2.2 else none) = _
  rw [if_pos ⟨hlength, hzero⟩, hbytes]

theorem length_base32_encode {n : ℕ} (h : 5 * n = 8 * bytes.length) : (base32_encode bytes).length = n := by
  rw [base32_encode_full h, List.length_map, length_numeral]

end Texts

end BridgeWatch.AssetRegistry

/-
Strkeys of accounts.

A text is a valid strkey exactly if it encodes the version, a key of 32 bytes and the checksum of both. The
key is determined by the text, and two strkeys do not differ in one character only.
-/
import BridgeWatch.StrkeyChecksum

set_option autoImplicit false

namespace BridgeWatch.AssetRegistry

open Contract (U32 SString)
open PlaceValue

/-- A payload with its checksum, the low byte first. -/
def sealed_bytes (payload : Buffer) : Buffer :=
  payload ++ [(crc16_xmodem payload).toUInt8, (crc16_xmodem payload >>> (8 : UInt16)).toUInt8]

/-- The strkey of an account's key. -/
def account_strkey (key : Buffer) : SString := base32_encode (sealed_bytes (STRKEY_VERSION_ACCOUNT_ID :: key))

/-! ## The check -/

section Check

variable {payload bytes key : Buffer} {s : SString}

theorem length_sealed_bytes (payload : Buffer) : (sealed_bytes payload).length = payload.length + 2 := by
  rw [sealed_bytes, List.length_append]
  rfl

/-- The two bytes of a word. -/
theorem word_eq_iff (word : UInt16) (low high : UInt8) :
    word = low.toUInt16 ||| (high.toUInt16 <<< (8 : UInt16)) ↔
      low = word.toUInt8 ∧ high = (word >>> (8 : UInt16)).toUInt8 := by
  have hword : (low.toUInt16 ||| (high.toUInt16 <<< (8 : UInt16))).toNat = high.toNat * 256 + low.toNat := by
    have hraised : high.toNat * 256 = high.toNat <<< 8 := (Nat.shiftLeft_eq high.toNat 8).symm
    rw [UInt16.toNat_or, raised_toNat, UInt8.toNat_toUInt16, Nat.or_comm, hraised]
    exact (Nat.shiftLeft_add_eq_or_of_lt low.toNat_lt _).symm
  have hlow : word.toUInt8.toNat = word.toNat % 256 := UInt16.toNat_toUInt8 word
  have hhigh : (word >>> (8 : UInt16)).toUInt8.toNat = word.toNat / 256 := by
    rw [UInt16.toNat_toUInt8, UInt16.toNat_shiftRight]
    change word.toNat >>> 8 % 2 ^ 8 = _
    have := word.toNat_lt
    rw [Nat.shiftRight_eq_div_pow]
    omega
  have hlow_lt := low.toNat_lt
  rw [← UInt16.toNat_inj, ← UInt8.toNat_inj, ← UInt8.toNat_inj, hword, hlow, hhigh]
  omega

/-- Bytes that pass the checks are a version and a key that are sealed. -/
theorem sealed_iff (hlength : bytes.length = STRKEY_DECODED_LEN) :
    (bytes.getD 0 0 = STRKEY_VERSION_ACCOUNT_ID ∧
      crc16_xmodem (bytes.take (STRKEY_DECODED_LEN - 2)) = (bytes.getD (STRKEY_DECODED_LEN - 2) 0).toUInt16 |||
        ((bytes.getD (STRKEY_DECODED_LEN - 2 + 1) 0).toUInt16 <<< (8 : UInt16))) ↔
      ∃ key : Buffer, key.length = 32 ∧ bytes = sealed_bytes (STRKEY_VERSION_ACCOUNT_ID :: key) := by
  have hlast : bytes.drop 33 = [bytes.getD 33 0, bytes.getD 34 0] := by
    have h33 : 33 < bytes.length := by rw [hlength]; decide
    have h34 : 34 < bytes.length := by rw [hlength]; decide
    rw [List.drop_eq_getElem_cons h33, List.drop_eq_getElem_cons h34, List.drop_eq_nil_of_le (i := 34 + 1) hlength.le,
      List.getElem_eq_getD 0, List.getElem_eq_getD 0]
  rw [word_eq_iff]
  constructor
  · rintro ⟨hversion, hlow, hhigh⟩
    refine ⟨(bytes.take 33).drop 1, ?_, ?_⟩
    · rw [List.length_drop, List.length_take, hlength]
      rfl
    · have hhead : bytes.take 33 = STRKEY_VERSION_ACCOUNT_ID :: (bytes.take 33).drop 1 := by
        have h0 : 0 < (bytes.take 33).length := by rw [List.length_take, hlength]; decide
        have hfirst : (bytes.take 33)[0] = STRKEY_VERSION_ACCOUNT_ID := by
          rw [List.getElem_take, ← hversion]
          exact List.getElem_eq_getD 0
        rw [← hfirst]
        exact List.drop_eq_getElem_cons h0
      rw [← hhead, sealed_bytes]
      change bytes.getD 33 0 = _ at hlow
      change bytes.getD 34 0 = _ at hhigh
      rw [hlow, hhigh] at hlast
      exact ((List.take_append_drop 33 bytes).symm.trans (congrArg _ hlast))
  · rintro ⟨key, hkey, rfl⟩
    have hpayload : (STRKEY_VERSION_ACCOUNT_ID :: key).length = 33 := by rw [List.length_cons, hkey]
    have htake : (sealed_bytes (STRKEY_VERSION_ACCOUNT_ID :: key)).take 33 = STRKEY_VERSION_ACCOUNT_ID :: key := by
      rw [sealed_bytes, ← hpayload, List.take_left]
    have hdrop : (sealed_bytes (STRKEY_VERSION_ACCOUNT_ID :: key)).drop 33 =
        [(crc16_xmodem (STRKEY_VERSION_ACCOUNT_ID :: key)).toUInt8,
          (crc16_xmodem (STRKEY_VERSION_ACCOUNT_ID :: key) >>> (8 : UInt16)).toUInt8] := by
      rw [sealed_bytes, ← hpayload, List.drop_left]
    rw [hdrop] at hlast
    obtain ⟨hlow, hrest⟩ := List.cons.inj hlast
    obtain ⟨hhigh, -⟩ := List.cons.inj hrest
    refine ⟨rfl, ?_, ?_⟩
    · change _ = (crc16_xmodem (List.take 33 _)).toUInt8
      rw [htake]
      exact hlow.symm
    · change _ = (crc16_xmodem (List.take 33 _) >>> (8 : UInt16)).toUInt8
      rw [htake]
      exact hhigh.symm

theorem length_account (hkey : key.length = 32) :
    (sealed_bytes (STRKEY_VERSION_ACCOUNT_ID :: key)).length = STRKEY_DECODED_LEN := by
  rw [length_sealed_bytes, List.length_cons, hkey]
  rfl

/-- **A valid strkey** encodes an account's key. -/
theorem is_valid_account_strkey_iff (s : SString) :
    is_valid_account_strkey s = true ↔ ∃ key : Buffer, key.length = 32 ∧ s = account_strkey key := by
  rw [is_valid_account_strkey]
  constructor
  · intro h
    split_ifs at h with hlength
    have hlength' : 5 * s.length = 8 * STRKEY_DECODED_LEN := by
      rw [not_not.mp hlength]
      rfl
    cases hdecoded : base32_decode s STRKEY_DECODED_LEN with
    | none =>
        rw [hdecoded] at h
        cases h
    | some =>
        rw [hdecoded] at h
        dsimp only at h
        split_ifs at h with hversion
        obtain ⟨hbytes, hs⟩ := base32_decode_some hdecoded hlength'
        obtain ⟨key, hkey, hsealed⟩ := (sealed_iff hbytes).mp ⟨not_not.mp hversion, beq_iff_eq.mp h⟩
        exact ⟨key, hkey, by rw [hs, hsealed, account_strkey]⟩
  · rintro ⟨key, hkey, rfl⟩
    have hlength := length_account hkey
    have hgroups : 5 * STRKEY_ENCODED_LEN = 8 * (sealed_bytes (STRKEY_VERSION_ACCOUNT_ID :: key)).length := by
      rw [hlength]
      rfl
    have hdecoded := base32_decode_encode hgroups
    rw [hlength] at hdecoded
    obtain ⟨hversion, hcrc⟩ := (sealed_iff hlength).mpr ⟨key, hkey, rfl⟩
    rw [account_strkey, if_neg (not_not.mpr (length_base32_encode hgroups)), hdecoded]
    dsimp only
    rw [if_neg (not_not.mpr hversion)]
    exact beq_iff_eq.mpr hcrc

end Check

/-! ## One wrong character -/

section Neighbours

variable {payload payload' bytes bytes' : Buffer} {p q : Buffer} {c c' : UInt8} {n : ℕ}

/-- Encoded bytes as numbers: the characters before one and those after it. -/
theorem value_around (hn : 5 * n = 8 * bytes.length) (h : base32_encode bytes = p ++ c :: q) :
    value 256 (octets bytes) / 32 ^ (q.length + 1) = value 32 (digits_of p) ∧
      value 256 (octets bytes) % 32 ^ q.length = value 32 (digits_of q) := by
  have hlt : value 256 (octets bytes) < 32 ^ n := by
    rw [pow_groups hn, ← length_octets bytes]
    exact (proper_octets bytes).value_lt
  have hproper := proper_numeral (b := 32) (by decide) n (value 256 (octets bytes))
  have hdigits : numeral 32 n (value 256 (octets bytes)) = digits_of p ++ digits_of (c :: q) := by
    rw [base32_encode_full hn] at h
    rw [← digits_of_chars hproper, h, digits_of, List.map_append]
    rfl
  have hvalue := value_numeral hlt
  rw [hdigits] at hproper hvalue
  obtain ⟨-, hlast⟩ := Proper.append.mp hproper
  have hq : Proper 32 (digits_of q) := fun d hd => hlast d (List.mem_cons_of_mem _ hd)
  have hdiv := hlast.value_append_div (l := digits_of p)
  have hmod := hq.value_append_mod (l := digits_of p ++ digits_of [c])
  rw [List.append_assoc] at hmod
  rw [hvalue] at hdiv
  have hwhole : digits_of [c] ++ digits_of q = digits_of (c :: q) := rfl
  rw [hwhole, hvalue] at hmod
  rw [digits_of, List.length_map] at hdiv hmod
  exact ⟨hdiv, hmod⟩

/-- Texts that differ in one character: the bytes before it and those after it are the same. -/
theorem bytes_around (hn : 5 * n = 8 * bytes.length) (hlength : bytes.length = bytes'.length)
    (h : base32_encode bytes = p ++ c :: q) (h' : base32_encode bytes' = p ++ c' :: q) :
    (∀ j ≤ bytes.length, 5 * (q.length + 1) ≤ 8 * j →
        bytes.take (bytes.length - j) = bytes'.take (bytes.length - j)) ∧
      ∀ j ≤ bytes.length, 8 * j ≤ 5 * q.length → bytes.drop (bytes.length - j) = bytes'.drop (bytes.length - j) := by
  obtain ⟨hdiv, hmod⟩ := value_around hn h
  obtain ⟨hdiv', hmod'⟩ := value_around (hlength ▸ hn) h'
  have hoctets : (octets bytes).length = (octets bytes').length := by rw [length_octets, length_octets, hlength]
  have h32 : ∀ k : ℕ, (32 : ℕ) ^ k = 2 ^ (5 * k) := fun k => (pow_mul 2 5 k).symm
  have h256 : ∀ k : ℕ, (256 : ℕ) ^ k = 2 ^ (8 * k) := fun k => (pow_mul 2 8 k).symm
  constructor
  · intro j hj hbits
    have hpow : (256 : ℕ) ^ j = 32 ^ (q.length + 1) * 2 ^ (8 * j - 5 * (q.length + 1)) := by
      rw [h32, h256, ← pow_add, Nat.add_sub_cancel' hbits]
    have hvalue : value 256 (octets bytes) / 256 ^ j = value 256 (octets bytes') / 256 ^ j := by
      rw [hpow, ← Nat.div_div_eq_div_mul, ← Nat.div_div_eq_div_mul, hdiv, hdiv']
    have htake := (proper_octets bytes).take_eq (proper_octets bytes') hoctets (by rwa [length_octets]) hvalue
    rw [length_octets, octets, octets, ← List.map_take, ← List.map_take] at htake
    exact octets_injective htake
  · intro j hj hbits
    have hdvd : (256 : ℕ) ^ j ∣ 32 ^ q.length := by
      rw [h32, h256]
      exact Nat.pow_dvd_pow 2 hbits
    have hvalue : value 256 (octets bytes) % 256 ^ j = value 256 (octets bytes') % 256 ^ j := by
      rw [← Nat.mod_mod_of_dvd _ hdvd, ← Nat.mod_mod_of_dvd (value 256 (octets bytes')) hdvd, hmod, hmod']
    have hdrop := (proper_octets bytes).drop_eq (proper_octets bytes') hoctets (by rwa [length_octets]) hvalue
    rw [length_octets, octets, octets, ← List.map_drop, ← List.map_drop] at hdrop
    exact octets_injective hdrop

/-- Payloads with the same seal have the same checksum. -/
theorem crc16_eq_of_drop (hlength : payload.length = payload'.length) {k : ℕ} (hk : k ≤ payload.length)
    (h : (sealed_bytes payload).drop k = (sealed_bytes payload').drop k) :
    payload.drop k = payload'.drop k ∧ crc16_xmodem payload = crc16_xmodem payload' := by
  rw [sealed_bytes, sealed_bytes, List.drop_append_of_le_length hk, List.drop_append_of_le_length (hlength ▸ hk)] at h
  obtain ⟨hdrop, hseal⟩ := List.append_inj h (by rw [List.length_drop, List.length_drop, hlength])
  obtain ⟨hlow, hrest⟩ := List.cons.inj hseal
  obtain ⟨hhigh, -⟩ := List.cons.inj hrest
  refine ⟨hdrop, ?_⟩
  rw [(word_eq_iff (crc16_xmodem payload) _ _).mpr ⟨rfl, rfl⟩, hlow, hhigh]
  exact ((word_eq_iff _ _ _).mpr ⟨rfl, rfl⟩).symm

theorem seal_toNat (payload : Buffer) :
    (crc16_xmodem payload).toUInt8.toNat = (crc16_xmodem payload).toNat % 256 ∧
      (crc16_xmodem payload >>> (8 : UInt16)).toUInt8.toNat = (crc16_xmodem payload).toNat / 256 := by
  refine ⟨UInt16.toNat_toUInt8 _, ?_⟩
  rw [UInt16.toNat_toUInt8, UInt16.toNat_shiftRight]
  change (crc16_xmodem payload).toNat >>> 8 % 2 ^ 8 = _
  have := (crc16_xmodem payload).toNat_lt
  rw [Nat.shiftRight_eq_div_pow]
  omega

/-- Of the last four digits: the first half of the first one and what is after the first bit of the second. -/
theorem last_digits (v d : ℕ) {d' d'' : ℕ} (hd' : d' < 256) (hd'' : d'' < 256) :
    (((v * 256 + d) * 256 + d') * 256 + d'') / 32 ^ 4 = v * 16 + d / 2 ^ 4 ∧
      (((v * 256 + d) * 256 + d') * 256 + d'') % 32 ^ 3 = d' % 2 ^ 7 * 256 + d'' := by
  constructor <;> omega

/-- The character on the border has half of the last byte of the data and the high bit of the checksum's low byte. -/
theorem eq_of_border {data : Buffer} {x x' : UInt8}
    (hdiv : value 256 (octets (sealed_bytes (data ++ [x]))) / 32 ^ 4 =
      value 256 (octets (sealed_bytes (data ++ [x']))) / 32 ^ 4)
    (hmod : value 256 (octets (sealed_bytes (data ++ [x]))) % 32 ^ 3 =
      value 256 (octets (sealed_bytes (data ++ [x']))) % 32 ^ 3) : x = x' := by
  have hvalue : ∀ x, value 256 (octets (sealed_bytes (data ++ [x]))) =
      ((value 256 (octets data) * 256 + x.toNat) * 256 + (crc16_xmodem (data ++ [x])).toNat % 256) * 256 +
        (crc16_xmodem (data ++ [x])).toNat / 256 := by
    intro x
    have hseal := seal_toNat (data ++ [x])
    rw [sealed_bytes, List.append_cons, octets_concat, value_concat, octets_concat, value_concat, octets_concat,
      value_concat, hseal.1, hseal.2]
  have hcrc : ∀ x, crc16_xmodem (data ++ [x]) = crc16_byte (crc16_xmodem data) x := by
    intro x
    rw [crc16_xmodem_eq, List.foldl_append]
    rfl
  rw [hvalue, hvalue, hcrc, hcrc] at hdiv hmod
  have hdiff := crc16_byte_xor (crc16_xmodem data) x x'
  generalize crc16_byte (crc16_xmodem data) x = w at hdiv hmod hdiff
  generalize crc16_byte (crc16_xmodem data) x' = w' at hdiv hmod hdiff
  have hbyte : ∀ w : UInt16, w.toNat / 256 < 256 := fun w => Nat.div_lt_of_lt_mul w.toNat_lt
  have hdigits := last_digits (value 256 (octets data)) x.toNat (Nat.mod_lt w.toNat (by decide)) (hbyte w)
  have hdigits' := last_digits (value 256 (octets data)) x'.toNat (Nat.mod_lt w'.toNat (by decide)) (hbyte w')
  rw [hdigits.1, hdigits'.1] at hdiv
  rw [hdigits.2, hdigits'.2] at hmod
  have hhalf : x.toNat / 2 ^ 4 = x'.toNat / 2 ^ 4 := Nat.add_left_cancel hdiv
  have hhigh : w.toNat / 2 ^ 8 = w'.toNat / 2 ^ 8 := by
    have := hbyte w
    have := hbyte w'
    omega
  have hlow : w.toNat % 2 ^ 7 = w'.toNat % 2 ^ 7 := by
    rw [← Nat.mod_mod_of_dvd w.toNat (by decide : 2 ^ 7 ∣ 256), ← Nat.mod_mod_of_dvd w'.toNat (by decide : 2 ^ 7 ∣ 256)]
    omega
  have hdiff' : (crc16_byte 0 (x ^^^ x')).toNat = w.toNat ^^^ w'.toNat := by rw [← hdiff, UInt16.toNat_xor]
  refine UInt8.xor_eq_zero_iff.mp (crc16_byte_half ?_ ?_ ?_)
  · have hzero : (x.toNat ^^^ x'.toNat) / 2 ^ 4 = 0 := by rw [Nat.xor_div_two_pow, hhalf, Nat.xor_self]
    rw [UInt8.toNat_xor]
    omega
  · change _ % 2 ^ 7 = 0
    rw [hdiff', Nat.xor_mod_two_pow, hlow, Nat.xor_self]
  · change _ / 2 ^ 8 = 0
    rw [hdiff', Nat.xor_div_two_pow, hhigh, Nat.xor_self]

/-- **Sealed payloads** whose texts differ in one character at most are the same. -/
theorem eq_of_neighbours (hpayload : payload.length = 33) (hpayload' : payload'.length = 33)
    (h : base32_encode (sealed_bytes payload) = p ++ c :: q)
    (h' : base32_encode (sealed_bytes payload') = p ++ c' :: q) :
    payload = payload' := by
  have hlength : (sealed_bytes payload).length = 35 := by rw [length_sealed_bytes, hpayload]
  have hlength' : (sealed_bytes payload').length = 35 := by rw [length_sealed_bytes, hpayload']
  have hn : 5 * 56 = 8 * (sealed_bytes payload).length := by rw [hlength]
  have hn' : 5 * 56 = 8 * (sealed_bytes payload').length := by rw [hlength']
  have hq : q.length + 1 ≤ 56 := by
    rw [← length_base32_encode hn, h, List.length_append, List.length_cons]
    exact Nat.le_add_left _ _
  obtain ⟨htake, hdrop⟩ := bytes_around hn (hlength.trans hlength'.symm) h h'
  rw [hlength] at htake hdrop
  have htaken : ∀ k ≤ 33, (sealed_bytes payload).take k = (sealed_bytes payload').take k →
      payload.take k = payload'.take k := by
    intro k hk heq
    rwa [sealed_bytes, sealed_bytes, List.take_append_of_le_length (by rwa [hpayload]),
      List.take_append_of_le_length (by rwa [hpayload'])] at heq
  -- the number of bytes from the first one that the character is in
  obtain ⟨j, hj⟩ : ∃ j, j = (5 * (q.length + 1) + 7) / 8 := ⟨_, rfl⟩
  have hfirst := htake j (by omega) (by omega)
  rcases Nat.lt_trichotomy j 3 with hlt | rfl | hgt
  · have hwhole := htake 2 (by omega) (by omega)
    have heq := htaken 33 le_rfl hwhole
    rwa [List.take_of_length_le hpayload.le, List.take_of_length_le hpayload'.le] at heq
  · have hthree : q.length = 3 := by omega
    obtain ⟨hdiv, hmod⟩ := value_around hn h
    obtain ⟨hdiv', hmod'⟩ := value_around hn' h'
    rw [← hdiv', hthree] at hdiv
    rw [← hmod', hthree] at hmod
    have heq := htaken 32 (by decide) hfirst
    have hcut : ∀ payload : Buffer, payload.length = 33 → ∃ x, payload = payload.take 32 ++ [x] := by
      intro payload hpayload
      have hlast : payload.drop 32 = [payload[32]] := by
        rw [List.drop_eq_getElem_cons (hpayload.symm ▸ by decide), List.drop_eq_nil_of_le (i := 32 + 1) hpayload.le]
      exact ⟨payload[32], hlast ▸ (List.take_append_drop 32 payload).symm⟩
    obtain ⟨x, hx⟩ := hcut payload hpayload
    obtain ⟨x', hx'⟩ := hcut payload' hpayload'
    rw [← heq] at hx'
    rw [hx, hx'] at hdiv hmod ⊢
    rw [eq_of_border hdiv hmod]
  · have hrest := hdrop (j - 2) (by omega) (by omega)
    have hsub : 35 - (j - 2) = 35 - j + 2 := by omega
    rw [hsub] at hrest
    obtain ⟨hrest', hcrc⟩ := crc16_eq_of_drop (hpayload.trans hpayload'.symm) (by omega) hrest
    exact eq_of_crc16_eq (hpayload.trans hpayload'.symm) (by omega) (htaken _ (by omega) hfirst) hrest' hcrc

end Neighbours

/-- **The check of strkeys** accepts the encodings of account keys only, each of one key, and no two texts that
differ in one character. -/
theorem is_valid_account_strkey_exact :
    (∀ s, is_valid_account_strkey s = true ↔ ∃ key : Buffer, key.length = 32 ∧ s = account_strkey key) ∧
      (∀ key key' : Buffer, key.length = 32 → key'.length = 32 → account_strkey key = account_strkey key' →
        key = key') ∧
      ∀ p q c c', is_valid_account_strkey (p ++ c :: q) = true → is_valid_account_strkey (p ++ c' :: q) = true →
        c = c' := by
  refine ⟨is_valid_account_strkey_iff, fun key key' hkey hkey' h => ?_, fun p q c c' h h' => ?_⟩
  · have hdecoded : ∀ key : Buffer, key.length = 32 → base32_decode (account_strkey key) STRKEY_DECODED_LEN =
        some (sealed_bytes (STRKEY_VERSION_ACCOUNT_ID :: key)) := by
      intro key hkey
      have hlength := length_account hkey
      rw [account_strkey, ← hlength]
      exact base32_decode_encode (n := STRKEY_ENCODED_LEN) (by rw [hlength]; rfl)
    have heq := Option.some.inj ((hdecoded key hkey).symm.trans (h ▸ hdecoded key' hkey'))
    rw [sealed_bytes, sealed_bytes] at heq
    have hpayload := (List.append_inj heq (by rw [List.length_cons, List.length_cons, hkey, hkey'])).1
    exact (List.cons.inj hpayload).2
  · obtain ⟨key, hkey, hs⟩ := (is_valid_account_strkey_iff _).mp h
    obtain ⟨key', hkey', hs'⟩ := (is_valid_account_strkey_iff _).mp h'
    have hpayload : ∀ key : Buffer, key.length = 32 → (STRKEY_VERSION_ACCOUNT_ID :: key).length = 33 := by
      intro key hkey
      rw [List.length_cons, hkey]
    have heq := eq_of_neighbours (hpayload key hkey) (hpayload key' hkey') hs.symm hs'.symm
    rw [account_strkey, heq] at hs
    have hsame := hs.trans hs'.symm
    exact (List.cons.inj (List.append_cancel_left hsame)).1

end BridgeWatch.AssetRegistry

/-
Strings and numbers in JSON texts can be read back.

Between its quotes a string is written code point by code point, and what is written for one is never the beginning of
what is written for another. A number is its digits with a point or an exponent, from which the digits and the place of
the point can be told. A string ends with its quote; a number ends where a text goes on with what no numeral holds.
-/
import Mathlib.Data.List.DropRight
import BridgeWatch.JsonText

set_option autoImplicit false

namespace BridgeWatch

/-! ## Numerals -/

section Numerals

/-- The digits of a shortest decimal: they neither begin nor end with a zero. -/
structure Shortest (digits : List Char) : Prop where
  digit : ∀ c ∈ digits, c.isDigit = true
  nonempty : digits ≠ []
  head : digits.head? ≠ some '0'
  last : digits.getLast? ≠ some '0'

theorem head_toDigits {n : ℕ} (h : 0 < n) : (Nat.toDigits 10 n).head? ≠ some '0' := by
  induction n using Nat.strongRecOn with
  | ind n ih =>
      rcases Nat.lt_or_ge n 10 with hlt | hge
      · rw [Nat.toDigits_of_lt_base hlt, List.head?_cons, ne_eq, Option.some.injEq, Nat.digitChar_eq_zero]
        omega
      · rw [Nat.toDigits_of_base_le (by decide) hge, List.head?_append_of_ne_nil _ Nat.toDigits_ne_nil]
        exact ih _ (by omega) (by omega)

theorem last_toDigits {n : ℕ} (h : n % 10 ≠ 0) : (Nat.toDigits 10 n).getLast? ≠ some '0' := by
  rcases Nat.lt_or_ge n 10 with hlt | hge
  · rw [Nat.toDigits_of_lt_base hlt, List.getLast?_singleton, ne_eq, Option.some.injEq, Nat.digitChar_eq_zero]
    omega
  · rw [Nat.toDigits_of_base_le (by decide) hge, List.getLast?_concat, ne_eq, Option.some.injEq, Nat.digitChar_eq_zero]
    exact h

theorem shortest_toDigits {n : ℕ} (h : n % 10 ≠ 0) : Shortest (Nat.toDigits 10 n) where
  digit _ hc := Nat.isDigit_of_mem_toDigits (by decide) (by decide) hc
  nonempty := Nat.toDigits_ne_nil
  head := head_toDigits (by omega)
  last := last_toDigits h

theorem toDigits_injective : Function.Injective (Nat.toDigits 10) := by
  intro m n h
  rw [← Nat.ofDigitChars_ten_toDigits (n := m), h, Nat.ofDigitChars_ten_toDigits]

/-- The text up to a mark, and what comes after the mark. -/
def splitAtChar (mark : Char) (text : List Char) : List Char × List Char :=
  (text.takeWhile (· ≠ mark), (text.dropWhile (· ≠ mark)).drop 1)

theorem splitAtChar_append {mark : Char} {before after : List Char} (h : ∀ c ∈ before, c ≠ mark) :
    splitAtChar mark (before ++ mark :: after) = (before, after) := by
  have htake : (before ++ mark :: after).takeWhile (· ≠ mark) = before := by
    rw [List.takeWhile_append_of_pos (by simpa using h)]
    simp
  have hdrop : (before ++ mark :: after).dropWhile (· ≠ mark) = mark :: after := by
    rw [List.dropWhile_append_of_pos (by simpa using h)]
    simp
  rw [splitAtChar, htake, hdrop, List.drop_one, List.tail_cons]

/-- An exponent with its sign. -/
def readExponent (text : List Char) : ℤ :=
  if text.head? = some '-' then -(Nat.ofDigitChars 10 (text.drop 1) 0 : ℕ) else Nat.ofDigitChars 10 (text.drop 1) 0

/-- The digits of a numeral and the place of its point. -/
def readDecimal (text : List Char) : List Char × ℤ :=
  if 'e' ∈ text then
    let parts := splitAtChar 'e' text
    (parts.1.filter (· ≠ '.'), readExponent parts.2 + 1)
  else if '.' ∈ text then
    let parts := splitAtChar '.' text
    if parts.1 = ['0'] then (parts.2.dropWhile (· = '0'), -(parts.2.takeWhile (· = '0')).length)
    else (parts.1 ++ parts.2, parts.1.length)
  else (text.rdropWhile (· = '0'), text.length)

variable {digits : List Char} {point : ℤ}

theorem Shortest.ne (h : Shortest digits) {mark : Char} (hmark : mark.isDigit = false) : ∀ c ∈ digits, c ≠ mark := by
  rintro c hc rfl
  rw [h.digit c hc] at hmark
  cases hmark

theorem not_mem_zeros {mark : Char} (hmark : mark.isDigit = false) (n : ℕ) : mark ∉ List.replicate n '0' := by
  intro hmem
  rw [List.eq_of_mem_replicate hmem] at hmark
  cases hmark

theorem readExponent_signed (e : ℤ) :
    readExponent ((if e < 0 then '-' else '+') :: Nat.toDigits 10 e.natAbs) = e := by
  unfold readExponent
  by_cases h : e < 0
  · simp only [h, if_true, List.head?_cons, List.drop_one, List.tail_cons, Nat.ofDigitChars_ten_toDigits]
    omega
  · have hsign : ¬some '+' = some '-' := by decide
    simp only [h, if_false, List.head?_cons, hsign, List.drop_one, List.tail_cons, Nat.ofDigitChars_ten_toDigits]
    omega

theorem readDecimal_integer (h : Shortest digits) (n : ℕ) :
    readDecimal (digits ++ List.replicate n '0') = (digits, ((digits.length + n : ℕ) : ℤ)) := by
  have hplain {mark : Char} (hmark : mark.isDigit = false) : mark ∉ digits ++ List.replicate n '0' := by
    rw [List.mem_append]
    rintro (hmem | hmem)
    · exact h.ne hmark mark hmem rfl
    · exact not_mem_zeros hmark n hmem
  have hlast : digits.rdropWhile (· = '0') = digits := by
    rw [List.rdropWhile_eq_self_iff]
    intro hne
    have hlast := h.last
    rw [List.getLast?_eq_some_getLast hne, ne_eq, Option.some.injEq] at hlast
    simpa using hlast
  have hzeros (n : ℕ) : (digits ++ List.replicate n '0').rdropWhile (· = '0') = digits := by
    induction n with
    | zero => rw [List.replicate_zero, List.append_nil, hlast]
    | succ _ ih => rw [List.replicate_succ', ← List.append_assoc, List.rdropWhile_concat_pos _ _ _ rfl, ih]
  rw [readDecimal, if_neg (hplain rfl), if_neg (hplain rfl), hzeros, List.length_append, List.length_replicate]

theorem readDecimal_fraction (h : Shortest digits) {k : ℕ} (hk : 0 < k) :
    readDecimal (digits.take k ++ '.' :: digits.drop k) = (digits, ((min k digits.length : ℕ) : ℤ)) := by
  have hbefore : ∀ c ∈ digits.take k, c ≠ '.' := fun c hc => h.ne rfl c (List.mem_of_mem_take hc)
  have hexponent : 'e' ∉ digits.take k ++ '.' :: digits.drop k := by
    simp only [List.mem_append, List.mem_cons, not_or]
    exact ⟨fun hmem => h.ne rfl _ (List.mem_of_mem_take hmem) rfl, by decide,
      fun hmem => h.ne rfl _ (List.mem_of_mem_drop hmem) rfl⟩
  have hwhole : digits.take k ≠ ['0'] := by
    intro heq
    apply h.head
    have hhead : (digits.take k).head? = digits.head? := by rw [List.head?_take, if_neg (by omega)]
    rw [← hhead, heq, List.head?_cons]
  rw [readDecimal, if_neg hexponent, if_pos (by simp), splitAtChar_append hbefore]
  simp only [hwhole, if_false, List.take_append_drop, List.length_take]

theorem readDecimal_small (h : Shortest digits) (n : ℕ) :
    readDecimal ('0' :: '.' :: (List.replicate n '0' ++ digits)) = (digits, -(n : ℤ)) := by
  have hexponent : 'e' ∉ '0' :: '.' :: (List.replicate n '0' ++ digits) := by
    simp only [List.mem_cons, List.mem_append, not_or]
    exact ⟨by decide, by decide, not_mem_zeros rfl n, fun hmem => h.ne rfl _ hmem rfl⟩
  have hpoint : ∀ c ∈ ['0'], c ≠ '.' := by simp
  have hsplit : splitAtChar '.' ('0' :: '.' :: (List.replicate n '0' ++ digits)) =
      (['0'], List.replicate n '0' ++ digits) := splitAtChar_append hpoint
  have hzeros : (List.replicate n '0' ++ digits).takeWhile (· = '0') = List.replicate n '0' ∧
      (List.replicate n '0' ++ digits).dropWhile (· = '0') = digits := by
    have hall : ∀ c ∈ List.replicate n '0', decide (c = '0') = true := fun c hc =>
      decide_eq_true (List.eq_of_mem_replicate hc)
    have hhead := h.head
    rw [List.takeWhile_append_of_pos hall, List.dropWhile_append_of_pos hall]
    cases hdigits : digits with
    | nil => exact absurd hdigits h.nonempty
    | cons =>
        rw [hdigits, List.head?_cons, ne_eq, Option.some.injEq] at hhead
        simp [hhead]
  rw [readDecimal, if_neg hexponent, if_pos (by simp), hsplit]
  simp only [if_true, hzeros.1, hzeros.2, List.length_replicate]

theorem readDecimal_scientific (h : Shortest digits) (e : ℤ) :
    readDecimal (digits.take 1 ++ (if digits.length = 1 then [] else '.' :: digits.drop 1) ++
      'e' :: (if e < 0 then '-' else '+') :: Nat.toDigits 10 e.natAbs) = (digits, e + 1) := by
  have hbefore : ∀ c ∈ digits.take 1 ++ (if digits.length = 1 then [] else '.' :: digits.drop 1), c ≠ 'e' := by
    intro c hc
    rcases List.mem_append.mp hc with hc | hc
    · exact h.ne rfl c (List.mem_of_mem_take hc)
    · split at hc
      · cases hc
      · rcases List.mem_cons.mp hc with rfl | hc
        · decide
        · exact h.ne rfl c (List.mem_of_mem_drop hc)
  have hfilter : (digits.take 1 ++ (if digits.length = 1 then [] else '.' :: digits.drop 1)).filter (· ≠ '.') =
      digits := by
    have hdigit : ∀ c ∈ digits, decide (c ≠ '.') = true := fun c hc => decide_eq_true (h.ne rfl c hc)
    rw [List.filter_append, List.filter_eq_self.mpr fun c hc => hdigit c (List.mem_of_mem_take hc)]
    split
    · next hlength => rw [List.filter_nil, List.append_nil, List.take_of_length_le hlength.le]
    · rw [List.filter_cons_of_neg (by simp), List.filter_eq_self.mpr fun c hc => hdigit c (List.mem_of_mem_drop hc),
        List.take_append_drop]
  rw [readDecimal, if_pos (by simp), splitAtChar_append hbefore]
  simp only [hfilter, readExponent_signed]

/-- **The digits and the place of the point can be told from a numeral.** -/
theorem readDecimal_decimalText (h : Shortest digits) : readDecimal (decimalText digits point) = (digits, point) := by
  rw [decimalText]
  split
  · next hint =>
      rw [readDecimal_integer h]
      congr 1
      omega
  · split
    · next hfraction =>
        rw [readDecimal_fraction h (by omega)]
        congr 1
        omega
    · split
      · next hsmall =>
          rw [readDecimal_small h]
          congr 1
          omega
      · have hsign : (if point < 1 then '-' else '+') = if point - 1 < 0 then '-' else '+' := by
          simp only [sub_neg]
        rw [hsign, readDecimal_scientific h, sub_add_cancel]

theorem utf16_injective : Function.Injective utf16 := by
  intro cs ds h
  have hpoints := congrArg codePoints h
  rw [codePoints_utf16, codePoints_utf16] at hpoints
  exact List.map_injective_iff.mpr (fun _ _ => CodePoint.scalar.inj) hpoints

theorem decimalText_head (point : ℤ) (h : Shortest digits) :
    ∃ c rest, decimalText digits point = c :: rest ∧ c.isDigit = true := by
  obtain ⟨c, rest, rfl⟩ := List.exists_cons_of_ne_nil h.nonempty
  have hc := h.digit c List.mem_cons_self
  rw [decimalText]
  split
  · exact ⟨c, _, rfl, hc⟩
  · split
    · next hfraction =>
        obtain ⟨k, hk⟩ : ∃ k, point.toNat = k + 1 := ⟨point.toNat - 1, by omega⟩
        rw [hk]
        exact ⟨c, _, rfl, hc⟩
    · split
      · exact ⟨'0', _, rfl, rfl⟩
      · exact ⟨c, _, rfl, hc⟩

/-- **Different numbers have different numerals.** -/
theorem stringifyNumber_injective : Function.Injective stringifyNumber := by
  intro x y h
  obtain ⟨negative, digits, point, shortest⟩ := x
  obtain ⟨negative', digits', point', shortest'⟩ := y
  have htext := utf16_injective h
  dsimp only at htext
  obtain ⟨c, rest, hhead, hc⟩ := decimalText_head point (shortest_toDigits shortest)
  obtain ⟨c', rest', hhead', hc'⟩ := decimalText_head point' (shortest_toDigits shortest')
  -- A digit is no sign.
  have hsign : negative = negative' := by
    rw [hhead, hhead'] at htext
    cases negative <;> cases negative'
    · rfl
    · rw [(List.cons.inj htext).1] at hc
      cases hc
    · rw [← (List.cons.inj htext).1] at hc'
      cases hc'
    · rfl
  subst hsign
  have hdecimal := congrArg readDecimal (List.append_cancel_left htext)
  rw [readDecimal_decimalText (shortest_toDigits shortest), readDecimal_decimalText (shortest_toDigits shortest'),
    Prod.mk.injEq] at hdecimal
  obtain ⟨hdigits, rfl⟩ := hdecimal
  obtain rfl := toDigits_injective hdigits
  rfl

theorem stringifyNumber_ne_nil (x : Decimal) : stringifyNumber x ≠ [] := by
  obtain ⟨c, rest, hhead, -⟩ := decimalText_head x.point (shortest_toDigits x.shortest)
  have hempty : stringifyNumber x ≠ utf16 [] := by
    intro h
    have htext := utf16_injective h
    rw [hhead] at htext
    simp at htext
  exact hempty

/-- The numeral of a number other than 0 is not `0`. -/
theorem stringifyNumber_ne_zero (x : Decimal) : stringifyNumber x ≠ js "0" := by
  intro h
  have hshortest := shortest_toDigits x.shortest
  have htext : (if x.negative then ['-'] else []) ++ decimalText (Nat.toDigits 10 x.digits) x.point = ['0'] :=
    utf16_injective h
  cases hsign : x.negative with
  | true =>
      rw [hsign] at htext
      cases htext
  | false =>
      rw [hsign] at htext
      have hread := congrArg readDecimal htext
      have hzero : readDecimal ['0'] = ([], 1) := by decide
      rw [if_neg Bool.false_ne_true, List.nil_append, readDecimal_decimalText hshortest, hzero, Prod.mk.injEq] at hread
      exact hshortest.nonempty hread.1

/-- A unit of a numeral. -/
def numericUnit (u : UInt16) : Bool :=
  (48 ≤ u.toNat && u.toNat ≤ 57) || u == 0x2D || u == 0x2B || u == 0x2E || u == 0x65

theorem numericUnit_of_numeric {c : Char} (h : numeric c = true) : ∀ u ∈ utf16Char c, numericUnit u = true := by
  rw [numeric] at h
  simp only [Bool.or_eq_true, decide_eq_true_eq, or_assoc] at h
  rcases h with hdigit | rfl | rfl | rfl | rfl
  · rw [Char.isDigit, Bool.and_eq_true, decide_eq_true_eq, decide_eq_true_eq] at hdigit
    have hfrom : 48 ≤ c.toNat := UInt32.le_iff_toNat_le.mp hdigit.1
    have hto : c.toNat ≤ 57 := UInt32.le_iff_toNat_le.mp hdigit.2
    rw [utf16Char, if_pos (by omega)]
    intro u hu
    rw [List.mem_singleton.mp hu, numericUnit, toNat_toUInt16 (by omega)]
    simp [hfrom, hto]
  all_goals exact List.all_eq_true.mp (by decide)

theorem numericUnit_stringifyNumber (x : Decimal) : ∀ u ∈ stringifyNumber x, numericUnit u = true := by
  intro u hu
  rw [stringifyNumber, utf16, List.mem_flatMap] at hu
  obtain ⟨c, hc, hu⟩ := hu
  refine numericUnit_of_numeric ?_ u hu
  rcases List.mem_append.mp hc with hc | hc
  · split at hc
    · rw [List.mem_singleton.mp hc]
      rfl
    · cases hc
  · exact numeric_decimalText (fun c hc => numeric_of_mem_toDigits hc) c hc

/-- A text goes on with a comma or a bracket that closes, or it ends. -/
def Follows (x : JsString) : Prop := ∀ u, x.head? = some u → u = 0x2C ∨ u = 0x5D ∨ u = 0x7D

theorem Follows.takeWhile_append {s x : JsString} (hs : ∀ u ∈ s, numericUnit u = true) (hx : Follows x) :
    (s ++ x).takeWhile numericUnit = s := by
  rw [List.takeWhile_append_of_pos hs]
  cases x with
  | nil => simp
  | cons u =>
      have hu : numericUnit u = false := by
        rcases hx u rfl with rfl | rfl | rfl <;> rfl
      rw [List.takeWhile_cons, hu]
      simp

/-- **A numeral ends** where the text goes on with something else. -/
theorem numerals_end {s t x y : JsString} (hs : ∀ u ∈ s, numericUnit u = true) (ht : ∀ u ∈ t, numericUnit u = true)
    (hx : Follows x) (hy : Follows y) (h : s ++ x = t ++ y) : s = t ∧ x = y := by
  have hst : s = t := by rw [← hx.takeWhile_append hs, h, hy.takeWhile_append ht]
  exact ⟨hst, List.append_cancel_left (hst ▸ h)⟩

end Numerals

/-! ## Strings -/

section Strings

/-- The units of a code point. -/
def CodePoint.units : CodePoint → JsString
  | .scalar c => utf16Char c
  | .loneSurrogate u => [u]

/-- A lone surrogate is a surrogate. -/
def CodePoint.Valid : CodePoint → Prop
  | .scalar _ => True
  | .loneSurrogate u => (isHighSurrogate u || isLowSurrogate u) = true

theorem toNat_ofNat_of_valid {n : ℕ} (h : n < 0xD800 ∨ 0xDFFF < n ∧ n < 0x110000) : (Char.ofNat n).toNat = n := by
  have hvalid : n.isValidChar := h
  rw [Char.ofNat, dif_pos hvalid]
  rfl

theorem units_unitPoint (u : UInt16) : (unitPoint u).units = [u] ∧ (unitPoint u).Valid := by
  unfold unitPoint
  split
  · next hsurrogate => exact ⟨rfl, hsurrogate⟩
  · next hsurrogate =>
      refine ⟨?_, trivial⟩
      have hu := u.toNat_lt
      rw [Bool.or_eq_true, isHighSurrogate_iff, isLowSurrogate_iff] at hsurrogate
      have hchar : (Char.ofNat u.toNat).toNat = u.toNat := toNat_ofNat_of_valid (by omega)
      rw [CodePoint.units, utf16Char, hchar, if_pos hu]
      simp

theorem units_surrogatePair {u v : UInt16} (hu : isHighSurrogate u = true) (hv : isLowSurrogate v = true) :
    utf16Char (surrogatePair u v) = [u, v] := by
  rw [isHighSurrogate_iff] at hu
  rw [isLowSurrogate_iff] at hv
  have hchar : (surrogatePair u v).toNat = 0x10000 + (u.toNat - 0xD800) * 0x400 + (v.toNat - 0xDC00) :=
    toNat_ofNat_of_valid (by omega)
  have hhigh : (0xD800 + ((surrogatePair u v).toNat - 0x10000) / 0x400).toUInt16 = u := by
    rw [← UInt16.toNat_inj, toNat_toUInt16 (by omega)]
    omega
  have hlow : (0xDC00 + ((surrogatePair u v).toNat - 0x10000) % 0x400).toUInt16 = v := by
    rw [← UInt16.toNat_inj, toNat_toUInt16 (by omega)]
    omega
  rw [utf16Char, if_neg (by omega), hhigh, hlow]

theorem units_codePoints (s : JsString) : (codePoints s).flatMap CodePoint.units = s ∧ ∀ p ∈ codePoints s, p.Valid := by
  fun_induction codePoints s with
  | case1 => exact ⟨rfl, nofun⟩
  | case2 u => simpa using units_unitPoint u
  | case3 u v s hpair ih =>
      rw [Bool.and_eq_true] at hpair
      rw [List.flatMap_cons, ih.1, CodePoint.units, units_surrogatePair hpair.1 hpair.2, List.forall_mem_cons]
      exact ⟨rfl, trivial, ih.2⟩
  | case4 u v s hpair ih =>
      rw [List.flatMap_cons, ih.1, (units_unitPoint u).1, List.forall_mem_cons]
      exact ⟨rfl, (units_unitPoint u).2, ih.2⟩

theorem codePoints_injective : Function.Injective codePoints := by
  intro s t h
  rw [← (units_codePoints s).1, h, (units_codePoints t).1]

/-- The number that a hexadecimal digit stands for. -/
def hexUnit (u : UInt16) : ℕ := if u.toNat ≤ 57 then u.toNat - 48 else u.toNat - 87

/-- What stands behind a backslash, and what comes after it. -/
def readEscape : JsString → Option (CodePoint × JsString)
  | 0x75 :: a :: b :: c :: d :: rest =>
      some (unitPoint (((hexUnit a * 16 + hexUnit b) * 16 + hexUnit c) * 16 + hexUnit d).toUInt16, rest)
  | 0x62 :: rest => some (.scalar (Char.ofNat 0x08), rest)
  | 0x74 :: rest => some (.scalar (Char.ofNat 0x09), rest)
  | 0x6E :: rest => some (.scalar (Char.ofNat 0x0A), rest)
  | 0x66 :: rest => some (.scalar (Char.ofNat 0x0C), rest)
  | 0x72 :: rest => some (.scalar (Char.ofNat 0x0D), rest)
  | 0x22 :: rest => some (.scalar (Char.ofNat 0x22), rest)
  | 0x5C :: rest => some (.scalar (Char.ofNat 0x5C), rest)
  | _ => none

/-- The code point that a text between quotes begins with, and what comes after it; none at a quote. -/
def readPoint (text : JsString) : Option (CodePoint × JsString) :=
  if text.head? = some 0x5C then readEscape (text.drop 1)
  else if text.head? = some 0x22 then none
  else match codePoints text with
    | .scalar c :: _ => some (.scalar c, text.drop (utf16Char c).length)
    | _ => none

theorem readEscape_unicodeEscape (u : UInt16) (x : JsString) :
    readPoint (unicodeEscape u ++ x) = some (unitPoint u, x) := by
  have hdigit : ∀ n < 16, ∃ v, utf16Char (Nat.digitChar n) = [v] ∧ hexUnit v = n := by
    have hall : ∀ n < 16, (utf16Char (Nat.digitChar n)).map hexUnit = [n] := by decide
    exact fun n hn => List.map_eq_singleton_iff.mp (hall n hn)
  have hu := u.toNat_lt
  obtain ⟨a, ha, hhexa⟩ := hdigit (u.toNat / 0x1000) (by omega)
  obtain ⟨b, hb, hhexb⟩ := hdigit (u.toNat / 0x100 % 16) (by omega)
  obtain ⟨c, hc, hhexc⟩ := hdigit (u.toNat / 0x10 % 16) (by omega)
  obtain ⟨d, hd, hhexd⟩ := hdigit (u.toNat % 16) (by omega)
  have htext : unicodeEscape u = [0x5C, 0x75, a, b, c, d] := by
    simp only [unicodeEscape, utf16, List.map_cons, List.map_nil, List.flatMap_cons, List.flatMap_nil, ha, hb, hc, hd]
    rfl
  have hvalue : ((hexUnit a * 16 + hexUnit b) * 16 + hexUnit c) * 16 + hexUnit d = u.toNat := by omega
  rw [htext, readPoint, List.cons_append, List.head?_cons, if_pos rfl, List.drop_one, List.tail_cons]
  simp only [List.cons_append, List.nil_append, readEscape, hvalue]
  simp

theorem head_utf16Char_ne {c : Char} (h : c.toNat ≠ 0x5C ∧ c.toNat ≠ 0x22) {x : JsString} :
    (utf16Char c ++ x).head? ≠ some 0x5C ∧ (utf16Char c ++ x).head? ≠ some 0x22 := by
  have hvalid : c.toNat < 0xD800 ∨ 0xDFFF < c.toNat ∧ c.toNat < 0x110000 := c.valid
  obtain ⟨u, rest, hu, hvalue⟩ : ∃ u rest, utf16Char c = u :: rest ∧ (u.toNat = c.toNat ∨ 0xD800 ≤ u.toNat) := by
    rw [utf16Char]
    split
    · exact ⟨_, [], rfl, .inl (toNat_toUInt16 (by omega))⟩
    · refine ⟨_, [_], rfl, .inr ?_⟩
      rw [toNat_toUInt16 (by omega)]
      omega
  rw [hu, List.cons_append, List.head?_cons, ne_eq, Option.some.injEq, ne_eq, Option.some.injEq]
  constructor <;>
  · rintro rfl
    simp at hvalue
    omega

/-- **A code point can be read off** the text of a string. -/
theorem readPoint_quotePoint {p : CodePoint} (hp : p.Valid) (x : JsString) :
    readPoint (quotePoint p ++ x) = some (p, x) := by
  cases p with
  | loneSurrogate u =>
      have hpoint : unitPoint u = .loneSurrogate u := if_pos hp
      rw [quotePoint, readEscape_unicodeEscape, hpoint]
  | scalar c =>
      rw [quotePoint]
      cases hescape : shortEscape c.toNat with
      | some =>
          have hc {n : ℕ} (hn : c.toNat = n) : c = Char.ofNat n := by rw [← hn, Char.ofNat_toNat]
          rw [shortEscape.eq_def] at hescape
          split at hescape <;> cases hescape <;> next hn => rw [hc hn]; rfl
      | none =>
          dsimp only
          split
          · next hcontrol => rw [readEscape_unicodeEscape, (unitPoint_toUInt16 (by omega)).2]
          · have hplain : c.toNat ≠ 0x5C ∧ c.toNat ≠ 0x22 := by
              constructor <;>
              · intro hn
                rw [hn] at hescape
                cases hescape
            have hhead := head_utf16Char_ne (x := x) hplain
            rw [readPoint, if_neg hhead.1, if_neg hhead.2, codePoints_utf16Char_append]
            simp

/-- What is written for a string ends with its first quote. -/
theorem quoted_inj {ps qs : List CodePoint} (hp : ∀ p ∈ ps, p.Valid) (hq : ∀ q ∈ qs, q.Valid) {x y : JsString}
    (h : ps.flatMap quotePoint ++ 0x22 :: x = qs.flatMap quotePoint ++ 0x22 :: y) : ps = qs ∧ x = y := by
  have hquote (z : JsString) : readPoint (0x22 :: z) = none := rfl
  induction ps generalizing qs with
  | nil =>
      cases qs with
      | nil => exact ⟨rfl, (List.cons.inj h).2⟩
      | cons q =>
          have hread := congrArg readPoint h
          rw [List.flatMap_nil, List.nil_append, hquote, List.flatMap_cons, List.append_assoc,
            readPoint_quotePoint (hq q List.mem_cons_self)] at hread
          cases hread
  | cons _ _ ih =>
      obtain ⟨hp, hps⟩ := List.forall_mem_cons.mp hp
      cases qs with
      | nil =>
          have hread := congrArg readPoint h
          rw [List.flatMap_nil, List.nil_append, hquote, List.flatMap_cons, List.append_assoc,
            readPoint_quotePoint hp] at hread
          cases hread
      | cons =>
          obtain ⟨hq, hqs⟩ := List.forall_mem_cons.mp hq
          have hread := congrArg readPoint h
          rw [List.flatMap_cons, List.append_assoc, List.flatMap_cons, List.append_assoc, readPoint_quotePoint hp,
            readPoint_quotePoint hq, Option.some.injEq, Prod.mk.injEq] at hread
          obtain ⟨rfl, hrest⟩ := ih hps hqs hread.2
          exact ⟨by rw [hread.1], hrest⟩

/-- **A string can be read off where its text begins.** -/
theorem strings_end {s t x y : JsString} (h : stringifyString s ++ x = stringifyString t ++ y) : s = t ∧ x = y := by
  have hquote : js "\"" = [0x22] := rfl
  simp only [stringifyString, hquote, List.append_assoc, List.singleton_append, List.cons_append, List.cons.injEq,
    true_and] at h
  obtain ⟨hpoints, hrest⟩ := quoted_inj (units_codePoints s).2 (units_codePoints t).2 h
  exact ⟨codePoints_injective hpoints, hrest⟩

end Strings

end BridgeWatch

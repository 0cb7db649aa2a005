/-
UTF-8 text of JavaScript strings: `Buffer.from(s, "utf8")`.

A JavaScript string is any sequence of 16-bit units. A surrogate that is not half
of a pair stands for no character, and Node writes U+FFFD in its place, so that
two strings may have the same bytes. Among the strings that are the UTF-16 of
some characters (`WellFormed`) no two have (`utf8_injOn`).
-/
import BridgeWatch.Bytes

set_option autoImplicit false

namespace BridgeWatch

/-! ## Code points -/

/-- What a JavaScript string is read as, unit by unit: characters, and surrogates
without their other half. -/
inductive CodePoint where
  | scalar (c : Char)
  | loneSurrogate (u : UInt16)
  deriving DecidableEq, Repr

def isHighSurrogate (u : UInt16) : Bool := 0xD800 ≤ u.toNat && u.toNat < 0xDC00

def isLowSurrogate (u : UInt16) : Bool := 0xDC00 ≤ u.toNat && u.toNat < 0xE000

/-- The character of a surrogate pair. -/
def surrogatePair (hi lo : UInt16) : Char :=
  Char.ofNat (0x10000 + (hi.toNat - 0xD800) * 0x400 + (lo.toNat - 0xDC00))

/-- The code point of a unit that is not the first half of a pair. -/
def unitPoint (u : UInt16) : CodePoint :=
  if isHighSurrogate u || isLowSurrogate u then .loneSurrogate u else .scalar (Char.ofNat u.toNat)

/-- The code points of a string, in the order in which iterating over it meets them. -/
def codePoints : JsString → List CodePoint
  | [] => []
  | [u] => [unitPoint u]
  | u :: v :: s =>
      if isHighSurrogate u && isLowSurrogate v then .scalar (surrogatePair u v) :: codePoints s
      else unitPoint u :: codePoints (v :: s)

/-! ## Well-formed strings -/

/-- The string is the UTF-16 of some characters: it has no lone surrogate. -/
def WellFormed (s : JsString) : Prop := ∃ cs : List Char, utf16 cs = s

theorem wellFormed_js (s : String) : WellFormed (js s) := ⟨s.toList, rfl⟩

theorem wellFormed_utf16 (cs : List Char) : WellFormed (utf16 cs) := ⟨cs, rfl⟩

theorem wellFormed_utf16Char (c : Char) : WellFormed (utf16Char c) :=
  ⟨[c], by rw [utf16, List.flatMap_singleton]⟩

theorem wellFormed_nil : WellFormed [] := ⟨[], rfl⟩

theorem WellFormed.append {s t : JsString} (hs : WellFormed s) (ht : WellFormed t) :
    WellFormed (s ++ t) := by
  obtain ⟨cs, rfl⟩ := hs
  obtain ⟨ds, rfl⟩ := ht
  exact ⟨cs ++ ds, List.flatMap_append⟩

/-- Well-formed strings may be written one after the other. -/
theorem WellFormed.flatMap {α : Type} {xs : List α} {f : α → JsString}
    (h : ∀ x ∈ xs, WellFormed (f x)) : WellFormed (xs.flatMap f) := by
  induction xs with
  | nil => exact wellFormed_nil
  | cons x _ ih =>
      rw [List.flatMap_cons]
      exact (h x (List.mem_cons_self ..)).append (ih fun y hy => h y (List.mem_cons_of_mem _ hy))

theorem toNat_toUInt16 {n : ℕ} (h : n < 0x10000) : n.toUInt16.toNat = n := by
  rw [Nat.toUInt16, UInt16.toNat_ofNat', Nat.mod_eq_of_lt h]

theorem isHighSurrogate_iff {u : UInt16} :
    isHighSurrogate u = true ↔ 0xD800 ≤ u.toNat ∧ u.toNat < 0xDC00 := by
  rw [isHighSurrogate, Bool.and_eq_true, decide_eq_true_eq, decide_eq_true_eq]

theorem isLowSurrogate_iff {u : UInt16} :
    isLowSurrogate u = true ↔ 0xDC00 ≤ u.toNat ∧ u.toNat < 0xE000 := by
  rw [isLowSurrogate, Bool.and_eq_true, decide_eq_true_eq, decide_eq_true_eq]

/-- A character of the basic plane is read back from its one unit. -/
theorem unitPoint_toUInt16 {c : Char} (h : c.toNat < 0x10000) :
    isHighSurrogate c.toNat.toUInt16 = false ∧ unitPoint c.toNat.toUInt16 = .scalar c := by
  have hu := toNat_toUInt16 h
  have hvalid : c.toNat < 0xD800 ∨ 0xDFFF < c.toNat ∧ c.toNat < 0x110000 := c.valid
  have hhi : isHighSurrogate c.toNat.toUInt16 = false := by
    rw [Bool.eq_false_iff, ne_eq, isHighSurrogate_iff, hu]
    omega
  have hlo : isLowSurrogate c.toNat.toUInt16 = false := by
    rw [Bool.eq_false_iff, ne_eq, isLowSurrogate_iff, hu]
    omega
  refine ⟨hhi, ?_⟩
  rw [unitPoint, hhi, hlo, hu, Char.ofNat_toNat]
  rfl

/-- A character beyond the basic plane is read back from its surrogate pair. -/
theorem surrogatePair_toUInt16 {c : Char} (h : 0x10000 ≤ c.toNat) :
    isHighSurrogate (0xD800 + (c.toNat - 0x10000) / 0x400).toUInt16 = true ∧
      isLowSurrogate (0xDC00 + (c.toNat - 0x10000) % 0x400).toUInt16 = true ∧
        surrogatePair (0xD800 + (c.toNat - 0x10000) / 0x400).toUInt16
          (0xDC00 + (c.toNat - 0x10000) % 0x400).toUInt16 = c := by
  have hvalid : c.toNat < 0xD800 ∨ 0xDFFF < c.toNat ∧ c.toNat < 0x110000 := c.valid
  have hhi := toNat_toUInt16 (n := 0xD800 + (c.toNat - 0x10000) / 0x400) (by omega)
  have hlo := toNat_toUInt16 (n := 0xDC00 + (c.toNat - 0x10000) % 0x400) (by omega)
  refine ⟨isHighSurrogate_iff.mpr ?_, isLowSurrogate_iff.mpr ?_, ?_⟩
  · rw [hhi]
    omega
  · rw [hlo]
    omega
  · have hsum : 0x10000 + (0xD800 + (c.toNat - 0x10000) / 0x400 - 0xD800) * 0x400 +
        (0xDC00 + (c.toNat - 0x10000) % 0x400 - 0xDC00) = c.toNat := by omega
    rw [surrogatePair, hhi, hlo, hsum, Char.ofNat_toNat]

/-- Reading is local: the first character of a string is read before the rest. -/
theorem codePoints_utf16Char_append (c : Char) (s : JsString) :
    codePoints (utf16Char c ++ s) = .scalar c :: codePoints s := by
  rcases Nat.lt_or_ge c.toNat 0x10000 with h | h
  · obtain ⟨hhi, hpoint⟩ := unitPoint_toUInt16 h
    rw [utf16Char, if_pos h]
    cases s with
    | nil => simp only [List.append_nil, codePoints, hpoint]
    | cons =>
        rw [List.singleton_append, codePoints, hhi, Bool.false_and, if_neg Bool.false_ne_true,
          hpoint]
  · obtain ⟨hhi, hlo, hpair⟩ := surrogatePair_toUInt16 h
    rw [utf16Char, if_neg (by omega)]
    simp only [List.cons_append, List.nil_append]
    rw [codePoints, hhi, hlo, Bool.and_self, if_pos rfl, hpair]

/-- The code points of well-formed text are the characters it was written from. -/
theorem codePoints_utf16 (cs : List Char) : codePoints (utf16 cs) = cs.map .scalar := by
  induction cs with
  | nil => rfl
  | cons _ _ ih =>
      rw [utf16, List.flatMap_cons, ← utf16, codePoints_utf16Char_append, ih, List.map_cons]

/-! ## UTF-8 -/

/-- The UTF-8 bytes of a code point, where U+FFFD stands for a lone surrogate. -/
def CodePoint.utf8 : CodePoint → Buffer
  | .scalar c => String.utf8EncodeChar c
  | .loneSurrogate _ => [0xEF, 0xBF, 0xBD]

/-- `Buffer.from(s, "utf8")`. -/
def utf8 (s : JsString) : Buffer := (codePoints s).flatMap CodePoint.utf8

theorem utf8_utf16 (cs : List Char) : utf8 (utf16 cs) = cs.flatMap String.utf8EncodeChar := by
  rw [utf8, codePoints_utf16, List.flatMap_map]
  rfl

/-- **Well-formed strings are read back from their bytes.** -/
theorem utf8_injOn : Set.InjOn utf8 {s | WellFormed s} := by
  rintro _ ⟨cs, rfl⟩ _ ⟨ds, rfl⟩ h
  rw [utf8_utf16, utf8_utf16] at h
  have hbytes : cs.utf8Encode = ds.utf8Encode := congrArg List.toByteArray h
  have hdecode := congrArg ByteArray.utf8Decode? hbytes
  rw [List.utf8Decode?_utf8Encode, List.utf8Decode?_utf8Encode, Option.some_inj] at hdecode
  rw [List.toArray_inj hdecode]

end BridgeWatch

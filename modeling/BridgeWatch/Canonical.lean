/-
Deterministic JSON text, `backend/src/services/transparencyLog/canonical.ts`.

`JsValue` is what `canonicalize` distinguishes of a JavaScript value: what
`typeof` says of it, the items of an array and the own properties of an object,
of which no two have one key. A number is what `Number::toString` writes of it,
that is its shortest decimal.

The text that comes out is well-formed UTF-16 whatever goes in
(`canonicalize_wellFormed`), because `JSON.stringify` escapes lone surrogates. So
its bytes determine it (`canonicalBytes_inj`).
-/
import Mathlib.Data.List.Sort
import BridgeWatch.Js
import BridgeWatch.Unicode

set_option autoImplicit false

namespace BridgeWatch

/-! ## Values -/

/-- A finite number other than 0 as its shortest decimal `0.digits * 10 ^ point`. -/
structure Decimal where
  negative : Bool
  digits : ℕ
  point : ℤ
  shortest : digits % 10 ≠ 0

inductive JsNumber where
  | nan
  | infinity (negative : Bool)
  | zero (negative : Bool)
  | finite (x : Decimal)

inductive JsValue where
  | undefined
  | null
  | boolean (b : Bool)
  | number (x : JsNumber)
  | bigint (n : ℤ)
  | string (s : JsString)
  | array (items : List JsValue)
  | object (properties : List (JsString × JsValue))
  /-- A function or a symbol, by the word `typeof` has for it. -/
  | other (type : JsString)

/-- `value === undefined`. -/
def JsValue.isUndefined : JsValue → Bool
  | .undefined => true
  | _ => false

/-- A number without its trailing zeros. -/
def trimZeros : (fuel : ℕ) → ℕ → ℕ
  | 0, n => n
  | fuel + 1, n => if n % 10 = 0 then trimZeros fuel (n / 10) else n

theorem trimZeros_mod {fuel n : ℕ} (h : 0 < n) (hf : n ≤ fuel) : trimZeros fuel n % 10 ≠ 0 := by
  induction fuel generalizing n with
  | zero => omega
  | succ _ ih =>
      rw [trimZeros]
      split
      · exact ih (by omega) (by omega)
      · assumption

/-- A natural number as a JavaScript number. -/
def JsNumber.ofNat (n : ℕ) : JsNumber :=
  if h : 0 < n then
    .finite
      { negative := false
        digits := trimZeros n n
        point := (Nat.toDigits 10 n).length
        shortest := trimZeros_mod h le_rfl }
  else .zero false

/-! ## `JSON.stringify` -/

/-- The text of a positive decimal: plain up to 21 digits before the point and 6
zeros after it, with an exponent beyond. -/
def decimalText (digits : List Char) (point : ℤ) : List Char :=
  let k := digits.length
  if k ≤ point ∧ point ≤ 21 then digits ++ List.replicate (point - k).toNat '0'
  else if 0 < point ∧ point ≤ 21 then digits.take point.toNat ++ '.' :: digits.drop point.toNat
  else if -6 < point ∧ point ≤ 0 then
    '0' :: '.' :: (List.replicate (-point).toNat '0' ++ digits)
  else
    digits.take 1 ++ (if k = 1 then [] else '.' :: digits.drop 1) ++
      'e' :: (if point < 1 then '-' else '+') :: Nat.toDigits 10 (point - 1).natAbs

/-- `JSON.stringify` of a finite number other than 0. -/
def stringifyNumber (x : Decimal) : JsString :=
  utf16 ((if x.negative then ['-'] else []) ++ decimalText (Nat.toDigits 10 x.digits) x.point)

/-- The letter after the backslash of a character's short escape. -/
def shortEscape : ℕ → Option Char
  | 0x08 => some 'b'
  | 0x09 => some 't'
  | 0x0A => some 'n'
  | 0x0C => some 'f'
  | 0x0D => some 'r'
  | 0x22 => some (Char.ofNat 0x22)
  | 0x5C => some (Char.ofNat 0x5C)
  | _ => none

/-- `\u` and the four digits of a unit, in lower case. -/
def unicodeEscape (u : UInt16) : JsString :=
  utf16 (Char.ofNat 0x5C :: 'u' ::
    [u.toNat / 0x1000, u.toNat / 0x100 % 16, u.toNat / 0x10 % 16, u.toNat % 16].map Nat.digitChar)

/-- A code point between the quotes of a JSON string. -/
def quotePoint : CodePoint → JsString
  | .loneSurrogate u => unicodeEscape u
  | .scalar c =>
      match shortEscape c.toNat with
      | some letter => utf16 [Char.ofNat 0x5C, letter]
      | none => if c.toNat < 0x20 then unicodeEscape c.toNat.toUInt16 else utf16Char c

/-- `JSON.stringify` of a string. -/
def stringifyString (s : JsString) : JsString :=
  js "\"" ++ (codePoints s).flatMap quotePoint ++ js "\""

/-! ## The source -/

/-- `keys.sort()`: by UTF-16 code units. -/
def sortByKey {α : Type} (properties : List (JsString × α)) : List (JsString × α) :=
  properties.insertionSort fun p q => p.1 ≤ q.1

mutual

def canonicalize : JsValue → Js JsString
  | .undefined => throwNew (js "canonicalize: unsupported value of type undefined")
  | .null => .ok (js "null")
  | .boolean b => .ok (if b then js "true" else js "false")
  | .number (.zero _) => .ok (js "0")
  | .number (.finite x) => .ok (stringifyNumber x)
  | .number _ => throwNew (js "canonicalize: non-finite number is not serializable")
  | .bigint n => .ok (js (toString n))
  | .string s => .ok (stringifyString s)
  | .array items => do
      let items ← canonicalizeItems items
      return js "[" ++ List.intercalate (js ",") items ++ js "]"
  | .object properties => do
      -- The calls are made in the order of the keys, so the first that throws decides.
      let entries ← (sortByKey (canonicalizeProperties properties)).mapM fun p => do
        let value ← p.2
        return stringifyString p.1 ++ js ":" ++ value
      return js "\x7b" ++ List.intercalate (js ",") entries ++ js "\x7d"
  | .other type => throwNew (js "canonicalize: unsupported value of type " ++ type)

/-- `value.map((item) => ...)`. -/
def canonicalizeItems : List JsValue → Js (List JsString)
  | [] => .ok []
  | .undefined :: items => do
      let rest ← canonicalizeItems items
      return js "null" :: rest
  | item :: items => do
      let text ← canonicalize item
      let rest ← canonicalizeItems items
      return text :: rest

/-- The properties whose value is not `undefined`, each with the call on its value. -/
def canonicalizeProperties : List (JsString × JsValue) → List (JsString × Js JsString)
  | [] => []
  | (_, .undefined) :: properties => canonicalizeProperties properties
  | (key, value) :: properties => (key, canonicalize value) :: canonicalizeProperties properties

end

/-- Canonical bytes (UTF-8) of a value. -/
def canonicalBytes (value : JsValue) : Js Buffer := do
  let text ← canonicalize value
  return utf8 text

/-! ## Canonical text is well-formed -/

theorem wellFormed_unicodeEscape (u : UInt16) : WellFormed (unicodeEscape u) := wellFormed_utf16 _

/-- Between the quotes, what is no character is escaped. -/
theorem wellFormed_quotePoint (p : CodePoint) : WellFormed (quotePoint p) := by
  cases p with
  | loneSurrogate u => exact wellFormed_unicodeEscape u
  | scalar c =>
      rw [quotePoint]
      split
      · exact wellFormed_utf16 _
      · split
        · exact wellFormed_unicodeEscape _
        · exact wellFormed_utf16Char c

theorem wellFormed_stringifyString (s : JsString) : WellFormed (stringifyString s) :=
  ((wellFormed_js _).append (.flatMap fun p _ => wellFormed_quotePoint p)).append (wellFormed_js _)

theorem wellFormed_stringifyNumber (x : Decimal) : WellFormed (stringifyNumber x) :=
  wellFormed_utf16 _

theorem WellFormed.intercalate {sep : JsString} (hsep : WellFormed sep) {texts : List JsString}
    (h : ∀ t ∈ texts, WellFormed t) : WellFormed (List.intercalate sep texts) := by
  induction texts with
  | nil => exact wellFormed_nil
  | cons t texts ih =>
      have ht := h t (List.mem_cons_self ..)
      have hrest := ih fun u hu => h u (List.mem_cons_of_mem _ hu)
      cases texts with
      | nil => rwa [List.intercalate_singleton]
      | cons =>
          rw [List.intercalate_cons_cons]
          exact (ht.append hsep).append hrest

theorem canonicalizeItems_cons {item : JsValue} (hu : item ≠ .undefined) (items : List JsValue) :
    canonicalizeItems (item :: items) = do
      let text ← canonicalize item
      let rest ← canonicalizeItems items
      return text :: rest := by
  rw [canonicalizeItems]
  exact hu

theorem canonicalizeProperties_cons {value : JsValue} (hu : value ≠ .undefined) (key : JsString)
    (properties : List (JsString × JsValue)) :
    canonicalizeProperties ((key, value) :: properties) =
      (key, canonicalize value) :: canonicalizeProperties properties := by
  rw [canonicalizeProperties]
  exact hu

mutual

/-- **Canonical text is well-formed**, whatever strings the value holds. -/
theorem canonicalize_wellFormed : (v : JsValue) → (s : JsString) → canonicalize v = .ok s →
    WellFormed s
  | .undefined, _, h | .other _, _, h | .number .nan, _, h | .number (.infinity _), _, h => by
      cases h
  | .null, _, h | .number (.zero _), _, h | .bigint _, _, h => by
      cases h
      exact wellFormed_js _
  | .boolean b, _, h => by
      cases h
      cases b <;> exact wellFormed_js _
  | .number (.finite x), _, h => by
      cases h
      exact wellFormed_stringifyNumber x
  | .string s, _, h => by
      cases h
      exact wellFormed_stringifyString s
  | .array items, _, h => by
      rw [canonicalize, Js.bind_eq_ok] at h
      obtain ⟨texts, htexts, h⟩ := h
      cases h
      exact ((wellFormed_js _).append
        ((wellFormed_js _).intercalate (canonicalizeItems_wellFormed items texts htexts))).append
          (wellFormed_js _)
  | .object properties, _, h => by
      rw [canonicalize, Js.bind_eq_ok] at h
      obtain ⟨entries, hentries, h⟩ := h
      cases h
      refine ((wellFormed_js _).append ((wellFormed_js _).intercalate fun e he => ?_)).append
        (wellFormed_js _)
      -- sorting moves the properties and adds none
      obtain ⟨p, hp, hcall⟩ := (Js.mapM_eq_ok hentries).2 e he
      rw [Js.bind_eq_ok] at hcall
      obtain ⟨value, hvalue, hcall⟩ := hcall
      cases hcall
      have hmem : p ∈ canonicalizeProperties properties := (List.mem_insertionSort _).mp hp
      exact ((wellFormed_stringifyString _).append (wellFormed_js _)).append
        (canonicalizeProperties_wellFormed properties p hmem value hvalue)

theorem canonicalizeItems_wellFormed : (items : List JsValue) → (texts : List JsString) →
    canonicalizeItems items = .ok texts → ∀ t ∈ texts, WellFormed t
  | [], _, h => by
      cases h
      simp
  | item :: items, texts, h => by
      -- `undefined` is written as `null`; only other items are passed on.
      obtain ⟨text, rest, htext, hrest, rfl⟩ : ∃ text rest, WellFormed text ∧
          canonicalizeItems items = .ok rest ∧ text :: rest = texts := by
        by_cases hu : item = .undefined
        · rw [hu, canonicalizeItems, Js.bind_eq_ok] at h
          obtain ⟨rest, hrest, h⟩ := h
          exact ⟨_, rest, wellFormed_js _, hrest, Except.ok.inj h⟩
        · rw [canonicalizeItems_cons hu, Js.bind_eq_ok] at h
          obtain ⟨text, htext, h⟩ := h
          obtain ⟨rest, hrest, h⟩ := Js.bind_eq_ok.mp h
          exact ⟨text, rest, canonicalize_wellFormed item text htext, hrest, Except.ok.inj h⟩
      have ih := canonicalizeItems_wellFormed items rest hrest
      exact List.forall_mem_cons.mpr ⟨htext, ih⟩

theorem canonicalizeProperties_wellFormed : (properties : List (JsString × JsValue)) →
    ∀ p ∈ canonicalizeProperties properties, ∀ s, p.2 = .ok s → WellFormed s
  | [], p, hp, _, _ => by cases hp
  | (key, value) :: properties, p, hp, s, h => by
      have ih := canonicalizeProperties_wellFormed properties
      by_cases hu : value = .undefined
      · rw [hu, canonicalizeProperties] at hp
        exact ih p hp s h
      · rw [canonicalizeProperties_cons hu] at hp
        rcases List.mem_cons.mp hp with rfl | hp
        · exact canonicalize_wellFormed value s h
        · exact ih p hp s h

end

/-- **Canonical bytes determine the canonical text.** -/
theorem canonicalBytes_inj {v w : JsValue} {b : Buffer} (hv : canonicalBytes v = .ok b)
    (hw : canonicalBytes w = .ok b) : canonicalize v = canonicalize w := by
  obtain ⟨s, hs, hsb⟩ := Js.bind_eq_ok.mp hv
  obtain ⟨t, ht, htb⟩ := Js.bind_eq_ok.mp hw
  have hbytes : utf8 s = utf8 t := (Except.ok.inj hsb).trans (Except.ok.inj htb).symm
  rw [hs, ht, utf8_injOn (canonicalize_wellFormed v s hs) (canonicalize_wellFormed w t ht) hbytes]

end BridgeWatch

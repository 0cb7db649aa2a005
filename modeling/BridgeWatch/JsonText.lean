/-
JSON texts behind a separator.

The backend compares JSON data by its text, and writes a hash and a text into one key, with a colon
between them. The hash may hold colons of its own, and so may the text. Still the key determines both: a
JSON text closes what it opens, and has no colon outside of its strings and objects, so what follows a
colon within it is not a JSON text itself.
-/
import BridgeWatch.Canonical

set_option autoImplicit false

namespace BridgeWatch

/-! ## `JSON.stringify` of JSON data -/

/-- JSON data: the properties of an object in their order, of which no two have one key. -/
inductive Json where
  | null
  | boolean (b : Bool)
  | number (x : JsNumber)
  | string (s : JsString)
  | array (items : List Json)
  | object (properties : List (JsString × Json))

namespace Json

mutual

/-- `JSON.stringify`, without indentation. -/
def stringify : Json → JsString
  | .null => js "null"
  | .boolean b => if b then js "true" else js "false"
  | .number (.zero _) => js "0"
  | .number (.finite x) => stringifyNumber x
  | .number _ => js "null"
  | .string s => stringifyString s
  | .array items => js "[" ++ List.intercalate (js ",") (stringifyItems items) ++ js "]"
  | .object properties =>
      js "\x7b" ++ List.intercalate (js ",") (stringifyProperties properties) ++ js "\x7d"

def stringifyItems : List Json → List JsString
  | [] => []
  | item :: items => stringify item :: stringifyItems items

def stringifyProperties : List (JsString × Json) → List JsString
  | [] => []
  | (key, value) :: properties =>
      (stringifyString key ++ js ":" ++ stringify value) :: stringifyProperties properties

end

end Json

/-! ## Reading a text from the left -/

/-- Where a reader stands: outside or inside of a string, or behind a backslash in one, with so many
brackets open. -/
inductive Lexing where
  | outside (depth : ℕ)
  | inside (depth : ℕ)
  | escaped (depth : ℕ)
  deriving DecidableEq

def Lexing.next : Lexing → UInt16 → Option Lexing
  | .outside depth, u =>
      if u = 0x22 then some (.inside depth)
      else if u = 0x5C then none
      else if u = 0x7B ∨ u = 0x5B then some (.outside (depth + 1))
      else if u = 0x7D ∨ u = 0x5D then if depth = 0 then none else some (.outside (depth - 1))
      else if u = 0x3A ∧ depth = 0 then none
      else some (.outside depth)
  | .inside depth, u =>
      if u = 0x22 then some (.outside depth)
      else if u = 0x5C then some (.escaped depth)
      else some (.inside depth)
  | .escaped depth, _ => some (.inside depth)

def lex : Lexing → JsString → Option Lexing
  | state, [] => some state
  | state, u :: text => (state.next u).bind fun state => lex state text

/-- The text closes what it opens, and stands in any bracket. -/
def Balanced (text : JsString) : Prop := ∀ depth, lex (.outside (depth + 1)) text = some (.outside (depth + 1))

/-- The text closes what it opens, and may stand alone. -/
def IsJsonText (text : JsString) : Prop := ∀ depth, lex (.outside depth) text = some (.outside depth)

/-- The text leaves a string open in which it stands. -/
def IsQuoted (text : JsString) : Prop := ∀ depth, lex (.inside depth) text = some (.inside depth)

/-- No unit of the text means anything outside of a string. -/
def Plain (text : JsString) : Prop :=
  ∀ u ∈ text, u ≠ 0x22 ∧ u ≠ 0x5C ∧ u ≠ 0x7B ∧ u ≠ 0x5B ∧ u ≠ 0x7D ∧ u ≠ 0x5D ∧ u ≠ 0x3A

instance Plain.decidable (text : JsString) : Decidable (Plain text) := List.decidableBAll _ text

section Lex

variable {state state' : Lexing} {s t text : JsString} {u : UInt16} {depth : ℕ}

@[simp] theorem lex_nil : lex state [] = some state := rfl

theorem lex_cons : lex state (u :: text) = (state.next u).bind fun state => lex state text := rfl

theorem lex_append : lex state (s ++ t) = (lex state s).bind fun state => lex state t := by
  induction s generalizing state with
  | nil => rfl
  | cons u _ ih =>
      rw [List.cons_append, lex_cons, lex_cons]
      cases state.next u with
      | none => rfl
      | some => exact ih

theorem IsJsonText.balanced (h : IsJsonText text) : Balanced text := fun depth => h (depth + 1)

theorem Plain.isJsonText (h : Plain text) : IsJsonText text := by
  intro depth
  induction text with
  | nil => rfl
  | cons _ _ ih =>
      obtain ⟨⟨h1, h2, h3, h4, h5, h6, h7⟩, hrest⟩ := List.forall_mem_cons.mp h
      rw [lex_cons, Lexing.next]
      simp only [h1, h2, h3, h4, h5, h6, h7, if_false, or_self, false_and, Option.bind_some]
      exact ih hrest

theorem Balanced.append (hs : Balanced s) (ht : Balanced t) : Balanced (s ++ t) := by
  intro depth
  rw [lex_append, hs, Option.bind_some, ht]

theorem Balanced.intercalate {sep : JsString} (hsep : Balanced sep) {texts : List JsString}
    (h : ∀ t ∈ texts, Balanced t) : Balanced (List.intercalate sep texts) := by
  induction texts with
  | nil => exact fun _ => rfl
  | cons _ texts ih =>
      obtain ⟨ht, hrest⟩ := List.forall_mem_cons.mp h
      cases texts with
      | nil => rwa [List.intercalate_singleton]
      | cons =>
          rw [List.intercalate_cons_cons]
          exact (ht.append hsep).append (ih hrest)

/-- Balanced text in brackets is a text that may stand alone. -/
theorem Balanced.bracketed {opening closing : UInt16} (h : Balanced text)
    (hopening : opening = 0x7B ∨ opening = 0x5B) (hclosing : closing = 0x7D ∨ closing = 0x5D) :
    IsJsonText (opening :: (text ++ [closing])) := by
  intro depth
  have hopen : Lexing.next (.outside depth) opening = some (.outside (depth + 1)) := by
    rcases hopening with rfl | rfl <;> rfl
  have hclose : Lexing.next (.outside (depth + 1)) closing = some (.outside depth) := by
    rcases hclosing with rfl | rfl <;> rfl
  rw [lex_cons, hopen, Option.bind_some, lex_append, h, Option.bind_some, lex_cons, hclose]
  rfl

theorem IsQuoted.append (hs : IsQuoted s) (ht : IsQuoted t) : IsQuoted (s ++ t) := by
  intro depth
  rw [lex_append, hs, Option.bind_some, ht]

theorem IsQuoted.flatMap {α : Type} {xs : List α} {f : α → JsString} (h : ∀ x ∈ xs, IsQuoted (f x)) :
    IsQuoted (xs.flatMap f) := by
  induction xs with
  | nil => exact fun _ => rfl
  | cons _ _ ih =>
      obtain ⟨hx, hrest⟩ := List.forall_mem_cons.mp h
      rw [List.flatMap_cons]
      exact hx.append (ih hrest)

theorem isQuoted_of_plain (h : ∀ u ∈ text, u ≠ 0x22 ∧ u ≠ 0x5C) : IsQuoted text := by
  intro depth
  induction text with
  | nil => rfl
  | cons _ _ ih =>
      obtain ⟨⟨hquote, hbackslash⟩, hrest⟩ := List.forall_mem_cons.mp h
      rw [lex_cons, Lexing.next, if_neg hquote, if_neg hbackslash, Option.bind_some]
      exact ih hrest

theorem IsQuoted.quoted (h : IsQuoted text) : IsJsonText (0x22 :: (text ++ [0x22])) := by
  intro depth
  have hopen : Lexing.next (.outside depth) 0x22 = some (.inside depth) := rfl
  have hclose : Lexing.next (.inside depth) 0x22 = some (.outside depth) := rfl
  rw [lex_cons, hopen, Option.bind_some, lex_append, h, Option.bind_some, lex_cons, hclose]
  rfl

/-- Two readers of one text, one of which began inside of a string where the other was outside, end so. -/
theorem lex_opposite {d e : ℕ} {first second : Lexing}
    (hfirst : lex (.inside d) text = some first) (hsecond : lex (.outside e) text = some second) :
    (∃ d' e', first = .inside d' ∧ second = .outside e') ∨ ∃ d' e', first = .outside d' ∧ second = .inside e' := by
  induction text using List.reverseRecOn generalizing first second with
  | nil =>
      rw [lex_nil, Option.some.injEq] at hfirst hsecond
      exact .inl ⟨d, e, hfirst.symm, hsecond.symm⟩
  | append_singleton _ u ih =>
      rw [lex_append, Option.bind_eq_some_iff] at hfirst hsecond
      obtain ⟨before, hbefore, hfirst⟩ := hfirst
      obtain ⟨before', hbefore', hsecond⟩ := hsecond
      have hnext (d e : ℕ) {first second : Lexing} (hfirst : lex (.inside d) [u] = some first)
          (hsecond : lex (.outside e) [u] = some second) :
          (∃ d' e', first = .inside d' ∧ second = .outside e') ∨
            ∃ d' e', first = .outside d' ∧ second = .inside e' := by
        rw [lex_cons, Lexing.next] at hfirst
        rw [lex_cons, Lexing.next] at hsecond
        by_cases hquote : u = 0x22
        · rw [if_pos hquote] at hfirst hsecond
          exact .inr ⟨d, e, (Option.some.inj hfirst).symm, (Option.some.inj hsecond).symm⟩
        · rw [if_neg hquote] at hfirst hsecond
          by_cases hbackslash : u = 0x5C
          · rw [if_pos hbackslash] at hsecond
            cases hsecond
          · rw [if_neg hbackslash] at hfirst hsecond
            refine .inl ⟨d, ?_⟩
            split at hsecond
            · exact ⟨_, (Option.some.inj hfirst).symm, (Option.some.inj hsecond).symm⟩
            · split at hsecond
              · split at hsecond
                · cases hsecond
                · exact ⟨_, (Option.some.inj hfirst).symm, (Option.some.inj hsecond).symm⟩
              · split at hsecond
                · cases hsecond
                · exact ⟨_, (Option.some.inj hfirst).symm, (Option.some.inj hsecond).symm⟩
      rcases ih hbefore hbefore' with ⟨d', e', rfl, rfl⟩ | ⟨d', e', rfl, rfl⟩
      · exact hnext d' e' hfirst hsecond
      · rcases hnext e' d' hsecond hfirst with ⟨a, b, h, h'⟩ | ⟨a, b, h, h'⟩
        · exact .inr ⟨b, a, h', h⟩
        · exact .inl ⟨b, a, h', h⟩

/-- What follows a colon in a JSON text is no JSON text. -/
theorem IsJsonText.not_suffix {before : JsString} (ht : IsJsonText t)
    (htext : IsJsonText (before ++ 0x3A :: t)) : False := by
  have hall := htext 0
  rw [lex_append, Option.bind_eq_some_iff] at hall
  obtain ⟨state, hstate, hall⟩ := hall
  have hstring (d : ℕ) (h : lex (.inside d) t = some (.outside 0)) : False := by
    rcases lex_opposite h (ht 0) with ⟨_, _, hfirst, _⟩ | ⟨_, _, _, hsecond⟩
    · cases hfirst
    · cases hsecond
  cases state with
  | outside d =>
      -- In an object the brackets that are open stay open.
      cases d with
      | zero => cases hall
      | succ d =>
          have hcolon : lex (.outside (d + 1)) (0x3A :: t) = lex (.outside (d + 1)) t := rfl
          rw [hcolon, ht, Option.some.injEq, Lexing.outside.injEq] at hall
          exact Nat.succ_ne_zero d hall
  | inside d => exact hstring d hall
  | escaped d => exact hstring d hall

/-- **The last colon before a JSON text can be told.** -/
theorem colon_inj {a b : JsString} (hs : IsJsonText s) (ht : IsJsonText t)
    (h : a ++ 0x3A :: s = b ++ 0x3A :: t) : a = b ∧ s = t := by
  rcases List.append_eq_append_iff.mp h with ⟨c, hb, hc⟩ | ⟨c, ha, hc⟩
  · cases c with
    | nil => exact ⟨by rw [hb, List.append_nil], (List.cons.inj hc).2⟩
    | cons =>
        obtain ⟨-, rfl⟩ := List.cons.inj hc
        exact (ht.not_suffix hs).elim
  · cases c with
    | nil => exact ⟨by rw [ha, List.append_nil], (List.cons.inj hc).2.symm⟩
    | cons =>
        obtain ⟨-, rfl⟩ := List.cons.inj hc
        exact (hs.not_suffix ht).elim

end Lex

/-! ## Texts of JSON data -/

section Stringify

variable {c : Char} {cs : List Char}

theorem plain_utf16 (h : ∀ c ∈ cs, Plain (utf16Char c)) : Plain (utf16 cs) := by
  intro u hu
  rw [utf16, List.mem_flatMap] at hu
  obtain ⟨c, hc, hu⟩ := hu
  exact h c hc u hu

/-- A character of a number. -/
def numeric (c : Char) : Bool := c.isDigit || c = '-' || c = '+' || c = '.' || c = 'e'

theorem plain_of_numeric (h : numeric c = true) : Plain (utf16Char c) := by
  have hcode : (48 ≤ c.toNat ∧ c.toNat ≤ 57) ∨ c = '-' ∨ c = '+' ∨ c = '.' ∨ c = 'e' := by
    rw [numeric] at h
    simp only [Bool.or_eq_true, decide_eq_true_eq, or_assoc] at h
    refine h.imp_left fun hdigit => ?_
    rw [Char.isDigit, Bool.and_eq_true, decide_eq_true_eq, decide_eq_true_eq] at hdigit
    exact ⟨UInt32.le_iff_toNat_le.mp hdigit.1, UInt32.le_iff_toNat_le.mp hdigit.2⟩
  rcases hcode with ⟨hfrom, hto⟩ | rfl | rfl | rfl | rfl
  · rw [utf16Char, if_pos (by omega)]
    intro u hu
    rw [List.mem_singleton] at hu
    have hvalue : u.toNat = c.toNat := by rw [hu, toNat_toUInt16 (by omega)]
    refine ⟨?_, ?_, ?_, ?_, ?_, ?_, ?_⟩ <;>
    · rintro rfl
      simp at hvalue
      omega
  · decide
  · decide
  · decide
  · decide

theorem numeric_of_mem_toDigits {n : ℕ} (h : c ∈ Nat.toDigits 10 n) : numeric c = true := by
  rw [numeric, Nat.isDigit_of_mem_toDigits (by decide) (by decide) h]
  rfl

theorem numeric_decimalText {digits : List Char} {point : ℤ} (h : ∀ c ∈ digits, numeric c = true) :
    ∀ c ∈ decimalText digits point, numeric c = true := by
  have hzeros (n : ℕ) : ∀ c ∈ List.replicate n '0', numeric c = true := by
    intro c hc
    rw [List.eq_of_mem_replicate hc]
    rfl
  have happend {as bs : List Char} (ha : ∀ c ∈ as, numeric c = true) (hb : ∀ c ∈ bs, numeric c = true) :
      ∀ c ∈ as ++ bs, numeric c = true := List.forall_mem_append.mpr ⟨ha, hb⟩
  have hcons {a : Char} {bs : List Char} (ha : numeric a = true) (hb : ∀ c ∈ bs, numeric c = true) :
      ∀ c ∈ a :: bs, numeric c = true := List.forall_mem_cons.mpr ⟨ha, hb⟩
  have htake (n : ℕ) : ∀ c ∈ digits.take n, numeric c = true := fun c hc => h c (List.mem_of_mem_take hc)
  have hdrop (n : ℕ) : ∀ c ∈ digits.drop n, numeric c = true := fun c hc => h c (List.mem_of_mem_drop hc)
  rw [decimalText]
  split
  · exact happend h (hzeros _)
  · split
    · exact happend (htake _) (hcons rfl (hdrop _))
    · split
      · exact hcons rfl (hcons rfl (happend (hzeros _) h))
      · refine happend (happend (htake _) ?_) (hcons rfl (hcons ?_ fun c hc => numeric_of_mem_toDigits hc))
        · split
          · exact fun c hc => absurd hc List.not_mem_nil
          · exact hcons rfl (hdrop _)
        · split <;> rfl

theorem isJsonText_stringifyNumber (x : Decimal) : IsJsonText (stringifyNumber x) := by
  apply Plain.isJsonText
  apply plain_utf16
  intro c hc
  apply plain_of_numeric
  rw [List.mem_append] at hc
  rcases hc with hc | hc
  · split at hc
    · rw [List.mem_singleton.mp hc]
      rfl
    · exact absurd hc List.not_mem_nil
  · exact numeric_decimalText (fun c hc => numeric_of_mem_toDigits hc) c hc

/-- A unit escape is read as part of its string. -/
theorem isQuoted_unicodeEscape (u : UInt16) : IsQuoted (unicodeEscape u) := by
  have hdigit : ∀ n < 16, (utf16Char (Nat.digitChar n)).all (fun unit => unit ≠ 0x22 ∧ unit ≠ 0x5C) = true := by
    decide
  have hdigits : IsQuoted (utf16
      ([u.toNat / 0x1000, u.toNat / 0x100 % 16, u.toNat / 0x10 % 16, u.toNat % 16].map Nat.digitChar)) := by
    apply isQuoted_of_plain
    intro unit hunit
    rw [utf16, List.mem_flatMap] at hunit
    obtain ⟨c, hc, hunit⟩ := hunit
    obtain ⟨n, hn, rfl⟩ := List.mem_map.mp hc
    refine of_decide_eq_true (List.all_eq_true.mp (hdigit n ?_) unit hunit)
    have hu := u.toNat_lt
    simp only [List.mem_cons, List.not_mem_nil, or_false] at hn
    rcases hn with rfl | rfl | rfl | rfl <;> omega
  intro depth
  have hbackslash : lex (.inside depth) (utf16Char (Char.ofNat 0x5C)) = some (.escaped depth) := rfl
  have hletter : lex (.escaped depth) (utf16Char 'u') = some (.inside depth) := rfl
  rw [unicodeEscape, utf16, List.flatMap_cons, List.flatMap_cons, ← utf16, lex_append, hbackslash,
    Option.bind_some, lex_append, hletter, Option.bind_some]
  exact hdigits depth

theorem isQuoted_quotePoint (point : CodePoint) : IsQuoted (quotePoint point) := by
  cases point with
  | loneSurrogate u => exact isQuoted_unicodeEscape u
  | scalar c =>
      rw [quotePoint]
      cases hescape : shortEscape c.toNat with
      | some letter =>
          dsimp only
          intro depth
          have hbackslash : lex (.inside depth) (utf16Char (Char.ofNat 0x5C)) = some (.escaped depth) := rfl
          obtain ⟨unit, hunit⟩ : ∃ unit, utf16Char letter = [unit] := by
            rw [shortEscape.eq_def] at hescape
            split at hescape <;> cases hescape <;> exact ⟨_, rfl⟩
          rw [utf16, List.flatMap_cons, List.flatMap_singleton, lex_append, hbackslash, Option.bind_some, hunit]
          rfl
      | none =>
          dsimp only
          split
          · exact isQuoted_unicodeEscape _
          · apply isQuoted_of_plain
            have hquote : c.toNat ≠ 0x22 := by
              intro h
              rw [h] at hescape
              cases hescape
            have hbackslash : c.toNat ≠ 0x5C := by
              intro h
              rw [h] at hescape
              cases hescape
            intro u hu
            have hvalid : c.toNat < 0xD800 ∨ 0xDFFF < c.toNat ∧ c.toNat < 0x110000 := c.valid
            have hvalue : u.toNat = c.toNat ∨ 0xD800 ≤ u.toNat := by
              rw [utf16Char] at hu
              split at hu
              · rw [List.mem_singleton] at hu
                exact .inl (by rw [hu, toNat_toUInt16 (by omega)])
              · rcases List.mem_pair.mp hu with hu | hu
                · exact .inr (by rw [hu, toNat_toUInt16 (by omega)]; omega)
                · exact .inr (by rw [hu, toNat_toUInt16 (by omega)]; omega)
            constructor
            · rintro rfl
              simp at hvalue
              omega
            · rintro rfl
              simp at hvalue
              omega

theorem isJsonText_stringifyString (s : JsString) : IsJsonText (stringifyString s) :=
  (IsQuoted.flatMap fun point _ => isQuoted_quotePoint point).quoted

theorem isJsonText_null : IsJsonText (js "null") := Plain.isJsonText (by decide)

theorem isJsonText_zero : IsJsonText (js "0") := Plain.isJsonText (by decide)

mutual

/-- **`JSON.stringify` writes a JSON text.** -/
theorem isJsonText_stringify : (v : Json) → IsJsonText v.stringify
  | .null | .number .nan | .number (.infinity _) => isJsonText_null
  | .number (.zero _) => isJsonText_zero
  | .boolean b => by
      cases b
      · exact Plain.isJsonText (by decide)
      · exact Plain.isJsonText (by decide)
  | .number (.finite x) => isJsonText_stringifyNumber x
  | .string s => isJsonText_stringifyString s
  | .array items => by
      have hitems : Balanced (List.intercalate (js ",") (Json.stringifyItems items)) :=
        Balanced.intercalate (Plain.isJsonText (by decide)).balanced fun t ht =>
          (isJsonText_stringifyItems items t ht).balanced
      rw [Json.stringify, List.append_assoc]
      exact hitems.bracketed (.inr rfl) (.inr rfl)
  | .object properties => by
      have hproperties : Balanced (List.intercalate (js ",") (Json.stringifyProperties properties)) :=
        Balanced.intercalate (Plain.isJsonText (by decide)).balanced
          (balanced_stringifyProperties properties)
      rw [Json.stringify, List.append_assoc]
      exact hproperties.bracketed (.inl rfl) (.inl rfl)

theorem isJsonText_stringifyItems : (items : List Json) → ∀ t ∈ Json.stringifyItems items, IsJsonText t
  | [], t, ht => absurd ht List.not_mem_nil
  | item :: items, t, ht => by
      rw [Json.stringifyItems, List.mem_cons] at ht
      rcases ht with rfl | ht
      · exact isJsonText_stringify item
      · exact isJsonText_stringifyItems items t ht

theorem balanced_stringifyProperties : (properties : List (JsString × Json)) →
    ∀ t ∈ Json.stringifyProperties properties, Balanced t
  | [], t, ht => absurd ht List.not_mem_nil
  | (key, value) :: properties, t, ht => by
      rw [Json.stringifyProperties, List.mem_cons] at ht
      rcases ht with rfl | ht
      · have hcolon : Balanced (js ":") := fun _ => rfl
        exact ((isJsonText_stringifyString key).balanced.append hcolon).append
          (isJsonText_stringify value).balanced
      · exact balanced_stringifyProperties properties t ht

end

end Stringify

end BridgeWatch

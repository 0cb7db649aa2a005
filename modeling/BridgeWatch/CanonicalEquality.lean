/-
Which values have the same canonical text.

Canonical text can be read from the left: the first unit says what kind of value begins, a string ends with its quote, a
list with its bracket, and a numeral where a comma or a bracket follows. So the text of a value determines the value, up
to what the text leaves out: the order of the properties, those that are `undefined`, and whether an item of an array is
`undefined` or `null`.
-/
import BridgeWatch.JsonTokens
import BridgeWatch.UniqueReading

set_option autoImplicit false

namespace BridgeWatch

open UniqueReading

/-! ## Values and their equality -/

/-- An item of an array: `undefined` is written as `null`. -/
def JsValue.orNull : JsValue → JsValue
  | .undefined => .null
  | v => v

/-- The properties that are written. -/
def definedProperties (properties : List (JsString × JsValue)) : List (JsString × JsValue) :=
  properties.filter (!·.2.isUndefined)

/-- The value is built from `null`, booleans, finite numbers, strings, arrays and objects; items and properties may be
`undefined`. -/
inductive IsJson : JsValue → Prop
  | null : IsJson .null
  | boolean (b : Bool) : IsJson (.boolean b)
  | zero (negative : Bool) : IsJson (.number (.zero negative))
  | finite (x : Decimal) : IsJson (.number (.finite x))
  | string (s : JsString) : IsJson (.string s)
  | array {items : List JsValue} (hitems : ∀ v ∈ items, v ≠ .undefined → IsJson v) : IsJson (.array items)
  | object {properties : List (JsString × JsValue)} (hkeys : (properties.map Prod.fst).Nodup)
      (hvalues : ∀ p ∈ properties, p.2 ≠ .undefined → IsJson p.2) : IsJson (.object properties)

/-- Equality up to the order of the properties, properties that are `undefined`, and items that are. The two zeros are
one number. -/
inductive Same : JsValue → JsValue → Prop
  | null : Same .null .null
  | boolean (b : Bool) : Same (.boolean b) (.boolean b)
  | zero (negative negative' : Bool) : Same (.number (.zero negative)) (.number (.zero negative'))
  | finite (x : Decimal) : Same (.number (.finite x)) (.number (.finite x))
  | string (s : JsString) : Same (.string s) (.string s)
  | array {xs ys : List JsValue} (hitems : xs.Forall₂ (fun x y => Same x.orNull y.orNull) ys) :
      Same (.array xs) (.array ys)
  | object {ps qs : List (JsString × JsValue)}
      (hkeys : ∀ key, (∃ v, (key, v) ∈ definedProperties ps) ↔ ∃ w, (key, w) ∈ definedProperties qs)
      (hvalues : ∀ key v w, (key, v) ∈ definedProperties ps → (key, w) ∈ definedProperties qs → Same v w) :
      Same (.object ps) (.object qs)

variable {v w : JsValue} {t : JsString}

theorem isUndefined_eq_false_iff : v.isUndefined = false ↔ v ≠ .undefined := by
  cases v <;> simp [JsValue.isUndefined]

theorem mem_definedProperties {p : JsString × JsValue} {properties : List (JsString × JsValue)} :
    p ∈ definedProperties properties ↔ p ∈ properties ∧ p.2 ≠ .undefined := by
  rw [definedProperties, List.mem_filter, Bool.not_eq_true', isUndefined_eq_false_iff]

theorem orNull_of_ne (h : v ≠ .undefined) : v.orNull = v := by
  cases v <;> first | rfl | exact absurd rfl h

/-- An item of an array of such values. -/
theorem isJson_orNull (h : v ≠ .undefined → IsJson v) : IsJson v.orNull := by
  by_cases hu : v = .undefined
  · rw [hu]
    exact .null
  · rw [orNull_of_ne hu]
    exact h hu

/-! ## What the text is made of -/

theorem canonicalizeItems_eq_ok {items : List JsValue} {texts : List JsString} :
    canonicalizeItems items = .ok texts ↔ items.Forall₂ (fun v t => canonicalize v.orNull = .ok t) texts := by
  induction items generalizing texts with
  | nil =>
      rw [canonicalizeItems, List.forall₂_nil_left_iff, Except.ok.injEq]
      exact eq_comm
  | cons item items ih =>
      have hcons : canonicalizeItems (item :: items) = do
          let text ← canonicalize item.orNull
          let rest ← canonicalizeItems items
          return text :: rest := by
        by_cases hu : item = .undefined
        · rw [hu, canonicalizeItems]
          rfl
        · rw [canonicalizeItems_cons hu, orNull_of_ne hu]
      rw [hcons, Js.bind_eq_ok, List.forall₂_cons_left_iff]
      constructor
      · rintro ⟨text, htext, h⟩
        obtain ⟨rest, hrest, heq⟩ := Js.bind_eq_ok.mp h
        exact ⟨text, rest, htext, ih.mp hrest, (Except.ok.inj heq).symm⟩
      · rintro ⟨text, rest, htext, hrest, rfl⟩
        exact ⟨text, htext, Js.bind_eq_ok.mpr ⟨rest, ih.mpr hrest, rfl⟩⟩

theorem canonicalizeProperties_eq {properties : List (JsString × JsValue)} :
    canonicalizeProperties properties = (definedProperties properties).map fun p => (p.1, canonicalize p.2) := by
  induction properties with
  | nil => rfl
  | cons p properties ih =>
      by_cases hu : p.2 = .undefined
      · obtain ⟨key, value⟩ := p
        obtain rfl : value = .undefined := hu
        rw [canonicalizeProperties, ih]
        rfl
      · have hdefined : definedProperties (p :: properties) = p :: definedProperties properties :=
          List.filter_cons_of_pos (by rw [isUndefined_eq_false_iff.mpr hu]; rfl)
        rw [canonicalizeProperties_cons hu, ih, hdefined, List.map_cons]

/-- The text of a property. -/
def IsEntry (p : JsString × JsValue) (entry : JsString) : Prop :=
  ∃ value, canonicalize p.2 = .ok value ∧ entry = stringifyString p.1 ++ js ":" ++ value

theorem canonicalize_object_eq_ok {properties : List (JsString × JsValue)} :
    canonicalize (.object properties) = .ok t ↔
      ∃ entries, (sortByKey (definedProperties properties)).Forall₂ IsEntry entries ∧
        t = js "\x7b" ++ List.intercalate (js ",") entries ++ js "\x7d" := by
  have hsort : sortByKey ((definedProperties properties).map fun p => (p.1, canonicalize p.2)) =
      (sortByKey (definedProperties properties)).map fun p => (p.1, canonicalize p.2) :=
    (List.map_insertionSort (fun p q : JsString × JsValue => p.1 ≤ q.1) (fun p q : JsString × Js JsString => p.1 ≤ q.1)
      (fun p => (p.1, canonicalize p.2)) _ fun _ _ _ _ => Iff.rfl).symm
  rw [canonicalize, canonicalizeProperties_eq, hsort, Js.bind_eq_ok]
  refine exists_congr fun entries => and_congr ?_ ?_
  · rw [Js.mapM_forall₂, List.forall₂_map_left_iff]
    have hentry (p : JsString × JsValue) (entry : JsString) : (do
        let value ← canonicalize p.2
        return stringifyString p.1 ++ js ":" ++ value : Js JsString) = .ok entry ↔ IsEntry p entry := by
      rw [Js.bind_eq_ok]
      exact exists_congr fun value => and_congr_right fun _ =>
        ⟨fun h => (Except.ok.inj h).symm, fun h => congrArg Except.ok h.symm⟩
    simp only [hentry]
  · exact ⟨fun h => (Except.ok.inj h).symm, fun h => congrArg Except.ok h.symm⟩

/-- Every such value has a text. -/
theorem IsJson.exists_text (h : IsJson v) : ∃ t, canonicalize v = .ok t := by
  have hlist {α : Type} {R : α → JsString → Prop} {l : List α} (h : ∀ a ∈ l, ∃ s, R a s) : ∃ ss, l.Forall₂ R ss := by
    induction l with
    | nil => exact ⟨[], .nil⟩
    | cons _ _ ih =>
        obtain ⟨⟨s, hs⟩, hrest⟩ := List.forall_mem_cons.mp h
        obtain ⟨ss, hss⟩ := ih hrest
        exact ⟨s :: ss, .cons hs hss⟩
  induction h with
  | null | boolean _ | zero _ | finite _ | string _ => exact ⟨_, rfl⟩
  | @array items _ ih =>
      obtain ⟨texts, htexts⟩ := hlist (R := fun v t => canonicalize v.orNull = .ok t) (l := items) fun v hv => by
        by_cases hu : v = .undefined
        · exact ⟨_, by rw [hu]; rfl⟩
        · rw [orNull_of_ne hu]
          exact ih v hv hu
      exact ⟨_, by rw [canonicalize, canonicalizeItems_eq_ok.mpr htexts]; rfl⟩
  | @object properties _ _ ih =>
      obtain ⟨entries, hentries⟩ := hlist (R := IsEntry) (l := sortByKey (definedProperties properties)) fun p hp => by
        obtain ⟨hmem, hu⟩ := mem_definedProperties.mp ((List.mem_insertionSort _).mp hp)
        obtain ⟨value, hvalue⟩ := ih p hmem hu
        exact ⟨_, value, hvalue, rfl⟩
      exact ⟨_, canonicalize_object_eq_ok.mpr ⟨entries, hentries, rfl⟩⟩

/-! ## The first unit -/

/-- What kind of value a unit begins. -/
def unitKind (u : UInt16) : ℕ :=
  if u = 0x6E then 1
  else if u = 0x74 ∨ u = 0x66 then 2
  else if numericUnit u = true then 3
  else if u = 0x22 then 4
  else if u = 0x5B then 5
  else if u = 0x7B then 6
  else 0

def JsValue.kind : JsValue → ℕ
  | .null => 1
  | .boolean _ => 2
  | .number _ => 3
  | .string _ => 4
  | .array _ => 5
  | .object _ => 6
  | _ => 0

theorem IsJson.first_unit (h : IsJson v) (ht : canonicalize v = .ok t) :
    ∃ u rest, t = u :: rest ∧ unitKind u = v.kind ∧ u ≠ 0x5D := by
  cases h with
  | null | zero _ =>
      cases ht
      exact ⟨_, _, rfl, rfl, by decide⟩
  | boolean b =>
      cases ht
      cases b
      · exact ⟨_, _, rfl, rfl, by decide⟩
      · exact ⟨_, _, rfl, rfl, by decide⟩
  | finite x =>
      cases ht
      obtain ⟨u, rest, hu⟩ := List.exists_cons_of_ne_nil (stringifyNumber_ne_nil x)
      have hnumeric : numericUnit u = true := numericUnit_stringifyNumber x u (by rw [hu]; exact List.mem_cons_self)
      have hne : u ≠ 0x6E ∧ u ≠ 0x74 ∧ u ≠ 0x66 ∧ u ≠ 0x5D := by
        refine ⟨?_, ?_, ?_, ?_⟩ <;>
        · rintro rfl
          cases hnumeric
      exact ⟨u, rest, hu, by simp [unitKind, JsValue.kind, hne, hnumeric], hne.2.2.2⟩
  | string =>
      cases ht
      exact ⟨0x22, _, rfl, rfl, by decide⟩
  | array =>
      rw [canonicalize, Js.bind_eq_ok] at ht
      obtain ⟨texts, -, heq⟩ := ht
      cases heq
      exact ⟨0x5B, _, rfl, rfl, by decide⟩
  | object =>
      obtain ⟨entries, -, rfl⟩ := canonicalize_object_eq_ok.mp ht
      exact ⟨0x7B, _, rfl, rfl, by decide⟩

/-! ## Reading a text -/

/-- The text of a value. -/
def IsText (v : JsValue) (t : JsString) : Prop := IsJson v ∧ canonicalize v = .ok t

theorem follows_comma (x : JsString) : Follows (0x2C :: x) := fun _ hu => .inl (Option.some.inj hu).symm

theorem follows_bracket (x : JsString) : Follows (0x5D :: x) := fun _ hu => .inr (.inl (Option.some.inj hu).symm)

theorem follows_brace (x : JsString) : Follows (0x7D :: x) := fun _ hu => .inr (.inr (Option.some.inj hu).symm)

/-- Values of different kinds have texts that begin differently. -/
theorem kind_eq {x y s : JsString} (hv : IsJson v) (hw : IsJson w) (ht : canonicalize v = .ok t)
    (hs : canonicalize w = .ok s) (h : t ++ x = s ++ y) : v.kind = w.kind := by
  obtain ⟨u, rest, rfl, hu, -⟩ := hv.first_unit ht
  obtain ⟨u', rest', rfl, hu', -⟩ := hw.first_unit hs
  rw [← hu, ← hu', (List.cons.inj h).1]

theorem reads_items {xs ys : List JsValue} {ss ts : List JsString} {x y : JsString}
    (hread : ∀ v ∈ xs, Reads IsText Follows Same v.orNull) (hxs : ∀ v ∈ xs, IsJson v.orNull)
    (hys : ∀ v ∈ ys, IsJson v.orNull) (hss : canonicalizeItems xs = .ok ss) (hts : canonicalizeItems ys = .ok ts)
    (h : List.intercalate (js ",") ss ++ 0x5D :: x = List.intercalate (js ",") ts ++ 0x5D :: y) :
    xs.Forall₂ (fun v w => Same v.orNull w.orNull) ys ∧ x = y := by
  have htexts {items : List JsValue} {texts : List JsString} (hitems : ∀ v ∈ items, IsJson v.orNull)
      (h : canonicalizeItems items = .ok texts) : items.Forall₂ (fun v t => IsText v.orNull t) texts :=
    ((List.forall₂_and_left _ _).mpr ⟨hitems, canonicalizeItems_eq_ok.mp h⟩).imp fun _ _ h => h
  refine reads_separated (T := fun v t => IsText v.orNull t) (by decide) follows_comma follows_bracket ?_
    ?_ (htexts hxs hss) (htexts hys hts) h
  · intro v t ht
    obtain ⟨u, rest, rfl, -, hu⟩ := ht.1.first_unit ht.2
    exact ⟨u, rest, rfl, hu⟩
  · intro v hv w s t x y hs ht
    exact hread v hv w.orNull s t x y hs ht

/-- The text of a property, of which the value is built as it should be. -/
def IsEntryText (p : JsString × JsValue) (entry : JsString) : Prop := IsJson p.2 ∧ IsEntry p entry

theorem reads_entry {p : JsString × JsValue} (h : Reads IsText Follows Same p.2) :
    Reads IsEntryText Follows (fun p q => p.1 = q.1 ∧ Same p.2 q.2) p := by
  rintro q s t x y ⟨hp, value, hvalue, rfl⟩ ⟨hq, value', hvalue', rfl⟩ hx hy heq
  simp only [List.append_assoc] at heq
  obtain ⟨hkey, hrest⟩ := strings_end heq
  obtain ⟨hsame, hend⟩ := h q.2 value value' x y ⟨hp, hvalue⟩ ⟨hq, hvalue'⟩ hx hy (List.append_cancel_left hrest)
  exact ⟨⟨hkey, hsame⟩, hend⟩

theorem reads_entries {ps qs : List (JsString × JsValue)} {ss ts : List JsString} {x y : JsString}
    (hread : ∀ p ∈ ps, Reads IsText Follows Same p.2) (hps : ∀ p ∈ ps, IsJson p.2) (hqs : ∀ q ∈ qs, IsJson q.2)
    (hss : ps.Forall₂ IsEntry ss) (hts : qs.Forall₂ IsEntry ts)
    (h : List.intercalate (js ",") ss ++ 0x7D :: x = List.intercalate (js ",") ts ++ 0x7D :: y) :
    ps.Forall₂ (fun p q => p.1 = q.1 ∧ Same p.2 q.2) qs ∧ x = y := by
  refine reads_separated (T := IsEntryText) (by decide) follows_comma follows_brace ?_
    (fun p hp => reads_entry (hread p hp)) ((List.forall₂_and_left _ _).mpr ⟨hps, hss⟩)
    ((List.forall₂_and_left _ _).mpr ⟨hqs, hts⟩) h
  rintro p _ ⟨-, value, -, rfl⟩
  exact ⟨0x22, _, rfl, by decide⟩

/-! ## Properties in the order of their keys -/

theorem forall₂_left {α β : Type} {R : α → β → Prop} {l : List α} {m : List β} (h : l.Forall₂ R m) :
    ∀ a ∈ l, ∃ b ∈ m, R a b := by
  induction h with
  | nil => exact nofun
  | cons hab _ ih =>
      rw [List.forall_mem_cons]
      exact ⟨⟨_, List.mem_cons_self, hab⟩, fun a ha => (ih a ha).imp fun _ hb => ⟨List.mem_cons_of_mem _ hb.1, hb.2⟩⟩

theorem forall₂_transfer {α β γ : Type} {R : α → β → Prop} {S : α → γ → Prop} {S' : β → γ → Prop} {l : List α}
    {m : List β} {n : List γ} (hR : l.Forall₂ R m) (hS : l.Forall₂ S n)
    (h : ∀ a ∈ l, ∀ b ∈ m, ∀ c, R a b → S a c → S' b c) : m.Forall₂ S' n := by
  induction hR generalizing n with
  | nil =>
      cases hS
      exact .nil
  | cons hab _ ih =>
      cases hS with
      | cons hac hS =>
          refine .cons (h _ List.mem_cons_self _ List.mem_cons_self _ hab hac) (ih hS ?_)
          exact fun a ha b hb => h a (List.mem_cons_of_mem _ ha) b (List.mem_cons_of_mem _ hb)

theorem mem_sortByKey {α : Type} {p : JsString × α} {l : List (JsString × α)} : p ∈ sortByKey l ↔ p ∈ l :=
  List.mem_insertionSort _

/-- A property that is written is one of the object's. -/
theorem mem_sorted {p : JsString × JsValue} {l : List (JsString × JsValue)} :
    p ∈ sortByKey (definedProperties l) ↔ p ∈ l ∧ p.2 ≠ .undefined :=
  mem_sortByKey.trans mem_definedProperties

/-- The keys that are written, in their order. -/
def sortedKeys (properties : List (JsString × JsValue)) : List JsString :=
  (sortByKey (definedProperties properties)).map Prod.fst

theorem nodup_sortedKeys {properties : List (JsString × JsValue)} (hkeys : (properties.map Prod.fst).Nodup) :
    (sortedKeys properties).Nodup := by
  have hdefined : ((definedProperties properties).map Prod.fst).Nodup := hkeys.sublist (List.filter_sublist.map _)
  exact ((List.perm_insertionSort _ _).map Prod.fst).nodup_iff.mpr hdefined

theorem pairwise_sortedKeys (properties : List (JsString × JsValue)) : (sortedKeys properties).Pairwise (· ≤ ·) := by
  have : IsTrans (JsString × JsValue) fun p q => p.1 ≤ q.1 := ⟨fun _ _ _ => List.le_trans⟩
  have : Std.Total fun p q : JsString × JsValue => p.1 ≤ q.1 := ⟨fun p q => List.le_total p.1 q.1⟩
  exact List.pairwise_map.mpr (List.pairwise_insertionSort _ _)

/-- Properties in one order, with the same keys and the same values. -/
theorem same_of_sorted {ps qs : List (JsString × JsValue)} (hkeys : (qs.map Prod.fst).Nodup)
    (h : (sortByKey (definedProperties ps)).Forall₂ (fun p q => p.1 = q.1 ∧ Same p.2 q.2)
      (sortByKey (definedProperties qs))) : Same (.object ps) (.object qs) := by
  have hforth : ∀ p ∈ definedProperties ps, ∃ q ∈ definedProperties qs, p.1 = q.1 ∧ Same p.2 q.2 := by
    intro p hp
    obtain ⟨q, hq, hpq⟩ := forall₂_left h p (mem_sortByKey.mpr hp)
    exact ⟨q, mem_sortByKey.mp hq, hpq⟩
  have hback : ∀ q ∈ definedProperties qs, ∃ p ∈ definedProperties ps, p.1 = q.1 := by
    intro q hq
    obtain ⟨p, hp, hpq⟩ := forall₂_left h.flip q (mem_sortByKey.mpr hq)
    exact ⟨p, mem_sortByKey.mp hp, hpq.1⟩
  refine .object (fun key => ⟨?_, ?_⟩) ?_
  · rintro ⟨v, hv⟩
    obtain ⟨q, hq, hkey, -⟩ := hforth _ hv
    exact ⟨q.2, by rw [show key = q.1 from hkey]; exact hq⟩
  · rintro ⟨w, hw⟩
    obtain ⟨p, hp, hkey⟩ := hback _ hw
    exact ⟨p.2, by rw [show key = p.1 from hkey.symm]; exact hp⟩
  · intro key v w hv hw
    obtain ⟨q, hq, hkey, hsame⟩ := hforth _ hv
    have heq : q = (key, w) := List.inj_on_of_nodup_map hkeys (mem_definedProperties.mp hq).1
      (mem_definedProperties.mp hw).1 hkey.symm
    rwa [heq] at hsame

/-- Equal objects are written from the same keys in one order, with the same values. -/
theorem sorted_of_same {ps qs : List (JsString × JsValue)} (hps : (ps.map Prod.fst).Nodup)
    (hqs : (qs.map Prod.fst).Nodup) (h : Same (.object ps) (.object qs)) :
    (sortByKey (definedProperties ps)).Forall₂ (fun p q => p.1 = q.1 ∧ Same p.2 q.2)
      (sortByKey (definedProperties qs)) := by
  cases h with
  | object hkeys hvalues =>
      have hmem (l : List (JsString × JsValue)) (key : JsString) :
          key ∈ sortedKeys l ↔ ∃ v, (key, v) ∈ definedProperties l := by
        simp only [sortedKeys, List.mem_map, mem_sortByKey, Prod.exists, exists_and_right, exists_eq_right]
      have hperm : (sortedKeys ps).Perm (sortedKeys qs) :=
        (List.perm_ext_iff_of_nodup (nodup_sortedKeys hps) (nodup_sortedKeys hqs)).mpr fun key => by
          rw [hmem, hmem, hkeys]
      have heq : sortedKeys ps = sortedKeys qs :=
        hperm.eq_of_pairwise' (pairwise_sortedKeys ps) (pairwise_sortedKeys qs)
      have hall : (sortByKey (definedProperties ps)).Forall₂ (fun p q => p.1 = q.1)
          (sortByKey (definedProperties qs)) := by
        have hkeys : (sortedKeys ps).Forall₂ (· = ·) (sortedKeys qs) := heq ▸ List.forall₂_refl _
        exact List.forall₂_map_left_iff.mp (List.forall₂_map_right_iff.mp hkeys)
      have hsub := (List.forall₂_and_left _ _).mpr
        ⟨fun p hp => mem_sortByKey.mp hp, ((List.forall₂_and_left _ _).mpr
          ⟨fun q hq => mem_sortByKey.mp hq, hall.flip⟩).flip⟩
      refine hsub.imp ?_
      rintro ⟨key, v⟩ ⟨key', w⟩ ⟨hv, hw, hkey⟩
      obtain rfl : key = key' := hkey
      exact ⟨rfl, hvalues key v w hv hw⟩

/-! ## A text has one value -/

theorem reads_null : Reads IsText Follows Same .null := by
  rintro w s t x y ⟨hv, hs⟩ ⟨hw, ht⟩ - - h
  have hkind := kind_eq hv hw hs ht h
  cases hw <;> cases hkind
  cases hs
  cases ht
  exact ⟨.null, List.append_cancel_left h⟩

theorem reads_number {n : JsNumber} : Reads IsText Follows Same (.number n) := by
  rintro w s t x y ⟨hv, hs⟩ ⟨hw, ht⟩ hx hy h
  have hkind := kind_eq hv hw hs ht h
  cases hv with
  | zero =>
      cases hs
      cases hw with
      | zero =>
          cases ht
          exact ⟨.zero _ _, List.append_cancel_left h⟩
      | finite d =>
          cases ht
          obtain ⟨heq, -⟩ := numerals_end (List.all_eq_true.mp (by decide)) (numericUnit_stringifyNumber d) hx hy h
          exact absurd heq.symm (stringifyNumber_ne_zero d)
      | _ => cases hkind
  | finite d =>
      cases hs
      cases hw with
      | zero =>
          cases ht
          obtain ⟨heq, -⟩ := numerals_end (numericUnit_stringifyNumber d) (List.all_eq_true.mp (by decide)) hx hy h
          exact absurd heq (stringifyNumber_ne_zero d)
      | finite d' =>
          cases ht
          obtain ⟨heq, hend⟩ := numerals_end (numericUnit_stringifyNumber d) (numericUnit_stringifyNumber d') hx hy h
          rw [stringifyNumber_injective heq]
          exact ⟨.finite _, hend⟩
      | _ => cases hkind

theorem reads_array {items : List JsValue} (hread : ∀ v ∈ items, Reads IsText Follows Same v.orNull) :
    Reads IsText Follows Same (.array items) := by
  rintro w s t x y ⟨hv, hs⟩ ⟨hw, ht⟩ - - h
  have hkind := kind_eq hv hw hs ht h
  cases hv with
  | array hitems =>
      cases hw with
      | array hitems' =>
          rw [canonicalize, Js.bind_eq_ok] at hs ht
          obtain ⟨ss, hss, hs⟩ := hs
          obtain ⟨ts, hts, ht⟩ := ht
          cases hs
          cases ht
          have hbrackets : js "[" = [0x5B] ∧ js "]" = [0x5D] := ⟨rfl, rfl⟩
          simp only [hbrackets, List.append_assoc, List.singleton_append, List.cons_append, List.cons.injEq,
            true_and] at h
          obtain ⟨hsame, hend⟩ := reads_items hread (fun v hv => isJson_orNull (hitems v hv))
            (fun v hv => isJson_orNull (hitems' v hv)) hss hts h
          exact ⟨.array hsame, hend⟩
      | _ => cases hkind

theorem reads_object {ps : List (JsString × JsValue)}
    (hread : ∀ p ∈ ps, p.2 ≠ .undefined → Reads IsText Follows Same p.2) :
    Reads IsText Follows Same (.object ps) := by
  rintro w s t x y ⟨hv, hs⟩ ⟨hw, ht⟩ - - h
  have hkind := kind_eq hv hw hs ht h
  cases hv with
  | object _ hvalues =>
      cases hw with
      | object hkeys' hvalues' =>
          obtain ⟨ss, hss, rfl⟩ := canonicalize_object_eq_ok.mp hs
          obtain ⟨ts, hts, rfl⟩ := canonicalize_object_eq_ok.mp ht
          have hbraces : js "\x7b" = [0x7B] ∧ js "\x7d" = [0x7D] := ⟨rfl, rfl⟩
          simp only [hbraces, List.append_assoc, List.singleton_append, List.cons_append, List.cons.injEq,
            true_and] at h
          obtain ⟨hsame, hend⟩ := reads_entries (fun p hp => hread p (mem_sorted.mp hp).1 (mem_sorted.mp hp).2)
            (fun p hp => hvalues p (mem_sorted.mp hp).1 (mem_sorted.mp hp).2)
            (fun q hq => hvalues' q (mem_sorted.mp hq).1 (mem_sorted.mp hq).2) hss hts h
          exact ⟨same_of_sorted hkeys' hsame, hend⟩
      | _ => cases hkind

/-- **A value can be read off where its text begins.** -/
theorem IsJson.reads (hv : IsJson v) : Reads IsText Follows Same v := by
  induction hv with
  | null => exact reads_null
  | boolean b =>
      rintro w s t x y ⟨hv, hs⟩ ⟨hw, ht⟩ - - h
      have hkind := kind_eq hv hw hs ht h
      cases hw with
      | boolean b' =>
          cases hs
          cases ht
          cases b <;> cases b'
          · exact ⟨.boolean _, List.append_cancel_left h⟩
          · exact absurd (List.cons.inj h).1 (by decide)
          · exact absurd (List.cons.inj h).1 (by decide)
          · exact ⟨.boolean _, List.append_cancel_left h⟩
      | _ => cases hkind
  | zero _ | finite _ => exact reads_number
  | string =>
      rintro w s t x y ⟨hv, hs⟩ ⟨hw, ht⟩ - - h
      have hkind := kind_eq hv hw hs ht h
      cases hw with
      | string =>
          cases hs
          cases ht
          obtain ⟨rfl, hend⟩ := strings_end h
          exact ⟨.string _, hend⟩
      | _ => cases hkind
  | array _ ih =>
      refine reads_array fun v hv => ?_
      by_cases hu : v = .undefined
      · rw [hu]
        exact reads_null
      · rw [orNull_of_ne hu]
        exact ih v hv hu
  | object _ _ ih => exact reads_object ih

/-! ## Equal values have one text -/

theorem Same.text {v w : JsValue} (hv : IsJson v) (hw : IsJson w) (hsame : Same v w) {t : JsString}
    (ht : canonicalize v = .ok t) : canonicalize w = .ok t := by
  induction hv generalizing w t with
  | null | boolean _ | zero _ | finite _ | string _ =>
      cases hsame
      exact ht
  | @array _ _ ih =>
      cases hsame with
      | @array _ _ hsame =>
          cases hw with
          | array hitems' =>
              rw [canonicalize, Js.bind_eq_ok] at ht
              obtain ⟨texts, htexts, ht⟩ := ht
              refine Js.bind_eq_ok.mpr ⟨texts, canonicalizeItems_eq_ok.mpr ?_, ht⟩
              refine forall₂_transfer hsame (canonicalizeItems_eq_ok.mp htexts) fun v hv w hw t hvw ht => ?_
              by_cases hu : v = .undefined
              · rw [hu] at hvw ht
                generalize w.orNull = w' at hvw
                cases hvw
                exact ht
              · rw [orNull_of_ne hu] at hvw ht
                exact ih v hv hu (isJson_orNull (hitems' w hw)) hvw ht
  | @object _ hkeys _ ih =>
      cases hw with
      | @object _ hkeys' hvalues' =>
          obtain ⟨entries, hentries, rfl⟩ := canonicalize_object_eq_ok.mp ht
          refine canonicalize_object_eq_ok.mpr ⟨entries, ?_, rfl⟩
          refine forall₂_transfer (sorted_of_same hkeys hkeys' hsame) hentries ?_
          rintro p hp q hq entry ⟨hkey, hpq⟩ ⟨value, hvalue, rfl⟩
          obtain ⟨hp, hpu⟩ := mem_sorted.mp hp
          obtain ⟨hq, hqu⟩ := mem_sorted.mp hq
          exact ⟨value, ih p hp hpu (hvalues' q hq hqu) hpq hvalue, by rw [hkey]⟩
      | _ => cases hsame

/-- **Canonical text is an injective encoding**: of values built from `null`, booleans, finite numbers, strings, arrays
and objects, the equal ones and no others have one text. -/
theorem canonicalize_eq_iff (hv : IsJson v) (hw : IsJson w) :
    (∃ t, canonicalize v = .ok t) ∧ (canonicalize v = canonicalize w ↔ Same v w) := by
  obtain ⟨t, ht⟩ := hv.exists_text
  obtain ⟨s, hs⟩ := hw.exists_text
  refine ⟨⟨t, ht⟩, fun h => ?_, fun h => ?_⟩
  · have hend : Follows [] := fun _ hu => by cases hu
    have htext : t ++ [] = s ++ [] := by rw [Except.ok.inj (ht.symm.trans (h.trans hs))]
    exact (hv.reads w t s [] [] ⟨hv, ht⟩ ⟨hw, hs⟩ hend hend htext).1
  · rw [ht, h.text hv hw ht]

/-- One object with its properties in another order, one that is `undefined`, an item that is, and the other zero. -/
def unordered : JsValue :=
  .object [(js "b", .array [.undefined, .number (.zero true)]), (js "a", .string (js "x")), (js "c", .undefined)]

def ordered : JsValue := .object [(js "a", .string (js "x")), (js "b", .array [.null, .number (.zero false)])]

theorem ordered_text : canonicalize unordered = canonicalize ordered := by
  have hunordered : IsJson unordered := by
    have hitems : ∀ v ∈ [JsValue.undefined, .number (.zero true)], v ≠ .undefined → IsJson v := by
      simpa using IsJson.zero true
    refine .object (by decide) ?_
    simpa using ⟨IsJson.array hitems, IsJson.string _⟩
  have hordered : IsJson ordered := by
    have hitems : ∀ v ∈ [JsValue.null, .number (.zero false)], v ≠ .undefined → IsJson v := by
      simpa using ⟨IsJson.null, IsJson.zero false⟩
    refine .object (by decide) ?_
    simpa using ⟨IsJson.string _, IsJson.array hitems⟩
  refine (canonicalize_eq_iff hunordered hordered).2.mpr (same_of_sorted (by decide) ?_)
  exact .cons ⟨rfl, .string _⟩ (.cons ⟨rfl, .array (.cons .null (.cons (.zero true false) .nil))⟩ .nil)

end BridgeWatch

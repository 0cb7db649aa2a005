/-
Encodings of a fixed width.

An encoding of the values in a set by the words of one length is a bijection between
the two. Such encodings compose by concatenation, for a pair and along a list, so a
format whose widths are all known in advance is a bijection as well: it can be read
back, and every word of the right length is the encoding of something.
-/
import Mathlib.Algebra.Ring.Nat
import Mathlib.Data.Set.Function
import Mathlib.Data.Set.Prod
import Mathlib.Tactic.Common

set_option autoImplicit false

namespace FixedWidth

variable {σ α β : Type}

/-- `f` encodes the values in `S` by the words of length `w`. -/
def Encodes (f : α → List σ) (S : Set α) (w : ℕ) : Prop :=
  Set.BijOn f S {word | word.length = w}

variable {f : α → List σ} {g : β → List σ} {S : Set α} {T : Set β} {w v : ℕ}

theorem Encodes.length_eq (h : Encodes f S w) {a : α} (ha : a ∈ S) : (f a).length = w :=
  h.mapsTo ha

/-- Every word of the right length is the encoding of something. -/
theorem Encodes.exists_eq (h : Encodes f S w) {word : List σ} (hword : word.length = w) :
    ∃ a ∈ S, f a = word :=
  h.surjOn hword

/-- An encoding that can be read back. -/
theorem Encodes.of_inverse (read : List σ → α) (hlength : ∀ a ∈ S, (f a).length = w)
    (hmem : ∀ word : List σ, word.length = w → read word ∈ S) (hleft : ∀ a ∈ S, read (f a) = a)
    (hright : ∀ word : List σ, word.length = w → f (read word) = word) : Encodes f S w :=
  Set.InvOn.bijOn ⟨hleft, hright⟩ hlength hmem

/-- A word encodes itself. -/
theorem encodes_self (w : ℕ) : Encodes (fun word : List σ => word) {word | word.length = w} w :=
  Set.bijOn_id _

/-- The encoding of values that `c` builds from their parts. -/
theorem Encodes.of_parts (c : β → α) (h : Encodes (fun b => f (c b)) T w)
    (hS : ∀ a, a ∈ S ↔ ∃ b ∈ T, c b = a) : Encodes f S w := by
  refine ⟨?_, ?_, ?_⟩
  · intro a ha
    obtain ⟨b, hb, rfl⟩ := (hS a).mp ha
    exact h.mapsTo hb
  · intro a ha a' ha' heq
    obtain ⟨b, hb, rfl⟩ := (hS a).mp ha
    obtain ⟨b', hb', rfl⟩ := (hS a').mp ha'
    exact congrArg c (h.injOn hb hb' heq)
  · intro word hword
    obtain ⟨b, hb, heq⟩ := h.surjOn hword
    exact ⟨c b, (hS _).mpr ⟨b, hb, rfl⟩, heq⟩

/-- **Pairs.** -/
theorem Encodes.append (hf : Encodes f S w) (hg : Encodes g T v) :
    Encodes (fun p : α × β => f p.1 ++ g p.2) (S ×ˢ T) (w + v) := by
  refine ⟨?_, ?_, ?_⟩
  · rintro ⟨a, b⟩ ⟨ha, hb⟩
    exact List.length_append.trans (congrArg₂ (· + ·) (hf.length_eq ha) (hg.length_eq hb))
  · rintro ⟨a, b⟩ ⟨ha, hb⟩ ⟨a', b'⟩ ⟨ha', hb'⟩ heq
    have hlength : (f a).length = (f a').length := by rw [hf.length_eq ha, hf.length_eq ha']
    obtain ⟨hfirst, hsecond⟩ := List.append_inj heq hlength
    exact Prod.ext (hf.injOn ha ha' hfirst) (hg.injOn hb hb' hsecond)
  · intro word hword
    have hword : word.length = w + v := hword
    have htake : (word.take w).length = w := by
      rw [List.length_take]
      omega
    have hdrop : (word.drop w).length = v := by
      rw [List.length_drop]
      omega
    obtain ⟨a, ha, hfirst⟩ := hf.exists_eq htake
    obtain ⟨b, hb, hsecond⟩ := hg.exists_eq hdrop
    refine ⟨(a, b), ⟨ha, hb⟩, ?_⟩
    dsimp only
    rw [hfirst, hsecond, List.take_append_drop]

/-- **Lists.** The values come in kinds, and the kinds of the entries are known. -/
theorem Encodes.flatMap {κ : Type} {kind : α → κ} {width : κ → ℕ}
    (hf : ∀ k, Encodes f {a | kind a = k} (width k)) (ks : List κ) :
    Encodes (List.flatMap f) {l | l.map kind = ks} (ks.map width).sum := by
  induction ks with
  | nil =>
      refine ⟨?_, ?_, ?_⟩
      · intro l hl
        rw [List.map_eq_nil_iff.mp hl]
        rfl
      · rintro l hl l' hl' -
        rw [List.map_eq_nil_iff.mp hl, List.map_eq_nil_iff.mp hl']
      · intro word hword
        exact ⟨[], rfl, (List.length_eq_zero_iff.mp hword).symm⟩
  | cons k ks ih =>
      have hpair := (hf k).append ih
      have hmem {a : α} {l : List α} (ha : kind a = k) (hl : l.map kind = ks) :
          (a, l) ∈ {a | kind a = k} ×ˢ {l : List α | l.map kind = ks} := ⟨ha, hl⟩
      refine ⟨?_, ?_, ?_⟩
      · intro l hl
        obtain ⟨a, l, rfl, ha, hl⟩ := List.map_eq_cons_iff.mp hl
        exact hpair.mapsTo (hmem ha hl)
      · intro l hl l' hl' heq
        obtain ⟨a, l, rfl, ha, hl⟩ := List.map_eq_cons_iff.mp hl
        obtain ⟨a', l', rfl, ha', hl'⟩ := List.map_eq_cons_iff.mp hl'
        obtain ⟨rfl, rfl⟩ := Prod.mk.inj (hpair.injOn (hmem ha hl) (hmem ha' hl') heq)
        rfl
      · intro word hword
        obtain ⟨⟨a, l⟩, ⟨ha, hl⟩, heq⟩ := hpair.exists_eq hword
        exact ⟨a :: l, List.map_eq_cons_iff.mpr ⟨a, l, rfl, ha, hl⟩, heq⟩

end FixedWidth

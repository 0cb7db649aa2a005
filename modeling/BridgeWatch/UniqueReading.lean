/-
Texts that can be read from the left.

A relation between values and texts says what is written for a value. A value can be read off where its text begins
when the text ends in only one place, whatever comes after it. Often not everything may come after it: a numeral can be
read off before a comma, but not before a digit. Values that can be read off can be read off one by one, where nothing
separates them and where a mark does, and also after an index of their keys.
-/
import Mathlib.Data.List.Forall2
import Mathlib.Tactic.Common

set_option autoImplicit false

namespace UniqueReading

variable {σ α β : Type}

/-- Where a text of `a` and a text of `b` begin the same way, before what `F` allows, `a` and `b` are related by `Q` and
the same is left. -/
def Reads (T : α → List σ → Prop) (F : List σ → Prop) (Q : α → α → Prop) (a : α) : Prop :=
  ∀ b s t x y, T a s → T b t → F x → F y → s ++ x = t ++ y → Q a b ∧ x = y

variable {T : α → List σ → Prop} {F : List σ → Prop} {Q : α → α → Prop} {as bs : List α} {ss ts : List (List σ)}

/-- **One after the other**, up to the end, when no text is empty. -/
theorem reads_flatten (hread : ∀ a ∈ as, Reads T (fun _ => True) Q a) (hnil : ∀ a, ¬T a [])
    (has : as.Forall₂ T ss) (hbs : bs.Forall₂ T ts) (h : ss.flatten = ts.flatten) : as.Forall₂ Q bs := by
  induction has generalizing bs ts with
  | nil =>
      cases hbs with
      | nil => exact .nil
      | @cons b t _ _ hbt =>
          obtain rfl : t = [] := (List.append_eq_nil_iff.mp h.symm).1
          exact absurd hbt (hnil b)
  | @cons a s _ _ hat _ ih =>
      cases hbs with
      | nil =>
          obtain rfl : s = [] := (List.append_eq_nil_iff.mp h).1
          exact absurd hat (hnil a)
      | cons hbt hbs =>
          obtain ⟨hread, hreads⟩ := List.forall_mem_cons.mp hread
          obtain ⟨hab, hrest⟩ := hread _ _ _ _ _ hat hbt trivial trivial h
          exact .cons hab (ih hreads hbs hrest)

section Indexed

variable {κ : Type} {K : κ → List σ → Prop} {key : α → κ} {ks ls : List κ} {us vs : List (List σ)} {x y : List σ}

/-- Of two lists that begin the same way, one goes on where the other ends. -/
theorem reads_before (hkey : ∀ k, Reads K (fun _ => True) (· = ·) k) (hks : ks.Forall₂ K us) (hls : ls.Forall₂ K vs)
    (h : us.flatten ++ x = vs.flatten ++ y) :
    (∃ more texts, more.Forall₂ K texts ∧ ls = ks ++ more ∧ x = texts.flatten ++ y) ∨
      ∃ more texts, more.Forall₂ K texts ∧ ks = ls ++ more ∧ y = texts.flatten ++ x := by
  induction hks generalizing ls vs with
  | nil => exact .inl ⟨ls, vs, hls, rfl, h⟩
  | @cons k u ks us hku hks ih =>
      cases hls with
      | nil => exact .inr ⟨k :: ks, u :: us, .cons hku hks, rfl, h.symm⟩
      | @cons l v _ _ hlv hls =>
          simp only [List.flatten_cons, List.append_assoc] at h
          obtain ⟨rfl, hrest⟩ := hkey k l u v _ _ hku hlv trivial trivial h
          rcases ih hls hrest with ⟨more, texts, htexts, rfl, hx⟩ | ⟨more, texts, htexts, rfl, hy⟩
          · exact .inl ⟨more, texts, htexts, rfl, hx⟩
          · exact .inr ⟨more, texts, htexts, rfl, hy⟩

/-- No key of an index can be read where the records begin, because the first record begins with the first key. -/
theorem index_ends (hkey : ∀ k, Reads K (fun _ => True) (· = ·) k) (hnil : ∀ k, ¬K k [])
    (hbegin : ∀ a s, T a s → ∃ t rest, K (key a) t ∧ s = t ++ rest) (has : as.Forall₂ T ss) (hks : ks.Forall₂ K us)
    (hnodup : (as.map key ++ ks).Nodup) (h : ss.flatten = us.flatten ++ y) : ks = [] := by
  cases hks with
  | nil => rfl
  | @cons k u _ _ hku =>
      cases has with
      | nil =>
          rw [List.flatten_nil, List.flatten_cons, List.append_assoc, eq_comm, List.append_eq_nil_iff] at h
          obtain rfl : u = [] := h.1
          exact absurd hku (hnil k)
      | @cons a s _ _ has =>
          obtain ⟨t, rest, hkt, rfl⟩ := hbegin a s has
          simp only [List.flatten_cons, List.append_assoc] at h
          obtain ⟨rfl, -⟩ := hkey (key a) k t u _ _ hkt hku trivial trivial h
          simp at hnodup

/-- **An index before the records.** The keys of the records, each once, and then the records can be told apart, though
nothing says where the keys end. -/
theorem reads_indexed (hkey : ∀ k, Reads K (fun _ => True) (· = ·) k) (hnil : ∀ k, ¬K k [])
    (hbegin : ∀ a s, T a s → ∃ t rest, K (key a) t ∧ s = t ++ rest) (hread : ∀ a, Reads T (fun _ => True) Q a)
    (has : as.Forall₂ T ss) (hks : (as.map key).Forall₂ K us) (hnodup : (as.map key).Nodup)
    (hbs : bs.Forall₂ T ts) (hls : (bs.map key).Forall₂ K vs) (hnodup' : (bs.map key).Nodup)
    (h : us.flatten ++ ss.flatten = vs.flatten ++ ts.flatten) : as.Forall₂ Q bs := by
  have hempty : ∀ a, ¬T a [] := by
    intro a ha
    obtain ⟨t, rest, ht, heq⟩ := hbegin a [] ha
    obtain rfl : t = [] := (List.append_eq_nil_iff.mp heq.symm).1
    exact hnil _ ht
  rcases reads_before hkey hks hls h with ⟨more, texts, htexts, hmore, hrest⟩ | ⟨more, texts, htexts, hmore, hrest⟩
  · obtain rfl := index_ends hkey hnil hbegin has htexts (hmore ▸ hnodup') hrest
    cases htexts
    exact reads_flatten (fun a _ => hread a) hempty has hbs hrest
  · obtain rfl := index_ends hkey hnil hbegin hbs htexts (hmore ▸ hnodup) hrest
    cases htexts
    exact reads_flatten (fun a _ => hread a) hempty has hbs hrest.symm

end Indexed

section Separated

variable {sep closing : σ} {x y : List σ}

/-- What comes after a text in a list that is closed. -/
def after (sep closing : σ) (x : List σ) : List (List σ) → List σ
  | [] => closing :: x
  | ss => sep :: (List.intercalate [sep] ss ++ closing :: x)

theorem intercalate_cons (s : List σ) (ss : List (List σ)) :
    List.intercalate [sep] (s :: ss) ++ closing :: x = s ++ after sep closing x ss := by
  cases ss with
  | nil => rw [List.intercalate_singleton, after]
  | cons => simp [after, List.intercalate_cons_cons]

/-- What comes after a text in such a list is allowed. -/
theorem allowed_after (hsep : ∀ x, F (sep :: x)) (hclosing : ∀ x, F (closing :: x)) : F (after sep closing x ss) := by
  cases ss with
  | nil => exact hclosing x
  | cons => exact hsep _

/-- **Separated by a mark**, up to one that closes the list and that no text begins with. -/
theorem reads_separated (hne : sep ≠ closing) (hsep : ∀ x, F (sep :: x)) (hclosing : ∀ x, F (closing :: x))
    (hopen : ∀ a s, T a s → ∃ u rest, s = u :: rest ∧ u ≠ closing) (hread : ∀ a ∈ as, Reads T F Q a)
    (has : as.Forall₂ T ss) (hbs : bs.Forall₂ T ts)
    (h : List.intercalate [sep] ss ++ closing :: x = List.intercalate [sep] ts ++ closing :: y) :
    as.Forall₂ Q bs ∧ x = y := by
  have hcloses {a s z w} (hs : T a s) : ¬closing :: z = s ++ w := by
    obtain ⟨u, rest, rfl, hu⟩ := hopen a s hs
    exact fun heq => hu (List.cons.inj heq).1.symm
  induction has generalizing bs ts with
  | nil =>
      cases hbs with
      | nil => exact ⟨.nil, (List.cons.inj h).2⟩
      | cons hbt =>
          rw [intercalate_cons] at h
          exact absurd h (hcloses hbt)
  | @cons a _ _ _ hat has ih =>
      cases hbs with
      | nil =>
          rw [intercalate_cons] at h
          exact absurd h.symm (hcloses hat)
      | @cons _ _ _ _ hbt hbs =>
          obtain ⟨hread, hreads⟩ := List.forall_mem_cons.mp hread
          rw [intercalate_cons, intercalate_cons] at h
          obtain ⟨hab, hrest⟩ := hread _ _ _ _ _ hat hbt (allowed_after hsep hclosing) (allowed_after hsep hclosing) h
          -- The lists end at the same text, or both go on with a mark.
          cases has with
          | nil =>
              cases hbs with
              | nil => exact ⟨.cons hab .nil, (List.cons.inj hrest).2⟩
              | cons => exact absurd (List.cons.inj hrest).1.symm hne
          | cons =>
              cases hbs with
              | nil => exact absurd (List.cons.inj hrest).1 hne
              | cons hbt' hbs =>
                  obtain ⟨hall, hend⟩ := ih hreads (.cons hbt' hbs) (List.cons.inj hrest).2
                  exact ⟨.cons hab hall, hend⟩

end Separated

end UniqueReading

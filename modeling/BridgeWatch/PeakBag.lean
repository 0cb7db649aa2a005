/-
Bagging: folding a list of peaks from the right into one digest.

`bag` hashes the first peak with the bag of the others, so it is a climb along
right sides only, and it binds less than a tree does. `Folded ps qs` names
exactly what it leaves open: `qs` lists the peaks `ps`, with some tail of `ps`
already bagged and listed as if it were one peak. `bag_eq_iff` says that, over
collision-free inputs, these lists and no others have the bag of `ps`, and
`bag_inj` that the ambiguity is gone when bags are recognisable as such.
-/
import Mathlib.Data.Set.Function
import Mathlib.Data.List.Basic
import Mathlib.Tactic.Common

set_option autoImplicit false

namespace PeakBag

variable {D : Type*} (mg : D → D → D) (zero : D)

/-- Bag the peaks from the right; `zero` stands for no peaks at all. -/
def bag : List D → D
  | [] => zero
  | [p] => p
  | p :: q :: ps => mg p (bag (q :: ps))

/-- The inputs of the hashes of a bagging. -/
def bagInputs : List D → List (D × D)
  | p :: q :: ps => (p, bag mg zero (q :: ps)) :: bagInputs (q :: ps)
  | _ => []

theorem bag_cons (p : D) {ps : List D} (h : ps ≠ []) :
    bag mg zero (p :: ps) = mg p (bag mg zero ps) := by
  cases ps with
  | nil => exact absurd rfl h
  | cons => rfl

theorem bagInputs_cons (p : D) {ps : List D} (h : ps ≠ []) :
    bagInputs mg zero (p :: ps) = (p, bag mg zero ps) :: bagInputs mg zero ps := by
  cases ps with
  | nil => exact absurd rfl h
  | cons => rfl

/-- The bag as a loop from the last peak down to the first. -/
theorem bag_eq_foldl (ps : List D) (last : D) :
    bag mg zero (ps ++ [last]) = ps.reverse.foldl (fun acc p => mg p acc) last := by
  induction ps with
  | nil => rfl
  | cons p _ ih =>
      rw [List.cons_append, bag_cons mg zero p (by simp), ih, List.reverse_cons,
        List.foldl_append]
      rfl

/-- A bag of two peaks or more is a hash of one of its inputs. -/
theorem bag_mem_inputs {ps : List D} (h : 2 ≤ ps.length) :
    ∃ x ∈ bagInputs mg zero ps, bag mg zero ps = mg x.1 x.2 := by
  rcases ps with _ | ⟨p, _ | ⟨q, ps⟩⟩
  · simp at h
  · simp at h
  · exact ⟨_, List.mem_cons_self, rfl⟩

theorem bagInputs_append_subset (ps : List D) {qs : List D} (h : qs ≠ []) :
    bagInputs mg zero qs ⊆ bagInputs mg zero (ps ++ qs) := by
  induction ps with
  | nil => exact List.Subset.refl _
  | cons p _ ih =>
      rw [List.cons_append, bagInputs_cons mg zero p (by simp [h])]
      intro x hx
      exact List.mem_cons_of_mem _ (ih hx)

/-- Two hashes without a common output bag a list alike only where neither hashes. -/
theorem bag_eq_bag_iff {mg' : D → D → D} {ps : List D}
    (hne : ∀ x ∈ bagInputs mg zero ps, ∀ y ∈ bagInputs mg' zero ps, mg x.1 x.2 ≠ mg' y.1 y.2) :
    bag mg zero ps = bag mg' zero ps ↔ ps.length ≤ 1 := by
  constructor
  · intro h
    by_contra hlen
    obtain ⟨x, hx, heq⟩ := bag_mem_inputs mg zero (Nat.lt_of_not_le hlen)
    obtain ⟨y, hy, heq'⟩ := bag_mem_inputs mg' zero (Nat.lt_of_not_le hlen)
    exact hne x hx y hy (heq.symm.trans (h.trans heq'))
  · intro h
    rcases ps with _ | ⟨p, _ | ⟨q, ps⟩⟩
    · rfl
    · rfl
    · simp at h

/-- A map that commutes with the hash commutes with bagging. -/
theorem bag_map {E : Type*} {mg : D → D → D} {mg' : E → E → E} (f : D → E)
    (hf : ∀ l r, f (mg l r) = mg' (f l) (f r)) (zero : D) (ps : List D) :
    bag mg' (f zero) (ps.map f) = f (bag mg zero ps) := by
  induction ps with
  | nil => rfl
  | cons p ps ih =>
      by_cases h : ps = []
      · subst h; rfl
      · rw [List.map_cons, bag_cons mg' _ _ (by simpa using h), bag_cons mg zero p h, ih, hf]

/-- `qs` lists the peaks `ps`, a tail of them possibly bagged already. -/
inductive Folded : List D → List D → Prop
  | last {ps : List D} (h : ps ≠ []) : Folded ps [bag mg zero ps]
  | cons (p : D) {ps qs : List D} (h : Folded ps qs) : Folded (p :: ps) (p :: qs)

variable {mg zero}

theorem Folded.ne_nil {ps qs : List D} (h : Folded mg zero ps qs) : ps ≠ [] ∧ qs ≠ [] := by
  cases h with
  | last h => exact ⟨h, by simp⟩
  | cons => simp

/-- A folded list has the same bag. -/
theorem Folded.bag_eq {ps qs : List D} (h : Folded mg zero ps qs) :
    bag mg zero qs = bag mg zero ps := by
  induction h with
  | last => rfl
  | cons p h ih => rw [bag_cons mg zero p h.ne_nil.2, bag_cons mg zero p h.ne_nil.1, ih]

/-- Reading a folded list at one of its entries: what stands before the entry
are unfolded peaks, and the entry is either the next peak or, at the end, the
bag of all that remain. -/
theorem folded_append_cons {ps bs cs : List D} {x : D} :
    Folded mg zero ps (bs ++ x :: cs) ↔
      ∃ ts, ps = bs ++ ts ∧
        ((cs = [] ∧ ts ≠ [] ∧ x = bag mg zero ts) ∨
          ∃ us, ts = x :: us ∧ Folded mg zero us cs) := by
  induction bs generalizing ps with
  | nil =>
      constructor
      · intro h
        refine ⟨ps, rfl, ?_⟩
        cases h with
        | last h => exact Or.inl ⟨rfl, h, rfl⟩
        | cons _ h => exact Or.inr ⟨_, rfl, h⟩
      · rintro ⟨ts, rfl, ⟨rfl, hts, rfl⟩ | ⟨us, rfl, h⟩⟩
        · exact Folded.last hts
        · exact Folded.cons x h
  | cons b bs ih =>
      constructor
      · intro h
        rw [List.cons_append] at h
        cases hqs : bs ++ x :: cs with
        | nil => simp at hqs
        | cons =>
            rw [hqs] at h
            cases h with
            | cons _ h =>
                rw [← hqs] at h
                obtain ⟨ts, rfl, hts⟩ := ih.mp h
                exact ⟨ts, rfl, hts⟩
      · rintro ⟨ts, rfl, hts⟩
        exact Folded.cons b (ih.mpr ⟨ts, rfl, hts⟩)

/-- **What a bag binds.** The lists with the bag of `ps` are those that list
`ps` up to a bagged tail. The peaks themselves must not be bags (`hpeak`). -/
theorem bag_eq_iff {S : Set (D × D)} (hinj : Set.InjOn (Function.uncurry mg) S)
    {ps qs : List D} (hps : ps ≠ []) (hqs : qs ≠ [])
    (hpS : ∀ x ∈ bagInputs mg zero ps, x ∈ S) (hqS : ∀ x ∈ bagInputs mg zero qs, x ∈ S)
    (hpeak : ∀ p ∈ ps, ∀ x ∈ S, p ≠ mg x.1 x.2) :
    bag mg zero qs = bag mg zero ps ↔ Folded mg zero ps qs := by
  refine ⟨?_, Folded.bag_eq⟩
  induction qs generalizing ps with
  | nil => exact absurd rfl hqs
  | cons q qs ih =>
      intro h
      by_cases hqs' : qs = []
      · subst hqs'
        have hq : q = bag mg zero ps := h
        rw [hq]
        exact Folded.last hps
      · rw [bagInputs_cons mg zero q hqs'] at hqS
        rw [bag_cons mg zero q hqs'] at h
        rcases ps with _ | ⟨p, ps⟩
        · exact absurd rfl hps
        by_cases hps' : ps = []
        · -- one peak only: it would be the hash of a bagging
          subst hps'
          exact absurd h.symm (hpeak p (by simp) _ (hqS _ List.mem_cons_self))
        · rw [bagInputs_cons mg zero p hps'] at hpS
          rw [bag_cons mg zero p hps'] at h
          have heq := hinj (hqS _ List.mem_cons_self) (hpS _ List.mem_cons_self) h
          obtain ⟨rfl, htail⟩ := Prod.mk.injEq _ _ _ _ ▸ heq
          exact Folded.cons q (ih hps' hqs'
            (fun x hx => hpS x (List.mem_cons_of_mem _ hx))
            (fun x hx => hqS x (List.mem_cons_of_mem _ hx))
            (fun p hp => hpeak p (List.mem_cons_of_mem _ hp)) htail)

/-- Two lists of peaks with one bag are equal when no peak of either is itself
a bag. -/
theorem bag_inj {S : Set (D × D)} (hinj : Set.InjOn (Function.uncurry mg) S)
    {ps qs : List D} (hps : ps ≠ []) (hqs : qs ≠ [])
    (hpS : ∀ x ∈ bagInputs mg zero ps, x ∈ S) (hqS : ∀ x ∈ bagInputs mg zero qs, x ∈ S)
    (hp : ∀ p ∈ ps, ∀ x ∈ S, p ≠ mg x.1 x.2) (hq : ∀ q ∈ qs, ∀ x ∈ S, q ≠ mg x.1 x.2)
    (h : bag mg zero qs = bag mg zero ps) : qs = ps := by
  have hfold := (bag_eq_iff hinj hps hqs hpS hqS hp).mp h
  clear h hps hqs hp hqS hinj
  induction hfold with
  | @last ps hne =>
      rcases Nat.lt_or_ge ps.length 2 with hlt | hge
      · obtain ⟨p, rfl⟩ := List.length_eq_one_iff.mp
          (le_antisymm (Nat.le_of_lt_succ hlt) (List.length_pos_iff.mpr hne))
        rfl
      · obtain ⟨x, hx, heq⟩ := bag_mem_inputs mg zero hge
        exact absurd heq (hq _ (by simp) x (hpS x hx))
  | cons p hf ih =>
      rw [bagInputs_cons mg zero p hf.ne_nil.1] at hpS
      rw [ih (fun x hx => hpS x (List.mem_cons_of_mem _ hx))
        (fun q hq' => hq q (List.mem_cons_of_mem _ hq'))]

end PeakBag

/-
Catalogues.

Each item has a class or is not catalogued, and the index of a class lists the items of that class, each once. Putting
an item that is not catalogued into the index of a class keeps this, and so does taking one out of the index of its
class; an item that changes its class is taken out and put in again.

Of each item the last versions are kept, up to a limit. Their numbers are consecutive and end at the number of the
current one.
-/
import Mathlib.Data.List.Nodup
import Mathlib.Data.List.Range
import Mathlib.Logic.Function.Basic

set_option autoImplicit false

namespace Catalogue

/-! ## Indices -/

section Indices

variable {α κ : Type} [DecidableEq α] [DecidableEq κ]

/-- The indices of the classes list each item in its own class, once. -/
structure Sorts (index : κ → List α) (cls : α → Option κ) : Prop where
  nodup : ∀ k, (index k).Nodup
  mem_iff : ∀ k a, a ∈ index k ↔ cls a = some k

/-- An item is put into the index of a class, if it is not there. -/
def add (index : κ → List α) (k : κ) (a : α) : κ → List α :=
  Function.update index k (if a ∈ index k then index k else index k ++ [a])

/-- An item is taken out of the index of a class. -/
def drop (index : κ → List α) (k : κ) (a : α) : κ → List α :=
  Function.update index k ((index k).filter (· ≠ a))

variable {index : κ → List α} {cls : α → Option κ} {k : κ} {a : α}

omit [DecidableEq α] [DecidableEq κ] in
theorem Sorts.empty : Sorts (fun _ : κ => ([] : List α)) fun _ => none where
  nodup _ := List.nodup_nil
  mem_iff k a := by simp

omit [DecidableEq α] in
/-- How often an item occurs in the index of a class. -/
theorem Sorts.count [BEq α] [LawfulBEq α] (h : Sorts index cls) (k : κ) (a : α) :
    (index k).count a = if cls a = some k then 1 else 0 := by
  by_cases ha : cls a = some k
  · rw [if_pos ha]
    exact List.count_eq_one_of_mem (h.nodup k) ((h.mem_iff k a).mpr ha)
  · rw [if_neg ha]
    exact List.count_eq_zero.mpr fun hmem => ha ((h.mem_iff k a).mp hmem)

/-- A new item goes into the index of its class. -/
theorem Sorts.add (h : Sorts index cls) (hnew : cls a = none) :
    Sorts (add index k a) (Function.update cls a (some k)) := by
  have hnot : ∀ k', a ∉ index k' := fun k' hmem => by
    rw [h.mem_iff, hnew] at hmem
    cases hmem
  have hadd : Catalogue.add index k a = Function.update index k (index k ++ [a]) := by
    rw [Catalogue.add, if_neg (hnot k)]
  rw [hadd]
  constructor
  · intro k'
    by_cases hk : k' = k
    · subst hk
      rw [Function.update_self, List.nodup_append]
      refine ⟨h.nodup k', List.nodup_singleton a, ?_⟩
      rintro b hb c hc rfl
      exact hnot k' (List.mem_singleton.mp hc ▸ hb)
    · rw [Function.update_of_ne hk]
      exact h.nodup k'
  · intro k' b
    by_cases hb : b = a
    · subst hb
      by_cases hk : k' = k
      · subst hk
        simp
      · simp [Function.update_of_ne hk, hnot k', Ne.symm hk]
    · rw [Function.update_of_ne hb, ← h.mem_iff]
      by_cases hk : k' = k
      · subst hk
        simp [hb]
      · rw [Function.update_of_ne hk]

/-- An item leaves the index of its class. -/
theorem Sorts.drop (h : Sorts index cls) (hcls : cls a = some k) :
    Sorts (drop index k a) (Function.update cls a none) := by
  unfold Catalogue.drop
  constructor
  · intro k'
    by_cases hk : k' = k
    · subst hk
      rw [Function.update_self]
      exact (h.nodup k').filter _
    · rw [Function.update_of_ne hk]
      exact h.nodup k'
  · intro k' b
    by_cases hb : b = a
    · subst hb
      rw [Function.update_self]
      by_cases hk : k' = k
      · subst hk
        simp
      · simp [Function.update_of_ne hk, h.mem_iff, hcls, Ne.symm hk]
    · rw [Function.update_of_ne hb, ← h.mem_iff]
      by_cases hk : k' = k
      · subst hk
        simp [hb]
      · rw [Function.update_of_ne hk]

/-- An item goes from one class to another, or to its own again. -/
theorem Sorts.move (h : Sorts index cls) (hcls : cls a = some k) (k' : κ) :
    Sorts (Catalogue.add (Catalogue.drop index k a) k' a) (Function.update cls a (some k')) := by
  have hmoved := (h.drop hcls).add (k := k') (Function.update_self ..)
  rwa [Function.update_idem] at hmoved

end Indices

/-! ## Versions -/

section Versions

variable {β : Type} {number : β → ℕ} {limit n : ℕ} {versions : List β} {v : β}

/-- The last versions up to the `n`-th, not more than `limit` of them. -/
def Recent (number : β → ℕ) (limit : ℕ) (versions : List β) (n : ℕ) : Prop :=
  versions.map number = List.range' (n + 1 - min n limit) (min n limit)

/-- One more version is kept, and the oldest one goes when there are too many. -/
def push (limit : ℕ) (versions : List β) (v : β) : List β :=
  (if limit ≤ versions.length then versions.tail else versions) ++ [v]

theorem Recent.length_eq (h : Recent number limit versions n) : versions.length = min n limit := by
  have hlength : (versions.map number).length = versions.length := List.length_map number
  rw [← hlength, h, List.length_range']

theorem Recent.first (hlimit : 0 < limit) (hv : number v = 1) : Recent number limit [v] 1 := by
  rw [Recent, min_eq_left hlimit, List.map_singleton, hv]
  rfl

theorem Recent.push (h : Recent number limit versions n) (hlimit : 0 < limit) (hv : number v = n + 1) :
    Recent number limit (push limit versions v) (n + 1) := by
  have hlength := h.length_eq
  unfold Recent at h ⊢
  unfold Catalogue.push
  by_cases hfull : limit ≤ versions.length
  · -- The first number goes and the next one comes.
    obtain ⟨l, rfl⟩ : ∃ l, limit = l + 1 := ⟨limit - 1, by omega⟩
    have hn : min n (l + 1) = l + 1 := by omega
    have hstart : n + 1 - (l + 1) + 1 = n + 1 + 1 - (l + 1) := by omega
    have hlast : n + 1 = n + 1 + 1 - (l + 1) + 1 * l := by omega
    rw [if_pos hfull, List.map_append, List.map_tail, h, hn, min_eq_right (by omega), List.range'_succ, List.tail_cons,
      List.map_singleton, hv, List.range'_concat, hstart, ← hlast]
  · have hn : min n limit = n := by omega
    have hn' : min (n + 1) limit = n + 1 := by omega
    have hlast : n + 1 = n + 1 + 1 - (n + 1) + 1 * n := by omega
    rw [if_neg hfull, List.map_append, h, List.map_singleton, hv, hn, hn', List.range'_concat, ← hlast,
      Nat.add_sub_cancel_left, Nat.add_sub_cancel_left]

end Versions

end Catalogue

/-
A list that indexes a keyed store.

Each entry of the list names the key of one record and says something about it, and
there is no record besides. Adding an entry with its record keeps the two in step, and
so does dropping an entry together with its record, wherever in the list it stands.
-/
import Mathlib.Logic.Function.Basic
import Mathlib.Data.List.Basic
import Mathlib.Data.List.Nodup

set_option autoImplicit false

namespace IndexedStore

variable {ι α β : Type} {key : β → ι} {describes : β → α → Prop}

/-- The entries name each record of the store once, and describe it. -/
structure Indexes (key : β → ι) (describes : β → α → Prop) (entries : List β)
    (store : ι → Option α) : Prop where
  nodup : (entries.map key).Nodup
  stored : ∀ i, store i ≠ none ↔ i ∈ entries.map key
  described : ∀ e ∈ entries, ∃ a, store (key e) = some a ∧ describes e a

variable {store : ι → Option α} {entries : List β}

theorem Indexes.nil (h : ∀ i, store i = none) : Indexes key describes [] store where
  nodup := List.nodup_nil
  stored i := by simp [h i]
  described := nofun

variable [DecidableEq ι]

/-- A new entry, with its record. -/
theorem Indexes.concat (h : Indexes key describes entries store) {e : β} {a : α}
    (hnew : key e ∉ entries.map key) (hdescribes : describes e a) :
    Indexes key describes (entries ++ [e]) (Function.update store (key e) (some a)) where
  nodup := by
    rw [List.map_append, List.map_singleton, List.nodup_append]
    refine ⟨h.nodup, List.nodup_singleton _, ?_⟩
    rintro i hi j hj rfl
    rw [List.mem_singleton] at hj
    exact hnew (hj ▸ hi)
  stored i := by
    rw [List.map_append, List.map_singleton, List.mem_append, List.mem_singleton]
    by_cases hi : i = key e
    · subst hi
      simp
    · rw [Function.update_of_ne hi, h.stored]
      simp [hi]
  described e' he' := by
    rcases List.mem_append.mp he' with hold | hnew'
    · have hne : key e' ≠ key e := fun heq => hnew (heq ▸ List.mem_map_of_mem hold)
      rw [Function.update_of_ne hne]
      exact h.described e' hold
    · cases List.mem_singleton.mp hnew'
      exact ⟨a, Function.update_self .., hdescribes⟩

/-- An entry goes, with its record. -/
theorem Indexes.erase {before after : List β} {e : β}
    (h : Indexes key describes (before ++ e :: after) store) :
    Indexes key describes (before ++ after) (Function.update store (key e) none) := by
  have hnodup := h.nodup
  rw [List.map_append, List.map_cons, List.nodup_middle, List.nodup_cons, ← List.map_append] at hnodup
  constructor
  · exact hnodup.2
  · intro i
    by_cases hi : i = key e
    · subst hi
      simpa using hnodup.1
    · rw [Function.update_of_ne hi, h.stored]
      simp [hi]
  · intro e' he'
    have hne : key e' ≠ key e := fun heq => hnodup.1 (heq ▸ List.mem_map_of_mem he')
    rw [Function.update_of_ne hne]
    apply h.described
    rw [List.mem_append, List.mem_cons]
    rcases List.mem_append.mp he' with hbefore | hafter
    · exact .inl hbefore
    · exact .inr (.inr hafter)

end IndexedStore

/-
Rings that keep the last entries of a log.

A ring of capacity `cap` is written by putting the entry with number `k` into the slot `k % cap`, so
that only the number of writes matters: the slot for the next write is that number modulo `cap`, and
the oldest entry is in the same slot once the ring is full, in slot `0` before. The two walks here are
the ones that code makes over such a ring, from the oldest entry and from the newest.

The last section is on the distinct values of a list, in the order of their first occurrence: what a
ring holds when entries with the same label share a slot.
-/
import Mathlib.Data.Int.ModEq
import Mathlib.Data.List.Dedup
import Mathlib.Data.List.Induction
import Mathlib.Tactic.Common

set_option autoImplicit false

namespace RingBuffer

variable {α β : Type} {cap : ℕ} {slot : ℕ → Option α} {log : List α}

/-! ## The last entries -/

/-- The last `cap` entries of a log. -/
def recent (cap : ℕ) (log : List α) : List α := log.drop (log.length - cap)

theorem length_recent : (recent cap log).length = min log.length cap := by
  rw [recent, List.length_drop]
  omega

theorem getElem?_recent (i : ℕ) : (recent cap log)[i]? = log[log.length - cap + i]? := by
  rw [recent, List.getElem?_drop]

theorem mem_of_mem_recent {a : α} (h : a ∈ recent cap log) : a ∈ log := List.mem_of_mem_drop h

theorem map_recent (f : α → β) : (recent cap log).map f = recent cap (log.map f) := by
  rw [recent, recent, List.map_drop, List.length_map]

/-! ## What the slots hold -/

/-- Each of the last `cap` entries of the log is in the slot of its number. -/
def Holds (cap : ℕ) (slot : ℕ → Option α) (log : List α) : Prop :=
  ∀ k < log.length, log.length ≤ k + cap → slot (k % cap) = log[k]?

theorem Holds.nil : Holds cap slot [] := by
  intro k hk
  exact absurd hk (Nat.not_lt_zero k)

theorem Holds.congr {slot' : ℕ → Option α} (h : Holds cap slot log) (hcap : 0 < cap)
    (heq : ∀ i < cap, slot' i = slot i) : Holds cap slot' log := by
  intro k hk hrecent
  rw [heq _ (Nat.mod_lt _ hcap)]
  exact h k hk hrecent

/-- Numbers less than a full turn apart have different slots. -/
theorem mod_ne_mod {k n : ℕ} (hlt : k < n) (hturn : n < k + cap) : k % cap ≠ n % cap := by
  intro heq
  have hdvd : cap ∣ n - k := (Nat.modEq_iff_dvd' hlt.le).mp heq
  have hle := Nat.le_of_dvd (by omega) hdvd
  omega

/-- A write needs the slots of the entries that it leaves in the ring. -/
theorem Holds.write (h : ∀ k < log.length, log.length < k + cap → slot (k % cap) = log[k]?) (a : α) :
    Holds cap (Function.update slot (log.length % cap) (some a)) (log ++ [a]) := by
  intro k hk hcap
  rw [List.length_append, List.length_singleton] at hk hcap
  by_cases hlast : k = log.length
  · rw [hlast, Function.update_self, List.getElem?_concat_length]
  · have hlt : k < log.length := by omega
    rw [Function.update_of_ne (mod_ne_mod hlt (by omega)), List.getElem?_append_left hlt]
    exact h k hlt (by omega)

/-- The next entry goes into the slot after the newest. -/
theorem Holds.push (h : Holds cap slot log) (a : α) :
    Holds cap (Function.update slot (log.length % cap) (some a)) (log ++ [a]) :=
  Holds.write (fun k hk hcap => h k hk hcap.le) a

/-- The newest entry is replaced in its slot. -/
theorem Holds.replace {a : α} (h : Holds cap slot (log ++ [a])) (b : α) :
    Holds cap (Function.update slot (log.length % cap) (some b)) (log ++ [b]) := by
  apply Holds.write
  intro k hk hcap
  rw [h k (by rw [List.length_append]; omega) (by rw [List.length_append, List.length_singleton]; omega),
    List.getElem?_append_left hk]

theorem Holds.newest {a : α} (h : Holds cap slot (log ++ [a])) (hcap : 0 < cap) :
    slot (log.length % cap) = some a := by
  rw [h log.length (by simp) (by rw [List.length_append, List.length_singleton]; omega),
    List.getElem?_concat_length]

/-! ## Walks -/

/-- From the slot of the oldest entry on. -/
theorem Holds.walk (h : Holds cap slot log) :
    (List.range (min log.length cap)).map
        (fun i => slot (((if cap < log.length then log.length % cap else 0) + i) % cap)) =
      (recent cap log).map some := by
  apply List.ext_getElem?
  intro i
  rw [List.getElem?_map, List.getElem?_map, getElem?_recent]
  by_cases hi : i < min log.length cap
  · have hslot : ((if cap < log.length then log.length % cap else 0) + i) % cap =
        (log.length - cap + i) % cap := by
      by_cases hfull : cap < log.length
      · have hturn : log.length + i = log.length - cap + i + cap := by omega
        rw [if_pos hfull, Nat.mod_add_mod, hturn, Nat.add_mod_right]
      · rw [if_neg hfull, Nat.sub_eq_zero_of_le (not_lt.mp hfull)]
    have hk : log.length - cap + i < log.length := by omega
    rw [List.getElem?_range hi, Option.map_some, hslot, h _ hk (by omega), List.getElem?_eq_getElem hk]
    rfl
  · rw [List.getElem?_eq_none (by rw [List.length_range]; omega), List.getElem?_eq_none (by omega)]
    rfl

/-- From the slot of the newest entry back. -/
theorem Holds.walk_back (h : Holds cap slot log) :
    (List.range (min log.length cap)).map (fun i => slot ((log.length % cap + cap - 1 - i) % cap)) =
      (recent cap log).reverse.map some := by
  apply List.ext_getElem?
  intro i
  rw [List.getElem?_map, List.getElem?_map]
  by_cases hi : i < min log.length cap
  · have hslot : (log.length % cap + cap - 1 - i) % cap = (log.length - 1 - i) % cap := by
      have hdiv := Nat.div_add_mod log.length cap
      have hturn : log.length % cap + cap - 1 - i + cap * (log.length / cap) =
          log.length - 1 - i + cap := by omega
      rw [← Nat.add_mul_mod_self_left _ cap (log.length / cap), hturn, Nat.add_mod_right]
    have hk : log.length - 1 - i < log.length := by omega
    rw [List.getElem?_range hi, Option.map_some, hslot, h _ hk (by omega),
      List.getElem?_reverse (by rw [length_recent]; omega), length_recent, getElem?_recent]
    have hindex : log.length - cap + (min log.length cap - 1 - i) = log.length - 1 - i := by omega
    rw [hindex, List.getElem?_eq_getElem hk]
    rfl
  · rw [List.getElem?_eq_none (by rw [List.length_range]; omega),
      List.getElem?_eq_none (by rw [List.length_reverse, length_recent]; omega)]
    rfl

/-- A loop that collects what it keeps of the entries. -/
theorem foldl_append_filter (keep : α → Bool) (l : List α) (kept : List α) :
    (l.map some).foldl (fun kept o => kept ++ (o.filter keep).toList) kept = kept ++ l.filter keep := by
  induction l generalizing kept with
  | nil => simp
  | cons a _ ih =>
      rw [List.map_cons, List.foldl_cons, ih, List.append_assoc, List.filter_cons]
      by_cases h : keep a = true
      · simp [Option.filter, h]
      · simp [Option.filter, h]

/-- A loop that stops at the first entry that passes. -/
theorem foldl_find (pass : α → Bool) (l : List α) (found : Option α) :
    (l.map some).foldl (fun found o => found.elim (o.filter pass) some) found =
      found.elim (l.find? pass) some := by
  induction l generalizing found with
  | nil => cases found <;> rfl
  | cons a _ ih =>
      rw [List.map_cons, List.foldl_cons, ih]
      cases found with
      | some => rfl
      | none =>
          by_cases h : pass a = true
          · simp [Option.filter, h]
          · simp [Option.filter, h]

/-! ## Distinct values -/

section Distinct

variable [DecidableEq α] {l : List α} {a b : α}

/-- The values of a list, each at its first occurrence. -/
def distinct (l : List α) : List α := l.reverse.dedup.reverse

theorem mem_distinct : a ∈ distinct l ↔ a ∈ l := by
  rw [distinct, List.mem_reverse, List.mem_dedup, List.mem_reverse]

theorem distinct_concat : distinct (l ++ [a]) = if a ∈ l then distinct l else distinct l ++ [a] := by
  unfold distinct
  rw [List.reverse_append, List.reverse_singleton, List.singleton_append]
  by_cases h : a ∈ l
  · rw [if_pos h, List.dedup_cons_of_mem (List.mem_reverse.mpr h)]
  · rw [if_neg h, List.dedup_cons_of_notMem (by rwa [List.mem_reverse]), List.reverse_cons]

variable [LinearOrder β] {m : List β} {b : β}

theorem pairwise_distinct [DecidableEq β] (h : m.Pairwise (· ≤ ·)) : (distinct m).Pairwise (· < ·) := by
  induction m using List.reverseRecOn with
  | nil => exact List.Pairwise.nil
  | append_singleton m b ih =>
      rw [List.pairwise_append] at h
      rw [distinct_concat]
      by_cases hmem : b ∈ m
      · rw [if_pos hmem]
        exact ih h.1
      · rw [if_neg hmem, List.pairwise_append]
        refine ⟨ih h.1, List.pairwise_singleton _ _, ?_⟩
        intro a ha c hc
        rw [mem_distinct] at ha
        rw [List.mem_singleton] at hc
        rw [hc]
        exact lt_of_le_of_ne (h.2.2 a ha b List.mem_cons_self) fun heq => hmem (heq ▸ ha)

/-- The greatest of increasing values is the last. -/
theorem exists_eq_concat (h : m.Pairwise (· < ·)) (hmem : b ∈ m) (hmax : ∀ a ∈ m, a ≤ b) :
    ∃ front, m = front ++ [b] := by
  obtain ⟨front, last, rfl⟩ := (List.eq_nil_or_concat m).resolve_left (List.ne_nil_of_mem hmem)
  rw [List.concat_eq_append] at h hmem hmax ⊢
  rw [List.pairwise_append] at h
  refine ⟨front, ?_⟩
  rcases List.mem_append.mp hmem with hfront | hlast
  · have hlt := h.2.2 b hfront last List.mem_cons_self
    exact absurd (hmax last (by simp)) (not_le.mpr hlt)
  · rw [List.mem_singleton.mp hlast]

/-- Of increasing values the ring has those with fewer than `cap` greater ones. -/
theorem mem_recent_iff (h : m.Pairwise (· < ·)) :
    b ∈ recent cap m ↔ b ∈ m ∧ (m.filter (b < ·)).length < cap := by
  by_cases hmem : b ∈ m
  · obtain ⟨front, back, rfl⟩ := List.append_of_mem hmem
    rw [List.pairwise_append, List.pairwise_cons] at h
    obtain ⟨-, ⟨hback, -⟩, hfront⟩ := h
    have hgreater : (front ++ b :: back).filter (b < ·) = back := by
      rw [List.filter_append, List.filter_cons_of_neg (by simp), List.filter_eq_nil_iff.mpr,
        List.filter_eq_self.mpr, List.nil_append]
      · intro c hc
        simpa using hback c hc
      · intro c hc
        simpa using (hfront c hc b List.mem_cons_self).le
    rw [hgreater, recent]
    have hlength : (front ++ b :: back).length = front.length + back.length + 1 := by
      rw [List.length_append, List.length_cons]
      omega
    rw [hlength]
    by_cases hcap : back.length < cap
    · rw [List.drop_append_of_le_length (by omega)]
      exact ⟨fun _ => ⟨hmem, hcap⟩, fun _ => by simp⟩
    · have hsplit : front.length + back.length + 1 - cap = front.length + 1 + (back.length - cap) := by omega
      have hdrop : (front ++ b :: back).drop (front.length + 1 + (back.length - cap)) =
          back.drop (back.length - cap) := by
        rw [← List.drop_drop, List.append_cons, List.drop_left' (by simp)]
      rw [hsplit, hdrop]
      constructor
      · intro hin
        exact absurd (hback b (List.mem_of_mem_drop hin)) (lt_irrefl b)
      · rintro ⟨-, hlt⟩
        exact absurd hlt hcap
  · exact ⟨fun hin => absurd (mem_of_mem_recent hin) hmem, fun hin => absurd hin.1 hmem⟩

end Distinct

end RingBuffer

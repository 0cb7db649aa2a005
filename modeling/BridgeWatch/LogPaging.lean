/-
Reading a log in pages while it grows.

The keys of the entries increase, new entries come at the end, and old ones go at the front. A reader asks
for the first entries from a key on, and goes on behind the last that it has got. Nothing is read twice, no
entry that is still kept is skipped, and a page that is not full ends the reading.
-/
import Mathlib.Data.List.Sort

set_option autoImplicit false

namespace LogPaging

variable {α : Type}

/-- The first key that the reader has not asked for, and the entries that it has got. -/
structure Reader (α : Type) where
  cursor : ℕ
  collected : List α

/-- The first `limit` entries from `cursor` on. -/
def pageOf (key : α → ℕ) (cursor limit : ℕ) (kept : List α) : List α :=
  (kept.filter fun a => cursor ≤ key a).take limit

/-- One page, and the cursor behind its last entry. -/
def Reader.read (key : α → ℕ) (limit : ℕ) (kept : List α) (r : Reader α) : Reader α where
  cursor := (pageOf key r.cursor limit kept).getLast?.elim r.cursor fun a => key a + 1
  collected := r.collected ++ pageOf key r.cursor limit kept

/-- The reader has every kept entry before its cursor, in order, and nothing else. -/
structure Sound (key : α → ℕ) (history kept : List α) (r : Reader α) : Prop where
  increasing : history.Pairwise fun a b => key a < key b
  suffix : kept <:+ history
  in_order : r.collected.Pairwise fun a b => key a < key b
  behind : ∀ a ∈ r.collected, a ∈ history ∧ key a < r.cursor
  nothing_skipped : ∀ a ∈ kept, key a < r.cursor → a ∈ r.collected
  cursor_eq : r.cursor = 0 ∨ ∃ a ∈ r.collected, r.cursor = key a + 1

section Sound

variable {key : α → ℕ} {history kept : List α} {r : Reader α} {limit : ℕ}

theorem Sound.start (hincreasing : history.Pairwise fun a b => key a < key b) (hsuffix : kept <:+ history) :
    Sound key history kept ⟨0, []⟩ :=
  ⟨hincreasing, hsuffix, .nil, fun _ ha => absurd ha List.not_mem_nil, fun _ _ h => absurd h (Nat.not_lt_zero _),
    .inl rfl⟩

/-- An entry is appended, and some may go at the front. -/
theorem Sound.append {a : α} {kept' : List α} (h : Sound key history kept r) (ha : ∀ b ∈ history, key b < key a)
    (hkept : kept' <:+ kept ++ [a]) : Sound key (history ++ [a]) kept' r := by
  have hcursor : r.cursor ≤ key a := by
    rcases h.cursor_eq with hzero | ⟨b, hb, heq⟩
    · rw [hzero]
      exact Nat.zero_le _
    · rw [heq]
      exact ha b (h.behind b hb).1
  constructor
  · rw [List.pairwise_append]
    refine ⟨h.increasing, List.pairwise_singleton _ _, fun b hb c hc => ?_⟩
    rw [List.mem_singleton.mp hc]
    exact ha b hb
  · obtain ⟨front, hfront⟩ := h.suffix
    refine hkept.trans ⟨front, ?_⟩
    rw [← List.append_assoc, hfront]
  · exact h.in_order
  · exact fun b hb => ⟨List.mem_append_left _ (h.behind b hb).1, (h.behind b hb).2⟩
  · intro b hb hlt
    rcases List.mem_append.mp (hkept.subset hb) with hold | hnew
    · exact h.nothing_skipped b hold hlt
    · rw [List.mem_singleton.mp hnew] at hlt
      omega
  · exact h.cursor_eq

/-- The page, and what is left from the cursor on. -/
theorem pageOf_append (key : α → ℕ) (cursor limit : ℕ) (kept : List α) :
    ∃ rest, kept.filter (fun a => cursor ≤ key a) = pageOf key cursor limit kept ++ rest ∧
      ((pageOf key cursor limit kept).length < limit → rest = []) := by
  refine ⟨(kept.filter fun a => cursor ≤ key a).drop limit, (List.take_append_drop _ _).symm, fun hshort => ?_⟩
  rw [pageOf, List.length_take] at hshort
  exact List.drop_eq_nil_iff.mpr (by omega)

theorem mem_pageOf {a : α} (h : a ∈ pageOf key r.cursor limit kept) : a ∈ kept ∧ r.cursor ≤ key a := by
  have hfilter := List.mem_filter.mp (List.mem_of_mem_take h)
  exact ⟨hfilter.1, of_decide_eq_true hfilter.2⟩

/-- **One page.** -/
theorem Sound.read (h : Sound key history kept r) (limit : ℕ) :
    Sound key history kept (r.read key limit kept) := by
  have hkept : kept.Pairwise fun a b => key a < key b := h.increasing.sublist h.suffix.sublist
  obtain ⟨rest, hsplit, -⟩ := pageOf_append key r.cursor limit kept
  have hfilter := hkept.filter fun a => decide (r.cursor ≤ key a)
  rw [hsplit, List.pairwise_append] at hfilter
  rcases List.eq_nil_or_concat (pageOf key r.cursor limit kept) with hnil | ⟨front, last, hpage⟩
  · have hsame : r.read key limit kept = r := by
      rw [Reader.read, hnil, List.append_nil]
      rfl
    rw [hsame]
    exact h
  · rw [List.concat_eq_append] at hpage
    have hlast : last ∈ pageOf key r.cursor limit kept := by
      rw [hpage]
      exact List.mem_append_right _ List.mem_cons_self
    have hcursor : (r.read key limit kept).cursor = key last + 1 := by
      rw [Reader.read, hpage, List.getLast?_concat]
      rfl
    have hle (a : α) (ha : a ∈ pageOf key r.cursor limit kept) : key a ≤ key last := by
      have hpairs := hfilter.1
      rw [hpage, List.pairwise_append] at hpairs
      rw [hpage] at ha
      rcases List.mem_append.mp ha with hfront | hend
      · exact (hpairs.2.2 a hfront last List.mem_cons_self).le
      · rw [List.mem_singleton.mp hend]
    constructor
    · exact h.increasing
    · exact h.suffix
    · refine List.pairwise_append.mpr ⟨h.in_order, hfilter.1, fun a ha b hb => ?_⟩
      exact (h.behind a ha).2.trans_le (mem_pageOf hb).2
    · intro a ha
      rw [hcursor]
      rcases List.mem_append.mp ha with hold | hnew
      · refine ⟨(h.behind a hold).1, ?_⟩
        have := (h.behind a hold).2
        have := (mem_pageOf hlast).2
        omega
      · exact ⟨h.suffix.subset (mem_pageOf hnew).1, Nat.lt_succ_of_le (hle a hnew)⟩
    · intro a ha hlt
      rw [hcursor] at hlt
      by_cases hold : key a < r.cursor
      · exact List.mem_append_left _ (h.nothing_skipped a ha hold)
      · have hmem : a ∈ kept.filter fun a => r.cursor ≤ key a :=
          List.mem_filter.mpr ⟨ha, decide_eq_true (not_lt.mp hold)⟩
        rw [hsplit] at hmem
        rcases List.mem_append.mp hmem with hnew | hlater
        · exact List.mem_append_right _ hnew
        · -- what is left comes after the last entry of the page
          have := hfilter.2.2 last hlast a hlater
          omega
    · exact .inr ⟨last, List.mem_append_right _ hlast, hcursor⟩

/-- A page is full, or after it the reader has everything that is kept, in its order. -/
theorem Sound.full_or_complete (h : Sound key history kept r) (limit : ℕ) :
    (r.read key limit kept).collected.length = r.collected.length + limit ∨
      kept.Sublist (r.read key limit kept).collected := by
  obtain ⟨rest, hsplit, hrest⟩ := pageOf_append key r.cursor limit kept
  by_cases hshort : (pageOf key r.cursor limit kept).length < limit
  · right
    rw [hrest hshort, List.append_nil] at hsplit
    have hkept : kept.Pairwise fun a b => key a < key b := h.increasing.sublist h.suffix.sublist
    have hnodup : kept.Nodup := hkept.imp fun hlt heq => by
      rw [heq] at hlt
      exact lt_irrefl _ hlt
    have hsubset : kept ⊆ (r.read key limit kept).collected := by
      intro a ha
      by_cases hold : key a < r.cursor
      · exact List.mem_append_left _ (h.nothing_skipped a ha hold)
      · refine List.mem_append_right _ ?_
        rw [← hsplit]
        exact List.mem_filter.mpr ⟨ha, decide_eq_true (not_lt.mp hold)⟩
    have hantisymm : Std.Antisymm fun a b : α => key a < key b := ⟨fun a b hab hba => absurd hab (lt_asymm hba)⟩
    exact List.sublist_of_subperm_of_pairwise (List.subperm_of_subset hnodup hsubset) hkept (h.read limit).in_order
  · left
    have hlength : (pageOf key r.cursor limit kept).length ≤ limit := List.length_take_le _ _
    rw [Reader.read, List.length_append]
    omega

end Sound

end LogPaging

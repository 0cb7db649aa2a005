/-
Votes in buckets.

Votes come one after another, and each goes into the bucket of its key, or opens one where its key has
none yet. A bucket is made of the votes of its key, in their order, and a key that has more than half of
the votes wins, whatever the others are and wherever they stand.
-/
import Mathlib.Data.List.Induction
import Mathlib.Data.List.Nodup

set_option autoImplicit false

namespace Plurality

section Tally

variable {Key Vote Bucket : Type} [DecidableEq Key] (keyOf : Vote → Key) (key : Bucket → Key)
  (add : Bucket → Vote → Bucket) (single : Vote → Bucket)

/-- The vote goes into the bucket of its key, or opens one. -/
def place (buckets : List Bucket) (v : Vote) : List Bucket :=
  if buckets.any fun b => key b = keyOf v then
    buckets.map fun b => if key b = keyOf v then add b v else b
  else buckets ++ [single v]

def tally (votes : List Vote) : List Bucket := votes.foldl (place keyOf key add single) []

variable {keyOf key add single} {votes : List Vote} {buckets : List Bucket} {b : Bucket} {v : Vote}

theorem mem_place (h : b ∈ place keyOf key add single buckets v) :
    (b ∈ buckets ∧ key b ≠ keyOf v) ∨ (∃ old ∈ buckets, key old = keyOf v ∧ b = add old v) ∨
      (b = single v ∧ ∀ old ∈ buckets, key old ≠ keyOf v) := by
  rw [place] at h
  by_cases hany : (buckets.any fun b => key b = keyOf v) = true
  · rw [if_pos hany, List.mem_map] at h
    obtain ⟨old, hold, rfl⟩ := h
    by_cases hkey : key old = keyOf v
    · rw [if_pos hkey]
      exact .inr (.inl ⟨old, hold, hkey, rfl⟩)
    · rw [if_neg hkey]
      exact .inl ⟨hold, hkey⟩
  · rw [if_neg hany, List.mem_append, List.mem_singleton] at h
    have hnone : ∀ old ∈ buckets, key old ≠ keyOf v := by simpa using hany
    rcases h with h | h
    · exact .inl ⟨h, hnone b h⟩
    · exact .inr (.inr ⟨h, hnone⟩)

/-- Votes of which no two have one key keep a bucket each. -/
theorem tally_of_nodup (hkey : ∀ v, key (single v) = keyOf v) (h : (votes.map keyOf).Nodup) :
    tally keyOf key add single votes = votes.map single := by
  induction votes using List.reverseRecOn with
  | nil => rfl
  | append_singleton _ _ ih =>
      rw [List.map_append, List.nodup_append] at h
      obtain ⟨hvotes, -, hnew⟩ := h
      rw [tally, List.foldl_concat, ← tally, ih hvotes, place, if_neg, List.map_append]
      · rfl
      · simp only [List.any_eq_true, List.mem_map, decide_eq_true_eq]
        rintro ⟨_, ⟨u, hu, rfl⟩, hsame⟩
        rw [hkey] at hsame
        exact hnew _ (List.mem_map_of_mem hu) _ (List.mem_singleton_self _) hsame

section Keyed

variable (hadd : ∀ b v, key (add b v) = key b) (hkey : ∀ v, key (single v) = keyOf v)

include hadd hkey

theorem exists_bucket (h : v ∈ votes) : ∃ b ∈ tally keyOf key add single votes, key b = keyOf v := by
  induction votes using List.reverseRecOn with
  | nil => exact absurd h List.not_mem_nil
  | append_singleton votes x ih =>
      rw [tally, List.foldl_concat, ← tally, place]
      by_cases hany : ((tally keyOf key add single votes).any fun b => key b = keyOf x) = true
      · rw [if_pos hany]
        have hold : ∃ b ∈ tally keyOf key add single votes, key b = keyOf v := by
          rcases List.mem_append.mp h with h | h
          · exact ih h
          · obtain ⟨b, hb, hsame⟩ := List.any_eq_true.mp hany
            rw [List.mem_singleton.mp h]
            exact ⟨b, hb, of_decide_eq_true hsame⟩
        obtain ⟨b, hb, hsame⟩ := hold
        refine ⟨_, List.mem_map_of_mem hb, ?_⟩
        rw [← hsame]
        split
        · exact hadd b x
        · rfl
      · rw [if_neg hany]
        rcases List.mem_append.mp h with h | h
        · obtain ⟨b, hb, hsame⟩ := ih h
          exact ⟨b, List.mem_append_left _ hb, hsame⟩
        · rw [List.mem_singleton.mp h]
          exact ⟨single x, List.mem_append_right _ (List.mem_singleton_self _), hkey x⟩

/-- A bucket is made of the votes of its key, in their order. -/
theorem bucket_eq (h : b ∈ tally keyOf key add single votes) :
    ∃ first rest, votes.filter (fun v => keyOf v = key b) = first :: rest ∧
      b = rest.foldl add (single first) := by
  induction votes using List.reverseRecOn generalizing b with
  | nil => exact absurd h List.not_mem_nil
  | append_singleton votes x ih =>
      rw [tally, List.foldl_concat, ← tally] at h
      rw [List.filter_append]
      rcases mem_place h with ⟨hb, hother⟩ | ⟨old, hold, hsame, rfl⟩ | ⟨rfl, hnew⟩
      · obtain ⟨first, rest, hvotes, heq⟩ := ih hb
        have hskip : [x].filter (fun v => keyOf v = key b) = [] :=
          List.filter_cons_of_neg (by simpa using hother.symm)
        refine ⟨first, rest, ?_, heq⟩
        rw [hvotes, hskip, List.append_nil]
      · obtain ⟨first, rest, hvotes, heq⟩ := ih hold
        have hnext : [x].filter (fun v => keyOf v = key old) = [x] :=
          List.filter_cons_of_pos (by simpa using hsame.symm)
        refine ⟨first, rest ++ [x], ?_, ?_⟩
        · rw [hadd, hvotes, hnext, List.cons_append]
        · rw [List.foldl_concat, ← heq]
      · have hvotes : votes.filter (fun v => keyOf v = key (single x)) = [] := by
          rw [List.filter_eq_nil_iff]
          intro v hv hsame
          rw [decide_eq_true_eq, hkey] at hsame
          obtain ⟨b, hb, hbucket⟩ := exists_bucket hadd hkey hv
          exact hnew b hb (hbucket.trans hsame)
        have hfirst : [x].filter (fun v => keyOf v = key (single x)) = [x] :=
          List.filter_cons_of_pos (by simpa using (hkey x).symm)
        exact ⟨x, [], by rw [hvotes, hfirst, List.nil_append], rfl⟩

/-- What a new bucket has and a further vote keeps holds of every bucket. -/
theorem forall_tally {P : Bucket → Prop} (hstep : ∀ b v, P b → P (add b v))
    (hsingle : ∀ v ∈ votes, P (single v)) : ∀ b ∈ tally keyOf key add single votes, P b := by
  intro b hb
  obtain ⟨first, rest, hvotes, rfl⟩ := bucket_eq hadd hkey hb
  have hfirst : first ∈ votes := by
    have hmem := List.mem_cons_self (a := first) (l := rest)
    rw [← hvotes] at hmem
    exact (List.mem_filter.mp hmem).1
  clear hvotes hb
  induction rest using List.reverseRecOn with
  | nil => exact hsingle first hfirst
  | append_singleton _ v ih =>
      rw [List.foldl_concat]
      exact hstep _ v ih

end Keyed

end Tally

/-! ## The largest bucket -/

section Winner

variable {Bucket : Type} (count : Bucket → ℕ)

/-- The bucket with the most votes, the first one of several. -/
def winner (buckets : List Bucket) : Option Bucket :=
  buckets.foldl (fun winner b =>
    match winner with
    | none => some b
    | some best => if count b > count best then some b else some best) none

theorem winner_cases (buckets : List Bucket) :
    (buckets = [] ∧ winner count buckets = none) ∨
      ∃ best ∈ buckets, winner count buckets = some best ∧ ∀ b ∈ buckets, count b ≤ count best := by
  induction buckets using List.reverseRecOn with
  | nil => exact .inl ⟨rfl, rfl⟩
  | append_singleton _ x ih =>
      right
      rw [winner, List.foldl_concat, ← winner]
      rcases ih with ⟨rfl, hnone⟩ | ⟨best, hbest, hwinner, hmax⟩
      · rw [hnone]
        refine ⟨x, List.mem_singleton_self x, rfl, ?_⟩
        intro b hb
        exact Nat.le_of_eq (congrArg count (List.mem_singleton.mp hb))
      · rw [hwinner]
        dsimp only
        by_cases hmore : count x > count best
        · rw [if_pos hmore]
          refine ⟨x, List.mem_append_right _ (List.mem_singleton_self x), rfl, ?_⟩
          intro b hb
          rcases List.mem_append.mp hb with hb | hb
          · exact Nat.le_trans (hmax b hb) (Nat.le_of_lt hmore)
          · exact Nat.le_of_eq (congrArg count (List.mem_singleton.mp hb))
        · rw [if_neg hmore]
          refine ⟨best, List.mem_append_left _ hbest, rfl, ?_⟩
          intro b hb
          rcases List.mem_append.mp hb with hb | hb
          · exact hmax b hb
          · rw [List.mem_singleton.mp hb]
            exact Nat.le_of_not_lt hmore

end Winner

/-! ## Majorities -/

section Majority

variable {Key Vote Bucket : Type} [DecidableEq Key] {keyOf : Vote → Key} {key : Bucket → Key}
  {add : Bucket → Vote → Bucket} {single : Vote → Bucket} {count : Bucket → ℕ}
  (hadd : ∀ b v, key (add b v) = key b) (hkey : ∀ v, key (single v) = keyOf v)
  (hmore : ∀ b v, count (add b v) = count b + 1) (hone : ∀ v, count (single v) = 1)
  {votes : List Vote} {b : Bucket} {k : Key}

include hadd hkey hmore hone

theorem count_eq (h : b ∈ tally keyOf key add single votes) :
    count b = votes.countP fun v => keyOf v = key b := by
  obtain ⟨first, rest, hvotes, heq⟩ := bucket_eq hadd hkey h
  rw [List.countP_eq_length_filter, hvotes, List.length_cons, heq]
  clear hvotes heq
  induction rest using List.reverseRecOn with
  | nil => exact hone first
  | append_singleton _ _ ih =>
      rw [List.foldl_concat, hmore, ih, List.length_append, List.length_singleton]

/-- **A key with more than half of the votes wins.** -/
theorem majority_wins (h : votes.length < 2 * votes.countP fun v => keyOf v = k) :
    ∃ best ∈ tally keyOf key add single votes,
      winner count (tally keyOf key add single votes) = some best ∧ key best = k ∧
        count best = votes.countP fun v => keyOf v = k := by
  have hpos : 0 < votes.countP fun v => keyOf v = k := by omega
  obtain ⟨v, hv, hvote⟩ := List.countP_pos_iff.mp hpos
  obtain ⟨major, hmajor, hsame⟩ := exists_bucket hadd hkey hv
  rw [of_decide_eq_true hvote] at hsame
  have hcount := count_eq hadd hkey hmore hone hmajor
  rw [hsame] at hcount
  rcases winner_cases count (tally keyOf key add single votes) with ⟨hnil, -⟩ | ⟨best, hbest, hwinner, hmax⟩
  · rw [hnil] at hmajor
    exact absurd hmajor List.not_mem_nil
  · have hwins := count_eq hadd hkey hmore hone hbest
    have hle := hmax major hmajor
    -- The votes of another key are among those that the majority left over.
    have hbestkey : key best = k := by
      by_contra hother
      have hrest : (votes.countP fun v => keyOf v = key best) ≤ votes.countP fun v => ¬keyOf v = k := by
        refine List.countP_mono_left fun v _ hv => ?_
        rw [decide_eq_true_eq] at hv ⊢
        rw [hv]
        exact hother
      have hsplit := List.length_eq_countP_add_countP (fun v => decide (keyOf v = k)) (l := votes)
      simp only [decide_eq_true_eq] at hsplit
      omega
    refine ⟨best, hbest, hwinner, hbestkey, ?_⟩
    rw [hwins, hbestkey]

end Majority

end Plurality

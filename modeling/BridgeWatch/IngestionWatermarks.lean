/-
Watermarks of the ingestion, `backend/src/services/ingestionWatermarkCoordinator.service.ts`.

A source publishes how far its data is covered and finalized, with the gaps that it has observed; a
consumer may go as far as the slowest of its dependencies, and not at all when one of them has a gap
in front of its own finality. Numbers are exact. A publish is one transaction on the row of its
source. What a consumer is told about a dependency that blocks it is kept as data instead of text, and
the times of a row are left out, since no decision depends on them.
-/
import Mathlib.Algebra.Order.Ring.Rat
import Mathlib.Data.List.Sort
import Mathlib.Data.Rat.Cast.Order
import Mathlib.Tactic.Linarith
import BridgeWatch.Runs

set_option autoImplicit false

namespace BridgeWatch.IngestionWatermark

/-! ## Gaps -/

/-- `from` and `to` are words of the language here. -/
structure Gap where
  from_ : ℚ
  to_ : ℚ
  deriving DecidableEq

/-- `Number.isSafeInteger`. -/
def isSafeInteger (x : ℚ) : Bool := x.den = 1 && |x| ≤ 2 ^ 53 - 1

/-- The filter of `normaliseGaps`. -/
def Gap.valid (g : Gap) : Bool := isSafeInteger g.from_ && isSafeInteger g.to_ && g.from_ ≤ g.to_

/-- The position lies in the gap. -/
def Gap.Contains (g : Gap) (p : ℤ) : Prop := g.from_ ≤ p ∧ (p : ℚ) ≤ g.to_

/-- One round of the `reduce` of `normaliseGaps`. -/
def mergeGap (all : List Gap) (gap : Gap) : List Gap :=
  match all.getLast? with
  | none => all ++ [gap]
  | some last =>
      if gap.from_ ≤ last.to_ + 1 then all.dropLast ++ [{ last with to_ := max last.to_ gap.to_ }]
      else all ++ [gap]

def normaliseGaps (gaps : List Gap) : List Gap :=
  ((gaps.filter Gap.valid).insertionSort fun a b => a.from_ ≤ b.from_).foldl mergeGap []

/-! ## Bounded watermarks -/

structure SourceWatermark where
  source : String
  coveredThrough : ℚ
  finalizedThrough : ℚ
  gaps : List Gap
  version : ℕ
  deriving DecidableEq

structure Dependency where
  source : String
  minimumFinality : ℚ
  deriving DecidableEq

/-- Why a dependency blocks its consumer. -/
inductive BlockReason where
  | noWatermarkPublished
  | observedGap (gap : Gap)
  | finality (finalizedThrough minimumFinality : ℚ)
  deriving DecidableEq

structure BoundedWindow where
  through : Option ℚ
  sources : String → Option SourceWatermark
  blocked : List (String × BlockReason)
  /-- The bound of each dependency that does not block, with its source. -/
  explain : List (String × ℚ)

/-- What the loop of `boundedWatermark` makes of one dependency: a reason to block, or a candidate. -/
def judge (watermarks : String → Option SourceWatermark) (overrides : String → Option ℚ)
    (dep : Dependency) : BlockReason ⊕ ℚ :=
  match watermarks dep.source with
  | none => .inl .noWatermarkPublished
  | some wm =>
      let override := overrides dep.source
      let gap := wm.gaps.find? fun g => g.from_ ≤ wm.finalizedThrough
      match override, gap with
      | none, some gap => .inl (.observedGap gap)
      | none, none =>
          if wm.finalizedThrough < dep.minimumFinality then
            .inl (.finality wm.finalizedThrough dep.minimumFinality)
          else .inr wm.finalizedThrough
      | some override, _ => .inr (max wm.finalizedThrough override)

/-- `Math.min(...candidates)`, for at least one candidate. -/
def minimum (candidates : List ℚ) : Option ℚ := candidates.min?

def boundedWatermark (dependencies : List Dependency) (watermarks : String → Option SourceWatermark)
    (overrides : String → Option ℚ) : BoundedWindow :=
  let blocked := dependencies.filterMap fun dep =>
    (judge watermarks overrides dep).getLeft?.map fun reason => (dep.source, reason)
  let candidates := dependencies.filterMap fun dep => (judge watermarks overrides dep).getRight?
  { through := if blocked = [] then minimum candidates else none
    sources := fun source => if source ∈ dependencies.map Dependency.source then watermarks source else none
    blocked
    explain := dependencies.filterMap fun dep =>
      (judge watermarks overrides dep).getRight?.map fun through => (dep.source, through) }

/-! ## Publishing -/

structure PublishInput where
  source : String
  coveredThrough : ℚ
  finalizedThrough : ℚ
  gaps : List Gap
  expectedVersion : Option ℕ
  deriving DecidableEq

/-- The table `ingestion_source_watermarks`. -/
abbrev Rows := String → Option SourceWatermark

def publish (input : PublishInput) (rows : Rows) : Except String Rows :=
  if input.finalizedThrough > input.coveredThrough then
    .error "finalizedThrough cannot exceed coveredThrough"
  else
    let current := rows input.source
    if current.any fun row => input.expectedVersion.any fun version => row.version ≠ version then
      .error "watermark version conflict"
    else
      let coveredThrough := max input.coveredThrough (current.elim 0 SourceWatermark.coveredThrough)
      let finalizedThrough := max input.finalizedThrough (current.elim 0 SourceWatermark.finalizedThrough)
      let merged := (normaliseGaps (current.elim [] SourceWatermark.gaps ++ input.gaps)).filter
        fun g => g.to_ > finalizedThrough
      let row : SourceWatermark :=
        { source := input.source, coveredThrough, finalizedThrough, gaps := merged,
          version := current.elim 1 fun row => row.version + 1 }
      .ok (Function.update rows input.source (some row))

/-- `inspect` for a consumer that has no override. -/
def inspect (dependencies : List Dependency) (rows : Rows) : BoundedWindow :=
  boundedWatermark dependencies rows fun _ => none

/-! ## Runs -/

/-- The table, with the publishes that have succeeded. -/
structure World where
  rows : Rows
  published : List PublishInput

def step (w : World) (input : PublishInput) : World :=
  match publish input w.rows with
  | .ok rows => { rows, published := w.published ++ [input] }
  | .error _ => w

def World.initial : World := { rows := fun _ => none, published := [] }

/-- The publishes of a source. -/
def publishesOf (published : List PublishInput) (source : String) : List PublishInput :=
  published.filter fun input => input.source = source

/-- The gaps passed in the latest publish of a source. -/
def latestGaps (published : List PublishInput) (source : String) : List Gap :=
  (publishesOf published source).getLast?.elim [] PublishInput.gaps

/-- The greatest finality that a source has published, and 0 at least. -/
def reached (published : List PublishInput) (source : String) : ℚ :=
  (publishesOf published source).foldl (fun through input => max input.finalizedThrough through) 0

/-! ## Normal forms -/

section Normalise

variable {all gaps rest : List Gap} {gap g : Gap} {p : ℤ}

theorem isSafeInteger_cast {x : ℚ} (h : isSafeInteger x = true) : ∃ n : ℤ, x = n := by
  rw [isSafeInteger, Bool.and_eq_true, decide_eq_true_eq] at h
  exact ⟨x.num, (Rat.den_eq_one_iff x).mp h.1 |>.symm⟩

theorem Gap.valid_iff :
    g.valid = true ↔ isSafeInteger g.from_ = true ∧ isSafeInteger g.to_ = true ∧ g.from_ ≤ g.to_ := by
  rw [Gap.valid, Bool.and_eq_true, Bool.and_eq_true, decide_eq_true_eq, and_assoc]

/-- Sorted, disjoint and not adjacent. -/
def Separated (gaps : List Gap) : Prop := gaps.Pairwise fun a b => a.to_ + 1 < b.from_

/-- Where the `reduce` stands: what it has is in normal form, and starts before what is to come. -/
structure Merging (all rest : List Gap) : Prop where
  separated : Separated all
  valid : ∀ g ∈ all, g.valid = true
  before : ∀ g ∈ all, ∀ next ∈ rest, g.from_ ≤ next.from_
  pending : ∀ next ∈ rest, next.valid = true
  sorted : rest.Pairwise fun a b => a.from_ ≤ b.from_

theorem mergeGap_nil : mergeGap [] gap = [gap] := rfl

theorem mergeGap_concat {init : List Gap} {last : Gap} : mergeGap (init ++ [last]) gap =
    if gap.from_ ≤ last.to_ + 1 then init ++ [{ last with to_ := max last.to_ gap.to_ }]
    else init ++ [last] ++ [gap] := by
  rw [mergeGap, List.getLast?_concat, List.dropLast_concat]

theorem isSafeInteger_max {x y : ℚ} (hx : isSafeInteger x = true) (hy : isSafeInteger y = true) :
    isSafeInteger (max x y) = true := by
  rcases max_choice x y with h | h
  · rw [h]
    exact hx
  · rw [h]
    exact hy

/-- **One round.** -/
theorem Merging.step (h : Merging all (gap :: rest)) : Merging (mergeGap all gap) rest := by
  have hgap := h.pending gap List.mem_cons_self
  have hpending : ∀ next ∈ rest, next.valid = true := fun next hmem =>
    h.pending next (List.mem_cons_of_mem _ hmem)
  obtain ⟨hfirst, hsorted⟩ := List.pairwise_cons.mp h.sorted
  induction all using List.reverseRecOn with
  | nil =>
      rw [mergeGap_nil]
      refine ⟨List.pairwise_singleton _ _, ?_, ?_, hpending, hsorted⟩
      · intro g hg
        rw [List.mem_singleton.mp hg]
        exact hgap
      · intro g hg next hnext
        rw [List.mem_singleton.mp hg]
        exact hfirst next hnext
  | append_singleton _ last =>
      have hlast := h.valid last (List.mem_append_right _ (List.mem_singleton_self _))
      obtain ⟨hinit, -, hbetween⟩ := List.pairwise_append.mp h.separated
      have hbefore : last.from_ ≤ gap.from_ :=
        h.before last (List.mem_append_right _ (List.mem_singleton_self _)) gap List.mem_cons_self
      obtain ⟨hlast_from, hlast_to, hlast_le⟩ := Gap.valid_iff.mp hlast
      obtain ⟨-, hgap_to, -⟩ := Gap.valid_iff.mp hgap
      rw [mergeGap_concat]
      by_cases hjoin : gap.from_ ≤ last.to_ + 1
      · rw [if_pos hjoin]
        refine ⟨?_, ?_, ?_, hpending, hsorted⟩
        · rw [Separated, List.pairwise_append]
          refine ⟨hinit, List.pairwise_singleton _ _, ?_⟩
          intro a ha b hb
          rw [List.mem_singleton.mp hb]
          exact hbetween a ha last (List.mem_singleton_self _)
        · intro g hg
          rcases List.mem_append.mp hg with hold | hnew
          · exact h.valid g (List.mem_append_left _ hold)
          · rw [List.mem_singleton.mp hnew]
            exact Gap.valid_iff.mpr
              ⟨hlast_from, isSafeInteger_max hlast_to hgap_to, hlast_le.trans (le_max_left _ _)⟩
        · intro g hg next hnext
          rcases List.mem_append.mp hg with hold | hnew
          · exact h.before g (List.mem_append_left _ hold) next (List.mem_cons_of_mem _ hnext)
          · rw [List.mem_singleton.mp hnew]
            exact hbefore.trans (hfirst next hnext)
      · rw [if_neg hjoin]
        rw [not_le] at hjoin
        refine ⟨?_, ?_, ?_, hpending, hsorted⟩
        · rw [Separated, List.pairwise_append]
          refine ⟨h.separated, List.pairwise_singleton _ _, ?_⟩
          intro a ha b hb
          rw [List.mem_singleton.mp hb]
          rcases List.mem_append.mp ha with hold | hnew
          · have := hbetween a hold last (List.mem_singleton_self _)
            linarith
          · rw [List.mem_singleton.mp hnew]
            exact hjoin
        · intro g hg
          rcases List.mem_append.mp hg with hold | hnew
          · exact h.valid g hold
          · rw [List.mem_singleton.mp hnew]
            exact hgap
        · intro g hg next hnext
          rcases List.mem_append.mp hg with hold | hnew
          · exact h.before g hold next (List.mem_cons_of_mem _ hnext)
          · rw [List.mem_singleton.mp hnew]
            exact hfirst next hnext

/-- The first gap lies within the second. -/
def Gap.Within (g h : Gap) : Prop := h.from_ ≤ g.from_ ∧ g.to_ ≤ h.to_

/-- One round covers one gap more. -/
theorem Merging.contains_mergeGap (h : Merging all (gap :: rest)) :
    (∃ g ∈ mergeGap all gap, g.Contains p) ↔ (∃ g ∈ all, g.Contains p) ∨ gap.Contains p := by
  induction all using List.reverseRecOn with
  | nil =>
      rw [mergeGap_nil]
      simp
  | append_singleton _ last =>
      have hbefore : last.from_ ≤ gap.from_ :=
        h.before last (List.mem_append_right _ (List.mem_singleton_self _)) gap List.mem_cons_self
      have hlast := h.valid last (List.mem_append_right _ (List.mem_singleton_self _))
      obtain ⟨-, hlast_to, -⟩ := Gap.valid_iff.mp hlast
      obtain ⟨n, hn⟩ := isSafeInteger_cast hlast_to
      rw [mergeGap_concat]
      by_cases hjoin : gap.from_ ≤ last.to_ + 1
      · rw [if_pos hjoin]
        -- The joined gap has no position that neither of the two has, as their ends are integers.
        have hjoined : Gap.Contains { last with to_ := max last.to_ gap.to_ } p ↔
            last.Contains p ∨ gap.Contains p := by
          simp only [Gap.Contains, le_max_iff]
          constructor
          · rintro ⟨hfrom, hto | hto⟩
            · exact .inl ⟨hfrom, hto⟩
            · by_cases hle : (p : ℚ) ≤ last.to_
              · exact .inl ⟨hfrom, hle⟩
              · refine .inr ⟨hjoin.trans ?_, hto⟩
                rw [hn] at hle ⊢
                have hlt : n < p := by exact_mod_cast not_le.mp hle
                exact_mod_cast Int.add_one_le_of_lt hlt
          · rintro (⟨hfrom, hto⟩ | ⟨hfrom, hto⟩)
            · exact ⟨hfrom, .inl hto⟩
            · exact ⟨hbefore.trans hfrom, .inr hto⟩
        simp only [List.mem_append, List.mem_singleton, or_and_right, exists_or, exists_eq_left, hjoined]
        rw [or_assoc]
      · rw [if_neg hjoin]
        simp only [List.mem_append, List.mem_singleton, or_and_right, exists_or, exists_eq_left]

/-- One round keeps what is covered, and covers the gap. -/
theorem Merging.within_mergeGap (h : Merging all (gap :: rest))
    (hg : (∃ m ∈ all, g.Within m) ∨ g = gap) : ∃ m ∈ mergeGap all gap, g.Within m := by
  induction all using List.reverseRecOn with
  | nil =>
      rw [mergeGap_nil]
      rcases hg with ⟨m, hm, -⟩ | rfl
      · exact absurd hm List.not_mem_nil
      · exact ⟨g, List.mem_singleton_self _, le_refl _, le_refl _⟩
  | append_singleton _ last =>
      have hbefore : last.from_ ≤ gap.from_ :=
        h.before last (List.mem_append_right _ (List.mem_singleton_self _)) gap List.mem_cons_self
      rw [mergeGap_concat]
      by_cases hjoin : gap.from_ ≤ last.to_ + 1
      · rw [if_pos hjoin]
        rcases hg with ⟨m, hm, hwithin⟩ | rfl
        · rcases List.mem_append.mp hm with hinit | hlast
          · exact ⟨m, List.mem_append_left _ hinit, hwithin⟩
          · rw [List.mem_singleton.mp hlast] at hwithin
            exact ⟨_, List.mem_append_right _ (List.mem_singleton_self _), hwithin.1,
              hwithin.2.trans (le_max_left _ _)⟩
        · exact ⟨_, List.mem_append_right _ (List.mem_singleton_self _), hbefore, le_max_right _ _⟩
      · rw [if_neg hjoin]
        rcases hg with ⟨m, hm, hwithin⟩ | rfl
        · exact ⟨m, List.mem_append_left _ hm, hwithin⟩
        · exact ⟨g, List.mem_append_right _ (List.mem_singleton_self _), le_refl _, le_refl _⟩

/-- **All rounds.** -/
theorem Merging.foldl (h : Merging all rest) :
    Merging (rest.foldl mergeGap all) [] ∧
      (∀ p, (∃ g ∈ rest.foldl mergeGap all, g.Contains p) ↔
        (∃ g ∈ all, g.Contains p) ∨ ∃ g ∈ rest, g.Contains p) ∧
      ∀ g, (∃ m ∈ all, g.Within m) ∨ g ∈ rest → ∃ m ∈ rest.foldl mergeGap all, g.Within m := by
  induction rest generalizing all with
  | nil =>
      refine ⟨h, fun p => ?_, fun g hg => ?_⟩
      · simp
      · exact hg.resolve_right List.not_mem_nil
  | cons _ _ ih =>
      obtain ⟨hmerging, hcontains, hwithin⟩ := ih h.step
      rw [List.foldl_cons]
      refine ⟨hmerging, fun p => ?_, fun g hg => ?_⟩
      · rw [hcontains p, h.contains_mergeGap, List.exists_mem_cons_iff, or_assoc]
      · apply hwithin
        rcases hg with hall | hmem
        · exact .inl (h.within_mergeGap (.inl hall))
        · rcases List.mem_cons.mp hmem with heq | htail
          · exact .inl (h.within_mergeGap (.inr heq))
          · exact .inr htail

theorem Merging.start (gaps : List Gap) :
    Merging [] ((gaps.filter Gap.valid).insertionSort fun a b => a.from_ ≤ b.from_) where
  separated := List.Pairwise.nil
  valid _ hmem := absurd hmem List.not_mem_nil
  before _ hmem := absurd hmem List.not_mem_nil
  pending next hmem := List.of_mem_filter ((List.mem_insertionSort _).mp hmem)
  sorted := by
    have : IsTrans Gap fun a b => a.from_ ≤ b.from_ := ⟨fun _ _ _ => le_trans⟩
    have : Std.Total fun a b : Gap => a.from_ ≤ b.from_ := ⟨fun a b => le_total a.from_ b.from_⟩
    exact List.pairwise_insertionSort _ _

theorem mem_sorted_iff : (g ∈ (gaps.filter Gap.valid).insertionSort fun a b => a.from_ ≤ b.from_) ↔
    g ∈ gaps ∧ g.valid = true := by
  rw [List.mem_insertionSort, List.mem_filter]

/-- **The normal form of some gaps**: sorted, disjoint intervals that are not adjacent, of exactly
the positions of the valid ones. -/
theorem normaliseGaps_spec (gaps : List Gap) :
    Separated (normaliseGaps gaps) ∧ (∀ g ∈ normaliseGaps gaps, g.valid = true) ∧
      ∀ p, (∃ g ∈ normaliseGaps gaps, g.Contains p) ↔ ∃ g ∈ gaps, g.valid = true ∧ g.Contains p := by
  obtain ⟨hmerging, hcontains, -⟩ := (Merging.start gaps).foldl
  refine ⟨hmerging.separated, hmerging.valid, fun p => ?_⟩
  rw [normaliseGaps, hcontains p]
  simp [mem_sorted_iff, and_assoc]

/-- A valid gap lies within one interval of the normal form. -/
theorem within_normaliseGaps (hmem : g ∈ gaps) (hvalid : g.valid = true) :
    ∃ m ∈ normaliseGaps gaps, g.Within m :=
  (Merging.start gaps).foldl.2.2 g (.inr (mem_sorted_iff.mpr ⟨hmem, hvalid⟩))

end Normalise

/-! ## Bounds -/

section Bounds

variable {dependencies : List Dependency} {rows : Rows} {t : ℚ} {dep : Dependency}

/-- A dependency without an override does not block, and bounds its consumer by its finality. -/
theorem judge_eq_inr {through : ℚ} : judge rows (fun _ => none) dep = .inr through ↔
    ∃ wm, rows dep.source = some wm ∧ (∀ g ∈ wm.gaps, wm.finalizedThrough < g.from_) ∧
      dep.minimumFinality ≤ wm.finalizedThrough ∧ through = wm.finalizedThrough := by
  unfold judge
  cases hrow : rows dep.source with
  | none => simp
  | some wm =>
      cases hgap : wm.gaps.find? (fun g => g.from_ ≤ wm.finalizedThrough) with
      | some gap =>
          have hmem := List.mem_of_find?_eq_some hgap
          have hle : gap.from_ ≤ wm.finalizedThrough := by simpa using List.find?_some hgap
          simp only [hgap, reduceCtorEq, Option.some.injEq, exists_eq_left', false_iff, not_and]
          intro hall
          exact absurd (hall gap hmem) (not_lt.mpr hle)
      | none =>
          have hall : ∀ g ∈ wm.gaps, wm.finalizedThrough < g.from_ := by
            intro g hg
            have := List.find?_eq_none.mp hgap g hg
            simpa using this
          by_cases hlow : wm.finalizedThrough < dep.minimumFinality
          · simp [hgap, hlow, not_le.mpr hlow]
          · simp only [hgap, hlow, if_false, Sum.inr.injEq, Option.some.injEq, exists_eq_left',
              not_lt.mp hlow, true_and]
            rw [eq_comm, and_iff_right hall]

/-- **What a bound says.** -/
theorem through_eq_some (h : (inspect dependencies rows).through = some t) :
    (∀ dep ∈ dependencies, ∃ wm, rows dep.source = some wm ∧
      (∀ g ∈ wm.gaps, wm.finalizedThrough < g.from_) ∧ dep.minimumFinality ≤ wm.finalizedThrough ∧
        t ≤ wm.finalizedThrough) ∧
    ∃ dep ∈ dependencies, ∃ wm, rows dep.source = some wm ∧ t = wm.finalizedThrough := by
  rw [inspect, boundedWatermark] at h
  dsimp only at h
  by_cases hblocked : (dependencies.filterMap fun dep =>
      (judge rows (fun _ => none) dep).getLeft?.map fun reason => (dep.source, reason)) = []
  · rw [if_pos hblocked, minimum, List.min?_eq_some_iff] at h
    obtain ⟨hmem, hmin⟩ := h
    have hjudged : ∀ dep ∈ dependencies, ∃ through, judge rows (fun _ => none) dep = .inr through := by
      intro dep hdep
      have hnone := List.filterMap_eq_nil_iff.mp hblocked dep hdep
      rw [Option.map_eq_none_iff, Sum.getLeft?_eq_none_iff, Sum.isRight_iff] at hnone
      exact hnone
    constructor
    · intro dep hdep
      obtain ⟨through, hthrough⟩ := hjudged dep hdep
      obtain ⟨wm, hrow, hgaps, hfinality, heq⟩ := judge_eq_inr.mp hthrough
      refine ⟨wm, hrow, hgaps, hfinality, ?_⟩
      rw [← heq]
      exact hmin _ (List.mem_filterMap.mpr ⟨dep, hdep, by rw [hthrough]; rfl⟩)
    · obtain ⟨dep, hdep, hright⟩ := List.mem_filterMap.mp hmem
      rw [Sum.getRight?_eq_some_iff] at hright
      obtain ⟨wm, hrow, -, -, heq⟩ := judge_eq_inr.mp hright
      exact ⟨dep, hdep, wm, hrow, heq⟩
  · rw [if_neg hblocked] at h
    cases h

end Bounds

/-! ## Runs of publishes -/

section Publishes

variable {w : World} {published : List PublishInput} {input : PublishInput} {source : String}

theorem publishesOf_concat_self :
    publishesOf (published ++ [input]) input.source = publishesOf published input.source ++ [input] := by
  rw [publishesOf, List.filter_append, List.filter_cons_of_pos (by simp), List.filter_nil, publishesOf]

theorem publishesOf_concat_of_ne (h : source ≠ input.source) :
    publishesOf (published ++ [input]) source = publishesOf published source := by
  rw [publishesOf, List.filter_append, List.filter_cons_of_neg (by simpa using h.symm), List.filter_nil,
    List.append_nil, publishesOf]

theorem reached_concat_self : reached (published ++ [input]) input.source =
    max input.finalizedThrough (reached published input.source) := by
  rw [reached, publishesOf_concat_self, List.foldl_concat, reached]

theorem reached_concat_of_ne (h : source ≠ input.source) :
    reached (published ++ [input]) source = reached published source := by
  rw [reached, publishesOf_concat_of_ne h, reached]

theorem latestGaps_concat_self : latestGaps (published ++ [input]) input.source = input.gaps := by
  rw [latestGaps, publishesOf_concat_self, List.getLast?_concat, Option.elim_some]

theorem latestGaps_concat_of_ne (h : source ≠ input.source) :
    latestGaps (published ++ [input]) source = latestGaps published source := by
  rw [latestGaps, publishesOf_concat_of_ne h, latestGaps]

/-- What the rows say of the publishes: the finality of a source is the greatest published, and the
gaps of its latest publish are there as far as they reach beyond it. -/
structure Tracked (w : World) : Prop where
  unpublished : ∀ source, w.rows source = none → publishesOf w.published source = []
  finality : ∀ source wm, w.rows source = some wm → wm.finalizedThrough = reached w.published source
  gaps : ∀ source wm, w.rows source = some wm → ∀ g ∈ latestGaps w.published source, g.valid = true →
    reached w.published source < g.to_ → ∃ m ∈ wm.gaps, g.Within m

theorem Tracked.initial : Tracked World.initial where
  unpublished _ _ := rfl
  finality _ _ hrow := by cases hrow
  gaps _ _ hrow := by cases hrow

/-- **One publish.** -/
theorem Tracked.step (h : Tracked w) (input : PublishInput) : Tracked (IngestionWatermark.step w input) := by
  unfold IngestionWatermark.step
  by_cases hover : input.finalizedThrough > input.coveredThrough
  · rw [publish, if_pos hover]
    exact h
  by_cases hconflict : ((w.rows input.source).any fun row =>
      input.expectedVersion.any fun version => row.version ≠ version) = true
  · rw [publish, if_neg hover]
    dsimp only
    rw [if_pos hconflict]
    exact h
  rw [publish, if_neg hover]
  dsimp only
  rw [if_neg hconflict]
  dsimp only
  have hbefore : (w.rows input.source).elim 0 SourceWatermark.finalizedThrough =
      reached w.published input.source := by
    cases hrow : w.rows input.source with
    | none => rw [reached, h.unpublished _ hrow, List.foldl_nil, Option.elim_none]
    | some wm => exact h.finality _ wm hrow
  constructor
  · intro source hrow
    dsimp only at hrow ⊢
    by_cases hsource : source = input.source
    · rw [hsource, Function.update_self] at hrow
      cases hrow
    · rw [Function.update_of_ne hsource] at hrow
      rw [publishesOf_concat_of_ne hsource]
      exact h.unpublished source hrow
  · intro source wm hrow
    dsimp only at hrow ⊢
    by_cases hsource : source = input.source
    · subst hsource
      rw [Function.update_self, Option.some.injEq] at hrow
      rw [← hrow, reached_concat_self, hbefore]
    · rw [Function.update_of_ne hsource] at hrow
      rw [reached_concat_of_ne hsource]
      exact h.finality source wm hrow
  · intro source wm hrow g hg hvalid hbeyond
    dsimp only at hrow hg hbeyond
    by_cases hsource : source = input.source
    · subst hsource
      rw [latestGaps_concat_self] at hg
      rw [reached_concat_self] at hbeyond
      rw [Function.update_self, Option.some.injEq] at hrow
      rw [← hrow]
      obtain ⟨m, hm, hwithin⟩ := within_normaliseGaps
        (List.mem_append_right ((w.rows input.source).elim [] SourceWatermark.gaps) hg) hvalid
      refine ⟨m, List.mem_filter.mpr ⟨hm, ?_⟩, hwithin⟩
      rw [hbefore, decide_eq_true_eq]
      exact hbeyond.trans_le hwithin.2
    · rw [Function.update_of_ne hsource] at hrow
      rw [latestGaps_concat_of_ne hsource] at hg
      rw [reached_concat_of_ne hsource] at hbeyond
      exact h.gaps source wm hrow g hg hvalid hbeyond

theorem tracked_run (inputs : List PublishInput) : Tracked (Runs.run step World.initial inputs) :=
  Runs.run_invariant (C := fun _ _ => True) (fun h _ => h.step _) Tracked.initial
    (Runs.Along.of_forall fun _ _ => trivial)

end Publishes

/-- No gap passed in the latest publish of a dependency has a position up to `t`. -/
def ClearOfGaps (published : List PublishInput) (dependencies : List Dependency) (t : ℚ) : Prop :=
  ∀ dep ∈ dependencies, ∀ g ∈ latestGaps published dep.source, ∀ p : ℤ, g.Contains p → t < p

/-- Every gap passed in the latest publish of a dependency is valid and reaches beyond the finality
of its source, or lies beyond the finality of one of the dependencies. -/
def GapsReachBeyond (published : List PublishInput) (dependencies : List Dependency) : Prop :=
  ∀ dep ∈ dependencies, ∀ g ∈ latestGaps published dep.source,
    (g.valid = true ∧ reached published dep.source < g.to_) ∨
      ∃ dep' ∈ dependencies, ∀ p : ℤ, g.Contains p → reached published dep'.source < p

/-- **When a bound does not cross a known gap.** Gaps have the normal form that they should have, and
after every run of publishes a bound is at most the finality of every dependency, each of which
has the finality that it needs. The bound is clear of the gaps passed in the latest publishes if and
only if these reach beyond the finality. -/
theorem bounded_clear_iff (gaps : List Gap) (inputs : List PublishInput) (dependencies : List Dependency)
    (t : ℚ) (h : (inspect dependencies (Runs.run step World.initial inputs).rows).through = some t) :
    (Separated (normaliseGaps gaps) ∧ (∀ g ∈ normaliseGaps gaps, g.from_ ≤ g.to_) ∧
      ∀ p, (∃ g ∈ normaliseGaps gaps, g.Contains p) ↔ ∃ g ∈ gaps, g.valid = true ∧ g.Contains p) ∧
    (∀ dep ∈ dependencies, ∃ wm, (Runs.run step World.initial inputs).rows dep.source = some wm ∧
      t ≤ wm.finalizedThrough ∧ dep.minimumFinality ≤ wm.finalizedThrough) ∧
    (ClearOfGaps (Runs.run step World.initial inputs).published dependencies t ↔
      GapsReachBeyond (Runs.run step World.initial inputs).published dependencies) := by
  obtain ⟨hseparated, hvalid, hcontains⟩ := normaliseGaps_spec gaps
  have htracked := tracked_run inputs
  obtain ⟨hbounds, least, hleast, wm₀, hrow₀, rfl⟩ := through_eq_some h
  refine ⟨⟨hseparated, fun g hg => (Gap.valid_iff.mp (hvalid g hg)).2.2, hcontains⟩, ?_, ?_, ?_⟩
  · intro dep hdep
    obtain ⟨wm, hrow, -, hfinality, hle⟩ := hbounds dep hdep
    exact ⟨wm, hrow, hle, hfinality⟩
  · intro hclear dep hdep g hg
    refine .inr ⟨least, hleast, fun p hp => ?_⟩
    rw [← htracked.finality _ wm₀ hrow₀]
    exact hclear dep hdep g hg p hp
  · intro hbeyond dep hdep g hg p hp
    obtain ⟨wm, hrow, hgaps, -, hle⟩ := hbounds dep hdep
    rcases hbeyond dep hdep g hg with ⟨hgvalid, hreach⟩ | ⟨dep', hdep', hafter⟩
    · -- The gap is there, so it begins after the finality, or the dependency would block.
      obtain ⟨m, hm, hwithin⟩ := htracked.gaps _ wm hrow g hg hgvalid hreach
      calc wm₀.finalizedThrough ≤ wm.finalizedThrough := hle
        _ < m.from_ := hgaps m hm
        _ ≤ g.from_ := hwithin.1
        _ ≤ p := hp.1
    · obtain ⟨wm', hrow', -, -, hle'⟩ := hbounds dep' hdep'
      rw [htracked.finality _ wm' hrow'] at hle'
      exact hle'.trans_lt (hafter p hp)

/-- A source is final through 120, and the publish that says so reports that 101 to 104 are missing. -/
def publishedGap : List PublishInput :=
  [{ source := "horizon", coveredThrough := 120, finalizedThrough := 120, gaps := [⟨101, 104⟩],
     expectedVersion := none }]

theorem bounded_clear_iff_published :
    ClearOfGaps (Runs.run step World.initial publishedGap).published [⟨"horizon", 0⟩] 120 ↔
      GapsReachBeyond (Runs.run step World.initial publishedGap).published [⟨"horizon", 0⟩] :=
  (bounded_clear_iff [] publishedGap [⟨"horizon", 0⟩] 120 (by decide +kernel)).2.2

/-- The bound crosses the gap that has just been published. -/
theorem bounded_crosses_gap :
    ¬∀ (inputs : List PublishInput) (dependencies : List Dependency) (t : ℚ),
      (inspect dependencies (Runs.run step World.initial inputs).rows).through = some t →
        ClearOfGaps (Runs.run step World.initial inputs).published dependencies t := by
  intro hclaim
  have hclear := hclaim publishedGap [⟨"horizon", 0⟩] 120 (by decide +kernel)
  have hcrossed := hclear ⟨"horizon", 0⟩ (List.mem_singleton_self _) ⟨101, 104⟩ (by decide +kernel) 101
    ⟨by norm_num, by norm_num⟩
  norm_num at hcrossed

end BridgeWatch.IngestionWatermark

/-
The price aggregate of the backend, `services/bftOracleAggregator.service.ts`.

The numbers are real numbers. What the service writes to the database, the slashing of providers, the
identifier and the signature of a round are left out, and so are the fields of reports and nodes that
the aggregate does not read.

Each estimator of the service returns a value between the smallest and the largest of the values that
it gets, which is all that its place in the aggregate rests on.
-/
import Mathlib.Algebra.Order.BigOperators.Group.List
import Mathlib.Algebra.Order.Floor.Semifield
import Mathlib.Analysis.Real.Sqrt
import Mathlib.Data.List.GetD
import Mathlib.Data.List.Sort

set_option autoImplicit false

namespace BridgeWatch.BftOracleAggregator

noncomputable section

/-! ## Data -/

structure OracleReport where
  providerKey : String
  price : ℝ

inductive ProviderStatus where
  | active
  | slashed
  | degraded
  | suspended
  deriving DecidableEq

structure OracleProviderNode where
  providerKey : String
  stakeWeight : ℝ
  status : ProviderStatus
  slashed : Bool

structure EvaluatedOracleSample where
  providerKey : String
  price : ℝ
  stakeWeight : ℝ
  zScore : ℝ
  isOutlier : Bool
  isSlashed : Bool

structure BftConsensusResult where
  consensusPrice : ℝ
  medianOfMediansPrice : ℝ
  weightedMedianPrice : ℝ
  trimmedMeanPrice : ℝ
  meanPrice : ℝ
  stdDev : ℝ
  totalProviders : ℕ
  reportingProviders : ℕ
  validProviders : ℕ
  quorumReached : Bool
  requiredQuorum : ℤ
  maxByzantineTolerance : ℤ
  samples : List EvaluatedOracleSample
  slashedProviders : List String

/-- The fraction of the reports that is trimmed from each tail. -/
def TRIM_RATIO : ℝ := 0.2

/-- A report that deviates by more than this from the median is rejected. -/
def OUTLIER_SIGMA_THRESHOLD : ℝ := 3

/-! ## Estimators -/

/-- `[...values].sort((a, b) => a - b)`. -/
def sort (values : List ℝ) : List ℝ := values.insertionSort (· ≤ ·)

def mean (values : List ℝ) : ℝ :=
  if values.length = 0 then 0 else values.foldl (fun sum v => sum + v) 0 / values.length

def median (values : List ℝ) : ℝ :=
  if values.length = 0 then 0
  else
    let sorted := sort values
    let mid := sorted.length / 2
    if sorted.length % 2 = 0 then (sorted.getD (mid - 1) 0 + sorted.getD mid 0) / 2
    else sorted.getD mid 0

def trimmedMean (values : List ℝ) (trimRatio : ℝ) : ℝ :=
  if values.length = 0 then 0
  else
    let sorted := sort values
    let trimCount := ⌊(sorted.length : ℝ) * trimRatio⌋₊
    if sorted.length ≤ 2 * trimCount then median sorted
    else mean ((sorted.take (sorted.length - trimCount)).drop trimCount)

def stdDev (values : List ℝ) (mu : Option ℝ) : ℝ :=
  if values.length < 2 then 0
  else
    let avg := mu.getD (mean values)
    let variance := values.foldl (fun sum v => sum + (v - avg) ^ 2) 0 / (values.length - 1)
    √variance

def robustStdDev (values : List ℝ) (center : ℝ) : ℝ :=
  if values.length < 2 then 0
  else
    let absDevs := values.map fun v => |v - center|
    let mad := median absDevs
    let madSigma := 1.4826 * mad
    if madSigma > 1e-9 then madSigma else stdDev values (some center)

/-- The default size of a group. -/
def groupSize : ℕ := 5

/-- The groups of consecutive values. -/
def groups : List ℝ → List (List ℝ)
  | [] => []
  | v :: values => (v :: values).take groupSize :: groups ((v :: values).drop groupSize)
  termination_by values => values.length
  decreasing_by
    rw [List.length_drop, List.length_cons, groupSize]
    omega

theorem length_groups (values : List ℝ) : (groups values).length = (values.length + 4) / 5 := by
  induction values using groups.induct with
  | case1 => simp [groups]
  | case2 _ _ ih =>
      rw [groups, List.length_cons, ih, List.length_drop, List.length_cons, groupSize]
      omega

def medianOfMedians (values : List ℝ) : ℝ :=
  if values.length = 0 then 0
  else if values.length ≤ groupSize then median values
  else medianOfMedians ((groups values).map median)
  termination_by values.length
  decreasing_by
    rename_i hlong
    rw [groupSize] at hlong
    rw [List.length_map, length_groups]
    omega

structure WeightedPrice where
  price : ℝ
  weight : ℝ

/-- The loop of `weightedStakeMedian`: the first price that brings the weight to one half. -/
def firstToHalf (halfWeight : ℝ) : List WeightedPrice → ℝ → Option ℝ
  | [], _ => none
  | item :: items, cumulative =>
      if cumulative + item.weight ≥ halfWeight then some item.price
      else firstToHalf halfWeight items (cumulative + item.weight)

def weightedStakeMedian (items : List WeightedPrice) : ℝ :=
  match items with
  | [] => 0
  | [item] => item.price
  | items =>
      let sorted := items.insertionSort fun a b => a.price ≤ b.price
      let totalWeight := sorted.foldl (fun sum item => sum + item.weight) 0
      if totalWeight ≤ 0 then median (sorted.map WeightedPrice.price)
      else
        (firstToHalf (totalWeight / 2) sorted 0).getD ((sorted.map WeightedPrice.price).getLastD 0)

/-! ## The aggregate -/

/-- The map of the nodes by their keys, in which a later node replaces an earlier one. -/
def nodeMap (nodes : List OracleProviderNode) (providerKey : String) : Option OracleProviderNode :=
  (nodes.filter fun node => node.providerKey = providerKey).getLast?

/-- What stands for a provider that is not registered. -/
def unregistered (providerKey : String) : OracleProviderNode :=
  { providerKey, stakeWeight := 1, status := .active, slashed := false }

/-- The first report of every provider that is not slashed, with its node. -/
def validReports (nodes : List OracleProviderNode) :
    List String → List OracleReport → List (OracleReport × OracleProviderNode)
  | _, [] => []
  | seenProviders, report :: reports =>
      if report.providerKey ∈ seenProviders then validReports nodes seenProviders reports
      else
        let node := (nodeMap nodes report.providerKey).getD (unregistered report.providerKey)
        let rest := validReports nodes (report.providerKey :: seenProviders) reports
        if node.slashed = false ∧ node.status ≠ .slashed then (report, node) :: rest else rest

/-- The price that the deviations are first measured from. -/
def initialConsensus (valid : List (OracleReport × OracleProviderNode)) : ℝ :=
  let initialMedMed := medianOfMedians (valid.map fun item => item.1.price)
  let initialWeightedMed := weightedStakeMedian
    (valid.map fun item => { price := item.1.price, weight := item.2.stakeWeight })
  (initialMedMed + initialWeightedMed) / 2

/-- The reports with what the service finds about each. -/
def evaluateSamples (valid : List (OracleReport × OracleProviderNode)) :
    List EvaluatedOracleSample :=
  let initialPrices := valid.map fun item => item.1.price
  let initialSigma := robustStdDev initialPrices (initialConsensus valid)
  let initialCenter := median initialPrices
  valid.map fun item =>
    let z := if initialSigma > 0 then |(item.1.price - initialCenter) / initialSigma| else 0
    let isOutlier : Bool := initialPrices.length ≥ 3 ∧ z > OUTLIER_SIGMA_THRESHOLD
    { providerKey := item.1.providerKey, price := item.1.price, stakeWeight := item.2.stakeWeight,
      zScore := z, isOutlier, isSlashed := isOutlier }

/-- Prices with one weight. -/
def weighted (w : ℝ) (p : List ℝ) : List WeightedPrice := p.map fun v => { price := v, weight := w }

/-- The outlier test on a price among others, with equal stakes. -/
def Outlier (w : ℝ) (p : List ℝ) (v : ℝ) : Prop :=
  let sigma := robustStdDev p ((medianOfMedians p + weightedStakeMedian (weighted w p)) / 2)
  p.length ≥ 3 ∧ (if sigma > 0 then |(v - median p) / sigma| else 0) > OUTLIER_SIGMA_THRESHOLD

def aggregateBftState (reports : List OracleReport) (nodes : List OracleProviderNode) :
    BftConsensusResult :=
  let valid := validReports nodes [] reports
  let totalN := max nodes.length reports.length
  let f : ℤ := ((totalN : ℤ) - 1) / 3
  let requiredQuorum := 2 * f + 1
  let reportingCount := valid.length
  if (reportingCount : ℤ) < requiredQuorum ∨ reportingCount = 0 then
    { consensusPrice := 0, medianOfMediansPrice := 0, weightedMedianPrice := 0,
      trimmedMeanPrice := 0, meanPrice := 0, stdDev := 0, totalProviders := totalN,
      reportingProviders := reportingCount, validProviders := 0, quorumReached := false,
      requiredQuorum, maxByzantineTolerance := f, samples := [], slashedProviders := [] }
  else
    let evaluatedSamples := evaluateSamples valid
    let slashedProviders :=
      (evaluatedSamples.filter fun s => s.isOutlier).map EvaluatedOracleSample.providerKey
    let nonOutliers := evaluatedSamples.filter fun s => !s.isOutlier
    let finalPrices := nonOutliers.map EvaluatedOracleSample.price
    let finalMedMed := medianOfMedians finalPrices
    let finalWeightedMed := weightedStakeMedian
      (nonOutliers.map fun s => { price := s.price, weight := s.stakeWeight })
    let finalTrimmedMean := trimmedMean finalPrices TRIM_RATIO
    let finalConsensus :=
      if nonOutliers.length > 0 then (finalMedMed + finalWeightedMed + finalTrimmedMean) / 3
      else initialConsensus valid
    let finalMean := mean finalPrices
    { consensusPrice := finalConsensus, medianOfMediansPrice := finalMedMed,
      weightedMedianPrice := finalWeightedMed, trimmedMeanPrice := finalTrimmedMean,
      meanPrice := finalMean, stdDev := stdDev finalPrices (some finalMean),
      totalProviders := totalN, reportingProviders := reportingCount,
      validProviders := nonOutliers.length,
      quorumReached := decide ((nonOutliers.length : ℤ) ≥ requiredQuorum),
      requiredQuorum, maxByzantineTolerance := f, samples := evaluatedSamples, slashedProviders }

/-! ## The range of the estimators -/

section Range

variable {lo hi : ℝ} {values : List ℝ}

theorem mean_eq (h : values ≠ []) : mean values = values.sum / values.length := by
  rw [mean, if_neg (by simpa using h), ← List.sum_eq_foldl]

theorem mean_mem (h : values ≠ []) (hvalues : ∀ v ∈ values, v ∈ Set.Icc lo hi) :
    mean values ∈ Set.Icc lo hi := by
  have hpos : (0 : ℝ) < values.length := by exact_mod_cast List.length_pos_iff.mpr h
  rw [mean_eq h]
  constructor
  · rw [le_div_iff₀ hpos, mul_comm, ← nsmul_eq_mul]
    exact List.card_nsmul_le_sum values lo fun v hv => (hvalues v hv).1
  · rw [div_le_iff₀ hpos, mul_comm, ← nsmul_eq_mul]
    exact List.sum_le_card_nsmul values hi fun v hv => (hvalues v hv).2

/-- The middle between two values of a range is in the range. -/
theorem half_sum_mem {x y : ℝ} (hx : x ∈ Set.Icc lo hi) (hy : y ∈ Set.Icc lo hi) :
    (x + y) / 2 ∈ Set.Icc lo hi := by
  obtain ⟨hx₁, hx₂⟩ := hx
  obtain ⟨hy₁, hy₂⟩ := hy
  constructor <;> linarith

theorem length_sort (values : List ℝ) : (sort values).length = values.length :=
  List.length_insertionSort ..

theorem sort_getD_mem {i : ℕ} (hi : i < values.length) : (sort values).getD i 0 ∈ values := by
  rw [List.getD_eq_getElem _ _ (by rwa [length_sort])]
  exact (List.mem_insertionSort _).mp (List.getElem_mem _)

theorem median_mem (h : values ≠ []) (hvalues : ∀ v ∈ values, v ∈ Set.Icc lo hi) :
    median values ∈ Set.Icc lo hi := by
  have hpos : 0 < values.length := List.length_pos_iff.mpr h
  rw [median, if_neg (by simpa using h)]
  dsimp only
  rw [length_sort]
  by_cases heven : values.length % 2 = 0
  · rw [if_pos heven]
    exact half_sum_mem (hvalues _ (sort_getD_mem (by omega))) (hvalues _ (sort_getD_mem (by omega)))
  · rw [if_neg heven]
    exact hvalues _ (sort_getD_mem (by omega))

theorem ne_nil_and_subset_of_mem_groups {group : List ℝ} (h : group ∈ groups values) :
    group ≠ [] ∧ group ⊆ values := by
  induction values using groups.induct with
  | case1 =>
      rw [groups] at h
      exact absurd h List.not_mem_nil
  | case2 _ _ ih =>
      rw [groups, List.mem_cons] at h
      rcases h with rfl | h
      · refine ⟨?_, List.take_subset _ _⟩
        rw [groupSize, List.take_succ_cons]
        exact List.cons_ne_nil _ _
      · obtain ⟨hne, hsub⟩ := ih h
        exact ⟨hne, fun x hx => List.drop_subset _ _ (hsub hx)⟩

theorem medianOfMedians_mem (h : values ≠ []) (hvalues : ∀ v ∈ values, v ∈ Set.Icc lo hi) :
    medianOfMedians values ∈ Set.Icc lo hi := by
  induction values using medianOfMedians.induct with
  | case1 _ hzero => exact absurd (List.length_eq_zero_iff.mp hzero) h
  | case2 _ hpos hshort =>
      rw [medianOfMedians, if_neg hpos, if_pos hshort]
      exact median_mem h hvalues
  | case3 _ hpos hlong ih =>
      rw [medianOfMedians, if_neg hpos, if_neg hlong]
      apply ih
      · rw [← List.length_pos_iff, List.length_map, length_groups]
        omega
      · intro m hm
        obtain ⟨group, hgroup, rfl⟩ := List.mem_map.mp hm
        obtain ⟨hne, hsub⟩ := ne_nil_and_subset_of_mem_groups hgroup
        exact median_mem hne fun v hv => hvalues v (hsub hv)

theorem trimmedMean_mem (trimRatio : ℝ) (h : values ≠ [])
    (hvalues : ∀ v ∈ values, v ∈ Set.Icc lo hi) : trimmedMean values trimRatio ∈ Set.Icc lo hi := by
  have hmem : ∀ v ∈ sort values, v ∈ Set.Icc lo hi := fun v hv =>
    hvalues v ((List.mem_insertionSort _).mp hv)
  rw [trimmedMean, if_neg (by simpa using h)]
  dsimp only
  by_cases hall : (sort values).length ≤ 2 * ⌊((sort values).length : ℝ) * trimRatio⌋₊
  · rw [if_pos hall]
    apply median_mem _ hmem
    rw [← List.length_pos_iff, length_sort]
    exact List.length_pos_iff.mpr h
  · rw [if_neg hall]
    apply mean_mem
    · rw [← List.length_pos_iff, List.length_drop, List.length_take]
      omega
    · intro v hv
      exact hmem v (List.mem_of_mem_take (List.mem_of_mem_drop hv))

theorem firstToHalf_mem {halfWeight price : ℝ} {items : List WeightedPrice} {cumulative : ℝ}
    (h : firstToHalf halfWeight items cumulative = some price) :
    price ∈ items.map WeightedPrice.price := by
  induction items generalizing cumulative with
  | nil => cases h
  | cons item _ ih =>
      rw [firstToHalf] at h
      by_cases hhalf : cumulative + item.weight ≥ halfWeight
      · rw [if_pos hhalf, Option.some.injEq] at h
        rw [← h]
        exact List.mem_cons_self
      · rw [if_neg hhalf] at h
        exact List.mem_cons_of_mem _ (ih h)

theorem weightedStakeMedian_mem {items : List WeightedPrice} (h : items ≠ [])
    (hitems : ∀ item ∈ items, item.price ∈ Set.Icc lo hi) :
    weightedStakeMedian items ∈ Set.Icc lo hi := by
  unfold weightedStakeMedian
  split
  · exact absurd rfl h
  · exact hitems _ List.mem_cons_self
  · dsimp only
    have hprices : ∀ price ∈ (items.insertionSort fun a b => a.price ≤ b.price).map WeightedPrice.price,
        price ∈ Set.Icc lo hi := by
      intro price hprice
      obtain ⟨item, hitem, rfl⟩ := List.mem_map.mp hprice
      exact hitems item ((List.mem_insertionSort _).mp hitem)
    have hne : (items.insertionSort fun a b => a.price ≤ b.price).map WeightedPrice.price ≠ [] := by
      rw [← List.length_pos_iff, List.length_map, List.length_insertionSort]
      exact List.length_pos_iff.mpr h
    split
    · exact median_mem hne hprices
    · generalize hfirst : firstToHalf _ _ _ = first
      cases first with
      | none =>
          rw [Option.getD_none, List.getLastD_eq_getLast?, List.getLast?_eq_some_getLast hne,
            Option.getD_some]
          exact hprices _ (List.getLast_mem hne)
      | some price => exact hprices price (firstToHalf_mem hfirst)

end Range

end

end BridgeWatch.BftOracleAggregator

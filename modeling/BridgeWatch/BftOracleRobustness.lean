/-
How far the price aggregate withstands Byzantine reports.

One report comes from each of `n` nodes with equal stakes, and at most `f` of them may carry any
price. The aggregate is the average of three estimates of the reports that the outlier test leaves, so
it lies in the range of these. Up to three nodes no report may be Byzantine. From four nodes on, some
reports take the aggregate out of the range of the honest ones: the trimmed mean leaves out a fifth of
the reports at each end, which is less than `f`, and where most honest prices are the same the test
measures with a standard deviation that the Byzantine reports have widened.
-/
import BridgeWatch.BftOracleAggregator

set_option autoImplicit false

namespace BridgeWatch.BftOracleAggregator

noncomputable section

/-! ## One report from each node -/

/-- Active nodes with equal stakes. -/
structure Registered (nodes : List OracleProviderNode) (w : ℝ) : Prop where
  nonempty : nodes ≠ []
  keys : (nodes.map OracleProviderNode.providerKey).Nodup
  active : ∀ node ∈ nodes, node.status = .active ∧ node.slashed = false
  stake : ∀ node ∈ nodes, node.stakeWeight = w
  pos : 0 < w

/-- One report from each node, in any order. -/
def OneReportEach (nodes : List OracleProviderNode) (reports : List OracleReport) : Prop :=
  (reports.map OracleReport.providerKey).Perm (nodes.map OracleProviderNode.providerKey)

/-- How many nodes may be Byzantine. -/
abbrev tolerance (nodes : List OracleProviderNode) : ℕ := (nodes.length - 1) / 3

/-- The reports that are not Byzantine. -/
def Honest (reports : List OracleReport) (B : Finset String) (r : OracleReport) : Prop :=
  r ∈ reports ∧ r.providerKey ∉ B

/-- A price between two honest ones. -/
def InRange (reports : List OracleReport) (B : Finset String) (price : ℝ) : Prop :=
  (∃ r, Honest reports B r ∧ r.price ≤ price) ∧ ∃ r, Honest reports B r ∧ price ≤ r.price

/-- An aggregate with a quorum is in the range of the honest prices. -/
def Robust (nodes : List OracleProviderNode) (reports : List OracleReport) (B : Finset String) : Prop :=
  (aggregateBftState reports nodes).quorumReached = true →
    InRange reports B (aggregateBftState reports nodes).consensusPrice

/-- Few enough false reports take the aggregate out of the honest range. -/
abbrev Fooled (nodes : List OracleProviderNode) : Prop :=
  ∃ reports B, OneReportEach nodes reports ∧ B.card ≤ tolerance nodes ∧ ¬Robust nodes reports B

open Classical in
/-- The prices that the test leaves. -/
def survivors (w : ℝ) (p : List ℝ) : List ℝ := p.filter fun v => ¬Outlier w p v

section Spec

variable {nodes : List OracleProviderNode} {reports : List OracleReport} {w : ℝ}

theorem nodeMap_eq_some {key : String} (h : key ∈ nodes.map OracleProviderNode.providerKey) :
    ∃ node ∈ nodes, nodeMap nodes key = some node := by
  obtain ⟨node, hnode, rfl⟩ := List.mem_map.mp h
  have hne : (nodes.filter fun other => other.providerKey = node.providerKey) ≠ [] := by
    rw [← List.length_pos_iff]
    exact List.length_pos_of_mem (List.mem_filter.mpr ⟨hnode, by simp⟩)
  refine ⟨_, List.mem_of_mem_filter (List.getLast_mem hne), ?_⟩
  rw [nodeMap, List.getLast?_eq_some_getLast hne]

/-- Every report counts, with the common stake. -/
theorem validReports_eq (h : Registered nodes w) {seen : List String}
    (hseen : ∀ r ∈ reports, r.providerKey ∉ seen)
    (hkeys : (reports.map OracleReport.providerKey).Nodup)
    (hmem : ∀ r ∈ reports, r.providerKey ∈ nodes.map OracleProviderNode.providerKey) :
    (validReports nodes seen reports).map (fun item => (item.1, item.2.stakeWeight)) =
      reports.map fun r => (r, w) := by
  induction reports generalizing seen with
  | nil => rfl
  | cons r _ ih =>
      obtain ⟨node, hnode, hmap⟩ := nodeMap_eq_some (hmem r List.mem_cons_self)
      obtain ⟨hstatus, hslashed⟩ := h.active node hnode
      rw [List.map_cons, List.nodup_cons] at hkeys
      rw [validReports, if_neg (hseen r List.mem_cons_self), hmap, Option.getD_some]
      dsimp only
      rw [if_pos ⟨hslashed, by rw [hstatus]; decide⟩, List.map_cons, List.map_cons, h.stake node hnode,
        ih _ hkeys.2 fun r' hr' => hmem r' (List.mem_cons_of_mem _ hr')]
      intro r' hr'
      rw [List.mem_cons, not_or]
      refine ⟨?_, hseen r' (List.mem_cons_of_mem _ hr')⟩
      intro heq
      exact hkeys.1 (heq ▸ List.mem_map_of_mem hr')

open Classical in
/-- The prices and the stakes of the reports that the test leaves. -/
theorem evaluateSamples_kept {valid : List (OracleReport × OracleProviderNode)} {p : List ℝ}
    (hvalid : valid.map (fun item => (item.1.price, item.2.stakeWeight)) = p.map fun v => (v, w)) :
    ((evaluateSamples valid).filter fun s => !s.isOutlier).map (fun s => (s.price, s.stakeWeight)) =
      (survivors w p).map fun v => (v, w) := by
  have hprices : valid.map (fun item => item.1.price) = p := by
    have hfst := congrArg (List.map Prod.fst) hvalid
    rw [List.map_map, List.map_map] at hfst
    exact hfst.trans (List.map_id' _)
  have hweights : valid.map (fun item => ({ price := item.1.price, weight := item.2.stakeWeight } :
      WeightedPrice)) = weighted w p := by
    have hboth := congrArg (List.map fun x : ℝ × ℝ => ({ price := x.1, weight := x.2 } : WeightedPrice))
      hvalid
    rwa [List.map_map, List.map_map] at hboth
  have hkept : (survivors w p).map (fun v => (v, w)) =
      (p.map fun v => (v, w)).filter fun x => ¬Outlier w p x.1 := by
    rw [List.filter_map]
    rfl
  rw [hkept, ← hvalid, evaluateSamples, List.filter_map, List.filter_map, List.map_map, initialConsensus,
    hprices, hweights]
  refine congrArg (List.map _) (List.filter_congr fun item _ => ?_)
  simp only [Function.comp_apply, Outlier, decide_not]

/-- What the aggregate is of the prices, in the order of the reports. -/
theorem aggregateBftState_spec (h : Registered nodes w) (hr : OneReportEach nodes reports) :
    ((aggregateBftState reports nodes).quorumReached = true ↔
      2 * tolerance nodes + 1 ≤ (survivors w (reports.map OracleReport.price)).length) ∧
    (survivors w (reports.map OracleReport.price) ≠ [] →
      (aggregateBftState reports nodes).consensusPrice =
        (medianOfMedians (survivors w (reports.map OracleReport.price)) +
          weightedStakeMedian (weighted w (survivors w (reports.map OracleReport.price))) +
          trimmedMean (survivors w (reports.map OracleReport.price)) TRIM_RATIO) / 3) := by
  have hlength : reports.length = nodes.length := by simpa using hr.length_eq
  have hpos : 0 < nodes.length := List.length_pos_iff.mpr h.nonempty
  have hvalid : (validReports nodes [] reports).map (fun item => (item.1, item.2.stakeWeight)) =
      reports.map fun r => (r, w) :=
    validReports_eq h (fun _ _ => List.not_mem_nil) (hr.nodup_iff.mpr h.keys) fun r hmem =>
      hr.mem_iff.mp (List.mem_map_of_mem hmem)
  generalize hgen : validReports nodes [] reports = valid at hvalid
  have hcount : valid.length = nodes.length := by
    rw [← hlength]
    simpa using congrArg List.length hvalid
  have hpairs : valid.map (fun item => (item.1.price, item.2.stakeWeight)) =
      (reports.map OracleReport.price).map fun v => (v, w) := by
    have hboth := congrArg (List.map fun x : OracleReport × ℝ => (x.1.price, x.2)) hvalid
    rw [List.map_map, List.map_map] at hboth
    rw [List.map_map]
    exact hboth
  have hkept := evaluateSamples_kept hpairs
  generalize reports.map OracleReport.price = p at hkept ⊢
  generalize hleft : (evaluateSamples valid).filter (fun s => !s.isOutlier) = left at hkept
  have hnumber : left.length = (survivors w p).length := by
    simpa using congrArg List.length hkept
  have hprices : left.map EvaluatedOracleSample.price = survivors w p := by
    have hfst := congrArg (List.map Prod.fst) hkept
    rw [List.map_map, List.map_map] at hfst
    exact hfst.trans (List.map_id' _)
  have hweights : left.map (fun s => ({ price := s.price, weight := s.stakeWeight } : WeightedPrice)) =
      weighted w (survivors w p) := by
    have hboth := congrArg (List.map fun x : ℝ × ℝ => ({ price := x.1, weight := x.2 } : WeightedPrice))
      hkept
    rwa [List.map_map, List.map_map] at hboth
  have hreporting : ¬((valid.length : ℤ) < 2 * (((max nodes.length reports.length : ℕ) - 1 : ℤ) / 3) + 1 ∨
      valid.length = 0) := by
    rw [hlength, max_self, hcount]
    omega
  unfold aggregateBftState
  dsimp only
  rw [hgen, if_neg hreporting]
  dsimp only
  rw [hleft, hprices, hweights, hnumber]
  constructor
  · rw [decide_eq_true_iff, hlength, max_self, tolerance]
    omega
  · intro hne
    rw [if_pos (List.length_pos_iff.mpr hne)]

/-! ## In range when the survivors are -/

/-- Of the honest reports there is one with the least price, and one with the greatest. -/
theorem exists_honest_range {B : Finset String} {r₀ : OracleReport} (h₀ : Honest reports B r₀) :
    ∃ r₁ r₂, Honest reports B r₁ ∧ Honest reports B r₂ ∧
      ∀ r, Honest reports B r → r.price ∈ Set.Icc r₁.price r₂.price := by
  have hfinite : {r | Honest reports B r}.Finite := (List.finite_toSet reports).subset fun _ h => h.1
  obtain ⟨r₁, h₁, hmin⟩ := Set.exists_min_image _ OracleReport.price hfinite ⟨r₀, h₀⟩
  obtain ⟨r₂, h₂, hmax⟩ := Set.exists_max_image _ OracleReport.price hfinite ⟨r₀, h₀⟩
  exact ⟨r₁, r₂, h₁, h₂, fun r hr => ⟨hmin r hr, hmax r hr⟩⟩

theorem robust_of_survivors (h : Registered nodes w) (hr : OneReportEach nodes reports)
    {B : Finset String}
    (hsurvivors : ∀ r ∈ reports, ¬Outlier w (reports.map OracleReport.price) r.price →
      InRange reports B r.price) : Robust nodes reports B := by
  intro hquorum
  obtain ⟨hiff, hconsensus⟩ := aggregateBftState_spec h hr
  have hcount := hiff.mp hquorum
  have hne : survivors w (reports.map OracleReport.price) ≠ [] := by
    rw [← List.length_pos_iff]
    omega
  have hinrange : ∀ v ∈ survivors w (reports.map OracleReport.price), InRange reports B v := by
    intro v hv
    obtain ⟨hv, hnot⟩ := List.mem_filter.mp hv
    obtain ⟨r, hmem, rfl⟩ := List.mem_map.mp hv
    exact hsurvivors r hmem (by simpa using hnot)
  obtain ⟨v₀, hv₀⟩ := List.exists_mem_of_ne_nil _ hne
  obtain ⟨⟨r₀, h₀, -⟩, -⟩ := hinrange v₀ hv₀
  obtain ⟨r₁, r₂, h₁, h₂, hrange⟩ := exists_honest_range h₀
  have hmem : ∀ v ∈ survivors w (reports.map OracleReport.price), v ∈ Set.Icc r₁.price r₂.price := by
    intro v hv
    obtain ⟨⟨a, ha, hle⟩, b, hb, hge⟩ := hinrange v hv
    exact ⟨(hrange a ha).1.trans hle, hge.trans (hrange b hb).2⟩
  have hmedian := medianOfMedians_mem hne hmem
  have htrimmed := trimmedMean_mem TRIM_RATIO hne hmem
  have hweighted : weightedStakeMedian (weighted w (survivors w (reports.map OracleReport.price))) ∈
      Set.Icc r₁.price r₂.price := by
    apply weightedStakeMedian_mem
    · rw [weighted, Ne, List.map_eq_nil_iff]
      exact hne
    · intro item hitem
      obtain ⟨v, hv, rfl⟩ := List.mem_map.mp hitem
      exact hmem v hv
  rw [hconsensus hne]
  refine ⟨⟨r₁, h₁, ?_⟩, r₂, h₂, ?_⟩
  · linarith [hmedian.1, hweighted.1, htrimmed.1]
  · linarith [hmedian.2, hweighted.2, htrimmed.2]

end Spec

/-! ## Equal stakes -/

section EqualStakes

variable {w : ℝ}

theorem sort_eq_of_perm {p l : List ℝ} (hp : p.Perm l) (hl : l.Pairwise (· ≤ ·)) : sort p = l :=
  ((List.perm_insertionSort (· ≤ ·) p).trans hp).eq_of_pairwise' (List.pairwise_insertionSort ..) hl

/-- The loop stops at the price that brings the weight to one half. -/
theorem firstToHalf_weighted {half c : ℝ} {l : List ℝ} {i : ℕ} (hw : 0 < w) (hi : i < l.length)
    (hbefore : c + i * w < half) (hat : half ≤ c + (i + 1) * w) :
    firstToHalf half (weighted w l) c = some (l.getD i 0) := by
  induction l generalizing c i with
  | nil => exact absurd hi (Nat.not_lt_zero i)
  | cons _ _ ih =>
      rw [weighted, List.map_cons, firstToHalf]
      dsimp only
      by_cases hzero : i = 0
      · subst hzero
        rw [if_pos (by simpa using hat), List.getD_cons_zero]
      · obtain ⟨j, rfl⟩ := Nat.exists_eq_succ_of_ne_zero hzero
        rw [Nat.succ_eq_add_one] at hi hbefore hat ⊢
        push_cast at hbefore hat
        have hnot : ¬c + w ≥ half := by
          have : 0 ≤ (j : ℝ) * w := by positivity
          linarith
        rw [if_neg hnot, List.getD_cons_succ]
        rw [List.length_cons] at hi
        exact ih (by omega) (by linarith) (by linarith)

/-- With equal stakes the weighted median is the lower median. -/
theorem weightedStakeMedian_weighted {p : List ℝ} (hw : 0 < w) (h : p ≠ []) :
    weightedStakeMedian (weighted w p) = (sort p).getD ((p.length - 1) / 2) 0 := by
  have hpos : 0 < p.length := List.length_pos_iff.mpr h
  have hsorted : (weighted w p).insertionSort (fun a b => a.price ≤ b.price) = weighted w (sort p) :=
    (List.map_insertionSort (r := (· ≤ ·)) (s := fun a b : WeightedPrice => a.price ≤ b.price)
      (fun v => { price := v, weight := w }) p fun _ _ _ _ => Iff.rfl).symm
  have htotal : List.foldl (fun (sum : ℝ) (item : WeightedPrice) => sum + item.weight) 0
      (weighted w (sort p)) = p.length * w := by
    have hweights : (weighted w (sort p)).map WeightedPrice.weight = List.replicate p.length w := by
      rw [weighted, List.map_map, ← length_sort p]
      exact List.map_const' ..
    rw [← List.foldl_map (f := WeightedPrice.weight) (g := fun sum weight : ℝ => sum + weight),
      ← List.sum_eq_foldl, hweights, List.sum_replicate, nsmul_eq_mul]
  have hcast : (1 : ℝ) ≤ p.length := by exact_mod_cast hpos
  have htotalpos : 0 < (p.length : ℝ) * w := by positivity
  unfold weightedStakeMedian
  split
  · rename_i heq
    rw [weighted, List.map_eq_nil_iff] at heq
    exact absurd heq h
  · rename_i item heq
    rw [weighted, List.map_eq_singleton_iff] at heq
    obtain ⟨v, rfl, rfl⟩ := heq
    rw [sort_eq_of_perm (List.Perm.refl [v]) (List.pairwise_singleton _ _)]
    simp
  · have hlow : (((p.length - 1) / 2 : ℕ) : ℝ) * 2 ≤ p.length - 1 := by
      have hnat : (p.length - 1) / 2 * 2 + 1 ≤ p.length := by omega
      have hreal : (((p.length - 1) / 2 : ℕ) : ℝ) * 2 + 1 ≤ p.length := by exact_mod_cast hnat
      linarith
    have hhigh : (p.length : ℝ) ≤ (((p.length - 1) / 2 : ℕ) + 1 : ℝ) * 2 := by
      have hnat : p.length ≤ ((p.length - 1) / 2 + 1) * 2 := by omega
      exact_mod_cast hnat
    dsimp only
    rw [hsorted, htotal, if_neg (not_le.mpr htotalpos),
      firstToHalf_weighted (i := (p.length - 1) / 2) hw (by rw [length_sort]; omega) (by nlinarith)
        (by nlinarith), Option.getD_some]

end EqualStakes

/-! ## Two prices -/

section TwoPrices

variable {x y w : ℝ} {a k : ℕ} {p : List ℝ}

theorem pairwise_two (hxy : x ≤ y) :
    (List.replicate a x ++ List.replicate k y).Pairwise (· ≤ ·) := by
  rw [List.pairwise_append]
  refine ⟨List.pairwise_replicate.mpr (.inr le_rfl), List.pairwise_replicate.mpr (.inr le_rfl), ?_⟩
  intro u hu v hv
  rw [List.eq_of_mem_replicate hu, List.eq_of_mem_replicate hv]
  exact hxy

theorem getD_two {i : ℕ} (hi : i < a) :
    (List.replicate a x ++ List.replicate k y).getD i 0 = x := by
  rw [List.getD_append _ _ _ _ (by rwa [List.length_replicate]),
    List.getD_eq_getElem _ _ (by rwa [List.length_replicate]), List.getElem_replicate]

/-- The median is the price of the majority. -/
theorem median_two (hp : p.Perm (List.replicate a x ++ List.replicate k y)) (hxy : x ≤ y)
    (hk : k < a) : median p = x := by
  have hlength : p.length = a + k := by simpa using hp.length_eq
  rw [median, if_neg (by omega)]
  dsimp only
  rw [length_sort, sort_eq_of_perm hp (pairwise_two hxy), hlength, getD_two (by omega),
    getD_two (by omega)]
  by_cases heven : (a + k) % 2 = 0
  · rw [if_pos heven]
    ring
  · rw [if_neg heven]

/-- The weighted median is the price of the majority. -/
theorem weightedStakeMedian_two (hp : p.Perm (List.replicate a x ++ List.replicate k y)) (hxy : x ≤ y)
    (hk : k < a) (hw : 0 < w) : weightedStakeMedian (weighted w p) = x := by
  have hlength : p.length = a + k := by simpa using hp.length_eq
  have hne : p ≠ [] := by
    rw [← List.length_pos_iff]
    omega
  rw [weightedStakeMedian_weighted hw hne, sort_eq_of_perm hp (pairwise_two hxy), getD_two (by omega)]

/-- With the majority at one price, the test falls back to the standard deviation. -/
theorem robustStdDev_two (hp : p.Perm (List.replicate a x ++ List.replicate k y)) (hxy : x ≤ y)
    (hk : k < a) (hlong : 2 ≤ p.length) :
    robustStdDev p x = √(k * (y - x) ^ 2 / (p.length - 1)) := by
  have hdevs : (p.map fun v => |v - x|).Perm (List.replicate a 0 ++ List.replicate k (y - x)) := by
    have hmap := hp.map fun v => |v - x|
    rwa [List.map_append, List.map_replicate, List.map_replicate, sub_self, abs_zero,
      abs_of_nonneg (sub_nonneg.mpr hxy)] at hmap
  have hsum : p.foldl (fun sum v => sum + (v - x) ^ 2) 0 = k * (y - x) ^ 2 := by
    rw [← List.foldl_map (f := fun v : ℝ => (v - x) ^ 2) (g := fun sum v : ℝ => sum + v),
      ← List.sum_eq_foldl, (hp.map fun v => (v - x) ^ 2).sum_eq, List.map_append, List.sum_append,
      List.map_replicate, List.map_replicate, List.sum_replicate, List.sum_replicate, nsmul_eq_mul,
      nsmul_eq_mul]
    ring
  rw [robustStdDev, if_neg (by omega)]
  dsimp only
  rw [median_two hdevs (sub_nonneg.mpr hxy) hk, mul_zero, if_neg (by norm_num), stdDev,
    if_neg (by omega), Option.getD_some]
  dsimp only
  rw [hsum]

open Classical in
/-- Enough minority reports at one price pass the test. -/
theorem survivors_two (hp : p.Perm (List.replicate a x ++ List.replicate k y)) (hxy : x < y)
    (hk : k < a) (hpos : 0 < k) (hw : 0 < w) (hmedian : medianOfMedians p = x)
    (hmany : p.length ≤ 9 * k + 1) : survivors w p = p := by
  have hlength : p.length = a + k := by simpa using hp.length_eq
  have hlong : 2 ≤ p.length := by omega
  rw [survivors, List.filter_eq_self]
  intro v hv
  rw [decide_eq_true_iff]
  rintro ⟨-, hz⟩
  rw [hmedian, weightedStakeMedian_two hp hxy.le hk hw, add_self_div_two, median_two hp hxy.le hk,
    robustStdDev_two hp hxy.le hk hlong] at hz
  have hn : (0 : ℝ) < p.length - 1 := by
    have : (2 : ℝ) ≤ p.length := by exact_mod_cast hlong
    linarith
  have hdiff : 0 < y - x := sub_pos.mpr hxy
  have hkpos : (0 : ℝ) < k := by exact_mod_cast hpos
  have hsigma : 0 < √(k * (y - x) ^ 2 / (p.length - 1)) := Real.sqrt_pos.mpr (by positivity)
  rw [if_pos hsigma] at hz
  rcases List.mem_append.mp (hp.mem_iff.mp hv) with hx | hy
  · rw [List.eq_of_mem_replicate hx, sub_self, zero_div, abs_zero, OUTLIER_SIGMA_THRESHOLD] at hz
    linarith
  · rw [List.eq_of_mem_replicate hy, abs_of_nonneg (by positivity), OUTLIER_SIGMA_THRESHOLD, gt_iff_lt,
      lt_div_iff₀ hsigma] at hz
    -- three standard deviations reach the other price
    have hreach : (y - x) / 3 ≤ √(k * (y - x) ^ 2 / (p.length - 1)) := by
      apply Real.le_sqrt_of_sq_le
      rw [le_div_iff₀ hn]
      have hcount : (p.length : ℝ) - 1 ≤ 9 * k := by
        have : (p.length : ℝ) ≤ 9 * k + 1 := by exact_mod_cast hmany
        linarith
      have hsq : 0 ≤ ((y - x) / 3) ^ 2 := by positivity
      calc ((y - x) / 3) ^ 2 * (p.length - 1) ≤ ((y - x) / 3) ^ 2 * (9 * k) :=
            mul_le_mul_of_nonneg_left hcount hsq
        _ = k * (y - x) ^ 2 := by ring
    linarith

theorem lt_mean {values : List ℝ} (hle : ∀ v ∈ values, x ≤ v) (hlt : ∃ v ∈ values, x < v) :
    x < mean values := by
  have hne : values ≠ [] := by
    rintro rfl
    obtain ⟨v, hv, -⟩ := hlt
    exact absurd hv List.not_mem_nil
  have hpos : (0 : ℝ) < values.length := by exact_mod_cast List.length_pos_iff.mpr hne
  rw [mean_eq hne, lt_div_iff₀ hpos]
  have hsum := List.sum_lt_sum (fun _ : ℝ => x) (fun v => v) hle hlt
  rw [List.map_const', List.sum_replicate, nsmul_eq_mul, List.map_id'] at hsum
  linarith

/-- More minority reports than are trimmed at one end raise the trimmed mean. -/
theorem lt_trimmedMean_two (hp : p.Perm (List.replicate a x ++ List.replicate k y)) (hxy : x < y)
    (hk : k < a) (htrim : p.length / 5 < k) : x < trimmedMean p TRIM_RATIO := by
  have hlength : p.length = a + k := by simpa using hp.length_eq
  have hfloor : ⌊(p.length : ℝ) * TRIM_RATIO⌋₊ = p.length / 5 := by
    have hfifth : (p.length : ℝ) * TRIM_RATIO = p.length / (5 : ℕ) := by
      unfold TRIM_RATIO
      push_cast
      ring
    rw [hfifth, Nat.floor_div_eq_div]
  rw [trimmedMean, if_neg (by omega)]
  dsimp only
  rw [length_sort, hfloor, if_neg (by omega), sort_eq_of_perm hp (pairwise_two hxy.le)]
  have htake : (List.replicate a x ++ List.replicate k y).take (p.length - p.length / 5) =
      List.replicate a x ++ List.replicate (k - p.length / 5) y := by
    rw [List.take_append, List.length_replicate, List.take_replicate, List.take_replicate,
      min_eq_right (by omega), min_eq_left (by omega)]
    congr 2
    omega
  have hdrop : (List.replicate a x ++ List.replicate (k - p.length / 5) y).drop (p.length / 5) =
      List.replicate (a - p.length / 5) x ++ List.replicate (k - p.length / 5) y := by
    rw [List.drop_append_of_le_length (by rw [List.length_replicate]; omega), List.drop_replicate]
  rw [htake, hdrop]
  apply lt_mean
  · intro v hv
    rcases List.mem_append.mp hv with hx | hy
    · exact (List.eq_of_mem_replicate hx).ge
    · rw [List.eq_of_mem_replicate hy]
      exact hxy.le
  · refine ⟨y, List.mem_append_right _ (List.mem_replicate.mpr ⟨by omega, rfl⟩), hxy⟩

/-- With enough of the minority reports, all reports pass the test and the aggregate leaves the price
of the majority. -/
theorem lt_consensus_two (hp : p.Perm (List.replicate a x ++ List.replicate k y)) (hxy : x < y)
    (hk : k < a) (htrim : p.length / 5 < k) (hw : 0 < w) (hmedian : medianOfMedians p = x) :
    survivors w p = p ∧ x < (medianOfMedians p + weightedStakeMedian (weighted w p) +
      trimmedMean p TRIM_RATIO) / 3 := by
  refine ⟨survivors_two hp hxy hk (by omega) hw hmedian (by omega), ?_⟩
  have htrimmed := lt_trimmedMean_two hp hxy hk htrim
  rw [hmedian, weightedStakeMedian_two hp hxy.le hk hw]
  linarith

end TwoPrices

/-! ## A price that leaves the honest range -/

section Failures

variable {nodes : List OracleProviderNode} {w : ℝ}

/-- The prices as the reports of the nodes, in their order. -/
def reportsOf (nodes : List OracleProviderNode) (p : List ℝ) : List OracleReport :=
  List.zipWith (fun node price => { providerKey := node.providerKey, price }) nodes p

theorem reportsOf_maps {p : List ℝ} (hp : p.length = nodes.length) :
    (reportsOf nodes p).map OracleReport.providerKey = nodes.map OracleProviderNode.providerKey ∧
      (reportsOf nodes p).map OracleReport.price = p := by
  induction nodes generalizing p with
  | nil =>
      rw [List.length_nil, List.length_eq_zero_iff] at hp
      subst hp
      exact ⟨rfl, rfl⟩
  | cons _ _ ih =>
      obtain ⟨v, p, rfl⟩ := List.exists_cons_of_length_eq_add_one hp
      obtain ⟨hkeys, hprices⟩ := ih (Nat.succ.inj hp)
      rw [reportsOf, List.zipWith_cons_cons, List.map_cons, List.map_cons, List.map_cons]
      exact ⟨congrArg _ hkeys, congrArg _ hprices⟩

open Classical in
/-- Reports whose aggregate lies above a price that few of them exceed. -/
theorem not_robust_of_prices (h : Registered nodes w) {p : List ℝ} {x : ℝ}
    (hp : p.length = nodes.length) (hfew : (p.filter fun v => x < v).length ≤ tolerance nodes)
    (hquorum : 2 * tolerance nodes + 1 ≤ (survivors w p).length)
    (habove : x < (medianOfMedians (survivors w p) +
      weightedStakeMedian (weighted w (survivors w p)) + trimmedMean (survivors w p) TRIM_RATIO) / 3) :
    Fooled nodes := by
  obtain ⟨hkeys, hprices⟩ := reportsOf_maps hp
  have hr : OneReportEach nodes (reportsOf nodes p) := by
    rw [OneReportEach, hkeys]
  refine ⟨reportsOf nodes p, (((reportsOf nodes p).filter fun r => x < r.price).map
    OracleReport.providerKey).toFinset, hr, ?_, ?_⟩
  · refine (List.toFinset_card_le _).trans (le_trans ?_ hfew)
    have hcount : ((reportsOf nodes p).map OracleReport.price).filter (fun v => x < v) =
        ((reportsOf nodes p).filter fun r => x < r.price).map OracleReport.price := by
      rw [List.filter_map]
      rfl
    rw [hprices] at hcount
    rw [hcount, List.length_map, List.length_map]
  · intro hrobust
    obtain ⟨hiff, hconsensus⟩ := aggregateBftState_spec h hr
    rw [hprices] at hiff hconsensus
    have hne : survivors w p ≠ [] := by
      rw [← List.length_pos_iff]
      omega
    obtain ⟨-, r, ⟨hmem, hhonest⟩, hle⟩ := hrobust (hiff.mpr hquorum)
    rw [hconsensus hne] at hle
    apply hhonest
    rw [List.mem_toFinset]
    apply List.mem_map_of_mem
    rw [List.mem_filter, decide_eq_true_iff]
    exact ⟨hmem, habove.trans_le hle⟩

end Failures

/-! ## Where the minority stays below the medians -/

section Crowd

variable {x y : ℝ}

/-- One report of the minority in each group of five, and `r` reports of the majority at the end. -/
def spread (x y : ℝ) (r : ℕ) : ℕ → List ℝ
  | 0 => List.replicate r x
  | m + 1 => y :: x :: x :: x :: x :: spread x y r m

/-- The same with a second report of the minority in the first group. -/
def crowd (x y : ℝ) (r m : ℕ) : List ℝ := y :: y :: x :: x :: x :: spread x y r m

theorem perm_spread (r m : ℕ) :
    (spread x y r m).Perm (List.replicate (4 * m + r) x ++ List.replicate m y) := by
  induction m with
  | zero =>
      rw [spread, List.replicate_zero, List.append_nil, Nat.mul_zero, Nat.zero_add]
  | succ m ih =>
      have hfour : List.replicate (4 * (m + 1) + r) x =
          x :: x :: x :: x :: List.replicate (4 * m + r) x := by
        rw [show 4 * (m + 1) + r = 4 * m + r + 4 by ring]
        rfl
      rw [spread, List.replicate_succ, hfour]
      refine (((((ih.cons x).cons x).cons x).cons x).cons y).trans ?_
      exact (@List.perm_middle _ y (x :: x :: x :: x :: List.replicate (4 * m + r) x) _).symm

theorem perm_crowd (r m : ℕ) :
    (crowd x y r m).Perm (List.replicate (4 * m + r + 3) x ++ List.replicate (m + 2) y) := by
  have hmiddle (l : List ℝ) : (y :: (List.replicate (4 * m + r + 3) x ++ l)).Perm
      (List.replicate (4 * m + r + 3) x ++ y :: l) := List.perm_middle.symm
  have hspread := (((perm_spread (x := x) (y := y) r m).cons x).cons x).cons x
  exact ((hspread.cons y).cons y).trans (((hmiddle _).cons y).trans (hmiddle _))

theorem groups_cons_five (v₁ v₂ v₃ v₄ v₅ : ℝ) (values : List ℝ) :
    groups (v₁ :: v₂ :: v₃ :: v₄ :: v₅ :: values) = [v₁, v₂, v₃, v₄, v₅] :: groups values := by
  rw [groups]
  rfl

theorem median_spread {r m : ℕ} (hxy : x ≤ y) :
    ∀ group ∈ groups (spread x y r m), median group = x := by
  induction m with
  | zero =>
      intro group hgroup
      obtain ⟨hne, hsub⟩ := ne_nil_and_subset_of_mem_groups hgroup
      have hmem : median group ∈ Set.Icc x x := median_mem hne fun v hv => by
        rw [List.eq_of_mem_replicate (hsub hv)]
        exact ⟨le_rfl, le_rfl⟩
      exact le_antisymm hmem.2 hmem.1
  | succ _ ih =>
      intro group hgroup
      rw [spread, groups_cons_five, List.mem_cons] at hgroup
      rcases hgroup with rfl | hgroup
      · exact median_two (a := 4) (k := 1) (@List.perm_append_comm _ [y] _) hxy (by norm_num)
      · exact ih group hgroup

theorem medianOfMedians_crowd {r m : ℕ} (hxy : x ≤ y) (hlong : 1 ≤ m + r) :
    medianOfMedians (crowd x y r m) = x := by
  have hlength := (perm_crowd (x := x) (y := y) r m).length_eq
  rw [List.length_append, List.length_replicate, List.length_replicate] at hlength
  have hall : ∀ group ∈ groups (crowd x y r m), median group = x := by
    intro group hgroup
    rw [crowd, groups_cons_five, List.mem_cons] at hgroup
    rcases hgroup with rfl | hgroup
    · exact median_two (a := 3) (k := 2) (@List.perm_append_comm _ [y, y] _) hxy (by norm_num)
    · exact median_spread hxy group hgroup
  rw [medianOfMedians, if_neg (by omega), if_neg (by rw [groupSize]; omega)]
  have hmem : medianOfMedians ((groups (crowd x y r m)).map median) ∈ Set.Icc x x := by
    apply medianOfMedians_mem
    · rw [← List.length_pos_iff, List.length_map, length_groups]
      omega
    · intro v hv
      obtain ⟨group, hgroup, rfl⟩ := List.mem_map.mp hv
      rw [hall group hgroup]
      exact ⟨le_rfl, le_rfl⟩
  exact le_antisymm hmem.2 hmem.1

end Crowd

/-! ## Every number of nodes from four on -/

section Numbers

variable {nodes : List OracleProviderNode} {w : ℝ}

open Classical in
theorem not_robust_two (h : Registered nodes w) {x y : ℝ} {a k : ℕ} {p : List ℝ}
    (hp : p.Perm (List.replicate a x ++ List.replicate k y)) (hxy : x < y) (hk : k < a)
    (hlength : p.length = nodes.length) (htrim : p.length / 5 < k) (hfew : k ≤ tolerance nodes)
    (hmedian : medianOfMedians p = x) :
    Fooled nodes := by
  have hpos : 0 < nodes.length := List.length_pos_iff.mpr h.nonempty
  obtain ⟨hall, habove⟩ := lt_consensus_two hp hxy hk htrim h.pos hmedian
  apply not_robust_of_prices h hlength (x := x)
  · rw [(hp.filter _).length_eq, List.filter_append, List.filter_replicate, List.filter_replicate,
      if_neg (by simp), if_pos (by simpa using hxy), List.nil_append, List.length_replicate]
    exact hfew
  · rw [hall, hlength, tolerance]
    omega
  · rw [hall]
    exact habove

/-- The values of a short list are one group. -/
theorem medianOfMedians_short {values : List ℝ} (h : values ≠ []) (hshort : values.length ≤ groupSize) :
    medianOfMedians values = median values := by
  rw [medianOfMedians, if_neg (by simpa using h), if_pos hshort]

theorem not_robust_four (h : Registered nodes w) (hn : nodes.length = 4) :
    Fooled nodes := by
  have hp : [(1 : ℝ), 0, 0, 0].Perm (List.replicate 3 0 ++ List.replicate 1 1) :=
    @List.perm_append_comm _ [1] _
  apply not_robust_two h hp zero_lt_one (by norm_num) (by rw [hn]; rfl) (by simp)
  · rw [tolerance, hn]
  · rw [medianOfMedians_short (List.cons_ne_nil _ _) (by simp [groupSize])]
    exact median_two hp zero_le_one (by norm_num)

/-- The median from the sorted values. -/
theorem median_eq_of_perm {p l : List ℝ} (hp : p.Perm l) (hl : l.Pairwise (· ≤ ·)) (h : l ≠ []) :
    median p = if l.length % 2 = 0 then (l.getD (l.length / 2 - 1) 0 + l.getD (l.length / 2) 0) / 2
      else l.getD (l.length / 2) 0 := by
  have hpos : 0 < l.length := List.length_pos_iff.mpr h
  rw [median, if_neg (by rw [hp.length_eq]; omega)]
  dsimp only
  rw [sort_eq_of_perm hp hl]

open Classical in
/-- Of six reports, the last is a group of its own. -/
theorem not_robust_six (h : Registered nodes w) (hn : nodes.length = 6) :
    Fooled nodes := by
  have hp : [(0 : ℝ), 0, 0, 0, 0, 1].Perm (List.replicate 5 0 ++ List.replicate 1 1) := List.Perm.refl _
  have hmedian := median_two hp zero_le_one (by norm_num)
  have hweighted := weightedStakeMedian_two hp zero_le_one (by norm_num) h.pos
  have hmedians : medianOfMedians [(0 : ℝ), 0, 0, 0, 0, 1] = 1 / 2 := by
    have hgroups : groups [(0 : ℝ), 0, 0, 0, 0, 1] = [[0, 0, 0, 0, 0], [1]] := by
      rw [groups_cons_five, groups, groupSize, List.take_of_length_le (by simp),
        List.drop_of_length_le (by simp), groups]
    have hzeros : median [(0 : ℝ), 0, 0, 0, 0] = 0 := by
      rw [median_eq_of_perm (List.Perm.refl _) (by simp) (List.cons_ne_nil _ _)]
      simp
    have hone : median [(1 : ℝ)] = 1 := by
      rw [median_eq_of_perm (List.Perm.refl _) (by simp) (List.cons_ne_nil _ _)]
      simp
    rw [medianOfMedians, if_neg (by simp), if_neg (by simp [groupSize]), hgroups, List.map_cons,
      List.map_cons, List.map_nil, hzeros, hone,
      medianOfMedians_short (List.cons_ne_nil _ _) (by simp [groupSize]),
      median_eq_of_perm (List.Perm.refl _) (by simp) (List.cons_ne_nil _ _)]
    simp
  have hsigma : robustStdDev [(0 : ℝ), 0, 0, 0, 0, 1] (1 / 4) = 1.4826 * (1 / 4) := by
    have hdevs : ([(0 : ℝ), 0, 0, 0, 0, 1].map fun v => |v - 1 / 4|) =
        List.replicate 5 (1 / 4) ++ List.replicate 1 (3 / 4) := by
      norm_num [List.replicate]
    rw [robustStdDev, if_neg (by simp)]
    dsimp only
    rw [hdevs, median_two (List.Perm.refl _) (by norm_num) (by norm_num), if_pos (by norm_num)]
  have hall : survivors w [(0 : ℝ), 0, 0, 0, 0, 1] = [0, 0, 0, 0, 0, 1] := by
    rw [survivors, List.filter_eq_self]
    intro v hv
    rw [decide_eq_true_iff]
    rintro ⟨-, hz⟩
    rw [hmedians, hweighted, hmedian, show ((1 : ℝ) / 2 + 0) / 2 = 1 / 4 by norm_num, hsigma,
      if_pos (by norm_num), OUTLIER_SIGMA_THRESHOLD] at hz
    have hprice : v = 0 ∨ v = 1 := by simpa using hv
    rcases hprice with rfl | rfl
    · norm_num at hz
    · rw [abs_of_pos (by norm_num)] at hz
      norm_num at hz
  have htrimmed : trimmedMean [(0 : ℝ), 0, 0, 0, 0, 1] TRIM_RATIO ∈ Set.Icc 0 1 :=
    trimmedMean_mem TRIM_RATIO (List.cons_ne_nil _ _) (by norm_num)
  apply not_robust_of_prices h (p := [0, 0, 0, 0, 0, 1]) (x := 0) (by rw [hn]; rfl)
  · rw [tolerance, hn]
    simp
  · rw [hall, tolerance, hn]
    simp
  · rw [hall, hmedians, hweighted]
    linarith [htrimmed.1]

/-- A permutation of whole numbers, as one of prices. -/
theorem perm_of_int {p l : List ℝ} {m n : List ℤ} (hmn : m.Perm n) (hp : m.map Int.cast = p)
    (hl : n.map Int.cast = l) : p.Perm l := by
  rw [← hp, ← hl]
  exact hmn.map _

open Classical in
/-- Of five reports, the test may reject an honest one. -/
theorem not_robust_five (h : Registered nodes w) (hn : nodes.length = 5) :
    Fooled nodes := by
  have hp : [(0 : ℝ), 0, -1, 2, -100].Perm [-100, -1, 0, 0, 2] :=
    perm_of_int (show [(0 : ℤ), 0, -1, 2, -100].Perm [-100, -1, 0, 0, 2] by decide) (by simp) (by simp)
  have hsorted : [(-100 : ℝ), -1, 0, 0, 2].Pairwise (· ≤ ·) := by norm_num
  have hmedian : median [(0 : ℝ), 0, -1, 2, -100] = 0 := by
    rw [median_eq_of_perm hp hsorted (List.cons_ne_nil _ _)]
    simp
  have hweighted : weightedStakeMedian (weighted w [(0 : ℝ), 0, -1, 2, -100]) = 0 := by
    rw [weightedStakeMedian_weighted h.pos (List.cons_ne_nil _ _), sort_eq_of_perm hp hsorted]
    simp
  have hmedians : medianOfMedians [(0 : ℝ), 0, -1, 2, -100] = 0 := by
    rw [medianOfMedians_short (List.cons_ne_nil _ _) (by simp [groupSize]), hmedian]
  have hsigma : robustStdDev [(0 : ℝ), 0, -1, 2, -100] 0 = 1.4826 := by
    have hdevs : ([(0 : ℝ), 0, -1, 2, -100].map fun v => |v - 0|) = [0, 0, 1, 2, 100] := by
      norm_num
    have hmad : median [(0 : ℝ), 0, 1, 2, 100] = 1 := by
      rw [median_eq_of_perm (List.Perm.refl _) (by norm_num) (List.cons_ne_nil _ _)]
      simp
    rw [robustStdDev, if_neg (by simp)]
    dsimp only
    rw [hdevs, hmad, mul_one, if_pos (by norm_num)]
  have houtlier (v : ℝ) : Outlier w [0, 0, -1, 2, -100] v ↔ 3 < |v / 1.4826| := by
    unfold Outlier
    dsimp only
    rw [hmedians, hweighted, hmedian, add_zero, zero_div, hsigma, if_pos (by norm_num), sub_zero,
      OUTLIER_SIGMA_THRESHOLD]
    exact and_iff_right (by simp)
  have hleft : survivors w [(0 : ℝ), 0, -1, 2, -100] = [0, 0, -1, 2] := by
    simp only [survivors, houtlier, List.filter_cons, List.filter_nil]
    norm_num
  have hp' : [(0 : ℝ), 0, -1, 2].Perm [-1, 0, 0, 2] :=
    perm_of_int (show [(0 : ℤ), 0, -1, 2].Perm [-1, 0, 0, 2] by decide) (by simp) (by simp)
  have hsorted' : [(-1 : ℝ), 0, 0, 2].Pairwise (· ≤ ·) := by norm_num
  have htrimmed : trimmedMean [(0 : ℝ), 0, -1, 2] TRIM_RATIO = 1 / 4 := by
    have hfloor : ⌊((4 : ℕ) : ℝ) * TRIM_RATIO⌋₊ = 0 := by
      rw [Nat.floor_eq_zero, TRIM_RATIO]
      norm_num
    have hlength : [(-1 : ℝ), 0, 0, 2].length = 4 := rfl
    rw [trimmedMean, if_neg (by simp)]
    dsimp only
    rw [sort_eq_of_perm hp' hsorted', hlength, hfloor, if_neg (by norm_num), Nat.sub_zero,
      List.drop_zero, List.take_of_length_le (by simp), mean_eq (List.cons_ne_nil _ _)]
    norm_num
  apply not_robust_of_prices h (p := [0, 0, -1, 2, -100]) (x := 0) (by rw [hn]; rfl)
  · rw [tolerance, hn]
    simp only [List.filter_cons, List.filter_nil]
    norm_num
  · rw [hleft, tolerance, hn]
    simp
  · rw [hleft, htrimmed, medianOfMedians_short (List.cons_ne_nil _ _) (by simp [groupSize]),
      median_eq_of_perm hp' hsorted' (List.cons_ne_nil _ _),
      weightedStakeMedian_weighted h.pos (List.cons_ne_nil _ _), sort_eq_of_perm hp' hsorted']
    norm_num

theorem exists_not_robust (h : Registered nodes w) (hn : 4 ≤ nodes.length) :
    Fooled nodes := by
  by_cases hfour : nodes.length = 4
  · exact not_robust_four h hfour
  by_cases hfive : nodes.length = 5
  · exact not_robust_five h hfive
  by_cases hsix : nodes.length = 6
  · exact not_robust_six h hsix
  have hp := perm_crowd (x := 0) (y := 1) (nodes.length % 5) (nodes.length / 5 - 1)
  have hlength := hp.length_eq
  rw [List.length_append, List.length_replicate, List.length_replicate] at hlength
  have hnodes : (crowd 0 1 (nodes.length % 5) (nodes.length / 5 - 1)).length = nodes.length := by
    omega
  apply not_robust_two h hp zero_lt_one (by omega) hnodes (by rw [hnodes]; omega)
  · rw [tolerance]
    omega
  · exact medianOfMedians_crowd zero_le_one (by omega)

/-- **How many nodes the aggregate withstands.** It is in the range of the honest prices whenever each
report that passes the test is; and for all reports with at most `f` Byzantine ones, up to three nodes. -/
theorem aggregate_robust_iff (h : Registered nodes w) :
    (∀ reports B, OneReportEach nodes reports → B.card ≤ tolerance nodes →
      (∀ r ∈ reports, ¬Outlier w (reports.map OracleReport.price) r.price →
        InRange reports B r.price) → Robust nodes reports B) ∧
    ((∀ reports B, OneReportEach nodes reports → B.card ≤ tolerance nodes → Robust nodes reports B) ↔
      nodes.length ≤ 3) := by
  refine ⟨fun reports B hr _ hsurvivors => robust_of_survivors h hr hsurvivors, ?_, ?_⟩
  · intro hall
    by_contra hmany
    obtain ⟨reports, B, hr, hB, hnot⟩ := exists_not_robust h (by omega)
    exact hnot (hall reports B hr hB)
  · intro hfew reports B hr hB
    have hempty : B = ∅ := by
      rw [← Finset.card_eq_zero]
      rw [tolerance] at hB
      omega
    apply robust_of_survivors h hr
    intro r hmem _
    have hhonest : Honest reports B r := ⟨hmem, by rw [hempty]; exact Finset.notMem_empty _⟩
    exact ⟨⟨r, hhonest, le_rfl⟩, r, hhonest, le_rfl⟩

end Numbers

/-! ## Four nodes -/

/-- A node with a stake of one. -/
def active_node (providerKey : String) : OracleProviderNode :=
  { providerKey, stakeWeight := 1, status := .active, slashed := false }

def four_nodes : List OracleProviderNode := ["a", "b", "c", "d"].map active_node

theorem registered_four_nodes : Registered four_nodes 1 where
  nonempty := List.cons_ne_nil _ _
  keys := by simp [four_nodes, active_node]
  active := by simp [four_nodes, active_node]
  stake := by simp [four_nodes, active_node]
  pos := one_pos

theorem aggregate_robust_iff_four :
    (∀ reports B, OneReportEach four_nodes reports → B.card ≤ tolerance four_nodes →
      (∀ r ∈ reports, ¬Outlier 1 (reports.map OracleReport.price) r.price →
        InRange reports B r.price) → Robust four_nodes reports B) ∧
    ((∀ reports B, OneReportEach four_nodes reports → B.card ≤ tolerance four_nodes →
      Robust four_nodes reports B) ↔ four_nodes.length ≤ 3) :=
  aggregate_robust_iff registered_four_nodes

/-- Three nodes report 100 and one reports a million. -/
def skewed_reports : List OracleReport :=
  [{ providerKey := "a", price := 100 }, { providerKey := "b", price := 100 },
    { providerKey := "c", price := 100 }, { providerKey := "d", price := 1000000 }]

/-- **One report out of four moves the aggregate**, though all others agree. -/
theorem skewed_aggregate :
    OneReportEach four_nodes skewed_reports ∧ ({"d"} : Finset String).card ≤ tolerance four_nodes ∧
      ¬Robust four_nodes skewed_reports {"d"} := by
  have hr : OneReportEach four_nodes skewed_reports := List.Perm.refl _
  refine ⟨hr, le_rfl, ?_⟩
  intro hrobust
  have hp : (skewed_reports.map OracleReport.price).Perm
      (List.replicate 3 100 ++ List.replicate 1 1000000) := List.Perm.refl _
  have hlength : (skewed_reports.map OracleReport.price).length = 4 := rfl
  have hmedian : medianOfMedians (skewed_reports.map OracleReport.price) = 100 := by
    rw [medianOfMedians_short (by simp [skewed_reports]) (by rw [hlength, groupSize]; norm_num)]
    exact median_two hp (by norm_num) (by norm_num)
  obtain ⟨hall, habove⟩ := lt_consensus_two hp (by norm_num) (by norm_num) (by rw [hlength]; norm_num)
    one_pos hmedian
  obtain ⟨hiff, hconsensus⟩ := aggregateBftState_spec registered_four_nodes hr
  rw [hall] at hiff hconsensus
  obtain ⟨-, r, ⟨hmem, hhonest⟩, hle⟩ := hrobust (hiff.mpr (by rw [hlength]; decide))
  rw [hconsensus (List.cons_ne_nil _ _)] at hle
  have hprice : r.price = 100 := by
    simp only [skewed_reports, List.mem_cons, List.not_mem_nil, or_false] at hmem
    rcases hmem with rfl | rfl | rfl | rfl
    · rfl
    · rfl
    · rfl
    · exact absurd (Finset.mem_singleton_self _) hhonest
  rw [hprice] at hle
  exact absurd habove (not_lt.mpr hle)

end

end BridgeWatch.BftOracleAggregator

/-
What a call of `plan` returns.

The batches stay within the budget and number their items one after the other. That no key occurs twice
and none is lost hangs on inputs that repeat a key: the loop of `plan` only skips a key that an earlier
call has settled, so a key that it has just made a candidate is simulated once more, and its item becomes
a candidate again or gets an estimate that has not been held against the budget for its batch.
-/
import BridgeWatch.BatchPlanner

set_option autoImplicit false

namespace BridgeWatch.SorobanBatchPlanner

/-- `count` nonces from `start` on. -/
def consecutive (start : ℤ) (count : ℕ) : List ℤ := (List.range count).map fun i : ℕ => start + (i : ℤ)

def BatchPlan.nonces (batch : BatchPlan) : List ℤ :=
  consecutive batch.nonceRange.start (batch.nonceRange.end_ + 1 - batch.nonceRange.start).toNat

def Planner.nonceOf (p : Planner) (key : String) : Option ℤ := (p.ledger key).bind PlannerItem.nonce

/-- What the items of a batch are estimated to use. -/
def Planner.total (p : Planner) (keys : List String) : ResourceEstimate :=
  keys.foldl (fun total key => addEstimate total (p.estimateOf key)) zeroEstimate

def ResourceEstimate.Nonneg (e : ResourceEstimate) : Prop :=
  0 ≤ e.cpuInstructions ∧ 0 ≤ e.memoryBytes ∧ 0 ≤ e.footprintEntries ∧ 0 ≤ e.feeStroops

/-- **A sound plan.** Every batch keeps to the budget, the nonces go on where those of the earlier
batches have ended, no key is planned twice, and none that is not settled is lost. -/
structure PlanSound (c : SorobanBatchPlannerOptions) (w : World) (inputs : List Simulated)
    (planner : Planner) (result : PlanResult) : Prop where
  ceilings : ∀ batch ∈ result.batches, batch.totalEstimate = planner.total batch.items ∧
    exceedsBudgetAlone batch.totalEstimate c.budget = false
  size : ∀ batch ∈ result.batches, ∀ maxBatchSize ∈ c.budget.maxBatchSize, batch.items.length ≤ maxBatchSize
  nonces : result.batches.flatMap BatchPlan.nonces =
    consecutive w.planner.nextNonce (result.batches.flatMap BatchPlan.items).length
  assigned : (result.batches.flatMap BatchPlan.items).map planner.nonceOf =
    (result.batches.flatMap BatchPlan.nonces).map some
  larger : ∀ earlier ∈ w.batches, ∀ m ∈ earlier.nonces, ∀ n ∈ result.batches.flatMap BatchPlan.nonces, m < n
  once : (result.batches.flatMap BatchPlan.items).Nodup
  complete : ∀ simulated ∈ inputs, w.planner.settled simulated.1.idempotencyKey = false →
    (result.batches.flatMap BatchPlan.items).count simulated.1.idempotencyKey = 1 ∨
      simulated.1.idempotencyKey ∈ result.rejected.map Prod.fst

/-- Where a key has become a candidate, the simulations of its later inputs fail. -/
def RepeatsFail (c : SorobanBatchPlannerOptions) (p : Planner) (inputs : List Simulated) : Prop :=
  inputs.Pairwise fun a b => a.1.idempotencyKey = b.1.idempotencyKey → accepted c p a = true →
    estimated p b = none

/-! ## The loop over the inputs -/

section Scan

variable {c : SorobanBatchPlannerOptions} {p p' : Planner} {s : Scan} {inputs : List Simulated}
  {simulated : Simulated} {key k : String} {item : PlannerItem} {reason : String}

theorem settled_register (hstate : item.state = .estimating ∨ item.state = .rejected)
    (hkey : p.settled key = false) : (p.register key item).settled k = p.settled k := by
  by_cases hk : k = key
  · rw [hk, hkey, Planner.settled, Planner.register_ledger_self, Option.any_some]
    rcases hstate with h | h
    · rw [h]
      rfl
    · rw [h]
      rfl
  · rw [Planner.settled, Planner.register_ledger_of_ne hk, Planner.settled]

theorem estimateOf_register : (p.register key item).estimateOf k =
    if k = key then item.estimate.getD zeroEstimate else p.estimateOf k := by
  by_cases hk : k = key
  · rw [if_pos hk, hk, Planner.estimateOf, Planner.register_ledger_self, Option.bind_some]
  · rw [if_neg hk, Planner.estimateOf, Planner.register_ledger_of_ne hk, Planner.estimateOf]

theorem estimate_considered : (considered p simulated).estimate.getD zeroEstimate =
    (estimated p simulated).getD (p.estimateOf simulated.1.idempotencyKey) := by
  rw [considered]
  dsimp only
  cases estimated p simulated with
  | some => rfl
  | none =>
      rw [Option.none_or, Option.getD_none, Planner.itemOf, Planner.estimateOf]
      cases p.ledger simulated.1.idempotencyKey with
      | none => rfl
      | some => rfl

theorem estimated_congr (hsettled : ∀ k, p'.settled k = p.settled k)
    (hfactors : p'.adaptationFactors = p.adaptationFactors) : estimated p' simulated = estimated p simulated := by
  rw [estimated, estimated, hsettled]
  unfold applyAdaptation
  rw [hfactors]

/-- What the loop knows of the inputs that it has seen. -/
structure Scanned (c : SorobanBatchPlannerOptions) (p : Planner) (inputs : List Simulated) (s : Scan) :
    Prop where
  settled : ∀ k, s.planner.settled k = p.settled k
  adaptationFactors : s.planner.adaptationFactors = p.adaptationFactors
  nextNonce : s.planner.nextNonce = p.nextNonce
  candidates : s.candidates =
    (inputs.filter (accepted c p)).map fun simulated => simulated.1.idempotencyKey
  rejected : s.rejected.map Prod.fst =
    (inputs.filter fun simulated => !p.settled simulated.1.idempotencyKey && !accepted c p simulated).map
      fun simulated => simulated.1.idempotencyKey
  registered : ∀ k ∈ s.candidates, s.planner.ledger k ≠ none

theorem Scanned.estimated (h : Scanned c p inputs s) (simulated : Simulated) :
    SorobanBatchPlanner.estimated s.planner simulated = SorobanBatchPlanner.estimated p simulated :=
  estimated_congr h.settled h.adaptationFactors

theorem Scanned.accepted (h : Scanned c p inputs s) (simulated : Simulated) :
    SorobanBatchPlanner.accepted c s.planner simulated = SorobanBatchPlanner.accepted c p simulated := by
  rw [SorobanBatchPlanner.accepted, h.estimated, SorobanBatchPlanner.accepted]

theorem accepted_of_settled (h : p.settled simulated.1.idempotencyKey = true) :
    accepted c p simulated = false := by
  rw [accepted, estimated, if_pos h, Option.any_none]

/-- **One round.** -/
theorem Scanned.concat (h : Scanned c p inputs s) (simulated : Simulated) :
    Scanned c p (inputs ++ [simulated]) (consider c s simulated) := by
  rcases consider_cases c s simulated with ⟨hsettled, heq⟩ | ⟨hfresh, haccepted, heq⟩ |
    ⟨hfresh, haccepted, reason, heq⟩
  · have haccepted := accepted_of_settled (c := c) hsettled
    rw [h.accepted] at haccepted
    rw [h.settled] at hsettled
    rw [heq]
    refine ⟨h.settled, h.adaptationFactors, h.nextNonce, ?_, ?_, h.registered⟩
    · rw [h.candidates, List.filter_append, List.filter_cons_of_neg (by simp [haccepted]), List.filter_nil,
        List.append_nil]
    · rw [h.rejected, List.filter_append, List.filter_cons_of_neg (by simp [hsettled]), List.filter_nil,
        List.append_nil]
  · rw [h.accepted] at haccepted
    rw [heq]
    refine ⟨fun k => ?_, h.adaptationFactors, h.nextNonce, ?_, ?_, ?_⟩
    · rw [settled_register (.inl rfl) hfresh, h.settled]
    · rw [h.candidates, List.filter_append, List.filter_cons_of_pos haccepted, List.filter_nil,
        List.map_append, List.map_singleton]
    · rw [h.rejected, List.filter_append, List.filter_cons_of_neg (by simp [haccepted]), List.filter_nil,
        List.append_nil]
    · intro k hk
      by_cases hkey : k = simulated.1.idempotencyKey
      · rw [hkey, Planner.register_ledger_self]
        exact Option.some_ne_none _
      · rw [Planner.register_ledger_of_ne hkey]
        exact h.registered k (by simpa [hkey] using hk)
  · rw [h.accepted] at haccepted
    have hfresh' := hfresh
    rw [h.settled] at hfresh'
    rw [heq]
    refine ⟨fun k => ?_, h.adaptationFactors, h.nextNonce, ?_, ?_, ?_⟩
    · rw [reject, settled_register (.inr rfl) hfresh, h.settled]
    · rw [reject, h.candidates, List.filter_append, List.filter_cons_of_neg (by simp [haccepted]),
        List.filter_nil, List.append_nil]
    · rw [reject, List.map_append, h.rejected, List.filter_append,
        List.filter_cons_of_pos (by simp [haccepted, hfresh']), List.filter_nil, List.map_append,
        List.map_singleton, List.map_singleton]
    · intro k hk
      by_cases hkey : k = simulated.1.idempotencyKey
      · rw [reject, hkey, Planner.register_ledger_self]
        exact Option.some_ne_none _
      · rw [reject, Planner.register_ledger_of_ne hkey]
        exact h.registered k hk

theorem scan_concat : scan c p (inputs ++ [simulated]) = consider c (scan c p inputs) simulated :=
  List.foldl_concat ..

theorem scanned (c : SorobanBatchPlannerOptions) (p : Planner) (inputs : List Simulated) :
    Scanned c p inputs (scan c p inputs) := by
  induction inputs using List.reverseRecOn with
  | nil => exact ⟨fun _ => rfl, rfl, rfl, rfl, rfl, fun _ h => absurd h List.not_mem_nil⟩
  | append_singleton _ simulated ih =>
      rw [scan_concat]
      exact ih.concat simulated

/-- The estimate of an item is the one that its last input has left with it. -/
theorem estimateOf_consider : (consider c s simulated).planner.estimateOf k =
    if k = simulated.1.idempotencyKey then (estimated s.planner simulated).getD (s.planner.estimateOf k)
    else s.planner.estimateOf k := by
  rcases consider_cases c s simulated with ⟨hsettled, heq⟩ | ⟨-, -, heq⟩ | ⟨-, -, reason, heq⟩
  · rw [heq, estimated, if_pos hsettled, Option.getD_none, ite_self]
  · rw [heq]
    dsimp only
    rw [estimateOf_register, estimate_considered]
    by_cases hk : k = simulated.1.idempotencyKey
    · rw [if_pos hk, if_pos hk, hk]
    · rw [if_neg hk, if_neg hk]
  · rw [heq, reject]
    dsimp only
    rw [estimateOf_register]
    dsimp only
    rw [estimate_considered]
    by_cases hk : k = simulated.1.idempotencyKey
    · rw [if_pos hk, if_pos hk, hk]
    · rw [if_neg hk, if_neg hk]

theorem mem_candidates : k ∈ (scan c p inputs).candidates ↔
    ∃ simulated ∈ inputs, accepted c p simulated = true ∧ simulated.1.idempotencyKey = k := by
  rw [(scanned c p inputs).candidates]
  simp only [List.mem_map, List.mem_filter, and_assoc]

theorem candidates_concat : (scan c p (inputs ++ [simulated])).candidates =
    (scan c p inputs).candidates ++
      if accepted c p simulated = true then [simulated.1.idempotencyKey] else [] := by
  rw [(scanned c p (inputs ++ [simulated])).candidates, (scanned c p inputs).candidates, List.filter_append,
    List.map_append]
  by_cases h : accepted c p simulated = true
  · rw [if_pos h, List.filter_cons_of_pos h, List.filter_nil, List.map_singleton]
  · rw [if_neg h, List.filter_cons_of_neg h, List.filter_nil, List.map_nil]

theorem estimateOf_scan_concat : (scan c p (inputs ++ [simulated])).planner.estimateOf k =
    if k = simulated.1.idempotencyKey then
      (estimated p simulated).getD ((scan c p inputs).planner.estimateOf k)
    else (scan c p inputs).planner.estimateOf k := by
  rw [scan_concat, estimateOf_consider, (scanned c p inputs).estimated]

theorem repeatsFail_concat : RepeatsFail c p (inputs ++ [simulated]) ↔ RepeatsFail c p inputs ∧
    (simulated.1.idempotencyKey ∈ (scan c p inputs).candidates → estimated p simulated = none) := by
  rw [RepeatsFail, List.pairwise_append, RepeatsFail, mem_candidates]
  constructor
  · rintro ⟨hinputs, -, hlast⟩
    refine ⟨hinputs, ?_⟩
    rintro ⟨a, ha, haccepted, hkey⟩
    exact hlast a ha simulated (List.mem_singleton_self _) hkey haccepted
  · rintro ⟨hinputs, hlast⟩
    refine ⟨hinputs, List.pairwise_singleton _ _, ?_⟩
    intro a ha b hb hkey haccepted
    rw [List.mem_singleton.mp hb] at hkey ⊢
    exact hlast ⟨a, ha, haccepted, hkey⟩

/-- The candidates are different, and each fits the budget alone. -/
structure Packable (c : SorobanBatchPlannerOptions) (s : Scan) : Prop where
  nodup : s.candidates.Nodup
  fits : ∀ k ∈ s.candidates, exceedsBudgetAlone (s.planner.estimateOf k) c.budget = false

theorem accepted_iff : accepted c p simulated = true ↔
    ∃ estimate, estimated p simulated = some estimate ∧ exceedsBudgetAlone estimate c.budget = false := by
  rw [accepted, Option.any_eq_true]
  simp

/-- An input that leaves the candidates packable has no estimate for one of them. -/
theorem Packable.unestimated (h : Packable c (scan c p (inputs ++ [simulated])))
    (hmem : simulated.1.idempotencyKey ∈ (scan c p inputs).candidates) : estimated p simulated = none := by
  cases hestimated : estimated p simulated with
  | none => rfl
  | some estimate =>
      have hnodup := h.nodup
      have hfits := h.fits simulated.1.idempotencyKey
        (by rw [candidates_concat]; exact List.mem_append_left _ hmem)
      rw [estimateOf_scan_concat, if_pos rfl, hestimated, Option.getD_some] at hfits
      rw [candidates_concat, if_pos (accepted_iff.mpr ⟨estimate, hestimated, hfits⟩)] at hnodup
      exact absurd rfl ((List.nodup_append.mp hnodup).2.2 _ hmem _ (List.mem_singleton_self _))

/-- **When the loop leaves packable candidates.** -/
theorem packable_iff : Packable c (scan c p inputs) ↔ RepeatsFail c p inputs := by
  induction inputs using List.reverseRecOn with
  | nil =>
      exact ⟨fun _ => List.Pairwise.nil, fun _ => ⟨List.nodup_nil, fun _ h => absurd h List.not_mem_nil⟩⟩
  | append_singleton inputs simulated ih =>
      rw [repeatsFail_concat, ← ih]
      constructor
      · intro h
        refine ⟨⟨?_, ?_⟩, h.unestimated⟩
        · have hnodup := h.nodup
          rw [candidates_concat] at hnodup
          exact (List.nodup_append.mp hnodup).1
        · intro k hk
          have hfits := h.fits k (by rw [candidates_concat]; exact List.mem_append_left _ hk)
          rw [estimateOf_scan_concat] at hfits
          by_cases hkey : k = simulated.1.idempotencyKey
          · rw [if_pos hkey, h.unestimated (hkey ▸ hk), Option.getD_none] at hfits
            exact hfits
          · rw [if_neg hkey] at hfits
            exact hfits
      · rintro ⟨h, hlast⟩
        by_cases hmem : simulated.1.idempotencyKey ∈ (scan c p inputs).candidates
        · -- A repeated candidate has no estimate here, so the round changes nothing that counts.
          have hnone := hlast hmem
          have haccepted : ¬accepted c p simulated = true := by rw [accepted, hnone, Option.any_none]; simp
          have hcandidates : (scan c p (inputs ++ [simulated])).candidates = (scan c p inputs).candidates := by
            rw [candidates_concat, if_neg haccepted, List.append_nil]
          refine ⟨hcandidates ▸ h.nodup, fun k hk => ?_⟩
          rw [hcandidates] at hk
          rw [estimateOf_scan_concat, hnone, Option.getD_none, ite_self]
          exact h.fits k hk
        · have hothers : ∀ k ∈ (scan c p inputs).candidates, k ≠ simulated.1.idempotencyKey := by
            rintro k hk rfl
            exact hmem hk
          by_cases haccepted : accepted c p simulated = true
          · obtain ⟨estimate, hestimated, hfits⟩ := accepted_iff.mp haccepted
            refine ⟨?_, ?_⟩
            · rw [candidates_concat, if_pos haccepted, List.nodup_append]
              refine ⟨h.nodup, List.nodup_singleton _, ?_⟩
              intro k hk k' hk'
              rw [List.mem_singleton.mp hk']
              exact hothers k hk
            · intro k hk
              rw [candidates_concat, if_pos haccepted, List.mem_append, List.mem_singleton] at hk
              rw [estimateOf_scan_concat]
              rcases hk with hk | hk
              · rw [if_neg (hothers k hk)]
                exact h.fits k hk
              · rw [if_pos hk, hestimated, Option.getD_some]
                exact hfits
          · refine ⟨?_, ?_⟩
            · rw [candidates_concat, if_neg haccepted, List.append_nil]
              exact h.nodup
            · intro k hk
              rw [candidates_concat, if_neg haccepted, List.append_nil] at hk
              rw [estimateOf_scan_concat, if_neg (hothers k hk)]
              exact h.fits k hk

end Scan

/-! ## The bins -/

section Bins

variable {c : SorobanBatchPlannerOptions} {p p' : Planner} {keys : List String} {key k : String}
  {bin : PackedBin} {total e : ResourceEstimate} {bins : List PackedBin} {batches : List BatchPlan}

theorem fitsWithin_eq {budget : ResourceBudget} :
    fitsWithin total e budget = !exceedsBudgetAlone (addEstimate total e) budget := by
  rw [Bool.eq_iff_iff]
  simp [fitsWithin, exceedsBudgetAlone, addEstimate, and_assoc]

theorem total_concat : p.total (keys ++ [key]) = addEstimate (p.total keys) (p.estimateOf key) :=
  List.foldl_concat ..

theorem total_singleton : p.total [key] = p.estimateOf key := by
  rw [Planner.total, List.foldl_cons, List.foldl_nil, addEstimate, zeroEstimate]
  simp only [zero_add]

theorem total_congr (h : ∀ k, p'.estimateOf k = p.estimateOf k) : p'.total keys = p.total keys := by
  rw [Planner.total, Planner.total]
  simp only [h]

/-- A bin adds up the estimates of its items. -/
theorem total_of_mem_fillBins (h : bin ∈ fillBins c p keys) : bin.total = p.total bin.items := by
  refine FirstFit.forall_pack (P := fun bin => bin.total = p.total bin.items) ?_ ?_ bin h
  · intro bin key hbin _
    rw [push]
    dsimp only
    rw [total_concat, hbin]
  · intro key _
    rw [openBin]
    dsimp only
    rw [total_singleton]

/-- A bin stays within the ceilings where each of its items does. -/
theorem ceilings_of_mem_fillBins (hfits : ∀ k ∈ keys, exceedsBudgetAlone (p.estimateOf k) c.budget = false)
    (h : bin ∈ fillBins c p keys) : exceedsBudgetAlone bin.total c.budget = false := by
  refine FirstFit.forall_pack (P := fun bin => exceedsBudgetAlone bin.total c.budget = false) ?_ ?_ bin h
  · intro bin key _ hroom
    rw [hasRoom, Bool.and_eq_true, fitsWithin_eq, Bool.not_eq_true'] at hroom
    exact hroom.2
  · intro key hkey
    exact hfits key ((List.perm_insertionSort _ _).mem_iff.mp hkey)

theorem size_of_mem_fillBins (hsize : ∀ m ∈ c.budget.maxBatchSize, 1 ≤ m) (h : bin ∈ fillBins c p keys) :
    ∀ m ∈ c.budget.maxBatchSize, bin.items.length ≤ m := by
  refine FirstFit.forall_pack (P := fun bin => ∀ m ∈ c.budget.maxBatchSize, bin.items.length ≤ m) ?_ ?_
    bin h
  · intro bin key _ hroom m hm
    rw [hasRoom, Bool.and_eq_true, Option.mem_def.mp hm, Option.all_some, decide_eq_true_eq] at hroom
    rw [push]
    dsimp only
    rw [List.length_append, List.length_singleton]
    exact hroom.1
  · intro key _ m hm
    exact hsize m hm

/-- Closing the bins leaves the estimates. -/
theorem Closed.estimateOf (h : Closed p bins p' batches) : p'.estimateOf k = p.estimateOf k := by
  by_cases hk : k ∈ bins.flatMap PackedBin.items
  · obtain ⟨batch, nonce, -, hledger⟩ := h.planned k hk
    rw [Planner.estimateOf, hledger, Planner.estimateOf]
    cases p.ledger k with
    | none => rfl
    | some => rfl
  · rw [Planner.estimateOf, h.others k hk, Planner.estimateOf]

/-- A batch is its bin. -/
theorem Closed.exists_bin (h : Closed p bins p' batches) {batch : BatchPlan} (hmem : batch ∈ batches) :
    ∃ bin ∈ bins, batch.items = bin.items ∧ batch.totalEstimate = bin.total := by
  obtain ⟨i, hi⟩ := List.mem_iff_getElem?.mp hmem
  have hitems := congrArg (fun items => items[i]?) h.items
  have htotals := congrArg (fun totals => totals[i]?) h.totals
  rw [List.getElem?_map, List.getElem?_map, hi, Option.map_some] at hitems htotals
  obtain ⟨bin, hbin, hbin_items⟩ := Option.map_eq_some_iff.mp hitems.symm
  rw [hbin, Option.map_some, Option.some.injEq] at htotals
  exact ⟨bin, List.mem_of_getElem? hbin, hbin_items.symm, htotals⟩

end Bins

/-! ## The nonces -/

section Nonces

variable {p : Planner} {keys : List String} {key k : String} {bins : List PackedBin} {batchId : String}
  {now : ℕ → ℕ} {i : ℕ} {m n start : ℤ} {count : ℕ}

theorem consecutive_add (a b : ℕ) :
    consecutive start (a + b) = consecutive start a ++ consecutive (start + a) b := by
  rw [consecutive, List.range_add, List.map_append, List.map_map, consecutive, consecutive]
  congr 1
  apply List.map_congr_left
  intro j _
  rw [Function.comp_apply]
  push_cast
  omega

theorem mem_consecutive : n ∈ consecutive start count ↔ start ≤ n ∧ n < start + count := by
  rw [consecutive, List.mem_map]
  constructor
  · rintro ⟨j, hj, rfl⟩
    rw [List.mem_range] at hj
    omega
  · rintro ⟨hfrom, hto⟩
    exact ⟨(n - start).toNat, List.mem_range.mpr (by omega), by omega⟩

theorem consecutive_one : consecutive start 1 = [start] := by
  rw [consecutive, List.range_one, List.map_singleton, Nat.cast_zero, Int.add_zero]

theorem nonceOf_congr {p' : Planner} (h : p'.ledger k = p.ledger k) : p'.nonceOf k = p.nonceOf k := by
  rw [Planner.nonceOf, h, Planner.nonceOf]

/-- The items of one batch get one nonce after the other. -/
theorem nonceOf_foldl (hnodup : keys.Nodup) (hregistered : ∀ k ∈ keys, p.ledger k ≠ none) :
    keys.map (keys.foldl (assign batchId) p).nonceOf = (consecutive p.nextNonce keys.length).map some := by
  induction keys using List.reverseRecOn with
  | nil => rfl
  | append_singleton keys key ih =>
      obtain ⟨hkeys, -, hdisjoint⟩ := List.nodup_append.mp hnodup
      have hassigned : Assigned p batchId keys (keys.foldl (assign batchId) p) := assigned_foldl
      have hkey : key ∉ keys := fun hmem => hdisjoint key hmem key (List.mem_singleton_self _) rfl
      rw [List.foldl_concat, List.map_append, List.map_singleton, List.length_append, List.length_singleton,
        consecutive_add, List.map_append, consecutive_one, List.map_singleton]
      congr 1
      · rw [← ih hkeys fun k hk => hregistered k (List.mem_append_left _ hk)]
        apply List.map_congr_left
        intro k hk
        exact nonceOf_congr (assign_ledger_of_ne fun h => hkey (h ▸ hk))
      · obtain ⟨item, hitem⟩ := Option.ne_none_iff_exists'.mp
          (hregistered key (List.mem_append_right _ (List.mem_singleton_self _)))
        rw [Planner.nonceOf, assign_ledger_self, hassigned.others key hkey, hitem, Option.map_some,
          Option.bind_some, hassigned.nextNonce]
        rfl

/-- The nonces of a batch are those that its items take. -/
theorem nonces_closeBin {bin : PackedBin} {time : ℕ} :
    (closeBin time p bin).2.nonces = consecutive p.nextNonce bin.items.length := by
  have hassigned : Assigned p _ bin.items (closeBin time p bin).1 := assigned_foldl
  have hend : (closeBin time p bin).2.nonceRange.end_ = (closeBin time p bin).1.nextNonce - 1 := rfl
  have hstart : (closeBin time p bin).2.nonceRange.start = p.nextNonce := rfl
  rw [BatchPlan.nonces, hend, hstart, hassigned.nextNonce]
  congr 1
  omega

/-- **The nonces go on without a gap.** -/
theorem nonces_closeBins : (closeBins now i p bins).2.flatMap BatchPlan.nonces =
    consecutive p.nextNonce (bins.flatMap PackedBin.items).length := by
  induction bins generalizing i p with
  | nil => rfl
  | cons bin _ ih =>
      have hassigned : Assigned p _ bin.items (closeBin (now i) p bin).1 := assigned_foldl
      rw [closeBins]
      dsimp only
      rw [List.flatMap_cons, nonces_closeBin, ih, hassigned.nextNonce, List.flatMap_cons, List.length_append,
        consecutive_add]

/-- **Where no item is packed twice, each has the nonce of its place.** -/
theorem nonceOf_closeBins (hnodup : (bins.flatMap PackedBin.items).Nodup)
    (hregistered : ∀ k ∈ bins.flatMap PackedBin.items, p.ledger k ≠ none) :
    (bins.flatMap PackedBin.items).map (closeBins now i p bins).1.nonceOf =
      (consecutive p.nextNonce (bins.flatMap PackedBin.items).length).map some := by
  induction bins generalizing i p with
  | nil => rfl
  | cons bin bins ih =>
      rw [List.flatMap_cons] at hnodup hregistered ⊢
      obtain ⟨hbin, hbins, hdisjoint⟩ := List.nodup_append.mp hnodup
      have hassigned : Assigned p _ bin.items (closeBin (now i) p bin).1 := assigned_foldl
      have hclosed : Closed (closeBin (now i) p bin).1 bins
          (closeBins now (i + 1) (closeBin (now i) p bin).1 bins).1
          (closeBins now (i + 1) (closeBin (now i) p bin).1 bins).2 := closed_closeBins
      rw [closeBins]
      dsimp only
      rw [List.map_append, List.length_append, consecutive_add, List.map_append]
      congr 1
      · rw [← nonceOf_foldl hbin fun k hk => hregistered k (List.mem_append_left _ hk)]
        apply List.map_congr_left
        intro k hk
        exact nonceOf_congr (hclosed.others k fun hlater => hdisjoint k hk k hlater rfl)
      · rw [← hassigned.nextNonce]
        refine ih hbins fun k hk => ?_
        rw [hassigned.others k fun hfirst => hdisjoint k hfirst k hk rfl]
        exact hregistered k (List.mem_append_right _ hk)

end Nonces

/-! ## Estimates that are not negative -/

section Nonneg

variable {c : SorobanBatchPlannerOptions} {p : Planner} {inputs : List Simulated} {simulated : Simulated}
  {keys : List String} {k : String} {a b : ResourceEstimate} {w : World} {op : Op}

/-- The simulations of the inputs answer with resources that are not negative. -/
def AnswersNonneg (inputs : List Simulated) : Prop :=
  ∀ simulated ∈ inputs, ∀ rawEstimate, simulated.2 = .ok rawEstimate → rawEstimate.Nonneg

/-- No margin turns an estimate around. -/
def Planner.FactorsNonneg (p : Planner) : Prop :=
  ∀ key, ∀ factor ∈ p.adaptationFactors key, 0 ≤ factor

theorem addEstimate_nonneg (ha : a.Nonneg) (hb : b.Nonneg) : (addEstimate a b).Nonneg :=
  ⟨add_nonneg ha.1 hb.1, add_nonneg ha.2.1 hb.2.1, add_nonneg ha.2.2.1 hb.2.2.1, add_nonneg ha.2.2.2 hb.2.2.2⟩

theorem exceedsBudgetAlone_iff {budget : ResourceBudget} : exceedsBudgetAlone a budget = true ↔
    budget.maxCpuInstructions < a.cpuInstructions ∨ budget.maxMemoryBytes < a.memoryBytes ∨
      budget.maxFootprintEntries < a.footprintEntries ∨ budget.maxFeeStroops < a.feeStroops := by
  simp [exceedsBudgetAlone, or_assoc]

/-- A part that exceeds the budget makes the whole exceed it. -/
theorem exceeds_addEstimate_left {budget : ResourceBudget} (hb : b.Nonneg)
    (h : exceedsBudgetAlone a budget = true) : exceedsBudgetAlone (addEstimate a b) budget = true := by
  rw [exceedsBudgetAlone_iff] at h ⊢
  exact h.imp (fun h => h.trans_le (le_add_of_nonneg_right hb.1))
    (Or.imp (fun h => h.trans_le (le_add_of_nonneg_right hb.2.1))
      (Or.imp (fun h => h.trans_le (le_add_of_nonneg_right hb.2.2.1))
        fun h => h.trans_le (le_add_of_nonneg_right hb.2.2.2)))

theorem addEstimate_comm : addEstimate a b = addEstimate b a := by
  rw [addEstimate, addEstimate]
  simp only [add_comm]

theorem total_nonneg (h : ∀ k ∈ keys, (p.estimateOf k).Nonneg) : (p.total keys).Nonneg := by
  induction keys using List.reverseRecOn with
  | nil => exact ⟨le_refl _, le_refl _, le_refl _, le_refl _⟩
  | append_singleton _ key ih =>
      rw [total_concat]
      exact addEstimate_nonneg (ih fun k hk => h k (List.mem_append_left _ hk))
        (h key (List.mem_append_right _ (List.mem_singleton_self _)))

theorem exceeds_total {budget : ResourceBudget} (h : ∀ k ∈ keys, (p.estimateOf k).Nonneg) (hk : k ∈ keys)
    (hexceeds : exceedsBudgetAlone (p.estimateOf k) budget = true) :
    exceedsBudgetAlone (p.total keys) budget = true := by
  induction keys using List.reverseRecOn with
  | nil => exact absurd hk List.not_mem_nil
  | append_singleton keys key ih =>
      rw [total_concat]
      have hkeys : ∀ k ∈ keys, (p.estimateOf k).Nonneg := fun k hk => h k (List.mem_append_left _ hk)
      rw [List.mem_append, List.mem_singleton] at hk
      rcases hk with hk | rfl
      · exact exceeds_addEstimate_left (h key (List.mem_append_right _ (List.mem_singleton_self _)))
          (ih hkeys hk)
      · rw [addEstimate_comm]
        exact exceeds_addEstimate_left (total_nonneg hkeys) hexceeds

theorem applyAdaptation_nonneg (hfactors : p.FactorsNonneg) (ha : a.Nonneg) {input : BatchItemInput} :
    (applyAdaptation p input a).Nonneg := by
  have hfactor : 0 ≤ (p.adaptationFactors (adaptationKey input)).getD 1 := by
    cases hsome : p.adaptationFactors (adaptationKey input) with
    | none => exact zero_le_one
    | some factor => exact hfactors _ factor hsome
  have hceil {x : ℚ} (hx : 0 ≤ x) :
      (0 : ℚ) ≤ ⌈x * (p.adaptationFactors (adaptationKey input)).getD 1⌉ :=
    Int.cast_nonneg (Int.ceil_nonneg (mul_nonneg hx hfactor))
  rw [applyAdaptation]
  by_cases hone : (p.adaptationFactors (adaptationKey input)).getD 1 = 1
  · rw [if_pos hone]
    exact ha
  · rw [if_neg hone]
    exact ⟨hceil ha.1, hceil ha.2.1, ha.2.2.1, hceil ha.2.2.2⟩

theorem estimated_nonneg (hfactors : p.FactorsNonneg)
    (hanswer : ∀ rawEstimate, simulated.2 = .ok rawEstimate → rawEstimate.Nonneg)
    (h : estimated p simulated = some a) : a.Nonneg := by
  rw [estimated] at h
  by_cases hsettled : p.settled simulated.1.idempotencyKey = true
  · rw [if_pos hsettled] at h
    cases h
  · rw [if_neg hsettled] at h
    cases hok : simulated.2 with
    | error =>
        rw [hok] at h
        cases h
    | ok rawEstimate =>
        rw [hok, Option.some.injEq] at h
        rw [← h]
        exact applyAdaptation_nonneg hfactors (hanswer rawEstimate hok)

/-- The candidates have estimates that are not negative. -/
theorem candidates_nonneg (hfactors : p.FactorsNonneg) (hinputs : AnswersNonneg inputs) :
    ∀ k ∈ (scan c p inputs).candidates, ((scan c p inputs).planner.estimateOf k).Nonneg := by
  induction inputs using List.reverseRecOn with
  | nil => exact fun _ h => absurd h List.not_mem_nil
  | append_singleton _ simulated ih =>
      intro k hk
      have hbefore := ih (fun s hs => hinputs s (List.mem_append_left _ hs)) k
      have hlast := hinputs simulated (List.mem_append_right _ (List.mem_singleton_self _))
      rw [estimateOf_scan_concat]
      rw [candidates_concat, List.mem_append] at hk
      by_cases hkey : k = simulated.1.idempotencyKey
      · rw [if_pos hkey]
        cases hestimated : estimated p simulated with
        | some => exact estimated_nonneg hfactors hlast hestimated
        | none =>
            rw [Option.getD_none]
            refine hbefore (hk.resolve_right ?_)
            rw [accepted, hestimated, Option.any_none]
            simp
      · rw [if_neg hkey]
        refine hbefore (hk.resolve_right fun hk => ?_)
        by_cases haccepted : accepted c p simulated = true
        · rw [if_pos haccepted, List.mem_singleton] at hk
          exact hkey hk
        · rw [if_neg haccepted] at hk
          exact List.not_mem_nil hk

end Nonneg

/-! ## Runs -/

section Runs

variable {c : SorobanBatchPlannerOptions} {p : Planner} {batch : BatchPlan} {now : ℕ → ℕ}
  {inputs : List Simulated} {outcomes : List SubmissionOutcome} {w : World} {op : Op}

theorem nonces_plan : (plan c now p inputs).2.batches.flatMap BatchPlan.nonces =
    consecutive p.nextNonce ((plan c now p inputs).2.batches.flatMap BatchPlan.items).length := by
  rw [closed_plan.flatMap_items, plan_eq]
  dsimp only
  rw [nonces_closeBins, (scanned c p inputs).nextNonce]

theorem nextNonce_plan : (plan c now p inputs).1.nextNonce =
    p.nextNonce + ((plan c now p inputs).2.batches.flatMap BatchPlan.items).length := by
  rw [closed_plan.flatMap_items, closed_plan.nextNonce, (scanned c p inputs).nextNonce]

theorem nextNonce_markSubmitted : (markSubmitted p batch).nextNonce = p.nextNonce := by
  rw [markSubmitted]
  induction batch.items generalizing p with
  | nil => rfl
  | cons _ _ ih =>
      rw [List.foldl_cons, ih]
      rfl

theorem adaptationFactors_markSubmitted :
    (markSubmitted p batch).adaptationFactors = p.adaptationFactors := by
  rw [markSubmitted]
  induction batch.items generalizing p with
  | nil => rfl
  | cons _ _ ih =>
      rw [List.foldl_cons, ih]
      rfl

theorem nextNonce_reconcile : (reconcile c p batch outcomes).1.nextNonce = p.nextNonce := by
  refine reconcile_induction (P := fun q => q.nextNonce = p.nextNonce) rfl ?_
  intro s key hs
  rcases settle_cases c outcomes s key with heq | ⟨item, outcome, -, -, -, heq⟩
  · rw [heq]
    exact hs
  · rw [heq]
    split
    · exact hs
    · exact hs

theorem factorsNonneg_bumpAdaptation {input : BatchItemInput} (hstep : 0 ≤ c.adaptationStep)
    (hmax : 0 ≤ c.maxAdaptationFactor) (h : p.FactorsNonneg) :
    (bumpAdaptation c p input).FactorsNonneg := by
  intro key factor hfactor
  rw [bumpAdaptation] at hfactor
  dsimp only at hfactor
  by_cases hkey : key = adaptationKey input
  · rw [hkey, Function.update_self, Option.mem_def, Option.some.injEq] at hfactor
    rw [← hfactor]
    refine le_min (mul_nonneg ?_ hstep) hmax
    cases hsome : p.adaptationFactors (adaptationKey input) with
    | none => exact zero_le_one
    | some factor => exact h _ factor hsome
  · rw [Function.update_of_ne hkey] at hfactor
    exact h key factor hfactor

/-- What holds in every world. -/
structure Planned (c : SorobanBatchPlannerOptions) (w : World) : Prop where
  below : ∀ batch ∈ w.batches, ∀ n ∈ batch.nonces, n < w.planner.nextNonce
  factors : 0 ≤ c.adaptationStep → 0 ≤ c.maxAdaptationFactor → w.planner.FactorsNonneg

theorem Planned.step (h : Planned c w) (op : Op) : Planned c (SorobanBatchPlanner.step c w op) := by
  cases op with
  | plan now inputs =>
      rw [SorobanBatchPlanner.step]
      dsimp only
      refine ⟨fun batch hbatch n hn => ?_, fun hstep hmax => ?_⟩
      · dsimp only at hbatch ⊢
        rw [nextNonce_plan]
        rcases List.mem_append.mp hbatch with hbatch | hbatch
        · have hbelow := h.below batch hbatch n hn
          omega
        · have hmem : n ∈ (plan c now w.planner inputs).2.batches.flatMap BatchPlan.nonces :=
            List.mem_flatMap.mpr ⟨batch, hbatch, hn⟩
          rw [nonces_plan, mem_consecutive] at hmem
          exact hmem.2
      · dsimp only
        rw [Planner.FactorsNonneg, closed_plan.adaptationFactors,
          (scanned c w.planner inputs).adaptationFactors]
        exact h.factors hstep hmax
  | markSubmitted i =>
      rw [SorobanBatchPlanner.step]
      cases w.batches[i]? with
      | none => exact h
      | some =>
          refine ⟨fun earlier hearlier n hn => ?_, fun hstep hmax => ?_⟩
          · dsimp only [Option.elim_some] at hearlier ⊢
            rw [nextNonce_markSubmitted]
            exact h.below earlier hearlier n hn
          · dsimp only [Option.elim_some]
            rw [Planner.FactorsNonneg, adaptationFactors_markSubmitted]
            exact h.factors hstep hmax
  | reconcile i outcomes =>
      rw [SorobanBatchPlanner.step]
      cases w.batches[i]? with
      | none => exact h
      | some =>
          refine ⟨fun earlier hearlier n hn => ?_, fun hstep hmax => ?_⟩
          · dsimp only [Option.elim_some] at hearlier ⊢
            rw [nextNonce_reconcile]
            exact h.below earlier hearlier n hn
          · dsimp only [Option.elim_some]
            refine reconcile_induction (P := Planner.FactorsNonneg) (h.factors hstep hmax) ?_
            intro s key hs
            rcases settle_cases c outcomes s key with heq | ⟨item, outcome, -, -, -, heq⟩
            · rw [heq]
              exact hs
            · rw [heq]
              split
              · exact factorsNonneg_bumpAdaptation hstep hmax hs
              · exact hs

theorem planned_run (c : SorobanBatchPlannerOptions) (nonceStart : ℤ) (ops : List Op) :
    Planned c (Runs.run (SorobanBatchPlanner.step c) (.initial nonceStart) ops) := by
  refine Runs.run_invariant (C := fun _ _ => True) (fun h _ => h.step _) ⟨?_, ?_⟩
    (Runs.Along.of_forall fun _ _ => trivial)
  · exact fun _ h => absurd h List.not_mem_nil
  · exact fun _ _ _ _ h => absurd h (Option.not_mem_none _)

/-- **A call is sound where its candidates are packable.** -/
theorem planSound_of_packable (hw : Planned c w) (hsize : ∀ m ∈ c.budget.maxBatchSize, 1 ≤ m)
    (h : Packable c (scan c w.planner inputs)) :
    PlanSound c w inputs (plan c now w.planner inputs).1 (plan c now w.planner inputs).2 where
  ceilings batch hbatch := by
    obtain ⟨bin, hbin, hitems, htotal⟩ := closed_plan.exists_bin hbatch
    rw [htotal, hitems, total_congr fun _ => closed_plan.estimateOf]
    exact ⟨total_of_mem_fillBins hbin, ceilings_of_mem_fillBins h.fits hbin⟩
  size batch hbatch := by
    obtain ⟨bin, hbin, hitems, -⟩ := closed_plan.exists_bin hbatch
    rw [hitems]
    exact size_of_mem_fillBins hsize hbin
  nonces := nonces_plan
  assigned := by
    have hperm : ((fillBins c (scan c w.planner inputs).planner
        (scan c w.planner inputs).candidates).flatMap PackedBin.items).Perm
          (scan c w.planner inputs).candidates := fillBins_perm
    rw [nonces_plan, closed_plan.flatMap_items, ← (scanned c w.planner inputs).nextNonce, plan_eq]
    exact nonceOf_closeBins (hperm.nodup_iff.mpr h.nodup) fun k hk =>
      (scanned c w.planner inputs).registered k (hperm.mem_iff.mp hk)
  larger earlier hearlier m hm n hn := by
    rw [nonces_plan, mem_consecutive] at hn
    exact lt_of_lt_of_le (hw.below earlier hearlier m hm) hn.1
  once := items_plan_perm.nodup_iff.mpr h.nodup
  complete simulated hsimulated hfresh := by
    by_cases haccepted : accepted c w.planner simulated = true
    · left
      rw [items_plan_perm.count_eq]
      exact List.count_eq_one_of_mem h.nodup (mem_candidates.mpr ⟨simulated, hsimulated, haccepted, rfl⟩)
    · right
      rw [plan_eq]
      dsimp only
      rw [(scanned c w.planner inputs).rejected, List.mem_map]
      refine ⟨simulated, List.mem_filter.mpr ⟨hsimulated, ?_⟩, rfl⟩
      rw [hfresh, Bool.not_false, Bool.true_and, Bool.not_eq_true', ← Bool.not_eq_true]
      exact haccepted

/-- **A sound call has packable candidates,** where no estimate is negative. -/
theorem PlanSound.packable (h : PlanSound c w inputs (plan c now w.planner inputs).1
      (plan c now w.planner inputs).2) (hfactors : w.planner.FactorsNonneg) (hinputs : AnswersNonneg inputs) :
    Packable c (scan c w.planner inputs) where
  nodup := items_plan_perm.nodup_iff.mp h.once
  fits k hk := by
    obtain ⟨batch, hbatch, hkey⟩ := List.mem_flatMap.mp (items_plan_perm.mem_iff.mpr hk)
    obtain ⟨htotal, hceilings⟩ := h.ceilings batch hbatch
    rw [htotal, total_congr fun _ => closed_plan.estimateOf] at hceilings
    rw [← Bool.not_eq_true] at hceilings ⊢
    intro hexceeds
    refine hceilings (exceeds_total (fun k' hk' => ?_) hkey hexceeds)
    exact candidates_nonneg hfactors hinputs k'
      (items_plan_perm.mem_iff.mp (List.mem_flatMap.mpr ⟨batch, hbatch, hk'⟩))

end Runs

/-- The call of `plan` is sound. -/
def World.PlansSoundly (c : SorobanBatchPlannerOptions) (w : World) (now : ℕ → ℕ) (inputs : List Simulated) :
    Prop :=
  PlanSound c w inputs (plan c now w.planner inputs).1 (plan c now w.planner inputs).2

/-- **When planning is sound.** In every state that calls have led to, a call is sound where the
simulations of a key fail once the key has become a candidate; and with margins that are not negative
it is sound only there. -/
theorem plans_soundly_iff (c : SorobanBatchPlannerOptions) (nonceStart : ℤ) (ops : List Op) (now : ℕ → ℕ)
    (inputs : List Simulated) (hsize : ∀ maxBatchSize ∈ c.budget.maxBatchSize, 1 ≤ maxBatchSize)
    (hinputs : AnswersNonneg inputs) :
    (RepeatsFail c (World.after c nonceStart ops).planner inputs →
      (World.after c nonceStart ops).PlansSoundly c now inputs) ∧
    (0 ≤ c.adaptationStep → 0 ≤ c.maxAdaptationFactor →
      (World.after c nonceStart ops).PlansSoundly c now inputs →
        RepeatsFail c (World.after c nonceStart ops).planner inputs) := by
  have hplanned : Planned c (World.after c nonceStart ops) := planned_run c nonceStart ops
  constructor
  · intro h
    exact planSound_of_packable hplanned hsize (packable_iff.mpr h)
  · intro hstep hmax h
    exact packable_iff.mp (PlanSound.packable h (hplanned.factors hstep hmax) hinputs)

/-- An item without a priority. -/
def invocation (id : String) : BatchItemInput where
  id
  idempotencyKey := "key-" ++ id
  contractId := "CBRIDGE"
  functionName := "submit_health"
  priority := none

/-- An estimate with one size for the four dimensions. -/
def sized (x : ℚ) : ResourceEstimate := ⟨x, x, x, x⟩

def options : SorobanBatchPlannerOptions where
  budget := ⟨1000, 1000, 1000, 1000, some 2⟩
  maxRetries := 3
  adaptationStep := 5 / 4
  maxAdaptationFactor := 3

/-- Three items, the last one of which is too large on its own. -/
def backlog : List Simulated :=
  [(invocation "a", .ok (sized 400)), (invocation "b", .ok (sized 500)), (invocation "c", .ok (sized 2000))]

theorem plans_soundly_iff_backlog :
    (World.after options 0 [.plan (fun _ => 0) backlog, .markSubmitted 0]).PlansSoundly options (fun _ => 0)
      [(invocation "d", .ok (sized 300))] :=
  (plans_soundly_iff options 0 [.plan (fun _ => 0) backlog, .markSubmitted 0] (fun _ => 0)
    [(invocation "d", .ok (sized 300))] (by decide) (by
      intro simulated hsimulated rawEstimate hanswer
      rw [List.mem_singleton.mp hsimulated, Except.ok.injEq] at hanswer
      rw [← hanswer]
      exact ⟨by decide +kernel, by decide +kernel, by decide +kernel, by decide +kernel⟩)).1
    (List.pairwise_singleton _ _)

/-- Every ceiling is positive. -/
def ResourceBudget.Positive (budget : ResourceBudget) : Prop :=
  0 < budget.maxCpuInstructions ∧ 0 < budget.maxMemoryBytes ∧ 0 < budget.maxFootprintEntries ∧
    0 < budget.maxFeeStroops

/-- A key that the inputs repeat is planned twice. -/
theorem repeated_key_planned_twice :
    ¬∀ (c : SorobanBatchPlannerOptions) (nonceStart : ℤ) (ops : List Op) (now : ℕ → ℕ)
      (inputs : List Simulated), c.budget.Positive →
      (∀ maxBatchSize ∈ c.budget.maxBatchSize, 1 ≤ maxBatchSize) →
      (∀ now earlier, Op.plan now earlier ∈ ops → AnswersNonneg earlier) → AnswersNonneg inputs →
        (World.after c nonceStart ops).PlansSoundly c now inputs := by
  intro hclaim
  have hsound := hclaim options 0 [] (fun _ => 0)
    [(invocation "a", .ok (sized 400)), (invocation "a", .ok (sized 400))]
    ⟨by decide +kernel, by decide +kernel, by decide +kernel, by decide +kernel⟩ (by decide)
    (fun _ _ h => absurd h List.not_mem_nil) (by
      intro simulated hsimulated rawEstimate hanswer
      rw [List.mem_pair, or_self] at hsimulated
      rw [hsimulated, Except.ok.injEq] at hanswer
      rw [← hanswer]
      exact ⟨by decide +kernel, by decide +kernel, by decide +kernel, by decide +kernel⟩)
  have honce := hsound.once
  revert honce
  decide +kernel

end BridgeWatch.SorobanBatchPlanner

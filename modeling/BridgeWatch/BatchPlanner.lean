/-
The batch planner for Soroban submissions, `backend/src/services/sorobanBatchPlanner.service.ts`.

Numbers are exact. A call runs to its end before the next one starts, and gets the answers of its
simulations with its inputs, so that a simulation may answer differently each time; the arguments of
an invocation, which only the simulation reads, are left out. The items of the planner are objects that
the ledger and the batches share. One object belongs to each idempotency key, so a batch lists keys
here, and what it says of an item is what the ledger has now.
-/
import Mathlib.Algebra.Order.Floor.Semiring
import Mathlib.Data.List.Sort
import Mathlib.Data.Nat.Digits.Defs
import Mathlib.Data.Rat.Floor
import BridgeWatch.FirstFit
import BridgeWatch.Runs

set_option autoImplicit false

namespace BridgeWatch.SorobanBatchPlanner

/-! ## Types -/

structure ResourceBudget where
  maxCpuInstructions : ℚ
  maxMemoryBytes : ℚ
  maxFootprintEntries : ℚ
  maxFeeStroops : ℚ
  maxBatchSize : Option ℕ
  deriving DecidableEq

structure ResourceEstimate where
  cpuInstructions : ℚ
  memoryBytes : ℚ
  footprintEntries : ℚ
  feeStroops : ℚ
  deriving DecidableEq

structure BatchItemInput where
  id : String
  idempotencyKey : String
  contractId : String
  functionName : String
  priority : Option ℚ
  deriving DecidableEq

inductive ItemLifecycleState where
  | pending
  | estimating
  | planned
  | submitted
  | confirmed
  | retry_scheduled
  | rejected
  | dead_letter
  deriving DecidableEq

structure PlannerItem extends BatchItemInput where
  state : ItemLifecycleState
  estimate : Option ResourceEstimate
  actualUsage : Option ResourceEstimate
  attempts : ℕ
  nonce : Option ℤ
  batchId : Option String
  rejectionReason : Option String
  lastError : Option String
  deriving DecidableEq

/-- Both ends are nonces of the batch. -/
structure NonceRange where
  start : ℤ
  end_ : ℤ
  deriving DecidableEq

structure BatchPlan where
  batchId : String
  items : List String
  totalEstimate : ResourceEstimate
  nonceRange : NonceRange
  deriving DecidableEq

structure SubmissionOutcome where
  id : String
  success : Bool
  error : Option String
  actualUsage : Option ResourceEstimate
  deriving DecidableEq

structure ReconcileResult where
  confirmed : List String
  rescheduled : List String
  deadLettered : List String
  explanations : String → Option String

structure SorobanBatchPlannerOptions where
  budget : ResourceBudget
  maxRetries : ℕ
  adaptationStep : ℚ
  maxAdaptationFactor : ℚ
  deriving DecidableEq

/-! ## Estimates -/

def zeroEstimate : ResourceEstimate := ⟨0, 0, 0, 0⟩

def addEstimate (a b : ResourceEstimate) : ResourceEstimate where
  cpuInstructions := a.cpuInstructions + b.cpuInstructions
  memoryBytes := a.memoryBytes + b.memoryBytes
  footprintEntries := a.footprintEntries + b.footprintEntries
  feeStroops := a.feeStroops + b.feeStroops

def fitsWithin (total item : ResourceEstimate) (budget : ResourceBudget) : Bool :=
  total.cpuInstructions + item.cpuInstructions ≤ budget.maxCpuInstructions &&
  total.memoryBytes + item.memoryBytes ≤ budget.maxMemoryBytes &&
  total.footprintEntries + item.footprintEntries ≤ budget.maxFootprintEntries &&
  total.feeStroops + item.feeStroops ≤ budget.maxFeeStroops

def exceedsBudgetAlone (item : ResourceEstimate) (budget : ResourceBudget) : Bool :=
  item.cpuInstructions > budget.maxCpuInstructions ||
  item.memoryBytes > budget.maxMemoryBytes ||
  item.footprintEntries > budget.maxFootprintEntries ||
  item.feeStroops > budget.maxFeeStroops

def normalizedWeight (item : ResourceEstimate) (budget : ResourceBudget) : ℚ :=
  max (max (max (item.cpuInstructions / budget.maxCpuInstructions)
    (item.memoryBytes / budget.maxMemoryBytes))
    (item.footprintEntries / budget.maxFootprintEntries))
    (item.feeStroops / budget.maxFeeStroops)

def isMismatch (estimate actual : ResourceEstimate) : Bool :=
  actual.cpuInstructions > estimate.cpuInstructions * (105 / 100) ||
  actual.memoryBytes > estimate.memoryBytes * (105 / 100) ||
  actual.footprintEntries > estimate.footprintEntries * (105 / 100) ||
  actual.feeStroops > estimate.feeStroops * (105 / 100)

/-! ## The planner -/

/-- `ledger` is a map that lists its keys in the order in which they came. -/
structure Planner where
  nextNonce : ℤ
  keys : List String
  ledger : String → Option PlannerItem
  adaptationFactors : String → Option ℚ

/-- A planner that has just been constructed. -/
def Planner.new (nonceStart : ℤ) : Planner where
  nextNonce := nonceStart
  keys := []
  ledger _ := none
  adaptationFactors _ := none

namespace Planner

/-- `ledger.set`. -/
def register (p : Planner) (key : String) (item : PlannerItem) : Planner :=
  { p with
    keys := if (p.ledger key).isSome then p.keys else p.keys ++ [key]
    ledger := Function.update p.ledger key (some item) }

/-- An assignment to fields of the item of a key. -/
def modify (p : Planner) (key : String) (set : PlannerItem → PlannerItem) : Planner :=
  { p with ledger := Function.update p.ledger key ((p.ledger key).map set) }

/-- `item.estimate!`. -/
def estimateOf (p : Planner) (key : String) : ResourceEstimate :=
  ((p.ledger key).bind PlannerItem.estimate).getD zeroEstimate

def priorityOf (p : Planner) (key : String) : ℚ :=
  ((p.ledger key).bind fun item => item.priority).getD 0

end Planner

def adaptationKey (item : BatchItemInput) : String := item.contractId ++ ":" ++ item.functionName

def applyAdaptation (p : Planner) (item : BatchItemInput) (raw : ResourceEstimate) : ResourceEstimate :=
  let factor := (p.adaptationFactors (adaptationKey item)).getD 1
  if factor = 1 then raw
  else
    { cpuInstructions := ⌈raw.cpuInstructions * factor⌉
      memoryBytes := ⌈raw.memoryBytes * factor⌉
      footprintEntries := raw.footprintEntries
      feeStroops := ⌈raw.feeStroops * factor⌉ }

/-- `Date.now().toString(36)`. -/
def base36 (n : ℕ) : String :=
  if n = 0 then "0"
  else String.ofList ((Nat.digits 36 n).reverse.map fun d =>
    if d < 10 then Char.ofNat ('0'.toNat + d) else Char.ofNat ('a'.toNat + (d - 10)))

section

variable (c : SorobanBatchPlannerOptions)

def bumpAdaptation (p : Planner) (item : BatchItemInput) : Planner :=
  let key := adaptationKey item
  let current := (p.adaptationFactors key).getD 1
  let next := min (current * c.adaptationStep) c.maxAdaptationFactor
  { p with adaptationFactors := Function.update p.adaptationFactors key (some next) }

/-! ## Planning -/

/-- The locals of `plan`. -/
structure Scan where
  planner : Planner
  candidates : List String
  rejected : List (String × String)

/-- An input, and what its simulation answers when it is asked. -/
abbrev Simulated := BatchItemInput × Except String ResourceEstimate

/-- The key is planned, on its way or done, so `plan` skips its inputs. -/
def Planner.settled (p : Planner) (key : String) : Bool :=
  (p.ledger key).any fun existing =>
    existing.state = .confirmed || existing.state = .submitted || existing.state = .planned

/-- The item that an input is about: the one in the ledger, or else a new one. -/
def Planner.itemOf (p : Planner) (input : BatchItemInput) : PlannerItem :=
  (p.ledger input.idempotencyKey).getD
    { input with
      state := .pending, estimate := none, actualUsage := none, attempts := 0, nonce := none
      batchId := none, rejectionReason := none, lastError := none }

def reject (s : Scan) (key : String) (item : PlannerItem) (reason : String) : Scan :=
  { planner := s.planner.register key { item with state := .rejected, rejectionReason := some reason }
    candidates := s.candidates
    rejected := s.rejected ++ [(key, reason)] }

/-- One round of the loop of `plan`. -/
def consider (s : Scan) (simulated : Simulated) : Scan :=
  let (input, answer) := simulated
  let key := input.idempotencyKey
  if s.planner.settled key then s
  else
    let item := { s.planner.itemOf input with state := .estimating }
    match answer with
    | .error message => reject s key item ("simulation failed: " ++ message)
    | .ok rawEstimate =>
        let estimate := applyAdaptation s.planner input rawEstimate
        let item := { item with estimate := some estimate }
        if exceedsBudgetAlone estimate c.budget then
          reject s key item "estimated resource usage exceeds configured budget ceilings even alone"
        else
          { planner := s.planner.register key item
            candidates := s.candidates ++ [key]
            rejected := s.rejected }

def scan (p : Planner) (inputs : List Simulated) : Scan :=
  inputs.foldl (consider c) { planner := p, candidates := [], rejected := [] }

/-- A bin of `packBatches`. -/
structure PackedBin where
  items : List String
  total : ResourceEstimate

/-- The order of the sort: the larger weight first, and then the larger priority. -/
def Before (p : Planner) (a b : String) : Prop :=
  normalizedWeight (p.estimateOf b) c.budget < normalizedWeight (p.estimateOf a) c.budget ∨
  (normalizedWeight (p.estimateOf b) c.budget = normalizedWeight (p.estimateOf a) c.budget ∧
    p.priorityOf b ≤ p.priorityOf a)

instance Before.decidable (p : Planner) : DecidableRel (Before c p) := fun _ _ =>
  inferInstanceAs (Decidable (_ ∨ _))

def hasRoom (p : Planner) (bin : PackedBin) (key : String) : Bool :=
  c.budget.maxBatchSize.all (fun maxBatchSize => bin.items.length < maxBatchSize) &&
  fitsWithin bin.total (p.estimateOf key) c.budget

def push (p : Planner) (bin : PackedBin) (key : String) : PackedBin where
  items := bin.items ++ [key]
  total := addEstimate bin.total (p.estimateOf key)

def openBin (p : Planner) (key : String) : PackedBin where
  items := [key]
  total := p.estimateOf key

/-- The bins that `packBatches` fills. -/
def fillBins (p : Planner) (candidates : List String) : List PackedBin :=
  FirstFit.pack (hasRoom c p) (push p) (openBin p) (candidates.insertionSort (Before c p))

/-- The inner loop over the items of a bin, which get the nonces from `nextNonce` on. -/
def assign (batchId : String) (p : Planner) (key : String) : Planner :=
  { p.modify key fun item => { item with state := .planned, batchId := some batchId, nonce := some p.nextNonce }
    with nextNonce := p.nextNonce + 1 }

/-- The batch that becomes of a bin, at a time. -/
def closeBin (now : ℕ) (p : Planner) (bin : PackedBin) : Planner × BatchPlan :=
  let batchId := "batch-" ++ toString p.nextNonce ++ "-" ++ base36 now
  let assigned := bin.items.foldl (assign batchId) p
  (assigned,
    { batchId, items := bin.items, totalEstimate := bin.total
      nonceRange := { start := p.nextNonce, end_ := assigned.nextNonce - 1 } })

/-- The `map` of `packBatches`, whose clock is read for each bin. -/
def closeBins (now : ℕ → ℕ) : ℕ → Planner → List PackedBin → Planner × List BatchPlan
  | _, p, [] => (p, [])
  | i, p, bin :: bins =>
      let (p, batch) := closeBin (now i) p bin
      let (p, batches) := closeBins now (i + 1) p bins
      (p, batch :: batches)

structure PlanResult where
  batches : List BatchPlan
  rejected : List (String × String)

def plan (now : ℕ → ℕ) (p : Planner) (inputs : List Simulated) : Planner × PlanResult :=
  let s := scan c p inputs
  let (planner, batches) := closeBins now 0 s.planner (fillBins c s.planner s.candidates)
  (planner, { batches, rejected := s.rejected })

/-! ## Submitting and reconciling -/

def markSubmitted (p : Planner) (batch : BatchPlan) : Planner :=
  batch.items.foldl (fun p key => p.modify key fun item =>
    if item.state ≠ .planned then item else { item with state := .submitted }) p

/-- `outcomeById.get`, where the last outcome of an id counts. -/
def outcomeById (outcomes : List SubmissionOutcome) (id : String) : Option SubmissionOutcome :=
  outcomes.reverse.find? fun outcome => outcome.id = id

/-- What an outcome makes of a submitted item. -/
def PlannerItem.withOutcome (item : PlannerItem) (outcome : SubmissionOutcome) : PlannerItem :=
  if outcome.success then { item with state := .confirmed, actualUsage := outcome.actualUsage }
  else
    let attempts := item.attempts + 1
    let failed := { item with attempts, lastError := outcome.error }
    if attempts ≥ c.maxRetries then
      { failed with
        state := .dead_letter
        rejectionReason := some ("exceeded " ++ toString c.maxRetries ++ " retries; last error: " ++
          outcome.error.getD "unknown") }
    else { failed with state := .retry_scheduled, batchId := none, nonce := none }

/-- Whether an outcome widens the margin for the function of its item. -/
def widens (item : PlannerItem) (outcome : SubmissionOutcome) : Bool :=
  !outcome.success || outcome.actualUsage.any fun actual => item.estimate.any fun estimate =>
    isMismatch estimate actual

def ReconcileResult.record (result : ReconcileResult) (key : String) (item : PlannerItem)
    (outcome : SubmissionOutcome) : ReconcileResult :=
  let error := outcome.error.getD "unknown"
  let attempts := item.attempts + 1
  if outcome.success then { result with confirmed := result.confirmed ++ [key] }
  else if attempts ≥ c.maxRetries then
    { result with
      deadLettered := result.deadLettered ++ [key]
      explanations := Function.update result.explanations item.id
        (some ("exceeded " ++ toString c.maxRetries ++ " retries; last error: " ++ error)) }
  else
    { result with
      rescheduled := result.rescheduled ++ [key]
      explanations := Function.update result.explanations item.id
        (some ("attempt " ++ toString attempts ++ "/" ++ toString c.maxRetries ++ " failed: " ++ error ++
          "; rescheduled")) }

/-- One round of the loop of `reconcile`. -/
def settle (outcomes : List SubmissionOutcome) (s : Planner × ReconcileResult) (key : String) :
    Planner × ReconcileResult :=
  match s.1.ledger key with
  | none => s
  | some item =>
      if item.state ≠ .submitted then s
      else
        match outcomeById outcomes item.id with
        | none => s
        | some outcome =>
            let p := s.1.modify key fun item => item.withOutcome c outcome
            (if widens item outcome then bumpAdaptation c p item.toBatchItemInput else p,
              s.2.record c key item outcome)

def reconcile (p : Planner) (batch : BatchPlan) (outcomes : List SubmissionOutcome) :
    Planner × ReconcileResult :=
  batch.items.foldl (settle c outcomes)
    (p, { confirmed := [], rescheduled := [], deadLettered := [], explanations := fun _ => none })

def itemsPendingRetry (p : Planner) : List BatchItemInput :=
  p.keys.filterMap fun key => (p.ledger key).bind fun item =>
    if item.state = .retry_scheduled then some item.toBatchItemInput else none

/-! ## Runs -/

/-- The planner, with the batches that it has returned. -/
structure World where
  planner : Planner
  batches : List BatchPlan

/-- A call, which names a batch by its place among all that have been returned. -/
inductive Op where
  | plan (now : ℕ → ℕ) (inputs : List Simulated)
  | markSubmitted (batch : ℕ)
  | reconcile (batch : ℕ) (outcomes : List SubmissionOutcome)

def step (w : World) : Op → World
  | .plan now inputs =>
      let (planner, result) := plan c now w.planner inputs
      { planner, batches := w.batches ++ result.batches }
  | .markSubmitted i =>
      { w with planner := w.batches[i]?.elim w.planner (markSubmitted w.planner) }
  | .reconcile i outcomes =>
      { w with planner := w.batches[i]?.elim w.planner fun batch => (reconcile c w.planner batch outcomes).1 }

def World.initial (nonceStart : ℤ) : World := { planner := .new nonceStart, batches := [] }

/-- The world after a sequence of calls. -/
def World.after (c : SorobanBatchPlannerOptions) (nonceStart : ℤ) (ops : List Op) : World :=
  Runs.run (step c) (.initial nonceStart) ops

end

/-- The estimate that an input leaves with its item. -/
def estimated (p : Planner) (simulated : Simulated) : Option ResourceEstimate :=
  if p.settled simulated.1.idempotencyKey then none
  else
    match simulated.2 with
    | .error _ => none
    | .ok rawEstimate => some (applyAdaptation p simulated.1 rawEstimate)

/-- The input becomes a candidate. -/
def accepted (c : SorobanBatchPlannerOptions) (p : Planner) (simulated : Simulated) : Bool :=
  (estimated p simulated).any fun estimate => !exceedsBudgetAlone estimate c.budget

/-- What the loop of `plan` registers for an input, the state and the reason of a rejection apart. -/
def considered (p : Planner) (simulated : Simulated) : PlannerItem :=
  { p.itemOf simulated.1 with
    state := .estimating
    estimate := (estimated p simulated).or (p.itemOf simulated.1).estimate }

/-- **One round of the loop of `plan`.** -/
theorem consider_cases (c : SorobanBatchPlannerOptions) (s : Scan) (simulated : Simulated) :
    (s.planner.settled simulated.1.idempotencyKey = true ∧ consider c s simulated = s) ∨
    (s.planner.settled simulated.1.idempotencyKey = false ∧ accepted c s.planner simulated = true ∧
      consider c s simulated =
        { planner := s.planner.register simulated.1.idempotencyKey (considered s.planner simulated)
          candidates := s.candidates ++ [simulated.1.idempotencyKey]
          rejected := s.rejected }) ∨
    (s.planner.settled simulated.1.idempotencyKey = false ∧ accepted c s.planner simulated = false ∧
      ∃ reason, consider c s simulated =
        reject s simulated.1.idempotencyKey (considered s.planner simulated) reason) := by
  obtain ⟨input, answer⟩ := simulated
  by_cases hsettled : s.planner.settled input.idempotencyKey = true
  · refine .inl ⟨hsettled, ?_⟩
    rw [consider]
    dsimp only
    rw [if_pos hsettled]
  · refine .inr ?_
    have hfresh : s.planner.settled input.idempotencyKey = false := by simpa using hsettled
    rw [consider, considered, accepted, estimated]
    dsimp only
    rw [if_neg hsettled, if_neg hsettled]
    cases answer with
    | error => exact .inr ⟨hfresh, rfl, _, rfl⟩
    | ok rawEstimate =>
        dsimp only
        rw [Option.any_some]
        by_cases hexceeds : exceedsBudgetAlone (applyAdaptation s.planner input rawEstimate) c.budget = true
        · rw [if_pos hexceeds, hexceeds]
          exact .inr ⟨hfresh, rfl, _, rfl⟩
        · rw [if_neg hexceeds]
          rw [Bool.not_eq_true] at hexceeds
          rw [hexceeds]
          exact .inl ⟨hfresh, rfl, rfl⟩

/-! ## Assignments -/

section Assignments

variable {c : SorobanBatchPlannerOptions} {p : Planner} {key k : String} {keys : List String}
  {item : PlannerItem} {set : PlannerItem → PlannerItem} {batchId : String} {now : ℕ → ℕ}
  {bins : List PackedBin}

@[simp] theorem Planner.register_ledger_self : (p.register key item).ledger key = some item :=
  Function.update_self ..

theorem Planner.register_ledger_of_ne (h : k ≠ key) : (p.register key item).ledger k = p.ledger k :=
  Function.update_of_ne h ..

@[simp] theorem Planner.modify_ledger_self : (p.modify key set).ledger key = (p.ledger key).map set :=
  Function.update_self ..

theorem Planner.modify_ledger_of_ne (h : k ≠ key) : (p.modify key set).ledger k = p.ledger k :=
  Function.update_of_ne h ..

/-- What planning writes into an item. -/
def PlannerItem.planned (batchId : String) (nonce : ℤ) (item : PlannerItem) : PlannerItem :=
  { item with state := .planned, batchId := some batchId, nonce := some nonce }

@[simp] theorem assign_ledger_self : (assign batchId p key).ledger key =
    (p.ledger key).map (PlannerItem.planned batchId p.nextNonce) := Planner.modify_ledger_self

theorem assign_ledger_of_ne (h : k ≠ key) : (assign batchId p key).ledger k = p.ledger k :=
  Planner.modify_ledger_of_ne h

@[simp] theorem nextNonce_assign : (assign batchId p key).nextNonce = p.nextNonce + 1 := rfl

@[simp] theorem adaptationFactors_assign :
    (assign batchId p key).adaptationFactors = p.adaptationFactors := rfl

theorem planned_planned {first second : String} {m n : ℤ} :
    PlannerItem.planned second n ∘ PlannerItem.planned first m = PlannerItem.planned second n := rfl

/-- What the assignments to the items of one batch do. -/
structure Assigned (p : Planner) (batchId : String) (keys : List String) (p' : Planner) : Prop where
  nextNonce : p'.nextNonce = p.nextNonce + keys.length
  others : ∀ k ∉ keys, p'.ledger k = p.ledger k
  planned : ∀ k ∈ keys, ∃ nonce, p'.ledger k = (p.ledger k).map (PlannerItem.planned batchId nonce) ∧
    p.nextNonce ≤ nonce ∧ nonce < p.nextNonce + keys.length
  adaptationFactors : p'.adaptationFactors = p.adaptationFactors

theorem assigned_foldl : Assigned p batchId keys (keys.foldl (assign batchId) p) := by
  induction keys using List.reverseRecOn with
  | nil => exact ⟨(Int.add_zero _).symm, fun _ _ => rfl, fun _ h => absurd h List.not_mem_nil, rfl⟩
  | append_singleton keys key ih =>
      rw [List.foldl_concat]
      refine ⟨?_, ?_, ?_, ?_⟩
      · rw [nextNonce_assign, ih.nextNonce, List.length_append, List.length_singleton]
        omega
      · intro k hk
        rw [List.mem_append, List.mem_singleton, not_or] at hk
        rw [assign_ledger_of_ne hk.2, ih.others k hk.1]
      · intro k hk
        rw [List.length_append, List.length_singleton]
        by_cases hlast : k = key
        · subst hlast
          refine ⟨p.nextNonce + keys.length, ?_, by omega, by omega⟩
          rw [assign_ledger_self, ih.nextNonce]
          by_cases hbefore : k ∈ keys
          · obtain ⟨nonce, hledger, -⟩ := ih.planned k hbefore
            rw [hledger, Option.map_map, planned_planned]
          · rw [ih.others k hbefore]
        · obtain ⟨nonce, hledger, hfrom, hto⟩ := ih.planned k (by simpa [hlast] using hk)
          refine ⟨nonce, ?_, hfrom, by omega⟩
          rw [assign_ledger_of_ne hlast, hledger]
      · rw [adaptationFactors_assign, ih.adaptationFactors]

/-- The batch is the last one with the key. -/
def LastWith (batches : List BatchPlan) (key : String) (batch : BatchPlan) : Prop :=
  ∃ before after, batches = before ++ batch :: after ∧ key ∈ batch.items ∧
    ∀ later ∈ after, key ∉ later.items

theorem LastWith.append {batches : List BatchPlan} {batch : BatchPlan} (h : LastWith batches k batch)
    (earlier : List BatchPlan) : LastWith (earlier ++ batches) k batch := by
  obtain ⟨before, after, rfl, hmem, hlast⟩ := h
  exact ⟨earlier ++ before, after, (List.append_assoc ..).symm, hmem, hlast⟩

/-- What closing the bins does. -/
structure Closed (p : Planner) (bins : List PackedBin) (p' : Planner) (batches : List BatchPlan) : Prop where
  items : batches.map BatchPlan.items = bins.map PackedBin.items
  totals : batches.map BatchPlan.totalEstimate = bins.map PackedBin.total
  others : ∀ k ∉ bins.flatMap PackedBin.items, p'.ledger k = p.ledger k
  planned : ∀ k ∈ bins.flatMap PackedBin.items, ∃ batch nonce, LastWith batches k batch ∧
    p'.ledger k = (p.ledger k).map (PlannerItem.planned batch.batchId nonce)
  nextNonce : p'.nextNonce = p.nextNonce + (bins.flatMap PackedBin.items).length
  adaptationFactors : p'.adaptationFactors = p.adaptationFactors

theorem closed_closeBins {i : ℕ} :
    Closed p bins (closeBins now i p bins).1 (closeBins now i p bins).2 := by
  induction bins generalizing i p with
  | nil =>
      exact ⟨rfl, rfl, fun _ _ => rfl, fun _ h => absurd h List.not_mem_nil, (Int.add_zero _).symm, rfl⟩
  | cons bin bins ih =>
      have hbin : Assigned p _ bin.items (closeBin (now i) p bin).1 := assigned_foldl
      have hbins := ih (i := i + 1) (p := (closeBin (now i) p bin).1)
      rw [closeBins]
      dsimp only
      refine ⟨?_, ?_, ?_, ?_, ?_, ?_⟩
      · rw [List.map_cons, List.map_cons, hbins.items, closeBin]
      · rw [List.map_cons, List.map_cons, hbins.totals, closeBin]
      · intro k hk
        rw [List.flatMap_cons, List.mem_append, not_or] at hk
        rw [hbins.others k hk.2, hbin.others k hk.1]
      · intro k hk
        by_cases hlater : k ∈ bins.flatMap PackedBin.items
        · obtain ⟨batch, nonce, hlast, hledger⟩ := hbins.planned k hlater
          refine ⟨batch, nonce, hlast.append [_], ?_⟩
          rw [hledger]
          by_cases hfirst : k ∈ bin.items
          · obtain ⟨nonce', hledger', -⟩ := hbin.planned k hfirst
            rw [hledger', Option.map_map, planned_planned]
          · rw [hbin.others k hfirst]
        · rw [List.flatMap_cons, List.mem_append] at hk
          have hfirst := hk.resolve_right hlater
          obtain ⟨nonce, hledger, -⟩ := hbin.planned k hfirst
          refine ⟨(closeBin (now i) p bin).2, nonce, ⟨[], _, rfl, hfirst, ?_⟩, ?_⟩
          · intro later hmem hin
            refine hlater (List.mem_flatMap.mpr ?_)
            have hitems : later.items ∈ bins.map PackedBin.items := by
              rw [← hbins.items]
              exact List.mem_map_of_mem hmem
            obtain ⟨other, hother, heq⟩ := List.mem_map.mp hitems
            exact ⟨other, hother, heq ▸ hin⟩
          · rw [hbins.others k hlater, hledger]
            rfl
      · rw [hbins.nextNonce, hbin.nextNonce, List.flatMap_cons, List.length_append]
        omega
      · rw [hbins.adaptationFactors, hbin.adaptationFactors]

end Assignments

/-! ## Calls -/

section Calls

variable {c : SorobanBatchPlannerOptions} {p : Planner} {batch : BatchPlan} {now : ℕ → ℕ}
  {inputs : List Simulated} {outcomes : List SubmissionOutcome} {keys : List String} {p' : Planner}
  {bins : List PackedBin} {batches : List BatchPlan}

theorem plan_eq : plan c now p inputs =
    ((closeBins now 0 (scan c p inputs).planner
        (fillBins c (scan c p inputs).planner (scan c p inputs).candidates)).1,
      { batches := (closeBins now 0 (scan c p inputs).planner
          (fillBins c (scan c p inputs).planner (scan c p inputs).candidates)).2
        rejected := (scan c p inputs).rejected }) := rfl

/-- The bins of a call are closed into its batches. -/
theorem closed_plan : Closed (scan c p inputs).planner
    (fillBins c (scan c p inputs).planner (scan c p inputs).candidates) (plan c now p inputs).1
    (plan c now p inputs).2.batches := by
  rw [plan_eq]
  exact closed_closeBins

/-- Every candidate is in a bin, as often as it is a candidate. -/
theorem fillBins_perm : ((fillBins c p keys).flatMap PackedBin.items).Perm keys :=
  (FirstFit.pack_perm PackedBin.items (fun _ _ => rfl) fun _ => rfl).trans
    (List.perm_insertionSort _ _)

theorem Closed.flatMap_items (h : Closed p bins p' batches) :
    batches.flatMap BatchPlan.items = bins.flatMap PackedBin.items := by
  rw [List.flatMap_def, h.items, List.flatMap_def]

/-- The batches hold the candidates, each as often as it is one. -/
theorem items_plan_perm :
    ((plan c now p inputs).2.batches.flatMap BatchPlan.items).Perm (scan c p inputs).candidates := by
  rw [closed_plan.flatMap_items]
  exact fillBins_perm

/-- What no round of `reconcile` takes away. -/
theorem reconcile_induction {P : Planner → Prop} (hp : P p)
    (hsettle : ∀ (s : Planner × ReconcileResult) (key : String), P s.1 → P (settle c outcomes s key).1) :
    P (reconcile c p batch outcomes).1 := by
  have hrounds (keys : List String) (s : Planner × ReconcileResult) (hs : P s.1) :
      P (keys.foldl (settle c outcomes) s).1 := by
    induction keys generalizing s with
    | nil => exact hs
    | cons key _ ih =>
        rw [List.foldl_cons]
        exact ih _ (hsettle s key hs)
  exact hrounds batch.items _ hp

theorem settle_cases (c : SorobanBatchPlannerOptions) (outcomes : List SubmissionOutcome)
    (s : Planner × ReconcileResult) (key : String) : settle c outcomes s key = s ∨
    ∃ item outcome, s.1.ledger key = some item ∧ item.state = .submitted ∧
      outcomeById outcomes item.id = some outcome ∧
      (settle c outcomes s key).1 =
        (if widens item outcome then
          bumpAdaptation c (s.1.modify key fun item => item.withOutcome c outcome) item.toBatchItemInput
        else s.1.modify key fun item => item.withOutcome c outcome) := by
  rw [settle]
  cases hitem : s.1.ledger key with
  | none => exact .inl rfl
  | some item =>
      dsimp only
      by_cases hstate : item.state ≠ .submitted
      · rw [if_pos hstate]
        exact .inl rfl
      · rw [if_neg hstate]
        cases houtcome : outcomeById outcomes item.id with
        | none => exact .inl rfl
        | some outcome => exact .inr ⟨item, outcome, rfl, not_not.mp hstate, houtcome, rfl⟩

end Calls

end BridgeWatch.SorobanBatchPlanner

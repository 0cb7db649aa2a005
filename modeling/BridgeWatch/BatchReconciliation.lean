/-
What reconciling a batch does to the items over a whole run.

An item goes from one batch to the next as it is planned again after a failure, and a batch may be
reconciled late, and more than once. The code only asks whether an item is submitted, not whether with
this batch, so an outcome of an earlier batch counts against the current submission. Where outcomes only
come for the last batch of their item, every batch touches its own items only.
-/
import BridgeWatch.BatchPlanner

set_option autoImplicit false

namespace BridgeWatch.SorobanBatchPlanner

/-- A batch that has been returned after the `i`-th one has the key. -/
def Later (w : World) (i : ℕ) (key : String) : Prop := ∃ batch ∈ w.batches.drop (i + 1), key ∈ batch.items

/-- **The condition on a call.** No item that has been given up is planned again; and an item that
has an outcome in a batch that is reconciled has been submitted with it where the item is planned
with no later batch, and is not on its way with a later one. -/
def InTurn (w : World) : Op → Prop
  | .plan _ inputs => ∀ simulated ∈ inputs, ∀ item ∈ w.planner.ledger simulated.1.idempotencyKey,
      item.state ≠ .dead_letter
  | .markSubmitted _ => True
  | .reconcile i outcomes => ∀ batch ∈ w.batches[i]?, ∀ key ∈ batch.items,
      ∀ item ∈ w.planner.ledger key, (outcomeById outcomes item.id).isSome = true →
        (item.state = .submitted → ¬Later w i key) ∧ (item.state = .planned → Later w i key)

/-- **Reconciling only touches its own batch.** -/
structure ReconcilesOwn (c : SorobanBatchPlannerOptions) (nonceStart : ℤ) (ops : List Op) : Prop where
  own : ∀ before i outcomes after, ops = before ++ .reconcile i outcomes :: after →
    ∀ batch, (World.after c nonceStart before).batches[i]? = some batch →
      ∀ key, (World.after c nonceStart (before ++ [.reconcile i outcomes])).planner.ledger key ≠
          (World.after c nonceStart before).planner.ledger key →
        ∃ item, (World.after c nonceStart before).planner.ledger key = some item ∧
          item.batchId = some batch.batchId
  repeated : ∀ before i outcomes between after,
    ops = before ++ .reconcile i outcomes :: (between ++ .reconcile i outcomes :: after) →
      (∃ batch, (World.after c nonceStart before).batches[i]? = some batch) →
        (World.after c nonceStart
          (before ++ .reconcile i outcomes :: (between ++ [.reconcile i outcomes]))).planner =
            (World.after c nonceStart (before ++ .reconcile i outcomes :: between)).planner
  confirmed : ∀ before after, ops = before ++ after →
    ∀ key item, (World.after c nonceStart before).planner.ledger key = some item → item.state = .confirmed →
      (World.after c nonceStart ops).planner.ledger key = some item
  attempts : ∀ before after, ops = before ++ after →
    ∀ key item, (World.after c nonceStart before).planner.ledger key = some item →
      item.attempts ≤ c.maxRetries

/-! ## Submitting and reconciling, item by item -/

section Items

variable {c : SorobanBatchPlannerOptions} {p : Planner} {batch : BatchPlan} {item : PlannerItem}
  {key k : String} {keys : List String} {outcomes : List SubmissionOutcome} {outcome : SubmissionOutcome}
  {set : PlannerItem → PlannerItem} {s : Planner × ReconcileResult}

/-- What `markSubmitted` makes of an item of its batch. -/
def PlannerItem.marked (item : PlannerItem) : PlannerItem :=
  if item.state ≠ .planned then item else { item with state := .submitted }

/-- What `reconcile` makes of an item of its batch. -/
def PlannerItem.reconciled (c : SorobanBatchPlannerOptions) (outcomes : List SubmissionOutcome)
    (item : PlannerItem) : PlannerItem :=
  if item.state ≠ .submitted then item
  else (outcomeById outcomes item.id).elim item (item.withOutcome c)

theorem modify_foldl_ledger {α : Type} (ledger : α → String → Option PlannerItem) {round : α → String → α}
    (hself : ∀ a key, ledger (round a key) key = (ledger a key).map set)
    (hothers : ∀ a key k, k ≠ key → ledger (round a key) k = ledger a k)
    (hset : ∀ item, set (set item) = set item) {a : α} :
    ledger (keys.foldl round a) k = if k ∈ keys then (ledger a k).map set else ledger a k := by
  induction keys using List.reverseRecOn with
  | nil => rw [List.foldl_nil, if_neg List.not_mem_nil]
  | append_singleton keys key ih =>
      rw [List.foldl_concat]
      by_cases hk : k = key
      · rw [if_pos (List.mem_append_right _ (List.mem_singleton.mpr hk)), hk, hself, ← hk, ih]
        by_cases hmem : k ∈ keys
        · rw [if_pos hmem, Option.map_map]
          congr 1
          exact funext hset
        · rw [if_neg hmem]
      · rw [hothers _ _ _ hk, ih]
        simp only [List.mem_append, List.mem_singleton, hk, or_false]

theorem marked_marked : item.marked.marked = item.marked := by
  rw [PlannerItem.marked, PlannerItem.marked]
  by_cases h : item.state ≠ .planned
  · rw [if_pos h, if_pos h]
  · rw [if_neg h, if_pos nofun]

theorem markSubmitted_ledger : (markSubmitted p batch).ledger k =
    if k ∈ batch.items then (p.ledger k).map PlannerItem.marked else p.ledger k :=
  modify_foldl_ledger Planner.ledger (fun _ _ => Planner.modify_ledger_self)
    (fun _ _ _ h => Planner.modify_ledger_of_ne h) fun _ => marked_marked

variable (c item outcome) in
/-- Where an outcome leaves its item. -/
theorem state_withOutcome : (item.withOutcome c outcome).state = .confirmed ∨
    (item.withOutcome c outcome).state = .dead_letter ∨
      (item.withOutcome c outcome).state = .retry_scheduled := by
  rw [PlannerItem.withOutcome]
  by_cases hsuccess : outcome.success = true
  · rw [if_pos hsuccess]
    exact .inl rfl
  · rw [if_neg hsuccess]
    dsimp only
    split
    · exact .inr (.inl rfl)
    · exact .inr (.inr rfl)

theorem id_withOutcome : (item.withOutcome c outcome).id = item.id := by
  rw [PlannerItem.withOutcome]
  split
  · rfl
  · dsimp only
    split
    · rfl
    · rfl

theorem reconciled_of_not_submitted (h : item.state ≠ .submitted) : item.reconciled c outcomes = item :=
  if_pos h

theorem reconciled_eq_withOutcome (h : item.state = .submitted)
    (houtcome : outcomeById outcomes item.id = some outcome) :
    item.reconciled c outcomes = item.withOutcome c outcome := by
  rw [PlannerItem.reconciled, if_neg (not_not.mpr h), houtcome, Option.elim_some]

theorem reconciled_of_no_outcome (h : outcomeById outcomes item.id = none) :
    item.reconciled c outcomes = item := by
  rw [PlannerItem.reconciled, h, Option.elim_none, ite_self]

theorem reconciled_reconciled :
    (item.reconciled c outcomes).reconciled c outcomes = item.reconciled c outcomes := by
  by_cases h : item.state = .submitted
  · cases houtcome : outcomeById outcomes item.id with
    | none => rw [reconciled_of_no_outcome houtcome, reconciled_of_no_outcome houtcome]
    | some outcome =>
        rw [reconciled_eq_withOutcome h houtcome]
        apply reconciled_of_not_submitted
        rcases state_withOutcome c item outcome with hstate | hstate | hstate
        · rw [hstate]
          decide
        · rw [hstate]
          decide
        · rw [hstate]
          decide
  · rw [reconciled_of_not_submitted h, reconciled_of_not_submitted h]

theorem settle_ledger_self :
    (settle c outcomes s key).1.ledger key = (s.1.ledger key).map (PlannerItem.reconciled c outcomes) := by
  cases hitem : s.1.ledger key with
  | none =>
      rw [settle, hitem]
      exact hitem
  | some item =>
      rw [Option.map_some]
      by_cases hstate : item.state = .submitted
      · cases houtcome : outcomeById outcomes item.id with
        | none =>
            rw [settle, hitem, reconciled_of_no_outcome houtcome]
            dsimp only
            rw [if_neg (not_not.mpr hstate), houtcome]
            exact hitem
        | some outcome =>
            rw [settle, hitem, reconciled_eq_withOutcome hstate houtcome]
            dsimp only
            rw [if_neg (not_not.mpr hstate), houtcome]
            dsimp only
            have hmodified : (s.1.modify key fun item => item.withOutcome c outcome).ledger key =
                some (item.withOutcome c outcome) := by
              rw [Planner.modify_ledger_self, hitem, Option.map_some]
            split
            · exact hmodified
            · exact hmodified
      · rw [settle, hitem, reconciled_of_not_submitted hstate]
        dsimp only
        rw [if_pos hstate]
        exact hitem

theorem settle_ledger_of_ne (h : k ≠ key) : (settle c outcomes s key).1.ledger k = s.1.ledger k := by
  rcases settle_cases c outcomes s key with heq | ⟨item, outcome, -, -, -, heq⟩
  · rw [heq]
  · rw [heq]
    split
    · exact Planner.modify_ledger_of_ne h
    · exact Planner.modify_ledger_of_ne h

theorem reconcile_ledger : (reconcile c p batch outcomes).1.ledger k =
    if k ∈ batch.items then (p.ledger k).map (PlannerItem.reconciled c outcomes) else p.ledger k :=
  modify_foldl_ledger (fun s : Planner × ReconcileResult => s.1.ledger)
    (fun _ _ => settle_ledger_self) (fun _ _ _ h => settle_ledger_of_ne h) fun _ => reconciled_reconciled

/-- Reconciling changes nothing where no submitted item has an outcome. -/
theorem reconcile_eq_self (h : ∀ key ∈ batch.items, ∀ item, p.ledger key = some item →
    item.state = .submitted → outcomeById outcomes item.id = none) :
    (reconcile c p batch outcomes).1 = p := by
  have hrounds (keys : List String) (hkeys : ∀ key ∈ keys, key ∈ batch.items) (s : Planner × ReconcileResult)
      (hs : s.1 = p) : (keys.foldl (settle c outcomes) s).1 = p := by
    induction keys generalizing s with
    | nil => exact hs
    | cons key _ ih =>
        obtain ⟨hkey, hkeys⟩ := List.forall_mem_cons.mp hkeys
        rw [List.foldl_cons]
        refine ih hkeys _ ?_
        rcases settle_cases c outcomes s key with heq | ⟨item, outcome, hitem, hstate, houtcome, -⟩
        · rw [heq, hs]
        · rw [hs] at hitem
          rw [h key hkey item hitem hstate] at houtcome
          cases houtcome
  exact hrounds batch.items (fun _ h => h) _ rfl

end Items

/-! ## Planning, item by item -/

section Planning

variable {c : SorobanBatchPlannerOptions} {p : Planner} {key : String} {now : ℕ → ℕ}
  {inputs : List Simulated} {item item' : PlannerItem} {s : Scan}

/-- What planning keeps of an item that it considers; a new item starts without attempts. -/
def Carries (old : Option PlannerItem) (item : PlannerItem) : Prop :=
  item.attempts = old.elim 0 PlannerItem.attempts ∧ ∀ before ∈ old, item.id = before.id

/-- The key is in the inputs, and is not settled. -/
def Considered (p : Planner) (inputs : List Simulated) (key : String) : Prop :=
  p.settled key = false ∧ ∃ simulated ∈ inputs, simulated.1.idempotencyKey = key

/-- What the loop over the inputs leaves of a key that it considers. -/
def Handled (p : Planner) (key : String) (s : Scan) : Prop :=
  ∃ item, s.planner.ledger key = some item ∧ (item.state = .estimating ∨ item.state = .rejected) ∧
    Carries (p.ledger key) item

theorem settled_of_state (h : item.state = .estimating ∨ item.state = .rejected)
    (hitem : p.ledger key = some item) : p.settled key = false := by
  rw [Planner.settled, hitem, Option.any_some]
  rcases h with h | h
  · rw [h]
    rfl
  · rw [h]
    rfl

theorem carries_itemOf {input : BatchItemInput} :
    Carries (p.ledger input.idempotencyKey) (p.itemOf input) := by
  rw [Planner.itemOf]
  cases p.ledger input.idempotencyKey with
  | none => exact ⟨rfl, fun _ h => absurd h (Option.not_mem_none _)⟩
  | some =>
      refine ⟨rfl, fun before hbefore => ?_⟩
      rw [Option.mem_def, Option.some.injEq] at hbefore
      rw [← hbefore, Option.getD_some]

theorem Carries.trans {old : Option PlannerItem} (h : Carries old item) (h' : Carries (some item) item') :
    Carries old item' :=
  ⟨h'.1.trans h.1, fun before hbefore => (h'.2 item rfl).trans (h.2 before hbefore)⟩

/-- **The loop over the inputs.** It leaves what it does not consider, and the candidates are among
what it considers. -/
theorem scan_spec (c : SorobanBatchPlannerOptions) (p : Planner) (inputs : List Simulated) (key : String) :
    (Considered p inputs key → Handled p key (scan c p inputs)) ∧
    (¬Considered p inputs key → (scan c p inputs).planner.ledger key = p.ledger key) ∧
    (key ∈ (scan c p inputs).candidates → Considered p inputs key) := by
  induction inputs using List.reverseRecOn with
  | nil =>
      refine ⟨?_, fun _ => rfl, fun h => absurd h List.not_mem_nil⟩
      rintro ⟨-, simulated, hmem, -⟩
      exact absurd hmem List.not_mem_nil
  | append_singleton inputs simulated ih =>
      obtain ⟨hhandled, hothers, hcandidates⟩ := ih
      have hmono : Considered p inputs key → Considered p (inputs ++ [simulated]) key := by
        rintro ⟨hfresh, other, hmem, hkey⟩
        exact ⟨hfresh, other, List.mem_append_left _ hmem, hkey⟩
      have hsettled : (scan c p inputs).planner.settled key = p.settled key := by
        by_cases hconsidered : Considered p inputs key
        · obtain ⟨item, hitem, hstate, -⟩ := hhandled hconsidered
          rw [settled_of_state hstate hitem, hconsidered.1]
        · rw [Planner.settled, hothers hconsidered, Planner.settled]
      have hconcat : scan c p (inputs ++ [simulated]) = consider c (scan c p inputs) simulated :=
        List.foldl_concat ..
      rw [hconcat]
      by_cases hkey : simulated.1.idempotencyKey = key
      · subst hkey
        -- The item that the round registers goes on from what the rounds before have left.
        have hcarries : Carries (p.ledger simulated.1.idempotencyKey)
            (considered (scan c p inputs).planner simulated) := by
          have hround : Carries ((scan c p inputs).planner.ledger simulated.1.idempotencyKey)
              (considered (scan c p inputs).planner simulated) := carries_itemOf
          by_cases hconsidered : Considered p inputs simulated.1.idempotencyKey
          · obtain ⟨item, hitem, -, hitem_carries⟩ := hhandled hconsidered
            rw [hitem] at hround
            exact hitem_carries.trans hround
          · rw [hothers hconsidered] at hround
            exact hround
        have hnow (hfresh : (scan c p inputs).planner.settled simulated.1.idempotencyKey = false) :
            Considered p (inputs ++ [simulated]) simulated.1.idempotencyKey :=
          ⟨hsettled ▸ hfresh, simulated, List.mem_append_right _ (List.mem_singleton_self _), rfl⟩
        rcases consider_cases c (scan c p inputs) simulated with ⟨hskip, heq⟩ | ⟨hfresh, -, heq⟩ |
          ⟨hfresh, -, reason, heq⟩
        · rw [hsettled] at hskip
          have hnot (inputs : List Simulated) : ¬Considered p inputs simulated.1.idempotencyKey := by
            rintro ⟨hfresh, -⟩
            rw [hskip] at hfresh
            cases hfresh
          rw [heq]
          exact ⟨fun h => absurd h (hnot _), fun _ => hothers (hnot _),
            fun h => absurd (hcandidates h) (hnot _)⟩
        · rw [heq]
          exact ⟨fun _ => ⟨_, Planner.register_ledger_self, .inl rfl, hcarries⟩,
            fun h => absurd (hnow hfresh) h, fun _ => hnow hfresh⟩
        · rw [heq]
          exact ⟨fun _ => ⟨_, Planner.register_ledger_self, .inr rfl, hcarries⟩,
            fun h => absurd (hnow hfresh) h, fun _ => hnow hfresh⟩
      · have hsame : Considered p (inputs ++ [simulated]) key → Considered p inputs key := by
          rintro ⟨hfresh, other, hmem, hother⟩
          rw [List.mem_append, List.mem_singleton] at hmem
          refine ⟨hfresh, other, hmem.resolve_right ?_, hother⟩
          rintro rfl
          exact hkey hother
        have hledger : (consider c (scan c p inputs) simulated).planner.ledger key =
            (scan c p inputs).planner.ledger key := by
          rcases consider_cases c (scan c p inputs) simulated with ⟨-, heq⟩ | ⟨-, -, heq⟩ |
            ⟨-, -, reason, heq⟩
          · rw [heq]
          · rw [heq]
            exact Planner.register_ledger_of_ne (Ne.symm hkey)
          · rw [heq]
            exact Planner.register_ledger_of_ne (Ne.symm hkey)
        refine ⟨fun h => ?_, fun h => ?_, fun h => hmono (hcandidates ?_)⟩
        · obtain ⟨item, hitem, hrest⟩ := hhandled (hsame h)
          exact ⟨item, hledger.trans hitem, hrest⟩
        · rw [hledger]
          exact hothers fun hconsidered => h (hmono hconsidered)
        · rcases consider_cases c (scan c p inputs) simulated with ⟨-, heq⟩ | ⟨-, -, heq⟩ |
            ⟨-, -, reason, heq⟩
          · rw [heq] at h
            exact h
          · rw [heq] at h
            dsimp only at h
            rw [List.mem_append, List.mem_singleton] at h
            exact h.resolve_right (Ne.symm hkey)
          · rw [heq] at h
            exact h

end Planning

/-! ## One call -/

section Step

variable {c : SorobanBatchPlannerOptions} {w : World} {op : Op} {key : String} {i : ℕ}
  {item : PlannerItem} {batch : BatchPlan} {batches : List BatchPlan} {old new : Option PlannerItem}

/-- What a call may make of the item of a key. -/
inductive Change (c : SorobanBatchPlannerOptions) (w : World) (key : String) :
    Op → Option PlannerItem → Option PlannerItem → Prop where
  | same {op : Op} {old : Option PlannerItem} : Change c w key op old old
  | handled {now : ℕ → ℕ} {inputs : List Simulated} {old : Option PlannerItem} {item : PlannerItem}
      (hconsidered : Considered w.planner inputs key) (hcarries : Carries old item)
      (hstate : item.state = .estimating ∨ item.state = .rejected) :
      Change c w key (.plan now inputs) old (some item)
  | planned {now : ℕ → ℕ} {inputs : List Simulated} {old : Option PlannerItem} {item : PlannerItem}
      {batch : BatchPlan} (hconsidered : Considered w.planner inputs key) (hcarries : Carries old item)
      (hstate : item.state = .planned)
      (hlast : LastWith (plan c now w.planner inputs).2.batches key batch)
      (hbatchId : item.batchId = some batch.batchId) : Change c w key (.plan now inputs) old (some item)
  | submitted {i : ℕ} {item : PlannerItem} (hstate : item.state = .planned) :
      Change c w key (.markSubmitted i) (some item) (some { item with state := .submitted })
  | reconciled {i : ℕ} {outcomes : List SubmissionOutcome} {item : PlannerItem}
      {outcome : SubmissionOutcome} {batch : BatchPlan} (hbatch : w.batches[i]? = some batch)
      (hmem : key ∈ batch.items) (hstate : item.state = .submitted)
      (houtcome : outcomeById outcomes item.id = some outcome) :
      Change c w key (.reconcile i outcomes) (some item) (some (item.withOutcome c outcome))

/-- **One call, and one key.** -/
theorem change_step (c : SorobanBatchPlannerOptions) (w : World) (op : Op) (key : String) :
    Change c w key op (w.planner.ledger key) ((step c w op).planner.ledger key) := by
  cases op with
  | plan now inputs =>
      rw [step]
      dsimp only
      obtain ⟨hhandled, hothers, hcandidates⟩ := scan_spec c w.planner inputs key
      have hclosed : Closed (scan c w.planner inputs).planner _ (plan c now w.planner inputs).1
        (plan c now w.planner inputs).2.batches := closed_plan
      by_cases hmem : key ∈ (plan c now w.planner inputs).2.batches.flatMap BatchPlan.items
      · have hconsidered := hcandidates (items_plan_perm.mem_iff.mp hmem)
        obtain ⟨item, hitem, -, hcarries⟩ := hhandled hconsidered
        rw [hclosed.flatMap_items] at hmem
        obtain ⟨batch, nonce, hlast, hledger⟩ := hclosed.planned key hmem
        rw [hledger, hitem, Option.map_some]
        exact .planned hconsidered hcarries rfl hlast rfl
      · rw [hclosed.flatMap_items] at hmem
        rw [hclosed.others key hmem]
        by_cases hconsidered : Considered w.planner inputs key
        · obtain ⟨item, hitem, hstate, hcarries⟩ := hhandled hconsidered
          rw [hitem]
          exact .handled hconsidered hcarries hstate
        · rw [hothers hconsidered]
          exact .same
  | markSubmitted i =>
      rw [step]
      dsimp only
      cases w.batches[i]? with
      | none => exact .same
      | some batch =>
          rw [Option.elim_some, markSubmitted_ledger]
          by_cases hmem : key ∈ batch.items
          · rw [if_pos hmem]
            cases w.planner.ledger key with
            | none => exact .same
            | some item =>
                rw [Option.map_some, PlannerItem.marked]
                by_cases hstate : item.state ≠ .planned
                · rw [if_pos hstate]
                  exact .same
                · rw [if_neg hstate]
                  exact .submitted (not_not.mp hstate)
          · rw [if_neg hmem]
            exact .same
  | reconcile i outcomes =>
      rw [step]
      dsimp only
      cases hbatch : w.batches[i]? with
      | none => exact .same
      | some batch =>
          rw [Option.elim_some, reconcile_ledger]
          by_cases hmem : key ∈ batch.items
          · rw [if_pos hmem]
            cases w.planner.ledger key with
            | none => exact .same
            | some item =>
                rw [Option.map_some]
                by_cases hstate : item.state = .submitted
                · cases houtcome : outcomeById outcomes item.id with
                  | none =>
                      rw [reconciled_of_no_outcome houtcome]
                      exact .same
                  | some =>
                      rw [reconciled_eq_withOutcome hstate houtcome]
                      exact .reconciled hbatch hmem hstate houtcome
                · rw [reconciled_of_not_submitted hstate]
                  exact .same
          · rw [if_neg hmem]
            exact .same

/-- An item stays registered, under its id. -/
theorem Change.exists_item (h : Change c w key op (some item) new) :
    ∃ item', new = some item' ∧ item'.id = item.id := by
  cases h with
  | same => exact ⟨item, rfl, rfl⟩
  | handled _ hcarries | planned _ hcarries => exact ⟨_, rfl, hcarries.2 item rfl⟩
  | submitted => exact ⟨_, rfl, rfl⟩
  | reconciled => exact ⟨_, rfl, id_withOutcome⟩

variable (c w op) in
/-- The batches of a call come after those that are there. -/
theorem batches_step : ∃ more, (step c w op).batches = w.batches ++ more ∧
    (∀ now inputs, op = .plan now inputs → more = (plan c now w.planner inputs).2.batches) ∧
    ((∀ now inputs, op ≠ .plan now inputs) → more = []) := by
  cases op with
  | plan now inputs =>
      refine ⟨_, rfl, ?_, fun h => absurd rfl (h now inputs)⟩
      intro now' inputs' h
      cases h
      rfl
  | markSubmitted | reconcile => exact ⟨[], (List.append_nil _).symm, nofun, fun _ => rfl⟩

theorem Later.step (h : Later w i key) : Later (SorobanBatchPlanner.step c w op) i key := by
  obtain ⟨batch, hmem, hkey⟩ := h
  obtain ⟨more, hmore, -⟩ := batches_step c w op
  refine ⟨batch, ?_, hkey⟩
  rw [hmore, List.drop_append]
  exact List.mem_append_left _ hmem

/-- A batch of a call is later than every batch that is there. -/
theorem later_of_plan {now : ℕ → ℕ} {inputs : List Simulated} (hi : i < w.batches.length)
    (hmem : batch ∈ (plan c now w.planner inputs).2.batches) (hkey : key ∈ batch.items) :
    Later (SorobanBatchPlanner.step c w (.plan now inputs)) i key := by
  refine ⟨batch, ?_, hkey⟩
  have hbatches : (SorobanBatchPlanner.step c w (.plan now inputs)).batches =
      w.batches ++ (plan c now w.planner inputs).2.batches := rfl
  rw [hbatches, List.drop_append_of_le_length hi]
  exact List.mem_append_right _ hmem

theorem LastWith.mem (h : LastWith batches key batch) : batch ∈ batches ∧ key ∈ batch.items := by
  obtain ⟨before, after, rfl, hmem, -⟩ := h
  exact ⟨List.mem_append_right _ List.mem_cons_self, hmem⟩

theorem LastWith.append_right (h : LastWith batches key batch) {more : List BatchPlan}
    (hmore : ∀ later ∈ more, key ∉ later.items) : LastWith (batches ++ more) key batch := by
  obtain ⟨before, after, rfl, hmem, hlast⟩ := h
  refine ⟨before, after ++ more, by rw [List.append_assoc, List.cons_append], hmem, ?_⟩
  intro later hlater
  rcases List.mem_append.mp hlater with hlater | hlater
  · exact hlast later hlater
  · exact hmore later hlater

/-- A batch with a key that no later one has is the last one with the key. -/
theorem LastWith.eq_of_not_later (h : LastWith w.batches key batch) {other : BatchPlan}
    (hother : w.batches[i]? = some other) (hkey : key ∈ other.items) (hlater : ¬Later w i key) :
    batch = other := by
  obtain ⟨before, after, hbatches, hmem, hlast⟩ := h
  rcases Nat.lt_trichotomy i before.length with hlt | heq | hgt
  · refine absurd ⟨batch, ?_, hmem⟩ hlater
    rw [hbatches, List.drop_append_of_le_length hlt]
    exact List.mem_append_right _ List.mem_cons_self
  · rw [hbatches, heq, List.getElem?_append_right (Nat.le_refl _), Nat.sub_self, List.getElem?_cons_zero,
      Option.some.injEq] at hother
    exact hother
  · rw [hbatches, List.getElem?_append_right (Nat.le_of_lt hgt)] at hother
    obtain ⟨j, hj⟩ := Nat.exists_eq_add_of_lt hgt
    have hindex : i - before.length = j + 1 := by omega
    rw [hindex, List.getElem?_cons_succ] at hother
    exact absurd hkey (hlast other (List.mem_of_getElem? hother))

end Step

/-! ## Runs -/

section Runs

variable {c : SorobanBatchPlannerOptions} {w : World} {op : Op} {key : String} {i : ℕ}
  {item item' : PlannerItem} {batch : BatchPlan} {outcomes : List SubmissionOutcome} {nonceStart : ℤ}
  {ops before after : List Op}

/-- The item is on its way with the batch that it names. -/
def PlannerItem.UnderWay (item : PlannerItem) : Prop := item.state = .planned ∨ item.state = .submitted

/-- What holds in every world: the items of the batches are registered, an item that is under way
names the last batch with it, and only an item that has been given up has used all its attempts. -/
structure Tracked (c : SorobanBatchPlannerOptions) (w : World) : Prop where
  registered : ∀ batch ∈ w.batches, ∀ key ∈ batch.items, ∃ item, w.planner.ledger key = some item
  current : ∀ key item, w.planner.ledger key = some item → item.UnderWay →
    ∃ batch, LastWith w.batches key batch ∧ item.batchId = some batch.batchId
  attempts : ∀ key item, w.planner.ledger key = some item →
    item.attempts < c.maxRetries ∨ (item.state = .dead_letter ∧ item.attempts = c.maxRetries)

theorem settled_of_underWay (hitem : w.planner.ledger key = some item) (h : item.UnderWay) :
    w.planner.settled key = true := by
  rw [Planner.settled, hitem, Option.any_some]
  rcases h with h | h
  · rw [h]
    rfl
  · rw [h]
    rfl

theorem not_underWay_withOutcome {outcome : SubmissionOutcome} : ¬(item.withOutcome c outcome).UnderWay := by
  rcases state_withOutcome c item outcome with h | h | h
  · rw [PlannerItem.UnderWay, h]
    simp
  · rw [PlannerItem.UnderWay, h]
    simp
  · rw [PlannerItem.UnderWay, h]
    simp

variable (c op) in
/-- An item under way is in no batch that a call adds. -/
theorem not_mem_added (hitem : w.planner.ledger key = some item) (h : item.UnderWay) :
    ∃ more, (step c w op).batches = w.batches ++ more ∧ ∀ later ∈ more, key ∉ later.items := by
  obtain ⟨more, hmore, hplan, hother⟩ := batches_step c w op
  refine ⟨more, hmore, fun later hlater hkey => ?_⟩
  cases op with
  | plan now inputs =>
      rw [hplan now inputs rfl] at hlater
      have hcandidate := items_plan_perm.mem_iff.mp (List.mem_flatMap.mpr ⟨later, hlater, hkey⟩)
      have hfresh := ((scan_spec c w.planner inputs key).2.2 hcandidate).1
      rw [settled_of_underWay hitem h] at hfresh
      cases hfresh
  | markSubmitted | reconcile =>
      rw [hother nofun] at hlater
      exact absurd hlater List.not_mem_nil

theorem Tracked.registered_step (h : Tracked c w) : ∀ batch ∈ (step c w op).batches, ∀ key ∈ batch.items,
    ∃ item, (step c w op).planner.ledger key = some item := by
  intro batch hbatch key hkey
  have hold (item : PlannerItem) (hitem : w.planner.ledger key = some item) :
      ∃ item, (step c w op).planner.ledger key = some item := by
    have hchange := change_step c w op key
    rw [hitem] at hchange
    obtain ⟨item', hitem', -⟩ := hchange.exists_item
    exact ⟨item', hitem'⟩
  obtain ⟨more, hmore, hplan, hother⟩ := batches_step c w op
  rw [hmore] at hbatch
  rcases List.mem_append.mp hbatch with hbatch | hbatch
  · obtain ⟨item, hitem⟩ := h.registered batch hbatch key hkey
    exact hold item hitem
  · cases op with
    | plan now inputs =>
        rw [hplan now inputs rfl] at hbatch
        have hmem := List.mem_flatMap.mpr ⟨batch, hbatch, hkey⟩
        obtain ⟨item, hitem, -⟩ := (scan_spec c w.planner inputs key).1
          ((scan_spec c w.planner inputs key).2.2 (items_plan_perm.mem_iff.mp hmem))
        have hclosed : Closed (scan c w.planner inputs).planner _ (plan c now w.planner inputs).1
          (plan c now w.planner inputs).2.batches := closed_plan
        rw [hclosed.flatMap_items] at hmem
        obtain ⟨last, nonce, -, hledger⟩ := hclosed.planned key hmem
        rw [hitem] at hledger
        exact ⟨_, hledger⟩
    | markSubmitted | reconcile =>
        rw [hother nofun] at hbatch
        exact absurd hbatch List.not_mem_nil

theorem Tracked.current_step (h : Tracked c w)
    (hitem : (step c w op).planner.ledger key = some item) (hway : item.UnderWay) :
    ∃ batch, LastWith (step c w op).batches key batch ∧ item.batchId = some batch.batchId := by
  have hkept (before : PlannerItem) (hbefore : w.planner.ledger key = some before)
      (hbefore_way : before.UnderWay) (hbatchId : item.batchId = before.batchId) :
      ∃ batch, LastWith (step c w op).batches key batch ∧ item.batchId = some batch.batchId := by
    obtain ⟨batch, hlast, hid⟩ := h.current key before hbefore hbefore_way
    obtain ⟨more, hmore, hnot⟩ := not_mem_added c op hbefore hbefore_way
    rw [hmore]
    exact ⟨batch, hlast.append_right hnot, hbatchId.trans hid⟩
  have hchange := change_step c w op key
  rw [hitem] at hchange
  generalize hold : w.planner.ledger key = old at hchange
  cases hchange with
  | same => exact hkept item hold hway rfl
  | handled _ _ hstate =>
      rcases hway with hplanned | hsubmitted
      · rw [hplanned] at hstate
        simp at hstate
      · rw [hsubmitted] at hstate
        simp at hstate
  | planned _ _ _ hlast hbatchId => exact ⟨_, hlast.append w.batches, hbatchId⟩
  | submitted hstate => exact hkept _ hold (.inl hstate) rfl
  | reconciled => exact absurd hway not_underWay_withOutcome

/-- **One call keeps the attempts within the retries.** -/
theorem Tracked.attempts_step (h : Tracked c w) (hretries : 1 ≤ c.maxRetries) (hop : InTurn w op)
    (hitem : (step c w op).planner.ledger key = some item) :
    item.attempts < c.maxRetries ∨ (item.state = .dead_letter ∧ item.attempts = c.maxRetries) := by
  -- What planning takes up has not been given up, so it has attempts left.
  have htaken {now : ℕ → ℕ} {inputs : List Simulated} (hplan : op = .plan now inputs)
      (hconsidered : Considered w.planner inputs key)
      (hcarries : Carries (w.planner.ledger key) item) : item.attempts < c.maxRetries := by
    rw [hplan] at hop
    obtain ⟨-, simulated, hmem, hkey⟩ := hconsidered
    rw [hcarries.1]
    cases hbefore : w.planner.ledger key with
    | none => exact hretries
    | some before =>
        rcases h.attempts key before hbefore with hlt | ⟨hdead, -⟩
        · exact hlt
        · exact absurd hdead (hop simulated hmem before (by rw [hkey]; exact hbefore))
  have hchange := change_step c w op key
  rw [hitem] at hchange
  generalize hold : w.planner.ledger key = old at hchange htaken
  cases hchange with
  | same => exact h.attempts key item hold
  | handled hconsidered hcarries | planned hconsidered hcarries => exact .inl (htaken rfl hconsidered hcarries)
  | submitted hstate =>
      rcases h.attempts key _ hold with hlt | ⟨hdead, -⟩
      · exact .inl hlt
      · rw [hdead] at hstate
        cases hstate
  | @reconciled _ _ before outcome _ _ _ hstate =>
      rcases h.attempts key _ hold with hlt | ⟨hdead, -⟩
      · rw [PlannerItem.withOutcome]
        by_cases hsuccess : outcome.success = true
        · rw [if_pos hsuccess]
          exact .inl hlt
        · rw [if_neg hsuccess]
          dsimp only
          by_cases hlast : before.attempts + 1 ≥ c.maxRetries
          · rw [if_pos hlast]
            exact .inr ⟨rfl, Nat.le_antisymm hlt hlast⟩
          · rw [if_neg hlast]
            exact .inl (Nat.lt_of_not_le hlast)
      · rw [hdead] at hstate
        cases hstate

theorem Tracked.step (h : Tracked c w) (hretries : 1 ≤ c.maxRetries) (hop : InTurn w op) :
    Tracked c (SorobanBatchPlanner.step c w op) where
  registered := h.registered_step
  current _ _ hitem hway := h.current_step hitem hway
  attempts _ _ hitem := h.attempts_step hretries hop hitem

theorem tracked_after (hretries : 1 ≤ c.maxRetries)
    (h : Runs.Along (SorobanBatchPlanner.step c) InTurn (.initial nonceStart) ops) :
    Tracked c (World.after c nonceStart ops) := by
  refine Runs.run_invariant (fun hw hop => hw.step hretries hop) ⟨?_, ?_, ?_⟩ h
  · exact fun _ h => absurd h List.not_mem_nil
  · exact fun _ _ h => by cases h
  · exact fun _ _ h => by cases h

theorem after_concat :
    World.after c nonceStart (ops ++ [op]) = SorobanBatchPlanner.step c (World.after c nonceStart ops) op :=
  Runs.run_concat

theorem along_split (h : Runs.Along (SorobanBatchPlanner.step c) InTurn (.initial nonceStart)
    (before ++ op :: after)) :
    Runs.Along (SorobanBatchPlanner.step c) InTurn (.initial nonceStart) before ∧
      InTurn (World.after c nonceStart before) op := by
  obtain ⟨hbefore, hop, -⟩ := Runs.Along.append.mp h
  exact ⟨hbefore, hop⟩

/-- A reconcile in its turn changes an item only with the batch that the item names. -/
theorem Tracked.own (h : Tracked c w) (hop : InTurn w (.reconcile i outcomes))
    (hbatch : w.batches[i]? = some batch)
    (hne : (SorobanBatchPlanner.step c w (.reconcile i outcomes)).planner.ledger key ≠
      w.planner.ledger key) :
    ∃ item, w.planner.ledger key = some item ∧ item.batchId = some batch.batchId := by
  have hchange := change_step c w (.reconcile i outcomes) key
  generalize hold : w.planner.ledger key = old at hchange hne
  generalize SorobanBatchPlanner.step c w (.reconcile i outcomes) = w' at hchange hne
  generalize w'.planner.ledger key = new at hchange hne
  cases hchange with
  | same => exact absurd rfl hne
  | @reconciled _ _ item _ _ hreconciled hmem hstate houtcome =>
      rw [hbatch, Option.some.injEq] at hreconciled
      subst hreconciled
      obtain ⟨hlater, -⟩ := hop batch hbatch key hmem item hold (by rw [houtcome]; rfl)
      obtain ⟨last, hlast, hbatchId⟩ := h.current key item hold (.inr hstate)
      rw [hlast.eq_of_not_later hbatch hmem (hlater hstate)] at hbatchId
      exact ⟨item, rfl, hbatchId⟩

/-- A confirmed item does not change. -/
theorem confirmed_step (hitem : w.planner.ledger key = some item) (hstate : item.state = .confirmed) :
    (SorobanBatchPlanner.step c w op).planner.ledger key = some item := by
  have hsettled : w.planner.settled key = true := by
    rw [Planner.settled, hitem, Option.any_some, hstate]
    rfl
  have hnot {inputs : List Simulated} : ¬Considered w.planner inputs key := by
    rintro ⟨hfresh, -⟩
    rw [hsettled] at hfresh
    cases hfresh
  have hchange := change_step c w op key
  rw [hitem] at hchange
  generalize (SorobanBatchPlanner.step c w op).planner.ledger key = new at hchange
  cases hchange with
  | same => rfl
  | handled hconsidered | planned hconsidered => exact absurd hconsidered hnot
  | submitted hplanned =>
      rw [hplanned] at hstate
      cases hstate
  | reconciled _ _ hsubmitted =>
      rw [hsubmitted] at hstate
      cases hstate

/-- The outcomes have been taken: an item of the batch that has one is under way only with a later
batch. -/
def Taken (i : ℕ) (outcomes : List SubmissionOutcome) (batch : BatchPlan) (w : World) : Prop :=
  i < w.batches.length ∧ ∀ key ∈ batch.items, ∃ item, w.planner.ledger key = some item ∧
    ((outcomeById outcomes item.id).isSome = true → item.UnderWay → Later w i key)

theorem Tracked.taken (h : Tracked c w) (hop : InTurn w (.reconcile i outcomes))
    (hbatch : w.batches[i]? = some batch) :
    Taken i outcomes batch (SorobanBatchPlanner.step c w (.reconcile i outcomes)) := by
  obtain ⟨hlength, hget⟩ := List.getElem?_eq_some_iff.mp hbatch
  refine ⟨hlength, fun key hkey => ?_⟩
  obtain ⟨item, hitem⟩ := h.registered batch (List.mem_of_getElem? hbatch) key hkey
  refine ⟨item.reconciled c outcomes, ?_, ?_⟩
  · rw [SorobanBatchPlanner.step]
    dsimp only
    rw [hbatch, Option.elim_some, reconcile_ledger, if_pos hkey, hitem, Option.map_some]
  · intro houtcome hway
    by_cases hstate : item.state = .submitted
    · cases hsome : outcomeById outcomes item.id with
      | none =>
          rw [reconciled_of_no_outcome hsome, hsome] at houtcome
          cases houtcome
      | some =>
          rw [reconciled_eq_withOutcome hstate hsome] at hway
          exact absurd hway not_underWay_withOutcome
    · rw [reconciled_of_not_submitted hstate] at houtcome hway
      exact (hop batch hbatch key hkey item hitem houtcome).2 (hway.resolve_right hstate)

theorem Taken.step (h : Taken i outcomes batch w) (op : Op) :
    Taken i outcomes batch (SorobanBatchPlanner.step c w op) := by
  obtain ⟨hlength, hitems⟩ := h
  refine ⟨?_, fun key hkey => ?_⟩
  · obtain ⟨more, hmore, -⟩ := batches_step c w op
    rw [hmore, List.length_append]
    omega
  · obtain ⟨item, hitem, hlater⟩ := hitems key hkey
    have hchange := change_step c w op key
    rw [hitem] at hchange
    obtain ⟨item', hitem', hid⟩ := hchange.exists_item
    refine ⟨item', hitem', fun houtcome hway => ?_⟩
    rw [hid] at houtcome
    rw [hitem'] at hchange
    cases hchange with
    | same => exact (hlater houtcome hway).step
    | handled _ _ hstate =>
        rcases hway with hplanned | hsubmitted
        · rw [hplanned] at hstate
          simp at hstate
        · rw [hsubmitted] at hstate
          simp at hstate
    | planned _ _ _ hlast => exact later_of_plan hlength hlast.mem.1 hlast.mem.2
    | submitted hstate => exact (hlater houtcome (.inl hstate)).step
    | reconciled => exact absurd hway not_underWay_withOutcome

/-- Outcomes that have been taken change nothing when they come again in their turn. -/
theorem Taken.repeated (h : Taken i outcomes batch w) (hbatch : w.batches[i]? = some batch)
    (hop : InTurn w (.reconcile i outcomes)) :
    (SorobanBatchPlanner.step c w (.reconcile i outcomes)).planner = w.planner := by
  rw [SorobanBatchPlanner.step]
  dsimp only
  rw [hbatch, Option.elim_some]
  refine reconcile_eq_self fun key hkey item hitem hstate => ?_
  obtain ⟨item', hitem', hlater⟩ := h.2 key hkey
  rw [hitem, Option.some.injEq] at hitem'
  subst hitem'
  by_contra hsome
  have houtcome := Option.isSome_iff_ne_none.mpr hsome
  exact (hop batch hbatch key hkey item hitem houtcome).1 hstate (hlater houtcome (.inr hstate))

theorem batches_run_getElem? (hbatch : w.batches[i]? = some batch) :
    (Runs.run (SorobanBatchPlanner.step c) w ops).batches[i]? = some batch := by
  refine Runs.run_invariant (C := fun _ _ => True) (I := fun w : World => w.batches[i]? = some batch) ?_ hbatch
    (Runs.Along.of_forall fun _ _ => trivial)
  intro w op hw _
  obtain ⟨more, hmore, -⟩ := batches_step c w op
  rw [hmore, List.getElem?_append_left (List.getElem?_eq_some_iff.mp hw).1]
  exact hw

end Runs

/-- **Reconciling only touches its own batch,** in every run whose calls are in turn. -/
theorem reconciles_own (c : SorobanBatchPlannerOptions) (nonceStart : ℤ) (ops : List Op)
    (hretries : 1 ≤ c.maxRetries) (h : Runs.Along (step c) InTurn (World.initial nonceStart) ops) :
    ReconcilesOwn c nonceStart ops where
  own before i outcomes after hops batch hbatch key hne := by
    rw [hops] at h
    obtain ⟨hbefore, hop⟩ := along_split h
    rw [after_concat] at hne
    exact (tracked_after hretries hbefore).own hop hbatch hne
  repeated before i outcomes between after hops hexists := by
    obtain ⟨batch, hbatch⟩ := hexists
    have hsplit : ops = (before ++ .reconcile i outcomes :: between) ++ .reconcile i outcomes :: after := by
      rw [hops, List.append_assoc, List.cons_append]
    have hfirst := h
    rw [hops] at hfirst
    obtain ⟨hbefore, hop⟩ := along_split hfirst
    rw [hsplit] at h
    obtain ⟨-, hagain⟩ := along_split h
    have hrun : World.after c nonceStart (before ++ .reconcile i outcomes :: between) =
        Runs.run (step c) (step c (World.after c nonceStart before) (.reconcile i outcomes)) between :=
      Runs.run_append
    have htaken : Taken i outcomes batch
        (World.after c nonceStart (before ++ .reconcile i outcomes :: between)) := by
      rw [hrun]
      exact Runs.run_invariant (C := fun _ _ => True) (fun hw _ => hw.step _)
        ((tracked_after hretries hbefore).taken hop hbatch) (Runs.Along.of_forall fun _ _ => trivial)
    have hconcat : before ++ .reconcile i outcomes :: (between ++ [.reconcile i outcomes]) =
        (before ++ .reconcile i outcomes :: between) ++ [.reconcile i outcomes] := by
      rw [List.append_assoc, List.cons_append]
    rw [hconcat, after_concat]
    refine htaken.repeated ?_ hagain
    rw [hrun]
    exact batches_run_getElem? hbatch
  confirmed before after hops key item hitem hstate := by
    have hrun : World.after c nonceStart ops =
        Runs.run (step c) (World.after c nonceStart before) after := by
      rw [hops]
      exact Runs.run_append
    rw [hrun]
    exact Runs.run_invariant (C := fun _ _ => True)
      (I := fun w : World => w.planner.ledger key = some item) (fun hw _ => confirmed_step hw hstate) hitem
      (Runs.Along.of_forall fun _ _ => trivial)
  attempts before after hops key item hitem := by
    rw [hops] at h
    rcases (tracked_after hretries (Runs.Along.append.mp h).1).attempts key item hitem with hlt | ⟨-, heq⟩
    · exact Nat.le_of_lt hlt
    · exact Nat.le_of_eq heq

instance Later.decidable (w : World) (i : ℕ) (key : String) : Decidable (Later w i key) :=
  inferInstanceAs (Decidable (∃ batch ∈ w.batches.drop (i + 1), key ∈ batch.items))

instance InTurn.decidable (w : World) : (op : Op) → Decidable (InTurn w op)
  | .plan _ inputs => inferInstanceAs (Decidable (∀ simulated ∈ inputs,
      ∀ item ∈ w.planner.ledger simulated.1.idempotencyKey, item.state ≠ .dead_letter))
  | .markSubmitted _ => isTrue trivial
  | .reconcile i outcomes => inferInstanceAs (Decidable (∀ batch ∈ w.batches[i]?, ∀ key ∈ batch.items,
      ∀ item ∈ w.planner.ledger key, (outcomeById outcomes item.id).isSome = true →
        (item.state = .submitted → ¬Later w i key) ∧ (item.state = .planned → Later w i key)))

/-- A planner with three attempts for each item. -/
def retrying : SorobanBatchPlannerOptions where
  budget := ⟨1000, 1000, 10, 1000, none⟩
  maxRetries := 3
  adaptationStep := 5 / 4
  maxAdaptationFactor := 3

/-- The inputs of one item, which always needs as much. -/
def flaky : List Simulated :=
  [({ id := "flaky", idempotencyKey := "key-flaky", contractId := "CBRIDGE", functionName := "submit_health"
      priority := none }, .ok ⟨100, 100, 2, 100⟩)]

def boom : List SubmissionOutcome :=
  [{ id := "flaky", success := false, error := some "boom", actualUsage := none }]

def landed : List SubmissionOutcome :=
  [{ id := "flaky", success := true, error := none, actualUsage := none }]

/-- The item fails once, and lands with the batch that it is planned into again. -/
def retried : List Op :=
  [.plan (fun _ => 0) flaky, .markSubmitted 0, .reconcile 0 boom, .plan (fun _ => 0) flaky,
    .markSubmitted 1, .reconcile 1 landed, .reconcile 1 landed]

theorem reconciles_own_retried : ReconcilesOwn retrying 0 retried :=
  reconciles_own retrying 0 retried (by decide) (by decide +kernel)

def Op.inputs : Op → List BatchItemInput
  | .plan _ inputs => inputs.map Prod.fst
  | .markSubmitted _ => []
  | .reconcile _ _ => []

/-- Two inputs of a run have one id where they have one key, and only there. -/
def UniqueItems (ops : List Op) : Prop :=
  ∀ a ∈ ops.flatMap Op.inputs, ∀ b ∈ ops.flatMap Op.inputs, a.id = b.id ↔ a.idempotencyKey = b.idempotencyKey

instance UniqueItems.decidable (ops : List Op) : Decidable (UniqueItems ops) :=
  inferInstanceAs (Decidable (∀ a ∈ ops.flatMap Op.inputs, ∀ b ∈ ops.flatMap Op.inputs,
    a.id = b.id ↔ a.idempotencyKey = b.idempotencyKey))

/-- The outcomes of the first batch come once more, while the item is on its way with the second. -/
theorem reconcile_touches_later_batch :
    ¬∀ (c : SorobanBatchPlannerOptions) (nonceStart : ℤ) (ops : List Op), UniqueItems ops →
      ReconcilesOwn c nonceStart ops := by
  intro hclaim
  obtain ⟨item, hitem, hbatchId⟩ := (hclaim retrying 0
    [.plan (fun _ => 0) flaky, .markSubmitted 0, .reconcile 0 boom, .plan (fun _ => 0) flaky,
      .markSubmitted 1, .reconcile 0 boom] (by decide +kernel)).own
    [.plan (fun _ => 0) flaky, .markSubmitted 0, .reconcile 0 boom, .plan (fun _ => 0) flaky,
      .markSubmitted 1] 0 boom [] rfl
    { batchId := "batch-0-0", items := ["key-flaky"], totalEstimate := ⟨100, 100, 2, 100⟩
      nonceRange := ⟨0, 0⟩ } (by decide +kernel) "key-flaky" (by decide +kernel)
  have hcurrent : ((World.after retrying 0 [.plan (fun _ => 0) flaky, .markSubmitted 0, .reconcile 0 boom,
      .plan (fun _ => 0) flaky, .markSubmitted 1]).planner.ledger "key-flaky").bind PlannerItem.batchId =
        some "batch-1-0" := by decide +kernel
  rw [hitem, Option.bind_some, hbatchId, Option.some.injEq] at hcurrent
  revert hcurrent
  decide

end BridgeWatch.SorobanBatchPlanner

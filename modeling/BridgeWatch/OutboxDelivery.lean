/-
Delivery of outbox events, `backend/src/outbox/eventProducer.ts`, `backend/src/outbox/eventDispatcher.ts`
and `retryEvent` of `backend/src/outbox/adminApi.ts`.

Every statement that the code sends to the database is one step, a transaction of the producer too, and
so is a call of a handler. Any number of workers take their steps in any order, and a step may fail: it
changes nothing then, and the worker goes on in the catch branch of the code. The transaction around a
dispatch only reads through its connection, so it is its first and its last statement here. Times are
left out, as a redrive and a retry may come at any time.
-/
import Mathlib.Data.Nat.Basic
import Mathlib.Logic.Function.Basic
import BridgeWatch.Runs

set_option autoImplicit false

namespace BridgeWatch.Outbox

/-! ## Tables -/

inductive Status where
  | pending
  | processing
  | delivered
  | failed
  | dead_letter
  deriving DecidableEq

structure OutboxEvent where
  aggregateType : String
  aggregateId : String
  eventType : String
  payload : String
  metadata : String
  deriving DecidableEq

/-- A row of `outbox_events`. -/
structure OutboxEventRecord extends OutboxEvent where
  sequenceNo : ℕ
  status : Status
  retryCount : ℕ
  errorMessage : Option String
  deriving DecidableEq

/-- A row of `dead_letter_events`. -/
structure DeadLetterEvent where
  id : ℕ
  outboxId : ℕ
  eventType : String
  aggregateId : String
  payload : String
  errorCount : ℕ
  lastError : String
  deriving DecidableEq

/-- The tables, with the events that have been handed to the handlers, as these got them. -/
structure Store where
  events : ℕ → Option OutboxEventRecord
  nextId : ℕ
  sequences : String × String → ℕ
  deadLetters : List DeadLetterEvent
  nextDeadLetter : ℕ
  dispatched : List (ℕ × OutboxEventRecord)

namespace Store

def empty : Store where
  events _ := none
  nextId := 0
  sequences _ := 0
  deadLetters := []
  nextDeadLetter := 0
  dispatched := []

/-- `UPDATE outbox_events SET ... WHERE id = eventId`. -/
def update (s : Store) (eventId : ℕ) (set : OutboxEventRecord → OutboxEventRecord) : Store :=
  { s with events := Function.update s.events eventId ((s.events eventId).map set) }

/-- `publishTransactional`, in a transaction that commits. -/
def publish (s : Store) (event : OutboxEvent) : Store :=
  let aggregate := (event.aggregateType, event.aggregateId)
  let sequenceNo := s.sequences aggregate + 1
  { s with
    events := Function.update s.events s.nextId (some
      { event with sequenceNo, status := .pending, retryCount := 0, errorMessage := none })
    nextId := s.nextId + 1
    sequences := Function.update s.sequences aggregate sequenceNo }

/-- The transaction of `moveToDeadLetter`, for an event that is there. -/
def moveToDeadLetter (s : Store) (eventId : ℕ) (event : OutboxEventRecord) (error : String)
    (errorCount : ℕ) : Store :=
  let marked := s.update eventId fun row => { row with status := .dead_letter, errorMessage := some error }
  match s.deadLetters.find? fun row => row.outboxId = eventId with
  | some existing =>
      { marked with
        deadLetters := s.deadLetters.map fun row =>
          if row.id = existing.id then
            { row with errorCount := existing.errorCount + errorCount, lastError := error }
          else row }
  | none =>
      { marked with
        deadLetters := s.deadLetters ++
          [{ id := s.nextDeadLetter, outboxId := eventId, eventType := event.eventType,
             aggregateId := event.aggregateId, payload := event.payload, errorCount, lastError := error }]
        nextDeadLetter := s.nextDeadLetter + 1 }

def releaseDeadLetter (s : Store) (id : ℕ) : Store :=
  { s with deadLetters := s.deadLetters.filter fun row => row.id ≠ id }

/-- The update that `redriveDeadLetter` and `retryEvent` make. -/
def requeue (s : Store) (eventId : ℕ) : Store :=
  s.update eventId fun row => { row with status := .pending, retryCount := 0, errorMessage := none }

end Store

/-! ## Processes -/

/-- The statement that a process runs next. -/
inductive Process where
  /-- `processDispatchJob`, at the start of its transaction. -/
  | beginning (eventId : ℕ)
  | locking (eventId : ℕ)
  | marking (eventId : ℕ) (event : OutboxEventRecord)
  | dispatching (eventId : ℕ) (event : OutboxEventRecord)
  | delivering (eventId : ℕ)
  | committing (eventId : ℕ)
  /-- `markForRetry`. -/
  | readingRetryCount (eventId : ℕ) (error : String)
  | scheduling (eventId : ℕ) (error : String) (retryCount : ℕ)
  | deadLettering (eventId : ℕ) (error : String) (errorCount : ℕ)
  /-- `redriveDeadLetter`. -/
  | readingDeadLetter (id : ℕ)
  | redriving (id outboxId : ℕ)
  /-- `retryEvent`. -/
  | readingEvent (eventId : ℕ)
  | retrying (eventId : ℕ)
  | finished
  deriving DecidableEq

/-- Where the process goes on when its statement throws: `processDispatchJob` marks its event for
retry, and every other catch branch only reports. -/
def Process.caught (error : String) : Process → Process
  | .beginning eventId => .readingRetryCount eventId error
  | .locking eventId => .readingRetryCount eventId error
  | .marking eventId _ => .readingRetryCount eventId error
  | .dispatching eventId _ => .readingRetryCount eventId error
  | .delivering eventId => .readingRetryCount eventId error
  | .committing eventId => .readingRetryCount eventId error
  | _ => .finished

/-- A handler has been called, whether it fails or not. -/
def Store.called (s : Store) : Process → Store
  | .dispatching eventId event => { s with dispatched := s.dispatched ++ [(eventId, event)] }
  | _ => s

section

variable (maxRetries : ℕ)

/-- The statement of a process, and where the process goes on. -/
def perform (s : Store) : Process → Store × Process
  | .beginning eventId => (s, .locking eventId)
  | .locking eventId =>
      match s.events eventId with
      | none => (s, .committing eventId)
      | some event =>
          if event.status ≠ .pending then (s, .committing eventId) else (s, .marking eventId event)
  | .marking eventId event =>
      if (s.events eventId).any fun row => row.status = .pending then
        (s.update eventId fun row => { row with status := .processing }, .dispatching eventId event)
      else (s, .committing eventId)
  | .dispatching eventId event => (s.called (.dispatching eventId event), .delivering eventId)
  | .delivering eventId =>
      (s.update eventId fun row => { row with status := .delivered }, .committing eventId)
  | .committing _ => (s, .finished)
  | .readingRetryCount eventId error =>
      match s.events eventId with
      | none => (s, .finished)
      | some event =>
          let retryCount := event.retryCount + 1
          if retryCount ≥ maxRetries then (s, .deadLettering eventId error retryCount)
          else (s, .scheduling eventId error retryCount)
  | .scheduling eventId error retryCount =>
      (s.update eventId fun row => { row with status := .pending, retryCount, errorMessage := some error },
        .finished)
  | .deadLettering eventId error errorCount =>
      match s.events eventId with
      | none => (s, .finished)
      | some event => (s.moveToDeadLetter eventId event error errorCount, .finished)
  | .readingDeadLetter id =>
      match s.deadLetters.find? fun row => row.id = id with
      | none => (s, .finished)
      | some row => (s, .redriving id row.outboxId)
  | .redriving _ outboxId => (s.requeue outboxId, .finished)
  | .readingEvent eventId =>
      match s.events eventId with
      | none => (s, .finished)
      | some event =>
          if event.status ≠ .failed ∧ event.status ≠ .dead_letter then (s, .finished)
          else (s, .retrying eventId)
  | .retrying eventId => (s.requeue eventId, .finished)
  | .finished => (s, .finished)

/-- The statement of a process, which throws when there is a fault. -/
def execute (s : Store) (p : Process) : Option String → Store × Process
  | some error => (s.called p, p.caught error)
  | none => perform maxRetries s p

/-! ## Runs -/

structure World where
  store : Store
  processes : List Process

def World.initial : World := { store := .empty, processes := [] }

/-- What may happen next. A publish or a release that fails is no step, as it leaves nothing. -/
inductive Op where
  | publish (event : OutboxEvent)
  | releaseDeadLetter (id : ℕ)
  | processDispatchJob (eventId : ℕ)
  | redriveDeadLetter (id : ℕ)
  | retryEvent (eventId : ℕ)
  | advance (process : ℕ) (fault : Option String)
  deriving DecidableEq

def World.start (w : World) (p : Process) : World := { w with processes := w.processes ++ [p] }

def step (w : World) : Op → World
  | .publish event => { w with store := w.store.publish event }
  | .releaseDeadLetter id => { w with store := w.store.releaseDeadLetter id }
  | .processDispatchJob eventId => w.start (.beginning eventId)
  | .redriveDeadLetter id => w.start (.readingDeadLetter id)
  | .retryEvent eventId => w.start (.readingEvent eventId)
  | .advance process fault =>
      match w.processes[process]? with
      | none => w
      | some p =>
          let (store, p') := execute maxRetries w.store p fault
          { store, processes := w.processes.set process p' }

end

def Store.status (s : Store) (eventId : ℕ) : Option Status := (s.events eventId).map OutboxEventRecord.status

/-- The event that the process has marked and may still dispatch or mark as delivered. -/
def Process.inFlight : Process → Option ℕ
  | .dispatching eventId _ => some eventId
  | .delivering eventId => some eventId
  | _ => none

/-- No process has marked the event and is not done with it. -/
def World.Unclaimed (w : World) (eventId : ℕ) : Prop := ∀ p ∈ w.processes, p.inFlight ≠ some eventId

def World.Undelivered (w : World) (eventId : ℕ) : Prop := w.store.status eventId ≠ some .delivered

/-- What the statement of a process needs to find: an event that it makes pending again is neither
delivered nor in the hands of a process, and one that it moves to the dead letters is not delivered. -/
def Process.Finds (w : World) : Process → Prop
  | .scheduling eventId _ _ => w.Undelivered eventId ∧ w.Unclaimed eventId
  | .redriving _ outboxId => w.Undelivered outboxId ∧ w.Unclaimed outboxId
  | .retrying eventId => w.Undelivered eventId ∧ w.Unclaimed eventId
  | .deadLettering eventId _ _ => w.Undelivered eventId
  | _ => True

/-- **The condition on a step.** -/
def WritesOpen (w : World) : Op → Prop
  | .advance process none => ∀ p ∈ w.processes[process]?, p.Finds w
  | _ => True

instance World.decidableUnclaimed (w : World) (eventId : ℕ) : Decidable (w.Unclaimed eventId) :=
  inferInstanceAs (Decidable (∀ p ∈ w.processes, p.inFlight ≠ some eventId))

instance World.decidableUndelivered (w : World) (eventId : ℕ) : Decidable (w.Undelivered eventId) :=
  inferInstanceAs (Decidable (w.store.status eventId ≠ some .delivered))

instance Process.decidableFinds (w : World) : (p : Process) → Decidable (p.Finds w)
  | .scheduling eventId _ _ => inferInstanceAs (Decidable (w.Undelivered eventId ∧ w.Unclaimed eventId))
  | .redriving _ outboxId => inferInstanceAs (Decidable (w.Undelivered outboxId ∧ w.Unclaimed outboxId))
  | .retrying eventId => inferInstanceAs (Decidable (w.Undelivered eventId ∧ w.Unclaimed eventId))
  | .deadLettering eventId _ _ => inferInstanceAs (Decidable (w.Undelivered eventId))
  | .beginning _ | .locking _ | .marking _ _ | .dispatching _ _ | .delivering _ | .committing _
  | .readingRetryCount _ _ | .readingDeadLetter _ | .readingEvent _ | .finished => isTrue trivial

instance WritesOpen.decidable (w : World) : (op : Op) → Decidable (WritesOpen w op)
  | .advance process none => inferInstanceAs (Decidable (∀ p ∈ w.processes[process]?, p.Finds w))
  | .advance _ (some _) | .publish _ | .releaseDeadLetter _ | .processDispatchJob _
  | .redriveDeadLetter _ | .retryEvent _ => isTrue trivial

section Statements

variable {s s' : Store} {p p' : Process} {e eventId : ℕ} {event : OutboxEventRecord} {error : String}
  {maxRetries : ℕ} {fault : Option String}

theorem status_update (status : Status) {set : OutboxEventRecord → OutboxEventRecord}
    (h : ∀ row, (set row).status = status) :
    (s.update eventId set).status =
      Function.update s.status eventId ((s.status eventId).map fun _ => status) := by
  funext e
  by_cases he : e = eventId
  · subst he
    rw [Function.update_self, Store.status, Store.update]
    dsimp only
    rw [Function.update_self, Store.status, Option.map_map, Option.map_map]
    congr 1
    funext row
    exact h row
  · rw [Function.update_of_ne he, Store.status, Store.update]
    dsimp only
    rw [Function.update_of_ne he, Store.status]

theorem status_moveToDeadLetter {errorCount : ℕ} :
    (s.moveToDeadLetter eventId event error errorCount).status =
      Function.update s.status eventId ((s.status eventId).map fun _ => .dead_letter) := by
  have hmarked : (s.update eventId fun row =>
      { row with status := .dead_letter, errorMessage := some error }).status =
        Function.update s.status eventId ((s.status eventId).map fun _ => .dead_letter) :=
    status_update .dead_letter fun _ => rfl
  rw [← hmarked]
  unfold Store.moveToDeadLetter
  dsimp only
  split
  · rfl
  · rfl

theorem dispatched_moveToDeadLetter {errorCount : ℕ} :
    (s.moveToDeadLetter eventId event error errorCount).dispatched = s.dispatched := by
  unfold Store.moveToDeadLetter
  dsimp only
  split
  · rfl
  · rfl

/-- What one statement does to the statuses and the dispatches, and what the process holds after it. -/
inductive Effect (s : Store) (p : Process) (fault : Option String) (s' : Store) (p' : Process) :
    Prop where
  | quiet (hstatus : s'.status = s.status) (hdispatched : s'.dispatched = s.dispatched)
      (hafter : p'.inFlight = none)
  | marked (eventId : ℕ) (hpending : s.status eventId = some .pending)
      (hstatus : s'.status = Function.update s.status eventId (some .processing))
      (hdispatched : s'.dispatched = s.dispatched) (hafter : p'.inFlight = some eventId)
  | called (eventId : ℕ) (event : OutboxEventRecord) (hbefore : p.inFlight = some eventId)
      (hstatus : s'.status = s.status) (hdispatched : s'.dispatched = s.dispatched ++ [(eventId, event)])
      (hafter : p'.inFlight = some eventId ∨ p'.inFlight = none)
  | delivered (eventId : ℕ) (hbefore : p.inFlight = some eventId)
      (hstatus : s'.status =
        Function.update s.status eventId ((s.status eventId).map fun _ => .delivered))
      (hdispatched : s'.dispatched = s.dispatched) (hafter : p'.inFlight = none)
  | reopened (eventId : ℕ)
      (hfinds : ∀ w : World, w.store = s → (fault = none → p.Finds w) →
        w.Undelivered eventId ∧ w.Unclaimed eventId)
      (hstatus : s'.status = Function.update s.status eventId ((s.status eventId).map fun _ => .pending))
      (hdispatched : s'.dispatched = s.dispatched) (hafter : p'.inFlight = none)
  | deadLettered (eventId : ℕ)
      (hfinds : ∀ w : World, w.store = s → (fault = none → p.Finds w) → w.Undelivered eventId)
      (hstatus : s'.status =
        Function.update s.status eventId ((s.status eventId).map fun _ => .dead_letter))
      (hdispatched : s'.dispatched = s.dispatched) (hafter : p'.inFlight = none)

theorem inFlight_caught : (p.caught error).inFlight = none := by
  cases p <;> rfl

theorem status_of_events (h : s.events eventId = some event) :
    s.status eventId = some event.status := by
  rw [Store.status, h, Option.map_some]

/-- A statement that only reads. -/
theorem Effect.of_read {q : Process} (h : (s, q) = (s', p')) (hq : q.inFlight = none) :
    Effect s p fault s' p' := by
  rw [Prod.mk.injEq] at h
  obtain ⟨rfl, rfl⟩ := h
  exact .quiet rfl rfl hq

/-- **One statement that does not fail.** -/
theorem effect_of_perform (h : perform maxRetries s p = (s', p')) : Effect s p none s' p' := by
  cases p with
  | beginning | committing | finished => exact .of_read h rfl
  | locking eventId | readingRetryCount eventId | readingEvent eventId =>
      rw [perform] at h
      cases hevent : s.events eventId with
      | none =>
          rw [hevent] at h
          exact .of_read h rfl
      | some =>
          rw [hevent] at h
          dsimp only at h
          split at h
          · exact .of_read h rfl
          · exact .of_read h rfl
  | marking eventId =>
      rw [perform] at h
      by_cases hany : ((s.events eventId).any fun row => decide (row.status = .pending)) = true
      · rw [if_pos hany, Prod.mk.injEq] at h
        obtain ⟨rfl, rfl⟩ := h
        obtain ⟨row, hrow, hpending⟩ := (Option.any_eq_true _ _).mp hany
        rw [decide_eq_true_eq] at hpending
        have hstatus := status_of_events hrow
        rw [hpending] at hstatus
        refine .marked eventId hstatus ?_ rfl rfl
        rw [status_update .processing fun _ => rfl, hstatus, Option.map_some]
      · rw [if_neg hany] at h
        exact .of_read h rfl
  | dispatching eventId event =>
      rw [perform, Prod.mk.injEq] at h
      obtain ⟨rfl, rfl⟩ := h
      exact .called eventId event rfl rfl rfl (.inl rfl)
  | delivering eventId =>
      rw [perform, Prod.mk.injEq] at h
      obtain ⟨rfl, rfl⟩ := h
      exact .delivered eventId rfl (status_update _ fun _ => rfl) rfl rfl
  | scheduling eventId | redriving _ eventId | retrying eventId =>
      rw [perform, Prod.mk.injEq] at h
      obtain ⟨rfl, rfl⟩ := h
      exact .reopened eventId (fun _ _ hfinds => hfinds rfl) (status_update _ fun _ => rfl) rfl rfl
  | deadLettering eventId =>
      rw [perform] at h
      cases hevent : s.events eventId with
      | none =>
          rw [hevent] at h
          exact .of_read h rfl
      | some =>
          rw [hevent, Prod.mk.injEq] at h
          obtain ⟨rfl, rfl⟩ := h
          exact .deadLettered eventId (fun _ _ hfinds => hfinds rfl) status_moveToDeadLetter
            dispatched_moveToDeadLetter rfl
  | readingDeadLetter =>
      rw [perform] at h
      split at h
      · exact .of_read h rfl
      · exact .of_read h rfl

/-- One statement that fails. -/
theorem effect_of_fault (h : execute maxRetries s p (some error) = (s', p')) :
    Effect s p (some error) s' p' := by
  rw [execute, Prod.mk.injEq] at h
  obtain ⟨rfl, rfl⟩ := h
  cases p with
  | dispatching eventId event => exact .called eventId event rfl rfl rfl (.inr inFlight_caught)
  | _ => exact .quiet rfl rfl inFlight_caught

variable (p maxRetries) in
theorem nextId_perform : (perform maxRetries s p).1.nextId = s.nextId := by
  cases p with
  | locking | readingEvent =>
      rw [perform]
      split
      · rfl
      · split <;> rfl
  | marking | readingDeadLetter =>
      rw [perform]
      split <;> rfl
  | readingRetryCount =>
      rw [perform]
      split
      · rfl
      · dsimp only
        split <;> rfl
  | deadLettering =>
      rw [perform]
      split
      · rfl
      · unfold Store.moveToDeadLetter
        dsimp only
        split <;> rfl
  | _ => rfl

theorem effect_of_execute (h : execute maxRetries s p fault = (s', p')) :
    Effect s p fault s' p' ∧ s'.nextId = s.nextId := by
  cases fault with
  | none =>
      rw [execute] at h
      refine ⟨effect_of_perform h, ?_⟩
      have hnext : (perform maxRetries s p).1.nextId = s.nextId := nextId_perform p maxRetries
      rw [h] at hnext
      exact hnext
  | some =>
      refine ⟨effect_of_fault h, ?_⟩
      rw [execute, Prod.mk.injEq] at h
      rw [← h.1]
      cases p <;> rfl

end Statements

/-! ## Runs keep delivered events -/

/-- The event that a process of the world has in flight. -/
def World.inFlight (w : World) (process : ℕ) : Option ℕ := w.processes[process]?.bind Process.inFlight

/-- What holds in every world: an event in flight is in flight once, and is neither pending nor
delivered. -/
structure Consistent (w : World) : Prop where
  fresh : ∀ e, w.store.nextId ≤ e → w.store.status e = none
  claimed : ∀ i e, w.inFlight i = some e →
    ∃ status, w.store.status e = some status ∧ status ≠ .pending ∧ status ≠ .delivered
  once : ∀ i j e, w.inFlight i = some e → w.inFlight j = some e → i = j

section Runs

variable {w w' : World} {i j e : ℕ} {p p' : Process} {maxRetries : ℕ} {op : Op} {s' : Store}
  {fault : Option String}

theorem inFlight_start (hp : p.inFlight = none) : (w.start p).inFlight i = w.inFlight i := by
  rw [World.inFlight, World.start, World.inFlight]
  dsimp only
  rcases Nat.lt_trichotomy i w.processes.length with hlt | heq | hgt
  · rw [List.getElem?_append_left hlt]
  · rw [heq, List.getElem?_concat_length, List.getElem?_eq_none (Nat.le_refl _), Option.bind_some, hp,
      Option.bind_none]
  · rw [List.getElem?_eq_none (by rw [List.length_append, List.length_singleton]; exact hgt),
      List.getElem?_eq_none (Nat.le_of_lt hgt)]

/-- A process goes on, and no other. -/
theorem inFlight_set (hp : w.processes[i]? = some p) :
    World.inFlight { store := s', processes := w.processes.set i p' } j =
      if j = i then p'.inFlight else w.inFlight j := by
  rw [World.inFlight, World.inFlight]
  dsimp only
  by_cases hj : j = i
  · subst hj
    rw [if_pos rfl, List.getElem?_set_self (List.getElem?_eq_some_iff.mp hp).1, Option.bind_some]
  · rw [if_neg hj, List.getElem?_set_ne (Ne.symm hj)]

theorem unclaimed_iff : w.Unclaimed e ↔ ∀ i, w.inFlight i ≠ some e := by
  constructor
  · intro h i hi
    obtain ⟨p, hp, hflight⟩ := Option.bind_eq_some_iff.mp hi
    exact h p (List.mem_of_getElem? hp) hflight
  · intro h p hp hflight
    obtain ⟨i, hi⟩ := List.mem_iff_getElem?.mp hp
    exact h i (by rw [World.inFlight, hi, Option.bind_some, hflight])

/-- What a step has to show: an event that is in flight after it was so before, and has its status or
is among the dead letters, or it has just been marked by a process and was in no other's hands. -/
theorem Consistent.of_inFlight (h : Consistent w)
    (hfresh : ∀ e, w'.store.nextId ≤ e → w'.store.status e = none)
    (hinFlight : ∀ j e, w'.inFlight j = some e →
      (w.inFlight j = some e ∧
        (w'.store.status e = w.store.status e ∨ w'.store.status e = some .dead_letter)) ∨
      (j = i ∧ w.Unclaimed e ∧ w'.store.status e = some .processing)) : Consistent w' := by
  refine ⟨hfresh, ?_, ?_⟩
  · intro j e hj
    rcases hinFlight j e hj with ⟨hbefore, hsame | hdead⟩ | ⟨-, -, hprocessing⟩
    · rw [hsame]
      exact h.claimed j e hbefore
    · exact ⟨.dead_letter, hdead, by decide, by decide⟩
    · exact ⟨.processing, hprocessing, by decide, by decide⟩
  · intro j k e hj hk
    rcases hinFlight j e hj with ⟨hbefore, -⟩ | ⟨rfl, hunclaimed, -⟩
    · rcases hinFlight k e hk with ⟨hbefore', -⟩ | ⟨rfl, hunclaimed, -⟩
      · exact h.once j k e hbefore hbefore'
      · exact absurd hbefore (unclaimed_iff.mp hunclaimed j)
    · rcases hinFlight k e hk with ⟨hbefore', -⟩ | ⟨rfl, -, -⟩
      · exact absurd hbefore' (unclaimed_iff.mp hunclaimed k)
      · rfl

theorem Consistent.fresh_update (h : Consistent w) {status : Status}
    (hstatus : s'.status = Function.update w.store.status i ((w.store.status i).map fun _ => status))
    (he : w.store.nextId ≤ e) : s'.status e = none := by
  rw [hstatus]
  by_cases hi : e = i
  · subst hi
    rw [Function.update_self, h.fresh e he, Option.map_none]
  · rw [Function.update_of_ne hi]
    exact h.fresh e he

/-- **One statement keeps the invariant.** -/
theorem Consistent.advance (h : Consistent w) (hp : w.processes[i]? = some p)
    (hfinds : fault = none → p.Finds w) (heffect : Effect w.store p fault s' p') (hnext : s'.nextId = w.store.nextId) :
    Consistent { store := s', processes := w.processes.set i p' } := by
  have hbefore : w.inFlight i = p.inFlight := by rw [World.inFlight, hp, Option.bind_some]
  -- A process that holds nothing after its statement leaves what the others hold.
  have hothers : p'.inFlight = none → ∀ j e,
      World.inFlight { store := s', processes := w.processes.set i p' } j = some e →
        j ≠ i ∧ w.inFlight j = some e := by
    intro hafter j e hj
    rw [inFlight_set hp] at hj
    by_cases hji : j = i
    · rw [if_pos hji, hafter] at hj
      cases hj
    · rw [if_neg hji] at hj
      exact ⟨hji, hj⟩
  cases heffect with
  | quiet hstatus _ hafter =>
      apply h.of_inFlight (i := i)
      · intro e he
        rw [hnext] at he
        rw [hstatus]
        exact h.fresh e he
      · intro j e hj
        rw [hstatus]
        exact .inl ⟨(hothers hafter j e hj).2, .inl rfl⟩
  | marked eventId hpending hstatus _ hafter =>
      have hunclaimed : w.Unclaimed eventId := by
        rw [unclaimed_iff]
        intro k hk
        obtain ⟨status, hsome, hne, -⟩ := h.claimed k eventId hk
        rw [hpending, Option.some.injEq] at hsome
        exact hne hsome.symm
      apply h.of_inFlight (i := i)
      · intro e he
        have hne : e ≠ eventId := by
          rintro rfl
          rw [h.fresh e (hnext ▸ he)] at hpending
          cases hpending
        rw [hstatus, Function.update_of_ne hne]
        exact h.fresh e (hnext ▸ he)
      · intro j e hj
        rw [inFlight_set hp] at hj
        by_cases hji : j = i
        · rw [if_pos hji, hafter, Option.some.injEq] at hj
          subst hj
          rw [hstatus, Function.update_self]
          exact .inr ⟨hji, hunclaimed, rfl⟩
        · rw [if_neg hji] at hj
          have hne : e ≠ eventId := by
            rintro rfl
            exact unclaimed_iff.mp hunclaimed j hj
          rw [hstatus, Function.update_of_ne hne]
          exact .inl ⟨hj, .inl rfl⟩
  | called _ _ hcalled hstatus _ hafter =>
      apply h.of_inFlight (i := i)
      · intro e he
        rw [hnext] at he
        rw [hstatus]
        exact h.fresh e he
      · intro j e hj
        rw [hstatus]
        refine .inl ⟨?_, .inl rfl⟩
        rcases hafter with hafter | hafter
        · rw [inFlight_set hp] at hj
          by_cases hji : j = i
          · rw [if_pos hji, hafter, ← hcalled, ← hbefore] at hj
            rw [hji]
            exact hj
          · rw [if_neg hji] at hj
            exact hj
        · exact (hothers hafter j e hj).2
  | delivered eventId hheld hstatus _ hafter =>
      apply h.of_inFlight (i := i)
      · exact fun e he => h.fresh_update hstatus (hnext ▸ he)
      · intro j e hj
        obtain ⟨hji, hj⟩ := hothers hafter j e hj
        have hne : e ≠ eventId := by
          rintro rfl
          exact hji (h.once j i e hj (hbefore.trans hheld))
        rw [hstatus, Function.update_of_ne hne]
        exact .inl ⟨hj, .inl rfl⟩
  | reopened eventId hopen hstatus _ hafter =>
      apply h.of_inFlight (i := i)
      · exact fun e he => h.fresh_update hstatus (hnext ▸ he)
      · intro j e hj
        obtain ⟨hji, hj⟩ := hothers hafter j e hj
        have hne : e ≠ eventId := by
          rintro rfl
          exact unclaimed_iff.mp (hopen w rfl hfinds).2 j hj
        rw [hstatus, Function.update_of_ne hne]
        exact .inl ⟨hj, .inl rfl⟩
  | deadLettered eventId _ hstatus _ hafter =>
      apply h.of_inFlight (i := i)
      · exact fun e he => h.fresh_update hstatus (hnext ▸ he)
      · intro j e hj
        obtain ⟨hji, hj⟩ := hothers hafter j e hj
        refine .inl ⟨hj, ?_⟩
        by_cases he : e = eventId
        · subst he
          obtain ⟨status, hsome, -⟩ := h.claimed j e hj
          rw [hstatus, Function.update_self, hsome, Option.map_some]
          exact .inr rfl
        · rw [hstatus, Function.update_of_ne he]
          exact .inl rfl

theorem status_publish {event : OutboxEvent} {s : Store} :
    (s.publish event).status = Function.update s.status s.nextId (some .pending) := by
  funext e
  by_cases he : e = s.nextId
  · rw [he, Function.update_self, Store.status, Store.publish]
    dsimp only
    rw [Function.update_self, Option.map_some]
  · rw [Function.update_of_ne he, Store.status, Store.publish]
    dsimp only
    rw [Function.update_of_ne he, Store.status]

theorem Consistent.publish (h : Consistent w) (event : OutboxEvent) :
    Consistent { w with store := w.store.publish event } := by
  apply h.of_inFlight (i := 0)
  · intro e he
    rw [status_publish, Function.update_of_ne (Nat.ne_of_gt he)]
    exact h.fresh e (Nat.le_of_lt he)
  · intro j e hj
    refine .inl ⟨hj, .inl ?_⟩
    obtain ⟨status, hsome, -⟩ := h.claimed j e hj
    have hne : e ≠ w.store.nextId := by
      rintro rfl
      rw [h.fresh _ (Nat.le_refl _)] at hsome
      cases hsome
    rw [status_publish, Function.update_of_ne hne]

theorem Consistent.start (h : Consistent w) (hp : p.inFlight = none) : Consistent (w.start p) :=
  h.of_inFlight (i := 0) h.fresh fun j e hj => .inl ⟨by rwa [inFlight_start hp] at hj, .inl rfl⟩

theorem finds_of_writesOpen {fault : Option String} (h : WritesOpen w (.advance i fault))
    (hp : w.processes[i]? = some p) (hfault : fault = none) : p.Finds w := by
  subst hfault
  exact h p (Option.mem_def.mpr hp)

theorem Consistent.step (h : Consistent w) (hop : WritesOpen w op) :
    Consistent (Outbox.step maxRetries w op) := by
  cases op with
  | publish event => exact h.publish event
  | releaseDeadLetter => exact ⟨h.fresh, h.claimed, h.once⟩
  | processDispatchJob | redriveDeadLetter | retryEvent => exact h.start rfl
  | advance process fault =>
      rw [Outbox.step]
      cases hp : w.processes[process]? with
      | none => exact h
      | some p =>
          obtain ⟨heffect, hnext⟩ :
              Effect w.store p fault (execute maxRetries w.store p fault).1
                (execute maxRetries w.store p fault).2 ∧
              (execute maxRetries w.store p fault).1.nextId = w.store.nextId := effect_of_execute rfl
          exact h.advance hp (finds_of_writesOpen hop hp) heffect hnext

end Runs

/-- An alert for one webhook. -/
def alert : OutboxEvent where
  aggregateType := "Alert"
  aggregateId := "7d5c"
  eventType := "webhook.delivery"
  payload := "\x7b\x7d"
  metadata := "\x7b\x7d"

/-- A worker takes its next statements. -/
def advances (process count : ℕ) : List Op := List.replicate count (.advance process none)

end BridgeWatch.Outbox

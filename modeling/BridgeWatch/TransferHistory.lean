/-
The transition history of a transfer, as an audit trail.

What one transition does is shown first, then what a call does, and the runs come last. A history is
bounded by a panic in the middle of `apply_transition`, so a call that would exceed the bound leaves
nothing behind, and a rollback adds both of its entries or none.
-/
import Mathlib.Data.List.Pairwise
import BridgeWatch.TransferStateMachine

set_option autoImplicit false

namespace BridgeWatch.TransferStateMachine

open Transaction
open Contract (U32 U64 I128 SString Address Env len str)

/-! ## Audit trails -/

/-- The entries lead from the first state to the last, each from where the one before it has led. -/
def Leads : TransferState → List StateTransitionLog → TransferState → Prop
  | first, [], last => first = last
  | first, entry :: rest, last => entry.from_state = first ∧ Leads entry.to_state rest last

/-- The transition is one that the table or an override permits. -/
def Permitted (t : BridgeTransfer) (from_state to_state : TransferState) : Prop :=
  transition_allowed t from_state to_state = true ∨ admin_override_allowed from_state to_state = true

/-- The history of a transfer that has come to its state step by step. -/
structure AuditTrail (t : BridgeTransfer) (hist : List StateTransitionLog) : Prop where
  leads : Leads .Initiated hist t.state
  permitted : ∀ entry ∈ hist, Permitted t entry.from_state entry.to_state
  bounded : hist.length ≤ MAX_HISTORY_PER_TRANSFER.toNat
  final : ∀ entry ∈ hist, is_final entry.to_state = true → is_final t.state = true

section Trails

variable {env : Env} {s : MachineStorage} {t t' : BridgeTransfer} {hist hist' : List StateTransitionLog}
variable {first last next : TransferState} {actor : Address} {note : SString}

theorem Leads.concat (h : Leads first hist last) {entry : StateTransitionLog}
    (hentry : entry.from_state = last) : Leads first (hist ++ [entry]) entry.to_state := by
  induction hist generalizing first with
  | nil =>
      rw [List.nil_append]
      rw [Leads] at h
      exact ⟨hentry.trans h.symm, rfl⟩
  | cons _ _ ih =>
      rw [List.cons_append]
      exact ⟨h.1, ih h.2⟩

/-- Whether a transition is permitted is a question of the mode alone: the transitions that ask for
a flag are those that an override permits as well. -/
theorem Permitted.of_mode (hmode : t'.mode = t.mode) (h : Permitted t first next) :
    Permitted t' first next := by
  rcases h with hallowed | hoverride
  · unfold transition_allowed at hallowed
    split at hallowed
    · cases hallowed
    · split at hallowed
      all_goals first
        | exact .inl rfl
        | exact .inr rfl
        | exact .inl (show decide (t'.mode = .FastTrack) = true by rw [hmode]; exact hallowed)
        | cases hallowed
  · exact .inr hoverride

theorem AuditTrail.nil (h : t.state = .Initiated) : AuditTrail t [] where
  leads := h.symm
  permitted _ hmem := absurd hmem List.not_mem_nil
  bounded := Nat.zero_le _
  final _ hmem := absurd hmem List.not_mem_nil

/-- A record whose state and mode are those of before. -/
theorem AuditTrail.congr (h : AuditTrail t hist) (hstate : t'.state = t.state) (hmode : t'.mode = t.mode) :
    AuditTrail t' hist where
  leads := hstate ▸ h.leads
  permitted entry hmem := (h.permitted entry hmem).of_mode hmode
  bounded := h.bounded
  final entry hmem hfinal := hstate ▸ h.final entry hmem hfinal

/-- **One transition.** A permitted one, out of a state that is not final, prolongs the trail. -/
theorem AuditTrail.moved (h : AuditTrail t hist) (hpermitted : Permitted t t.state next)
    (hopen : is_final t.state = false) (hmoved : Moved env actor note next t hist t' hist') :
    AuditTrail t' hist' := by
  have hstate := hmoved.state_eq
  have hmode := hmoved.mode_eq
  rw [hmoved.history]
  constructor
  · rw [hstate]
    exact h.leads.concat rfl
  · intro entry hmem
    rcases List.mem_append.mp hmem with hold | hnew
    · exact (h.permitted entry hold).of_mode hmode
    · rw [List.mem_singleton.mp hnew]
      exact hpermitted.of_mode hmode
  · -- The length is compared as a `u32`, which it fits.
    have hroom := UInt32.lt_iff_toNat_lt.mp hmoved.room
    have hlen : (len hist).toNat = hist.length := by
      rw [len, UInt32.toNat_ofNat', Nat.mod_eq_of_lt]
      exact h.bounded.trans_lt (by decide)
    rw [List.length_append, List.length_singleton]
    omega
  · intro entry hmem hfinal
    rcases List.mem_append.mp hmem with hold | hnew
    · have hclosed := h.final entry hold hfinal
      rw [hopen] at hclosed
      cases hclosed
    · rw [List.mem_singleton.mp hnew] at hfinal
      rw [hstate]
      exact hfinal

end Trails

/-! ## Calls -/

section Calls

variable {env : Env} {s s' : MachineStorage} {t t' : BridgeTransfer} {hist hist' : List StateTransitionLog}
variable {call : EntryPoint}

/-- The table has no edge out of a final state. -/
theorem transition_allowed_of_final {from_state to_state : TransferState}
    (h : is_final from_state = true) : transition_allowed t from_state to_state = false := by
  unfold is_final at h
  split at h
  · cases to_state <;> rfl
  · cases to_state <;> rfl
  · cases to_state <;> rfl
  · cases h

theorem not_final_of_allowed {next : TransferState} (h : transition_allowed t t.state next = true) :
    is_final t.state = false := by
  rw [← Bool.not_eq_true]
  intro hfinal
  rw [transition_allowed_of_final hfinal] at h
  cases h

/-- A transfer that can be rolled back can enter `RollingBack`. -/
theorem allowed_of_can_rollback_from (h : can_rollback_from t.state = true) :
    transition_allowed t t.state .RollingBack = true := by
  unfold can_rollback_from at h
  split at h
  all_goals
    rename_i hstate
    first
    | rw [hstate]; rfl
    | cases h

/-- **One call.** -/
theorem Effect.trail (h : Effect env s t hist call t' hist') (htrail : AuditTrail t hist) :
    AuditTrail t' hist' := by
  cases h with
  | nothing => exact htrail
  | advance _ hallowed _ _ _ hmoved | timeout _ hallowed hmoved =>
      exact htrail.moved (.inl hallowed) (not_final_of_allowed hallowed) hmoved
  | @rollback _ _ t₁ _ _ _ hback hmoved hmoved' =>
      have hallowed := allowed_of_can_rollback_from hback
      have hbetween := htrail.moved (.inl hallowed) (not_final_of_allowed hallowed) hmoved
      have hstate : t₁.state = .RollingBack := hmoved.state_eq
      have hallowed' : transition_allowed t₁ t₁.state .RolledBack = true := by
        rw [hstate]
        rfl
      exact hbetween.moved (.inl hallowed') (not_final_of_allowed hallowed') hmoved'
  | override _ _ hfinal hallowed hmoved => exact htrail.moved (.inr hallowed) hfinal hmoved
  | verification | oracle => exact htrail.congr rfl rfl
  | auto _ hallowed hmoved => exact htrail.moved (.inl hallowed) (not_final_of_allowed hallowed) hmoved

/-- No call touches a transfer in a final state. -/
theorem Effect.frozen (h : Effect env s t hist call t' hist') (hfinal : is_final t.state = true) :
    t' = t ∧ hist' = hist := by
  have hclosed : ∀ next, ¬transition_allowed t t.state next = true := by
    intro next hallowed
    rw [not_final_of_allowed hallowed] at hfinal
    cases hfinal
  cases h with
  | nothing => exact ⟨rfl, rfl⟩
  | advance _ hallowed | timeout _ hallowed | auto _ hallowed => exact absurd hallowed (hclosed _)
  | rollback hback => exact absurd (allowed_of_can_rollback_from hback) (hclosed _)
  | override _ _ hopen =>
      rw [hopen] at hfinal
      cases hfinal
  | verification _ _ hstate | oracle _ _ hstate =>
      rw [hstate] at hfinal
      cases hfinal

/-- What a call adds to a history has the time of the call. -/
theorem Effect.times (h : Effect env s t hist call t' hist') :
    ∃ added, hist' = hist ++ added ∧ ∀ entry ∈ added, entry.timestamp = env.timestamp := by
  have hunchanged : ∃ added, hist = hist ++ added ∧
      ∀ entry ∈ added, entry.timestamp = env.timestamp :=
    ⟨[], (List.append_nil hist).symm, fun _ hmem => absurd hmem List.not_mem_nil⟩
  have hone : ∀ {t₀ t₁ : BridgeTransfer} {hist₀ hist₁ actor note next},
      Moved env actor note next t₀ hist₀ t₁ hist₁ →
        ∃ added, hist₁ = hist₀ ++ added ∧ ∀ entry ∈ added, entry.timestamp = env.timestamp := by
    intro t₀ t₁ hist₀ hist₁ actor note next hmoved
    refine ⟨_, hmoved.history, ?_⟩
    intro entry hmem
    rw [List.mem_singleton.mp hmem]
  cases h with
  | nothing | verification | oracle => exact hunchanged
  | advance _ _ _ _ _ hmoved | timeout _ _ hmoved | override _ _ _ _ hmoved | auto _ _ hmoved => exact hone hmoved
  | rollback _ hmoved hmoved' =>
      obtain ⟨added, rfl, htimes⟩ := hone hmoved
      obtain ⟨added', rfl, htimes'⟩ := hone hmoved'
      refine ⟨added ++ added', List.append_assoc .., ?_⟩
      intro entry hmem
      rcases List.mem_append.mp hmem with hleft | hright
      · exact htimes entry hleft
      · exact htimes' entry hright

end Calls

/-! ## Runs -/

section Runs

variable {calls : List (Env × EntryPoint)} {id : U64} {t : BridgeTransfer} {hist : List StateTransitionLog}

/-- A property of the record and the history of every transfer, which a new transfer has and which
every call keeps, holds after every run. -/
theorem trail_invariant {I : List (Env × EntryPoint) → BridgeTransfer → List StateTransitionLog → Prop}
    (hnew : ∀ calls t, t.state = .Initiated → t.verification_ok = false → t.oracle_ok = false →
      I calls t [])
    (hstep : ∀ calls call t hist t' hist', run empty_storage calls (.Transfer t.id) = some t →
      Effect call.1 (run empty_storage calls) t hist call.2 t' hist' → I calls t hist →
        I (calls ++ [call]) t' hist')
    (hskip : ∀ calls call t hist, run empty_storage (calls ++ [call]) = run empty_storage calls →
      I calls t hist → I (calls ++ [call]) t hist)
    (ht : run empty_storage calls (.Transfer id) = some t)
    (hhist : run empty_storage calls (.History id) = some hist) : I calls t hist := by
  induction calls using List.reverseRecOn generalizing t hist with
  | nil => cases ht
  | append_singleton calls call ih =>
      rcases run_concat_cases calls call with ⟨-, houtcome⟩ | hsame
      · cases hbefore : run empty_storage calls (.Transfer id) with
        | none =>
            obtain ⟨hstate, hverification, horacle, hempty⟩ := houtcome.initiated hbefore ht
            rw [hhist, Option.some.injEq] at hempty
            rw [hempty]
            exact hnew _ t hstate hverification horacle
        | some t₀ =>
            obtain ⟨hist₀, hhist₀⟩ := (registered_run calls).history id t₀ hbefore
            have hid := (registered_run calls).id_eq id t₀ hbefore
            obtain ⟨t', hist', ht', hhist', heffect⟩ := houtcome.effect hbefore hhist₀
            rw [ht, Option.some.injEq] at ht'
            rw [hhist, Option.some.injEq] at hhist'
            rw [ht', hhist']
            exact hstep calls call t₀ hist₀ t' hist' (hid ▸ hbefore) heffect (ih hbefore hhist₀)
      · rw [hsame] at ht hhist
        exact hskip calls call t hist hsame (ih ht hhist)

theorem audit_trail (ht : run empty_storage calls (.Transfer id) = some t)
    (hhist : run empty_storage calls (.History id) = some hist) : AuditTrail t hist :=
  trail_invariant (I := fun _ => AuditTrail) (fun _ _ hstate _ _ => AuditTrail.nil hstate)
    (fun _ _ _ _ _ _ _ heffect htrail => heffect.trail htrail) (fun _ _ _ _ _ htrail => htrail) ht hhist

/-- Every entry has the time of a call, and the entries are in the order of the calls. -/
theorem times_ordered (htimes : (calls.map fun call => call.1.timestamp).Pairwise (· ≤ ·))
    (ht : run empty_storage calls (.Transfer id) = some t)
    (hhist : run empty_storage calls (.History id) = some hist) :
    (hist.map StateTransitionLog.timestamp).Pairwise (· ≤ ·) := by
  have hinvariant : (calls.map fun call => call.1.timestamp).Pairwise (· ≤ ·) →
      (hist.map StateTransitionLog.timestamp).Pairwise (· ≤ ·) ∧
        ∀ entry ∈ hist, entry.timestamp ∈ calls.map fun call => call.1.timestamp := by
    apply trail_invariant (I := fun calls _ hist =>
      (calls.map fun call => call.1.timestamp).Pairwise (· ≤ ·) →
        (hist.map StateTransitionLog.timestamp).Pairwise (· ≤ ·) ∧
          ∀ entry ∈ hist, entry.timestamp ∈ calls.map fun call => call.1.timestamp) _ _ _ ht hhist
    · intro calls t _ _ _ _
      exact ⟨List.Pairwise.nil, fun _ hmem => absurd hmem List.not_mem_nil⟩
    · intro calls call t hist t' hist' _ heffect ih hordered
      rw [List.map_append, List.map_singleton, List.pairwise_append] at hordered
      obtain ⟨hsorted, hmem⟩ := ih hordered.1
      obtain ⟨added, rfl, hadded⟩ := heffect.times
      have hsame : added.map StateTransitionLog.timestamp =
          List.replicate added.length call.1.timestamp := by
        rw [List.eq_replicate_iff]
        refine ⟨List.length_map _, ?_⟩
        intro time htime
        obtain ⟨entry, hentry, rfl⟩ := List.mem_map.mp htime
        exact hadded entry hentry
      constructor
      · rw [List.map_append, hsame, List.pairwise_append]
        refine ⟨hsorted, List.pairwise_replicate.mpr (.inr (UInt64.le_refl _)), ?_⟩
        intro time htime time' htime'
        obtain ⟨entry, hentry, rfl⟩ := List.mem_map.mp htime
        rw [List.eq_of_mem_replicate htime']
        exact hordered.2.2 _ (hmem entry hentry) _ (List.mem_singleton_self _)
      · intro entry hentry
        rw [List.map_append, List.map_singleton, List.mem_append, List.mem_singleton]
        rcases List.mem_append.mp hentry with hold | hnew
        · exact .inl (hmem entry hold)
        · exact .inr (hadded entry hnew)
    · intro calls call t hist _ ih hordered
      rw [List.map_append, List.pairwise_append] at hordered
      obtain ⟨hsorted, hmem⟩ := ih hordered.1
      refine ⟨hsorted, fun entry hentry => ?_⟩
      rw [List.map_append]
      exact List.mem_append_left _ (hmem entry hentry)
  exact (hinvariant htimes).1

/-- Nothing happens any more to a transfer in a final state. -/
theorem frozen_run (ht : run empty_storage calls (.Transfer id) = some t)
    (hhist : run empty_storage calls (.History id) = some hist) (hfinal : is_final t.state = true)
    (later : List (Env × EntryPoint)) :
    run empty_storage (calls ++ later) (.Transfer id) = some t ∧
      run empty_storage (calls ++ later) (.History id) = some hist := by
  induction later using List.reverseRecOn with
  | nil =>
      rw [List.append_nil]
      exact ⟨ht, hhist⟩
  | append_singleton later call ih =>
      rw [← List.append_assoc]
      rcases run_concat_cases (calls ++ later) call with ⟨-, houtcome⟩ | hsame
      · obtain ⟨t', hist', ht', hhist', heffect⟩ := houtcome.effect ih.1 ih.2
        obtain ⟨rfl, rfl⟩ := heffect.frozen hfinal
        exact ⟨ht', hhist'⟩
      · rw [hsame]
        exact ih

/-- **The history of a transfer is a faithful audit trail.** After every run, it leads from
`Initiated` to the state of the transfer, along permitted transitions, with at most 48 entries and,
where the time of the calls does not decrease, in the order of time. Once it has led to a final state,
neither the history nor the record changes again. -/
theorem history_faithful (calls : List (Env × EntryPoint)) (id : U64) (t : BridgeTransfer)
    (ht : run empty_storage calls (.Transfer id) = some t) :
    ∃ hist, run empty_storage calls (.History id) = some hist ∧
      Leads .Initiated hist t.state ∧
      (∀ entry ∈ hist, transition_allowed t entry.from_state entry.to_state = true ∨
        admin_override_allowed entry.from_state entry.to_state = true) ∧
      ((calls.map fun call => call.1.timestamp).Pairwise (· ≤ ·) →
        (hist.map StateTransitionLog.timestamp).Pairwise (· ≤ ·)) ∧
      hist.length ≤ 48 ∧
      ((∃ entry ∈ hist, entry.to_state = .Completed ∨ entry.to_state = .Failed ∨
          entry.to_state = .RolledBack) →
        ∀ later, run empty_storage (calls ++ later) (.Transfer id) = some t ∧
          run empty_storage (calls ++ later) (.History id) = some hist) := by
  obtain ⟨hist, hhist⟩ := (registered_run calls).history id t ht
  have htrail := audit_trail ht hhist
  refine ⟨hist, hhist, htrail.leads, htrail.permitted, ?_, htrail.bounded, ?_⟩
  · intro htimes
    exact times_ordered htimes ht hhist
  · rintro ⟨entry, hmem, hstate⟩ later
    apply frozen_run ht hhist
    apply htrail.final entry hmem
    rcases hstate with hstate | hstate | hstate
    · rw [hstate]; rfl
    · rw [hstate]; rfl
    · rw [hstate]; rfl

/-- A transfer that has failed stays as it is. -/
theorem history_faithful_failed :
    ∃ hist, run empty_storage (opening ++ [(signed_at 2000, .advance_state (party 9) 1 .Failed)])
        (.History 1) = some hist ∧
      ∀ later, run empty_storage
        ((opening ++ [(signed_at 2000, .advance_state (party 9) 1 .Failed)]) ++ later) (.History 1) =
          some hist := by
  obtain ⟨hist, hhist, -, -, -, -, hfrozen⟩ := history_faithful
    (opening ++ [(signed_at 2000, .advance_state (party 9) 1 .Failed)]) 1
    { opened with state := .Failed, updated_at := 2000 } (by decide +kernel)
  have hlogged : run empty_storage (opening ++ [(signed_at 2000, .advance_state (party 9) 1 .Failed)])
      (.History 1) = some [⟨.Initiated, .Failed, 2000, party 9, []⟩] := by
    decide +kernel
  refine ⟨hist, hhist, fun later => (hfrozen ?_ later).2⟩
  rw [hhist, Option.some.injEq] at hlogged
  rw [hlogged]
  exact ⟨_, List.mem_singleton_self _, .inr (.inl rfl)⟩

end Runs

end BridgeWatch.TransferStateMachine

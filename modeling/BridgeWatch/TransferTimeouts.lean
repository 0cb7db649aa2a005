/-
When a transfer times out.

`TimedOut` stands for a transfer that is "stuck beyond configured deadline without progress", and
`handle_timeout` refuses to record a timeout before the deadline. `advance_state` reaches the same
state through the shared table without that check: the initiator and the admin can time a transfer
out at any moment.
-/
import BridgeWatch.TransferStateMachine

set_option autoImplicit false

namespace BridgeWatch.TransferStateMachine

open Transaction
open Contract (U32 U64 I128 SString Address Env len str)

section Timeouts

variable {env : Env} {s s' : MachineStorage} {t t' : BridgeTransfer} {caller : Address} {id : U64}
variable {hist hist' : List StateTransitionLog} {call : EntryPoint}

/-- The initiator or the admin asks `advance_state` for `TimedOut`, the transfer can go there, its
history has room, and its deadline has not passed. -/
def Premature (env : Env) (s : MachineStorage) (call : EntryPoint) : Prop :=
  ∃ caller id t hist, call = .advance_state caller id .TimedOut ∧ s (.Transfer id) = some t ∧
    s (.History id) = some hist ∧ env.auth caller = true ∧
    (caller = t.initiator ∨ s .Admin = some caller) ∧
    transition_allowed t t.state .TimedOut = true ∧ len hist < MAX_HISTORY_PER_TRANSFER ∧
    env.timestamp ≤ t.state_deadline

/-- On the edges to `TimedOut` only the initiator and the admin are let through. -/
theorem advance_refusal_timed_out {escrow : Address} {admin_ok initiator_ok : Bool}
    {from_state : TransferState} :
    advance_refusal caller escrow t admin_ok initiator_ok from_state .TimedOut = none ↔
      initiator_ok = true ∨ admin_ok = true := by
  have hrefusal : advance_refusal caller escrow t admin_ok initiator_ok from_state .TimedOut =
      if initiator_ok = false ∧ admin_ok = false then some "initiator or admin only" else none := by
    cases from_state <;> rfl
  rw [hrefusal, ite_eq_right_iff]
  by_cases hinitiator : initiator_ok = true
  · simp [hinitiator]
  · by_cases hadmin : admin_ok = true
    · simp [hadmin]
    · simp [hinitiator, hadmin]

/-- A transition to a terminal state needs room in the history and nothing else. -/
theorem apply_transition_terminal {actor : Address} {next : TransferState} {note : SString}
    (hterminal : is_terminal next = true) (hhist : s (.History t.id) = some hist)
    (hroom : len hist < MAX_HISTORY_PER_TRANSFER) :
    apply_transition t actor t.state next note env s =
      .ok ({ t with state := next, updated_at := env.timestamp },
        put s t.id { t with state := next, updated_at := env.timestamp }
          (hist ++ [⟨t.state, next, env.timestamp, actor, note⟩])) := by
  rw [apply_transition]
  simp only [bind_eq_ok, reads_eq_ok, load_eq_ok, save_eq_ok, panic_if_eq_ok, pure_eq_ok,
    deadline_in_terminal hterminal, and_assoc, exists_and_left, exists_eq_left, exists_const]
  rw [Function.update_of_ne (by simp), hhist, Option.getD_some]
  exact ⟨UInt32.not_le.mpr hroom, trivial, rfl⟩

theorem admin_override_timed_out {from_state : TransferState} :
    admin_override_allowed from_state .TimedOut = false := by
  cases from_state <;> rfl

/-- **What the code lets through.** The transfer times out whatever the time is. -/
theorem advance_to_timed_out (h : Registered s) (ht : s (.Transfer id) = some t)
    (hhist : s (.History id) = some hist) (hauth : env.auth caller = true)
    (hcaller : caller = t.initiator ∨ s .Admin = some caller)
    (hallowed : transition_allowed t t.state .TimedOut = true)
    (hroom : len hist < MAX_HISTORY_PER_TRANSFER) :
    ∃ s', exec (.advance_state caller id .TimedOut) env s = .ok ((), s') ∧
      s' (.Transfer id) = some { t with state := .TimedOut, updated_at := env.timestamp } := by
  have hid := h.id_eq id t ht
  subst hid
  have hseq : s .TransferSeq ≠ none := by
    intro hnone
    have hfresh := h.fresh t.id fun seq hseq => by rw [hnone] at hseq; cases hseq
    rw [ht] at hfresh
    cases hfresh
  obtain ⟨hadmin, hescrow⟩ := h.wired hseq
  obtain ⟨admin, hadmin⟩ := Option.ne_none_iff_exists'.mp hadmin
  obtain ⟨escrow, hescrow⟩ := Option.ne_none_iff_exists'.mp hescrow
  have hlet : advance_refusal caller escrow t (decide (caller = admin))
      (decide (caller = t.initiator)) t.state .TimedOut = none := by
    rw [advance_refusal_timed_out, decide_eq_true_eq, decide_eq_true_eq]
    rcases hcaller with hinitiator | hsame
    · exact .inl hinitiator
    · rw [hadmin, Option.some.injEq] at hsame
      exact .inr hsame.symm
  refine ⟨put s t.id { t with state := .TimedOut, updated_at := env.timestamp }
    (hist ++ [⟨t.state, .TimedOut, env.timestamp, caller, str ""⟩]), ?_, put_transfer⟩
  simp only [exec, advance_state, bind_eq_ok, require_auth_eq_ok, known_transfer_eq_ok, panic_if_eq_ok,
    Bool.not_eq_false, assert_advance_auth_eq_ok, pure_eq_ok, and_assoc, exists_and_left,
    exists_eq_left, exists_const, true_and]
  refine ⟨hauth, t, ht, hallowed, s, ⟨escrow, hescrow, admin, hadmin, hlet, rfl⟩, _, _,
    apply_transition_terminal rfl hhist hroom, rfl⟩

/-- An effect that times a transfer out is a timeout past the deadline, or the work of
`advance_state`. -/
theorem Effect.timed_out (h : Effect env s t hist call t' hist') (hbefore : t.state ≠ .TimedOut)
    (hafter : t'.state = .TimedOut) :
    t.state_deadline < env.timestamp ∨
      ∃ caller, call = .advance_state caller t.id .TimedOut ∧ env.auth caller = true ∧
        (caller = t.initiator ∨ s .Admin = some caller) ∧
        transition_allowed t t.state .TimedOut = true ∧ len hist < MAX_HISTORY_PER_TRANSFER := by
  cases h with
  | nothing | verification | oracle => exact absurd hafter hbefore
  | @advance caller _ _ _ _ _ hauth hallowed _ hadmin hcaller hmoved =>
      rw [hmoved.state_eq] at hafter
      subst hafter
      rw [advance_refusal_timed_out, decide_eq_true_eq, decide_eq_true_eq] at hcaller
      refine .inr ⟨caller, rfl, hauth, ?_, hallowed, hmoved.room⟩
      rcases hcaller with hinitiator | hsame
      · exact .inl hinitiator
      · rw [hsame]
        exact .inr hadmin
  | timeout hlate => exact .inl hlate
  | rollback _ _ hmoved' =>
      rw [hmoved'.state_eq] at hafter
      cases hafter
  | override _ _ _ hallowed hmoved =>
      -- No override leads to `TimedOut`.
      rw [hmoved.state_eq] at hafter
      rw [hafter, admin_override_timed_out] at hallowed
      cases hallowed
  | auto hmaybe _ hmoved =>
      rw [hmoved.state_eq] at hafter
      rw [hafter] at hmaybe
      unfold maybe_next at hmaybe
      split at hmaybe
      all_goals simp at hmaybe

end Timeouts

/-- **When no timeout is premature.** In every storage that the contract can have, a call takes a
transfer to `TimedOut` only past its deadline if and only if the call is not a premature
`advance_state`. -/
theorem timed_out_late_iff (calls : List (Env × EntryPoint)) (env : Env) (call : EntryPoint) :
    (∀ id t t', run empty_storage calls (.Transfer id) = some t → t.state ≠ .TimedOut →
        run empty_storage (calls ++ [(env, call)]) (.Transfer id) = some t' → t'.state = .TimedOut →
          t.state_deadline < env.timestamp) ↔
      ¬Premature env (run empty_storage calls) call := by
  have hregistered := registered_run calls
  constructor
  · rintro hlate ⟨caller, id, t, hist, rfl, ht, hhist, hauth, hcaller, hallowed, hroom, hearly⟩
    have hstate : t.state ≠ .TimedOut := by
      intro hstate
      rw [hstate] at hallowed
      cases hallowed
    obtain ⟨s', hok, ht'⟩ := advance_to_timed_out hregistered ht hhist hauth hcaller hallowed hroom
    have hrun : run empty_storage (calls ++ [(env, .advance_state caller id .TimedOut)]) = s' := by
      rw [run, runFrom_append, runFrom_cons, runFrom_nil, step, hok]
    have hpast := hlate id t _ ht hstate (by rw [hrun, ht']) rfl
    exact absurd hearly (UInt64.not_le.mpr hpast)
  · intro hnot id t t' ht hbefore ht' hafter
    rcases run_concat_cases calls (env, call) with ⟨-, houtcome⟩ | hsame
    · obtain ⟨hist, hhist⟩ := hregistered.history id t ht
      obtain ⟨t₁, hist₁, ht₁, -, heffect⟩ := houtcome.effect ht hhist
      rw [ht', Option.some.injEq] at ht₁
      subst ht₁
      rcases heffect.timed_out hbefore hafter with hlate | ⟨caller, hcall, hauth, hcaller, hallowed, hroom⟩
      · exact hlate
      · by_contra hearly
        rw [hregistered.id_eq id t ht] at hcall
        exact hnot ⟨caller, id, t, hist, hcall, ht, hhist, hauth, hcaller, hallowed, hroom,
          UInt64.not_lt.mp hearly⟩
    · rw [hsame, ht, Option.some.injEq] at ht'
      rw [← ht'] at hafter
      exact absurd hafter hbefore

/-- The initiator times its transfer out one second after it has initiated it. -/
theorem timed_out_early :
    ¬∀ (calls : List (Env × EntryPoint)) (env : Env) (call : EntryPoint) (id : U64)
      (t t' : BridgeTransfer), run empty_storage calls (.Transfer id) = some t → t.state ≠ .TimedOut →
        run empty_storage (calls ++ [(env, call)]) (.Transfer id) = some t' → t'.state = .TimedOut →
          t.state_deadline < env.timestamp := by
  intro hlate
  have hpast := hlate opening (signed_at 1001) (.advance_state (party 9) 1 .TimedOut) 1 opened
    { opened with state := .TimedOut, updated_at := 1001 } (by decide +kernel) (by decide)
    (by decide +kernel) rfl
  exact absurd hpast (by decide)

end BridgeWatch.TransferStateMachine

/-
The attestations of a transfer.

A transfer leaves `VerificationPending` when the verifier has found it in order, and `OraclePending`
when the oracle has. The findings are flags of the record, and nothing takes them back: a transfer
that comes a second time to a state finds the flag of its first stay. So the attestation is fresh in
the runs in which no transfer enters one of the two states with its flag set.
-/
import Mathlib.Data.List.Basic
import BridgeWatch.TransferStateMachine

set_option autoImplicit false

namespace BridgeWatch.TransferStateMachine

open Transaction
open Contract (U32 U64 I128 SString Address Env len str)

/-! ## Attestations -/

/-- The two findings that a transfer waits for. -/
inductive Attestation where
  | verification
  | oracle
  deriving DecidableEq

namespace Attestation

/-- The state in which a transfer waits. -/
def pending : Attestation → TransferState
  | verification => .VerificationPending
  | oracle => .OraclePending

/-- The state that it goes to. -/
def next : Attestation → TransferState
  | verification => .OraclePending
  | oracle => .ReleasePending

/-- The finding, as the record has it. -/
def flag : Attestation → BridgeTransfer → Bool
  | verification => BridgeTransfer.verification_ok
  | oracle => BridgeTransfer.oracle_ok

/-- The contract that is configured for the finding. -/
def attester : Attestation → MachineStorage → Option Address
  | verification, s => s .VerifierContract
  | oracle, s => s .OracleContract

/-- The call that submits a finding. -/
def submission (caller : Address) (transfer_id : U64) (ok : Bool) : Attestation → EntryPoint
  | verification => .submit_verification_result caller transfer_id ok
  | oracle => .submit_oracle_result caller transfer_id ok

end Attestation

/-- The transfer is in the state. -/
def InState (s : MachineStorage) (id : U64) (state : TransferState) : Prop :=
  (s (.Transfer id)).map BridgeTransfer.state = some state
  deriving Decidable

/-- One of the calls is a positive finding of the configured contract, and from that call on the
transfer has been waiting for it without a break: it has not entered the state since. -/
def FreshlyAttested (a : Attestation) (id : U64) (calls : List (Env × EntryPoint)) : Prop :=
  ∃ n env caller, calls[n]? = some (env, a.submission caller id true) ∧
    a.attester (run empty_storage (calls.take n)) = some caller ∧ env.auth caller = true ∧
    (exec (a.submission caller id true) env (run empty_storage (calls.take n))).isOk = true ∧
    ∀ k, n ≤ k → InState (run empty_storage (calls.take k)) id a.pending

/-! ## Stale flags -/

/-- The flag for the state is set in the record. -/
def BridgeTransfer.flagged (t : BridgeTransfer) (next : TransferState) : Bool :=
  (next = .VerificationPending && t.verification_ok) || (next = .OraclePending && t.oracle_ok)

/-- The call takes a transfer into a state whose flag is set: it asks for that, its caller may, the
transition is permitted, and the history has room. -/
def stale_entry (s : MachineStorage) (call : Env × EntryPoint) : Bool :=
  match call.2 with
  | .advance_state caller id next => (s (.Transfer id)).any fun t =>
      t.flagged next && call.1.auth caller && (caller = t.initiator || s .Admin = some caller) &&
        transition_allowed t t.state next && len ((s (.History id)).getD []) < MAX_HISTORY_PER_TRANSFER
  | .admin_override_state admin id next _ => (s (.Transfer id)).any fun t =>
      t.flagged next && call.1.auth admin && s .Admin = some admin &&
        admin_override_allowed t.state next && len ((s (.History id)).getD []) < MAX_HISTORY_PER_TRANSFER
  | .try_auto_progress id => (s (.Transfer id)).any fun t =>
      (maybe_next t).any t.flagged && len ((s (.History id)).getD []) < MAX_HISTORY_PER_TRANSFER
  | _ => false

/-- No call of the run is a stale entry. -/
def NeverStale (calls : List (Env × EntryPoint)) : Prop :=
  Along exec (fun s call => stale_entry s call = false) empty_storage calls

section Fresh

variable {env : Env} {s : MachineStorage} {t t' : BridgeTransfer} {hist hist' : List StateTransitionLog}
variable {a : Attestation} {id : U64} {calls : List (Env × EntryPoint)} {call : Env × EntryPoint}

theorem inState_of (ht : s (.Transfer id) = some t) {state : TransferState} (h : t.state = state) :
    InState s id state := by
  rw [InState, ht, Option.map_some, h]

/-- An attestation stays fresh as long as the transfer stays where it is. -/
theorem FreshlyAttested.concat (h : FreshlyAttested a id calls)
    (hstate : InState (run empty_storage (calls ++ [call])) id a.pending) :
    FreshlyAttested a id (calls ++ [call]) := by
  obtain ⟨n, env, caller, hcall, hattester, hauth, hok, hsince⟩ := h
  have hn : n < calls.length := (List.getElem?_eq_some_iff.mp hcall).1
  have htake : (calls ++ [call]).take n = calls.take n := List.take_append_of_le_length hn.le
  refine ⟨n, env, caller, ?_, ?_, hauth, ?_, ?_⟩
  · rw [List.getElem?_append_left hn, hcall]
  · rw [htake, hattester]
  · rw [htake, hok]
  · intro k hk
    by_cases hshort : k ≤ calls.length
    · rw [List.take_append_of_le_length hshort]
      exact hsince k hk
    · rw [List.take_of_length_le]
      · exact hstate
      · rw [List.length_append, List.length_singleton]
        omega

/-- The submission itself. -/
theorem FreshlyAttested.submitted {caller : Address} (hattester : a.attester (run empty_storage calls) = some caller)
    (hauth : env.auth caller = true)
    (hok : exec (a.submission caller id true) env (run empty_storage calls) =
      .ok ((), run empty_storage (calls ++ [(env, a.submission caller id true)])))
    (hbefore : InState (run empty_storage calls) id a.pending)
    (hafter : InState (run empty_storage (calls ++ [(env, a.submission caller id true)])) id a.pending) :
    FreshlyAttested a id (calls ++ [(env, a.submission caller id true)]) := by
  have htake : (calls ++ [(env, a.submission caller id true)]).take calls.length = calls :=
    List.take_left
  refine ⟨calls.length, env, caller, List.getElem?_concat_length, ?_, hauth, ?_, ?_⟩
  · rw [htake, hattester]
  · rw [htake, hok]
    rfl
  · intro k hk
    by_cases heq : k = calls.length
    · rw [heq, htake]
      exact hbefore
    · rw [List.take_of_length_le]
      · exact hafter
      · rw [List.length_append, List.length_singleton]
        omega

theorem flagged_pending (h : a.flag t = true) : t.flagged a.pending = true := by
  cases a with
  | verification =>
      have hflag : t.verification_ok = true := h
      simp [BridgeTransfer.flagged, Attestation.pending, hflag]
  | oracle =>
      have hflag : t.oracle_ok = true := h
      simp [BridgeTransfer.flagged, Attestation.pending, hflag]

theorem Moved.flag_eq {actor : Address} {note : SString} {next : TransferState}
    (h : Moved env actor note next t hist t' hist') : a.flag t' = a.flag t := by
  cases a with
  | verification => exact h.flags_eq.1
  | oracle => exact h.flags_eq.2

/-- Nobody but the initiator and the admin goes to one of the two states. -/
theorem advance_refusal_pending {caller escrow admin : Address} {from_state : TransferState}
    (h : advance_refusal caller escrow t (decide (caller = admin)) (decide (caller = t.initiator))
      from_state a.pending = none) : caller = t.initiator ∨ caller = admin := by
  rcases advance_refusal_eq_none h with hinitiator | hadmin | ⟨⟨-, hnext⟩, -⟩
  · exact .inl hinitiator
  · exact .inr hadmin
  · cases a with
    | verification => cases hnext
    | oracle => cases hnext

/-- **One call.** A flag that is set in the state that waits for it was set there before, or has just
been submitted, or the call was a stale entry. -/
theorem Effect.flag (h : Effect env s t hist call.2 t' hist') (henv : call.1 = env)
    (ht : s (.Transfer t.id) = some t) (hhist : s (.History t.id) = some hist)
    (hstate : t'.state = a.pending) (hflag : a.flag t' = true) :
    (t.state = a.pending ∧ a.flag t = true) ∨
      (∃ caller, call.2 = a.submission caller t.id true ∧ a.attester s = some caller ∧
        env.auth caller = true ∧ t.state = a.pending) ∨
      stale_entry s call = true := by
  obtain ⟨env', call⟩ := call
  dsimp only at h henv ⊢
  subst henv
  cases h with
  | nothing => exact .inl ⟨hstate, hflag⟩
  | @advance caller _ _ _ _ _ hauth hallowed _ hadmin hcaller hmoved =>
      rw [hmoved.flag_eq] at hflag
      rw [hmoved.state_eq] at hstate
      subst hstate
      refine .inr (.inr ?_)
      have hmay : (decide (caller = t.initiator) || decide (s .Admin = some caller)) = true := by
        rw [Bool.or_eq_true, decide_eq_true_eq, decide_eq_true_eq, hadmin, Option.some.injEq]
        rcases advance_refusal_pending hcaller with hinitiator | hsame
        · exact .inl hinitiator
        · exact .inr hsame.symm
      simp only [stale_entry, ht, hhist, Option.any_some, Option.getD_some, flagged_pending hflag, hauth,
        hmay, hallowed, hmoved.room, decide_true, Bool.and_self]
  | timeout _ _ hmoved =>
      rw [hmoved.state_eq] at hstate
      cases a <;> cases hstate
  | rollback _ _ hmoved' =>
      rw [hmoved'.state_eq] at hstate
      cases a <;> cases hstate
  | override hauth hadmin _ hallowed hmoved =>
      rw [hmoved.flag_eq] at hflag
      rw [hmoved.state_eq] at hstate
      subst hstate
      refine .inr (.inr ?_)
      simp only [stale_entry, ht, hhist, Option.any_some, Option.getD_some, flagged_pending hflag, hauth,
        hadmin, hallowed, hmoved.room, decide_true, Bool.and_self]
  | @verification verifier ok hauth hverifier hpending =>
      cases a with
      | verification =>
          have hok : ok = true := hflag
          rw [hok]
          exact .inr (.inl ⟨verifier, rfl, hverifier, hauth, hpending⟩)
      | oracle =>
          have hother : t.state = .OraclePending := hstate
          rw [hpending] at hother
          cases hother
  | @oracle oracle ok hauth horacle hpending =>
      cases a with
      | verification =>
          have hother : t.state = .VerificationPending := hstate
          rw [hpending] at hother
          cases hother
      | oracle =>
          have hok : ok = true := hflag
          rw [hok]
          exact .inr (.inl ⟨oracle, rfl, horacle, hauth, hpending⟩)
  | auto hnext _ hmoved =>
      rw [hmoved.flag_eq] at hflag
      rw [hmoved.state_eq] at hstate
      subst hstate
      refine .inr (.inr ?_)
      simp only [stale_entry, ht, hhist, Option.any_some, Option.getD_some, hnext, flagged_pending hflag,
        hmoved.room, decide_true, Bool.and_self]

/-- **Runs.** Without stale entries, a flag that is set in the state that waits for it is fresh. -/
theorem freshly_attested (hfresh : NeverStale calls) (ht : run empty_storage calls (.Transfer id) = some t)
    (hstate : t.state = a.pending) (hflag : a.flag t = true) : FreshlyAttested a id calls := by
  induction calls using List.reverseRecOn generalizing t with
  | nil => cases ht
  | append_singleton calls call ih =>
      obtain ⟨hbefore, hnot, -⟩ := Along.append.mp hfresh
      have hin := inState_of ht hstate
      rcases run_concat_cases calls call with ⟨hok, houtcome⟩ | hsame
      · by_cases hnone : run empty_storage calls (.Transfer id) = none
        · -- A transfer starts in `Initiated`.
          have hinitiated := (houtcome.initiated hnone ht).1
          rw [hstate] at hinitiated
          cases a <;> cases hinitiated
        · obtain ⟨t₀, ht₀⟩ := Option.ne_none_iff_exists'.mp hnone
          obtain ⟨hist₀, hhist₀⟩ := (registered_run calls).history id t₀ ht₀
          obtain ⟨t', hist', ht', -, heffect⟩ := houtcome.effect ht₀ hhist₀
          rw [ht, Option.some.injEq] at ht'
          subst ht'
          have hid := (registered_run calls).id_eq id t₀ ht₀
          rcases heffect.flag rfl (hid.symm ▸ ht₀) (hid.symm ▸ hhist₀) hstate hflag with
            ⟨hstate₀, hflag₀⟩ | ⟨caller, hcall, hattester, hauth, hstate₀⟩ | hstale
          · exact (ih hbefore ht₀ hstate₀ hflag₀).concat hin
          · have hpair : call = (call.1, a.submission caller id true) := by
              rw [← hid, ← hcall]
            rw [hpair] at hok hin ⊢
            exact FreshlyAttested.submitted hattester hauth hok (inState_of ht₀ hstate₀) hin
          · rw [hnot] at hstale
            cases hstale
      · rw [hsame] at ht
        exact (ih hbefore ht hstate hflag).concat hin

/-- Where `advance_state` or `try_auto_progress` goes on, the flag is set. -/
theorem Effect.flag_of_next {op : EntryPoint} (h : Effect env s t hist op t' hist')
    (hcall : (∃ caller transfer_id next, op = .advance_state caller transfer_id next) ∨
      ∃ transfer_id, op = .try_auto_progress transfer_id)
    (hstate : t.state = a.pending) (hstate' : t'.state = a.next) : a.flag t = true := by
  have hmoved_on : t'.state ≠ t.state := by
    rw [hstate, hstate']
    cases a <;> decide
  have hallowed_flag : ∀ next, next = a.next → transition_allowed t t.state next = true → a.flag t = true := by
    rintro next rfl hallowed
    rw [hstate] at hallowed
    cases a <;> exact hallowed
  cases h with
  | nothing => exact absurd rfl hmoved_on
  | advance _ hallowed _ _ _ hmoved | auto _ hallowed hmoved =>
      exact hallowed_flag _ (hmoved.state_eq.symm.trans hstate') hallowed
  | timeout | rollback | override | verification | oracle => simp at hcall

end Fresh

/-- **Attestations are fresh in every run without stale entries**: when `advance_state` or
`try_auto_progress` takes a transfer from the state that waits for a finding to the next, the
configured contract has submitted a positive finding since the last entry into that state. -/
theorem attested_since_entry (calls : List (Env × EntryPoint)) (hfresh : NeverStale calls)
    (a : Attestation) (id : U64) (call : Env × EntryPoint) (t t' : BridgeTransfer)
    (hcall : (∃ caller transfer_id next, call.2 = .advance_state caller transfer_id next) ∨
      ∃ transfer_id, call.2 = .try_auto_progress transfer_id)
    (ht : run empty_storage calls (.Transfer id) = some t) (hstate : t.state = a.pending)
    (ht' : run empty_storage (calls ++ [call]) (.Transfer id) = some t') (hstate' : t'.state = a.next) :
    FreshlyAttested a id calls := by
  apply freshly_attested hfresh ht hstate
  rcases run_concat_cases calls call with ⟨-, houtcome⟩ | hsame
  · obtain ⟨hist, hhist⟩ := (registered_run calls).history id t ht
    obtain ⟨t₁, hist₁, ht₁, -, heffect⟩ := houtcome.effect ht hhist
    rw [ht', Option.some.injEq] at ht₁
    subst ht₁
    exact heffect.flag_of_next hcall hstate hstate'
  · rw [hsame, ht, Option.some.injEq] at ht'
    rw [← ht', hstate] at hstate'
    cases a <;> cases hstate'

/-- The transfer of `opening` comes to `VerificationPending` and is verified. -/
def verified : List (Env × EntryPoint) :=
  opening ++
    [(signed_at 1100, .advance_state (party 9) 1 .AwaitingSource),
      (signed_at 1200, .advance_state (party 9) 1 .EscrowPending),
      (signed_at 1300, .advance_state (party 1) 1 .EscrowLocked),
      (signed_at 1400, .advance_state (party 9) 1 .VerificationPending),
      (signed_at 1500, .submit_verification_result (party 2) 1 true)]

theorem attested_since_entry_verified : FreshlyAttested .verification 1 verified :=
  attested_since_entry verified (by unfold NeverStale; decide +kernel) .verification 1
    (signed_at 1600, .try_auto_progress 1)
    { opened with state := .VerificationPending, state_deadline := 44600, updated_at := 1500,
                  verification_ok := true }
    { opened with state := .OraclePending, state_deadline := 8800, updated_at := 1600,
                  verification_ok := true }
    (.inr ⟨1, rfl⟩) (by decide +kernel) rfl (by decide +kernel) rfl

/-- It times out there, the admin takes it back to `EscrowLocked`, and it comes a second time to
`VerificationPending`. -/
def revived : List (Env × EntryPoint) :=
  verified ++
    [(signed_at 100000, .handle_timeout 1),
      (signed_at 100100, .admin_override_state (party 0) 1 .EscrowLocked (str "manual recovery")),
      (signed_at 100200, .advance_state (party 9) 1 .VerificationPending)]

/-- Nobody has verified the revived transfer, which goes on all the same. -/
theorem not_attested_since_entry :
    ¬∀ (calls : List (Env × EntryPoint)) (a : Attestation) (id : U64) (call : Env × EntryPoint)
      (t t' : BridgeTransfer),
      ((∃ caller transfer_id next, call.2 = .advance_state caller transfer_id next) ∨
        ∃ transfer_id, call.2 = .try_auto_progress transfer_id) →
      run empty_storage calls (.Transfer id) = some t → t.state = a.pending →
        run empty_storage (calls ++ [call]) (.Transfer id) = some t' → t'.state = a.next →
          FreshlyAttested a id calls := by
  intro hclaim
  obtain ⟨n, env, caller, hcall, -, -, -, hsince⟩ := hclaim revived .verification 1
    (signed_at 100300, .try_auto_progress 1)
    { opened with state := .VerificationPending, state_deadline := 143400, updated_at := 100200,
                  verification_ok := true }
    { opened with state := .OraclePending, state_deadline := 107500, updated_at := 100300,
                  verification_ok := true }
    (.inr ⟨1, rfl⟩) (by decide +kernel) rfl (by decide +kernel) rfl
  by_cases hn : n ≤ 9
  · -- After the timeout the transfer was in another state.
    have hstate := hsince 9 hn
    revert hstate
    decide +kernel
  · -- No call after the timeout is a submission.
    have hmem : (env, Attestation.verification.submission caller 1 true) ∈ revived.drop 9 := by
      apply List.mem_of_getElem? (i := n - 9)
      rw [List.getElem?_drop, ← hcall]
      congr 1
      omega
    simp [revived, verified, opening, Attestation.submission] at hmem

end BridgeWatch.TransferStateMachine

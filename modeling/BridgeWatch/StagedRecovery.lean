/-
The staged recovery of a pause.

A record goes from the tripped stage to the provisional one and from there to the end, and each takes the ledgers
that the record says. What the health check finds at the end of the window is written and undone in one call, so
a provisional stage never starts again. The check compares the time of a pause with the number of a ledger. It
comes to what it should where it finds nothing, and nothing was there to be found.
-/
import BridgeWatch.CircuitBreakerCalls

set_option autoImplicit false

namespace BridgeWatch.CircuitBreaker

open Transaction
open Contract (U32 U64 SString Address)

/-! ## The numbers of the pauses -/

section Numbers

variable {env : Ledger} {s s' : BreakerStorage} {call : EntryPoint} {calls : List (Ledger × EntryPoint)} {id i : U32}

/-- What is known of a pause is known under a number that was given out. -/
structure Numbered (s : BreakerStorage) : Prop where
  pauses : ∀ i p, s (.PauseState i) = some p → i.toNat ≤ pause_count s
  cooldowns : ∀ i r, s (.CooldownState i) = some r → i.toNat ≤ pause_count s

theorem pause_count_congr (h : s' .PauseCount = s .PauseCount) : pause_count s' = pause_count s := by
  rw [pause_count, h, pause_count]

/-- A pause is new under a new number, and the old ones stay as they are or are lifted. -/
theorem pauses_step (hs : Founded s) (h : Outcome env s call s') :
    pause_count s ≤ pause_count s' ∧ ∀ i, s' (.PauseState i) = s (.PauseState i) ∨ s' (.PauseState i) = none ∨
      pause_count s < i.toNat ∧ i.toNat ≤ pause_count s' := by
  have hkept : (∀ i, s' (.PauseState i) = s (.PauseState i)) → s' .PauseCount = s .PauseCount →
      pause_count s ≤ pause_count s' ∧ ∀ i, s' (.PauseState i) = s (.PauseState i) ∨ s' (.PauseState i) = none ∨
        pause_count s < i.toNat ∧ i.toNat ≤ pause_count s' := fun hpauses hcount =>
    ⟨(pause_count_congr hcount).ge, fun i => Or.inl (hpauses i)⟩
  -- A pause that is lifted is one of all.
  have hlift : ∀ id, s' (.PauseState id) = none → (∀ i, i ≠ id → s' (.PauseState i) = s (.PauseState i)) →
      s' .PauseCount = s .PauseCount → pause_count s ≤ pause_count s' ∧ ∀ i, s' (.PauseState i) = s (.PauseState i) ∨
        s' (.PauseState i) = none ∨ pause_count s < i.toNat ∧ i.toNat ≤ pause_count s' := by
    intro id hlifted hothers hcount
    refine ⟨(pause_count_congr hcount).ge, fun i => ?_⟩
    by_cases hi : i = id
    · rw [hi]
      exact Or.inr (Or.inl hlifted)
    · exact Or.inl (hothers i hi)
  cases h with
  | opened hnone _ _ _ _ hpauses =>
      refine ⟨?_, fun i => Or.inl (hpauses i)⟩
      simp [pause_count, hs hnone]
  | appointed _ _ _ hframe | dismissed _ _ hframe | adjusted _ _ hframe | advanced _ _ _ _ hframe
  | requested _ _ _ _ _ _ _ hframe | approved _ _ _ _ _ _ hframe | started _ _ _ _ _ _ _ _ hframe =>
      exact hkept (fun i => hframe _ (by simp)) (hframe _ (by simp))
  | @paused _ _ id _ _ _ _ _ hcount _ _ _ _ hframe =>
      have hnext : pause_count s' = id.toNat := by rw [pause_count, hcount, Option.getD_some]
      refine ⟨by omega, fun i => ?_⟩
      by_cases hi : i = id
      · rw [hi]
        omega
      · exact Or.inl (hframe _ (by simpa using hi))
  | @recovered _ id _ _ _ _ _ _ _ _ _ _ hlifted hframe | @restored id _ _ _ _ _ hlifted _ hframe =>
      exact hlift id hlifted (fun i hi => hframe _ (by simpa using hi)) (hframe _ (by simp))

/-- What a call does to the record of a pause. -/
inductive RecordStep (env : Ledger) (s s' : BreakerStorage) (call : EntryPoint) (id : U32) : Prop
  | kept (hrecord : s' (.CooldownState id) = s (.CooldownState id))
  | started {caller : Address} {r : CooldownRecord} {p : PauseState} (hcall : call = .start_cooldown caller id)
      (hload : s (.PauseState id) = some p) (hrecord : s' (.CooldownState id) = some r) (hid : r.pause_id = id)
      (hstage : r.stage = .Tripped) (hledger : r.stage_started_ledger = env.sequence)
  | advanced {r : CooldownRecord} (hcall : call = .evaluate_cooldown id) (hload : s (.CooldownState id) = some r)
      (hstage : r.stage = .Tripped) (helapsed : r.cooldown_ledger_count.toNat ≤ ledgers_since env r)
      (hrecord : s' (.CooldownState id) =
        some { r with stage := .ProvisionalCooldown, stage_started_ledger := env.sequence })
  | ended (hrecord : s' (.CooldownState id) = none)

theorem record_step (h : Outcome env s call s') (id : U32) : RecordStep env s s' call id := by
  cases h with
  | opened _ _ _ _ _ _ hcooldowns => exact .kept (hcooldowns id)
  | appointed _ _ _ hframe | dismissed _ _ hframe | paused _ _ _ _ _ _ _ _ hframe
  | requested _ _ _ _ _ _ _ hframe | approved _ _ _ _ _ _ hframe | recovered _ _ _ _ _ _ _ hframe
  | adjusted _ _ hframe => exact .kept (hframe _ (by simp))
  | @started _ id' _ _ _ _ hload _ _ hrecord hid hstage hledger hframe =>
      by_cases heq : id = id'
      · rw [heq]
        exact .started rfl hload hrecord hid hstage hledger
      · exact .kept (hframe _ (by simpa using heq))
  | @advanced id' _ _ hload hstage helapsed hrecord hframe =>
      by_cases heq : id = id'
      · rw [heq]
        exact .advanced rfl hload hstage helapsed hrecord
      · exact .kept (hframe _ (by simpa using heq))
  | @restored id' _ _ _ _ _ _ hrecord hframe =>
      by_cases heq : id = id'
      · rw [heq]
        exact .ended hrecord
      · exact .kept (hframe _ (by simpa using heq))

theorem numbered_step (hfounded : Founded s) (hs : Numbered s) (h : Outcome env s call s') : Numbered s' := by
  obtain ⟨hcount, hpauses⟩ := pauses_step hfounded h
  constructor
  · intro i p hp
    rcases hpauses i with heq | hnone | hnew
    · exact (hs.pauses i p (heq ▸ hp)).trans hcount
    · rw [hnone] at hp
      cases hp
    · exact hnew.2
  · intro i r hr
    cases record_step h i with
    | kept hrecord => exact (hs.cooldowns i r (hrecord ▸ hr)).trans hcount
    | started _ hload => exact (hs.pauses i _ hload).trans hcount
    | advanced _ hload => exact (hs.cooldowns i _ hload).trans hcount
    | ended hrecord =>
        rw [hrecord] at hr
        cases hr

theorem run_numbered : Numbered (run empty_storage calls) := by
  have hempty : Founded empty_storage ∧ Numbered empty_storage := ⟨founded_empty, ⟨nofun, nofun⟩⟩
  refine (run_invariant (I := fun s => Founded s ∧ Numbered s) ?_ hempty
    (Along.of_forall fun _ _ _ => trivial : Along exec (fun _ _ => True) empty_storage calls)).2
  rintro s t s' ⟨hfounded, hs⟩ - h
  have houtcome := outcome_of_exec h
  exact ⟨fun hnone => absurd hnone (opened_step hfounded houtcome), numbered_step hfounded hs houtcome⟩

end Numbers

/-! ## The stages -/

/-- The record of the pause went on to the provisional stage in the call after `before`. -/
structure StageBegan (calls : List (Ledger × EntryPoint)) (id : U32) (before : List (Ledger × EntryPoint))
    (env₁ : Ledger) (after : List (Ledger × EntryPoint)) : Prop where
  split : calls = before ++ (env₁, .evaluate_cooldown id) :: after
  tripped : ∃ r, run empty_storage before (.CooldownState id) = some r ∧ r.stage = .Tripped
  passed : (exec (.evaluate_cooldown id) env₁ (run empty_storage before)).isOk = true

/-- The record of the pause was started in the call after `before`. -/
structure CooldownStarted (calls : List (Ledger × EntryPoint)) (id : U32) (before : List (Ledger × EntryPoint))
    (env₀ : Ledger) (caller : Address) (after : List (Ledger × EntryPoint)) : Prop where
  split : calls = before ++ (env₀, .start_cooldown caller id) :: after
  passed : (exec (.start_cooldown caller id) env₀ (run empty_storage before)).isOk = true

section Stages

variable {env env₀ env₁ : Ledger} {calls before after : List (Ledger × EntryPoint)} {t : Ledger × EntryPoint}
variable {id i : U32} {r : CooldownRecord} {caller : Address}

theorem StageBegan.concat (h : StageBegan calls id before env₁ after) :
    StageBegan (calls ++ [t]) id before env₁ (after ++ [t]) where
  split := by rw [h.split, List.append_assoc, List.cons_append]
  tripped := h.tripped
  passed := h.passed

theorem CooldownStarted.concat (h : CooldownStarted calls id before env₀ caller after) :
    CooldownStarted (calls ++ [t]) id before env₀ caller (after ++ [t]) where
  split := by rw [h.split, List.append_assoc, List.cons_append]
  passed := h.passed

/-- The history of a record: when it was started, and when it went on. -/
inductive History (calls : List (Ledger × EntryPoint)) (id : U32) (r : CooldownRecord) : Prop
  | tripped {before after : List (Ledger × EntryPoint)} {env₀ : Ledger} {caller : Address} (hid : r.pause_id = id)
      (hstage : r.stage = .Tripped) (hstarted : CooldownStarted calls id before env₀ caller after)
      (hledger : r.stage_started_ledger = env₀.sequence)
  | provisional {before before₀ after after₀ : List (Ledger × EntryPoint)} {env₀ env₁ : Ledger} {caller : Address}
      (hid : r.pause_id = id) (hstage : r.stage = .ProvisionalCooldown)
      (hstarted : CooldownStarted before id before₀ env₀ caller after₀)
      (hbegan : StageBegan calls id before env₁ after) (hledger : r.stage_started_ledger = env₁.sequence)
      (helapsed : r.cooldown_ledger_count.toNat ≤ env₁.sequence.toNat - env₀.sequence.toNat)

theorem History.concat (h : History calls id r) : History (calls ++ [t]) id r := by
  cases h with
  | tripped hid hstage hstarted hledger => exact .tripped hid hstage hstarted.concat hledger
  | provisional hid hstage hstarted hbegan hledger helapsed =>
      exact .provisional hid hstage hstarted hbegan.concat hledger helapsed

theorem run_history (h : run empty_storage calls (.CooldownState id) = some r) : History calls id r := by
  induction calls using List.reverseRecOn generalizing r with
  | nil => simp [empty_storage] at h
  | append_singleton calls t ih =>
      obtain ⟨env, call⟩ := t
      rcases run_concat_cases calls (env, call) with heq | ⟨hok, houtcome⟩
      · rw [heq] at h
        exact (ih h).concat
      cases record_step houtcome id with
      | kept hrecord =>
          rw [hrecord] at h
          exact (ih h).concat
      | ended hrecord =>
          rw [hrecord] at h
          cases h
      | started hcall _ hrecord hid hstage hledger =>
          rw [hrecord] at h
          obtain rfl := Option.some.inj h
          obtain rfl : call = _ := hcall
          exact .tripped hid hstage ⟨rfl, hok⟩ hledger
      | advanced hcall hload hstage helapsed hrecord =>
          rw [hrecord] at h
          obtain rfl := Option.some.inj h
          obtain rfl : call = _ := hcall
          -- The record that goes on was started earlier.
          cases ih hload with
          | tripped hid _ hstarted hledger =>
              refine .provisional hid rfl hstarted ⟨rfl, ⟨_, hload, hstage⟩, hok⟩ rfl ?_
              rwa [ledgers_since, hledger] at helapsed
          | provisional _ hprovisional =>
              rw [hstage] at hprovisional
              cases hprovisional

/-! ## Restorations and anomalies -/

/-- The record is provisional since the call after `before`, and its window is over. -/
structure WindowOver (calls : List (Ledger × EntryPoint)) (env : Ledger) (id : U32) (r : CooldownRecord)
    (before : List (Ledger × EntryPoint)) (env₁ : Ledger) (after : List (Ledger × EntryPoint)) : Prop
    extends StageBegan calls id before env₁ after where
  record : run empty_storage calls (.CooldownState id) = some r
  provisional : r.stage = .ProvisionalCooldown
  elapsed : r.recovery_window_ledgers.toNat ≤ ledgers_since env r

/-- The pause is active, and was triggered since the call after `before`. -/
structure NewPause (calls before : List (Ledger × EntryPoint)) (t : Ledger × EntryPoint) (i : U32)
    (other : PauseState) : Prop where
  before : run empty_storage (before ++ [t]) (.PauseState i) = none
  now : run empty_storage calls (.PauseState i) = some other
  active : other.level ≠ .None

/-- A restoration comes when both stages have had their ledgers. -/
def RestoresInTime (calls : List (Ledger × EntryPoint)) (env : Ledger) (id : U32) : Prop :=
  ∀ r s', run empty_storage calls (.CooldownState id) = some r → r.stage = .ProvisionalCooldown →
    exec (.evaluate_cooldown id) env (run empty_storage calls) = .ok ((), s') →
      ∃ before₀ env₀ caller after₀ before env₁ after, CooldownStarted before id before₀ env₀ caller after₀ ∧
        StageBegan calls id before env₁ after ∧
          r.cooldown_ledger_count.toNat ≤ env₁.sequence.toNat - env₀.sequence.toNat ∧
            r.recovery_window_ledgers.toNat ≤ env.sequence.toNat - env₁.sequence.toNat

/-- A new pause of the same scope makes the stage start again. -/
def RestartsOnAnomaly (calls : List (Ledger × EntryPoint)) (env : Ledger) (id : U32) : Prop :=
  ∀ r before env₁ after p i other, WindowOver calls env id r before env₁ after →
    run empty_storage calls (.PauseState id) = some p → NewPause calls before (env₁, .evaluate_cooldown id) i other →
      other.scope = p.scope → step exec (env, .evaluate_cooldown id) (run empty_storage calls) (.CooldownState id) =
        some { r with stage_started_ledger := env.sequence }

/-- Pauses from before the stage do not delay the restoration: it goes through where no new pause stands against it. -/
def IgnoresOlder (calls : List (Ledger × EntryPoint)) (env : Ledger) (id : U32) : Prop :=
  ∀ r before env₁ after, WindowOver calls env id r before env₁ after →
    (∀ p i other, run empty_storage calls (.PauseState id) = some p →
      NewPause calls before (env₁, .evaluate_cooldown id) i other → scopes_match p.scope other.scope = false) →
        (exec (.evaluate_cooldown id) env (run empty_storage calls)).isOk = true

/-- The health check of the record raises an alarm: a later pause is an anomaly for it, or there is no later number. -/
def Alarmed (s : BreakerStorage) (r : CooldownRecord) (p : PauseState) : Prop :=
  ¬(r.pause_id.toNat + 1 < 2 ^ 32 ∧ Healthy s r p.scope)

/-- At the end of the window no new pause has the same scope, but where the stage began in this very ledger and the
check raises an alarm; and it raises one only where a new pause has a matching scope. -/
def Untroubled (calls : List (Ledger × EntryPoint)) (env : Ledger) (id : U32) : Prop :=
  ∀ r before env₁ after p, WindowOver calls env id r before env₁ after →
    run empty_storage calls (.PauseState id) = some p →
      ((∃ i other, NewPause calls before (env₁, .evaluate_cooldown id) i other ∧ other.scope = p.scope) →
        Alarmed (run empty_storage calls) r p ∧ r.stage_started_ledger = env.sequence) ∧
      (Alarmed (run empty_storage calls) r p → ∃ i other,
        NewPause calls before (env₁, .evaluate_cooldown id) i other ∧ scopes_match p.scope other.scope = true)

theorem restores_in_time : RestoresInTime calls env id := by
  intro r s' hload hstage h
  obtain ⟨helapsed, -⟩ := (restore_eq_ok hload hstage).mp h
  cases run_history hload with
  | tripped _ htripped =>
      rw [hstage] at htripped
      cases htripped
  | provisional _ _ hstarted hbegan hledger hcooled =>
      rw [ledgers_since, hledger] at helapsed
      exact ⟨_, _, _, _, _, _, _, hstarted, hbegan, hcooled, helapsed⟩

/-- What an alarm does to a restoration that is due: nothing else stands in its way. -/
theorem restores_iff (hover : WindowOver calls env id r before env₁ after) :
    (exec (.evaluate_cooldown id) env (run empty_storage calls)).isOk = true ↔
      ∀ p, run empty_storage calls (.PauseState id) = some p → ¬Alarmed (run empty_storage calls) r p := by
  have hrestore {s'} : evaluate_cooldown id env (run empty_storage calls) = .ok ((), s') ↔ _ :=
    restore_eq_ok hover.record hover.provisional
  constructor
  · intro hok p hp halarmed
    cases h : exec (.evaluate_cooldown id) env (run empty_storage calls) with
    | ok => exact halarmed ((hrestore.mp h).2.1 p hp)
    | error =>
        rw [h] at hok
        cases hok
  · intro hquiet
    have hok := hrestore.mpr ⟨hover.elapsed, fun p hp => not_not.mp (hquiet p hp), rfl⟩
    rw [exec, hok]
    rfl

/-- A restoration ends the record, and a call that fails keeps it. -/
theorem record_after (hover : WindowOver calls env id r before env₁ after) :
    step exec (env, .evaluate_cooldown id) (run empty_storage calls) (.CooldownState id) =
      if (exec (.evaluate_cooldown id) env (run empty_storage calls)).isOk = true then none else some r := by
  rcases step_cases exec (run empty_storage calls) (env, .evaluate_cooldown id) with hok | ⟨⟨msg, herror⟩, heq⟩
  · have hisok : (exec (.evaluate_cooldown id) env (run empty_storage calls)).isOk = true := by
      rw [hok]
      rfl
    obtain ⟨-, -, hrestored⟩ := (restore_eq_ok hover.record hover.provisional).mp hok
    rw [if_pos hisok, hrestored]
    exact Function.update_self ..
  · have hfailed : (exec (.evaluate_cooldown id) env (run empty_storage calls)).isOk = false := by
      rw [herror]
      rfl
    rw [heq, hfailed, hover.record]
    rfl

/-- **The staged recovery** restores in time. It heeds the new pauses and ignores the older ones just where it is
untroubled. -/
theorem staged_recovery : RestoresInTime calls env id ∧
    (RestartsOnAnomaly calls env id ∧ IgnoresOlder calls env id ↔ Untroubled calls env id) := by
  refine ⟨restores_in_time, ?_, ?_⟩
  · rintro ⟨hrestarts, hignores⟩ r before env₁ after p hover hp
    constructor
    · rintro ⟨i, other, hnew, hscope⟩
      have hstep := hrestarts r before env₁ after p i other hover hp hnew hscope
      rw [record_after hover] at hstep
      split_ifs at hstep with hok
      refine ⟨fun hquiet => hok ?_, congrArg CooldownRecord.stage_started_ledger (Option.some.inj hstep)⟩
      rw [restores_iff hover, hp]
      rintro _ ⟨⟩ halarmed
      exact halarmed hquiet
    · intro halarmed
      by_contra hnone
      refine (restores_iff hover).mp (hignores r before env₁ after hover ?_) p hp halarmed
      intro p' i other hp' hnew
      obtain rfl := Option.some.inj (hp.symm.trans hp')
      exact Bool.eq_false_of_not_eq_true fun hmatch => hnone ⟨i, other, hnew, hmatch⟩
  · intro huntroubled
    constructor
    · intro r before env₁ after p i other hover hp hnew hscope
      obtain ⟨halarmed, hledger⟩ := (huntroubled r before env₁ after p hover hp).1 ⟨i, other, hnew, hscope⟩
      rw [record_after hover, if_neg fun hok => (restores_iff hover).mp hok p hp halarmed, ← hledger]
    · intro r before env₁ after hover hnone
      rw [restores_iff hover]
      intro p hp halarmed
      obtain ⟨i, other, hnew, hmatch⟩ := (huntroubled r before env₁ after p hover hp).2 halarmed
      rw [hnone p i other hp hnew] at hmatch
      cases hmatch

end Stages

/-- A global pause in its provisional stage since ledger 10, and what happens until the end of its window. -/
def provisional_since_ten (later : List (Ledger × EntryPoint)) : List (Ledger × EntryPoint) :=
  [(ledger 1000 0 [party 0], .initialize_breaker ⟨party 0, 2, 3600, 7200, 14400, 100⟩),
    (ledger 1000 0 [party 0], .add_guardian (party 0) (party 1) .EmergencyGuardian),
    (ledger 1000 0 [party 0], .set_recovery_protocol (party 0) 5 10 1000), (ledger 1000 0 [], .pause_global (party 1) []),
    (ledger 1000 0 [], .start_cooldown (party 1) 1), (ledger 1050 10 [], .evaluate_cooldown 1)] ++ later

/-- A second global pause comes in ledger 11. At ledger 30 the stage is still the one that began in ledger 10. -/
theorem no_restart_on_anomaly :
    ¬ ∀ (calls : List (Ledger × EntryPoint)) (env : Ledger) (id : U32),
      RestartsOnAnomaly calls env id ∧ IgnoresOlder calls env id := by
  intro hclaim
  let calls := provisional_since_ten [(ledger 1055 11 [], .pause_global (party 1) [])]
  have hover : WindowOver calls (ledger 1150 30 []) 1 ⟨1, .ProvisionalCooldown, 10, 5, 10, 1000⟩
      ((provisional_since_ten []).take 5) (ledger 1050 10 []) [(ledger 1055 11 [], .pause_global (party 1) [])] := {
    split := rfl
    tripped := ⟨⟨1, .Tripped, 0, 5, 10, 1000⟩, by decide +kernel, rfl⟩
    passed := by decide +kernel
    record := by decide +kernel
    provisional := rfl
    elapsed := by decide }
  have hrestarts := (hclaim calls (ledger 1150 30 []) 1).1 _ _ _ _
    ⟨.Global, .Full, party 1, [], 1000, 15400, 1, 2⟩ 2 ⟨.Global, .Full, party 1, [], 1055, 15455, 1, 2⟩ hover
    (by decide +kernel) ⟨by decide +kernel, by decide +kernel, by decide⟩ rfl
  exact absurd hrestarts (by decide +kernel)

end BridgeWatch.CircuitBreaker

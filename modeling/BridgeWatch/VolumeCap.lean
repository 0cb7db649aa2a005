/-
The volume cap of a scope.

The loop over the numbers of the pauses returns zero at the first pause that leaves nothing, and takes the least of
the other caps on its way. A record is tripped or provisional as long as it is there, and its cap is at most the
whole volume, so the result is the least cap of the active pauses that match.
-/
import BridgeWatch.StagedRecovery

set_option autoImplicit false

namespace BridgeWatch.CircuitBreaker

open Transaction
open Contract (U32 SString Address)

/-! ## The readers -/

/-- What is read where there is no pause. -/
def no_pause (current_contract_address : Address) : PauseState :=
  { scope := .Global, level := .None, triggered_by := current_contract_address, trigger_reason := [], timestamp := 0,
    recovery_deadline := 0, guardian_approvals := 0, guardian_threshold := 0 }

def get_pause_state (current_contract_address : Address) (pause_id : U32) : Breaker PauseState := do
  let pause_state ← get (.PauseState pause_id)
  return pause_state.getD (no_pause current_contract_address)

/-- `x.min(y)` on `u32`. -/
def min_u32 (x y : U32) : U32 := if x ≤ y then x else y

/-- The loop of `effective_volume_cap_bps`. -/
def volume_cap_loop (current_contract_address : Address) (scope : PauseScope) : List U32 → U32 → Breaker U32
  | [], cap => return cap
  | i :: ids, cap => do
      let pause_state ← get_pause_state current_contract_address i
      if pause_state.level = .None then
        volume_cap_loop current_contract_address scope ids cap
      else if scopes_match pause_state.scope scope = false then
        volume_cap_loop current_contract_address scope ids cap
      else do
        let cooldown ← get (.CooldownState i)
        match pause_state.scope, cooldown with
        | .Global, some record =>
            match record.stage with
            | .ProvisionalCooldown =>
                volume_cap_loop current_contract_address scope ids (min_u32 cap record.provisional_rate_cap_bps)
            | _ => return 0
        | _, some record =>
            match record.stage with
            | .ProvisionalCooldown =>
                volume_cap_loop current_contract_address scope ids (min_u32 cap record.provisional_rate_cap_bps)
            | .FullyRestored => volume_cap_loop current_contract_address scope ids cap
            | .Tripped => return 0
        | _, none => return 0

def effective_volume_cap_bps (current_contract_address : Address) (scope : PauseScope) : Breaker U32 := do
  let pause_count ← get .PauseCount
  volume_cap_loop current_contract_address scope (id_range 1 (pause_count.getD 0)) 10000

/-- The loop of `is_paused`. -/
def is_paused_loop (current_contract_address : Address) (scope : PauseScope) : List U32 → Breaker Bool
  | [] => return false
  | i :: ids => do
      let pause_state ← get_pause_state current_contract_address i
      if pause_state.level ≠ .None ∧ scopes_match pause_state.scope scope = true then
        return true
      else
        is_paused_loop current_contract_address scope ids

def is_paused (current_contract_address : Address) (scope : PauseScope) : Breaker Bool := do
  let pause_count ← get .PauseCount
  is_paused_loop current_contract_address scope (id_range 1 (pause_count.getD 0))

/-! ## Active pauses and their caps -/

/-- The pause is active and matches the scope. -/
def Matching (s : BreakerStorage) (scope : PauseScope) (i : U32) : Prop :=
  ∃ p, s (.PauseState i) = some p ∧ p.level ≠ .None ∧ scopes_match p.scope scope = true

/-- What a pause leaves of the volume. -/
def pause_cap (s : BreakerStorage) (i : U32) : U32 :=
  (s (.CooldownState i)).elim 0 fun record =>
    if record.stage = .ProvisionalCooldown then record.provisional_rate_cap_bps else 0

/-- The caps are at most the whole volume. -/
structure Capped (s : BreakerStorage) : Prop where
  protocol : ∀ p, s .RecoveryProtocol = some p → p.provisional_rate_cap_bps ≤ 10000
  records : ∀ i r, s (.CooldownState i) = some r → r.provisional_rate_cap_bps ≤ 10000

section Caps

variable {env : Ledger} {s s' : BreakerStorage} {call : EntryPoint} {calls : List (Ledger × EntryPoint)}
variable {scope : PauseScope} {i cap : U32}

theorem Capped.congr (h : Capped s) (hprotocol : s' .RecoveryProtocol = s .RecoveryProtocol)
    (hrecords : ∀ i, s' (.CooldownState i) = s (.CooldownState i)) : Capped s' where
  protocol p hp := h.protocol p (hprotocol ▸ hp)
  records i r hr := h.records i r (hrecords i ▸ hr)

/-- A record keeps its cap, and the protocol is changed in one call only. -/
theorem capped_of_outcome (hs : Capped s) (h : Outcome env s call s') (hsetting : is_setting call = false)
    (hopening : ∀ config, call ≠ .initialize_breaker config) (hstart : ∀ caller id, call ≠ .start_cooldown caller id) :
    Capped s' := by
  cases h with
  | @opened config => exact absurd rfl (hopening config)
  | appointed _ _ _ hframe | dismissed _ _ hframe => exact hs.congr (hframe _ (by simp)) fun i => hframe _ (by simp)
  | paused _ _ _ _ _ _ _ _ hframe | requested _ _ _ _ _ _ _ hframe | approved _ _ _ _ _ _ hframe
  | recovered _ _ _ _ _ _ _ hframe =>
      exact hs.congr (hframe _ (by simp)) fun i => hframe _ (by simp)
  | adjusted _ hkind =>
      rw [hsetting] at hkind
      cases hkind
  | @started caller id => exact absurd rfl (hstart caller id)
  | @advanced id r _ hload _ _ hrecord hframe =>
      refine ⟨fun p hp => hs.protocol p (hframe .RecoveryProtocol (by simp) ▸ hp), fun i r' hr => ?_⟩
      by_cases hi : i = id
      · rw [hi, hrecord] at hr
        obtain rfl := Option.some.inj hr
        exact hs.records id r hload
      · exact hs.records i r' (hframe (.CooldownState i) (by simpa using hi) ▸ hr)
  | @restored id _ _ _ _ _ _ hrecord hframe =>
      refine ⟨fun p hp => hs.protocol p (hframe .RecoveryProtocol (by simp) ▸ hp), fun i r' hr => ?_⟩
      by_cases hi : i = id
      · rw [hi, hrecord] at hr
        cases hr
      · exact hs.records i r' (hframe (.CooldownState i) (by simpa using hi) ▸ hr)

theorem capped_step (hs : Capped s) (h : exec call env s = .ok ((), s')) : Capped s' := by
  cases call with
  | initialize_breaker =>
      simp only [exec, initialize_breaker, bind_eq_ok, host_eq_ok, HostCalls.require_auth_eq_ok, load_eq_ok,
        panic_if_eq_ok, save_eq_ok, and_assoc, exists_and_left, exists_eq_left, exists_const] at h
      obtain ⟨-, -, rfl⟩ := h
      exact hs.congr (by simp) fun i => by simp
  | set_recovery_protocol =>
      simp only [exec, set_recovery_protocol, bind_eq_ok, only_admin_eq_ok, panic_if_eq_ok, not_not, save_eq_ok,
        and_assoc, exists_and_left, exists_eq_left, exists_const] at h
      obtain ⟨-, -, hcap, rfl⟩ := h
      constructor
      · intro p hp
        rw [Function.update_self] at hp
        obtain rfl := Option.some.inj hp
        exact hcap
      · intro i r hr
        rw [Function.update_of_ne (by simp)] at hr
        exact hs.records i r hr
  | start_cooldown _ pause_id =>
      simp only [exec, start_cooldown, get_recovery_protocol, bind_eq_ok, check_guardian_permission_eq_ok,
        pause_level_eq_ok, load_eq_ok, panic_if_eq_ok, not_not, pure_eq_ok, reads_eq_ok, save_eq_ok, and_assoc,
        exists_and_left, exists_eq_left, exists_const] at h
      obtain ⟨-, -, -, rfl⟩ := h
      constructor
      · intro p hp
        rw [Function.update_of_ne (by simp)] at hp
        exact hs.protocol p hp
      · intro i r hr
        by_cases hi : i = pause_id
        · rw [hi, Function.update_self] at hr
          obtain rfl := Option.some.inj hr
          cases hprotocol : s .RecoveryProtocol with
          | none => exact (by decide : DEFAULT_PROVISIONAL_RATE_CAP_BPS ≤ 10000)
          | some p => exact hs.protocol p hprotocol
        · rw [Function.update_of_ne (by simpa using hi)] at hr
          exact hs.records i r hr
  | set_trigger_config =>
      simp only [exec, set_trigger_config, bind_eq_ok, only_admin_eq_ok, load_eq_ok, save_eq_ok, and_assoc,
        exists_and_left, exists_eq_left] at h
      obtain ⟨-, -, rfl⟩ := h
      exact hs.congr (by simp) fun i => by simp
  | add_to_address_whitelist | add_asset_to_whitelist =>
      simp only [exec, add_to_address_whitelist, add_asset_to_whitelist, bind_eq_ok, only_admin_eq_ok, load_eq_ok,
        get_config_eq_ok, panic_if_eq_ok, host_eq_ok, HostCalls.push_back_eq_ok, save_eq_ok, and_assoc, exists_and_left,
        exists_eq_left] at h
      obtain ⟨-, _, config, -, -, -, -, -, -, rfl⟩ := h
      exact hs.congr (by simp) fun i => by simp
  | _ => exact capped_of_outcome hs (outcome_of_exec h) rfl (by simp) (by simp)

theorem run_capped : Capped (run empty_storage calls) := by
  have hempty : Capped empty_storage :=
    ⟨fun _ hp => absurd hp.symm (Option.some_ne_none _), fun _ _ hr => absurd hr.symm (Option.some_ne_none _)⟩
  exact run_invariant (fun hs _ h => capped_step hs h) hempty
    (Along.of_forall fun _ _ _ => trivial : Along exec (fun _ _ => True) empty_storage calls)

/-- The numbers of the pauses begin with one. -/
theorem run_zero : run empty_storage calls (.PauseState 0) = none := by
  let I (s : BreakerStorage) : Prop := Founded s ∧ s (.PauseState 0) = none
  have hrun : I (run empty_storage calls) := by
    refine run_invariant (I := I) ?_ ⟨founded_empty, rfl⟩
      (Along.of_forall fun _ _ _ => trivial : Along exec (fun _ _ => True) empty_storage calls)
    rintro s t s' ⟨hfounded, hnone⟩ - h
    have houtcome := outcome_of_exec h
    refine ⟨fun hopen => absurd hopen (opened_step hfounded houtcome), ?_⟩
    rcases (pauses_step hfounded houtcome).2 0 with heq | hlifted | hnew
    · rw [heq, hnone]
    · exact hlifted
    · exact absurd hnew.1 (Nat.not_lt_zero _)
  exact hrun.2

/-- The loops come to every pause. -/
theorem Matching.mem_id_range (h : Matching (run empty_storage calls) scope i) :
    i ∈ id_range 1 ((run empty_storage calls .PauseCount).getD 0) := by
  obtain ⟨p, hp, -⟩ := h
  have hle : i.toNat ≤ ((run empty_storage calls .PauseCount).getD 0).toNat := run_numbered.pauses i p hp
  have hpos : i ≠ 0 := by
    rintro rfl
    rw [run_zero] at hp
    cases hp
  have hpos' : i.toNat ≠ 0 := fun h => hpos (UInt32.toNat_inj.mp h)
  refine CircuitBreaker.mem_id_range.mpr ⟨?_, hle⟩
  rw [UInt32.toNat_one]
  omega

/-! ## The loops -/

variable {contract : Address}

/-- No record says that its pause is restored. -/
def Unrestored (s : BreakerStorage) : Prop := ∀ i r, s (.CooldownState i) = some r → r.stage ≠ .FullyRestored

theorem run_unrestored : Unrestored (run empty_storage calls) := by
  intro i r hr hstage
  cases run_history hr with
  | tripped _ htripped =>
      rw [hstage] at htripped
      cases htripped
  | provisional _ hprovisional =>
      rw [hstage] at hprovisional
      cases hprovisional

theorem get_pause_state_eq (contract : Address) (i : U32) (env : Ledger) (s : BreakerStorage) :
    get_pause_state contract i env s = .ok ((s (.PauseState i)).getD (no_pause contract), s) := rfl

theorem min_u32_choice (x y : U32) : min_u32 x y = x ∨ min_u32 x y = y := by
  unfold min_u32
  split
  · exact .inl rfl
  · exact .inr rfl

theorem min_u32_le (x y : U32) : min_u32 x y ≤ x ∧ min_u32 x y ≤ y := by
  unfold min_u32
  split
  · next hle => exact ⟨UInt32.le_refl _, hle⟩
  · next hle => exact ⟨UInt32.le_of_lt (UInt32.not_le.mp hle), UInt32.le_refl _⟩

/-- A turn of the loop over a pause that does not match. -/
theorem volume_cap_loop_skip {ids : List U32} (h : ¬Matching s scope i) :
    volume_cap_loop contract scope (i :: ids) cap env s = volume_cap_loop contract scope ids cap env s := by
  rw [volume_cap_loop, bind_of_ok (get_pause_state_eq contract i env s)]
  cases hp : s (.PauseState i) with
  | none => rfl
  | some p =>
      rw [Option.getD_some]
      by_cases hlevel : p.level = .None
      · rw [if_pos hlevel]
      · have hscope : scopes_match p.scope scope = false :=
          Bool.eq_false_of_not_eq_true fun hmatch => h ⟨p, hp, hlevel, hmatch⟩
        rw [if_neg hlevel, if_pos hscope]

/-- A turn over one that matches: the cap of the pause counts, and nothing is less than zero. -/
theorem volume_cap_loop_match {ids : List U32} (hs : Unrestored s) (h : Matching s scope i) :
    volume_cap_loop contract scope (i :: ids) cap env s = .ok (0, s) ∧ pause_cap s i = 0 ∨
      volume_cap_loop contract scope (i :: ids) cap env s =
        volume_cap_loop contract scope ids (min_u32 cap (pause_cap s i)) env s := by
  obtain ⟨p, hp, hlevel, hscope⟩ := h
  rw [volume_cap_loop, bind_of_ok (get_pause_state_eq contract i env s), hp,
    Option.getD_some, if_neg hlevel, if_neg (by simp [hscope]),
    bind_of_ok (load_eq_ok.mpr ⟨rfl, rfl⟩ : get (.CooldownState i) env s = _), pause_cap]
  cases hr : s (.CooldownState i) with
  | none =>
      left
      cases p.scope <;> exact ⟨rfl, rfl⟩
  | some r =>
      rw [Option.elim_some]
      cases hstage : r.stage with
      | Tripped =>
          left
          cases p.scope <;> simp only [hstage] <;> exact ⟨rfl, rfl⟩
      | ProvisionalCooldown =>
          right
          cases p.scope <;> simp only [hstage] <;> rfl
      | FullyRestored => exact absurd hstage (hs i r hr)

/-- **The loop** takes the least of the caps that it comes to. -/
theorem volume_cap_loop_spec (hs : Unrestored s) (contract : Address) (scope : PauseScope) (ids : List U32) (cap : U32)
    (env : Ledger) :
    ∃ result, volume_cap_loop contract scope ids cap env s = .ok (result, s) ∧ result ≤ cap ∧
      (∀ i ∈ ids, Matching s scope i → result ≤ pause_cap s i) ∧
      (result = cap ∨ ∃ i ∈ ids, Matching s scope i ∧ result = pause_cap s i) := by
  induction ids generalizing cap with
  | nil => exact ⟨cap, rfl, UInt32.le_refl _, fun _ hi => absurd hi List.not_mem_nil, .inl rfl⟩
  | cons i _ ih =>
      by_cases hmatch : Matching s scope i
      · rcases volume_cap_loop_match hs hmatch with ⟨hloop, hzero⟩ | hloop
        · refine ⟨0, hloop, UInt32.zero_le, fun _ _ _ => UInt32.zero_le, .inr ⟨i, List.mem_cons_self, hmatch, ?_⟩⟩
          exact hzero.symm
        · obtain ⟨result, hok, hle, hall, hleast⟩ := ih (min_u32 cap (pause_cap s i))
          obtain ⟨hleft, hright⟩ := min_u32_le cap (pause_cap s i)
          refine ⟨result, hloop.trans hok, UInt32.le_trans hle hleft, fun j hj hmatch' => ?_, ?_⟩
          · rcases List.mem_cons.mp hj with rfl | hj
            · exact UInt32.le_trans hle hright
            · exact hall j hj hmatch'
          · rcases hleast with heq | ⟨j, hj, hleast⟩
            · rcases min_u32_choice cap (pause_cap s i) with hmin | hmin
              · exact .inl (heq.trans hmin)
              · exact .inr ⟨i, List.mem_cons_self, hmatch, heq.trans hmin⟩
            · exact .inr ⟨j, List.mem_cons_of_mem _ hj, hleast⟩
      · obtain ⟨result, hok, hle, hall, hleast⟩ := ih cap
        refine ⟨result, (volume_cap_loop_skip hmatch).trans hok, hle, fun j hj hmatch' => ?_, ?_⟩
        · rcases List.mem_cons.mp hj with rfl | hj
          · exact absurd hmatch' hmatch
          · exact hall j hj hmatch'
        · rcases hleast with heq | ⟨j, hj, hleast⟩
          · exact .inl heq
          · exact .inr ⟨j, List.mem_cons_of_mem _ hj, hleast⟩

theorem is_paused_loop_spec (contract : Address) (scope : PauseScope) (ids : List U32) (env : Ledger)
    (s : BreakerStorage) :
    ∃ paused, is_paused_loop contract scope ids env s = .ok (paused, s) ∧
      (paused = true ↔ ∃ i ∈ ids, Matching s scope i) := by
  induction ids with
  | nil => exact ⟨false, rfl, by simp⟩
  | cons i _ ih =>
      obtain ⟨paused, hok, hiff⟩ := ih
      rw [is_paused_loop, bind_of_ok (get_pause_state_eq contract i env s)]
      by_cases hmatch : Matching s scope i
      · obtain ⟨p, hp, hlevel, hscope⟩ := hmatch
        rw [hp, Option.getD_some, if_pos ⟨hlevel, hscope⟩]
        exact ⟨true, rfl, iff_of_true rfl ⟨i, List.mem_cons_self, p, hp, hlevel, hscope⟩⟩
      · refine ⟨paused, ?_, ?_⟩
        · rw [if_neg, hok]
          rintro ⟨hlevel, hscope⟩
          cases hp : s (.PauseState i) with
          | none =>
              rw [hp] at hlevel
              exact hlevel rfl
          | some p =>
              rw [hp] at hlevel hscope
              exact hmatch ⟨p, hp, hlevel, hscope⟩
        · rw [hiff, List.exists_mem_cons_iff, or_iff_right hmatch]

/-! ## The cap of a run -/

/-- **The volume cap** is the least cap of the active pauses that match, and the whole volume if there is none, as
when the scope is not paused. -/
theorem effective_volume_cap_run (calls : List (Ledger × EntryPoint)) (contract : Address) (scope : PauseScope)
    (env : Ledger) :
    ∃ cap paused, effective_volume_cap_bps contract scope env (run empty_storage calls) =
        .ok (cap, run empty_storage calls) ∧
      is_paused contract scope env (run empty_storage calls) = .ok (paused, run empty_storage calls) ∧
      ((∃ i, Matching (run empty_storage calls) scope i) →
        IsLeast (pause_cap (run empty_storage calls) '' {i | Matching (run empty_storage calls) scope i}) cap) ∧
      ((∀ i, ¬Matching (run empty_storage calls) scope i) → cap = 10000) ∧ (paused = false → cap = 10000) := by
  let ids := id_range 1 ((run empty_storage calls .PauseCount).getD 0)
  obtain ⟨cap, hok, hle, hall, hleast⟩ :=
    volume_cap_loop_spec (run_unrestored : Unrestored (run empty_storage calls)) contract scope ids 10000 env
  obtain ⟨paused, hpaused, hiff⟩ := is_paused_loop_spec contract scope ids env (run empty_storage calls)
  have hnone (h : ∀ i, ¬Matching (run empty_storage calls) scope i) : cap = 10000 := by
    rcases hleast with heq | ⟨i, _, hmatch, _⟩
    · exact heq
    · exact absurd hmatch (h i)
  refine ⟨cap, paused, hok, hpaused, fun ⟨i, hmatch⟩ => ⟨?_, ?_⟩, hnone, fun hnot => hnone fun i hmatch => ?_⟩
  · rcases hleast with heq | ⟨j, _, hmatch', heq⟩
    · -- a cap of the whole volume is not below that of the pause
      refine ⟨i, hmatch, ?_⟩
      have hwhole : pause_cap (run empty_storage calls) i ≤ 10000 := by
        unfold pause_cap
        cases hr : run empty_storage calls (.CooldownState i) with
        | none => exact UInt32.zero_le
        | some r =>
            rw [Option.elim_some]
            split
            · exact run_capped.records i r hr
            · exact UInt32.zero_le
      rw [heq]
      exact UInt32.le_antisymm hwhole (heq ▸ hall i hmatch.mem_id_range hmatch)
    · exact ⟨j, hmatch', heq.symm⟩
  · rintro _ ⟨j, hmatch', rfl⟩
    exact hall j hmatch'.mem_id_range hmatch'
  · rw [hiff.mpr ⟨i, hmatch.mem_id_range, hmatch⟩] at hnot
    cases hnot

end Caps

end BridgeWatch.CircuitBreaker

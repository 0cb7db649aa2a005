/-
What a call of the circuit breaker does.

The entry points are read here once, and `outcome_of_exec` is all that the later files use of them, but for the
end of a cooldown: what a restoration needs is an equivalence. A pause is made under a new number, so the pauses of
a storage are those of the storage before and one more, or one less.
-/
import BridgeWatch.CircuitBreaker

set_option autoImplicit false

namespace BridgeWatch.CircuitBreaker

open Transaction
open Contract (U32 U64 I128 SString Address saturating_sub_u32)

/-! ## Views of the storage -/

def guardians (s : BreakerStorage) : List GuardianInfo := (s .Guardians).getD []

def requests (s : BreakerStorage) : List RecoveryRequest := (s .RecoveryRequests).getD []

/-- The number of the last pause. -/
def pause_count (s : BreakerStorage) : ℕ := ((s .PauseCount).getD 0).toNat

/-- The address is that of a guardian, who is active. -/
def IsActive (s : BreakerStorage) (a : Address) : Prop := ∃ g ∈ guardians s, g.address = a ∧ g.active = true

/-- The address is that of an active guardian with a role that the required role admits. -/
def Permitted (s : BreakerStorage) (a : Address) (role : GuardianRole) : Prop :=
  ∃ g ∈ guardians s, g.address = a ∧ g.active = true ∧ role_permits g.role role = true

theorem Permitted.active {s : BreakerStorage} {a : Address} {role : GuardianRole} (h : Permitted s a role) :
    IsActive s a := by
  obtain ⟨g, hg, haddress, hactive, -⟩ := h
  exact ⟨g, hg, haddress, hactive⟩

/-- The scope that a call pauses. -/
def paused_scope : EntryPoint → Option PauseScope
  | .pause_global _ _ => some .Global
  | .pause_bridge _ bridge_id _ => some (.Bridge bridge_id)
  | .pause_asset _ asset_code _ => some (.Asset asset_code)
  | _ => none

/-- The call is one of the admin's that no recovery depends on. -/
def is_setting : EntryPoint → Bool
  | .set_trigger_config .. => true
  | .add_to_address_whitelist .. => true
  | .add_asset_to_whitelist .. => true
  | .set_recovery_protocol .. => true
  | _ => false

/-- The health check of the record passes: no later pause is an anomaly. -/
def Healthy (s : BreakerStorage) (record : CooldownRecord) (scope : PauseScope) : Prop :=
  ∀ (i : U32) (other : PauseState), record.pause_id.toNat < i.toNat → i.toNat ≤ pause_count s →
    s (.PauseState i) = some other → ¬is_anomaly record scope other

/-- The ledgers since a stage began. -/
def ledgers_since (env : Ledger) (record : CooldownRecord) : ℕ :=
  env.sequence.toNat - record.stage_started_ledger.toNat

/-- **What a successful call can do.** -/
inductive Outcome (env : Ledger) (s : BreakerStorage) : EntryPoint → BreakerStorage → Prop
  | opened {config : CircuitBreakerConfig} {s' : BreakerStorage} (hnone : s .Config = none)
      (hconfig : s' .Config = some config) (hcount : pause_count s' = 0) (hguardians : guardians s' = [])
      (hrequests : requests s' = []) (hpauses : ∀ id, s' (.PauseState id) = s (.PauseState id))
      (hcooldowns : ∀ id, s' (.CooldownState id) = s (.CooldownState id)) :
      Outcome env s (.initialize_breaker config) s'
  | appointed {caller a : Address} {role : GuardianRole} {s' : BreakerStorage} (hopen : s .Config ≠ none)
      (hnew : ∀ g ∈ guardians s, g.address ≠ a)
      (hguardians : guardians s' = guardians s ++ [⟨a, role, env.timestamp, true⟩])
      (hframe : ∀ key, key ≠ .Guardians → s' key = s key) : Outcome env s (.add_guardian caller a role) s'
  | dismissed {caller a : Address} {s' : BreakerStorage} (hopen : s .Config ≠ none)
      (hguardians : guardians s' = (guardians s).filter fun g => g.address ≠ a)
      (hframe : ∀ key, key ≠ .Guardians → s' key = s key) : Outcome env s (.remove_guardian caller a) s'
  | paused {call : EntryPoint} {scope : PauseScope} {id : U32} {p : PauseState} {s' : BreakerStorage}
      (hopen : s .Config ≠ none) (hkind : paused_scope call = some scope) (hid : id.toNat = pause_count s + 1)
      (hcount : s' .PauseCount = some id) (hpause : s' (.PauseState id) = some p) (hscope : p.scope = scope)
      (hactive : p.level ≠ .None) (htime : p.timestamp = env.timestamp)
      (hframe : ∀ key, key ∉ [DataKey.PauseCount, .PauseState id] → s' key = s key) : Outcome env s call s'
  | requested {caller : Address} {id : U32} {p : PauseState} {r : RecoveryRequest} {s' : BreakerStorage}
      (hpermit : Permitted s caller .StandardGuardian) (hload : s (.PauseState id) = some p) (hactive : p.level ≠ .None)
      (hnew : ∀ q ∈ requests s, q.pause_id ≠ id) (hpause : r.pause_id = id) (happrovals : r.approvals = 1)
      (hrequests : requests s' = requests s ++ [r]) (hframe : ∀ key, key ≠ .RecoveryRequests → s' key = s key) :
      Outcome env s (.request_recovery caller id) s'
  | approved {caller : Address} {id : U32} {before after : List RecoveryRequest} {r : RecoveryRequest}
      {s' : BreakerStorage} (hpermit : Permitted s caller .StandardGuardian) (hsplit : requests s = before ++ r :: after)
      (hfirst : ∀ q ∈ before, q.pause_id ≠ id) (hpause : r.pause_id = id) (hfits : r.approvals.toNat + 1 < 2 ^ 32)
      (hrequests : requests s' = before ++ { r with approvals := r.approvals + 1 } :: after)
      (hframe : ∀ key, key ≠ .RecoveryRequests → s' key = s key) : Outcome env s (.approve_recovery caller id) s'
  | recovered {caller : Address} {id : U32} {before after : List RecoveryRequest} {r : RecoveryRequest}
      {s' : BreakerStorage} (hpermit : Permitted s caller .StandardGuardian) (hsplit : requests s = before ++ r :: after)
      (hfirst : ∀ q ∈ before, q.pause_id ≠ id) (hpause : r.pause_id = id) (hthreshold : r.threshold ≤ r.approvals)
      (hrequests : requests s' = before ++ after) (hlifted : s' (.PauseState id) = none)
      (hframe : ∀ key, key ∉ [DataKey.RecoveryRequests, .PauseState id] → s' key = s key) :
      Outcome env s (.execute_recovery caller id) s'
  | adjusted {call : EntryPoint} {s' : BreakerStorage} (hopen : s .Config ≠ none) (hkind : is_setting call = true)
      (hframe : ∀ key, key ∉ [DataKey.TriggerConfigs, .WhitelistAddresses, .WhitelistAssets, .RecoveryProtocol] →
        s' key = s key) : Outcome env s call s'
  | started {caller : Address} {id : U32} {p : PauseState} {r : CooldownRecord} {s' : BreakerStorage}
      (hpermit : Permitted s caller .StandardGuardian) (hload : s (.PauseState id) = some p) (hactive : p.level ≠ .None)
      (hnone : s (.CooldownState id) = none) (hrecord : s' (.CooldownState id) = some r) (hid : r.pause_id = id)
      (hstage : r.stage = .Tripped) (hledger : r.stage_started_ledger = env.sequence)
      (hframe : ∀ key, key ≠ .CooldownState id → s' key = s key) : Outcome env s (.start_cooldown caller id) s'
  | advanced {id : U32} {r : CooldownRecord} {s' : BreakerStorage} (hload : s (.CooldownState id) = some r)
      (hstage : r.stage = .Tripped) (helapsed : r.cooldown_ledger_count.toNat ≤ ledgers_since env r)
      (hrecord : s' (.CooldownState id) =
        some { r with stage := .ProvisionalCooldown, stage_started_ledger := env.sequence })
      (hframe : ∀ key, key ≠ .CooldownState id → s' key = s key) : Outcome env s (.evaluate_cooldown id) s'
  | restored {id : U32} {r : CooldownRecord} {s' : BreakerStorage} (hload : s (.CooldownState id) = some r)
      (hstage : r.stage = .ProvisionalCooldown) (helapsed : r.recovery_window_ledgers.toNat ≤ ledgers_since env r)
      (hlifted : s' (.PauseState id) = none) (hrecord : s' (.CooldownState id) = none)
      (hframe : ∀ key, key ∉ [DataKey.PauseState id, .CooldownState id] → s' key = s key) :
      Outcome env s (.evaluate_cooldown id) s'

/-! ## The private helpers -/

section Inversion

variable {env : Ledger} {s s' : BreakerStorage} {caller a : Address} {id : U32} {w : Unit}

@[simp] theorem host_eq_ok {α : Type} {m : Tx Contract.Env DataKey DataKey.Val α} {r : α × BreakerStorage} :
    host m env s = .ok r ↔ m env.toEnv s = .ok r := Iff.rfl

@[simp] theorem get_config_eq_ok {config : CircuitBreakerConfig} :
    get_config env s = .ok (config, s') ↔ s .Config = some config ∧ s' = s := by
  simp only [get_config, bind_eq_ok, load_eq_ok, expect_eq_ok, and_assoc, exists_and_left, exists_eq_left]

@[simp] theorem only_admin_eq_ok :
    only_admin caller env s = .ok (w, s') ↔
      (∃ config, s .Config = some config ∧ caller = config.admin ∧ env.auth caller = true) ∧ s' = s := by
  simp only [only_admin, bind_eq_ok, get_config_eq_ok, panic_if_eq_ok, not_not, host_eq_ok,
    HostCalls.require_auth_eq_ok, and_assoc, exists_and_left, exists_eq_left, exists_const]
  constructor
  · rintro ⟨config, hconfig, hadmin, hauth, rfl⟩
    exact ⟨⟨config, hconfig, hadmin, hauth⟩, rfl⟩
  · rintro ⟨⟨config, hconfig, hadmin, hauth⟩, rfl⟩
    exact ⟨config, hconfig, hadmin, hauth, rfl⟩

theorem open_of_admin (h : ∃ config, s .Config = some config ∧ caller = config.admin ∧ env.auth caller = true) :
    s .Config ≠ none := by
  obtain ⟨config, hconfig, -⟩ := h
  rw [hconfig]
  exact Option.some_ne_none config

@[simp] theorem check_guardian_permission_eq_ok {role : GuardianRole} :
    check_guardian_permission caller role env s = .ok (w, s') ↔ Permitted s caller role ∧ s' = s := by
  simp only [check_guardian_permission, bind_eq_ok, load_eq_ok, panic_if_eq_ok, not_not, and_assoc, exists_and_left,
    exists_eq_left, Permitted, guardians]

@[simp] theorem get_next_pause_id_eq_ok :
    get_next_pause_id env s = .ok (id, s') ↔
      (pause_count s + 1 < 2 ^ 32 ∧ id = (s .PauseCount).getD 0 + 1) ∧
        s' = Function.update s .PauseCount (some id) := by
  simp only [get_next_pause_id, bind_eq_ok, load_eq_ok, host_eq_ok, HostCalls.checked_add_u32_eq_ok, save_eq_ok,
    pure_eq_ok, and_assoc, exists_and_left, exists_eq_left, exists_const, pause_count]
  constructor
  · rintro ⟨hfits, rfl, rfl⟩
    exact ⟨hfits, rfl, rfl⟩
  · rintro ⟨hfits, rfl, rfl⟩
    exact ⟨hfits, rfl, rfl⟩

@[simp] theorem pause_level_eq_ok {level : PauseLevel} :
    pause_level id env s = .ok (level, s') ↔ level = (s (.PauseState id)).elim .None PauseState.level ∧ s' = s := by
  simp only [pause_level, bind_eq_ok, load_eq_ok, pure_eq_ok, and_assoc, exists_and_left, exists_eq_left]

theorem exists_pause (h : (s (.PauseState id)).elim .None PauseState.level ≠ .None) :
    ∃ p, s (.PauseState id) = some p ∧ p.level ≠ .None := by
  cases hp : s (.PauseState id) with
  | none => simp [hp] at h
  | some p =>
      rw [hp] at h
      exact ⟨p, rfl, h⟩

/-- The approval goes to the first request for the pause. -/
theorem approve_first_eq_ok {rs rs' : List RecoveryRequest} :
    approve_first id rs env s = .ok (rs', s') →
      (∃ before r after, rs = before ++ r :: after ∧ (∀ q ∈ before, q.pause_id ≠ id) ∧ r.pause_id = id ∧
        r.approvals.toNat + 1 < 2 ^ 32 ∧ rs' = before ++ { r with approvals := r.approvals + 1 } :: after) ∧
          s' = s := by
  induction rs generalizing rs' with
  | nil => simp [approve_first]
  | cons r rs ih =>
      by_cases hr : r.pause_id = id
      · rw [approve_first, if_pos hr]
        simp only [bind_eq_ok, host_eq_ok, HostCalls.checked_add_u32_eq_ok, pure_eq_ok, and_assoc, exists_and_left,
          exists_eq_left]
        rintro ⟨hfits, rfl, rfl⟩
        exact ⟨⟨[], r, rs, rfl, by simp, hr, hfits, rfl⟩, rfl⟩
      · rw [approve_first, if_neg hr]
        simp only [bind_eq_ok, pure_eq_ok]
        rintro ⟨rs₁, s₁, hrest, rfl, rfl⟩
        obtain ⟨⟨before, q, after, rfl, hfirst, hq, hfits, rfl⟩, rfl⟩ := ih hrest
        refine ⟨⟨r :: before, q, after, rfl, ?_, hq, hfits, rfl⟩, rfl⟩
        simpa [hr] using hfirst

/-! ## The loop of the health check -/

@[simp] theorem mem_id_range {first last i : U32} :
    i ∈ id_range first last ↔ first.toNat ≤ i.toNat ∧ i.toNat ≤ last.toNat := by
  simp only [id_range, List.mem_map, List.mem_range'_1]
  constructor
  · rintro ⟨n, ⟨hfirst, hlast⟩, rfl⟩
    have hlt := last.toNat_lt
    rw [UInt32.toNat_ofNat_of_lt' (by rw [UInt32.size]; omega)]
    omega
  · rintro ⟨hfirst, hlast⟩
    exact ⟨i.toNat, by omega, UInt32.ofNat_toNat⟩

@[simp] theorem health_check_eq_ok {record : CooldownRecord} {scope : PauseScope} {current i : U32} :
    health_check id record scope current i env s = .ok (w, s') ↔
      (∀ other, s (.PauseState i) = some other → ¬is_anomaly record scope other) ∧ s' = s := by
  simp only [health_check, bind_eq_ok, load_eq_ok, and_assoc, exists_and_left, exists_eq_left, elim_eq_ok, pure_eq_ok,
    exec_if_eq_ok, panic_eq_ok, and_false, exists_false, false_or]
  cases s (.PauseState i) with
  | none => simp
  | some => simp

/-- The scan passes where every turn of it does. -/
theorem scan_eq_ok {record : CooldownRecord} {scope : PauseScope} {current : U32} {ids : List U32} {w' : Unit} :
    ids.foldlM (fun _ i => health_check id record scope current i) w env s = .ok (w', s') ↔
      (∀ i ∈ ids, ∀ other, s (.PauseState i) = some other → ¬is_anomaly record scope other) ∧ s' = s := by
  induction ids generalizing w with
  | nil => simp
  | cons _ _ ih =>
      simp only [List.foldlM_cons, bind_eq_ok, health_check_eq_ok, List.mem_cons, forall_eq_or_imp]
      constructor
      · rintro ⟨_, s₁, ⟨hi, rfl⟩, hrest⟩
        obtain ⟨hids, rfl⟩ := ih.mp hrest
        exact ⟨⟨hi, hids⟩, rfl⟩
      · rintro ⟨⟨hi, hids⟩, rfl⟩
        exact ⟨(), s', ⟨hi, rfl⟩, ih.mpr ⟨hids, rfl⟩⟩

theorem not_lt_saturating_sub {x y z : U32} : ¬saturating_sub_u32 x y < z ↔ z.toNat ≤ x.toNat - y.toNat := by
  rw [UInt32.not_lt, UInt32.le_iff_toNat_le, saturating_sub_u32]
  split_ifs with h
  · rw [UInt32.lt_iff_toNat_lt] at h
    rw [show UInt32.toNat 0 = 0 from rfl]
    omega
  · rw [UInt32.toNat_sub_of_le _ _ (UInt32.not_lt.mp h)]

theorem toNat_succ {x : U32} (h : x.toNat + 1 < 2 ^ 32) : (x + 1).toNat = x.toNat + 1 := by
  rw [UInt32.toNat_add, show UInt32.toNat 1 = 1 from rfl]
  omega

@[simp] theorem health_scan_eq_ok {r : CooldownRecord} {current : U32} {p : PauseState} :
    health_scan id r current p env s = .ok (w, s') ↔
      (r.pause_id.toNat + 1 < 2 ^ 32 ∧ Healthy s r p.scope) ∧ s' = s := by
  simp only [health_scan, bind_eq_ok, load_eq_ok, host_eq_ok, HostCalls.checked_add_u32_eq_ok, scan_eq_ok, and_assoc,
    exists_and_left, exists_eq_left, show UInt32.toNat 1 = 1 from rfl, mem_id_range]
  refine and_congr_right fun hfits => and_congr_left fun _ => ?_
  rw [toNat_succ hfits]
  constructor
  · intro h i other hlater hlast
    exact h i ⟨hlater, hlast⟩ other
  · rintro h i ⟨hlater, hlast⟩ other
    exact h i other hlater hlast

/-- **A restoration**: the window is over and the health check passes. -/
theorem restore_eq_ok {r : CooldownRecord} (hload : s (.CooldownState id) = some r)
    (hstage : r.stage = .ProvisionalCooldown) :
    evaluate_cooldown id env s = .ok ((), s') ↔
      r.recovery_window_ledgers.toNat ≤ ledgers_since env r ∧
        (∀ p, s (.PauseState id) = some p → r.pause_id.toNat + 1 < 2 ^ 32 ∧ Healthy s r p.scope) ∧
          s' = Function.update (Function.update s (.PauseState id) none) (.CooldownState id) none := by
  simp only [evaluate_cooldown, bind_eq_ok, load_eq_ok, expect_eq_ok, reads_eq_ok, hload, Option.some.injEq, and_assoc,
    exists_and_left, exists_eq_left, exists_eq_left', hstage, panic_if_eq_ok, not_lt_saturating_sub, elim_eq_ok,
    pure_eq_ok, health_scan_eq_ok, remove_eq_ok, exists_const]
  refine and_congr_right fun _ => ?_
  cases hp : s (.PauseState id) with
  | none => simp
  | some => simp [and_assoc]

/-! ## The calls -/

theorem opened_of_ok {config : CircuitBreakerConfig} (h : initialize_breaker config env s = .ok ((), s')) :
    Outcome env s (.initialize_breaker config) s' := by
  simp only [initialize_breaker, bind_eq_ok, host_eq_ok, HostCalls.require_auth_eq_ok, load_eq_ok, panic_if_eq_ok,
    not_not, Option.isNone_iff_eq_none, save_eq_ok, and_assoc, exists_and_left, exists_eq_left, exists_const] at h
  obtain ⟨-, hnone, rfl⟩ := h
  refine .opened hnone ?_ ?_ ?_ ?_ ?_ ?_
  all_goals simp [pause_count, guardians, requests]

theorem appointed_of_ok {role : GuardianRole} (h : add_guardian caller a role env s = .ok ((), s')) :
    Outcome env s (.add_guardian caller a role) s' := by
  simp only [add_guardian, bind_eq_ok, only_admin_eq_ok, load_eq_ok, panic_if_eq_ok, reads_eq_ok, host_eq_ok,
    HostCalls.push_back_eq_ok, save_eq_ok, and_assoc, exists_and_left, exists_eq_left, exists_const] at h
  obtain ⟨hadmin, hnew, -, rfl⟩ := h
  refine .appointed (open_of_admin hadmin) (fun g hg haddress => hnew ⟨g, hg, haddress⟩) ?_ ?_
  · simp [guardians]
  · simp +contextual

theorem dismissed_of_ok (h : remove_guardian caller a env s = .ok ((), s')) :
    Outcome env s (.remove_guardian caller a) s' := by
  simp only [remove_guardian, bind_eq_ok, only_admin_eq_ok, load_eq_ok, panic_if_eq_ok, save_eq_ok, and_assoc,
    exists_and_left, exists_eq_left, exists_const] at h
  obtain ⟨hadmin, -, rfl⟩ := h
  refine .dismissed (open_of_admin hadmin) ?_ ?_
  · simp [guardians]
  · simp +contextual

theorem paused_of_ok {call : EntryPoint} {role : GuardianRole} {scope : PauseScope} {level : PauseLevel}
    {delay : CircuitBreakerConfig → U64} {reason : SString} (hkind : paused_scope call = some scope)
    (hlevel : level ≠ .None) (h : pause caller role scope level delay reason env s = .ok ((), s')) :
    Outcome env s call s' := by
  simp only [pause, bind_eq_ok, check_guardian_permission_eq_ok, get_next_pause_id_eq_ok, get_config_eq_ok, reads_eq_ok,
    host_eq_ok, HostCalls.checked_add_u64_eq_ok, save_eq_ok, and_assoc, exists_and_left, exists_eq_left,
    exists_const] at h
  obtain ⟨-, hfits, config, hconfig, -, rfl⟩ := h
  have hopen : s .Config ≠ none := by
    rw [Function.update_of_ne (by simp)] at hconfig
    rw [hconfig]
    exact Option.some_ne_none config
  refine .paused hopen hkind (toNat_succ hfits) ?_ (Function.update_self ..) rfl hlevel rfl ?_
  · simp
  · simp +contextual

theorem requested_of_ok (h : request_recovery caller id env s = .ok ((), s')) :
    Outcome env s (.request_recovery caller id) s' := by
  simp only [request_recovery, bind_eq_ok, check_guardian_permission_eq_ok, pause_level_eq_ok, load_eq_ok, panic_if_eq_ok,
    not_not, get_config_eq_ok, reads_eq_ok, host_eq_ok, HostCalls.push_back_eq_ok, save_eq_ok, and_assoc,
    exists_and_left, exists_eq_left, exists_const] at h
  obtain ⟨hpermit, hlevel, hnew, config, -, -, rfl⟩ := h
  obtain ⟨p, hp, hactive⟩ := exists_pause hlevel
  have hrequests : requests (Function.update s .RecoveryRequests (some ((s .RecoveryRequests).getD [] ++
      [⟨id, caller, env.timestamp, 1, config.guardian_threshold⟩]))) =
        requests s ++ [⟨id, caller, env.timestamp, 1, config.guardian_threshold⟩] := by
    simp [requests]
  refine .requested hpermit hp hactive (fun q hq hid => hnew ⟨q, hq, hid⟩) (by rfl) (by rfl) hrequests ?_
  simp +contextual

theorem approved_of_ok (h : approve_recovery caller id env s = .ok ((), s')) :
    Outcome env s (.approve_recovery caller id) s' := by
  simp only [approve_recovery, bind_eq_ok, check_guardian_permission_eq_ok, load_eq_ok, save_eq_ok, and_assoc,
    exists_and_left, exists_eq_left, exists_const] at h
  obtain ⟨hpermit, rs, s₁, happrove, rfl⟩ := h
  obtain ⟨⟨before, r, after, hsplit, hfirst, hr, hfits, rfl⟩, rfl⟩ := approve_first_eq_ok happrove
  refine .approved hpermit hsplit hfirst hr hfits ?_ ?_
  · simp [requests]
  · simp +contextual

theorem recovered_of_ok (h : execute_recovery caller id env s = .ok ((), s')) :
    Outcome env s (.execute_recovery caller id) s' := by
  simp only [execute_recovery, bind_eq_ok, check_guardian_permission_eq_ok, load_eq_ok, panic_if_eq_ok, not_not,
    save_eq_ok, remove_eq_ok, and_assoc, exists_and_left, exists_eq_left, exists_const] at h
  obtain ⟨hpermit, ⟨r, hfind, hthreshold⟩, rfl⟩ := h
  -- What is found is what is erased.
  obtain ⟨hr, before, after, hsplit, hfirst⟩ := List.find?_eq_some_iff_append.mp hfind
  rw [decide_eq_true_eq] at hr
  have herase : (requests s).eraseP (fun req => req.pause_id = id) = before ++ after := by
    rw [show requests s = before ++ r :: after from hsplit, List.eraseP_append_right _ (by simpa using hfirst),
      List.eraseP_cons_of_pos (by simpa using hr)]
  refine .recovered hpermit hsplit (fun q hq => by simpa using hfirst q hq) hr hthreshold ?_ (by simp) ?_
  · rw [← herase]
    simp [requests]
  · simp +contextual

theorem started_of_ok (h : start_cooldown caller id env s = .ok ((), s')) :
    Outcome env s (.start_cooldown caller id) s' := by
  simp only [start_cooldown, get_recovery_protocol, bind_eq_ok, check_guardian_permission_eq_ok, pause_level_eq_ok,
    load_eq_ok, panic_if_eq_ok, not_not, Option.isNone_iff_eq_none, pure_eq_ok, reads_eq_ok, save_eq_ok, and_assoc,
    exists_and_left, exists_eq_left, exists_const] at h
  obtain ⟨hpermit, hlevel, hnone, rfl⟩ := h
  obtain ⟨p, hp, hactive⟩ := exists_pause hlevel
  refine .started hpermit hp hactive hnone (Function.update_self ..) rfl rfl rfl ?_
  simp +contextual

theorem evaluated_of_ok (h : evaluate_cooldown id env s = .ok ((), s')) :
    Outcome env s (.evaluate_cooldown id) s' := by
  cases hload : s (.CooldownState id) with
  | none => simp [evaluate_cooldown, hload] at h
  | some r =>
      cases hstage : r.stage with
      | FullyRestored => simp [evaluate_cooldown, hload, hstage] at h
      | Tripped =>
          simp only [evaluate_cooldown, bind_eq_ok, load_eq_ok, expect_eq_ok, reads_eq_ok, hload, Option.some.injEq,
            and_assoc, exists_and_left, exists_eq_left, exists_eq_left', hstage, panic_if_eq_ok, not_lt_saturating_sub,
            save_eq_ok, exists_const] at h
          obtain ⟨helapsed, rfl⟩ := h
          refine .advanced hload hstage helapsed (Function.update_self ..) ?_
          simp +contextual
      | ProvisionalCooldown =>
          obtain ⟨helapsed, -, rfl⟩ := (restore_eq_ok hload hstage).mp h
          refine .restored hload hstage helapsed (by simp) (Function.update_self ..) ?_
          simp +contextual

theorem outcome_of_exec {call : EntryPoint} (h : exec call env s = .ok ((), s')) : Outcome env s call s' := by
  cases call with
  | initialize_breaker => exact opened_of_ok h
  | add_guardian => exact appointed_of_ok h
  | remove_guardian => exact dismissed_of_ok h
  | pause_global | pause_bridge | pause_asset => exact paused_of_ok rfl (by decide) h
  | request_recovery => exact requested_of_ok h
  | approve_recovery => exact approved_of_ok h
  | execute_recovery => exact recovered_of_ok h
  | start_cooldown => exact started_of_ok h
  | evaluate_cooldown => exact evaluated_of_ok h
  | set_trigger_config =>
      simp only [exec, set_trigger_config, bind_eq_ok, only_admin_eq_ok, load_eq_ok, save_eq_ok, and_assoc,
        exists_and_left, exists_eq_left, exists_const] at h
      obtain ⟨hadmin, rfl⟩ := h
      refine .adjusted (open_of_admin hadmin) rfl ?_
      simp +contextual
  | add_to_address_whitelist | add_asset_to_whitelist =>
      simp only [exec, add_to_address_whitelist, add_asset_to_whitelist, bind_eq_ok, only_admin_eq_ok, load_eq_ok,
        get_config_eq_ok, panic_if_eq_ok, host_eq_ok, HostCalls.push_back_eq_ok, save_eq_ok, and_assoc, exists_and_left,
        exists_eq_left, exists_const] at h
      obtain ⟨hadmin, config, -, -, -, -, rfl⟩ := h
      refine .adjusted (open_of_admin hadmin) rfl ?_
      simp +contextual
  | set_recovery_protocol =>
      simp only [exec, set_recovery_protocol, bind_eq_ok, only_admin_eq_ok, panic_if_eq_ok, save_eq_ok, and_assoc,
        exists_and_left, exists_eq_left, exists_const] at h
      obtain ⟨hadmin, -, rfl⟩ := h
      refine .adjusted (open_of_admin hadmin) rfl ?_
      simp +contextual

end Inversion

/-! ## Runs -/

section Runs

variable {env : Ledger} {s s' : BreakerStorage} {call : EntryPoint} {calls : List (Ledger × EntryPoint)}

/-- Nothing is stored before the contract is initialised. -/
def Founded (s : BreakerStorage) : Prop := s .Config = none → ∀ key, s key = none

theorem founded_empty : Founded empty_storage := fun _ _ => rfl

theorem Founded.opened (hs : Founded s) {key : DataKey} {value : key.Val} (h : s key = some value) :
    s .Config ≠ none := fun hnone => by
  rw [hs hnone key] at h
  cases h

theorem Founded.opened_of_permitted (hs : Founded s) {a : Address} {role : GuardianRole} (h : Permitted s a role) :
    s .Config ≠ none := fun hnone => by
  obtain ⟨g, hg, -⟩ := h
  simp [guardians, hs hnone] at hg

theorem opened_step (hs : Founded s) (h : Outcome env s call s') : s' .Config ≠ none := by
  cases h with
  | opened _ hconfig =>
      rw [hconfig]
      exact Option.some_ne_none _
  | appointed _ _ _ hframe | dismissed _ _ hframe | paused _ _ _ _ _ _ _ _ hframe | adjusted _ _ hframe =>
      rwa [hframe _ (by simp)]
  | requested _ hload _ _ _ _ _ hframe | started _ hload _ _ _ _ _ _ hframe | advanced hload _ _ _ hframe
  | restored hload _ _ _ _ hframe =>
      rw [hframe _ (by simp)]
      exact hs.opened hload
  | approved hpermit _ _ _ _ _ hframe | recovered hpermit _ _ _ _ _ _ hframe =>
      rw [hframe _ (by simp)]
      exact hs.opened_of_permitted hpermit

theorem run_founded : Founded (run empty_storage calls) := by
  apply run_invariant (C := fun _ _ => True) _ founded_empty (Along.of_forall fun _ _ _ => trivial)
  intro s t s' hs _ h hnone
  exact absurd hnone (opened_step hs (outcome_of_exec h))

/-- The storage after one call more. -/
theorem run_concat {t : Ledger × EntryPoint} : run empty_storage (calls ++ [t]) = step exec t (run empty_storage calls) := by
  rw [run, runFrom_append]
  rfl

/-- **The rule for one call more**: it fails and changes nothing, or has an outcome. -/
theorem run_concat_cases (calls : List (Ledger × EntryPoint)) (t : Ledger × EntryPoint) :
    run empty_storage (calls ++ [t]) = run empty_storage calls ∨
      (exec t.2 t.1 (run empty_storage calls)).isOk ∧
        Outcome t.1 (run empty_storage calls) t.2 (run empty_storage (calls ++ [t])) := by
  rw [run_concat]
  rcases step_cases exec (run empty_storage calls) t with hok | ⟨-, heq⟩
  · refine Or.inr ⟨?_, outcome_of_exec hok⟩
    rw [hok]
    rfl
  · exact Or.inl heq

end Runs

end BridgeWatch.CircuitBreaker

/-
The circuit breaker, `contracts/soroban/src/circuit_breaker.rs`.

A contract of its own, with its own storage. Every entry point that can change the storage is here, with its
checks in the order of the source. The read-only ones are left out but for the lookup of a pause, and so are the
events and the texts of the whitelists' messages' topics, which no function reads back. The staged recovery counts
ledgers, so a call reads the number of its ledger besides the time.
-/
import BridgeWatch.HostCalls

set_option autoImplicit false

namespace BridgeWatch.CircuitBreaker

open Transaction
open Contract (U32 U64 I128 SString Address saturating_sub_u32)

/-! ## Data -/

inductive PauseLevel where
  | None
  | Warning
  | Partial
  | Full
  deriving DecidableEq

inductive GuardianRole where
  | StandardGuardian
  | EmergencyGuardian
  | AdminGuardian
  deriving DecidableEq

inductive AlertType where
  | HealthScore
  | PriceDeviation
  | SupplyMismatch
  | BridgeDowntime
  | VolumeSpike
  | ReserveRatio
  deriving DecidableEq

inductive PauseScope where
  | Global
  | Bridge (bridge_id : SString)
  | Asset (asset_code : SString)
  deriving DecidableEq

structure PauseState where
  scope : PauseScope
  level : PauseLevel
  triggered_by : Address
  trigger_reason : SString
  timestamp : U64
  recovery_deadline : U64
  guardian_approvals : U32
  guardian_threshold : U32
  deriving DecidableEq

structure TriggerConfig where
  alert_type : AlertType
  threshold : I128
  pause_level : PauseLevel
  cooldown_period : U64
  last_trigger : U64
  deriving DecidableEq

structure GuardianInfo where
  address : Address
  role : GuardianRole
  added_at : U64
  active : Bool
  deriving DecidableEq

structure RecoveryRequest where
  pause_id : U32
  requested_by : Address
  timestamp : U64
  approvals : U32
  threshold : U32
  deriving DecidableEq

structure CircuitBreakerConfig where
  admin : Address
  guardian_threshold : U32
  recovery_delay_warning : U64
  recovery_delay_partial : U64
  recovery_delay_full : U64
  max_whitelist_size : U32
  deriving DecidableEq

structure RecoveryProtocol where
  cooldown_ledger_count : U32
  recovery_window_ledgers : U32
  provisional_rate_cap_bps : U32
  deriving DecidableEq

inductive RecoveryStage where
  | Tripped
  | ProvisionalCooldown
  | FullyRestored
  deriving DecidableEq

structure CooldownRecord where
  pause_id : U32
  stage : RecoveryStage
  stage_started_ledger : U32
  cooldown_ledger_count : U32
  recovery_window_ledgers : U32
  provisional_rate_cap_bps : U32
  deriving DecidableEq

def DEFAULT_COOLDOWN_LEDGER_COUNT : U32 := 720
def DEFAULT_RECOVERY_WINDOW_LEDGERS : U32 := 17280
def DEFAULT_PROVISIONAL_RATE_CAP_BPS : U32 := 1000

inductive DataKey where
  | Config
  | PauseCount
  | PauseState (pause_id : U32)
  | TriggerConfigs
  | Guardians
  | WhitelistAddresses
  | WhitelistAssets
  | WhitelistBridges
  | RecoveryRequests
  | RecoveryProtocol
  | CooldownState (pause_id : U32)
  deriving DecidableEq

/-- The type of the record under a key; a map is a function of its keys. -/
@[reducible] def DataKey.Val : DataKey → Type
  | .Config => CircuitBreakerConfig
  | .PauseCount => U32
  | .PauseState _ => CircuitBreaker.PauseState
  | .TriggerConfigs => AlertType → Option TriggerConfig
  | .Guardians => List GuardianInfo
  | .WhitelistAddresses => List Address
  | .WhitelistAssets => List SString
  | .WhitelistBridges => List SString
  | .RecoveryRequests => List RecoveryRequest
  | .RecoveryProtocol => CircuitBreaker.RecoveryProtocol
  | .CooldownState _ => CooldownRecord

/-- The contract's storage. -/
abbrev BreakerStorage := Store DataKey DataKey.Val

/-! ## The host -/

/-- What a call reads of the ledger: also its sequence number. -/
structure Ledger extends Contract.Env where
  sequence : U32

/-- A call of a function of the contract. -/
abbrev Breaker (α : Type) := Tx Ledger DataKey DataKey.Val α

/-- A host call that does not read the sequence number. -/
def host {α : Type} (m : Tx Contract.Env DataKey DataKey.Val α) : Breaker α := fun env => m env.toEnv

/-- `env.storage().get(&key)`. -/
abbrev get (key : DataKey) : Breaker (Option key.Val) := load key

/-- `env.storage().set(&key, &value)`. -/
abbrev set (key : DataKey) (value : key.Val) : Breaker Unit := save key value

/-- `assert!(c, msg)`. -/
abbrev assert (c : Prop) [Decidable c] (msg : String) : Breaker Unit := panic_if (¬c) msg

/-- `env.ledger().timestamp()`. -/
abbrev timestamp : Breaker U64 := reads fun env => env.timestamp

/-- `env.ledger().sequence()`. -/
abbrev sequence : Breaker U32 := reads Ledger.sequence

/-- `address.require_auth()`. -/
abbrev require_auth (address : Address) : Breaker Unit := host (HostCalls.require_auth address)

/-- `x + y` on `u32`. -/
abbrev add_u32 (x y : U32) : Breaker U32 := host (HostCalls.checked_add_u32 x y "attempt to add with overflow")

/-- `x + y` on `u64`. -/
abbrev add_u64 (x y : U64) : Breaker U64 := host (HostCalls.checked_add_u64 x y "attempt to add with overflow")

/-- `vec.push_back(value)`. -/
abbrev push_back {α : Type} (values : List α) (value : α) : Breaker (List α) := host (HostCalls.push_back values value)

/-! ## Private helpers -/

def get_config : Breaker CircuitBreakerConfig := do
  let config ← get .Config
  expect config "contract not initialized"

def get_next_pause_id : Breaker U32 := do
  let count ← get .PauseCount
  let count ← add_u32 (count.getD 0) 1
  set .PauseCount count
  return count

def only_admin (caller : Address) : Breaker Unit := do
  let config ← get_config
  assert (caller = config.admin) "not admin"
  require_auth caller

/-- The roles that a required role admits. -/
def role_permits : GuardianRole → GuardianRole → Bool
  | .AdminGuardian, _ => true
  | .EmergencyGuardian, .EmergencyGuardian => true
  | .EmergencyGuardian, .StandardGuardian => true
  | .StandardGuardian, .StandardGuardian => true
  | _, _ => false

/-- The check is on the role that the caller's address has; nothing asks the caller to authorise. -/
def check_guardian_permission (caller : Address) (required_role : GuardianRole) : Breaker Unit := do
  let guardians ← get .Guardians
  assert (∃ guardian ∈ guardians.getD [], guardian.address = caller ∧ guardian.active = true ∧
    role_permits guardian.role required_role = true) "insufficient guardian permissions"

def scopes_match : PauseScope → PauseScope → Bool
  | .Global, _ => true
  | .Bridge id1, .Bridge id2 => decide (id1 = id2)
  | .Asset code1, .Asset code2 => decide (code1 = code2)
  | _, _ => false

/-! ## Entry points -/

/-- `initialize`, whose other arguments are the fields of the configuration. -/
def initialize_breaker (config : CircuitBreakerConfig) : Breaker Unit := do
  require_auth config.admin
  let existing ← get .Config
  assert (existing.isNone = true) "already initialized"
  set .Config config
  set .PauseCount 0
  set .TriggerConfigs fun _ => none
  set .Guardians []
  set .WhitelistAddresses []
  set .WhitelistAssets []
  set .WhitelistBridges []
  set .RecoveryRequests []

def add_guardian (caller guardian : Address) (role : GuardianRole) : Breaker Unit := do
  only_admin caller
  let guardians ← get .Guardians
  let guardians := guardians.getD []
  panic_if (∃ g ∈ guardians, g.address = guardian) "guardian already exists"
  let now ← timestamp
  let guardians ← push_back guardians { address := guardian, role, added_at := now, active := true }
  set .Guardians guardians

def remove_guardian (caller guardian : Address) : Breaker Unit := do
  only_admin caller
  let guardians ← get .Guardians
  let guardians := guardians.getD []
  assert (∃ g ∈ guardians, g.address = guardian) "guardian not found"
  set .Guardians (guardians.filter fun g => g.address ≠ guardian)

/-- What the three ways to pause share: they differ in the scope, the level, the delay and the role. -/
def pause (caller : Address) (required_role : GuardianRole) (scope : PauseScope) (level : PauseLevel)
    (recovery_delay : CircuitBreakerConfig → U64) (reason : SString) : Breaker Unit := do
  check_guardian_permission caller required_role
  let pause_id ← get_next_pause_id
  let config ← get_config
  let now ← timestamp
  let recovery_deadline ← add_u64 now (recovery_delay config)
  set (.PauseState pause_id)
    { scope, level, triggered_by := caller, trigger_reason := reason, timestamp := now, recovery_deadline,
      guardian_approvals := 1, guardian_threshold := config.guardian_threshold }

def pause_global (caller : Address) (reason : SString) : Breaker Unit :=
  pause caller .EmergencyGuardian .Global .Full CircuitBreakerConfig.recovery_delay_full reason

def pause_bridge (caller : Address) (bridge_id reason : SString) : Breaker Unit :=
  pause caller .StandardGuardian (.Bridge bridge_id) .Partial CircuitBreakerConfig.recovery_delay_partial reason

def pause_asset (caller : Address) (asset_code reason : SString) : Breaker Unit :=
  pause caller .StandardGuardian (.Asset asset_code) .Warning CircuitBreakerConfig.recovery_delay_warning reason

/-- `get_pause_state`, of which callers here read the level: no pause has the level `None`. -/
def pause_level (pause_id : U32) : Breaker PauseLevel := do
  let pause_state ← get (.PauseState pause_id)
  return pause_state.elim .None PauseState.level

def request_recovery (caller : Address) (pause_id : U32) : Breaker Unit := do
  check_guardian_permission caller .StandardGuardian
  let level ← pause_level pause_id
  assert (level ≠ .None) "pause not active"
  let recovery_requests ← get .RecoveryRequests
  let recovery_requests := recovery_requests.getD []
  panic_if (∃ req ∈ recovery_requests, req.pause_id = pause_id) "recovery already requested"
  let config ← get_config
  let now ← timestamp
  let recovery_requests ← push_back recovery_requests
    { pause_id, requested_by := caller, timestamp := now, approvals := 1, threshold := config.guardian_threshold }
  set .RecoveryRequests recovery_requests

/-- The loop of `approve_recovery`: the first request for the pause has one approval more. -/
def approve_first (pause_id : U32) : List RecoveryRequest → Breaker (List RecoveryRequest)
  | [] => Transaction.panic "recovery request not found"
  | req :: requests =>
      if req.pause_id = pause_id then do
        let approvals ← add_u32 req.approvals 1
        return { req with approvals } :: requests
      else do
        let requests ← approve_first pause_id requests
        return req :: requests

def approve_recovery (caller : Address) (pause_id : U32) : Breaker Unit := do
  check_guardian_permission caller .StandardGuardian
  let recovery_requests ← get .RecoveryRequests
  let recovery_requests ← approve_first pause_id (recovery_requests.getD [])
  set .RecoveryRequests recovery_requests

/-- The first request for the pause has its approvals, and is what `execute_recovery` removes. -/
def execute_recovery (caller : Address) (pause_id : U32) : Breaker Unit := do
  check_guardian_permission caller .StandardGuardian
  let recovery_requests ← get .RecoveryRequests
  let recovery_requests := recovery_requests.getD []
  let request := recovery_requests.find? fun req => req.pause_id = pause_id
  assert (∃ req ∈ request, req.approvals ≥ req.threshold) "insufficient approvals"
  set .RecoveryRequests (recovery_requests.eraseP fun req => req.pause_id = pause_id)
  remove (.PauseState pause_id)

def set_trigger_config (caller : Address) (alert_type : AlertType) (threshold : I128) (pause_level : PauseLevel)
    (cooldown_period : U64) : Breaker Unit := do
  only_admin caller
  let trigger_configs ← get .TriggerConfigs
  let trigger_configs := trigger_configs.getD fun _ => none
  let config : TriggerConfig := { alert_type, threshold, pause_level, cooldown_period, last_trigger := 0 }
  set .TriggerConfigs fun a => if a = alert_type then some config else trigger_configs a

def add_to_address_whitelist (caller address : Address) : Breaker Unit := do
  only_admin caller
  let whitelist ← get .WhitelistAddresses
  let whitelist := whitelist.getD []
  let config ← get_config
  assert (whitelist.length < config.max_whitelist_size.toNat) "whitelist full"
  panic_if (address ∈ whitelist) "address already whitelisted"
  let whitelist ← push_back whitelist address
  set .WhitelistAddresses whitelist

def add_asset_to_whitelist (caller : Address) (asset_code : SString) : Breaker Unit := do
  only_admin caller
  let whitelist ← get .WhitelistAssets
  let whitelist := whitelist.getD []
  let config ← get_config
  assert (whitelist.length < config.max_whitelist_size.toNat) "whitelist full"
  panic_if (asset_code ∈ whitelist) "asset already whitelisted"
  let whitelist ← push_back whitelist asset_code
  set .WhitelistAssets whitelist

def set_recovery_protocol (caller : Address) (cooldown_ledger_count recovery_window_ledgers rate_cap_bps : U32) :
    Breaker Unit := do
  only_admin caller
  assert (rate_cap_bps > 0 ∧ rate_cap_bps ≤ 10000) "rate cap out of range"
  set .RecoveryProtocol { cooldown_ledger_count, recovery_window_ledgers, provisional_rate_cap_bps := rate_cap_bps }

def get_recovery_protocol : Breaker RecoveryProtocol := do
  let protocol ← get .RecoveryProtocol
  return protocol.getD
    { cooldown_ledger_count := DEFAULT_COOLDOWN_LEDGER_COUNT
      recovery_window_ledgers := DEFAULT_RECOVERY_WINDOW_LEDGERS
      provisional_rate_cap_bps := DEFAULT_PROVISIONAL_RATE_CAP_BPS }

def start_cooldown (caller : Address) (pause_id : U32) : Breaker Unit := do
  check_guardian_permission caller .StandardGuardian
  let level ← pause_level pause_id
  assert (level ≠ .None) "pause not active"
  let existing ← get (.CooldownState pause_id)
  assert (existing.isNone = true) "cooldown already started"
  let protocol ← get_recovery_protocol
  let current ← sequence
  set (.CooldownState pause_id)
    { pause_id, stage := .Tripped, stage_started_ledger := current,
      cooldown_ledger_count := protocol.cooldown_ledger_count,
      recovery_window_ledgers := protocol.recovery_window_ledgers,
      provisional_rate_cap_bps := protocol.provisional_rate_cap_bps }

/-- The pause is an anomaly for the record: it is active, of a matching scope, and not older than the stage. -/
def is_anomaly (record : CooldownRecord) (scope : PauseScope) (other : PauseState) : Prop :=
  other.level ≠ .None ∧ scopes_match scope other.scope = true ∧
    other.timestamp.toNat ≥ record.stage_started_ledger.toNat

instance {record : CooldownRecord} {scope : PauseScope} {other : PauseState} :
    Decidable (is_anomaly record scope other) :=
  inferInstanceAs (Decidable (_ ∧ _ ∧ _))

/-- A turn of the loop of `evaluate_cooldown`: the restart is written, and then the call panics. -/
def health_check (pause_id : U32) (record : CooldownRecord) (scope : PauseScope) (current i : U32) : Breaker Unit := do
  let other ← get (.PauseState i)
  other.elim (pure ()) fun other =>
    exec_if (is_anomaly record scope other) do
      set (.CooldownState pause_id) { record with stage_started_ledger := current }
      Transaction.panic "health anomaly during recovery window — cooldown restarted"

/-- `first..=last`. -/
def id_range (first last : U32) : List U32 :=
  (List.range' first.toNat (last.toNat + 1 - first.toNat)).map UInt32.ofNat

/-- The loop of `evaluate_cooldown` over the later pauses. -/
def health_scan (pause_id : U32) (record : CooldownRecord) (current : U32) (pause_state : PauseState) :
    Breaker Unit := do
  let pause_count ← get .PauseCount
  let first ← add_u32 record.pause_id 1
  (id_range first (pause_count.getD 0)).foldlM
    (fun _ i => health_check pause_id record pause_state.scope current i) ()

def evaluate_cooldown (pause_id : U32) : Breaker Unit := do
  let record ← get (.CooldownState pause_id)
  let record ← expect record "no cooldown in progress"
  let current ← sequence
  match record.stage with
  | .Tripped =>
      panic_if (saturating_sub_u32 current record.stage_started_ledger < record.cooldown_ledger_count)
        "cooldown ledger count not elapsed"
      set (.CooldownState pause_id) { record with stage := .ProvisionalCooldown, stage_started_ledger := current }
  | .ProvisionalCooldown =>
      panic_if (saturating_sub_u32 current record.stage_started_ledger < record.recovery_window_ledgers)
        "recovery window not elapsed"
      let pause_state ← get (.PauseState pause_id)
      pause_state.elim (pure ()) (health_scan pause_id record current)
      remove (.PauseState pause_id)
      remove (.CooldownState pause_id)
  | .FullyRestored => Transaction.panic "recovery already restored"

/-! ## Runs -/

/-- A call of an entry point that can change the storage. -/
inductive EntryPoint where
  | initialize_breaker (config : CircuitBreakerConfig)
  | add_guardian (caller guardian : Address) (role : GuardianRole)
  | remove_guardian (caller guardian : Address)
  | pause_global (caller : Address) (reason : SString)
  | pause_bridge (caller : Address) (bridge_id reason : SString)
  | pause_asset (caller : Address) (asset_code reason : SString)
  | request_recovery (caller : Address) (pause_id : U32)
  | approve_recovery (caller : Address) (pause_id : U32)
  | execute_recovery (caller : Address) (pause_id : U32)
  | set_trigger_config (caller : Address) (alert_type : AlertType) (threshold : I128) (pause_level : PauseLevel)
      (cooldown_period : U64)
  | add_to_address_whitelist (caller address : Address)
  | add_asset_to_whitelist (caller : Address) (asset_code : SString)
  | set_recovery_protocol (caller : Address) (cooldown_ledger_count recovery_window_ledgers rate_cap_bps : U32)
  | start_cooldown (caller : Address) (pause_id : U32)
  | evaluate_cooldown (pause_id : U32)
  deriving DecidableEq

/-- What a call does. -/
def exec : EntryPoint → Breaker Unit
  | .initialize_breaker config => initialize_breaker config
  | .add_guardian caller guardian role => add_guardian caller guardian role
  | .remove_guardian caller guardian => remove_guardian caller guardian
  | .pause_global caller reason => pause_global caller reason
  | .pause_bridge caller bridge_id reason => pause_bridge caller bridge_id reason
  | .pause_asset caller asset_code reason => pause_asset caller asset_code reason
  | .request_recovery caller pause_id => request_recovery caller pause_id
  | .approve_recovery caller pause_id => approve_recovery caller pause_id
  | .execute_recovery caller pause_id => execute_recovery caller pause_id
  | .set_trigger_config caller alert_type threshold pause_level cooldown_period =>
      set_trigger_config caller alert_type threshold pause_level cooldown_period
  | .add_to_address_whitelist caller address => add_to_address_whitelist caller address
  | .add_asset_to_whitelist caller asset_code => add_asset_to_whitelist caller asset_code
  | .set_recovery_protocol caller cooldown_ledger_count recovery_window_ledgers rate_cap_bps =>
      set_recovery_protocol caller cooldown_ledger_count recovery_window_ledgers rate_cap_bps
  | .start_cooldown caller pause_id => start_cooldown caller pause_id
  | .evaluate_cooldown pause_id => evaluate_cooldown pause_id

/-- The storage after some calls. -/
abbrev run (s : BreakerStorage) (calls : List (Ledger × EntryPoint)) : BreakerStorage := runFrom exec s calls

/-- The storage before the first call. -/
def empty_storage : BreakerStorage := fun _ => none

/-- An account. -/
def party (n : UInt8) : Address := .account (Vector.replicate 32 n)

/-- A ledger in which the addresses that have authorised their calls are those of the list. -/
def ledger (timestamp : U64) (sequence : U32) (signers : List Address) : Ledger :=
  { timestamp, sequence, auth := fun a => decide (a ∈ signers) }

end BridgeWatch.CircuitBreaker

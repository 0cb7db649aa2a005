/-
The reputation system, `contracts/soroban/src/reputation_system.rs`.

A contract of its own, with its own storage. Every entry point that can change the storage is here, and of the read-only
ones those that read a reputation or a leaderboard. Events are left out, which no function reads back.

What stands under a key has the type that was written last, and reading it as another type traps. One key needs this:
`grant_reward` writes a history under the key of a reputation.
-/
import BridgeWatch.BubbleSort
import BridgeWatch.HostCalls

set_option autoImplicit false

namespace BridgeWatch.ReputationSystem

open Transaction CheckedIntegers
open Contract (U32 U64 SString Address str saturating_sub_u32)

/-! ## Data -/

/-- Scores go from 0 to this. -/
def REPUTATION_SCALE : U32 := 10000

def MAX_HISTORY_RECORDS : ℕ := 100

/-- 90 days. -/
def TIME_DECAY_HALFLIFE : U64 := 90 * 24 * 60 * 60

def MIN_REPUTATION_THRESHOLD : U32 := 5000

def INACTIVITY_WINDOW_LEDGERS : U32 := 17280

def DEFAULT_INACTIVITY_DECAY_BPS : U32 := 500

def DEFAULT_MIN_APPEAL_COLLATERAL : ℤ := 100

def APPEAL_WINDOW_LEDGERS : U32 := 120960

inductive EntityType where
  | BridgeOperator
  | OracleNode
  | RelayOperator
  deriving DecidableEq

/-- The types in the order in which the loops over them take them. -/
def entity_types : List EntityType := [.BridgeOperator, .OracleNode, .RelayOperator]

structure ReputationFactors where
  accuracy_score : U32
  uptime_score : U32
  response_time_score : U32
  dispute_history_score : U32
  deriving DecidableEq

structure PerformanceRecord where
  timestamp : U64
  entity_type : EntityType
  accuracy : U32
  uptime : U32
  response_time : U32
  disputes_won : U32
  disputes_lost : U32
  total_operations : U32
  successful_operations : U32
  penalty_amount : ℤ
  reward_amount : ℤ
  deriving DecidableEq

inductive BadgeLevel where
  | None
  | Bronze
  | Silver
  | Gold
  | Platinum
  | Diamond
  deriving DecidableEq

structure ReputationData where
  entity_address : Address
  entity_type : EntityType
  overall_score : U32
  factors : ReputationFactors
  total_operations : U64
  successful_operations : U64
  current_stake : ℤ
  total_penalties : ℤ
  total_rewards : ℤ
  last_update_time : U64
  registration_time : U64
  is_slashed : Bool
  badge_level : BadgeLevel
  deriving DecidableEq

structure ReputationWeights where
  accuracy_weight : U32
  uptime_weight : U32
  response_time_weight : U32
  dispute_history_weight : U32
  deriving DecidableEq

structure InactivityPolicy where
  window_ledgers : U32
  decay_bps : U32
  deriving DecidableEq

structure AppealPolicy where
  min_collateral : ℤ
  window_ledgers : U32
  deriving DecidableEq

structure SlashRecord where
  previous_score : U32
  penalty_amount : ℤ
  slashed_at_ledger : U32
  timestamp : U64
  deriving DecidableEq

inductive AppealStatus where
  | Pending
  | Approved
  | Rejected
  deriving DecidableEq

structure Appeal where
  entity_address : Address
  collateral : ℤ
  reason : SString
  submitted_ledger : U32
  status : AppealStatus
  previous_score : U32
  penalty_amount : ℤ
  deriving DecidableEq

structure Config where
  weights : ReputationWeights
  min_stake_amount : ℤ
  slashing_percentage : U32
  reward_percentage : U32
  decay_enabled : Bool
  recovery_enabled : Bool
  recovery_period : U64
  deriving DecidableEq

structure LeaderboardEntry where
  entity_address : Address
  score : U32
  badge_level : BadgeLevel
  total_operations : U64
  deriving DecidableEq

/-- What can stand under the key of a reputation. -/
inductive StoredReputation where
  | data (reputation : ReputationData)
  | history (records : List PerformanceRecord)
  deriving DecidableEq

inductive DataKey where
  | Admin
  | Reputation (entity_address : Address)
  | PerformanceHistory (entity_address : Address)
  | ReputationLeaderboard (entity_type : EntityType)
  | Config
  | TotalEntities (entity_type : EntityType)
  | LastActivityLedger (entity_address : Address)
  | LastInactivityDecayLedger (entity_address : Address)
  | InactivityPolicy
  | AppealPolicy
  | LastSlash (entity_address : Address)
  | Appeal (entity_address : Address)
  deriving DecidableEq

/-- The type of what is under a key. -/
@[reducible] def DataKey.Val : DataKey → Type
  | .Admin => Address
  | .Reputation _ => StoredReputation
  | .PerformanceHistory _ => List PerformanceRecord
  | .ReputationLeaderboard _ => List LeaderboardEntry
  | .Config => ReputationSystem.Config
  | .TotalEntities _ => U64
  | .LastActivityLedger _ => U32
  | .LastInactivityDecayLedger _ => U32
  | .InactivityPolicy => ReputationSystem.InactivityPolicy
  | .AppealPolicy => ReputationSystem.AppealPolicy
  | .LastSlash _ => SlashRecord
  | .Appeal _ => ReputationSystem.Appeal

/-- The contract's storage. -/
abbrev ReputationStorage := Store DataKey DataKey.Val

/-! ## The host -/

/-- What a call reads of the ledger: also its sequence number. -/
structure Ledger extends Contract.Env where
  sequence : U32

/-- A call of a function of the contract. -/
abbrev System (α : Type) := Tx Ledger DataKey DataKey.Val α

/-- A host call that does not read the sequence number. -/
def host {α : Type} (m : Tx Contract.Env DataKey DataKey.Val α) : System α := fun env => m env.toEnv

/-- `env.storage().get(&key)`. -/
abbrev get (key : DataKey) : System (Option key.Val) := load key

/-- `env.storage().set(&key, &value)`. -/
abbrev set (key : DataKey) (value : key.Val) : System Unit := save key value

/-- `env.ledger().timestamp()`. -/
abbrev timestamp : System U64 := reads fun env => env.timestamp

/-- `env.ledger().sequence()`. -/
abbrev sequence : System U32 := reads Ledger.sequence

abbrev require_auth (address : Address) : System Unit := host (HostCalls.require_auth address)

abbrev unwrap {α : Type} (o : Option α) : System α := host (HostCalls.unwrap o)

abbrev push_back {α : Type} (values : List α) (value : α) : System (List α) := host (HostCalls.push_back values value)

/-- `x + y` on `u32`. -/
abbrev add_u32 (x y : U32) : System U32 := host (HostCalls.checked_add_u32 x y "attempt to add with overflow")

/-- `x + y` on `u64`. -/
abbrev add_u64 (x y : U64) : System U64 := host (HostCalls.checked_add_u64 x y "attempt to add with overflow")

/-- `x * y` on `u32`. -/
def mul_u32 (x y : U32) : System U32 := do
  panic_if (2 ^ 32 ≤ x.toNat * y.toNat) "attempt to multiply with overflow"
  return x * y

/-- `x - y` on `u64`. -/
def sub_u64 (x y : U64) : System U64 := do
  panic_if (x < y) "attempt to subtract with overflow"
  return x - y

/-- `x + y` on `i128`. -/
abbrev add_i128 (x y : ℤ) : System ℤ := expect (checked_add x y) "attempt to add with overflow"

/-- `x - y` on `i128`. -/
abbrev sub_i128 (x y : ℤ) : System ℤ := expect (checked_sub x y) "attempt to subtract with overflow"

/-- `x as u32` of an `i128`: the low 32 bits. -/
def as_u32 (x : ℤ) : U32 := UInt32.ofNat (x % 2 ^ 32).toNat

/-- What the host reports when a value has another type than the one that is asked for. -/
def conversion_error : String := "Error(Value, UnexpectedType)"

/-- The reputation that stands under its key. -/
def StoredReputation.data? : StoredReputation → Option ReputationData
  | .data reputation => some reputation
  | .history _ => none

/-- `env.storage().get::<_, ReputationData>(&DataKey::Reputation(entity_address))`. -/
def get_data (entity_address : Address) : System (Option ReputationData) := do
  let stored ← get (.Reputation entity_address)
  stored.elim (pure none) fun stored => do
    let data ← expect stored.data? conversion_error
    return some data

/-- The reputation of a registered entity. -/
def registered_data (entity_address : Address) : System ReputationData := do
  let data ← get_data entity_address
  expect data "Entity not registered"

/-- The same where the code says `unwrap`. -/
def unwrapped_data (entity_address : Address) : System ReputationData := do
  let data ← get_data entity_address
  unwrap data

/-! ## Internal helper functions -/

/-- Exponential moving average. It is at most the larger of the two, so the narrowing takes nothing away. -/
def ema_update (current new alpha : U32) : U32 :=
  UInt32.ofNat ((current.toNat * (100 - alpha.toNat) + new.toNat * alpha.toNat) / 100)

/-- The loop of `calculate_decay_factor`, which ends early at zero. -/
def halvings : (rounds factor : ℕ) → ℕ
  | 0, factor => factor
  | rounds + 1, factor => if factor / 2 = 0 then 0 else halvings rounds (factor / 2)

def calculate_decay_factor (time_since_update : U64) : U32 :=
  if time_since_update = 0 then REPUTATION_SCALE
  else UInt32.ofNat (halvings (time_since_update / TIME_DECAY_HALFLIFE).toNat REPUTATION_SCALE.toNat)

def stamp_activity (entity_address : Address) : System Unit := do
  let now ← sequence
  set (.LastActivityLedger entity_address) now

def inactivity_policy : System InactivityPolicy := do
  let policy ← get .InactivityPolicy
  return policy.getD { window_ledgers := INACTIVITY_WINDOW_LEDGERS, decay_bps := DEFAULT_INACTIVITY_DECAY_BPS }

def appeal_policy : System AppealPolicy := do
  let policy ← get .AppealPolicy
  return policy.getD { min_collateral := DEFAULT_MIN_APPEAL_COLLATERAL, window_ledgers := APPEAL_WINDOW_LEDGERS }

def calculate_badge_level (score : U32) : BadgeLevel :=
  if score ≤ 2499 then .None
  else if score ≤ 4999 then .Bronze
  else if score ≤ 7499 then .Silver
  else if score ≤ 8999 then .Gold
  else if score ≤ 9499 then .Platinum
  else if score ≤ REPUTATION_SCALE then .Diamond
  else .None

/-- The first entry for the address of `entry` becomes `entry`. -/
def set_entry (entry : LeaderboardEntry) : List LeaderboardEntry → List LeaderboardEntry
  | [] => []
  | e :: entries => if e.entity_address = entry.entity_address then entry :: entries else e :: set_entry entry entries

/-- The end of `update_leaderboard_internal`: the entry is replaced, or added when there is none. -/
def put_entry (leaderboard : List LeaderboardEntry) (entry : LeaderboardEntry) : System (List LeaderboardEntry) :=
  if entry.entity_address ∈ leaderboard.map LeaderboardEntry.entity_address then return set_entry entry leaderboard
  else push_back leaderboard entry

def update_leaderboard_internal (entity_address : Address) (score : U32) (badge_level : BadgeLevel) : System Unit := do
  let reputation_data ← unwrapped_data entity_address
  let leaderboard ← get (.ReputationLeaderboard reputation_data.entity_type)
  let leaderboard ← put_entry (leaderboard.getD [])
    { entity_address, score, badge_level, total_operations := reputation_data.total_operations }
  set (.ReputationLeaderboard reputation_data.entity_type) leaderboard

/-- A report of an entity on itself. -/
structure Report where
  accuracy : U32
  uptime : U32
  response_time : U32
  disputes_won : U32
  disputes_lost : U32
  total_operations : U32
  successful_operations : U32
  deriving DecidableEq

/-- The share of the disputes that were won. -/
def dispute_score (disputes_won disputes_lost : U32) : System U32 := do
  let total_disputes ← add_u32 disputes_won disputes_lost
  if total_disputes = 0 then return 7500
  else do
    let won ← mul_u32 disputes_won REPUTATION_SCALE
    return won / total_disputes

/-- The factors after a report. -/
def smoothed_factors (factors : ReputationFactors) (report : Report) (dispute_history_score : U32) :
    ReputationFactors :=
  { accuracy_score := ema_update factors.accuracy_score (min report.accuracy REPUTATION_SCALE) 20
    uptime_score := ema_update factors.uptime_score (min report.uptime REPUTATION_SCALE) 20
    response_time_score := ema_update factors.response_time_score (min report.response_time REPUTATION_SCALE) 20
    dispute_history_score := ema_update factors.dispute_history_score dispute_history_score 20 }

/-- The sum that is divided by 100, a `u64`. -/
def weighted_sum (weights : ReputationWeights) (factors : ReputationFactors) : ℕ :=
  factors.accuracy_score.toNat * weights.accuracy_weight.toNat +
    factors.uptime_score.toNat * weights.uptime_weight.toNat +
    factors.response_time_score.toNat * weights.response_time_weight.toNat +
    factors.dispute_history_score.toNat * weights.dispute_history_weight.toNat

def weighted_score (weights : ReputationWeights) (factors : ReputationFactors) : U32 :=
  UInt32.ofNat (weighted_sum weights factors / 100)

def update_reputation_internal (entity_address : Address) (report : Report) : System Unit := do
  let reputation_data ← unwrapped_data entity_address
  let config ← get .Config
  let config ← unwrap config
  let dispute_history_score ← dispute_score report.disputes_won report.disputes_lost
  let factors := smoothed_factors reputation_data.factors report dispute_history_score
  panic_if (2 ^ 64 ≤ weighted_sum config.weights factors) "attempt to add with overflow"
  set (.Reputation entity_address)
    (.data { reputation_data with factors, overall_score := weighted_score config.weights factors })

/-- What the entry points of the administrator begin with. -/
def require_admin : System Unit := do
  let admin ← get .Admin
  let admin ← unwrap admin
  require_auth admin

/-! ## Entry points -/

def initialize_reputation (admin : Address) (config : Config) : System Unit := do
  require_auth admin
  set .Admin admin
  set .Config config
  set (.ReputationLeaderboard .BridgeOperator) []
  set (.ReputationLeaderboard .OracleNode) []
  set (.ReputationLeaderboard .RelayOperator) []
  set (.TotalEntities .BridgeOperator) 0
  set (.TotalEntities .OracleNode) 0
  set (.TotalEntities .RelayOperator) 0

/-- The reputation of a new entity. -/
def initial_data (entity_address : Address) (entity_type : EntityType) (stake_amount : ℤ) (now : U64) :
    ReputationData :=
  { entity_address
    entity_type
    overall_score := 7500
    factors :=
      { accuracy_score := 7500, uptime_score := 7500, response_time_score := 7500, dispute_history_score := 7500 }
    total_operations := 0
    successful_operations := 0
    current_stake := stake_amount
    total_penalties := 0
    total_rewards := 0
    last_update_time := now
    registration_time := now
    is_slashed := false
    badge_level := .None }

def register_entity (entity_address : Address) (entity_type : EntityType) (stake_amount : ℤ) : System Unit := do
  let stored ← get (.Reputation entity_address)
  panic_if (stored.isSome = true) "Entity already registered"
  let config ← get .Config
  let config ← unwrap config
  panic_if (stake_amount < config.min_stake_amount) "Stake amount below minimum requirement"
  let now ← timestamp
  set (.Reputation entity_address) (.data (initial_data entity_address entity_type stake_amount now))
  stamp_activity entity_address
  set (.PerformanceHistory entity_address) []
  let total_entities ← get (.TotalEntities entity_type)
  let total_entities ← unwrap total_entities
  let total_entities ← add_u64 total_entities 1
  set (.TotalEntities entity_type) total_entities
  update_leaderboard_internal entity_address 7500 .None

/-- The records that `record_performance` keeps. -/
def recent_history (history : List PerformanceRecord) (now : U64) : List PerformanceRecord :=
  if history.length > MAX_HISTORY_RECORDS then
    history.filter fun record => record.timestamp ≥ Contract.saturating_sub_u64 now (365 * 24 * 60 * 60)
  else history

def record_performance (entity_address : Address) (report : Report) : System Unit := do
  require_auth entity_address
  let reputation_data ← registered_data entity_address
  stamp_activity entity_address
  let now ← timestamp
  let history ← get (.PerformanceHistory entity_address)
  let history ← push_back (history.getD [])
    { timestamp := now
      entity_type := reputation_data.entity_type
      accuracy := report.accuracy
      uptime := report.uptime
      response_time := report.response_time
      disputes_won := report.disputes_won
      disputes_lost := report.disputes_lost
      total_operations := report.total_operations
      successful_operations := report.successful_operations
      penalty_amount := 0
      reward_amount := 0 }
  set (.PerformanceHistory entity_address) (recent_history history now)
  update_reputation_internal entity_address report
  let updated_data ← unwrapped_data entity_address
  let total_operations ← add_u64 updated_data.total_operations report.total_operations.toUInt64
  let successful_operations ← add_u64 updated_data.successful_operations report.successful_operations.toUInt64
  set (.Reputation entity_address)
    (.data
      { updated_data with
        total_operations
        successful_operations
        last_update_time := now
        badge_level := calculate_badge_level updated_data.overall_score })

/-- The record of a penalty or of a reward, as a dispute that was lost or won. -/
def amount_record (now : U64) (entity_type : EntityType) (disputes_won disputes_lost : U32)
    (penalty_amount reward_amount : ℤ) : PerformanceRecord :=
  { timestamp := now, entity_type, accuracy := 0, uptime := 0, response_time := 0, disputes_won, disputes_lost,
    total_operations := 0, successful_operations := 0, penalty_amount, reward_amount }

def apply_penalty (entity_address : Address) (penalty_amount : ℤ) (_reason : SString) : System Unit := do
  require_admin
  let reputation_data ← registered_data entity_address
  let config ← get .Config
  let config ← unwrap config
  let product ← mul_u32 (as_u32 penalty_amount) config.slashing_percentage
  let new_score := saturating_sub_u32 reputation_data.overall_score (product / 100)
  let slashed_at_ledger ← sequence
  let now ← timestamp
  set (.LastSlash entity_address)
    { previous_score := reputation_data.overall_score, penalty_amount, slashed_at_ledger, timestamp := now }
  let total_penalties ← add_i128 reputation_data.total_penalties penalty_amount
  set (.Reputation entity_address)
    (.data
      { reputation_data with
        overall_score := new_score
        total_penalties
        current_stake := saturating_sub reputation_data.current_stake penalty_amount
        is_slashed := true
        badge_level := .None
        last_update_time := now })
  let history ← get (.PerformanceHistory entity_address)
  let history ← push_back (history.getD []) (amount_record now reputation_data.entity_type 0 1 penalty_amount 0)
  set (.PerformanceHistory entity_address) history
  update_leaderboard_internal entity_address new_score .None

def set_inactivity_policy (window_ledgers decay_bps : U32) : System Unit := do
  require_admin
  panic_if (window_ledgers = 0) "Inactivity window must be at least one ledger"
  panic_if (decay_bps > REPUTATION_SCALE) "Inactivity decay cannot exceed 100%"
  set .InactivityPolicy { window_ledgers, decay_bps }

/-- The part of a score that a decay takes, in basis points. -/
def share_of (score bps : U32) : U32 := UInt32.ofNat (score.toNat * bps.toNat / REPUTATION_SCALE.toNat)

/-- A reputation with another score, by which it gets its badge. -/
def ReputationData.rescored (data : ReputationData) (score : U32) (now : U64) : ReputationData :=
  { data with overall_score := score, badge_level := calculate_badge_level score, last_update_time := now }

/-- One round of `apply_inactivity_decay`, and how many entities have decayed after it. -/
def decay_inactive (policy : InactivityPolicy) (now decayed : U32) (entity : Address) : System U32 := do
  let last_activity ← get (.LastActivityLedger entity)
  last_activity.elim
    (do
      set (.LastActivityLedger entity) now
      return decayed)
    fun last_activity => do
      let last_decay ← get (.LastInactivityDecayLedger entity)
      let last_decay := last_decay.getD 0
      let since := saturating_sub_u32 now (if last_decay > last_activity then last_decay else last_activity)
      if since < policy.window_ledgers then return decayed
      else do
        let reputation_data ← unwrapped_data entity
        let time ← timestamp
        let reduction := share_of reputation_data.overall_score policy.decay_bps
        let overall_score := saturating_sub_u32 reputation_data.overall_score reduction
        set (.Reputation entity) (.data (reputation_data.rescored overall_score time))
        set (.LastInactivityDecayLedger entity) now
        update_leaderboard_internal entity overall_score (calculate_badge_level overall_score)
        add_u32 decayed 1

/-- A loop over the entities on the leaderboards, each of which is read when its turn comes. -/
def foldlM_entities {γ : Type} (f : γ → Address → System γ) (c : γ) : System γ :=
  entity_types.foldlM (fun c entity_type => do
    let leaderboard ← get (.ReputationLeaderboard entity_type)
    (leaderboard.getD []).foldlM (fun c entry => f c entry.entity_address) c) c

def apply_inactivity_decay : System U32 := do
  require_admin
  let policy ← inactivity_policy
  let now ← sequence
  foldlM_entities (decay_inactive policy now) 0

def set_appeal_policy (min_collateral : ℤ) (window_ledgers : U32) : System Unit := do
  require_admin
  panic_if (min_collateral < 0) "Appeal collateral cannot be negative"
  panic_if (window_ledgers = 0) "Appeal window must be at least one ledger"
  set .AppealPolicy { min_collateral, window_ledgers }

def submit_appeal (entity_address : Address) (collateral : ℤ) (reason : SString) : System Unit := do
  require_auth entity_address
  let reputation_data ← registered_data entity_address
  panic_if (reputation_data.is_slashed = false) "Entity is not slashed"
  let slash ← get (.LastSlash entity_address)
  let slash ← expect slash "No slash on record to appeal"
  let existing ← get (.Appeal entity_address)
  panic_if (existing.any (·.status = .Pending) = true) "An appeal is already pending"
  let policy ← appeal_policy
  let now ← sequence
  panic_if (saturating_sub_u32 now slash.slashed_at_ledger > policy.window_ledgers) "Appeal window has closed"
  panic_if (collateral < policy.min_collateral) "Appeal collateral below minimum"
  panic_if (collateral > reputation_data.current_stake) "Appeal collateral exceeds current stake"
  let current_stake ← sub_i128 reputation_data.current_stake collateral
  set (.Reputation entity_address) (.data { reputation_data with current_stake })
  set (.Appeal entity_address)
    { entity_address
      collateral
      reason
      submitted_ledger := now
      status := .Pending
      previous_score := slash.previous_score
      penalty_amount := slash.penalty_amount }

/-- What approval makes of a reputation. -/
def restored (reputation_data : ReputationData) (appeal : Appeal) : System ReputationData := do
  let amount ← add_i128 appeal.penalty_amount appeal.collateral
  let current_stake ← add_i128 reputation_data.current_stake amount
  let total_penalties ← sub_i128 reputation_data.total_penalties appeal.penalty_amount
  return {
    reputation_data with
    overall_score := appeal.previous_score
    badge_level := calculate_badge_level appeal.previous_score
    is_slashed := false
    current_stake
    total_penalties }

/-- The reputation that a resolution starts from. -/
def resolution (reputation_data : ReputationData) (appeal : Appeal) (approved : Bool) : System ReputationData :=
  if approved = true then restored reputation_data appeal else pure reputation_data

def resolve_appeal (entity_address : Address) (approved : Bool) : System Unit := do
  require_admin
  let appeal ← get (.Appeal entity_address)
  let appeal ← expect appeal "No appeal on record"
  panic_if (appeal.status ≠ .Pending) "Appeal already resolved"
  let reputation_data ← unwrapped_data entity_address
  let reputation_data ← resolution reputation_data appeal approved
  exec_if (approved = true) (remove (.LastSlash entity_address))
  let now ← timestamp
  set (.Reputation entity_address) (.data { reputation_data with last_update_time := now })
  set (.Appeal entity_address) { appeal with status := if approved = true then .Approved else .Rejected }
  update_leaderboard_internal entity_address reputation_data.overall_score reputation_data.badge_level

/-- A slashed entity recovers when a reward takes its score far enough. -/
def ReputationData.recovered (data : ReputationData) : ReputationData :=
  if data.is_slashed = true ∧ data.overall_score ≥ MIN_REPUTATION_THRESHOLD then
    { data with is_slashed := false, badge_level := calculate_badge_level data.overall_score }
  else data

/-- The history with the reward goes under the key of the reputation. -/
def grant_reward (entity_address : Address) (reward_amount : ℤ) (_reason : SString) : System Unit := do
  require_admin
  let reputation_data ← registered_data entity_address
  let config ← get .Config
  let config ← unwrap config
  let product ← mul_u32 (as_u32 reward_amount) config.reward_percentage
  let raised ← add_u32 reputation_data.overall_score (product / 100)
  let total_rewards ← add_i128 reputation_data.total_rewards reward_amount
  let current_stake ← add_i128 reputation_data.current_stake reward_amount
  let now ← timestamp
  let data := ReputationData.recovered
    { reputation_data with
      overall_score := min raised REPUTATION_SCALE
      total_rewards
      current_stake
      last_update_time := now }
  set (.Reputation entity_address) (.data data)
  let history ← get (.PerformanceHistory entity_address)
  let history ← push_back (history.getD []) (amount_record now data.entity_type 1 0 0 reward_amount)
  set (.Reputation entity_address) (.history history)
  update_leaderboard_internal entity_address (min raised REPUTATION_SCALE) data.badge_level

/-- One round of `apply_time_decay`. -/
def decay_in_time (current_time : U64) (entity_address : Address) : System Unit := do
  let reputation_data ← unwrapped_data entity_address
  let time_since_update ← sub_u64 current_time reputation_data.last_update_time
  let decayed_score := share_of reputation_data.overall_score (calculate_decay_factor time_since_update)
  exec_if (decayed_score ≠ reputation_data.overall_score) do
    set (.Reputation entity_address) (.data (reputation_data.rescored decayed_score current_time))
    update_leaderboard_internal entity_address decayed_score (calculate_badge_level decayed_score)

def apply_time_decay : System Unit := do
  require_admin
  let config ← get .Config
  let config ← unwrap config
  exec_if (config.decay_enabled = true) do
    let current_time ← timestamp
    foldlM_entities (fun _ entity => decay_in_time current_time entity) ()

def ReputationWeights.total (weights : ReputationWeights) : ℕ :=
  weights.accuracy_weight.toNat + weights.uptime_weight.toNat + weights.response_time_weight.toNat +
    weights.dispute_history_weight.toNat

def update_config (new_config : Config) : System Unit := do
  require_admin
  panic_if (2 ^ 32 ≤ new_config.weights.total) "attempt to add with overflow"
  panic_if (new_config.weights.total ≠ 100) "Weights must sum to 100"
  set .Config new_config

/-! ## Readers -/

def get_reputation (entity_address : Address) : System (Option ReputationData) := get_data entity_address

def check_access_control (entity_address : Address) (required_threshold : U32) : System Bool := do
  let reputation_data ← get_data entity_address
  return reputation_data.any fun data => !data.is_slashed && data.overall_score ≥ required_threshold

/-- The first entries of the leaderboard in order. -/
def get_leaderboard (entity_type : EntityType) (limit : U32) : System (List LeaderboardEntry) := do
  let leaderboard ← get (.ReputationLeaderboard entity_type)
  return (BubbleSort.sort (fun entry => entry.score.toNat) (leaderboard.getD [])).take limit.toNat

/-! ## Runs -/

/-- A call of an entry point that can change the storage. -/
inductive EntryPoint where
  | initialize_reputation (admin : Address) (config : Config)
  | register_entity (entity_address : Address) (entity_type : EntityType) (stake_amount : ℤ)
  | record_performance (entity_address : Address) (report : Report)
  | apply_penalty (entity_address : Address) (penalty_amount : ℤ) (reason : SString)
  | set_inactivity_policy (window_ledgers decay_bps : U32)
  | apply_inactivity_decay
  | set_appeal_policy (min_collateral : ℤ) (window_ledgers : U32)
  | submit_appeal (entity_address : Address) (collateral : ℤ) (reason : SString)
  | resolve_appeal (entity_address : Address) (approved : Bool)
  | grant_reward (entity_address : Address) (reward_amount : ℤ) (reason : SString)
  | apply_time_decay
  | update_config (new_config : Config)
  deriving DecidableEq

/-- A call whose result is not looked at. -/
def ignore {α : Type} (m : System α) : System Unit := do
  let _ ← m
  pure ()

def exec : EntryPoint → System Unit
  | .initialize_reputation admin config => initialize_reputation admin config
  | .register_entity entity_address entity_type stake_amount => register_entity entity_address entity_type stake_amount
  | .record_performance entity_address report => record_performance entity_address report
  | .apply_penalty entity_address penalty_amount reason => apply_penalty entity_address penalty_amount reason
  | .set_inactivity_policy window_ledgers decay_bps => set_inactivity_policy window_ledgers decay_bps
  | .apply_inactivity_decay => ignore apply_inactivity_decay
  | .set_appeal_policy min_collateral window_ledgers => set_appeal_policy min_collateral window_ledgers
  | .submit_appeal entity_address collateral reason => submit_appeal entity_address collateral reason
  | .resolve_appeal entity_address approved => resolve_appeal entity_address approved
  | .grant_reward entity_address reward_amount reason => grant_reward entity_address reward_amount reason
  | .apply_time_decay => apply_time_decay
  | .update_config new_config => update_config new_config

/-- The call sets the contract up. -/
def EntryPoint.initializes : EntryPoint → Bool
  | .initialize_reputation _ _ => true
  | _ => false

/-- The storage after some calls. -/
abbrev run (s : ReputationStorage) (calls : List (Ledger × EntryPoint)) : ReputationStorage := runFrom exec s calls

/-- The storage before the first call. -/
def empty_storage : ReputationStorage := fun _ => none

/-- An address for a concrete run. -/
def party (n : UInt8) : Address := .account (Vector.replicate 32 n)

/-- A ledger on which everybody signs. -/
def signed_at (timestamp : U64) (sequence : U32) : Ledger := { timestamp, auth := fun _ => true, sequence }

/-! ## What a call reads and writes -/

section Inversion

variable {env : Ledger} {s s' : ReputationStorage} {a : Address} {u : Unit} {data : ReputationData}

@[simp] theorem host_apply {α : Type} {m : Tx Contract.Env DataKey DataKey.Val α} : host m env s = m env.toEnv s := rfl

@[simp] theorem data?_eq_some {stored : StoredReputation} : stored.data? = some data ↔ stored = .data data := by
  cases stored <;> simp [StoredReputation.data?]

theorem get_data_eq_ok {o : Option ReputationData} :
    get_data a env s = .ok (o, s') ↔ s (.Reputation a) = o.map .data ∧ s' = s := by
  simp only [get_data, bind_eq_ok, load_eq_ok, elim_eq_ok, pure_eq_ok, expect_eq_ok, data?_eq_some, and_assoc,
    exists_and_left, exists_eq_left]
  cases o with
  | none => simp
  | some d =>
      constructor
      · rintro (⟨-, ho, -⟩ | ⟨_, hstored, _, rfl, ho, rfl⟩)
        · cases ho
        · rw [hstored, Option.some.inj ho]
          exact ⟨rfl, rfl⟩
      · rintro ⟨hstored, rfl⟩
        exact .inr ⟨.data d, hstored, d, rfl, rfl, rfl⟩

@[simp] theorem registered_data_eq_ok :
    registered_data a env s = .ok (data, s') ↔ s (.Reputation a) = some (.data data) ∧ s' = s := by
  simp only [registered_data, bind_eq_ok, get_data_eq_ok, expect_eq_ok]
  constructor
  · rintro ⟨o, s₁, ⟨hstored, rfl⟩, rfl, rfl⟩
    exact ⟨hstored, rfl⟩
  · rintro ⟨hstored, rfl⟩
    exact ⟨some data, s', ⟨hstored, rfl⟩, rfl, rfl⟩

@[simp] theorem unwrapped_data_eq_ok :
    unwrapped_data a env s = .ok (data, s') ↔ s (.Reputation a) = some (.data data) ∧ s' = s := by
  simp only [unwrapped_data, bind_eq_ok, get_data_eq_ok, host_apply, expect_eq_ok]
  constructor
  · rintro ⟨o, s₁, ⟨hstored, rfl⟩, rfl, rfl⟩
    exact ⟨hstored, rfl⟩
  · rintro ⟨hstored, rfl⟩
    exact ⟨some data, s', ⟨hstored, rfl⟩, rfl, rfl⟩

@[simp] theorem require_admin_eq_ok :
    require_admin env s = .ok (u, s') ↔ (∃ admin, s .Admin = some admin ∧ env.auth admin = true) ∧ s' = s := by
  simp only [require_admin, bind_eq_ok, load_eq_ok, host_apply, expect_eq_ok, HostCalls.require_auth_eq_ok, and_assoc,
    exists_and_left, exists_eq_left]
  constructor
  · rintro ⟨admin, hadmin, hauth, rfl⟩
    exact ⟨⟨admin, hadmin, hauth⟩, rfl⟩
  · rintro ⟨⟨admin, hadmin, hauth⟩, rfl⟩
    exact ⟨admin, hadmin, hauth, rfl⟩

@[simp] theorem mul_u32_eq_ok {x y z : U32} :
    mul_u32 x y env s = .ok (z, s') ↔ x.toNat * y.toNat < 2 ^ 32 ∧ z = x * y ∧ s' = s := by
  simp only [mul_u32, bind_eq_ok, panic_if_eq_ok, pure_eq_ok, not_le, and_assoc, exists_and_left, exists_eq_left,
    exists_const]

@[simp] theorem sub_u64_eq_ok {x y z : U64} :
    sub_u64 x y env s = .ok (z, s') ↔ y ≤ x ∧ z = x - y ∧ s' = s := by
  simp only [sub_u64, bind_eq_ok, panic_if_eq_ok, pure_eq_ok, UInt64.not_lt, and_assoc, exists_and_left, exists_eq_left,
    exists_const]

/-- A leaderboard with an entry for an address that it may have had already. -/
structure Puts (entry : LeaderboardEntry) (board board' : List LeaderboardEntry) : Prop where
  nodup : (board.map LeaderboardEntry.entity_address).Nodup → (board'.map LeaderboardEntry.entity_address).Nodup
  mem : (board.map LeaderboardEntry.entity_address).Nodup →
    ∀ e, e ∈ board' ↔ e = entry ∨ e ∈ board ∧ e.entity_address ≠ entry.entity_address

theorem map_set_entry (entry : LeaderboardEntry) (board : List LeaderboardEntry) :
    (set_entry entry board).map LeaderboardEntry.entity_address = board.map LeaderboardEntry.entity_address := by
  induction board with
  | nil => rfl
  | cons _ _ ih =>
      rw [set_entry]
      split
      · next h => simp [h]
      · rw [List.map_cons, ih, List.map_cons]

theorem mem_set_entry {entry : LeaderboardEntry} {board : List LeaderboardEntry}
    (hnodup : (board.map LeaderboardEntry.entity_address).Nodup)
    (hmem : entry.entity_address ∈ board.map LeaderboardEntry.entity_address) (e : LeaderboardEntry) :
    e ∈ set_entry entry board ↔ e = entry ∨ e ∈ board ∧ e.entity_address ≠ entry.entity_address := by
  induction board with
  | nil => cases hmem
  | cons _ board ih =>
      rw [List.map_cons, List.nodup_cons] at hnodup
      rw [set_entry]
      split
      · next heq =>
          rw [heq] at hnodup
          -- the others have other addresses
          have hothers : e ∈ board → e.entity_address ≠ entry.entity_address :=
            fun he heq' => hnodup.1 (heq' ▸ List.mem_map_of_mem he)
          rw [List.mem_cons, List.mem_cons]
          constructor
          · exact Or.imp_right fun he => ⟨.inr he, hothers he⟩
          · rintro (rfl | ⟨rfl | he, hne⟩)
            · exact .inl rfl
            · exact absurd heq hne
            · exact .inr he
      · next hne =>
          rw [List.map_cons, List.mem_cons] at hmem
          rw [List.mem_cons, ih hnodup.2 (hmem.resolve_left (Ne.symm hne)), List.mem_cons]
          constructor
          · rintro (rfl | rfl | ⟨he, hne'⟩)
            · exact .inr ⟨.inl rfl, hne⟩
            · exact .inl rfl
            · exact .inr ⟨.inr he, hne'⟩
          · rintro (rfl | ⟨rfl | he, hne'⟩)
            · exact .inr (.inl rfl)
            · exact .inl rfl
            · exact .inr (.inr ⟨he, hne'⟩)

theorem put_entry_of_ok {entry : LeaderboardEntry} {board board' : List LeaderboardEntry}
    (h : put_entry board entry env s = .ok (board', s')) : Puts entry board board' ∧ s' = s := by
  rw [put_entry, ite_eq_ok] at h
  rcases h with ⟨hmem, h⟩ | ⟨hmem, h⟩
  · rw [pure_eq_ok] at h
    obtain ⟨rfl, rfl⟩ := h
    exact ⟨⟨fun hnodup => by rwa [map_set_entry], fun hnodup => mem_set_entry hnodup hmem⟩, rfl⟩
  · simp only [push_back, host_apply, HostCalls.push_back_eq_ok] at h
    obtain ⟨-, rfl, rfl⟩ := h
    refine ⟨⟨fun hnodup => ?_, fun _ e => ?_⟩, rfl⟩
    · rw [List.map_append, List.map_singleton, List.nodup_append]
      refine ⟨hnodup, List.nodup_singleton _, ?_⟩
      rintro b hb c hc rfl
      exact hmem (List.mem_singleton.mp hc ▸ hb)
    · rw [List.mem_append, List.mem_singleton, or_comm]
      refine or_congr_right ⟨fun he => ⟨he, fun heq => hmem ?_⟩, And.left⟩
      rw [← heq]
      exact List.mem_map_of_mem he

end Inversion

end BridgeWatch.ReputationSystem

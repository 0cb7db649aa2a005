/-
The multi-signature treasury, `contracts/soroban/src/multisig_treasury.rs`.

A contract of its own, with its own storage. Every entry point that can change the storage is here; the
read-only ones are left out, and so is the key of spending limits, which no function uses. The address
that an asset is compared with is made from the text `native`, which is no address; it stands here as
any address that the host may give.
-/
import BridgeWatch.ContractState

set_option autoImplicit false

namespace BridgeWatch.Treasury

open Transaction
open Contract (U32 U64 I128 SString Address Env len str)

/-! ## Data -/

/-- The number of signers that the treasury holds. -/
def MAX_SIGNERS : U32 := 100

/-- Above this amount a transaction is delayed. -/
def DEFAULT_SPENDING_LIMIT : I128 := 10000

inductive Role where
  | Admin
  | Operator
  | Guardian
  deriving DecidableEq

inductive TransactionStatus where
  | Pending
  | Approved
  | Executed
  | Cancelled
  | Expired
  deriving DecidableEq

/-- `Transaction`. -/
structure TreasuryTransaction where
  id : U64
  creator : Address
  destination : Address
  amount : I128
  asset : Address
  description : SString
  status : TransactionStatus
  required_signatures : U32
  current_signatures : U32
  signers : List Address
  time_delay : U64
  execution_time : U64
  created_at : U64
  executed_at : U64
  is_emergency : Bool
  deriving DecidableEq

structure SignerData where
  address : Address
  role : Role
  weight : U32
  is_active : Bool
  added_at : U64
  deriving DecidableEq

structure MultiSigConfig where
  threshold : U32
  emergency_threshold : U32
  time_delay : U64
  max_transactions_per_day : U32
  require_emergency_approval : Bool
  deriving DecidableEq

structure TransactionLog where
  transaction_id : U64
  action : SString
  actor : Address
  timestamp : U64
  details : SString
  deriving DecidableEq

inductive DataKey where
  | Admin
  | Config
  | Signer (address : Address)
  | SignerCount
  | Transaction (id : U64)
  | TransactionCount
  | Nonce
  | Role (address : Address)
  | WhitelistedAsset (asset : Address)
  | TransactionHistory (id : U64)
  deriving DecidableEq

/-- The type of the record under a key. -/
@[reducible] def DataKey.Val : DataKey → Type
  | .Admin => Address
  | .Config => MultiSigConfig
  | .Signer _ => SignerData
  | .SignerCount => U32
  | .Transaction _ => TreasuryTransaction
  | .TransactionCount => U64
  | .Nonce => U64
  | .Role _ => Treasury.Role
  | .WhitelistedAsset _ => Bool
  | .TransactionHistory _ => List TransactionLog

/-- The contract's storage. -/
abbrev TreasuryStorage := Store DataKey DataKey.Val

/-- A call of a function of the contract. -/
abbrev Treasury (α : Type) := Tx Env DataKey DataKey.Val α

/-! ## The host -/

/-- The address that stands for the native asset. -/
class NativeAsset where
  native : Address

/-- `env.storage().persistent().get(&key)`, and the same on instance storage. -/
abbrev get (key : DataKey) : Treasury (Option key.Val) := load key

/-- `env.storage().persistent().set(&key, &value)`, and the same on instance storage. -/
abbrev set (key : DataKey) (value : key.Val) : Treasury Unit := save key value

/-- `env.ledger().timestamp()`. -/
abbrev timestamp : Treasury U64 := reads Env.timestamp

/-- `address.require_auth()`. -/
def require_auth (address : Address) : Treasury Unit := do
  let authorized ← reads (Env.auth · address)
  panic_if (authorized = false) "Error(Auth, InvalidAction)"

/-- `option.unwrap()`. -/
abbrev unwrap {α : Type} (o : Option α) : Treasury α :=
  expect o "called `Option::unwrap()` on a `None` value"

/-- `x + y` on `u64`. -/
def add_u64 (x y : U64) : Treasury U64 := do
  panic_if (2 ^ 64 ≤ x.toNat + y.toNat) "attempt to add with overflow"
  return x + y

/-- `x - 1` on `u32`. -/
def pred_u32 (x : U32) : Treasury U32 := do
  panic_if (x = 0) "attempt to subtract with overflow"
  return x - 1

/-- `vec.push_back(value)`: the length of a vector is a `u32`. -/
def push_back {α : Type} (values : List α) (value : α) : Treasury (List α) := do
  panic_if (2 ^ 32 ≤ values.length + 1) "Error(Object, ExceededLimit)"
  return values ++ [value]

/-! ## Internal functions -/

def log_transaction_action (transaction_id : U64) (action : SString) (actor : Address) (details : SString) :
    Treasury Unit := do
  let now ← timestamp
  let logs ← get (.TransactionHistory transaction_id)
  let updated_logs ← push_back (logs.getD []) { transaction_id, action, actor, timestamp := now, details }
  set (.TransactionHistory transaction_id) updated_logs

/-- The record of a transaction that is there. -/
def known_transaction (transaction_id : U64) : Treasury TreasuryTransaction := do
  let transaction ← get (.Transaction transaction_id)
  expect transaction "Transaction not found"

def sign_transaction_internal (transaction_id : U64) (signer : Address) : Treasury Unit := do
  let transaction ← known_transaction transaction_id
  panic_if (signer ∈ transaction.signers) "Already signed this transaction"
  let signers ← push_back transaction.signers signer
  let current_signatures := len signers
  let status := if current_signatures ≥ transaction.required_signatures then .Approved else transaction.status
  set (.Transaction transaction_id) { transaction with signers, current_signatures, status }
  log_transaction_action transaction_id (str "Signed") signer (str "Signature added")

/-- The admin authorises the call. -/
def require_admin : Treasury Unit := do
  let admin ← get .Admin
  let admin ← unwrap admin
  require_auth admin

/-! ## Entry points -/

/-- One round of the loop over the initial signers. -/
def add_initial_signer (entry : Address × Role) : Treasury Unit := do
  let now ← timestamp
  set (.Signer entry.1) { address := entry.1, role := entry.2, weight := 1, is_active := true, added_at := now }
  set (.Role entry.1) entry.2

/-- `initialize`, which may be called more than once. -/
def initialize_treasury (admin : Address) (config : MultiSigConfig) (initial_signers : List Address)
    (roles : List Role) : Treasury Unit := do
  require_auth admin
  panic_if (len initial_signers ≠ len roles) "Signers and roles must have same length"
  panic_if (len initial_signers < config.threshold) "Initial signers must meet threshold"
  set .Admin admin
  set .Config config
  set .Nonce 0
  set .TransactionCount 0
  set .SignerCount 0
  (initial_signers.zip roles).forM add_initial_signer
  set .SignerCount (len initial_signers)

def propose_transaction (creator destination : Address) (amount : I128) (asset : Address)
    (description : SString) (is_emergency : Bool) : Treasury U64 := do
  require_auth creator
  let signer ← get (.Signer creator)
  panic_if (signer.isNone = true) "Only signers can propose transactions"
  let config ← get .Config
  let config ← unwrap config
  let transaction_count ← get .TransactionCount
  let transaction_count ← unwrap transaction_count
  panic_if (config.max_transactions_per_day.toNat ≤ transaction_count.toNat) "Daily transaction limit reached"
  let required_signatures :=
    if is_emergency && config.require_emergency_approval then config.emergency_threshold else config.threshold
  let time_delay := if DEFAULT_SPENDING_LIMIT.toInt < amount.toInt then config.time_delay else 0
  let now ← timestamp
  let execution_time ← add_u64 now time_delay
  let nonce ← get .Nonce
  let nonce ← unwrap nonce
  let nonce ← add_u64 nonce 1
  set .Nonce nonce
  let tx_count ← add_u64 transaction_count 1
  set .TransactionCount tx_count
  set (.Transaction nonce)
    { id := nonce, creator, destination, amount, asset, description, status := .Pending, required_signatures,
      current_signatures := 0, signers := [], time_delay, execution_time, created_at := now, executed_at := 0,
      is_emergency }
  sign_transaction_internal nonce creator
  log_transaction_action nonce (str "Created") creator (str "Transaction proposed")
  return nonce

def sign_transaction (transaction_id : U64) (signer : Address) : Treasury Unit := do
  require_auth signer
  let signer_data ← get (.Signer signer)
  let signer_data ← expect signer_data "Not authorized to sign"
  panic_if (signer_data.is_active = false) "Signer is not active"
  sign_transaction_internal transaction_id signer

section

variable [NativeAsset]

def execute_transaction (transaction_id : U64) (executor : Address) : Treasury Unit := do
  require_auth executor
  let transaction ← known_transaction transaction_id
  panic_if (transaction.status ≠ .Pending) "Transaction is not pending"
  panic_if (transaction.current_signatures < transaction.required_signatures) "Not enough signatures"
  let now ← timestamp
  panic_if (now < transaction.execution_time) "Time delay not elapsed"
  let whitelisted ← get (.WhitelistedAsset transaction.asset)
  panic_if (transaction.asset ≠ NativeAsset.native ∧ whitelisted.isNone = true) "Asset not whitelisted"
  set (.Transaction transaction_id) { transaction with status := .Executed, executed_at := now }
  log_transaction_action transaction_id (str "Executed") executor (str "Transaction executed successfully")

end

def cancel_transaction (transaction_id : U64) (canceller : Address) : Treasury Unit := do
  require_auth canceller
  let transaction ← known_transaction transaction_id
  panic_if (transaction.status ≠ .Pending) "Transaction is not pending"
  let admin ← get .Admin
  let admin ← unwrap admin
  panic_if (transaction.creator ≠ canceller ∧ admin ≠ canceller) "Not authorized to cancel"
  set (.Transaction transaction_id) { transaction with status := .Cancelled }
  log_transaction_action transaction_id (str "Cancelled") canceller (str "Transaction cancelled")

def add_signer (new_signer : Address) (role : Role) : Treasury Unit := do
  require_admin
  let signer ← get (.Signer new_signer)
  panic_if (signer.isSome = true) "Signer already exists"
  let signer_count ← get .SignerCount
  let signer_count ← unwrap signer_count
  panic_if (signer_count ≥ MAX_SIGNERS) "Maximum signers reached"
  let now ← timestamp
  set (.Signer new_signer) { address := new_signer, role, weight := 1, is_active := true, added_at := now }
  set (.Role new_signer) role
  set .SignerCount (signer_count + 1)

def remove_signer (signer : Address) : Treasury Unit := do
  require_admin
  let signer_data ← get (.Signer signer)
  panic_if (signer_data.isNone = true) "Signer not found"
  let config ← get .Config
  let config ← unwrap config
  let signer_count ← get .SignerCount
  let signer_count ← unwrap signer_count
  let new_count ← pred_u32 signer_count
  panic_if (new_count < config.threshold) "Cannot remove signer: would break threshold"
  remove (.Signer signer)
  remove (.Role signer)
  set .SignerCount new_count

def update_threshold (new_threshold : U32) : Treasury Unit := do
  require_admin
  let signer_count ← get .SignerCount
  let signer_count ← unwrap signer_count
  panic_if (new_threshold > signer_count) "Threshold cannot exceed number of signers"
  panic_if (new_threshold = 0) "Threshold cannot be zero"
  let config ← get .Config
  let config ← unwrap config
  set .Config { config with threshold := new_threshold }

def whitelist_asset (asset : Address) : Treasury Unit := do
  require_admin
  set (.WhitelistedAsset asset) true

def remove_whitelisted_asset (asset : Address) : Treasury Unit := do
  require_admin
  remove (.WhitelistedAsset asset)

/-! ## Runs -/

/-- A call of an entry point that can change the storage. -/
inductive EntryPoint where
  | initialize_treasury (admin : Address) (config : MultiSigConfig) (initial_signers : List Address)
      (roles : List Role)
  | propose_transaction (creator destination : Address) (amount : I128) (asset : Address)
      (description : SString) (is_emergency : Bool)
  | sign_transaction (transaction_id : U64) (signer : Address)
  | execute_transaction (transaction_id : U64) (executor : Address)
  | cancel_transaction (transaction_id : U64) (canceller : Address)
  | add_signer (new_signer : Address) (role : Role)
  | remove_signer (signer : Address)
  | update_threshold (new_threshold : U32)
  | whitelist_asset (asset : Address)
  | remove_whitelisted_asset (asset : Address)
  deriving DecidableEq

section

variable [NativeAsset]

/-- What a call does. -/
def exec : EntryPoint → Treasury Unit
  | .initialize_treasury admin config initial_signers roles =>
      initialize_treasury admin config initial_signers roles
  | .propose_transaction creator destination amount asset description is_emergency => do
      let _ ← propose_transaction creator destination amount asset description is_emergency
  | .sign_transaction transaction_id signer => sign_transaction transaction_id signer
  | .execute_transaction transaction_id executor => execute_transaction transaction_id executor
  | .cancel_transaction transaction_id canceller => cancel_transaction transaction_id canceller
  | .add_signer new_signer role => add_signer new_signer role
  | .remove_signer signer => remove_signer signer
  | .update_threshold new_threshold => update_threshold new_threshold
  | .whitelist_asset asset => whitelist_asset asset
  | .remove_whitelisted_asset asset => remove_whitelisted_asset asset

/-- The storage after some calls. -/
abbrev run (s : TreasuryStorage) (calls : List (Env × EntryPoint)) : TreasuryStorage := runFrom exec s calls

end

/-- The storage before the first call. -/
def empty_storage : TreasuryStorage := fun _ => none

end BridgeWatch.Treasury

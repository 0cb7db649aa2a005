/-
The cross-chain message relay, `contracts/soroban/src/relay`.

A contract of its own, with its own storage, of which each field is one kind of key. Every entry point
that can change the storage is here; the read-only ones and the events are left out. The host rolls a
call back that returns an error, so such a call has no storage. What is called from within a batch is
the exception: the batch catches the error of an item, and so `relay_message_internal` returns the
storage it leaves with its error as well.
-/
import BridgeWatch.ContractState
import BridgeWatch.SaturatingArithmetic
import BridgeWatch.Soroban

set_option autoImplicit false

namespace BridgeWatch.Relay

open Contract (U32 U64 I128 Address Env saturating_add_u32 saturating_add_u64 append_u32 append_u64)
open SaturatingArithmetic

/-! ## Data -/

inductive RelayError where
  | AlreadyInitialized
  | NotInitialized
  | Unauthorized
  | InvalidNonce
  | MessageExpired
  | MessageNotFound
  | InvalidMessageStatus
  | OperatorNotActive
  | OperatorAlreadyRegistered
  | InvalidSignature
  | InvalidStateProof
  | ChainNotEnabled
  | ChainConfigNotFound
  | InsufficientFee
  | PayloadTooLarge
  | EmptyBatch
  | InvalidTtl
  deriving DecidableEq

inductive ChainId where
  | Stellar
  | Ethereum
  | Polygon
  | Base
  deriving DecidableEq

inductive MessageStatus where
  | Pending
  | Verified
  | Relayed
  | Failed
  | Expired
  deriving DecidableEq

inductive MessagePriority where
  | Critical
  | High
  | Medium
  | Low
  deriving DecidableEq

structure CrossChainMessage where
  message_id : BytesN 32
  source_chain : ChainId
  dest_chain : ChainId
  sender : Address
  payload : Buffer
  nonce : U64
  timestamp : U64
  expiry : U64
  priority : MessagePriority
  status : MessageStatus
  fee : I128
  deriving DecidableEq

structure StateProof where
  chain_id : ChainId
  block_number : U64
  state_root : BytesN 32
  proof_data : Buffer
  validator_key : BytesN 32
  signature : BytesN 64
  deriving DecidableEq

structure RelayOperator where
  operator : Address
  public_key : BytesN 32
  is_active : Bool
  messages_relayed : U64
  registered_at : U64
  deriving DecidableEq

structure ChainConfig where
  chain_id : ChainId
  base_fee : I128
  fee_per_byte : I128
  is_enabled : Bool
  deriving DecidableEq

structure BatchRelayItem where
  message_id : BytesN 32
  signature : BytesN 64
  deriving DecidableEq

structure RelayResult where
  success_count : U32
  failure_count : U32
  relayed_ids : List (BytesN 32)
  deriving DecidableEq

/-- The contract's storage: what is under each key of `RelayDataKey`. -/
structure RelayStorage where
  admin : Option Address
  initialized : Option Bool
  message : BytesN 32 → Option CrossChainMessage
  message_queue : Option (List (BytesN 32))
  nonce : Address → Option U64
  operator : Address → Option RelayOperator
  operator_list : Option (List Address)
  chain_config : U32 → Option ChainConfig
  total_messages : Option U64
  total_relayed : Option U64
  total_fees : Option I128
  default_ttl : Option U64

/-- What the contract takes from the host: SHA-256, and the text of an address. -/
class RelayHost where
  sha256 : Sha256
  to_string : Address → Buffer

/-! ## Internal helpers -/

def require_initialized (s : RelayStorage) : Call RelayError Unit :=
  reject_if (s.initialized.isNone = true) .NotInitialized

def require_admin (env : Env) (s : RelayStorage) : Call RelayError Unit := do
  require_initialized s
  let admin ← ok_or s.admin .NotInitialized
  require_auth env.auth admin

def chain_to_u32 : ChainId → U32
  | .Stellar => 0
  | .Ethereum => 1
  | .Polygon => 2
  | .Base => 3

def set_chain_config_internal (config : ChainConfig) (s : RelayStorage) : RelayStorage :=
  { s with chain_config := Function.update s.chain_config (chain_to_u32 config.chain_id) (some config) }

def get_chain_config (s : RelayStorage) (chain : ChainId) : Call RelayError ChainConfig :=
  ok_or (s.chain_config (chain_to_u32 chain)) .ChainConfigNotFound

def get_nonce (s : RelayStorage) (sender : Address) : U64 := (s.nonce sender).getD 0

def set_nonce (sender : Address) (nonce : U64) (s : RelayStorage) : RelayStorage :=
  { s with nonce := Function.update s.nonce sender (some nonce) }

def estimate_fee_internal (payload : Buffer) (cfg : ChainConfig) : I128 :=
  saturating_add_i128 cfg.base_fee (saturating_mul_i128 cfg.fee_per_byte (BitVec.ofNat 128 payload.length))

def is_expired (env : Env) (message : CrossChainMessage) : Bool := env.timestamp ≥ message.expiry

/-- `set` of a message under its id. -/
def set_message (message_id : BytesN 32) (message : CrossChainMessage) (s : RelayStorage) : RelayStorage :=
  { s with message := Function.update s.message message_id (some message) }

/-- `set` of an operator under its address. -/
def set_operator (operator : Address) (relay_operator : RelayOperator) (s : RelayStorage) : RelayStorage :=
  { s with operator := Function.update s.operator operator (some relay_operator) }

def get_message_or_err (s : RelayStorage) (id : BytesN 32) : Call RelayError CrossChainMessage :=
  ok_or (s.message id) .MessageNotFound

def message_priority_value : MessagePriority → U32
  | .Critical => 0
  | .High => 1
  | .Medium => 2
  | .Low => 3

/-- The message queue, or an empty one. -/
def queue (s : RelayStorage) : List (BytesN 32) := s.message_queue.getD []

/-- A queued message that is stored and of a lower priority. -/
def outranked (s : RelayStorage) (target_priority : U32) (qid : BytesN 32) : Bool :=
  (s.message qid).any fun qmsg => target_priority < message_priority_value qmsg.priority

def insert_queue_by_priority (message_id : BytesN 32) (s : RelayStorage) : Call RelayError RelayStorage := do
  let message ← get_message_or_err s message_id
  let target_priority := message_priority_value message.priority
  let insert_at := (queue s).findIdx (outranked s target_priority)
  return { s with message_queue := some ((queue s).insertIdx insert_at message_id) }

/-- The first entry that is `message_id` is removed. -/
def remove_from_queue (message_id : BytesN 32) (s : RelayStorage) : RelayStorage :=
  { s with message_queue := some ((queue s).erase message_id) }

/-- Both halves of the signature are the digest. -/
def signs (signature : BytesN 64) (digest : BytesN 32) : Bool :=
  signature.toList = digest.toList ++ digest.toList

section

variable [RelayHost]

/-- The bytes that the id of a message is the hash of. -/
def message_bytes (source_chain dest_chain : ChainId) (sender : Address) (payload : Buffer)
    (nonce timestamp : U64) : Buffer :=
  let data := append_u32 [] (chain_to_u32 source_chain)
  let data := append_u32 data (chain_to_u32 dest_chain)
  let data := append_u64 data nonce
  let data := append_u64 data timestamp
  let data := data ++ RelayHost.to_string sender
  data ++ payload

/-- The text of the sender is copied into 56 bytes, and the slice traps where it is longer. -/
def hash_message (source_chain dest_chain : ChainId) (sender : Address) (payload : Buffer)
    (nonce timestamp : U64) : Call RelayError (BytesN 32) :=
  if 56 < (RelayHost.to_string sender).length then .error .panic
  else .ok (RelayHost.sha256 (message_bytes source_chain dest_chain sender payload nonce timestamp))

def verify_operator_signature (message_id public_key : BytesN 32) (signature : BytesN 64) : Bool :=
  signs signature (RelayHost.sha256 (message_id.toList ++ public_key.toList))

/-- What an item of a batch returns, and the storage it leaves, also where it returns an error. -/
def relay_message_internal (env : Env) (operator : Address) (message_id : BytesN 32) (signature : BytesN 64)
    (s : RelayStorage) : Except RelayError Bool × RelayStorage :=
  match s.operator operator with
  | none => (.error .OperatorNotActive, s)
  | some relay_operator =>
      if relay_operator.is_active = false then (.error .OperatorNotActive, s)
      else
        match s.message message_id with
        | none => (.error .MessageNotFound, s)
        | some message =>
            if is_expired env message then
              (.error .MessageExpired, set_message message_id { message with status := .Expired } s)
            else if message.status ≠ .Pending ∧ message.status ≠ .Verified then
              (.error .InvalidMessageStatus, s)
            else if verify_operator_signature message_id relay_operator.public_key signature = false then
              (.error .InvalidSignature, s)
            else
              let s := set_message message_id { message with status := .Relayed } s
              let messages_relayed := saturating_add_u64 relay_operator.messages_relayed 1
              let s := set_operator operator { relay_operator with messages_relayed } s
              let s := remove_from_queue message_id s
              (.ok true, { s with total_relayed := some (saturating_add_u64 (s.total_relayed.getD 0) 1) })

/-- An operator of the list is active and has the key. -/
def active_validator (s : RelayStorage) (validator_key : BytesN 32) : Bool :=
  (s.operator_list.getD []).any fun op_addr =>
    (s.operator op_addr).any fun op => op.is_active && op.public_key = validator_key

def verify_state_proof_internal (proof : StateProof) (s : RelayStorage) : Call RelayError Bool := do
  let config ← get_chain_config s proof.chain_id
  reject_if (config.is_enabled = false) .ChainNotEnabled
  reject_if (RelayHost.sha256 proof.proof_data ≠ proof.state_root) .InvalidStateProof
  reject_if (active_validator s proof.validator_key = false) .OperatorNotActive
  let attestation := append_u32 [] (chain_to_u32 proof.chain_id)
  let attestation := append_u64 attestation proof.block_number
  let attestation := attestation ++ proof.state_root.toList ++ proof.validator_key.toList
  reject_if (signs proof.signature (RelayHost.sha256 attestation) = false) .InvalidSignature
  return true

end

/-! ## Entry points -/

/-- `initialize`. -/
def initialize_relay (env : Env) (admin : Address) (default_ttl : U64) (s : RelayStorage) :
    Call RelayError RelayStorage := do
  reject_if (default_ttl = 0) .InvalidTtl
  reject_if (s.initialized.isSome = true) .AlreadyInitialized
  require_auth env.auth admin
  let s := { s with
    admin := some admin
    initialized := some true
    default_ttl := some default_ttl
    message_queue := some []
    operator_list := some []
    total_messages := some 0
    total_relayed := some 0
    total_fees := some 0 }
  let s := set_chain_config_internal ⟨.Ethereum, 1500, 6, true⟩ s
  let s := set_chain_config_internal ⟨.Polygon, 800, 3, true⟩ s
  return set_chain_config_internal ⟨.Base, 1000, 4, true⟩ s

def configure_chain (env : Env) (config : ChainConfig) (s : RelayStorage) : Call RelayError RelayStorage := do
  require_admin env s
  return set_chain_config_internal config s

def register_relay_operator (env : Env) (operator : Address) (public_key : BytesN 32) (s : RelayStorage) :
    Call RelayError RelayStorage := do
  require_admin env s
  reject_if ((s.operator operator).isSome = true) .OperatorAlreadyRegistered
  let s := set_operator operator ⟨operator, public_key, true, 0, env.timestamp⟩ s
  return { s with operator_list := some (s.operator_list.getD [] ++ [operator]) }

def deactivate_relay_operator (env : Env) (operator : Address) (s : RelayStorage) :
    Call RelayError RelayStorage := do
  require_admin env s
  let relay_operator ← ok_or (s.operator operator) .OperatorNotActive
  return set_operator operator { relay_operator with is_active := false } s

section

variable [RelayHost]

def send_message (env : Env) (source_chain dest_chain : ChainId) (sender : Address) (payload : Buffer)
    (nonce : U64) (priority : MessagePriority) (ttl_override : U64) (fee_paid : I128) (s : RelayStorage) :
    Call RelayError (BytesN 32 × RelayStorage) := do
  require_initialized s
  require_auth env.auth sender
  reject_if (16384 < payload.length) .PayloadTooLarge
  let chain_config ← get_chain_config s dest_chain
  reject_if (chain_config.is_enabled = false) .ChainNotEnabled
  let expected_nonce := get_nonce s sender
  reject_if (nonce ≠ expected_nonce) .InvalidNonce
  let estimated_fee := estimate_fee_internal payload chain_config
  reject_if (fee_paid.toInt < estimated_fee.toInt) .InsufficientFee
  let now := env.timestamp
  let default_ttl ← ok_or s.default_ttl .NotInitialized
  let ttl := if ttl_override = 0 then default_ttl else ttl_override
  reject_if (ttl = 0) .InvalidTtl
  let expiry := saturating_add_u64 now ttl
  let message_id ← hash_message source_chain dest_chain sender payload nonce now
  let s := set_message message_id
    { message_id, source_chain, dest_chain, sender, payload, nonce, timestamp := now, expiry, priority
      status := .Pending, fee := estimated_fee } s
  let s ← insert_queue_by_priority message_id s
  let s := set_nonce sender (saturating_add_u64 expected_nonce 1) s
  return (message_id,
    { s with
      total_messages := some (saturating_add_u64 (s.total_messages.getD 0) 1)
      total_fees := some (saturating_add_i128 (s.total_fees.getD 0) estimated_fee) })

/-- An expired message is marked before the error is returned, but the host takes the mark back. -/
def verify_message (env : Env) (message_id : BytesN 32) (proof : StateProof) (s : RelayStorage) :
    Call RelayError (Bool × RelayStorage) := do
  require_initialized s
  let message ← get_message_or_err s message_id
  reject_if (is_expired env message = true) .MessageExpired
  reject_if (message.status ≠ .Pending) .InvalidMessageStatus
  reject_if (proof.chain_id ≠ message.source_chain) .InvalidStateProof
  let proof_ok ← verify_state_proof_internal proof s
  reject_if (proof_ok = false) .InvalidStateProof
  return (true, set_message message_id { message with status := .Verified } s)

def relay_message (env : Env) (operator : Address) (message_id : BytesN 32) (signature : BytesN 64)
    (s : RelayStorage) : Call RelayError (Bool × RelayStorage) := do
  require_initialized s
  require_auth env.auth operator
  match relay_message_internal env operator message_id signature s with
  | (.ok relayed, s) => .ok (relayed, s)
  | (.error e, _) => .error (.err e)

/-- What a batch has counted, with the storage it has come to. -/
structure BatchProgress where
  success_count : U32
  failure_count : U32
  relayed_ids : List (BytesN 32)
  storage : RelayStorage

/-- One round of the loop of `batch_relay`. -/
def relay_item (env : Env) (operator : Address) (b : BatchProgress) (item : BatchRelayItem) : BatchProgress :=
  match relay_message_internal env operator item.message_id item.signature b.storage with
  | (.ok _, storage) =>
      { b with
        success_count := saturating_add_u32 b.success_count 1
        relayed_ids := b.relayed_ids ++ [item.message_id]
        storage }
  | (.error _, storage) => { b with failure_count := saturating_add_u32 b.failure_count 1, storage }

def batch_relay (env : Env) (operator : Address) (items : List BatchRelayItem) (s : RelayStorage) :
    Call RelayError (RelayResult × RelayStorage) := do
  require_initialized s
  require_auth env.auth operator
  reject_if (items.length = 0) .EmptyBatch
  let b := items.foldl (relay_item env operator) ⟨0, 0, [], s⟩
  return (⟨b.success_count, b.failure_count, b.relayed_ids⟩, b.storage)

end

/-- An entry of the queue that a cleanup removes. -/
def is_stale (env : Env) (s : RelayStorage) (id : BytesN 32) : Bool :=
  match s.message id with
  | none => true
  | some msg =>
      is_expired env msg && (msg.status = .Pending || msg.status = .Verified) ||
        (msg.status = .Relayed || msg.status = .Expired)

/-- The messages when a cleanup has passed the entry: one that has expired in the queue is marked. -/
def mark_expired (env : Env) (id : BytesN 32) (s : RelayStorage) : RelayStorage :=
  match s.message id with
  | none => s
  | some msg =>
      if is_expired env msg && (msg.status = .Pending || msg.status = .Verified) then
        set_message id { msg with status := .Expired } s
      else s

/-- The loop of `cleanup_expired_messages` over the entries from `scanned` on, while `left` of the
`max_items` remain: the entries that stay, the count of those removed and the storage. -/
def cleanup_scan (env : Env) : List (BytesN 32) → ℕ → RelayStorage → List (BytesN 32) × U32 × RelayStorage
  | [], _, s => ([], 0, s)
  | id :: rest, 0, s => (id :: rest, 0, s)
  | id :: rest, left + 1, s =>
      if is_stale env s id then
        let (kept, cleaned, s) := cleanup_scan env rest (left + 1) (mark_expired env id s)
        (kept, saturating_add_u32 cleaned 1, s)
      else
        let (kept, cleaned, s) := cleanup_scan env rest left s
        (id :: kept, cleaned, s)

def cleanup_expired_messages (env : Env) (max_items : U32) (s : RelayStorage) :
    Call RelayError (U32 × RelayStorage) := do
  require_initialized s
  if max_items = 0 then return (0, s)
  else
    let (kept, cleaned, s) := cleanup_scan env (queue s) max_items.toNat s
    return (cleaned, { s with message_queue := some kept })

/-! ## Runs -/

/-- A call of an entry point that can change the storage. -/
inductive EntryPoint where
  | initialize_relay (admin : Address) (default_ttl : U64)
  | configure_chain (config : ChainConfig)
  | register_relay_operator (operator : Address) (public_key : BytesN 32)
  | deactivate_relay_operator (operator : Address)
  | send_message (source_chain dest_chain : ChainId) (sender : Address) (payload : Buffer) (nonce : U64)
      (priority : MessagePriority) (ttl_override : U64) (fee_paid : I128)
  | verify_message (message_id : BytesN 32) (proof : StateProof)
  | relay_message (operator : Address) (message_id : BytesN 32) (signature : BytesN 64)
  | batch_relay (operator : Address) (items : List BatchRelayItem)
  | cleanup_expired_messages (max_items : U32)
  deriving DecidableEq

/-- What a call returns. -/
inductive Answer where
  | done
  | sent (message_id : BytesN 32)
  | passed (ok : Bool)
  | batch (result : RelayResult)
  | cleaned (count : U32)
  deriving DecidableEq

section

variable [RelayHost]

/-- What a call does. -/
def exec (env : Env) (s : RelayStorage) : EntryPoint → Call RelayError (Answer × RelayStorage)
  | .initialize_relay admin default_ttl => do
      let s ← initialize_relay env admin default_ttl s
      return (.done, s)
  | .configure_chain config => do
      let s ← configure_chain env config s
      return (.done, s)
  | .register_relay_operator operator public_key => do
      let s ← register_relay_operator env operator public_key s
      return (.done, s)
  | .deactivate_relay_operator operator => do
      let s ← deactivate_relay_operator env operator s
      return (.done, s)
  | .send_message source_chain dest_chain sender payload nonce priority ttl_override fee_paid => do
      let (message_id, s) ←
        send_message env source_chain dest_chain sender payload nonce priority ttl_override fee_paid s
      return (.sent message_id, s)
  | .verify_message message_id proof => do
      let (ok, s) ← verify_message env message_id proof s
      return (.passed ok, s)
  | .relay_message operator message_id signature => do
      let (ok, s) ← relay_message env operator message_id signature s
      return (.passed ok, s)
  | .batch_relay operator items => do
      let (result, s) ← batch_relay env operator items s
      return (.batch result, s)
  | .cleanup_expired_messages max_items => do
      let (count, s) ← cleanup_expired_messages env max_items s
      return (.cleaned count, s)

end

/-- The storage before the first call. -/
def empty_storage : RelayStorage where
  admin := none
  initialized := none
  message _ := none
  message_queue := none
  nonce _ := none
  operator _ := none
  operator_list := none
  chain_config _ := none
  total_messages := none
  total_relayed := none
  total_fees := none
  default_ttl := none

end BridgeWatch.Relay

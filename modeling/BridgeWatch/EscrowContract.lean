/-
The time-locked escrow, `contracts/soroban/src/escrow_contract.rs`.

A contract of its own, with its own storage, of which each field is one kind of key. Every entry point
that can change the storage is here; the read-only ones and the events are left out. No token moves:
what a release, a refund or a recovery pays out is the amount that it returns or is given, and the
contract only keeps account of it.
-/
import BridgeWatch.ContractState
import BridgeWatch.SaturatingArithmetic
import BridgeWatch.Soroban

set_option autoImplicit false

namespace BridgeWatch.Escrow

open Contract (U32 U64 I128 SString Address Env len saturating_add_u64)
open SaturatingArithmetic

/-! ## Data -/

def BPS_DENOMINATOR : I128 := 10000

def DEFAULT_LOCK_SECS : U64 := 3600

def MAX_METADATA_LEN : U32 := 512

inductive EscrowError where
  | NotAuthorized
  | InvalidAmount
  | InvalidLockConfig
  | EscrowNotFound
  | LockNotElapsed
  | AlreadyChallenged
  | NoChallenge
  | ChallengeWindowClosed
  | InvalidEscrowState
  | VerificationPending
  | VerificationFailed
  | AlreadyApproved
  | InvalidDisputeDecision
  | MetadataTooLarge
  | EmergencyNotEnabled
  | FeeConfigInvalid
  | NothingToRelease
  | NothingToRefund
  deriving DecidableEq

inductive EscrowStatus where
  | Pending
  | Challenged
  | Released
  | Refunded
  deriving DecidableEq

structure EscrowDeposit where
  escrow_id : U64
  depositor : Address
  recipient : Address
  bridge_id : SString
  asset_type : SString
  amount : I128
  fee_total : I128
  released_amount : I128
  lock_until : U64
  status : EscrowStatus
  metadata : SString
  verification_contract : Address
  verification_ref : SString
  verified : Bool
  deriving DecidableEq

structure ChallengeInfo where
  escrow_id : U64
  challenger : Address
  reason : SString
  timestamp : U64
  deriving DecidableEq

structure DisputeResolution where
  escrow_id : U64
  decision_release : Bool
  approvals : List Address
  required_approvals : U32
  resolved : Bool
  deriving DecidableEq

/-- The contract's storage: what is under each key of `DataKey`. -/
structure EscrowStorage where
  admin : Option Address
  fee_collector : Option Address
  fee_bps : Option U32
  escrow_seq : Option U64
  escrow : U64 → Option EscrowDeposit
  challenge : U64 → Option ChallengeInfo
  dispute : U64 → Option DisputeResolution
  lock_period : SString × SString → Option U64
  approvers : Option (List Address)
  approval_threshold : Option U32
  emergency_pause : Option Bool
  accrued_fees : Option I128

/-! ## Internal functions -/

/-- `set` of an escrow under its number. -/
def set_escrow (escrow_id : U64) (escrow : EscrowDeposit) (s : EscrowStorage) : EscrowStorage :=
  { s with escrow := Function.update s.escrow escrow_id (some escrow) }

/-- `set` of a challenge under the number of its escrow. -/
def set_challenge (escrow_id : U64) (challenge : ChallengeInfo) (s : EscrowStorage) : EscrowStorage :=
  { s with challenge := Function.update s.challenge escrow_id (some challenge) }

/-- `set` of a dispute under the number of its escrow. -/
def set_dispute (escrow_id : U64) (dispute : DisputeResolution) (s : EscrowStorage) : EscrowStorage :=
  { s with dispute := Function.update s.dispute escrow_id (some dispute) }

/-- The number of the next escrow. -/
def next_id (s : EscrowStorage) : U64 × EscrowStorage :=
  let current := s.escrow_seq.getD 0
  (current, { s with escrow_seq := some (saturating_add_u64 current 1) })

def get_escrow_mut (s : EscrowStorage) (escrow_id : U64) : Call EscrowError EscrowDeposit :=
  ok_or (s.escrow escrow_id) .EscrowNotFound

def require_admin (env : Env) (admin : Address) (s : EscrowStorage) : Call EscrowError Unit := do
  require_auth env.auth admin
  let stored ← unwrap s.admin
  reject_if (stored ≠ admin) .NotAuthorized

def paused (s : EscrowStorage) : Bool := s.emergency_pause.getD false

def require_not_paused (s : EscrowStorage) : Call EscrowError Unit :=
  reject_if (paused s = true) .EmergencyNotEnabled

def contains_addr (list : List Address) (who : Address) : Bool := list.contains who

def require_approver (approver : Address) (s : EscrowStorage) : Call EscrowError Unit := do
  let approvers ← unwrap s.approvers
  reject_if (contains_addr approvers approver = false) .NotAuthorized

/-- The escrow is paid out. -/
def is_over (status : EscrowStatus) : Bool := status = .Released || status = .Refunded

/-- `x + y` on `i128`. -/
def add_i128 (x y : I128) : Call EscrowError I128 :=
  if -2 ^ 127 ≤ x.toInt + y.toInt ∧ x.toInt + y.toInt < 2 ^ 127 then .ok (x + y) else .error .panic

/-- `vec.push_back(value)`: the length of a vector is a `u32`. -/
def push_back {α : Type} (values : List α) (value : α) : Call EscrowError (List α) :=
  if values.length + 1 < 2 ^ 32 then .ok (values ++ [value]) else .error .panic

/-! ## Entry points -/

def initialize_escrow (env : Env) (admin fee_collector : Address) (fee_bps : U32) (approvers : List Address)
    (approval_threshold : U32) (s : EscrowStorage) : Call EscrowError EscrowStorage := do
  require_auth env.auth admin
  reject_if (s.admin.isSome = true) .NotAuthorized
  reject_if (2000 < fee_bps) .FeeConfigInvalid
  reject_if (approvers = [] ∨ approval_threshold = 0 ∨ len approvers < approval_threshold) .InvalidDisputeDecision
  return { s with
    admin := some admin
    fee_collector := some fee_collector
    fee_bps := some fee_bps
    approvers := some approvers
    approval_threshold := some approval_threshold
    escrow_seq := some 0
    emergency_pause := some false
    accrued_fees := some 0 }

def set_lock_period (env : Env) (admin : Address) (bridge_id asset_type : SString) (lock_secs : U64)
    (s : EscrowStorage) : Call EscrowError EscrowStorage := do
  require_admin env admin s
  reject_if (lock_secs = 0) .InvalidLockConfig
  return { s with lock_period := Function.update s.lock_period (bridge_id, asset_type) (some lock_secs) }

def set_fee_config (env : Env) (admin fee_collector : Address) (fee_bps : U32) (s : EscrowStorage) :
    Call EscrowError EscrowStorage := do
  require_admin env admin s
  reject_if (2000 < fee_bps) .FeeConfigInvalid
  return { s with fee_collector := some fee_collector, fee_bps := some fee_bps }

def set_approvers (env : Env) (admin : Address) (approvers : List Address) (approval_threshold : U32)
    (s : EscrowStorage) : Call EscrowError EscrowStorage := do
  require_admin env admin s
  reject_if (approvers = [] ∨ approval_threshold = 0 ∨ len approvers < approval_threshold) .InvalidDisputeDecision
  return { s with approvers := some approvers, approval_threshold := some approval_threshold }

def set_emergency_pause (env : Env) (admin : Address) (paused : Bool) (s : EscrowStorage) :
    Call EscrowError EscrowStorage := do
  require_admin env admin s
  return { s with emergency_pause := some paused }

def create_escrow (env : Env) (depositor recipient : Address) (bridge_id asset_type : SString) (amount : I128)
    (metadata : SString) (verification_contract : Address) (verification_ref : SString) (s : EscrowStorage) :
    Call EscrowError (U64 × EscrowStorage) := do
  require_not_paused s
  require_auth env.auth depositor
  reject_if (amount.toInt ≤ 0) .InvalidAmount
  reject_if (MAX_METADATA_LEN < len metadata) .MetadataTooLarge
  let fee_bps := s.fee_bps.getD 0
  let fee_total ← ok_or ((checked_mul_i128 amount (BitVec.ofNat 128 fee_bps.toNat)).bind
    (checked_div_i128 · BPS_DENOMINATOR)) .InvalidAmount
  let lock_period := (s.lock_period (bridge_id, asset_type)).getD DEFAULT_LOCK_SECS
  let lock_until := saturating_add_u64 env.timestamp lock_period
  let (escrow_id, s) := next_id s
  let accrued ← add_i128 (s.accrued_fees.getD 0) fee_total
  let s := { s with accrued_fees := some accrued }
  return (escrow_id, set_escrow escrow_id
    { escrow_id, depositor, recipient, bridge_id, asset_type, amount, fee_total, released_amount := 0, lock_until
      status := .Pending, metadata, verification_contract, verification_ref, verified := false } s)

def sync_verification (env : Env) (verifier_contract : Address) (escrow_id : U64) (verified : Bool)
    (s : EscrowStorage) : Call EscrowError EscrowStorage := do
  require_auth env.auth verifier_contract
  let escrow ← get_escrow_mut s escrow_id
  reject_if (verifier_contract ≠ escrow.verification_contract) .NotAuthorized
  reject_if (is_over escrow.status = true) .InvalidEscrowState
  return set_escrow escrow_id { escrow with verified } s

def challenge_escrow (env : Env) (challenger : Address) (escrow_id : U64) (reason : SString) (s : EscrowStorage) :
    Call EscrowError EscrowStorage := do
  require_not_paused s
  require_auth env.auth challenger
  let escrow ← get_escrow_mut s escrow_id
  reject_if (escrow.status ≠ .Pending) .InvalidEscrowState
  reject_if (env.timestamp ≥ escrow.lock_until) .ChallengeWindowClosed
  reject_if ((s.challenge escrow_id).isSome = true) .AlreadyChallenged
  let s := set_escrow escrow_id { escrow with status := .Challenged } s
  return set_challenge escrow_id { escrow_id, challenger, reason, timestamp := env.timestamp } s

def resolve_challenge (env : Env) (approver : Address) (escrow_id : U64) (release_allowed : Bool)
    (s : EscrowStorage) : Call EscrowError (Bool × EscrowStorage) := do
  require_not_paused s
  require_auth env.auth approver
  require_approver approver s
  let escrow ← get_escrow_mut s escrow_id
  reject_if (escrow.status ≠ .Challenged) .NoChallenge
  let required := s.approval_threshold.getD 1
  let dispute := (s.dispute escrow_id).getD
    { escrow_id, decision_release := release_allowed, approvals := [], required_approvals := required
      resolved := false }
  if dispute.resolved then return (true, s)
  else
    reject_if (dispute.decision_release ≠ release_allowed) .InvalidDisputeDecision
    reject_if (contains_addr dispute.approvals approver = true) .AlreadyApproved
    let approvals ← push_back dispute.approvals approver
    let resolved := decide (len approvals ≥ dispute.required_approvals)
    let status := if resolved && dispute.decision_release then .Pending else escrow.status
    let s := set_dispute escrow_id { dispute with approvals, resolved } s
    return (resolved, set_escrow escrow_id { escrow with status } s)

def release_escrow_internal (env : Env) (caller : Address) (escrow_id : U64) (release_amount : I128)
    (enforce_auth : Bool) (s : EscrowStorage) : Call EscrowError (I128 × EscrowStorage) := do
  require_not_paused s
  (if enforce_auth then require_auth env.auth caller else .ok ())
  let admin ← unwrap s.admin
  let escrow ← get_escrow_mut s escrow_id
  reject_if (caller ≠ escrow.recipient ∧ caller ≠ admin) .NotAuthorized
  reject_if (is_over escrow.status = true) .InvalidEscrowState
  reject_if (escrow.status = .Challenged) .NoChallenge
  reject_if (escrow.verified = false) .VerificationPending
  reject_if (env.timestamp < escrow.lock_until) .LockNotElapsed
  reject_if (release_amount.toInt ≤ 0) .InvalidAmount
  let releasable_total := saturating_sub_i128 escrow.amount escrow.fee_total
  let remaining := saturating_sub_i128 releasable_total escrow.released_amount
  reject_if (remaining.toInt ≤ 0) .NothingToRelease
  reject_if (remaining.toInt < release_amount.toInt) .InvalidAmount
  let released_amount := saturating_add_i128 escrow.released_amount release_amount
  let status := if releasable_total.toInt ≤ released_amount.toInt then .Released else escrow.status
  return (release_amount, set_escrow escrow_id { escrow with released_amount, status } s)

def release_escrow (env : Env) (caller : Address) (escrow_id : U64) (release_amount : I128) (s : EscrowStorage) :
    Call EscrowError (I128 × EscrowStorage) :=
  release_escrow_internal env caller escrow_id release_amount true s

/-- The loop of `batch_release`. -/
def release_each (env : Env) (caller : Address) (release_amount : I128) :
    List U64 → EscrowStorage → Call EscrowError (List I128 × EscrowStorage)
  | [], s => .ok ([], s)
  | escrow_id :: escrow_ids, s => do
      let (amt, s) ← release_escrow_internal env caller escrow_id release_amount false s
      let (released, s) ← release_each env caller release_amount escrow_ids s
      return (amt :: released, s)

def batch_release (env : Env) (caller : Address) (escrow_ids : List U64) (release_amount : I128)
    (s : EscrowStorage) : Call EscrowError (List I128 × EscrowStorage) := do
  require_not_paused s
  require_auth env.auth caller
  release_each env caller release_amount escrow_ids s

/-- What `refund_escrow` asks of a challenged escrow, and of any other. -/
def require_rejected (escrow_id : U64) (escrow : EscrowDeposit) (s : EscrowStorage) : Call EscrowError Unit :=
  if escrow.status = .Challenged then do
    let dispute ← ok_or (s.dispute escrow_id) .NoChallenge
    reject_if (dispute.resolved = false ∨ dispute.decision_release = true) .InvalidEscrowState
  else reject_if (escrow.verified = true) .VerificationFailed

def refund_escrow (env : Env) (caller : Address) (escrow_id : U64) (s : EscrowStorage) :
    Call EscrowError (I128 × EscrowStorage) := do
  require_not_paused s
  require_auth env.auth caller
  let admin ← unwrap s.admin
  let escrow ← get_escrow_mut s escrow_id
  reject_if (caller ≠ escrow.depositor ∧ caller ≠ admin) .NotAuthorized
  reject_if (is_over escrow.status = true) .InvalidEscrowState
  require_rejected escrow_id escrow s
  let refund_amount :=
    saturating_sub_i128 (saturating_sub_i128 escrow.amount escrow.released_amount) escrow.fee_total
  reject_if (refund_amount.toInt ≤ 0) .NothingToRefund
  return (refund_amount, set_escrow escrow_id { escrow with status := .Refunded } s)

def extend_lock (env : Env) (admin : Address) (escrow_id extra_secs : U64) (s : EscrowStorage) :
    Call EscrowError (U64 × EscrowStorage) := do
  require_admin env admin s
  reject_if (extra_secs = 0) .InvalidLockConfig
  let escrow ← get_escrow_mut s escrow_id
  reject_if (is_over escrow.status = true) .InvalidEscrowState
  let lock_until := saturating_add_u64 escrow.lock_until extra_secs
  return (lock_until, set_escrow escrow_id { escrow with lock_until } s)

def emergency_recover (env : Env) (admin : Address) (escrow_id : U64) (amount : I128) (s : EscrowStorage) :
    Call EscrowError EscrowStorage := do
  require_admin env admin s
  reject_if (paused s = false) .EmergencyNotEnabled
  let escrow ← get_escrow_mut s escrow_id
  reject_if (amount.toInt ≤ 0 ∨ (saturating_sub_i128 escrow.amount escrow.released_amount).toInt < amount.toInt)
    .InvalidAmount
  let released_amount := saturating_add_i128 escrow.released_amount amount
  let status := if (saturating_sub_i128 escrow.amount escrow.fee_total).toInt ≤ released_amount.toInt
    then .Released else escrow.status
  return set_escrow escrow_id { escrow with released_amount, status } s

def collect_fees (env : Env) (collector : Address) (amount : I128) (s : EscrowStorage) :
    Call EscrowError (I128 × EscrowStorage) := do
  require_auth env.auth collector
  let configured ← unwrap s.fee_collector
  reject_if (collector ≠ configured) .NotAuthorized
  reject_if (amount.toInt ≤ 0) .InvalidAmount
  let accrued := s.accrued_fees.getD 0
  reject_if (accrued.toInt < amount.toInt) .InvalidAmount
  return (amount, { s with accrued_fees := some (accrued - amount) })

/-! ## Calls -/

/-- A call of an entry point that can change the storage. -/
inductive EntryPoint where
  | initialize_escrow (admin fee_collector : Address) (fee_bps : U32) (approvers : List Address)
      (approval_threshold : U32)
  | set_lock_period (admin : Address) (bridge_id asset_type : SString) (lock_secs : U64)
  | set_fee_config (admin fee_collector : Address) (fee_bps : U32)
  | set_approvers (admin : Address) (approvers : List Address) (approval_threshold : U32)
  | set_emergency_pause (admin : Address) (paused : Bool)
  | create_escrow (depositor recipient : Address) (bridge_id asset_type : SString) (amount : I128)
      (metadata : SString) (verification_contract : Address) (verification_ref : SString)
  | sync_verification (verifier_contract : Address) (escrow_id : U64) (verified : Bool)
  | challenge_escrow (challenger : Address) (escrow_id : U64) (reason : SString)
  | resolve_challenge (approver : Address) (escrow_id : U64) (release_allowed : Bool)
  | release_escrow (caller : Address) (escrow_id : U64) (release_amount : I128)
  | batch_release (caller : Address) (escrow_ids : List U64) (release_amount : I128)
  | refund_escrow (caller : Address) (escrow_id : U64)
  | extend_lock (admin : Address) (escrow_id extra_secs : U64)
  | emergency_recover (admin : Address) (escrow_id : U64) (recipient : Address) (amount : I128)
  | collect_fees (collector : Address) (amount : I128)
  deriving DecidableEq

/-- What a call returns. -/
inductive Answer where
  | done
  | created (escrow_id : U64)
  | resolved (resolved : Bool)
  | amount (amount : I128)
  | amounts (amounts : List I128)
  | lock (lock_until : U64)
  deriving DecidableEq

/-- A call that returns nothing. -/
def silent (call : Call EscrowError EscrowStorage) : Call EscrowError (Answer × EscrowStorage) := do
  let s ← call
  return (.done, s)

/-- A call that returns something. -/
def answering {α : Type} (answer : α → Answer) (call : Call EscrowError (α × EscrowStorage)) :
    Call EscrowError (Answer × EscrowStorage) := do
  let (a, s) ← call
  return (answer a, s)

/-- What a call does. -/
def exec (env : Env) (s : EscrowStorage) : EntryPoint → Call EscrowError (Answer × EscrowStorage)
  | .initialize_escrow admin fee_collector fee_bps approvers approval_threshold =>
      silent (initialize_escrow env admin fee_collector fee_bps approvers approval_threshold s)
  | .set_lock_period admin bridge_id asset_type lock_secs =>
      silent (set_lock_period env admin bridge_id asset_type lock_secs s)
  | .set_fee_config admin fee_collector fee_bps => silent (set_fee_config env admin fee_collector fee_bps s)
  | .set_approvers admin approvers approval_threshold =>
      silent (set_approvers env admin approvers approval_threshold s)
  | .set_emergency_pause admin paused => silent (set_emergency_pause env admin paused s)
  | .create_escrow depositor recipient bridge_id asset_type amount metadata verification_contract
      verification_ref => answering .created (create_escrow env depositor recipient bridge_id asset_type amount
        metadata verification_contract verification_ref s)
  | .sync_verification verifier_contract escrow_id verified =>
      silent (sync_verification env verifier_contract escrow_id verified s)
  | .challenge_escrow challenger escrow_id reason => silent (challenge_escrow env challenger escrow_id reason s)
  | .resolve_challenge approver escrow_id release_allowed =>
      answering .resolved (resolve_challenge env approver escrow_id release_allowed s)
  | .release_escrow caller escrow_id release_amount =>
      answering .amount (release_escrow env caller escrow_id release_amount s)
  | .batch_release caller escrow_ids release_amount =>
      answering .amounts (batch_release env caller escrow_ids release_amount s)
  | .refund_escrow caller escrow_id => answering .amount (refund_escrow env caller escrow_id s)
  | .extend_lock admin escrow_id extra_secs => answering .lock (extend_lock env admin escrow_id extra_secs s)
  | .emergency_recover admin escrow_id _ amount => silent (emergency_recover env admin escrow_id amount s)
  | .collect_fees collector amount => answering .amount (collect_fees env collector amount s)

/-- The storage before the first call. -/
def empty_storage : EscrowStorage where
  admin := none
  fee_collector := none
  fee_bps := none
  escrow_seq := none
  escrow _ := none
  challenge _ := none
  dispute _ := none
  lock_period _ := none
  approvers := none
  approval_threshold := none
  emergency_pause := none
  accrued_fees := none

end BridgeWatch.Escrow

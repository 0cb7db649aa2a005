/-
The transfer state machine, `contracts/transfer_state_machine/src/lib.rs`.

A contract of its own, with its own storage: one record and one history for each transfer, and the
configuration. Every entry point that can change the storage is here, with the transition table and
the functions that they share; the read-only entry points and the events are left out.

At the end, `Effect` says once what a successful call can do to the record and the history of a
transfer. The properties of the contract are derived from it.
-/
import BridgeWatch.ContractState

set_option autoImplicit false

namespace BridgeWatch.TransferStateMachine

open Transaction
open Contract (U32 U64 I128 SString Address Env len str)

/-! ## Data -/

/-- The number of entries that a history holds. -/
def MAX_HISTORY_PER_TRANSFER : U32 := 48

inductive BridgeType where
  | LockMint
  | BurnRelease
  | NativeWrapped
  | Cctp
  | Custom
  deriving DecidableEq

inductive TransferMode where
  | Standard
  | FastTrack
  | Insured
  deriving DecidableEq

inductive TransferState where
  | Initiated
  | AwaitingSource
  | EscrowPending
  | EscrowLocked
  | VerificationPending
  | OraclePending
  | ReleasePending
  | Completed
  | Failed
  | RollingBack
  | RolledBack
  | TimedOut
  deriving DecidableEq

structure BridgeTransfer where
  id : U64
  initiator : Address
  bridge_type : BridgeType
  mode : TransferMode
  asset : SString
  amount : I128
  dest_hint : SString
  state : TransferState
  state_deadline : U64
  created_at : U64
  updated_at : U64
  verification_ok : Bool
  oracle_ok : Bool
  deriving DecidableEq

structure StateTransitionLog where
  from_state : TransferState
  to_state : TransferState
  timestamp : U64
  actor : Address
  note : SString
  deriving DecidableEq

inductive DataKey where
  | Admin
  | Initialized
  | TransferSeq
  | Transfer (id : U64)
  | History (id : U64)
  | Timeout (state : TransferState)
  | DefaultTimeoutSecs
  | EscrowContract
  | VerifierContract
  | OracleContract
  deriving DecidableEq

/-- The type of the record under a key. -/
@[reducible] def DataKey.Val : DataKey → Type
  | .Admin => Address
  | .Initialized => Bool
  | .TransferSeq => U64
  | .Transfer _ => BridgeTransfer
  | .History _ => List StateTransitionLog
  | .Timeout _ => U64
  | .DefaultTimeoutSecs => U64
  | .EscrowContract => Address
  | .VerifierContract => Address
  | .OracleContract => Address

/-- The contract's storage. -/
abbrev MachineStorage := Store DataKey DataKey.Val

/-- A call of a function of the contract. -/
abbrev Machine (α : Type) := Tx Env DataKey DataKey.Val α

/-! ## The host -/

/-- `env.storage().persistent().get(&key)`, and the same on instance storage. -/
abbrev get (key : DataKey) : Machine (Option key.Val) := load key

/-- `env.storage().persistent().set(&key, &value)`, and the same on instance storage. -/
abbrev set (key : DataKey) (value : key.Val) : Machine Unit := save key value

/-- `env.ledger().timestamp()`. -/
abbrev timestamp : Machine U64 := reads Env.timestamp

/-- `address.require_auth()`. -/
def require_auth (address : Address) : Machine Unit := do
  let authorized ← reads (Env.auth · address)
  panic_if (authorized = false) "Error(Auth, InvalidAction)"

/-- `option.unwrap()`. -/
abbrev unwrap {α : Type} (o : Option α) : Machine α :=
  expect o "called `Option::unwrap()` on a `None` value"

/-- `x + y` on `u64`. -/
def add_u64 (x y : U64) : Machine U64 := do
  panic_if (2 ^ 64 ≤ x.toNat + y.toNat) "attempt to add with overflow"
  return x + y

/-! ## The transition table -/

def is_terminal (s : TransferState) : Bool :=
  match s with
  | .Completed | .Failed | .RolledBack | .TimedOut => true
  | _ => false

def can_rollback_from (s : TransferState) : Bool :=
  match s with
  | .Initiated | .AwaitingSource | .EscrowPending | .EscrowLocked | .VerificationPending
  | .OraclePending | .ReleasePending => true
  | _ => false

def transition_allowed (t : BridgeTransfer) (from_state to_state : TransferState) : Bool :=
  if from_state = to_state then false
  else
    match from_state, to_state with
    -- Happy path
    | .Initiated, .AwaitingSource => true
    | .Initiated, .EscrowPending => t.mode = .FastTrack
    | .AwaitingSource, .EscrowPending => true
    | .EscrowPending, .EscrowLocked => true
    | .EscrowLocked, .VerificationPending => true
    | .VerificationPending, .OraclePending => t.verification_ok
    | .OraclePending, .ReleasePending => t.oracle_ok
    | .ReleasePending, .Completed => true
    -- Failure
    | .Initiated, .Failed => true
    | .AwaitingSource, .Failed => true
    | .EscrowPending, .Failed => true
    | .EscrowLocked, .Failed => true
    | .VerificationPending, .Failed => true
    | .OraclePending, .Failed => true
    | .ReleasePending, .Failed => true
    -- Timeout
    | .Initiated, .TimedOut => true
    | .AwaitingSource, .TimedOut => true
    | .EscrowPending, .TimedOut => true
    | .EscrowLocked, .TimedOut => true
    | .VerificationPending, .TimedOut => true
    | .OraclePending, .TimedOut => true
    | .ReleasePending, .TimedOut => true
    -- Rollback entry
    | .Initiated, .RollingBack => true
    | .AwaitingSource, .RollingBack => true
    | .EscrowPending, .RollingBack => true
    | .EscrowLocked, .RollingBack => true
    | .VerificationPending, .RollingBack => true
    | .OraclePending, .RollingBack => true
    | .ReleasePending, .RollingBack => true
    | .RollingBack, .RolledBack => true
    | _, _ => false

def admin_override_allowed (from_state to_state : TransferState) : Bool :=
  match from_state, to_state with
  | .TimedOut, .Failed => true
  | .TimedOut, .RolledBack => true
  | .TimedOut, .EscrowLocked => true
  | .TimedOut, .ReleasePending => true
  | .Failed, .RollingBack => true
  | .OraclePending, .ReleasePending => true
  | .VerificationPending, .OraclePending => true
  | _, _ => false

/-- The states that an override cannot leave. -/
def is_final (s : TransferState) : Bool :=
  match s with
  | .Completed | .Failed | .RolledBack => true
  | _ => false

/-! ## Internal functions -/

def seed_default_timeouts : Machine Unit := do
  set (.Timeout .Initiated) 3600
  set (.Timeout .AwaitingSource) 86400
  set (.Timeout .EscrowPending) 86400
  set (.Timeout .EscrowLocked) 172800
  set (.Timeout .VerificationPending) 43200
  set (.Timeout .OraclePending) 7200
  set (.Timeout .ReleasePending) 86400
  set (.Timeout .RollingBack) 86400
  set (.Timeout .Failed) 60

def timeout_secs_for (state : TransferState) : Machine U64 := do
  let secs ← get (.Timeout state)
  let default_secs ← get .DefaultTimeoutSecs
  return secs.getD (default_secs.getD 86400)

def is_admin (caller : Address) : Machine Bool := do
  let admin ← get .Admin
  let admin ← unwrap admin
  return caller = admin

def assert_admin (caller : Address) : Machine Unit := do
  require_auth caller
  let admin_ok ← is_admin caller
  panic_if (admin_ok = false) "admin only"

/-- The `match` of `assert_advance_auth`. -/
def advance_refusal (caller escrow : Address) (t : BridgeTransfer) (admin_ok initiator_ok : Bool)
    (from_state to_state : TransferState) : Option String :=
  match from_state, to_state with
  | .EscrowPending, .EscrowLocked =>
      if caller ≠ escrow ∧ admin_ok = false then some "escrow or admin only" else none
  | .VerificationPending, .OraclePending =>
      if t.verification_ok = false then some "verification not ok"
      else if initiator_ok = false ∧ admin_ok = false then some "initiator or admin"
      else none
  | .OraclePending, .ReleasePending =>
      if t.oracle_ok = false then some "oracle not ok"
      else if initiator_ok = false ∧ admin_ok = false then some "initiator or admin"
      else none
  | _, .Failed => if initiator_ok = false ∧ admin_ok = false then some "initiator or admin" else none
  | _, _ => if initiator_ok = false ∧ admin_ok = false then some "initiator or admin only" else none

def assert_advance_auth (caller : Address) (t : BridgeTransfer) (from_state to_state : TransferState) :
    Machine Unit := do
  let escrow ← get .EscrowContract
  let escrow ← unwrap escrow
  let admin_ok ← is_admin caller
  let initiator_ok : Bool := caller = t.initiator
  (advance_refusal caller escrow t admin_ok initiator_ok from_state to_state).elim (pure ())
    Transaction.panic

/-- The time by which `to_state` should advance; a terminal state keeps what was there. -/
def deadline_in (t : BridgeTransfer) (to_state : TransferState) (now : U64) : Machine U64 :=
  if is_terminal to_state then pure t.state_deadline
  else do
    let secs ← timeout_secs_for to_state
    add_u64 now secs

/-- The record that `apply_transition` leaves in `t` is its result. -/
def apply_transition (t : BridgeTransfer) (actor : Address) (from_state to_state : TransferState)
    (note : SString) : Machine BridgeTransfer := do
  let now ← timestamp
  let state_deadline ← deadline_in t to_state now
  let t := { t with state := to_state, updated_at := now, state_deadline }
  set (.Transfer t.id) t
  let hist ← get (.History t.id)
  let hist := hist.getD []
  panic_if (len hist ≥ MAX_HISTORY_PER_TRANSFER) "history overflow"
  set (.History t.id) (hist ++ [{ from_state, to_state, timestamp := now, actor, note }])
  return t

/-- `env.storage().persistent().get(&DataKey::Transfer(transfer_id)).expect("unknown transfer")`. -/
def known_transfer (transfer_id : U64) : Machine BridgeTransfer := do
  let t ← get (.Transfer transfer_id)
  expect t "unknown transfer"

/-! ## Entry points -/

/-- `initialize`. -/
def initialize_machine (admin : Address) : Machine Unit := do
  let initialized ← get .Initialized
  panic_if (initialized.isSome) "already initialized"
  require_auth admin
  set .Admin admin
  set .Initialized true
  set .TransferSeq 0
  set .DefaultTimeoutSecs 86400
  seed_default_timeouts
  set .EscrowContract admin
  set .VerifierContract admin
  set .OracleContract admin

def set_integration_contracts (caller escrow verifier oracle : Address) : Machine Unit := do
  assert_admin caller
  set .EscrowContract escrow
  set .VerifierContract verifier
  set .OracleContract oracle

def set_default_timeout (caller : Address) (secs : U64) : Machine Unit := do
  assert_admin caller
  panic_if (secs = 0) "timeout must be positive"
  set .DefaultTimeoutSecs secs

def set_state_timeout (caller : Address) (state : TransferState) (secs : U64) : Machine Unit := do
  assert_admin caller
  panic_if (secs = 0) "timeout must be positive"
  set (.Timeout state) secs

def initiate_transfer (initiator : Address) (bridge_type : BridgeType) (mode : TransferMode)
    (asset : SString) (amount : I128) (dest_hint : SString) : Machine U64 := do
  require_auth initiator
  panic_if (amount.toInt ≤ 0) "amount must be positive"
  let seq ← get .TransferSeq
  let seq ← expect seq "not initialized"
  let id ← add_u64 seq 1
  set .TransferSeq id
  let now ← timestamp
  let secs ← timeout_secs_for .Initiated
  let deadline ← add_u64 now secs
  set (.Transfer id)
    { id, initiator, bridge_type, mode, asset, amount, dest_hint, state := .Initiated,
      state_deadline := deadline, created_at := now, updated_at := now, verification_ok := false,
      oracle_ok := false }
  set (.History id) []
  return id

def advance_state (caller : Address) (transfer_id : U64) (next : TransferState) : Machine Unit := do
  require_auth caller
  let t ← known_transfer transfer_id
  panic_if (transition_allowed t t.state next = false) "invalid transition"
  assert_advance_auth caller t t.state next
  let _ ← apply_transition t caller t.state next (str "")

def handle_timeout (transfer_id : U64) : Machine Unit := do
  let t ← known_transfer transfer_id
  if is_terminal t.state then pure ()
  else do
    let now ← timestamp
    panic_if (now ≤ t.state_deadline) "timeout not reached"
    panic_if (transition_allowed t t.state .TimedOut = false) "cannot timeout from this state"
    let _ ← apply_transition t t.initiator t.state .TimedOut (str "timeout")

/-- The storage is asked for the admin only when the caller is not the initiator. -/
def may_rollback (caller : Address) (t : BridgeTransfer) : Machine Bool :=
  if caller = t.initiator then pure true else is_admin caller

def rollback_transfer (caller : Address) (transfer_id : U64) (reason : SString) : Machine Unit := do
  require_auth caller
  let t ← known_transfer transfer_id
  let authorized ← may_rollback caller t
  panic_if (authorized = false) "unauthorized rollback"
  panic_if (is_terminal t.state) "cannot rollback terminal transfer"
  panic_if (can_rollback_from t.state = false) "rollback not allowed from this state"
  let t ← apply_transition t caller t.state .RollingBack reason
  let _ ← apply_transition t caller t.state .RolledBack reason

def admin_override_state (admin : Address) (transfer_id : U64) (next : TransferState)
    (note : SString) : Machine Unit := do
  assert_admin admin
  let t ← known_transfer transfer_id
  panic_if (is_final t.state) "cannot override terminal state"
  panic_if (admin_override_allowed t.state next = false) "override transition not permitted"
  let _ ← apply_transition t admin t.state next note

def submit_verification_result (caller : Address) (transfer_id : U64) (ok : Bool) : Machine Unit := do
  require_auth caller
  let verifier ← get .VerifierContract
  let verifier ← expect verifier "not initialized"
  panic_if (caller ≠ verifier) "only verifier contract"
  let t ← known_transfer transfer_id
  panic_if (t.state ≠ .VerificationPending) "wrong state for verification"
  let now ← timestamp
  set (.Transfer transfer_id) { t with verification_ok := ok, updated_at := now }

def submit_oracle_result (caller : Address) (transfer_id : U64) (ok : Bool) : Machine Unit := do
  require_auth caller
  let oracle ← get .OracleContract
  let oracle ← expect oracle "not initialized"
  panic_if (caller ≠ oracle) "only oracle contract"
  let t ← known_transfer transfer_id
  panic_if (t.state ≠ .OraclePending) "wrong state for oracle"
  let now ← timestamp
  set (.Transfer transfer_id) { t with oracle_ok := ok, updated_at := now }

/-- Where `try_auto_progress` would take a transfer. -/
def maybe_next (t : BridgeTransfer) : Option TransferState :=
  match t.state with
  | .VerificationPending => if t.verification_ok then some .OraclePending else none
  | .OraclePending => if t.oracle_ok then some .ReleasePending else none
  | _ => none

def try_auto_progress (transfer_id : U64) : Machine Unit := do
  let t ← known_transfer transfer_id
  if is_terminal t.state then pure ()
  else
    (maybe_next t).elim (pure ()) fun next =>
      exec_if (transition_allowed t t.state next = true) do
        let _ ← apply_transition t t.initiator t.state next (str "auto")

/-! ## Runs -/

/-- A call of an entry point that can change the storage. -/
inductive EntryPoint where
  | initialize_machine (admin : Address)
  | set_integration_contracts (caller escrow verifier oracle : Address)
  | set_default_timeout (caller : Address) (secs : U64)
  | set_state_timeout (caller : Address) (state : TransferState) (secs : U64)
  | initiate_transfer (initiator : Address) (bridge_type : BridgeType) (mode : TransferMode)
      (asset : SString) (amount : I128) (dest_hint : SString)
  | advance_state (caller : Address) (transfer_id : U64) (next : TransferState)
  | handle_timeout (transfer_id : U64)
  | rollback_transfer (caller : Address) (transfer_id : U64) (reason : SString)
  | admin_override_state (admin : Address) (transfer_id : U64) (next : TransferState) (note : SString)
  | submit_verification_result (caller : Address) (transfer_id : U64) (ok : Bool)
  | submit_oracle_result (caller : Address) (transfer_id : U64) (ok : Bool)
  | try_auto_progress (transfer_id : U64)
  deriving DecidableEq

/-- What a call does. -/
def exec : EntryPoint → Machine Unit
  | .initialize_machine admin => initialize_machine admin
  | .set_integration_contracts caller escrow verifier oracle =>
      set_integration_contracts caller escrow verifier oracle
  | .set_default_timeout caller secs => set_default_timeout caller secs
  | .set_state_timeout caller state secs => set_state_timeout caller state secs
  | .initiate_transfer initiator bridge_type mode asset amount dest_hint => do
      let _ ← initiate_transfer initiator bridge_type mode asset amount dest_hint
  | .advance_state caller transfer_id next => advance_state caller transfer_id next
  | .handle_timeout transfer_id => handle_timeout transfer_id
  | .rollback_transfer caller transfer_id reason => rollback_transfer caller transfer_id reason
  | .admin_override_state admin transfer_id next note => admin_override_state admin transfer_id next note
  | .submit_verification_result caller transfer_id ok => submit_verification_result caller transfer_id ok
  | .submit_oracle_result caller transfer_id ok => submit_oracle_result caller transfer_id ok
  | .try_auto_progress transfer_id => try_auto_progress transfer_id

/-- The storage before the first call. -/
def empty_storage : MachineStorage := fun _ => none

/-- The storage after some calls. -/
abbrev run (s : MachineStorage) (calls : List (Env × EntryPoint)) : MachineStorage :=
  runFrom exec s calls

/-! ## Concrete runs -/

/-- A time at which every address has authorised its call. -/
def signed_at (timestamp : U64) : Env := { timestamp, auth := fun _ => true }

/-- An address for a concrete run. -/
def party (n : UInt8) : Address := .account (Vector.replicate 32 n)

/-- The contract is set up by party 0, with the parties 1, 2 and 3 for escrow, verifier and oracle,
and party 9 initiates a transfer at time 1000. -/
def opening : List (Env × EntryPoint) :=
  [(signed_at 0, .initialize_machine (party 0)),
    (signed_at 0, .set_integration_contracts (party 0) (party 1) (party 2) (party 3)),
    (signed_at 1000, .initiate_transfer (party 9) .Cctp .Standard (str "USDC") 1000 (str "eth:0xabc"))]

/-- The transfer of `opening`. -/
def opened : BridgeTransfer :=
  { id := 1, initiator := party 9, bridge_type := .Cctp, mode := .Standard, asset := str "USDC",
    amount := 1000, dest_hint := str "eth:0xabc", state := .Initiated, state_deadline := 4600,
    created_at := 1000, updated_at := 1000, verification_ok := false, oracle_ok := false }

example : run empty_storage opening (.Transfer 1) = some opened := by decide +kernel

/-! ## What the internal functions do -/

section Inversion

variable {env : Env} {s s' : MachineStorage} {t t' : BridgeTransfer} {caller actor : Address}
variable {from_state to_state : TransferState}

@[simp] theorem add_u64_eq_ok {x y z : U64} :
    add_u64 x y env s = .ok (z, s') ↔ x.toNat + y.toNat < 2 ^ 64 ∧ z = x + y ∧ s' = s := by
  simp only [add_u64, bind_eq_ok, panic_if_eq_ok, pure_eq_ok, not_le, and_assoc, exists_and_left,
    exists_eq_left, exists_const]

@[simp] theorem timeout_secs_for_eq_ok {state : TransferState} {secs : U64} :
    timeout_secs_for state env s = .ok (secs, s') ↔
      secs = (s (.Timeout state)).getD ((s .DefaultTimeoutSecs).getD 86400) ∧ s' = s := by
  simp only [timeout_secs_for, bind_eq_ok, load_eq_ok, pure_eq_ok, and_assoc, exists_and_left,
    exists_eq_left]

@[simp] theorem is_admin_eq_ok {b : Bool} :
    is_admin caller env s = .ok (b, s') ↔
      ∃ admin, s .Admin = some admin ∧ b = decide (caller = admin) ∧ s' = s := by
  simp only [is_admin, bind_eq_ok, load_eq_ok, expect_eq_ok, pure_eq_ok, and_assoc, exists_and_left,
    exists_eq_left]

@[simp] theorem require_auth_eq_ok {u : Unit} :
    require_auth caller env s = .ok (u, s') ↔ env.auth caller = true ∧ s' = s := by
  simp only [require_auth, bind_eq_ok, reads_eq_ok, panic_if_eq_ok, Bool.not_eq_false, and_assoc,
    exists_and_left, exists_eq_left]

@[simp] theorem assert_admin_eq_ok {u : Unit} :
    assert_admin caller env s = .ok (u, s') ↔
      env.auth caller = true ∧ s .Admin = some caller ∧ s' = s := by
  simp only [assert_admin, bind_eq_ok, require_auth_eq_ok, is_admin_eq_ok, panic_if_eq_ok, and_assoc,
    exists_and_left, exists_eq_left, exists_const]
  constructor
  · rintro ⟨hauth, _, _, ⟨admin, hadmin, rfl, rfl⟩, hcaller, rfl⟩
    rw [decide_eq_false_iff_not, not_not] at hcaller
    rw [hcaller]
    exact ⟨hcaller ▸ hauth, hadmin, rfl⟩
  · rintro ⟨hauth, hadmin, rfl⟩
    exact ⟨hauth, _, _, ⟨caller, hadmin, rfl, rfl⟩, by simp, rfl⟩

@[simp] theorem known_transfer_eq_ok {id : U64} :
    known_transfer id env s = .ok (t, s') ↔ s (.Transfer id) = some t ∧ s' = s := by
  simp only [known_transfer, bind_eq_ok, load_eq_ok, expect_eq_ok, and_assoc, exists_and_left,
    exists_eq_left]

/-- The deadline is read from the storage, which stays as it is. -/
theorem deadline_in_eq_ok {now deadline : U64} (h : deadline_in t to_state now env s = .ok (deadline, s')) :
    s' = s := by
  unfold deadline_in at h
  by_cases hterminal : is_terminal to_state = true
  · rw [if_pos hterminal, pure_eq_ok] at h
    exact h.2
  · rw [if_neg hterminal] at h
    simp only [bind_eq_ok, timeout_secs_for_eq_ok, add_u64_eq_ok] at h
    obtain ⟨_, _, ⟨-, rfl⟩, -, -, rfl⟩ := h
    rfl

/-- Nothing is added for a terminal state. -/
theorem deadline_in_terminal (h : is_terminal to_state = true) (now : U64) :
    deadline_in t to_state now = pure t.state_deadline := if_pos h

/-- The check that every edge has in common. -/
theorem initiator_or_admin {admin escrow : Address} {edge : Prop}
    (h : ¬(decide (caller = t.initiator) = false ∧ decide (caller = admin) = false)) :
    caller = t.initiator ∨ caller = admin ∨ (edge ∧ caller = escrow) := by
  rw [decide_eq_false_iff_not, decide_eq_false_iff_not] at h
  by_cases hinitiator : caller = t.initiator
  · exact .inl hinitiator
  · exact .inr (.inl (not_not.mp fun hne => h ⟨hinitiator, hne⟩))

/-- A caller that is not refused is the initiator or the admin, or the escrow contract that locks. -/
theorem advance_refusal_eq_none {escrow admin : Address}
    (h : advance_refusal caller escrow t (decide (caller = admin)) (decide (caller = t.initiator))
      from_state to_state = none) :
    caller = t.initiator ∨ caller = admin ∨
      ((from_state = .EscrowPending ∧ to_state = .EscrowLocked) ∧ caller = escrow) := by
  unfold advance_refusal at h
  split at h
  · rw [ite_eq_right_iff] at h
    by_cases hcaller : caller = escrow
    · exact .inr (.inr ⟨⟨rfl, rfl⟩, hcaller⟩)
    · by_cases hadmin : caller = admin
      · exact .inr (.inl hadmin)
      · exact absurd (h ⟨hcaller, decide_eq_false hadmin⟩) (by simp)
  -- Every other edge refuses a caller that is neither.
  all_goals
    apply initiator_or_admin
    intro hneither
    simp only [hneither, and_self, if_true] at h
    first
    | cases h
    | split at h <;> cases h

theorem assert_advance_auth_eq_ok {u : Unit} :
    assert_advance_auth caller t from_state to_state env s = .ok (u, s') ↔
      ∃ escrow admin, s .EscrowContract = some escrow ∧ s .Admin = some admin ∧
        advance_refusal caller escrow t (decide (caller = admin)) (decide (caller = t.initiator))
          from_state to_state = none ∧ s' = s := by
  simp only [assert_advance_auth, bind_eq_ok, load_eq_ok, expect_eq_ok, is_admin_eq_ok, elim_eq_ok,
    pure_eq_ok, panic_eq_ok, and_assoc, exists_and_left, exists_eq_left, and_false, exists_false,
    or_false, true_and]
  constructor
  · rintro ⟨escrow, hescrow, _, s₁, ⟨admin, hadmin, rfl, rfl⟩, hnone, rfl⟩
    exact ⟨escrow, hescrow, admin, hadmin, hnone, rfl⟩
  · rintro ⟨escrow, hescrow, admin, hadmin, hnone, rfl⟩
    exact ⟨escrow, hescrow, _, _, ⟨admin, hadmin, rfl, rfl⟩, hnone, rfl⟩

/-- What `apply_transition` makes of the record and the history of a transfer. -/
structure Moved (env : Env) (actor : Address) (note : SString) (next : TransferState)
    (t : BridgeTransfer) (hist : List StateTransitionLog) (t' : BridgeTransfer)
    (hist' : List StateTransitionLog) : Prop where
  record : ∃ state_deadline, t' = { t with state := next, updated_at := env.timestamp, state_deadline }
  room : len hist < MAX_HISTORY_PER_TRANSFER
  history : hist' = hist ++ [⟨t.state, next, env.timestamp, actor, note⟩]

/-- The storage with another record and history for one transfer. -/
def put (s : MachineStorage) (id : U64) (t : BridgeTransfer) (hist : List StateTransitionLog) :
    MachineStorage :=
  Function.update (Function.update s (.Transfer id) (some t)) (.History id) (some hist)

theorem apply_transition_eq_ok {note : SString}
    (h : apply_transition t actor t.state to_state note env s = .ok (t', s')) :
    ∃ hist', Moved env actor note to_state t ((s (.History t.id)).getD []) t' hist' ∧
      s' = put s t.id t' hist' := by
  simp only [apply_transition, bind_eq_ok, reads_eq_ok, load_eq_ok, save_eq_ok, panic_if_eq_ok,
    pure_eq_ok, and_assoc, exists_and_left, exists_eq_left, exists_const] at h
  obtain ⟨deadline, s₁, hdeadline, hroom, rfl, rfl⟩ := h
  obtain rfl : s₁ = s := deadline_in_eq_ok hdeadline
  rw [Function.update_of_ne (by simp)] at hroom
  refine ⟨_, ⟨⟨deadline, rfl⟩, UInt32.not_le.mp hroom, rfl⟩, ?_⟩
  rw [Function.update_of_ne (by simp)]
  rfl

end Inversion

section Put

variable {s : MachineStorage} {id id' : U64} {t t' : BridgeTransfer} {hist hist' : List StateTransitionLog}

@[simp] theorem put_transfer : put s id t hist (.Transfer id) = some t := by
  rw [put, Function.update_of_ne (by simp), Function.update_self]

@[simp] theorem put_history : put s id t hist (.History id) = some hist := by
  rw [put, Function.update_self]

theorem put_transfer_of_ne (h : id' ≠ id) : put s id t hist (.Transfer id') = s (.Transfer id') := by
  rw [put, Function.update_of_ne (by simp), Function.update_of_ne (by simpa using h)]

theorem put_history_of_ne (h : id' ≠ id) : put s id t hist (.History id') = s (.History id') := by
  rw [put, Function.update_of_ne (by simpa using h), Function.update_of_ne (by simp)]

/-- The other keys keep their records. -/
theorem put_of_ne {key : DataKey} (htransfer : key ≠ .Transfer id) (hhistory : key ≠ .History id) :
    put s id t hist key = s key := by
  rw [put, Function.update_of_ne hhistory, Function.update_of_ne htransfer]

theorem put_put : put (put s id t hist) id t' hist' = put s id t' hist' := by
  funext key
  by_cases htransfer : key = .Transfer id
  · subst htransfer
    rw [put_transfer, put_transfer]
  · by_cases hhistory : key = .History id
    · subst hhistory
      rw [put_history, put_history]
    · rw [put_of_ne htransfer hhistory, put_of_ne htransfer hhistory, put_of_ne htransfer hhistory]

/-- A new record beside the history that is there. -/
theorem update_transfer_eq_put (h : s (.History id) = some hist) :
    Function.update s (.Transfer id) (some t) = put s id t hist := by
  funext key
  by_cases hhistory : key = .History id
  · subst hhistory
    rw [put_history, Function.update_of_ne (by simp), h]
  · rw [put, Function.update_of_ne hhistory]

end Put

/-! ## What a call does -/

/-- What the storage says of the transfers on the whole. -/
structure Registered (s : MachineStorage) : Prop where
  unstarted : s .Initialized = none → s .TransferSeq = none
  wired : s .TransferSeq ≠ none → s .Admin ≠ none ∧ s .EscrowContract ≠ none
  fresh : ∀ id, (∀ seq, s .TransferSeq = some seq → seq < id) → s (.Transfer id) = none
  id_eq : ∀ id t, s (.Transfer id) = some t → t.id = id
  history : ∀ id t, s (.Transfer id) = some t → ∃ hist, s (.History id) = some hist

/-- What a successful call can do to the record and the history of one transfer. -/
inductive Effect (env : Env) (s : MachineStorage) (t : BridgeTransfer)
    (hist : List StateTransitionLog) : EntryPoint → BridgeTransfer → List StateTransitionLog → Prop
  | nothing {call : EntryPoint} : Effect env s t hist call t hist
  | advance {caller escrow admin : Address} {next : TransferState} {t' : BridgeTransfer}
      {hist' : List StateTransitionLog} (hauth : env.auth caller = true)
      (hallowed : transition_allowed t t.state next = true)
      (hescrow : s .EscrowContract = some escrow) (hadmin : s .Admin = some admin)
      (hcaller : advance_refusal caller escrow t (decide (caller = admin))
        (decide (caller = t.initiator)) t.state next = none)
      (hmoved : Moved env caller (str "") next t hist t' hist') :
      Effect env s t hist (.advance_state caller t.id next) t' hist'
  | timeout {t' : BridgeTransfer} {hist' : List StateTransitionLog}
      (hlate : t.state_deadline < env.timestamp)
      (hallowed : transition_allowed t t.state .TimedOut = true)
      (hmoved : Moved env t.initiator (str "timeout") .TimedOut t hist t' hist') :
      Effect env s t hist (.handle_timeout t.id) t' hist'
  | rollback {caller : Address} {reason : SString} {t₁ t' : BridgeTransfer}
      {hist₁ hist' : List StateTransitionLog} (hallowed : can_rollback_from t.state = true)
      (hmoved : Moved env caller reason .RollingBack t hist t₁ hist₁)
      (hmoved' : Moved env caller reason .RolledBack t₁ hist₁ t' hist') :
      Effect env s t hist (.rollback_transfer caller t.id reason) t' hist'
  | override {admin : Address} {next : TransferState} {note : SString} {t' : BridgeTransfer}
      {hist' : List StateTransitionLog} (hauth : env.auth admin = true)
      (hadmin : s .Admin = some admin) (hfinal : is_final t.state = false)
      (hallowed : admin_override_allowed t.state next = true)
      (hmoved : Moved env admin note next t hist t' hist') :
      Effect env s t hist (.admin_override_state admin t.id next note) t' hist'
  | verification {verifier : Address} {ok : Bool} (hauth : env.auth verifier = true)
      (hverifier : s .VerifierContract = some verifier) (hstate : t.state = .VerificationPending) :
      Effect env s t hist (.submit_verification_result verifier t.id ok)
        { t with verification_ok := ok, updated_at := env.timestamp } hist
  | oracle {oracle : Address} {ok : Bool} (hauth : env.auth oracle = true)
      (horacle : s .OracleContract = some oracle) (hstate : t.state = .OraclePending) :
      Effect env s t hist (.submit_oracle_result oracle t.id ok)
        { t with oracle_ok := ok, updated_at := env.timestamp } hist
  | auto {next : TransferState} {t' : BridgeTransfer} {hist' : List StateTransitionLog}
      (hnext : maybe_next t = some next) (hallowed : transition_allowed t t.state next = true)
      (hmoved : Moved env t.initiator (str "auto") next t hist t' hist') :
      Effect env s t hist (.try_auto_progress t.id) t' hist'

/-- What a successful call can do to the storage. -/
inductive Outcome (env : Env) (s : MachineStorage) : EntryPoint → MachineStorage → Prop
  | configured {call : EntryPoint} {s' : MachineStorage}
      (htransfers : ∀ id, s' (.Transfer id) = s (.Transfer id))
      (hhistories : ∀ id, s' (.History id) = s (.History id)) : Outcome env s call s'
  | created {call : EntryPoint} {t : BridgeTransfer} (hnew : s (.Transfer t.id) = none)
      (hstate : t.state = .Initiated) (hverification : t.verification_ok = false)
      (horacle : t.oracle_ok = false) :
      Outcome env s call (put (Function.update s .TransferSeq (some t.id)) t.id t [])
  | moved {call : EntryPoint} {t t' : BridgeTransfer} {hist hist' : List StateTransitionLog}
      (ht : s (.Transfer t.id) = some t) (hhist : s (.History t.id) = some hist)
      (heffect : Effect env s t hist call t' hist') : Outcome env s call (put s t.id t' hist')

section Outcomes

variable {env : Env} {s s' : MachineStorage} {t : BridgeTransfer} {id : U64}

theorem Registered.empty : Registered empty_storage where
  unstarted _ := rfl
  wired h := absurd rfl h
  fresh _ _ := rfl
  id_eq _ _ h := by cases h
  history _ _ h := by cases h

/-- A call that leaves the transfers alone. -/
theorem Registered.configured (h : Registered s)
    (htransfers : ∀ id, s' (.Transfer id) = s (.Transfer id))
    (hhistories : ∀ id, s' (.History id) = s (.History id)) (hseq : s' .TransferSeq = s .TransferSeq)
    (hinitialized : s' .Initialized = s .Initialized) (hadmin : s' .Admin = s .Admin)
    (hescrow : s .EscrowContract ≠ none → s' .EscrowContract ≠ none) : Registered s' where
  unstarted hnone := by
    rw [hseq]
    exact h.unstarted (hinitialized ▸ hnone)
  wired hsome := by
    rw [hadmin]
    obtain ⟨hadmin, hset⟩ := h.wired (hseq ▸ hsome)
    exact ⟨hadmin, hescrow hset⟩
  fresh id hid := by
    rw [htransfers]
    exact h.fresh id fun seq => by rw [← hseq]; exact hid seq
  id_eq id t ht := h.id_eq id t (htransfers id ▸ ht)
  history id t ht := by
    rw [hhistories]
    exact h.history id t (htransfers id ▸ ht)

/-- A transfer that was there gets another record and another history. -/
theorem Registered.put (h : Registered s) {t' : BridgeTransfer} {hist : List StateTransitionLog}
    (ht : s (.Transfer id) = some t) (hid : t'.id = id) : Registered (put s id t' hist) where
  unstarted hnone := by
    rw [put_of_ne (by simp) (by simp)] at hnone ⊢
    exact h.unstarted hnone
  wired hsome := by
    rw [put_of_ne (by simp) (by simp)] at hsome ⊢
    rw [put_of_ne (by simp) (by simp)]
    exact h.wired hsome
  fresh id' hid' := by
    rw [put_of_ne (by simp) (by simp)] at hid'
    by_cases heq : id' = id
    · rw [heq] at hid'
      rw [h.fresh id hid'] at ht
      cases ht
    · rw [put_transfer_of_ne heq]
      exact h.fresh id' hid'
  id_eq id' t'' ht'' := by
    by_cases heq : id' = id
    · rw [heq, put_transfer, Option.some.injEq] at ht''
      rw [← ht'', hid, heq]
    · rw [put_transfer_of_ne heq] at ht''
      exact h.id_eq id' t'' ht''
  history id' t'' ht'' := by
    by_cases heq : id' = id
    · rw [heq]
      exact ⟨hist, put_history⟩
    · rw [put_transfer_of_ne heq] at ht''
      rw [put_history_of_ne heq]
      exact h.history id' t'' ht''

/-- A transfer is created under the next number. -/
theorem Registered.created (h : Registered s) {seq : U64} (hseq : s .TransferSeq = some seq)
    (hid : t.id.toNat = seq.toNat + 1) :
    s (.Transfer t.id) = none ∧
      Registered (TransferStateMachine.put (Function.update s .TransferSeq (some t.id)) t.id t []) := by
  have hlt : seq < t.id := by
    rw [UInt64.lt_iff_toNat_lt]
    omega
  have hnew : s (.Transfer t.id) = none := by
    apply h.fresh
    intro seq' hseq'
    rw [hseq, Option.some.injEq] at hseq'
    rwa [← hseq']
  refine ⟨hnew, ?_, ?_, ?_, ?_, ?_⟩
  · intro hnone
    rw [put_of_ne (by simp) (by simp), Function.update_of_ne (by simp)] at hnone
    rw [h.unstarted hnone] at hseq
    cases hseq
  · intro _
    rw [put_of_ne (by simp) (by simp), put_of_ne (by simp) (by simp), Function.update_of_ne (by simp),
      Function.update_of_ne (by simp)]
    apply h.wired
    rw [hseq]
    simp
  · intro id hid'
    have hgt : t.id < id := hid' t.id (by rw [put_of_ne (by simp) (by simp), Function.update_self])
    rw [UInt64.lt_iff_toNat_lt] at hgt
    have hne : id ≠ t.id := by
      rintro rfl
      exact lt_irrefl _ hgt
    rw [put_transfer_of_ne hne, Function.update_of_ne (by simp)]
    apply h.fresh
    intro seq' hseq'
    rw [hseq, Option.some.injEq] at hseq'
    rw [← hseq', UInt64.lt_iff_toNat_lt]
    omega
  · intro id t' ht'
    by_cases heq : id = t.id
    · rw [heq, put_transfer, Option.some.injEq] at ht'
      rw [← ht', heq]
    · rw [put_transfer_of_ne heq, Function.update_of_ne (by simp)] at ht'
      exact h.id_eq id t' ht'
  · intro id t' ht'
    by_cases heq : id = t.id
    · rw [heq]
      exact ⟨[], put_history⟩
    · rw [put_transfer_of_ne heq, Function.update_of_ne (by simp)] at ht'
      rw [put_history_of_ne heq, Function.update_of_ne (by simp)]
      exact h.history id t' ht'

/-- A transition of a transfer that the storage knows. -/
theorem Registered.apply_transition_eq_ok (h : Registered s) {actor : Address} {next : TransferState}
    {note : SString} {t' : BridgeTransfer} {hist : List StateTransitionLog}
    (hhist : s (.History t.id) = some hist)
    (hok : apply_transition t actor t.state next note env s = .ok (t', s')) :
    ∃ hist', Moved env actor note next t hist t' hist' ∧ s' = TransferStateMachine.put s t.id t' hist' := by
  obtain ⟨hist', hmoved, rfl⟩ := TransferStateMachine.apply_transition_eq_ok hok
  rw [hhist, Option.getD_some] at hmoved
  exact ⟨hist', hmoved, rfl⟩

section Moves

variable {actor : Address} {note : SString} {next : TransferState} {t' : BridgeTransfer}
variable {hist hist' : List StateTransitionLog}

theorem Moved.id_eq (h : Moved env actor note next t hist t' hist') : t'.id = t.id := by
  obtain ⟨_, rfl⟩ := h.record
  rfl

theorem Moved.state_eq (h : Moved env actor note next t hist t' hist') : t'.state = next := by
  obtain ⟨_, rfl⟩ := h.record
  rfl

theorem Moved.mode_eq (h : Moved env actor note next t hist t' hist') : t'.mode = t.mode := by
  obtain ⟨_, rfl⟩ := h.record
  rfl

/-- A transition leaves the flags as they are. -/
theorem Moved.flags_eq (h : Moved env actor note next t hist t' hist') :
    t'.verification_ok = t.verification_ok ∧ t'.oracle_ok = t.oracle_ok := by
  obtain ⟨_, rfl⟩ := h.record
  exact ⟨rfl, rfl⟩

end Moves

theorem Effect.id_eq {call : EntryPoint} {t' : BridgeTransfer} {hist hist' : List StateTransitionLog}
    (h : Effect env s t hist call t' hist') : t'.id = t.id := by
  cases h with
  | nothing => rfl
  | advance _ _ _ _ _ hmoved | timeout _ _ hmoved | override _ _ _ _ hmoved | auto _ _ hmoved => exact hmoved.id_eq
  | rollback _ hmoved hmoved' => exact hmoved'.id_eq.trans hmoved.id_eq
  | verification => rfl
  | oracle => rfl

/-- What a call does to the one transfer that it is about. -/
theorem Registered.moved (h : Registered s) {call : EntryPoint} {t' : BridgeTransfer}
    {hist hist' : List StateTransitionLog} (ht : s (.Transfer id) = some t)
    (hhist : s (.History t.id) = some hist) (heffect : Effect env s t hist call t' hist') :
    Outcome env s call (TransferStateMachine.put s t.id t' hist') ∧
      Registered (TransferStateMachine.put s t.id t' hist') := by
  rw [← h.id_eq id t ht] at ht
  exact ⟨.moved ht hhist heffect, h.put ht heffect.id_eq⟩

theorem outcome_of_initialize (h : Registered s) {admin : Address}
    (hok : initialize_machine admin env s = .ok ((), s')) :
    Outcome env s (.initialize_machine admin) s' ∧ Registered s' := by
  simp only [initialize_machine, seed_default_timeouts, bind_eq_ok, load_eq_ok, panic_if_eq_ok,
    require_auth_eq_ok, save_eq_ok, and_assoc, exists_and_left, exists_eq_left, exists_const] at hok
  obtain ⟨hnone, -, rfl⟩ := hok
  have hseq := h.unstarted (Option.not_isSome_iff_eq_none.mp hnone)
  refine ⟨.configured (fun id => by simp) fun id => by simp, ?_, ?_, ?_, ?_, ?_⟩
  · intro hinitialized
    simp at hinitialized
  · intro _
    simp
  · intro id _
    simp only [ne_eq, reduceCtorEq, not_false_eq_true, Function.update_of_ne]
    apply h.fresh
    intro seq hsome
    rw [hseq] at hsome
    cases hsome
  · intro id t ht
    simp only [ne_eq, reduceCtorEq, not_false_eq_true, Function.update_of_ne] at ht
    exact h.id_eq id t ht
  · intro id t ht
    simp only [ne_eq, reduceCtorEq, not_false_eq_true, Function.update_of_ne] at ht ⊢
    exact h.history id t ht

theorem outcome_of_initiate (h : Registered s) {initiator : Address} {bridge_type : BridgeType}
    {mode : TransferMode} {asset dest_hint : SString} {amount : I128} {id : U64} {call : EntryPoint}
    (hok : initiate_transfer initiator bridge_type mode asset amount dest_hint env s = .ok (id, s')) :
    Outcome env s call s' ∧ Registered s' := by
  simp only [initiate_transfer, bind_eq_ok, load_eq_ok, expect_eq_ok, panic_if_eq_ok,
    require_auth_eq_ok, add_u64_eq_ok, reads_eq_ok, timeout_secs_for_eq_ok, save_eq_ok, pure_eq_ok,
    and_assoc, exists_and_left, exists_eq_left, exists_const] at hok
  obtain ⟨-, -, seq, hseq, hbound, -, rfl, rfl⟩ := hok
  rw [UInt64.toNat_one] at hbound
  have hid : (seq + 1).toNat = seq.toNat + 1 := by
    rw [UInt64.toNat_add, UInt64.toNat_one, Nat.mod_eq_of_lt hbound]
  generalize hdeadline : env.timestamp +
    (Function.update s DataKey.TransferSeq (some (seq + 1)) (.Timeout .Initiated)).getD _ = deadline
  let t : BridgeTransfer :=
    { id := seq + 1, initiator, bridge_type, mode, asset, amount, dest_hint, state := .Initiated,
      state_deadline := deadline, created_at := env.timestamp, updated_at := env.timestamp,
      verification_ok := false, oracle_ok := false }
  obtain ⟨hnew, hregistered⟩ := h.created (t := t) hseq hid
  exact ⟨.created (t := t) hnew rfl rfl rfl, hregistered⟩

/-- **What a successful call does**, wherever the storage is that of a contract. -/
theorem outcome_of_exec (h : Registered s) {call : EntryPoint} (hok : exec call env s = .ok ((), s')) :
    Outcome env s call s' ∧ Registered s' := by
  cases call with
  | initialize_machine => exact outcome_of_initialize h hok
  | set_integration_contracts =>
      simp only [exec, set_integration_contracts, bind_eq_ok, assert_admin_eq_ok, save_eq_ok, and_assoc,
        exists_and_left, exists_eq_left, exists_const, true_and] at hok
      obtain ⟨-, -, rfl⟩ := hok
      exact ⟨.configured (fun id => by simp) fun id => by simp,
        h.configured (fun id => by simp) (fun id => by simp) (by simp) (by simp) (by simp) (by simp)⟩
  | set_default_timeout | set_state_timeout =>
      simp only [exec, set_default_timeout, set_state_timeout, bind_eq_ok, assert_admin_eq_ok, panic_if_eq_ok,
        save_eq_ok, and_assoc, exists_and_left, exists_eq_left, exists_const, true_and] at hok
      obtain ⟨-, -, -, rfl⟩ := hok
      exact ⟨.configured (fun id => by simp) fun id => by simp,
        h.configured (fun id => by simp) (fun id => by simp) (by simp) (by simp) (by simp) (by simp)⟩
  | initiate_transfer =>
      simp only [exec, bind_eq_ok, pure_eq_ok] at hok
      obtain ⟨id, s₁, hok, -, rfl⟩ := hok
      exact outcome_of_initiate h hok
  | advance_state =>
      simp only [exec, advance_state, bind_eq_ok, require_auth_eq_ok, known_transfer_eq_ok,
        panic_if_eq_ok, Bool.not_eq_false, assert_advance_auth_eq_ok, pure_eq_ok, and_assoc,
        exists_and_left, exists_eq_left, exists_const, true_and] at hok
      obtain ⟨hauth, t, ht, hallowed, _, ⟨escrow, hescrow, admin, hadmin, hcaller, rfl⟩, t', _,
        hok, rfl⟩ := hok
      obtain ⟨hist, hhist⟩ := h.history _ t ht
      obtain rfl := h.id_eq _ t ht
      obtain ⟨hist', hmoved, rfl⟩ := h.apply_transition_eq_ok hhist hok
      exact h.moved ht hhist (.advance hauth hallowed hescrow hadmin hcaller hmoved)
  | handle_timeout =>
      simp only [exec, handle_timeout, bind_eq_ok, known_transfer_eq_ok, ite_eq_ok, pure_eq_ok,
        reads_eq_ok, panic_if_eq_ok, Bool.not_eq_false, UInt64.not_le, and_assoc, exists_and_left,
        exists_eq_left, exists_const, true_and] at hok
      obtain ⟨t, ht, ⟨-, rfl⟩ | ⟨-, hlate, hallowed, t', _, hok, rfl⟩⟩ := hok
      · exact ⟨.configured (fun _ => rfl) fun _ => rfl, h⟩
      · obtain ⟨hist, hhist⟩ := h.history _ t ht
        obtain rfl := h.id_eq _ t ht
        obtain ⟨hist', hmoved, rfl⟩ := h.apply_transition_eq_ok hhist hok
        exact h.moved ht hhist (.timeout hlate hallowed hmoved)
  | rollback_transfer =>
      simp only [exec, rollback_transfer, bind_eq_ok, require_auth_eq_ok, known_transfer_eq_ok,
        panic_if_eq_ok, Bool.not_eq_false, pure_eq_ok, and_assoc, exists_and_left, exists_eq_left,
        exists_const, true_and] at hok
      obtain ⟨-, t, ht, _, s₁, hcaller, -, -, hallowed, t₁, _, hok, t', _, hok', rfl⟩ := hok
      have hsame : s₁ = s := by
        rw [may_rollback, ite_eq_ok, pure_eq_ok, is_admin_eq_ok] at hcaller
        obtain ⟨-, -, rfl⟩ | ⟨-, -, -, -, rfl⟩ := hcaller <;> rfl
      subst hsame
      obtain ⟨hist, hhist⟩ := h.history _ t ht
      obtain rfl := h.id_eq _ t ht
      obtain ⟨hist₁, hmoved, rfl⟩ := h.apply_transition_eq_ok hhist hok
      obtain ⟨hist', hmoved', rfl⟩ := TransferStateMachine.apply_transition_eq_ok hok'
      rw [hmoved.id_eq, put_history, Option.getD_some] at hmoved'
      rw [hmoved.id_eq, put_put]
      exact h.moved ht hhist (.rollback hallowed hmoved hmoved')
  | admin_override_state =>
      simp only [exec, admin_override_state, bind_eq_ok, assert_admin_eq_ok, known_transfer_eq_ok,
        panic_if_eq_ok, Bool.not_eq_false, Bool.not_eq_true, pure_eq_ok, and_assoc, exists_and_left,
        exists_eq_left, exists_const, true_and] at hok
      obtain ⟨hauth, hadmin, t, ht, hfinal, hallowed, t', _, hok, rfl⟩ := hok
      obtain ⟨hist, hhist⟩ := h.history _ t ht
      obtain rfl := h.id_eq _ t ht
      obtain ⟨hist', hmoved, rfl⟩ := h.apply_transition_eq_ok hhist hok
      exact h.moved ht hhist (.override hauth hadmin hfinal hallowed hmoved)
  | submit_verification_result =>
      simp only [exec, submit_verification_result, bind_eq_ok, require_auth_eq_ok, load_eq_ok,
        expect_eq_ok, known_transfer_eq_ok, panic_if_eq_ok, reads_eq_ok, save_eq_ok, not_not, and_assoc,
        exists_and_left, exists_eq_left, exists_const, true_and] at hok
      obtain ⟨hauth, verifier, hverifier, rfl, t, ht, hstate, rfl⟩ := hok
      obtain ⟨hist, hhist⟩ := h.history _ t ht
      obtain rfl := h.id_eq _ t ht
      rw [update_transfer_eq_put hhist]
      exact h.moved ht hhist (.verification hauth hverifier hstate)
  | submit_oracle_result =>
      simp only [exec, submit_oracle_result, bind_eq_ok, require_auth_eq_ok, load_eq_ok,
        expect_eq_ok, known_transfer_eq_ok, panic_if_eq_ok, reads_eq_ok, save_eq_ok, not_not, and_assoc,
        exists_and_left, exists_eq_left, exists_const, true_and] at hok
      obtain ⟨hauth, oracle, horacle, rfl, t, ht, hstate, rfl⟩ := hok
      obtain ⟨hist, hhist⟩ := h.history _ t ht
      obtain rfl := h.id_eq _ t ht
      rw [update_transfer_eq_put hhist]
      exact h.moved ht hhist (.oracle hauth horacle hstate)
  | try_auto_progress =>
      simp only [exec, try_auto_progress, bind_eq_ok, known_transfer_eq_ok, ite_eq_ok, pure_eq_ok,
        elim_eq_ok, exec_if_eq_ok, and_assoc, exists_and_left, exists_eq_left, true_and] at hok
      obtain ⟨t, ht, ⟨-, rfl⟩ | ⟨-, ⟨-, rfl⟩ | ⟨next, hnext, ⟨hallowed, t', _, hok, rfl⟩ | ⟨-, rfl⟩⟩⟩⟩ := hok
      · exact ⟨.configured (fun _ => rfl) fun _ => rfl, h⟩
      · exact ⟨.configured (fun _ => rfl) fun _ => rfl, h⟩
      · obtain ⟨hist, hhist⟩ := h.history _ t ht
        obtain rfl := h.id_eq _ t ht
        obtain ⟨hist', hmoved, rfl⟩ := h.apply_transition_eq_ok hhist hok
        exact h.moved ht hhist (.auto hnext hallowed hmoved)
      · exact ⟨.configured (fun _ => rfl) fun _ => rfl, h⟩

/-- A transfer that is there stays there, and the call has its effect on it. -/
theorem Outcome.effect {call : EntryPoint} (ho : Outcome env s call s') {hist : List StateTransitionLog}
    (ht : s (.Transfer id) = some t) (hhist : s (.History id) = some hist) :
    ∃ t' hist', s' (.Transfer id) = some t' ∧ s' (.History id) = some hist' ∧
      Effect env s t hist call t' hist' := by
  cases ho with
  | configured htransfers hhistories =>
      exact ⟨t, hist, (htransfers id).trans ht, (hhistories id).trans hhist, .nothing⟩
  | @created new hnew =>
      have hne : id ≠ new.id := by
        rintro rfl
        rw [hnew] at ht
        cases ht
      refine ⟨t, hist, ?_, ?_, .nothing⟩
      · rw [put_transfer_of_ne hne, Function.update_of_ne (by simp), ht]
      · rw [put_history_of_ne hne, Function.update_of_ne (by simp), hhist]
  | @moved u u' _ past' hu hpast heffect =>
      by_cases heq : id = u.id
      · subst heq
        rw [ht, Option.some.injEq] at hu
        rw [hhist, Option.some.injEq] at hpast
        subst hu hpast
        exact ⟨u', past', put_transfer, put_history, heffect⟩
      · refine ⟨t, hist, ?_, ?_, .nothing⟩
        · rw [put_transfer_of_ne heq, ht]
        · rw [put_history_of_ne heq, hhist]

/-- A transfer that was not there has just been initiated. -/
theorem Outcome.initiated {call : EntryPoint} (ho : Outcome env s call s')
    (hnone : s (.Transfer id) = none) (ht : s' (.Transfer id) = some t) :
    t.state = .Initiated ∧ t.verification_ok = false ∧ t.oracle_ok = false ∧
      s' (.History id) = some [] := by
  cases ho with
  | configured htransfers =>
      rw [htransfers, hnone] at ht
      cases ht
  | @created new _ hstate hverification horacle =>
      by_cases heq : id = new.id
      · subst heq
        rw [put_transfer, Option.some.injEq] at ht
        subst ht
        exact ⟨hstate, hverification, horacle, put_history⟩
      · rw [put_transfer_of_ne heq, Function.update_of_ne (by simp), hnone] at ht
        cases ht
  | @moved u _ _ _ hu =>
      by_cases heq : id = u.id
      · subst heq
        rw [hnone] at hu
        cases hu
      · rw [put_transfer_of_ne heq, hnone] at ht
        cases ht

theorem registered_run (calls : List (Env × EntryPoint)) : Registered (run empty_storage calls) :=
  run_invariant (C := fun _ _ => True) (fun h _ hok => (outcome_of_exec h hok).2) Registered.empty
    (Along.of_forall fun _ _ _ => trivial)

/-- One more call succeeds, or leaves no trace. -/
theorem run_concat_cases (calls : List (Env × EntryPoint)) (call : Env × EntryPoint) :
    (exec call.2 call.1 (run empty_storage calls) = .ok ((), run empty_storage (calls ++ [call])) ∧
        Outcome call.1 (run empty_storage calls) call.2 (run empty_storage (calls ++ [call]))) ∨
      run empty_storage (calls ++ [call]) = run empty_storage calls := by
  have hrun : run empty_storage (calls ++ [call]) = step exec call (run empty_storage calls) :=
    runFrom_append
  rw [hrun]
  rcases step_cases exec (run empty_storage calls) call with hok | ⟨-, hsame⟩
  · exact .inl ⟨hok, (outcome_of_exec (registered_run calls) hok).1⟩
  · exact .inr hsame

end Outcomes

end BridgeWatch.TransferStateMachine

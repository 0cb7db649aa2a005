/-
The bridge reserve verifier, `contracts/soroban/src/bridge_reserve_verifier.rs`.

A contract of its own, with its own storage. Every entry point that can change the storage is here, and of the
read-only ones `batch_verify_proofs`. Events and the extensions of lifetimes are left out, which no function reads back.
The subtraction from a stake is checked, so an `i128` is an integer here.
-/
import BridgeWatch.HostCalls

set_option autoImplicit false

namespace BridgeWatch.ReserveVerifier

open Transaction CheckedIntegers
open Contract (U32 U64 SString Address str)

/-! ## Data -/

inductive Error where
  | NotInitialized
  | AlreadyInitialized
  | Unauthorized
  | BridgeNotFound
  | BridgeAlreadyRegistered
  | OperatorNotFound
  | CommitmentNotFound
  | InvalidProof
  | ChallengePeriodActive
  | ChallengePeriodExpired
  | InsufficientStake
  | OperatorInactive
  | InvalidInput
  | NotChallengeable
  | NotResolvable
  deriving DecidableEq

/-- The error as a number. -/
def Error.code : Error → ℕ
  | .NotInitialized => 1
  | .AlreadyInitialized => 2
  | .Unauthorized => 3
  | .BridgeNotFound => 4
  | .BridgeAlreadyRegistered => 5
  | .OperatorNotFound => 6
  | .CommitmentNotFound => 7
  | .InvalidProof => 8
  | .ChallengePeriodActive => 9
  | .ChallengePeriodExpired => 10
  | .InsufficientStake => 11
  | .OperatorInactive => 12
  | .InvalidInput => 13
  | .NotChallengeable => 14
  | .NotResolvable => 15

/-- The error as the host reports it. -/
def Error.text (e : Error) : String := "Error(Contract, #" ++ toString e.code ++ ")"

inductive CommitmentStatus where
  | PendingVerification
  | Verified
  | Challenged
  | Slashed
  | Resolved
  deriving DecidableEq

structure Config where
  admin : Address
  challenge_period_ledgers : U32
  slash_amount : ℤ
  min_stake : ℤ
  deriving DecidableEq

structure BridgeOperator where
  bridge_id : SString
  operator : Address
  stake : ℤ
  is_active : Bool
  slash_count : U32
  registered_at : U64
  deriving DecidableEq

structure ReserveCommitment where
  bridge_id : SString
  sequence : U64
  merkle_root : BytesN 32
  total_reserves : ℤ
  committed_at : U64
  committed_ledger : U32
  status : CommitmentStatus
  challenger : Option Address
  deriving DecidableEq

structure MerkleProof where
  leaf_hash : BytesN 32
  proof_path : List (BytesN 32)
  leaf_index : U64
  deriving DecidableEq

inductive DataKey where
  | Config
  | BridgeOperator (bridge_id : SString)
  | ReserveCommitment (bridge_id : SString) (sequence : U64)
  | CommitmentSeq (bridge_id : SString)
  | RegisteredBridges
  deriving DecidableEq

/-- The type of the record under a key. -/
@[reducible] def DataKey.Val : DataKey → Type
  | .Config => ReserveVerifier.Config
  | .BridgeOperator _ => ReserveVerifier.BridgeOperator
  | .ReserveCommitment _ _ => ReserveVerifier.ReserveCommitment
  | .CommitmentSeq _ => U64
  | .RegisteredBridges => List SString

/-- The contract's storage. -/
abbrev VerifierStorage := Store DataKey DataKey.Val

/-! ## The host -/

/-- What a call reads of the ledger: also its sequence number. -/
structure Ledger extends Contract.Env where
  sequence : U32

/-- A call of a function of the contract. -/
abbrev Verifier (α : Type) := Tx Ledger DataKey DataKey.Val α

/-- A host call that does not read the sequence number. -/
def host {α : Type} (m : Tx Contract.Env DataKey DataKey.Val α) : Verifier α := fun env => m env.toEnv

/-- `env.storage().get(&key)`. -/
abbrev get (key : DataKey) : Verifier (Option key.Val) := load key

/-- `env.storage().set(&key, &value)`. -/
abbrev set (key : DataKey) (value : key.Val) : Verifier Unit := save key value

/-- `panic_with_error!(&env, e)` when `c` holds. -/
abbrev reject_if (c : Prop) [Decidable c] (e : Error) : Verifier Unit := panic_if c e.text

/-- The record that the storage has; the error when it has none. -/
abbrev found {α : Type} (o : Option α) (e : Error) : Verifier α := expect o e.text

/-- `env.ledger().timestamp()`. -/
abbrev timestamp : Verifier U64 := reads fun env => env.timestamp

/-- `env.ledger().sequence()`. -/
abbrev sequence : Verifier U32 := reads Ledger.sequence

/-- `address.require_auth()`. -/
abbrev require_auth (address : Address) : Verifier Unit := host (HostCalls.require_auth address)

/-- `x + y` on `u32`. -/
abbrev add_u32 (x y : U32) : Verifier U32 := host (HostCalls.checked_add_u32 x y "attempt to add with overflow")

/-- `x + y` on `u64`. -/
abbrev add_u64 (x y : U64) : Verifier U64 := host (HostCalls.checked_add_u64 x y "attempt to add with overflow")

/-- `x - y` on `i128`. -/
abbrev sub_i128 (x y : ℤ) : Verifier ℤ := expect (checked_sub x y) "attempt to subtract with overflow"

/-- `vec.push_back(value)`. -/
abbrev push_back {α : Type} (values : List α) (value : α) : Verifier (List α) := host (HostCalls.push_back values value)

/-! ## Private helpers -/

def load_config : Verifier Config := do
  let config ← get .Config
  found config .NotInitialized

def suspend_operator_internal (bridge_id : SString) : Verifier Unit := do
  let op ← get (.BridgeOperator bridge_id)
  op.elim (pure ()) fun op => set (.BridgeOperator bridge_id) { op with is_active := false }

/-- What a slash leaves of a stake. -/
def slashed_stake (stake slash_amount : ℤ) : Verifier ℤ :=
  if stake ≥ slash_amount then sub_i128 stake slash_amount else pure 0

def slash_operator_internal (bridge_id : SString) (config : Config) : Verifier Unit := do
  let op ← get (.BridgeOperator bridge_id)
  let op ← found op .OperatorNotFound
  let slash_count ← add_u32 op.slash_count 1
  let stake ← slashed_stake op.stake config.slash_amount
  set (.BridgeOperator bridge_id)
    { op with slash_count, stake, is_active := if stake < config.min_stake then false else op.is_active }

/-- Whether the window in which a commitment can be challenged is over. -/
def window_over (commitment : ReserveCommitment) (config : Config) : Verifier Bool := do
  let window_end ← add_u32 commitment.committed_ledger config.challenge_period_ledgers
  let now ← sequence
  return now > window_end

section Hashes

variable (sha256 : Sha256)

/-- One step of a proof: the parent, and its position. -/
def proof_step (st : BytesN 32 × U64) (sibling : BytesN 32) : BytesN 32 × U64 :=
  (sha256 (if st.2 % 2 = 0 then st.1.toList ++ sibling.toList else sibling.toList ++ st.1.toList), st.2 / 2)

def verify_merkle_proof_internal (leaf_hash : BytesN 32) (proof_path : List (BytesN 32)) (leaf_index : U64)
    (expected_root : BytesN 32) : Bool :=
  (proof_path.foldl (proof_step sha256) (leaf_hash, leaf_index)).1 == expected_root

/-- The check of a proof against the root of a commitment. -/
def proves (commitment : ReserveCommitment) (proof : MerkleProof) : Bool :=
  verify_merkle_proof_internal sha256 proof.leaf_hash proof.proof_path proof.leaf_index commitment.merkle_root

end Hashes

/-! ## Entry points -/

def initialize_verifier (admin : Address) (challenge_period_ledgers : U32) (slash_amount min_stake : ℤ) :
    Verifier Unit := do
  let config ← get .Config
  reject_if (config.isSome = true) .AlreadyInitialized
  require_auth admin
  set .Config { admin, challenge_period_ledgers, slash_amount, min_stake }
  set .RegisteredBridges []

def update_config (challenge_period_ledgers : U32) (slash_amount min_stake : ℤ) : Verifier Unit := do
  let config ← load_config
  require_auth config.admin
  reject_if (slash_amount < 0 ∨ min_stake < 0) .InvalidInput
  set .Config { config with challenge_period_ledgers, slash_amount, min_stake }

def register_bridge (bridge_id : SString) (operator : Address) (initial_stake : ℤ) : Verifier Unit := do
  let config ← load_config
  require_auth config.admin
  let op ← get (.BridgeOperator bridge_id)
  reject_if (op.isSome = true) .BridgeAlreadyRegistered
  reject_if (initial_stake < config.min_stake) .InsufficientStake
  let registered_at ← timestamp
  set (.BridgeOperator bridge_id)
    { bridge_id, operator, stake := initial_stake, is_active := true, slash_count := 0, registered_at }
  set (.CommitmentSeq bridge_id) 0
  let bridges ← get .RegisteredBridges
  let bridges ← push_back (bridges.getD []) bridge_id
  set .RegisteredBridges bridges

def commit_reserves (bridge_id : SString) (merkle_root : BytesN 32) (total_reserves : ℤ) : Verifier U64 := do
  let op ← get (.BridgeOperator bridge_id)
  let op ← found op .BridgeNotFound
  reject_if (op.is_active = false) .OperatorInactive
  require_auth op.operator
  reject_if (total_reserves < 0) .InvalidInput
  let seq ← get (.CommitmentSeq bridge_id)
  let new_seq ← add_u64 (seq.getD 0) 1
  set (.CommitmentSeq bridge_id) new_seq
  let committed_at ← timestamp
  let committed_ledger ← sequence
  set (.ReserveCommitment bridge_id new_seq)
    { bridge_id, sequence := new_seq, merkle_root, total_reserves, committed_at, committed_ledger,
      status := .PendingVerification, challenger := none }
  return new_seq

/-- A pending commitment is verified once its window is over. -/
def advance (bridge_id : SString) (sequence : U64) (commitment : ReserveCommitment) : Verifier Unit := do
  let config ← load_config
  let ended ← window_over commitment config
  exec_if (ended = true) (set (.ReserveCommitment bridge_id sequence) { commitment with status := .Verified })

def verify_proof (sha256 : Sha256) (bridge_id : SString) (sequence : U64) (proof : MerkleProof) : Verifier Bool := do
  let commitment ← get (.ReserveCommitment bridge_id sequence)
  let commitment ← found commitment .CommitmentNotFound
  let valid := proves sha256 commitment proof
  exec_if (valid = true ∧ commitment.status = .PendingVerification) (advance bridge_id sequence commitment)
  return valid

def batch_verify_proofs (sha256 : Sha256) (bridge_id : SString) (sequence : U64) (proofs : List MerkleProof) :
    Verifier (List Bool) := do
  let commitment ← get (.ReserveCommitment bridge_id sequence)
  let commitment ← found commitment .CommitmentNotFound
  return proofs.map (proves sha256 commitment)

def confirm_commitment (bridge_id : SString) (sequence : U64) : Verifier Unit := do
  let commitment ← get (.ReserveCommitment bridge_id sequence)
  let commitment ← found commitment .CommitmentNotFound
  reject_if (commitment.status ≠ .PendingVerification) .NotChallengeable
  let config ← load_config
  let ended ← window_over commitment config
  reject_if (ended = false) .ChallengePeriodActive
  set (.ReserveCommitment bridge_id sequence) { commitment with status := .Verified }

/-- One round of the sweep, for a commitment that is still pending. -/
def sweep_pending (config : Config) (bridge_id : SString) (confirmed : U32) (seq : U64)
    (commitment : ReserveCommitment) : Verifier U32 := do
  let ended ← window_over commitment config
  exec_if (ended = true) (set (.ReserveCommitment bridge_id seq) { commitment with status := .Verified })
  if ended = true then add_u32 confirmed 1 else pure confirmed

/-- One round of the sweep; the loop ends once enough commitments are confirmed. -/
def sweep_round (config : Config) (bridge_id : SString) (max_count confirmed : U32) (seq : U64) : Verifier U32 :=
  if confirmed ≥ max_count then pure confirmed
  else do
    let commitment ← get (.ReserveCommitment bridge_id seq)
    commitment.elim (pure confirmed) fun commitment =>
      if commitment.status = .PendingVerification then sweep_pending config bridge_id confirmed seq commitment
      else pure confirmed

def sweep_expired_commitments (bridge_id : SString) (max_count : U32) : Verifier U32 := do
  let config ← load_config
  let latest_seq ← get (.CommitmentSeq bridge_id)
  let rounds := (List.range (latest_seq.getD 0).toNat).map fun i => UInt64.ofNat (i + 1)
  rounds.foldlM (sweep_round config bridge_id max_count) 0

def challenge_commitment (sha256 : Sha256) (bridge_id : SString) (sequence : U64) (challenger : Address)
    (disputed_proof : MerkleProof) : Verifier Unit := do
  require_auth challenger
  let commitment ← get (.ReserveCommitment bridge_id sequence)
  let commitment ← found commitment .CommitmentNotFound
  reject_if (commitment.status ≠ .PendingVerification) .NotChallengeable
  let config ← load_config
  let ended ← window_over commitment config
  reject_if (ended = true) .ChallengePeriodExpired
  exec_if (proves sha256 commitment disputed_proof = false) do
    set (.ReserveCommitment bridge_id sequence)
      { commitment with status := .Challenged, challenger := some challenger }
    suspend_operator_internal bridge_id

def resolve_challenge (bridge_id : SString) (sequence : U64) (commitment_valid : Bool) : Verifier Unit := do
  let config ← load_config
  require_auth config.admin
  let commitment ← get (.ReserveCommitment bridge_id sequence)
  let commitment ← found commitment .CommitmentNotFound
  reject_if (commitment.status ≠ .Challenged) .NotResolvable
  exec_if (commitment_valid = false) (slash_operator_internal bridge_id config)
  set (.ReserveCommitment bridge_id sequence)
    { commitment with status := if commitment_valid = true then .Resolved else .Slashed }

/-- The proof is checked against the latest commitment, and nothing is made of the result. -/
def slash_operator (bridge_id : SString) (_proof : MerkleProof) : Verifier Unit := do
  let config ← load_config
  require_auth config.admin
  slash_operator_internal bridge_id config

/-! ## Runs -/

/-- A call of an entry point that can change the storage. -/
inductive EntryPoint where
  | initialize_verifier (admin : Address) (challenge_period_ledgers : U32) (slash_amount min_stake : ℤ)
  | update_config (challenge_period_ledgers : U32) (slash_amount min_stake : ℤ)
  | register_bridge (bridge_id : SString) (operator : Address) (initial_stake : ℤ)
  | commit_reserves (bridge_id : SString) (merkle_root : BytesN 32) (total_reserves : ℤ)
  | verify_proof (bridge_id : SString) (sequence : U64) (proof : MerkleProof)
  | confirm_commitment (bridge_id : SString) (sequence : U64)
  | sweep_expired_commitments (bridge_id : SString) (max_count : U32)
  | challenge_commitment (bridge_id : SString) (sequence : U64) (challenger : Address) (disputed_proof : MerkleProof)
  | resolve_challenge (bridge_id : SString) (sequence : U64) (commitment_valid : Bool)
  | slash_operator (bridge_id : SString) (proof : MerkleProof)
  deriving DecidableEq

/-- A call whose result is not looked at. -/
def ignore {α : Type} (m : Verifier α) : Verifier Unit := do
  let _ ← m
  pure ()

def exec (sha256 : Sha256) : EntryPoint → Verifier Unit
  | .initialize_verifier admin challenge_period_ledgers slash_amount min_stake =>
    initialize_verifier admin challenge_period_ledgers slash_amount min_stake
  | .update_config challenge_period_ledgers slash_amount min_stake =>
    update_config challenge_period_ledgers slash_amount min_stake
  | .register_bridge bridge_id operator initial_stake => register_bridge bridge_id operator initial_stake
  | .commit_reserves bridge_id merkle_root total_reserves =>
    ignore (commit_reserves bridge_id merkle_root total_reserves)
  | .verify_proof bridge_id sequence proof => ignore (verify_proof sha256 bridge_id sequence proof)
  | .confirm_commitment bridge_id sequence => confirm_commitment bridge_id sequence
  | .sweep_expired_commitments bridge_id max_count => ignore (sweep_expired_commitments bridge_id max_count)
  | .challenge_commitment bridge_id sequence challenger disputed_proof =>
    challenge_commitment sha256 bridge_id sequence challenger disputed_proof
  | .resolve_challenge bridge_id sequence commitment_valid => resolve_challenge bridge_id sequence commitment_valid
  | .slash_operator bridge_id proof => slash_operator bridge_id proof

/-- The storage after some calls. -/
abbrev run (sha256 : Sha256) (s : VerifierStorage) (calls : List (Ledger × EntryPoint)) : VerifierStorage :=
  runFrom (exec sha256) s calls

/-- The storage before the first call. -/
def empty_storage : VerifierStorage := fun _ => none

/-- The result of a call that returns, whatever storage it leaves. -/
def returned {α : Type} (r : Except String (α × VerifierStorage)) : Option α := r.toOption.map Prod.fst

theorem exists_of_returned {α : Type} {r : Except String (α × VerifierStorage)} {a : α} (h : returned r = some a) :
    ∃ s, r = .ok (a, s) := by
  cases r with
  | error => simp [returned, Except.toOption] at h
  | ok p =>
      rw [returned, Except.toOption, Option.map_some, Option.some.injEq] at h
      exact ⟨p.2, by rw [← h]⟩

/-- An account. -/
def party (n : UInt8) : Address := .account (Vector.replicate 32 n)

/-- A ledger in which every address has authorised its call. -/
def ledger_at (sequence : U32) : Ledger := { timestamp := sequence.toUInt64, auth := fun _ => true, sequence }

end BridgeWatch.ReserveVerifier

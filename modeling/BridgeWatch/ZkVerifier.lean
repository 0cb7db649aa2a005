/-
The verifier of reserve attestations, `contracts/soroban/src/zk_verifier.rs`.

A contract of its own, with its own storage. Every entry point that can change the storage is here. Events and the
extensions of lifetimes are left out, which no function reads back. The check of a proof takes the public inputs and
does not look at them.
-/
import BridgeWatch.HostCalls

set_option autoImplicit false

namespace BridgeWatch.ZkVerifier

open Transaction CheckedIntegers
open Contract (U32 U64 I128 SString Address Env be str_to_bytes_inner)

/-! ## Data -/

inductive ZkVerifierError where
  | NotInitialized
  | AlreadyInitialized
  | Unauthorized
  | InvalidProof
  | InvalidPublicInputs
  | ConstraintFailed
  | KeyNotFound
  | ProofExpired
  | AlreadyVerified
  | InvalidVerificationKey
  | BridgeNotFound
  deriving DecidableEq

/-- The error as a number. -/
def ZkVerifierError.code : ZkVerifierError → ℕ
  | .NotInitialized => 1
  | .AlreadyInitialized => 2
  | .Unauthorized => 3
  | .InvalidProof => 4
  | .InvalidPublicInputs => 5
  | .ConstraintFailed => 6
  | .KeyNotFound => 7
  | .ProofExpired => 8
  | .AlreadyVerified => 9
  | .InvalidVerificationKey => 10
  | .BridgeNotFound => 11

/-- The error as the host reports it. -/
def ZkVerifierError.text (e : ZkVerifierError) : String := "Error(Contract, #" ++ toString e.code ++ ")"

inductive ProofScheme where
  | Groth16
  | Plonk
  deriving DecidableEq

inductive CurveType where
  | Bn254
  | Bls12_381
  deriving DecidableEq

structure ZkProof where
  scheme : ProofScheme
  curve : CurveType
  pi_a : Buffer
  pi_b : Buffer
  pi_c : Buffer
  commitment_hash : BytesN 32
  deriving DecidableEq

structure ZkPublicInputs where
  total_reserves : I128
  on_chain_supply : I128
  min_reserve_ratio_bps : U32
  timestamp : U64
  bridge_id : SString
  asset_code : SString
  deriving DecidableEq

structure ZkVerificationKey where
  scheme : ProofScheme
  curve : CurveType
  vk_alpha_g1 : Buffer
  vk_beta_g2 : Buffer
  vk_gamma_g2 : Buffer
  vk_delta_g2 : Buffer
  vk_ic : List Buffer
  vk_hash : BytesN 32
  deriving DecidableEq

structure ZkProofAttestation where
  attestation_id : BytesN 32
  bridge_id : SString
  asset_code : SString
  total_reserves : I128
  on_chain_supply : I128
  reserve_ratio_bps : U32
  commitment_hash : BytesN 32
  verified_at : U64
  verified_by : Address
  is_valid : Bool
  deriving DecidableEq

inductive DataKey where
  | Admin
  | VerificationKey (bridge_id : SString)
  | Attestation (attestation_id : BytesN 32)
  | LatestAttestation (bridge_id : SString)
  deriving DecidableEq

/-- The type of the record under a key. -/
@[reducible] def DataKey.Val : DataKey → Type
  | .Admin => Address
  | .VerificationKey _ => ZkVerificationKey
  | .Attestation _ => ZkProofAttestation
  | .LatestAttestation _ => ZkProofAttestation

/-- The contract's storage. -/
abbrev ZkStorage := Store DataKey DataKey.Val

/-! ## The host -/

/-- A call of a function of the contract. -/
abbrev Zk (α : Type) := Tx Env DataKey DataKey.Val α

/-- `env.storage().get(&key)`. -/
abbrev get (key : DataKey) : Zk (Option key.Val) := load key

/-- `env.storage().set(&key, &value)`. -/
abbrev set (key : DataKey) (value : key.Val) : Zk Unit := save key value

/-- `return Err(e)` when `c` holds. -/
abbrev reject_if (c : Prop) [Decidable c] (e : ZkVerifierError) : Zk Unit := panic_if c e.text

/-- `o.ok_or(e)?`. -/
abbrev ok_or {α : Type} (o : Option α) (e : ZkVerifierError) : Zk α := expect o e.text

/-- The bytes of a string of at most 256 bytes; `copy_into_slice` traps on a longer one. -/
abbrev str_to_bytes (s : SString) : Zk Buffer := attempt (str_to_bytes_inner s)

/-! ## Entry points -/

/-- `initialize`, which is a keyword of Lean. -/
def initialize_zk_verifier (admin : Address) : Zk Unit := do
  let stored ← get .Admin
  reject_if (stored.isSome = true) .AlreadyInitialized
  HostCalls.require_auth admin
  set .Admin admin

def register_verification_key (admin : Address) (bridge_id : SString) (vk : ZkVerificationKey) : Zk Unit := do
  let stored_admin ← get .Admin
  let stored_admin ← ok_or stored_admin .NotInitialized
  reject_if (admin ≠ stored_admin) .Unauthorized
  HostCalls.require_auth admin
  reject_if (vk.vk_alpha_g1 = [] ∨ vk.vk_beta_g2 = [] ∨ vk.vk_gamma_g2 = [] ∨ vk.vk_delta_g2 = [])
    .InvalidVerificationKey
  set (.VerificationKey bridge_id) vk

/-- The share of the supply that the reserves cover. -/
def reserve_ratio_bps (public_inputs : ZkPublicInputs) : U32 :=
  if public_inputs.on_chain_supply.toInt = 0 then 10000
  else
    let ratio :=
      (checked_mul_u128 public_inputs.total_reserves.toNat 10000).getD 0 / public_inputs.on_chain_supply.toNat
    if ratio > 2 ^ 32 - 1 then .ofNat (2 ^ 32 - 1) else .ofNat ratio

section Hashes

variable (sha256 : Sha256)

def verify_snark_proof_internal (proof : ZkProof) (vk : ZkVerificationKey) (_public_inputs : ZkPublicInputs) : Bool :=
  if proof.pi_a = [] ∨ proof.pi_b = [] ∨ proof.pi_c = [] then false
  else if proof.commitment_hash = zero32 then false
  else if vk.vk_alpha_g1 = [] ∨ vk.vk_beta_g2 = [] then false
  else sha256 (proof.pi_a ++ proof.pi_b ++ proof.pi_c ++ proof.commitment_hash.toList) != zero32

/-- What the id of an attestation is the hash of. -/
def attestation_payload (bridge_id asset_code : Buffer) (proof : ZkProof) (public_inputs : ZkPublicInputs) : Buffer :=
  bridge_id ++ asset_code ++ proof.commitment_hash.toList ++ be 16 public_inputs.total_reserves.toNat ++
    be 16 public_inputs.on_chain_supply.toNat ++ be 8 public_inputs.timestamp.toNat

def verify_zk_reserve_proof (operator : Address) (proof : ZkProof) (public_inputs : ZkPublicInputs) :
    Zk (BytesN 32) := do
  HostCalls.require_auth operator
  reject_if (public_inputs.total_reserves.toInt < 0 ∨ public_inputs.on_chain_supply.toInt < 0) .InvalidPublicInputs
  reject_if (public_inputs.total_reserves.toInt < public_inputs.on_chain_supply.toInt) .ConstraintFailed
  reject_if (reserve_ratio_bps public_inputs < public_inputs.min_reserve_ratio_bps) .ConstraintFailed
  reject_if (proof.pi_a = [] ∨ proof.pi_b = [] ∨ proof.pi_c = []) .InvalidProof
  let vk ← get (.VerificationKey public_inputs.bridge_id)
  let vk ← ok_or vk .KeyNotFound
  reject_if (vk.scheme ≠ proof.scheme ∨ vk.curve ≠ proof.curve) .InvalidVerificationKey
  reject_if (verify_snark_proof_internal sha256 proof vk public_inputs = false) .InvalidProof
  let bridge_id ← str_to_bytes public_inputs.bridge_id
  let asset_code ← str_to_bytes public_inputs.asset_code
  let attestation_id := sha256 (attestation_payload bridge_id asset_code proof public_inputs)
  let existing ← get (.Attestation attestation_id)
  reject_if (existing.isSome = true) .AlreadyVerified
  let verified_at ← HostCalls.timestamp
  let attestation : ZkProofAttestation :=
    { attestation_id, bridge_id := public_inputs.bridge_id, asset_code := public_inputs.asset_code,
      total_reserves := public_inputs.total_reserves, on_chain_supply := public_inputs.on_chain_supply,
      reserve_ratio_bps := reserve_ratio_bps public_inputs, commitment_hash := proof.commitment_hash, verified_at,
      verified_by := operator, is_valid := true }
  set (.Attestation attestation_id) attestation
  set (.LatestAttestation public_inputs.bridge_id) attestation
  return attestation_id

/-! ## Runs -/

/-- A call of an entry point that can change the storage. -/
inductive EntryPoint where
  | initialize_zk_verifier (admin : Address)
  | register_verification_key (admin : Address) (bridge_id : SString) (vk : ZkVerificationKey)
  | verify_zk_reserve_proof (operator : Address) (proof : ZkProof) (public_inputs : ZkPublicInputs)
  deriving DecidableEq

def exec : EntryPoint → Zk Unit
  | .initialize_zk_verifier admin => initialize_zk_verifier admin
  | .register_verification_key admin bridge_id vk => register_verification_key admin bridge_id vk
  | .verify_zk_reserve_proof operator proof public_inputs => do
    let _ ← verify_zk_reserve_proof sha256 operator proof public_inputs
    pure ()

/-- The storage after some calls. -/
abbrev run (s : ZkStorage) (calls : List (Env × EntryPoint)) : ZkStorage := runFrom (exec sha256) s calls

end Hashes

/-- The storage before the first call. -/
def empty_storage : ZkStorage := fun _ => none

end BridgeWatch.ZkVerifier

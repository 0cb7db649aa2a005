/-
What an attestation is bound to.

The id of an attestation is a hash of the strings of the bridge and the asset, one after the other, the commitment, the
amounts and the time, and it is in use from then on. So no id is given twice, and a call whose id is in use repeats all
of these. A proof is bound to none of them: the same one attests to whatever inputs the amounts and the key of the
bridge allow.
-/
import BridgeWatch.Fips
import BridgeWatch.SignedMessages
import BridgeWatch.ZkVerifier

set_option autoImplicit false

namespace BridgeWatch.ZkVerifier

open Transaction CheckedIntegers
open Contract (U32 U64 I128 SString Address Env str be be_inj str_to_bytes_inner_eq_ok)

/-- What the id of an attestation is the hash of. -/
def payload (proof : ZkProof) (public_inputs : ZkPublicInputs) : Buffer :=
  attestation_payload public_inputs.bridge_id public_inputs.asset_code proof public_inputs

/-- The amounts of the public inputs are in order. -/
structure Covered (public_inputs : ZkPublicInputs) : Prop where
  reserves : 0 ≤ public_inputs.total_reserves.toInt
  supply : 0 ≤ public_inputs.on_chain_supply.toInt
  covered : public_inputs.on_chain_supply.toInt ≤ public_inputs.total_reserves.toInt
  ratio : public_inputs.min_reserve_ratio_bps ≤ reserve_ratio_bps public_inputs

/-- The proof passes under the key. -/
structure Passes (sha256 : Sha256) (proof : ZkProof) (vk : ZkVerificationKey) : Prop where
  nonempty : ¬(proof.pi_a = [] ∨ proof.pi_b = [] ∨ proof.pi_c = [])
  matching : vk.scheme = proof.scheme ∧ vk.curve = proof.curve
  valid : ∀ public_inputs, verify_snark_proof_internal sha256 proof vk public_inputs = true

/-- The record that an accepted call makes. -/
def attestation (env : Env) (operator : Address) (proof : ZkProof) (public_inputs : ZkPublicInputs)
    (attestation_id : BytesN 32) : ZkProofAttestation :=
  { attestation_id, bridge_id := public_inputs.bridge_id, asset_code := public_inputs.asset_code,
    total_reserves := public_inputs.total_reserves, on_chain_supply := public_inputs.on_chain_supply,
    reserve_ratio_bps := reserve_ratio_bps public_inputs, commitment_hash := proof.commitment_hash,
    verified_at := env.timestamp, verified_by := operator, is_valid := true }

/-- An accepted call: the id that it returned, and what it was given. -/
structure Attested where
  id : BytesN 32
  proof : ZkProof
  public_inputs : ZkPublicInputs

/-- The two were given the same bridge, asset, commitment, amounts and time. -/
structure Attested.SameInputs (a b : Attested) : Prop where
  bridge_id : a.public_inputs.bridge_id = b.public_inputs.bridge_id
  asset_code : a.public_inputs.asset_code = b.public_inputs.asset_code
  commitment_hash : a.proof.commitment_hash = b.proof.commitment_hash
  total_reserves : a.public_inputs.total_reserves = b.public_inputs.total_reserves
  on_chain_supply : a.public_inputs.on_chain_supply = b.public_inputs.on_chain_supply
  timestamp : a.public_inputs.timestamp = b.public_inputs.timestamp

/-- The record is that of the call. -/
structure Attested.Recorded (a : Attested) (record : ZkProofAttestation) : Prop where
  attestation_id : record.attestation_id = a.id
  bridge_id : record.bridge_id = a.public_inputs.bridge_id
  asset_code : record.asset_code = a.public_inputs.asset_code
  total_reserves : record.total_reserves = a.public_inputs.total_reserves
  on_chain_supply : record.on_chain_supply = a.public_inputs.on_chain_supply
  commitment_hash : record.commitment_hash = a.proof.commitment_hash
  is_valid : record.is_valid = true

section Calls

variable {sha256 : Sha256} {env : Env} {s s' : ZkStorage} {operator : Address} {proof : ZkProof}
  {public_inputs : ZkPublicInputs} {id : BytesN 32} {u : Unit}

/-! ## One call -/

/-- **When a call is accepted**, and what it does then. -/
theorem verify_zk_reserve_proof_eq_ok :
    verify_zk_reserve_proof sha256 operator proof public_inputs env s = .ok (id, s') ↔
      env.auth operator = true ∧ Covered public_inputs ∧
        (∃ vk, s (.VerificationKey public_inputs.bridge_id) = some vk ∧ Passes sha256 proof vk) ∧
        public_inputs.bridge_id.length ≤ 256 ∧ public_inputs.asset_code.length ≤ 256 ∧
        id = sha256 (payload proof public_inputs) ∧ s (.Attestation id) = none ∧
        s' = Function.update
          (Function.update s (.Attestation id) (some (attestation env operator proof public_inputs id)))
          (.LatestAttestation public_inputs.bridge_id) (some (attestation env operator proof public_inputs id)) := by
  simp only [verify_zk_reserve_proof, bind_eq_ok, HostCalls.require_auth_eq_ok, panic_if_eq_ok, load_eq_ok,
    expect_eq_ok, attempt_eq_ok, str_to_bytes_inner_eq_ok, reads_eq_ok, save_eq_ok, pure_eq_ok, and_assoc,
    exists_and_left, exists_eq_left, exists_const, not_or, not_lt, UInt32.not_lt, not_not, Bool.not_eq_true,
    Bool.not_eq_false, Option.isSome_eq_false_iff, Option.isNone_iff_eq_none]
  constructor
  · rintro ⟨hauth, hreserves, hsupply, hcovered, hratio, ha, hb, hc, vk, hvk, hscheme, hcurve, hvalid, hbridge, hasset,
      hfresh, rfl, rfl⟩
    exact ⟨hauth, ⟨hreserves, hsupply, hcovered, hratio⟩, ⟨vk, hvk, by simp [ha, hb, hc], ⟨hscheme, hcurve⟩,
      fun _ => hvalid⟩, hbridge, hasset, rfl, hfresh, rfl⟩
  · rintro ⟨hauth, hcovered, ⟨vk, hvk, hpasses⟩, hbridge, hasset, rfl, hfresh, rfl⟩
    obtain ⟨ha, hb, hc⟩ : proof.pi_a ≠ [] ∧ proof.pi_b ≠ [] ∧ proof.pi_c ≠ [] := by simpa using hpasses.nonempty
    exact ⟨hauth, hcovered.reserves, hcovered.supply, hcovered.covered, hcovered.ratio, ha, hb, hc, vk, hvk,
      hpasses.matching.1, hpasses.matching.2, hpasses.valid _, hbridge, hasset, hfresh, rfl, rfl⟩

/-- The message is another one than `AlreadyVerified`, or `P` holds. -/
def RefusedOnly (P : Prop) (msg : String) : Prop := msg = ZkVerifierError.AlreadyVerified.text → P

@[simp] theorem refused_only_text {P : Prop} {e : ZkVerifierError} :
    RefusedOnly P e.text ↔ (e = .AlreadyVerified → P) := by
  have htext : e.text = ZkVerifierError.AlreadyVerified.text ↔ e = .AlreadyVerified := by
    cases e <;> decide
  rw [RefusedOnly, htext]

theorem refused_only_of_ne {P : Prop} {msg : String} (h : msg ≠ ZkVerifierError.AlreadyVerified.text) :
    RefusedOnly P msg := fun heq => absurd heq h

@[simp] theorem refused_only_require_auth {P : Prop} {address : Address} :
    FailsOnly (RefusedOnly P) (HostCalls.require_auth address : Zk Unit) env s := by
  simp only [HostCalls.require_auth, fails_only_bind, fails_only_reads, fails_only_panic_if, true_and]
  exact fun _ _ _ _ => refused_only_of_ne (by decide)

@[simp] theorem refused_only_str_to_bytes {P : Prop} {text : SString} :
    FailsOnly (RefusedOnly P) (str_to_bytes text) env s := by
  intro msg h
  simp only [str_to_bytes, attempt, Contract.str_to_bytes_inner] at h
  split at h
  · cases h
  · cases h
    exact refused_only_of_ne (by decide)

/-- A call that says that the attestation exists has found it. -/
theorem stored_of_already_verified
    (h : verify_zk_reserve_proof sha256 operator proof public_inputs env s =
      .error ZkVerifierError.AlreadyVerified.text) :
    (s (.Attestation (sha256 (payload proof public_inputs)))).isSome = true := by
  have hfails : FailsOnly (RefusedOnly ((s (.Attestation (sha256 (payload proof public_inputs)))).isSome = true))
      (verify_zk_reserve_proof sha256 operator proof public_inputs) env s := by
    simp only [verify_zk_reserve_proof, fails_only_bind, fails_only_panic_if, fails_only_load, fails_only_expect,
      fails_only_reads, fails_only_save, fails_only_pure, refused_only_require_auth, refused_only_str_to_bytes,
      refused_only_text, HostCalls.require_auth_eq_ok, panic_if_eq_ok, load_eq_ok, expect_eq_ok, attempt_eq_ok,
      str_to_bytes_inner_eq_ok, and_imp, reduceCtorEq, false_implies, implies_true, and_true, true_and,
      forall_const, forall_eq_apply_imp_iff, forall_eq]
    rintro - - - - - vk - - - bridge_id s₁ - rfl rfl asset_code s₂ - rfl rfl hexists
    exact hexists
  exact hfails _ h rfl

end Calls

/-! ## Runs -/

section Runs

variable {sha256 : Sha256} {env : Env} {s s' : ZkStorage} {call : EntryPoint} {log : List Attested}

variable (sha256) in
/-- What an accepted call attests to. -/
def attested (s : ZkStorage) (t : Env × EntryPoint) : List Attested :=
  match t.2 with
  | .verify_zk_reserve_proof operator proof public_inputs =>
    ((verify_zk_reserve_proof sha256 operator proof public_inputs t.1 s).toOption.map
      fun r => ⟨r.1, proof, public_inputs⟩).toList
  | _ => []

variable (sha256) in
/-- The accepted calls of a run. -/
def attestations (calls : List (Env × EntryPoint)) : List Attested :=
  collect (exec sha256) (attested sha256) empty_storage calls

variable (sha256) in
/-- The storage has the record of each accepted call, under an id of its own, and no other. -/
structure Logged (s : ZkStorage) (log : List Attested) : Prop where
  recorded : ∀ a ∈ log, ∃ record, s (.Attestation a.id) = some record ∧ a.Recorded record
  known : ∀ id, (s (.Attestation id)).isSome = true → ∃ a ∈ log, a.id = id
  hashed : ∀ a ∈ log, a.id = sha256 (payload a.proof a.public_inputs)
  nodup : (log.map Attested.id).Nodup

theorem logged_empty : Logged sha256 empty_storage [] where
  recorded _ ha := absurd ha List.not_mem_nil
  known _ h := by cases h
  hashed _ ha := absurd ha List.not_mem_nil
  nodup := List.nodup_nil

/-- The other entry points leave the attestations alone. -/
theorem Logged.congr (h : Logged sha256 s log) (hsame : ∀ id, s' (.Attestation id) = s (.Attestation id)) :
    Logged sha256 s' log where
  recorded a ha := by
    rw [hsame]
    exact h.recorded a ha
  known id hid := by
    rw [hsame] at hid
    exact h.known id hid
  hashed := h.hashed
  nodup := h.nodup

theorem Logged.attest {operator : Address} {proof : ZkProof} {public_inputs : ZkPublicInputs} {id : BytesN 32}
    (h : Logged sha256 s log)
    (hok : verify_zk_reserve_proof sha256 operator proof public_inputs env s = .ok (id, s')) :
    Logged sha256 s' (log ++ [⟨id, proof, public_inputs⟩]) := by
  obtain ⟨-, -, -, -, -, hid, hfresh, rfl⟩ := verify_zk_reserve_proof_eq_ok.mp hok
  have hnew : ∀ a ∈ log, a.id ≠ id := by
    rintro a ha rfl
    obtain ⟨record, hrecord, -⟩ := h.recorded a ha
    rw [hfresh] at hrecord
    cases hrecord
  constructor
  · intro a ha
    rcases List.mem_append.mp ha with ha | ha
    · obtain ⟨record, hrecord, hmatches⟩ := h.recorded a ha
      refine ⟨record, ?_, hmatches⟩
      rw [Function.update_of_ne (by simp), Function.update_of_ne (by simpa using hnew a ha), hrecord]
    · obtain rfl := List.mem_singleton.mp ha
      refine ⟨attestation env operator proof public_inputs id, ?_, ⟨rfl, rfl, rfl, rfl, rfl, rfl, rfl⟩⟩
      rw [Function.update_of_ne (by simp), Function.update_self]
  · intro id' hid'
    by_cases heq : id' = id
    · exact ⟨_, List.mem_append_right _ (List.mem_singleton_self _), heq.symm⟩
    · rw [Function.update_of_ne (by simp), Function.update_of_ne (by simpa using heq)] at hid'
      obtain ⟨a, ha, hsame⟩ := h.known id' hid'
      exact ⟨a, List.mem_append_left _ ha, hsame⟩
  · intro a ha
    rcases List.mem_append.mp ha with ha | ha
    · exact h.hashed a ha
    · obtain rfl := List.mem_singleton.mp ha
      exact hid
  · rw [List.map_append, List.map_singleton, List.nodup_append]
    refine ⟨h.nodup, List.nodup_singleton id, ?_⟩
    intro id' hid' id'' hid''
    obtain ⟨a, ha, rfl⟩ := List.mem_map.mp hid'
    rw [List.mem_singleton.mp hid'']
    exact hnew a ha

theorem logged_step {t : Env × EntryPoint} (h : Logged sha256 s log) (hok : exec sha256 t.2 t.1 s = .ok ((), s')) :
    Logged sha256 s' (log ++ attested sha256 s t) := by
  obtain ⟨env, call⟩ := t
  cases call with
  | initialize_zk_verifier =>
      rw [attested, List.append_nil]
      simp only [exec, initialize_zk_verifier, bind_eq_ok, load_eq_ok, panic_if_eq_ok, HostCalls.require_auth_eq_ok,
        save_eq_ok, and_assoc, exists_and_left, exists_eq_left, exists_const] at hok
      obtain ⟨-, -, rfl⟩ := hok
      exact h.congr fun id => Function.update_of_ne (by simp) ..
  | register_verification_key =>
      rw [attested, List.append_nil]
      simp only [exec, register_verification_key, bind_eq_ok, load_eq_ok, panic_if_eq_ok, expect_eq_ok,
        HostCalls.require_auth_eq_ok, save_eq_ok, and_assoc, exists_and_left, exists_eq_left, exists_const] at hok
      obtain ⟨-, -, -, -, -, rfl⟩ := hok
      exact h.congr fun id => Function.update_of_ne (by simp) ..
  | verify_zk_reserve_proof =>
      simp only [exec, bind_eq_ok, pure_eq_ok, true_and] at hok
      obtain ⟨id, _, hverify, rfl⟩ := hok
      simp only [attested, hverify, Except.toOption, Option.map_some, Option.toList_some]
      exact h.attest hverify

theorem logged_run (calls : List (Env × EntryPoint)) :
    Logged sha256 (run sha256 empty_storage calls) (attestations sha256 calls) :=
  run_collect_invariant (C := fun _ _ => True) (fun hs _ hok => logged_step hs hok) logged_empty
    (Along.of_forall fun _ _ _ => trivial)

/-! ## Reading the payload back -/

/-- Everything but the border between the bridge and the asset can be read back from the bytes that are hashed. -/
theorem payload_inj {proof proof' : ZkProof} {public_inputs public_inputs' : ZkPublicInputs}
    (h : payload proof public_inputs = payload proof' public_inputs') :
    public_inputs.bridge_id ++ public_inputs.asset_code = public_inputs'.bridge_id ++ public_inputs'.asset_code ∧
      proof.commitment_hash = proof'.commitment_hash ∧
      public_inputs.total_reserves = public_inputs'.total_reserves ∧
      public_inputs.on_chain_supply = public_inputs'.on_chain_supply ∧
      public_inputs.timestamp = public_inputs'.timestamp := by
  obtain ⟨h, htimestamp⟩ := List.append_inj' h (by simp)
  obtain ⟨h, hsupply⟩ := List.append_inj' h (by simp)
  obtain ⟨h, hreserves⟩ := List.append_inj' h (by simp)
  obtain ⟨hids, hcommitment⟩ := List.append_inj' h (by simp)
  exact ⟨hids, BytesN.toList_inj.mp hcommitment, BitVec.toNat_inj.mp (be_inj (BitVec.isLt _) (BitVec.isLt _) hreserves),
    BitVec.toNat_inj.mp (be_inj (BitVec.isLt _) (BitVec.isLt _) hsupply),
    UInt64.toNat_inj.mp (be_inj (UInt64.toNat_lt _) (UInt64.toNat_lt _) htimestamp)⟩

theorem Attested.SameInputs.payload_eq {a b : Attested} (h : a.SameInputs b) :
    payload a.proof a.public_inputs = payload b.proof b.public_inputs := by
  simp only [payload, attestation_payload, h.bridge_id, h.asset_code, h.commitment_hash, h.total_reserves,
    h.on_chain_supply, h.timestamp]

/-- **What an attestation is bound to.** No two accepted calls return the same id or are given the same inputs. A call
that is refused because the attestation exists repeats the strings, the commitment, the amounts and the time of one
that is stored. And a proof that has been accepted is accepted again with any inputs of the same bridge that are in
order and not attested to. -/
theorem attestations_bound (calls : List (Env × EntryPoint)) :
    (attestations sha256 calls).Pairwise (fun a b => a.id ≠ b.id ∧ ¬a.SameInputs b) ∧
    (∀ env operator proof public_inputs,
      sha256.CollisionFree (payload proof public_inputs ::
        (attestations sha256 calls).map fun a => payload a.proof a.public_inputs) →
      verify_zk_reserve_proof sha256 operator proof public_inputs env (run sha256 empty_storage calls) =
        .error ZkVerifierError.AlreadyVerified.text →
      ∃ a ∈ attestations sha256 calls,
        (∃ record, run sha256 empty_storage calls (.Attestation a.id) = some record ∧ a.Recorded record) ∧
        a.public_inputs.bridge_id ++ a.public_inputs.asset_code =
          public_inputs.bridge_id ++ public_inputs.asset_code ∧
        a.proof.commitment_hash = proof.commitment_hash ∧
        a.public_inputs.total_reserves = public_inputs.total_reserves ∧
        a.public_inputs.on_chain_supply = public_inputs.on_chain_supply ∧
        a.public_inputs.timestamp = public_inputs.timestamp) ∧
    ∀ env operator proof public_inputs public_inputs' id s s',
      verify_zk_reserve_proof sha256 operator proof public_inputs env s = .ok (id, s') →
      public_inputs'.bridge_id = public_inputs.bridge_id → public_inputs'.asset_code.length ≤ 256 →
      Covered public_inputs' → s (.Attestation (sha256 (payload proof public_inputs'))) = none →
      ∃ s'', verify_zk_reserve_proof sha256 operator proof public_inputs' env s =
        .ok (sha256 (payload proof public_inputs'), s'') := by
  have hlogged : Logged sha256 _ _ := logged_run calls
  refine ⟨?_, ?_, ?_⟩
  · refine (List.pairwise_map.mp hlogged.nodup).imp_of_mem ?_
    intro a b ha hb hne
    refine ⟨hne, fun hsame => hne ?_⟩
    rw [hlogged.hashed a ha, hlogged.hashed b hb, hsame.payload_eq]
  · intro env operator proof public_inputs hcf h
    obtain ⟨a, ha, hid⟩ := hlogged.known _ (stored_of_already_verified h)
    rw [hlogged.hashed a ha] at hid
    have hpayload := hcf (List.mem_cons_of_mem _ (List.mem_map_of_mem ha)) List.mem_cons_self hid
    exact ⟨a, ha, hlogged.recorded a ha, payload_inj hpayload⟩
  · intro env operator proof public_inputs public_inputs' id s s' h hbridge hasset hcovered hfresh
    obtain ⟨hauth, -, hkey, hlength, -⟩ := verify_zk_reserve_proof_eq_ok.mp h
    rw [← hbridge] at hkey hlength
    exact ⟨_, verify_zk_reserve_proof_eq_ok.mpr ⟨hauth, hcovered, hkey, hlength, hasset, rfl, hfresh, rfl⟩⟩

/-! ## One proof for several inputs -/

/-- The message of a call that fails. -/
def failure {α : Type} : Except String α → Option String
  | .ok _ => none
  | .error msg => some msg

theorem error_of_failure {α : Type} {r : Except String α} {msg : String} (h : failure r = some msg) :
    r = .error msg := by
  cases r with
  | ok => cases h
  | error => rw [Option.some.inj h]

/-- An account. -/
def party (n : UInt8) : Address := .account (Vector.replicate 32 n)

/-- A time at which every address has authorised its call. -/
def signed_at (timestamp : U64) : Env := { timestamp, auth := fun _ => true }

def short_proof : ZkProof := ⟨.Groth16, .Bn254, [1], [2], [3], Vector.replicate 32 7⟩

def short_key : ZkVerificationKey := ⟨.Groth16, .Bn254, [1], [2], [3], [4], [], zero32⟩

def inputs (bridge_id asset_code : SString) (total_reserves : I128) : ZkPublicInputs :=
  { total_reserves, on_chain_supply := 5, min_reserve_ratio_bps := 10000, timestamp := 9, bridge_id, asset_code }

def attest (bridge_id asset_code : SString) (total_reserves : I128) : EntryPoint :=
  .verify_zk_reserve_proof (party 2) short_proof (inputs bridge_id asset_code total_reserves)

/-- Two bridges have keys, and one proof attests to two amounts of the first. -/
def reuse_run : List (Env × EntryPoint) :=
  [(signed_at 1, .initialize_zk_verifier (party 1)),
    (signed_at 2, .register_verification_key (party 1) (str "ab") short_key),
    (signed_at 3, .register_verification_key (party 1) (str "a") short_key),
    (signed_at 4, attest (str "ab") (str "c") 10), (signed_at 5, attest (str "ab") (str "c") 20)]

theorem reuse_run_attested : (attestations Fips.sha256 reuse_run).map (fun a => (a.proof, a.public_inputs)) =
    [(short_proof, inputs (str "ab") (str "c") 10), (short_proof, inputs (str "ab") (str "c") 20)] := by
  decide +kernel

theorem reuse_run_collision_free {bridge_id asset_code : SString} (h : bridge_id ++ asset_code = str "abc") :
    Fips.sha256.CollisionFree (payload short_proof (inputs bridge_id asset_code 10) ::
      (attestations Fips.sha256 reuse_run).map fun a => payload a.proof a.public_inputs) := by
  have hpayload : payload short_proof (inputs bridge_id asset_code 10) =
      payload short_proof (inputs (str "ab") (str "c") 10) := by
    simp only [payload, attestation_payload, inputs, h]
    rfl
  rw [hpayload]
  decide +kernel

/-- The first call is refused the second time, and its attestation is stored. -/
theorem repeated_refused : ∃ a ∈ attestations Fips.sha256 reuse_run,
    ∃ record, run Fips.sha256 empty_storage reuse_run (.Attestation a.id) = some record ∧ a.Recorded record := by
  have hrefused : failure (verify_zk_reserve_proof Fips.sha256 (party 2) short_proof (inputs (str "ab") (str "c") 10)
      (signed_at 6) (run Fips.sha256 empty_storage reuse_run)) = some ZkVerifierError.AlreadyVerified.text := by
    decide +kernel
  obtain ⟨a, ha, hrecord, -⟩ := (attestations_bound reuse_run).2.1 _ _ _ _ (reuse_run_collision_free rfl)
    (error_of_failure hrefused)
  exact ⟨a, ha, hrecord⟩

/-- One proof is accepted with two amounts, and another bridge is refused for an attestation that it has not. -/
theorem proof_not_bound :
    (attestations Fips.sha256 reuse_run).map (fun a => (a.proof, a.public_inputs)) =
      [(short_proof, inputs (str "ab") (str "c") 10), (short_proof, inputs (str "ab") (str "c") 20)] ∧
    inputs (str "ab") (str "c") 10 ≠ inputs (str "ab") (str "c") 20 ∧
    Fips.sha256.CollisionFree (payload short_proof (inputs (str "a") (str "bc") 10) ::
      (attestations Fips.sha256 reuse_run).map fun a => payload a.proof a.public_inputs) ∧
    verify_zk_reserve_proof Fips.sha256 (party 2) short_proof (inputs (str "a") (str "bc") 10) (signed_at 6)
      (run Fips.sha256 empty_storage reuse_run) = .error ZkVerifierError.AlreadyVerified.text ∧
    ∀ a ∈ attestations Fips.sha256 reuse_run, a.public_inputs.bridge_id ≠ str "a" := by
  have hrefused : failure (verify_zk_reserve_proof Fips.sha256 (party 2) short_proof (inputs (str "a") (str "bc") 10)
      (signed_at 6) (run Fips.sha256 empty_storage reuse_run)) = some ZkVerifierError.AlreadyVerified.text := by
    decide +kernel
  refine ⟨reuse_run_attested, by decide, reuse_run_collision_free rfl, error_of_failure hrefused, ?_⟩
  intro a ha
  have hmem := List.mem_map_of_mem (f := fun a => (a.proof, a.public_inputs)) ha
  rw [reuse_run_attested] at hmem
  simp only [List.mem_cons, Prod.mk.injEq, List.not_mem_nil, or_false] at hmem
  rcases hmem with ⟨-, heq⟩ | ⟨-, heq⟩ <;> rw [heq] <;> decide

end Runs

end BridgeWatch.ZkVerifier

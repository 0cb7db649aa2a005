/-
What a reserve proof proves.

The verifier of proofs keeps neither how deep the tree under a commitment is nor what its leaves are hashed from, and
the position in a proof may have more bits than the proof has steps. So a proof may begin on any level, at any position
that agrees in the low bits, and below a leaf too if that is the hash of two values. Nothing else is accepted.
-/
import BridgeWatch.Fips
import BridgeWatch.PairLevels
import BridgeWatch.ReserveVerifier

set_option autoImplicit false

namespace BridgeWatch.ReserveVerifier

open Transaction PairLevels
open Contract (U32 U64 SString Address str)

section Hashes

variable (sha256 : Sha256)

/-- What is hashed for a pair. -/
def pair_message (p : BytesN 32 × BytesN 32) : Buffer := p.1.toList ++ p.2.toList

/-- The hash of a pair. -/
def hash_pair (left right : BytesN 32) : BytesN 32 := sha256 (pair_message (left, right))

/-- What is hashed for the tree over some leaves. -/
def tree_inputs (leaves : List (BytesN 32)) (d : ℕ) : List Buffer :=
  (levelInputs (hash_pair sha256) leaves d).map pair_message

/-- What is hashed for a proof. -/
def proof_inputs (proof : MerkleProof) : List Buffer :=
  (walkInputs (hash_pair sha256) proof.leaf_hash proof.leaf_index.toNat proof.proof_path).map pair_message

/-- The proof begins on a level of the tree; or below a leaf, when it is longer than the tree is high. -/
structure Opened (leaves : List (BytesN 32)) (d : ℕ) (proof : MerkleProof) : Prop where
  inside : proof.proof_path.length ≤ d →
    (level (hash_pair sha256) leaves (d - proof.proof_path.length))[
      proof.leaf_index.toNat % 2 ^ proof.proof_path.length]? = some proof.leaf_hash
  below : d ≤ proof.proof_path.length →
    leaves[proof.leaf_index.toNat / 2 ^ (proof.proof_path.length - d) % 2 ^ d]? =
      some (walk (hash_pair sha256) proof.leaf_hash proof.leaf_index.toNat
        (proof.proof_path.take (proof.proof_path.length - d)))

variable {sha256}

theorem pair_message_inj : Function.Injective pair_message := by
  rintro ⟨a, b⟩ ⟨a', b'⟩ h
  obtain ⟨rfl, rfl⟩ := BytesN.append_inj h
  rfl

theorem proof_step_eq {x sibling : BytesN 32} {i : U64} :
    proof_step sha256 (x, i) sibling =
      (Function.uncurry (hash_pair sha256) (children x i.toNat sibling), i / 2) := by
  have hparity : i % 2 = 0 ↔ i.toNat % 2 = 0 := by
    rw [← UInt64.toNat_inj, UInt64.toNat_mod]
    rfl
  unfold proof_step children
  by_cases h : i.toNat % 2 = 0
  · rw [if_pos h, if_pos (hparity.mpr h)]
    rfl
  · rw [if_neg h, if_neg fun hzero => h (hparity.mp hzero)]
    rfl

/-- The verifier walks. -/
theorem fold_eq_walk {proof_path : List (BytesN 32)} {x : BytesN 32} {i : U64} :
    (proof_path.foldl (proof_step sha256) (x, i)).1 = walk (hash_pair sha256) x i.toNat proof_path := by
  induction proof_path generalizing x i with
  | nil => rfl
  | cons _ _ ih =>
      have hhalf : (i / 2).toNat = i.toNat / 2 := UInt64.toNat_div ..
      rw [List.foldl_cons, proof_step_eq, ih, hhalf, walk]

theorem walk_of_proves {commitment : ReserveCommitment} {proof : MerkleProof}
    (h : proves sha256 commitment proof = true) :
    walk (hash_pair sha256) proof.leaf_hash proof.leaf_index.toNat proof.proof_path = commitment.merkle_root := by
  rw [← fold_eq_walk]
  exact eq_of_beq h

/-- The pairs that are hashed have hashes of their own. -/
theorem pair_injOn {ps qs : List (BytesN 32 × BytesN 32)}
    (hcf : sha256.CollisionFree (ps.map pair_message ++ qs.map pair_message)) :
    Set.InjOn (Function.uncurry (hash_pair sha256)) {p | p ∈ ps ++ qs} := by
  intro p hp q hq h
  have hmem : ∀ r ∈ ps ++ qs, pair_message r ∈ ps.map pair_message ++ qs.map pair_message := fun r hr => by
    rw [← List.map_append]
    exact List.mem_map_of_mem hr
  exact pair_message_inj (hcf (hmem p hp) (hmem q hq) h)

theorem opened_of_proves {leaves : List (BytesN 32)} {d : ℕ} {commitment : ReserveCommitment} {proof : MerkleProof}
    (hlen : leaves.length = 2 ^ d) (hroot : level (hash_pair sha256) leaves d = [commitment.merkle_root])
    (hcf : sha256.CollisionFree (tree_inputs sha256 leaves d ++ proof_inputs sha256 proof))
    (h : proves sha256 commitment proof = true) : Opened sha256 leaves d proof := by
  have hwalk := walk_of_proves h
  have hinj := pair_injOn hcf
  have hlevels : ∀ p ∈ levelInputs (hash_pair sha256) leaves d, p ∈ {p | p ∈ levelInputs (hash_pair sha256) leaves d ++
      walkInputs (hash_pair sha256) proof.leaf_hash proof.leaf_index.toNat proof.proof_path} :=
    fun p hp => List.mem_append_left _ hp
  constructor
  · intro hle
    exact level_of_walk hinj hlen hroot hlevels (by omega) (fun p hp => List.mem_append_right _ hp) hwalk
  · intro hle
    -- The steps above the leaf are a walk of the tree's height.
    set n := proof.proof_path.length - d with hn
    have htake : (proof.proof_path.take n).length = n := by
      rw [List.length_take]
      omega
    have hdrop : (proof.proof_path.drop n).length = d := by
      rw [List.length_drop]
      omega
    have hinputs : ∀ p ∈ walkInputs (hash_pair sha256) (walk (hash_pair sha256) proof.leaf_hash proof.leaf_index.toNat
        (proof.proof_path.take n)) (proof.leaf_index.toNat / 2 ^ n) (proof.proof_path.drop n),
        p ∈ walkInputs (hash_pair sha256) proof.leaf_hash proof.leaf_index.toNat proof.proof_path := by
      intro p hp
      rw [← List.take_append_drop n proof.proof_path, walkInputs_append, htake]
      exact List.mem_append_right _ hp
    rw [← List.take_append_drop n proof.proof_path, walk_append, htake] at hwalk
    have hlevel := level_of_walk hinj hlen hroot hlevels (j := 0) (by omega)
      (fun p hp => List.mem_append_right _ (hinputs p hp)) hwalk
    rwa [hdrop] at hlevel

end Hashes

section Calls

variable {sha256 : Sha256} {bridge_id : SString} {sequence : U64} {env : Ledger} {s s' : VerifierStorage}
  {commitment : ReserveCommitment}

theorem proves_of_verify_proof {proof : MerkleProof} {valid : Bool}
    (hcommitted : s (.ReserveCommitment bridge_id sequence) = some commitment)
    (h : verify_proof sha256 bridge_id sequence proof env s = .ok (valid, s')) :
    proves sha256 commitment proof = valid := by
  simp only [verify_proof, bind_eq_ok, load_eq_ok, expect_eq_ok, pure_eq_ok, and_assoc, exists_and_left,
    exists_eq_left] at h
  obtain ⟨c, hc, _, _, -, hvalid, -⟩ := h
  rw [hcommitted, Option.some.injEq] at hc
  rw [hvalid, hc]

theorem proves_of_batch_verify_proofs {proofs : List MerkleProof} {results : List Bool}
    (hcommitted : s (.ReserveCommitment bridge_id sequence) = some commitment)
    (h : batch_verify_proofs sha256 bridge_id sequence proofs env s = .ok (results, s')) :
    results = proofs.map (proves sha256 commitment) := by
  simp only [batch_verify_proofs, bind_eq_ok, load_eq_ok, expect_eq_ok, pure_eq_ok, and_assoc, exists_and_left,
    exists_eq_left] at h
  obtain ⟨c, hc, hresults, -⟩ := h
  rw [hcommitted, Option.some.injEq] at hc
  rw [hresults, hc]

/-- **Reserve proofs are sound up to the level that they begin on.** -/
theorem reserve_proofs_sound {leaves : List (BytesN 32)} {d : ℕ} (hlen : leaves.length = 2 ^ d)
    (hcommitted : s (.ReserveCommitment bridge_id sequence) = some commitment)
    (hroot : level (hash_pair sha256) leaves d = [commitment.merkle_root]) :
    (∀ proof env s', sha256.CollisionFree (tree_inputs sha256 leaves d ++ proof_inputs sha256 proof) →
      verify_proof sha256 bridge_id sequence proof env s = .ok (true, s') → Opened sha256 leaves d proof) ∧
    (∀ proofs results env s' (i : ℕ) proof,
      sha256.CollisionFree (tree_inputs sha256 leaves d ++ proof_inputs sha256 proof) →
      batch_verify_proofs sha256 bridge_id sequence proofs env s = .ok (results, s') → proofs[i]? = some proof →
      results[i]? = some true → Opened sha256 leaves d proof) := by
  refine ⟨fun proof env s' hcf h => ?_, fun proofs results env s' i proof hcf h hi htrue => ?_⟩
  · exact opened_of_proves hlen hroot hcf (proves_of_verify_proof hcommitted h)
  · rw [proves_of_batch_verify_proofs hcommitted h, List.getElem?_map, hi, Option.map_some, Option.some.injEq] at htrue
    exact opened_of_proves hlen hroot hcf htrue

/-! ## Proofs of two leaves -/

def leaf (n : UInt8) : BytesN 32 := Vector.replicate 32 n

/-- The root above two leaves. -/
def two_leaf_root : BytesN 32 := hash_pair Fips.sha256 (leaf 1) (leaf 2)

/-- The operator of a bridge has committed the root of two leaves. -/
def two_leaf_run : List (Ledger × EntryPoint) :=
  [(ledger_at 1, .initialize_verifier (party 1) 100 500 1000),
    (ledger_at 2, .register_bridge (str "eth") (party 2) 5000),
    (ledger_at 3, .commit_reserves (str "eth") two_leaf_root 10)]

/-- The storage after that. -/
def two_leaf_storage : VerifierStorage := run Fips.sha256 empty_storage two_leaf_run

theorem two_leaf_committed : ∃ c, two_leaf_storage (.ReserveCommitment (str "eth") 1) = some c ∧
    level (hash_pair Fips.sha256) [leaf 1, leaf 2] 1 = [c.merkle_root] := by
  have hroot : (two_leaf_storage (.ReserveCommitment (str "eth") 1)).map ReserveCommitment.merkle_root =
      some two_leaf_root := by decide +kernel
  obtain ⟨c, hc, hmerkle⟩ := Option.map_eq_some_iff.mp hroot
  exact ⟨c, hc, by rw [hmerkle]; rfl⟩

/-- The proof of the second leaf. -/
theorem second_leaf_opened : Opened Fips.sha256 [leaf 1, leaf 2] 1 ⟨leaf 2, [leaf 1], 1⟩ := by
  obtain ⟨c, hc, hroot⟩ := two_leaf_committed
  have hverify : returned (verify_proof Fips.sha256 (str "eth") 1 ⟨leaf 2, [leaf 1], 1⟩ (ledger_at 4)
      two_leaf_storage) = some true := by decide +kernel
  obtain ⟨s', hs'⟩ := exists_of_returned hverify
  exact (reserve_proofs_sound (d := 1) rfl hc hroot).1 _ _ _ (by decide +kernel) hs'

/-- The root itself is accepted as a leaf, under a proof that has no steps, and at any position. -/
theorem root_accepted :
    (∃ c, two_leaf_storage (.ReserveCommitment (str "eth") 1) = some c ∧
      level (hash_pair Fips.sha256) [leaf 1, leaf 2] 1 = [c.merkle_root]) ∧
    Fips.sha256.CollisionFree (tree_inputs Fips.sha256 [leaf 1, leaf 2] 1 ++
      proof_inputs Fips.sha256 ⟨two_leaf_root, [], 7⟩) ∧
    returned (verify_proof Fips.sha256 (str "eth") 1 ⟨two_leaf_root, [], 7⟩ (ledger_at 4) two_leaf_storage) =
      some true ∧
    ([] : List (BytesN 32)).length ≠ 1 ∧ ¬(7 : U64).toNat < 2 ^ 1 ∧ two_leaf_root ∉ [leaf 1, leaf 2] :=
  ⟨two_leaf_committed, by decide +kernel, by decide +kernel, by decide, by decide, by decide +kernel⟩

end Calls

end BridgeWatch.ReserveVerifier

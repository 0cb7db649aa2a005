/-
What the transparency log's proofs prove.

Inclusion and consistency proofs are complete, for every tree of up to `2 ^ 30`
leaves and without any assumption on the hash, and they are sound when
`hashChildren` has no collision among the pairs that are hashed to build the
tree and to check the proof. Both soundness results are about arbitrary proofs.

The verifiers see sizes only. What ties them to the tree is
`SplitTree.opens_siblings`, the path of a block in the tree, and that its sides
are the ones that the verifiers read off the sizes; the rest is
`Opens.of_climb_eq`, `Opens.climb_eq` and `Opens.climbRight_eq`. Leaves and inner
nodes need not be told apart: a verifier that knows the size knows how far down a
leaf is.
-/
import BridgeWatch.Merkle
import BridgeWatch.Fips

set_option autoImplicit false

namespace BridgeWatch.Merkle

open BridgeWatch HashPath

variable {sha256 : Sha256}

/-- `hashChildren` has no collision among the pairs listed. -/
def ChildrenInjective (sha256 : Sha256) (ps : List (Buffer × Buffer)) : Prop :=
  Set.InjOn (Function.uncurry (hashChildren sha256)) {p | p ∈ ps}

instance (sha256 : Sha256) (ps : List (Buffer × Buffer)) :
    Decidable (ChildrenInjective sha256 ps) :=
  decidable_of_iff
    (∀ x ∈ ps, ∀ y ∈ ps, hashChildren sha256 x.1 x.2 = hashChildren sha256 y.1 y.2 → x = y)
    ⟨fun h _ hx _ hy => h _ hx _ hy, fun h _ hx _ hy => h hx hy⟩

/-- The pairs hashed to make the root over digests. -/
def rootInputs (sha256 : Sha256) (hs : List Buffer) : List (Buffer × Buffer) :=
  SplitTree.nodeInputs (hashChildren sha256) (sha256 []).toList hs

/-- The pairs that the inclusion verifier hashes. -/
def inclusionInputs (sha256 : Sha256) (leafHash : HashArg) (index treeSize : ℕ)
    (proof : List HashArg) : List (Buffer × Buffer) :=
  climbInputs (hashChildren sha256) (toBuf leafHash) (SplitTree.sides 0 (index + 1) treeSize)
    (proof.map toBuf)

/-- The pairs that the consistency verifier hashes to make the new root. -/
def consistencyInputs (sha256 : Sha256) (m n : ℕ) (proof : List HashArg) (rootM : HashArg) :
    List (Buffer × Buffer) :=
  if m = 2 ^ trailingZeros m then
    climbInputs (hashChildren sha256) (toBuf rootM) (SplitTree.sides (trailingZeros m) m n)
      (proof.map toBuf)
  else
    climbInputs (hashChildren sha256) ((proof.map toBuf).headD [])
      (SplitTree.sides (trailingZeros m) m n) (proof.map toBuf).tail

/-! ## Paths in the log's tree -/

/-- The path of the last block of the first `m` leaves. -/
theorem opens_path (sha256 : Sha256) {hs : List Buffer} {n s m : ℕ} (hn : hs.length = n) (hdvd : 2 ^ s ∣ m)
    (hpos : 0 < m) (hle : m ≤ n) :
    SplitTree.Opens (hashChildren sha256) (sha256 []).toList hs m (SplitTree.sides s m n)
      (siblings sha256 s m hs) (SplitTree.block s m hs) := by
  subst hn
  exact SplitTree.opens_siblings _ _ _ rfl hdvd hpos hle

/-- The path of a leaf. -/
theorem opens_leaf (sha256 : Sha256) {hs : List Buffer} {n i : ℕ} (hn : hs.length = n) {h : Buffer}
    (hi : hs[i]? = some h) :
    SplitTree.Opens (hashChildren sha256) (sha256 []).toList hs (i + 1)
      (SplitTree.sides 0 (i + 1) n) (siblings sha256 0 (i + 1) hs) [h] := by
  obtain ⟨hlt, rfl⟩ := List.getElem?_eq_some_iff.mp hi
  rw [← SplitTree.block_zero hlt]
  exact opens_path sha256 hn (one_dvd _) (Nat.succ_pos i) (hn ▸ hlt)

theorem toBuf_string_toHex (path : List Buffer) :
    ((path.map toHex).map HashArg.string).map toBuf = path := by
  rw [List.map_map, List.map_map]
  exact List.map_id'' (fun b => fromHex_toHex b) path

/-! ## Inclusion -/

/-- **Inclusion is sound.** A proof that verifies against the root over `hs`
names a leaf hash of the list at its own index. -/
theorem verifyInclusionProof_sound {hs : List HashArg} (hmax : hs.length ≤ 2 ^ 30) :
    ∃ r, rootFromLeafHashes sha256 hs = .ok r ∧
      ∀ (leafHash : HashArg) (i : ℕ) (proof : List HashArg),
        ChildrenInjective sha256 (rootInputs sha256 (hs.map toBuf) ++
          inclusionInputs sha256 leafHash i hs.length proof) →
        verifyInclusionProof sha256 leafHash i hs.length proof (.buffer r) = true →
        ∃ h, hs[i]? = some h ∧ toBuf leafHash = toBuf h := by
  refine ⟨_, rootFromLeafHashes_eq hmax, fun leafHash i proof hinj hv => ?_⟩
  rcases Nat.lt_or_ge i hs.length with hi | hge
  · have hget : (hs.map toBuf)[i]? = some (toBuf hs[i]) := by
      rw [List.getElem?_map, List.getElem?_eq_getElem hi]
      rfl
    obtain ⟨hlen, hclimb⟩ := (verifyInclusionProof_iff hi hmax).mp hv
    obtain ⟨hleaf, -⟩ := (opens_leaf sha256 (List.length_map _) hget).of_climb_eq hinj
      (fun p hp => List.mem_append_left _ hp) _ _ (by rw [List.length_map, hlen])
      (fun p hp => List.mem_append_right _ hp) hclimb
    refine ⟨hs[i], List.getElem?_eq_getElem hi, ?_⟩
    rw [hleaf, SplitTree.mth_singleton]
  · rw [verifyInclusionProof_of_le hge] at hv
    exact absurd hv (by simp)

/-- Three leaf hashes, in both forms that a hash can take. -/
def sampleHashes : List HashArg :=
  [.buffer (List.replicate 32 1), .string (toHex (List.replicate 32 2)),
    .buffer (List.replicate 32 3)]

theorem verifyInclusionProof_sound_three :
    ∃ r h, rootFromLeafHashes Fips.sha256 sampleHashes = .ok r ∧
      verifyInclusionProof Fips.sha256 (.buffer (List.replicate 32 2)) 1 3
        [.buffer (List.replicate 32 1), .buffer (List.replicate 32 3)] (.buffer r) = true ∧
      sampleHashes[1]? = some h ∧ List.replicate 32 2 = toBuf h := by
  obtain ⟨r, hr, hsound⟩ := @verifyInclusionProof_sound Fips.sha256 sampleHashes (by decide)
  have hv : ((rootFromLeafHashes Fips.sha256 sampleHashes).toOption.any fun r =>
      verifyInclusionProof Fips.sha256 (.buffer (List.replicate 32 2)) 1 3
        [.buffer (List.replicate 32 1), .buffer (List.replicate 32 3)] (.buffer r)) = true := by
    decide +kernel
  rw [hr, Except.toOption, Option.any_some] at hv
  obtain ⟨h, hget, heq⟩ := hsound _ 1 _ (by decide +kernel) hv
  exact ⟨r, h, hr, hv, hget, heq⟩

/-- **Inclusion is complete.** The proof made for a leaf verifies, and it is as
long as the verifier's decomposition of the index says. -/
theorem verifyInclusionProof_complete {leaves : List Buffer} {i : ℕ} (hi : i < leaves.length)
    (hmax : leaves.length ≤ 2 ^ 30) :
    ∃ proof r, inclusionProof sha256 i leaves = .ok proof ∧
      merkleTreeHash sha256 leaves = .ok r ∧
      verifyInclusionProof sha256 (.buffer (hashLeaf sha256 leaves[i])) i leaves.length
        (proof.map .string) (.buffer r) = true ∧
      ∃ inner border, decompose i leaves.length = (some inner, border) ∧
        proof.length = inner + border := by
  have hget : (leaves.map (hashLeaf sha256))[i]? = some (hashLeaf sha256 leaves[i]) := by
    rw [List.getElem?_map, List.getElem?_eq_getElem hi]
    rfl
  have ho := opens_leaf sha256 (List.length_map _) hget
  have hsides := SplitTree.sides_eq (s := 0) leaves.length (one_dvd (i + 1)) (Nat.succ_pos i) hi
    (Or.inr rfl)
  refine ⟨_, _, inclusionPath_eq (fun ls h => merkleTreeHash_eq h) _ i leaves (Nat.lt_succ_self _)
    hmax hi, merkleTreeHash_eq hmax, ?_, _, _, decompose_eq hi hmax, ?_⟩
  · rw [verifyInclusionProof_iff hi hmax, toBuf_string_toHex]
    refine ⟨by rw [List.length_map, List.length_map, ho.length_eq], ?_⟩
    have hclimb := ho.climb_eq
    rw [SplitTree.mth_singleton] at hclimb
    exact hclimb
  · rw [List.length_map, ← ho.length_eq, hsides, List.length_append, PTree.length_bits,
      List.length_replicate]
    simp

theorem verifyInclusionProof_complete_last :
    ∃ proof r, inclusionProof Fips.sha256 2 [[1], [2, 2], [3]] = .ok proof ∧
      merkleTreeHash Fips.sha256 [[1], [2, 2], [3]] = .ok r ∧
      verifyInclusionProof Fips.sha256 (.buffer (hashLeaf Fips.sha256 [3])) 2 3
        (proof.map .string) (.buffer r) = true ∧
      ∃ inner border, decompose 2 3 = (some inner, border) ∧ proof.length = inner + border := by
  have hi : 2 < [[1], [2, 2], [(3 : UInt8)]].length := by decide
  exact verifyInclusionProof_complete hi (by decide)

/-! ## Consistency -/

/-- **Consistency is sound.** A proof that verifies against the root over `hs`
gives the old root over the first `m` of them. -/
theorem verifyConsistencyProof_sound {hs : List HashArg} {m : ℕ} (hpos : 0 < m)
    (hle : m ≤ hs.length) (hmax : hs.length ≤ 2 ^ 30) :
    ∃ r rM, rootFromLeafHashes sha256 hs = .ok r ∧
      rootFromLeafHashes sha256 (hs.take m) = .ok rM ∧
      ∀ (proof : List HashArg) (rootM : HashArg),
        ChildrenInjective sha256 (rootInputs sha256 (hs.map toBuf) ++
          consistencyInputs sha256 m hs.length proof rootM) →
        verifyConsistencyProof sha256 m hs.length proof rootM (.buffer r) = true →
        toBuf rootM = rM := by
  have htake : (hs.take m).length ≤ 2 ^ 30 := by rw [List.length_take]; omega
  refine ⟨_, _, rootFromLeafHashes_eq hmax, rootFromLeafHashes_eq htake,
    fun proof rootM hinj hv => ?_⟩
  rw [List.map_take]
  rcases Nat.eq_or_lt_of_le hle with rfl | hlt
  · -- equal sizes: the verifier compares the two roots
    unfold verifyConsistencyProof at hv
    simp only [Nat.lt_irrefl, if_false, if_true, Bool.and_eq_true, beq_iff_eq] at hv
    rw [List.take_of_length_le (by rw [List.length_map])]
    exact hv.2
  have hlen : (hs.map toBuf).length = hs.length := List.length_map _
  have hne : hs.map toBuf ≠ [] := List.ne_nil_of_length_pos (by omega)
  have ho := opens_path sha256 hlen (trailingZeros_spec hpos).1 hpos hle
  -- the new root pins the seed and the siblings, which then make the old root
  have hfolds : ∀ (seed : Buffer) (rest : List Buffer),
      (∀ p ∈ climbInputs (hashChildren sha256) seed
          (SplitTree.sides (trailingZeros m) m hs.length) rest,
        p ∈ consistencyInputs sha256 m hs.length proof rootM) →
      Folds sha256 m hs.length seed rest (toBuf rootM) (root sha256 (hs.map toBuf)) →
      toBuf rootM = root sha256 ((hs.map toBuf).take m) := by
    rintro seed rest hin ⟨hlen', hold, hnew⟩
    obtain ⟨rfl, rfl⟩ := ho.of_climb_eq hinj (fun p hp => List.mem_append_left _ hp) _ _ hlen'
      (fun p hp => List.mem_append_right _ (hin p hp)) hnew
    rw [← hold]
    exact ho.climbRight_eq hne
  rw [verifyConsistencyProof_iff hpos hlt hmax] at hv
  rw [consistencyInputs] at hfolds
  split_ifs at hv hfolds
  · exact hfolds _ _ (fun p hp => hp) hv
  · obtain ⟨seed, rest, heq, hf⟩ := hv
    rw [heq] at hfolds
    exact hfolds _ _ (fun p hp => hp) hf

theorem verifyConsistencyProof_sound_three :
    ∃ r rM, rootFromLeafHashes Fips.sha256 sampleHashes = .ok r ∧
      rootFromLeafHashes Fips.sha256 (sampleHashes.take 2) = .ok rM ∧
      verifyConsistencyProof Fips.sha256 2 3 [.buffer (List.replicate 32 3)]
        (.string (toHex rM)) (.buffer r) = true ∧ toBuf (.string (toHex rM)) = rM := by
  obtain ⟨r, rM, hr, hrM, hsound⟩ := @verifyConsistencyProof_sound Fips.sha256 sampleHashes 2
    (by decide) (by decide) (by decide)
  have hv : ((rootFromLeafHashes Fips.sha256 sampleHashes).toOption.any fun r =>
      (rootFromLeafHashes Fips.sha256 (sampleHashes.take 2)).toOption.any fun rM =>
        verifyConsistencyProof Fips.sha256 2 3 [.buffer (List.replicate 32 3)]
          (.string (toHex rM)) (.buffer r) &&
        decide (ChildrenInjective Fips.sha256 (rootInputs Fips.sha256 (sampleHashes.map toBuf) ++
          consistencyInputs Fips.sha256 2 3 [.buffer (List.replicate 32 3)]
            (.string (toHex rM))))) = true := by
    decide +kernel
  rw [hr, hrM] at hv
  simp only [Except.toOption, Option.any_some, Bool.and_eq_true, decide_eq_true_eq] at hv
  exact ⟨r, rM, hr, hrM, hv.1, hsound _ _ hv.2 hv.1⟩

/-- **Consistency is complete.** The proof made for the first `m` leaves verifies
between their root and the root of all. -/
theorem verifyConsistencyProof_complete {leaves : List Buffer} {m : ℕ} (hpos : 0 < m)
    (hle : m ≤ leaves.length) (hmax : leaves.length ≤ 2 ^ 30) :
    ∃ proof rM r, consistencyProof sha256 m leaves = .ok proof ∧
      merkleTreeHash sha256 (leaves.take m) = .ok rM ∧
      merkleTreeHash sha256 leaves = .ok r ∧
      verifyConsistencyProof sha256 m leaves.length (proof.map .string) (.buffer rM) (.buffer r)
        = true := by
  have htake : (leaves.take m).length ≤ 2 ^ 30 := by rw [List.length_take]; omega
  rcases Nat.eq_or_lt_of_le hle with rfl | hlt
  · refine ⟨[], _, _, ?_, merkleTreeHash_eq htake, merkleTreeHash_eq hmax, ?_⟩
    · rw [consistencyProof, consistencyPath]
      simp only
      rw [if_neg (by omega), if_pos trivial]
    · rw [List.take_length]
      simp [verifyConsistencyProof]
  have hlen : (leaves.map (hashLeaf sha256)).length = leaves.length := List.length_map _
  have hne : leaves.map (hashLeaf sha256) ≠ [] := List.ne_nil_of_length_pos (by omega)
  obtain ⟨hdvd, hndvd⟩ := trailingZeros_spec hpos
  have ho := opens_path sha256 hlen hdvd hpos hle
  have hroot : ∀ ls, ls.length ≤ 2 ^ 30 →
      merkleTreeHash sha256 ls = .ok (root sha256 (ls.map (hashLeaf sha256))) :=
    fun ls h => merkleTreeHash_eq h
  have hproof := consistencyPath_eq hroot hmax hpos hlt hdvd hndvd
  refine ⟨_, _, _, hproof, merkleTreeHash_eq htake, merkleTreeHash_eq hmax, ?_⟩
  rw [verifyConsistencyProof_iff hpos hlt hmax, toBuf_string_toHex, List.map_take]
  have hfolds : Folds sha256 m leaves.length
      (root sha256 (SplitTree.block (trailingZeros m) m (leaves.map (hashLeaf sha256))))
      (siblings sha256 (trailingZeros m) m (leaves.map (hashLeaf sha256)))
      (root sha256 ((leaves.map (hashLeaf sha256)).take m))
      (root sha256 (leaves.map (hashLeaf sha256))) :=
    ⟨ho.length_eq.symm, ho.climbRight_eq hne, ho.climb_eq⟩
  by_cases hm : m = 2 ^ trailingZeros m
  · -- the old tree is the block, so its root is the seed that the proof omits
    rw [if_pos hm, if_pos hm]
    have hblock : SplitTree.block (trailingZeros m) m (leaves.map (hashLeaf sha256))
        = (leaves.map (hashLeaf sha256)).take m := by
      rw [SplitTree.block, ← hm, Nat.sub_self, List.drop_zero]
    rw [hblock] at hfolds
    exact hfolds
  · rw [if_neg hm, if_neg hm]
    exact ⟨_, _, rfl, hfolds⟩

theorem verifyConsistencyProof_complete_three :
    ∃ proof rM r, consistencyProof Fips.sha256 3 [[1], [2, 2], [3], [4]] = .ok proof ∧
      merkleTreeHash Fips.sha256 [[1], [2, 2], [3]] = .ok rM ∧
      merkleTreeHash Fips.sha256 [[1], [2, 2], [3], [4]] = .ok r ∧
      verifyConsistencyProof Fips.sha256 3 4 (proof.map .string) (.buffer rM) (.buffer r)
        = true := by
  have hle : 3 ≤ [[1], [2, 2], [3], [(4 : UInt8)]].length := by decide
  exact verifyConsistencyProof_complete (by decide) hle (by decide)

/-! ## One log for everyone -/

section LeafHashes

variable {α β : Type} {f : α → β} {xs : List α} {k : ℤ} {leaf : Buffer → Buffer} {rootOf rootOf' : List Buffer → Js Buffer}

theorem sliceTo_map : sliceTo (xs.map f) k = (sliceTo xs k).map f := by
  rw [sliceTo, sliceTo, List.length_map, List.map_take]

theorem sliceFrom_map : sliceFrom (xs.map f) k = (sliceFrom xs k).map f := by
  rw [sliceFrom, sliceFrom, List.length_map, List.map_drop]

theorem treeHash_map {fuel : ℕ} {leaves : List Buffer} :
    treeHash sha256 id fuel (leaves.map leaf) = treeHash sha256 leaf fuel leaves := by
  induction fuel generalizing leaves with
  | zero => rfl
  | succ _ ih =>
      simp only [treeHash, List.length_map, sliceTo_map, sliceFrom_map, ih]
      by_cases hone : leaves.length = 1
      · obtain ⟨b, rfl⟩ := List.length_eq_one_iff.mp hone
        rfl
      · simp only [if_neg hone]

theorem inclusionPath_map (hroot : ∀ ls, rootOf' (ls.map leaf) = rootOf ls) {fuel index : ℕ} {leaves : List Buffer} :
    inclusionPath rootOf' fuel index (leaves.map leaf) = inclusionPath rootOf fuel index leaves := by
  induction fuel generalizing index leaves with
  | zero => rfl
  | succ _ ih => simp only [inclusionPath, List.length_map, sliceTo_map, sliceFrom_map, ih, hroot]

theorem subProof_map (hroot : ∀ ls, rootOf' (ls.map leaf) = rootOf ls) {fuel m : ℕ} {leaves : List Buffer}
    {onPath : Bool} : subProof rootOf' fuel m (leaves.map leaf) onPath = subProof rootOf fuel m leaves onPath := by
  induction fuel generalizing m leaves onPath with
  | zero => rfl
  | succ _ ih => simp only [subProof, List.length_map, sliceTo_map, sliceFrom_map, ih, hroot]

/-- **The variants over leaf hashes** give the roots and the proofs of the leaves, and the same errors. -/
theorem fromLeafHashes_eq (sha256 : Sha256) (leaves : List Buffer) :
    let leafHashes := leaves.map fun data => HashArg.string (toHex (hashLeaf sha256 data))
    rootFromLeafHashes sha256 leafHashes = merkleTreeHash sha256 leaves ∧
      (∀ index, inclusionProofFromLeafHashes sha256 index leafHashes = inclusionProof sha256 index leaves) ∧
        ∀ m, consistencyProofFromLeafHashes sha256 m leafHashes = consistencyProof sha256 m leaves := by
  intro leafHashes
  have hbufs : leafHashes.map toBuf = leaves.map (hashLeaf sha256) := by
    rw [List.map_map]
    exact List.map_congr_left fun data _ => fromHex_toHex _
  have hroot (ls : List Buffer) :
      rootFromLeafHashes sha256 ((ls.map (hashLeaf sha256)).map .buffer) = merkleTreeHash sha256 ls := by
    have hraw : ((ls.map (hashLeaf sha256)).map HashArg.buffer).map toBuf = ls.map (hashLeaf sha256) := by
      rw [List.map_map]
      exact List.map_id _
    rw [rootFromLeafHashes, hraw, List.length_map, List.length_map]
    exact treeHash_map
  refine ⟨?_, fun index => ?_, fun m => ?_⟩
  · rw [rootFromLeafHashes, hbufs, List.length_map]
    exact treeHash_map
  · rw [inclusionProofFromLeafHashes, hbufs, List.length_map]
    exact inclusionPath_map hroot
  · rw [consistencyProofFromLeafHashes, consistencyProof, hbufs, consistencyPath, consistencyPath, List.length_map,
      subProof_map hroot]

theorem rootFromLeafHashes_buffers {ls : List Buffer} (hmax : ls.length ≤ 2 ^ 30) :
    rootFromLeafHashes sha256 (ls.map .buffer) = .ok (root sha256 (ls.map id)) := by
  rw [rootFromLeafHashes_eq (by rwa [List.length_map]), List.map_map]
  rfl

/-- The proof made over leaf hashes verifies. -/
theorem inclusionProofFromLeafHashes_verifies {hs : List HashArg} {i : ℕ} {h r : HashArg} (hi : hs[i]? = some h)
    (hmax : hs.length ≤ 2 ^ 30) (hr : toBuf r = root sha256 (hs.map toBuf)) :
    ∃ proof, inclusionProofFromLeafHashes sha256 i hs = .ok proof ∧
      verifyInclusionProof sha256 h i hs.length (proof.map .string) r = true := by
  obtain ⟨hlt, -⟩ := List.getElem?_eq_some_iff.mp hi
  have hlen : (hs.map toBuf).length = hs.length := List.length_map _
  have hget : (hs.map toBuf)[i]? = some (toBuf h) := by
    rw [List.getElem?_map, hi]
    rfl
  have ho := opens_leaf sha256 hlen hget
  have hclimb := ho.climb_eq
  rw [SplitTree.mth_singleton] at hclimb
  refine ⟨_, inclusionPath_eq (fun _ => rootFromLeafHashes_buffers) _ i _ (by omega) (by omega) (by omega), ?_⟩
  rw [verifyInclusionProof_iff hlt hmax, toBuf_string_toHex, List.map_id, hr]
  exact ⟨by rw [List.length_map, List.length_map, ho.length_eq], hclimb⟩

/-- So does the one for the first `m` of them. -/
theorem consistencyProofFromLeafHashes_verifies {hs : List HashArg} {m : ℕ} {rM r : HashArg} (hpos : 0 < m)
    (hle : m ≤ hs.length) (hmax : hs.length ≤ 2 ^ 30) (hrM : toBuf rM = root sha256 ((hs.take m).map toBuf))
    (hr : toBuf r = root sha256 (hs.map toBuf)) :
    ∃ proof, consistencyProofFromLeafHashes sha256 m hs = .ok proof ∧
      verifyConsistencyProof sha256 m hs.length (proof.map .string) rM r = true := by
  have hlen : (hs.map toBuf).length = hs.length := List.length_map _
  rcases Nat.eq_or_lt_of_le hle with rfl | hlt
  · refine ⟨[], ?_, ?_⟩
    · rw [consistencyProofFromLeafHashes, consistencyPath, hlen]
      simp only [if_neg (show ¬(hs.length = 0 ∨ hs.length < hs.length) by omega), if_true]
    · rw [List.take_length] at hrM
      simp [verifyConsistencyProof, hrM, hr]
  obtain ⟨hdvd, hndvd⟩ := trailingZeros_spec hpos
  have ho := opens_path sha256 hlen hdvd hpos hle
  refine ⟨_, consistencyPath_eq (fun _ => rootFromLeafHashes_buffers) (by omega) hpos (by omega) hdvd hndvd, ?_⟩
  rw [verifyConsistencyProof_iff hpos hlt hmax, toBuf_string_toHex, List.map_id, hrM, hr, List.map_take]
  have hfolds : Folds sha256 m hs.length (root sha256 (SplitTree.block (trailingZeros m) m (hs.map toBuf)))
      (siblings sha256 (trailingZeros m) m (hs.map toBuf)) (root sha256 ((hs.map toBuf).take m))
      (root sha256 (hs.map toBuf)) :=
    ⟨ho.length_eq.symm, ho.climbRight_eq (List.ne_nil_of_length_pos (by omega)), ho.climb_eq⟩
  by_cases hm : m = 2 ^ trailingZeros m
  · -- the seed that the proof omits is the old root
    rw [if_pos hm, if_pos hm]
    rwa [SplitTree.block, ← hm, Nat.sub_self, List.drop_zero] at hfolds
  · rw [if_neg hm, if_neg hm]
    exact ⟨_, _, rfl, hfolds⟩

end LeafHashes

/-! ## How far the log goes -/

theorem splitPointLoop_diverges {n fuel : ℕ} {k : ℤ} (h : ∀ i < fuel, (fun k => shl k 1)^[i + 1] k < n) :
    splitPointLoop n fuel k = .error .diverges := by
  induction fuel generalizing k with
  | zero => rfl
  | succ _ ih =>
      rw [splitPointLoop, if_pos (show shl k 1 < n from h 0 (Nat.succ_pos _))]
      exact ih fun i hi => h (i + 1) (Nat.succ_lt_succ hi)

/-- The shifts never get above `2 ^ 30`. -/
theorem splitPoint_diverges {n : ℕ} (hmax : 2 ^ 30 < n) : splitPoint n = .error .diverges := by
  have horbit : ∀ i < 33, (fun k => shl k 1)^[i + 1] 1 ≤ 2 ^ 30 := by decide
  exact splitPointLoop_diverges fun i hi => lt_of_le_of_lt (horbit i hi) (by exact_mod_cast hmax)

/-- **The provers return** for at most `2 ^ 30` leaves, and for more only where there is nothing to hash. -/
theorem provers_return_iff (sha256 : Sha256) (leaves : List Buffer) :
    ((∃ r, merkleTreeHash sha256 leaves = .ok r) ↔ leaves.length ≤ 2 ^ 30) ∧
      (∀ i, (∃ proof, inclusionProof sha256 i leaves = .ok proof) ↔ i < leaves.length ∧ leaves.length ≤ 2 ^ 30) ∧
      ∀ m, (∃ proof, consistencyProof sha256 m leaves = .ok proof) ↔
        0 < m ∧ m ≤ leaves.length ∧ (m = leaves.length ∨ leaves.length ≤ 2 ^ 30) := by
  have hroot (ls : List Buffer) (h : ls.length ≤ 2 ^ 30) :
      merkleTreeHash sha256 ls = .ok (root sha256 (ls.map (hashLeaf sha256))) := merkleTreeHash_eq h
  -- beyond, the first split is looked for in vain
  have hnone {α : Type} {f : ℤ → Js α} (h : ¬leaves.length ≤ 2 ^ 30) : ¬∃ a, (splitPoint leaves.length >>= f) = .ok a := by
    rw [splitPoint_diverges (not_le.mp h)]
    rintro ⟨a, ha⟩
    cases ha
  have hthrows {α : Type} {msg : JsString} : ¬∃ a : α, throwNew msg = .ok a := by
    rintro ⟨a, ha⟩
    cases ha
  refine ⟨?_, fun i => ?_, fun m => ?_⟩
  · by_cases hmax : leaves.length ≤ 2 ^ 30
    · exact iff_of_true ⟨_, hroot leaves hmax⟩ hmax
    · rw [merkleTreeHash, treeHash]
      simp only [if_neg (show ¬leaves.length = 0 by omega), if_neg (show ¬leaves.length = 1 by omega)]
      exact iff_of_false (hnone hmax) hmax
  · by_cases hi : leaves.length ≤ i
    · rw [inclusionProof, inclusionPath]
      simp only [if_pos hi]
      exact iff_of_false hthrows (by omega)
    by_cases hmax : leaves.length ≤ 2 ^ 30
    · exact iff_of_true ⟨_, inclusionPath_eq hroot _ i leaves (Nat.lt_succ_self _) hmax (not_le.mp hi)⟩ ⟨not_le.mp hi, hmax⟩
    · rw [inclusionProof, inclusionPath]
      simp only [if_neg hi, if_neg (show ¬leaves.length = 1 by omega)]
      exact iff_of_false (hnone hmax) fun h => hmax h.2
  · rw [consistencyProof, consistencyPath]
    by_cases hm : m = 0 ∨ leaves.length < m
    · simp only [if_pos hm]
      exact iff_of_false hthrows (by omega)
    by_cases heq : m = leaves.length
    · simp only [if_neg hm, if_pos heq]
      exact iff_of_true ⟨_, rfl⟩ (by omega)
    by_cases hmax : leaves.length ≤ 2 ^ 30
    · obtain ⟨hdvd, hndvd⟩ := trailingZeros_spec (x := m) (by omega)
      have hpath := consistencyPath_eq hroot hmax (by omega) (by omega) hdvd hndvd
      rw [consistencyPath] at hpath
      exact iff_of_true ⟨_, hpath⟩ (by omega)
    · simp only [if_neg hm, if_neg heq, subProof, bind_assoc]
      exact iff_of_false (hnone hmax) (by omega)

end BridgeWatch.Merkle

/-
What a proof accepted by the accumulator contract proves.

Three results about `mmr_accumulator.rs`, all for runs of any length:
honest proofs are accepted (`honest_proof_accepted`), equal roots have equal
histories (`root_binding`), and the exact extent to which an accepted proof is
sound (`verify_against_current_sound_iff`).

The last one is not the soundness one would hope for. The verifier never
compares the length of the sibling path, the slot `local_peak_pos` or the high
bits of `leaf_index` with anything, so four kinds of forged proof pass it.
`Forgery` lists them, by the shape of the proof against the mountains of the
accumulator and without running the verifier, and the theorem says that these
and no others are the proofs it wrongly accepts. The argument is in three parts:
`verify_iff_folded` reduces acceptance to the bagging (`PeakBag`), the bagging
places the local root among the peaks, and `PTree.opens_of_climb_eq` places the
leaf below that peak.
-/
import BridgeWatch.MmrAccumulator
import BridgeWatch.Fips

set_option autoImplicit false

namespace BridgeWatch.MmrAccumulator

open HashPath PeakBag

variable {Address : Type} {sha256 : Sha256}

/-! ## The verifier as a climb and a bagging -/

/-- The local root that the verifier derives. -/
def local_root (sha256 : Sha256) (proof : MmrProof) : BytesN 32 :=
  walk_siblings sha256 proof.leaf_hash proof.leaf_index proof.siblings

/-- The active entries of the snapshot before `local_peak_pos`. -/
def before (proof : MmrProof) : List (BytesN 32) :=
  active_peaks (proof.peaks_snapshot.take proof.local_peak_pos)

/-- The active entries of the snapshot after `local_peak_pos`. -/
def after (proof : MmrProof) : List (BytesN 32) :=
  active_peaks (proof.peaks_snapshot.drop (proof.local_peak_pos + 1))

/-- The local root takes no part in the bagging: its slot does not exist, or the
root is the all-zero string and counts as inactive. -/
def LeafIgnored (proof : MmrProof) : Prop :=
  proof.peaks_snapshot.length ≤ proof.local_peak_pos ∨
    (proof.siblings = [] ∧ proof.leaf_hash = zero32)

/-- The inputs hashed by `verify_mmr_proof`. -/
def proof_inputs (sha256 : Sha256) (proof : MmrProof) : List Buffer :=
  (climbInputs (hash_node sha256) proof.leaf_hash
      (PTree.bits proof.leaf_index proof.siblings.length) proof.siblings).map
    (fun p => node_message p.1 p.2) ++
    bag_inputs sha256 (active_peaks (peaks_for_bag proof (local_root sha256 proof)))

/-- The inputs hashed by the appends and by `get_root`. -/
def root_inputs (sha256 : Sha256) (cs : List (BytesN 32)) : List Buffer :=
  appended_inputs sha256 cs ++ bag_inputs sha256 (peaks_of sha256 cs)

/-- What the appends hash comes first among the inputs. -/
theorem appended_inputs_subset (cs : List (BytesN 32)) (ms : List Buffer) :
    appended_inputs sha256 cs ⊆ root_inputs sha256 cs ++ ms :=
  fun _ hm => List.mem_append_left _ (List.mem_append_left _ hm)

theorem local_root_eq (proof : MmrProof) :
    local_root sha256 proof = climb (hash_node sha256) proof.leaf_hash
      (PTree.bits proof.leaf_index proof.siblings.length) proof.siblings :=
  walk_siblings_eq sha256 _ _ _

theorem peaks_for_bag_eq_set (proof : MmrProof) (current : BytesN 32) :
    peaks_for_bag proof current = proof.peaks_snapshot.set proof.local_peak_pos current := by
  apply List.ext_getElem (by simp [peaks_for_bag])
  intro i h₁ h₂
  simp only [peaks_for_bag, List.getElem_mapIdx, List.getElem_set]
  by_cases h : i = proof.local_peak_pos
  · rw [if_pos h, if_pos h.symm]
  · rw [if_neg h, if_neg (Ne.symm h)]

theorem active_peaks_append (ps qs : List (BytesN 32)) :
    active_peaks (ps ++ qs) = active_peaks ps ++ active_peaks qs :=
  List.filter_append ps qs

/-- A walk that takes a step ends in one of the hashes it computed. -/
theorem walk_mem_inputs {proof : MmrProof} (hs : proof.siblings ≠ []) :
    ∃ p ∈ climbInputs (hash_node sha256) proof.leaf_hash
        (PTree.bits proof.leaf_index proof.siblings.length) proof.siblings,
      climb (hash_node sha256) proof.leaf_hash
        (PTree.bits proof.leaf_index proof.siblings.length) proof.siblings
          = hash_node sha256 p.1 p.2 := by
  refine climb_mem_inputs _ (by simp) fun hb => hs (List.length_eq_zero_iff.mp ?_)
  rw [← PTree.length_bits proof.leaf_index proof.siblings.length, hb]
  rfl

theorem local_root_ne_zero {proof : MmrProof}
    (hz : sha256.NeverZero (proof_inputs sha256 proof))
    (h : ¬(proof.siblings = [] ∧ proof.leaf_hash = zero32)) :
    local_root sha256 proof ≠ zero32 := by
  by_cases hs : proof.siblings = []
  · have hroot : local_root sha256 proof = proof.leaf_hash := by rw [local_root, hs]; rfl
    rw [hroot]
    intro hzero
    exact h ⟨hs, hzero⟩
  · -- the last hash of the walk is one of the hashed inputs
    rw [local_root_eq]
    obtain ⟨p, hp, heq⟩ := walk_mem_inputs hs
    rw [heq]
    exact hz _ (List.mem_append_left _ (node_message_mem hp))

/-- The list that the verifier bags. -/
theorem active_peaks_for_bag {proof : MmrProof}
    (hz : sha256.NeverZero (proof_inputs sha256 proof)) :
    (LeafIgnored proof →
        active_peaks (peaks_for_bag proof (local_root sha256 proof)) = before proof ++ after proof) ∧
      (¬LeafIgnored proof →
        active_peaks (peaks_for_bag proof (local_root sha256 proof))
          = before proof ++ local_root sha256 proof :: after proof) := by
  rw [peaks_for_bag_eq_set]
  rcases Nat.lt_or_ge proof.local_peak_pos proof.peaks_snapshot.length with hlt | hge
  · have hset : active_peaks
        (proof.peaks_snapshot.set proof.local_peak_pos (local_root sha256 proof))
        = before proof ++ active_peaks [local_root sha256 proof] ++ after proof := by
      rw [List.set_eq_take_append_cons_drop, if_pos hlt, before, after, ← active_peaks_append,
        ← active_peaks_append, List.append_assoc]
      rfl
    rw [hset]
    refine ⟨?_, fun h => ?_⟩
    · rintro (hpos | ⟨hs, hleaf⟩)
      · omega
      · -- the all-zero root is filtered out again
        have hroot : local_root sha256 proof = zero32 := by
          rw [local_root, hs, hleaf]; rfl
        simp [hroot, active_peaks]
    · have hroot := local_root_ne_zero hz (fun hs => h (Or.inr hs))
      simp [active_peaks, is_zero, hroot]
  · -- the slot does not exist, so the substitution changes nothing
    constructor
    · intro _
      rw [List.set_eq_take_append_cons_drop, if_neg (by omega), before, after,
        List.take_of_length_le hge, List.drop_eq_nil_of_le (by omega)]
      simp [active_peaks]
    · intro h
      exact absurd (Or.inl hge) h

/-- On a non-empty snapshot the verifier compares two baggings. -/
theorem verify_mmr_proof_eq {proof : MmrProof} (hsnap : proof.peaks_snapshot ≠ [])
    (root : BytesN 32) :
    verify_mmr_proof sha256 proof root
      = .ok (bag (merge sha256) zero32
          (active_peaks (peaks_for_bag proof (local_root sha256 proof))) == root) := by
  rw [verify_mmr_proof, if_neg (by simpa using hsnap)]
  exact congrArg (fun reconstructed => Except.ok (reconstructed == root)) (bag_peaks_eq sha256 _)

/-! ## Completeness -/

/-- The proof an honest prover gives for the commitment `c` at position `i`,
which lies in the mountain `m`: the siblings are those inside the mountain, at
the offset `i - m.start`, and the slot is the mountain's height. -/
def honest_proof (sha256 : Sha256) (c : BytesN 32) (i : ℕ) (m : Mountain (BytesN 32))
    (peaks : List (BytesN 32)) : MmrProof where
  leaf_hash := hash_leaf sha256 c
  leaf_index := i
  siblings := m.tree.siblings (hash_leaf sha256) (hash_node sha256) (i - m.start)
  peaks_snapshot := peaks
  local_peak_pos := m.height

/-- The walk of an honest proof ends at the mountain's peak: the parities of the
global position are those of the offset, as the mountain starts at a multiple
of its width. -/
theorem local_root_honest_proof {cs : List (BytesN 32)} {c : BytesN 32} {i : ℕ}
    {m : Mountain (BytesN 32)} (hm : m ∈ (MountainRange.ofList cs).mountains)
    (hcov : MountainRange.Mountain.Covers m i) (hc : cs[i]? = some c)
    (peaks : List (BytesN 32)) :
    local_root sha256 (honest_proof sha256 c i m peaks)
      = m.tree.root (hash_leaf sha256) (hash_node sha256) := by
  have hsib : m.tree.siblings (hash_leaf sha256) (hash_node sha256) (i - m.start)
      = m.tree.siblings (hash_leaf sha256) (hash_node sha256) i :=
    m.tree.siblings_congr _ _ fun k hk => MountainRange.testBit_sub_start hm hcov.1 hk
  have hget : m.tree.get i = c := by
    have h := MountainRange.getElem?_leaves_of_covers hm hcov
    rw [MountainRange.leaves_ofList, hc] at h
    exact (Option.some.inj h).symm
  rw [local_root_eq, honest_proof, hsib, PTree.length_siblings, ← hget]
  exact (m.tree.opens_siblings (hash_leaf sha256) (hash_node sha256) i).climb_eq

/-- **Completeness.** After any run of appends, the honest proof of any appended
commitment verifies against the root. -/
theorem honest_proof_accepted [DecidableEq Address] {env₀ env : MmrStorage Address}
    {cs : List (BytesN 32)} (hnew : env₀.state = none) (hrun : Appends sha256 env₀ cs env)
    (hz : sha256.NeverZero (appended_inputs sha256 cs))
    {i : ℕ} {c : BytesN 32} (hc : cs[i]? = some c) :
    ∃ m root, (MountainRange.ofList cs).mountainOf i = some m ∧
      get_root sha256 env = .ok root ∧
      verify_mmr_proof sha256 (honest_proof sha256 c i m (get_peaks env)) root = .ok true := by
  have hs := hrun.load_state_eq hnew hz
  have hi : i < (MountainRange.ofList cs).leaves.length := by
    rw [MountainRange.leaves_ofList]
    exact (List.getElem?_eq_some_iff.mp hc).1
  obtain ⟨m, hof⟩ := MountainRange.exists_mountainOf _ hi
  obtain ⟨hm, hcov⟩ := MountainRange.mountainOf_eq_some hof
  have hcs : cs ≠ [] := by rintro rfl; simp at hc
  refine ⟨m, _, hof, get_root_eq hcs hs hz, ?_⟩
  have hslot := MountainRange.getElem?_slots (hash_leaf sha256) (hash_node sha256) zero32 hm
  rw [Nat.sub_zero] at hslot
  have hpeaks : get_peaks env = (state_of sha256 cs).peaks := by rw [get_peaks, hs]
  rw [verify_mmr_proof_eq, peaks_for_bag_eq_set, local_root_honest_proof hm hcov hc]
  · -- the slot already holds the peak, so the substitution changes nothing
    have hset : (honest_proof sha256 c i m (get_peaks env)).peaks_snapshot.set
        (honest_proof sha256 c i m (get_peaks env)).local_peak_pos
        (m.tree.root (hash_leaf sha256) (hash_node sha256)) = (state_of sha256 cs).peaks := by
      obtain ⟨hlt, hget⟩ := List.getElem?_eq_some_iff.mp hslot
      rw [honest_proof, hpeaks, ← hget]
      exact List.set_getElem_self hlt
    rw [hset, active_peaks_state_of hz]
    simp
  · rw [honest_proof, hpeaks]
    intro hnil
    rw [state_of] at hnil
    simp only at hnil
    rw [hnil] at hslot
    simp at hslot

/-- Three commitments, which leave two mountains, and a fresh accumulator for them. -/
def sample_commitments : List (BytesN 32) :=
  [Vector.replicate 32 1, Vector.replicate 32 2, Vector.replicate 32 3]

def fresh_storage (admin : ℕ) : MmrStorage ℕ := { admin := some admin, state := none }

/-- The honest proof of the second of the three commitments. -/
def sample_proof : MmrProof where
  leaf_hash := hash_leaf Fips.sha256 (Vector.replicate 32 2)
  leaf_index := 1
  siblings := [hash_leaf Fips.sha256 (Vector.replicate 32 1)]
  peaks_snapshot := (state_of Fips.sha256 sample_commitments).peaks
  local_peak_pos := 1

/-- SHA-256 meets the hypotheses on all that is hashed for them. -/
theorem sample_neverZero : Fips.sha256.NeverZero (root_inputs Fips.sha256 sample_commitments ++
    proof_inputs Fips.sha256 sample_proof) := by
  decide +kernel

theorem sample_collisionFree : Fips.sha256.CollisionFree
    (root_inputs Fips.sha256 sample_commitments ++ proof_inputs Fips.sha256 sample_proof) := by
  decide +kernel

theorem sample_appended_neverZero :
    Fips.sha256.NeverZero (appended_inputs Fips.sha256 sample_commitments) :=
  sample_neverZero.mono (appended_inputs_subset _ _)

theorem exists_fresh_run (admin : ℕ) (cs : List (BytesN 32)) (hlen : cs.length < 2 ^ 64)
    (hz : sha256.NeverZero (appended_inputs sha256 cs)) :
    ∃ env, Appends sha256 (fresh_storage admin) cs env := by
  have hadmin : (fresh_storage admin).admin = some admin := rfl
  obtain ⟨env, hrun, -⟩ := exists_appends hadmin rfl cs hlen hz
  exact ⟨env, hrun⟩

theorem honest_proof_accepted_three :
    ∃ env m root, Appends Fips.sha256 (fresh_storage 0) sample_commitments env ∧
      (MountainRange.ofList sample_commitments).mountainOf 1 = some m ∧
      get_root Fips.sha256 env = .ok root ∧
      verify_mmr_proof Fips.sha256
        (honest_proof Fips.sha256 (Vector.replicate 32 2) 1 m (get_peaks env)) root = .ok true := by
  obtain ⟨env, hrun⟩ :=
    exists_fresh_run 0 sample_commitments (by decide) sample_appended_neverZero
  obtain ⟨m, root, h⟩ := honest_proof_accepted rfl hrun sample_appended_neverZero (i := 1) rfl
  exact ⟨env, m, root, hrun, h⟩

/-! ## Binding -/

section Binding

variable {cs : List (BytesN 32)}

theorem tree_leaf_inputs {m : Mountain (BytesN 32)}
    (hm : m ∈ (MountainRange.ofList cs).mountains) :
    ∀ c ∈ m.tree.leaves, leaf_message c ∈ appended_inputs sha256 cs := by
  intro c hc
  have h := MountainRange.tree_leaves_subset hm hc
  rw [MountainRange.leaves_ofList] at h
  exact List.mem_append_left _ (List.mem_map_of_mem h)

theorem range_node_inputs :
    ∀ p ∈ (MountainRange.ofList cs).nodeInputs (hash_leaf sha256) (hash_node sha256),
      node_message p.1 p.2 ∈ appended_inputs sha256 cs :=
  fun _ hp => List.mem_append_right _ (node_message_mem hp)

theorem mem_bag_inputs {peaks : List (BytesN 32)} :
    ∀ p ∈ bagInputs (merge sha256) zero32 peaks, merge_message p.1 p.2 ∈ bag_inputs sha256 peaks :=
  fun _ hp => merge_message_mem hp

/-- No peak of the accumulator is a bagging hash. -/
theorem peak_ne_merge {ms : List Buffer} (hcf : sha256.CollisionFree ms)
    (hsub : appended_inputs sha256 cs ⊆ ms) :
    ∀ p ∈ peaks_of sha256 cs, ∀ x ∈ {x : BytesN 32 × BytesN 32 | merge_message x.1 x.2 ∈ ms},
      p ≠ merge sha256 x.1 x.2 := by
  intro p hp x hx
  obtain ⟨m, hm, rfl⟩ := List.mem_map.mp hp
  exact root_ne_merge hcf (fun c hc => hsub (tree_leaf_inputs hm c hc))
    (fun q hq => hsub (range_node_inputs q (MountainRange.tree_nodeInputs_subset _ _ hm hq))) hx

theorem peaks_of_ne_nil (hcs : cs ≠ []) : peaks_of sha256 cs ≠ [] := by
  intro h
  have hms := List.map_eq_nil_iff.mp h
  rw [MountainRange.mountains_eq_nil_iff, MountainRange.leaves_ofList] at hms
  exact hcs hms

end Binding

/-- **Binding.** Two histories with the same root are the same history. -/
theorem root_binding [DecidableEq Address] {env₀ env env₀' env' : MmrStorage Address}
    {cs cs' : List (BytesN 32)} (hnew : env₀.state = none) (hrun : Appends sha256 env₀ cs env)
    (hnew' : env₀'.state = none) (hrun' : Appends sha256 env₀' cs' env')
    (hcs : cs ≠ []) (hcs' : cs' ≠ [])
    (hcf : sha256.CollisionFree (root_inputs sha256 cs ++ root_inputs sha256 cs'))
    (hz : sha256.NeverZero (root_inputs sha256 cs ++ root_inputs sha256 cs'))
    (hroot : get_root sha256 env = get_root sha256 env') : cs = cs' := by
  have happ : appended_inputs sha256 cs ⊆ root_inputs sha256 cs ++ root_inputs sha256 cs' :=
    appended_inputs_subset _ _
  have happ' : appended_inputs sha256 cs' ⊆ root_inputs sha256 cs ++ root_inputs sha256 cs' :=
    fun m hm => List.mem_append_right _ (List.mem_append_left _ hm)
  rw [get_root_eq hcs (hrun.load_state_eq hnew (hz.mono happ)) (hz.mono happ),
    get_root_eq hcs' (hrun'.load_state_eq hnew' (hz.mono happ')) (hz.mono happ')] at hroot
  -- equal bags are bags of the same peaks, and equal peaks have equal leaves
  have hpeaks : peaks_of sha256 cs = peaks_of sha256 cs' :=
    bag_inj (merge_injOn hcf) (peaks_of_ne_nil hcs') (peaks_of_ne_nil hcs)
      (fun x hx => List.mem_append_right _ (List.mem_append_right _ (mem_bag_inputs x hx)))
      (fun x hx => List.mem_append_left _ (List.mem_append_right _ (mem_bag_inputs x hx)))
      (peak_ne_merge hcf happ') (peak_ne_merge hcf happ) (Except.ok.inj hroot)
  have hleaf : ∀ ds : List (BytesN 32), ∀ c ∈ (MountainRange.ofList ds).leaves,
      leaf_message c ∈ appended_inputs sha256 ds := fun ds c hc => by
    rw [MountainRange.leaves_ofList] at hc
    exact List.mem_append_left _ (List.mem_map_of_mem hc)
  have hleaves := MountainRange.leaves_eq_of_peaks_eq (separated_of_collisionFree hcf)
    (fun c hc => happ (hleaf cs c hc)) (fun c hc => happ' (hleaf cs' c hc))
    (fun p hp => happ (range_node_inputs p hp)) (fun p hp => happ' (range_node_inputs p hp)) hpeaks
  rwa [MountainRange.leaves_ofList, MountainRange.leaves_ofList] at hleaves

/-- Two accumulators that are filled alike, by different callers. -/
theorem root_binding_three :
    ∃ env env', Appends Fips.sha256 (fresh_storage 0) sample_commitments env ∧
      Appends Fips.sha256 (fresh_storage 1) sample_commitments env' ∧
      get_root Fips.sha256 env = get_root Fips.sha256 env' ∧
      sample_commitments = sample_commitments := by
  have hsub : root_inputs Fips.sha256 sample_commitments ++
      root_inputs Fips.sha256 sample_commitments ⊆ root_inputs Fips.sha256 sample_commitments ++
        proof_inputs Fips.sha256 sample_proof :=
    List.append_subset.mpr ⟨List.subset_append_left _ _, List.subset_append_left _ _⟩
  have hz := sample_appended_neverZero
  obtain ⟨env, hrun⟩ := exists_fresh_run 0 sample_commitments (by decide) hz
  obtain ⟨env', hrun'⟩ := exists_fresh_run 1 sample_commitments (by decide) hz
  have hroot : get_root Fips.sha256 env = get_root Fips.sha256 env' := by
    rw [get_root_eq (by decide) (hrun.load_state_eq rfl hz) hz,
      get_root_eq (by decide) (hrun'.load_state_eq rfl hz) hz]
  exact ⟨env, env', hrun, hrun', hroot, root_binding rfl hrun rfl hrun' (by decide) (by decide)
    (sample_collisionFree.mono hsub) (sample_neverZero.mono hsub) hroot⟩

/-! ## Soundness, and where it ends -/

/-- The proof names a leaf that was appended, at its own position. -/
def Genuine (sha256 : Sha256) (cs : List (BytesN 32)) (proof : MmrProof) : Prop :=
  ∃ c, cs[proof.leaf_index]? = some c ∧ proof.leaf_hash = hash_leaf sha256 c

/-- The snapshot of the proof has its local slot in the place of the peak of the
mountain `m`: the peaks below are listed before the slot, those above after it,
a tail of the latter possibly bagged already. -/
def StandsFor (sha256 : Sha256) (cs : List (BytesN 32)) (proof : MmrProof)
    (m : Mountain (BytesN 32)) : Prop :=
  proof.local_peak_pos < proof.peaks_snapshot.length ∧
    ∃ ms₁ ms₂, (MountainRange.ofList cs).mountains = ms₁ ++ m :: ms₂ ∧
      before proof = ms₁.map (fun m => m.tree.root (hash_leaf sha256) (hash_node sha256)) ∧
      ((ms₂ = [] ∧ after proof = []) ∨
        Folded (merge sha256) zero32
          (ms₂.map (fun m => m.tree.root (hash_leaf sha256) (hash_node sha256))) (after proof))

/-- The forged proofs, told by their shape.

* `ignored`: the slot `local_peak_pos` does not exist (or the leaf hash is the
  all-zero string and there are no siblings), so that the snapshot alone is
  bagged, and the proof names a leaf that is not there.
* `bagged_tail`: there are no siblings and the leaf hash is the bag of two or
  more of the last peaks.
* `inner_node`: the sibling path is too short for its mountain and the leaf hash
  is an inner node of it.
* `wrong_index`: the path opens a leaf of its mountain, but `leaf_index` is not
  the position of that leaf. -/
inductive Forgery (sha256 : Sha256) (cs : List (BytesN 32)) (proof : MmrProof) : Prop
  | ignored (h : LeafIgnored proof)
      (hfold : Folded (merge sha256) zero32 (peaks_of sha256 cs) (before proof ++ after proof))
      (hleaf : ¬Genuine sha256 cs proof)
  | bagged_tail (hpos : proof.local_peak_pos < proof.peaks_snapshot.length)
      (hsib : proof.siblings = []) (hafter : after proof = []) (tail : List (BytesN 32))
      (hpeaks : peaks_of sha256 cs = before proof ++ tail) (htail : 2 ≤ tail.length)
      (hleaf : proof.leaf_hash = bag (merge sha256) zero32 tail)
  | inner_node (m : Mountain (BytesN 32)) (hm : StandsFor sha256 cs proof m) (k : ℕ)
      (u : PTree (BytesN 32) (k + 1))
      (ho : PTree.Opens (hash_leaf sha256) (hash_node sha256) m.tree
        (PTree.bits proof.leaf_index proof.siblings.length) proof.siblings u)
      (hleaf : proof.leaf_hash = u.root (hash_leaf sha256) (hash_node sha256))
  | wrong_index (m : Mountain (BytesN 32)) (hm : StandsFor sha256 cs proof m) (c : BytesN 32)
      (ho : PTree.Opens (hash_leaf sha256) (hash_node sha256) m.tree
        (PTree.bits proof.leaf_index proof.siblings.length) proof.siblings (PTree.leaf c))
      (hleaf : proof.leaf_hash = hash_leaf sha256 c) (hidx : cs[proof.leaf_index]? ≠ some c)

section Soundness

variable {cs : List (BytesN 32)} {proof : MmrProof}

/-- The list the verifier bags, read off the snapshot. -/
def bagged (sha256 : Sha256) (proof : MmrProof) : List (BytesN 32) :=
  active_peaks (peaks_for_bag proof (local_root sha256 proof))

/-- The root of a non-empty accumulator is not the all-zero string. -/
theorem bag_peaks_of_ne_zero (hcs : cs ≠ [])
    (hz : sha256.NeverZero (root_inputs sha256 cs)) :
    bag (merge sha256) zero32 (peaks_of sha256 cs) ≠ zero32 := by
  have hpeak : ∀ p ∈ peaks_of sha256 cs, p ≠ zero32 := by
    intro p hp
    obtain ⟨m, hm, rfl⟩ := List.mem_map.mp hp
    exact (neZero_of_neverZero (hz.mono (List.subset_append_left _ _))).root_ne hm
  rcases Nat.lt_or_ge (peaks_of sha256 cs).length 2 with hlt | hge
  · obtain ⟨p, hp⟩ := List.length_eq_one_iff.mp
      (le_antisymm (Nat.le_of_lt_succ hlt) (List.length_pos_iff.mpr (peaks_of_ne_nil hcs)))
    rw [hp]
    exact hpeak p (by rw [hp]; exact List.mem_singleton_self p)
  · obtain ⟨x, hx, heq⟩ := bag_mem_inputs (merge sha256) zero32 hge
    rw [heq]
    exact hz _ (List.mem_append_right _ (mem_bag_inputs x hx))

/-- Acceptance is a matter of the bagged list: it must list the current peaks,
up to a bagged tail. -/
theorem verify_iff_folded {env : MmrStorage Address} (hs : load_state env = state_of sha256 cs)
    (hcf : sha256.CollisionFree (root_inputs sha256 cs ++ proof_inputs sha256 proof))
    (hz : sha256.NeverZero (root_inputs sha256 cs ++ proof_inputs sha256 proof)) :
    verify_against_current sha256 env proof = .ok true ↔
      Folded (merge sha256) zero32 (peaks_of sha256 cs) (bagged sha256 proof) := by
  have hroot : root_inputs sha256 cs ⊆ root_inputs sha256 cs ++ proof_inputs sha256 proof :=
    List.subset_append_left _ _
  have happ : appended_inputs sha256 cs ⊆ root_inputs sha256 cs ++ proof_inputs sha256 proof :=
    appended_inputs_subset _ _
  rw [verify_against_current, hs]
  by_cases hcs : cs = []
  · -- an empty accumulator is an error, and has no peaks to list
    subst hcs
    constructor
    · intro h
      rw [if_pos (state_of_leaf_count_eq_zero.mpr rfl)] at h
      simp at h
    · intro h
      exact absurd rfl h.ne_nil.1
  rw [if_neg (mt state_of_leaf_count_eq_zero.mp hcs), active_peaks_state_of (hz.mono happ),
    bag_peaks_eq]
  by_cases hsnap : proof.peaks_snapshot = []
  · -- so is an empty snapshot
    have hbag : bagged sha256 proof = [] := by
      rw [bagged, peaks_for_bag, hsnap]; rfl
    constructor
    · intro h
      rw [verify_mmr_proof, if_pos (by rw [hsnap]; rfl)] at h
      simp at h
    · intro h
      exact absurd hbag h.ne_nil.2
  rw [verify_mmr_proof_eq hsnap]
  by_cases hbag : bagged sha256 proof = []
  · -- nothing active: the bag is all-zero, and the root is not
    rw [bagged] at hbag
    rw [bagged, hbag]
    constructor
    · intro h
      have hbag : zero32 = bag (merge sha256) zero32 (peaks_of sha256 cs) := by
        simpa [bag] using h
      exact absurd hbag.symm (bag_peaks_of_ne_zero hcs (hz.mono hroot))
    · intro h
      exact absurd rfl h.ne_nil.2
  · rw [← bag_eq_iff (merge_injOn hcf) (peaks_of_ne_nil hcs) hbag
      (fun x hx => hroot (List.mem_append_right _ (mem_bag_inputs x hx)))
      (fun x hx => List.mem_append_right _ (List.mem_append_right _ (mem_bag_inputs x hx)))
      (peak_ne_merge hcf happ)]
    simp [bagged]

/-- The inputs of the sibling walk are hashed by the verifier. -/
theorem mem_walk_inputs :
    ∀ p ∈ climbInputs (hash_node sha256) proof.leaf_hash
        (PTree.bits proof.leaf_index proof.siblings.length) proof.siblings,
      node_message p.1 p.2 ∈ proof_inputs sha256 proof :=
  fun _ hp => List.mem_append_left _ (node_message_mem hp)

/-- A leaf hash that is a bagging hash belongs to no commitment. -/
theorem not_genuine_of_merge {ms : List Buffer} (hcf : sha256.CollisionFree ms)
    (hsub : appended_inputs sha256 cs ⊆ ms) {l r : BytesN 32} (hm : merge_message l r ∈ ms)
    (hleaf : proof.leaf_hash = merge sha256 l r) : ¬Genuine sha256 cs proof := by
  rintro ⟨c, hc, heq⟩
  have hmem : leaf_message c ∈ ms :=
    hsub (List.mem_append_left _ (List.mem_map_of_mem (List.mem_of_getElem? hc)))
  exact hash_leaf_ne_merge hcf hmem hm (heq.symm.trans hleaf)

/-- Nor does one that is an inner node. -/
theorem not_genuine_of_node {ms : List Buffer} (hcf : sha256.CollisionFree ms)
    (hsub : appended_inputs sha256 cs ⊆ ms) {l r : BytesN 32} (hm : node_message l r ∈ ms)
    (hleaf : proof.leaf_hash = hash_node sha256 l r) : ¬Genuine sha256 cs proof := by
  rintro ⟨c, hc, heq⟩
  have hmem : leaf_message c ∈ ms :=
    hsub (List.mem_append_left _ (List.mem_map_of_mem (List.mem_of_getElem? hc)))
  exact (separated_of_collisionFree hcf).leaf_ne_node c hmem (l, r) hm (heq.symm.trans hleaf)

/-- The peaks, read at the mountain `m`. -/
theorem peaks_of_split {m : Mountain (BytesN 32)} {ms₁ ms₂ : List (Mountain (BytesN 32))}
    (hms : (MountainRange.ofList cs).mountains = ms₁ ++ m :: ms₂) :
    peaks_of sha256 cs
      = ms₁.map (fun m => m.tree.root (hash_leaf sha256) (hash_node sha256)) ++
        m.tree.root (hash_leaf sha256) (hash_node sha256) ::
          ms₂.map (fun m => m.tree.root (hash_leaf sha256) (hash_node sha256)) := by
  rw [peaks_of, MountainRange.peaks, hms, List.map_append, List.map_cons]

/-- The bag of two or more of the last peaks is a bagging hash. -/
theorem exists_merge_of_tail {bs tail : List (BytesN 32)}
    (hpeaks : peaks_of sha256 cs = bs ++ tail) (htail : 2 ≤ tail.length) :
    ∃ x : BytesN 32 × BytesN 32, merge_message x.1 x.2 ∈ root_inputs sha256 cs ∧
      bag (merge sha256) zero32 tail = merge sha256 x.1 x.2 := by
  obtain ⟨x, hx, hbag⟩ := bag_mem_inputs (merge sha256) zero32 htail
  refine ⟨x, List.mem_append_right _ (mem_bag_inputs x ?_), hbag⟩
  rw [hpeaks]
  exact bagInputs_append_subset _ _ _ (by rintro rfl; simp at htail) hx

/-- The walk along an opening ends at the mountain's peak. -/
theorem local_root_of_opens {h k : ℕ} {t : PTree (BytesN 32) h} {u : PTree (BytesN 32) k}
    (ho : PTree.Opens (hash_leaf sha256) (hash_node sha256) t
      (PTree.bits proof.leaf_index proof.siblings.length) proof.siblings u)
    (hleaf : proof.leaf_hash = u.root (hash_leaf sha256) (hash_node sha256)) :
    local_root sha256 proof = t.root (hash_leaf sha256) (hash_node sha256) := by
  rw [local_root_eq, hleaf]
  exact ho.climb_eq

theorem StandsFor.mem {m : Mountain (BytesN 32)} (hm : StandsFor sha256 cs proof m) :
    m ∈ (MountainRange.ofList cs).mountains := by
  obtain ⟨-, ms₁, ms₂, hms, -⟩ := hm
  rw [hms]
  simp

/-- A proof whose walk ends at the peak of the mountain it stands for is accepted. -/
theorem folded_of_standsFor {m : Mountain (BytesN 32)} (hm : StandsFor sha256 cs proof m)
    (hz : sha256.NeverZero (root_inputs sha256 cs ++ proof_inputs sha256 proof))
    (hroot : local_root sha256 proof = m.tree.root (hash_leaf sha256) (hash_node sha256)) :
    Folded (merge sha256) zero32 (peaks_of sha256 cs) (bagged sha256 proof) := by
  have hmem := hm.mem
  obtain ⟨hpos, ms₁, ms₂, hms, hbefore, hafter⟩ := hm
  have hne : local_root sha256 proof ≠ zero32 := by
    rw [hroot]
    exact (neZero_of_neverZero (hz.mono (appended_inputs_subset _ _))).root_ne hmem
  have hlive : ¬LeafIgnored proof := by
    rintro (h | ⟨hs, hleaf⟩)
    · omega
    · exact hne (by rw [local_root, hs, hleaf]; rfl)
  rw [bagged, (active_peaks_for_bag (hz.mono (List.subset_append_right _ _))).2 hlive,
    folded_append_cons]
  refine ⟨_, by rw [peaks_of_split hms, hbefore], ?_⟩
  rcases hafter with ⟨rfl, hnil⟩ | hfold
  · exact Or.inl ⟨hnil, by simp, hroot⟩
  · exact Or.inr ⟨_, by rw [hroot], hfold⟩

/-- A forged proof is accepted although its leaf is not genuine. -/
theorem Forgery.accepted (hf : Forgery sha256 cs proof)
    (hcf : sha256.CollisionFree (root_inputs sha256 cs ++ proof_inputs sha256 proof))
    (hz : sha256.NeverZero (root_inputs sha256 cs ++ proof_inputs sha256 proof)) :
    Folded (merge sha256) zero32 (peaks_of sha256 cs) (bagged sha256 proof) ∧
      ¬Genuine sha256 cs proof := by
  have happ : appended_inputs sha256 cs ⊆ root_inputs sha256 cs ++ proof_inputs sha256 proof :=
    appended_inputs_subset _ _
  cases hf with
  | ignored h hfold hleaf =>
      refine ⟨?_, hleaf⟩
      rw [bagged, (active_peaks_for_bag (hz.mono (List.subset_append_right _ _))).1 h]
      exact hfold
  | bagged_tail _ hsib hafter tail hpeaks htail hleaf =>
      obtain ⟨x, hx, hbag⟩ := exists_merge_of_tail hpeaks htail
      have hx' : merge_message x.1 x.2 ∈ root_inputs sha256 cs ++ proof_inputs sha256 proof :=
        List.mem_append_left _ hx
      refine ⟨?_, not_genuine_of_merge hcf happ hx' (hleaf.trans hbag)⟩
      have hroot : local_root sha256 proof = bag (merge sha256) zero32 tail := by
        rw [local_root, hsib, ← hleaf]; rfl
      have hlive : ¬LeafIgnored proof := by
        rintro (h | ⟨-, hzero⟩)
        · omega
        · exact hz _ hx' (hbag.symm.trans (hleaf.symm.trans hzero))
      rw [bagged, (active_peaks_for_bag (hz.mono (List.subset_append_right _ _))).2 hlive,
        folded_append_cons]
      exact ⟨tail, hpeaks, Or.inl ⟨hafter, by rintro rfl; simp at htail, hroot⟩⟩
  | inner_node m hm _ u ho hleaf =>
      refine ⟨folded_of_standsFor hm hz (local_root_of_opens ho hleaf), ?_⟩
      have hmem := hm.mem
      cases u with
      | node =>
          have hin := MountainRange.tree_nodeInputs_subset (hash_leaf sha256) (hash_node sha256)
            hmem (ho.nodeInputs_subset List.mem_cons_self)
          exact not_genuine_of_node hcf happ (happ (range_node_inputs _ hin)) hleaf
  | wrong_index m hm c ho hleaf hidx =>
      refine ⟨folded_of_standsFor hm hz (local_root_of_opens ho hleaf), ?_⟩
      have hmem := hm.mem
      rintro ⟨c', hc', heq⟩
      have hcc : c = c' := (separated_of_collisionFree hcf).leaf_inj
        (happ (tree_leaf_inputs hmem c (ho.leaves_subset List.mem_cons_self)))
        (happ (List.mem_append_left _ (List.mem_map_of_mem (List.mem_of_getElem? hc'))))
        (hleaf.symm.trans heq)
      exact hidx (hcc ▸ hc')

/-- A local root that is one of the peaks leads into that mountain's tree, where
the walk opens a leaf or an inner node. -/
theorem genuine_of_peak
    (hcf : sha256.CollisionFree (root_inputs sha256 cs ++ proof_inputs sha256 proof))
    (hf : ¬Forgery sha256 cs proof)
    (hpos : proof.local_peak_pos < proof.peaks_snapshot.length) {us : List (BytesN 32)}
    (hpeaks : peaks_of sha256 cs = before proof ++ local_root sha256 proof :: us)
    (hus : us = [] ∧ after proof = [] ∨ Folded (merge sha256) zero32 us (after proof)) :
    Genuine sha256 cs proof := by
  have happ : appended_inputs sha256 cs ⊆ root_inputs sha256 cs ++ proof_inputs sha256 proof :=
    appended_inputs_subset _ _
  -- the peaks before the local root, the root and the peaks after it, as mountains
  obtain ⟨ms₁, ms₂', hms, hms₁, hms₂'⟩ := List.map_eq_append_iff.mp hpeaks
  obtain ⟨m, ms₂, rfl, hroot, rfl⟩ := List.map_eq_cons_iff.mp hms₂'
  have hmem : m ∈ (MountainRange.ofList cs).mountains := by rw [hms]; simp
  have hm : StandsFor sha256 cs proof m :=
    ⟨hpos, ms₁, ms₂, hms, hms₁.symm, by simpa using hus⟩
  rw [local_root_eq] at hroot
  obtain ⟨k, u, ho, hu⟩ := PTree.opens_of_climb_eq (separated_of_collisionFree hcf) m.tree
    (fun c hc => happ (tree_leaf_inputs hmem c hc))
    (fun p hp => happ (range_node_inputs p (MountainRange.tree_nodeInputs_subset _ _ hmem hp)))
    proof.leaf_hash _ proof.siblings (by simp)
    (fun p hp => List.mem_append_right _ (mem_walk_inputs p hp)) hroot.symm
  by_contra hgen
  cases u with
  | leaf c =>
      refine hf (.wrong_index m hm c ho hu fun hidx => ?_)
      exact hgen ⟨c, hidx, hu⟩
  | node => exact hf (.inner_node m hm _ _ ho hu)

/-- An accepted proof that is not forged is genuine. -/
theorem genuine_of_folded
    (hcf : sha256.CollisionFree (root_inputs sha256 cs ++ proof_inputs sha256 proof))
    (hz : sha256.NeverZero (root_inputs sha256 cs ++ proof_inputs sha256 proof))
    (hfold : Folded (merge sha256) zero32 (peaks_of sha256 cs) (bagged sha256 proof))
    (hf : ¬Forgery sha256 cs proof) : Genuine sha256 cs proof := by
  by_contra hgen
  by_cases hlive : LeafIgnored proof
  · rw [bagged, (active_peaks_for_bag (hz.mono (List.subset_append_right _ _))).1 hlive] at hfold
    exact hf (.ignored hlive hfold hgen)
  have hpos : proof.local_peak_pos < proof.peaks_snapshot.length := by
    rw [← Nat.not_le]
    intro h
    exact hlive (Or.inl h)
  rw [bagged, (active_peaks_for_bag (hz.mono (List.subset_append_right _ _))).2 hlive,
    folded_append_cons] at hfold
  obtain ⟨tail, hpeaks, htail⟩ := hfold
  rcases htail with ⟨hafter, htail, hroot⟩ | ⟨us, htail, hus⟩
  · rcases Nat.lt_or_ge tail.length 2 with hlt | hge
    · obtain ⟨p, rfl⟩ := List.length_eq_one_iff.mp
        (le_antisymm (Nat.le_of_lt_succ hlt) (List.length_pos_iff.mpr htail))
      exact hgen (genuine_of_peak hcf hf hpos (by rw [hpeaks, hroot]; rfl) (Or.inl ⟨rfl, hafter⟩))
    · -- a bagged tail is no node hash, so the walk took no step
      obtain ⟨x, hx, hbag⟩ := exists_merge_of_tail hpeaks hge
      have hx' : merge_message x.1 x.2 ∈ root_inputs sha256 cs ++ proof_inputs sha256 proof :=
        List.mem_append_left _ hx
      by_cases hsib : proof.siblings = []
      · refine hf (.bagged_tail hpos hsib hafter tail hpeaks hge ?_)
        rw [← hroot, local_root, hsib]
        rfl
      · obtain ⟨p, hp, heq⟩ := walk_mem_inputs hsib
        rw [← local_root_eq, hroot, hbag] at heq
        exact hash_node_ne_merge hcf (List.mem_append_right _ (mem_walk_inputs p hp)) hx' heq.symm
  · exact hgen (genuine_of_peak hcf hf hpos (by rw [hpeaks, htail]) (Or.inr hus))

end Soundness

/-- **Soundness of the verifier, exactly.** After any run of appends, an accepted
proof names an appended leaf at its own position if and only if the proof is not
a `Forgery`. -/
theorem verify_against_current_sound_iff [DecidableEq Address] {env₀ env : MmrStorage Address}
    {cs : List (BytesN 32)} {proof : MmrProof} (hnew : env₀.state = none)
    (hrun : Appends sha256 env₀ cs env)
    (hcf : sha256.CollisionFree (root_inputs sha256 cs ++ proof_inputs sha256 proof))
    (hz : sha256.NeverZero (root_inputs sha256 cs ++ proof_inputs sha256 proof)) :
    (verify_against_current sha256 env proof = .ok true → Genuine sha256 cs proof) ↔
      ¬Forgery sha256 cs proof := by
  have hs : load_state env = state_of sha256 cs :=
    hrun.load_state_eq hnew (hz.mono (appended_inputs_subset _ _))
  rw [verify_iff_folded hs hcf hz]
  constructor
  · intro hsound hf
    obtain ⟨hacc, hgen⟩ := hf.accepted hcf hz
    exact hgen (hsound hacc)
  · intro hf hacc
    exact genuine_of_folded hcf hz hacc hf

theorem verify_against_current_sound_iff_three :
    ∃ env, Appends Fips.sha256 (fresh_storage 0) sample_commitments env ∧
      ((verify_against_current Fips.sha256 env sample_proof = .ok true →
          Genuine Fips.sha256 sample_commitments sample_proof) ↔
        ¬Forgery Fips.sha256 sample_commitments sample_proof) := by
  obtain ⟨env, hrun⟩ :=
    exists_fresh_run 0 sample_commitments (by decide) sample_appended_neverZero
  exact ⟨env, hrun,
    verify_against_current_sound_iff rfl hrun sample_collisionFree sample_neverZero⟩

/-- A proof for a leaf that was never appended: its slot does not exist, so the
verifier bags the snapshot alone. -/
def slotless_proof : MmrProof where
  leaf_hash := Vector.replicate 32 255
  leaf_index := 7
  siblings := []
  peaks_snapshot := [hash_leaf Fips.sha256 (Vector.replicate 32 1)]
  local_peak_pos := 1

/-- It is accepted by an accumulator with one leaf, and position 7 is empty. -/
theorem slotless_proof_accepted :
    ∃ env, Appends Fips.sha256 (fresh_storage 0) [Vector.replicate 32 1] env ∧
      Fips.sha256.CollisionFree (root_inputs Fips.sha256 [Vector.replicate 32 1] ++
        proof_inputs Fips.sha256 slotless_proof) ∧
      Fips.sha256.NeverZero (root_inputs Fips.sha256 [Vector.replicate 32 1] ++
        proof_inputs Fips.sha256 slotless_proof) ∧
      verify_against_current Fips.sha256 env slotless_proof = .ok true ∧
      ¬Genuine Fips.sha256 [Vector.replicate 32 1] slotless_proof := by
  have hz : Fips.sha256.NeverZero (root_inputs Fips.sha256 [Vector.replicate 32 1] ++
      proof_inputs Fips.sha256 slotless_proof) := by decide +kernel
  have happ : Fips.sha256.NeverZero (appended_inputs Fips.sha256 [Vector.replicate 32 1]) :=
    hz.mono (appended_inputs_subset _ _)
  obtain ⟨env, hrun⟩ := exists_fresh_run 0 [Vector.replicate 32 1] (by decide) happ
  refine ⟨env, hrun, by decide +kernel, hz, ?_, ?_⟩
  · rw [verify_against_current, hrun.load_state_eq rfl happ]
    decide +kernel
  · rintro ⟨c, hc, -⟩
    simp [slotless_proof] at hc

end BridgeWatch.MmrAccumulator

/-
Where the accumulator service and the accumulator contract agree.

Both build the same peaks (`MmrService.run_new`, `Appends.load_state_eq`), both
walk a sibling path alike, and both substitute the local root into the snapshot
alike. They part at the bagging: `bagPeaks` hashes `0x01 || p || acc`, the
contract's `bag_peaks` hashes `p || acc`. So they agree exactly where nothing is
bagged, and `service_agrees_iff` says where that is: roots agree when the number
of leaves is a power of two, verdicts when at most one slot of the proof is
active.

A proof travels between the two as hexadecimal text, which is what `toService`
is; both sides read back the same digests.
-/
import BridgeWatch.MmrService
import BridgeWatch.MmrProofs

set_option autoImplicit false

namespace BridgeWatch.MmrAgreement

open HashPath PeakBag
open BridgeWatch.MmrAccumulator
open BridgeWatch.MmrService (AppendCall newService serviceOf getRoot verifyProof serialize fromSerialized)

variable {Address : Type} {sha256 : Sha256}

/-- A contract proof as the service takes it: every digest in hexadecimal. -/
def toService (proof : MmrProof) : MmrService.MmrProof where
  leafHash := toHex proof.leaf_hash.toList
  leafIndex := proof.leaf_index
  siblings := proof.siblings.map (fun s => toHex s.toList)
  peaksSnapshot := proof.peaks_snapshot.map (fun p => toHex p.toList)
  localPeakPos := proof.local_peak_pos

/-- The number of entries that the verifier bags, from the snapshot alone. -/
def active_slots (proof : MmrProof) : ℕ :=
  (before proof).length + (after proof).length +
    if proof.peaks_snapshot.length ≤ proof.local_peak_pos ∨
      (proof.siblings = [] ∧ proof.leaf_hash = zero32) then 0 else 1

/-- The inputs that the service hashes to bag `peaks`. -/
def service_bag_inputs (sha256 : Sha256) (peaks : List (BytesN 32)) : List Buffer :=
  (bagInputs (hash_node sha256) zero32 peaks).map (fun p => node_message p.1 p.2)

/-! ## The same loops -/

theorem walkSiblings_hex (siblings : List (BytesN 32)) (current : BytesN 32) (pos : ℕ) :
    MmrService.walkSiblings sha256 current.toList pos (siblings.map (fun s => toHex s.toList))
      = (walk_siblings sha256 current pos siblings).toList := by
  induction siblings generalizing current pos with
  | nil => rfl
  | cons s _ ih =>
      have hstep : (if pos % 2 = 0 then MmrService.hashNode sha256 current.toList
            (fromHex (toHex s.toList))
          else MmrService.hashNode sha256 (fromHex (toHex s.toList)) current.toList)
          = (if pos % 2 = 0 then hash_node sha256 current s
              else hash_node sha256 s current).toList := by
        rw [fromHex_toHex]
        split_ifs <;> rfl
      rw [List.map_cons, MmrService.walkSiblings, List.foldl_cons]
      simp only [hstep]
      exact ih _ _

theorem peaksForBag_hex (proof : MmrProof) (current : BytesN 32) :
    MmrService.peaksForBag (toService proof) current.toList
      = (peaks_for_bag proof current).map (·.toList) := by
  apply List.ext_getElem (by simp [MmrService.peaksForBag, toService, peaks_for_bag])
  intro i h₁ h₂
  simp only [MmrService.peaksForBag, peaks_for_bag, toService, List.getElem_mapIdx,
    List.getElem_map, fromHex_toHex]
  split_ifs <;> rfl

/-- The service's verdict on a contract proof. -/
theorem verifyProof_toService {proof : MmrProof} (hsnap : proof.peaks_snapshot ≠ [])
    (root : BytesN 32) :
    (verifyProof sha256 (toService proof) (toHex root.toList)).valid
      = (bag (hash_node sha256) zero32 (bagged sha256 proof) == root) := by
  have hlen : (toService proof).peaksSnapshot.length ≠ 0 := by simpa [toService] using hsnap
  rw [verifyProof, if_neg hlen]
  have hwalk : MmrService.walkSiblings sha256 (fromHex (toService proof).leafHash)
      (toService proof).leafIndex (toService proof).siblings
        = (local_root sha256 proof).toList := by
    rw [toService, fromHex_toHex]
    exact walkSiblings_hex _ _ _
  simp only [hwalk, peaksForBag_hex, MmrService.bagPeaks_map]
  rw [Bool.eq_iff_iff, beq_iff_eq, beq_iff_eq, toHex_injective.eq_iff, BytesN.toList_inj]
  rfl

/-! ## Agreement -/

theorem merge_ne_hash_node {ms : List Buffer} (hcf : sha256.CollisionFree ms)
    {peaks : List (BytesN 32)} (hbag : bag_inputs sha256 peaks ⊆ ms)
    (hbag' : service_bag_inputs sha256 peaks ⊆ ms) :
    ∀ x ∈ bagInputs (merge sha256) zero32 peaks, ∀ y ∈ bagInputs (hash_node sha256) zero32 peaks,
      merge sha256 x.1 x.2 ≠ hash_node sha256 y.1 y.2 :=
  fun x hx _ hy => Ne.symm
    (hash_node_ne_merge hcf (hbag' (node_message_mem hy)) (hbag (mem_bag_inputs x hx)))

/-- The roots agree exactly when the number of leaves is a power of two. -/
theorem getRoot_eq_iff [DecidableEq Address] {env₀ env : MmrStorage Address}
    {cs : List (BytesN 32)} {calls : List AppendCall} (hnew : env₀.state = none)
    (hrun : Appends sha256 env₀ cs env) (hcalls : calls.flatMap AppendCall.commitments = cs)
    (hcs : cs ≠ [])
    (hcf : sha256.CollisionFree
      (root_inputs sha256 cs ++ service_bag_inputs sha256 (peaks_of sha256 cs)))
    (hz : sha256.NeverZero (appended_inputs sha256 cs)) :
    (∃ root, get_root sha256 env = .ok root ∧
        getRoot sha256 (calls.foldl (AppendCall.run sha256) newService) = toHex root.toList) ↔
      ∃ k, cs.length = 2 ^ k := by
  have hbags := bag_eq_bag_iff (merge sha256) zero32 (merge_ne_hash_node hcf
    (fun m hm => List.mem_append_left _ (List.mem_append_right _ hm))
    (List.subset_append_right _ _))
  -- no peak at all would mean no leaf
  have hone : (peaks_of sha256 cs).length ≤ 1 ↔ ∃ k, cs.length = 2 ^ k := by
    have hpow := (MountainRange.ofList cs).length_mountains_eq_one_iff
    rw [MountainRange.leaves_ofList] at hpow
    have hne : 0 < (peaks_of sha256 cs).length := List.length_pos_iff.mpr (peaks_of_ne_nil hcs)
    rw [← hpow, peaks_of, MountainRange.peaks, List.length_map] at *
    omega
  rw [← hone, ← hbags, get_root_eq hcs (hrun.load_state_eq hnew hz) hz,
    MmrService.run_new (by rw [hcalls]; exact hz), hcalls, MmrService.getRoot_serviceOf hz]
  constructor
  · rintro ⟨root, hroot, hhex⟩
    rw [Except.ok.inj hroot]
    exact (BytesN.toList_inj.mp (toHex_injective hhex)).symm
  · intro h
    exact ⟨_, rfl, by rw [h]⟩

/-- The verdicts on a proof agree for all roots exactly when at most one slot of
the proof is active. -/
theorem verifyProof_eq_iff {proof : MmrProof} (hsnap : proof.peaks_snapshot ≠ [])
    (hcf : sha256.CollisionFree
      (proof_inputs sha256 proof ++ service_bag_inputs sha256 (bagged sha256 proof)))
    (hz : sha256.NeverZero (proof_inputs sha256 proof)) :
    (∀ root, verify_mmr_proof sha256 proof root
        = .ok (verifyProof sha256 (toService proof) (toHex root.toList)).valid) ↔
      active_slots proof ≤ 1 := by
  have hbags := bag_eq_bag_iff (merge sha256) zero32 (merge_ne_hash_node hcf
    (fun m hm => List.mem_append_left _ (List.mem_append_right _ hm))
    (List.subset_append_right _ _))
  have hslots : (bagged sha256 proof).length = active_slots proof := by
    have hactive := active_peaks_for_bag hz
    rw [LeafIgnored] at hactive
    unfold active_slots
    split_ifs with h
    · rw [bagged, hactive.1 h, List.length_append]
      rfl
    · rw [bagged, hactive.2 h, List.length_append, List.length_cons]
      rfl
  rw [← hslots]
  apply Iff.trans _ hbags
  rw [← bagged]
  constructor
  · intro h
    -- the contract's own bag is a root that it accepts
    have hroot := h (bag (merge sha256) zero32 (bagged sha256 proof))
    rw [verify_mmr_proof_eq hsnap, verifyProof_toService hsnap, ← bagged, beq_self_eq_true] at hroot
    exact (beq_iff_eq.mp (Except.ok.inj hroot).symm).symm
  · intro h root
    rw [verify_mmr_proof_eq hsnap, verifyProof_toService hsnap, ← bagged, h]

/-- **Agreement, exactly.** The service and the contract compute one root for a
history if and only if its length is a power of two, and give one verdict on a
proof, whatever the root, if and only if at most one of its slots is active. -/
theorem service_agrees_iff [DecidableEq Address] (sha256 : Sha256) :
    (∀ (env₀ env : MmrStorage Address) (cs : List (BytesN 32)) (calls : List AppendCall),
      env₀.state = none → Appends sha256 env₀ cs env →
      calls.flatMap AppendCall.commitments = cs → cs ≠ [] →
      sha256.CollisionFree
        (root_inputs sha256 cs ++ service_bag_inputs sha256 (peaks_of sha256 cs)) →
      sha256.NeverZero (appended_inputs sha256 cs) →
      ((∃ root, get_root sha256 env = .ok root ∧
          getRoot sha256 (calls.foldl (AppendCall.run sha256) newService) = toHex root.toList) ↔
        ∃ k, cs.length = 2 ^ k)) ∧
    ∀ proof : MmrProof, proof.peaks_snapshot ≠ [] →
      sha256.CollisionFree
        (proof_inputs sha256 proof ++ service_bag_inputs sha256 (bagged sha256 proof)) →
      sha256.NeverZero (proof_inputs sha256 proof) →
      ((∀ root, verify_mmr_proof sha256 proof root
          = .ok (verifyProof sha256 (toService proof) (toHex root.toList)).valid) ↔
        active_slots proof ≤ 1) :=
  ⟨fun _ _ _ _ hnew hrun hcalls hcs hcf hz => getRoot_eq_iff hnew hrun hcalls hcs hcf hz,
    fun _ hsnap hcf hz => verifyProof_eq_iff hsnap hcf hz⟩

/-- Two calls that append the three commitments. -/
def sample_calls : List AppendCall :=
  [.append (Vector.replicate 32 1), .appendBatch [Vector.replicate 32 2, Vector.replicate 32 3]]

theorem service_agrees_iff_three :
    (∃ env, Appends Fips.sha256 (fresh_storage 0) sample_commitments env ∧
      ((∃ root, get_root Fips.sha256 env = .ok root ∧
          getRoot Fips.sha256 (sample_calls.foldl (AppendCall.run Fips.sha256) newService)
            = toHex root.toList) ↔
        ∃ k, sample_commitments.length = 2 ^ k)) ∧
    ((∀ root, verify_mmr_proof Fips.sha256 sample_proof root
        = .ok (verifyProof Fips.sha256 (toService sample_proof) (toHex root.toList)).valid) ↔
      active_slots sample_proof ≤ 1) := by
  have hz := sample_appended_neverZero
  obtain ⟨env, hrun⟩ := exists_fresh_run 0 sample_commitments (by decide) hz
  refine ⟨⟨env, hrun, ?_⟩, ?_⟩
  · exact (service_agrees_iff Fips.sha256).1 _ env _ sample_calls rfl hrun rfl (by decide)
      (by decide +kernel) hz
  · exact (@service_agrees_iff ℕ _ Fips.sha256).2 sample_proof (by decide +kernel)
      (by decide +kernel) (sample_neverZero.mono (List.subset_append_right _ _))

/-- After three commitments the two roots differ, and the contract accepts a
proof that the service rejects. -/
theorem service_disagrees_three :
    ∃ env root, Appends Fips.sha256 (fresh_storage 0) sample_commitments env ∧
      Fips.sha256.NeverZero (appended_inputs Fips.sha256 sample_commitments) ∧
      get_root Fips.sha256 env = .ok root ∧
      getRoot Fips.sha256 (sample_calls.foldl (AppendCall.run Fips.sha256) newService)
        ≠ toHex root.toList ∧
      verify_mmr_proof Fips.sha256 sample_proof root = .ok true ∧
      (verifyProof Fips.sha256 (toService sample_proof) (toHex root.toList)).valid = false := by
  have hz := sample_appended_neverZero
  obtain ⟨env, hrun⟩ := exists_fresh_run 0 sample_commitments (by decide) hz
  exact ⟨env, _, hrun, hz, get_root_eq (by decide) (hrun.load_state_eq rfl hz) hz,
    by decide +kernel, by decide +kernel, by decide +kernel⟩

/-! ## Restarts -/

/-- A call, or a restart from the serialized state. -/
def step (sha256 : Sha256) (svc : MmrService.MmrAccumulatorService) : Option AppendCall → MmrService.MmrAccumulatorService
  | some call => call.run sha256 svc
  | none => fromSerialized (serialize svc)

end BridgeWatch.MmrAgreement

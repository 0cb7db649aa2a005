/-
The proofs that the accumulator service generates.

`generateProof` replays all insertions, keeping every node it computes by
height, climbs from the leaf through these lists, and names the first occupied
slot as the leaf's. The lists are the levels of the mountain range
(`replay_eq`), so the climb finds the siblings of the *smallest* mountain and
stops at its peak (`collectSiblings_eq_drop`), and the first occupied slot is
the smallest mountain's too (`findIdx?_slots`).

For a leaf of any other mountain the slot is wrong, so
`generateProof_valid_iff` says that exactly the leaves of the smallest mountain
get a proof that verifies: those among the last `2 ^ k`, for a power of two that
divides the number of leaves.
-/
import BridgeWatch.MmrAgreement

set_option autoImplicit false

namespace BridgeWatch.MmrService

open HashPath PeakBag
open BridgeWatch.MmrAccumulator (hash_leaf hash_node is_zero is_zero_iff active_peaks
  active_peaks_append active_peaks_state_of appended_inputs peaks_of state_of honest_proof
  local_root_honest_proof peaks_for_bag_eq_set bagged)
open BridgeWatch.MmrAgreement (toService service_bag_inputs verifyProof_toService)

variable {sha256 : Sha256}

/-! ## The replay -/

/-- The slots of a range, as the service keeps them. -/
abbrev slotBuffers (sha256 : Sha256) {h : ℕ} (r : MountainRange (BytesN 32) h) : List Buffer :=
  (r.slots (hash_leaf sha256) (hash_node sha256) zero32).map (·.toList)

/-- The nodes of a range by height, as the service keeps them. -/
abbrev levelBuffers (sha256 : Sha256) {h : ℕ} (r : MountainRange (BytesN 32) h) : HeightNodes :=
  fun j => (r.level (hash_leaf sha256) (hash_node sha256) j).map (·.toList)

/-- The replay's loop inserts a tree into the slots, and it stores the roots of
the trees it builds on the way: the nodes of the tree inserted are stored
already. -/
theorem replayLoop_eq {h : ℕ} (r : MountainRange (BytesN 32) h) (t : PTree (BytesN 32) h)
    (hroots : ∀ m ∈ r.mountains, m.tree.root (hash_leaf sha256) (hash_node sha256) ≠ zero32)
    (nodes : HeightNodes)
    (hnodes : ∀ j, nodes j = (r.level (hash_leaf sha256) (hash_node sha256) j ++
      t.level (hash_leaf sha256) (hash_node sha256) j).map (·.toList)) :
    replayLoop sha256 h (slotBuffers sha256 r)
        (t.root (hash_leaf sha256) (hash_node sha256)).toList nodes
      = (slotBuffers sha256 (r.insert t), levelBuffers sha256 (r.insert t)) := by
  induction r generalizing nodes with
  | nil => exact Prod.ext rfl (funext hnodes)
  | @cons h slot rest ih =>
      cases slot with
      | none =>
          have hzero : isZero zero32.toList = true := by rw [← ZERO_eq]; exact beq_self_eq_true _
          rw [slotBuffers, MountainRange.slots, List.map_cons, replayLoop, if_pos hzero]
          exact Prod.ext rfl (funext hnodes)
      | some p =>
          have hp : ¬isZero (p.root (hash_leaf sha256) (hash_node sha256)).toList = true := by
            rw [isZero_toList, MmrAccumulator.is_zero_iff]
            exact hroots ⟨h, _, p⟩ List.mem_cons_self
          rw [slotBuffers, MountainRange.slots, List.map_cons, replayLoop, if_neg hp]
          have hnode : hashNode sha256 (p.root (hash_leaf sha256) (hash_node sha256)).toList
              (t.root (hash_leaf sha256) (hash_node sha256)).toList
                = ((PTree.node p t).root (hash_leaf sha256) (hash_node sha256)).toList := rfl
          -- the merged node is pushed one height up, where the node's own level has it
          have hpush : ∀ j, pushNode nodes (h + 1)
              ((PTree.node p t).root (hash_leaf sha256) (hash_node sha256)).toList j
                = (rest.level (hash_leaf sha256) (hash_node sha256) j ++
                  (PTree.node p t).level (hash_leaf sha256) (hash_node sha256) j).map
                    (·.toList) := by
            intro j
            rw [pushNode, PTree.level, Function.update_apply]
            by_cases hj : j = h + 1
            · subst hj
              rw [if_pos rfl, if_pos rfl, hnodes, MountainRange.level]
              simp
            · rw [if_neg hj, if_neg hj, hnodes, MountainRange.level]
              simp
          simp only [hnode, ih (PTree.node p t)
            (fun m hm => hroots m (List.mem_cons_of_mem _ hm)) _ hpush]
          rw [ZERO_eq]
          rfl

/-- The replay ends with the slots and the levels of the range. -/
theorem replay_eq {cs : List (BytesN 32)} (hz : sha256.NeverZero (appended_inputs sha256 cs)) :
    replay sha256 (serviceOf sha256 cs).leaves
      = (slotBuffers sha256 (MountainRange.ofList cs),
        levelBuffers sha256 (MountainRange.ofList cs)) := by
  induction cs using List.reverseRecOn with
  | nil => rfl
  | append_singleton cs c ih =>
      have hz' := hz.mono (MmrAccumulator.appended_inputs_concat cs c)
      have hleaves : (serviceOf sha256 (cs ++ [c])).leaves
          = (serviceOf sha256 cs).leaves ++ [(hash_leaf sha256 c).toList] := by
        simp [serviceOf]
      rw [hleaves, replay, List.foldl_append, ← replay, ih hz', MountainRange.ofList_concat]
      -- the leaf itself is pushed before the loop starts
      refine replayLoop_eq (MountainRange.ofList cs) (PTree.leaf c)
        (fun m hm => (MmrAccumulator.neZero_of_neverZero hz').root_ne hm) _ fun j => ?_
      rw [pushNode, PTree.level, Function.update_apply]
      by_cases hj : j = 0
      · rw [if_pos hj, if_pos hj, hj]
        simp
      · rw [if_neg hj, if_neg hj, List.append_nil]

/-! ## The climb -/

/-- Below a peak of height `H`, where the levels hold the siblings, the levels
have more than one node and the slots are free, the climb collects the siblings
up to the peak. -/
theorem collectSiblings_eq_drop {tempPeaks : List Buffer} {nodes : HeightNodes}
    {siblings : List Buffer} {H i : ℕ} {peak : Buffer} (hlen : siblings.length = H)
    (hpeak : tempPeaks[H]? = some peak) (hne : isZero peak = false)
    (hsib : ∀ j < H, (nodes j)[PTree.pairIndex (i / 2 ^ j)]? = siblings[j]?)
    (hnodes : ∀ j < H, (nodes j).length ≠ 1)
    (hfree : ∀ j < H, isZero (tempPeaks.getD j ZERO) = true) (fuel : ℕ) :
    ∀ h, h < H → H < h + fuel →
      collectSiblings tempPeaks nodes fuel (i / 2 ^ h) h = siblings.drop h := by
  induction fuel with
  | zero =>
      intro h hlt hfuel
      omega
  | succ _ ih =>
      intro h hlt hfuel
      have hget := hsib h hlt
      rw [List.getElem?_eq_getElem (by omega : h < siblings.length)] at hget
      rw [collectSiblings, ← PTree.pairIndex, hget, List.drop_eq_getElem_cons (by omega)]
      simp only
      have hpeakD : ¬isZero (tempPeaks.getD H ZERO) = true := by
        rw [List.getD_eq_getElem?_getD, hpeak]
        exact Bool.eq_false_iff.mp hne
      rcases Nat.eq_or_lt_of_le (Nat.succ_le_of_lt hlt) with heq | hlt'
      · -- the next slot is the peak's
        obtain ⟨hlong, -⟩ := List.getElem?_eq_some_iff.mp hpeak
        rw [← Nat.succ_eq_add_one, heq, if_neg (fun hone => hpeakD hone.2),
          if_pos ⟨hlong, hpeakD⟩, List.drop_of_length_le (by omega)]
      · -- neither `break` is taken below the peak
        rw [if_neg (fun hone => hnodes _ hlt' hone.1),
          if_neg (fun hlast => hlast.2 (hfree _ hlt')), Nat.div_div_eq_div_mul, ← pow_succ,
          ih _ hlt' (by omega)]

/-- The first active slot is the smallest mountain's. -/
theorem findIdx?_slots {h : ℕ} {r : MountainRange (BytesN 32) h} {m : Mountain (BytesN 32)}
    {ms : List (Mountain (BytesN 32))} (hms : r.mountains = m :: ms)
    (hroot : m.tree.root (hash_leaf sha256) (hash_node sha256) ≠ zero32) :
    (slotBuffers sha256 r).findIdx? (fun p => !isZero p) = some (m.height - h) := by
  induction hms using MountainRange.head_induction with
  | @free h _ hms ih =>
      have hle : h + 1 ≤ m.height := MountainRange.height_le (MountainRange.head_mem hms)
      have hzero : isZero zero32.toList = true := by rw [← ZERO_eq]; exact beq_self_eq_true _
      rw [slotBuffers, MountainRange.slots, List.map_cons, List.findIdx?_cons, hzero, ih]
      simp
      omega
  | here t _ hm =>
      subst hm
      have ht : isZero (t.root (hash_leaf sha256) (hash_node sha256)).toList = false := by
        rw [isZero_toList, Bool.eq_false_iff, Ne, MmrAccumulator.is_zero_iff]
        exact hroot
      rw [slotBuffers, MountainRange.slots, List.map_cons, List.findIdx?_cons, ht]
      simp

section Proof

variable {cs : List (BytesN 32)} {m : Mountain (BytesN 32)} {ms : List (Mountain (BytesN 32))}

/-- The proof that the service generates for the leaf at position `i`. -/
theorem generateProof_serviceOf (hz : sha256.NeverZero (appended_inputs sha256 cs))
    (hms : (MountainRange.ofList cs).mountains = m :: ms) {i : ℕ} {c : BytesN 32}
    (hc : cs[i]? = some c) :
    generateProof sha256 (serviceOf sha256 cs) i = .ok
      { leafHash := toHex (hash_leaf sha256 c).toList
        leafIndex := i
        siblings := (collectSiblings (slotBuffers sha256 (MountainRange.ofList cs))
          (levelBuffers sha256 (MountainRange.ofList cs))
          (slotBuffers sha256 (MountainRange.ofList cs)).length i 0).map toHex
        peaksSnapshot := (state_of sha256 cs).peaks.map (fun p => toHex p.toList)
        localPeakPos := m.height } := by
  have hleaf : (serviceOf sha256 cs).leaves[i]? = some (hash_leaf sha256 c).toList := by
    simp [serviceOf, hc]
  have hpeaks : (serviceOf sha256 cs).peaks = slotBuffers sha256 (MountainRange.ofList cs) := rfl
  have hsnap : (slotBuffers sha256 (MountainRange.ofList cs)).map toHex
      = (state_of sha256 cs).peaks.map (fun p => toHex p.toList) := List.map_map
  have hroot := (MmrAccumulator.neZero_of_neverZero hz).root_ne (MountainRange.head_mem hms)
  rw [generateProof, hleaf]
  simp only [replay_eq hz, hpeaks, hsnap, firstActive, findIdx?_slots hms hroot]
  rfl

/-- The smallest mountain, when it is a single leaf, is the last one: the climb
finds nothing next to it. -/
theorem collectSiblings_single (hms : (MountainRange.ofList cs).mountains = m :: ms)
    (hzero : m.height = 0) {i : ℕ} (hcov : MountainRange.Mountain.Covers m i)
    (tempPeaks : List Buffer) (fuel : ℕ) :
    collectSiblings tempPeaks (levelBuffers sha256 (MountainRange.ofList cs)) fuel i 0 = [] := by
  obtain ⟨k, hk⟩ : 2 ^ (m.height + 1) ∣ m.start :=
    MountainRange.dvd_start (MountainRange.head_mem hms)
  have hadd := MountainRange.head_start_add hms
  have hlen := MountainRange.length_level_mul (hash_leaf sha256) (hash_node sha256)
    (MountainRange.ofList cs) (Nat.le_refl 0)
  obtain ⟨hge, hlt⟩ := hcov
  rw [hzero] at hk hadd hlt
  -- the position is even, so its pair would come after it
  have hend : PTree.pairIndex i = (MountainRange.ofList cs).leaves.length := by
    rw [PTree.pairIndex, if_pos (by omega)]
    omega
  have hnone : (levelBuffers sha256 (MountainRange.ofList cs) 0)[PTree.pairIndex i]? = none := by
    rw [List.getElem?_eq_none_iff, List.length_map, hend]
    omega
  cases fuel with
  | zero => rfl
  | succ => rw [collectSiblings, ← PTree.pairIndex, hnone]

/-- For a leaf of the smallest mountain the climb collects the leaf's siblings. -/
theorem collectSiblings_head (hz : sha256.NeverZero (appended_inputs sha256 cs))
    (hms : (MountainRange.ofList cs).mountains = m :: ms) {i : ℕ}
    (hcov : MountainRange.Mountain.Covers m i) :
    collectSiblings (slotBuffers sha256 (MountainRange.ofList cs))
        (levelBuffers sha256 (MountainRange.ofList cs))
        (slotBuffers sha256 (MountainRange.ofList cs)).length i 0
      = (m.tree.siblings (hash_leaf sha256) (hash_node sha256) (i - m.start)).map (·.toList) := by
  have hlen : ((m.tree.siblings (hash_leaf sha256) (hash_node sha256) (i - m.start)).map
      (·.toList)).length = m.height := by
    rw [List.length_map, PTree.length_siblings]
  -- a peak that is a leaf has no siblings, and the climb reads one slot too far
  rcases Nat.eq_zero_or_pos m.height with hzero | hpos
  · rw [collectSiblings_single hms hzero hcov]
    exact (List.length_eq_zero_iff.mp (hlen.trans hzero)).symm
  have hm := MountainRange.head_mem hms
  have hpeak : (slotBuffers sha256 (MountainRange.ofList cs))[m.height]?
      = some (m.tree.root (hash_leaf sha256) (hash_node sha256)).toList := by
    have hslot := MountainRange.getElem?_slots (hash_leaf sha256) (hash_node sha256) zero32 hm
    rw [Nat.sub_zero] at hslot
    rw [slotBuffers, List.getElem?_map, hslot]
    rfl
  have hne : isZero (m.tree.root (hash_leaf sha256) (hash_node sha256)).toList = false := by
    rw [isZero_toList, Bool.eq_false_iff, Ne, MmrAccumulator.is_zero_iff]
    exact (MmrAccumulator.neZero_of_neverZero hz).root_ne hm
  have hsib : ∀ j < m.height,
      (levelBuffers sha256 (MountainRange.ofList cs) j)[PTree.pairIndex (i / 2 ^ j)]?
        = ((m.tree.siblings (hash_leaf sha256) (hash_node sha256) (i - m.start)).map
          (·.toList))[j]? := by
    intro j hj
    rw [List.getElem?_map, List.getElem?_map, MountainRange.getElem?_level_pairIndex _ _ hms hcov hj]
  have hnodes : ∀ j < m.height,
      (levelBuffers sha256 (MountainRange.ofList cs) j).length ≠ 1 := by
    intro j hj
    have htwo := MountainRange.two_le_length_level (hash_leaf sha256) (hash_node sha256) hms hj
    rw [List.length_map]
    omega
  have hfree : ∀ j < m.height,
      isZero ((slotBuffers sha256 (MountainRange.ofList cs)).getD j ZERO) = true := by
    intro j hj
    have hslot := MountainRange.getElem?_slots_of_lt_head (hash_leaf sha256) (hash_node sha256)
      zero32 hms (Nat.zero_le j) hj
    rw [Nat.sub_zero] at hslot
    rw [List.getD_eq_getElem?_getD, List.getElem?_map, hslot, ZERO_eq]
    exact beq_self_eq_true _
  obtain ⟨hlong, -⟩ := List.getElem?_eq_some_iff.mp hpeak
  have hclimb := collectSiblings_eq_drop hlen hpeak hne hsib hnodes hfree _ 0 hpos
    (by rw [Nat.zero_add]; exact hlong)
  rwa [pow_zero, Nat.div_one, List.drop_zero] at hclimb

/-- Putting `x` into the smallest mountain's slot replaces its peak. -/
theorem active_peaks_set_head (hz : sha256.NeverZero (appended_inputs sha256 cs))
    (hms : (MountainRange.ofList cs).mountains = m :: ms) {x : BytesN 32} (hx : x ≠ zero32) :
    active_peaks ((state_of sha256 cs).peaks.set m.height x)
      = x :: (peaks_of sha256 cs).tail := by
  have hm := MountainRange.head_mem hms
  have hslot : (state_of sha256 cs).peaks[m.height]?
      = some (m.tree.root (hash_leaf sha256) (hash_node sha256)) :=
    MountainRange.getElem?_slots _ _ zero32 hm
  obtain ⟨hlt, hget⟩ := List.getElem?_eq_some_iff.mp hslot
  have hfree : active_peaks ((state_of sha256 cs).peaks.take m.height) = [] := by
    apply List.filter_eq_nil_iff.mpr
    intro p hp
    obtain ⟨j, hj, rfl⟩ := List.mem_take_iff_getElem.mp hp
    have hzero : (state_of sha256 cs).peaks[j]? = some zero32 :=
      MountainRange.getElem?_slots_of_lt_head _ _ zero32 hms (Nat.zero_le j) (by omega)
    rw [(List.getElem?_eq_some_iff.mp hzero).2, (is_zero_iff _).mpr rfl]
    simp
  have hset : ∀ y : BytesN 32, y ≠ zero32 → active_peaks ((state_of sha256 cs).peaks.set m.height y)
      = y :: active_peaks ((state_of sha256 cs).peaks.drop (m.height + 1)) := by
    intro y hy
    rw [List.set_eq_take_append_cons_drop, if_pos hlt, active_peaks_append, hfree]
    simp [active_peaks, is_zero, hy]
  -- with the peak itself put back, the list is that of all peaks
  have hself := hset _ ((MmrAccumulator.neZero_of_neverZero hz).root_ne hm)
  rw [← hget, List.set_getElem_self, active_peaks_state_of hz] at hself
  rw [hset x hx, hself, List.tail_cons]

/-- The inputs hashed to append `cs` and to bag the peaks, with any one of them
in the place of the first. -/
def generated_inputs (sha256 : Sha256) (cs : List (BytesN 32)) : List Buffer :=
  appended_inputs sha256 cs ++
    (peaks_of sha256 cs).flatMap fun p => service_bag_inputs sha256 (p :: (peaks_of sha256 cs).tail)

/-- A proof with the right siblings for its leaf in the mountain `m'`, but with
the slot of the smallest mountain `m`: it verifies only if both peaks are one. -/
theorem verify_head_slot_iff (hz : sha256.NeverZero (appended_inputs sha256 cs))
    (hcf : sha256.CollisionFree (generated_inputs sha256 cs))
    (hms : (MountainRange.ofList cs).mountains = m :: ms) {m' : Mountain (BytesN 32)}
    (hm' : m' ∈ (MountainRange.ofList cs).mountains) {i : ℕ}
    (hcov : MountainRange.Mountain.Covers m' i) {c : BytesN 32} (hc : cs[i]? = some c) :
    (verifyProofAgainstCurrent sha256 (serviceOf sha256 cs) (toService
        { honest_proof sha256 c i m' (state_of sha256 cs).peaks with
          local_peak_pos := m.height })).valid = true ↔
      m'.tree.root (hash_leaf sha256) (hash_node sha256)
        = m.tree.root (hash_leaf sha256) (hash_node sha256) := by
  have hcs : cs ≠ [] := by rintro rfl; simp at hc
  have hroot' := (MmrAccumulator.neZero_of_neverZero hz).root_ne hm'
  have hpeaks : peaks_of sha256 cs = m.tree.root (hash_leaf sha256) (hash_node sha256) ::
      (peaks_of sha256 cs).tail := by
    rw [peaks_of, MountainRange.peaks, hms]
    rfl
  have hbagged : bagged sha256 { honest_proof sha256 c i m' (state_of sha256 cs).peaks with
      local_peak_pos := m.height }
        = m'.tree.root (hash_leaf sha256) (hash_node sha256) :: (peaks_of sha256 cs).tail := by
    rw [bagged, peaks_for_bag_eq_set, ← active_peaks_set_head hz hms hroot',
      ← local_root_honest_proof hm' hcov hc (state_of sha256 cs).peaks]
    rfl
  have hsnap : (state_of sha256 cs).peaks ≠ [] := by
    intro hnil
    have hslot : (state_of sha256 cs).peaks[m.height]? = _ :=
      MountainRange.getElem?_slots (hash_leaf sha256) (hash_node sha256) zero32
        (MountainRange.head_mem hms)
    rw [hnil] at hslot
    simp at hslot
  rw [verifyProofAgainstCurrent, getRoot_serviceOf hz, verifyProof_toService hsnap, hbagged,
    beq_iff_eq]
  constructor
  · intro h
    rw [hpeaks, List.tail_cons] at h
    by_cases htail : (peaks_of sha256 cs).tail = []
    · rw [htail] at h
      exact h
    · -- two bags of one tail are hashes of its bag with the two first peaks
      rw [bag_cons _ _ _ htail, bag_cons _ _ _ htail] at h
      have hmem : ∀ p ∈ peaks_of sha256 cs,
          MmrAccumulator.node_message p (bag (hash_node sha256) zero32 (peaks_of sha256 cs).tail)
            ∈ generated_inputs sha256 cs := by
        intro p hp
        refine List.mem_append_right _ (List.mem_flatMap.mpr ⟨p, hp, ?_⟩)
        rw [service_bag_inputs, bagInputs_cons _ _ _ htail]
        exact List.mem_cons_self
      have hm := hmem _ (List.mem_map_of_mem hm')
      have hhead := hmem _ (by rw [hpeaks]; exact List.mem_cons_self)
      exact (MmrAccumulator.node_message_inj (hcf hm hhead h)).1
  · intro h
    rw [h, ← hpeaks]

/-- The smallest mountain's peak differs from all the others. -/
theorem root_ne_head (hcf : sha256.CollisionFree (generated_inputs sha256 cs))
    (hms : (MountainRange.ofList cs).mountains = m :: ms) {m' : Mountain (BytesN 32)}
    (hm' : m' ∈ ms) :
    m'.tree.root (hash_leaf sha256) (hash_node sha256)
      ≠ m.tree.root (hash_leaf sha256) (hash_node sha256) := by
  intro hroot
  have happ : appended_inputs sha256 cs ⊆ generated_inputs sha256 cs := List.subset_append_left _ _
  have hleaf : ∀ n ∈ (MountainRange.ofList cs).mountains, ∀ c ∈ n.tree.leaves,
      MmrAccumulator.leaf_message c ∈ generated_inputs sha256 cs :=
    fun n hn c hc => happ (MmrAccumulator.tree_leaf_inputs hn c hc)
  have hnode : ∀ n ∈ (MountainRange.ofList cs).mountains,
      ∀ p ∈ n.tree.nodeInputs (hash_leaf sha256) (hash_node sha256),
        MmrAccumulator.node_message p.1 p.2 ∈ generated_inputs sha256 cs :=
    fun n hn p hp => happ (MmrAccumulator.range_node_inputs p
      (MountainRange.tree_nodeInputs_subset _ _ hn hp))
  have hm := MountainRange.head_mem hms
  have hm'' : m' ∈ (MountainRange.ofList cs).mountains := by
    rw [hms]; exact List.mem_cons_of_mem _ hm'
  have hleaves := PTree.leaves_eq_of_root_eq (MmrAccumulator.separated_of_collisionFree hcf)
    m'.tree m.tree (hleaf m' hm'') (hleaf m hm) (hnode m' hm'') (hnode m hm) hroot
  have hpow := congrArg List.length hleaves
  rw [PTree.length_leaves, PTree.length_leaves] at hpow
  exact (MountainRange.head_height_lt hms hm').ne
    (Nat.pow_right_injective (Nat.le_refl 2) hpow.symm)

end Proof

/-- **The generated proofs, exactly.** After any calls that append `cs`, the
proof generated for position `i` verifies and carries the siblings of its
mountain if and only if `i` is among the last `2 ^ k` positions for some power of
two that divides the number of leaves. -/
theorem generateProof_valid_iff {calls : List AppendCall} {cs : List (BytesN 32)}
    (hcalls : calls.flatMap AppendCall.commitments = cs) {i : ℕ} (hi : i < cs.length)
    (hz : sha256.NeverZero (appended_inputs sha256 cs))
    (hcf : sha256.CollisionFree (generated_inputs sha256 cs)) :
    ∃ m proof, (MountainRange.ofList cs).mountainOf i = some m ∧
      generateProof sha256 (calls.foldl (AppendCall.run sha256) newService) i = .ok proof ∧
      (((verifyProofAgainstCurrent sha256 (calls.foldl (AppendCall.run sha256) newService)
            proof).valid = true ∧
          proof.siblings
            = (m.tree.siblings (hash_leaf sha256) (hash_node sha256) (i - m.start)).map
              (fun s => toHex s.toList)) ↔
        ∃ k, 2 ^ k ∣ cs.length ∧ cs.length - 2 ^ k ≤ i) := by
  have hlen : (MountainRange.ofList cs).leaves.length = cs.length := by
    rw [MountainRange.leaves_ofList]
  obtain ⟨m', hof⟩ := MountainRange.exists_mountainOf _ (hlen ▸ hi)
  obtain ⟨hm', hcov'⟩ := MountainRange.mountainOf_eq_some hof
  have hc := List.getElem?_eq_getElem hi
  rw [run_new (by rw [hcalls]; exact hz), hcalls]
  rcases hms : (MountainRange.ofList cs).mountains with _ | ⟨m, ms⟩
  · rw [hms] at hm'
    simp at hm'
  refine ⟨m', _, hof, generateProof_serviceOf hz hms hc, ?_⟩
  rw [← hlen, ← MountainRange.head_start_le_iff hms]
  have hverify := verify_head_slot_iff hz hcf hms hm' hcov' hc
  constructor
  · rintro ⟨hvalid, hsib⟩
    -- with the right siblings the wrong slot is what fails
    dsimp only at hsib
    rw [hsib] at hvalid
    by_contra hlt
    have hmem : m' ∈ ms := by
      rw [hms] at hm'
      rcases List.mem_cons.mp hm' with rfl | hmem
      · exact absurd hcov'.1 hlt
      · exact hmem
    exact root_ne_head hcf hms hmem (hverify.mp hvalid)
  · intro hstart
    have hcov : MountainRange.Mountain.Covers m i :=
      ⟨hstart, by rw [MountainRange.head_start_add hms, hlen]; exact hi⟩
    obtain rfl : m' = m := by
      rw [MountainRange.mountainOf, hms, List.find?_cons_of_pos (by simpa using hcov)] at hof
      exact (Option.some.inj hof).symm
    have hsib := collectSiblings_head hz hms hcov
    refine ⟨?_, by rw [hsib, List.map_map]; rfl⟩
    rw [hsib, List.map_map]
    exact hverify.mpr rfl

theorem generateProof_valid_iff_last :
    ∃ m proof, (MountainRange.ofList MmrAccumulator.sample_commitments).mountainOf 2 = some m ∧
      generateProof Fips.sha256
        (MmrAgreement.sample_calls.foldl (AppendCall.run Fips.sha256) newService) 2 = .ok proof ∧
      (((verifyProofAgainstCurrent Fips.sha256
            (MmrAgreement.sample_calls.foldl (AppendCall.run Fips.sha256) newService)
            proof).valid = true ∧
          proof.siblings
            = (m.tree.siblings (hash_leaf Fips.sha256) (hash_node Fips.sha256) (2 - m.start)).map
              (fun s => toHex s.toList)) ↔
        ∃ k, 2 ^ k ∣ MmrAccumulator.sample_commitments.length ∧
          MmrAccumulator.sample_commitments.length - 2 ^ k ≤ 2) := by
  have hcalls : MmrAgreement.sample_calls.flatMap AppendCall.commitments
      = MmrAccumulator.sample_commitments := rfl
  exact generateProof_valid_iff hcalls (by decide) MmrAccumulator.sample_appended_neverZero
    (by decide +kernel)

/-- After three commitments the proof generated for the first does not verify. -/
theorem generateProof_invalid_first :
    Fips.sha256.NeverZero (appended_inputs Fips.sha256 MmrAccumulator.sample_commitments) ∧
    ∃ proof, generateProof Fips.sha256
        (MmrAgreement.sample_calls.foldl (AppendCall.run Fips.sha256) newService) 0 = .ok proof ∧
      (verifyProofAgainstCurrent Fips.sha256
        (MmrAgreement.sample_calls.foldl (AppendCall.run Fips.sha256) newService)
        proof).valid = false := by
  have hz := MmrAccumulator.sample_appended_neverZero
  have hrun : MmrAgreement.sample_calls.foldl (AppendCall.run Fips.sha256) newService
      = serviceOf Fips.sha256 MmrAccumulator.sample_commitments := run_new hz
  have hproof : generateProof Fips.sha256
      (serviceOf Fips.sha256 MmrAccumulator.sample_commitments) 0 = .ok _ :=
    generateProof_serviceOf hz rfl rfl
  rw [hrun]
  exact ⟨hz, _, hproof, by decide +kernel⟩

end BridgeWatch.MmrService

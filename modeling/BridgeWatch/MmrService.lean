/-
The accumulator service, `backend/src/services/mmrAccumulator.service.ts`.

The service is the backend's mirror of the accumulator contract. Its functions
stand here under their names, on `Buffer`s of any length and on the hexadecimal
strings that its proofs are made of. `append` and the replay inside
`generateProof` are loops along the slots, like the contract's; the sibling loop
of `generateProof` climbs one height per round, so the number of slots left is
its fuel and the loop condition at once.

`serviceOf sha256 cs` is the state after the commitments `cs`, and
`run_new` says that any mixture of `append` and `appendBatch` calls ends there.
Its peaks are the contract's, byte for byte. What differs is the bagging: the
service bags with the inner-node hash, prefix included, and the contract with
the bare concatenation.
-/
import BridgeWatch.Js
import BridgeWatch.MmrAccumulator

set_option autoImplicit false

namespace BridgeWatch.MmrService

open HashPath
open BridgeWatch.MmrAccumulator (hash_leaf hash_node leaf_message node_message)

/-! ## The service -/

structure MmrProof where
  leafHash : JsString
  leafIndex : ℕ
  siblings : List JsString
  peaksSnapshot : List JsString
  localPeakPos : ℕ
  deriving DecidableEq

structure MmrAppendResult where
  leafIndex : ℕ
  leafHash : JsString
  newRoot : JsString
  deriving DecidableEq

structure MmrVerifyResult where
  valid : Bool
  reconstructedRoot : JsString
  deriving DecidableEq

/-- The fields the service reads: the slots and the leaf hashes. -/
structure MmrAccumulatorService where
  peaks : List Buffer
  leaves : List Buffer
  deriving DecidableEq

/-- `new MmrAccumulatorService()`. -/
def newService : MmrAccumulatorService := { peaks := [], leaves := [] }

def ZERO : Buffer := List.replicate 32 0

section Service

variable (sha256 : Sha256)

def hashLeaf (data : Buffer) : Buffer := (sha256 (0x00 :: data)).toList

def hashNode (left right : Buffer) : Buffer := (sha256 (0x01 :: (left ++ right))).toList

def isZero (buf : Buffer) : Bool := buf == ZERO

def bagPeaks (peaks : List Buffer) : Buffer :=
  let active := peaks.filter (fun p => !isZero p)
  match active.reverse with
  | [] => ZERO
  | acc :: rest => rest.foldl (fun acc p => hashNode sha256 p acc) acc

/-- `getRoot()`. -/
def getRoot (svc : MmrAccumulatorService) : JsString := toHex (bagPeaks sha256 svc.peaks)

/-- The `while` loop of `append` and the placement after it, from slot `h` on. -/
def appendLoop : List Buffer → Buffer → List Buffer
  | [], current => [current]
  | p :: peaks, current =>
      if isZero p then current :: peaks
      else ZERO :: appendLoop peaks (hashNode sha256 p current)

/-- `append(rawCommitment)`: the result, and the service afterwards. -/
def append (svc : MmrAccumulatorService) (rawCommitment : Buffer) :
    Js MmrAppendResult × MmrAccumulatorService :=
  if rawCommitment.length ≠ 32 then
    (throwNew (js "rawCommitment must be exactly 32 bytes"), svc)
  else
    let leafIndex := svc.leaves.length
    let leafHash := hashLeaf sha256 rawCommitment
    let svc' : MmrAccumulatorService :=
      { peaks := appendLoop sha256 svc.peaks leafHash, leaves := svc.leaves ++ [leafHash] }
    (.ok { leafIndex := leafIndex, leafHash := toHex leafHash, newRoot := getRoot sha256 svc' },
      svc')

/-- `appendBatch(commitments)`: a throw ends the batch and keeps what was appended. -/
def appendBatch (svc : MmrAccumulatorService) :
    List Buffer → Js (List MmrAppendResult) × MmrAccumulatorService
  | [] => (.ok [], svc)
  | c :: commitments =>
      match append sha256 svc c with
      | (.error e, svc') => (.error e, svc')
      | (.ok result, svc') =>
          match appendBatch svc' commitments with
          | (.error e, svc'') => (.error e, svc'')
          | (.ok results, svc'') => (.ok (result :: results), svc'')

structure SerializedMmr where
  peaks : List JsString
  leaves : List JsString
  leafCount : ℕ

def serialize (svc : MmrAccumulatorService) : SerializedMmr where
  peaks := svc.peaks.map toHex
  leaves := svc.leaves.map toHex
  leafCount := svc.leaves.length

def fromSerialized (data : SerializedMmr) : MmrAccumulatorService where
  peaks := data.peaks.map fromHex
  leaves := data.leaves.map fromHex

/-- `heightNodes`, a map from heights to the nodes stored there; a height that is
not a key reads as the empty list. -/
abbrev HeightNodes := ℕ → List Buffer

/-- `heightNodes.get(h).push(node)`, after creating the list where it is missing. -/
def pushNode (nodes : HeightNodes) (h : ℕ) (node : Buffer) : HeightNodes :=
  Function.update nodes h (nodes h ++ [node])

/-- The inner `while` loop of the replay, from slot `h` on. -/
def replayLoop : ℕ → List Buffer → Buffer → HeightNodes → List Buffer × HeightNodes
  | _, [], cur, nodes => ([cur], nodes)
  | h, p :: tempPeaks, cur, nodes =>
      if isZero p then (cur :: tempPeaks, nodes)
      else
        let cur' := hashNode sha256 p cur
        let rest := replayLoop (h + 1) tempPeaks cur' (pushNode nodes (h + 1) cur')
        (ZERO :: rest.1, rest.2)

/-- One leaf of the replay. -/
def replayLeaf (s : List Buffer × HeightNodes) (leaf : Buffer) : List Buffer × HeightNodes :=
  replayLoop sha256 0 s.1 leaf (pushNode s.2 0 leaf)

/-- The replay of all insertions: `tempPeaks` and `heightNodes`. -/
def replay (leaves : List Buffer) : List Buffer × HeightNodes :=
  leaves.foldl (replayLeaf sha256) ([], fun _ => [])

/-- The sibling loop: `fuel` is `tempPeaks.length - h`, so that the loop condition
holds exactly while there is fuel. The two `break`s after a step are in the order
of the source. -/
def collectSiblings (tempPeaks : List Buffer) (nodes : HeightNodes) :
    (fuel : ℕ) → (pos h : ℕ) → List Buffer
  | 0, _, _ => []
  | fuel + 1, pos, h =>
      let siblingPos := if pos % 2 = 0 then pos + 1 else pos - 1
      match (nodes h)[siblingPos]? with
      | none => []
      | some sibling =>
          let h' := h + 1
          if (nodes h').length = 1 ∧ isZero (tempPeaks.getD h' ZERO) then [sibling]
          else if h' < tempPeaks.length ∧ ¬isZero (tempPeaks.getD h' ZERO) then [sibling]
          else sibling :: collectSiblings tempPeaks nodes fuel (pos / 2) h'

/-- `localPeakPos`: the first slot that is not zero, or 0 when there is none. -/
def firstActive (peaks : List Buffer) : ℕ :=
  (peaks.findIdx? (fun p => !isZero p)).getD 0

/-- `generateProof(leafIndex)`. -/
def generateProof (svc : MmrAccumulatorService) (leafIndex : ℕ) : Js MmrProof :=
  match svc.leaves[leafIndex]? with
  | none =>
      throwNew (js "leafIndex " ++ jsNat leafIndex ++ js " out of range [0, " ++
        jsNat svc.leaves.length ++ js ")")
  | some leafHash =>
      let (tempPeaks, heightNodes) := replay sha256 svc.leaves
      .ok
        { leafHash := toHex leafHash
          leafIndex := leafIndex
          siblings :=
            (collectSiblings tempPeaks heightNodes tempPeaks.length leafIndex 0).map toHex
          peaksSnapshot := svc.peaks.map toHex
          localPeakPos := firstActive svc.peaks }

/-! ## The verifier -/

/-- Step 1 of `verifyProof`: the loop over the siblings. -/
def walkSiblings (current : Buffer) (pos : ℕ) (siblings : List JsString) : Buffer :=
  (siblings.foldl (fun (s : Buffer × ℕ) sib =>
    let sibBuf := fromHex sib
    (if s.2 % 2 = 0 then hashNode sha256 s.1 sibBuf else hashNode sha256 sibBuf s.1, s.2 / 2))
    (current, pos)).1

/-- Step 2 of `verifyProof`. -/
def peaksForBag (proof : MmrProof) (current : Buffer) : List Buffer :=
  proof.peaksSnapshot.mapIdx (fun i p => if i = proof.localPeakPos then current else fromHex p)

/-- `verifyProof(proof, expectedRoot)`. -/
def verifyProof (proof : MmrProof) (expectedRoot : JsString) : MmrVerifyResult :=
  if proof.peaksSnapshot.length = 0 then { valid := false, reconstructedRoot := [] }
  else
    let current := walkSiblings sha256 (fromHex proof.leafHash) proof.leafIndex proof.siblings
    let reconstructedRoot := toHex (bagPeaks sha256 (peaksForBag proof current))
    { valid := reconstructedRoot == expectedRoot, reconstructedRoot := reconstructedRoot }

/-- `verifyProofAgainstCurrent(proof)`. -/
def verifyProofAgainstCurrent (svc : MmrAccumulatorService) (proof : MmrProof) : MmrVerifyResult :=
  verifyProof sha256 proof (getRoot sha256 svc)

/-- A call that appends 32-byte commitments. -/
inductive AppendCall where
  | append (c : BytesN 32)
  | appendBatch (cs : List (BytesN 32))

/-- The service after a call. -/
def AppendCall.run (svc : MmrAccumulatorService) : AppendCall → MmrAccumulatorService
  | .append c => (MmrService.append sha256 svc c.toList).2
  | .appendBatch cs => (MmrService.appendBatch sha256 svc (cs.map (·.toList))).2

/-- The commitments of a call, in order. -/
def AppendCall.commitments : AppendCall → List (BytesN 32)
  | .append c => [c]
  | .appendBatch cs => cs

end Service

/-! ## Digests as buffers -/

section Digests

variable (sha256 : Sha256)

@[simp] theorem toList_hash_leaf (c : BytesN 32) :
    (hash_leaf sha256 c).toList = hashLeaf sha256 c.toList := rfl

theorem toList_hash_node (l r : BytesN 32) :
    (hash_node sha256 l r).toList = hashNode sha256 l.toList r.toList := rfl

theorem ZERO_eq : ZERO = zero32.toList := by decide

@[simp] theorem isZero_toList (b : BytesN 32) :
    isZero b.toList = MmrAccumulator.is_zero b := by
  rw [isZero, MmrAccumulator.is_zero, ZERO_eq, Bool.eq_iff_iff, beq_iff_eq, beq_iff_eq,
    BytesN.toList_inj]

theorem filter_isZero_map (ps : List (BytesN 32)) :
    (ps.map (·.toList)).filter (fun p => !isZero p)
      = (MmrAccumulator.active_peaks ps).map (·.toList) := by
  rw [List.filter_map, MmrAccumulator.active_peaks]
  congr 1
  exact List.filter_congr fun p _ => by simp

/-- The bag of digests, in the service's hash. -/
theorem bagPeaks_map (ps : List (BytesN 32)) :
    bagPeaks sha256 (ps.map (·.toList))
      = (PeakBag.bag (hash_node sha256) zero32 (MmrAccumulator.active_peaks ps)).toList := by
  unfold bagPeaks
  simp only [filter_isZero_map]
  generalize MmrAccumulator.active_peaks ps = qs
  rcases List.eq_nil_or_concat' qs with rfl | ⟨qs, last, rfl⟩
  · exact ZERO_eq
  · rw [← PeakBag.bag_map (fun b : BytesN 32 => b.toList)
      (toList_hash_node sha256), List.map_append, List.map_singleton, List.reverse_append,
      PeakBag.bag_eq_foldl]
    rfl

/-- The loop of `append` on digests is the contract's. -/
theorem appendLoop_map (ps : List (BytesN 32)) (current : BytesN 32) :
    appendLoop sha256 (ps.map (·.toList)) current.toList
      = (MmrAccumulator.append_loop sha256 ps current).map (·.toList) := by
  induction ps generalizing current with
  | nil => rfl
  | cons _ _ ih =>
      rw [List.map_cons, appendLoop, MmrAccumulator.append_loop, isZero_toList]
      split_ifs
      · rfl
      · rw [← toList_hash_node, ih, List.map_cons]
        congr 1

end Digests

/-! ## The state after a run -/

section Run

variable (sha256 : Sha256)

/-- The service after the commitments `cs`. -/
def serviceOf (cs : List (BytesN 32)) : MmrAccumulatorService where
  peaks := (MmrAccumulator.state_of sha256 cs).peaks.map (·.toList)
  leaves := cs.map (fun c => hashLeaf sha256 c.toList)

variable {sha256}

theorem append_serviceOf {cs : List (BytesN 32)} {c : BytesN 32}
    (hz : sha256.NeverZero (MmrAccumulator.appended_inputs sha256 (cs ++ [c]))) :
    ∃ result, append sha256 (serviceOf sha256 cs) c.toList
      = (.ok result, serviceOf sha256 (cs ++ [c])) := by
  have hpeaks : appendLoop sha256 (serviceOf sha256 cs).peaks (hashLeaf sha256 c.toList)
      = (serviceOf sha256 (cs ++ [c])).peaks := by
    have hroots : ∀ m ∈ (MountainRange.ofList cs).mountains,
        m.tree.root (hash_leaf sha256) (hash_node sha256) ≠ zero32 := fun m hm =>
      (MmrAccumulator.neZero_of_neverZero
        (hz.mono (MmrAccumulator.appended_inputs_concat cs c))).root_ne hm
    rw [serviceOf, ← toList_hash_leaf, appendLoop_map, serviceOf, MmrAccumulator.state_of,
      MmrAccumulator.state_of, MountainRange.ofList_concat]
    exact congrArg _ (MmrAccumulator.append_loop_slots sha256 _ (PTree.leaf c) hroots)
  have hleaves : (serviceOf sha256 cs).leaves ++ [hashLeaf sha256 c.toList]
      = (serviceOf sha256 (cs ++ [c])).leaves := by simp [serviceOf]
  rw [append, if_neg (by simp)]
  simp only [hpeaks, hleaves]
  exact ⟨_, rfl⟩

theorem appendBatch_serviceOf {cs ds : List (BytesN 32)}
    (hz : sha256.NeverZero (MmrAccumulator.appended_inputs sha256 (cs ++ ds))) :
    ∃ results, appendBatch sha256 (serviceOf sha256 cs) (ds.map (·.toList))
      = (.ok results, serviceOf sha256 (cs ++ ds)) := by
  induction ds generalizing cs with
  | nil => exact ⟨[], by rw [List.append_nil]; rfl⟩
  | cons d ds ih =>
      -- the batch is a loop of `append`s: the first one, then the rest
      have hsplit : cs ++ d :: ds = (cs ++ [d]) ++ ds := by simp
      rw [hsplit] at hz ⊢
      have hz' := hz.mono (MmrAccumulator.appended_inputs_append (cs ++ [d]) ds)
      obtain ⟨result, hd⟩ := append_serviceOf hz'
      obtain ⟨results, hds⟩ := ih hz
      exact ⟨result :: results, by simp only [List.map_cons, appendBatch, hd, hds]⟩

/-- **The service after any run** of `append` and `appendBatch` calls. -/
theorem run_new {calls : List AppendCall}
    (hz : sha256.NeverZero
      (MmrAccumulator.appended_inputs sha256 (calls.flatMap AppendCall.commitments))) :
    calls.foldl (AppendCall.run sha256) newService
      = serviceOf sha256 (calls.flatMap AppendCall.commitments) := by
  induction calls using List.reverseRecOn with
  | nil => rfl
  | append_singleton _ call ih =>
      rw [List.flatMap_append, List.flatMap_singleton] at hz ⊢
      rw [List.foldl_append, ih (hz.mono (MmrAccumulator.appended_inputs_append _ _))]
      cases call with
      | append =>
          obtain ⟨result, h⟩ := append_serviceOf hz
          exact congrArg Prod.snd h
      | appendBatch =>
          obtain ⟨results, h⟩ := appendBatch_serviceOf hz
          exact congrArg Prod.snd h

theorem getRoot_serviceOf {cs : List (BytesN 32)}
    (hz : sha256.NeverZero (MmrAccumulator.appended_inputs sha256 cs)) :
    getRoot sha256 (serviceOf sha256 cs)
      = toHex (PeakBag.bag (hash_node sha256) zero32 (MmrAccumulator.peaks_of sha256 cs)).toList := by
  rw [getRoot, serviceOf, bagPeaks_map, MmrAccumulator.active_peaks_state_of hz]

end Run

end BridgeWatch.MmrService

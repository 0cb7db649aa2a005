/-
The transparency log's Merkle tree, `backend/src/services/transparencyLog/merkle.ts`.

The provers are recursions on slices of the leaf list that split it at
`splitPoint`, a loop over 32-bit shifts; the verifiers are loops over the proof
that see sizes only. The functions over raw leaves and their variants over leaf
hashes share their bodies, which take the hash of a tree (or of a leaf) as a
parameter here.

`splitPoint` ends for at most `2 ^ 30` leaves: beyond, its shifts overflow to
`-2 ^ 31` and then to 0, and it loops for ever. The other loops end always. A
recursion on slices gets the length of the list as fuel, one more than it needs.

The second half states what each function computes in terms of `SplitTree`: the
provers return the root and the siblings of a path, the verifiers climb along
its sides.
-/
import BridgeWatch.Js
import BridgeWatch.SplitTree

set_option autoImplicit false

namespace BridgeWatch.Merkle

open HashPath

/-! ## The source -/

/-- `Buffer | string`, as the verifiers take hashes. -/
inductive HashArg where
  | buffer (b : Buffer)
  | string (s : JsString)
  deriving DecidableEq

def toBuf : HashArg → Buffer
  | .buffer b => b
  | .string s => fromHex s

/-- The `while` loop of `splitPoint`. -/
def splitPointLoop (n : ℕ) : (fuel : ℕ) → (k : ℤ) → Js ℤ
  | 0, _ => .error .diverges
  | fuel + 1, k => if shl k 1 < n then splitPointLoop n fuel (shl k 1) else .ok k

/-- After 32 shifts `k` is 0 and stays 0, so that 33 rounds decide. -/
def splitPoint (n : ℕ) : Js ℤ := splitPointLoop n 33 1

section Source

variable (sha256 : Sha256)

def hashLeaf (data : Buffer) : Buffer := (sha256 (0x00 :: data)).toList

def hashChildren (left right : Buffer) : Buffer := (sha256 (0x01 :: (left ++ right))).toList

/-- The body of `merkleTreeHash` and `rootFromLeafHashes`, where `leaf` makes the
hash of a tree with one leaf. -/
def treeHash (leaf : Buffer → Buffer) : (fuel : ℕ) → List Buffer → Js Buffer
  | 0, _ => .error .diverges
  | fuel + 1, leaves =>
      let n := leaves.length
      if n = 0 then .ok (sha256 []).toList
      else if n = 1 then .ok (leaf (leaves.headD []))
      else do
        let k ← splitPoint n
        let left ← treeHash leaf fuel (sliceTo leaves k)
        let right ← treeHash leaf fuel (sliceFrom leaves k)
        return hashChildren sha256 left right

def merkleTreeHash (leaves : List Buffer) : Js Buffer :=
  treeHash sha256 (hashLeaf sha256) (leaves.length + 1) leaves

def merkleRootHex (leaves : List Buffer) : Js JsString := do
  let root ← merkleTreeHash sha256 leaves
  return toHex root

def rootFromLeafHashes (leafHashes : List HashArg) : Js Buffer :=
  treeHash sha256 id (leafHashes.length + 1) (leafHashes.map toBuf)

/-- The body of `inclusionProof` and `inclusionProofFromLeafHashes`, where `root`
makes the hash of a tree. -/
def inclusionPath (root : List Buffer → Js Buffer) :
    (fuel : ℕ) → (index : ℕ) → List Buffer → Js (List JsString)
  | 0, _, _ => .error .diverges
  | fuel + 1, index, leaves =>
      let n := leaves.length
      if n ≤ index then
        throwNew (js "inclusionProof: index " ++ jsNat index ++ js " out of range [0, " ++
          jsNat n ++ js ")")
      else if n = 1 then .ok []
      else do
        let k ← splitPoint n
        if (index : ℤ) < k then
          let path ← inclusionPath root fuel index (sliceTo leaves k)
          let sibling ← root (sliceFrom leaves k)
          return path ++ [toHex sibling]
        else
          let path ← inclusionPath root fuel (index - k).toNat (sliceFrom leaves k)
          let sibling ← root (sliceTo leaves k)
          return path ++ [toHex sibling]

def inclusionProof (index : ℕ) (leaves : List Buffer) : Js (List JsString) :=
  inclusionPath (merkleTreeHash sha256) (leaves.length + 1) index leaves

def inclusionProofFromLeafHashes (index : ℕ) (leafHashes : List HashArg) : Js (List JsString) :=
  inclusionPath (fun hs => rootFromLeafHashes sha256 (hs.map .buffer)) (leafHashes.length + 1)
    index (leafHashes.map toBuf)

/-- The body of `subProof` and `subProofLeafHashes`. -/
def subProof (root : List Buffer → Js Buffer) :
    (fuel : ℕ) → (m : ℕ) → List Buffer → (onPath : Bool) → Js (List Buffer)
  | 0, _, _, _ => .error .diverges
  | fuel + 1, m, leaves, onPath =>
      let n := leaves.length
      if m = n then
        if onPath then .ok [] else do
          let r ← root leaves
          return [r]
      else do
        let k ← splitPoint n
        if (m : ℤ) ≤ k then
          let path ← subProof root fuel m (sliceTo leaves k) onPath
          let sibling ← root (sliceFrom leaves k)
          return path ++ [sibling]
        else
          let path ← subProof root fuel (m - k).toNat (sliceFrom leaves k) false
          let sibling ← root (sliceTo leaves k)
          return path ++ [sibling]

/-- The body of `consistencyProof` and `consistencyProofFromLeafHashes`. -/
def consistencyPath (root : List Buffer → Js Buffer) (m : ℕ) (leaves : List Buffer) :
    Js (List JsString) :=
  let n := leaves.length
  if m = 0 ∨ n < m then
    throwNew (js "consistencyProof: m " ++ jsNat m ++ js " out of range (0, " ++ jsNat n ++ js "]")
  else if m = n then .ok []
  else do
    let path ← subProof root (n + 1) m leaves true
    return path.map toHex

def consistencyProof (m : ℕ) (leaves : List Buffer) : Js (List JsString) :=
  consistencyPath (merkleTreeHash sha256) m leaves

def consistencyProofFromLeafHashes (m : ℕ) (leafHashes : List HashArg) : Js (List JsString) :=
  consistencyPath (fun hs => rootFromLeafHashes sha256 (hs.map .buffer)) m (leafHashes.map toBuf)

/-- `Math.floor(Math.log2(x)) + 1`; `none` is `NaN`, the logarithm of a negative
number. The logarithm of an integer below `2 ^ 31` lies too far from the next
integer above it for rounding to reach it. -/
def bitLen (x : ℤ) : Option ℕ :=
  if x = 0 then some 0 else if x < 0 then none else some (Nat.log2 x.toNat + 1)

def onesCountLoop : (fuel : ℕ) → (x c : ℕ) → ℕ
  | 0, _, c => c
  | fuel + 1, x, c => if 0 < x then onesCountLoop fuel (x / 2) (c + x % 2) else c

def onesCount (x : ℕ) : ℕ := onesCountLoop x x 0

def trailingZerosLoop : (fuel : ℕ) → (x c : ℕ) → ℕ
  | 0, _, c => c
  | fuel + 1, x, c => if x % 2 = 0 then trailingZerosLoop fuel (x / 2) (c + 1) else c

def trailingZeros (x : ℕ) : ℕ := if x = 0 then 0 else trailingZerosLoop x x 0

/-- `[inner, border]`, for a positive `size`. A quotient by `2 ** NaN` is `NaN` and
has no bits to count. -/
def decompose (index size : ℕ) : Option ℕ × ℕ :=
  match bitLen (xor32 index (size - 1)) with
  | none => (none, 0)
  | some inner => (some inner, onesCount (index / 2 ^ inner))

def chainInner (seed : Buffer) (proof : List Buffer) (index : ℕ) : Buffer :=
  proof.zipIdx.foldl (fun acc h =>
    if index / 2 ^ h.2 % 2 = 0 then hashChildren sha256 acc h.1 else hashChildren sha256 h.1 acc)
    seed

def chainInnerRight (seed : Buffer) (proof : List Buffer) (index : ℕ) : Buffer :=
  proof.zipIdx.foldl (fun acc h =>
    if index / 2 ^ h.2 % 2 = 1 then hashChildren sha256 h.1 acc else acc) seed

def chainBorderRight (seed : Buffer) (proof : List Buffer) : Buffer :=
  proof.foldl (fun acc h => hashChildren sha256 h acc) seed

def rootFromInclusionProof (leafHash : HashArg) (index treeSize : ℕ) (proof : List HashArg) :
    Js Buffer :=
  if treeSize ≤ index then throwNew (js "rootFromInclusionProof: index >= treeSize")
  else
    let path := proof.map toBuf
    match decompose index treeSize with
    | (none, _) =>
        throwNew (js "rootFromInclusionProof: wrong proof size " ++ jsNat path.length ++
          js ", want NaN")
    | (some inner, border) =>
        if path.length ≠ inner + border then
          throwNew (js "rootFromInclusionProof: wrong proof size " ++ jsNat path.length ++
            js ", want " ++ jsNat (inner + border))
        else
          let res := chainInner sha256 (toBuf leafHash) (sliceTo path inner) index
          .ok (chainBorderRight sha256 res (sliceFrom path inner))

def verifyInclusionProof (leafHash : HashArg) (index treeSize : ℕ) (proof : List HashArg)
    (root : HashArg) : Bool :=
  match rootFromInclusionProof sha256 leafHash index treeSize proof with
  | .ok r => r == toBuf root
  | .error _ => false

/-- The end of `verifyConsistencyProof`, from the check of the proof's length on. -/
def verifyFolds (m shift : ℕ) (inner : ℤ) (border : ℕ) (seed : Buffer) (start : ℕ)
    (path : List Buffer) (r1 r2 : Buffer) : Bool :=
  if (path.length : ℤ) ≠ start + inner + border then false
  else
    let rest := sliceFrom path start
    let mask := (m - 1) / 2 ^ shift
    let h1 := chainInnerRight sha256 seed (sliceTo rest inner) mask
    let h1 := chainBorderRight sha256 h1 (sliceFrom rest inner)
    if h1 ≠ r1 then false
    else
      let h2 := chainInner sha256 seed (sliceTo rest inner) mask
      let h2 := chainBorderRight sha256 h2 (sliceFrom rest inner)
      h2 == r2

def verifyConsistencyProof (m n : ℕ) (proof : List HashArg) (rootM rootN : HashArg) : Bool :=
  let r1 := toBuf rootM
  let r2 := toBuf rootN
  let path := proof.map toBuf
  if n < m then false
  else if m = n then path.length == 0 && r1 == r2
  else if m = 0 then path.length == 0
  else if path.length = 0 then false
  else
    match decompose (m - 1) n with
    | (none, _) => false
    | (some inner, border) =>
        let shift := trailingZeros m
        if (m : ℤ) = shl 1 shift then
          verifyFolds sha256 m shift (inner - shift) border r1 0 path r1 r2
        else
          verifyFolds sha256 m shift (inner - shift) border (path.headD []) 1 path r1 r2

end Source

/-! ## The split -/

theorem splitPointLoop_eq {n p : ℕ} (hlt : 2 ^ p < n) (hle : n ≤ 2 ^ (p + 1)) (hp : p < 30)
    (fuel : ℕ) : ∀ j ≤ p, p < j + fuel → splitPointLoop n fuel (2 ^ j : ℕ) = .ok (2 ^ p : ℕ) := by
  induction fuel with
  | zero =>
      intro j hj hfuel
      omega
  | succ _ ih =>
      intro j hj hfuel
      have hpow : 2 ^ j * 2 ^ 1 < 2 ^ 31 := by
        rw [← pow_add]
        exact Nat.pow_lt_pow_right (by omega) (by omega)
      rw [splitPointLoop, shl_natCast (by omega) hpow, ← pow_add]
      rcases Nat.eq_or_lt_of_le hj with rfl | hj
      · rw [if_neg (by omega)]
      · have hmono : 2 ^ (j + 1) ≤ 2 ^ p := Nat.pow_le_pow_right (by omega) hj
        rw [if_pos (by omega), ih (j + 1) hj (by omega)]

/-- Up to `2 ^ 30` the loop finds the split. -/
theorem splitPoint_eq {n : ℕ} (h2 : 2 ≤ n) (hmax : n ≤ 2 ^ 30) :
    splitPoint n = .ok (SplitTree.split n : ℕ) := by
  obtain ⟨p, hp, hlt, hle⟩ := SplitTree.exists_split h2
  have hp30 : p < 30 := (Nat.pow_lt_pow_iff_right (by omega)).mp (Nat.lt_of_lt_of_le hlt hmax)
  rw [splitPoint, hp]
  exact splitPointLoop_eq hlt hle hp30 33 0 (Nat.zero_le p) (by omega)

/-! ## The provers -/

section Provers

variable {sha256 : Sha256}

/-- The root over digests. -/
def root (sha256 : Sha256) (hs : List Buffer) : Buffer :=
  SplitTree.mth (hashChildren sha256) (sha256 []).toList hs

/-- What one round of a recursion on slices knows about them. -/
theorem slices {leaves : List Buffer} (h2 : 2 ≤ leaves.length) (hmax : leaves.length ≤ 2 ^ 30) :
    splitPoint leaves.length = .ok (SplitTree.split leaves.length : ℕ) ∧
      (leaves.take (SplitTree.split leaves.length)).length = SplitTree.split leaves.length ∧
      (leaves.drop (SplitTree.split leaves.length)).length
        = leaves.length - SplitTree.split leaves.length ∧
      0 < SplitTree.split leaves.length ∧ SplitTree.split leaves.length < leaves.length :=
  ⟨splitPoint_eq h2 hmax, SplitTree.length_take_split h2, List.length_drop,
    SplitTree.split_pos _, SplitTree.split_lt h2⟩

theorem treeHash_eq (leaf : Buffer → Buffer) (fuel : ℕ) : ∀ leaves : List Buffer,
    leaves.length < fuel → leaves.length ≤ 2 ^ 30 →
    treeHash sha256 leaf fuel leaves = .ok (root sha256 (leaves.map leaf)) := by
  induction fuel with
  | zero =>
      intro _ h _
      exact absurd h (Nat.not_lt_zero _)
  | succ _ ih =>
      intro leaves hfuel hmax
      -- as the source: no leaf, one leaf, two or more
      rcases leaves with _ | ⟨x, _ | ⟨y, rest⟩⟩
      · rw [treeHash, List.map_nil, root, SplitTree.mth]
        rfl
      · rw [treeHash, List.map_singleton, root, SplitTree.mth_singleton]
        rfl
      · have h2 : 2 ≤ (x :: y :: rest).length := by simp
        generalize x :: y :: rest = leaves at *
        obtain ⟨hsplit, htake, hdrop, hpos, hlt⟩ := slices h2 hmax
        have hleft := ih (leaves.take (SplitTree.split leaves.length)) (by omega) (by omega)
        have hright := ih (leaves.drop (SplitTree.split leaves.length)) (by omega) (by omega)
        have hroot : root sha256 (leaves.map leaf)
            = hashChildren sha256 (root sha256 ((leaves.map leaf).take
                (SplitTree.split leaves.length)))
              (root sha256 ((leaves.map leaf).drop (SplitTree.split leaves.length))) := by
          rw [root, SplitTree.mth_of_two_le _ _ (by rwa [List.length_map]), List.length_map]
          rfl
        rw [treeHash, hroot, ← List.map_take, ← List.map_drop]
        simp only [if_neg (show leaves.length ≠ 0 by omega),
          if_neg (show leaves.length ≠ 1 by omega), hsplit, Js.ok_bind, sliceTo_natCast,
          sliceFrom_natCast, hleft, hright]
        rfl

theorem merkleTreeHash_eq {leaves : List Buffer} (hmax : leaves.length ≤ 2 ^ 30) :
    merkleTreeHash sha256 leaves = .ok (root sha256 (leaves.map (hashLeaf sha256))) :=
  treeHash_eq _ _ _ (Nat.lt_succ_self _) hmax

theorem rootFromLeafHashes_eq {leafHashes : List HashArg} (hmax : leafHashes.length ≤ 2 ^ 30) :
    rootFromLeafHashes sha256 leafHashes = .ok (root sha256 (leafHashes.map toBuf)) := by
  rw [rootFromLeafHashes, treeHash_eq _ _ _ (by simp) (by simpa using hmax), List.map_id]

variable {rootOf : List Buffer → Js Buffer} {leaf : Buffer → Buffer}

/-- The siblings of a path, as digests. -/
def siblings (sha256 : Sha256) (s m : ℕ) (hs : List Buffer) : List Buffer :=
  SplitTree.siblings (hashChildren sha256) (sha256 []).toList s m hs

theorem siblings_left {s m : ℕ} {hs : List Buffer} (h : 2 ^ s < hs.length)
    (hm : m ≤ SplitTree.split hs.length) :
    siblings sha256 s m hs = siblings sha256 s m (hs.take (SplitTree.split hs.length)) ++
      [root sha256 (hs.drop (SplitTree.split hs.length))] :=
  SplitTree.siblings_left _ _ h hm

theorem siblings_right {s m : ℕ} {hs : List Buffer} (h : 2 ^ s < hs.length)
    (hm : SplitTree.split hs.length < m) :
    siblings sha256 s m hs
      = siblings sha256 s (m - SplitTree.split hs.length)
          (hs.drop (SplitTree.split hs.length)) ++
        [root sha256 (hs.take (SplitTree.split hs.length))] :=
  SplitTree.siblings_right _ _ h hm

/-- The inclusion prover returns the siblings of the leaf. -/
theorem inclusionPath_eq
    (hroot : ∀ ls, ls.length ≤ 2 ^ 30 → rootOf ls = .ok (root sha256 (ls.map leaf))) (fuel : ℕ) :
    ∀ (index : ℕ) (leaves : List Buffer), leaves.length < fuel → leaves.length ≤ 2 ^ 30 →
      index < leaves.length →
      inclusionPath rootOf fuel index leaves
        = .ok ((siblings sha256 0 (index + 1) (leaves.map leaf)).map toHex) := by
  induction fuel with
  | zero =>
      intro _ _ h _ _
      exact absurd h (Nat.not_lt_zero _)
  | succ _ ih =>
      intro index leaves hfuel hmax hidx
      rw [inclusionPath]
      simp only [if_neg (show ¬leaves.length ≤ index by omega)]
      by_cases h1 : leaves.length = 1
      · rw [if_pos h1, siblings, SplitTree.siblings_of_le _ _ (by simp [h1])]
        rfl
      · obtain ⟨hsplit, htake, hdrop, hpos, hlt⟩ := slices (show 2 ≤ leaves.length by omega) hmax
        have hlen : 2 ^ 0 < (leaves.map leaf).length := by rw [List.length_map]; omega
        simp only [if_neg h1, hsplit, Js.ok_bind, sliceTo_natCast, sliceFrom_natCast,
          hroot _ (show (leaves.take (SplitTree.split leaves.length)).length ≤ 2 ^ 30 by omega),
          hroot _ (show (leaves.drop (SplitTree.split leaves.length)).length ≤ 2 ^ 30 by omega)]
        rcases Nat.lt_or_ge index (SplitTree.split leaves.length) with hleft | hright
        · rw [if_pos (by omega), ih _ _ (by omega) (by omega) (by omega),
            siblings_left hlen (by rw [List.length_map]; omega), List.length_map, List.map_append,
            List.map_take, List.map_drop]
          rfl
        · rw [if_neg (by omega), show ((index : ℤ) - (SplitTree.split leaves.length : ℕ)).toNat
              = index - SplitTree.split leaves.length by omega,
            ih _ _ (by omega) (by omega) (by omega),
            siblings_right hlen (by rw [List.length_map]; omega), List.length_map, List.map_append,
            List.map_take, List.map_drop, ← Nat.sub_add_comm hright]
          rfl

/-- The consistency prover returns the siblings of the last block of the old
tree, with the block's root in front unless the old tree is that block. -/
theorem subProof_eq
    (hroot : ∀ ls, ls.length ≤ 2 ^ 30 → rootOf ls = .ok (root sha256 (ls.map leaf))) {s : ℕ}
    (fuel : ℕ) : ∀ (m : ℕ) (leaves : List Buffer) (onPath : Bool), leaves.length < fuel →
      leaves.length ≤ 2 ^ 30 → 0 < m → m ≤ leaves.length → 2 ^ s ∣ m → ¬2 ^ (s + 1) ∣ m →
      (m < leaves.length ∨ ∃ p, leaves.length = 2 ^ p) →
      subProof rootOf fuel m leaves onPath
        = .ok (if onPath = true ∧ m = 2 ^ s then siblings sha256 s m (leaves.map leaf)
            else root sha256 (SplitTree.block s m (leaves.map leaf)) ::
              siblings sha256 s m (leaves.map leaf)) := by
  induction fuel with
  | zero =>
      intro _ _ _ h _ _ _ _ _ _
      exact absurd h (Nat.not_lt_zero _)
  | succ _ ih =>
      intro m leaves onPath hfuel hmax hpos hle hdvd hndvd hshape
      have hs : 2 ^ s ≤ m := Nat.le_of_dvd hpos hdvd
      rw [subProof]
      rcases Nat.eq_or_lt_of_le hle with rfl | hlt
      · -- only a perfect tree is its own last block
        obtain ⟨p, hp⟩ := hshape.resolve_left (Nat.lt_irrefl _)
        rw [hp] at hdvd hndvd
        have hps : ¬s + 1 ≤ p := fun h => hndvd (pow_dvd_pow 2 h)
        have hlen : leaves.length = 2 ^ s := by
          rw [hp]
          exact congrArg (2 ^ ·) (le_antisymm (by omega)
            ((Nat.pow_dvd_pow_iff_le_right (by omega)).mp hdvd))
        have hlen' : (leaves.map leaf).length ≤ 2 ^ s := by rw [List.length_map, hlen]
        have hblock := SplitTree.block_length hlen'
        rw [List.length_map] at hblock
        rw [hblock, siblings, SplitTree.siblings_of_le _ _ hlen', hroot _ hmax]
        cases onPath <;> simp [hlen, pure, Except.pure]
      · obtain ⟨hsplit, htake, hdrop, hk, hkn⟩ := slices (show 2 ≤ leaves.length by omega) hmax
        obtain ⟨p, hp, -, hnp⟩ := SplitTree.exists_split (show 2 ≤ leaves.length by omega)
        have hlen : 2 ^ s < (leaves.map leaf).length := by rw [List.length_map]; omega
        simp only [if_neg (show m ≠ leaves.length by omega), hsplit, Js.ok_bind, sliceTo_natCast,
          sliceFrom_natCast,
          hroot _ (show (leaves.take (SplitTree.split leaves.length)).length ≤ 2 ^ 30 by omega),
          hroot _ (show (leaves.drop (SplitTree.split leaves.length)).length ≤ 2 ^ 30 by omega)]
        rcases Nat.lt_or_ge (SplitTree.split leaves.length) m with hright | hleft
        · obtain ⟨m, rfl⟩ : ∃ m', m = SplitTree.split leaves.length + m' :=
            ⟨m - SplitTree.split leaves.length, by omega⟩
          have hsp : 2 ^ s ∣ SplitTree.split leaves.length :=
            SplitTree.dvd_split (show 2 ^ s < leaves.length by omega)
          have hdvd' : 2 ^ s ∣ m := (Nat.dvd_add_right hsp).mp hdvd
          have hle' : 2 ^ s ≤ SplitTree.split leaves.length := Nat.le_of_dvd hk hsp
          -- the split is divisible by twice the block, or is the block and too large
          have hndvd' : ¬2 ^ (s + 1) ∣ m := by
            intro h
            have hm := Nat.le_of_dvd (by omega) h
            have hs1 : s + 1 ≤ p := by
              by_contra hcon
              have : 2 ^ (p + 1) ≤ 2 ^ (s + 1) := Nat.pow_le_pow_right (by omega) (by omega)
              rw [pow_succ 2 p] at this hnp
              omega
            exact hndvd ((Nat.dvd_add_right (hp ▸ pow_dvd_pow 2 hs1)).mpr h)
          rw [if_neg (by omega), show (((SplitTree.split leaves.length + m : ℕ) : ℤ) -
              (SplitTree.split leaves.length : ℕ)).toNat = m by omega,
            ih m _ false (by omega) (by omega) (by omega) (by omega) hdvd' hndvd'
              (Or.inl (by omega)),
            if_neg (by simp), if_neg (by omega), siblings_right hlen (by
              rw [List.length_map]; exact hright), List.length_map, List.map_take, List.map_drop,
            SplitTree.block_drop _ (Nat.le_of_dvd (by omega) hdvd'), Nat.add_sub_cancel_left]
          rfl
        · rw [if_pos (by omega), ih m _ onPath (by omega) (by omega) hpos (by omega) hdvd hndvd
              (Or.inr ⟨p, by omega⟩), siblings_left hlen (by rw [List.length_map]; exact hleft),
            List.length_map, List.map_take, List.map_drop, SplitTree.block_take _ hs hleft]
          split_ifs <;> rfl

theorem consistencyPath_eq
    (hroot : ∀ ls, ls.length ≤ 2 ^ 30 → rootOf ls = .ok (root sha256 (ls.map leaf))) {s m : ℕ}
    {leaves : List Buffer} (hmax : leaves.length ≤ 2 ^ 30) (hpos : 0 < m)
    (hlt : m < leaves.length) (hdvd : 2 ^ s ∣ m) (hndvd : ¬2 ^ (s + 1) ∣ m) :
    consistencyPath rootOf m leaves
      = .ok ((if m = 2 ^ s then siblings sha256 s m (leaves.map leaf)
          else root sha256 (SplitTree.block s m (leaves.map leaf)) ::
            siblings sha256 s m (leaves.map leaf)).map toHex) := by
  have hsub := subProof_eq hroot (leaves.length + 1) m leaves true (Nat.lt_succ_self _) hmax hpos
    (Nat.le_of_lt hlt) hdvd hndvd (Or.inl hlt)
  simp only [true_and] at hsub
  rw [consistencyPath, if_neg (by omega), if_neg (by omega), hsub]
  rfl

end Provers

/-! ## The verifiers -/

section Verifiers

variable {sha256 : Sha256}

theorem bitLen_eq (x : ℕ) : bitLen x = some (Nat.size x) := by
  rcases Nat.eq_zero_or_pos x with rfl | hx
  · rfl
  · have hle : Nat.size x ≤ Nat.log2 x + 1 := Nat.size_le.mpr Nat.lt_log2_self
    have hlt : Nat.log2 x < Nat.size x := Nat.lt_size.mpr (Nat.log2_self_le (by omega))
    rw [bitLen, if_neg (by omega), if_neg (by omega), Int.toNat_natCast]
    exact congrArg some (by omega)

theorem onesCountLoop_eq (fuel : ℕ) : ∀ x c : ℕ, x ≤ fuel →
    onesCountLoop fuel x c = c + SplitTree.popCount x := by
  induction fuel with
  | zero =>
      intro x c h
      obtain rfl := Nat.le_zero.mp h
      simp [onesCountLoop, SplitTree.popCount]
  | succ _ ih =>
      intro x c h
      rw [onesCountLoop]
      rcases Nat.eq_zero_or_pos x with rfl | hx
      · simp [SplitTree.popCount]
      · rw [if_pos hx, ih _ _ (by omega), SplitTree.popCount_eq x, Nat.add_assoc]

theorem trailingZerosLoop_spec (fuel : ℕ) : ∀ x c : ℕ, 0 < x → x ≤ fuel →
    ∃ t, trailingZerosLoop fuel x c = c + t ∧ 2 ^ t ∣ x ∧ ¬2 ^ (t + 1) ∣ x := by
  induction fuel with
  | zero =>
      intro x c hx h
      omega
  | succ _ ih =>
      intro x c hx h
      rw [trailingZerosLoop]
      rcases Nat.mod_two_eq_zero_or_one x with heven | hodd
      · obtain ⟨y, rfl⟩ := Nat.dvd_of_mod_eq_zero heven
        obtain ⟨t, ht, hdvd, hndvd⟩ := ih y (c + 1) (by omega) (by omega)
        refine ⟨t + 1, ?_, ?_, ?_⟩
        · rw [if_pos heven, Nat.mul_div_cancel_left y (by omega), ht]
          omega
        · rw [pow_succ, Nat.mul_comm]
          exact Nat.mul_dvd_mul_left 2 hdvd
        · rw [pow_succ, Nat.mul_comm]
          intro hcon
          exact hndvd (Nat.dvd_of_mul_dvd_mul_left (by omega) hcon)
      · refine ⟨0, by rw [if_neg (by omega)]; rfl, one_dvd _, ?_⟩
        rw [Nat.zero_add, pow_one, Nat.dvd_iff_mod_eq_zero]
        omega

theorem trailingZeros_spec {x : ℕ} (hx : 0 < x) :
    2 ^ trailingZeros x ∣ x ∧ ¬2 ^ (trailingZeros x + 1) ∣ x := by
  obtain ⟨t, ht, hspec⟩ := trailingZerosLoop_spec x x 0 hx (Nat.le_refl x)
  rw [trailingZeros, if_neg (by omega), ht, Nat.zero_add]
  exact hspec

theorem decompose_eq {index size : ℕ} (hlt : index < size) (hmax : size ≤ 2 ^ 30) :
    decompose index size
      = (some (Nat.size (index ^^^ (size - 1))),
        SplitTree.popCount (index / 2 ^ Nat.size (index ^^^ (size - 1)))) := by
  have hxor : xor32 index (size - 1) = (index ^^^ (size - 1) : ℕ) :=
    xor32_of_lt (by omega) (by omega)
  simp only [decompose, hxor, bitLen_eq, onesCount, onesCountLoop_eq _ _ _ (Nat.le_refl _),
    Nat.zero_add]

theorem chainInner_eq (seed : Buffer) (proof : List Buffer) (index : ℕ) :
    chainInner sha256 seed proof index
      = climb (hashChildren sha256) seed (PTree.bits index proof.length) proof := by
  induction proof using List.reverseRecOn with
  | nil => rfl
  | append_singleton proof _ ih =>
      rw [List.length_append, List.length_singleton, PTree.bits_succ,
        climb_concat _ _ _ _ _ _ (PTree.length_bits _ _), ← ih, chainInner, List.zipIdx_append,
        List.foldl_append]
      -- the source reads the bit by dividing
      have hbit : index.testBit proof.length = decide (index / 2 ^ proof.length % 2 = 1) :=
        Nat.testBit_eq_decide_div_mod_eq
      rcases Nat.mod_two_eq_zero_or_one (index / 2 ^ proof.length) with h0 | h1
      · simp [step, children, hbit, h0, chainInner]
      · simp [step, children, hbit, h1, chainInner]

theorem chainInnerRight_eq (seed : Buffer) (proof : List Buffer) (index : ℕ) :
    chainInnerRight sha256 seed proof index
      = climbRight (hashChildren sha256) seed (PTree.bits index proof.length) proof := by
  induction proof using List.reverseRecOn with
  | nil => rfl
  | append_singleton proof _ ih =>
      rw [List.length_append, List.length_singleton, PTree.bits_succ,
        climbRight_append _ _ _ _ _ _ (PTree.length_bits _ _), ← ih, chainInnerRight,
        List.zipIdx_append, List.foldl_append]
      have hbit : index.testBit proof.length = decide (index / 2 ^ proof.length % 2 = 1) :=
        Nat.testBit_eq_decide_div_mod_eq
      rcases Nat.mod_two_eq_zero_or_one (index / 2 ^ proof.length) with h0 | h1
      · simp [climbRight, hbit, h0, chainInnerRight]
      · simp [climbRight, hbit, h1, chainInnerRight]

theorem chainBorderRight_eq (proof : List Buffer) : ∀ seed : Buffer,
    chainBorderRight sha256 seed proof
        = climb (hashChildren sha256) seed (List.replicate proof.length true) proof ∧
      chainBorderRight sha256 seed proof
        = climbRight (hashChildren sha256) seed (List.replicate proof.length true) proof := by
  induction proof with
  | nil =>
      intro _
      exact ⟨rfl, rfl⟩
  | cons h _ ih =>
      intro seed
      exact ih (hashChildren sha256 h seed)

/-- The two chains over a proof of the right length are one climb. -/
theorem chains_eq (sha256 : Sha256) {inner border : ℕ} (index : ℕ) (seed : Buffer) {path : List Buffer}
    (hlen : path.length = inner + border) :
    chainBorderRight sha256 (chainInner sha256 seed (path.take inner) index) (path.drop inner)
        = climb (hashChildren sha256) seed
          (PTree.bits index inner ++ List.replicate border true) path ∧
      chainBorderRight sha256 (chainInnerRight sha256 seed (path.take inner) index)
          (path.drop inner)
        = climbRight (hashChildren sha256) seed
          (PTree.bits index inner ++ List.replicate border true) path := by
  have htake : (path.take inner).length = inner := by rw [List.length_take]; omega
  have hdrop : (path.drop inner).length = border := by rw [List.length_drop]; omega
  have hbits : (PTree.bits index inner).length = (path.take inner).length := by
    rw [PTree.length_bits, htake]
  constructor
  · rw [(chainBorderRight_eq _ _).1, chainInner_eq, htake, hdrop, ← climb_append _ _ _ _ _ _ hbits,
      List.take_append_drop]
  · rw [(chainBorderRight_eq _ _).2, chainInnerRight_eq, htake, hdrop,
      ← climbRight_append _ _ _ _ _ _ hbits, List.take_append_drop]

/-- **The inclusion verifier** accepts exactly the proofs that are as long as the
leaf's path and climb along its sides to the root. -/
theorem verifyInclusionProof_iff {leafHash root : HashArg} {index treeSize : ℕ}
    {proof : List HashArg} (hlt : index < treeSize) (hmax : treeSize ≤ 2 ^ 30) :
    verifyInclusionProof sha256 leafHash index treeSize proof root = true ↔
      proof.length = (SplitTree.sides 0 (index + 1) treeSize).length ∧
        climb (hashChildren sha256) (toBuf leafHash) (SplitTree.sides 0 (index + 1) treeSize)
          (proof.map toBuf) = toBuf root := by
  -- `inner` and `border` of `decompose` are the two parts of the sides
  have hsides := SplitTree.sides_eq (s := 0) treeSize (one_dvd (index + 1)) (Nat.succ_pos index)
    hlt (Or.inr rfl)
  rw [Nat.add_sub_cancel, pow_zero, Nat.div_one, Nat.sub_zero] at hsides
  have hlen : (SplitTree.sides 0 (index + 1) treeSize).length
      = Nat.size (index ^^^ (treeSize - 1)) +
        SplitTree.popCount (index / 2 ^ Nat.size (index ^^^ (treeSize - 1))) := by
    rw [hsides, List.length_append, PTree.length_bits, List.length_replicate]
  rw [verifyInclusionProof, rootFromInclusionProof, if_neg (by omega), decompose_eq hlt hmax]
  simp only [List.length_map, ← hlen]
  by_cases hp : proof.length = (SplitTree.sides 0 (index + 1) treeSize).length
  · rw [if_neg (fun h => h hp)]
    simp only [sliceTo_natCast, sliceFrom_natCast]
    rw [(chains_eq sha256 index (toBuf leafHash) (by rw [List.length_map, hp, hlen])).1, ← hsides,
      beq_iff_eq]
    exact ⟨fun h => ⟨hp, h⟩, fun h => h.2⟩
  · rw [if_pos hp]
    constructor
    · intro h
      simp [throwNew] at h
    · intro h
      exact absurd h.1 hp

theorem verifyInclusionProof_of_le {leafHash root : HashArg} {index treeSize : ℕ}
    {proof : List HashArg} (hle : treeSize ≤ index) :
    verifyInclusionProof sha256 leafHash index treeSize proof root = false := by
  rw [verifyInclusionProof, rootFromInclusionProof, if_pos hle]
  rfl

/-- The verifier's two folds over `rest`, from `seed`: `rest` is as long as the
path of the last block of the old tree, and the seed climbs along its sides to
the new root and, hashing on the right only, to the old one. -/
def Folds (sha256 : Sha256) (m n : ℕ) (seed : Buffer) (rest : List Buffer) (r1 r2 : Buffer) :
    Prop :=
  rest.length = (SplitTree.sides (trailingZeros m) m n).length ∧
    climbRight (hashChildren sha256) seed (SplitTree.sides (trailingZeros m) m n) rest = r1 ∧
    climb (hashChildren sha256) seed (SplitTree.sides (trailingZeros m) m n) rest = r2

theorem verifyFolds_iff {m n : ℕ} (hpos : 0 < m) (hlt : m < n) (seed r1 r2 : Buffer)
    (path : List Buffer) (start : ℕ) :
    verifyFolds sha256 m (trailingZeros m)
        ((Nat.size ((m - 1) ^^^ (n - 1)) : ℕ) - (trailingZeros m : ℕ))
        (SplitTree.popCount ((m - 1) / 2 ^ Nat.size ((m - 1) ^^^ (n - 1)))) seed start path r1 r2
        = true ↔
      start ≤ path.length ∧ Folds sha256 m n seed (path.drop start) r1 r2 := by
  have hdvd := (trailingZeros_spec hpos).1
  have hsize := SplitTree.lt_size_xor hdvd hpos hlt
  have hsides := SplitTree.sides_eq n hdvd hpos (Nat.le_of_lt hlt) (Or.inl hlt)
  have hlen : (SplitTree.sides (trailingZeros m) m n).length
      = (Nat.size ((m - 1) ^^^ (n - 1)) - trailingZeros m) +
        SplitTree.popCount ((m - 1) / 2 ^ Nat.size ((m - 1) ^^^ (n - 1))) := by
    rw [hsides, List.length_append, PTree.length_bits, List.length_replicate]
  rw [verifyFolds, ← Int.ofNat_sub (Nat.le_of_lt hsize)]
  simp only [sliceFrom_natCast, sliceTo_natCast]
  rw [Folds, List.length_drop]
  by_cases hp : start ≤ path.length ∧
      path.length - start = (SplitTree.sides (trailingZeros m) m n).length
  · obtain ⟨h₁, h₂⟩ := chains_eq sha256 ((m - 1) / 2 ^ trailingZeros m) seed
      (show (path.drop start).length = _ by rw [List.length_drop, hp.2, hlen])
    rw [if_neg (by omega), h₁, h₂, ← hsides]
    by_cases hold : climbRight (hashChildren sha256) seed
        (SplitTree.sides (trailingZeros m) m n) (path.drop start) = r1
    · rw [if_neg (fun h => h hold), beq_iff_eq]
      exact ⟨fun h => ⟨hp.1, hp.2, hold, h⟩, fun h => h.2.2.2⟩
    · -- the old root is refused before the new one is computed
      rw [if_pos hold]
      constructor
      · intro h
        simp at h
      · intro h
        exact absurd h.2.2.1 hold
  · rw [if_pos (by omega)]
    constructor
    · intro h
      simp at h
    · intro h
      exact absurd ⟨h.1, h.2.1⟩ hp

/-- **The consistency verifier**, on two trees of different sizes: the seed is the
old root where the old tree is a single block, and the first hash of the proof
elsewhere. -/
theorem verifyConsistencyProof_iff {m n : ℕ} {proof : List HashArg} {rootM rootN : HashArg}
    (hpos : 0 < m) (hlt : m < n) (hmax : n ≤ 2 ^ 30) :
    verifyConsistencyProof sha256 m n proof rootM rootN = true ↔
      if m = 2 ^ trailingZeros m then
        Folds sha256 m n (toBuf rootM) (proof.map toBuf) (toBuf rootM) (toBuf rootN)
      else ∃ seed rest, proof.map toBuf = seed :: rest ∧
        Folds sha256 m n seed rest (toBuf rootM) (toBuf rootN) := by
  have hdvd := (trailingZeros_spec hpos).1
  have hs : 2 ^ trailingZeros m ≤ m := Nat.le_of_dvd hpos hdvd
  -- the 32-bit shift is exact here
  have hs30 : trailingZeros m ≤ 30 := by
    by_contra hcon
    have : 2 ^ 31 ≤ 2 ^ trailingZeros m := Nat.pow_le_pow_right (by omega) (by omega)
    omega
  have hshl : (m : ℤ) = shl 1 (trailingZeros m) ↔ m = 2 ^ trailingZeros m := by
    have hpow : 1 * 2 ^ trailingZeros m < 2 ^ 31 := by omega
    have h := shl_natCast (x := 1) (show trailingZeros m < 32 by omega) hpow
    rw [Nat.cast_one, Nat.one_mul] at h
    rw [h, Nat.cast_inj]
  -- the early refusal of an empty proof refuses nothing that the folds accept
  have hne : 0 < (SplitTree.sides (trailingZeros m) m n).length := by
    have hsize := SplitTree.lt_size_xor hdvd hpos hlt
    rw [SplitTree.sides_eq n hdvd hpos (Nat.le_of_lt hlt) (Or.inl hlt), List.length_append,
      PTree.length_bits]
    omega
  unfold verifyConsistencyProof
  simp only [if_neg (show ¬n < m by omega), if_neg (show m ≠ n by omega),
    if_neg (show m ≠ 0 by omega), decompose_eq (show m - 1 < n by omega) hmax, hshl]
  rcases hpath : proof.map toBuf with _ | ⟨h, path⟩
  · rw [if_pos (show ([] : List Buffer).length = 0 from rfl)]
    constructor
    · intro hcon
      simp at hcon
    · split_ifs
      · intro hf
        exact absurd hf.1 (by rw [List.length_nil]; omega)
      · rintro ⟨_, _, hnil, -⟩
        exact absurd hnil (by simp)
  · rw [if_neg (show (h :: path).length ≠ 0 by simp)]
    split_ifs
    · rw [verifyFolds_iff hpos hlt]
      exact ⟨fun hf => hf.2, fun hf => ⟨Nat.zero_le _, hf⟩⟩
    · rw [verifyFolds_iff hpos hlt]
      constructor
      · intro hf
        exact ⟨h, path, rfl, hf.2⟩
      · rintro ⟨_, _, heq, hf⟩
        obtain ⟨rfl, rfl⟩ := List.cons.inj heq
        exact ⟨by simp, hf⟩

end Verifiers

end BridgeWatch.Merkle

/-
The accumulator contract, `contracts/soroban/src/mmr_accumulator.rs`: the
storage after any run of `append` is the mountain range of the appended
commitments.

The contract's own functions come first, under their names. The `while` loop of
`append` walks the slots of `peaks` upwards, so it is the recursion
`append_loop` along that list. The storage holds the two keys the contract uses.

The representation is exact: `state_of sha256 cs` is *the* state after `cs`, and
`Appends.load_state_eq` says that every successful run from an empty accumulator,
by any callers, ends there. It needs that no digest in the range is the all-zero
string, because the contract marks a free slot by it.

The three kinds of hash input differ in length, 33 bytes for a leaf, 65 for an
inner node and 64 for a bagging, and the two longer ones are joined from 32-byte
halves. That is all the domain separation there is, and it is enough:
`separated_of_collisionFree`, `merge_injOn` and `root_ne_merge` turn
collision-freeness of SHA-256 on a list of inputs into what the tree libraries
ask for.
-/
import BridgeWatch.Soroban
import BridgeWatch.MountainRange
import BridgeWatch.PeakBag

set_option autoImplicit false

namespace BridgeWatch.MmrAccumulator

open HashPath

/-! ## The contract -/

inductive MmrError where
  | NotInitialized
  | AlreadyInitialized
  | Unauthorized
  | InvalidProof
  | InvalidLeafIndex
  | EmptyAccumulator
  | InvalidInput
  deriving DecidableEq, Repr

structure MmrState where
  /-- Number of leaves ever appended (`u64`). -/
  leaf_count : ℕ
  /-- One slot for each height, all-zero where no subtree of that height is complete. -/
  peaks : List (BytesN 32)
  /-- Number of active peaks. -/
  peak_count : ℕ
  deriving DecidableEq

structure MmrProof where
  leaf_hash : BytesN 32
  /-- 0-indexed position of the leaf in the overall sequence (`u64`). -/
  leaf_index : ℕ
  siblings : List (BytesN 32)
  peaks_snapshot : List (BytesN 32)
  /-- Index into `peaks_snapshot` (`u32`). -/
  local_peak_pos : ℕ
  deriving DecidableEq

/-- The persistent storage: the keys `ADMIN` and `STATE`. -/
structure MmrStorage (Address : Type) where
  admin : Option Address
  state : Option MmrState

variable {Address : Type}

/-- The inputs of the three hashes. -/
def leaf_message (data : BytesN 32) : Buffer := 0x00 :: data.toList

def node_message (left right : BytesN 32) : Buffer := 0x01 :: (left.toList ++ right.toList)

def merge_message (left right : BytesN 32) : Buffer := left.toList ++ right.toList

section Contract

variable (sha256 : Sha256)

def merge (left right : BytesN 32) : BytesN 32 := sha256 (merge_message left right)

def hash_leaf (data : BytesN 32) : BytesN 32 := sha256 (leaf_message data)

def hash_node (left right : BytesN 32) : BytesN 32 := sha256 (node_message left right)

def is_zero (h : BytesN 32) : Bool := h == zero32

def count_active_peaks (peaks : List (BytesN 32)) : ℕ :=
  peaks.foldl (fun count p => if !is_zero p then count + 1 else count) 0

def active_peaks (peaks : List (BytesN 32)) : List (BytesN 32) :=
  peaks.filter (fun p => !is_zero p)

/-- The loop runs from the last peak down to the first. -/
def bag_peaks (peaks : List (BytesN 32)) : BytesN 32 :=
  match peaks.reverse with
  | [] => zero32
  | last :: rest => rest.foldl (fun acc p => merge sha256 p acc) last

def load_state (env : MmrStorage Address) : MmrState :=
  env.state.getD { leaf_count := 0, peaks := [], peak_count := 0 }

def save_state (env : MmrStorage Address) (state : MmrState) : MmrStorage Address :=
  { env with state := some state }

def initialize_admin (env : MmrStorage Address) (admin : Address) :
    Call MmrError (MmrStorage Address) :=
  if env.admin.isSome then .error (.err .AlreadyInitialized)
  else .ok { env with admin := some admin }

def get_admin (env : MmrStorage Address) : Call MmrError Address :=
  ok_or env.admin .NotInitialized

/-- The `while` loop of `append` and the placement after it, from slot `h` on:
the list is `peaks[h..]`. An occupied slot is merged into `current` and vacated,
and `current` goes into the first free slot, or on top. -/
def append_loop : List (BytesN 32) → BytesN 32 → List (BytesN 32)
  | [], current => [current]
  | p :: peaks, current =>
      if is_zero p then current :: peaks
      else zero32 :: append_loop peaks (hash_node sha256 p current)

def append [DecidableEq Address] (auth : Address → Bool) (env : MmrStorage Address) (caller : Address)
    (raw_commitment : BytesN 32) : Call MmrError (ℕ × MmrStorage Address) := do
  let admin ← ok_or env.admin .NotInitialized
  (if caller ≠ admin then require_auth auth caller else require_auth auth admin)
  let state := load_state env
  let leaf_index := state.leaf_count
  let peaks := append_loop sha256 state.peaks (hash_leaf sha256 raw_commitment)
  let leaf_count ← u64_add state.leaf_count 1
  return (leaf_index, save_state env
    { leaf_count := leaf_count, peaks := peaks, peak_count := count_active_peaks peaks })

def get_root (env : MmrStorage Address) : Call MmrError (BytesN 32) :=
  let state := load_state env
  if state.leaf_count = 0 then .error (.err .EmptyAccumulator)
  else .ok (bag_peaks sha256 (active_peaks state.peaks))

def get_peaks (env : MmrStorage Address) : List (BytesN 32) := (load_state env).peaks

/-- Step 1 of the verifier: the loop over the siblings, carrying `pos`. -/
def walk_siblings (current : BytesN 32) (pos : ℕ) (siblings : List (BytesN 32)) : BytesN 32 :=
  (siblings.foldl (fun (s : BytesN 32 × ℕ) sib =>
    (if s.2 % 2 = 0 then hash_node sha256 s.1 sib else hash_node sha256 sib s.1, s.2 / 2))
    (current, pos)).1

/-- Step 2 of the verifier: the snapshot with the local root at `local_peak_pos`. -/
def peaks_for_bag (proof : MmrProof) (current : BytesN 32) : List (BytesN 32) :=
  proof.peaks_snapshot.mapIdx (fun i p => if i = proof.local_peak_pos then current else p)

def verify_mmr_proof (proof : MmrProof) (expected_root : BytesN 32) : Call MmrError Bool :=
  if proof.peaks_snapshot.length = 0 then .error (.err .InvalidInput)
  else
    let current := walk_siblings sha256 proof.leaf_hash proof.leaf_index proof.siblings
    let active := active_peaks (peaks_for_bag proof current)
    let reconstructed := bag_peaks sha256 active
    .ok (reconstructed == expected_root)

def verify_against_current (env : MmrStorage Address) (proof : MmrProof) : Call MmrError Bool :=
  let state := load_state env
  if state.leaf_count = 0 then .error (.err .EmptyAccumulator)
  else verify_mmr_proof sha256 proof (bag_peaks sha256 (active_peaks state.peaks))

/-- A run of successful `append` calls, by any callers: `Appends sha256 env cs env'`
appends the commitments `cs` in order and leads from `env` to `env'`. -/
inductive Appends [DecidableEq Address] :
    MmrStorage Address → List (BytesN 32) → MmrStorage Address → Prop
  | nil (env : MmrStorage Address) : Appends env [] env
  | append {env env' env'' : MmrStorage Address} {cs : List (BytesN 32)}
      (h : Appends env cs env') (auth : Address → Bool) (caller : Address) (c : BytesN 32)
      (leaf_index : ℕ) (hc : append sha256 auth env' caller c = .ok (leaf_index, env'')) :
      Appends env (cs ++ [c]) env''

end Contract

/-! ## What the hashes keep apart -/

theorem node_message_inj {l r l' r' : BytesN 32} (h : node_message l r = node_message l' r') :
    l = l' ∧ r = r' :=
  BytesN.append_inj (List.cons.inj h).2

theorem leaf_message_inj {c c' : BytesN 32} (h : leaf_message c = leaf_message c') : c = c' :=
  BytesN.toList_inj.mp (List.cons.inj h).2

theorem leaf_ne_node_message (c l r : BytesN 32) : leaf_message c ≠ node_message l r := by
  intro h
  have := congrArg List.length h
  simp [leaf_message, node_message] at this

theorem leaf_ne_merge_message (c l r : BytesN 32) : leaf_message c ≠ merge_message l r := by
  intro h
  have := congrArg List.length h
  simp [leaf_message, merge_message] at this

theorem node_ne_merge_message (l r l' r' : BytesN 32) :
    node_message l r ≠ merge_message l' r' := by
  intro h
  have := congrArg List.length h
  simp [node_message, merge_message] at this

theorem node_message_mem {ps : List (BytesN 32 × BytesN 32)} {p : BytesN 32 × BytesN 32}
    (hp : p ∈ ps) : node_message p.1 p.2 ∈ ps.map (fun p => node_message p.1 p.2) :=
  List.mem_map.mpr ⟨p, hp, rfl⟩

theorem merge_message_mem {ps : List (BytesN 32 × BytesN 32)} {p : BytesN 32 × BytesN 32}
    (hp : p ∈ ps) : merge_message p.1 p.2 ∈ ps.map (fun p => merge_message p.1 p.2) :=
  List.mem_map.mpr ⟨p, hp, rfl⟩

section Collision

variable {sha256 : Sha256} {ms : List Buffer} (hcf : sha256.CollisionFree ms)
include hcf

/-- Leaf and node hashes with inputs in `ms` do not collide. -/
theorem separated_of_collisionFree :
    PTree.Separated (hash_leaf sha256) (hash_node sha256)
      {c | leaf_message c ∈ ms} {p | node_message p.1 p.2 ∈ ms} where
  leaf_inj := fun _ hc _ hc' h => leaf_message_inj (hcf hc hc' h)
  node_inj := fun _ hp _ hp' h => Prod.ext_iff.mpr (node_message_inj (hcf hp hp' h))
  leaf_ne_node := fun c hc p hp h => leaf_ne_node_message c p.1 p.2 (hcf hc hp h)

theorem merge_injOn :
    Set.InjOn (Function.uncurry (merge sha256)) {p | merge_message p.1 p.2 ∈ ms} :=
  fun _ hp _ hp' h => Prod.ext_iff.mpr (BytesN.append_inj (hcf hp hp' h))

theorem hash_leaf_ne_merge {c l r : BytesN 32} (hc : leaf_message c ∈ ms)
    (hm : merge_message l r ∈ ms) : hash_leaf sha256 c ≠ merge sha256 l r :=
  fun h => leaf_ne_merge_message c l r (hcf hc hm h)

theorem hash_node_ne_merge {l r l' r' : BytesN 32} (hn : node_message l r ∈ ms)
    (hm : merge_message l' r' ∈ ms) : hash_node sha256 l r ≠ merge sha256 l' r' :=
  fun h => node_ne_merge_message l r l' r' (hcf hn hm h)

/-- The root of a perfect tree is no bagging hash. -/
theorem root_ne_merge {h : ℕ} {t : PTree (BytesN 32) h}
    (hl : ∀ c ∈ t.leaves, leaf_message c ∈ ms)
    (hn : ∀ p ∈ t.nodeInputs (hash_leaf sha256) (hash_node sha256), node_message p.1 p.2 ∈ ms)
    {l r : BytesN 32} (hm : merge_message l r ∈ ms) :
    t.root (hash_leaf sha256) (hash_node sha256) ≠ merge sha256 l r := by
  rcases MountainRange.root_eq_cases (hash_leaf sha256) (hash_node sha256) t with
    ⟨c, hc, heq⟩ | ⟨p, hp, heq⟩
  · rw [heq]
    exact hash_leaf_ne_merge hcf (hl c hc) hm
  · rw [heq]
    exact hash_node_ne_merge hcf (hn p hp) hm

end Collision

/-! ## The loops -/

section Loops

variable (sha256 : Sha256)

@[simp] theorem is_zero_iff (h : BytesN 32) : is_zero h = true ↔ h = zero32 := by
  simp [is_zero]

/-- The loop of `bag_peaks` is the bagging of the library. -/
theorem bag_peaks_eq (peaks : List (BytesN 32)) :
    bag_peaks sha256 peaks = PeakBag.bag (merge sha256) zero32 peaks := by
  rcases List.eq_nil_or_concat' peaks with rfl | ⟨ps, last, rfl⟩
  · rfl
  · rw [bag_peaks, List.reverse_append, PeakBag.bag_eq_foldl]
    rfl

/-- The verifier's loop is a climb along the bits of the leaf index. -/
theorem walk_siblings_eq (siblings : List (BytesN 32)) (current : BytesN 32) (pos : ℕ) :
    walk_siblings sha256 current pos siblings
      = climb (hash_node sha256) current (PTree.bits pos siblings.length) siblings := by
  induction siblings generalizing current pos with
  | nil => rfl
  | cons sib _ ih =>
      -- the parity of `pos` is the bit that selects the side
      have hstep : (if pos % 2 = 0 then hash_node sha256 current sib
          else hash_node sha256 sib current) = step (hash_node sha256) (pos.testBit 0) sib current := by
        rw [step, children, Nat.testBit_zero]
        rcases Nat.mod_two_eq_zero_or_one pos with h | h <;> simp [h]
      rw [List.length_cons, PTree.bits_succ', climb, ← hstep, ← ih]
      rfl

theorem count_active_peaks_eq (peaks : List (BytesN 32)) :
    count_active_peaks peaks = (active_peaks peaks).length := by
  have h : ∀ n : ℕ, peaks.foldl (fun count p => if !is_zero p then count + 1 else count) n
      = n + (active_peaks peaks).length := by
    induction peaks with
    | nil => intro n; rfl
    | cons _ _ ih =>
        intro n
        rw [List.foldl_cons, ih, active_peaks, active_peaks, List.filter_cons]
        split_ifs with hp
        · rw [List.length_cons]; omega
        · rfl
  rw [count_active_peaks, h, Nat.zero_add]

/-- The loop of `append` is the increment of the mountain range. -/
theorem append_loop_slots {h : ℕ} (r : MountainRange (BytesN 32) h) (t : PTree (BytesN 32) h)
    (hroots : ∀ m ∈ r.mountains, m.tree.root (hash_leaf sha256) (hash_node sha256) ≠ zero32) :
    append_loop sha256 (r.slots (hash_leaf sha256) (hash_node sha256) zero32)
        (t.root (hash_leaf sha256) (hash_node sha256))
      = (r.insert t).slots (hash_leaf sha256) (hash_node sha256) zero32 := by
  induction r with
  | nil => rfl
  | @cons h slot _ ih =>
      cases slot with
      | none =>
          rw [MountainRange.slots, append_loop, if_pos ((is_zero_iff _).mpr rfl)]
          rfl
      | some p =>
          -- an occupied slot must not look free
          have hp : ¬is_zero (p.root (hash_leaf sha256) (hash_node sha256)) = true := by
            rw [is_zero_iff]
            exact hroots ⟨h, _, p⟩ List.mem_cons_self
          rw [MountainRange.slots, append_loop, if_neg hp]
          exact congrArg (zero32 :: ·) (ih (PTree.node p t)
            (fun m hm => hroots m (List.mem_cons_of_mem _ hm)))

end Loops

/-! ## The state after a run -/

section Run

variable (sha256 : Sha256)

/-- The inputs hashed by the `append` calls for the commitments `cs`. -/
def appended_inputs (cs : List (BytesN 32)) : List Buffer :=
  cs.map leaf_message ++
    ((MountainRange.ofList cs).nodeInputs (hash_leaf sha256) (hash_node sha256)).map
      (fun p => node_message p.1 p.2)

/-- The inputs hashed by `bag_peaks`. -/
def bag_inputs (peaks : List (BytesN 32)) : List Buffer :=
  (PeakBag.bagInputs (merge sha256) zero32 peaks).map (fun p => merge_message p.1 p.2)

/-- The peaks of the range of `cs`: the active slots of the state after `cs`. -/
def peaks_of (cs : List (BytesN 32)) : List (BytesN 32) :=
  (MountainRange.ofList cs).peaks (hash_leaf sha256) (hash_node sha256)

/-- The state after the commitments `cs`. -/
def state_of (cs : List (BytesN 32)) : MmrState where
  leaf_count := cs.length
  peaks := (MountainRange.ofList cs).slots (hash_leaf sha256) (hash_node sha256) zero32
  peak_count := (MountainRange.ofList cs).mountains.length

variable {sha256}

theorem appended_inputs_concat (cs : List (BytesN 32)) (c : BytesN 32) :
    appended_inputs sha256 cs ⊆ appended_inputs sha256 (cs ++ [c]) := by
  refine List.append_subset.mpr ⟨?_, ?_⟩
  · rw [appended_inputs, List.map_append, List.append_assoc]
    exact List.subset_append_left _ _
  · intro m hm
    exact List.mem_append_right _
      (List.map_subset _ (MountainRange.nodeInputs_ofList_concat _ _ cs c) hm)

theorem appended_inputs_append (cs ds : List (BytesN 32)) :
    appended_inputs sha256 cs ⊆ appended_inputs sha256 (cs ++ ds) := by
  induction ds using List.reverseRecOn with
  | nil => rw [List.append_nil]; exact List.Subset.refl _
  | append_singleton _ _ ih =>
      rw [← List.append_assoc]
      exact List.Subset.trans ih (appended_inputs_concat _ _)

theorem neZero_of_neverZero {cs : List (BytesN 32)}
    (hz : sha256.NeverZero (appended_inputs sha256 cs)) :
    MountainRange.NeZero (hash_leaf sha256) (hash_node sha256) zero32
      (MountainRange.ofList cs) where
  leaf := fun c hc => by
    rw [MountainRange.leaves_ofList] at hc
    exact hz _ (List.mem_append_left _ (List.mem_map_of_mem hc))
  node := fun p hp => hz _ (List.mem_append_right _ (node_message_mem hp))

/-- The active peaks of the state are the peaks of the range. -/
theorem active_peaks_state_of {cs : List (BytesN 32)}
    (hz : sha256.NeverZero (appended_inputs sha256 cs)) :
    active_peaks (state_of sha256 cs).peaks = peaks_of sha256 cs :=
  (neZero_of_neverZero hz).filter_slots is_zero is_zero_iff

/-- What a successful `append` does to the storage. -/
theorem append_eq_ok [DecidableEq Address] {auth : Address → Bool}
    {env env' : MmrStorage Address} {caller : Address} {c : BytesN 32} {leaf_index : ℕ}
    (h : append sha256 auth env caller c = .ok (leaf_index, env')) :
    leaf_index = (load_state env).leaf_count ∧
      env' = save_state env
        { leaf_count := (load_state env).leaf_count + 1
          peaks := append_loop sha256 (load_state env).peaks (hash_leaf sha256 c)
          peak_count := count_active_peaks
            (append_loop sha256 (load_state env).peaks (hash_leaf sha256 c)) } := by
  unfold append at h
  obtain ⟨admin, -, h⟩ := Call.bind_eq_ok.mp h
  obtain ⟨_, -, h⟩ := Call.bind_eq_ok.mp h
  obtain ⟨n, hn, h⟩ := Call.bind_eq_ok.mp h
  obtain rfl := u64_add_eq_ok hn
  obtain ⟨hidx, henv⟩ := Prod.mk.injEq _ _ _ _ ▸ Except.ok.inj h
  exact ⟨hidx.symm, henv.symm⟩

/-- An authorised `append` on an initialised contract succeeds. -/
theorem append_ok [DecidableEq Address] {auth : Address → Bool} {env : MmrStorage Address}
    {admin caller : Address}
    (hadmin : env.admin = some admin) (hauth : auth caller = true)
    (hcount : (load_state env).leaf_count + 1 < 2 ^ 64) (c : BytesN 32) :
    ∃ env', append sha256 auth env caller c = .ok ((load_state env).leaf_count, env') ∧
      env'.admin = some admin := by
  -- either way the caller's own signature is asked for
  have hreq : (if caller ≠ admin then require_auth auth caller else require_auth auth admin
      : Call MmrError Unit) = .ok () := by
    split_ifs with h
    · rw [require_auth, if_pos hauth]
    · rw [← not_not.mp h, require_auth, if_pos hauth]
  have hadd : (u64_add (load_state env).leaf_count 1 : Call MmrError ℕ)
      = .ok ((load_state env).leaf_count + 1) := by rw [u64_add, if_pos hcount]
  refine ⟨_, Call.bind_eq_ok.mpr ⟨admin, by rw [hadmin]; rfl, Call.bind_eq_ok.mpr
    ⟨(), hreq, Call.bind_eq_ok.mpr ⟨_, hadd, rfl⟩⟩⟩, hadmin⟩

/-- One `append` takes the state of `cs` to the state of `cs ++ [c]`. -/
theorem append_spec [DecidableEq Address] {auth : Address → Bool} {env env' : MmrStorage Address}
    {caller : Address} {cs : List (BytesN 32)} {c : BytesN 32} {leaf_index : ℕ}
    (hz : sha256.NeverZero (appended_inputs sha256 (cs ++ [c])))
    (hs : load_state env = state_of sha256 cs)
    (h : append sha256 auth env caller c = .ok (leaf_index, env')) :
    leaf_index = cs.length ∧ load_state env' = state_of sha256 (cs ++ [c]) := by
  obtain ⟨hidx, rfl⟩ := append_eq_ok h
  have hloop : append_loop sha256 (load_state env).peaks (hash_leaf sha256 c)
      = (state_of sha256 (cs ++ [c])).peaks := by
    have hroots : ∀ m ∈ (MountainRange.ofList cs).mountains,
        m.tree.root (hash_leaf sha256) (hash_node sha256) ≠ zero32 :=
      fun m hm => (neZero_of_neverZero (hz.mono (appended_inputs_concat cs c))).root_ne hm
    rw [hs, state_of, state_of, MountainRange.ofList_concat]
    exact append_loop_slots sha256 _ (PTree.leaf c) hroots
  refine ⟨by rw [hidx, hs]; rfl, ?_⟩
  rw [hloop, count_active_peaks_eq, active_peaks_state_of hz, hs]
  simp [load_state, save_state, state_of, peaks_of, MountainRange.peaks]

/-- **The state after any run** from an empty accumulator. -/
theorem Appends.load_state_eq [DecidableEq Address] {env₀ env : MmrStorage Address}
    {cs : List (BytesN 32)} (hrun : Appends sha256 env₀ cs env) (hnew : env₀.state = none)
    (hz : sha256.NeverZero (appended_inputs sha256 cs)) :
    load_state env = state_of sha256 cs := by
  induction hrun with
  | nil => rw [load_state, hnew]; rfl
  | append _ _ _ _ _ hc ih =>
      exact (append_spec hz (ih (hz.mono (appended_inputs_concat _ _))) hc).2

theorem state_of_leaf_count_eq_zero {cs : List (BytesN 32)} :
    (state_of sha256 cs).leaf_count = 0 ↔ cs = [] :=
  List.length_eq_zero_iff

theorem get_root_eq {env : MmrStorage Address} {cs : List (BytesN 32)} (hcs : cs ≠ [])
    (hs : load_state env = state_of sha256 cs)
    (hz : sha256.NeverZero (appended_inputs sha256 cs)) :
    get_root sha256 env = .ok (PeakBag.bag (merge sha256) zero32 (peaks_of sha256 cs)) := by
  rw [get_root, hs, if_neg (mt state_of_leaf_count_eq_zero.mp hcs), active_peaks_state_of hz,
    bag_peaks_eq]

/-- A run of appends succeeds as long as the counter does not overflow. -/
theorem exists_appends [DecidableEq Address] {env₀ : MmrStorage Address} {admin : Address}
    (hadmin : env₀.admin = some admin) (hnew : env₀.state = none) (cs : List (BytesN 32))
    (hlen : cs.length < 2 ^ 64) (hz : sha256.NeverZero (appended_inputs sha256 cs)) :
    ∃ env, Appends sha256 env₀ cs env ∧ env.admin = some admin := by
  induction cs using List.reverseRecOn with
  | nil => exact ⟨env₀, Appends.nil _, hadmin⟩
  | append_singleton cs c ih =>
      rw [List.length_append, List.length_singleton] at hlen
      have hz' := hz.mono (appended_inputs_concat cs c)
      obtain ⟨env, hrun, henv⟩ := ih (by omega) hz'
      have hs := hrun.load_state_eq hnew hz'
      have hcount : (load_state env).leaf_count + 1 < 2 ^ 64 := by rw [hs]; exact hlen
      obtain ⟨env', happ, hadmin'⟩ : ∃ env', append sha256 (fun _ => true) env admin c
          = .ok ((load_state env).leaf_count, env') ∧ env'.admin = some admin :=
        append_ok henv rfl hcount c
      exact ⟨env', Appends.append hrun _ admin c _ happ, hadmin'⟩

end Run

end BridgeWatch.MmrAccumulator

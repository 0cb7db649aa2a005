/-
The transparency log as `backend/src/services/evidenceBundle.service.ts` keeps and serves it.

The rows of the log are a list in the order of their insertion. An append is one transaction under a lock: it reads
the leaf hashes, inserts the entry and publishes the checkpoint of the new size, or fails and leaves no trace. The
readers take no lock, so appends can go through between two reads of one call. The log key of a checkpoint and the
time come with the append.
-/
import BridgeWatch.MerkleProofs
import BridgeWatch.BundleConstruction
import BridgeWatch.Runs

set_option autoImplicit false

namespace BridgeWatch.TransparencyLog

open Merkle EvidenceBundle Runs

/-- A row of `transparency_log_entries`. -/
structure Entry where
  log_index : ℕ
  entry_type : JsString
  leaf_hash : JsString
  entry_data : JsValue
  tree_size : ℕ
  root_hash : JsString
  bundle_id : Option JsString

structure LogKey where
  key_id : JsString
  public_key_hex : JsString
  private_key_hex : JsString

/-- A row of `transparency_log_checkpoints`. -/
structure Checkpoint where
  tree_size : ℕ
  root_hash : JsString
  timestamp : JsString
  log_key_id : JsString
  log_public_key_hex : JsString
  signature : JsString

structure Tables where
  entries : List Entry
  checkpoints : List Checkpoint

def Tables.empty : Tables := ⟨[], []⟩

/-- An append, with the log key and the time that it finds. -/
structure Append where
  entryType : JsString
  entryData : JsValue
  bundleId : Option JsString
  logKey : LogKey
  timestamp : JsString

structure Appended where
  logIndex : ℕ
  treeSize : ℕ
  rootHash : JsString
  leafHash : JsString

structure ServedInclusion where
  logIndex : ℕ
  treeSize : ℕ
  leafHash : JsString
  rootHash : JsString
  inclusionProof : List JsString

structure ServedConsistency where
  firstSize : ℕ
  secondSize : ℕ
  firstRoot : JsString
  secondRoot : JsString
  consistencyProof : List JsString
  valid : Bool

section Source

variable (rt : Runtime) (sign : (der message : Buffer) → Buffer)

def rootHexFromLeafHashes (leafHashes : List JsString) : Js JsString := do
  let root ← rootFromLeafHashes rt.sha256 (leafHashes.map .string)
  return toHex root

/-- `.orderBy("log_index", "asc").select("leaf_hash")`. -/
def leafHashes (entries : List Entry) : List JsString :=
  (entries.mergeSort fun e e' => decide (e.log_index ≤ e'.log_index)).map (·.leaf_hash)

/-- `.onConflict(["log_id", "tree_size"]).ignore()`: a size keeps the checkpoint that it has. -/
def publishCheckpoint (logKey : LogKey) (timestamp : JsString) (treeSize : ℕ) (rootHash : JsString)
    (checkpoints : List Checkpoint) : Js (List Checkpoint) := do
  let message ← signedTreeHeadMessage ⟨treeSize, rootHash, timestamp, logKey.public_key_hex, []⟩
  let signature ← signRaw sign logKey.private_key_hex message
  if checkpoints.any (·.tree_size = treeSize) then return checkpoints
  else return checkpoints ++ [⟨treeSize, rootHash, timestamp, logKey.key_id, logKey.public_key_hex, signature⟩]

def appendLogEntry (a : Append) (t : Tables) : Js (Appended × Tables) := do
  let priorLeaves := leafHashes t.entries
  let logIndex := priorLeaves.length
  let leafHash ← logLeafHashHex rt a.entryData
  let leaves := priorLeaves ++ [leafHash]
  let treeSize := leaves.length
  let rootHash ← rootHexFromLeafHashes rt leaves
  let entry : Entry := ⟨logIndex, a.entryType, leafHash, a.entryData, treeSize, rootHash, a.bundleId⟩
  let checkpoints ← publishCheckpoint sign a.logKey a.timestamp treeSize rootHash t.checkpoints
  return (⟨logIndex, treeSize, rootHash, leafHash⟩, ⟨t.entries ++ [entry], checkpoints⟩)

/-- The transaction that commits, or is rolled back. -/
def step (t : Tables) (a : Append) : Tables :=
  match appendLogEntry rt sign a t with
  | .ok (_, t') => t'
  | .error _ => t

def leafHashesUpTo (t : Tables) (size : ℕ) : List JsString := leafHashes (t.entries.filter (·.log_index < size))

def getCurrentTreeSize (t : Tables) : ℕ := (t.entries.map (·.log_index)).max?.elim 0 (· + 1)

/-- The size is read at `t`, the leaves are read at `t'`. -/
def getInclusionProof (t t' : Tables) (logIndex : ℕ) (treeSize : Option ℕ) : Js ServedInclusion := do
  let size := treeSize.getD (getCurrentTreeSize t)
  if size ≤ logIndex then throwNew (js "logIndex " ++ jsNat logIndex ++ js " not in tree of size " ++ jsNat size)
  let leaves := leafHashesUpTo t' size
  let rootHash ← rootHexFromLeafHashes rt leaves
  -- where the log is shorter than `size`, this call throws for the leaves that it lacks
  let inclusionProof ← inclusionProofFromLeafHashes rt.sha256 logIndex (leaves.map .string)
  return ⟨logIndex, size, leaves.getD logIndex [], rootHash, inclusionProof⟩

def getConsistencyProof (t t' : Tables) (firstSize : ℕ) (secondSize : Option ℕ) : Js ServedConsistency := do
  let second := secondSize.getD (getCurrentTreeSize t)
  if firstSize = 0 ∨ second < firstSize then
    throwNew (js "firstSize " ++ jsNat firstSize ++ js " out of range (0, " ++ jsNat second ++ js "]")
  let secondLeaves := leafHashesUpTo t' second
  let firstRoot ← rootHexFromLeafHashes rt (secondLeaves.take firstSize)
  let secondRoot ← rootHexFromLeafHashes rt secondLeaves
  let consistencyProof ← consistencyProofFromLeafHashes rt.sha256 firstSize (secondLeaves.map .string)
  return ⟨firstSize, second, firstRoot, secondRoot, consistencyProof,
    verifyConsistencyProof rt.sha256 firstSize second (consistencyProof.map .string) (.string firstRoot)
      (.string secondRoot)⟩

end Source

/-! ## The log is what it has published -/

section Published

variable {rt : Runtime} {sign : (der message : Buffer) → Buffer} {t t' : Tables} {m n : ℕ}

/-- The leaf hashes in the order of the appends. -/
def Tables.leaves (t : Tables) : List JsString := t.entries.map (·.leaf_hash)

/-- The checkpoint is signed, over its own size, root and time. -/
def Checkpoint.Signed (sign : (der message : Buffer) → Buffer) (c : Checkpoint) : Prop :=
  ∃ privateKeyHex message, signedTreeHeadMessage ⟨c.tree_size, c.root_hash, c.timestamp, c.log_public_key_hex, c.signature⟩ =
    .ok message ∧ signRaw sign privateKeyHex message = .ok c.signature

/-- The entries are numbered from 0 on, every size has one checkpoint, and the roots are those of the leaves up to them. -/
structure Published (rt : Runtime) (sign : (der message : Buffer) → Buffer) (t : Tables) : Prop where
  indices : t.entries.map (·.log_index) = List.range' 0 t.entries.length
  sizes : t.checkpoints.map (·.tree_size) = List.range' 1 t.entries.length
  bounded : t.entries.length ≤ 2 ^ 30
  hashed : ∀ e ∈ t.entries, logLeafHashHex rt e.entry_data = .ok e.leaf_hash
  rows : ∀ e ∈ t.entries, e.tree_size = e.log_index + 1 ∧
    rootHexFromLeafHashes rt (t.leaves.take e.tree_size) = .ok e.root_hash
  roots : ∀ c ∈ t.checkpoints, c.Signed sign ∧ rootHexFromLeafHashes rt (t.leaves.take c.tree_size) = .ok c.root_hash

theorem mem_range {α : Type} {f : α → ℕ} {l : List α} {k n : ℕ} (h : l.map f = List.range' k n) {x : α} (hx : x ∈ l) :
    k ≤ f x ∧ f x < k + n :=
  List.mem_range'_1.mp (h ▸ List.mem_map_of_mem hx)

theorem leafHashes_eq {entries : List Entry} {k : ℕ} (h : entries.map (·.log_index) = List.range' k entries.length) :
    leafHashes entries = entries.map (·.leaf_hash) := by
  have hrise : (entries.map (·.log_index)).Pairwise (· < ·) := h ▸ List.pairwise_lt_range'
  rw [leafHashes, List.mergeSort_of_pairwise]
  exact (List.pairwise_map.mp hrise).imp fun hlt => decide_eq_true (Nat.le_of_lt hlt)

/-- Beyond `2 ^ 30` leaves there is no root. -/
theorem length_le_of_root {leaves : List JsString} {rootHash : JsString}
    (h : rootHexFromLeafHashes rt leaves = .ok rootHash) : leaves.length ≤ 2 ^ 30 := by
  obtain ⟨root, hroot, -⟩ := Js.bind_eq_ok.mp h
  by_contra hmax
  rw [rootFromLeafHashes, treeHash] at hroot
  simp only [List.length_map, if_neg (show ¬leaves.length = 0 by omega), if_neg (show ¬leaves.length = 1 by omega),
    splitPoint_diverges (not_le.mp hmax)] at hroot
  cases hroot

theorem Published.append {a : Append} {r : Appended} (h : Published rt sign t)
    (hok : appendLogEntry rt sign a t = .ok (r, t')) : Published rt sign t' := by
  simp only [appendLogEntry, publishCheckpoint, Js.bind_eq_ok, leafHashes_eq h.indices] at hok
  change ∃ leafHash, _ ∧ ∃ rootHash, rootHexFromLeafHashes rt (t.leaves ++ [leafHash]) = _ ∧ _ at hok
  obtain ⟨leafHash, hleaf, rootHash, hroot, checkpoints, ⟨message, hmessage, signature, hsign, hpublish⟩, ht'⟩ := hok
  have hlen : t.leaves.length = t.entries.length := List.length_map _
  -- the size is a new one
  rw [if_neg] at hpublish
  · obtain rfl := Except.ok.inj hpublish
    obtain ⟨-, rfl⟩ := Prod.mk.inj (Except.ok.inj ht')
    have hkept {k : ℕ} (hk : k ≤ t.entries.length) : (t.leaves ++ [leafHash]).take k = t.leaves.take k :=
      List.take_append_of_le_length (hlen ▸ hk)
    have hall : (t.leaves ++ [leafHash]).take (t.leaves ++ [leafHash]).length = t.leaves ++ [leafHash] := List.take_length
    constructor
    · simp [h.indices, List.range'_1_concat]
    · simp [h.sizes, List.range'_1_concat, Nat.add_comm]
    · simpa [hlen] using length_le_of_root hroot
    · exact List.forall_mem_append.mpr ⟨h.hashed, List.forall_mem_singleton.mpr hleaf⟩
    all_goals
      rw [Tables.leaves, List.map_append, List.forall_mem_append, List.forall_mem_singleton]
      change _ ∧ _ ∧ rootHexFromLeafHashes rt ((t.leaves ++ [leafHash]).take (t.leaves ++ [leafHash]).length) = _
      rw [hall]
    · refine ⟨fun e he => ?_, by simp, hroot⟩
      obtain ⟨hsize, hrow⟩ := h.rows e he
      refine ⟨hsize, ?_⟩
      have := (mem_range h.indices he).2
      rw [← hrow]
      exact congrArg _ (hkept (by omega))
    · refine ⟨fun c hc => ?_, ⟨_, message, hmessage, hsign⟩, hroot⟩
      obtain ⟨hsigned, hrow⟩ := h.roots c hc
      refine ⟨hsigned, ?_⟩
      have := (mem_range h.sizes hc).2
      rw [← hrow]
      exact congrArg _ (hkept (by omega))
  · intro hany
    obtain ⟨c, hc, hsize⟩ := List.any_eq_true.mp hany
    have := (mem_range h.sizes hc).2
    simp at hsize
    omega

/-- **The log is what it has published**, after every run of appends. -/
theorem published_run (appends : List Append) : Published rt sign (run (step rt sign) .empty appends) := by
  have hempty : Published rt sign .empty := ⟨rfl, rfl, Nat.zero_le _, by simp [Tables.empty], by simp [Tables.empty], by simp [Tables.empty]⟩
  refine run_invariant (C := fun _ _ => True) (fun {t a} h _ => ?_) hempty (Along.of_forall fun _ _ => trivial)
  cases hok : appendLogEntry rt sign a t with
  | error => rwa [step, hok]
  | ok =>
      rw [step, hok]
      exact h.append hok

end Published

/-! ## What is served verifies -/

section Served

variable {rt : Runtime} {sign : (der message : Buffer) → Buffer} {t t' : Tables} {m n : ℕ}

/-- What the readers return for the sizes up to that of `t`, of logs that go on to `t'` between their reads. -/
structure Served (rt : Runtime) (t t' : Tables) : Prop where
  inclusion : ∀ i n treeSize, treeSize.getD t.entries.length = n → n ≤ t.entries.length → i < n →
    ∃ e c proof, t.entries[i]? = some e ∧ c ∈ t.checkpoints ∧ c.tree_size = n ∧
      getInclusionProof rt t t' i treeSize = .ok ⟨i, n, e.leaf_hash, c.root_hash, proof⟩ ∧
        verifyInclusionProof rt.sha256 (.string e.leaf_hash) i n (proof.map .string) (.string c.root_hash) = true
  consistency : ∀ m n secondSize, secondSize.getD t.entries.length = n → n ≤ t.entries.length → 0 < m → m ≤ n →
    ∃ c ∈ t.checkpoints, ∃ c' ∈ t.checkpoints, ∃ proof, c.tree_size = m ∧ c'.tree_size = n ∧
      getConsistencyProof rt t t' m secondSize = .ok ⟨m, n, c.root_hash, c'.root_hash, proof, true⟩

theorem filter_eq_take {entries : List Entry} {k n : ℕ}
    (h : entries.map (·.log_index) = List.range' k entries.length) :
    entries.filter (·.log_index < k + n) = entries.take n := by
  induction entries generalizing k n with
  | nil => simp
  | cons e entries ih =>
      rw [List.length_cons, List.range'_succ, List.map_cons, List.cons.injEq] at h
      cases n with
      | zero =>
          rw [List.take_zero, List.filter_eq_nil_iff]
          intro e' he'
          rcases List.mem_cons.mp he' with rfl | he'
          · simp [h.1]
          · simpa using Nat.le_of_succ_le (mem_range h.2 he').1
      | succ n =>
          rw [List.filter_cons_of_pos (by simp [h.1]), List.take_succ_cons, ← ih h.2, Nat.add_right_comm, Nat.add_assoc]

theorem Published.leafHashesUpTo_eq (h : Published rt sign t) (hn : n ≤ t.entries.length) :
    leafHashesUpTo t n = t.leaves.take n := by
  have hfilter := filter_eq_take (n := n) h.indices
  rw [Nat.zero_add] at hfilter
  rw [leafHashesUpTo, hfilter, leafHashes_eq (k := 0), Tables.leaves, List.map_take]
  rw [List.map_take, h.indices, List.take_range'_of_length_ge hn, List.length_take, Nat.min_eq_left hn]

theorem Published.getCurrentTreeSize_eq (h : Published rt sign t) : getCurrentTreeSize t = t.entries.length := by
  rw [getCurrentTreeSize, h.indices]
  cases hlen : t.entries.length with
  | zero => rfl
  | succ k =>
      have hmax : (List.range' 0 (k + 1)).max? = some k := by
        rw [List.max?_eq_some_iff]
        refine ⟨by simp, fun i hi => ?_⟩
        rw [List.mem_range'_1] at hi
        omega
      rw [hmax]
      rfl

/-- A size that the log has reached has a checkpoint. -/
theorem Published.checkpoint (h : Published rt sign t) (hpos : 0 < n) (hn : n ≤ t.entries.length) :
    ∃ c ∈ t.checkpoints, c.tree_size = n := by
  have hmem : n ∈ t.checkpoints.map (·.tree_size) := by
    rw [h.sizes, List.mem_range'_1]
    omega
  simpa using hmem

theorem toBuf_root {leaves : List JsString} {rootHash : JsString}
    (h : rootHexFromLeafHashes rt leaves = .ok rootHash) :
    toBuf (.string rootHash) = root rt.sha256 ((leaves.map .string).map toBuf) := by
  have hmax : (leaves.map HashArg.string).length ≤ 2 ^ 30 := by simpa using length_le_of_root h
  rw [rootHexFromLeafHashes, rootFromLeafHashes_eq hmax] at h
  obtain rfl := Except.ok.inj h
  exact fromHex_toHex _

/-- The log of `t'` goes on from that of `t`. -/
theorem Published.served (h : Published rt sign t) (h' : Published rt sign t') (hgrown : t.entries <+: t'.entries) :
    Served rt t t' := by
  obtain ⟨newer, hnewer⟩ := hgrown
  have hread {n : ℕ} (hn : n ≤ t.entries.length) : leafHashesUpTo t' n = t.leaves.take n := by
    rw [h'.leafHashesUpTo_eq (by rw [← hnewer, List.length_append]; omega), Tables.leaves, ← hnewer, List.map_append,
      List.take_append_of_le_length (by rwa [List.length_map])]
    rfl
  have hlen {n : ℕ} (hn : n ≤ t.entries.length) : ((t.leaves.take n).map HashArg.string).length = n := by
    rw [List.length_map, List.length_take, Tables.leaves, List.length_map, Nat.min_eq_left hn]
  have hbounded := h.bounded
  constructor
  · intro i n treeSize hsize hn hi
    obtain ⟨c, hc, rfl⟩ := h.checkpoint (by omega) hn
    have hroot := (h.roots c hc).2
    have hlt : i < t.entries.length := by omega
    have hleaf : (t.leaves.take c.tree_size)[i]? = some t.entries[i].leaf_hash := by
      rw [List.getElem?_take_of_lt hi, Tables.leaves, List.getElem?_map, List.getElem?_eq_getElem hlt]
      rfl
    have hget : ((t.leaves.take c.tree_size).map HashArg.string)[i]? = some (.string t.entries[i].leaf_hash) := by
      rw [List.getElem?_map, hleaf]
      rfl
    obtain ⟨proof, hproof, hverify⟩ :=
      inclusionProofFromLeafHashes_verifies hget (by rw [hlen hn]; omega) (toBuf_root hroot)
    rw [hlen hn] at hverify
    refine ⟨t.entries[i], c, proof, List.getElem?_eq_getElem hlt, hc, rfl, ?_, hverify⟩
    simp only [getInclusionProof, h.getCurrentTreeSize_eq, hsize, if_neg (not_le.mpr hi), hread hn, hroot, hproof]
    rw [List.getD_eq_getElem?_getD, hleaf]
    rfl
  · intro m n secondSize hsize hn hpos hle
    obtain ⟨c, hc, rfl⟩ := h.checkpoint hpos (by omega)
    obtain ⟨c', hc', rfl⟩ := h.checkpoint (by omega) hn
    have hroot := (h.roots c hc).2
    have hroot' := (h.roots c' hc').2
    have htake : (t.leaves.take c'.tree_size).take c.tree_size = t.leaves.take c.tree_size := by
      rw [List.take_take, Nat.min_eq_left hle]
    obtain ⟨proof, hproof, hverify⟩ := consistencyProofFromLeafHashes_verifies hpos (by rwa [hlen hn])
      (by rw [hlen hn]; omega) (by rw [← List.map_take, htake]; exact toBuf_root hroot) (toBuf_root hroot')
    rw [hlen hn] at hverify
    refine ⟨c, hc, c', hc', proof, rfl, rfl, ?_⟩
    simp only [getConsistencyProof, h.getCurrentTreeSize_eq, hsize, if_neg (show ¬(c.tree_size = 0 ∨
      c'.tree_size < c.tree_size) by omega), hread hn, htake, hroot, hroot', hproof, Js.ok_bind, hverify]
    rfl

theorem entries_prefix (later : List Append) : t.entries <+: (run (step rt sign) t later).entries := by
  refine run_invariant (C := fun _ _ => True) (I := fun t' : Tables => t.entries <+: t'.entries) (fun {t' a} h _ => ?_)
    (List.prefix_refl _) (Along.of_forall fun _ _ => trivial)
  cases hok : appendLogEntry rt sign a t' with
  | error => rwa [step, hok]
  | ok =>
      rw [step, hok]
      simp only [appendLogEntry, Js.bind_eq_ok] at hok
      obtain ⟨_, -, _, -, _, -, hok⟩ := hok
      obtain rfl := Except.ok.inj hok
      exact h.trans (List.prefix_append _ _)

/-- **What is served verifies**, against the checkpoints, whatever is appended meanwhile. -/
theorem served_run (appends later : List Append) :
    Served rt (run (step rt sign) .empty appends) (run (step rt sign) .empty (appends ++ later)) := by
  have h (as : List Append) : Published rt sign (run (step rt sign) .empty as) := published_run as
  refine (h appends).served (h _) ?_
  rw [run_append]
  exact entries_prefix later

/-- Two appends go through. -/
example :
    let revocation : Append :=
      ⟨js "key_revocation", .string (js "revoked"), none, ⟨js "log", [], toHex sampleSalt⟩, js "2026-06-01"⟩
    (run (step signingRuntime sampleSign) .empty [revocation, revocation]).checkpoints.length = 2 := by
  decide +kernel

end Served

end BridgeWatch.TransparencyLog

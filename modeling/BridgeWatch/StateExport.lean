/-
Exported state, `contracts/soroban/src/state_export.rs`.

The hash of an export is that of the snapshots in the order of their asset codes. The codes are compared as if they were
filled up with zero bytes, so two codes that differ in trailing zero bytes alone stand in the order they came in, and
the hash is the same for every order of the snapshots just when no two codes do.

The inclusion check compares the root that the export carries with the expected one. Neither the hash nor the leaf index
goes into it.
-/
import BridgeWatch.ExchangeSort
import BridgeWatch.MmrAccumulator
import BridgeWatch.SignedMessages
import BridgeWatch.UniqueReading

set_option autoImplicit false

namespace BridgeWatch.StateExportHelper

open Contract (SString U32 U64 Address Env AssetHealth str be be_inj length_be of_be of_be_concat of_be_lt)

def STATE_EXPORT_VERSION : U32 := 1

structure ExportMetadata where
  item_count : U32
  size_estimate_bytes : U32
  compression_level : U32
  notes : SString
  deriving DecidableEq

structure StateExport where
  version : U32
  exported_at : U64
  contract_address : Address
  state_hash : SString
  metadata : ExportMetadata
  mmr_root : Option (BytesN 32)
  mmr_leaf_index : Option U64
  deriving DecidableEq

structure AssetStateSnapshot where
  asset_code : SString
  status : SString
  compliance : SString
  risk_rating : SString
  risk_score_bps : U32
  chain_count : U32
  oracle_feed_count : U32
  bridge_count : U32
  pool_count : U32
  is_frozen : Bool
  updated_at : U64
  deriving DecidableEq

/-! ## The functions -/

/-- `value.copy_into_slice(..)`: traps unless the slice has the length of the string. -/
def copy_into_slice (value : SString) (len : ℕ) : Call Empty Buffer :=
  if value.length = len then .ok value else .error .panic

/-- The loop over the positions. Past the end of a string stand zeros. -/
def compare_bytes (left right : Buffer) : List ℕ → ℤ
  | [] => 0
  | idx :: rest =>
      if left.getD idx 0 ≠ right.getD idx 0 then (if left.getD idx 0 > right.getD idx 0 then 1 else -1)
      else compare_bytes left right rest

def compare_strings (left right : SString) : Call Empty ℤ := do
  let left_buf ← copy_into_slice left (min left.length 256)
  let right_buf ← copy_into_slice right (min right.length 256)
  return compare_bytes left_buf right_buf (List.range (min (max left.length right.length) 256))

/-- The name notwithstanding: whether `left` comes after `right`. -/
def asset_code_less_than (left right : SString) : Call Empty Bool := do
  let order ← compare_strings left right
  return decide (order > 0)

def sort_snapshots (snapshots : List AssetStateSnapshot) : Call Empty (List AssetStateSnapshot) :=
  ExchangeSort.sortM (fun left right => asset_code_less_than left.asset_code right.asset_code) snapshots.length
    snapshots

def append_u32 (buf : Buffer) (value : U32) : Buffer := buf ++ be 4 value.toNat

def append_u64 (buf : Buffer) (value : U64) : Buffer := buf ++ be 8 value.toNat

def append_bool (buf : Buffer) (value : Bool) : Buffer := buf ++ [if value then 1 else 0]

def append_string (buf : Buffer) (value : SString) : Call Empty Buffer := do
  let raw ← copy_into_slice value (min value.length 256)
  return append_u32 buf value.length.toUInt32 ++ raw

def append_snapshot (buf : Buffer) (snapshot : AssetStateSnapshot) : Call Empty Buffer := do
  let buf ← append_string buf snapshot.asset_code
  let buf ← append_string buf snapshot.status
  let buf ← append_string buf snapshot.compliance
  let buf ← append_string buf snapshot.risk_rating
  let buf := append_u32 buf snapshot.risk_score_bps
  let buf := append_u32 buf snapshot.chain_count
  let buf := append_u32 buf snapshot.oracle_feed_count
  let buf := append_u32 buf snapshot.bridge_count
  let buf := append_u32 buf snapshot.pool_count
  let buf := append_bool buf snapshot.is_frozen
  return append_u64 buf snapshot.updated_at

def HEX : Buffer := str "0123456789abcdef"

def hash_to_hex (digest : BytesN 32) : SString :=
  digest.toList.flatMap fun (byte : UInt8) => [HEX.getD (byte >>> 4).toNat 0, HEX.getD (byte &&& 0x0f).toNat 0]

section Hashing

variable (sha256 : Sha256)

def compute_snapshots_hash (snapshots : List AssetStateSnapshot) : Call Empty SString := do
  let data := append_u32 (append_u32 [] STATE_EXPORT_VERSION) snapshots.length.toUInt32
  let data ← snapshots.foldlM append_snapshot data
  return hash_to_hex (sha256 data)

def assemble_export_with_mmr (env : Env) (contract_address : Address) (snapshots : List AssetStateSnapshot)
    (mmr_root : Option (BytesN 32)) (mmr_leaf_index : Option U64) : Call Empty StateExport := do
  let ordered ← sort_snapshots snapshots
  let item_count := ordered.length.toUInt32
  let state_hash ← compute_snapshots_hash sha256 ordered
  return {
    version := STATE_EXPORT_VERSION
    exported_at := env.timestamp
    contract_address
    state_hash
    metadata := {
      item_count
      size_estimate_bytes := (min (item_count.toNat * 256) (2 ^ 32 - 1)).toUInt32
      compression_level := 0
      notes := str "contract-data-snapshot" }
    mmr_root
    mmr_leaf_index }

def assemble_export (env : Env) (contract_address : Address) (snapshots : List AssetStateSnapshot) :
    Call Empty StateExport :=
  assemble_export_with_mmr sha256 env contract_address snapshots none none

end Hashing

def verify_state_inclusion (state_export : StateExport) (mmr_root_at_export : BytesN 32) : Bool :=
  match state_export.mmr_root with
  | none => false
  | some export_mmr_root =>
      match state_export.mmr_leaf_index with
      | none => false
      | some _ => export_mmr_root == mmr_root_at_export

/-- The snapshot of an asset that has no health record yet. -/
def build_empty_asset_snapshot (asset_code : SString) : AssetStateSnapshot where
  asset_code
  status := str "Unknown"
  compliance := str "Unknown"
  risk_rating := str "Unknown"
  risk_score_bps := 0
  chain_count := 0
  oracle_feed_count := 0
  bridge_count := 0
  pool_count := 0
  is_frozen := false
  updated_at := 0

/-! ## The comparison -/

/-- The byte at each of the first positions of a string, as one number. -/
def code_key (code : SString) : ℕ := of_be ((List.range 256).map fun idx => code.getD idx 0)

theorem of_be_append (word word' : Buffer) : of_be (word ++ word') = of_be word * 256 ^ word'.length + of_be word' := by
  induction word' using List.reverseRecOn with
  | nil => simp [of_be]
  | append_singleton _ _ ih =>
      rw [← List.append_assoc, of_be_concat, of_be_concat, ih, List.length_append, List.length_singleton,
        Nat.pow_succ]
      ring

theorem of_be_cons (b : UInt8) (word : Buffer) : of_be (b :: word) = b.toNat * 256 ^ word.length + of_be word := by
  have hone : of_be [b] = b.toNat := by simp [of_be]
  rw [← List.singleton_append, of_be_append, hone]

/-- Words of one length are in the order of their numbers. -/
theorem compare_bytes_pos (left right : Buffer) (idxs : List ℕ) :
    0 < compare_bytes left right idxs ↔
      of_be (idxs.map fun idx => right.getD idx 0) < of_be (idxs.map fun idx => left.getD idx 0) := by
  induction idxs with
  | nil => exact iff_of_false (lt_irrefl _) (lt_irrefl _)
  | cons idx rest ih =>
      have hleft := of_be_lt (rest.map fun idx => left.getD idx 0)
      have hright := of_be_lt (rest.map fun idx => right.getD idx 0)
      rw [List.map_cons, List.map_cons, of_be_cons, of_be_cons, compare_bytes]
      simp only [List.length_map] at hleft hright ⊢
      by_cases heq : left.getD idx 0 = right.getD idx 0
      · rw [if_neg (not_not.mpr heq), heq, ih]
        omega
      · rw [if_pos heq]
        by_cases hgt : left.getD idx 0 > right.getD idx 0
        · rw [if_pos hgt]
          refine iff_of_true Int.one_pos ?_
          have hle : (right.getD idx 0).toNat + 1 ≤ (left.getD idx 0).toNat := hgt
          calc _ < ((right.getD idx 0).toNat + 1) * 256 ^ rest.length := by
                rw [Nat.add_mul]
                omega
            _ ≤ (left.getD idx 0).toNat * 256 ^ rest.length := Nat.mul_le_mul_right _ hle
            _ ≤ _ := Nat.le_add_right _ _
        · rw [if_neg hgt]
          refine iff_of_false (by decide) (not_lt.mpr ?_)
          have hle : (left.getD idx 0).toNat + 1 ≤ (right.getD idx 0).toNat := by
            have hne : (left.getD idx 0).toNat ≠ (right.getD idx 0).toNat := fun h => heq (UInt8.toNat_inj.mp h)
            have hle : (left.getD idx 0).toNat ≤ (right.getD idx 0).toNat := not_lt.mp hgt
            omega
          calc _ ≤ ((left.getD idx 0).toNat + 1) * 256 ^ rest.length := by
                rw [Nat.add_mul]
                omega
            _ ≤ (right.getD idx 0).toNat * 256 ^ rest.length := Nat.mul_le_mul_right _ hle
            _ ≤ _ := Nat.le_add_right _ _

theorem of_be_eq_zero {word : Buffer} (hzero : ∀ b ∈ word, b = 0) : of_be word = 0 := by
  induction word with
  | nil => rfl
  | cons _ _ ih =>
      obtain ⟨rfl, hrest⟩ := List.forall_mem_cons.mp hzero
      rw [of_be_cons, ih hrest, UInt8.toNat_zero, Nat.zero_mul]

/-- Positions past the end of a string do not count. -/
theorem code_key_eq {code : SString} {n : ℕ} (hn : n ≤ 256) (hlength : code.length ≤ n) :
    code_key code = of_be ((List.range n).map fun idx => code.getD idx 0) * 256 ^ (256 - n) := by
  have hrange : List.range 256 = List.range n ++ (List.range (256 - n)).map (n + ·) := by
    rw [← List.range_add, Nat.add_sub_cancel' hn]
  rw [code_key, hrange, List.map_append, of_be_append, List.length_map, List.length_map, List.length_range,
    Nat.add_eq_left]
  apply of_be_eq_zero
  intro b hb
  obtain ⟨idx, hidx, rfl⟩ := List.mem_map.mp hb
  obtain ⟨i, -, rfl⟩ := List.mem_map.mp hidx
  exact List.getD_eq_default _ _ (by omega)

theorem copy_into_slice_eq {value : SString} (h : value.length ≤ 256) :
    copy_into_slice value (min value.length 256) = .ok value := by
  rw [copy_into_slice, if_pos (by omega)]

/-- **The comparison**, of codes that fit the buffers. -/
theorem asset_code_less_than_eq {left right : SString} (hleft : left.length ≤ 256) (hright : right.length ≤ 256) :
    asset_code_less_than left right = pure (decide (code_key right < code_key left)) := by
  have hn : min (max left.length right.length) 256 ≤ 256 := Nat.min_le_right _ _
  have hkeys : code_key right < code_key left ↔
      0 < compare_bytes left right (List.range (min (max left.length right.length) 256)) := by
    rw [compare_bytes_pos, code_key_eq hn (by omega), code_key_eq hn (by omega),
      Nat.mul_lt_mul_right (Nat.pow_pos (by decide))]
  rw [asset_code_less_than, compare_strings, copy_into_slice_eq hleft, copy_into_slice_eq hright]
  simp only [hkeys]
  rfl

/-- The one is the other with zero bytes behind it. -/
def SameButZeros (a b : SString) : Prop := ∃ n, a = b ++ List.replicate n 0 ∨ b = a ++ List.replicate n 0

theorem getD_append_zeros (a : SString) (n idx : ℕ) : (a ++ List.replicate n 0).getD idx 0 = a.getD idx 0 := by
  by_cases hidx : idx < a.length
  · exact List.getD_append _ _ _ _ hidx
  · rw [List.getD_append_right _ _ _ _ (by omega), List.getD_eq_default a _ (by omega)]
    by_cases hn : idx - a.length < n
    · rw [List.getD_eq_getElem _ _ (by rwa [List.length_replicate]), List.getElem_replicate]
    · exact List.getD_eq_default _ _ (by rw [List.length_replicate]; omega)

theorem eq_append_zeros {a b : SString} (hlength : a.length ≤ b.length) (h : ∀ idx, b.getD idx 0 = a.getD idx 0) :
    b = a ++ List.replicate (b.length - a.length) 0 := by
  refine List.ext_getElem (by rw [List.length_append, List.length_replicate]; omega) fun idx hidx hidx' => ?_
  rw [← List.getD_eq_getElem b 0 hidx, ← List.getD_eq_getElem _ 0 hidx', getD_append_zeros, h]

/-- What the comparison takes for equal. -/
theorem code_key_eq_iff {a b : SString} (ha : a.length ≤ 256) (hb : b.length ≤ 256) :
    code_key a = code_key b ↔ SameButZeros a b := by
  constructor
  · intro hkey
    have hwords : (List.range 256).map (fun idx => a.getD idx 0) = (List.range 256).map fun idx => b.getD idx 0 := by
      have hread := congrArg (be 256) hkey
      have hlength {code : SString} : ((List.range 256).map fun idx => code.getD idx 0).length = 256 := by simp
      have hword {code : SString} : be 256 (code_key code) = (List.range 256).map fun idx => code.getD idx 0 := by
        have := Contract.be_of_be ((List.range 256).map fun idx => code.getD idx 0)
        rwa [hlength] at this
      rwa [hword, hword] at hread
    have hsame : ∀ idx, b.getD idx 0 = a.getD idx 0 := by
      intro idx
      by_cases hidx : idx < 256
      · exact (List.map_inj_left.mp hwords idx (List.mem_range.mpr hidx)).symm
      · rw [List.getD_eq_default _ _ (by omega), List.getD_eq_default _ _ (by omega)]
    rcases Nat.le_total a.length b.length with hle | hle
    · exact ⟨_, .inr (eq_append_zeros hle hsame)⟩
    · exact ⟨_, .inl (eq_append_zeros hle fun idx => (hsame idx).symm)⟩
  · rintro ⟨n, rfl | rfl⟩ <;> simp only [code_key, getD_append_zeros]

/-! ## The payload -/

/-- A snapshot whose texts fit the buffers. -/
structure Short (snapshot : AssetStateSnapshot) : Prop where
  asset_code : snapshot.asset_code.length ≤ 256
  status : snapshot.status.length ≤ 256
  compliance : snapshot.compliance.length ≤ 256
  risk_rating : snapshot.risk_rating.length ≤ 256

def string_bytes (value : SString) : Buffer := be 4 value.length ++ value

def snapshot_bytes (snapshot : AssetStateSnapshot) : Buffer :=
  string_bytes snapshot.asset_code ++ string_bytes snapshot.status ++ string_bytes snapshot.compliance ++
    string_bytes snapshot.risk_rating ++ be 4 snapshot.risk_score_bps.toNat ++ be 4 snapshot.chain_count.toNat ++
    be 4 snapshot.oracle_feed_count.toNat ++ be 4 snapshot.bridge_count.toNat ++ be 4 snapshot.pool_count.toNat ++
    [if snapshot.is_frozen then 1 else 0] ++ be 8 snapshot.updated_at.toNat

/-- The bytes that are hashed. -/
def payload (snapshots : List AssetStateSnapshot) : Buffer :=
  be 4 STATE_EXPORT_VERSION.toNat ++ be 4 snapshots.length ++ (snapshots.map snapshot_bytes).flatten

theorem append_string_eq (buf : Buffer) {value : SString} (h : value.length ≤ 256) :
    append_string buf value = .ok (buf ++ string_bytes value) := by
  have hlen : value.length.toUInt32.toNat = value.length := by
    rw [Nat.toUInt32_eq, UInt32.toNat_ofNat', Nat.mod_eq_of_lt (by omega)]
  rw [append_string, copy_into_slice_eq h, append_u32]
  simp only [hlen, string_bytes, List.append_assoc]
  rfl

theorem append_snapshot_eq (buf : Buffer) {snapshot : AssetStateSnapshot} (h : Short snapshot) :
    append_snapshot buf snapshot = .ok (buf ++ snapshot_bytes snapshot) := by
  simp only [append_snapshot, append_string_eq _ h.asset_code, append_string_eq _ h.status,
    append_string_eq _ h.compliance, append_string_eq _ h.risk_rating, append_u32, append_u64, append_bool,
    snapshot_bytes, List.append_assoc]
  simp only [bind, Except.bind, List.append_assoc]
  rfl

theorem be_append_inj {w m n : ℕ} {x y : Buffer} (hm : m < 256 ^ w) (hn : n < 256 ^ w)
    (h : be w m ++ x = be w n ++ y) : m = n ∧ x = y := by
  obtain ⟨hword, hrest⟩ := List.append_inj h (by rw [length_be, length_be])
  exact ⟨be_inj hm hn hword, hrest⟩

theorem u32_append_inj {a b : U32} {x y : Buffer} (h : be 4 a.toNat ++ x = be 4 b.toNat ++ y) : a = b ∧ x = y := by
  obtain ⟨heq, hrest⟩ := be_append_inj a.toNat_lt b.toNat_lt h
  exact ⟨UInt32.toNat_inj.mp heq, hrest⟩

theorem string_bytes_append_inj {a b : SString} {x y : Buffer} (ha : a.length ≤ 256) (hb : b.length ≤ 256)
    (h : string_bytes a ++ x = string_bytes b ++ y) : a = b ∧ x = y := by
  rw [string_bytes, string_bytes, List.append_assoc, List.append_assoc] at h
  obtain ⟨hlength, hrest⟩ := be_append_inj (by omega) (by omega) h
  exact List.append_inj hrest hlength

/-- A snapshot can be read off where its bytes begin. -/
theorem snapshot_bytes_reads (snapshot : AssetStateSnapshot) :
    UniqueReading.Reads (fun a s => Short a ∧ s = snapshot_bytes a) (fun _ => True) (· = ·) snapshot := by
  rintro other s t x y ⟨ha, hs⟩ ⟨hb, ht⟩ - - h
  rw [hs, ht] at h
  simp only [snapshot_bytes, List.append_assoc] at h
  obtain ⟨hcode, h⟩ := string_bytes_append_inj ha.asset_code hb.asset_code h
  obtain ⟨hstatus, h⟩ := string_bytes_append_inj ha.status hb.status h
  obtain ⟨hcompliance, h⟩ := string_bytes_append_inj ha.compliance hb.compliance h
  obtain ⟨hrating, h⟩ := string_bytes_append_inj ha.risk_rating hb.risk_rating h
  obtain ⟨hscore, h⟩ := u32_append_inj h
  obtain ⟨hchains, h⟩ := u32_append_inj h
  obtain ⟨hfeeds, h⟩ := u32_append_inj h
  obtain ⟨hbridges, h⟩ := u32_append_inj h
  obtain ⟨hpools, h⟩ := u32_append_inj h
  obtain ⟨hfrozen, h⟩ := List.append_inj h rfl
  obtain ⟨hupdated, h⟩ := be_append_inj snapshot.updated_at.toNat_lt other.updated_at.toNat_lt h
  refine ⟨?_, h⟩
  have hfrozen : snapshot.is_frozen = other.is_frozen := by
    cases hself : snapshot.is_frozen <;> cases hother : other.is_frozen <;> simp_all
  cases snapshot
  cases other
  simp only [AssetStateSnapshot.mk.injEq]
  exact ⟨hcode, hstatus, hcompliance, hrating, hscore, hchains, hfeeds, hbridges, hpools, hfrozen,
    UInt64.toNat_inj.mp hupdated⟩

/-- **The payload is injective.** -/
theorem payload_injOn : Set.InjOn payload {snapshots | ∀ snapshot ∈ snapshots, Short snapshot} := by
  intro l hl l' hl' h
  have hforall {l : List AssetStateSnapshot} (hl : ∀ snapshot ∈ l, Short snapshot) :
      l.Forall₂ (fun a s => Short a ∧ s = snapshot_bytes a) (l.map snapshot_bytes) := by
    rw [List.forall₂_map_right_iff, List.forall₂_same]
    exact fun a ha => ⟨hl a ha, rfl⟩
  have hnil (a : AssetStateSnapshot) : ¬(Short a ∧ ([] : Buffer) = snapshot_bytes a) := by
    rintro ⟨-, heq⟩
    have := congrArg List.length heq
    simp [snapshot_bytes] at this
  rw [payload, payload, List.append_assoc, List.append_assoc, List.append_cancel_left_eq] at h
  have hrest := (List.append_inj h (by rw [length_be, length_be])).2
  have hsame := UniqueReading.reads_flatten (fun a _ => snapshot_bytes_reads a) hnil (hforall hl) (hforall hl') hrest
  exact List.forall₂_eq_eq_eq ▸ hsame

/-- The bytes that digits stand for. -/
def of_hex : Buffer → Buffer
  | high :: low :: rest => (HEX.idxOf high * 16 + HEX.idxOf low).toUInt8 :: of_hex rest
  | _ => []

theorem of_hex_digits (byte : UInt8) :
    (HEX.idxOf (HEX.getD (byte >>> 4).toNat 0) * 16 + HEX.idxOf (HEX.getD (byte &&& 0x0f).toNat 0)).toUInt8 = byte := by
  have hall : ∀ i : Fin 256, (HEX.idxOf (HEX.getD (UInt8.ofNat i >>> 4).toNat 0) * 16 +
      HEX.idxOf (HEX.getD (UInt8.ofNat i &&& 0x0f).toNat 0)).toUInt8 = UInt8.ofNat i := by decide +kernel
  simpa using hall ⟨byte.toNat, byte.toNat_lt⟩

theorem hash_to_hex_injective : Function.Injective hash_to_hex := by
  have hread (bytes : Buffer) : of_hex (bytes.flatMap fun (byte : UInt8) =>
      [HEX.getD (byte >>> 4).toNat 0, HEX.getD (byte &&& 0x0f).toNat 0]) = bytes := by
    induction bytes with
    | nil => rfl
    | cons _ _ ih =>
        rw [List.flatMap_cons, List.cons_append, List.cons_append, List.nil_append, of_hex, of_hex_digits, ih]
  intro a b h
  have hbytes := congrArg of_hex h
  rw [hash_to_hex, hash_to_hex, hread, hread] at hbytes
  exact BytesN.toList_inj.mp hbytes

/-! ## The hash of an export -/

/-- A list that can be exported: one snapshot for each asset code, with texts that fit, and not too long. -/
structure Exportable (snapshots : List AssetStateSnapshot) : Prop where
  length : snapshots.length < 2 ^ 32
  codes : (snapshots.map AssetStateSnapshot.asset_code).Nodup
  short : ∀ snapshot ∈ snapshots, Short snapshot

/-- The snapshots in the order in which they are hashed. -/
def ordered (snapshots : List AssetStateSnapshot) : List AssetStateSnapshot :=
  ExchangeSort.sort (fun snapshot => code_key snapshot.asset_code) snapshots.length snapshots

theorem perm_ordered (l : List AssetStateSnapshot) : (ordered l).Perm l := ExchangeSort.perm_sort _ l

section Hashing

variable {sha256 : Sha256} {env : Env} {address : Address} {l : List AssetStateSnapshot}

theorem Exportable.perm {l' : List AssetStateSnapshot} (h : Exportable l) (hperm : l'.Perm l) : Exportable l' where
  length := hperm.length_eq ▸ h.length
  codes := ((hperm.map _).nodup_iff).mpr h.codes
  short := fun snapshot hsnapshot => h.short snapshot (hperm.mem_iff.mp hsnapshot)

theorem compute_snapshots_hash_eq (h : Exportable l) :
    compute_snapshots_hash sha256 l = .ok (hash_to_hex (sha256 (payload l))) := by
  have hfold (buf : Buffer) : l.foldlM append_snapshot buf = .ok (buf ++ (l.map snapshot_bytes).flatten) := by
    have hshort := h.short
    clear h
    induction l generalizing buf with
    | nil => simp [pure, Except.pure]
    | cons _ _ ih =>
        obtain ⟨hsnapshot, hrest⟩ := List.forall_mem_cons.mp hshort
        rw [List.foldlM_cons, append_snapshot_eq buf hsnapshot]
        simp only [bind, Except.bind, ih _ hrest, List.map_cons, List.flatten_cons, List.append_assoc]
  have hcount : l.length.toUInt32.toNat = l.length := by
    rw [Nat.toUInt32_eq, UInt32.toNat_ofNat', Nat.mod_eq_of_lt h.length]
  rw [compute_snapshots_hash]
  simp only [append_u32, hfold, hcount, List.nil_append]
  rfl

/-- **What is exported.** -/
theorem assemble_export_eq (h : Exportable l) :
    ∃ exported, assemble_export sha256 env address l = .ok exported ∧
      exported.state_hash = hash_to_hex (sha256 (payload (ordered l))) := by
  have hsort : sort_snapshots l = .ok (ordered l) := by
    rw [sort_snapshots, ordered]
    exact ExchangeSort.sortM_eq fun a ha b hb =>
      asset_code_less_than_eq (h.short a ha).asset_code (h.short b hb).asset_code
  rw [assemble_export, assemble_export_with_mmr, hsort]
  simp only [bind, Except.bind, compute_snapshots_hash_eq (h.perm (perm_ordered l))]
  exact ⟨_, rfl, rfl⟩

/-- Two lists of a set within which SHA-256 has no collision have one hash just when they are hashed in one order. -/
theorem state_hash_eq_iff {S : Set (List AssetStateSnapshot)}
    (hclosed : ∀ l ∈ S, ∀ l', l'.Perm l → l' ∈ S) (hexportable : ∀ l ∈ S, Exportable l)
    (hcollision : Set.InjOn sha256 (payload '' S)) {l l' : List AssetStateSnapshot} (hl : l ∈ S) (hl' : l' ∈ S) :
    (assemble_export sha256 env address l').map StateExport.state_hash =
      (assemble_export sha256 env address l).map StateExport.state_hash ↔ ordered l' = ordered l := by
  obtain ⟨exported, hok, hhash⟩ : ∃ exported, assemble_export sha256 env address l = .ok exported ∧ _ :=
    assemble_export_eq (hexportable l hl)
  obtain ⟨exported', hok', hhash'⟩ : ∃ exported', assemble_export sha256 env address l' = .ok exported' ∧ _ :=
    assemble_export_eq (hexportable l' hl')
  have hmem := hclosed l hl _ (perm_ordered l)
  have hmem' := hclosed l' hl' _ (perm_ordered l')
  rw [hok, hok', Except.map, Except.map, hhash, hhash', Except.ok.injEq, hash_to_hex_injective.eq_iff,
    hcollision.eq_iff (Set.mem_image_of_mem _ hmem') (Set.mem_image_of_mem _ hmem)]
  exact payload_injOn.eq_iff (hexportable _ hmem').short (hexportable _ hmem).short

/-- **Canonical**, but for codes that differ in trailing zeros alone. -/
theorem state_hash_canonical {S : Set (List AssetStateSnapshot)}
    (hclosed : ∀ l ∈ S, ∀ l', l'.Perm l → l' ∈ S) (hexportable : ∀ l ∈ S, Exportable l)
    (hcollision : Set.InjOn sha256 (payload '' S)) (env : Env) (address : Address)
    {l : List AssetStateSnapshot} (hl : l ∈ S) :
    (∀ l' ∈ S, (assemble_export sha256 env address l').map StateExport.state_hash =
      (assemble_export sha256 env address l).map StateExport.state_hash ↔ l'.Perm l) ↔
      ∀ a ∈ l, ∀ b ∈ l, SameButZeros a.asset_code b.asset_code → a = b := by
  have hdistinct : Set.InjOn (fun snapshot => code_key snapshot.asset_code) {a | a ∈ l} ↔
      ∀ a ∈ l, ∀ b ∈ l, SameButZeros a.asset_code b.asset_code → a = b := by
    have hshort := (hexportable l hl).short
    refine forall₂_congr fun a ha => forall₂_congr fun b hb => ?_
    dsimp only
    rw [code_key_eq_iff (hshort a ha).asset_code (hshort b hb).asset_code]
  rw [← hdistinct, ← ExchangeSort.sort_canonical_iff]
  constructor
  · intro h l' hperm
    have hl' := hclosed l hl l' hperm
    exact (state_hash_eq_iff hclosed hexportable hcollision hl hl').mp ((h l' hl').mpr hperm)
  · intro h l' hl'
    rw [state_hash_eq_iff hclosed hexportable hcollision hl hl']
    refine ⟨fun hsame => ?_, h l'⟩
    exact (perm_ordered l').symm.trans (hsame ▸ perm_ordered l)

/-- Two assets without a record. -/
theorem exportable_pair {a b : SString} (ha : a.length ≤ 256) (hb : b.length ≤ 256) (hne : a ≠ b) :
    Exportable [build_empty_asset_snapshot a, build_empty_asset_snapshot b] where
  length := by simp
  codes := by simpa [build_empty_asset_snapshot] using hne
  short := by
    have hunknown : (str "Unknown").length ≤ 256 := by decide
    have hshort {code : SString} (hcode : code.length ≤ 256) : Short (build_empty_asset_snapshot code) :=
      ⟨hcode, hunknown, hunknown, hunknown⟩
    exact List.forall_mem_cons.mpr ⟨hshort ha, List.forall_mem_singleton.mpr (hshort hb)⟩

/-- The lists of two snapshots, either way round. -/
theorem perm_pair_iff {α : Type} [DecidableEq α] {a b : α} (hne : a ≠ b) {l : List α} :
    l.Perm [a, b] ↔ l = [a, b] ∨ l = [b, a] := by
  constructor
  · intro h
    obtain ⟨x, y, rfl⟩ := List.length_eq_two.mp h.length_eq
    have hnodup : x ≠ y := by simpa using (h.nodup_iff.mpr (by simpa using hne))
    have hx : x = a ∨ x = b := by simpa using h.mem_iff.mp (List.mem_cons_self (a := x))
    have hy : y = a ∨ y = b := by simpa using h.mem_iff.mp (List.mem_cons_of_mem x (List.mem_singleton_self y))
    rcases hx with rfl | rfl <;> rcases hy with rfl | rfl <;> simp_all
  · rintro (rfl | rfl)
    · exact .refl _
    · exact .swap _ _ _

/-- Two assets, with a digest that tells their two orders apart by the length of the first code. -/
theorem state_hash_canonical_pair :
    ∃ sha256 : Sha256,
      Set.InjOn sha256 (payload ''
        {l | l.Perm [build_empty_asset_snapshot (str "XLM"), build_empty_asset_snapshot (str "USDC")]}) ∧
      ∀ l ∈ {l | l.Perm [build_empty_asset_snapshot (str "XLM"), build_empty_asset_snapshot (str "USDC")]},
        (assemble_export sha256 ⟨0, fun _ => true⟩ (.contract zero32) l).map StateExport.state_hash =
          (assemble_export sha256 ⟨0, fun _ => true⟩ (.contract zero32)
            [build_empty_asset_snapshot (str "XLM"), build_empty_asset_snapshot (str "USDC")]).map
              StateExport.state_hash ↔
          l.Perm [build_empty_asset_snapshot (str "XLM"), build_empty_asset_snapshot (str "USDC")] := by
  have hexportable := exportable_pair (a := str "XLM") (b := str "USDC") (by decide) (by decide) (by decide)
  have hne : build_empty_asset_snapshot (str "XLM") ≠ build_empty_asset_snapshot (str "USDC") := by decide
  have hcollision : Set.InjOn (fun m : Buffer => Vector.replicate 32 (m.getD 11 0)) (payload ''
      {l | l.Perm [build_empty_asset_snapshot (str "XLM"), build_empty_asset_snapshot (str "USDC")]}) := by
    rintro _ ⟨l, hl, rfl⟩ _ ⟨l', hl', rfl⟩ heq
    have hfirst := congrArg (fun digest : BytesN 32 => digest.toList.headD 0) heq
    rcases (perm_pair_iff hne).mp hl with rfl | rfl <;> rcases (perm_pair_iff hne).mp hl' with rfl | rfl
    · rfl
    · exact absurd hfirst (by decide)
    · exact absurd hfirst (by decide)
    · rfl
  refine ⟨_, hcollision, (state_hash_canonical (fun l hl l' hperm => hperm.trans hl) (fun l hl => hexportable.perm hl)
    hcollision _ _ (List.Perm.refl _)).mpr ?_⟩
  have hxlm : ¬SameButZeros (str "XLM") (str "USDC") := by
    rw [← code_key_eq_iff (by decide) (by decide)]
    decide +kernel
  have husdc : ¬SameButZeros (str "USDC") (str "XLM") := by
    rw [← code_key_eq_iff (by decide) (by decide)]
    decide +kernel
  intro a ha b hb hsame
  simp only [List.mem_cons, List.not_mem_nil, or_false] at ha hb
  rcases ha with rfl | rfl <;> rcases hb with rfl | rfl
  · rfl
  · exact absurd hsame hxlm
  · exact absurd hsame husdc
  · rfl

/-- Of two codes that differ in a trailing zero, either may come first, and the hash tells which did. -/
theorem state_hash_depends_on_order :
    [build_empty_asset_snapshot [65, 0], build_empty_asset_snapshot [65]].Perm
        [build_empty_asset_snapshot [65], build_empty_asset_snapshot [65, 0]] ∧
      Exportable [build_empty_asset_snapshot [65], build_empty_asset_snapshot [65, 0]] ∧
      ∀ sha256 : Sha256,
        Set.InjOn sha256 {payload [build_empty_asset_snapshot [65], build_empty_asset_snapshot [65, 0]],
          payload [build_empty_asset_snapshot [65, 0], build_empty_asset_snapshot [65]]} →
        (assemble_export sha256 ⟨0, fun _ => true⟩ (.contract zero32)
            [build_empty_asset_snapshot [65, 0], build_empty_asset_snapshot [65]]).map StateExport.state_hash ≠
          (assemble_export sha256 ⟨0, fun _ => true⟩ (.contract zero32)
            [build_empty_asset_snapshot [65], build_empty_asset_snapshot [65, 0]]).map StateExport.state_hash := by
  have hexportable := exportable_pair (a := [65]) (b := [65, 0]) (by decide) (by decide) (by decide)
  have hne : build_empty_asset_snapshot [65] ≠ build_empty_asset_snapshot [65, 0] := by decide
  refine ⟨.swap _ _ _, hexportable, fun sha256 hinj => ?_⟩
  -- the lists are those two, and both are in order already
  have hkey : code_key (build_empty_asset_snapshot [65]).asset_code =
      code_key (build_empty_asset_snapshot [65, 0]).asset_code :=
    (code_key_eq_iff (by decide) (by decide)).mpr ⟨1, .inr rfl⟩
  have hcollision : Set.InjOn sha256 (payload ''
      {l | l.Perm [build_empty_asset_snapshot [65], build_empty_asset_snapshot [65, 0]]}) := by
    refine hinj.mono ?_
    rintro _ ⟨l, hl, rfl⟩
    rcases (perm_pair_iff hne).mp hl with rfl | rfl
    · exact .inl rfl
    · exact .inr rfl
  intro heq
  have hsame := (state_hash_eq_iff (l := [build_empty_asset_snapshot [65], build_empty_asset_snapshot [65, 0]])
    (fun l hl l' hperm => hperm.trans hl) (fun l hl => hexportable.perm hl) hcollision (.refl _)
    (List.Perm.swap _ _ _)).mp heq
  rw [ordered, ordered, ExchangeSort.sort_of_pairwise, ExchangeSort.sort_of_pairwise] at hsame
  · exact hne (List.cons.inj hsame).1.symm
  · simpa using hkey.le
  · simpa using hkey.ge

end Hashing

/-! ## Inclusion -/

section Inclusion

open MmrAccumulator (Appends MmrStorage append get_root load_state save_state append_eq_ok)

variable {Account : Type} [DecidableEq Account] {sha256 : Sha256} {env₀ env : MmrStorage Account}
  {cs : List (BytesN 32)}

/-- **What is accepted**: an index, whichever it is, beside the expected root. -/
theorem verify_state_inclusion_iff {state_export : StateExport} {root : BytesN 32} :
    verify_state_inclusion state_export root = true ↔
      state_export.mmr_root = some root ∧ state_export.mmr_leaf_index.isSome := by
  rw [verify_state_inclusion]
  cases hroot : state_export.mmr_root with
  | none => simp
  | some => cases hindex : state_export.mmr_leaf_index <;> simp

/-- Every append counts, up to the last `u64`. -/
theorem appends_leaf_count (hrun : Appends sha256 env₀ cs env) (hnew : env₀.state = none) :
    (load_state env).leaf_count = cs.length ∧ cs.length < 2 ^ 64 := by
  induction hrun with
  | nil =>
      rw [load_state, hnew]
      exact ⟨rfl, by decide⟩
  | append _ _ _ _ _ hc ih =>
      obtain ⟨hcount, -⟩ := ih
      obtain ⟨-, rfl⟩ := append_eq_ok hc
      obtain ⟨admin, -, hc⟩ := Call.bind_eq_ok.mp hc
      obtain ⟨-, -, hc⟩ := Call.bind_eq_ok.mp hc
      obtain ⟨leaf_count, hadd, -⟩ := Call.bind_eq_ok.mp hc
      rw [List.length_append, List.length_singleton, ← hcount]
      refine ⟨rfl, ?_⟩
      unfold u64_add at hadd
      split at hadd
      · assumption
      · cases hadd

/-- **Never sound.** Whatever was appended, an export is accepted that names a leaf that was not. -/
theorem verify_state_inclusion_unsound (commitment : SString → BytesN 32) (hrun : Appends sha256 env₀ cs env)
    (hnew : env₀.state = none) :
    ∀ root, get_root sha256 env = .ok root →
      ¬∀ state_export : StateExport, verify_state_inclusion state_export root = true →
        ∃ leaf_index, state_export.mmr_leaf_index = some leaf_index ∧
          cs[leaf_index.toNat]? = some (commitment state_export.state_hash) := by
  intro root _ hsound
  obtain ⟨-, hlength⟩ := appends_leaf_count hrun hnew
  -- an index behind the last leaf
  have hforged := hsound
    { version := STATE_EXPORT_VERSION
      exported_at := 0
      contract_address := .contract zero32
      state_hash := []
      metadata := { item_count := 0, size_estimate_bytes := 0, compression_level := 0, notes := [] }
      mmr_root := some root
      mmr_leaf_index := some (UInt64.ofNat cs.length) } (verify_state_inclusion_iff.mpr ⟨rfl, rfl⟩)
  obtain ⟨leaf_index, hindex, hleaf⟩ := hforged
  obtain rfl := Option.some.inj hindex
  rw [UInt64.toNat_ofNat', Nat.mod_eq_of_lt hlength, List.getElem?_eq_none (Nat.le_refl _)] at hleaf
  cases hleaf

/-- One leaf. The digest is the length of what is hashed, over and over. -/
theorem exists_one_leaf :
    ∃ (sha256 : Sha256) (env : MmrStorage ℕ) (root : BytesN 32),
      Appends sha256 { admin := some 0, state := none } [zero32] env ∧ get_root sha256 env = .ok root := by
  have hone : Appends (fun m => Vector.replicate 32 m.length.toUInt8)
      ({ admin := some 0, state := none } : MmrStorage ℕ) ([] ++ [zero32]) _ :=
    .append (.nil _) (fun _ => true) 0 zero32 0 rfl
  exact ⟨_, _, _, hone, rfl⟩

theorem verify_state_inclusion_unsound_one :
    ∃ (sha256 : Sha256) (env : MmrStorage ℕ) (root : BytesN 32),
      Appends sha256 { admin := some 0, state := none } [zero32] env ∧ get_root sha256 env = .ok root ∧
        ¬∀ state_export : StateExport, verify_state_inclusion state_export root = true →
          ∃ leaf_index, state_export.mmr_leaf_index = some leaf_index ∧
            [zero32][leaf_index.toNat]? = some ((fun _ => zero32 : SString → BytesN 32) state_export.state_hash) := by
  obtain ⟨sha256, env, root, hrun, hroot⟩ := exists_one_leaf
  exact ⟨sha256, env, root, hrun, hroot, verify_state_inclusion_unsound (fun _ => zero32) hrun rfl root hroot⟩

/-- With one leaf in the range, an export is accepted for the leaf at index 7. -/
theorem forged_index_accepted :
    ∃ (sha256 : Sha256) (env : MmrStorage ℕ) (root : BytesN 32),
      Appends sha256 { admin := some 0, state := none } [zero32] env ∧ get_root sha256 env = .ok root ∧
        verify_state_inclusion
          { version := STATE_EXPORT_VERSION
            exported_at := 0
            contract_address := .contract zero32
            state_hash := []
            metadata := { item_count := 0, size_estimate_bytes := 0, compression_level := 0, notes := [] }
            mmr_root := some root
            mmr_leaf_index := some 7 } root = true ∧
        [zero32][(7 : U64).toNat]? = none := by
  obtain ⟨sha256, env, root, hrun, hroot⟩ := exists_one_leaf
  exact ⟨sha256, env, root, hrun, hroot, verify_state_inclusion_iff.mpr ⟨rfl, rfl⟩, rfl⟩

end Inclusion

end BridgeWatch.StateExportHelper

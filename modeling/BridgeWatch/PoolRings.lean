/-
The rings of the liquidity pools: how the readers walk them, and what one recorded pool state leaves.

A pool has three rings, for its snapshots, its daily buckets and its price observations. All are
written at a head that is kept with a count of all writes, and the walks start from the two. `Ring` says
what that head and count mean for a log of what was written. The readers of the history are here too,
since `ContractPools` has the functions that recording a pool state runs.
-/
import BridgeWatch.ContractCalls
import BridgeWatch.RingBuffer

set_option autoImplicit false

namespace BridgeWatch.Contract

open Transaction RingBuffer

/-! ## The readers -/

namespace liquidity_pool

/-- The walk of `get_snapshots_in_window` and of `get_daily_history`: what is kept of the records of
a ring, from the oldest on. -/
def walk_ring {α : Type} (head count capacity : U32) (slot : U32 → Soroban (Option α))
    (keep : α → Bool) : Soroban (List α) :=
  let actual_count := if capacity < count then capacity else count
  if actual_count = 0 then
    return []
  else
    let start_idx := if capacity < count then head else 0
    (List.range actual_count.toNat).foldlM (fun result i => do
      let sum ← add_u32 start_idx (UInt32.ofNat i)
      let idx ← rem_u32 sum capacity
      let entry ← slot idx
      return result ++ (entry.filter keep).toList) []

def get_snapshots_in_window (pool_id : SString) (from_timestamp to_timestamp : U64) :
    Soroban (List PoolSnapshot) := do
  let meta_ ← get (.PoolRingMeta pool_id)
  let meta_ := meta_.getD { head := 0, count := 0, capacity := MAX_SNAPSHOTS }
  walk_ring meta_.head meta_.count meta_.capacity (fun idx => get (.PoolSnapshot pool_id idx))
    fun s => from_timestamp ≤ s.timestamp && s.timestamp ≤ to_timestamp

def get_pool_history (pool_id : SString) (from_timestamp to_timestamp : U64) :
    Soroban (List PoolSnapshot) :=
  get_snapshots_in_window pool_id from_timestamp to_timestamp

def get_daily_history (pool_id : SString) (from_timestamp to_timestamp : U64) :
    Soroban (List DailyBucket) := do
  let meta_ ← get (.DailyRingMeta pool_id)
  let meta_ := meta_.getD { head := 0, count := 0, capacity := MAX_DAILY_BUCKETS }
  walk_ring meta_.head meta_.count meta_.capacity (fun idx => get (.DailyBucket pool_id idx))
    fun b => from_timestamp ≤ b.day_timestamp && b.day_timestamp ≤ to_timestamp

end liquidity_pool

/-- The entry point `get_pool_history`. -/
def get_pool_history (pool_id : SString) (from_timestamp to_timestamp : U64) :
    Soroban (List PoolSnapshot) :=
  liquidity_pool.get_pool_history pool_id from_timestamp to_timestamp

/-- The entry point `get_daily_history`. -/
def get_daily_history (pool_id : SString) (from_timestamp to_timestamp : U64) :
    Soroban (List DailyBucket) :=
  liquidity_pool.get_daily_history pool_id from_timestamp to_timestamp

/-- The entry point `get_pool_twap`. -/
def get_pool_twap (pool_id : SString) (window_secs : U64) : Soroban (Option TwapResult) :=
  liquidity_pool.calculate_twap pool_id window_secs

/-! ## Rings -/

section Rings

variable {α : Type} {cap head count : U32} {slot : U32 → Option α} {log : List α}
variable {env : Env} {s s' : Storage}

/-- The head, the count of all writes and the slots of a ring of capacity `cap` after the writes
of `log`. -/
structure Ring (cap head count : U32) (slot : U32 → Option α) (log : List α) : Prop where
  count_eq : count.toNat = log.length
  head_eq : head.toNat = log.length % cap.toNat
  holds : Holds cap.toNat (fun i => slot (UInt32.ofNat i)) log

theorem Ring.nil (cap : U32) (slot : U32 → Option α) : Ring cap 0 0 slot [] :=
  ⟨rfl, (Nat.zero_mod _).symm, Holds.nil⟩

theorem toNat_ofNat_of_lt (cap : U32) {i : ℕ} (h : i < cap.toNat) : (UInt32.ofNat i).toNat = i := by
  rw [UInt32.toNat_ofNat', Nat.mod_eq_of_lt (h.trans cap.toNat_lt)]

/-- A write to one slot, as the slots are numbered. -/
theorem update_slot {idx : U32} {n : ℕ} (hidx : idx.toNat = n) (a : α) {i : ℕ} (hi : i < cap.toNat) :
    Function.update slot idx (some a) (UInt32.ofNat i) =
      Function.update (fun i => slot (UInt32.ofNat i)) n (some a) i := by
  by_cases h : i = n
  · have hslot : UInt32.ofNat i = idx := by
      rw [← UInt32.toNat_inj, toNat_ofNat_of_lt cap hi, hidx, h]
    rw [hslot, h, Function.update_self, Function.update_self]
  · have hslot : UInt32.ofNat i ≠ idx := by
      intro heq
      rw [← heq, toNat_ofNat_of_lt cap hi] at hidx
      exact h hidx
    rw [Function.update_of_ne hslot, Function.update_of_ne h]

/-- One more write. -/
theorem Ring.push (h : Ring cap head count slot log) (hcap : 0 < cap.toNat)
    (hcount : count.toNat + 1 < 2 ^ 32) (a : α) :
    Ring cap ((head + 1) % cap) (count + 1) (Function.update slot head (some a)) (log ++ [a]) := by
  have hone : (1 : U32).toNat = 1 := rfl
  have hlt : head.toNat < cap.toNat := by
    rw [h.head_eq]
    exact Nat.mod_lt _ hcap
  have hnext : head.toNat + 1 < 2 ^ 32 := by
    have := cap.toNat_lt
    omega
  refine ⟨?_, ?_, (h.holds.push a).congr hcap fun i hi => update_slot h.head_eq a hi⟩
  · rw [UInt32.toNat_add, hone, Nat.mod_eq_of_lt hcount, h.count_eq, List.length_append,
      List.length_singleton]
  · rw [UInt32.toNat_mod, UInt32.toNat_add, hone, Nat.mod_eq_of_lt hnext, h.head_eq, Nat.mod_add_mod,
      List.length_append, List.length_singleton]

theorem Ring.replace {a : α} (h : Ring cap head count slot (log ++ [a])) (hcap : 0 < cap.toNat)
    {idx : U32} (hidx : idx.toNat = log.length % cap.toNat) (b : α) :
    Ring cap head count (Function.update slot idx (some b)) (log ++ [b]) := by
  obtain ⟨hcount, hhead, hholds⟩ := h
  rw [List.length_append, List.length_singleton] at hcount hhead
  refine ⟨?_, ?_, (hholds.replace b).congr hcap fun i hi => update_slot hidx b hi⟩
  · rw [hcount, List.length_append, List.length_singleton]
  · rw [hhead, List.length_append, List.length_singleton]

theorem Ring.newest {a : α} (h : Ring cap head count slot (log ++ [a])) (hcap : 0 < cap.toNat)
    {idx : U32} (hidx : idx.toNat = log.length % cap.toNat) : slot idx = some a := by
  have hnewest : slot (UInt32.ofNat (log.length % cap.toNat)) = some a := h.holds.newest hcap
  rwa [← hidx, UInt32.ofNat_toNat] at hnewest

/-- The index before the head is that of the newest entry. -/
theorem Ring.previous_index {a : α} (h : Ring cap head count slot (log ++ [a])) (hcap : 0 < cap.toNat)
    {idx : U32} (hok : liquidity_pool.previous_index head cap env s = .ok (idx, s')) :
    idx.toNat = log.length % cap.toNat ∧ s' = s := by
  have hhead := h.head_eq
  have hlt := Nat.mod_lt log.length hcap
  rw [List.length_append, List.length_singleton, ← Nat.mod_add_mod] at hhead
  rw [liquidity_pool.previous_index, ite_eq_ok, sub_u32_eq_ok, pure_eq_ok] at hok
  rcases hok with ⟨hzero, hone, rfl, rfl⟩ | ⟨hzero, rfl, rfl⟩
  · refine ⟨?_, rfl⟩
    rw [hzero, UInt32.toNat_zero] at hhead
    have hfull : log.length % cap.toNat + 1 = cap.toNat := by
      by_contra hne
      rw [Nat.mod_eq_of_lt (by omega)] at hhead
      omega
    rw [UInt32.toNat_sub_of_le _ _ (UInt32.not_lt.mp hone), UInt32.toNat_one]
    omega
  · refine ⟨?_, rfl⟩
    have hpos : head.toNat ≠ 0 := by rwa [ne_eq, ← UInt32.toNat_zero, UInt32.toNat_inj]
    have hpart : log.length % cap.toNat + 1 < cap.toNat := by
      by_contra hge
      rw [show log.length % cap.toNat + 1 = cap.toNat by omega, Nat.mod_self] at hhead
      exact hpos hhead
    rw [Nat.mod_eq_of_lt hpart] at hhead
    have hle : (1 : U32) ≤ head := by
      rw [UInt32.le_iff_toNat_le, UInt32.toNat_one]
      omega
    rw [UInt32.toNat_sub_of_le _ _ hle, UInt32.toNat_one]
    omega

/-- How many records a walk takes. -/
theorem Ring.toNat_actual_count (h : Ring cap head count slot log) :
    (if cap < count then cap else count).toNat = min log.length cap.toNat := by
  have hcount := h.count_eq
  by_cases hlt : cap < count
  · rw [if_pos hlt]
    rw [UInt32.lt_iff_toNat_lt] at hlt
    omega
  · rw [if_neg hlt]
    rw [UInt32.lt_iff_toNat_lt] at hlt
    omega

/-- **What a reader walks over**: the last entries of the log. -/
theorem Ring.walk (h : Ring cap head count slot log) (hcap : 0 < cap.toNat)
    (hbound : cap.toNat < 2 ^ 31) {read : U32 → Soroban (Option α)}
    (hread : ∀ idx, read idx env s = .ok (slot idx, s)) (keep : α → Bool) :
    liquidity_pool.walk_ring head count cap read keep env s =
      .ok ((recent cap.toNat log).filter keep, s) := by
  have hactual := h.toNat_actual_count
  have hnonzero : cap ≠ 0 := by
    rintro rfl
    exact absurd hcap (by decide)
  unfold liquidity_pool.walk_ring
  dsimp only
  by_cases hzero : (if cap < count then cap else count) = 0
  · have hnil : log = [] := by
      rw [hzero, UInt32.toNat_zero] at hactual
      exact List.length_eq_zero_iff.mp (by omega)
    rw [if_pos hzero, hnil, pure_eq_ok]
    exact ⟨by simp [recent], rfl⟩
  · rw [if_neg hzero, hactual]
    have hstart : (if cap < count then head else 0).toNat =
        if cap.toNat < log.length then log.length % cap.toNat else 0 := by
      rw [← h.head_eq, ← h.count_eq]
      by_cases hlt : cap < count
      · rw [if_pos hlt, if_pos (UInt32.lt_iff_toNat_lt.mp hlt)]
      · rw [if_neg hlt, if_neg (fun hlt' => hlt (UInt32.lt_iff_toNat_lt.mpr hlt')), UInt32.toNat_zero]
    have hbelow : (if cap < count then head else 0).toNat < cap.toNat := by
      rw [hstart]
      by_cases hlt : cap.toNat < log.length
      · rw [if_pos hlt]
        exact Nat.mod_lt _ hcap
      · rw [if_neg hlt]
        exact hcap
    generalize (if cap < count then head else 0) = start at hstart hbelow
    have hfold (is : List ℕ) :
        is.foldl (fun kept i =>
            kept ++ ((slot (UInt32.ofNat ((start.toNat + i) % cap.toNat))).filter keep).toList) [] =
          (is.map fun i => slot (UInt32.ofNat ((start.toNat + i) % cap.toNat))).foldl
            (fun kept o => kept ++ (o.filter keep).toList) [] := by
      rw [List.foldl_map]
    rw [foldlM_of_forall (g := fun kept i =>
      kept ++ ((slot (UInt32.ofNat ((start.toNat + i) % cap.toNat))).filter keep).toList), hfold, hstart,
      h.holds.walk, foldl_append_filter, List.nil_append]
    · intro i hi result
      rw [List.mem_range] at hi
      have hsum : start.toNat + (UInt32.ofNat i).toNat < 2 ^ 32 := by
        rw [toNat_ofNat_of_lt cap (by omega)]
        omega
      have hidx : (start + UInt32.ofNat i) % cap = UInt32.ofNat ((start.toNat + i) % cap.toNat) := by
        rw [← UInt32.toNat_inj, toNat_ofNat_of_lt cap (Nat.mod_lt _ hcap), UInt32.toNat_mod,
          UInt32.toNat_add, Nat.mod_eq_of_lt hsum, toNat_ofNat_of_lt cap (by omega)]
      simp only [bind_eq_ok, add_u32_eq_ok, rem_u32_eq_ok, pure_eq_ok]
      refine ⟨_, _, ⟨hsum, rfl, rfl⟩, _, _, ⟨hnonzero, rfl, rfl⟩, _, _, hread _, ?_, rfl⟩
      rw [hidx]

end Rings

/-! ## What a recorded pool state leaves -/

/-- The pool of a record of its rings. -/
def Key.pool : Key → Option SString
  | .PoolRingMeta pool_id => some pool_id
  | .PoolSnapshot pool_id _ => some pool_id
  | .DailyRingMeta pool_id => some pool_id
  | .DailyBucket pool_id _ => some pool_id
  | .PriceAccumulator pool_id => some pool_id
  | .PriceObservation pool_id _ => some pool_id
  | _ => none

/-- The families of the records of the rings. -/
def ringTags : List Tag :=
  [.PoolSnapshot, .PoolRingMeta, .DailyBucket, .DailyRingMeta, .PriceObservation, .PriceAccumulator]

theorem tag_mem_ringTags {k : Key} {pool_id : SString} (h : k.pool = some pool_id) : k.tag ∈ ringTags := by
  cases k <;>
    first
    | (dsimp only [Key.tag]; decide)
    | exact absurd h (Option.some_ne_none _).symm

/-- The price of a snapshot. -/
def snapshot_price (reserve_a reserve_b : I128) : I128 :=
  if 0 < reserve_a.toInt then
    BitVec.ofInt 128 ((reserve_b.toInt * liquidity_pool.PRECISION.toInt).tdiv reserve_a.toInt)
  else
    0

/-- What a call to record a pool state adds to the history. -/
def snapshot_of (env : Env) (pool_id : SString)
    (reserve_a reserve_b total_shares volume fees : I128) (pool_type : PoolType) : PoolSnapshot where
  pool_id := pool_id
  reserve_a := reserve_a
  reserve_b := reserve_b
  total_shares := total_shares
  price := snapshot_price reserve_a reserve_b
  volume := volume
  fees_collected := fees
  pool_type := pool_type
  timestamp := env.timestamp

/-- The snapshots of a pool that a call records when it succeeds. -/
def snapshots_of (pool_id : SString) (t : Invocation) : List PoolSnapshot :=
  match t.2 with
  | .record_pool_state pool reserve_a reserve_b total_shares volume fees pool_type =>
      if pool = pool_id then
        [snapshot_of t.1 pool reserve_a reserve_b total_shares volume fees pool_type]
      else
        []
  | _ => []

/-- The snapshots of a pool that a run has recorded. -/
abbrev recorded [Host] (pool_id : SString) (calls : List Invocation) : List PoolSnapshot :=
  collect exec (fun _ t => snapshots_of pool_id t) empty_storage calls

section Steps

variable {env : Env} {s s' : Storage} {u : Unit} {pool_id : SString}
variable {reserve_a reserve_b total_shares volume fees : I128} {pool_type : PoolType}

theorem pool_price_eq_ok {price : I128}
    (h : liquidity_pool.pool_price reserve_a reserve_b env s = .ok (price, s')) :
    price = snapshot_price reserve_a reserve_b ∧ s' = s := by
  unfold liquidity_pool.pool_price at h
  unfold snapshot_price
  by_cases hpos : 0 < reserve_a.toInt
  · rw [if_pos hpos] at h ⊢
    simp only [bind_eq_ok, checked_i128_eq_ok, panic_if_eq_ok, and_assoc, exists_and_left,
      exists_eq_left, exists_const] at h
    obtain ⟨scaled, hscaled, -, hprice, rfl⟩ := h
    rw [← hscaled, ← hprice, BitVec.ofInt_toInt]
    exact ⟨rfl, rfl⟩
  · rw [if_neg hpos] at h ⊢
    exact pure_eq_ok.mp h

/-- The metadata of the ring of a pool's snapshots. -/
def snapshot_ring (s : Storage) (pool_id : SString) : RingBufferMeta :=
  (s (.PoolRingMeta pool_id)).getD { head := 0, count := 0, capacity := liquidity_pool.MAX_SNAPSHOTS }

/-- The metadata of the ring of a pool's daily buckets. -/
def bucket_ring (s : Storage) (pool_id : SString) : DailyRingMeta :=
  (s (.DailyRingMeta pool_id)).getD
    { head := 0, count := 0, capacity := liquidity_pool.MAX_DAILY_BUCKETS }

/-- The stages of a call that records a pool state: the ring of the snapshots, the daily bucket, the
price observation, and what no ring depends on. -/
theorem record_pool_state_spec
    (h : record_pool_state pool_id reserve_a reserve_b total_shares volume fees pool_type env s =
      .ok (u, s')) :
    ∃ s₁ s₂ s₃, (snapshot_ring s pool_id).count.toNat + 1 < 2 ^ 32 ∧
      s₁ = Function.update (Function.update s (.PoolSnapshot pool_id (snapshot_ring s pool_id).head)
        (some (snapshot_of env pool_id reserve_a reserve_b total_shares volume fees pool_type)))
        (.PoolRingMeta pool_id)
          (some { head := ((snapshot_ring s pool_id).head + 1) % (snapshot_ring s pool_id).capacity
                  count := (snapshot_ring s pool_id).count + 1
                  capacity := (snapshot_ring s pool_id).capacity }) ∧
      liquidity_pool.update_daily_bucket pool_id
        (snapshot_of env pool_id reserve_a reserve_b total_shares volume fees pool_type) env s₁ =
          .ok ((), s₂) ∧
      liquidity_pool.record_price_observation pool_id (snapshot_price reserve_a reserve_b)
        env.timestamp env s₂ = .ok ((), s₃) ∧
      ∀ k ≠ .RegisteredPools, s' k = s₃ k := by
  simp only [record_pool_state, liquidity_pool.record_pool_state, bind_eq_ok, load_eq_ok, reads_eq_ok,
    save_eq_ok, add_u32_eq_ok, rem_u32_eq_ok, and_assoc, exists_and_left, exists_eq_left,
    exists_const] at h
  obtain ⟨_, s₁, hpause, _, s₂, hadmin, _, s₃, hauth, price, s₄, hprice, -, -, hcount, _, s₅, hbucket, _,
    s₆, hobserved, _, s₇, hsuspect, _, s₈, hchange, hregistered⟩ := h
  obtain rfl : s₁ = s := Writes.store_eq inferInstance hpause
  obtain rfl : s₂ = s₁ := Writes.store_eq inferInstance hadmin
  obtain rfl : s₃ = s₂ := Writes.store_eq inferInstance hauth
  obtain ⟨rfl, rfl⟩ := pool_price_eq_ok hprice
  obtain rfl : s₇ = s₆ := Writes.store_eq inferInstance hsuspect
  obtain rfl : s₈ = s₇ := Writes.store_eq inferInstance hchange
  refine ⟨_, _, _, hcount, rfl, hbucket, hobserved, ?_⟩
  intro k hk
  have hframe := (inferInstance : Writes [Tag.RegisteredPools]
    (liquidity_pool.ensure_pool_registered pool_id)).frame hregistered k
  apply hframe
  cases k <;> first | exact absurd rfl hk | (dsimp only [Tagged.tag, Key.tag]; decide)

/-- The day of a snapshot, by its first second. -/
def day_of (snapshot : PoolSnapshot) : U64 :=
  snapshot.timestamp / liquidity_pool.DAY_SECS * liquidity_pool.DAY_SECS

/-- The bucket that a snapshot opens. -/
def opened_bucket (snapshot : PoolSnapshot) : DailyBucket where
  day_timestamp := day_of snapshot
  open_price := snapshot.price
  high_price := snapshot.price
  low_price := snapshot.price
  close_price := snapshot.price
  total_volume := snapshot.volume
  total_fees := snapshot.fees_collected
  avg_reserve_a := snapshot.reserve_a
  avg_reserve_b := snapshot.reserve_b
  snapshot_count := 1

/-- The newest bucket takes the snapshot in when it is of the same day, and a bucket is opened
otherwise. -/
theorem update_daily_bucket_spec {snapshot : PoolSnapshot}
    (h : liquidity_pool.update_daily_bucket pool_id snapshot env s = .ok (u, s')) :
    (∃ idx bucket bucket', (bucket_ring s pool_id).count ≠ 0 ∧
      liquidity_pool.previous_index (bucket_ring s pool_id).head (bucket_ring s pool_id).capacity env s =
        .ok (idx, s) ∧
      s (.DailyBucket pool_id idx) = some bucket ∧ bucket.day_timestamp = day_of snapshot ∧
      liquidity_pool.update_bucket bucket snapshot env s = .ok (bucket', s) ∧
      s' = Function.update s (.DailyBucket pool_id idx) (some bucket')) ∨
    ((bucket_ring s pool_id).count ≠ 0 → ∃ idx,
      liquidity_pool.previous_index (bucket_ring s pool_id).head (bucket_ring s pool_id).capacity env s =
        .ok (idx, s) ∧
      ∀ bucket, s (.DailyBucket pool_id idx) = some bucket → bucket.day_timestamp ≠ day_of snapshot) ∧
    (bucket_ring s pool_id).count.toNat + 1 < 2 ^ 32 ∧
    s' = Function.update (Function.update s (.DailyBucket pool_id (bucket_ring s pool_id).head)
      (some (opened_bucket snapshot))) (.DailyRingMeta pool_id)
        (some { head := ((bucket_ring s pool_id).head + 1) % (bucket_ring s pool_id).capacity
                count := (bucket_ring s pool_id).count + 1
                capacity := (bucket_ring s pool_id).capacity }) := by
  simp only [liquidity_pool.update_daily_bucket, bind_eq_ok, load_eq_ok, and_assoc, exists_and_left,
    exists_eq_left] at h
  obtain ⟨current, s₁, hcurrent, h⟩ := h
  obtain rfl : s₁ = s := Writes.store_eq inferInstance hcurrent
  have hopen (hnone : current = none) : (bucket_ring s₁ pool_id).count.toNat + 1 < 2 ^ 32 ∧
      s' = Function.update (Function.update s₁ (.DailyBucket pool_id (bucket_ring s₁ pool_id).head)
        (some (opened_bucket snapshot))) (.DailyRingMeta pool_id)
          (some { head := ((bucket_ring s₁ pool_id).head + 1) % (bucket_ring s₁ pool_id).capacity
                  count := (bucket_ring s₁ pool_id).count + 1
                  capacity := (bucket_ring s₁ pool_id).capacity }) := by
    rw [hnone] at h
    simp only [Option.elim, liquidity_pool.open_bucket, bind_eq_ok, save_eq_ok, add_u32_eq_ok,
      rem_u32_eq_ok, and_assoc, exists_and_left, exists_eq_left, exists_const] at h
    exact ⟨h.2.2.1, h.2.2.2⟩
  unfold liquidity_pool.current_bucket at hcurrent
  by_cases hzero : (bucket_ring s₁ pool_id).count = 0
  · right
    refine ⟨fun hne => absurd hzero hne, hopen ?_⟩
    unfold bucket_ring at hzero
    rw [if_pos hzero, pure_eq_ok] at hcurrent
    exact hcurrent.1
  · have hne := hzero
    unfold bucket_ring at hzero
    rw [if_neg hzero] at hcurrent
    simp only [bind_eq_ok, load_eq_ok, pure_eq_ok, and_assoc, exists_and_left, exists_eq_left] at hcurrent
    obtain ⟨idx, s₂, hprevious, hcurrent, hs⟩ := hcurrent
    obtain rfl : s₂ = s₁ := Writes.store_eq inferInstance hprevious
    by_cases htoday : ∃ bucket, s₂ (.DailyBucket pool_id idx) = some bucket ∧
        bucket.day_timestamp = day_of snapshot
    · obtain ⟨bucket, hbucket, hday⟩ := htoday
      have htoday : decide (bucket.day_timestamp =
          snapshot.timestamp / liquidity_pool.DAY_SECS * liquidity_pool.DAY_SECS) = true :=
        decide_eq_true hday
      have hsome : current = some (idx, bucket) := by
        rw [hcurrent, hbucket, Option.filter_some, if_pos htoday, Option.map_some]
      left
      rw [hsome] at h
      simp only [Option.elim, bind_eq_ok, save_eq_ok] at h
      obtain ⟨bucket', s₃, hupdate, hs'⟩ := h
      obtain rfl : s₃ = s₂ := Writes.store_eq inferInstance hupdate
      exact ⟨idx, bucket, bucket', hne, hprevious, hbucket, hday, hupdate, hs'⟩
    · right
      refine ⟨fun _ => ⟨idx, hprevious, fun bucket hbucket hday => htoday ⟨bucket, hbucket, hday⟩⟩, hopen ?_⟩
      rw [hcurrent, Option.map_eq_none_iff, Option.filter_eq_none_iff]
      intro bucket hbucket hday
      exact htoday ⟨bucket, hbucket, of_decide_eq_true hday⟩

/-- The accumulator that an observation advances. -/
def accumulator (s : Storage) (pool_id : SString) (price : I128) (timestamp : U64) : PriceAccumulator :=
  (s (.PriceAccumulator pool_id)).getD
    { head := 0
      count := 0
      capacity := liquidity_pool.MAX_PRICE_OBSERVATIONS
      last_price := price
      last_timestamp := timestamp
      price_cumulative := 0 }

/-- An observation is appended unless the accumulator has one of the same time or later. -/
theorem record_price_observation_spec {price : I128} {timestamp : U64}
    (h : liquidity_pool.record_price_observation pool_id price timestamp env s = .ok (u, s')) :
    (∃ acc, s (.PriceAccumulator pool_id) = some acc ∧ ¬acc.last_timestamp < timestamp ∧ s' = s) ∨
    ∃ acc price_cumulative, acc = accumulator s pool_id price timestamp ∧
      (∀ acc', s (.PriceAccumulator pool_id) = some acc' → acc'.last_timestamp < timestamp) ∧
      liquidity_pool.current_cumulative acc timestamp env s = .ok (price_cumulative, s) ∧
      acc.count.toNat + 1 < 2 ^ 32 ∧
      s' = Function.update (Function.update s (.PriceObservation pool_id acc.head)
        (some { timestamp, price_cumulative })) (.PriceAccumulator pool_id)
          (some { head := (acc.head + 1) % acc.capacity
                  count := acc.count + 1
                  capacity := acc.capacity
                  last_price := price
                  last_timestamp := timestamp
                  price_cumulative }) := by
  have happend (acc : PriceAccumulator)
      (hok : liquidity_pool.observe_price pool_id price timestamp acc env s = .ok (u, s')) :
      ∃ price_cumulative,
        liquidity_pool.current_cumulative acc timestamp env s = .ok (price_cumulative, s) ∧
        acc.count.toNat + 1 < 2 ^ 32 ∧
        s' = Function.update (Function.update s (.PriceObservation pool_id acc.head)
          (some { timestamp, price_cumulative })) (.PriceAccumulator pool_id)
            (some { head := (acc.head + 1) % acc.capacity
                    count := acc.count + 1
                    capacity := acc.capacity
                    last_price := price
                    last_timestamp := timestamp
                    price_cumulative }) := by
    simp only [liquidity_pool.observe_price, bind_eq_ok, save_eq_ok, add_u32_eq_ok, rem_u32_eq_ok,
      and_assoc, exists_and_left, exists_eq_left, exists_const] at hok
    obtain ⟨price_cumulative, s₁, hcumulative, -, -, hcount, hs'⟩ := hok
    obtain rfl : s₁ = s := Writes.store_eq inferInstance hcumulative
    exact ⟨price_cumulative, hcumulative, hcount, hs'⟩
  simp only [liquidity_pool.record_price_observation, bind_eq_ok, load_eq_ok, and_assoc,
    exists_and_left, exists_eq_left, elim_eq_ok] at h
  rcases h with ⟨hnone, hok⟩ | ⟨acc, hsome, hok⟩
  · right
    obtain ⟨price_cumulative, hobserved⟩ := happend _ hok
    refine ⟨_, price_cumulative, ?_, ?_, hobserved⟩
    · rw [accumulator, hnone, Option.getD_none]
    · intro acc' hsome
      exact absurd (hnone.symm.trans hsome) (Option.some_ne_none _).symm
  · rw [exec_if_eq_ok] at hok
    rcases hok with ⟨hlt, hok⟩ | ⟨hge, hs'⟩
    · right
      obtain ⟨price_cumulative, hobserved⟩ := happend _ hok
      refine ⟨acc, price_cumulative, ?_, ?_, hobserved⟩
      · rw [accumulator, hsome, Option.getD_some]
      · intro acc' hsome'
        rwa [← Option.some.inj (hsome.symm.trans hsome')]
    · exact .inl ⟨acc, hsome, hge, hs'⟩

/-- **Frame.** Recording a state of one pool leaves the rings of the others alone. -/
theorem record_pool_state_frame
    (h : record_pool_state pool_id reserve_a reserve_b total_shares volume fees pool_type env s =
      .ok (u, s')) {k : Key} {other : SString} (hk : k.pool = some other) (hne : other ≠ pool_id) :
    s' k = s k := by
  have hne' (k' : Key) (hk' : k'.pool = some pool_id) : k ≠ k' := by
    rintro rfl
    exact hne (Option.some.inj (hk.symm.trans hk'))
  obtain ⟨s₁, s₂, s₃, -, hs₁, hbucket, hobserved, hs'⟩ := record_pool_state_spec h
  have h₁ : s₁ k = s k := by
    rw [hs₁, Function.update_of_ne (hne' _ rfl), Function.update_of_ne (hne' _ rfl)]
  have h₂ : s₂ k = s₁ k := by
    rcases update_daily_bucket_spec hbucket with ⟨idx, _, _, -, -, -, -, -, hs₂⟩ | ⟨-, -, hs₂⟩
    · rw [hs₂, Function.update_of_ne (hne' _ rfl)]
    · rw [hs₂, Function.update_of_ne (hne' _ rfl), Function.update_of_ne (hne' _ rfl)]
  have h₃ : s₃ k = s₂ k := by
    rcases record_price_observation_spec hobserved with ⟨_, -, -, hs₃⟩ | ⟨_, _, -, -, -, -, hs₃⟩
    · rw [hs₃]
    · rw [hs₃, Function.update_of_ne (hne' _ rfl), Function.update_of_ne (hne' _ rfl)]
  have hregistered : k ≠ .RegisteredPools := by
    rintro rfl
    exact Option.some_ne_none _ hk.symm
  rw [hs' k hregistered, h₃, h₂, h₁]

end Steps

/-! ## Along a run -/

section Runs

variable {pool_id : SString}

/-- Only a call to record a pool state writes to a ring. -/
theorem mem_writes_ring {call : EntryPoint} {t : Tag} (ht : t ∈ ringTags) (h : t ∈ writes call) :
    ∃ pool reserve_a reserve_b total_shares volume fees pool_type,
      call = .record_pool_state pool reserve_a reserve_b total_shares volume fees pool_type := by
  cases call <;>
    first
    | exact ⟨_, _, _, _, _, _, _, rfl⟩
    | exact absurd h ((by dsimp only [writes]; decide : ∀ t ∈ ringTags, t ∉ writes _) t ht)

/-- A call records a state of the pool, or it adds nothing to the history and leaves the pool's rings
alone. -/
theorem exec_pool_cases [Host] {call : EntryPoint} {env : Env} {s s' : Storage} (pool_id : SString)
    (h : exec call env s = .ok ((), s')) :
    (∃ reserve_a reserve_b total_shares volume fees pool_type,
      call = .record_pool_state pool_id reserve_a reserve_b total_shares volume fees pool_type ∧
      record_pool_state pool_id reserve_a reserve_b total_shares volume fees pool_type env s =
        .ok ((), s') ∧
      snapshots_of pool_id (env, call) =
        [snapshot_of env pool_id reserve_a reserve_b total_shares volume fees pool_type]) ∨
    snapshots_of pool_id (env, call) = [] ∧ ∀ k : Key, k.pool = some pool_id → s' k = s k := by
  by_cases hmem : ∃ t ∈ ringTags, t ∈ writes call
  · obtain ⟨t, ht, hwrites⟩ := hmem
    obtain ⟨pool, reserve_a, reserve_b, total_shares, volume, fees, pool_type, rfl⟩ :=
      mem_writes_ring ht hwrites
    by_cases hpool : pool = pool_id
    · subst hpool
      exact .inl ⟨_, _, _, _, _, _, rfl, h, if_pos rfl⟩
    · refine .inr ⟨if_neg hpool, ?_⟩
      intro k hk
      exact record_pool_state_frame h hk (Ne.symm hpool)
  · right
    constructor
    · cases call <;>
        first
        | rfl
        | exact absurd ⟨Tag.PoolSnapshot, by decide, by dsimp only [writes]; decide⟩ hmem
    · intro k hk
      apply exec_frame h
      intro hwrites
      exact hmem ⟨k.tag, tag_mem_ringTags hk, hwrites⟩

/-- The snapshots are in the order of their times. -/
def Ordered (log : List PoolSnapshot) : Prop := (log.map fun r => r.timestamp.toNat).Pairwise (· ≤ ·)

theorem Ordered.concat {log : List PoolSnapshot} {reading : PoolSnapshot} (h : Ordered log)
    (hle : ∀ r ∈ log, r.timestamp ≤ reading.timestamp) : Ordered (log ++ [reading]) := by
  unfold Ordered at *
  rw [List.map_append, List.pairwise_append]
  refine ⟨h, List.pairwise_singleton _ _, ?_⟩
  intro x hx y hy
  obtain ⟨r, hr, rfl⟩ := List.mem_map.mp hx
  rw [List.map_singleton, List.mem_singleton] at hy
  rw [hy]
  exact UInt64.le_iff_toNat_le.mp (hle r hr)

theorem Ordered.le_last {log : List PoolSnapshot} {reading : PoolSnapshot}
    (h : Ordered (log ++ [reading])) : Ordered log ∧
      ∀ r ∈ log, r.timestamp.toNat ≤ reading.timestamp.toNat := by
  unfold Ordered at h
  rw [List.map_append, List.pairwise_append] at h
  refine ⟨h.1, fun r hr => h.2.2 _ (List.mem_map_of_mem hr) _ ?_⟩
  rw [List.map_singleton, List.mem_singleton]

/-- **The rule for the rings of a pool**, in a run at times that do not decrease. -/
theorem ring_run [Host] {I : Storage → List PoolSnapshot → Prop} (hempty : I empty_storage [])
    (hcongr : ∀ {s s' log}, (∀ k : Key, k.pool = some pool_id → s' k = s k) → I s log → I s' log)
    (hpush : ∀ {s s' env log reserve_a reserve_b total_shares volume fees pool_type}, I s log →
      Ordered (log ++
        [snapshot_of env pool_id reserve_a reserve_b total_shares volume fees pool_type]) →
      record_pool_state pool_id reserve_a reserve_b total_shares volume fees pool_type env s =
        .ok ((), s') →
      I s' (log ++ [snapshot_of env pool_id reserve_a reserve_b total_shares volume fees pool_type]))
    {calls : List Invocation} (htimes : (calls.map fun t => t.1.timestamp).Pairwise (· ≤ ·)) :
    I (run empty_storage calls) (recorded pool_id calls) ∧ Ordered (recorded pool_id calls) ∧
      ∀ r ∈ recorded pool_id calls, ∃ t ∈ calls, r.timestamp = t.1.timestamp := by
  induction calls using List.reverseRecOn with
  | nil => exact ⟨hempty, List.Pairwise.nil, fun r hr => absurd hr List.not_mem_nil⟩
  | append_singleton calls t ih =>
      rw [List.map_append, List.pairwise_append] at htimes
      obtain ⟨hI, hordered, htime⟩ := ih htimes.1
      have htime' (r : PoolSnapshot) (hr : r ∈ recorded pool_id calls) :
          ∃ u ∈ calls ++ [t], r.timestamp = u.1.timestamp := by
        obtain ⟨u, hu, heq⟩ := htime r hr
        exact ⟨u, List.mem_append_left _ hu, heq⟩
      have hle (r : PoolSnapshot) (hr : r ∈ recorded pool_id calls) : r.timestamp ≤ t.1.timestamp := by
        obtain ⟨u, hu, heq⟩ := htime r hr
        rw [heq]
        exact htimes.2.2 _ (List.mem_map_of_mem hu) _ (by simp)
      rw [run, runFrom_append, runFrom_cons, runFrom_nil, recorded, collect_append]
      simp only [collect, List.append_nil]
      rcases step_cases exec (runFrom exec empty_storage calls) t with hok | ⟨⟨msg, herror⟩, heq⟩
      · rw [if_pos (by rw [hok]; rfl)]
        rcases exec_pool_cases pool_id hok with
          ⟨reserve_a, reserve_b, total_shares, volume, fees, pool_type, -, hrecord, hsnapshots⟩ |
            ⟨hnone, hframe⟩
        · have hordered' : Ordered (recorded pool_id calls ++
              [snapshot_of t.1 pool_id reserve_a reserve_b total_shares volume fees pool_type]) :=
            hordered.concat hle
          rw [hsnapshots]
          refine ⟨hpush hI hordered' hrecord, hordered', ?_⟩
          intro r hr
          rcases List.mem_append.mp hr with hold | hnew
          · exact htime' r hold
          · rw [List.mem_singleton.mp hnew]
            exact ⟨t, by simp, rfl⟩
        · rw [hnone, List.append_nil]
          exact ⟨hcongr hframe hI, hordered, htime'⟩
      · rw [if_neg (by rw [herror]; simp [Except.isOk, Except.toBool]), List.append_nil, heq]
        exact ⟨hI, hordered, htime'⟩

end Runs

end BridgeWatch.Contract

/-
The screen for a manipulated spot price.

`record_pool_state` screens the price of its own snapshot, and `is_price_manipulated` the price of the
accumulator, which takes only the first price of a ledger time. The two prices are the same as long as
every later state of one ledger time repeats the price of the first.
-/
import BridgeWatch.PoolHistory
import BridgeWatch.PoolTwap
import BridgeWatch.ReadFrames

set_option autoImplicit false

namespace BridgeWatch.Contract

open Transaction RingBuffer

namespace liquidity_pool

def is_price_manipulated (pool_id : SString) : Soroban Bool := do
  let twap ← calculate_twap pool_id TWAP_MIN_WINDOW_SECS
  return twap.elim false TwapResult.manipulation_suspected

/-- The most recent snapshot of a pool. -/
def get_latest_snapshot (pool_id : SString) : Soroban (Option PoolSnapshot) := do
  let meta_ ← get (.PoolRingMeta pool_id)
  (meta_.filter fun m => 0 < m.count).elim (pure none) fun m => do
    let latest_idx ← previous_index m.head m.capacity
    get (.PoolSnapshot pool_id latest_idx)

/-- The part of `record_pool_state` that ends with the screen of the spot price. -/
def screen_pool_state (pool_id : SString) (reserve_a reserve_b total_shares volume fees : I128)
    (pool_type : PoolType) : Soroban (PoolSnapshot × RingBufferMeta × U32 × Bool) := do
  let now ← timestamp
  let price ← pool_price reserve_a reserve_b
  let snapshot : PoolSnapshot :=
    { pool_id := pool_id
      reserve_a := reserve_a
      reserve_b := reserve_b
      total_shares := total_shares
      price := price
      volume := volume
      fees_collected := fees
      pool_type := pool_type
      timestamp := now }
  let meta_ ← get (.PoolRingMeta pool_id)
  let meta_ := meta_.getD { head := 0, count := 0, capacity := MAX_SNAPSHOTS }
  set (.PoolSnapshot pool_id meta_.head) snapshot
  let next ← add_u32 meta_.head 1
  let head ← rem_u32 next meta_.capacity
  let count ← add_u32 meta_.count 1
  set (.PoolRingMeta pool_id) { head, count, capacity := meta_.capacity }
  update_daily_bucket pool_id snapshot
  record_price_observation pool_id price now
  let suspect ← spot_suspect pool_id price
  return (snapshot, meta_, count, suspect)

/-- The part of `record_pool_state` after the screen, which checks for a change of the liquidity only
when the price is not suspected. -/
def finish_pool_state (pool_id : SString) (snapshot : PoolSnapshot) (meta_ : RingBufferMeta)
    (count : U32) (suspect : Bool) : Soroban Unit := do
  exec_if (1 < count ∧ suspect = false) do
    let prev_idx ← previous_index meta_.head meta_.capacity
    let prev ← get (.PoolSnapshot pool_id prev_idx)
    prev.elim (pure ()) fun prev_snap => check_significant_change prev_snap snapshot
  ensure_pool_registered pool_id

theorem record_pool_state_eq (pool_id : SString)
    (reserve_a reserve_b total_shares volume fees : I128) (pool_type : PoolType) :
    record_pool_state pool_id reserve_a reserve_b total_shares volume fees pool_type = (do
      let screened ← screen_pool_state pool_id reserve_a reserve_b total_shares volume fees pool_type
      finish_pool_state pool_id screened.1 screened.2.1 screened.2.2.1 screened.2.2.2) := by
  simp only [record_pool_state, screen_pool_state, finish_pool_state, bind_assoc, pure_bind]

/-- The records that the average of a pool depends on. -/
def Key.ofAverage (pool_id : SString) : Key → Prop
  | .PriceAccumulator pool => pool = pool_id
  | .PriceObservation pool _ => pool = pool_id
  | _ => False

section Reads

variable {P : Key → Prop} {ts : List Tag} (pool_id : SString) (acc : PriceAccumulator) (now window : U64) (x y : I128)
variable (v w : U32)

instance (z : ℤ) (msg : String) : ReadsFrom P (checked_i128 z msg) := by
  unfold checked_i128
  infer_instance

instance : ReadsFrom P (add_u32 v w) := by
  unfold add_u32
  infer_instance

instance : ReadsFrom P (sub_u32 v w) := by
  unfold sub_u32
  infer_instance

instance : ReadsFrom P (rem_u32 v w) := by
  unfold rem_u32
  infer_instance

instance : ReadsFrom P (sub_u64 now window) := by
  unfold sub_u64
  infer_instance

instance : ReadsFrom P (current_cumulative acc now) := by
  unfold current_cumulative
  infer_instance

instance : ReadsFrom P (deviation_bps x y) := by
  unfold deviation_bps abs_diff_i128
  infer_instance

instance : ReadsFrom (Key.ofAverage pool_id) (find_anchor pool_id acc now) := by
  have hload (idx : U32) : ReadsFrom (Key.ofAverage pool_id) (get (.PriceObservation pool_id idx)) :=
    ReadsFrom.load rfl
  unfold find_anchor
  infer_instance

set_option synthInstance.maxSize 1000 in
instance : ReadsFrom (Key.ofAverage pool_id) (calculate_twap pool_id window) := by
  have hload : ReadsFrom (Key.ofAverage pool_id) (get (.PriceAccumulator pool_id)) := ReadsFrom.load rfl
  unfold calculate_twap timestamp
  infer_instance

instance : Writes ts (get_latest_snapshot pool_id) := by
  have hload (idx : U32) : Writes ts (get (.PoolSnapshot pool_id idx) : Soroban (Option PoolSnapshot)) :=
    (inferInstance : Writes ts (get (.PoolSnapshot pool_id idx)))
  have hread (m : RingBufferMeta) : Writes ts (do
      let latest_idx ← previous_index m.head m.capacity
      get (.PoolSnapshot pool_id latest_idx) : Soroban (Option PoolSnapshot)) := inferInstance
  have hlatest (o : Option RingBufferMeta) : Writes ts ((o.filter fun m => 0 < m.count).elim (pure none)
      fun m => do
        let latest_idx ← previous_index m.head m.capacity
        get (.PoolSnapshot pool_id latest_idx) : Soroban (Option PoolSnapshot)) := inferInstance
  unfold get_latest_snapshot
  infer_instance

instance : ReadsFrom (Key.ofAverage pool_id) (is_price_manipulated pool_id) := by
  unfold is_price_manipulated
  infer_instance

end Reads

section Screens

variable {env : Env} {s s' : Storage} {pool_id : SString}

/-- The flag of the average is about the price of the accumulator. -/
theorem calculate_twap_suspects {window_secs : U64} {r : TwapResult}
    (h : calculate_twap pool_id window_secs env s = .ok (some r, s')) :
    ∃ acc, s (.PriceAccumulator pool_id) = some acc ∧
      deviation_bps acc.last_price r.twap env s = .ok (r.deviation_bps, s) ∧
      r.manipulation_suspected = decide (MAX_SPOT_TWAP_DEVIATION_BPS.toInt < r.deviation_bps.toInt) := by
  simp only [calculate_twap, bind_eq_ok, load_eq_ok, reads_eq_ok, pure_eq_ok, ite_eq_ok, elim_eq_ok,
    and_assoc, exists_and_left, exists_eq_left, checked_i128_eq_ok, sub_u64_eq_ok, panic_if_eq_ok] at h
  rcases h with ⟨-, hnone, -⟩ | ⟨acc, hacc, ⟨-, hnone, -⟩ | ⟨-, anchor, s₁, hfind, hrest⟩⟩
  · exact absurd hnone (Option.some_ne_none _)
  · exact absurd hnone (Option.some_ne_none _)
  · obtain rfl : s₁ = s := Writes.store_eq inferInstance hfind
    rcases hrest with ⟨-, hnone, -⟩ | ⟨o, -, cumulative, s₂, hcumulative, hrest⟩
    · exact absurd hnone (Option.some_ne_none _)
    · obtain rfl : s₂ = s₁ := Writes.store_eq inferInstance hcumulative
      rcases hrest.2 with ⟨-, hnone, -⟩ | ⟨-, change, -, -, twap, -, s₄, ⟨-, rfl⟩, deviation, s₃, hdeviation,
        hr, -⟩
      · exact absurd hnone (Option.some_ne_none _)
      · obtain rfl : s₃ = s₄ := Writes.store_eq inferInstance hdeviation
        obtain rfl := Option.some.inj hr
        exact ⟨acc, hacc, hdeviation, rfl⟩

theorem is_price_manipulated_eq_ok {suspected : Bool} :
    is_price_manipulated pool_id env s = .ok (suspected, s') ↔
      ∃ twap, calculate_twap pool_id TWAP_MIN_WINDOW_SECS env s = .ok (twap, s') ∧
        suspected = twap.elim false TwapResult.manipulation_suspected := by
  simp only [is_price_manipulated, bind_eq_ok, pure_eq_ok]
  constructor
  · rintro ⟨twap, s₁, htwap, rfl, rfl⟩
    exact ⟨twap, htwap, rfl⟩
  · rintro ⟨twap, htwap, rfl⟩
    exact ⟨twap, s', htwap, rfl, rfl⟩

/-- The screen of a new snapshot is that of the accumulator, when it has the price of the snapshot. -/
theorem spot_suspect_of_price {price : I128} {suspected : Bool}
    (hprice : ∀ acc, s (.PriceAccumulator pool_id) = some acc → acc.last_price = price)
    (h : spot_suspect pool_id price env s = .ok (suspected, s')) :
    is_price_manipulated pool_id env s = .ok (suspected, s) := by
  simp only [spot_suspect, bind_eq_ok, elim_eq_ok, pure_eq_ok] at h
  obtain ⟨twap, s₁, htwap, hscreen⟩ := h
  obtain rfl : s₁ = s := Writes.store_eq inferInstance htwap
  refine is_price_manipulated_eq_ok.mpr ⟨twap, htwap, ?_⟩
  rcases hscreen with ⟨rfl, rfl, -⟩ | ⟨r, rfl, dev, s₂, hdev, rfl, rfl⟩
  · rfl
  · obtain ⟨acc, hacc, hdeviation, hflag⟩ := calculate_twap_suspects htwap
    rw [hprice acc hacc] at hdeviation
    have hsame := hdev.symm.trans hdeviation
    rw [Except.ok.injEq, Prod.mk.injEq] at hsame
    rw [hsame.1]
    exact hflag.symm

theorem exists_previous_index {cap : U32} (head : U32) (hcap : 1 ≤ cap) (env : Env) (s : Storage) :
    ∃ idx, previous_index head cap env s = .ok (idx, s) := by
  unfold previous_index
  by_cases hzero : head = 0
  · rw [if_pos hzero]
    exact ⟨_, sub_u32_eq_ok.mpr ⟨UInt32.not_lt.mpr hcap, rfl, rfl⟩⟩
  · rw [if_neg hzero]
    exact ⟨_, pure_eq_ok.mpr ⟨rfl, rfl⟩⟩

end Screens

end liquidity_pool

/-! ## The newest price -/

section Steps

variable {env : Env} {s s' : Storage} {u : Unit} {pool_id : SString} {log : List PoolSnapshot}
variable {reserve_a reserve_b total_shares volume fees : I128} {pool_type : PoolType}

/-- The ring of a pool's snapshots, and an accumulator with the price of the newest. -/
structure Screened (pool_id : SString) (s : Storage) (log : List PoolSnapshot) : Prop where
  ring : SnapshotRing pool_id s log
  price : (s (.PriceAccumulator pool_id)).elim (log = []) fun acc =>
    ∃ newest, log.getLast? = some newest ∧ acc.last_price = newest.price

/-- A state of a ledger time that the accumulator has a price of repeats that price. -/
def Repeats (pool_id : SString) (s : Storage) (t : Invocation) : Prop :=
  ∀ reading ∈ snapshots_of pool_id t, ∀ acc ∈ s (.PriceAccumulator pool_id),
    reading.timestamp ≤ acc.last_timestamp → reading.price = acc.last_price

instance (s : Storage) (t : Invocation) : Decidable (Repeats pool_id s t) :=
  inferInstanceAs (Decidable (∀ reading ∈ snapshots_of pool_id t, ∀ acc ∈ s (.PriceAccumulator pool_id),
    reading.timestamp ≤ acc.last_timestamp → reading.price = acc.last_price))

theorem Repeats.price_eq
    (h : Repeats pool_id s
      (env, .record_pool_state pool_id reserve_a reserve_b total_shares volume fees pool_type))
    {acc : PriceAccumulator} (hacc : s (.PriceAccumulator pool_id) = some acc)
    (hle : env.timestamp ≤ acc.last_timestamp) : snapshot_price reserve_a reserve_b = acc.last_price := by
  apply h (snapshot_of env pool_id reserve_a reserve_b total_shares volume fees pool_type) ?_ acc hacc hle
  have hsnapshots : snapshots_of pool_id
      (env, .record_pool_state pool_id reserve_a reserve_b total_shares volume fees pool_type) =
        [snapshot_of env pool_id reserve_a reserve_b total_shares volume fees pool_type] := if_pos rfl
  rw [hsnapshots]
  exact List.mem_cons_self

theorem Screened.nil : Screened pool_id empty_storage [] := ⟨SnapshotRing.nil, rfl⟩

theorem Screened.congr (hframe : ∀ k : Key, k.pool = some pool_id → s' k = s k)
    (h : Screened pool_id s log) : Screened pool_id s' log := by
  refine ⟨h.ring.congr (hframe _ rfl) fun idx => hframe _ rfl, ?_⟩
  rw [hframe _ rfl]
  exact h.price

/-- The accumulator has the price of the state that was recorded last. -/
theorem last_price_of_record
    (hrepeats : ∀ acc, s (.PriceAccumulator pool_id) = some acc → env.timestamp ≤ acc.last_timestamp →
      snapshot_price reserve_a reserve_b = acc.last_price)
    (hok : liquidity_pool.record_price_observation pool_id (snapshot_price reserve_a reserve_b)
      env.timestamp env s = .ok (u, s')) :
    ∃ acc, s' (.PriceAccumulator pool_id) = some acc ∧
      acc.last_price = snapshot_price reserve_a reserve_b := by
  rcases record_price_observation_spec hok with ⟨acc, hacc, hge, rfl⟩ | ⟨acc, cumulative, -, -, -, -, rfl⟩
  · exact ⟨acc, hacc, (hrepeats acc hacc (UInt64.not_lt.mp hge)).symm⟩
  · exact ⟨_, Function.update_self _ _ _, rfl⟩

theorem Screened.push (h : Screened pool_id s log)
    (hrepeats : ∀ acc, s (.PriceAccumulator pool_id) = some acc → env.timestamp ≤ acc.last_timestamp →
      snapshot_price reserve_a reserve_b = acc.last_price)
    (hok : record_pool_state pool_id reserve_a reserve_b total_shares volume fees pool_type env s =
      .ok (u, s')) :
    Screened pool_id s' (log ++
      [snapshot_of env pool_id reserve_a reserve_b total_shares volume fees pool_type]) := by
  refine ⟨h.ring.push hok, ?_⟩
  obtain ⟨s₁, s₂, s₃, -, hs₁, hbucket, hobserved, hs'⟩ := record_pool_state_spec hok
  have hbefore : s₂ (.PriceAccumulator pool_id) = s (.PriceAccumulator pool_id) := by
    have hday := (inferInstance : Writes [.DailyBucket, .DailyRingMeta]
      (liquidity_pool.update_daily_bucket pool_id (snapshot_of env pool_id reserve_a reserve_b
        total_shares volume fees pool_type))).frame hbucket (.PriceAccumulator pool_id)
    rw [hday (by simp [Tagged.tag]), hs₁, Function.update_of_ne (by simp),
      Function.update_of_ne (by simp)]
  rw [← hbefore] at hrepeats
  obtain ⟨acc, hacc, hprice⟩ := last_price_of_record hrepeats hobserved
  rw [hs' _ (by simp), hacc]
  exact ⟨_, List.getLast?_concat, hprice⟩

/-- The reader finds the newest snapshot. -/
theorem Screened.get_latest_snapshot (h : Screened pool_id s log) (env : Env) :
    liquidity_pool.get_latest_snapshot pool_id env s = .ok (log.getLast?, s) := by
  obtain ⟨hcapacity, hring⟩ := h.ring
  simp only [liquidity_pool.get_latest_snapshot, bind_eq_ok, load_eq_ok, and_assoc, exists_and_left,
    exists_eq_left]
  cases hmeta : s (.PoolRingMeta pool_id) with
  | none =>
      rw [snapshot_ring, hmeta, Option.getD_none] at hring
      obtain rfl : log = [] := List.length_eq_zero_iff.mp hring.count_eq.symm
      exact pure_eq_ok.mpr ⟨rfl, rfl⟩
  | some m =>
      rw [snapshot_ring, hmeta, Option.getD_some] at hring hcapacity
      rcases List.eq_nil_or_concat log with rfl | ⟨front, newest, rfl⟩
      · have hzero : m.count = 0 := UInt32.toNat_inj.mp hring.count_eq
        rw [Option.filter_some, if_neg (by simp [hzero])]
        exact pure_eq_ok.mpr ⟨rfl, rfl⟩
      · rw [List.concat_eq_append] at hring ⊢
        have hpos : 0 < m.count := by
          rw [UInt32.lt_iff_toNat_lt, hring.count_eq, List.length_append]
          exact Nat.succ_pos _
        rw [Option.filter_some, if_pos (decide_eq_true hpos), Option.elim_some, hcapacity, bind_eq_ok,
          List.getLast?_concat]
        obtain ⟨idx, hidx⟩ := liquidity_pool.exists_previous_index m.head
          (by decide : 1 ≤ liquidity_pool.MAX_SNAPSHOTS) env s
        refine ⟨idx, s, hidx, load_eq_ok.mpr ⟨?_, rfl⟩⟩
        exact (hring.newest (by decide) (hring.previous_index (by decide) hidx).1).symm

end Steps

/-! ## The screens agree -/

/-- The price of the latest snapshot is further from the average than the bound. -/
def SpotFar (pool_id : SString) (env : Env) (s : Storage) : Prop :=
  ∃ r snapshot dev,
    liquidity_pool.calculate_twap pool_id liquidity_pool.TWAP_MIN_WINDOW_SECS env s = .ok (some r, s) ∧
    liquidity_pool.get_latest_snapshot pool_id env s = .ok (some snapshot, s) ∧
    liquidity_pool.deviation_bps snapshot.price r.twap env s = .ok (dev, s) ∧
    liquidity_pool.MAX_SPOT_TWAP_DEVIATION_BPS.toInt < dev.toInt

section Agreement

variable {env : Env} {s s' : Storage} {u : Unit} {pool_id : SString} {log : List PoolSnapshot}
variable {reserve_a reserve_b total_shares volume fees : I128} {pool_type : PoolType}

/-- The accumulator stands for the latest snapshot. -/
theorem Screened.is_price_manipulated_iff (h : Screened pool_id s log) :
    liquidity_pool.is_price_manipulated pool_id env s = .ok (true, s) ↔ SpotFar pool_id env s := by
  rw [liquidity_pool.is_price_manipulated_eq_ok]
  have hlatest := h.get_latest_snapshot env
  constructor
  · rintro ⟨twap, htwap, hflag⟩
    cases twap with
    | none => exact absurd hflag Bool.noConfusion
    | some r =>
        obtain ⟨acc, hacc, hdeviation, hsuspected⟩ := liquidity_pool.calculate_twap_suspects htwap
        have hprice := h.price
        rw [hacc] at hprice
        obtain ⟨newest, hnewest, heq⟩ := hprice
        rw [hnewest] at hlatest
        rw [heq] at hdeviation
        exact ⟨r, newest, _, htwap, hlatest, hdeviation, of_decide_eq_true (hsuspected.symm.trans hflag.symm)⟩
  · rintro ⟨r, snapshot, dev, htwap, hsnapshot, hdev, hfar⟩
    refine ⟨some r, htwap, ?_⟩
    obtain ⟨acc, hacc, hdeviation, hsuspected⟩ := liquidity_pool.calculate_twap_suspects htwap
    have hprice := h.price
    rw [hacc] at hprice
    obtain ⟨newest, hnewest, heq⟩ := hprice
    rw [hnewest, hsnapshot, Except.ok.injEq, Prod.mk.injEq, Option.some.injEq] at hlatest
    rw [heq, ← hlatest.1, hdev, Except.ok.injEq, Prod.mk.injEq] at hdeviation
    rw [Option.elim_some, hsuspected, ← hdeviation.1, decide_eq_true hfar]

/-- What is left of the call does not touch what the average depends on. -/
theorem finish_pool_state_frame {snapshot : PoolSnapshot} {meta_ : RingBufferMeta} {count : U32}
    {suspected : Bool}
    (h : liquidity_pool.finish_pool_state pool_id snapshot meta_ count suspected env s = .ok (u, s'))
    {k : Key} (hk : liquidity_pool.Key.ofAverage pool_id k) : s' k = s k := by
  have hwrites : Writes [Tag.RegisteredPools]
      (liquidity_pool.finish_pool_state pool_id snapshot meta_ count suspected) := by
    unfold liquidity_pool.finish_pool_state
    infer_instance
  apply hwrites.frame h
  cases k <;> first | exact hk.elim | (dsimp only [Tagged.tag, Key.tag]; decide)

/-- After a state is recorded the reader gives the decision of the call. -/
theorem is_price_manipulated_of_screened {suspected : Bool}
    (hrepeats : Repeats pool_id s (env, .record_pool_state pool_id reserve_a reserve_b total_shares volume
      fees pool_type))
    {snapshot : PoolSnapshot} {meta_ : RingBufferMeta} {count : U32} {s₁ : Storage}
    (hscreen : liquidity_pool.screen_pool_state pool_id reserve_a reserve_b total_shares volume fees
      pool_type env s = .ok ((snapshot, meta_, count, suspected), s₁))
    (hfinish : liquidity_pool.finish_pool_state pool_id snapshot meta_ count suspected env s₁ =
      .ok (u, s')) :
    liquidity_pool.is_price_manipulated pool_id env s' = .ok (suspected, s') := by
  simp only [liquidity_pool.screen_pool_state, bind_eq_ok, load_eq_ok, reads_eq_ok, save_eq_ok,
    add_u32_eq_ok, rem_u32_eq_ok, pure_eq_ok, Prod.mk.injEq, and_assoc, exists_and_left, exists_eq_left,
    exists_const] at hscreen
  obtain ⟨price, s₂, hprice, -, -, -, _, s₃, hbucket, _, s₄, hobserved, suspect, s₅, hsuspect, -, -, -, rfl,
    rfl⟩ := hscreen
  obtain ⟨rfl, rfl⟩ := pool_price_eq_ok hprice
  have hday := (inferInstance : Writes [.DailyBucket, .DailyRingMeta]
    (liquidity_pool.update_daily_bucket pool_id (snapshot_of env pool_id reserve_a reserve_b total_shares
      volume fees pool_type))).frame hbucket (.PriceAccumulator pool_id) (by simp [Tagged.tag])
  rw [Function.update_of_ne (by simp), Function.update_of_ne (by simp)] at hday
  obtain ⟨acc, hacc, hlast⟩ := last_price_of_record
    (fun acc hacc hle => hrepeats.price_eq (hday.symm.trans hacc) hle) hobserved
  have hscreened : liquidity_pool.is_price_manipulated pool_id env s₄ = .ok (suspected, s₄) := by
    refine liquidity_pool.spot_suspect_of_price (fun acc' hacc' => ?_) hsuspect
    rw [← Option.some.inj (hacc.symm.trans hacc'), hlast]
  obtain rfl : s₁ = s₄ := Writes.store_eq inferInstance hsuspect
  exact (ReadsFrom.frame (fun k hk => finish_pool_state_frame hfinish hk) hscreened).2

end Agreement

/-- What the screens say after a run. -/
structure SpotScreened [Host] (pool_id : SString) (calls : List Invocation) : Prop where
  manipulated_iff : ∀ env,
    liquidity_pool.is_price_manipulated pool_id env (run empty_storage calls) =
      .ok (true, run empty_storage calls) ↔ SpotFar pool_id env (run empty_storage calls)
  /-- After a recorded state the reader gives the decision by which the call checked for a change of
  the liquidity or not. -/
  recorded : ∀ before env reserve_a reserve_b total_shares volume fees pool_type,
    calls = before ++ [(env,
      .record_pool_state pool_id reserve_a reserve_b total_shares volume fees pool_type)] →
    record_pool_state pool_id reserve_a reserve_b total_shares volume fees pool_type env
      (run empty_storage before) = .ok ((), run empty_storage calls) →
    ∃ snapshot meta_ count suspected s₁,
      liquidity_pool.screen_pool_state pool_id reserve_a reserve_b total_shares volume fees pool_type env
        (run empty_storage before) = .ok ((snapshot, meta_, count, suspected), s₁) ∧
      liquidity_pool.finish_pool_state pool_id snapshot meta_ count suspected env s₁ =
        .ok ((), run empty_storage calls) ∧
      liquidity_pool.is_price_manipulated pool_id env (run empty_storage calls) =
        .ok (suspected, run empty_storage calls)

section Runs

variable [Host] {pool_id : SString} {calls : List Invocation}

/-- **Run.** The accumulator has the newest price, as long as states of one time repeat it. -/
theorem screened_run (hcalls : Along exec (Repeats pool_id) empty_storage calls) :
    Screened pool_id (run empty_storage calls) (recorded pool_id calls) := by
  have hstep {s : Storage} {t : Invocation} {s' : Storage} {log : List PoolSnapshot}
      (hs : Screened pool_id s log) (hrepeats : Repeats pool_id s t) (hok : exec t.2 t.1 s = .ok ((), s')) :
      Screened pool_id s' (log ++ snapshots_of pool_id t) := by
    obtain ⟨env, call⟩ := t
    rcases exec_pool_cases pool_id hok with
      ⟨reserve_a, reserve_b, total_shares, volume, fees, pool_type, rfl, hrecord, hsnapshots⟩ |
        ⟨hnone, hframe⟩
    · rw [hsnapshots]
      exact hs.push (fun acc hacc hle => hrepeats.price_eq hacc hle) hrecord
    · rw [hnone, List.append_nil]
      exact hs.congr hframe
  have hrun : Screened pool_id (run empty_storage calls) ([] ++ recorded pool_id calls) :=
    run_collect_invariant hstep Screened.nil hcalls
  rwa [List.nil_append] at hrun

/-- **The two screens agree**, in every run in which the states of one ledger time repeat the price of
the first. -/
theorem spot_screening_run (pool_id : SString) (calls : List Invocation)
    (hcalls : Along exec (Repeats pool_id) empty_storage calls) : SpotScreened pool_id calls := by
  constructor
  · exact fun env => (screened_run hcalls).is_price_manipulated_iff
  · intro before env reserve_a reserve_b total_shares volume fees pool_type heq hok
    rw [heq, Along.append] at hcalls
    rw [record_pool_state, bind_eq_ok] at hok
    obtain ⟨_, s₁, hpause, hok⟩ := hok
    obtain rfl : s₁ = run empty_storage before := Writes.store_eq inferInstance hpause
    rw [bind_eq_ok] at hok
    obtain ⟨admin, s₂, hadmin, hok⟩ := hok
    obtain rfl : s₂ = run empty_storage before := Writes.store_eq inferInstance hadmin
    rw [bind_eq_ok] at hok
    obtain ⟨_, s₃, hauth, hrecord⟩ := hok
    obtain rfl : s₃ = run empty_storage before := Writes.store_eq inferInstance hauth
    rw [liquidity_pool.record_pool_state_eq, bind_eq_ok] at hrecord
    obtain ⟨⟨snapshot, meta_, count, suspected⟩, s₄, hscreen, hfinish⟩ := hrecord
    exact ⟨snapshot, meta_, count, suspected, s₄, hscreen, hfinish,
      is_price_manipulated_of_screened hcalls.2.1 hscreen hfinish⟩

end Runs

/-- An hour of one price, and then two states of one ledger, of prices `first` and `second`. -/
def two_in_one_ledger (pool_id : SString) (first second : I128) : List Invocation :=
  [(mock_all_auths 1, .initialize_contract (test_address 1)),
    (mock_all_auths 1000, .record_pool_state pool_id 100 200 1 5 1 .Amm),
    (mock_all_auths 5000, .record_pool_state pool_id 100 first 1 5 1 .Amm),
    (mock_all_auths 5000, .record_pool_state pool_id 100 second 1 5 1 .Amm)]

theorem spot_screening_run_repeated :
    let _ : Host := lengthHost
    SpotScreened (str "USDC_XLM") (two_in_one_ledger (str "USDC_XLM") 900 900) ∧
      returned (liquidity_pool.is_price_manipulated (str "USDC_XLM") (mock_all_auths 5000)
        (run empty_storage (two_in_one_ledger (str "USDC_XLM") 900 900))) = some true := by
  intro host
  exact ⟨spot_screening_run _ _ (by decide +kernel), by decide +kernel⟩

/-- The second state of the ledger has another price: the average is 2, the snapshot is at 9, and the
accumulator at the first price of the ledger. -/
theorem spot_screening_other_price :
    let _ : Host := lengthHost
    ¬SpotScreened (str "USDC_XLM") (two_in_one_ledger (str "USDC_XLM") 200 900) := by
  intro host h
  let s := run empty_storage (two_in_one_ledger (str "USDC_XLM") 200 900)
  obtain ⟨s₁, hread⟩ := exists_of_returned (a := false)
    (r := liquidity_pool.is_price_manipulated (str "USDC_XLM") (mock_all_auths 5000) s) (by decide +kernel)
  obtain ⟨s₂, htwap⟩ := exists_of_returned
    (a := some { pool_id := str "USDC_XLM", twap := 20000000, spot_price := 20000000, deviation_bps := 0,
                 window_secs := 4000, manipulation_suspected := false })
    (r := liquidity_pool.calculate_twap (str "USDC_XLM") liquidity_pool.TWAP_MIN_WINDOW_SECS
      (mock_all_auths 5000) s) (by decide +kernel)
  obtain ⟨s₃, hlatest⟩ := exists_of_returned
    (a := some (snapshot_of (mock_all_auths 5000) (str "USDC_XLM") 100 900 1 5 1 .Amm))
    (r := liquidity_pool.get_latest_snapshot (str "USDC_XLM") (mock_all_auths 5000) s) (by decide +kernel)
  obtain ⟨s₄, hdev⟩ := exists_of_returned (a := 35000)
    (r := liquidity_pool.deviation_bps (snapshot_price 100 900) 20000000 (mock_all_auths 5000) s)
    (by decide +kernel)
  obtain rfl : s₂ = s := Writes.store_eq inferInstance htwap
  obtain rfl : s₃ = s := Writes.store_eq inferInstance hlatest
  obtain rfl : s₄ = s := Writes.store_eq inferInstance hdev
  have hfar : SpotFar (str "USDC_XLM") (mock_all_auths 5000) s :=
    ⟨_, _, _, htwap, hlatest, hdev, by decide⟩
  have hsame := hread.symm.trans ((h.manipulated_iff _).mpr hfar)
  rw [Except.ok.injEq, Prod.mk.injEq] at hsame
  exact Bool.noConfusion hsame.1

end BridgeWatch.Contract

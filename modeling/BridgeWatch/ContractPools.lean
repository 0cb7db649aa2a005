/-
Liquidity pools, `contracts/soroban/src/liquidity_pool.rs`, and the statistics of prices.

Of the functions on pools these are the ones that `record_pool_state` runs, with the
readings that it takes of the average price.
-/
import Mathlib.Data.List.Sort
import BridgeWatch.ContractAssets

set_option autoImplicit false
-- The instance of a footprint is as long as its function.
set_option synthInstance.maxSize 2048

namespace BridgeWatch.Contract

open Transaction

variable {ts : List Tag}

/-! ## Pools -/

namespace liquidity_pool

def MAX_SNAPSHOTS : U32 := 720

def MAX_DAILY_BUCKETS : U32 := 90

def DAY_SECS : U64 := 86400

def PRECISION : I128 := 10000000

def MAX_PRICE_OBSERVATIONS : U32 := 64

def TWAP_MIN_WINDOW_SECS : U64 := 1800

def MAX_SPOT_TWAP_DEVIATION_BPS : I128 := 500

def current_cumulative (acc : PriceAccumulator) (now : U64) : Soroban I128 := do
  let dt := U64.as_i128 (saturating_sub_u64 now acc.last_timestamp)
  let growth ← mul_i128 acc.last_price dt
  add_i128 acc.price_cumulative growth

def deviation_bps (spot reference : I128) : Soroban I128 :=
  if reference.toInt ≤ 0 then
    return 0
  else do
    let diff ← abs_diff_i128 spot reference
    let scaled ← mul_i128 diff 10000
    div_i128 scaled reference

/-- The part of `record_price_observation` after the accumulator is chosen. -/
def observe_price (pool_id : SString) (price : I128) (timestamp : U64) (acc : PriceAccumulator) :
    Soroban Unit := do
  let price_cumulative ← current_cumulative acc timestamp
  set (.PriceObservation pool_id acc.head) { timestamp, price_cumulative }
  let next ← add_u32 acc.head 1
  let head ← rem_u32 next acc.capacity
  let count ← add_u32 acc.count 1
  set (.PriceAccumulator pool_id)
    { head
      count
      capacity := acc.capacity
      last_price := price
      last_timestamp := timestamp
      price_cumulative }

def record_price_observation (pool_id : SString) (price : I128) (timestamp : U64) :
    Soroban Unit := do
  let existing ← get (.PriceAccumulator pool_id)
  existing.elim
    (observe_price pool_id price timestamp
      { head := 0
        count := 0
        capacity := MAX_PRICE_OBSERVATIONS
        last_price := price
        last_timestamp := timestamp
        price_cumulative := 0 })
    fun acc => exec_if (acc.last_timestamp < timestamp) (observe_price pool_id price timestamp acc)

/-- The loop of `calculate_twap`: the newest observation that is not after `target`. -/
def find_anchor (pool_id : SString) (acc : PriceAccumulator) (target : U64) :
    Soroban (Option PriceObservation) :=
  let actual_count := if acc.capacity < acc.count then acc.capacity else acc.count
  (List.range actual_count.toNat).foldlM (fun (anchor : Option PriceObservation) i =>
    anchor.elim (do
        let total ← add_u32 acc.head acc.capacity
        let newest ← sub_u32 total 1
        let slot ← sub_u32 newest (UInt32.ofNat i)
        let idx ← rem_u32 slot acc.capacity
        let obs ← get (.PriceObservation pool_id idx)
        return obs.filter fun o => o.timestamp ≤ target)
      fun found => pure (some found)) none

def calculate_twap (pool_id : SString) (window_secs : U64) : Soroban (Option TwapResult) := do
  let acc ← get (.PriceAccumulator pool_id)
  acc.elim (pure none) fun acc => do
    let window := if window_secs < TWAP_MIN_WINDOW_SECS then TWAP_MIN_WINDOW_SECS else window_secs
    let now ← timestamp
    if acc.count = 0 ∨ now < window then
      return none
    else do
      let anchor ← find_anchor pool_id acc (now - window)
      anchor.elim (pure none) fun anchor => do
        let cumulative_now ← current_cumulative acc now
        let elapsed ← sub_u64 now anchor.timestamp
        if elapsed = 0 then
          return none
        else do
          let change ← sub_i128 cumulative_now anchor.price_cumulative
          let twap ← div_i128 change (U64.as_i128 elapsed)
          let deviation ← deviation_bps acc.last_price twap
          return some {
            pool_id := pool_id
            twap := twap
            spot_price := acc.last_price
            deviation_bps := deviation
            window_secs := elapsed
            manipulation_suspected :=
              decide (MAX_SPOT_TWAP_DEVIATION_BPS.toInt < deviation.toInt) }

/-- The index before `head` in a ring. -/
def previous_index (head capacity : U32) : Soroban U32 :=
  if head = 0 then sub_u32 capacity 1 else return head - 1

/-- `(avg * n + value) / (n + 1)`. -/
def running_average (avg n value : I128) : Soroban I128 := do
  let weighted ← mul_i128 avg n
  let total ← add_i128 weighted value
  let parts ← add_i128 n 1
  div_i128 total parts

/-- The bucket of a day after one more snapshot. -/
def update_bucket (bucket : DailyBucket) (snapshot : PoolSnapshot) : Soroban DailyBucket := do
  let total_volume ← add_i128 bucket.total_volume snapshot.volume
  let total_fees ← add_i128 bucket.total_fees snapshot.fees_collected
  let n := U32.as_i128 bucket.snapshot_count
  let avg_reserve_a ← running_average bucket.avg_reserve_a n snapshot.reserve_a
  let avg_reserve_b ← running_average bucket.avg_reserve_b n snapshot.reserve_b
  let snapshot_count ← add_u32 bucket.snapshot_count 1
  return {
    day_timestamp := bucket.day_timestamp
    open_price := bucket.open_price
    high_price :=
      if bucket.high_price.toInt < snapshot.price.toInt then snapshot.price else bucket.high_price
    low_price :=
      if snapshot.price.toInt < bucket.low_price.toInt then snapshot.price else bucket.low_price
    close_price := snapshot.price
    total_volume
    total_fees
    avg_reserve_a
    avg_reserve_b
    snapshot_count }

/-- The bucket of the day in progress, with its index. -/
def current_bucket (pool_id : SString) (meta_ : DailyRingMeta) (day_ts : U64) :
    Soroban (Option (U32 × DailyBucket)) :=
  if meta_.count = 0 then
    return none
  else do
    let last_idx ← previous_index meta_.head meta_.capacity
    let existing ← get (.DailyBucket pool_id last_idx)
    let today := existing.filter fun b => b.day_timestamp = day_ts
    return today.map fun b => (last_idx, b)

/-- The branch of `update_daily_bucket` that opens a bucket. -/
def open_bucket (pool_id : SString) (meta_ : DailyRingMeta) (day_ts : U64)
    (snapshot : PoolSnapshot) : Soroban Unit := do
  set (.DailyBucket pool_id meta_.head)
    { day_timestamp := day_ts
      open_price := snapshot.price
      high_price := snapshot.price
      low_price := snapshot.price
      close_price := snapshot.price
      total_volume := snapshot.volume
      total_fees := snapshot.fees_collected
      avg_reserve_a := snapshot.reserve_a
      avg_reserve_b := snapshot.reserve_b
      snapshot_count := 1 }
  let next ← add_u32 meta_.head 1
  let head ← rem_u32 next meta_.capacity
  let count ← add_u32 meta_.count 1
  set (.DailyRingMeta pool_id) { head, count, capacity := meta_.capacity }

def update_daily_bucket (pool_id : SString) (snapshot : PoolSnapshot) : Soroban Unit := do
  let day_ts := snapshot.timestamp / DAY_SECS * DAY_SECS
  let meta_ ← get (.DailyRingMeta pool_id)
  let meta_ := meta_.getD { head := 0, count := 0, capacity := MAX_DAILY_BUCKETS }
  let existing_idx ← current_bucket pool_id meta_ day_ts
  existing_idx.elim (open_bucket pool_id meta_ day_ts snapshot) fun existing => do
    let bucket ← update_bucket existing.2 snapshot
    set (.DailyBucket pool_id existing.1) bucket

/-- Only the event depends on the result, but the arithmetic may overflow. -/
def check_significant_change (prev curr : PoolSnapshot) : Soroban Unit := do
  let prev_depth ← add_i128 prev.reserve_a prev.reserve_b
  exec_if (prev_depth ≠ 0) do
    let curr_depth ← add_i128 curr.reserve_a curr.reserve_b
    let change ← abs_diff_i128 curr_depth prev_depth
    let scaled ← mul_i128 change 10000
    let _ ← div_i128 scaled prev_depth
    return

def ensure_pool_registered (pool_id : SString) : Soroban Unit := do
  let pools ← get .RegisteredPools
  exec_if (pool_id ∉ pools.getD []) do
    set .RegisteredPools (pools.getD [] ++ [pool_id])

/-- The price that a snapshot records. -/
def pool_price (reserve_a reserve_b : I128) : Soroban I128 :=
  if 0 < reserve_a.toInt then do
    let scaled ← mul_i128 reserve_b PRECISION
    div_i128 scaled reserve_a
  else
    return 0

/-- The spot price is far from the average. -/
def spot_suspect (pool_id : SString) (price : I128) : Soroban Bool := do
  let twap ← calculate_twap pool_id TWAP_MIN_WINDOW_SECS
  twap.elim (pure false) fun twap => do
    let dev ← deviation_bps price twap.twap
    return decide (MAX_SPOT_TWAP_DEVIATION_BPS.toInt < dev.toInt)

def record_pool_state (pool_id : SString)
    (reserve_a reserve_b total_shares volume fees : I128) (pool_type : PoolType) :
    Soroban Unit := do
  let now ← timestamp
  let price ← pool_price reserve_a reserve_b
  let snapshot : PoolSnapshot :=
    { pool_id := pool_id
      reserve_a := reserve_a
      reserve_b := reserve_b
      total_shares := total_shares
      price := price
      volume := volume
      fees_collected := fees
      pool_type := pool_type
      timestamp := now }
  let meta_ ← get (.PoolRingMeta pool_id)
  let meta_ := meta_.getD { head := 0, count := 0, capacity := MAX_SNAPSHOTS }
  set (.PoolSnapshot pool_id meta_.head) snapshot
  let next ← add_u32 meta_.head 1
  let head ← rem_u32 next meta_.capacity
  let count ← add_u32 meta_.count 1
  set (.PoolRingMeta pool_id) { head, count, capacity := meta_.capacity }
  update_daily_bucket pool_id snapshot
  record_price_observation pool_id price now
  let suspect ← spot_suspect pool_id price
  exec_if (1 < count ∧ suspect = false) do
    let prev_idx ← previous_index meta_.head meta_.capacity
    let prev ← get (.PoolSnapshot pool_id prev_idx)
    prev.elim (pure ()) fun prev_snap => check_significant_change prev_snap snapshot
  ensure_pool_registered pool_id

section Footprints

variable (acc : PriceAccumulator) (now window : U64) (x y z u v : I128) (pool_id : SString)
variable (snapshot prev curr : PoolSnapshot) (head capacity : U32) (ring : DailyRingMeta)

instance : Writes ts (current_cumulative acc now) := by
  unfold current_cumulative
  infer_instance

instance : Writes ts (deviation_bps x y) := by
  unfold deviation_bps
  infer_instance

instance [Among .PriceObservation ts] [Among .PriceAccumulator ts] :
    Writes ts (observe_price pool_id x now acc) := by
  unfold observe_price
  infer_instance

instance [Among .PriceObservation ts] [Among .PriceAccumulator ts] :
    Writes ts (record_price_observation pool_id x now) := by
  unfold record_price_observation
  infer_instance

instance : Writes ts (find_anchor pool_id acc now) := by
  unfold find_anchor
  infer_instance

instance : Writes ts (calculate_twap pool_id window) := by
  unfold calculate_twap
  infer_instance

instance : Writes ts (previous_index head capacity) := by
  unfold previous_index
  infer_instance

instance : Writes ts (running_average x y z) := by
  unfold running_average
  infer_instance

instance (bucket : DailyBucket) : Writes ts (update_bucket bucket snapshot) := by
  unfold update_bucket
  infer_instance

instance : Writes ts (current_bucket pool_id ring now) := by
  unfold current_bucket
  infer_instance

instance [Among .DailyBucket ts] [Among .DailyRingMeta ts] :
    Writes ts (open_bucket pool_id ring now snapshot) := by
  unfold open_bucket
  infer_instance

instance [Among .DailyBucket ts] [Among .DailyRingMeta ts] :
    Writes ts (update_daily_bucket pool_id snapshot) := by
  unfold update_daily_bucket
  infer_instance

instance : Writes ts (check_significant_change prev curr) := by
  unfold check_significant_change
  infer_instance

instance [Among .RegisteredPools ts] : Writes ts (ensure_pool_registered pool_id) := by
  unfold ensure_pool_registered
  infer_instance

instance : Writes ts (pool_price x y) := by
  unfold pool_price
  infer_instance

instance : Writes ts (spot_suspect pool_id x) := by
  unfold spot_suspect
  infer_instance

/-- What a recorded pool state writes. -/
abbrev poolTags : List Tag :=
  [.PoolSnapshot, .PoolRingMeta, .DailyBucket, .DailyRingMeta, .PriceObservation,
    .PriceAccumulator, .RegisteredPools]

instance [Within poolTags ts] (pool_type : PoolType) :
    Writes ts (record_pool_state pool_id x y z u v pool_type) := by
  apply Writes.mono poolTags
  unfold record_pool_state
  infer_instance

end Footprints

end liquidity_pool

/-- The entry point `record_pool_state`. -/
def record_pool_state (pool_id : SString)
    (reserve_a reserve_b total_shares volume fees : I128) (pool_type : PoolType) :
    Soroban Unit := do
  assert_not_globally_paused
  let admin ← get_admin
  require_auth admin
  liquidity_pool.record_pool_state pool_id reserve_a reserve_b total_shares volume fees pool_type

section Footprints

variable (pool_id : SString) (x y z u v : I128) (pool_type : PoolType)

instance [Within liquidity_pool.poolTags ts] :
    Writes ts (record_pool_state pool_id x y z u v pool_type) := by
  unfold record_pool_state
  infer_instance

instance : Blocked Paused (record_pool_state pool_id x y z u v pool_type) := by
  unfold record_pool_state
  infer_instance

end Footprints

/-! ## Statistics -/

def stat_period_secs : StatPeriod → U64
  | .Hour => 3600
  | .Day => 86400
  | .Week => 604800
  | .Month => 2592000

/-- `sum.checked_add(v).unwrap_or(sum)`. -/
def add_or_keep (sum v : I128) : I128 :=
  if -2 ^ 127 ≤ sum.toInt + v.toInt ∧ sum.toInt + v.toInt < 2 ^ 127 then sum + v else sum

def calculate_average (values : List I128) : Soroban I128 :=
  if values = [] then
    return 0
  else
    div_i128 (values.foldl add_or_keep 0) (U32.as_i128 (len values))

/-- The loop of `integer_sqrt`. -/
def integer_sqrt_loop (x z y : ℕ) : ℕ :=
  if y < z then integer_sqrt_loop x y ((y + x / y) / 2) else z
termination_by z

def integer_sqrt (x : I128) : Soroban I128 :=
  if x.toInt ≤ 0 then
    return 0
  else if x = 1 then
    return 1
  else do
    let next ← add_i128 x 1
    return BitVec.ofNat 128 (integer_sqrt_loop x.toNat x.toNat (next.toNat / 2))

def calculate_stddev (values : List I128) : Soroban I128 :=
  if values.length < 2 then
    return 0
  else do
    let mean ← calculate_average values
    let sum_squared_diff ← values.foldlM (fun sum v => do
      let diff ← sub_i128 v mean
      let square ← mul_i128 diff diff
      return add_or_keep sum square) 0
    let variance ← div_i128 sum_squared_diff (U32.as_i128 (len values))
    integer_sqrt variance

/-- The return from one price to the next, in basis points. -/
def price_return (prev_price curr_price : I128) : Soroban I128 :=
  if prev_price = 0 then
    return 0
  else do
    let price_diff ← sub_i128 curr_price prev_price
    let scaled ← mul_i128 price_diff 10000
    div_i128 scaled prev_price

def SECONDS_PER_YEAR : I128 := 31536000

def calculate_volatility (prices : List I128) (period_secs : U64) : Soroban I128 :=
  if prices.length < 2 then
    return 0
  else do
    let returns ← (prices.zip prices.tail).foldlM (fun returns pair => do
      let ret ← price_return pair.1 pair.2
      return returns ++ [ret]) []
    let stddev_returns ← calculate_stddev returns
    if period_secs = 0 then
      return stddev_returns
    else do
      let scaled ← mul_i128 SECONDS_PER_YEAR 10000
      let ratio ← div_i128 scaled (U64.as_i128 period_secs)
      let annualization_factor ← integer_sqrt ratio
      let product ← mul_i128 stddev_returns annualization_factor
      div_i128 product 100

/-- `lows` of `quick_select`. -/
def below (pivot : I128) (values : List I128) : List I128 :=
  values.filter fun v => v.toInt < pivot.toInt

/-- `highs` of `quick_select`. -/
def above (pivot : I128) (values : List I128) : List I128 :=
  values.filter fun v => pivot.toInt < v.toInt

theorem length_below_lt {pivot : I128} {values : List I128} (h : pivot ∈ values) :
    (below pivot values).length < values.length :=
  List.length_filter_lt_length_iff_exists.mpr ⟨pivot, h, by simp⟩

theorem length_above_lt {pivot : I128} {values : List I128} (h : pivot ∈ values) :
    (above pivot values).length < values.length :=
  List.length_filter_lt_length_iff_exists.mpr ⟨pivot, h, by simp⟩

/-- The value at index `k` of the sorted list. -/
def quick_select (values : List I128) (k : ℕ) : I128 :=
  if h : k < values.length then
    if values.length ≤ 5 then
      (values.insertionSort fun x y => x.toInt ≤ y.toInt).getD k 0
    else
      let pivot := values.get ⟨values.length / 2, by omega⟩
      let lows := below pivot values
      let pivots := values.filter fun v => v.toInt = pivot.toInt
      if k < lows.length then
        quick_select lows k
      else if k < lows.length + pivots.length then
        pivot
      else
        quick_select (above pivot values) (k - lows.length - pivots.length)
  else
    0
termination_by values.length
decreasing_by
  · exact length_below_lt (List.get_mem _ _)
  · exact length_above_lt (List.get_mem _ _)

def calculate_percentiles (values : List I128) : Soroban (I128 × I128 × I128) :=
  let n := values.length
  if n < 2 then
    return (values.headD 0, values.headD 0, values.headD 0)
  else do
    let p25 := quick_select values ((n - 1) / 4)
    let p50 ←
      if n % 2 = 1 then pure (quick_select values (n / 2))
      else do
        let total ← add_i128 (quick_select values (n / 2 - 1)) (quick_select values (n / 2))
        div_i128 total 2
    let p75 := quick_select values (3 * (n - 1) / 4)
    return (p25, p50, p75)

def compute_statistics (caller : Address) (asset_code : SString) (period : StatPeriod) :
    Soroban Statistics := do
  assert_only_admin "only admin can compute statistics" caller
  let now ← timestamp
  let period_secs := stat_period_secs period
  let start_time := saturating_sub_u64 now period_secs
  let history ← load_price_history asset_code
  let records := history.filter fun record =>
    start_time ≤ record.timestamp && record.timestamp ≤ now
  let prices := records.map PriceRecord.price
  panic_if (prices.length < 2) "insufficient data points for statistics"
  -- Of these results only the volatility is used, but each computation may overflow.
  let _ ← calculate_average prices
  let _ ← calculate_stddev prices
  let volatility ← calculate_volatility prices period_secs
  let _ ← calculate_percentiles prices
  let stats : Statistics :=
    { period := period
      timestamp := now
      health_avg := 0
      liquidity_avg := 0
      price_volatility := I128.as_u32 volatility
      bridge_uptime := 0 }
  let stats_history ← get (.Stats asset_code)
  set (.Stats asset_code) (stats_history.getD [] ++ [stats])
  return stats

def get_statistics (asset_code : SString) (period : StatPeriod) : Soroban (Option Statistics) := do
  let stats_history ← get (.Stats asset_code)
  return (stats_history.getD []).reverse.find? fun stats => stats.period = period

/-- The body of the loop of `trigger_periodic_stats`. -/
def trigger_asset_stats (caller : Address) (asset_code : SString) : Soroban Unit := do
  let history ← load_price_history asset_code
  exec_if (2 ≤ history.length) do
    let now ← timestamp
    let existing_stats ← get_statistics asset_code .Day
    let should_compute := existing_stats.elim true fun stats =>
      3600 ≤ saturating_sub_u64 now stats.timestamp
    exec_if (should_compute = true) do
      let _ ← compute_statistics caller asset_code .Day
      return

def trigger_periodic_stats (caller : Address) : Soroban Unit := do
  assert_only_admin "only admin can trigger periodic stats" caller
  let assets ← get_monitored_assets
  assets.foldlM (fun _ asset_code => trigger_asset_stats caller asset_code) ()

section Footprints

variable (x y : I128) (values : List I128) (secs : U64) (caller : Address) (asset_code : SString)
variable (period : StatPeriod)

instance : Writes ts (calculate_average values) := by
  unfold calculate_average
  infer_instance

instance : Writes ts (integer_sqrt x) := by
  unfold integer_sqrt
  infer_instance

instance : Writes ts (calculate_stddev values) := by
  unfold calculate_stddev
  infer_instance

instance : Writes ts (price_return x y) := by
  unfold price_return
  infer_instance

instance : Writes ts (calculate_volatility values secs) := by
  unfold calculate_volatility
  infer_instance

instance : Writes ts (calculate_percentiles values) := by
  unfold calculate_percentiles
  infer_instance

instance [Among .Stats ts] : Writes ts (compute_statistics caller asset_code period) := by
  unfold compute_statistics
  infer_instance

instance : Writes ts (get_statistics asset_code period) := by
  unfold get_statistics
  infer_instance

instance [Among .Stats ts] : Writes ts (trigger_asset_stats caller asset_code) := by
  unfold trigger_asset_stats
  infer_instance

instance [Among .Stats ts] : Writes ts (trigger_periodic_stats caller) := by
  unfold trigger_periodic_stats
  infer_instance

end Footprints

end BridgeWatch.Contract

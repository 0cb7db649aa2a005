/-
The time-weighted average price of a liquidity pool.

An accepted observation carries the integral of the price up to its time, so that the difference of
two is the integral between them. Only the first price of a ledger time is accepted. The average is over
the time since the newest of the kept observations that is at least a full window old, and the price
in effect since the last observation stands up to now.
-/
import BridgeWatch.PoolRings
import BridgeWatch.StepFunction

set_option autoImplicit false

namespace BridgeWatch.Contract

open Transaction RingBuffer StepFunction
open liquidity_pool (MAX_PRICE_OBSERVATIONS TWAP_MIN_WINDOW_SECS)

/-! ## Prices over time -/

/-- The prices of the snapshots, each at its time. -/
def prices (log : List PoolSnapshot) : List (ℕ × ℤ) :=
  log.map fun r => (r.timestamp.toNat, r.price.toInt)

/-- The times of the snapshots. -/
def times (log : List PoolSnapshot) : List ℕ := distinct (log.map fun r => r.timestamp.toNat)

section Prices

variable {log : List PoolSnapshot} {reading : PoolSnapshot} {τ : ℕ}

theorem mem_times : τ ∈ times log ↔ ∃ r ∈ log, r.timestamp.toNat = τ := by
  rw [times, mem_distinct, List.mem_map]

theorem exists_mem_prices : (∃ q ∈ prices log, q.1 = τ) ↔ τ ∈ times log := by
  rw [mem_times]
  simp [prices]

theorem prices_concat :
    prices (log ++ [reading]) = prices log ++ [(reading.timestamp.toNat, reading.price.toInt)] :=
  List.map_append

theorem times_concat : times (log ++ [reading]) =
    if reading.timestamp.toNat ∈ times log then times log
    else times log ++ [reading.timestamp.toNat] := by
  unfold times
  rw [List.map_append, List.map_singleton, distinct_concat]
  simp only [mem_distinct]

theorem times_increasing (h : Ordered log) : (times log).Pairwise (· < ·) := pairwise_distinct h

end Prices

/-! ## The accumulator -/

section Accumulator

variable {env : Env} {s s' : Storage} {u : Unit} {pool_id : SString} {log : List PoolSnapshot}
variable {reading : PoolSnapshot} {acc : PriceAccumulator} {slot : U32 → Option PriceObservation}

theorem toInt_as_i128 (x : U64) : (U64.as_i128 x).toInt = x.toNat := by
  have hlt := x.toNat_lt
  rw [U64.as_i128, BitVec.toInt_ofNat', Int.bmod_eq_of_le (by omega) (by omega)]

/-- The integral grows by the price in effect. -/
theorem current_cumulative_eq_ok {now : U64} {cumulative : I128}
    (h : liquidity_pool.current_cumulative acc now env s = .ok (cumulative, s')) :
    cumulative.toInt = acc.price_cumulative.toInt +
      acc.last_price.toInt * (now.toNat - acc.last_timestamp.toNat : ℕ) ∧ s' = s := by
  simp only [liquidity_pool.current_cumulative, bind_eq_ok, checked_i128_eq_ok, and_assoc] at h
  obtain ⟨growth, s₁, hgrowth, rfl, hcumulative, rfl⟩ := h
  rw [hcumulative, hgrowth, toInt_as_i128, toNat_saturating_sub]
  exact ⟨rfl, rfl⟩

/-- The accumulator and the ring of the observations, after the snapshots of `log`. -/
structure Accumulates (acc : PriceAccumulator) (slot : U32 → Option PriceObservation)
    (log : List PoolSnapshot) : Prop where
  capacity : acc.capacity = MAX_PRICE_OBSERVATIONS
  ring : ∃ observations : List PriceObservation,
    observations.map (fun o => o.timestamp.toNat) = times log ∧
    (∀ o ∈ observations,
      o.price_cumulative.toInt = integral (prices log) 0 o.timestamp.toNat) ∧
    Ring MAX_PRICE_OBSERVATIONS acc.head acc.count slot observations
  last_timestamp : acc.last_timestamp.toNat ∈ times log
  newest : ∀ r ∈ log, r.timestamp.toNat ≤ acc.last_timestamp.toNat
  last_price : value_at (prices log) acc.last_timestamp.toNat = some acc.last_price.toInt
  price_cumulative : acc.price_cumulative.toInt = integral (prices log) 0 acc.last_timestamp.toNat

/-- The observations of a pool after the snapshots of `log`. -/
def Observed (pool_id : SString) (s : Storage) (log : List PoolSnapshot) : Prop :=
  (s (.PriceAccumulator pool_id)).elim (log = []) fun acc =>
    Accumulates acc (fun idx => s (.PriceObservation pool_id idx)) log

/-- The price in effect since the last observation. -/
theorem Accumulates.value_at_of_le (h : Accumulates acc slot log) {t : ℕ}
    (ht : acc.last_timestamp.toNat ≤ t) : value_at (prices log) t = some acc.last_price.toInt := by
  rw [StepFunction.value_at_of_le _ ht, h.last_price]
  intro q hq
  obtain ⟨r, hr, rfl⟩ := List.mem_map.mp hq
  exact h.newest r hr

/-- **The accumulator is the integral**, at every time from its last observation on. -/
theorem Accumulates.current_cumulative (h : Accumulates acc slot log) {now : U64} {cumulative : I128}
    (hnow : acc.last_timestamp.toNat ≤ now.toNat)
    (hok : liquidity_pool.current_cumulative acc now env s = .ok (cumulative, s')) :
    cumulative.toInt = integral (prices log) 0 now.toNat ∧ s' = s := by
  obtain ⟨hcumulative, rfl⟩ := current_cumulative_eq_ok hok
  refine ⟨?_, rfl⟩
  rw [hcumulative, h.price_cumulative, ← integral_of_const fun t ht _ => h.value_at_of_le ht,
    integral_add (Nat.zero_le _) hnow]

/-- A second price of the newest time changes nothing. -/
theorem Accumulates.repeated (h : Accumulates acc slot log)
    (hsame : reading.timestamp.toNat = acc.last_timestamp.toNat) :
    Accumulates acc slot (log ++ [reading]) := by
  have hmem : reading.timestamp.toNat ∈ times log := by
    rw [hsame]
    exact h.last_timestamp
  have hvalue (t : ℕ) : value_at (prices (log ++ [reading])) t = value_at (prices log) t := by
    rw [prices_concat, value_at_concat (.inl (exists_mem_prices.mpr hmem))]
  have hintegral (a b : ℕ) : integral (prices (log ++ [reading])) a b = integral (prices log) a b :=
    integral_congr fun t _ _ => hvalue t
  have htimes : times (log ++ [reading]) = times log := by
    rw [times_concat, if_pos hmem]
  constructor
  · exact h.capacity
  · simp only [htimes, hintegral]
    exact h.ring
  · rw [htimes]
    exact h.last_timestamp
  · intro r hr
    rcases List.mem_append.mp hr with hold | hnew
    · exact h.newest r hold
    · rw [List.mem_singleton.mp hnew, hsame]
  · rw [hvalue]
    exact h.last_price
  · rw [hintegral]
    exact h.price_cumulative

/-- The ring and the integrals of the observations, before one more time. -/
structure Extends (acc : PriceAccumulator) (slot : U32 → Option PriceObservation)
    (log : List PoolSnapshot) (now : U64) (cumulative : I128) : Prop where
  capacity : acc.capacity = MAX_PRICE_OBSERVATIONS
  ring : ∃ observations : List PriceObservation,
    observations.map (fun o => o.timestamp.toNat) = times log ∧
    (∀ o ∈ observations,
      o.price_cumulative.toInt = integral (prices log) 0 o.timestamp.toNat) ∧
    Ring MAX_PRICE_OBSERVATIONS acc.head acc.count slot observations
  later : ∀ r ∈ log, r.timestamp.toNat < now.toNat
  cumulative : cumulative.toInt = integral (prices log) 0 now.toNat

/-- An observation of a new time is appended. -/
theorem Extends.push {cumulative : I128} (h : Extends acc slot log reading.timestamp cumulative)
    (hcount : acc.count.toNat + 1 < 2 ^ 32) :
    Accumulates
      { head := (acc.head + 1) % acc.capacity
        count := acc.count + 1
        capacity := acc.capacity
        last_price := reading.price
        last_timestamp := reading.timestamp
        price_cumulative := cumulative }
      (Function.update slot acc.head
        (some { timestamp := reading.timestamp, price_cumulative := cumulative }))
      (log ++ [reading]) := by
  have hnew : reading.timestamp.toNat ∉ times log := by
    intro hmem
    obtain ⟨r, hr, heq⟩ := mem_times.mp hmem
    exact absurd heq (h.later r hr).ne
  have htimes : times (log ++ [reading]) = times log ++ [reading.timestamp.toNat] := by
    rw [times_concat, if_neg hnew]
  have hintegral {t : ℕ} (ht : t ≤ reading.timestamp.toNat) :
      integral (prices (log ++ [reading])) 0 t = integral (prices log) 0 t := by
    apply integral_congr
    intro a _ ha
    rw [prices_concat, value_at_concat (.inr (by dsimp only; omega))]
  obtain ⟨observations, hmap, hcumulative, hring⟩ := h.ring
  constructor
  · exact h.capacity
  · refine ⟨observations ++ [{ timestamp := reading.timestamp, price_cumulative := cumulative }],
      ?_, ?_, ?_⟩
    · rw [List.map_append, hmap, htimes, List.map_singleton]
    · intro o ho
      rcases List.mem_append.mp ho with hold | hlast
      · have hmem : o.timestamp.toNat ∈ times log := by
          rw [← hmap]
          exact List.mem_map_of_mem hold
        obtain ⟨r, hr, heq⟩ := mem_times.mp hmem
        rw [hcumulative o hold, hintegral (heq ▸ (h.later r hr).le)]
      · rw [List.mem_singleton.mp hlast, hintegral le_rfl]
        exact h.cumulative
    · dsimp only
      rw [h.capacity]
      exact hring.push (by decide) hcount _
  · rw [htimes]
    exact List.mem_append_right _ List.mem_cons_self
  · intro r hr
    rcases List.mem_append.mp hr with hold | hlast
    · exact (h.later r hold).le
    · rw [List.mem_singleton.mp hlast]
  · rw [prices_concat]
    refine value_at_concat_new ?_ le_rfl
    intro q hq
    obtain ⟨r, hr, rfl⟩ := List.mem_map.mp hq
    exact h.later r hr
  · dsimp only
    rw [hintegral le_rfl]
    exact h.cumulative

theorem Observed.nil : Observed pool_id empty_storage [] := rfl

theorem Observed.congr (hacc : s' (.PriceAccumulator pool_id) = s (.PriceAccumulator pool_id))
    (hslots : ∀ idx, s' (.PriceObservation pool_id idx) = s (.PriceObservation pool_id idx))
    (h : Observed pool_id s log) : Observed pool_id s' log := by
  unfold Observed
  rw [hacc, funext hslots]
  exact h

/-- **The observations after one more snapshot.** -/
theorem Observed.record (h : Observed pool_id s log) (hordered : Ordered (log ++ [reading]))
    (hok : liquidity_pool.record_price_observation pool_id reading.price reading.timestamp env s =
      .ok (u, s')) :
    Observed pool_id s' (log ++ [reading]) := by
  obtain ⟨-, hle⟩ := hordered.le_last
  unfold Observed at h
  rcases record_price_observation_spec hok with ⟨acc, hacc, hge, rfl⟩ |
    ⟨acc, cumulative, hfresh, hlater, hcumulative, hcount, hs'⟩
  · rw [hacc] at h
    have hsame : reading.timestamp.toNat = acc.last_timestamp.toNat := by
      rw [UInt64.lt_iff_toNat_lt] at hge
      obtain ⟨r, hr, heq⟩ := mem_times.mp h.last_timestamp
      have := hle r hr
      omega
    unfold Observed
    rw [hacc]
    exact h.repeated hsame
  · have hextends : Extends acc (fun idx => s (.PriceObservation pool_id idx)) log reading.timestamp
        cumulative := by
      unfold accumulator at hfresh
      cases hacc : s (.PriceAccumulator pool_id) with
      | none =>
          rw [hacc] at h hfresh
          obtain rfl : log = [] := h
          subst hfresh
          obtain ⟨htotal, -⟩ := current_cumulative_eq_ok hcumulative
          refine ⟨rfl, ⟨[], rfl, fun o ho => absurd ho List.not_mem_nil, Ring.nil _ _⟩,
            fun r hr => absurd hr List.not_mem_nil, ?_⟩
          rw [htotal, prices, List.map_nil, integral_of_nil]
          simp
      | some acc' =>
          rw [hacc] at h hfresh
          obtain rfl : acc = acc' := hfresh
          have hlt := UInt64.lt_iff_toNat_lt.mp (hlater acc hacc)
          exact ⟨h.capacity, h.ring, fun r hr => (h.newest r hr).trans_lt hlt,
            (h.current_cumulative hlt.le hcumulative).1⟩
    have hslots : (fun idx => s' (.PriceObservation pool_id idx)) =
        Function.update (fun idx => s (.PriceObservation pool_id idx)) acc.head
          (some { timestamp := reading.timestamp, price_cumulative := cumulative }) := by
      funext idx
      rw [hs', Function.update_of_ne (by simp)]
      by_cases hidx : idx = acc.head
      · rw [hidx, Function.update_self, Function.update_self]
      · rw [Function.update_of_ne (by simpa using hidx), Function.update_of_ne hidx]
    unfold Observed
    rw [hslots, hs', Function.update_self]
    exact hextends.push hcount

theorem Observed.push {reserve_a reserve_b total_shares volume fees : I128} {pool_type : PoolType}
    (h : Observed pool_id s log)
    (hordered : Ordered (log ++
      [snapshot_of env pool_id reserve_a reserve_b total_shares volume fees pool_type]))
    (hok : record_pool_state pool_id reserve_a reserve_b total_shares volume fees pool_type env s =
      .ok (u, s')) :
    Observed pool_id s' (log ++
      [snapshot_of env pool_id reserve_a reserve_b total_shares volume fees pool_type]) := by
  obtain ⟨s₁, s₂, s₃, -, hs₁, hbucket, hobserved, hs'⟩ := record_pool_state_spec hok
  have hframe (k : Key) (hk : k.tag = .PriceAccumulator ∨ k.tag = .PriceObservation) : s₂ k = s k := by
    have hday := (inferInstance : Writes [.DailyBucket, .DailyRingMeta]
      (liquidity_pool.update_daily_bucket pool_id (snapshot_of env pool_id reserve_a reserve_b
        total_shares volume fees pool_type))).frame hbucket k
    rw [hday (by rcases hk with hk | hk <;> simp [Tagged.tag, hk]), hs₁,
      Function.update_of_ne (by rintro rfl; simp at hk), Function.update_of_ne (by rintro rfl; simp at hk)]
  have hbefore : Observed pool_id s₂ log := h.congr (hframe _ (.inl rfl)) fun idx => hframe _ (.inr rfl)
  exact (hbefore.record hordered hobserved).congr (hs' _ (by simp)) fun idx => hs' _ (by simp)

/-! ## The anchor -/

/-- **The search finds the newest kept observation that is not after the target.** -/
theorem find_anchor_eq {observations : List PriceObservation} {target : U64}
    (hcapacity : acc.capacity = MAX_PRICE_OBSERVATIONS)
    (hring : Ring MAX_PRICE_OBSERVATIONS acc.head acc.count
      (fun idx => s (.PriceObservation pool_id idx)) observations) :
    liquidity_pool.find_anchor pool_id acc target env s =
      .ok ((recent 64 observations).reverse.find? (fun o => o.timestamp ≤ target), s) := by
  have hcap : MAX_PRICE_OBSERVATIONS.toNat = 64 := rfl
  have hactual := hring.toNat_actual_count
  have hhead : acc.head.toNat < 64 := by
    rw [hring.head_eq]
    exact Nat.mod_lt _ (by decide)
  let slotAt (i : ℕ) : Option PriceObservation :=
    s (.PriceObservation pool_id (UInt32.ofNat ((acc.head.toNat + 64 - 1 - i) % 64)))
  have hlow {n : ℕ} (hn : n < 64) : (UInt32.ofNat n).toNat = n :=
    toNat_ofNat_of_lt MAX_PRICE_OBSERVATIONS hn
  have hfold (is : List ℕ) :
      is.foldl (fun anchor i =>
          anchor.elim ((slotAt i).filter fun o => o.timestamp ≤ target) some) none =
        (is.map slotAt).foldl
          (fun anchor o => anchor.elim (o.filter fun o => o.timestamp ≤ target) some) none := by
    rw [List.foldl_map]
  unfold liquidity_pool.find_anchor
  rw [hcapacity, hactual, foldlM_of_forall (g := fun anchor i =>
    anchor.elim ((slotAt i).filter fun o => o.timestamp ≤ target) some), hfold, hcap]
  · have hwalk : (List.range (min observations.length 64)).map slotAt =
        (recent 64 observations).reverse.map some := by
      have hback := hring.holds.walk_back
      rw [← hring.head_eq] at hback
      exact hback
    rw [hwalk, foldl_find]
    rfl
  · intro i hi anchor
    rw [List.mem_range, hcap] at hi
    cases anchor with
    | some => exact pure_eq_ok.mpr ⟨rfl, rfl⟩
    | none =>
        have htotal : (acc.head + MAX_PRICE_OBSERVATIONS).toNat = acc.head.toNat + 64 := by
          rw [UInt32.toNat_add, hcap, Nat.mod_eq_of_lt (by omega)]
        have hone : ¬acc.head + MAX_PRICE_OBSERVATIONS < 1 := by
          rw [UInt32.lt_iff_toNat_lt, htotal, UInt32.toNat_one]
          omega
        have hnewest : (acc.head + MAX_PRICE_OBSERVATIONS - 1).toNat = acc.head.toNat + 64 - 1 := by
          rw [UInt32.toNat_sub_of_le _ _ (UInt32.not_lt.mp hone), htotal, UInt32.toNat_one]
        have hi' : (UInt32.ofNat i).toNat = i := hlow (by omega)
        have hslot : ¬acc.head + MAX_PRICE_OBSERVATIONS - 1 < UInt32.ofNat i := by
          rw [UInt32.lt_iff_toNat_lt, hnewest, hi']
          omega
        have hidx : (acc.head + MAX_PRICE_OBSERVATIONS - 1 - UInt32.ofNat i) % MAX_PRICE_OBSERVATIONS =
            UInt32.ofNat ((acc.head.toNat + 64 - 1 - i) % 64) := by
          rw [← UInt32.toNat_inj, hlow (Nat.mod_lt _ (by decide)), UInt32.toNat_mod,
            UInt32.toNat_sub_of_le _ _ (UInt32.not_lt.mp hslot), hnewest, hi', hcap]
        simp only [Option.elim, bind_eq_ok, add_u32_eq_ok, sub_u32_eq_ok, rem_u32_eq_ok, load_eq_ok,
          pure_eq_ok]
        refine ⟨_, _, ⟨?_, rfl, rfl⟩, _, _, ⟨hone, rfl, rfl⟩, _, _, ⟨hslot, rfl, rfl⟩, _, _,
          ⟨by decide, rfl, rfl⟩, _, _, ⟨rfl, rfl⟩, ?_, rfl⟩
        · rw [hcap]
          omega
        · rw [hidx]

/-- The window that an average covers at least. -/
def least_window (window_secs : U64) : ℕ := max window_secs.toNat 1800

/-- The newest time that the ring keeps and that is not after the target is the newest of all. -/
theorem last_time_of_find {observations : List PriceObservation} {o : PriceObservation} {target : U64}
    (hordered : Ordered log) (hmap : observations.map (fun o => o.timestamp.toNat) = times log)
    (hfind : (recent 64 observations).reverse.find? (fun o => o.timestamp ≤ target) = some o) :
    o ∈ observations ∧ o.timestamp.toNat ∈ recent 64 (times log) ∧ o.timestamp ≤ target ∧
      last_time (prices log) target.toNat = some o.timestamp.toNat := by
  obtain ⟨hle, newer, older, hsplit, hnewer⟩ := List.find?_eq_some_iff_append.mp hfind
  have hle := of_decide_eq_true hle
  have hmem : o ∈ recent 64 observations := by
    rw [← List.mem_reverse, hsplit]
    simp
  have hkept : o.timestamp.toNat ∈ recent 64 (times log) := by
    rw [← hmap, ← map_recent]
    exact List.mem_map_of_mem hmem
  refine ⟨mem_of_mem_recent hmem, hkept, hle, ?_⟩
  rw [last_time_eq_some_iff]
  refine ⟨exists_mem_prices.mpr (mem_of_mem_recent hkept), UInt64.le_iff_toNat_le.mp hle, ?_⟩
  intro q hq hqt
  by_contra hlt
  -- A later time is kept as well, and the search would have met it first.
  have hq_times : q.1 ∈ times log := exists_mem_prices.mp ⟨q, hq, rfl⟩
  have hrecent : recent 64 observations = older.reverse ++ o :: newer.reverse := by
    rw [← List.reverse_reverse (recent 64 observations), hsplit]
    simp
  have hparts : times log = (observations.take (observations.length - 64) ++ older.reverse).map
      (fun o => o.timestamp.toNat) ++ (o :: newer.reverse).map (fun o => o.timestamp.toNat) := by
    rw [← hmap, ← List.map_append, List.append_assoc, ← hrecent, recent, List.take_append_drop]
  have hincreasing := times_increasing hordered
  rw [hparts, List.pairwise_append] at hincreasing
  rw [hparts] at hq_times
  rcases List.mem_append.mp hq_times with hbefore | hafter
  · exact hlt (hincreasing.2.2 _ hbefore _ (by simp)).le
  · rw [List.map_cons, List.mem_cons, List.mem_map] at hafter
    rcases hafter with heq | ⟨p, hp, heq⟩
    · exact hlt heq.le
    · have hnot := hnewer p (List.mem_reverse.mp hp)
      rw [← heq] at hqt
      simp only [Bool.not_eq_true', decide_eq_false_iff_not, UInt64.le_iff_toNat_le] at hnot
      exact hnot hqt

/-- The window of a query, not below the least. -/
def clamped_window (window_secs : U64) : U64 :=
  if window_secs < TWAP_MIN_WINDOW_SECS then TWAP_MIN_WINDOW_SECS else window_secs

theorem toNat_clamped_window (window_secs : U64) :
    (clamped_window window_secs).toNat = least_window window_secs := by
  have hleast : TWAP_MIN_WINDOW_SECS.toNat = 1800 := rfl
  unfold clamped_window least_window
  by_cases hlt : window_secs < TWAP_MIN_WINDOW_SECS
  · rw [if_pos hlt, hleast]
    rw [UInt64.lt_iff_toNat_lt] at hlt
    omega
  · rw [if_neg hlt]
    rw [UInt64.lt_iff_toNat_lt] at hlt
    omega

/-- The ways to no result. -/
theorem calculate_twap_eq_none {window_secs : U64} (hacc : s (.PriceAccumulator pool_id) = some acc)
    (h : (acc.count = 0 ∨ env.timestamp < clamped_window window_secs) ∨
      liquidity_pool.find_anchor pool_id acc (env.timestamp - clamped_window window_secs) env s =
        .ok (none, s)) :
    liquidity_pool.calculate_twap pool_id window_secs env s = .ok (none, s) := by
  simp only [liquidity_pool.calculate_twap, bind_eq_ok, load_eq_ok, reads_eq_ok, pure_eq_ok, ite_eq_ok,
    elim_eq_ok, and_assoc, exists_and_left, exists_eq_left, hacc]
  refine .inr ⟨acc, rfl, ?_⟩
  by_cases hguard : acc.count = 0 ∨ env.timestamp < clamped_window window_secs
  · exact .inl ⟨hguard, trivial, trivial⟩
  · exact .inr ⟨hguard, none, s, h.resolve_left hguard, .inl ⟨rfl, trivial, rfl⟩⟩

/-- What the result is, unless something overflows. -/
theorem calculate_twap_of_anchor {window_secs : U64} {o : PriceObservation} {res : Option TwapResult}
    (hacc : s (.PriceAccumulator pool_id) = some acc)
    (hguard : ¬(acc.count = 0 ∨ env.timestamp < clamped_window window_secs))
    (hanchor : liquidity_pool.find_anchor pool_id acc (env.timestamp - clamped_window window_secs) env s =
      .ok (some o, s))
    (hok : liquidity_pool.calculate_twap pool_id window_secs env s = .ok (res, s')) :
    ∃ cumulative, liquidity_pool.current_cumulative acc env.timestamp env s = .ok (cumulative, s) ∧
      (env.timestamp - o.timestamp = 0 ∨ ∃ r, res = some r ∧
        r.window_secs = env.timestamp - o.timestamp ∧
        r.twap.toInt = (cumulative.toInt - o.price_cumulative.toInt).tdiv
          (env.timestamp - o.timestamp).toNat) := by
  simp only [liquidity_pool.calculate_twap, bind_eq_ok, load_eq_ok, reads_eq_ok, pure_eq_ok, ite_eq_ok,
    elim_eq_ok, and_assoc, exists_and_left, exists_eq_left, hacc, Option.some.injEq,
    checked_i128_eq_ok, sub_u64_eq_ok, panic_if_eq_ok] at hok
  rcases hok with ⟨hnone, -⟩ | ⟨acc', rfl, hshort | ⟨-, anchor, s₁, hfind, hrest⟩⟩
  · exact absurd hnone (Option.some_ne_none _)
  · exact absurd hshort.1 hguard
  · have hfound := hfind.symm.trans hanchor
    rw [Except.ok.injEq, Prod.mk.injEq] at hfound
    obtain ⟨rfl, rfl⟩ := hfound
    rcases hrest with ⟨hnone, -⟩ | ⟨o', ho, cumulative, s₂, hcumulative, hrest⟩
    · exact absurd hnone (Option.some_ne_none _)
    · obtain rfl := Option.some.inj ho
      obtain rfl : s₂ = s₁ := Writes.store_eq inferInstance hcumulative
      refine ⟨cumulative, hcumulative, ?_⟩
      rcases hrest.2 with ⟨hzero, -⟩ | ⟨-, change, hchange, -, twap, htwap, _, -, deviation, _, -, hres, -⟩
      · exact .inl hzero
      · refine .inr ⟨_, hres, rfl, ?_⟩
        rw [htwap, hchange, toInt_as_i128]

/-- What the average of a pool is: nothing while no kept time is a full window old, and otherwise,
unless it overflows, the truncated mean since the newest such time. -/
theorem calculate_twap_cases (window_secs : U64) (h : Observed pool_id s log) (hordered : Ordered log)
    (hnow : ∀ r ∈ log, r.timestamp.toNat ≤ env.timestamp.toNat) :
    (liquidity_pool.calculate_twap pool_id window_secs env s = .ok (none, s) ∧
      ∀ τ ∈ recent 64 (times log), env.timestamp.toNat < τ + least_window window_secs) ∨
    ∃ τ ∈ recent 64 (times log), τ + least_window window_secs ≤ env.timestamp.toNat ∧
      last_time (prices log) (env.timestamp.toNat - least_window window_secs) = some τ ∧
      ∀ res s', liquidity_pool.calculate_twap pool_id window_secs env s = .ok (res, s') →
        ∃ r, res = some r ∧ r.window_secs.toNat = env.timestamp.toNat - τ ∧
          r.twap.toInt = (integral (prices log) τ env.timestamp.toNat).tdiv
            (env.timestamp.toNat - τ : ℕ) := by
  unfold Observed at h
  cases hacc : s (.PriceAccumulator pool_id) with
  | none =>
      rw [hacc] at h
      obtain rfl : log = [] := h
      left
      constructor
      · rw [liquidity_pool.calculate_twap, bind_eq_ok]
        refine ⟨_, _, load_eq_ok.mpr ⟨rfl, rfl⟩, ?_⟩
        rw [hacc]
        exact pure_eq_ok.mpr ⟨rfl, rfl⟩
      · intro τ hτ
        exact absurd hτ (by simp [times, distinct, recent])
  | some acc =>
      rw [hacc] at h
      have hacc' : Accumulates acc (fun idx => s (.PriceObservation pool_id idx)) log := h
      obtain ⟨observations, hmap, hcumulative, hring⟩ := hacc'.ring
      have hcount : acc.count ≠ 0 := by
        intro hzero
        have hlength := hring.count_eq
        rw [hzero, UInt32.toNat_zero] at hlength
        have hnil : observations = [] := List.length_eq_zero_iff.mp hlength.symm
        have hlast := hacc'.last_timestamp
        rw [← hmap, hnil] at hlast
        exact absurd hlast List.not_mem_nil
      have hwindow := toNat_clamped_window window_secs
      by_cases hshort : env.timestamp < clamped_window window_secs
      · left
        refine ⟨calculate_twap_eq_none hacc (.inl (.inr hshort)), ?_⟩
        intro τ _
        rw [UInt64.lt_iff_toNat_lt, hwindow] at hshort
        omega
      · have hguard : ¬(acc.count = 0 ∨ env.timestamp < clamped_window window_secs) :=
          not_or.mpr ⟨hcount, hshort⟩
        have hle := UInt64.not_lt.mp hshort
        have htarget : (env.timestamp - clamped_window window_secs).toNat =
            env.timestamp.toNat - least_window window_secs := by
          rw [UInt64.toNat_sub_of_le _ _ hle, hwindow]
        rw [UInt64.le_iff_toNat_le, hwindow] at hle
        cases hfind : (recent 64 observations).reverse.find?
            (fun o => decide (o.timestamp ≤ env.timestamp - clamped_window window_secs)) with
        | none =>
            left
            refine ⟨calculate_twap_eq_none hacc (.inr ?_), ?_⟩
            · rw [find_anchor_eq hacc'.capacity hring, hfind]
            · intro τ hτ
              rw [← hmap, ← map_recent, List.mem_map] at hτ
              obtain ⟨o, ho, rfl⟩ := hτ
              have hnot := List.find?_eq_none.mp hfind o (List.mem_reverse.mpr ho)
              rw [decide_eq_true_eq, UInt64.le_iff_toNat_le, htarget] at hnot
              omega
        | some o =>
            right
            obtain ⟨hmem, hkept, hold, hlatest⟩ := last_time_of_find hordered hmap hfind
            rw [htarget] at hlatest
            have hold' := UInt64.le_iff_toNat_le.mp hold
            rw [htarget] at hold'
            refine ⟨o.timestamp.toNat, hkept, by omega, hlatest, ?_⟩
            intro res s' hok
            obtain ⟨total, htotal, hresult⟩ := calculate_twap_of_anchor hacc hguard
              (by rw [find_anchor_eq hacc'.capacity hring, hfind]) hok
            have hlast : acc.last_timestamp.toNat ≤ env.timestamp.toNat := by
              obtain ⟨r, hr, heq⟩ := mem_times.mp hacc'.last_timestamp
              rw [← heq]
              exact hnow r hr
            have hleast : 1800 ≤ least_window window_secs := le_max_right _ _
            have hbefore : o.timestamp ≤ env.timestamp := by
              rw [UInt64.le_iff_toNat_le]
              omega
            have helapsed : (env.timestamp - o.timestamp).toNat =
                env.timestamp.toNat - o.timestamp.toNat := UInt64.toNat_sub_of_le _ _ hbefore
            rcases hresult with hzero | ⟨r, rfl, hsecs, htwap⟩
            · rw [hzero, UInt64.toNat_zero] at helapsed
              omega
            · refine ⟨r, rfl, ?_, ?_⟩
              · rw [hsecs, helapsed]
              · have hsum : integral (prices log) 0 o.timestamp.toNat +
                    integral (prices log) o.timestamp.toNat env.timestamp.toNat =
                      integral (prices log) 0 env.timestamp.toNat :=
                  integral_add (Nat.zero_le _) (UInt64.le_iff_toNat_le.mp hbefore)
                rw [htwap, helapsed, (hacc'.current_cumulative hlast htotal).1, hcumulative o hmem, ← hsum,
                  add_sub_cancel_left]

end Accumulator

/-! ## The average of a pool -/

/-- The result of a query at `now` is the truncated mean of the step function of the prices over the
last `window_secs` seconds. -/
structure IsTwap (log : List PoolSnapshot) (now window_secs : U64) (r : TwapResult) : Prop where
  window_secs_le : least_window window_secs ≤ r.window_secs.toNat
  within : r.window_secs.toNat ≤ now.toNat
  /-- The prices have a value in the whole window. -/
  defined : ∀ t, now.toNat - r.window_secs.toNat ≤ t → t < now.toNat →
    ∃ p, value_at (prices log) t = some p
  twap : r.twap.toInt =
    (integral (prices log) (now.toNat - r.window_secs.toNat) now.toNat).tdiv r.window_secs.toNat
  /-- The average is not below the smallest price in the window. -/
  lower : ∃ t p, now.toNat - r.window_secs.toNat ≤ t ∧ t < now.toNat ∧
    value_at (prices log) t = some p ∧ p ≤ r.twap.toInt
  /-- The average is not above the largest. -/
  upper : ∃ t p, now.toNat - r.window_secs.toNat ≤ t ∧ t < now.toNat ∧
    value_at (prices log) t = some p ∧ r.twap.toInt ≤ p

/-- The removal of one snapshot from a history: a second or later one of its time, or one of the time
of the query. -/
def Removes (log log' : List PoolSnapshot) (now : U64) : Prop :=
  ∃ pre reading post, log = pre ++ reading :: post ∧ log' = pre ++ post ∧
    ((∃ r ∈ pre, r.timestamp = reading.timestamp) ∨ reading.timestamp = now)

section Removal

variable {log log' : List PoolSnapshot} {now : U64} {t : ℕ}

theorem Removes.exists_insert (h : Removes log log' now) (ht : t < now.toNat) :
    ∃ pre x post, prices log = pre ++ x :: post ∧ prices log' = pre ++ post ∧
      ((∃ r ∈ pre, r.1 = x.1) ∨ t < x.1) := by
  obtain ⟨pre, reading, post, rfl, rfl, hsame⟩ := h
  refine ⟨prices pre, (reading.timestamp.toNat, reading.price.toInt), prices post, by simp [prices],
    by simp [prices], ?_⟩
  rcases hsame with ⟨r, hr, heq⟩ | rfl
  · exact .inl ⟨_, List.mem_map_of_mem hr, by rw [heq]⟩
  · exact .inr ht

theorem Removes.value_at_eq (h : Removes log log' now) (ht : t < now.toNat) :
    value_at (prices log') t = value_at (prices log) t := by
  obtain ⟨pre, x, post, hlog, hlog', hinsert⟩ := h.exists_insert ht
  rw [hlog, hlog', value_at_insert hinsert]

theorem Removes.last_time_eq (h : Removes log log' now) (ht : t < now.toNat) :
    last_time (prices log') t = last_time (prices log) t := by
  obtain ⟨pre, x, post, hlog, hlog', hinsert⟩ := h.exists_insert ht
  rw [hlog, hlog', last_time_insert hinsert]

/-- A time that the ring keeps with the snapshot, it keeps without. -/
theorem Removes.mem_recent (h : Removes log log' now) (hordered : Ordered log) (hordered' : Ordered log')
    {τ : ℕ} (hkept : τ ∈ recent 64 (times log)) (hτ : τ ∈ times log') : τ ∈ recent 64 (times log') := by
  rw [mem_recent_iff (times_increasing hordered)] at hkept
  rw [mem_recent_iff (times_increasing hordered')]
  refine ⟨hτ, lt_of_le_of_lt ?_ hkept.2⟩
  have hnodup : ((times log').filter (τ < ·)).Nodup :=
    ((times_increasing hordered').imp ne_of_lt).filter _
  apply (hnodup.subperm ?_).length_le
  intro t ht
  rw [List.mem_filter, mem_times] at ht ⊢
  obtain ⟨pre, reading, post, rfl, rfl, -⟩ := h
  obtain ⟨⟨r, hr, heq⟩, hlt⟩ := ht
  refine ⟨⟨r, ?_, heq⟩, hlt⟩
  rcases List.mem_append.mp hr with hpre | hpost
  · exact List.mem_append_left _ hpre
  · exact List.mem_append_right _ (List.mem_cons_of_mem _ hpost)

end Removal

/-- What a query of the average returns after a run. -/
structure PoolTwap [Host] (pool_id : SString) (calls : List Invocation) (env : Env) (window_secs : U64) :
    Prop where
  result : ∀ r s', get_pool_twap pool_id window_secs env (run empty_storage calls) = .ok (some r, s') →
    IsTwap (recorded pool_id calls) env.timestamp window_secs r
  /-- The average is the same in a run without such an update, where that does not overflow. -/
  unchanged : ∀ calls' r s' res s'',
    (calls'.map fun t => t.1.timestamp).Pairwise (· ≤ ·) →
    (∀ t ∈ calls', t.1.timestamp ≤ env.timestamp) →
    Removes (recorded pool_id calls) (recorded pool_id calls') env.timestamp →
    get_pool_twap pool_id window_secs env (run empty_storage calls) = .ok (some r, s') →
    get_pool_twap pool_id window_secs env (run empty_storage calls') = .ok (res, s'') →
      ∃ r', res = some r' ∧ r'.twap = r.twap ∧ r'.window_secs = r.window_secs
  none_iff : get_pool_twap pool_id window_secs env (run empty_storage calls) =
      .ok (none, run empty_storage calls) ↔
    ∀ τ ∈ recent 64 (times (recorded pool_id calls)),
      env.timestamp.toNat < τ + least_window window_secs

section Runs

variable [Host] {pool_id : SString} {calls : List Invocation} {env : Env}

theorem observed_run (pool_id : SString) (htimes : (calls.map fun t => t.1.timestamp).Pairwise (· ≤ ·))
    (hnow : ∀ t ∈ calls, t.1.timestamp ≤ env.timestamp) :
    Observed pool_id (run empty_storage calls) (recorded pool_id calls) ∧
      Ordered (recorded pool_id calls) ∧
      ∀ r ∈ recorded pool_id calls, r.timestamp.toNat ≤ env.timestamp.toNat := by
  obtain ⟨hobserved, hordered, htime⟩ := ring_run (I := Observed pool_id) Observed.nil
    (fun hframe h => h.congr (hframe _ rfl) fun idx => hframe _ rfl)
    (fun h hordered hok => h.push hordered hok) htimes
  refine ⟨hobserved, hordered, fun r hr => ?_⟩
  obtain ⟨t, ht, heq⟩ := htime r hr
  rw [heq]
  exact UInt64.le_iff_toNat_le.mp (hnow t ht)

/-- **The average is the exact time-weighted mean.** The query comes after the run. -/
theorem poolTwap_run (pool_id : SString) (calls : List Invocation) (env : Env) (window_secs : U64)
    (htimes : (calls.map fun t => t.1.timestamp).Pairwise (· ≤ ·))
    (hnow : ∀ t ∈ calls, t.1.timestamp ≤ env.timestamp) : PoolTwap pool_id calls env window_secs := by
  obtain ⟨hobserved, hordered, hlog⟩ := observed_run pool_id htimes hnow
  have hleast : 1800 ≤ least_window window_secs := le_max_right _ _
  rcases calculate_twap_cases window_secs hobserved hordered hlog with
    ⟨hnone, hshort⟩ | ⟨τ, hkept, hold, hlatest, hresult⟩
  · have hno {r : TwapResult} {s' : Storage}
        (h : get_pool_twap pool_id window_secs env (run empty_storage calls) = .ok (some r, s')) : False := by
      have hsame := hnone.symm.trans h
      rw [Except.ok.injEq, Prod.mk.injEq] at hsame
      exact Option.some_ne_none _ hsame.1.symm
    refine ⟨fun r s' h => (hno h).elim, fun _ r s' _ _ _ _ _ h => (hno h).elim, ?_⟩
    exact ⟨fun _ => hshort, fun _ => hnone⟩
  · constructor
    · intro r s' h
      obtain ⟨r', hr', hsecs, htwap⟩ := hresult _ _ h
      obtain rfl := Option.some.inj hr'
      have hstart : env.timestamp.toNat - r.window_secs.toNat = τ := by omega
      have hlength : r.window_secs.toNat = env.timestamp.toNat - τ := hsecs
      have hdefined (t : ℕ) (ht : τ ≤ t) (_ : t < env.timestamp.toNat) :
          ∃ p, value_at (prices (recorded pool_id calls)) t = some p := by
        obtain ⟨q, hq, rfl⟩ := (last_time_eq_some_iff.mp hlatest).1
        exact exists_value_at ⟨q, hq, ht⟩
      obtain ⟨hlower, hupper⟩ := exists_le_mean_le (by omega) hdefined
      rw [← htwap] at hlower hupper
      refine ⟨by omega, by omega, ?_, ?_, ?_, ?_⟩
      · rw [hstart]
        exact hdefined
      · rw [hstart, hlength]
        exact htwap
      · rw [hstart]
        exact hlower
      · rw [hstart]
        exact hupper
    · intro calls' r s' res s'' htimes' hnow' hremoves h h'
      obtain ⟨r₁, hr₁, hsecs, htwap⟩ := hresult _ _ h
      obtain rfl := Option.some.inj hr₁
      obtain ⟨hobserved', hordered', hlog'⟩ := observed_run pool_id htimes' hnow'
      have hlatest' := hremoves.last_time_eq (t := env.timestamp.toNat - least_window window_secs) (by omega)
      rw [hlatest] at hlatest'
      have hτ : τ ∈ times (recorded pool_id calls') :=
        exists_mem_prices.mp (last_time_eq_some_iff.mp hlatest').1
      rcases calculate_twap_cases window_secs hobserved' hordered' hlog' with
        ⟨-, hshort⟩ | ⟨τ', -, -, hfound, hresult'⟩
      · exact absurd hold (not_le.mpr (hshort τ (hremoves.mem_recent hordered hordered' hkept hτ)))
      · obtain rfl : τ = τ' := Option.some.inj (hlatest'.symm.trans hfound)
        obtain ⟨r', hr', hsecs', htwap'⟩ := hresult' _ _ h'
        refine ⟨r', hr', ?_, ?_⟩
        · rw [← BitVec.toInt_inj, htwap', htwap]
          congr 1
          exact integral_congr fun t _ ht => hremoves.value_at_eq ht
        · rw [← UInt64.toNat_inj, hsecs', hsecs]
    · constructor
      · intro h
        obtain ⟨r, hr, -⟩ := hresult _ _ h
        exact absurd hr (Option.some_ne_none _).symm
      · intro hshort
        exact absurd hold (not_le.mpr (hshort τ hkept))

end Runs

/-- Two prices at one time, and a third. -/
def three_prices (pool_id : SString) : List Invocation :=
  [(mock_all_auths 1, .initialize_contract (test_address 1)),
    (mock_all_auths 1000, .record_pool_state pool_id 100 200 1 5 1 .Amm),
    (mock_all_auths 1000, .record_pool_state pool_id 100 900 1 5 1 .Amm),
    (mock_all_auths 2000, .record_pool_state pool_id 100 300 1 5 1 .Amm)]

theorem poolTwap_run_three_prices :
    let _ : Host := lengthHost
    PoolTwap (str "USDC_XLM") (three_prices (str "USDC_XLM")) (mock_all_auths 3000) 60 ∧
      ((returned (get_pool_twap (str "USDC_XLM") 60 (mock_all_auths 3000)
        (run empty_storage (three_prices (str "USDC_XLM"))))).join.map TwapResult.twap) =
          some 25000000 := by
  intro host
  exact ⟨poolTwap_run _ _ _ _ (by decide) (by decide), by decide +kernel⟩

end BridgeWatch.Contract

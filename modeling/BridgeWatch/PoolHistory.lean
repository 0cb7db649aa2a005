/-
The history of a liquidity pool, as its readers return it.

`get_pool_history` walks the ring of the snapshots, so what it returns is a part of the last 720. The
daily buckets are a ring of summaries: a snapshot goes into the newest bucket when that is of its day
and opens a bucket otherwise. As the times do not decrease, no day is opened twice, and each bucket
sums up exactly the snapshots of its day.
-/
import Mathlib.Data.List.Forall2
import Mathlib.Order.Bounds.Basic
import BridgeWatch.PoolRings

set_option autoImplicit false

namespace BridgeWatch.Contract

open Transaction RingBuffer
open liquidity_pool (MAX_SNAPSHOTS MAX_DAILY_BUCKETS)

/-! ## Bars -/

/-- The first second of the day of a snapshot. -/
def day_start (reading : PoolSnapshot) : ℕ := reading.timestamp.toNat / 86400 * 86400

/-- The days that have a snapshot, in order. -/
def days (log : List PoolSnapshot) : List ℕ := distinct (log.map day_start)

/-- The snapshots of a day. -/
def of_day (day : ℕ) (log : List PoolSnapshot) : List PoolSnapshot :=
  log.filter fun r => day_start r = day

/-- What a bucket says of the snapshots of its day. -/
structure IsBar (day : ℕ) (snapshots : List PoolSnapshot) (bucket : DailyBucket) : Prop where
  day : bucket.day_timestamp.toNat = day
  open_price : snapshots.head?.map PoolSnapshot.price = some bucket.open_price
  close_price : snapshots.getLast?.map PoolSnapshot.price = some bucket.close_price
  high_price : IsGreatest {p | ∃ r ∈ snapshots, p = r.price.toInt} bucket.high_price.toInt
  low_price : IsLeast {p | ∃ r ∈ snapshots, p = r.price.toInt} bucket.low_price.toInt
  total_volume : bucket.total_volume.toInt = (snapshots.map fun r => r.volume.toInt).sum
  total_fees : bucket.total_fees.toInt = (snapshots.map fun r => r.fees_collected.toInt).sum
  snapshot_count : bucket.snapshot_count.toNat = snapshots.length

section Bars

variable {env : Env} {s s' : Storage} {day : ℕ} {snapshots : List PoolSnapshot} {reading : PoolSnapshot}
variable {bucket bucket' : DailyBucket}

theorem setOf_price_concat : {p | ∃ r ∈ snapshots ++ [reading], p = r.price.toInt} =
    insert reading.price.toInt {p | ∃ r ∈ snapshots, p = r.price.toInt} := by
  ext p
  simp only [List.mem_append, List.mem_singleton, Set.mem_ofPred_eq, Set.mem_insert_iff]
  constructor
  · rintro ⟨r, hr | rfl, rfl⟩
    · exact .inr ⟨r, hr, rfl⟩
    · exact .inl rfl
  · rintro (rfl | ⟨r, hr, rfl⟩)
    · exact ⟨reading, .inr rfl, rfl⟩
    · exact ⟨r, .inl hr, rfl⟩

theorem toNat_day_of (reading : PoolSnapshot) : (day_of reading).toNat = day_start reading := by
  have hlt : reading.timestamp.toNat / 86400 * 86400 < 2 ^ 64 :=
    (Nat.div_mul_le_self _ _).trans_lt reading.timestamp.toNat_lt
  rw [day_of, UInt64.toNat_mul, UInt64.toNat_div, day_start]
  exact Nat.mod_eq_of_lt hlt

/-- The bucket that a snapshot opens is the bar of that snapshot. -/
theorem IsBar.opened (reading : PoolSnapshot) :
    IsBar (day_start reading) [reading] (opened_bucket reading) := by
  refine ⟨toNat_day_of reading, rfl, rfl, ⟨⟨reading, by simp, rfl⟩, ?_⟩, ⟨⟨reading, by simp, rfl⟩, ?_⟩, ?_, ?_, rfl⟩
  · rintro p ⟨r, hr, rfl⟩
    rw [List.mem_singleton.mp hr]
    exact le_refl _
  · rintro p ⟨r, hr, rfl⟩
    rw [List.mem_singleton.mp hr]
    exact le_refl _
  · rw [List.map_singleton, List.sum_singleton]
    rfl
  · rw [List.map_singleton, List.sum_singleton]
    rfl

/-- One more snapshot of the day. -/
theorem IsBar.update (h : IsBar day snapshots bucket)
    (hok : liquidity_pool.update_bucket bucket reading env s = .ok (bucket', s')) :
    IsBar day (snapshots ++ [reading]) bucket' := by
  simp only [liquidity_pool.update_bucket, bind_eq_ok, checked_i128_eq_ok, add_u32_eq_ok, pure_eq_ok,
    and_assoc, exists_and_left, exists_eq_left] at hok
  obtain ⟨volume, hvolume, fees, hfees, average_a, s₁, -, average_b, s₂, -, hcount, rfl, -⟩ := hok
  have hne : snapshots ≠ [] := by
    rintro rfl
    exact Option.some_ne_none _ h.open_price.symm
  refine ⟨h.day, ?_, ?_, ?_, ?_, ?_, ?_, ?_⟩
  · rw [List.head?_append_of_ne_nil _ hne]
    exact h.open_price
  · rw [List.getLast?_concat, Option.map_some]
  · rw [setOf_price_concat]
    have hmax := h.high_price.insert reading.price.toInt
    by_cases hlt : bucket.high_price.toInt < reading.price.toInt
    · rw [max_eq_left hlt.le] at hmax
      simp only [hlt, if_true]
      exact hmax
    · rw [max_eq_right (not_lt.mp hlt)] at hmax
      simp only [hlt, if_false]
      exact hmax
  · rw [setOf_price_concat]
    have hmin := h.low_price.insert reading.price.toInt
    by_cases hlt : reading.price.toInt < bucket.low_price.toInt
    · rw [min_eq_left hlt.le] at hmin
      simp only [hlt, if_true]
      exact hmin
    · rw [min_eq_right (not_lt.mp hlt)] at hmin
      simp only [hlt, if_false]
      exact hmin
  · rw [hvolume, h.total_volume, List.map_append, List.sum_append, List.map_singleton,
      List.sum_singleton]
  · rw [hfees, h.total_fees, List.map_append, List.sum_append, List.map_singleton, List.sum_singleton]
  · rw [UInt32.toNat_one] at hcount
    rw [UInt32.toNat_add, UInt32.toNat_one, Nat.mod_eq_of_lt hcount, h.snapshot_count,
      List.length_append, List.length_singleton]

end Bars

/-! ## Days -/

section Days

variable {log : List PoolSnapshot} {reading : PoolSnapshot} {day : ℕ}

theorem days_concat :
    days (log ++ [reading]) =
      if day_start reading ∈ days log then days log else days log ++ [day_start reading] := by
  unfold days
  rw [List.map_append, List.map_singleton, distinct_concat]
  simp only [mem_distinct]

theorem of_day_concat_self : of_day (day_start reading) (log ++ [reading]) =
    of_day (day_start reading) log ++ [reading] := by
  rw [of_day, List.filter_append, List.filter_cons_of_pos (by simp)]
  rfl

theorem of_day_concat_of_ne (h : day_start reading ≠ day) :
    of_day day (log ++ [reading]) = of_day day log := by
  rw [of_day, List.filter_append, List.filter_cons_of_neg (by simpa using h), List.filter_nil,
    List.append_nil, of_day]

theorem of_day_eq_nil (h : day ∉ days log) : of_day day log = [] := by
  rw [of_day, List.filter_eq_nil_iff]
  intro r hr hday
  apply h
  rw [days, mem_distinct]
  exact List.mem_map.mpr ⟨r, hr, of_decide_eq_true hday⟩

/-- The day of the newest snapshot is the last of the days, or it is new. -/
theorem days_eq_concat (h : Ordered (log ++ [reading])) (hmem : day_start reading ∈ days log) :
    ∃ earlier, days log = earlier ++ [day_start reading] ∧ day_start reading ∉ earlier := by
  obtain ⟨hlog, hle⟩ := h.le_last
  have hsorted : (log.map day_start).Pairwise (· ≤ ·) := by
    unfold Ordered at hlog
    rw [List.pairwise_map] at hlog ⊢
    exact hlog.imp fun hle => Nat.mul_le_mul_right _ (Nat.div_le_div_right hle)
  have hincreasing := pairwise_distinct hsorted
  obtain ⟨earlier, hdays⟩ := exists_eq_concat hincreasing hmem (by
    intro d hd
    rw [mem_distinct] at hd
    obtain ⟨r, hr, rfl⟩ := List.mem_map.mp hd
    exact Nat.mul_le_mul_right _ (Nat.div_le_div_right (hle r hr)))
  refine ⟨earlier, hdays, ?_⟩
  rw [hdays, List.pairwise_append] at hincreasing
  intro hin
  exact lt_irrefl _ (hincreasing.2.2 _ hin _ List.mem_cons_self)

end Days

/-! ## The rings of the history -/

section Rings

variable {env : Env} {s s' : Storage} {u : Unit} {pool_id : SString} {log : List PoolSnapshot}
variable {reading : PoolSnapshot} {reserve_a reserve_b total_shares volume fees : I128}
variable {pool_type : PoolType}

/-- The ring of a pool's snapshots, after those of `log`. -/
structure SnapshotRing (pool_id : SString) (s : Storage) (log : List PoolSnapshot) : Prop where
  capacity : (snapshot_ring s pool_id).capacity = MAX_SNAPSHOTS
  ring : Ring MAX_SNAPSHOTS (snapshot_ring s pool_id).head (snapshot_ring s pool_id).count
    (fun idx => s (.PoolSnapshot pool_id idx)) log

/-- The bars of the days of `log`. -/
def Bars (log : List PoolSnapshot) (bars : List DailyBucket) : Prop :=
  List.Forall₂ (fun day bucket => IsBar day (of_day day log) bucket) (days log) bars

/-- The ring of a pool's daily buckets, after the snapshots of `log`. -/
structure BucketRing (pool_id : SString) (s : Storage) (log : List PoolSnapshot) : Prop where
  capacity : (bucket_ring s pool_id).capacity = MAX_DAILY_BUCKETS
  ring : ∃ bars, Bars log bars ∧
    Ring MAX_DAILY_BUCKETS (bucket_ring s pool_id).head (bucket_ring s pool_id).count
      (fun idx => s (.DailyBucket pool_id idx)) bars

theorem SnapshotRing.nil : SnapshotRing pool_id empty_storage [] := ⟨rfl, Ring.nil _ _⟩

theorem BucketRing.nil : BucketRing pool_id empty_storage [] :=
  ⟨rfl, [], List.Forall₂.nil, Ring.nil _ _⟩

theorem SnapshotRing.congr (hmeta : s' (.PoolRingMeta pool_id) = s (.PoolRingMeta pool_id))
    (hslots : ∀ idx, s' (.PoolSnapshot pool_id idx) = s (.PoolSnapshot pool_id idx))
    (h : SnapshotRing pool_id s log) : SnapshotRing pool_id s' log := by
  have hring : snapshot_ring s' pool_id = snapshot_ring s pool_id := by
    rw [snapshot_ring, hmeta, snapshot_ring]
  constructor
  · rw [hring]
    exact h.capacity
  · rw [hring, funext hslots]
    exact h.ring

theorem BucketRing.congr (hmeta : s' (.DailyRingMeta pool_id) = s (.DailyRingMeta pool_id))
    (hslots : ∀ idx, s' (.DailyBucket pool_id idx) = s (.DailyBucket pool_id idx))
    (h : BucketRing pool_id s log) : BucketRing pool_id s' log := by
  have hring : bucket_ring s' pool_id = bucket_ring s pool_id := by
    rw [bucket_ring, hmeta, bucket_ring]
  constructor
  · rw [hring]
    exact h.capacity
  · rw [hring, funext hslots]
    exact h.ring

/-- The new snapshot goes into the slot at the head. -/
theorem SnapshotRing.push (h : SnapshotRing pool_id s log)
    (hok : record_pool_state pool_id reserve_a reserve_b total_shares volume fees pool_type env s =
      .ok (u, s')) :
    SnapshotRing pool_id s' (log ++
      [snapshot_of env pool_id reserve_a reserve_b total_shares volume fees pool_type]) := by
  obtain ⟨s₁, s₂, s₃, hcount, hs₁, hbucket, hobserved, hs'⟩ := record_pool_state_spec hok
  have hframe (k : Key) (hk : k.tag = .PoolRingMeta ∨ k.tag = .PoolSnapshot) : s' k = s₁ k := by
    have hlater := (inferInstance : Writes [.PriceObservation, .PriceAccumulator]
      (liquidity_pool.record_price_observation pool_id (snapshot_price reserve_a reserve_b)
        env.timestamp)).frame hobserved k
    have hday := (inferInstance : Writes [.DailyBucket, .DailyRingMeta]
      (liquidity_pool.update_daily_bucket pool_id (snapshot_of env pool_id reserve_a reserve_b
        total_shares volume fees pool_type))).frame hbucket k
    rw [hs' k (by rintro rfl; simp at hk), hlater (by rcases hk with hk | hk <;> simp [Tagged.tag, hk]),
      hday (by rcases hk with hk | hk <;> simp [Tagged.tag, hk])]
  refine SnapshotRing.congr (hframe _ (.inl rfl)) (fun idx => hframe _ (.inr rfl)) ?_
  have hring : snapshot_ring s₁ pool_id =
      { head := ((snapshot_ring s pool_id).head + 1) % (snapshot_ring s pool_id).capacity
        count := (snapshot_ring s pool_id).count + 1
        capacity := (snapshot_ring s pool_id).capacity } := by
    rw [snapshot_ring, hs₁, Function.update_self, Option.getD_some]
  have hslots : (fun idx => s₁ (.PoolSnapshot pool_id idx)) =
      Function.update (fun idx => s (.PoolSnapshot pool_id idx)) (snapshot_ring s pool_id).head
        (some (snapshot_of env pool_id reserve_a reserve_b total_shares volume fees pool_type)) := by
    funext idx
    rw [hs₁, Function.update_of_ne (by simp)]
    by_cases hidx : idx = (snapshot_ring s pool_id).head
    · rw [hidx, Function.update_self, Function.update_self]
    · rw [Function.update_of_ne (by simpa using hidx), Function.update_of_ne hidx]
  constructor
  · rw [hring]
    exact h.capacity
  · rw [hring, hslots]
    dsimp only
    rw [h.capacity]
    exact h.ring.push (by decide) hcount _

theorem forall₂_concat_iff {α β : Type} {R : α → β → Prop} {as : List α} {a : α} {bs : List β} {b : β} :
    List.Forall₂ R (as ++ [a]) (bs ++ [b]) ↔ List.Forall₂ R as bs ∧ R a b := by
  rw [← List.forall₂_reverse_iff, List.reverse_append, List.reverse_append, List.reverse_singleton,
    List.reverse_singleton, List.singleton_append, List.singleton_append, List.forall₂_cons,
    List.forall₂_reverse_iff, and_comm]

/-- The bars of the days before the last, and that of the last. -/
theorem Bars.eq_concat {bars : List DailyBucket} {earlier : List ℕ} {day : ℕ} (h : Bars log bars)
    (hdays : days log = earlier ++ [day]) :
    ∃ front bucket, bars = front ++ [bucket] ∧
      List.Forall₂ (fun day bucket => IsBar day (of_day day log) bucket) earlier front ∧
      IsBar day (of_day day log) bucket := by
  unfold Bars at h
  rw [hdays] at h
  have hne : bars ≠ [] := by
    rintro rfl
    simpa using h.length_eq
  obtain ⟨front, bucket, rfl⟩ := (List.eq_nil_or_concat bars).resolve_left hne
  rw [List.concat_eq_append] at h ⊢
  exact ⟨front, bucket, rfl, forall₂_concat_iff.mp h⟩

/-- The bars of the earlier days stay, and the day of the new snapshot has its own. -/
theorem Bars.concat {front : List DailyBucket} {bucket : DailyBucket} {earlier : List ℕ}
    (hdays : days (log ++ [reading]) = earlier ++ [day_start reading])
    (hnew : day_start reading ∉ earlier)
    (hfront : List.Forall₂ (fun day bucket => IsBar day (of_day day log) bucket) earlier front)
    (hbucket : IsBar (day_start reading) (of_day (day_start reading) log ++ [reading]) bucket) :
    Bars (log ++ [reading]) (front ++ [bucket]) := by
  unfold Bars
  rw [hdays, forall₂_concat_iff, of_day_concat_self]
  refine ⟨?_, hbucket⟩
  rw [List.forall₂_iff_zip] at hfront ⊢
  refine ⟨hfront.1, ?_⟩
  intro day bucket hmem
  have hne : day_start reading ≠ day := by
    rintro rfl
    exact hnew (List.of_mem_zip hmem).1
  rw [of_day_concat_of_ne hne]
  exact hfront.2 hmem

/-- The newest bucket takes a snapshot of its day in, and a new day opens a bucket. -/
theorem BucketRing.update (h : BucketRing pool_id s log) (hordered : Ordered (log ++ [reading]))
    (hok : liquidity_pool.update_daily_bucket pool_id reading env s = .ok (u, s')) :
    BucketRing pool_id s' (log ++ [reading]) := by
  obtain ⟨hcapacity, bars, hbars, hring⟩ := h
  have hspec := update_daily_bucket_spec hok
  rw [hcapacity] at hspec
  -- The newest bucket, when there is one.
  have hlast {front : List DailyBucket} {bucket : DailyBucket} (hconcat : bars = front ++ [bucket])
      {idx : U32} (hprevious : liquidity_pool.previous_index (bucket_ring s pool_id).head
        MAX_DAILY_BUCKETS env s = .ok (idx, s)) :
      idx.toNat = front.length % MAX_DAILY_BUCKETS.toNat ∧ s (.DailyBucket pool_id idx) = some bucket := by
    rw [hconcat] at hring
    have hidx := (hring.previous_index (by decide) hprevious).1
    exact ⟨hidx, hring.newest (by decide) hidx⟩
  rcases hspec with ⟨idx, bucket, bucket', hcount, hprevious, hbucket, hday, hupdate, hs'⟩ |
    ⟨hother, hcount, hs'⟩
  · have hne : days log ≠ [] := by
      intro hnil
      unfold Bars at hbars
      rw [hnil, List.forall₂_nil_left_iff] at hbars
      rw [hbars] at hring
      exact hcount (UInt32.toNat_inj.mp (by rw [hring.count_eq]; rfl))
    obtain ⟨earlier, day, hdays⟩ := (List.eq_nil_or_concat (days log)).resolve_left hne
    rw [List.concat_eq_append] at hdays
    obtain ⟨front, newest, hconcat, hfront, hnewest⟩ := hbars.eq_concat hdays
    obtain ⟨hidx, hslot⟩ := hlast hconcat hprevious
    obtain rfl : newest = bucket := Option.some.inj (hslot.symm.trans hbucket)
    obtain rfl : day = day_start reading := by
      rw [← hnewest.day, hday, toNat_day_of]
    have hmem : day_start reading ∈ days log := by
      rw [hdays]
      exact List.mem_append_right _ List.mem_cons_self
    obtain ⟨earlier', hdays', hnew⟩ := days_eq_concat hordered hmem
    obtain ⟨rfl, -⟩ := List.append_inj' (hdays.symm.trans hdays') rfl
    have hmeta : bucket_ring s' pool_id = bucket_ring s pool_id := by
      rw [bucket_ring, hs', Function.update_of_ne (by simp), bucket_ring]
    have hslots : (fun idx => s' (.DailyBucket pool_id idx)) =
        Function.update (fun idx => s (.DailyBucket pool_id idx)) idx (some bucket') := by
      funext i
      rw [hs']
      by_cases hi : i = idx
      · rw [hi, Function.update_self, Function.update_self]
      · rw [Function.update_of_ne (by simpa using hi), Function.update_of_ne hi]
    refine ⟨by rw [hmeta, hcapacity], front ++ [bucket'], ?_, ?_⟩
    · refine Bars.concat ?_ hnew hfront (hnewest.update hupdate)
      rw [days_concat, if_pos hmem, hdays]
    · rw [hmeta, hslots]
      rw [hconcat] at hring
      exact hring.replace (by decide) hidx bucket'
  · have hnew : day_start reading ∉ days log := by
      intro hmem
      obtain ⟨earlier, hdays, -⟩ := days_eq_concat hordered hmem
      obtain ⟨front, newest, hconcat, -, hnewest⟩ := hbars.eq_concat hdays
      have hne : (bucket_ring s pool_id).count ≠ 0 := by
        intro hzero
        have hlength := hring.count_eq
        rw [hzero, hconcat, List.length_append] at hlength
        simp at hlength
      obtain ⟨idx, hprevious, hdiffers⟩ := hother hne
      apply hdiffers newest (hlast hconcat hprevious).2
      rw [← UInt64.toNat_inj, hnewest.day, toNat_day_of]
    have hmeta : bucket_ring s' pool_id =
        { head := ((bucket_ring s pool_id).head + 1) % MAX_DAILY_BUCKETS
          count := (bucket_ring s pool_id).count + 1
          capacity := MAX_DAILY_BUCKETS } := by
      rw [bucket_ring, hs', Function.update_self, Option.getD_some]
    have hslots : (fun idx => s' (.DailyBucket pool_id idx)) =
        Function.update (fun idx => s (.DailyBucket pool_id idx)) (bucket_ring s pool_id).head
          (some (opened_bucket reading)) := by
      funext i
      rw [hs', Function.update_of_ne (by simp)]
      by_cases hi : i = (bucket_ring s pool_id).head
      · rw [hi, Function.update_self, Function.update_self]
      · rw [Function.update_of_ne (by simpa using hi), Function.update_of_ne hi]
    refine ⟨by rw [hmeta], bars ++ [opened_bucket reading], ?_, ?_⟩
    · refine Bars.concat ?_ hnew hbars ?_
      · rw [days_concat, if_neg hnew]
      · rw [of_day_eq_nil hnew, List.nil_append]
        exact IsBar.opened reading
    · rw [hmeta, hslots]
      exact hring.push (by decide) hcount _

theorem BucketRing.push (h : BucketRing pool_id s log)
    (hordered : Ordered (log ++
      [snapshot_of env pool_id reserve_a reserve_b total_shares volume fees pool_type]))
    (hok : record_pool_state pool_id reserve_a reserve_b total_shares volume fees pool_type env s =
      .ok (u, s')) :
    BucketRing pool_id s' (log ++
      [snapshot_of env pool_id reserve_a reserve_b total_shares volume fees pool_type]) := by
  obtain ⟨s₁, s₂, s₃, -, hs₁, hbucket, hobserved, hs'⟩ := record_pool_state_spec hok
  have hbefore : BucketRing pool_id s₁ log := by
    refine h.congr ?_ fun idx => ?_
    · rw [hs₁, Function.update_of_ne (by simp), Function.update_of_ne (by simp)]
    · rw [hs₁, Function.update_of_ne (by simp), Function.update_of_ne (by simp)]
  have hframe (k : Key) (hk : k.tag = .DailyRingMeta ∨ k.tag = .DailyBucket) : s' k = s₂ k := by
    have hlater := (inferInstance : Writes [.PriceObservation, .PriceAccumulator]
      (liquidity_pool.record_price_observation pool_id (snapshot_price reserve_a reserve_b)
        env.timestamp)).frame hobserved k
    rw [hs' k (by rintro rfl; simp at hk), hlater (by rcases hk with hk | hk <;> simp [Tagged.tag, hk])]
  exact (hbefore.update hordered hbucket).congr (hframe _ (.inl rfl)) fun idx => hframe _ (.inr rfl)

end Rings

/-! ## The history of a pool -/

/-- What the two readers return after a run. -/
structure PoolHistory [Host] (pool_id : SString) (calls : List Invocation) : Prop where
  /-- Of the most recent 720 snapshots, those of the interval, the oldest first. -/
  snapshots : ∀ env from_timestamp to_timestamp,
    get_pool_history pool_id from_timestamp to_timestamp env (run empty_storage calls) =
      .ok ((recent 720 (recorded pool_id calls)).filter fun r =>
        from_timestamp ≤ r.timestamp && r.timestamp ≤ to_timestamp, run empty_storage calls)
  /-- One bar for each of the most recent 90 days with a snapshot, the oldest first. -/
  buckets : ∃ bars,
    (∀ env, get_daily_history pool_id 0 0xFFFFFFFFFFFFFFFF env (run empty_storage calls) =
      .ok (bars, run empty_storage calls)) ∧
    List.Forall₂ (fun day bucket => IsBar day (of_day day (recorded pool_id calls)) bucket)
      (recent 90 (days (recorded pool_id calls))) bars

/-- **The history of a pool is a bounded queue, with exact daily bars.** -/
theorem poolHistory_run [Host] (pool_id : SString) (calls : List Invocation)
    (htimes : (calls.map fun t => t.1.timestamp).Pairwise (· ≤ ·)) : PoolHistory pool_id calls := by
  have hrings : SnapshotRing pool_id (run empty_storage calls) (recorded pool_id calls) ∧
      BucketRing pool_id (run empty_storage calls) (recorded pool_id calls) := by
    refine (ring_run (I := fun s log => SnapshotRing pool_id s log ∧ BucketRing pool_id s log)
      ⟨SnapshotRing.nil, BucketRing.nil⟩ ?_ ?_ htimes).1
    · rintro s s' log hframe ⟨hsnapshots, hbuckets⟩
      exact ⟨hsnapshots.congr (hframe _ rfl) fun idx => hframe _ rfl,
        hbuckets.congr (hframe _ rfl) fun idx => hframe _ rfl⟩
    · rintro s s' env log _ _ _ _ _ _ ⟨hsnapshots, hbuckets⟩ hordered hok
      exact ⟨hsnapshots.push hok, hbuckets.push hordered hok⟩
  obtain ⟨⟨hcapacity, hsnapshots⟩, hcapacity', bars, hbars, hbuckets⟩ := hrings
  constructor
  · intro env from_timestamp to_timestamp
    have hread : get_pool_history pool_id from_timestamp to_timestamp env (run empty_storage calls) =
        liquidity_pool.walk_ring (snapshot_ring (run empty_storage calls) pool_id).head
          (snapshot_ring (run empty_storage calls) pool_id).count
          (snapshot_ring (run empty_storage calls) pool_id).capacity
          (fun idx => get (.PoolSnapshot pool_id idx))
          (fun r => from_timestamp ≤ r.timestamp && r.timestamp ≤ to_timestamp) env
          (run empty_storage calls) := rfl
    rw [hread, hcapacity]
    exact hsnapshots.walk (by decide) (by decide) (fun idx => load_eq_ok.mpr ⟨rfl, rfl⟩) _
  · refine ⟨recent 90 bars, ?_, ?_⟩
    · intro env
      have hread : get_daily_history pool_id 0 0xFFFFFFFFFFFFFFFF env (run empty_storage calls) =
          liquidity_pool.walk_ring (bucket_ring (run empty_storage calls) pool_id).head
            (bucket_ring (run empty_storage calls) pool_id).count
            (bucket_ring (run empty_storage calls) pool_id).capacity
            (fun idx => get (.DailyBucket pool_id idx))
            (fun b => (0 : U64) ≤ b.day_timestamp && b.day_timestamp ≤ 0xFFFFFFFFFFFFFFFF) env
            (run empty_storage calls) := rfl
      have hall (b : DailyBucket) :
          ((0 : U64) ≤ b.day_timestamp && b.day_timestamp ≤ 0xFFFFFFFFFFFFFFFF : Bool) = true := by
        have hlt := b.day_timestamp.toNat_lt
        have hmax : (0xFFFFFFFFFFFFFFFF : U64).toNat = 2 ^ 64 - 1 := rfl
        rw [Bool.and_eq_true, decide_eq_true_eq, decide_eq_true_eq, UInt64.le_iff_toNat_le,
          UInt64.le_iff_toNat_le, UInt64.toNat_zero, hmax]
        omega
      rw [hread, hcapacity', hbuckets.walk (by decide) (by decide)
        (fun idx => load_eq_ok.mpr ⟨rfl, rfl⟩) _, List.filter_eq_self.mpr fun b _ => hall b]
      rfl
    · unfold Bars at hbars
      rw [recent, recent, hbars.length_eq]
      exact List.forall₂_drop _ hbars

/-- Two snapshots of one day, and one of the next. -/
def two_days (pool_id : SString) : List Invocation :=
  [(mock_all_auths 1, .initialize_contract (test_address 1)),
    (mock_all_auths 10, .record_pool_state pool_id 100 200 1 5 1 .Amm),
    (mock_all_auths 20, .record_pool_state pool_id 100 300 1 5 1 .Amm),
    (mock_all_auths 86400, .record_pool_state pool_id 100 100 1 5 1 .Amm)]

theorem poolHistory_run_two_days :
    let _ : Host := lengthHost
    PoolHistory (str "USDC_XLM") (two_days (str "USDC_XLM")) ∧
      (recorded (str "USDC_XLM") (two_days (str "USDC_XLM"))).map PoolSnapshot.price =
        [20000000, 30000000, 10000000] := by
  intro host
  exact ⟨poolHistory_run (str "USDC_XLM") _ (by decide), by decide +kernel⟩

end BridgeWatch.Contract

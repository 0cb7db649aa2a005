/-
The aggregated health of an asset.

The weighted sums are checked `u64` sums. As long as they fit, the result is the floor of the weighted mean
over the trusted sources with an entry, and lies between their scores. Neither the weights nor the scores are
bounded when they are submitted, so the sums need not fit, and the call panics when one does not.
-/
import BridgeWatch.ContractCalls
import Mathlib.Algebra.BigOperators.Ring.List
import Mathlib.Algebra.Order.BigOperators.Group.List
import Mathlib.Algebra.Order.Ring.Nat
import Mathlib.Data.Finset.Max

set_option autoImplicit false

namespace BridgeWatch.Contract

open Transaction

structure AggregatedHealth where
  asset_code : SString
  weighted_health_score : U32
  weighted_liquidity_score : U32
  weighted_price_stability_score : U32
  weighted_bridge_uptime_score : U32
  source_count : U32
  computed_at : U64
  deriving DecidableEq

/-- The sums of the loop of `get_aggregated_health`. -/
structure HealthTotals where
  total_weight : U64
  weighted_health : U64
  weighted_liquidity : U64
  weighted_price : U64
  weighted_uptime : U64
  count : U32

/-- `x * y` on `u64`. -/
def mul_u64 (x y : U64) : Soroban U64 := do
  panic_if (2 ^ 64 ≤ x.toNat * y.toNat) "attempt to multiply with overflow"
  return x * y

/-- `total += w * score`. -/
def add_weighted (total w : U64) (score : U32) : Soroban U64 := do
  let product ← mul_u64 w score.toUInt64
  add_u64 total product

/-- The body of the loop over the sources. -/
def aggregate_source (asset_code : SString) (totals : HealthTotals) (source : HealthSource) :
    Soroban HealthTotals :=
  if source.trusted = false then
    return totals
  else do
    let entry ← get (.HealthSourceEntry source.source_id asset_code)
    entry.elim (pure totals) fun e => do
      let w := source.weight_bps.toUInt64
      let total_weight ← add_u64 totals.total_weight w
      let weighted_health ← add_weighted totals.weighted_health w e.health_score
      let weighted_liquidity ← add_weighted totals.weighted_liquidity w e.liquidity_score
      let weighted_price ← add_weighted totals.weighted_price w e.price_stability_score
      let weighted_uptime ← add_weighted totals.weighted_uptime w e.bridge_uptime_score
      let count ← add_u32 totals.count 1
      return {
        total_weight
        weighted_health
        weighted_liquidity
        weighted_price
        weighted_uptime
        count }

def get_aggregated_health (asset_code : SString) : Soroban (Option AggregatedHealth) := do
  let sources ← get .HEALTH_SOURCES
  let totals ← (sources.getD []).foldlM (aggregate_source asset_code)
    { total_weight := 0
      weighted_health := 0
      weighted_liquidity := 0
      weighted_price := 0
      weighted_uptime := 0
      count := 0 }
  if totals.count = 0 ∨ totals.total_weight = 0 then
    return none
  else do
    let now ← timestamp
    return some {
      asset_code
      weighted_health_score := (totals.weighted_health / totals.total_weight).toUInt32
      weighted_liquidity_score := (totals.weighted_liquidity / totals.total_weight).toUInt32
      weighted_price_stability_score := (totals.weighted_price / totals.total_weight).toUInt32
      weighted_bridge_uptime_score := (totals.weighted_uptime / totals.total_weight).toUInt32
      source_count := totals.count
      computed_at := now }

/-! ## Weighted sums -/

/-- A source and its entry. -/
abbrev Contribution := HealthSource × SourcedHealthEntry

def weight_sum (l : List Contribution) : ℕ := (l.map fun c => c.1.weight_bps.toNat).sum

def weighted_sum (score : SourcedHealthEntry → U32) (l : List Contribution) : ℕ :=
  (l.map fun c => c.1.weight_bps.toNat * (score c.2).toNat).sum

/-- The sums of the loop are sums of their types. -/
structure Fits (l : List Contribution) : Prop where
  count : l.length < 2 ^ 32
  weight : weight_sum l < 2 ^ 64
  health : weighted_sum SourcedHealthEntry.health_score l < 2 ^ 64
  liquidity : weighted_sum SourcedHealthEntry.liquidity_score l < 2 ^ 64
  price : weighted_sum SourcedHealthEntry.price_stability_score l < 2 ^ 64
  uptime : weighted_sum SourcedHealthEntry.bridge_uptime_score l < 2 ^ 64

/-- `value` is the floor of the weighted mean of the scores, and between the least and the largest. -/
structure IsMean (score : SourcedHealthEntry → U32) (l : List Contribution) (value : U32) : Prop where
  floor : value.toNat = weighted_sum score l / weight_sum l
  lower : ∃ c ∈ l, score c.2 ≤ value
  upper : ∃ c ∈ l, value ≤ score c.2

section Sums

variable {l : List Contribution} {score : SourcedHealthEntry → U32}

theorem weight_sum_concat (l : List Contribution) (c : Contribution) :
    weight_sum (l ++ [c]) = weight_sum l + c.1.weight_bps.toNat := by
  simp [weight_sum]

theorem weighted_sum_concat (score : SourcedHealthEntry → U32) (l : List Contribution) (c : Contribution) :
    weighted_sum score (l ++ [c]) = weighted_sum score l + c.1.weight_bps.toNat * (score c.2).toNat := by
  simp [weighted_sum]

theorem Fits.of_append {l' : List Contribution} (h : Fits (l ++ l')) : Fits l := by
  obtain ⟨hcount, hweight, hhealth, hliquidity, hprice, huptime⟩ := h
  rw [List.length_append] at hcount
  rw [weight_sum, List.map_append, List.sum_append] at hweight
  rw [weighted_sum, List.map_append, List.sum_append] at hhealth hliquidity hprice huptime
  exact ⟨by omega, (Nat.le_add_right _ _).trans_lt hweight, (Nat.le_add_right _ _).trans_lt hhealth,
    (Nat.le_add_right _ _).trans_lt hliquidity, (Nat.le_add_right _ _).trans_lt hprice,
    (Nat.le_add_right _ _).trans_lt huptime⟩

/-- The weighted sum is between the least and the largest score, times the weights. -/
theorem exists_score_bounds (hne : l ≠ []) :
    (∃ c ∈ l, (score c.2).toNat * weight_sum l ≤ weighted_sum score l) ∧
      ∃ c ∈ l, weighted_sum score l ≤ (score c.2).toNat * weight_sum l := by
  obtain ⟨low, hlow, hmin⟩ := l.toFinset.exists_min_image (fun c => (score c.2).toNat)
    (by simpa [List.toFinset_nonempty_iff] using hne)
  obtain ⟨high, hhigh, hmax⟩ := l.toFinset.exists_max_image (fun c => (score c.2).toNat)
    (by simpa [List.toFinset_nonempty_iff] using hne)
  simp only [List.mem_toFinset] at hlow hmin hhigh hmax
  refine ⟨⟨low, hlow, ?_⟩, ⟨high, hhigh, ?_⟩⟩
  · rw [weight_sum, weighted_sum, ← List.sum_map_mul_left]
    apply List.sum_le_sum
    intro c hc
    rw [Nat.mul_comm]
    exact Nat.mul_le_mul_left _ (hmin c hc)
  · rw [weight_sum, weighted_sum, ← List.sum_map_mul_left]
    apply List.sum_le_sum
    intro c hc
    rw [Nat.mul_comm (score high.2).toNat]
    exact Nat.mul_le_mul_left _ (hmax c hc)

/-- The quotient of the sums is the mean, and the cast to `u32` keeps it. -/
theorem isMean_of_sums {total weighted : U64} (hne : l ≠ []) (hpos : 0 < weight_sum l)
    (htotal : total.toNat = weight_sum l) (hweighted : weighted.toNat = weighted_sum score l) :
    IsMean score l (weighted / total).toUInt32 := by
  obtain ⟨⟨low, hlow, hmin⟩, high, hhigh, hmax⟩ := @exists_score_bounds l score hne
  have hle : weighted_sum score l / weight_sum l ≤ (score high.2).toNat :=
    Nat.div_le_of_le_mul (by rwa [Nat.mul_comm])
  have hge : (score low.2).toNat ≤ weighted_sum score l / weight_sum l := (Nat.le_div_iff_mul_le hpos).mpr hmin
  have hvalue : (weighted / total).toUInt32.toNat = weighted_sum score l / weight_sum l := by
    rw [UInt64.toNat_toUInt32, UInt64.toNat_div, hweighted, htotal, Nat.mod_eq_of_lt]
    exact hle.trans_lt (score high.2).toNat_lt
  refine ⟨hvalue, ⟨low, hlow, ?_⟩, high, hhigh, ?_⟩
  · rw [UInt32.le_iff_toNat_le, hvalue]
    exact hge
  · rw [UInt32.le_iff_toNat_le, hvalue]
    exact hle

end Sums

/-! ## The loop -/

def health_sources (s : Storage) : List HealthSource := (s .HEALTH_SOURCES).getD []

/-- What a source contributes to the aggregate of an asset: its entry, if it is trusted and has one. -/
def contribution (s : Storage) (asset_code : SString) (source : HealthSource) : Option Contribution :=
  if source.trusted then (s (.HealthSourceEntry source.source_id asset_code)).map fun e => (source, e) else none

/-- The trusted sources with an entry for the asset. -/
def contributors (s : Storage) (asset_code : SString) : List Contribution :=
  (health_sources s).filterMap (contribution s asset_code)

/-- The machine sums are those of `l`. -/
structure HealthTotals.Holds (t : HealthTotals) (l : List Contribution) : Prop where
  total_weight : t.total_weight.toNat = weight_sum l
  weighted_health : t.weighted_health.toNat = weighted_sum SourcedHealthEntry.health_score l
  weighted_liquidity : t.weighted_liquidity.toNat = weighted_sum SourcedHealthEntry.liquidity_score l
  weighted_price : t.weighted_price.toNat = weighted_sum SourcedHealthEntry.price_stability_score l
  weighted_uptime : t.weighted_uptime.toNat = weighted_sum SourcedHealthEntry.bridge_uptime_score l
  count : t.count.toNat = l.length

section Loop

variable {env : Env} {s s' : Storage} {asset_code : SString} {t t' : HealthTotals} {l : List Contribution}

/-- The product of two `u32` is a `u64`, the sum need not be. -/
theorem add_weighted_eq_ok {total z : U64} {weight score : U32} :
    add_weighted total weight.toUInt64 score env s = .ok (z, s') ↔
      total.toNat + weight.toNat * score.toNat < 2 ^ 64 ∧
        z.toNat = total.toNat + weight.toNat * score.toNat ∧ s' = s := by
  have hproduct : weight.toNat * score.toNat < 2 ^ 64 :=
    (Nat.mul_lt_mul'' weight.toNat_lt score.toNat_lt).trans_eq rfl
  have hmul : (weight.toUInt64 * score.toUInt64).toNat = weight.toNat * score.toNat := by
    rw [UInt64.toNat_mul, UInt32.toNat_toUInt64, UInt32.toNat_toUInt64, Nat.mod_eq_of_lt hproduct]
  simp only [add_weighted, mul_u64, bind_eq_ok, panic_if_eq_ok, pure_eq_ok, add_u64_eq_ok, not_le, and_assoc,
    exists_and_left, exists_eq_left, exists_const, hmul, UInt32.toNat_toUInt64]
  constructor
  · rintro ⟨-, hsum, rfl, rfl⟩
    refine ⟨hsum, ?_, rfl⟩
    rw [UInt64.toNat_add, hmul, Nat.mod_eq_of_lt hsum]
  · rintro ⟨hsum, hz, rfl⟩
    refine ⟨hproduct, hsum, ?_, rfl⟩
    rw [← UInt64.toNat_inj, hz, UInt64.toNat_add, hmul, Nat.mod_eq_of_lt hsum]

theorem exists_add_weighted {total : U64} {weight score : U32}
    (h : total.toNat + weight.toNat * score.toNat < 2 ^ 64) (env : Env) (s : Storage) :
    ∃ z, add_weighted total weight.toUInt64 score env s = .ok (z, s) ∧
      z.toNat = total.toNat + weight.toNat * score.toNat := by
  have hz : (UInt64.ofNat (total.toNat + weight.toNat * score.toNat)).toNat =
      total.toNat + weight.toNat * score.toNat := by
    rw [UInt64.toNat_ofNat', Nat.mod_eq_of_lt h]
  exact ⟨_, add_weighted_eq_ok.mpr ⟨h, hz, rfl⟩, hz⟩

theorem aggregate_source_of_none {source : HealthSource} (hc : contribution s asset_code source = none) :
    aggregate_source asset_code t source env s = .ok (t, s) := by
  unfold contribution at hc
  unfold aggregate_source
  by_cases htrusted : source.trusted = true
  · rw [if_pos htrusted, Option.map_eq_none_iff] at hc
    rw [if_neg (by simp [htrusted]), bind_eq_ok]
    refine ⟨_, s, load_eq_ok.mpr ⟨rfl, rfl⟩, ?_⟩
    rw [hc]
    rfl
  · rw [if_pos (by simpa using htrusted)]
    rfl

/-- The source of a contribution is trusted, and the entry is its own. -/
theorem contribution_eq_some {source : HealthSource} {c : Contribution} :
    contribution s asset_code source = some c ↔
      source.trusted = true ∧ c.1 = source ∧ s (.HealthSourceEntry source.source_id asset_code) = some c.2 := by
  unfold contribution
  by_cases htrusted : source.trusted = true
  · rw [if_pos htrusted, Option.map_eq_some_iff]
    constructor
    · rintro ⟨e, he, rfl⟩
      exact ⟨htrusted, rfl, he⟩
    · rintro ⟨-, hsource, he⟩
      exact ⟨c.2, he, by rw [← hsource]⟩
  · rw [if_neg htrusted]
    simp [htrusted]

/-- **One source that contributes**, when the sums with it fit. -/
theorem aggregate_source_of_fits {source : HealthSource} {c : Contribution} (ht : t.Holds l)
    (hc : contribution s asset_code source = some c) (hfits : Fits (l ++ [c])) (env : Env) :
    ∃ t', aggregate_source asset_code t source env s = .ok (t', s) ∧ t'.Holds (l ++ [c]) := by
  obtain ⟨htrusted, hsource, hentry⟩ := contribution_eq_some.mp hc
  obtain ⟨hcount, hweight, hhealth, hliquidity, hprice, huptime⟩ := hfits
  rw [List.length_append, List.length_singleton, ← ht.count] at hcount
  rw [weight_sum_concat, ← ht.total_weight, hsource] at hweight
  rw [weighted_sum_concat, ← ht.weighted_health, hsource] at hhealth
  rw [weighted_sum_concat, ← ht.weighted_liquidity, hsource] at hliquidity
  rw [weighted_sum_concat, ← ht.weighted_price, hsource] at hprice
  rw [weighted_sum_concat, ← ht.weighted_uptime, hsource] at huptime
  obtain ⟨health, hhealth_ok, hhealth_eq⟩ := exists_add_weighted hhealth env s
  obtain ⟨liquidity, hliquidity_ok, hliquidity_eq⟩ := exists_add_weighted hliquidity env s
  obtain ⟨price, hprice_ok, hprice_eq⟩ := exists_add_weighted hprice env s
  obtain ⟨uptime, huptime_ok, huptime_eq⟩ := exists_add_weighted huptime env s
  refine ⟨{ total_weight := t.total_weight + source.weight_bps.toUInt64, weighted_health := health,
            weighted_liquidity := liquidity, weighted_price := price, weighted_uptime := uptime,
            count := t.count + 1 }, ?_, ?_⟩
  · unfold aggregate_source
    rw [if_neg (by simp [htrusted]), bind_eq_ok]
    refine ⟨_, s, load_eq_ok.mpr ⟨rfl, rfl⟩, ?_⟩
    rw [hentry, Option.elim_some]
    simp only [bind_eq_ok]
    exact ⟨_, s, add_u64_eq_ok.mpr ⟨by rwa [UInt32.toNat_toUInt64], rfl, rfl⟩, _, s, hhealth_ok, _, s,
      hliquidity_ok, _, s, hprice_ok, _, s, huptime_ok, _, s,
      add_u32_eq_ok.mpr ⟨by rwa [UInt32.toNat_one], rfl, rfl⟩, pure_eq_ok.mpr ⟨rfl, rfl⟩⟩
  · constructor
    · rw [weight_sum_concat, ← ht.total_weight, UInt64.toNat_add, UInt32.toNat_toUInt64,
        Nat.mod_eq_of_lt hweight, hsource]
    · rw [weighted_sum_concat, ← ht.weighted_health, hsource]
      exact hhealth_eq
    · rw [weighted_sum_concat, ← ht.weighted_liquidity, hsource]
      exact hliquidity_eq
    · rw [weighted_sum_concat, ← ht.weighted_price, hsource]
      exact hprice_eq
    · rw [weighted_sum_concat, ← ht.weighted_uptime, hsource]
      exact huptime_eq
    · rw [List.length_append, List.length_singleton, ← ht.count, UInt32.toNat_add, UInt32.toNat_one,
        Nat.mod_eq_of_lt hcount]

/-- It succeeds in no other case. -/
theorem fits_of_aggregate_source {source : HealthSource} {c : Contribution} (ht : t.Holds l)
    (hc : contribution s asset_code source = some c)
    (hok : aggregate_source asset_code t source env s = .ok (t', s')) : Fits (l ++ [c]) := by
  obtain ⟨htrusted, hsource, hentry⟩ := contribution_eq_some.mp hc
  unfold aggregate_source at hok
  rw [if_neg (by simp [htrusted]), bind_eq_ok] at hok
  obtain ⟨entry, s₁, hread, hok⟩ := hok
  obtain ⟨rfl, rfl⟩ := load_eq_ok.mp hread
  rw [hentry, Option.elim_some] at hok
  simp only [bind_eq_ok, add_u64_eq_ok, add_weighted_eq_ok, add_u32_eq_ok, pure_eq_ok, and_assoc, exists_and_left,
    exists_eq_left] at hok
  obtain ⟨hweight, health, hhealth, -, liquidity, hliquidity, -, price, hprice, -, uptime, huptime, -, hcount, -⟩ :=
    hok
  constructor
  · rwa [List.length_append, List.length_singleton, ← ht.count]
  · rwa [weight_sum_concat, ← ht.total_weight, hsource, ← UInt32.toNat_toUInt64]
  · rwa [weighted_sum_concat, ← ht.weighted_health, hsource]
  · rwa [weighted_sum_concat, ← ht.weighted_liquidity, hsource]
  · rwa [weighted_sum_concat, ← ht.weighted_price, hsource]
  · rwa [weighted_sum_concat, ← ht.weighted_uptime, hsource]

/-- **The loop**, when the sums fit. -/
theorem aggregate_of_fits {sources : List HealthSource} (ht : t.Holds l)
    (hfits : Fits (l ++ sources.filterMap (contribution s asset_code))) (env : Env) :
    ∃ t', sources.foldlM (aggregate_source asset_code) t env s = .ok (t', s) ∧
      t'.Holds (l ++ sources.filterMap (contribution s asset_code)) := by
  induction sources generalizing t l with
  | nil =>
      rw [List.filterMap_nil, List.append_nil]
      exact ⟨t, rfl, ht⟩
  | cons source _ ih =>
      rw [List.foldlM_cons]
      cases hc : contribution s asset_code source with
      | none =>
          rw [List.filterMap_cons_none hc] at hfits ⊢
          obtain ⟨t', hloop, ht'⟩ := ih ht hfits
          exact ⟨t', bind_eq_ok.mpr ⟨t, s, aggregate_source_of_none hc, hloop⟩, ht'⟩
      | some =>
          rw [List.filterMap_cons_some hc, List.append_cons] at hfits ⊢
          obtain ⟨t₁, hround, ht₁⟩ := aggregate_source_of_fits ht hc hfits.of_append env
          obtain ⟨t', hloop, ht'⟩ := ih ht₁ hfits
          exact ⟨t', bind_eq_ok.mpr ⟨t₁, s, hround, hloop⟩, ht'⟩

theorem fits_of_aggregate {sources : List HealthSource} (ht : t.Holds l) (hl : Fits l)
    (hok : sources.foldlM (aggregate_source asset_code) t env s = .ok (t', s')) :
    Fits (l ++ sources.filterMap (contribution s asset_code)) := by
  induction sources generalizing t l with
  | nil =>
      rw [List.filterMap_nil, List.append_nil]
      exact hl
  | cons source _ ih =>
      rw [List.foldlM_cons, bind_eq_ok] at hok
      obtain ⟨t₁, s₁, hround, hrest⟩ := hok
      cases hc : contribution s asset_code source with
      | none =>
          rw [aggregate_source_of_none hc, Except.ok.injEq, Prod.mk.injEq] at hround
          obtain ⟨rfl, rfl⟩ := hround
          rw [List.filterMap_cons_none hc]
          exact ih ht hl hrest
      | some =>
          have hfits := fits_of_aggregate_source ht hc hround
          obtain ⟨t₂, hround', ht₂⟩ := aggregate_source_of_fits ht hc hfits env
          rw [hround', Except.ok.injEq, Prod.mk.injEq] at hround
          obtain ⟨rfl, rfl⟩ := hround
          rw [List.filterMap_cons_some hc, List.append_cons]
          exact ih ht₂ hfits hrest

/-- What the function is for: the means over the trusted sources with an entry, if there is one. -/
def TrueMean (asset_code : SString) (env : Env) (s : Storage) : Prop :=
  ∃ result, get_aggregated_health asset_code env s = .ok (result, s) ∧
    (result = none ↔ contributors s asset_code = []) ∧
    ∀ r ∈ result, r.asset_code = asset_code ∧ r.computed_at = env.timestamp ∧
      r.source_count.toNat = (contributors s asset_code).length ∧
      IsMean SourcedHealthEntry.health_score (contributors s asset_code) r.weighted_health_score ∧
      IsMean SourcedHealthEntry.liquidity_score (contributors s asset_code) r.weighted_liquidity_score ∧
      IsMean SourcedHealthEntry.price_stability_score (contributors s asset_code) r.weighted_price_stability_score ∧
      IsMean SourcedHealthEntry.bridge_uptime_score (contributors s asset_code) r.weighted_bridge_uptime_score

theorem HealthTotals.holds_nil : HealthTotals.Holds
    { total_weight := 0, weighted_health := 0, weighted_liquidity := 0, weighted_price := 0, weighted_uptime := 0,
      count := 0 } [] := ⟨rfl, rfl, rfl, rfl, rfl, rfl⟩

/-- **The mean is true just when the sums fit.** -/
theorem trueMean_iff (hpositive : ∀ source ∈ health_sources s, source.weight_bps ≠ 0) :
    TrueMean asset_code env s ↔ Fits (contributors s asset_code) := by
  constructor
  · rintro ⟨result, hok, -⟩
    rw [get_aggregated_health, bind_eq_ok] at hok
    obtain ⟨sources, s₁, hread, hok⟩ := hok
    obtain ⟨rfl, rfl⟩ := load_eq_ok.mp hread
    obtain ⟨totals, s₂, hloop, -⟩ := bind_eq_ok.mp hok
    exact fits_of_aggregate HealthTotals.holds_nil (by constructor <;> decide) hloop
  · intro hfits
    obtain ⟨totals, hloop, ht⟩ := aggregate_of_fits HealthTotals.holds_nil hfits env
    rw [List.nil_append] at ht
    -- every weight is positive, and so is their sum unless there is none
    have hsum : contributors s asset_code ≠ [] → 0 < weight_sum (contributors s asset_code) := by
      intro hne
      obtain ⟨c, hc⟩ := List.exists_mem_of_ne_nil _ hne
      obtain ⟨source, hsource, hcontribution⟩ := List.mem_filterMap.mp hc
      have hpos := hpositive source hsource
      rw [← (contribution_eq_some.mp hcontribution).2.1, ne_eq, ← UInt32.toNat_inj, UInt32.toNat_zero] at hpos
      exact (Nat.pos_of_ne_zero hpos).trans_le (List.single_le_sum (fun _ _ => Nat.zero_le _) _
        (List.mem_map_of_mem hc))
    by_cases hnone : contributors s asset_code = []
    · have hzero : totals.count = 0 := by
        rw [← UInt32.toNat_inj, ht.count]
        exact congrArg List.length hnone
      refine ⟨none, bind_eq_ok.mpr ⟨_, s, load_eq_ok.mpr ⟨rfl, rfl⟩, bind_eq_ok.mpr ⟨totals, s, hloop, ?_⟩⟩,
        iff_of_true rfl hnone, fun r hr => absurd hr (Option.not_mem_none r)⟩
      rw [if_pos (.inl hzero)]
      rfl
    · have hpos := hsum hnone
      have hcount : totals.count ≠ 0 := by
        rw [ne_eq, ← UInt32.toNat_inj, ht.count]
        exact fun h => hnone (List.length_eq_zero_iff.mp h)
      have htotal : totals.total_weight ≠ 0 := by
        rw [ne_eq, ← UInt64.toNat_inj, ht.total_weight]
        exact hpos.ne'
      let result : AggregatedHealth := {
        asset_code
        weighted_health_score := (totals.weighted_health / totals.total_weight).toUInt32
        weighted_liquidity_score := (totals.weighted_liquidity / totals.total_weight).toUInt32
        weighted_price_stability_score := (totals.weighted_price / totals.total_weight).toUInt32
        weighted_bridge_uptime_score := (totals.weighted_uptime / totals.total_weight).toUInt32
        source_count := totals.count
        computed_at := env.timestamp }
      refine ⟨some result, bind_eq_ok.mpr ⟨_, s, load_eq_ok.mpr ⟨rfl, rfl⟩, bind_eq_ok.mpr ⟨totals, s, hloop, ?_⟩⟩,
        iff_of_false (Option.some_ne_none _) hnone, ?_⟩
      · rw [if_neg (not_or.mpr ⟨hcount, htotal⟩)]
        rfl
      · rintro r ⟨⟩
        exact ⟨rfl, rfl, ht.count, isMean_of_sums hnone hpos ht.total_weight ht.weighted_health,
          isMean_of_sums hnone hpos ht.total_weight ht.weighted_liquidity,
          isMean_of_sums hnone hpos ht.total_weight ht.weighted_price,
          isMean_of_sums hnone hpos ht.total_weight ht.weighted_uptime⟩

end Loop

/-! ## The sources of a run -/

/-- What the calls on health sources do. -/
inductive SourceEvent
  | registered (source_id : SString) (weight_bps : U32) (registered_at : U64)
  | revoked (source_id : SString)
  | submitted (entry : SourcedHealthEntry)

/-- What a call does to the sources and their entries when it succeeds. -/
def source_events (t : Invocation) : List SourceEvent :=
  match t.2 with
  | .register_health_source _ source_id weight_bps => [.registered source_id weight_bps t.1.timestamp]
  | .revoke_health_source _ source_id => [.revoked source_id]
  | .submit_health_multi_source _ source_id asset_code health_score liquidity_score price_stability_score
      bridge_uptime_score =>
      [.submitted
        { source_id
          asset_code
          health_score
          liquidity_score
          price_stability_score
          bridge_uptime_score
          submitted_at := t.1.timestamp }]
  | _ => []

/-- The events of a run. -/
abbrev source_log [Host] (calls : List Invocation) : List SourceEvent :=
  collect exec (fun _ t => source_events t) empty_storage calls

/-- A source after one event. -/
def SourceEvent.source (source_id : SString) (source : Option HealthSource) : SourceEvent → Option HealthSource
  | .registered id weight_bps registered_at =>
      if id = source_id then some { source_id, weight_bps, trusted := true, registered_at } else source
  | .revoked id => if id = source_id then source.map fun s => { s with trusted := false } else source
  | .submitted _ => source

/-- The source as it was registered last, trusted unless it has been revoked since. -/
def current_source (log : List SourceEvent) (source_id : SString) : Option HealthSource :=
  log.foldl (SourceEvent.source source_id) none

/-- An entry after one event. -/
def SourceEvent.entry (source_id asset_code : SString) (entry : Option SourcedHealthEntry) :
    SourceEvent → Option SourcedHealthEntry
  | .submitted e => if e.source_id = source_id ∧ e.asset_code = asset_code then some e else entry
  | _ => entry

/-- The latest entry of a source for an asset. -/
def latest_entry (log : List SourceEvent) (source_id asset_code : SString) : Option SourcedHealthEntry :=
  log.foldl (SourceEvent.entry source_id asset_code) none

/-- The sources and the entries are those of the log. -/
structure Sourced (s : Storage) (log : List SourceEvent) : Prop where
  nodup : ((health_sources s).map HealthSource.source_id).Nodup
  source : ∀ id, (health_sources s).find? (fun source => source.source_id = id) = current_source log id
  entry : ∀ id asset_code, s (.HealthSourceEntry id asset_code) = latest_entry log id asset_code
  positive : ∀ source ∈ health_sources s, source.weight_bps ≠ 0

section Runs

variable {env : Env} {s s' : Storage} {log : List SourceEvent}

theorem current_source_concat (log : List SourceEvent) (event : SourceEvent) (id : SString) :
    current_source (log ++ [event]) id = event.source id (current_source log id) := List.foldl_append

theorem latest_entry_concat (log : List SourceEvent) (event : SourceEvent) (id asset_code : SString) :
    latest_entry (log ++ [event]) id asset_code = event.entry id asset_code (latest_entry log id asset_code) :=
  List.foldl_append

theorem Sourced.empty : Sourced empty_storage [] :=
  ⟨.nil, fun _ => rfl, fun _ _ => rfl, fun _ h => absurd h List.not_mem_nil⟩

theorem Sourced.congr (hsources : s' .HEALTH_SOURCES = s .HEALTH_SOURCES)
    (hentries : ∀ id asset_code, s' (.HealthSourceEntry id asset_code) = s (.HealthSourceEntry id asset_code))
    (h : Sourced s log) : Sourced s' log := by
  have hlist : health_sources s' = health_sources s := by rw [health_sources, hsources, health_sources]
  refine ⟨?_, ?_, fun id asset_code => ?_, ?_⟩
  · rw [hlist]
    exact h.nodup
  · rw [hlist]
    exact h.source
  · rw [hentries]
    exact h.entry id asset_code
  · rw [hlist]
    exact h.positive

theorem source_id_of_find? {sources : List HealthSource} {id : SString} {source : HealthSource}
    (h : sources.find? (fun x => x.source_id = id) = some source) : source.source_id = id := by
  simpa using List.find?_some h

/-- A change of the sources that keeps their ids is found where the source was. -/
theorem find?_map_of_ids {sources : List HealthSource} {f : HealthSource → HealthSource}
    (hf : ∀ source, (f source).source_id = source.source_id) (id : SString) :
    (sources.map f).find? (fun source => source.source_id = id) =
      (sources.find? fun source => source.source_id = id).map f := by
  rw [List.find?_map]
  congr 2
  funext source
  simp [hf]

theorem map_ids {sources : List HealthSource} {f : HealthSource → HealthSource}
    (hf : ∀ source, (f source).source_id = source.source_id) :
    (sources.map f).map HealthSource.source_id = sources.map HealthSource.source_id := by
  rw [List.map_map]
  exact List.map_congr_left fun source _ => hf source

theorem Sourced.register {caller : Address} {source_id : SString} {weight_bps : U32} {u : Unit} (h : Sourced s log)
    (hok : register_health_source caller source_id weight_bps env s = .ok (u, s')) :
    Sourced s' (log ++ [.registered source_id weight_bps env.timestamp]) := by
  obtain ⟨_, s₁, hadmin, hrest₁⟩ := bind_eq_ok.mp hok
  obtain rfl : s₁ = s := Writes.store_eq inferInstance hadmin
  obtain ⟨_, s₂, hweight, hrest₂⟩ := bind_eq_ok.mp hrest₁
  obtain ⟨hpositive, rfl⟩ := panic_if_eq_ok.mp hweight
  obtain ⟨now, s₃, hnow, hrest₃⟩ := bind_eq_ok.mp hrest₂
  obtain ⟨rfl, rfl⟩ := reads_eq_ok.mp hnow
  obtain ⟨sources, s₄, hread, hrest₄⟩ := bind_eq_ok.mp hrest₃
  obtain ⟨rfl, rfl⟩ := load_eq_ok.mp hread
  obtain ⟨_, s₅, hset, hactivity⟩ := bind_eq_ok.mp hrest₄
  rw [save_eq_ok] at hset
  have hframe := (inferInstance : Writes [Tag.ADMIN_ACTIVITY_CTR, .ADMIN_ACTIVITY_LOG] _).frame hactivity
  let source : HealthSource := { source_id, weight_bps, trusted := true, registered_at := env.timestamp }
  let replace (x : HealthSource) : HealthSource := if x.source_id = source_id then source else x
  have hreplace (x : HealthSource) : (replace x).source_id = x.source_id := by
    by_cases hx : x.source_id = source_id
    · exact (congrArg HealthSource.source_id (if_pos hx)).trans hx.symm
    · exact congrArg HealthSource.source_id (if_neg hx)
  -- the source is replaced, or put at the end
  let found := (health_sources s₄).any fun x => x.source_id = source_id
  have hlist : health_sources s' = (health_sources s₄).map replace ++ if found then [] else [source] := by
    rw [health_sources, hframe .HEALTH_SOURCES (by decide), hset, Function.update_self, Option.getD_some]
    change (if found then (health_sources s₄).map replace else (health_sources s₄).map replace ++ [source]) = _
    split <;> simp
  have hfound : found = true ↔ source_id ∈ (health_sources s₄).map HealthSource.source_id := by simp [found]
  refine ⟨?_, fun id => ?_, fun id asset_code => ?_, fun x hx => ?_⟩
  · rw [hlist, List.map_append, map_ids hreplace]
    split
    · simpa using h.nodup
    · rename_i hnew
      rw [hfound] at hnew
      refine List.nodup_append.mpr ⟨h.nodup, List.nodup_singleton _, fun a ha b hb heq => hnew ?_⟩
      rwa [heq, List.mem_singleton.mp hb] at ha
  · rw [hlist, List.find?_append, find?_map_of_ids hreplace, current_source_concat, SourceEvent.source, ← h.source]
    cases hold : (health_sources s₄).find? fun x => x.source_id = id with
    | none =>
        have hnot : ¬found = true ∨ ¬source_id = id := by
          rw [← not_and_or, hfound]
          rintro ⟨hmem, rfl⟩
          obtain ⟨x, hx, heq⟩ := List.mem_map.mp hmem
          exact List.find?_eq_none.mp hold x hx (decide_eq_true heq)
        by_cases heq : source_id = id
        · rw [if_pos heq, if_neg (hnot.resolve_right (not_not.mpr heq)), ← heq]
          simp [source]
        · rw [if_neg heq]
          split <;> simp [source, heq]
    | some x =>
        have hid : x.source_id = id := source_id_of_find? hold
        by_cases heq : source_id = id
        · rw [if_pos heq, Option.map_some, show replace x = source from if_pos (hid.trans heq.symm), ← heq]
          rfl
        · rw [if_neg heq, Option.map_some, show replace x = x from if_neg fun hx => heq (hx.symm.trans hid)]
          rfl
  · rw [hframe _ (by simp [Tagged.tag, Key.tag]), hset, Function.update_of_ne (by simp), latest_entry_concat]
    exact h.entry id asset_code
  · rw [hlist] at hx
    rcases List.mem_append.mp hx with hold | hnew
    · obtain ⟨y, hy, rfl⟩ := List.mem_map.mp hold
      by_cases heq : y.source_id = source_id
      · rw [show replace y = source from if_pos heq]
        exact hpositive
      · rw [show replace y = y from if_neg heq]
        exact h.positive y hy
    · split at hnew
      · cases hnew
      · rw [List.mem_singleton.mp hnew]
        exact hpositive

theorem Sourced.revoke {caller : Address} {source_id : SString} {u : Unit} (h : Sourced s log)
    (hok : revoke_health_source caller source_id env s = .ok (u, s')) :
    Sourced s' (log ++ [.revoked source_id]) := by
  obtain ⟨_, s₁, hadmin, hrest₁⟩ := bind_eq_ok.mp hok
  obtain rfl : s₁ = s := Writes.store_eq inferInstance hadmin
  obtain ⟨sources, s₂, hread, hrest₂⟩ := bind_eq_ok.mp hrest₁
  obtain ⟨rfl, rfl⟩ := load_eq_ok.mp hread
  obtain ⟨_, s₃, hguard, hset⟩ := bind_eq_ok.mp hrest₂
  obtain ⟨-, rfl⟩ := panic_if_eq_ok.mp hguard
  rw [save_eq_ok] at hset
  let revoke (x : HealthSource) : HealthSource := if x.source_id = source_id then { x with trusted := false } else x
  have hrevoke (x : HealthSource) : (revoke x).source_id = x.source_id ∧ (revoke x).weight_bps = x.weight_bps := by
    by_cases hx : x.source_id = source_id
    · rw [show revoke x = { x with trusted := false } from if_pos hx]
      exact ⟨rfl, rfl⟩
    · rw [show revoke x = x from if_neg hx]
      exact ⟨rfl, rfl⟩
  have hlist : health_sources s' = (health_sources s₃).map revoke := by
    rw [health_sources, hset, Function.update_self, Option.getD_some]
    rfl
  refine ⟨?_, fun id => ?_, fun id asset_code => ?_, fun x hx => ?_⟩
  · rw [hlist, map_ids fun x => (hrevoke x).1]
    exact h.nodup
  · rw [hlist, find?_map_of_ids fun x => (hrevoke x).1, current_source_concat, SourceEvent.source, ← h.source]
    cases hold : (health_sources s₃).find? fun x => x.source_id = id with
    | none => split <;> rfl
    | some x =>
        have hid : x.source_id = id := source_id_of_find? hold
        by_cases heq : source_id = id
        · rw [if_pos heq, Option.map_some, Option.map_some,
            show revoke x = { x with trusted := false } from if_pos (hid.trans heq.symm)]
        · rw [if_neg heq, Option.map_some, show revoke x = x from if_neg fun hx => heq (hx.symm.trans hid)]
  · rw [hset, Function.update_of_ne (by simp), latest_entry_concat]
    exact h.entry id asset_code
  · rw [hlist] at hx
    obtain ⟨y, hy, rfl⟩ := List.mem_map.mp hx
    rw [(hrevoke y).2]
    exact h.positive y hy

theorem Sourced.submit {caller : Address} {source_id asset_code : SString}
    {health_score liquidity_score price_stability_score bridge_uptime_score : U32} {u : Unit} (h : Sourced s log)
    (hok : submit_health_multi_source caller source_id asset_code health_score liquidity_score price_stability_score
      bridge_uptime_score env s = .ok (u, s')) :
    Sourced s' (log ++ [.submitted
      { source_id, asset_code, health_score, liquidity_score, price_stability_score, bridge_uptime_score
        submitted_at := env.timestamp }]) := by
  obtain ⟨_, s₁, hpause, hrest₁⟩ := bind_eq_ok.mp hok
  obtain rfl : s₁ = s := Writes.store_eq inferInstance hpause
  obtain ⟨_, s₂, hpermission, hrest₂⟩ := bind_eq_ok.mp hrest₁
  obtain rfl : s₂ = s₁ := Writes.store_eq inferInstance hpermission
  obtain ⟨sources, s₃, hread, hrest₃⟩ := bind_eq_ok.mp hrest₂
  obtain ⟨rfl, rfl⟩ := load_eq_ok.mp hread
  obtain ⟨_, s₄, hguard, hrest₄⟩ := bind_eq_ok.mp hrest₃
  obtain ⟨-, rfl⟩ := panic_if_eq_ok.mp hguard
  obtain ⟨now, s₅, hnow, hrest₅⟩ := bind_eq_ok.mp hrest₄
  obtain ⟨rfl, rfl⟩ := reads_eq_ok.mp hnow
  obtain ⟨_, s₆, hset, hrest₆⟩ := bind_eq_ok.mp hrest₅
  rw [save_eq_ok] at hset
  have hframe := (inferInstance : Writes [Tag.EVENT_REPLAY_CTR, .EVENT_REPLAY_LOG, .ADMIN_ACTIVITY_CTR,
    .ADMIN_ACTIVITY_LOG] _).frame hrest₆
  have hlist : health_sources s' = health_sources s₅ := by
    rw [health_sources, hframe .HEALTH_SOURCES (by decide), hset, Function.update_of_ne (by simp), health_sources]
  refine ⟨?_, fun id => ?_, fun id asset => ?_, ?_⟩
  · rw [hlist]
    exact h.nodup
  · rw [hlist, current_source_concat]
    exact h.source id
  · rw [hframe _ (by simp [Tagged.tag, Key.tag]), hset, latest_entry_concat, SourceEvent.entry, ← h.entry]
    by_cases hsame : source_id = id ∧ asset_code = asset
    · obtain ⟨rfl, rfl⟩ := hsame
      rw [if_pos ⟨rfl, rfl⟩, Function.update_self]
    · rw [if_neg hsame, Function.update_of_ne]
      simp only [ne_eq, Key.HealthSourceEntry.injEq]
      exact fun heq => hsame ⟨heq.1.symm, heq.2.symm⟩
  · rw [hlist]
    exact h.positive

variable [Host]

theorem Sourced.step {t : Invocation} (h : Sourced s log) (hok : exec t.2 t.1 s = .ok ((), s')) :
    Sourced s' (log ++ source_events t) := by
  obtain ⟨env, call⟩ := t
  cases call with
  | register_health_source => exact h.register hok
  | revoke_health_source => exact h.revoke hok
  | submit_health_multi_source => exact h.submit hok
  | _ =>
      change Sourced s' (log ++ [])
      rw [List.append_nil]
      exact h.congr (exec_frame hok (by dsimp only [writes]; decide))
        fun _ _ => exec_frame hok (show Tag.HealthSourceEntry ∉ _ by dsimp only [writes]; decide)

/-- **Run.** The sources are as they were registered last, and the entries as they were submitted last. -/
theorem sourced_run (calls : List Invocation) : Sourced (run empty_storage calls) (source_log calls) := by
  have hcalls : Along exec (fun _ _ => True) empty_storage calls := Along.of_forall fun _ _ _ => trivial
  have h := run_collect_invariant (fun hs _ hok => Sourced.step hs hok) Sourced.empty hcalls
  rwa [List.nil_append] at h

end Runs

/-- The contributors are the trusted sources with their latest entry, each once. -/
structure Contributors (log : List SourceEvent) (asset_code : SString) (l : List Contribution) : Prop where
  nodup : (l.map fun c => c.1.source_id).Nodup
  mem_iff : ∀ c, c ∈ l ↔ current_source log c.1.source_id = some c.1 ∧ c.1.trusted = true ∧
    latest_entry log c.1.source_id asset_code = some c.2

theorem mem_iff_find? {sources : List HealthSource} (hnodup : (sources.map HealthSource.source_id).Nodup)
    (source : HealthSource) :
    source ∈ sources ↔ sources.find? (fun x => x.source_id = source.source_id) = some source := by
  constructor
  · intro hmem
    cases hfind : sources.find? fun x => x.source_id = source.source_id with
    | none => exact absurd (decide_eq_true rfl) (List.find?_eq_none.mp hfind source hmem)
    | some x =>
        have hid : x.source_id = source.source_id := source_id_of_find? hfind
        rw [List.inj_on_of_nodup_map hnodup (List.mem_of_find?_eq_some hfind) hmem hid]
  · exact List.mem_of_find?_eq_some

theorem Sourced.contributors {s : Storage} {log : List SourceEvent} (h : Sourced s log) (asset_code : SString) :
    Contributors log asset_code (Contract.contributors s asset_code) := by
  constructor
  · have hsub : ((Contract.contributors s asset_code).map fun c => c.1.source_id).Sublist
        ((health_sources s).map HealthSource.source_id) := by
      unfold Contract.contributors
      induction health_sources s with
      | nil => exact .slnil
      | cons source _ ih =>
          cases hc : contribution s asset_code source with
          | none =>
              rw [List.filterMap_cons_none hc, List.map_cons]
              exact ih.cons _
          | some =>
              rw [List.filterMap_cons_some hc, List.map_cons, List.map_cons, (contribution_eq_some.mp hc).2.1]
              exact ih.cons_cons _
    exact h.nodup.sublist hsub
  · intro c
    rw [Contract.contributors, List.mem_filterMap, ← h.source, ← h.entry, ← mem_iff_find? h.nodup]
    constructor
    · rintro ⟨source, hmem, hc⟩
      obtain ⟨htrusted, rfl, hentry⟩ := contribution_eq_some.mp hc
      exact ⟨hmem, htrusted, hentry⟩
    · rintro ⟨hmem, htrusted, hentry⟩
      exact ⟨c.1, hmem, contribution_eq_some.mpr ⟨htrusted, rfl, hentry⟩⟩

/-- **The aggregate after any run** is the true mean over the trusted sources' latest entries just when the
sums fit. -/
theorem aggregated_health_run [Host] (calls : List Invocation) (env : Env) (asset_code : SString) :
    Contributors (source_log calls) asset_code (contributors (run empty_storage calls) asset_code) ∧
      (TrueMean asset_code env (run empty_storage calls) ↔
        Fits (contributors (run empty_storage calls) asset_code)) :=
  ⟨(sourced_run calls).contributors asset_code, trueMean_iff (sourced_run calls).positive⟩

/-- Two sources with the largest weight and the largest score. -/
def two_large_sources : List Invocation :=
  [(mock_all_auths 1, .initialize_contract (test_address 1)),
    (mock_all_auths 2, .register_health_source (test_address 1) (str "a") 0xFFFFFFFF),
    (mock_all_auths 3, .register_health_source (test_address 1) (str "b") 0xFFFFFFFF),
    (mock_all_auths 4, .submit_health_multi_source (test_address 1) (str "a") (str "XLM") 0xFFFFFFFF 1 1 1),
    (mock_all_auths 5, .submit_health_multi_source (test_address 1) (str "b") (str "XLM") 0xFFFFFFFF 1 1 1)]

/-- The call panics on them. -/
theorem aggregated_health_overflow :
    let _ : Host := lengthHost
    ¬TrueMean (str "XLM") (mock_all_auths 6) (run empty_storage two_large_sources) ∧
      (contributors (run empty_storage two_large_sources) (str "XLM")).length = 2 := by
  intro host
  refine ⟨?_, by decide +kernel⟩
  rintro ⟨result, hok, -⟩
  have hpanic : returned (get_aggregated_health (str "XLM") (mock_all_auths 6)
      (run empty_storage two_large_sources)) = none := by decide +kernel
  rw [hok] at hpanic
  exact Option.some_ne_none _ hpanic

end BridgeWatch.Contract

/-
Alarms on deviations, in basis points.

Prices and supplies are compared by one computation, |a - b| * 10000 / b on `i128`. It is exact as long as the product
is an `i128`. A negative reference price makes the quotient negative, which is above no threshold, and a source supply
of zero is never compared at all.
-/
import BridgeWatch.OrderStatistics
import BridgeWatch.RetentionCleanup

set_option autoImplicit false

namespace BridgeWatch.Contract

open Transaction

variable {asset_code : SString} {env : Env} {s s' : Storage}

/-! ## The computation -/

theorem checked_i128_overflow {x : ℤ} (h : ¬(-2 ^ 127 ≤ x ∧ x < 2 ^ 127)) (msg : String) :
    checked_i128 x msg env s = .error msg := by
  have hpanic : (panic_if (x < -2 ^ 127 ∨ 2 ^ 127 ≤ x) msg : Soroban Unit) env s = .error msg := by
    unfold panic_if
    rw [if_pos (by omega)]
  exact bind_eq_error.mpr (.inl hpanic)

/-- The distance of two values, which is checked too. -/
def distance (a b : I128) : Soroban I128 := if b.toInt < a.toInt then sub_i128 a b else sub_i128 b a

theorem difference_bps_eq (a b : I128) :
    difference_bps a b = (do
      let diff ← distance a b
      let scaled ← mul_i128 diff 10000
      div_i128 scaled b) := by
  rw [difference_bps, distance]
  split <;> rfl

theorem distance_spec {a b : I128} (hfits : |a.toInt - b.toInt| < 2 ^ 127) :
    ∃ diff, distance a b env s = .ok (diff, s) ∧ diff.toInt = |a.toInt - b.toInt| := by
  rw [distance]
  split
  · next hlt =>
      rw [abs_of_pos (Int.sub_pos.mpr hlt)] at hfits ⊢
      exact checked_i128_of_fits (by omega) hfits _ env s
  · next hle =>
      rw [abs_sub_comm, abs_of_nonneg (by omega)] at hfits ⊢
      exact checked_i128_of_fits (by omega) hfits _ env s

theorem distance_overflow {a b : I128} (hover : ¬|a.toInt - b.toInt| < 2 ^ 127) :
    distance a b env s = .error "attempt to subtract with overflow" := by
  rw [distance]
  split
  · next hlt =>
      rw [abs_of_pos (Int.sub_pos.mpr hlt)] at hover
      exact checked_i128_overflow (by omega) _
  · next hle =>
      rw [abs_sub_comm, abs_of_nonneg (by omega)] at hover
      exact checked_i128_overflow (by omega) _

/-- **Exact**, when the product is an `i128`. -/
theorem difference_bps_spec {a b : I128} (hb : b ≠ 0) (hfits : |a.toInt - b.toInt| * 10000 < 2 ^ 127) :
    ∃ bps, difference_bps a b env s = .ok (bps, s) ∧ bps.toInt = (|a.toInt - b.toInt| * 10000).tdiv b.toInt := by
  have hnonneg := abs_nonneg (a.toInt - b.toInt)
  obtain ⟨diff, hdiff, hdistance⟩ : ∃ diff, distance a b env s = .ok (diff, s) ∧
      diff.toInt = |a.toInt - b.toInt| := distance_spec (by omega)
  have hfactor : (10000 : I128).toInt = 10000 := by decide
  obtain ⟨scaled, hscaled, hproduct⟩ := checked_i128_of_fits (x := diff.toInt * (10000 : I128).toInt)
    (by rw [hdistance, hfactor]; omega) (by rw [hdistance, hfactor]; exact hfits)
    "attempt to multiply with overflow" env s
  rw [hdistance, hfactor] at hproduct
  -- a quotient is no further from zero than what is divided
  have hquotient : -2 ^ 127 ≤ scaled.toInt.tdiv b.toInt ∧ scaled.toInt.tdiv b.toInt < 2 ^ 127 := by
    have habs := Int.natAbs_tdiv_le_natAbs scaled.toInt b.toInt
    rw [hproduct] at habs ⊢
    omega
  obtain ⟨bps, hbps, heq⟩ := checked_i128_of_fits hquotient.1 hquotient.2 "attempt to divide with overflow" env s
  refine ⟨bps, ?_, by rw [heq, hproduct]⟩
  have hdiv : div_i128 scaled b env s = .ok (bps, s) := by
    simp only [div_i128, bind_eq_ok, panic_if_eq_ok, exists_const]
    exact ⟨s, ⟨hb, rfl⟩, hbps⟩
  rw [difference_bps_eq]
  exact bind_eq_ok.mpr ⟨diff, s, hdiff, bind_eq_ok.mpr ⟨scaled, s, hscaled, hdiv⟩⟩

/-- **Else it panics**, in the subtraction or in the product. -/
theorem difference_bps_overflow {a b : I128} (hover : ¬|a.toInt - b.toInt| * 10000 < 2 ^ 127) :
    difference_bps a b env s = .error "attempt to subtract with overflow" ∨
      difference_bps a b env s = .error "attempt to multiply with overflow" := by
  rw [difference_bps_eq]
  by_cases hfits : |a.toInt - b.toInt| < 2 ^ 127
  · obtain ⟨diff, hdiff, hdistance⟩ : ∃ diff, distance a b env s = .ok (diff, s) ∧
        diff.toInt = |a.toInt - b.toInt| := distance_spec hfits
    have hfactor : (10000 : I128).toInt = 10000 := by decide
    have hscaled : mul_i128 diff 10000 env s = .error "attempt to multiply with overflow" :=
      checked_i128_overflow (by rw [hdistance, hfactor]; omega) _
    exact .inr (bind_eq_error.mpr (.inr ⟨diff, s, hdiff, bind_eq_error.mpr (.inl hscaled)⟩))
  · exact .inl (bind_eq_error.mpr (.inl (distance_overflow hfits)))

/-! ## Price deviations -/

/-- The highest level whose threshold is strictly below a deviation. -/
def exact_severity (threshold : DeviationThreshold) (bps : ℤ) : Option DeviationSeverity :=
  if threshold.high_bps.toInt < bps then some .High
  else if threshold.medium_bps.toInt < bps then some .Medium
  else if threshold.low_bps.toInt < bps then some .Low
  else none

/-- The levels in order, with none below them. -/
def severity_level : Option DeviationSeverity → ℕ
  | none => 0
  | some .Low => 1
  | some .Medium => 2
  | some .High => 3

theorem severity_level_mono (threshold : DeviationThreshold) {bps bps' : ℤ} (hle : bps ≤ bps') :
    severity_level (exact_severity threshold bps) ≤ severity_level (exact_severity threshold bps') := by
  unfold exact_severity
  split_ifs <;> simp only [severity_level] <;> omega

/-- The reference price and the thresholds are positive and in order. -/
structure Increasing (threshold : DeviationThreshold) : Prop where
  low : 0 < threshold.low_bps.toInt
  medium : threshold.low_bps.toInt < threshold.medium_bps.toInt
  high : threshold.medium_bps.toInt < threshold.high_bps.toInt

/-- What is asked of the check: it returns, and with the alert of the exact deviation. -/
def ExactDeviation (asset_code : SString) (current_price reference_price : I128) (threshold : DeviationThreshold)
    (env : Env) (s : Storage) : Prop :=
  ∃ alert s', check_price_deviation asset_code current_price env s = .ok (alert, s') ∧
    alert.map DeviationAlert.severity = exact_severity threshold
      (|current_price.toInt - reference_price.toInt| * 10000 / |reference_price.toInt|)

theorem check_price_deviation_spec {current_price : I128} {reference : PriceRecord} {threshold : DeviationThreshold}
    (hreference : s (.Price asset_code) = some reference) (hne : reference.price ≠ 0)
    (hthreshold : resolve_deviation_threshold asset_code env s = .ok (threshold, s'))
    (hfits : |current_price.toInt - reference.price.toInt| * 10000 < 2 ^ 127) :
    ∃ alert s', check_price_deviation asset_code current_price env s = .ok (alert, s') ∧
      alert.map DeviationAlert.severity = exact_severity threshold
        ((|current_price.toInt - reference.price.toInt| * 10000).tdiv reference.price.toInt) := by
  obtain ⟨bps, hbps, heq⟩ : ∃ bps, difference_bps current_price reference.price env s = .ok (bps, s) ∧ _ :=
    difference_bps_spec hne hfits
  have hseverity : deviation_severity threshold bps = exact_severity threshold bps.toInt := rfl
  rw [← heq, ← hseverity]
  have hreference' : (get (.Price asset_code) : Soroban _) env s = .ok (some reference, s) :=
    load_eq_ok.mpr ⟨hreference.symm, rfl⟩
  rw [check_price_deviation, bind_of_ok hreference', Option.elim_some, if_neg hne, bind_of_ok hbps,
    bind_of_ok hthreshold]
  cases deviation_severity threshold bps with
  | none => exact ⟨none, _, rfl, rfl⟩
  | some => exact ⟨some _, _, rfl, rfl⟩

theorem check_price_deviation_overflow {current_price : I128} {reference : PriceRecord}
    (hreference : s (.Price asset_code) = some reference) (hne : reference.price ≠ 0)
    (hover : ¬|current_price.toInt - reference.price.toInt| * 10000 < 2 ^ 127) :
    ∃ msg, check_price_deviation asset_code current_price env s = .error msg := by
  have hreference' : (get (.Price asset_code) : Soroban _) env s = .ok (some reference, s) :=
    load_eq_ok.mpr ⟨hreference.symm, rfl⟩
  have herror {msg : String} (h : difference_bps current_price reference.price env s = .error msg) :
      check_price_deviation asset_code current_price env s = .error msg := by
    rw [check_price_deviation, bind_of_ok hreference', Option.elim_some, if_neg hne]
    exact bind_eq_error.mpr (.inl h)
  rcases (difference_bps_overflow hover : difference_bps _ _ env s = _ ∨ difference_bps _ _ env s = _) with h | h
  · exact ⟨_, herror h⟩
  · exact ⟨_, herror h⟩

/-- The quotient of a distance by a negative price is not positive. -/
theorem exact_severity_of_nonpos {threshold : DeviationThreshold} (hthreshold : Increasing threshold) {bps : ℤ}
    (hbps : bps ≤ threshold.low_bps.toInt) : exact_severity threshold bps = none := by
  have hmedium := hthreshold.medium
  have hhigh := hthreshold.high
  rw [exact_severity, if_neg (by omega), if_neg (by omega), if_neg (by omega)]

theorem exact_severity_eq_none {threshold : DeviationThreshold} {bps : ℤ} (h : exact_severity threshold bps = none) :
    bps ≤ threshold.low_bps.toInt := by
  unfold exact_severity at h
  split_ifs at h
  omega

/-- **Price deviations.** -/
theorem check_price_deviation_exact {current_price : I128} {reference : PriceRecord} {threshold : DeviationThreshold}
    (hreference : s (.Price asset_code) = some reference) (hne : reference.price ≠ 0)
    (hresolve : resolve_deviation_threshold asset_code env s = .ok (threshold, s')) (hordered : Increasing threshold) :
    (ExactDeviation asset_code current_price reference.price threshold env s ↔
      |current_price.toInt - reference.price.toInt| * 10000 < 2 ^ 127 ∧
        (0 < reference.price.toInt ∨ |current_price.toInt - reference.price.toInt| * 10000 <
          (threshold.low_bps.toInt + 1) * |reference.price.toInt|)) ∧
      ∀ bps bps' : ℤ, bps ≤ bps' →
        severity_level (exact_severity threshold bps) ≤ severity_level (exact_severity threshold bps') := by
  refine ⟨?_, fun bps bps' => severity_level_mono threshold⟩
  have hzero : reference.price.toInt ≠ 0 := fun h => hne (BitVec.eq_of_toInt_eq h)
  have hnonneg := abs_nonneg (current_price.toInt - reference.price.toInt)
  by_cases hfits : |current_price.toInt - reference.price.toInt| * 10000 < 2 ^ 127
  · rw [and_iff_right hfits]
    obtain ⟨alert, s₁, hok, hseverity⟩ := check_price_deviation_spec hreference hne hresolve hfits
    have hiff : ExactDeviation asset_code current_price reference.price threshold env s ↔
        exact_severity threshold
            ((|current_price.toInt - reference.price.toInt| * 10000).tdiv reference.price.toInt) =
          exact_severity threshold
            (|current_price.toInt - reference.price.toInt| * 10000 / |reference.price.toInt|) := by
      rw [← hseverity]
      constructor
      · rintro ⟨alert', s₂, hok', hexact⟩
        rw [hok] at hok'
        cases hok'
        exact hexact
      · exact fun hexact => ⟨alert, s₁, hok, hexact⟩
    rw [hiff]
    rcases hzero.lt_or_gt with hneg | hpos
    · -- the quotient is not positive, so there is no alert
      have hquotient : (|current_price.toInt - reference.price.toInt| * 10000).tdiv reference.price.toInt ≤ 0 :=
        Int.tdiv_nonpos_of_nonneg_of_nonpos (by omega) hneg.le
      rw [exact_severity_of_nonpos hordered (hquotient.trans hordered.low.le),
        or_iff_right (not_lt.mpr hneg.le), ← Int.ediv_lt_iff_lt_mul (abs_pos.mpr hzero), Int.lt_add_one_iff]
      exact ⟨fun h => exact_severity_eq_none h.symm, fun h => (exact_severity_of_nonpos hordered h).symm⟩
    · rw [abs_of_pos hpos, Int.tdiv_eq_ediv_of_nonneg (by omega)]
      exact iff_of_true rfl (.inl hpos)
  · refine iff_of_false ?_ fun h => hfits h.1
    rintro ⟨alert, s₁, hok, -⟩
    obtain ⟨msg, herror⟩ := check_price_deviation_overflow hreference hne hfits
    rw [hok] at herror
    cases herror

/-- The store after a submitter has reported a price. -/
def reported_price (price : I128) : Storage :=
  @run lengthHost empty_storage
    [(mock_all_auths 1, .initialize_contract (test_address 0)),
      (mock_all_auths 2, .register_asset (test_address 0) (str "XLM")),
      (mock_all_auths 3, .submit_price (test_address 0) (str "XLM") price (str "dex"))]

/-- A fall from 100 to 80 under the default thresholds. -/
theorem check_price_deviation_exact_fall :
    ∃ (reference : PriceRecord) (threshold : DeviationThreshold) (s' : Storage),
      reported_price 100 (.Price (str "XLM")) = some reference ∧ reference.price ≠ 0 ∧
        resolve_deviation_threshold (str "XLM") (mock_all_auths 4) (reported_price 100) = .ok (threshold, s') ∧
        Increasing threshold ∧
        ExactDeviation (str "XLM") 80 reference.price threshold (mock_all_auths 4) (reported_price 100) := by
  obtain ⟨s', hresolve⟩ : ∃ s', resolve_deviation_threshold (str "XLM") (mock_all_auths 4) (reported_price 100) =
      .ok (default_deviation_threshold, s') := exists_of_returned (by decide +kernel)
  have hreference : reported_price 100 (.Price (str "XLM")) = some
      { asset_code := str "XLM", price := 100, source := str "dex", timestamp := 3, expires_at := 3603 } := by
    decide +kernel
  have hordered : Increasing default_deviation_threshold := ⟨by decide, by decide, by decide⟩
  have hne : (100 : I128) ≠ 0 := by decide
  have hexact : ExactDeviation (str "XLM") 80 _ _ _ _ ↔ _ :=
    (check_price_deviation_exact hreference hne hresolve hordered).1
  have hreturns := hexact.mpr ⟨by decide, .inl (by decide)⟩
  exact ⟨_, _, s', hreference, hne, hresolve, hordered, hreturns⟩

/-- A price of -100 can be reported. No deviation from it raises an alert, not even one of 110000 basis points. -/
theorem negative_reference_raises_no_alert :
    (reported_price (-100) (.Price (str "XLM"))).map PriceRecord.price = some (-100) ∧
      returned (resolve_deviation_threshold (str "XLM") (mock_all_auths 4) (reported_price (-100))) =
        some default_deviation_threshold ∧
      returned (check_price_deviation (str "XLM") 1000 (mock_all_auths 4) (reported_price (-100))) = some none ∧
      exact_severity default_deviation_threshold
        (|(1000 : I128).toInt - (-100 : I128).toInt| * 10000 / |(-100 : I128).toInt|) = some .High :=
  ⟨by decide +kernel, by decide +kernel, by decide +kernel, by decide +kernel⟩

/-! ## Supply mismatches -/

/-- What the arithmetic on the supplies panics with. -/
def supply_overflows : List String :=
  ["attempt to subtract with overflow", "attempt to multiply with overflow", "attempt to divide by zero",
    "attempt to divide with overflow"]

/-- What else the call panics with: its guards, and the counts and times of the automatic cleanup. -/
abbrev guard_texts : List String :=
  ["contract is globally paused; all write operations are halted", "bridge is blacklisted",
    "called `Option::unwrap()` on a `None` value", "Error(Auth, InvalidAction)", "attempt to add with overflow"]

theorem guard_texts_disjoint : ∀ text ∈ guard_texts, text ∉ supply_overflows := by decide

section Guards

variable {msg : String} [hmsg : Among msg supply_overflows]

instance (text : String) [h : Among text guard_texts] : Differs text msg :=
  ⟨fun heq => guard_texts_disjoint text h.mem (heq ▸ hmsg.mem)⟩

/-- `m` does not panic with the overflow of a supply. -/
abbrev Unmoved (msg : String) {α : Type} (m : Soroban α) : Prop := Avoids msg (fun _ => True) m

/-- Found before the parts of `m` are looked at. -/
instance (priority := 2000) {α : Type} (m : Soroban α) : Preserves (fun _ => True) m := ⟨fun _ _ => trivial⟩

instance : Unmoved msg assert_not_globally_paused := by
  unfold assert_not_globally_paused
  infer_instance

instance (bridge_id : SString) : Unmoved msg (bridge_is_blacklisted bridge_id) := by
  unfold bridge_is_blacklisted
  infer_instance

instance (asset_code : SString) : Unmoved msg (resolve_mismatch_threshold_bps asset_code) := by
  unfold resolve_mismatch_threshold_bps load_active_mismatch_threshold_override
  infer_instance

instance (kind : ExpirationKind) (timestamp : U64) : Unmoved msg (resolve_expiration kind timestamp) := by
  unfold resolve_expiration load_expiration_policy
  infer_instance

instance (bridge_id : SString) : Unmoved msg (add_bridge_id bridge_id) := by
  unfold add_bridge_id
  infer_instance

instance {α : Type} (now : U64) (max_deletions : U32) (retention_secs : α → Soroban U64) (created_at : α → U64)
    (delete : α → Soroban Unit) [∀ record, Unmoved msg (retention_secs record)] [∀ record, Unmoved msg (delete record)]
    (deleted : U32) (records : List α) :
    Unmoved msg (sweep now max_deletions retention_secs created_at delete deleted records) := by
  induction records generalizing deleted with
  | nil | cons =>
      unfold sweep
      infer_instance

instance {α : Type} (data_type : RetentionDataType) (asset_code : α → SString) (created_at : α → U64)
    (load : SString → Soroban (List α)) (store archive : SString → List α → Soroban Unit) (policy : RetentionPolicy)
    (max_deletions : U32) (ids : List SString) [∀ id, Unmoved msg (load id)]
    [∀ id records, Unmoved msg (store id records)] [∀ id records, Unmoved msg (archive id records)] :
    Unmoved msg (cleanup_lists data_type asset_code created_at load store archive policy max_deletions ids) := by
  unfold cleanup_lists resolve_retention_secs
  infer_instance

instance (bridge_id : SString) : Unmoved msg (load_mismatches bridge_id) := by
  unfold load_mismatches
  infer_instance

instance (bridge_id : SString) (removed : List SupplyMismatch) :
    Unmoved msg (archive_mismatches bridge_id removed) := by
  unfold archive_mismatches
  infer_instance

instance (pair : SString) : Unmoved msg (load_liquidity_history pair) := by
  unfold load_liquidity_history
  infer_instance

instance (pair : SString) (removed : List LiquidityDepth) : Unmoved msg (archive_liquidity_history pair removed) := by
  unfold archive_liquidity_history
  infer_instance

instance (policy : RetentionPolicy) (max_deletions : U32) :
    Unmoved msg (cleanup_supply_mismatches policy max_deletions) := by
  unfold cleanup_supply_mismatches
  infer_instance

instance (policy : RetentionPolicy) (max_deletions : U32) :
    Unmoved msg (cleanup_liquidity_history policy max_deletions) := by
  unfold cleanup_liquidity_history
  infer_instance

instance (policy : RetentionPolicy) (max_deletions : U32) :
    Unmoved msg (cleanup_checkpoints policy max_deletions) := by
  unfold cleanup_checkpoints load_checkpoint_metadata archive_checkpoint_metadata delete_checkpoint
  infer_instance

instance (data_type : RetentionDataType) (policy : RetentionPolicy) (max_deletions : U32) :
    Unmoved msg (cleanup_data_type_internal data_type policy max_deletions) := by
  unfold cleanup_data_type_internal cleanup_of
  cases data_type <;> dsimp only <;> infer_instance

instance (data_type : RetentionDataType) : Unmoved msg (load_retention_policy data_type) := by
  unfold load_retention_policy
  infer_instance

instance (x y : U32) : Unmoved msg (add_u32 x y) := by
  unfold add_u32
  infer_instance

instance (now last interval_secs : U64) : Unmoved msg (within_interval now last interval_secs) := by
  unfold within_interval add_u64
  infer_instance

set_option synthInstance.maxSize 2000 in
instance : Unmoved msg maybe_trigger_auto_cleanup := by
  unfold maybe_trigger_auto_cleanup
  infer_instance

end Guards

/-- What is asked of a call: the supplies do not overflow, and the newest record of the bridge is exact. -/
structure MismatchFlagged (bridge_id asset_code : SString) (stellar_supply source_chain_supply threshold_bps : I128)
    (env : Env) (s : Storage) : Prop where
  arithmetic : ∀ msg,
    record_supply_mismatch bridge_id asset_code stellar_supply source_chain_supply env s = .error msg →
      msg ∉ supply_overflows
  critical : ∀ s', record_supply_mismatch bridge_id asset_code stellar_supply source_chain_supply env s = .ok ((), s') →
    ∃ record, (mismatches s' bridge_id).getLast? = some record ∧ record.stellar_supply = stellar_supply ∧
      record.source_chain_supply = source_chain_supply ∧
      (record.is_critical = true ↔
        threshold_bps.toInt * source_chain_supply.toInt ≤ |stellar_supply.toInt - source_chain_supply.toInt| * 10000 ∧
          ¬(stellar_supply.toInt = 0 ∧ source_chain_supply.toInt = 0))

/-- The deviation that a record carries. -/
def mismatch_bps (stellar_supply source_chain_supply : I128) : Soroban I128 :=
  if 0 < source_chain_supply.toInt then difference_bps stellar_supply source_chain_supply else pure 0

/-- What is left of a call once the deviation is known. -/
def store_mismatch (bridge_id asset_code : SString) (stellar_supply source_chain_supply mismatch_bps : I128) :
    Soroban Unit := do
  let threshold_bps ← resolve_mismatch_threshold_bps asset_code
  let now ← timestamp
  let expires_at ← resolve_expiration .Mismatch now
  let record : SupplyMismatch :=
    { bridge_id := bridge_id
      asset_code := asset_code
      stellar_supply := stellar_supply
      source_chain_supply := source_chain_supply
      mismatch_bps := mismatch_bps
      is_critical := threshold_bps.toInt ≤ mismatch_bps.toInt
      timestamp := now
      expires_at := expires_at }
  let mismatches ← load_mismatches bridge_id
  set (.Mismatches bridge_id) (mismatches ++ [record])
  add_bridge_id bridge_id
  maybe_trigger_auto_cleanup

theorem record_supply_mismatch_eq (bridge_id asset_code : SString) (stellar_supply source_chain_supply : I128) :
    record_supply_mismatch bridge_id asset_code stellar_supply source_chain_supply = (do
      assert_not_globally_paused
      let blacklisted ← bridge_is_blacklisted bridge_id
      panic_if (blacklisted = true) "bridge is blacklisted"
      let admin ← get_admin
      require_auth admin
      let bps ← mismatch_bps stellar_supply source_chain_supply
      store_mismatch bridge_id asset_code stellar_supply source_chain_supply bps) := by
  unfold record_supply_mismatch mismatch_bps
  split <;> rfl

instance {msg : String} [Among msg supply_overflows] (bridge_id asset_code : SString) (a b bps : I128) :
    Unmoved msg (store_mismatch bridge_id asset_code a b bps) := by
  unfold store_mismatch
  infer_instance

/-- The record goes to the end of the list, and stays there. -/
theorem store_mismatch_spec {bridge_id : SString} {a b bps threshold_bps : I128} {s₁ : Storage}
    (hresolve : resolve_mismatch_threshold_bps asset_code env s = .ok (threshold_bps, s₁))
    (h : store_mismatch bridge_id asset_code a b bps env s = .ok ((), s')) :
    ∃ record, (mismatches s' bridge_id).getLast? = some record ∧ record.stellar_supply = a ∧
      record.source_chain_supply = b ∧ record.is_critical = decide (threshold_bps.toInt ≤ bps.toInt) := by
  rw [store_mismatch, bind_of_ok hresolve] at h
  obtain ⟨now, s₂, hnow, h⟩ := bind_eq_ok.mp h
  obtain ⟨expires_at, s₃, hexpires, h⟩ := bind_eq_ok.mp h
  obtain ⟨before, s₄, hload, h⟩ := bind_eq_ok.mp h
  obtain ⟨u, s₅, hset, h⟩ := bind_eq_ok.mp h
  obtain ⟨u', s₆, hadd, hcleanup⟩ := bind_eq_ok.mp h
  obtain ⟨hstored, -, -⟩ := store_mismatches_ok hset
  have hnewest : NewestMismatch bridge_id _ s₅ := congrArg List.getLast? (congrFun hstored bridge_id)
  have hadded := ((inferInstance : Writes [Tag.BRIDGE_IDS] (add_bridge_id bridge_id)).preserves (by decide)).preserved
    hnewest hadd
  have hlast : (mismatches s' bridge_id).getLast? = _ :=
    (inferInstance : Preserves (NewestMismatch bridge_id _) maybe_trigger_auto_cleanup).preserved hadded hcleanup
  rw [Function.update_self, List.getLast?_concat] at hlast
  exact ⟨_, hlast, rfl, rfl, rfl⟩

theorem mismatch_flagged_of_fits {bridge_id : SString} {a b threshold_bps : I128} {s₁ : Storage}
    (hb : 0 ≤ b.toInt) (hthreshold : 0 < threshold_bps.toInt)
    (hresolve : resolve_mismatch_threshold_bps asset_code env s = .ok (threshold_bps, s₁))
    (hfits : 0 < b.toInt → |a.toInt - b.toInt| * 10000 < 2 ^ 127) (hzero : b.toInt = 0 → a.toInt = 0) :
    MismatchFlagged bridge_id asset_code a b threshold_bps env s := by
  have hbps : ∃ bps, (∀ s, mismatch_bps a b env s = .ok (bps, s)) ∧
      (threshold_bps.toInt ≤ bps.toInt ↔
        threshold_bps.toInt * b.toInt ≤ |a.toInt - b.toInt| * 10000 ∧ ¬(a.toInt = 0 ∧ b.toInt = 0)) := by
    rcases hb.eq_or_lt with hnone | hpos
    · refine ⟨0, fun s => ?_, ?_⟩
      · rw [mismatch_bps, if_neg (by omega)]
        rfl
      · have hnil : (0 : I128).toInt = 0 := by decide
        rw [hnil]
        exact iff_of_false (not_le.mpr hthreshold) fun h => h.2 ⟨hzero hnone.symm, hnone.symm⟩
    · have hne : b ≠ 0 := fun h => by
        rw [h] at hpos
        exact absurd hpos (by decide)
      have hspec (s : Storage) : ∃ bps, difference_bps _ _ env s = .ok (bps, s) ∧ _ :=
        difference_bps_spec hne (hfits hpos)
      obtain ⟨bps, -, heq⟩ := hspec s
      refine ⟨bps, fun s => ?_, ?_⟩
      · obtain ⟨bps', hok, heq'⟩ := hspec s
        rw [mismatch_bps, if_pos hpos, hok, BitVec.eq_of_toInt_eq (heq'.trans heq.symm)]
      · have hnonneg := abs_nonneg (a.toInt - b.toInt)
        rw [heq, Int.tdiv_eq_ediv_of_nonneg (by omega), Int.le_ediv_iff_mul_le hpos]
        exact (and_iff_left fun h => hpos.ne' h.2).symm
  obtain ⟨bps, hbps, hcritical⟩ := hbps
  constructor
  · intro msg herror hmsg
    have : Among msg supply_overflows := ⟨hmsg⟩
    rw [record_supply_mismatch_eq] at herror
    obtain ⟨-, s₂, -, herror⟩ := Avoids.of_bind_eq_error (I := fun _ => True) trivial herror
    obtain ⟨blacklisted, s₃, -, herror⟩ := Avoids.of_bind_eq_error (I := fun _ => True) trivial herror
    obtain ⟨-, s₄, -, herror⟩ := Avoids.of_bind_eq_error (I := fun _ => True) trivial herror
    obtain ⟨admin, s₅, -, herror⟩ := Avoids.of_bind_eq_error (I := fun _ => True) trivial herror
    obtain ⟨-, s₆, -, herror⟩ := Avoids.of_bind_eq_error (I := fun _ => True) trivial herror
    rw [bind_of_ok (hbps _)] at herror
    exact (inferInstance : Unmoved msg (store_mismatch bridge_id asset_code a b bps)).ne_error trivial herror
  · intro s' h
    simp only [record_supply_mismatch_eq, assert_not_globally_paused, bridge_is_blacklisted, bind_eq_ok, load_eq_ok,
      panic_if_eq_ok, expect_eq_ok, reads_eq_ok, pure_eq_ok, and_assoc, exists_and_left, exists_eq_left,
      exists_const] at h
    obtain ⟨-, -, admin, -, -, bps', s₂, hsame, hstore⟩ := h
    rw [hbps] at hsame
    cases hsame
    obtain ⟨record, hlast, hstellar, hsource, hflag⟩ := store_mismatch_spec hresolve hstore
    refine ⟨record, hlast, hstellar, hsource, ?_⟩
    rw [hflag, decide_eq_true_iff, hcritical]

/-- A contract with a threshold and without automatic cleanup. -/
def quiet_store (threshold_bps : I128) : Storage
  | .ADMIN => some (test_address 0)
  | .MISMATCH_THRESHOLD => some threshold_bps
  | .RetPolicy data_type => some { default_retention_policy data_type with enabled := false }
  | _ => none

theorem auto_cleanup_disabled
    (h : ∀ data_type, ∃ policy, s (.RetPolicy data_type) = some policy ∧ policy.enabled = false) :
    maybe_trigger_auto_cleanup env s = .ok ((), s) := by
  rw [maybe_trigger_auto_cleanup, bind_of_ok (rfl : timestamp env s = .ok (env.timestamp, s)),
    bind_of_ok (foldlM_of_forall (g := fun totals _ => totals) ?_ (0, 0))]
  · rfl
  · intro data_type _ totals
    obtain ⟨policy, hpolicy, hdisabled⟩ := h data_type
    have hload : load_retention_policy data_type env s = .ok (policy, s) := by
      simp only [load_retention_policy, bind_eq_ok, load_eq_ok, pure_eq_ok, and_assoc, exists_and_left, exists_eq_left,
        hpolicy, Option.getD_some, true_and]
    rw [bind_of_ok hload, if_pos hdisabled]
    rfl

/-- On that contract the guards let the call through. -/
theorem quiet_store_guards (bridge_id asset_code : SString) (a b threshold_bps : I128) :
    record_supply_mismatch bridge_id asset_code a b (mock_all_auths 0) (quiet_store threshold_bps) =
      (do
        let bps ← mismatch_bps a b
        store_mismatch bridge_id asset_code a b bps : Soroban Unit) (mock_all_auths 0) (quiet_store threshold_bps) := by
  rw [record_supply_mismatch_eq]
  rfl

theorem quiet_store_returns (bridge_id asset_code : SString) (a b bps threshold_bps : I128) :
    ∃ s', store_mismatch bridge_id asset_code a b bps (mock_all_auths 0) (quiet_store threshold_bps) =
      .ok ((), s') := by
  have hresolve : resolve_mismatch_threshold_bps asset_code (mock_all_auths 0) (quiet_store threshold_bps) =
      .ok (threshold_bps, quiet_store threshold_bps) := rfl
  have hload : load_mismatches bridge_id (mock_all_auths 0) (quiet_store threshold_bps) =
      .ok ([], quiet_store threshold_bps) := rfl
  rw [store_mismatch, bind_of_ok hresolve, bind_of_ok (rfl : timestamp _ _ = .ok _),
    bind_of_ok (rfl : resolve_expiration _ _ _ _ = .ok _), bind_of_ok hload,
    bind_of_ok ((save_eq_ok (u := ())).mpr rfl)]
  have hadds (o : Option (List SupplyMismatch)) : FailsOnly (fun _ => False) (add_bridge_id bridge_id)
      (mock_all_auths 0) (Function.update (quiet_store threshold_bps) (.Mismatches bridge_id) o) := by
    simp [add_bridge_id]
  obtain ⟨u, s₁, hadd⟩ := (hadds (some _)).succeeds
  refine ⟨s₁, ?_⟩
  rw [bind_of_ok hadd]
  refine auto_cleanup_disabled fun data_type => ?_
  have hframe := (inferInstance : Writes [Tag.BRIDGE_IDS] (add_bridge_id bridge_id)).frame hadd (.RetPolicy data_type)
    (show Tag.RetPolicy ∉ _ by decide)
  have hne : Key.RetPolicy data_type ≠ Key.Mismatches bridge_id := by simp
  rw [Function.update_of_ne hne] at hframe
  exact ⟨_, hframe, rfl⟩

/-- **Supply mismatches.** -/
theorem record_supply_mismatch_exact {stellar_supply source_chain_supply threshold_bps : I128}
    (hsource : 0 ≤ source_chain_supply.toInt) (hthreshold : 0 < threshold_bps.toInt) :
    (∀ bridge_id asset_code env s s₁,
      resolve_mismatch_threshold_bps asset_code env s = .ok (threshold_bps, s₁) →
        MismatchFlagged bridge_id asset_code stellar_supply source_chain_supply threshold_bps env s) ↔
      (0 < source_chain_supply.toInt → |stellar_supply.toInt - source_chain_supply.toInt| * 10000 < 2 ^ 127) ∧
        (source_chain_supply.toInt = 0 → stellar_supply.toInt = 0) := by
  constructor
  · intro h
    have hcall := h [] [] (mock_all_auths 0) (quiet_store threshold_bps) _ rfl
    constructor
    · intro hpos
      by_contra hover
      have hbps : difference_bps _ _ (mock_all_auths 0) (quiet_store threshold_bps) = _ ∨
          difference_bps _ _ (mock_all_auths 0) (quiet_store threshold_bps) = _ := difference_bps_overflow hover
      have herror {msg : String} (hmsg : difference_bps stellar_supply source_chain_supply (mock_all_auths 0)
          (quiet_store threshold_bps) = .error msg) : msg ∉ supply_overflows := by
        refine hcall.arithmetic msg ?_
        rw [quiet_store_guards]
        refine bind_eq_error.mpr (.inl ?_)
        rwa [mismatch_bps, if_pos hpos]
      rcases hbps with hmsg | hmsg
      · exact herror hmsg (by decide)
      · exact herror hmsg (by decide)
    · intro hzero
      by_contra hne
      have hbps : mismatch_bps stellar_supply source_chain_supply (mock_all_auths 0) (quiet_store threshold_bps) =
          .ok (0, quiet_store threshold_bps) := by
        rw [mismatch_bps, if_neg (by omega)]
        rfl
      obtain ⟨s', hstore⟩ := quiet_store_returns [] [] stellar_supply source_chain_supply 0 threshold_bps
      obtain ⟨record, hlast, -, -, hcritical⟩ := hcall.critical s' (by rw [quiet_store_guards, bind_of_ok hbps, hstore])
      obtain ⟨record', hlast', -, -, hflag⟩ := store_mismatch_spec rfl hstore
      obtain rfl : record = record' := Option.some.inj (hlast.symm.trans hlast')
      -- nothing is a deviation of zero
      have hnil : (0 : I128).toInt = 0 := by decide
      rw [hflag, decide_eq_true_iff, hnil, hzero, Int.mul_zero, Int.sub_zero] at hcritical
      have habs := abs_nonneg stellar_supply.toInt
      exact absurd (hcritical.mpr ⟨by omega, fun h => hne h.1⟩) (not_le.mpr hthreshold)
  · rintro ⟨hfits, hzero⟩ bridge_id asset_code env s s₁ hresolve
    exact mismatch_flagged_of_fits hsource hthreshold hresolve hfits hzero

/-- Three more on one chain than on the other, under the default threshold. -/
theorem record_supply_mismatch_exact_three :
    0 ≤ (1000 : I128).toInt ∧ 0 < (10 : I128).toInt ∧
      ∀ bridge_id asset_code env s s₁,
        resolve_mismatch_threshold_bps asset_code env s = .ok (10, s₁) →
          MismatchFlagged bridge_id asset_code 1003 1000 10 env s := by
  have hfits : |(1003 : I128).toInt - (1000 : I128).toInt| * 10000 < 2 ^ 127 := by decide
  have hzero : (1000 : I128).toInt ≠ 0 := by decide
  exact ⟨by decide, by decide, (record_supply_mismatch_exact (by decide) (by decide)).mpr
    ⟨fun _ => hfits, fun h => absurd h hzero⟩⟩

/-- A contract without a source supply, under the default threshold. -/
def unbacked_store : Storage :=
  @run lengthHost empty_storage
    [(mock_all_auths 1, .initialize_contract (test_address 0)),
      (mock_all_auths 2, .record_supply_mismatch (str "Circle") (str "USDC") 1000000 0)]

/-- A million in circulation that nothing backs is not critical. -/
theorem unbacked_supply_not_critical :
    (mismatches unbacked_store (str "Circle")).map
        (fun record => (record.stellar_supply, record.source_chain_supply, record.mismatch_bps, record.is_critical)) =
      [(1000000, 0, 0, false)] := by
  decide +kernel

end BridgeWatch.Contract

/-
What the calls of the reputation system do.

Most calls change the reputation of one entity, and then its entry on the leaderboard; a report changes the reputation
alone, and a decay goes over the leaderboards and changes one entity after the other. A grant of a reward never returns:
before it ends, the history that it has put in the place of the reputation is read as a reputation.
-/
import BridgeWatch.ReputationSystem

set_option autoImplicit false

namespace BridgeWatch.ReputationSystem

open Transaction CheckedIntegers
open Contract (U32 U64 SString Address str saturating_sub_u32)

variable {env : Ledger} {s s' : ReputationStorage} {a : Address} {u : Unit} {data : ReputationData}

/-- The entries for the entities of one type. -/
def board (s : ReputationStorage) (entity_type : EntityType) : List LeaderboardEntry :=
  (s (.ReputationLeaderboard entity_type)).getD []

/-- The entry that an entity should have. -/
def ReputationData.entry (data : ReputationData) (entity_address : Address) : LeaderboardEntry :=
  { entity_address, score := data.overall_score, badge_level := data.badge_level,
    total_operations := data.total_operations }

/-- The key is one of a reputation or of a leaderboard. -/
def DataKey.scores : DataKey → Bool
  | .Reputation _ => true
  | .ReputationLeaderboard _ => true
  | _ => false

/-- The key is one of a slash, an appeal, or the rules that these and the reports follow. -/
def DataKey.notes : DataKey → Bool
  | .Config => true
  | .AppealPolicy => true
  | .LastSlash _ => true
  | .Appeal _ => true
  | _ => false

/-- The reputation of an entity becomes `data`, and nobody else's changes. -/
structure Written (a : Address) (data : ReputationData) (s s' : ReputationStorage) : Prop where
  reputation : s' (.Reputation a) = some (.data data)
  others : ∀ b, b ≠ a → s' (.Reputation b) = s (.Reputation b)

/-- The same, and its entry follows. -/
structure Saved (a : Address) (data : ReputationData) (s s' : ReputationStorage) : Prop
    extends Written a data s s' where
  entry : Puts (data.entry a) (board s data.entity_type) (board s' data.entity_type)
  boards : ∀ t, t ≠ data.entity_type → board s' t = board s t

/-! ## One entry -/

theorem update_leaderboard_internal_of_ok {score : U32} {badge_level : BadgeLevel}
    (h : update_leaderboard_internal a score badge_level env s = .ok (u, s')) :
    ∃ data entries, s (.Reputation a) = some (.data data) ∧
      Puts ⟨a, score, badge_level, data.total_operations⟩ (board s data.entity_type) entries ∧
      s' = Function.update s (.ReputationLeaderboard data.entity_type) (some entries) := by
  simp only [update_leaderboard_internal, bind_eq_ok, unwrapped_data_eq_ok, load_eq_ok, save_eq_ok, and_assoc,
    exists_and_left, exists_eq_left] at h
  obtain ⟨data, hdata, entries, s₁, hput, rfl⟩ := h
  obtain ⟨hput, rfl⟩ := put_entry_of_ok hput
  exact ⟨data, entries, hdata, hput, rfl⟩

/-- The end of the calls that change one reputation: `s₁` has the new one, and the entry is brought up to date. -/
theorem saved_of_update {s₁ : ReputationStorage} (data : ReputationData)
    (hreputation : s₁ (.Reputation a) = some (.data data))
    (hframe : ∀ key, DataKey.scores key = true → key ≠ .Reputation a → s₁ key = s key)
    (h : update_leaderboard_internal a data.overall_score data.badge_level env s₁ = .ok (u, s')) :
    Saved a data s s' ∧ ∀ key, DataKey.notes key = true → s' key = s₁ key := by
  obtain ⟨stored, entries, hstored, hput, rfl⟩ := update_leaderboard_internal_of_ok h
  obtain rfl : data = stored := by
    rw [hreputation, Option.some.injEq, StoredReputation.data.injEq] at hstored
    exact hstored
  have hboard (t : EntityType) : board s₁ t = board s t := by
    rw [board, hframe _ rfl (by simp), board]
  refine ⟨⟨⟨?_, fun b hb => ?_⟩, ?_, fun t ht => ?_⟩, fun key hkey => ?_⟩
  · rw [Function.update_of_ne (by simp), hreputation]
  · rw [Function.update_of_ne (by simp), hframe _ rfl (by simpa using hb)]
  · have hentries : board (Function.update s₁ (.ReputationLeaderboard data.entity_type) (some entries))
        data.entity_type = entries := by rw [board, Function.update_self, Option.getD_some]
    rw [← hboard, hentries]
    exact hput
  · rw [← hboard, board, Function.update_of_ne (by simpa using ht), board]
  · refine Function.update_of_ne ?_ ..
    rintro rfl
    cases hkey

/-! ## Scores -/

/-- The share of the disputes that were won, when nothing overflows. -/
def dispute_share (report : Report) : U32 :=
  if report.disputes_won + report.disputes_lost = 0 then 7500
  else report.disputes_won * REPUTATION_SCALE / (report.disputes_won + report.disputes_lost)

/-- The factors after a report. -/
def ReputationFactors.after (factors : ReputationFactors) (report : Report) : ReputationFactors :=
  smoothed_factors factors report (dispute_share report)

/-- No factor is above the scale. -/
structure ReputationFactors.Bounded (factors : ReputationFactors) : Prop where
  accuracy : factors.accuracy_score ≤ REPUTATION_SCALE
  uptime : factors.uptime_score ≤ REPUTATION_SCALE
  response_time : factors.response_time_score ≤ REPUTATION_SCALE
  dispute_history : factors.dispute_history_score ≤ REPUTATION_SCALE

theorem scale_toNat : REPUTATION_SCALE.toNat = 10000 := rfl

theorem le_scale_iff {x : U32} : x ≤ REPUTATION_SCALE ↔ x.toNat ≤ 10000 := UInt32.le_iff_toNat_le

theorem min_le_scale (x : U32) : min x REPUTATION_SCALE ≤ REPUTATION_SCALE := by
  show (if x ≤ REPUTATION_SCALE then x else REPUTATION_SCALE) ≤ REPUTATION_SCALE
  split
  · assumption
  · exact UInt32.le_refl _

theorem dispute_score_of_ok {report : Report} {share : U32}
    (h : dispute_score report.disputes_won report.disputes_lost env s = .ok (share, s')) :
    share = dispute_share report ∧ share ≤ REPUTATION_SCALE ∧ s' = s := by
  simp only [dispute_score, add_u32, bind_eq_ok, host_apply, HostCalls.checked_add_u32_eq_ok, ite_eq_ok, pure_eq_ok,
    mul_u32_eq_ok, and_assoc, exists_and_left, exists_eq_left] at h
  obtain ⟨hsum, ⟨hzero, rfl, rfl⟩ | ⟨hne, hproduct, rfl, rfl⟩⟩ := h
  · exact ⟨(if_pos hzero).symm, by decide, rfl⟩
  · refine ⟨(if_neg hne).symm, ?_, rfl⟩
    rw [le_scale_iff, UInt32.toNat_div, UInt32.toNat_mul, UInt32.toNat_add, Nat.mod_eq_of_lt hproduct,
      Nat.mod_eq_of_lt hsum, scale_toNat]
    have hmul : report.disputes_won.toNat * 10000 ≤
        10000 * (report.disputes_won.toNat + report.disputes_lost.toNat) := by omega
    exact Nat.div_le_of_le_mul (by rw [Nat.mul_comm _ 10000]; omega)

theorem ema_update_le {current new : U32} (hcurrent : current ≤ REPUTATION_SCALE) (hnew : new ≤ REPUTATION_SCALE) :
    ema_update current new 20 ≤ REPUTATION_SCALE := by
  rw [le_scale_iff] at hcurrent hnew ⊢
  have halpha : (20 : U32).toNat = 20 := rfl
  rw [ema_update, halpha, UInt32.toNat_ofNat']
  have haverage : (current.toNat * (100 - 20) + new.toNat * 20) / 100 ≤ 10000 := by omega
  exact (Nat.mod_le _ _).trans haverage

theorem ReputationFactors.Bounded.after {factors : ReputationFactors} {report : Report} {share : U32}
    (h : factors.Bounded) (hshare : share ≤ REPUTATION_SCALE) : (smoothed_factors factors report share).Bounded where
  accuracy := ema_update_le h.accuracy (min_le_scale _)
  uptime := ema_update_le h.uptime (min_le_scale _)
  response_time := ema_update_le h.response_time (min_le_scale _)
  dispute_history := ema_update_le h.dispute_history hshare

/-- A weighted average is no larger than what it is of. -/
theorem weighted_score_le {weights : ReputationWeights} {factors : ReputationFactors} (hweights : weights.total = 100)
    (h : factors.Bounded) : weighted_score weights factors ≤ REPUTATION_SCALE := by
  have hsum : weighted_sum weights factors ≤ 10000 * weights.total := by
    have h₁ := Nat.mul_le_mul_right weights.accuracy_weight.toNat (le_scale_iff.mp h.accuracy)
    have h₂ := Nat.mul_le_mul_right weights.uptime_weight.toNat (le_scale_iff.mp h.uptime)
    have h₃ := Nat.mul_le_mul_right weights.response_time_weight.toNat (le_scale_iff.mp h.response_time)
    have h₄ := Nat.mul_le_mul_right weights.dispute_history_weight.toNat (le_scale_iff.mp h.dispute_history)
    rw [weighted_sum, ReputationWeights.total]
    omega
  rw [hweights] at hsum
  rw [le_scale_iff, weighted_score, UInt32.toNat_ofNat']
  exact (Nat.mod_le _ _).trans (by omega)

theorem saturating_sub_le (x y : U32) : saturating_sub_u32 x y ≤ x := by
  unfold saturating_sub_u32
  split
  · exact UInt32.zero_le
  · next h =>
      rw [UInt32.le_iff_toNat_le, UInt32.toNat_sub_of_le _ _ (UInt32.not_lt.mp h)]
      omega

/-- What a decay leaves of a score. -/
theorem share_of_le {score bps : U32} (hbps : bps ≤ REPUTATION_SCALE) : share_of score bps ≤ score := by
  rw [le_scale_iff] at hbps
  have hmul := Nat.mul_le_mul_left score.toNat hbps
  have hlt := score.toNat_lt
  rw [UInt32.le_iff_toNat_le, share_of, UInt32.toNat_ofNat', scale_toNat]
  have hdiv : score.toNat * bps.toNat / 10000 ≤ score.toNat :=
    Nat.div_le_of_le_mul (by rw [Nat.mul_comm 10000]; exact hmul)
  exact (Nat.mod_le _ _).trans hdiv

theorem halvings_le (rounds factor : ℕ) : halvings rounds factor ≤ factor := by
  induction rounds generalizing factor with
  | zero => exact Nat.le_refl _
  | succ _ ih =>
      rw [halvings]
      split
      · exact Nat.zero_le _
      · exact (ih _).trans (Nat.div_le_self _ _)

theorem calculate_decay_factor_le (time : U64) : calculate_decay_factor time ≤ REPUTATION_SCALE := by
  unfold calculate_decay_factor
  split
  · exact UInt32.le_refl _
  · rw [le_scale_iff, UInt32.toNat_ofNat']
    exact (Nat.mod_le _ _).trans (halvings_le _ _)

/-! ## The calls -/

/-- The reputation after a report. -/
def ReputationData.reported (data : ReputationData) (weights : ReputationWeights) (factors : ReputationFactors)
    (total_operations successful_operations now : U64) : ReputationData :=
  { data with
    factors
    overall_score := weighted_score weights factors
    total_operations
    successful_operations
    last_update_time := now
    badge_level := calculate_badge_level (weighted_score weights factors) }

/-- The reputation after a penalty. -/
def ReputationData.slashed (data : ReputationData) (score : U32) (penalty_amount : ℤ) (now : U64) : ReputationData :=
  { data with
    overall_score := score
    total_penalties := data.total_penalties + penalty_amount
    current_stake := saturating_sub data.current_stake penalty_amount
    is_slashed := true
    badge_level := .None
    last_update_time := now }

/-- The reputation after an appeal is filed. -/
def ReputationData.staked (data : ReputationData) (collateral : ℤ) : ReputationData :=
  { data with current_stake := data.current_stake - collateral }

/-- The reputation after an appeal is approved. -/
def ReputationData.relieved (data : ReputationData) (appeal : Appeal) (now : U64) : ReputationData :=
  { data with
    overall_score := appeal.previous_score
    badge_level := calculate_badge_level appeal.previous_score
    is_slashed := false
    current_stake := data.current_stake + (appeal.penalty_amount + appeal.collateral)
    total_penalties := data.total_penalties - appeal.penalty_amount
    last_update_time := now }

/-- The reputation after an appeal is resolved. -/
def ReputationData.resolved (data : ReputationData) (appeal : Appeal) (approved : Bool) (now : U64) : ReputationData :=
  if approved = true then data.relieved appeal now else { data with last_update_time := now }

/-- One round of a decay. -/
inductive Round (s s' : ReputationStorage) : Prop
  | stamped (hkept : ∀ key, DataKey.scores key = true → s' key = s key)
      (hnotes : ∀ key, DataKey.notes key = true → s' key = s key)
  | rescored {a : Address} {data : ReputationData} {score : U32} {now : U64}
      (hdata : s (.Reputation a) = some (.data data)) (hscore : score ≤ data.overall_score)
      (hsaved : Saved a (data.rescored score now) s s') (hnotes : ∀ key, DataKey.notes key = true → s' key = s key)

/-- What a call that returns does. -/
inductive Outcome (env : Ledger) (s s' : ReputationStorage) : EntryPoint → Prop
  | initialized {admin : Address} {config : Config} : Outcome env s s' (.initialize_reputation admin config)
  | registered {a : Address} {entity_type : EntityType} {stake_amount : ℤ} (hnew : s (.Reputation a) = none)
      (hsaved : Saved a (initial_data a entity_type stake_amount env.timestamp) s s')
      (hnotes : ∀ key, DataKey.notes key = true → s' key = s key) :
      Outcome env s s' (.register_entity a entity_type stake_amount)
  | reported {a : Address} {report : Report} {data : ReputationData} {config : Config} {total successful : U64}
      (hauth : env.auth a = true)
      (hdata : s (.Reputation a) = some (.data data)) (hconfig : s .Config = some config)
      (hshare : dispute_share report ≤ REPUTATION_SCALE)
      (hwritten : Written a
        (data.reported config.weights (data.factors.after report) total successful env.timestamp) s s')
      (hboards : ∀ t, board s' t = board s t) (hnotes : ∀ key, DataKey.notes key = true → s' key = s key) :
      Outcome env s s' (.record_performance a report)
  | slashed {a : Address} {penalty_amount : ℤ} {reason : SString} {data : ReputationData} {score : U32}
      {slash : SlashRecord} (hdata : s (.Reputation a) = some (.data data)) (hscore : score ≤ data.overall_score)
      (hsaved : Saved a (data.slashed score penalty_amount env.timestamp) s s')
      (hslash : s' (.LastSlash a) = some slash) (hprevious : slash.previous_score = data.overall_score)
      (hpenalty : slash.penalty_amount = penalty_amount)
      (hnotes : ∀ key, DataKey.notes key = true → key ≠ .LastSlash a → s' key = s key) :
      Outcome env s s' (.apply_penalty a penalty_amount reason)
  | ruled {window_ledgers decay_bps : U32} (hkept : ∀ key, DataKey.scores key = true → s' key = s key)
      (hnotes : ∀ key, DataKey.notes key = true → s' key = s key) :
      Outcome env s s' (.set_inactivity_policy window_ledgers decay_bps)
  | decayed {call : EntryPoint} (hcall : call = .apply_inactivity_decay ∨ call = .apply_time_decay)
      (hrounds : Relation.ReflTransGen Round s s') : Outcome env s s' call
  | appealable {min_collateral : ℤ} {window_ledgers : U32} {policy : AppealPolicy}
      (hpolicy : s' .AppealPolicy = some policy) (hmin : 0 ≤ policy.min_collateral)
      (hkept : ∀ key, DataKey.scores key = true → s' key = s key)
      (hnotes : ∀ key, DataKey.notes key = true → key ≠ .AppealPolicy → s' key = s key) :
      Outcome env s s' (.set_appeal_policy min_collateral window_ledgers)
  | filed {a : Address} {collateral : ℤ} {reason : SString} {data : ReputationData} {slash : SlashRecord}
      {appeal : Appeal} (hdata : s (.Reputation a) = some (.data data)) (hslash : s (.LastSlash a) = some slash)
      (hnew : ∀ existing, s (.Appeal a) = some existing → existing.status ≠ .Pending)
      (hmin : ((s .AppealPolicy).map AppealPolicy.min_collateral).getD DEFAULT_MIN_APPEAL_COLLATERAL ≤ collateral)
      (hstake : collateral ≤ data.current_stake) (hwritten : Written a (data.staked collateral) s s')
      (hboards : ∀ t, board s' t = board s t) (happeal : s' (.Appeal a) = some appeal)
      (hstatus : appeal.status = .Pending) (hcollateral : appeal.collateral = collateral)
      (hprevious : appeal.previous_score = slash.previous_score)
      (hpenalty : appeal.penalty_amount = slash.penalty_amount)
      (hnotes : ∀ key, DataKey.notes key = true → key ≠ .Appeal a → s' key = s key) :
      Outcome env s s' (.submit_appeal a collateral reason)
  | resolved {a : Address} {approved : Bool} {data : ReputationData} {appeal appeal' : Appeal}
      (hdata : s (.Reputation a) = some (.data data)) (happeal : s (.Appeal a) = some appeal)
      (hpending : appeal.status = .Pending) (hsaved : Saved a (data.resolved appeal approved env.timestamp) s s')
      (hslash : s' (.LastSlash a) = if approved = true then none else s (.LastSlash a))
      (happeal' : s' (.Appeal a) = some appeal') (hstatus : appeal'.status ≠ .Pending)
      (hprevious : appeal'.previous_score = appeal.previous_score)
      (hnotes : ∀ key, DataKey.notes key = true → key ≠ .LastSlash a → key ≠ .Appeal a → s' key = s key) :
      Outcome env s s' (.resolve_appeal a approved)
  | configured {config : Config} (htotal : config.weights.total = 100) (hconfig : s' .Config = some config)
      (hkept : ∀ key, DataKey.scores key = true → s' key = s key)
      (hnotes : ∀ key, DataKey.notes key = true → key ≠ .Config → s' key = s key) :
      Outcome env s s' (.update_config config)

section Outcomes

@[simp] theorem inactivity_policy_eq_ok {policy : InactivityPolicy} :
    inactivity_policy env s = .ok (policy, s') ↔
      policy = (s .InactivityPolicy).getD
        { window_ledgers := INACTIVITY_WINDOW_LEDGERS, decay_bps := DEFAULT_INACTIVITY_DECAY_BPS } ∧ s' = s := by
  simp only [inactivity_policy, bind_eq_ok, load_eq_ok, pure_eq_ok, and_assoc, exists_and_left, exists_eq_left]

@[simp] theorem appeal_policy_eq_ok {policy : AppealPolicy} :
    appeal_policy env s = .ok (policy, s') ↔
      policy = (s .AppealPolicy).getD
        { min_collateral := DEFAULT_MIN_APPEAL_COLLATERAL, window_ledgers := APPEAL_WINDOW_LEDGERS } ∧ s' = s := by
  simp only [appeal_policy, bind_eq_ok, load_eq_ok, pure_eq_ok, and_assoc, exists_and_left, exists_eq_left]

@[simp] theorem stamp_activity_eq_ok :
    stamp_activity a env s = .ok (u, s') ↔ s' = Function.update s (.LastActivityLedger a) (some env.sequence) := by
  simp only [stamp_activity, bind_eq_ok, reads_eq_ok, save_eq_ok, and_assoc, exists_and_left, exists_eq_left]

/-- A write under a key of another kind leaves reputations and leaderboards alone. -/
theorem scores_frame {k key : DataKey} {v : Option k.Val} (hkey : DataKey.scores key = true)
    (hk : DataKey.scores k = false) : Function.update s k v key = s key := by
  refine Function.update_of_ne ?_ ..
  rintro rfl
  rw [hk] at hkey
  cases hkey

theorem notes_frame {k key : DataKey} {v : Option k.Val} (hkey : DataKey.notes key = true)
    (hk : DataKey.notes k = false) : Function.update s k v key = s key := by
  refine Function.update_of_ne ?_ ..
  rintro rfl
  rw [hk] at hkey
  cases hkey

theorem register_entity_outcome {entity_type : EntityType} {stake_amount : ℤ}
    (h : register_entity a entity_type stake_amount env s = .ok (u, s')) :
    Outcome env s s' (.register_entity a entity_type stake_amount) := by
  simp only [register_entity, unwrap, add_u64, bind_eq_ok, load_eq_ok, panic_if_eq_ok, host_apply, expect_eq_ok,
    reads_eq_ok, save_eq_ok, stamp_activity_eq_ok, HostCalls.checked_add_u64_eq_ok, and_assoc, exists_and_left,
    exists_eq_left, exists_const] at h
  obtain ⟨hnew, config, -, -, total, -, -, h⟩ := h
  obtain ⟨hsaved, hnotes⟩ := saved_of_update (initial_data a entity_type stake_amount env.timestamp)
    (by simp) (fun key hkey hne => by
      rw [scores_frame hkey rfl, scores_frame hkey rfl, scores_frame hkey rfl, Function.update_of_ne hne]) h
  refine .registered (by simpa using hnew) hsaved fun key hkey => ?_
  rw [hnotes key hkey, notes_frame hkey rfl, notes_frame hkey rfl, notes_frame hkey rfl, notes_frame hkey rfl]

/-- The first half of a report: the history and the stamp of the activity are of no concern here. -/
theorem update_reputation_internal_of_ok {report : Report}
    (h : update_reputation_internal a report env s = .ok (u, s')) :
    ∃ data config, s (.Reputation a) = some (.data data) ∧ s .Config = some config ∧
      dispute_share report ≤ REPUTATION_SCALE ∧
      s' = Function.update s (.Reputation a) (some (.data
        { data with
          factors := data.factors.after report
          overall_score := weighted_score config.weights (data.factors.after report) })) := by
  simp only [update_reputation_internal, unwrap, bind_eq_ok, load_eq_ok, panic_if_eq_ok, host_apply, expect_eq_ok,
    unwrapped_data_eq_ok, save_eq_ok, and_assoc, exists_and_left, exists_eq_left, exists_const] at h
  obtain ⟨data, hdata, config, hconfig, share, s₁, hshare, -, rfl⟩ := h
  obtain ⟨rfl, hle, rfl⟩ := dispute_score_of_ok hshare
  exact ⟨data, config, hdata, hconfig, hle, rfl⟩

theorem record_performance_outcome {report : Report} (h : record_performance a report env s = .ok (u, s')) :
    Outcome env s s' (.record_performance a report) := by
  simp only [record_performance, require_auth, push_back, add_u64, bind_eq_ok, load_eq_ok, host_apply,
    registered_data_eq_ok, unwrapped_data_eq_ok, reads_eq_ok, save_eq_ok, stamp_activity_eq_ok,
    HostCalls.require_auth_eq_ok, HostCalls.push_back_eq_ok, HostCalls.checked_add_u64_eq_ok, and_assoc,
    exists_and_left, exists_eq_left, exists_const] at h
  obtain ⟨hauth, before, hbefore, -, _, s₁, hupdate, updated, hupdated, -, -, rfl⟩ := h
  obtain ⟨data, config, hdata, hconfig, hshare, rfl⟩ := update_reputation_internal_of_ok hupdate
  rw [Function.update_self, Option.some.injEq, StoredReputation.data.injEq] at hupdated
  subst hupdated
  rw [scores_frame rfl rfl, scores_frame rfl rfl] at hdata
  rw [notes_frame rfl rfl, notes_frame rfl rfl] at hconfig
  refine .reported hauth hdata hconfig hshare ⟨Function.update_self .., fun b hb => ?_⟩ (fun t => ?_) fun key hkey => ?_
  · rw [Function.update_of_ne (by simpa using hb), Function.update_of_ne (by simpa using hb), scores_frame rfl rfl,
      scores_frame rfl rfl]
  · rw [board, Function.update_of_ne (by simp), Function.update_of_ne (by simp), scores_frame rfl rfl,
      scores_frame rfl rfl, board]
  · rw [notes_frame hkey rfl, notes_frame hkey rfl, notes_frame hkey rfl, notes_frame hkey rfl]

theorem apply_penalty_outcome {penalty_amount : ℤ} {reason : SString}
    (h : apply_penalty a penalty_amount reason env s = .ok (u, s')) :
    Outcome env s s' (.apply_penalty a penalty_amount reason) := by
  simp only [apply_penalty, unwrap, push_back, add_i128, bind_eq_ok, load_eq_ok, host_apply, expect_eq_ok,
    registered_data_eq_ok, require_admin_eq_ok, mul_u32_eq_ok, reads_eq_ok, save_eq_ok, checked_add_eq_some,
    HostCalls.push_back_eq_ok, and_assoc, exists_and_left, exists_eq_left, exists_const] at h
  obtain ⟨-, data, hdata, config, -, -, -, -, h⟩ := h
  obtain ⟨hsaved, hnotes⟩ := saved_of_update (data.slashed _ penalty_amount env.timestamp)
    ((Function.update_of_ne (by simp) ..).trans (Function.update_self ..)) (fun key hkey hne => by
      rw [scores_frame hkey rfl, Function.update_of_ne hne, scores_frame hkey rfl]) h
  have hslash := hnotes (.LastSlash a) rfl
  rw [notes_frame rfl rfl, notes_frame rfl rfl, Function.update_self] at hslash
  refine .slashed hdata (saturating_sub_le _ _) hsaved hslash rfl rfl fun key hkey hne => ?_
  rw [hnotes key hkey, notes_frame hkey rfl, notes_frame hkey rfl, Function.update_of_ne hne]

theorem submit_appeal_outcome {collateral : ℤ} {reason : SString}
    (h : submit_appeal a collateral reason env s = .ok (u, s')) :
    Outcome env s s' (.submit_appeal a collateral reason) := by
  simp only [submit_appeal, require_auth, sub_i128, bind_eq_ok, load_eq_ok, host_apply, expect_eq_ok,
    registered_data_eq_ok, panic_if_eq_ok, appeal_policy_eq_ok, reads_eq_ok, save_eq_ok, checked_sub_eq_some,
    HostCalls.require_auth_eq_ok, and_assoc, exists_and_left, exists_eq_left, exists_const, Int.not_lt] at h
  obtain ⟨-, data, hdata, -, slash, hslash, hnew, -, hmin, hstake, -, rfl⟩ := h
  refine .filed hdata hslash (fun existing hexisting hpending => hnew ?_) ?_ hstake
    ⟨?_, fun b hb => ?_⟩ (fun t => ?_) (Function.update_self ..) rfl rfl rfl rfl fun key hkey hne => ?_
  · simp [hexisting, hpending]
  · have hdefault : DEFAULT_MIN_APPEAL_COLLATERAL =
        AppealPolicy.min_collateral ⟨DEFAULT_MIN_APPEAL_COLLATERAL, APPEAL_WINDOW_LEDGERS⟩ := rfl
    rw [hdefault, Option.getD_map]
    exact hmin
  · rw [scores_frame rfl rfl, Function.update_self]
    rfl
  · rw [scores_frame rfl rfl, Function.update_of_ne (by simpa using hb)]
  · rw [board, scores_frame rfl rfl, Function.update_of_ne (by simp), board]
  · rw [Function.update_of_ne hne, notes_frame hkey rfl]

/-- What a resolution makes of a reputation, but for the time, and which score the entry gets. -/
theorem resolution_of_ok {appeal : Appeal} {approved : Bool} {after : ReputationData}
    (h : resolution data appeal approved env s = .ok (after, s')) (now : U64) :
    { after with last_update_time := now } = data.resolved appeal approved now ∧ s' = s := by
  simp only [resolution, restored, add_i128, sub_i128, ite_eq_ok, bind_eq_ok, expect_eq_ok, checked_add_eq_some,
    checked_sub_eq_some, pure_eq_ok, and_assoc, exists_and_left, exists_eq_left] at h
  rcases h with ⟨happroved, -, -, -, rfl, rfl⟩ | ⟨happroved, rfl, rfl⟩
  · rw [ReputationData.resolved, if_pos happroved]
    exact ⟨rfl, rfl⟩
  · rw [ReputationData.resolved, if_neg happroved]
    exact ⟨rfl, rfl⟩

theorem resolve_appeal_outcome {approved : Bool} (h : resolve_appeal a approved env s = .ok (u, s')) :
    Outcome env s s' (.resolve_appeal a approved) := by
  simp only [resolve_appeal, bind_eq_ok, load_eq_ok, expect_eq_ok, unwrapped_data_eq_ok, require_admin_eq_ok,
    panic_if_eq_ok, reads_eq_ok, save_eq_ok, exec_if_eq_ok, remove_eq_ok, and_assoc, exists_and_left, exists_eq_left,
    exists_const, Decidable.not_not] at h
  obtain ⟨-, appeal, happeal, hpending, data, hdata, after, s₁, hresolution, s₂, hremoved, h⟩ := h
  obtain ⟨hafter, rfl⟩ := resolution_of_ok hresolution env.timestamp
  have hslash : s₂ (.LastSlash a) = if approved = true then none else s₁ (.LastSlash a) := by
    rcases hremoved with ⟨happroved, rfl⟩ | ⟨happroved, rfl⟩
    · rw [Function.update_self, if_pos happroved]
    · rw [if_neg happroved]
  have hothers (key : DataKey) (hne : key ≠ .LastSlash a) : s₂ key = s₁ key := by
    rcases hremoved with ⟨-, rfl⟩ | ⟨-, rfl⟩
    · exact Function.update_of_ne hne ..
    · rfl
  obtain ⟨hsaved, hnotes⟩ := saved_of_update (s := s₁) { after with last_update_time := env.timestamp }
    ((scores_frame rfl rfl).trans (Function.update_self ..)) (fun key hkey hne => by
      rw [scores_frame hkey rfl, Function.update_of_ne hne]
      exact hothers key (by rintro rfl; cases hkey)) h
  have happeal' := hnotes (.Appeal a) rfl
  rw [Function.update_self] at happeal'
  refine .resolved hdata happeal hpending (hafter ▸ hsaved) ?_ happeal' ?_ rfl fun key hkey hslash' happeal' => ?_
  · rw [hnotes _ rfl, Function.update_of_ne (by simp), notes_frame rfl rfl, hslash]
  · cases approved <;> simp
  · rw [hnotes key hkey, Function.update_of_ne happeal', notes_frame hkey rfl, hothers key hslash']

theorem set_inactivity_policy_outcome {window_ledgers decay_bps : U32}
    (h : set_inactivity_policy window_ledgers decay_bps env s = .ok (u, s')) :
    Outcome env s s' (.set_inactivity_policy window_ledgers decay_bps) := by
  simp only [set_inactivity_policy, bind_eq_ok, require_admin_eq_ok, panic_if_eq_ok, save_eq_ok, and_assoc,
    exists_and_left, exists_eq_left, exists_const] at h
  obtain ⟨-, -, -, rfl⟩ := h
  exact .ruled (fun key hkey => scores_frame hkey rfl) fun key hkey => notes_frame hkey rfl

theorem set_appeal_policy_outcome {min_collateral : ℤ} {window_ledgers : U32}
    (h : set_appeal_policy min_collateral window_ledgers env s = .ok (u, s')) :
    Outcome env s s' (.set_appeal_policy min_collateral window_ledgers) := by
  simp only [set_appeal_policy, bind_eq_ok, require_admin_eq_ok, panic_if_eq_ok, save_eq_ok, Int.not_lt, and_assoc,
    exists_and_left, exists_eq_left, exists_const] at h
  obtain ⟨-, hmin, -, rfl⟩ := h
  have hpolicy := Function.update_self DataKey.AppealPolicy (some { min_collateral, window_ledgers }) s
  exact .appealable hpolicy hmin (fun key hkey => scores_frame hkey rfl) fun key _ hne => Function.update_of_ne hne ..

theorem update_config_outcome {new_config : Config} (h : update_config new_config env s = .ok (u, s')) :
    Outcome env s s' (.update_config new_config) := by
  simp only [update_config, bind_eq_ok, require_admin_eq_ok, panic_if_eq_ok, save_eq_ok, Decidable.not_not, and_assoc,
    exists_and_left, exists_eq_left, exists_const] at h
  obtain ⟨-, -, htotal, rfl⟩ := h
  exact .configured htotal (Function.update_self ..) (fun key hkey => scores_frame hkey rfl)
    fun key _ hne => Function.update_of_ne hne ..

/-- **A grant of a reward never returns.** The value under the key of the reputation is a history by then. -/
theorem grant_reward_ne_ok (reward_amount : ℤ) (reason : SString) :
    grant_reward a reward_amount reason env s ≠ .ok (u, s') := by
  intro h
  simp only [grant_reward, unwrap, push_back, add_u32, add_i128, bind_eq_ok, load_eq_ok, host_apply, expect_eq_ok,
    registered_data_eq_ok, require_admin_eq_ok, mul_u32_eq_ok, reads_eq_ok, save_eq_ok, checked_add_eq_some,
    HostCalls.checked_add_u32_eq_ok, HostCalls.push_back_eq_ok, and_assoc, exists_and_left, exists_eq_left,
    exists_const] at h
  obtain ⟨-, _, -, _, -, -, -, -, -, -, h⟩ := h
  obtain ⟨data, -, hdata, -⟩ := update_leaderboard_internal_of_ok h
  rw [Function.update_self] at hdata
  cases hdata

/-! ## The decays -/

/-- A loop over the entities goes on as each of its rounds does. -/
theorem foldlM_entities_induction {γ : Type} {f : γ → Address → System γ}
    {R : ReputationStorage → ReputationStorage → Prop}
    (hrefl : ∀ s, R s s) (htrans : ∀ s₁ s₂ s₃, R s₁ s₂ → R s₂ s₃ → R s₁ s₃)
    (hround : ∀ c c' a s s', f c a env s = .ok (c', s') → R s s') {c c' : γ}
    (h : foldlM_entities f c env s = .ok (c', s')) : R s s' := by
  have hloop {α : Type} {g : γ → α → System γ} (hg : ∀ c c' x s s', g c x env s = .ok (c', s') → R s s') (l : List α) :
      ∀ {c c' s s'}, l.foldlM g c env s = .ok (c', s') → R s s' := by
    induction l with
    | nil =>
        intro c c' s s' h
        rw [List.foldlM_nil, pure_eq_ok] at h
        rw [h.2]
        exact hrefl s
    | cons _ _ ih =>
        intro c c' s s' h
        rw [List.foldlM_cons, bind_eq_ok] at h
        obtain ⟨c₁, s₁, hx, hl⟩ := h
        exact htrans _ _ _ (hg _ _ _ _ _ hx) (ih hl)
  refine hloop (fun c c' entity_type s s' h => ?_) entity_types h
  simp only [bind_eq_ok, load_eq_ok, and_assoc, exists_and_left, exists_eq_left] at h
  exact hloop (fun c c' entry s s' h => hround c c' entry.entity_address s s' h) _ h

/-- The score and the badge of a decayed entity are what its entry gets. -/
theorem saved_of_rescored {s₁ : ReputationStorage} {score : U32} (now : U64)
    (hdata : s (.Reputation a) = some (.data data)) (hscore : score ≤ data.overall_score)
    (hreputation : s₁ (.Reputation a) = some (.data (data.rescored score now)))
    (hframe : ∀ key, DataKey.scores key = true → key ≠ .Reputation a → s₁ key = s key)
    (hnotes : ∀ key, DataKey.notes key = true → s₁ key = s key)
    (h : update_leaderboard_internal a score (calculate_badge_level score) env s₁ = .ok (u, s')) : Round s s' := by
  obtain ⟨hsaved, hnotes'⟩ := saved_of_update (data.rescored score now) hreputation hframe h
  exact .rescored hdata hscore hsaved fun key hkey => (hnotes' key hkey).trans (hnotes key hkey)

theorem decay_inactive_round {policy : InactivityPolicy} {now decayed decayed' : U32}
    (h : decay_inactive policy now decayed a env s = .ok (decayed', s')) : Round s s' := by
  simp only [decay_inactive, add_u32, bind_eq_ok, load_eq_ok, elim_eq_ok, ite_eq_ok, host_apply, unwrapped_data_eq_ok,
    reads_eq_ok, save_eq_ok, pure_eq_ok, HostCalls.checked_add_u32_eq_ok, and_assoc, exists_and_left, exists_eq_left,
    exists_const] at h
  rcases h with ⟨-, -, rfl⟩ | ⟨_, -, ⟨-, -, rfl⟩ | ⟨-, data, hdata, _, s₁, hupdate, -, -, rfl⟩⟩
  · exact .stamped (fun key hkey => scores_frame hkey rfl) fun key hkey => notes_frame hkey rfl
  · exact .stamped (fun _ _ => rfl) fun _ _ => rfl
  · refine saved_of_rescored env.timestamp hdata (saturating_sub_le _ _) ?_ (fun key hkey hne => ?_)
      (fun key hkey => ?_) hupdate
    · rw [scores_frame rfl rfl, Function.update_self]
    · rw [scores_frame hkey rfl, Function.update_of_ne hne]
    · rw [notes_frame hkey rfl, notes_frame hkey rfl]

theorem decay_in_time_round {current_time : U64} (h : decay_in_time current_time a env s = .ok (u, s')) :
    Round s s' := by
  simp only [decay_in_time, bind_eq_ok, unwrapped_data_eq_ok, sub_u64_eq_ok, exec_if_eq_ok, save_eq_ok, and_assoc,
    exists_and_left, exists_eq_left, exists_const] at h
  obtain ⟨data, hdata, -, ⟨-, hupdate⟩ | ⟨-, rfl⟩⟩ := h
  · refine saved_of_rescored current_time hdata (share_of_le (calculate_decay_factor_le _)) (Function.update_self ..)
      (fun key _ hne => Function.update_of_ne hne ..) (fun key hkey => notes_frame hkey rfl) hupdate
  · exact .stamped (fun _ _ => rfl) fun _ _ => rfl

/-- **What a call that returns does.** -/
theorem outcome_of_ok {call : EntryPoint} (h : exec call env s = .ok (u, s')) : Outcome env s s' call := by
  have hrounds {γ : Type} {f : γ → Address → System γ} {c c' : γ}
      (hround : ∀ c c' a s s', f c a env s = .ok (c', s') → Round s s')
      (h : foldlM_entities f c env s = .ok (c', s')) : Relation.ReflTransGen Round s s' :=
    foldlM_entities_induction (fun _ => .refl) (fun _ _ _ h h' => h.trans h')
      (fun c c' a s s' h => .single (hround c c' a s s' h)) h
  cases call with
  | initialize_reputation => exact .initialized
  | register_entity => exact register_entity_outcome h
  | record_performance => exact record_performance_outcome h
  | apply_penalty => exact apply_penalty_outcome h
  | set_inactivity_policy => exact set_inactivity_policy_outcome h
  | apply_inactivity_decay =>
      simp only [exec, ignore, apply_inactivity_decay, bind_eq_ok, require_admin_eq_ok, inactivity_policy_eq_ok,
        reads_eq_ok, pure_eq_ok, and_assoc, exists_and_left, exists_eq_left, exists_const] at h
      obtain ⟨-, _, _, hloop, -, rfl⟩ := h
      exact .decayed (.inl rfl) (hrounds (fun _ _ _ _ _ => decay_inactive_round) hloop)
  | set_appeal_policy => exact set_appeal_policy_outcome h
  | submit_appeal => exact submit_appeal_outcome h
  | resolve_appeal => exact resolve_appeal_outcome h
  | grant_reward _ reward_amount reason => exact absurd h (grant_reward_ne_ok reward_amount reason)
  | apply_time_decay =>
      simp only [exec, apply_time_decay, unwrap, bind_eq_ok, require_admin_eq_ok, load_eq_ok, host_apply, expect_eq_ok,
        exec_if_eq_ok, reads_eq_ok, and_assoc, exists_and_left, exists_eq_left, exists_const] at h
      obtain ⟨-, config, -, ⟨-, hloop⟩ | ⟨-, rfl⟩⟩ := h
      · exact .decayed (.inr rfl) (hrounds (fun _ _ _ _ _ => decay_in_time_round) hloop)
      · exact .decayed (.inr rfl) .refl
  | update_config => exact update_config_outcome h

end Outcomes

end BridgeWatch.ReputationSystem

/-
The leaderboards and the reputations.

Whatever is called, an entity has one reputation and one entry, on the leaderboard of its type, and its score stays in
the scale. The entry also has the score and the badge of the reputation as long as no report changes these: a report is
the one call that leaves the entry as it was.
-/
import BridgeWatch.ReputationReads

set_option autoImplicit false

namespace BridgeWatch.ReputationSystem

open Transaction CheckedIntegers
open Contract (U32 U64 SString Address str)

variable {env : Ledger} {s s' : ReputationStorage} {a : Address} {data : ReputationData}

/-- The entities and their types, as they have registered. -/
abbrev Register := List (Address × EntityType)

/-- What a call adds to the register. -/
def registrations (_ : ReputationStorage) : Ledger × EntryPoint → Register
  | (_, .register_entity entity_address entity_type _) => [(entity_address, entity_type)]
  | _ => []

/-- The reputation of an entity. -/
def reputation_of (s : ReputationStorage) (entity_address : Address) : Option ReputationData :=
  (s (.Reputation entity_address)).bind StoredReputation.data?

/-- The type of a registered entity. -/
def type_of (s : ReputationStorage) (entity_address : Address) : Option EntityType :=
  (reputation_of s entity_address).map ReputationData.entity_type

/-- The score of a registered entity. -/
def score_of (s : ReputationStorage) (entity_address : Address) : ℕ :=
  (reputation_of s entity_address).elim 0 fun data => data.overall_score.toNat

/-- The entities on a leaderboard. -/
def addresses (s : ReputationStorage) (entity_type : EntityType) : List Address :=
  (board s entity_type).map LeaderboardEntry.entity_address

/-- The score and the factors are in the scale. -/
structure ReputationData.Valid (data : ReputationData) : Prop where
  score : data.overall_score ≤ REPUTATION_SCALE
  factors : data.factors.Bounded

/-- The rules that scores are computed by, and the scores that appeals bring back. -/
structure Rules (s : ReputationStorage) : Prop where
  config : ∃ config, s .Config = some config ∧ config.weights.total = 100
  slash : ∀ a slash, s (.LastSlash a) = some slash → slash.previous_score ≤ REPUTATION_SCALE
  appeal : ∀ a appeal, s (.Appeal a) = some appeal → appeal.previous_score ≤ REPUTATION_SCALE

/-- The reputations and the leaderboards are those of the entities in the register. -/
structure Listed (s : ReputationStorage) (register : Register) : Prop where
  reputation : ∀ a stored, s (.Reputation a) = some stored → ∃ data, stored = .data data ∧ data.Valid
  unique : (register.map Prod.fst).Nodup
  registered : ∀ a t, (a, t) ∈ register ↔ type_of s a = some t
  nodup : ∀ t, (addresses s t).Nodup
  listed : ∀ a t, a ∈ addresses s t ↔ type_of s a = some t

/-- What every call keeps. -/
structure Sound (s : ReputationStorage) (register : Register) : Prop extends Rules s, Listed s register

/-- An entry has the score and the badge of the reputation. -/
def Synced (s : ReputationStorage) : Prop :=
  ∀ t, ∀ e ∈ board s t, ∀ data, s (.Reputation e.entity_address) = some (.data data) →
    e.score = data.overall_score ∧ e.badge_level = data.badge_level

/-! ## One change -/

section Changes

variable {register : Register}

theorem reputation_of_data (h : s (.Reputation a) = some (.data data)) : reputation_of s a = some data := by
  rw [reputation_of, h]
  rfl

theorem type_of_data (h : s (.Reputation a) = some (.data data)) : type_of s a = some data.entity_type := by
  rw [type_of, reputation_of_data h, Option.map_some]

theorem type_of_none (h : s (.Reputation a) = none) : type_of s a = none := by
  rw [type_of, reputation_of, h]
  rfl

theorem Written.type_of_eq (h : Written a data s s') (b : Address) :
    type_of s' b = if b = a then some data.entity_type else type_of s b := by
  split
  · next hb => rw [hb, type_of_data h.reputation]
  · next hb => rw [type_of, reputation_of, h.others b hb, type_of, reputation_of]

/-- A change of a reputation leaves the types as they are. -/
theorem Written.type_of_same (h : Written a data s s') (htype : type_of s a = some data.entity_type) (b : Address) :
    type_of s' b = type_of s b := by
  rw [h.type_of_eq]
  split
  · next hb => rw [hb, htype]
  · rfl

theorem Written.valid (h : Written a data s s') (hvalid : data.Valid)
    (hold : ∀ b stored, s (.Reputation b) = some stored → ∃ data, stored = .data data ∧ data.Valid) :
    ∀ b stored, s' (.Reputation b) = some stored → ∃ data, stored = .data data ∧ data.Valid := by
  intro b stored hstored
  by_cases hb : b = a
  · rw [hb, h.reputation] at hstored
    exact ⟨data, (Option.some.inj hstored).symm, hvalid⟩
  · rw [h.others b hb] at hstored
    exact hold b stored hstored

theorem Puts.mem_addresses {entry : LeaderboardEntry} {entries entries' : List LeaderboardEntry}
    (h : Puts entry entries entries') (hnodup : (entries.map LeaderboardEntry.entity_address).Nodup) (b : Address) :
    b ∈ entries'.map LeaderboardEntry.entity_address ↔
      b = entry.entity_address ∨ b ∈ entries.map LeaderboardEntry.entity_address := by
  simp only [List.mem_map, h.mem hnodup]
  constructor
  · rintro ⟨e, rfl | ⟨he, -⟩, rfl⟩
    · exact .inl rfl
    · exact .inr ⟨e, he, rfl⟩
  · rintro (rfl | ⟨e, he, rfl⟩)
    · exact ⟨entry, .inl rfl, rfl⟩
    · by_cases heq : e.entity_address = entry.entity_address
      · exact ⟨entry, .inl rfl, heq.symm⟩
      · exact ⟨e, .inr ⟨he, heq⟩, rfl⟩

theorem Saved.nodup (h : Saved a data s s') (hnodup : ∀ t, (addresses s t).Nodup) (t : EntityType) :
    (addresses s' t).Nodup := by
  by_cases ht : t = data.entity_type
  · rw [ht]
    exact h.entry.nodup (hnodup data.entity_type)
  · rw [addresses, h.boards t ht]
    exact hnodup t

/-- The leaderboards list who has a reputation, also after one is added to both. -/
theorem Saved.listed (h : Saved a data s s') (hnodup : ∀ t, (addresses s t).Nodup)
    (hlisted : ∀ b t, b ∈ addresses s t ↔ type_of s b = some t)
    (htype : ∀ t, type_of s a = some t → t = data.entity_type) (b : Address) (t : EntityType) :
    b ∈ addresses s' t ↔ type_of s' b = some t := by
  rw [h.type_of_eq]
  by_cases ht : t = data.entity_type
  · subst ht
    have hmem := h.entry.mem_addresses (hnodup data.entity_type) b
    have hold := hlisted b data.entity_type
    rw [addresses] at hold ⊢
    rw [hmem, hold]
    split
    · next hb => simp [hb, ReputationData.entry]
    · next hb => simp [hb, ReputationData.entry]
  · rw [addresses, h.boards t ht]
    refine (hlisted b t).trans ?_
    split
    · next hb =>
        rw [hb]
        exact ⟨fun hold => absurd (htype t hold) ht, fun heq => absurd (Option.some.inj heq).symm ht⟩
    · rfl

theorem Listed.saved (h : Listed s register) (hsaved : Saved a data s s') (hvalid : data.Valid)
    (htype : type_of s a = some data.entity_type) : Listed s' register where
  reputation := hsaved.valid hvalid h.reputation
  unique := h.unique
  registered b t := by rw [hsaved.type_of_same htype, h.registered]
  nodup := hsaved.nodup h.nodup
  listed := hsaved.listed h.nodup h.listed fun _ ht => Option.some.inj (ht.symm.trans htype)

/-- A registration. -/
theorem Listed.append (h : Listed s register) (hsaved : Saved a data s s') (hvalid : data.Valid)
    (hnew : s (.Reputation a) = none) : Listed s' (register ++ [(a, data.entity_type)]) where
  reputation := hsaved.valid hvalid h.reputation
  unique := by
    rw [List.map_append, List.map_singleton, List.nodup_append]
    refine ⟨h.unique, List.nodup_singleton _, ?_⟩
    rintro b hb c hc rfl
    obtain ⟨⟨b, t⟩, hmem, rfl⟩ := List.mem_map.mp hb
    obtain rfl : b = a := List.mem_singleton.mp hc
    have htype := (h.registered b t).mp hmem
    rw [type_of_none hnew] at htype
    cases htype
  registered b t := by
    have hnone := type_of_none hnew
    rw [List.mem_append, List.mem_singleton, h.registered, hsaved.type_of_eq]
    split
    · next hb => simp [hb, hnone, eq_comm]
    · next hb => simp [hb]
  nodup := hsaved.nodup h.nodup
  listed := hsaved.listed h.nodup h.listed fun t ht => by rw [type_of_none hnew] at ht; cases ht

/-- A change of a reputation that leaves the leaderboards alone. -/
theorem Listed.written (h : Listed s register) (hwritten : Written a data s s') (hvalid : data.Valid)
    (htype : type_of s a = some data.entity_type) (hboards : ∀ t, board s' t = board s t) : Listed s' register where
  reputation := hwritten.valid hvalid h.reputation
  unique := h.unique
  registered b t := by rw [hwritten.type_of_same htype, h.registered]
  nodup t := by
    rw [addresses, hboards]
    exact h.nodup t
  listed b t := by
    rw [addresses, hboards, hwritten.type_of_same htype]
    exact h.listed b t

theorem board_kept (hkept : ∀ key, DataKey.scores key = true → s' key = s key) (t : EntityType) :
    board s' t = board s t := by rw [board, hkept _ rfl, board]

theorem type_of_kept (hkept : ∀ key, DataKey.scores key = true → s' key = s key) (b : Address) :
    type_of s' b = type_of s b := by rw [type_of, reputation_of, hkept _ rfl, type_of, reputation_of]

theorem Listed.kept (h : Listed s register) (hkept : ∀ key, DataKey.scores key = true → s' key = s key) :
    Listed s' register where
  reputation b stored hstored := h.reputation b stored (by rwa [hkept _ rfl] at hstored)
  unique := h.unique
  registered b t := by rw [h.registered, type_of_kept hkept]
  nodup t := by
    rw [addresses, board_kept hkept]
    exact h.nodup t
  listed b t := by
    rw [addresses, board_kept hkept, type_of_kept hkept]
    exact h.listed b t

theorem Rules.kept (h : Rules s) (hnotes : ∀ key, DataKey.notes key = true → s' key = s key) : Rules s' where
  config := by
    rw [hnotes _ rfl]
    exact h.config
  slash b slash hslash := h.slash b slash (by rwa [hnotes _ rfl] at hslash)
  appeal b appeal happeal := h.appeal b appeal (by rwa [hnotes _ rfl] at happeal)

/-- The new entry is the one of the new reputation. -/
theorem Synced.saved (h : Synced s) (hlisted : Listed s register) (hsaved : Saved a data s s')
    (htype : ∀ t, type_of s a = some t → t = data.entity_type) : Synced s' := by
  intro t e he stored hstored
  -- the entries of the others are as before
  have hother (hmem : e ∈ board s t) (hne : e.entity_address ≠ a) :
      e.score = stored.overall_score ∧ e.badge_level = stored.badge_level := by
    rw [hsaved.others _ hne] at hstored
    exact h t e hmem stored hstored
  by_cases ht : t = data.entity_type
  · subst ht
    rcases (hsaved.entry.mem (hlisted.nodup _) e).mp he with rfl | ⟨hmem, hne⟩
    · have hdata : s' (.Reputation a) = some (.data stored) := hstored
      rw [hsaved.reputation, Option.some.injEq, StoredReputation.data.injEq] at hdata
      rw [← hdata]
      exact ⟨rfl, rfl⟩
    · exact hother hmem hne
  · rw [hsaved.boards t ht] at he
    refine hother he fun heq => ht (htype t ?_)
    rw [← heq]
    exact (hlisted.listed _ t).mp (List.mem_map_of_mem he)

theorem Synced.written {before : ReputationData} (h : Synced s) (hwritten : Written a data s s')
    (hboards : ∀ t, board s' t = board s t) (hbefore : s (.Reputation a) = some (.data before))
    (hscore : data.overall_score = before.overall_score) (hbadge : data.badge_level = before.badge_level) :
    Synced s' := by
  intro t e he stored hstored
  rw [hboards] at he
  by_cases heq : e.entity_address = a
  · rw [heq, hwritten.reputation, Option.some.injEq, StoredReputation.data.injEq] at hstored
    rw [← hstored, hscore, hbadge]
    exact h t e he before (by rw [heq, hbefore])
  · rw [hwritten.others _ heq] at hstored
    exact h t e he stored hstored

theorem Synced.kept (h : Synced s) (hkept : ∀ key, DataKey.scores key = true → s' key = s key) : Synced s' := by
  intro t e he stored hstored
  rw [board_kept hkept] at he
  rw [hkept _ rfl] at hstored
  exact h t e he stored hstored

end Changes

/-! ## One call -/

section Steps

variable {register : Register} {call : EntryPoint}

theorem Listed.valid (h : Listed s register) (hdata : s (.Reputation a) = some (.data data)) : data.Valid := by
  obtain ⟨stored, heq, hvalid⟩ := h.reputation a _ hdata
  rw [StoredReputation.data.injEq] at heq
  rwa [heq]

theorem Sound.kept (h : Sound s register) (hkept : ∀ key, DataKey.scores key = true → s' key = s key)
    (hnotes : ∀ key, DataKey.notes key = true → s' key = s key) : Sound s' register :=
  ⟨h.toRules.kept hnotes, h.toListed.kept hkept⟩

/-- A decayed score is no higher than it was. -/
theorem Sound.round (h : Sound s register) (hround : Round s s') : Sound s' register := by
  cases hround with
  | stamped hkept hnotes => exact h.kept hkept hnotes
  | rescored hdata hscore hsaved hnotes =>
      have hvalid := h.valid hdata
      have htype := type_of_data hdata
      exact ⟨h.toRules.kept hnotes,
        h.toListed.saved hsaved ⟨UInt32.le_trans hscore hvalid.score, hvalid.factors⟩ htype⟩

theorem Sound.rounds (h : Sound s register) (hrounds : Relation.ReflTransGen Round s s') : Sound s' register := by
  induction hrounds with
  | refl => exact h
  | tail _ hround ih => exact ih.round hround

theorem Synced.round (h : Synced s) (hsound : Sound s register) (hround : Round s s') : Synced s' := by
  cases hround with
  | stamped hkept => exact h.kept hkept
  | rescored hdata _ hsaved =>
      have htype := type_of_data hdata
      exact h.saved hsound.toListed hsaved fun _ ht => Option.some.inj (ht.symm.trans htype)

theorem Synced.rounds (h : Synced s) (hsound : Sound s register) (hrounds : Relation.ReflTransGen Round s s') :
    Synced s' := by
  induction hrounds with
  | refl => exact h
  | tail hbefore hround ih => exact ih.round (hsound.rounds hbefore) hround

theorem resolved_entity_type (data : ReputationData) (appeal : Appeal) (approved : Bool) (now : U64) :
    (data.resolved appeal approved now).entity_type = data.entity_type := by
  cases approved <;> rfl

theorem initial_data_valid (a : Address) (entity_type : EntityType) (stake_amount : ℤ) (now : U64) :
    (initial_data a entity_type stake_amount now).Valid := by
  have hinitial : (7500 : U32) ≤ REPUTATION_SCALE := by decide
  exact ⟨hinitial, ⟨hinitial, hinitial, hinitial, hinitial⟩⟩

/-- An appeal brings back a score of before, or none. -/
theorem ReputationData.Valid.resolved {appeal : Appeal} (h : data.Valid)
    (hprevious : appeal.previous_score ≤ REPUTATION_SCALE) (approved : Bool) (now : U64) :
    (data.resolved appeal approved now).Valid := by
  cases approved with
  | false => exact ⟨h.score, h.factors⟩
  | true => exact ⟨hprevious, h.factors⟩

/-- **One call**, whichever it is, but for another initialization. -/
theorem Sound.step (h : Sound s register) (hcall : call.initializes = false) (houtcome : Outcome env s s' call) :
    Sound s' (register ++ registrations s (env, call)) := by
  cases houtcome with
  | initialized => cases hcall
  | registered hnew hsaved hnotes =>
      exact ⟨h.toRules.kept hnotes, h.toListed.append hsaved (initial_data_valid ..) hnew⟩
  | @reported _ report data config _ _ _ hdata hconfig hshare hwritten hboards hnotes =>
      simp only [registrations, List.append_nil]
      obtain ⟨config, hconfig', htotal⟩ := h.config
      obtain rfl := Option.some.inj (hconfig.symm.trans hconfig')
      have hfactors : (data.factors.after report).Bounded := (h.valid hdata).factors.after hshare
      have htype := type_of_data hdata
      exact ⟨h.toRules.kept hnotes,
        h.toListed.written hwritten ⟨weighted_score_le htotal hfactors, hfactors⟩ htype hboards⟩
  | @slashed a _ _ _ _ _ hdata hscore hsaved hslash hprevious _ hnotes =>
      simp only [registrations, List.append_nil]
      have hvalid := h.valid hdata
      have htype := type_of_data hdata
      refine ⟨⟨?_, fun b slash hb => ?_, fun b appeal hb => ?_⟩,
        h.toListed.saved hsaved ⟨UInt32.le_trans hscore hvalid.score, hvalid.factors⟩ htype⟩
      · rw [hnotes _ rfl (by simp)]
        exact h.config
      · by_cases heq : b = a
        · subst heq
          rw [hslash] at hb
          rw [← Option.some.inj hb, hprevious]
          exact hvalid.score
        · rw [hnotes _ rfl (by simpa using heq)] at hb
          exact h.slash b slash hb
      · rw [hnotes _ rfl (by simp)] at hb
        exact h.appeal b appeal hb
  | ruled hkept hnotes =>
      simp only [registrations, List.append_nil]
      exact h.kept hkept hnotes
  | decayed hcall' hrounds =>
      have hnone : registrations s (env, call) = [] := by rcases hcall' with rfl | rfl <;> rfl
      rw [hnone, List.append_nil]
      exact h.rounds hrounds
  | appealable _ _ hkept hnotes =>
      simp only [registrations, List.append_nil]
      refine ⟨⟨?_, fun b slash hb => ?_, fun b appeal hb => ?_⟩, h.toListed.kept hkept⟩
      · rw [hnotes _ rfl (by simp)]
        exact h.config
      · rw [hnotes _ rfl (by simp)] at hb
        exact h.slash b slash hb
      · rw [hnotes _ rfl (by simp)] at hb
        exact h.appeal b appeal hb
  | @filed a _ _ _ slash _ hdata hslash hnew hmin hstake hwritten hboards happeal hstatus hcollateral hprevious hpenalty
      hnotes =>
      simp only [registrations, List.append_nil]
      have hvalid := h.valid hdata
      have htype := type_of_data hdata
      refine ⟨⟨?_, fun b slash hb => ?_, fun b appeal hb => ?_⟩,
        h.toListed.written hwritten ⟨hvalid.score, hvalid.factors⟩ htype hboards⟩
      · rw [hnotes _ rfl (by simp)]
        exact h.config
      · rw [hnotes _ rfl (by simp)] at hb
        exact h.slash b slash hb
      · by_cases heq : b = a
        · subst heq
          rw [happeal] at hb
          rw [← Option.some.inj hb, hprevious]
          exact h.slash b slash hslash
        · rw [hnotes _ rfl (by simpa using heq)] at hb
          exact h.appeal b appeal hb
  | @resolved a approved _ appeal _ hdata happeal _ hsaved hslash happeal' _ hprevious hnotes =>
      simp only [registrations, List.append_nil]
      refine ⟨⟨?_, fun b slash hb => ?_, fun b appeal hb => ?_⟩,
        h.toListed.saved hsaved ((h.valid hdata).resolved (h.appeal a appeal happeal) approved _) ?_⟩
      · rw [hnotes _ rfl (by simp) (by simp)]
        exact h.config
      · by_cases heq : b = a
        · subst heq
          rw [hslash] at hb
          split at hb
          · cases hb
          · exact h.slash b slash hb
        · rw [hnotes _ rfl (by simpa using heq) (by simp)] at hb
          exact h.slash b slash hb
      · by_cases heq : b = a
        · subst heq
          rw [happeal'] at hb
          rw [← Option.some.inj hb, hprevious]
          exact h.appeal b _ happeal
        · rw [hnotes _ rfl (by simp) (by simpa using heq)] at hb
          exact h.appeal b appeal hb
      · rw [resolved_entity_type]
        exact type_of_data hdata
  | configured htotal hconfig hkept hnotes =>
      simp only [registrations, List.append_nil]
      refine ⟨⟨⟨_, hconfig, htotal⟩, fun b slash hb => ?_, fun b appeal hb => ?_⟩, h.toListed.kept hkept⟩
      · rw [hnotes _ rfl (by simp)] at hb
        exact h.slash b slash hb
      · rw [hnotes _ rfl (by simp)] at hb
        exact h.appeal b appeal hb

/-- The calls after which an entry still agrees with the reputation: a report that changes neither the score nor the
badge, and a grant of a reward that is refused. -/
def Faithful (s : ReputationStorage) : Ledger × EntryPoint → Prop
  | (env, .record_performance a report) =>
      env.auth a = true → ∀ data ∈ reputation_of s a, ∀ config ∈ s .Config,
        weighted_score config.weights (data.factors.after report) = data.overall_score ∧
          calculate_badge_level data.overall_score = data.badge_level
  | (env, .grant_reward a _ _) => (∃ admin ∈ s .Admin, env.auth admin = true) → s (.Reputation a) = none
  | _ => True

instance (s : ReputationStorage) (t : Ledger × EntryPoint) : Decidable (Faithful s t) :=
  match t with
  | (env, .record_performance a report) => inferInstanceAs (Decidable (env.auth a = true → ∀ _ ∈ reputation_of s a, _))
  | (_, .grant_reward _ _ _) => inferInstanceAs (Decidable (_ → _))
  | (_, .initialize_reputation _ _) | (_, .register_entity _ _ _) | (_, .apply_penalty _ _ _)
  | (_, .set_inactivity_policy _ _) | (_, .apply_inactivity_decay) | (_, .set_appeal_policy _ _)
  | (_, .submit_appeal _ _ _) | (_, .resolve_appeal _ _) | (_, .apply_time_decay) | (_, .update_config _) =>
      isTrue trivial

theorem Synced.step (h : Synced s) (hsound : Sound s register) (hcall : call.initializes = false)
    (hfaithful : Faithful s (env, call)) (houtcome : Outcome env s s' call) : Synced s' := by
  have hsame {d : ReputationData} {b : Address} (hdata : s (.Reputation b) = some (.data d)) (t : EntityType)
      (ht : type_of s b = some t) : t = d.entity_type := Option.some.inj (ht.symm.trans (type_of_data hdata))
  cases houtcome with
  | initialized => cases hcall
  | registered hnew hsaved =>
      refine h.saved hsound.toListed hsaved fun t ht => ?_
      rw [type_of_none hnew] at ht
      cases ht
  | reported hauth hdata hconfig _ hwritten hboards =>
      obtain ⟨hscore, hbadge⟩ := hfaithful hauth _ (reputation_of_data hdata) _ hconfig
      refine h.written hwritten hboards hdata hscore ?_
      rw [ReputationData.reported, hscore, hbadge]
  | slashed hdata _ hsaved =>
      have htype := hsame hdata
      exact h.saved hsound.toListed hsaved htype
  | ruled hkept | appealable _ _ hkept | configured _ _ hkept => exact h.kept hkept
  | decayed _ hrounds => exact h.rounds hsound hrounds
  | filed hdata _ _ _ _ hwritten hboards =>
      exact h.written hwritten hboards hdata rfl rfl
  | resolved hdata _ _ hsaved =>
      refine h.saved hsound.toListed hsaved fun t ht => ?_
      rw [resolved_entity_type]
      exact hsame hdata t ht

theorem Sound.readable (h : Sound s register) (b : Address) : Readable s b := by
  intro stored hstored
  obtain ⟨data, heq, -⟩ := h.reputation b stored hstored
  exact ⟨data, heq⟩

/-- Nothing that is read as a reputation is anything else. -/
theorem Sound.ne_conversion_error (h : Sound s register) (hfaithful : Faithful s (env, call)) :
    exec call env s ≠ .error conversion_error := by
  intro heq
  by_cases hcall : ∀ a reward_amount reason, call ≠ .grant_reward a reward_amount reason
  · exact exec_typed h.readable hcall _ heq rfl
  · push_neg at hcall
    obtain ⟨a, reward_amount, reason, rfl⟩ := hcall
    exact grant_reward_typed reward_amount reason hfaithful _ heq rfl

end Steps

/-! ## Rankings -/

section Rankings

variable {register : Register}

/-- What stands on the leaderboard is what is asked for. -/
theorem Synced.score_eq (h : Synced s) (hlisted : Listed s register) {t : EntityType} {e : LeaderboardEntry}
    (he : e ∈ board s t) : e.score.toNat = score_of s e.entity_address := by
  have htype := (hlisted.listed e.entity_address t).mp (List.mem_map_of_mem he)
  obtain ⟨data, hdata, -⟩ := Option.map_eq_some_iff.mp htype
  obtain ⟨stored, hstored, heq⟩ := Option.bind_eq_some_iff.mp hdata
  rw [data?_eq_some] at heq
  rw [(h t e he data (by rw [hstored, heq])).1, score_of, hdata, Option.elim_some]

theorem Listed.perm (h : Listed s register) (t : EntityType) :
    (addresses s t).Perm ((register.filter fun p => p.2 = t).map Prod.fst) := by
  refine (List.perm_ext_iff_of_nodup (h.nodup t) (h.unique.sublist (List.filter_sublist.map _))).mpr fun a => ?_
  rw [h.listed, ← h.registered, List.mem_map]
  constructor
  · intro hmem
    exact ⟨(a, t), List.mem_filter.mpr ⟨hmem, decide_eq_true rfl⟩, rfl⟩
  · rintro ⟨⟨b, t'⟩, hmem, rfl⟩
    obtain ⟨hmem, ht⟩ := List.mem_filter.mp hmem
    rwa [← of_decide_eq_true ht]

/-- The one entry of an entity. -/
theorem Listed.filter_eq (h : Listed s register) {t : EntityType} (hmem : a ∈ addresses s t) :
    ∃ e ∈ board s t, e.entity_address = a ∧ (board s t).filter (fun e => e.entity_address = a) = [e] := by
  have hone : ((board s t).filter fun e => e.entity_address = a).length = 1 := by
    have hcount := List.count_eq_one_of_mem (h.nodup t) hmem
    rw [addresses, List.count, List.countP_map, List.countP_eq_length_filter] at hcount
    rw [← hcount]
    rfl
  obtain ⟨e, he⟩ := List.length_eq_one_iff.mp hone
  have hfilter : e ∈ (board s t).filter fun e => e.entity_address = a := by rw [he]; exact List.mem_singleton_self e
  obtain ⟨hboard, haddress⟩ := List.mem_filter.mp hfilter
  exact ⟨e, hboard, of_decide_eq_true haddress, he⟩

/-- The reputations and the leaderboards agree on the registered entities. -/
structure Consistent (s : ReputationStorage) (register : Register) : Prop where
  stored : ∀ p ∈ register, ∃ data, s (.Reputation p.1) = some (.data data) ∧ data.entity_type = p.2 ∧
    data.overall_score ≤ REPUTATION_SCALE ∧ ∃ entry, (board s p.2).filter (fun e => e.entity_address = p.1) = [entry] ∧
      entry.score = data.overall_score ∧ entry.badge_level = data.badge_level
  ranked : ∀ t limit env, ∃ ranking : List Address,
    ranking.Perm ((register.filter fun p => p.2 = t).map Prod.fst) ∧
      ranking.Pairwise (fun a b => score_of s b ≤ score_of s a) ∧
      ∃ entries, get_leaderboard t limit env s = .ok (entries, s) ∧
        entries.map LeaderboardEntry.entity_address = ranking.take limit.toNat

theorem Sound.consistent (h : Sound s register) (hsynced : Synced s) : Consistent s register where
  stored := by
    rintro ⟨a, t⟩ hmem
    have htype := (h.registered a t).mp hmem
    obtain ⟨data, hdata, ht⟩ := Option.map_eq_some_iff.mp htype
    obtain ⟨stored, hstored, heq⟩ := Option.bind_eq_some_iff.mp hdata
    rw [data?_eq_some] at heq
    subst heq
    obtain ⟨e, he, haddress, hfilter⟩ := h.toListed.filter_eq ((h.listed a t).mpr htype)
    obtain ⟨hscore, hbadge⟩ := hsynced t e he data (by rw [haddress, hstored])
    exact ⟨data, hstored, ht, (h.valid hstored).score, e, hfilter, hscore, hbadge⟩
  ranked t limit env := by
    have hperm := BubbleSort.perm_sort (fun e : LeaderboardEntry => e.score.toNat) (board s t)
    have hsorted := BubbleSort.pairwise_sort (fun e : LeaderboardEntry => e.score.toNat) (board s t)
    refine ⟨(BubbleSort.sort (fun e => e.score.toNat) (board s t)).map LeaderboardEntry.entity_address,
      (hperm.map _).trans (h.toListed.perm t), ?_, _, rfl, List.map_take⟩
    rw [List.pairwise_map]
    refine hsorted.imp_of_mem fun {e e'} he he' hle => ?_
    rwa [← hsynced.score_eq h.toListed (hperm.mem_iff.mp he), ← hsynced.score_eq h.toListed (hperm.mem_iff.mp he')]

end Rankings

/-! ## Runs -/

section Runs

variable {register : Register}

/-- The storage after the initialization. -/
def started (env : Ledger) (admin : Address) (config : Config) : ReputationStorage :=
  run empty_storage [(env, .initialize_reputation admin config)]

/-- What an initialization writes. -/
def initialized (s : ReputationStorage) (admin : Address) (config : Config) : ReputationStorage :=
  let s : ReputationStorage := Function.update (Function.update s .Admin (some admin)) .Config (some config)
  let s := entity_types.foldl
    (fun (s : ReputationStorage) t => Function.update s (.ReputationLeaderboard t) (some [])) s
  entity_types.foldl (fun s t => Function.update s (.TotalEntities t) (some 0)) s

theorem initialize_reputation_eq_ok {admin : Address} {config : Config} {u : Unit} :
    initialize_reputation admin config env s = .ok (u, s') ↔
      env.auth admin = true ∧ s' = initialized s admin config := by
  simp only [initialize_reputation, bind_eq_ok, save_eq_ok, host_apply, HostCalls.require_auth_eq_ok, and_assoc,
    exists_and_left, exists_eq_left, exists_const]
  rfl

theorem started_eq {admin : Address} (hauth : env.auth admin = true) (config : Config) :
    started env admin config .Config = some config ∧ (∀ t, board (started env admin config) t = []) ∧
      (∀ b, started env admin config (.Reputation b) = none) ∧
      (∀ b, started env admin config (.LastSlash b) = none) ∧ ∀ b, started env admin config (.Appeal b) = none := by
  rcases step_cases exec empty_storage (env, .initialize_reputation admin config) with hok | ⟨⟨msg, herror⟩, -⟩
  · obtain ⟨-, heq⟩ := initialize_reputation_eq_ok.mp hok
    have hstarted : started env admin config = step exec (env, .initialize_reputation admin config) empty_storage := rfl
    rw [hstarted, heq]
    refine ⟨?_, fun t => ?_, fun b => ?_, fun b => ?_, fun b => ?_⟩
    · simp [initialized, entity_types]
    · cases t <;> simp [initialized, entity_types, board]
    all_goals simp [initialized, entity_types, empty_storage]
  · have hok : exec (.initialize_reputation admin config) env empty_storage = .ok ((), initialized _ admin config) :=
      initialize_reputation_eq_ok.mpr ⟨hauth, rfl⟩
    cases herror.symm.trans hok

theorem sound_start {admin : Address} {config : Config} (hauth : env.auth admin = true)
    (hweights : config.weights.total = 100) :
    Sound (started env admin config) [] ∧ Synced (started env admin config) := by
  obtain ⟨hconfig, hboards, hreputation, hslash, happeal⟩ := started_eq hauth config
  refine ⟨⟨⟨⟨config, hconfig, hweights⟩, fun b slash h => ?_, fun b appeal h => ?_⟩,
    ⟨fun b stored h => ?_, List.nodup_nil, fun b t => ?_, fun t => ?_, fun b t => ?_⟩⟩, fun t e he => ?_⟩
  · rw [hslash] at h
    cases h
  · rw [happeal] at h
    cases h
  · rw [hreputation] at h
    cases h
  · simp [type_of_none (hreputation b)]
  · simp [addresses, hboards]
  · simp [addresses, hboards, type_of_none (hreputation b)]
  · rw [hboards] at he
    cases he

/-- **A run.** Whatever is called after the initialization, the reputations and the leaderboards are those of the
registered entities, and every score is in the scale. -/
theorem sound_run (hs : Sound s register) {calls : List (Ledger × EntryPoint)}
    (hcalls : ∀ t ∈ calls, t.2.initializes = false) :
    Sound (run s calls) (register ++ collect exec registrations s calls) :=
  run_collect_invariant (C := fun _ t => t.2.initializes = false)
    (fun h hcall hok => h.step hcall (outcome_of_ok hok)) hs (Along.of_forall fun _ t ht => hcalls t ht)

/-- The same with the entries, as long as no call changes a reputation behind the back of its entry. -/
theorem synced_run (hs : Sound s register) (hsynced : Synced s) {calls : List (Ledger × EntryPoint)}
    (hcalls : ∀ t ∈ calls, t.2.initializes = false) (hfaithful : Along exec Faithful s calls) :
    Synced (run s calls) := by
  have hrun := run_collect_invariant (I := fun s register => Sound s register ∧ Synced s)
    (fun h ht hok => ⟨h.1.step ht.1 (outcome_of_ok hok), h.2.step h.1 ht.1 ht.2 (outcome_of_ok hok)⟩)
    ⟨hs, hsynced⟩ (Along.and (Along.of_forall fun _ t ht => hcalls t ht) hfaithful)
  exact hrun.2

/-- **The leaderboards follow the reputations** in every run after an initialization in which no report changes a score
or a badge and no reward is granted: each registered entity has a reputation in the scale and one entry, which agrees
with it, the rankings are by the scores, and no call traps on a value of another type. -/
theorem leaderboards_consistent {admin : Address} {config : Config} (hauth : env.auth admin = true)
    (hweights : config.weights.total = 100) {calls : List (Ledger × EntryPoint)}
    (hcalls : ∀ t ∈ calls, t.2.initializes = false)
    (hfaithful : Along exec Faithful (started env admin config) calls) :
    Consistent (run (started env admin config) calls) (collect exec registrations (started env admin config) calls) ∧
      ∀ env' call, Faithful (run (started env admin config) calls) (env', call) →
        exec call env' (run (started env admin config) calls) ≠ .error conversion_error := by
  obtain ⟨hsound, hsynced⟩ : Sound (started env admin config) [] ∧ Synced (started env admin config) :=
    sound_start hauth hweights
  have hrun := sound_run hsound hcalls
  have hsynced' := synced_run hsound hsynced hcalls hfaithful
  exact ⟨hrun.consistent hsynced', fun env' call => hrun.ne_conversion_error⟩

/-! ## Concrete runs -/

def even_config : Config :=
  { weights := { accuracy_weight := 25, uptime_weight := 25, response_time_weight := 25, dispute_history_weight := 25 }
    min_stake_amount := 100
    slashing_percentage := 100
    reward_percentage := 100
    decay_enabled := true
    recovery_enabled := true
    recovery_period := 0 }

/-- A report of `score` in everything, and of no dispute. -/
def even_report (score : U32) : Report :=
  { accuracy := score, uptime := score, response_time := score, disputes_won := 0, disputes_lost := 0,
    total_operations := 1, successful_operations := 1 }

/-- An entity is slashed and appeals with success; the report that comes after it leaves its score where it is. -/
def steady_run : List (Ledger × EntryPoint) :=
  [(signed_at 1 1, .register_entity (party 1) .OracleNode 5000),
    (signed_at 2 2, .apply_penalty (party 1) 1000 (str "downtime")),
    (signed_at 3 3, .register_entity (party 2) .OracleNode 5000),
    (signed_at 4 4, .submit_appeal (party 1) 100 (str "maintenance")),
    (signed_at 5 5, .resolve_appeal (party 1) true),
    (signed_at 6 6, .record_performance (party 1) (even_report 7500)),
    (signed_at 7 7, .apply_time_decay)]

/-- An entity reports that it does well. -/
def reported_run : List (Ledger × EntryPoint) :=
  [(signed_at 1 1, .register_entity (party 1) .OracleNode 5000),
    (signed_at 2 2, .record_performance (party 1) (even_report 10000))]

theorem leaderboards_consistent_steady :
    (run (started (signed_at 0 0) (party 0) even_config) steady_run (.Reputation (party 1))).isSome = true ∧
      Consistent (run (started (signed_at 0 0) (party 0) even_config) steady_run)
        (collect exec registrations (started (signed_at 0 0) (party 0) even_config) steady_run) :=
  ⟨by decide +kernel, (leaderboards_consistent rfl rfl (by decide) (by decide +kernel)).1⟩

/-- **A stale entry, and a reward that cannot be granted.** After the report the score is 7875 and the entry still has
7500; the reward then traps on the history that stands under the key of the reputation. -/
theorem reported_entry_stale :
    ¬Consistent (run (started (signed_at 0 0) (party 0) even_config) reported_run)
        (collect exec registrations (started (signed_at 0 0) (party 0) even_config) reported_run) ∧
      exec (.grant_reward (party 1) 10 (str "uptime")) (signed_at 3 3)
        (run (started (signed_at 0 0) (party 0) even_config) reported_run) = .error conversion_error := by
  refine ⟨fun h => ?_, ?_⟩
  · obtain ⟨data, hdata, -, -, entry, hentry, hscore, -⟩ := h.stored (party 1, .OracleNode) (by decide +kernel)
    have hstored : ((reputation_of (run (started (signed_at 0 0) (party 0) even_config) reported_run) (party 1)).map
        ReputationData.overall_score) = some 7875 := by decide +kernel
    have hlisted : ((board (run (started (signed_at 0 0) (party 0) even_config) reported_run) .OracleNode).filter
        fun e => e.entity_address = party 1).map LeaderboardEntry.score = [7500] := by decide +kernel
    rw [reputation_of_data hdata, Option.map_some, Option.some.injEq] at hstored
    rw [hentry, List.map_singleton, List.singleton_inj, hscore, hstored] at hlisted
    exact absurd hlisted (by decide)
  · rfl

end Runs

end BridgeWatch.ReputationSystem

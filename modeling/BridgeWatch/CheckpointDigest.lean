/-
What the hash of a checkpoint tells.

The hash is over a concatenation: eleven numbers, the codes of the list one after the other, and then the states of the
assets. No count stands before either list. Still the bytes can be read from the left, because every string has its
length before it, and the states begin with the listed codes again, each once. What the bytes leave out is when a record
expires, and a comparison of two checkpoints looks at that too.
-/
import BridgeWatch.RestoreRoundTrip
import BridgeWatch.SignedMessages
import BridgeWatch.UniqueReading
import BridgeWatch.Fips

set_option autoImplicit false

namespace BridgeWatch.Contract

open Transaction UniqueReading

/-! ## The bytes that are hashed -/

def string_bytes (value : SString) : Buffer := append_u32 [] (len value) ++ value

def health_bytes (health : AssetHealth) : Buffer :=
  let buf := append_u32 (string_bytes health.asset_code) health.health_score
  let buf := append_u32 buf health.liquidity_score
  let buf := append_u32 buf health.price_stability_score
  let buf := append_u32 buf health.bridge_uptime_score
  append_u64 (append_bool (append_bool buf health.paused) health.active) health.timestamp

def price_bytes (price : PriceRecord) : Buffer :=
  append_u64 (append_i128 (string_bytes price.asset_code) price.price ++ string_bytes price.source) price.timestamp

def result_bytes (result : HealthScoreResult) : Buffer := append_health_score_result [] result

/-- A flag, and behind it what is there. -/
def option_bytes {α : Type} (f : α → Buffer) : Option α → Buffer
  | none => append_bool [] false
  | some a => append_bool [] true ++ f a

def state_bytes (state : CheckpointAssetState) : Buffer :=
  string_bytes state.asset_code ++ health_bytes state.health ++ option_bytes price_bytes state.latest_price_opt ++
    option_bytes result_bytes state.health_result_opt

/-- The version, the weights and the risk configuration. -/
def head_bytes (snapshot : CheckpointSnapshot) : Buffer :=
  let data := append_u32 [] snapshot.format_version
  let data := append_u32 data snapshot.health_weights.liquidity_weight
  let data := append_u32 data snapshot.health_weights.price_stability_weight
  let data := append_u32 data snapshot.health_weights.bridge_uptime_weight
  let data := append_u32 data snapshot.health_weights.version
  let data := append_u32 data snapshot.risk_score_config.health_weight_bps
  let data := append_u32 data snapshot.risk_score_config.price_weight_bps
  let data := append_u32 data snapshot.risk_score_config.volatility_weight_bps
  let data := append_u32 data snapshot.risk_score_config.max_price_deviation_bps
  let data := append_u32 data snapshot.risk_score_config.max_volatility_bps
  append_u32 data snapshot.risk_score_config.version

def snapshot_bytes (snapshot : CheckpointSnapshot) : Buffer :=
  head_bytes snapshot ++ ((snapshot.monitored_assets.map string_bytes).flatten ++
    (snapshot.assets.map state_bytes).flatten)

/-- The strings of the state fit into the buffer that they are copied through. -/
structure CheckpointAssetState.Encodable (state : CheckpointAssetState) : Prop where
  code : state.asset_code.length ≤ 256
  health : state.health.asset_code.length ≤ 256
  price : ∀ price ∈ state.latest_price_opt, price.asset_code.length ≤ 256 ∧ price.source.length ≤ 256

structure CheckpointSnapshot.Encodable (snapshot : CheckpointSnapshot) : Prop where
  codes : ∀ code ∈ snapshot.monitored_assets, code.length ≤ 256
  assets : ∀ state ∈ snapshot.assets, state.Encodable

section Encoding

variable {buf out : Buffer}

theorem except_bind_eq_ok {α β : Type} {m : Except String α} {f : α → Except String β} {b : β} :
    (m >>= f) = .ok b ↔ ∃ a, m = .ok a ∧ f a = .ok b := by
  cases m with
  | error | ok => simp [bind, Except.bind]

theorem except_pure_eq_ok {α : Type} {a b : α} : (pure a : Except String α) = .ok b ↔ b = a := by
  rw [show (pure a : Except String α) = .ok a from rfl, Except.ok.injEq, eq_comm]

theorem append_string_eq_ok (value : SString) :
    append_string buf value = .ok out ↔ value.length ≤ 256 ∧ out = buf ++ string_bytes value := by
  simp only [append_string, except_bind_eq_ok, str_to_bytes_inner_eq_ok, except_pure_eq_ok, and_assoc, exists_and_left,
    exists_eq_left, append_u32, string_bytes, List.nil_append, List.append_assoc]

theorem append_asset_health_eq_ok {health : AssetHealth} :
    append_asset_health buf health = .ok out ↔
      health.asset_code.length ≤ 256 ∧ out = buf ++ health_bytes health := by
  simp only [append_asset_health, except_bind_eq_ok, append_string_eq_ok, except_pure_eq_ok, and_assoc, exists_and_left,
    exists_eq_left, append_u32, append_u64, append_bool, health_bytes, List.append_assoc]

theorem append_price_record_eq_ok {price : PriceRecord} :
    append_price_record buf price = .ok out ↔
      (price.asset_code.length ≤ 256 ∧ price.source.length ≤ 256) ∧ out = buf ++ price_bytes price := by
  simp only [append_price_record, except_bind_eq_ok, append_string_eq_ok, except_pure_eq_ok, and_assoc, exists_and_left,
    exists_eq_left, append_i128, append_u64, price_bytes, List.append_assoc]

theorem append_health_score_result_eq (result : HealthScoreResult) :
    append_health_score_result buf result = buf ++ result_bytes result := by
  simp only [result_bytes, append_health_score_result, append_u32, append_u64, List.nil_append, List.append_assoc]

theorem append_checkpoint_asset_eq_ok (state : CheckpointAssetState) :
    append_checkpoint_asset buf state = .ok out ↔ state.Encodable ∧ out = buf ++ state_bytes state := by
  have hencodable : state.Encodable ↔ state.asset_code.length ≤ 256 ∧ state.health.asset_code.length ≤ 256 ∧
      ∀ price ∈ state.latest_price_opt, price.asset_code.length ≤ 256 ∧ price.source.length ≤ 256 :=
    ⟨fun h => ⟨h.code, h.health, h.price⟩, fun h => ⟨h.1, h.2.1, h.2.2⟩⟩
  rw [hencodable]
  cases hprice : state.has_latest_price <;> cases hresult : state.has_health_result <;>
  · simp only [append_checkpoint_asset, except_bind_eq_ok, append_string_eq_ok, append_asset_health_eq_ok,
      append_price_record_eq_ok, append_health_score_result_eq, except_pure_eq_ok, state_bytes,
      CheckpointAssetState.latest_price_opt, CheckpointAssetState.health_result_opt, hprice, hresult, if_true,
      Bool.false_eq_true, if_false, option_bytes, append_bool, and_assoc, exists_and_left, exists_eq_left,
      List.append_assoc, List.nil_append, Option.mem_def, Option.some.injEq, forall_eq', reduceCtorEq, false_implies,
      implies_true, true_and]

theorem foldlM_append_eq_ok {α : Type} {P : α → Prop} {g : α → Buffer} {f : Buffer → α → Except String Buffer}
    (hf : ∀ buf out a, f buf a = .ok out ↔ P a ∧ out = buf ++ g a) {l : List α} :
    l.foldlM f buf = .ok out ↔ (∀ a ∈ l, P a) ∧ out = buf ++ (l.map g).flatten := by
  induction l generalizing buf with
  | nil => simp [except_pure_eq_ok]
  | cons _ _ ih =>
      simp only [List.foldlM_cons, except_bind_eq_ok, hf, ih, List.forall_mem_cons, List.map_cons, List.flatten_cons,
        and_assoc, exists_and_left, exists_eq_left, List.append_assoc]

theorem compute_checkpoint_hash_eq_ok [Host] {snapshot : CheckpointSnapshot} {hash : BytesN 32} :
    compute_checkpoint_hash snapshot = .ok hash ↔
      snapshot.Encodable ∧ hash = Host.sha256 (snapshot_bytes snapshot) := by
  have hencodable : snapshot.Encodable ↔
      (∀ code ∈ snapshot.monitored_assets, code.length ≤ 256) ∧ ∀ state ∈ snapshot.assets, state.Encodable :=
    ⟨fun h => ⟨h.codes, h.assets⟩, fun h => ⟨h.1, h.2⟩⟩
  rw [hencodable]
  have hcodes {buf out : Buffer} {codes : List SString} : codes.foldlM append_string buf = .ok out ↔
      (∀ code ∈ codes, code.length ≤ 256) ∧ out = buf ++ (codes.map string_bytes).flatten :=
    foldlM_append_eq_ok fun _ _ => append_string_eq_ok
  have hassets {buf out : Buffer} {assets : List CheckpointAssetState} :
      assets.foldlM append_checkpoint_asset buf = .ok out ↔
        (∀ state ∈ assets, state.Encodable) ∧ out = buf ++ (assets.map state_bytes).flatten :=
    foldlM_append_eq_ok fun _ _ => append_checkpoint_asset_eq_ok
  simp only [compute_checkpoint_hash, except_bind_eq_ok, hcodes, hassets, except_pure_eq_ok, snapshot_bytes, head_bytes,
    and_assoc, exists_and_left, exists_eq_left, List.append_assoc]

end Encoding

/-! ## Reading the bytes -/

section Reading

variable {x y : Buffer}

theorem be_append_inj {w m n : ℕ} (hm : m < 256 ^ w) (hn : n < 256 ^ w) :
    be w m ++ x = be w n ++ y ↔ m = n ∧ x = y := by
  constructor
  · intro h
    obtain ⟨hword, hrest⟩ := List.append_inj h (by rw [length_be, length_be])
    exact ⟨be_inj hm hn hword, hrest⟩
  · rintro ⟨rfl, rfl⟩
    rfl

theorem u32_append_inj {v w : U32} : be 4 v.toNat ++ x = be 4 w.toNat ++ y ↔ v = w ∧ x = y := by
  rw [be_append_inj v.toNat_lt w.toNat_lt, UInt32.toNat_inj]

theorem u64_append_inj {v w : U64} : be 8 v.toNat ++ x = be 8 w.toNat ++ y ↔ v = w ∧ x = y := by
  rw [be_append_inj v.toNat_lt w.toNat_lt, UInt64.toNat_inj]

theorem i128_append_inj {v w : I128} : be 16 v.toNat ++ x = be 16 w.toNat ++ y ↔ v = w ∧ x = y := by
  rw [be_append_inj v.isLt w.isLt, BitVec.toNat_inj]

theorem bool_append_inj {b c : Bool} :
    ((if b = true then (1 : UInt8) else 0) :: x = (if c = true then 1 else 0) :: y) ↔ b = c ∧ x = y := by
  cases b <;> cases c <;> simp

theorem string_append_inj {s t : SString} (hs : s.length ≤ 256) (ht : t.length ≤ 256) :
    string_bytes s ++ x = string_bytes t ++ y ↔ s = t ∧ x = y := by
  constructor
  · intro h
    simp only [string_bytes, append_u32, List.nil_append, List.append_assoc, u32_append_inj] at h
    obtain ⟨hlen, h⟩ := h
    have hlength : s.length = t.length := by
      have := congrArg UInt32.toNat hlen
      rw [len, len, UInt32.toNat_ofNat', UInt32.toNat_ofNat'] at this
      omega
    exact List.append_inj h hlength
  · rintro ⟨rfl, rfl⟩
    rfl

/-- An option can be read off when what may be in it can. -/
theorem option_append_inj {α β : Type} {f : α → Buffer} {g : α → β} {o o' : Option α}
    (hread : ∀ a ∈ o, ∀ a' ∈ o', f a ++ x = f a' ++ y → g a = g a' ∧ x = y)
    (h : option_bytes f o ++ x = option_bytes f o' ++ y) : o.map g = o'.map g ∧ x = y := by
  cases o <;> cases o'
  · exact ⟨rfl, List.append_cancel_left h⟩
  · cases (List.cons.inj h).1
  · cases (List.cons.inj h).1
  · obtain ⟨hvalue, hrest⟩ := hread _ rfl _ rfl (List.cons.inj h).2
    exact ⟨congrArg some hvalue, hrest⟩

end Reading

/-! ## Records without their expiration -/

def AssetHealth.without_expiry (health : AssetHealth) : AssetHealth := { health with expires_at := 0 }

def PriceRecord.without_expiry (price : PriceRecord) : PriceRecord := { price with expires_at := 0 }

def HealthScoreResult.without_expiry (result : HealthScoreResult) : HealthScoreResult := { result with expires_at := 0 }

def CheckpointAssetState.without_expiry (state : CheckpointAssetState) : CheckpointAssetState :=
  { state with
    health := state.health.without_expiry
    latest_price := state.latest_price.without_expiry
    health_result := state.health_result.without_expiry }

section Records

variable {x y : Buffer}

theorem health_append_inj {health health' : AssetHealth} (h : health.asset_code.length ≤ 256)
    (h' : health'.asset_code.length ≤ 256) (heq : health_bytes health ++ x = health_bytes health' ++ y) :
    health.without_expiry = health'.without_expiry ∧ x = y := by
  simp only [health_bytes, append_u32, append_u64, append_bool, List.append_assoc, List.cons_append,
    List.nil_append, string_append_inj h h', u32_append_inj, u64_append_inj, bool_append_inj] at heq
  simpa only [AssetHealth.without_expiry, AssetHealth.mk.injEq, and_true, and_assoc] using heq

theorem price_append_inj {price price' : PriceRecord}
    (h : price.asset_code.length ≤ 256 ∧ price.source.length ≤ 256)
    (h' : price'.asset_code.length ≤ 256 ∧ price'.source.length ≤ 256)
    (heq : price_bytes price ++ x = price_bytes price' ++ y) :
    price.without_expiry = price'.without_expiry ∧ x = y := by
  simp only [price_bytes, append_i128, append_u64, List.append_assoc, string_append_inj h.1 h'.1, i128_append_inj,
    string_append_inj h.2 h'.2, u64_append_inj] at heq
  simpa only [PriceRecord.without_expiry, PriceRecord.mk.injEq, and_true, and_assoc] using heq

theorem result_append_inj {result result' : HealthScoreResult}
    (heq : result_bytes result ++ x = result_bytes result' ++ y) :
    result.without_expiry = result'.without_expiry ∧ x = y := by
  obtain ⟨_, _, _, _, ⟨_, _, _, _⟩, _, _⟩ := result
  obtain ⟨_, _, _, _, ⟨_, _, _, _⟩, _, _⟩ := result'
  simp only [result_bytes, append_health_score_result, append_u32, append_u64, List.nil_append, List.append_assoc,
    u32_append_inj, u64_append_inj] at heq
  simpa only [HealthScoreResult.without_expiry, HealthScoreResult.mk.injEq, HealthWeights.mk.injEq, and_true,
    and_assoc] using heq

end Records

/-! ## States and snapshots -/

section States

variable {state state' : CheckpointAssetState}

/-- What is captured is the same but for expirations when its records are: the placeholders never expire. -/
theorem CheckpointAssetState.Captured.without_expiry_eq (h : state.Captured) (h' : state'.Captured)
    (hcode : state.asset_code = state'.asset_code)
    (hhealth : state.health.without_expiry = state'.health.without_expiry)
    (hprice : state.latest_price_opt.map PriceRecord.without_expiry =
      state'.latest_price_opt.map PriceRecord.without_expiry)
    (hresult : state.health_result_opt.map HealthScoreResult.without_expiry =
      state'.health_result_opt.map HealthScoreResult.without_expiry) :
    state.without_expiry = state'.without_expiry := by
  have hcaptured (code : SString) (health : AssetHealth) (price : Option PriceRecord)
      (result : Option HealthScoreResult) : (asset_state code health price result).without_expiry =
        asset_state code health.without_expiry (price.map PriceRecord.without_expiry)
          (result.map HealthScoreResult.without_expiry) := by
    cases price <;> cases result <;> rfl
  rw [congrArg CheckpointAssetState.without_expiry h, congrArg CheckpointAssetState.without_expiry h', hcaptured,
    hcaptured, hcode, hhealth, hprice, hresult]

/-- The bytes of a state that a checkpoint holds. -/
def StateText (state : CheckpointAssetState) (bytes : Buffer) : Prop :=
  state.Captured ∧ state.Encodable ∧ bytes = state_bytes state

/-- The bytes of a listed code. -/
def CodeText (code : SString) (bytes : Buffer) : Prop := code.length ≤ 256 ∧ bytes = string_bytes code

theorem reads_code (code : SString) : Reads CodeText (fun _ => True) (· = ·) code := by
  rintro code' _ _ x y ⟨h, rfl⟩ ⟨h', rfl⟩ - - heq
  exact (string_append_inj h h').mp heq

/-- **A state can be read off, up to expirations.** -/
theorem reads_state (state : CheckpointAssetState) :
    Reads StateText (fun _ => True) (fun state state' => state.without_expiry = state'.without_expiry) state := by
  rintro state' _ _ x y ⟨hcaptured, h, rfl⟩ ⟨hcaptured', h', rfl⟩ - - heq
  simp only [state_bytes, List.append_assoc] at heq
  obtain ⟨hcode, heq⟩ := (string_append_inj h.code h'.code).mp heq
  obtain ⟨hhealth, heq⟩ := health_append_inj h.health h'.health heq
  obtain ⟨hprice, heq⟩ := option_append_inj
    (fun price hprice price' hprice' => price_append_inj (h.price price hprice) (h'.price price' hprice')) heq
  obtain ⟨hresult, heq⟩ := option_append_inj (fun result _ result' _ => result_append_inj) heq
  exact ⟨hcaptured.without_expiry_eq hcaptured' hcode hhealth hprice hresult, heq⟩

/-- The bytes of a state begin with those of its code. -/
theorem state_text_begins {bytes : Buffer} (h : StateText state bytes) :
    ∃ text rest, CodeText state.asset_code text ∧ bytes = text ++ rest := by
  obtain ⟨-, hencodable, rfl⟩ := h
  have hbegins : string_bytes state.asset_code <+: state_bytes state := by
    simp only [state_bytes, List.append_assoc]
    exact List.prefix_append _ _
  obtain ⟨rest, hrest⟩ := hbegins
  exact ⟨_, rest, ⟨hencodable.code, rfl⟩, hrest.symm⟩

/-- Expirations are left out. -/
theorem state_bytes_without_expiry (state : CheckpointAssetState) :
    state_bytes state.without_expiry = state_bytes state := by
  cases hprice : state.has_latest_price <;> cases hresult : state.has_health_result <;>
  · simp only [state_bytes, CheckpointAssetState.latest_price_opt, CheckpointAssetState.health_result_opt,
      CheckpointAssetState.without_expiry, hprice, hresult]
    rfl

end States

section Snapshots

variable {from_snapshot to_snapshot : CheckpointSnapshot}

/-- The same state, but for the expirations of records. -/
structure CheckpointSnapshot.AgreesWith (from_snapshot to_snapshot : CheckpointSnapshot) : Prop where
  format_version : from_snapshot.format_version = to_snapshot.format_version
  health_weights : from_snapshot.health_weights = to_snapshot.health_weights
  risk_score_config : from_snapshot.risk_score_config = to_snapshot.risk_score_config
  assets : from_snapshot.assets.map CheckpointAssetState.without_expiry =
    to_snapshot.assets.map CheckpointAssetState.without_expiry

theorem head_append_inj {x y : Buffer} : head_bytes from_snapshot ++ x = head_bytes to_snapshot ++ y ↔
    from_snapshot.format_version = to_snapshot.format_version ∧
      from_snapshot.health_weights = to_snapshot.health_weights ∧
      from_snapshot.risk_score_config = to_snapshot.risk_score_config ∧ x = y := by
  obtain ⟨_, _, _, _, _, _, _, ⟨_, _, _, _⟩, ⟨_, _, _, _, _, _⟩, _, _⟩ := from_snapshot
  obtain ⟨_, _, _, _, _, _, _, ⟨_, _, _, _⟩, ⟨_, _, _, _, _, _⟩, _, _⟩ := to_snapshot
  simp only [head_bytes, append_u32, List.nil_append, List.append_assoc, u32_append_inj, HealthWeights.mk.injEq,
    RiskScoreConfig.mk.injEq, and_assoc]

theorem codes_forall₂ (htaken : from_snapshot.Taken) (h : from_snapshot.Encodable) :
    (from_snapshot.assets.map CheckpointAssetState.asset_code).Forall₂ CodeText
      (from_snapshot.monitored_assets.map string_bytes) := by
  rw [htaken.assets, List.forall₂_map_right_iff, List.forall₂_same]
  exact fun code hcode => ⟨h.codes code hcode, rfl⟩

theorem states_forall₂ (htaken : from_snapshot.Taken) (h : from_snapshot.Encodable) :
    from_snapshot.assets.Forall₂ StateText (from_snapshot.assets.map state_bytes) := by
  rw [List.forall₂_map_right_iff, List.forall₂_same]
  exact fun state hstate => ⟨htaken.captured state hstate, h.assets state hstate, rfl⟩

/-- **The bytes of a snapshot tell its state up to expirations**, and no more. -/
theorem snapshot_bytes_eq_iff (hfrom : from_snapshot.Taken) (hto : to_snapshot.Taken) (h : from_snapshot.Encodable)
    (h' : to_snapshot.Encodable) :
    snapshot_bytes from_snapshot = snapshot_bytes to_snapshot ↔ from_snapshot.AgreesWith to_snapshot := by
  rw [snapshot_bytes, snapshot_bytes, head_append_inj]
  constructor
  · rintro ⟨hversion, hweights, hconfig, heq⟩
    refine ⟨hversion, hweights, hconfig, ?_⟩
    have hnil : ∀ code, ¬CodeText code [] := by
      rintro code ⟨-, hnil⟩
      cases hnil
    have hall := reads_indexed reads_code hnil (fun _ _ htext => state_text_begins htext) reads_state
      (states_forall₂ hfrom h) (codes_forall₂ hfrom h) (hfrom.assets ▸ hfrom.nodup)
      (states_forall₂ hto h') (codes_forall₂ hto h') (hto.assets ▸ hto.nodup) heq
    rw [← List.forall₂_eq_eq_eq, List.forall₂_map_left_iff, List.forall₂_map_right_iff]
    exact hall
  · intro hagrees
    have hcodes (snapshot : CheckpointSnapshot) (hsnapshot : snapshot.Taken) : snapshot.monitored_assets =
        (snapshot.assets.map CheckpointAssetState.without_expiry).map CheckpointAssetState.asset_code := by
      rw [List.map_map, ← hsnapshot.assets]
      rfl
    have hstates (snapshot : CheckpointSnapshot) : snapshot.assets.map state_bytes =
        (snapshot.assets.map CheckpointAssetState.without_expiry).map state_bytes := by
      rw [List.map_map]
      exact List.map_congr_left fun state _ => (state_bytes_without_expiry state).symm
    refine ⟨hagrees.format_version, hagrees.health_weights, hagrees.risk_score_config, ?_⟩
    rw [hcodes _ hfrom, hcodes _ hto, hstates, hstates to_snapshot, hagrees.assets]

end Snapshots

/-! ## Comparisons of stored checkpoints -/

section Comparison

variable {from_snapshot to_snapshot : CheckpointSnapshot}

/-- The records of an asset that is not reported as changed. -/
theorem records_eq_of_unchanged {from_assets states : List CheckpointAssetState}
    {acc : List SString × List CheckpointAssetDiff}
    (h : (states.foldl (compare_checkpoint_asset from_assets) acc).2 = []) :
    acc.2 = [] ∧ ∀ state' ∈ states, ∀ state, find_checkpoint_asset from_assets state'.asset_code = some state →
      state.health = state'.health ∧ state.latest_price = state'.latest_price ∧
        state.health_result = state'.health_result := by
  induction states generalizing acc with
  | nil => exact ⟨h, nofun⟩
  | cons state' _ ih =>
      obtain ⟨hacc, hstates⟩ := ih h
      rw [List.forall_mem_cons]
      have hkept : acc.2 = [] ∧ ∀ state, find_checkpoint_asset from_assets state'.asset_code = some state →
          state.health = state'.health ∧ state.latest_price = state'.latest_price ∧
            state.health_result = state'.health_result := by
        unfold compare_checkpoint_asset at hacc
        split at hacc
        · next state hfound =>
            dsimp only at hacc
            split at hacc
            · simp at hacc
            · next hsame =>
                refine ⟨hacc, fun found hfound' => ?_⟩
                obtain rfl : state = found := Option.some.inj (hfound.symm.trans hfound')
                simpa [and_assoc] using hsame
        · next hnone => exact ⟨hacc, fun found hfound => by rw [hnone] at hfound; cases hfound⟩
      exact ⟨hkept.1, hkept.2, hstates⟩

/-- Snapshots with no changed asset that agree but for expirations have the same assets. -/
theorem assets_eq_of_unchanged (hnodup : (from_snapshot.assets.map CheckpointAssetState.asset_code).Nodup)
    (hagrees : from_snapshot.AgreesWith to_snapshot)
    (h : (to_snapshot.assets.foldl (compare_checkpoint_asset from_snapshot.assets) ([], [])).2 = []) :
    from_snapshot.assets = to_snapshot.assets := by
  obtain ⟨-, hrecords⟩ := records_eq_of_unchanged h
  have hall : from_snapshot.assets.Forall₂ (fun state state' => state.without_expiry = state'.without_expiry)
      to_snapshot.assets := by
    rw [← List.forall₂_map_right_iff, ← List.forall₂_map_left_iff, List.forall₂_eq_eq_eq]
    exact hagrees.assets
  have hmem := (List.forall₂_and_left _ _).mpr ⟨fun state hstate => hstate, ((List.forall₂_and_left _ _).mpr
    ⟨fun state' hstate' => hstate', hall.flip⟩).flip⟩
  rw [← List.forall₂_eq_eq_eq]
  refine hmem.imp ?_
  rintro state state' ⟨hstate, hstate', hsame⟩
  obtain ⟨hcode, -, hprice, -, hresult, -⟩ := CheckpointAssetState.mk.inj hsame
  obtain ⟨hhealth, hlatest, hlast⟩ := hrecords state' hstate' state
    (hcode ▸ find_checkpoint_asset_of_mem hnodup hstate)
  cases state
  cases state'
  simp only [CheckpointAssetState.mk.injEq]
  exact ⟨hcode, hhealth, hprice, hlatest, hresult, hlast⟩

/-- The same state but for expirations, of which one differs. -/
def CheckpointSnapshot.DiffersInExpiry (from_snapshot to_snapshot : CheckpointSnapshot) : Prop :=
  from_snapshot.AgreesWith to_snapshot ∧ from_snapshot.assets ≠ to_snapshot.assets

variable [Host] {calls : List Invocation} {from_id to_id : U64} {env : Env} {s s' : Storage}
variable {comparison : CheckpointComparison}

/-- What a comparison of two stored snapshots is made of. -/
theorem compare_checkpoints_parts (hfrom : s (.ChkpntSnap from_id) = some from_snapshot)
    (hto : s (.ChkpntSnap to_id) = some to_snapshot)
    (h : compare_checkpoints from_id to_id env s = .ok (comparison, s')) :
    from_snapshot.Encodable ∧ to_snapshot.Encodable ∧
      build_checkpoint_comparison from_snapshot to_snapshot from_id to_id = .ok comparison ∧
      (comparison.state_hash_changed = false ↔
        Host.sha256 (snapshot_bytes from_snapshot) = Host.sha256 (snapshot_bytes to_snapshot)) ∧
      comparison.changed_assets =
        (to_snapshot.assets.foldl (compare_checkpoint_asset from_snapshot.assets) ([], [])).2 := by
  simp only [compare_checkpoints, get_checkpoint_or_panic, bind_eq_ok, load_eq_ok, expect_eq_ok, attempt_eq_ok, hfrom,
    hto, Option.some.injEq, and_assoc, exists_and_left, exists_eq_left, exists_eq_left'] at h
  obtain ⟨hbuild, -⟩ := h
  have hparts := hbuild
  simp only [build_checkpoint_comparison, except_bind_eq_ok, compute_checkpoint_hash_eq_ok, except_pure_eq_ok,
    and_assoc, exists_and_left, exists_eq_left] at hparts
  obtain ⟨hencodable, hencodable', rfl⟩ := hparts
  exact ⟨hencodable, hencodable', hbuild, by simp, rfl⟩

/-- **What the hash misses.** Of two stored checkpoints, the hash stays the same only where the comparison reports no
difference, unless they differ in nothing but the expiration of records. -/
theorem hash_detects_iff (hfrom : run empty_storage calls (.ChkpntSnap from_id) = some from_snapshot)
    (hto : run empty_storage calls (.ChkpntSnap to_id) = some to_snapshot)
    (hsha256 : Host.sha256.CollisionFree [snapshot_bytes from_snapshot, snapshot_bytes to_snapshot])
    (hcompare : compare_checkpoints from_id to_id env (run empty_storage calls) = .ok (comparison, s')) :
    (comparison.state_hash_changed = false → comparison.Unchanged) ↔ ¬from_snapshot.DiffersInExpiry to_snapshot := by
  have hinvariant := snapshotInvariant_run calls
  have htaken := hinvariant.snapshots _ _ hfrom
  have htaken' := hinvariant.snapshots _ _ hto
  have hnodup : (from_snapshot.assets.map CheckpointAssetState.asset_code).Nodup := htaken.assets ▸ htaken.nodup
  obtain ⟨hencodable, hencodable', hbuild, hhash, hchanged⟩ := compare_checkpoints_parts hfrom hto hcompare
  have hbytes := snapshot_bytes_eq_iff htaken htaken' hencodable hencodable'
  rw [hhash]
  constructor
  · rintro hdetects ⟨hagrees, hne⟩
    have hunchanged := hdetects (congrArg Host.sha256 (hbytes.mpr hagrees))
    exact hne (assets_eq_of_unchanged hnodup hagrees (hchanged.symm.trans hunchanged.changed))
  · intro hexpiry hsame
    have hagrees := hbytes.mp (hsha256 (by simp) (by simp) hsame)
    have hassets : from_snapshot.assets = to_snapshot.assets := by
      by_contra hne
      exact hexpiry ⟨hagrees, hne⟩
    obtain ⟨comparison', hbuild', hunchanged⟩ := build_checkpoint_comparison_self hnodup hassets.symm
      hagrees.health_weights.symm (compute_checkpoint_hash_eq_ok.mpr ⟨hencodable, rfl⟩)
      (compute_checkpoint_hash_eq_ok.mpr ⟨hencodable', rfl⟩)
    rwa [Except.ok.inj (hbuild.symm.trans hbuild')]

end Comparison

/-! ## Concrete runs -/

/-- A host with the real hash. -/
abbrev fips_host : Host where
  sha256 := Fips.sha256
  ed25519_verify _ _ _ := false
  current_contract_address := .contract zero32

/-- An asset is paused between two checkpoints. -/
def paused_between : List Invocation :=
  [(mock_all_auths 1, .initialize_contract (test_address 0)),
    (mock_all_auths 2, .register_asset (test_address 0) (str "USDC")),
    (mock_all_auths 3, .pause_asset (test_address 0) (str "USDC")),
    (mock_all_auths 4, .create_checkpoint (test_address 0) (str "manual"))]

theorem hash_detects_paused :
    ∃ (_ : Host) (from_snapshot to_snapshot : CheckpointSnapshot) (comparison : CheckpointComparison) (s' : Storage),
      run empty_storage paused_between (.ChkpntSnap 1) = some from_snapshot ∧
      run empty_storage paused_between (.ChkpntSnap 2) = some to_snapshot ∧
      compare_checkpoints 1 2 (mock_all_auths 5) (run empty_storage paused_between) = .ok (comparison, s') ∧
      ((comparison.state_hash_changed = false → comparison.Unchanged) ↔
        ¬from_snapshot.DiffersInExpiry to_snapshot) := by
  let _ : Host := fips_host
  have hfree : ((run empty_storage paused_between (.ChkpntSnap 1)).any fun from_snapshot =>
      (run empty_storage paused_between (.ChkpntSnap 2)).any fun to_snapshot =>
        decide (Fips.sha256.CollisionFree [snapshot_bytes from_snapshot, snapshot_bytes to_snapshot])) = true := by
    decide +kernel
  have hreturned : (returned (compare_checkpoints 1 2 (mock_all_auths 5)
    (run empty_storage paused_between))).isSome := by decide +kernel
  obtain ⟨from_snapshot, hfrom, hfree⟩ := (Option.any_eq_true _ _).mp hfree
  obtain ⟨to_snapshot, hto, hfree⟩ := (Option.any_eq_true _ _).mp hfree
  obtain ⟨comparison, hcomparison⟩ := Option.isSome_iff_exists.mp hreturned
  obtain ⟨s', h⟩ := exists_of_returned hcomparison
  exact ⟨fips_host, from_snapshot, to_snapshot, comparison, s', hfrom, hto, h,
    hash_detects_iff hfrom hto (of_decide_eq_true hfree) h⟩

/-- The record of an asset is extended between two checkpoints. -/
def extended_between : List Invocation :=
  [(mock_all_auths 1, .initialize_contract (test_address 0)),
    (mock_all_auths 2, .register_asset (test_address 0) (str "USDC")),
    (mock_all_auths 3, .extend_expiration (test_address 0) (str "USDC") 60),
    (mock_all_auths 4, .create_checkpoint (test_address 0) (str "manual"))]

/-- **A change that the hash misses.** The bytes that are hashed are the same, so it is no collision; the comparison
reports the extended record as changed. -/
theorem extended_unnoticed :
    ∃ (_ : Host) (from_snapshot to_snapshot : CheckpointSnapshot) (comparison : CheckpointComparison) (s' : Storage),
      run empty_storage extended_between (.ChkpntSnap 1) = some from_snapshot ∧
      run empty_storage extended_between (.ChkpntSnap 2) = some to_snapshot ∧
      snapshot_bytes from_snapshot = snapshot_bytes to_snapshot ∧
      compare_checkpoints 1 2 (mock_all_auths 5) (run empty_storage extended_between) = .ok (comparison, s') ∧
      comparison.state_hash_changed = false ∧ ¬comparison.Unchanged := by
  let _ : Host := fips_host
  have hstored : ((run empty_storage extended_between (.ChkpntSnap 1)).any fun from_snapshot =>
      (run empty_storage extended_between (.ChkpntSnap 2)).any fun to_snapshot =>
        decide (snapshot_bytes from_snapshot = snapshot_bytes to_snapshot)) = true := by
    decide +kernel
  have hreturned : ((returned (compare_checkpoints 1 2 (mock_all_auths 5) (run empty_storage extended_between))).any
      fun comparison => !comparison.state_hash_changed && !comparison.changed_assets.isEmpty) = true := by
    decide +kernel
  obtain ⟨from_snapshot, hfrom, hstored⟩ := (Option.any_eq_true _ _).mp hstored
  obtain ⟨to_snapshot, hto, hbytes⟩ := (Option.any_eq_true _ _).mp hstored
  obtain ⟨comparison, hcomparison, hdiffers⟩ := (Option.any_eq_true _ _).mp hreturned
  obtain ⟨s', h⟩ := exists_of_returned hcomparison
  rw [Bool.and_eq_true, Bool.not_eq_true', Bool.not_eq_true'] at hdiffers
  refine ⟨fips_host, from_snapshot, to_snapshot, comparison, s', hfrom, hto, of_decide_eq_true hbytes, h,
    hdiffers.1, ?_⟩
  intro hunchanged
  rw [hunchanged.changed] at hdiffers
  cases hdiffers.2

end BridgeWatch.Contract

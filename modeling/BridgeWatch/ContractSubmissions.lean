/-
Submissions of health and prices: single, batched, signed, calculated and from several
sources, with the two logs that they append to.

A call may ask for the authorisation of one address several times, as the signed entry
points do; here each of these checks has the same answer.
-/
import BridgeWatch.ContractCheckpoints

set_option autoImplicit false
-- The instance of a footprint is as long as its function.
set_option synthInstance.maxSize 2048

namespace BridgeWatch.Contract

open Transaction

variable {ts : List Tag}

/-! ## Logs -/

def EVENT_SCHEMA_VERSION : U32 := 1

/-- The last `limit` entries of a log that was within `limit` before its last entry. -/
def trim_log {α : Type} (limit : ℕ) (log : List α) : List α :=
  if limit < log.length then log.drop 1 else log

def append_replay_event (event_type : SString) (actor : Address) (subject : SString)
    (value : I128) : Soroban Unit := do
  let counter ← get .EVENT_REPLAY_CTR
  let seq ← add_u32 (counter.getD 0) 1
  set .EVENT_REPLAY_CTR seq
  let now ← timestamp
  let entry : EventReplayEntry :=
    { event_id := seq
      event_type := event_type
      actor := actor
      subject := subject
      value := value
      timestamp := now
      ordering_key := (now <<< 32) ||| seq.toUInt64
      schema_version := EVENT_SCHEMA_VERSION }
  let log ← get .EVENT_REPLAY_LOG
  set .EVENT_REPLAY_LOG (trim_log 1000 (log.getD [] ++ [entry]))

def append_admin_activity (action : AdminActivityAction) (actor : Address) (detail : SString) :
    Soroban Unit := do
  let counter ← get .ADMIN_ACTIVITY_CTR
  let seq ← add_u32 (counter.getD 0) 1
  set .ADMIN_ACTIVITY_CTR seq
  let now ← timestamp
  let entry : AdminActivityEntry := { sequence := seq, action, actor, detail, timestamp := now }
  let log ← get .ADMIN_ACTIVITY_LOG
  set .ADMIN_ACTIVITY_LOG (trim_log 500 (log.getD [] ++ [entry]))

instance [Among .EVENT_REPLAY_CTR ts] [Among .EVENT_REPLAY_LOG ts] (event_type : SString)
    (actor : Address) (subject : SString) (value : I128) :
    Writes ts (append_replay_event event_type actor subject value) := by
  unfold append_replay_event
  infer_instance

instance [Among .ADMIN_ACTIVITY_CTR ts] [Among .ADMIN_ACTIVITY_LOG ts]
    (action : AdminActivityAction) (actor : Address) (detail : SString) :
    Writes ts (append_admin_activity action actor detail) := by
  unfold append_admin_activity
  infer_instance

/-! ## What an asset must be to take submissions -/

def assert_asset_not_locked (asset_code : SString) : Soroban Unit := do
  let lock_state ← get (.Lock asset_code)
  lock_state.elim (pure ()) fun state =>
    panic_if (state.is_locked = true) "asset is locked for maintenance"

def assert_asset_accepting_submissions (record : AssetHealth) : Soroban Unit := do
  panic_if (record.active = false) "asset is deregistered"
  panic_if (record.paused = true) "asset monitoring is paused"

/-- While some trusted source is active, only trusted sources may submit. -/
def assert_trusted_when_enforced (caller : Address) : Soroban Unit := do
  let active_sources ← source_trust.get_active_trusted_sources
  exec_if (active_sources ≠ []) (source_trust.require_trusted_source caller)

instance (asset_code : SString) : Writes ts (assert_asset_not_locked asset_code) := by
  unfold assert_asset_not_locked
  infer_instance

instance (record : AssetHealth) : Writes ts (assert_asset_accepting_submissions record) := by
  unfold assert_asset_accepting_submissions
  infer_instance

instance (caller : Address) : Writes ts (assert_trusted_when_enforced caller) := by
  unfold assert_trusted_when_enforced
  infer_instance

/-! ## Health and prices -/

/-- The record that a submission leaves, of an asset whose record was `status`. -/
def health_record (status : AssetHealth) (asset_code : SString)
    (health_score liquidity_score price_stability_score bridge_uptime_score : U32)
    (timestamp expires_at : U64) : AssetHealth :=
  { asset_code
    health_score
    liquidity_score
    price_stability_score
    bridge_uptime_score
    paused := status.paused
    active := status.active
    timestamp
    expires_at }

def submit_health [Host] (caller : Address) (asset_code : SString)
    (health_score liquidity_score price_stability_score bridge_uptime_score : U32) :
    Soroban Unit := do
  check_permission caller .HealthSubmitter
  assert_asset_not_locked asset_code
  assert_trusted_when_enforced caller
  let status ← load_asset_health asset_code
  assert_asset_accepting_submissions status
  let now ← timestamp
  let expires_at ← resolve_expiration .Asset now
  set (.Health asset_code)
    (health_record status asset_code health_score liquidity_score price_stability_score
      bridge_uptime_score now expires_at)
  append_replay_event (str "health_up") caller asset_code (U32.as_i128 health_score)
  maybe_create_auto_checkpoint caller

/-- The body of the loop of `submit_health_batch`. -/
def submit_health_item (now : U64) (item : HealthScoreBatch) : Soroban Unit := do
  let status ← load_asset_health item.asset_code
  assert_asset_accepting_submissions status
  let expires_at ← resolve_expiration .Asset now
  set (.Health item.asset_code)
    (health_record status item.asset_code item.health_score item.liquidity_score
      item.price_stability_score item.bridge_uptime_score now expires_at)

def submit_health_batch [Host] (caller : Address) (records : List HealthScoreBatch) :
    Soroban Unit := do
  check_permission caller .HealthSubmitter
  panic_if (20 < records.length) "batch size exceeds the maximum of 20 records"
  let now ← timestamp
  records.foldlM (fun _ item => submit_health_item now item) ()
  maybe_create_auto_checkpoint caller

def submit_price [Host] (caller : Address) (asset_code : SString) (price : I128)
    (source : SString) : Soroban Unit := do
  check_permission caller .PriceSubmitter
  assert_asset_not_locked asset_code
  assert_trusted_when_enforced caller
  let status ← load_asset_health asset_code
  assert_asset_accepting_submissions status
  let now ← timestamp
  let expires_at ← resolve_expiration .Price now
  let record : PriceRecord := { asset_code, price, source, timestamp := now, expires_at }
  set (.Price asset_code) record
  let history ← get (.PriceHist asset_code)
  set (.PriceHist asset_code) (history.getD [] ++ [record])
  maybe_create_auto_checkpoint caller

section Footprints

variable [Host] (caller : Address) (asset_code : SString)

instance [Within (.Health :: .EVENT_REPLAY_CTR :: .EVENT_REPLAY_LOG :: checkpointTags) ts]
    (health_score liquidity_score price_stability_score bridge_uptime_score : U32) :
    Writes ts (submit_health caller asset_code health_score liquidity_score price_stability_score
      bridge_uptime_score) := by
  apply Writes.mono (.Health :: .EVENT_REPLAY_CTR :: .EVENT_REPLAY_LOG :: checkpointTags)
  unfold submit_health
  infer_instance

instance [Among .Health ts] (now : U64) (item : HealthScoreBatch) :
    Writes ts (submit_health_item now item) := by
  unfold submit_health_item
  infer_instance

instance [Within (.Health :: checkpointTags) ts] (records : List HealthScoreBatch) :
    Writes ts (submit_health_batch caller records) := by
  apply Writes.mono (.Health :: checkpointTags)
  unfold submit_health_batch
  infer_instance

instance [Within (.Price :: .PriceHist :: checkpointTags) ts] (price : I128) (source : SString) :
    Writes ts (submit_price caller asset_code price source) := by
  apply Writes.mono (.Price :: .PriceHist :: checkpointTags)
  unfold submit_price
  infer_instance

end Footprints

/-! ## Signers -/

def load_signer (signer_id : SString) : Soroban Signer := do
  let signer ← get (.Signer signer_id)
  expect signer "signer not found"

def register_signer (caller : Address) (signer_id : SString) (public_key : BytesN 32) :
    Soroban Unit := do
  check_permission caller .SuperAdmin
  let existing ← get (.Signer signer_id)
  panic_if (existing ≠ none) "signer already registered"
  let now ← timestamp
  set (.Signer signer_id) { public_key, active := true, registered_at := now }
  let signers ← get .SIGNER_LIST
  set .SIGNER_LIST (signers.getD [] ++ [signer_id])

def remove_signer (caller : Address) (signer_id : SString) : Soroban Unit := do
  check_permission caller .SuperAdmin
  let signer ← load_signer signer_id
  panic_if (signer.active = false) "signer is already removed"
  set (.Signer signer_id) { signer with active := false }

def set_signature_threshold (caller : Address) (threshold : U32) : Soroban Unit := do
  check_permission caller .SuperAdmin
  panic_if (threshold = 0) "signature threshold must be at least 1"
  set .SIGNATURE_THRESHOLD threshold

def get_signature_threshold : Soroban U32 := do
  let threshold ← get .SIGNATURE_THRESHOLD
  return threshold.getD 1

/-- The bytes whose digest makes the signature of `signer_id` on `message`. -/
def signed_data (message : Buffer) (signer_id : SString) (public_key : BytesN 32)
    (nonce expiry : U64) : Buffer :=
  let data := message ++ signer_id
  let data := append_bytesn data public_key
  let data := append_u64 data nonce
  append_u64 data expiry

/-- What the loop over the bytes of a signature compares it with: the digest, twice. -/
def digest_signature (digest : BytesN 32) : BytesN 64 := digest ++ digest

/-- The part of `verify_signature` after a miss in the cache. -/
def check_signature [Host] (message : Buffer) (signer : Signer) (signature : SignerSignature) :
    Soroban Unit := do
  let last_nonce ← get (.SignerNonce signature.signer_id)
  panic_if (signature.nonce ≤ last_nonce.getD 0) "nonce replay detected"
  let signer_id ← attempt (str_to_bytes_inner signature.signer_id)
  let digest :=
    Host.sha256 (signed_data message signer_id signer.public_key signature.nonce signature.expiry)
  panic_if (signature.signature ≠ digest_signature digest) "invalid signature"
  set (.SignerNonce signature.signer_id) signature.nonce
  set (.SigCache (Host.sha256 message)) true

def verify_signature [Host] (message : Buffer) (signature : SignerSignature) : Soroban Bool := do
  let signer ← load_signer signature.signer_id
  panic_if (signer.active = false) "signer is not active"
  let now ← timestamp
  panic_if (signature.expiry ≠ 0 ∧ signature.expiry < now) "signature has expired"
  let cached ← get (.SigCache (Host.sha256 message))
  exec_if (cached.getD false = false) (check_signature message signer signature)
  return true

/-- The body of the loop of `verify_multi_sig`, over the signer ids seen and the number of
valid signatures. -/
def verify_next [Host] (message : Buffer) (acc : List SString × U32) (s : SignerSignature) :
    Soroban (List SString × U32) := do
  panic_if (s.signer_id ∈ acc.1) "duplicate signer in multi-sig"
  let ok ← verify_signature message s
  return (acc.1 ++ [s.signer_id], if ok then saturating_add_u32 acc.2 1 else acc.2)

def verify_multi_sig [Host] (message : Buffer) (signatures : List SignerSignature) :
    Soroban Bool := do
  let threshold ← get_signature_threshold
  panic_if (signatures.length < threshold.toNat) "insufficient signatures"
  let result ← signatures.foldlM (verify_next message) ([], 0)
  panic_if (result.2 < threshold) "signatures below configured threshold"
  return true

section Footprints

variable (caller : Address) (signer_id : SString) (public_key : BytesN 32) (threshold : U32)
variable (message : Buffer) (signature : SignerSignature)

instance : Writes ts (load_signer signer_id) := by
  unfold load_signer
  infer_instance

instance [Among .Signer ts] [Among .SIGNER_LIST ts] :
    Writes ts (register_signer caller signer_id public_key) := by
  unfold register_signer
  infer_instance

instance [Among .Signer ts] : Writes ts (remove_signer caller signer_id) := by
  unfold remove_signer
  infer_instance

instance [Among .SIGNATURE_THRESHOLD ts] : Writes ts (set_signature_threshold caller threshold) := by
  unfold set_signature_threshold
  infer_instance

instance : Writes ts get_signature_threshold := by
  unfold get_signature_threshold
  infer_instance

instance [Host] [Among .SignerNonce ts] [Among .SigCache ts] (signer : Signer) :
    Writes ts (check_signature message signer signature) := by
  unfold check_signature
  infer_instance

instance [Host] [Among .SignerNonce ts] [Among .SigCache ts] :
    Writes ts (verify_signature message signature) := by
  unfold verify_signature
  infer_instance

instance [Host] [Among .SignerNonce ts] [Among .SigCache ts] (acc : List SString × U32) :
    Writes ts (verify_next message acc signature) := by
  unfold verify_next
  infer_instance

instance [Host] [Among .SignerNonce ts] [Among .SigCache ts] (signatures : List SignerSignature) :
    Writes ts (verify_multi_sig message signatures) := by
  unfold verify_multi_sig
  infer_instance

end Footprints

/-! ## Signed submissions -/

def build_health_message (asset_code : SString)
    (health_score liquidity_score price_stability_score bridge_uptime_score : U32) :
    Except String Buffer := do
  let data ← str_to_bytes_inner asset_code
  let data := append_u32 data health_score
  let data := append_u32 data liquidity_score
  let data := append_u32 data price_stability_score
  return append_u32 data bridge_uptime_score

/-- The message that `submit_price_signed` builds. -/
def build_price_message (asset_code : SString) (price : I128) (source : SString) :
    Except String Buffer := do
  let message ← str_to_bytes_inner asset_code
  let message := append_u64 message (I128.as_u64 price)
  let source_bytes ← str_to_bytes_inner source
  return message ++ source_bytes

/-- The message that `submit_health_batch_signed` builds. -/
def build_batch_message (records : List HealthScoreBatch) : Except String Buffer :=
  records.foldlM (fun batch_message item => do
    let component ← build_health_message item.asset_code item.health_score item.liquidity_score
      item.price_stability_score item.bridge_uptime_score
    return batch_message ++ component) []

def submit_health_signed [Host] (caller : Address) (asset_code : SString)
    (health_score liquidity_score price_stability_score bridge_uptime_score : U32)
    (signature : SignerSignature) : Soroban Unit := do
  check_permission caller .HealthSubmitter
  let message ← attempt (build_health_message asset_code health_score liquidity_score
    price_stability_score bridge_uptime_score)
  let _ ← verify_signature message signature
  submit_health caller asset_code health_score liquidity_score price_stability_score
    bridge_uptime_score

def submit_price_signed [Host] (caller : Address) (asset_code : SString) (price : I128)
    (source : SString) (signature : SignerSignature) : Soroban Unit := do
  check_permission caller .PriceSubmitter
  let message ← attempt (build_price_message asset_code price source)
  let _ ← verify_signature message signature
  submit_price caller asset_code price source

def submit_health_batch_signed [Host] (caller : Address) (records : List HealthScoreBatch)
    (signatures : List SignerSignature) : Soroban Unit := do
  check_permission caller .HealthSubmitter
  let batch_message ← attempt (build_batch_message records)
  let _ ← verify_multi_sig batch_message signatures
  submit_health_batch caller records

section Footprints

variable [Host] (caller : Address) (asset_code : SString)

/-- What a signed submission of health writes. -/
abbrev signedHealthTags : List Tag :=
  .SignerNonce :: .SigCache :: .Health :: .EVENT_REPLAY_CTR :: .EVENT_REPLAY_LOG :: checkpointTags

instance [Within signedHealthTags ts]
    (health_score liquidity_score price_stability_score bridge_uptime_score : U32)
    (signature : SignerSignature) :
    Writes ts (submit_health_signed caller asset_code health_score liquidity_score
      price_stability_score bridge_uptime_score signature) := by
  apply Writes.mono signedHealthTags
  unfold submit_health_signed
  infer_instance

instance [Within (.SignerNonce :: .SigCache :: .Price :: .PriceHist :: checkpointTags) ts]
    (price : I128) (source : SString) (signature : SignerSignature) :
    Writes ts (submit_price_signed caller asset_code price source signature) := by
  apply Writes.mono (.SignerNonce :: .SigCache :: .Price :: .PriceHist :: checkpointTags)
  unfold submit_price_signed
  infer_instance

instance [Within (.SignerNonce :: .SigCache :: .Health :: checkpointTags) ts]
    (records : List HealthScoreBatch) (signatures : List SignerSignature) :
    Writes ts (submit_health_batch_signed caller records signatures) := by
  apply Writes.mono (.SignerNonce :: .SigCache :: .Health :: checkpointTags)
  unfold submit_health_batch_signed
  infer_instance

end Footprints

/-! ## Calculated health -/

/-- The parameters of the health score, and of the risk score. -/
def validate_weights (liq stab up : U32) : Soroban Unit := do
  panic_if (100 < liq ∨ 100 < stab ∨ 100 < up) "each weight must be between 0 and 100"
  panic_if (liq + stab + up ≠ 100) "weights must sum to 100"

def validate_score_range (score : U32) (name : String) : Soroban Unit :=
  panic_if (100 < score) (name ++ " must be between 0 and 100")

def validate_risk_score_config (config : RiskScoreConfig) : Soroban Unit := do
  panic_if (10000 < config.health_weight_bps ∨ 10000 < config.price_weight_bps ∨
    10000 < config.volatility_weight_bps) "risk weights must be between 0 and 10000"
  panic_if (config.health_weight_bps + config.price_weight_bps + config.volatility_weight_bps ≠
    10000) "risk weights must sum to 10000"
  panic_if (config.max_price_deviation_bps = 0)
    "max_price_deviation_bps must be greater than zero"
  panic_if (config.max_volatility_bps = 0) "max_volatility_bps must be greater than zero"
  panic_if (config.version = 0) "risk score config version must be greater than 0"

/-- The weighted sum does not overflow: the callers have checked that the scores are at
most 100. -/
def compute_composite (liquidity_score price_stability_score bridge_uptime_score : U32)
    (weights : HealthWeights) : U32 :=
  let weighted_sum :=
    liquidity_score.toNat * weights.liquidity_weight.toNat +
      price_stability_score.toNat * weights.price_stability_weight.toNat +
      bridge_uptime_score.toNat * weights.bridge_uptime_weight.toNat
  UInt32.ofNat (weighted_sum / 100)

def set_health_weights [Host] (caller : Address)
    (liquidity_weight price_stability_weight bridge_uptime_weight version : U32) :
    Soroban Unit := do
  assert_admin_or_super_admin_with "only admin or SuperAdmin can set health weights" caller
  validate_weights liquidity_weight price_stability_weight bridge_uptime_weight
  panic_if (version = 0) "methodology version must be greater than 0"
  set .HEALTH_WEIGHTS { liquidity_weight, price_stability_weight, bridge_uptime_weight, version }
  maybe_create_auto_checkpoint caller

/-- The parameters of the call are those of `config`. -/
def set_risk_score_config [Host] (caller : Address) (config : RiskScoreConfig) :
    Soroban Unit := do
  assert_admin_or_super_admin_with "only admin or SuperAdmin can set risk score config" caller
  validate_risk_score_config config
  set .RISK_SCORE_CONFIG config
  maybe_create_auto_checkpoint caller

/-- The three range checks of a calculated score. -/
def validate_scores (liquidity_score price_stability_score bridge_uptime_score : U32) :
    Soroban Unit := do
  validate_score_range liquidity_score "liquidity_score"
  validate_score_range price_stability_score "price_stability_score"
  validate_score_range bridge_uptime_score "bridge_uptime_score"

/-- The manual override when there is one, else the calculated score. -/
def final_score (manual_override : Option U32) (calculated_composite : U32) : Soroban U32 :=
  manual_override.elim (pure calculated_composite) fun override_score => do
    validate_score_range override_score "manual_override"
    return override_score

def submit_calculated_health [Host] (caller : Address) (asset_code : SString)
    (liquidity_score price_stability_score bridge_uptime_score : U32)
    (manual_override : Option U32) : Soroban Unit := do
  check_permission caller .HealthSubmitter
  let status ← load_asset_health asset_code
  assert_asset_accepting_submissions status
  validate_scores liquidity_score price_stability_score bridge_uptime_score
  let weights ← load_health_weights
  let composite_score :=
    compute_composite liquidity_score price_stability_score bridge_uptime_score weights
  let health_score ← final_score manual_override composite_score
  let now ← timestamp
  let expires_at ← resolve_expiration .Asset now
  let result_expires_at ← resolve_expiration .HealthResult now
  set (.Health asset_code)
    (health_record status asset_code health_score liquidity_score price_stability_score
      bridge_uptime_score now expires_at)
  set (.HealthRes asset_code)
    { composite_score
      liquidity_score
      price_stability_score
      bridge_uptime_score
      weights
      timestamp := now
      expires_at := result_expires_at }
  maybe_create_auto_checkpoint caller

section Footprints

variable (caller : Address) (x y z w : U32) (name : String) (config : RiskScoreConfig)
variable (manual_override : Option U32)

instance : Writes ts (validate_weights x y z) := by
  unfold validate_weights
  infer_instance

instance : Writes ts (validate_score_range x name) := by
  unfold validate_score_range
  infer_instance

instance : Writes ts (validate_risk_score_config config) := by
  unfold validate_risk_score_config
  infer_instance

instance : Writes ts (validate_scores x y z) := by
  unfold validate_scores
  infer_instance

instance : Writes ts (final_score manual_override x) := by
  unfold final_score
  infer_instance

instance [Host] [Within (.HEALTH_WEIGHTS :: checkpointTags) ts] :
    Writes ts (set_health_weights caller x y z w) := by
  apply Writes.mono (.HEALTH_WEIGHTS :: checkpointTags)
  unfold set_health_weights
  infer_instance

instance [Host] [Within (.RISK_SCORE_CONFIG :: checkpointTags) ts] :
    Writes ts (set_risk_score_config caller config) := by
  apply Writes.mono (.RISK_SCORE_CONFIG :: checkpointTags)
  unfold set_risk_score_config
  infer_instance

instance [Host] [Within (.Health :: .HealthRes :: checkpointTags) ts] (asset_code : SString) :
    Writes ts (submit_calculated_health caller asset_code x y z manual_override) := by
  apply Writes.mono (.Health :: .HealthRes :: checkpointTags)
  unfold submit_calculated_health
  infer_instance

instance [Host] : Blocked Paused (set_health_weights caller x y z w) := by
  unfold set_health_weights
  infer_instance

instance [Host] : Blocked Paused (set_risk_score_config caller config) := by
  unfold set_risk_score_config
  infer_instance

end Footprints

/-! ## Health from several sources -/

def register_health_source (caller : Address) (source_id : SString) (weight_bps : U32) :
    Soroban Unit := do
  assert_only_admin "only admin can register health sources" caller
  panic_if (weight_bps = 0) "weight_bps must be greater than zero"
  let now ← timestamp
  let source : HealthSource := { source_id, weight_bps, trusted := true, registered_at := now }
  let sources ← get .HEALTH_SOURCES
  let sources := sources.getD []
  let updated := sources.map fun s => if s.source_id = source_id then source else s
  let found := sources.any fun s => s.source_id = source_id
  set .HEALTH_SOURCES (if found then updated else updated ++ [source])
  append_admin_activity .AssetRegistered caller source_id

def revoke_health_source (caller : Address) (source_id : SString) : Soroban Unit := do
  assert_only_admin "only admin can revoke health sources" caller
  let sources ← get .HEALTH_SOURCES
  let sources := sources.getD []
  panic_if (sources.all fun s => s.source_id ≠ source_id) "health source not registered"
  set .HEALTH_SOURCES
    (sources.map fun s => if s.source_id = source_id then { s with trusted := false } else s)

def submit_health_multi_source (caller : Address) (source_id asset_code : SString)
    (health_score liquidity_score price_stability_score bridge_uptime_score : U32) :
    Soroban Unit := do
  assert_not_globally_paused
  check_permission caller .HealthSubmitter
  let sources ← get .HEALTH_SOURCES
  let is_trusted := (sources.getD []).any fun s => s.source_id = source_id && s.trusted
  panic_if (is_trusted = false) "source is not registered or not trusted"
  let now ← timestamp
  set (.HealthSourceEntry source_id asset_code)
    { source_id
      asset_code
      health_score
      liquidity_score
      price_stability_score
      bridge_uptime_score
      submitted_at := now }
  append_replay_event (str "ms_hlth") caller asset_code (U32.as_i128 health_score)
  append_admin_activity .HealthSubmitted caller asset_code

section Footprints

variable (caller : Address) (source_id asset_code : SString) (x y z w : U32)

instance [Among .HEALTH_SOURCES ts] [Among .ADMIN_ACTIVITY_CTR ts] [Among .ADMIN_ACTIVITY_LOG ts] :
    Writes ts (register_health_source caller source_id x) := by
  unfold register_health_source
  infer_instance

instance [Among .HEALTH_SOURCES ts] : Writes ts (revoke_health_source caller source_id) := by
  unfold revoke_health_source
  infer_instance

instance [Among .HealthSourceEntry ts] [Among .EVENT_REPLAY_CTR ts] [Among .EVENT_REPLAY_LOG ts]
    [Among .ADMIN_ACTIVITY_CTR ts] [Among .ADMIN_ACTIVITY_LOG ts] :
    Writes ts (submit_health_multi_source caller source_id asset_code x y z w) := by
  unfold submit_health_multi_source
  infer_instance

instance : Blocked Paused (submit_health_multi_source caller source_id asset_code x y z w) := by
  unfold submit_health_multi_source
  infer_instance

end Footprints

end BridgeWatch.Contract

/-
The asset registry, `contracts/soroban/src/asset_registry.rs`.

A contract of its own, with its own storage. Every entry point that can change the storage is here, with its checks
in the order of the source; of the read-only ones the listings are here, as functions of the storage, and
`is_asset_frozen`. The events are left out, which no function reads back. An index is a list of codes under a key, and
the two functions that keep it are given the reading and the writing of their list.
-/
import BridgeWatch.HostCalls

set_option autoImplicit false

namespace BridgeWatch.AssetRegistry

open Transaction
open Contract (U32 U64 SString Address Env str)

/-- The most versions that are kept of an asset's metadata. -/
def MAX_VERSIONS : ℕ := 50

def MAX_CHAINS : ℕ := 20
def MAX_ORACLE_FEEDS : ℕ := 10
def MAX_BRIDGES : ℕ := 10
def MAX_POOLS : ℕ := 20
def STRKEY_ENCODED_LEN : ℕ := 56

/-- One version byte, 32 bytes of a key, and two of a checksum. -/
def STRKEY_DECODED_LEN : ℕ := 35

def STRKEY_VERSION_ACCOUNT_ID : UInt8 := (6 : UInt8) <<< (3 : UInt8)

/-! ## Data -/

inductive RegistryError where
  | NotAuthorized
  | AlreadyInitialized
  | AssetAlreadyRegistered
  | AssetNotFound
  | InvalidAssetData
  | InvalidRiskRating
  | InvalidLifecycleTransition
  | MaxChainsExceeded
  | MaxOracleFeedsExceeded
  | MaxBridgesExceeded
  | MaxPoolsExceeded
  | DuplicateChainLink
  | DuplicateOracleFeed
  | DuplicateBridge
  | DuplicatePool
  | AssetPaused
  | AssetDeprecated
  | AssetNotWhitelisted
  | AssetAlreadyWhitelisted
  | AssetFrozen
  | AssetAlreadyActive
  | AssetNotDeactivated
  | InvalidIssuer
  | DuplicateAssetRegistrationRejected
  deriving DecidableEq

/-- The error as a number. -/
def RegistryError.code : RegistryError → ℕ
  | .NotAuthorized => 1
  | .AlreadyInitialized => 2
  | .AssetAlreadyRegistered => 3
  | .AssetNotFound => 4
  | .InvalidAssetData => 5
  | .InvalidRiskRating => 6
  | .InvalidLifecycleTransition => 7
  | .MaxChainsExceeded => 8
  | .MaxOracleFeedsExceeded => 9
  | .MaxBridgesExceeded => 10
  | .MaxPoolsExceeded => 11
  | .DuplicateChainLink => 12
  | .DuplicateOracleFeed => 13
  | .DuplicateBridge => 14
  | .DuplicatePool => 15
  | .AssetPaused => 16
  | .AssetDeprecated => 17
  | .AssetNotWhitelisted => 18
  | .AssetAlreadyWhitelisted => 19
  | .AssetFrozen => 20
  | .AssetAlreadyActive => 21
  | .AssetNotDeactivated => 22
  | .InvalidIssuer => 23
  | .DuplicateAssetRegistrationRejected => 24

/-- The error as the host reports it. -/
def RegistryError.text (e : RegistryError) : String := "Error(Contract, #" ++ toString e.code ++ ")"

inductive AssetCategory where
  | Stablecoin
  | RealWorldAsset
  | Native
  | Bridged
  | Wrapped
  | Other
  deriving DecidableEq

inductive AssetStatus where
  | Active
  | Paused
  | Deprecated
  | PendingReview
  | Deactivated
  deriving DecidableEq

inductive ComplianceStatus where
  | Compliant
  | UnderReview
  | NonCompliant
  | Pending
  | Exempt
  deriving DecidableEq

inductive RiskRating where
  | Low
  | Medium
  | High
  | Critical
  deriving DecidableEq

structure AssetMetadata where
  asset_code : SString
  name : SString
  symbol : SString
  issuer : SString
  decimals : U32
  category : AssetCategory
  status : AssetStatus
  compliance : ComplianceStatus
  risk_rating : RiskRating
  risk_score_bps : U32
  description : SString
  url : SString
  version : U32
  registered_at : U64
  updated_at : U64
  registered_by : Address
  deriving DecidableEq

structure ChainLink where
  chain_id : SString
  contract_address : SString
  is_canonical : Bool
  linked_at : U64
  deriving DecidableEq

structure OracleFeed where
  feed_id : SString
  provider : SString
  chain_id : SString
  contract_address : SString
  is_active : Bool
  registered_at : U64
  deriving DecidableEq

structure BridgeAssociation where
  bridge_id : SString
  contract_address : SString
  source_chain : SString
  dest_chain : SString
  is_active : Bool
  created_at : U64
  deriving DecidableEq

structure PoolAssociation where
  pool_id : SString
  paired_asset : SString
  is_active : Bool
  created_at : U64
  deriving DecidableEq

structure ComplianceRecord where
  status : ComplianceStatus
  jurisdiction : SString
  framework : SString
  last_audit_date : U64
  next_audit_date : U64
  notes : SString
  updated_at : U64
  deriving DecidableEq

structure MetadataVersion where
  version : U32
  metadata : AssetMetadata
  changed_by : Address
  change_reason : SString
  timestamp : U64
  deriving DecidableEq

structure FrozenAsset where
  asset_code : SString
  is_frozen : Bool
  frozen_by : Address
  frozen_at : U64
  freeze_reason : SString
  deriving DecidableEq

/-- Who a symbol belongs to. -/
structure CanonicalSymbolEntry where
  symbol : SString
  issuer : SString
  asset_code : SString
  deriving DecidableEq

inductive DataKey where
  | Admin
  | AssetMeta (asset_code : SString)
  | ChainLinks (asset_code : SString)
  | OracleFeeds (asset_code : SString)
  | BridgeAssocs (asset_code : SString)
  | PoolAssocs (asset_code : SString)
  | Compliance (asset_code : SString)
  | Versions (asset_code : SString)
  | AssetList
  | CategoryIndex (category : AssetCategory)
  | StatusIndex (status : AssetStatus)
  | Whitelist
  | Frozen (asset_code : SString)
  | CanonicalSymbol (symbol : SString)
  | BridgeSymbol (bridge_id symbol : SString)
  deriving DecidableEq

/-- The type of the record under a key. -/
@[reducible] def DataKey.Val : DataKey → Type
  | .Admin => Address
  | .AssetMeta _ => AssetMetadata
  | .ChainLinks _ => List ChainLink
  | .OracleFeeds _ => List OracleFeed
  | .BridgeAssocs _ => List BridgeAssociation
  | .PoolAssocs _ => List PoolAssociation
  | .Compliance _ => List ComplianceRecord
  | .Versions _ => List MetadataVersion
  | .AssetList => List SString
  | .CategoryIndex _ => List SString
  | .StatusIndex _ => List SString
  | .Whitelist => List SString
  | .Frozen _ => FrozenAsset
  | .CanonicalSymbol _ => CanonicalSymbolEntry
  | .BridgeSymbol _ _ => SString

/-- The contract's storage. -/
abbrev RegistryStorage := Store DataKey DataKey.Val

/-- A call of a function of the contract. -/
abbrev Registry (α : Type) := Tx Env DataKey DataKey.Val α

/-! ## The host -/

/-- `env.storage().get(&key)`. -/
abbrev get (key : DataKey) : Registry (Option key.Val) := load key

/-- `env.storage().set(&key, &value)`. -/
abbrev set (key : DataKey) (value : key.Val) : Registry Unit := save key value

/-- `return Err(e)` when `c` holds. -/
abbrev err_if (c : Prop) [Decidable c] (e : RegistryError) : Registry Unit := panic_if c e.text

/-- `option.ok_or(e)?`. -/
abbrev ok_or {α : Type} (o : Option α) (e : RegistryError) : Registry α := expect o e.text

/-- `env.ledger().timestamp()`. -/
abbrev timestamp : Registry U64 := HostCalls.timestamp

/-- `x + 1` on `u32`. -/
abbrev succ_u32 (x : U32) : Registry U32 := HostCalls.checked_add_u32 x 1 "attempt to add with overflow"

/-! ## Strkeys -/

def base32_value (c : UInt8) : Option UInt8 :=
  if 65 ≤ c ∧ c ≤ 90 then some (c - 65)
  else if 50 ≤ c ∧ c ≤ 55 then some (c - 50 + 26)
  else none

/-- One round of the decoding: the bits that are left over, their number, and what is decoded. -/
def base32_round (capacity : ℕ) (st : UInt32 × UInt32 × Buffer) (c : UInt8) : Option (UInt32 × UInt32 × Buffer) := do
  let v ← base32_value c
  let buffer := (st.1 <<< (5 : UInt32)) ||| v.toUInt32
  let bits := st.2.1 + 5
  if 8 ≤ bits then
    let bits := bits - 8
    if capacity ≤ st.2.2.length then none
    else some (buffer, bits, st.2.2 ++ [((buffer >>> bits) &&& 255).toUInt8])
  else some (buffer, bits, st.2.2)

/-- Unpadded base32, decoded into a place of the given size. -/
def base32_decode (input : Buffer) (capacity : ℕ) : Option Buffer := do
  let st ← input.foldlM (base32_round capacity) (0, 0, [])
  if st.2.2.length = capacity ∧ st.2.1 = 0 then some st.2.2 else none

/-- One bit of the checksum. -/
def crc16_bit (crc : UInt16) : UInt16 :=
  if crc &&& 0x8000 ≠ 0 then (crc <<< (1 : UInt16)) ^^^ 0x1021 else crc <<< (1 : UInt16)

def crc16_xmodem (data : Buffer) : UInt16 :=
  data.foldl (fun crc byte => crc16_bit^[8] (crc ^^^ (byte.toUInt16 <<< (8 : UInt16)))) 0

def is_valid_account_strkey (issuer : SString) : Bool :=
  if issuer.length ≠ STRKEY_ENCODED_LEN then false
  else
    match base32_decode issuer STRKEY_DECODED_LEN with
    | none => false
    | some decoded =>
      if decoded.getD 0 0 ≠ STRKEY_VERSION_ACCOUNT_ID then false
      else
        let payload_len := STRKEY_DECODED_LEN - 2
        let expected := crc16_xmodem (decoded.take payload_len)
        let actual := (decoded.getD payload_len 0).toUInt16 |||
          ((decoded.getD (payload_len + 1) 0).toUInt16 <<< (8 : UInt16))
        expected == actual

/-! ## Private helpers -/

def require_admin (caller : Address) : Registry Unit := do
  HostCalls.require_auth caller
  let admin ← get .Admin
  let admin ← ok_or admin .NotAuthorized
  err_if (caller ≠ admin) .NotAuthorized

def require_asset_exists (asset_code : SString) : Registry Unit := do
  let metadata ← get (.AssetMeta asset_code)
  err_if (metadata.isNone = true) .AssetNotFound

def get_asset_or_err (asset_code : SString) : Registry AssetMetadata := do
  let metadata ← get (.AssetMeta asset_code)
  ok_or metadata .AssetNotFound

def save_with_version (asset_code : SString) (metadata : AssetMetadata) (admin : Address) (reason : SString)
    (now : U64) : Registry Unit := do
  set (.AssetMeta asset_code) metadata
  let versions ← get (.Versions asset_code)
  let versions := versions.getD []
  let versions := if MAX_VERSIONS ≤ versions.length then versions.tail else versions
  set (.Versions asset_code) (versions ++
    [{ version := metadata.version, metadata, changed_by := admin, change_reason := reason, timestamp := now }])

def validate_issuer (category : AssetCategory) (issuer : SString) : Registry Unit :=
  err_if (category ≠ .Native ∧ is_valid_account_strkey issuer = false) .InvalidIssuer

def check_symbol_conflict (symbol issuer asset_code : SString) : Registry Unit := do
  let existing ← get (.CanonicalSymbol symbol)
  existing.elim (pure ()) fun entry =>
    err_if (entry.issuer ≠ issuer ∨ entry.asset_code ≠ asset_code) .DuplicateAssetRegistrationRejected

def set_canonical_symbol (symbol issuer asset_code : SString) : Registry Unit :=
  set (.CanonicalSymbol symbol) { symbol, issuer, asset_code }

def add_to_index (get_list : Registry (Option (List SString))) (set_list : List SString → Registry Unit)
    (asset_code : SString) : Registry Unit := do
  let list ← get_list
  let list := list.getD []
  exec_if (asset_code ∉ list) do
    let list ← HostCalls.push_back list asset_code
    set_list list

def remove_from_index (get_list : Registry (Option (List SString))) (set_list : List SString → Registry Unit)
    (asset_code : SString) : Registry Unit := do
  let list ← get_list
  set_list ((list.getD []).filter (· ≠ asset_code))

def add_to_category (category : AssetCategory) (asset_code : SString) : Registry Unit :=
  add_to_index (get (.CategoryIndex category)) (set (.CategoryIndex category)) asset_code

def remove_from_category (category : AssetCategory) (asset_code : SString) : Registry Unit :=
  remove_from_index (get (.CategoryIndex category)) (set (.CategoryIndex category)) asset_code

def add_to_status (status : AssetStatus) (asset_code : SString) : Registry Unit :=
  add_to_index (get (.StatusIndex status)) (set (.StatusIndex status)) asset_code

def remove_from_status (status : AssetStatus) (asset_code : SString) : Registry Unit :=
  remove_from_index (get (.StatusIndex status)) (set (.StatusIndex status)) asset_code

def is_asset_frozen (asset_code : SString) : Registry Bool := do
  let frozen ← get (.Frozen asset_code)
  return (frozen.map FrozenAsset.is_frozen).getD false

/-! ## Registration -/

/-- `initialize`. -/
def initialize_registry (admin : Address) : Registry Unit := do
  HostCalls.require_auth admin
  let existing ← get .Admin
  err_if (existing.isSome = true) .AlreadyInitialized
  set .Admin admin
  set .AssetList []

/-- What a new asset has: no association of any kind. -/
def initialize_associations (asset_code : SString) : Registry Unit := do
  set (.ChainLinks asset_code) []
  set (.OracleFeeds asset_code) []
  set (.BridgeAssocs asset_code) []
  set (.PoolAssocs asset_code) []
  set (.Compliance asset_code) []

/-- A new asset is in the list of all, and in the indices. -/
def list_asset (asset_code : SString) (category : AssetCategory) : Registry Unit := do
  let asset_list ← get .AssetList
  let asset_list ← HostCalls.push_back (asset_list.getD []) asset_code
  set .AssetList asset_list
  add_to_category category asset_code
  add_to_status .PendingReview asset_code

/-- The metadata of a new asset. -/
def new_metadata (admin : Address) (asset_code name symbol issuer : SString) (decimals : U32)
    (category : AssetCategory) (description url : SString) (now : U64) : AssetMetadata :=
  { asset_code, name, symbol, issuer, decimals, category, status := .PendingReview, compliance := .Pending,
    risk_rating := .Medium, risk_score_bps := 5000, description, url, version := 1, registered_at := now,
    updated_at := now, registered_by := admin }

def register_asset (admin : Address) (asset_code name symbol issuer : SString) (decimals : U32)
    (category : AssetCategory) (description url : SString) : Registry Unit := do
  require_admin admin
  let whitelist ← get .Whitelist
  let whitelist := whitelist.getD []
  err_if (whitelist ≠ [] ∧ asset_code ∉ whitelist) .AssetNotWhitelisted
  let existing ← get (.AssetMeta asset_code)
  err_if (existing.isSome = true) .AssetAlreadyRegistered
  validate_issuer category issuer
  check_symbol_conflict symbol issuer asset_code
  set_canonical_symbol symbol issuer asset_code
  let now ← timestamp
  let metadata := new_metadata admin asset_code name symbol issuer decimals category description url now
  set (.AssetMeta asset_code) metadata
  set (.Versions asset_code)
    [{ version := 1, metadata, changed_by := admin, change_reason := str "Initial registration", timestamp := now }]
  initialize_associations asset_code
  list_asset asset_code category

/-! ## Metadata -/

/-- The symbol that an asset gives up can be claimed again. -/
def release_symbol (old new : SString) : Registry Unit :=
  exec_if (old ≠ new) (remove (.CanonicalSymbol old))

def update_metadata (admin : Address) (asset_code name symbol issuer description url change_reason : SString) :
    Registry Unit := do
  require_admin admin
  let metadata ← get_asset_or_err asset_code
  let frozen ← is_asset_frozen asset_code
  err_if (frozen = true) .AssetFrozen
  err_if (metadata.status = .Deprecated) .AssetDeprecated
  validate_issuer metadata.category issuer
  check_symbol_conflict symbol issuer asset_code
  release_symbol metadata.symbol symbol
  set_canonical_symbol symbol issuer asset_code
  let now ← timestamp
  let version ← succ_u32 metadata.version
  save_with_version asset_code { metadata with name, symbol, issuer, description, url, version, updated_at := now }
    admin change_reason now

def update_category (admin : Address) (asset_code : SString) (new_category : AssetCategory) : Registry Unit := do
  require_admin admin
  let metadata ← get_asset_or_err asset_code
  remove_from_category metadata.category asset_code
  let version ← succ_u32 metadata.version
  let now ← timestamp
  add_to_category new_category asset_code
  save_with_version asset_code { metadata with category := new_category, version, updated_at := now } admin
    (str "Category updated") now

def update_risk (admin : Address) (asset_code : SString) (risk_rating : RiskRating) (risk_score_bps : U32) :
    Registry Unit := do
  require_admin admin
  err_if (risk_score_bps > 10000) .InvalidRiskRating
  let metadata ← get_asset_or_err asset_code
  let version ← succ_u32 metadata.version
  let now ← timestamp
  save_with_version asset_code { metadata with risk_rating, risk_score_bps, version, updated_at := now } admin
    (str "Risk updated") now

/-- The transitions that `update_status` makes. -/
def valid_transition : AssetStatus → AssetStatus → Bool
  | .PendingReview, .Active => true
  | .Active, .Paused => true
  | .Paused, .Active => true
  | .Active, .Deprecated => true
  | .Paused, .Deprecated => true
  | .Active, .Deactivated => true
  | .Paused, .Deactivated => true
  | _, _ => false

/-- The asset goes from one status to another, in the indices too. -/
def move_status (admin : Address) (metadata : AssetMetadata) (asset_code : SString) (old new : AssetStatus)
    (reason : SString) : Registry Unit := do
  remove_from_status old asset_code
  add_to_status new asset_code
  let version ← succ_u32 metadata.version
  let now ← timestamp
  save_with_version asset_code { metadata with status := new, version, updated_at := now } admin reason now

def update_status (admin : Address) (asset_code : SString) (new_status : AssetStatus) : Registry Unit := do
  require_admin admin
  let metadata ← get_asset_or_err asset_code
  err_if (valid_transition metadata.status new_status = false) .InvalidLifecycleTransition
  move_status admin metadata asset_code metadata.status new_status (str "Status updated")

def deactivate_asset (admin : Address) (asset_code reason : SString) : Registry Unit := do
  require_admin admin
  let metadata ← get_asset_or_err asset_code
  err_if (metadata.status ≠ .Active) .AssetAlreadyActive
  move_status admin metadata asset_code .Active .Deactivated reason

def restore_asset (admin : Address) (asset_code : SString) : Registry Unit := do
  require_admin admin
  let metadata ← get_asset_or_err asset_code
  err_if (metadata.status ≠ .Deactivated) .AssetNotDeactivated
  move_status admin metadata asset_code .Deactivated .Active (str "Asset restored")

def update_compliance (admin : Address) (asset_code : SString) (status : ComplianceStatus)
    (jurisdiction framework : SString) (last_audit_date next_audit_date : U64) (notes : SString) : Registry Unit := do
  require_admin admin
  let metadata ← get_asset_or_err asset_code
  let now ← timestamp
  let version ← succ_u32 metadata.version
  let records ← get (.Compliance asset_code)
  let record : ComplianceRecord :=
    { status, jurisdiction, framework, last_audit_date, next_audit_date, notes, updated_at := now }
  let records ← HostCalls.push_back (records.getD []) record
  set (.Compliance asset_code) records
  save_with_version asset_code { metadata with compliance := status, version, updated_at := now } admin
    (str "Compliance updated") now

/-! ## Associations -/

def link_chain (admin : Address) (asset_code chain_id contract_address : SString) (is_canonical : Bool) :
    Registry Unit := do
  require_admin admin
  require_asset_exists asset_code
  let chains ← get (.ChainLinks asset_code)
  let chains := chains.getD []
  err_if (MAX_CHAINS ≤ chains.length) .MaxChainsExceeded
  err_if (chains.any (·.chain_id = chain_id)) .DuplicateChainLink
  let now ← timestamp
  set (.ChainLinks asset_code) (chains ++ [{ chain_id, contract_address, is_canonical, linked_at := now }])

def link_bridge_contract (admin : Address)
    (asset_code bridge_id contract_address source_chain dest_chain : SString) : Registry Unit := do
  require_admin admin
  let metadata ← get_asset_or_err asset_code
  let existing_code ← get (.BridgeSymbol bridge_id metadata.symbol)
  err_if (∃ code ∈ existing_code, code ≠ asset_code) .DuplicateAssetRegistrationRejected
  let bridges ← get (.BridgeAssocs asset_code)
  let bridges := bridges.getD []
  err_if (MAX_BRIDGES ≤ bridges.length) .MaxBridgesExceeded
  err_if (bridges.any (·.bridge_id = bridge_id)) .DuplicateBridge
  let now ← timestamp
  let bridge : BridgeAssociation :=
    { bridge_id, contract_address, source_chain, dest_chain, is_active := true, created_at := now }
  set (.BridgeSymbol bridge_id metadata.symbol) asset_code
  set (.BridgeAssocs asset_code) (bridges ++ [bridge])

def register_oracle_feed (admin : Address) (asset_code feed_id provider chain_id contract_address : SString) :
    Registry Unit := do
  require_admin admin
  require_asset_exists asset_code
  let feeds ← get (.OracleFeeds asset_code)
  let feeds := feeds.getD []
  err_if (MAX_ORACLE_FEEDS ≤ feeds.length) .MaxOracleFeedsExceeded
  err_if (feeds.any (·.feed_id = feed_id)) .DuplicateOracleFeed
  let now ← timestamp
  let feed : OracleFeed := { feed_id, provider, chain_id, contract_address, is_active := true, registered_at := now }
  set (.OracleFeeds asset_code) (feeds ++ [feed])

def add_liquidity_pool (admin : Address) (asset_code pool_id paired_asset : SString) : Registry Unit := do
  require_admin admin
  require_asset_exists asset_code
  let pools ← get (.PoolAssocs asset_code)
  let pools := pools.getD []
  err_if (MAX_POOLS ≤ pools.length) .MaxPoolsExceeded
  err_if (pools.any (·.pool_id = pool_id)) .DuplicatePool
  let now ← timestamp
  set (.PoolAssocs asset_code) (pools ++ [{ pool_id, paired_asset, is_active := true, created_at := now }])

/-! ## Whitelist and freezing -/

def whitelist_add (admin : Address) (asset_code : SString) : Registry Unit := do
  require_admin admin
  let whitelist ← get .Whitelist
  let whitelist := whitelist.getD []
  err_if (asset_code ∈ whitelist) .AssetAlreadyWhitelisted
  let whitelist ← HostCalls.push_back whitelist asset_code
  set .Whitelist whitelist

def whitelist_remove (admin : Address) (asset_code : SString) : Registry Unit := do
  require_admin admin
  let whitelist ← get .Whitelist
  let whitelist := whitelist.getD []
  err_if (asset_code ∉ whitelist) .AssetNotWhitelisted
  set .Whitelist (whitelist.filter (· ≠ asset_code))

def freeze_asset (admin : Address) (asset_code reason : SString) : Registry Unit := do
  require_admin admin
  require_asset_exists asset_code
  let now ← timestamp
  set (.Frozen asset_code)
    { asset_code, is_frozen := true, frozen_by := admin, frozen_at := now, freeze_reason := reason }

def unfreeze_asset (admin : Address) (asset_code : SString) : Registry Unit := do
  require_admin admin
  require_asset_exists asset_code
  let now ← timestamp
  set (.Frozen asset_code)
    { asset_code, is_frozen := false, frozen_by := admin, frozen_at := now, freeze_reason := str "Unfrozen" }

/-! ## Listings -/

def get_all_assets (s : RegistryStorage) : List SString := (s .AssetList).getD []

def get_assets_by_category (s : RegistryStorage) (category : AssetCategory) : List SString :=
  (s (.CategoryIndex category)).getD []

def get_assets_by_status (s : RegistryStorage) (status : AssetStatus) : List SString :=
  (s (.StatusIndex status)).getD []

def get_metadata_versions (s : RegistryStorage) (asset_code : SString) : List MetadataVersion :=
  (s (.Versions asset_code)).getD []

/-! ## Runs -/

/-- A call of an entry point that can change the storage. -/
inductive EntryPoint where
  | initialize_registry (admin : Address)
  | register_asset (admin : Address) (asset_code name symbol issuer : SString) (decimals : U32)
      (category : AssetCategory) (description url : SString)
  | update_metadata (admin : Address) (asset_code name symbol issuer description url change_reason : SString)
  | update_category (admin : Address) (asset_code : SString) (new_category : AssetCategory)
  | update_risk (admin : Address) (asset_code : SString) (risk_rating : RiskRating) (risk_score_bps : U32)
  | update_status (admin : Address) (asset_code : SString) (new_status : AssetStatus)
  | deactivate_asset (admin : Address) (asset_code reason : SString)
  | restore_asset (admin : Address) (asset_code : SString)
  | update_compliance (admin : Address) (asset_code : SString) (status : ComplianceStatus)
      (jurisdiction framework : SString) (last_audit_date next_audit_date : U64) (notes : SString)
  | link_chain (admin : Address) (asset_code chain_id contract_address : SString) (is_canonical : Bool)
  | link_bridge_contract (admin : Address)
      (asset_code bridge_id contract_address source_chain dest_chain : SString)
  | register_oracle_feed (admin : Address) (asset_code feed_id provider chain_id contract_address : SString)
  | add_liquidity_pool (admin : Address) (asset_code pool_id paired_asset : SString)
  | whitelist_add (admin : Address) (asset_code : SString)
  | whitelist_remove (admin : Address) (asset_code : SString)
  | freeze_asset (admin : Address) (asset_code reason : SString)
  | unfreeze_asset (admin : Address) (asset_code : SString)
  deriving DecidableEq

def exec : EntryPoint → Registry Unit
  | .initialize_registry admin => initialize_registry admin
  | .register_asset admin asset_code name symbol issuer decimals category description url =>
    register_asset admin asset_code name symbol issuer decimals category description url
  | .update_metadata admin asset_code name symbol issuer description url change_reason =>
    update_metadata admin asset_code name symbol issuer description url change_reason
  | .update_category admin asset_code new_category => update_category admin asset_code new_category
  | .update_risk admin asset_code risk_rating risk_score_bps =>
    update_risk admin asset_code risk_rating risk_score_bps
  | .update_status admin asset_code new_status => update_status admin asset_code new_status
  | .deactivate_asset admin asset_code reason => deactivate_asset admin asset_code reason
  | .restore_asset admin asset_code => restore_asset admin asset_code
  | .update_compliance admin asset_code status jurisdiction framework last_audit_date next_audit_date notes =>
    update_compliance admin asset_code status jurisdiction framework last_audit_date next_audit_date notes
  | .link_chain admin asset_code chain_id contract_address is_canonical =>
    link_chain admin asset_code chain_id contract_address is_canonical
  | .link_bridge_contract admin asset_code bridge_id contract_address source_chain dest_chain =>
    link_bridge_contract admin asset_code bridge_id contract_address source_chain dest_chain
  | .register_oracle_feed admin asset_code feed_id provider chain_id contract_address =>
    register_oracle_feed admin asset_code feed_id provider chain_id contract_address
  | .add_liquidity_pool admin asset_code pool_id paired_asset =>
    add_liquidity_pool admin asset_code pool_id paired_asset
  | .whitelist_add admin asset_code => whitelist_add admin asset_code
  | .whitelist_remove admin asset_code => whitelist_remove admin asset_code
  | .freeze_asset admin asset_code reason => freeze_asset admin asset_code reason
  | .unfreeze_asset admin asset_code => unfreeze_asset admin asset_code

/-- The storage after some calls. -/
abbrev run (s : RegistryStorage) (calls : List (Env × EntryPoint)) : RegistryStorage := runFrom exec s calls

/-- The storage before the first call. -/
def empty_storage : RegistryStorage := fun _ => none

/-- The text of a call that fails. -/
def failure : Except String (Unit × RegistryStorage) → Option String
  | .ok _ => none
  | .error msg => some msg

/-- An account. -/
def party (n : UInt8) : Address := .account (Vector.replicate 32 n)

/-- A time at which every address has authorised its call. -/
def signed_at (timestamp : U64) : Env := { timestamp, auth := fun _ => true }

end BridgeWatch.AssetRegistry

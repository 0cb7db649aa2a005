/-
Who may call what: the guards of `lib.rs`, and the modules `acl.rs`,
`source_trust.rs` and `emergency_multisig.rs`.

Each function is followed by its footprint, and each guard on the global pause by
the statement that it fails while the contract is paused.
-/
import BridgeWatch.ContractState

set_option autoImplicit false
-- The instance of a footprint is as long as its function.
set_option synthInstance.maxSize 2048

namespace BridgeWatch.Contract

open Transaction

variable {ts : List Tag}

/-! ## Roles -/

/-- `env.storage().instance().get(&keys::ADMIN).unwrap()`. -/
abbrev get_admin : Soroban Address := do
  let admin ← get .ADMIN
  unwrap admin

def has_role_internal (address : Address) (role : AdminRole) : Soroban Bool := do
  let roles ← get (.RoleKey address)
  return (roles.getD []).contains role

instance (address : Address) (role : AdminRole) : Writes ts (has_role_internal address role) := by
  unfold has_role_internal
  infer_instance

def check_permission (caller : Address) (required_role : AdminRole) : Soroban Unit := do
  require_auth caller
  let admin ← get_admin
  exec_if (caller ≠ admin) do
    let has_super ← has_role_internal caller .SuperAdmin
    let has_required ← has_role_internal caller required_role
    panic_if (has_super = false ∧ has_required = false)
      "unauthorized: caller does not have the required role"

instance (caller : Address) (role : AdminRole) : Writes ts (check_permission caller role) := by
  unfold check_permission
  infer_instance

/-- `caller == admin || has_role_internal(env, caller, AdminRole::SuperAdmin)`. -/
def is_authorized (caller admin : Address) : Soroban Bool := do
  let has_super ← has_role_internal caller .SuperAdmin
  return decide (caller = admin) || has_super

instance (caller admin : Address) : Writes ts (is_authorized caller admin) := by
  unfold is_authorized
  infer_instance

/-- The guard of the functions that only the admin may call, with the text of the refusal. -/
def assert_only_admin (msg : String) (caller : Address) : Soroban Unit := do
  require_auth caller
  let admin ← get_admin
  panic_if (caller ≠ admin) msg

/-- The guard of the functions that a SuperAdmin may call too, with the text of the refusal. -/
def assert_admin_or_role (msg : String) (caller : Address) : Soroban Unit := do
  require_auth caller
  let admin ← get_admin
  let authorized ← is_authorized caller admin
  panic_if (authorized = false) msg

instance (msg : String) (caller : Address) : Writes ts (assert_only_admin msg caller) := by
  unfold assert_only_admin
  infer_instance

instance (msg : String) (caller : Address) : Writes ts (assert_admin_or_role msg caller) := by
  unfold assert_admin_or_role
  infer_instance

/-! ## Pause and admin transfer -/

/-- `is_paused()`. -/
def is_paused (s : Storage) : Bool := (s .GLOBAL_PAUSED).getD false

/-- The contract is globally paused. -/
def Paused : Env → Storage → Prop := fun _ s => is_paused s = true

def assert_not_globally_paused : Soroban Unit := do
  let paused ← get .GLOBAL_PAUSED
  panic_if (paused.getD false = true)
    "contract is globally paused; all write operations are halted"

instance : Writes ts assert_not_globally_paused := by
  unfold assert_not_globally_paused
  infer_instance

instance : Blocked Paused assert_not_globally_paused where
  fails := by
    intro env s hpaused r h
    obtain ⟨u, s'⟩ := r
    simp only [assert_not_globally_paused, bind_eq_ok, load_eq_ok, panic_if_eq_ok] at h
    obtain ⟨_, _, ⟨rfl, rfl⟩, hnot, -⟩ := h
    exact hnot hpaused

def check_no_pending_transfer : Soroban Unit := do
  let proposal ← get .PENDING_TRANSFER
  proposal.elim (pure ()) fun p => do
    let now ← timestamp
    panic_if (now < p.timeout_at) "admin functions are locked during a pending admin transfer"

instance : Writes ts check_no_pending_transfer := by
  unfold check_no_pending_transfer
  infer_instance

/-- The common part of the two `assert_admin_or_super_admin` functions, with the text
of the refusal. -/
def assert_admin_or_super_admin_with (msg : String) (caller : Address) : Soroban Unit := do
  assert_not_globally_paused
  require_auth caller
  let admin ← get_admin
  check_no_pending_transfer
  let authorized ← is_authorized caller admin
  panic_if (authorized = false) msg

instance (msg : String) (caller : Address) :
    Writes ts (assert_admin_or_super_admin_with msg caller) := by
  unfold assert_admin_or_super_admin_with
  infer_instance

instance (msg : String) (caller : Address) :
    Blocked Paused (assert_admin_or_super_admin_with msg caller) := by
  unfold assert_admin_or_super_admin_with
  infer_instance

abbrev assert_admin_or_super_admin : Address → Soroban Unit :=
  assert_admin_or_super_admin_with "only admin or SuperAdmin can manage checkpoints"

abbrev assert_admin_or_super_admin_retention : Address → Soroban Unit :=
  assert_admin_or_super_admin_with "only admin or SuperAdmin can manage retention policies"

/-! ## `acl.rs` -/

namespace acl

def role_permissions : Role → List Permission
  | .SuperAdmin =>
      [.SubmitHealth, .SubmitPrice, .ManageAssets, .ManageAlerts, .ManageConfig, .ViewAnalytics,
        .ViewHealth, .ViewPrice, .ManagePermissions, .EmergencyPause, .ManageUpgrades]
  | .Admin =>
      [.SubmitHealth, .SubmitPrice, .ManageAssets, .ManageAlerts, .ManageConfig, .ViewAnalytics,
        .ViewHealth, .ViewPrice]
  | .Operator =>
      [.SubmitHealth, .SubmitPrice, .ManageAlerts, .ViewAnalytics, .ViewHealth, .ViewPrice]
  | .ReadOnly => [.ViewAnalytics, .ViewHealth, .ViewPrice]

/-- `expires_at == 0 || expires_at > now`. -/
def unexpired (now expires_at : U64) : Bool := expires_at = 0 || now < expires_at

def has_permission_internal (address : Address) (permission : Permission) : Soroban Bool := do
  let now ← timestamp
  let grants ← get .RoleGrants
  let perm_grants ← get .PermissionGrants
  let by_role := (grants.getD []).any fun g =>
    g.grantee = address && unexpired now g.expires_at &&
      (g.role = .SuperAdmin || (role_permissions g.role).contains permission)
  let by_grant := (perm_grants.getD []).any fun pg =>
    pg.grantee = address && pg.permission = permission && unexpired now pg.expires_at
  return by_role || by_grant

instance (address : Address) (permission : Permission) :
    Writes ts (has_permission_internal address permission) := by
  unfold has_permission_internal
  infer_instance

def require_permission (caller admin : Address) (permission : Permission) : Soroban Unit := do
  require_auth caller
  exec_if (caller ≠ admin) do
    let allowed ← has_permission_internal caller permission
    panic_if (allowed = false) "unauthorized: caller lacks the required permission"

instance (caller admin : Address) (permission : Permission) :
    Writes ts (require_permission caller admin permission) := by
  unfold require_permission
  infer_instance

/-- The loop that replaces the first grant with the same grantee and role, or adds one
at the end. -/
def upsert {α : Type} (same : α → Bool) (grant : α) : List α → List α
  | [] => [grant]
  | g :: grants => if same g then grant :: grants else g :: upsert same grant grants

def grant_role_internal (grantee : Address) (role : Role) (granted_by : Address)
    (expires_at : U64) : Soroban Unit := do
  let now ← timestamp
  let grants ← get .RoleGrants
  set .RoleGrants
    (upsert (fun g => g.grantee = grantee && g.role = role)
      { grantee, role, granted_by, granted_at := now, expires_at } (grants.getD []))

def revoke_role_internal (grantee : Address) (role : Role) : Soroban Unit := do
  let grants ← get .RoleGrants
  set .RoleGrants ((grants.getD []).filter fun g => !(g.grantee = grantee && g.role = role))

def grant_permission_internal (grantee : Address) (permission : Permission)
    (granted_by : Address) (expires_at : U64) : Soroban Unit := do
  let now ← timestamp
  let grants ← get .PermissionGrants
  set .PermissionGrants
    (upsert (fun g => g.grantee = grantee && g.permission = permission)
      { grantee, permission, granted_by, granted_at := now, expires_at } (grants.getD []))

def revoke_permission_internal (grantee : Address) (permission : Permission) : Soroban Unit := do
  let grants ← get .PermissionGrants
  set .PermissionGrants
    ((grants.getD []).filter fun g => !(g.grantee = grantee && g.permission = permission))

variable (grantee granted_by : Address) (role : Role) (permission : Permission)
variable (expires_at : U64)

instance [Among .RoleGrants ts] :
    Writes ts (grant_role_internal grantee role granted_by expires_at) := by
  unfold grant_role_internal
  infer_instance

instance [Among .RoleGrants ts] : Writes ts (revoke_role_internal grantee role) := by
  unfold revoke_role_internal
  infer_instance

instance [Among .PermissionGrants ts] :
    Writes ts (grant_permission_internal grantee permission granted_by expires_at) := by
  unfold grant_permission_internal
  infer_instance

instance [Among .PermissionGrants ts] :
    Writes ts (revoke_permission_internal grantee permission) := by
  unfold revoke_permission_internal
  infer_instance

end acl

/-- The guard on threshold overrides. -/
def assert_can_manage_threshold_overrides (caller : Address) : Soroban Unit := do
  assert_not_globally_paused
  check_no_pending_transfer
  let admin ← get_admin
  acl.require_permission caller admin .ManageConfig

instance (caller : Address) : Writes ts (assert_can_manage_threshold_overrides caller) := by
  unfold assert_can_manage_threshold_overrides
  infer_instance

instance (caller : Address) : Blocked Paused (assert_can_manage_threshold_overrides caller) := by
  unfold assert_can_manage_threshold_overrides
  infer_instance

/-! ## `source_trust.rs` -/

namespace source_trust

def register_trusted_source (caller source_address : Address) (name : SString) :
    Soroban Unit := do
  panic_if (name = []) "source name cannot be empty"
  let now ← timestamp
  let existing ← get (.Source source_address)
  let source : TrustedSource :=
    match existing with
    | some existing_source =>
        { existing_source with
          is_active := true
          registered_by := caller
          registered_at := now
          revoked_by := none
          revoked_at := none
          name := name }
    | none =>
        { source_address := source_address
          name := name
          registered_by := caller
          registered_at := now
          is_active := true
          revoked_by := none
          revoked_at := none }
  set (.Source source_address) source
  let all_sources ← get .AllSources
  exec_if (source_address ∉ all_sources.getD []) do
    set .AllSources (all_sources.getD [] ++ [source_address])

def revoke_trusted_source (caller source_address : Address) : Soroban Unit := do
  let source ← get (.Source source_address)
  let source ← expect source "source not registered"
  panic_if (source.is_active = false) "source already revoked"
  let now ← timestamp
  set (.Source source_address)
    { source with
      is_active := false
      revoked_by := some caller
      revoked_at := some now }

def is_trusted_source (source_address : Address) : Soroban Bool := do
  let source ← get (.Source source_address)
  return source.elim false TrustedSource.is_active

def get_all_trusted_sources : Soroban (List SourceInfo) := do
  let all_sources ← get .AllSources
  (all_sources.getD []).foldlM (fun result addr => do
    let source ← get (.Source addr)
    let info : Option SourceInfo := source.map fun source =>
      { source_address := source.source_address
        name := source.name
        is_active := source.is_active
        registered_at := source.registered_at }
    return result ++ info.toList) []

def get_active_trusted_sources : Soroban (List SourceInfo) := do
  let all_sources ← get_all_trusted_sources
  return all_sources.filter SourceInfo.is_active

def require_trusted_source (caller : Address) : Soroban Unit := do
  let trusted ← is_trusted_source caller
  panic_if (trusted = false) "caller is not a trusted source"

variable (caller source_address : Address) (name : SString)

instance [Among .Source ts] [Among .AllSources ts] :
    Writes ts (register_trusted_source caller source_address name) := by
  unfold register_trusted_source
  infer_instance

instance [Among .Source ts] : Writes ts (revoke_trusted_source caller source_address) := by
  unfold revoke_trusted_source
  infer_instance

instance : Writes ts (is_trusted_source source_address) := by
  unfold is_trusted_source
  infer_instance

instance : Writes ts get_all_trusted_sources := by
  unfold get_all_trusted_sources
  infer_instance

instance : Writes ts get_active_trusted_sources := by
  unfold get_active_trusted_sources
  infer_instance

instance : Writes ts (require_trusted_source caller) := by
  unfold require_trusted_source
  infer_instance

end source_trust

/-! ## `emergency_multisig.rs` -/

namespace emergency_multisig

def MAX_OPERATORS : ℕ := 15

def MAX_LOG_ENTRIES : ℕ := 200

/-- Prefix of every signed message. -/
def DOMAIN : Buffer := str "BW_EMERGENCY_MULTISIG_V1"

def configure (operators : List (BytesN 32)) (threshold : U32) : Soroban MultisigConfig := do
  panic_if (operators = []) "emergency multisig requires at least one operator"
  panic_if (MAX_OPERATORS < operators.length) "too many emergency multisig operators"
  panic_if (threshold = 0 ∨ operators.length < threshold.toNat)
    "emergency multisig threshold must be between 1 and the operator count"
  panic_if (¬operators.Nodup) "duplicate operator key in emergency multisig configuration"
  let config : MultisigConfig := { operators, threshold }
  set .EMERGENCY_MULTISIG_CONFIG config
  let nonce ← get .EMERGENCY_MULTISIG_NONCE
  exec_if (nonce = none) do
    set .EMERGENCY_MULTISIG_NONCE 0
  return config

def action_tag : EmergencyAction → U32
  | .Pause => 1
  | .Unpause => 2
  | .SetMismatchThreshold _ => 3
  | .EmergencyBlacklistBridge _ => 4
  | .EmergencyDelistOracleNode _ => 5

/-- The XDR encoding of a string value: its type, its length, and its bytes padded
with zeros to a multiple of four. -/
def string_to_xdr (s : SString) : Buffer :=
  be 4 14 ++ be 4 s.length ++ s ++ List.replicate ((4 - s.length % 4) % 4) 0

/-- The XDR encoding of an address value. -/
def address_to_xdr : Address → Buffer
  | .account key => be 4 18 ++ be 4 0 ++ be 4 0 ++ key.toList
  | .contract hash => be 4 18 ++ be 4 1 ++ hash.toList

def append_bytes (buf value : Buffer) : Buffer := append_u32 buf (len value) ++ value

def build_message (action : EmergencyAction) (nonce : U64) : Buffer :=
  let data := append_u32 DOMAIN (action_tag action)
  let data :=
    match action with
    | .Pause | .Unpause => data
    | .SetMismatchThreshold value => append_i128 data value
    | .EmergencyBlacklistBridge bridge_id => append_bytes data (string_to_xdr bridge_id)
    | .EmergencyDelistOracleNode node => append_bytes data (address_to_xdr node)
  append_u64 data nonce

def verify_and_execute [Host] (action : EmergencyAction) (signatures : List OperatorSignature)
    (nonce : U64) : Soroban (List (BytesN 32)) := do
  let config ← get .EMERGENCY_MULTISIG_CONFIG
  let config ← expect config "emergency multisig is not configured"
  let stored ← get .EMERGENCY_MULTISIG_NONCE
  let expected_nonce ← add_u64 (stored.getD 0) 1
  panic_if (nonce ≠ expected_nonce) "invalid emergency multisig nonce"
  panic_if (signatures.length < config.threshold.toNat)
    "insufficient emergency multisig signatures"
  let message := build_message action nonce
  let approvers ← signatures.foldlM (fun approvers sig => do
    panic_if (sig.operator ∉ config.operators)
      "signature from unregistered emergency multisig operator"
    panic_if (sig.operator ∈ approvers)
      "duplicate operator signature in emergency multisig submission"
    panic_if (Host.ed25519_verify sig.operator message sig.signature = false)
      "Error(Crypto, InvalidInput)"
    return approvers ++ [sig.operator]) []
  panic_if (approvers.length < config.threshold.toNat)
    "insufficient valid emergency multisig signatures"
  set .EMERGENCY_MULTISIG_NONCE nonce
  let now ← timestamp
  let log ← get .EMERGENCY_MULTISIG_LOG
  let log := log.getD [] ++ [{ nonce, action, approvers, timestamp := now }]
  set .EMERGENCY_MULTISIG_LOG (if MAX_LOG_ENTRIES < log.length then log.drop 1 else log)
  return approvers

instance [Among .EMERGENCY_MULTISIG_CONFIG ts] [Among .EMERGENCY_MULTISIG_NONCE ts]
    (operators : List (BytesN 32)) (threshold : U32) : Writes ts (configure operators threshold) := by
  unfold configure
  infer_instance

instance [Host] [Among .EMERGENCY_MULTISIG_NONCE ts] [Among .EMERGENCY_MULTISIG_LOG ts]
    (action : EmergencyAction) (signatures : List OperatorSignature) (nonce : U64) :
    Writes ts (verify_and_execute action signatures nonce) := by
  unfold verify_and_execute
  infer_instance

end emergency_multisig

end BridgeWatch.Contract

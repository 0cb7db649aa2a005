/-
Administration: initialisation, roles and grants, the global pause and the emergency
multisig, hand-over of the admin, upgrades, configuration, recovery mode and trusted
sources.

`execute_upgrade` also replaces the contract's code; the runs considered here are those
of the code at hand.
-/
import BridgeWatch.ContractPools

set_option autoImplicit false
-- The instance of a footprint is as long as its function.
set_option synthInstance.maxSize 2048

namespace BridgeWatch.Contract

open Transaction

variable {ts : List Tag}

/-! ## Initialisation -/

def initialize_retention_policies : Soroban Unit :=
  retention_data_types.foldlM (fun _ data_type => do
    set (.RetPolicy data_type) (default_retention_policy data_type)
    set (.LastCleanup data_type) 0) ()

/-- The entry point `initialize`. -/
def initialize_contract (admin : Address) : Soroban Unit := do
  require_auth admin
  set .ADMIN admin
  set .MONITORED_ASSETS []
  set .CHECKPOINT_CONFIG default_checkpoint_config
  set .CHECKPOINT_METADATA_LIST []
  set .ARCHIVED_CHECKPOINT_META []
  set .CHECKPOINT_COUNTER 0
  set .LAST_CHECKPOINT_AT 0
  set .CONTRACT_VERSION 1
  set .UPGRADE_PROPOSAL_COUNTER 0
  set .UPGRADE_HISTORY []
  initialize_retention_policies

/-- What `initialize` writes. -/
abbrev initializeTags : List Tag :=
  [.ADMIN, .MONITORED_ASSETS, .CHECKPOINT_CONFIG, .CHECKPOINT_METADATA_LIST,
    .ARCHIVED_CHECKPOINT_META, .CHECKPOINT_COUNTER, .LAST_CHECKPOINT_AT, .CONTRACT_VERSION,
    .UPGRADE_PROPOSAL_COUNTER, .UPGRADE_HISTORY, .RetPolicy, .LastCleanup]

instance [Among .RetPolicy ts] [Among .LastCleanup ts] :
    Writes ts initialize_retention_policies := by
  unfold initialize_retention_policies
  infer_instance

instance [Within initializeTags ts] (admin : Address) : Writes ts (initialize_contract admin) := by
  apply Writes.mono initializeTags
  unfold initialize_contract
  infer_instance

/-- What `initialize` leaves of the admin, the assets and the checkpoints. -/
structure Initialized (admin : Address) (s : Storage) : Prop where
  admin : s .ADMIN = some admin
  assets : s .MONITORED_ASSETS = some []
  config : s .CHECKPOINT_CONFIG = some default_checkpoint_config
  metadata : s .CHECKPOINT_METADATA_LIST = some []
  counter : s .CHECKPOINT_COUNTER = some 0

theorem initialize_contract_spec {admin : Address} {env : Env} {s s' : Storage} {u : Unit}
    (h : initialize_contract admin env s = .ok (u, s')) :
    env.auth admin = true ∧ Initialized admin s' := by
  simp only [initialize_contract, bind_eq_ok, reads_eq_ok, panic_if_eq_ok, save_eq_ok, and_assoc,
    exists_and_left, exists_eq_left, exists_const] at h
  obtain ⟨hauth, hpolicies⟩ := h
  have hframe := fun k hk =>
    (inferInstance : Writes [Tag.RetPolicy, .LastCleanup] initialize_retention_policies).frame
      hpolicies k hk
  refine ⟨by simpa using hauth, ?_, ?_, ?_, ?_, ?_⟩
  all_goals
    rw [hframe _ (by decide)]
    simp

/-! ## Roles -/

def grant_role (granter grantee : Address) (role : AdminRole) : Soroban Unit := do
  assert_admin_or_super_admin_with "only SuperAdmin can grant roles" granter
  let roles ← get (.RoleKey grantee)
  exec_if (role ∉ roles.getD []) do
    set (.RoleKey grantee) (roles.getD [] ++ [role])
    let assignments ← get .ROLES_LIST
    set .ROLES_LIST (assignments.getD [] ++ [{ address := grantee, role }])

def revoke_role (revoker target : Address) (role : AdminRole) : Soroban Unit := do
  assert_admin_or_super_admin_with "only SuperAdmin can revoke roles" revoker
  let roles ← get (.RoleKey target)
  set (.RoleKey target) ((roles.getD []).filter fun r => r ≠ role)
  let assignments ← get .ROLES_LIST
  set .ROLES_LIST ((assignments.getD []).filter fun a => !(a.address = target && a.role = role))

/-- The guard of the functions on grants. -/
def assert_can_manage_permissions (caller : Address) : Soroban Unit := do
  assert_not_globally_paused
  let admin ← get_admin
  acl.require_permission caller admin .ManagePermissions

def acl_grant_role (caller grantee : Address) (role : Role) (expires_at : U64) :
    Soroban Unit := do
  assert_can_manage_permissions caller
  acl.grant_role_internal grantee role caller expires_at

def acl_revoke_role (caller grantee : Address) (role : Role) : Soroban Unit := do
  assert_can_manage_permissions caller
  acl.revoke_role_internal grantee role

def acl_grant_permission (caller grantee : Address) (permission : Permission)
    (expires_at : U64) : Soroban Unit := do
  assert_can_manage_permissions caller
  acl.grant_permission_internal grantee permission caller expires_at

def acl_revoke_permission (caller grantee : Address) (permission : Permission) :
    Soroban Unit := do
  assert_can_manage_permissions caller
  acl.revoke_permission_internal grantee permission

/-- The four functions on lists of grants, with the text of the refusal. -/
def acl_bulk {α : Type} (msg : String) (apply_entry : α → Soroban Unit) (caller : Address)
    (entries : List α) : Soroban Unit := do
  assert_can_manage_permissions caller
  panic_if (20 < entries.length) msg
  entries.foldlM (fun _ entry => apply_entry entry) ()

def acl_bulk_grant_roles (caller : Address) : List BulkRoleEntry → Soroban Unit :=
  acl_bulk "bulk grant exceeds maximum of 20 entries"
    (fun entry => acl.grant_role_internal entry.grantee entry.role caller entry.expires_at) caller

def acl_bulk_revoke_roles (caller : Address) : List BulkRoleEntry → Soroban Unit :=
  acl_bulk "bulk revoke exceeds maximum of 20 entries"
    (fun entry => acl.revoke_role_internal entry.grantee entry.role) caller

def acl_bulk_grant_permissions (caller : Address) : List BulkPermissionEntry → Soroban Unit :=
  acl_bulk "bulk grant exceeds maximum of 20 entries"
    (fun entry =>
      acl.grant_permission_internal entry.grantee entry.permission caller entry.expires_at) caller

def acl_bulk_revoke_permissions (caller : Address) : List BulkPermissionEntry → Soroban Unit :=
  acl_bulk "bulk revoke exceeds maximum of 20 entries"
    (fun entry => acl.revoke_permission_internal entry.grantee entry.permission) caller

section Footprints

variable (caller grantee : Address) (admin_role : AdminRole) (role : Role) (permission : Permission)
variable (expires_at : U64) (role_entries : List BulkRoleEntry)
variable (permission_entries : List BulkPermissionEntry)

instance [Among .RoleKey ts] [Among .ROLES_LIST ts] :
    Writes ts (grant_role caller grantee admin_role) := by
  unfold grant_role
  infer_instance

instance [Among .RoleKey ts] [Among .ROLES_LIST ts] :
    Writes ts (revoke_role caller grantee admin_role) := by
  unfold revoke_role
  infer_instance

instance : Writes ts (assert_can_manage_permissions caller) := by
  unfold assert_can_manage_permissions
  infer_instance

instance [Among .RoleGrants ts] : Writes ts (acl_grant_role caller grantee role expires_at) := by
  unfold acl_grant_role
  infer_instance

instance [Among .RoleGrants ts] : Writes ts (acl_revoke_role caller grantee role) := by
  unfold acl_revoke_role
  infer_instance

instance [Among .PermissionGrants ts] :
    Writes ts (acl_grant_permission caller grantee permission expires_at) := by
  unfold acl_grant_permission
  infer_instance

instance [Among .PermissionGrants ts] :
    Writes ts (acl_revoke_permission caller grantee permission) := by
  unfold acl_revoke_permission
  infer_instance

instance {α : Type} (msg : String) (apply_entry : α → Soroban Unit)
    [∀ entry, Writes ts (apply_entry entry)] (entries : List α) :
    Writes ts (acl_bulk msg apply_entry caller entries) := by
  unfold acl_bulk
  infer_instance

instance [Among .RoleGrants ts] : Writes ts (acl_bulk_grant_roles caller role_entries) := by
  unfold acl_bulk_grant_roles
  infer_instance

instance [Among .RoleGrants ts] : Writes ts (acl_bulk_revoke_roles caller role_entries) := by
  unfold acl_bulk_revoke_roles
  infer_instance

instance [Among .PermissionGrants ts] :
    Writes ts (acl_bulk_grant_permissions caller permission_entries) := by
  unfold acl_bulk_grant_permissions
  infer_instance

instance [Among .PermissionGrants ts] :
    Writes ts (acl_bulk_revoke_permissions caller permission_entries) := by
  unfold acl_bulk_revoke_permissions
  infer_instance

instance : Blocked Paused (grant_role caller grantee admin_role) := by
  unfold grant_role
  infer_instance

instance : Blocked Paused (revoke_role caller grantee admin_role) := by
  unfold revoke_role
  infer_instance

instance : Blocked Paused (assert_can_manage_permissions caller) := by
  unfold assert_can_manage_permissions
  infer_instance

instance : Blocked Paused (acl_grant_role caller grantee role expires_at) := by
  unfold acl_grant_role
  infer_instance

instance : Blocked Paused (acl_revoke_role caller grantee role) := by
  unfold acl_revoke_role
  infer_instance

instance : Blocked Paused (acl_grant_permission caller grantee permission expires_at) := by
  unfold acl_grant_permission
  infer_instance

instance : Blocked Paused (acl_revoke_permission caller grantee permission) := by
  unfold acl_revoke_permission
  infer_instance

instance {α : Type} (msg : String) (apply_entry : α → Soroban Unit) (entries : List α) :
    Blocked Paused (acl_bulk msg apply_entry caller entries) := by
  unfold acl_bulk
  infer_instance

instance : Blocked Paused (acl_bulk_grant_roles caller role_entries) := by
  unfold acl_bulk_grant_roles
  infer_instance

instance : Blocked Paused (acl_bulk_revoke_roles caller role_entries) := by
  unfold acl_bulk_revoke_roles
  infer_instance

instance : Blocked Paused (acl_bulk_grant_permissions caller permission_entries) := by
  unfold acl_bulk_grant_permissions
  infer_instance

instance : Blocked Paused (acl_bulk_revoke_permissions caller permission_entries) := by
  unfold acl_bulk_revoke_permissions
  infer_instance

end Footprints

/-! ## Pause -/

def append_pause_history (record : PauseRecord) : Soroban Unit := do
  let history ← get .PAUSE_HISTORY
  set .PAUSE_HISTORY (history.getD [] ++ [record])

/-- The common part of the two ways to pause: the caller on record and the seconds until
`unpause` becomes available. -/
def pause_contract (caller : Address) (reason : SString) (timelock_secs : U64) :
    Soroban Unit := do
  let now ← timestamp
  set .GLOBAL_PAUSED true
  set .PAUSE_REASON reason
  set .PAUSED_AT now
  let available_at ← add_u64 now timelock_secs
  set .UNPAUSE_AVAILABLE_AT available_at
  append_pause_history { paused := true, reason, caller, timestamp := now }
  append_admin_activity .ContractPaused caller reason

/-- The common part of the two ways to lift the pause. -/
def unpause_contract (caller : Address) (reason : SString) : Soroban Unit := do
  let now ← timestamp
  set .GLOBAL_PAUSED false
  append_pause_history { paused := false, reason, caller, timestamp := now }
  append_admin_activity .ContractUnpaused caller reason

def emergency_pause (caller : Address) (reason : SString) : Soroban Unit := do
  require_auth caller
  let admin ← get_admin
  let guardian ← get .PAUSE_GUARDIAN
  panic_if (caller ≠ admin ∧ guardian ≠ some caller)
    "only admin or pause guardian can trigger emergency pause"
  pause_contract caller reason 86400

def unpause (caller : Address) (reason : SString) : Soroban Unit := do
  assert_only_admin "only admin can unpause the contract" caller
  let now ← timestamp
  let available_at ← get .UNPAUSE_AVAILABLE_AT
  panic_if (now < available_at.getD 0) "unpause timelock has not elapsed yet"
  unpause_contract caller reason

def set_pause_guardian (caller guardian : Address) : Soroban Unit := do
  assert_only_admin "only admin can set pause guardian" caller
  set .PAUSE_GUARDIAN guardian

def set_emergency_contact (caller : Address) (contact : SString) : Soroban Unit := do
  assert_only_admin "only admin can set emergency contact" caller
  set .EMERGENCY_CONTACT contact

/-! ## The emergency multisig -/

def configure_emergency_multisig (caller : Address) (operators : List (BytesN 32))
    (threshold : U32) : Soroban Unit := do
  assert_only_admin "only admin can configure the emergency multisig" caller
  let _ ← emergency_multisig.configure operators threshold
  return

section Multisig

variable [Host] (signatures : List OperatorSignature) (nonce : U64)

def emergency_pause_multisig (reason : SString) : Soroban Unit := do
  let _ ← emergency_multisig.verify_and_execute .Pause signatures nonce
  pause_contract Host.current_contract_address reason 0

def unpause_emergency_multisig (reason : SString) : Soroban Unit := do
  let _ ← emergency_multisig.verify_and_execute .Unpause signatures nonce
  unpause_contract Host.current_contract_address reason

def set_mismatch_threshold_multisig (threshold_bps : I128) : Soroban Unit := do
  let _ ← emergency_multisig.verify_and_execute (.SetMismatchThreshold threshold_bps) signatures
    nonce
  set .MISMATCH_THRESHOLD threshold_bps

def blacklist_bridge_multisig (bridge_id : SString) : Soroban Unit := do
  let _ ← emergency_multisig.verify_and_execute (.EmergencyBlacklistBridge bridge_id) signatures
    nonce
  let blacklist ← get .BRIDGE_BLACKLIST
  exec_if (bridge_id ∉ blacklist.getD []) do
    set .BRIDGE_BLACKLIST (blacklist.getD [] ++ [bridge_id])

def delist_oracle_node_multisig (node_address : Address) : Soroban Unit := do
  let _ ← emergency_multisig.verify_and_execute (.EmergencyDelistOracleNode node_address)
    signatures nonce
  source_trust.revoke_trusted_source Host.current_contract_address node_address

end Multisig

def remove_bridge_from_blacklist (caller : Address) (bridge_id : SString) : Soroban Unit := do
  assert_only_admin "only admin can lift a bridge blacklist" caller
  let blacklist ← get .BRIDGE_BLACKLIST
  let blacklist := blacklist.getD []
  panic_if (bridge_id ∉ blacklist) "bridge is not blacklisted"
  set .BRIDGE_BLACKLIST (blacklist.filter fun b => b ≠ bridge_id)

section Footprints

variable (caller guardian : Address) (reason : SString) (secs nonce : U64) (threshold : U32)
variable (operators : List (BytesN 32)) (signatures : List OperatorSignature)

instance [Among .PAUSE_HISTORY ts] (record : PauseRecord) :
    Writes ts (append_pause_history record) := by
  unfold append_pause_history
  infer_instance

/-- What the two ways to pause write. -/
abbrev pauseTags : List Tag :=
  [.GLOBAL_PAUSED, .PAUSE_REASON, .PAUSED_AT, .UNPAUSE_AVAILABLE_AT, .PAUSE_HISTORY,
    .ADMIN_ACTIVITY_CTR, .ADMIN_ACTIVITY_LOG]

/-- What every action of the multisig writes. -/
abbrev multisigTags : List Tag := [.EMERGENCY_MULTISIG_NONCE, .EMERGENCY_MULTISIG_LOG]

instance [Within pauseTags ts] : Writes ts (pause_contract caller reason secs) := by
  apply Writes.mono pauseTags
  unfold pause_contract
  infer_instance

instance [Within pauseTags ts] : Writes ts (unpause_contract caller reason) := by
  apply Writes.mono pauseTags
  unfold unpause_contract
  infer_instance

instance [Within pauseTags ts] : Writes ts (emergency_pause caller reason) := by
  unfold emergency_pause
  infer_instance

instance [Within pauseTags ts] : Writes ts (unpause caller reason) := by
  unfold unpause
  infer_instance

instance [Among .PAUSE_GUARDIAN ts] : Writes ts (set_pause_guardian caller guardian) := by
  unfold set_pause_guardian
  infer_instance

instance [Among .EMERGENCY_CONTACT ts] : Writes ts (set_emergency_contact caller reason) := by
  unfold set_emergency_contact
  infer_instance

instance [Among .EMERGENCY_MULTISIG_CONFIG ts] [Among .EMERGENCY_MULTISIG_NONCE ts] :
    Writes ts (configure_emergency_multisig caller operators threshold) := by
  unfold configure_emergency_multisig
  infer_instance

instance [Host] [Within (multisigTags ++ pauseTags) ts] :
    Writes ts (emergency_pause_multisig signatures nonce reason) := by
  apply Writes.mono (multisigTags ++ pauseTags)
  unfold emergency_pause_multisig
  infer_instance

instance [Host] [Within (multisigTags ++ pauseTags) ts] :
    Writes ts (unpause_emergency_multisig signatures nonce reason) := by
  apply Writes.mono (multisigTags ++ pauseTags)
  unfold unpause_emergency_multisig
  infer_instance

instance [Host] [Within (.MISMATCH_THRESHOLD :: multisigTags) ts] (threshold_bps : I128) :
    Writes ts (set_mismatch_threshold_multisig signatures nonce threshold_bps) := by
  apply Writes.mono (.MISMATCH_THRESHOLD :: multisigTags)
  unfold set_mismatch_threshold_multisig
  infer_instance

instance [Host] [Within (.BRIDGE_BLACKLIST :: multisigTags) ts] (bridge_id : SString) :
    Writes ts (blacklist_bridge_multisig signatures nonce bridge_id) := by
  apply Writes.mono (.BRIDGE_BLACKLIST :: multisigTags)
  unfold blacklist_bridge_multisig
  infer_instance

instance [Host] [Within (.Source :: multisigTags) ts] (node_address : Address) :
    Writes ts (delist_oracle_node_multisig signatures nonce node_address) := by
  apply Writes.mono (.Source :: multisigTags)
  unfold delist_oracle_node_multisig
  infer_instance

instance [Among .BRIDGE_BLACKLIST ts] (bridge_id : SString) :
    Writes ts (remove_bridge_from_blacklist caller bridge_id) := by
  unfold remove_bridge_from_blacklist
  infer_instance

end Footprints

/-! ## Hand-over of the admin -/

def propose_admin_transfer (caller proposed_admin : Address) : Soroban Unit := do
  assert_only_admin "only the current admin can propose a transfer" caller
  let existing ← get .PENDING_TRANSFER
  let now ← timestamp
  existing.elim (pure ()) fun proposal =>
    panic_if (now < proposal.timeout_at) "a pending transfer already exists; cancel it first"
  let timeout_at ← add_u64 now 604800
  set .PENDING_TRANSFER { proposed_admin, proposed_at := now, timeout_at }

def accept_admin_transfer (caller : Address) : Soroban Unit := do
  require_auth caller
  let proposal ← get .PENDING_TRANSFER
  let proposal ← expect proposal "no pending admin transfer"
  let now ← timestamp
  panic_if (proposal.timeout_at ≤ now) "admin transfer proposal has expired"
  panic_if (caller ≠ proposal.proposed_admin) "caller is not the nominated new admin"
  set .ADMIN caller
  remove .PENDING_TRANSFER

def cancel_admin_transfer (caller : Address) : Soroban Unit := do
  assert_only_admin "only the current admin can cancel a transfer" caller
  let existing ← get .PENDING_TRANSFER
  panic_if (existing = none) "no pending admin transfer to cancel"
  remove .PENDING_TRANSFER

/-! ## Upgrades -/

def load_pending_upgrade : Soroban UpgradeProposal := do
  let proposal ← get .PENDING_UPGRADE
  expect proposal "no pending upgrade proposal"

def governance_member_count : Soroban U32 := do
  let admin ← get_admin
  let assignments ← get .ROLES_LIST
  let members := (assignments.getD []).foldl (fun members assignment =>
    if assignment.role = .SuperAdmin ∧ assignment.address ∉ members then
      members ++ [assignment.address]
    else members) [admin]
  return len members

/-- `x.div_ceil(y)`. -/
def div_ceil (x : U32) (y : ℕ) : U32 := UInt32.ofNat ((x.toNat + y - 1) / y)

def upgrade_approval_threshold (emergency : Bool) : Soroban U32 := do
  let members ← governance_member_count
  panic_if (members = 0) "no governance members configured"
  let standard_threshold := div_ceil members 2
  if emergency = false then
    return standard_threshold
  else do
    panic_if (members < 2) "emergency upgrades require at least two governance members"
    let doubled ← add_u32 members members
    let emergency_threshold := div_ceil doubled 3
    let raised ← add_u32 standard_threshold 1
    let emergency_threshold :=
      if emergency_threshold ≤ standard_threshold then raised else emergency_threshold
    return if members < emergency_threshold then members else emergency_threshold

def create_upgrade_proposal (caller : Address) (new_wasm_hash : BytesN 32) (emergency : Bool)
    (migration_callback : Option Address) (migration_payload : Option Buffer)
    (is_rollback : Bool) : Soroban U64 := do
  panic_if (migration_payload ≠ none ∧ migration_callback = none)
    "migration payload requires a migration callback"
  let now ← timestamp
  let timelock_secs : U64 := if emergency then 0 else 172800
  let required_approvals ← upgrade_approval_threshold emergency
  let counter ← get .UPGRADE_PROPOSAL_COUNTER
  let proposal_id ← add_u64 (counter.getD 0) 1
  let execute_after ← add_u64 now timelock_secs
  set .UPGRADE_PROPOSAL_COUNTER proposal_id
  set .PENDING_UPGRADE
    { proposal_id
      proposer := caller
      new_wasm_hash
      proposed_at := now
      execute_after
      required_approvals
      approvals := [caller]
      emergency
      migration_callback
      migration_payload
      is_rollback }
  return proposal_id

/-- The guards of the two ways to propose an upgrade. -/
def assert_can_propose_upgrade (caller : Address) : Soroban Unit := do
  check_permission caller .SuperAdmin
  check_no_pending_transfer
  let pending ← get .PENDING_UPGRADE
  panic_if (pending ≠ none) "an upgrade proposal is already pending"

def propose_upgrade (caller : Address) (new_wasm_hash : BytesN 32) (emergency : Bool)
    (migration_callback : Option Address) (migration_payload : Option Buffer) :
    Soroban U64 := do
  assert_can_propose_upgrade caller
  create_upgrade_proposal caller new_wasm_hash emergency migration_callback migration_payload false

def propose_rollback (caller : Address) (emergency : Bool) (migration_callback : Option Address)
    (migration_payload : Option Buffer) : Soroban U64 := do
  assert_can_propose_upgrade caller
  let rollback_hash ← get .ROLLBACK_TARGET_HASH
  let rollback_hash ← expect rollback_hash "no rollback target is currently tracked"
  create_upgrade_proposal caller rollback_hash emergency migration_callback migration_payload true

/-- The pending proposal, which must have the given id. -/
def expect_pending_upgrade (proposal_id : U64) : Soroban UpgradeProposal := do
  let proposal ← load_pending_upgrade
  panic_if (proposal.proposal_id ≠ proposal_id)
    "upgrade proposal id does not match the pending proposal"
  return proposal

def approve_upgrade (caller : Address) (proposal_id : U64) : Soroban U32 := do
  check_permission caller .SuperAdmin
  check_no_pending_transfer
  let proposal ← expect_pending_upgrade proposal_id
  panic_if (caller ∈ proposal.approvals) "caller has already approved this upgrade proposal"
  set .PENDING_UPGRADE { proposal with approvals := proposal.approvals ++ [caller] }
  return len (proposal.approvals ++ [caller])

def execute_upgrade [Host] (caller : Address) (proposal_id : U64) : Soroban Unit := do
  check_permission caller .SuperAdmin
  check_no_pending_transfer
  let proposal ← expect_pending_upgrade proposal_id
  let now ← timestamp
  panic_if (now < proposal.execute_after) "upgrade timelock has not elapsed"
  panic_if (proposal.approvals.length < proposal.required_approvals.toNat)
    "insufficient governance approvals"
  let version ← get .CONTRACT_VERSION
  let from_version := version.getD 1
  let to_version := saturating_add_u32 from_version 1
  let from_wasm_hash ← get .CURRENT_CONTRACT_WASM_HASH
  from_wasm_hash.elim (pure ()) fun previous_hash => set .ROLLBACK_TARGET_HASH previous_hash
  set .CURRENT_CONTRACT_WASM_HASH proposal.new_wasm_hash
  set .CONTRACT_VERSION to_version
  let history ← get .UPGRADE_HISTORY
  set .UPGRADE_HISTORY
    (history.getD [] ++ [{
      proposal_id
      executed_by := caller
      from_version
      to_version
      has_from_wasm_hash := from_wasm_hash.isSome
      from_wasm_hash := from_wasm_hash.getD zero32
      to_wasm_hash := proposal.new_wasm_hash
      executed_at := now
      emergency := proposal.emergency
      is_rollback := proposal.is_rollback
      has_migration_callback := proposal.migration_callback.isSome
      migration_callback := proposal.migration_callback.getD Host.current_contract_address }])
  remove .PENDING_UPGRADE

def cancel_upgrade (caller : Address) (proposal_id : U64) : Soroban Unit := do
  check_permission caller .SuperAdmin
  let _ ← expect_pending_upgrade proposal_id
  remove .PENDING_UPGRADE

section Footprints

variable (caller proposed_admin : Address) (hash : BytesN 32) (emergency is_rollback : Bool)
variable (callback : Option Address) (payload : Option Buffer) (proposal_id : U64)

instance [Among .PENDING_TRANSFER ts] :
    Writes ts (propose_admin_transfer caller proposed_admin) := by
  unfold propose_admin_transfer
  infer_instance

instance [Among .ADMIN ts] [Among .PENDING_TRANSFER ts] :
    Writes ts (accept_admin_transfer caller) := by
  unfold accept_admin_transfer
  infer_instance

instance [Among .PENDING_TRANSFER ts] : Writes ts (cancel_admin_transfer caller) := by
  unfold cancel_admin_transfer
  infer_instance

instance : Writes ts load_pending_upgrade := by
  unfold load_pending_upgrade
  infer_instance

instance : Writes ts governance_member_count := by
  unfold governance_member_count
  infer_instance

instance : Writes ts (upgrade_approval_threshold emergency) := by
  unfold upgrade_approval_threshold
  infer_instance

instance [Among .UPGRADE_PROPOSAL_COUNTER ts] [Among .PENDING_UPGRADE ts] :
    Writes ts (create_upgrade_proposal caller hash emergency callback payload is_rollback) := by
  unfold create_upgrade_proposal
  infer_instance

instance : Writes ts (assert_can_propose_upgrade caller) := by
  unfold assert_can_propose_upgrade
  infer_instance

instance [Among .UPGRADE_PROPOSAL_COUNTER ts] [Among .PENDING_UPGRADE ts] :
    Writes ts (propose_upgrade caller hash emergency callback payload) := by
  unfold propose_upgrade
  infer_instance

instance [Among .UPGRADE_PROPOSAL_COUNTER ts] [Among .PENDING_UPGRADE ts] :
    Writes ts (propose_rollback caller emergency callback payload) := by
  unfold propose_rollback
  infer_instance

instance : Writes ts (expect_pending_upgrade proposal_id) := by
  unfold expect_pending_upgrade
  infer_instance

instance [Among .PENDING_UPGRADE ts] : Writes ts (approve_upgrade caller proposal_id) := by
  unfold approve_upgrade
  infer_instance

/-- What the execution of an upgrade writes. -/
abbrev upgradeTags : List Tag :=
  [.ROLLBACK_TARGET_HASH, .CURRENT_CONTRACT_WASM_HASH, .CONTRACT_VERSION, .UPGRADE_HISTORY,
    .PENDING_UPGRADE]

instance [Host] [Within upgradeTags ts] : Writes ts (execute_upgrade caller proposal_id) := by
  apply Writes.mono upgradeTags
  unfold execute_upgrade
  infer_instance

instance [Among .PENDING_UPGRADE ts] : Writes ts (cancel_upgrade caller proposal_id) := by
  unfold cancel_upgrade
  infer_instance

end Footprints

/-! ## Configuration -/

/-- The guard on the configuration, with the text of the refusal. -/
def assert_can_configure (msg : String) (caller : Address) : Soroban Unit := do
  let admin ← get_admin
  let authorized ← is_authorized caller admin
  panic_if (authorized = false) msg

/-- The least value of a category. -/
def config_minimum : ConfigCategory → ℤ
  | .Threshold => 0
  | .Timeouts => 1
  | .Limits => 1

/-- The refusal of a value below the least one. -/
def config_refusal : ConfigCategory → String
  | .Threshold => "config: threshold value must be ≥ 0"
  | .Timeouts => "config: timeout value must be ≥ 1 second"
  | .Limits => "config: limit value must be ≥ 1"

/-- Adds a key to the list of configuration keys unless it is there. -/
def add_config_key (category : ConfigCategory) (name : SString) : Soroban Unit := do
  let keys ← get .ConfigKeys
  exec_if ((category, name) ∉ keys.getD []) do
    set .ConfigKeys (keys.getD [] ++ [(category, name)])

def set_config (caller : Address) (category : ConfigCategory) (name : SString) (value : I128)
    (description : SString) : Soroban Unit := do
  require_auth caller
  assert_not_globally_paused
  check_no_pending_transfer
  assert_can_configure "unauthorized: only admin may modify configuration" caller
  panic_if (name = []) "config: name must not be empty"
  panic_if (64 < name.length) "config: name must be ≤ 64 bytes"
  panic_if (description = []) "config: description must not be empty"
  panic_if (256 < description.length) "config: description must be ≤ 256 bytes"
  panic_if (value.toInt < config_minimum category) (config_refusal category)
  let now ← timestamp
  let existing ← get (.Entry category name)
  let old_value : I128 := existing.elim 0 fun entry => entry.value.value
  let version ← add_u32 (existing.elim 0 ConfigEntry.version) 1
  set (.Entry category name)
    { category
      name
      value := { value, description }
      version
      updated_at := now
      updated_by := caller }
  add_config_key category name
  let audit_log ← get (.AuditLog category name)
  set (.AuditLog category name)
    (trim_audit_log
      (audit_log.getD [] ++
        [{ old_value, new_value := value, version, changed_at := now, changed_by := caller }]))

def set_config_bulk (caller : Address) (updates : List BulkConfigUpdate) : Soroban Unit := do
  require_auth caller
  assert_not_globally_paused
  check_no_pending_transfer
  assert_can_configure "unauthorized: only admin may modify configuration" caller
  panic_if (updates = []) "config: bulk update list must not be empty"
  panic_if (20 < updates.length) "config: bulk update list must contain at most 20 items"
  updates.foldlM (fun _ u => set_config caller u.category u.name u.value u.description) ()

/-- The entries that `init_default_config` sets. -/
def default_config : List BulkConfigUpdate :=
  [{ category := .Threshold
     name := str "health_score_min"
     value := 50
     description := str "Minimum acceptable composite health score (0-100)" },
   { category := .Threshold
     name := str "price_deviation_low_bps"
     value := 200
     description := str "Low-severity price deviation trigger in basis points (default 2%)" },
   { category := .Threshold
     name := str "price_deviation_medium_bps"
     value := 500
     description := str "Medium-severity price deviation trigger in basis points (default 5%)" },
   { category := .Threshold
     name := str "price_deviation_high_bps"
     value := 1000
     description := str "High-severity price deviation trigger in basis points (default 10%)" },
   { category := .Threshold
     name := str "supply_mismatch_bps"
     value := 10
     description := str "Critical supply mismatch threshold in basis points (default 0.1%)" },
   { category := .Timeouts
     name := str "price_staleness_seconds"
     value := 3600
     description := str "Age in seconds after which a price record is considered stale" },
   { category := .Timeouts
     name := str "health_staleness_seconds"
     value := 3600
     description := str "Age in seconds after which a health score is considered stale" },
   { category := .Timeouts
     name := str "pause_timelock_seconds"
     value := 300
     description :=
       str "Minimum seconds that must elapse before an emergency pause can be lifted" },
   { category := .Timeouts
     name := str "admin_transfer_timeout"
     value := 86400
     description := str "Seconds until a pending admin transfer proposal expires automatically" },
   { category := .Limits
     name := str "max_monitored_assets"
     value := 100
     description := str "Maximum number of assets that may be registered simultaneously" },
   { category := .Limits
     name := str "max_batch_size"
     value := 50
     description := str "Maximum number of records in a single batch submit call" },
   { category := .Limits
     name := str "max_signers"
     value := 20
     description := str "Maximum number of registered signers allowed at one time" },
   { category := .Limits
     name := str "max_price_history"
     value := 100
     description := str "Maximum number of historical price records retained per asset" }]

/-- `set_if_absent`. -/
def set_if_absent (caller : Address) (u : BulkConfigUpdate) : Soroban Unit := do
  let existing ← get (.Entry u.category u.name)
  exec_if (existing = none) (set_config caller u.category u.name u.value u.description)

def init_default_config (caller : Address) : Soroban Unit := do
  require_auth caller
  assert_not_globally_paused
  assert_can_configure "unauthorized: only admin may initialise default config" caller
  default_config.foldlM (fun _ u => set_if_absent caller u) ()

section Footprints

variable (caller : Address) (msg : String) (category : ConfigCategory) (name description : SString)
variable (value : I128) (updates : List BulkConfigUpdate)

/-- What a change of the configuration writes. -/
abbrev configTags : List Tag := [.Entry, .ConfigKeys, .AuditLog]

instance : Writes ts (assert_can_configure msg caller) := by
  unfold assert_can_configure
  infer_instance

instance [Among .ConfigKeys ts] : Writes ts (add_config_key category name) := by
  unfold add_config_key
  infer_instance

instance [Within configTags ts] : Writes ts (set_config caller category name value description) := by
  apply Writes.mono configTags
  unfold set_config
  infer_instance

instance [Within configTags ts] : Writes ts (set_config_bulk caller updates) := by
  unfold set_config_bulk
  infer_instance

instance [Within configTags ts] (u : BulkConfigUpdate) : Writes ts (set_if_absent caller u) := by
  unfold set_if_absent
  infer_instance

instance [Within configTags ts] : Writes ts (init_default_config caller) := by
  unfold init_default_config
  infer_instance

instance : Blocked Paused (set_config caller category name value description) := by
  unfold set_config
  infer_instance

instance : Blocked Paused (set_config_bulk caller updates) := by
  unfold set_config_bulk
  infer_instance

instance : Blocked Paused (init_default_config caller) := by
  unfold init_default_config
  infer_instance

end Footprints

/-! ## Recovery mode -/

def enter_recovery_mode (caller : Address) (reason : SString) : Soroban Unit := do
  assert_only_admin "only admin can enter recovery mode" caller
  let active ← get .RECOVERY_MODE
  panic_if (active.getD false = true) "recovery mode already active"
  let now ← timestamp
  set .RECOVERY_MODE true
  set .RECOVERY_REASON reason
  set .RECOVERY_ENTERED_AT now
  set .RECOVERY_ENTERED_BY caller
  set .RECOVERY_STEPS []
  append_replay_event (str "rec_entr") caller reason 0
  append_admin_activity .RecoveryEntered caller reason

def exit_recovery_mode (caller : Address) : Soroban Unit := do
  assert_only_admin "only admin can exit recovery mode" caller
  let active ← get .RECOVERY_MODE
  panic_if (active.getD false = false) "recovery mode is not active"
  set .RECOVERY_MODE false
  append_admin_activity .RecoveryExited caller (str "recovery mode ended")

def record_recovery_step (caller : Address) (description : SString) : Soroban Unit := do
  assert_only_admin "only admin can record recovery steps" caller
  let active ← get .RECOVERY_MODE
  panic_if (active.getD false = false) "recovery mode is not active"
  let steps ← get .RECOVERY_STEPS
  let steps := steps.getD []
  panic_if (50 ≤ steps.length) "recovery step log is full (max 50)"
  let now ← timestamp
  set .RECOVERY_STEPS (steps ++ [{ description, completed := true, recorded_at := now, actor := caller }])

/-! ## Trusted sources -/

/-- The guards of the two entry points on trusted sources. -/
def assert_can_manage_sources (caller : Address) : Soroban Unit := do
  require_auth caller
  let admin ← get .ADMIN
  let admin ← expect admin "contract not initialized"
  exec_if (caller ≠ admin) (acl.require_permission caller admin .ManageConfig)

def register_trusted_source (caller source_address : Address) (name : SString) :
    Soroban Unit := do
  assert_can_manage_sources caller
  source_trust.register_trusted_source caller source_address name

def revoke_trusted_source (caller source_address : Address) : Soroban Unit := do
  assert_can_manage_sources caller
  source_trust.revoke_trusted_source caller source_address

section Footprints

variable (caller source_address : Address) (text : SString)

/-- What the entry points on recovery write. -/
abbrev recoveryTags : List Tag :=
  [.RECOVERY_MODE, .RECOVERY_REASON, .RECOVERY_ENTERED_AT, .RECOVERY_ENTERED_BY, .RECOVERY_STEPS,
    .EVENT_REPLAY_CTR, .EVENT_REPLAY_LOG, .ADMIN_ACTIVITY_CTR, .ADMIN_ACTIVITY_LOG]

instance [Within recoveryTags ts] : Writes ts (enter_recovery_mode caller text) := by
  apply Writes.mono recoveryTags
  unfold enter_recovery_mode
  infer_instance

instance [Within recoveryTags ts] : Writes ts (exit_recovery_mode caller) := by
  apply Writes.mono recoveryTags
  unfold exit_recovery_mode
  infer_instance

instance [Within recoveryTags ts] : Writes ts (record_recovery_step caller text) := by
  apply Writes.mono recoveryTags
  unfold record_recovery_step
  infer_instance

instance : Writes ts (assert_can_manage_sources caller) := by
  unfold assert_can_manage_sources
  infer_instance

instance [Among .Source ts] [Among .AllSources ts] :
    Writes ts (register_trusted_source caller source_address text) := by
  unfold register_trusted_source
  infer_instance

instance [Among .Source ts] : Writes ts (revoke_trusted_source caller source_address) := by
  unfold revoke_trusted_source
  infer_instance

end Footprints

end BridgeWatch.Contract

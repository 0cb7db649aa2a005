/-
The oracle hub, `contracts/soroban/src/oracle_hub.rs`, and its registry of nodes.

The hub is a contract of its own, with its own storage. Every entry point that can change the
storage is here, with the reads that serve an aggregate; a call that returns `Err(e)` leaves nothing
behind and is modelled as one that fails with the text of `e`. The events are left out.

The node counts of a submission are those of the set of active nodes, since the list of all nodes has
every registered node once.
-/
import Mathlib.Data.Finset.Card
import BridgeWatch.ContractState

set_option autoImplicit false

namespace BridgeWatch.OracleHub

open Transaction
open Contract (U32 U64 I128 SString Address Env len saturating_sub_u32 saturating_sub_u64)

/-! ## Data -/

/-- The default bound on the age of an aggregate that is served, in seconds. -/
def DEFAULT_MAX_STALENESS_SECS : U64 := 3600

/-- How long a proposed bound waits. -/
def STALENESS_TIMELOCK_SECS : U64 := 86400

/-- The smallest bound that can be proposed. -/
def MIN_MAX_STALENESS_SECS : U64 := 60

inductive OracleHubError where
  | PriceStale
  | NoAggregate
  | NotInitialized
  | AlreadyInitialized
  | Unauthorized
  | TimelockPending
  | NoPendingChange
  | InvalidStaleness
  deriving DecidableEq

/-- How the host shows the error of a contract. -/
def OracleHubError.text : OracleHubError → String
  | .PriceStale => "Error(Contract, #1)"
  | .NoAggregate => "Error(Contract, #2)"
  | .NotInitialized => "Error(Contract, #3)"
  | .AlreadyInitialized => "Error(Contract, #4)"
  | .Unauthorized => "Error(Contract, #5)"
  | .TimelockPending => "Error(Contract, #6)"
  | .NoPendingChange => "Error(Contract, #7)"
  | .InvalidStaleness => "Error(Contract, #8)"

structure PendingStalenessChange where
  max_staleness_secs : U64
  proposed_at : U64
  effective_at : U64
  deriving DecidableEq

structure BftOracleNode where
  node_address : Address
  stake_weight : U32
  registered_at : U64
  is_active : Bool
  is_slashed : Bool
  slash_count : U32
  deriving DecidableEq

structure BftAggregateState where
  asset_code : SString
  consensus_price : I128
  mean_price : I128
  std_dev : U64
  reporting_count : U32
  valid_count : U32
  required_quorum : U32
  is_valid_quorum : Bool
  timestamp : U64
  deriving DecidableEq

structure SlashingRecord where
  node_address : Address
  asset_code : SString
  deviation_sigma_bps : U32
  reason_code : U32
  slashed_at : U64
  deriving DecidableEq

inductive OracleHubKey where
  | Node (address : Address)
  | AllNodes
  | AggregateState (asset_code : SString)
  | SlashRecord (address : Address)
  | Admin
  | MaxStaleness
  | PendingStaleness
  deriving DecidableEq

/-- The type of the record under a key. -/
@[reducible] def OracleHubKey.Val : OracleHubKey → Type
  | .Node _ => BftOracleNode
  | .AllNodes => List Address
  | .AggregateState _ => BftAggregateState
  | .SlashRecord _ => SlashingRecord
  | .Admin => Address
  | .MaxStaleness => U64
  | .PendingStaleness => PendingStalenessChange

/-- The hub's storage. -/
abbrev HubStorage := Store OracleHubKey OracleHubKey.Val

/-- A call of a function of the hub. -/
abbrev Hub (α : Type) := Tx Env OracleHubKey OracleHubKey.Val α

/-! ## Functions -/

/-- `env.storage().persistent().get(&key)`, and the same on instance storage. -/
abbrev get (key : OracleHubKey) : Hub (Option key.Val) := load key

/-- `env.storage().persistent().set(&key, &value)`, and the same on instance storage. -/
abbrev set (key : OracleHubKey) (value : key.Val) : Hub Unit := save key value

/-- `address.require_auth()`. -/
def require_auth (address : Address) : Hub Unit := do
  let authorized ← reads (Env.auth · address)
  panic_if (authorized = false) "Error(Auth, InvalidAction)"

/-- `x + y` on `u32`. -/
def add_u32 (x y : U32) : Hub U32 := do
  panic_if (2 ^ 32 ≤ x.toNat + y.toNat) "attempt to add with overflow"
  return x + y

/-- `x + y` on `u64`. -/
def add_u64 (x y : U64) : Hub U64 := do
  panic_if (2 ^ 64 ≤ x.toNat + y.toNat) "attempt to add with overflow"
  return x + y

def register_oracle_node (caller node_address : Address) (stake_weight : U32) : Hub Unit := do
  require_auth caller
  let now ← reads Env.timestamp
  let existing ← get (.Node node_address)
  let node : BftOracleNode := existing.elim
    { node_address, stake_weight, registered_at := now, is_active := true, is_slashed := false,
      slash_count := 0 }
    fun existing_node => { existing_node with is_active := true, is_slashed := false, stake_weight }
  set (.Node node_address) node
  let all_nodes ← get .AllNodes
  let all_nodes := all_nodes.getD []
  exec_if (node_address ∉ all_nodes) (set .AllNodes (all_nodes ++ [node_address]))

def slash_oracle_node (caller node_address : Address) (asset_code : SString)
    (deviation_sigma_bps reason_code : U32) : Hub Unit := do
  require_auth caller
  let node ← get (.Node node_address)
  let node ← expect node "oracle node not registered"
  let now ← reads Env.timestamp
  let slash_count ← add_u32 node.slash_count 1
  set (.Node node_address) { node with is_slashed := true, is_active := false, slash_count }
  set (.SlashRecord node_address)
    { node_address, asset_code, deviation_sigma_bps, reason_code, slashed_at := now }

/-- `u32` has room for the result. -/
def calculate_required_quorum (total_active_nodes : U32) : U32 :=
  if total_active_nodes = 0 then 0
  else
    let f := saturating_sub_u32 total_active_nodes 1 / 3
    2 * f + 1

/-- The record is that of an active node that is not slashed. -/
def counts (node : Option BftOracleNode) : Bool :=
  node.any fun node => node.is_active && !node.is_slashed

/-- One more when the record counts. -/
def count_node (node : Option BftOracleNode) (count : U32) : Hub U32 :=
  if counts node then add_u32 count 1 else pure count

/-- The first loop of `submit_bft_aggregate`. -/
def count_active (all_nodes : List Address) : Hub U32 :=
  all_nodes.foldlM (fun total_active addr => do
    let node ← get (.Node addr)
    count_node node total_active) 0

/-- A turn of the second loop of `submit_bft_aggregate`. -/
def count_reporting_node (counted : U32 × List Address) (addr : Address) :
    Hub (U32 × List Address) :=
  if addr ∈ counted.2 then pure counted
  else do
    let node ← get (.Node addr)
    let valid_count ← count_node node counted.1
    return (valid_count, counted.2 ++ [addr])

def submit_bft_aggregate (caller : Address) (asset_code : SString)
    (consensus_price mean_price : I128) (std_dev : U64) (reporting_nodes : List Address) :
    Hub BftAggregateState := do
  require_auth caller
  let all_nodes ← get .AllNodes
  let total_active ← count_active (all_nodes.getD [])
  let required_quorum := calculate_required_quorum total_active
  let counted ← reporting_nodes.foldlM count_reporting_node (0, [])
  let valid_count := counted.1
  let is_valid_quorum : Bool := valid_count ≥ required_quorum ∧ required_quorum > 0
  let now ← reads Env.timestamp
  let state : BftAggregateState :=
    { asset_code, consensus_price, mean_price, std_dev, reporting_count := len reporting_nodes,
      valid_count, required_quorum, is_valid_quorum, timestamp := now }
  exec_if (is_valid_quorum = true) (set (.AggregateState asset_code) state)
  return state

def get_bft_aggregate (asset_code : SString) : Hub (Option BftAggregateState) :=
  get (.AggregateState asset_code)

/-- `initialize`. -/
def initialize_hub (admin : Address) : Hub Unit := do
  require_auth admin
  let present ← get .Admin
  panic_if (present.isSome) OracleHubError.AlreadyInitialized.text
  set .Admin admin

def require_admin (caller : Address) : Hub Unit := do
  require_auth caller
  let admin ← get .Admin
  let admin ← expect admin OracleHubError.NotInitialized.text
  panic_if (caller ≠ admin) OracleHubError.Unauthorized.text

def get_max_staleness : Hub U64 := do
  let max_staleness_secs ← get .MaxStaleness
  return max_staleness_secs.getD DEFAULT_MAX_STALENESS_SECS

def propose_max_staleness (caller : Address) (max_staleness_secs : U64) :
    Hub PendingStalenessChange := do
  require_admin caller
  panic_if (max_staleness_secs < MIN_MAX_STALENESS_SECS) OracleHubError.InvalidStaleness.text
  let now ← reads Env.timestamp
  let effective_at ← add_u64 now STALENESS_TIMELOCK_SECS
  let pending : PendingStalenessChange := { max_staleness_secs, proposed_at := now, effective_at }
  set .PendingStaleness pending
  return pending

def apply_max_staleness : Hub U64 := do
  let pending ← get .PendingStaleness
  let pending ← expect pending OracleHubError.NoPendingChange.text
  let now ← reads Env.timestamp
  panic_if (now < pending.effective_at) OracleHubError.TimelockPending.text
  set .MaxStaleness pending.max_staleness_secs
  remove .PendingStaleness
  return pending.max_staleness_secs

def aggregate_age_secs (now : U64) (state : BftAggregateState) : U64 :=
  saturating_sub_u64 now state.timestamp

def get_aggregate_state (asset_code : SString) : Hub BftAggregateState := do
  let state ← get_bft_aggregate asset_code
  let state ← expect state OracleHubError.NoAggregate.text
  let now ← reads Env.timestamp
  let max_staleness_secs ← get_max_staleness
  panic_if (aggregate_age_secs now state > max_staleness_secs) OracleHubError.PriceStale.text
  return state

/-! ## Runs -/

/-- A call of an entry point that can change the storage. -/
inductive EntryPoint where
  | register_oracle_node (caller node_address : Address) (stake_weight : U32)
  | slash_oracle_node (caller node_address : Address) (asset_code : SString)
      (deviation_sigma_bps reason_code : U32)
  | submit_bft_aggregate (caller : Address) (asset_code : SString) (consensus_price mean_price : I128)
      (std_dev : U64) (reporting_nodes : List Address)
  | initialize_hub (admin : Address)
  | propose_max_staleness (caller : Address) (max_staleness_secs : U64)
  | apply_max_staleness

/-- What a call does. -/
def exec : EntryPoint → Hub Unit
  | .register_oracle_node caller node_address stake_weight =>
      register_oracle_node caller node_address stake_weight
  | .slash_oracle_node caller node_address asset_code deviation_sigma_bps reason_code =>
      slash_oracle_node caller node_address asset_code deviation_sigma_bps reason_code
  | .submit_bft_aggregate caller asset_code consensus_price mean_price std_dev reporting_nodes => do
      let _ ← submit_bft_aggregate caller asset_code consensus_price mean_price std_dev reporting_nodes
  | .initialize_hub admin => initialize_hub admin
  | .propose_max_staleness caller max_staleness_secs => do
      let _ ← propose_max_staleness caller max_staleness_secs
  | .apply_max_staleness => do
      let _ ← apply_max_staleness

/-- The storage before the first call. -/
def empty_storage : HubStorage := fun _ => none

/-- The storage after some calls. -/
abbrev run (s : HubStorage) (calls : List (Env × EntryPoint)) : HubStorage := runFrom exec s calls

/-! ## Footprints -/

/-- The families of keys. -/
inductive Tag where
  | Node | AllNodes | AggregateState | SlashRecord | Admin | MaxStaleness | PendingStaleness
  deriving DecidableEq

/-- The family of a key. -/
@[reducible] def OracleHubKey.tag : OracleHubKey → Tag
  | .Node _ => .Node
  | .AllNodes => .AllNodes
  | .AggregateState _ => .AggregateState
  | .SlashRecord _ => .SlashRecord
  | .Admin => .Admin
  | .MaxStaleness => .MaxStaleness
  | .PendingStaleness => .PendingStaleness

instance : Tagged OracleHubKey Tag := ⟨OracleHubKey.tag⟩

instance {ts : List Tag} (key : OracleHubKey) (value : key.Val) [h : Among key.tag ts] :
    Writes ts (set key value) :=
  have : Among (Tagged.tag key) ts := h
  inferInstance

instance {ts : List Tag} (key : OracleHubKey) [h : Among key.tag ts] :
    Writes ts (remove key : Hub Unit) :=
  have : Among (Tagged.tag key) ts := h
  inferInstance

section

variable {ts : List Tag}

instance (address : Address) : Writes ts (require_auth address) := by
  unfold require_auth
  infer_instance

instance (x y : U32) : Writes ts (add_u32 x y) := by
  unfold add_u32
  infer_instance

instance (x y : U64) : Writes ts (add_u64 x y) := by
  unfold add_u64
  infer_instance

instance (caller : Address) : Writes ts (require_admin caller) := by
  unfold require_admin
  infer_instance

instance (node : Option BftOracleNode) (count : U32) : Writes ts (count_node node count) := by
  unfold count_node
  infer_instance

instance (all_nodes : List Address) : Writes ts (count_active all_nodes) := by
  unfold count_active
  infer_instance

instance (counted : U32 × List Address) (addr : Address) :
    Writes ts (count_reporting_node counted addr) := by
  unfold count_reporting_node
  infer_instance

end

/-- The families of keys that a call may write. -/
def writes : EntryPoint → List Tag
  | .register_oracle_node .. => [.Node, .AllNodes]
  | .slash_oracle_node .. => [.Node, .SlashRecord]
  | .submit_bft_aggregate .. => [.AggregateState]
  | .initialize_hub _ => [.Admin]
  | .propose_max_staleness .. => [.PendingStaleness]
  | .apply_max_staleness => [.MaxStaleness, .PendingStaleness]

instance (call : EntryPoint) : Writes (writes call) (exec call) := by
  cases call <;>
    dsimp only [exec, writes, register_oracle_node, slash_oracle_node, submit_bft_aggregate,
      initialize_hub, propose_max_staleness, apply_max_staleness] <;>
    infer_instance

/-- **Frame.** A call changes no record outside its footprint. -/
theorem exec_frame {call : EntryPoint} {env : Env} {s s' : HubStorage}
    (h : exec call env s = .ok ((), s')) {k : OracleHubKey} (hk : k.tag ∉ writes call) :
    s' k = s k :=
  (inferInstance : Writes (writes call) (exec call)).frame h k hk

/-! ## What the calls do -/

section Inversion

variable {env : Env} {s s' : HubStorage}

@[simp] theorem require_auth_eq_ok {address : Address} {u : Unit} :
    require_auth address env s = .ok (u, s') ↔ env.auth address = true ∧ s' = s := by
  simp only [require_auth, bind_eq_ok, reads_eq_ok, panic_if_eq_ok, and_assoc, exists_and_left,
    exists_eq_left, Bool.not_eq_false]

@[simp] theorem add_u32_eq_ok {x y z : U32} :
    add_u32 x y env s = .ok (z, s') ↔ x.toNat + y.toNat < 2 ^ 32 ∧ z = x + y ∧ s' = s := by
  simp only [add_u32, bind_eq_ok, panic_if_eq_ok, pure_eq_ok, not_le, and_assoc, exists_and_left,
    exists_eq_left, exists_const]

theorem register_oracle_node_spec {caller a : Address} {stake : U32}
    (h : register_oracle_node caller a stake env s = .ok ((), s')) :
    env.auth caller = true ∧
      (∃ node, s' (.Node a) = some node ∧ node.is_active = true ∧ node.is_slashed = false) ∧
      (∀ b, b ≠ a → s' (.Node b) = s (.Node b)) ∧
      (s' .AllNodes).getD [] =
        if a ∈ (s .AllNodes).getD [] then (s .AllNodes).getD [] else (s .AllNodes).getD [] ++ [a] := by
  simp only [register_oracle_node, bind_eq_ok, require_auth_eq_ok, reads_eq_ok, load_eq_ok,
    save_eq_ok, exec_if_eq_ok, and_assoc, exists_and_left, exists_eq_left, exists_const] at h
  obtain ⟨hauth, hlist⟩ := h
  rw [Function.update_of_ne (by simp)] at hlist
  rcases hlist with ⟨hnew, rfl⟩ | ⟨hold, rfl⟩
  · refine ⟨hauth, ⟨_, by rw [Function.update_of_ne (by simp), Function.update_self], ?_⟩, ?_, ?_⟩
    · cases s (.Node a) <;> simp
    · intro b hb
      simp [hb]
    · rw [if_neg hnew]
      simp
  · refine ⟨hauth, ⟨_, by rw [Function.update_self], ?_⟩, ?_, ?_⟩
    · cases s (.Node a) <;> simp
    · intro b hb
      simp [hb]
    · rw [if_pos (not_not.mp hold), Function.update_of_ne (by simp)]

theorem slash_oracle_node_spec {caller a : Address} {asset : SString} {deviation reason : U32}
    (h : slash_oracle_node caller a asset deviation reason env s = .ok ((), s')) :
    env.auth caller = true ∧
      (∃ node, s (.Node a) = some node) ∧
      (∃ node, s' (.Node a) = some node ∧ node.is_active = false ∧ node.is_slashed = true) ∧
      ∀ b, b ≠ a → s' (.Node b) = s (.Node b) := by
  simp only [slash_oracle_node, bind_eq_ok, require_auth_eq_ok, reads_eq_ok, load_eq_ok,
    expect_eq_ok, add_u32_eq_ok, save_eq_ok, and_assoc, exists_and_left, exists_eq_left,
    exists_const] at h
  obtain ⟨hauth, node, hnode, -, rfl⟩ := h
  refine ⟨hauth, ⟨node, hnode⟩, ⟨_, by rw [Function.update_of_ne (by simp), Function.update_self],
    rfl, rfl⟩, ?_⟩
  intro b hb
  simp [hb]

end Inversion

/-! ## The registry -/

/-- The addresses of the registered nodes. -/
abbrev all_nodes (s : HubStorage) : List Address := (s .AllNodes).getD []

/-- The list of all nodes has every registered node once. -/
structure Registry (s : HubStorage) : Prop where
  nodup : (all_nodes s).Nodup
  listed : ∀ a node, s (.Node a) = some node → a ∈ all_nodes s

/-- The registered nodes that are active and not slashed. -/
def active_nodes (s : HubStorage) : Finset Address :=
  (all_nodes s).toFinset.filter fun a => counts (s (.Node a)) = true

theorem registry_empty : Registry empty_storage where
  nodup := List.nodup_nil
  listed := fun _ _ h => absurd h.symm (Option.some_ne_none _)

theorem Registry.congr {s s' : HubStorage} (h : Registry s) (hnode : ∀ a, s' (.Node a) = s (.Node a))
    (hall : s' .AllNodes = s .AllNodes) : Registry s' := by
  have hlist : all_nodes s' = all_nodes s := by rw [all_nodes, hall]
  constructor
  · rw [hlist]
    exact h.nodup
  · intro a node ha
    rw [hnode] at ha
    rw [hlist]
    exact h.listed a node ha

theorem Registry.exec {call : EntryPoint} {env : Env} {s s' : HubStorage} (h : Registry s)
    (hexec : exec call env s = .ok ((), s')) : Registry s' := by
  by_cases hnode : Tag.Node ∈ writes call
  · cases call
    case register_oracle_node caller a stake =>
      obtain ⟨-, -, hother, hlist⟩ := register_oracle_node_spec hexec
      have hmem : a ∈ all_nodes s' := by
        rw [all_nodes, hlist]
        by_cases ha : a ∈ all_nodes s
        · rwa [if_pos ha]
        · rw [if_neg ha]
          exact List.mem_append_right _ List.mem_cons_self
      have hsub : all_nodes s ⊆ all_nodes s' := by
        rw [all_nodes, all_nodes, hlist]
        by_cases ha : a ∈ all_nodes s
        · rw [if_pos ha]
          exact List.Subset.refl _
        · rw [if_neg ha]
          exact List.subset_append_left _ _
      constructor
      · rw [all_nodes, hlist]
        by_cases ha : a ∈ all_nodes s
        · rw [if_pos ha]
          exact h.nodup
        · rw [if_neg ha]
          rw [← List.concat_eq_append]
          exact h.nodup.concat ha
      · intro b node hb
        by_cases hba : b = a
        · rwa [hba]
        · rw [hother b hba] at hb
          exact hsub (h.listed b node hb)
    case slash_oracle_node caller a asset deviation reason =>
      obtain ⟨-, ⟨node, hregistered⟩, -, hother⟩ := slash_oracle_node_spec hexec
      have hall : s' .AllNodes = s .AllNodes := exec_frame hexec (by dsimp only [writes]; decide)
      have hlist : all_nodes s' = all_nodes s := by rw [all_nodes, hall]
      constructor
      · rw [hlist]
        exact h.nodup
      · intro b node' hb
        rw [hlist]
        by_cases hba : b = a
        · rw [hba]
          exact h.listed a node hregistered
        · rw [hother b hba] at hb
          exact h.listed b node' hb
    all_goals exact absurd hnode (by dsimp only [writes]; decide)
  · have hall : Tag.AllNodes ∉ writes call := by
      intro hmem
      apply hnode
      cases call
      case register_oracle_node => exact List.mem_cons_self
      all_goals exact absurd hmem (by dsimp only [writes]; decide)
    exact h.congr (fun a => exec_frame hexec hnode) (exec_frame hexec hall)

theorem registry_run (calls : List (Env × EntryPoint)) : Registry (run empty_storage calls) :=
  run_invariant (C := fun _ _ => True) (fun h _ hexec => h.exec hexec) registry_empty
    (Along.of_forall fun _ _ _ => trivial)

variable {s s' : HubStorage}

theorem Registry.mem_active_nodes (h : Registry s) {a : Address} :
    a ∈ active_nodes s ↔ counts (s (.Node a)) = true := by
  rw [active_nodes, Finset.mem_filter, List.mem_toFinset]
  constructor
  · intro ha
    exact ha.2
  · intro ha
    refine ⟨?_, ha⟩
    by_contra hmem
    have hnone : s (.Node a) = none := by
      by_contra hsome
      obtain ⟨node, hnode⟩ := Option.ne_none_iff_exists'.mp hsome
      exact hmem (h.listed a node hnode)
    rw [hnone] at ha
    cases ha

/-! ## The counts of a submission -/

section Counts

variable {env : Env}

theorem count_node_eq_ok {node : Option BftOracleNode} {c c' : U32}
    (h : count_node node c env s = .ok (c', s')) :
    c'.toNat = c.toNat + (if counts node = true then 1 else 0) ∧ s' = s := by
  unfold count_node at h
  by_cases hcounts : counts node = true
  · rw [if_pos hcounts, add_u32_eq_ok] at h
    obtain ⟨hroom, rfl, rfl⟩ := h
    rw [if_pos hcounts]
    refine ⟨?_, rfl⟩
    rw [UInt32.toNat_add, Nat.mod_eq_of_lt hroom]
    rfl
  · rw [if_neg hcounts, pure_eq_ok] at h
    rw [if_neg hcounts, h.1]
    exact ⟨rfl, h.2⟩

theorem count_active_eq_ok {nodes : List Address} {total : U32}
    (h : count_active nodes env s = .ok (total, s')) :
    total.toNat = nodes.countP (fun a => counts (s (.Node a))) ∧ s' = s := by
  have hfold : ∀ (nodes : List Address) (c : U32),
      (nodes.foldlM (fun c a => do
        let node ← get (.Node a)
        count_node node c) c : Hub U32) env s = .ok (total, s') →
      total.toNat = c.toNat + nodes.countP (fun a => counts (s (.Node a))) ∧ s' = s := by
    intro nodes
    induction nodes with
    | nil =>
        intro c h
        rw [List.foldlM_nil, pure_eq_ok] at h
        rw [h.1]
        exact ⟨rfl, h.2⟩
    | cons _ _ ih =>
        intro c h
        simp only [List.foldlM_cons, bind_eq_ok, load_eq_ok, and_assoc, exists_and_left,
          exists_eq_left] at h
        obtain ⟨c', _, hcount, hrest⟩ := h
        obtain ⟨hc', rfl⟩ := count_node_eq_ok hcount
        obtain ⟨htotal, rfl⟩ := ih c' hrest
        refine ⟨?_, rfl⟩
        rw [htotal, hc', List.countP_cons]
        omega
  obtain ⟨htotal, heq⟩ := hfold nodes 0 h
  exact ⟨by simpa using htotal, heq⟩

/-- The second loop counts each of the listed nodes once. -/
theorem count_reporting_eq_ok {nodes : List Address} {counted : U32 × List Address}
    (h : nodes.foldlM count_reporting_node (0, []) env s = .ok (counted, s')) :
    counted.1.toNat = (nodes.toFinset.filter fun a => counts (s (.Node a)) = true).card ∧ s' = s := by
  have hfold : ∀ (nodes : List Address) (c : U32 × List Address),
      c.1.toNat = (c.2.toFinset.filter fun a => counts (s (.Node a)) = true).card →
      nodes.foldlM count_reporting_node c env s = .ok (counted, s') →
      counted.1.toNat =
        ((c.2 ++ nodes).toFinset.filter fun a => counts (s (.Node a)) = true).card ∧ s' = s := by
    intro nodes
    induction nodes with
    | nil =>
        intro c hc h
        rw [List.foldlM_nil, pure_eq_ok] at h
        rw [h.1, List.append_nil]
        exact ⟨hc, h.2⟩
    | cons a nodes ih =>
        intro c hc h
        rw [List.foldlM_cons, bind_eq_ok] at h
        obtain ⟨c', s₁, hturn, hrest⟩ := h
        unfold count_reporting_node at hturn
        by_cases hseen : a ∈ c.2
        · rw [if_pos hseen, pure_eq_ok] at hturn
          obtain ⟨rfl, rfl⟩ := hturn
          have hsame : (c'.2 ++ a :: nodes).toFinset = (c'.2 ++ nodes).toFinset := by
            ext b
            simp only [List.mem_toFinset, List.mem_append, List.mem_cons]
            grind
          rw [hsame]
          exact ih c' hc hrest
        · simp only [if_neg hseen, bind_eq_ok, load_eq_ok, pure_eq_ok, and_assoc, exists_and_left,
            exists_eq_left] at hturn
          obtain ⟨valid_count, _, hcount, rfl, rfl⟩ := hturn
          obtain ⟨hvalid, rfl⟩ := count_node_eq_ok hcount
          rw [List.append_cons]
          refine ih _ ?_ hrest
          dsimp only
          rw [hvalid, hc, List.toFinset_append, Finset.filter_union, Finset.card_union_of_disjoint]
          · by_cases hcounts : counts (s₁ (.Node a)) = true
            · simp [hcounts, Finset.filter_singleton]
            · simp [hcounts, Finset.filter_singleton]
          · apply Finset.disjoint_filter_filter
            simpa using hseen
  obtain ⟨hcard, heq⟩ := hfold nodes (0, []) (by simp) h
  exact ⟨by simpa using hcard, heq⟩

/-- `2 * f + 1`, for `f` the nodes that may fail of `n`; nothing when there is no node. -/
def quorum (n : ℕ) : ℕ := if n = 0 then 0 else 2 * ((n - 1) / 3) + 1

theorem toNat_calculate_required_quorum (n : U32) :
    (calculate_required_quorum n).toNat = quorum n.toNat := by
  unfold calculate_required_quorum quorum
  by_cases hn : n = 0
  · subst hn
    rfl
  · have hpos : n.toNat ≠ 0 := by
      intro hzero
      exact hn (UInt32.toNat.inj hzero)
    have hlt : n.toNat < 2 ^ 32 := n.toNat_lt
    have hone : 1 ≤ n := by
      rw [UInt32.le_iff_toNat_le, UInt32.toNat_one]
      omega
    rw [if_neg hn, if_neg hpos, saturating_sub_u32, if_neg (UInt32.not_lt.mpr hone)]
    have hsub : (n - 1).toNat = n.toNat - 1 := by
      rw [UInt32.toNat_sub_of_le _ _ hone, UInt32.toNat_one]
    rw [UInt32.toNat_add, UInt32.toNat_mul, UInt32.toNat_div, hsub]
    simp only [UInt32.reduceToNat]
    omega

/-- A submission counts the active nodes, and those among them that it lists. -/
theorem submit_bft_aggregate_spec (hs : Registry s) {caller : Address} {asset : SString}
    {price mean : I128} {dev : U64} {nodes : List Address} {state : BftAggregateState}
    (h : submit_bft_aggregate caller asset price mean dev nodes env s = .ok (state, s')) :
    env.auth caller = true ∧
      state.required_quorum.toNat = quorum (active_nodes s).card ∧
      state.valid_count.toNat = (active_nodes s ∩ nodes.toFinset).card ∧
      state =
        { asset_code := asset, consensus_price := price, mean_price := mean, std_dev := dev,
          reporting_count := len nodes, valid_count := state.valid_count,
          required_quorum := state.required_quorum,
          is_valid_quorum := decide
            (state.required_quorum ≤ state.valid_count ∧ 0 < state.required_quorum),
          timestamp := env.timestamp } ∧
      s' =
        if state.is_valid_quorum = true then Function.update s (.AggregateState asset) (some state)
        else s := by
  simp only [submit_bft_aggregate, bind_eq_ok, require_auth_eq_ok, load_eq_ok, reads_eq_ok,
    pure_eq_ok, and_assoc, exists_and_left, exists_eq_left] at h
  obtain ⟨hauth, _, total, s₁, htotal, counted, s₂, hcounted, _, s₃, hsave, rfl, rfl⟩ := h
  obtain ⟨htotal, rfl⟩ := count_active_eq_ok htotal
  obtain ⟨hvalid, rfl⟩ := count_reporting_eq_ok hcounted
  have hcard : (active_nodes s₂).card = total.toNat := by
    rw [htotal, active_nodes, ← List.toFinset_filter, List.toFinset_card_of_nodup (hs.nodup.filter _),
      List.countP_eq_length_filter]
  have hlisted : (nodes.toFinset.filter fun a => counts (s₂ (.Node a)) = true) =
      active_nodes s₂ ∩ nodes.toFinset := by
    ext a
    rw [Finset.mem_filter, Finset.mem_inter, hs.mem_active_nodes]
    exact and_comm
  refine ⟨hauth, ?_, ?_, rfl, ?_⟩
  · rw [toNat_calculate_required_quorum, hcard]
  · rw [← hlisted]
    exact hvalid
  · rw [exec_if_eq_ok] at hsave
    rcases hsave with ⟨hquorum, hsave⟩ | ⟨hquorum, rfl⟩
    · rw [if_pos hquorum]
      exact save_eq_ok.mp hsave
    · rw [if_neg hquorum]

/-- What makes a submission valid. -/
theorem submit_bft_aggregate_valid (hs : Registry s) {caller : Address} {asset : SString}
    {price mean : I128} {dev : U64} {nodes : List Address} {state : BftAggregateState}
    (h : submit_bft_aggregate caller asset price mean dev nodes env s = .ok (state, s')) :
    state.is_valid_quorum = true ↔
      (active_nodes s).Nonempty ∧
        quorum (active_nodes s).card ≤ (active_nodes s ∩ nodes.toFinset).card := by
  obtain ⟨-, hrequired, hvalid, hstate, -⟩ := submit_bft_aggregate_spec hs h
  have hpos : 0 < quorum (active_nodes s).card ↔ (active_nodes s).Nonempty := by
    rw [← Finset.card_pos, quorum]
    by_cases hzero : (active_nodes s).card = 0
    · simp [hzero]
    · rw [if_neg hzero]
      omega
  rw [hstate, decide_eq_true_iff, UInt32.le_iff_toNat_le, UInt32.lt_iff_toNat_lt, hrequired, hvalid,
    UInt32.toNat_zero, hpos, and_comm]

end Counts

end BridgeWatch.OracleHub

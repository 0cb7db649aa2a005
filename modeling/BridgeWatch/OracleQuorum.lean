/-
What a quorum of the oracle hub stands for.

Two quorums among the same active nodes share as many nodes as their sizes force them to: more than
the `f` that may fail when the number of nodes is one more than a multiple of three, and no such
number otherwise.

Who backs a stored aggregate is another matter. A submission names its reporting nodes, and only the
caller has authorised it; anybody may register a node, a slashed one as well. So the nodes stand
behind every aggregate of a run when the submissions that reach a quorum come from an active node
that is a quorum of its own, and a slashed node stays out when only the admin brings one back.
-/
import BridgeWatch.OracleHub
import BridgeWatch.Quorum

set_option autoImplicit false

namespace BridgeWatch.OracleHub

open Transaction
open Contract (U32 U64 I128 SString Address Env str)

/-! ## Quorums that meet -/

/-- How many of `n` nodes may fail. -/
abbrev faulty (n : ℕ) : ℕ := (n - 1) / 3

theorem quorum_le {n : ℕ} : quorum n ≤ n := by
  unfold quorum
  split <;> omega

theorem faulty_add_lt_iff {n : ℕ} (hn : 1 ≤ n) : faulty n + n < 2 * quorum n ↔ n % 3 = 1 := by
  unfold quorum faulty
  rw [if_neg (by omega)]
  omega

/-- What two quorums share, for every set of nodes and in every reachable state. -/
structure QuorumsMeet (calls later : List (Env × EntryPoint)) : Prop where
  /-- Two quorums share at least what their sizes force them to. -/
  shared : ∀ (n : U32) (N A B : Finset Address), N.card = n.toNat → A ⊆ N → B ⊆ N →
    (calculate_required_quorum n).toNat ≤ A.card → (calculate_required_quorum n).toNat ≤ B.card →
      2 * (calculate_required_quorum n).toNat - n.toNat ≤ (A ∩ B).card
  /-- Some two quorums share no more. -/
  attained : ∀ (n : U32) (N : Finset Address), N.card = n.toNat →
    ∃ A B : Finset Address, A ⊆ N ∧ B ⊆ N ∧ A.card = (calculate_required_quorum n).toNat ∧
      B.card = (calculate_required_quorum n).toNat ∧
        (A ∩ B).card = 2 * (calculate_required_quorum n).toNat - n.toNat
  /-- Any two quorums share more than the nodes that may fail. -/
  honest_iff : ∀ (n : U32) (N : Finset Address), 1 ≤ n → N.card = n.toNat →
    ((∀ A B : Finset Address, A ⊆ N → B ⊆ N → (calculate_required_quorum n).toNat ≤ A.card →
      (calculate_required_quorum n).toNat ≤ B.card → faulty n.toNat < (A ∩ B).card) ↔
        n.toNat % 3 = 1)
  /-- The nodes behind two valid submissions, while the active nodes are the same. -/
  submissions : ∀ (env₁ env₂ : Env) (caller₁ caller₂ : Address) (asset : SString)
    (price₁ price₂ mean₁ mean₂ : I128) (dev₁ dev₂ : U64) (nodes₁ nodes₂ : List Address)
    (state₁ state₂ : BftAggregateState) (s₁ s₂ : HubStorage),
    active_nodes (run empty_storage (calls ++ later)) = active_nodes (run empty_storage calls) →
    submit_bft_aggregate caller₁ asset price₁ mean₁ dev₁ nodes₁ env₁ (run empty_storage calls) =
      .ok (state₁, s₁) →
    submit_bft_aggregate caller₂ asset price₂ mean₂ dev₂ nodes₂ env₂
      (run empty_storage (calls ++ later)) = .ok (state₂, s₂) →
    price₁ ≠ price₂ → state₁.is_valid_quorum = true → state₂.is_valid_quorum = true →
      let N := active_nodes (run empty_storage calls)
      2 * quorum N.card - N.card ≤ (N ∩ nodes₁.toFinset ∩ nodes₂.toFinset).card ∧
        (N.card % 3 = 1 → faulty N.card < (N ∩ nodes₁.toFinset ∩ nodes₂.toFinset).card)

/-- **Intersection of quorums.** -/
theorem quorumsMeet_run (calls later : List (Env × EntryPoint)) : QuorumsMeet calls later where
  shared := by
    intro n N A B hN hA hB hcardA hcardB
    rw [← hN]
    exact Quorum.le_card_inter hA hB hcardA hcardB
  attained := by
    intro n N hN
    rw [← hN]
    apply Quorum.exists_card_inter_eq
    rw [toNat_calculate_required_quorum, hN]
    exact quorum_le
  honest_iff := by
    intro n N hn hN
    have hpos : 1 ≤ n.toNat := by
      rwa [UInt32.le_iff_toNat_le, UInt32.toNat_one] at hn
    rw [toNat_calculate_required_quorum, ← faulty_add_lt_iff hpos, ← hN]
    exact Quorum.forall_lt_card_inter_iff quorum_le
  submissions := by
    intro env₁ env₂ caller₁ caller₂ asset price₁ price₂ mean₁ mean₂ dev₁ dev₂ nodes₁ nodes₂ state₁ state₂
      s₁ s₂ hsame hfirst hsecond _ hvalid₁ hvalid₂ N
    obtain ⟨hsome, hquorum₁⟩ := (submit_bft_aggregate_valid (registry_run calls) hfirst).mp hvalid₁
    obtain ⟨-, hquorum₂⟩ :=
      (submit_bft_aggregate_valid (registry_run (calls ++ later)) hsecond).mp hvalid₂
    rw [hsame] at hquorum₂
    have hinter : N ∩ nodes₁.toFinset ∩ nodes₂.toFinset =
        N ∩ nodes₁.toFinset ∩ (N ∩ nodes₂.toFinset) := by
      ext a
      simp only [Finset.mem_inter]
      tauto
    rw [hinter]
    refine ⟨Quorum.le_card_inter Finset.inter_subset_left Finset.inter_subset_left hquorum₁ hquorum₂, ?_⟩
    intro hone
    exact (Quorum.forall_lt_card_inter_iff quorum_le).mpr
      ((faulty_add_lt_iff hsome.card_pos).mpr hone) _ _ Finset.inter_subset_left
      Finset.inter_subset_left hquorum₁ hquorum₂

/-! ## A quorum that is split -/

/-- An address for a concrete run. -/
def hub_address (n : UInt8) : Address := .account (Vector.replicate 32 n)

/-- One address has authorised the call. -/
def signed_by (n : UInt8) (timestamp : U64) : Env :=
  { timestamp, auth := fun a => a == hub_address n }

/-- Two nodes are registered. -/
def two_nodes : List (Env × EntryPoint) :=
  [(signed_by 0 1, .initialize_hub (hub_address 0)),
    (signed_by 0 1, .register_oracle_node (hub_address 0) (hub_address 1) 10),
    (signed_by 0 1, .register_oracle_node (hub_address 0) (hub_address 2) 10)]

/-- What a submission returns. -/
def aggregate (price : I128) (node : UInt8) (calls : List (Env × EntryPoint)) :
    Option BftAggregateState :=
  (submit_bft_aggregate (hub_address 0) (str "USDC") price price 0 [hub_address node] (signed_by 0 2)
    (run empty_storage calls)).toOption.map Prod.fst

/-- **Two prices with a quorum each**, and no node behind both. -/
theorem split_quorum :
    (aggregate 1 1 two_nodes).map BftAggregateState.is_valid_quorum = some true ∧
      (aggregate 2 2 two_nodes).map BftAggregateState.is_valid_quorum = some true ∧
      (active_nodes (run empty_storage two_nodes)).card = 2 ∧ faulty 2 = 0 ∧
      ({hub_address 1} ∩ {hub_address 2} : Finset Address).card = 0 := by
  decide +kernel

/-! ## Who stands behind an aggregate -/

/-- The call returns only if the address has authorised it. -/
def Asks (call : EntryPoint) (env : Env) (s : HubStorage) (a : Address) : Prop :=
  ∀ auth : Address → Bool, (exec call { env with auth } s).isOk = true → auth a = true

/-- Every stored aggregate comes from a submission, of its asset and price, that a quorum of active
nodes had to authorise. -/
def Endorsed (calls : List (Env × EntryPoint)) : Prop :=
  ∀ asset state, run empty_storage calls (.AggregateState asset) = some state →
    ∃ before env caller nodes after s', ∃ A ⊆ active_nodes (run empty_storage before),
      calls = before ++ (env, .submit_bft_aggregate caller asset state.consensus_price
        state.mean_price state.std_dev nodes) :: after ∧
      submit_bft_aggregate caller asset state.consensus_price state.mean_price state.std_dev nodes env
        (run empty_storage before) = .ok (state, s') ∧
      state.required_quorum.toNat ≤ A.card ∧
      ∀ a ∈ A, Asks (.submit_bft_aggregate caller asset state.consensus_price state.mean_price
        state.std_dev nodes) env (run empty_storage before) a

/-- The call slashes the node. -/
def slashes (a : Address) : EntryPoint → Prop
  | .slash_oracle_node _ node_address _ _ _ => node_address = a
  | _ => False

/-- The admin registers the node. -/
def Reinstates (a : Address) (s : HubStorage) (t : Env × EntryPoint) : Prop :=
  ∃ caller stake_weight, t.2 = .register_oracle_node caller a stake_weight ∧
    s .Admin = some caller ∧ t.1.auth caller = true

/-- A slashed node does not count until the admin has registered it again. -/
def SlashedOut (calls : List (Env × EntryPoint)) : Prop :=
  ∀ a, Since exec (slashes a) (fun s t => ¬Reinstates a s t) empty_storage calls →
    a ∉ active_nodes (run empty_storage calls)

/-- A submission that reaches a quorum comes from one of at most three active nodes, and a slashed
node is registered by the admin. -/
def Guarded (s : HubStorage) (t : Env × EntryPoint) : Prop :=
  match t.2 with
  | .submit_bft_aggregate caller _ _ _ _ reporting_nodes =>
      t.1.auth caller = true → (active_nodes s).Nonempty →
        quorum (active_nodes s).card ≤ (active_nodes s ∩ reporting_nodes.toFinset).card →
          caller ∈ active_nodes s ∧ (active_nodes s).card ≤ 3
  | .register_oracle_node caller node_address _ =>
      t.1.auth caller = true →
        (∃ node, s (.Node node_address) = some node ∧ node.is_slashed = true) →
          s .Admin = some caller
  | _ => True

section Authority

variable {env : Env} {s s' : HubStorage}

instance : Blind (fun env env' : Env => env.timestamp = env'.timestamp) (reads Env.timestamp : Hub U64) :=
  ⟨fun _ h => by simp only [reads, h]⟩

instance {R : Env → Env → Prop} (key : OracleHubKey) (value : key.Val) : Blind R (set key value) :=
  ⟨fun _ _ => rfl⟩

instance {R : Env → Env → Prop} (x y : U32) : Blind R (add_u32 x y) := by
  unfold add_u32
  infer_instance

instance {R : Env → Env → Prop} (node : Option BftOracleNode) (count : U32) :
    Blind R (count_node node count) := by
  unfold count_node
  infer_instance

instance {R : Env → Env → Prop} (all_nodes : List Address) : Blind R (count_active all_nodes) := by
  unfold count_active
  infer_instance

instance {R : Env → Env → Prop} (counted : U32 × List Address) (addr : Address) :
    Blind R (count_reporting_node counted addr) := by
  unfold count_reporting_node
  infer_instance

theorem require_auth_bind {α : Type} {a : Address} (h : env.auth a = true) (f : Unit → Hub α) :
    (require_auth a >>= f) env s = f () env s := by
  have hbind : (require_auth a >>= f) env s = (require_auth a env s >>= fun p => f p.1 env p.2) := rfl
  rw [hbind, require_auth_eq_ok.mpr ⟨h, rfl⟩]
  rfl

/-- The caller's authorisation is the only one that a submission reads. -/
theorem submit_bft_aggregate_congr {caller : Address} {asset : SString} {price mean : I128} {dev : U64}
    {nodes : List Address} {auth : Address → Bool} (h : env.auth caller = true)
    (hauth : auth caller = true) :
    submit_bft_aggregate caller asset price mean dev nodes { env with auth } s =
      submit_bft_aggregate caller asset price mean dev nodes env s := by
  unfold submit_bft_aggregate
  rw [require_auth_bind h, require_auth_bind hauth]
  dsimp only
  exact Blind.eq (R := fun env env' : Env => env.timestamp = env'.timestamp) s rfl

theorem auth_of_submit {caller : Address} {asset : SString} {price mean : I128} {dev : U64}
    {nodes : List Address}
    (h : (exec (.submit_bft_aggregate caller asset price mean dev nodes) env s).isOk = true) :
    env.auth caller = true := by
  by_contra hauth
  rw [Bool.not_eq_true] at hauth
  have herror : exec (.submit_bft_aggregate caller asset price mean dev nodes) env s =
      .error "Error(Auth, InvalidAction)" := by
    simp only [exec, submit_bft_aggregate, require_auth, bind_eq_error, panic_if]
    simp [hauth, reads]
  rw [herror] at h
  cases h

/-- **Who a submission asks.** Of all addresses, the caller. -/
theorem asks_submit_bft_aggregate {caller a : Address} {asset : SString} {price mean : I128} {dev : U64}
    {nodes : List Address}
    (h : (exec (.submit_bft_aggregate caller asset price mean dev nodes) env s).isOk = true) :
    Asks (.submit_bft_aggregate caller asset price mean dev nodes) env s a ↔ a = caller := by
  constructor
  · intro hasks
    have hsame : exec (.submit_bft_aggregate caller asset price mean dev nodes)
        { env with auth := fun b => decide (b = caller) } s =
          exec (.submit_bft_aggregate caller asset price mean dev nodes) env s := by
      have hbind (env : Env) : exec (.submit_bft_aggregate caller asset price mean dev nodes) env s =
          (submit_bft_aggregate caller asset price mean dev nodes env s >>= fun p => .ok ((), p.2)) := rfl
      rw [hbind, hbind, submit_bft_aggregate_congr (auth_of_submit h) (by simp)]
    have hcaller := hasks (fun b => decide (b = caller)) (by rwa [hsame])
    simpa using hcaller
  · rintro rfl auth hok
    exact auth_of_submit hok

/-- **When a valid submission has a quorum of nodes behind it**: it comes from one of at most three. -/
theorem endorsed_iff (hs : Registry s) {caller : Address} {asset : SString} {price mean : I128}
    {dev : U64} {nodes : List Address} {state : BftAggregateState}
    (h : submit_bft_aggregate caller asset price mean dev nodes env s = .ok (state, s'))
    (hvalid : state.is_valid_quorum = true) :
    (∃ A ⊆ active_nodes s, state.required_quorum.toNat ≤ A.card ∧
      ∀ a ∈ A, Asks (.submit_bft_aggregate caller asset price mean dev nodes) env s a) ↔
        caller ∈ active_nodes s ∧ (active_nodes s).card ≤ 3 := by
  obtain ⟨-, hrequired, -⟩ := submit_bft_aggregate_spec hs h
  obtain ⟨hsome, -⟩ := (submit_bft_aggregate_valid hs h).mp hvalid
  have hcard : 1 ≤ (active_nodes s).card := hsome.card_pos
  have hexec : exec (.submit_bft_aggregate caller asset price mean dev nodes) env s = .ok ((), s') :=
    bind_eq_ok.mpr ⟨state, s', h, rfl⟩
  have hok : (exec (.submit_bft_aggregate caller asset price mean dev nodes) env s).isOk = true := by
    rw [hexec]
    rfl
  rw [hrequired, quorum, if_neg (by omega)]
  constructor
  · rintro ⟨A, hA, hquorum, hasks⟩
    have hsub : A ⊆ {caller} := by
      intro a ha
      exact Finset.mem_singleton.mpr ((asks_submit_bft_aggregate hok).mp (hasks a ha))
    have hle : A.card ≤ 1 := Finset.card_le_card hsub
    obtain ⟨a, ha⟩ : A.Nonempty := Finset.card_pos.mp (by omega)
    obtain rfl := Finset.mem_singleton.mp (hsub ha)
    exact ⟨hA ha, by omega⟩
  · rintro ⟨hcaller, hthree⟩
    refine ⟨{caller}, Finset.singleton_subset_iff.mpr hcaller, ?_, ?_⟩
    · rw [Finset.card_singleton]
      omega
    · intro a ha
      exact (asks_submit_bft_aggregate hok).mpr (Finset.mem_singleton.mp ha)

end Authority

/-! ## Runs -/

theorem endorsed_run {calls : List (Env × EntryPoint)} (h : Along exec Guarded empty_storage calls) :
    Endorsed calls := by
  intro asset state hstored
  obtain ⟨before, ⟨env, call⟩, after, s', rfl, hexec, hold, hnew⟩ :=
    exists_origin hstored (Option.some_ne_none _).symm
  have hs := registry_run before
  have hguard := ((Along.append.mp h).2).1
  have hmem : Tag.AggregateState ∈ writes call := by
    by_contra hmem
    rw [exec_frame hexec (k := .AggregateState asset) hmem] at hnew
    exact hold hnew
  cases call
  case submit_bft_aggregate caller code price mean dev nodes =>
    obtain ⟨returned, s₁, hsubmit, hpure⟩ := bind_eq_ok.mp hexec
    obtain ⟨-, rfl⟩ := pure_eq_ok.mp hpure
    obtain ⟨hauth, -, -, hstate, hsave⟩ := submit_bft_aggregate_spec hs hsubmit
    have hvalid : returned.is_valid_quorum = true := by
      by_contra hvalid
      rw [hsave, if_neg hvalid] at hnew
      exact hold hnew
    rw [hsave, if_pos hvalid] at hnew
    have hcode : code = asset := by
      by_contra hne
      rw [Function.update_of_ne (by simpa using Ne.symm hne)] at hnew
      exact hold hnew
    subst hcode
    rw [Function.update_self, Option.some.injEq] at hnew
    subst hnew
    obtain ⟨hsome, hquorum⟩ := (submit_bft_aggregate_valid hs hsubmit).mp hvalid
    obtain ⟨A, hA, hcard, hasks⟩ :=
      (endorsed_iff hs hsubmit hvalid).mpr (hguard hauth hsome hquorum)
    have hprice : returned.consensus_price = price := by rw [hstate]
    have hmean : returned.mean_price = mean := by rw [hstate]
    have hdev : returned.std_dev = dev := by rw [hstate]
    refine ⟨before, env, caller, nodes, after, s', A, hA, ?_⟩
    rw [hprice, hmean, hdev]
    exact ⟨rfl, hsubmit, hcard, hasks⟩
  all_goals exact absurd hmem (by dsimp only [writes]; decide)

/-- What a slashed node stays, as long as the admin does not register it again. -/
theorem slashed_step {a : Address} {s s' : HubStorage} {t : Env × EntryPoint}
    (hslashed : ∃ node, s (.Node a) = some node ∧ node.is_slashed = true)
    (hguard : Guarded s t) (hnot : ¬Reinstates a s t) (hexec : exec t.2 t.1 s = .ok ((), s')) :
    ∃ node, s' (.Node a) = some node ∧ node.is_slashed = true := by
  obtain ⟨env, call⟩ := t
  by_cases hnode : Tag.Node ∈ writes call
  · cases call
    case register_oracle_node caller b stake =>
      obtain ⟨hauth, -, hother, -⟩ := register_oracle_node_spec hexec
      by_cases hab : a = b
      · subst hab
        exact absurd ⟨caller, stake, rfl, hguard hauth hslashed, hauth⟩ hnot
      · rwa [hother a hab]
    case slash_oracle_node caller b asset deviation reason =>
      obtain ⟨-, -, ⟨node, hb, -, hslash⟩, hother⟩ := slash_oracle_node_spec hexec
      by_cases hab : a = b
      · subst hab
        exact ⟨node, hb, hslash⟩
      · rwa [hother a hab]
    all_goals exact absurd hnode (by dsimp only [writes]; decide)
  · have hframe : s' (.Node a) = s (.Node a) := exec_frame hexec hnode
    rwa [hframe]

theorem slashedOut_run {calls : List (Env × EntryPoint)} (h : Along exec Guarded empty_storage calls) :
    SlashedOut calls := by
  rintro a ⟨before, t, after, rfl, hkind, hok, hafter⟩ hactive
  have hguard := (Along.append.mp h).2.2
  have hslashed : ∃ node, run empty_storage (before ++ t :: after) (.Node a) = some node ∧
      node.is_slashed = true := by
    refine run_since (T := slashes a) (J := fun _ => True)
      (I := fun s => ∃ node, s (.Node a) = some node ∧ node.is_slashed = true)
      (C := fun s t => ¬Reinstates a s t ∧ Guarded s t) (fun _ _ _ => trivial) ?_ ?_
      ⟨before, t, after, rfl, hkind, hok, hafter.and hguard⟩
    · intro s env op s' _ hop hexec
      cases op
      case slash_oracle_node caller b asset deviation reason =>
        obtain rfl : b = a := hop
        obtain ⟨-, -, ⟨node, hb, -, hslash⟩, -⟩ := slash_oracle_node_spec hexec
        exact ⟨node, hb, hslash⟩
      all_goals exact hop.elim
    · intro s t s' hs hC hexec
      exact slashed_step hs hC.2 hC.1 hexec
  obtain ⟨node, hnode, hslash⟩ := hslashed
  have hcounts := (registry_run _).mem_active_nodes.mp hactive
  rw [hnode, counts, Option.any_some, hslash, Bool.not_true, Bool.and_false] at hcounts
  cases hcounts

/-- **Aggregates and nodes**, in a run whose calls are guarded. -/
theorem guarded_run {calls : List (Env × EntryPoint)} (h : Along exec Guarded empty_storage calls) :
    Endorsed calls ∧ SlashedOut calls :=
  ⟨endorsed_run h, slashedOut_run h⟩

/-! ## Concrete runs -/

/-- A node submits its own report. -/
def own_report : List (Env × EntryPoint) :=
  [(signed_by 0 1, .initialize_hub (hub_address 0)),
    (signed_by 0 1, .register_oracle_node (hub_address 0) (hub_address 1) 10),
    (signed_by 1 2, .submit_bft_aggregate (hub_address 1) (str "USDC") 5 5 0 [hub_address 1])]

theorem guarded_run_own_report : Endorsed own_report ∧ SlashedOut own_report := by
  apply guarded_run
  refine ⟨trivial, ?_, ?_, trivial⟩
  · rintro - ⟨node, hnode, -⟩
    exact absurd hnode.symm (Option.some_ne_none node)
  · intro _ _ _
    decide +kernel

/-- A node is registered, and an address that is none submits a price in its name. -/
def forged_report : List (Env × EntryPoint) :=
  [(signed_by 0 1, .initialize_hub (hub_address 0)),
    (signed_by 0 1, .register_oracle_node (hub_address 0) (hub_address 1) 10),
    (signed_by 9 2, .submit_bft_aggregate (hub_address 9) (str "USDC") 1 1 0 [hub_address 1])]

/-- The admin slashes a node, and the node registers itself again. -/
def revived_node : List (Env × EntryPoint) :=
  [(signed_by 0 1, .initialize_hub (hub_address 0)),
    (signed_by 0 1, .register_oracle_node (hub_address 0) (hub_address 1) 10),
    (signed_by 0 2, .slash_oracle_node (hub_address 0) (hub_address 1) (str "USDC") 550 1),
    (signed_by 1 3, .register_oracle_node (hub_address 1) (hub_address 1) 10)]

/-- **A stored price that no node has authorised**, and a slashed node that counts again without the
admin. -/
theorem forged_report_and_revived_node : ¬Endorsed forged_report ∧ ¬SlashedOut revived_node := by
  constructor
  · intro h
    have hstored : ((run empty_storage forged_report) (.AggregateState (str "USDC"))).map
        BftAggregateState.is_valid_quorum = some true := by decide +kernel
    obtain ⟨state, hstate, hvalid⟩ := Option.map_eq_some_iff.mp hstored
    obtain ⟨before, env, caller, nodes, after, s', A, hA, heq, hsubmit, hcard, hasks⟩ := h _ _ hstate
    obtain ⟨hcaller, -⟩ :=
      (endorsed_iff (registry_run before) hsubmit hvalid).mp ⟨A, hA, hcard, hasks⟩
    have hmem : (env, EntryPoint.submit_bft_aggregate caller (str "USDC") state.consensus_price
        state.mean_price state.std_dev nodes) ∈ forged_report := by
      rw [heq]
      exact List.mem_append_right _ List.mem_cons_self
    have hforger : caller = hub_address 9 := by
      simp only [forged_report, List.mem_cons, List.not_mem_nil, Prod.mk.injEq,
        EntryPoint.submit_bft_aggregate.injEq, reduceCtorEq, and_false, false_or, or_false] at hmem
      exact hmem.2.1
    have hprefix : before = forged_report.take before.length := by rw [heq, List.take_left]
    have hlength : before.length < 3 := by
      have htotal : forged_report.length = 3 := rfl
      rw [heq, List.length_append, List.length_cons] at htotal
      omega
    have hnone : ∀ n < 3, hub_address 9 ∉ active_nodes (run empty_storage (forged_report.take n)) := by
      decide +kernel
    rw [hforger, hprefix] at hcaller
    exact hnone _ hlength hcaller
  · intro h
    refine h (hub_address 1) ⟨revived_node.take 2, _, revived_node.drop 3, rfl, rfl, by decide +kernel,
      ?_, trivial⟩ (by decide +kernel)
    rintro ⟨caller, stake_weight, hcall, hadmin, -⟩
    have hcaller : hub_address 1 = caller := by
      injection hcall
    have hstored : run empty_storage (revived_node.take 3) .Admin = some (hub_address 0) := by
      decide +kernel
    rw [← hcaller] at hadmin
    exact absurd (hstored.symm.trans hadmin) (by decide)

end BridgeWatch.OracleHub

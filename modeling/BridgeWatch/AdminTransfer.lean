/-
Hand-over of the admin: who can become the admin, and what no call takes back.

The admin is replaced by `accept_admin_transfer`, which looks for the pending proposal
that `propose_admin_transfer` has left, and by `initialize`, which asks nothing but the
authorisation of the address it makes the admin. The second call of `initialize` is what
breaks the hand-over, and it empties the lists as well; in every other call the admin and
these records are safe.
-/
import BridgeWatch.CheckpointStore

set_option autoImplicit false

namespace BridgeWatch.Contract

open Transaction

/-! ## The calls that write the records -/

section Writers

variable {call : EntryPoint}

theorem mem_writes_admin (h : Tag.ADMIN ∈ writes call) :
    (∃ admin, call = .initialize_contract admin) ∨ ∃ caller, call = .accept_admin_transfer caller := by
  cases call <;> first
    | exact .inl ⟨_, rfl⟩
    | exact .inr ⟨_, rfl⟩
    | exact absurd h (by dsimp only [writes]; decide)

theorem mem_writes_version (h : Tag.CONTRACT_VERSION ∈ writes call ∨ Tag.UPGRADE_HISTORY ∈ writes call) :
    (∃ admin, call = .initialize_contract admin) ∨
      ∃ caller proposal_id, call = .execute_upgrade caller proposal_id := by
  cases call <;> first
    | exact .inl ⟨_, rfl⟩
    | exact .inr ⟨_, _, rfl⟩
    | exact absurd h (by dsimp only [writes]; decide)

end Writers

/-! ## The three steps of a hand-over -/

section Steps

variable {env : Env} {s s' : Storage} {caller proposed_admin : Address} {u : Unit}

theorem assert_only_admin_spec {msg : String} (h : assert_only_admin msg caller env s = .ok (u, s')) :
    env.auth caller = true ∧ s .ADMIN = some caller ∧ s' = s := by
  simp only [assert_only_admin, bind_eq_ok, reads_eq_ok, load_eq_ok, expect_eq_ok, panic_if_eq_ok,
    and_assoc, exists_and_left, exists_eq_left, exists_const] at h
  obtain ⟨hauth, admin, hadmin, hcaller, rfl⟩ := h
  rw [not_not] at hcaller
  exact ⟨by simpa using hauth, hcaller ▸ hadmin, rfl⟩

theorem propose_admin_transfer_spec
    (h : propose_admin_transfer caller proposed_admin env s = .ok (u, s')) :
    env.auth caller = true ∧ s .ADMIN = some caller ∧
      ∃ timeout_at : U64, timeout_at.toNat = env.timestamp.toNat + 604800 ∧
        s' .PENDING_TRANSFER = some { proposed_admin, proposed_at := env.timestamp, timeout_at } := by
  simp only [propose_admin_transfer, bind_eq_ok, load_eq_ok, reads_eq_ok, elim_eq_ok, pure_eq_ok,
    panic_if_eq_ok, add_u64_eq_ok, save_eq_ok, and_assoc, exists_and_left, exists_eq_left] at h
  obtain ⟨_, s₁, hassert, _, s₂, hexisting, hlt, rfl⟩ := h
  obtain ⟨hauth, hadmin, rfl⟩ := assert_only_admin_spec hassert
  refine ⟨hauth, hadmin, env.timestamp + 604800, ?_, by simp⟩
  rw [UInt64.toNat_add]
  have : (604800 : U64).toNat = 604800 := rfl
  omega

theorem accept_admin_transfer_spec (h : accept_admin_transfer caller env s = .ok (u, s')) :
    env.auth caller = true ∧ s' .ADMIN = some caller ∧ s' .PENDING_TRANSFER = none ∧
      ∃ proposal, s .PENDING_TRANSFER = some proposal ∧ proposal.proposed_admin = caller ∧
        env.timestamp.toNat < proposal.timeout_at.toNat := by
  simp only [accept_admin_transfer, bind_eq_ok, load_eq_ok, reads_eq_ok, expect_eq_ok,
    panic_if_eq_ok, save_eq_ok, remove_eq_ok, and_assoc, exists_and_left, exists_eq_left,
    exists_const] at h
  obtain ⟨hauth, proposal, hproposal, htime, hcaller, rfl⟩ := h
  rw [not_not] at hcaller
  refine ⟨by simpa using hauth, by simp, by simp, proposal, hproposal, hcaller.symm, ?_⟩
  exact UInt64.lt_iff_toNat_lt.mp (UInt64.not_le.mp htime)

theorem cancel_admin_transfer_spec (h : cancel_admin_transfer caller env s = .ok (u, s')) :
    s' .PENDING_TRANSFER = none := by
  simp only [cancel_admin_transfer, bind_eq_ok, load_eq_ok, panic_if_eq_ok, remove_eq_ok] at h
  obtain ⟨_, _, -, _, _, -, _, _, -, rfl⟩ := h
  simp

end Steps

/-! ## Nominations -/

section Nominations

variable [Host]

/-- The history holds a proposal of this nominee by the one who was the admin then and is
the admin still, which no later call has cancelled. -/
structure Nominated (history : List Invocation) (nominee : Address) (expires : ℕ) : Prop where
  proposal : ∃ earlier env proposer later,
    history = earlier ++ (env, .propose_admin_transfer proposer nominee) :: later ∧
      env.auth proposer = true ∧
      (run empty_storage earlier) .ADMIN = some proposer ∧
      (run empty_storage history) .ADMIN = some proposer ∧
      expires = env.timestamp.toNat + 604800 ∧
      ∀ between env' canceller rest,
        later = between ++ (env', .cancel_admin_transfer canceller) :: rest →
          ∃ msg, exec (.cancel_admin_transfer canceller) env'
            (run empty_storage
              (earlier ++ (env, .propose_admin_transfer proposer nominee) :: between)) = .error msg

/-- What is pending has been nominated. -/
def PendingNominated (history : List Invocation) : Prop :=
  ∀ proposal, (run empty_storage history) .PENDING_TRANSFER = some proposal →
    Nominated history proposal.proposed_admin proposal.timeout_at.toNat

theorem run_concat (history : List Invocation) (t : Invocation) :
    run empty_storage (history ++ [t]) = step exec t (run empty_storage history) :=
  runFrom_append

/-- A nomination stands as long as the admin stays and no cancellation succeeds. -/
theorem Nominated.concat {history : List Invocation} {nominee : Address} {expires : ℕ}
    (h : Nominated history nominee expires) {t : Invocation}
    (hadmin : (run empty_storage (history ++ [t])) .ADMIN = (run empty_storage history) .ADMIN)
    (hcancel : ∀ canceller, t.2 = .cancel_admin_transfer canceller →
      ∃ msg, exec t.2 t.1 (run empty_storage history) = .error msg) :
    Nominated (history ++ [t]) nominee expires := by
  obtain ⟨earlier, env, proposer, later, hsplit, hauth, hearlier, hnow, hexpires, hlater⟩ :=
    h.proposal
  refine ⟨earlier, env, proposer, later ++ [t], ?_, hauth, hearlier, hadmin.trans hnow, hexpires, ?_⟩
  · rw [hsplit, List.append_assoc, List.cons_append]
  · intro between env' canceller rest heq
    -- the cancellation is the last call, or it was there before
    rcases List.eq_nil_or_concat rest with rfl | ⟨rest, last, rfl⟩
    · obtain ⟨rfl, hlast⟩ := List.append_inj' heq rfl
      obtain rfl := List.singleton_inj.mp hlast
      rw [← hsplit]
      exact hcancel canceller rfl
    · rw [List.concat_eq_append, ← List.cons_append, ← List.append_assoc] at heq
      exact hlater between env' canceller rest (List.append_inj_left' heq rfl)

/-- **Step.** -/
theorem PendingNominated.concat {history : List Invocation} {t : Invocation}
    (h : PendingNominated history) (ht : t.2.initializes = false) :
    PendingNominated (history ++ [t]) := by
  obtain ⟨env, call⟩ := t
  intro proposal hpending
  have hrun := run_concat history (env, call)
  rcases step_cases exec (run empty_storage history) (env, call) with hok | ⟨herror, heq⟩
  · rw [← hrun] at hok
    have hframe (k : Key) (hk : k.tag ∉ writes call) := exec_frame hok hk
    by_cases hmem : Tag.PENDING_TRANSFER ∈ writes call
    · cases call with
      | propose_admin_transfer caller =>
          obtain ⟨hauth, hadmin, timeout_at, htimeout, hnew⟩ := propose_admin_transfer_spec hok
          rw [hnew, Option.some.injEq] at hpending
          subst hpending
          refine ⟨history, env, caller, [], rfl, hauth, hadmin, ?_, htimeout, ?_⟩
          · exact (hframe .ADMIN (show Tag.ADMIN ∉ [Tag.PENDING_TRANSFER] by decide)).trans hadmin
          · intro between env' canceller rest hnil
            simp at hnil
      | accept_admin_transfer =>
          obtain ⟨-, -, hnone, -⟩ := accept_admin_transfer_spec hok
          rw [hnone] at hpending
          cases hpending
      | cancel_admin_transfer =>
          rw [cancel_admin_transfer_spec hok] at hpending
          cases hpending
      | _ => exact absurd hmem (by dsimp only [writes]; decide)
    · -- neither the proposal nor the admin has changed
      rw [hframe .PENDING_TRANSFER hmem] at hpending
      apply (h proposal hpending).concat
      · apply hframe .ADMIN
        intro hadmin
        rcases mem_writes_admin hadmin with ⟨admin, rfl⟩ | ⟨caller, rfl⟩
        · cases ht
        · exact hmem (by simp [writes])
      · rintro canceller rfl
        exact absurd List.mem_cons_self hmem
  · rw [hrun, heq] at hpending
    apply (h proposal hpending).concat
    · rw [hrun, heq]
    · intro canceller _
      exact herror

/-- **Run.** -/
theorem pendingNominated_run {env : Env} {admin : Address} {calls : List Invocation}
    (h : ∀ t ∈ calls, t.2.initializes = false) :
    PendingNominated ((env, .initialize_contract admin) :: calls) := by
  induction calls using List.reverseRecOn with
  | nil =>
      intro proposal hpending
      have hnone : (run empty_storage [(env, .initialize_contract admin)]) .PENDING_TRANSFER =
          none := by
        rcases step_cases exec empty_storage (env, .initialize_contract admin) with hok | ⟨-, heq⟩
        · exact exec_frame hok (show Tag.PENDING_TRANSFER ∉ initializeTags by decide)
        · rw [run, runFrom_cons, heq]
          rfl
      rw [hnone] at hpending
      cases hpending
  | append_singleton _ t ih =>
      rw [← List.cons_append]
      apply PendingNominated.concat
      · exact ih fun t' ht' => h t' (List.mem_append_left _ ht')
      · exact h t (List.mem_append_right _ (List.mem_singleton_self t))

end Nominations

/-! ## What no call takes back -/

section Records

variable {env : Env} {s s' : Storage} {caller : Address} {u : Unit}

/-- The admin or a SuperAdmin. -/
def IsAdminOrSuper (s : Storage) (caller : Address) : Prop :=
  s .ADMIN = some caller ∨ .SuperAdmin ∈ (s (.RoleKey caller)).getD []

theorem assert_admin_or_super_admin_spec {msg : String}
    (h : assert_admin_or_super_admin_with msg caller env s = .ok (u, s')) :
    env.auth caller = true ∧ IsAdminOrSuper s caller := by
  simp only [assert_admin_or_super_admin_with, assert_not_globally_paused, is_authorized,
    has_role_internal, bind_eq_ok, load_eq_ok, reads_eq_ok, expect_eq_ok, panic_if_eq_ok,
    pure_eq_ok, and_assoc, exists_and_left, exists_eq_left, exists_const] at h
  obtain ⟨-, hauth, admin, hadmin, _, s₁, hpending, hrole, -⟩ := h
  rw [Writes.store_eq inferInstance hpending] at hrole
  refine ⟨by simpa using hauth, ?_⟩
  simp only [Bool.not_eq_false, Bool.or_eq_true, decide_eq_true_eq, List.contains_iff_mem] at hrole
  rcases hrole with rfl | hsuper
  · exact .inl hadmin
  · exact .inr hsuper

/-- An upgrade raises the version and adds to the history. -/
theorem execute_upgrade_spec [Host] {proposal_id : U64}
    (h : execute_upgrade caller proposal_id env s = .ok (u, s')) :
    s' .CONTRACT_VERSION = some (saturating_add_u32 ((s .CONTRACT_VERSION).getD 1) 1) ∧
      ∃ record, s' .UPGRADE_HISTORY = some ((s .UPGRADE_HISTORY).getD [] ++ [record]) := by
  simp only [execute_upgrade, bind_eq_ok, load_eq_ok, reads_eq_ok, panic_if_eq_ok, elim_eq_ok,
    pure_eq_ok, save_eq_ok, remove_eq_ok, and_assoc, exists_and_left, exists_eq_left,
    exists_const] at h
  obtain ⟨_, s₁, hperm, _, s₂, htransfer, proposal, s₃, hproposal, -, -, s₄, hrollback, rfl⟩ := h
  obtain rfl : s₁ = s := Writes.store_eq inferInstance hperm
  obtain rfl : s₂ = s₁ := Writes.store_eq inferInstance htransfer
  obtain rfl : s₃ = s₂ := Writes.store_eq inferInstance hproposal
  have hhistory : s₄ .UPGRADE_HISTORY = s₃ .UPGRADE_HISTORY := by
    rcases hrollback with ⟨-, -, rfl⟩ | ⟨_, -, rfl⟩
    · rfl
    · simp
  refine ⟨by simp, ?_⟩
  simp [hhistory]

theorem le_saturating_add (x : U32) : x ≤ saturating_add_u32 x 1 := by
  have hx := x.toNat_lt
  have hone : (1 : U32).toNat = 1 := rfl
  unfold saturating_add_u32
  apply UInt32.le_iff_toNat_le.mpr
  by_cases h : x.toNat + (1 : U32).toNat < 2 ^ 32
  · rw [if_pos h, UInt32.toNat_add]
    omega
  · rw [if_neg h, UInt32.toNat_ofNat']
    omega

/-- What a registration stores, before the checkpoint that it may take. -/
theorem register_asset_stores [Host] {asset_code : SString}
    (h : register_asset caller asset_code env s = .ok (u, s')) :
    ∃ assets record, s .MONITORED_ASSETS = some assets ∧ asset_code ∉ assets ∧ maybe_create_auto_checkpoint caller env
      (Function.update (Function.update s (.Health asset_code) (some record)) .MONITORED_ASSETS
        (some (assets ++ [asset_code]))) = .ok (u, s') := by
  simp only [register_asset, bind_eq_ok, load_eq_ok, reads_eq_ok, expect_eq_ok, panic_if_eq_ok,
    save_eq_ok, and_assoc, exists_and_left, exists_eq_left, exists_const] at h
  obtain ⟨_, s₁, hpause, _, s₂, hperm, assets, hassets, hnew, expires_at, s₃, hexpires,
    hcheckpoint⟩ := h
  obtain rfl : s₁ = s := Writes.store_eq inferInstance hpause
  obtain rfl : s₂ = s₁ := Writes.store_eq inferInstance hperm
  obtain rfl : s₃ = s₂ := Writes.store_eq inferInstance hexpires
  exact ⟨assets, _, hassets, hnew, hcheckpoint⟩

/-- A new asset goes to the end of the list. -/
theorem register_asset_spec [Host] {asset_code : SString}
    (h : register_asset caller asset_code env s = .ok (u, s')) :
    ∃ assets, s .MONITORED_ASSETS = some assets ∧ asset_code ∉ assets ∧
      s' .MONITORED_ASSETS = some (assets ++ [asset_code]) := by
  obtain ⟨assets, record, hassets, hnew, hcheckpoint⟩ := register_asset_stores h
  refine ⟨assets, hassets, hnew, ?_⟩
  rw [(inferInstance : Writes checkpointTags _).frame hcheckpoint .MONITORED_ASSETS (by decide)]
  simp

theorem restore_snapshot_spec {snapshot : CheckpointSnapshot}
    (h : restore_snapshot snapshot env s = .ok (u, s')) :
    s' .MONITORED_ASSETS = some snapshot.monitored_assets := by
  simp only [restore_snapshot, bind_eq_ok, save_eq_ok, exists_const, exists_eq_left] at h
  obtain ⟨_, s₁, -, _, s₂, -, hrestore⟩ := h
  rw [(inferInstance : Writes [Tag.Health, .Price, .HealthRes] _).frame hrestore .MONITORED_ASSETS
    (by decide)]
  simp

/-- A restoration, by the admin or a SuperAdmin, is one of a stored snapshot, followed by a checkpoint. -/
theorem restore_from_checkpoint_steps [Host] {checkpoint_id : U64} {metadata : CheckpointMetadata}
    (h : restore_from_checkpoint caller checkpoint_id env s = .ok (metadata, s')) :
    (env.auth caller = true ∧ IsAdminOrSuper s caller) ∧ ∃ snapshot s₁, s (.ChkpntSnap checkpoint_id) = some snapshot ∧
      restore_snapshot snapshot env s = .ok ((), s₁) ∧
      persist_checkpoint caller .Restore (str "restore") (some checkpoint_id) env s₁ = .ok (metadata, s') := by
  simp only [restore_from_checkpoint, get_checkpoint_or_panic, bind_eq_ok, load_eq_ok, expect_eq_ok,
    and_assoc, exists_and_left, exists_eq_left] at h
  obtain ⟨_, s₁, hauth, snapshot, hsnapshot, _, s₂, hrestore, hcheckpoint⟩ := h
  obtain rfl : s₁ = s := Writes.store_eq inferInstance hauth
  exact ⟨assert_admin_or_super_admin_spec hauth, snapshot, s₂, hsnapshot, hrestore, hcheckpoint⟩

theorem restore_from_checkpoint_spec [Host] {checkpoint_id : U64} {metadata : CheckpointMetadata}
    (h : restore_from_checkpoint caller checkpoint_id env s = .ok (metadata, s')) :
    env.auth caller = true ∧ IsAdminOrSuper s caller ∧
      ∃ snapshot, s (.ChkpntSnap checkpoint_id) = some snapshot ∧
        s' .MONITORED_ASSETS = some snapshot.monitored_assets := by
  obtain ⟨⟨hcaller, hsuper⟩, snapshot, s₁, hsnapshot, hrestore, hcheckpoint⟩ := restore_from_checkpoint_steps h
  refine ⟨hcaller, hsuper, snapshot, hsnapshot, ?_⟩
  rw [(inferInstance : Writes checkpointTags _).frame hcheckpoint .MONITORED_ASSETS (by decide)]
  exact restore_snapshot_spec hrestore

end Records

/-! ## Runs -/

section Runs

variable [Host]

/-- What the call `t` after `history` may do to the admin and to the records of the past. -/
structure Rightful (history : List Invocation) (t : Invocation) : Prop where
  /-- The admin stays, or the nominee of a proposal less than seven days old accepts. -/
  admin : (run empty_storage (history ++ [t])) .ADMIN = (run empty_storage history) .ADMIN ∨
    ∃ caller expires, t.2 = .accept_admin_transfer caller ∧ t.1.auth caller = true ∧
      (run empty_storage (history ++ [t])) .ADMIN = some caller ∧
        Nominated history caller expires ∧ t.1.timestamp.toNat < expires
  /-- Assets are added at the end, or those of a checkpoint are restored. -/
  assets : ((run empty_storage history) .MONITORED_ASSETS).getD [] <+:
      ((run empty_storage (history ++ [t])) .MONITORED_ASSETS).getD [] ∨
    ∃ caller checkpoint_id snapshot, t.2 = .restore_from_checkpoint caller checkpoint_id ∧
      t.1.auth caller = true ∧ IsAdminOrSuper (run empty_storage history) caller ∧
        (run empty_storage history) (.ChkpntSnap checkpoint_id) = some snapshot ∧
          (run empty_storage (history ++ [t])) .MONITORED_ASSETS = some snapshot.monitored_assets
  /-- No checkpoint id is given out again, and the last checkpoint is there. -/
  checkpoints : checkpoint_counter (run empty_storage history) ≤
      checkpoint_counter (run empty_storage (history ++ [t])) ∧
    CheckpointStore (run empty_storage (history ++ [t]))
  version : ((run empty_storage history) .CONTRACT_VERSION).getD 1 ≤
    ((run empty_storage (history ++ [t])) .CONTRACT_VERSION).getD 1
  upgrades : ((run empty_storage history) .UPGRADE_HISTORY).getD [] <+:
    ((run empty_storage (history ++ [t])) .UPGRADE_HISTORY).getD []

/-- A call that succeeds and is not `initialize`. -/
theorem Rightful.of_ok {history : List Invocation} {t : Invocation}
    (hcheckpoints : CheckpointInvariant 0 (run empty_storage history))
    (hpending : PendingNominated history) (ht : t.2.initializes = false)
    (hok : exec t.2 t.1 (run empty_storage history) =
      .ok ((), run empty_storage (history ++ [t]))) : Rightful history t := by
  obtain ⟨env, call⟩ := t
  have hframe (k : Key) (hk : k.tag ∉ writes call) := exec_frame hok hk
  have hsince : CheckpointInvariant (checkpoint_counter (run empty_storage history))
      (run empty_storage history) := { hcheckpoints with since := UInt64.le_refl _ }
  have hcheckpoints' := (exec_preserves_checkpoints ht).preserved hsince hok
  have hversion (hversion : Tag.CONTRACT_VERSION ∈ writes call ∨ Tag.UPGRADE_HISTORY ∈ writes call) :
      ∃ caller proposal_id, call = .execute_upgrade caller proposal_id := by
    rcases mem_writes_version hversion with ⟨admin, rfl⟩ | hupgrade
    · cases ht
    · exact hupgrade
  constructor
  · by_cases hmem : Tag.ADMIN ∈ writes call
    · rcases mem_writes_admin hmem with ⟨admin, rfl⟩ | ⟨caller, rfl⟩
      · cases ht
      · obtain ⟨hauth, hadmin, -, proposal, hproposal, rfl, htime⟩ := accept_admin_transfer_spec hok
        exact .inr ⟨_, _, rfl, hauth, hadmin, hpending proposal hproposal, htime⟩
    · exact .inl (hframe .ADMIN hmem)
  · by_cases hmem : Tag.MONITORED_ASSETS ∈ writes call
    · cases call with
      | initialize_contract => cases ht
      | register_asset =>
          obtain ⟨assets, hassets, -, hnew⟩ := register_asset_spec hok
          rw [hassets, hnew]
          exact .inl (List.prefix_append _ _)
      | restore_from_checkpoint caller checkpoint_id =>
          obtain ⟨metadata, s₁, hrestore, hignore⟩ := bind_eq_ok.mp hok
          rw [(pure_eq_ok.mp hignore).2] at hok ⊢
          obtain ⟨hauth, hsuper, snapshot, hsnapshot, hassets⟩ := restore_from_checkpoint_spec hrestore
          exact .inr ⟨caller, checkpoint_id, snapshot, rfl, hauth, hsuper, hsnapshot, hassets⟩
      | _ => exact absurd hmem (by dsimp only [writes]; decide)
    · rw [hframe .MONITORED_ASSETS hmem]
      exact .inl (List.prefix_refl _)
  · exact ⟨hcheckpoints'.since, hcheckpoints'.store⟩
  · by_cases hmem : Tag.CONTRACT_VERSION ∈ writes call
    · obtain ⟨caller, proposal_id, rfl⟩ := hversion (.inl hmem)
      rw [(execute_upgrade_spec hok).1]
      exact le_saturating_add _
    · rw [hframe .CONTRACT_VERSION hmem]
      exact UInt32.le_refl _
  · by_cases hmem : Tag.UPGRADE_HISTORY ∈ writes call
    · obtain ⟨caller, proposal_id, rfl⟩ := hversion (.inr hmem)
      obtain ⟨record, hrecord⟩ := (execute_upgrade_spec hok).2
      rw [hrecord]
      exact List.prefix_append _ _
    · rw [hframe .UPGRADE_HISTORY hmem]

/-- A call that fails. -/
theorem Rightful.of_error {history : List Invocation} {t : Invocation}
    (hcheckpoints : CheckpointInvariant 0 (run empty_storage history))
    (heq : run empty_storage (history ++ [t]) = run empty_storage history) : Rightful history t := by
  constructor <;> rw [heq]
  · exact .inl rfl
  · exact .inl (List.prefix_refl _)
  · exact ⟨UInt64.le_refl _, hcheckpoints.store⟩
  · exact UInt32.le_refl _

/-- **Hand-over.** In a run that never calls `initialize` again, every call is rightful. -/
theorem rightful_run {env : Env} {admin : Address} {calls : List Invocation}
    (h : ∀ t ∈ calls, t.2.initializes = false) :
    ∀ before t after, calls = before ++ t :: after →
      Rightful ((env, .initialize_contract admin) :: before) t := by
  rintro before t after rfl
  have hbefore : ∀ t' ∈ before, t'.2.initializes = false := fun t' ht' =>
    h t' (List.mem_append_left _ ht')
  have hcheckpoints := checkpointInvariant_run env admin hbefore
  rcases step_cases exec (run empty_storage ((env, .initialize_contract admin) :: before)) t with
    hok | ⟨-, heq⟩
  · rw [← run_concat _ t] at hok
    apply Rightful.of_ok hcheckpoints (pendingNominated_run hbefore) _ hok
    exact h t (List.mem_append_right _ List.mem_cons_self)
  · exact Rightful.of_error hcheckpoints ((run_concat _ t).trans heq)

end Runs

/-! ## Concrete runs -/

/-- One address has authorised the call. -/
def authorised_by (address : Address) (timestamp : U64) : Env :=
  { timestamp, auth := fun a => a = address }

/-- The first call of a concrete run. -/
def initialized : Invocation :=
  (authorised_by (test_address 0) 1, .initialize_contract (test_address 0))

/-- A hand-over, up to its last call. -/
def nominated : Invocation :=
  (authorised_by (test_address 0) 2, .propose_admin_transfer (test_address 0) (test_address 1))

theorem rightful_run_accept :
    @Rightful lengthHost [initialized, nominated]
      (authorised_by (test_address 1) 3, .accept_admin_transfer (test_address 1)) := by
  let _ : Host := lengthHost
  have hcalls : ∀ t ∈ [nominated, (authorised_by (test_address 1) 3,
      .accept_admin_transfer (test_address 1))], t.2.initializes = false := by
    decide
  exact rightful_run hcalls [nominated] _ [] rfl

/-- **A seized contract.** Anyone may call `initialize` again and become the admin. -/
theorem seized_contract :
    ∃ (_ : Host), ¬Rightful [initialized]
      (authorised_by (test_address 1) 2, .initialize_contract (test_address 1)) := by
  let _ : Host := lengthHost
  refine ⟨lengthHost, fun h => ?_⟩
  rcases h.admin with heq | ⟨caller, _, haccept, -⟩
  · exact absurd heq (by decide +kernel)
  · cases haccept

end BridgeWatch.Contract

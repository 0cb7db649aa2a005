/-
Trusted sources: what a revocation stops.

A source that has been revoked stays inactive until it is registered again. But a
submission asks whether its caller is trusted only while some source is active, so the
revocation stops the submissions of its source only then: when the last active source is
revoked, the restriction is lifted for everybody, the revoked sources included.
-/
import BridgeWatch.ContractCalls

set_option autoImplicit false
-- The instance of a guard looks through the reads that come before it.
set_option synthInstance.maxSize 2048

namespace BridgeWatch.Contract

open Transaction

/-- The source is registered, and revoked. -/
def Inactive (a : Address) (s : Storage) : Prop :=
  ∃ source, s (.Source a) = some source ∧ source.is_active = false

/-- Some listed source is active. -/
def Enforced (s : Storage) : Prop :=
  ∃ a source, a ∈ (s .AllSources).getD [] ∧ s (.Source a) = some source ∧ source.is_active = true

/-! ## The guard on submissions -/

section Guard

variable {env : Env} {s s' : Storage}

/-- What `get_all_trusted_sources` says of a source. -/
def TrustedSource.info (source : TrustedSource) : SourceInfo :=
  { source_address := source.source_address
    name := source.name
    is_active := source.is_active
    registered_at := source.registered_at }

theorem get_all_trusted_sources_spec {infos : List SourceInfo} :
    source_trust.get_all_trusted_sources env s = .ok (infos, s') ↔
      infos = ((s .AllSources).getD []).foldl
        (fun result a => result ++ ((s (.Source a)).map TrustedSource.info).toList) [] ∧ s' = s := by
  simp only [source_trust.get_all_trusted_sources, bind_eq_ok, load_eq_ok, and_assoc,
    exists_and_left, exists_eq_left]
  exact foldlM_load_eq_ok

/-- The sources are listed with what is stored of them. -/
theorem mem_sources {all : List Address} {acc : List SourceInfo} {info : SourceInfo} :
    info ∈ all.foldl (fun result a => result ++ ((s (.Source a)).map TrustedSource.info).toList) acc ↔
      info ∈ acc ∨ ∃ a ∈ all, ∃ source, s (.Source a) = some source ∧ source.info = info := by
  induction all generalizing acc with
  | nil => simp
  | cons _ _ ih =>
      rw [List.foldl_cons, ih]
      simp [or_assoc]

/-- While a source is active, an inactive source cannot submit. -/
instance {a : Address} :
    Blocked (fun _ s => Inactive a s ∧ Enforced s) (assert_trusted_when_enforced a) where
  fails := by
    rintro env s ⟨⟨source, hsource, hinactive⟩, b, trusted, hlisted, htrusted, hactive⟩ ⟨u, s'⟩ h
    simp only [assert_trusted_when_enforced, source_trust.get_active_trusted_sources,
      source_trust.require_trusted_source, source_trust.is_trusted_source, bind_eq_ok, pure_eq_ok,
      get_all_trusted_sources_spec, exec_if_eq_ok, load_eq_ok, panic_if_eq_ok, and_assoc,
      exists_and_left, exists_eq_left] at h
    rcases h with ⟨-, htrust, -⟩ | ⟨hnone, -⟩
    · apply htrust
      rw [hsource]
      exact hinactive
    · -- the active source is among those that the guard finds
      rw [Ne, not_not, List.filter_eq_nil_iff] at hnone
      have hmem : trusted.info ∈ ((s .AllSources).getD []).foldl
          (fun result a => result ++ ((s (.Source a)).map TrustedSource.info).toList) [] :=
        mem_sources.mpr (.inr ⟨b, hlisted, trusted, htrusted, rfl⟩)
      exact hnone _ hmem hactive

instance [Host] {a : Address} {asset_code : SString} {x y z w : U32} :
    Blocked (fun _ s => Inactive a s ∧ Enforced s) (submit_health a asset_code x y z w) := by
  unfold submit_health
  infer_instance

instance [Host] {a : Address} {asset_code source : SString} {price : I128} :
    Blocked (fun _ s => Inactive a s ∧ Enforced s) (submit_price a asset_code price source) := by
  unfold submit_price
  infer_instance

end Guard

/-! ## Registrations and revocations -/

/-- A registration of the source. -/
def EntryPoint.Registers (a : Address) (call : EntryPoint) : Prop :=
  ∃ caller name, call = .register_trusted_source caller a name

/-- A revocation of the source, by an admin or by the emergency multisig. -/
def EntryPoint.Revokes (a : Address) (call : EntryPoint) : Prop :=
  (∃ caller, call = .revoke_trusted_source caller a) ∨
    ∃ signatures nonce, call = .delist_oracle_node_multisig signatures nonce a

/-- A submission by the address. -/
def EntryPoint.SubmittedBy (a : Address) (call : EntryPoint) : Prop :=
  (∃ asset_code x y z w, call = .submit_health a asset_code x y z w) ∨
    ∃ asset_code price source, call = .submit_price a asset_code price source

theorem mem_writes_source {call : EntryPoint} (h : Tag.Source ∈ writes call) :
    (∃ a, call.Registers a) ∨ ∃ a, call.Revokes a := by
  cases call <;> first
    | exact .inl ⟨_, _, _, rfl⟩
    | exact .inr ⟨_, .inl ⟨_, rfl⟩⟩
    | exact .inr ⟨_, .inr ⟨_, _, rfl⟩⟩
    | exact absurd h (by dsimp only [writes]; decide)

section Revocation

variable {env : Env} {s s' : Storage} {a b caller : Address} {u : Unit}

theorem register_frame {name : SString} (hne : a ≠ b)
    (h : source_trust.register_trusted_source caller b name env s = .ok (u, s')) :
    s' (.Source a) = s (.Source a) := by
  simp only [source_trust.register_trusted_source, bind_eq_ok, load_eq_ok, reads_eq_ok,
    panic_if_eq_ok, save_eq_ok, exec_if_eq_ok, and_assoc, exists_and_left, exists_eq_left,
    exists_const] at h
  obtain ⟨-, hall⟩ := h
  rcases hall with ⟨-, rfl⟩ | ⟨-, rfl⟩ <;> simp [hne]

/-- What a revocation leaves of the source, and of the others. -/
theorem revoke_spec (h : source_trust.revoke_trusted_source caller b env s = .ok (u, s')) :
    Inactive b s' ∧ ∀ a ≠ b, s' (.Source a) = s (.Source a) := by
  simp only [source_trust.revoke_trusted_source, bind_eq_ok, load_eq_ok, reads_eq_ok,
    expect_eq_ok, panic_if_eq_ok, save_eq_ok, and_assoc, exists_and_left, exists_eq_left,
    exists_const] at h
  obtain ⟨source, -, -, rfl⟩ := h
  refine ⟨⟨_, Function.update_self .., rfl⟩, fun a hne => ?_⟩
  simp [hne]

variable [Host]

/-- The two entry points revoke a source in the same way. -/
theorem EntryPoint.Revokes.spec {call : EntryPoint} (hrevokes : call.Revokes b)
    (h : exec call env s = .ok ((), s')) :
    Inactive b s' ∧ ∀ a ≠ b, s' (.Source a) = s (.Source a) := by
  rcases hrevokes with ⟨caller, rfl⟩ | ⟨signatures, nonce, rfl⟩
  · obtain ⟨_, s₁, hguard, hrevoke⟩ := bind_eq_ok.mp h
    obtain rfl : s₁ = s := Writes.store_eq inferInstance hguard
    exact revoke_spec hrevoke
  · obtain ⟨_, s₁, hverify, hrevoke⟩ := bind_eq_ok.mp h
    obtain ⟨hinactive, hothers⟩ := revoke_spec hrevoke
    refine ⟨hinactive, fun a hne => (hothers a hne).trans ?_⟩
    -- the multisig writes its nonce and its log
    exact (inferInstance : Writes [Tag.EMERGENCY_MULTISIG_NONCE, .EMERGENCY_MULTISIG_LOG] _).frame
      hverify (.Source a) (show Tag.Source ∉ _ by decide)

/-- **Step.** Only a registration of the source makes it active again. -/
theorem Inactive.step {call : EntryPoint} (hinactive : Inactive a s) (hnot : ¬call.Registers a)
    (h : exec call env s = .ok ((), s')) : Inactive a s' := by
  have hsame (heq : s' (.Source a) = s (.Source a)) : Inactive a s' := by
    unfold Inactive
    rwa [heq]
  by_cases hmem : Tag.Source ∈ writes call
  · rcases mem_writes_source hmem with ⟨b, hregisters⟩ | ⟨b, hrevokes⟩
    · have hne : a ≠ b := by
        rintro rfl
        exact hnot hregisters
      obtain ⟨caller, name, rfl⟩ := hregisters
      obtain ⟨_, s₁, hguard, hregister⟩ := bind_eq_ok.mp h
      obtain rfl : s₁ = s := Writes.store_eq inferInstance hguard
      exact hsame (register_frame hne hregister)
    · obtain ⟨hrevoked, hothers⟩ := hrevokes.spec h
      by_cases heq : a = b
      · rwa [heq]
      · exact hsame (hothers a heq)
  · exact hsame (exec_frame h (k := .Source a) hmem)

end Revocation

/-! ## Runs -/

section Runs

variable [Host]

/-- The source has been revoked, and no registration of it has succeeded since. -/
def RevokedSince (a : Address) (calls : List Invocation) : Prop :=
  Since exec (EntryPoint.Revokes a)
    (fun s t => t.2.Registers a → ∀ r, exec t.2 t.1 s ≠ .ok r) empty_storage calls

/-- **Run.** -/
theorem RevokedSince.inactive {a : Address} {calls : List Invocation} (h : RevokedSince a calls) :
    Inactive a (run empty_storage calls) := by
  apply run_since (J := fun _ => True) (fun _ _ _ => trivial) _ _ h
  · intro s env call s' _ hrevokes hok
    exact (hrevokes.spec hok).1
  · intro s t s' hinactive hnot hok
    exact hinactive.step (fun hregisters => hnot hregisters _ hok) hok

/-- A submission by an inactive source fails while some listed source is active. -/
theorem EntryPoint.SubmittedBy.blocked {a : Address} {call : EntryPoint}
    (hcall : call.SubmittedBy a) : Blocked (fun _ s => Inactive a s ∧ Enforced s) (exec call) := by
  rcases hcall with ⟨asset_code, x, y, z, w, rfl⟩ | ⟨asset_code, price, source, rfl⟩
  · dsimp only [exec]
    infer_instance
  · dsimp only [exec]
    infer_instance

/-- **A revoked source cannot submit** while some listed source is active. -/
theorem revoked_cannot_submit {a : Address} {calls : List Invocation} (h : RevokedSince a calls)
    (henforced : Enforced (run empty_storage calls)) {call : EntryPoint}
    (hcall : call.SubmittedBy a) (env : Env) (r : Unit × Storage) :
    exec call env (run empty_storage calls) ≠ .ok r :=
  hcall.blocked.fails ⟨h.inactive, henforced⟩ r

end Runs

/-! ## Concrete runs -/

/-- A source registers, may submit, and is revoked. -/
def revoked_run : List Invocation :=
  [(mock_all_auths 1, .initialize_contract (test_address 0)),
    (mock_all_auths 1, .register_asset (test_address 0) (str "USDC")),
    (mock_all_auths 1, .grant_role (test_address 0) (test_address 1) .HealthSubmitter),
    (mock_all_auths 1, .register_trusted_source (test_address 0) (test_address 1) (str "Oracle")),
    (mock_all_auths 2, .revoke_trusted_source (test_address 0) (test_address 1))]

/-- The same, and then another source registers. -/
def replaced_run : List Invocation :=
  revoked_run ++
    [(mock_all_auths 3,
      .register_trusted_source (test_address 0) (test_address 2) (str "Oracle"))]

/-- The source that is active in the end. -/
def replacement : TrustedSource :=
  { source_address := test_address 2
    name := str "Oracle"
    registered_by := test_address 0
    registered_at := 3
    is_active := true
    revoked_by := none
    revoked_at := none }

/-- The submission that the revoked source makes. -/
def revoked_submission : EntryPoint := .submit_health (test_address 1) (str "USDC") 95 90 92 88

theorem revoked_cannot_submit_replaced :
    ¬∃ r, @exec lengthHost revoked_submission (mock_all_auths 4)
      (@run lengthHost empty_storage replaced_run) = .ok r := by
  let _ : Host := lengthHost
  rintro ⟨r, hok⟩
  have hrevoked : RevokedSince (test_address 1) replaced_run := by
    refine ⟨revoked_run.take 4, revoked_run.getLast (by decide), replaced_run.drop 5, rfl,
      .inl ⟨_, rfl⟩, by decide +kernel, ?_, trivial⟩
    rintro ⟨caller, name, heq⟩
    cases heq
  have henforced : Enforced (run empty_storage replaced_run) :=
    ⟨test_address 2, replacement, by decide +kernel, by decide +kernel, rfl⟩
  exact revoked_cannot_submit hrevoked henforced (.inl ⟨_, _, _, _, _, rfl⟩) (mock_all_auths 4) r hok

/-- **A revoked source that submits.** Once the only active source is revoked, nobody needs to
be trusted. -/
theorem revoked_source_submits :
    ∃ (_ : Host), RevokedSince (test_address 1) revoked_run ∧
      ∃ s, exec revoked_submission (mock_all_auths 3) (run empty_storage revoked_run) =
        .ok ((), s) := by
  let _ : Host := lengthHost
  have hrevoked : RevokedSince (test_address 1) revoked_run :=
    ⟨revoked_run.take 4, revoked_run.getLast (by decide), [], rfl, .inl ⟨_, rfl⟩,
      by decide +kernel, trivial⟩
  refine ⟨lengthHost, hrevoked, ?_⟩
  exact exists_of_returned (by decide +kernel)

end BridgeWatch.Contract

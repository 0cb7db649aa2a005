/-
Signer quorum and nonce freshness: what a successful `verify_multi_sig` guarantees.

`verify_signature` looks up the hash of the message in a cache before it looks at the
nonce and at the signature, and the first signature that it accepts puts that hash into
the cache. So it checks no signature on a message that has been signed before, and in
one `verify_multi_sig` none after the first. The guarantee holds along the runs that
never take this short cut.
-/
import BridgeWatch.ContractCalls

set_option autoImplicit false

namespace BridgeWatch.Contract

open Transaction

/-! ## The signatures of a call -/

/-- The message that a call has verified, which may be too long to be built, and the
signatures on it. -/
def EntryPoint.verification : EntryPoint → Option (Except String Buffer × List SignerSignature)
  | .verify_signature message signature => some (.ok message, [signature])
  | .verify_multi_sig message signatures => some (.ok message, signatures)
  | .submit_health_signed _ asset_code health_score liquidity_score price_stability_score
      bridge_uptime_score signature =>
      some (build_health_message asset_code health_score liquidity_score price_stability_score
        bridge_uptime_score, [signature])
  | .submit_price_signed _ asset_code price source signature =>
      some (build_price_message asset_code price source, [signature])
  | .submit_health_batch_signed _ records signatures =>
      some (build_batch_message records, signatures)
  | _ => none

/-- The pairs of signer and nonce that a call accepts when it succeeds. -/
def EntryPoint.nonces (call : EntryPoint) : List (SString × U64) :=
  call.verification.elim [] fun v => v.2.map fun sig => (sig.signer_id, sig.nonce)

/-- The pairs of signer and nonce that the calls accept. -/
abbrev accepted [Host] (s : Storage) (calls : List Invocation) : List (SString × U64) :=
  gather exec EntryPoint.nonces s calls

/-- A call runs `verify_multi_sig` on a message and signatures. -/
inductive EntryPoint.RunsMultiSig : EntryPoint → Buffer → List SignerSignature → Prop where
  | direct (message : Buffer) (signatures : List SignerSignature) :
      RunsMultiSig (.verify_multi_sig message signatures) message signatures
  | batch (caller : Address) (records : List HealthScoreBatch) (message : Buffer)
      (signatures : List SignerSignature) (h : build_batch_message records = .ok message) :
      RunsMultiSig (.submit_health_batch_signed caller records signatures) message signatures

theorem EntryPoint.RunsMultiSig.verification_eq {call : EntryPoint} {message : Buffer}
    {signatures : List SignerSignature} (h : call.RunsMultiSig message signatures) :
    call.verification = some (.ok message, signatures) := by
  cases h with
  | direct => rfl
  | batch _ _ _ _ h => exact congrArg (fun m => some (m, signatures)) h

/-- A call that verifies nothing leaves the nonces alone. -/
theorem nonce_not_mem_writes {call : EntryPoint} (h : call.verification = none) :
    Tag.SignerNonce ∉ writes call := by
  intro hmem
  cases call <;> first | cases h; done | exact absurd hmem (by simp [writes])

/-! ## What a signature and a quorum must be -/

/-- A signature by a registered active signer, not expired, that is the digest required
for the message, the signer, the nonce and the expiry. -/
structure Genuine [Host] (env : Env) (s : Storage) (message : Buffer) (sig : SignerSignature) :
    Prop where
  digest : ∃ signer, s (.Signer sig.signer_id) = some signer ∧ signer.active = true ∧
    sig.signature = digest_signature
      (Host.sha256 (signed_data message sig.signer_id signer.public_key sig.nonce sig.expiry))
  unexpired : sig.expiry = 0 ∨ env.timestamp ≤ sig.expiry

/-- As many genuine signatures as the threshold asks for, by pairwise distinct signers,
each with a nonce beyond all that the signer has used. -/
def Quorum [Host] (env : Env) (s : Storage) (used : List (SString × U64)) (message : Buffer)
    (signatures : List SignerSignature) : Prop :=
  ∃ quorum : List SignerSignature, quorum.Sublist signatures ∧
    ((s .SIGNATURE_THRESHOLD).getD 1).toNat ≤ quorum.length ∧
    (quorum.map SignerSignature.signer_id).Nodup ∧
    ∀ sig ∈ quorum, Genuine env s message sig ∧
      ∀ nonce, (sig.signer_id, nonce) ∈ used → nonce < sig.nonce

/-! ## Verification of one signature -/

section Verification

variable [Host] {env : Env} {s s' : Storage} {message : Buffer} {sig : SignerSignature}

/-- The hash of the message is not in the cache. -/
def Uncached (s : Storage) (message : Buffer) : Prop :=
  (s (.SigCache (Host.sha256 message))).getD false = false

/-- A signature that is verified without the cache is genuine, its nonce is beyond the last
one of the signer, and takes its place. -/
theorem verify_signature_uncached {b : Bool} (hcache : Uncached s message)
    (h : verify_signature message sig env s = .ok (b, s')) :
    Genuine env s message sig ∧ (s (.SignerNonce sig.signer_id)).getD 0 < sig.nonce ∧
      s' (.SignerNonce sig.signer_id) = some sig.nonce ∧
      ∀ id, id ≠ sig.signer_id → s' (.SignerNonce id) = s (.SignerNonce id) := by
  unfold Uncached at hcache
  simp only [verify_signature, load_signer, check_signature, bind_eq_ok, load_eq_ok, expect_eq_ok,
    panic_if_eq_ok, reads_eq_ok, exec_if_eq_ok, attempt_eq_ok, str_to_bytes_inner_eq_ok,
    save_eq_ok, pure_eq_ok] at h
  obtain ⟨signer, _, ⟨_, _, ⟨rfl, rfl⟩, hsigner, rfl⟩, _, _, ⟨hactive, rfl⟩, _, _, ⟨rfl, rfl⟩, _, _,
    ⟨hexpiry, rfl⟩, _, _, ⟨rfl, rfl⟩, _, s₁, hchecked, -, rfl⟩ := h
  rcases hchecked with ⟨-, hchecked⟩ | ⟨hcached, -⟩
  · obtain ⟨_, _, ⟨rfl, rfl⟩, _, _, ⟨hnonce, rfl⟩, _, _, ⟨⟨-, rfl⟩, rfl⟩, _, _, ⟨hdigest, rfl⟩, _, _,
      rfl, rfl⟩ := hchecked
    refine ⟨⟨⟨signer, hsigner, by simpa using hactive, by simpa using hdigest⟩, ?_⟩, by simpa using hnonce,
      by simp, ?_⟩
    · by_cases hzero : sig.expiry = 0
      · exact .inl hzero
      · exact .inr (UInt64.not_lt.mp fun hlt => hexpiry ⟨hzero, hlt⟩)
    · intro id hid
      simp [Function.update, hid]
  · exact absurd hcache hcached

/-- `verify_multi_sig` with at most one signature: the threshold is zero, or the signature
is verified. -/
theorem verify_multi_sig_single {b : Bool} {signatures : List SignerSignature}
    (hlength : signatures.length ≤ 1) (h : verify_multi_sig message signatures env s = .ok (b, s')) :
    ((s .SIGNATURE_THRESHOLD).getD 1).toNat ≤ signatures.length ∧
      ((signatures = [] ∧ s' = s) ∨
        ∃ sig b', signatures = [sig] ∧ verify_signature message sig env s = .ok (b', s')) := by
  simp only [verify_multi_sig, get_signature_threshold, bind_eq_ok, load_eq_ok, pure_eq_ok,
    panic_if_eq_ok] at h
  obtain ⟨_, _, ⟨_, _, ⟨rfl, rfl⟩, rfl, rfl⟩, _, _, ⟨hcount, rfl⟩, _, s₁, hfold, _, _, ⟨-, rfl⟩, -,
    rfl⟩ := h
  refine ⟨Nat.not_lt.mp hcount, ?_⟩
  cases signatures with
  | nil =>
      rw [List.foldlM_nil, pure_eq_ok] at hfold
      exact .inl ⟨rfl, hfold.2⟩
  | cons sig rest =>
      obtain rfl : rest = [] := List.length_eq_zero_iff.mp (Nat.le_zero.mp (Nat.le_of_succ_le_succ hlength))
      simp only [List.foldlM_cons, List.foldlM_nil, verify_next, bind_eq_ok, panic_if_eq_ok,
        pure_eq_ok] at hfold
      obtain ⟨_, _, ⟨_, _, ⟨-, rfl⟩, b', _, hverify, -, rfl⟩, -, rfl⟩ := hfold
      exact .inr ⟨sig, b', rfl, hverify⟩

end Verification

/-! ## Verification in a call -/

section Calls

variable [Host] {env : Env} {s s' : Storage} {call : EntryPoint}

/-- The part of a call that verifies its signatures, up to the store `s₁`. -/
def Verifies (env : Env) (s s₁ : Storage) (message : Buffer) (signatures : List SignerSignature) :
    Prop :=
  (∃ sig b, signatures = [sig] ∧ verify_signature message sig env s = .ok (b, s₁)) ∨
    ∃ b, verify_multi_sig message signatures env s = .ok (b, s₁)

/-- A call that verifies signatures succeeds only after that, and leaves the nonces alone
from there on. -/
theorem exec_verification {m : Except String Buffer} {signatures : List SignerSignature}
    (hcall : call.verification = some (m, signatures)) (h : exec call env s = .ok ((), s')) :
    ∃ message s₁, m = .ok message ∧ Verifies env s s₁ message signatures ∧
      ∀ id, s' (.SignerNonce id) = s₁ (.SignerNonce id) := by
  -- what follows the verification is the call of an unsigned entry point
  have frame (unsigned : EntryPoint) {s₁ : Storage} (hnone : unsigned.verification = none)
      (hrun : exec unsigned env s₁ = .ok ((), s')) (id : SString) :
      s' (.SignerNonce id) = s₁ (.SignerNonce id) :=
    exec_frame hrun (nonce_not_mem_writes hnone)
  cases call <;> simp only [EntryPoint.verification, Option.some.injEq, Prod.mk.injEq,
    reduceCtorEq] at hcall <;> obtain ⟨rfl, rfl⟩ := hcall
  case verify_signature message signature =>
    simp only [exec, ignore, bind_eq_ok, pure_eq_ok, true_and] at h
    obtain ⟨b, s₁, hverify, rfl⟩ := h
    exact ⟨message, _, rfl, .inl ⟨signature, b, rfl, hverify⟩, fun _ => rfl⟩
  case verify_multi_sig message signatures =>
    simp only [exec, ignore, bind_eq_ok, pure_eq_ok, true_and] at h
    obtain ⟨b, s₁, hverify, rfl⟩ := h
    exact ⟨message, _, rfl, .inr ⟨b, hverify⟩, fun _ => rfl⟩
  case submit_health_signed caller asset_code h₁ h₂ h₃ h₄ signature =>
    simp only [exec, submit_health_signed, bind_eq_ok, attempt_eq_ok] at h
    obtain ⟨_, _, hperm, message, _, ⟨hmessage, rfl⟩, b, s₁, hverify, hsubmit⟩ := h
    rw [Writes.store_eq inferInstance hperm] at hverify
    exact ⟨message, s₁, hmessage, .inl ⟨signature, b, rfl, hverify⟩,
      frame (.submit_health caller asset_code h₁ h₂ h₃ h₄) rfl hsubmit⟩
  case submit_price_signed caller asset_code price source signature =>
    simp only [exec, submit_price_signed, bind_eq_ok, attempt_eq_ok] at h
    obtain ⟨_, _, hperm, message, _, ⟨hmessage, rfl⟩, b, s₁, hverify, hsubmit⟩ := h
    rw [Writes.store_eq inferInstance hperm] at hverify
    exact ⟨message, s₁, hmessage, .inl ⟨signature, b, rfl, hverify⟩,
      frame (.submit_price caller asset_code price source) rfl hsubmit⟩
  case submit_health_batch_signed caller records signatures =>
    simp only [exec, submit_health_batch_signed, bind_eq_ok, attempt_eq_ok] at h
    obtain ⟨_, _, hperm, message, _, ⟨hmessage, rfl⟩, b, s₁, hverify, hsubmit⟩ := h
    rw [Writes.store_eq inferInstance hperm] at hverify
    exact ⟨message, s₁, hmessage, .inr ⟨b, hverify⟩,
      frame (.submit_health_batch caller records) rfl hsubmit⟩

end Calls

/-! ## Runs -/

/-- The nonces used so far: no pair twice, and none beyond the last nonce of its signer. -/
structure NoncesUsed (s : Storage) (used : List (SString × U64)) : Prop where
  nodup : used.Nodup
  le_last : ∀ id nonce, (id, nonce) ∈ used → nonce ≤ (s (.SignerNonce id)).getD 0

theorem NoncesUsed.lt_of_mem {s : Storage} {used : List (SString × U64)} (h : NoncesUsed s used)
    {sig : SignerSignature} (hnonce : (s (.SignerNonce sig.signer_id)).getD 0 < sig.nonce)
    (nonce : U64) (hmem : (sig.signer_id, nonce) ∈ used) : nonce < sig.nonce :=
  UInt64.lt_of_le_of_lt (h.le_last _ _ hmem) hnonce

section Runs

variable [Host]

/-- The call takes no short cut: the hash of its message is not in the cache, and it gives at
most one signature. -/
def ChecksSignatures (s : Storage) (t : Invocation) : Prop :=
  ∀ message signatures, t.2.verification = some (.ok message, signatures) →
    Uncached s message ∧ signatures.length ≤ 1

/-- One verified signature adds its nonce. -/
theorem NoncesUsed.verify {env : Env} {s s₁ s' : Storage} {used : List (SString × U64)}
    {message : Buffer} {sig : SignerSignature} {b : Bool} (h : NoncesUsed s used)
    (hcache : Uncached s message) (hverify : verify_signature message sig env s = .ok (b, s₁))
    (hrest : ∀ id, s' (.SignerNonce id) = s₁ (.SignerNonce id)) :
    NoncesUsed s' (used ++ [(sig.signer_id, sig.nonce)]) := by
  obtain ⟨-, hnonce, hself, hother⟩ := verify_signature_uncached hcache hverify
  constructor
  · apply List.nodup_append.mpr
    refine ⟨h.nodup, List.nodup_singleton _, ?_⟩
    rintro ⟨id, nonce⟩ hmem _ hsig rfl
    cases List.mem_singleton.mp hsig
    exact (UInt64.lt_irrefl _ (h.lt_of_mem hnonce _ hmem)).elim
  · intro id nonce hmem
    rw [hrest]
    by_cases hid : id = sig.signer_id
    · subst hid
      rw [hself, Option.getD_some]
      rcases List.mem_append.mp hmem with hold | hnew
      · exact UInt64.le_of_lt (h.lt_of_mem hnonce _ hold)
      · cases List.mem_singleton.mp hnew
        exact UInt64.le_refl _
    · rw [hother _ hid]
      rcases List.mem_append.mp hmem with hold | hnew
      · exact h.le_last _ _ hold
      · cases List.mem_singleton.mp hnew
        exact absurd rfl hid

/-- **Step.** A call that takes no short cut keeps the nonces in order. -/
theorem NoncesUsed.step {s s' : Storage} {t : Invocation} {used : List (SString × U64)}
    (h : NoncesUsed s used) (hchecks : ChecksSignatures s t)
    (hok : exec t.2 t.1 s = .ok ((), s')) : NoncesUsed s' (used ++ t.2.nonces) := by
  unfold EntryPoint.nonces
  match hcall : t.2.verification with
  | none =>
      have hframe : ∀ id, s' (.SignerNonce id) = s (.SignerNonce id) := fun id =>
        exec_frame hok (nonce_not_mem_writes hcall)
      rw [Option.elim_none, List.append_nil]
      exact ⟨h.nodup, fun id nonce hmem => (hframe id) ▸ h.le_last id nonce hmem⟩
  | some (m, signatures) =>
      obtain ⟨message, s₁, rfl, hverifies, hrest⟩ := exec_verification hcall hok
      obtain ⟨hcache, hlength⟩ := hchecks _ _ hcall
      rw [Option.elim_some]
      rcases hverifies with ⟨sig, b, rfl, hverify⟩ | ⟨b, hmulti⟩
      · exact h.verify hcache hverify hrest
      · rcases (verify_multi_sig_single hlength hmulti).2 with ⟨rfl, rfl⟩ | ⟨sig, b', rfl, hverify⟩
        · rw [List.map_nil, List.append_nil]
          exact ⟨h.nodup, fun id nonce hmem => (hrest id) ▸ h.le_last id nonce hmem⟩
        · exact h.verify hcache hverify hrest

/-- **Run.** -/
theorem noncesUsed_run {calls : List Invocation}
    (h : Along exec ChecksSignatures empty_storage calls) :
    NoncesUsed (run empty_storage calls) (accepted empty_storage calls) := by
  have hempty : NoncesUsed empty_storage [] := ⟨List.nodup_nil, fun _ _ hmem => nomatch hmem⟩
  exact run_gather_invariant (fun hI hC hok => NoncesUsed.step hI hC hok) hempty h

/-- **Quorum.** Along a run whose calls take no short cut, every `verify_multi_sig` that
returns has been given a quorum of genuine signatures with fresh nonces, and no pair of
signer and nonce is accepted twice. -/
theorem quorum_of_checks {calls : List Invocation}
    (h : Along exec ChecksSignatures empty_storage calls) :
    (∀ before t after, calls = before ++ t :: after →
      ∀ message signatures s₁, t.2.RunsMultiSig message signatures →
        verify_multi_sig message signatures t.1 (run empty_storage before) = .ok (true, s₁) →
          Quorum t.1 (run empty_storage before) (accepted empty_storage before) message
            signatures) ∧
      (accepted empty_storage calls).Nodup := by
  refine ⟨?_, (noncesUsed_run h).nodup⟩
  rintro before t after rfl message signatures s₁ hruns hmulti
  obtain ⟨hbefore, hchecks, -⟩ := Along.append.mp h
  have hused := noncesUsed_run hbefore
  obtain ⟨hcache, hlength⟩ := hchecks _ _ hruns.verification_eq
  obtain ⟨hthreshold, hcases⟩ := verify_multi_sig_single hlength hmulti
  rcases hcases with ⟨rfl, -⟩ | ⟨sig, b, rfl, hverify⟩
  · exact ⟨[], List.Sublist.refl _, hthreshold, List.nodup_nil, fun _ hmem => nomatch hmem⟩
  · obtain ⟨hgenuine, hnonce, -⟩ := verify_signature_uncached hcache hverify
    refine ⟨[sig], List.Sublist.refl _, hthreshold, List.nodup_singleton _, ?_⟩
    rintro sig' hmem
    cases List.mem_singleton.mp hmem
    exact ⟨hgenuine, hused.lt_of_mem hnonce⟩

end Runs

/-! ## A concrete run -/

/-- Two signers, and a threshold. -/
def two_signers (threshold : U32) : List Invocation :=
  [(mock_all_auths 1, .initialize_contract (test_address 0)),
    (mock_all_auths 1, .register_signer (test_address 0) (str "a") zero32),
    (mock_all_auths 1, .register_signer (test_address 0) (str "bb") zero32),
    (mock_all_auths 1, .set_signature_threshold (test_address 0) threshold)]

/-- The signature of the first signer on the message of one byte. -/
def first_signature : SignerSignature :=
  { signer_id := str "a"
    signature := digest_signature (lengthHost.sha256 (signed_data [1] (str "a") zero32 1 0))
    nonce := 1
    expiry := 0 }

/-- No signature of the second signer, with a nonce that no signer could use. -/
def forged_signature : SignerSignature :=
  { signer_id := str "bb", signature := Vector.replicate 64 0, nonce := 0, expiry := 0 }

theorem quorum_of_checks_single :
    @Quorum lengthHost (mock_all_auths 2) (@run lengthHost empty_storage (two_signers 1))
      (@accepted lengthHost empty_storage (two_signers 1)) [1] [first_signature] := by
  let _ : Host := lengthHost
  obtain ⟨s₁, hreturns⟩ := exists_of_returned (α := Bool)
    (r := verify_multi_sig [1] [first_signature] (mock_all_auths 2)
      (run empty_storage (two_signers 1))) (a := true) (by decide +kernel)
  have hchecks : Along exec ChecksSignatures empty_storage
      (two_signers 1 ++ [(mock_all_auths 2, .verify_multi_sig [1] [first_signature])]) := by
    refine ⟨nofun, nofun, nofun, nofun, ?_, trivial⟩
    rintro message signatures hcall
    cases hcall
    exact ⟨by unfold Uncached; decide +kernel, by decide⟩
  exact (quorum_of_checks hchecks).1 _ _ [] rfl _ _ s₁ (.direct _ _) hreturns

/-- **A forged quorum.** With a threshold of two, one signature and a forgery are enough. -/
theorem forged_quorum :
    ∃ (_ : Host) (calls : List Invocation) (env : Env) (message : Buffer)
      (signatures : List SignerSignature) (s₁ : Storage),
      Host.sha256.CollisionFree
          (message :: signatures.map fun sig =>
            signed_data message sig.signer_id zero32 sig.nonce sig.expiry) ∧
        verify_multi_sig message signatures env (run empty_storage calls) = .ok (true, s₁) ∧
        ¬Quorum env (run empty_storage calls) (accepted empty_storage calls) message signatures := by
  let _ : Host := lengthHost
  obtain ⟨s₁, hreturns⟩ := exists_of_returned (α := Bool)
    (r := verify_multi_sig [1] [first_signature, forged_signature] (mock_all_auths 2)
      (run empty_storage (two_signers 2))) (a := true) (by decide +kernel)
  refine ⟨lengthHost, two_signers 2, mock_all_auths 2, [1], [first_signature, forged_signature], s₁,
    by decide +kernel, hreturns, ?_⟩
  rintro ⟨quorum, hsub, hthreshold, -, hquorum⟩
  -- the quorum is the whole list, so the forgery would be genuine
  have htwo : ((run empty_storage (two_signers 2)) .SIGNATURE_THRESHOLD).getD 1 = 2 := by
    decide +kernel
  rw [htwo] at hthreshold
  have hall : quorum = [first_signature, forged_signature] := hsub.eq_of_length_le hthreshold
  obtain ⟨signer, hsigner, -, hdigest⟩ := (hquorum forged_signature (by simp [hall])).1.digest
  have hregistered : (run empty_storage (two_signers 2)) (.Signer forged_signature.signer_id) =
      some { public_key := zero32, active := true, registered_at := 1 } := by
    decide +kernel
  cases Option.some.inj (hsigner.symm.trans hregistered)
  exact absurd hdigest (by decide +kernel)

end BridgeWatch.Contract

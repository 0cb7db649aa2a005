/-
The treasury's quorum.

`SignerCount` caches how many addresses are stored as signers, and `add_signer`, `remove_signer` and
`update_threshold` keep it right and the threshold between one and it. `initialize` does not establish
this: it counts a repeated signer twice, and it takes a threshold of zero. And nothing compares the
emergency threshold with the signers, so that an emergency transaction can ask for more signatures than
there are signers.
-/
import Mathlib.Data.Set.Card
import BridgeWatch.TreasuryTransactions

set_option autoImplicit false

namespace BridgeWatch.Treasury

open Transaction
open Contract (U32 U64 I128 SString Address Env len str)

/-- The addresses that are stored as signers. -/
def registered (s : TreasuryStorage) : Set Address := {a | (s (.Signer a)).isSome = true}

/-- The cached count is that of the stored signers, and they can reach the threshold, which is positive. -/
def QuorumReachable (s : TreasuryStorage) : Prop :=
  ∃ config count, s .Config = some config ∧ s .SignerCount = some count ∧
    (registered s).encard = count.toNat ∧ 1 ≤ config.threshold ∧ config.threshold ≤ count

/-- An emergency transaction asks for no more signatures than there are signers. -/
def emergency_reachable (s : TreasuryStorage) : Bool :=
  match s .Config, s .SignerCount with
  | some config, some count => !config.require_emergency_approval || config.emergency_threshold ≤ count
  | _, _ => false

/-- The call changes the signers or the threshold or proposes a transaction. -/
def concerns_quorum : EntryPoint → Bool
  | .add_signer .. => true
  | .remove_signer _ => true
  | .update_threshold _ => true
  | .propose_transaction .. => true
  | _ => false

def is_emergency_proposal : EntryPoint → Bool
  | .propose_transaction _ _ _ _ _ is_emergency => is_emergency
  | _ => false

/-- The call concerns the quorum, and no emergency is proposed while its threshold is out of reach. -/
def WithinReach (s : TreasuryStorage) (call : Env × EntryPoint) : Prop :=
  concerns_quorum call.2 = true ∧ (is_emergency_proposal call.2 = true → emergency_reachable s = true)

instance (s : TreasuryStorage) (call : Env × EntryPoint) : Decidable (WithinReach s call) :=
  inferInstanceAs (Decidable (_ ∧ _))

/-! ## The set-up -/

section SetUp

variable {env : Env} {s s' : TreasuryStorage} {u : Unit}

theorem registered_insert {a : Address} {d : SignerData}
    (hsigner : ∀ b, s' (.Signer b) = Function.update s (.Signer a) (some d) (.Signer b)) :
    registered s' = insert a (registered s) := by
  ext b
  simp only [registered, Set.mem_ofPred_eq, Set.mem_insert_iff, hsigner]
  by_cases hb : b = a
  · rw [hb, Function.update_self]
    simp
  · rw [Function.update_of_ne (by simpa using hb)]
    simp [hb]

theorem registered_congr (h : ∀ b, s' (.Signer b) = s (.Signer b)) : registered s' = registered s := by
  ext b
  simp only [registered, Set.mem_ofPred_eq, h]

theorem registered_add_initial_signers {entries : List (Address × Role)}
    (h : entries.forM add_initial_signer env s = .ok (u, s')) :
    registered s' = registered s ∪ {a | a ∈ entries.map Prod.fst} := by
  induction entries generalizing s with
  | nil =>
      rw [List.forM_eq_forM, List.forM_nil, pure_eq_ok] at h
      rw [h.2]
      simp
  | cons entry _ ih =>
      rw [List.forM_eq_forM, List.forM_cons] at h
      simp only [add_initial_signer, bind_eq_ok, reads_eq_ok, save_eq_ok, and_assoc, exists_and_left,
        exists_eq_left, exists_const] at h
      rw [ih h, registered_insert (s := s) (a := entry.1)
        (d := { address := entry.1, role := entry.2, weight := 1, is_active := true, added_at := env.timestamp })]
      · ext b
        simp only [Set.mem_union, Set.mem_insert_iff, Set.mem_ofPred_eq, List.map_cons, List.mem_cons]
        tauto
      · intro b
        rw [Function.update_of_ne (by simp)]

/-- What the set-up stores about the quorum. -/
theorem initialize_treasury_quorum {admin : Address} {config : MultiSigConfig} {signers : List Address}
    {roles : List Role} (hfits : signers.length < 2 ^ 32) (hroles : roles.length < 2 ^ 32)
    (h : initialize_treasury admin config signers roles env s = .ok ((), s')) :
    s' .Config = some config ∧ s' .SignerCount = some (len signers) ∧ config.threshold ≤ len signers ∧
      registered s' = registered s ∪ {a | a ∈ signers} := by
  simp only [initialize_treasury, bind_eq_ok, require_auth_eq_ok, panic_if_eq_ok, save_eq_ok, and_assoc,
    exists_and_left, exists_eq_left, exists_const] at h
  obtain ⟨-, hlength, hmeets, _, s₁, hsigners, rfl⟩ := h
  have hsame : signers.length = roles.length := by
    have hlen := congrArg UInt32.toNat (not_not.mp hlength)
    rwa [len, len, UInt32.toNat_ofNat', UInt32.toNat_ofNat', Nat.mod_eq_of_lt hfits,
      Nat.mod_eq_of_lt hroles] at hlen
  refine ⟨?_, ?_, UInt32.not_lt.mp hmeets, ?_⟩
  · rw [Function.update_of_ne (by simp), add_initial_signers_frame hsigners (by simp) (by simp)]
    simp
  · rw [Function.update_self]
  · rw [registered_congr (s := s₁) fun b => Function.update_of_ne (by simp) _ _,
      registered_add_initial_signers hsigners, List.map_fst_zip hsame.le]
    rw [registered_congr (s := s) fun b => by simp]

end SetUp

/-! ## What a proposal asks for -/

section Calls

variable [NativeAsset] {env : Env} {s s' : TreasuryStorage} {call : EntryPoint} {id : U64}

theorem propose_transaction_quorum {creator destination asset : Address} {amount : I128} {description : SString}
    {is_emergency : Bool}
    (h : propose_transaction creator destination amount asset description is_emergency env s = .ok (id, s')) :
    ∃ config t, s .Config = some config ∧ s' (.Transaction id) = some t ∧
      t.required_signatures = (if is_emergency && config.require_emergency_approval then config.emergency_threshold
        else config.threshold) ∧
      s' .Config = s .Config ∧ s' .SignerCount = s .SignerCount ∧ ∀ a, s' (.Signer a) = s (.Signer a) := by
  simp only [propose_transaction, bind_eq_ok, require_auth_eq_ok, load_eq_ok, panic_if_eq_ok, expect_eq_ok,
    reads_eq_ok, add_u64_eq_ok, save_eq_ok, pure_eq_ok, and_assoc, exists_and_left, exists_eq_left,
    exists_const] at h
  obtain ⟨-, -, config, hconfig, count, -, -, -, nonce, -, -, -, _, s₁, hsign, _, _, hlog, rfl, rfl⟩ := h
  obtain ⟨t, ht, -, -, ht', hframe⟩ := sign_transaction_internal_spec hsign
  rw [Function.update_self, Option.some.injEq] at ht
  -- The creator's signature and the log leave alone what the quorum rests on.
  have hkept : ∀ key, (∀ i, key ≠ .Transaction i) → (∀ i, key ≠ .TransactionHistory i) → key ≠ .Nonce →
      key ≠ .TransactionCount → s' key = s key := by
    intro key htransaction hhistory hnonce hcount
    rw [log_transaction_action_frame hlog (hhistory _), hframe key (htransaction _) (hhistory _),
      Function.update_of_ne (htransaction _), Function.update_of_ne hcount, Function.update_of_ne hnonce]
  refine ⟨config, signed t creator, hconfig, ?_, ?_, ?_, ?_, ?_⟩
  · rw [log_transaction_action_frame hlog (by simp), ht']
  · rw [← ht]
    rfl
  all_goals intros; apply hkept <;> simp

/-- **One step.** A call that concerns the quorum keeps it reachable. -/
theorem quorum_step (hs : QuorumReachable s) (hcall : concerns_quorum call = true)
    (h : exec call env s = .ok ((), s')) : QuorumReachable s' := by
  obtain ⟨config, count, hconfig, hcount, hcard, hpositive, hreach⟩ := hs
  cases call with
  | propose_transaction =>
      rw [exec, bind_eq_ok] at h
      obtain ⟨id, s₁, hpropose, hpure⟩ := h
      obtain ⟨-, -, -, -, -, hconfig', hcount', hsigner⟩ := propose_transaction_quorum hpropose
      rw [(pure_eq_ok.mp hpure).2]
      refine ⟨config, count, by rw [hconfig', hconfig], by rw [hcount', hcount], ?_, hpositive, hreach⟩
      rw [registered_congr hsigner, hcard]
  | add_signer new_signer role =>
      simp only [exec, add_signer, bind_eq_ok, require_admin_eq_ok, load_eq_ok, expect_eq_ok, reads_eq_ok,
        panic_if_eq_ok, save_eq_ok, and_assoc, exists_and_left, exists_eq_left, exists_const, hcount,
        Option.some.injEq] at h
      obtain ⟨-, hnew, count', rfl, hroom, rfl⟩ := h
      -- The maximum keeps the count far below where it would wrap.
      have hroom' : count.toNat < 100 := by simpa [MAX_SIGNERS, UInt32.lt_iff_toNat_lt] using hroom
      have hnext : (count + 1).toNat = count.toNat + 1 := by
        rw [UInt32.toNat_add, show UInt32.toNat 1 = 1 from rfl]
        omega
      refine ⟨config, count + 1, by simpa using hconfig, by simp, ?_, hpositive, ?_⟩
      · rw [registered_insert (s := s) (a := new_signer)
          (d := { address := new_signer, role, weight := 1, is_active := true, added_at := env.timestamp })]
        · rw [Set.encard_insert_of_notMem (by simpa [registered] using hnew), hcard, hnext]
          simp
        · intro b
          rw [Function.update_of_ne (by simp), Function.update_of_ne (by simp)]
      · rw [UInt32.le_iff_toNat_le] at hreach ⊢
        omega
  | remove_signer signer =>
      simp only [exec, remove_signer, bind_eq_ok, require_admin_eq_ok, load_eq_ok, expect_eq_ok, pred_u32_eq_ok,
        panic_if_eq_ok, save_eq_ok, remove_eq_ok, and_assoc, exists_and_left, exists_eq_left, exists_const, hconfig,
        hcount, Option.some.injEq] at h
      obtain ⟨-, hstored, config', rfl, count', rfl, hnonzero, hkeeps, rfl⟩ := h
      have hmem : signer ∈ registered s := by
        simpa [registered, Option.isSome_iff_ne_none] using hstored
      have hprev : (count - 1).toNat + 1 = count.toNat := by
        have hpos : count.toNat ≠ 0 := fun hzero => hnonzero (UInt32.toNat_inj.mp hzero)
        rw [UInt32.toNat_sub_of_le _ _ (by rw [UInt32.le_iff_toNat_le]; exact Nat.one_le_iff_ne_zero.mpr hpos)]
        exact Nat.sub_add_cancel (Nat.one_le_iff_ne_zero.mpr hpos)
      refine ⟨config, count - 1, by simpa using hconfig, by simp, ?_, hpositive, UInt32.not_lt.mp hkeeps⟩
      have hless : registered (Function.update (Function.update (Function.update s (.Signer signer) none)
          (.Role signer) none) .SignerCount (some (count - 1))) = registered s \ {signer} := by
        ext b
        simp only [registered, Set.mem_ofPred_eq, Set.mem_sdiff, Set.mem_singleton_iff]
        rw [Function.update_of_ne (by simp), Function.update_of_ne (by simp)]
        by_cases hb : b = signer
        · rw [hb, Function.update_self]
          simp
        · rw [Function.update_of_ne (by simpa using hb)]
          simp [hb]
      have hadd := Set.encard_sdiff_singleton_add_one hmem
      rw [hcard, ← hprev, Nat.cast_add, Nat.cast_one] at hadd
      rw [hless]
      exact ENat.add_left_injective_of_ne_top ENat.one_ne_top hadd
  | update_threshold new_threshold =>
      simp only [exec, update_threshold, bind_eq_ok, require_admin_eq_ok, load_eq_ok, expect_eq_ok, panic_if_eq_ok,
        save_eq_ok, and_assoc, exists_and_left, exists_eq_left, exists_const, hconfig, hcount,
        Option.some.injEq] at h
      obtain ⟨-, count', rfl, hmax, hzero, config', rfl, rfl⟩ := h
      refine ⟨{ config with threshold := new_threshold }, count, by simp, by simpa using hcount, ?_, ?_,
        UInt32.not_lt.mp hmax⟩
      · rw [registered_congr fun b => Function.update_of_ne (by simp) _ _, hcard]
      · rw [UInt32.le_iff_toNat_le]
        exact Nat.one_le_iff_ne_zero.mpr fun heq => hzero (UInt32.toNat_inj.mp heq)
  | _ => cases hcall

end Calls

/-! ## Runs -/

section Runs

variable [NativeAsset] {env : Env} {s : TreasuryStorage} {calls : List (Env × EntryPoint)}

/-- **The quorum stays reachable.** After a set-up with distinct signers and a positive threshold, the count
is that of the stored signers, the threshold is within it, and a transaction asks for no more signatures
than there are signers when it is proposed. -/
theorem quorum_stays_reachable {admin : Address} {config : MultiSigConfig} {signers : List Address}
    {roles : List Role}
    (hinit : exec (.initialize_treasury admin config signers roles) env empty_storage = .ok ((), s))
    (hfits : signers.length < 2 ^ 32) (hroles : roles.length < 2 ^ 32)
    (hdistinct : signers.Nodup) (hpositive : 1 ≤ config.threshold) (hcalls : Along exec WithinReach s calls) :
    QuorumReachable (run s calls) ∧
      ∀ earlier later env creator destination amount asset description is_emergency id s',
        calls = earlier ++
          (env, .propose_transaction creator destination amount asset description is_emergency) :: later →
        propose_transaction creator destination amount asset description is_emergency env (run s earlier) =
          .ok (id, s') →
        ∃ t, s' (.Transaction id) = some t ∧ t.required_signatures.toNat ≤ (registered (run s earlier)).encard := by
  obtain ⟨hconfig, hcount, hmeets, hregistered⟩ := initialize_treasury_quorum hfits hroles hinit
  have hstart : QuorumReachable s := by
    refine ⟨config, len signers, hconfig, hcount, ?_, hpositive, hmeets⟩
    have hnone : registered empty_storage = ∅ := by
      ext a
      simp [registered, empty_storage]
    rw [hregistered, hnone, Set.empty_union, len, UInt32.toNat_ofNat', Nat.mod_eq_of_lt hfits,
      ← List.toFinset_card_of_nodup hdistinct, ← Set.encard_coe_eq_coe_finsetCard, List.coe_toFinset]
  have hreached : ∀ {calls}, Along exec WithinReach s calls → QuorumReachable (run s calls) :=
    fun hcalls => run_invariant (fun hs hcall h => quorum_step hs hcall.1 h) hstart hcalls
  refine ⟨hreached hcalls, ?_⟩
  intro earlier later env creator destination amount asset description is_emergency id s' heq hpropose
  rw [heq, Along.append] at hcalls
  obtain ⟨hearlier, ⟨-, hemergency⟩, -⟩ := hcalls
  obtain ⟨config₁, count, hconfig₁, hcount₁, hcard, -, hreach⟩ := hreached hearlier
  obtain ⟨config₂, t, hconfig₂, ht, hrequired, -⟩ := propose_transaction_quorum hpropose
  rw [hconfig₁, Option.some.injEq] at hconfig₂
  refine ⟨t, ht, ?_⟩
  rw [hcard, hrequired, ← hconfig₂, Nat.cast_le, ← UInt32.le_iff_toNat_le]
  by_cases hguarded : (is_emergency && config₁.require_emergency_approval) = true
  · rw [if_pos hguarded]
    rw [Bool.and_eq_true] at hguarded
    have hsuffices := hemergency hguarded.1
    simpa [emergency_reachable, hconfig₁, hcount₁, hguarded.2] using hsuffices
  · rw [if_neg hguarded]
    exact hreach

end Runs

/-- The two signers propose an emergency transfer, after a third one was added. -/
def guarded : List (Env × EntryPoint) :=
  [(signed_at 1000, .add_signer (party 3) .Guardian), (signed_at 2000, .update_threshold 3),
    (signed_at 3000, .propose_transaction (party 1) (party 8) 100 (party 7) (str "grant") true)]

theorem quorum_stays_reachable_guarded :
    @exec native_party set_up (signed_at 0) empty_storage = .ok ((), opened) ∧
      QuorumReachable (@run native_party opened guarded) := by
  have hcalls : Along (@exec native_party) WithinReach opened guarded := by decide +kernel
  exact ⟨set_up_succeeds, (@quorum_stays_reachable native_party _ _ _ _ _ _ _ set_up_succeeds (by decide)
    (by decide) (by decide) (by decide) hcalls).1⟩

/-- The set-up with one signer that is listed twice. -/
def doubled : EntryPoint :=
  .initialize_treasury (party 0) ⟨2, 2, 3600, 10, true⟩ [party 1, party 1] [.Admin, .Operator]

/-- A repeated signer is counted twice, and the threshold of two is out of reach. -/
theorem repeated_signer_breaks_quorum :
    ¬ ∀ (_ : NativeAsset) (env : Env) (admin : Address) (config : MultiSigConfig) (signers : List Address)
        (roles : List Role) (s : TreasuryStorage) (calls : List (Env × EntryPoint)),
      exec (.initialize_treasury admin config signers roles) env empty_storage = .ok ((), s) →
      (∀ call ∈ calls, concerns_quorum call.2 = true) → QuorumReachable (run s calls) := by
  intro h
  rcases step_cases (@exec native_party) empty_storage (signed_at 0, doubled) with hok | ⟨⟨msg, herror⟩, -⟩
  · obtain ⟨config, count, hconfig, hcount, hcard, hpositive, hreach⟩ := h native_party _ _ _ _ _ _ [] hok
      (fun call hcall => absurd hcall List.not_mem_nil)
    obtain ⟨-, hcount', -, hregistered⟩ := initialize_treasury_quorum (by decide) (by decide) hok
    have hone : registered (step (@exec native_party) (signed_at 0, doubled) empty_storage) = {party 1} := by
      rw [hregistered]
      ext a
      simp [registered, empty_storage]
    have htwo : count = 2 := Option.some.inj (hcount.symm.trans hcount')
    have hcard' : Set.encard {party 1} = count.toNat := hone ▸ hcard
    rw [Set.encard_singleton, htwo] at hcard'
    exact absurd hcard' (by decide)
  · have hsucceeds : (@exec native_party doubled (signed_at 0) empty_storage).isOk = true := by decide +kernel
    rw [show @exec native_party doubled (signed_at 0) empty_storage = _ from herror] at hsucceeds
    cases hsucceeds

end BridgeWatch.Treasury

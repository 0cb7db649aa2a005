/-
What becomes of treasury transactions.

A signature that makes a transaction complete sets its status to `Approved`, whatever the status was, and
only a `Pending` transaction can be executed. So no transaction is ever executed: while it is pending it
has too few signatures. And a cancelled transaction does not stay cancelled when its signers go on
signing.
-/
import BridgeWatch.TreasuryContract

set_option autoImplicit false

namespace BridgeWatch.Treasury

open Transaction
open Contract (U32 U64 I128 SString Address Env len str)

/-! ## What the internal functions do -/

section Inversion

variable {env : Env} {s s' : TreasuryStorage} {u : Unit} {address signer : Address} {id : U64}
variable {t : TreasuryTransaction}

@[simp] theorem require_auth_eq_ok :
    require_auth address env s = .ok (u, s') ↔ env.auth address = true ∧ s' = s := by
  simp only [require_auth, bind_eq_ok, reads_eq_ok, panic_if_eq_ok, Bool.not_eq_false, and_assoc,
    exists_and_left, exists_eq_left]

@[simp] theorem require_admin_eq_ok :
    require_admin env s = .ok (u, s') ↔ (∃ admin, s .Admin = some admin ∧ env.auth admin = true) ∧ s' = s := by
  simp only [require_admin, bind_eq_ok, load_eq_ok, expect_eq_ok, require_auth_eq_ok, and_assoc, exists_and_left,
    exists_eq_left]
  simp only [← and_assoc, exists_and_right]

@[simp] theorem add_u64_eq_ok {x y z : U64} :
    add_u64 x y env s = .ok (z, s') ↔ x.toNat + y.toNat < 2 ^ 64 ∧ z = x + y ∧ s' = s := by
  simp only [add_u64, bind_eq_ok, panic_if_eq_ok, pure_eq_ok, not_le, and_assoc, exists_and_left, exists_eq_left,
    exists_const]

@[simp] theorem pred_u32_eq_ok {x y : U32} :
    pred_u32 x env s = .ok (y, s') ↔ x ≠ 0 ∧ y = x - 1 ∧ s' = s := by
  simp only [pred_u32, bind_eq_ok, panic_if_eq_ok, pure_eq_ok, and_assoc, exists_and_left, exists_eq_left,
    exists_const, ne_eq]

@[simp] theorem push_back_eq_ok {α : Type} {values values' : List α} {value : α} :
    push_back values value env s = .ok (values', s') ↔
      values.length + 1 < 2 ^ 32 ∧ values' = values ++ [value] ∧ s' = s := by
  simp only [push_back, bind_eq_ok, panic_if_eq_ok, pure_eq_ok, not_le, and_assoc, exists_and_left, exists_eq_left,
    exists_const]

@[simp] theorem known_transaction_eq_ok :
    known_transaction id env s = .ok (t, s') ↔ s (.Transaction id) = some t ∧ s' = s := by
  simp only [known_transaction, bind_eq_ok, load_eq_ok, expect_eq_ok, and_assoc, exists_and_left, exists_eq_left]

theorem log_transaction_action_frame {action details : SString} {actor : Address}
    (h : log_transaction_action id action actor details env s = .ok (u, s')) {key : DataKey}
    (hkey : key ≠ .TransactionHistory id) : s' key = s key := by
  simp only [log_transaction_action, bind_eq_ok, reads_eq_ok, load_eq_ok, push_back_eq_ok, save_eq_ok, and_assoc,
    exists_and_left, exists_eq_left] at h
  obtain ⟨-, rfl⟩ := h
  rw [Function.update_of_ne hkey]

/-- The record of a transaction with one more signature. -/
def signed (t : TreasuryTransaction) (signer : Address) : TreasuryTransaction :=
  { t with
    signers := t.signers ++ [signer]
    current_signatures := len (t.signers ++ [signer])
    status := if len (t.signers ++ [signer]) ≥ t.required_signatures then .Approved else t.status }

theorem sign_transaction_internal_spec (h : sign_transaction_internal id signer env s = .ok (u, s')) :
    ∃ t, s (.Transaction id) = some t ∧ signer ∉ t.signers ∧ t.signers.length + 1 < 2 ^ 32 ∧
      s' (.Transaction id) = some (signed t signer) ∧
      ∀ key, key ≠ .Transaction id → key ≠ .TransactionHistory id → s' key = s key := by
  simp only [sign_transaction_internal, bind_eq_ok, known_transaction_eq_ok, panic_if_eq_ok, push_back_eq_ok,
    save_eq_ok, and_assoc, exists_and_left, exists_eq_left, exists_const] at h
  obtain ⟨t, ht, hnew, hfits, hlog⟩ := h
  refine ⟨t, ht, hnew, hfits, ?_, ?_⟩
  · rw [log_transaction_action_frame hlog (by simp), Function.update_self]
    rfl
  · intro key htransaction hhistory
    rw [log_transaction_action_frame hlog hhistory, Function.update_of_ne htransaction]

theorem add_initial_signers_frame {entries : List (Address × Role)}
    (h : entries.forM add_initial_signer env s = .ok (u, s')) {key : DataKey}
    (hsigner : ∀ a, key ≠ .Signer a) (hrole : ∀ a, key ≠ .Role a) : s' key = s key := by
  induction entries generalizing s with
  | nil =>
      rw [List.forM_eq_forM, List.forM_nil, pure_eq_ok] at h
      rw [h.2]
  | cons _ _ ih =>
      rw [List.forM_eq_forM, List.forM_cons] at h
      simp only [add_initial_signer, bind_eq_ok, reads_eq_ok, save_eq_ok, and_assoc, exists_and_left,
        exists_eq_left, exists_const] at h
      rw [ih h, Function.update_of_ne (hrole _), Function.update_of_ne (hsigner _)]

end Inversion

/-! ## What a call does -/

/-- The call's signature is one that the treasury takes for `t`. -/
def CountsSignature (env : Env) (s : TreasuryStorage) (t : TreasuryTransaction) (signer : Address) : Prop :=
  env.auth signer = true ∧ (s (.Signer signer)).any SignerData.is_active = true ∧ signer ∉ t.signers

instance (env : Env) (s : TreasuryStorage) (t : TreasuryTransaction) (signer : Address) :
    Decidable (CountsSignature env s t signer) :=
  inferInstanceAs (Decidable (_ ∧ _ ∧ _))

/-- What a successful call can do to the record of a transaction. -/
inductive Change (env : Env) (s : TreasuryStorage) (id : U64) (t : TreasuryTransaction) :
    EntryPoint → TreasuryTransaction → Prop
  | sign {signer : Address} (hcounts : CountsSignature env s t signer) (hfits : t.signers.length + 1 < 2 ^ 32) :
      Change env s id t (.sign_transaction id signer) (signed t signer)
  | execute {executor : Address} (hpending : t.status = .Pending)
      (hsigned : t.required_signatures ≤ t.current_signatures) :
      Change env s id t (.execute_transaction id executor)
        { t with status := .Executed, executed_at := env.timestamp }
  | cancel {canceller : Address} (hpending : t.status = .Pending) :
      Change env s id t (.cancel_transaction id canceller) { t with status := .Cancelled }

/-- What a successful call can do to the transactions and the counter of their numbers. -/
inductive Outcome (env : Env) (s : TreasuryStorage) : EntryPoint → TreasuryStorage → Prop
  | untouched {call : EntryPoint} {s' : TreasuryStorage}
      (hsame : ∀ id, s' (.Transaction id) = s (.Transaction id)) (hnonce : s' .Nonce = s .Nonce) :
      Outcome env s call s'
  | restarted {admin : Address} {config : MultiSigConfig} {signers : List Address} {roles : List Role}
      {s' : TreasuryStorage} (hsame : ∀ id, s' (.Transaction id) = s (.Transaction id))
      (hnonce : s' .Nonce = some 0) : Outcome env s (.initialize_treasury admin config signers roles) s'
  | proposed {call : EntryPoint} {s' : TreasuryStorage} {nonce : U64} {t : TreasuryTransaction}
      {creator : Address} (hnonce : s .Nonce = some nonce) (hfits : nonce.toNat + 1 < 2 ^ 64) (hpending : t.status = .Pending)
      (hnone : t.signers = []) (ht : s' (.Transaction (nonce + 1)) = some (signed t creator))
      (hother : ∀ id, id ≠ nonce + 1 → s' (.Transaction id) = s (.Transaction id))
      (hnext : s' .Nonce = some (nonce + 1)) : Outcome env s call s'
  | changed {call : EntryPoint} {s' : TreasuryStorage} {id : U64} {t t' : TreasuryTransaction}
      (ht : s (.Transaction id) = some t) (hchange : Change env s id t call t')
      (ht' : s' (.Transaction id) = some t')
      (hother : ∀ id', id' ≠ id → s' (.Transaction id') = s (.Transaction id'))
      (hnonce : s' .Nonce = s .Nonce) : Outcome env s call s'

section Outcomes

variable {env : Env} {s s' : TreasuryStorage} {call : EntryPoint}

theorem initialize_treasury_spec {admin : Address} {config : MultiSigConfig} {signers : List Address}
    {roles : List Role} (h : initialize_treasury admin config signers roles env s = .ok ((), s')) :
    (∀ id, s' (.Transaction id) = s (.Transaction id)) ∧ s' .Nonce = some 0 := by
  simp only [initialize_treasury, bind_eq_ok, require_auth_eq_ok, panic_if_eq_ok, save_eq_ok, and_assoc,
    exists_and_left, exists_eq_left, exists_const] at h
  obtain ⟨-, -, -, _, s₁, hsigners, rfl⟩ := h
  constructor
  · intro id
    rw [Function.update_of_ne (by simp), add_initial_signers_frame hsigners (by simp) (by simp)]
    simp
  · rw [Function.update_of_ne (by simp), add_initial_signers_frame hsigners (by simp) (by simp)]
    simp

theorem outcome_of_propose {creator destination : Address} {amount : I128} {asset : Address}
    {description : SString} {is_emergency : Bool} {id : U64}
    (h : propose_transaction creator destination amount asset description is_emergency env s = .ok (id, s')) :
    Outcome env s (.propose_transaction creator destination amount asset description is_emergency) s' := by
  simp only [propose_transaction, bind_eq_ok, require_auth_eq_ok, load_eq_ok, panic_if_eq_ok, expect_eq_ok,
    reads_eq_ok, add_u64_eq_ok, save_eq_ok, pure_eq_ok, and_assoc, exists_and_left, exists_eq_left,
    exists_const] at h
  obtain ⟨-, -, config, -, count, -, -, -, nonce, hnonce, hfits, -, _, s₁, hsign, _, _, hlog, -, rfl⟩ := h
  obtain ⟨t, ht, -, -, ht', hframe⟩ := sign_transaction_internal_spec hsign
  rw [Function.update_self, Option.some.injEq] at ht
  have hsame : ∀ key, key ≠ .TransactionHistory (nonce + 1) → s' key = s₁ key := by
    intro key hkey
    exact log_transaction_action_frame hlog hkey
  apply Outcome.proposed (t := t) hnonce hfits (by rw [← ht]) (by rw [← ht])
  · rw [hsame _ (by simp), ht']
  · intro id' hid'
    rw [hsame _ (by simp), hframe _ (by simpa using hid') (by simp), Function.update_of_ne (by simpa using hid')]
    simp
  · rw [hsame _ (by simp), hframe _ (by simp) (by simp)]
    simp

/-- **What a successful call does.** -/
theorem outcome_of_exec [NativeAsset] (h : exec call env s = .ok ((), s')) : Outcome env s call s' := by
  cases call with
  | initialize_treasury =>
      obtain ⟨hsame, hnonce⟩ := initialize_treasury_spec h
      exact .restarted hsame hnonce
  | propose_transaction =>
      rw [exec, bind_eq_ok] at h
      obtain ⟨id, s₁, hpropose, hpure⟩ := h
      rw [pure_eq_ok] at hpure
      rw [hpure.2]
      exact outcome_of_propose hpropose
  | sign_transaction =>
      simp only [exec, sign_transaction, bind_eq_ok, require_auth_eq_ok, load_eq_ok, expect_eq_ok, panic_if_eq_ok,
        and_assoc, exists_and_left, exists_eq_left, exists_const] at h
      obtain ⟨hauth, data, hdata, hactive, hsign⟩ := h
      obtain ⟨t, ht, hnew, hfits, ht', hframe⟩ := sign_transaction_internal_spec hsign
      apply Outcome.changed ht (.sign ⟨hauth, by rw [hdata]; simpa using hactive, hnew⟩ hfits) ht'
      · intro id' hid'
        exact hframe _ (by simpa using hid') (by simp)
      · exact hframe _ (by simp) (by simp)
  | execute_transaction =>
      simp only [exec, execute_transaction, bind_eq_ok, require_auth_eq_ok, known_transaction_eq_ok, load_eq_ok,
        reads_eq_ok, panic_if_eq_ok, save_eq_ok, and_assoc, exists_and_left, exists_eq_left, exists_const] at h
      obtain ⟨-, t, ht, hpending, hsigned, -, -, hlog⟩ := h
      apply Outcome.changed ht (.execute (not_not.mp hpending) (UInt32.not_lt.mp hsigned))
      · rw [log_transaction_action_frame hlog (by simp), Function.update_self]
      · intro id' hid'
        rw [log_transaction_action_frame hlog (by simp), Function.update_of_ne (by simpa using hid')]
      · rw [log_transaction_action_frame hlog (by simp), Function.update_of_ne (by simp)]
  | cancel_transaction =>
      simp only [exec, cancel_transaction, bind_eq_ok, require_auth_eq_ok, known_transaction_eq_ok, load_eq_ok,
        expect_eq_ok, panic_if_eq_ok, save_eq_ok, and_assoc, exists_and_left, exists_eq_left, exists_const] at h
      obtain ⟨-, t, ht, hpending, admin, -, -, hlog⟩ := h
      apply Outcome.changed ht (.cancel (not_not.mp hpending))
      · rw [log_transaction_action_frame hlog (by simp), Function.update_self]
      · intro id' hid'
        rw [log_transaction_action_frame hlog (by simp), Function.update_of_ne (by simpa using hid')]
      · rw [log_transaction_action_frame hlog (by simp), Function.update_of_ne (by simp)]
  | add_signer =>
      simp only [exec, add_signer, bind_eq_ok, require_admin_eq_ok, load_eq_ok, expect_eq_ok, reads_eq_ok,
        panic_if_eq_ok, save_eq_ok, and_assoc, exists_and_left, exists_eq_left, exists_const] at h
      obtain ⟨-, -, count, -, -, rfl⟩ := h
      exact .untouched (by simp) (by simp)
  | remove_signer =>
      simp only [exec, remove_signer, bind_eq_ok, require_admin_eq_ok, load_eq_ok, expect_eq_ok, pred_u32_eq_ok,
        panic_if_eq_ok, save_eq_ok, remove_eq_ok, and_assoc, exists_and_left, exists_eq_left, exists_const] at h
      obtain ⟨-, -, config, -, count, -, -, -, rfl⟩ := h
      exact .untouched (by simp) (by simp)
  | update_threshold =>
      simp only [exec, update_threshold, bind_eq_ok, require_admin_eq_ok, load_eq_ok, expect_eq_ok, panic_if_eq_ok,
        save_eq_ok, and_assoc, exists_and_left, exists_eq_left, exists_const] at h
      obtain ⟨-, count, -, -, -, config, -, rfl⟩ := h
      exact .untouched (by simp) (by simp)
  | whitelist_asset =>
      simp only [exec, whitelist_asset, bind_eq_ok, require_admin_eq_ok, save_eq_ok, and_assoc, exists_and_left,
        exists_eq_left, exists_const] at h
      obtain ⟨-, rfl⟩ := h
      exact .untouched (by simp) (by simp)
  | remove_whitelisted_asset =>
      simp only [exec, remove_whitelisted_asset, bind_eq_ok, require_admin_eq_ok, remove_eq_ok, and_assoc,
        exists_and_left, exists_eq_left, exists_const] at h
      obtain ⟨-, rfl⟩ := h
      exact .untouched (by simp) (by simp)

end Outcomes

/-! ## No transaction is executed -/

/-- The transactions that are pending lack signatures. -/
def PendingIncomplete (s : TreasuryStorage) : Prop :=
  ∀ id t, s (.Transaction id) = some t → t.status = .Pending → t.current_signatures < t.required_signatures

/-- A transaction that is pending after a signature lacks more of them. -/
theorem signed_incomplete {t : TreasuryTransaction} {signer : Address} (h : (signed t signer).status = .Pending) :
    (signed t signer).current_signatures < (signed t signer).required_signatures := by
  by_cases hcomplete : len (t.signers ++ [signer]) ≥ t.required_signatures
  · have hstatus : (signed t signer).status = .Approved := if_pos hcomplete
    rw [hstatus] at h
    cases h
  · exact UInt32.not_le.mp hcomplete

section Runs

variable [NativeAsset] {env : Env} {s s' : TreasuryStorage} {call : EntryPoint}
variable {calls earlier later : List (Env × EntryPoint)}

/-- What a proposal and every change give a transaction, all have. -/
theorem transactions_step {P : TreasuryTransaction → Prop} (hs : ∀ id t, s (.Transaction id) = some t → P t)
    (hproposed : ∀ t creator, t.signers = [] → P (signed t creator))
    (hchanged : ∀ call id t t', P t → Change env s id t call t' → P t') (h : exec call env s = .ok ((), s')) :
    ∀ id t, s' (.Transaction id) = some t → P t := by
  intro id t ht
  cases outcome_of_exec h with
  | untouched hsame | restarted hsame => exact hs id t (hsame id ▸ ht)
  | @proposed _ _ nonce _ _ _ _ _ hnone ht₀ hother =>
      by_cases hid : id = nonce + 1
      · rw [hid, ht₀, Option.some.injEq] at ht
        exact ht ▸ hproposed _ _ hnone
      · exact hs id t (hother id hid ▸ ht)
  | @changed _ _ id₀ t₀ _ ht₀ hchange ht₁ hother =>
      by_cases hid : id = id₀
      · rw [hid, ht₁, Option.some.injEq] at ht
        exact ht ▸ hchanged call id₀ t₀ _ (hs id₀ t₀ ht₀) hchange
      · exact hs id t (hother id hid ▸ ht)

theorem pendingIncomplete_step (hs : PendingIncomplete s) (h : exec call env s = .ok ((), s')) :
    PendingIncomplete s' := by
  refine transactions_step (P := fun t => t.status = .Pending → t.current_signatures < t.required_signatures) hs
    (fun _ _ _ => signed_incomplete) (fun _ _ _ _ _ hchange => ?_) h
  cases hchange with
  | sign => exact signed_incomplete
  | execute => nofun
  | cancel => nofun

theorem pendingIncomplete_run : PendingIncomplete (run empty_storage calls) :=
  run_invariant (C := fun _ _ => True) (fun hs _ h => pendingIncomplete_step hs h) (fun _ _ h => nomatch h)
    (Along.of_forall fun _ _ _ => trivial)

/-- **No transaction is executed**, in any state that the treasury can be in. -/
theorem never_executed {id : U64} {executor : Address} :
    ¬∃ s', exec (.execute_transaction id executor) env (run empty_storage calls) = .ok ((), s') := by
  rintro ⟨s', h⟩
  simp only [exec, execute_transaction, bind_eq_ok, require_auth_eq_ok, known_transaction_eq_ok, panic_if_eq_ok,
    and_assoc, exists_and_left, exists_eq_left, exists_const] at h
  obtain ⟨-, t, ht, hpending, hsigned, -⟩ := h
  exact hsigned (pendingIncomplete_run id t ht (not_not.mp hpending))

end Runs

/-- An address for a concrete run. -/
def party (n : UInt8) : Address := .account (Vector.replicate 32 n)

/-- A time at which every address has authorised its call. -/
def signed_at (timestamp : U64) : Env := { timestamp, auth := fun _ => true }

/-- The treasury of two signers that both have to sign. -/
def set_up : EntryPoint :=
  .initialize_treasury (party 0) ⟨2, 2, 3600, 10, true⟩ [party 1, party 2] [.Admin, .Operator]

/-- Two signers of two; one proposes a transfer of 100 at time 1000. -/
def proposal : List (Env × EntryPoint) :=
  [(signed_at 0, set_up), (signed_at 0, .whitelist_asset (party 7)),
    (signed_at 1000, .propose_transaction (party 1) (party 8) 100 (party 7) (str "grant") false)]

/-- The second signature approves the transaction, which can then not be executed. -/
theorem approved_not_executed :
    ¬ ∀ (_ : NativeAsset) (calls : List (Env × EntryPoint)) (id : U64) (t : TreasuryTransaction)
        (executor : Address) (env : Env),
      run empty_storage calls (.Transaction id) = some t →
      (∀ call ∈ calls, ∀ who, call.2 ≠ .cancel_transaction id who ∧ call.2 ≠ .execute_transaction id who) →
      t.signers.Nodup → t.required_signatures.toNat ≤ t.signers.length → t.execution_time ≤ env.timestamp →
      run empty_storage calls (.WhitelistedAsset t.asset) = some true → env.auth executor = true →
      ∃ s' t', exec (.execute_transaction id executor) env (run empty_storage calls) = .ok ((), s') ∧
        s' (.Transaction id) = some t' ∧ t'.status = .Executed := by
  intro h
  obtain ⟨s', -, hok, -⟩ := h ⟨party 9⟩ (proposal ++ [(signed_at 2000, .sign_transaction 1 (party 2))]) 1
    { id := 1, creator := party 1, destination := party 8, amount := 100, asset := party 7,
      description := str "grant", status := .Approved, required_signatures := 2, current_signatures := 2,
      signers := [party 1, party 2], time_delay := 0, execution_time := 1000, created_at := 1000,
      executed_at := 0, is_emergency := false }
    (party 1) (signed_at 3000) (by decide +kernel)
    (by
      intro call hcall who
      simp only [proposal, List.cons_append, List.nil_append, List.mem_cons, List.not_mem_nil, or_false] at hcall
      rcases hcall with rfl | rfl | rfl | rfl <;> exact ⟨nofun, nofun⟩)
    (by decide +kernel) (by decide) (by decide) (by decide +kernel) rfl
  exact @never_executed ⟨party 9⟩ _ _ _ _ ⟨s', hok⟩

/-! ## Transactions that are over -/

/-- A transaction that was cancelled or executed. -/
def is_final : TransactionStatus → Bool
  | .Cancelled => true
  | .Executed => true
  | _ => false

/-- The treasury is not set up anew, and no signature completes a transaction that is over. -/
def SparesFinal (s : TreasuryStorage) (call : Env × EntryPoint) : Prop :=
  match call.2 with
  | .initialize_treasury .. => False
  | .sign_transaction id signer =>
      match s (.Transaction id) with
      | some t => is_final t.status = true → CountsSignature call.1 s t signer →
          len (t.signers ++ [signer]) < t.required_signatures
      | none => True
  | _ => True

instance (s : TreasuryStorage) (call : Env × EntryPoint) : Decidable (SparesFinal s call) := by
  unfold SparesFinal
  split
  · infer_instance
  · split <;> infer_instance
  · infer_instance

theorem toNat_succ {nonce : U64} (h : nonce.toNat + 1 < 2 ^ 64) : (nonce + 1).toNat = nonce.toNat + 1 := by
  have hone : UInt64.toNat 1 = 1 := rfl
  rw [UInt64.toNat_add, hone, Nat.mod_eq_of_lt h]

/-- The numbers of the transactions are those given out. -/
def Numbered (s : TreasuryStorage) : Prop :=
  ∃ nonce, s .Nonce = some nonce ∧ ∀ id t, s (.Transaction id) = some t → id ≤ nonce

/-- The signers of a transaction are counted, and none of them twice. -/
def SignersCounted (s : TreasuryStorage) : Prop :=
  ∀ id t, s (.Transaction id) = some t → t.signers.Nodup ∧ t.current_signatures.toNat = t.signers.length

theorem signed_counted {t : TreasuryTransaction} {signer : Address} (hnodup : t.signers.Nodup)
    (hnew : signer ∉ t.signers) (hfits : t.signers.length + 1 < 2 ^ 32) :
    (signed t signer).signers.Nodup ∧
      (signed t signer).current_signatures.toNat = (signed t signer).signers.length := by
  constructor
  · rw [signed, List.nodup_append]
    refine ⟨hnodup, List.nodup_singleton signer, ?_⟩
    intro a ha b hb heq
    rw [List.mem_singleton.mp hb] at heq
    exact hnew (heq ▸ ha)
  · have hlen : (t.signers ++ [signer]).length < 2 ^ 32 := by
      rw [List.length_append, List.length_singleton]
      exact hfits
    rw [signed, len, UInt32.toNat_ofNat', Nat.mod_eq_of_lt hlen]

section Runs

variable [NativeAsset] {env : Env} {s s' : TreasuryStorage} {call : EntryPoint} {id : U64}
variable {t : TreasuryTransaction} {status : TransactionStatus} {calls earlier later : List (Env × EntryPoint)}

theorem signersCounted_step (hs : SignersCounted s) (h : exec call env s = .ok ((), s')) : SignersCounted s' := by
  refine transactions_step (P := fun t => t.signers.Nodup ∧ t.current_signatures.toNat = t.signers.length) hs ?_ ?_ h
  · intro t _ hnone
    exact signed_counted (by rw [hnone]; exact List.nodup_nil) (by rw [hnone]; exact List.not_mem_nil)
      (by rw [hnone]; decide)
  · intro _ _ _ _ ht hchange
    cases hchange with
    | sign hcounts hfits => exact signed_counted ht.1 hcounts.2.2 hfits
    | execute => exact ht
    | cancel => exact ht

theorem numbered_step (hs : Numbered s) (hspares : SparesFinal s (env, call))
    (h : exec call env s = .ok ((), s')) : Numbered s' := by
  obtain ⟨nonce, hnonce, hle⟩ := hs
  cases outcome_of_exec h with
  | untouched hsame hkept =>
      refine ⟨nonce, by rw [hkept, hnonce], ?_⟩
      intro id t ht
      rw [hsame] at ht
      exact hle id t ht
  | restarted => exact hspares.elim
  | @proposed _ _ _ _ _ hnonce₀ hfits _ _ _ hother hnext =>
      rw [hnonce₀, Option.some.injEq] at hnonce
      rw [hnonce] at hfits hother hnext
      have hgrown : nonce ≤ nonce + 1 := by
        rw [UInt64.le_iff_toNat_le, toNat_succ hfits]
        exact Nat.le_add_right _ _
      refine ⟨nonce + 1, hnext, ?_⟩
      intro id t ht
      by_cases hid : id = nonce + 1
      · exact hid ▸ UInt64.le_refl _
      · rw [hother id hid] at ht
        exact UInt64.le_trans (hle id t ht) hgrown
  | @changed _ _ id₀ t₀ _ ht₀ _ _ hother hkept =>
      refine ⟨nonce, by rw [hkept, hnonce], ?_⟩
      intro id t ht
      by_cases hid : id = id₀
      · exact hid ▸ hle id₀ t₀ ht₀
      · rw [hother id hid] at ht
        exact hle id t ht

/-- The number after the last one given out is new. -/
theorem Numbered.fresh {nonce : U64} (hs : Numbered s) (hnonce : s .Nonce = some nonce)
    (hfits : nonce.toNat + 1 < 2 ^ 64) (ht : s (.Transaction id) = some t) : id ≠ nonce + 1 := by
  obtain ⟨nonce', hnonce', hle⟩ := hs
  rw [hnonce, Option.some.injEq] at hnonce'
  have hid := UInt64.le_iff_toNat_le.mp (hle id t ht)
  intro heq
  rw [heq, ← hnonce', toNat_succ hfits] at hid
  exact absurd hid (Nat.not_succ_le_self _)

theorem final_step (hs : Numbered s) (ht : s (.Transaction id) = some t) (hfinal : is_final t.status = true)
    (hspares : SparesFinal s (env, call)) (h : exec call env s = .ok ((), s')) :
    ∃ t', s' (.Transaction id) = some t' ∧ t'.status = t.status := by
  cases outcome_of_exec h with
  | untouched hsame => exact ⟨t, by rw [hsame, ht], rfl⟩
  | restarted => exact hspares.elim
  | @proposed _ _ _ _ _ hnonce hfits _ _ _ hother =>
      exact ⟨t, by rw [hother id (hs.fresh hnonce hfits ht), ht], rfl⟩
  | @changed _ _ id₀ _ t₁ ht₀ hchange ht₁ hother =>
      by_cases hid : id = id₀
      · rw [← hid] at ht₀ ht₁ hchange
        rw [ht, Option.some.injEq] at ht₀
        rw [← ht₀] at hchange
        refine ⟨t₁, ht₁, ?_⟩
        cases hchange with
        | sign hcounts =>
            rw [SparesFinal] at hspares
            simp only [ht] at hspares
            exact if_neg (UInt32.not_le.mpr (hspares hfinal hcounts))
        | execute hpending | cancel hpending =>
            rw [hpending] at hfinal
            cases hfinal
      · exact ⟨t, by rw [hother id hid, ht], rfl⟩

/-- **What is over stays over.** After the set-up, and as long as no signature completes a transaction
that is over, a cancelled or executed transaction keeps its status; and the signers of every transaction
are counted, and none of them twice. -/
theorem final_stays_final {admin : Address} {config : MultiSigConfig} {signers : List Address} {roles : List Role}
    (hinit : exec (.initialize_treasury admin config signers roles) env empty_storage = .ok ((), s))
    (hspares : Along exec SparesFinal s (earlier ++ later)) :
    (∀ id t, run s earlier (.Transaction id) = some t → is_final t.status = true →
      ∃ t', run s (earlier ++ later) (.Transaction id) = some t' ∧ t'.status = t.status) ∧
    ∀ id t, run s (earlier ++ later) (.Transaction id) = some t →
      t.signers.Nodup ∧ t.current_signatures.toNat = t.signers.length := by
  obtain ⟨hsame, hnonce⟩ := initialize_treasury_spec hinit
  have hnone : ∀ id, s (.Transaction id) = none := hsame
  obtain ⟨hearlier, hlater⟩ := Along.append.mp hspares
  constructor
  · intro id t ht hfinal
    have hnumbered : Numbered (run s earlier) := by
      apply run_invariant numbered_step _ hearlier
      refine ⟨0, hnonce, ?_⟩
      intro id' t' ht'
      rw [hnone] at ht'
      cases ht'
    rw [run, runFrom_append]
    -- The record keeps its status, and no new one takes its number.
    refine (run_invariant
      (I := fun s => Numbered s ∧ ∃ t', s (.Transaction id) = some t' ∧ t'.status = t.status) ?_
      ⟨hnumbered, t, ht, rfl⟩ hlater).2
    rintro s call s' ⟨hs, t', ht', hstatus⟩ hcall hok
    refine ⟨numbered_step hs hcall hok, ?_⟩
    rw [← hstatus]
    exact final_step hs ht' (by rw [hstatus]; exact hfinal) hcall hok
  · apply run_invariant (C := SparesFinal) (fun hs _ hok => signersCounted_step hs hok) _ hspares
    intro id t ht
    rw [hnone] at ht
    cases ht

end Runs

/-- A signer proposes a transfer, and cancels it. -/
def withdrawn : List (Env × EntryPoint) :=
  [(signed_at 1000, .propose_transaction (party 1) (party 8) 100 (party 7) (str "grant") false),
    (signed_at 2000, .cancel_transaction 1 (party 1))]

/-- The other signer proposes another one, and both have signed it then. -/
def proposed_anew : List (Env × EntryPoint) :=
  [(signed_at 3000, .propose_transaction (party 2) (party 8) 50 (party 7) (str "grant") false),
    (signed_at 4000, .sign_transaction 2 (party 1))]

@[reducible] def native_party : NativeAsset := ⟨party 9⟩

/-- The storage after the set-up. -/
def opened : TreasuryStorage := @run native_party empty_storage [(signed_at 0, set_up)]

theorem set_up_succeeds : @exec native_party set_up (signed_at 0) empty_storage = .ok ((), opened) := by
  rcases step_cases (@exec native_party) empty_storage (signed_at 0, set_up) with hok | ⟨⟨msg, herror⟩, -⟩
  · exact hok
  · have hsucceeds : (@exec native_party set_up (signed_at 0) empty_storage).isOk = true := by decide +kernel
    rw [show @exec native_party set_up (signed_at 0) empty_storage = _ from herror] at hsucceeds
    cases hsucceeds

theorem withdrawn_cancelled : (@run native_party opened withdrawn (.Transaction 1)).map TreasuryTransaction.status =
    some .Cancelled := by decide +kernel

theorem final_stays_final_withdrawn :
    ∃ t, @exec native_party set_up (signed_at 0) empty_storage = .ok ((), opened) ∧
      @run native_party opened (withdrawn ++ proposed_anew) (.Transaction 1) = some t ∧ t.status = .Cancelled := by
  obtain ⟨t, ht, hstatus⟩ := Option.map_eq_some_iff.mp withdrawn_cancelled
  have hspares : Along (@exec native_party) SparesFinal opened (withdrawn ++ proposed_anew) := by decide +kernel
  obtain ⟨t', ht', hstatus'⟩ := (@final_stays_final native_party _ _ _ _ _ _ _ _ set_up_succeeds hspares).1 1 t ht
    (by rw [hstatus]; rfl)
  exact ⟨t', set_up_succeeds, ht', by rw [hstatus', hstatus]⟩

/-- The missing signature approves a transaction that was cancelled. -/
theorem cancelled_becomes_approved :
    ¬ ∀ (_ : NativeAsset) (env : Env) (admin : Address) (config : MultiSigConfig) (signers : List Address)
        (roles : List Role) (s : TreasuryStorage) (earlier later : List (Env × EntryPoint)) (id : U64)
        (t : TreasuryTransaction),
      exec (.initialize_treasury admin config signers roles) env empty_storage = .ok ((), s) →
      run s earlier (.Transaction id) = some t → is_final t.status = true →
      ∃ t', run s (earlier ++ later) (.Transaction id) = some t' ∧ t'.status = t.status := by
  intro h
  obtain ⟨t, ht, hstatus⟩ := Option.map_eq_some_iff.mp withdrawn_cancelled
  obtain ⟨t', ht', hstatus'⟩ := h native_party _ _ _ _ _ _ withdrawn [(signed_at 3000, .sign_transaction 1 (party 2))]
    1 t set_up_succeeds ht (by rw [hstatus]; rfl)
  have happroved : (@run native_party opened (withdrawn ++ [(signed_at 3000, .sign_transaction 1 (party 2))])
      (.Transaction 1)).map TreasuryTransaction.status = some .Approved := by decide +kernel
  rw [ht', Option.map_some, hstatus', hstatus] at happroved
  cases happroved

end BridgeWatch.Treasury

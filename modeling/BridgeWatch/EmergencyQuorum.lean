/-
The quorum of the emergency multisig.

An execution takes the nonce after the last one, so the nonces of a run count its executions, whoever the operators
are by then. The message of an execution has the domain, the tag of the action and its argument, and ends with the
nonce. The tag says how the argument is laid out, and an argument of no fixed length has its length before it, so a
message can be read back, and no two executions of a run ask for signatures on the same bytes.
-/
import BridgeWatch.ContractCalls
import BridgeWatch.SignedMessages

set_option autoImplicit false

namespace BridgeWatch.Contract

open Transaction

namespace emergency_multisig

/-! ## Messages -/

section Messages

variable {action action' : EmergencyAction} {nonce nonce' : U64}

/-- The number that a word stands for, from what was put into it. -/
theorem of_be_be_mod (w n : ℕ) : of_be (be w n) = n % 256 ^ w := by
  induction w generalizing n with
  | zero => rw [be, Nat.pow_zero, Nat.mod_one]; rfl
  | succ w ih =>
      have hpow : 256 ^ (w + 1) = 256 * 256 ^ w := Nat.pow_succ'
      rw [be, of_be_concat, ih, Nat.toUInt8_eq, UInt8.toNat_ofNat', hpow, Nat.mod_mul]
      omega

theorem be_u64_inj (h : be 8 nonce.toNat = be 8 nonce'.toNat) : nonce = nonce' :=
  UInt64.toNat_inj.mp (be_inj nonce.toNat_lt nonce'.toNat_lt h)

/-- The encoding of a string can be read back: the padding says no less of the length than the length field leaves
open. -/
theorem string_to_xdr_injective : Function.Injective string_to_xdr := by
  intro x y h
  simp only [string_to_xdr, List.append_assoc] at h
  obtain ⟨hlength, hrest⟩ := List.append_inj (List.append_cancel_left h) (by simp)
  have hmod : x.length % 256 ^ 4 = y.length % 256 ^ 4 := by rw [← of_be_be_mod, hlength, of_be_be_mod]
  have htotal := congrArg List.length hrest
  simp only [List.length_append, List.length_replicate] at htotal
  exact (List.append_inj hrest (by omega)).1

theorem address_to_xdr_injective : Function.Injective address_to_xdr := by
  have hkinds : ∀ (key hash : BytesN 32), address_to_xdr (.account key) ≠ address_to_xdr (.contract hash) := by
    intro key hash h
    have hlength := congrArg List.length h
    simp [address_to_xdr] at hlength
  intro x y h
  cases x with
  | account key =>
      cases y with
      | account =>
          rw [Vector.toList_inj.mp (List.append_cancel_left h)]
      | contract hash => exact absurd h (hkinds key hash)
  | contract hash =>
      cases y with
      | account key => exact absurd h.symm (hkinds key hash)
      | contract =>
          rw [Vector.toList_inj.mp (List.append_cancel_left h)]

/-- What a message says of the argument. -/
def argument : EmergencyAction → Buffer
  | .Pause | .Unpause => []
  | .SetMismatchThreshold value => be 16 value.toNat
  | .EmergencyBlacklistBridge bridge_id => append_bytes [] (string_to_xdr bridge_id)
  | .EmergencyDelistOracleNode node => append_bytes [] (address_to_xdr node)

theorem build_message_eq :
    build_message action nonce = DOMAIN ++ be 4 (action_tag action).toNat ++ argument action ++ be 8 nonce.toNat := by
  cases action <;> simp [build_message, argument, append_u32, append_u64, append_i128, append_bytes]

theorem append_bytes_injective : Function.Injective (append_bytes []) := by
  intro x y h
  simp only [append_bytes, append_u32, List.nil_append] at h
  exact (List.append_inj h (by simp)).2

/-- Actions of one tag differ in the argument. -/
theorem eq_of_argument (htag : action_tag action = action_tag action') (h : argument action = argument action') :
    action = action' := by
  cases action with
  | Pause | Unpause => cases action' <;> first | rfl | simp [action_tag] at htag
  | SetMismatchThreshold value =>
      cases action' with
      | SetMismatchThreshold value' =>
          rw [BitVec.toNat_inj.mp (be_inj value.isLt value'.isLt h)]
      | _ => simp [action_tag] at htag
  | EmergencyBlacklistBridge =>
      cases action' with
      | EmergencyBlacklistBridge => rw [string_to_xdr_injective (append_bytes_injective h)]
      | _ => simp [action_tag] at htag
  | EmergencyDelistOracleNode =>
      cases action' with
      | EmergencyDelistOracleNode => rw [address_to_xdr_injective (append_bytes_injective h)]
      | _ => simp [action_tag] at htag

/-- **A message can be read back.** -/
theorem message_inj (h : build_message action nonce = build_message action' nonce') :
    action = action' ∧ nonce = nonce' := by
  rw [build_message_eq, build_message_eq] at h
  -- The nonce is at the end, the tag behind the domain, and the argument between them.
  obtain ⟨hfront, hnonce⟩ := List.append_inj' h (by simp)
  rw [List.append_assoc, List.append_assoc] at hfront
  obtain ⟨htag, hargument⟩ := List.append_inj (List.append_cancel_left hfront) (by simp)
  have htag := UInt32.toNat_inj.mp (be_inj (UInt32.toNat_lt _) (UInt32.toNat_lt _) htag)
  exact ⟨eq_of_argument htag hargument, be_u64_inj hnonce⟩

end Messages

/-! ## One execution -/

/-- A call of the module. -/
inductive Call where
  | configure (operators : List (BytesN 32)) (threshold : U32)
  | verify_and_execute (action : EmergencyAction) (signatures : List OperatorSignature) (nonce : U64)
  deriving DecidableEq

def exec [Host] : Call → Soroban Unit
  | .configure operators threshold => ignore (configure operators threshold)
  | .verify_and_execute action signatures nonce => ignore (verify_and_execute action signatures nonce)

/-- An action that is executed, with the configuration at the time. -/
structure Execution where
  action : EmergencyAction
  nonce : U64
  signatures : List OperatorSignature
  config : Option MultisigConfig
  deriving DecidableEq

def Execution.message (e : Execution) : Buffer := build_message e.action e.nonce

/-- The signature is one over the message, by the operator that it names. -/
def Signs [Host] (sig : OperatorSignature) (message : Buffer) : Prop :=
  Host.ed25519_verify sig.operator message sig.signature = true

/-- As many operators of the configuration as it asks for, all different, have signed the message of the execution. -/
def Execution.Supported [Host] (e : Execution) : Prop :=
  ∃ config, e.config = some config ∧ 0 < config.threshold.toNat ∧
    ∃ signers : List (BytesN 32), signers.Nodup ∧ config.threshold.toNat ≤ signers.length ∧
      ∀ signer ∈ signers, signer ∈ config.operators ∧
        ∃ sig ∈ e.signatures, sig.operator = signer ∧ Signs sig e.message

section Executions

variable [Host] {env : Env} {s s' : Storage} {action : EmergencyAction} {signatures : List OperatorSignature}
variable {nonce : U64} {approvers approvers' : List (BytesN 32)} {config : MultisigConfig} {message : Buffer}
variable {operators : List (BytesN 32)} {threshold : U32}

/-- One round of the loop over the signatures. -/
theorem approve_eq_ok {sig : OperatorSignature} :
    (do
      panic_if (sig.operator ∉ config.operators) "signature from unregistered emergency multisig operator"
      panic_if (sig.operator ∈ approvers) "duplicate operator signature in emergency multisig submission"
      panic_if (Host.ed25519_verify sig.operator message sig.signature = false) "Error(Crypto, InvalidInput)"
      return approvers ++ [sig.operator] : Soroban (List (BytesN 32))) env s = .ok (approvers', s') ↔
        sig.operator ∈ config.operators ∧ sig.operator ∉ approvers ∧ Signs sig message ∧
          approvers' = approvers ++ [sig.operator] ∧ s' = s := by
  simp only [bind_eq_ok, panic_if_eq_ok, not_not, pure_eq_ok, Bool.not_eq_false, Signs, and_assoc, exists_and_left,
    exists_eq_left, exists_const]

/-- The loop over the signatures ends when all are good, and no operator has two. -/
theorem approvers_of_ok
    (h : signatures.foldlM (fun approvers sig => do
      panic_if (sig.operator ∉ config.operators) "signature from unregistered emergency multisig operator"
      panic_if (sig.operator ∈ approvers) "duplicate operator signature in emergency multisig submission"
      panic_if (Host.ed25519_verify sig.operator message sig.signature = false) "Error(Crypto, InvalidInput)"
      return approvers ++ [sig.operator] : _ → _ → Soroban (List (BytesN 32))) approvers env s = .ok (approvers', s'))
    (hnodup : approvers.Nodup) :
    s' = s ∧ approvers' = approvers ++ signatures.map OperatorSignature.operator ∧ approvers'.Nodup ∧
      ∀ sig ∈ signatures, sig.operator ∈ config.operators ∧ Signs sig message := by
  induction signatures generalizing approvers with
  | nil =>
      rw [List.foldlM_nil, pure_eq_ok] at h
      obtain ⟨rfl, rfl⟩ := h
      exact ⟨rfl, by simp, hnodup, nofun⟩
  | cons _ _ ih =>
      rw [List.foldlM_cons, bind_eq_ok] at h
      obtain ⟨_, _, hsig, hrest⟩ := h
      obtain ⟨hoperator, hnew, hsigns, rfl, rfl⟩ := approve_eq_ok.mp hsig
      obtain ⟨rfl, rfl, hnodup', hsignatures⟩ := ih hrest (List.nodup_append.mpr ⟨hnodup, List.nodup_singleton _, by
        rintro operator hmem _ hsingle rfl
        exact hnew (List.mem_singleton.mp hsingle ▸ hmem)⟩)
      refine ⟨rfl, by simp, hnodup', fun sig' hmem => ?_⟩
      rcases List.mem_cons.mp hmem with rfl | hlater
      · exact ⟨hoperator, hsigns⟩
      · exact hsignatures sig' hlater

/-- What an execution has checked, and what it leaves. -/
theorem executed_of_ok (h : verify_and_execute action signatures nonce env s = .ok (approvers, s')) :
    ∃ config, s .EMERGENCY_MULTISIG_CONFIG = some config ∧
      nonce.toNat = ((s .EMERGENCY_MULTISIG_NONCE).getD 0).toNat + 1 ∧
      config.threshold.toNat ≤ signatures.length ∧ (signatures.map OperatorSignature.operator).Nodup ∧
      (∀ sig ∈ signatures, sig.operator ∈ config.operators ∧ Signs sig (build_message action nonce)) ∧
      s' .EMERGENCY_MULTISIG_NONCE = some nonce ∧ s' .EMERGENCY_MULTISIG_CONFIG = some config := by
  simp only [verify_and_execute, bind_eq_ok, load_eq_ok, expect_eq_ok, panic_if_eq_ok, not_not, not_lt, reads_eq_ok,
    save_eq_ok, pure_eq_ok, add_u64_eq_ok, and_assoc, exists_and_left, exists_eq_left, exists_const] at h
  obtain ⟨config, hconfig, hfits, hnonce, hcount, signers, s₁, hloop, -, rfl, rfl⟩ := h
  obtain ⟨rfl, rfl, hnodup, hsignatures⟩ := approvers_of_ok hloop List.nodup_nil
  rw [List.nil_append] at hnodup
  refine ⟨config, hconfig, ?_, hcount, hnodup, hsignatures, by simp, by simpa using hconfig⟩
  rw [hnonce, UInt64.toNat_add, Nat.mod_eq_of_lt hfits]
  rfl

omit [Host] in
/-- Operators are configured with a threshold, and the nonce goes on. -/
theorem configured_of_ok (h : configure operators threshold env s = .ok (config, s')) :
    s' .EMERGENCY_MULTISIG_CONFIG = some config ∧ 0 < config.threshold.toNat ∧
      (s' .EMERGENCY_MULTISIG_NONCE).getD 0 = (s .EMERGENCY_MULTISIG_NONCE).getD 0 := by
  simp only [configure, bind_eq_ok, panic_if_eq_ok, not_or, load_eq_ok, exec_if_eq_ok, save_eq_ok, pure_eq_ok,
    and_assoc, exists_and_left, exists_eq_left, exists_const] at h
  obtain ⟨-, -, hthreshold, -, -, s₁, hnonce, rfl, rfl⟩ := h
  have hpositive : 0 < threshold.toNat := by
    have hne : threshold.toNat ≠ 0 := fun hzero => hthreshold (UInt32.toNat_inj.mp hzero)
    omega
  rcases hnonce with ⟨hnone, rfl⟩ | ⟨-, rfl⟩
  · have hnone' : s .EMERGENCY_MULTISIG_NONCE = none := by simpa using hnone
    refine ⟨by simp, hpositive, ?_⟩
    rw [Function.update_self, hnone']
    rfl
  · exact ⟨by simp, hpositive, by simp⟩

/-! ## Runs -/

/-- The executions so far have the nonces up to the last one, and each had its quorum. -/
structure Sequenced (s : Storage) (log : List Execution) : Prop where
  nonces : log.map (fun e => e.nonce.toNat) = List.range' 1 log.length
  last : ((s .EMERGENCY_MULTISIG_NONCE).getD 0).toNat = log.length
  threshold : ∀ config, s .EMERGENCY_MULTISIG_CONFIG = some config → 0 < config.threshold.toNat
  supported : ∀ e ∈ log, e.Supported
  signed : ∀ e ∈ log, ∀ sig ∈ e.signatures, Signs sig e.message

variable {log : List Execution}

theorem Sequenced.kept (hs : Sequenced s log) (hnonce : s' .EMERGENCY_MULTISIG_NONCE = s .EMERGENCY_MULTISIG_NONCE)
    (hconfig : s' .EMERGENCY_MULTISIG_CONFIG = s .EMERGENCY_MULTISIG_CONFIG) : Sequenced s' log :=
  ⟨hs.nonces, by rw [hnonce, hs.last], fun config h => hs.threshold config (hconfig ▸ h), hs.supported,
    hs.signed⟩

theorem Sequenced.configured (hs : Sequenced s log) (h : configure operators threshold env s = .ok (config, s')) :
    Sequenced s' log := by
  obtain ⟨hconfig, hpositive, hnonce⟩ := configured_of_ok h
  refine ⟨hs.nonces, by rw [hnonce, hs.last], fun config' h' => ?_, hs.supported, hs.signed⟩
  rw [hconfig, Option.some.injEq] at h'
  rwa [← h']

/-- **One execution** takes the next nonce. -/
theorem Sequenced.executed (hs : Sequenced s log)
    (h : verify_and_execute action signatures nonce env s = .ok (approvers, s')) :
    Sequenced s' (log ++ [{ action, nonce, signatures, config := s .EMERGENCY_MULTISIG_CONFIG }]) := by
  obtain ⟨config, hconfig, hnonce, hcount, hnodup, hsignatures, hnonce', hconfig'⟩ := executed_of_ok h
  rw [hs.last] at hnonce
  refine ⟨?_, ?_, ?_, ?_, ?_⟩
  · rw [List.map_append, hs.nonces, List.length_append, List.length_singleton, List.range'_concat, List.map_singleton,
      hnonce, Nat.one_mul, Nat.add_comm]
  · rw [hnonce', Option.getD_some, hnonce, List.length_append, List.length_singleton]
  · intro config' h'
    exact hs.threshold config' (by rw [hconfig, ← hconfig', h'])
  · intro e he
    rcases List.mem_append.mp he with hold | hnew
    · exact hs.supported e hold
    · rw [List.mem_singleton.mp hnew]
      refine ⟨config, hconfig, hs.threshold config hconfig, signatures.map OperatorSignature.operator, hnodup, ?_, ?_⟩
      · rwa [List.length_map]
      · intro signer hsigner
        obtain ⟨sig, hsig, rfl⟩ := List.mem_map.mp hsigner
        exact ⟨(hsignatures sig hsig).1, sig, hsig, rfl, (hsignatures sig hsig).2⟩
  · intro e he
    rcases List.mem_append.mp he with hold | hnew
    · exact hs.signed e hold
    · rw [List.mem_singleton.mp hnew]
      exact fun sig hsig => (hsignatures sig hsig).2

/-- The execution that a successful call is. -/
def execution (s : Storage) (t : Env × Call) : List Execution :=
  match t.2 with
  | .configure .. => []
  | .verify_and_execute action signatures nonce =>
    [{ action, nonce, signatures, config := s .EMERGENCY_MULTISIG_CONFIG }]

/-- The executions of a run, in their order. -/
def executions (calls : List (Env × Call)) : List Execution := collect exec execution empty_storage calls

theorem sequenced_step {t : Env × Call} (hs : Sequenced s log) (h : exec t.2 t.1 s = .ok ((), s')) :
    Sequenced s' (log ++ execution s t) := by
  obtain ⟨env, call⟩ := t
  cases call with
  | configure =>
      simp only [exec, ignore, bind_eq_ok, pure_eq_ok, true_and] at h
      obtain ⟨config, s₁, hconfigure, rfl⟩ := h
      rw [execution, List.append_nil]
      exact hs.configured hconfigure
  | verify_and_execute =>
      simp only [exec, ignore, bind_eq_ok, pure_eq_ok, true_and] at h
      obtain ⟨approvers, s₁, hexecute, rfl⟩ := h
      exact hs.executed hexecute

theorem sequenced_empty : Sequenced empty_storage [] := ⟨rfl, rfl, nofun, nofun, nofun⟩

theorem run_sequenced (calls : List (Env × Call)) : Sequenced (runFrom exec empty_storage calls) (executions calls) := by
  have hrun := run_collect_invariant (C := fun _ _ => True) (fun hs _ h => sequenced_step hs h) sequenced_empty
    (Along.of_forall fun _ _ _ => trivial : Along exec (fun _ _ => True) empty_storage calls)
  rwa [List.nil_append] at hrun

/-- A signature is one over one message only. -/
def SignsOneMessage : Prop :=
  ∀ operator message message' signature, Host.ed25519_verify operator message signature = true →
    Host.ed25519_verify operator message' signature = true → message = message'

/-- No signature of either execution serves the other. -/
def SignedApart (e e' : Execution) : Prop :=
  e.message ≠ e'.message ∧ (SignsOneMessage →
    (∀ sig ∈ e.signatures, ¬Signs sig e'.message) ∧ ∀ sig ∈ e'.signatures, ¬Signs sig e.message)

theorem Sequenced.signed_apart (hs : Sequenced s log) : log.Pairwise SignedApart := by
  have hdistinct : (log.map fun e => e.nonce.toNat).Nodup := by
    rw [hs.nonces]
    exact List.nodup_range' ..
  refine (List.pairwise_map.mp hdistinct).imp_of_mem fun {e e'} he he' hne => ?_
  have hmessages : e.message ≠ e'.message := fun h => hne (by rw [(message_inj h).2])
  refine ⟨hmessages, fun hone => ⟨fun sig hsig hsigns => ?_, fun sig hsig hsigns => ?_⟩⟩
  · exact hmessages (hone _ _ _ _ (hs.signed e he sig hsig) hsigns)
  · exact hmessages (hone _ _ _ _ hsigns (hs.signed e' he' sig hsig))

/-- **Each approval is executed once.** -/
theorem executes_once (calls : List (Env × Call)) :
    ((executions calls).map fun e => e.nonce.toNat) = List.range' 1 (executions calls).length ∧
      (∀ e ∈ executions calls, e.Supported) ∧
      (∀ action nonce action' nonce', build_message action nonce = build_message action' nonce' →
        action = action' ∧ nonce = nonce') ∧
      (executions calls).Pairwise SignedApart ∧
      ∀ t msg, exec t.2 t.1 (runFrom exec empty_storage calls) = .error msg →
        runFrom exec empty_storage (calls ++ [t]) = runFrom exec empty_storage calls := by
  have hs := run_sequenced calls
  refine ⟨hs.nonces, hs.supported, fun _ _ _ _ h => message_inj h, hs.signed_apart, fun t msg h => ?_⟩
  rw [runFrom_append, runFrom_cons, runFrom_nil, step, h]

end Executions

end emergency_multisig

/-! ## The contract -/

open emergency_multisig in
/-- The call of the module that a call of the contract makes. -/
def EntryPoint.emergency : EntryPoint → Option emergency_multisig.Call
  | .configure_emergency_multisig _ operators threshold => some (.configure operators threshold)
  | .emergency_pause_multisig signatures nonce _ => some (.verify_and_execute .Pause signatures nonce)
  | .unpause_emergency_multisig signatures nonce _ => some (.verify_and_execute .Unpause signatures nonce)
  | .set_mismatch_threshold_multisig signatures nonce threshold_bps =>
    some (.verify_and_execute (.SetMismatchThreshold threshold_bps) signatures nonce)
  | .blacklist_bridge_multisig signatures nonce bridge_id =>
    some (.verify_and_execute (.EmergencyBlacklistBridge bridge_id) signatures nonce)
  | .delist_oracle_node_multisig signatures nonce node_address =>
    some (.verify_and_execute (.EmergencyDelistOracleNode node_address) signatures nonce)
  | _ => none

section Contract

variable [Host] {env : Env} {s s' : Storage} {call : EntryPoint} {log : List emergency_multisig.Execution}

omit [Host] in
/-- The executions that a call of the contract makes. -/
def EntryPoint.executions (s : Storage) (t : Invocation) : List emergency_multisig.Execution :=
  t.2.emergency.elim [] fun c => emergency_multisig.execution s (t.1, c)

open emergency_multisig

/-- An execution, and what the contract does then. -/
theorem emergency_multisig.Sequenced.executed_then {action : EmergencyAction} {signatures : List OperatorSignature}
    {nonce : U64} {m : Soroban Unit} (ts : List Tag) [hm : Writes ts m] (hs : Sequenced s log)
    (hnonce : Tag.EMERGENCY_MULTISIG_NONCE ∉ ts) (hconfig : Tag.EMERGENCY_MULTISIG_CONFIG ∉ ts)
    (h : (verify_and_execute action signatures nonce >>= fun _ => m) env s = .ok ((), s')) :
    Sequenced s' (log ++ [{ action, nonce, signatures, config := s .EMERGENCY_MULTISIG_CONFIG }]) := by
  obtain ⟨approvers, s₁, hexecute, hrest⟩ := bind_eq_ok.mp h
  exact (hs.executed hexecute).kept (hm.frame hrest _ hnonce) (hm.frame hrest _ hconfig)

theorem emergency_multisig.Sequenced.step {t : Invocation} (hs : Sequenced s log)
    (h : Contract.exec t.2 t.1 s = .ok ((), s')) : Sequenced s' (log ++ EntryPoint.executions s t) := by
  obtain ⟨env, call⟩ := t
  by_cases hcall : call.emergency = none
  · have hframe : Tag.EMERGENCY_MULTISIG_NONCE ∉ writes call ∧ Tag.EMERGENCY_MULTISIG_CONFIG ∉ writes call := by
      cases call <;> first
        | exact of_decide_eq_true rfl
        | cases hcall
    rw [EntryPoint.executions, hcall, Option.elim_none, List.append_nil]
    exact hs.kept (exec_frame h hframe.1) (exec_frame h hframe.2)
  cases call with
  | configure_emergency_multisig =>
      obtain ⟨_, s₁, hadmin, hrest⟩ := bind_eq_ok.mp h
      obtain rfl : s₁ = s := Writes.store_eq inferInstance hadmin
      obtain ⟨config, s₂, hconfigure, hreturn⟩ := bind_eq_ok.mp hrest
      obtain rfl : s' = s₂ := (pure_eq_ok.mp hreturn).2
      simp only [EntryPoint.executions, EntryPoint.emergency, Option.elim_some, execution, List.append_nil]
      exact hs.configured hconfigure
  | emergency_pause_multisig | unpause_emergency_multisig => exact hs.executed_then pauseTags (by decide) (by decide) h
  | set_mismatch_threshold_multisig =>
      exact hs.executed_then [.MISMATCH_THRESHOLD] (by decide) (by decide) h
  | blacklist_bridge_multisig =>
      exact hs.executed_then [.BRIDGE_BLACKLIST] (by decide) (by decide) h
  | delist_oracle_node_multisig =>
      exact hs.executed_then [.Source] (by decide) (by decide) h
  | _ => exact absurd rfl hcall

/-- **The emergency actions of the contract**, in every run: they take the nonces from 1 on without a gap, the
operators of the time support each as its threshold says, and no signature serves two of them. -/
theorem contract_sequenced (calls : List Invocation) :
    Sequenced (run empty_storage calls) (collect Contract.exec EntryPoint.executions empty_storage calls) ∧
      (collect Contract.exec EntryPoint.executions empty_storage calls).Pairwise SignedApart := by
  have hrun := run_collect_invariant (C := fun _ _ => True) (fun hs _ h => Sequenced.step hs h) sequenced_empty
    (Along.of_forall fun _ _ _ => trivial : Along Contract.exec (fun _ _ => True) empty_storage calls)
  exact ⟨hrun, hrun.signed_apart⟩

end Contract

end BridgeWatch.Contract

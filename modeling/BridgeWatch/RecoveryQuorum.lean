/-
The guardians behind a recovery.

`execute_recovery` compares a counter with a threshold. The contract asks no guardian to authorise what is done in
its name, so a recovery that needs anyone is never backed as it should be. The counter does count guardians where
the calls are made with more care than the contract asks for: each is signed by the guardian that it names, no
guardian supports a recovery twice, and none that supports one is removed.
-/
import BridgeWatch.CircuitBreakerCalls

set_option autoImplicit false

namespace BridgeWatch.CircuitBreaker

open Transaction
open Contract (U32 U64 SString Address)

/-- The call requests the recovery of the pause in the name of the address, or approves it. -/
def supports (id : U32) (g : Address) : EntryPoint → Prop
  | .request_recovery caller pause_id => caller = g ∧ pause_id = id
  | .approve_recovery caller pause_id => caller = g ∧ pause_id = id
  | _ => False

/-- The same ledger, with other signatures. -/
def Ledger.with_auth (env : Ledger) (auth : Address → Bool) : Ledger := { env with auth }

/-- The call goes through, and would not without the authorisation of the address. -/
def Obtains (s : BreakerStorage) (env : Ledger) (call : EntryPoint) (g : Address) : Prop :=
  (exec call env s).isOk = true ∧ ∀ auth, auth g = false → (exec call (env.with_auth auth) s).isOk = false

/-- As many active guardians as the threshold says have supported the recovery, each with its authorisation. -/
def RecoveryQuorum (calls : List (Ledger × EntryPoint)) (id : U32) (threshold : ℕ) : Prop :=
  ∃ supporters : List Address, supporters.Nodup ∧ threshold ≤ supporters.length ∧
    ∀ g ∈ supporters, IsActive (run empty_storage calls) g ∧ ∃ before t after, calls = before ++ t :: after ∧
      supports id g t.2 ∧ Obtains (run empty_storage before) t.1 t.2 g

section Quorum

variable {env env' : Ledger} {s s' : BreakerStorage} {call : EntryPoint} {calls : List (Ledger × EntryPoint)}
variable {caller g : Address} {id : U32}

/-! ## What the contract obtains -/

/-- The two differ in the signatures alone. -/
def SameLedger (env env' : Ledger) : Prop := env'.timestamp = env.timestamp ∧ env'.sequence = env.sequence

instance : Blind SameLedger timestamp where
  eq s h := by rw [timestamp, reads, reads, h.1]

instance {key : DataKey} {value : key.Val} : Blind SameLedger (set key value) := ⟨fun _ _ => rfl⟩

instance {x y : U32} : Blind SameLedger (add_u32 x y) := ⟨fun _ _ => rfl⟩

instance {α : Type} {values : List α} {value : α} : Blind SameLedger (push_back values value) := ⟨fun _ _ => rfl⟩

instance {α : Type} {msg : String} : Blind SameLedger (Transaction.panic msg : Breaker α) := ⟨fun _ _ => rfl⟩

instance {α : Type} {o : Option α} {msg : String} : Blind SameLedger (expect o msg : Breaker α) := ⟨fun _ _ => rfl⟩

instance {role : GuardianRole} : Blind SameLedger (check_guardian_permission caller role) := by
  unfold check_guardian_permission
  infer_instance

instance : Blind SameLedger (pause_level id) := by
  unfold pause_level
  infer_instance

instance : Blind SameLedger get_config := by
  unfold get_config
  infer_instance

instance : Blind SameLedger (request_recovery caller id) := by
  unfold request_recovery
  dsimp only
  infer_instance

instance {rs : List RecoveryRequest} : Blind SameLedger (approve_first id rs) := by
  induction rs with
  | nil | cons =>
      unfold approve_first
      infer_instance

instance : Blind SameLedger (approve_recovery caller id) := by
  unfold approve_recovery
  infer_instance

/-- A call that supports a recovery goes through whoever has signed. -/
theorem exec_with_auth {auth : Address → Bool} (h : supports id g call) :
    exec call (env.with_auth auth) s = exec call env s := by
  have hsame : SameLedger env (env.with_auth auth) := ⟨rfl, rfl⟩
  cases call with
  | request_recovery caller pause_id =>
      have hblind : Blind SameLedger (request_recovery caller pause_id) := inferInstance
      exact (hblind.eq s hsame).symm
  | approve_recovery caller pause_id =>
      have hblind : Blind SameLedger (approve_recovery caller pause_id) := inferInstance
      exact (hblind.eq s hsame).symm
  | _ => exact False.elim h

theorem not_obtains (h : supports id g call) : ¬Obtains s env call g := by
  rintro ⟨hok, hneeds⟩
  have hfails := hneeds (fun _ => false) rfl
  rw [exec_with_auth h, hok] at hfails
  cases hfails

theorem recovery_quorum_iff {threshold : ℕ} : RecoveryQuorum calls id threshold ↔ threshold = 0 := by
  constructor
  · rintro ⟨supporters, -, hthreshold, hsupporters⟩
    cases supporters with
    | nil => exact Nat.le_zero.mp hthreshold
    | cons g =>
        obtain ⟨-, before, t, after, -, hsupports, hobtains⟩ := hsupporters g List.mem_cons_self
        exact absurd hobtains (not_obtains hsupports)
  · rintro rfl
    exact ⟨[], List.nodup_nil, Nat.le_refl _, by simp⟩

/-- The request that `execute_recovery` finds has its approvals. -/
theorem found_of_recovery (h : exec (.execute_recovery caller id) env s = .ok ((), s')) :
    ∃ r ∈ requests s, r.pause_id = id ∧ r.threshold ≤ r.approvals := by
  cases outcome_of_exec h with
  | paused _ hkind => cases hkind
  | adjusted _ hkind => cases hkind
  | @recovered _ _ _ _ r _ _ hsplit _ hpause hthreshold =>
      refine ⟨r, ?_, hpause, hthreshold⟩
      rw [hsplit]
      exact List.mem_append_right _ List.mem_cons_self

/-- **A recovery that needs anyone has no quorum**: the one that `execute_recovery` finds sufficient is backed as its
threshold says just where the threshold is 0. -/
theorem recovery_backed (h : exec (.execute_recovery caller id) env (run empty_storage calls) = .ok ((), s')) :
    ∃ r ∈ requests (run empty_storage calls), r.pause_id = id ∧ r.threshold ≤ r.approvals ∧
      (RecoveryQuorum calls id r.threshold.toNat ↔ r.threshold = 0) := by
  obtain ⟨r, hr, hpause, hthreshold⟩ := found_of_recovery h
  refine ⟨r, hr, hpause, hthreshold, ?_⟩
  rw [recovery_quorum_iff, ← UInt32.toNat_inj]
  rfl

end Quorum

/-- A guardian pauses everything, and requests and approves its recovery, and has signed none of this. -/
def lifted_alone : List (Ledger × EntryPoint) :=
  [(ledger 0 0 [party 0], .initialize_breaker ⟨party 0, 2, 3600, 7200, 14400, 100⟩),
    (ledger 0 0 [party 0], .add_guardian (party 0) (party 1) .EmergencyGuardian),
    (ledger 0 0 [], .pause_global (party 1) []), (ledger 0 0 [], .request_recovery (party 1) 1),
    (ledger 0 0 [], .approve_recovery (party 1) 1)]

theorem exists_of_isOk {β : Type} {x : Except String (Unit × β)} (h : x.isOk = true) : ∃ b, x = .ok ((), b) := by
  cases x with
  | ok r => exact ⟨r.2, rfl⟩
  | error => cases h

theorem recovery_backed_alone :
    ∃ r ∈ requests (run empty_storage lifted_alone), r.pause_id = 1 ∧ r.threshold ≤ r.approvals ∧
      (RecoveryQuorum lifted_alone 1 r.threshold.toNat ↔ r.threshold = 0) := by
  have hok : (exec (.execute_recovery (party 1) 1) (ledger 0 0 []) (run empty_storage lifted_alone)).isOk = true := by
    decide +kernel
  obtain ⟨s', h⟩ := exists_of_isOk hok
  exact recovery_backed h

/-- The threshold of that recovery is 2, and it does lift the pause. -/
theorem recovery_not_backed :
    ¬ ∀ (calls : List (Ledger × EntryPoint)) (caller : Address) (id : U32) (env : Ledger) (s' : BreakerStorage),
      (run empty_storage calls (.PauseState id)).isSome = true →
        exec (.execute_recovery caller id) env (run empty_storage calls) = .ok ((), s') →
          ∀ r ∈ requests (run empty_storage calls), r.pause_id = id → RecoveryQuorum calls id r.threshold.toNat := by
  intro hclaim
  have hok : (exec (.execute_recovery (party 1) 1) (ledger 0 0 []) (run empty_storage lifted_alone)).isOk = true := by
    decide +kernel
  obtain ⟨s', h⟩ := exists_of_isOk hok
  have hrequests : requests (run empty_storage lifted_alone) = [⟨1, party 1, 0, 2, 2⟩] := by decide +kernel
  have hquorum := hclaim _ _ _ _ _ (by decide +kernel) h ⟨1, party 1, 0, 2, 2⟩ (by simp [hrequests]) rfl
  exact absurd (recovery_quorum_iff.mp hquorum) (by decide)

/-! ## Recoveries supported with care -/

/-- The call removes the guardian. -/
def removes (g : Address) : EntryPoint → Prop
  | .remove_guardian _ guardian => guardian = g
  | _ => False

/-- Each support is signed by the guardian that it names, who neither repeats it nor is removed later. -/
structure Careful (calls : List (Ledger × EntryPoint)) : Prop where
  signed : ∀ t ∈ calls, ∀ id g, supports id g t.2 → t.1.auth g = true
  once : calls.Pairwise fun t u => ∀ id g, supports id g t.2 → ¬supports id g u.2 ∧ ¬removes g u.2

/-- The address is that of an active guardian, and has signed a call that supports the recovery and went through. -/
def Backs (calls : List (Ledger × EntryPoint)) (id : U32) (g : Address) : Prop :=
  IsActive (run empty_storage calls) g ∧ ∃ before t after, calls = before ++ t :: after ∧ supports id g t.2 ∧
    t.1.auth g = true ∧ (exec t.2 t.1 (run empty_storage before)).isOk = true

/-- The approvals of the request are those of as many active guardians, each with a call of its own. -/
def Attributed (calls : List (Ledger × EntryPoint)) (r : RecoveryRequest) : Prop :=
  ∃ supporters : List Address, supporters.Nodup ∧ supporters.length = r.approvals.toNat ∧
    ∀ g ∈ supporters, Backs calls r.pause_id g

section Care

variable {env : Ledger} {s s' : BreakerStorage} {call : EntryPoint} {calls : List (Ledger × EntryPoint)}
variable {t : Ledger × EntryPoint} {caller g : Address} {id : U32} {r : RecoveryRequest}

/-- A guardian stays active in a call that does not remove it. -/
theorem active_step (hs : Founded s) (h : Outcome env s call s') (hg : IsActive s g) (hkeeps : ¬removes g call) :
    IsActive s' g := by
  have hkept : s' .Guardians = s .Guardians → IsActive s' g := fun heq => by
    rwa [IsActive, guardians, heq]
  cases h with
  | opened hnone =>
      obtain ⟨i, hi, -⟩ := hg
      simp [guardians, hs hnone] at hi
  | appointed _ _ hguardians =>
      obtain ⟨i, hi, haddress, hactive⟩ := hg
      refine ⟨i, ?_, haddress, hactive⟩
      rw [hguardians]
      exact List.mem_append_left _ hi
  | dismissed _ hguardians =>
      obtain ⟨i, hi, haddress, hactive⟩ := hg
      refine ⟨i, ?_, haddress, hactive⟩
      rw [hguardians, List.mem_filter, decide_eq_true_eq, haddress]
      exact ⟨hi, fun heq => hkeeps heq.symm⟩
  | paused _ _ _ _ _ _ _ _ hframe | requested _ _ _ _ _ _ _ hframe | approved _ _ _ _ _ _ hframe
  | recovered _ _ _ _ _ _ _ hframe | adjusted _ _ hframe | started _ _ _ _ _ _ _ _ hframe
  | advanced _ _ _ _ hframe | restored _ _ _ _ _ hframe => exact hkept (hframe _ (by simp))

/-- What comes last neither repeats a support nor removes who gave it. -/
theorem Careful.last (h : Careful (calls ++ [t])) (hbacks : Backs calls id g) :
    ¬supports id g t.2 ∧ ¬removes g t.2 := by
  obtain ⟨-, before, u, after, rfl, hsupports, -⟩ := hbacks
  exact (List.pairwise_append.mp h.once).2.2 u (by simp) t (List.mem_singleton_self t) id g hsupports

theorem Backs.concat (h : Backs calls id g) (hcareful : Careful (calls ++ [t])) : Backs (calls ++ [t]) id g := by
  have hkeeps := (hcareful.last h).2
  obtain ⟨hactive, before, u, after, rfl, hrest⟩ := h
  refine ⟨?_, before, u, after ++ [t], List.append_assoc before _ [t], hrest⟩
  rcases run_concat_cases (before ++ u :: after) t with heq | ⟨-, houtcome⟩
  · rwa [heq]
  · exact active_step run_founded houtcome hactive hkeeps

theorem Attributed.concat (h : Attributed calls r) (hcareful : Careful (calls ++ [t])) :
    Attributed (calls ++ [t]) r := by
  obtain ⟨supporters, hnodup, hlength, hbacks⟩ := h
  exact ⟨supporters, hnodup, hlength, fun g hg => (hbacks g hg).concat hcareful⟩

/-- A request that a call leaves was there, or has the caller's support more than before. -/
theorem requests_step (h : Outcome env s call s') (hr : r ∈ requests s') :
    r ∈ requests s ∨ ∃ g, supports r.pause_id g call ∧ IsActive s g ∧ s' .Guardians = s .Guardians ∧
      (r.approvals = 1 ∨ ∃ q ∈ requests s, q.pause_id = r.pause_id ∧
        r.approvals.toNat = q.approvals.toNat + 1) := by
  have hkept : s' .RecoveryRequests = s .RecoveryRequests → r ∈ requests s := fun heq => by
    rwa [requests, ← heq]
  cases h with
  | opened _ _ _ _ hrequests =>
      rw [hrequests] at hr
      cases hr
  | @requested caller _ _ _ _ hpermit _ _ _ hpause happrovals hrequests hframe =>
      rw [hrequests, List.mem_append, List.mem_singleton] at hr
      rcases hr with hr | rfl
      · exact .inl hr
      · exact .inr ⟨caller, ⟨rfl, hpause.symm⟩, hpermit.active, hframe _ (by simp), .inl happrovals⟩
  | @approved caller _ _ _ q _ hpermit hsplit _ hpause hfits hrequests hframe =>
      rw [hrequests, List.mem_append, List.mem_cons] at hr
      rw [hsplit, List.mem_append, List.mem_cons]
      rcases hr with hr | rfl | hr
      · exact .inl (.inl hr)
      · have hcount : (q.approvals + 1).toNat = q.approvals.toNat + 1 := by
          rw [UInt32.toNat_add, UInt32.toNat_one, Nat.mod_eq_of_lt hfits]
        exact .inr ⟨caller, ⟨rfl, hpause.symm⟩, hpermit.active, hframe _ (by simp),
          .inr ⟨q, by simp, rfl, hcount⟩⟩
      · exact .inl (.inr (.inr hr))
  | @recovered _ _ _ _ _ _ _ hsplit _ _ _ hrequests =>
      left
      rw [hrequests, List.mem_append] at hr
      rw [hsplit, List.mem_append]
      exact hr.imp_right (List.mem_cons_of_mem _)
  | appointed _ _ _ hframe | dismissed _ _ hframe | paused _ _ _ _ _ _ _ _ hframe | adjusted _ _ hframe
  | started _ _ _ _ _ _ _ _ hframe | advanced _ _ _ _ hframe | restored _ _ _ _ _ hframe =>
      exact .inl (hkept (hframe _ (by simp)))

/-- Every request of a careful run is attributed. -/
theorem attributed_run (hcareful : Careful calls) (hr : r ∈ requests (run empty_storage calls)) :
    Attributed calls r := by
  induction calls using List.reverseRecOn generalizing r with
  | nil => cases hr
  | append_singleton calls t ih =>
      have hbefore : Careful calls :=
        ⟨fun u hu => hcareful.signed u (List.mem_append_left _ hu), (List.pairwise_append.mp hcareful.once).1⟩
      rcases run_concat_cases calls t with heq | ⟨hok, houtcome⟩
      · rw [heq] at hr
        exact (ih hbefore hr).concat hcareful
      rcases requests_step houtcome hr with hold | ⟨g, hsupports, hactive, hguardians, hcount⟩
      · exact (ih hbefore hold).concat hcareful
      have hnew : Backs (calls ++ [t]) r.pause_id g := by
        refine ⟨?_, calls, t, [], rfl, hsupports, hcareful.signed t (by simp) _ _ hsupports, hok⟩
        rwa [IsActive, guardians, hguardians]
      rcases hcount with hone | ⟨q, hq, hpause, hcount⟩
      · exact ⟨[g], List.nodup_singleton g, by rw [hone]; rfl, by simpa using hnew⟩
      · obtain ⟨supporters, hnodup, hlength, hbacks⟩ := ih hbefore hq
        rw [hpause] at hbacks
        -- whoever backed the request before does not support it again
        have hother : g ∉ supporters := fun hg => (hcareful.last (hbacks g hg)).1 hsupports
        refine ⟨g :: supporters, List.nodup_cons.mpr ⟨hother, hnodup⟩, ?_, ?_⟩
        · rw [List.length_cons, hlength, hcount]
        · intro a ha
          rcases List.mem_cons.mp ha with rfl | ha
          · exact hnew
          · exact (hbacks a ha).concat hcareful

/-- **Recoveries supported with care have their quorum**: where `execute_recovery` goes through, as many active
guardians back the recovery as the threshold says. -/
theorem careful_recovery_quorum (hcareful : Careful calls)
    (h : exec (.execute_recovery caller id) env (run empty_storage calls) = .ok ((), s')) :
    ∃ r ∈ requests (run empty_storage calls), r.pause_id = id ∧ ∃ supporters : List Address,
      supporters.Nodup ∧ r.threshold.toNat ≤ supporters.length ∧ ∀ g ∈ supporters, Backs calls id g := by
  obtain ⟨r, hr, rfl, hthreshold⟩ := found_of_recovery h
  obtain ⟨supporters, hnodup, hlength, hbacks⟩ := attributed_run hcareful hr
  exact ⟨r, hr, rfl, supporters, hnodup, hlength ▸ UInt32.le_iff_toNat_le.mp hthreshold, hbacks⟩

end Care

/-- Two guardians support the recovery of a pause, each with its own signature. -/
def lifted_together : List (Ledger × EntryPoint) :=
  [(ledger 0 0 [party 0], .initialize_breaker ⟨party 0, 2, 3600, 7200, 14400, 100⟩),
    (ledger 0 0 [party 0], .add_guardian (party 0) (party 1) .EmergencyGuardian),
    (ledger 0 0 [party 0], .add_guardian (party 0) (party 2) .StandardGuardian),
    (ledger 0 0 [], .pause_global (party 1) []), (ledger 0 0 [party 1], .request_recovery (party 1) 1),
    (ledger 0 0 [party 2], .approve_recovery (party 2) 1)]

theorem careful_recovery_quorum_together :
    ∃ r ∈ requests (run empty_storage lifted_together), r.pause_id = 1 ∧ ∃ supporters : List Address,
      supporters.Nodup ∧ r.threshold.toNat ≤ supporters.length ∧ ∀ g ∈ supporters, Backs lifted_together 1 g := by
  have hcareful : Careful lifted_together := by
    constructor
    · simp only [lifted_together, supports, List.forall_mem_cons]
      refine ⟨nofun, nofun, nofun, nofun, ?_, ?_, nofun⟩
      · rintro _ _ ⟨rfl, -⟩
        decide
      · rintro _ _ ⟨rfl, -⟩
        decide
    · simp [lifted_together, supports, removes, party]
  have hok : (exec (.execute_recovery (party 1) 1) (ledger 0 0 []) (run empty_storage lifted_together)).isOk = true := by
    decide +kernel
  obtain ⟨s', h⟩ := exists_of_isOk hok
  exact careful_recovery_quorum hcareful h

end BridgeWatch.CircuitBreaker

/-
When a transfer can be rolled back.

A rollback is two transitions, by `RollingBack` to `RolledBack`, and each of them writes a row into a
history of at most 48. Admin overrides bring a transfer back from `TimedOut` as often as the admin
likes, and so a history may have no room for the two rows, with the transfer in a state to roll back
from. The deadline of the state in between is the other thing that may fail.
-/
import BridgeWatch.TransferHistory
import BridgeWatch.TransferTimeouts

set_option autoImplicit false

namespace BridgeWatch.TransferStateMachine

open Transaction
open Contract (U32 U64 I128 SString Address Env len str)

section Rollback

variable {env : Env} {s s' : MachineStorage} {t t' : BridgeTransfer} {id : U64} {admin : Address}
variable {hist : List StateTransitionLog} {calls : List (Env × EntryPoint)}

/-- What `timeout_secs_for` finds. -/
def timeout_in (s : MachineStorage) (state : TransferState) : U64 :=
  (s (.Timeout state)).getD ((s .DefaultTimeoutSecs).getD 86400)

/-- The history has room for two more rows, and the time to roll back in can be added to the clock. -/
def RoomToRollBack (env : Env) (s : MachineStorage) (id : U64) : Prop :=
  (∀ hist, s (.History id) = some hist → hist.length + 2 ≤ MAX_HISTORY_PER_TRANSFER.toNat) ∧
    env.timestamp.toNat + (timeout_in s .RollingBack).toNat < 2 ^ 64

theorem len_lt_iff {n : U32} (h : hist.length < 2 ^ 32) : len hist < n ↔ hist.length < n.toNat := by
  have hlen : (len hist).toNat = hist.length := by
    rw [len, UInt32.toNat_ofNat', Nat.mod_eq_of_lt h]
  rw [UInt32.lt_iff_toNat_lt, hlen]

/-- A transition to a state with a deadline. -/
theorem apply_transition_timed {actor : Address} {next : TransferState} {note : SString}
    (hnext : is_terminal next = false) (hhist : s (.History t.id) = some hist) :
    apply_transition t actor t.state next note env s = .ok (t', s') ↔
      env.timestamp.toNat + (timeout_in s next).toNat < 2 ^ 64 ∧ len hist < MAX_HISTORY_PER_TRANSFER ∧
        t' = { t with
          state := next, updated_at := env.timestamp, state_deadline := env.timestamp + timeout_in s next } ∧
        s' = put s t.id t' (hist ++ [⟨t.state, next, env.timestamp, actor, note⟩]) := by
  have hdeadline : deadline_in t next env.timestamp = (do
      let secs ← timeout_secs_for next
      add_u64 env.timestamp secs) := if_neg (by rw [hnext]; decide)
  have hother {u : BridgeTransfer} :
      Function.update s (.Transfer t.id) (some u) (.History t.id) = some hist := by
    rw [Function.update_of_ne (by simp), hhist]
  simp only [apply_transition, bind_eq_ok, reads_eq_ok, load_eq_ok, save_eq_ok, panic_if_eq_ok, pure_eq_ok,
    hdeadline, timeout_secs_for_eq_ok, add_u64_eq_ok, and_assoc, exists_and_left, exists_eq_left,
    exists_const]
  constructor
  · rintro ⟨hfits, hroom, rfl, rfl⟩
    rw [hother, Option.getD_some] at hroom ⊢
    exact ⟨hfits, UInt32.not_le.mp hroom, rfl, rfl⟩
  · rintro ⟨hfits, hroom, rfl, rfl⟩
    rw [hother, Option.getD_some]
    exact ⟨hfits, UInt32.not_le.mpr hroom, rfl, rfl⟩

/-- **When a transfer can be rolled back.** In a state to roll back from, the admin gets a transfer to
`RolledBack` just when its history has room for two more rows and the clock for the timeout. -/
theorem rollback_succeeds_iff {reason : SString} (ht : run empty_storage calls (.Transfer id) = some t)
    (hstate : can_rollback_from t.state = true) (hadmin : run empty_storage calls .Admin = some admin)
    (hauth : env.auth admin = true) :
    (∃ s', exec (.rollback_transfer admin id reason) env (run empty_storage calls) = .ok ((), s') ∧
      ∃ t', s' (.Transfer id) = some t' ∧ t'.state = .RolledBack) ↔
      RoomToRollBack env (run empty_storage calls) id := by
  have hregistered := registered_run calls
  obtain ⟨hist, hhist⟩ := hregistered.history id t ht
  have hbounded := (audit_trail ht hhist).bounded
  obtain rfl := hregistered.id_eq id t ht
  generalize run empty_storage calls = s at *
  have hcaller : may_rollback admin t env s = .ok (true, s) := by
    rw [may_rollback]
    by_cases hinitiator : admin = t.initiator
    · rw [if_pos hinitiator]
      rfl
    · rw [if_neg hinitiator, is_admin_eq_ok]
      exact ⟨admin, hadmin, by simp, rfl⟩
  have hactive : is_terminal t.state = false := by
    cases h : t.state <;> rw [h] at hstate <;> first | rfl | cases hstate
  have hlength : hist.length < 2 ^ 32 := lt_of_le_of_lt hbounded (by decide)
  have hmax : MAX_HISTORY_PER_TRANSFER.toNat = 48 := by decide
  constructor
  · rintro ⟨s', hok, -⟩
    simp only [exec, rollback_transfer, bind_eq_ok, require_auth_eq_ok, known_transfer_eq_ok, panic_if_eq_ok,
      pure_eq_ok, and_assoc, exists_and_left, exists_eq_left, exists_const] at hok
    obtain ⟨-, u, hu, _, s₁, hmay, -, -, -, t₁, s₂, hfirst, t₂, s₃, hsecond, -⟩ := hok
    rw [ht, Option.some.injEq] at hu
    subst hu
    rw [hcaller] at hmay
    cases hmay
    obtain ⟨hfits, -, rfl, rfl⟩ := (apply_transition_timed (by rfl) hhist).mp hfirst
    obtain ⟨_, hmoved, -⟩ := apply_transition_eq_ok hsecond
    have hroom := hmoved.room
    rw [put_history, Option.getD_some, len_lt_iff (by rw [List.length_append, List.length_singleton]; omega),
      List.length_append, List.length_singleton] at hroom
    refine ⟨?_, hfits⟩
    intro hist' hhist'
    rw [hhist, Option.some.injEq] at hhist'
    rw [← hhist']
    omega
  · rintro ⟨hrows, hfits⟩
    have hrows := hrows hist hhist
    obtain ⟨t₁, s₁, hfirst, hid, hhist₁⟩ : ∃ t₁ s₁,
        apply_transition t admin t.state .RollingBack reason env s = .ok (t₁, s₁) ∧ t₁.id = t.id ∧
          s₁ (.History t.id) = some (hist ++ [⟨t.state, .RollingBack, env.timestamp, admin, reason⟩]) :=
      ⟨_, _, (apply_transition_timed (by rfl) hhist).mpr
        ⟨hfits, (len_lt_iff hlength).mpr (by omega), rfl, rfl⟩, rfl, put_history⟩
    rw [← hid] at hhist₁
    have hroom : len (hist ++ [⟨t.state, .RollingBack, env.timestamp, admin, reason⟩]) <
        MAX_HISTORY_PER_TRANSFER := by
      rw [len_lt_iff (by rw [List.length_append, List.length_singleton]; omega), List.length_append,
        List.length_singleton]
      omega
    obtain ⟨t₂, s₂, hsecond, ht₂, hstate₂⟩ : ∃ t₂ s₂,
        apply_transition t₁ admin t₁.state .RolledBack reason env s₁ = .ok (t₂, s₂) ∧
          s₂ (.Transfer t₁.id) = some t₂ ∧ t₂.state = .RolledBack :=
      ⟨_, _, apply_transition_terminal (by rfl) hhist₁ hroom, put_transfer, rfl⟩
    refine ⟨s₂, ?_, t₂, hid ▸ ht₂, hstate₂⟩
    rw [exec, rollback_transfer]
    simp only [bind_eq_ok, require_auth_eq_ok, known_transfer_eq_ok, panic_if_eq_ok, pure_eq_ok, and_assoc,
      exists_and_left, exists_eq_left, exists_const]
    exact ⟨hauth, t, ht, true, s, hcaller, by decide, by rw [hactive]; decide, by rw [hstate]; decide, t₁, s₁,
      hfirst, t₂, s₂, hsecond, trivial, rfl⟩

end Rollback

theorem rollback_succeeds_initiated :
    ∃ s', exec (.rollback_transfer (party 0) 1 (str "stuck")) (signed_at 2000) (run empty_storage opening) =
        .ok ((), s') ∧
      ∃ t', s' (.Transfer 1) = some t' ∧ t'.state = .RolledBack := by
  have hhist : run empty_storage opening (.History 1) = some [] := by decide +kernel
  refine (rollback_succeeds_iff (t := opened) (by decide +kernel) (by decide) (by decide +kernel) rfl).mpr ⟨?_, ?_⟩
  · intro hist h
    rw [hhist, Option.some.injEq] at h
    rw [← h]
    decide
  · decide +kernel

/-- The transfer of `opening` times out and is recovered by the admin, 24 times over. -/
def recovered : List (Env × EntryPoint) :=
  opening ++ (List.range 24).flatMap fun k =>
    [(signed_at (UInt64.ofNat (10000 + 200000 * k)), .handle_timeout 1),
      (signed_at (UInt64.ofNat (10000 + 200000 * k)),
        .admin_override_state (party 0) 1 .EscrowLocked (str "recovered"))]

/-- A transfer that was recovered often enough is stuck. -/
theorem rollback_stuck :
    ¬ ∀ (calls : List (Env × EntryPoint)) (t : BridgeTransfer) (id : U64) (admin : Address) (reason : SString)
        (env : Env),
      run empty_storage calls (.Transfer id) = some t → can_rollback_from t.state = true →
      run empty_storage calls .Admin = some admin → env.auth admin = true →
      ∃ s', exec (.rollback_transfer admin id reason) env (run empty_storage calls) = .ok ((), s') ∧
        ∃ t', s' (.Transfer id) = some t' ∧ t'.state = .RolledBack := by
  intro h
  have hlocked : (run empty_storage recovered (.Transfer 1)).map BridgeTransfer.state = some .EscrowLocked := by
    decide +kernel
  obtain ⟨t, ht, hstate⟩ := Option.map_eq_some_iff.mp hlocked
  have hadmin : run empty_storage recovered .Admin = some (party 0) := by decide +kernel
  have hstate : can_rollback_from t.state = true := by rw [hstate]; rfl
  obtain ⟨s', hok, -⟩ := h recovered t 1 (party 0) (str "stuck") (signed_at 5000000) ht hstate hadmin rfl
  have herror : (exec (.rollback_transfer (party 0) 1 (str "stuck")) (signed_at 5000000)
      (run empty_storage recovered)).isOk = false := by decide +kernel
  rw [hok] at herror
  cases herror

end BridgeWatch.TransferStateMachine

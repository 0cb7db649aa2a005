/-
What happens to escrows.

A run of the escrow contract keeps, beside the storage, the history of each escrow: the creations,
verifications, challenges, votes, releases, refunds and recoveries that succeeded, in order. An escrow
begins with its creation, so a number that is given out again begins a new history. An entry also says
what the storage showed when it was made: whether a voter was a registered approver, until when a
released escrow was locked, and whether a recovery took no more than what was left.

What a successful call does to one escrow is one of the changes of `Change`, and every statement about
runs is proved from these.
-/
import BridgeWatch.EscrowContract
import BridgeWatch.Histories
import BridgeWatch.Runs

set_option autoImplicit false

namespace BridgeWatch.Escrow

open Contract (U32 U64 I128 SString Address Env len saturating_add_u64)
open SaturatingArithmetic Histories

/-! ## Histories -/

inductive Event where
  | created
  | synced (verifier_contract : Address) (verified : Bool)
  | challenged
  | voted (approver : Address) (release_allowed registered : Bool) (required_approvals : U32) (resolved : Bool)
  | extended
  | released (amount : I128) (timestamp lock_until : U64)
  | refunded (amount : I128)
  | recovered (amount : I128) (covered : Bool)
  deriving DecidableEq

/-- A creation begins an escrow. -/
def begins : Event → Bool
  | .created => true
  | _ => false

/-- The recovery takes no more than what is left of an escrow that was not refunded. -/
def covered (s : EscrowStorage) (escrow_id : U64) (amount : I128) : Bool :=
  (s.escrow escrow_id).any fun escrow => escrow.status ≠ .Refunded &&
    escrow.released_amount.toInt + amount.toInt + escrow.fee_total.toInt ≤ escrow.amount.toInt

def registered (s : EscrowStorage) (approver : Address) : Bool := (s.approvers.getD []).contains approver

def lock_of (s : EscrowStorage) (escrow_id : U64) : U64 := ((s.escrow escrow_id).map EscrowDeposit.lock_until).getD 0

/-- What a call that returned `answer` and left `s'` has done to which escrow. -/
def events (env : Env) (s : EscrowStorage) (answer : Answer) (s' : EscrowStorage) : EntryPoint → List (U64 × Event)
  | .create_escrow .. =>
      match answer with
      | .created escrow_id => [(escrow_id, .created)]
      | _ => []
  | .sync_verification verifier_contract escrow_id verified => [(escrow_id, .synced verifier_contract verified)]
  | .challenge_escrow _ escrow_id _ => [(escrow_id, .challenged)]
  | .resolve_challenge approver escrow_id release_allowed =>
      match s'.dispute escrow_id with
      | some dispute =>
          -- A vote on a dispute that is resolved already returns, but nothing is noted.
          if (s.dispute escrow_id).any DisputeResolution.resolved then []
          else [(escrow_id, .voted approver release_allowed (registered s approver) dispute.required_approvals
            dispute.resolved)]
      | none => []
  | .release_escrow _ escrow_id release_amount =>
      [(escrow_id, .released release_amount env.timestamp (lock_of s escrow_id))]
  | .batch_release _ escrow_ids release_amount =>
      escrow_ids.map fun escrow_id => (escrow_id, .released release_amount env.timestamp (lock_of s escrow_id))
  | .refund_escrow _ escrow_id =>
      match answer with
      | .amount amount => [(escrow_id, .refunded amount)]
      | _ => []
  | .extend_lock _ escrow_id _ => [(escrow_id, .extended)]
  | .emergency_recover _ escrow_id _ amount => [(escrow_id, .recovered amount (covered s escrow_id amount))]
  | _ => []

/-- The storage with the histories of the escrows. -/
structure World where
  storage : EscrowStorage
  history : U64 → List Event

/-- A call, of which nothing is left when it fails. -/
def step (w : World) (call : Env × EntryPoint) : World :=
  match exec call.1 w.storage call.2 with
  | .ok (answer, s') => ⟨s', record_all begins w.history (events call.1 w.storage answer s' call.2)⟩
  | .error _ => w

/-- The world after some calls on the empty storage. -/
def run (calls : List (Env × EntryPoint)) : World := Runs.run step ⟨empty_storage, fun _ => []⟩ calls

/-! ## What can happen to an escrow -/

/-- What is stored under the number of an escrow. -/
structure Case where
  deposit : EscrowDeposit
  challenge : Option ChallengeInfo
  dispute : Option DisputeResolution

/-- What a successful call can do to an escrow. -/
inductive Change (env : Env) (s : EscrowStorage) (c : Case) : Event → Case → Prop
  | synced {verified : Bool} (hopen : is_over c.deposit.status = false) :
      Change env s c (.synced c.deposit.verification_contract verified)
        { c with deposit := { c.deposit with verified } }
  | challenged {challenge : ChallengeInfo} (hpending : c.deposit.status = .Pending)
      (hlocked : env.timestamp < c.deposit.lock_until) (hnone : c.challenge = none) :
      Change env s c .challenged
        { c with deposit := { c.deposit with status := .Challenged }, challenge := some challenge }
  | voted {approver : Address} {dispute : DisputeResolution} {resolved : Bool}
      (hchallenged : c.deposit.status = .Challenged) (hregistered : registered s approver = true)
      (hdispute : c.dispute = some dispute ∨ c.dispute = none ∧ dispute.approvals = [])
      (hopen : dispute.resolved = false) (hnew : approver ∉ dispute.approvals)
      (hfits : dispute.approvals.length + 1 < 2 ^ 32)
      (hresolved : resolved = true ↔ dispute.required_approvals.toNat ≤ dispute.approvals.length + 1) :
      Change env s c (.voted approver dispute.decision_release true dispute.required_approvals resolved)
        { c with
          deposit := { c.deposit with
            status := if resolved && dispute.decision_release then .Pending else c.deposit.status }
          dispute := some { dispute with approvals := dispute.approvals ++ [approver], resolved } }
  | released {amount released_amount : I128} {status : EscrowStatus} (hpending : c.deposit.status = .Pending)
      (hverified : c.deposit.verified = true) (hlock : c.deposit.lock_until ≤ env.timestamp)
      (hamount : 0 < amount.toInt)
      (hleft : amount.toInt ≤
        (saturating_sub_i128 (saturating_sub_i128 c.deposit.amount c.deposit.fee_total)
          c.deposit.released_amount).toInt)
      (hreleased : released_amount = saturating_add_i128 c.deposit.released_amount amount)
      (hstatus : status = .Released ∨ status = .Pending) :
      Change env s c (.released amount env.timestamp c.deposit.lock_until)
        { c with deposit := { c.deposit with released_amount, status } }
  | refunded {amount : I128} (hopen : is_over c.deposit.status = false)
      (hamount : amount = saturating_sub_i128 (saturating_sub_i128 c.deposit.amount c.deposit.released_amount)
        c.deposit.fee_total) (hsome : 0 < amount.toInt) :
      Change env s c (.refunded amount) { c with deposit := { c.deposit with status := .Refunded } }
  | extended {lock_until : U64} : Change env s c .extended { c with deposit := { c.deposit with lock_until } }
  | recovered {amount released_amount : I128} {status : EscrowStatus} (hamount : 0 < amount.toInt)
      (hreleased : released_amount = saturating_add_i128 c.deposit.released_amount amount)
      (hstatus : status = .Released ∨ status = c.deposit.status) :
      Change env s c (.recovered amount (c.deposit.status ≠ .Refunded &&
          c.deposit.released_amount.toInt + amount.toInt + c.deposit.fee_total.toInt ≤ c.deposit.amount.toInt))
        { c with deposit := { c.deposit with released_amount, status } }

/-- What is stored of an escrow is `c`. -/
structure Holds (s : EscrowStorage) (escrow_id : U64) (c : Case) : Prop where
  deposit : s.escrow escrow_id = some c.deposit
  challenge : s.challenge escrow_id = c.challenge
  dispute : s.dispute escrow_id = c.dispute

/-- The fee rate is at most a fifth. -/
def FeeBounded (s : EscrowStorage) : Prop := ∀ fee_bps, s.fee_bps = some fee_bps → fee_bps.toNat ≤ 2000

/-- An escrow that was just created. -/
structure Fresh (escrow : EscrowDeposit) : Prop where
  pending : escrow.status = .Pending
  unverified : escrow.verified = false
  unreleased : escrow.released_amount = 0
  positive : 0 < escrow.amount.toInt
  fee_nonneg : 0 ≤ escrow.fee_total.toInt
  fee_le : escrow.fee_total.toInt ≤ escrow.amount.toInt

/-- An event about one escrow takes `s` to `s'`. -/
inductive Effect (env : Env) (s : EscrowStorage) (escrow_id : U64) : Event → EscrowStorage → Prop
  | created {escrow : EscrowDeposit} {s' : EscrowStorage} (hfresh : Fresh escrow)
      (hescrow : s'.escrow = Function.update s.escrow escrow_id (some escrow))
      (hchallenge : s'.challenge = s.challenge) (hdispute : s'.dispute = s.dispute)
      (hrate : s'.fee_bps = s.fee_bps) : Effect env s escrow_id .created s'
  | changed {c c' : Case} {event : Event} {s' : EscrowStorage} (hc : Holds s escrow_id c)
      (hchange : Change env s c event c')
      (hescrow : s'.escrow = Function.update s.escrow escrow_id (some c'.deposit))
      (hchallenge : s'.challenge = Function.update s.challenge escrow_id c'.challenge)
      (hdispute : s'.dispute = Function.update s.dispute escrow_id c'.dispute)
      (hrate : s'.fee_bps = s.fee_bps) : Effect env s escrow_id event s'

/-- Some events take `s` to `s'`. -/
inductive Acts (env : Env) : EscrowStorage → List (U64 × Event) → EscrowStorage → Prop
  | quiet {s s' : EscrowStorage} (hescrow : s'.escrow = s.escrow) (hchallenge : s'.challenge = s.challenge)
      (hdispute : s'.dispute = s.dispute) (hrate : FeeBounded s → FeeBounded s') : Acts env s [] s'
  | act {s s₁ s' : EscrowStorage} {escrow_id : U64} {event : Event} {entries : List (U64 × Event)}
      (heffect : Effect env s escrow_id event s₁) (hrest : Acts env s₁ entries s') :
      Acts env s ((escrow_id, event) :: entries) s'

theorem Acts.single {env : Env} {s s' : EscrowStorage} {escrow_id : U64} {event : Event}
    (h : Effect env s escrow_id event s') : Acts env s [(escrow_id, event)] s' :=
  .act h (.quiet rfl rfl rfl id)

/-! ## What a successful call does -/

section Inversion

variable {env : Env} {s s' : EscrowStorage} {u : Unit} {admin approver caller : Address} {escrow_id : U64}
variable {escrow : EscrowDeposit} {answer : Answer} {amount : I128}

@[simp] theorem silent_eq_ok {call : Call EscrowError EscrowStorage} :
    silent call = .ok (answer, s') ↔ call = .ok s' ∧ answer = .done := by
  simp only [silent, Call.bind_eq_ok, Call.pure_eq_ok, Prod.mk.injEq]
  constructor
  · rintro ⟨s₁, hcall, rfl, rfl⟩
    exact ⟨hcall, rfl⟩
  · rintro ⟨hcall, rfl⟩
    exact ⟨s', hcall, rfl, rfl⟩

@[simp] theorem answering_eq_ok {α : Type} {f : α → Answer} {call : Call EscrowError (α × EscrowStorage)} :
    answering f call = .ok (answer, s') ↔ ∃ a, call = .ok (a, s') ∧ answer = f a := by
  simp only [answering, Call.bind_eq_ok, Call.pure_eq_ok, Prod.mk.injEq]
  constructor
  · rintro ⟨⟨a, s₁⟩, hcall, rfl, rfl⟩
    exact ⟨a, hcall, rfl⟩
  · rintro ⟨a, hcall, rfl⟩
    exact ⟨(a, s'), hcall, rfl, rfl⟩

@[simp] theorem get_escrow_mut_eq_ok : get_escrow_mut s escrow_id = .ok escrow ↔ s.escrow escrow_id = some escrow :=
  ok_or_eq_ok

@[simp] theorem require_not_paused_eq_ok : require_not_paused s = .ok u ↔ paused s = false := by
  rw [require_not_paused, reject_if_eq_ok, Bool.not_eq_true]

@[simp] theorem require_admin_eq_ok :
    require_admin env admin s = .ok u ↔ env.auth admin = true ∧ s.admin = some admin := by
  simp only [require_admin, Call.bind_eq_ok, require_auth_eq_ok, unwrap_eq_ok, reject_if_eq_ok, not_not,
    exists_const]
  refine and_congr_right fun _ => ?_
  constructor
  · rintro ⟨stored, hstored, rfl⟩
    exact hstored
  · intro hstored
    exact ⟨admin, hstored, rfl⟩

@[simp] theorem require_approver_eq_ok : require_approver approver s = .ok u ↔ registered s approver = true := by
  simp only [require_approver, Call.bind_eq_ok, unwrap_eq_ok, reject_if_eq_ok, contains_addr, Bool.not_eq_false,
    registered]
  cases s.approvers with
  | none => simp
  | some => simp

@[simp] theorem push_back_eq_ok {α : Type} {values values' : List α} {value : α} :
    push_back values value = .ok values' ↔ values.length + 1 < 2 ^ 32 ∧ values' = values ++ [value] := by
  unfold push_back
  split_ifs with h
  · rw [Except.ok.injEq]
    exact ⟨fun heq => ⟨h, heq.symm⟩, fun heq => heq.2.symm⟩
  · exact ⟨nofun, fun heq => absurd heq.1 h⟩

theorem len_append_singleton {α : Type} {values : List α} {value : α} {n : U32}
    (hfits : values.length + 1 < 2 ^ 32) :
    len (values ++ [value]) ≥ n ↔ n.toNat ≤ values.length + 1 := by
  rw [ge_iff_le, UInt32.le_iff_toNat_le, len, UInt32.toNat_ofNat', List.length_append, List.length_singleton,
    Nat.mod_eq_of_lt hfits]

theorem toInt_ofNat_u32 (n : U32) : (BitVec.ofNat 128 n.toNat).toInt = n.toNat := by
  have hn := n.toNat_lt
  have htoNat : (BitVec.ofNat 128 n.toNat).toNat = n.toNat := by
    rw [BitVec.toNat_ofNat, Nat.mod_eq_of_lt (lt_trans hn (by decide))]
  rw [BitVec.toInt_eq_toNat_of_lt (by rw [htoNat]; omega), htoNat]

theorem FeeBounded.rate_le (hs : FeeBounded s) : (s.fee_bps.getD 0).toNat ≤ 2000 := by
  cases hfee : s.fee_bps with
  | none => exact Nat.zero_le _
  | some fee_bps => exact hs fee_bps hfee

theorem feeBounded_of_le {fee_bps : U32} (h : ¬2000 < fee_bps) (hs : s.fee_bps = some fee_bps) :
    FeeBounded s := by
  intro fee_bps' hfee
  rw [hs, Option.some.injEq] at hfee
  rw [← hfee]
  exact UInt32.le_iff_toNat_le.mp (UInt32.not_lt.mp h)

/-- A fee of at most a fifth is between nothing and the whole. -/
theorem fee_bounds {x : ℤ} {n : ℕ} (hx : 0 < x) (hn : n ≤ 2000) :
    0 ≤ (x * n).tdiv 10000 ∧ (x * n).tdiv 10000 ≤ x := by
  have hnonneg : 0 ≤ x * n := Int.mul_nonneg hx.le (Int.natCast_nonneg n)
  have hle : x * n ≤ x * 2000 := Int.mul_le_mul_of_nonneg_left (by omega) hx.le
  rw [Int.tdiv_eq_ediv_of_nonneg hnonneg]
  omega

/-- The escrow that a creation stores. -/
theorem create_escrow_effect (hs : FeeBounded s) {depositor recipient verification_contract : Address} {id : U64}
    {bridge_id asset_type metadata verification_ref : SString}
    (h : create_escrow env depositor recipient bridge_id asset_type amount metadata verification_contract
      verification_ref s = .ok (id, s')) : Effect env s id .created s' := by
  simp only [create_escrow, Call.bind_eq_ok, require_not_paused_eq_ok, require_auth_eq_ok, reject_if_eq_ok,
    ok_or_eq_ok, Call.pure_eq_ok, Prod.mk.injEq, exists_const, Option.bind_eq_some_iff] at h
  obtain ⟨-, -, hpositive, -, fee, ⟨product, hproduct, hfee⟩, accrued, -, rfl, rfl⟩ := h
  have hpositive := not_le.mp hpositive
  have hfee : fee.toInt = (amount.toInt * (s.fee_bps.getD 0).toNat).tdiv 10000 := by
    rw [toInt_checked_div hfee, toInt_checked_mul hproduct, toInt_ofNat_u32]
    rfl
  have hbounds := fee_bounds hpositive hs.rate_le
  rw [← hfee] at hbounds
  exact .created ⟨rfl, rfl, rfl, hpositive, hbounds.1, hbounds.2⟩ rfl rfl rfl rfl

/-- What a verification does. -/
theorem sync_verification_effect {verifier_contract : Address} {verified : Bool}
    (h : sync_verification env verifier_contract escrow_id verified s = .ok s') :
    Effect env s escrow_id (.synced verifier_contract verified) s' := by
  simp only [sync_verification, Call.bind_eq_ok, require_auth_eq_ok, get_escrow_mut_eq_ok, reject_if_eq_ok,
    Call.pure_eq_ok, exists_const, not_not, Bool.not_eq_true] at h
  obtain ⟨-, escrow, hescrow, rfl, hopen, rfl⟩ := h
  refine .changed (c := ⟨escrow, _, _⟩) ⟨hescrow, rfl, rfl⟩ (.synced hopen) rfl ?_ ?_ rfl
  all_goals exact (Function.update_eq_self _ _).symm

theorem challenge_escrow_effect {challenger : Address} {reason : SString}
    (h : challenge_escrow env challenger escrow_id reason s = .ok s') :
    Effect env s escrow_id .challenged s' := by
  simp only [challenge_escrow, Call.bind_eq_ok, require_not_paused_eq_ok, require_auth_eq_ok, get_escrow_mut_eq_ok,
    reject_if_eq_ok, Call.pure_eq_ok, exists_const, not_not, Bool.not_eq_true, Option.isSome_eq_false_iff,
    Option.isNone_iff_eq_none, ge_iff_le, UInt64.not_le] at h
  obtain ⟨-, -, escrow, hescrow, hpending, hlocked, hnone, rfl⟩ := h
  refine .changed (c := ⟨escrow, _, _⟩) ⟨hescrow, rfl, rfl⟩ (.challenged hpending hlocked hnone) rfl rfl ?_ rfl
  exact (Function.update_eq_self _ _).symm

theorem release_escrow_effect {enforce_auth : Bool} {paid : I128}
    (h : release_escrow_internal env caller escrow_id amount enforce_auth s = .ok (paid, s')) :
    Effect env s escrow_id (.released amount env.timestamp (lock_of s escrow_id)) s' := by
  simp only [release_escrow_internal, Call.bind_eq_ok, require_not_paused_eq_ok, get_escrow_mut_eq_ok,
    unwrap_eq_ok, reject_if_eq_ok, Call.pure_eq_ok, Prod.mk.injEq, exists_const, not_not, Bool.not_eq_true,
    Bool.not_eq_false, UInt64.not_lt, not_le, not_lt] at h
  obtain ⟨-, -, -, admin, -, escrow, hescrow, -, hopen, hunchallenged, hverified, hlock, hamount, -, hleft, rfl, rfl⟩ := h
  have hpending : escrow.status = .Pending := by
    cases hstatus : escrow.status <;> simp_all [is_over]
  rw [show lock_of s escrow_id = escrow.lock_until by rw [lock_of, hescrow]; rfl]
  refine .changed (c := ⟨escrow, _, _⟩) ⟨hescrow, rfl, rfl⟩
    (.released hpending hverified hlock hamount hleft rfl ?_) rfl ?_ ?_ rfl
  · rw [hpending]
    exact ite_eq_or_eq _ _ _
  all_goals exact (Function.update_eq_self _ _).symm

theorem refund_escrow_effect (h : refund_escrow env caller escrow_id s = .ok (amount, s')) :
    Effect env s escrow_id (.refunded amount) s' := by
  simp only [refund_escrow, Call.bind_eq_ok, require_not_paused_eq_ok, require_auth_eq_ok, get_escrow_mut_eq_ok,
    unwrap_eq_ok, reject_if_eq_ok, Call.pure_eq_ok, Prod.mk.injEq, exists_const, Bool.not_eq_true] at h
  obtain ⟨-, -, admin, -, escrow, hescrow, -, hopen, -, -, hsome, rfl, rfl⟩ := h
  refine .changed (c := ⟨escrow, _, _⟩) ⟨hescrow, rfl, rfl⟩ (.refunded hopen rfl (not_le.mp hsome)) rfl ?_ ?_ rfl
  all_goals exact (Function.update_eq_self _ _).symm

theorem extend_lock_effect {extra_secs lock_until : U64}
    (h : extend_lock env admin escrow_id extra_secs s = .ok (lock_until, s')) :
    Effect env s escrow_id .extended s' := by
  simp only [extend_lock, Call.bind_eq_ok, require_admin_eq_ok, get_escrow_mut_eq_ok, reject_if_eq_ok,
    Call.pure_eq_ok, Prod.mk.injEq, exists_const] at h
  obtain ⟨-, -, escrow, hescrow, -, -, rfl⟩ := h
  refine .changed (c := ⟨escrow, _, _⟩) ⟨hescrow, rfl, rfl⟩ .extended rfl ?_ ?_ rfl
  all_goals exact (Function.update_eq_self _ _).symm

theorem emergency_recover_effect (h : emergency_recover env admin escrow_id amount s = .ok s') :
    Effect env s escrow_id (.recovered amount (covered s escrow_id amount)) s' := by
  simp only [emergency_recover, Call.bind_eq_ok, require_admin_eq_ok, get_escrow_mut_eq_ok, reject_if_eq_ok,
    Call.pure_eq_ok, exists_const, not_or, not_le] at h
  obtain ⟨-, -, escrow, hescrow, ⟨hamount, -⟩, rfl⟩ := h
  rw [covered, hescrow, Option.any_some]
  refine .changed (c := ⟨escrow, _, _⟩) ⟨hescrow, rfl, rfl⟩ (.recovered hamount rfl ?_) rfl ?_ ?_ rfl
  · exact ite_eq_or_eq _ _ _
  all_goals exact (Function.update_eq_self _ _).symm

/-- The dispute that a vote is counted in. -/
def dispute_for (s : EscrowStorage) (escrow_id : U64) (release_allowed : Bool) : DisputeResolution :=
  (s.dispute escrow_id).getD
    { escrow_id, decision_release := release_allowed, approvals := []
      required_approvals := s.approval_threshold.getD 1, resolved := false }

/-- The storage with one more vote. -/
def counted (s : EscrowStorage) (escrow_id : U64) (escrow : EscrowDeposit) (dispute : DisputeResolution)
    (approver : Address) : EscrowStorage :=
  let approvals := dispute.approvals ++ [approver]
  let resolved := decide (dispute.required_approvals.toNat ≤ approvals.length)
  let status := if resolved && dispute.decision_release then .Pending else escrow.status
  set_escrow escrow_id { escrow with status } (set_dispute escrow_id { dispute with approvals, resolved } s)

/-- When a vote is accepted, and what it does: nothing where the dispute is resolved, or it is counted. -/
theorem resolve_challenge_eq_ok {release_allowed resolved : Bool} :
    resolve_challenge env approver escrow_id release_allowed s = .ok (resolved, s') ↔
      paused s = false ∧ env.auth approver = true ∧ registered s approver = true ∧
        ∃ escrow, s.escrow escrow_id = some escrow ∧ escrow.status = .Challenged ∧
          ((dispute_for s escrow_id release_allowed).resolved = true ∧ resolved = true ∧ s' = s ∨
            (dispute_for s escrow_id release_allowed).resolved = false ∧
            (dispute_for s escrow_id release_allowed).decision_release = release_allowed ∧
            approver ∉ (dispute_for s escrow_id release_allowed).approvals ∧
            (dispute_for s escrow_id release_allowed).approvals.length + 1 < 2 ^ 32 ∧
            resolved = decide ((dispute_for s escrow_id release_allowed).required_approvals.toNat ≤
              (dispute_for s escrow_id release_allowed).approvals.length + 1) ∧
            s' = counted s escrow_id escrow (dispute_for s escrow_id release_allowed) approver) := by
  have hfor : (s.dispute escrow_id).getD
      { escrow_id, decision_release := release_allowed, approvals := []
        required_approvals := s.approval_threshold.getD 1, resolved := false } =
      dispute_for s escrow_id release_allowed := rfl
  simp only [resolve_challenge, hfor, Call.bind_eq_ok, require_not_paused_eq_ok, require_auth_eq_ok,
    require_approver_eq_ok, get_escrow_mut_eq_ok, reject_if_eq_ok, Call.ite_eq_ok, push_back_eq_ok,
    Call.pure_eq_ok, Prod.mk.injEq, exists_const, not_not, Bool.not_eq_true, contains_addr,
    List.contains_eq_mem, decide_eq_false_iff_not]
  generalize dispute_for s escrow_id release_allowed = dispute
  have hlength : (dispute.approvals ++ [approver]).length = dispute.approvals.length + 1 := List.length_append
  refine and_congr_right fun _ => and_congr_right fun _ => and_congr_right fun _ => exists_congr fun escrow =>
    and_congr_right fun _ => and_congr_right fun _ => or_congr_right (and_congr_right fun _ =>
      and_congr_right fun _ => and_congr_right fun _ => ?_)
  constructor
  · rintro ⟨_, ⟨hfits, rfl⟩, rfl, rfl⟩
    simp only [counted, len_append_singleton hfits, hlength, and_true]
    exact hfits
  · rintro ⟨hfits, rfl, rfl⟩
    refine ⟨_, ⟨hfits, rfl⟩, ?_⟩
    simp only [counted, len_append_singleton hfits, hlength, and_true]

/-- What a vote does to its escrow. -/
theorem resolve_challenge_spec {release_allowed resolved : Bool}
    (h : resolve_challenge env approver escrow_id release_allowed s = .ok (resolved, s')) :
    (s.dispute escrow_id).any DisputeResolution.resolved = true ∧ s' = s ∨
      (s.dispute escrow_id).any DisputeResolution.resolved = false ∧
        ∃ dispute, s'.dispute escrow_id = some dispute ∧
          Effect env s escrow_id (.voted approver release_allowed (registered s approver)
            dispute.required_approvals dispute.resolved) s' := by
  obtain ⟨-, -, hregistered, escrow, hescrow, hchallenged, h⟩ := resolve_challenge_eq_ok.mp h
  have hvoted : ∀ {dispute : DisputeResolution}, (s.dispute escrow_id = some dispute ∨
      s.dispute escrow_id = none ∧ dispute.approvals = []) → dispute.resolved = false →
      dispute.decision_release = release_allowed → approver ∉ dispute.approvals →
      dispute.approvals.length + 1 < 2 ^ 32 → s' = counted s escrow_id escrow dispute approver →
      ∃ dispute, s'.dispute escrow_id = some dispute ∧ Effect env s escrow_id (.voted approver release_allowed
        (registered s approver) dispute.required_approvals dispute.resolved) s' := by
    rintro dispute hdispute hopen rfl hnew hfits rfl
    refine ⟨_, Function.update_self _ _ _, ?_⟩
    rw [hregistered]
    refine .changed (c := ⟨escrow, _, _⟩) ⟨hescrow, rfl, rfl⟩
      (.voted hchallenged hregistered hdispute hopen hnew hfits ?_) rfl ?_ rfl rfl
    · rw [decide_eq_true_iff, List.length_append, List.length_singleton]
    · exact (Function.update_eq_self _ _).symm
  cases hdispute : s.dispute escrow_id with
  | none =>
      rw [dispute_for, hdispute, Option.getD_none] at h
      rcases h with ⟨hresolved, -⟩ | ⟨hopen, hdecision, hnew, hfits, -, hs'⟩
      · cases hresolved
      · exact Or.inr ⟨rfl, hvoted (Or.inr ⟨hdispute, rfl⟩) hopen hdecision hnew hfits hs'⟩
  | some =>
      rw [dispute_for, hdispute, Option.getD_some] at h
      rcases h with ⟨hresolved, -, hs'⟩ | ⟨hopen, hdecision, hnew, hfits, -, hs'⟩
      · exact Or.inl ⟨hresolved, hs'⟩
      · exact Or.inr ⟨hopen, hvoted (Or.inl hdispute) hopen hdecision hnew hfits hs'⟩

/-- A release leaves the locks as they are. -/
theorem lock_of_released {timestamp lock_until : U64}
    (h : Effect env s escrow_id (.released amount timestamp lock_until) s') : lock_of s' = lock_of s := by
  cases h with
  | changed hc hchange hescrow =>
      funext id
      by_cases hid : id = escrow_id
      · rw [lock_of, lock_of, hescrow, hid, Function.update_self, hc.deposit]
        cases hchange
        rfl
      · rw [lock_of, lock_of, hescrow, Function.update_of_ne hid]

theorem release_each_acts {escrow_ids : List U64} {paid : List I128}
    (h : release_each env caller amount escrow_ids s = .ok (paid, s')) :
    Acts env s (escrow_ids.map fun escrow_id => (escrow_id, .released amount env.timestamp (lock_of s escrow_id)))
      s' := by
  induction escrow_ids generalizing s paid with
  | nil =>
      rw [release_each, Except.ok.injEq, Prod.mk.injEq] at h
      rw [← h.2]
      exact .quiet rfl rfl rfl id
  | cons _ _ ih =>
      simp only [release_each, Call.bind_eq_ok, Call.pure_eq_ok, Prod.mk.injEq] at h
      obtain ⟨⟨amt, s₁⟩, hrelease, ⟨rest, s₂⟩, hrest, -, rfl⟩ := h
      have heffect := release_escrow_effect hrelease
      have hrest := ih hrest
      rw [lock_of_released heffect] at hrest
      exact .act heffect hrest

/-- **What a successful call does to the escrows.** -/
theorem acts_of_exec {call : EntryPoint} (hs : FeeBounded s) (h : exec env s call = .ok (answer, s')) :
    Acts env s (events env s answer s' call) s' := by
  cases call with
  | create_escrow =>
      rw [exec, answering_eq_ok] at h
      obtain ⟨id, hcall, rfl⟩ := h
      exact .single (create_escrow_effect hs hcall)
  | sync_verification =>
      rw [exec, silent_eq_ok] at h
      exact .single (sync_verification_effect h.1)
  | challenge_escrow =>
      rw [exec, silent_eq_ok] at h
      exact .single (challenge_escrow_effect h.1)
  | resolve_challenge _ escrow_id =>
      rw [exec, answering_eq_ok] at h
      obtain ⟨resolved, hcall, rfl⟩ := h
      rcases resolve_challenge_spec hcall with ⟨hresolved, rfl⟩ | ⟨hopen, dispute, hdispute, heffect⟩
      · rw [events, hresolved]
        cases s'.dispute escrow_id with
        | none | some => exact .quiet rfl rfl rfl id
      · rw [events, hdispute, hopen]
        exact .single heffect
  | release_escrow =>
      rw [exec, answering_eq_ok] at h
      obtain ⟨paid, hcall, rfl⟩ := h
      exact .single (release_escrow_effect hcall)
  | batch_release =>
      rw [exec, answering_eq_ok] at h
      obtain ⟨paid, hcall, rfl⟩ := h
      simp only [batch_release, Call.bind_eq_ok, require_not_paused_eq_ok, require_auth_eq_ok, exists_const] at hcall
      exact release_each_acts hcall.2.2
  | refund_escrow =>
      rw [exec, answering_eq_ok] at h
      obtain ⟨paid, hcall, rfl⟩ := h
      exact .single (refund_escrow_effect hcall)
  | extend_lock =>
      rw [exec, answering_eq_ok] at h
      obtain ⟨lock_until, hcall, rfl⟩ := h
      exact .single (extend_lock_effect hcall)
  | emergency_recover =>
      rw [exec, silent_eq_ok] at h
      exact .single (emergency_recover_effect h.1)
  | collect_fees =>
      rw [exec, answering_eq_ok] at h
      obtain ⟨paid, hcall, rfl⟩ := h
      simp only [collect_fees, Call.bind_eq_ok, require_auth_eq_ok, unwrap_eq_ok, reject_if_eq_ok, Call.pure_eq_ok,
        Prod.mk.injEq, exists_const] at hcall
      obtain ⟨-, configured, -, -, -, -, -, rfl⟩ := hcall
      exact .quiet rfl rfl rfl id
  | initialize_escrow =>
      rw [exec, silent_eq_ok] at h
      simp only [initialize_escrow, Call.bind_eq_ok, require_auth_eq_ok, reject_if_eq_ok, Call.pure_eq_ok,
        exists_const] at h
      obtain ⟨⟨-, -, hfee, -, rfl⟩, -⟩ := h
      exact .quiet rfl rfl rfl fun _ => feeBounded_of_le hfee rfl
  | set_fee_config =>
      rw [exec, silent_eq_ok] at h
      simp only [set_fee_config, Call.bind_eq_ok, require_admin_eq_ok, reject_if_eq_ok, Call.pure_eq_ok,
        exists_const] at h
      obtain ⟨⟨-, hfee, rfl⟩, -⟩ := h
      exact .quiet rfl rfl rfl fun _ => feeBounded_of_le hfee rfl
  | set_lock_period | set_approvers =>
      rw [exec, silent_eq_ok] at h
      simp only [set_lock_period, set_approvers, Call.bind_eq_ok, require_admin_eq_ok, reject_if_eq_ok, Call.pure_eq_ok,
        exists_const] at h
      obtain ⟨⟨-, -, rfl⟩, -⟩ := h
      exact .quiet rfl rfl rfl id
  | set_emergency_pause =>
      rw [exec, silent_eq_ok] at h
      simp only [set_emergency_pause, Call.bind_eq_ok, require_admin_eq_ok, Call.pure_eq_ok, exists_const] at h
      obtain ⟨⟨-, rfl⟩, -⟩ := h
      exact .quiet rfl rfl rfl id

end Inversion

/-! ## Invariants of runs -/

section Invariants

variable {s s' : EscrowStorage} {log log' : U64 → List Event} {entries : List (U64 × Event)}
variable {I : EscrowStorage → (U64 → List Event) → Prop} {A : Event → Prop}

/-- What is kept by every event that `A` admits, and depends on the escrows alone. -/
structure Kept (A : Event → Prop) (I : EscrowStorage → (U64 → List Event) → Prop) : Prop where
  quiet : ∀ {s s' log}, I s log → s'.escrow = s.escrow → s'.challenge = s.challenge → s'.dispute = s.dispute →
    I s' log
  effect : ∀ {env s s' log escrow_id event}, I s log → A event → Effect env s escrow_id event s' →
    I s' (record begins log (escrow_id, event))

theorem Effect.feeBounded {env : Env} {escrow_id : U64} {event : Event} (h : Effect env s escrow_id event s')
    (hs : FeeBounded s) : FeeBounded s' := by
  cases h with
  | created _ _ _ _ hrate | changed _ _ _ _ _ hrate =>
      intro fee_bps hfee
      exact hs fee_bps (hrate ▸ hfee)

theorem Kept.acts {env : Env} (hI : Kept A I) (hs : FeeBounded s) (hlog : I s log) (h : Acts env s entries s')
    (hA : ∀ entry ∈ entries, A entry.2) : FeeBounded s' ∧ I s' (record_all begins log entries) := by
  induction h generalizing log with
  | quiet hescrow hchallenge hdispute hrate => exact ⟨hrate hs, hI.quiet hlog hescrow hchallenge hdispute⟩
  | act heffect _ ih =>
      rw [record_all_cons]
      exact ih (heffect.feeBounded hs) (hI.effect hlog (hA _ List.mem_cons_self) heffect)
        fun entry hentry => hA entry (List.mem_cons_of_mem _ hentry)

/-- The events of the call, if it succeeds, are such as `A` admits. -/
def Admits (A : Event → Prop) (w : World) (call : Env × EntryPoint) : Prop :=
  ∀ answer s', exec call.1 w.storage call.2 = .ok (answer, s') →
    ∀ entry ∈ events call.1 w.storage answer s' call.2, A entry.2

/-- **The invariant rule for runs of the escrow contract.** -/
theorem Kept.run {calls : List (Env × EntryPoint)} (hI : Kept A I) (hempty : I empty_storage fun _ => [])
    (hcalls : Runs.Along step (Admits A) ⟨empty_storage, fun _ => []⟩ calls) :
    I (run calls).storage (run calls).history := by
  refine (Runs.run_invariant (I := fun w => FeeBounded w.storage ∧ I w.storage w.history) ?_
    ⟨fun _ hfee => absurd hfee (by simp [empty_storage]), hempty⟩ hcalls).2
  rintro w call ⟨hs, hlog⟩ hadmits
  unfold step
  split
  · next answer s' hexec => exact hI.acts hs hlog (acts_of_exec hs hexec) (hadmits answer s' hexec)
  · exact ⟨hs, hlog⟩

/-- The rule for what every event keeps. -/
theorem Kept.run_all {calls : List (Env × EntryPoint)} (hI : Kept (fun _ => True) I)
    (hempty : I empty_storage fun _ => []) : I (Escrow.run calls).storage (Escrow.run calls).history :=
  hI.run hempty (Runs.Along.of_forall fun _ _ _ _ _ _ _ => trivial)

/-- What is stored of challenges fits together: there is none on a challenged escrow, and no dispute, without
its record. -/
structure Case.Linked (c : Case) : Prop where
  dispute : c.challenge = none → c.dispute = none
  status : c.deposit.status = .Challenged → c.challenge ≠ none

theorem Change.linked {env : Env} {c c' : Case} {event : Event} (h : Change env s c event c') (hc : c.Linked) :
    c'.Linked := by
  cases h with
  | synced | extended => exact ⟨hc.dispute, hc.status⟩
  | challenged => exact ⟨nofun, fun _ => nofun⟩
  | voted hchallenged =>
      exact ⟨fun hnone => absurd hnone (hc.status hchallenged), fun _ => hc.status hchallenged⟩
  | released _ _ _ _ _ _ hstatus =>
      refine ⟨hc.dispute, fun hchallenged => ?_⟩
      rcases hstatus with rfl | rfl <;> cases hchallenged
  | refunded => exact ⟨hc.dispute, nofun⟩
  | recovered _ _ hstatus =>
      refine ⟨hc.dispute, fun hchallenged => ?_⟩
      rcases hstatus with rfl | rfl
      · cases hchallenged
      · exact hc.status hchallenged

/-- What is kept by a creation and by every change that `A` admits, of an escrow and its history. -/
structure CaseKept (A : Event → Prop) (J : Case → List Event → Prop) : Prop where
  created : ∀ {c : Case}, Fresh c.deposit → (c.challenge = none → c.dispute = none) → J c [.created]
  change : ∀ {env s c c' event h}, c.Linked → J c h → A event → Change env s c event c' → J c' (h ++ [event])

/-- `J` holds of the stored escrows and their histories, and what is stored of challenges fits together. -/
structure OfCases (J : Case → List Event → Prop) (s : EscrowStorage) (log : U64 → List Event) : Prop where
  dispute : ∀ escrow_id, s.challenge escrow_id = none → s.dispute escrow_id = none
  linked : ∀ escrow_id c, Holds s escrow_id c → c.Linked
  holds : ∀ escrow_id c, Holds s escrow_id c → J c (log escrow_id)

/-- A creation is the only event without a change. -/
theorem Change.not_begins {env : Env} {c c' : Case} {event : Event} (h : Change env s c event c') :
    begins event = false := by
  cases h <;> rfl

theorem Holds.of_eq {escrow_id : U64} {c : Case} (h : Holds s' escrow_id c)
    (hescrow : s'.escrow escrow_id = s.escrow escrow_id) (hchallenge : s'.challenge escrow_id = s.challenge escrow_id)
    (hdispute : s'.dispute escrow_id = s.dispute escrow_id) : Holds s escrow_id c :=
  ⟨hescrow ▸ h.deposit, hchallenge ▸ h.challenge, hdispute ▸ h.dispute⟩

theorem Holds.unique {escrow_id : U64} {c c' : Case} (h : Holds s escrow_id c) (h' : Holds s escrow_id c') :
    c = c' := by
  obtain ⟨deposit, challenge, dispute⟩ := c
  obtain ⟨deposit', challenge', dispute'⟩ := c'
  obtain rfl : deposit = deposit' := Option.some.inj (h.deposit.symm.trans h'.deposit)
  obtain rfl : challenge = challenge' := h.challenge.symm.trans h'.challenge
  obtain rfl : dispute = dispute' := h.dispute.symm.trans h'.dispute
  rfl

/-- An event about one escrow leaves the others alone. -/
theorem Effect.other {env : Env} {escrow_id id : U64} {event : Event} (h : Effect env s escrow_id event s')
    (hid : id ≠ escrow_id) :
    s'.escrow id = s.escrow id ∧ s'.challenge id = s.challenge id ∧ s'.dispute id = s.dispute id := by
  cases h with
  | created _ hescrow hchallenge hdispute =>
      rw [hescrow, hchallenge, hdispute, Function.update_of_ne hid]
      exact ⟨rfl, rfl, rfl⟩
  | changed _ _ hescrow hchallenge hdispute =>
      rw [hescrow, hchallenge, hdispute, Function.update_of_ne hid, Function.update_of_ne hid,
        Function.update_of_ne hid]
      exact ⟨rfl, rfl, rfl⟩

/-- What an event leaves of its escrow. -/
theorem Effect.case {env : Env} {escrow_id : U64} {event : Event} {c' : Case}
    (h : Effect env s escrow_id event s') (hc' : Holds s' escrow_id c') :
    event = .created ∧ Fresh c'.deposit ∧ c'.challenge = s.challenge escrow_id ∧ c'.dispute = s.dispute escrow_id ∨
      ∃ c, Holds s escrow_id c ∧ Change env s c event c' := by
  cases h with
  | created hfresh hescrow hchallenge hdispute =>
      left
      have hdeposit := hc'.deposit
      rw [hescrow, Function.update_self, Option.some.injEq] at hdeposit
      exact ⟨rfl, hdeposit ▸ hfresh, by rw [← hc'.challenge, hchallenge], by rw [← hc'.dispute, hdispute]⟩
  | @changed c c₁ _ _ hc hchange hescrow hchallenge hdispute =>
      right
      have hc₁ : Holds s' escrow_id c₁ := by
        constructor
        · rw [hescrow, Function.update_self]
        · rw [hchallenge, Function.update_self]
        · rw [hdispute, Function.update_self]
      rw [hc'.unique hc₁]
      exact ⟨c, hc, hchange⟩

theorem CaseKept.kept {J : Case → List Event → Prop} (hJ : CaseKept A J) : Kept A (OfCases J) where
  quiet h hescrow hchallenge hdispute := by
    have hback : ∀ {escrow_id c}, Holds _ escrow_id c → Holds _ escrow_id c := fun hc =>
      hc.of_eq (congrFun hescrow _) (congrFun hchallenge _) (congrFun hdispute _)
    refine ⟨?_, fun escrow_id c hc => h.linked escrow_id c (hback hc),
      fun escrow_id c hc => h.holds escrow_id c (hback hc)⟩
    rw [hchallenge, hdispute]
    exact h.dispute
  effect {env s s' log escrow_id event} h hA heffect := by
    -- For another escrow nothing has changed; for this one it is a creation, or a change.
    have hother : ∀ {id c}, id ≠ escrow_id → Holds s' id c → Holds s id c := by
      intro id c hid hc
      obtain ⟨hescrow, hchallenge, hdispute⟩ := heffect.other hid
      exact hc.of_eq hescrow hchallenge hdispute
    refine ⟨?_, ?_, ?_⟩
    · intro id hnone
      by_cases hid : id = escrow_id
      · rw [hid] at hnone ⊢
        cases heffect with
        | created _ _ hchallenge hdispute =>
            rw [hchallenge] at hnone
            rw [hdispute]
            exact h.dispute escrow_id hnone
        | changed hc hchange _ hchallenge hdispute =>
            rw [hchallenge, Function.update_self] at hnone
            rw [hdispute, Function.update_self]
            exact (hchange.linked (h.linked escrow_id _ hc)).dispute hnone
      · obtain ⟨-, hchallenge, hdispute⟩ := heffect.other hid
        rw [hchallenge] at hnone
        rw [hdispute]
        exact h.dispute id hnone
    · intro id c hc
      by_cases hid : id = escrow_id
      · rw [hid] at hc
        rcases heffect.case hc with ⟨-, hfresh, hchallenge, hdispute⟩ | ⟨c₀, hc₀, hchange⟩
        · refine ⟨?_, ?_⟩
          · rw [hchallenge, hdispute]
            exact h.dispute escrow_id
          · rw [hfresh.pending]
            exact nofun
        · exact hchange.linked (h.linked escrow_id c₀ hc₀)
      · exact h.linked id c (hother hid hc)
    · intro id c hc
      by_cases hid : id = escrow_id
      · rw [hid] at hc ⊢
        rcases heffect.case hc with ⟨rfl, hfresh, hchallenge, hdispute⟩ | ⟨c₀, hc₀, hchange⟩
        · rw [record_anew rfl]
          apply hJ.created hfresh
          rw [hchallenge, hdispute]
          exact h.dispute escrow_id
        · rw [record_next hchange.not_begins]
          exact hJ.change (h.linked escrow_id c₀ hc₀) (h.holds escrow_id c₀ hc₀) hA hchange
      · rw [record_of_ne hid]
        exact h.holds id c (hother hid hc)

theorem ofCases_empty {J : Case → List Event → Prop} : OfCases J empty_storage fun _ => [] := by
  have hnone : ∀ {escrow_id c}, ¬Holds empty_storage escrow_id c := by
    intro escrow_id c hc
    have hnone : empty_storage.escrow escrow_id = none := rfl
    rw [hc.deposit] at hnone
    cases hnone
  exact ⟨fun _ _ => rfl, fun _ _ hc => absurd hc hnone, fun _ _ hc => absurd hc hnone⟩

end Invariants

end BridgeWatch.Escrow

/-
The votes on a proposal.

A vote counts the power that its voter votes with at that moment. While the ballot is open a power may move
by a delegation, and if it moves from one that has voted to one that has not, it is counted again. In a run
without such moves each power is counted once, for the holder it has.
-/
import BridgeWatch.GovernancePower

set_option autoImplicit false

namespace BridgeWatch.Governance

open Transaction HostCalls DelegatedPower Totals
open Contract (U32 U64 SString Address Env)

/-- The votes on a proposal, none when there is no proposal. -/
def tally (s : GovernanceStorage) (id : U32) : ℤ := (s (.Proposal id)).elim 0 Proposal.votes

/-- The votes in the record of a voter. -/
def recorded_votes (s : GovernanceStorage) (id : U32) (v : Address) : ℤ :=
  (s (.VoteRecord id v)).elim 0 VoteRecord.effective_votes

def has_voted (s : GovernanceStorage) (id : U32) (v : Address) : Bool := (s (.VoteRecord id v)).isSome

/-- No power is counted twice on the proposal. -/
structure CountedOnce (s : GovernanceStorage) (id : U32) : Prop where
  le_supply : tally s id ≤ (books s).supply
  recorded : HasTotal (recorded_votes s id) (tally s id)

/-- Votes are not quadratic, and no power is set once there is the proposal. -/
def plain_ballot (id : U32) (s : GovernanceStorage) (call : Env × EntryPoint) : Bool :=
  match call.2 with
  | .initialize_governance _ cfg => !cfg.use_quadratic
  | .update_config cfg => !cfg.use_quadratic
  | .set_voting_power _ _ => (s (.Proposal id)).isNone
  | _ => true

/-- The power of `u` may go to `d`: there is none, its holder has not voted, `d` has voted, or there is no voting. -/
def may_move (s : GovernanceStorage) (id : U32) (u d : Address) : Bool :=
  (books s).power u == 0 || !has_voted s id ((books s).holder u) || has_voted s id d ||
    (s (.Proposal id)).all fun p => p.status != .Active

/-- The call moves no power that has been voted with, and sets no power that is delegated away. -/
def keeps_counted (id : U32) (s : GovernanceStorage) (call : Env × EntryPoint) : Bool :=
  match call.2 with
  | .delegate_votes u d => may_move s id u d
  | .undelegate_votes u => may_move s id u u
  | _ => sets_own_power s call

section Votes

variable {env : Env} {s s' : GovernanceStorage} {call : EntryPoint} {calls : List (Env × EntryPoint)} {id : U32}

theorem tally_congr (h : s' (.Proposal id) = s (.Proposal id)) : tally s' id = tally s id := by rw [tally, h, tally]

theorem tally_of_some {p : Proposal} (h : s (.Proposal id) = some p) : tally s id = p.votes := by
  rw [tally, h, Option.elim_some]

theorem tally_of_none (h : s (.Proposal id) = none) : tally s id = 0 := by rw [tally, h, Option.elim_none]

theorem recorded_congr {v : Address} (h : s' (.VoteRecord id v) = s (.VoteRecord id v)) :
    recorded_votes s' id v = recorded_votes s id v := by
  rw [recorded_votes, h, recorded_votes]

/-! ## The records -/

/-- The votes of a proposal are those of its records, and one without votes has none. -/
structure Recorded (s : GovernanceStorage) (id : U32) : Prop where
  unvoted : (∀ p, s (.Proposal id) = some p → p.status = .Pending) → ∀ v, s (.VoteRecord id v) = none
  pending : ∀ p, s (.Proposal id) = some p → p.status = .Pending → p.votes = 0
  total : HasTotal (recorded_votes s id) (tally s id)

theorem Recorded.congr (hs : Recorded s id) (hproposal : s' (.Proposal id) = s (.Proposal id))
    (hrecords : ∀ v, s' (.VoteRecord id v) = s (.VoteRecord id v)) : Recorded s' id := by
  refine ⟨?_, ?_, ?_⟩
  · intro hp v
    rw [hproposal] at hp
    rw [hrecords]
    exact hs.unvoted hp v
  · rw [hproposal]
    exact hs.pending
  · rw [tally_congr hproposal]
    exact hs.total.congr fun v => recorded_congr (hrecords v)

theorem Advance.votes_eq {now : U64} {p q : Proposal} (h : Advance now s id p call q) : q.votes = p.votes := by
  cases h <;> rfl

/-- A proposal that advances is not pending any more. -/
theorem Advance.not_pending {now : U64} {p q : Proposal} (h : Advance now s id p call q) : q.status ≠ .Pending := by
  cases h with
  | finalized =>
      dsimp only
      split_ifs <;> decide
  | _ => simp

/-- The only way to be voted on is to be activated. -/
theorem Advance.pending_of_active {now : U64} {p q : Proposal} (h : Advance now s id p call q)
    (hactive : q.status = .Active) : p.status = .Pending := by
  cases h with
  | activated hstatus => exact hstatus
  | finalized =>
      dsimp only at hactive
      split_ifs at hactive
  | _ => cases hactive

theorem Recorded.advanced (hs : Recorded s id) {now : U64} {p q : Proposal} (hload : s (.Proposal id) = some p)
    (hadvance : Advance now s id p call q) (hproposal : s' (.Proposal id) = some q)
    (hrecords : ∀ v, s' (.VoteRecord id v) = s (.VoteRecord id v)) : Recorded s' id := by
  refine ⟨?_, ?_, ?_⟩
  · intro hp
    exact absurd (hp q hproposal) hadvance.not_pending
  · intro q' hq' hpending
    rw [hproposal] at hq'
    obtain rfl := Option.some.inj hq'
    exact absurd hpending hadvance.not_pending
  · rw [tally_of_some hproposal, hadvance.votes_eq, ← tally_of_some hload]
    exact hs.total.congr fun v => recorded_congr (hrecords v)

theorem Recorded.created (hs : Recorded s id) {p : Proposal} (hnone : s (.Proposal id) = none)
    (hpending : p.status = .Pending) (hvotes : p.votes = 0) (hproposal : s' (.Proposal id) = some p)
    (hrecords : ∀ v, s' (.VoteRecord id v) = s (.VoteRecord id v)) : Recorded s' id := by
  refine ⟨?_, ?_, ?_⟩
  · intro _ v
    rw [hrecords]
    exact hs.unvoted (fun q hq => by rw [hnone] at hq; cases hq) v
  · intro q hq _
    rw [hproposal] at hq
    rwa [← Option.some.inj hq]
  · rw [tally_of_some hproposal, hvotes, ← tally_of_none hnone]
    exact hs.total.congr fun v => recorded_congr (hrecords v)

theorem recorded_step (hfounded : Founded s) (hs : Recorded s id) (h : Outcome env s call s') : Recorded s' id := by
  cases h with
  | opened _ _ _ _ _ hframe | powered _ _ _ hframe | guarded _ hframe | unguarded hframe
  | configured _ _ hframe => exact hs.congr (hframe _ (by simp)) fun v => hframe _ (by simp)
  | delegated _ _ hframe | undelegated _ hframe =>
      exact hs.congr (hframe _ (by simp) (by simp)) fun v => hframe _ (by simp) (by simp)
  | @created _ _ _ _ _ _ id' _ _ _ _ hid _ _ hpending hvotes hproposal hframe =>
      have hrecords : ∀ v, s' (.VoteRecord id v) = s (.VoteRecord id v) := fun v => hframe _ (by simp)
      by_cases heq : id = id'
      · subst heq
        exact hs.created (hfounded.fresh hid) hpending hvotes hproposal hrecords
      · exact hs.congr (hframe _ (by simpa using heq)) hrecords
  | @voted v id' choice p cfg _ hload hstatus _ hnone _ _ hrecord hproposal hframe =>
      by_cases heq : id = id'
      · subst heq
        have hactive : (p.with_votes choice (effective_votes cfg ((books s).effective v))).status ≠ .Pending := by
          rw [status_with_votes, hstatus]
          decide
        refine ⟨fun hp => absurd (hp _ hproposal) hactive, ?_, ?_⟩
        · intro q hq hpending
          rw [hproposal] at hq
          rw [← Option.some.inj hq] at hpending
          exact absurd hpending hactive
        · rw [tally_of_some hproposal, votes_with_votes, ← tally_of_some hload]
          apply hs.total.change_to v
          · intro w hw
            exact recorded_congr (hframe _ (by simpa using hw))
          · simp [recorded_votes, hrecord, hnone]
      · exact hs.congr (hframe _ (by simpa using heq)) fun w => hframe _ (by simp [heq])
  | approved _ _ _ _ _ hframe =>
      exact hs.congr (hframe _ (by simp)) fun v => hframe _ (by simp)
  | @advanced _ id' _ _ _ hload hadvance hproposal hframe =>
      have hrecords : ∀ v, s' (.VoteRecord id v) = s (.VoteRecord id v) := fun v => hframe _ (by simp)
      by_cases heq : id = id'
      · subst heq
        exact hs.advanced hload hadvance hproposal hrecords
      · exact hs.congr (hframe _ (by simpa using heq)) hrecords

theorem recorded_empty : Recorded empty_storage id :=
  ⟨fun _ _ => rfl, fun _ h => (by cases h), hasTotal_zero⟩

/-! ## The ballot -/

/-- The powers are exact, a vote has the power that it is cast with, and no power is counted twice. -/
structure Ballot (s : GovernanceStorage) (id : U32) : Prop where
  recorded : Recorded s id
  exact : (books s).Exact
  plain : ∀ cfg, s .Config = some cfg → cfg.use_quadratic = false
  le_supply : tally s id ≤ (books s).supply
  covers : ∀ p, s (.Proposal id) = some p → p.status = .Active → (books s).Covers (has_voted s id) p.votes

theorem supply_nonneg (h : (books s).Exact) : 0 ≤ (books s).supply := h.supply.nonneg h.power_nonneg

theorem has_voted_congr (h : ∀ v, s' (.VoteRecord id v) = s (.VoteRecord id v)) : has_voted s' id = has_voted s id := by
  funext v
  rw [has_voted, h, has_voted]

/-- The call leaves the powers and the proposal alone. -/
theorem Ballot.congr (hs : Ballot s id) (hbooks : books s' = books s)
    (hplain : ∀ cfg, s' .Config = some cfg → cfg.use_quadratic = false)
    (hproposal : s' (.Proposal id) = s (.Proposal id))
    (hrecords : ∀ v, s' (.VoteRecord id v) = s (.VoteRecord id v)) : Ballot s' id := by
  refine ⟨hs.recorded.congr hproposal hrecords, hbooks ▸ hs.exact, hplain, ?_, ?_⟩
  · rw [tally_congr hproposal, hbooks]
    exact hs.le_supply
  · intro p hp hactive
    rw [hproposal] at hp
    rw [hbooks, has_voted_congr hrecords]
    exact hs.covers p hp hactive

theorem Ballot.of_frame {P : DataKey → Prop} (hs : Ballot s id) (hframe : ∀ key, P key → s' key = s key)
    (h : ((∀ u, P (.VotingPower u) ∧ P (.Delegation u) ∧ P (.DelegatedPower u)) ∧ P .TotalSupply) ∧ P .Config ∧
      P (.Proposal id) ∧ ∀ v, P (.VoteRecord id v)) : Ballot s' id :=
  hs.congr (books_kept hframe h.1) (by rw [hframe _ h.2.1]; exact hs.plain) (hframe _ h.2.2.1)
    fun v => hframe _ (h.2.2.2 v)

/-- A power moves, and not from a holder that has voted to one that has not. -/
theorem Ballot.moved (hs : Ballot s id) {u d : Address} (hexact : (books s').Exact)
    (hpower : (books s').power = (books s).power) (hsupply : (books s').supply = (books s).supply)
    (hother : ∀ x, x ≠ u → (books s').delegate x = (books s).delegate x) (hholder : (books s').holder u = d)
    (hmay : may_move s id u d = true)
    (hcfg : s' .Config = s .Config) (hproposal : s' (.Proposal id) = s (.Proposal id))
    (hrecords : ∀ v, s' (.VoteRecord id v) = s (.VoteRecord id v)) : Ballot s' id := by
  refine ⟨hs.recorded.congr hproposal hrecords, hexact, fun cfg h => hs.plain cfg (hcfg ▸ h), ?_, ?_⟩
  · rw [tally_congr hproposal, hsupply]
    exact hs.le_supply
  · intro p hp hactive
    rw [hproposal] at hp
    rw [has_voted_congr hrecords]
    apply (hs.covers p hp hactive).rehold hexact hpower hother
    simp only [may_move, hp, hactive, Option.all_some, Bool.or_eq_true, beq_iff_eq, Bool.not_eq_true', bne_self_eq_false,
      Bool.false_eq_true, or_false] at hmay
    rw [hholder]
    rcases hmay with (hzero | hunvoted) | hvoted
    · exact Or.inl hzero
    · exact Or.inr fun h => absurd h (by rw [hunvoted]; decide)
    · exact Or.inr fun _ => hvoted

theorem effective_votes_plain {cfg : GovernanceConfig} {power : ℤ} (h : cfg.use_quadratic = false) :
    effective_votes cfg power = power := by
  simp [effective_votes, h]

theorem ballot_step (hfounded : Founded s) (hs : Ballot s id) (hplain : plain_ballot id s (env, call) = true)
    (hcall : keeps_counted id s (env, call) = true) (h : Outcome env s call s') : Ballot s' id := by
  have hrecorded : Recorded s' id := recorded_step hfounded hs.recorded h
  have hbooks := books_step hfounded h
  cases h with
  | opened hnone _ hcfg hsupply _ hframe =>
      refine hs.congr (books_opened hfounded hnone hsupply hframe) ?_ (hframe _ (by simp)) fun v => hframe _ (by simp)
      intro cfg' hcfg'
      rw [hcfg] at hcfg'
      simpa [plain_ballot, Option.some.inj hcfg'] using hplain
  | @powered voter power _ _ _ _ hframe =>
      -- There is no proposal yet, so nothing is counted.
      have hnone : s' (.Proposal id) = none := by
        rw [hframe _ (by simp)]
        simpa [plain_ballot] using hplain
      have hown : sets_own_power s (env, .set_voting_power voter power) = true := hcall
      have hexact := exact_step hs.exact hown hbooks
      refine ⟨hrecorded, hexact, fun cfg h => hs.plain cfg (by rwa [hframe _ (by simp)] at h), ?_, ?_⟩
      · rw [tally_of_none hnone]
        exact supply_nonneg hexact
      · intro p hp
        rw [hnone] at hp
        cases hp
  | guarded _ hframe | unguarded hframe | approved _ _ _ _ _ hframe => exact hs.of_frame hframe (by simp)
  | @delegated u d _ _ hset hframe =>
      have hexact := exact_step hs.exact (by rfl : sets_own_power s (env, _) = true) hbooks
      have hdelegate : (books s').delegate = Function.update (books s).delegate u (some d) := by
        rw [hset, Books.delegate_delegate_to, Books.delegate_undelegate, Function.update_idem]
      refine hs.moved hexact (by rw [hset]; simp) (by rw [hset]; simp) (fun x hx => ?_) ?_ hcall
        (hframe _ (by simp) (by simp)) (hframe _ (by simp) (by simp)) fun v => hframe _ (by simp) (by simp)
      · rw [hdelegate, Function.update_of_ne hx]
      · rw [Books.holder, hdelegate, Function.update_self, Option.getD_some]
  | @undelegated u _ hset hframe =>
      have hexact := exact_step hs.exact (by rfl : sets_own_power s (env, _) = true) hbooks
      have hdelegate : (books s').delegate = Function.update (books s).delegate u none := by
        rw [hset, Books.delegate_undelegate]
      refine hs.moved hexact (by rw [hset]; simp) (by rw [hset]; simp) (fun x hx => ?_) ?_ hcall
        (hframe _ (by simp) (by simp)) (hframe _ (by simp) (by simp)) fun v => hframe _ (by simp) (by simp)
      · rw [hdelegate, Function.update_of_ne hx]
      · rw [Books.holder, hdelegate, Function.update_self, Option.getD_none]
  | @created _ _ _ _ _ _ id' cfg _ _ _ _ _ _ hpending hvotes hproposal hframe =>
      have hkept : books s' = books s := books_kept hframe (by simp)
      by_cases heq : id = id'
      · subst heq
        refine ⟨hrecorded, hkept ▸ hs.exact, fun cfg h => hs.plain cfg (by rwa [hframe _ (by simp)] at h), ?_, ?_⟩
        · rw [tally_of_some hproposal, hvotes, hkept]
          exact supply_nonneg hs.exact
        · intro q hq hactive
          rw [hproposal] at hq
          rw [← Option.some.inj hq, hpending] at hactive
          cases hactive
      · exact hs.of_frame hframe (by simp [heq])
  | @voted v id' choice p cfg _ hload hstatus _ hnone hcfg _ hrecord hproposal hframe =>
      have hkept : books s' = books s := books_kept hframe (by simp)
      by_cases heq : id = id'
      · subst heq
        -- The voter has not voted, so the powers that it holds are counted for the first time.
        have hcovers : (books s).Covers (has_voted s' id) (p.votes + (books s).effective v) := by
          apply (hs.covers p hload hstatus).vote hs.exact
          · rw [has_voted, hnone]
            rfl
          · intro w
            by_cases hw : w = v
            · rw [hw, has_voted, hrecord]
              simp
            · rw [has_voted, hframe _ (by simpa using hw), ← has_voted]
              simp [hw]
        have hvotes : (p.with_votes choice (effective_votes cfg ((books s).effective v))).votes =
            p.votes + (books s).effective v := by
          rw [votes_with_votes, effective_votes_plain (hs.plain cfg hcfg)]
        refine ⟨hrecorded, hkept ▸ hs.exact, fun cfg h => hs.plain cfg (by rwa [hframe _ (by simp)] at h), ?_, ?_⟩
        · rw [tally_of_some hproposal, hvotes, hkept]
          exact hcovers.le_supply hs.exact
        · intro q hq _
          rw [hproposal] at hq
          rw [← Option.some.inj hq, hvotes, hkept]
          exact hcovers
      · exact hs.of_frame hframe (by simp [heq])
  | @advanced _ id' p _ _ hload hadvance hproposal hframe =>
      have hkept : books s' = books s := books_kept hframe (by simp)
      by_cases heq : id = id'
      · subst heq
        refine ⟨hrecorded, hkept ▸ hs.exact, fun cfg h => hs.plain cfg (by rwa [hframe _ (by simp)] at h), ?_, ?_⟩
        · rw [tally_of_some hproposal, hadvance.votes_eq, ← tally_of_some hload, hkept]
          exact hs.le_supply
        · intro q' hq' hactive
          rw [hproposal] at hq'
          obtain rfl := Option.some.inj hq'
          rw [hadvance.votes_eq, hs.recorded.pending p hload (hadvance.pending_of_active hactive), hkept]
          exact hs.exact.covers_none _
      · exact hs.of_frame hframe (by simp [heq])
  | configured _ hcfg hframe =>
      refine hs.congr (books_kept hframe (by simp)) ?_ (hframe _ (by simp)) fun v => hframe _ (by simp)
      intro cfg' hcfg'
      rw [hcfg] at hcfg'
      simpa [plain_ballot, Option.some.inj hcfg'] using hplain

theorem ballot_empty : Ballot empty_storage id :=
  ⟨recorded_empty, exact_empty, fun _ h => (by cases h), le_refl 0, fun _ h => (by cases h)⟩

/-- **No power is counted twice on a proposal** in a run that moves no power away from one that has voted. -/
theorem votes_counted_once (hplain : Along exec (fun s call => plain_ballot id s call = true) empty_storage calls)
    (hcalls : Along exec (fun s call => keeps_counted id s call = true) empty_storage calls) :
    CountedOnce (run empty_storage calls) id := by
  have hballot := (run_outcome (I := fun s => Ballot s id)
    (fun hfounded hs hcall h => ballot_step hfounded hs hcall.1 hcall.2 h) founded_empty ballot_empty
    (hplain.and hcalls)).2
  exact ⟨hballot.le_supply, hballot.recorded.total⟩

/-- Two voters, of whom the second votes with the power of both, and the first takes its power back before or after. -/
def delegated_ballot (moves : List (Env × EntryPoint)) : List (Env × EntryPoint) :=
  [(signed_at 0, .initialize_governance (party 0) plain_config), (signed_at 0, .set_voting_power (party 1) 100),
    (signed_at 0, .set_voting_power (party 2) 10), (signed_at 0, .delegate_votes (party 1) (party 2)),
    (signed_at 0, .create_proposal (party 2) .ParameterChange [] [] (party 9) []),
    (signed_at 10, .activate_proposal 0)] ++ moves ++ [(signed_at 12, .cast_vote (party 1) 0 .For)]

theorem votes_counted_once_delegated :
    tally (run empty_storage (delegated_ballot [(signed_at 11, .undelegate_votes (party 1)),
        (signed_at 11, .cast_vote (party 2) 0 .Against)])) 0 = 110 ∧
      CountedOnce (run empty_storage (delegated_ballot [(signed_at 11, .undelegate_votes (party 1)),
        (signed_at 11, .cast_vote (party 2) 0 .Against)])) 0 :=
  ⟨by decide +kernel, votes_counted_once (by decide +kernel) (by decide +kernel)⟩

/-- The power of 100 is voted with by the delegatee, taken back, and voted with again. -/
theorem votes_counted_twice :
    ¬ ∀ (calls : List (Env × EntryPoint)) (id : U32),
      Along exec (fun s call => plain_ballot id s call = true) empty_storage calls →
        CountedOnce (run empty_storage calls) id := by
  intro h
  have hcounted := h (delegated_ballot [(signed_at 11, .cast_vote (party 2) 0 .Against),
    (signed_at 11, .undelegate_votes (party 1))]) 0 (by decide +kernel)
  exact absurd hcounted.le_supply (by decide +kernel)

end Votes

end BridgeWatch.Governance

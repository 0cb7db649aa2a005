/-
What the votes on a challenged escrow decide.

The first vote opens a dispute for the decision that it is for, and a vote for the other decision is
rejected from then on. So the votes carry the decision of the first one, if there are enough for it,
and no other; after the first, their order does not matter.
-/
import BridgeWatch.EscrowReleases

set_option autoImplicit false

namespace BridgeWatch.Escrow

open Contract (U32 U64 I128 SString Address Env len str saturating_add_u64)

/-- A vote, with the ledger at its time. -/
structure Vote where
  env : Env
  approver : Address
  release_allowed : Bool

/-- The call that casts the vote. -/
def cast (escrow_id : U64) (vote : Vote) : Env × EntryPoint :=
  (vote.env, .resolve_challenge vote.approver escrow_id vote.release_allowed)

/-- Those who vote for the decision. -/
def supporters (votes : List Vote) (decision : Bool) : List Address :=
  (votes.filter fun vote => vote.release_allowed = decision).map Vote.approver

/-- The storage after some calls. -/
def storage_after (s : EscrowStorage) (calls : List (Env × EntryPoint)) : EscrowStorage :=
  Runs.run (fun s call => commit s (exec call.1 s call.2)) s calls

theorem storage_run {w : World} {calls : List (Env × EntryPoint)} :
    (Runs.run step w calls).storage = storage_after w.storage calls := by
  induction calls generalizing w with
  | nil => rfl
  | cons call _ ih =>
      rw [Runs.run_cons, ih, storage_after, storage_after, Runs.run_cons, step]
      cases exec call.1 w.storage call.2 <;> rfl

/-! ## One vote -/

section Vote

variable {s : EscrowStorage} {escrow_id : U64} {escrow : EscrowDeposit} {dispute : DisputeResolution} {vote : Vote}

/-- A vote that changes nothing if it is accepted changes nothing. -/
theorem storage_cast (h : ∀ resolved s', resolve_challenge vote.env vote.approver escrow_id vote.release_allowed s =
      .ok (resolved, s') → s' = s) : storage_after s [cast escrow_id vote] = s := by
  rw [storage_after, Runs.run_cons, Runs.run_nil, cast]
  cases hexec : exec vote.env s (.resolve_challenge vote.approver escrow_id vote.release_allowed) with
  | error => rfl
  | ok result =>
      obtain ⟨answer, s'⟩ := result
      obtain ⟨resolved, hcall, -⟩ := answering_eq_ok.mp hexec
      exact h resolved s' hcall

/-- A dispute that is resolved stays as it is. -/
theorem cast_resolved (hdispute : s.dispute escrow_id = some dispute) (hresolved : dispute.resolved = true) :
    storage_after s [cast escrow_id vote] = s := by
  have hfor : dispute_for s escrow_id vote.release_allowed = dispute := by
    rw [dispute_for, hdispute, Option.getD_some]
  apply storage_cast
  intro resolved s' hcall
  obtain ⟨-, -, -, escrow, -, -, ⟨-, -, rfl⟩ | ⟨hopen, -⟩⟩ := resolve_challenge_eq_ok.mp hcall
  · rfl
  · rw [hfor, hresolved] at hopen
    cases hopen

/-- A vote against the decision of the dispute is rejected, and a second vote of an approver is. -/
theorem cast_rejected (hdispute : s.dispute escrow_id = some dispute)
    (hvote : dispute.decision_release ≠ vote.release_allowed ∨ vote.approver ∈ dispute.approvals) :
    storage_after s [cast escrow_id vote] = s := by
  have hfor : dispute_for s escrow_id vote.release_allowed = dispute := by
    rw [dispute_for, hdispute, Option.getD_some]
  apply storage_cast
  intro resolved s' hcall
  obtain ⟨-, -, -, escrow, -, -, ⟨-, -, rfl⟩ | ⟨-, hdecision, hnew, -⟩⟩ := resolve_challenge_eq_ok.mp hcall
  · rfl
  · rw [hfor] at hdecision hnew
    rcases hvote with hagainst | hmem
    · exact absurd hdecision hagainst
    · exact absurd hmem hnew

theorem cast_counted (hpaused : paused s = false) (hauth : vote.env.auth vote.approver = true)
    (hregistered : registered s vote.approver = true) (hescrow : s.escrow escrow_id = some escrow)
    (hchallenged : escrow.status = .Challenged) (hdispute : dispute_for s escrow_id vote.release_allowed = dispute)
    (hopen : dispute.resolved = false) (hdecision : dispute.decision_release = vote.release_allowed)
    (hnew : vote.approver ∉ dispute.approvals) (hfits : dispute.approvals.length + 1 < 2 ^ 32) :
    storage_after s [cast escrow_id vote] = counted s escrow_id escrow dispute vote.approver := by
  have hok := resolve_challenge_eq_ok.mpr ⟨hpaused, hauth, hregistered, escrow, hescrow, hchallenged,
    Or.inr ⟨by rw [hdispute, hopen], by rw [hdispute, hdecision], by rwa [hdispute], by rwa [hdispute], rfl, rfl⟩⟩
  have hexec : exec vote.env s (.resolve_challenge vote.approver escrow_id vote.release_allowed) = .ok (_, _) :=
    answering_eq_ok.mpr ⟨_, hok, rfl⟩
  rw [storage_after, Runs.run_cons, Runs.run_nil, cast, hexec, commit_ok, hdispute]

end Vote

/-! ## All votes -/

section Votes

variable {s : EscrowStorage} {escrow_id : U64} {votes : List Vote}

/-- Votes can be counted: nobody has paused the contract, and each is authorised by its approver, who is
registered and has no other. -/
structure Countable (s : EscrowStorage) (votes : List Vote) : Prop where
  unpaused : paused s = false
  registered : ∀ vote ∈ votes, Escrow.registered s vote.approver = true ∧ vote.env.auth vote.approver = true
  nodup : (votes.map Vote.approver).Nodup

/-- The escrow is challenged, and its dispute, if there is one, open. -/
def IsChallenged (s : EscrowStorage) (escrow_id : U64) : Prop :=
  ∃ escrow, s.escrow escrow_id = some escrow ∧ escrow.status = .Challenged

/-- The approvers that the votes add to those of the dispute. -/
def newcomers (votes : List Vote) (dispute : DisputeResolution) : List Address :=
  (supporters votes dispute.decision_release).filter (· ∉ dispute.approvals)

theorem storage_after_cons {call : Env × EntryPoint} {calls : List (Env × EntryPoint)} :
    storage_after s (call :: calls) = storage_after (storage_after s [call]) calls := rfl

theorem supporters_cons {vote : Vote} {decision : Bool} :
    supporters (vote :: votes) decision =
      if vote.release_allowed = decision then vote.approver :: supporters votes decision
      else supporters votes decision := by
  unfold supporters
  split_ifs with h <;> simp [h]

theorem mem_supporters {decision : Bool} {approver : Address} (h : approver ∈ supporters votes decision) :
    approver ∈ votes.map Vote.approver := by
  obtain ⟨vote, hvote, rfl⟩ := List.mem_map.mp h
  exact List.mem_map_of_mem (List.mem_filter.mp hvote).1

theorem Countable.tail {vote : Vote} (h : Countable s (vote :: votes)) : Countable s votes := by
  refine ⟨h.unpaused, fun v hv => h.registered v (List.mem_cons_of_mem vote hv), ?_⟩
  have hnodup := h.nodup
  rw [List.map_cons, List.nodup_cons] at hnodup
  exact hnodup.2

/-- A vote on another dispute, and an approval more, does not keep votes from being counted. -/
theorem Countable.counted {escrow : EscrowDeposit} {dispute : DisputeResolution} {approver : Address}
    (h : Countable s votes) : Countable (Escrow.counted s escrow_id escrow dispute approver) votes :=
  ⟨h.unpaused, h.registered, h.nodup⟩

theorem votes_resolved {dispute : DisputeResolution} (hdispute : s.dispute escrow_id = some dispute)
    (hresolved : dispute.resolved = true) : storage_after s (votes.map (cast escrow_id)) = s := by
  induction votes with
  | nil => rfl
  | cons _ _ ih => rw [List.map_cons, storage_after_cons, cast_resolved hdispute hresolved, ih]

/-- The next newcomer is one fewer to come. -/
theorem newcomers_next {dispute dispute' : DisputeResolution} {vote : Vote}
    (hnodup : ((vote :: votes).map Vote.approver).Nodup) (hdecision : vote.release_allowed = dispute.decision_release)
    (hnew : vote.approver ∉ dispute.approvals) (hdecision' : dispute'.decision_release = dispute.decision_release)
    (happrovals : dispute'.approvals = dispute.approvals ++ [vote.approver]) :
    newcomers (vote :: votes) dispute = vote.approver :: newcomers votes dispute' := by
  rw [List.map_cons, List.nodup_cons] at hnodup
  rw [newcomers, supporters_cons, if_pos hdecision, List.filter_cons_of_pos (by simpa using hnew), newcomers,
    hdecision', happrovals]
  congr 1
  apply List.filter_congr
  intro approver happrover
  have hne : approver ≠ vote.approver := by
    rintro rfl
    exact hnodup.1 (mem_supporters happrover)
  rw [decide_eq_decide, List.mem_append, List.mem_singleton, or_iff_left hne]

/-- The votes resolve a dispute that is open just when there are enough for its decision. -/
def Decide (escrow_id : U64) (votes : List Vote) : Prop :=
  ∀ (s : EscrowStorage) (dispute : DisputeResolution), Countable s votes → IsChallenged s escrow_id →
    s.dispute escrow_id = some dispute → dispute.resolved = false →
    dispute.approvals.length < dispute.required_approvals.toNat →
    ∃ dispute', (storage_after s (votes.map (cast escrow_id))).dispute escrow_id = some dispute' ∧
      dispute'.decision_release = dispute.decision_release ∧
        (dispute'.resolved = true ↔
          dispute.required_approvals.toNat ≤ dispute.approvals.length + (newcomers votes dispute).length)

/-- A vote that is counted, and the votes after it. -/
theorem Decide.counted {escrow : EscrowDeposit} {dispute : DisputeResolution} {vote : Vote}
    (h : Decide escrow_id votes) (hvotes : Countable s (vote :: votes)) (hescrow : s.escrow escrow_id = some escrow)
    (hstatus : escrow.status = .Challenged) (hfor : dispute_for s escrow_id vote.release_allowed = dispute)
    (hopen : dispute.resolved = false) (hdecision : vote.release_allowed = dispute.decision_release)
    (hnew : vote.approver ∉ dispute.approvals) (hfits : dispute.approvals.length + 1 < 2 ^ 32) :
    ∃ dispute', (storage_after s ((vote :: votes).map (cast escrow_id))).dispute escrow_id = some dispute' ∧
      dispute'.decision_release = dispute.decision_release ∧
        (dispute'.resolved = true ↔
          dispute.required_approvals.toNat ≤ dispute.approvals.length + (newcomers (vote :: votes) dispute).length) := by
  obtain ⟨hregistered, hauth⟩ := hvotes.registered vote List.mem_cons_self
  have hcast := cast_counted hvotes.unpaused hauth hregistered hescrow hstatus hfor hopen hdecision.symm hnew hfits
  obtain ⟨dispute', hdispute, hdecision', happrovals, hrequired, hresolved⟩ : ∃ dispute',
      (Escrow.counted s escrow_id escrow dispute vote.approver).dispute escrow_id = some dispute' ∧
        dispute'.decision_release = dispute.decision_release ∧
          dispute'.approvals = dispute.approvals ++ [vote.approver] ∧
            dispute'.required_approvals = dispute.required_approvals ∧
              (dispute'.resolved = true ↔ dispute.required_approvals.toNat ≤ dispute.approvals.length + 1) := by
    refine ⟨_, Function.update_self _ _ _, rfl, rfl, rfl, ?_⟩
    rw [decide_eq_true_iff, List.length_append, List.length_singleton]
  have hlength : dispute'.approvals.length = dispute.approvals.length + 1 := by
    rw [happrovals, List.length_append, List.length_singleton]
  rw [List.map_cons, storage_after_cons, hcast,
    newcomers_next hvotes.nodup hdecision hnew hdecision' happrovals, List.length_cons]
  by_cases hdone : dispute'.resolved = true
  · -- The dispute is resolved, and the other votes do nothing.
    refine ⟨dispute', ?_, hdecision', ?_⟩
    · rw [votes_resolved hdispute hdone, hdispute]
    · have henough := hresolved.mp hdone
      exact iff_of_true hdone (by omega)
  · have hlack : dispute'.approvals.length < dispute'.required_approvals.toNat := by
      rw [hlength, hrequired]
      exact Nat.lt_of_not_le fun henough => hdone (hresolved.mpr henough)
    have hchallenged : IsChallenged (Escrow.counted s escrow_id escrow dispute vote.approver) escrow_id := by
      refine ⟨_, Function.update_self _ _ _, ?_⟩
      rw [List.length_append, List.length_singleton, decide_eq_false fun henough => hdone (hresolved.mpr henough)]
      exact hstatus
    obtain ⟨dispute'', hfinal, hsame, hiff⟩ := h _ dispute' hvotes.tail.counted hchallenged hdispute
      (Bool.eq_false_iff.mpr hdone) hlack
    refine ⟨dispute'', hfinal, hsame.trans hdecision', ?_⟩
    rw [hiff, hrequired, hlength, Nat.add_assoc, Nat.add_comm 1]

theorem decide_votes : ∀ votes : List Vote, Decide escrow_id votes := by
  intro votes
  induction votes with
  | nil =>
      intro s dispute hvotes hchallenged hdispute hopen hlack
      refine ⟨dispute, hdispute, rfl, ?_⟩
      rw [hopen]
      exact ⟨nofun, fun h => absurd h (Nat.not_le.mpr hlack)⟩
  | cons vote votes ih =>
      intro s dispute hvotes hchallenged hdispute hopen hlack
      by_cases hdecision : vote.release_allowed = dispute.decision_release
      · by_cases hmem : vote.approver ∈ dispute.approvals
        · -- The approver has voted before.
          have hsame : newcomers (vote :: votes) dispute = newcomers votes dispute := by
            rw [newcomers, supporters_cons, if_pos hdecision, List.filter_cons_of_neg (by simpa using hmem), newcomers]
          rw [List.map_cons, storage_after_cons, cast_rejected hdispute (Or.inr hmem), hsame]
          exact ih s dispute hvotes.tail hchallenged hdispute hopen hlack
        · obtain ⟨escrow, hescrow, hstatus⟩ := hchallenged
          have hmax := dispute.required_approvals.toNat_lt
          have hfor : dispute_for s escrow_id vote.release_allowed = dispute := by
            rw [dispute_for, hdispute, Option.getD_some]
          exact ih.counted hvotes hescrow hstatus hfor hopen hdecision hmem (by omega)
      · -- The vote is against the decision.
        have hsame : newcomers (vote :: votes) dispute = newcomers votes dispute := by
          rw [newcomers, supporters_cons, if_neg hdecision, newcomers]
        rw [List.map_cons, storage_after_cons, cast_rejected hdispute (Or.inl (Ne.symm hdecision)), hsame]
        exact ih s dispute hvotes.tail hchallenged hdispute hopen hlack

end Votes

/-! ## The decision of the majority -/

/-- An open dispute lacks approvals. -/
def DisputesOpen (s : EscrowStorage) : Prop :=
  ∀ escrow_id dispute, s.dispute escrow_id = some dispute → dispute.resolved = false →
    dispute.approvals.length < dispute.required_approvals.toNat

theorem disputesOpen_kept : Kept (fun _ => True) fun s _ => DisputesOpen s where
  quiet {s s' log} h hescrow hchallenge hdispute escrow_id dispute hd := h escrow_id dispute (hdispute ▸ hd)
  effect {env s s' log escrow_id event} h _ heffect := by
    intro id dispute hd hopen
    by_cases hid : id = escrow_id
    · rw [hid] at hd
      cases heffect with
      | created _ _ _ hdispute => exact h escrow_id dispute (hdispute ▸ hd) hopen
      | changed hc hchange _ _ hdispute =>
          rw [hdispute, Function.update_self] at hd
          cases hchange with
          | voted _ _ _ _ _ _ hresolved =>
              cases hd
              rw [List.length_append, List.length_singleton]
              exact Nat.lt_of_not_le fun henough => Bool.eq_false_iff.mp hopen (hresolved.mpr henough)
          | _ => exact h escrow_id dispute (hc.dispute.trans hd) hopen
    · rw [(heffect.other hid).2.2] at hd
      exact h id dispute hd hopen

/-- The decision leads: the dispute, if there is one already, is for it, and the votes bring it the approvals
that it still lacks; and if there is none then the first vote is for the decision. -/
def Leads (s : EscrowStorage) (escrow_id : U64) (votes : List Vote) (decision : Bool) : Prop :=
  match s.dispute escrow_id with
  | none => (votes.head?.map Vote.release_allowed) = some decision
  | some dispute => dispute.decision_release = decision ∧ (dispute.resolved = true ∨
      dispute.required_approvals.toNat ≤ dispute.approvals.length + (newcomers votes dispute).length)

/-- **The outcome of a dispute.** Where approvers vote in any order, and enough of them for one decision and
too few for the other, the dispute is resolved with that decision if and only if the decision leads. -/
theorem majority_decides_iff {calls : List (Env × EntryPoint)} {escrow_id : U64} {votes : List Vote}
    {decision : Bool} (hchallenged : IsChallenged (run calls).storage escrow_id)
    (hvotes : Countable (run calls).storage votes)
    (hmajority : ((run calls).storage.approval_threshold.getD 1).toNat ≤ (supporters votes decision).length)
    (hminority : (supporters votes (!decision)).length < ((run calls).storage.approval_threshold.getD 1).toNat) :
    (∃ dispute, (run (calls ++ votes.map (cast escrow_id))).storage.dispute escrow_id = some dispute ∧
      dispute.resolved = true ∧ dispute.decision_release = decision) ↔
        Leads (run calls).storage escrow_id votes decision := by
  have hlack := @Kept.run_all _ calls disputesOpen_kept nofun
  rw [run, Runs.run_append, storage_run]
  rw [run] at hchallenged hvotes hmajority hminority hlack ⊢
  generalize (Runs.run step ⟨empty_storage, fun _ => []⟩ calls).storage = s at *
  unfold Leads
  cases hdispute : s.dispute escrow_id with
  | none =>
      cases votes with
      | nil => exact absurd (hmajority.trans_lt' hminority) (Nat.lt_irrefl _)
      | cons vote votes =>
          obtain ⟨escrow, hescrow, hstatus⟩ := hchallenged
          -- The first vote opens the dispute.
          have hfor : dispute_for s escrow_id vote.release_allowed =
              { escrow_id, decision_release := vote.release_allowed, approvals := []
                required_approvals := s.approval_threshold.getD 1, resolved := false } := by
            rw [dispute_for, hdispute, Option.getD_none]
          obtain ⟨dispute', hfinal, hsame, hiff⟩ := (decide_votes votes).counted hvotes hescrow hstatus hfor rfl rfl
            List.not_mem_nil (by rw [List.length_nil]; decide)
          have hall : newcomers (vote :: votes)
              { escrow_id, decision_release := vote.release_allowed, approvals := []
                required_approvals := s.approval_threshold.getD 1, resolved := false } =
              supporters (vote :: votes) vote.release_allowed := by
            simp [newcomers]
          rw [hall, List.length_nil, Nat.zero_add] at hiff
          rw [hfinal]
          constructor
          · rintro ⟨dispute, hd, -, rfl⟩
            rw [← Option.some.inj hd, hsame, List.head?_cons, Option.map_some]
          · intro hfirst
            have hfirst : vote.release_allowed = decision := Option.some.inj hfirst
            rw [← hfirst] at hmajority ⊢
            exact ⟨dispute', rfl, hiff.mpr hmajority, hsame⟩
  | some dispute =>
      by_cases hresolved : dispute.resolved = true
      · rw [votes_resolved hdispute hresolved, hdispute]
        constructor
        · rintro ⟨dispute', hd, -, rfl⟩
          rw [← Option.some.inj hd]
          exact ⟨rfl, Or.inl hresolved⟩
        · rintro ⟨hdecision, -⟩
          exact ⟨dispute, rfl, hresolved, hdecision⟩
      · have hopen := Bool.eq_false_iff.mpr hresolved
        obtain ⟨dispute', hfinal, hsame, hiff⟩ := decide_votes votes s dispute hvotes hchallenged hdispute hopen
          (hlack escrow_id dispute hdispute hopen)
        rw [hfinal]
        constructor
        · rintro ⟨dispute'', hd, hdone, rfl⟩
          rw [← Option.some.inj hd] at hdone ⊢
          exact ⟨hsame.symm, Or.inr (hiff.mp hdone)⟩
        · rintro ⟨hdecision, hdone | henough⟩
          · exact absurd hdone hresolved
          · exact ⟨dispute', rfl, hiff.mpr henough, hsame.trans hdecision⟩

/-- The escrow of `deposited` is challenged, and two of three approvals are needed. -/
def disputed : List (Env × EntryPoint) :=
  deposited ++ [(signed_at 2000, .challenge_escrow (party 7) 0 (str "wrong recipient"))]

theorem disputed_challenged : IsChallenged (run disputed).storage 0 :=
  Option.map_eq_some_iff.mp (show ((run disputed).storage.escrow 0).map EscrowDeposit.status = some .Challenged by
    decide +kernel)

/-- The approvers 3, 4 and 5, of whom 3 and 5 are for the release; 3 votes first. -/
def two_of_three : List Vote :=
  [⟨signed_at 3000, party 3, true⟩, ⟨signed_at 3001, party 4, false⟩, ⟨signed_at 3002, party 5, true⟩]

theorem majority_decides_two_of_three :
    ∃ dispute, (run (disputed ++ two_of_three.map (cast 0))).storage.dispute 0 = some dispute ∧
      dispute.resolved = true ∧ dispute.decision_release = true := by
  have hnone : (run disputed).storage.dispute 0 = none := by decide +kernel
  refine (majority_decides_iff disputed_challenged ⟨by decide +kernel, ?_, by decide +kernel⟩ (by decide +kernel)
    (by decide +kernel)).mpr ?_
  · intro vote hvote
    simp only [two_of_three, List.mem_cons, List.not_mem_nil, or_false] at hvote
    rcases hvote with rfl | rfl | rfl <;> exact ⟨by decide +kernel, rfl⟩
  · rw [Leads, hnone]
    rfl

/-- The same votes, of which 4 casts the first one. -/
def minority_first : List Vote :=
  [⟨signed_at 3000, party 4, false⟩, ⟨signed_at 3001, party 3, true⟩, ⟨signed_at 3002, party 5, true⟩]

/-- A first vote against the majority keeps the dispute from being resolved. -/
theorem minority_blocks :
    ¬ ∀ (calls : List (Env × EntryPoint)) (escrow_id : U64) (votes : List Vote) (decision : Bool),
      IsChallenged (run calls).storage escrow_id → Countable (run calls).storage votes →
      ((run calls).storage.approval_threshold.getD 1).toNat ≤ (supporters votes decision).length →
      (supporters votes (!decision)).length < ((run calls).storage.approval_threshold.getD 1).toNat →
      ∃ dispute, (run (calls ++ votes.map (cast escrow_id))).storage.dispute escrow_id = some dispute ∧
        dispute.resolved = true ∧ dispute.decision_release = decision := by
  intro h
  have hcountable : Countable (run disputed).storage minority_first := by
    refine ⟨by decide +kernel, ?_, by decide +kernel⟩
    intro vote hvote
    simp only [minority_first, List.mem_cons, List.not_mem_nil, or_false] at hvote
    rcases hvote with rfl | rfl | rfl <;> exact ⟨by decide +kernel, rfl⟩
  obtain ⟨dispute, hdispute, hresolved, -⟩ := h disputed 0 minority_first true disputed_challenged hcountable
    (by decide +kernel) (by decide +kernel)
  have hopen : ((run (disputed ++ minority_first.map (cast 0))).storage.dispute 0).map DisputeResolution.resolved =
      some false := by decide +kernel
  rw [hdispute, Option.map_some, hresolved] at hopen
  cases hopen

end BridgeWatch.Escrow

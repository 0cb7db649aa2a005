/-
When an escrow is released.

The history of an escrow shows why each of its releases was made: the lock had passed, the last word of
the verification contract was that the transfer is verified, and if the escrow was challenged then enough
approvers had voted for the release and none of its disputes was decided against it. What the storage
holds of an escrow is tied to its history for that, the approvals of a dispute to the votes among others.
-/
import BridgeWatch.EscrowAccounting

set_option autoImplicit false

namespace BridgeWatch.Escrow

open Contract (U32 U64 I128 SString Address Env len str saturating_add_u64)
open Histories

/-- What a verification says. -/
def verdict : Event → Option Bool
  | .synced _ verified => some verified
  | _ => none

/-- Enough registered approvers have voted for the release. -/
def Approved (h : List Event) : Prop :=
  ∃ (approver : Address) (required : U32) (voters : List Address),
    .voted approver true true required true ∈ h ∧ voters.Nodup ∧ required.toNat ≤ voters.length ∧
      ∀ voter ∈ voters, ∃ required resolved, .voted voter true true required resolved ∈ h

/-- A dispute was decided against the release. -/
def Rejected (h : List Event) : Prop :=
  ∃ approver registered required, .voted approver false registered required true ∈ h

/-- A release, after the events `earlier`, that is as it should be. -/
def SoundRelease (earlier : List Event) (event : Event) : Prop :=
  ∀ amount timestamp lock_until, event = .released amount timestamp lock_until →
    lock_until ≤ timestamp ∧ (earlier.filterMap verdict).getLast? = some true ∧
      (.challenged ∈ earlier → Approved earlier) ∧ ¬Rejected earlier

/-- What the storage shows of an escrow is what has happened to it. -/
structure Justified (c : Case) (h : List Event) : Prop where
  verified : c.deposit.verified = true → (h.filterMap verdict).getLast? = some true
  verifier : ∀ verifier verified, .synced verifier verified ∈ h → verifier = c.deposit.verification_contract
  challenge : .challenged ∈ h → c.challenge ≠ none
  status : c.deposit.status = .Challenged → .challenged ∈ h
  approvals : ∀ dispute, .challenged ∈ h → c.dispute = some dispute → dispute.approvals.Nodup ∧
    ∀ voter ∈ dispute.approvals, ∃ required resolved, .voted voter dispute.decision_release true required resolved ∈ h
  approved : c.deposit.status = .Pending → .challenged ∈ h → Approved h
  unrejected : c.deposit.status = .Pending → ¬Rejected h
  rejected : Rejected h → ∃ dispute, c.dispute = some dispute ∧ dispute.resolved = true
  guarded : Guarded SoundRelease h

section

variable {c c' : Case} {h : List Event} {event : Event}

theorem mem_concat {α : Type} {l : List α} {a b : α} : b ∈ l ++ [a] ↔ b ∈ l ∨ b = a := by
  rw [List.mem_append, List.mem_singleton]

theorem mem_concat_of_ne {α : Type} {l : List α} {a b : α} (hne : b ≠ a) : b ∈ l ++ [a] ↔ b ∈ l := by
  rw [mem_concat, or_iff_left hne]

theorem Approved.concat (ha : Approved h) : Approved (h ++ [event]) := by
  obtain ⟨approver, required, voters, hlast, hnodup, hcount, hvoters⟩ := ha
  refine ⟨approver, required, voters, mem_concat.mpr (Or.inl hlast), hnodup, hcount, ?_⟩
  intro voter hvoter
  obtain ⟨required, resolved, hvote⟩ := hvoters voter hvoter
  exact ⟨required, resolved, mem_concat.mpr (Or.inl hvote)⟩

theorem verdicts_concat (hevent : verdict event = none) : (h ++ [event]).filterMap verdict = h.filterMap verdict := by
  rw [List.filterMap_append, List.filterMap_cons_none hevent, List.filterMap_nil, List.append_nil]

/-- The last verdict when the event gives none. -/
theorem Justified.last_verdict (hc : Justified c h) (hevent : verdict event = none)
    (hverified : c'.deposit.verified = c.deposit.verified) (hv : c'.deposit.verified = true) :
    ((h ++ [event]).filterMap verdict).getLast? = some true := by
  rw [verdicts_concat hevent]
  exact hc.verified (hverified ▸ hv)

/-- An event that is neither a challenge nor a vote, and leaves the challenge and the dispute as they are. -/
theorem Justified.idle (hc : Justified c h) (hevent : ∀ approver release registered required resolved,
      event ≠ .voted approver release registered required resolved)
    (hchallenged : event ≠ .challenged) (hsound : SoundRelease h event)
    (hverified : c'.deposit.verified = true → ((h ++ [event]).filterMap verdict).getLast? = some true)
    (hverifier : ∀ verifier verified, event = .synced verifier verified →
      verifier = c.deposit.verification_contract)
    (hcontract : c'.deposit.verification_contract = c.deposit.verification_contract)
    (hstatus : c'.deposit.status = c.deposit.status ∨ is_over c'.deposit.status = true)
    (hchallenge : c'.challenge = c.challenge) (hdispute : c'.dispute = c.dispute) :
    Justified c' (h ++ [event]) := by
  have hmem : .challenged ∈ h ++ [event] ↔ .challenged ∈ h := mem_concat_of_ne hchallenged.symm
  have hrejected : Rejected (h ++ [event]) → Rejected h := by
    rintro ⟨approver, registered, required, hvote⟩
    exact ⟨approver, registered, required, (mem_concat_of_ne (hevent _ _ _ _ _).symm).mp hvote⟩
  have hsame : ∀ {status}, is_over status = false → c'.deposit.status = status → c.deposit.status = status := by
    intro status hopen heq
    rcases hstatus with hsame | hover
    · rw [← hsame, heq]
    · rw [heq, hopen] at hover
      cases hover
  refine ⟨?_, ?_, ?_, ?_, ?_, ?_, ?_, ?_, guarded_concat.mpr ⟨hc.guarded, hsound⟩⟩
  · exact hverified
  · intro verifier verified hsync
    rw [hcontract]
    rcases mem_concat.mp hsync with hsync | hsync
    · exact hc.verifier verifier verified hsync
    · exact hverifier verifier verified hsync.symm
  · rw [hmem, hchallenge]
    exact hc.challenge
  · intro hs
    exact hmem.mpr (hc.status (hsame rfl hs))
  · intro dispute hch hd
    rw [hdispute] at hd
    obtain ⟨hnodup, hvotes⟩ := hc.approvals dispute (hmem.mp hch) hd
    refine ⟨hnodup, fun voter hvoter => ?_⟩
    obtain ⟨required, resolved, hvote⟩ := hvotes voter hvoter
    exact ⟨required, resolved, mem_concat.mpr (Or.inl hvote)⟩
  · intro hs hch
    exact (hc.approved (hsame rfl hs) (hmem.mp hch)).concat
  · intro hs hr
    exact hc.unrejected (hsame rfl hs) (hrejected hr)
  · intro hr
    rw [hdispute]
    exact hc.rejected (hrejected hr)

/-- A verification, by the contract that the escrow names. -/
theorem Justified.synced {verified : Bool} (hc : Justified c h) :
    Justified { c with deposit := { c.deposit with verified } }
      (h ++ [.synced c.deposit.verification_contract verified]) := by
  refine hc.idle (fun _ _ _ _ _ h => by cases h) (fun h => by cases h) (fun _ _ _ h => by cases h) ?_ ?_ rfl
    (Or.inl rfl) rfl rfl
  · intro hverified
    have hverified : verified = true := hverified
    rw [List.filterMap_append, hverified]
    exact List.getLast?_concat
  · intro verifier verified' heq
    cases heq
    rfl

/-- A challenge, of an escrow that was not challenged before. -/
theorem Justified.challenged {challenge : ChallengeInfo} (hc : Justified c h) (hpending : c.deposit.status = .Pending)
    (hdispute : c.dispute = none) :
    Justified { c with deposit := { c.deposit with status := .Challenged }, challenge := some challenge }
      (h ++ [.challenged]) := by
  have hrejected : ¬Rejected (h ++ [.challenged]) := by
    rintro ⟨approver, registered, required, hvote⟩
    rcases mem_concat.mp hvote with hvote | hvote
    · exact hc.unrejected hpending ⟨approver, registered, required, hvote⟩
    · cases hvote
  refine ⟨?_, ?_, fun _ => nofun, fun _ => mem_concat.mpr (Or.inr rfl), ?_, nofun, nofun, ?_, ?_⟩
  · exact hc.last_verdict rfl rfl
  · intro verifier verified hsync
    rcases mem_concat.mp hsync with hsync | hsync
    · exact hc.verifier verifier verified hsync
    · cases hsync
  · intro dispute _ hd
    rw [hdispute] at hd
    cases hd
  · exact fun hr => absurd hr hrejected
  · exact guarded_concat.mpr ⟨hc.guarded, fun _ _ _ h => by cases h⟩

/-- A vote, counted in a dispute that is open. -/
theorem Justified.voted {approver : Address} {dispute : DisputeResolution} {resolved : Bool} (hc : Justified c h)
    (hchallenged : c.deposit.status = .Challenged)
    (hdispute : c.dispute = some dispute ∨ c.dispute = none ∧ dispute.approvals = [])
    (hopen : dispute.resolved = false) (hnew : approver ∉ dispute.approvals)
    (hresolved : resolved = true ↔ dispute.required_approvals.toNat ≤ dispute.approvals.length + 1) :
    Justified
      { c with
        deposit := { c.deposit with
          status := if resolved && dispute.decision_release then .Pending else c.deposit.status }
        dispute := some { dispute with approvals := dispute.approvals ++ [approver], resolved } }
      (h ++ [.voted approver dispute.decision_release true dispute.required_approvals resolved]) := by
  have hch : .challenged ∈ h := hc.status hchallenged
  have hearlier : dispute.approvals.Nodup ∧ ∀ voter ∈ dispute.approvals,
      ∃ required resolved, .voted voter dispute.decision_release true required resolved ∈ h := by
    rcases hdispute with hsome | ⟨-, hempty⟩
    · exact hc.approvals dispute hch hsome
    · rw [hempty]
      exact ⟨List.nodup_nil, fun voter hvoter => absurd hvoter List.not_mem_nil⟩
  have hunrejected : ¬Rejected h := by
    intro hr
    obtain ⟨decided, hdecided, hres⟩ := hc.rejected hr
    rcases hdispute with hsome | ⟨hnone, -⟩
    · rw [hsome, Option.some.injEq] at hdecided
      rw [hdecided, hres] at hopen
      cases hopen
    · rw [hnone] at hdecided
      cases hdecided
  have hnodup : (dispute.approvals ++ [approver]).Nodup := by
    rw [← List.concat_eq_append]
    exact hearlier.1.concat hnew
  have hvotes : ∀ voter ∈ dispute.approvals ++ [approver], ∃ required resolved',
      .voted voter dispute.decision_release true required resolved' ∈
        h ++ [.voted approver dispute.decision_release true dispute.required_approvals resolved] := by
    intro voter hvoter
    rcases mem_concat.mp hvoter with hvoter | rfl
    · obtain ⟨required, resolved', hvote⟩ := hearlier.2 voter hvoter
      exact ⟨required, resolved', mem_concat.mpr (Or.inl hvote)⟩
    · exact ⟨_, _, mem_concat.mpr (Or.inr rfl)⟩
  -- The vote ends the challenge just when it is the last one needed for the release.
  have hdecided : (if resolved && dispute.decision_release then .Pending else c.deposit.status) =
      EscrowStatus.Pending → resolved = true ∧ dispute.decision_release = true := by
    intro hs
    by_cases hboth : (resolved && dispute.decision_release) = true
    · rwa [Bool.and_eq_true] at hboth
    · rw [if_neg hboth, hchallenged] at hs
      cases hs
  refine ⟨hc.last_verdict rfl rfl, ?_, fun _ => hc.challenge hch, fun _ => mem_concat.mpr (Or.inl hch), ?_, ?_, ?_,
    ?_, guarded_concat.mpr ⟨hc.guarded, fun _ _ _ h => by cases h⟩⟩
  · intro verifier verified hsync
    rcases mem_concat.mp hsync with hsync | hsync
    · exact hc.verifier verifier verified hsync
    · cases hsync
  · intro dispute' _ hd
    cases hd
    exact ⟨hnodup, hvotes⟩
  · intro hs _
    obtain ⟨rfl, hrelease⟩ := hdecided hs
    rw [hrelease] at hvotes ⊢
    refine ⟨approver, dispute.required_approvals, dispute.approvals ++ [approver], mem_concat.mpr (Or.inr rfl),
      hnodup, ?_, hvotes⟩
    rw [List.length_append, List.length_singleton]
    exact hresolved.mp rfl
  · rintro hs ⟨voter, registered, required, hvote⟩
    rcases mem_concat.mp hvote with hvote | hvote
    · exact hunrejected ⟨voter, registered, required, hvote⟩
    · rw [(hdecided hs).2] at hvote
      cases hvote
  · rintro ⟨voter, registered, required, hvote⟩
    rcases mem_concat.mp hvote with hvote | hvote
    · exact absurd ⟨voter, registered, required, hvote⟩ hunrejected
    · rw [Event.voted.injEq] at hvote
      exact ⟨_, rfl, hvote.2.2.2.2.symm⟩

end

theorem justified_kept : CaseKept (fun _ => True) Justified where
  created {c} hfresh hdispute := by
    refine ⟨?_, ?_, ?_, ?_, ?_, ?_, ?_, ?_, guarded_singleton.mpr fun _ _ _ h => by cases h⟩
    · intro hverified
      rw [hfresh.unverified] at hverified
      cases hverified
    · intro verifier verified hmem
      cases List.mem_singleton.mp hmem
    · intro hmem
      cases List.mem_singleton.mp hmem
    · intro hstatus
      rw [hfresh.pending] at hstatus
      cases hstatus
    · intro dispute hmem
      cases List.mem_singleton.mp hmem
    · intro _ hmem
      cases List.mem_singleton.mp hmem
    · rintro _ ⟨approver, registered, required, hmem⟩
      cases List.mem_singleton.mp hmem
    · rintro ⟨approver, registered, required, hmem⟩
      cases List.mem_singleton.mp hmem
  change {env s c c' event h} hlinked hc _ hchange := by
    cases hchange with
    | synced => exact hc.synced
    | challenged hpending _ hnone => exact hc.challenged hpending (hlinked.dispute hnone)
    | voted hchallenged _ hdispute hopen hnew _ hresolved =>
        exact hc.voted hchallenged hdispute hopen hnew hresolved
    | released hpending hverified hlock _ _ _ hstatus =>
        refine hc.idle (fun _ _ _ _ _ h => by cases h) (fun h => by cases h) ?_ (hc.last_verdict rfl rfl)
          (fun _ _ h => by cases h) rfl ?_ rfl rfl
        · intro amount timestamp lock_until heq
          cases heq
          exact ⟨UInt64.le_iff_toNat_le.mp hlock, hc.verified hverified, hc.approved hpending, hc.unrejected hpending⟩
        · rcases hstatus with rfl | rfl
          · exact Or.inr rfl
          · exact Or.inl hpending.symm
    | refunded =>
        exact hc.idle (fun _ _ _ _ _ h => by cases h) (fun h => by cases h) (fun _ _ _ h => by cases h)
          (hc.last_verdict rfl rfl) (fun _ _ h => by cases h) rfl (Or.inr rfl) rfl rfl
    | extended =>
        exact hc.idle (fun _ _ _ _ _ h => by cases h) (fun h => by cases h) (fun _ _ _ h => by cases h)
          (hc.last_verdict rfl rfl) (fun _ _ h => by cases h) rfl (Or.inl rfl) rfl rfl
    | recovered _ _ hstatus =>
        refine hc.idle (fun _ _ _ _ _ h => by cases h) (fun h => by cases h) (fun _ _ _ h => by cases h)
          (hc.last_verdict rfl rfl) (fun _ _ h => by cases h) rfl ?_ rfl rfl
        rcases hstatus with rfl | rfl
        · exact Or.inr rfl
        · exact Or.inl rfl

/-- **Why an escrow was released.** Every release came when the lock had passed and after the verification
contract had verified the transfer, after enough registered approvers had voted for it if the escrow was
challenged, and after no dispute that was decided against it. -/
theorem releases_sound {calls : List (Env × EntryPoint)} {escrow_id : U64} {escrow : EscrowDeposit}
    (hescrow : (run calls).storage.escrow escrow_id = some escrow) :
    Guarded SoundRelease ((run calls).history escrow_id) ∧
      ∀ verifier verified, .synced verifier verified ∈ (run calls).history escrow_id →
        verifier = escrow.verification_contract := by
  have hcases : OfCases Justified (run calls).storage (run calls).history := justified_kept.kept.run_all ofCases_empty
  have hjustified := hcases.holds escrow_id ⟨escrow, _, _⟩ ⟨hescrow, rfl, rfl⟩
  exact ⟨hjustified.guarded, hjustified.verifier⟩

/-- The escrow is challenged, two of three approvers vote for the release, and it is released. -/
def released_after_votes : List (Env × EntryPoint) :=
  deposited ++ [(signed_at 2000, .challenge_escrow (party 7) 0 (str "wrong recipient")),
    (signed_at 3000, .resolve_challenge (party 3) 0 true), (signed_at 3000, .resolve_challenge (party 5) 0 true),
    (signed_at 4000, .sync_verification (party 6) 0 true), (signed_at 5000, .release_escrow (party 2) 0 4000)]

theorem releases_sound_after_votes :
    .released 4000 5000 4600 ∈ (run released_after_votes).history 0 ∧
      Guarded SoundRelease ((run released_after_votes).history 0) ∧
        ∀ verifier verified, .synced verifier verified ∈ (run released_after_votes).history 0 → verifier = party 6 := by
  refine ⟨by decide +kernel, ?_⟩
  obtain ⟨escrow, hescrow, hcontract⟩ := Option.map_eq_some_iff.mp
    (show ((run released_after_votes).storage.escrow 0).map EscrowDeposit.verification_contract = some (party 6) by
      decide +kernel)
  rw [← hcontract]
  exact releases_sound hescrow

end BridgeWatch.Escrow

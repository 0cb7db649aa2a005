/-
What `discloseSubset` keeps of a verified bundle.

Every check but two reads only the core, the evidence root, the signature and the
transparency proof, which a partial disclosure leaves as they are. The two are the
content hashes, which hold of every part of what was disclosed, and the partition
of the section ids. The redacted ids of the copy are all ids that are not kept, so
a kept id that the document has already redacted is in neither part of the copy:
`discloseSubset_accepted_iff` says that nothing else can go wrong.
-/
import BridgeWatch.EvidenceDisclosure

set_option autoImplicit false

namespace BridgeWatch.EvidenceBundle

variable {rt : Runtime}

/-! ## The partition of the section ids -/

/-- The partition check passes when the ids are distinct and the disclosed and the
redacted ones are these, in some order. -/
theorem partitionOk_iff {doc : EvidenceBundleDocument} :
    partitionOk doc = true ↔
      (commitmentIds doc.core).Nodup ∧
        (disclosedIds doc ++ doc.redactedSectionIds).Perm (commitmentIds doc.core) := by
  simp only [partitionOk, Bool.and_eq_true, beq_iff_eq, List.all_eq_true, List.contains_iff_mem]
  generalize commitmentIds doc.core = ids
  generalize hparts : disclosedIds doc ++ doc.redactedSectionIds = parts
  constructor
  · rintro ⟨⟨⟨hdedup, hlength⟩, hdisclosed⟩, hredacted⟩
    have hnodup : parts.Nodup := by
      rw [← List.dedup_eq_self]
      exact (List.dedup_sublist parts).eq_of_length (hdedup.trans hlength.symm)
    have hsub : parts ⊆ ids := by
      intro id hid
      rw [← hparts, List.mem_append] at hid
      exact hid.elim (hdisclosed id) (hredacted id)
    -- as many distinct ids as there are commitments: these are all of them
    have hperm : parts.Perm ids := (hnodup.subperm hsub).perm_of_length_le hlength.ge
    exact ⟨hperm.nodup_iff.mp hnodup, hperm⟩
  · rintro ⟨hnodup, hperm⟩
    have hsub : ∀ id ∈ parts, id ∈ ids := fun id hid => hperm.subset hid
    refine ⟨⟨⟨?_, hperm.length_eq⟩, ?_⟩, ?_⟩
    · rw [(hperm.nodup_iff.mpr hnodup).dedup]
      exact hperm.length_eq
    · intro id hid
      exact hsub id (hparts ▸ List.mem_append_left _ hid)
    · intro id hid
      exact hsub id (hparts ▸ List.mem_append_right _ hid)

/-- Where `disclosed` and `redacted` partition the ids, the kept ones among
`disclosed` and the ids that are not kept do so exactly when every kept id is
disclosed. -/
theorem filter_partition_iff {ids disclosed redacted : List JsString} (keep : JsString → Bool)
    (hnodup : ids.Nodup) (hperm : (disclosed ++ redacted).Perm ids) :
    (disclosed.filter keep ++ ids.filter (!keep ·)).Perm ids ↔
      ∀ id ∈ ids, keep id = true → id ∈ disclosed := by
  have hsplit : (ids.filter keep ++ ids.filter (!keep ·)).Perm ids := List.filter_append_perm keep ids
  have hdisclosed : disclosed.Nodup := (List.nodup_append.mp (hperm.nodup_iff.mpr hnodup)).1
  have hsub : ∀ id ∈ disclosed, id ∈ ids := fun id hid =>
    hperm.subset (List.mem_append_left _ hid)
  calc (disclosed.filter keep ++ ids.filter (!keep ·)).Perm ids
      ↔ (disclosed.filter keep ++ ids.filter (!keep ·)).Perm
          (ids.filter keep ++ ids.filter (!keep ·)) :=
        ⟨fun h => h.trans hsplit.symm, fun h => h.trans hsplit⟩
    _ ↔ (disclosed.filter keep).Perm (ids.filter keep) := List.perm_append_right_iff _
    _ ↔ ∀ id, id ∈ disclosed.filter keep ↔ id ∈ ids.filter keep :=
        List.perm_ext_iff_of_nodup (hdisclosed.filter _) (hnodup.filter _)
    _ ↔ ∀ id ∈ ids, keep id = true → id ∈ disclosed := by
        simp only [List.mem_filter]
        constructor
        · intro h id hid hkeep
          exact ((h id).mpr ⟨hid, hkeep⟩).1
        · intro h id
          exact ⟨fun hid => ⟨hsub id hid.1, hid.2⟩, fun hid => ⟨h id hid.1 hid.2, hid.2⟩⟩

/-! ## Acceptance, part by part -/

/-- The section opens its commitment. -/
def SectionOpens (rt : Runtime) (core : BundleCore) (s : DisclosedSection) : Prop :=
  ∃ c, sectionHashCheck rt core s = .ok c ∧ c.ok = true

/-- The output opens its commitment. -/
def OutputOpens (rt : Runtime) (core : BundleCore) (o : DisclosedOutput) : Prop :=
  ∃ c, outputHashCheck rt core o = .ok c ∧ c.ok = true

/-- The checks of what a partial disclosure leaves untouched. -/
def SignedPartOk (rt : Runtime) (doc : EvidenceBundleDocument) (opts : VerifyOptions) : Prop :=
  (formatCheck doc.core).ok = true ∧
    (∃ c, inputsRootCheck rt doc.core = .ok c ∧ c.ok = true) ∧
    (∃ evidenceRoot, computeEvidenceRoot rt doc.core = .ok evidenceRoot ∧
      (evidenceRootCheck doc evidenceRoot).ok = true ∧
      (signatureCheck rt doc evidenceRoot).ok = true) ∧
    (signerValidityCheck rt doc.core opts).ok = true ∧
    ∃ checks, transparencyChecks rt doc opts = .ok checks ∧ ∀ c ∈ checks, c.ok = true

/-- The section checks pass when every disclosed section opens its commitment: the
check that stands for an empty list passes by itself. -/
theorem sectionHashChecks_iff {doc : EvidenceBundleDocument} :
    (∃ checks, sectionHashChecks rt doc = .ok checks ∧ ∀ c ∈ checks, c.ok = true) ↔
      ∀ s ∈ doc.disclosedSections, SectionOpens rt doc.core s := by
  unfold SectionOpens
  rw [← Js.mapM_forall_iff]
  constructor
  · rintro ⟨checks, hchecks, hok⟩
    obtain ⟨hashes, hhashes, heq⟩ := Js.bind_eq_ok.mp hchecks
    cases heq
    exact ⟨hashes, hhashes, fun c hc => hok c (List.mem_append_left _ hc)⟩
  · rintro ⟨hashes, hhashes, hok⟩
    refine ⟨_, Js.bind_eq_ok.mpr ⟨hashes, hhashes, rfl⟩, ?_⟩
    intro c hc
    rcases List.mem_append.mp hc with hc | hc
    · exact hok c hc
    · split at hc
      · rw [List.mem_singleton.mp hc]
      · cases hc

/-- A document is accepted when its partition, what it discloses and what is signed
all pass. -/
theorem accepts_iff_parts {doc : EvidenceBundleDocument} {opts : VerifyOptions} :
    accepts rt doc opts = true ↔
      partitionOk doc = true ∧ (∀ s ∈ doc.disclosedSections, SectionOpens rt doc.core s) ∧
        (∀ o ∈ doc.disclosedOutputs, OutputOpens rt doc.core o) ∧ SignedPartOk rt doc opts := by
  rw [accepts_iff, ← sectionHashChecks_iff]
  unfold OutputOpens
  rw [← Js.mapM_forall_iff]
  simp only [List.mem_append, List.mem_cons, List.not_mem_nil, or_false, or_imp, forall_and,
    forall_eq]
  constructor
  · rintro ⟨sectionHashes, inputsRoot, outputHashes, evidenceRoot, transparency, hsections,
      hinputs, houtputs, hroot, htransparency,
      ⟨⟨⟨⟨⟨hformat, hpartition⟩, hsectionsOk⟩, hinputsOk⟩, houtputsOk⟩, hrootOk, hsigOk,
        hvalidityOk⟩, htransparencyOk⟩
    exact ⟨hpartition, ⟨sectionHashes, hsections, hsectionsOk⟩,
      ⟨outputHashes, houtputs, houtputsOk⟩, hformat, ⟨inputsRoot, hinputs, hinputsOk⟩,
      ⟨evidenceRoot, hroot, hrootOk, hsigOk⟩, hvalidityOk, transparency, htransparency,
      htransparencyOk⟩
  · rintro ⟨hpartition, ⟨sectionHashes, hsections, hsectionsOk⟩,
      ⟨outputHashes, houtputs, houtputsOk⟩, hformat, ⟨inputsRoot, hinputs, hinputsOk⟩,
      ⟨evidenceRoot, hroot, hrootOk, hsigOk⟩, hvalidityOk, transparency, htransparency,
      htransparencyOk⟩
    exact ⟨sectionHashes, inputsRoot, outputHashes, evidenceRoot, transparency, hsections,
      hinputs, houtputs, hroot, htransparency,
      ⟨⟨⟨⟨⟨hformat, hpartition⟩, hsectionsOk⟩, hinputsOk⟩, houtputsOk⟩, hrootOk, hsigOk,
        hvalidityOk⟩, htransparencyOk⟩

/-! ## Disclosing less -/

/-- What a call of `discloseSubset` that does not throw says of its arguments and its
result. -/
theorem discloseSubset_eq_ok (rt : Runtime) {doc copy : EvidenceBundleDocument} {keepSectionIds : List JsString}
    {keepOutputIds : Option (List JsString)}
    (h : discloseSubset doc keepSectionIds keepOutputIds = .ok copy) :
    (∀ id ∈ keepSectionIds, id ∈ commitmentIds doc.core) ∧
      disclosedIds copy = (disclosedIds doc).filter keepSectionIds.contains ∧
      copy.redactedSectionIds = (commitmentIds doc.core).filter (!keepSectionIds.contains ·) ∧
      copy.core = doc.core ∧ copy.disclosedSections ⊆ doc.disclosedSections ∧
      copy.disclosedOutputs ⊆ doc.disclosedOutputs ∧
      ∀ opts, SignedPartOk rt copy opts ↔ SignedPartOk rt doc opts := by
  unfold discloseSubset at h
  dsimp only at h
  split at h
  · cases h
  · next hfind =>
      cases h
      refine ⟨?_, ?_, rfl, rfl, List.filter_subset_self _, ?_, fun opts => Iff.rfl⟩
      · intro id hid
        have hknown := List.find?_eq_none.mp hfind id hid
        simpa [commitmentIds] using hknown
      · exact (List.filter_map (f := DisclosedSection.sectionId)
          (p := keepSectionIds.contains) (l := doc.disclosedSections)).symm
      · cases keepOutputIds with
        | none => exact List.Subset.refl _
        | some => exact List.filter_subset_self _

/-- **Disclosing a part of a valid bundle gives a valid bundle exactly when every kept
section is one that the bundle still discloses.** -/
theorem discloseSubset_accepted_iff (rt : Runtime) (doc copy : EvidenceBundleDocument)
    (opts : VerifyOptions) (keepSectionIds : List JsString)
    (keepOutputIds : Option (List JsString)) (hvalid : accepts rt doc opts = true)
    (hcopy : discloseSubset doc keepSectionIds keepOutputIds = .ok copy) :
    accepts rt copy opts = true ↔ ∀ id ∈ keepSectionIds, id ∈ disclosedIds doc := by
  obtain ⟨hpartition, hsections, houtputs, hsigned⟩ := accepts_iff_parts.mp hvalid
  obtain ⟨hnodup, hperm⟩ := partitionOk_iff.mp hpartition
  obtain ⟨hknown, hdisclosed, hredacted, hcore, hsubSections, hsubOutputs, hsignedCopy⟩ :=
    discloseSubset_eq_ok rt hcopy
  -- of the copy's checks only the partition is open
  have hrest : accepts rt copy opts = true ↔ partitionOk copy = true := by
    rw [accepts_iff_parts, hcore, hsignedCopy]
    exact ⟨fun h => h.1, fun h => ⟨h, fun s hs => hsections s (hsubSections hs),
      fun o ho => houtputs o (hsubOutputs ho), hsigned⟩⟩
  rw [hrest, partitionOk_iff, hdisclosed, hredacted, hcore,
    filter_partition_iff _ hnodup hperm]
  constructor
  · rintro ⟨-, hkept⟩ id hid
    exact hkept id (hknown id hid) (List.contains_iff_mem.mpr hid)
  · intro hkept
    exact ⟨hnodup, fun id _ hid => hkept id (List.contains_iff_mem.mp hid)⟩

/-- The sample with its one section redacted. -/
def redactedDocument : EvidenceBundleDocument :=
  { sampleDocument builtSection with
    disclosedSections := []
    redactedSectionIds := [js "balance"] }

theorem redactedDocument_accepted :
    accepts sampleRuntime redactedDocument sampleOptions = true := by
  decide +kernel

theorem discloseSubset_accepted_iff_balance :
    accepts sampleRuntime (sampleDocument builtSection) sampleOptions = true ↔
      ∀ id ∈ [js "balance"], id ∈ disclosedIds (sampleDocument builtSection) :=
  discloseSubset_accepted_iff sampleRuntime (sampleDocument builtSection)
    (sampleDocument builtSection) sampleOptions [js "balance"] none builtSection_accepted rfl

/-- A disclosure of nothing is valid, and to ask it for the section again gives a
document that is not: the section is neither disclosed nor redacted. -/
theorem redisclosure_rejected :
    discloseSubset (sampleDocument builtSection) [] none = .ok redactedDocument ∧
      accepts sampleRuntime redactedDocument sampleOptions = true ∧
      ∃ copy, discloseSubset redactedDocument [js "balance"] none = .ok copy ∧
        accepts sampleRuntime copy sampleOptions = false := by
  refine ⟨rfl, redactedDocument_accepted,
    { redactedDocument with redactedSectionIds := [] }, rfl, ?_⟩
  decide +kernel

end BridgeWatch.EvidenceBundle

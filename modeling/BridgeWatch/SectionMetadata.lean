/-
What a verified bundle says of the ids and the labels of its sections.

The partition is checked by lengths and membership, which is enough: the ids are all different, and each is disclosed or
redacted. What opens a section is its salt and its value. The media type and the label that a reader is shown beside
them are read by no check.
-/
import BridgeWatch.PartialDisclosure

set_option autoImplicit false

namespace BridgeWatch.EvidenceBundle

variable {rt : Runtime} {doc : EvidenceBundleDocument} {opts : VerifyOptions}

/-- The document with other media types and labels beside the disclosed values. -/
def relabel (doc : EvidenceBundleDocument) (mediaType label : DisclosedSection → JsString) : EvidenceBundleDocument :=
  { doc with
    disclosedSections := doc.disclosedSections.map fun s => { s with mediaType := mediaType s, label := label s } }

section Relabel

variable {mediaType label : DisclosedSection → JsString}

theorem disclosedIds_relabel : disclosedIds (relabel doc mediaType label) = disclosedIds doc := by
  simp only [disclosedIds, relabel, List.map_map]
  rfl

theorem sectionPartitionCheck_relabel :
    sectionPartitionCheck (relabel doc mediaType label) = sectionPartitionCheck doc := by
  rw [sectionPartitionCheck, partitionOk, disclosedIds_relabel]
  rfl

theorem sectionHashChecks_relabel :
    sectionHashChecks rt (relabel doc mediaType label) = sectionHashChecks rt doc := by
  simp only [sectionHashChecks, relabel, List.mapM_map, List.isEmpty_map]
  rfl

/-- **No check reads the labels.** -/
theorem verifyEvidenceBundle_relabel :
    verifyEvidenceBundle rt (relabel doc mediaType label) opts = verifyEvidenceBundle rt doc opts := by
  rw [verifyEvidenceBundle, sectionHashChecks_relabel, sectionPartitionCheck_relabel]
  rfl

end Relabel

/-- **A verified bundle partitions its sections.** The ids of the commitments are distinct, each is disclosed or
redacted and not both, and a disclosed section opens the one commitment under its id; the labels beside it may be
any. -/
theorem disclosed_sections_committed (rt : Runtime) (doc : EvidenceBundleDocument) (opts : VerifyOptions)
    (h : accepts rt doc opts = true) :
    (commitmentIds doc.core).Nodup ∧ (disclosedIds doc).Nodup ∧
      (∀ id ∈ disclosedIds doc, id ∉ doc.redactedSectionIds) ∧
      (∀ id, id ∈ commitmentIds doc.core ↔ id ∈ disclosedIds doc ∨ id ∈ doc.redactedSectionIds) ∧
      (∀ s ∈ doc.disclosedSections, ∃ c ∈ doc.core.sectionCommitments, c.sectionId = s.sectionId ∧
        (∀ c' ∈ doc.core.sectionCommitments, c'.sectionId = s.sectionId → c' = c) ∧
        sectionContentHash rt s.saltHex s.value = .ok c.contentHash) ∧
      ∀ mediaType label, accepts rt (relabel doc mediaType label) opts = true := by
  obtain ⟨hpartition, -⟩ := accepts_iff_parts.mp h
  obtain ⟨hnodup, hperm⟩ := partitionOk_iff.mp hpartition
  obtain ⟨hdisclosed, -, hdisjoint⟩ := List.nodup_append.mp (hperm.nodup_iff.mpr hnodup)
  refine ⟨hnodup, hdisclosed, fun id hid hredacted => hdisjoint id hid id hredacted rfl, ?_, ?_, ?_⟩
  · intro id
    rw [← hperm.mem_iff, List.mem_append]
  · intro s hs
    obtain ⟨c, hfind, hopens⟩ := section_opens h hs
    have hmem : c ∈ doc.core.sectionCommitments := List.mem_of_find?_eq_some hfind
    have hid : c.sectionId = s.sectionId := by simpa using List.find?_some hfind
    refine ⟨c, hmem, hid, fun c' hmem' hid' => ?_, hopens⟩
    exact List.inj_on_of_nodup_map hnodup hmem' hmem (hid'.trans hid.symm)
  · intro mediaType label
    rwa [accepts, verifyEvidenceBundle_relabel]

/-- The sample, whose section is disclosed. -/
theorem sample_section_committed : ∃ c ∈ sampleCore.sectionCommitments, c.sectionId = builtSection.sectionId ∧
    (∀ c' ∈ sampleCore.sectionCommitments, c'.sectionId = builtSection.sectionId → c' = c) ∧
    sectionContentHash sampleRuntime builtSection.saltHex builtSection.value = .ok c.contentHash :=
  (disclosed_sections_committed sampleRuntime (sampleDocument builtSection) sampleOptions
    builtSection_accepted).2.2.2.2.1 builtSection (List.mem_singleton.mpr rfl)

/-- The sample with another label. -/
def relabelledDocument : EvidenceBundleDocument :=
  relabel (sampleDocument builtSection) (fun _ => js "text/html") fun _ => js "audited balance"

/-- It is accepted, and the section says of itself what its commitment does not. -/
theorem relabelled_accepted :
    accepts sampleRuntime relabelledDocument sampleOptions = true ∧
      ∃ s ∈ relabelledDocument.disclosedSections, ∃ c ∈ relabelledDocument.core.sectionCommitments,
        c.sectionId = s.sectionId ∧ s.mediaType ≠ c.mediaType ∧ s.label ≠ c.label := by
  refine ⟨?_, _, List.mem_singleton.mpr rfl, _, List.mem_singleton.mpr rfl, rfl, by decide, by decide⟩
  rw [accepts, relabelledDocument, verifyEvidenceBundle_relabel]
  exact builtSection_accepted

end BridgeWatch.EvidenceBundle

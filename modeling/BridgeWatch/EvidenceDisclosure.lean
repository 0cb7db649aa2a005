/-
What a verified bundle says of the sections that it discloses.

A section is committed to by the SHA-256 of its salt followed by its canonical
text. Nothing marks where the salt ends, and the verifier takes salts of any
length, so that an opening may be cut at another place: the end of the salt and
the start of the text trade bytes. `disclosure_binding_iff` says that this is the
only way in which two openings of one commitment differ.
-/
import BridgeWatch.EvidenceBundle
import BridgeWatch.Fips

set_option autoImplicit false

namespace BridgeWatch.EvidenceBundle

variable {rt : Runtime}

/-! ## What acceptance says -/

/-- A document is accepted when every group of checks is made and passes. -/
theorem accepts_iff {doc : EvidenceBundleDocument} {opts : VerifyOptions} :
    accepts rt doc opts = true ↔
      ∃ sectionHashes inputsRoot outputHashes evidenceRoot transparency,
        sectionHashChecks rt doc = .ok sectionHashes ∧
        inputsRootCheck rt doc.core = .ok inputsRoot ∧
        doc.disclosedOutputs.mapM (outputHashCheck rt doc.core) = .ok outputHashes ∧
        computeEvidenceRoot rt doc.core = .ok evidenceRoot ∧
        transparencyChecks rt doc opts = .ok transparency ∧
        ∀ c ∈ [formatCheck doc.core, sectionPartitionCheck doc] ++ sectionHashes ++
          [inputsRoot] ++ outputHashes ++
          [evidenceRootCheck doc evidenceRoot, signatureCheck rt doc evidenceRoot,
            signerValidityCheck rt doc.core opts] ++ transparency, c.ok = true := by
  unfold accepts
  constructor
  · intro h
    split at h
    · next result hresult =>
        rw [verifyEvidenceBundle, Js.bind_eq_ok] at hresult
        obtain ⟨sectionHashes, hsections, hresult⟩ := hresult
        obtain ⟨inputsRoot, hinputs, hresult⟩ := Js.bind_eq_ok.mp hresult
        obtain ⟨outputHashes, houtputs, hresult⟩ := Js.bind_eq_ok.mp hresult
        obtain ⟨evidenceRoot, hroot, hresult⟩ := Js.bind_eq_ok.mp hresult
        obtain ⟨transparency, htransparency, hresult⟩ := Js.bind_eq_ok.mp hresult
        cases hresult
        exact ⟨sectionHashes, inputsRoot, outputHashes, evidenceRoot, transparency, hsections,
          hinputs, houtputs, hroot, htransparency, List.all_eq_true.mp h⟩
    · cases h
  · rintro ⟨sectionHashes, inputsRoot, outputHashes, evidenceRoot, transparency, hsections,
      hinputs, houtputs, hroot, htransparency, hok⟩
    rw [verifyEvidenceBundle, hsections, Js.ok_bind, hinputs, Js.ok_bind, houtputs, Js.ok_bind,
      hroot, Js.ok_bind, htransparency, Js.ok_bind]
    exact List.all_eq_true.mpr hok

/-- The check of a section passes when the section opens its commitment. -/
theorem sectionHashCheck_ok_iff {core : BundleCore} {s : DisclosedSection} :
    (∃ c, sectionHashCheck rt core s = .ok c ∧ c.ok = true) ↔
      ∃ commitment, findCommitment core s.sectionId = some commitment ∧
        sectionContentHash rt s.saltHex s.value = .ok commitment.contentHash := by
  unfold sectionHashCheck
  cases hfind : findCommitment core s.sectionId with
  | none => simp -- the check is made and fails
  | some commitment =>
      constructor
      · rintro ⟨c, hc, hok⟩
        obtain ⟨recomputed, hrecomputed, hc⟩ := Js.bind_eq_ok.mp hc
        cases hc
        rw [hrecomputed, eq_of_beq hok]
        exact ⟨commitment, rfl, rfl⟩
      · rintro ⟨_, hsome, hhash⟩
        cases hsome
        exact ⟨_, Js.bind_eq_ok.mpr ⟨_, hhash, rfl⟩, beq_self_eq_true _⟩

/-- Every section that an accepted document discloses opens its commitment. -/
theorem section_opens {doc : EvidenceBundleDocument} {opts : VerifyOptions}
    (h : accepts rt doc opts = true) {s : DisclosedSection} (hs : s ∈ doc.disclosedSections) :
    ∃ commitment, findCommitment doc.core s.sectionId = some commitment ∧
      sectionContentHash rt s.saltHex s.value = .ok commitment.contentHash := by
  obtain ⟨sectionHashes, _, _, _, _, hsections, _, _, _, _, hok⟩ := accepts_iff.mp h
  obtain ⟨checks, hchecks, hall⟩ := Js.bind_eq_ok.mp hsections
  obtain ⟨c, hc, hcheck⟩ := (Js.mapM_eq_ok hchecks).1 s hs
  have hmem : c ∈ sectionHashes := by
    rw [← Except.ok.inj hall]
    exact List.mem_append_left _ hc
  exact sectionHashCheck_ok_iff.mp ⟨c, hcheck, hok c (by simp [hmem])⟩

/-! ## Openings -/

/-- The bytes whose SHA-256 is the content hash of a section. -/
def openingMessage (s : DisclosedSection) : Js Buffer := do
  let bytes ← canonicalBytes s.value
  return fromHex s.saltHex ++ bytes

/-- The input on which a disclosed section has SHA-256 evaluated, if its value has
canonical text. -/
def openingInputs (s : DisclosedSection) : List Buffer :=
  match openingMessage s with
  | .ok m => [m]
  | .error _ => []

/-- Two ways to cut one byte string in two agree on the second part exactly when the
first parts have one length. -/
theorem append_cut {α : Type} {s t a b : List α} (h : s ++ a = t ++ b) :
    a = b ↔ s.length = t.length := by
  constructor
  · rintro rfl
    rw [List.append_left_inj] at h
    rw [h]
  · intro hlen
    exact (List.append_inj h hlen).2

/-- **Two openings of one content hash** carry the same canonical text exactly when
their salts have one length. -/
theorem opening_binding_iff {s t : DisclosedSection} {contentHash : JsString}
    (hcf : rt.sha256.CollisionFree (openingInputs s ++ openingInputs t))
    (hs : sectionContentHash rt s.saltHex s.value = .ok contentHash)
    (ht : sectionContentHash rt t.saltHex t.value = .ok contentHash) :
    canonicalize s.value = canonicalize t.value ↔
      (fromHex s.saltHex).length = (fromHex t.saltHex).length := by
  obtain ⟨a, ha, hsa⟩ := Js.bind_eq_ok.mp hs
  obtain ⟨b, hb, htb⟩ := Js.bind_eq_ok.mp ht
  have hms : openingInputs s = [fromHex s.saltHex ++ a] := by
    rw [openingInputs, openingMessage, ha]
    rfl
  have hmt : openingInputs t = [fromHex t.saltHex ++ b] := by
    rw [openingInputs, openingMessage, hb]
    rfl
  -- equal hexadecimal digests are equal digests, and those have one input
  have hdigest : rt.sha256 (fromHex s.saltHex ++ a) = rt.sha256 (fromHex t.saltHex ++ b) :=
    BytesN.toList_inj.mp
      (toHex_injective ((Except.ok.inj hsa).trans (Except.ok.inj htb).symm))
  have hmessage : fromHex s.saltHex ++ a = fromHex t.saltHex ++ b :=
    hcf (by simp [hms]) (by simp [hmt]) hdigest
  rw [← append_cut hmessage]
  constructor
  · intro hcanon
    rw [canonicalBytes, hcanon] at ha
    exact Except.ok.inj (ha.symm.trans hb)
  · rintro rfl
    exact canonicalBytes_inj ha hb

/-- **Disclosure binds the value of a section exactly when it binds the length of its
salt.** -/
theorem disclosure_binding_iff (rt : Runtime) (doc₁ doc₂ : EvidenceBundleDocument)
    (opts₁ opts₂ : VerifyOptions) (hcore : doc₁.core = doc₂.core)
    (h₁ : accepts rt doc₁ opts₁ = true) (h₂ : accepts rt doc₂ opts₂ = true)
    (s₁ s₂ : DisclosedSection) (hs₁ : s₁ ∈ doc₁.disclosedSections)
    (hs₂ : s₂ ∈ doc₂.disclosedSections) (hid : s₁.sectionId = s₂.sectionId)
    (hcf : rt.sha256.CollisionFree (openingInputs s₁ ++ openingInputs s₂)) :
    canonicalize s₁.value = canonicalize s₂.value ↔
      (fromHex s₁.saltHex).length = (fromHex s₂.saltHex).length := by
  obtain ⟨c₁, hc₁, hopen₁⟩ := section_opens h₁ hs₁
  obtain ⟨c₂, hc₂, hopen₂⟩ := section_opens h₂ hs₂
  rw [hcore, hid, hc₂] at hc₁
  cases hc₁
  exact opening_binding_iff hcf hopen₁ hopen₂

/-! ## A bundle that opens to two values -/

/-- The `len` bytes of a number, the highest first. -/
def bytesOfNat (len n : ℕ) : Buffer :=
  (List.range len).map fun i => (n / 256 ^ (len - 1 - i)).toUInt8

/-- The 32 bytes from 0 to 31. -/
def sampleSalt : Buffer := (List.range 32).map Nat.toUInt8

/-- The public key of the Ed25519 seed that consists of the same bytes. -/
def samplePublicKey : Buffer :=
  bytesOfNat 32 0x03a107bff3ce10be1d70dd18e74bc09967e4d6309ba50d5f1ddc8664125531b8

/-- A core that commits to one section, the number -250. -/
def sampleCore : BundleCore where
  bundleId := js "eb_1"
  bundleFormatVersion := js "1.0"
  subject :=
    { type := js "report"
      id := js "r1"
      reportType := none
      periodStart := none
      periodEnd := none }
  createdAt := js "2026-06-01"
  inputsRoot :=
    toHex (bytesOfNat 32 0xeb67b62bf0d69cfac2bcf4113f900d945185f442f4904c9ecc8c8d7e736583ae)
  sectionCommitments :=
    [{ sectionId := js "balance"
       mediaType := js "application/json"
       label := js "balance"
       contentHash :=
        toHex (bytesOfNat 32 0xb873c6b0590241d87cb9dfc23729611698df4f09872744126a8d32f1d055b8ab) }]
  finalityMetadata := none
  decoderVersions := []
  codeVersion := none
  configVersion := none
  queryParameters := []
  derivedOutputs := []
  signer :=
    { keyId := js "k1"
      algorithm := js "ed25519"
      publicKeyHex := toHex samplePublicKey
      validFrom := js "2026-01-01"
      validUntil := none
      rotatesKeyId := none
      logEntryIndex := none }

def sampleRoot : Buffer :=
  bytesOfNat 32 0xa3ee7dccd1e58aa5f1617c3fe908aad3dbc8622f601a102e5b391ac754dae71c

/-- The signature of `sampleRoot`. -/
def sampleSignature : Buffer :=
  bytesOfNat 32 0x4861b1ca9843c2a0ec67a0f81dc0ab28e9c49b9c9842bc93ee0d439c6200e309 ++
    bytesOfNat 32 0x43b5e7c482c85e7f26d487dcd3ad26cb207499255cf5d9471f547701f1f09908

/-- SHA-256, and what Node says of the signature and the dates of the sample. -/
def sampleRuntime : Runtime where
  sha256 := Fips.sha256
  verify der message signature :=
    some (der == SPKI_PREFIX ++ samplePublicKey && message == sampleRoot &&
      signature == sampleSignature)
  getTime s :=
    if s = js "2026-01-01" then some 1767225600000
    else if s = js "2026-06-01" then some 1780272000000
    else none

def sampleSection (salt : Buffer) (value : Decimal) : DisclosedSection where
  sectionId := js "balance"
  mediaType := js "application/json"
  label := js "balance"
  saltHex := toHex salt
  value := .number (.finite value)

def sampleDocument (s : DisclosedSection) : EvidenceBundleDocument where
  core := sampleCore
  evidenceRoot := toHex sampleRoot
  signature := toHex sampleSignature
  disclosedSections := [s]
  redactedSectionIds := []
  disclosedOutputs := []
  transparency := none

def sampleOptions : VerifyOptions := { asOf := none, requireTransparency := false }

/-- The section as it was built: the salt, and the value -250. -/
def builtSection : DisclosedSection :=
  sampleSection sampleSalt
    { negative := true, digits := 25, point := 3, shortest := by decide }

/-- The same bytes with the minus sign taken into the salt. -/
def recutSection : DisclosedSection :=
  sampleSection (sampleSalt ++ [0x2D])
    { negative := false, digits := 25, point := 3, shortest := by decide }

theorem builtSection_accepted :
    accepts sampleRuntime (sampleDocument builtSection) sampleOptions = true := by
  decide +kernel

theorem recutSection_accepted :
    accepts sampleRuntime (sampleDocument recutSection) sampleOptions = true := by
  decide +kernel

theorem sections_collisionFree : sampleRuntime.sha256.CollisionFree
    (openingInputs builtSection ++ openingInputs recutSection) := by
  decide +kernel

theorem disclosure_binding_iff_recut :
    canonicalize builtSection.value = canonicalize recutSection.value ↔
      (fromHex builtSection.saltHex).length = (fromHex recutSection.saltHex).length :=
  disclosure_binding_iff sampleRuntime (sampleDocument builtSection) (sampleDocument recutSection)
    sampleOptions sampleOptions rfl builtSection_accepted recutSection_accepted builtSection
    recutSection (List.mem_singleton.mpr rfl) (List.mem_singleton.mpr rfl) rfl
    sections_collisionFree

/-- Two documents with one signed core, both accepted, that open the commitment to
-250 and to 250. -/
theorem disclosure_not_binding :
    (sampleDocument builtSection).core = (sampleDocument recutSection).core ∧
      accepts sampleRuntime (sampleDocument builtSection) sampleOptions = true ∧
      accepts sampleRuntime (sampleDocument recutSection) sampleOptions = true ∧
      builtSection ∈ (sampleDocument builtSection).disclosedSections ∧
      recutSection ∈ (sampleDocument recutSection).disclosedSections ∧
      builtSection.sectionId = recutSection.sectionId ∧
      sampleRuntime.sha256.CollisionFree
        (openingInputs builtSection ++ openingInputs recutSection) ∧
      canonicalize builtSection.value ≠ canonicalize recutSection.value := by
  refine ⟨rfl, builtSection_accepted, recutSection_accepted, List.mem_singleton.mpr rfl,
    List.mem_singleton.mpr rfl, rfl, sections_collisionFree, fun h => ?_⟩
  -- `-250` is longer than `250`
  have hlen := congrArg (fun r : Js JsString => r.toOption.elim 0 List.length) h
  revert hlen
  decide +kernel

end BridgeWatch.EvidenceBundle

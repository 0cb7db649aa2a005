/-
The construction of evidence bundles, `buildBundleCore` of
`backend/src/services/transparencyLog/evidenceBundle.ts`, with the signing of `ed25519.ts`.

The sections are checked for repeated ids as they are built, the derived outputs are not. The verifier looks both up by
their ids and takes the first. So a bundle that was built and signed verifies exactly when every output has the hash of
the first one under its id.
-/
import BridgeWatch.PartialDisclosure

set_option autoImplicit false

namespace BridgeWatch.EvidenceBundle

open Merkle

/-! ## Inputs -/

structure EvidenceSectionInput where
  sectionId : JsString
  mediaType : Option JsString
  label : Option JsString
  value : JsValue
  saltHex : Option JsString

structure DerivedOutputInput where
  outputId : JsString
  label : Option JsString
  mediaType : Option JsString
  /-- `undefined` where there is none. -/
  value : JsValue
  outputHash : Option JsString

/-- A field that may be `null` is none where it is `null` or left out. -/
structure BuildBundleInput where
  bundleId : JsString
  subject : BundleSubject
  createdAt : Option JsString
  sections : List EvidenceSectionInput
  finalityMetadata : Option FinalityMetadata
  decoderVersions : Option (List (JsString × JsString))
  codeVersion : Option Record
  configVersion : Option Record
  queryParameters : Option Record
  derivedOutputs : Option (List DerivedOutputInput)
  signer : SignerMetadata

structure BuiltBundle where
  core : BundleCore
  evidenceRoot : JsString
  disclosedSections : List DisclosedSection
  disclosedOutputs : List DisclosedOutput

/-- What the builder takes from its surroundings: a new salt for each section, and the time. -/
structure Surroundings where
  randomSaltHex : ℕ → JsString
  /-- `new Date().toISOString()`. -/
  now : JsString

/-! ## Construction -/

section Build

variable (rt : Runtime) (env : Surroundings)

/-- One round of the loop over the sections. -/
def buildSection (random : JsString) (seenIds : List JsString) (s : EvidenceSectionInput) :
    Js (DisclosedSection × SectionCommitment) :=
  if s.sectionId.isEmpty then throwNew (js "section is missing sectionId")
  else if seenIds.contains s.sectionId then throwNew (js "duplicate sectionId: " ++ s.sectionId)
  else do
    let mediaType := s.mediaType.getD (js "application/json")
    let label := s.label.getD s.sectionId
    let saltHex := s.saltHex.getD random
    let contentHash ← sectionContentHash rt saltHex s.value
    return (⟨s.sectionId, mediaType, label, saltHex, s.value⟩, ⟨s.sectionId, mediaType, label, contentHash⟩)

/-- The loop over the sections, from the ids seen so far on. -/
def buildSections (seenIds : List JsString) :
    List EvidenceSectionInput → Js (List (DisclosedSection × SectionCommitment))
  | [] => .ok []
  | s :: sections => do
    let built ← buildSection rt (env.randomSaltHex seenIds.length) seenIds s
    let rest ← buildSections (seenIds ++ [s.sectionId]) sections
    return built :: rest

/-- The hash of an output: the one that is given, or else that of its value. -/
def outputHashFor (o : DerivedOutputInput) : Js (Option JsString) :=
  match o.outputHash with
  | some outputHash => .ok (some outputHash)
  | none => if o.value.isUndefined then .ok none else some <$> outputHashOf rt o.value

/-- One round of the loop over the derived outputs. An empty hash is none. -/
def buildOutput (o : DerivedOutputInput) : Js DerivedOutputCommitment :=
  if o.outputId.isEmpty then throwNew (js "derived output is missing outputId")
  else do
    let outputHash ← outputHashFor rt o
    match outputHash.filter (!·.isEmpty) with
    | none => throwNew (js "derived output " ++ o.outputId ++ js " needs a value or an outputHash")
    | some outputHash =>
        return ⟨o.outputId, o.label.getD o.outputId, o.mediaType.getD (js "application/json"), outputHash⟩

/-- The outputs that are disclosed. -/
def discloseOutputs (outputs : List DerivedOutputInput) : List DisclosedOutput :=
  (outputs.filter (!·.value.isUndefined)).map fun o => ⟨o.outputId, o.value⟩

/-- Build the canonical core and the disclosed material. Does not sign. -/
def buildBundleCore (input : BuildBundleInput) : Js BuiltBundle :=
  if input.sections.isEmpty then throwNew (js "evidence bundle requires at least one input section")
  else do
    let sections ← buildSections rt env [] input.sections
    let sectionCommitments := sections.map Prod.snd
    let outputs := input.derivedOutputs.getD []
    let derivedOutputs ← outputs.mapM (buildOutput rt)
    let inputsRoot ← computeInputsRoot rt sectionCommitments
    let core : BundleCore :=
      { bundleId := input.bundleId
        bundleFormatVersion := BUNDLE_FORMAT_VERSION
        subject := input.subject
        createdAt := input.createdAt.getD env.now
        inputsRoot
        sectionCommitments
        finalityMetadata := input.finalityMetadata
        decoderVersions := input.decoderVersions.getD []
        codeVersion := input.codeVersion
        configVersion := input.configVersion
        queryParameters := input.queryParameters.getD []
        derivedOutputs
        signer := input.signer }
    let evidenceRoot ← computeEvidenceRoot rt core
    return ⟨core, evidenceRoot, sections.map Prod.fst, discloseOutputs outputs⟩

end Build

/-! ## Signing -/

def PKCS8_PREFIX : Buffer := fromHex (js "302e020100300506032b657004220420")

/-- The DER encoding of the key. -/
def privateKeyFromRawHex (hex : JsString) : Js Buffer :=
  let raw := fromHex hex
  if raw.length ≠ 32 then
    throwNew (js "ed25519 private key seed must be 32 bytes, got " ++ jsNat raw.length)
  else .ok (PKCS8_PREFIX ++ raw)

/-- `sign` is Node's `sign(null, message, key)` for the key with the given DER encoding. -/
def signRaw (sign : (der message : Buffer) → Buffer) (privateKeyHex : JsString) (message : Buffer) : Js JsString := do
  let key ← privateKeyFromRawHex privateKeyHex
  return toHex (sign key message)

def signEvidenceRoot (sign : (der message : Buffer) → Buffer) (privateKeyHex evidenceRoot : JsString) : Js JsString :=
  signRaw sign privateKeyHex (fromHex evidenceRoot)

/-- The document that discloses all that was built. -/
def signedDocument (built : BuiltBundle) (signature : JsString) : EvidenceBundleDocument where
  core := built.core
  evidenceRoot := built.evidenceRoot
  signature := signature
  disclosedSections := built.disclosedSections
  redactedSectionIds := []
  disclosedOutputs := built.disclosedOutputs
  transparency := none

/-- `verifyEvidenceBundle(doc)`. -/
def noOptions : VerifyOptions := { asOf := none, requireTransparency := false }

/-! ## What was built -/

section Lookups

variable {α β κ : Type} [BEq κ] [LawfulBEq κ] {key : α → κ} {key' : β → κ}

/-- In a list of different keys an entry is found under its own. -/
theorem find?_of_nodup {l : List α} (hnodup : (l.map key).Nodup) {a : α} (ha : a ∈ l) :
    l.find? (key · == key a) = some a := by
  have hsome : (l.find? (key · == key a)).isSome := List.find?_isSome.mpr ⟨a, ha, beq_self_eq_true (key a)⟩
  obtain ⟨b, hb⟩ := Option.isSome_iff_exists.mp hsome
  have hkey : key b = key a := by simpa using List.find?_some hb
  rw [hb, List.inj_on_of_nodup_map hnodup (List.mem_of_find?_eq_some hb) ha hkey]

/-- Where two lists have the same keys, the first entries under one of them belong together. -/
theorem find?_of_forall₂ {R : α → β → Prop} {l : List α} {l' : List β} (h : l.Forall₂ R l')
    (hkey : ∀ a b, R a b → key' b = key a) {k : κ} {a : α} (ha : l.find? (key · == k) = some a) :
    ∃ b, l'.find? (key' · == k) = some b ∧ R a b := by
  induction h with
  | nil => cases ha
  | @cons x y _ _ hxy _ ih =>
      rw [List.find?_cons] at ha ⊢
      rw [hkey x y hxy]
      by_cases hk : key x == k
      · simp only [hk, Option.some.injEq] at ha ⊢
        exact ⟨y, rfl, ha ▸ hxy⟩
      · simp only [hk] at ha ⊢
        exact ih ha

end Lookups

section Built

variable {rt : Runtime} {env : Surroundings} {input : BuildBundleInput} {built : BuiltBundle}

/-- The section opens the commitment. -/
structure Opens (rt : Runtime) (p : DisclosedSection × SectionCommitment) : Prop where
  sectionId : p.1.sectionId = p.2.sectionId
  contentHash : sectionContentHash rt p.1.saltHex p.1.value = .ok p.2.contentHash

theorem buildSection_eq_ok {random : JsString} {seenIds : List JsString} {s : EvidenceSectionInput}
    {p : DisclosedSection × SectionCommitment} (h : buildSection rt random seenIds s = .ok p) :
    s.sectionId ∉ seenIds ∧ p.2.sectionId = s.sectionId ∧ Opens rt p := by
  unfold buildSection at h
  split at h
  · cases h
  · split at h
    · cases h
    · next hseen =>
        obtain ⟨contentHash, hhash, heq⟩ := Js.bind_eq_ok.mp h
        cases heq
        exact ⟨fun hmem => hseen (List.contains_iff_mem.mpr hmem), rfl, rfl, hhash⟩

/-- The sections have different ids, and each opens its commitment. -/
theorem buildSections_eq_ok {seenIds : List JsString} {sections : List EvidenceSectionInput}
    {pairs : List (DisclosedSection × SectionCommitment)} (h : buildSections rt env seenIds sections = .ok pairs) :
    (pairs.map fun p => p.2.sectionId).Nodup ∧ (∀ p ∈ pairs, p.2.sectionId ∉ seenIds) ∧ ∀ p ∈ pairs, Opens rt p := by
  induction sections generalizing seenIds pairs with
  | nil =>
      cases h
      exact ⟨List.nodup_nil, nofun, nofun⟩
  | cons _ _ ih =>
      rw [buildSections, Js.bind_eq_ok] at h
      obtain ⟨p, hp, h⟩ := h
      obtain ⟨rest, hrest, heq⟩ := Js.bind_eq_ok.mp h
      cases heq
      obtain ⟨hnew, hid, hopens⟩ := buildSection_eq_ok hp
      obtain ⟨hnodup, hunseen, hall⟩ := ih hrest
      have hother : ∀ q ∈ rest, q.2.sectionId ≠ p.2.sectionId := by
        intro q hq heq
        apply hunseen q hq
        rw [heq, hid]
        exact List.mem_append_right _ (List.mem_singleton_self _)
      refine ⟨?_, ?_, List.forall_mem_cons.mpr ⟨hopens, hall⟩⟩
      · rw [List.map_cons, List.nodup_cons]
        refine ⟨fun hmem => ?_, hnodup⟩
        obtain ⟨q, hq, heq⟩ := List.mem_map.mp hmem
        exact hother q hq heq
      · rw [List.forall_mem_cons, hid]
        exact ⟨hnew, fun q hq hmem => hunseen q hq (List.mem_append_left _ hmem)⟩

/-- An output that has a value and no hash of its own commits to its value. -/
theorem buildOutput_eq_ok {o : DerivedOutputInput} {c : DerivedOutputCommitment}
    (hplain : o.outputHash = none ∧ o.value.isUndefined = false) (h : buildOutput rt o = .ok c) :
    c.outputId = o.outputId ∧ outputHashOf rt o.value = .ok c.outputHash := by
  unfold buildOutput outputHashFor at h
  rw [hplain.1, hplain.2] at h
  split at h
  · cases h
  · obtain ⟨outputHash, hhash, h⟩ := Js.bind_eq_ok.mp h
    split at h
    · cases h
    · next hsome =>
        cases h
        cases hvalue : outputHashOf rt o.value with
        | error => simp [hvalue] at hhash
        | ok =>
            rw [hvalue] at hhash
            cases hhash
            rw [Option.filter_eq_some_iff] at hsome
            exact ⟨rfl, congrArg Except.ok (Option.some.inj hsome.1)⟩

/-- The check of an output passes when it has the hash of the first commitment under its id. -/
theorem outputOpens_iff {core : BundleCore} {o : DisclosedOutput} :
    OutputOpens rt core o ↔ ∃ commitment, core.derivedOutputs.find? (·.outputId == o.outputId) = some commitment ∧
      outputHashOf rt o.value = .ok commitment.outputHash := by
  unfold OutputOpens outputHashCheck
  cases hfind : core.derivedOutputs.find? (·.outputId == o.outputId) with
  | none => simp -- the check is made and fails
  | some commitment =>
      constructor
      · rintro ⟨c, hc, hok⟩
        obtain ⟨recomputed, hrecomputed, hc⟩ := Js.bind_eq_ok.mp hc
        cases hc
        rw [hrecomputed, eq_of_beq hok]
        exact ⟨commitment, rfl, rfl⟩
      · rintro ⟨_, hsome, hhash⟩
        cases hsome
        exact ⟨_, Js.bind_eq_ok.mpr ⟨_, hhash, rfl⟩, beq_self_eq_true _⟩

/-! ## Round trip -/

/-- Every signature with the private key is valid for the public key. -/
def Matches (rt : Runtime) (sign : (der message : Buffer) → Buffer) (privateKeyHex publicKeyHex : JsString) : Prop :=
  ∀ message signature, signRaw sign privateKeyHex message = .ok signature →
    verifyRaw rt publicKeyHex message signature = true

/-- The time lies in the window of the signer's key. -/
structure InWindow (rt : Runtime) (signer : SignerMetadata) (createdAt : JsString) : Prop where
  validFrom : dateLe rt signer.validFrom createdAt = true
  validUntil : ∀ validUntil, signer.validUntil = some validUntil → validUntil ≠ [] →
    dateLe rt createdAt validUntil = true

/-- Every output has the hash of the first one under its id. -/
def AgreesWithFirst (rt : Runtime) (outputs : List DerivedOutputInput) : Prop :=
  ∀ o ∈ outputs, ∀ first, outputs.find? (·.outputId == o.outputId) = some first →
    outputHashOf rt o.value = outputHashOf rt first.value

/-- What was built opens, but for outputs under an id that came before. -/
structure WellBuilt (rt : Runtime) (env : Surroundings) (input : BuildBundleInput) (built : BuiltBundle) : Prop where
  format : built.core.bundleFormatVersion = BUNDLE_FORMAT_VERSION
  createdAt : built.core.createdAt = input.createdAt.getD env.now
  signer : built.core.signer = input.signer
  inputsRoot : computeInputsRoot rt built.core.sectionCommitments = .ok built.core.inputsRoot
  evidenceRoot : computeEvidenceRoot rt built.core = .ok built.evidenceRoot
  sections : ∃ pairs : List (DisclosedSection × SectionCommitment), built.disclosedSections = pairs.map Prod.fst ∧
    built.core.sectionCommitments = pairs.map Prod.snd ∧ (pairs.map fun p => p.2.sectionId).Nodup ∧
    ∀ p ∈ pairs, Opens rt p
  disclosedOutputs : built.disclosedOutputs = discloseOutputs (input.derivedOutputs.getD [])
  derivedOutputs : (input.derivedOutputs.getD []).Forall₂ (fun o c => buildOutput rt o = .ok c)
    built.core.derivedOutputs

theorem buildBundleCore_eq_ok (h : buildBundleCore rt env input = .ok built) : WellBuilt rt env input built := by
  unfold buildBundleCore at h
  split at h
  · cases h
  · obtain ⟨pairs, hpairs, h⟩ := Js.bind_eq_ok.mp h
    obtain ⟨derivedOutputs, houtputs, h⟩ := Js.bind_eq_ok.mp h
    obtain ⟨inputsRoot, hinputs, h⟩ := Js.bind_eq_ok.mp h
    obtain ⟨evidenceRoot, hroot, heq⟩ := Js.bind_eq_ok.mp h
    cases heq
    obtain ⟨hnodup, -, hopens⟩ := buildSections_eq_ok hpairs
    exact ⟨rfl, rfl, rfl, hinputs, hroot, ⟨pairs, rfl, rfl, hnodup, hopens⟩, rfl, Js.mapM_forall₂.mp houtputs⟩

/-- All sections are disclosed, and each opens its commitment. -/
theorem WellBuilt.sections_ok (h : WellBuilt rt env input built) (signature : JsString) :
    partitionOk (signedDocument built signature) = true ∧
      ∀ s ∈ built.disclosedSections, SectionOpens rt built.core s := by
  obtain ⟨pairs, hdisclosed, hcommitments, hnodup, hopens⟩ := h.sections
  have hids : commitmentIds built.core = pairs.map fun p => p.2.sectionId := by
    rw [commitmentIds, hcommitments, List.map_map]
    rfl
  constructor
  · have hdisclosedIds : disclosedIds (signedDocument built signature) = pairs.map fun p => p.2.sectionId := by
      rw [disclosedIds, signedDocument, hdisclosed, List.map_map]
      exact List.map_congr_left fun p hp => (hopens p hp).sectionId
    rw [partitionOk_iff, hdisclosedIds]
    refine ⟨hids ▸ hnodup, ?_⟩
    rw [signedDocument, hids, List.append_nil]
  · intro s hs
    rw [hdisclosed] at hs
    obtain ⟨p, hp, rfl⟩ := List.mem_map.mp hs
    refine sectionHashCheck_ok_iff.mpr ⟨p.2, ?_, (hopens p hp).contentHash⟩
    rw [findCommitment, (hopens p hp).sectionId]
    apply find?_of_nodup
    · have hdistinct : (commitmentIds built.core).Nodup := by rwa [hids]
      exact hdistinct
    · rw [hcommitments]
      exact List.mem_map_of_mem hp

/-- The outputs open when each has the hash of the first one under its id. -/
theorem WellBuilt.outputs_ok_iff (h : WellBuilt rt env input built)
    (hplain : ∀ o ∈ input.derivedOutputs.getD [], o.outputHash = none ∧ o.value.isUndefined = false) :
    (∀ o ∈ built.disclosedOutputs, OutputOpens rt built.core o) ↔
      AgreesWithFirst rt (input.derivedOutputs.getD []) := by
  set outputs := input.derivedOutputs.getD [] with houtputs
  have hcommits : outputs.Forall₂ (fun o c => o ∈ outputs ∧ c.outputId = o.outputId ∧
      outputHashOf rt o.value = .ok c.outputHash) built.core.derivedOutputs := by
    refine ((List.forall₂_and_left _ _).mpr ⟨fun o ho => ho, h.derivedOutputs⟩).imp fun o c hoc => ?_
    exact ⟨hoc.1, buildOutput_eq_ok (hplain o hoc.1) hoc.2⟩
  have hall : discloseOutputs outputs = outputs.map fun o => ⟨o.outputId, o.value⟩ := by
    rw [discloseOutputs, List.filter_eq_self.mpr]
    intro o ho
    rw [(hplain o ho).2]
    rfl
  rw [h.disclosedOutputs, hall, List.forall_mem_map]
  refine forall₂_congr fun o ho => ?_
  -- The first output under an id is the one whose commitment is found.
  obtain ⟨first, hfirst⟩ : ∃ first, outputs.find? (·.outputId == o.outputId) = some first :=
    Option.isSome_iff_exists.mp (List.find?_isSome.mpr ⟨o, ho, beq_self_eq_true _⟩)
  obtain ⟨c, hc, -, -, hhash⟩ := find?_of_forall₂ hcommits
    (fun _ (c : DerivedOutputCommitment) hoc => (show c.outputId = _ from hoc.2.1)) hfirst
  rw [outputOpens_iff, hc, hfirst]
  simp [hhash]

/-- **What was built and signed verifies exactly when its outputs agree with the first ones under their ids.** -/
theorem built_accepted_iff {sign : (der message : Buffer) → Buffer} {privateKeyHex signature : JsString}
    (hbuild : buildBundleCore rt env input = .ok built)
    (hplain : ∀ o ∈ input.derivedOutputs.getD [], o.outputHash = none ∧ o.value.isUndefined = false)
    (hkey : Matches rt sign privateKeyHex input.signer.publicKeyHex)
    (hwindow : InWindow rt input.signer (input.createdAt.getD env.now))
    (hsign : signEvidenceRoot sign privateKeyHex built.evidenceRoot = .ok signature) :
    accepts rt (signedDocument built signature) noOptions = true ↔
      AgreesWithFirst rt (input.derivedOutputs.getD []) := by
  have hbuilt := buildBundleCore_eq_ok hbuild
  have hsections := hbuilt.sections_ok signature
  have hsigned : SignedPartOk rt (signedDocument built signature) noOptions := by
    refine ⟨?_, ?_, ⟨built.evidenceRoot, hbuilt.evidenceRoot, ?_, ?_⟩, ?_, [], rfl, nofun⟩
    · exact beq_iff_eq.mpr hbuilt.format
    · exact ⟨_, Js.bind_eq_ok.mpr ⟨_, hbuilt.inputsRoot, rfl⟩, beq_self_eq_true _⟩
    · exact beq_self_eq_true _
    · rw [signatureCheck, signedDocument, hbuilt.signer]
      simp [hkey _ _ hsign]
    · rw [signerValidityCheck, signedDocument, hbuilt.signer, noOptions, Option.getD_none, hbuilt.createdAt,
        hwindow.validFrom]
      cases huntil : input.signer.validUntil with
      | none => rfl
      | some validUntil =>
          by_cases hempty : validUntil = []
          · simp [hempty]
          · simp [hwindow.validUntil validUntil huntil hempty]
  rw [accepts_iff_parts, ← hbuilt.outputs_ok_iff hplain]
  exact ⟨fun h => h.2.2.1, fun h => ⟨hsections.1, hsections.2, h, hsigned⟩⟩

end Built

/-! ## A bundle with a repeated output id -/

/-- The signature of the sample's root, and nothing for any other message. -/
def sampleSign (_der message : Buffer) : Buffer := if message = sampleRoot then sampleSignature else []

/-- The sample's key accepts what it signs. -/
def signingRuntime : Runtime :=
  { sampleRuntime with
    verify := fun der message signature =>
      some (der == SPKI_PREFIX ++ samplePublicKey && signature == sampleSign [] message) }

def sampleSurroundings : Surroundings := { randomSaltHex := fun _ => toHex sampleSalt, now := js "2026-06-01" }

def sampleInput (outputs : List DerivedOutputInput) : BuildBundleInput where
  bundleId := js "eb_1"
  subject := sampleCore.subject
  createdAt := some (js "2026-06-01")
  sections := [⟨js "balance", none, none, builtSection.value, none⟩]
  finalityMetadata := none
  decoderVersions := none
  codeVersion := none
  configVersion := none
  queryParameters := none
  derivedOutputs := some outputs
  signer := sampleCore.signer

/-- An output without a hash of its own. -/
def plainOutput (value : JsValue) : DerivedOutputInput := ⟨js "report", none, none, value, none⟩

theorem matches_sample : Matches signingRuntime sampleSign (toHex sampleSalt) (toHex samplePublicKey) := by
  intro message signature h
  have hkey : publicKeyFromRawHex (toHex samplePublicKey) = .ok (SPKI_PREFIX ++ samplePublicKey) := by
    simp [publicKeyFromRawHex, samplePublicKey, bytesOfNat]
  obtain ⟨key, -, hsignature⟩ := Js.bind_eq_ok.mp h
  cases hsignature
  rw [verifyRaw, hkey]
  simp [signingRuntime, sampleSign]

theorem inWindow_sample : InWindow signingRuntime sampleCore.signer (js "2026-06-01") where
  validFrom := by decide
  validUntil _ h := by cases h

theorem exists_built (outputs : List DerivedOutputInput)
    (h : (buildBundleCore signingRuntime sampleSurroundings (sampleInput outputs)).toOption.isSome = true) :
    ∃ built signature, buildBundleCore signingRuntime sampleSurroundings (sampleInput outputs) = .ok built ∧
      signEvidenceRoot sampleSign (toHex sampleSalt) built.evidenceRoot = .ok signature := by
  have hkey : privateKeyFromRawHex (toHex sampleSalt) = .ok (PKCS8_PREFIX ++ sampleSalt) := by
    simp [privateKeyFromRawHex, sampleSalt]
  cases hbuild : buildBundleCore signingRuntime sampleSurroundings (sampleInput outputs) with
  | error => rw [hbuild] at h; cases h
  | ok built => exact ⟨built, _, rfl, Js.bind_eq_ok.mpr ⟨_, hkey, rfl⟩⟩

/-- The sample is built, signed and accepted. -/
theorem sample_round_trip : ∃ built signature,
    buildBundleCore signingRuntime sampleSurroundings (sampleInput []) = .ok built ∧
      (accepts signingRuntime (signedDocument built signature) noOptions = true ↔
        AgreesWithFirst signingRuntime []) := by
  obtain ⟨built, signature, hbuild, hsign⟩ := exists_built [] (by decide +kernel)
  exact ⟨built, signature, hbuild,
    built_accepted_iff hbuild (by simp [sampleInput]) matches_sample inWindow_sample hsign⟩

/-- Two outputs under one id are built and signed, and what was signed is not accepted. -/
theorem repeated_output_rejected : ∃ built signature,
    buildBundleCore signingRuntime sampleSurroundings
      (sampleInput [plainOutput .null, plainOutput (.boolean true)]) = .ok built ∧
    (∀ o ∈ [plainOutput .null, plainOutput (.boolean true)], o.outputHash = none ∧ o.value.isUndefined = false) ∧
    Matches signingRuntime sampleSign (toHex sampleSalt) sampleCore.signer.publicKeyHex ∧
    InWindow signingRuntime sampleCore.signer built.core.createdAt ∧
    signEvidenceRoot sampleSign (toHex sampleSalt) built.evidenceRoot = .ok signature ∧
    accepts signingRuntime (signedDocument built signature) noOptions = false := by
  obtain ⟨built, signature, hbuild, hsign⟩ :=
    exists_built [plainOutput .null, plainOutput (.boolean true)] (by decide +kernel)
  have hbuilt := buildBundleCore_eq_ok hbuild
  have hplain : ∀ o ∈ [plainOutput .null, plainOutput (.boolean true)],
      o.outputHash = none ∧ o.value.isUndefined = false := by
    simp [plainOutput, JsValue.isUndefined]
  refine ⟨built, signature, hbuild, hplain, matches_sample, ?_, hsign, ?_⟩
  · rw [hbuilt.createdAt]
    exact inWindow_sample
  · rw [← Bool.not_eq_true, accepts_iff_parts]
    intro h
    have hagrees := (hbuilt.outputs_ok_iff hplain).mp h.2.2.1
    have hhash := hagrees (plainOutput (.boolean true)) (by simp [sampleInput]) (plainOutput .null) rfl
    revert hhash
    decide +kernel

end BridgeWatch.EvidenceBundle

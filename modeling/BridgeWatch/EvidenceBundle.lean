/-
Signed evidence bundles, `backend/src/services/transparencyLog/evidenceBundle.ts`,
with the signature check of `ed25519.ts`.

A document has the fields of its wire types. What the verifier takes from Node is
one structure, `Runtime`: SHA-256, the Ed25519 check and the reading of dates.
`verifyEvidenceBundle` pushes its checks onto one list; here each group of them is
a definition, in the order in which they are made.
-/
import BridgeWatch.Canonical
import BridgeWatch.Merkle

set_option autoImplicit false

namespace BridgeWatch.EvidenceBundle

open Merkle

/-! ## Wire types -/

structure SectionCommitment where
  sectionId : JsString
  mediaType : JsString
  label : JsString
  /-- SHA-256(salt || canonical(value)), hex. -/
  contentHash : JsString

structure DisclosedSection where
  sectionId : JsString
  mediaType : JsString
  label : JsString
  saltHex : JsString
  value : JsValue

structure DerivedOutputCommitment where
  outputId : JsString
  label : JsString
  mediaType : JsString
  outputHash : JsString

structure DisclosedOutput where
  outputId : JsString
  value : JsValue

/-- `number | string`. -/
inductive LedgerRef where
  | number (x : JsNumber)
  | string (s : JsString)

structure FinalityMetadata where
  chain : JsString
  observedLedger : LedgerRef
  finalizedLedger : LedgerRef
  confirmations : JsNumber
  finalityThreshold : JsNumber
  finalized : Bool
  observedAt : JsString

structure BundleSubject where
  type : JsString
  id : JsString
  reportType : Option JsString
  periodStart : Option JsString
  periodEnd : Option JsString

structure SignerMetadata where
  keyId : JsString
  algorithm : JsString
  publicKeyHex : JsString
  validFrom : JsString
  validUntil : Option JsString
  rotatesKeyId : Option JsString
  logEntryIndex : Option JsNumber

/-- `Record<string, unknown>`. -/
abbrev Record := List (JsString × JsValue)

structure BundleCore where
  bundleId : JsString
  bundleFormatVersion : JsString
  subject : BundleSubject
  createdAt : JsString
  inputsRoot : JsString
  sectionCommitments : List SectionCommitment
  finalityMetadata : Option FinalityMetadata
  decoderVersions : List (JsString × JsString)
  codeVersion : Option Record
  configVersion : Option Record
  queryParameters : Record
  derivedOutputs : List DerivedOutputCommitment
  signer : SignerMetadata

structure SignedTreeHead where
  treeSize : ℕ
  rootHash : JsString
  timestamp : JsString
  logPublicKeyHex : JsString
  signature : JsString

structure TransparencyEntryData where
  type : JsString
  bundleId : JsString
  evidenceRoot : JsString
  signerKeyId : JsString

structure KeyRegistrationEntryData where
  type : JsString
  keyId : JsString
  algorithm : JsString
  publicKeyHex : JsString
  validFrom : JsString
  rotatesKeyId : Option JsString

structure KeyRevocationEntryData where
  type : JsString
  keyId : JsString
  revokedAt : JsString
  reason : JsString

/-- An entry of the log with its inclusion proof. -/
structure LoggedEntry (α : Type) where
  entryIndex : ℕ
  entryData : α
  inclusionProof : List JsString

structure TransparencyProof where
  logId : JsString
  entryIndex : ℕ
  entryData : TransparencyEntryData
  treeSize : ℕ
  rootHash : JsString
  inclusionProof : List JsString
  signedTreeHead : SignedTreeHead
  keyRegistration : Option (LoggedEntry KeyRegistrationEntryData)
  keyRevocation : Option (LoggedEntry KeyRevocationEntryData)

structure EvidenceBundleDocument where
  core : BundleCore
  evidenceRoot : JsString
  signature : JsString
  disclosedSections : List DisclosedSection
  redactedSectionIds : List JsString
  disclosedOutputs : List DisclosedOutput
  transparency : Option TransparencyProof

/-! ## Wire types as JavaScript values -/

/-- A field that holds `null` where there is no text. -/
def orNull : Option JsString → JsValue
  | none => .null
  | some s => .string s

/-- A field that is left out where there is no text. -/
def orUndefined : Option JsString → JsValue
  | none => .undefined
  | some s => .string s

def LedgerRef.toValue : LedgerRef → JsValue
  | .number x => .number x
  | .string s => .string s

def SectionCommitment.toValue (c : SectionCommitment) : JsValue :=
  .object
    [(js "sectionId", .string c.sectionId), (js "mediaType", .string c.mediaType),
      (js "label", .string c.label), (js "contentHash", .string c.contentHash)]

def DerivedOutputCommitment.toValue (c : DerivedOutputCommitment) : JsValue :=
  .object
    [(js "outputId", .string c.outputId), (js "label", .string c.label),
      (js "mediaType", .string c.mediaType), (js "outputHash", .string c.outputHash)]

def FinalityMetadata.toValue (f : FinalityMetadata) : JsValue :=
  .object
    [(js "chain", .string f.chain), (js "observedLedger", f.observedLedger.toValue),
      (js "finalizedLedger", f.finalizedLedger.toValue),
      (js "confirmations", .number f.confirmations),
      (js "finalityThreshold", .number f.finalityThreshold),
      (js "finalized", .boolean f.finalized), (js "observedAt", .string f.observedAt)]

def BundleSubject.toValue (s : BundleSubject) : JsValue :=
  .object
    [(js "type", .string s.type), (js "id", .string s.id),
      (js "reportType", orUndefined s.reportType), (js "periodStart", orUndefined s.periodStart),
      (js "periodEnd", orUndefined s.periodEnd)]

def SignerMetadata.toValue (s : SignerMetadata) : JsValue :=
  .object
    [(js "keyId", .string s.keyId), (js "algorithm", .string s.algorithm),
      (js "publicKeyHex", .string s.publicKeyHex), (js "validFrom", .string s.validFrom),
      (js "validUntil", orNull s.validUntil), (js "rotatesKeyId", orNull s.rotatesKeyId),
      (js "logEntryIndex", s.logEntryIndex.elim .null .number)]

def BundleCore.toValue (core : BundleCore) : JsValue :=
  .object
    [(js "bundleId", .string core.bundleId),
      (js "bundleFormatVersion", .string core.bundleFormatVersion),
      (js "subject", core.subject.toValue), (js "createdAt", .string core.createdAt),
      (js "inputsRoot", .string core.inputsRoot),
      (js "sectionCommitments", .array (core.sectionCommitments.map (·.toValue))),
      (js "finalityMetadata", core.finalityMetadata.elim .null (·.toValue)),
      (js "decoderVersions", .object (core.decoderVersions.map fun p => (p.1, .string p.2))),
      (js "codeVersion", core.codeVersion.elim .null .object),
      (js "configVersion", core.configVersion.elim .null .object),
      (js "queryParameters", .object core.queryParameters),
      (js "derivedOutputs", .array (core.derivedOutputs.map (·.toValue))),
      (js "signer", core.signer.toValue)]

def TransparencyEntryData.toValue (e : TransparencyEntryData) : JsValue :=
  .object
    [(js "type", .string e.type), (js "bundleId", .string e.bundleId),
      (js "evidenceRoot", .string e.evidenceRoot), (js "signerKeyId", .string e.signerKeyId)]

def KeyRegistrationEntryData.toValue (e : KeyRegistrationEntryData) : JsValue :=
  .object
    [(js "type", .string e.type), (js "keyId", .string e.keyId),
      (js "algorithm", .string e.algorithm), (js "publicKeyHex", .string e.publicKeyHex),
      (js "validFrom", .string e.validFrom), (js "rotatesKeyId", orNull e.rotatesKeyId)]

def KeyRevocationEntryData.toValue (e : KeyRevocationEntryData) : JsValue :=
  .object
    [(js "type", .string e.type), (js "keyId", .string e.keyId),
      (js "revokedAt", .string e.revokedAt), (js "reason", .string e.reason)]

/-! ## Hashes and signatures -/

/-- What the verifier takes from Node. -/
structure Runtime where
  sha256 : Sha256
  /-- `verify(null, message, key, signature)` for the key with the given DER
  encoding; `none` where the call, or `createPublicKey`, throws. -/
  verify : (der message signature : Buffer) → Option Bool
  /-- `new Date(s).getTime()`; `none` is `NaN`. -/
  getTime : JsString → Option ℤ

variable (rt : Runtime)

def SPKI_PREFIX : Buffer := fromHex (js "302a300506032b6570032100")

/-- The DER encoding of the key. -/
def publicKeyFromRawHex (hex : JsString) : Js Buffer :=
  let raw := fromHex hex
  if raw.length ≠ 32 then
    throwNew (js "ed25519 public key must be 32 bytes, got " ++ jsNat raw.length)
  else .ok (SPKI_PREFIX ++ raw)

def verifyRaw (publicKeyHex : JsString) (message : Buffer) (signatureHex : JsString) : Bool :=
  match publicKeyFromRawHex publicKeyHex with
  | .ok key => (rt.verify key message (fromHex signatureHex)).getD false
  | .error _ => false

def sectionContentHash (saltHex : JsString) (value : JsValue) : Js JsString := do
  let bytes ← canonicalBytes value
  return toHex (rt.sha256 (fromHex saltHex ++ bytes)).toList

/-- Leaf bytes for a section within the inputs Merkle tree. -/
def sectionLeafBytes (c : SectionCommitment) : Js Buffer :=
  canonicalBytes (.object
    [(js "sectionId", .string c.sectionId), (js "mediaType", .string c.mediaType),
      (js "contentHash", .string c.contentHash)])

def computeInputsRoot (commitments : List SectionCommitment) : Js JsString := do
  let leaves ← commitments.mapM sectionLeafBytes
  merkleRootHex rt.sha256 leaves

def outputHashOf (value : JsValue) : Js JsString := do
  let bytes ← canonicalBytes value
  return toHex (rt.sha256 bytes).toList

/-- SHA-256 of the canonical core: the evidence root that gets signed and logged. -/
def computeEvidenceRoot (core : BundleCore) : Js JsString := do
  let bytes ← canonicalBytes core.toValue
  return toHex (rt.sha256 bytes).toList

def bundleLogEntryData (core : BundleCore) (evidenceRoot : JsString) : TransparencyEntryData where
  type := js "evidence_bundle"
  bundleId := core.bundleId
  evidenceRoot := evidenceRoot
  signerKeyId := core.signer.keyId

def logLeafHashHex (entryData : JsValue) : Js JsString := do
  let bytes ← canonicalBytes entryData
  return toHex (hashLeaf rt.sha256 bytes)

def signedTreeHeadMessage (sth : SignedTreeHead) : Js Buffer :=
  canonicalBytes (.object
    [(js "treeSize", .number (.ofNat sth.treeSize)), (js "rootHash", .string sth.rootHash),
      (js "timestamp", .string sth.timestamp)])

/-! ## Partial disclosure -/

/-- Return a copy of `doc` exposing only `keepSectionIds` and, when given, only
`keepOutputIds`. -/
def discloseSubset (doc : EvidenceBundleDocument) (keepSectionIds : List JsString)
    (keepOutputIds : Option (List JsString)) : Js EvidenceBundleDocument :=
  let allIds := doc.core.sectionCommitments.map (·.sectionId)
  match keepSectionIds.find? fun id => !allIds.contains id with
  | some id => throwNew (js "unknown sectionId: " ++ id)
  | none =>
      .ok { doc with
        disclosedSections := doc.disclosedSections.filter (keepSectionIds.contains ·.sectionId)
        redactedSectionIds := allIds.filter (!keepSectionIds.contains ·)
        disclosedOutputs := keepOutputIds.elim doc.disclosedOutputs fun ids =>
          doc.disclosedOutputs.filter (ids.contains ·.outputId) }

/-! ## Offline verification -/

def BUNDLE_FORMAT_VERSION : JsString := js "1.0"

structure VerificationCheck where
  name : JsString
  ok : Bool
  detail : JsString

structure VerificationResult where
  valid : Bool
  bundleId : JsString
  evidenceRoot : JsString
  checks : List VerificationCheck

structure VerifyOptions where
  /-- ISO timestamp; when set, also assert the signer key was valid at this instant. -/
  asOf : Option JsString
  /-- Require an embedded transparency proof. -/
  requireTransparency : Bool

def formatCheck (core : BundleCore) : VerificationCheck where
  name := js "format"
  ok := core.bundleFormatVersion == BUNDLE_FORMAT_VERSION
  detail := js "bundleFormatVersion=" ++ core.bundleFormatVersion ++ js " (supported: " ++
    BUNDLE_FORMAT_VERSION ++ js ")"

def commitmentIds (core : BundleCore) : List JsString := core.sectionCommitments.map (·.sectionId)

def disclosedIds (doc : EvidenceBundleDocument) : List JsString :=
  doc.disclosedSections.map (·.sectionId)

/-- Section id partition: disclosed and redacted ids are all ids, and disjoint. -/
def partitionOk (doc : EvidenceBundleDocument) : Bool :=
  let ids := commitmentIds doc.core
  let disclosed := disclosedIds doc
  let redacted := doc.redactedSectionIds
  (disclosed ++ redacted).dedup.length == ids.length &&
    (disclosed ++ redacted).length == ids.length &&
    disclosed.all ids.contains && redacted.all ids.contains

def sectionPartitionCheck (doc : EvidenceBundleDocument) : VerificationCheck where
  name := js "section_partition"
  ok := partitionOk doc
  detail := jsNat (disclosedIds doc).length ++ js " disclosed + " ++
    jsNat doc.redactedSectionIds.length ++ js " redacted vs " ++
    jsNat (commitmentIds doc.core).length ++ js " commitments"

/-- `core.sectionCommitments.find((c) => c.sectionId === sectionId)`. -/
def findCommitment (core : BundleCore) (sectionId : JsString) : Option SectionCommitment :=
  core.sectionCommitments.find? (·.sectionId == sectionId)

/-- One round of the loop over the disclosed sections. -/
def sectionHashCheck (core : BundleCore) (s : DisclosedSection) : Js VerificationCheck :=
  match findCommitment core s.sectionId with
  | none =>
      .ok
        { name := js "section_hash"
          ok := false
          detail := js "disclosed section " ++ s.sectionId ++ js " has no commitment" }
  | some commitment => do
      let recomputed ← sectionContentHash rt s.saltHex s.value
      let ok := recomputed == commitment.contentHash
      return {
        name := js "section_hash"
        ok := ok
        detail := s.sectionId ++ js ": " ++
          if ok then js "matches"
          else js "expected " ++ commitment.contentHash ++ js ", got " ++ recomputed }

def sectionHashChecks (doc : EvidenceBundleDocument) : Js (List VerificationCheck) := do
  let checks ← doc.disclosedSections.mapM (sectionHashCheck rt doc.core)
  return checks ++
    if doc.disclosedSections.isEmpty then
      [{ name := js "section_hash"
         ok := true
         detail := js "no sections disclosed (fully redacted bundle)" }]
    else []

/-- Inputs Merkle root over all commitments, redacted or not. -/
def inputsRootCheck (core : BundleCore) : Js VerificationCheck := do
  let inputsRoot ← computeInputsRoot rt core.sectionCommitments
  return {
    name := js "inputs_root"
    ok := inputsRoot == core.inputsRoot
    detail := js "recomputed " ++ inputsRoot ++ js " vs core " ++ core.inputsRoot }

/-- One round of the loop over the disclosed derived outputs. -/
def outputHashCheck (core : BundleCore) (o : DisclosedOutput) : Js VerificationCheck :=
  match core.derivedOutputs.find? (·.outputId == o.outputId) with
  | none =>
      .ok
        { name := js "output_hash"
          ok := false
          detail := js "disclosed output " ++ o.outputId ++ js " has no commitment" }
  | some commitment => do
      let recomputed ← outputHashOf rt o.value
      let ok := recomputed == commitment.outputHash
      return {
        name := js "output_hash"
        ok := ok
        detail := o.outputId ++ js ": " ++ if ok then js "matches" else js "mismatch" }

/-- The check of the recomputed evidence root. -/
def evidenceRootCheck (doc : EvidenceBundleDocument) (evidenceRoot : JsString) :
    VerificationCheck where
  name := js "evidence_root"
  ok := evidenceRoot == doc.evidenceRoot
  detail := js "recomputed " ++ evidenceRoot ++ js " vs document " ++ doc.evidenceRoot

/-- Signature over the evidence root. -/
def signatureCheck (doc : EvidenceBundleDocument) (evidenceRoot : JsString) : VerificationCheck :=
  let signer := doc.core.signer
  let sigOk := evidenceRoot == doc.evidenceRoot &&
    verifyRaw rt signer.publicKeyHex (fromHex doc.evidenceRoot) doc.signature
  { name := js "signature"
    ok := sigOk
    detail :=
      if sigOk then js "valid " ++ signer.algorithm ++ js " signature by " ++ signer.keyId
      else js "signature verification failed" }

/-- `new Date(a).getTime() <= new Date(b).getTime()`. -/
def dateLe (a b : JsString) : Bool :=
  match rt.getTime a, rt.getTime b with
  | some s, some t => s ≤ t
  | _, _ => false

/-- A truth value in a template string. -/
def jsBool (b : Bool) : JsString := if b then js "true" else js "false"

/-- Signer key validity window. An empty `validUntil` is none. -/
def signerValidityCheck (core : BundleCore) (opts : VerifyOptions) : VerificationCheck :=
  let asOf := opts.asOf.getD core.createdAt
  let validFromOk := dateLe rt core.signer.validFrom asOf
  let validUntilOk :=
    match core.signer.validUntil with
    | none => true
    | some validUntil => validUntil.isEmpty || dateLe rt asOf validUntil
  { name := js "signer_validity"
    ok := validFromOk && validUntilOk
    detail := js "key " ++ core.signer.keyId ++ js " valid at " ++ asOf ++ js ": from=" ++
      jsBool validFromOk ++ js " until=" ++ jsBool validUntilOk }

/-- The log entry of the bundle. -/
def transparencyEntryCheck (doc : EvidenceBundleDocument) (tp : TransparencyProof) :
    VerificationCheck :=
  let expected := bundleLogEntryData doc.core doc.evidenceRoot
  let entryDataOk :=
    tp.entryData.type == js "evidence_bundle" && tp.entryData.bundleId == expected.bundleId &&
      tp.entryData.evidenceRoot == expected.evidenceRoot &&
      tp.entryData.signerKeyId == expected.signerKeyId
  { name := js "transparency_entry"
    ok := entryDataOk
    detail :=
      if entryDataOk then js "log entry binds bundleId + evidenceRoot + signerKeyId"
      else js "log entry data does not match bundle" }

/-- `verifyInclusionProof` of an entry in the log that `tp` is about. -/
def included (tp : TransparencyProof) (leafHex : JsString) (entryIndex : ℕ)
    (inclusionProof : List JsString) : Bool :=
  verifyInclusionProof rt.sha256 (.string leafHex) entryIndex tp.treeSize
    (inclusionProof.map .string) (.string tp.rootHash)

def transparencyInclusionCheck (tp : TransparencyProof) : Js VerificationCheck := do
  let leafHex ← logLeafHashHex rt tp.entryData.toValue
  return {
    name := js "transparency_inclusion"
    ok := included rt tp leafHex tp.entryIndex tp.inclusionProof
    detail := js "entry " ++ jsNat tp.entryIndex ++ js " in tree size " ++ jsNat tp.treeSize ++
      js " @ root " ++ tp.rootHash.take 16 ++ js "…" }

/-- `sthShapeOk && verifyRaw(...)`. -/
def sthSigOk (tp : TransparencyProof) : Js Bool :=
  let sth := tp.signedTreeHead
  if sth.treeSize == tp.treeSize && sth.rootHash == tp.rootHash then do
    let message ← signedTreeHeadMessage sth
    return verifyRaw rt sth.logPublicKeyHex message sth.signature
  else .ok false

def signedTreeHeadCheck (tp : TransparencyProof) : Js VerificationCheck := do
  let sth := tp.signedTreeHead
  let sthSigOk ← sthSigOk rt tp
  return {
    name := js "signed_tree_head"
    ok := sthSigOk
    detail :=
      if sthSigOk then js "STH signed by log key " ++ sth.logPublicKeyHex.take 16 ++ js "…"
      else js "signed tree head invalid" }

def keyRegistrationCheck (core : BundleCore) (tp : TransparencyProof)
    (kr : LoggedEntry KeyRegistrationEntryData) : Js VerificationCheck := do
  let krDataOk :=
    kr.entryData.type == js "key_registration" && kr.entryData.keyId == core.signer.keyId &&
      kr.entryData.publicKeyHex == core.signer.publicKeyHex &&
      kr.entryData.algorithm == core.signer.algorithm &&
      kr.entryData.rotatesKeyId == core.signer.rotatesKeyId
  let leafHex ← logLeafHashHex rt kr.entryData.toValue
  let ok := krDataOk && included rt tp leafHex kr.entryIndex kr.inclusionProof
  return {
    name := js "key_registration"
    ok := ok
    detail :=
      if ok then js "signer key registered at log entry " ++ jsNat kr.entryIndex
      else js "key registration proof invalid" }

def keyRevocationCheck (core : BundleCore) (tp : TransparencyProof)
    (rev : LoggedEntry KeyRevocationEntryData) : Js VerificationCheck := do
  let leafHex ← logLeafHashHex rt rev.entryData.toValue
  let revInclOk := included rt tp leafHex rev.entryIndex rev.inclusionProof
  let revokedAfterUse := dateLe rt core.createdAt rev.entryData.revokedAt
  return {
    name := js "key_revocation"
    ok := revInclOk && revokedAfterUse
    detail :=
      if revInclOk then
        js "key revoked " ++ rev.entryData.revokedAt ++ js " (" ++
          (if revokedAfterUse then js "after" else js "BEFORE") ++ js " this bundle was signed)"
      else js "key revocation proof invalid" }

/-- The checks on an optional part of the proof. -/
def optionalCheck {α : Type} (check : α → Js VerificationCheck) :
    Option α → Js (List VerificationCheck)
  | none => .ok []
  | some part => do
      let c ← check part
      return [c]

/-- Transparency log proof. -/
def transparencyChecks (doc : EvidenceBundleDocument) (opts : VerifyOptions) :
    Js (List VerificationCheck) :=
  match doc.transparency with
  | none =>
      .ok
        (if opts.requireTransparency then
          [{ name := js "transparency"
             ok := false
             detail := js "no transparency proof embedded" }]
        else [])
  | some tp => do
      let inclusion ← transparencyInclusionCheck rt tp
      let treeHead ← signedTreeHeadCheck rt tp
      let registration ← optionalCheck (keyRegistrationCheck rt doc.core tp) tp.keyRegistration
      let revocation ← optionalCheck (keyRevocationCheck rt doc.core tp) tp.keyRevocation
      return [transparencyEntryCheck doc tp, inclusion, treeHead] ++ registration ++ revocation

/-- Validate a bundle with no database and no network. -/
def verifyEvidenceBundle (doc : EvidenceBundleDocument) (opts : VerifyOptions) :
    Js VerificationResult := do
  let sectionHashes ← sectionHashChecks rt doc
  let inputsRoot ← inputsRootCheck rt doc.core
  let outputHashes ← doc.disclosedOutputs.mapM (outputHashCheck rt doc.core)
  let evidenceRoot ← computeEvidenceRoot rt doc.core
  let transparency ← transparencyChecks rt doc opts
  let checks := [formatCheck doc.core, sectionPartitionCheck doc] ++ sectionHashes ++
    [inputsRoot] ++ outputHashes ++
    [evidenceRootCheck doc evidenceRoot, signatureCheck rt doc evidenceRoot,
      signerValidityCheck rt doc.core opts] ++ transparency
  return {
    valid := checks.all (·.ok)
    bundleId := doc.core.bundleId
    evidenceRoot := doc.evidenceRoot
    checks := checks }

/-- `verifyEvidenceBundle(doc, opts)` returns, and its `valid` is true. -/
def accepts (doc : EvidenceBundleDocument) (opts : VerifyOptions) : Bool :=
  match verifyEvidenceBundle rt doc opts with
  | .ok result => result.valid
  | .error _ => false

end BridgeWatch.EvidenceBundle

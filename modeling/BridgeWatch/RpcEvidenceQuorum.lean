/-
Quorums of RPC providers, `backend/src/services/rpcEvidenceQuorum.service.ts`.

Numbers are exact. The configuration of a chain and an operation is given, as reading it from the
database catches its own failures, and so does the audit log, which is left out with the metrics. The
platform gives the host name of a URL, or nothing for what is no URL, and the time.
-/
import Mathlib.Algebra.Order.Floor.Semiring
import Mathlib.Data.Rat.Floor
import Mathlib.Tactic.Linarith
import Mathlib.Tactic.NormNum
import BridgeWatch.JsonText

set_option autoImplicit false

namespace BridgeWatch.RpcEvidenceQuorum

/-! ## Types -/

structure ProviderResponseInput where
  endpoint : JsString
  providerGroup : Option JsString
  blockNumber : ℚ
  blockHash : JsString
  stateRoot : Option JsString
  timestamp : Option ℚ
  data : Option Json
  error : Option JsString

structure QuorumConfig where
  minQuorumSize : ℚ
  quorumThresholdRatio : ℚ
  maxLagBlocks : ℚ
  failClosed : Bool

structure QuorumEvaluationRequest where
  chainId : JsString
  operationType : JsString
  readIdentifier : JsString
  responses : List ProviderResponseInput
  overrideFailClosed : Option Bool
  minQuorumSize : Option ℚ
  maxLagBlocks : Option ℚ

structure QuorumHeaderAnchor where
  canonicalBlockNumber : ℚ
  canonicalBlockHash : JsString
  stateRoot : Option JsString
  consensusTimestamp : ℚ
  deriving DecidableEq

structure DisagreementDetails where
  disagreeingProviders : List JsString
  laggingProviders : List JsString
  correlatedGroups : List (JsString × ℕ)
  reason : Option JsString

inductive Decision where
  | accepted
  | degraded
  | rejected
  deriving DecidableEq

/-- `headerAnchor` and `agreedData` are `none` where the code has `null`; agreed data may be missing in
the responses themselves. -/
structure QuorumEvaluationResult where
  accepted : Bool
  decision : Decision
  confidenceScore : ℚ
  isDegraded : Bool
  hasDisagreement : Bool
  hasExcessiveLag : Bool
  totalProviders : ℕ
  independentGroupsCount : ℕ
  agreedGroupsCount : ℕ
  headerAnchor : Option QuorumHeaderAnchor
  agreedData : Option (Option Json)
  disagreementDetails : DisagreementDetails
  failClosed : Bool

/-! ## Groups -/

/-- `s.includes(part)`. -/
def includes (s part : JsString) : Bool := decide (part <:+: s)

/-- `toLowerCase` of a host name, which is in ASCII. -/
def toLowerCase (s : JsString) : JsString := s.map fun u => if 0x41 ≤ u ∧ u ≤ 0x5A then u + 0x20 else u

/-- An optional string that is not there or empty is falsy. -/
def truthy (s : Option JsString) : Option JsString := s.filter fun text => !text.isEmpty

section

variable (hostname : JsString → Option JsString)

def deriveProviderGroup (endpoint : JsString) (explicitGroup : Option JsString) : JsString :=
  match truthy explicitGroup with
  | some group => group
  | none =>
      match hostname endpoint with
      | none => endpoint
      | some hostname =>
          let hostname := toLowerCase hostname
          if includes hostname (js "infura") then js "infura"
          else if includes hostname (js "alchemy") then js "alchemy"
          else if includes hostname (js "quicknode") then js "quicknode"
          else if includes hostname (js "stellar.org") || includes hostname (js "horizon") then
            js "stellar-foundation"
          else if includes hostname (js "ankr") then js "ankr"
          else hostname

def groupOf (r : ProviderResponseInput) : JsString := deriveProviderGroup hostname r.endpoint r.providerGroup

/-- A map from groups to their responses, in the order in which the groups came. -/
abbrev GroupMap := List (JsString × List ProviderResponseInput)

/-- One round of the loop over the valid responses. -/
def addToGroup (groupMap : GroupMap) (r : ProviderResponseInput) : GroupMap :=
  let groupKey := groupOf hostname r
  if groupMap.any fun entry => entry.1 = groupKey then
    groupMap.map fun entry => if entry.1 = groupKey then (entry.1, entry.2 ++ [r]) else entry
  else groupMap ++ [(groupKey, [r])]

end

/-! ## Votes -/

def maxBlockNumber (responses : List ProviderResponseInput) : ℚ :=
  responses.foldl (fun highest r => max highest r.blockNumber) 0

/-- The most recent block response of a group, the first one of several. -/
def latestInGroup : List ProviderResponseInput → Option ProviderResponseInput
  | [] => none
  | r :: rs =>
      some ((r :: rs).foldl (fun best cur => if cur.blockNumber > best.blockNumber then cur else best) r)

def lags (highest maxLagBlocks : ℚ) (r : ProviderResponseInput) : Bool :=
  highest - r.blockNumber > maxLagBlocks

def laggingProviders (highest maxLagBlocks : ℚ) (groupMap : GroupMap) : List JsString :=
  groupMap.flatMap fun entry =>
    if (latestInGroup entry.2).any (lags highest maxLagBlocks) then
      entry.2.map ProviderResponseInput.endpoint
    else []

def activeGroupVotes (highest maxLagBlocks : ℚ) (groupMap : GroupMap) :
    List (JsString × ProviderResponseInput) :=
  groupMap.filterMap fun entry =>
    ((latestInGroup entry.2).filter fun r => !lags highest maxLagBlocks r).map fun r => (entry.1, r)

/-- `JSON.stringify(data)` in a template, where data that is missing is written as `undefined`. -/
def dataFingerprint (r : ProviderResponseInput) : JsString := r.data.elim (js "undefined") Json.stringify

def consensusKey (r : ProviderResponseInput) : JsString := r.blockHash ++ js ":" ++ dataFingerprint r

structure ConsensusBucket where
  key : JsString
  count : ℕ
  sample : ProviderResponseInput
  groups : List JsString

/-- One round of the loop over the votes. -/
def addVote (buckets : List ConsensusBucket) (vote : JsString × ProviderResponseInput) :
    List ConsensusBucket :=
  let key := consensusKey vote.2
  if buckets.any fun bucket => bucket.key = key then
    buckets.map fun bucket =>
      if bucket.key = key then
        { bucket with count := bucket.count + 1, groups := bucket.groups ++ [vote.1] }
      else bucket
  else buckets ++ [{ key, count := 1, sample := vote.2, groups := [vote.1] }]

def consensusBuckets (votes : List (JsString × ProviderResponseInput)) : List ConsensusBucket :=
  votes.foldl addVote []

/-- The bucket with the most votes, the first one of several. -/
def winningBucket (buckets : List ConsensusBucket) : Option ConsensusBucket :=
  buckets.foldl (fun winner bucket =>
    match winner with
    | none => some bucket
    | some best => if bucket.count > best.count then some bucket else some best) none

/-! ## Decisions -/

/-- `Number(x.toFixed(2))`. -/
def toFixed2 (x : ℚ) : ℚ := ⌊x * 100 + 1 / 2⌋ / 100

/-- The text of a number from 0 to 1 with at most two places. -/
def hundredthsText (x : ℚ) : String :=
  let n := ⌊x * 100⌋.toNat
  if n % 100 = 0 then toString (n / 100)
  else if n % 10 = 0 then toString (n / 100) ++ "." ++ toString (n / 10 % 10)
  else toString (n / 100) ++ "." ++ toString (n / 10 % 10) ++ toString (n % 10)

def confidence (tooFewGroups hasDisagreement hasExcessiveLag isQuorumReached : Bool) : ℚ :=
  let score := 1 - (if tooFewGroups then 4 / 10 else 0) - (if hasDisagreement then 3 / 10 else 0) -
    (if hasExcessiveLag then 2 / 10 else 0) - (if isQuorumReached then 0 else 3 / 10)
  max 0 (min 1 (toFixed2 score))

def anchorOf (now : ℚ) (r : ProviderResponseInput) : QuorumHeaderAnchor where
  canonicalBlockNumber := r.blockNumber
  canonicalBlockHash := r.blockHash
  stateRoot := r.stateRoot
  consensusTimestamp := (r.timestamp.filter fun t => t ≠ 0).getD now

section

variable (hostname : JsString → Option JsString) (now : ℚ) (config : QuorumConfig)

def disagreeingProviders (winner : Option ConsensusBucket) (responses : List ProviderResponseInput) :
    List JsString :=
  winner.elim [] fun bucket =>
    (responses.filter fun r => !bucket.groups.contains (groupOf hostname r)).map
      ProviderResponseInput.endpoint

/-- `minQuorumSize` of a request, or else of the configuration. -/
def QuorumEvaluationRequest.quorumSize (req : QuorumEvaluationRequest) : ℚ :=
  req.minQuorumSize.getD config.minQuorumSize

def QuorumEvaluationRequest.lagBlocks (req : QuorumEvaluationRequest) : ℚ :=
  req.maxLagBlocks.getD config.maxLagBlocks

/-- How many groups have to agree. -/
def quorumThresholdCount (minQuorumSize : ℚ) (independentGroupsCount : ℕ) : ℚ :=
  max minQuorumSize ⌈independentGroupsCount * config.quorumThresholdRatio⌉

def evaluateQuorum (req : QuorumEvaluationRequest) : Except JsString QuorumEvaluationResult :=
  let failClosed := req.overrideFailClosed.getD config.failClosed
  let validResponses := req.responses.filter fun r => (truthy r.error).isNone
  let groupMap := validResponses.foldl (addToGroup hostname) []
  let independentGroupsCount := groupMap.length
  let highest := maxBlockNumber validResponses
  let lagging := laggingProviders highest (req.lagBlocks config) groupMap
  let hasExcessiveLag := !lagging.isEmpty
  let buckets := consensusBuckets (activeGroupVotes highest (req.lagBlocks config) groupMap)
  let winner := winningBucket buckets
  let agreedGroupsCount := winner.elim 0 ConsensusBucket.count
  let isQuorumReached : Bool :=
    agreedGroupsCount ≥ quorumThresholdCount config (req.quorumSize config) independentGroupsCount &&
      (independentGroupsCount : ℚ) ≥ req.quorumSize config
  let disagreeing := disagreeingProviders hostname winner validResponses
  let hasDisagreement := !disagreeing.isEmpty || 1 < buckets.length
  let confidenceScore := confidence ((independentGroupsCount : ℚ) < req.quorumSize config) hasDisagreement
    hasExcessiveLag isQuorumReached
  let isDegraded := confidenceScore < 9 / 10 || hasDisagreement || hasExcessiveLag || !isQuorumReached
  let refused : Bool := !isQuorumReached || confidenceScore < 1 / 2
  let accepted := !(refused && failClosed)
  let decision :=
    if refused then if failClosed then .rejected else .degraded
    else if isDegraded then .degraded
    else .accepted
  if !accepted && failClosed then
    .error (js "RPC Evidence Quorum rejected read for " ++ req.readIdentifier ++ js " on " ++ req.chainId ++
      js " (confidence: " ++ js (hundredthsText confidenceScore) ++ js ", failClosed: true)")
  else
    .ok
      { accepted, decision, confidenceScore, isDegraded, hasDisagreement, hasExcessiveLag
        totalProviders := req.responses.length
        independentGroupsCount, agreedGroupsCount
        headerAnchor := winner.map fun bucket => anchorOf now bucket.sample
        agreedData := winner.map fun bucket => bucket.sample.data
        disagreementDetails :=
          { disagreeingProviders := disagreeing
            laggingProviders := lagging
            correlatedGroups := groupMap.map fun entry => (entry.1, entry.2.length)
            reason := if isQuorumReached then none
              else some (js "Quorum threshold not reached across independent groups") }
        failClosed }

end

end BridgeWatch.RpcEvidenceQuorum

/-
What a minority of RPC providers can do to a quorum.

Groups that agree and reach the threshold have more than half of the votes, and so their bucket wins,
whatever the others report. But whether a group votes at all depends on the others: its lag is taken from
the highest block number that any response has, and one response with a number far above the chain makes
every group lag but its own.
-/
import BridgeWatch.Plurality
import BridgeWatch.RpcEvidenceQuorum

set_option autoImplicit false

namespace BridgeWatch.RpcEvidenceQuorum

/-- The response reports the block and the data of `honest`. -/
def Agrees (honest r : ProviderResponseInput) : Prop :=
  r.blockNumber = honest.blockNumber ∧ r.blockHash = honest.blockHash ∧
    dataFingerprint r = dataFingerprint honest

instance Agrees.decidable (honest r : ProviderResponseInput) : Decidable (Agrees honest r) :=
  inferInstanceAs (Decidable (_ ∧ _ ∧ _))

/-! ## Keys of votes -/

theorem isJsonText_dataFingerprint (r : ProviderResponseInput) : IsJsonText (dataFingerprint r) := by
  rw [dataFingerprint]
  cases r.data with
  | none => exact Plain.isJsonText (by decide +kernel)
  | some data => exact isJsonText_stringify data

/-- A key determines the hash and the data that it was made of. -/
theorem consensusKey_inj {r s : ProviderResponseInput} :
    consensusKey r = consensusKey s ↔ r.blockHash = s.blockHash ∧ dataFingerprint r = dataFingerprint s := by
  constructor
  · intro h
    rw [consensusKey, consensusKey, List.append_assoc, List.append_assoc] at h
    exact colon_inj (isJsonText_dataFingerprint r) (isJsonText_dataFingerprint s) h
  · rintro ⟨hhash, hdata⟩
    rw [consensusKey, consensusKey, hhash, hdata]

/-! ## Buckets -/

section Buckets

def ConsensusBucket.add (bucket : ConsensusBucket) (vote : JsString × ProviderResponseInput) : ConsensusBucket :=
  { bucket with count := bucket.count + 1, groups := bucket.groups ++ [vote.1] }

def ConsensusBucket.single (vote : JsString × ProviderResponseInput) : ConsensusBucket where
  key := consensusKey vote.2
  count := 1
  sample := vote.2
  groups := [vote.1]

namespace ConsensusBucket

variable (bucket : ConsensusBucket) (vote : JsString × ProviderResponseInput)

@[simp] theorem key_add : (bucket.add vote).key = bucket.key := rfl

@[simp] theorem count_add : (bucket.add vote).count = bucket.count + 1 := rfl

@[simp] theorem key_single : (single vote).key = consensusKey vote.2 := rfl

@[simp] theorem count_single : (single vote).count = 1 := rfl

end ConsensusBucket

variable {votes : List (JsString × ProviderResponseInput)} {bucket : ConsensusBucket}

theorem consensusBuckets_eq :
    consensusBuckets votes = Plurality.tally (fun vote => consensusKey vote.2) ConsensusBucket.key
      ConsensusBucket.add ConsensusBucket.single votes := rfl

theorem winningBucket_eq (buckets : List ConsensusBucket) :
    winningBucket buckets = Plurality.winner ConsensusBucket.count buckets := by
  rw [winningBucket, Plurality.winner]
  congr 1
  funext best bucket
  cases best <;> rfl

/-- The sample of a bucket is one of the votes in it. -/
theorem sample_voted :
    ∀ bucket ∈ consensusBuckets votes, ∃ vote ∈ votes, bucket.key = consensusKey vote.2 ∧ bucket.sample = vote.2 := by
  rw [consensusBuckets_eq]
  refine Plurality.forall_tally ConsensusBucket.key_add ConsensusBucket.key_single (fun _ _ h => h) ?_
  intro vote hvote
  exact ⟨vote, hvote, rfl, rfl⟩

theorem winner_voted (h : winningBucket (consensusBuckets votes) = some bucket) :
    ∃ vote ∈ votes, bucket.key = consensusKey vote.2 ∧ bucket.sample = vote.2 := by
  rw [winningBucket_eq] at h
  rcases Plurality.winner_cases ConsensusBucket.count (consensusBuckets votes) with ⟨-, hnone⟩ | ⟨best, hbest, hsome, -⟩
  · rw [h] at hnone
    cases hnone
  · rw [h, Option.some.injEq] at hsome
    rw [hsome]
    exact sample_voted best hbest

theorem winner_of_majority {k : JsString}
    (h : votes.length < 2 * votes.countP fun vote => consensusKey vote.2 = k) :
    ∃ bucket, winningBucket (consensusBuckets votes) = some bucket ∧ bucket.key = k ∧
      bucket.count = votes.countP fun vote => consensusKey vote.2 = k := by
  obtain ⟨bucket, -, hwinner, hkey, hcount⟩ := Plurality.majority_wins ConsensusBucket.key_add
    ConsensusBucket.key_single ConsensusBucket.count_add ConsensusBucket.count_single h
  rw [← consensusBuckets_eq, ← winningBucket_eq] at hwinner
  exact ⟨bucket, hwinner, hkey, hcount⟩

end Buckets

/-! ## Votes of groups -/

section Votes

variable {hostname : JsString → Option JsString} {responses : List ProviderResponseInput}

theorem validResponses_eq (hvalid : ∀ r ∈ responses, truthy r.error = none) :
    responses.filter (fun r => (truthy r.error).isNone) = responses := by
  rw [List.filter_eq_self]
  intro r hr
  rw [hvalid r hr]
  rfl

theorem groupMap_eq (hgroups : (responses.map (groupOf hostname)).Nodup) :
    responses.foldl (addToGroup hostname) [] = responses.map fun r => (groupOf hostname r, [r]) := by
  have hplace : addToGroup hostname = Plurality.place (groupOf hostname) Prod.fst
      (fun entry r => (entry.1, entry.2 ++ [r])) (fun r => (groupOf hostname r, [r])) := rfl
  rw [hplace]
  exact Plurality.tally_of_nodup (fun _ => rfl) hgroups

theorem latestInGroup_singleton (r : ProviderResponseInput) : latestInGroup [r] = some r := by
  simp [latestInGroup]

/-- A group with one response votes with it, unless it lags. -/
theorem activeGroupVotes_eq (highest maxLagBlocks : ℚ) :
    activeGroupVotes highest maxLagBlocks (responses.map fun r => (groupOf hostname r, [r])) =
      (responses.filter fun r => !lags highest maxLagBlocks r).map fun r => (groupOf hostname r, r) := by
  induction responses with
  | nil => rfl
  | cons r _ ih =>
      rw [activeGroupVotes] at ih ⊢
      rw [List.map_cons, List.filterMap_cons, ih, latestInGroup_singleton, Option.filter_some, List.filter_cons]
      by_cases hlags : lags highest maxLagBlocks r = true
      · rw [hlags]
        rfl
      · rw [Bool.eq_false_of_not_eq_true hlags]
        rfl

end Votes

/-! ## Decisions -/

theorem confidence_of_quorum :
    ∀ hasDisagreement hasExcessiveLag, 1 / 2 ≤ confidence false hasDisagreement hasExcessiveLag true := by
  decide +kernel

section

variable {hostname : JsString → Option JsString} {now : ℚ} {config : QuorumConfig}
  {req : QuorumEvaluationRequest} {result : QuorumEvaluationResult}

/-- The buckets of the votes when no response has an error and no two have one group. -/
def QuorumEvaluationRequest.buckets (hostname : JsString → Option JsString) (config : QuorumConfig)
    (req : QuorumEvaluationRequest) : List ConsensusBucket :=
  consensusBuckets
    ((req.responses.filter fun r => !lags (maxBlockNumber req.responses) (req.lagBlocks config) r).map fun r =>
      (groupOf hostname r, r))

variable (hvalid : ∀ r ∈ req.responses, truthy r.error = none)
  (hgroups : (req.responses.map (groupOf hostname)).Nodup)

include hvalid hgroups

/-- What is returned is of the bucket that wins. -/
theorem evaluateQuorum_winner (h : evaluateQuorum hostname now config req = .ok result) :
    result.headerAnchor =
      (winningBucket (req.buckets hostname config)).map fun bucket => anchorOf now bucket.sample := by
  rw [evaluateQuorum] at h
  simp only [validResponses_eq hvalid, groupMap_eq hgroups, activeGroupVotes_eq] at h
  split at h
  · cases h
  · rw [← Except.ok.inj h]
    rfl

/-- A bucket that reaches the threshold is returned. -/
theorem evaluateQuorum_of_reached {bucket : ConsensusBucket}
    (hwinner : winningBucket (req.buckets hostname config) = some bucket)
    (hreached : quorumThresholdCount config (req.quorumSize config) req.responses.length ≤ bucket.count)
    (hsize : req.quorumSize config ≤ req.responses.length) :
    ∃ result, evaluateQuorum hostname now config req = .ok result ∧
      result.agreedData = some bucket.sample.data ∧
      result.headerAnchor = some (anchorOf now bucket.sample) := by
  rw [QuorumEvaluationRequest.buckets] at hwinner
  rw [evaluateQuorum]
  simp only [validResponses_eq hvalid, groupMap_eq hgroups, activeGroupVotes_eq, hwinner, List.length_map, Option.elim_some,
    ge_iff_le, hreached, hsize, decide_true, Bool.and_true, Bool.not_true, Bool.false_or,
    decide_eq_false hsize.not_gt, Option.map_some]
  rw [if_neg]
  · exact ⟨_, rfl, rfl, rfl⟩
  · rw [decide_eq_false (confidence_of_quorum _ _).not_gt]
    simp

end

/-! ## Majorities -/

section

variable {hostname : JsString → Option JsString} {now : ℚ} {config : QuorumConfig}
  {req : QuorumEvaluationRequest} {honest : ProviderResponseInput}

theorem lags_eq_false {highest maxLagBlocks : ℚ} {r : ProviderResponseInput} :
    (!lags highest maxLagBlocks r) = true ↔ highest - r.blockNumber ≤ maxLagBlocks := by
  rw [lags, Bool.not_eq_true', decide_eq_false_iff_not, gt_iff_lt, not_lt]

/-- Groups that reach a threshold of more than a half are a majority. -/
theorem majority_of_threshold {minQuorumSize : ℚ} {groups agreeing : ℕ} (hratio : 1 / 2 < config.quorumThresholdRatio)
    (hpos : 0 < groups) (h : quorumThresholdCount config minQuorumSize groups ≤ agreeing) :
    groups < 2 * agreeing := by
  have hceil : ((⌈groups * config.quorumThresholdRatio⌉ : ℤ) : ℚ) ≤ agreeing := (le_max_right _ _).trans h
  have hshare : groups * config.quorumThresholdRatio ≤ agreeing := (Int.le_ceil _).trans hceil
  have hgroups : (0 : ℚ) < groups := Nat.cast_pos.mpr hpos
  have hhalf : (groups : ℚ) * (1 / 2) < groups * config.quorumThresholdRatio := mul_lt_mul_of_pos_left hratio hgroups
  have hmajority : (groups : ℚ) < 2 * agreeing := by linarith
  exact_mod_cast hmajority

/-- As long as they vote, the agreeing groups are all counted under their key. -/
theorem agreeing_le_votes (hostname : JsString → Option JsString)
    (hvote : maxBlockNumber req.responses - honest.blockNumber ≤ req.lagBlocks config) :
    req.responses.countP (fun r => Agrees honest r) ≤
      ((req.responses.filter fun r => !lags (maxBlockNumber req.responses) (req.lagBlocks config) r).map
        fun r => (groupOf hostname r, r)).countP fun vote => consensusKey vote.2 = consensusKey honest := by
  rw [List.countP_map, List.countP_filter]
  refine List.countP_mono_left fun r _ hr => ?_
  obtain ⟨hblock, hkey⟩ := of_decide_eq_true hr
  rw [Bool.and_eq_true, Function.comp_apply, decide_eq_true_eq, consensusKey_inj, lags_eq_false, hblock]
  exact ⟨hkey, hvote⟩

theorem winner_of_heard (hostname : JsString → Option JsString)
    (hmajority : req.responses.length < 2 * req.responses.countP fun r => Agrees honest r)
    (hvote : maxBlockNumber req.responses - honest.blockNumber ≤ req.lagBlocks config) :
    ∃ bucket, winningBucket (req.buckets hostname config) = some bucket ∧ bucket.key = consensusKey honest ∧
      (req.responses.countP fun r => Agrees honest r) ≤ bucket.count := by
  have hcounted := agreeing_le_votes hostname hvote
  have hvotes :
      (req.responses.filter fun r => !lags (maxBlockNumber req.responses) (req.lagBlocks config) r).length <
        2 * req.responses.countP fun r => Agrees honest r :=
    Nat.lt_of_le_of_lt (List.length_filter_le _ _) hmajority
  obtain ⟨bucket, hwinner, hkey, hcount⟩ := winner_of_majority (k := consensusKey honest)
    (Nat.lt_of_lt_of_le (by rwa [List.length_map]) (Nat.mul_le_mul_left 2 hcounted))
  exact ⟨bucket, hwinner, hkey, hcount ▸ hcounted⟩

/-- **When an honest quorum is heard.** Whatever the other groups report, and in whatever order the
responses come, what the agreeing groups report is returned just when no response is ahead of them by
more than the tolerated lag. -/
theorem honest_quorum_returned_iff (hvalid : ∀ r ∈ req.responses, truthy r.error = none)
    (hgroups : (req.responses.map (groupOf hostname)).Nodup)
    (hratio : 1 / 2 < config.quorumThresholdRatio) (hhonest : honest ∈ req.responses)
    (hquorum : quorumThresholdCount config (req.quorumSize config) req.responses.length ≤
      req.responses.countP fun r => Agrees honest r)
    (hothers : ∀ r ∈ req.responses, r.blockHash = honest.blockHash →
      dataFingerprint r = dataFingerprint honest → r.blockNumber = honest.blockNumber) :
    (∃ result, evaluateQuorum hostname now config req = .ok result ∧
      ∃ sample ∈ req.responses, Agrees honest sample ∧ result.agreedData = some sample.data ∧
        result.headerAnchor = some (anchorOf now sample)) ↔
      maxBlockNumber req.responses - honest.blockNumber ≤ req.lagBlocks config := by
  constructor
  · rintro ⟨result, hresult, sample, -, hagrees, -, hanchor⟩
    rw [evaluateQuorum_winner hvalid hgroups hresult, Option.map_eq_some_iff] at hanchor
    obtain ⟨bucket, hwinner, hsame⟩ := hanchor
    obtain ⟨vote, hvote, -, hsample⟩ := winner_voted hwinner
    obtain ⟨r, hr, rfl⟩ := List.mem_map.mp hvote
    have hactive := lags_eq_false.mp (List.mem_filter.mp hr).2
    have hnumber : bucket.sample.blockNumber = sample.blockNumber :=
      congrArg QuorumHeaderAnchor.canonicalBlockNumber hsame
    rw [← hagrees.1, ← hnumber, hsample]
    exact hactive
  · intro hvote
    have hmajority := majority_of_threshold hratio (List.length_pos_of_mem hhonest) hquorum
    obtain ⟨bucket, hwinner, hkey, hcount⟩ := winner_of_heard hostname hmajority hvote
    -- The winner's sample is an agreeing response, as its key tells its hash and its data.
    obtain ⟨vote, hmem, hvotekey, hsample⟩ := winner_voted hwinner
    obtain ⟨r, hr, rfl⟩ := List.mem_map.mp hmem
    rw [hkey] at hvotekey
    obtain ⟨hhash, hdata⟩ := consensusKey_inj.mp hvotekey
    have hr := List.mem_of_mem_filter hr
    have hagrees : Agrees honest r := ⟨hothers r hr hhash.symm hdata.symm, hhash.symm, hdata.symm⟩
    have hreached := hquorum.trans (Nat.cast_le.mpr hcount)
    have hsize : req.quorumSize config ≤ req.responses.length :=
      (le_max_left _ _).trans (hquorum.trans (Nat.cast_le.mpr List.countP_le_length))
    obtain ⟨result, hresult, hagreed, hanchor⟩ := evaluateQuorum_of_reached hvalid hgroups hwinner hreached hsize
    rw [hsample] at hagreed hanchor
    exact ⟨result, hresult, r, hr, hagrees, hagreed, hanchor⟩

/-! ### Four groups -/

def reported (group : String) (blockNumber : ℚ) (blockHash : String) (data : Bool) : ProviderResponseInput where
  endpoint := js group
  providerGroup := some (js group)
  blockNumber
  blockHash := js blockHash
  stateRoot := none
  timestamp := some 1700000000
  data := some (.boolean data)
  error := none

/-- Three groups agree on block 100, and a fourth one reports a block of its own. -/
def reserveRead (liar : ℚ) : QuorumEvaluationRequest where
  chainId := js "ethereum"
  operationType := js "RESERVE_READ"
  readIdentifier := js "vault"
  responses :=
    [reported "infura" 100 "0xabc" true, reported "alchemy" 100 "0xabc" true, reported "ankr" 100 "0xabc" true,
      reported "liar" liar "0xdef" false]
  overrideFailClosed := none
  minQuorumSize := none
  maxLagBlocks := none

/-- The configuration of a chain without one. -/
def defaultConfig : QuorumConfig where
  minQuorumSize := 2
  quorumThresholdRatio := 67 / 100
  maxLagBlocks := 5
  failClosed := false

theorem honest_quorum_returned :
    ∃ result, evaluateQuorum (fun _ => none) 0 defaultConfig (reserveRead 105) = .ok result ∧
      ∃ sample ∈ (reserveRead 105).responses, Agrees (reported "infura" 100 "0xabc" true) sample ∧
        result.agreedData = some sample.data ∧ result.headerAnchor = some (anchorOf 0 sample) :=
  (honest_quorum_returned_iff (by decide +kernel) (by decide +kernel) (by decide +kernel) List.mem_cons_self
    (by decide +kernel) (by decide +kernel)).mpr (by decide +kernel)

/-- One group with a block far ahead silences the three that agree, and its own data is returned. -/
theorem liar_chooses_data :
    ¬ ∀ (hostname : JsString → Option JsString) (now : ℚ) (config : QuorumConfig) (req : QuorumEvaluationRequest)
        (honest : ProviderResponseInput),
      (∀ r ∈ req.responses, truthy r.error = none) →
      (req.responses.map (groupOf hostname)).Nodup →
      1 / 2 < config.quorumThresholdRatio → 0 ≤ req.lagBlocks config → honest ∈ req.responses →
      (quorumThresholdCount config (req.quorumSize config) req.responses.length ≤
        req.responses.countP fun r => Agrees honest r) →
      (∀ r ∈ req.responses, r.blockHash = honest.blockHash → dataFingerprint r = dataFingerprint honest →
        r.blockNumber = honest.blockNumber) →
      ∃ result, evaluateQuorum hostname now config req = .ok result ∧
        ∃ sample ∈ req.responses, Agrees honest sample ∧ result.agreedData = some sample.data ∧
          result.headerAnchor = some (anchorOf now sample) := by
  intro h
  obtain ⟨result, hresult, sample, -, hagrees, -, hanchor⟩ :=
    h (fun _ => none) 0 defaultConfig (reserveRead 1000000) (reported "infura" 100 "0xabc" true) (by decide +kernel)
      (by decide +kernel) (by decide +kernel) (by decide +kernel) List.mem_cons_self (by decide +kernel)
      (by decide +kernel)
  rw [evaluateQuorum_winner (by decide +kernel) (by decide +kernel) hresult] at hanchor
  have hliar : (winningBucket ((reserveRead 1000000).buckets (fun _ => none) defaultConfig)).map
      (fun bucket => (anchorOf 0 bucket.sample).canonicalBlockNumber) = some 1000000 := by decide +kernel
  rw [Option.map_eq_some_iff] at hanchor hliar
  obtain ⟨bucket, hbucket, hsame⟩ := hanchor
  obtain ⟨other, hother, hnumber⟩ := hliar
  rw [hbucket, Option.some.injEq] at hother
  rw [← hother, hsame] at hnumber
  have hblock : (1000000 : ℚ) = 100 := hnumber.symm.trans hagrees.1
  revert hblock
  decide +kernel

end

end BridgeWatch.RpcEvidenceQuorum

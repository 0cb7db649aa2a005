/-
Paging through the event replay log.

Every event has a key that packs its ledger time and its sequence number, and the keys increase along a run
at times below `2 ^ 32`. The log has the last 1000 events. A reader that takes page after page and goes on
behind the last key sees every event that stays in the log once and in order, whatever is appended and
trimmed between two pages.
-/
import BridgeWatch.ContractCalls
import BridgeWatch.LogPaging
import BridgeWatch.RingBuffer

set_option autoImplicit false

namespace BridgeWatch.Contract

open Transaction RingBuffer LogPaging

structure EventReplayPage where
  entries : List EventReplayEntry
  total : U32
  schema_version : U32
  deriving DecidableEq

def get_replay_events (from_ordering_key : U64) (limit : U32) : Soroban EventReplayPage := do
  panic_if (100 < limit) "limit must not exceed 100"
  let log ← get .EVENT_REPLAY_LOG
  let log := log.getD []
  -- `break` once the page is full
  let page := log.foldl (fun (page : List EventReplayEntry) entry =>
    if limit.toNat ≤ page.length then page
    else if from_ordering_key ≤ entry.ordering_key then page ++ [entry]
    else page) []
  return { entries := page, total := len log, schema_version := EVENT_SCHEMA_VERSION }

/-! ## The log -/

def replay_log (s : Storage) : List EventReplayEntry := (s .EVENT_REPLAY_LOG).getD []

def replay_count (s : Storage) : U32 := (s .EVENT_REPLAY_CTR).getD 0

/-- The ordering key of an event, as a number. -/
def order (entry : EventReplayEntry) : ℕ := entry.ordering_key.toNat

/-- The entry of the next event. -/
def replay_entry (s : Storage) (env : Env) (event_type : SString) (actor : Address) (subject : SString)
    (value : I128) : EventReplayEntry where
  event_id := replay_count s + 1
  event_type := event_type
  actor := actor
  subject := subject
  value := value
  timestamp := env.timestamp
  ordering_key := (env.timestamp <<< 32) ||| (replay_count s + 1).toUInt64
  schema_version := EVENT_SCHEMA_VERSION

/-- The events that a call appends when it succeeds. -/
def replay_entries (s : Storage) (t : Invocation) : List EventReplayEntry :=
  match t.2 with
  | .submit_health caller asset_code health_score _ _ _ =>
      [replay_entry s t.1 (str "health_up") caller asset_code (U32.as_i128 health_score)]
  | .submit_health_signed caller asset_code health_score _ _ _ _ =>
      [replay_entry s t.1 (str "health_up") caller asset_code (U32.as_i128 health_score)]
  | .submit_health_multi_source caller _ asset_code health_score _ _ _ =>
      [replay_entry s t.1 (str "ms_hlth") caller asset_code (U32.as_i128 health_score)]
  | .enter_recovery_mode caller reason => [replay_entry s t.1 (str "rec_entr") caller reason 0]
  | _ => []

/-- All events of a run. -/
abbrev replay_history [Host] (calls : List Invocation) : List EventReplayEntry :=
  collect exec replay_entries empty_storage calls

/-- One event is appended to the log. -/
structure Appends (s s' : Storage) (entry : EventReplayEntry) : Prop where
  count_lt : (replay_count s).toNat + 1 < 2 ^ 32
  count_eq : replay_count s' = replay_count s + 1
  log_eq : replay_log s' = trim_log 1000 (replay_log s ++ [entry])

/-- Nothing is appended to the log. -/
structure SameLog (s s' : Storage) : Prop where
  count_eq : replay_count s' = replay_count s
  log_eq : replay_log s' = replay_log s

section Steps

variable {env : Env} {s s' s₁ s₂ : Storage} {event_type subject : SString} {actor : Address} {value : I128}

theorem SameLog.trans (h : SameLog s s₁) (h' : SameLog s₁ s') : SameLog s s' :=
  ⟨h'.count_eq.trans h.count_eq, h'.log_eq.trans h.log_eq⟩

theorem SameLog.of_writes {α : Type} {m : Soroban α} {a : α} {ts : List Tag} (hm : Writes ts m)
    (hts : Tag.EVENT_REPLAY_CTR ∉ ts ∧ Tag.EVENT_REPLAY_LOG ∉ ts) (h : m env s = .ok (a, s')) :
    SameLog s s' := by
  constructor
  · rw [replay_count, hm.frame h .EVENT_REPLAY_CTR hts.1, replay_count]
  · rw [replay_log, hm.frame h .EVENT_REPLAY_LOG hts.2, replay_log]

theorem append_replay_event_appends {u : Unit}
    (h : append_replay_event event_type actor subject value env s = .ok (u, s')) :
    Appends s s' (replay_entry s env event_type actor subject value) := by
  simp only [append_replay_event, bind_eq_ok, load_eq_ok, add_u32_eq_ok, save_eq_ok, reads_eq_ok, and_assoc,
    exists_and_left, exists_eq_left, exists_const] at h
  obtain ⟨hcount, rfl⟩ := h
  refine ⟨hcount, ?_, ?_⟩
  · simp [replay_count]
  · simp [replay_log, replay_entry, replay_count]

/-- What a call does before and after it appends its event. -/
theorem Appends.between (h : SameLog s s₁) (h' : Appends s₁ s₂ (replay_entry s₁ env event_type actor subject value))
    (h'' : SameLog s₂ s') : Appends s s' (replay_entry s env event_type actor subject value) := by
  have hentry : replay_entry s₁ env event_type actor subject value =
      replay_entry s env event_type actor subject value := by
    rw [replay_entry, h.count_eq, replay_entry]
  constructor
  · rw [← h.count_eq]
    exact h'.count_lt
  · rw [h''.count_eq, h'.count_eq, h.count_eq]
  · rw [h''.log_eq, h'.log_eq, h.log_eq, hentry]

/-- What the calls that append an event write besides the log. -/
abbrev besideLogTags : List Tag :=
  [.RECOVERY_MODE, .RECOVERY_REASON, .RECOVERY_ENTERED_AT, .RECOVERY_ENTERED_BY, .RECOVERY_STEPS,
    .ADMIN_ACTIVITY_CTR, .ADMIN_ACTIVITY_LOG, .HealthSourceEntry, .SignerNonce, .SigCache, .Health] ++ checkpointTags

theorem SameLog.after {α : Type} {m : Soroban α} {a : α} [hm : Writes besideLogTags m] (h : m env s = .ok (a, s')) :
    SameLog s s' := .of_writes hm (by decide) h

/-- A step of a call before it appends its event. -/
theorem SameLog.bind {α β : Type} {m : Soroban α} {f : α → Soroban β} {b : β} [hm : Writes besideLogTags m]
    (hs : SameLog s₁ s) (h : (m >>= f) env s = .ok (b, s')) :
    ∃ a s₂, SameLog s₁ s₂ ∧ f a env s₂ = .ok (b, s') := by
  obtain ⟨a, s₂, hfirst, hrest⟩ := bind_eq_ok.mp h
  exact ⟨a, s₂, hs.trans (.after hfirst), hrest⟩

/-- The event, and what comes after it. -/
theorem SameLog.appends {f : Unit → Soroban Unit} {u : Unit} (hs : SameLog s s₁)
    (h : (append_replay_event event_type actor subject value >>= f) env s₁ = .ok (u, s'))
    [hf : Writes besideLogTags (f ())] : Appends s s' (replay_entry s env event_type actor subject value) := by
  obtain ⟨_, s₂, hevent, hrest⟩ := bind_eq_ok.mp h
  exact Appends.between hs (append_replay_event_appends hevent) (.after hrest)

theorem enter_recovery_mode_appends {caller : Address} {reason : SString} {u : Unit}
    (h : enter_recovery_mode caller reason env s = .ok (u, s')) :
    Appends s s' (replay_entry s env (str "rec_entr") caller reason 0) := by
  have hs : SameLog s s := ⟨rfl, rfl⟩
  iterate 9 obtain ⟨_, _, hs, h⟩ := hs.bind h
  exact hs.appends h

theorem submit_health_multi_source_appends {caller : Address} {source_id asset_code : SString}
    {health_score liquidity_score price_stability_score bridge_uptime_score : U32} {u : Unit}
    (h : submit_health_multi_source caller source_id asset_code health_score liquidity_score price_stability_score
      bridge_uptime_score env s = .ok (u, s')) :
    Appends s s' (replay_entry s env (str "ms_hlth") caller asset_code (U32.as_i128 health_score)) := by
  have hs : SameLog s s := ⟨rfl, rfl⟩
  iterate 6 obtain ⟨_, _, hs, h⟩ := hs.bind h
  exact hs.appends h

variable [Host]

theorem submit_health_appends {caller : Address} {asset_code : SString}
    {health_score liquidity_score price_stability_score bridge_uptime_score : U32} {u : Unit} (hs : SameLog s₁ s)
    (h : submit_health caller asset_code health_score liquidity_score price_stability_score bridge_uptime_score
      env s = .ok (u, s')) :
    Appends s₁ s' (replay_entry s₁ env (str "health_up") caller asset_code (U32.as_i128 health_score)) := by
  iterate 8 obtain ⟨_, _, hs, h⟩ := hs.bind h
  exact hs.appends h

theorem submit_health_signed_appends {caller : Address} {asset_code : SString}
    {health_score liquidity_score price_stability_score bridge_uptime_score : U32} {signature : SignerSignature}
    {u : Unit}
    (h : submit_health_signed caller asset_code health_score liquidity_score price_stability_score
      bridge_uptime_score signature env s = .ok (u, s')) :
    Appends s s' (replay_entry s env (str "health_up") caller asset_code (U32.as_i128 health_score)) := by
  have hs : SameLog s s := ⟨rfl, rfl⟩
  iterate 3 obtain ⟨_, _, hs, h⟩ := hs.bind h
  exact submit_health_appends hs h

/-- A call appends its event, or it leaves the log alone. -/
theorem exec_replay_cases {call : EntryPoint} (h : exec call env s = .ok ((), s')) :
    (∃ event_type actor subject value,
      replay_entries s (env, call) = [replay_entry s env event_type actor subject value] ∧
      Appends s s' (replay_entry s env event_type actor subject value)) ∨
    replay_entries s (env, call) = [] ∧ SameLog s s' := by
  have hexec : Writes (writes call) (exec call) := inferInstance
  cases call with
  | submit_health => exact .inl ⟨_, _, _, _, rfl, submit_health_appends ⟨rfl, rfl⟩ h⟩
  | submit_health_signed => exact .inl ⟨_, _, _, _, rfl, submit_health_signed_appends h⟩
  | submit_health_multi_source => exact .inl ⟨_, _, _, _, rfl, submit_health_multi_source_appends h⟩
  | enter_recovery_mode => exact .inl ⟨_, _, _, _, rfl, enter_recovery_mode_appends h⟩
  | exit_recovery_mode caller =>
      have hwrites : Writes besideLogTags (exit_recovery_mode caller) := by
        unfold exit_recovery_mode
        infer_instance
      exact .inr ⟨rfl, .of_writes hwrites (by decide) h⟩
  | record_recovery_step caller description =>
      have hwrites : Writes besideLogTags (record_recovery_step caller description) := by
        unfold record_recovery_step
        infer_instance
      exact .inr ⟨rfl, .of_writes hwrites (by decide) h⟩
  | _ => exact .inr ⟨rfl, .of_writes hexec (by dsimp only [writes]; decide) h⟩

end Steps

/-! ## The log of a run -/

section Runs

variable {env : Env} {s s' : Storage} {history : List EventReplayEntry} {entry : EventReplayEntry}

/-- The log and the counter after the events of `history`, whose keys increase. -/
structure Replayed (s : Storage) (history : List EventReplayEntry) : Prop where
  count : (replay_count s).toNat = history.length
  log : replay_log s = recent 1000 history
  keyed : ∀ e ∈ history, order e = e.timestamp.toNat * 2 ^ 32 + e.event_id.toNat ∧
    e.event_id.toNat ≤ history.length
  increasing : history.Pairwise fun a b => order a < order b

theorem Replayed.empty : Replayed empty_storage [] := ⟨rfl, rfl, fun _ h => absurd h List.not_mem_nil, .nil⟩

theorem Replayed.congr (hs : SameLog s s') (h : Replayed s history) : Replayed s' history := by
  refine ⟨?_, ?_, h.keyed, h.increasing⟩
  · rw [hs.count_eq]
    exact h.count
  · rw [hs.log_eq]
    exact h.log

/-- The last entries of a log that grows by one. -/
theorem trim_log_recent {α : Type} (limit : ℕ) (log : List α) (a : α) :
    trim_log limit (recent limit log ++ [a]) = recent limit (log ++ [a]) := by
  have hrecent : recent limit log ++ [a] = (log ++ [a]).drop (log.length - limit) :=
    (List.drop_append_of_le_length (Nat.sub_le _ _)).symm
  rw [trim_log, List.length_append, length_recent, List.length_singleton, hrecent, recent, List.length_append,
    List.length_singleton]
  by_cases hfull : limit ≤ log.length
  · rw [if_pos (by omega), List.drop_drop]
    congr 1
    omega
  · rw [if_neg (by omega)]
    congr 1
    omega

theorem order_replay_entry {event_type subject : SString} {actor : Address} {value : I128}
    (hcount : (replay_count s).toNat + 1 < 2 ^ 32) (htime : env.timestamp.toNat < 2 ^ 32) :
    order (replay_entry s env event_type actor subject value) =
      env.timestamp.toNat * 2 ^ 32 + ((replay_count s).toNat + 1) := by
  have hid : (replay_count s + 1).toNat = (replay_count s).toNat + 1 := by
    rw [UInt32.toNat_add, UInt32.toNat_one, Nat.mod_eq_of_lt hcount]
  have hshift : (env.timestamp <<< 32).toNat = env.timestamp.toNat <<< 32 := by
    have hmod : env.timestamp.toNat <<< 32 < 2 ^ 64 := by
      rw [Nat.shiftLeft_eq]
      omega
    rw [UInt64.toNat_shiftLeft, show (32 : U64).toNat % 64 = 32 from rfl, Nat.mod_eq_of_lt hmod]
  rw [order, replay_entry, UInt64.toNat_or, hshift, UInt32.toNat_toUInt64, hid,
    ← Nat.shiftLeft_add_eq_or_of_lt hcount, Nat.shiftLeft_eq]

/-- One more event. -/
theorem Replayed.append {event_type subject : SString} {actor : Address} {value : I128} (h : Replayed s history)
    (hle : ∀ e ∈ history, e.timestamp ≤ env.timestamp) (htime : env.timestamp.toNat < 2 ^ 32)
    (happends : Appends s s' (replay_entry s env event_type actor subject value)) :
    Replayed s' (history ++ [replay_entry s env event_type actor subject value]) ∧
      ∀ e ∈ history, order e < order (replay_entry s env event_type actor subject value) := by
  have hnew : order (replay_entry s env event_type actor subject value) =
      env.timestamp.toNat * 2 ^ 32 + ((replay_count s).toNat + 1) := order_replay_entry happends.count_lt htime
  have hid : (replay_count s + 1).toNat = history.length + 1 := by
    rw [UInt32.toNat_add, UInt32.toNat_one, Nat.mod_eq_of_lt happends.count_lt, h.count]
  have hless (e : EventReplayEntry) (he : e ∈ history) :
      order e < order (replay_entry s env event_type actor subject value) := by
    obtain ⟨hkey, hseq⟩ := h.keyed e he
    have htimes := Nat.mul_le_mul_right (2 ^ 32) (UInt64.le_iff_toNat_le.mp (hle e he))
    rw [hnew, hkey, h.count]
    omega
  refine ⟨⟨?_, ?_, fun e he => ?_, ?_⟩, hless⟩
  · rw [happends.count_eq, hid, List.length_append, List.length_singleton]
  · rw [happends.log_eq, h.log, trim_log_recent]
  · rw [List.length_append, List.length_singleton]
    rcases List.mem_append.mp he with hold | hlast
    · exact ⟨(h.keyed e hold).1, Nat.le_succ_of_le (h.keyed e hold).2⟩
    · rw [List.mem_singleton.mp hlast, hnew, h.count]
      exact ⟨by rw [replay_entry, hid], hid.le⟩
  · rw [List.pairwise_append]
    refine ⟨h.increasing, List.pairwise_singleton _ _, fun e he e' he' => ?_⟩
    rw [List.mem_singleton.mp he']
    exact hless e he

variable [Host]

/-- The events that a call adds to the history, also when it fails. -/
def added (s : Storage) (t : Invocation) : List EventReplayEntry :=
  if (exec t.2 t.1 s).isOk then replay_entries s t else []

theorem replay_history_concat (calls : List Invocation) (t : Invocation) :
    replay_history (calls ++ [t]) = replay_history calls ++ added (run empty_storage calls) t := by
  rw [replay_history, collect_append]
  simp only [collect, List.append_nil, added]

/-- **One call.** It appends one event, with a larger key than those before, or none. -/
theorem Replayed.step {t : Invocation} (h : Replayed s history)
    (hle : ∀ e ∈ history, e.timestamp ≤ t.1.timestamp) (htime : t.1.timestamp.toNat < 2 ^ 32) :
    Replayed (step exec t s) (history ++ added s t) ∧
      ((∃ e, added s t = [e] ∧ e.timestamp = t.1.timestamp ∧ (∀ e' ∈ history, order e' < order e) ∧
        replay_log (step exec t s) = trim_log 1000 (replay_log s ++ [e])) ∨
      added s t = [] ∧ replay_log (step exec t s) = replay_log s) := by
  rcases step_cases exec s t with hok | ⟨⟨msg, herror⟩, heq⟩
  · have hadded : added s t = replay_entries s t := if_pos (by rw [hok]; rfl)
    rw [hadded]
    rcases exec_replay_cases hok with ⟨event_type, actor, subject, value, hentries, happends⟩ | ⟨hnone, hsame⟩
    · rw [show replay_entries s t = _ from hentries]
      obtain ⟨hreplayed, hless⟩ := h.append hle htime happends
      exact ⟨hreplayed, .inl ⟨_, rfl, rfl, hless, happends.log_eq⟩⟩
    · rw [show replay_entries s t = _ from hnone, List.append_nil]
      exact ⟨h.congr hsame, .inr ⟨rfl, hsame.log_eq⟩⟩
  · have hadded : added s t = [] := if_neg (by rw [herror]; simp [Except.isOk, Except.toBool])
    rw [hadded, List.append_nil, heq]
    exact ⟨h, .inr ⟨rfl, rfl⟩⟩

/-- The times of the calls do not decrease, and are below `2 ^ 32`. -/
structure Timed (calls : List Invocation) : Prop where
  ordered : (calls.map fun t => t.1.timestamp).Pairwise (· ≤ ·)
  bounded : ∀ t ∈ calls, t.1.timestamp.toNat < 2 ^ 32

omit [Host] in
theorem Timed.of_append {calls later : List Invocation} (h : Timed (calls ++ later)) : Timed calls := by
  obtain ⟨hordered, hbounded⟩ := h
  rw [List.map_append, List.pairwise_append] at hordered
  exact ⟨hordered.1, fun t ht => hbounded t (List.mem_append_left _ ht)⟩

omit [Host] in
theorem Timed.le_last {calls : List Invocation} {t : Invocation} (h : Timed (calls ++ [t])) :
    ∀ u ∈ calls, u.1.timestamp ≤ t.1.timestamp := by
  obtain ⟨hordered, -⟩ := h
  rw [List.map_append, List.pairwise_append] at hordered
  exact fun u hu => hordered.2.2 _ (List.mem_map_of_mem hu) _ (by simp)

/-- **Run.** The log is that of the events of the run, whose keys increase. -/
theorem replayed_run {calls : List Invocation} (htimes : Timed calls) :
    Replayed (run empty_storage calls) (replay_history calls) ∧
      ∀ e ∈ replay_history calls, ∃ t ∈ calls, e.timestamp = t.1.timestamp := by
  induction calls using List.reverseRecOn with
  | nil => exact ⟨.empty, fun _ h => absurd h List.not_mem_nil⟩
  | append_singleton calls t ih =>
      obtain ⟨hreplayed, htime⟩ := ih htimes.of_append
      have hle (e : EventReplayEntry) (he : e ∈ replay_history calls) : e.timestamp ≤ t.1.timestamp := by
        obtain ⟨u, hu, heq⟩ := htime e he
        rw [heq]
        exact htimes.le_last u hu
      obtain ⟨hstep, hadded⟩ := hreplayed.step hle (htimes.bounded t (by simp))
      rw [run, runFrom_append, runFrom_cons, runFrom_nil, replay_history_concat]
      refine ⟨hstep, fun e he => ?_⟩
      rcases List.mem_append.mp he with hold | hnew
      · obtain ⟨u, hu, heq⟩ := htime e hold
        exact ⟨u, List.mem_append_left _ hu, heq⟩
      · rcases hadded with ⟨e', hlast, heq, -⟩ | ⟨hnone, -⟩
        · rw [hlast, List.mem_singleton] at hnew
          exact ⟨t, by simp, hnew ▸ heq⟩
        · rw [hnone] at hnew
          exact absurd hnew List.not_mem_nil

end Runs

/-! ## Reading in pages -/

/-- A call of anybody, or a page that the reader asks for. -/
inductive ReplayStep
  | call (t : Invocation)
  | page (env : Env) (limit : U32)

structure ReplayReading where
  store : Storage
  reader : Reader EventReplayEntry

section Pages

variable {env : Env} {s : Storage} {limit : U32}

/-- The loop of the page. -/
theorem foldl_page (k : U64) {page : List EventReplayEntry} (log : List EventReplayEntry)
    (hpage : page.length ≤ limit.toNat) :
    log.foldl (fun (page : List EventReplayEntry) entry =>
        if limit.toNat ≤ page.length then page
        else if k ≤ entry.ordering_key then page ++ [entry]
        else page) page =
      page ++ (log.filter fun e => k.toNat ≤ order e).take (limit.toNat - page.length) := by
  induction log generalizing page with
  | nil => rw [List.foldl_nil, List.filter_nil, List.take_nil, List.append_nil]
  | cons entry _ ih =>
      rw [List.foldl_cons]
      by_cases hfull : limit.toNat ≤ page.length
      · rw [if_pos hfull, ih hpage, Nat.sub_eq_zero_of_le hfull, List.take_zero, List.take_zero]
      · rw [if_neg hfull]
        by_cases hkey : k ≤ entry.ordering_key
        · have hroom : limit.toNat - page.length = limit.toNat - (page.length + 1) + 1 := by omega
          have htaken : decide (k.toNat ≤ order entry) = true := decide_eq_true (UInt64.le_iff_toNat_le.mp hkey)
          rw [if_pos hkey, ih (by rw [List.length_append, List.length_singleton]; omega), List.filter_cons, htaken,
            if_pos rfl, hroom, List.take_succ_cons, List.length_append, List.length_singleton, List.append_assoc,
            List.singleton_append]
        · have hleft : decide (k.toNat ≤ order entry) = false :=
            decide_eq_false fun hle => hkey (UInt64.le_iff_toNat_le.mpr hle)
          rw [if_neg hkey, ih hpage, List.filter_cons, hleft, if_neg Bool.false_ne_true]

/-- **A page** has the first entries from the key on. -/
theorem get_replay_events_eq (k : U64) (hlimit : limit ≤ 100) :
    get_replay_events k limit env s =
      .ok ({ entries := pageOf order k.toNat limit.toNat (replay_log s)
             total := len (replay_log s)
             schema_version := EVENT_SCHEMA_VERSION }, s) := by
  have hpage := @foldl_page limit k [] (replay_log s) (Nat.zero_le _)
  rw [List.nil_append, List.length_nil, Nat.sub_zero] at hpage
  simp only [get_replay_events, bind_eq_ok, panic_if_eq_ok, load_eq_ok, pure_eq_ok]
  refine ⟨(), s, ⟨UInt32.not_lt.mpr hlimit, rfl⟩, _, s, ⟨rfl, rfl⟩, ?_, rfl⟩
  rw [pageOf, ← hpage]
  rfl

variable [Host]

/-- A reader goes on behind the last key that it has got. -/
def ReplayReading.step (r : ReplayReading) : ReplayStep → ReplayReading
  | .call t => { r with store := Transaction.step exec t r.store }
  | .page env limit =>
      if r.reader.cursor < 2 ^ 64 then
        match get_replay_events (UInt64.ofNat r.reader.cursor) limit env r.store with
        | .ok (page, _) =>
            { r with reader := {
              cursor := page.entries.getLast?.elim r.reader.cursor fun entry => order entry + 1
              collected := r.reader.collected ++ page.entries } }
        | .error _ => r
      else
        r

theorem ReplayReading.step_page (r : ReplayReading) (hlimit : limit ≤ 100) :
    r.step (.page env limit) =
      { r with reader := r.reader.read order limit.toNat (replay_log r.store) } := by
  rw [ReplayReading.step]
  by_cases hcursor : r.reader.cursor < 2 ^ 64
  · have hk : (UInt64.ofNat r.reader.cursor).toNat = r.reader.cursor := by
      rw [UInt64.toNat_ofNat', Nat.mod_eq_of_lt hcursor]
    rw [if_pos hcursor, get_replay_events_eq _ hlimit, hk]
    rfl
  · -- no key is that large
    have hnone : pageOf order r.reader.cursor limit.toNat (replay_log r.store) = [] := by
      rw [pageOf, List.filter_eq_nil_iff.mpr, List.take_nil]
      intro e _
      have hlt : order e < 2 ^ 64 := e.ordering_key.toNat_lt
      rw [decide_eq_true_eq]
      omega
    rw [if_neg hcursor, Reader.read, hnone, List.append_nil]
    rfl

/-- A reading that starts after the run `before`. -/
def reading (before : List Invocation) (steps : List ReplayStep) : ReplayReading :=
  steps.foldl ReplayReading.step { store := run empty_storage before, reader := ⟨0, []⟩ }

/-- The calls between the pages. -/
def calls_of (steps : List ReplayStep) : List Invocation :=
  steps.filterMap fun
    | .call t => some t
    | .page _ _ => none

theorem reading_concat (before : List Invocation) (steps : List ReplayStep) (step : ReplayStep) :
    reading before (steps ++ [step]) = (reading before steps).step step := List.foldl_append

/-- **The reading stays sound**, whatever is called between the pages. -/
theorem reading_sound {before : List Invocation} {steps : List ReplayStep}
    (htimes : Timed (before ++ calls_of steps))
    (hlimits : ∀ env limit, ReplayStep.page env limit ∈ steps → limit ≤ 100) :
    (reading before steps).store = run empty_storage (before ++ calls_of steps) ∧
      Sound order (replay_history (before ++ calls_of steps)) (replay_log (reading before steps).store)
        (reading before steps).reader := by
  induction steps using List.reverseRecOn with
  | nil =>
      have hcalls : before ++ calls_of [] = before := List.append_nil _
      rw [hcalls] at htimes ⊢
      obtain ⟨hreplayed, -⟩ := replayed_run htimes
      refine ⟨rfl, .start hreplayed.increasing ?_⟩
      rw [reading, List.foldl_nil, hreplayed.log]
      exact List.drop_suffix _ _
  | append_singleton steps step ih =>
      have hlimits' (env : Env) (limit : U32) (h : ReplayStep.page env limit ∈ steps) : limit ≤ 100 :=
        hlimits env limit (List.mem_append_left _ h)
      rw [reading_concat]
      cases step with
      | page env limit =>
          have hcalls : calls_of (steps ++ [.page env limit]) = calls_of steps := by
            rw [calls_of, List.filterMap_append]
            exact List.append_nil _
          rw [hcalls] at htimes ⊢
          obtain ⟨hstore, hsound⟩ := ih htimes hlimits'
          rw [ReplayReading.step_page _ (hlimits env limit (by simp))]
          exact ⟨hstore, hsound.read _⟩
      | call t =>
          have hcalls : before ++ calls_of (steps ++ [.call t]) = before ++ calls_of steps ++ [t] := by
            rw [calls_of, List.filterMap_append, List.append_assoc]
            rfl
          rw [hcalls] at htimes ⊢
          obtain ⟨hstore, hsound⟩ := ih htimes.of_append hlimits'
          obtain ⟨hreplayed, htime⟩ := replayed_run htimes.of_append
          have hle (e : EventReplayEntry) (he : e ∈ replay_history (before ++ calls_of steps)) :
              e.timestamp ≤ t.1.timestamp := by
            obtain ⟨u, hu, heq⟩ := htime e he
            rw [heq]
            exact htimes.le_last u hu
          obtain ⟨-, hadded⟩ := hreplayed.step hle (htimes.bounded t (by simp))
          have hnext : ((reading before steps).step (.call t)).store =
              run empty_storage (before ++ calls_of steps ++ [t]) := by
            rw [run, runFrom_append, runFrom_cons, runFrom_nil, ReplayReading.step, hstore]
          refine ⟨hnext, ?_⟩
          rw [replay_history_concat]
          rw [← hstore] at hadded ⊢
          rcases hadded with ⟨e, hlast, -, hless, hlog⟩ | ⟨hnone, hlog⟩
          · rw [hlast]
            refine hsound.append hless ?_
            rw [show replay_log ((reading before steps).step (.call t)).store = _ from hlog, trim_log]
            split
            · exact List.drop_suffix _ _
            · exact List.suffix_refl _
          · rw [hnone, List.append_nil, show replay_log ((reading before steps).step (.call t)).store = _ from hlog]
            exact hsound

/-- What a reader of the log gets. -/
structure ReplayPaged (before : List Invocation) (steps : List ReplayStep) : Prop where
  /-- The log has the most recent events, at most 1000 of them. -/
  log : replay_log (run empty_storage (before ++ calls_of steps)) =
    recent 1000 (replay_history (before ++ calls_of steps))
  increasing : (replay_history (before ++ calls_of steps)).Pairwise fun a b => order a < order b
  /-- Nothing is read twice or out of order. -/
  in_order : (reading before steps).reader.collected.Pairwise fun a b => order a < order b
  events : ∀ e ∈ (reading before steps).reader.collected, e ∈ replay_history (before ++ calls_of steps)
  /-- Nothing is skipped that is in the log. -/
  nothing_skipped : ∀ e ∈ replay_log (run empty_storage (before ++ calls_of steps)),
    order e < (reading before steps).reader.cursor → e ∈ (reading before steps).reader.collected
  /-- A page is full, or the reader has then the whole log, in its order. -/
  full_or_complete : ∀ steps' env limit, steps = steps' ++ [.page env limit] →
    (reading before steps).reader.collected.length =
      (reading before steps').reader.collected.length + limit.toNat ∨
    (replay_log (run empty_storage (before ++ calls_of steps))).Sublist (reading before steps).reader.collected

/-- **Paging through the replay log visits every event once.** -/
theorem replay_paging_run (before : List Invocation) (steps : List ReplayStep)
    (htimes : Timed (before ++ calls_of steps))
    (hlimits : ∀ env limit, ReplayStep.page env limit ∈ steps → limit ≤ 100) : ReplayPaged before steps := by
  obtain ⟨hreplayed, -⟩ := replayed_run htimes
  obtain ⟨hstore, hsound⟩ := reading_sound htimes hlimits
  refine ⟨hreplayed.log, hreplayed.increasing, hsound.in_order, fun e he => (hsound.behind e he).1, ?_, ?_⟩
  · rw [← hstore]
    exact hsound.nothing_skipped
  · rintro steps' env limit rfl
    have hcalls : calls_of (steps' ++ [.page env limit]) = calls_of steps' := by
      rw [calls_of, List.filterMap_append]
      exact List.append_nil _
    rw [hcalls] at htimes
    have hbefore := (reading_sound htimes fun env limit h => hlimits env limit (List.mem_append_left _ h)).2
    rw [← hstore, reading_concat, ReplayReading.step_page _ (hlimits env limit (by simp))]
    exact hbefore.full_or_complete _

end Pages

/-- A recovery, and another one. -/
def two_recoveries : List Invocation :=
  [(mock_all_auths 1, .initialize_contract (test_address 1)),
    (mock_all_auths 2, .enter_recovery_mode (test_address 1) (str "first")),
    (mock_all_auths 3, .exit_recovery_mode (test_address 1)),
    (mock_all_auths 3, .enter_recovery_mode (test_address 1) (str "second"))]

/-- A third between two pages of one entry, and the rest. -/
def three_pages : List ReplayStep :=
  [.page (mock_all_auths 4) 1,
    .call (mock_all_auths 5, .exit_recovery_mode (test_address 1)),
    .call (mock_all_auths 6, .enter_recovery_mode (test_address 1) (str "third")),
    .page (mock_all_auths 7) 1, .page (mock_all_auths 8) 100]

theorem replay_paging_run_three :
    let _ : Host := lengthHost
    ReplayPaged two_recoveries three_pages ∧
      (reading two_recoveries three_pages).reader.collected.map EventReplayEntry.event_id = [1, 2, 3] := by
  intro host
  refine ⟨replay_paging_run _ _ ⟨by decide, by decide⟩ ?_, by decide +kernel⟩
  intro env limit h
  simp only [three_pages, List.mem_cons, ReplayStep.page.injEq, reduceCtorEq, List.not_mem_nil, false_or,
    or_false] at h
  rcases h with ⟨-, rfl⟩ | ⟨-, rfl⟩ | ⟨-, rfl⟩ <;> decide

end BridgeWatch.Contract

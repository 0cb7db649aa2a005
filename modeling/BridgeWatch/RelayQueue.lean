/-
The queue of the relay.

The queue is in order of priority, and of sending among messages of one priority. A message that can
still be relayed is in it, and every message in it is stored and has not been relayed. A send enqueues,
a relay and a cleanup only remove, and every other change leaves the queue and the priorities alone.
-/
import BridgeWatch.RelayNonces
import BridgeWatch.StableQueue

set_option autoImplicit false

namespace BridgeWatch.Relay

open Contract (U32 Env)
open StableQueue

/-! ## Ranks -/

/-- The priority value of the message under an id. -/
def rank (s : RelayStorage) (id : BytesN 32) : ℕ :=
  ((s.message id).map fun m => (message_priority_value m.priority).toNat).getD 0

theorem rank_of_message {s : RelayStorage} {id : BytesN 32} {m : CrossChainMessage} (h : s.message id = some m) :
    rank s id = (message_priority_value m.priority).toNat := by
  rw [rank, h]
  rfl

/-- The rank is a matter of the priority. -/
theorem rank_congr {s s' : RelayStorage} {id : BytesN 32}
    (h : (s'.message id).map CrossChainMessage.priority = (s.message id).map CrossChainMessage.priority) :
    rank s' id = rank s id := by
  have hrank : ∀ o : Option CrossChainMessage, (o.map fun m => (message_priority_value m.priority).toNat) =
      (o.map CrossChainMessage.priority).map fun priority => (message_priority_value priority).toNat := by
    intro o
    rw [Option.map_map]
    rfl
  rw [rank, rank, hrank, hrank, h]

theorem rank_update {s : RelayStorage} {id : BytesN 32} {m : CrossChainMessage} {status : MessageStatus}
    (h : s.message id = some m) : rank (set_message id { m with status } s) = rank s := by
  funext id'
  apply rank_congr
  rw [set_message_message]
  by_cases hid : id' = id
  · rw [hid, Function.update_self, h]
    rfl
  · rw [Function.update_of_ne hid]

/-- The scan for the position of a message asks for the first rank above its own. -/
theorem outranked_eq {s : RelayStorage} {id : BytesN 32} {m : CrossChainMessage} (h : s.message id = some m) :
    outranked s (message_priority_value m.priority) = fun qid => decide (rank s id < rank s qid) := by
  funext qid
  rw [outranked, rank_of_message h, rank]
  cases s.message qid with
  | none => exact (decide_eq_false (Nat.not_lt_zero _)).symm
  | some => exact decide_eq_decide.mpr UInt32.lt_iff_toNat_lt

/-! ## The queue -/

/-- The queue fits the messages. -/
structure Queued (w : World) : Prop where
  in_order : InOrder (rank w.storage) (ids w.sent) (queue w.storage)
  live : ∀ id m, w.storage.message id = some m → is_live m.status = true → id ∈ queue w.storage
  stored : ∀ id ∈ queue w.storage, ∃ m, w.storage.message id = some m ∧ m.status ≠ .Relayed

section

variable {P : MessageStatus → Prop} {env : Env} {w : World} {s s' : RelayStorage} {r : Sent}
variable {message : CrossChainMessage} {message_id : BytesN 32}

/-- A message in the queue gets a status that is not `Relayed`. -/
theorem Queued.update {status : MessageStatus} (h : Queued w) (hmessage : w.storage.message message_id = some message)
    (hlive : is_live status = true → is_live message.status = true) (hstatus : status ≠ .Relayed) :
    Queued ⟨set_message message_id { message with status } w.storage, w.sent⟩ := by
  refine ⟨?_, ?_, ?_⟩
  · rw [rank_update hmessage]
    exact h.in_order
  · intro id m hm hlive'
    rw [set_message_message] at hm
    by_cases hid : id = message_id
    · rw [hid, Function.update_self, Option.some.injEq] at hm
      rw [← hm] at hlive'
      rw [hid]
      exact h.live message_id message hmessage (hlive hlive')
    · rw [Function.update_of_ne hid] at hm
      exact h.live id m hm hlive'
  · intro id hid
    rw [set_message_message]
    by_cases hid' : id = message_id
    · rw [hid', Function.update_self]
      exact ⟨_, rfl, hstatus⟩
    · rw [Function.update_of_ne hid']
      exact h.stored id hid

/-- A message is relayed and leaves the queue. -/
theorem Queued.relayed {operator : Contract.Address} {relay_operator : RelayOperator} (h : Queued w)
    (hmessage : w.storage.message message_id = some message) :
    Queued ⟨Relay.relayed w.storage operator relay_operator message_id message, w.sent⟩ := by
  have hmem : ∀ id, id ∈ (queue w.storage).erase message_id ↔ id ≠ message_id ∧ id ∈ queue w.storage :=
    fun id => h.in_order.nodup.mem_erase_iff
  refine ⟨?_, ?_, ?_⟩
  · have hrank : rank (Relay.relayed w.storage operator relay_operator message_id message) = rank w.storage :=
      rank_update hmessage
    rw [hrank]
    exact h.in_order.sublist List.erase_sublist
  · intro id m hm hlive
    have hm : Function.update w.storage.message message_id (some { message with status := .Relayed }) id = some m :=
      hm
    by_cases hid : id = message_id
    · rw [hid, Function.update_self, Option.some.injEq] at hm
      rw [← hm] at hlive
      cases hlive
    · rw [Function.update_of_ne hid] at hm
      exact (hmem id).mpr ⟨hid, h.live id m hm hlive⟩
  · intro id hid
    obtain ⟨hne, hqueue⟩ := (hmem id).mp hid
    obtain ⟨m, hm, hstatus⟩ := h.stored id hqueue
    exact ⟨m, (Function.update_of_ne hne _ _).trans hm, hstatus⟩

/-- A cleanup marks messages and removes entries that are not live. -/
theorem Queued.cleaned {messages : BytesN 32 → Option CrossChainMessage} {kept : List (BytesN 32)} (h : Queued w)
    (hkept : kept.Sublist (queue w.storage)) (hmarked : ∀ id, Marked env (w.storage.message id) (messages id))
    (hgone : ∀ id ∈ queue w.storage, id ∉ kept → ∀ m, messages id = some m → is_live m.status = false) :
    Queued ⟨{ w.storage with message := messages, message_queue := some kept }, w.sent⟩ := by
  refine ⟨?_, ?_, ?_⟩
  · have hrank : rank { w.storage with message := messages, message_queue := some kept } = rank w.storage := by
      funext id
      apply rank_congr
      show (messages id).map _ = _
      rcases hmarked id with heq | ⟨m, hm, -, -, heq⟩
      · rw [heq]
      · rw [heq, hm]
        rfl
    rw [hrank]
    exact h.in_order.sublist hkept
  · intro id m hm hlive
    have hold : w.storage.message id = some m := by
      rcases hmarked id with heq | ⟨m', -, -, -, heq⟩
      · exact heq.symm.trans hm
      · rw [← Option.some.inj (heq.symm.trans hm)] at hlive
        cases hlive
    by_contra hnot
    rw [hgone id (h.live id m hold hlive) hnot m hm] at hlive
    cases hlive
  · intro id hid
    obtain ⟨m, hm, hstatus⟩ := h.stored id (hkept.subset hid)
    rcases hmarked id with heq | ⟨m', -, -, -, heq⟩
    · exact ⟨m, heq.trans hm, hstatus⟩
    · exact ⟨_, heq, nofun⟩

theorem Queued.changed (h : Queued w) (hchange : Change P env w.storage s') : Queued ⟨s', w.sent⟩ := by
  cases hchange with
  | configured hmessage hqueue =>
      have hrank : rank s' = rank w.storage := by
        funext id
        exact rank_congr (by rw [hmessage])
      refine ⟨?_, ?_, ?_⟩
      · rw [hrank, hqueue]
        exact h.in_order
      · rw [hmessage, hqueue]
        exact h.live
      · rw [hmessage, hqueue]
        exact h.stored
  | registered | deactivated => exact ⟨h.in_order, h.live, h.stored⟩
  | verified hmessage hpending =>
      refine h.update hmessage (fun _ => ?_) nofun
      rw [hpending]
      rfl
  | expired hmessage => exact h.update hmessage nofun nofun
  | relayed _ hmessage => exact h.relayed hmessage
  | cleaned hkept hmarked hgone => exact h.cleaned hkept hmarked hgone

/-- A message that is sent is enqueued under a new id. -/
theorem Queued.sends [RelayHost] (h : Queued w) (hknown : ∀ id, w.storage.message id ≠ none → id ∈ ids w.sent)
    (hnew : r.message_id ∉ ids w.sent) (hs : Sends env w.storage r message s') : Queued ⟨s', w.sent ++ [r]⟩ := by
  have hsub : queue w.storage ⊆ ids w.sent := by
    intro id hid
    obtain ⟨m, hm, -⟩ := h.stored id hid
    exact hknown id (by rw [hm]; exact Option.some_ne_none m)
  have hqueue : queue s' = enqueue (rank s') r.message_id (queue w.storage) := by
    have hmessage : (set_message r.message_id message w.storage).message r.message_id = some message :=
      Function.update_self _ _ _
    have hrank : rank (set_message r.message_id message w.storage) = rank s' := by
      funext id
      exact rank_congr (by rw [hs.message_eq]; rfl)
    rw [hs.queue_eq, outranked_eq hmessage, hrank]
    rfl
  have hold : ∀ id ∈ queue w.storage, s'.message id = w.storage.message id := by
    intro id hid
    rw [hs.message_eq, Function.update_of_ne]
    rintro rfl
    exact hnew (hsub hid)
  have hmem : ∀ id, id ∈ queue s' ↔ id = r.message_id ∨ id ∈ queue w.storage := by
    intro id
    rw [hqueue]
    exact mem_insert_iff
  refine ⟨?_, ?_, ?_⟩
  · have hids : ids (w.sent ++ [r]) = ids w.sent ++ [r.message_id] := List.map_append
    rw [hids, hqueue]
    refine InOrder.enqueue (h.in_order.congr ?_) hsub hnew
    intro id hid
    rw [place, place, rank_congr (congrArg _ (hold id hid))]
  · intro id m hm hlive
    rw [hs.message_eq] at hm
    rw [hmem]
    by_cases hid : id = r.message_id
    · exact Or.inl hid
    · rw [Function.update_of_ne hid] at hm
      exact Or.inr (h.live id m hm hlive)
  · intro id hid
    rcases (hmem id).mp hid with rfl | hid
    · refine ⟨message, ?_, ?_⟩
      · rw [hs.message_eq, Function.update_self]
      · rw [hs.pending]
        decide
    · obtain ⟨m, hm, hstatus⟩ := h.stored id hid
      exact ⟨m, (hold id hid).trans hm, hstatus⟩

end

/-! ## Runs -/

theorem queued_empty : Queued ⟨empty_storage, []⟩ where
  in_order := List.Pairwise.nil
  live _ m hm := absurd hm (Option.some_ne_none m).symm
  stored _ hid := absurd hid List.not_mem_nil

theorem queued_run [RelayHost] {calls : List (Env × EntryPoint)} (hbelow : Below (run calls).sent)
    (hfaithful : Faithful (run calls).sent) : Queued (run calls) := by
  suffices h : Below (run calls).sent → Faithful (run calls).sent → Logged (run calls) ∧ Queued (run calls) from
    (h hbelow hfaithful).2
  refine run_invariant_all (I := fun w => Below w.sent → Faithful w.sent → Logged w ∧ Queued w) ?_ ?_
  · intro env w w' hw hact hbelow hfaithful
    cases hact with
    | changed h =>
        obtain ⟨hlogged, hqueued⟩ := hw hbelow hfaithful
        exact ⟨hlogged.changed h, hqueued.changed h⟩
    | @sent r _ _ h =>
        have hsub : w.sent ⊆ w.sent ++ [r] := List.subset_append_left _ _
        obtain ⟨hlogged, hqueued⟩ := hw (hbelow.mono hsub) (hfaithful.mono hsub)
        have hr : r.nonce.toNat + 1 < 2 ^ 64 := hbelow r (List.mem_append_right _ (List.mem_singleton_self r))
        have hlogged' := hlogged.sends hr h
        exact ⟨hlogged', hqueued.sends hlogged.known (hlogged.fresh hlogged' hfaithful).1 h⟩
  · intro _ _
    exact ⟨logged_empty, queued_empty⟩

/-- `a` is stored with a higher priority than `b`, or with the same one and was sent before. -/
def ServedBefore (w : World) (a b : BytesN 32) : Prop :=
  ∃ m m', w.storage.message a = some m ∧ w.storage.message b = some m' ∧
    (message_priority_value m.priority < message_priority_value m'.priority ∨
      message_priority_value m.priority = message_priority_value m'.priority ∧
        (ids w.sent).idxOf a < (ids w.sent).idxOf b)

/-- **The queue of the relay.** No id is in it twice, every message that is pending or verified is in it
once, no relayed message is in it, and it is in order of priority and of sending. -/
theorem queue_sound [RelayHost] {calls : List (Env × EntryPoint)} (hbelow : Below (run calls).sent)
    (hfaithful : Faithful (run calls).sent) :
    (queue (run calls).storage).Nodup ∧
      (∀ id m, (run calls).storage.message id = some m → m.status = .Pending ∨ m.status = .Verified →
        (queue (run calls).storage).count id = 1) ∧
      (∀ id m, (run calls).storage.message id = some m → m.status = .Relayed →
        id ∉ queue (run calls).storage) ∧
      (queue (run calls).storage).Pairwise (ServedBefore (run calls)) := by
  have hqueued := queued_run hbelow hfaithful
  have hnodup := hqueued.in_order.nodup
  refine ⟨hnodup, ?_, ?_, ?_⟩
  · intro id m hm hstatus
    apply List.count_eq_one_of_mem hnodup
    apply hqueued.live id m hm
    rw [is_live, Bool.or_eq_true, decide_eq_true_iff, decide_eq_true_iff]
    exact hstatus
  · intro id m hm hrelayed hid
    obtain ⟨m', hm', hstatus⟩ := hqueued.stored id hid
    obtain rfl := Option.some.inj (hm.symm.trans hm')
    exact hstatus hrelayed
  · refine List.Pairwise.imp_of_mem ?_ hqueued.in_order
    intro a b ha hb hlt
    obtain ⟨m, hm, -⟩ := hqueued.stored a ha
    obtain ⟨m', hm', -⟩ := hqueued.stored b hb
    rw [place_lt_iff, rank_of_message hm, rank_of_message hm', UInt32.toNat_inj, ← UInt32.lt_iff_toNat_lt] at hlt
    exact ⟨m, m', hm, hm', hlt⟩

theorem queue_sound_three_sends :
    (queue (@run stellar three_sends).storage).length = 3 ∧
      (queue (@run stellar three_sends).storage).Nodup ∧
        (queue (@run stellar three_sends).storage).Pairwise (ServedBefore (@run stellar three_sends)) := by
  obtain ⟨hlength, hbelow, hfaithful⟩ : (queue (@run stellar three_sends).storage).length = 3 ∧
      Below (@run stellar three_sends).sent ∧ Faithful (@run stellar three_sends).sent := by
    decide +kernel
  obtain ⟨hnodup, -, -, hserved⟩ := @queue_sound stellar three_sends hbelow hfaithful
  exact ⟨hlength, hnodup, hserved⟩

end BridgeWatch.Relay

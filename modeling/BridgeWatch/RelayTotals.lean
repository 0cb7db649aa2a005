/-
The totals of the relay.

A relay gives its message the status `Relayed`, and counts one more for its operator and in total. Nothing
else counts, and nothing else takes the status away, but one thing: an item of a batch marks its message as
expired as soon as its time has passed, whatever its status. As long as no batch names such a message that
was relayed, what was relayed stays relayed and the totals are right.
-/
import Mathlib.Algebra.BigOperators.Group.List.Basic
import Mathlib.Data.Set.Card
import BridgeWatch.RelayNonces

set_option autoImplicit false

namespace BridgeWatch.Relay

open Contract (U64 Address Env saturating_add_u64)

/-! ## What is counted -/

def status (s : RelayStorage) (id : BytesN 32) : Option MessageStatus := (s.message id).map CrossChainMessage.status

/-- The ids of the relayed messages. -/
def relayed_ids (s : RelayStorage) : Set (BytesN 32) := {id | status s id = some .Relayed}

instance (s : RelayStorage) (id : BytesN 32) : Decidable (id ∈ relayed_ids s) :=
  inferInstanceAs (Decidable (status s id = some .Relayed))

def operators (s : RelayStorage) : List Address := s.operator_list.getD []

/-- What an operator has relayed. -/
def messages_relayed (s : RelayStorage) (operator : Address) : ℕ :=
  ((s.operator operator).map fun o => o.messages_relayed.toNat).getD 0

def total_relayed (s : RelayStorage) : U64 := s.total_relayed.getD 0

/-- The totals are right. -/
structure Counted (s : RelayStorage) : Prop where
  nodup : (operators s).Nodup
  listed : ∀ operator, operator ∈ operators s ↔ (s.operator operator).isSome = true
  count : (relayed_ids s).encard = (total_relayed s).toNat
  sum : ((operators s).map (messages_relayed s)).sum = (total_relayed s).toNat

/-! ## Small steps -/

section

variable {env : Env} {w : World} {s s' : RelayStorage} {r : Sent} {id message_id : BytesN 32}
variable {message : CrossChainMessage} {operator : Address} {relay_operator : RelayOperator}

theorem set_operator_operator :
    (set_operator operator relay_operator s).operator = Function.update s.operator operator (some relay_operator) := rfl

theorem status_of_message (h : s.message id = some message) : status s id = some message.status := by
  rw [status, h]
  rfl

theorem status_update {f : BytesN 32 → Option CrossChainMessage} (hs : s.message = Function.update f message_id (some message)) :
    status s id = if id = message_id then some message.status else (f id).map CrossChainMessage.status := by
  rw [status, hs]
  by_cases hid : id = message_id
  · rw [if_pos hid, hid, Function.update_self]
    rfl
  · rw [if_neg hid, Function.update_of_ne hid]

/-- Neither the old nor the new status of a message is `Relayed`. -/
theorem relayed_ids_update (hs : s'.message = Function.update s.message message_id (some message))
    (hold : status s message_id ≠ some .Relayed) (hnew : message.status ≠ .Relayed) : relayed_ids s' = relayed_ids s := by
  ext id
  show status s' id = _ ↔ status s id = _
  rw [status_update hs]
  by_cases hid : id = message_id
  · rw [if_pos hid, hid]
    exact ⟨fun h => absurd (Option.some.inj h) hnew, fun h => absurd h hold⟩
  · rw [if_neg hid]
    rfl

theorem relayed_ids_relayed :
    relayed_ids (relayed s operator relay_operator message_id message) = insert message_id (relayed_ids s) := by
  ext id
  show status (relayed s operator relay_operator message_id message) id = _ ↔ _
  rw [status_update (show _ = Function.update s.message message_id _ from rfl), Set.mem_insert_iff]
  by_cases hid : id = message_id
  · rw [if_pos hid]
    exact ⟨fun _ => Or.inl hid, fun _ => rfl⟩
  · rw [if_neg hid]
    exact ⟨Or.inr, fun h => h.resolve_left hid⟩

theorem relayed_ids_marked {messages : BytesN 32 → Option CrossChainMessage} {kept : List (BytesN 32)}
    (hmarked : ∀ id, Marked env (s.message id) (messages id)) :
    relayed_ids { s with message := messages, message_queue := some kept } = relayed_ids s := by
  ext id
  show (messages id).map CrossChainMessage.status = _ ↔ (s.message id).map CrossChainMessage.status = _
  rcases hmarked id with heq | ⟨m, hm, hlive, -, heq⟩
  · rw [heq]
  · rw [heq, hm, Option.map_some, Option.map_some, Option.some.injEq, Option.some.injEq]
    refine ⟨nofun, fun h => ?_⟩
    rw [h] at hlive
    cases hlive

/-- Nothing that is counted is different. -/
structure Quiet (s s' : RelayStorage) : Prop where
  relayed : relayed_ids s' = relayed_ids s
  list : operators s' = operators s
  operator : ∀ a, (s'.operator a).map RelayOperator.messages_relayed = (s.operator a).map RelayOperator.messages_relayed
  total : total_relayed s' = total_relayed s

/-- A change is quiet, registers an operator or relays a message. -/
theorem Change.totals (h : Change (· ≠ .Relayed) env s s') :
    Quiet s s' ∨
    (∃ operator relay_operator, s.operator operator = none ∧ relay_operator.messages_relayed = 0 ∧
      s' = { set_operator operator relay_operator s with
        operator_list := some (s.operator_list.getD [] ++ [operator]) }) ∨
    ∃ operator relay_operator message_id message, s.operator operator = some relay_operator ∧
      message_id ∉ relayed_ids s ∧ s' = Relay.relayed s operator relay_operator message_id message := by
  cases h with
  | configured hmessage _ _ hoperator hlist hrelayed =>
      refine Or.inl ⟨Set.ext fun id => ?_, hlist, fun a => by rw [hoperator], hrelayed⟩
      show status s' id = _ ↔ status s id = _
      rw [status, status, hmessage]
  | registered hnew hzero => exact Or.inr (Or.inl ⟨_, _, hnew, hzero, rfl⟩)
  | @deactivated operator _ hoperator =>
      refine Or.inl ⟨rfl, rfl, fun a => ?_, rfl⟩
      rw [set_operator_operator]
      by_cases ha : a = operator
      · rw [ha, Function.update_self, hoperator]
        rfl
      · rw [Function.update_of_ne ha]
  | verified hmessage hpending =>
      refine Or.inl ⟨relayed_ids_update rfl ?_ nofun, rfl, fun _ => rfl, rfl⟩
      rw [status_of_message hmessage, hpending]
      exact nofun
  | expired hmessage _ hstatus =>
      refine Or.inl ⟨relayed_ids_update rfl ?_ nofun, rfl, fun _ => rfl, rfl⟩
      rw [status_of_message hmessage]
      exact fun h => hstatus (Option.some.inj h)
  | @relayed operator relay_operator message_id message hoperator hmessage _ hlive =>
      refine Or.inr (Or.inr ⟨operator, relay_operator, message_id, message, hoperator, ?_, rfl⟩)
      intro hrelayed
      have hrelayed : status s message_id = some .Relayed := hrelayed
      rw [status_of_message hmessage, Option.some.injEq] at hrelayed
      rw [hrelayed] at hlive
      cases hlive
  | cleaned _ hmarked => exact Or.inl ⟨relayed_ids_marked hmarked, rfl, fun _ => rfl, rfl⟩

/-- What was relayed stays relayed. -/
theorem Change.relayed_ids (h : Change (· ≠ .Relayed) env s s') : Relay.relayed_ids s ⊆ Relay.relayed_ids s' := by
  rcases h.totals with hquiet | ⟨operator, relay_operator, hnew, hzero, rfl⟩ |
    ⟨operator, relay_operator, message_id, message, hoperator, hnew, rfl⟩
  · rw [hquiet.relayed]
  · exact fun _ hid => hid
  · rw [relayed_ids_relayed]
    exact Set.subset_insert _ _

/-- A send under a new id is quiet. -/
theorem Sends.quiet [RelayHost] (h : Sends env s r message s') (hnew : s.message r.message_id = none) : Quiet s s' := by
  refine ⟨relayed_ids_update h.message_eq ?_ ?_, ?_, ?_, ?_⟩
  · rw [status, hnew]
    exact nofun
  · rw [h.pending]
    exact nofun
  · rw [operators, operators, h.list_eq]
  · intro a
    rw [h.operator_eq]
  · rw [total_relayed, total_relayed, h.relayed_eq]

/-! ## The totals -/

/-- One summand of a list without repetitions goes up. -/
theorem sum_map_succ {α : Type} [DecidableEq α] {l : List α} {f f' : α → ℕ} {a : α} (hl : l.Nodup) (ha : a ∈ l)
    (hself : f' a = f a + 1) (hother : ∀ b, b ≠ a → f' b = f b) : (l.map f').sum = (l.map f).sum + 1 := by
  have hrest : (l.erase a).map f' = (l.erase a).map f := by
    apply List.map_congr_left
    intro b hb
    exact hother b (hl.mem_erase_iff.mp hb).1
  rw [← List.sum_map_erase f' ha, ← List.sum_map_erase f ha, hrest, hself]
  exact Nat.add_right_comm _ _ _

theorem saturating_succ_lt {n : U64} (h : (saturating_add_u64 n 1).toNat + 1 < 2 ^ 64) : n.toNat + 1 < 2 ^ 64 := by
  by_contra hlast
  have hfits : ¬n.toNat + UInt64.toNat 1 < 2 ^ 64 := hlast
  rw [saturating_add_u64, if_neg hfits] at h
  exact absurd h (by decide)

theorem messages_relayed_le (h : Counted s) (hoperator : s.operator operator = some relay_operator) :
    relay_operator.messages_relayed.toNat ≤ (total_relayed s).toNat := by
  have hlisted : operator ∈ operators s := by
    rw [h.listed, hoperator]
    rfl
  have hsum := List.sum_map_erase (messages_relayed s) hlisted
  rw [h.sum, messages_relayed, hoperator] at hsum
  exact Nat.le.intro hsum

theorem Counted.relayed (h : Counted s) (hbelow : (total_relayed s).toNat + 1 < 2 ^ 64)
    (hoperator : s.operator operator = some relay_operator) (hnew : message_id ∉ relayed_ids s) :
    Counted (Relay.relayed s operator relay_operator message_id message) := by
  have htotal : (total_relayed (Relay.relayed s operator relay_operator message_id message)).toNat =
      (total_relayed s).toNat + 1 := toNat_saturating_succ hbelow
  have hlisted : operator ∈ operators s := by
    rw [h.listed, hoperator]
    rfl
  have hstored : ∀ a, (Relay.relayed s operator relay_operator message_id message).operator a =
      Function.update s.operator operator (some { relay_operator with
        messages_relayed := saturating_add_u64 relay_operator.messages_relayed 1 }) a := fun _ => rfl
  refine ⟨h.nodup, ?_, ?_, ?_⟩
  · intro a
    rw [hstored]
    by_cases ha : a = operator
    · rw [ha, Function.update_self]
      exact ⟨fun _ => rfl, fun _ => hlisted⟩
    · rw [Function.update_of_ne ha]
      exact h.listed a
  · rw [relayed_ids_relayed, Set.encard_insert_of_notMem hnew, h.count, htotal]
    rfl
  · rw [htotal, ← h.sum]
    have hfits : relay_operator.messages_relayed.toNat + 1 < 2 ^ 64 := by
      have := messages_relayed_le h hoperator
      omega
    apply sum_map_succ h.nodup hlisted
    · rw [messages_relayed, messages_relayed, hstored, Function.update_self, hoperator]
      exact toNat_saturating_succ hfits
    · intro a ha
      rw [messages_relayed, messages_relayed, hstored, Function.update_of_ne ha]

/-- A new operator has relayed nothing. -/
theorem Counted.registered (h : Counted s) (hnew : s.operator operator = none)
    (hzero : relay_operator.messages_relayed = 0) :
    Counted { set_operator operator relay_operator s with
      operator_list := some (s.operator_list.getD [] ++ [operator]) } := by
  have hunlisted : operator ∉ operators s := by
    rw [h.listed, hnew]
    exact nofun
  refine ⟨?_, ?_, h.count, ?_⟩
  · exact List.Nodup.append h.nodup (List.nodup_singleton _) (List.disjoint_singleton.mpr hunlisted)
  · intro a
    show a ∈ operators s ++ [operator] ↔ (Function.update s.operator operator (some relay_operator) a).isSome = true
    rw [List.mem_append, List.mem_singleton, h.listed]
    by_cases ha : a = operator
    · rw [ha, Function.update_self]
      exact ⟨fun _ => rfl, fun _ => Or.inr rfl⟩
    · rw [Function.update_of_ne ha]
      exact ⟨fun hsome => hsome.resolve_right ha, Or.inl⟩
  · show ((operators s ++ [operator]).map (messages_relayed (set_operator operator relay_operator s))).sum = _
    have hold : (operators s).map (messages_relayed (set_operator operator relay_operator s)) =
        (operators s).map (messages_relayed s) := by
      apply List.map_congr_left
      rintro a ha
      rw [messages_relayed, messages_relayed, set_operator_operator, Function.update_of_ne]
      rintro rfl
      exact hunlisted ha
    have hzero' : messages_relayed (set_operator operator relay_operator s) operator = 0 := by
      rw [messages_relayed, set_operator_operator, Function.update_self, Option.map_some, hzero]
      rfl
    rw [List.map_append, List.sum_append, hold, List.map_singleton, List.sum_singleton, hzero', Nat.add_zero]
    exact h.sum

theorem Counted.quiet (h : Counted s) (hquiet : Quiet s s') : Counted s' := by
  have hsum : messages_relayed s' = messages_relayed s := by
    funext a
    have heq : ∀ o : Option RelayOperator, (o.map fun o => o.messages_relayed.toNat) =
        (o.map RelayOperator.messages_relayed).map UInt64.toNat := by
      intro o
      rw [Option.map_map]
      rfl
    rw [messages_relayed, messages_relayed, heq, heq, hquiet.operator]
  refine ⟨?_, ?_, ?_, ?_⟩
  · rw [hquiet.list]
    exact h.nodup
  · intro a
    rw [hquiet.list, h.listed, ← Option.isSome_map (f := RelayOperator.messages_relayed), ← hquiet.operator,
      Option.isSome_map]
  · rw [hquiet.relayed, hquiet.total]
    exact h.count
  · rw [hquiet.list, hsum, hquiet.total]
    exact h.sum

/-- **The totals stay right**, as long as the total is below the last value of its type. -/
theorem Counted.changed (h : (total_relayed s).toNat + 1 < 2 ^ 64 → Counted s)
    (hchange : Change (· ≠ .Relayed) env s s') (hbelow : (total_relayed s').toNat + 1 < 2 ^ 64) : Counted s' := by
  rcases hchange.totals with hquiet | ⟨operator, relay_operator, hnew, hzero, rfl⟩ |
    ⟨operator, relay_operator, message_id, message, hoperator, hnew, rfl⟩
  · rw [hquiet.total] at hbelow
    exact (h hbelow).quiet hquiet
  · exact (h hbelow).registered hnew hzero
  · have hbelow := saturating_succ_lt hbelow
    exact (h hbelow).relayed hbelow hoperator hnew

end

/-! ## Runs -/

section

variable [RelayHost]

/-- The totals are right, and what `earlier` has relayed is relayed. -/
structure Settled (earlier : Set (BytesN 32)) (w : World) : Prop where
  logged : Logged w
  final : earlier ⊆ relayed_ids w.storage
  counted : (total_relayed w.storage).toNat + 1 < 2 ^ 64 → Counted w.storage

theorem Settled.act {env : Env} {earlier : Set (BytesN 32)} {w w' : World}
    (h : Below w.sent → Faithful w.sent → Settled earlier w) (hact : Act (· ≠ .Relayed) env w w')
    (hbelow : Below w'.sent) (hfaithful : Faithful w'.sent) : Settled earlier w' := by
  cases hact with
  | changed hchange =>
      have h := h hbelow hfaithful
      exact ⟨h.logged.changed hchange, h.final.trans hchange.relayed_ids, Counted.changed h.counted hchange⟩
  | @sent r _ s' hs =>
      have hsub : w.sent ⊆ w.sent ++ [r] := List.subset_append_left _ _
      have h := h (hbelow.mono hsub) (hfaithful.mono hsub)
      have hr : r.nonce.toNat + 1 < 2 ^ 64 := hbelow r (List.mem_append_right _ (List.mem_singleton_self r))
      have hlogged := h.logged.sends hr hs
      have hquiet := hs.quiet (h.logged.fresh hlogged hfaithful).2
      refine ⟨hlogged, ?_, fun hlt => ?_⟩
      · show earlier ⊆ relayed_ids s'
        rw [hquiet.relayed]
        exact h.final
      · have hlt : (total_relayed s').toNat + 1 < 2 ^ 64 := hlt
        rw [hquiet.total] at hlt
        exact (h.counted hlt).quiet hquiet

theorem settled_empty : Settled ∅ ⟨empty_storage, []⟩ where
  logged := logged_empty
  final := Set.empty_subset _
  counted _ := by
    refine ⟨List.nodup_nil, fun operator => ?_, ?_, rfl⟩
    · exact ⟨fun h => absurd h List.not_mem_nil, fun h => by cases h⟩
    · have hnone : relayed_ids empty_storage = ∅ := Set.eq_empty_of_forall_notMem fun id h => by cases h
      rw [hnone, Set.encard_empty]
      rfl

theorem settled_run {earlier later : List (Env × EntryPoint)}
    (hcalls : Runs.Along step (Spares (· ≠ .Relayed)) ⟨empty_storage, []⟩ (earlier ++ later))
    (hbelow : Below (run (earlier ++ later)).sent) (hfaithful : Faithful (run (earlier ++ later)).sent) :
    Settled (relayed_ids (run earlier).storage) (run (earlier ++ later)) := by
  obtain ⟨hearlier, hlater⟩ := Runs.Along.append.mp hcalls
  have hsub := sent_run_append earlier later
  obtain ⟨hstarted, hsettled⟩ :=
    run_invariant (I := fun w => Below w.sent → Faithful w.sent → Settled ∅ w) nofun Settled.act
      (fun _ _ => settled_empty) hearlier
  have hsettled := hsettled (hbelow.mono hsub) (hfaithful.mono hsub)
  have hrun : run (earlier ++ later) = Runs.run step (run earlier) later := Runs.run_append
  rw [hrun] at hbelow hfaithful ⊢
  refine (run_invariant_from (I := fun w => Below w.sent → Faithful w.sent →
    Settled (relayed_ids (run earlier).storage) w) nofun Settled.act hstarted ?_ hlater).2 hbelow hfaithful
  exact fun _ _ => ⟨hsettled.logged, subset_rfl, hsettled.counted⟩

/-- **Relayed is final and counted once.** As long as no batch that is carried out names a relayed message
whose time has passed, a message that was relayed stays relayed, and the relayed messages are as many as the
total says, and as the operators have relayed together. -/
theorem relayed_final_and_counted {earlier later : List (Env × EntryPoint)}
    (hcalls : Runs.Along step (Spares (· ≠ .Relayed)) ⟨empty_storage, []⟩ (earlier ++ later))
    (hbelow : Below (run (earlier ++ later)).sent) (hrendered : Rendered (run (earlier ++ later)).sent)
    (hsha256 : RelayHost.sha256.CollisionFree ((run (earlier ++ later)).sent.map Sent.bytes))
    (htotal : (total_relayed (run (earlier ++ later)).storage).toNat + 1 < 2 ^ 64) :
    relayed_ids (run earlier).storage ⊆ relayed_ids (run (earlier ++ later)).storage ∧
      Counted (run (earlier ++ later)).storage := by
  have hfaithful := (logged_run hbelow).faithful hrendered hsha256
  have hsettled := settled_run hcalls hbelow hfaithful
  exact ⟨hsettled.final, hsettled.counted htotal⟩

end

/-- The id of the first send of account 1. -/
def first_id : BytesN 32 := Fips.sha256 (@message_bytes stellar .Stellar .Ethereum (account 1) [1, 2] 0 10)

def public_key : BytesN 32 := Vector.replicate 32 7

/-- A signature that is accepted for the message. -/
def sign (message_id : BytesN 32) : BytesN 64 :=
  let digest := Fips.sha256 (message_id.toList ++ public_key.toList)
  digest ++ digest

/-- Account 9 is an operator, and relays what account 1 has sent. -/
def relayed_once : List (Env × EntryPoint) :=
  [(signed_at 0, .initialize_relay (account 0) 600),
    (signed_at 0, .register_relay_operator (account 9) public_key),
    (signed_at 10, send (account 1) [1, 2] 0 .Low),
    (signed_at 20, .relay_message (account 9) first_id (sign first_id))]

/-- The message is in a batch once more, at a time that is given. -/
def batched_at (timestamp : U64) : List (Env × EntryPoint) :=
  [(signed_at timestamp, .batch_relay (account 9) [⟨first_id, sign first_id⟩])]

theorem relayed_counted_once : (relayed_ids (@run stellar (relayed_once ++ batched_at 600)).storage).encard = 1 := by
  obtain ⟨hcalls, hbelow, hrendered, hsha256, htotal⟩ :
      Runs.Along (@step stellar) (Spares (· ≠ .Relayed)) ⟨empty_storage, []⟩ (relayed_once ++ batched_at 600) ∧
        Below (@run stellar (relayed_once ++ batched_at 600)).sent ∧
        @Rendered stellar (@run stellar (relayed_once ++ batched_at 600)).sent ∧
        Fips.sha256.CollisionFree ((@run stellar (relayed_once ++ batched_at 600)).sent.map Sent.bytes) ∧
        (total_relayed (@run stellar (relayed_once ++ batched_at 600)).storage).toNat = 1 := by
    decide +kernel
  have hcounted := (@relayed_final_and_counted stellar relayed_once (batched_at 600) hcalls hbelow
    hrendered hsha256 (by rw [htotal]; decide)).2
  rw [hcounted.count, htotal]
  rfl

/-- A batch that names a relayed message when its time has passed marks it as expired. -/
theorem relayed_message_expires :
    ¬ ∀ earlier later : List (Env × EntryPoint),
      ((earlier ++ later).map fun call => call.1.timestamp).Pairwise (· ≤ ·) →
      Below (@run stellar (earlier ++ later)).sent → @Rendered stellar (@run stellar (earlier ++ later)).sent →
      Fips.sha256.CollisionFree ((@run stellar (earlier ++ later)).sent.map Sent.bytes) →
      (total_relayed (@run stellar (earlier ++ later)).storage).toNat + 1 < 2 ^ 64 →
        relayed_ids (@run stellar earlier).storage ⊆ relayed_ids (@run stellar (earlier ++ later)).storage ∧
          Counted (@run stellar (earlier ++ later)).storage := by
  intro h
  obtain ⟨htimes, hbelow, hrendered, hsha256, htotal, hrelayed, hexpired⟩ :
      ((relayed_once ++ batched_at 610).map fun call => call.1.timestamp).Pairwise (· ≤ ·) ∧
        Below (@run stellar (relayed_once ++ batched_at 610)).sent ∧
        @Rendered stellar (@run stellar (relayed_once ++ batched_at 610)).sent ∧
        Fips.sha256.CollisionFree ((@run stellar (relayed_once ++ batched_at 610)).sent.map Sent.bytes) ∧
        (total_relayed (@run stellar (relayed_once ++ batched_at 610)).storage).toNat + 1 < 2 ^ 64 ∧
        first_id ∈ relayed_ids (@run stellar relayed_once).storage ∧
        first_id ∉ relayed_ids (@run stellar (relayed_once ++ batched_at 610)).storage := by
    decide +kernel
  have hfinal := (h relayed_once (batched_at 610) htimes hbelow hrendered hsha256 htotal).1
  exact hexpired (hfinal hrelayed)

end BridgeWatch.Relay

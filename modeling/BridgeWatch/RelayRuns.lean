/-
Runs of the cross-chain message relay.

A run keeps, beside the storage, the log of the sends that were accepted. A successful call is a sequence
of small changes: a send is one, a cleanup is one, and an item of a batch is one or none. Only a batch can
mark a message as expired that is not in the queue, or was relayed before, since it keeps what an item has
written before it failed; `P` says of which statuses it does.
-/
import Mathlib.Logic.Relation
import BridgeWatch.RelayContract
import BridgeWatch.Runs

set_option autoImplicit false

namespace BridgeWatch.Relay

open Contract (U32 U64 I128 Address Env saturating_add_u64)

/-! ## Runs -/

/-- A send that was accepted: what its message is known by, and the bytes that its id is the hash of. -/
structure Sent where
  sender : Address
  nonce : U64
  bytes : Buffer
  message_id : BytesN 32
  deriving DecidableEq

/-- The storage with the log of the accepted sends. -/
structure World where
  storage : RelayStorage
  sent : List Sent

section

variable [RelayHost]

/-- What a call that returned `answer` has sent. -/
def sent_by (env : Env) (answer : Answer) : EntryPoint → List Sent
  | .send_message source_chain dest_chain sender payload nonce _ _ _ =>
      match answer with
      | .sent message_id =>
          [⟨sender, nonce, message_bytes source_chain dest_chain sender payload nonce env.timestamp, message_id⟩]
      | _ => []
  | _ => []

/-- A call, of which nothing is left when it fails. -/
def step (w : World) (call : Env × EntryPoint) : World :=
  match exec call.1 w.storage call.2 with
  | .ok (answer, s') => ⟨s', w.sent ++ sent_by call.1 answer call.2⟩
  | .error _ => w

/-- The world after some calls on the empty storage. -/
def run (calls : List (Env × EntryPoint)) : World := Runs.run step ⟨empty_storage, []⟩ calls

theorem run_concat {calls : List (Env × EntryPoint)} {call : Env × EntryPoint} :
    run (calls ++ [call]) = step (run calls) call := Runs.run_concat

theorem step_ok {w : World} {env : Env} {call : EntryPoint} {answer : Answer} {s' : RelayStorage}
    (h : exec env w.storage call = .ok (answer, s')) :
    step w (env, call) = ⟨s', w.sent ++ sent_by env answer call⟩ := by
  simp only [step, h]

theorem step_error {w : World} {env : Env} {call : EntryPoint} {fault : Fault RelayError}
    (h : exec env w.storage call = .error fault) : step w (env, call) = w := by
  simp only [step, h]

end

/-! ## Changes -/

/-- A message can still be relayed. -/
def is_live (status : MessageStatus) : Bool := status = .Pending || status = .Verified

/-- The storage when a message was relayed. -/
def relayed (s : RelayStorage) (operator : Address) (relay_operator : RelayOperator) (message_id : BytesN 32)
    (message : CrossChainMessage) : RelayStorage :=
  let s := set_message message_id { message with status := .Relayed } s
  let messages_relayed := saturating_add_u64 relay_operator.messages_relayed 1
  let s := set_operator operator { relay_operator with messages_relayed } s
  let s := remove_from_queue message_id s
  { s with total_relayed := some (saturating_add_u64 (s.total_relayed.getD 0) 1) }

/-- The same message, marked as expired where it was live and its time has passed. -/
def Marked (env : Env) (o o' : Option CrossChainMessage) : Prop :=
  o' = o ∨ ∃ m, o = some m ∧ is_live m.status = true ∧ is_expired env m = true ∧
    o' = some { m with status := .Expired }

/-- What a successful call does, other than a send, is made of these. -/
inductive Change (P : MessageStatus → Prop) (env : Env) (s : RelayStorage) : RelayStorage → Prop
  | configured {s' : RelayStorage} (hmessage : s'.message = s.message) (hqueue : queue s' = queue s)
      (hnonce : s'.nonce = s.nonce) (hoperator : s'.operator = s.operator)
      (hlist : s'.operator_list.getD [] = s.operator_list.getD [])
      (hrelayed : s'.total_relayed.getD 0 = s.total_relayed.getD 0) : Change P env s s'
  | registered {operator : Address} {relay_operator : RelayOperator} (hnew : s.operator operator = none)
      (hzero : relay_operator.messages_relayed = 0) :
      Change P env s { set_operator operator relay_operator s with
        operator_list := some (s.operator_list.getD [] ++ [operator]) }
  | deactivated {operator : Address} {relay_operator : RelayOperator}
      (hoperator : s.operator operator = some relay_operator) :
      Change P env s (set_operator operator { relay_operator with is_active := false } s)
  | verified {message_id : BytesN 32} {message : CrossChainMessage} (hmessage : s.message message_id = some message)
      (hpending : message.status = .Pending) :
      Change P env s (set_message message_id { message with status := .Verified } s)
  | expired {message_id : BytesN 32} {message : CrossChainMessage} (hmessage : s.message message_id = some message)
      (hexpired : is_expired env message = true) (hstatus : P message.status) :
      Change P env s (set_message message_id { message with status := .Expired } s)
  | relayed {operator : Address} {relay_operator : RelayOperator} {message_id : BytesN 32}
      {message : CrossChainMessage} (hoperator : s.operator operator = some relay_operator)
      (hmessage : s.message message_id = some message) (hunexpired : is_expired env message = false)
      (hlive : is_live message.status = true) :
      Change P env s (Relay.relayed s operator relay_operator message_id message)
  | cleaned {messages : BytesN 32 → Option CrossChainMessage} {kept : List (BytesN 32)}
      (hkept : kept.Sublist (queue s)) (hmarked : ∀ id, Marked env (s.message id) (messages id))
      (hgone : ∀ id ∈ queue s, id ∉ kept → ∀ m, messages id = some m → is_live m.status = false) :
      Change P env s { s with message := messages, message_queue := some kept }

/-- What an accepted send does. -/
structure Sends [RelayHost] (env : Env) (s : RelayStorage) (r : Sent) (message : CrossChainMessage)
    (s' : RelayStorage) : Prop where
  bytes : r.bytes = message_bytes message.source_chain message.dest_chain r.sender message.payload r.nonce
    env.timestamp
  fits : (RelayHost.to_string r.sender).length ≤ 56
  hash : r.message_id = RelayHost.sha256 r.bytes
  nonce : r.nonce = get_nonce s r.sender
  pending : message.status = .Pending
  message_eq : s'.message = Function.update s.message r.message_id (some message)
  queue_eq : queue s' = (queue s).insertIdx ((queue s).findIdx (outranked (set_message r.message_id message s)
    (message_priority_value message.priority))) r.message_id
  nonce_eq : s'.nonce = Function.update s.nonce r.sender (some (saturating_add_u64 r.nonce 1))
  operator_eq : s'.operator = s.operator
  list_eq : s'.operator_list = s.operator_list
  relayed_eq : s'.total_relayed = s.total_relayed

/-- A small step of a successful call. -/
inductive Act [RelayHost] (P : MessageStatus → Prop) (env : Env) (w : World) : World → Prop
  | changed {s' : RelayStorage} (h : Change P env w.storage s') : Act P env w ⟨s', w.sent⟩
  | sent {r : Sent} {message : CrossChainMessage} {s' : RelayStorage} (h : Sends env w.storage r message s') :
      Act P env w ⟨s', w.sent ++ [r]⟩

/-! ## What the functions do -/

section Inversion

variable {env : Env} {s s' : RelayStorage} {u : Unit} {operator : Address} {message_id : BytesN 32}
variable {P : MessageStatus → Prop}

theorem set_message_message {message : CrossChainMessage} :
    (set_message message_id message s).message = Function.update s.message message_id (some message) := rfl

@[simp] theorem require_initialized_eq_ok : require_initialized s = .ok u ↔ s.initialized.isSome = true := by
  rw [require_initialized, reject_if_eq_ok]
  cases s.initialized <;> simp

@[simp] theorem require_admin_eq_ok :
    require_admin env s = .ok u ↔
      s.initialized.isSome = true ∧ ∃ admin, s.admin = some admin ∧ env.auth admin = true := by
  simp only [require_admin, Call.bind_eq_ok, require_initialized_eq_ok, ok_or_eq_ok, require_auth_eq_ok,
    exists_const]

/-- What an item of a batch does: nothing, or it marks its message, or it relays it. -/
theorem relay_message_internal_cases [RelayHost] (env : Env) (operator : Address) (message_id : BytesN 32)
    (signature : BytesN 64) (s : RelayStorage) :
    (∃ e, relay_message_internal env operator message_id signature s = (.error e, s)) ∨
    (∃ relay_operator message, s.operator operator = some relay_operator ∧ relay_operator.is_active = true ∧
      s.message message_id = some message ∧ is_expired env message = true ∧
      relay_message_internal env operator message_id signature s =
        (.error .MessageExpired, set_message message_id { message with status := .Expired } s)) ∨
    ∃ relay_operator message, s.operator operator = some relay_operator ∧ relay_operator.is_active = true ∧
      s.message message_id = some message ∧ is_expired env message = false ∧ is_live message.status = true ∧
      relay_message_internal env operator message_id signature s =
        (.ok true, relayed s operator relay_operator message_id message) := by
  unfold relay_message_internal
  cases hoperator : s.operator operator with
  | none => exact Or.inl ⟨_, rfl⟩
  | some relay_operator =>
      by_cases hactive : relay_operator.is_active = false
      · simp only [if_pos hactive]
        exact Or.inl ⟨_, rfl⟩
      · simp only [if_neg hactive]
        have hactive := (Bool.not_eq_false _).mp hactive
        cases hmessage : s.message message_id with
        | none => exact Or.inl ⟨_, rfl⟩
        | some message =>
            by_cases hexpired : is_expired env message = true
            · simp only [if_pos hexpired]
              exact Or.inr (Or.inl ⟨relay_operator, message, rfl, hactive, rfl, hexpired, rfl⟩)
            · simp only [if_neg hexpired]
              by_cases hdead : message.status ≠ .Pending ∧ message.status ≠ .Verified
              · simp only [if_pos hdead]
                exact Or.inl ⟨_, rfl⟩
              · simp only [if_neg hdead]
                have hlive : is_live message.status = true := by
                  rw [is_live, Bool.or_eq_true, decide_eq_true_iff, decide_eq_true_iff]
                  by_contra hnot
                  exact hdead (not_or.mp hnot)
                by_cases hsignature :
                    verify_operator_signature message_id relay_operator.public_key signature = false
                · simp only [if_pos hsignature]
                  exact Or.inl ⟨_, rfl⟩
                · simp only [if_neg hsignature]
                  exact Or.inr (Or.inr ⟨relay_operator, message, rfl, hactive, rfl,
                    Bool.eq_false_iff.mpr hexpired, hlive, rfl⟩)

theorem relay_message_change [RelayHost] {signature : BytesN 64} {ok : Bool}
    (h : relay_message env operator message_id signature s = .ok (ok, s')) :
    s.initialized.isSome = true ∧ s'.initialized = s.initialized ∧ Change P env s s' := by
  simp only [relay_message, Call.bind_eq_ok, require_initialized_eq_ok, require_auth_eq_ok, exists_const] at h
  obtain ⟨hinit, -, h⟩ := h
  rcases relay_message_internal_cases env operator message_id signature s with
    ⟨e, heq⟩ | ⟨relay_operator, message, -, -, -, -, heq⟩ |
      ⟨relay_operator, message, hoperator, -, hmessage, hunexpired, hlive, heq⟩
  · rw [heq] at h
    cases h
  · rw [heq] at h
    cases h
  · rw [heq] at h
    cases h
    exact ⟨hinit, rfl, .relayed hoperator hmessage hunexpired hlive⟩

theorem verify_message_change [RelayHost] {proof : StateProof} {ok : Bool}
    (h : verify_message env message_id proof s = .ok (ok, s')) :
    s.initialized.isSome = true ∧ s'.initialized = s.initialized ∧ Change P env s s' := by
  simp only [verify_message, get_message_or_err, Call.bind_eq_ok, require_initialized_eq_ok, ok_or_eq_ok,
    reject_if_eq_ok, Call.pure_eq_ok, Prod.mk.injEq, exists_const, not_not] at h
  obtain ⟨hinit, message, hmessage, -, hpending, -, proof_ok, -, -, -, rfl⟩ := h
  exact ⟨hinit, rfl, .verified hmessage hpending⟩

theorem hash_message_eq_ok [RelayHost] {source_chain dest_chain : ChainId} {sender : Address} {payload : Buffer}
    {nonce timestamp : U64} :
    hash_message source_chain dest_chain sender payload nonce timestamp = .ok message_id ↔
      (RelayHost.to_string sender).length ≤ 56 ∧ message_id =
        RelayHost.sha256 (message_bytes source_chain dest_chain sender payload nonce timestamp) := by
  unfold hash_message
  by_cases hlong : 56 < (RelayHost.to_string sender).length
  · rw [if_pos hlong]
    exact ⟨nofun, fun h => absurd h.1 (Nat.not_le.mpr hlong)⟩
  · rw [if_neg hlong, Except.ok.injEq]
    exact ⟨fun h => ⟨Nat.not_lt.mp hlong, h.symm⟩, fun h => h.2.symm⟩

theorem insert_queue_eq_ok :
    insert_queue_by_priority message_id s = .ok s' ↔ ∃ message, s.message message_id = some message ∧
      s' = { s with message_queue := some ((queue s).insertIdx ((queue s).findIdx
        (outranked s (message_priority_value message.priority))) message_id) } := by
  simp only [insert_queue_by_priority, get_message_or_err, Call.bind_eq_ok, ok_or_eq_ok, Call.pure_eq_ok]

theorem send_message_sends [RelayHost] {source_chain dest_chain : ChainId} {sender : Address} {payload : Buffer}
    {nonce ttl_override : U64} {priority : MessagePriority} {fee_paid : BitVec 128}
    (h : send_message env source_chain dest_chain sender payload nonce priority ttl_override fee_paid s =
      .ok (message_id, s')) :
    s.initialized.isSome = true ∧ s'.initialized = s.initialized ∧ ∃ message, Sends env s
      ⟨sender, nonce, message_bytes source_chain dest_chain sender payload nonce env.timestamp, message_id⟩
      message s' := by
  simp only [send_message, Call.bind_eq_ok, require_initialized_eq_ok, require_auth_eq_ok, reject_if_eq_ok,
    ok_or_eq_ok, Call.pure_eq_ok, Prod.mk.injEq, exists_const, not_not] at h
  obtain ⟨hinit, -, -, config, -, -, hnonce, -, default_ttl, -, -, id, hhash, s₁, hinsert, rfl, rfl⟩ := h
  obtain ⟨hfits, hhash⟩ := hash_message_eq_ok.mp hhash
  obtain ⟨message, hmessage, rfl⟩ := insert_queue_eq_ok.mp hinsert
  have heq := Option.some.inj (hmessage.symm.trans (Function.update_self _ _ _))
  refine ⟨hinit, rfl, message, ?_⟩
  subst heq
  constructor
  · rfl
  · exact hfits
  · exact hhash
  · exact hnonce
  · rfl
  · rfl
  · rfl
  · exact congrArg (fun n => Function.update s.nonce sender (some (saturating_add_u64 n 1))) hnonce.symm
  · rfl
  · rfl
  · rfl

theorem Marked.trans {o o' o'' : Option CrossChainMessage} (h : Marked env o o') (h' : Marked env o' o'') :
    Marked env o o'' := by
  rcases h' with rfl | ⟨m, hm, hlive, hexpired, rfl⟩
  · exact h
  · rcases h with rfl | ⟨m', hm', hlive', hexpired', heq⟩
    · exact Or.inr ⟨m, hm, hlive, hexpired, rfl⟩
    · rw [hm, Option.some.injEq] at heq
      rw [heq] at hlive
      cases hlive

/-- What is not live is not marked. -/
theorem Marked.dead {o o' : Option CrossChainMessage} (h : Marked env o o')
    (ho : ∀ m, o = some m → is_live m.status = false) : ∀ m, o' = some m → is_live m.status = false := by
  rcases h with rfl | ⟨m, hm, hlive, hexpired, rfl⟩
  · exact ho
  · rw [ho m hm] at hlive
    cases hlive

/-- A cleanup marks the entry that it passes, if it is live and its time has passed. -/
theorem mark_expired_spec (env : Env) (id : BytesN 32) (s : RelayStorage) :
    ∃ messages, mark_expired env id s = { s with message := messages } ∧
      (∀ id', Marked env (s.message id') (messages id')) ∧
      (is_stale env s id = true → ∀ m, messages id = some m → is_live m.status = false) := by
  unfold mark_expired is_stale
  cases hmessage : s.message id with
  | none =>
      refine ⟨s.message, rfl, fun id' => Or.inl rfl, fun _ m hm => ?_⟩
      rw [hmessage] at hm
      cases hm
  | some msg =>
      by_cases hpassed : (is_expired env msg && is_live msg.status) = true
      · refine ⟨_, if_pos hpassed, fun id' => ?_, fun _ m hm => ?_⟩
        · by_cases hid : id' = id
          · rw [Bool.and_eq_true] at hpassed
            rw [hid, Function.update_self]
            exact Or.inr ⟨msg, hmessage, hpassed.2, hpassed.1, rfl⟩
          · rw [Function.update_of_ne hid]
            exact Or.inl rfl
        · rw [Function.update_self, Option.some.injEq] at hm
          rw [← hm]
          rfl
      · refine ⟨s.message, if_neg hpassed, fun id' => Or.inl rfl, fun hstale m hm => ?_⟩
        obtain rfl := Option.some.inj (hmessage.symm.trans hm)
        have hstale : (is_expired env msg && is_live msg.status || (msg.status = .Relayed || msg.status = .Expired)) =
            true := hstale
        rw [Bool.eq_false_iff.mpr hpassed, Bool.false_or, Bool.or_eq_true, decide_eq_true_iff,
          decide_eq_true_iff] at hstale
        rcases hstale with hstatus | hstatus <;> rw [hstatus] <;> rfl

/-- What the scan of a cleanup does. -/
theorem cleanup_scan_spec (env : Env) (ids : List (BytesN 32)) (left : ℕ) (s : RelayStorage) :
    (cleanup_scan env ids left s).1.Sublist ids ∧
      ∃ messages, (cleanup_scan env ids left s).2.2 = { s with message := messages } ∧
        (∀ id, Marked env (s.message id) (messages id)) ∧
        ∀ id ∈ ids, id ∉ (cleanup_scan env ids left s).1 → ∀ m, messages id = some m → is_live m.status = false := by
  induction ids generalizing left s with
  | nil =>
      refine ⟨List.Sublist.refl _, s.message, rfl, fun id => Or.inl rfl, fun id hid => ?_⟩
      cases hid
  | cons id _ ih =>
      cases left with
      | zero => exact ⟨List.Sublist.refl _, s.message, rfl, fun id => Or.inl rfl, fun id' hid hnot => absurd hid hnot⟩
      | succ left =>
          rw [cleanup_scan]
          by_cases hstale : is_stale env s id = true
          · rw [if_pos hstale]
            obtain ⟨messages, hmark, hmarked, hdead⟩ := mark_expired_spec env id s
            obtain ⟨hkept, messages', hs, hmarked', hgone⟩ := ih (left + 1) (mark_expired env id s)
            rw [hmark] at hkept hs hmarked' hgone ⊢
            refine ⟨hkept.cons id, messages', hs, fun id' => (hmarked id').trans (hmarked' id'), ?_⟩
            intro id' hid' hnot
            rcases List.mem_cons.mp hid' with rfl | hmem
            · exact (hmarked' id').dead (hdead hstale)
            · exact hgone id' hmem hnot
          · rw [if_neg hstale]
            obtain ⟨hkept, messages, hs, hmarked, hgone⟩ := ih left s
            refine ⟨hkept.cons_cons id, messages, hs, hmarked, ?_⟩
            intro id' hid' hnot
            obtain ⟨hne, hnot⟩ := not_or.mp (List.mem_cons.not.mp hnot)
            exact hgone id' ((List.mem_cons.mp hid').resolve_left hne) hnot

theorem cleanup_change [RelayHost] {max_items count : U32} (h : cleanup_expired_messages env max_items s = .ok (count, s')) :
    s.initialized.isSome = true ∧ s'.initialized = s.initialized ∧ Change P env s s' := by
  simp only [cleanup_expired_messages, Call.bind_eq_ok, require_initialized_eq_ok, Call.ite_eq_ok,
    Call.pure_eq_ok, Prod.mk.injEq, exists_const] at h
  obtain ⟨hinit, ⟨-, -, rfl⟩ | ⟨-, -, rfl⟩⟩ := h
  · exact ⟨hinit, rfl, .configured rfl rfl rfl rfl rfl rfl⟩
  · obtain ⟨hkept, messages, hs, hmarked, hgone⟩ := cleanup_scan_spec env (queue s) max_items.toNat s
    rw [hs]
    exact ⟨hinit, rfl, .cleaned hkept hmarked hgone⟩

/-! ## Batches -/

/-- The messages of the items whose time has passed have a status of which `P` holds. -/
def SparesItems (P : MessageStatus → Prop) (env : Env) (s : RelayStorage) (items : List BatchRelayItem) : Prop :=
  ∀ item ∈ items, ∀ m, s.message item.message_id = some m → is_expired env m = true → P m.status

/-- What an item does to the storage, and to the messages whose time has passed. -/
theorem relay_item_changes [RelayHost] (hP : P .Expired) {b : BatchProgress} {item : BatchRelayItem}
    {items : List BatchRelayItem}
    (hspares : (b.storage.operator operator).any RelayOperator.is_active = true →
      SparesItems P env b.storage (item :: items)) :
    Relation.ReflTransGen (Change P env) b.storage (relay_item env operator b item).storage ∧
      (relay_item env operator b item).storage.initialized = b.storage.initialized ∧
      (((relay_item env operator b item).storage.operator operator).any RelayOperator.is_active = true →
        SparesItems P env (relay_item env operator b item).storage items) := by
  unfold relay_item
  rcases relay_message_internal_cases env operator item.message_id item.signature b.storage with
    ⟨e, heq⟩ | ⟨relay_operator, message, hoperator, hactive, hmessage, hexpired, heq⟩ |
      ⟨relay_operator, message, hoperator, hactive, hmessage, hunexpired, hlive, heq⟩
  · simp only [heq]
    exact ⟨.refl, trivial, fun h item' hitem' => hspares h item' (List.mem_cons_of_mem _ hitem')⟩
  · simp only [heq]
    have hspares := hspares (by rw [hoperator]; exact hactive)
    refine ⟨.single (.expired hmessage hexpired (hspares item List.mem_cons_self message hmessage hexpired)), rfl, ?_⟩
    intro _ item' hitem' m hm hm'
    by_cases hid : item'.message_id = item.message_id
    · rw [hid, set_message_message, Function.update_self, Option.some.injEq] at hm
      rw [← hm]
      exact hP
    · rw [set_message_message, Function.update_of_ne hid] at hm
      exact hspares item' (List.mem_cons_of_mem _ hitem') m hm hm'
  · simp only [heq]
    have hspares := hspares (by rw [hoperator]; exact hactive)
    refine ⟨.single (.relayed hoperator hmessage hunexpired hlive), rfl, ?_⟩
    intro _ item' hitem' m hm hm'
    have hm : Function.update b.storage.message item.message_id (some { message with status := .Relayed })
        item'.message_id = some m := hm
    by_cases hid : item'.message_id = item.message_id
    · rw [hid, Function.update_self, Option.some.injEq] at hm
      have hsame : is_expired env m = is_expired env message := by rw [← hm]; rfl
      rw [hsame, hunexpired] at hm'
      cases hm'
    · rw [Function.update_of_ne hid] at hm
      exact hspares item' (List.mem_cons_of_mem _ hitem') m hm hm'

theorem batch_changes [RelayHost] (hP : P .Expired) {b : BatchProgress} {items : List BatchRelayItem}
    (hspares : (b.storage.operator operator).any RelayOperator.is_active = true →
      SparesItems P env b.storage items) :
    Relation.ReflTransGen (Change P env) b.storage (items.foldl (relay_item env operator) b).storage ∧
      (items.foldl (relay_item env operator) b).storage.initialized = b.storage.initialized := by
  induction items generalizing b with
  | nil => exact ⟨.refl, rfl⟩
  | cons _ _ ih =>
      obtain ⟨hchange, hinit, hspares⟩ := relay_item_changes hP hspares
      obtain ⟨hchanges, hinit'⟩ := ih hspares
      exact ⟨hchange.trans hchanges, hinit'.trans hinit⟩

end Inversion

/-! ## What a successful call does -/

/-- Nothing is stored before the initialization. -/
def Started (s : RelayStorage) : Prop := s.initialized = none → s = empty_storage

/-- A batch that is carried out writes to no message whose time has passed, but where `P` holds of its status. -/
def Spares (P : MessageStatus → Prop) (w : World) (call : Env × EntryPoint) : Prop :=
  match call.2 with
  | .batch_relay operator items => call.1.auth operator = true →
      (w.storage.operator operator).any RelayOperator.is_active = true → SparesItems P call.1 w.storage items
  | _ => True

instance (P : MessageStatus → Prop) [DecidablePred P] (env : Env) (s : RelayStorage) (items : List BatchRelayItem) :
    Decidable (SparesItems P env s items) :=
  decidable_of_iff
    (items.all (fun item => (s.message item.message_id).all fun m => !is_expired env m || decide (P m.status)) = true)
    (by simp [SparesItems, Option.all_eq_true, or_iff_not_imp_left])

instance (P : MessageStatus → Prop) [DecidablePred P] (w : World) (call : Env × EntryPoint) :
    Decidable (Spares P w call) := by
  unfold Spares
  split <;> infer_instance

section Steps

variable [RelayHost] {P : MessageStatus → Prop} {env : Env} {w : World} {call : EntryPoint} {answer : Answer}
variable {s s' : RelayStorage}

theorem started_of_eq (hinit : s.initialized.isSome = true) (heq : s'.initialized = s.initialized) : Started s' := by
  intro hnone
  rw [← heq, hnone] at hinit
  cases hinit

/-- **What a successful call does.** -/
theorem acts_of_exec (hP : P .Expired) (hs : Started w.storage) (hspares : Spares P w (env, call))
    (h : exec env w.storage call = .ok (answer, s')) :
    Relation.ReflTransGen (Act P env) w ⟨s', w.sent ++ sent_by env answer call⟩ ∧ Started s' := by
  have hquiet : ∀ {s' sent}, Relation.ReflTransGen (Change P env) w.storage s' → sent = [] →
      Relation.ReflTransGen (Act P env) w ⟨s', w.sent ++ sent⟩ := by
    rintro s' sent hchanges rfl
    rw [List.append_nil]
    exact hchanges.lift (fun s => (⟨s, w.sent⟩ : World)) fun _ _ hchange => .changed hchange
  cases call with
  | send_message =>
      simp only [exec, Call.bind_eq_ok, Call.pure_eq_ok, Prod.mk.injEq] at h
      obtain ⟨⟨id, s₁⟩, hsend, rfl, rfl⟩ := h
      obtain ⟨hinit, heq, message, hsends⟩ := send_message_sends hsend
      exact ⟨.single (.sent hsends), started_of_eq hinit heq⟩
  | verify_message =>
      simp only [exec, Call.bind_eq_ok, Call.pure_eq_ok, Prod.mk.injEq] at h
      obtain ⟨⟨ok, s₁⟩, hverify, rfl, rfl⟩ := h
      obtain ⟨hinit, heq, hchange⟩ := verify_message_change hverify
      exact ⟨hquiet (.single hchange) rfl, started_of_eq hinit heq⟩
  | relay_message =>
      simp only [exec, Call.bind_eq_ok, Call.pure_eq_ok, Prod.mk.injEq] at h
      obtain ⟨⟨ok, s₁⟩, hrelay, rfl, rfl⟩ := h
      obtain ⟨hinit, heq, hchange⟩ := relay_message_change hrelay
      exact ⟨hquiet (.single hchange) rfl, started_of_eq hinit heq⟩
  | batch_relay =>
      simp only [exec, batch_relay, Call.bind_eq_ok, Call.pure_eq_ok, Prod.mk.injEq, require_initialized_eq_ok,
        require_auth_eq_ok, reject_if_eq_ok, exists_const] at h
      obtain ⟨⟨result, s₁⟩, ⟨hinit, hauth, -, rfl, rfl⟩, rfl, rfl⟩ := h
      obtain ⟨hchanges, heq⟩ := batch_changes (b := ⟨0, 0, [], w.storage⟩) hP (hspares hauth)
      exact ⟨hquiet hchanges rfl, started_of_eq hinit heq⟩
  | cleanup_expired_messages =>
      simp only [exec, Call.bind_eq_ok, Call.pure_eq_ok, Prod.mk.injEq] at h
      obtain ⟨⟨count, s₁⟩, hcleanup, rfl, rfl⟩ := h
      obtain ⟨hinit, heq, hchange⟩ := cleanup_change hcleanup
      exact ⟨hquiet (.single hchange) rfl, started_of_eq hinit heq⟩
  | initialize_relay =>
      simp only [exec, initialize_relay, Call.bind_eq_ok, Call.pure_eq_ok, Prod.mk.injEq, reject_if_eq_ok,
        require_auth_eq_ok, exists_const, Bool.not_eq_true, Option.isSome_eq_false_iff, Option.isNone_iff_eq_none] at h
      obtain ⟨s₁, ⟨-, hnone, -, rfl⟩, rfl, rfl⟩ := h
      have hempty := hs hnone
      refine ⟨hquiet (.single (.configured rfl ?_ rfl rfl ?_ ?_)) rfl, fun hnone => by cases hnone⟩
      · rw [hempty]
        rfl
      · rw [hempty]
        rfl
      · rw [hempty]
        rfl
  | configure_chain =>
      simp only [exec, configure_chain, Call.bind_eq_ok, Call.pure_eq_ok, Prod.mk.injEq, require_admin_eq_ok,
        exists_const] at h
      obtain ⟨s₁, ⟨⟨hinit, -⟩, rfl⟩, rfl, rfl⟩ := h
      exact ⟨hquiet (.single (.configured rfl rfl rfl rfl rfl rfl)) rfl, started_of_eq hinit rfl⟩
  | register_relay_operator =>
      simp only [exec, register_relay_operator, Call.bind_eq_ok, Call.pure_eq_ok, Prod.mk.injEq, require_admin_eq_ok,
        reject_if_eq_ok, exists_const, Bool.not_eq_true, Option.isSome_eq_false_iff, Option.isNone_iff_eq_none] at h
      obtain ⟨s₁, ⟨⟨hinit, -⟩, hnew, rfl⟩, rfl, rfl⟩ := h
      exact ⟨hquiet (.single (.registered hnew rfl)) rfl, started_of_eq hinit rfl⟩
  | deactivate_relay_operator =>
      simp only [exec, deactivate_relay_operator, Call.bind_eq_ok, Call.pure_eq_ok, Prod.mk.injEq,
        require_admin_eq_ok, ok_or_eq_ok, exists_const] at h
      obtain ⟨s₁, ⟨⟨hinit, -⟩, relay_operator, hoperator, rfl⟩, rfl, rfl⟩ := h
      exact ⟨hquiet (.single (.deactivated hoperator)) rfl, started_of_eq hinit rfl⟩

theorem acts_invariant {I : World → Prop} {w' : World} (hact : ∀ {w w'}, I w → Act P env w w' → I w') (hw : I w)
    (h : Relation.ReflTransGen (Act P env) w w') : I w' := by
  induction h with
  | refl => exact hw
  | tail _ hlast ih => exact hact ih hlast

/-- **The invariant rule for runs of the relay.** -/
theorem run_invariant_from {I : World → Prop} (hP : P .Expired) (hact : ∀ {env w w'}, I w → Act P env w w' → I w')
    {calls : List (Env × EntryPoint)} (hs : Started w.storage) (hw : I w)
    (hcalls : Runs.Along step (Spares P) w calls) :
    Started (Runs.run step w calls).storage ∧ I (Runs.run step w calls) := by
  refine Runs.run_invariant (I := fun w => Started w.storage ∧ I w) ?_ ⟨hs, hw⟩ hcalls
  rintro w ⟨env, call⟩ ⟨hs, hw⟩ hspares
  unfold step
  split
  · next answer s' hexec =>
      obtain ⟨hacts, hs'⟩ := acts_of_exec hP hs hspares hexec
      exact ⟨hs', acts_invariant hact hw hacts⟩
  · exact ⟨hs, hw⟩

theorem run_invariant {I : World → Prop} (hP : P .Expired)
    (hact : ∀ {env w w'}, I w → Act P env w w' → I w') (hempty : I ⟨empty_storage, []⟩)
    {calls : List (Env × EntryPoint)} (hcalls : Runs.Along step (Spares P) ⟨empty_storage, []⟩ calls) :
    Started (run calls).storage ∧ I (run calls) :=
  run_invariant_from hP hact (fun _ => rfl) hempty hcalls

/-- The rule for what every small step keeps. -/
theorem run_invariant_all {I : World → Prop}
    (hact : ∀ {env w w'}, I w → Act (fun _ => True) env w w' → I w') (hempty : I ⟨empty_storage, []⟩)
    {calls : List (Env × EntryPoint)} : I (run calls) :=
  (run_invariant trivial hact hempty (Runs.Along.of_forall fun w call => by
    unfold Spares
    split
    · exact fun _ _ _ _ _ _ _ => trivial
    · exact trivial)).2

end Steps

end BridgeWatch.Relay

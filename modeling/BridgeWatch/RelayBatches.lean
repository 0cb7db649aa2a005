/-
Batches of the relay against single calls.

A batch catches the error of an item and keeps what the item has written; a single call that fails is rolled
back. The only thing that an item writes before it fails is the mark of a message whose time has passed. So
a batch leaves what the single calls leave, with these messages marked, and counts what they count.
-/
import BridgeWatch.RelayTotals

set_option autoImplicit false

namespace BridgeWatch.Relay

open Contract (U32 Address Env saturating_add_u32)

/-! ## One call after another -/

/-- What single calls have come to: the storage, and the ids of the items that went through and that failed. -/
structure Turns where
  storage : RelayStorage
  succeeded : List (BytesN 32)
  failed : List (BytesN 32)

section

variable [RelayHost] (env : Env) (operator : Address)

/-- A call of `relay_message` for an item. -/
def relay_next (t : Turns) (item : BatchRelayItem) : Turns :=
  match relay_message env operator item.message_id item.signature t.storage with
  | .ok (_, s) => { t with storage := s, succeeded := t.succeeded ++ [item.message_id] }
  | .error _ => { t with failed := t.failed ++ [item.message_id] }

def relay_in_turn (s : RelayStorage) (items : List BatchRelayItem) : Turns :=
  items.foldl (relay_next env operator) ⟨s, [], []⟩

/-- A batch leaves what single calls leave, and counts what they count. -/
structure Refines (s : RelayStorage) (items : List BatchRelayItem) : Prop where
  storage : commit s (batch_relay env operator items s) = (relay_in_turn env operator s items).storage
  result : ∀ result s', batch_relay env operator items s = .ok (result, s') →
    result.success_count.toNat = (relay_in_turn env operator s items).succeeded.length ∧
      result.failure_count.toNat = (relay_in_turn env operator s items).failed.length ∧
        result.relayed_ids = (relay_in_turn env operator s items).succeeded

end

/-! ## Marks -/

/-- The operator is stored and active. -/
def operator_active (s : RelayStorage) (operator : Address) : Bool :=
  (s.operator operator).any RelayOperator.is_active

/-- A batch that names `done` marks the message. -/
def marks (env : Env) (operator : Address) (done : List BatchRelayItem) (s : RelayStorage) (id : BytesN 32)
    (m : CrossChainMessage) : Bool :=
  operator_active s operator && is_expired env m && done.any fun item => item.message_id = id

/-- The storage with the marks of the items of `done`. -/
def marked (env : Env) (operator : Address) (done : List BatchRelayItem) (s : RelayStorage) : RelayStorage :=
  { s with message := fun id => (s.message id).map fun m =>
      if marks env operator done s id m then { m with status := .Expired } else m }

section

variable {env : Env} {operator : Address} {done items : List BatchRelayItem} {item : BatchRelayItem}
variable {s : RelayStorage} {message : CrossChainMessage} {relay_operator : RelayOperator}

/-- The message under an id, with its mark. -/
theorem marked_message {id : BytesN 32} (h : s.message id = some message) :
    (marked env operator done s).message id =
      some (if marks env operator done s id message then { message with status := .Expired } else message) := by
  show (s.message id).map _ = _
  rw [h]
  rfl

theorem marked_none {id : BytesN 32} (h : s.message id = none) : (marked env operator done s).message id = none := by
  show (s.message id).map _ = _
  rw [h]
  rfl

/-- The messages are all that a mark can change. -/
theorem eq_marked {t : RelayStorage} (hrest : t = { s with message := t.message })
    (h : ∀ id, t.message id = (marked env operator done s).message id) : t = marked env operator done s := by
  rw [hrest, funext h]
  rfl

theorem marked_nil : marked env operator [] s = s := by
  refine (eq_marked rfl fun id => ?_).symm
  cases hm : s.message id with
  | none => exact (marked_none hm).symm
  | some m =>
      have hmarks : marks env operator [] s id m = false := Bool.and_false _
      rw [marked_message hm, hmarks]
      rfl

/-- The marks are all that counts. -/
theorem marked_congr {done' : List BatchRelayItem}
    (h : ∀ id m, s.message id = some m → marks env operator done' s id m = marks env operator done s id m) :
    marked env operator done' s = marked env operator done s := by
  refine eq_marked rfl fun id => ?_
  cases hm : s.message id with
  | none => rw [marked_none hm, marked_none hm]
  | some m => rw [marked_message hm, marked_message hm, h id m hm]

/-- The last item marks its own message, if it marks one. -/
theorem marks_append {id : BytesN 32} :
    marks env operator (done ++ [item]) s id message = (marks env operator done s id message ||
      operator_active s operator && is_expired env message && decide (item.message_id = id)) := by
  rw [marks, marks, List.any_append, List.any_cons, List.any_nil, Bool.or_false, Bool.and_or_distrib_left]

theorem marks_of_quiet {id : BytesN 32} (h : (operator_active s operator && is_expired env message) = false) :
    marks env operator done s id message = false := by
  rw [marks, h]
  rfl

/-- Nothing is marked when every message that would be is marked already. -/
theorem marked_eq_self_iff :
    marked env operator items s = s ↔ ∀ id m, s.message id = some m → marks env operator items s id m = true →
      m.status = .Expired := by
  constructor
  · intro h id m hm hmarks
    have hsame : (marked env operator items s).message id = some m := by rw [h, hm]
    rw [marked_message hm, if_pos hmarks, Option.some.injEq] at hsame
    rw [← hsame]
  · intro h
    refine (eq_marked rfl fun id => ?_).symm
    cases hm : s.message id with
    | none => exact (marked_none hm).symm
    | some m =>
        rw [marked_message hm, Option.some.injEq]
        split
        · next hmarks => rw [← h id m hm hmarks]
        · rfl

/-! ## One item -/

/-- Where an item marks nothing, only its own message and the operators decide on it. -/
theorem relay_message_internal_congr [RelayHost] {s' : RelayStorage} {message_id : BytesN 32} {signature : BytesN 64}
    (hoperator : s'.operator = s.operator) (hmessage : s'.message message_id = s.message message_id)
    (hquiet : ∀ m, s.message message_id = some m → (operator_active s operator && is_expired env m) = false) :
    (∃ e, relay_message_internal env operator message_id signature s = (.error e, s) ∧
      relay_message_internal env operator message_id signature s' = (.error e, s')) ∨
    ∃ relay_operator m, s.operator operator = some relay_operator ∧ relay_operator.is_active = true ∧
      s.message message_id = some m ∧
      relay_message_internal env operator message_id signature s =
        (.ok true, relayed s operator relay_operator message_id m) ∧
      relay_message_internal env operator message_id signature s' =
        (.ok true, relayed s' operator relay_operator message_id m) := by
  unfold relay_message_internal
  rw [hoperator, hmessage]
  cases hstored : s.operator operator with
  | none => exact Or.inl ⟨_, rfl, rfl⟩
  | some relay_operator =>
      by_cases hactive : relay_operator.is_active = false
      · simp only [if_pos hactive]
        exact Or.inl ⟨_, rfl, rfl⟩
      · simp only [if_neg hactive]
        have hactive := (Bool.not_eq_false _).mp hactive
        cases hm : s.message message_id with
        | none => exact Or.inl ⟨_, rfl, rfl⟩
        | some m =>
            have hunexpired := hquiet m hm
            rw [operator_active, hstored, Option.any_some, hactive, Bool.true_and] at hunexpired
            simp only [if_neg (Bool.eq_false_iff.mp hunexpired)]
            by_cases hdead : m.status ≠ .Pending ∧ m.status ≠ .Verified
            · simp only [if_pos hdead]
              exact Or.inl ⟨_, rfl, rfl⟩
            · simp only [if_neg hdead]
              by_cases hsignature : verify_operator_signature message_id relay_operator.public_key signature = false
              · simp only [if_pos hsignature]
                exact Or.inl ⟨_, rfl, rfl⟩
              · simp only [if_neg hsignature]
                exact Or.inr ⟨relay_operator, m, rfl, hactive, rfl, rfl, rfl⟩

theorem relay_message_internal_expired [RelayHost] {message_id : BytesN 32} {signature : BytesN 64}
    (hactive : operator_active s operator = true) (hmessage : s.message message_id = some message)
    (hexpired : is_expired env message = true) :
    relay_message_internal env operator message_id signature s =
      (.error .MessageExpired, set_message message_id { message with status := .Expired } s) := by
  obtain ⟨relay_operator, hstored, hactive⟩ := Option.any_eq_true _ _ |>.mp hactive
  rw [relay_message_internal, hstored]
  simp only [hactive, Bool.true_eq_false, if_false, hmessage, hexpired, if_true]

/-- An item that marks its message adds its mark. -/
theorem marked_append_of_marks (hm : s.message item.message_id = some message)
    (hmarks : (operator_active s operator && is_expired env message) = true) {m : CrossChainMessage}
    (hsame : ({ m with status := .Expired } : CrossChainMessage) = { message with status := .Expired }) :
    set_message item.message_id { m with status := .Expired } (marked env operator done s) =
      marked env operator (done ++ [item]) s := by
  refine eq_marked rfl fun id => ?_
  show Function.update (marked env operator done s).message item.message_id _ id = _
  by_cases hid : id = item.message_id
  · have hlast : marks env operator (done ++ [item]) s item.message_id message = true := by
      rw [marks_append, hmarks, decide_eq_true rfl, Bool.and_true, Bool.or_true]
    rw [hid, Function.update_self, marked_message hm, hlast, hsame]
    rfl
  · rw [Function.update_of_ne hid]
    cases hm' : s.message id with
    | none => rw [marked_none hm', marked_none hm']
    | some =>
        rw [marked_message hm', marked_message hm', marks_append, decide_eq_false (Ne.symm hid), Bool.and_false,
          Bool.or_false]

/-- An item that marks nothing adds nothing. -/
theorem marked_append_of_quiet
    (hquiet : ∀ m, s.message item.message_id = some m → (operator_active s operator && is_expired env m) = false) :
    marked env operator (done ++ [item]) s = marked env operator done s := by
  apply marked_congr
  intro id m hm
  rw [marks_append]
  by_cases hid : item.message_id = id
  · rw [hquiet m (hid ▸ hm), Bool.false_and, Bool.or_false]
  · rw [decide_eq_false hid, Bool.and_false, Bool.or_false]

/-- A message that is relayed has no mark, and the marks of the others stay. -/
theorem marked_relayed {message_id : BytesN 32} (hstored : s.operator operator = some relay_operator)
    (hunexpired : is_expired env message = false) :
    relayed (marked env operator done s) operator relay_operator message_id message =
      marked env operator done (relayed s operator relay_operator message_id message) := by
  refine eq_marked rfl fun id => ?_
  show Function.update (marked env operator done s).message message_id (some { message with status := .Relayed }) id = _
  have hmessage : ∀ id, (relayed s operator relay_operator message_id message).message id =
      Function.update s.message message_id (some { message with status := .Relayed }) id := fun _ => rfl
  have hactive : operator_active (relayed s operator relay_operator message_id message) operator =
      operator_active s operator := by
    show (Function.update s.operator operator _ operator).any _ = _
    rw [Function.update_self, operator_active, hstored]
    rfl
  by_cases hid : id = message_id
  · have hself := hmessage id
    rw [hid, Function.update_self] at hself
    rw [hid, Function.update_self, marked_message hself, marks_of_quiet]
    · rfl
    · have hsame : is_expired env { message with status := .Relayed } = is_expired env message := rfl
      rw [hsame, hunexpired, Bool.and_false]
  · have hother := hmessage id
    rw [Function.update_of_ne hid] at hother
    rw [Function.update_of_ne hid]
    cases hm : s.message id with
    | none => rw [marked_none (hother.trans hm), marked_none hm]
    | some => rw [marked_message (hother.trans hm), marked_message hm, marks, marks, hactive]

/-- An item of a batch that finds the marks of the items before it, and its single call. -/
theorem relay_message_internal_marked [RelayHost] (done : List BatchRelayItem) (item : BatchRelayItem)
    (s : RelayStorage) :
    (∃ e s' e', relay_message_internal env operator item.message_id item.signature s = (.error e, s') ∧
      relay_message_internal env operator item.message_id item.signature (marked env operator done s) =
        (.error e', marked env operator (done ++ [item]) s)) ∨
    ∃ s', relay_message_internal env operator item.message_id item.signature s = (.ok true, s') ∧
      s'.initialized = s.initialized ∧ relay_message_internal env operator item.message_id item.signature (marked env operator done s) =
        (.ok true, marked env operator (done ++ [item]) s') := by
  by_cases hmark : ∃ m, s.message item.message_id = some m ∧ (operator_active s operator && is_expired env m) = true
  · obtain ⟨m, hm, hmark⟩ := hmark
    obtain ⟨hactive, hexpired⟩ := Bool.and_eq_true_iff.mp hmark
    refine Or.inl ⟨_, _, .MessageExpired, relay_message_internal_expired hactive hm hexpired, ?_⟩
    · have hactive' : operator_active (marked env operator done s) operator = true := hactive
      have hexpired' : is_expired env
          (if marks env operator done s item.message_id m then { m with status := .Expired } else m) = true := by
        split
        · exact hexpired
        · exact hexpired
      rw [relay_message_internal_expired hactive' (marked_message hm) hexpired',
        marked_append_of_marks hm hmark (by split <;> rfl)]
  · have hquiet : ∀ m, s.message item.message_id = some m → (operator_active s operator && is_expired env m) = false :=
      fun m hm => Bool.eq_false_iff.mpr fun h => hmark ⟨m, hm, h⟩
    have hmessage : (marked env operator done s).message item.message_id = s.message item.message_id := by
      cases hm : s.message item.message_id with
      | none => exact marked_none hm
      | some m =>
          rw [marked_message hm, marks_of_quiet (hquiet m hm)]
          rfl
    have hoperator : (marked env operator done s).operator = s.operator := rfl
    rcases relay_message_internal_congr hoperator hmessage hquiet with
      ⟨e, hsingle, hbatch⟩ | ⟨relay_operator, m, hstored, hactive, hm, hsingle, hbatch⟩
    · refine Or.inl ⟨e, s, e, hsingle, ?_⟩
      rw [hbatch, marked_append_of_quiet hquiet]
    · have hunexpired := hquiet m hm
      rw [operator_active, hstored, Option.any_some, hactive, Bool.true_and] at hunexpired
      refine Or.inr ⟨_, hsingle, rfl, ?_⟩
      rw [hbatch, marked_relayed hstored hunexpired, marked_append_of_quiet]
      intro m' hm'
      have hself : (relayed s operator relay_operator item.message_id m).message item.message_id =
          some { m with status := .Relayed } := Function.update_self _ _ _
      rw [← Option.some.inj (hself.symm.trans hm')]
      have hsame : is_expired env { m with status := .Relayed } = is_expired env m := rfl
      rw [hsame, hunexpired, Bool.and_false]

/-! ## Whole batches -/

/-- A batch after `done`, and the single calls. -/
structure Tracks (env : Env) (operator : Address) (done : List BatchRelayItem) (b : BatchProgress) (t : Turns) :
    Prop where
  initialized : t.storage.initialized.isSome = true
  storage : b.storage = marked env operator done t.storage
  ids : b.relayed_ids = t.succeeded
  success : b.success_count.toNat = t.succeeded.length
  failure : b.failure_count.toNat = t.failed.length
  total : t.succeeded.length + t.failed.length = done.length

theorem toNat_saturating_succ_u32 {n : U32} (h : n.toNat + 1 < 2 ^ 32) : (saturating_add_u32 n 1).toNat = n.toNat + 1 := by
  have hone : UInt32.toNat 1 = 1 := rfl
  have hfits : n.toNat + UInt32.toNat 1 < 2 ^ 32 := by rw [hone]; exact h
  rw [saturating_add_u32, if_pos hfits, UInt32.toNat_add, hone, Nat.mod_eq_of_lt h]

section Outcomes

variable [RelayHost] {b : BatchProgress} {t : Turns} {s' : RelayStorage} {ok : Bool} {e : RelayError}

theorem relay_item_ok
    (h : relay_message_internal env operator item.message_id item.signature b.storage = (.ok ok, s')) :
    relay_item env operator b item = ⟨saturating_add_u32 b.success_count 1, b.failure_count,
      b.relayed_ids ++ [item.message_id], s'⟩ := by
  rw [relay_item, h]

theorem relay_item_error
    (h : relay_message_internal env operator item.message_id item.signature b.storage = (.error e, s')) :
    relay_item env operator b item =
      ⟨b.success_count, saturating_add_u32 b.failure_count 1, b.relayed_ids, s'⟩ := by
  rw [relay_item, h]

theorem relay_next_ok (hinit : t.storage.initialized.isSome = true) (hauth : env.auth operator = true)
    (h : relay_message_internal env operator item.message_id item.signature t.storage = (.ok ok, s')) :
    relay_next env operator t item = ⟨s', t.succeeded ++ [item.message_id], t.failed⟩ := by
  have hok : relay_message env operator item.message_id item.signature t.storage = .ok (ok, s') := by
    simp only [relay_message, Call.bind_eq_ok, require_initialized_eq_ok, require_auth_eq_ok, exists_const]
    rw [h]
    exact ⟨hinit, hauth, rfl⟩
  rw [relay_next, hok]

theorem relay_next_error
    (h : relay_message_internal env operator item.message_id item.signature t.storage = (.error e, s')) :
    relay_next env operator t item = ⟨t.storage, t.succeeded, t.failed ++ [item.message_id]⟩ := by
  rw [relay_next]
  cases hresult : relay_message env operator item.message_id item.signature t.storage with
  | error => rfl
  | ok =>
      simp only [relay_message, Call.bind_eq_ok, h] at hresult
      obtain ⟨-, -, -, -, hresult⟩ := hresult
      cases hresult

/-- Without the operator's authorisation, and before the initialization, every call fails. -/
theorem relay_next_refused (h : ¬(t.storage.initialized.isSome = true ∧ env.auth operator = true)) :
    relay_next env operator t item = ⟨t.storage, t.succeeded, t.failed ++ [item.message_id]⟩ := by
  rw [relay_next]
  cases hresult : relay_message env operator item.message_id item.signature t.storage with
  | error => rfl
  | ok =>
      simp only [relay_message, Call.bind_eq_ok, require_initialized_eq_ok, require_auth_eq_ok, exists_const] at hresult
      exact absurd ⟨hresult.1, hresult.2.1⟩ h

theorem Tracks.next (h : Tracks env operator done b t) (hauth : env.auth operator = true)
    (hlength : done.length + 1 < 2 ^ 32) :
    Tracks env operator (done ++ [item]) (relay_item env operator b item) (relay_next env operator t item) := by
  have htotal := h.total
  have hsuccess := h.success
  have hfailure := h.failure
  rcases relay_message_internal_marked done item t.storage with
    ⟨e, s₁, e', hsingle, hbatch⟩ | ⟨s₁, hsingle, hinit, hbatch⟩
  · rw [← h.storage] at hbatch
    rw [relay_item_error hbatch, relay_next_error hsingle]
    refine ⟨h.initialized, rfl, h.ids, hsuccess, ?_, ?_⟩
    · rw [toNat_saturating_succ_u32 (by omega), hfailure, List.length_append, List.length_singleton]
    · rw [List.length_append, List.length_append, List.length_singleton, List.length_singleton, ← htotal]
      exact (Nat.add_assoc _ _ _).symm
  · rw [← h.storage] at hbatch
    rw [relay_item_ok hbatch, relay_next_ok h.initialized hauth hsingle]
    refine ⟨?_, rfl, ?_, ?_, hfailure, ?_⟩
    · rw [hinit]
      exact h.initialized
    · rw [h.ids]
    · rw [toNat_saturating_succ_u32 (by omega), hsuccess, List.length_append, List.length_singleton]
    · rw [List.length_append, List.length_append, List.length_singleton, List.length_singleton, ← htotal]
      exact Nat.add_right_comm _ _ _

theorem Tracks.foldl (h : Tracks env operator done b t) (hauth : env.auth operator = true)
    (hlength : (done ++ items).length < 2 ^ 32) :
    Tracks env operator (done ++ items) (items.foldl (relay_item env operator) b)
      (items.foldl (relay_next env operator) t) := by
  induction items generalizing done b t with
  | nil => rw [List.append_nil]; exact h
  | cons _ _ ih =>
      rw [List.append_cons] at hlength ⊢
      have hshort : done.length + 1 < 2 ^ 32 := by
        rw [List.length_append, List.length_append, List.length_singleton] at hlength
        omega
      exact ih (h.next hauth hshort) hlength

end Outcomes

/-! ## What single calls leave -/

/-- The messages whose time has passed are the same, and the operator is active or not as before. -/
structure SameExpired (env : Env) (operator : Address) (s s' : RelayStorage) : Prop where
  active : operator_active s' operator = operator_active s operator
  message : ∀ id m, is_expired env m = true → (s'.message id = some m ↔ s.message id = some m)

section SingleCalls

variable [RelayHost] {t : Turns}

theorem relay_next_storage (env : Env) (operator : Address) (t : Turns) (item : BatchRelayItem) :
    (relay_next env operator t item).storage = t.storage ∨ ∃ relay_operator m,
      t.storage.operator operator = some relay_operator ∧ t.storage.message item.message_id = some m ∧
        is_expired env m = false ∧ (relay_next env operator t item).storage =
          relayed t.storage operator relay_operator item.message_id m := by
  rcases relay_message_internal_cases env operator item.message_id item.signature t.storage with
    ⟨e, heq⟩ | ⟨relay_operator, m, -, -, -, -, heq⟩ |
      ⟨relay_operator, m, hoperator, -, hm, hunexpired, -, heq⟩
  · rw [relay_next_error heq]
    exact Or.inl rfl
  · rw [relay_next_error heq]
    exact Or.inl rfl
  · by_cases haccepted : t.storage.initialized.isSome = true ∧ env.auth operator = true
    · rw [relay_next_ok haccepted.1 haccepted.2 heq]
      exact Or.inr ⟨relay_operator, m, hoperator, hm, hunexpired, rfl⟩
    · rw [relay_next_refused haccepted]
      exact Or.inl rfl

theorem SameExpired.next (h : SameExpired env operator s t.storage) (item : BatchRelayItem) :
    SameExpired env operator s (relay_next env operator t item).storage := by
  rcases relay_next_storage env operator t item with heq | ⟨relay_operator, message, hoperator, hmessage, hunexpired, heq⟩
  · rw [heq]
    exact h
  · rw [heq]
    refine ⟨?_, fun id m hexpired => ?_⟩
    · rw [← h.active]
      show (Function.update t.storage.operator operator _ operator).any _ = _
      rw [Function.update_self, operator_active, hoperator]
      rfl
    · rw [← h.message id m hexpired]
      show Function.update t.storage.message item.message_id (some { message with status := .Relayed }) id = _ ↔ _
      by_cases hid : id = item.message_id
      · rw [hid, Function.update_self, hmessage]
        have hsame : is_expired env { message with status := .Relayed } = is_expired env message := rfl
        refine ⟨fun heq => ?_, fun heq => ?_⟩
        · rw [← Option.some.inj heq, hsame, hunexpired] at hexpired
          cases hexpired
        · rw [← Option.some.inj heq, hunexpired] at hexpired
          cases hexpired
      · rw [Function.update_of_ne hid]

theorem SameExpired.foldl (h : SameExpired env operator s t.storage) :
    SameExpired env operator s (items.foldl (relay_next env operator) t).storage := by
  induction items generalizing t with
  | nil => exact h
  | cons item _ ih => exact ih (h.next item)

theorem relay_in_turn_refused (h : ¬(t.storage.initialized.isSome = true ∧ env.auth operator = true)) :
    (items.foldl (relay_next env operator) t).storage = t.storage := by
  induction items generalizing t with
  | nil => rfl
  | cons item _ ih =>
      have hnext : relay_next env operator t item = ⟨t.storage, t.succeeded, t.failed ++ [item.message_id]⟩ :=
        relay_next_refused h
      rw [List.foldl_cons, hnext]
      exact ih h

end SingleCalls

/-! ## When a batch is what single calls are -/

/-- A batch is carried out, and names a message whose time has passed and that has not been marked. -/
def MarksAny (env : Env) (operator : Address) (s : RelayStorage) (items : List BatchRelayItem) : Prop :=
  s.initialized.isSome = true ∧ env.auth operator = true ∧ operator_active s operator = true ∧
    ∃ item ∈ items, ∃ m, s.message item.message_id = some m ∧ is_expired env m = true ∧ m.status ≠ .Expired

section Batch

variable [RelayHost]

theorem batch_relay_eq (hinit : s.initialized.isSome = true) (hauth : env.auth operator = true) (hitems : items ≠ []) :
    batch_relay env operator items s =
      .ok (⟨(items.foldl (relay_item env operator) ⟨0, 0, [], s⟩).success_count,
        (items.foldl (relay_item env operator) ⟨0, 0, [], s⟩).failure_count,
        (items.foldl (relay_item env operator) ⟨0, 0, [], s⟩).relayed_ids⟩,
        (items.foldl (relay_item env operator) ⟨0, 0, [], s⟩).storage) := by
  simp only [batch_relay, Call.bind_eq_ok, require_initialized_eq_ok, require_auth_eq_ok, reject_if_eq_ok,
    Call.pure_eq_ok, exists_const]
  exact ⟨hinit, hauth, fun h => hitems (List.length_eq_zero_iff.mp h), trivial⟩

/-- A batch that is carried out leaves the storage of the single calls with its marks, and counts what they do. -/
theorem refines_iff_marked (hinit : s.initialized.isSome = true) (hauth : env.auth operator = true)
    (hitems : items ≠ []) (hlength : items.length < 2 ^ 32) :
    Refines env operator s items ↔ marked env operator items (relay_in_turn env operator s items).storage =
      (relay_in_turn env operator s items).storage := by
  have hstart : Tracks env operator [] ⟨0, 0, [], s⟩ ⟨s, [], []⟩ := ⟨hinit, marked_nil.symm, rfl, rfl, rfl, rfl⟩
  have htracks : Tracks env operator items (items.foldl (relay_item env operator) ⟨0, 0, [], s⟩)
      (relay_in_turn env operator s items) := hstart.foldl hauth hlength
  constructor
  · intro h
    have hstorage := h.storage
    rw [batch_relay_eq hinit hauth hitems, commit_ok, htracks.storage] at hstorage
    exact hstorage
  · intro h
    refine ⟨?_, fun result s' hresult => ?_⟩
    · rw [batch_relay_eq hinit hauth hitems, commit_ok, htracks.storage]
      exact h
    · rw [batch_relay_eq hinit hauth hitems, Except.ok.injEq, Prod.mk.injEq] at hresult
      rw [← hresult.1]
      exact ⟨htracks.success, htracks.failure, htracks.ids⟩

theorem refines_of_refused (h : ¬(s.initialized.isSome = true ∧ env.auth operator = true)) :
    Refines env operator s items := by
  have herror : ∀ result, batch_relay env operator items s ≠ .ok result := by
    intro result hresult
    simp only [batch_relay, Call.bind_eq_ok, require_initialized_eq_ok, require_auth_eq_ok, exists_const] at hresult
    exact h ⟨hresult.1, hresult.2.1⟩
  refine ⟨?_, fun result s' hresult => absurd hresult (herror _)⟩
  rw [relay_in_turn, relay_in_turn_refused h]
  cases hresult : batch_relay env operator items s with
  | ok result => exact absurd hresult (herror result)
  | error => rfl

/-- **A batch leaves and counts what single calls do, exactly if it marks no message.** -/
theorem batch_refines_iff (hitems : items ≠ []) (hlength : items.length < 2 ^ 32) :
    Refines env operator s items ↔ ¬MarksAny env operator s items := by
  by_cases haccepted : s.initialized.isSome = true ∧ env.auth operator = true
  · obtain ⟨hinit, hauth⟩ := haccepted
    have hsame : SameExpired env operator s (relay_in_turn env operator s items).storage :=
      SameExpired.foldl (t := ⟨s, [], []⟩) ⟨rfl, fun _ _ _ => Iff.rfl⟩
    rw [refines_iff_marked hinit hauth hitems hlength, marked_eq_self_iff]
    constructor
    · rintro h ⟨-, -, hactive, item, hitem, m, hm, hexpired, hstatus⟩
      refine hstatus (h item.message_id m ((hsame.message _ m hexpired).mpr hm) ?_)
      rw [marks, hsame.active, hactive, hexpired, Bool.true_and, Bool.true_and, List.any_eq_true]
      exact ⟨item, hitem, decide_eq_true rfl⟩
    · intro h id m hm hmarks
      rw [marks, hsame.active, Bool.and_eq_true, Bool.and_eq_true, List.any_eq_true] at hmarks
      obtain ⟨⟨hactive, hexpired⟩, item, hitem, hid⟩ := hmarks
      have hm := (hsame.message id m hexpired).mp hm
      rw [← of_decide_eq_true hid] at hm
      by_contra hstatus
      exact h ⟨hinit, hauth, hactive, item, hitem, m, hm, hexpired, hstatus⟩
  · exact ⟨fun _ hmarks => haccepted ⟨hmarks.1, hmarks.2.1⟩, fun _ => refines_of_refused haccepted⟩

end Batch

end

/-- Account 1 has sent a message to an operator that has relayed nothing. -/
def sent_once : List (Env × EntryPoint) := relayed_once.take 3

/-- The message twice, and one that was never sent. -/
def three_items : List BatchRelayItem :=
  [⟨first_id, sign first_id⟩, ⟨public_key, sign public_key⟩, ⟨first_id, sign first_id⟩]

theorem batch_refines_three_items :
    @Refines stellar (signed_at 20) (account 9) (@run stellar sent_once).storage three_items := by
  refine (@batch_refines_iff _ _ _ _ stellar (by decide) (by decide)).mpr ?_
  rintro ⟨-, -, -, item, hitem, m, hm, hexpired, -⟩
  have hall : three_items.all (fun item => ((@run stellar sent_once).storage.message item.message_id).all fun m =>
      !is_expired (signed_at 20) m) = true := by
    decide +kernel
  have hall := List.all_eq_true.mp hall item hitem
  rw [hm, Option.all_some, hexpired] at hall
  cases hall

/-- A batch that comes too late marks its message, and the single call that fails does not. -/
theorem late_batch_marks :
    ¬ ∀ (calls : List (Env × EntryPoint)) (env : Env) (operator : Address) (items : List BatchRelayItem),
      items ≠ [] → @Refines stellar env operator (@run stellar calls).storage items := by
  intro h
  have hstorage := @Refines.storage stellar _ _ _ _ (h sent_once (signed_at 610) (account 9) three_items (by decide))
  have hstatus := congrArg (fun s => status s first_id) hstorage
  exact absurd hstatus (by decide +kernel)

end BridgeWatch.Relay

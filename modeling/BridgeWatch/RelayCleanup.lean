/-
The cleanup of the relay queue.

The scan of a cleanup stops when it has kept `max_items` entries. An entry that it removes does not count, so
a scan that removes something looks at more of the queue, if there is more. It is bounded, and does what it
says of the first `max_items` entries, if the queue is not longer or nothing among them is to be removed.
-/
import BridgeWatch.RelayNonces

set_option autoImplicit false

namespace BridgeWatch.Relay

open Contract (U32 Env)

/-! ## Marks -/

/-- A message that is waiting and whose time has passed. -/
def lapsed (env : Env) (msg : CrossChainMessage) : Bool :=
  is_expired env msg && (msg.status = .Pending || msg.status = .Verified)

/-- The message after a cleanup has passed its entry. -/
def expire (env : Env) (message : Option CrossChainMessage) : Option CrossChainMessage :=
  message.map fun msg => if lapsed env msg then { msg with status := .Expired } else msg

local instance : LawfulBEq (BytesN 32) := inferInstance

/-- The messages after a cleanup has passed the entries. -/
def expire_all (env : Env) (ids : List (BytesN 32)) (message : BytesN 32 → Option CrossChainMessage)
    (id : BytesN 32) : Option CrossChainMessage :=
  if id ∈ ids then expire env (message id) else message id

section Marks

variable {env : Env} {s : RelayStorage} {id : BytesN 32} {ids : List (BytesN 32)}

theorem expire_all_singleton (message : BytesN 32 → Option CrossChainMessage) :
    expire_all env [id] message = Function.update message id (expire env (message id)) := by
  funext id'
  by_cases heq : id' = id
  · rw [heq, Function.update_self, expire_all, if_pos (List.mem_singleton_self id)]
  · rw [Function.update_of_ne heq, expire_all, if_neg (List.mem_singleton.not.mpr heq)]

theorem mark_expired_eq : mark_expired env id s = { s with message := expire_all env [id] s.message } := by
  have hkept (h : expire env (s.message id) = s.message id) :
      s = { s with message := expire_all env [id] s.message } := by
    rw [expire_all_singleton, h, Function.update_eq_self]
  unfold mark_expired
  split
  · next hnone => exact hkept (by rw [hnone]; rfl)
  · next msg hsome =>
      split
      · next hlapsed =>
          rw [expire_all_singleton, hsome, expire, Option.map_some, if_pos (show lapsed env msg = true from hlapsed)]
          rfl
      · next hlapsed =>
          apply hkept
          rw [hsome, expire, Option.map_some, if_neg (show ¬lapsed env msg = true from hlapsed)]

theorem not_lapsed_of_expired {msg : CrossChainMessage} : lapsed env { msg with status := .Expired } = false :=
  Bool.and_false _

theorem expire_expire (message : Option CrossChainMessage) : expire env (expire env message) = expire env message := by
  cases message with
  | none => rfl
  | some =>
      simp only [expire, Option.map_some]
      split
      · rw [if_neg (by rw [not_lapsed_of_expired]; exact Bool.false_ne_true)]
      · rfl

/-- A mark does not change whether an entry is removed. -/
theorem is_stale_mark_expired (id' : BytesN 32) : is_stale env (mark_expired env id s) id' = is_stale env s id' := by
  rw [mark_expired_eq]
  unfold is_stale expire_all
  by_cases hmem : id' ∈ [id]
  · simp only [if_pos hmem]
    cases s.message id' with
    | none => rfl
    | some msg =>
        simp only [expire, Option.map_some]
        by_cases hlapsed : lapsed env msg = true
        · have hstale : (is_expired env msg && (msg.status = .Pending || msg.status = .Verified)) = true := hlapsed
          simp only [if_pos hlapsed, hstale, Bool.true_or]
          rw [Bool.or_eq_true]
          exact .inr rfl
        · rw [if_neg hlapsed]
  · simp only [if_neg hmem]

theorem expire_all_cons (message : BytesN 32 → Option CrossChainMessage) :
    expire_all env ids (expire_all env [id] message) = expire_all env (id :: ids) message := by
  funext id'
  rw [expire_all_singleton]
  unfold expire_all
  by_cases heq : id' = id
  · rw [heq, Function.update_self, if_pos (List.mem_cons_self : id ∈ id :: ids), expire_expire, ite_self]
  · simp only [Function.update_of_ne heq, List.mem_cons, heq, false_or]

/-- An entry that is kept has nothing to mark. -/
theorem expire_all_kept (hkept : is_stale env s id = false) :
    expire_all env (id :: ids) s.message = expire_all env ids s.message := by
  have hexpire : expire env (s.message id) = s.message id := by
    unfold is_stale at hkept
    split at hkept
    · cases hkept
    · next msg hsome =>
        have hlapsed : lapsed env msg = false := (Bool.or_eq_false_iff.mp hkept).1
        rw [hsome, expire, Option.map_some, if_neg (by rw [hlapsed]; exact Bool.false_ne_true)]
  rw [← expire_all_cons, expire_all_singleton, hexpire, Function.update_eq_self]

end Marks

/-! ## The scan -/

/-- The number of entries that the loop looks at. -/
def cleanup_examined (env : Env) : List (BytesN 32) → ℕ → RelayStorage → ℕ
  | [], _, _ => 0
  | _ :: _, 0, _ => 0
  | id :: rest, left + 1, s =>
      if is_stale env s id then cleanup_examined env rest (left + 1) (mark_expired env id s) + 1
      else cleanup_examined env rest left s + 1

theorem saturating_succ_toNat (x : U32) :
    (Contract.saturating_add_u32 x 1).toNat = min (x.toNat + 1) (2 ^ 32 - 1) := by
  have hone : (1 : U32).toNat = 1 := rfl
  unfold Contract.saturating_add_u32
  split
  · next hfits =>
      rw [UInt32.toNat_add]
      omega
  · rw [UInt32.toNat_ofNat']
    omega

section Scan

variable (env : Env) (ids : List (BytesN 32)) (left : ℕ) (s : RelayStorage)

/-- **The scan** removes what is stale among the entries that it looks at. -/
theorem cleanup_scan_eq :
    (cleanup_scan env ids left s).1 = (ids.take (cleanup_examined env ids left s)).filter (!is_stale env s ·) ++
        ids.drop (cleanup_examined env ids left s) ∧
      (cleanup_scan env ids left s).2.1.toNat =
        min ((ids.take (cleanup_examined env ids left s)).countP (is_stale env s)) (2 ^ 32 - 1) ∧
      (cleanup_scan env ids left s).2.2 =
        { s with message := expire_all env (ids.take (cleanup_examined env ids left s)) s.message } := by
  have hnone (s : RelayStorage) : s = { s with message := expire_all env [] s.message } := by
    have hmessage : expire_all env [] s.message = s.message := funext fun id => if_neg List.not_mem_nil
    rw [hmessage]
  induction ids generalizing left s with
  | nil => exact ⟨rfl, rfl, hnone s⟩
  | cons id _ ih =>
      cases left with
      | zero => exact ⟨rfl, rfl, hnone s⟩
      | succ left =>
          rw [cleanup_scan, cleanup_examined]
          by_cases hstale : is_stale env s id = true
          · have hsame : is_stale env (mark_expired env id s) = is_stale env s := funext is_stale_mark_expired
            obtain ⟨hkept, hcount, hs⟩ := ih (left + 1) (mark_expired env id s)
            rw [hsame] at hkept hcount
            rw [if_pos hstale, if_pos hstale, List.take_succ_cons, List.drop_succ_cons,
              List.filter_cons_of_neg (by rw [hstale]; exact Bool.false_ne_true), List.countP_cons_of_pos hstale]
            refine ⟨hkept, ?_, ?_⟩
            · rw [saturating_succ_toNat, hcount]
              omega
            · simp only [hs]
              rw [mark_expired_eq, expire_all_cons]
          · obtain ⟨hkept, hcount, hs⟩ := ih left s
            rw [if_neg hstale, if_neg hstale, List.take_succ_cons, List.drop_succ_cons,
              List.filter_cons_of_pos (by rw [Bool.eq_false_iff.mpr hstale]; rfl), List.countP_cons_of_neg hstale,
              expire_all_kept (Bool.eq_false_iff.mpr hstale), List.cons_append]
            exact ⟨congrArg (id :: ·) hkept, hcount, hs⟩

theorem cleanup_examined_le : cleanup_examined env ids left s ≤ ids.length := by
  induction ids generalizing left s with
  | nil => exact Nat.le_refl 0
  | cons _ _ ih =>
      cases left with
      | zero => exact Nat.zero_le _
      | succ =>
          rw [cleanup_examined, List.length_cons]
          split
          · exact Nat.succ_le_succ (ih _ _)
          · exact Nat.succ_le_succ (ih _ _)

theorem le_cleanup_examined : min left ids.length ≤ cleanup_examined env ids left s := by
  induction ids generalizing left s with
  | nil => exact Nat.min_le_right left 0
  | cons id _ ih =>
      cases left with
      | zero => exact Nat.min_le_left 0 _
      | succ left =>
          rw [cleanup_examined, List.length_cons]
          split
          · have := ih (left + 1) (mark_expired env id s)
            omega
          · have := ih left s
            omega

/-- **The bound** on what the scan looks at. An entry that is removed is not counted. -/
theorem cleanup_examined_le_iff : cleanup_examined env ids left s ≤ left ↔
    ids.length ≤ left ∨ ∀ id ∈ ids.take left, is_stale env s id = false := by
  induction ids generalizing left s with
  | nil => exact iff_of_true (Nat.zero_le left) (.inl (Nat.zero_le left))
  | cons id ids ih =>
      cases left with
      | zero => exact iff_of_true (Nat.le_refl 0) (.inr fun id hid => absurd hid List.not_mem_nil)
      | succ left =>
          rw [cleanup_examined, List.length_cons, List.take_succ_cons, List.forall_mem_cons]
          by_cases hstale : is_stale env s id = true
          · rw [if_pos hstale, hstale]
            have hle := le_cleanup_examined env ids (left + 1) (mark_expired env id s)
            have hlength := cleanup_examined_le env ids (left + 1) (mark_expired env id s)
            constructor
            · intro h
              exact .inl (by omega)
            · rintro (h | ⟨h, -⟩)
              · omega
              · cases h
          · rw [if_neg hstale, Bool.eq_false_iff.mpr hstale, Nat.succ_le_succ_iff, ih]
            simp only [Nat.add_le_add_iff_right, true_and]

end Scan

/-! ## The cleanup -/

/-- A cleanup looks at the first `max_items` entries, and does exactly to them what it should. -/
structure CleanupExact (env : Env) (max_items : U32) (s : RelayStorage) (count : U32) (s' : RelayStorage) : Prop where
  bounded : cleanup_examined env (queue s) max_items.toNat s ≤ max_items.toNat
  counted : count.toNat = ((queue s).take max_items.toNat).countP (is_stale env s)
  count_le : count ≤ max_items
  removed : queue s' = ((queue s).take max_items.toNat).filter (!is_stale env s ·) ++ (queue s).drop max_items.toNat
  marked : ∀ id ∈ (queue s).take max_items.toNat, ∀ msg, s.message id = some msg → is_expired env msg = true →
    msg.status = .Pending ∨ msg.status = .Verified → s'.message id = some { msg with status := .Expired }
  unmarked : ∀ id, (id ∈ (queue s).take max_items.toNat → ∀ msg, s.message id = some msg →
    is_expired env msg = true → ¬(msg.status = .Pending ∨ msg.status = .Verified)) → s'.message id = s.message id
  others : s' = { s with message := s'.message, message_queue := s'.message_queue }

section Cleanup

variable {env : Env} {max_items count : U32} {s s' : RelayStorage}

theorem lapsed_iff {msg : CrossChainMessage} : lapsed env msg = true ↔
    is_expired env msg = true ∧ (msg.status = .Pending ∨ msg.status = .Verified) := by
  rw [lapsed, Bool.and_eq_true, Bool.or_eq_true, decide_eq_true_iff, decide_eq_true_iff]

/-- The storage after a cleanup that is not for nothing. -/
theorem cleanup_eq_ok (hpos : max_items ≠ 0) (h : cleanup_expired_messages env max_items s = .ok (count, s')) :
    count = (cleanup_scan env (queue s) max_items.toNat s).2.1 ∧
      s' = { (cleanup_scan env (queue s) max_items.toNat s).2.2 with
        message_queue := some (cleanup_scan env (queue s) max_items.toNat s).1 } := by
  simp only [cleanup_expired_messages, Call.bind_eq_ok, if_neg hpos, Call.pure_eq_ok, Prod.mk.injEq] at h
  obtain ⟨-, -, hcount, hs⟩ := h
  exact ⟨hcount, hs⟩

theorem expire_all_iff (env : Env) (ids : List (BytesN 32)) (message : BytesN 32 → Option CrossChainMessage) :
    (∀ id ∈ ids, ∀ msg, message id = some msg → is_expired env msg = true →
      msg.status = .Pending ∨ msg.status = .Verified →
        expire_all env ids message id = some { msg with status := .Expired }) ∧
    ∀ id, (id ∈ ids → ∀ msg, message id = some msg → is_expired env msg = true →
      ¬(msg.status = .Pending ∨ msg.status = .Verified)) → expire_all env ids message id = message id := by
  constructor
  · intro id hid msg hmsg hexpired hstatus
    rw [expire_all, if_pos hid, hmsg, expire, Option.map_some, if_pos (lapsed_iff.mpr ⟨hexpired, hstatus⟩)]
  · intro id hnone
    rw [expire_all]
    split
    · next hid =>
        cases hmsg : message id with
        | none => rfl
        | some msg =>
            rw [expire, Option.map_some, if_neg]
            intro hlapsed
            obtain ⟨hexpired, hstatus⟩ := lapsed_iff.mp hlapsed
            exact hnone hid msg hmsg hexpired hstatus
    · rfl

/-- A scan within the bound is a scan of the first `max_items` entries. -/
theorem cleanup_exact_of_bounded (hbounded : cleanup_examined env (queue s) max_items.toNat s ≤ max_items.toNat)
    (h : cleanup_expired_messages env max_items s = .ok (count, s')) : CleanupExact env max_items s count s' := by
  obtain ⟨hmarked, hunmarked⟩ := expire_all_iff env ((queue s).take max_items.toNat) s.message
  by_cases hzero : max_items = 0
  · simp only [cleanup_expired_messages, Call.bind_eq_ok, if_pos hzero, Call.pure_eq_ok, Prod.mk.injEq] at h
    obtain ⟨-, -, rfl, rfl⟩ := h
    have htake : (queue s').take max_items.toNat = [] := by
      rw [hzero]
      exact List.take_zero
    have hdrop : (queue s').drop max_items.toNat = queue s' := by
      rw [hzero]
      exact List.drop_zero
    refine ⟨hbounded, ?_, ?_, ?_, ?_, fun _ _ => rfl, rfl⟩
    · rw [htake]
      rfl
    · rw [hzero]
      exact UInt32.le_refl 0
    · rw [htake, hdrop]
      rfl
    · intro id hid
      rw [htake] at hid
      cases hid
  · obtain ⟨rfl, rfl⟩ := cleanup_eq_ok hzero h
    obtain ⟨hkept, hcount, hs⟩ := cleanup_scan_eq env (queue s) max_items.toNat s
    have hexamined : cleanup_examined env (queue s) max_items.toNat s = min max_items.toNat (queue s).length := by
      have hle := cleanup_examined_le env (queue s) max_items.toNat s
      have hge := le_cleanup_examined env (queue s) max_items.toNat s
      omega
    have htake : (queue s).take (cleanup_examined env (queue s) max_items.toNat s) =
        (queue s).take max_items.toNat := by
      rw [hexamined, ← List.take_eq_take_min]
    have hdrop : (queue s).drop (cleanup_examined env (queue s) max_items.toNat s) =
        (queue s).drop max_items.toNat := by
      rw [hexamined, List.drop_eq_drop_min, Nat.min_assoc, Nat.min_self, ← List.drop_eq_drop_min]
    rw [htake] at hkept hcount hs
    rw [hdrop] at hkept
    have hlt : max_items.toNat < 2 ^ 32 := max_items.toNat_lt
    have hcountP : ((queue s).take max_items.toNat).countP (is_stale env s) ≤ max_items.toNat :=
      List.countP_le_length.trans (List.length_take_le _ _)
    have hcounted := hcount.trans (Nat.min_eq_left (by omega))
    refine ⟨hbounded, hcounted, ?_, hkept, ?_, ?_, ?_⟩
    · rw [UInt32.le_iff_toNat_le, hcounted]
      exact hcountP
    · rw [hs]
      exact hmarked
    · rw [hs]
      exact hunmarked
    · rw [hs]

theorem cleanup_succeeds (env : Env) (max_items : U32) (hinit : s.initialized.isSome = true) :
    ∃ count s', cleanup_expired_messages env max_items s = .ok (count, s') := by
  unfold cleanup_expired_messages
  rw [(require_initialized_eq_ok.mpr hinit : require_initialized s = .ok ())]
  by_cases hzero : max_items = 0
  · rw [if_pos hzero]
    exact ⟨_, _, rfl⟩
  · rw [if_neg hzero]
    exact ⟨_, _, rfl⟩

/-- **A cleanup** is bounded, and exact on the first `max_items` entries of the queue, if and only if there are no
more entries or none of the first is removed. -/
theorem cleanup_exact_iff (env : Env) (max_items : U32) (s : RelayStorage) :
    (∀ count s', cleanup_expired_messages env max_items s = .ok (count, s') →
      CleanupExact env max_items s count s') ↔
    (s.initialized.isSome = true → (queue s).length ≤ max_items.toNat ∨
      ∀ id ∈ (queue s).take max_items.toNat, is_stale env s id = false) := by
  rw [← cleanup_examined_le_iff]
  constructor
  · intro h hinit
    obtain ⟨count, s', hok⟩ := cleanup_succeeds env max_items hinit
    exact (h count s' hok).bounded
  · intro h count s' hok
    refine cleanup_exact_of_bounded (h ?_) hok
    simp only [cleanup_expired_messages, Call.bind_eq_ok, require_initialized_eq_ok] at hok
    obtain ⟨_, hinit, -⟩ := hok
    exact hinit

/-- All of three messages have lapsed, and a cleanup of at most one entry removes them all. -/
theorem cleanup_unbounded :
    let s := (@run stellar three_sends).storage
    ∃ s', cleanup_expired_messages (signed_at 1000) 1 s = .ok (3, s') ∧ ¬CleanupExact (signed_at 1000) 1 s 3 s' := by
  intro s
  obtain ⟨count, s', hok⟩ := cleanup_succeeds (s := s) (signed_at 1000) 1 (by decide +kernel)
  have hcount : (cleanup_scan (signed_at 1000) (queue s) (1 : U32).toNat s).2.1 = 3 := by decide +kernel
  obtain rfl : count = 3 := (cleanup_eq_ok (by decide) hok).1.trans hcount
  exact ⟨s', hok, fun hexact => absurd hexact.count_le (by decide)⟩

end Cleanup

end BridgeWatch.Relay

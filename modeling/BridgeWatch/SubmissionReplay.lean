/-
The nonces of `contracts/soroban/src/submission_replay.rs`.

Nonces that were seen are kept in bitmaps, one for each hour, and the hours that are over for longer than the
validity window are dropped when a new one begins. All that the functions read and write is the list of
epochs, which is empty before the first, and the ledger time. The replay log of the same file shares nothing
with them and is left out.

The window is exact: what an epoch's bitmap has is what was recorded in its hour, and an epoch that is not
stored is over for longer than the window. The bound on the number of epochs is never met, since the hours
of a window are fewer.
-/
import BridgeWatch.ContractState

set_option autoImplicit false

namespace BridgeWatch.SubmissionReplay

open Contract (U32 U64 saturating_sub_u64)

/-! ## The model -/

/-- Nonce validity window in seconds (24 hours). -/
def NONCE_VALIDITY_WINDOW_SECS : U64 := 86400

/-- Epoch duration in seconds (1 hour). -/
def NONCE_EPOCH_DURATION_SECS : U64 := 3600

/-- Maximum number of nonce epochs to retain. -/
def MAX_NONCE_EPOCHS : ℕ := 30

structure NonceEpoch where
  epoch_id : U32
  start_timestamp : U64
  end_timestamp : U64
  nonce_bitmap : List U32
  deriving DecidableEq

/-- The epoch of a ledger time, with nothing recorded in it. -/
def new_epoch (now : U64) : NonceEpoch :=
  let epoch_id := (now / NONCE_EPOCH_DURATION_SECS).toUInt32
  let epoch_start := epoch_id.toUInt64 * NONCE_EPOCH_DURATION_SECS
  { epoch_id, start_timestamp := epoch_start, end_timestamp := epoch_start + NONCE_EPOCH_DURATION_SECS, nonce_bitmap := [] }

/-- The epochs that are not over for longer than the validity window. -/
def prune (now : U64) (epochs : List NonceEpoch) : List NonceEpoch :=
  epochs.filter fun epoch => epoch.end_timestamp ≥ saturating_sub_u64 now NONCE_VALIDITY_WINDOW_SECS

/-- The current epoch, and the epochs that are stored then. -/
def get_or_create_nonce_epoch (now : U64) (epochs : List NonceEpoch) : NonceEpoch × List NonceEpoch :=
  match epochs.find? fun e => e.epoch_id == (new_epoch now).epoch_id with
  | some existing => (existing, epochs)
  | none =>
    let pruned := prune now epochs
    (new_epoch now, if pruned.length < MAX_NONCE_EPOCHS then pruned ++ [new_epoch now] else pruned)

/-- The bit of a nonce in its word is set. -/
def has_bit (word nonce_id : U32) : Bool := word &&& (1 <<< (nonce_id % 32)) != 0

/-- The nonce is in the bitmap. -/
def is_seen (bitmap : List U32) (nonce_id : U32) : Bool :=
  match bitmap[(nonce_id / 32).toNat]? with
  | some word => has_bit word nonce_id
  | none => false

/-- True if the nonce is valid (not seen), false if already used. -/
def verify_nonce (now : U64) (epochs : List NonceEpoch) (nonce_id : U32) : Bool :=
  !epochs.any fun epoch =>
    !(epoch.end_timestamp < saturating_sub_u64 now NONCE_VALIDITY_WINDOW_SECS) && is_seen epoch.nonce_bitmap nonce_id

/-- The loop that extends a bitmap until it has a word under an index. -/
def extend_bitmap (bitmap : List U32) (bitmap_idx : ℕ) : List U32 :=
  bitmap ++ List.replicate (bitmap_idx + 1 - bitmap.length) 0

/-- The bitmap with the nonce. -/
def mark (bitmap : List U32) (nonce_id : U32) : List U32 :=
  (extend_bitmap bitmap (nonce_id / 32).toNat).modify (nonce_id / 32).toNat fun word => word ||| (1 <<< (nonce_id % 32))

/-- The epoch in the place of the first with its number, or at the end. -/
def put_epoch (epoch : NonceEpoch) : List NonceEpoch → List NonceEpoch
  | [] => [epoch]
  | e :: epochs => if e.epoch_id = epoch.epoch_id then epoch :: epochs else e :: put_epoch epoch epochs

def record_nonce (now : U64) (epochs : List NonceEpoch) (nonce_id : U32) : List NonceEpoch :=
  let (epoch, epochs) := get_or_create_nonce_epoch now epochs
  put_epoch { epoch with nonce_bitmap := mark epoch.nonce_bitmap nonce_id } epochs

/-- The epochs after some nonces were recorded, each at its time. -/
def record_all (calls : List (U64 × U32)) : List NonceEpoch :=
  calls.foldl (fun epochs call => record_nonce call.1 epochs call.2) []

/-! ## Bitmaps -/

section Bitmaps

variable {bitmap : List U32} {word m n : U32}

/-- The bit of a nonce is that of the low five bits of its number. -/
theorem has_bit_eq : has_bit word n = word.toBitVec.getLsbD (n.toNat % 32) := by
  have hlt : n.toNat % 32 < 32 := Nat.mod_lt _ (by decide)
  have hshift : ((1 : U32) <<< (n % 32)).toBitVec = BitVec.twoPow 32 (n.toNat % 32) := by
    rw [UInt32.toBitVec_shiftLeft, BitVec.shiftLeft_eq', BitVec.twoPow_eq]
    congr 1
    simp
  have hne : BitVec.twoPow 32 (n.toNat % 32) ≠ 0#32 := by
    intro hzero
    have hbit := congrArg (fun v : BitVec 32 => v.getLsbD (n.toNat % 32)) hzero
    simp [hlt] at hbit
  have hand : (word &&& (1 <<< (n % 32)) = 0) ↔
      (if word.toBitVec.getLsbD (n.toNat % 32) = true then BitVec.twoPow 32 (n.toNat % 32) else 0#32) = 0#32 := by
    rw [← UInt32.toBitVec_inj, UInt32.toBitVec_and, hshift, BitVec.and_twoPow]
    rfl
  rw [Bool.eq_iff_iff, has_bit, bne_iff_ne, ne_eq, hand]
  by_cases hset : word.toBitVec.getLsbD (n.toNat % 32) = true <;> simp [hset, hne]

@[simp] theorem has_bit_zero : has_bit 0 n = false := by
  rw [has_bit_eq]
  simp

theorem has_bit_or : has_bit (word ||| (1 <<< (m % 32))) n = (has_bit word n || decide (m.toNat % 32 = n.toNat % 32)) := by
  have hlt : m.toNat % 32 < 32 := Nat.mod_lt _ (by decide)
  have hshift : ((1 : U32) <<< (m % 32)).toBitVec = BitVec.twoPow 32 (m.toNat % 32) := by
    rw [UInt32.toBitVec_shiftLeft, BitVec.shiftLeft_eq', BitVec.twoPow_eq]
    congr 1
    simp
  rw [has_bit_eq, has_bit_eq, UInt32.toBitVec_or, BitVec.getLsbD_or, hshift, BitVec.getLsbD_twoPow]
  simp [hlt]

theorem is_seen_nil : is_seen [] n = false := rfl

/-- The words that extend a bitmap have nothing in them. -/
theorem is_seen_extend (i : ℕ) : is_seen (extend_bitmap bitmap i) n = is_seen bitmap n := by
  unfold is_seen extend_bitmap
  by_cases hlt : (n / 32).toNat < bitmap.length
  · rw [List.getElem?_append_left hlt]
  · rw [List.getElem?_append_right (Nat.le_of_not_lt hlt), List.getElem?_eq_none (Nat.le_of_not_lt hlt),
      List.getElem?_replicate]
    split_ifs <;> simp

/-- **A bitmap with one more nonce.** -/
theorem is_seen_mark : is_seen (mark bitmap m) n = (is_seen bitmap n || decide (m = n)) := by
  have hword : ∀ k : U32, (k / 32).toNat = k.toNat / 32 := fun k => by rw [UInt32.toNat_div]; rfl
  by_cases hsame : (m / 32).toNat = (n / 32).toNat
  · -- The two have one word, which is there once the bitmap is extended.
    have hthere : (n / 32).toNat < (extend_bitmap bitmap (m / 32).toNat).length := by
      rw [extend_bitmap, List.length_append, List.length_replicate]
      omega
    have hiff : m.toNat % 32 = n.toNat % 32 ↔ m = n := by
      rw [hword, hword] at hsame
      rw [← UInt32.toNat_inj]
      omega
    have hextend : is_seen (extend_bitmap bitmap (m / 32).toNat) n = is_seen bitmap n := is_seen_extend _
    rw [is_seen, List.getElem?_eq_getElem hthere] at hextend
    rw [is_seen, mark, List.getElem?_modify, List.getElem?_eq_getElem hthere, ← hextend]
    simp only [hsame, if_true, Option.map_eq_map, Option.map_some, has_bit_or, hiff]
  · have hne : m ≠ n := fun heq => hsame (by rw [heq])
    rw [is_seen, mark, List.getElem?_modify]
    simp only [hsame, if_false, Option.map_eq_map, Option.map_id', hne, decide_false, Bool.or_false]
    exact is_seen_extend _

end Bitmaps

/-! ## Epochs -/

/-- The hour of a ledger time. -/
def hour (now : U64) : ℕ := now.toNat / 3600

/-- When the hour of a ledger time is over. -/
def epoch_end (now : U64) : ℕ := (hour now + 1) * 3600

/-- The epoch is one hour. -/
def NonceEpoch.IsHour (e : NonceEpoch) : Prop := e.end_timestamp.toNat = (e.epoch_id.toNat + 1) * 3600

section Epochs

variable {now t : U64} {epochs : List NonceEpoch} {e : NonceEpoch} {n nonce_id : U32} {calls : List (U64 × U32)}

theorem toNat_new_epoch (h : now.toNat < 2 ^ 32) : (new_epoch now).epoch_id.toNat = hour now := by
  have hdiv : (now / NONCE_EPOCH_DURATION_SECS).toNat = hour now := UInt64.toNat_div ..
  rw [new_epoch, UInt64.toNat_toUInt32, hdiv, hour]
  omega

theorem new_epoch_is_hour : (new_epoch now).IsHour := by
  have hid := (new_epoch now).epoch_id.toNat_lt
  have hmul : ((new_epoch now).epoch_id.toUInt64 * NONCE_EPOCH_DURATION_SECS).toNat =
      (new_epoch now).epoch_id.toNat * 3600 := by
    rw [UInt64.toNat_mul, UInt32.toNat_toUInt64, show NONCE_EPOCH_DURATION_SECS.toNat = 3600 from rfl]
    omega
  have hend : (new_epoch now).end_timestamp =
      (new_epoch now).epoch_id.toUInt64 * NONCE_EPOCH_DURATION_SECS + NONCE_EPOCH_DURATION_SECS := rfl
  rw [NonceEpoch.IsHour, hend, UInt64.toNat_add, hmul, show NONCE_EPOCH_DURATION_SECS.toNat = 3600 from rfl]
  omega

theorem mem_prune : e ∈ prune now epochs ↔ e ∈ epochs ∧ now.toNat - 86400 ≤ e.end_timestamp.toNat := by
  rw [prune, List.mem_filter, decide_eq_true_eq, ge_iff_le, UInt64.le_iff_toNat_le, Contract.toNat_saturating_sub]
  rfl

/-- What the stored epochs say of the nonces that were recorded up to a time. -/
structure Tracks (epochs : List NonceEpoch) (calls : List (U64 × U32)) (now : ℕ) : Prop where
  hours : ∀ e ∈ epochs, e.IsHour
  distinct : (epochs.map NonceEpoch.epoch_id).Nodup
  begun : ∀ e ∈ epochs, e.epoch_id.toNat ≤ now / 3600
  close : ∃ last, ∀ e ∈ epochs, last ≤ e.epoch_id.toNat ∧ e.epoch_id.toNat ≤ last + 25
  seen : ∀ e ∈ epochs, ∀ n, is_seen e.nonce_bitmap n = true ↔ ∃ c ∈ calls, c.2 = n ∧ hour c.1 = e.epoch_id.toNat
  stored : ∀ c ∈ calls, (∃ e ∈ epochs, e.epoch_id.toNat = hour c.1) ∨ epoch_end c.1 < now - 86400

theorem tracks_nil : Tracks [] [] 0 :=
  ⟨by simp, List.nodup_nil, by simp, ⟨0, by simp⟩, by simp, by simp⟩

/-- Epochs with numbers of their own that lie close are few. -/
theorem length_le_of_close {last width : ℕ} (hdistinct : (epochs.map NonceEpoch.epoch_id).Nodup)
    (hclose : ∀ e ∈ epochs, last ≤ e.epoch_id.toNat ∧ e.epoch_id.toNat ≤ last + width) : epochs.length ≤ width + 1 := by
  have hnodup : (epochs.map fun e => e.epoch_id.toNat).Nodup := by
    have hmap := hdistinct.map (f := UInt32.toNat) fun _ _ h => UInt32.toNat_inj.mp h
    rwa [List.map_map] at hmap
  have hsub : (epochs.map fun e => e.epoch_id.toNat) ⊆ List.range' last (width + 1) := by
    intro k hk
    obtain ⟨e, he, rfl⟩ := List.mem_map.mp hk
    have hbounds := hclose e he
    rw [List.mem_range'_1]
    omega
  have hle := (List.subperm_of_subset hnodup hsub).length_le
  rwa [List.length_map, List.length_range'] at hle

/-! ## Recording -/

/-- Time passes. -/
theorem Tracks.later {now later : ℕ} (h : Tracks epochs calls now) (hle : now ≤ later) : Tracks epochs calls later := by
  refine ⟨h.hours, h.distinct, fun e he => ?_, h.close, h.seen, fun c hc => ?_⟩
  · exact (h.begun e he).trans (Nat.div_le_div_right hle)
  · rcases h.stored c hc with hstored | hover
    · exact Or.inl hstored
    · exact Or.inr (hover.trans_le (Nat.sub_le_sub_right hle _))

/-- No epoch of the window is dropped. -/
theorem Tracks.prune {now : U64} (h : Tracks epochs calls now.toNat) : Tracks (prune now epochs) calls now.toNat := by
  have hsub : ∀ e ∈ SubmissionReplay.prune now epochs, e ∈ epochs := fun e he => (mem_prune.mp he).1
  obtain ⟨last, hclose⟩ := h.close
  refine ⟨fun e he => h.hours e (hsub e he), h.distinct.sublist (List.filter_sublist.map _), fun e he => h.begun e (hsub e he),
    ⟨last, fun e he => hclose e (hsub e he)⟩, fun e he => h.seen e (hsub e he), fun c hc => ?_⟩
  rcases h.stored c hc with ⟨e, he, hid⟩ | hover
  · -- What is dropped is over for longer than the window.
    have hend : epoch_end c.1 = e.end_timestamp.toNat := by rw [h.hours e he, hid, epoch_end]
    by_cases hkept : now.toNat - 86400 ≤ e.end_timestamp.toNat
    · exact Or.inl ⟨e, mem_prune.mpr ⟨he, hkept⟩, hid⟩
    · exact Or.inr (by omega)
  · exact Or.inr hover

/-- The epochs that are left when a new hour begins are of the 25 hours before. -/
theorem Tracks.prune_close {now : U64} (h : Tracks epochs calls now.toNat)
    (hnew : ∀ e ∈ epochs, e.epoch_id.toNat ≠ hour now) :
    ∀ e ∈ SubmissionReplay.prune now epochs, hour now - 25 ≤ e.epoch_id.toNat ∧ e.epoch_id.toNat + 1 ≤ hour now := by
  intro e he
  obtain ⟨hmem, hkept⟩ := mem_prune.mp he
  have hhour := h.hours e hmem
  have hbegun := h.begun e hmem
  have hne := hnew e hmem
  rw [NonceEpoch.IsHour] at hhour
  unfold hour at hne ⊢
  omega

/-- A new hour begins, and there is room for its epoch. -/
theorem Tracks.create {now : U64} (h : Tracks epochs calls now.toNat) (hnow : now.toNat < 2 ^ 32)
    (hnew : ∀ e ∈ epochs, e.epoch_id.toNat ≠ hour now) :
    (SubmissionReplay.prune now epochs).length < MAX_NONCE_EPOCHS ∧
      Tracks (SubmissionReplay.prune now epochs ++ [new_epoch now]) calls now.toNat := by
  have hclose := h.prune_close hnew
  have hpruned := h.prune
  have hid := toNat_new_epoch hnow
  constructor
  · have hnear : ∀ e ∈ SubmissionReplay.prune now epochs,
        hour now - 25 ≤ e.epoch_id.toNat ∧ e.epoch_id.toNat ≤ hour now - 25 + 25 := fun e he =>
      ⟨(hclose e he).1, by have := hclose e he; omega⟩
    have hfew := length_le_of_close hpruned.distinct hnear
    rw [MAX_NONCE_EPOCHS]
    omega
  · have hmem : ∀ {e}, e ∈ SubmissionReplay.prune now epochs ++ [new_epoch now] ↔
        e ∈ SubmissionReplay.prune now epochs ∨ e = new_epoch now := by
      intro e
      rw [List.mem_append, List.mem_singleton]
    refine ⟨?_, ?_, ?_, ⟨hour now - 25, ?_⟩, ?_, ?_⟩
    · intro e he
      rcases hmem.mp he with he | rfl
      · exact hpruned.hours e he
      · exact new_epoch_is_hour
    · rw [List.map_append, List.map_singleton, List.nodup_append]
      refine ⟨hpruned.distinct, List.nodup_singleton _, ?_⟩
      intro i hi j hj heq
      obtain ⟨e, he, rfl⟩ := List.mem_map.mp hi
      rw [List.mem_singleton.mp hj] at heq
      exact hnew e (mem_prune.mp he).1 (by rw [heq, hid])
    · intro e he
      rcases hmem.mp he with he | rfl
      · exact hpruned.begun e he
      · rw [hid, hour]
    · intro e he
      rcases hmem.mp he with he | rfl
      · have := hclose e he
        omega
      · omega
    · intro e he n
      rcases hmem.mp he with he | rfl
      · exact hpruned.seen e he n
      · -- Nothing was recorded in this hour: its epoch would be stored.
        refine ⟨fun hseen => absurd hseen (by rw [show (new_epoch now).nonce_bitmap = [] from rfl, is_seen_nil]; decide), ?_⟩
        rintro ⟨c, hc, -, hhour⟩
        rw [hid] at hhour
        rcases h.stored c hc with ⟨e, he, heq⟩ | hover
        · exact absurd (heq.trans hhour) (hnew e he)
        · unfold epoch_end hour at hover
          unfold hour at hhour
          omega
    · intro c hc
      rcases hpruned.stored c hc with ⟨e, he, hid⟩ | hover
      · exact Or.inl ⟨e, hmem.mpr (Or.inl he), hid⟩
      · exact Or.inr hover

/-- The current epoch is stored. -/
theorem Tracks.get_or_create {now : U64} (h : Tracks epochs calls now.toNat) (hnow : now.toNat < 2 ^ 32) :
    Tracks (get_or_create_nonce_epoch now epochs).2 calls now.toNat ∧
      (get_or_create_nonce_epoch now epochs).1 ∈ (get_or_create_nonce_epoch now epochs).2 ∧
        (get_or_create_nonce_epoch now epochs).1.epoch_id.toNat = hour now := by
  have hid := toNat_new_epoch hnow
  unfold get_or_create_nonce_epoch
  cases hfind : epochs.find? fun e => e.epoch_id == (new_epoch now).epoch_id with
  | some e =>
      have heq : e.epoch_id = (new_epoch now).epoch_id := by simpa using List.find?_some hfind
      exact ⟨h, List.mem_of_find?_eq_some hfind, by rw [heq, hid]⟩
  | none =>
      have hnew : ∀ e ∈ epochs, e.epoch_id.toNat ≠ hour now := by
        intro e he heq
        have hnot := List.find?_eq_none.mp hfind e he
        rw [beq_iff_eq] at hnot
        exact hnot (UInt32.toNat_inj.mp (heq.trans hid.symm))
      obtain ⟨hroom, htracks⟩ := h.create hnow hnew
      dsimp only
      rw [if_pos hroom]
      exact ⟨htracks, List.mem_append_right _ (List.mem_singleton_self _), hid⟩

theorem mem_put_epoch {x : NonceEpoch} (hdistinct : (epochs.map NonceEpoch.epoch_id).Nodup) :
    e ∈ put_epoch x epochs ↔ e = x ∨ (e ∈ epochs ∧ e.epoch_id ≠ x.epoch_id) := by
  induction epochs with
  | nil => simp [put_epoch]
  | cons _ _ ih =>
      rw [List.map_cons, List.nodup_cons] at hdistinct
      rw [put_epoch]
      split_ifs with heq
      · rw [List.mem_cons, List.mem_cons]
        constructor
        · rintro (rfl | hmem)
          · exact Or.inl rfl
          · refine Or.inr ⟨Or.inr hmem, fun hid => hdistinct.1 ?_⟩
            rw [heq, ← hid]
            exact List.mem_map_of_mem hmem
        · rintro (rfl | ⟨rfl | hmem, hne⟩)
          · exact Or.inl rfl
          · exact absurd heq hne
          · exact Or.inr hmem
      · rw [List.mem_cons, ih hdistinct.2, List.mem_cons]
        constructor
        · rintro (rfl | rfl | ⟨hmem, hne⟩)
          · exact Or.inr ⟨Or.inl rfl, heq⟩
          · exact Or.inl rfl
          · exact Or.inr ⟨Or.inr hmem, hne⟩
        · rintro (rfl | ⟨rfl | hmem, hne⟩)
          · exact Or.inr (Or.inl rfl)
          · exact Or.inl rfl
          · exact Or.inr (Or.inr ⟨hmem, hne⟩)

/-- An epoch that is stored keeps its place. -/
theorem map_put_epoch {x : NonceEpoch} (hmem : x.epoch_id ∈ epochs.map NonceEpoch.epoch_id) :
    (put_epoch x epochs).map NonceEpoch.epoch_id = epochs.map NonceEpoch.epoch_id := by
  induction epochs with
  | nil => simp at hmem
  | cons _ _ ih =>
      rw [put_epoch]
      split_ifs with heq
      · rw [List.map_cons, List.map_cons, heq]
      · rw [List.map_cons, List.mem_cons] at hmem
        rw [List.map_cons, List.map_cons, ih (hmem.resolve_left (Ne.symm heq))]

/-- The nonce is marked in the epoch of the hour. -/
theorem Tracks.put {now : U64} (h : Tracks epochs calls now.toNat) (he : e ∈ epochs) (hid : e.epoch_id.toNat = hour now) :
    Tracks (put_epoch { e with nonce_bitmap := mark e.nonce_bitmap nonce_id } epochs) (calls ++ [(now, nonce_id)])
      now.toNat := by
  have hmem : ∀ {x}, x ∈ put_epoch { e with nonce_bitmap := mark e.nonce_bitmap nonce_id } epochs ↔
      x = { e with nonce_bitmap := mark e.nonce_bitmap nonce_id } ∨ (x ∈ epochs ∧ x.epoch_id ≠ e.epoch_id) :=
    mem_put_epoch h.distinct
  have hmap : (put_epoch { e with nonce_bitmap := mark e.nonce_bitmap nonce_id } epochs).map NonceEpoch.epoch_id =
      epochs.map NonceEpoch.epoch_id := map_put_epoch (show e.epoch_id ∈ _ from List.mem_map_of_mem he)
  obtain ⟨last, hclose⟩ := h.close
  refine ⟨?_, hmap ▸ h.distinct, ?_, ⟨last, ?_⟩, ?_, ?_⟩
  · intro x hx
    rcases hmem.mp hx with rfl | ⟨hx, -⟩
    · exact h.hours e he
    · exact h.hours x hx
  · intro x hx
    rcases hmem.mp hx with rfl | ⟨hx, -⟩
    · exact h.begun e he
    · exact h.begun x hx
  · intro x hx
    rcases hmem.mp hx with rfl | ⟨hx, -⟩
    · exact hclose e he
    · exact hclose x hx
  · intro x hx n
    simp only [List.mem_append, List.mem_singleton, or_and_right, exists_or, exists_eq_left]
    rcases hmem.mp hx with rfl | ⟨hx, hne⟩
    · rw [is_seen_mark, Bool.or_eq_true, decide_eq_true_eq, h.seen e he n]
      exact or_congr_right (and_iff_left hid.symm).symm
    · rw [h.seen x hx n]
      have hother : ¬(nonce_id = n ∧ hour now = x.epoch_id.toNat) := by
        rintro ⟨-, hhour⟩
        exact hne (UInt32.toNat_inj.mp (hhour.symm.trans hid.symm))
      rw [or_iff_left hother]
  · intro c hc
    rcases List.mem_append.mp hc with hc | hc
    · rcases h.stored c hc with ⟨x, hx, hxid⟩ | hover
      · by_cases heq : x.epoch_id = e.epoch_id
        · exact Or.inl ⟨_, hmem.mpr (Or.inl rfl), by rw [← hxid, heq]⟩
        · exact Or.inl ⟨x, hmem.mpr (Or.inr ⟨hx, heq⟩), hxid⟩
      · exact Or.inr hover
    · rw [List.mem_singleton.mp hc]
      exact Or.inl ⟨_, hmem.mpr (Or.inl rfl), hid⟩

/-- **Recording a nonce** at a later time. -/
theorem tracks_record {last : ℕ} (h : Tracks epochs calls last) (hlast : last ≤ now.toNat) (hnow : now.toNat < 2 ^ 32) :
    Tracks (record_nonce now epochs nonce_id) (calls ++ [(now, nonce_id)]) now.toNat := by
  obtain ⟨htracks, hmem, hid⟩ := (h.later hlast).get_or_create hnow
  exact htracks.put hmem hid

/-- The calls are made one after another, at times that are not too late, and all of them by the time `t`. -/
structure Ordered (calls : List (U64 × U32)) (t : U64) : Prop where
  sorted : (calls.map Prod.fst).Pairwise (· ≤ ·)
  below : ∀ c ∈ calls, c.1.toNat < 2 ^ 32
  by_then : ∀ c ∈ calls, c.1 ≤ t

theorem tracks_record_all (h : Ordered calls t) : Tracks (record_all calls) calls t.toNat := by
  induction calls using List.reverseRecOn generalizing t with
  | nil => exact tracks_nil.later (Nat.zero_le _)
  | append_singleton calls c ih =>
      obtain ⟨now, n⟩ := c
      have hsorted := h.sorted
      rw [List.map_append, List.pairwise_append] at hsorted
      have hbefore : Ordered calls now := by
        refine ⟨hsorted.1, fun c hc => h.below c (List.mem_append_left _ hc), fun c hc => ?_⟩
        exact hsorted.2.2 c.1 (List.mem_map_of_mem hc) now (by simp)
      have hlast := List.mem_append_right calls (List.mem_singleton_self (now, n))
      have hrecord : Tracks (record_nonce now (record_all calls) n) (calls ++ [(now, n)]) now.toNat :=
        tracks_record (ih hbefore) (le_refl _) (h.below _ hlast)
      rw [record_all, List.foldl_append]
      exact hrecord.later (UInt64.le_iff_toNat_le.mp (h.by_then _ hlast))

theorem verify_nonce_eq_false (h : Tracks epochs calls t.toNat) :
    verify_nonce t epochs n = false ↔ ∃ c ∈ calls, c.2 = n ∧ t.toNat - 86400 ≤ epoch_end c.1 := by
  have hvalid (e : NonceEpoch) : ¬e.end_timestamp < saturating_sub_u64 t NONCE_VALIDITY_WINDOW_SECS ↔
      t.toNat - 86400 ≤ e.end_timestamp.toNat := by
    rw [UInt64.not_lt, UInt64.le_iff_toNat_le, Contract.toNat_saturating_sub]
    rfl
  simp only [verify_nonce, Bool.not_eq_false', List.any_eq_true, Bool.and_eq_true, Bool.not_eq_true', decide_eq_false_iff_not,
    hvalid]
  constructor
  · rintro ⟨e, he, hkept, hseen⟩
    obtain ⟨c, hc, hn, hhour⟩ := (h.seen e he n).mp hseen
    have hend := h.hours e he
    rw [NonceEpoch.IsHour] at hend
    exact ⟨c, hc, hn, by rwa [epoch_end, hhour, ← hend]⟩
  · rintro ⟨c, hc, hn, hkept⟩
    rcases h.stored c hc with ⟨e, he, hid⟩ | hover
    · have hend := h.hours e he
      rw [NonceEpoch.IsHour, hid] at hend
      exact ⟨e, he, by rwa [hend], (h.seen e he n).mpr ⟨c, hc, hn, hid.symm⟩⟩
    · omega

/-- **The replay window is exact**: a nonce is refused when it was recorded in an hour that is not over for longer
than a day, and only then. So none of the last day is accepted again, and the stored epochs are few. -/
theorem replay_window (h : Ordered calls t) :
    (verify_nonce t (record_all calls) n = false ↔ ∃ c ∈ calls, c.2 = n ∧ t.toNat - 86400 ≤ epoch_end c.1) ∧
      (∀ c ∈ calls, t.toNat - c.1.toNat ≤ 86400 → verify_nonce t (record_all calls) c.2 = false) ∧
        (record_all calls).length ≤ MAX_NONCE_EPOCHS := by
  have htracks := tracks_record_all h
  refine ⟨verify_nonce_eq_false htracks, fun c hc hday => ?_, ?_⟩
  · refine (verify_nonce_eq_false htracks).mpr ⟨c, hc, rfl, ?_⟩
    unfold epoch_end hour
    omega
  · obtain ⟨last, hclose⟩ := htracks.close
    exact (length_le_of_close htracks.distinct hclose).trans (by decide)

/-- A nonce of the first hour is refused until a day after its end, and then it is accepted. -/
theorem replay_window_day :
    (verify_nonce 90000 (record_all [(100, 7), (50000, 8)]) 7 = false ↔
      ∃ c ∈ [((100, 7) : U64 × U32), (50000, 8)], c.2 = 7 ∧ (90000 : U64).toNat - 86400 ≤ epoch_end c.1) ∧
    (∀ c ∈ [((100, 7) : U64 × U32), (50000, 8)], (90000 : U64).toNat - c.1.toNat ≤ 86400 →
      verify_nonce 90000 (record_all [(100, 7), (50000, 8)]) c.2 = false) ∧
    (record_all [(100, 7), (50000, 8)]).length ≤ MAX_NONCE_EPOCHS :=
  replay_window ⟨by decide, by simp, by simp⟩

example : verify_nonce 90001 (record_all [(100, 7), (50000, 8)]) 7 = true := by decide +kernel

end Epochs

end BridgeWatch.SubmissionReplay

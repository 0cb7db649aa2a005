/-
The nonces of a sender, and the ids of messages.

A send has to name the nonce that the storage holds for its sender, which is then counted up. So the
accepted sends of a sender are numbered from zero on, and no two sends have sender and nonce in common.
The id of a message is the hash of a string from which both can be read back, and so no two have an id in
common, unless SHA-256 has a collision.
-/
import BridgeWatch.Fips
import BridgeWatch.RelayRuns
import BridgeWatch.SignedMessages

set_option autoImplicit false

namespace BridgeWatch.Relay

open Contract (U32 U64 I128 Address Env saturating_add_u64 append_u32 append_u64 be length_be of_be_be)

/-! ## What is sent -/

/-- No nonce is the last one of the type. -/
def Below (sent : List Sent) : Prop := ∀ r ∈ sent, r.nonce.toNat + 1 < 2 ^ 64

instance (sent : List Sent) : Decidable (Below sent) :=
  decidable_of_iff (sent.all (fun r => decide (r.nonce.toNat + 1 < 2 ^ 64)) = true)
    (by simp only [Below, List.all_eq_true, decide_eq_true_iff])

/-- The nonces of the accepted sends of a sender, in order. -/
def nonces (sent : List Sent) (sender : Address) : List ℕ :=
  (sent.filter fun r => r.sender = sender).map fun r => r.nonce.toNat

/-- The ids of the accepted sends, in order. -/
def ids (sent : List Sent) : List (BytesN 32) := sent.map Sent.message_id

/-- Two messages have an id in common only if they have sender and nonce in common. -/
def Faithful (sent : List Sent) : Prop :=
  ∀ r ∈ sent, ∀ r' ∈ sent, r.message_id = r'.message_id → r.sender = r'.sender ∧ r.nonce = r'.nonce

instance (sent : List Sent) : Decidable (Faithful sent) :=
  decidable_of_iff
    (sent.all (fun r => sent.all fun r' =>
      decide (r.message_id = r'.message_id → r.sender = r'.sender ∧ r.nonce = r'.nonce)) = true)
    (by simp only [Faithful, List.all_eq_true, decide_eq_true_iff])

theorem Faithful.mono {sent sent' : List Sent} (h : Faithful sent') (hsub : sent ⊆ sent') : Faithful sent :=
  fun r hr r' hr' => h r (hsub hr) r' (hsub hr')

theorem Below.mono {sent sent' : List Sent} (h : Below sent') (hsub : sent ⊆ sent') : Below sent :=
  fun r hr => h r (hsub hr)

/-- The log of the sends fits the storage. -/
structure Logged [RelayHost] (w : World) : Prop where
  numbered : ∀ sender, nonces w.sent sender = List.range (get_nonce w.storage sender).toNat
  known : ∀ id, w.storage.message id ≠ none → id ∈ ids w.sent
  distinct : w.sent.Pairwise fun r r' => ¬(r.sender = r'.sender ∧ r.nonce = r'.nonce)
  encoded : ∀ r ∈ w.sent, r.message_id = RelayHost.sha256 r.bytes ∧
    ∃ source_chain dest_chain payload timestamp,
      r.bytes = message_bytes source_chain dest_chain r.sender payload r.nonce timestamp

section

variable {P : MessageStatus → Prop} {env : Env} {w : World} {s s' : RelayStorage} {r : Sent}
variable {message : CrossChainMessage}

theorem Change.nonce_eq (h : Change P env s s') : s'.nonce = s.nonce := by
  cases h with
  | configured _ _ hnonce => exact hnonce
  | _ => rfl

/-- Only a send puts a message under a new id. -/
theorem Change.message_none (h : Change P env s s') {id : BytesN 32} (hid : s.message id = none) :
    s'.message id = none := by
  have hne : ∀ {id' message}, s.message id' = some message → id ≠ id' := by
    rintro id' message hsome rfl
    rw [hid] at hsome
    cases hsome
  cases h with
  | configured hmessage => rw [hmessage, hid]
  | registered => exact hid
  | deactivated => exact hid
  | verified hmessage | expired hmessage => rw [set_message_message, Function.update_of_ne (hne hmessage), hid]
  | relayed _ hmessage =>
      exact (Function.update_of_ne (hne hmessage) _ _).trans hid
  | cleaned _ hmarked =>
      rcases hmarked id with heq | ⟨m, hm, -⟩
      · exact heq.trans hid
      · exact absurd rfl (hne hm)

theorem toNat_saturating_succ {n : U64} (h : n.toNat + 1 < 2 ^ 64) : (saturating_add_u64 n 1).toNat = n.toNat + 1 := by
  have hone : UInt64.toNat 1 = 1 := rfl
  have hfits : n.toNat + UInt64.toNat 1 < 2 ^ 64 := by rw [hone]; exact h
  rw [saturating_add_u64, if_pos hfits, UInt64.toNat_add, hone, Nat.mod_eq_of_lt h]

variable [RelayHost]

theorem Logged.nonce_lt (h : Logged w) (hr : r ∈ w.sent) : r.nonce.toNat < (get_nonce w.storage r.sender).toNat := by
  have hmem : r.nonce.toNat ∈ nonces w.sent r.sender :=
    List.mem_map_of_mem (List.mem_filter.mpr ⟨hr, decide_eq_true rfl⟩)
  rw [h.numbered] at hmem
  exact List.mem_range.mp hmem

theorem Logged.sends (h : Logged w) (hbelow : r.nonce.toNat + 1 < 2 ^ 64) (hs : Sends env w.storage r message s') :
    Logged ⟨s', w.sent ++ [r]⟩ := by
  refine ⟨?_, ?_, ?_, ?_⟩
  · intro sender
    have hnonces : nonces (w.sent ++ [r]) sender =
        nonces w.sent sender ++ if r.sender = sender then [r.nonce.toNat] else [] := by
      rw [nonces, nonces, List.filter_append, List.map_append]
      by_cases hsender : r.sender = sender <;> simp [hsender]
    have hnext : get_nonce s' sender =
        (Function.update w.storage.nonce r.sender (some (saturating_add_u64 r.nonce 1)) sender).getD 0 := by
      rw [get_nonce, hs.nonce_eq]
    rw [hnonces, h.numbered, hnext]
    by_cases hsender : r.sender = sender
    · rw [if_pos hsender, ← hsender, Function.update_self, Option.getD_some, toNat_saturating_succ hbelow,
        List.range_succ, ← hs.nonce]
    · rw [if_neg hsender, List.append_nil, Function.update_of_ne (Ne.symm hsender)]
      rfl
  · intro id hid
    rw [ids, List.map_append, List.mem_append, List.map_singleton, List.mem_singleton]
    by_cases hnew : id = r.message_id
    · exact Or.inr hnew
    · rw [hs.message_eq, Function.update_of_ne hnew] at hid
      exact Or.inl (h.known id hid)
  · rw [List.pairwise_append]
    refine ⟨h.distinct, List.pairwise_singleton _ _, ?_⟩
    rintro r' hr' r'' hr'' ⟨hsender, hnonce⟩
    rw [List.mem_singleton.mp hr''] at hsender hnonce
    have hlt := h.nonce_lt hr'
    rw [hnonce, hsender, ← hs.nonce] at hlt
    exact absurd hlt (Nat.lt_irrefl _)
  · intro r' hr'
    rcases List.mem_append.mp hr' with hr' | hr'
    · exact h.encoded r' hr'
    · rw [List.mem_singleton.mp hr']
      exact ⟨hs.hash, _, _, _, _, hs.bytes⟩

theorem Logged.changed (h : Logged w) (hchange : Change P env w.storage s') : Logged ⟨s', w.sent⟩ := by
  refine ⟨?_, ?_, h.distinct, h.encoded⟩
  · intro sender
    rw [get_nonce, hchange.nonce_eq]
    exact h.numbered sender
  · intro id hid
    exact h.known id fun hnone => hid (hchange.message_none hnone)

theorem logged_empty : Logged ⟨empty_storage, []⟩ where
  numbered _ := rfl
  known _ hid := absurd rfl hid
  distinct := List.Pairwise.nil
  encoded _ hr := absurd hr List.not_mem_nil

/-- **The log fits the storage** in every state that is reached. -/
theorem logged_run {calls : List (Env × EntryPoint)} (hbelow : Below (run calls).sent) : Logged (run calls) := by
  refine run_invariant_all (I := fun w => Below w.sent → Logged w) ?_ ?_ hbelow
  · intro env w w' hw hact hbelow
    cases hact with
    | changed h => exact (hw hbelow).changed h
    | @sent r _ _ h =>
        have hr : r.nonce.toNat + 1 < 2 ^ 64 := hbelow r (List.mem_append_right _ (List.mem_singleton_self r))
        exact (hw fun r' hr' => hbelow r' (List.mem_append_left _ hr')).sends hr h
  · intro _
    exact logged_empty

/-! ## Ids -/

theorem Logged.ids_nodup (h : Logged w) (hfaithful : Faithful w.sent) : (ids w.sent).Nodup := by
  refine List.pairwise_map.mpr (h.distinct.imp_of_mem ?_)
  intro r r' hr hr' hdistinct hid
  exact hdistinct (hfaithful r hr r' hr' hid)

/-- The id of a new send is not in use. -/
theorem Logged.fresh (h : Logged w) (hlogged : Logged ⟨s', w.sent ++ [r]⟩) (hfaithful : Faithful (w.sent ++ [r])) :
    r.message_id ∉ ids w.sent ∧ w.storage.message r.message_id = none := by
  have hnodup : (ids (w.sent ++ [r])).Nodup := hlogged.ids_nodup hfaithful
  rw [ids, List.map_append, List.map_singleton, List.nodup_append] at hnodup
  have hnew : r.message_id ∉ ids w.sent :=
    fun hmem => hnodup.2.2 _ hmem _ (List.mem_singleton_self r.message_id) rfl
  refine ⟨hnew, ?_⟩
  by_contra hstored
  exact hnew (h.known r.message_id hstored)

/-- The texts of the senders are as long as an address, and no two senders share one. -/
structure Rendered (sent : List Sent) : Prop where
  length : ∀ r ∈ sent, (RelayHost.to_string r.sender).length = 56
  injective : ∀ r ∈ sent, ∀ r' ∈ sent, RelayHost.to_string r.sender = RelayHost.to_string r'.sender →
    r.sender = r'.sender

instance (sent : List Sent) : Decidable (Rendered sent) :=
  decidable_of_iff
    (sent.all (fun r => decide ((RelayHost.to_string r.sender).length = 56)) = true ∧
      sent.all (fun r => sent.all fun r' => decide (RelayHost.to_string r.sender = RelayHost.to_string r'.sender →
        r.sender = r'.sender)) = true)
    (by
      simp only [List.all_eq_true, decide_eq_true_iff]
      exact ⟨fun h => ⟨h.1, h.2⟩, fun h => ⟨h.length, h.injective⟩⟩)

/-- The nonce and the text of the sender can be read back from the bytes that are hashed. -/
theorem message_bytes_inj {source_chain source_chain' dest_chain dest_chain' : ChainId} {sender sender' : Address}
    {payload payload' : Buffer} {nonce nonce' timestamp timestamp' : U64}
    (hlength : (RelayHost.to_string sender).length = (RelayHost.to_string sender').length)
    (h : message_bytes source_chain dest_chain sender payload nonce timestamp =
      message_bytes source_chain' dest_chain' sender' payload' nonce' timestamp') :
    nonce = nonce' ∧ RelayHost.to_string sender = RelayHost.to_string sender' := by
  simp only [message_bytes, append_u32, append_u64, List.nil_append, List.append_assoc] at h
  have hbe : ∀ {w n n' : ℕ}, (be w n).length = (be w n').length := by
    intro w n n'
    rw [length_be, length_be]
  obtain ⟨-, h⟩ := List.append_inj h hbe
  obtain ⟨-, h⟩ := List.append_inj h hbe
  obtain ⟨hnonce, h⟩ := List.append_inj h hbe
  obtain ⟨-, h⟩ := List.append_inj h hbe
  have hread := congrArg Contract.of_be hnonce
  rw [of_be_be nonce.toNat_lt, of_be_be nonce'.toNat_lt] at hread
  exact ⟨UInt64.toNat_inj.mp hread, (List.append_inj h hlength).1⟩

theorem Logged.faithful (h : Logged w) (hrendered : Rendered w.sent)
    (hsha256 : RelayHost.sha256.CollisionFree (w.sent.map Sent.bytes)) : Faithful w.sent := by
  intro r hr r' hr' hid
  obtain ⟨hhash, source_chain, dest_chain, payload, timestamp, hbytes⟩ := h.encoded r hr
  obtain ⟨hhash', source_chain', dest_chain', payload', timestamp', hbytes'⟩ := h.encoded r' hr'
  rw [hhash, hhash'] at hid
  have heq := hsha256 (List.mem_map_of_mem hr) (List.mem_map_of_mem hr') hid
  rw [hbytes, hbytes'] at heq
  have hlength := (hrendered.length r hr).trans (hrendered.length r' hr').symm
  obtain ⟨hnonce, htext⟩ := message_bytes_inj hlength heq
  exact ⟨hrendered.injective r hr r' hr' htext, hnonce⟩

/-! ## Runs -/

theorem sent_step (w : World) (call : Env × EntryPoint) : w.sent ⊆ (step w call).sent := by
  unfold step
  split
  · exact List.subset_append_left _ _
  · exact List.Subset.refl _

theorem sent_run_append (calls later : List (Env × EntryPoint)) : (run calls).sent ⊆ (run (calls ++ later)).sent := by
  induction later using List.reverseRecOn with
  | nil => rw [List.append_nil]; exact List.Subset.refl _
  | append_singleton _ call ih =>
      rw [← List.append_assoc, run_concat]
      exact List.Subset.trans ih (sent_step _ call)

/-- An accepted send stores its message under an id that is not in use. -/
theorem send_fresh {calls : List (Env × EntryPoint)} {source_chain dest_chain : ChainId} {sender : Address}
    {payload : Buffer} {nonce ttl_override : U64} {priority : MessagePriority} {fee_paid : I128} {id : BytesN 32}
    {later : List (Env × EntryPoint)} {call : EntryPoint}
    (hcall : call = .send_message source_chain dest_chain sender payload nonce priority ttl_override fee_paid)
    (hbelow : Below (run (calls ++ (env, call) :: later)).sent)
    (hfaithful : Faithful (run (calls ++ (env, call) :: later)).sent)
    (hexec : exec env (run calls).storage call = .ok (.sent id, s')) : (run calls).storage.message id = none := by
  have hsub := sent_run_append (calls ++ [(env, call)]) later
  rw [List.append_assoc, List.singleton_append] at hsub
  have hlogged := logged_run (hbelow.mono hsub)
  have hlogged₀ := logged_run ((hbelow.mono hsub).mono (sent_run_append calls [(env, call)]))
  have hfaithful := hfaithful.mono hsub
  rw [run_concat, step_ok hexec, hcall] at hlogged hfaithful
  exact (hlogged₀.fresh hlogged hfaithful).2

/-- **No message can be replayed.** The accepted sends of a sender are numbered from zero on, no two accepted
sends return the same id, so no send overwrites a message, and a call that fails leaves the nonces. -/
theorem sends_numbered {calls : List (Env × EntryPoint)} (hbelow : Below (run calls).sent)
    (hrendered : Rendered (run calls).sent)
    (hsha256 : RelayHost.sha256.CollisionFree ((run calls).sent.map Sent.bytes)) :
    (∀ sender, nonces (run calls).sent sender = List.range (get_nonce (run calls).storage sender).toNat) ∧
      (ids (run calls).sent).Nodup ∧
      (∀ earlier later env source_chain dest_chain sender payload nonce priority ttl_override fee_paid id s',
        calls = earlier ++ (env, .send_message source_chain dest_chain sender payload nonce priority ttl_override
          fee_paid) :: later →
        exec env (run earlier).storage (.send_message source_chain dest_chain sender payload nonce priority
          ttl_override fee_paid) = .ok (.sent id, s') →
        (run earlier).storage.message id = none) ∧
      ∀ env call fault, exec env (run calls).storage call = .error fault → ∀ sender,
        get_nonce (step (run calls) (env, call)).storage sender = get_nonce (run calls).storage sender := by
  have hlogged := logged_run hbelow
  have hfaithful := hlogged.faithful hrendered hsha256
  refine ⟨hlogged.numbered, hlogged.ids_nodup hfaithful, ?_, ?_⟩
  · rintro earlier later env source_chain dest_chain sender payload nonce priority ttl_override fee_paid id s' rfl hexec
    exact send_fresh rfl hbelow hfaithful hexec
  · intro env call fault hexec sender
    rw [step_error hexec]

end

/-! ## An example -/

/-- The text of an address: a byte for its kind, the 32 bytes and a checksum, in base 32. -/
def strkey (address : Address) : Buffer :=
  let bytes : Buffer := match address with
    | .account key => 48 :: key.toList
    | .contract hash => 16 :: hash.toList
  let shift : ℕ → ℕ := fun crc => if crc < 0x8000 then 2 * crc else (2 * crc - 0x10000) ^^^ 0x1021
  let crc := bytes.foldl (fun crc b => shift^[8] (crc ^^^ b.toNat <<< 8)) 0
  let number : ℕ := Contract.of_be (bytes ++ [(crc % 256).toUInt8, (crc / 256).toUInt8])
  (List.range 56).map fun i =>
    let digit : ℕ := number / 32 ^ (55 - i) % 32
    if digit < 26 then (65 + digit).toUInt8 else (24 + digit).toUInt8

/-- The account that is all zeros. -/
example : strkey (.account (Vector.replicate 32 0)) =
    Contract.str "GAAAAAAAAAAAAAAAAAAAAAAAAAAAAAAAAAAAAAAAAAAAAAAAAAAAAWHF" := by
  decide +kernel

/-- The functions of the host. -/
abbrev stellar : RelayHost := ⟨Fips.sha256, strkey⟩

/-- An address for a concrete run. -/
def account (n : UInt8) : Address := .account (Vector.replicate 32 n)

/-- A time at which every address has authorised its call. -/
def signed_at (timestamp : U64) : Env := { timestamp, auth := fun _ => true }

def send (sender : Address) (payload : Buffer) (nonce : U64) (priority : MessagePriority) : EntryPoint :=
  .send_message .Stellar .Ethereum sender payload nonce priority 0 10000

/-- Two accounts send in turns, and a nonce is used again. -/
def three_sends : List (Env × EntryPoint) :=
  [(signed_at 0, .initialize_relay (account 0) 600), (signed_at 10, send (account 1) [1, 2] 0 .Low),
    (signed_at 10, send (account 2) [1, 2] 0 .High), (signed_at 10, send (account 1) [1, 2] 0 .Low),
    (signed_at 20, send (account 1) [1, 2] 1 .Critical)]

theorem sends_numbered_three :
    nonces (@run stellar three_sends).sent (account 1) = [0, 1] ∧ (ids (@run stellar three_sends).sent).Nodup := by
  obtain ⟨hbelow, hrendered, hsha256, hnonce⟩ :
      Below (@run stellar three_sends).sent ∧ @Rendered stellar (@run stellar three_sends).sent ∧
        Fips.sha256.CollisionFree ((@run stellar three_sends).sent.map Sent.bytes) ∧
        (get_nonce (@run stellar three_sends).storage (account 1)).toNat = 2 := by
    decide +kernel
  obtain ⟨hnumbered, hnodup, -⟩ := @sends_numbered stellar three_sends hbelow hrendered hsha256
  rw [hnumbered, hnonce]
  exact ⟨rfl, hnodup⟩

end BridgeWatch.Relay

/-
The messages of signed submissions: which submissions share their bytes.

The three messages are bare concatenations. No length stands before a string, no byte
says which of the three shapes a message has, and only the low half of a price goes in.
What a message leaves out of its submission is collected here as a layout. Among the
submissions of one layout the message is a bijection onto the words of one length, so a
submission shares its message with one of another layout as soon as the lengths agree.
-/
import BridgeWatch.ContractSubmissions
import BridgeWatch.FixedWidth

set_option autoImplicit false

namespace BridgeWatch.Contract

open FixedWidth

/-! ## Big-endian words -/

/-- The number that a word of bytes stands for, the highest byte first. -/
def of_be (word : Buffer) : ℕ := word.foldl (fun n b => n * 256 + b.toNat) 0

theorem of_be_concat (word : Buffer) (b : UInt8) : of_be (word ++ [b]) = of_be word * 256 + b.toNat :=
  List.foldl_append

theorem of_be_lt (word : Buffer) : of_be word < 256 ^ word.length := by
  induction word using List.reverseRecOn with
  | nil => decide
  | append_singleton _ b =>
      rw [of_be_concat, List.length_append, List.length_singleton, Nat.pow_succ]
      have := b.toNat_lt
      omega

@[simp] theorem length_be (w n : ℕ) : (be w n).length = w := by
  induction w generalizing n with
  | zero => rfl
  | succ _ ih => rw [be, List.length_append, ih, List.length_singleton]

theorem of_be_be {w n : ℕ} (h : n < 256 ^ w) : of_be (be w n) = n := by
  induction w generalizing n with
  | zero => exact (Nat.lt_one_iff.mp h).symm
  | succ w ih =>
      have hdiv : n / 256 < 256 ^ w := Nat.div_lt_of_lt_mul (by rwa [Nat.mul_comm, ← Nat.pow_succ])
      rw [be, of_be_concat, ih hdiv, Nat.toUInt8_eq, UInt8.toNat_ofNat']
      exact Nat.div_add_mod' n 256

theorem be_inj {w m n : ℕ} (hm : m < 256 ^ w) (hn : n < 256 ^ w) (h : be w m = be w n) : m = n := by
  rw [← of_be_be hm, h, of_be_be hn]

theorem be_of_be (word : Buffer) : be word.length (of_be word) = word := by
  induction word using List.reverseRecOn with
  | nil => rfl
  | append_singleton word b ih =>
      have hb := b.toNat_lt
      have hdiv : (of_be word * 256 + b.toNat) / 256 = of_be word := by omega
      have hmod : (of_be word * 256 + b.toNat).toUInt8 = b := by
        apply UInt8.toNat_inj.mp
        rw [Nat.toUInt8_eq, UInt8.toNat_ofNat']
        omega
      rw [of_be_concat, List.length_append, List.length_singleton, be, hdiv, hmod, ih]

/-- A `u32` field. -/
theorem encodes_u32 : Encodes (fun value : U32 => be 4 value.toNat) Set.univ 4 := by
  apply Encodes.of_inverse (fun word => UInt32.ofNat (of_be word))
  · intro value _
    exact length_be _ _
  · intro word _
    exact Set.mem_univ _
  · intro value _
    rw [of_be_be value.toNat_lt, UInt32.ofNat_toNat]
  · intro word hword
    have hlt : of_be word < 2 ^ 32 := by simpa [hword] using of_be_lt word
    have hread := be_of_be word
    rw [hword] at hread
    rw [UInt32.toNat_ofNat', Nat.mod_eq_of_lt hlt, hread]

/-- The field of a price, among the prices with the same high half. -/
theorem encodes_price {high : ℕ} (hhigh : high < 2 ^ 64) :
    Encodes (fun price : I128 => be 8 (I128.as_u64 price).toNat)
      {price | price.toNat / 2 ^ 64 = high} 8 := by
  apply Encodes.of_inverse (fun word => BitVec.ofNat 128 (high * 2 ^ 64 + of_be word))
  · intro price _
    exact length_be _ _
  · intro word hword
    have hlt : of_be word < 2 ^ 64 := by simpa [show word.length = 8 from hword] using of_be_lt word
    show (BitVec.ofNat 128 (high * 2 ^ 64 + of_be word)).toNat / 2 ^ 64 = high
    rw [BitVec.toNat_ofNat]
    omega
  · intro price hprice
    have hlow : (I128.as_u64 price).toNat = price.toNat % 2 ^ 64 := UInt64.toNat_ofNat'
    have hprice : price.toNat / 2 ^ 64 = high := hprice
    apply BitVec.eq_of_toNat_eq
    rw [of_be_be (I128.as_u64 price).toNat_lt, hlow, BitVec.toNat_ofNat, ← hprice]
    omega
  · intro word hword
    have hword : word.length = 8 := hword
    have hlt : of_be word < 2 ^ 64 := by simpa [hword] using of_be_lt word
    have hlow : (I128.as_u64 (BitVec.ofNat 128 (high * 2 ^ 64 + of_be word))).toNat = of_be word := by
      rw [I128.as_u64, UInt64.toNat_ofNat', BitVec.toNat_ofNat]
      omega
    rw [hlow, ← hword, be_of_be]

/-! ## Submissions -/

/-- A signed submission. -/
inductive Submission where
  | signed_health (record : HealthScoreBatch)
  | signed_price (asset_code : SString) (price : I128) (source : SString)
  | signed_batch (records : List HealthScoreBatch)
  deriving DecidableEq

/-- The message that is handed to the verification of the signatures. -/
def Submission.message : Submission → Except String Buffer
  | .signed_health record =>
      build_health_message record.asset_code record.health_score record.liquidity_score
        record.price_stability_score record.bridge_uptime_score
  | .signed_price asset_code price source => build_price_message asset_code price source
  | .signed_batch records => build_batch_message records

/-- What the message leaves out: the kind of the submission, the lengths of its strings, and
the high half of its price. -/
inductive Layout where
  | health (code : ℕ)
  | price (code source high : ℕ)
  | batch (codes : List ℕ)
  deriving DecidableEq

def Submission.layout : Submission → Layout
  | .signed_health record => .health record.asset_code.length
  | .signed_price asset_code price source =>
      .price asset_code.length source.length (price.toNat / 2 ^ 64)
  | .signed_batch records => .batch (records.map fun record => record.asset_code.length)

/-- The length of the messages of a layout. -/
def Layout.length : Layout → ℕ
  | .health code => code + 16
  | .price code source _ => code + 8 + source
  | .batch codes => (codes.map (· + 16)).sum

/-- The strings are short enough to be signed, and a batch is not empty. -/
def Layout.Admissible : Layout → Prop
  | .health code => code ≤ 256
  | .price code source _ => code ≤ 256 ∧ source ≤ 256
  | .batch codes => codes ≠ [] ∧ ∀ code ∈ codes, code ≤ 256

instance : DecidablePred Layout.Admissible
  | .health code => inferInstanceAs (Decidable (code ≤ 256))
  | .price code source _ => inferInstanceAs (Decidable (code ≤ 256 ∧ source ≤ 256))
  | .batch codes => inferInstanceAs (Decidable (codes ≠ [] ∧ ∀ code ∈ codes, code ≤ 256))

abbrev Submission.Admissible (x : Submission) : Prop := x.layout.Admissible

/-- The signatures on two submissions are checked against the same bytes. -/
def SameMessage (x y : Submission) : Prop :=
  ∃ message, x.message = .ok message ∧ y.message = .ok message

/-! ## The bytes of a message -/

/-- The bytes of a health record. -/
def record_bytes (record : HealthScoreBatch) : Buffer :=
  append_u32 (append_u32 (append_u32 (append_u32 record.asset_code record.health_score)
    record.liquidity_score) record.price_stability_score) record.bridge_uptime_score

def Submission.bytes : Submission → Buffer
  | .signed_health record => record_bytes record
  | .signed_price asset_code price source =>
      append_u64 asset_code (I128.as_u64 price) ++ source
  | .signed_batch records => records.flatMap record_bytes

theorem build_health_message_eq {record : HealthScoreBatch} (h : record.asset_code.length ≤ 256) :
    build_health_message record.asset_code record.health_score record.liquidity_score
      record.price_stability_score record.bridge_uptime_score = .ok (record_bytes record) := by
  unfold build_health_message
  rw [str_to_bytes_inner_eq_ok.mpr ⟨h, rfl⟩]
  rfl

theorem build_batch_message_eq {records : List HealthScoreBatch}
    (h : ∀ record ∈ records, record.asset_code.length ≤ 256) :
    build_batch_message records = .ok (records.flatMap record_bytes) := by
  -- the loop appends to what it has built so far
  have loop (buf : Buffer) : records.foldlM (fun batch_message item => do
      let component ← build_health_message item.asset_code item.health_score item.liquidity_score
        item.price_stability_score item.bridge_uptime_score
      return batch_message ++ component) buf =
        (.ok (buf ++ records.flatMap record_bytes) : Except String Buffer) := by
    induction records generalizing buf with
    | nil => simp [pure, Except.pure]
    | cons _ _ ih =>
        obtain ⟨hrecord, hrecords⟩ := List.forall_mem_cons.mp h
        rw [List.foldlM_cons, build_health_message_eq hrecord]
        simp only [bind, Except.bind, pure, Except.pure] at ih ⊢
        rw [ih hrecords, List.flatMap_cons, List.append_assoc]
  exact loop []

/-- An admissible submission has a message. -/
theorem Submission.message_eq {x : Submission} (h : x.Admissible) : x.message = .ok x.bytes := by
  cases x with
  | signed_health => exact build_health_message_eq h
  | signed_price asset_code price source =>
      show build_price_message asset_code price source = _
      unfold build_price_message
      rw [str_to_bytes_inner_eq_ok.mpr ⟨h.1, rfl⟩, str_to_bytes_inner_eq_ok.mpr ⟨h.2, rfl⟩]
      rfl
  | signed_batch =>
      apply build_batch_message_eq
      intro record hrecord
      exact h.2 _ (List.mem_map_of_mem hrecord)

theorem sameMessage_iff {x y : Submission} (hx : x.Admissible) (hy : y.Admissible) :
    SameMessage x y ↔ x.bytes = y.bytes := by
  unfold SameMessage
  rw [x.message_eq hx, y.message_eq hy]
  simp [eq_comm]

/-! ## The messages of one layout -/

/-- A health record from its fields. -/
def record_of (p : (((SString × U32) × U32) × U32) × U32) : HealthScoreBatch :=
  { asset_code := p.1.1.1.1
    health_score := p.1.1.1.2
    liquidity_score := p.1.1.2
    price_stability_score := p.1.2
    bridge_uptime_score := p.2 }

/-- The records whose asset codes have one length. -/
theorem encodes_record (code : ℕ) :
    Encodes record_bytes {record | record.asset_code.length = code} (code + 16) := by
  have hparts := ((((encodes_self code).append encodes_u32).append encodes_u32).append
    encodes_u32).append encodes_u32
  apply Encodes.of_parts record_of hparts
  intro record
  constructor
  · intro hrecord
    exact ⟨((((record.asset_code, record.health_score), record.liquidity_score),
      record.price_stability_score), record.bridge_uptime_score),
      ⟨⟨⟨⟨hrecord, trivial⟩, trivial⟩, trivial⟩, trivial⟩, rfl⟩
  · rintro ⟨p, hp, rfl⟩
    exact hp.1.1.1.1

/-- A submission of a price from its fields. -/
def price_of (p : (SString × I128) × SString) : Submission := .signed_price p.1.1 p.1.2 p.2

theorem layout_eq_health {x : Submission} {code : ℕ} :
    x.layout = .health code ↔
      ∃ record, record.asset_code.length = code ∧ Submission.signed_health record = x := by
  cases x <;> simp [Submission.layout]

theorem layout_eq_price {x : Submission} {code source high : ℕ} :
    x.layout = .price code source high ↔
      ∃ p : (SString × I128) × SString,
        ((p.1.1.length = code ∧ p.1.2.toNat / 2 ^ 64 = high) ∧ p.2.length = source) ∧
          price_of p = x := by
  cases x with
  | signed_price asset_code price source' =>
      simp only [Submission.layout, Layout.price.injEq, price_of]
      constructor
      · rintro ⟨hcode, hsource, hhigh⟩
        exact ⟨((asset_code, price), source'), ⟨⟨hcode, hhigh⟩, hsource⟩, rfl⟩
      · rintro ⟨p, ⟨⟨hcode, hhigh⟩, hsource⟩, heq⟩
        cases heq
        exact ⟨hcode, hsource, hhigh⟩
  | _ => simp [Submission.layout, price_of]

theorem layout_eq_batch {x : Submission} {codes : List ℕ} :
    x.layout = .batch codes ↔
      ∃ records : List HealthScoreBatch,
        records.map (fun record => record.asset_code.length) = codes ∧
          Submission.signed_batch records = x := by
  cases x <;> simp [Submission.layout]

/-- **One layout.** Among the submissions with the layout of `y`, the message is a bijection
onto the words of one length. -/
theorem encodes_layout (y : Submission) :
    Encodes Submission.bytes {x | x.layout = y.layout} y.layout.length := by
  cases y with
  | signed_health =>
      exact Encodes.of_parts .signed_health (encodes_record _) fun x => layout_eq_health
  | signed_price _ price =>
      have hhigh : price.toNat / 2 ^ 64 < 2 ^ 64 := by
        have := price.isLt
        omega
      exact Encodes.of_parts price_of
        (((encodes_self _).append (encodes_price hhigh)).append (encodes_self _))
        fun x => layout_eq_price
  | signed_batch =>
      exact Encodes.of_parts .signed_batch (Encodes.flatMap encodes_record _)
        fun x => layout_eq_batch

/-! ## Which submissions are told apart -/

/-- **Ambiguity.** The message of `x` tells it apart from every submission with the layout of
`y` if and only if the two layouts are the same or have messages of different lengths. -/
theorem unambiguous_iff {x y : Submission} (hx : x.Admissible) (hy : y.Admissible) :
    (∀ y' : Submission, y'.layout = y.layout → SameMessage x y' → y' = x) ↔
      x.layout = y.layout ∨ x.layout.length ≠ y.layout.length := by
  have hlength : x.bytes.length = x.layout.length := (encodes_layout x).length_eq rfl
  constructor
  · intro h
    by_contra hnot
    obtain ⟨hne, heq⟩ := not_or.mp hnot
    -- the message of `x` is also that of a submission with the other layout
    rw [Ne, not_not] at heq
    obtain ⟨y', hy', hbytes⟩ := (encodes_layout y).exists_eq (hlength.trans heq)
    have hadm : y'.Admissible := by
      rw [Submission.Admissible, show y'.layout = y.layout from hy']
      exact hy
    have hsame := h y' hy' ((sameMessage_iff hx hadm).mpr hbytes.symm)
    exact hne (hsame ▸ hy')
  · rintro h y' hy' hsame
    have hadm : y'.Admissible := by
      rw [Submission.Admissible, hy']
      exact hy
    have hbytes := (sameMessage_iff hx hadm).mp hsame
    rcases h with heq | hne
    · exact ((encodes_layout y).injOn heq hy' hbytes).symm
    · apply absurd _ hne
      rw [← hlength, hbytes, (encodes_layout y).length_eq hy']

/-- A health record for concrete submissions. -/
def sample_record : HealthScoreBatch :=
  { asset_code := str "USDC"
    health_score := 90
    liquidity_score := 80
    price_stability_score := 70
    bridge_uptime_score := 60 }

/-- A record alone shares its message with a batch of one record. -/
theorem unambiguous_iff_sample :
    ¬∀ y' : Submission, y'.layout = (Submission.signed_batch [sample_record]).layout →
      SameMessage (.signed_health sample_record) y' → y' = .signed_health sample_record := by
  intro h
  have hrecord : (Submission.signed_health sample_record).Admissible := by decide
  have hbatch : (Submission.signed_batch [sample_record]).Admissible := by decide
  exact absurd ((unambiguous_iff hrecord hbatch).mp h) (by decide)

/-- A submission of a price for concrete messages. -/
def sample_price (price : I128) : Submission := .signed_price (str "USDC") price (str "dex")

/-- **Shared messages.** Two prices that differ by `2^64` have the same message. -/
theorem shared_messages :
    (sample_price 1).Admissible ∧ (sample_price (1 + BitVec.ofNat 128 (2 ^ 64))).Admissible ∧
      SameMessage (sample_price 1) (sample_price (1 + BitVec.ofNat 128 (2 ^ 64))) ∧
        sample_price 1 ≠ sample_price (1 + BitVec.ofNat 128 (2 ^ 64)) := by
  have hlow : (sample_price 1).Admissible := by decide
  have hhigh : (sample_price (1 + BitVec.ofNat 128 (2 ^ 64))).Admissible := by decide
  exact ⟨hlow, hhigh, (sameMessage_iff hlow hhigh).mpr (by decide), by decide⟩

end BridgeWatch.Contract

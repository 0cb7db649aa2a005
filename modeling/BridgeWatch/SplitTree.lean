/-
Hash trees over any number of leaves that split at the largest power of two
below the number of leaves, and the paths inside them.

A path leads from a *block*, the perfect subtree over the last `2 ^ s` of the
first `m` leaves, up to the root; `s = 0` gives the path of leaf `m - 1`. The
sides of the path (`sides s m n`) depend on the sizes alone, so a verifier that
never sees the tree knows them, and `sides_eq` is the formula by which it does:
below the highest bit in which `m - 1` and `n - 1` differ the sides are the bits
of `m - 1`, above it every set bit is one step up the right border.

`Opens xs m bs ss ys` says that `ys` is a subtree of the tree over `xs` that ends
with leaf `m - 1`, and that `bs` and `ss` are its path. Openings are complete and
sound (`Opens.climb_eq`, `Opens.of_climb_eq`), and the part of a path that lies
to the left of the block gives the root over the first `m` leaves
(`Opens.climbRight_eq`). The last fact rests on `split_add`: two trees whose
sizes lie between the same powers of two split at the same place.
-/
import Mathlib.Data.Nat.Size
import BridgeWatch.PerfectTree

set_option autoImplicit false

namespace SplitTree

open HashPath

/-! ## The split -/

/-- The largest power of two below `n`, for `2 ≤ n`. -/
def split (n : ℕ) : ℕ := 2 ^ Nat.log2 (n - 1)

theorem split_pos (n : ℕ) : 0 < split n := by
  unfold split
  positivity

theorem split_lt {n : ℕ} (h : 2 ≤ n) : split n < n := by
  have := Nat.log2_self_le (show n - 1 ≠ 0 by omega)
  unfold split
  omega

theorem split_eq {n p : ℕ} (hlt : 2 ^ p < n) (hle : n ≤ 2 ^ (p + 1)) : split n = 2 ^ p := by
  have hpos : 0 < 2 ^ p := by positivity
  have hlog : Nat.log2 (n - 1) = p :=
    (Nat.log2_eq_iff (by omega)).mpr ⟨by omega, by omega⟩
  rw [split, hlog]

theorem length_take_split {D : Type*} {xs : List D} (h : 2 ≤ xs.length) :
    (xs.take (split xs.length)).length = split xs.length :=
  List.length_take_of_le (Nat.le_of_lt (split_lt h))

/-- The split as a power of two. -/
theorem exists_split {n : ℕ} (h : 2 ≤ n) :
    ∃ p, split n = 2 ^ p ∧ 2 ^ p < n ∧ n ≤ 2 ^ (p + 1) := by
  refine ⟨Nat.log2 (n - 1), rfl, split_lt h, ?_⟩
  have hlt : n - 1 < 2 ^ (Nat.log2 (n - 1) + 1) := Nat.lt_log2_self
  omega

/-- A tree that reaches beyond the split of a larger one splits where that does. -/
theorem split_add {n e : ℕ} (h : 2 ≤ n) (he : 0 < e) (hn : split n + e ≤ n) :
    split (split n + e) = split n := by
  obtain ⟨p, hp, -, hle⟩ := exists_split h
  rw [hp] at hn ⊢
  exact split_eq (by omega) (by omega)

/-! ## The tree -/

section Tree

variable {D : Type*} (nd : D → D → D) (empty : D)

/-- The root over the digests `xs`. -/
def mth (xs : List D) : D :=
  if _h : 2 ≤ xs.length then
    nd (mth (xs.take (split xs.length))) (mth (xs.drop (split xs.length)))
  else xs.headD empty
termination_by xs.length
decreasing_by
  all_goals
    have := split_lt _h
    have := split_pos xs.length
    simp only [List.length_take, List.length_drop]
    omega

/-- The inputs of the node hashes in the tree. -/
def nodeInputs (xs : List D) : List (D × D) :=
  if _h : 2 ≤ xs.length then
    (mth nd empty (xs.take (split xs.length)), mth nd empty (xs.drop (split xs.length))) ::
      (nodeInputs (xs.take (split xs.length)) ++ nodeInputs (xs.drop (split xs.length)))
  else []
termination_by xs.length
decreasing_by
  all_goals
    have := split_lt _h
    have := split_pos xs.length
    simp only [List.length_take, List.length_drop]
    omega

theorem mth_of_two_le {xs : List D} (h : 2 ≤ xs.length) :
    mth nd empty xs
      = nd (mth nd empty (xs.take (split xs.length))) (mth nd empty (xs.drop (split xs.length))) := by
  rw [mth, dif_pos h]

theorem mth_singleton (x : D) : mth nd empty [x] = x := by
  rw [mth, dif_neg (by simp)]
  rfl

theorem nodeInputs_of_two_le {xs : List D} (h : 2 ≤ xs.length) :
    nodeInputs nd empty xs
      = (mth nd empty (xs.take (split xs.length)), mth nd empty (xs.drop (split xs.length))) ::
        (nodeInputs nd empty (xs.take (split xs.length)) ++
          nodeInputs nd empty (xs.drop (split xs.length))) := by
  rw [nodeInputs, dif_pos h]

/-! ## Openings -/

/-- The subtree over `ys`, whose last leaf is leaf `m - 1` of `xs`, has the sides
`bs` and the siblings `ss` on its way to the root over `xs`, bottom up. -/
inductive Opens : List D → ℕ → List Bool → List D → List D → Prop
  | here (xs : List D) : Opens xs xs.length [] [] xs
  | left {xs ys : List D} {m : ℕ} {bs : List Bool} {ss : List D} (h : 2 ≤ xs.length)
      (ho : Opens (xs.take (split xs.length)) m bs ss ys) :
      Opens xs m (bs ++ [false]) (ss ++ [mth nd empty (xs.drop (split xs.length))]) ys
  | right {xs ys : List D} {m : ℕ} {bs : List Bool} {ss : List D} (h : 2 ≤ xs.length)
      (ho : Opens (xs.drop (split xs.length)) m bs ss ys) :
      Opens xs (split xs.length + m) (bs ++ [true])
        (ss ++ [mth nd empty (xs.take (split xs.length))]) ys

namespace Opens

variable {nd empty} {xs ys : List D} {m : ℕ} {bs : List Bool} {ss : List D}

theorem length_eq (ho : Opens nd empty xs m bs ss ys) : bs.length = ss.length := by
  induction ho with
  | here => rfl
  | left _ _ ih => simp [ih]
  | right _ _ ih => simp [ih]

theorem pos_le (ho : Opens nd empty xs m bs ss ys) (hxs : xs ≠ []) : 0 < m ∧ m ≤ xs.length := by
  induction ho with
  | here => exact ⟨List.length_pos_iff.mpr hxs, Nat.le_refl _⟩
  | @left xs _ _ _ _ h _ ih =>
      have hpos := split_pos xs.length
      have hlen := length_take_split h
      have := ih (List.ne_nil_of_length_pos (by omega))
      have := split_lt h
      omega
  | @right xs _ _ _ _ h _ ih =>
      have := split_lt h
      have hlen : (xs.drop (split xs.length)).length = xs.length - split xs.length :=
        List.length_drop
      have := ih (List.ne_nil_of_length_pos (by omega))
      omega

/-- **Completeness.** An opening climbs from the subtree's root to the tree's. -/
theorem climb_eq (ho : Opens nd empty xs m bs ss ys) :
    climb nd (mth nd empty ys) bs ss = mth nd empty xs := by
  induction ho with
  | here => rfl
  | left h ho ih | right h ho ih =>
      rw [climb_concat nd _ _ _ _ _ ho.length_eq, ih, mth_of_two_le nd empty h]
      rfl

/-- The part of the path to the left of the subtree leads to the root over the
leaves up to the subtree's last. -/
theorem climbRight_eq (ho : Opens nd empty xs m bs ss ys) (hxs : xs ≠ []) :
    climbRight nd (mth nd empty ys) bs ss = mth nd empty (xs.take m) := by
  induction ho with
  | here => rw [List.take_length]; rfl
  | @left xs _ _ _ _ h ho ih =>
      have hpos := split_pos xs.length
      have hlen := length_take_split h
      have hne : xs.take (split xs.length) ≠ [] := List.ne_nil_of_length_pos (by omega)
      have hle := (ho.pos_le hne).2
      rw [climbRight_append nd _ _ _ _ _ ho.length_eq, ih hne, List.take_take,
        Nat.min_eq_left (by omega)]
      rfl
  | @right xs _ m _ _ h ho ih =>
      have hlt := split_lt h
      have hlen : (xs.drop (split xs.length)).length = xs.length - split xs.length :=
        List.length_drop
      have hne : xs.drop (split xs.length) ≠ [] := List.ne_nil_of_length_pos (by omega)
      obtain ⟨hpos, hle⟩ := ho.pos_le hne
      have hlen' : (xs.take (split xs.length + m)).length = split xs.length + m := by
        rw [List.length_take]
        omega
      have hk := split_pos xs.length
      -- the shorter tree splits at the same place
      rw [climbRight_append nd _ _ _ _ _ ho.length_eq, ih hne,
        mth_of_two_le nd empty (show 2 ≤ (xs.take (split xs.length + m)).length by omega), hlen',
        split_add h hpos (by omega), List.take_take, Nat.min_eq_left (Nat.le_add_right _ _),
        List.drop_take, Nat.add_sub_cancel_left]
      rfl

variable {S : Set (D × D)}

/-- **Soundness.** Over collision-free inputs, a climb along the sides of an
opening reaches the root only from the subtree's root and with the opening's
siblings. The induction is on the opening, so it peels the last sibling first. -/
theorem of_climb_eq (hinj : Set.InjOn (Function.uncurry nd) S)
    (ho : Opens nd empty xs m bs ss ys) (hS : ∀ p ∈ nodeInputs nd empty xs, p ∈ S) (x : D) :
    ∀ ts : List D, ts.length = bs.length → (∀ p ∈ climbInputs nd x bs ts, p ∈ S) →
      climb nd x bs ts = mth nd empty xs → x = mth nd empty ys ∧ ts = ss := by
  induction ho with
  | here =>
      intro ts hlen _ hc
      obtain rfl := List.length_eq_zero_iff.mp hlen
      exact ⟨hc, rfl⟩
  | @left _ _ _ bs _ h _ ih =>
      intro ts hlen hT hc
      rw [nodeInputs_of_two_le nd empty h] at hS
      rcases List.eq_nil_or_concat' ts with rfl | ⟨ts, t, rfl⟩
      · simp at hlen
      have hlen' : ts.length = bs.length := by simpa using hlen
      rw [climbInputs_concat nd _ _ _ _ _ hlen'.symm] at hT
      rw [climb_concat nd _ _ _ _ _ hlen'.symm, mth_of_two_le nd empty h] at hc
      obtain ⟨hx, rfl⟩ := (step_inj nd hinj (hT _ (by simp)) (hS _ List.mem_cons_self) hc).1 rfl
      obtain ⟨hx', rfl⟩ := ih
        (fun p hp => hS p (List.mem_cons_of_mem _ (List.mem_append_left _ hp))) ts hlen'
        (fun p hp => hT p (List.mem_append_left _ hp)) hx
      exact ⟨hx', rfl⟩
  | @right _ _ _ bs _ h _ ih =>
      intro ts hlen hT hc
      rw [nodeInputs_of_two_le nd empty h] at hS
      rcases List.eq_nil_or_concat' ts with rfl | ⟨ts, t, rfl⟩
      · simp at hlen
      have hlen' : ts.length = bs.length := by simpa using hlen
      rw [climbInputs_concat nd _ _ _ _ _ hlen'.symm] at hT
      rw [climb_concat nd _ _ _ _ _ hlen'.symm, mth_of_two_le nd empty h] at hc
      obtain ⟨rfl, hx⟩ := (step_inj nd hinj (hT _ (by simp)) (hS _ List.mem_cons_self) hc).2 rfl
      obtain ⟨hx', rfl⟩ := ih
        (fun p hp => hS p (List.mem_cons_of_mem _ (List.mem_append_right _ hp))) ts hlen'
        (fun p hp => hT p (List.mem_append_left _ hp)) hx
      exact ⟨hx', rfl⟩

end Opens

/-! ## Paths -/

/-- The sides of the path of the block of `2 ^ s` leaves that ends with leaf
`m - 1`, in a tree over `n` leaves, bottom up. -/
def sides (s m n : ℕ) : List Bool :=
  if _h : 2 ^ s < n then
    if m ≤ split n then sides s m (split n) ++ [false]
    else sides s (m - split n) (n - split n) ++ [true]
  else []
termination_by n
decreasing_by
  all_goals
    have hs : 0 < 2 ^ s := by positivity
    have := split_lt (show 2 ≤ n by omega)
    have := split_pos n
    omega

/-- The siblings on that path. -/
def siblings (s m : ℕ) (xs : List D) : List D :=
  if _h : 2 ^ s < xs.length then
    if m ≤ split xs.length then
      siblings s m (xs.take (split xs.length)) ++ [mth nd empty (xs.drop (split xs.length))]
    else
      siblings s (m - split xs.length) (xs.drop (split xs.length)) ++
        [mth nd empty (xs.take (split xs.length))]
  else []
termination_by xs.length
decreasing_by
  all_goals
    have hs : 0 < 2 ^ s := by positivity
    have := split_lt (show 2 ≤ xs.length by omega)
    have := split_pos xs.length
    simp only [List.length_take, List.length_drop]
    omega

/-- The block itself. -/
def block (s m : ℕ) (xs : List D) : List D := (xs.drop (m - 2 ^ s)).take (2 ^ s)

theorem block_zero {i : ℕ} {xs : List D} (hi : i < xs.length) : block 0 (i + 1) xs = [xs[i]] := by
  rw [block, pow_zero, Nat.add_sub_cancel, List.drop_eq_getElem_cons hi]
  rfl

theorem block_take {s m k : ℕ} (xs : List D) (hs : 2 ^ s ≤ m) (hm : m ≤ k) :
    block s m (xs.take k) = block s m xs := by
  rw [block, block, List.drop_take, List.take_take, Nat.min_eq_left (by omega)]

theorem block_drop {s m k : ℕ} (xs : List D) (hs : 2 ^ s ≤ m) :
    block s m (xs.drop k) = block s (k + m) xs := by
  rw [block, block, List.drop_drop, Nat.add_sub_assoc hs]

theorem block_length {s : ℕ} {xs : List D} (hs : xs.length ≤ 2 ^ s) :
    block s xs.length xs = xs := by
  rw [block, Nat.sub_eq_zero_of_le hs, List.drop_zero, List.take_of_length_le hs]

theorem sides_of_le {s m n : ℕ} (h : n ≤ 2 ^ s) : sides s m n = [] := by
  rw [sides, dif_neg (by omega)]

theorem sides_left {s m n : ℕ} (h : 2 ^ s < n) (hm : m ≤ split n) :
    sides s m n = sides s m (split n) ++ [false] := by
  rw [sides, dif_pos h, if_pos hm]

theorem sides_right {s m n : ℕ} (h : 2 ^ s < n) (hm : split n < m) :
    sides s m n = sides s (m - split n) (n - split n) ++ [true] := by
  rw [sides, dif_pos h, if_neg (by omega)]

theorem siblings_of_le {s m : ℕ} {xs : List D} (h : xs.length ≤ 2 ^ s) :
    siblings nd empty s m xs = [] := by
  rw [siblings, dif_neg (by omega)]

theorem siblings_left {s m : ℕ} {xs : List D} (h : 2 ^ s < xs.length) (hm : m ≤ split xs.length) :
    siblings nd empty s m xs
      = siblings nd empty s m (xs.take (split xs.length)) ++
        [mth nd empty (xs.drop (split xs.length))] := by
  rw [siblings, dif_pos h, if_pos hm]

theorem siblings_right {s m : ℕ} {xs : List D} (h : 2 ^ s < xs.length)
    (hm : split xs.length < m) :
    siblings nd empty s m xs
      = siblings nd empty s (m - split xs.length) (xs.drop (split xs.length)) ++
        [mth nd empty (xs.take (split xs.length))] := by
  rw [siblings, dif_pos h, if_neg (by omega)]

/-- A block's size divides every split above it. -/
theorem dvd_split {s n : ℕ} (h : 2 ^ s < n) : 2 ^ s ∣ split n := by
  have hs : 0 < 2 ^ s := by positivity
  obtain ⟨p, hp, -, hle⟩ := exists_split (show 2 ≤ n by omega)
  rw [hp]
  exact pow_dvd_pow 2 (Nat.lt_succ_iff.mp ((Nat.pow_lt_pow_iff_right (by omega)).mp
    (Nat.lt_of_lt_of_le h hle)))

/-- **Paths are openings.** -/
theorem opens_siblings {s : ℕ} : ∀ (n : ℕ) {m : ℕ} {xs : List D}, xs.length = n → 2 ^ s ∣ m →
    0 < m → m ≤ xs.length →
    Opens nd empty xs m (sides s m xs.length) (siblings nd empty s m xs) (block s m xs) := by
  intro n
  induction n using Nat.strongRecOn with
  | ind _ ih =>
      intro m xs hn hdvd hpos hle
      subst hn
      have hs : 2 ^ s ≤ m := Nat.le_of_dvd hpos hdvd
      -- a block never crosses a split, so it lies in one half or is the tree
      rcases Nat.lt_or_ge (2 ^ s) xs.length with hlt | hge
      · have hs' : 0 < 2 ^ s := by positivity
        have h2 : 2 ≤ xs.length := by omega
        have hk := split_pos xs.length
        have hkn := split_lt h2
        rcases Nat.lt_or_ge (split xs.length) m with hright | hleft
        · obtain ⟨m, rfl⟩ : ∃ m', m = split xs.length + m' := ⟨m - split xs.length, by omega⟩
          have hdvd' : 2 ^ s ∣ m := (Nat.dvd_add_right (dvd_split hlt)).mp hdvd
          have hs'' : 2 ^ s ≤ m := Nat.le_of_dvd (by omega) hdvd'
          have hlen : (xs.drop (split xs.length)).length = xs.length - split xs.length :=
            List.length_drop
          have ho := ih _ (by omega) hlen hdvd' (by omega) (by omega)
          rw [block_drop xs hs'', hlen] at ho
          rw [sides_right hlt hright, siblings_right nd empty hlt hright, Nat.add_sub_cancel_left]
          exact Opens.right h2 ho
        · have hlen := length_take_split h2
          have ho := ih _ (by omega) hlen hdvd hpos (by omega)
          rw [block_take xs hs hleft, hlen] at ho
          rw [sides_left hlt hleft, siblings_left nd empty hlt hleft]
          exact Opens.left h2 ho
      · obtain rfl : m = xs.length := by omega
        rw [sides_of_le hge, siblings_of_le nd empty hge, block_length hge]
        exact Opens.here xs

end Tree

/-! ## The sides as bits -/

/-- The number of set bits. -/
def popCount (x : ℕ) : ℕ := if x = 0 then 0 else x % 2 + popCount (x / 2)

theorem popCount_eq (x : ℕ) : popCount x = x % 2 + popCount (x / 2) := by
  rcases Nat.eq_zero_or_pos x with rfl | hx
  · simp [popCount]
  · rw [popCount, if_neg (by omega)]

theorem popCount_two_pow_add {p : ℕ} : ∀ {x : ℕ}, x < 2 ^ p →
    popCount (2 ^ p + x) = popCount x + 1 := by
  induction p with
  | zero =>
      intro x hx
      obtain rfl : x = 0 := by omega
      simp [popCount]
  | succ p ih =>
      intro x hx
      rw [pow_succ] at hx ⊢
      rw [popCount_eq, popCount_eq x, show (2 ^ p * 2 + x) / 2 = 2 ^ p + x / 2 by omega,
        ih (by omega), Nat.add_comm (2 ^ p * 2), Nat.add_mul_mod_self_right, Nat.add_assoc]

/-- A number between two powers of two, by its top bit and the rest. -/
theorem exists_two_pow_add {p x : ℕ} (hle : 2 ^ p ≤ x) (hlt : x < 2 ^ (p + 1)) :
    ∃ y < 2 ^ p, x = 2 ^ p + y :=
  ⟨x - 2 ^ p, by omega, by omega⟩

theorem two_pow_add_eq_xor {p x : ℕ} (h : x < 2 ^ p) : 2 ^ p + x = 2 ^ p ^^^ x := by
  apply Nat.eq_of_testBit_eq
  intro j
  rw [Nat.testBit_xor, Nat.testBit_two_pow]
  rcases Nat.lt_trichotomy j p with hj | rfl | hj
  · rw [Nat.testBit_two_pow_add_gt hj]
    simp [Nat.ne_of_gt hj]
  · rw [Nat.testBit_two_pow_add_eq]
    simp
  · have hpow : 2 ^ (p + 1) ≤ 2 ^ j := Nat.pow_le_pow_right (by omega) hj
    rw [Nat.testBit_lt_two_pow (show 2 ^ p + x < 2 ^ j by omega),
      Nat.testBit_lt_two_pow (show x < 2 ^ j by omega)]
    simp [Nat.ne_of_lt hj]

/-- A common top bit drops out of a difference. -/
theorem two_pow_add_xor {p x y : ℕ} (hx : x < 2 ^ p) (hy : y < 2 ^ p) :
    (2 ^ p + x) ^^^ (2 ^ p + y) = x ^^^ y := by
  rw [two_pow_add_eq_xor hx, two_pow_add_eq_xor hy, Nat.xor_comm (2 ^ p) x, Nat.xor_assoc,
    ← Nat.xor_assoc (2 ^ p), Nat.xor_self, Nat.zero_xor]

/-- A difference in the top bit makes the size. -/
theorem size_xor_two_pow_add {p x y : ℕ} (hx : x < 2 ^ p) (hy : y < 2 ^ p) :
    Nat.size (x ^^^ (2 ^ p + y)) = p + 1 := by
  have hz := Nat.xor_lt_two_pow hx hy
  have hxor : x ^^^ (2 ^ p + y) = 2 ^ p + (x ^^^ y) := by
    rw [two_pow_add_eq_xor hy, two_pow_add_eq_xor hz, ← Nat.xor_assoc, Nat.xor_comm x,
      Nat.xor_assoc]
  rw [hxor]
  exact le_antisymm (Nat.size_le.mpr (by omega)) (Nat.succ_le_of_lt (Nat.lt_size.mpr (by omega)))

/-- Bits below the top one do not see it. -/
theorem bits_two_pow_add {p x s k : ℕ} (h : k + s ≤ p) :
    PTree.bits ((2 ^ p + x) / 2 ^ s) k = PTree.bits (x / 2 ^ s) k := by
  apply PTree.bits_congr
  intro j hj
  rw [Nat.testBit_div_two_pow, Nat.testBit_div_two_pow, Nat.testBit_two_pow_add_gt (by omega)]

/-- In a perfect tree the sides are bits. -/
theorem sides_two_pow {s m : ℕ} (hdvd : 2 ^ s ∣ m) (hpos : 0 < m) {p : ℕ} (hsp : s ≤ p)
    (hle : m ≤ 2 ^ p) : sides s m (2 ^ p) = PTree.bits ((m - 1) / 2 ^ s) (p - s) := by
  induction p, hsp using Nat.le_induction generalizing m with
  | base => rw [sides_of_le (Nat.le_refl _), Nat.sub_self]; rfl
  | succ p hsp ih =>
      have hk : split (2 ^ (p + 1)) = 2 ^ p :=
        split_eq (Nat.pow_lt_pow_right (by omega) (Nat.lt_succ_self p)) (Nat.le_refl _)
      have hlt : 2 ^ s < 2 ^ (p + 1) := Nat.pow_lt_pow_right (by omega) (by omega)
      have hhalf : 2 ^ (p + 1) - 2 ^ p = 2 ^ p := by rw [pow_succ]; omega
      rw [show p + 1 - s = p - s + 1 by omega, PTree.bits_succ, Nat.testBit_div_two_pow,
        Nat.sub_add_cancel hsp]
      rcases Nat.lt_or_ge (2 ^ p) m with hright | hleft
      · obtain ⟨y, hy, hm⟩ := exists_two_pow_add (p := p) (x := m - 1) (by omega) (by omega)
        have hdvd' : 2 ^ s ∣ m - 2 ^ p := Nat.dvd_sub hdvd (pow_dvd_pow 2 hsp)
        rw [sides_right hlt (by omega), hk, hhalf, ih hdvd' (by omega) (by omega), hm,
          show m - 2 ^ p - 1 = y by omega, Nat.testBit_two_pow_add_eq, Nat.testBit_lt_two_pow hy,
          bits_two_pow_add (by omega)]
        rfl
      · rw [sides_left hlt (by omega), hk, ih hdvd hpos hleft,
          Nat.testBit_lt_two_pow (show m - 1 < 2 ^ p by omega)]

/-- **The sides of a path, from the sizes.** Below the highest bit in which
`m - 1` and `n - 1` differ they are the bits of `m - 1`; above it, only the set
bits count, and each is a step from the right. -/
theorem sides_eq {s : ℕ} : ∀ (n : ℕ) {m : ℕ}, 2 ^ s ∣ m → 0 < m → m ≤ n → (m < n ∨ s = 0) →
    sides s m n
      = PTree.bits ((m - 1) / 2 ^ s) (Nat.size ((m - 1) ^^^ (n - 1)) - s) ++
        List.replicate (popCount ((m - 1) / 2 ^ Nat.size ((m - 1) ^^^ (n - 1)))) true := by
  intro n
  induction n using Nat.strongRecOn with
  | ind n ih =>
      intro m hdvd hpos hle hns
      have hs : 2 ^ s ≤ m := Nat.le_of_dvd hpos hdvd
      rcases Nat.lt_or_ge (2 ^ s) n with hlt | hge
      · have hs' : 0 < 2 ^ s := by positivity
        have h2 : 2 ≤ n := by omega
        obtain ⟨p, hp, hpn, hnp⟩ := exists_split h2
        have hsp : s ≤ p := Nat.lt_succ_iff.mp ((Nat.pow_lt_pow_iff_right (by omega)).mp
          (Nat.lt_of_lt_of_le hlt hnp))
        obtain ⟨y, hy, hn⟩ := exists_two_pow_add (p := p) (x := n - 1) (by omega) (by omega)
        rcases Nat.lt_or_ge (2 ^ p) m with hright | hleft
        · -- both have the top bit: it drops out, and the last step is from the right
          obtain ⟨x, hx, hm⟩ := exists_two_pow_add (p := p) (x := m - 1) (by omega) (by omega)
          have hdvd' : 2 ^ s ∣ m - 2 ^ p := Nat.dvd_sub hdvd (pow_dvd_pow 2 hsp)
          have hsize : Nat.size (x ^^^ y) ≤ p := Nat.size_le.mpr (Nat.xor_lt_two_pow hx hy)
          have hih := ih (n - 2 ^ p) (by omega) hdvd' (by omega) (by omega) (by omega)
          rw [show m - 2 ^ p - 1 = x by omega, show n - 2 ^ p - 1 = y by omega] at hih
          -- one more set bit above, the same bits below
          have hpop : (2 ^ p + x) / 2 ^ Nat.size (x ^^^ y)
              = 2 ^ (p - Nat.size (x ^^^ y)) + x / 2 ^ Nat.size (x ^^^ y) := by
            rw [← Nat.mul_add_div (by positivity : 0 < 2 ^ Nat.size (x ^^^ y)), ← pow_add,
              Nat.add_sub_cancel' hsize]
          have hquot : x / 2 ^ Nat.size (x ^^^ y) < 2 ^ (p - Nat.size (x ^^^ y)) := by
            rw [Nat.div_lt_iff_lt_mul (by positivity), ← pow_add, Nat.sub_add_cancel hsize]
            exact hx
          have hbits : PTree.bits ((2 ^ p + x) / 2 ^ s) (Nat.size (x ^^^ y) - s)
              = PTree.bits (x / 2 ^ s) (Nat.size (x ^^^ y) - s) :=
            bits_two_pow_add (by omega)
          rw [sides_right hlt (by omega), hp, hih, hm, hn, two_pow_add_xor hx hy, hbits, hpop,
            popCount_two_pow_add hquot, List.replicate_succ', List.append_assoc]
        · -- `n - 1` has the top bit and `m - 1` has not: the left half is perfect
          have hbit : (m - 1).testBit p = false :=
            Nat.testBit_lt_two_pow (show m - 1 < 2 ^ p by omega)
          have hzero : (m - 1) / 2 ^ (p + 1) = 0 := by
            rw [Nat.div_eq_zero_iff]
            exact Or.inr (by rw [pow_succ]; omega)
          rw [sides_left hlt (by omega), hp, sides_two_pow hdvd hpos hsp hleft, hn,
            size_xor_two_pow_add (by omega) hy, hzero, show p + 1 - s = p - s + 1 by omega,
            PTree.bits_succ, Nat.testBit_div_two_pow, Nat.sub_add_cancel hsp, hbit]
          simp [popCount]
      · -- a single leaf: only the path of length zero is left
        obtain rfl : s = 0 := by omega
        rw [pow_zero] at hge
        obtain rfl : m = 1 := by omega
        obtain rfl : n = 1 := by omega
        rw [sides_of_le (show 1 ≤ 2 ^ 0 by omega)]
        simp [popCount, PTree.bits]

/-- The block lies below the highest bit in which `m - 1` and `n - 1` differ. -/
theorem lt_size_xor {s m n : ℕ} (hdvd : 2 ^ s ∣ m) (hpos : 0 < m) (hlt : m < n) :
    s < Nat.size ((m - 1) ^^^ (n - 1)) := by
  by_contra hsize
  -- otherwise `m - 1` and `n - 1` lie in the same block, which ends with `m - 1`
  have hxor : ((m - 1) ^^^ (n - 1)) / 2 ^ s = 0 := by
    rw [Nat.div_eq_zero_iff]
    exact Or.inr (Nat.size_le.mp (Nat.not_lt.mp hsize))
  rw [Nat.xor_div_two_pow] at hxor
  have heq : (m - 1) / 2 ^ s = (n - 1) / 2 ^ s := by
    have h := congrArg (· ^^^ (n - 1) / 2 ^ s) hxor
    simpa [Nat.xor_assoc] using h
  obtain ⟨c, rfl⟩ := hdvd
  have hs : 0 < 2 ^ s := by positivity
  have hc : 0 < c := Nat.pos_of_mul_pos_left hpos
  have hm : (2 ^ s * c - 1) / 2 ^ s < c := by
    rw [Nat.div_lt_iff_lt_mul hs, Nat.mul_comm c]
    omega
  have hn : c ≤ (n - 1) / 2 ^ s := by
    rw [Nat.le_div_iff_mul_le hs, Nat.mul_comm c]
    omega
  omega

end SplitTree

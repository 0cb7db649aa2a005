/-
Mountain ranges: an append-only sequence kept as perfect trees of pairwise
distinct heights, one slot for each height.

This is the binary counter behind every Merkle mountain range. A
`MountainRange α h` holds the slots from height `h` on, and slot `k` can only
hold a perfect tree of height `k`, so the counter cannot be ill-formed. Appending
(`insert`) is the counter's increment: an occupied slot merges with the carried
tree and passes the result on, the first free slot keeps it.

The slots run from the smallest height upwards while the sequence runs the
other way: the tall mountains hold the old leaves. `Mountain.start` is the
position of a mountain's first leaf, and the fact that carries the arithmetic is
`Mountain.dvd_start`: it is a multiple of twice the mountain's width, so that
the low bits of a position in the sequence are the bits of the position inside
the mountain.
-/
import Mathlib.Data.Nat.Prime.Basic
import BridgeWatch.PerfectTree

set_option autoImplicit false

/-- The slots of a mountain range from height `h` upwards. -/
inductive MountainRange (α : Type*) : ℕ → Type _
  | nil {h : ℕ} : MountainRange α h
  | cons {h : ℕ} (slot : Option (PTree α h)) (rest : MountainRange α (h + 1)) : MountainRange α h

/-- One mountain of a range: its height, which is its slot, the position of its
first leaf in the sequence, and its tree. -/
structure Mountain (α : Type*) where
  height : ℕ
  start : ℕ
  tree : PTree α height

namespace MountainRange

variable {α D : Type*}

/-! ## The sequence -/

/-- The leaves in the order in which they were appended. -/
def leaves : {h : ℕ} → MountainRange α h → List α
  | _, nil => []
  | _, cons none rest => rest.leaves
  | _, cons (some t) rest => rest.leaves ++ t.leaves

/-- Append a whole perfect tree: merge upwards until a slot is free. -/
def insert : {h : ℕ} → MountainRange α h → PTree α h → MountainRange α h
  | _, nil, t => cons (some t) nil
  | _, cons none rest, t => cons (some t) rest
  | _, cons (some p) rest, t => cons none (rest.insert (PTree.node p t))

/-- The range of a sequence, appended leaf by leaf. -/
def ofList (xs : List α) : MountainRange α 0 :=
  xs.foldl (fun r a => r.insert (PTree.leaf a)) nil

theorem ofList_concat (xs : List α) (a : α) :
    ofList (xs ++ [a]) = (ofList xs).insert (PTree.leaf a) := by
  simp only [ofList, List.foldl_append, List.foldl_cons, List.foldl_nil]

theorem leaves_insert {h : ℕ} (r : MountainRange α h) (t : PTree α h) :
    (r.insert t).leaves = r.leaves ++ t.leaves := by
  induction r with
  | nil => rfl
  | cons slot _ ih =>
      cases slot with
      | none => rfl
      | some => rw [insert, leaves, ih, leaves, PTree.leaves, List.append_assoc]

@[simp] theorem leaves_ofList (xs : List α) : (ofList xs).leaves = xs := by
  induction xs using List.reverseRecOn with
  | nil => rfl
  | append_singleton _ _ ih => rw [ofList_concat, leaves_insert, ih, PTree.leaves]

/-- The slots from height `h` on hold a multiple of `2 ^ h` leaves. -/
theorem dvd_length_leaves {h : ℕ} (r : MountainRange α h) : 2 ^ h ∣ r.leaves.length := by
  induction r with
  | nil => exact dvd_zero _
  | @cons h slot rest ih =>
      have hrest : 2 ^ h ∣ rest.leaves.length := (pow_dvd_pow 2 (Nat.le_succ h)).trans ih
      cases slot with
      | none => exact hrest
      | some =>
          rw [leaves, List.length_append, PTree.length_leaves]
          exact hrest.add (dvd_refl _)

/-! ## The mountains -/

/-- The occupied slots, smallest mountain first. -/
def mountains : {h : ℕ} → MountainRange α h → List (Mountain α)
  | _, nil => []
  | _, cons none rest => rest.mountains
  | h, cons (some t) rest => ⟨h, rest.leaves.length, t⟩ :: rest.mountains

/-- Leaf `i` of the sequence lies in the mountain `m`. -/
def Mountain.Covers (m : Mountain α) (i : ℕ) : Prop := m.start ≤ i ∧ i < m.start + 2 ^ m.height

instance (m : Mountain α) (i : ℕ) : Decidable (Mountain.Covers m i) :=
  inferInstanceAs (Decidable (_ ∧ _))

/-- Walking up the slots to a mountain: past free slots and smaller mountains. -/
@[elab_as_elim]
theorem mem_induction {m : Mountain α}
    {motive : {h : ℕ} → (r : MountainRange α h) → m ∈ r.mountains → Prop}
    (free : ∀ {h : ℕ} (rest : MountainRange α (h + 1)) (hm : m ∈ rest.mountains),
      motive rest hm → motive (cons none rest) hm)
    (here : ∀ {h : ℕ} (t : PTree α h) (rest : MountainRange α (h + 1))
      (hm : m = ⟨h, rest.leaves.length, t⟩), motive (cons (some t) rest) (hm ▸ List.mem_cons_self))
    (above : ∀ {h : ℕ} (t : PTree α h) (rest : MountainRange α (h + 1))
      (hm : m ∈ rest.mountains), motive rest hm →
        motive (cons (some t) rest) (List.mem_cons_of_mem _ hm))
    {h : ℕ} {r : MountainRange α h} (hm : m ∈ r.mountains) : motive r hm := by
  induction r with
  | nil => simp [mountains] at hm
  | cons slot rest ih =>
      cases slot with
      | none => exact free rest hm (ih hm)
      | some t =>
          rcases List.mem_cons.mp hm with heq | hmem
          · exact here t rest heq
          · exact above t rest hmem (ih hmem)

/-- Walking up the slots to the smallest mountain: past free slots only. -/
@[elab_as_elim]
theorem head_induction {m : Mountain α} {ms : List (Mountain α)}
    {motive : {h : ℕ} → (r : MountainRange α h) → r.mountains = m :: ms → Prop}
    (free : ∀ {h : ℕ} (rest : MountainRange α (h + 1)) (hms : rest.mountains = m :: ms),
      motive rest hms → motive (cons none rest) hms)
    (here : ∀ {h : ℕ} (t : PTree α h) (rest : MountainRange α (h + 1))
      (hm : m = ⟨h, rest.leaves.length, t⟩) (hms : ms = rest.mountains),
        motive (cons (some t) rest) (by rw [hm, hms, mountains]))
    {h : ℕ} {r : MountainRange α h} (hms : r.mountains = m :: ms) : motive r hms := by
  induction r with
  | nil => simp [mountains] at hms
  | cons slot rest ih =>
      cases slot with
      | none => exact free rest hms (ih hms)
      | some t =>
          obtain ⟨hm, hrest⟩ := List.cons.inj hms
          exact here t rest hm.symm hrest.symm

theorem head_mem {h : ℕ} {r : MountainRange α h} {m : Mountain α} {ms : List (Mountain α)}
    (hms : r.mountains = m :: ms) : m ∈ r.mountains := by
  rw [hms]
  exact List.mem_cons_self

theorem height_le {h : ℕ} {r : MountainRange α h} {m : Mountain α} (hm : m ∈ r.mountains) :
    h ≤ m.height := by
  induction hm using mem_induction with
  | free _ _ ih | above _ _ _ ih => exact Nat.le_of_succ_le ih
  | here _ _ hm => rw [hm]

/-- A mountain starts at a multiple of twice its width. -/
theorem dvd_start {h : ℕ} {r : MountainRange α h} {m : Mountain α} (hm : m ∈ r.mountains) :
    2 ^ (m.height + 1) ∣ m.start := by
  induction hm using mem_induction with
  | free _ _ ih => exact ih
  | here _ rest hm => rw [hm]; exact rest.dvd_length_leaves
  | above _ _ _ ih => exact ih

/-- The leaves of a mountain are the stretch of the sequence it covers. -/
theorem leaves_eq_of_mem {h : ℕ} {r : MountainRange α h} {m : Mountain α}
    (hm : m ∈ r.mountains) :
    ∃ pre post, r.leaves = pre ++ m.tree.leaves ++ post ∧ pre.length = m.start := by
  induction hm using mem_induction with
  | free _ _ ih => exact ih
  | here _ rest hm =>
      -- a taller mountain holds older leaves, so nothing follows this one's
      subst hm
      exact ⟨rest.leaves, [], by simp [leaves], rfl⟩
  | above t _ _ ih =>
      obtain ⟨pre, post, heq, hlen⟩ := ih
      exact ⟨pre, post ++ t.leaves, by simp [leaves, heq], hlen⟩

/-- Every leaf lies in some mountain. -/
theorem exists_covers {h : ℕ} (r : MountainRange α h) {i : ℕ} (hi : i < r.leaves.length) :
    ∃ m ∈ r.mountains, Mountain.Covers m i := by
  induction r with
  | nil => simp [leaves] at hi
  | @cons h slot rest ih =>
      cases slot with
      | none => exact ih hi
      | some t =>
          rw [leaves, List.length_append, PTree.length_leaves] at hi
          rcases Nat.lt_or_ge i rest.leaves.length with hlt | hge
          · obtain ⟨m, hm, hc⟩ := ih hlt
            exact ⟨m, List.mem_cons_of_mem _ hm, hc⟩
          · exact ⟨⟨h, rest.leaves.length, t⟩, List.mem_cons_self, hge, hi⟩

/-- The mountain that holds leaf `i`. -/
def mountainOf {h : ℕ} (r : MountainRange α h) (i : ℕ) : Option (Mountain α) :=
  r.mountains.find? (fun m => Mountain.Covers m i)

theorem mountainOf_eq_some {h : ℕ} {r : MountainRange α h} {i : ℕ} {m : Mountain α}
    (h : r.mountainOf i = some m) : m ∈ r.mountains ∧ Mountain.Covers m i :=
  ⟨List.mem_of_find?_eq_some h, by simpa using List.find?_some h⟩

theorem exists_mountainOf {h : ℕ} (r : MountainRange α h) {i : ℕ} (hi : i < r.leaves.length) :
    ∃ m, r.mountainOf i = some m := by
  obtain ⟨m, hm, hc⟩ := r.exists_covers hi
  rw [← Option.isSome_iff_exists, mountainOf, List.find?_isSome]
  exact ⟨m, hm, by simpa using hc⟩

/-- Below the mountain's height, the bits of a position are those of the offset
inside the mountain. -/
theorem testBit_sub_start {h : ℕ} {r : MountainRange α h} {m : Mountain α}
    (hm : m ∈ r.mountains) {i : ℕ} (hi : m.start ≤ i) {k : ℕ} (hk : k < m.height) :
    (i - m.start).testBit k = i.testBit k := by
  -- the start is a multiple of a power of two above bit `k`
  obtain ⟨c, hc⟩ := (pow_dvd_pow 2 (show k + 1 ≤ m.height + 1 by omega)).trans (dvd_start hm)
  obtain ⟨j, rfl⟩ : ∃ j, i = j + 2 ^ (k + 1) * c := ⟨i - m.start, by omega⟩
  rw [hc, Nat.add_sub_cancel, Nat.testBit_eq_decide_div_mod_eq,
    Nat.testBit_eq_decide_div_mod_eq, pow_succ, mul_assoc,
    Nat.add_mul_div_left _ _ (by positivity : 0 < 2 ^ k), Nat.add_mul_mod_self_left]

/-- The leaf at a covered position is the one its low bits select in the mountain. -/
theorem getElem?_leaves_of_covers {h : ℕ} {r : MountainRange α h} {m : Mountain α}
    (hm : m ∈ r.mountains) {i : ℕ} (hc : Mountain.Covers m i) :
    r.leaves[i]? = some (m.tree.get i) := by
  obtain ⟨pre, post, heq, hlen⟩ := leaves_eq_of_mem hm
  have hpos : i - m.start = i % 2 ^ m.height := by
    obtain ⟨c, hcs⟩ := (pow_dvd_pow 2 (Nat.le_succ m.height)).trans (dvd_start hm)
    have hi : i = (i - m.start) + 2 ^ m.height * c := by have := hc.1; omega
    conv_rhs => rw [hi, Nat.add_mul_mod_self_left]
    exact (Nat.mod_eq_of_lt (by have := hc.2; omega)).symm
  rw [heq, List.append_assoc, List.getElem?_append_right (by rw [hlen]; exact hc.1), hlen, hpos,
    List.getElem?_append_left (by
      rw [PTree.length_leaves]; exact Nat.mod_lt _ (by positivity))]
  exact m.tree.getElem?_leaves i

/-- The sequence is the mountains' leaves, tallest mountain first. -/
theorem leaves_eq_flatMap {h : ℕ} (r : MountainRange α h) :
    r.leaves = r.mountains.reverse.flatMap (fun m => m.tree.leaves) := by
  induction r with
  | nil => rfl
  | cons slot _ ih =>
      cases slot with
      | none => exact ih
      | some => simp [leaves, mountains, ih]

theorem mountains_eq_nil_iff {h : ℕ} (r : MountainRange α h) :
    r.mountains = [] ↔ r.leaves = [] := by
  constructor
  · intro hm
    rw [leaves_eq_flatMap, hm]
    rfl
  · intro hl
    rcases hms : r.mountains with _ | ⟨m, ms⟩
    · rfl
    · -- a mountain has at least one leaf
      obtain ⟨pre, post, heq, -⟩ := leaves_eq_of_mem (head_mem hms)
      have hlen : m.tree.leaves.length = 0 := by
        rw [hl] at heq
        have := congrArg List.length heq
        simp only [List.length_nil, List.length_append] at this
        omega
      rw [PTree.length_leaves] at hlen
      exact absurd hlen (by positivity)

/-- The smallest mountain holds the last leaves. -/
theorem head_start_add {h : ℕ} {r : MountainRange α h} {m : Mountain α} {ms : List (Mountain α)}
    (hms : r.mountains = m :: ms) : m.start + 2 ^ m.height = r.leaves.length := by
  induction hms using head_induction with
  | free _ _ ih => exact ih
  | here _ _ hm => rw [hm, leaves, List.length_append, PTree.length_leaves]

/-- The smallest mountain starts at the beginning only when it is the only one. -/
theorem head_start_eq_zero_iff {h : ℕ} {r : MountainRange α h} {m : Mountain α}
    {ms : List (Mountain α)} (hms : r.mountains = m :: ms) : m.start = 0 ↔ ms = [] := by
  induction hms using head_induction with
  | free _ _ ih => exact ih
  | here _ _ hm hms => rw [hm, hms, mountains_eq_nil_iff, List.length_eq_zero_iff]

/-- The other mountains are strictly taller. -/
theorem head_height_lt {h : ℕ} {r : MountainRange α h} {m : Mountain α} {ms : List (Mountain α)}
    (hms : r.mountains = m :: ms) {m' : Mountain α} (hm' : m' ∈ ms) : m.height < m'.height := by
  induction hms using head_induction with
  | free _ _ ih => exact ih
  | here _ _ hm hms =>
      rw [hms] at hm'
      rw [hm]
      exact height_le hm'

/-- The smallest mountain covers position `i` exactly when some power of two
divides the number of leaves and `i` is among that many last ones. -/
theorem head_start_le_iff {r : MountainRange α 0} {m : Mountain α} {ms : List (Mountain α)}
    (hms : r.mountains = m :: ms) {i : ℕ} :
    m.start ≤ i ↔ ∃ k, 2 ^ k ∣ r.leaves.length ∧ r.leaves.length - 2 ^ k ≤ i := by
  have hadd := head_start_add hms
  have hdvd : 2 ^ (m.height + 1) ∣ m.start := dvd_start (head_mem hms)
  constructor
  · intro hi
    refine ⟨m.height, ?_, by omega⟩
    rw [← hadd]
    exact ((pow_dvd_pow 2 (Nat.le_succ _)).trans hdvd).add (dvd_refl _)
  · rintro ⟨k, hk, hi⟩
    -- a higher power of two would divide the width of the mountain
    have hle : k ≤ m.height := by
      by_contra hlt
      have hk' : 2 ^ (m.height + 1) ∣ m.start + 2 ^ m.height :=
        hadd ▸ (pow_dvd_pow 2 (by omega)).trans hk
      have hself := (Nat.dvd_add_right hdvd).mp hk'
      exact absurd (Nat.le_of_dvd (by positivity) hself)
        (by rw [Nat.not_le]; exact Nat.pow_lt_pow_right (by omega) (Nat.lt_succ_self _))
    have hpow : 2 ^ k ≤ 2 ^ m.height := Nat.pow_le_pow_right (by omega) hle
    omega

/-- There is a single mountain exactly when the number of leaves is a power of two. -/
theorem length_mountains_eq_one_iff (r : MountainRange α 0) :
    r.mountains.length = 1 ↔ ∃ k, r.leaves.length = 2 ^ k := by
  rcases hms : r.mountains with _ | ⟨m, ms⟩
  · rw [mountains_eq_nil_iff] at hms
    rw [hms]
    refine ⟨by simp, ?_⟩
    rintro ⟨k, hk⟩
    exact absurd hk.symm (by positivity)
  · have hadd := head_start_add hms
    have hzero := head_start_eq_zero_iff hms
    rw [List.length_cons, Nat.add_eq_right, List.length_eq_zero_iff, ← hzero]
    constructor
    · intro h
      exact ⟨m.height, by rw [← hadd, h, Nat.zero_add]⟩
    · rintro ⟨k, hk⟩
      obtain ⟨c, hc⟩ : 2 ^ (m.height + 1) ∣ m.start :=
        dvd_start (head_mem hms)
      -- the number of leaves is `2 ^ height` times the odd number `2 c + 1`
      have hodd : 2 ^ k = 2 ^ m.height * (2 * c + 1) := by
        rw [← hk, ← hadd, hc, pow_succ]; ring
      obtain ⟨j, -, hj⟩ := (Nat.dvd_prime_pow Nat.prime_two).mp
        (Dvd.intro_left _ hodd.symm : 2 * c + 1 ∣ 2 ^ k)
      have hc0 : c = 0 := by
        cases j with
        | zero => omega
        | succ => rw [pow_succ] at hj; omega
      rw [hc, hc0, Nat.mul_zero]

/-! ## Hashes -/

section Hash

variable (lf : α → D) (nd : D → D → D) (zero : D)

/-- The slots as digests, with `zero` in the free ones. -/
def slots : {h : ℕ} → MountainRange α h → List D
  | _, nil => []
  | _, cons none rest => zero :: rest.slots
  | _, cons (some t) rest => t.root lf nd :: rest.slots

/-- The peaks: the roots of the mountains, smallest first. -/
def peaks {h : ℕ} (r : MountainRange α h) : List D :=
  r.mountains.map (fun m => m.tree.root lf nd)

/-- The inputs of all node hashes in the range. -/
def nodeInputs {h : ℕ} (r : MountainRange α h) : List (D × D) :=
  r.mountains.flatMap (fun m => m.tree.nodeInputs lf nd)

theorem nodeInputs_cons_some {h : ℕ} (t : PTree α h) (rest : MountainRange α (h + 1)) :
    (cons (some t) rest).nodeInputs lf nd = t.nodeInputs lf nd ++ rest.nodeInputs lf nd := rfl

/-- Appending hashes nothing twice and forgets nothing. -/
theorem nodeInputs_subset_insert {h : ℕ} (r : MountainRange α h) (t : PTree α h) :
    r.nodeInputs lf nd ⊆ (r.insert t).nodeInputs lf nd ∧
      t.nodeInputs lf nd ⊆ (r.insert t).nodeInputs lf nd := by
  induction r with
  | nil => exact ⟨by simp [nodeInputs, mountains], by simp [insert, nodeInputs, mountains]⟩
  | cons slot rest ih =>
      cases slot with
      | none =>
          rw [insert, nodeInputs_cons_some]
          exact ⟨List.subset_append_right _ _, List.subset_append_left _ _⟩
      | some p =>
          -- the carry: both trees live on under the new node
          obtain ⟨hrest, hnode⟩ := ih (PTree.node p t)
          have hpt : p.nodeInputs lf nd ++ t.nodeInputs lf nd
              ⊆ (rest.insert (PTree.node p t)).nodeInputs lf nd :=
            fun q hq => hnode (List.mem_cons_of_mem _ hq)
          rw [nodeInputs_cons_some]
          refine ⟨List.append_subset.mpr ⟨fun q hq => hpt (List.mem_append_left _ hq), hrest⟩, ?_⟩
          intro q hq
          exact hpt (List.mem_append_right _ hq)

theorem nodeInputs_ofList_concat (xs : List α) (a : α) :
    (ofList xs).nodeInputs lf nd ⊆ (ofList (xs ++ [a])).nodeInputs lf nd := by
  rw [ofList_concat]
  exact (nodeInputs_subset_insert lf nd _ _).1

theorem tree_nodeInputs_subset {h : ℕ} {r : MountainRange α h} {m : Mountain α}
    (hm : m ∈ r.mountains) : m.tree.nodeInputs lf nd ⊆ r.nodeInputs lf nd :=
  fun _ hp => List.mem_flatMap.mpr ⟨m, hm, hp⟩

theorem tree_leaves_subset {h : ℕ} {r : MountainRange α h} {m : Mountain α}
    (hm : m ∈ r.mountains) : m.tree.leaves ⊆ r.leaves := by
  intro a ha
  obtain ⟨pre, post, heq, -⟩ := leaves_eq_of_mem hm
  rw [heq]
  exact List.mem_append_left _ (List.mem_append_right _ ha)

/-- The slot of a mountain holds its root. -/
theorem getElem?_slots {h : ℕ} {r : MountainRange α h} {m : Mountain α}
    (hm : m ∈ r.mountains) :
    (r.slots lf nd zero)[m.height - h]? = some (m.tree.root lf nd) := by
  -- one slot further up, the index is one smaller
  induction hm using mem_induction with
  | @free h _ hm ih | @above h _ _ hm ih =>
      rw [slots, show m.height - h = m.height - (h + 1) + 1 by have := height_le hm; omega]
      exact ih
  | here _ _ hm =>
      subst hm
      simp [slots]

/-- A tree's root is its leaf hash or the hash of one of its nodes. -/
theorem root_eq_cases {h : ℕ} (t : PTree α h) :
    (∃ a ∈ t.leaves, t.root lf nd = lf a) ∨
      ∃ p ∈ t.nodeInputs lf nd, t.root lf nd = nd p.1 p.2 := by
  cases t with
  | leaf a => exact Or.inl ⟨a, by simp [PTree.leaves], rfl⟩
  | node => exact Or.inr ⟨_, List.mem_cons_self, rfl⟩

/-- No hash in the range is `zero`: what lets `zero` mark the free slots. -/
structure NeZero {h : ℕ} (r : MountainRange α h) : Prop where
  leaf : ∀ a ∈ r.leaves, lf a ≠ zero
  node : ∀ p ∈ r.nodeInputs lf nd, nd p.1 p.2 ≠ zero

variable {lf nd zero}

theorem NeZero.root_ne {h : ℕ} {r : MountainRange α h} (hz : NeZero lf nd zero r)
    {m : Mountain α} (hm : m ∈ r.mountains) : m.tree.root lf nd ≠ zero := by
  rcases root_eq_cases lf nd m.tree with ⟨a, ha, heq⟩ | ⟨p, hp, heq⟩
  · rw [heq]
    exact hz.leaf a (tree_leaves_subset hm ha)
  · rw [heq]
    exact hz.node p (tree_nodeInputs_subset lf nd hm hp)

/-- The non-zero slots are the peaks. -/
theorem NeZero.filter_slots {h : ℕ} {r : MountainRange α h} (hz : NeZero lf nd zero r)
    (isZero : D → Bool) (hzero : ∀ d, isZero d = true ↔ d = zero) :
    (r.slots lf nd zero).filter (fun d => !isZero d) = r.peaks lf nd := by
  have hroots : ∀ m ∈ r.mountains, m.tree.root lf nd ≠ zero := fun m hm => hz.root_ne hm
  -- the induction takes slots away, and `NeZero` speaks of all of them
  clear hz
  have hfree : isZero zero = true := (hzero zero).mpr rfl
  induction r with
  | nil => rfl
  | @cons h slot _ ih =>
      cases slot with
      | none =>
          rw [slots, List.filter_cons_of_neg (by simp [hfree])]
          exact ih hroots
      | some t =>
          have ht : isZero (t.root lf nd) = false := by
            rw [Bool.eq_false_iff]
            intro hroot
            exact hroots ⟨h, _, t⟩ List.mem_cons_self ((hzero _).mp hroot)
          rw [slots, List.filter_cons_of_pos (by simp [ht]),
            ih (fun m hm => hroots m (List.mem_cons_of_mem _ hm))]
          rfl

/-- Mountains with the same roots hold the same leaves. -/
theorem map_leaves_eq_of_map_root_eq {A : Set α} {S : Set (D × D)}
    (hsep : PTree.Separated lf nd A S) {r r' : MountainRange α 0} (hA : ∀ a ∈ r.leaves, a ∈ A)
    (hA' : ∀ a ∈ r'.leaves, a ∈ A) (hS : ∀ p ∈ r.nodeInputs lf nd, p ∈ S)
    (hS' : ∀ p ∈ r'.nodeInputs lf nd, p ∈ S) : ∀ ms ms' : List (Mountain α),
      ms ⊆ r.mountains → ms' ⊆ r'.mountains →
      ms.map (fun m => m.tree.root lf nd) = ms'.map (fun m => m.tree.root lf nd) →
      ms.map (fun m => m.tree.leaves) = ms'.map (fun m => m.tree.leaves) := by
  intro ms
  induction ms with
  | nil =>
      intro ms' _ _ h
      obtain rfl := List.map_eq_nil_iff.mp h.symm
      rfl
  | cons m _ ih =>
      intro ms' hms hms' h
      cases ms' with
      | nil => simp at h
      | cons m' ms' =>
          rw [List.map_cons, List.map_cons, List.cons.injEq] at h
          obtain ⟨hm, hms⟩ := List.cons_subset.mp hms
          obtain ⟨hm', hms'⟩ := List.cons_subset.mp hms'
          have hleaves := PTree.leaves_eq_of_root_eq hsep m.tree m'.tree
            (fun a ha => hA a (tree_leaves_subset hm ha))
            (fun a ha => hA' a (tree_leaves_subset hm' ha))
            (fun p hp => hS p (tree_nodeInputs_subset lf nd hm hp))
            (fun p hp => hS' p (tree_nodeInputs_subset lf nd hm' hp)) h.1
          rw [List.map_cons, List.map_cons, ih ms' hms hms' h.2, hleaves]

/-- Over collision-free inputs the peaks determine the sequence. -/
theorem leaves_eq_of_peaks_eq {A : Set α} {S : Set (D × D)} (hsep : PTree.Separated lf nd A S)
    {r r' : MountainRange α 0} (hA : ∀ a ∈ r.leaves, a ∈ A) (hA' : ∀ a ∈ r'.leaves, a ∈ A)
    (hS : ∀ p ∈ r.nodeInputs lf nd, p ∈ S) (hS' : ∀ p ∈ r'.nodeInputs lf nd, p ∈ S)
    (h : r.peaks lf nd = r'.peaks lf nd) : r.leaves = r'.leaves := by
  have hleaves := map_leaves_eq_of_map_root_eq hsep hA hA' hS hS' r.mountains r'.mountains
    (List.Subset.refl _) (List.Subset.refl _) h
  rw [leaves_eq_flatMap, leaves_eq_flatMap, List.flatMap_def, List.flatMap_def, List.map_reverse,
    List.map_reverse, hleaves]

/-! ## Levels -/

variable (lf nd zero)

/-- The roots of all subtrees of height `j` in the range, left to right. -/
def level : {h : ℕ} → MountainRange α h → ℕ → List D
  | _, nil, _ => []
  | _, cons none rest, j => rest.level j
  | _, cons (some t) rest, j => rest.level j ++ t.level lf nd j

/-- A level below the slots has one node for every `2 ^ j` leaves. -/
theorem length_level_mul {h : ℕ} (r : MountainRange α h) {j : ℕ} (hj : j ≤ h) :
    (r.level lf nd j).length * 2 ^ j = r.leaves.length := by
  induction r with
  | nil => simp [level, leaves]
  | @cons _ slot _ ih =>
      cases slot with
      | none => exact ih (by omega)
      | some t =>
          rw [level, leaves, List.length_append, List.length_append, Nat.add_mul, ih (by omega),
            PTree.length_level lf nd t hj, PTree.length_leaves, ← pow_add, Nat.sub_add_cancel hj]

/-- Up to the height of the smallest mountain, a level ends with that mountain's. -/
theorem level_eq_of_head {h : ℕ} {r : MountainRange α h} {m : Mountain α}
    {ms : List (Mountain α)} (hms : r.mountains = m :: ms) {j : ℕ} (hj : j ≤ m.height) :
    ∃ pre, r.level lf nd j = pre ++ m.tree.level lf nd j ∧ pre.length * 2 ^ j = m.start := by
  induction hms using head_induction with
  | free _ _ ih => exact ih
  | here _ rest hm =>
      subst hm
      exact ⟨rest.level lf nd j, rfl, length_level_mul lf nd rest (Nat.le_succ_of_le hj)⟩

/-- Below the smallest mountain's peak every level has two nodes or more. -/
theorem two_le_length_level {h : ℕ} {r : MountainRange α h} {m : Mountain α}
    {ms : List (Mountain α)} (hms : r.mountains = m :: ms) {j : ℕ} (hj : j < m.height) :
    2 ≤ (r.level lf nd j).length := by
  obtain ⟨pre, heq, -⟩ := level_eq_of_head lf nd hms (Nat.le_of_lt hj)
  obtain ⟨k, hk⟩ : ∃ k, m.height - j = k + 1 := ⟨m.height - j - 1, by omega⟩
  rw [heq, List.length_append, PTree.length_level lf nd _ (Nat.le_of_lt hj), hk, pow_succ]
  have : 0 < 2 ^ k := by positivity
  omega

/-- A leaf of the smallest mountain finds its siblings in the levels of the whole
range, at the positions that its position in the sequence gives. -/
theorem getElem?_level_pairIndex {r : MountainRange α 0} {m : Mountain α}
    {ms : List (Mountain α)} (hms : r.mountains = m :: ms) {i j : ℕ}
    (hc : Mountain.Covers m i) (hj : j < m.height) :
    (r.level lf nd j)[PTree.pairIndex (i / 2 ^ j)]?
      = (m.tree.siblings lf nd (i - m.start))[j]? := by
  obtain ⟨pre, heq, hlen⟩ := level_eq_of_head lf nd hms (Nat.le_of_lt hj)
  -- what stands before the mountain's part of the level is even in number
  obtain ⟨c, hstart⟩ : 2 ^ (j + 1) ∣ m.start :=
    (pow_dvd_pow 2 (by omega)).trans (dvd_start (head_mem hms))
  have hpre : pre.length = 2 * c := by
    apply Nat.eq_of_mul_eq_mul_right (show 0 < 2 ^ j by positivity)
    rw [hlen, hstart]
    ring
  obtain ⟨o, ho, rfl⟩ : ∃ o, o < 2 ^ m.height ∧ i = m.start + o :=
    ⟨i - m.start, by have := hc.1; have := hc.2; omega, by have := hc.1; omega⟩
  have hdiv : (m.start + o) / 2 ^ j = 2 * c + o / 2 ^ j := by
    rw [hstart, show 2 ^ (j + 1) * c = 2 ^ j * (2 * c) by ring]
    exact Nat.mul_add_div (by positivity) _ _
  rw [heq, hdiv, PTree.pairIndex_add (by omega), Nat.add_sub_cancel_left,
    List.getElem?_append_right (by omega), hpre, Nat.add_sub_cancel_left]
  exact PTree.getElem?_level_pairIndex lf nd m.tree ho hj

/-- No mountain lies below the smallest: those slots are free. -/
theorem getElem?_slots_of_lt_head {h : ℕ} {r : MountainRange α h} {m : Mountain α}
    {ms : List (Mountain α)} (hms : r.mountains = m :: ms) {j : ℕ} (hhj : h ≤ j)
    (hj : j < m.height) : (r.slots lf nd zero)[j - h]? = some zero := by
  induction hms using head_induction with
  | @free h _ _ ih =>
      by_cases hjh : j = h
      · rw [hjh, Nat.sub_self]
        rfl
      · rw [slots, show j - h = j - (h + 1) + 1 by omega]
        exact ih (by omega)
  | here _ _ hm =>
      -- slot `j` would lie below the lowest one
      rw [hm] at hj
      exact absurd (Nat.lt_of_le_of_lt hhj hj) (Nat.lt_irrefl _)

end Hash

end MountainRange

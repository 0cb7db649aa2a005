/-
Perfect binary hash trees, and what a climb inside one of them proves.

A `PTree α h` is a perfect tree of height `h` by construction, so no statement
below carries a well-formedness hypothesis. The relation `Opens t bs ss u` says
that the sides `bs` and the siblings `ss` (bottom up) lead from the subtree `u`
to the root of `t`. The two main results are its completeness and its
soundness: an opening climbs to the root (`Opens.climb_eq`), and over
collision-free inputs nothing but an opening does (`opens_of_climb_eq`). The
second one is about attacker-chosen siblings of any number, which is why it
ends in *some* subtree `u` and not in a leaf.

A leaf position `i` enters through its bits: `bits i s` are the sides that the
parities of `i`, `i / 2`, `i / 4`, ... select.
-/
import Mathlib.Data.Nat.Bitwise
import Mathlib.Tactic.Ring
import Mathlib.Tactic.Positivity
import BridgeWatch.HashPath

set_option autoImplicit false

/-- A perfect binary tree of height `h` with `2 ^ h` leaves in `α`. -/
inductive PTree (α : Type*) : ℕ → Type _
  | leaf (a : α) : PTree α 0
  | node {h : ℕ} (l r : PTree α h) : PTree α (h + 1)

namespace PTree

open HashPath

variable {α D : Type*}

/-! ## Leaves -/

/-- The leaves, left to right. -/
def leaves : {h : ℕ} → PTree α h → List α
  | _, leaf a => [a]
  | _, node l r => l.leaves ++ r.leaves

theorem length_leaves {h : ℕ} (t : PTree α h) : t.leaves.length = 2 ^ h := by
  induction t with
  | leaf => rfl
  | node _ _ ihl ihr =>
      rw [leaves, List.length_append, ihl, ihr]
      ring

/-- The leaf that the low `h` bits of `i` select. -/
def get : {h : ℕ} → PTree α h → ℕ → α
  | _, leaf a, _ => a
  | h + 1, node l r, i => if i.testBit h then r.get i else l.get i

/-- `get` only reads the low bits, so whole multiples of `2 ^ h` do not matter. -/
theorem getElem?_leaves {h : ℕ} (t : PTree α h) (i : ℕ) :
    t.leaves[i % 2 ^ h]? = some (t.get i) := by
  induction t with
  | leaf => simp [leaves, get, Nat.mod_one]
  | @node h _ _ ihl ihr =>
      have hlt : i % 2 ^ h < 2 ^ h := Nat.mod_lt _ (by positivity)
      have hmod : i % 2 ^ (h + 1) = i % 2 ^ h + 2 ^ h * (i / 2 ^ h % 2) := by
        rw [pow_succ, Nat.mod_mul]
      rw [leaves, get, hmod]
      cases hb : i.testBit h with
      | false =>
          have h0 : i / 2 ^ h % 2 = 0 := by
            simpa [Nat.testBit_eq_decide_div_mod_eq] using hb
          rw [h0, Nat.mul_zero, Nat.add_zero,
            List.getElem?_append_left (by rw [length_leaves]; exact hlt)]
          simpa using ihl
      | true =>
          have h1 : i / 2 ^ h % 2 = 1 := by
            simpa [Nat.testBit_eq_decide_div_mod_eq] using hb
          rw [h1, Nat.mul_one,
            List.getElem?_append_right (by rw [length_leaves]; omega), length_leaves,
            Nat.add_sub_cancel]
          simpa using ihr

/-! ## Hashes -/

section Hash

variable (lf : α → D) (nd : D → D → D)

/-- The root hash, from a leaf hash `lf` and a node hash `nd`. -/
def root : {h : ℕ} → PTree α h → D
  | _, leaf a => lf a
  | _, node l r => nd l.root r.root

/-- The inputs of the node hashes in the tree. -/
def nodeInputs : {h : ℕ} → PTree α h → List (D × D)
  | _, leaf _ => []
  | _, node l r => (root lf nd l, root lf nd r) :: (l.nodeInputs ++ r.nodeInputs)

/-- The sibling hashes on the way from leaf `i` up to the root. -/
def siblings : {h : ℕ} → PTree α h → ℕ → List D
  | _, leaf _, _ => []
  | h + 1, node l r, i =>
      if i.testBit h then r.siblings i ++ [root lf nd l] else l.siblings i ++ [root lf nd r]

/-- The sides that the bits of `i` select, lowest bit first. -/
def bits (i s : ℕ) : List Bool := (List.range s).map i.testBit

@[simp] theorem length_bits (i s : ℕ) : (bits i s).length = s := by simp [bits]

theorem bits_succ (i s : ℕ) : bits i (s + 1) = bits i s ++ [i.testBit s] := by
  simp [bits, List.range_succ]

theorem bits_succ' (i s : ℕ) : bits i (s + 1) = i.testBit 0 :: bits (i / 2) s := by
  simp [bits, List.range_succ_eq_map, Function.comp_def, Nat.testBit_succ]

theorem bits_congr {i j s : ℕ} (h : ∀ k < s, i.testBit k = j.testBit k) : bits i s = bits j s :=
  List.map_congr_left fun k hk => h k (List.mem_range.mp hk)

theorem length_siblings {h : ℕ} (t : PTree α h) (i : ℕ) :
    (t.siblings lf nd i).length = h := by
  induction t with
  | leaf => rfl
  | node _ _ ihl ihr =>
      rw [siblings]
      split_ifs <;> simp [ihl, ihr]

/-- Two positions with the same low bits have the same siblings. -/
theorem siblings_congr {h : ℕ} (t : PTree α h) {i j : ℕ}
    (hij : ∀ k < h, i.testBit k = j.testBit k) :
    t.siblings lf nd i = t.siblings lf nd j := by
  induction t with
  | leaf => rfl
  | @node h _ _ ihl ihr =>
      rw [siblings, siblings, hij h (Nat.lt_succ_self h),
        ihl (fun k hk => hij k (Nat.lt_succ_of_lt hk)),
        ihr (fun k hk => hij k (Nat.lt_succ_of_lt hk))]

/-! ## Openings -/

/-- The sides `bs` and siblings `ss`, bottom up, lead from the subtree `u` of
`t` to the root of `t`. -/
inductive Opens : {h : ℕ} → PTree α h → List Bool → List D → {k : ℕ} → PTree α k → Prop
  | here {h : ℕ} (t : PTree α h) : Opens t [] [] t
  | left {h k : ℕ} {l : PTree α h} (r : PTree α h) {u : PTree α k} {bs : List Bool}
      {ss : List D} (hl : Opens l bs ss u) :
      Opens (node l r) (bs ++ [false]) (ss ++ [root lf nd r]) u
  | right {h k : ℕ} (l : PTree α h) {r : PTree α h} {u : PTree α k} {bs : List Bool}
      {ss : List D} (hr : Opens r bs ss u) :
      Opens (node l r) (bs ++ [true]) (ss ++ [root lf nd l]) u

namespace Opens

variable {lf nd} {h k : ℕ} {t : PTree α h} {u : PTree α k} {bs : List Bool} {ss : List D}

theorem length_eq (ho : Opens lf nd t bs ss u) : bs.length = ss.length := by
  induction ho with
  | here => rfl
  | left _ _ ih => simp [ih]
  | right _ _ ih => simp [ih]

/-- **Completeness.** An opening climbs from the subtree's root to the tree's. -/
theorem climb_eq (ho : Opens lf nd t bs ss u) :
    climb nd (root lf nd u) bs ss = root lf nd t := by
  induction ho with
  | here => rfl
  | left _ hl ih =>
      rw [climb_concat nd _ _ _ _ _ hl.length_eq, ih]
      rfl
  | right _ hr ih =>
      rw [climb_concat nd _ _ _ _ _ hr.length_eq, ih]
      rfl

/-- The leaves under the subtree are among the leaves of the tree. -/
theorem leaves_subset (ho : Opens lf nd t bs ss u) : u.leaves ⊆ t.leaves := by
  induction ho with
  | here => exact List.Subset.refl _
  | left _ _ ih =>
      intro a ha
      exact List.mem_append_left _ (ih ha)
  | right _ _ ih =>
      intro a ha
      exact List.mem_append_right _ (ih ha)

/-- An inner node that is opened is hashed in the tree. -/
theorem nodeInputs_subset (ho : Opens lf nd t bs ss u) :
    u.nodeInputs lf nd ⊆ t.nodeInputs lf nd := by
  induction ho with
  | here => exact List.Subset.refl _
  | left _ _ ih =>
      intro p hp
      exact List.mem_cons_of_mem _ (List.mem_append_left _ (ih hp))
  | right _ _ ih =>
      intro p hp
      exact List.mem_cons_of_mem _ (List.mem_append_right _ (ih hp))

end Opens

/-- The siblings of leaf `i` open that leaf along the bits of `i`. -/
theorem opens_siblings {h : ℕ} (t : PTree α h) (i : ℕ) :
    Opens lf nd t (bits i h) (t.siblings lf nd i) (leaf (t.get i)) := by
  induction t with
  | leaf => exact Opens.here _
  | @node h l r ihl ihr =>
      rw [bits_succ, siblings, get]
      cases i.testBit h with
      | false => exact Opens.left r ihl
      | true => exact Opens.right l ihr

/-! ## Levels -/

/-- The other position of the pair that `p` belongs to. -/
def pairIndex (p : ℕ) : ℕ := if p % 2 = 0 then p + 1 else p - 1

theorem pairIndex_add {q : ℕ} (hq : q % 2 = 0) (p : ℕ) : pairIndex (q + p) = q + pairIndex p := by
  unfold pairIndex
  split_ifs <;> omega

theorem pairIndex_lt {p k : ℕ} (hp : p < 2 ^ (k + 1)) : pairIndex p < 2 ^ (k + 1) := by
  rw [pow_succ] at hp ⊢
  unfold pairIndex
  split_ifs <;> omega

/-- The roots of the subtrees of height `j`, left to right. -/
def level : {h : ℕ} → PTree α h → ℕ → List D
  | _, leaf a, j => if j = 0 then [lf a] else []
  | h + 1, node l r, j =>
      l.level j ++ r.level j ++ if j = h + 1 then [root lf nd (node l r)] else []

theorem level_of_lt {h : ℕ} (t : PTree α h) {j : ℕ} (hj : h < j) : t.level lf nd j = [] := by
  induction t with
  | leaf => rw [level, if_neg (by omega)]
  | node _ _ ihl ihr => rw [level, ihl (by omega), ihr (by omega), if_neg (by omega)]; rfl

theorem level_node_of_le {h : ℕ} (l r : PTree α h) {j : ℕ} (hj : j ≤ h) :
    (node l r).level lf nd j = l.level lf nd j ++ r.level lf nd j := by
  rw [level, if_neg (by omega), List.append_nil]

@[simp] theorem level_self {h : ℕ} (t : PTree α h) : t.level lf nd h = [root lf nd t] := by
  cases t with
  | leaf => rfl
  | @node h l r =>
      rw [level, level_of_lt lf nd l (Nat.lt_succ_self h), level_of_lt lf nd r (Nat.lt_succ_self h),
        if_pos rfl]
      rfl

theorem length_level {h : ℕ} (t : PTree α h) {j : ℕ} (hj : j ≤ h) :
    (t.level lf nd j).length = 2 ^ (h - j) := by
  induction t with
  | leaf =>
      obtain rfl := Nat.le_zero.mp hj
      rfl
  | @node h l r ihl ihr =>
      rcases Nat.lt_or_ge h j with hlt | hge
      · obtain rfl : j = h + 1 := by omega
        rw [level_self, Nat.sub_self]
        rfl
      · rw [level_node_of_le lf nd l r hge, List.length_append, ihl hge, ihr hge,
          show h + 1 - j = h - j + 1 by omega]
        ring

/-- The siblings of leaf `o` stand in the levels, each at the other position of
its pair. -/
theorem getElem?_level_pairIndex {h : ℕ} (t : PTree α h) :
    ∀ {o j : ℕ}, o < 2 ^ h → j < h →
      (t.level lf nd j)[pairIndex (o / 2 ^ j)]? = (t.siblings lf nd o)[j]? := by
  induction t with
  | leaf =>
      intro o j _ hj
      exact absurd hj (Nat.not_lt_zero _)
  | @node h l r ihl ihr =>
      intro o j ho hj
      have hjh : j ≤ h := Nat.lt_succ_iff.mp hj
      rw [level_node_of_le lf nd l r hjh, siblings]
      -- which half `o` is in, and the offset in that half
      obtain ⟨b, q, hq, rfl⟩ : ∃ (b : Bool) (q : ℕ), q < 2 ^ h ∧ o = 2 ^ h * b.toNat + q := by
        rw [pow_succ] at ho
        rcases Nat.lt_or_ge o (2 ^ h) with hlt | hge
        · exact ⟨false, o, hlt, by simp⟩
        · exact ⟨true, o - 2 ^ h, by omega, by simp; omega⟩
      have htop : (2 ^ h * b.toNat + q).testBit h = b := by
        rw [Nat.testBit_two_pow_mul_add _ hq, if_neg (by omega), Nat.sub_self]
        cases b <;> rfl
      have hlow : ∀ k < h, (2 ^ h * b.toNat + q).testBit k = q.testBit k := by
        intro k hk
        rw [Nat.testBit_two_pow_mul_add _ hq, if_pos hk]
      have hdiv : (2 ^ h * b.toNat + q) / 2 ^ j = 2 ^ (h - j) * b.toNat + q / 2 ^ j := by
        rw [show 2 ^ h * b.toNat = 2 ^ j * (2 ^ (h - j) * b.toNat) by
          rw [← mul_assoc, ← pow_add, show j + (h - j) = h by omega]]
        exact Nat.mul_add_div (by positivity) _ _
      rw [htop, hdiv, siblings_congr lf nd l hlow, siblings_congr lf nd r hlow]
      rcases Nat.eq_or_lt_of_le hjh with rfl | hlt
      · -- the top level holds the two halves' roots: the sibling is the other one
        rw [Nat.div_eq_of_lt hq, level_self, level_self]
        cases b <;> simp [pairIndex, length_siblings]
      · obtain ⟨k, hk⟩ : ∃ k, h - j = k + 1 := ⟨h - j - 1, by omega⟩
        have hqlt : q / 2 ^ j < 2 ^ (k + 1) := by
          rw [Nat.div_lt_iff_lt_mul (by positivity), ← pow_add]
          rwa [show k + 1 + j = h by omega]
        -- a half starts at an even position of the level, so pairs stay inside it
        have heven : 2 ^ (h - j) * b.toNat % 2 = 0 := by
          rw [hk, pow_succ, Nat.mul_right_comm, Nat.mul_mod_left]
        rw [pairIndex_add heven]
        cases b with
        | false =>
            rw [Bool.toNat_false, Nat.mul_zero, Nat.zero_add,
              List.getElem?_append_left (by
                rw [length_level lf nd l hjh, hk]; exact pairIndex_lt hqlt),
              ihl hq hlt]
            exact (List.getElem?_append_left (by rwa [length_siblings])).symm
        | true =>
            rw [Bool.toNat_true, Nat.mul_one,
              List.getElem?_append_right (by
                rw [length_level lf nd l hjh]; exact Nat.le_add_right _ _),
              length_level lf nd l hjh, Nat.add_sub_cancel_left, ihr hq hlt]
            exact (List.getElem?_append_left (by rwa [length_siblings])).symm

/-! ## Soundness -/

/-- The hashes of the leaves in `A` and of the child pairs in `S` do not collide. -/
structure Separated (A : Set α) (S : Set (D × D)) : Prop where
  leaf_inj : Set.InjOn lf A
  node_inj : Set.InjOn (Function.uncurry nd) S
  leaf_ne_node : ∀ a ∈ A, ∀ p ∈ S, lf a ≠ nd p.1 p.2

variable {lf nd} {A : Set α} {S : Set (D × D)}

/-- **Soundness.** Over collision-free inputs a climb that reaches the root of
`t` is an opening of a subtree of `t`: its siblings are the tree's own and its
start is that subtree's root. The induction is on the tree, from the root down,
so each step peels the *last* sibling of the path. A path longer than the tree
is high would hash its way to a leaf, which `leaf_ne_node` excludes. -/
theorem opens_of_climb_eq (hsep : Separated lf nd A S) {h : ℕ} (t : PTree α h)
    (hA : ∀ a ∈ t.leaves, a ∈ A) (hS : ∀ p ∈ t.nodeInputs lf nd, p ∈ S) (x : D) :
    ∀ (bs : List Bool) (ss : List D), bs.length = ss.length →
    (∀ p ∈ climbInputs nd x bs ss, p ∈ S) →
    climb nd x bs ss = root lf nd t →
    ∃ (k : ℕ) (u : PTree α k), Opens lf nd t bs ss u ∧ x = root lf nd u := by
  induction t with
  | leaf a =>
      intro bs ss hlen hcS hc
      by_cases hbs : bs = []
      · subst hbs
        obtain rfl := List.length_eq_zero_iff.mp hlen.symm
        exact ⟨0, leaf a, Opens.here _, hc⟩
      · -- the path is longer than the tree is high
        obtain ⟨p, hp, heq⟩ := climb_mem_inputs nd (x := x) hlen hbs
        exact absurd (hc.symm.trans heq)
          (hsep.leaf_ne_node a (hA a (by simp [leaves])) p (hcS p hp))
  | @node h l r ihl ihr =>
      intro bs ss hlen hcS hc
      rcases List.eq_nil_or_concat' bs with rfl | ⟨bs, b, rfl⟩
      · obtain rfl := List.length_eq_zero_iff.mp hlen.symm
        exact ⟨h + 1, node l r, Opens.here _, hc⟩
      · rcases List.eq_nil_or_concat' ss with rfl | ⟨ss, s, rfl⟩
        · simp at hlen
        have hlen' : bs.length = ss.length := by simpa using hlen
        rw [climbInputs_concat nd _ _ _ _ _ hlen'] at hcS
        rw [climb_concat nd _ _ _ _ _ hlen', root] at hc
        -- the last hash has the root's two children as its input
        have hstep := step_inj nd hsep.node_inj (hcS _ (by simp)) (hS _ (by simp [nodeInputs])) hc
        have hcS' : ∀ p ∈ climbInputs nd x bs ss, p ∈ S :=
          fun p hp => hcS p (List.mem_append_left _ hp)
        cases b with
        | false =>
            obtain ⟨hx, rfl⟩ := hstep.1 rfl
            obtain ⟨k, u, ho, hu⟩ := ihl (fun a ha => hA a (List.mem_append_left _ ha))
              (fun p hp => hS p (List.mem_cons_of_mem _ (List.mem_append_left _ hp)))
              bs ss hlen' hcS' hx
            exact ⟨k, u, Opens.left r ho, hu⟩
        | true =>
            obtain ⟨rfl, hx⟩ := hstep.2 rfl
            obtain ⟨k, u, ho, hu⟩ := ihr (fun a ha => hA a (List.mem_append_right _ ha))
              (fun p hp => hS p (List.mem_cons_of_mem _ (List.mem_append_right _ hp)))
              bs ss hlen' hcS' hx
            exact ⟨k, u, Opens.right l ho, hu⟩

/-- The root of a perfect tree determines its leaves, and so its height. -/
theorem leaves_eq_of_root_eq (hsep : Separated lf nd A S) {h : ℕ} (t : PTree α h) :
    ∀ {k : ℕ} (u : PTree α k), (∀ a ∈ t.leaves, a ∈ A) → (∀ a ∈ u.leaves, a ∈ A) →
    (∀ p ∈ t.nodeInputs lf nd, p ∈ S) → (∀ p ∈ u.nodeInputs lf nd, p ∈ S) →
    root lf nd t = root lf nd u → t.leaves = u.leaves := by
  induction t with
  | leaf a =>
      intro k u hAt hAu _ hSu hroot
      cases u with
      | leaf b =>
          rw [leaves, leaves, hsep.leaf_inj (hAt a (by simp [leaves])) (hAu b (by simp [leaves]))
            hroot]
      | node =>
          -- the taller tree would collide with a leaf
          exact absurd hroot
            (hsep.leaf_ne_node a (hAt a (by simp [leaves])) _ (hSu _ List.mem_cons_self))
  | node _ _ ihl ihr =>
      intro k u hAt hAu hSt hSu hroot
      cases u with
      | leaf b =>
          exact absurd hroot.symm
            (hsep.leaf_ne_node b (hAu b (by simp [leaves])) _ (hSt _ List.mem_cons_self))
      | node l' r' =>
          have heq := hsep.node_inj (hSt _ List.mem_cons_self) (hSu _ List.mem_cons_self) hroot
          obtain ⟨hl, hr⟩ := Prod.mk.injEq _ _ _ _ ▸ heq
          rw [leaves, leaves,
            ihl l' (fun a ha => hAt a (List.mem_append_left _ ha))
              (fun a ha => hAu a (List.mem_append_left _ ha))
              (fun p hp => hSt p (List.mem_cons_of_mem _ (List.mem_append_left _ hp)))
              (fun p hp => hSu p (List.mem_cons_of_mem _ (List.mem_append_left _ hp))) hl,
            ihr r' (fun a ha => hAt a (List.mem_append_right _ ha))
              (fun a ha => hAu a (List.mem_append_right _ ha))
              (fun p hp => hSt p (List.mem_cons_of_mem _ (List.mem_append_right _ hp)))
              (fun p hp => hSu p (List.mem_cons_of_mem _ (List.mem_append_right _ hp))) hr]

end Hash

end PTree

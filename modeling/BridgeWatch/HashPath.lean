/-
Hash paths: climbing from a node of a binary hash tree to the root above it,
one sibling at a time.

Nothing here knows a particular tree. A path is two lists of equal length, the
*sides* (`true` where the climbing value is the right child) and the sibling
hashes, both ordered from the bottom up, because that is the order in which a
verifier consumes them. The tree files prove which sides lead where; this file
holds what is common to all of them, namely how a climb splits at its last
step, and what one step reveals about its inputs when the node hash has no
collision.

Collision-freeness is never assumed of the whole hash function. No function
into digests of a fixed length is injective on all inputs, so such a hypothesis
could not be met; what is assumed, here and everywhere above, is injectivity on
the finitely many inputs that the computations at hand really hash. Each
computation therefore comes with the list of its inputs (`climbInputs` for
`climb`), and the hypothesis is `Set.InjOn` on the members of such lists.
-/
import Mathlib.Data.Set.Function
import Mathlib.Data.List.Basic
import Mathlib.Tactic.Common

set_option autoImplicit false

namespace HashPath

variable {D : Type*} (nd : D → D → D)

/-- The two children of a parent, given the side of `x`: `true` puts `x` right. -/
def children (right : Bool) (s x : D) : D × D :=
  if right then (s, x) else (x, s)

/-- One step of a climb: the parent of `x` and its sibling `s`. -/
def step (right : Bool) (s x : D) : D :=
  nd (children right s x).1 (children right s x).2

/-- Climb from `x` along the sides and siblings, bottom up. The climb stops
with the shorter list; the paths below always have as many sides as siblings. -/
def climb : D → List Bool → List D → D
  | x, b :: bs, s :: ss => climb (step nd b s x) bs ss
  | x, _, _ => x

/-- The inputs of the node hashes of a climb. -/
def climbInputs : D → List Bool → List D → List (D × D)
  | x, b :: bs, s :: ss => children b s x :: climbInputs (step nd b s x) bs ss
  | _, _, _ => []

/-- Sides and siblings are read in step. -/
@[elab_as_elim]
theorem path_induction {motive : (bs : List Bool) → (ss : List D) → bs.length = ss.length → Prop}
    (nil : motive [] [] rfl)
    (cons : ∀ (b : Bool) (bs : List Bool) (s : D) (ss : List D) (h : bs.length = ss.length),
      motive bs ss h → motive (b :: bs) (s :: ss) (congrArg (· + 1) h))
    {bs : List Bool} {ss : List D} (h : bs.length = ss.length) : motive bs ss h := by
  induction bs generalizing ss with
  | nil =>
      obtain rfl := List.length_eq_zero_iff.mp h.symm
      exact nil
  | cons b bs ih =>
      cases ss with
      | nil => simp at h
      | cons s ss =>
          have hlen : bs.length = ss.length := by simpa using h
          exact cons b bs s ss hlen (ih hlen)

/-- A climb in two parts. -/
theorem climb_append (bs : List Bool) (ss : List D) (x : D) (bs' : List Bool) (ss' : List D)
    (h : bs.length = ss.length) :
    climb nd x (bs ++ bs') (ss ++ ss') = climb nd (climb nd x bs ss) bs' ss' := by
  induction h using path_induction generalizing x with
  | nil => rfl
  | cons _ _ _ _ _ ih => exact ih _

theorem climbInputs_append (bs : List Bool) (ss : List D) (x : D) (bs' : List Bool) (ss' : List D)
    (h : bs.length = ss.length) :
    climbInputs nd x (bs ++ bs') (ss ++ ss')
      = climbInputs nd x bs ss ++ climbInputs nd (climb nd x bs ss) bs' ss' := by
  induction h using path_induction generalizing x with
  | nil => rfl
  | cons _ _ _ _ _ ih =>
      rw [List.cons_append, List.cons_append, climbInputs, ih]
      rfl

/-- The last step of a climb, which is the one just below the root. -/
theorem climb_concat (bs : List Bool) (ss : List D) (x s : D) (b : Bool)
    (h : bs.length = ss.length) :
    climb nd x (bs ++ [b]) (ss ++ [s]) = step nd b s (climb nd x bs ss) :=
  climb_append nd bs ss x [b] [s] h

theorem climbInputs_concat (bs : List Bool) (ss : List D) (x s : D) (b : Bool)
    (h : bs.length = ss.length) :
    climbInputs nd x (bs ++ [b]) (ss ++ [s])
      = climbInputs nd x bs ss ++ [children b s (climb nd x bs ss)] :=
  climbInputs_append nd bs ss x [b] [s] h

/-- A climb that takes at least one step ends in the hash of one of its inputs. -/
theorem climb_mem_inputs {bs : List Bool} {ss : List D} {x : D} (hlen : bs.length = ss.length)
    (hbs : bs ≠ []) : ∃ p ∈ climbInputs nd x bs ss, climb nd x bs ss = nd p.1 p.2 := by
  induction hlen using path_induction generalizing x with
  | nil => exact absurd rfl hbs
  | cons b bs s _ h ih =>
      by_cases hnil : bs = []
      · subst hnil
        obtain rfl := List.length_eq_zero_iff.mp h.symm
        exact ⟨children b s x, by simp [climbInputs], rfl⟩
      · obtain ⟨p, hp, heq⟩ := ih (x := step nd b s x) hnil
        exact ⟨p, List.mem_cons_of_mem _ hp, heq⟩

/-- Climb, but hash only where the climbing value is the right child: what lies
to the right of the path stays out of the result. -/
def climbRight : D → List Bool → List D → D
  | x, b :: bs, s :: ss => climbRight (if b then nd s x else x) bs ss
  | x, _, _ => x

theorem climbRight_append (bs : List Bool) (ss : List D) (x : D) (bs' : List Bool) (ss' : List D)
    (h : bs.length = ss.length) :
    climbRight nd x (bs ++ bs') (ss ++ ss') = climbRight nd (climbRight nd x bs ss) bs' ss' := by
  induction h using path_induction generalizing x with
  | nil => rfl
  | cons _ _ _ _ _ ih => exact ih _

/-- What one collision-free step reveals: equal parents have equal children. -/
theorem step_inj {S : Set (D × D)} (hinj : Set.InjOn (Function.uncurry nd) S)
    {b : Bool} {s x l r : D} (hx : children b s x ∈ S) (hlr : (l, r) ∈ S)
    (h : step nd b s x = nd l r) :
    (b = false → x = l ∧ s = r) ∧ (b = true → s = l ∧ x = r) := by
  have heq : children b s x = (l, r) := hinj hx hlr h
  cases b <;> simpa [children] using heq

end HashPath

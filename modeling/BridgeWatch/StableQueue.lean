/-
Queues that are served by rank, and by arrival among entries of one rank.

A newcomer goes before the first entry that it outranks, which a scan finds. The queue is in order when
the pair of rank and arrival goes up along it. So the order is strict, and no entry is in the queue twice.
-/
import Mathlib.Data.List.Perm.Basic
import Mathlib.Data.Prod.Lex
import Mathlib.Tactic.Common

set_option autoImplicit false

namespace StableQueue

section

variable {α : Type*} {R : α → α → Prop} {p : α → Bool} {x : α} {queue : List α}

theorem mem_insert_iff {y : α} : y ∈ queue.insertIdx (queue.findIdx p) x ↔ y = x ∨ y ∈ queue :=
  List.mem_insertIdx List.findIdx_le_length

/-- What goes before the first entry that passes a test stands in order with the entries around it. -/
theorem pairwise_insert [IsTrans α R] (hqueue : queue.Pairwise R) (hbefore : ∀ a ∈ queue, p a = false → R a x)
    (hafter : ∀ a ∈ queue, p a = true → R x a) : (queue.insertIdx (queue.findIdx p) x).Pairwise R := by
  induction queue with
  | nil => exact List.pairwise_singleton _ _
  | cons a _ ih =>
      obtain ⟨ha, hqueue⟩ := List.pairwise_cons.mp hqueue
      rw [List.findIdx_cons]
      by_cases hp : p a = true
      · rw [hp, cond_true, List.insertIdx_zero, List.pairwise_cons]
        have hxa : R x a := hafter a List.mem_cons_self hp
        refine ⟨?_, List.pairwise_cons.mpr ⟨ha, hqueue⟩⟩
        intro b hb
        rcases List.mem_cons.mp hb with rfl | hb
        · exact hxa
        · exact IsTrans.trans _ _ _ hxa (ha b hb)
      · rw [Bool.eq_false_iff.mpr hp, cond_false, List.insertIdx_succ_cons, List.pairwise_cons]
        refine ⟨?_, ih hqueue (fun b hb => hbefore b (List.mem_cons_of_mem a hb))
          (fun b hb => hafter b (List.mem_cons_of_mem a hb))⟩
        intro b hb
        rcases mem_insert_iff.mp hb with rfl | hb
        · exact hbefore a List.mem_cons_self (Bool.eq_false_iff.mpr hp)
        · exact ha b hb

end

section

variable {α β : Type*} [BEq α] [LinearOrder β] {rank rank' : α → β} {arrivals queue kept : List α} {x : α}

/-- `x` is put before the first entry of a higher rank. -/
def enqueue (rank : α → β) (x : α) (queue : List α) : List α :=
  queue.insertIdx (queue.findIdx fun a => rank x < rank a) x

/-- The rank of an entry, and when it arrived. -/
def place (rank : α → β) (arrivals : List α) (a : α) : β ×ₗ ℕ := toLex (rank a, arrivals.idxOf a)

/-- The queue goes up by rank, and by arrival among the entries of one rank. -/
def InOrder (rank : α → β) (arrivals queue : List α) : Prop :=
  queue.Pairwise fun a b => place rank arrivals a < place rank arrivals b

theorem place_lt_iff {a b : α} :
    place rank arrivals a < place rank arrivals b ↔
      rank a < rank b ∨ rank a = rank b ∧ arrivals.idxOf a < arrivals.idxOf b :=
  Prod.Lex.toLex_lt_toLex

theorem InOrder.nodup (h : InOrder rank arrivals queue) : queue.Nodup := by
  refine List.Pairwise.imp ?_ h
  rintro a b hlt rfl
  exact lt_irrefl _ hlt

theorem InOrder.sublist (h : InOrder rank arrivals queue) (hkept : kept.Sublist queue) :
    InOrder rank arrivals kept :=
  List.Pairwise.sublist hkept h

/-- The ranks and arrivals of the entries are all that counts. -/
theorem InOrder.congr {arrivals' : List α} (h : InOrder rank arrivals queue)
    (hplace : ∀ a ∈ queue, place rank' arrivals' a = place rank arrivals a) : InOrder rank' arrivals' queue := by
  refine List.Pairwise.imp_of_mem ?_ h
  intro a b ha hb hlt
  rw [hplace a ha, hplace b hb]
  exact hlt

variable [LawfulBEq α]

omit [LinearOrder β] in
theorem place_append {a : α} {later : List α} (ha : a ∈ arrivals) :
    place rank (arrivals ++ later) a = place rank arrivals a := by
  rw [place, place, List.idxOf_append_of_mem ha]

/-- **The queue stays in order when an entry arrives.** -/
theorem InOrder.enqueue (h : InOrder rank arrivals queue) (hqueue : queue ⊆ arrivals) (hnew : x ∉ arrivals) :
    InOrder rank (arrivals ++ [x]) (enqueue rank x queue) := by
  have : IsTrans α fun a b => place rank (arrivals ++ [x]) a < place rank (arrivals ++ [x]) b :=
    ⟨fun _ _ _ => lt_trans⟩
  have hlast : (arrivals ++ [x]).idxOf x = arrivals.length := by
    rw [List.idxOf_append_of_notMem hnew, List.idxOf_cons_self, Nat.add_zero]
  apply pairwise_insert (h.congr fun a ha => place_append (hqueue ha))
  · intro a ha hle
    have hle : rank a ≤ rank x := not_lt.mp (of_decide_eq_false hle)
    rw [place_lt_iff]
    rcases hle.lt_or_eq with hlt | heq
    · exact Or.inl hlt
    · refine Or.inr ⟨heq, ?_⟩
      rw [hlast, List.idxOf_append_of_mem (hqueue ha)]
      exact List.idxOf_lt_length_of_mem (hqueue ha)
  · intro a ha hlt
    exact place_lt_iff.mpr (Or.inl (of_decide_eq_true hlt))

end

end StableQueue

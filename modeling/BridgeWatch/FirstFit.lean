/-
First-fit packing.

Items come one after another, and each goes into the first bin that it fits, or into a bin of its own
where it fits none. No item is lost and none is packed twice, whatever `fits` decides, and what a new
bin has and a fitting item keeps holds of every bin.
-/
import Mathlib.Data.List.Induction
import Mathlib.Data.List.Perm.Basic

set_option autoImplicit false

namespace FirstFit

variable {Bin Item : Type} (fits : Bin → Item → Bool) (add : Bin → Item → Bin) (single : Item → Bin)

/-- The item goes into the first bin that it fits. -/
def place : List Bin → Item → List Bin
  | [], x => [single x]
  | bin :: bins, x => if fits bin x then add bin x :: bins else bin :: place bins x

def pack (items : List Item) : List Bin := items.foldl (place fits add single) []

variable {fits add single} {bins : List Bin} {items : List Item} {x : Item}

section Property

variable {P : Bin → Prop} (hadd : ∀ bin x, P bin → fits bin x = true → P (add bin x))

include hadd

theorem forall_place (hbins : ∀ bin ∈ bins, P bin) (hsingle : P (single x)) :
    ∀ bin ∈ place fits add single bins x, P bin := by
  induction bins with
  | nil =>
      intro bin hbin
      rw [place, List.mem_singleton] at hbin
      rw [hbin]
      exact hsingle
  | cons first _ ih =>
      obtain ⟨hfirst, hrest⟩ := List.forall_mem_cons.mp hbins
      rw [place]
      by_cases hfits : fits first x = true
      · rw [if_pos hfits, List.forall_mem_cons]
        exact ⟨hadd first x hfirst hfits, hrest⟩
      · rw [if_neg hfits, List.forall_mem_cons]
        exact ⟨hfirst, ih hrest⟩

/-- What a new bin has and a fitting item keeps holds of every bin. -/
theorem forall_pack (hsingle : ∀ x ∈ items, P (single x)) : ∀ bin ∈ pack fits add single items, P bin := by
  induction items using List.reverseRecOn with
  | nil => simp [pack]
  | append_singleton _ x ih =>
      rw [pack, List.foldl_concat]
      apply forall_place hadd
      · exact ih fun y hy => hsingle y (List.mem_append_left _ hy)
      · exact hsingle x (List.mem_append_right _ (List.mem_singleton_self x))

end Property

section Contents

variable (contents : Bin → List Item) (hadd : ∀ bin x, contents (add bin x) = contents bin ++ [x])
  (hsingle : ∀ x, contents (single x) = [x])

include hadd hsingle

theorem place_perm :
    ((place fits add single bins x).flatMap contents).Perm (bins.flatMap contents ++ [x]) := by
  induction bins with
  | nil =>
      rw [place, List.flatMap_singleton, hsingle, List.flatMap_nil, List.nil_append]
  | cons first _ ih =>
      rw [place]
      by_cases hfits : fits first x = true
      · rw [if_pos hfits, List.flatMap_cons, List.flatMap_cons, hadd, List.append_assoc,
          List.append_assoc]
        exact List.Perm.append_left _ List.perm_append_comm
      · rw [if_neg hfits, List.flatMap_cons, List.flatMap_cons, List.append_assoc]
        exact List.Perm.append_left _ ih

/-- Every item is packed, once. -/
theorem pack_perm : ((pack fits add single items).flatMap contents).Perm items := by
  induction items using List.reverseRecOn with
  | nil => exact List.Perm.refl _
  | append_singleton _ _ ih =>
      rw [pack, List.foldl_concat]
      exact (place_perm contents hadd hsingle).trans (List.Perm.append_right _ ih)

end Contents

end FirstFit

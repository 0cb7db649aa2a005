/-
Transactions that only read, and the records that they read.

`ReadsFrom P m` says that `m` writes nothing, and that what it returns it returns in every store with
the same records under the keys of `P`. It is closed under the ways of composing transactions.
-/
import BridgeWatch.Transaction

set_option autoImplicit false

namespace Transaction

section ReadFrames

variable {Env Key : Type} {Val : Key → Type} {α β γ : Type} {P : Key → Prop}

/-- `m` writes nothing, and its result depends on the records under the keys of `P` only. -/
class ReadsFrom (P : Key → Prop) (m : Tx Env Key Val α) : Prop where
  frame : ∀ {env : Env} {s s' t : Store Key Val} {a : α}, (∀ k, P k → s' k = s k) →
    m env s = .ok (a, t) → t = s ∧ m env s' = .ok (a, s')

instance (a : α) : ReadsFrom P (pure a : Tx Env Key Val α) where
  frame _ h := by
    obtain ⟨rfl, rfl⟩ := pure_eq_ok.mp h
    exact ⟨rfl, rfl⟩

instance (f : Env → α) : ReadsFrom P (reads f : Tx Env Key Val α) where
  frame _ h := by
    obtain ⟨rfl, rfl⟩ := reads_eq_ok.mp h
    exact ⟨rfl, rfl⟩

instance (c : Prop) [Decidable c] (msg : String) : ReadsFrom P (panic_if c msg : Tx Env Key Val Unit) where
  frame _ h := by
    obtain ⟨hc, rfl⟩ := panic_if_eq_ok.mp h
    exact ⟨rfl, panic_if_eq_ok.mpr ⟨hc, rfl⟩⟩

theorem ReadsFrom.load {k : Key} (hk : P k) : ReadsFrom P (load k : Tx Env Key Val _) where
  frame hs h := by
    obtain ⟨rfl, rfl⟩ := load_eq_ok.mp h
    exact ⟨rfl, load_eq_ok.mpr ⟨(hs _ hk).symm, rfl⟩⟩

instance (m : Tx Env Key Val α) (f : α → Tx Env Key Val β) [hm : ReadsFrom P m]
    [hf : ∀ a, ReadsFrom P (f a)] : ReadsFrom P (m >>= f) where
  frame hs h := by
    rw [bind_eq_ok] at h
    obtain ⟨a, t, hfirst, hrest⟩ := h
    obtain ⟨rfl, hfirst'⟩ := hm.frame hs hfirst
    obtain ⟨rfl, hrest'⟩ := (hf a).frame hs hrest
    exact ⟨rfl, bind_eq_ok.mpr ⟨a, _, hfirst', hrest'⟩⟩

instance (c : Prop) [Decidable c] (m n : Tx Env Key Val α) [hm : ReadsFrom P m] [hn : ReadsFrom P n] :
    ReadsFrom P (if c then m else n) := by
  by_cases hc : c
  · rwa [if_pos hc]
  · rwa [if_neg hc]

instance (o : Option α) (m : Tx Env Key Val β) (f : α → Tx Env Key Val β) [hm : ReadsFrom P m]
    [hf : ∀ a, ReadsFrom P (f a)] : ReadsFrom P (o.elim m f) := by
  cases o with
  | none => exact hm
  | some a => exact hf a

instance (f : γ → α → Tx Env Key Val γ) [hf : ∀ c a, ReadsFrom P (f c a)] (c : γ) (l : List α) :
    ReadsFrom P (l.foldlM f c) := by
  induction l generalizing c with
  | nil =>
      rw [List.foldlM_nil]
      infer_instance
  | cons =>
      rw [List.foldlM_cons]
      infer_instance

end ReadFrames

end Transaction

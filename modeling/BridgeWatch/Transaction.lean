/-
Transactions over a keyed store.

A store holds at most one record under each key, and the type of a record may
depend on its key. A transaction reads its environment and the store, and either
returns a result with the store it leaves or fails with a message. Nothing is left
of a transaction that fails, so a run is a fold over the transactions that skips
the failing ones.

Three properties of transactions are closed under the ways of composing them, and
all are classes, so that the instances find them for a composed transaction.
`Writes ts m` says that `m` leaves every record alone whose key has none of the
tags `ts`. `Blocked P m` says that `m` fails wherever `P` holds. `Preserves I m`
says that `m` keeps the invariant `I`.
-/
import Mathlib.Data.List.Forall2
import Mathlib.Data.List.Induction
import Mathlib.Logic.Function.Basic
import Mathlib.Tactic.Common

set_option autoImplicit false

namespace Transaction

/-- At most one record under each key. -/
abbrev Store (Key : Type) (Val : Key → Type) := (k : Key) → Option (Val k)

/-- A transaction with a result in `α`. -/
abbrev Tx (Env Key : Type) (Val : Key → Type) (α : Type) :=
  ReaderT Env (StateT (Store Key Val) (Except String)) α

section Operations

variable {Env Key : Type} {Val : Key → Type} {α β γ : Type}

/-! ## Operations -/

/-- What `f` reads from the environment. -/
def reads (f : Env → α) : Tx Env Key Val α := fun env s => .ok (f env, s)

/-- Fail with a message. -/
def panic (msg : String) : Tx Env Key Val α := fun _ _ => .error msg

/-- Fail with a message when `c` holds. -/
def panic_if (c : Prop) [Decidable c] (msg : String) : Tx Env Key Val Unit :=
  fun _ s => if c then .error msg else .ok ((), s)

/-- The content of `o`; fail with a message when there is none. -/
def expect (o : Option α) (msg : String) : Tx Env Key Val α :=
  fun _ s => match o with
    | some a => .ok (a, s)
    | none => .error msg

/-- The value of a computation that uses neither the environment nor the store. -/
def attempt (r : Except String α) : Tx Env Key Val α := fun _ s => r.map fun a => (a, s)

/-- Run `m` when `c` holds. -/
def exec_if (c : Prop) [Decidable c] (m : Tx Env Key Val Unit) : Tx Env Key Val Unit :=
  if c then m else pure ()

/-- The record under a key. -/
def load (k : Key) : Tx Env Key Val (Option (Val k)) := fun _ s => .ok (s k, s)

variable [DecidableEq Key]

/-- Put a record under a key. -/
def save (k : Key) (v : Val k) : Tx Env Key Val Unit :=
  fun _ s => .ok ((), Function.update s k (some v))

/-- Remove the record under a key. -/
def remove (k : Key) : Tx Env Key Val Unit := fun _ s => .ok ((), Function.update s k none)

end Operations

section Inversion

variable {Env Key : Type} {Val : Key → Type} {α β : Type}
variable {env : Env} {s s' : Store Key Val}

/-! ## What a transaction that succeeds has done -/

@[simp] theorem bind_eq_ok {m : Tx Env Key Val α} {f : α → Tx Env Key Val β} {b : β} :
    (m >>= f) env s = .ok (b, s') ↔ ∃ a s₁, m env s = .ok (a, s₁) ∧ f a env s₁ = .ok (b, s') := by
  have hbind : (m >>= f) env s = (m env s >>= fun p => f p.1 env p.2) := rfl
  rw [hbind]
  cases m env s with
  | error => simp [bind, Except.bind]
  | ok => simp [bind, Except.bind, Prod.ext_iff]

/-- What follows a step that returns. -/
theorem bind_of_ok {m : Tx Env Key Val α} {f : α → Tx Env Key Val β} {a : α} (h : m env s = .ok (a, s')) :
    (m >>= f) env s = f a env s' := by
  have hbind : (m >>= f) env s = (m env s >>= fun p => f p.1 env p.2) := rfl
  rw [hbind, h]
  rfl

/-- Nothing follows a step that fails. -/
theorem bind_of_error {m : Tx Env Key Val α} {f : α → Tx Env Key Val β} {msg : String}
    (h : m env s = .error msg) : (m >>= f) env s = .error msg := by
  have hbind : (m >>= f) env s = (m env s >>= fun p => f p.1 env p.2) := rfl
  rw [hbind, h]
  rfl

theorem bind_eq_error {m : Tx Env Key Val α} {f : α → Tx Env Key Val β} {msg : String} :
    (m >>= f) env s = .error msg ↔
      m env s = .error msg ∨ ∃ a s₁, m env s = .ok (a, s₁) ∧ f a env s₁ = .error msg := by
  have hbind : (m >>= f) env s = (m env s >>= fun p => f p.1 env p.2) := rfl
  rw [hbind]
  cases m env s with
  | error => simp [bind, Except.bind]
  | ok => simp [bind, Except.bind, Prod.ext_iff]

@[simp] theorem map_eq_ok {m : Tx Env Key Val α} {f : α → β} {b : β} :
    (f <$> m) env s = .ok (b, s') ↔ ∃ a, m env s = .ok (a, s') ∧ b = f a := by
  have hmap : (f <$> m) env s = (fun p => (f p.1, p.2)) <$> m env s := rfl
  rw [hmap]
  cases m env s with
  | error => simp
  | ok => simp [Prod.ext_iff, eq_comm, and_comm]

@[simp] theorem pure_eq_ok {a b : α} :
    (pure a : Tx Env Key Val α) env s = .ok (b, s') ↔ b = a ∧ s' = s := by
  constructor
  · intro h
    cases h
    exact ⟨rfl, rfl⟩
  · rintro ⟨rfl, rfl⟩
    rfl

@[simp] theorem reads_eq_ok {f : Env → α} {a : α} :
    (reads f : Tx Env Key Val α) env s = .ok (a, s') ↔ a = f env ∧ s' = s := by
  constructor
  · intro h
    cases h
    exact ⟨rfl, rfl⟩
  · rintro ⟨rfl, rfl⟩
    rfl

@[simp] theorem pure_eq_error {a : α} {msg : String} :
    ¬(pure a : Tx Env Key Val α) env s = .error msg := nofun

@[simp] theorem reads_eq_error {f : Env → α} {msg : String} :
    ¬(reads f : Tx Env Key Val α) env s = .error msg := nofun

@[simp] theorem load_eq_error {k : Key} {msg : String} :
    ¬(load k : Tx Env Key Val _) env s = .error msg := nofun

@[simp] theorem panic_eq_ok {msg : String} {a : α} :
    ¬(panic msg : Tx Env Key Val α) env s = .ok (a, s') := nofun

@[simp] theorem panic_if_eq_ok {c : Prop} [Decidable c] {msg : String} {u : Unit} :
    (panic_if c msg : Tx Env Key Val Unit) env s = .ok (u, s') ↔ ¬c ∧ s' = s := by
  unfold panic_if
  by_cases h : c
  · simp [h]
  · simp only [h, if_false, Except.ok.injEq, Prod.mk.injEq, true_and, not_false_eq_true]
    exact eq_comm

@[simp] theorem expect_eq_ok {o : Option α} {msg : String} {a : α} :
    (expect o msg : Tx Env Key Val α) env s = .ok (a, s') ↔ o = some a ∧ s' = s := by
  cases o with
  | none => simp [expect]
  | some =>
      simp only [expect, Except.ok.injEq, Prod.mk.injEq, Option.some.injEq]
      exact and_congr_right fun _ => eq_comm

@[simp] theorem attempt_eq_ok {r : Except String α} {a : α} :
    (attempt r : Tx Env Key Val α) env s = .ok (a, s') ↔ r = .ok a ∧ s' = s := by
  cases r with
  | error => simp [attempt, Except.map]
  | ok =>
      simp only [attempt, Except.map, Except.ok.injEq, Prod.mk.injEq]
      exact and_congr_right fun _ => eq_comm

@[simp] theorem load_eq_ok {k : Key} {o : Option (Val k)} :
    (load k : Tx Env Key Val _) env s = .ok (o, s') ↔ o = s k ∧ s' = s := by
  constructor
  · intro h
    cases h
    exact ⟨rfl, rfl⟩
  · rintro ⟨rfl, rfl⟩
    rfl

@[simp] theorem ite_eq_ok {c : Prop} [Decidable c] {m n : Tx Env Key Val α} {a : α} :
    (if c then m else n) env s = .ok (a, s') ↔
      (c ∧ m env s = .ok (a, s')) ∨ (¬c ∧ n env s = .ok (a, s')) := by
  by_cases h : c <;> simp [h]

@[simp] theorem exec_if_eq_ok {c : Prop} [Decidable c] {m : Tx Env Key Val Unit} {u : Unit} :
    exec_if c m env s = .ok (u, s') ↔ (c ∧ m env s = .ok (u, s')) ∨ (¬c ∧ s' = s) := by
  unfold exec_if
  rw [ite_eq_ok]
  simp

@[simp] theorem elim_eq_ok {o : Option α} {m : Tx Env Key Val β} {f : α → Tx Env Key Val β}
    {b : β} :
    o.elim m f env s = .ok (b, s') ↔
      (o = none ∧ m env s = .ok (b, s')) ∨ ∃ a, o = some a ∧ f a env s = .ok (b, s') := by
  cases o <;> simp

/-- A loop that reads one record for each entry of a list. -/
theorem foldlM_load_eq_ok {γ : Type} {k : α → Key} {g : γ → (a : α) → Option (Val (k a)) → γ}
    {l : List α} {c c' : γ} :
    (l.foldlM (fun c a => do
      let v ← load (k a)
      return g c a v) c : Tx Env Key Val γ) env s = .ok (c', s') ↔
        c' = l.foldl (fun c a => g c a (s (k a))) c ∧ s' = s := by
  induction l generalizing c with
  | nil => rw [List.foldlM_nil, pure_eq_ok, List.foldl_nil]
  | cons _ _ ih =>
      simp only [List.foldlM_cons, List.foldl_cons, bind_eq_ok, load_eq_ok, pure_eq_ok, and_assoc,
        exists_and_left, exists_eq_left, ih]

/-- A loop whose rounds all return, and leave the store alone. -/
theorem foldlM_of_forall {γ : Type} {f : γ → α → Tx Env Key Val γ} {g : γ → α → γ} {l : List α}
    (h : ∀ a ∈ l, ∀ c, f c a env s = .ok (g c a, s)) (c : γ) :
    l.foldlM f c env s = .ok (l.foldl g c, s) := by
  induction l generalizing c with
  | nil => rw [List.foldlM_nil, pure_eq_ok, List.foldl_nil]; exact ⟨rfl, rfl⟩
  | cons a _ ih =>
      rw [List.foldlM_cons, bind_eq_ok, List.foldl_cons]
      exact ⟨_, _, h a List.mem_cons_self c, ih (fun b hb => h b (List.mem_cons_of_mem _ hb)) _⟩

variable [DecidableEq Key]

@[simp] theorem save_eq_ok {k : Key} {v : Val k} {u : Unit} :
    (save k v : Tx Env Key Val Unit) env s = .ok (u, s') ↔ s' = Function.update s k (some v) := by
  simp only [save, Except.ok.injEq, Prod.mk.injEq, true_and]
  exact eq_comm

@[simp] theorem save_eq_error {k : Key} {v : Val k} {msg : String} :
    ¬(save k v : Tx Env Key Val Unit) env s = .error msg := nofun

@[simp] theorem remove_eq_ok {k : Key} {u : Unit} :
    (remove k : Tx Env Key Val Unit) env s = .ok (u, s') ↔ s' = Function.update s k none := by
  simp only [remove, Except.ok.injEq, Prod.mk.injEq, true_and]
  exact eq_comm

end Inversion

section Failures

variable {Env Key : Type} {Val : Key → Type} {α β : Type}
variable {env : Env} {s : Store Key Val}

/-! ## What a transaction may fail with -/

/-- The transaction succeeds, or fails with a message of the kind `E`. -/
def FailsOnly (E : String → Prop) (m : Tx Env Key Val α) (env : Env) (s : Store Key Val) : Prop :=
  ∀ msg, m env s = .error msg → E msg

variable {E : String → Prop}

@[simp] theorem fails_only_bind {m : Tx Env Key Val α} {f : α → Tx Env Key Val β} :
    FailsOnly E (m >>= f) env s ↔
      FailsOnly E m env s ∧ ∀ a s₁, m env s = .ok (a, s₁) → FailsOnly E (f a) env s₁ := by
  simp only [FailsOnly, bind_eq_error]
  constructor
  · intro h
    exact ⟨fun msg hm => h msg (Or.inl hm), fun a s₁ hm msg hf => h msg (Or.inr ⟨a, s₁, hm, hf⟩)⟩
  · rintro ⟨hm, hf⟩ msg (herror | ⟨a, s₁, hok, herror⟩)
    · exact hm msg herror
    · exact hf a s₁ hok msg herror

@[simp] theorem fails_only_pure {a : α} : FailsOnly E (pure a : Tx Env Key Val α) env s := nofun

@[simp] theorem fails_only_load {k : Key} : FailsOnly E (load k : Tx Env Key Val _) env s := nofun

@[simp] theorem fails_only_reads {f : Env → α} : FailsOnly E (reads f : Tx Env Key Val α) env s := nofun

@[simp] theorem fails_only_panic_if {c : Prop} [Decidable c] {msg : String} :
    FailsOnly E (panic_if c msg : Tx Env Key Val Unit) env s ↔ (c → E msg) := by
  unfold FailsOnly panic_if
  by_cases hc : c <;> simp [hc]

@[simp] theorem fails_only_expect {o : Option α} {msg : String} :
    FailsOnly E (expect o msg : Tx Env Key Val α) env s ↔ (o = none → E msg) := by
  cases o <;> simp [FailsOnly, expect]

@[simp] theorem fails_only_ite {c : Prop} [Decidable c] {m n : Tx Env Key Val α} :
    FailsOnly E (if c then m else n) env s ↔ (c → FailsOnly E m env s) ∧ (¬c → FailsOnly E n env s) := by
  by_cases hc : c <;> simp [hc]

@[simp] theorem fails_only_exec_if {c : Prop} [Decidable c] {m : Tx Env Key Val Unit} :
    FailsOnly E (exec_if c m) env s ↔ (c → FailsOnly E m env s) := by
  unfold exec_if
  by_cases hc : c <;> simp [hc]

@[simp] theorem fails_only_elim {o : Option α} {m : Tx Env Key Val β} {f : α → Tx Env Key Val β} :
    FailsOnly E (o.elim m f) env s ↔
      (o = none → FailsOnly E m env s) ∧ ∀ a, o = some a → FailsOnly E (f a) env s := by
  cases o <;> simp

@[simp] theorem fails_only_save [DecidableEq Key] {k : Key} {v : Val k} :
    FailsOnly E (save k v : Tx Env Key Val Unit) env s := nofun

/-- What fails with nothing succeeds. -/
theorem FailsOnly.succeeds {m : Tx Env Key Val α} (h : FailsOnly (fun _ => False) m env s) :
    ∃ a s', m env s = .ok (a, s') := by
  cases hm : m env s with
  | ok r => exact ⟨r.1, r.2, rfl⟩
  | error msg => exact absurd hm (h msg)

end Failures

/-! ## Footprints -/

/-- A tag for each key; the keys of one family share theirs. -/
class Tagged (Key : Type) (Tag : outParam Type) where
  tag : Key → Tag

/-- `t` is one of `ts`. -/
class Among {Tag : Type} (t : Tag) (ts : List Tag) : Prop where
  mem : t ∈ ts

/-- Every one of `us` is one of `ts`. -/
class Within {Tag : Type} (us ts : List Tag) : Prop where
  subset : us ⊆ ts

section Tags

variable {Tag : Type} {t u : Tag} {ts us : List Tag}

instance : Among t (t :: ts) := ⟨List.mem_cons_self ..⟩

instance [h : Among t ts] : Among t (u :: ts) := ⟨List.mem_cons_of_mem _ h.mem⟩

instance [h : Among t us] : Among t (us ++ ts) := ⟨List.mem_append_left _ h.mem⟩

instance [h : Among t ts] : Among t (us ++ ts) := ⟨List.mem_append_right _ h.mem⟩

-- These are tried first: most lists end in the one that is asked for.
instance (priority := 2000) {vs : List Tag} [h : Within us ts] : Within us (vs ++ ts) :=
  ⟨fun _ hmem => List.mem_append_right _ (h.subset hmem)⟩

instance (priority := 2000) [h : Within us ts] : Within us (t :: ts) :=
  ⟨fun _ hmem => List.mem_cons_of_mem _ (h.subset hmem)⟩

instance (priority := 3000) : Within us us := ⟨List.Subset.refl _⟩

instance [h : Among t ts] [h' : Within us ts] : Within (t :: us) ts :=
  ⟨List.cons_subset.mpr ⟨h.mem, h'.subset⟩⟩

end Tags

section Footprints

variable {Env Key Tag : Type} {Val : Key → Type} {α β γ : Type} [Tagged Key Tag]

/-- `m` leaves every record alone whose key has none of the tags `ts`. -/
class Writes (ts : List Tag) (m : Tx Env Key Val α) : Prop where
  frame : ∀ {env s a s'}, m env s = .ok (a, s') → ∀ k, Tagged.tag k ∉ ts → s' k = s k

variable {ts us : List Tag}

theorem Writes.mono {m : Tx Env Key Val α} (us : List Tag) (h : Writes us m) [hsub : Within us ts] :
    Writes ts m :=
  ⟨fun hm k hk => h.frame hm k fun hmem => hk (hsub.subset hmem)⟩

/-- A transaction that writes nothing leaves the store as it is. -/
theorem Writes.store_eq {m : Tx Env Key Val α} (h : Writes ([] : List Tag) m) {env : Env}
    {s s' : Store Key Val} {a : α} (hm : m env s = .ok (a, s')) : s' = s :=
  funext fun k => h.frame hm k (List.not_mem_nil)

/-- A loop that collects what it reads for each entry of a list. -/
theorem foldlM_collect_eq_ok {f : α → Tx Env Key Val β} [h : ∀ a, Writes ([] : List Tag) (f a)]
    {env : Env} {s s' : Store Key Val} {l : List α} {bs bs' : List β} :
    (l.foldlM (fun bs a => do
      let b ← f a
      return bs ++ [b]) bs : Tx Env Key Val (List β)) env s = .ok (bs', s') ↔
        ∃ cs, bs' = bs ++ cs ∧ l.Forall₂ (fun a b => f a env s = .ok (b, s)) cs ∧ s' = s := by
  induction l generalizing bs with
  | nil => simp
  | cons a _ ih =>
      simp only [List.foldlM_cons, bind_eq_ok, pure_eq_ok]
      constructor
      · rintro ⟨_, s₁, ⟨b, _, hb, rfl, rfl⟩, hrest⟩
        obtain rfl : s₁ = s := (h a).store_eq hb
        obtain ⟨cs, rfl, hcs, rfl⟩ := ih.mp hrest
        refine ⟨b :: cs, ?_, .cons hb hcs, rfl⟩
        rw [List.append_assoc, List.singleton_append]
      · rintro ⟨cs, rfl, hcs, rfl⟩
        obtain ⟨b, cs, hb, hrest, rfl⟩ := List.forall₂_cons_left_iff.mp hcs
        refine ⟨_, _, ⟨b, _, hb, rfl, rfl⟩, ih.mpr ⟨cs, ?_, hrest, rfl⟩⟩
        rw [List.append_assoc, List.singleton_append]

instance (a : α) : Writes ts (pure a : Tx Env Key Val α) :=
  ⟨fun hm k _ => by rw [(pure_eq_ok.mp hm).2]⟩

instance (m : Tx Env Key Val α) (f : α → Tx Env Key Val β) [h : Writes ts m]
    [hf : ∀ a, Writes ts (f a)] : Writes ts (m >>= f) where
  frame hm k hk := by
    obtain ⟨a, s₁, hm₁, hm₂⟩ := bind_eq_ok.mp hm
    exact ((hf a).frame hm₂ k hk).trans (h.frame hm₁ k hk)

-- A case of the last instance that spares the search an unused result.
instance (m : Tx Env Key Val α) (n : Tx Env Key Val β) [h : Writes ts m] [hn : Writes ts n] :
    Writes ts (m >>= fun _ => n) :=
  inferInstance

instance (f : Env → α) : Writes ts (reads f : Tx Env Key Val α) :=
  ⟨fun hm k _ => by rw [(reads_eq_ok.mp hm).2]⟩

instance (c : Prop) [Decidable c] (msg : String) :
    Writes ts (panic_if c msg : Tx Env Key Val Unit) :=
  ⟨fun hm k _ => by rw [(panic_if_eq_ok.mp hm).2]⟩

instance (o : Option α) (msg : String) : Writes ts (expect o msg : Tx Env Key Val α) :=
  ⟨fun hm k _ => by rw [(expect_eq_ok.mp hm).2]⟩

instance (r : Except String α) : Writes ts (attempt r : Tx Env Key Val α) :=
  ⟨fun hm k _ => by rw [(attempt_eq_ok.mp hm).2]⟩

instance (k : Key) : Writes ts (load k : Tx Env Key Val _) :=
  ⟨fun hm k _ => by rw [(load_eq_ok.mp hm).2]⟩

instance (c : Prop) [Decidable c] (m n : Tx Env Key Val α) [h : Writes ts m] [h' : Writes ts n] :
    Writes ts (if c then m else n) := by
  by_cases hc : c
  · rwa [if_pos hc]
  · rwa [if_neg hc]

instance (c : Prop) [Decidable c] (m : Tx Env Key Val Unit) [Writes ts m] :
    Writes ts (exec_if c m) := by
  unfold exec_if
  infer_instance

instance (o : Option α) (m : Tx Env Key Val β) (f : α → Tx Env Key Val β) [h : Writes ts m]
    [hf : ∀ a, Writes ts (f a)] : Writes ts (o.elim m f) := by
  cases o with
  | none => exact h
  | some a => exact hf a

instance (f : γ → α → Tx Env Key Val γ) [hf : ∀ c a, Writes ts (f c a)] (c : γ) (l : List α) :
    Writes ts (l.foldlM f c) := by
  induction l generalizing c with
  | nil =>
      rw [List.foldlM_nil]
      infer_instance
  | cons =>
      rw [List.foldlM_cons]
      infer_instance

variable [DecidableEq Key]

instance (k : Key) (v : Val k) [h : Among (Tagged.tag k) ts] :
    Writes ts (save k v : Tx Env Key Val Unit) where
  frame hm k' hk' := by
    rw [save_eq_ok.mp hm]
    exact Function.update_of_ne (fun heq : k' = k => hk' (heq ▸ h.mem)) _ _

instance (k : Key) [h : Among (Tagged.tag k) ts] :
    Writes ts (remove k : Tx Env Key Val Unit) where
  frame hm k' hk' := by
    rw [remove_eq_ok.mp hm]
    exact Function.update_of_ne (fun heq : k' = k => hk' (heq ▸ h.mem)) _ _

end Footprints

/-! ## Guards -/

section Guards

variable {Env Key Tag : Type} {Val : Key → Type} {α β : Type} [Tagged Key Tag]
variable {P : Env → Store Key Val → Prop}

/-- `m` fails wherever `P` holds. -/
class Blocked (P : Env → Store Key Val → Prop) (m : Tx Env Key Val α) : Prop where
  fails : ∀ {env s}, P env s → ∀ r, m env s ≠ .ok r

/-- A guard that comes first. -/
instance (m : Tx Env Key Val α) (f : α → Tx Env Key Val β) [h : Blocked P m] :
    Blocked P (m >>= f) where
  fails hP r hm := by
    obtain ⟨a, s₁, hm₁, -⟩ := bind_eq_ok.mp hm
    exact h.fails hP _ hm₁

/-- A guard that comes after reads. -/
instance (m : Tx Env Key Val α) (f : α → Tx Env Key Val β) [h : Writes ([] : List Tag) m]
    [hf : ∀ a, Blocked P (f a)] : Blocked P (m >>= f) where
  fails hP r hm := by
    obtain ⟨a, s₁, hm₁, hm₂⟩ := bind_eq_ok.mp hm
    rw [h.store_eq hm₁] at hm₂
    exact (hf a).fails hP _ hm₂

end Guards

/-! ## Invariants -/

section Invariants

variable {Env Key Tag : Type} {Val : Key → Type} {α β γ : Type} [Tagged Key Tag]
variable {I : Store Key Val → Prop}

/-- Wherever `I` holds and `m` succeeds, `I` holds afterwards. -/
class Preserves (I : Store Key Val → Prop) (m : Tx Env Key Val α) : Prop where
  preserved : ∀ {env s a s'}, I s → m env s = .ok (a, s') → I s'

/-- `I` says something only about the records whose keys have one of the tags `ts`. -/
class DependsOn (ts : outParam (List Tag)) (I : Store Key Val → Prop) : Prop where
  congr : ∀ {s s' : Store Key Val}, (∀ k, Tagged.tag k ∈ ts → s' k = s k) → I s → I s'

/-- A transaction that writes nothing that `I` depends on. -/
theorem Writes.preserves {m : Tx Env Key Val α} {ts us : List Tag} (h : Writes us m)
    [hI : DependsOn ts I] (hdisjoint : ∀ t ∈ ts, t ∉ us) : Preserves I m :=
  ⟨fun hs hm => hI.congr (fun k hk => h.frame hm k (hdisjoint _ hk)) hs⟩

instance (priority := 1500) (a : α) : Preserves I (pure a : Tx Env Key Val α) :=
  ⟨fun hs hm => by rwa [(pure_eq_ok.mp hm).2]⟩

instance (priority := 1500) (m : Tx Env Key Val α) (f : α → Tx Env Key Val β) [h : Preserves I m]
    [hf : ∀ a, Preserves I (f a)] : Preserves I (m >>= f) where
  preserved hs hm := by
    obtain ⟨a, s₁, hm₁, hm₂⟩ := bind_eq_ok.mp hm
    exact (hf a).preserved (h.preserved hs hm₁) hm₂

instance (priority := 1500) (c : Prop) [Decidable c] (m n : Tx Env Key Val α) [h : Preserves I m]
    [h' : Preserves I n] : Preserves I (if c then m else n) := by
  by_cases hc : c
  · rwa [if_pos hc]
  · rwa [if_neg hc]

instance (priority := 1500) (c : Prop) [Decidable c] (m : Tx Env Key Val Unit) [h : Preserves I m] :
    Preserves I (exec_if c m) where
  preserved hs hm := by
    rcases exec_if_eq_ok.mp hm with ⟨-, hm⟩ | ⟨-, rfl⟩
    · exact h.preserved hs hm
    · exact hs

instance (priority := 1500) (o : Option α) (m : Tx Env Key Val β) (f : α → Tx Env Key Val β)
    [h : Preserves I m] [hf : ∀ a, Preserves I (f a)] : Preserves I (o.elim m f) := by
  cases o with
  | none => exact h
  | some a => exact hf a

instance (priority := 1500) (f : γ → α → Tx Env Key Val γ) [hf : ∀ c a, Preserves I (f c a)]
    (c : γ) (l : List α) : Preserves I (l.foldlM f c) := by
  induction l generalizing c with
  | nil =>
      rw [List.foldlM_nil]
      infer_instance
  | cons =>
      rw [List.foldlM_cons]
      infer_instance

instance (m : Tx Env Key Val α) : Preserves (fun _ => True) m := ⟨fun _ _ => trivial⟩

/-- A guard that comes after what preserves its condition. -/
theorem Preserves.blocked {m : Tx Env Key Val α} {f : α → Tx Env Key Val β} (h : Preserves I m)
    (hf : ∀ a, Blocked (fun _ => I) (f a)) : Blocked (fun _ => I) (m >>= f) where
  fails hs r hm := by
    obtain ⟨a, s₁, hm₁, hm₂⟩ := bind_eq_ok.mp hm
    exact (hf a).fails (h.preserved hs hm₁) _ hm₂

/-- A loop that comes to a guard. -/
theorem Preserves.blocked_foldlM {f : γ → α → Tx Env Key Val γ} (h : ∀ c a, Preserves I (f c a))
    {l : List α} {a : α} (ha : a ∈ l) (hblocked : ∀ c, Blocked (fun _ => I) (f c a)) (c : γ) :
    Blocked (fun _ => I) (l.foldlM f c) := by
  induction l generalizing c with
  | nil => cases ha
  | cons b _ ih =>
      rw [List.foldlM_cons]
      rcases List.mem_cons.mp ha with rfl | hmem
      · have := hblocked c
        infer_instance
      · exact (h c b).blocked fun c => ih hmem c

end Invariants

/-! ## Messages -/

section Messages

variable {Env Key : Type} {Val : Key → Type} {α β γ : Type} {msg : String}
variable {I : Store Key Val → Prop}

/-- The two texts are different. -/
class Differs (text msg : String) : Prop where
  ne : text ≠ msg

/-- `r` is not the failure with `msg`. -/
class Spared (msg : String) (r : Except String α) : Prop where
  ne_error : r ≠ .error msg

/-- Wherever `I` holds, `m` does not fail with `msg`. -/
class Avoids (msg : String) (I : Store Key Val → Prop) (m : Tx Env Key Val α) : Prop where
  ne_error : ∀ {env s}, I s → m env s ≠ .error msg

instance (a : α) : Spared msg (pure a : Except String α) := ⟨nofun⟩

instance (a : α) : Spared msg (.ok a : Except String α) := ⟨nofun⟩

instance (text : String) [h : Differs text msg] : Spared msg (.error text : Except String α) :=
  ⟨fun heq => h.ne (Except.error.inj heq)⟩

instance (r : Except String α) (f : α → Except String β) [h : Spared msg r]
    [hf : ∀ a, Spared msg (f a)] : Spared msg (r >>= f) := by
  cases r with
  | error => exact ⟨fun heq => h.ne_error (congrArg Except.error (Except.error.inj heq))⟩
  | ok a => exact hf a

instance (c : Prop) [Decidable c] (r r' : Except String α) [h : Spared msg r] [h' : Spared msg r'] :
    Spared msg (if c then r else r') := by
  by_cases hc : c
  · rwa [if_pos hc]
  · rwa [if_neg hc]

instance (f : γ → α → Except String γ) [hf : ∀ c a, Spared msg (f c a)] (c : γ) (l : List α) :
    Spared msg (l.foldlM f c) := by
  induction l generalizing c with
  | nil =>
      rw [List.foldlM_nil]
      infer_instance
  | cons =>
      rw [List.foldlM_cons]
      infer_instance

instance (a : α) : Avoids msg I (pure a : Tx Env Key Val α) := ⟨fun _ => nofun⟩

instance (m : Tx Env Key Val α) (f : α → Tx Env Key Val β) [hI : Preserves I m]
    [h : Avoids msg I m] [hf : ∀ a, Avoids msg I (f a)] : Avoids msg I (m >>= f) where
  ne_error := by
    intro env s hs heq
    rcases bind_eq_error.mp heq with herror | ⟨a, s₁, hm, herror⟩
    · exact h.ne_error hs herror
    · exact (hf a).ne_error (hI.preserved hs hm) herror

instance (f : Env → α) : Avoids msg I (reads f : Tx Env Key Val α) := ⟨fun _ => nofun⟩

instance (c : Prop) [Decidable c] (text : String) [h : Differs text msg] :
    Avoids msg I (panic_if c text : Tx Env Key Val Unit) where
  ne_error := by
    intro env s _ heq
    unfold panic_if at heq
    by_cases hc : c
    · rw [if_pos hc] at heq
      exact h.ne (Except.error.inj heq)
    · rw [if_neg hc] at heq
      cases heq

instance (o : Option α) (text : String) [h : Differs text msg] :
    Avoids msg I (expect o text : Tx Env Key Val α) where
  ne_error := by
    intro env s _ heq
    cases o with
    | none => exact h.ne (Except.error.inj heq)
    | some => cases heq

instance (r : Except String α) [h : Spared msg r] : Avoids msg I (attempt r : Tx Env Key Val α) where
  ne_error := by
    intro env s _ heq
    cases r with
    | error => exact h.ne_error (congrArg Except.error (Except.error.inj heq))
    | ok => cases heq

instance (k : Key) : Avoids msg I (load k : Tx Env Key Val _) := ⟨fun _ => nofun⟩

instance (c : Prop) [Decidable c] (m n : Tx Env Key Val α) [h : Avoids msg I m]
    [h' : Avoids msg I n] : Avoids msg I (if c then m else n) := by
  by_cases hc : c
  · rwa [if_pos hc]
  · rwa [if_neg hc]

instance (c : Prop) [Decidable c] (m : Tx Env Key Val Unit) [h : Avoids msg I m] :
    Avoids msg I (exec_if c m) := by
  unfold exec_if
  infer_instance

instance (o : Option α) (m : Tx Env Key Val β) (f : α → Tx Env Key Val β) [h : Avoids msg I m]
    [hf : ∀ a, Avoids msg I (f a)] : Avoids msg I (o.elim m f) := by
  cases o with
  | none => exact h
  | some a => exact hf a

/-- The text comes from what follows `m`. -/
theorem Avoids.of_bind_eq_error {m : Tx Env Key Val α} {f : α → Tx Env Key Val β} [h : Avoids msg I m]
    {env : Env} {s : Store Key Val} (hs : I s) (heq : (m >>= f) env s = .error msg) :
    ∃ a s₁, m env s = .ok (a, s₁) ∧ f a env s₁ = .error msg :=
  (bind_eq_error.mp heq).resolve_left (h.ne_error hs)

variable {Tag : Type} [Tagged Key Tag]

/-- What follows `m` need only avoid the text after what `m` can return. -/
theorem Avoids.bind {m : Tx Env Key Val α} {f : α → Tx Env Key Val β} [hI : Preserves I m]
    [h : Avoids msg I m]
    (hf : ∀ {env s a s₁}, I s → m env s = .ok (a, s₁) → Avoids msg I (f a)) :
    Avoids msg I (m >>= f) where
  ne_error := by
    intro env s hs heq
    obtain ⟨a, s₁, hm, herror⟩ := Avoids.of_bind_eq_error hs heq
    exact (hf hs hm).ne_error (hI.preserved hs hm) herror

theorem Avoids.foldlM {f : γ → α → Tx Env Key Val γ} [∀ c a, Preserves I (f c a)] {l : List α}
    (hf : ∀ a ∈ l, ∀ c, Avoids msg I (f c a)) (c : γ) : Avoids msg I (l.foldlM f c) := by
  induction l generalizing c with
  | nil =>
      rw [List.foldlM_nil]
      infer_instance
  | cons a _ ih =>
      have hhead := hf a List.mem_cons_self
      have htail := ih fun b hb => hf b (List.mem_cons_of_mem _ hb)
      rw [List.foldlM_cons]
      infer_instance

instance (f : γ → α → Tx Env Key Val γ) [∀ c a, Preserves I (f c a)]
    [hf : ∀ c a, Avoids msg I (f c a)] (c : γ) (l : List α) : Avoids msg I (l.foldlM f c) :=
  Avoids.foldlM (fun a _ c => hf c a) c

variable [DecidableEq Key]

instance (k : Key) (v : Val k) : Avoids msg I (save k v : Tx Env Key Val Unit) := ⟨fun _ => nofun⟩

instance (k : Key) : Avoids msg I (remove k : Tx Env Key Val Unit) := ⟨fun _ => nofun⟩

end Messages

/-! ## Environments -/

section Environments

variable {Env Key : Type} {Val : Key → Type} {α β γ : Type} {R : Env → Env → Prop}

/-- `m` does not tell environments apart that `R` relates. -/
class Blind (R : Env → Env → Prop) (m : Tx Env Key Val α) : Prop where
  eq : ∀ {env env'} (s), R env env' → m env s = m env' s

instance (a : α) : Blind R (pure a : Tx Env Key Val α) := ⟨fun _ _ => rfl⟩

instance (m : Tx Env Key Val α) (f : α → Tx Env Key Val β) [h : Blind R m] [hf : ∀ a, Blind R (f a)] :
    Blind R (m >>= f) where
  eq {env env'} s hR := by
    have hbind (env : Env) : (m >>= f) env s = (m env s >>= fun p => f p.1 env p.2) := rfl
    rw [hbind, hbind, h.eq s hR]
    apply bind_congr
    intro p
    exact (hf p.1).eq p.2 hR

instance (c : Prop) [Decidable c] (msg : String) : Blind R (panic_if c msg : Tx Env Key Val Unit) :=
  ⟨fun _ _ => rfl⟩

instance (k : Key) : Blind R (load k : Tx Env Key Val _) := ⟨fun _ _ => rfl⟩

instance (c : Prop) [Decidable c] (m n : Tx Env Key Val α) [h : Blind R m] [h' : Blind R n] :
    Blind R (if c then m else n) := by
  by_cases hc : c
  · rwa [if_pos hc]
  · rwa [if_neg hc]

instance (c : Prop) [Decidable c] (m : Tx Env Key Val Unit) [Blind R m] : Blind R (exec_if c m) := by
  unfold exec_if
  infer_instance

instance (f : γ → α → Tx Env Key Val γ) [hf : ∀ c a, Blind R (f c a)] (c : γ) (l : List α) :
    Blind R (l.foldlM f c) := by
  induction l generalizing c with
  | nil =>
      rw [List.foldlM_nil]
      infer_instance
  | cons =>
      rw [List.foldlM_cons]
      infer_instance

end Environments

/-! ## Runs -/

section Runs

variable {Env Op Key : Type} {Val : Key → Type} (exec : Op → Tx Env Key Val Unit)

/-- The store after a transaction: that of before when it fails. -/
def step (t : Env × Op) (s : Store Key Val) : Store Key Val :=
  match exec t.2 t.1 s with
  | .ok (_, s') => s'
  | .error _ => s

/-- The store after a sequence of transactions. -/
def runFrom (s : Store Key Val) (ts : List (Env × Op)) : Store Key Val :=
  ts.foldl (fun s t => step exec t s) s

/-- Every transaction of the sequence meets `C` in the store that it finds. -/
def Along (C : Store Key Val → Env × Op → Prop) : Store Key Val → List (Env × Op) → Prop
  | _, [] => True
  | s, t :: ts => C s t ∧ Along C (step exec t s) ts

variable {exec} {s s' : Store Key Val}

instance Along.decidable {C : Store Key Val → Env × Op → Prop} [hC : ∀ s t, Decidable (C s t)] :
    (s : Store Key Val) → (ts : List (Env × Op)) → Decidable (Along exec C s ts)
  | _, [] => isTrue trivial
  | s, t :: ts =>
    have : Decidable (Along exec C (step exec t s) ts) := Along.decidable (step exec t s) ts
    inferInstanceAs (Decidable (C s t ∧ Along exec C (step exec t s) ts))

@[simp] theorem runFrom_nil : runFrom exec s [] = s := rfl

@[simp] theorem runFrom_cons {t : Env × Op} {ts : List (Env × Op)} :
    runFrom exec s (t :: ts) = runFrom exec (step exec t s) ts := rfl

theorem runFrom_append {ts us : List (Env × Op)} :
    runFrom exec s (ts ++ us) = runFrom exec (runFrom exec s ts) us := List.foldl_append

/-- A transaction succeeds and leaves the new store, or fails and leaves the old. -/
theorem step_cases (exec : Op → Tx Env Key Val Unit) (s : Store Key Val) (t : Env × Op) :
    exec t.2 t.1 s = .ok ((), step exec t s) ∨
      (∃ msg, exec t.2 t.1 s = .error msg) ∧ step exec t s = s := by
  unfold step
  cases exec t.2 t.1 s with
  | ok => exact .inl rfl
  | error msg => exact .inr ⟨⟨msg, rfl⟩, rfl⟩

theorem Along.append {C : Store Key Val → Env × Op → Prop} {ts us : List (Env × Op)} :
    Along exec C s (ts ++ us) ↔ Along exec C s ts ∧ Along exec C (runFrom exec s ts) us := by
  induction ts generalizing s with
  | nil => simp [Along]
  | cons _ _ ih => simp only [List.cons_append, Along, runFrom_cons, ih, and_assoc]

theorem Along.of_forall {C : Store Key Val → Env × Op → Prop} {ts : List (Env × Op)}
    (h : ∀ s, ∀ t ∈ ts, C s t) : Along exec C s ts := by
  induction ts generalizing s with
  | nil => exact trivial
  | cons t _ ih =>
      exact ⟨h s t List.mem_cons_self, ih fun s u hu => h s u (List.mem_cons_of_mem _ hu)⟩

theorem Along.mono {C D : Store Key Val → Env × Op → Prop} {ts : List (Env × Op)}
    (h : ∀ s t, C s t → D s t) (hC : Along exec C s ts) : Along exec D s ts := by
  induction ts generalizing s with
  | nil => exact trivial
  | cons t _ ih => exact ⟨h s t hC.1, ih hC.2⟩

theorem Along.and {C D : Store Key Val → Env × Op → Prop} {ts : List (Env × Op)}
    (hC : Along exec C s ts) (hD : Along exec D s ts) : Along exec (fun s t => C s t ∧ D s t) s ts := by
  induction ts generalizing s with
  | nil => exact trivial
  | cons _ _ ih => exact ⟨⟨hC.1, hD.1⟩, ih hC.2 hD.2⟩

/-- **The invariant rule.** What one transaction that meets `C` preserves holds after
every run whose transactions all do. -/
theorem run_invariant {C : Store Key Val → Env × Op → Prop} {I : Store Key Val → Prop}
    (hstep : ∀ {s t s'}, I s → C s t → exec t.2 t.1 s = .ok ((), s') → I s')
    {ts : List (Env × Op)} (hs : I s) (hts : Along exec C s ts) : I (runFrom exec s ts) := by
  induction ts generalizing s with
  | nil => exact hs
  | cons t _ ih =>
      apply ih _ hts.2
      rcases step_cases exec s t with hok | ⟨-, heq⟩
      · exact hstep hs hts.1 hok
      · rwa [heq]

/-- A record that a run has left, and that was not there before, is the work of one transaction. -/
theorem exists_origin {k : Key} {v : Val k} {ts : List (Env × Op)} (h : runFrom exec s ts k = some v)
    (hs : s k ≠ some v) :
    ∃ before t after s', ts = before ++ t :: after ∧
      exec t.2 t.1 (runFrom exec s before) = .ok ((), s') ∧
        runFrom exec s before k ≠ some v ∧ s' k = some v := by
  induction ts using List.reverseRecOn with
  | nil => exact absurd h hs
  | append_singleton ts t ih =>
      rw [runFrom_append, runFrom_cons, runFrom_nil] at h
      by_cases hbefore : runFrom exec s ts k = some v
      · obtain ⟨before, u, after, s', rfl, horigin⟩ := ih hbefore
        refine ⟨before, u, after ++ [t], s', ?_, horigin⟩
        rw [List.append_assoc, List.cons_append]
      · rcases step_cases exec (runFrom exec s ts) t with hok | ⟨-, heq⟩
        · exact ⟨ts, t, [], _, rfl, hok, hbefore, h⟩
        · rw [heq] at h
          exact absurd h hbefore

/-- A transaction of the kind `T` succeeds, and every transaction after it meets `C`. -/
def Since (exec : Op → Tx Env Key Val Unit) (T : Op → Prop)
    (C : Store Key Val → Env × Op → Prop) (s : Store Key Val) (ts : List (Env × Op)) : Prop :=
  ∃ before t after, ts = before ++ t :: after ∧ T t.2 ∧
    (exec t.2 t.1 (runFrom exec s before)).isOk ∧
      Along exec C (step exec t (runFrom exec s before)) after

/-- **The rule for what a transaction establishes.** What every transaction of the kind `T`
brings about where `J` holds, and one that meets `C` preserves, holds since; `J` holds all along. -/
theorem run_since {T : Op → Prop} {C : Store Key Val → Env × Op → Prop} {I J : Store Key Val → Prop}
    {ts : List (Env × Op)} (hJ : ∀ before after, ts = before ++ after → J (runFrom exec s before))
    (hstart : ∀ {s env op s'}, J s → T op → exec op env s = .ok ((), s') → I s')
    (hstep : ∀ {s t s'}, I s → C s t → exec t.2 t.1 s = .ok ((), s') → I s')
    (h : Since exec T C s ts) : I (runFrom exec s ts) := by
  obtain ⟨before, t, after, rfl, hkind, hok, hafter⟩ := h
  rw [runFrom_append, runFrom_cons]
  rcases step_cases exec (runFrom exec s before) t with hstepped | ⟨⟨msg, herror⟩, -⟩
  · exact run_invariant hstep (hstart (hJ _ _ rfl) hkind hstepped) hafter
  · rw [herror] at hok
    cases hok

/-- What the successful transactions of a sequence add to a log. -/
def gather {β : Type} (exec : Op → Tx Env Key Val Unit) (emit : Op → List β) :
    Store Key Val → List (Env × Op) → List β
  | _, [] => []
  | s, t :: ts => (if (exec t.2 t.1 s).isOk then emit t.2 else []) ++ gather exec emit (step exec t s) ts

/-- What the successful transactions of a sequence add to a log, where an entry may say something
of the store and the environment of its transaction. -/
def collect {β : Type} (exec : Op → Tx Env Key Val Unit) (emit : Store Key Val → Env × Op → List β) :
    Store Key Val → List (Env × Op) → List β
  | _, [] => []
  | s, t :: ts => (if (exec t.2 t.1 s).isOk then emit s t else []) ++ collect exec emit (step exec t s) ts

theorem collect_append {β : Type} {emit : Store Key Val → Env × Op → List β} {ts us : List (Env × Op)} :
    collect exec emit s (ts ++ us) = collect exec emit s ts ++ collect exec emit (runFrom exec s ts) us := by
  induction ts generalizing s with
  | nil => rfl
  | cons _ _ ih => simp only [List.cons_append, collect, runFrom_cons, ih, List.append_assoc]

/-- **The invariant rule with a log of what happened.** -/
theorem run_collect_invariant {β : Type} {emit : Store Key Val → Env × Op → List β}
    {C : Store Key Val → Env × Op → Prop} {I : Store Key Val → List β → Prop}
    (hstep : ∀ {s t s' log}, I s log → C s t → exec t.2 t.1 s = .ok ((), s') → I s' (log ++ emit s t))
    {ts : List (Env × Op)} {log : List β} (hs : I s log) (hts : Along exec C s ts) :
    I (runFrom exec s ts) (log ++ collect exec emit s ts) := by
  induction ts generalizing s log with
  | nil => rwa [runFrom_nil, collect, List.append_nil]
  | cons t _ ih =>
      rw [runFrom_cons, collect, ← List.append_assoc]
      apply ih _ hts.2
      rcases step_cases exec s t with hok | ⟨⟨msg, herr⟩, heq⟩
      · rw [if_pos (by rw [hok]; rfl)]
        exact hstep hs hts.1 hok
      · rw [if_neg (by rw [herr]; simp [Except.isOk, Except.toBool]), heq, List.append_nil]
        exact hs

theorem gather_eq_collect {β : Type} {emit : Op → List β} {ts : List (Env × Op)} :
    gather exec emit s ts = collect exec (fun _ t => emit t.2) s ts := by
  induction ts generalizing s with
  | nil => rfl
  | cons _ _ ih => rw [gather, collect, ih]

/-- **The invariant rule with a log.** -/
theorem run_gather_invariant {β : Type} {emit : Op → List β}
    {C : Store Key Val → Env × Op → Prop} {I : Store Key Val → List β → Prop}
    (hstep : ∀ {s t s' log}, I s log → C s t → exec t.2 t.1 s = .ok ((), s') →
      I s' (log ++ emit t.2))
    {ts : List (Env × Op)} {log : List β} (hs : I s log) (hts : Along exec C s ts) :
    I (runFrom exec s ts) (log ++ gather exec emit s ts) := by
  rw [gather_eq_collect]
  exact run_collect_invariant hstep hs hts

end Runs

end Transaction

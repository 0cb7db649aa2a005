/-
Worker leases, `backend/src/services/workerLease.service.ts`.

Each of `acquire`, `renew`, `release` and the eviction of one lease is a database transaction that
holds the row of its key, and is modelled as one step on the two tables. Times are milliseconds. The
metadata of a lease is its JSON text; the reason of an event is left out, since nothing reads it.

Beside the tables, a run has what the workers and the receivers know: the lease that a worker was
last told to hold, and for each key the last fencing token that the receiver accepted.
-/
import Mathlib.Data.Int.Order.Basic
import Mathlib.Logic.Function.Basic
import BridgeWatch.Runs

set_option autoImplicit false

namespace BridgeWatch.WorkerLease

/-! ## The tables -/

inductive LeaseEventType where
  | acquired
  | renewed
  | released
  | expired
  | stolen
  deriving DecidableEq

/-- A row of `worker_leases`. -/
structure LeaseRow where
  owner_id : Option String
  fencing_token : ℕ
  acquired_at : Option ℤ
  renewed_at : Option ℤ
  expires_at : Option ℤ
  released_at : Option ℤ
  ttl_ms : ℤ
  renewal_count : ℕ
  lost_count : ℕ
  metadata : String
  deriving DecidableEq

/-- A row of `worker_lease_events`. -/
structure LeaseEvent where
  lease_key : String
  owner_id : Option String
  fencing_token : ℕ
  event_type : LeaseEventType
  deriving DecidableEq

structure LeaseDb where
  worker_leases : String → Option LeaseRow
  worker_lease_events : List LeaseEvent

/-- Default lease duration. -/
def DEFAULT_LEASE_TTL_MS : ℤ := 30000

/-- A lease with no heartbeat for longer than this is a zombie. -/
def LEASE_ZOMBIE_THRESHOLD_MS : ℤ := 30000

/-! ## Pure helpers -/

def isExpired (expiresAt : Option ℤ) (now : ℤ) : Bool := expiresAt.elim true fun t => t ≤ now

def isHeldBy (lease : LeaseRow) (ownerId : String) (now : ℤ) : Bool :=
  lease.owner_id = some ownerId && !isExpired lease.expires_at now

def isFencedOut (presentedToken lastAcceptedToken : ℕ) : Bool := presentedToken ≤ lastAcceptedToken

def lastHeartbeatAt (lease : LeaseRow) : Option ℤ := lease.renewed_at.or lease.acquired_at

/-- An owner id, read as a condition: the empty string is false. -/
def truthy (ownerId : Option String) : Bool := ownerId.any fun id => id ≠ ""

def isZombieLease (lease : LeaseRow) (now : ℤ) (thresholdMs : ℤ) : Bool :=
  truthy lease.owner_id && (lastHeartbeatAt lease).elim true fun hb => now - hb > thresholdMs

/-! ## Transactions -/

def recordEvent (db : LeaseDb) (event : LeaseEvent) : LeaseDb :=
  { db with worker_lease_events := db.worker_lease_events ++ [event] }

/-- Insert or update the row of a key. -/
def putRow (db : LeaseDb) (leaseKey : String) (row : LeaseRow) : LeaseDb :=
  { db with worker_leases := Function.update db.worker_leases leaseKey (some row) }

structure AcquireInput where
  leaseKey : String
  ownerId : String
  ttlMs : Option ℤ
  metadata : Option String
  now : ℤ
  deriving DecidableEq

structure AcquireResult where
  acquired : Bool
  lease : Option LeaseRow

/-- Another owner's lease that has not lapsed. -/
def heldByOther (current : Option LeaseRow) (ownerId : String) (now : ℤ) : Bool :=
  current.any fun row =>
    truthy row.owner_id && row.owner_id ≠ some ownerId && !isExpired row.expires_at now

def acquire (input : AcquireInput) (db : LeaseDb) : AcquireResult × LeaseDb :=
  let ttlMs := input.ttlMs.getD DEFAULT_LEASE_TTL_MS
  let current := db.worker_leases input.leaseKey
  if heldByOther current input.ownerId input.now then ({ acquired := false, lease := current }, db)
  else
    let tookOverExpired :=
      current.any fun row => truthy row.owner_id && row.owner_id ≠ some input.ownerId
    let fencingToken := (current.elim 0 LeaseRow.fencing_token) + 1
    let row : LeaseRow :=
      { owner_id := some input.ownerId
        fencing_token := fencingToken
        acquired_at := some input.now
        renewed_at := some input.now
        expires_at := some (input.now + ttlMs)
        released_at := none
        ttl_ms := ttlMs
        renewal_count := 0
        lost_count := (current.elim 0 LeaseRow.lost_count) + (if tookOverExpired then 1 else 0)
        metadata := input.metadata.getD "\x7b\x7d" }
    let db := recordEvent (putRow db input.leaseKey row)
      { lease_key := input.leaseKey
        owner_id := some input.ownerId
        fencing_token := fencingToken
        event_type := if tookOverExpired then .stolen else .acquired }
    ({ acquired := true, lease := some row }, db)

structure RenewInput where
  leaseKey : String
  ownerId : String
  ttlMs : Option ℤ
  now : ℤ
  deriving DecidableEq

def renew (input : RenewInput) (db : LeaseDb) : Option LeaseRow × LeaseDb :=
  match db.worker_leases input.leaseKey with
  | none => (none, db)
  | some current =>
      if current.owner_id ≠ some input.ownerId ∨ isExpired current.expires_at input.now = true then
        (none, recordEvent db
          { lease_key := input.leaseKey
            owner_id := some input.ownerId
            fencing_token := current.fencing_token
            event_type := .expired })
      else
        let ttlMs := input.ttlMs.getD current.ttl_ms
        let row : LeaseRow :=
          { current with
            renewed_at := some input.now
            expires_at := some (input.now + ttlMs)
            ttl_ms := ttlMs
            renewal_count := current.renewal_count + 1 }
        (some row, recordEvent (putRow db input.leaseKey row)
          { lease_key := input.leaseKey
            owner_id := some input.ownerId
            fencing_token := current.fencing_token
            event_type := .renewed })

def release (leaseKey ownerId : String) (now : ℤ) (db : LeaseDb) : Bool × LeaseDb :=
  match db.worker_leases leaseKey with
  | none => (false, db)
  | some current =>
      if current.owner_id ≠ some ownerId then (false, db)
      else
        (true, recordEvent
          (putRow db leaseKey
            { current with owner_id := none, expires_at := some now, released_at := some now })
          { lease_key := leaseKey
            owner_id := some ownerId
            fencing_token := current.fencing_token
            event_type := .released })

/-- The transaction of `evictZombieLeases` for one of the leases that it has found. -/
def evictZombieLease (leaseKey : String) (now thresholdMs : ℤ) (db : LeaseDb) :
    Option LeaseRow × LeaseDb :=
  match db.worker_leases leaseKey with
  | none => (none, db)
  | some current =>
      if truthy current.owner_id = false then (none, db)
      else if isZombieLease current now thresholdMs = false then (none, db)
      else
        let row : LeaseRow :=
          { current with
            owner_id := none
            expires_at := some now
            released_at := some now
            lost_count := current.lost_count + 1 }
        (some row, recordEvent (putRow db leaseKey row)
          { lease_key := leaseKey
            owner_id := current.owner_id
            fencing_token := current.fencing_token
            event_type := .expired })

/-! ## Runs -/

/-- What a worker has been told of the lease that it holds. -/
structure Grant where
  ownerId : String
  fencingToken : ℕ
  expiresAt : Option ℤ
  deriving DecidableEq

/-- The tables, with what the workers and the receivers know. -/
structure World where
  db : LeaseDb
  /-- The lease of a key, as its holder was last told. -/
  grants : String → Option Grant
  /-- The last token that the receiver of a key has accepted. -/
  lastAccepted : String → ℕ
  /-- The accepted writes, each with its key and its token. -/
  accepted : List (String × ℕ)

inductive Op where
  | acquire (input : AcquireInput)
  | renew (input : RenewInput)
  | release (leaseKey ownerId : String) (now : ℤ)
  | evict (leaseKey : String) (now thresholdMs : ℤ)
  /-- A worker presents a token to the receiver of a key. -/
  | write (leaseKey ownerId : String) (token : ℕ)
  deriving DecidableEq

/-- What a returned lease tells the worker that asked for it. -/
def granted (ownerId : String) (lease : LeaseRow) : Grant :=
  { ownerId, fencingToken := lease.fencing_token, expiresAt := lease.expires_at }

def step (w : World) : Op → World
  | .acquire input =>
      let result := acquire input w.db
      { w with
        db := result.2
        grants := if result.1.acquired then
            Function.update w.grants input.leaseKey (result.1.lease.map (granted input.ownerId))
          else w.grants }
  | .renew input =>
      let result := renew input w.db
      { w with
        db := result.2
        grants := result.1.elim w.grants fun lease =>
          Function.update w.grants input.leaseKey (some (granted input.ownerId lease)) }
  | .release leaseKey ownerId now =>
      let result := release leaseKey ownerId now w.db
      { w with
        db := result.2
        grants := if result.1 then Function.update w.grants leaseKey none else w.grants }
  | .evict leaseKey now thresholdMs =>
      let result := evictZombieLease leaseKey now thresholdMs w.db
      { w with
        db := result.2
        grants := if result.1.isSome then Function.update w.grants leaseKey none else w.grants }
  | .write leaseKey _ token =>
      if isFencedOut token (w.lastAccepted leaseKey) then w
      else
        { w with
          lastAccepted := Function.update w.lastAccepted leaseKey token
          accepted := w.accepted ++ [(leaseKey, token)] }

/-- Nothing has happened yet. -/
def World.initial : World where
  db := { worker_leases := fun _ => none, worker_lease_events := [] }
  grants _ := none
  lastAccepted _ := 0
  accepted := []

/-- The event of an acquisition of the key, which is where a token is issued. -/
def LeaseEvent.issues (event : LeaseEvent) (leaseKey : String) : Bool :=
  event.lease_key = leaseKey && (event.event_type = .acquired || event.event_type = .stolen)

/-- The tokens that have been issued for a key, in order. -/
def issued (db : LeaseDb) (leaseKey : String) : List ℕ :=
  (db.worker_lease_events.filter (·.issues leaseKey)).map LeaseEvent.fencing_token

/-- The token has been issued to the owner for the key. -/
def IssuedTo (db : LeaseDb) (leaseKey ownerId : String) (token : ℕ) : Prop :=
  ∃ event ∈ db.worker_lease_events, event.issues leaseKey = true ∧ event.owner_id = some ownerId ∧
    event.fencing_token = token

instance (db : LeaseDb) (leaseKey ownerId : String) (token : ℕ) :
    Decidable (IssuedTo db leaseKey ownerId token) :=
  inferInstanceAs (Decidable (∃ event ∈ db.worker_lease_events, _))

/-- A worker presents only tokens that it has been issued, at any time afterwards. -/
def Presented (w : World) : Op → Prop
  | .write leaseKey ownerId token => IssuedTo w.db leaseKey ownerId token
  | _ => True

instance (w : World) : (op : Op) → Decidable (Presented w op)
  | .write leaseKey ownerId token => inferInstanceAs (Decidable (IssuedTo w.db leaseKey ownerId token))
  | .acquire _ | .renew _ | .release _ _ _ | .evict _ _ _ => isTrue trivial

/-! ## Tokens -/

section Tokens

variable {db db' : LeaseDb} {leaseKey key ownerId : String} {row : LeaseRow} {event : LeaseEvent}
variable {now thresholdMs : ℤ} {token : ℕ}

/-- The token of the row of a key; none is issued before the first row is there. -/
def lastToken (db : LeaseDb) (key : String) : ℕ := (db.worker_leases key).elim 0 LeaseRow.fencing_token

/-- The tokens of the rows, and the tokens issued, are those of before. -/
def SameTokens (db db' : LeaseDb) : Prop :=
  ∀ key, (db'.worker_leases key).map LeaseRow.fencing_token =
      (db.worker_leases key).map LeaseRow.fencing_token ∧ issued db' key = issued db key

@[simp] theorem written_self :
    (recordEvent (putRow db leaseKey row) event).worker_leases leaseKey = some row :=
  Function.update_self ..

theorem written_of_ne (h : key ≠ leaseKey) :
    (recordEvent (putRow db leaseKey row) event).worker_leases key = db.worker_leases key :=
  Function.update_of_ne h _ _

theorem issued_recordEvent : issued (recordEvent db event) key =
    issued db key ++ if event.issues key = true then [event.fencing_token] else [] := by
  rw [issued, recordEvent, List.filter_append, List.map_append, ← issued]
  by_cases h : event.issues key = true
  · simp [h]
  · simp [h]

@[simp] theorem issued_putRow : issued (putRow db leaseKey row) key = issued db key := rfl

theorem lastToken_eq (h : SameTokens db db') (key : String) : lastToken db' key = lastToken db key := by
  have hmap := (h key).1
  rw [lastToken, lastToken]
  cases hrow : db.worker_leases key with
  | none =>
      rw [hrow, Option.map_none, Option.map_eq_none_iff] at hmap
      rw [hmap]
  | some =>
      rw [hrow, Option.map_some, Option.map_eq_some_iff] at hmap
      obtain ⟨row', hrow', htoken⟩ := hmap
      rw [hrow']
      exact htoken

/-- An event that issues nothing. -/
theorem SameTokens.of_event (h : ∀ key, event.issues key = false) : SameTokens db (recordEvent db event) := by
  intro key
  rw [issued_recordEvent, h key, if_neg Bool.false_ne_true, List.append_nil]
  exact ⟨rfl, rfl⟩

/-- Another row with the same token, and an event that issues nothing. -/
theorem SameTokens.of_row {current : LeaseRow} (hrow : db.worker_leases leaseKey = some current)
    (htoken : row.fencing_token = current.fencing_token) (h : ∀ key, event.issues key = false) :
    SameTokens db (recordEvent (putRow db leaseKey row) event) := by
  intro key
  rw [issued_recordEvent, h key, if_neg Bool.false_ne_true, List.append_nil]
  refine ⟨?_, rfl⟩
  by_cases hkey : key = leaseKey
  · subst hkey
    rw [written_self, hrow, Option.map_some, Option.map_some, htoken]
  · rw [written_of_ne hkey]

theorem SameTokens.refl : SameTokens db db := fun _ => ⟨rfl, rfl⟩

theorem renew_sameTokens (input : RenewInput) : SameTokens db (renew input db).2 := by
  cases hrow : db.worker_leases input.leaseKey with
  | none =>
      rw [renew, hrow]
      exact SameTokens.refl
  | some current =>
      rw [renew, hrow]
      dsimp only
      by_cases hlost : current.owner_id ≠ some input.ownerId ∨
          isExpired current.expires_at input.now = true
      · rw [if_pos hlost]
        exact SameTokens.of_event fun key => by simp [LeaseEvent.issues]
      · rw [if_neg hlost]
        exact SameTokens.of_row hrow rfl fun key => by simp [LeaseEvent.issues]

theorem release_sameTokens : SameTokens db (release leaseKey ownerId now db).2 := by
  cases hrow : db.worker_leases leaseKey with
  | none =>
      rw [release, hrow]
      exact SameTokens.refl
  | some current =>
      rw [release, hrow]
      dsimp only
      by_cases hother : current.owner_id ≠ some ownerId
      · rw [if_pos hother]
        exact SameTokens.refl
      · rw [if_neg hother]
        exact SameTokens.of_row hrow rfl fun key => by simp [LeaseEvent.issues]

theorem evict_sameTokens : SameTokens db (evictZombieLease leaseKey now thresholdMs db).2 := by
  cases hrow : db.worker_leases leaseKey with
  | none =>
      rw [evictZombieLease, hrow]
      exact SameTokens.refl
  | some current =>
      rw [evictZombieLease, hrow]
      dsimp only
      by_cases hfree : truthy current.owner_id = false
      · rw [if_pos hfree]
        exact SameTokens.refl
      · by_cases halive : isZombieLease current now thresholdMs = false
        · rw [if_neg hfree, if_pos halive]
          exact SameTokens.refl
        · rw [if_neg hfree, if_neg halive]
          exact SameTokens.of_row hrow rfl fun key => by simp [LeaseEvent.issues]

/-- What `acquire` does when it succeeds: the next token goes to the owner. -/
theorem acquire_spec (input : AcquireInput) (db : LeaseDb) :
    (heldByOther (db.worker_leases input.leaseKey) input.ownerId input.now = true ∧
        (acquire input db).1.acquired = false ∧ (acquire input db).2 = db) ∨
      ∃ row event, (acquire input db).1 = { acquired := true, lease := some row } ∧
        (acquire input db).2 = recordEvent (putRow db input.leaseKey row) event ∧
        row.owner_id = some input.ownerId ∧ row.fencing_token = lastToken db input.leaseKey + 1 ∧
        event.fencing_token = row.fencing_token ∧
        ∀ key, event.issues key = decide (input.leaseKey = key) := by
  by_cases hheld : heldByOther (db.worker_leases input.leaseKey) input.ownerId input.now = true
  · left
    rw [acquire, if_pos hheld]
    exact ⟨hheld, rfl, rfl⟩
  · right
    rw [acquire, if_neg hheld]
    refine ⟨_, _, rfl, rfl, rfl, rfl, rfl, fun key => ?_⟩
    by_cases hstolen : (db.worker_leases input.leaseKey).any
        (fun row => truthy row.owner_id && row.owner_id ≠ some input.ownerId) = true
    · simp [LeaseEvent.issues, hstolen]
    · simp [LeaseEvent.issues, hstolen]

/-- The tokens of a key go up, and the row has the last one. -/
structure TokensRise (db : LeaseDb) : Prop where
  increasing : ∀ key, (issued db key).Pairwise (· < ·)
  bounded : ∀ key, ∀ token ∈ issued db key, 0 < token ∧ token ≤ lastToken db key
  positive : ∀ key row, db.worker_leases key = some row → 0 < row.fencing_token

theorem TokensRise.sameTokens (h : TokensRise db) (hsame : SameTokens db db') : TokensRise db' := by
  constructor
  · intro key
    rw [(hsame key).2]
    exact h.increasing key
  · intro key token hmem
    rw [(hsame key).2] at hmem
    rw [lastToken_eq hsame]
    exact h.bounded key token hmem
  · intro key row hrow
    have hmap := (hsame key).1
    rw [hrow, Option.map_some] at hmap
    obtain ⟨row', hrow', htoken⟩ := Option.map_eq_some_iff.mp hmap.symm
    rw [← htoken]
    exact h.positive key row' hrow'

/-- `acquire` issues a token above all the others. -/
theorem TokensRise.acquire (h : TokensRise db) (input : AcquireInput) :
    TokensRise (WorkerLease.acquire input db).2 ∧
      ∀ key, lastToken db key ≤ lastToken (WorkerLease.acquire input db).2 key := by
  rcases acquire_spec input db with ⟨-, -, hsame⟩ | ⟨row, event, -, hdb, -, htoken, hevent, hissues⟩
  · rw [hsame]
    exact ⟨h, fun _ => Nat.le_refl _⟩
  · rw [hdb]
    have hissued_self : issued (recordEvent (putRow db input.leaseKey row) event) input.leaseKey =
        issued db input.leaseKey ++ [lastToken db input.leaseKey + 1] := by
      rw [issued_recordEvent, hissues, decide_eq_true rfl, if_pos rfl, hevent, htoken, issued_putRow]
    have hissued_other : ∀ {key}, key ≠ input.leaseKey →
        issued (recordEvent (putRow db input.leaseKey row) event) key = issued db key := by
      intro key hkey
      rw [issued_recordEvent, hissues, decide_eq_false (Ne.symm hkey), if_neg Bool.false_ne_true,
        List.append_nil, issued_putRow]
    have hlast : lastToken (recordEvent (putRow db input.leaseKey row) event) input.leaseKey =
        lastToken db input.leaseKey + 1 := by
      rw [lastToken, written_self, Option.elim_some, htoken]
    refine ⟨⟨?_, ?_, ?_⟩, ?_⟩
    · intro key
      by_cases hkey : key = input.leaseKey
      · rw [hkey, hissued_self, List.pairwise_append]
        refine ⟨h.increasing _, List.pairwise_singleton _ _, ?_⟩
        intro token hmem last hlast
        rw [List.mem_singleton.mp hlast]
        exact Nat.lt_succ_of_le (h.bounded _ token hmem).2
      · rw [hissued_other hkey]
        exact h.increasing key
    · intro key token hmem
      by_cases hkey : key = input.leaseKey
      · subst hkey
        rw [hissued_self, List.mem_append, List.mem_singleton] at hmem
        rw [hlast]
        rcases hmem with hold | rfl
        · exact ⟨(h.bounded _ token hold).1, Nat.le_succ_of_le (h.bounded _ token hold).2⟩
        · exact ⟨Nat.succ_pos _, Nat.le_refl _⟩
      · rw [hissued_other hkey] at hmem
        rw [lastToken, written_of_ne hkey]
        exact h.bounded key token hmem
    · intro key row' hrow'
      by_cases hkey : key = input.leaseKey
      · rw [hkey, written_self, Option.some.injEq] at hrow'
        rw [← hrow', htoken]
        exact Nat.succ_pos _
      · rw [written_of_ne hkey] at hrow'
        exact h.positive key row' hrow'
    · intro key
      by_cases hkey : key = input.leaseKey
      · rw [hkey, hlast]
        exact Nat.le_succ _
      · exact Nat.le_of_eq (by rw [lastToken, lastToken, written_of_ne hkey])

/-- A token that has been issued to somebody is one of the issued tokens. -/
theorem IssuedTo.mem (h : IssuedTo db key ownerId token) : token ∈ issued db key := by
  obtain ⟨event, hmem, hissues, -, rfl⟩ := h
  exact List.mem_map_of_mem (List.mem_filter.mpr ⟨hmem, hissues⟩)

end Tokens

/-! ## Grants and receivers -/

section Worlds

variable {w : World} {key : String} {token : ℕ}

/-- What holds in every run. -/
structure Fenced (w : World) : Prop where
  tokens : TokensRise w.db
  grants : ∀ key grant, w.grants key = some grant → ∃ row, w.db.worker_leases key = some row ∧
    row.owner_id = some grant.ownerId ∧ row.fencing_token = grant.fencingToken ∧
    row.expires_at = grant.expiresAt
  accepted_le : ∀ key token, (key, token) ∈ w.accepted → token ≤ w.lastAccepted key
  last_le : ∀ key, w.lastAccepted key ≤ lastToken w.db key
  last_mem : ∀ key, w.lastAccepted key = 0 ∨ (key, w.lastAccepted key) ∈ w.accepted

/-- The receivers do not depend on the tables, as long as no token goes down. -/
theorem Fenced.tables (h : Fenced w) {db : LeaseDb} {grants : String → Option Grant}
    (htokens : TokensRise db) (hle : ∀ key, lastToken w.db key ≤ lastToken db key)
    (hgrants : ∀ key grant, grants key = some grant → ∃ row, db.worker_leases key = some row ∧
      row.owner_id = some grant.ownerId ∧ row.fencing_token = grant.fencingToken ∧
      row.expires_at = grant.expiresAt) :
    Fenced { w with db, grants } :=
  ⟨htokens, hgrants, h.accepted_le, fun key => Nat.le_trans (h.last_le key) (hle key), h.last_mem⟩

/-- The rows of the other keys are those of before, and so are their grants. -/
theorem Fenced.grants_update (h : Fenced w) {leaseKey : String} {db : LeaseDb} {grant : Option Grant}
    (hdb : ∀ key, key ≠ leaseKey → db.worker_leases key = w.db.worker_leases key)
    (hself : ∀ g, grant = some g → ∃ row, db.worker_leases leaseKey = some row ∧
      row.owner_id = some g.ownerId ∧ row.fencing_token = g.fencingToken ∧ row.expires_at = g.expiresAt) :
    ∀ key g, Function.update w.grants leaseKey grant key = some g →
      ∃ row, db.worker_leases key = some row ∧ row.owner_id = some g.ownerId ∧
        row.fencing_token = g.fencingToken ∧ row.expires_at = g.expiresAt := by
  intro key g hg
  by_cases hkey : key = leaseKey
  · subst hkey
    rw [Function.update_self] at hg
    exact hself g hg
  · rw [Function.update_of_ne hkey] at hg
    rw [hdb key hkey]
    exact h.grants key g hg

/-- The row of one key is written, and no token is given out. -/
theorem Fenced.regranted (h : Fenced w) {leaseKey : String} {row : LeaseRow} {event : LeaseEvent} {grant : Option Grant}
    (hsame : SameTokens w.db (recordEvent (putRow w.db leaseKey row) event))
    (hself : ∀ g, grant = some g → row.owner_id = some g.ownerId ∧ row.fencing_token = g.fencingToken ∧
      row.expires_at = g.expiresAt) :
    Fenced { w with
      db := recordEvent (putRow w.db leaseKey row) event, grants := Function.update w.grants leaseKey grant } := by
  refine h.tables (h.tokens.sameTokens hsame) (fun key => Nat.le_of_eq (lastToken_eq hsame key).symm) ?_
  apply h.grants_update
  · intro key hkey
    exact written_of_ne hkey
  · intro g hg
    exact ⟨row, written_self, hself g hg⟩

/-- What a transaction that does not succeed says to nobody, and an event alone, change no grant. -/
theorem Fenced.unchanged (h : Fenced w) {db : LeaseDb} (hsame : SameTokens w.db db)
    (hrows : db.worker_leases = w.db.worker_leases) : Fenced { w with db } := by
  refine h.tables (h.tokens.sameTokens hsame) (fun key => Nat.le_of_eq (lastToken_eq hsame key).symm) ?_
  rw [hrows]
  exact h.grants

theorem Fenced.initial : Fenced World.initial where
  tokens := ⟨fun _ => List.Pairwise.nil, fun _ _ hmem => absurd hmem List.not_mem_nil,
    fun _ _ hrow => by cases hrow⟩
  grants _ _ hgrant := by cases hgrant
  accepted_le _ _ hmem := absurd hmem List.not_mem_nil
  last_le _ := Nat.zero_le _
  last_mem _ := .inl rfl

/-- **One step.** -/
theorem Fenced.step (h : Fenced w) {op : Op} (hop : Presented w op) : Fenced (WorkerLease.step w op) := by
  cases op with
  | acquire input =>
      obtain ⟨htokens, hle⟩ := h.tokens.acquire input
      rcases acquire_spec input w.db with ⟨-, hfailed, hsame⟩ | ⟨row, event, hresult, hdb, howner, -⟩
      · simp only [WorkerLease.step, hfailed, hsame, Bool.false_eq_true, if_false]
        exact h
      · refine h.tables htokens hle ?_
        rw [hresult, if_pos rfl, hdb]
        apply h.grants_update
        · intro key hkey
          exact written_of_ne hkey
        · intro grant hgrant
          rw [Option.map_some, Option.some.injEq] at hgrant
          subst hgrant
          exact ⟨row, written_self, howner, rfl, rfl⟩
  | renew input =>
      have hsame : SameTokens w.db (renew input w.db).2 := renew_sameTokens input
      cases hrow : w.db.worker_leases input.leaseKey with
      | none =>
          simp only [WorkerLease.step, renew, hrow]
          exact h
      | some current =>
          by_cases hlost : current.owner_id ≠ some input.ownerId ∨
              isExpired current.expires_at input.now = true
          · simp only [renew, hrow, if_pos hlost] at hsame
            simp only [WorkerLease.step, renew, hrow, if_pos hlost]
            exact h.unchanged hsame rfl
          · simp only [renew, hrow, if_neg hlost] at hsame
            simp only [WorkerLease.step, renew, hrow, if_neg hlost]
            apply h.regranted hsame
            rintro _ ⟨⟩
            exact ⟨not_not.mp (not_or.mp hlost).1, rfl, rfl⟩
  | release leaseKey ownerId now =>
      have hsame : SameTokens w.db (release leaseKey ownerId now w.db).2 := release_sameTokens
      cases hrow : w.db.worker_leases leaseKey with
      | none =>
          simp only [WorkerLease.step, release, hrow]
          exact h
      | some current =>
          by_cases hother : current.owner_id ≠ some ownerId
          · simp only [WorkerLease.step, release, hrow, if_pos hother]
            exact h
          · simp only [release, hrow, if_neg hother] at hsame
            simp only [WorkerLease.step, release, hrow, if_neg hother]
            exact h.regranted hsame nofun
  | evict leaseKey now thresholdMs =>
      have hsame : SameTokens w.db (evictZombieLease leaseKey now thresholdMs w.db).2 := evict_sameTokens
      cases hrow : w.db.worker_leases leaseKey with
      | none =>
          simp only [WorkerLease.step, evictZombieLease, hrow]
          exact h
      | some current =>
          by_cases hfree : truthy current.owner_id = false
          · simp only [WorkerLease.step, evictZombieLease, hrow, if_pos hfree]
            exact h
          · by_cases halive : isZombieLease current now thresholdMs = false
            · simp only [WorkerLease.step, evictZombieLease, hrow, if_neg hfree, if_pos halive]
              exact h
            · simp only [evictZombieLease, hrow, if_neg hfree, if_neg halive] at hsame
              simp only [WorkerLease.step, evictZombieLease, hrow, if_neg hfree, if_neg halive]
              exact h.regranted hsame nofun
  | write leaseKey _ token =>
      have hbound := (h.tokens.bounded leaseKey token (IssuedTo.mem hop)).2
      by_cases hfenced : isFencedOut token (w.lastAccepted leaseKey) = true
      · rw [WorkerLease.step, if_pos hfenced]
        exact h
      · rw [WorkerLease.step, if_neg hfenced]
        have hgt : w.lastAccepted leaseKey < token := by
          rw [isFencedOut, decide_eq_true_eq] at hfenced
          exact Nat.lt_of_not_le hfenced
        refine ⟨h.tokens, h.grants, ?_, ?_, ?_⟩
        · intro key token' hmem
          dsimp only at hmem ⊢
          rcases List.mem_append.mp hmem with hold | hnew
          · by_cases hkey : key = leaseKey
            · subst hkey
              rw [Function.update_self]
              exact Nat.le_trans (h.accepted_le key token' hold) (Nat.le_of_lt hgt)
            · rw [Function.update_of_ne hkey]
              exact h.accepted_le key token' hold
          · rw [List.mem_singleton, Prod.mk.injEq] at hnew
            exact Nat.le_of_eq (by rw [hnew.1, hnew.2, Function.update_self])
        · intro key
          dsimp only
          by_cases hkey : key = leaseKey
          · subst hkey
            rw [Function.update_self]
            exact hbound
          · rw [Function.update_of_ne hkey]
            exact h.last_le key
        · intro key
          dsimp only
          by_cases hkey : key = leaseKey
          · subst hkey
            rw [Function.update_self]
            exact .inr (List.mem_append_right _ (List.mem_singleton_self _))
          · rw [Function.update_of_ne hkey]
            exact (h.last_mem key).imp_right fun hmem => List.mem_append_left _ hmem

/-- A receiver accepts exactly the tokens above those that it has accepted. -/
theorem Fenced.accepts_iff (h : Fenced w) (hpositive : 0 < token) :
    isFencedOut token (w.lastAccepted key) = false ↔
      ∀ token', (key, token') ∈ w.accepted → token' < token := by
  rw [isFencedOut, decide_eq_false_iff_not, Nat.not_le]
  constructor
  · intro hlt token' hmem
    exact Nat.lt_of_le_of_lt (h.accepted_le key token' hmem) hlt
  · intro hall
    rcases h.last_mem key with hzero | hmem
    · rw [hzero]
      exact hpositive
    · exact hall _ hmem

/-- The holder has the last token, so a receiver can only have accepted that very one. -/
theorem Fenced.accepts_holder_iff (h : Fenced w) {grant : Grant} (hgrant : w.grants key = some grant) :
    isFencedOut grant.fencingToken (w.lastAccepted key) = false ↔
      (key, grant.fencingToken) ∉ w.accepted := by
  obtain ⟨row, hrow, -, htoken, -⟩ := h.grants key grant hgrant
  have hlast : lastToken w.db key = grant.fencingToken := by
    rw [lastToken, hrow, Option.elim_some, htoken]
  rw [h.accepts_iff (htoken ▸ h.tokens.positive key row hrow)]
  constructor
  · intro hall hmem
    exact Nat.lt_irrefl _ (hall _ hmem)
  · intro hnot token hmem
    have hle := Nat.le_trans (h.accepted_le key token hmem) (h.last_le key)
    rw [hlast] at hle
    apply Nat.lt_of_le_of_ne hle
    rintro rfl
    exact hnot hmem

/-- Nobody acquires what another owner holds. -/
theorem Fenced.excludes (h : Fenced w) {input : AcquireInput} {grant : Grant}
    (hgrant : w.grants input.leaseKey = some grant) (hother : grant.ownerId ≠ input.ownerId)
    (hid : grant.ownerId ≠ "") (hlive : isExpired grant.expiresAt input.now = false) :
    (acquire input w.db).1.acquired = false ∧ (acquire input w.db).2 = w.db := by
  obtain ⟨row, hrow, howner, -, hexpires⟩ := h.grants _ grant hgrant
  have hheld : heldByOther (w.db.worker_leases input.leaseKey) input.ownerId input.now = true := by
    rw [hrow, heldByOther, Option.any_some, howner, hexpires, hlive]
    simp [truthy, hid, hother]
  rw [acquire, if_pos hheld]
  exact ⟨rfl, rfl⟩

end Worlds

/-- **Worker leases exclude, and their tokens fence.** In every run, whatever the times are: the
tokens issued for a key strictly increase; nobody acquires a key whose lease another owner, with an
id that is not empty, was last told to hold and that has not lapsed; a receiver accepts a token that
has been issued exactly when it is above every token that it has accepted; and so it accepts the
token of the worker that holds the lease exactly when it has not accepted that token before. -/
theorem leases_exclude_and_fence (ops : List Op) (hops : Runs.Along step Presented World.initial ops) :
    (∀ key, (issued (Runs.run step World.initial ops).db key).Pairwise (· < ·)) ∧
    (∀ input grant, (Runs.run step World.initial ops).grants input.leaseKey = some grant →
      grant.ownerId ≠ input.ownerId → grant.ownerId ≠ "" →
        isExpired grant.expiresAt input.now = false →
          (acquire input (Runs.run step World.initial ops).db).1.acquired = false) ∧
    (∀ key ownerId token, IssuedTo (Runs.run step World.initial ops).db key ownerId token →
      (isFencedOut token ((Runs.run step World.initial ops).lastAccepted key) = false ↔
        ∀ token', (key, token') ∈ (Runs.run step World.initial ops).accepted → token' < token)) ∧
    (∀ key grant now, (Runs.run step World.initial ops).grants key = some grant →
      isExpired grant.expiresAt now = false →
        (isFencedOut grant.fencingToken ((Runs.run step World.initial ops).lastAccepted key) = false ↔
          (key, grant.fencingToken) ∉ (Runs.run step World.initial ops).accepted)) := by
  have h : Fenced (Runs.run step World.initial ops) :=
    Runs.run_invariant (fun hs hop => hs.step hop) Fenced.initial hops
  refine ⟨h.tokens.increasing, ?_, ?_, ?_⟩
  · intro input grant hgrant hother hid hlive
    exact (h.excludes hgrant hother hid hlive).1
  · intro key ownerId token hissued
    exact h.accepts_iff (h.tokens.bounded key token hissued.mem).1
  · intro key grant now hgrant _
    exact h.accepts_holder_iff hgrant

/-- A worker writes, stalls past its expiry, loses the lease to another one, and writes again. -/
def stalled : List Op :=
  [.acquire { leaseKey := "job", ownerId := "a", ttlMs := none, metadata := none, now := 0 },
    .write "job" "a" 1,
    .acquire { leaseKey := "job", ownerId := "b", ttlMs := none, metadata := none, now := 40000 },
    .write "job" "b" 2,
    .write "job" "a" 1]

theorem leases_exclude_and_fence_stalled :
    (issued (Runs.run step World.initial stalled).db "job").Pairwise (· < ·) ∧
      (isFencedOut 1 ((Runs.run step World.initial stalled).lastAccepted "job") = false ↔
        ∀ token', ("job", token') ∈ (Runs.run step World.initial stalled).accepted → token' < 1) := by
  obtain ⟨hincreasing, -, haccepts, -⟩ := leases_exclude_and_fence stalled (by decide +kernel)
  exact ⟨hincreasing "job", haccepts "job" "a" 1 (by decide +kernel)⟩

/-- A holder whose first write was accepted has its next one rejected, as the token is the same; and
the lease of an owner whose id is the empty string does not keep the others out. -/
theorem holder_fenced_out :
    (∃ ops, Runs.Along step Presented World.initial ops ∧ ∃ key grant now,
      (Runs.run step World.initial ops).grants key = some grant ∧
        isExpired grant.expiresAt now = false ∧
          isFencedOut grant.fencingToken ((Runs.run step World.initial ops).lastAccepted key) = true) ∧
    (∃ ops, Runs.Along step Presented World.initial ops ∧ ∃ (input : AcquireInput) (grant : Grant),
      (Runs.run step World.initial ops).grants input.leaseKey = some grant ∧
        grant.ownerId ≠ input.ownerId ∧ isExpired grant.expiresAt input.now = false ∧
          (acquire input (Runs.run step World.initial ops).db).1.acquired = true) := by
  constructor
  · refine ⟨stalled.take 2, by decide +kernel, "job",
      { ownerId := "a", fencingToken := 1, expiresAt := some 30000 }, 100, ?_⟩
    decide +kernel
  · refine ⟨[.acquire { leaseKey := "job", ownerId := "", ttlMs := none, metadata := none, now := 0 }],
      by decide +kernel,
      { leaseKey := "job", ownerId := "b", ttlMs := none, metadata := none, now := 1 },
      { ownerId := "", fencingToken := 1, expiresAt := some 30000 }, ?_⟩
    decide +kernel

end BridgeWatch.WorkerLease

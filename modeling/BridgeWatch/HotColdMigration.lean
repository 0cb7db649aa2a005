/-
Migration from the hot tables to the archive, `backend/src/services/hotColdMigration.service.ts`.

Every SQL statement is one step, and so is the invalidation of the caches; a step that fails changes
nothing, and its call goes on in the catch branch of the code. Any number of calls take their steps in
any order, and writers insert rows between them, which have keys of their own. A hot table and its
archive are named by their entity type. The checks of the aggregates are left out, as they catch their
own failures and change nothing, and so are the times and the checksum of a manifest, which no decision
reads.
-/
import Mathlib.Data.Int.Notation
import Mathlib.Data.List.Basic
import Mathlib.Logic.Function.Basic
import BridgeWatch.Runs

set_option autoImplicit false

namespace BridgeWatch.HotColdMigration

/-! ## Tables -/

structure Row where
  key : String
  time : ℤ
  data : String
  deriving DecidableEq

/-- A range of times of an entity type, `rangeEnd` not included. -/
structure Segment where
  entityType : String
  rangeStart : ℤ
  rangeEnd : ℤ
  deriving DecidableEq

def Segment.holds (segment : Segment) (row : Row) : Bool :=
  segment.rangeStart ≤ row.time && row.time < segment.rangeEnd

inductive MigrationStatus where
  | pending
  | migrating
  | verifying
  | complete
  | failed
  | rolled_back
  deriving DecidableEq

structure MigrationManifest extends Segment where
  id : ℕ
  status : MigrationStatus
  schemaVersion : ℕ
  rowCount : Option ℕ
  errorMessage : Option String
  deriving DecidableEq

structure MigrateRangeOptions extends Segment where
  schemaVersion : ℕ
  cutoverOnSuccess : Bool
  deriving DecidableEq

def MIGRATION_ENTITIES : List String := ["prices", "health_scores", "liquidity_snapshots", "pool_events"]

/-- The hot table and the archive table of each entity type. -/
structure Tables where
  hot : String → List Row
  archive : String → List Row

namespace Tables

def insert (t : Tables) (entityType : String) (row : Row) : Tables :=
  { t with hot := Function.update t.hot entityType (t.hot entityType ++ [row]) }

/-- `INSERT INTO archive SELECT * FROM hot WHERE ... ON CONFLICT DO NOTHING`. -/
def copy (t : Tables) (segment : Segment) : Tables :=
  let archived := t.archive segment.entityType
  let selected := (t.hot segment.entityType).filter fun row =>
    segment.holds row && !archived.any fun other => other.key = row.key
  { t with archive := Function.update t.archive segment.entityType (archived ++ selected) }

def deleteHot (t : Tables) (segment : Segment) : Tables :=
  { t with
    hot := Function.update t.hot segment.entityType
      ((t.hot segment.entityType).filter fun row => !segment.holds row) }

def deleteArchive (t : Tables) (segment : Segment) : Tables :=
  { t with
    archive := Function.update t.archive segment.entityType
      ((t.archive segment.entityType).filter fun row => !segment.holds row) }

def archived (t : Tables) (segment : Segment) : List Row :=
  (t.archive segment.entityType).filter fun row => segment.holds row

end Tables

structure Database extends Tables where
  manifests : List MigrationManifest
  nextId : ℕ

namespace Database

/-- `UPDATE migration_manifests SET ... WHERE id = id`. -/
def updateManifest (db : Database) (id : ℕ) (set : MigrationManifest → MigrationManifest) : Database :=
  { db with manifests := db.manifests.map fun manifest => if manifest.id = id then set manifest else manifest }

def setStatus (db : Database) (id : ℕ) (status : MigrationStatus) : Database :=
  db.updateManifest id fun manifest => { manifest with status }

def getManifest (db : Database) (id : ℕ) : Option MigrationManifest :=
  db.manifests.find? fun manifest => manifest.id = id

/-- The manifest of exactly this segment. -/
def findManifest (db : Database) (segment : Segment) : Option MigrationManifest :=
  db.manifests.find? fun manifest => manifest.toSegment = segment

def insertManifest (db : Database) (opts : MigrateRangeOptions) : Database :=
  { db with
    manifests := db.manifests ++
      [{ opts.toSegment with
         id := db.nextId, status := .pending, schemaVersion := opts.schemaVersion, rowCount := none
         errorMessage := none }]
    nextId := db.nextId + 1 }

end Database

/-! ## Calls -/

/-- The statement that a call runs next. In `performCutover` the flag tells whether `migrateRange` has
called it, whose catch branch then stands around it. -/
inductive Process where
  /-- `createOrResumeManifest`. -/
  | finding (opts : MigrateRangeOptions)
  | creating (opts : MigrateRangeOptions)
  | refinding (opts : MigrateRangeOptions)
  /-- The statements of `migrateRange`. -/
  | starting (id : ℕ) (opts : MigrateRangeOptions)
  | copying (id : ℕ) (opts : MigrateRangeOptions)
  | fetching (id : ℕ) (opts : MigrateRangeOptions)
  | verifying (id : ℕ) (opts : MigrateRangeOptions) (rowCount : ℕ)
  | invalidating (id : ℕ) (opts : MigrateRangeOptions) (rowCount : ℕ)
  | stamping (id : ℕ) (opts : MigrateRangeOptions) (rowCount : ℕ)
  | reporting (id : ℕ)
  | failing (id : ℕ) (errorMessage : String)
  /-- `performCutover`. -/
  | counting (id : ℕ) (segment : Segment) (migrating : Bool)
  | cutting (id : ℕ) (segment : Segment) (migrating : Bool)
  | completing (id : ℕ) (migrating : Bool)
  /-- `atomicCutover`, `resume` and `rollback`, at `requireManifest`. -/
  | cuttingOver (id : ℕ)
  | resuming (id : ℕ)
  | rollingBack (id : ℕ)
  | resetting (id : ℕ) (opts : MigrateRangeOptions)
  | lookingUp (id : ℕ) (segment : Segment)
  | clearing (id : ℕ) (segment : Segment)
  | closing (id : ℕ)
  | finished
  deriving DecidableEq

/-- Where the call goes on when its statement throws. -/
def Process.caught (error : String) : Process → Process
  | .starting id _ => .failing id error
  | .copying id _ => .failing id error
  | .fetching id _ => .failing id error
  | .verifying id _ _ => .failing id error
  | .invalidating id _ _ => .failing id error
  | .stamping id _ _ => .failing id error
  | .reporting id => .failing id error
  | .counting id _ true => .failing id error
  | .cutting id _ true => .failing id error
  | .completing id true => .failing id error
  | _ => .finished

/-- `migrateRange`, once it has its manifest. -/
def migrate (opts : MigrateRangeOptions) : Option MigrationManifest → Process
  | none => .finished
  | some manifest => if manifest.status = .complete then .finished else .starting manifest.id opts

/-- The start of `migrateRange`, where `requireEntity` may throw. -/
def migrateRange (opts : MigrateRangeOptions) : Process :=
  if opts.entityType ∈ MIGRATION_ENTITIES then .finding opts else .finished

/-- The statement of a process, and where the process goes on. -/
def perform (db : Database) : Process → Database × Process
  | .finding opts =>
      match db.findManifest opts.toSegment with
      | none => (db, .creating opts)
      | some existing => (db, migrate opts (some existing))
  | .creating opts =>
      -- The segment of a manifest is unique.
      if (db.findManifest opts.toSegment).isSome then (db, .finished)
      else (db.insertManifest opts, .refinding opts)
  | .refinding opts => (db, migrate opts (db.findManifest opts.toSegment))
  | .starting id opts => (db.setStatus id .migrating, .copying id opts)
  | .copying id opts => ({ db with toTables := db.copy opts.toSegment }, .fetching id opts)
  | .fetching id opts => (db, .verifying id opts (db.archived opts.toSegment).length)
  | .verifying id opts rowCount => (db.setStatus id .verifying, .invalidating id opts rowCount)
  | .invalidating id opts rowCount => (db, .stamping id opts rowCount)
  | .stamping id opts rowCount =>
      (db.updateManifest id fun manifest => { manifest with rowCount := some rowCount },
        if opts.cutoverOnSuccess then .counting id opts.toSegment true else .completing id true)
  | .reporting _ => (db, .finished)
  | .failing id errorMessage =>
      (db.updateManifest id fun manifest =>
        { manifest with status := .failed, errorMessage := some errorMessage }, .finished)
  | .counting id segment migrating =>
      if (db.archived segment).length = 0 then
        (db, Process.caught "hot-cold-migration: atomicCutover aborted — no rows found in archive table"
          (.counting id segment migrating))
      else (db, .cutting id segment migrating)
  | .cutting id segment migrating => ({ db with toTables := db.deleteHot segment }, .completing id migrating)
  | .completing id migrating =>
      (db.setStatus id .complete, if migrating then .reporting id else .finished)
  | .cuttingOver id =>
      match db.getManifest id with
      | none => (db, .finished)
      | some manifest =>
          if manifest.status = .complete ∨ manifest.entityType ∉ MIGRATION_ENTITIES then (db, .finished)
          else (db, .counting id manifest.toSegment false)
  | .resuming id =>
      match db.getManifest id with
      | none => (db, .finished)
      | some manifest =>
          if manifest.status = .complete ∨ manifest.status = .rolled_back then (db, .finished)
          else
            (db, .resetting id
              { manifest.toSegment with schemaVersion := manifest.schemaVersion, cutoverOnSuccess := false })
  | .resetting id opts =>
      (db.updateManifest id fun manifest => { manifest with status := .pending, errorMessage := none },
        migrateRange opts)
  | .rollingBack id =>
      match db.getManifest id with
      | none => (db, .finished)
      | some manifest =>
          if manifest.status = .complete ∨ manifest.entityType ∉ MIGRATION_ENTITIES then (db, .finished)
          else (db, .lookingUp id manifest.toSegment)
  -- An archive table that does not exist is an empty one here, with nothing to delete.
  | .lookingUp id segment => (db, .clearing id segment)
  | .clearing id segment => ({ db with toTables := db.deleteArchive segment }, .closing id)
  | .closing id => (db.setStatus id .rolled_back, .finished)
  | .finished => (db, .finished)

/-! ## Runs -/

/-- A statement that has changed the tables. -/
inductive Event where
  | inserted (entityType : String) (row : Row)
  | copied (segment : Segment)
  | deletedHot (segment : Segment)
  | deletedArchive (segment : Segment)
  deriving DecidableEq

/-- The event that the statement of a process makes, where it does not fail. -/
def Process.event : Process → Option Event
  | .copying _ opts => some (.copied opts.toSegment)
  | .cutting _ segment _ => some (.deletedHot segment)
  | .clearing _ segment => some (.deletedArchive segment)
  | _ => none

structure World where
  db : Database
  processes : List Process
  log : List Event

def World.initial : World where
  db := { hot := fun _ => [], archive := fun _ => [], manifests := [], nextId := 0 }
  processes := []
  log := []

inductive Op where
  | insert (entityType : String) (row : Row)
  | migrateRange (opts : MigrateRangeOptions)
  | atomicCutover (manifestId : ℕ)
  | resume (manifestId : ℕ)
  | rollback (manifestId : ℕ)
  | advance (process : ℕ) (fault : Option String)
  deriving DecidableEq

def World.start (w : World) (p : Process) : World := { w with processes := w.processes ++ [p] }

/-- The key has been inserted for the entity type. -/
def World.used (w : World) (entityType key : String) : Bool :=
  w.log.any fun event =>
    match event with
    | .inserted entityType' row => entityType' = entityType && row.key = key
    | _ => false

def step (w : World) : Op → World
  | .insert entityType row =>
      if w.used entityType row.key then w
      else
        { w with
          db := { w.db with toTables := w.db.insert entityType row }
          log := w.log ++ [.inserted entityType row] }
  | .migrateRange opts => w.start (migrateRange opts)
  | .atomicCutover manifestId => w.start (.cuttingOver manifestId)
  | .resume manifestId => w.start (.resuming manifestId)
  | .rollback manifestId => w.start (.rollingBack manifestId)
  | .advance process fault =>
      match w.processes[process]?, fault with
      | none, _ => w
      | some p, some error => { w with processes := w.processes.set process (p.caught error) }
      | some p, none =>
          let (db, p') := perform w.db p
          { db, processes := w.processes.set process p', log := w.log ++ p.event.toList }

/-! ## What the order of the statements says of a row -/

/-- The segment covers the row of the entity type. -/
def Segment.covers (segment : Segment) (entityType : String) (row : Row) : Bool :=
  segment.entityType = entityType && segment.holds row

/-- Since the row was inserted, a copy has covered it, and no deletion from the archive after that. -/
def copyStands (log : List Event) (entityType : String) (row : Row) : Bool :=
  log.foldl (fun copied event =>
    match event with
    | .inserted entityType' row' => copied && !(entityType' = entityType && row' = row)
    | .copied segment => copied || segment.covers entityType row
    | .deletedHot _ => copied
    | .deletedArchive segment => copied && !segment.covers entityType row) false

/-- Since the row was inserted, a deletion from the hot table has covered it. -/
def cutOver (log : List Event) (entityType : String) (row : Row) : Bool :=
  log.foldl (fun cut event =>
    match event with
    | .inserted entityType' row' => cut && !(entityType' = entityType && row' = row)
    | .copied _ => cut
    | .deletedHot segment => cut || segment.covers entityType row
    | .deletedArchive _ => cut) false

/-- What an event needs to find: a deletion from the hot table only rows that have been copied since
they were inserted, and one from the archive only rows that have not been cut over. -/
def Event.Covered (t : Tables) (log : List Event) : Event → Prop
  | .deletedHot segment => ∀ row ∈ t.hot segment.entityType, segment.holds row = true →
      copyStands log segment.entityType row = true
  | .deletedArchive segment => ∀ row ∈ t.archive segment.entityType, segment.holds row = true →
      cutOver log segment.entityType row = false
  | _ => True

/-- **The condition on a step.** -/
def DeletesCovered (w : World) : Op → Prop
  | .advance process none => ∀ p ∈ w.processes[process]?, ∀ event ∈ p.event,
      event.Covered w.db.toTables w.log
  | _ => True

/-- The tables after an event. -/
def Tables.after (t : Tables) : Event → Tables
  | .inserted entityType row => t.insert entityType row
  | .copied segment => t.copy segment
  | .deletedHot segment => t.deleteHot segment
  | .deletedArchive segment => t.deleteArchive segment

section Tables

variable {t : Tables} {log : List Event} {entityType e : String} {row r : Row} {segment : Segment}
  {event : Event} {db : Database} {p : Process}

theorem mem_hot_insert : r ∈ (t.insert entityType row).hot e ↔
    r ∈ t.hot e ∨ (e = entityType ∧ r = row) := by
  rw [Tables.insert]
  dsimp only
  by_cases he : e = entityType
  · rw [he, Function.update_self, List.mem_append, List.mem_singleton]
    simp
  · rw [Function.update_of_ne he]
    simp [he]

theorem mem_archive_copy : r ∈ (t.copy segment).archive e ↔
    r ∈ t.archive e ∨ (r ∈ t.hot e ∧ segment.covers e r = true ∧ ∀ other ∈ t.archive e, other.key ≠ r.key) := by
  rw [Tables.copy]
  dsimp only
  by_cases he : e = segment.entityType
  · subst he
    rw [Function.update_self, List.mem_append, List.mem_filter]
    simp [Segment.covers, List.any_eq_false]
  · rw [Function.update_of_ne he]
    simp [Segment.covers, Ne.symm he]

theorem mem_hot_deleteHot : r ∈ (t.deleteHot segment).hot e ↔ r ∈ t.hot e ∧ segment.covers e r = false := by
  rw [Tables.deleteHot]
  dsimp only
  by_cases he : e = segment.entityType
  · subst he
    rw [Function.update_self, List.mem_filter]
    simp [Segment.covers]
  · rw [Function.update_of_ne he]
    simp [Segment.covers, Ne.symm he]

theorem mem_archive_deleteArchive :
    r ∈ (t.deleteArchive segment).archive e ↔ r ∈ t.archive e ∧ segment.covers e r = false := by
  rw [Tables.deleteArchive]
  dsimp only
  by_cases he : e = segment.entityType
  · subst he
    rw [Function.update_self, List.mem_filter]
    simp [Segment.covers]
  · rw [Function.update_of_ne he]
    simp [Segment.covers, Ne.symm he]

/-- **The invariant.** Every row that has been inserted is in the hot table or in the archive; and
the order of the statements tells rightly where. -/
structure Kept (t : Tables) (log : List Event) : Prop where
  kept : ∀ e r, .inserted e r ∈ log → r ∈ t.hot e ∨ r ∈ t.archive e
  hot : ∀ e, ∀ r ∈ t.hot e, .inserted e r ∈ log
  archive : ∀ e, ∀ r ∈ t.archive e, .inserted e r ∈ log
  copied : ∀ e, ∀ r ∈ t.hot e, copyStands log e r = true → r ∈ t.archive e
  uncut : ∀ e, ∀ r ∈ t.archive e, cutOver log e r = false → r ∈ t.hot e
  distinct : ∀ e r r', .inserted e r ∈ log → .inserted e r' ∈ log → r.key = r'.key → r = r'

theorem Kept.insert (h : Kept t log) (hnew : ∀ r, .inserted entityType r ∈ log → r.key ≠ row.key) :
    Kept (t.insert entityType row) (log ++ [.inserted entityType row]) := by
  have hmem (e : String) (r : Row) : .inserted e r ∈ log ++ [.inserted entityType row] ↔
      .inserted e r ∈ log ∨ (e = entityType ∧ r = row) := by
    rw [List.mem_append, List.mem_singleton, Event.inserted.injEq]
  refine ⟨?_, ?_, ?_, ?_, ?_, ?_⟩
  · intro e r hr
    rw [mem_hot_insert]
    rcases (hmem e r).mp hr with hold | hlast
    · rcases h.kept e r hold with hhot | harchive
      · exact .inl (.inl hhot)
      · exact .inr harchive
    · exact .inl (.inr hlast)
  · intro e r hr
    rw [hmem]
    exact (mem_hot_insert.mp hr).imp_left (h.hot e r)
  · intro e r hr
    exact List.mem_append_left _ (h.archive e r hr)
  · intro e r hr hcopied
    rw [copyStands, List.foldl_concat] at hcopied
    simp only [Bool.and_eq_true, Bool.not_eq_true', Bool.and_eq_false_iff, decide_eq_false_iff_not] at hcopied
    rcases mem_hot_insert.mp hr with hold | ⟨rfl, rfl⟩
    · exact h.copied e r hold hcopied.1
    · rcases hcopied.2 with hne | hne
      · exact absurd rfl hne
      · exact absurd rfl hne
  · intro e r hr hcut
    rw [cutOver, List.foldl_concat] at hcut
    simp only [Bool.and_eq_false_iff, Bool.not_eq_false', Bool.and_eq_true, decide_eq_true_eq] at hcut
    rw [mem_hot_insert]
    rcases hcut with hcut | ⟨rfl, rfl⟩
    · exact .inl (h.uncut e r hr hcut)
    · exact .inr ⟨rfl, rfl⟩
  · intro e r r' hr hr' hkey
    rcases (hmem e r).mp hr with hold | ⟨rfl, rfl⟩
    · rcases (hmem e r').mp hr' with hold' | ⟨rfl, rfl⟩
      · exact h.distinct e r r' hold hold' hkey
      · exact absurd hkey (hnew r hold)
    · rcases (hmem e r').mp hr' with hold' | ⟨-, rfl⟩
      · exact absurd hkey.symm (hnew r' hold')
      · rfl

/-- An event that inserts nothing leaves what has been inserted. -/
theorem inserted_mem_concat (h : ∀ e r, event ≠ .inserted e r) :
    .inserted e r ∈ log ++ [event] ↔ .inserted e r ∈ log := by
  rw [List.mem_append, List.mem_singleton]
  simp [(h e r).symm]

theorem Kept.copy (h : Kept t log) : Kept (t.copy segment) (log ++ [.copied segment]) := by
  have hmem {e : String} {r : Row} : .inserted e r ∈ log ++ [.copied segment] ↔ .inserted e r ∈ log :=
    inserted_mem_concat nofun
  refine ⟨?_, ?_, ?_, ?_, ?_, ?_⟩
  · intro e r hr
    rw [mem_archive_copy]
    exact (h.kept e r (hmem.mp hr)).imp_right .inl
  · intro e r hr
    exact hmem.mpr (h.hot e r hr)
  · intro e r hr
    rw [hmem]
    rcases mem_archive_copy.mp hr with hold | ⟨hhot, -⟩
    · exact h.archive e r hold
    · exact h.hot e r hhot
  · intro e r hr hcopied
    rw [copyStands, List.foldl_concat] at hcopied
    simp only [Bool.or_eq_true] at hcopied
    rw [mem_archive_copy]
    rcases hcopied with hcopied | hcovers
    · exact .inl (h.copied e r hr hcopied)
    · -- A row of the archive with the key of this row is this row.
      by_cases hkey : ∀ other ∈ t.archive e, other.key ≠ r.key
      · exact .inr ⟨hr, hcovers, hkey⟩
      · push Not at hkey
        obtain ⟨other, hother, heq⟩ := hkey
        rw [h.distinct e r other (h.hot e r hr) (h.archive e other hother) heq.symm]
        exact .inl hother
  · intro e r hr hcut
    rw [cutOver, List.foldl_concat] at hcut
    rcases mem_archive_copy.mp hr with hold | ⟨hhot, -⟩
    · exact h.uncut e r hold hcut
    · exact hhot
  · intro e r r' hr hr'
    exact h.distinct e r r' (hmem.mp hr) (hmem.mp hr')

theorem Kept.deleteHot (h : Kept t log) (hcovered : (Event.deletedHot segment).Covered t log) :
    Kept (t.deleteHot segment) (log ++ [.deletedHot segment]) := by
  have hmem {e : String} {r : Row} : .inserted e r ∈ log ++ [.deletedHot segment] ↔ .inserted e r ∈ log :=
    inserted_mem_concat nofun
  refine ⟨?_, ?_, ?_, ?_, ?_, ?_⟩
  · intro e r hr
    rw [mem_hot_deleteHot]
    rcases h.kept e r (hmem.mp hr) with hhot | harchive
    · by_cases hcovers : segment.covers e r = true
      · have hcovers' := hcovers
        rw [Segment.covers, Bool.and_eq_true, decide_eq_true_eq] at hcovers'
        obtain ⟨rfl, hholds⟩ := hcovers'
        exact .inr (h.copied _ r hhot (hcovered r hhot hholds))
      · exact .inl ⟨hhot, by simpa using hcovers⟩
    · exact .inr harchive
  · intro e r hr
    exact hmem.mpr (h.hot e r (mem_hot_deleteHot.mp hr).1)
  · intro e r hr
    exact hmem.mpr (h.archive e r hr)
  · intro e r hr hcopied
    rw [copyStands, List.foldl_concat] at hcopied
    exact h.copied e r (mem_hot_deleteHot.mp hr).1 hcopied
  · intro e r hr hcut
    rw [cutOver, List.foldl_concat] at hcut
    simp only [Bool.or_eq_false_iff] at hcut
    exact mem_hot_deleteHot.mpr ⟨h.uncut e r hr hcut.1, hcut.2⟩
  · intro e r r' hr hr'
    exact h.distinct e r r' (hmem.mp hr) (hmem.mp hr')

theorem Kept.deleteArchive (h : Kept t log) (hcovered : (Event.deletedArchive segment).Covered t log) :
    Kept (t.deleteArchive segment) (log ++ [.deletedArchive segment]) := by
  have hmem {e : String} {r : Row} : .inserted e r ∈ log ++ [.deletedArchive segment] ↔ .inserted e r ∈ log :=
    inserted_mem_concat nofun
  refine ⟨?_, ?_, ?_, ?_, ?_, ?_⟩
  · intro e r hr
    rw [mem_archive_deleteArchive]
    rcases h.kept e r (hmem.mp hr) with hhot | harchive
    · exact .inl hhot
    · by_cases hcovers : segment.covers e r = true
      · have hcovers' := hcovers
        rw [Segment.covers, Bool.and_eq_true, decide_eq_true_eq] at hcovers'
        obtain ⟨rfl, hholds⟩ := hcovers'
        exact .inl (h.uncut _ r harchive (hcovered r harchive hholds))
      · exact .inr ⟨harchive, by simpa using hcovers⟩
  · intro e r hr
    exact hmem.mpr (h.hot e r hr)
  · intro e r hr
    exact hmem.mpr (h.archive e r (mem_archive_deleteArchive.mp hr).1)
  · intro e r hr hcopied
    rw [copyStands, List.foldl_concat] at hcopied
    simp only [Bool.and_eq_true, Bool.not_eq_true'] at hcopied
    exact mem_archive_deleteArchive.mpr ⟨h.copied e r hr hcopied.1, hcopied.2⟩
  · intro e r hr hcut
    rw [cutOver, List.foldl_concat] at hcut
    exact h.uncut e r (mem_archive_deleteArchive.mp hr).1 hcut
  · intro e r r' hr hr'
    exact h.distinct e r r' (hmem.mp hr) (hmem.mp hr')

end Tables

/-! ## Runs lose no row -/

section Runs

variable {w : World} {db : Database} {p : Process} {op : Op} {ops : List Op} {entityType : String} {row : Row}

/-- A statement changes the tables as its event says. -/
theorem tables_perform : (perform db p).1.toTables = p.event.elim db.toTables db.toTables.after := by
  cases p with
  | finding | creating | counting =>
      rw [perform]
      split <;> rfl
  | cuttingOver | resuming | rollingBack =>
      rw [perform]
      split
      · rfl
      · split <;> rfl
  | _ => rfl

/-- A statement that deletes is covered where it meets the condition, and no other inserts. -/
theorem Kept.after {event : Event} (h : Kept w.db.toTables w.log) (hp : p.event = some event)
    (hcovered : event.Covered w.db.toTables w.log) :
    Kept (w.db.toTables.after event) (w.log ++ [event]) := by
  cases event with
  | inserted => cases p <;> cases hp
  | copied => exact h.copy
  | deletedHot => exact h.deleteHot hcovered
  | deletedArchive => exact h.deleteArchive hcovered

theorem not_used (h : ¬w.used entityType row.key = true) (r : Row)
    (hr : Event.inserted entityType r ∈ w.log) : r.key ≠ row.key := by
  intro hkey
  refine h (List.any_eq_true.mpr ⟨_, hr, ?_⟩)
  simp [hkey]

/-- **One step.** -/
theorem Kept.step (h : Kept w.db.toTables w.log) (hop : DeletesCovered w op) :
    Kept (HotColdMigration.step w op).db.toTables (HotColdMigration.step w op).log := by
  cases op with
  | insert entityType row =>
      rw [HotColdMigration.step]
      by_cases hused : w.used entityType row.key = true
      · rw [if_pos hused]
        exact h
      · rw [if_neg hused]
        exact h.insert (not_used hused)
  | migrateRange | atomicCutover | resume | rollback => exact h
  | advance process fault =>
      cases hp : w.processes[process]? with
      | none =>
          simp only [HotColdMigration.step, hp]
          exact h
      | some p =>
          cases fault with
          | some =>
              simp only [HotColdMigration.step, hp]
              exact h
          | none =>
              simp only [HotColdMigration.step, hp]
              rw [tables_perform]
              cases hevent : p.event with
              | none =>
                  rw [Option.elim_none, Option.toList_none, List.append_nil]
                  exact h
              | some event =>
                  rw [Option.elim_some, Option.toList_some]
                  exact h.after hevent (hop p (Option.mem_def.mpr hp) event (Option.mem_def.mpr hevent))

theorem kept_initial : Kept World.initial.db.toTables World.initial.log where
  kept _ _ h := absurd h List.not_mem_nil
  hot _ _ h := absurd h List.not_mem_nil
  archive _ _ h := absurd h List.not_mem_nil
  copied _ _ h := absurd h List.not_mem_nil
  uncut _ _ h := absurd h List.not_mem_nil
  distinct _ _ _ h := absurd h List.not_mem_nil

theorem kept_run (h : Runs.Along HotColdMigration.step DeletesCovered World.initial ops) :
    Kept (Runs.run HotColdMigration.step World.initial ops).db.toTables
      (Runs.run HotColdMigration.step World.initial ops).log :=
  Runs.run_invariant (I := fun w => Kept w.db.toTables w.log) (fun hw hop => hw.step hop) kept_initial h

end Runs

/-- **Migration loses no row,** in every run whose deletions are covered: whatever fails, and however
the calls and the writers interleave, a row that has been inserted is in the hot table or in the archive. -/
theorem no_row_lost (ops : List Op) (h : Runs.Along step DeletesCovered World.initial ops)
    (entityType : String) (row : Row)
    (hrow : .inserted entityType row ∈ (Runs.run step World.initial ops).log) :
    row ∈ (Runs.run step World.initial ops).db.hot entityType ∨
      row ∈ (Runs.run step World.initial ops).db.archive entityType :=
  (kept_run h).kept entityType row hrow

instance Event.decidableCovered (t : Tables) (log : List Event) : (event : Event) →
    Decidable (event.Covered t log)
  | .deletedHot segment => inferInstanceAs (Decidable (∀ row ∈ t.hot segment.entityType,
      segment.holds row = true → copyStands log segment.entityType row = true))
  | .deletedArchive segment => inferInstanceAs (Decidable (∀ row ∈ t.archive segment.entityType,
      segment.holds row = true → cutOver log segment.entityType row = false))
  | .inserted _ _ | .copied _ => isTrue trivial

instance DeletesCovered.decidable (w : World) : (op : Op) → Decidable (DeletesCovered w op)
  | .advance process none => inferInstanceAs (Decidable (∀ p ∈ w.processes[process]?, ∀ event ∈ p.event,
      event.Covered w.db.toTables w.log))
  | .advance _ (some _) | .insert _ _ | .migrateRange _ | .atomicCutover _ | .resume _ | .rollback _ =>
      isTrue trivial

/-- A price at a time. -/
def priceAt (time : ℤ) : Row where
  key := "XLM-" ++ toString time
  time
  data := "0.11"

/-- The first ten units of time of the prices. -/
def firstPrices : MigrateRangeOptions where
  entityType := "prices"
  rangeStart := 0
  rangeEnd := 10
  schemaVersion := 1
  cutoverOnSuccess := true

/-- A call takes its next statements. -/
def advances (process count : ℕ) : List Op := List.replicate count (.advance process none)

/-- The first copy fails. The range is migrated once more and cut over, while a writer inserts behind it. -/
def migratedAgain : List Op :=
  [.insert "prices" (priceAt 5), .migrateRange firstPrices] ++ advances 0 4 ++
    [.advance 0 (some "connection lost")] ++ advances 0 1 ++ [.migrateRange firstPrices] ++ advances 1 3 ++
    [.insert "prices" (priceAt 12)] ++ advances 1 8

theorem no_row_lost_migrated :
    priceAt 5 ∈ (Runs.run step World.initial migratedAgain).db.hot "prices" ∨
      priceAt 5 ∈ (Runs.run step World.initial migratedAgain).db.archive "prices" :=
  no_row_lost migratedAgain (by decide +kernel) "prices" (priceAt 5) (by decide +kernel)

/-- The hot table has been cut over by then. -/
example : (Runs.run step World.initial migratedAgain).db.hot "prices" = [priceAt 12] := by decide +kernel

/-- A writer inserts into the range between the copy and the cutover. -/
theorem late_row_lost :
    ¬∀ (ops : List Op) (entityType : String) (row : Row),
      .inserted entityType row ∈ (Runs.run step World.initial ops).log →
        row ∈ (Runs.run step World.initial ops).db.hot entityType ∨
          row ∈ (Runs.run step World.initial ops).db.archive entityType := by
  intro hclaim
  have hkept := hclaim ([.insert "prices" (priceAt 5), .migrateRange firstPrices] ++ advances 0 5 ++
    [.insert "prices" (priceAt 7)] ++ advances 0 6) "prices" (priceAt 7) (by decide +kernel)
  revert hkept
  decide +kernel

end BridgeWatch.HotColdMigration

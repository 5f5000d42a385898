import TravelAgent.MigrationSpecs
import TravelAgent.Rows
import TravelAgent.Transition

namespace TravelAgent.Migration

open TravelAgent.Rows TravelAgent.Attempts

inductive BatchStatus
  | running | failed | completed | completedWithConflicts | verified | verificationFailed
  | rolledBack | rollbackPartial
deriving DecidableEq, Repr

def BatchStatus.name : BatchStatus → String
  | .running => "running"
  | .failed => "failed"
  | .completed => "completed"
  | .completedWithConflicts => "completed_with_conflicts"
  | .verified => "verified"
  | .verificationFailed => "verification_failed"
  | .rolledBack => "rolled_back"
  | .rollbackPartial => "rollback_partial"

abbrev BatchId := String

structure Batch (S : Type) where
  batchId : BatchId
  sourceSha256 : S
  status : BatchStatus
deriving DecidableEq, Repr

/-- The credential of an inserted row. -/
structure Record (H : Type) where
  batchId : BatchId
  tableName : String
  key : Key
  rowSha256 : H
deriving DecidableEq, Repr

/-- A closed SQLite file: its tables with the rows in the order of their keys. -/
structure Snapshot where
  intact : Bool
  tables : List (String × List Row)
deriving DecidableEq, Repr

/-- The rows of a table, none where the file has no such table. -/
def Snapshot.rows (s : Snapshot) (name : String) : List Row :=
  ((s.tables.find? fun t => decide (t.1 = name)).map (·.2)).getD []

abbrev SourceRow := TableMigrationSpec × Except MigrationError Row

def sourceRows (s : Snapshot) : List SourceRow :=
  tableSpecs.flatMap fun spec =>
    (s.rows spec.name).map fun raw => (spec, normalizeSourceRow spec raw)

/-- What has happened to the rows of the target, which no code reads. -/
inductive Event
  | inserted (batchId : BatchId) (tableName : String) (key : Key)
  | deleted (batchId : BatchId) (tableName : String) (key : Key)
deriving DecidableEq, Repr

abbrev Db := String → List Row

/-- The seven tables, the batches and records beside them, and what happened, latest first. -/
structure Store (H S : Type) where
  db : Db
  batches : List (Batch S)
  records : List (Record H)
  history : List Event

/-- The totals of a table report. -/
structure Counts where
  source : Nat := 0
  inserted : Nat := 0
  resumed : Nat := 0
  existingSame : Nat := 0
  conflicts : Nat := 0
deriving DecidableEq, Repr

structure RollbackCounts where
  tracked : Nat := 0
  deleted : Nat := 0
  missing : Nat := 0
  protectedModified : Nat := 0
deriving DecidableEq, Repr

/-- The call that holds the migration lock, with what it has left to do. -/
inductive Job (H : Type)
  | idle
  | executing (batchId : BatchId) (failOnConflict : Bool) (rest : List SourceRow) (counts : Counts)
  | rollingBack (batchId : BatchId) (rest : List (TableMigrationSpec × Record H))
      (counts : RollbackCounts)

structure World (H S : Type) where
  store : Store H S
  job : Job H

/-- The digests of rows and files, the rows that the target refuses beside those without their
parent row, and the order of keys in a query. -/
structure Target (H S : Type) where
  digest : Row → H
  fileDigest : Snapshot → S
  rejects : Db → TableMigrationSpec → Row → Bool
  keyBefore : Key → Key → Bool

/-- An event of a task that is not there. -/
def orphan (db : Db) (spec : TableMigrationSpec) (row : Row) : Bool :=
  decide (spec.name = tripTaskEvents.name) &&
    !(db tripPlanningTasks.name).any fun task =>
      decide (Row.get task "task_id" = Row.get row "task_id")

/-- A task that an event refers to. -/
def referenced (db : Db) (spec : TableMigrationSpec) (key : Key) : Bool :=
  decide (spec.name = tripPlanningTasks.name) &&
    (db tripTaskEvents.name).any fun event => decide ([Row.get event "task_id"] = key)

def findRow (db : Db) (spec : TableMigrationSpec) (key : Key) : Option Row :=
  lookup (keyOf spec) key (db spec.name)

section

variable {H S : Type}

def Store.insert (st : Store H S) (b : BatchId) (spec : TableMigrationSpec) (row : Row) (h : H) :
    Store H S :=
  { st with
    db := Function.update st.db spec.name (st.db spec.name ++ [row])
    records := st.records ++ [⟨b, spec.name, keyOf spec row, h⟩]
    history := .inserted b spec.name (keyOf spec row) :: st.history }

def Store.delete (st : Store H S) (b : BatchId) (spec : TableMigrationSpec) (key : Key) :
    Store H S :=
  { st with
    db := Function.update st.db spec.name
      ((st.db spec.name).filter fun row => decide (keyOf spec row ≠ key))
    history := .deleted b spec.name key :: st.history }

/-- `_finish_batch`, as far as anything reads it -/
def Store.setStatus (st : Store H S) (b : BatchId) (status : BatchStatus) : Store H S :=
  { st with
    batches := updateWhere (fun x => decide (x.batchId = b)) (fun x => { x with status := status })
      st.batches }

def Store.record (st : Store H S) (b : BatchId) (spec : TableMigrationSpec) (key : Key) :
    Option (Record H) :=
  st.records.find? fun r =>
    decide (r.batchId = b) && decide (r.tableName = spec.name) && decide (r.key = key)

variable [DecidableEq H] [DecidableEq S] (tgt : Target H S)

/-- `_migrate_row`, one transaction -/
def migrateRow (b : BatchId) (spec : TableMigrationSpec) (row : Row) (st : Store H S)
    (counts : Counts) : Except MigrationError (Store H S × Counts) :=
  match rowSha256 spec tgt.digest row with
  | .error e => .error e
  | .ok digest =>
    match st.record b spec (keyOf spec row), findRow st.db spec (keyOf spec row) with
    | some _, none => .error (.rowMissing spec.name)
    | some record, some existing =>
      match targetSha256 spec tgt.digest existing with
      | .error e => .error e
      | .ok current =>
        if current ≠ record.rowSha256 then .error (.rowModified spec.name)
        else .ok (st, { counts with resumed := counts.resumed + 1 })
    | none, some existing =>
      match targetSha256 spec tgt.digest existing with
      | .error e => .error e
      | .ok current =>
        if current = digest then
          .ok (st, { counts with existingSame := counts.existingSame + 1 })
        else .ok (st, { counts with conflicts := counts.conflicts + 1 })
    | none, none =>
      if orphan st.db spec row || tgt.rejects st.db spec row then .error (.integrity spec.name)
      else
        .ok (st.insert b spec row digest, { counts with inserted := counts.inserted + 1 })

/-- `_rollback_row`, one transaction -/
def rollbackRow (b : BatchId) (spec : TableMigrationSpec) (record : Record H) (st : Store H S)
    (counts : RollbackCounts) : Except MigrationError (Store H S × RollbackCounts) :=
  match findRow st.db spec record.key with
  | none => .ok (st, { counts with missing := counts.missing + 1 })
  | some existing =>
    match targetSha256 spec tgt.digest existing with
    | .error e => .error e
    | .ok current =>
      if current ≠ record.rowSha256 then
        .ok (st, { counts with protectedModified := counts.protectedModified + 1 })
      else if referenced st.db spec record.key then .error (.integrity spec.name)
      else .ok (st.delete b spec record.key, { counts with deleted := counts.deleted + 1 })

/-- The records of a batch in the order in which they are rolled back. -/
def rollbackRecords (st : Store H S) (b : BatchId) : List (TableMigrationSpec × Record H) :=
  tableSpecs.reverse.flatMap fun spec =>
    ((st.records.filter fun r => decide (r.batchId = b) && decide (r.tableName = spec.name)).mergeSort
      fun r q => tgt.keyBefore r.key q.key).map fun r => (spec, r)

inductive Verdict
  | missing | matched | conflict
deriving DecidableEq, Repr

def verifyRow (db : Db) (item : SourceRow) : Except MigrationError Verdict := do
  let row ← item.2
  match findRow db item.1 (keyOf item.1 row) with
  | none => return .missing
  | some existing =>
    let current ← targetSha256 item.1 tgt.digest existing
    let expected ← rowSha256 item.1 tgt.digest row
    return if current = expected then .matched else .conflict

/-- What `verify` finds, before it sets the status of a batch -/
def verification (s : Snapshot) (db : Db) : Except MigrationError Bool :=
  if s.intact then
    ((sourceRows s).mapM (verifyRow tgt db)).map fun verdicts =>
      decide (verdicts.length = verdicts.count .matched ∧ verdicts.count .missing = 0 ∧
        verdicts.count .conflict = 0)
  else .error .sourceDamaged

/-- The start of `execute` in the lock: the batch is there, and the source is opened. -/
def startJob (st : Store H S) (b : BatchId) (s : Snapshot) (failOnConflict : Bool) : World H S :=
  if s.intact then ⟨st, .executing b failOnConflict (sourceRows s) {}⟩
  else ⟨st.setStatus b .failed, .idle⟩

/-- The end of `execute`: conflicts fail the batch if so asked. -/
def executionStatus (failOnConflict : Bool) (counts : Counts) : BatchStatus :=
  if failOnConflict ∧ 0 < counts.conflicts then .failed
  else if 0 < counts.conflicts then .completedWithConflicts
  else .completed

/-- The next transaction of the call that runs. -/
def advance (st : Store H S) : Job H → Option (World H S)
  | .idle => none
  | .executing b failOnConflict ((spec, item) :: rest) counts =>
    match item with
    | .error _ => some ⟨st.setStatus b .failed, .idle⟩
    | .ok row =>
      match migrateRow tgt b spec row st { counts with source := counts.source + 1 } with
      | .error _ => some ⟨st.setStatus b .failed, .idle⟩
      | .ok (st, counts) => some ⟨st, .executing b failOnConflict rest counts⟩
  | .executing b failOnConflict [] counts =>
    some ⟨st.setStatus b (executionStatus failOnConflict counts), .idle⟩
  | .rollingBack b ((spec, record) :: rest) counts =>
    match rollbackRow tgt b spec record st { counts with tracked := counts.tracked + 1 } with
    | .error _ => some ⟨st, .idle⟩
    | .ok (st, counts) => some ⟨st, .rollingBack b rest counts⟩
  | .rollingBack b [] counts =>
    some ⟨st.setStatus b (if 0 < counts.protectedModified then .rollbackPartial else .rolledBack),
      .idle⟩

inductive Label
  | execute (b : BatchId) (s : Snapshot) (failOnConflict : Bool)
  | resume (b : BatchId) (s : Snapshot) (failOnConflict : Bool)
  | verify (s : Snapshot) (b : Option BatchId)
  | rollback (b : BatchId)
  | next
  | fault
  | crash

def resume (st : Store H S) (b : BatchId) (s : Snapshot) (failOnConflict : Bool) : World H S :=
  match lookup Batch.batchId b st.batches with
  | none => ⟨st, .idle⟩
  | some batch =>
    if batch.sourceSha256 ≠ tgt.fileDigest s then ⟨st, .idle⟩
    else if batch.status ≠ .running ∧ batch.status ≠ .failed then ⟨st, .idle⟩
    else startJob (st.setStatus b .running) b s failOnConflict

def verify (st : Store H S) (s : Snapshot) : Option BatchId → Store H S
  | none => st
  | some b =>
    match lookup Batch.batchId b st.batches with
    | none => st
    | some batch =>
      if batch.sourceSha256 ≠ tgt.fileDigest s then st
      else
        match verification tgt s st.db with
        | .error _ => st
        | .ok true => st.setStatus b .verified
        | .ok false => st.setStatus b .verificationFailed

def startRollback (st : Store H S) (b : BatchId) : World H S :=
  match lookup Batch.batchId b st.batches with
  | none => ⟨st, .idle⟩
  | some batch =>
    if batch.status = .rolledBack ∨ batch.status = .rollbackPartial then ⟨st, .idle⟩
    else ⟨st, .rollingBack b (rollbackRecords tgt st b) {}⟩

/-- Calls come one after the other. While one runs, it goes on by a transaction, an exception
reaches it from outside, or its process ends. -/
def step (w : World H S) : Label → Option (World H S)
  | .next => advance tgt w.store w.job
  | .fault =>
    match w.job with
    | .idle => none
    | .executing b _ _ _ => some ⟨w.store.setStatus b .failed, .idle⟩
    | .rollingBack _ _ _ => some ⟨w.store, .idle⟩
  | .crash =>
    match w.job with
    | .idle => none
    | _ => some ⟨w.store, .idle⟩
  | .execute b s failOnConflict =>
    match w.job, lookup Batch.batchId b w.store.batches with
    | .idle, none =>
      let batch : Batch S := ⟨b, tgt.fileDigest s, .running⟩
      some (startJob { w.store with batches := w.store.batches ++ [batch] } b s failOnConflict)
    | _, _ => none
  | .resume b s failOnConflict =>
    match w.job with
    | .idle => some (resume tgt w.store b s failOnConflict)
    | _ => none
  | .verify s b =>
    match w.job with
    | .idle => some ⟨verify tgt w.store s b, .idle⟩
    | _ => none
  | .rollback b =>
    match w.job with
    | .idle => some (startRollback tgt w.store b)
    | _ => none

end

end TravelAgent.Migration

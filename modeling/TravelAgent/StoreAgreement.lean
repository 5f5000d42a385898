import TravelAgent.TaskIsolation

namespace TravelAgent.StoreAgreement

open TravelAgent.Leasing TravelAgent.Rows TravelAgent.TaskRecord TravelAgent.TaskStore
open TravelAgent.TaskOps TravelAgent.TaskMoves TravelAgent.TaskView
open TravelAgent.MysqlTaskStore (Codec findReusableTask)

variable {Req : Type}

/-- The same answer, or exceptions of one kind. -/
def SameOutcome : Except StoreError (Answer Req) → Except StoreError (Answer Req) → Prop
  | .ok a, .ok b => a = b
  | .error e, .error f => e.kind = f.kind
  | _, _ => False

def Interchangeable (c : Codec Req) (s : Store Req) (op : Op Req) (clock : Readings) : Prop :=
  SameOutcome (exec .mysql c s op clock).1 (exec .sqlite c s op clock).1 ∧
    (exec .mysql c s op clock).2 = (exec .sqlite c s op clock).2

/-- A table of one user, as both databases can hold it. -/
structure SingleUser (c : Codec Req) (u : UserId) (s : Store Req) : Prop where
  wellFormed : WellFormed s
  owner : ∀ r ∈ s.rows, r.userId = some u
  keys : (s.rows.map fun r => c.collate r.idempotencyKey).Nodup

/-- Tasks are created on behalf of the one user. -/
def CreatesFor (u : UserId) : Op Req → Prop
  | .createTask _ _ userId _ _ => userId = some u
  | _ => True

def activeRow (s : Store Req) (fingerprint : String) : Option (Row Req) :=
  latestBy Row.createdAt
    (s.rows.filter fun r => decide (r.requestFingerprint = fingerprint) && r.active)

/-- Where a worker that holds the task no longer holds its lease. -/
def Lapsed (s : Store Req) (id : TaskId) (w : WorkerId) (now : Time)
    (p : TripPlanningTask Req → Prop) : Prop :=
  ∃ t, s.taskOf id = some t ∧ p t ∧ t.workerId = some w ∧ t.hasValidLease w now = false

/-- The arguments and tables on which the two stores part. -/
def Parts (c : Codec Req) (s : Store Req) (clock : Readings) : Op Req → Prop
  | .createTask request idempotencyKey _ _ _ =>
    ∃ key, normalizeIdempotencyKey idempotencyKey = .ok key ∧
      ∃ r ∈ s.rows, c.collate r.idempotencyKey = c.collate key ∧ r.idempotencyKey ≠ key ∧
        activeRow s (c.requestFingerprint request) ≠ some r
  | .claimNext _ _ locked =>
    leastBy Row.createdAt (s.rows.filter fun r =>
        r.claimable clock.entered && decide (r.taskId ∉ locked)) ≠
      leastBy Row.createdAt (s.rows.filter fun r => r.claimable clock.entered)
  | .heartbeat id w _ => Lapsed s id w clock.checked fun t => t.status = .running
  | .requestCancel id userId =>
    ∃ t, s.taskOf id = some t ∧ (∀ u, userId = some u → t.userId = some u) ∧
      (t.status = .queued ∨ t.status = .retrying) ∧ t.heartbeatAt ≠ none
  | .markSucceeded id w _ => Lapsed s id w clock.checked fun t => t.terminal = false
  | .markFailed id w _ _ => Lapsed s id w clock.checked fun t => t.terminal = false
  | .markCancelled id w _ => Lapsed s id w clock.checked fun t => t.terminal = false
  | .recordProgress _ _ _ => False
  | .assertWorkerOwnsTask _ _ => False

theorem interchangeable_of_eq {c : Codec Req} {s : Store Req} {op : Op Req} {clock : Readings}
    (h : exec .mysql c s op clock = exec .sqlite c s op clock) : Interchangeable c s op clock := by
  refine ⟨?_, congrArg Prod.snd h⟩
  rw [h]
  cases (exec .sqlite c s op clock).1 <;> rfl

/-- A verdict on a row that is there. -/
theorem onRow_some {s : Store Req} {id : TaskId} {row : Row Req} (h : s.find id = some row)
    (missing : Verdict Req) (body : Row Req → Verdict Req) : s.onRow id missing body = body row := by
  simp only [Store.onRow, h]

theorem onRow_none {s : Store Req} {id : TaskId} (h : s.find id = none) (missing : Verdict Req)
    (body : Row Req → Verdict Req) : s.onRow id missing body = missing := by
  simp only [Store.onRow, h]

theorem find_coherent {s : Store Req} (hs : WellFormed s) {id : TaskId} {row : Row Req}
    (h : s.find id = some row) : row = Row.ofTask row.taskJson :=
  hs.coherent row (lookup_mem h).1

theorem lapsed_iff {s : Store Req} {id : TaskId} {row : Row Req} (h : s.find id = some row)
    (w : WorkerId) (now : Time) (p : TripPlanningTask Req → Prop) :
    Lapsed s id w now p ↔ p row.taskJson ∧ row.taskJson.workerId = some w ∧
      row.taskJson.hasValidLease w now = false := by
  have htask : s.taskOf id = some row.taskJson := by rw [Store.taskOf, h, Option.map_some]
  constructor
  · rintro ⟨t, ht, hp⟩
    cases htask.symm.trans ht
    exact hp
  · intro hp
    exact ⟨row.taskJson, htask, hp⟩

theorem not_lapsed {s : Store Req} {id : TaskId} (h : s.find id = none) (w : WorkerId) (now : Time)
    (p : TripPlanningTask Req → Prop) : ¬ Lapsed s id w now p := by
  rintro ⟨t, ht, _⟩
  rw [Store.taskOf, h] at ht
  cases ht

theorem heartbeat_iff {c : Codec Req} {s : Store Req} (hs : WellFormed s) (id : TaskId)
    (w : WorkerId) (l : Time) (clock : Readings) :
    Interchangeable c s (.heartbeat id w l) clock ↔ ¬ Parts c s clock (.heartbeat id w l) := by
  cases hrow : s.find id with
  | none =>
    refine ⟨fun _ => not_lapsed hrow _ _ _, fun _ => interchangeable_of_eq ?_⟩
    simp only [exec, execMysql, execSqlite, MysqlTaskStore.heartbeat, SqliteTaskStore.heartbeat,
      onRow_none hrow]
  | some row =>
    have hc := find_coherent hs hrow
    have hstatus : row.status = row.taskJson.status := by rw [hc]; rfl
    have hworker : row.workerId = row.taskJson.workerId := by rw [hc]; rfl
    simp only [Parts, lapsed_iff hrow]
    simp only [Interchangeable, exec, execMysql, execSqlite, MysqlTaskStore.heartbeat,
      SqliteTaskStore.heartbeat, onRow_some hrow, hstatus, hworker]
    cases hl : row.taskJson.hasValidLease w clock.checked with
    | true =>
      obtain ⟨hr, hw, _⟩ := (hasValidLease_iff _ _ _).mp hl
      simp [hr, hw, SameOutcome, renewVerdict, Store.settle]
    | false =>
      by_cases hown : row.taskJson.status = .running ∧ row.taskJson.workerId = some w
      · simp [hown, SameOutcome, renewVerdict, Store.settle]
      · have hbool : (row.taskJson.status == .running && row.taskJson.workerId == some w) = false := by
          simpa using hown
        simp [hbool, hown, SameOutcome, renewVerdict, Store.settle]

/-- Both stores end a task in the same way as long as its owner's lease is good. -/
theorem mark_iff {s : Store Req} (id : TaskId) (w : WorkerId) (e : Ending) (clock : Readings) :
    SameOutcome (s.settle clock.stamped (MysqlTaskStore.markTerminal s id w e clock)).1
        (s.settle clock.stamped (SqliteTaskStore.markTerminal s id w e clock)).1 ∧
      (s.settle clock.stamped (MysqlTaskStore.markTerminal s id w e clock)).2 =
        (s.settle clock.stamped (SqliteTaskStore.markTerminal s id w e clock)).2 ↔
      ¬ Lapsed s id w clock.checked fun t => t.terminal = false := by
  simp only [MysqlTaskStore.markTerminal, SqliteTaskStore.markTerminal]
  cases hrow : s.find id with
  | none =>
    simp only [onRow_none hrow, not_lapsed hrow, not_false_eq_true, iff_true]
    exact ⟨rfl, trivial⟩
  | some row =>
    simp only [onRow_some hrow, lapsed_iff hrow, terminalVerdict]
    cases hterm : row.taskJson.terminal with
    | true => simp [SameOutcome, Store.settle]
    | false =>
      cases hl : row.taskJson.hasValidLease w clock.checked with
      | true =>
        obtain ⟨_, hw, _⟩ := (hasValidLease_iff _ _ _).mp hl
        simp [hw, SameOutcome, Store.settle]
      | false =>
        by_cases hw : row.taskJson.workerId = some w
        · simp [hw, SameOutcome, Store.settle]
        · simp [hw, SameOutcome, Store.settle, leaseLost]

/-- A waiting task keeps its heartbeat time in SQLite only. -/
theorem cancel_verdicts (t : TripPlanningTask Req) (s : Store Req) (clock : Readings) :
    SameOutcome (s.settle clock.stamped (cancelVerdict t none clock)).1
        (s.settle clock.stamped (cancelVerdict t t.heartbeatAt clock)).1 ∧
      (s.settle clock.stamped (cancelVerdict t none clock)).2 =
        (s.settle clock.stamped (cancelVerdict t t.heartbeatAt clock)).2 ↔
      ¬ ((t.status = .queued ∨ t.status = .retrying) ∧ t.heartbeatAt ≠ none) := by
  by_cases hbeat : t.heartbeatAt = none
  · rw [hbeat]
    simp only [ne_eq, not_true_eq_false, and_false, not_false_eq_true, iff_true, and_true]
    cases (s.settle clock.stamped (cancelVerdict t none clock)).1 <;> rfl
  · cases hs : t.status <;>
      simp [cancelVerdict, TripPlanningTask.terminal, TaskStatus.terminal, hs, SameOutcome,
        Store.settle, TripPlanningTask.cancelMarked, TripPlanningTask.stamp, hbeat, Ne.symm hbeat]

theorem cancel_iff {c : Codec Req} {s : Store Req} (hs : WellFormed s) (id : TaskId)
    (userId : Option UserId) (clock : Readings) :
    Interchangeable c s (.requestCancel id userId) clock ↔
      ¬ Parts c s clock (.requestCancel id userId) := by
  cases hrow : s.find id with
  | none =>
    have htask : s.taskOf id = none := by rw [Store.taskOf, hrow, Option.map_none]
    refine ⟨?_, fun _ => interchangeable_of_eq ?_⟩
    · rintro _ ⟨t, ht, _⟩
      cases htask.symm.trans ht
    · simp only [exec, execMysql, execSqlite, MysqlTaskStore.requestCancel,
        SqliteTaskStore.requestCancel, onRow_none hrow]
  | some row =>
    have hc := find_coherent hs hrow
    have huser : row.userId = row.taskJson.userId := by rw [hc]; rfl
    have htask : s.taskOf id = some row.taskJson := by rw [Store.taskOf, hrow, Option.map_some]
    have hparts : Parts c s clock (.requestCancel id userId) ↔
        (∀ u, userId = some u → row.taskJson.userId = some u) ∧
          (row.taskJson.status = .queued ∨ row.taskJson.status = .retrying) ∧
          row.taskJson.heartbeatAt ≠ none := by
      constructor
      · rintro ⟨t, ht, hp⟩
        cases htask.symm.trans ht
        exact hp
      · intro hp
        exact ⟨row.taskJson, htask, hp⟩
    rw [hparts]
    simp only [Interchangeable, exec, execMysql, execSqlite, MysqlTaskStore.requestCancel,
      SqliteTaskStore.requestCancel, onRow_some hrow, huser]
    by_cases hpass : ∀ u, userId = some u → row.taskJson.userId = some u
    · have hany : (userId.any fun u => decide (row.taskJson.userId ≠ some u)) = false := by
        cases userId with
        | none => rfl
        | some u => simpa using hpass u rfl
      simp only [hany, Bool.false_eq_true, ↓reduceIte]
      rw [cancel_verdicts row.taskJson s clock, and_iff_right hpass]
    · have hany : (userId.any fun u => decide (row.taskJson.userId ≠ some u)) = true := by
        cases userId with
        | none => exact absurd (fun u hu => by cases hu) hpass
        | some u =>
          have hne : row.taskJson.userId ≠ some u := by
            intro hu
            exact hpass fun v hv => by cases hv; exact hu
          simpa using hne
      simp only [hany, ↓reduceIte, hpass, false_and, not_false_eq_true, iff_true]
      exact ⟨rfl, trivial⟩

theorem claim_iff {c : Codec Req} {s : Store Req} (hs : WellFormed s) (w : WorkerId) (l : Time)
    (locked : List TaskId) (clock : Readings) :
    Interchangeable c s (.claimNext w l locked) clock ↔
      ¬ Parts c s clock (.claimNext w l locked) := by
  have hall : ∀ r : Row Req, (r.claimable clock.entered && decide (r.taskId ∉ ([] : List TaskId))) =
      r.claimable clock.entered := by simp
  simp only [Parts, not_not, ne_eq]
  constructor
  · rintro ⟨hsame, _⟩
    simp only [exec, execMysql, execSqlite, claimSqlite_eq hs, MysqlTaskStore.claimNext, hall] at hsame
    generalize hm : leastBy Row.createdAt (s.rows.filter fun r =>
      r.claimable clock.entered && decide (r.taskId ∉ locked)) = mine at hsame ⊢
    generalize ht : leastBy Row.createdAt (s.rows.filter fun r => r.claimable clock.entered) =
      theirs at hsame ⊢
    cases mine with
    | none =>
      cases theirs with
      | none => rfl
      | some q => cases hsame
    | some r =>
      cases theirs with
      | none => cases hsame
      | some q =>
        have hr := (List.mem_filter.mp (pickBy_mem hm)).1
        have hq := (List.mem_filter.mp (pickBy_mem ht)).1
        have hclaimed :
            Answer.claimed (some ((r.taskJson.claimed w clock.entered l).stamp clock.stamped)) =
              Answer.claimed (some ((q.taskJson.claimed w clock.entered l).stamp clock.stamped)) :=
          hsame
        have htask : (r.taskJson.claimed w clock.entered l).stamp clock.stamped =
            (q.taskJson.claimed w clock.entered l).stamp clock.stamped :=
          Option.some.inj (Answer.claimed.inj hclaimed)
        have hids := congrArg TripPlanningTask.taskId htask
        have hid : r.taskJson.taskId = q.taskJson.taskId := hids
        have hfind := find_of_mem hs hr
        rw [hid, find_of_mem hs hq] at hfind
        exact hfind.symm
  · intro h
    refine interchangeable_of_eq ?_
    simp only [exec, execMysql, execSqlite, claimSqlite_eq hs, MysqlTaskStore.claimNext, hall, h]

theorem filter_owner {c : Codec Req} {u : UserId} {s : Store Req} (hs : SingleUser c u s)
    (fingerprint : String) :
    (s.rows.filter fun r => decide (r.requestFingerprint = fingerprint) &&
      decide (r.userId = some u) && r.active) =
      s.rows.filter fun r => decide (r.requestFingerprint = fingerprint) && r.active := by
  apply List.filter_congr
  intro r hr
  rw [decide_eq_true (hs.owner r hr), Bool.and_true]

/-- The key lookup of MySQL on a table of one user. -/
theorem find_collated {c : Codec Req} {u : UserId} {s : Store Req} (hs : SingleUser c u s)
    (key : String) :
    (s.rows.find? fun r => decide (c.collate r.idempotencyKey = c.collate key) &&
      decide (r.userId = some u)) =
      lookup (fun r => c.collate r.idempotencyKey) (c.collate key) s.rows := by
  have hrows : ∀ rows : List (Row Req), (∀ r ∈ rows, r.userId = some u) →
      (rows.find? fun r => decide (c.collate r.idempotencyKey = c.collate key) &&
        decide (r.userId = some u)) =
        lookup (fun r => c.collate r.idempotencyKey) (c.collate key) rows := by
    intro rows hown
    induction rows with
    | nil => rfl
    | cons r rows ih =>
      have hr := decide_eq_true (hown r List.mem_cons_self)
      have hi := ih fun q hq => hown q (List.mem_cons_of_mem r hq)
      simp only [lookup] at hi
      simp only [lookup, List.find?_cons, hr, Bool.and_true, hi]
  exact hrows s.rows hs.owner

theorem lookup_exact {c : Codec Req} {s : Store Req}
    (hk : (s.rows.map fun r => c.collate r.idempotencyKey).Nodup) {r : Row Req} (hr : r ∈ s.rows)
    {key : String} (h : c.collate r.idempotencyKey = c.collate key) :
    lookup Row.idempotencyKey key s.rows = if r.idempotencyKey = key then some r else none := by
  have hclass : ∀ q ∈ s.rows, q.idempotencyKey = key → q = r := by
    intro q hq hkey
    have hl := lookup_of_mem hk hq
    rw [hkey, ← h, lookup_of_mem hk hr] at hl
    exact (Option.some.inj hl).symm
  cases hl : lookup Row.idempotencyKey key s.rows with
  | none =>
    rw [if_neg]
    intro hkey
    have hno := List.find?_eq_none.mp hl r hr
    simp [hkey] at hno
  | some q =>
    obtain ⟨hq, hkey⟩ := lookup_mem hl
    cases hclass q hq hkey
    rw [if_pos hkey]

section

variable {c : Codec Req} {u : UserId} {s : Store Req} {request : Req}
  {idempotencyKey key : String} (taskId sessionId : String) (clock : Readings)

/-- The answer of either store from the row it takes for the one under the key. -/
def reuse (c : Codec Req) (s : Store Req) (request : Req) (r : Row Req) :
    Except StoreError (Answer Req) × Store Req :=
  if r.requestFingerprint = c.requestFingerprint request then (.ok (.created r.taskJson true), s)
  else (.error conflict, s)

/-- The answer of either store without a row under the key. -/
def enqueue (c : Codec Req) (u : UserId) (s : Store Req) (request : Req)
    (key taskId sessionId : String) (clock : Readings) : Except StoreError (Answer Req) × Store Req :=
  match activeRow s (c.requestFingerprint request) with
  | some row => (.ok (.created row.taskJson true), s)
  | none => s.insertTask (newTask taskId sessionId (some u) key (c.requestFingerprint request)
      request clock.checked) clock.stamped

theorem mysql_reuse (hs : SingleUser c u s) (hkey : normalizeIdempotencyKey idempotencyKey = .ok key)
    {r : Row Req}
    (hl : lookup (fun r : Row Req => c.collate r.idempotencyKey) (c.collate key) s.rows = some r) :
    exec .mysql c s (.createTask request idempotencyKey (some u) taskId sessionId) clock =
      reuse c s request r := by
  simp only [exec, execMysql, MysqlTaskStore.createTask, hkey, findReusableTask,
    find_collated hs key, hl, reuse]
  by_cases hfp : r.requestFingerprint = c.requestFingerprint request
  · simp [hfp]
  · simp [hfp]

theorem sqlite_reuse (hkey : normalizeIdempotencyKey idempotencyKey = .ok key) {r : Row Req}
    (hl : lookup Row.idempotencyKey key s.rows = some r) :
    exec .sqlite c s (.createTask request idempotencyKey (some u) taskId sessionId) clock =
      reuse c s request r := by
  simp only [exec, execSqlite, SqliteTaskStore.createTask, hkey, hl, reuse]
  by_cases hfp : r.requestFingerprint = c.requestFingerprint request
  · simp [hfp]
  · simp [hfp]

theorem mysql_enqueue (hs : SingleUser c u s)
    (hkey : normalizeIdempotencyKey idempotencyKey = .ok key)
    (hl : lookup (fun r : Row Req => c.collate r.idempotencyKey) (c.collate key) s.rows = none) :
    exec .mysql c s (.createTask request idempotencyKey (some u) taskId sessionId) clock =
      enqueue c u s request key taskId sessionId clock := by
  simp only [exec, execMysql, MysqlTaskStore.createTask, hkey, findReusableTask,
    find_collated hs key, hl, filter_owner hs (c.requestFingerprint request), enqueue, activeRow]
  cases latestBy Row.createdAt (s.rows.filter fun r =>
    decide (r.requestFingerprint = c.requestFingerprint request) && r.active) <;> rfl

theorem sqlite_enqueue (hkey : normalizeIdempotencyKey idempotencyKey = .ok key)
    (hl : lookup Row.idempotencyKey key s.rows = none) :
    exec .sqlite c s (.createTask request idempotencyKey (some u) taskId sessionId) clock =
      enqueue c u s request key taskId sessionId clock := by
  cases hactive : latestBy Row.createdAt (s.rows.filter fun r =>
    decide (r.requestFingerprint = c.requestFingerprint request) && r.active) with
  | none =>
    simp only [exec, execSqlite, SqliteTaskStore.createTask, hkey, hl, enqueue, activeRow, hactive]
  | some r =>
    simp only [exec, execSqlite, SqliteTaskStore.createTask, hkey, hl, enqueue, activeRow, hactive]

/-- A row that answers by its key and the answer without a key agree exactly
when the row is the active one. -/
theorem reuse_enqueue (hs : WellFormed s) {r : Row Req} (hr : r ∈ s.rows) :
    SameOutcome (reuse c s request r).1
        (enqueue c u s request key taskId sessionId clock).1 ∧
      (reuse c s request r).2 = (enqueue c u s request key taskId sessionId clock).2 ↔
      activeRow s (c.requestFingerprint request) = some r := by
  simp only [reuse, enqueue]
  constructor
  · rintro ⟨hsame, _⟩
    by_cases hfp : r.requestFingerprint = c.requestFingerprint request
    · rw [if_pos hfp] at hsame
      cases hactive : activeRow s (c.requestFingerprint request) with
      | none =>
        simp only [hactive, Store.insertTask] at hsame
        split at hsame
        · cases hsame
        · cases (Answer.created.inj hsame).2
      | some q =>
        simp only [hactive] at hsame
        have hq := (List.mem_filter.mp (pickBy_mem hactive)).1
        have htask : r.taskJson = q.taskJson := (Answer.created.inj hsame).1
        have hfind := find_of_mem hs hq
        rw [← htask, find_of_mem hs hr] at hfind
        exact hfind.symm
    · rw [if_neg hfp] at hsame
      cases hactive : activeRow s (c.requestFingerprint request) with
      | none =>
        simp only [hactive, Store.insertTask] at hsame
        split at hsame
        · cases hsame
        · cases hsame
      | some q =>
        simp only [hactive] at hsame
        cases hsame
  · intro hactive
    have hp := (List.mem_filter.mp (pickBy_mem hactive)).2
    simp only [Bool.and_eq_true, decide_eq_true_eq] at hp
    simp only [hactive, hp.1, ↓reduceIte]
    exact ⟨rfl, trivial⟩

end

theorem create_iff {c : Codec Req} {u : UserId} {s : Store Req} (hs : SingleUser c u s)
    (request : Req) (idempotencyKey taskId sessionId : String) (clock : Readings) :
    Interchangeable c s (.createTask request idempotencyKey (some u) taskId sessionId) clock ↔
      ¬ Parts c s clock (.createTask request idempotencyKey (some u) taskId sessionId) := by
  simp only [Parts]
  cases hkey : normalizeIdempotencyKey idempotencyKey with
  | error e =>
    refine ⟨?_, fun _ => interchangeable_of_eq ?_⟩
    · rintro _ ⟨key, h, _⟩
      cases h
    · simp only [exec, execMysql, execSqlite, MysqlTaskStore.createTask, SqliteTaskStore.createTask,
        hkey]
  | ok key =>
    cases hl : lookup (fun r : Row Req => c.collate r.idempotencyKey) (c.collate key) s.rows with
    | none =>
      have hfree : ∀ r ∈ s.rows, c.collate r.idempotencyKey ≠ c.collate key := by
        intro r hr
        simpa using List.find?_eq_none.mp hl r hr
      have hnone : lookup Row.idempotencyKey key s.rows = none := by
        refine List.find?_eq_none.mpr ?_
        intro r hr hk
        exact hfree r hr (congrArg c.collate (of_decide_eq_true hk))
      refine ⟨?_, fun _ => interchangeable_of_eq ?_⟩
      · rintro _ ⟨_, hk, r, hr, hcol, _⟩
        cases hk
        exact hfree r hr hcol
      · rw [mysql_enqueue taskId sessionId clock hs hkey hl,
          sqlite_enqueue taskId sessionId clock hkey hnone]
    | some r =>
      obtain ⟨hr, hcol⟩ := lookup_mem hl
      have hexact := lookup_exact hs.keys hr hcol
      have hunique : ∀ q ∈ s.rows, c.collate q.idempotencyKey = c.collate key → q = r := by
        intro q hq hq'
        have hfound := lookup_of_mem hs.keys hq
        rw [hq', hl] at hfound
        exact (Option.some.inj hfound).symm
      by_cases hsame : r.idempotencyKey = key
      · rw [if_pos hsame] at hexact
        refine ⟨?_, fun _ => interchangeable_of_eq ?_⟩
        · rintro _ ⟨_, hk, q, hq, hq', hne, _⟩
          cases hk
          cases hunique q hq hq'
          exact hne hsame
        · rw [mysql_reuse taskId sessionId clock hs hkey hl,
            sqlite_reuse taskId sessionId clock hkey hexact]
      · rw [if_neg hsame] at hexact
        rw [Interchangeable, mysql_reuse taskId sessionId clock hs hkey hl,
          sqlite_enqueue taskId sessionId clock hkey hexact,
          reuse_enqueue taskId sessionId clock hs.wellFormed hr]
        constructor
        · rintro hactive ⟨_, hk, q, hq, hq', _, hne⟩
          cases hk
          cases hunique q hq hq'
          exact hne hactive
        · intro hparts
          by_contra hne
          exact hparts ⟨key, rfl, r, hr, hcol, hsame, hne⟩

theorem assert_iff {c : Codec Req} (s : Store Req) (id : TaskId) (w : WorkerId) (clock : Readings) :
    Interchangeable c s (.assertWorkerOwnsTask id w) clock := by
  refine ⟨?_, rfl⟩
  simp only [exec, execMysql, execSqlite, MysqlTaskStore.assertWorkerOwnsTask, MysqlTaskStore.getTask,
    SqliteTaskStore.assertWorkerOwnsTask]
  cases s.find id with
  | none => rfl
  | some row =>
    simp only [Option.any_none, Bool.false_eq_true, ↓reduceIte]
    split <;> rfl

def atSecond (n : Nat) : Readings := ⟨n * 1000000, n * 1000000, n * 1000000⟩

/-- A task under work with a lease of one minute. -/
def leased : Store Unit :=
  (exec .mysql TaskLedger.plainCodec
    (Store.empty.appendTask (newTask "t1" "s1" (some "u1") "k" "fp" () 0) 0)
    (.claimNext "w1" 60000000 []) ⟨0, 0, 0⟩).2

def leasedTask : TripPlanningTask Unit :=
  ((newTask "t1" "s1" (some "u1") "k" "fp" () 0).claimed "w1" 0 60000000).stamp 0

theorem leased_rows : leased.rows = [Row.ofTask leasedTask] := by
  decide +kernel

theorem leased_singleUser : SingleUser TaskLedger.plainCodec "u1" leased := by
  refine ⟨exec_wellFormed _ _ (append_wellFormed empty_wellFormed rfl 0) _ _, ?_, ?_⟩
  · intro r hr
    rw [leased_rows] at hr
    rw [List.mem_singleton.mp hr]
    rfl
  · rw [leased_rows]
    exact List.nodup_singleton _

theorem leased_task : leased.taskOf "t1" = some leasedTask := by
  rw [Store.taskOf, Store.find, leased_rows]
  rfl

end TravelAgent.StoreAgreement

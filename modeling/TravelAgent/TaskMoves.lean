import TravelAgent.TaskOps

namespace TravelAgent.TaskMoves

open TravelAgent.Leasing TravelAgent.Rows TravelAgent.TaskRecord TravelAgent.TaskStore
open TravelAgent.TaskOps
open TravelAgent.MysqlTaskStore (Codec)

variable {Req : Type}

theorem insert_leaves (b : Backend) (clock : Readings) (s : Store Req) (request : Req)
    (idempotencyKey : String) (userId : Option UserId) (taskId sessionId key fingerprint : String) :
    Leaves b clock s (.createTask request idempotencyKey userId taskId sessionId) (s.insertTask
      (newTask taskId sessionId userId key fingerprint request clock.checked) clock.stamped).2 := by
  simp only [Store.insertTask]
  split
  · exact .same
  · rename_i h
    exact .queued request idempotencyKey userId taskId sessionId key fingerprint rfl
      (by simpa using h)

/-- A verdict on a locked row is either harmless or one of the moves. -/
theorem settle_leaves {b : Backend} {clock : Readings} {s : Store Req} {op : Op Req}
    {row : Row Req} (hrow : row ∈ s.rows) {v : Verdict Req}
    (hv : ∀ t event answer, v = .save t event answer → Move b clock op row.taskJson t event) :
    Leaves b clock s op (s.settle clock.stamped v).2 := by
  cases v with
  | refuse error => exact .same
  | keep answer => exact .same
  | save t event answer => exact .moved row hrow t event (hv t event answer rfl)

theorem onRow_leaves {b : Backend} {clock : Readings} {s : Store Req} (hs : WellFormed s)
    {op : Op Req} {id : TaskId} {missing : Verdict Req} {body : Row Req → Verdict Req}
    (hm : (s.settle clock.stamped missing).2 = s)
    (hb : ∀ row ∈ s.rows, row = Row.ofTask row.taskJson → row.taskJson.taskId = id →
      ∀ t event answer, body row = .save t event answer → Move b clock op row.taskJson t event) :
    Leaves b clock s op (s.settle clock.stamped (s.onRow id missing body)).2 := by
  simp only [Store.onRow]
  split
  · rw [hm]
    exact .same
  · rename_i row hrow
    obtain ⟨hmem, hid⟩ := lookup_mem hrow
    have hc := hs.coherent row hmem
    have ht : row.taskJson.taskId = id := by
      rw [hc] at hid
      exact hid
    exact settle_leaves hmem (hb row hmem hc ht)

theorem claim_moves {b : Backend} {clock : Readings} {w : WorkerId} {l : Time}
    {locked : List TaskId} {row : Row Req} (hc : row = Row.ofTask row.taskJson)
    (hg : row.claimable clock.entered = true) (t : TripPlanningTask Req)
    (event : Option (TaskEventType × EventData)) (answer : Answer Req)
    (h : claimVerdict row.taskJson w l clock = .save t event answer) :
    Move b clock (.claimNext w l locked) row.taskJson t event := by
  cases h
  exact .claim row.taskJson w l locked (hc ▸ hg)

theorem progress_moves {b : Backend} {clock : Readings} {w : WorkerId} {p : Progress}
    {row : Row Req} {id : TaskId} (hid : row.taskJson.taskId = id) (t : TripPlanningTask Req)
    (event : Option (TaskEventType × EventData)) (answer : Answer Req)
    (h : progressVerdict row.taskJson id w p clock = .save t event answer) :
    Move b clock (.recordProgress id w p) row.taskJson t event := by
  subst hid
  simp only [progressVerdict] at h
  split at h
  · rename_i hl
    cases h
    exact .progress row.taskJson w p hl
  · cases h

theorem cancel_moves {b : Backend} {clock : Readings} {u : Option UserId} {row : Row Req}
    {heartbeatAt : Option Time} {id : TaskId} (hid : row.taskJson.taskId = id)
    (t : TripPlanningTask Req) (event : Option (TaskEventType × EventData)) (answer : Answer Req)
    (h : cancelVerdict row.taskJson heartbeatAt clock = .save t event answer) :
    Move b clock (.requestCancel id u) row.taskJson t event := by
  subst hid
  simp only [cancelVerdict] at h
  split at h
  · cases h
  · rename_i ht
    cases h
    exact .cancel row.taskJson u heartbeatAt (by simpa using ht)

theorem renew_moves {b : Backend} {clock : Readings} {w : WorkerId} {l : Time} {row : Row Req}
    {id : TaskId} (hid : row.taskJson.taskId = id) {owns : Bool}
    (ho : owns = true → b.mayRenew row.taskJson w clock.checked) (t : TripPlanningTask Req)
    (event : Option (TaskEventType × EventData)) (answer : Answer Req)
    (h : renewVerdict row.taskJson owns l clock = .save t event answer) :
    Move b clock (.heartbeat id w l) row.taskJson t event := by
  subst hid
  simp only [renewVerdict] at h
  split at h
  · rename_i hg
    cases h
    exact .renew row.taskJson w l (ho hg)
  · cases h

theorem terminal_moves {b : Backend} {clock : Readings} {op : Op Req} {w : WorkerId} {e : Ending}
    {row : Row Req} {id : TaskId} (hop : op.ending = some (id, w, e))
    (hid : row.taskJson.taskId = id) {owns : Bool} {lost : StoreError}
    (ho : owns = true → b.mayEnd row.taskJson w clock.checked) (t : TripPlanningTask Req)
    (event : Option (TaskEventType × EventData)) (answer : Answer Req)
    (h : terminalVerdict row.taskJson owns lost e clock = .save t event answer) :
    Move b clock op row.taskJson t event := by
  simp only [terminalVerdict] at h
  split at h
  · cases h
  · rename_i ht
    split at h
    · rename_i hg
      cases h
      exact .finish op row.taskJson w e (hid ▸ hop) (by simpa using ht) (ho hg)
    · cases h

theorem createMysql_leaves (c : Codec Req) (clock : Readings) (s : Store Req) (request : Req)
    (key : String) (userId : Option UserId) (taskId sessionId : String) :
    Leaves .mysql clock s (.createTask request key userId taskId sessionId)
      (MysqlTaskStore.createTask c s request key userId taskId sessionId clock).2 := by
  simp only [MysqlTaskStore.createTask]
  split
  · exact .same
  · split
    · exact .same
    · exact .same
    · exact insert_leaves ..

theorem createSqlite_leaves (fp : Req → String) (clock : Readings) (s : Store Req) (request : Req)
    (key : String) (userId : Option UserId) (taskId sessionId : String) :
    Leaves .sqlite clock s (.createTask request key userId taskId sessionId)
      (SqliteTaskStore.createTask fp s request key userId taskId sessionId clock).2 := by
  simp only [SqliteTaskStore.createTask]
  split
  · exact .same
  · split
    · split <;> exact .same
    · split
      · exact .same
      · exact insert_leaves ..

/-- The columns that the conditional update reserves are overwritten by the save. -/
theorem commit_reserved (s : Store Req) {p : Row Req → Bool} (w : WorkerId) (now l stamped : Time)
    (t : TripPlanningTask Req) (event : Option (TaskEventType × EventData))
    (hp : ∀ r, p r = true → r.taskId = t.taskId) :
    ({ s with rows := updateWhere p (fun r => SqliteTaskStore.Row.reserve r w now l) s.rows } :
      Store Req).commit t event stamped = s.commit t event stamped := by
  have ha : updateWhere (fun r => decide (r.taskId = t.taskId)) (fun r => r.write t)
      (updateWhere p (fun r => SqliteTaskStore.Row.reserve r w now l) s.rows) =
      updateWhere (fun r => decide (r.taskId = t.taskId)) (fun r => r.write t) s.rows := by
    apply updateWhere_absorb
    intro r hr
    have hid := hp r hr
    exact ⟨decide_eq_true hid, decide_eq_true hid, rfl⟩
  cases event with
  | none => simp only [Store.commit, Store.saveTask, ha]
  | some event => simp only [Store.commit, Store.saveTask, ha]

/-- The claimed snapshot is both stored and handed to the worker. -/
def Claims (clock : Readings) (s : Store Req) (w : WorkerId) (l : Time)
    (r : Except StoreError (Answer Req) × Store Req) : Prop :=
  ∃ row ∈ s.rows, row.claimable clock.entered = true ∧
    r = s.settle clock.stamped (claimVerdict row.taskJson w l clock)

theorem claimMysql_cases (s : Store Req) (w : WorkerId) (l : Time) (locked : List TaskId)
    (clock : Readings) :
    MysqlTaskStore.claimNext s w l locked clock = .keep (.claimed none) ∧
        (∀ row ∈ s.rows, row.claimable clock.entered = true → row.taskId ∈ locked) ∨
      Claims clock s w l
        (s.settle clock.stamped (MysqlTaskStore.claimNext s w l locked clock)) := by
  simp only [MysqlTaskStore.claimNext]
  split
  · rename_i hnone
    refine Or.inl ⟨rfl, ?_⟩
    intro row hrow hg
    by_contra hl
    have hno := List.filter_eq_nil_iff.mp (pickBy_none hnone) row hrow
    simp [hg, hl] at hno
  · rename_i row hrow
    obtain ⟨hmem, hg⟩ := List.mem_filter.mp (pickBy_mem hrow)
    simp only [Bool.and_eq_true] at hg
    exact Or.inr ⟨row, hmem, hg.1, rfl⟩

/-- The select and the conditional update of SQLite claim what MySQL claims
while nobody else holds a row. -/
theorem claimSqlite_eq {s : Store Req} (hs : WellFormed s) (w : WorkerId) (l : Time)
    (clock : Readings) :
    SqliteTaskStore.claimNext s w l clock =
      s.settle clock.stamped (MysqlTaskStore.claimNext s w l [] clock) := by
  have hall : ∀ r : Row Req, (r.claimable clock.entered && decide (r.taskId ∉ ([] : List TaskId))) =
      r.claimable clock.entered := by simp
  simp only [SqliteTaskStore.claimNext, MysqlTaskStore.claimNext, hall]
  cases hrow : leastBy Row.createdAt (s.rows.filter fun r => r.claimable clock.entered) with
  | none => rfl
  | some row =>
    obtain ⟨hmem, hg⟩ := List.mem_filter.mp (pickBy_mem hrow)
    have hid : row.taskJson.taskId = row.taskId := by
      rw [hs.coherent row hmem]
      rfl
    have hone := filter_length_eq_one hs.ids hmem
      (p := fun r => decide (r.taskId = row.taskJson.taskId) && r.claimable clock.entered)
      (by simpa [hid] using hg) (by simp +contextual [hid])
    simp only [hone, ne_eq, not_true_eq_false, ↓reduceIte, claimVerdict, Store.settle]
    rw [commit_reserved s w clock.entered l clock.stamped _ _
      (by simp +contextual [TripPlanningTask.stamp, TripPlanningTask.claimed])]

theorem claimSqlite_cases {s : Store Req} (hs : WellFormed s) (w : WorkerId) (l : Time)
    (clock : Readings) :
    SqliteTaskStore.claimNext s w l clock = (.ok (.claimed none), s) ∧
        (∀ row ∈ s.rows, row.claimable clock.entered = false) ∨
      Claims clock s w l (SqliteTaskStore.claimNext s w l clock) := by
  rw [claimSqlite_eq hs]
  obtain ⟨h, hl⟩ | h := claimMysql_cases s w l [] clock
  · refine Or.inl ⟨by rw [h]; rfl, ?_⟩
    intro row hrow
    by_contra hg
    cases hl row hrow (Bool.eq_true_of_not_eq_false hg)
  · exact Or.inr h

/-- A claim comes back empty-handed, if every claimable row is locked, or it
stores and returns one claimable task. -/
theorem claim_cases (b : Backend) (c : Codec Req) {s : Store Req} (hs : WellFormed s) (w : WorkerId)
    (l : Time) (locked : List TaskId) (clock : Readings) :
    exec b c s (.claimNext w l locked) clock = (.ok (.claimed none), s) ∧
        (∀ row ∈ s.rows, row.claimable clock.entered = true → row.taskId ∈ locked) ∨
      Claims clock s w l (exec b c s (.claimNext w l locked) clock) := by
  cases b with
  | mysql =>
    obtain ⟨h, hl⟩ | h := claimMysql_cases s w l locked clock
    · refine Or.inl ⟨?_, hl⟩
      simp only [exec, execMysql, h, Store.settle]
    · exact Or.inr h
  | sqlite =>
    obtain ⟨h, hl⟩ | h := claimSqlite_cases hs w l clock
    · refine Or.inl ⟨h, ?_⟩
      intro row hrow hg
      rw [hl row hrow] at hg
      cases hg
    · exact Or.inr h

theorem claim_leaves (b : Backend) (c : Codec Req) {s : Store Req} (hs : WellFormed s)
    (w : WorkerId) (l : Time) (locked : List TaskId) (clock : Readings) :
    Leaves b clock s (.claimNext w l locked) (exec b c s (.claimNext w l locked) clock).2 := by
  obtain ⟨h, _⟩ | ⟨row, hmem, hg, h⟩ := claim_cases b c hs w l locked clock
  · rw [h]
    exact .same
  · rw [h]
    exact settle_leaves hmem (claim_moves (hs.coherent row hmem) hg)

/-- Every call on a well-formed store changes nothing, queues a fresh task, or
makes one guarded move on one row. -/
theorem exec_leaves (b : Backend) (c : Codec Req) {s : Store Req} (hs : WellFormed s) (op : Op Req)
    (clock : Readings) : Leaves b clock s op (exec b c s op clock).2 := by
  cases b with
  | mysql =>
    cases op with
    | createTask request key userId taskId sessionId => exact createMysql_leaves ..
    | claimNext w l locked => exact claim_leaves .mysql c hs w l locked clock
    | recordProgress id w p =>
      exact onRow_leaves hs rfl fun row _ _ hid => progress_moves hid
    | heartbeat id w l =>
      exact onRow_leaves hs rfl fun row _ _ hid => renew_moves hid fun ho => ho
    | requestCancel id u =>
      refine onRow_leaves hs rfl fun row _ _ hid t event answer h => ?_
      split at h
      · cases h
      · exact cancel_moves hid t event answer h
    | markSucceeded id w sessionId =>
      exact onRow_leaves hs rfl fun row _ _ hid => terminal_moves rfl hid fun ho => ho
    | markFailed id w report timedOut =>
      exact onRow_leaves hs rfl fun row _ _ hid => terminal_moves rfl hid fun ho => ho
    | markCancelled id w message =>
      exact onRow_leaves hs rfl fun row _ _ hid => terminal_moves rfl hid fun ho => ho
    | assertWorkerOwnsTask id w => exact .same
  | sqlite =>
    cases op with
    | createTask request key userId taskId sessionId => exact createSqlite_leaves ..
    | claimNext w l locked => exact claim_leaves .sqlite c hs w l locked clock
    | recordProgress id w p =>
      exact onRow_leaves hs rfl fun row _ _ hid => progress_moves hid
    | heartbeat id w l =>
      refine onRow_leaves hs rfl fun row _ hc hid => renew_moves hid fun ho => ?_
      simp only [Bool.and_eq_true, beq_iff_eq] at ho
      rw [hc] at ho
      exact ho
    | requestCancel id u =>
      refine onRow_leaves hs rfl fun row _ _ hid t event answer h => ?_
      split at h
      · cases h
      · exact cancel_moves hid t event answer h
    | markSucceeded id w sessionId =>
      exact onRow_leaves hs rfl fun row _ _ hid => terminal_moves rfl hid fun ho => eq_of_beq ho
    | markFailed id w report timedOut =>
      exact onRow_leaves hs rfl fun row _ _ hid => terminal_moves rfl hid fun ho => eq_of_beq ho
    | markCancelled id w message =>
      exact onRow_leaves hs rfl fun row _ _ hid => terminal_moves rfl hid fun ho => eq_of_beq ho
    | assertWorkerOwnsTask id w => exact .same

end TravelAgent.TaskMoves

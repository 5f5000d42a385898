import TravelAgent.CachedReads
import TravelAgent.TaskIsolation

namespace TravelAgent.TaskOwners

open TravelAgent.Leasing TravelAgent.Rows TravelAgent.TaskRecord TravelAgent.TaskStore
open TravelAgent.TaskOps TravelAgent.TaskMoves TravelAgent.TaskView TravelAgent.CachedReads
open TravelAgent.MysqlTaskStore (Codec)

variable {Req : Type}

def OwnedBy (s : Store Req) (id : TaskId) (user : Option UserId) : Prop :=
  ∃ t, s.taskOf id = some t ∧ t.userId = user

theorem owned_of_mem {s : Store Req} (hs : WellFormed s) {row : Row Req} (h : row ∈ s.rows) :
    OwnedBy s row.taskJson.taskId row.taskJson.userId := by
  refine ⟨row.taskJson, ?_, rfl⟩
  simp only [Store.taskOf, find_of_mem hs h, Option.map_some]

theorem owned_unique {s : Store Req} {id : TaskId} {u v : Option UserId} (hu : OwnedBy s id u)
    (hv : OwnedBy s id v) : u = v := by
  obtain ⟨t, ht, rfl⟩ := hu
  obtain ⟨t', ht', rfl⟩ := hv
  cases ht.symm.trans ht'
  rfl

theorem owned_exec (b : Backend) (c : Codec Req) {s : Store Req} (hs : WellFormed s) (op : Op Req)
    (clock : Readings) {id : TaskId} {user : Option UserId} (h : OwnedBy s id user) :
    OwnedBy (exec b c s op clock).2 id user := by
  obtain ⟨t, ht, hu⟩ := h
  rcases leaves_task hs (exec_leaves b c hs op clock) id with hsame | ⟨hnone, _⟩ |
    ⟨t₀, t', event, ht₀, ht', _, hmove⟩
  · exact ⟨t, hsame.trans ht, hu⟩
  · cases hnone.symm.trans ht
  · cases ht₀.symm.trans ht
    have hid := congrArg (fun p => p.2.1) (move_identity hmove)
    exact ⟨t', ht', hid.trans hu⟩

theorem getTask_owned {b : Backend} {s : Store Req} (hs : WellFormed s) {id : TaskId}
    {user : Option UserId} {t : TripPlanningTask Req} (h : EventStream.getTask b s id user = .ok t) :
    t.taskId = id ∧ OwnedBy s t.taskId t.userId := by
  have hrow : ∃ row, s.find id = some row ∧ row.taskJson = t := by
    cases b with
    | mysql =>
      simp only [EventStream.getTask, MysqlTaskStore.getTask] at h
      split at h
      · cases h
      · rename_i row hrow
        split at h
        · cases h
        · exact ⟨row, hrow, Except.ok.inj h⟩
    | sqlite =>
      simp only [EventStream.getTask, SqliteTaskStore.getTask] at h
      split at h
      · cases h
      · rename_i row hrow
        split at h
        · cases h
        · exact ⟨row, hrow, Except.ok.inj h⟩
  obtain ⟨row, hf, rfl⟩ := hrow
  have hid : row.taskJson.taskId = id := by
    apply taskOf_taskId hs
    simp only [Store.taskOf, hf, Option.map_some]
  exact ⟨hid, owned_of_mem hs (lookup_mem hf).1⟩

/-- What a transaction tells its caller. -/
def answerOf : Verdict Req → Option (Answer Req)
  | .refuse _ => none
  | .keep answer => some answer
  | .save _ _ answer => some answer

theorem settle_answer {s : Store Req} {now : Time} {v : Verdict Req} {r : Answer Req}
    (h : (s.settle now v).1 = .ok r) : answerOf v = some r := by
  cases v with
  | refuse error => cases h
  | keep answer => exact congrArg some (Except.ok.inj h)
  | save t event answer => exact congrArg some (Except.ok.inj h)

theorem progress_answer {t t' : TripPlanningTask Req} {id : TaskId} {w : WorkerId} {p : Progress}
    {clock : Readings} (h : answerOf (progressVerdict t id w p clock) = some (.task t')) :
    identity t' = identity t := by
  simp only [progressVerdict] at h
  split at h
  · cases h
    rfl
  · cases h

theorem cancel_answer {t t' : TripPlanningTask Req} {heartbeatAt : Option Time} {clock : Readings}
    (h : answerOf (cancelVerdict t heartbeatAt clock) = some (.task t')) :
    identity t' = identity t := by
  simp only [cancelVerdict] at h
  split at h
  · cases h
    rfl
  · cases h
    simp only [TripPlanningTask.stamp, TripPlanningTask.cancelMarked, identity]
    split <;> rfl

theorem terminal_answer {t t' : TripPlanningTask Req} {owns : Bool} {lost : StoreError} {e : Ending}
    {clock : Readings} (h : answerOf (terminalVerdict t owns lost e clock) = some (.task t')) :
    identity t' = identity t := by
  simp only [terminalVerdict] at h
  split at h
  · cases h
    rfl
  · split at h
    · cases h
      rfl
    · cases h

/-- A transaction on the row of one task answers with that task. -/
theorem onRow_answer {s : Store Req} {now : Time} {id : TaskId} {error : StoreError}
    {body : Row Req → Verdict Req} {r : Answer Req}
    (h : (s.settle now (s.onRow id (.refuse error) body)).1 = .ok r) :
    ∃ row ∈ s.rows, answerOf (body row) = some r := by
  have ha := settle_answer h
  simp only [Store.onRow] at ha
  split at ha
  · cases ha
  · rename_i row hrow
    exact ⟨row, (lookup_mem hrow).1, ha⟩

theorem insert_created {s : Store Req} {fresh t : TripPlanningTask Req} {now : Time} {reused : Bool}
    (h : (s.insertTask fresh now).1 = .ok (.created t reused)) :
    s.holdsKeyOf t = false ∧ (s.insertTask fresh now).2 = s.appendTask t now := by
  simp only [Store.insertTask] at h ⊢
  split at h
  · cases h
  · rename_i hfree
    cases h
    exact ⟨by simpa using hfree, by rw [if_neg hfree]⟩

/-- A creating call hands out a task that was stored before or that it has stored itself. -/
theorem create_cases (b : Backend) (c : Codec Req) {s : Store Req} {request : Req} {key : String}
    {user : Option UserId} {taskId sessionId : String} {clock : Readings}
    {t : TripPlanningTask Req} {reused : Bool}
    (h : (exec b c s (.createTask request key user taskId sessionId) clock).1 =
      .ok (.created t reused)) :
    (∃ row ∈ s.rows, row.taskJson = t) ∨ s.holdsKeyOf t = false ∧
      (exec b c s (.createTask request key user taskId sessionId) clock).2 =
        s.appendTask t clock.stamped := by
  cases b with
  | mysql =>
    simp only [exec, execMysql, MysqlTaskStore.createTask] at h ⊢
    cases hk : normalizeIdempotencyKey key with
    | error e =>
      rw [hk] at h
      cases h
    | ok k =>
      simp only [hk] at h ⊢
      split at h
      · cases h
      · rename_i q hq
        cases h
        obtain ⟨row, hrow, _, _, hj⟩ := TaskIsolation.findReusable_mem hq
        exact Or.inl ⟨row, hrow, hj⟩
      · exact Or.inr (insert_created h)
  | sqlite =>
    simp only [exec, execSqlite, SqliteTaskStore.createTask] at h ⊢
    cases hk : normalizeIdempotencyKey key with
    | error e =>
      rw [hk] at h
      cases h
    | ok k =>
      simp only [hk] at h ⊢
      split at h
      · rename_i row hrow
        split at h
        · cases h
        · cases h
          exact Or.inl ⟨row, (lookup_mem hrow).1, rfl⟩
      · split at h
        · rename_i row hrow
          cases h
          exact Or.inl ⟨row, (List.mem_filter.mp (pickBy_mem hrow)).1, rfl⟩
        · exact Or.inr (insert_created h)

theorem created_owned (b : Backend) (c : Codec Req) {s : Store Req} (hs : WellFormed s)
    {request : Req} {key : String} {user : Option UserId} {taskId sessionId : String}
    {clock : Readings} {t : TripPlanningTask Req} {reused : Bool}
    (h : (exec b c s (.createTask request key user taskId sessionId) clock).1 =
      .ok (.created t reused)) :
    OwnedBy (exec b c s (.createTask request key user taskId sessionId) clock).2 t.taskId
      t.userId := by
  obtain ⟨row, hrow, rfl⟩ | ⟨hfree, hstore⟩ := create_cases b c h
  · exact owned_exec b c hs _ clock (owned_of_mem hs hrow)
  · refine ⟨t, ?_, rfl⟩
    rw [hstore, append_taskOf hfree, if_pos rfl]

theorem claimed_identity (b : Backend) (c : Codec Req) {s : Store Req} (hs : WellFormed s)
    {w : WorkerId} {l : Time} {locked : List TaskId} {clock : Readings} {t : TripPlanningTask Req}
    (h : (exec b c s (.claimNext w l locked) clock).1 = .ok (.claimed (some t))) :
    ∃ row ∈ s.rows, identity t = identity row.taskJson := by
  obtain ⟨hr, _⟩ | ⟨row, hrow, _, hr⟩ := claim_cases b c hs w l locked clock
  · rw [hr] at h
    cases h
  · rw [hr] at h
    cases h
    exact ⟨row, hrow, rfl⟩

theorem updated_identity (b : Backend) (c : Codec Req) {s : Store Req} {op : Op Req}
    {clock : Readings} {t : TripPlanningTask Req} (hop : updates op = true)
    (h : (exec b c s op clock).1 = .ok (.task t)) :
    ∃ row ∈ s.rows, identity t = identity row.taskJson := by
  cases op with
  | recordProgress id w p =>
    cases b with
    | mysql | sqlite =>
      obtain ⟨row, hrow, ha⟩ := onRow_answer h
      exact ⟨row, hrow, progress_answer ha⟩
  | requestCancel id u =>
    cases b with
    | mysql | sqlite =>
      obtain ⟨row, hrow, ha⟩ := onRow_answer h
      split at ha
      · cases ha
      · exact ⟨row, hrow, cancel_answer ha⟩
  | markSucceeded id w sessionId =>
    cases b with
    | mysql | sqlite =>
      obtain ⟨row, hrow, ha⟩ := onRow_answer h
      exact ⟨row, hrow, terminal_answer ha⟩
  | markFailed id w report timedOut =>
    cases b with
    | mysql | sqlite =>
      obtain ⟨row, hrow, ha⟩ := onRow_answer h
      exact ⟨row, hrow, terminal_answer ha⟩
  | markCancelled id w message =>
    cases b with
    | mysql | sqlite =>
      obtain ⟨row, hrow, ha⟩ := onRow_answer h
      exact ⟨row, hrow, terminal_answer ha⟩
  | _ => cases hop

/-- What the decorator caches after a call, by the answer of the call. -/
theorem cachedTask_cases {op : Op Req} {answer : Except StoreError (Answer Req)}
    {t : TripPlanningTask Req} (h : cachedTask op answer = some t) :
    (∃ request key user taskId sessionId reused,
      op = .createTask request key user taskId sessionId ∧ answer = .ok (.created t reused)) ∨
    (∃ w l locked, op = .claimNext w l locked ∧ answer = .ok (.claimed (some t))) ∨
    updates op = true ∧ answer = .ok (.task t) := by
  simp only [cachedTask] at h
  split at h
  · rename_i request key user taskId sessionId q reused
    cases h
    exact Or.inl ⟨request, key, user, taskId, sessionId, reused, rfl, rfl⟩
  · rename_i w l locked q
    cases h
    exact Or.inr (Or.inl ⟨w, l, locked, rfl, rfl⟩)
  · split at h
    · rename_i hop
      cases h
      exact Or.inr (Or.inr ⟨hop, rfl⟩)
    · cases h
  · cases h

/-- The task that a call hands to the cache carries the owner that the database has for it. -/
theorem cachedTask_owned (b : Backend) (c : Codec Req) {s : Store Req} (hs : WellFormed s)
    {op : Op Req} {clock : Readings} {t : TripPlanningTask Req}
    (h : cachedTask op (exec b c s op clock).1 = some t) :
    OwnedBy (exec b c s op clock).2 t.taskId t.userId := by
  have hstored : (∃ row ∈ s.rows, identity t = identity row.taskJson) →
      OwnedBy (exec b c s op clock).2 t.taskId t.userId := by
    rintro ⟨row, hrow, hid⟩
    simp only [identity, Prod.mk.injEq] at hid
    rw [hid.1, hid.2.1]
    exact owned_exec b c hs op clock (owned_of_mem hs hrow)
  rcases cachedTask_cases h with ⟨request, key, user, taskId, sessionId, reused, rfl, ha⟩ |
    ⟨w, l, locked, rfl, ha⟩ | ⟨hop, ha⟩
  · exact created_owned b c hs ha
  · exact hstored (claimed_identity b c hs ha)
  · exact hstored (updated_identity b c hop ha)

end TravelAgent.TaskOwners

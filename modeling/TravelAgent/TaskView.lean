import Mathlib
import TravelAgent.TaskMoves

namespace TravelAgent.TaskView

open TravelAgent.Leasing TravelAgent.Rows TravelAgent.TaskRecord TravelAgent.TaskStore
open TravelAgent.TaskOps TravelAgent.TaskMoves
open TravelAgent.MysqlTaskStore (Codec)

variable {Req : Type}

/-- The columns that are written once, when the row is inserted. -/
def identity (t : TripPlanningTask Req) :
    TaskId × Option UserId × String × String × String × Time :=
  (t.taskId, t.userId, t.sessionId, t.idempotencyKey, t.requestFingerprint, t.createdAt)

theorem move_identity {b : Backend} {clock : Readings} {op : Op Req} {t t' : TripPlanningTask Req}
    {event : Option (TaskEventType × EventData)} (h : Move b clock op t t' event) :
    identity t' = identity t := by
  cases h with
  | claim _ w l locked guard => rfl
  | progress _ w p guard => rfl
  | renew _ w l guard => rfl
  | cancel _ u heartbeatAt guard =>
    simp only [TripPlanningTask.stamp, TripPlanningTask.cancelMarked, identity]
    split <;> rfl
  | finish _ _ w e call guard owner => rfl

theorem move_taskId {b : Backend} {clock : Readings} {op : Op Req} {t t' : TripPlanningTask Req}
    {event : Option (TaskEventType × EventData)} (h : Move b clock op t t' event) :
    t'.taskId = t.taskId :=
  congrArg Prod.fst (move_identity h)

theorem write_ofTask {t t' : TripPlanningTask Req} (h : identity t' = identity t) :
    (Row.ofTask t).write t' = Row.ofTask t' := by
  simp only [identity, Prod.mk.injEq] at h
  simp [Row.write, Row.ofTask, h]

theorem commit_rows (s : Store Req) (t : TripPlanningTask Req)
    (event : Option (TaskEventType × EventData)) (now : Time) :
    (s.commit t event now).rows =
      updateWhere (fun r => decide (r.taskId = t.taskId)) (fun r => r.write t) s.rows := by
  cases event <;> rfl

theorem commit_find (s : Store Req) (t : TripPlanningTask Req)
    (event : Option (TaskEventType × EventData)) (now : Time) (id : TaskId) :
    (s.commit t event now).find id =
      (s.find id).map fun r => if r.taskId = t.taskId then r.write t else r := by
  have h := lookup_updateWhere Row.taskId id (fun r : Row Req => decide (r.taskId = t.taskId))
    (fun r => r.write t) (fun _ => rfl) s.rows
  simp only [decide_eq_true_eq] at h
  simpa only [Store.find, commit_rows] using h

theorem commit_find_ne (s : Store Req) {t : TripPlanningTask Req} {id : TaskId} (hid : id ≠ t.taskId)
    (event : Option (TaskEventType × EventData)) (now : Time) :
    (s.commit t event now).find id = s.find id := by
  rw [commit_find]
  cases hf : s.find id with
  | none => rfl
  | some r =>
    have hr : r.taskId ≠ t.taskId := by
      rw [(lookup_mem hf).2]
      exact hid
    rw [Option.map_some, if_neg hr]

theorem find_of_mem {s : Store Req} (hs : WellFormed s) {row : Row Req} (h : row ∈ s.rows) :
    s.find row.taskJson.taskId = some row := by
  have hid : row.taskId = row.taskJson.taskId := by
    rw [hs.coherent row h]
    rfl
  rw [← hid]
  exact lookup_of_mem hs.ids h

theorem taskOf_some {s : Store Req} {id : TaskId} {t : TripPlanningTask Req}
    (h : s.taskOf id = some t) : ∃ row, s.find id = some row ∧ row.taskJson = t := by
  simpa only [Store.taskOf, Option.map_eq_some_iff] using h

theorem taskOf_taskId {s : Store Req} (hs : WellFormed s) {id : TaskId}
    {t : TripPlanningTask Req} (h : s.taskOf id = some t) : t.taskId = id := by
  obtain ⟨row, hf, rfl⟩ := taskOf_some h
  obtain ⟨hm, hid⟩ := lookup_mem hf
  rw [hs.coherent row hm] at hid
  exact hid

theorem commit_taskOf {s : Store Req} (hs : WellFormed s) {row : Row Req} (hm : row ∈ s.rows)
    {t : TripPlanningTask Req} (ht : t.taskId = row.taskJson.taskId)
    (event : Option (TaskEventType × EventData)) (now : Time) (id : TaskId) :
    (s.commit t event now).taskOf id =
      if id = row.taskJson.taskId then some t else s.taskOf id := by
  by_cases hid : id = row.taskJson.taskId
  · have hr : row.taskId = t.taskId := by
      rw [hs.coherent row hm, ht]
      rfl
    subst hid
    simp [Store.taskOf, commit_find, find_of_mem hs hm, hr, Row.write]
  · rw [if_neg hid, Store.taskOf, commit_find_ne s (ht ▸ hid), Store.taskOf]

theorem fresh_keys {s : Store Req} {t : TripPlanningTask Req} (h : s.holdsKeyOf t = false)
    {r : Row Req} (hr : r ∈ s.rows) : r.taskId ≠ t.taskId ∧ r.sessionId ≠ t.sessionId := by
  simp only [Store.holdsKeyOf, List.any_eq_false, Bool.or_eq_true, decide_eq_true_eq, not_or] at h
  exact h r hr

theorem fresh_taskId {s : Store Req} {t : TripPlanningTask Req} (h : s.holdsKeyOf t = false)
    {r : Row Req} (hr : r ∈ s.rows) : r.taskId ≠ t.taskId :=
  (fresh_keys h hr).1

theorem append_taskOf {s : Store Req} {t : TripPlanningTask Req} (hf : s.holdsKeyOf t = false)
    (now : Time) (id : TaskId) :
    (s.appendTask t now).taskOf id = if id = t.taskId then some t else s.taskOf id := by
  have hfind : (s.appendTask t now).find id = lookup Row.taskId id (s.rows ++ [Row.ofTask t]) := rfl
  simp only [Store.taskOf, hfind]
  by_cases hid : id = t.taskId
  · subst hid
    have hn : lookup Row.taskId t.taskId s.rows = none := by
      apply List.find?_eq_none.mpr
      intro r hr
      simpa using fresh_taskId hf hr
    rw [lookup_append_none (r := Row.ofTask t) hn rfl, if_pos rfl]
    rfl
  · rw [lookup_append_ne (r := Row.ofTask t) (Ne.symm hid), if_neg hid]
    rfl

theorem find_eq_taskOf {s : Store Req} (hs : WellFormed s) (id : TaskId) :
    s.find id = (s.taskOf id).map Row.ofTask := by
  simp only [Store.taskOf]
  cases hf : s.find id with
  | none => rfl
  | some row => exact congrArg some (hs.coherent row (lookup_mem hf).1)

theorem insertEvent_wellFormed {s : Store Req} (hs : WellFormed s) (t : TripPlanningTask Req)
    (eventType : TaskEventType) (data : EventData) (now : Time) :
    WellFormed (s.insertEvent t eventType data now) := by
  refine ⟨hs.coherent, hs.ids, hs.sessions, ?_, ?_⟩
  · refine List.pairwise_append.mpr ⟨hs.ordered, List.pairwise_singleton _ _, ?_⟩
    intro e he f hf
    rw [List.mem_singleton] at hf
    subst hf
    exact hs.bounded e he
  · intro e he
    obtain he | he := List.mem_append.mp he
    · exact Nat.lt_succ_of_lt (hs.bounded e he)
    · rw [List.mem_singleton] at he
      subst he
      exact Nat.lt_succ_self _

theorem saveTask_wellFormed {s : Store Req} (hs : WellFormed s) {row : Row Req}
    (hm : row ∈ s.rows) {t : TripPlanningTask Req} (ht : identity t = identity row.taskJson) :
    WellFormed (s.saveTask t) := by
  refine ⟨?_, ?_, ?_, hs.ordered, hs.bounded⟩
  · intro r hr
    obtain ⟨hr, _⟩ | ⟨q, hq, hid, rfl⟩ := mem_updateWhere hr
    · exact hs.coherent r hr
    · have hq' := hs.coherent q hq
      have hqr : q = row := by
        have ha := find_of_mem hs hq
        have hb := find_of_mem hs hm
        have hi : q.taskJson.taskId = row.taskJson.taskId := by
          have hid' := of_decide_eq_true hid
          rw [hq'] at hid'
          exact hid'.trans (congrArg Prod.fst ht)
        rw [hi, hb] at ha
        exact (Option.some.inj ha).symm
      subst hqr
      have hw : q.write t = Row.ofTask t := by
        rw [hq']
        exact write_ofTask ht
      rw [hw]
      rfl
  · have hk := map_updateWhere Row.taskId (fun r : Row Req => decide (r.taskId = t.taskId))
      (fun r => r.write t) (fun _ => rfl) s.rows
    simpa only [Store.saveTask, hk] using hs.ids
  · have hk := map_updateWhere Row.sessionId (fun r : Row Req => decide (r.taskId = t.taskId))
      (fun r => r.write t) (fun _ => rfl) s.rows
    simpa only [Store.saveTask, hk] using hs.sessions

theorem commit_wellFormed {s : Store Req} (hs : WellFormed s) {row : Row Req} (hm : row ∈ s.rows)
    {t : TripPlanningTask Req} (ht : identity t = identity row.taskJson)
    (event : Option (TaskEventType × EventData)) (now : Time) :
    WellFormed (s.commit t event now) := by
  have hsave := saveTask_wellFormed hs hm ht
  cases event with
  | none => exact hsave
  | some event => exact insertEvent_wellFormed hsave t event.1 event.2 now

theorem append_wellFormed {s : Store Req} (hs : WellFormed s) {t : TripPlanningTask Req}
    (hf : s.holdsKeyOf t = false) (now : Time) : WellFormed (s.appendTask t now) := by
  apply insertEvent_wellFormed
  refine ⟨?_, ?_, ?_, hs.ordered, hs.bounded⟩
  · intro r hr
    obtain hr | hr := List.mem_append.mp hr
    · exact hs.coherent r hr
    · rw [List.mem_singleton] at hr
      subst hr
      rfl
  · rw [List.map_append, List.map_singleton, ← List.concat_eq_append]
    refine List.Nodup.concat ?_ hs.ids
    intro hid
    obtain ⟨r, hr, he⟩ := List.mem_map.mp hid
    exact (fresh_keys hf hr).1 he
  · rw [List.map_append, List.map_singleton, ← List.concat_eq_append]
    refine List.Nodup.concat ?_ hs.sessions
    intro hid
    obtain ⟨r, hr, he⟩ := List.mem_map.mp hid
    exact (fresh_keys hf hr).2 he

theorem leaves_wellFormed {b : Backend} {clock : Readings} {s s' : Store Req} {op : Op Req}
    (hs : WellFormed s) (h : Leaves b clock s op s') : WellFormed s' := by
  cases h with
  | same => exact hs
  | queued request idempotencyKey userId taskId sessionId key fingerprint call fresh =>
    exact append_wellFormed hs fresh clock.stamped
  | moved row mem t event move =>
    exact commit_wellFormed hs mem (move_identity move) event clock.stamped

theorem exec_wellFormed (b : Backend) (c : Codec Req) {s : Store Req} (hs : WellFormed s)
    (op : Op Req) (clock : Readings) : WellFormed (exec b c s op clock).2 :=
  leaves_wellFormed hs (exec_leaves b c hs op clock)

theorem empty_wellFormed : WellFormed (Store.empty : Store Req) :=
  ⟨by simp [Store.empty], by simp [Store.empty], by simp [Store.empty], by simp [Store.empty],
    by simp [Store.empty]⟩

theorem eventsOf_append_self (events : List TaskEvent) {e : TaskEvent} {id : TaskId}
    (h : e.taskId = id) : eventsOf (events ++ [e]) id = eventsOf events id ++ [e] := by
  simp [eventsOf, h]

theorem eventsOf_append_ne (events : List TaskEvent) {e : TaskEvent} {id : TaskId}
    (h : e.taskId ≠ id) : eventsOf (events ++ [e]) id = eventsOf events id := by
  simp [eventsOf, h]

/-- The log of one task grows by the event of the move that the task makes. -/
def eventOf (s : Store Req) (t : TripPlanningTask Req) (event : Option (TaskEventType × EventData))
    (now : Time) : List TaskEvent :=
  (event.map fun e => s.eventFor t e.1 e.2 now).toList

theorem commit_events (s : Store Req) (t : TripPlanningTask Req)
    (event : Option (TaskEventType × EventData)) (now : Time) (id : TaskId) :
    eventsOf (s.commit t event now).events id =
      if id = t.taskId then eventsOf s.events id ++ eventOf s t event now
      else eventsOf s.events id := by
  cases event with
  | none => simp [Store.commit, Store.saveTask, eventOf]
  | some event =>
    by_cases hid : id = t.taskId
    · rw [if_pos hid]
      exact eventsOf_append_self s.events hid.symm
    · rw [if_neg hid]
      exact eventsOf_append_ne s.events (Ne.symm hid)

/-- One call seen from one task: nothing happens to it and its log, it is
queued with its first event, or it moves and logs the move. -/
theorem leaves_log {b : Backend} {clock : Readings} {s s' : Store Req} {op : Op Req}
    (hs : WellFormed s) (h : Leaves b clock s op s') (id : TaskId) :
    (s'.find id = s.find id ∧ eventsOf s'.events id = eventsOf s.events id) ∨
    (s.taskOf id = none ∧ ∃ request idempotencyKey userId sessionId key fingerprint t,
      op = .createTask request idempotencyKey userId id sessionId ∧
      t = newTask id sessionId userId key fingerprint request clock.checked ∧
      s'.taskOf id = some t ∧ eventsOf s'.events id =
        eventsOf s.events id ++ [s.eventFor t .taskQueued .empty clock.stamped]) ∨
    ∃ t t' event, s.taskOf id = some t ∧ s'.taskOf id = some t' ∧ t.taskId = id ∧
      Move b clock op t t' event ∧
      eventsOf s'.events id = eventsOf s.events id ++ eventOf s t' event clock.stamped := by
  cases h with
  | same => exact Or.inl ⟨rfl, rfl⟩
  | queued request idempotencyKey userId taskId sessionId key fingerprint call fresh =>
    by_cases hid : id = taskId
    · subst hid
      refine Or.inr (Or.inl ⟨?_, request, idempotencyKey, userId, sessionId, key, fingerprint, _,
        call, rfl, ?_, eventsOf_append_self s.events rfl⟩)
      · cases hf : s.taskOf id with
        | none => rfl
        | some t =>
          obtain ⟨row, hrow, _⟩ := taskOf_some hf
          obtain ⟨hm, hk⟩ := lookup_mem hrow
          exact absurd hk (fresh_taskId fresh hm)
      · rw [append_taskOf fresh]
        exact if_pos rfl
    · refine Or.inl ⟨?_, eventsOf_append_ne s.events (Ne.symm hid)⟩
      exact lookup_append_ne (r := Row.ofTask
        (newTask taskId sessionId userId key fingerprint request clock.checked)) (Ne.symm hid)
  | moved row mem t event move =>
    have ht := move_taskId move
    by_cases hid : id = row.taskJson.taskId
    · refine Or.inr (Or.inr ⟨row.taskJson, t, event, ?_, ?_, hid.symm, move, ?_⟩)
      · simp only [Store.taskOf, hid, find_of_mem hs mem, Option.map_some]
      · rw [commit_taskOf hs mem ht]
        exact if_pos hid
      · rw [commit_events, ht]
        exact if_pos hid
    · refine Or.inl ⟨?_, ?_⟩
      · exact commit_find_ne s (ht ▸ hid) event clock.stamped
      · rw [commit_events, ht]
        exact if_neg hid

/-- One call seen from outside: the task under an identifier is untouched,
newly queued, or moved. -/
theorem leaves_task {b : Backend} {clock : Readings} {s s' : Store Req} {op : Op Req}
    (hs : WellFormed s) (h : Leaves b clock s op s') (id : TaskId) :
    s'.taskOf id = s.taskOf id ∨
    (s.taskOf id = none ∧ ∃ request idempotencyKey userId sessionId key fingerprint,
      op = .createTask request idempotencyKey userId id sessionId ∧
      s'.taskOf id =
        some (newTask id sessionId userId key fingerprint request clock.checked)) ∨
    ∃ t t' event, s.taskOf id = some t ∧ s'.taskOf id = some t' ∧ t.taskId = id ∧
      Move b clock op t t' event := by
  rcases leaves_log hs h id with ⟨hid, _⟩ |
    ⟨hnone, request, idempotencyKey, userId, sessionId, key, fingerprint, t, hop, ht, hs', _⟩ |
    ⟨t, t', event, ht, ht', hid, hmove, _⟩
  · exact Or.inl (congrArg (Option.map Row.taskJson) hid)
  · exact Or.inr (Or.inl ⟨hnone, request, idempotencyKey, userId, sessionId, key, fingerprint, hop,
      ht ▸ hs'⟩)
  · exact Or.inr (Or.inr ⟨t, t', event, ht, ht', hid, hmove⟩)

theorem leaves_nextEventId {b : Backend} {clock : Readings} {s s' : Store Req} {op : Op Req}
    (h : Leaves b clock s op s') : s.nextEventId ≤ s'.nextEventId := by
  cases h with
  | same => exact Nat.le_refl _
  | queued request idempotencyKey userId taskId sessionId key fingerprint call fresh =>
    exact Nat.le_succ _
  | moved row mem t event move =>
    cases event with
    | none => exact Nat.le_refl _
    | some event => exact Nat.le_succ _

/-- A finished task makes no further move. -/
theorem move_open {b : Backend} {clock : Readings} {op : Op Req} {t t' : TripPlanningTask Req}
    {event : Option (TaskEventType × EventData)} (h : Move b clock op t t' event) :
    t.terminal = false := by
  have hrunning : t.status = .running → t.terminal = false := by
    intro hr
    simp only [TripPlanningTask.terminal, hr, TaskStatus.terminal]
  cases h with
  | claim _ w l locked guard =>
    simp only [Row.claimable, Row.ofTask, Bool.and_eq_true, Bool.or_eq_true] at guard
    obtain (hq | hq) | hq := guard.2
    · simp only [TripPlanningTask.terminal, of_decide_eq_true hq, TaskStatus.terminal]
    · simp only [TripPlanningTask.terminal, of_decide_eq_true hq, TaskStatus.terminal]
    · exact hrunning (of_decide_eq_true hq.1)
  | progress _ w p guard => exact hrunning ((hasValidLease_iff _ _ _).mp guard).1
  | renew _ w l guard =>
    cases b with
    | mysql => exact hrunning ((hasValidLease_iff _ _ _).mp guard).1
    | sqlite => exact hrunning guard.1
  | cancel _ u heartbeatAt guard => exact guard
  | finish _ _ w e call guard owner => exact guard

theorem ending_cases {op : Op Req} {id : TaskId} {w : WorkerId} {e : Ending}
    (h : op.ending = some (id, w, e)) :
    (∃ sessionId, e = succeeded sessionId) ∨ (∃ message, e = cancelled message) ∨
      ∃ report timedOut, e = failed report timedOut := by
  cases op with
  | markSucceeded id' w' sessionId =>
    cases h
    exact Or.inl ⟨sessionId, rfl⟩
  | markFailed id' w' report timedOut =>
    cases h
    exact Or.inr (Or.inr ⟨report, timedOut, rfl⟩)
  | markCancelled id' w' message =>
    cases h
    exact Or.inr (Or.inl ⟨message, rfl⟩)
  | _ => cases h

theorem ending_terminal {op : Op Req} {id : TaskId} {w : WorkerId} {e : Ending}
    (h : op.ending = some (id, w, e)) : e.status.terminal = true := by
  obtain ⟨_, rfl⟩ | ⟨_, rfl⟩ | ⟨report, timedOut, rfl⟩ := ending_cases h
  · rfl
  · rfl
  · cases timedOut <;> rfl

theorem ending_event {op : Op Req} {id : TaskId} {w : WorkerId} {e : Ending}
    (h : op.ending = some (id, w, e)) : e.eventType.terminal = true := by
  obtain ⟨_, rfl⟩ | ⟨_, rfl⟩ | ⟨report, timedOut, rfl⟩ := ending_cases h
  · rfl
  · rfl
  · cases timedOut <;> rfl

/-- A move that finishes the task logs a closing event. -/
theorem move_closing {b : Backend} {clock : Readings} {op : Op Req} {t t' : TripPlanningTask Req}
    {event : Option (TaskEventType × EventData)} (h : Move b clock op t t' event)
    (ht : t'.terminal = true) : ∃ e, event = some e ∧ e.1.terminal = true := by
  have hopen := move_open h
  cases h with
  | claim _ w l locked guard => cases ht
  | progress _ w p guard =>
    have hsame : t.terminal = true := ht
    rw [hopen] at hsame
    cases hsame
  | renew _ w l guard =>
    have hsame : t.terminal = true := ht
    rw [hopen] at hsame
    cases hsame
  | cancel _ u heartbeatAt guard =>
    refine ⟨_, rfl, ?_⟩
    simp only [TripPlanningTask.terminal, TripPlanningTask.stamp,
      TripPlanningTask.cancelMarked] at ht hopen
    simp only [TripPlanningTask.cancelEvent]
    cases hs : t.status <;> simp_all [TaskStatus.terminal, TaskEventType.terminal]
  | finish _ _ w e call guard owner => exact ⟨_, rfl, ending_event call⟩

end TravelAgent.TaskView

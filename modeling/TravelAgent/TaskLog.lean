import TravelAgent.Cursors
import TravelAgent.TaskLedger

namespace TravelAgent.TaskLog

open TravelAgent.Leasing TravelAgent.Rows TravelAgent.TaskRecord TravelAgent.TaskStore
open TravelAgent.TaskOps TravelAgent.TaskMoves TravelAgent.TaskView TravelAgent.TaskLedger
open TravelAgent.Cursors (pairwise_concat)
open TravelAgent.MysqlTaskStore (Codec)

variable {Req : Type}

/-- The store after a sequence of calls under arbitrary clock readings. -/
def replay (b : Backend) (c : Codec Req) (s : Store Req) (calls : List (Call Req)) : Store Req :=
  calls.foldl (fun s call => (exec b c s call.op call.clock).2) s

/-- What `TaskExecutionContext` promises: progress is reported under the name of
an action event, never under that of a closing event. -/
def reportsAction : Op Req → Bool
  | .recordProgress _ _ p => !p.eventType.terminal
  | _ => true

def Rises (e f : TaskEvent) : Prop :=
  e.progressPercent ≤ f.progressPercent ∧ e.currentStep ≤ f.currentStep

/-- The event repeats the figures of the task. -/
def Records (e : TaskEvent) (t : TripPlanningTask Req) : Prop :=
  e.progressPercent = t.progressPercent ∧ e.currentStep = t.currentStep

structure Chronicle (s : Store Req) (id : TaskId) : Prop where
  silent : s.taskOf id = none → eventsOf s.events id = []
  rising : (eventsOf s.events id).Pairwise Rises
  current : ∀ t, s.taskOf id = some t → ∃ e, (eventsOf s.events id).getLast? = some e ∧ Records e t
  bounded : ∀ t, s.taskOf id = some t → t.terminal = false → t.progressPercent ≤ 99

/-- An open task has logged no closing event, a finished one exactly one, at the end. -/
structure Closure (s : Store Req) (id : TaskId) : Prop where
  silent : s.taskOf id = none → eventsOf s.events id = []
  unclosed : ∀ t, s.taskOf id = some t → t.terminal = false →
    ∀ e ∈ eventsOf s.events id, e.eventType.terminal = false
  closed : ∀ t, s.taskOf id = some t → t.terminal = true →
    ∃ early last, eventsOf s.events id = early ++ [last] ∧ last.eventType.terminal = true ∧
      ∀ e ∈ early, e.eventType.terminal = false

theorem replay_invariant {b : Backend} {c : Codec Req} {P : Store Req → Prop}
    {Q : Call Req → Prop}
    (hstep : ∀ s call, P s → Q call → P (exec b c s call.op call.clock).2)
    {s : Store Req} (hs : P s) {calls : List (Call Req)} (hok : ∀ call ∈ calls, Q call) :
    P (replay b c s calls) := by
  induction calls generalizing s with
  | nil => exact hs
  | cons call calls ih =>
    refine ih (hstep s call hs (hok call List.mem_cons_self)) ?_
    intro call' h
    exact hok call' (List.mem_cons_of_mem call h)

theorem replay_wellFormed {b : Backend} {c : Codec Req} {s : Store Req} (hs : WellFormed s)
    (calls : List (Call Req)) : WellFormed (replay b c s calls) := by
  refine replay_invariant (Q := fun _ => True) ?_ hs (fun _ _ => trivial)
  intro s call hs _
  exact exec_wellFormed b c hs call.op call.clock

/-- No call touches the row or the log of a finished task. -/
theorem exec_finished {b : Backend} {c : Codec Req} {s : Store Req} (hs : WellFormed s)
    (call : Call Req) {id : TaskId} {t : TripPlanningTask Req} (ht : s.taskOf id = some t)
    (hterm : t.terminal = true) :
    (exec b c s call.op call.clock).2.find id = s.find id ∧
      eventsOf (exec b c s call.op call.clock).2.events id = eventsOf s.events id := by
  rcases leaves_log hs (exec_leaves b c hs call.op call.clock) id with h | ⟨hnone, _⟩ |
    ⟨q, q', event, hq, _, _, hmove, _⟩
  · exact h
  · cases hnone.symm.trans ht
  · cases hq.symm.trans ht
    cases (move_open hmove).symm.trans hterm

theorem replay_finished {b : Backend} {c : Codec Req} {s : Store Req} (hs : WellFormed s)
    {id : TaskId} {t : TripPlanningTask Req} (ht : s.taskOf id = some t)
    (hterm : t.terminal = true) (more : List (Call Req)) :
    (replay b c s more).find id = s.find id ∧
      eventsOf (replay b c s more).events id = eventsOf s.events id := by
  induction more generalizing s with
  | nil => exact ⟨rfl, rfl⟩
  | cons call more ih =>
    obtain ⟨hrow, hlog⟩ := exec_finished (b := b) (c := c) hs call ht hterm
    have ht' : (exec b c s call.op call.clock).2.taskOf id = some t := by
      rw [Store.taskOf, hrow]
      exact ht
    obtain ⟨hrow', hlog'⟩ := ih (exec_wellFormed b c hs call.op call.clock) ht'
    exact ⟨hrow'.trans hrow, hlog'.trans hlog⟩

theorem ended_progress {op : Op Req} {t : TripPlanningTask Req} {w : WorkerId} {e : Ending}
    (h : op.ending = some (t.taskId, w, e)) (hb : t.progressPercent ≤ 99) (now : Time) :
    t.progressPercent ≤ (t.ended e now).progressPercent := by
  obtain ⟨_, rfl⟩ | ⟨_, rfl⟩ | ⟨report, timedOut, rfl⟩ := ending_cases h
  · exact le_trans hb (show (99 : Rat) ≤ 100 by decide)
  · exact le_refl _
  · exact le_refl _

/-- A move never takes progress back, and only the end of a task passes 99. -/
theorem move_progress {b : Backend} {clock : Readings} {op : Op Req} {t t' : TripPlanningTask Req}
    {event : Option (TaskEventType × EventData)} (h : Move b clock op t t' event)
    (hb : t.progressPercent ≤ 99) :
    t.progressPercent ≤ t'.progressPercent ∧ t.currentStep ≤ t'.currentStep ∧
      (t'.terminal = false → t'.progressPercent ≤ 99) ∧
      (event = none → t'.progressPercent = t.progressPercent ∧ t'.currentStep = t.currentStep) := by
  have hopen := move_open h
  cases h with
  | claim _ w l locked guard =>
    refine ⟨le_max_left _ _, Nat.le_refl _, ?_, (by rintro ⟨⟩)⟩
    intro _
    exact max_le hb (by decide)
  | progress _ w p guard =>
    refine ⟨le_max_left _ _, Nat.le_max_left _ _, ?_, (by rintro ⟨⟩)⟩
    intro _
    exact max_le hb (min_le_left _ _)
  | renew _ w l guard => exact ⟨le_refl _, Nat.le_refl _, fun _ => hb, fun _ => ⟨rfl, rfl⟩⟩
  | cancel _ u heartbeatAt guard =>
    have hsame : (t.cancelMarked clock.checked heartbeatAt).progressPercent = t.progressPercent ∧
        (t.cancelMarked clock.checked heartbeatAt).currentStep = t.currentStep := by
      simp only [TripPlanningTask.cancelMarked]
      split <;> exact ⟨rfl, rfl⟩
    refine ⟨le_of_eq hsame.1.symm, Nat.le_of_eq hsame.2.symm, ?_, (by rintro ⟨⟩)⟩
    intro _
    exact hsame.1.trans_le hb
  | finish _ _ w e call guard owner =>
    have hterm : ((t.ended e clock.checked).stamp clock.stamped).terminal = true :=
      ending_terminal call
    refine ⟨?_, Nat.le_refl _, ?_, (by rintro ⟨⟩)⟩
    · exact ended_progress call hb clock.checked
    · intro hf
      cases hf.symm.trans hterm

theorem rises_trans (x y z : TaskEvent) (hxy : Rises x y) (hyz : Rises y z) : Rises x z :=
  ⟨le_trans hxy.1 hyz.1, Nat.le_trans hxy.2 hyz.2⟩

theorem exec_chronicle {b : Backend} {c : Codec Req} {s : Store Req} (hs : WellFormed s)
    (call : Call Req) {id : TaskId} (h : Chronicle s id) :
    Chronicle (exec b c s call.op call.clock).2 id := by
  rcases leaves_log hs (exec_leaves b c hs call.op call.clock) id with ⟨hrow, hlog⟩ |
    ⟨hnone, _, _, _, _, _, _, t, _, rfl, ht, hlog⟩ | ⟨t, t', event, ht, ht', _, hmove, hlog⟩
  · have htask : (exec b c s call.op call.clock).2.taskOf id = s.taskOf id :=
      congrArg (Option.map Row.taskJson) hrow
    exact ⟨by rw [htask, hlog]; exact h.silent, by rw [hlog]; exact h.rising,
      by rw [htask, hlog]; exact h.current, by rw [htask]; exact h.bounded⟩
  · rw [h.silent hnone, List.nil_append] at hlog
    refine ⟨?_, ?_, ?_, ?_⟩
    · intro hno
      cases hno.symm.trans ht
    · rw [hlog]
      exact List.pairwise_singleton _ _
    · intro q hq
      cases ht.symm.trans hq
      rw [hlog]
      exact ⟨_, rfl, rfl, rfl⟩
    · intro q hq _
      cases ht.symm.trans hq
      exact show (0 : Rat) ≤ 99 by decide
  · obtain ⟨e, hlast, hrec⟩ := h.current t ht
    obtain ⟨hp, hstep, hbound, hquiet⟩ := move_progress hmove (h.bounded t ht (move_open hmove))
    refine ⟨?_, ?_, ?_, ?_⟩
    · intro hno
      cases hno.symm.trans ht'
    · rw [hlog]
      cases event with
      | none =>
        rw [eventOf, Option.map_none, Option.toList_none, List.append_nil]
        exact h.rising
      | some event =>
        refine pairwise_concat rises_trans h.rising ?_
        intro e' he'
        cases hlast.symm.trans he'
        exact ⟨hrec.1.trans_le hp, Nat.le_trans (Nat.le_of_eq hrec.2) hstep⟩
    · intro q hq
      cases ht'.symm.trans hq
      rw [hlog]
      cases event with
      | none =>
        rw [eventOf, Option.map_none, Option.toList_none, List.append_nil]
        obtain ⟨hsp, hss⟩ := hquiet rfl
        exact ⟨e, hlast, hrec.1.trans hsp.symm, hrec.2.trans hss.symm⟩
      | some event => exact ⟨_, List.getLast?_concat, rfl, rfl⟩
    · intro q hq hopen
      cases ht'.symm.trans hq
      exact hbound hopen

theorem move_unclosed {b : Backend} {clock : Readings} {op : Op Req} {t t' : TripPlanningTask Req}
    {event : Option (TaskEventType × EventData)} (h : Move b clock op t t' event)
    (hr : reportsAction op = true) (hopen : t'.terminal = false) {e : TaskEventType × EventData}
    (he : event = some e) : e.1.terminal = false := by
  cases h with
  | claim _ w l locked guard =>
    cases he
    simp only [TripPlanningTask.claimEvent]
    split <;> rfl
  | progress _ w p guard =>
    cases he
    simpa [reportsAction] using hr
  | renew _ w l guard => cases he
  | cancel _ u heartbeatAt guard =>
    cases he
    simp only [TripPlanningTask.terminal, TripPlanningTask.stamp,
      TripPlanningTask.cancelMarked] at hopen
    simp only [TripPlanningTask.cancelEvent]
    cases hs : t.status <;> simp_all [TaskStatus.terminal, TaskEventType.terminal]
  | finish _ _ w e' call guard owner =>
    have hterm : ((t.ended e' clock.checked).stamp clock.stamped).terminal = true :=
      ending_terminal call
    cases hopen.symm.trans hterm

theorem exec_closure {b : Backend} {c : Codec Req} {s : Store Req} (hs : WellFormed s)
    (call : Call Req) (hr : reportsAction call.op = true) {id : TaskId} (h : Closure s id) :
    Closure (exec b c s call.op call.clock).2 id := by
  rcases leaves_log hs (exec_leaves b c hs call.op call.clock) id with ⟨hrow, hlog⟩ |
    ⟨hnone, _, _, _, _, _, _, t, _, rfl, ht, hlog⟩ | ⟨t, t', event, ht, ht', _, hmove, hlog⟩
  · have htask : (exec b c s call.op call.clock).2.taskOf id = s.taskOf id :=
      congrArg (Option.map Row.taskJson) hrow
    exact ⟨by rw [htask, hlog]; exact h.silent, by rw [htask, hlog]; exact h.unclosed,
      by rw [htask, hlog]; exact h.closed⟩
  · rw [h.silent hnone, List.nil_append] at hlog
    refine ⟨?_, ?_, ?_⟩
    · intro hno
      cases hno.symm.trans ht
    · intro q _ _ e he
      rw [hlog, List.mem_singleton] at he
      subst he
      rfl
    · intro q hq hterm
      cases ht.symm.trans hq
      cases hterm
  · have hold := h.unclosed t ht (move_open hmove)
    refine ⟨?_, ?_, ?_⟩
    · intro hno
      cases hno.symm.trans ht'
    · intro q hq hopen e he
      cases ht'.symm.trans hq
      rw [hlog] at he
      obtain he | he := List.mem_append.mp he
      · exact hold e he
      · cases event with
        | none => cases he
        | some event =>
          rw [eventOf, Option.map_some, Option.toList_some, List.mem_singleton] at he
          subst he
          exact move_unclosed hmove hr hopen rfl
    · intro q hq hterm
      cases ht'.symm.trans hq
      obtain ⟨event, rfl, hevent⟩ := move_closing hmove hterm
      exact ⟨_, _, hlog, hevent, hold⟩

theorem empty_chronicle (id : TaskId) : Chronicle (Store.empty : Store Req) id := by
  have hnone : (Store.empty : Store Req).taskOf id = none := rfl
  refine ⟨fun _ => rfl, List.Pairwise.nil, ?_, ?_⟩
  · intro t ht
    cases hnone.symm.trans ht
  · intro t ht
    cases hnone.symm.trans ht

theorem empty_closure (id : TaskId) : Closure (Store.empty : Store Req) id := by
  have hnone : (Store.empty : Store Req).taskOf id = none := rfl
  refine ⟨fun _ => rfl, ?_, ?_⟩
  · intro t ht
    cases hnone.symm.trans ht
  · intro t ht
    cases hnone.symm.trans ht

/-- Along every sequence of calls: a finished task keeps its row and its log
through whatever follows; the events of a task rise in their identifiers,
their progress and their step, and the row shows the figures of the last one;
and the log of a finished task ends with its one closing event. -/
theorem task_log_lifecycle (b : Backend) (c : Codec Req) (calls : List (Call Req)) (id : TaskId) :
    (∀ t more, (replay b c Store.empty calls).taskOf id = some t → t.terminal = true →
      (replay b c (replay b c Store.empty calls) more).find id =
          (replay b c Store.empty calls).find id ∧
        eventsOf (replay b c (replay b c Store.empty calls) more).events id =
          eventsOf (replay b c Store.empty calls).events id) ∧
    (eventsOf (replay b c Store.empty calls).events id).Pairwise (fun e f =>
      e.eventId < f.eventId ∧ Rises e f) ∧
    (∀ t, (replay b c Store.empty calls).taskOf id = some t →
      ∃ e, (eventsOf (replay b c Store.empty calls).events id).getLast? = some e ∧ Records e t) ∧
    ((∀ call ∈ calls, reportsAction call.op = true) →
      ∀ t, (replay b c Store.empty calls).taskOf id = some t → t.terminal = true →
        ∃ early last, eventsOf (replay b c Store.empty calls).events id = early ++ [last] ∧
          last.eventType.terminal = true ∧ ∀ e ∈ early, e.eventType.terminal = false) := by
  have hw : WellFormed (replay b c (Store.empty : Store Req) calls) :=
    replay_wellFormed empty_wellFormed calls
  have hlog : WellFormed (replay b c (Store.empty : Store Req) calls) ∧
      Chronicle (replay b c Store.empty calls) id := by
    refine replay_invariant (P := fun s => WellFormed s ∧ Chronicle s id) (Q := fun _ => True) ?_
      ⟨empty_wellFormed, empty_chronicle id⟩ (fun _ _ => trivial)
    intro s call hs _
    exact ⟨exec_wellFormed b c hs.1 call.op call.clock, exec_chronicle hs.1 call hs.2⟩
  refine ⟨?_, ?_, hlog.2.current, ?_⟩
  · intro t more ht hterm
    exact replay_finished hw ht hterm more
  · exact List.Pairwise.and (List.Pairwise.filter _ hw.ordered) hlog.2.rising
  · intro hok
    have hclosure := replay_invariant (P := fun s => WellFormed s ∧ Closure s id)
      (b := b) (c := c) (Q := fun call => reportsAction call.op = true) ?_
      ⟨empty_wellFormed, empty_closure id⟩ hok
    · exact hclosure.2.closed
    · intro s call hs hr
      exact ⟨exec_wellFormed b c hs.1 call.op call.clock, exec_closure hs.1 call hr hs.2⟩

def readingsAt (now : Time) : Readings := ⟨now, now, now⟩

def actionReport (percent : Rat) (step : Nat) : Progress :=
  ⟨.actionStarted, "generate_plan", "生成行程", percent, step, 24, "正在执行", none, []⟩

/-- A worker crashes after its report, another one recovers the task, starts
from an earlier step and brings it to its end. -/
def recoveredRun : List (Call Unit) :=
  [⟨.createTask () "k" none "t1" "s1", readingsAt 0⟩, ⟨.claimNext "w1" 1000000 [], readingsAt 1⟩,
    ⟨.recordProgress "t1" "w1" (actionReport 60 5), readingsAt 2⟩,
    ⟨.claimNext "w2" 1000000 [], readingsAt 2000000⟩,
    ⟨.recordProgress "t1" "w2" (actionReport 10 1), readingsAt 2000001⟩,
    ⟨.markSucceeded "t1" "w2" "s1", readingsAt 2000002⟩]

theorem recovered_task_closes_once :
    ∃ early last, eventsOf (replay .mysql plainCodec Store.empty recoveredRun).events "t1" =
      early ++ [last] ∧ last.eventType.terminal = true ∧
        ∀ e ∈ early, e.eventType.terminal = false := by
  have h : ((replay .mysql plainCodec Store.empty recoveredRun).taskOf "t1").any
      (fun t => t.terminal) = true := by
    decide +kernel
  have hok : ∀ call ∈ recoveredRun, reportsAction call.op = true := by
    decide +kernel
  obtain ⟨t, ht, hterm⟩ := (Option.any_eq_true _ _).mp h
  exact (task_log_lifecycle .mysql plainCodec recoveredRun "t1").2.2.2 hok t ht hterm

end TravelAgent.TaskLog

import Mathlib
import TravelAgent.NotificationDelivery
import TravelAgent.TaskLedger

namespace TravelAgent.CancelSignals

open TravelAgent.MysqlTaskStore (Codec)
open TravelAgent.NotificationDelivery (Config System Trusted plainConfig)
open TravelAgent.Rows TravelAgent.TaskLedger TravelAgent.TaskMoves TravelAgent.TaskOps
open TravelAgent.TaskRecord TravelAgent.TaskStore TravelAgent.TaskView TravelAgent.Transition
open TravelAgent.Leasing (Time)
open TravelAgent.TaskWake (TaskWakeCoordinator)

/-- The task store, the buses of all processes, and the requests that were committed and are still
to be published. -/
structure World (Req P : Type) where
  ledger : Ledger Req
  net : System P
  committed : List (P × TaskId)

inductive Action (Req P : Type)
  | store (call : Call Req)
  -- `NotifyingTripTaskStore.request_cancel` until its commit
  | requestCancel (p : P) (id : TaskId) (userId : Option UserId) (clock : Readings)
  -- and its publication, which may never come
  | publishCancellation (i : ℕ) (w : NotificationDelivery.World P)
  | net (a : NotificationDelivery.Action P)

section Steps

variable {Req P : Type} [DecidableEq P]

/-- Is the task that `request_cancel` returns to be cancelled? -/
def toPublish : Except StoreError (Answer Req) → Bool
  | .ok (.task t) => t.cancelRequested
  | _ => false

/-- Nobody else publishes a cancellation. -/
def publishesCancellation : NotificationDelivery.Action P → Bool
  | .publish _ (.cancellation _) _ => true
  | _ => false

def step (b : Backend) (c : Codec Req) (config : Config) (x : World Req P) :
    Action Req P → Option (World Req P)
  | .store call => (TaskLedger.step b c x.ledger call).map fun g => { x with ledger := g }
  | .requestCancel p id userId clock =>
    (TaskLedger.step b c x.ledger ⟨.requestCancel id userId, clock⟩).map fun g =>
      { x with
        ledger := g
        committed :=
          if toPublish (exec b c x.ledger.store (.requestCancel id userId) clock).1 then
            (p, id) :: x.committed
          else x.committed }
  | .publishCancellation i w =>
    x.committed[i]?.map fun request =>
      { x with
        net := NotificationDelivery.publish config x.net request.1 (.cancellation request.2) w
        committed := x.committed.eraseIdx i }
  | .net a =>
    if publishesCancellation a then none
    else (NotificationDelivery.step config x.net a).map fun net => { x with net := net }

def start (maxTrackedTasks : ℤ) (cancellationTtlSeconds : ℚ) : World Req P where
  ledger := Ledger.start
  net := NotificationDelivery.start maxTrackedTasks cancellationTtlSeconds
  committed := []

inductive Outcome
  | failed (e : StoreError)
  | cancelled
  | passed
deriving DecidableEq, Repr

def assertWorkerOwnsTask (b : Backend) (s : Store Req) (id : TaskId) (worker : WorkerId)
    (now : Time) : Except StoreError (TripPlanningTask Req) :=
  match b with
  | .mysql => MysqlTaskStore.assertWorkerOwnsTask s id worker now
  | .sqlite => SqliteTaskStore.assertWorkerOwnsTask s id worker now

def isCancelRequested (b : Backend) (s : Store Req) (id : TaskId) : Except StoreError Bool :=
  match b with
  | .mysql => MysqlTaskStore.isCancelRequested s id
  | .sqlite => SqliteTaskStore.isCancelRequested s id

/-- `TaskExecutionContext.check_cancelled`; a context may be without a bus. -/
def checkCancelled (b : Backend) (s : Store Req) (bus : Option TaskWakeCoordinator) (id : TaskId)
    (worker : WorkerId) (checked : Time) (now : ℚ) : Outcome :=
  match assertWorkerOwnsTask b s id worker checked with
  | .error e => .failed e
  | .ok _ =>
    if bus.any fun c => (c.isCancelSignalled id now).1 then .cancelled
    else
      match isCancelRequested b s id with
      | .error e => .failed e
      | .ok true => .cancelled
      | .ok false => .passed

end Steps

section Proofs

variable {Req P : Type} {b : Backend} {c : Codec Req} {s : Store Req} {g g' : Ledger Req}
  {id : TaskId}

/-- The cancellation of a task is committed. -/
def Flagged (s : Store Req) (id : TaskId) : Prop :=
  ∃ t, s.taskOf id = some t ∧ t.cancelRequested = true

theorem move_flagged {clock : Readings} {op : Op Req} {t t' : TripPlanningTask Req}
    {event : Option (TaskEventType × EventData)} (h : Move b clock op t t' event)
    (ht : t.cancelRequested = true) : t'.cancelRequested = true := by
  cases h with
  | claim _ w l locked guard => exact ht
  | progress _ w p guard => exact ht
  | renew _ w l guard => exact ht
  | cancel _ u heartbeatAt guard =>
    simp only [TripPlanningTask.stamp, TripPlanningTask.cancelMarked]
    split <;> rfl
  | finish _ _ w e call guard owner => exact ht

/-- A cancellation stays committed. -/
theorem step_flagged {call : Call Req} (hg : WellFormed g.store)
    (h : TaskLedger.step b c g call = some g') (hid : Flagged g.store id) :
    Flagged g'.store id := by
  obtain ⟨t, ht, hcancel⟩ := hid
  obtain hsame | ⟨hnone, -⟩ | ⟨u, u', event, hu, hu', -, hmove⟩ := step_task hg h id
  · exact ⟨t, hsame.trans ht, hcancel⟩
  · cases hnone.symm.trans ht
  · obtain rfl := Option.some.inj (hu.symm.trans ht)
    exact ⟨u', hu', move_flagged hmove hcancel⟩

/-- What a verdict on a row answers is what is stored then. -/
theorem cancelVerdict_flagged (hs : WellFormed s) {row : Row Req} (hrow : s.find id = some row)
    {heartbeatAt : Option Time} {clock : Readings}
    (h : toPublish (s.settle clock.stamped (cancelVerdict row.taskJson heartbeatAt clock)).1 = true) :
    Flagged (s.settle clock.stamped (cancelVerdict row.taskJson heartbeatAt clock)).2 id := by
  have htask : s.taskOf id = some row.taskJson := by
    rw [Store.taskOf, hrow]
    rfl
  rw [cancelVerdict] at h ⊢
  by_cases hterminal : row.taskJson.terminal = true
  · rw [if_pos hterminal] at h ⊢
    exact ⟨row.taskJson, htask, h⟩
  · rw [if_neg hterminal] at h ⊢
    refine ⟨_, ?_, h⟩
    have hmem := (lookup_mem hrow).1
    have hmark : ((row.taskJson.cancelMarked clock.checked heartbeatAt).stamp clock.stamped).taskId =
        row.taskJson.taskId := by
      simp only [TripPlanningTask.stamp, TripPlanningTask.cancelMarked]
      split <;> rfl
    exact (commit_taskOf hs hmem hmark _ _ id).trans (if_pos (taskOf_taskId hs htask).symm)

/-- A request that is going to be published is committed. -/
theorem requested_flagged (hs : WellFormed s) {userId : Option UserId} {clock : Readings}
    (h : toPublish (exec b c s (.requestCancel id userId) clock).1 = true) :
    Flagged (exec b c s (.requestCancel id userId) clock).2 id := by
  cases hrow : s.find id with
  | none =>
    cases b with
    | mysql =>
      simp only [exec, execMysql, MysqlTaskStore.requestCancel, Store.onRow, hrow] at h
      cases h
    | sqlite =>
      simp only [exec, execSqlite, SqliteTaskStore.requestCancel, Store.onRow, hrow] at h
      cases h
  | some row =>
    cases b with
    | mysql =>
      simp only [exec, execMysql, MysqlTaskStore.requestCancel, Store.onRow, hrow] at h ⊢
      split at h
      · cases h
      · rename_i hown
        rw [if_neg hown]
        exact cancelVerdict_flagged hs hrow h
    | sqlite =>
      simp only [exec, execSqlite, SqliteTaskStore.requestCancel, Store.onRow, hrow] at h ⊢
      split at h
      · cases h
      · rename_i hown
        rw [if_neg hown]
        exact cancelVerdict_flagged hs hrow h

theorem flagged_polled (hs : WellFormed s) (h : Flagged s id) :
    isCancelRequested b s id = .ok true := by
  obtain ⟨t, ht, hcancel⟩ := h
  obtain ⟨row, hrow, rfl⟩ := taskOf_some ht
  have hcolumn : row.cancelRequested = true := by
    rw [hs.coherent row (lookup_mem hrow).1]
    exact hcancel
  cases b with
  | mysql => simp only [isCancelRequested, MysqlTaskStore.isCancelRequested, hrow, hcolumn,
      Bool.true_or]
  | sqlite => simp only [isCancelRequested, SqliteTaskStore.isCancelRequested, hrow, hcolumn,
      Bool.true_or]

variable [DecidableEq P] {config : Config} {x x' : World Req P}

/-- Whatever is marked, on its way or about to be published is committed. -/
structure Sound (config : Config) (x : World Req P) : Prop where
  store : WellFormed x.ledger.store
  net : Trusted config (Flagged x.ledger.store) x.net
  committed : ∀ request ∈ x.committed, Flagged x.ledger.store request.2

omit [DecidableEq P] in
theorem Sound.advance (h : Sound config x) {call : Call Req}
    (hg : TaskLedger.step b c x.ledger call = some g) :
    Sound config { x with ledger := g } := by
  refine ⟨?_, h.net.mono fun id hid => step_flagged h.store hg hid, fun request hr => ?_⟩
  · rw [(step_some hg).2.2.1]
    exact exec_wellFormed b c h.store call.op call.clock
  · exact step_flagged h.store hg (h.committed request hr)

/-- No message from outside of the deployment reads as a cancellation. -/
def Honest (config : Config) : Action Req P → Prop
  | .net (.foreign _ raw) => ∀ id, NotificationDelivery.reads config raw ≠ some (.cancellation, id)
  | _ => True

omit [DecidableEq P] in
theorem brings_nothing {a : NotificationDelivery.Action P} (ha : publishesCancellation a = false)
    (hhonest : Honest config (.net a : Action Req P)) (id : TaskId) :
    ¬NotificationDelivery.Brings config a id := by
  cases a with
  | publish p what w =>
    cases what with
    | taskAvailable t => rintro ⟨⟨⟩, -⟩
    | taskEvent t eventId eventType => rintro ⟨⟨⟩, -⟩
    | cancellation t => cases ha
  | foreign q raw => exact hhonest id
  | _ => exact not_false

theorem step_sound {a : Action Req P} (h : Sound config x) (hhonest : Honest config a)
    (hs : step b c config x a = some x') : Sound config x' := by
  cases a with
  | store call =>
    obtain ⟨g, hg, rfl⟩ := Option.map_eq_some_iff.mp hs
    exact h.advance hg
  | requestCancel p id userId clock =>
    obtain ⟨g, hg, rfl⟩ := Option.map_eq_some_iff.mp hs
    have hnext := h.advance hg
    refine ⟨hnext.store, hnext.net, fun request hr => ?_⟩
    dsimp only at hr
    by_cases hpublish :
        toPublish (exec b c x.ledger.store (.requestCancel id userId) clock).1 = true
    · rw [if_pos hpublish] at hr
      obtain rfl | hold := List.mem_cons.mp hr
      · rw [(step_some hg).2.2.1]
        exact requested_flagged h.store hpublish
      · exact hnext.committed request hold
    · rw [if_neg hpublish] at hr
      exact hnext.committed request hr
  | publishCancellation i w =>
    obtain ⟨request, hi, rfl⟩ := Option.map_eq_some_iff.mp hs
    have hflagged := h.committed request (List.mem_of_getElem? hi)
    exact ⟨h.store, NotificationDelivery.publish_trusted h.net request.1 _ w fun _ => hflagged,
      fun r hr => h.committed r (List.mem_of_mem_eraseIdx hr)⟩
  | net a =>
    rw [step] at hs
    by_cases ha : publishesCancellation a = true
    · rw [if_pos ha] at hs
      cases hs
    · rw [if_neg ha] at hs
      obtain ⟨net, hnet, rfl⟩ := Option.map_eq_some_iff.mp hs
      have hbrings := brings_nothing (Bool.eq_false_of_not_eq_true ha) hhonest
      exact ⟨h.store, NotificationDelivery.step_trusted h.net
        (fun id hid => absurd hid (hbrings id)) hnet, h.committed⟩

omit [DecidableEq P] in
theorem start_sound (maxTrackedTasks : ℤ) (cancellationTtlSeconds : ℚ) :
    Sound config (start maxTrackedTasks cancellationTtlSeconds : World Req P) :=
  ⟨empty_wellFormed, NotificationDelivery.trusted_start _ _,
    fun _ hr => absurd hr List.not_mem_nil⟩

theorem signalled_marked {w : TaskWakeCoordinator} {now : ℚ}
    (h : (w.isCancelSignalled id now).1 = true) : id ∈ NotificationDelivery.marks w := by
  rw [TaskWakeCoordinator.isCancelSignalled] at h
  refine NotificationDelivery.marks_pruned w now ?_
  by_contra hid
  rw [OrderedDicts.get_eq_none.mpr hid] at h
  cases h

/-- In every interleaving of the store's calls with publications, deliveries and losses in all
processes, the check for a cancellation comes out with the signals of a bus as it does without a
bus: a signal is never ahead of the commit. -/
theorem fast_path_agrees (b : Backend) (c : Codec Req) (config : Config) (maxTrackedTasks : ℤ)
    (cancellationTtlSeconds : ℚ) (actions : List (Action Req P)) (x : World Req P)
    (hhonest : ∀ a ∈ actions, Honest config a)
    (h : run (step b c config) (start maxTrackedTasks cancellationTtlSeconds) actions = some x)
    (q : P) (id : TaskId) (worker : WorkerId) (checked : Time) (now : ℚ) :
    checkCancelled b x.ledger.store (some (x.net.bus q).coordinator) id worker checked now =
      checkCancelled b x.ledger.store none id worker checked now := by
  have hsound : Sound config x :=
    run_invariant_along (P := Sound config) (fun _ _ _ hx hok hs => step_sound hx hok hs)
      (start_sound maxTrackedTasks cancellationTtlSeconds)
      (Interleaving.along_of_mem (fun a ha _ => hhonest a ha) _) h
  rw [checkCancelled, checkCancelled]
  cases assertWorkerOwnsTask b x.ledger.store id worker checked with
  | error e => rfl
  | ok t =>
    by_cases hsignal : ((x.net.bus q).coordinator.isCancelSignalled id now).1 = true
    · have hflagged := hsound.net.marked q id (signalled_marked hsignal)
      simp only [Option.any_some, hsignal, if_true, Option.any_none, Bool.false_eq_true, if_false,
        flagged_polled hsound.store hflagged]
    · simp only [Option.any_some, hsignal, Option.any_none]

end Proofs

section Instances

/-- Redis is away while one process publishes. -/
def alone : NotificationDelivery.World Bool := ⟨⟨1, 1⟩, 0, 990, .bypassed, [], List.nodup_nil⟩

/-- A task is cancelled while it runs, and its cancellation is published. -/
def cancelledTrip : List (Action Unit Bool) :=
  [.store ⟨.createTask () "key" none "t1" "s1", ⟨0, 0, 0⟩⟩,
    .store ⟨.claimNext "w1" 60000000 [], ⟨1, 1, 1⟩⟩, .requestCancel true "t1" none ⟨2, 2, 2⟩,
    .publishCancellation 0 alone]

theorem cancelledTrip_agrees : ∃ x : World Unit Bool,
    run (step .mysql plainCodec plainConfig) (start 100 3600) cancelledTrip = some x ∧
      checkCancelled .mysql x.ledger.store (some (x.net.bus true).coordinator) "t1" "w1" 3 2 =
        checkCancelled .mysql x.ledger.store none "t1" "w1" 3 2 := by
  have hhonest : ∀ a ∈ cancelledTrip, Honest plainConfig a := by
    intro a ha
    simp only [cancelledTrip, List.mem_cons, List.not_mem_nil, or_false] at ha
    obtain rfl | rfl | rfl | rfl := ha <;> trivial
  obtain ⟨x, hx⟩ := Option.isSome_iff_exists.mp (show
    (run (step .mysql plainCodec plainConfig) (start 100 3600) cancelledTrip).isSome = true from rfl)
  exact ⟨x, hx, fast_path_agrees .mysql plainCodec plainConfig 100 3600 cancelledTrip x hhonest hx
    true "t1" "w1" 3 2⟩

end Instances

end TravelAgent.CancelSignals

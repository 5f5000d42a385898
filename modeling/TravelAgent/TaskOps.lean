import TravelAgent.MysqlTaskStore
import TravelAgent.SqliteTaskStore

namespace TravelAgent.TaskOps

open TravelAgent.Leasing TravelAgent.Rows TravelAgent.TaskRecord TravelAgent.TaskStore
open TravelAgent.MysqlTaskStore (Codec)

/-- A call on the task store with its arguments. A creating call brings the
identifiers it would draw, a polling claim the rows that others hold locked. -/
inductive Op (Req : Type)
  | createTask (request : Req) (idempotencyKey : String) (userId : Option UserId)
      (taskId sessionId : String)
  | claimNext (worker : WorkerId) (leaseSeconds : Time) (locked : List TaskId)
  | recordProgress (id : TaskId) (worker : WorkerId) (p : Progress)
  | heartbeat (id : TaskId) (worker : WorkerId) (leaseSeconds : Time)
  | requestCancel (id : TaskId) (userId : Option UserId)
  | markSucceeded (id : TaskId) (worker : WorkerId) (sessionId : String)
  | markFailed (id : TaskId) (worker : WorkerId) (report : TaskFailureReport) (timedOut : Bool)
  | markCancelled (id : TaskId) (worker : WorkerId) (message : String)
  | assertWorkerOwnsTask (id : TaskId) (worker : WorkerId)
deriving DecidableEq, Repr

inductive Backend
  | mysql | sqlite
deriving DecidableEq, Repr

variable {Req : Type}

def execMysql (c : Codec Req) (s : Store Req) (clock : Readings) :
    Op Req → Except StoreError (Answer Req) × Store Req
  | .createTask request key userId taskId sessionId =>
    MysqlTaskStore.createTask c s request key userId taskId sessionId clock
  | .claimNext worker leaseSeconds locked =>
    s.settle clock.stamped (MysqlTaskStore.claimNext s worker leaseSeconds locked clock)
  | .recordProgress id worker p =>
    s.settle clock.stamped (MysqlTaskStore.recordProgress s id worker p clock)
  | .heartbeat id worker leaseSeconds =>
    s.settle clock.stamped (MysqlTaskStore.heartbeat s id worker leaseSeconds clock)
  | .requestCancel id userId =>
    s.settle clock.stamped (MysqlTaskStore.requestCancel s id userId clock)
  | .markSucceeded id worker sessionId =>
    s.settle clock.stamped (MysqlTaskStore.markTerminal s id worker (succeeded sessionId) clock)
  | .markFailed id worker report timedOut =>
    s.settle clock.stamped (MysqlTaskStore.markTerminal s id worker (failed report timedOut) clock)
  | .markCancelled id worker message =>
    s.settle clock.stamped (MysqlTaskStore.markTerminal s id worker (cancelled message) clock)
  | .assertWorkerOwnsTask id worker =>
    ((MysqlTaskStore.assertWorkerOwnsTask s id worker clock.checked).map .task, s)

def execSqlite (c : Codec Req) (s : Store Req) (clock : Readings) :
    Op Req → Except StoreError (Answer Req) × Store Req
  | .createTask request key userId taskId sessionId =>
    SqliteTaskStore.createTask c.requestFingerprint s request key userId taskId sessionId clock
  | .claimNext worker leaseSeconds _ => SqliteTaskStore.claimNext s worker leaseSeconds clock
  | .recordProgress id worker p =>
    s.settle clock.stamped (SqliteTaskStore.recordProgress s id worker p clock)
  | .heartbeat id worker leaseSeconds =>
    s.settle clock.stamped (SqliteTaskStore.heartbeat s id worker leaseSeconds clock)
  | .requestCancel id userId =>
    s.settle clock.stamped (SqliteTaskStore.requestCancel s id userId clock)
  | .markSucceeded id worker sessionId =>
    s.settle clock.stamped (SqliteTaskStore.markTerminal s id worker (succeeded sessionId) clock)
  | .markFailed id worker report timedOut =>
    s.settle clock.stamped (SqliteTaskStore.markTerminal s id worker (failed report timedOut) clock)
  | .markCancelled id worker message =>
    s.settle clock.stamped (SqliteTaskStore.markTerminal s id worker (cancelled message) clock)
  | .assertWorkerOwnsTask id worker =>
    ((SqliteTaskStore.assertWorkerOwnsTask s id worker clock.checked).map .task, s)

def exec (b : Backend) (c : Codec Req) (s : Store Req) (op : Op Req) (clock : Readings) :
    Except StoreError (Answer Req) × Store Req :=
  match b with
  | .mysql => execMysql c s clock op
  | .sqlite => execSqlite c s clock op

/-- The guard under which a backend lets a worker renew its lease. -/
def Backend.mayRenew (b : Backend) (t : TripPlanningTask Req) (w : WorkerId) (now : Time) : Prop :=
  match b with
  | .mysql => t.hasValidLease w now = true
  | .sqlite => t.status = .running ∧ t.workerId = some w

/-- The guard under which a backend lets a worker end a task. -/
def Backend.mayEnd (b : Backend) (t : TripPlanningTask Req) (w : WorkerId) (now : Time) : Prop :=
  match b with
  | .mysql => t.hasValidLease w now = true
  | .sqlite => t.workerId = some w

def Op.ending : Op Req → Option (TaskId × WorkerId × Ending)
  | .markSucceeded id worker sessionId => some (id, worker, succeeded sessionId)
  | .markFailed id worker report timedOut => some (id, worker, failed report timedOut)
  | .markCancelled id worker message => some (id, worker, cancelled message)
  | _ => none

/-- Everything a call can do to a stored task, with the guard it passed. -/
inductive Move (b : Backend) (clock : Readings) : Op Req → TripPlanningTask Req →
    TripPlanningTask Req → Option (TaskEventType × EventData) → Prop
  | claim (t : TripPlanningTask Req) (w : WorkerId) (l : Time) (locked : List TaskId)
      (guard : (Row.ofTask t).claimable clock.entered = true) :
      Move b clock (.claimNext w l locked) t ((t.claimed w clock.entered l).stamp clock.stamped)
        (some (t.claimEvent, .claim w (t.attempt + 1)))
  | progress (t : TripPlanningTask Req) (w : WorkerId) (p : Progress)
      (guard : t.hasValidLease w clock.checked = true) :
      Move b clock (.recordProgress t.taskId w p) t ((t.advance p).stamp clock.stamped)
        (some (p.eventType, .progress p.data))
  | renew (t : TripPlanningTask Req) (w : WorkerId) (l : Time)
      (guard : b.mayRenew t w clock.checked) :
      Move b clock (.heartbeat t.taskId w l) t ((t.renewed clock.entered l).stamp clock.stamped) none
  | cancel (t : TripPlanningTask Req) (u : Option UserId) (heartbeatAt : Option Time)
      (guard : t.terminal = false) :
      Move b clock (.requestCancel t.taskId u) t
        ((t.cancelMarked clock.checked heartbeatAt).stamp clock.stamped)
        (some (t.cancelEvent, .empty))
  | finish (op : Op Req) (t : TripPlanningTask Req) (w : WorkerId) (e : Ending)
      (call : op.ending = some (t.taskId, w, e)) (guard : t.terminal = false)
      (owner : b.mayEnd t w clock.checked) :
      Move b clock op t ((t.ended e clock.checked).stamp clock.stamped)
        (some (e.eventType, e.eventData))

/-- The three ways in which a call leaves the store. -/
inductive Leaves (b : Backend) (clock : Readings) (s : Store Req) (op : Op Req) : Store Req → Prop
  | same : Leaves b clock s op s
  | queued (request : Req) (idempotencyKey : String) (userId : Option UserId)
      (taskId sessionId key fingerprint : String)
      (call : op = .createTask request idempotencyKey userId taskId sessionId)
      (fresh : s.holdsKeyOf
        (newTask taskId sessionId userId key fingerprint request clock.checked) = false) :
      Leaves b clock s op (s.appendTask
        (newTask taskId sessionId userId key fingerprint request clock.checked) clock.stamped)
  | moved (row : Row Req) (mem : row ∈ s.rows) (t : TripPlanningTask Req)
      (event : Option (TaskEventType × EventData)) (move : Move b clock op row.taskJson t event) :
      Leaves b clock s op (s.commit t event clock.stamped)

structure WellFormed (s : Store Req) : Prop where
  coherent : ∀ r ∈ s.rows, r = Row.ofTask r.taskJson
  ids : (s.rows.map Row.taskId).Nodup
  sessions : (s.rows.map Row.sessionId).Nodup
  ordered : s.events.Pairwise fun e f => e.eventId < f.eventId
  bounded : ∀ e ∈ s.events, e.eventId < s.nextEventId

end TravelAgent.TaskOps

import TravelAgent.Rows
import TravelAgent.TaskRecord

namespace TravelAgent.TaskStore

open TravelAgent.Leasing TravelAgent.Rows TravelAgent.TaskRecord

inductive ErrorKind
  | valueError | taskIdempotencyConflict | tripTaskNotFound | taskLeaseLost | integrityError
deriving DecidableEq, Repr

structure StoreError where
  kind : ErrorKind
  message : String
deriving DecidableEq, Repr

def leaseLost (worker : WorkerId) (id : TaskId) : StoreError :=
  ⟨.taskLeaseLost, "Worker " ++ worker ++ " 已失去任务 " ++ id ++ " 的有效租约"⟩

def notFound (id : TaskId) : StoreError :=
  ⟨.tripTaskNotFound, "未找到异步旅行规划任务: " ++ id⟩

def bareNotFound (id : TaskId) : StoreError := ⟨.tripTaskNotFound, id⟩

structure TaskEvent where
  eventId : Nat
  taskId : TaskId
  eventType : TaskEventType
  stage : String
  stageName : String
  progressPercent : Rat
  currentStep : Nat
  message : String
  data : EventData
  createdAt : Time
deriving DecidableEq, Repr

/-- One row of `trip_planning_tasks`: the indexed columns beside the snapshot
that `task_json` holds. -/
structure Row (Req : Type) where
  taskId : TaskId
  userId : Option UserId
  sessionId : String
  idempotencyKey : String
  requestFingerprint : String
  status : TaskStatus
  cancelRequested : Bool
  workerId : Option WorkerId
  leaseExpiresAt : Option Time
  heartbeatAt : Option Time
  taskJson : TripPlanningTask Req
  createdAt : Time
  updatedAt : Time
deriving DecidableEq, Repr

structure Store (Req : Type) where
  rows : List (Row Req)
  events : List TaskEvent
  nextEventId : Nat
deriving DecidableEq, Repr

inductive Answer (Req : Type)
  | created (task : TripPlanningTask Req) (reused : Bool)
  | claimed (task : Option (TripPlanningTask Req))
  | task (task : TripPlanningTask Req)
  | flag (value : Bool)
deriving DecidableEq, Repr

/-- What a transaction decides on the row it has locked. -/
inductive Verdict (Req : Type)
  | refuse (error : StoreError)
  | keep (answer : Answer Req)
  | save (task : TripPlanningTask Req) (event : Option (TaskEventType × EventData))
      (answer : Answer Req)

variable {Req : Type}

def Store.empty : Store Req := ⟨[], [], 1⟩

def Row.ofTask (t : TripPlanningTask Req) : Row Req :=
  { taskId := t.taskId
    userId := t.userId
    sessionId := t.sessionId
    idempotencyKey := t.idempotencyKey
    requestFingerprint := t.requestFingerprint
    status := t.status
    cancelRequested := t.cancelRequested
    workerId := t.workerId
    leaseExpiresAt := t.leaseExpiresAt
    heartbeatAt := t.heartbeatAt
    taskJson := t
    createdAt := t.createdAt
    updatedAt := t.updatedAt }

def Row.write (r : Row Req) (t : TripPlanningTask Req) : Row Req :=
  { r with
    status := t.status
    cancelRequested := t.cancelRequested
    workerId := t.workerId
    leaseExpiresAt := t.leaseExpiresAt
    heartbeatAt := t.heartbeatAt
    taskJson := t
    updatedAt := t.updatedAt }

def Store.find (s : Store Req) (id : TaskId) : Option (Row Req) := lookup Row.taskId id s.rows

def Store.taskOf (s : Store Req) (id : TaskId) : Option (TripPlanningTask Req) :=
  (s.find id).map Row.taskJson

def Store.saveTask (s : Store Req) (t : TripPlanningTask Req) : Store Req :=
  { s with rows := updateWhere (fun r => decide (r.taskId = t.taskId)) (fun r => r.write t) s.rows }

def Store.eventFor (s : Store Req) (t : TripPlanningTask Req) (eventType : TaskEventType)
    (data : EventData) (now : Time) : TaskEvent :=
  { eventId := s.nextEventId
    taskId := t.taskId
    eventType := eventType
    stage := t.currentStage
    stageName := t.stageName
    progressPercent := t.progressPercent
    currentStep := t.currentStep
    message := t.message
    data := data
    createdAt := now }

def Store.insertEvent (s : Store Req) (t : TripPlanningTask Req) (eventType : TaskEventType)
    (data : EventData) (now : Time) : Store Req :=
  { s with
    events := s.events ++ [s.eventFor t eventType data now]
    nextEventId := s.nextEventId + 1 }

def eventsOf (events : List TaskEvent) (id : TaskId) : List TaskEvent :=
  events.filter fun e => decide (e.taskId = id)

def Store.commit (s : Store Req) (t : TripPlanningTask Req)
    (event : Option (TaskEventType × EventData)) (now : Time) : Store Req :=
  match event with
  | none => s.saveTask t
  | some (eventType, data) => (s.saveTask t).insertEvent t eventType data now

def Store.settle (s : Store Req) (now : Time) :
    Verdict Req → Except StoreError (Answer Req) × Store Req
  | .refuse error => (.error error, s)
  | .keep answer => (.ok answer, s)
  | .save t event answer => (.ok answer, s.commit t event now)

/-- Lock the row of a task and let the body decide on it. -/
def Store.onRow (s : Store Req) (id : TaskId) (missing : Verdict Req)
    (body : Row Req → Verdict Req) : Verdict Req :=
  match s.find id with
  | none => missing
  | some row => body row

/-- The selection condition of `claim_next`, evaluated on the columns. -/
def Row.claimable (r : Row Req) (now : Time) : Bool :=
  !r.cancelRequested &&
    (decide (r.status = .queued) || decide (r.status = .retrying) ||
      (decide (r.status = .running) && r.leaseExpiresAt.any fun e => decide (e < now)))

def Row.active (r : Row Req) : Bool :=
  decide (r.status = .queued) || decide (r.status = .running) || decide (r.status = .retrying)

def claimVerdict (t : TripPlanningTask Req) (worker : WorkerId) (leaseSeconds : Time)
    (clock : Readings) : Verdict Req :=
  let t' := (t.claimed worker clock.entered leaseSeconds).stamp clock.stamped
  .save t' (some (t.claimEvent, .claim worker t'.attempt)) (.claimed (some t'))

def progressVerdict (t : TripPlanningTask Req) (id : TaskId) (worker : WorkerId) (p : Progress)
    (clock : Readings) : Verdict Req :=
  if t.hasValidLease worker clock.checked then
    let t' := (t.advance p).stamp clock.stamped
    .save t' (some (p.eventType, .progress p.data)) (.task t')
  else .refuse (leaseLost worker id)

def renewVerdict (t : TripPlanningTask Req) (owns : Bool) (leaseSeconds : Time)
    (clock : Readings) : Verdict Req :=
  if owns then
    .save ((t.renewed clock.entered leaseSeconds).stamp clock.stamped) none (.flag true)
  else .keep (.flag false)

def cancelVerdict (t : TripPlanningTask Req) (heartbeatAt : Option Time) (clock : Readings) :
    Verdict Req :=
  if t.terminal then .keep (.task t)
  else
    let t' := (t.cancelMarked clock.checked heartbeatAt).stamp clock.stamped
    .save t' (some (t.cancelEvent, .empty)) (.task t')

/-- An ended task answers every later mark unchanged. -/
def terminalVerdict (t : TripPlanningTask Req) (owns : Bool) (lost : StoreError) (e : Ending)
    (clock : Readings) : Verdict Req :=
  if t.terminal then .keep (.task t)
  else if owns then
    let t' := (t.ended e clock.checked).stamp clock.stamped
    .save t' (some (e.eventType, e.eventData)) (.task t')
  else .refuse lost

/-- Python's `str.isspace` on one character. -/
def pySpace (c : Char) : Bool :=
  let n := c.toNat
  (0x09 ≤ n && n ≤ 0x0D) || (0x1C ≤ n && n ≤ 0x20) || n == 0x85 || n == 0xA0 || n == 0x1680 ||
    (0x2000 ≤ n && n ≤ 0x200A) || n == 0x2028 || n == 0x2029 || n == 0x202F || n == 0x205F ||
    n == 0x3000

/-- `" ".join(key.split())` -/
def joinWords (key : String) : String :=
  " ".intercalate (((key.toList.splitOnP pySpace).filter fun w => !w.isEmpty).map String.ofList)

def normalizeIdempotencyKey (idempotencyKey : String) : Except StoreError String :=
  let key := joinWords idempotencyKey
  if key.isEmpty then .error ⟨.valueError, "Idempotency-Key 不能为空"⟩
  else if 200 < key.length then .error ⟨.valueError, "Idempotency-Key 长度不能超过 200"⟩
  else .ok key

def conflict : StoreError :=
  ⟨.taskIdempotencyConflict, "相同 Idempotency-Key 已用于另一份旅行规划请求"⟩

def Store.appendTask (s : Store Req) (t : TripPlanningTask Req) (now : Time) : Store Req :=
  ({ s with rows := s.rows ++ [Row.ofTask t] }).insertEvent t .taskQueued .empty now

def Store.holdsKeyOf (s : Store Req) (t : TripPlanningTask Req) : Bool :=
  s.rows.any fun r => decide (r.taskId = t.taskId) || decide (r.sessionId = t.sessionId)

/-- A row under the same primary key or session makes the database refuse the insert. -/
def Store.insertTask (s : Store Req) (t : TripPlanningTask Req) (now : Time) :
    Except StoreError (Answer Req) × Store Req :=
  if s.holdsKeyOf t then (.error ⟨.integrityError, "trip_planning_tasks"⟩, s)
  else (.ok (.created t false), s.appendTask t now)

end TravelAgent.TaskStore

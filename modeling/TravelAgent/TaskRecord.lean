import Mathlib
import TravelAgent.Leasing

namespace TravelAgent.TaskRecord

open TravelAgent.Leasing

abbrev TaskId := String
abbrev WorkerId := String
abbrev UserId := String

inductive TaskStatus
  | queued | running | retrying | succeeded | failed | cancelled | timedOut
deriving DecidableEq, Repr

def TaskStatus.terminal : TaskStatus → Bool
  | .succeeded | .failed | .cancelled | .timedOut => true
  | .queued | .running | .retrying => false

inductive TaskEventType
  | taskQueued | taskStarted | taskRecovered | actionStarted | actionCompleted | actionRetrying
  | cancellationRequested | taskSucceeded | taskFailed | taskCancelled | taskTimedOut
deriving DecidableEq, Repr

def TaskEventType.terminal : TaskEventType → Bool
  | .taskSucceeded | .taskFailed | .taskCancelled | .taskTimedOut => true
  | _ => false

structure TaskFailureReport where
  code : String
  message : String
  stage : String
  stageName : String
  action : Option String
  retryable : Bool
  providerCode : Option String
  providerMessage : Option String
  sessionId : String
  currentStep : Nat
  maxSteps : Nat
  exceptionType : String
deriving DecidableEq, Repr

/-- The persisted snapshot of one planning task, as the `task_json` column
holds it. Instants are microseconds. -/
structure TripPlanningTask (Req : Type) where
  taskId : TaskId
  sessionId : String
  userId : Option UserId
  idempotencyKey : String
  requestFingerprint : String
  request : Req
  status : TaskStatus := .queued
  currentStage : String := "queued"
  stageName : String := "等待执行"
  currentAction : Option String := none
  progressPercent : Rat := 0
  currentStep : Nat := 0
  maxSteps : Nat := 0
  attempt : Nat := 0
  recoveryCount : Nat := 0
  message : String := "任务已进入队列"
  cancelRequested : Bool := false
  workerId : Option WorkerId := none
  leaseExpiresAt : Option Time := none
  heartbeatAt : Option Time := none
  resultSessionId : Option String := none
  failureReport : Option TaskFailureReport := none
  createdAt : Time
  startedAt : Option Time := none
  updatedAt : Time
  finishedAt : Option Time := none
deriving DecidableEq, Repr

/-- What `record_progress` is called with. -/
structure Progress where
  eventType : TaskEventType
  stage : String
  stageName : String
  progressPercent : Rat
  currentStep : Nat
  maxSteps : Nat
  message : String
  currentAction : Option String
  data : List (String × String)
deriving DecidableEq, Repr

inductive EventData
  | empty
  | claim (workerId : WorkerId) (attempt : Nat)
  | failure (report : TaskFailureReport)
  | progress (entries : List (String × String))
deriving DecidableEq, Repr

/-- The clock readings of one store call: on entry, at the lease check, and
when the row and its event are stamped. -/
structure Readings where
  entered : Time
  checked : Time
  stamped : Time
deriving DecidableEq, Repr

def Readings.ordered (r : Readings) : Prop := r.entered ≤ r.checked ∧ r.checked ≤ r.stamped

instance (r : Readings) : Decidable r.ordered := inferInstanceAs (Decidable (_ ∧ _))

variable {Req : Type}

def TripPlanningTask.terminal (t : TripPlanningTask Req) : Bool := t.status.terminal

def TripPlanningTask.lease (t : TripPlanningTask Req) : Lease WorkerId := ⟨t.workerId, t.leaseExpiresAt⟩

def TripPlanningTask.hasValidLease (t : TripPlanningTask Req) (worker : WorkerId) (now : Time) :
    Bool :=
  decide (t.status = .running) && t.lease.holds worker now

/-- `max(1.0, lease_seconds)` in microseconds. -/
def leaseSpan (leaseSeconds : Time) : Time := max 1000000 leaseSeconds

def newTask (taskId sessionId : String) (userId : Option UserId) (key fingerprint : String)
    (request : Req) (now : Time) : TripPlanningTask Req :=
  { taskId := taskId
    sessionId := sessionId
    userId := userId
    idempotencyKey := key
    requestFingerprint := fingerprint
    request := request
    createdAt := now
    updatedAt := now }

def TripPlanningTask.stamp (t : TripPlanningTask Req) (now : Time) : TripPlanningTask Req :=
  { t with updatedAt := now }

def TripPlanningTask.advance (t : TripPlanningTask Req) (p : Progress) : TripPlanningTask Req :=
  { t with
    currentStage := p.stage
    stageName := p.stageName
    currentAction := p.currentAction
    progressPercent := max t.progressPercent (min 99 p.progressPercent)
    currentStep := max t.currentStep p.currentStep
    maxSteps := max t.maxSteps p.maxSteps
    message := p.message }

def TripPlanningTask.claimed (t : TripPlanningTask Req) (worker : WorkerId)
    (now leaseSeconds : Time) : TripPlanningTask Req :=
  { t with
    status := .running
    workerId := some worker
    leaseExpiresAt := some (now + leaseSpan leaseSeconds)
    heartbeatAt := some now
    startedAt := some (t.startedAt.getD now)
    attempt := t.attempt + 1
    recoveryCount := if t.status = .running then t.recoveryCount + 1 else t.recoveryCount
    message := if t.status = .running then "检测到过期租约，正在从最近检查点恢复"
      else "后台 Worker 已开始执行"
    currentStage := "running"
    stageName := "准备执行"
    progressPercent := max t.progressPercent 1 }

def TripPlanningTask.claimEvent (t : TripPlanningTask Req) : TaskEventType :=
  if t.status = .running then .taskRecovered else .taskStarted

def TripPlanningTask.renewed (t : TripPlanningTask Req) (now leaseSeconds : Time) :
    TripPlanningTask Req :=
  { t with heartbeatAt := some now, leaseExpiresAt := some (now + leaseSpan leaseSeconds) }

/-- A waiting task ends at once; a running one only remembers the request. -/
def TripPlanningTask.cancelMarked (t : TripPlanningTask Req) (now : Time)
    (heartbeatAt : Option Time) : TripPlanningTask Req :=
  match t.status with
  | .queued | .retrying =>
    { t with
      cancelRequested := true
      status := .cancelled
      currentStage := "cancelled"
      stageName := "已取消"
      message := "任务在等待执行时已取消"
      finishedAt := some now
      workerId := none
      leaseExpiresAt := none
      heartbeatAt := heartbeatAt }
  | _ =>
    { t with cancelRequested := true, message := "已收到取消请求，正在安全停止当前调用" }

def TripPlanningTask.cancelEvent (t : TripPlanningTask Req) : TaskEventType :=
  match t.status with
  | .queued | .retrying => .taskCancelled
  | _ => .cancellationRequested

/-- The arguments that `mark_succeeded`, `mark_cancelled` and `mark_failed`
hand to `_mark_terminal`. -/
structure Ending where
  status : TaskStatus
  eventType : TaskEventType
  stage : String
  stageName : String
  message : String
  progressPercent : Option Rat := none
  resultSessionId : Option String := none
  failureReport : Option TaskFailureReport := none
  eventData : EventData := .empty
deriving DecidableEq, Repr

def succeeded (sessionId : String) : Ending :=
  { status := .succeeded, eventType := .taskSucceeded, stage := "finish", stageName := "完成",
    message := "旅行计划生成完成", progressPercent := some 100, resultSessionId := some sessionId }

def cancelled (message : String) : Ending :=
  { status := .cancelled, eventType := .taskCancelled, stage := "cancelled", stageName := "已取消",
    message := message }

def failed (report : TaskFailureReport) (timedOut : Bool) : Ending :=
  { status := if timedOut then .timedOut else .failed
    eventType := if timedOut then .taskTimedOut else .taskFailed
    stage := if timedOut then "timed_out" else "failed"
    stageName := if timedOut then "执行超时" else "执行失败"
    message := report.message
    failureReport := some report
    eventData := .failure report }

def TripPlanningTask.ended (t : TripPlanningTask Req) (e : Ending) (now : Time) :
    TripPlanningTask Req :=
  { t with
    status := e.status
    currentStage := e.stage
    stageName := e.stageName
    message := e.message
    currentAction := none
    progressPercent := e.progressPercent.getD t.progressPercent
    resultSessionId := e.resultSessionId
    failureReport := e.failureReport
    finishedAt := some now
    workerId := none
    leaseExpiresAt := none
    heartbeatAt := none }

theorem hasValidLease_iff (t : TripPlanningTask Req) (w : WorkerId) (now : Time) :
    t.hasValidLease w now = true ↔ t.status = .running ∧ t.workerId = some w ∧
      ∃ e, t.leaseExpiresAt = some e ∧ now < e := by
  simp [TripPlanningTask.hasValidLease, holds_iff, TripPlanningTask.lease]

end TravelAgent.TaskRecord

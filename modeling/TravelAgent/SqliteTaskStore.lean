import TravelAgent.TaskStore

namespace TravelAgent.SqliteTaskStore

open TravelAgent.Leasing TravelAgent.Rows TravelAgent.TaskRecord TravelAgent.TaskStore

variable {Req : Type}

def createTask (requestFingerprint : Req → String) (s : Store Req) (request : Req)
    (idempotencyKey : String) (userId : Option UserId) (taskId sessionId : String)
    (clock : Readings) : Except StoreError (Answer Req) × Store Req :=
  match normalizeIdempotencyKey idempotencyKey with
  | .error error => (.error error, s)
  | .ok key =>
    match lookup Row.idempotencyKey key s.rows with
    | some row =>
      if row.requestFingerprint ≠ requestFingerprint request then (.error conflict, s)
      else (.ok (.created row.taskJson true), s)
    | none =>
      match latestBy Row.createdAt (s.rows.filter fun r =>
          decide (r.requestFingerprint = requestFingerprint request) && r.active) with
      | some row => (.ok (.created row.taskJson true), s)
      | none =>
        s.insertTask
          (newTask taskId sessionId userId key (requestFingerprint request) request clock.checked)
          clock.stamped

def getTask (s : Store Req) (id : TaskId) (userId : Option UserId) :
    Except StoreError (TripPlanningTask Req) :=
  match s.find id with
  | none => .error (notFound id)
  | some row =>
    if userId.any fun u => decide (row.taskJson.userId ≠ some u) then .error (notFound id)
    else .ok row.taskJson

def assertWorkerOwnsTask (s : Store Req) (id : TaskId) (worker : WorkerId) (now : Time) :
    Except StoreError (TripPlanningTask Req) :=
  match s.find id with
  | none => .error (bareNotFound id)
  | some row =>
    if row.taskJson.hasValidLease worker now then .ok row.taskJson
    else .error (leaseLost worker id)

def recordProgress (s : Store Req) (id : TaskId) (worker : WorkerId) (p : Progress)
    (clock : Readings) : Verdict Req :=
  s.onRow id (.refuse (bareNotFound id)) fun row => progressVerdict row.taskJson id worker p clock

def Row.reserve (r : Row Req) (worker : WorkerId) (now leaseSeconds : Time) : Row Req :=
  { r with
    workerId := some worker
    leaseExpiresAt := some (now + leaseSpan leaseSeconds)
    heartbeatAt := some now }

/-- A select followed by a conditional update of the same row; the claim is
given up unless that update changes exactly one row. -/
def claimNext (s : Store Req) (worker : WorkerId) (leaseSeconds : Time) (clock : Readings) :
    Except StoreError (Answer Req) × Store Req :=
  match leastBy Row.createdAt (s.rows.filter fun r => r.claimable clock.entered) with
  | none => (.ok (.claimed none), s)
  | some row =>
    let target := fun r : Row Req =>
      decide (r.taskId = row.taskJson.taskId) && r.claimable clock.entered
    let reserve := fun r : Row Req => Row.reserve r worker clock.entered leaseSeconds
    let reserved : Store Req := { s with rows := updateWhere target reserve s.rows }
    if (s.rows.filter target).length ≠ 1 then (.ok (.claimed none), reserved)
    else reserved.settle clock.stamped (claimVerdict row.taskJson worker leaseSeconds clock)

def heartbeat (s : Store Req) (id : TaskId) (worker : WorkerId) (leaseSeconds : Time)
    (clock : Readings) : Verdict Req :=
  s.onRow id (.keep (.flag false)) fun row =>
    renewVerdict row.taskJson (row.status == .running && row.workerId == some worker) leaseSeconds
      clock

def isCancelRequested (s : Store Req) (id : TaskId) : Except StoreError Bool :=
  match s.find id with
  | none => .error (bareNotFound id)
  | some row => .ok (row.cancelRequested || decide (row.status = .cancelled))

def requestCancel (s : Store Req) (id : TaskId) (userId : Option UserId) (clock : Readings) :
    Verdict Req :=
  s.onRow id (.refuse (notFound id)) fun row =>
    if userId.any fun u => decide (row.taskJson.userId ≠ some u) then .refuse (notFound id)
    else cancelVerdict row.taskJson row.taskJson.heartbeatAt clock

def markTerminal (s : Store Req) (id : TaskId) (worker : WorkerId) (e : Ending)
    (clock : Readings) : Verdict Req :=
  s.onRow id (.refuse (bareNotFound id)) fun row =>
    terminalVerdict row.taskJson (row.taskJson.workerId == some worker)
      ⟨.taskLeaseLost, "Worker " ++ worker ++ " 已失去任务 " ++ id ++ " 的租约"⟩ e clock

end TravelAgent.SqliteTaskStore

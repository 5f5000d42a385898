import TravelAgent.TaskStore

namespace TravelAgent.MysqlTaskStore

open TravelAgent.Leasing TravelAgent.Rows TravelAgent.TaskRecord TravelAgent.TaskStore

/-- What the store takes from its surroundings: the digest of a request and
the collation under which MySQL compares idempotency keys. -/
structure Codec (Req : Type) where
  requestFingerprint : Req → String
  collate : String → String

variable {Req : Type}

def findReusableTask (c : Codec Req) (s : Store Req) (key fingerprint : String)
    (userId : Option UserId) : Except StoreError (Option (TripPlanningTask Req)) :=
  match s.rows.find? fun r =>
      decide (c.collate r.idempotencyKey = c.collate key) && decide (r.userId = userId) with
  | some row =>
    if row.requestFingerprint ≠ fingerprint then .error conflict else .ok (some row.taskJson)
  | none =>
    .ok <| (latestBy Row.createdAt (s.rows.filter fun r =>
      decide (r.requestFingerprint = fingerprint) && decide (r.userId = userId) && r.active)).map
        Row.taskJson

def createTask (c : Codec Req) (s : Store Req) (request : Req) (idempotencyKey : String)
    (userId : Option UserId) (taskId sessionId : String) (clock : Readings) :
    Except StoreError (Answer Req) × Store Req :=
  match normalizeIdempotencyKey idempotencyKey with
  | .error error => (.error error, s)
  | .ok key =>
    match findReusableTask c s key (c.requestFingerprint request) userId with
    | .error error => (.error error, s)
    | .ok (some task) => (.ok (.created task true), s)
    | .ok none =>
      s.insertTask
        (newTask taskId sessionId userId key (c.requestFingerprint request) request clock.checked)
        clock.stamped

def getTask (s : Store Req) (id : TaskId) (userId : Option UserId) :
    Except StoreError (TripPlanningTask Req) :=
  match s.find id with
  | none => .error (notFound id)
  | some row =>
    if userId.any fun u => decide (row.userId ≠ some u) then .error (notFound id)
    else .ok row.taskJson

def assertWorkerOwnsTask (s : Store Req) (id : TaskId) (worker : WorkerId) (now : Time) :
    Except StoreError (TripPlanningTask Req) :=
  match getTask s id none with
  | .error error => .error error
  | .ok t => if t.hasValidLease worker now then .ok t else .error (leaseLost worker id)

def recordProgress (s : Store Req) (id : TaskId) (worker : WorkerId) (p : Progress)
    (clock : Readings) : Verdict Req :=
  s.onRow id (.refuse (bareNotFound id)) fun row => progressVerdict row.taskJson id worker p clock

/-- `FOR UPDATE SKIP LOCKED`: rows held by other transactions are passed over. -/
def claimNext (s : Store Req) (worker : WorkerId) (leaseSeconds : Time) (locked : List TaskId)
    (clock : Readings) : Verdict Req :=
  match leastBy Row.createdAt (s.rows.filter fun r =>
      r.claimable clock.entered && decide (r.taskId ∉ locked)) with
  | none => .keep (.claimed none)
  | some row => claimVerdict row.taskJson worker leaseSeconds clock

def heartbeat (s : Store Req) (id : TaskId) (worker : WorkerId) (leaseSeconds : Time)
    (clock : Readings) : Verdict Req :=
  s.onRow id (.keep (.flag false)) fun row =>
    renewVerdict row.taskJson (row.taskJson.hasValidLease worker clock.checked) leaseSeconds clock

def isCancelRequested (s : Store Req) (id : TaskId) : Except StoreError Bool :=
  match s.find id with
  | none => .error (bareNotFound id)
  | some row => .ok (row.cancelRequested || decide (row.status = .cancelled))

def requestCancel (s : Store Req) (id : TaskId) (userId : Option UserId) (clock : Readings) :
    Verdict Req :=
  s.onRow id (.refuse (notFound id)) fun row =>
    if userId.any fun u => decide (row.userId ≠ some u) then .refuse (notFound id)
    else cancelVerdict row.taskJson none clock

def markTerminal (s : Store Req) (id : TaskId) (worker : WorkerId) (e : Ending)
    (clock : Readings) : Verdict Req :=
  s.onRow id (.refuse (bareNotFound id)) fun row =>
    terminalVerdict row.taskJson (row.taskJson.hasValidLease worker clock.checked)
      (leaseLost worker id) e clock

end TravelAgent.MysqlTaskStore

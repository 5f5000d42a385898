import TravelAgent.NamedLocks
import TravelAgent.TaskLedger

namespace TravelAgent.TaskCreation

open TravelAgent.Leasing TravelAgent.Rows TravelAgent.TaskRecord TravelAgent.TaskStore
open TravelAgent.TaskOps TravelAgent.NamedLocks
open TravelAgent.TaskLedger (Call)
open TravelAgent.MysqlTaskStore (Codec findReusableTask)

/-- The codec of the store with the digest that the lock names are made of. -/
structure Services (Req : Type) where
  codec : Codec Req
  digest : String → String

variable {Req : Type}

/-- `_lock_name` -/
def Services.lockName (v : Services Req) (kind value : String) : String :=
  String.ofList (("trip:" ++ kind ++ ":" ++ v.digest value).toList.take 64)

inductive Outcome (Req : Type)
  | created (task : TripPlanningTask Req) (reused : Bool)
  | refused (error : StoreError)
  | timedOut
deriving DecidableEq, Repr

/-- Where a call of `create_task` stands: waiting for the rest of its locks,
before its lookup, before its insert, giving its locks back, or before the
lookup that follows an integrity error. -/
inductive Phase (Req : Type)
  | waiting (todo held : List String)
  | reading
  | inserting
  | releasing (outcome : Option (Outcome Req)) (held : List String)
  | rereading
  | ended (outcome : Outcome Req)
deriving DecidableEq, Repr

structure Attempt (Req : Type) where
  userId : UserId
  key : String
  request : Req
  phase : Phase Req
deriving DecidableEq, Repr

/-- The table, the named locks with their holders, the calls of `create_task`,
and the calls that have changed the table or the log. -/
structure Desk (Req : Type) where
  store : Store Req
  locks : List (String × Nat)
  attempts : List (Attempt Req)
  changes : List Nat
deriving DecidableEq, Repr

def Desk.start : Desk Req := ⟨Store.empty, [], [], []⟩

inductive Act (Req : Type)
  | enter (userId : UserId) (idempotencyKey : String) (request : Req)
  | advance (i : Nat) (taskId sessionId : String) (clock : Readings)
  | giveUp (i : Nat)
  | call (call : Call Req)
deriving DecidableEq, Repr

def Attempt.fingerprint (v : Services Req) (a : Attempt Req) : String :=
  v.codec.requestFingerprint a.request

/-- The names of the two locks in the order in which they are taken. -/
def lockNames (v : Services Req) (key fingerprint : String) : List String :=
  let k := v.lockName "key" key
  let f := v.lockName "fp" fingerprint
  if k = f then [k] else if k < f then [k, f] else [f, k]

def Attempt.names (v : Services Req) (a : Attempt Req) : List String :=
  lockNames v a.key (a.fingerprint v)

/-- A row of the user under the key makes the database refuse the insert. -/
def keyTaken (c : Codec Req) (s : Store Req) (userId : UserId) (key : String) : Bool :=
  s.rows.any fun r =>
    decide (r.userId = some userId) && decide (c.collate r.idempotencyKey = c.collate key)

def Attempt.newTask (v : Services Req) (a : Attempt Req) (taskId sessionId : String)
    (clock : Readings) : TripPlanningTask Req :=
  TaskRecord.newTask taskId sessionId (some a.userId) a.key (a.fingerprint v) a.request clock.checked

def Attempt.reusable (v : Services Req) (a : Attempt Req) (s : Store Req) :
    Except StoreError (Option (TripPlanningTask Req)) :=
  findReusableTask v.codec s a.key (a.fingerprint v) (some a.userId)

/-- One step of a call: the table, the locks and the phase after it. -/
def Attempt.next (v : Services Req) (a : Attempt Req) (i : Nat) (s : Store Req)
    (locks : List (String × Nat)) (taskId sessionId : String) (clock : Readings) :
    Option (Store Req × List (String × Nat) × Phase Req) :=
  match a.phase with
  | .waiting [] _ => some (s, locks, .reading)
  | .waiting (name :: todo) held =>
    (acquire locks name i).map fun locks => (s, locks, .waiting todo (name :: held))
  | .reading =>
    match a.reusable v s with
    | .error error => some (s, locks, .releasing (some (.refused error)) (a.names v).reverse)
    | .ok (some t) => some (s, locks, .releasing (some (.created t true)) (a.names v).reverse)
    | .ok none => some (s, locks, .inserting)
  | .inserting =>
    let t := a.newTask v taskId sessionId clock
    if s.holdsKeyOf t || keyTaken v.codec s a.userId a.key then
      some (s, locks, .releasing none (a.names v).reverse)
    else
      some (s.appendTask t clock.stamped, locks,
        .releasing (some (.created t false)) (a.names v).reverse)
  | .releasing outcome (name :: held) => some (s, release locks name i, .releasing outcome held)
  | .releasing (some outcome) [] => some (s, locks, .ended outcome)
  | .releasing none [] => some (s, locks, .rereading)
  | .rereading =>
    match a.reusable v s with
    | .error error => some (s, locks, .ended (.refused error))
    | .ok (some t) => some (s, locks, .ended (.created t true))
    | .ok none => some (s, locks, .ended (.refused ⟨.integrityError, "trip_planning_tasks"⟩))
  | .ended _ => none

def Op.creates : Op Req → Bool
  | .createTask _ _ _ _ _ => true
  | _ => false

def step [DecidableEq Req] (v : Services Req) (g : Desk Req) : Act Req → Option (Desk Req)
  | .enter userId idempotencyKey request =>
    match normalizeIdempotencyKey idempotencyKey with
    | .error _ => some g
    | .ok key =>
      let a : Attempt Req := ⟨userId, key, request, .reading⟩
      some { g with attempts := g.attempts ++ [{ a with phase := .waiting (a.names v) [] }] }
  | .advance i taskId sessionId clock =>
    match g.attempts[i]? with
    | none => none
    | some a =>
      (a.next v i g.store g.locks taskId sessionId clock).map fun r =>
        { store := r.1, locks := r.2.1, attempts := g.attempts.set i { a with phase := r.2.2 },
          changes := if r.1 = g.store then g.changes else i :: g.changes }
  | .giveUp i =>
    match g.attempts[i]? with
    | none => none
    | some a =>
      match a.phase with
      | .waiting (name :: _) held =>
        let a' := { a with phase := .releasing (some .timedOut) held }
        if name ∈ g.locks.map Prod.fst then some { g with attempts := g.attempts.set i a' } else none
      | _ => none
  | .call call =>
    if Op.creates call.op then none
    else some { g with store := (exec .mysql v.codec g.store call.op call.clock).2 }

end TravelAgent.TaskCreation

import Mathlib
import TravelAgent.TaskLedger

namespace TravelAgent.WorkerRun

open TravelAgent.Leasing TravelAgent.TaskRecord TravelAgent.TaskStore TravelAgent.TaskOps
open TravelAgent.TaskLedger
open TravelAgent.MysqlTaskStore (Codec)

inductive AgentStatus
  | pending | running | completed | failed | maxStepsReached | budgetExhausted
  | convergenceStopped | cancelled
deriving DecidableEq, Repr

/-- The `AgentState` of a session as the state store keeps it. Everything but
its lifecycle fields is the body. -/
structure AgentState (Body : Type) where
  status : AgentStatus
  finished : Bool
  body : Body
deriving DecidableEq, Repr

/-- The state in a worker's memory with its `_checkpoint_persisted` mark. -/
structure Local (Body : Type) where
  state : AgentState Body
  persisted : Bool
deriving DecidableEq, Repr

structure Job where
  taskId : TaskId
  sessionId : String
deriving DecidableEq, Repr

/-- What follows the save of a checkpoint: the loop, the rest of the current
action, the end of the step, or the exception that the checkpoint precedes. -/
inductive After
  | loop | act | stepEnd (raised : Bool) | raise | raiseInStep
deriving DecidableEq, Repr

/-- What follows a passed `check_cancelled`. -/
inductive Next (Body : Type)
  | load
  | decide (st : Local Body)
  | start (st : Local Body)
  | act (st : Local Body)
  | save (st : Local Body) (after : After)
  | stepDone (st : Local Body) (raised : Bool)
  | succeed (st : Local Body)
deriving DecidableEq, Repr

/-- Where a worker stands in `_execute_task`, between two calls on the stores. -/
inductive Pc (Body : Type)
  | idle
  | asserting (job : Job) (k : Next Body)
  | polling (job : Job) (k : Next Body)
  | loading (job : Job)
  | looping (job : Job) (st : Local Body)
  | deciding (job : Job) (st : Local Body)
  | starting (job : Job) (st : Local Body)
  | preparing (job : Job) (st : Local Body)
  | acting (job : Job) (st : Local Body)
  | leaseCheck (job : Job) (st : Local Body) (raised : Bool)
  | saving (job : Job) (st : Local Body) (after : After)
  | completing (job : Job) (st : Local Body) (raised : Bool)
  | marking (job : Job) (st : Local Body)
  | aborting (job : Job)
  | cancelling (job : Job)
  | relabeling (job : Job) (state : AgentState Body)
  | closing (job : Job)
deriving DecidableEq, Repr

/-- How the deterministic loop goes on where it does not touch a store. -/
inductive Choice (Body : Type)
  | proceed | work (body : Body) | finish (body : Body) | pause | retry (body : Body) | budget
  | converge | exhaust | fail | fault
deriving DecidableEq, Repr

inductive Label (Req Body : Type)
  | outside (call : Call Req)
  | claim (w : WorkerId) (leaseSeconds : Time) (locked : List TaskId) (clock : Readings)
  | beat (w : WorkerId) (id : TaskId) (leaseSeconds : Time) (clock : Readings)
  | check (w : WorkerId) (clock : Readings)
  | poll (w : WorkerId)
  | load (w : WorkerId) (fresh : Body)
  | go (w : WorkerId) (choice : Choice Body)
  | report (w : WorkerId) (p : Progress) (clock : Readings)
  | save (w : WorkerId)
  | readBack (w : WorkerId)
  | mark (w : WorkerId) (report : TaskFailureReport) (timedOut : Bool) (message : String)
      (clock : Readings)
  | crash (w : WorkerId)
deriving DecidableEq, Repr

/-- The task store, the session store and the workers. `marks` remembers how
many claims had been granted at a worker's last passed ownership check;
`overwritten` and `rejected` record a save by a worker that is no longer the
last claimer and changes the session, and a failed save of the last claimer. -/
structure World (Req Body : Type) where
  ledger : Ledger Req
  sessions : String → Option (AgentState Body)
  pcs : WorkerId → Pc Body
  marks : WorkerId → Nat
  overwritten : Bool
  rejected : Bool

variable {Req Body : Type}

def World.start : World Req Body :=
  ⟨Ledger.start, fun _ => none, fun _ => .idle, fun _ => 0, false, false⟩

def World.goto (x : World Req Body) (w : WorkerId) (pc : Pc Body) : World Req Body :=
  { x with pcs := Function.update x.pcs w pc }

def Local.withStatus (st : Local Body) (status : AgentStatus) : Local Body :=
  { st with state := { st.state with status := status } }

def Local.withBody (st : Local Body) (body : Body) : Local Body :=
  { st with state := { st.state with body := body } }

/-- The state in whose step a check fails, if it fails inside the step's `try`. -/
def Next.inStep : Next Body → Option (Local Body)
  | .act st | .save st .act | .save st .raiseInStep => some st
  | _ => none

/-- A failed check inside a step still runs the step's `finally` block. -/
def Next.escape (k : Next Body) (job : Job) (out : Pc Body) : Pc Body :=
  match k.inStep with
  | some st => .leaseCheck job st true
  | none => out

def Next.enter (job : Job) : Next Body → Pc Body
  | .load => .loading job
  | .decide st => .deciding job st
  | .start st => .starting job st
  | .act st => .acting job st
  | .save st after => .saving job st after
  | .stepDone st raised => if raised then .aborting job else .looping job st
  | .succeed st => .marking job st

def After.enter (job : Job) (st : Local Body) : After → Pc Body
  | .loop => .looping job st
  | .act => .acting job st
  | .stepEnd raised => .completing job st raised
  | .raise => .aborting job
  | .raiseInStep => .leaseCheck job st true

/-- Where `AgentCheckpointError` leads. -/
def After.fail (job : Job) (st : Local Body) : After → Pc Body
  | .act | .raiseInStep => .leaseCheck job (st.withStatus .failed) true
  | _ => .aborting job

/-- `run` or `resume`, up to the first checkpoint of `_run_state`. -/
def loaded (job : Job) (stored : Option (AgentState Body)) (fresh : Body) : Pc Body :=
  match stored with
  | none => .asserting job (.save ⟨⟨.running, false, fresh⟩, false⟩ .loop)
  | some state =>
    if state.finished ∨ state.status = .completed then .asserting job (.succeed ⟨state, true⟩)
    else .asserting job (.save ⟨{ state with status := .running }, true⟩ .loop)

/-- The local moves of the loop. Once the plan is finished, nothing but the end
of the step is left to do. -/
def choose (pc : Pc Body) (choice : Choice Body) : Option (Pc Body) :=
  match pc, choice with
  | .looping job st, .proceed =>
    if st.state.finished then some (.asserting job (.succeed st))
    else some (.asserting job (.decide st))
  | .looping job st, .exhaust =>
    if st.state.finished then none
    else some (.asserting job (.save (st.withStatus .maxStepsReached) .raise))
  | .deciding job st, .proceed => some (.asserting job (.start st))
  | .deciding job st, .budget =>
    some (.asserting job (.save (st.withStatus .budgetExhausted) .raise))
  | .deciding job _, .fault => some (.aborting job)
  | .preparing job st, .proceed => some (.acting job st)
  | .preparing job st, .converge =>
    some (.asserting job (.save (st.withStatus .convergenceStopped) .raise))
  | .acting job st, .proceed => some (.leaseCheck job st false)
  | .acting job st, .pause => some (.asserting job (.act st))
  | .acting job st, choice =>
    if st.state.finished then none
    else
      match choice with
      | .work body => some (.acting job (st.withBody body))
      | .finish body =>
        some (.acting job { st with state := ⟨.completed, true, body⟩ })
      | .retry body => some (.asserting job (.save (st.withBody body) .act))
      | .budget => some (.asserting job (.save (st.withStatus .budgetExhausted) .raiseInStep))
      | .converge => some (.asserting job (.save (st.withStatus .convergenceStopped) .raiseInStep))
      | .fail => some (.leaseCheck job (st.withStatus .failed) true)
      | .fault => some (.leaseCheck job st true)
      | _ => none
  | _, _ => none

def Pc.job : Pc Body → Option Job
  | .idle => none
  | .asserting job _ | .polling job _ | .loading job | .looping job _ | .deciding job _
  | .starting job _ | .preparing job _ | .acting job _ | .leaseCheck job _ _ | .saving job _ _
  | .completing job _ _ | .marking job _ | .aborting job | .cancelling job | .relabeling job _
  | .closing job => some job

/-- A call on the MySQL task store, with its answer. -/
def World.call (c : Codec Req) (x : World Req Body) (op : Op Req) (clock : Readings) :
    Option (Except StoreError (Answer Req) × World Req Body) :=
  (TaskLedger.step .mysql c x.ledger ⟨op, clock⟩).map fun g =>
    ((exec .mysql c x.ledger.store op clock).1, { x with ledger := g })

/-- Make the call, then go one way if it is answered and another if it raises. -/
def World.callThen (c : Codec Req) (x : World Req Body) (op : Op Req) (clock : Readings)
    (w : WorkerId) (ok failed : Pc Body) : Option (World Req Body) :=
  (x.call c op clock).map fun r =>
    match r.1 with
    | .ok _ => r.2.goto w ok
    | .error _ => r.2.goto w failed

/-- `save_state`: an unsaved state is inserted, a saved one updated. -/
def World.saveState (x : World Req Body) [DecidableEq Body] (w : WorkerId) (job : Job)
    (st : Local Body) (ok failed : Pc Body) : World Req Body :=
  let stale := lastClaim x.ledger.claims job.taskId != some w
  let stored := x.sessions job.sessionId
  if stored.isSome = st.persisted then
    { x with
      sessions := Function.update x.sessions job.sessionId (some st.state)
      pcs := Function.update x.pcs w ok
      overwritten := x.overwritten || (stale && stored != some st.state) }
  else
    { x with
      pcs := Function.update x.pcs w failed
      rejected := x.rejected || !stale }

def World.check (c : Codec Req) (x : World Req Body) (w : WorkerId) (clock : Readings) (job : Job)
    (ok failed : Pc Body) : Option (World Req Body) :=
  (x.call c (.assertWorkerOwnsTask job.taskId w) clock).map fun r =>
    match r.1 with
    | .ok _ =>
      { r.2 with
        pcs := Function.update x.pcs w ok
        marks := Function.update x.marks w x.ledger.claims.length }
    | .error _ => r.2.goto w failed

def step [DecidableEq Body] (c : Codec Req) (x : World Req Body) :
    Label Req Body → Option (World Req Body)
  | .outside ⟨op, clock⟩ =>
    match op with
    | .createTask .. | .requestCancel .. => (x.call c op clock).map Prod.snd
    | _ => none
  | .claim w leaseSeconds locked clock =>
    match x.pcs w with
    | .idle =>
      (x.call c (.claimNext w leaseSeconds locked) clock).map fun r =>
        match r.1 with
        | .ok (.claimed (some t)) => r.2.goto w (.asserting ⟨t.taskId, t.sessionId⟩ .load)
        | _ => r.2
    | _ => none
  | .beat w id leaseSeconds clock =>
    (x.call c (.heartbeat id w leaseSeconds) clock).map Prod.snd
  | .check w clock =>
    match x.pcs w with
    | .asserting job k => x.check c w clock job (.polling job k) (k.escape job (.aborting job))
    | .leaseCheck job st raised =>
      x.check c w clock job (.asserting job (.save st (.stepEnd raised))) (.aborting job)
    | _ => none
  | .poll w =>
    match x.pcs w with
    | .polling job k =>
      match MysqlTaskStore.isCancelRequested x.ledger.store job.taskId with
      | .ok false => some (x.goto w (k.enter job))
      | .ok true => some (x.goto w (k.escape job (.cancelling job)))
      | .error _ => some (x.goto w (k.escape job (.aborting job)))
    | _ => none
  | .load w fresh =>
    match x.pcs w with
    | .loading job => some (x.goto w (loaded job (x.sessions job.sessionId) fresh))
    | _ => none
  | .go w choice => (choose (x.pcs w) choice).map fun pc => x.goto w pc
  | .report w p clock =>
    match x.pcs w with
    | .starting job st =>
      x.callThen c (.recordProgress job.taskId w p) clock w (.preparing job st) (.aborting job)
    | .completing job st raised =>
      x.callThen c (.recordProgress job.taskId w p) clock w (.asserting job (.stepDone st raised))
        (.aborting job)
    | _ => none
  | .save w =>
    match x.pcs w with
    | .saving job st after =>
      some (x.saveState w job st (after.enter job { st with persisted := true })
        (after.fail job st))
    | .relabeling job state => some (x.saveState w job ⟨state, true⟩ (.closing job) .idle)
    | _ => none
  | .readBack w =>
    match x.pcs w with
    | .cancelling job =>
      match x.sessions job.sessionId with
      | none => some (x.goto w (.closing job))
      | some state => some (x.goto w (.relabeling job { state with status := .cancelled }))
    | _ => none
  | .mark w report timedOut message clock =>
    match x.pcs w with
    | .marking job _ =>
      x.callThen c (.markSucceeded job.taskId w job.sessionId) clock w .idle (.aborting job)
    | .aborting job => x.callThen c (.markFailed job.taskId w report timedOut) clock w .idle .idle
    | .closing job => x.callThen c (.markCancelled job.taskId w message) clock w .idle .idle
    | _ => none
  | .crash w => some (x.goto w .idle)

end TravelAgent.WorkerRun

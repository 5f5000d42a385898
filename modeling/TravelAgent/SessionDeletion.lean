import TravelAgent.DraftService
import TravelAgent.WorkerTurns

namespace TravelAgent.SessionDeletion

open TravelAgent.Leasing TravelAgent.Rows TravelAgent.TaskRecord TravelAgent.TaskStore
open TravelAgent.TaskOps TravelAgent.TaskView TravelAgent.VersionStore
open TravelAgent.TaskLedger hiding step
open TravelAgent.DraftService (Thread Request Fresh Cont)
open TravelAgent.WorkerRun (AgentState Pc)
open TravelAgent.MysqlTaskStore (Codec)

/-- A store call of `delete_session`, of a draft request, or of a worker. A
request first reads its session and its draft; between confirming the version
and saving the draft, `confirm_draft` saves the session. -/
inductive Label (Req Body Plan Eval : Type)
  | deleteSession (sessionId : String) (userId : UserId)
  | getState (i : Nat) (request : Request Plan)
  | getDraft (i : Nat)
  | proceed (i : Nat) (x : Fresh Plan Eval)
  | saveState (i : Nat) (state : AgentState Body)
  | abort (i : Nat)
  | worker (label : WorkerRun.Label Req Body)

/-- The five tables with the workers and the draft requests on them. `pending`
holds the requests that have read their session, `synced` marks those whose
`save_state` has returned, and `deleted` lists the sessions that are gone. -/
structure World (Req Body Plan Eval : Type) where
  worker : WorkerRun.World Req Body
  drafts : DraftService.World Plan Eval
  pending : Nat → Option (Request Plan)
  synced : Nat → Bool
  deleted : List String

variable {Req Body Plan Eval : Type}

def World.start : World Req Body Plan Eval :=
  ⟨WorkerRun.World.start, DraftService.World.start, fun _ => none, fun _ => false, []⟩

def Request.sessionId : Request Plan → String
  | .createDraft sessionId _ _ | .updateDraft sessionId _ _ | .evaluateDraft sessionId _
  | .confirmDraft sessionId _ => sessionId

/-- The session that `confirm_draft` saves before it saves the draft. -/
def Thread.confirms : Thread Plan Eval → Option String
  | .draftSave draft => if draft.status = .confirmed then some draft.sessionId else none
  | _ => none

def taskIdsOf (rows : List (Row Req)) (sessionId : String) (userId : UserId) : List TaskId :=
  (rows.filter fun r => decide (r.sessionId = sessionId) && decide (r.userId = some userId)).map
    Row.taskId

def deleteTasks (s : Store Req) (sessionId : String) (userId : UserId) : Store Req :=
  { s with
    events := s.events.filter fun e => decide (e.taskId ∉ taskIdsOf s.rows sessionId userId)
    rows := s.rows.filter fun r =>
      !(decide (r.sessionId = sessionId) && decide (r.userId = some userId)) }

def deleteVersions (t : VersionTables Plan Eval) (sessionId : String) : VersionTables Plan Eval :=
  { versions := t.versions.filter fun r => decide (r.sessionId ≠ sessionId)
    drafts := t.drafts.filter fun d => decide (d.sessionId ≠ sessionId) }

/-- The deletes of `delete_session`, once it has locked the session row. -/
def World.erase (x : World Req Body Plan Eval) (sessionId : String) (userId : UserId) :
    World Req Body Plan Eval :=
  { x with
    worker := { x.worker with
      ledger := { x.worker.ledger with
        store := deleteTasks x.worker.ledger.store sessionId userId }
      sessions := Function.update x.worker.sessions sessionId none }
    drafts := { x.drafts with tables := deleteVersions x.drafts.tables sessionId }
    deleted := sessionId :: x.deleted }

/-- A session identifier is drawn once, for one user, so a creating call never
brings one that has been deleted. -/
def drawn (owner : String → Option UserId) (x : World Req Body Plan Eval) :
    WorkerRun.Label Req Body → Bool
  | .outside ⟨.createTask _ _ userId _ sessionId, _⟩ =>
    decide (userId = owner sessionId) && decide (sessionId ∉ x.deleted)
  | _ => true

def step [DecidableEq Body] (owner : String → Option UserId) (c : Codec Req)
    (x : World Req Body Plan Eval) : Label Req Body Plan Eval → Option (World Req Body Plan Eval)
  | .deleteSession sessionId userId =>
    if (x.worker.sessions sessionId).isSome ∧ owner sessionId = some userId then
      some (x.erase sessionId userId)
    else some x
  | .getState i request =>
    match x.pending i, x.drafts.threads i with
    | none, .idle =>
      if (x.worker.sessions (Request.sessionId request)).isSome then
        some { x with pending := Function.update x.pending i (some request) }
      else some x
    | _, _ => none
  | .getDraft i =>
    match x.pending i with
    | none => none
    | some request =>
      (DraftService.step x.drafts (.begin i request)).map fun drafts =>
        { x with
          drafts := drafts
          pending := Function.update x.pending i none
          synced := Function.update x.synced i false }
  | .proceed i fresh =>
    if (Thread.confirms (x.drafts.threads i)).isSome ∧ x.synced i = false then none
    else (DraftService.step x.drafts (.proceed i fresh)).map fun drafts => { x with drafts := drafts }
  | .saveState i state =>
    match Thread.confirms (x.drafts.threads i), x.synced i with
    | some sessionId, false =>
      if (x.worker.sessions sessionId).isSome then
        some { x with
          worker := { x.worker with
            sessions := Function.update x.worker.sessions sessionId (some state) }
          synced := Function.update x.synced i true }
      else (DraftService.step x.drafts (.abort i)).map fun drafts => { x with drafts := drafts }
    | _, _ => none
  | .abort i =>
    (DraftService.step x.drafts (.abort i)).map fun drafts =>
      { x with drafts := drafts, pending := Function.update x.pending i none }
  | .worker label =>
    if drawn owner x label then
      (WorkerRun.step c x.worker label).map fun worker => { x with worker := worker }
    else none

/-- A version or a draft of the session is stored. -/
def Mentions (t : VersionTables Plan Eval) (sessionId : String) : Prop :=
  (∃ r ∈ t.versions, r.sessionId = sessionId) ∨ ∃ d ∈ t.drafts, d.sessionId = sessionId

/-- No row of the session is stored, and no event of one of its tasks. -/
structure Erased (x : World Req Body Plan Eval) (sessionId : String) : Prop where
  session : x.worker.sessions sessionId = none
  tasks : ∀ r ∈ x.worker.ledger.store.rows, r.sessionId ≠ sessionId
  events : ∀ e ∈ x.worker.ledger.store.events, ∃ r ∈ x.worker.ledger.store.rows,
    r.taskId = e.taskId ∧ r.sessionId ≠ sessionId
  versions : ¬ Mentions x.drafts.tables sessionId

def Final (x : World Req Body Plan Eval) : Prop := ∀ sessionId ∈ x.deleted, Erased x sessionId

/-- The session whose version or draft the next store call of a thread saves. -/
def Thread.writes : Thread Plan Eval → Option String
  | .originalSave sessionId _ | .draftCreate sessionId _ _ => some sessionId
  | .candidateSave draft _ | .draftSave draft => some draft.sessionId
  | _ => none

/-- The session that a worker's next store call inserts. -/
def Pc.inserts : Pc Body → Option String
  | .saving job st _ => if st.persisted then none else some job.sessionId
  | _ => none

def Label.writes (x : World Req Body Plan Eval) : Label Req Body Plan Eval → Option String
  | .proceed i _ => Thread.writes (x.drafts.threads i)
  | .worker (.save w) => Pc.inserts (x.worker.pcs w)
  | _ => none

/-- `save_version`, `save_draft` and the first `save_state` of a session are
called only while the session has not been deleted. -/
def Undeleted (x : World Req Body Plan Eval) (label : Label Req Body Plan Eval) : Prop :=
  ∀ sessionId ∈ Label.writes x label, sessionId ∉ x.deleted

instance (x : World Req Body Plan Eval) (label : Label Req Body Plan Eval) :
    Decidable (Undeleted x label) :=
  inferInstanceAs (Decidable (∀ sessionId ∈ Label.writes x label, sessionId ∉ x.deleted))

/-- What the database itself guarantees of tasks and events. -/
structure Kept (owner : String → Option UserId) (s : Store Req) : Prop where
  wellFormed : WellFormed s
  owned : ∀ r ∈ s.rows, r.userId = owner r.sessionId
  parented : ∀ e ∈ s.events, ∃ r ∈ s.rows, r.taskId = e.taskId

end TravelAgent.SessionDeletion

import Mathlib
import TravelAgent.ReconcileRun

namespace TravelAgent.Reindex

open TravelAgent.Leasing TravelAgent.ShareRecord TravelAgent.ShareStore TravelAgent.ShareReads
open TravelAgent.ShareMoves
open TravelAgent.Reconcile (Repair Reply StoredPoint Condition activePublic maintenanceRecord meets
  pointOf sameAuthoritative versionFilter)

/-- What `parse_args` lets through. -/
structure Args where
  apply : Bool
  batchSize : Nat
  shareId : Option ShareId
  batchBounds : 1 ≤ batchSize ∧ batchSize ≤ 1000

/-- What `build_document` makes of a snapshot. -/
structure Built where
  text : String
  contentHash : String
  cityNormalized : String
  transportationNormalized : String
  templateVersion : String
deriving DecidableEq, Repr

variable {Snapshot : Type}

/-- The arguments, the text builder, which may raise, and the checks of `SharePublishDraft`. -/
structure Settings (Snapshot : Type) where
  args : Args
  buildDocument : Snapshot → Option Built
  admits : SharePublishDraft Snapshot → Bool
  leaseSeconds : Time
  retrySeconds : Time

structure ReindexReport where
  dryRun : Bool
  selected : Nat := 0
  rebuiltSameVersion : Nat := 0
  changedHash : Nat := 0
  reindexed : Nat := 0
  skipped : Nat := 0
  inconsistent : List ShareId := []
  failed : Nat := 0
  schemaMismatch : Bool := false
deriving DecidableEq, Repr

def ReindexReport.exitCode (r : ReindexReport) : Nat :=
  if r.failed ≠ 0 ∨ r.schemaMismatch then 1 else 0

/-- What `iter_active_public` does once the records of a page are through. -/
inductive Next
  | stop
  | stuck
  | page (after : ShareId)
deriving DecidableEq, Repr

structure Todo (Snapshot : Type) where
  rest : List (SharedGuideRecord Snapshot)
  next : Next

/-- Where `_apply_changed_record` stands. -/
inductive Change (Snapshot : Type)
  | staging (record : SharedGuideRecord Snapshot) (built : Built)
  | claiming (record : SharedGuideRecord Snapshot) (job : ShareIndexJob) (now : Time)
  | embedding (record : SharedGuideRecord Snapshot) (job : ShareIndexJob) (worker : WorkerId)
      (now : Time)
  | writing (record : SharedGuideRecord Snapshot) (job : ShareIndexJob) (worker : WorkerId)
      (now : Time)
  | completing (record : SharedGuideRecord Snapshot) (job : ShareIndexJob) (worker : WorkerId)
      (now : Time)
  | failing (record : SharedGuideRecord Snapshot) (job : ShareIndexJob) (worker : WorkerId)
      (now : Time) (error : String)

/-- Where the script stands between two calls on the database, the index or the provider. -/
inductive Pc (Snapshot : Type)
  | validating
  | listing (after : Option ShareId)
  | rebuilding (stage : Repair Snapshot) (todo : Todo Snapshot)
  | changing (stage : Change Snapshot) (todo : Todo Snapshot)
  | finished
  | raised

/-- The shares, the points, the script and the shares that it has selected, the latest first. -/
structure World (Snapshot : Type) where
  store : Store Snapshot
  points : List StoredPoint
  report : ReindexReport
  selected : List ShareId
  pc : Pc Snapshot

def World.start (args : Args) (store : Store Snapshot) (points : List StoredPoint) :
    World Snapshot :=
  ⟨store, points, { dryRun := !args.apply }, [], .validating⟩

def World.put (x : World Snapshot) (p : StoredPoint) : World Snapshot :=
  { x with points := p :: x.points.filter fun q => decide (q.id ≠ p.id) }

def World.erase (x : World Snapshot) (conditions : List Condition) : World Snapshot :=
  { x with points := x.points.filter fun p => !meets conditions p }

def World.call (x : World Snapshot) (op : Op Snapshot) : World Snapshot :=
  { x with store := apply x.store op }

def World.goto (x : World Snapshot) (pc : Pc Snapshot) : World Snapshot := { x with pc := pc }

def World.tell (x : World Snapshot) (f : ReindexReport → ReindexReport) : World Snapshot :=
  { x with report := f x.report }

section Frames

variable (x : World Snapshot)

@[simp] theorem put_report (p : StoredPoint) : (x.put p).report = x.report := rfl
@[simp] theorem put_selected (p : StoredPoint) : (x.put p).selected = x.selected := rfl
@[simp] theorem put_store (p : StoredPoint) : (x.put p).store = x.store := rfl
@[simp] theorem erase_report (cs : List Condition) : (x.erase cs).report = x.report := rfl
@[simp] theorem erase_selected (cs : List Condition) : (x.erase cs).selected = x.selected := rfl
@[simp] theorem erase_store (cs : List Condition) : (x.erase cs).store = x.store := rfl
@[simp] theorem call_report (op : Op Snapshot) : (x.call op).report = x.report := rfl
@[simp] theorem call_selected (op : Op Snapshot) : (x.call op).selected = x.selected := rfl
@[simp] theorem call_store (op : Op Snapshot) : (x.call op).store = apply x.store op := rfl
@[simp] theorem goto_report (pc : Pc Snapshot) : (x.goto pc).report = x.report := rfl
@[simp] theorem goto_selected (pc : Pc Snapshot) : (x.goto pc).selected = x.selected := rfl
@[simp] theorem goto_store (pc : Pc Snapshot) : (x.goto pc).store = x.store := rfl
@[simp] theorem tell_store (f : ReindexReport → ReindexReport) : (x.tell f).store = x.store := rfl

end Frames

def failedOnce (r : ReindexReport) : ReindexReport := { r with failed := r.failed + 1 }

def skippedOnce (r : ReindexReport) : ReindexReport := { r with skipped := r.skipped + 1 }

def rebuiltOnce (r : ReindexReport) : ReindexReport :=
  { r with rebuiltSameVersion := r.rebuiltSameVersion + 1 }

def reindexedOnce (r : ReindexReport) : ReindexReport := { r with reindexed := r.reindexed + 1 }

def changedOnce (r : ReindexReport) : ReindexReport := { r with changedHash := r.changedHash + 1 }

/-- The record is yielded, and found without its timestamps if it is not active. -/
def World.select (x : World Snapshot) (r : SharedGuideRecord Snapshot) : World Snapshot :=
  { x with
    selected := r.shareId :: x.selected
    report :=
      if activePublic r then { x.report with selected := x.report.selected + 1 }
      else
        { x.report with
          selected := x.report.selected + 1
          inconsistent := x.report.inconsistent ++ [r.shareId]
          failed := x.report.failed + 1 } }

/-- `list_active_public` -/
def listActivePublic (s : Store Snapshot) (after : Option ShareId) (limit : Nat)
    (shareId : Option ShareId) : Except ShareError (List (SharedGuideRecord Snapshot)) :=
  (((s.shares.filter fun r =>
      r.publicReady && (after.all fun a => decide (a < r.shareId)) &&
        shareId.all fun i => decide (r.shareId = i)).mergeSort
    fun r q => decide (r.shareId ≤ q.shareId)).take limit).mapM maintenanceRecord

/-- How `iter_active_public` goes on after a page. -/
def nextPage (args : Args) (after : Option ShareId) (page : List (SharedGuideRecord Snapshot)) :
    Next :=
  if args.shareId.isSome ∨ page.length < args.batchSize then .stop
  else
    match page.getLast? with
    | none => .stop
    | some last => if after = some last.shareId then .stuck else .page last.shareId

def Next.pc : Next → Pc Snapshot
  | .stop => .finished
  | .stuck => .raised
  | .page after => .listing (some after)

/-- The loop of `run_reindex` up to its next call: a record that asks for none is reported
at once. -/
def World.advance (cfg : Settings Snapshot) (x : World Snapshot) (next : Next) :
    List (SharedGuideRecord Snapshot) → World Snapshot
  | [] => x.goto next.pc
  | r :: rest =>
    let x := x.select r
    if activePublic r then
      match cfg.buildDocument r.content.snapshot with
      | none => (x.tell failedOnce).advance cfg next rest
      | some built =>
        if built.contentHash ≠ r.content.contentHash then
          let x := x.tell changedOnce
          if cfg.args.apply then x.goto (.changing (.staging r built) ⟨rest, next⟩)
          else x.advance cfg next rest
        else if cfg.args.apply then x.goto (.rebuilding (.reading r) ⟨rest, next⟩)
        else x.advance cfg next rest
    else x.advance cfg next rest

def World.resume (cfg : Settings Snapshot) (x : World Snapshot) (todo : Todo Snapshot) :
    World Snapshot :=
  x.advance cfg todo.next todo.rest

def World.listPage (cfg : Settings Snapshot) (x : World Snapshot) (after : Option ShareId) :
    World Snapshot :=
  match listActivePublic x.store after cfg.args.batchSize cfg.args.shareId with
  | .error _ => x.goto .raised
  | .ok page =>
    x.advance cfg (nextPage cfg.args after page) (page.filter SharedGuideRecord.publicReady)

/-- The next call of a rebuild at the same version that is answered. -/
def World.rebuild (cfg : Settings Snapshot) (x : World Snapshot) (now : Time)
    (todo : Todo Snapshot) : Repair Snapshot → World Snapshot
  | .reading r =>
    match getIndexRecord x.store r.shareId with
    | .error _ => (x.tell failedOnce).resume cfg todo
    | .ok current =>
      if current.any (sameAuthoritative r) then x.goto (.rebuilding (.embedding r) todo)
      else (x.tell skippedOnce).resume cfg todo
  | .embedding r => x.goto (.rebuilding (.rereading r) todo)
  | .rereading r =>
    match getIndexRecord x.store r.shareId with
    | .error _ => (x.tell failedOnce).resume cfg todo
    | .ok current =>
      match current.filter (sameAuthoritative r) with
      | none => (x.tell skippedOnce).resume cfg todo
      | some c => x.goto (.rebuilding (.writing c) todo)
  | .writing c =>
    match pointOf c with
    | none => (x.tell failedOnce).resume cfg todo
    | some p => (x.put p).goto (.rebuilding (.verifying c) todo)
  | .verifying c =>
    match getIndexRecord x.store c.shareId with
    | .error _ => (x.tell failedOnce).resume cfg todo
    | .ok current =>
      if current.any (sameAuthoritative c) then (x.tell rebuiltOnce).resume cfg todo
      else x.goto (.rebuilding (.erasing c) todo)
  | .erasing c =>
    (x.erase (versionFilter c.shareId c.indexVersion)).goto (.rebuilding (.refetching c) todo)
  | .refetching c =>
    match getIndexRecord x.store c.shareId with
    | .error _ => (x.tell failedOnce).resume cfg todo
    | .ok current =>
      match current.filter activePublic with
      | none => (x.tell failedOnce).resume cfg todo
      | some r => x.goto (.rebuilding (.requeuing r) todo)
  | .requeuing r =>
    -- the rebuild has been overtaken and fails, whatever the requeue answers
    ((x.call (.requeueCurrentUpsert r.shareId r.indexVersion r.content.contentHash now)).tell
      failedOnce).resume cfg todo

/-- The effect of a call of a rebuild whose answer is lost. -/
def World.rebuildLost (x : World Snapshot) (now : Time) : Repair Snapshot → World Snapshot
  | .writing c => (pointOf c).elim x x.put
  | .erasing c => x.erase (versionFilter c.shareId c.indexVersion)
  | .requeuing r =>
    x.call (.requeueCurrentUpsert r.shareId r.indexVersion r.content.contentHash now)
  | _ => x

/-- `_draft_with_canonical_text` -/
def draftWithCanonicalText (r : SharedGuideRecord Snapshot) (built : Built) :
    SharePublishDraft Snapshot :=
  { r.content with
    retrievalText := built.text
    contentHash := built.contentHash
    cityNormalized := built.cityNormalized
    transportation := built.transportationNormalized
    retrievalTemplateVersion := built.templateVersion }

def expectedIdentity (r : SharedGuideRecord Snapshot) : ExpectedIdentity :=
  ⟨some r.indexVersion, some r.content.contentHash, r.publishedAt, r.indexedAt⟩

def stageCall (r : SharedGuideRecord Snapshot) (built : Built) (now : Time) (jobId : JobId) :
    Op Snapshot :=
  .stageUpdate r.shareId r.content.authorUserId (draftWithCanonicalText r built) now false
    (expectedIdentity r) jobId

def report (r : SharedGuideRecord Snapshot) (job : ShareIndexJob) (worker : WorkerId) : Report :=
  ⟨job.jobId, r.shareId, r.indexVersion, .upsert, worker⟩

/-- The worker under whose name the script claims its own job. -/
def workerName (drawn : String) : WorkerId := "reindex:" ++ drawn

def claimCall (cfg : Settings Snapshot) (job : ShareIndexJob) (worker : WorkerId) (now : Time) :
    Op Snapshot :=
  .claimIndexJob job.jobId worker now cfg.leaseSeconds

def completeCall (r : SharedGuideRecord Snapshot) (job : ShareIndexJob) (worker : WorkerId)
    (now : Time) : Op Snapshot :=
  .completeIndexOperation (report r job worker) now

def failCall (cfg : Settings Snapshot) (r : SharedGuideRecord Snapshot) (job : ShareIndexJob)
    (worker : WorkerId) (now : Time) (error : String) : Op Snapshot :=
  .recordIndexFailure (report r job worker) error (some (now + cfg.retrySeconds)) false now

/-- The next call of `_apply_changed_record` that is answered; `drawn` is the identifier that
the call or the script draws. -/
def World.change (cfg : Settings Snapshot) (x : World Snapshot) (now : Time) (drawn : String)
    (todo : Todo Snapshot) : Change Snapshot → World Snapshot
  | .staging r built =>
    if cfg.admits (draftWithCanonicalText r built) then
      let y := x.call (stageCall r built now drawn)
      match exec x.store (stageCall r built now drawn) with
      | .error (.sharedGuideConflict _) => (x.tell skippedOnce).resume cfg todo
      | .ok (.intent ⟨record, some job, _, true⟩, _) =>
        y.goto (.changing (.claiming record job now) todo)
      | _ => (y.tell failedOnce).resume cfg todo
    else (x.tell failedOnce).resume cfg todo
  | .claiming r job start =>
    let y := x.call (claimCall cfg job (workerName drawn) start)
    match exec x.store (claimCall cfg job (workerName drawn) start) with
    | .ok (.job (some _), _) => y.goto (.changing (.embedding r job (workerName drawn) start) todo)
    | _ => (y.tell failedOnce).resume cfg todo
  | .embedding r job worker start => x.goto (.changing (.writing r job worker start) todo)
  | .writing r job worker start =>
    match pointOf r with
    | none => x.goto (.changing (.failing r job worker start "ValueError") todo)
    | some p => (x.put p).goto (.changing (.completing r job worker start) todo)
  | .completing r job worker start =>
    let y := x.call (completeCall r job worker start)
    match exec x.store (completeCall r job worker start) with
    | .ok (.flag true, _) => (y.tell reindexedOnce).resume cfg todo
    | _ => y.goto (.changing (.failing r job worker start "RuntimeError") todo)
  | .failing r job worker start error =>
    ((x.call (failCall cfg r job worker start error)).tell failedOnce).resume cfg todo

/-- The effect of a call of `_apply_changed_record` whose answer is lost. -/
def World.changeLost (cfg : Settings Snapshot) (x : World Snapshot) (now : Time) (drawn : String) :
    Change Snapshot → World Snapshot
  | .staging r built => x.call (stageCall r built now drawn)
  | .claiming _ job start => x.call (claimCall cfg job (workerName drawn) start)
  | .embedding _ _ _ _ => x
  | .writing r _ _ _ => (pointOf r).elim x x.put
  | .completing r job worker start => x.call (completeCall r job worker start)
  | .failing r job worker start error => x.call (failCall cfg r job worker start error)

/-- Where an exception leads: the attempt is recorded once the job is claimed. -/
def World.changeRaised (cfg : Settings Snapshot) (x : World Snapshot) (error : String)
    (todo : Todo Snapshot) : Change Snapshot → World Snapshot
  | .embedding r job worker start | .writing r job worker start | .completing r job worker start =>
    x.goto (.changing (.failing r job worker start error) todo)
  | _ => (x.tell failedOnce).resume cfg todo

inductive Label (Snapshot : Type)
  /-- a transaction of a request, an index worker or another script -/
  | call (op : Op Snapshot)
  /-- a write of another party on the index -/
  | upsert (p : StoredPoint)
  /-- a delete of another party on the index -/
  | delete (id : ShareId) (version : Nat)
  /-- the next call of the script, with the class of the exception if it raises -/
  | script (reply : Reply) (now : Time) (drawn : String) (error : String)

def World.script (cfg : Settings Snapshot) (x : World Snapshot) (reply : Reply) (now : Time)
    (drawn error : String) : Option (World Snapshot) :=
  match x.pc with
  | .finished | .raised => none
  | .validating =>
    match reply with
    | .ok => some (x.goto (.listing none))
    | .refused =>
      some ((x.tell fun r => { r with schemaMismatch := true, failed := r.failed + 1 }).goto
        .finished)
    | .lost => some (x.goto .raised)
  | .listing after =>
    if reply = .ok then some (x.listPage cfg after) else some (x.goto .raised)
  | .rebuilding stage todo =>
    match reply with
    | .ok => some (x.rebuild cfg now todo stage)
    | .refused => some ((x.tell failedOnce).resume cfg todo)
    | .lost => some (((x.rebuildLost now stage).tell failedOnce).resume cfg todo)
  | .changing stage todo =>
    match reply with
    | .ok => some (x.change cfg now drawn todo stage)
    | .refused => some (x.changeRaised cfg error todo stage)
    | .lost => some ((x.changeLost cfg now drawn stage).changeRaised cfg error todo stage)

def step (cfg : Settings Snapshot) (x : World Snapshot) : Label Snapshot → Option (World Snapshot)
  | .call op => some (x.call op)
  | .upsert p => some (x.put p)
  | .delete id version => some (x.erase (versionFilter id version))
  | .script reply now drawn error => x.script cfg reply now drawn error

end TravelAgent.Reindex

import TravelAgent.ShareMoves
import TravelAgent.ShareReads

namespace TravelAgent.ShareIndexing

open TravelAgent.Leasing TravelAgent.Rows TravelAgent.ShareRecord TravelAgent.ShareStore
open TravelAgent.ShareReads TravelAgent.ShareMoves

abbrev ActorId := Nat

structure Settings where
  leaseSeconds : Time
  maxAttempts : Nat
  retryDelay : Nat → Time

/-- `_MAX_RECONCILIATION_PASSES` -/
def maxReconciliationPasses : Nat := 3

/-- A stale upsert that a worker reconciles, with the restored versions. -/
structure Stale (Snapshot : Type) where
  worker : WorkerId
  job : ShareIndexJob
  expected : SharedGuideRecord Snapshot
  restored : List (Nat × String)
deriving DecidableEq, Repr

/-- Where a request or an index worker stands between two calls on the store or
on the vector index. The first group are the steps of `_publish_unobserved` and
`_unpublish`, the others those of `_execute_job`. -/
inductive Pc (Snapshot : Type)
  | idle
  | claiming (record : SharedGuideRecord Snapshot) (job : ShareIndexJob)
  | upserting (w : WorkerId) (record : SharedGuideRecord Snapshot) (job : ShareIndexJob)
  | completing (w : WorkerId) (record : SharedGuideRecord Snapshot) (job : ShareIndexJob)
  | removing (w : WorkerId) (record : SharedGuideRecord Snapshot) (job : ShareIndexJob)
  | erasing (w : WorkerId) (record : SharedGuideRecord Snapshot) (job : ShareIndexJob)
  | closing (w : WorkerId) (record : SharedGuideRecord Snapshot) (job : ShareIndexJob)
  | superseding (jobId : JobId) (worker : Option WorkerId)
  | fetching (w : WorkerId) (job : ShareIndexJob)
  | embedding (w : WorkerId) (job : ShareIndexJob) (target : SharedGuideRecord Snapshot)
  | embedFailed (w : WorkerId) (job : ShareIndexJob) (target : SharedGuideRecord Snapshot)
  | writing (w : WorkerId) (job : ShareIndexJob) (target : SharedGuideRecord Snapshot)
  | verifying (w : WorkerId) (job : ShareIndexJob) (target : SharedGuideRecord Snapshot)
  | finishing (w : WorkerId) (job : ShareIndexJob) (target : SharedGuideRecord Snapshot)
  | reviewing (t : Stale Snapshot) (passes : Nat)
  | concluding (t : Stale Snapshot)
  | restoring (t : Stale Snapshot) (passes : Nat) (current : SharedGuideRecord Snapshot)
  | rewriting (t : Stale Snapshot) (passes : Nat) (current : SharedGuideRecord Snapshot)
  | rechecking (t : Stale Snapshot) (passes : Nat) (current : SharedGuideRecord Snapshot)
  | requeuing (t : Stale Snapshot) (passes : Nat) (current : SharedGuideRecord Snapshot)
  | requeued (t : Stale Snapshot) (passes : Nat) (done : Bool)
  | rereading (t : Stale Snapshot)
  | cleaning (t : Stale Snapshot)
  | cleaned (t : Stale Snapshot)
  | sweeping (w : WorkerId) (job : ShareIndexJob) (latest : SharedGuideRecord Snapshot)
      (version : Nat) (rest : List (Nat × String))
  | staleFailing (w : WorkerId) (job : ShareIndexJob)
  | failing (w : WorkerId) (job : ShareIndexJob)
  | fetchingDelete (w : WorkerId) (job : ShareIndexJob)
  | recheckingDelete (w : WorkerId) (job : ShareIndexJob) (target : SharedGuideRecord Snapshot)
  | wiping (w : WorkerId) (job : ShareIndexJob) (target : SharedGuideRecord Snapshot)
  | verifyingDelete (w : WorkerId) (job : ShareIndexJob) (target : SharedGuideRecord Snapshot)
  | finishingDelete (w : WorkerId) (job : ShareIndexJob) (target : SharedGuideRecord Snapshot)
deriving DecidableEq, Repr

variable {Snapshot : Type}

/-- The store, the version of each share's point in the vector index, and the actors. -/
structure World (Snapshot : Type) where
  store : Store Snapshot
  index : ShareId → Option Nat
  actors : List (ActorId × Pc Snapshot)

def World.start : World Snapshot := ⟨Store.empty, fun _ => none, []⟩

def World.pc (x : World Snapshot) (a : ActorId) : Pc Snapshot :=
  (lookup Prod.fst a x.actors).elim .idle Prod.snd

def World.goto (x : World Snapshot) (a : ActorId) (pc : Pc Snapshot) : World Snapshot :=
  { x with actors := (a, pc) :: x.actors.filter fun p => decide (p.1 ≠ a) }

def World.upsert (x : World Snapshot) (id : ShareId) (version : Nat) : World Snapshot :=
  { x with index := Function.update x.index id (some version) }

/-- A delete carries the version as a filter. -/
def World.delete (x : World Snapshot) (id : ShareId) (version : Nat) : World Snapshot :=
  if x.index id = some version then { x with index := Function.update x.index id none } else x

def World.call (x : World Snapshot) (op : Op Snapshot) : World Snapshot :=
  { x with store := apply x.store op }

def answer (s : Store Snapshot) (op : Op Snapshot) : Option (Answer Snapshot) :=
  match exec s op with
  | .ok r => some r.1
  | .error _ => none

def matchesUpsert (r : SharedGuideRecord Snapshot) (job : ShareIndexJob) : Bool :=
  decide (r.indexVersion = job.indexVersion) && IndexOperation.expects .upsert r

def matchesDelete (r : SharedGuideRecord Snapshot) (job : ShareIndexJob) : Bool :=
  decide (r.indexVersion = job.indexVersion) && IndexOperation.expects .delete r

def sameTarget (matchesJob : SharedGuideRecord Snapshot → ShareIndexJob → Bool)
    (current : Option (SharedGuideRecord Snapshot)) (expected : SharedGuideRecord Snapshot)
    (job : ShareIndexJob) : Bool :=
  current.any fun r =>
    matchesJob r job && decide (r.content.contentHash = expected.content.contentHash)

def sameReadyRecord (current : Option (SharedGuideRecord Snapshot))
    (expected : SharedGuideRecord Snapshot) : Bool :=
  current.any fun r =>
    r.publicReady && decide (r.shareId = expected.shareId) &&
      decide (r.indexVersion = expected.indexVersion) &&
      decide (r.content.contentHash = expected.content.contentHash)

/-- `DELETE_PENDING`, `DELETED` or `FAILED` under `UNPUBLISHED` -/
def SharedGuideRecord.withdrawnFrom (r : SharedGuideRecord Snapshot) : Bool :=
  r.unpublished && (decide (r.indexStatus = .deletePending) || decide (r.indexStatus = .deleted) ||
    decide (r.indexStatus = .failed))

/-- `_cleanup_is_safe` -/
def cleanupIsSafe (current : SharedGuideRecord Snapshot) (job : ShareIndexJob)
    (expected : SharedGuideRecord Snapshot) : Bool :=
  if current.shareId ≠ job.shareId ∨ expected.shareId ≠ job.shareId then false
  else if job.indexVersion < current.indexVersion then
    (decide (current.publicationStatus = .publishing) || current.unpublished) &&
      decide (current.indexStatus ≠ .ready)
  else if current.indexVersion ≠ job.indexVersion then false
  else
    decide (expected.indexVersion = job.indexVersion) &&
      SharedGuideRecord.withdrawnFrom current &&
      decide (current.content.contentHash = expected.content.contentHash)

/-- `_finish_stale_upsert` -/
def finishStale (w : WorkerId) (job : ShareIndexJob)
    (expected : Option (SharedGuideRecord Snapshot)) : Pc Snapshot :=
  match expected with
  | none => .staleFailing w job
  | some e => .reviewing ⟨w, job, e, []⟩ maxReconciliationPasses

/-- The end of a reconciliation that succeeded. -/
def Stale.repaired (t : Stale Snapshot) : Pc Snapshot := .superseding t.job.jobId (some t.worker)

def Stale.unrepaired (t : Stale Snapshot) : Pc Snapshot := .staleFailing t.worker t.job

/-- `_cleanup_upsert`, up to its delete. -/
def Stale.cleanup (t : Stale Snapshot) (current : Option (SharedGuideRecord Snapshot)) :
    Pc Snapshot :=
  match current with
  | none => .rereading t
  | some r => if cleanupIsSafe r t.job t.expected then .cleaning t else t.unrepaired

/-- What a pass of `_reconcile_stale_upsert` does with the record it has read;
`ready` is the way out for a newer record that is `PUBLIC` and `READY`. -/
def Stale.review (t : Stale Snapshot) (current : Option (SharedGuideRecord Snapshot))
    (ready : SharedGuideRecord Snapshot → Pc Snapshot) : Pc Snapshot :=
  match current with
  | none => t.unrepaired
  | some r =>
    if r.indexVersion = t.job.indexVersion then
      if sameReadyRecord (some r) t.expected then t.repaired else t.cleanup (some r)
    else if r.indexVersion < t.job.indexVersion then t.unrepaired
    else if r.publicReady then ready r
    else t.cleanup (some r)

def Stale.pass (t : Stale Snapshot) (passes : Nat)
    (current : Option (SharedGuideRecord Snapshot)) : Pc Snapshot :=
  match passes with
  | 0 => .concluding t
  | passes + 1 => t.review current fun r => .restoring t passes r

def Stale.restore (t : Stale Snapshot) (r : SharedGuideRecord Snapshot) : Stale Snapshot :=
  { t with
    restored := (r.indexVersion, r.content.contentHash) ::
      t.restored.filter fun p => decide (p.1 ≠ r.indexVersion) }

/-- The versions that `_cleanup_stale_upsert_effects` still has to remove. -/
def Stale.leftovers (t : Stale Snapshot) (latest : SharedGuideRecord Snapshot) :
    List (Nat × String) :=
  let hashes :=
    if SharedGuideRecord.withdrawnFrom latest &&
        !(t.restored.any fun p => decide (p.1 = latest.indexVersion)) then
      (latest.indexVersion, latest.content.contentHash) :: t.restored
    else t.restored
  (hashes.mergeSort fun p q => decide (p.1 ≤ q.1)).filter fun p => decide (p.1 ≠ t.job.indexVersion)

/-- The next leftover, if `_cleanup_unpublished_version` lets it be removed. -/
def sweep (w : WorkerId) (job : ShareIndexJob) (latest : SharedGuideRecord Snapshot) :
    List (Nat × String) → Pc Snapshot
  | [] => .superseding job.jobId (some w)
  | (version, hash) :: rest =>
    if latest.shareId = job.shareId ∧ latest.indexVersion = version ∧
        SharedGuideRecord.withdrawnFrom latest = true ∧ latest.content.contentHash = hash then
      .sweeping w job latest version rest
    else .staleFailing w job

def report (w : WorkerId) (job : ShareIndexJob) (op : IndexOperation) : Report :=
  ⟨job.jobId, job.shareId, job.indexVersion, op, w⟩

/-- The report of a request names the version of the record it staged. -/
def requestReport (w : WorkerId) (record : SharedGuideRecord Snapshot) (job : ShareIndexJob)
    (op : IndexOperation) : Report :=
  ⟨job.jobId, record.shareId, record.indexVersion, op, w⟩

variable (cfg : Settings)

def failureOf (p : Report) (job : ShareIndexJob) (error : String) (now : Time)
    (record : Report → String → Option Time → Bool → Time → Op Snapshot) : Op Snapshot :=
  let terminal := decide (cfg.maxAttempts ≤ job.attemptCount)
  record p error (if terminal then none else some (now + cfg.retryDelay job.attemptCount)) terminal now

def affirmed : Option (Answer Snapshot) → Bool
  | some (.flag b) => b
  | _ => false

/-- Ask the store, then go one way if it answers yes and another if not. -/
def World.ask (x : World Snapshot) (a : ActorId) (op : Op Snapshot) (yes no : Pc Snapshot) :
    World Snapshot :=
  (x.call op).goto a (if affirmed (answer x.store op) then yes else no)

/-- Read the share, and go on with the record or with the exception. -/
def World.look (x : World Snapshot) (a : ActorId) (id : ShareId)
    (next : Option (SharedGuideRecord Snapshot) → Pc Snapshot) (raised : Pc Snapshot) :
    World Snapshot :=
  match getIndexRecord x.store id with
  | .ok r => x.goto a (next r)
  | .error _ => x.goto a raised

/-- The next call of an actor that is under way. -/
def World.proceed (x : World Snapshot) (a : ActorId) (now : Time) :
    Option (World Snapshot) :=
  match x.pc a with
  | .idle | .claiming _ _ => none
  | .upserting w record job =>
    some ((x.upsert record.shareId record.indexVersion).goto a (.completing w record job))
  | .completing w record job =>
    some (x.ask a (.completeIndexOperation (requestReport w record job .upsert) now) .idle
      (.removing w record job))
  | .removing w record job =>
    some ((x.delete record.shareId record.indexVersion).goto a (.superseding job.jobId (some w)))
  | .erasing w record job =>
    some ((x.delete record.shareId record.indexVersion).goto a (.closing w record job))
  | .closing w record job =>
    some (x.ask a (.completeIndexOperation (requestReport w record job .delete) now) .idle
      (.superseding job.jobId (some w)))
  | .superseding jobId worker => some ((x.call (.supersedeIndexJob jobId worker now)).goto a .idle)
  | .fetching w job =>
    some (x.look a job.shareId
      (fun r => match r with
        | some target => if matchesUpsert target job then .embedding w job target
          else finishStale w job (some target)
        | none => finishStale w job none) (.failing w job))
  | .embedding w job target =>
    some (x.look a job.shareId
      (fun r => if sameTarget matchesUpsert r target job then .writing w job target
        else finishStale w job (some target)) (.embedFailed w job target))
  | .embedFailed w job target =>
    some (x.look a job.shareId
      (fun r => if sameTarget matchesUpsert r target job then .failing w job
        else finishStale w job (some target)) (.failing w job))
  | .writing w job target =>
    some ((x.upsert target.shareId target.indexVersion).goto a (.verifying w job target))
  | .verifying w job target =>
    some (x.look a job.shareId
      (fun r => if sameTarget matchesUpsert r target job then .finishing w job target
        else finishStale w job (some target)) (.failing w job))
  | .finishing w job target =>
    some (x.ask a (.completeIndexOperation (report w job .upsert) now) .idle
      (finishStale w job (some target)))
  | .reviewing t passes => some (x.look a t.job.shareId (fun r => t.pass passes r) t.unrepaired)
  | .concluding t =>
    some (x.look a t.job.shareId (fun r => t.review r fun _ => t.unrepaired) t.unrepaired)
  | .restoring t passes current =>
    some (x.look a t.job.shareId
      (fun r => if sameReadyRecord r current then .rewriting (t.restore current) passes current
        else .reviewing t passes) t.unrepaired)
  | .rewriting t passes current =>
    some ((x.upsert current.shareId current.indexVersion).goto a (.rechecking t passes current))
  | .rechecking t passes current =>
    some (x.look a t.job.shareId
      (fun r => if sameReadyRecord r current then t.repaired else .requeuing t passes current)
      t.unrepaired)
  | .requeuing t passes current =>
    some (x.ask a (.requeueCurrentUpsert current.shareId current.indexVersion
      current.content.contentHash now) (.requeued t passes true) (.requeued t passes false))
  | .requeued t passes done =>
    some (x.look a t.job.shareId (fun r => if done then t.cleanup r else t.pass passes r)
      t.unrepaired)
  | .rereading t =>
    some (x.look a t.job.shareId
      (fun r => if r.isNone then t.unrepaired else t.cleanup r) t.unrepaired)
  | .cleaning t => some ((x.delete t.job.shareId t.job.indexVersion).goto a (.cleaned t))
  | .cleaned t =>
    some (x.look a t.job.shareId
      (fun r => match r with
        | none => t.unrepaired
        | some latest => sweep t.worker t.job latest (t.leftovers latest)) t.unrepaired)
  | .sweeping w job latest version rest =>
    some ((x.delete job.shareId version).goto a (sweep w job latest rest))
  | .staleFailing w job =>
    some ((x.call (failureOf cfg (report w job job.operation) job "RuntimeError" now
      .recordIndexJobFailure)).goto a .idle)
  | .failing w job =>
    some (x.ask a (failureOf cfg (report w job job.operation) job "ValidationError" now
      .recordIndexFailure) .idle (.superseding job.jobId (some w)))
  | .fetchingDelete w job =>
    some (x.look a job.shareId
      (fun r => match r with
        | some target => if matchesDelete target job then .recheckingDelete w job target
          else .superseding job.jobId (some w)
        | none => .superseding job.jobId (some w)) (.failing w job))
  | .recheckingDelete w job target =>
    some (x.look a job.shareId
      (fun r => if sameTarget matchesDelete r target job then .wiping w job target
        else .superseding job.jobId (some w)) (.failing w job))
  | .wiping w job target =>
    some ((x.delete job.shareId job.indexVersion).goto a (.verifyingDelete w job target))
  | .verifyingDelete w job target =>
    some (x.look a job.shareId
      (fun r => if sameTarget matchesDelete r target job then .finishingDelete w job target
        else .superseding job.jobId (some w)) (.failing w job))
  | .finishingDelete w job _ =>
    some (x.ask a (.completeIndexOperation (report w job .delete) now) .idle
      (.superseding job.jobId (some w)))

inductive Label (Snapshot : Type)
  | share (a : ActorId) (draft : SharePublishDraft Snapshot) (now : Time) (shareId : ShareId)
      (jobId : JobId)
  | update (a : ActorId) (id : ShareId) (author : UserId) (draft : SharePublishDraft Snapshot)
      (now : Time) (jobId : JobId)
  | unpublish (a : ActorId) (id : ShareId) (author : UserId) (now : Time) (jobId : JobId)
  | claim (a : ActorId) (worker : WorkerId) (now : Time)
  | poll (a : ActorId) (worker : WorkerId) (now : Time) (locked : List JobId)
  | proceed (a : ActorId) (now : Time)
  | crash (a : ActorId)
deriving DecidableEq, Repr

/-- The position of a request once its intent is stored. -/
def begun (r : Option (Answer Snapshot)) : Pc Snapshot :=
  match r with
  | some (.intent ⟨record, some job, _, true⟩) => .claiming record job
  | _ => .idle

/-- The position of a request after its attempt to claim the job. -/
def World.claimed (record : SharedGuideRecord Snapshot) (job : ShareIndexJob) (w : WorkerId)
    (r : Option (Answer Snapshot)) : Pc Snapshot :=
  match r, job.operation with
  | some (.job (some _)), .upsert => .upserting w record job
  | some (.job (some _)), .delete => .erasing w record job
  | some (.job none), .delete => .superseding job.jobId none
  | _, _ => .idle

def polled (w : WorkerId) (r : Option (Answer Snapshot)) : Pc Snapshot :=
  match r with
  | some (.job (some job)) =>
    match job.operation with
    | .upsert => .fetching w job
    | .delete => .fetchingDelete w job
  | _ => .idle

def noExpectation : ExpectedIdentity := ⟨none, none, none, none⟩

/-- The call that opens a request or a round of a worker. -/
def Label.opening : Label Snapshot → Option (ActorId × Op Snapshot)
  | .share a draft now shareId jobId => some (a, .createPublishIntent draft now shareId jobId)
  | .update a id author draft now jobId =>
    some (a, .stageUpdate id author draft now true noExpectation jobId)
  | .unpublish a id author now jobId => some (a, .stageUnpublish id author now jobId)
  | .poll a worker now locked =>
    some (a, .claimNextIndexJob worker now cfg.leaseSeconds cfg.maxAttempts locked)
  | _ => none

def step (x : World Snapshot) (label : Label Snapshot) :
    Option (World Snapshot) :=
  match label.opening cfg, label with
  | some (a, op), _ =>
    match x.pc a, label with
    | .idle, .poll _ worker _ _ => some ((x.call op).goto a (polled worker (answer x.store op)))
    | .idle, _ => some ((x.call op).goto a (begun (answer x.store op)))
    | _, _ => none
  | none, .claim a worker now =>
    match x.pc a with
    | .claiming record job =>
      let op := Op.claimIndexJob job.jobId worker now cfg.leaseSeconds
      some ((x.call op).goto a (World.claimed record job worker (answer x.store op)))
    | _ => none
  | none, .proceed a now => x.proceed cfg a now
  | none, .crash a => some (x.goto a .idle)
  | none, _ => none

end TravelAgent.ShareIndexing

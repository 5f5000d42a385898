import TravelAgent.Rows
import TravelAgent.ShareRecord

namespace TravelAgent.ShareStore

open TravelAgent.Leasing TravelAgent.Rows TravelAgent.ShareRecord

structure Store (Snapshot : Type) where
  shares : List (SharedGuideRecord Snapshot)
  jobs : List ShareIndexJob
  likes : List SharedGuideLike
deriving DecidableEq, Repr

variable {Snapshot : Type}

def Store.empty : Store Snapshot := ⟨[], [], []⟩

def Store.share (s : Store Snapshot) (id : ShareId) : Option (SharedGuideRecord Snapshot) :=
  lookup SharedGuideRecord.shareId id s.shares

def Store.job (s : Store Snapshot) (id : JobId) : Option ShareIndexJob :=
  lookup ShareIndexJob.jobId id s.jobs

def Store.setShare (s : Store Snapshot) (id : ShareId)
    (f : SharedGuideRecord Snapshot → SharedGuideRecord Snapshot) : Store Snapshot :=
  { s with shares := updateWhere (fun r => decide (r.shareId = id)) f s.shares }

def Store.setJob (s : Store Snapshot) (id : JobId) (f : ShareIndexJob → ShareIndexJob) :
    Store Snapshot :=
  { s with jobs := updateWhere (fun j => decide (j.jobId = id)) f s.jobs }

def Store.ownedBy (s : Store Snapshot) (author session : String) :
    Option (SharedGuideRecord Snapshot) :=
  s.shares.find? fun r =>
    decide (r.content.authorUserId = author) && decide (r.content.sourceSessionId = session)

def ShareIndexJob.isActiveUpsert (j : ShareIndexJob) (id : ShareId) (now : Time) : Bool :=
  decide (j.shareId = id) && decide (j.operation = .upsert) && decide (j.status = .running) &&
    j.leaseExpiresAt.any fun e => decide (now < e)

def ShareIndexJob.supersedable (j : ShareIndexJob) (id : ShareId) (now : Time) : Bool :=
  decide (j.shareId = id) && decide (j.operation = .upsert) &&
    (decide (j.status = .pending) || j.expired now)

/-- The job row after it was retired in favour of a newer state of its share. -/
def ShareIndexJob.retired (j : ShareIndexJob) (now : Time) : ShareIndexJob :=
  { j with
    status := .succeeded, leaseOwner := none, leaseExpiresAt := none, nextRetryAt := none
    updatedAt := now }

/-- `_supersede_old_upserts` -/
def Store.supersedeOldUpserts (s : Store Snapshot) (id : ShareId) (now : Time)
    (rejectActive : Bool) : Except ShareError (Store Snapshot) :=
  if rejectActive && s.jobs.any fun j => ShareIndexJob.isActiveUpsert j id now then
    .error (.sharedGuideConflict "分享索引任务仍由有效租约处理")
  else
    .ok { s with
      jobs := updateWhere (fun j => ShareIndexJob.supersedable j id now)
        (fun j => ShareIndexJob.retired j now) s.jobs }

def newJob (jobId : JobId) (shareId : ShareId) (op : IndexOperation) (version : Nat) (now : Time) :
    ShareIndexJob :=
  ⟨jobId, shareId, op, version, .pending, 0, none, none, none, none, now, now⟩

/-- `_insert_job`, under the primary key and the unique version key. -/
def Store.insertJob (s : Store Snapshot) (job : ShareIndexJob) :
    Except ShareError (Store Snapshot) :=
  if s.jobs.any fun j => decide (j.jobId = job.jobId) || (decide (j.shareId = job.shareId) &&
      decide (j.operation = job.operation) && decide (j.indexVersion = job.indexVersion)) then
    .error (.integrityError "share_index_jobs")
  else .ok { s with jobs := s.jobs ++ [job] }

/-- `_find_version_job` -/
def Store.findVersionJob (s : Store Snapshot) (id : ShareId) (op : IndexOperation)
    (version : Nat) : Option ShareIndexJob :=
  s.jobs.find? fun j =>
    decide (j.shareId = id) && decide (j.operation = op) && decide (j.indexVersion = version)

/-- The share row with a draft staged on it as the next version. -/
def SharedGuideRecord.staged (r : SharedGuideRecord Snapshot) (draft : SharePublishDraft Snapshot)
    (now : Time) : SharedGuideRecord Snapshot :=
  { r with
    content := draft
    publicationStatus := .publishing
    indexStatus := .pending
    indexVersion := r.indexVersion + 1
    lastIndexError := none
    indexedAt := none
    publishedAt := some now
    updatedAt := now }

/-- `_stage_new_upsert` -/
def Store.stageNewUpsert (s : Store Snapshot) (row : SharedGuideRecord Snapshot)
    (draft : SharePublishDraft Snapshot) (now : Time) (rejectActive : Bool) (jobId : JobId) :
    Except ShareError (ShareIndexIntent Snapshot × Store Snapshot) := do
  let s ← s.supersedeOldUpserts row.shareId now rejectActive
  let row' := SharedGuideRecord.staged row draft now
  let job := newJob jobId row.shareId .upsert row'.indexVersion now
  let s ← (s.setShare row.shareId fun r => SharedGuideRecord.staged r draft now).insertJob job
  let record ← recordFromRow row'
  return (⟨record, some job, false, true⟩, s)

def newShare (shareId : ShareId) (draft : SharePublishDraft Snapshot) (now : Time) :
    SharedGuideRecord Snapshot :=
  ⟨shareId, draft, .publishing, .pending, 1, 0, none, none, some now, now, now⟩

/-- The intent for a share whose current version is still being indexed. -/
def Store.pendingIntent (s : Store Snapshot) (record : SharedGuideRecord Snapshot) :
    ShareIndexIntent Snapshot :=
  let job := s.findVersionJob record.shareId .upsert record.indexVersion
  ⟨record, job, false,
    job.any fun j => decide (j.status = .pending) || decide (j.status = .running)⟩

/-- The transaction of `create_publish_intent`. -/
def Store.tryPublish (s : Store Snapshot) (draft : SharePublishDraft Snapshot) (now : Time)
    (shareId : ShareId) (jobId : JobId) :
    Except ShareError (ShareIndexIntent Snapshot × Store Snapshot) :=
  match s.ownedBy draft.authorUserId draft.sourceSessionId with
  | some existing => do
    let record ← recordFromRow existing
    if record.unpublished then s.stageNewUpsert existing draft now true jobId
    else if record.content.contentHash ≠ draft.contentHash then
      .error (.sharedGuideConflict "当前会话已有活动分享；内容变更必须使用显式更新")
    else if record.publicReady then return (⟨record, none, false, false⟩, s)
    else return (s.pendingIntent record, s)
  | none =>
    if s.shares.any fun r => decide (r.shareId = shareId) then .error (.integrityError "shared_guides")
    else do
      let row := newShare shareId draft now
      let job := newJob jobId shareId .upsert 1 now
      let s ← Store.insertJob { s with shares := s.shares ++ [row] } job
      let record ← recordFromRow row
      return (⟨record, some job, true, true⟩, s)

/-- `create_publish_intent`. A lost insert race is answered from the stored share. -/
def createPublishIntent (s : Store Snapshot) (draft : SharePublishDraft Snapshot) (now : Time)
    (shareId : ShareId) (jobId : JobId) :
    Except ShareError (ShareIndexIntent Snapshot × Store Snapshot) :=
  match s.tryPublish draft now shareId jobId with
  | .error (.integrityError _) =>
    match s.ownedBy draft.authorUserId draft.sourceSessionId with
    | none => .error (.sharedGuideConflict "当前会话已有不同内容的活动分享")
    | some existing => do
      let record ← recordFromRow existing
      if record.content.contentHash ≠ draft.contentHash then
        .error (.sharedGuideConflict "当前会话已有不同内容的活动分享")
      else return (s.pendingIntent record, s)
  | r => r

structure ExpectedIdentity where
  indexVersion : Option Nat
  contentHash : Option String
  publishedAt : Option Time
  indexedAt : Option Time
deriving DecidableEq, Repr

/-- `_validate_expected_share_identity` -/
def ExpectedIdentity.validate (e : ExpectedIdentity) (r : SharedGuideRecord Snapshot) :
    Except ShareError Unit :=
  match e.indexVersion, e.contentHash, e.publishedAt, e.indexedAt with
  | none, none, none, none => .ok ()
  | some version, some hash, some publishedAt, some indexedAt =>
    if r.publicReady ∧ r.indexVersion = version ∧ r.content.contentHash = hash ∧
        r.publishedAt = some publishedAt ∧ r.indexedAt = some indexedAt then .ok ()
    else .error (.sharedGuideConflict "分享内容已并发变更")
  | _, _, _, _ =>
    .error (.valueError "expected share identity requires version, hash, and both timestamps")

def Store.owned (s : Store Snapshot) (id : ShareId) (author : UserId) :
    Option (SharedGuideRecord Snapshot) :=
  (s.share id).filter fun r => decide (r.content.authorUserId = author)

def stageUpdate (s : Store Snapshot) (id : ShareId) (author : UserId)
    (draft : SharePublishDraft Snapshot) (now : Time) (allowActiveUpsertSupersede : Bool)
    (expected : ExpectedIdentity) (jobId : JobId) :
    Except ShareError (ShareIndexIntent Snapshot × Store Snapshot) :=
  if draft.authorUserId ≠ author then
    .error (.sharedGuideConflict "更新草稿的作者与分享作者不一致")
  else
    match s.owned id author with
    | none => .error (.sharedGuideNotFound id)
    | some row => do
      expected.validate row
      if row.content.sourceSessionId ≠ draft.sourceSessionId then
        .error (.sharedGuideConflict "更新草稿必须来自同一旅行会话")
      else if row.unpublished then
        .error (.sharedGuideConflict "已取消公开的分享必须通过会话重新发布")
      else s.stageNewUpsert row draft now (!allowActiveUpsertSupersede) jobId

def SharedGuideRecord.withdrawn (r : SharedGuideRecord Snapshot) (now : Time) :
    SharedGuideRecord Snapshot :=
  { r with
    publicationStatus := .unpublished
    indexStatus := .deletePending
    lastIndexError := none
    updatedAt := now }

def stageUnpublish (s : Store Snapshot) (id : ShareId) (author : UserId) (now : Time)
    (jobId : JobId) : Except ShareError (ShareIndexIntent Snapshot × Store Snapshot) :=
  match s.owned id author with
  | none => .error (.sharedGuideNotFound id)
  | some row => do
    let record ← recordFromRow row
    if record.unpublished then return (⟨record, none, false, false⟩, s)
    else
      let s ← s.supersedeOldUpserts id now false
      let row' := SharedGuideRecord.withdrawn row now
      let job := newJob jobId id .delete record.indexVersion now
      let s ← (s.setShare id fun r => SharedGuideRecord.withdrawn r now).insertJob job
      let record ← recordFromRow row'
      return (⟨record, some job, false, true⟩, s)

def ShareIndexJob.claimed (j : ShareIndexJob) (worker : WorkerId) (now leaseSeconds : Time) :
    ShareIndexJob :=
  { j with
    status := .running
    attemptCount := j.attemptCount + 1
    nextRetryAt := none
    leaseOwner := some worker
    leaseExpiresAt := some (now + leaseSeconds)
    updatedAt := now }

def claimIndexJob (s : Store Snapshot) (jobId : JobId) (worker : WorkerId)
    (now leaseSeconds : Time) : Except ShareError (Option ShareIndexJob × Store Snapshot) := do
  let worker ← checkedWorker worker leaseSeconds
  match s.job jobId with
  | none => return (none, s)
  | some j =>
    if j.duePending now || j.expired now then
      return (some (ShareIndexJob.claimed j worker now leaseSeconds),
        s.setJob jobId fun j => ShareIndexJob.claimed j worker now leaseSeconds)
    else return (none, s)

/-- `_oldest_claim_candidate` -/
def Store.oldestClaimCandidate (s : Store Snapshot) (now : Time) (maxAttempts : Nat)
    (skipped : List JobId) : Option ShareIndexJob :=
  pickBy (fun i j => decide (i.createdAt < j.createdAt) ||
      (decide (i.createdAt = j.createdAt) && decide (i.jobId < j.jobId)))
    (s.jobs.filter fun j => j.claimCandidate now maxAttempts && !skipped.contains j.jobId)

def SharedGuideRecord.leaseExpired (r : SharedGuideRecord Snapshot) (now : Time) :
    SharedGuideRecord Snapshot :=
  { r with indexStatus := .failed, lastIndexError := some "IndexLeaseExpired", updatedAt := now }

/-- `_terminalize_expired_claim` -/
def Store.terminalizeExpiredClaim (s : Store Snapshot) (j : ShareIndexJob) (now : Time) :
    Store Snapshot :=
  (s.setShare j.shareId fun r =>
    if r.indexVersion = j.indexVersion ∧ j.operation.expects r = true then
      SharedGuideRecord.leaseExpired r now
    else r).setJob j.jobId fun j =>
      { j with
        status := .failed, nextRetryAt := none, leaseOwner := none, leaseExpiresAt := none
        lastError := some "IndexLeaseExpired", updatedAt := now }

/-- The loop of `claim_next_index_job`. Every round retires or skips a candidate,
so the rounds are bounded by the number of jobs. -/
def Store.claimRounds (s : Store Snapshot) (worker : WorkerId) (now leaseSeconds : Time)
    (maxAttempts : Nat) (locked : List JobId) :
    Nat → List JobId → Option ShareIndexJob × Store Snapshot
  | 0, _ => (none, s)
  | rounds + 1, skipped =>
    match s.oldestClaimCandidate now maxAttempts skipped with
    | none => (none, s)
    | some j =>
      if locked.contains j.jobId ∨ s.share j.shareId = none then
        s.claimRounds worker now leaseSeconds maxAttempts locked rounds (j.jobId :: skipped)
      else if maxAttempts ≤ j.attemptCount then
        (s.terminalizeExpiredClaim j now).claimRounds worker now leaseSeconds maxAttempts locked
          rounds skipped
      else
        (some (ShareIndexJob.claimed j worker now leaseSeconds),
          s.setJob j.jobId fun j => ShareIndexJob.claimed j worker now leaseSeconds)

def claimNextIndexJob (s : Store Snapshot) (worker : WorkerId) (now leaseSeconds : Time)
    (maxAttempts : Nat) (locked : List JobId) :
    Except ShareError (Option ShareIndexJob × Store Snapshot) := do
  let worker ← checkedWorker worker leaseSeconds
  if maxAttempts = 0 then .error (.valueError "max_attempts must be positive")
  else return s.claimRounds worker now leaseSeconds maxAttempts locked (s.jobs.length + 1) []

def indexReconciliationError : String := "IndexReconciliationRequired"

def SharedGuideRecord.requeued (r : SharedGuideRecord Snapshot) (now : Time) :
    SharedGuideRecord Snapshot :=
  { r with
    publicationStatus := .publishing
    indexStatus := .pending
    indexedAt := none
    lastIndexError := some indexReconciliationError
    updatedAt := now }

def requeueCurrentUpsert (s : Store Snapshot) (id : ShareId) (version : Nat) (hash : String)
    (now : Time) : Bool × Store Snapshot :=
  match s.share id with
  | none => (false, s)
  | some r =>
    if r.indexVersion = version ∧ r.content.contentHash = hash ∧ r.publicReady = true then
      match (s.findVersionJob id .upsert version).filter fun j => decide (j.status = .succeeded) with
      | none => (false, s)
      | some j =>
        (true, (s.setShare id fun r => SharedGuideRecord.requeued r now).setJob j.jobId fun j =>
          { j with
            status := .pending, attemptCount := 0, nextRetryAt := none, leaseOwner := none
            leaseExpiresAt := none, lastError := some indexReconciliationError, updatedAt := now })
    else (false, s)

/-- What a worker names when it reports on a job that it runs. -/
structure Report where
  jobId : JobId
  shareId : ShareId
  indexVersion : Nat
  operation : IndexOperation
  worker : WorkerId
deriving DecidableEq, Repr

/-- The job of a report, if it is the reported one under an unexpired lease. -/
def Store.heldJob (s : Store Snapshot) (p : Report) (now : Time) : Option ShareIndexJob :=
  (s.job p.jobId).filter fun j =>
    decide (j.shareId = p.shareId) && decide (j.indexVersion = p.indexVersion) &&
      decide (j.operation = p.operation) && j.leaseMatches p.worker now

/-- The share row after the reported operation was completed. -/
def SharedGuideRecord.completed (r : SharedGuideRecord Snapshot) (op : IndexOperation)
    (now : Time) : SharedGuideRecord Snapshot :=
  match op with
  | .upsert =>
    { r with
      publicationStatus := .published
      indexStatus := .ready
      indexedAt := some now
      lastIndexError := none
      updatedAt := now }
  | .delete =>
    { r with
      publicationStatus := .unpublished
      indexStatus := .deleted
      lastIndexError := none
      updatedAt := now }

/-- Lock the share at the reported version and the held job, and update both if
the share is in a status that the operation expects. -/
def Store.settleReport (s : Store Snapshot) (p : Report) (now : Time)
    (share : SharedGuideRecord Snapshot → SharedGuideRecord Snapshot)
    (job : ShareIndexJob → ShareIndexJob) : Bool × Store Snapshot :=
  match (s.share p.shareId).filter fun r => decide (r.indexVersion = p.indexVersion) with
  | none => (false, s)
  | some r =>
    match s.heldJob p now with
    | none => (false, s)
    | some _ =>
      if p.operation.expects r then (true, (s.setShare p.shareId share).setJob p.jobId job)
      else (false, s)

def completeIndexOperation (s : Store Snapshot) (p : Report) (now : Time) :
    Bool × Store Snapshot :=
  s.settleReport p now (fun r => SharedGuideRecord.completed r p.operation now) fun j =>
    { j with
      status := .succeeded, nextRetryAt := none, leaseOwner := none, leaseExpiresAt := none
      lastError := none, updatedAt := now }

/-- The job row after a failed attempt. -/
def ShareIndexJob.failedWith (j : ShareIndexJob) (error : String) (nextRetryAt : Option Time)
    (terminal : Bool) (now : Time) : ShareIndexJob :=
  { j with
    status := if terminal then .failed else .pending
    nextRetryAt := if terminal then none else nextRetryAt
    leaseOwner := none
    leaseExpiresAt := none
    lastError := some error
    updatedAt := now }

/-- `_sanitize_error` on the name of an exception's class. -/
def sanitizeError (error : String) : String := String.ofList (error.toList.take 1000)

/-- The share row after a failed attempt at its current version. -/
def SharedGuideRecord.failedWith (r : SharedGuideRecord Snapshot) (op : IndexOperation)
    (error : String) (terminal : Bool) (now : Time) : SharedGuideRecord Snapshot :=
  { r with
    indexStatus :=
      match op with
      | .upsert => .failed
      | .delete => if terminal then .failed else .deletePending
    lastIndexError := some error
    updatedAt := now }

def recordIndexFailure (s : Store Snapshot) (p : Report) (error : String)
    (nextRetryAt : Option Time) (terminal : Bool) (now : Time) :
    Except ShareError (Bool × Store Snapshot) :=
  if !terminal && nextRetryAt.isNone then
    .error (.valueError "retryable failures require next_retry_at")
  else
    .ok (s.settleReport p now
      (fun r => SharedGuideRecord.failedWith r p.operation (sanitizeError error) terminal now)
      fun j => ShareIndexJob.failedWith j (sanitizeError error) nextRetryAt terminal now)

def recordIndexJobFailure (s : Store Snapshot) (p : Report) (error : String)
    (nextRetryAt : Option Time) (terminal : Bool) (now : Time) :
    Except ShareError (Bool × Store Snapshot) :=
  if !terminal && nextRetryAt.isNone then
    .error (.valueError "retryable failures require next_retry_at")
  else
    match s.share p.shareId, s.heldJob p now with
    | some _, some _ =>
      .ok (true, s.setJob p.jobId fun j =>
        ShareIndexJob.failedWith j (sanitizeError error) nextRetryAt terminal now)
    | _, _ => .ok (false, s)

/-- `_job_effect_is_obsolete` -/
def jobEffectIsObsolete (r : SharedGuideRecord Snapshot) (j : ShareIndexJob) : Bool :=
  if j.indexVersion < r.indexVersion then true
  else if r.indexVersion < j.indexVersion then false
  else
    match j.operation with
    | .upsert => r.unpublished || r.publicReady
    | .delete =>
      decide (r.publicationStatus = .published) || (r.unpublished && decide (r.indexStatus = .deleted))

def supersedeIndexJob (s : Store Snapshot) (jobId : JobId) (worker : Option WorkerId)
    (now : Time) : Bool × Store Snapshot :=
  match s.job jobId with
  | none => (false, s)
  | some j =>
    match s.share j.shareId with
    | none => (false, s)
    | some r =>
      let allowed :=
        match worker with
        | none => decide (j.status = .pending) || j.expired now
        | some w => j.leaseMatches w now
      if allowed && jobEffectIsObsolete r j then
        (true, s.setJob jobId fun j => ShareIndexJob.retired j now)
      else (false, s)

def Store.publicReadyShare (s : Store Snapshot) (id : ShareId) :
    Except ShareError (SharedGuideRecord Snapshot) :=
  match (s.share id).filter SharedGuideRecord.publicReady with
  | none => .error (.sharedGuideNotFound id)
  | some r => .ok r

def Store.likeCountOf (s : Store Snapshot) (id : ShareId) : Nat :=
  ((s.share id).map SharedGuideRecord.likeCount).getD 0

def putLike (s : Store Snapshot) (id : ShareId) (user : UserId) (now : Time) (likeId : String) :
    Except ShareError (LikeMutation × Store Snapshot) := do
  let r ← s.publicReadyShare id
  if r.content.authorUserId = user then .error (.sharedGuideForbidden "作者不能点赞自己的分享")
  else
    let ignored := s.likes.any fun l =>
      decide (l.likeId = likeId) || (decide (l.shareId = id) && decide (l.userId = user))
    let s := if ignored then s else
      { s.setShare id fun r => { r with likeCount := r.likeCount + 1 } with
        likes := s.likes ++ [⟨likeId, id, user, now⟩] }
    return (⟨true, s.likeCountOf id⟩, s)

def deleteLike (s : Store Snapshot) (id : ShareId) (user : UserId) :
    Except ShareError (LikeMutation × Store Snapshot) := do
  let r ← s.publicReadyShare id
  if r.content.authorUserId = user then
    .error (.sharedGuideForbidden "作者不能取消自己分享的点赞")
  else
    let mine : SharedGuideLike → Bool := fun l => decide (l.shareId = id) && decide (l.userId = user)
    let s := if (s.likes.filter mine).length = 1 then
        { s.setShare id fun r => { r with likeCount := r.likeCount - 1 } with
          likes := s.likes.filter fun l => !mine l }
      else { s with likes := s.likes.filter fun l => !mine l }
    return (⟨false, s.likeCountOf id⟩, s)

end TravelAgent.ShareStore

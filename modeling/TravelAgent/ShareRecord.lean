import Mathlib
import TravelAgent.Leasing
import TravelAgent.TaskStore

namespace TravelAgent.ShareRecord

open TravelAgent.Leasing
open TravelAgent.TaskStore (pySpace)

abbrev ShareId := String
abbrev JobId := String
abbrev UserId := String
abbrev WorkerId := String

/-- `PUBLISHING`, `PUBLIC` and `UNPUBLISHED` -/
inductive PublicationStatus
  | publishing | published | unpublished
deriving DecidableEq, Repr

inductive ShareIndexStatus
  | pending | ready | failed | deletePending | deleted
deriving DecidableEq, Repr

inductive IndexOperation
  | upsert | delete
deriving DecidableEq, Repr

inductive IndexJobStatus
  | pending | running | succeeded | failed
deriving DecidableEq, Repr

/-- The content columns of a share, as a publish draft brings them. -/
structure SharePublishDraft (Snapshot : Type) where
  authorUserId : UserId
  sourceSessionId : String
  sourceVersionId : String
  sourceVersionNumber : Nat
  title : String
  city : String
  cityNormalized : String
  travelDays : Nat
  transportation : String
  accommodation : String
  preferences : List String
  snapshot : Snapshot
  retrievalText : String
  contentHash : String
  qualityLevel : String
  qualityScore : Option Rat
  embeddingModel : String
  embeddingDimension : Nat
  retrievalTemplateVersion : String
deriving DecidableEq, Repr

/-- A row of `shared_guides`. -/
structure SharedGuideRecord (Snapshot : Type) where
  shareId : ShareId
  content : SharePublishDraft Snapshot
  publicationStatus : PublicationStatus
  indexStatus : ShareIndexStatus
  indexVersion : Nat
  likeCount : Nat
  lastIndexError : Option String
  indexedAt : Option Time
  publishedAt : Option Time
  createdAt : Time
  updatedAt : Time
deriving DecidableEq, Repr

/-- A row of `share_index_jobs`. -/
structure ShareIndexJob where
  jobId : JobId
  shareId : ShareId
  operation : IndexOperation
  indexVersion : Nat
  status : IndexJobStatus
  attemptCount : Nat
  nextRetryAt : Option Time
  leaseOwner : Option WorkerId
  leaseExpiresAt : Option Time
  lastError : Option String
  createdAt : Time
  updatedAt : Time
deriving DecidableEq, Repr

structure SharedGuideLike where
  likeId : String
  shareId : ShareId
  userId : UserId
  createdAt : Time
deriving DecidableEq, Repr

structure ShareIndexIntent (Snapshot : Type) where
  record : SharedGuideRecord Snapshot
  job : Option ShareIndexJob
  created : Bool
  operationRequired : Bool
deriving DecidableEq, Repr

structure LikeMutation where
  liked : Bool
  likeCount : Nat
deriving DecidableEq, Repr

inductive ShareError
  | valueError (message : String)
  | validationError (message : String)
  | integrityError (table : String)
  | sharedGuideConflict (message : String)
  | sharedGuideForbidden (message : String)
  | sharedGuideNotFound (id : ShareId)
  | invalidShareCursor (message : String)
deriving DecidableEq, Repr

variable {Snapshot : Type}

def SharedGuideRecord.unpublished (r : SharedGuideRecord Snapshot) : Bool :=
  decide (r.publicationStatus = .unpublished)

/-- `PUBLIC` and `READY`: what readers outside see. -/
def SharedGuideRecord.publicReady (r : SharedGuideRecord Snapshot) : Bool :=
  decide (r.publicationStatus = .published) && decide (r.indexStatus = .ready)

/-- `validate_public_ready_timestamps` -/
def validatePublicReadyTimestamps (r : SharedGuideRecord Snapshot) : Except ShareError Unit :=
  if r.indexStatus = .ready ∧ r.indexedAt = none then
    .error (.validationError "READY records require indexed_at")
  else if r.publicationStatus = .published ∧ r.indexStatus ≠ .ready then
    .error (.validationError "PUBLIC records require READY index status")
  else if r.publicationStatus = .published ∧ r.publishedAt = none then
    .error (.validationError "PUBLIC records require published_at")
  else if r.indexedAt.any fun i => r.publishedAt.any fun p => decide (i < p) then
    .error (.validationError "published_at cannot follow indexed_at")
  else .ok ()

/-- `_record_from_row` -/
def recordFromRow (r : SharedGuideRecord Snapshot) :
    Except ShareError (SharedGuideRecord Snapshot) :=
  (validatePublicReadyTimestamps r).map fun _ => r

theorem recordFromRow_ok {r q : SharedGuideRecord Snapshot} (h : recordFromRow r = .ok q) :
    q = r := by
  simp only [recordFromRow] at h
  cases hv : validatePublicReadyTimestamps r with
  | error e =>
    rw [hv] at h
    cases h
  | ok u =>
    rw [hv] at h
    cases h
    rfl

/-- The statuses of a share from which the completion or the failure of a job
with this operation may move it. -/
def IndexOperation.expects (op : IndexOperation) (r : SharedGuideRecord Snapshot) : Bool :=
  match op with
  | .upsert =>
    decide (r.publicationStatus = .publishing) &&
      (decide (r.indexStatus = .pending) || decide (r.indexStatus = .failed))
  | .delete =>
    decide (r.publicationStatus = .unpublished) &&
      (decide (r.indexStatus = .deletePending) || decide (r.indexStatus = .failed))

/-- `_lease_matches` -/
def ShareIndexJob.leaseMatches (j : ShareIndexJob) (worker : WorkerId) (now : Time) : Bool :=
  decide (j.status = .running) && decide (j.leaseOwner = some worker) &&
    j.leaseExpiresAt.any fun e => decide (now < e)

/-- A running job whose lease is missing or has run out. -/
def ShareIndexJob.expired (j : ShareIndexJob) (now : Time) : Bool :=
  decide (j.status = .running) && j.leaseExpiresAt.all fun e => decide (e ≤ now)

/-- A waiting job whose retry time has come. -/
def ShareIndexJob.duePending (j : ShareIndexJob) (now : Time) : Bool :=
  decide (j.status = .pending) && j.nextRetryAt.all fun t => decide (t ≤ now)

/-- `_claim_candidate_predicate` -/
def ShareIndexJob.claimCandidate (j : ShareIndexJob) (now : Time) (maxAttempts : Nat) : Bool :=
  (j.duePending now && decide (j.attemptCount < maxAttempts)) || j.expired now

def stripChars : List Char → List Char := List.dropWhile pySpace

/-- Python's `str.strip` -/
def strip (s : String) : String := String.ofList (stripChars (stripChars s.toList).reverse).reverse

def checkedWorker (worker : WorkerId) (leaseSeconds : Time) : Except ShareError WorkerId :=
  let worker := strip worker
  if worker.isEmpty ∨ 128 < worker.length then
    .error (.valueError "worker_id must contain 1 to 128 characters")
  else if leaseSeconds = 0 then .error (.valueError "lease_seconds must be positive")
  else .ok worker

end TravelAgent.ShareRecord

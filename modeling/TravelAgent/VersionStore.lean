import TravelAgent.Leasing
import TravelAgent.Rows

namespace TravelAgent.VersionStore

open TravelAgent.Leasing TravelAgent.Rows

inductive VersionStatus
  | candidate | confirmed | superseded
deriving DecidableEq, Repr

inductive VersionSource
  | original | draft
deriving DecidableEq, Repr

inductive DraftStatus
  | editing | evaluated | confirmed | superseded
deriving DecidableEq, Repr

structure TripPlanVersion (Plan Eval : Type) where
  versionId : String
  sessionId : String
  versionNumber : Nat
  status : VersionStatus
  source : VersionSource
  sourceDraftId : Option String := none
  tripPlan : Plan
  evaluation : Eval
  createdAt : Time
  confirmedAt : Option Time := none
deriving DecidableEq, Repr

structure TripDraft (Plan : Type) where
  draftId : String
  sessionId : String
  baseVersion : Nat
  status : DraftStatus := .editing
  tripPlan : Plan
  candidateVersionId : Option String := none
  createdAt : Time
  updatedAt : Time
deriving DecidableEq, Repr

/-- One row of `trip_plan_versions`. The columns are written beside the record
that `version_json` holds, and the primary key is never rewritten. -/
structure VersionRow (Plan Eval : Type) where
  versionId : String
  sessionId : String
  versionNumber : Nat
  status : VersionStatus
  source : VersionSource
  sourceDraftId : Option String
  versionJson : TripPlanVersion Plan Eval
  createdAt : Time
  confirmedAt : Option Time
deriving DecidableEq, Repr

structure VersionTables (Plan Eval : Type) where
  versions : List (VersionRow Plan Eval)
  drafts : List (TripDraft Plan)
deriving DecidableEq, Repr

inductive VersionError
  | versionNotFound | draftNotFound | duplicateKey
deriving DecidableEq, Repr

variable {Plan Eval : Type}

def VersionRow.ofVersion (v : TripPlanVersion Plan Eval) : VersionRow Plan Eval :=
  { versionId := v.versionId
    sessionId := v.sessionId
    versionNumber := v.versionNumber
    status := v.status
    source := v.source
    sourceDraftId := v.sourceDraftId
    versionJson := v
    createdAt := v.createdAt
    confirmedAt := v.confirmedAt }

/-- The assignments of `ON DUPLICATE KEY UPDATE`: neither `version_id` nor
`created_at` is among them. -/
def VersionRow.overwrite (r : VersionRow Plan Eval) (v : TripPlanVersion Plan Eval) :
    VersionRow Plan Eval :=
  { r with
    sessionId := v.sessionId
    versionNumber := v.versionNumber
    status := v.status
    source := v.source
    sourceDraftId := v.sourceDraftId
    versionJson := v
    confirmedAt := v.confirmedAt }

def VersionRow.slot (r : VersionRow Plan Eval) : String × Nat := (r.sessionId, r.versionNumber)

def TripPlanVersion.slot (v : TripPlanVersion Plan Eval) : String × Nat :=
  (v.sessionId, v.versionNumber)

/-- An insert that meets a row under the primary key or, failing that, under
`(session_id, version_number)` overwrites that row instead. -/
def saveVersion (rows : List (VersionRow Plan Eval)) (v : TripPlanVersion Plan Eval) :
    Except VersionError (List (VersionRow Plan Eval)) :=
  match lookup VersionRow.versionId v.versionId rows with
  | some _ =>
    if rows.any fun r => decide (r.slot = v.slot) && decide (r.versionId ≠ v.versionId) then
      .error .duplicateKey
    else
      .ok (updateWhere (fun r => decide (r.versionId = v.versionId)) (fun r => r.overwrite v) rows)
  | none =>
    match lookup VersionRow.slot v.slot rows with
    | some _ => .ok (updateWhere (fun r => decide (r.slot = v.slot)) (fun r => r.overwrite v) rows)
    | none => .ok (rows ++ [VersionRow.ofVersion v])

def getVersionById (rows : List (VersionRow Plan Eval)) (id : String) :
    Except VersionError (TripPlanVersion Plan Eval) :=
  match lookup VersionRow.versionId id rows with
  | none => .error .versionNotFound
  | some row => .ok row.versionJson

def getConfirmedVersion (rows : List (VersionRow Plan Eval)) (sessionId : String) :
    Option (TripPlanVersion Plan Eval) :=
  (latestBy VersionRow.versionNumber (rows.filter fun r =>
    decide (r.sessionId = sessionId) && decide (r.status = .confirmed))).map VersionRow.versionJson

def nextVersionNumber (rows : List (VersionRow Plan Eval)) (sessionId : String) : Nat :=
  ((rows.filter fun r => decide (r.sessionId = sessionId)).map VersionRow.versionNumber).foldr max 0
    + 1

def VersionRow.setStatus (r : VersionRow Plan Eval) (status : VersionStatus)
    (v : TripPlanVersion Plan Eval) : VersionRow Plan Eval :=
  { r with status := status, versionJson := v }

def supersedeCandidate (rows : List (VersionRow Plan Eval)) (id : Option String) :
    Except VersionError (List (VersionRow Plan Eval)) :=
  match id with
  | none => .ok rows
  | some id =>
    if id.isEmpty then .ok rows
    else
      match lookup VersionRow.versionId id rows with
      | none => .error .versionNotFound
      | some row =>
        if row.versionJson.status ≠ .candidate then .ok rows
        else
          .ok (updateWhere (fun r => decide (r.versionId = id))
            (fun r => r.setStatus .superseded { row.versionJson with status := .superseded }) rows)

def TripPlanVersion.confirmAt (v : TripPlanVersion Plan Eval) (now : Time) :
    TripPlanVersion Plan Eval :=
  { v with status := .confirmed, confirmedAt := some now }

/-- The update that revokes one earlier confirmation, addressed by the
identifier inside the record. -/
def revoke (target : TripPlanVersion Plan Eval) (rows : List (VersionRow Plan Eval))
    (row : VersionRow Plan Eval) : List (VersionRow Plan Eval) :=
  let old := row.versionJson
  if old.status ≠ .confirmed ∨ old.versionId = target.versionId then rows
  else
    updateWhere (fun r => decide (r.versionId = old.versionId))
      (fun r => r.setStatus .superseded { old with status := .superseded }) rows

def confirmVersion (rows : List (VersionRow Plan Eval)) (v : TripPlanVersion Plan Eval)
    (now : Time) : Except VersionError (List (VersionRow Plan Eval)) :=
  let mine := rows.filter fun r => decide (r.sessionId = v.sessionId)
  if mine.any fun r => decide (r.versionId = v.versionId) then
    .ok (updateWhere (fun r => decide (r.versionId = v.versionId))
      (fun r => { r.setStatus .confirmed (v.confirmAt now) with confirmedAt := some now })
      (mine.foldl (revoke v) rows))
  else .error .versionNotFound

def getDraft (drafts : List (TripDraft Plan)) (sessionId draftId : String) :
    Except VersionError (TripDraft Plan) :=
  match lookup TripDraft.draftId draftId drafts with
  | none => .error .draftNotFound
  | some d => if d.sessionId = sessionId then .ok d else .error .draftNotFound

def saveDraft (drafts : List (TripDraft Plan)) (d : TripDraft Plan) : List (TripDraft Plan) :=
  match lookup TripDraft.draftId d.draftId drafts with
  | none => drafts ++ [d]
  | some _ => updateWhere (fun q => decide (q.draftId = d.draftId)) (fun _ => d) drafts

end TravelAgent.VersionStore

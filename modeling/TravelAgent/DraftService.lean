import Mathlib
import TravelAgent.VersionStore

namespace TravelAgent.DraftService

open TravelAgent.Leasing TravelAgent.Rows TravelAgent.VersionStore

variable {Plan Eval : Type}

/-- What a request does with the confirmed version once it has it. -/
inductive Cont (Plan : Type)
  | create (sessionId : String) (baseVersion : Option Nat) (tripPlan : Plan)
  | evaluate (draft : TripDraft Plan)
deriving DecidableEq, Repr

/-- A service request between two store calls. Each constructor names the store
call that comes next, with the data that the request holds. -/
inductive Thread (Plan Eval : Type)
  | idle
  | confirmedRead (draft : TripDraft Plan)
  | originalRead (sessionId : String) (k : Cont Plan)
  | originalSave (sessionId : String) (k : Cont Plan)
  | draftCreate (sessionId : String) (baseVersion : Nat) (tripPlan : Plan)
  | candidateSupersede (draft : TripDraft Plan) (update : Option Plan)
  | numberRead (draft : TripDraft Plan)
  | candidateSave (draft : TripDraft Plan) (versionNumber : Nat)
  | baseRead (draft : TripDraft Plan)
  | candidateRead (draft : TripDraft Plan)
  | candidateConfirm (draft : TripDraft Plan) (version : TripPlanVersion Plan Eval)
  | draftSave (draft : TripDraft Plan)

inductive Request (Plan : Type)
  | createDraft (sessionId : String) (baseVersion : Option Nat) (tripPlan : Plan)
  | updateDraft (sessionId draftId : String) (tripPlan : Plan)
  | evaluateDraft (sessionId draftId : String)
  | confirmDraft (sessionId draftId : String)

/-- What a step draws from outside: a new identifier, the rebuilt plan with its
evaluation, and the time. -/
structure Fresh (Plan Eval : Type) where
  id : String
  plan : Plan
  evaluation : Eval
  now : Time

/-- A thread takes up a request, makes its next store call, or dies. -/
inductive Label (Plan Eval : Type)
  | begin (i : Nat) (request : Request Plan)
  | proceed (i : Nat) (x : Fresh Plan Eval)
  | abort (i : Nat)

/-- Both tables, the running requests, the identifiers handed out so far, and
the records whose `save_version` has returned. -/
structure World (Plan Eval : Type) where
  tables : VersionTables Plan Eval
  threads : Nat → Thread Plan Eval
  issued : List String
  saved : List (TripPlanVersion Plan Eval)

def World.start : World Plan Eval := ⟨⟨[], []⟩, fun _ => .idle, [], []⟩

def World.goto (w : World Plan Eval) (i : Nat) (t : Thread Plan Eval) : World Plan Eval :=
  { w with threads := Function.update w.threads i t }

def World.setVersions (w : World Plan Eval) (rows : List (VersionRow Plan Eval)) :
    World Plan Eval :=
  { w with tables := { w.tables with versions := rows } }

def World.setDrafts (w : World Plan Eval) (drafts : List (TripDraft Plan)) : World Plan Eval :=
  { w with tables := { w.tables with drafts := drafts } }

def Cont.resume (k : Cont Plan) (confirmed : TripPlanVersion Plan Eval) : Thread Plan Eval :=
  match k with
  | .create sessionId baseVersion tripPlan =>
    let baseNumber := baseVersion.getD confirmed.versionNumber
    if baseNumber ≠ confirmed.versionNumber then .idle
    else .draftCreate sessionId baseNumber tripPlan
  | .evaluate draft =>
    if draft.baseVersion ≠ confirmed.versionNumber then .idle else .candidateSupersede draft none

def original (sessionId : String) (x : Fresh Plan Eval) : TripPlanVersion Plan Eval :=
  { versionId := x.id, sessionId := sessionId, versionNumber := 1, status := .confirmed,
    source := .original, tripPlan := x.plan, evaluation := x.evaluation, createdAt := x.now,
    confirmedAt := some x.now }

def candidate (draft : TripDraft Plan) (n : Nat) (x : Fresh Plan Eval) :
    TripPlanVersion Plan Eval :=
  { versionId := x.id, sessionId := draft.sessionId, versionNumber := n, status := .candidate,
    source := .draft, sourceDraftId := some draft.draftId, tripPlan := x.plan,
    evaluation := x.evaluation, createdAt := x.now }

/-- The record that the next store call of a thread saves, if it saves one. -/
def Thread.saves (t : Thread Plan Eval) (x : Fresh Plan Eval) :
    Option (TripPlanVersion Plan Eval) :=
  match t with
  | .originalSave sessionId _ => some (original sessionId x)
  | .candidateSave draft n => some (candidate draft n x)
  | _ => none

/-- Where a thread goes after `save_version` has returned the record. -/
def Thread.afterSave (t : Thread Plan Eval) (v : TripPlanVersion Plan Eval) (now : Time) :
    Thread Plan Eval :=
  match t with
  | .originalSave _ k => k.resume v
  | .candidateSave draft _ =>
    .draftSave { draft with
      tripPlan := v.tripPlan, candidateVersionId := some v.versionId, status := .evaluated,
      updatedAt := now }
  | _ => .idle

/-- `save_version` of a record under an identifier that was never used before. -/
def World.store (w : World Plan Eval) (i : Nat) (v : TripPlanVersion Plan Eval)
    (next : Thread Plan Eval) : Option (World Plan Eval) :=
  if v.versionId ∈ w.issued then none
  else
    let w' := { w with issued := v.versionId :: w.issued }
    match saveVersion w.tables.versions v with
    | .error _ => some (w'.goto i .idle)
    | .ok rows => some { (w'.setVersions rows).goto i next with saved := v :: w.saved }

def start (w : World Plan Eval) (i : Nat) (request : Request Plan) : World Plan Eval :=
  match request with
  | .createDraft sessionId baseVersion tripPlan =>
    w.goto i (.originalRead sessionId (.create sessionId baseVersion tripPlan))
  | .updateDraft sessionId draftId tripPlan =>
    match getDraft w.tables.drafts sessionId draftId with
    | .error _ => w
    | .ok draft =>
      if draft.status = .confirmed then w else w.goto i (.candidateSupersede draft (some tripPlan))
  | .evaluateDraft sessionId draftId =>
    match getDraft w.tables.drafts sessionId draftId with
    | .error _ => w
    | .ok draft => w.goto i (.confirmedRead draft)
  | .confirmDraft sessionId draftId =>
    match getDraft w.tables.drafts sessionId draftId with
    | .error _ => w
    | .ok draft => w.goto i (.baseRead draft)

/-- The store calls that save no version. -/
def advance (w : World Plan Eval) (i : Nat) (x : Fresh Plan Eval) : Option (World Plan Eval) :=
  match w.threads i with
  | .confirmedRead draft =>
    match getConfirmedVersion w.tables.versions draft.sessionId with
    | some c => some (w.goto i ((Cont.evaluate draft).resume c))
    | none => some (w.goto i (.originalRead draft.sessionId (.evaluate draft)))
  | .originalRead sessionId k =>
    match getConfirmedVersion w.tables.versions sessionId with
    | some c => some (w.goto i (k.resume c))
    | none => some (w.goto i (.originalSave sessionId k))
  | .draftCreate sessionId baseVersion tripPlan =>
    if x.id ∈ w.issued then none
    else
      let draft : TripDraft Plan :=
        { draftId := x.id, sessionId := sessionId, baseVersion := baseVersion,
          tripPlan := tripPlan, createdAt := x.now, updatedAt := x.now }
      some { (w.setDrafts (saveDraft w.tables.drafts draft)).goto i .idle with
        issued := x.id :: w.issued }
  | .candidateSupersede draft update =>
    match supersedeCandidate w.tables.versions draft.candidateVersionId with
    | .error _ => some (w.goto i .idle)
    | .ok rows =>
      match update with
      | none => some ((w.setVersions rows).goto i (.numberRead draft))
      | some tripPlan =>
        some ((w.setVersions rows).goto i (.draftSave { draft with
          tripPlan := tripPlan, status := .editing, candidateVersionId := none,
          updatedAt := x.now }))
  | .numberRead draft =>
    some (w.goto i (.candidateSave draft (nextVersionNumber w.tables.versions draft.sessionId)))
  | .baseRead draft =>
    match getConfirmedVersion w.tables.versions draft.sessionId with
    | none => some (w.goto i .idle)
    | some c =>
      if draft.baseVersion ≠ c.versionNumber ∨ draft.status ≠ .evaluated ∨
          (draft.candidateVersionId.getD "").isEmpty then
        some (w.goto i .idle)
      else some (w.goto i (.candidateRead draft))
  | .candidateRead draft =>
    match getVersionById w.tables.versions (draft.candidateVersionId.getD "") with
    | .error _ => some (w.goto i .idle)
    | .ok version => some (w.goto i (.candidateConfirm draft version))
  | .candidateConfirm draft version =>
    match confirmVersion w.tables.versions version x.now with
    | .error _ => some (w.goto i .idle)
    | .ok rows =>
      some ((w.setVersions rows).goto i
        (.draftSave { draft with status := .confirmed, updatedAt := x.now }))
  | .draftSave draft =>
    some ((w.setDrafts (saveDraft w.tables.drafts draft)).goto i .idle)
  | _ => none

def step (w : World Plan Eval) : Label Plan Eval → Option (World Plan Eval)
  | .begin i request =>
    match w.threads i with
    | .idle => some (start w i request)
    | _ => none
  | .proceed i x =>
    match (w.threads i).saves x with
    | some v => w.store i v ((w.threads i).afterSave v x.now)
    | none => advance w i x
  | .abort i => some (w.goto i .idle)

end TravelAgent.DraftService

import Mathlib
import TravelAgent.AgentPhases
import TravelAgent.ConfirmedRows

namespace TravelAgent.ConfirmRun

open TravelAgent.Itinerary TravelAgent.Agent TravelAgent.Leasing TravelAgent.VersionStore
open TravelAgent.ConfirmedRows

/-- The reports about one version. Those on route and schedule quality keep their fingerprint
beside them. -/
structure TripVersionEvaluation (F D : Type) where
  routeEstimates : RouteEstimateResult F D
  routeQualityReport : RouteQualityReport D
  routeQualityFingerprint : F
  scheduleQualityReport : ScheduleQualityReport D
  scheduleQualityFingerprint : F
  commuteReport : CommuteConstraintReport F D
  constraintReport : TripConstraintReport F D
  validationResult : TripValidationResult
  acceptanceReport : PartialAcceptanceReport
deriving DecidableEq

abbrev Version (F D : Type) := TripPlanVersion TripPlan (TripVersionEvaluation F D)

abbrev Draft := TripDraft TripPlan

/-- What the version store and the state store hold. -/
structure Stores (F D : Type) where
  tables : VersionTables TripPlan (TripVersionEvaluation F D)
  states : String → Option (AgentState F D)

variable {F D : Type}

def Stores.setVersions (w : Stores F D)
    (rows : List (VersionRow TripPlan (TripVersionEvaluation F D))) : Stores F D :=
  { w with tables := { w.tables with versions := rows } }

def Stores.setDrafts (w : Stores F D) (drafts : List Draft) : Stores F D :=
  { w with tables := { w.tables with drafts := drafts } }

def Stores.setState (w : Stores F D) (sessionId : String) (s : AgentState F D) : Stores F D :=
  { w with states := Function.update w.states sessionId (some s) }

def Stores.confirmed (w : Stores F D) (sessionId : String) : Option (Version F D) :=
  getConfirmedVersion w.tables.versions sessionId

/-- The calls inside of `confirm_draft`, in their order. -/
inductive ConfirmCall where
  | getState
  | getDraft
  | getConfirmedVersion
  | getVersionById
  | confirmVersion
  | constraintPlanFingerprint
  | planContentSourceFingerprint
  | saveState
  | saveDraft
deriving DecidableEq, Repr

/-- The calls that come after the version is confirmed. -/
def ConfirmCall.late : ConfirmCall → Bool
  | .constraintPlanFingerprint | .planContentSourceFingerprint | .saveState | .saveDraft => true
  | _ => false

inductive ConfirmError where
  | sessionNotFound
  | store (e : VersionError)
  | staleBase
  | notEvaluated
  | failed (c : ConfirmCall)
deriving DecidableEq, Repr

/-- Raised once the version has been confirmed. -/
def ConfirmError.late : ConfirmError → Bool
  | .failed c => c.late
  | _ => false

section

variable (fails : ConfirmCall → Bool)

/-- A call that may fail of itself, before it has any effect. -/
def call {α : Type} (c : ConfirmCall) (r : Except ConfirmError α) : Except ConfirmError α :=
  if fails c then .error (.failed c) else r

def stored {α : Type} : Except VersionError α → Except ConfirmError α
  | .error e => .error (.store e)
  | .ok x => .ok x

def readState (w : Stores F D) (sessionId : String) : Except ConfirmError (AgentState F D) :=
  match w.states sessionId with
  | none => .error .sessionNotFound
  | some s => .ok s

/-- The draft is about the confirmed version, and it has been evaluated. -/
def checkDraft (confirmed : Option (Version F D)) (draft : Draft) : Except ConfirmError Unit :=
  if confirmed.all fun c => decide (draft.baseVersion ≠ c.versionNumber) then .error .staleBase
  else if draft.status ≠ .evaluated ∨ (draft.candidateVersionId.getD "").isEmpty then
    .error .notEvaluated
  else .ok ()

/-- The reads and the checks of `confirm_draft`. -/
def chosen (w : Stores F D) (sessionId draftId : String) :
    Except ConfirmError (AgentState F D × Draft × Version F D) := do
  let state ← call fails .getState (readState w sessionId)
  let draft ← call fails .getDraft (stored (getDraft w.tables.drafts sessionId draftId))
  let confirmed ← call fails .getConfirmedVersion (.ok (w.confirmed sessionId))
  let _ ← checkDraft confirmed draft
  let version ← call fails .getVersionById
    (stored (getVersionById w.tables.versions (draft.candidateVersionId.getD "")))
  return (state, draft, version)

/-- The state with the plan of the version and with the reports about it. -/
def synchronized [DecidableEq F] (kit : Kit F D) (s : AgentState F D) (v : Version F D) :
    AgentState F D :=
  let evaluation := v.evaluation
  let state := { s with
    tripPlan := some v.tripPlan
    routeEstimates := some evaluation.routeEstimates
    routePlanFingerprint := some evaluation.routeEstimates.planFingerprint
    routeQualityReport := some evaluation.routeQualityReport
    routeQualityPlanFingerprint := some evaluation.routeQualityFingerprint
    scheduleQualityReport := some evaluation.scheduleQualityReport
    scheduleQualityPlanFingerprint := some evaluation.scheduleQualityFingerprint
    commuteReport := some evaluation.commuteReport
    commutePlanFingerprint := some evaluation.commuteReport.planFingerprint
    constraintReport := some evaluation.constraintReport
    constraintPlanFingerprint := some (constraintPlanFingerprint kit s.request v.tripPlan)
    lastValidationResult := some evaluation.validationResult
    acceptanceReport := some evaluation.acceptanceReport }
  { state with
    planConsistencyFingerprint := some (planContentSourceFingerprint kit state v.tripPlan) }

/-- The two fingerprints are all that can fail while the state is brought up to date. -/
def synchronize [DecidableEq F] (kit : Kit F D) (s : AgentState F D) (v : Version F D) :
    Except ConfirmError (AgentState F D) := do
  let _ ← call fails .constraintPlanFingerprint (.ok ())
  call fails .planContentSourceFingerprint (.ok (synchronized kit s v))

def Draft.confirmAt (draft : Draft) (now : Time) : Draft :=
  { draft with status := .confirmed, updatedAt := now }

/-- `confirm_draft`: the stores that it leaves, and what it returns or raises. -/
def confirmDraft [DecidableEq F] (kit : Kit F D) (d : Dialect) (now : Time) (w : Stores F D)
    (sessionId draftId : String) : Stores F D × Except ConfirmError (Draft × Version F D) :=
  match chosen fails w sessionId draftId with
  | .error e => (w, .error e)
  | .ok (state, draft, version) =>
    match call fails .confirmVersion (stored (confirmOn d w.tables.versions version now)) with
    | .error e => (w, .error e)
    | .ok rows =>
      let w := w.setVersions rows
      match synchronize fails kit state (version.confirmAt now) with
      | .error e => (w, .error e)
      | .ok state =>
        match call fails .saveState (.ok ()) with
        | .error e => (w, .error e)
        | .ok _ =>
          let w := w.setState sessionId state
          match call fails .saveDraft (.ok (saveDraft w.tables.drafts (draft.confirmAt now))) with
          | .error e => (w, .error e)
          | .ok drafts =>
            (w.setDrafts drafts, .ok (draft.confirmAt now, version.confirmAt now))

end

variable {fails : ConfirmCall → Bool} {e : ConfirmError}

theorem call_error {α : Type} {c : ConfirmCall} {r : Except ConfirmError α}
    (h : call fails c r = .error e) : e = .failed c ∨ r = .error e := by
  unfold call at h
  split at h
  · left
    cases h
    rfl
  · exact Or.inr h

theorem call_ok {α : Type} {c : ConfirmCall} {r : Except ConfirmError α} {x : α}
    (h : call fails c r = .ok x) : r = .ok x := by
  unfold call at h
  split at h
  · cases h
  · exact h

theorem stored_ok {α : Type} {r : Except VersionError α} {x : α} (h : stored r = .ok x) :
    r = .ok x := by
  cases r with
  | error e => cases h
  | ok y =>
    cases h
    rfl

theorem stored_error {α : Type} {r : Except VersionError α} (h : stored r = .error e) :
    e.late = false := by
  cases r with
  | error x =>
    cases h
    rfl
  | ok x => cases h

theorem early_of_call {α : Type} {c : ConfirmCall} {r : Except ConfirmError α}
    (hc : c.late = false) (hr : ∀ e, r = .error e → e.late = false)
    (h : call fails c r = .error e) : e.late = false := by
  obtain rfl | h := call_error h
  · exact hc
  · exact hr e h

theorem bind_error {ε α β : Type} {x : Except ε α} {f : α → Except ε β} {e : ε}
    (h : (x >>= f) = .error e) : x = .error e ∨ ∃ a, x = .ok a ∧ f a = .error e := by
  cases x with
  | error y =>
    left
    cases h
    rfl
  | ok a => exact Or.inr ⟨a, rfl, h⟩

/-- What the reads and the checks raise comes before any write. -/
theorem chosen_error {w : Stores F D} {sessionId draftId : String}
    (h : chosen fails w sessionId draftId = .error e) : e.late = false := by
  obtain h | ⟨state, -, h⟩ := bind_error h
  · refine early_of_call rfl ?_ h
    intro e he
    unfold readState at he
    split at he
    · cases he
      rfl
    · cases he
  obtain h | ⟨draft, -, h⟩ := bind_error h
  · exact early_of_call rfl (fun _ => stored_error) h
  obtain h | ⟨confirmed, -, h⟩ := bind_error h
  · exact early_of_call rfl (fun e he => by cases he) h
  obtain h | ⟨_, -, h⟩ := bind_error h
  · unfold checkDraft at h
    split at h
    · cases h
      rfl
    · split at h
      · cases h
        rfl
      · cases h
  obtain h | ⟨version, -, h⟩ := bind_error h
  · exact early_of_call rfl (fun _ => stored_error) h
  · cases h

variable [DecidableEq F] {kit : Kit F D}

theorem synchronize_error {s : AgentState F D} {v : Version F D}
    (h : synchronize fails kit s v = .error e) :
    e = .failed .constraintPlanFingerprint ∨ e = .failed .planContentSourceFingerprint := by
  obtain h | ⟨_, -, h⟩ := bind_error h
  · obtain rfl | h := call_error h
    · exact Or.inl rfl
    · cases h
  · obtain rfl | h := call_error h
    · exact Or.inr rfl
    · cases h

theorem synchronize_ok {s state : AgentState F D} {v : Version F D}
    (h : synchronize fails kit s v = .ok state) : state = synchronized kit s v := by
  obtain ⟨_, -, h⟩ := Attempts.bind_ok h
  exact (Except.ok.inj (call_ok h)).symm

variable {d : Dialect} {now : Time} {w : Stores F D} {sessionId draftId : String}

/-- What a confirmation that goes on has chosen, and the version rows that it leaves. -/
structure Confirming (fails : ConfirmCall → Bool) (d : Dialect) (now : Time) (w : Stores F D)
    (sessionId draftId : String) (state : AgentState F D) (draft : Draft) (version : Version F D)
    (rows : List (VersionRow TripPlan (TripVersionEvaluation F D))) : Prop where
  chosen : chosen fails w sessionId draftId = .ok (state, draft, version)
  confirmed : confirmOn d w.tables.versions version now = .ok rows

/-- What is left of a confirmation that raises, by where it does. -/
inductive Abandoned (fails : ConfirmCall → Bool) (kit : Kit F D) (d : Dialect) (now : Time)
    (w : Stores F D) (sessionId draftId : String) : ConfirmError → Stores F D → Prop where
  | early {x : ConfirmError} (h : x.late = false) :
      Abandoned fails kit d now w sessionId draftId x w
  | unsaved {x : ConfirmError} {state draft version rows} (h : x.late = true)
      (hne : x ≠ .failed .saveDraft)
      (hc : Confirming fails d now w sessionId draftId state draft version rows) :
      Abandoned fails kit d now w sessionId draftId x (w.setVersions rows)
  | saved {state draft version rows}
      (hc : Confirming fails d now w sessionId draftId state draft version rows) :
      Abandoned fails kit d now w sessionId draftId (.failed .saveDraft)
        ((w.setVersions rows).setState sessionId (synchronized kit state (version.confirmAt now)))

/-- A confirmation that raises leaves the draft as it was. It leaves everything as it was unless
a call after `confirm_version` fails: then the version is confirmed, and the state is only
brought up to date if the call is the last one. -/
theorem confirm_abandoned (h : (confirmDraft fails kit d now w sessionId draftId).2 = .error e) :
    (confirmDraft fails kit d now w sessionId draftId).1.tables.drafts = w.tables.drafts ∧
      Abandoned fails kit d now w sessionId draftId e
        (confirmDraft fails kit d now w sessionId draftId).1 := by
  unfold confirmDraft at h ⊢
  cases hchosen : chosen fails w sessionId draftId with
  | error x =>
    rw [hchosen] at h
    cases h
    exact ⟨rfl, .early (chosen_error hchosen)⟩
  | ok x =>
    obtain ⟨state, draft, version⟩ := x
    rw [hchosen] at h
    cases hconfirm : call fails .confirmVersion
        (stored (confirmOn d w.tables.versions version now)) with
    | error x =>
      simp only [hconfirm] at h ⊢
      cases h
      exact ⟨trivial, .early (early_of_call rfl (fun _ => stored_error) hconfirm)⟩
    | ok rows =>
      simp only [hconfirm] at h ⊢
      have hc : Confirming fails d now w sessionId draftId state draft version rows :=
        ⟨hchosen, stored_ok (call_ok hconfirm)⟩
      cases hsync : synchronize fails kit state (version.confirmAt now) with
      | error x =>
        simp only [hsync] at h ⊢
        cases h
        refine ⟨rfl, ?_⟩
        obtain rfl | rfl := synchronize_error hsync
        · exact .unsaved rfl nofun hc
        · exact .unsaved rfl nofun hc
      | ok state' =>
        simp only [hsync] at h ⊢
        obtain rfl := synchronize_ok hsync
        cases hstate : call fails .saveState (.ok ()) with
        | error x =>
          simp only [hstate] at h ⊢
          cases h
          refine ⟨rfl, ?_⟩
          obtain rfl | hstate := call_error hstate
          · exact .unsaved rfl nofun hc
          · cases hstate
        | ok _ =>
          simp only [hstate] at h ⊢
          split at h
          · rename_i x hdraft
            cases h
            refine ⟨rfl, ?_⟩
            obtain rfl | hdraft := call_error hdraft
            · exact .saved hc
            · cases hdraft
          · cases h

def plainEvaluation (v : TripValidationResult) (r : PartialAcceptanceReport) :
    TripVersionEvaluation Unit Unit :=
  { routeEstimates := ⟨(), [], ()⟩
    routeQualityReport := ⟨0, 0, 0, 100, false, ()⟩
    routeQualityFingerprint := ()
    scheduleQualityReport := ⟨0, 0, 0, 0, 100, false, ()⟩
    scheduleQualityFingerprint := ()
    commuteReport := ⟨(), 0, 0, false, [], ()⟩
    constraintReport := ⟨(), 0, 0, 100, false, ()⟩
    validationResult := v
    acceptanceReport := r }

def validResult : TripValidationResult := .fromIssues []

def firstVersion : Version Unit Unit :=
  { versionId := "v1", sessionId := "s1", versionNumber := 1, status := .confirmed
    source := .original, tripPlan := restPlan
    evaluation := plainEvaluation validResult { accepted := true }
    createdAt := 1, confirmedAt := some 1 }

def secondVersion (v : TripValidationResult) (r : PartialAcceptanceReport) : Version Unit Unit :=
  { versionId := "v2", sessionId := "s1", versionNumber := 2, status := .candidate
    source := .draft, sourceDraftId := some "d1", tripPlan := restPlan
    evaluation := plainEvaluation v r, createdAt := 3 }

def secondDraft : Draft :=
  { draftId := "d1", sessionId := "s1", baseVersion := 1, status := .evaluated
    tripPlan := restPlan, candidateVersionId := some "v2", createdAt := 2, updatedAt := 3 }

/-- A session with a candidate that waits for its confirmation. -/
def editedStores (s : AgentState Unit Unit) (v : TripValidationResult)
    (r : PartialAcceptanceReport) : Stores Unit Unit :=
  { tables := ⟨[.ofVersion firstVersion, .ofVersion (secondVersion v r)], [secondDraft]⟩
    states := fun id => if id = "s1" then some s else none }

def plainStores : Stores Unit Unit :=
  editedStores (AgentState.create ContentRebuild.drivingTrip {}) validResult { accepted := true }

/-- The call of `save_state` fails. -/
def unsaved (c : ConfirmCall) : Bool := decide (c = .saveState)

theorem unsaved_abandoned :
    (confirmDraft unsaved plainKit .mysql 4 plainStores "s1" "d1").1.tables.drafts =
        plainStores.tables.drafts ∧
      Abandoned unsaved plainKit .mysql 4 plainStores "s1" "d1" (.failed .saveState)
        (confirmDraft unsaved plainKit .mysql 4 plainStores "s1" "d1").1 :=
  confirm_abandoned rfl

/-- The version is confirmed although the confirmation has raised. -/
theorem confirmed_although_raised :
    (confirmDraft unsaved plainKit .mysql 4 plainStores "s1" "d1").2 =
        .error (.failed .saveState) ∧
      (plainStores.confirmed "s1").map (·.versionNumber) = some 1 ∧
      ((confirmDraft unsaved plainKit .mysql 4 plainStores "s1" "d1").1.confirmed "s1").map
        (·.versionNumber) = some 2 := by
  refine ⟨rfl, ?_, ?_⟩
  · decide +kernel
  · decide +kernel

end TravelAgent.ConfirmRun

import TravelAgent.AgentDecide

namespace TravelAgent.Agent

open TravelAgent.Itinerary TravelAgent.ContentRebuild

variable {F D : Type}

/-- How a run stops without a result: by an error of its own, or by an
exception that nothing turns into one. -/
inductive Stop where
  | actionError (action : AgentAction)
  | budgetExceeded
  | convergence
  | maxSteps
  | escaped (f : Fault)
deriving DecidableEq

/-- The state an action leaves, whether it returns or raises; on return, whether
it has recorded a success. -/
structure Outcome (F D : Type) where
  state : AgentState F D
  result : Except Stop Bool

def done (s : AgentState F D) : Outcome F D := ⟨s, .ok true⟩

def raised (s : AgentState F D) (f : Fault) : Outcome F D := ⟨s, .error (.escaped f)⟩

def EvaluationFingerprints.drop (e : EvaluationFingerprints F) (keys : List EvaluationKey) :
    EvaluationFingerprints F :=
  { routeQuality := if .routeQuality ∈ keys then none else e.routeQuality
    commute := if .commute ∈ keys then none else e.commute
    schedule := if .schedule ∈ keys then none else e.schedule
    constraints := if .constraints ∈ keys then none else e.constraints
    validation := if .validation ∈ keys then none else e.validation }

/-- `_invalidate_evaluation_fingerprints` -/
def invalidate (s : AgentState F D) (keys : List EvaluationKey) : AgentState F D :=
  { s with
    evaluations := s.evaluations.drop keys
    acceptanceReport := if .validation ∈ keys then none else s.acceptanceReport
    completionMode := if .validation ∈ keys then none else s.completionMode
    completionWarnings := if .validation ∈ keys then [] else s.completionWarnings }

/-- `_clear_route_optimization_baseline` -/
def RouteOptimization.cleared (o : RouteOptimization F D) : RouteOptimization F D :=
  { count := o.count, status := o.status }

/-- `_clear_schedule_optimization_baseline` -/
def ScheduleOptimization.cleared (o : ScheduleOptimization F D) : ScheduleOptimization F D :=
  { count := o.count, status := o.status }

/-- `_clear_constraint_optimization_baseline` -/
def ConstraintOptimization.cleared (o : ConstraintOptimization F D) : ConstraintOptimization F D :=
  { count := o.count, status := o.status }

/-- `_clear_commute_baseline` -/
def CommuteOptimization.cleared (o : CommuteOptimization F D) : CommuteOptimization F D :=
  { replacementCount := o.replacementCount
    supplementSearchCount := o.supplementSearchCount
    status := o.status
    excludedCandidateIdentities := o.excludedCandidateIdentities }

/-- `_clear_content_refill_baseline` -/
def ContentRefill.cleared (o : ContentRefill F D) : ContentRefill F D :=
  { count := o.count
    supplementSearchCount := o.supplementSearchCount
    status := o.status
    excludedIdentities := o.excludedIdentities }

/-- `_clear_commute_analysis` -/
def clearCommuteAnalysis (s : AgentState F D) (resetOptimizationCount : Bool) : AgentState F D :=
  { invalidate s [.commute, .validation] with
    commuteReport := none
    commutePlanFingerprint := none
    commuteSupplementQuery := none
    commute :=
      if resetOptimizationCount then {}
      else { s.commute.cleared with status := .notStarted } }

/-- `_clear_constraint_analysis` -/
def clearConstraintAnalysis (s : AgentState F D) (resetOptimizationCount : Bool) :
    AgentState F D :=
  { invalidate s [.constraints, .validation] with
    constraintReport := none
    constraintPlanFingerprint := none
    constraint := { count := if resetOptimizationCount then 0 else s.constraint.count } }

/-- The estimates and the reports that are derived from them. -/
def dropRoutes (s : AgentState F D) : AgentState F D :=
  { s with
    routeEstimates := none
    routePlanFingerprint := none
    routeQualityReport := none
    routeQualityPlanFingerprint := none
    scheduleQualityReport := none
    scheduleQualityPlanFingerprint := none }

/-- `_clear_route_analysis` -/
def clearRouteAnalysis (s : AgentState F D) (resetOptimizationCount : Bool) : AgentState F D :=
  let s := dropRoutes
    (invalidate s [.routeQuality, .commute, .schedule, .constraints, .validation])
  let s := clearConstraintAnalysis (clearCommuteAnalysis s resetOptimizationCount)
    resetOptimizationCount
  { s with
    route := { count := if resetOptimizationCount then 0 else s.route.count }
    schedule := { count := if resetOptimizationCount then 0 else s.schedule.count }
    planConsistencyFingerprint := none
    lastValidationResult := none }

variable (kit : Kit F D)

/-- The reports that go with the plan at hand get their input fingerprints back. -/
def synchronizedFingerprints [DecidableEq F] (s : AgentState F D) (plan : TripPlan) :
    EvaluationFingerprints F :=
  let fingerprint := routeFingerprint kit s.request plan
  let snapshot := snapshotFingerprint kit s.request plan s.routeEstimates
  let when (ok : Bool) (k : F) : Option F := if ok then some k else none
  { routeQuality := when (s.routeQualityReport.isSome &&
      s.routeQualityPlanFingerprint == some fingerprint) snapshot
    commute := when (s.commuteReport.isSome && s.commutePlanFingerprint == some fingerprint) snapshot
    schedule := when (s.scheduleQualityReport.isSome &&
      s.scheduleQualityPlanFingerprint == some fingerprint) snapshot
    constraints := when (s.constraintReport.isSome && s.scheduleQualityReport.isSome &&
      s.constraintPlanFingerprint == some (constraintPlanFingerprint kit s.request plan))
      (kit.constraintDigest (constraintInputs s plan))
    validation := none }

/-- `_synchronize_evaluation_fingerprints` -/
def synchronize [DecidableEq F] (s : AgentState F D) : AgentState F D :=
  match s.tripPlan, s.routeEstimates with
  | some plan, some _ => { s with evaluations := synchronizedFingerprints kit s plan }
  | _, _ => { s with evaluations := {} }

def noMatch : Fault := .mismatch "Route estimates do not match the current trip plan"

variable [DecidableEq F]

/-- `_refresh_route_quality` -/
def refreshRouteQuality (s : AgentState F D) :
    Except Fault (RouteQualityReport D × AgentState F D) :=
  match s.tripPlan, s.routeEstimates with
  | some plan, some routes =>
    if routes.planFingerprint ≠ routeFingerprint kit s.request plan then .error noMatch
    else
      match kit.evaluateRouteQuality plan routes with
      | .error m => .error (.inner m)
      | .ok report =>
        .ok (report,
          { s with
            routeQualityReport := some report
            routeQualityPlanFingerprint := some (routeFingerprint kit s.request plan)
            evaluations :=
              { s.evaluations with
                routeQuality := some
                  (routeQualityInputFingerprint kit s.request plan s.routeEstimates) } })
  | _, _ => .error (.missing .scoringInputs)

/-- The commute status after a new report. -/
def commuteStatusAfter (s : AgentState F D) (fingerprint : F) (recommended : Bool) :
    SearchingStatus :=
  if recommended ∧ s.commutePlanFingerprint ≠ some fingerprint ∧
      (s.commute.status = .completed ∨ s.commute.status = .skipped) then .notStarted
  else if s.commute.status = .notStarted ∧ recommended = false then .skipped
  else s.commute.status

def withCommute (s : AgentState F D) (plan : TripPlan) (report : CommuteConstraintReport F D) :
    AgentState F D :=
  let fingerprint := routeFingerprint kit s.request plan
  { s with
    commuteReport := some report
    commutePlanFingerprint := some fingerprint
    commute :=
      { s.commute with
        status := commuteStatusAfter s fingerprint report.optimizationRecommended }
    evaluations :=
      { s.evaluations with
        commute := some (commuteInputFingerprint kit s.request plan s.routeEstimates) } }

/-- `_refresh_commute_report` -/
def refreshCommuteReport (s : AgentState F D) : Except Fault (AgentState F D) :=
  match s.tripPlan, s.routeEstimates with
  | some plan, some routes =>
    match kit.evaluateCommute s.request plan routes with
    | .error m => .error (.inner m)
    | .ok report =>
      if report.planFingerprint ≠ routeFingerprint kit s.request plan then
        .error (.mismatch "Commute report does not match the current trip plan")
      else .ok (withCommute kit s plan report)
  | _, _ => .error (.missing .commuteInputs)

/-- An optimisation that no report asks for is skipped. -/
def OptimizationStatus.skipUnless (status : OptimizationStatus) (wanted : Bool) :
    OptimizationStatus :=
  if status = .notStarted ∧ wanted = false then .skipped else status

def withSchedule (s : AgentState F D) (plan : TripPlan) (report : ScheduleQualityReport D) :
    AgentState F D :=
  { s with
    scheduleQualityReport := some report
    scheduleQualityPlanFingerprint := some (routeFingerprint kit s.request plan)
    schedule :=
      { s.schedule with status := s.schedule.status.skipUnless report.optimizationRecommended }
    evaluations :=
      { s.evaluations with
        schedule := some (scheduleInputFingerprint kit s.request plan s.routeEstimates) } }

/-- `_refresh_schedule_quality` -/
def refreshScheduleQuality (s : AgentState F D) :
    Except Fault (ScheduleQualityReport D × AgentState F D) :=
  match s.tripPlan, s.routeEstimates with
  | some plan, some routes =>
    if routes.planFingerprint ≠ routeFingerprint kit s.request plan then .error noMatch
    else
      match kit.evaluateSchedule s.request plan routes with
      | .error m => .error (.inner m)
      | .ok report => .ok (report, withSchedule kit s plan report)
  | _, _ => .error (.missing .scheduleInputs)

def withConstraints (s : AgentState F D) (plan : TripPlan) (report : TripConstraintReport F D) :
    AgentState F D :=
  { s with
    constraintReport := some report
    constraintPlanFingerprint := some (constraintPlanFingerprint kit s.request plan)
    constraint :=
      { s.constraint with
        status := s.constraint.status.skipUnless report.optimizationRecommended }
    evaluations :=
      { s.evaluations with
        constraints := some (kit.constraintDigest (constraintInputs s plan)) } }

/-- `_refresh_constraint_report` -/
def refreshConstraintReport (s : AgentState F D) :
    Except Fault (TripConstraintReport F D × AgentState F D) :=
  match s.tripPlan, s.scheduleQualityReport with
  | some plan, some schedule =>
    match kit.evaluateConstraints s.request plan schedule s.attractions s.weather with
    | .error m => .error (.inner m)
    | .ok report =>
      if report.planFingerprint ≠ constraintPlanFingerprint kit s.request plan then
        .error (.mismatch "Constraint report does not match the current trip plan")
      else .ok (report, withConstraints kit s plan report)
  | _, _ => .error (.missing .constraintInputs)

end TravelAgent.Agent

import TravelAgent.AgentActions

namespace TravelAgent.Agent

open TravelAgent.Itinerary TravelAgent.ContentRebuild

variable {F D : Type} [DecidableEq F] (kit : Kit F D)

/-- `is_route_quality_improvement` -/
def isRouteQualityImprovement (before after : RouteQualityReport D) : Bool :=
  decide (after.optimizationCost < before.optimizationCost) &&
    decide (kit.routeMinImprovementPercent ≤
      kit.improvementPercent before.optimizationCost after.optimizationCost) &&
    decide (after.unavailableLegs ≤ before.unavailableLegs) &&
    decide (after.excessiveDurationLegs ≤ before.excessiveDurationLegs)

def routeQualitySafe (before after : RouteQualityReport D) : Bool :=
  decide (after.unavailableLegs ≤ before.unavailableLegs) &&
    decide (after.excessiveDurationLegs ≤ before.excessiveDurationLegs)

/-- A candidate goes in: its routes are still to be estimated. -/
def installPlan (s : AgentState F D) (plan : TripPlan) : AgentState F D :=
  { dropRoutes (clearCommuteAnalysis s false) with
    tripPlan := some plan
    planConsistencyFingerprint := none
    lastValidationResult := none }

/-- A baseline comes back with its routes and reports. -/
def restorePlan (s : AgentState F D) (plan : TripPlan) (routes : RouteEstimateResult F D)
    (quality : RouteQualityReport D) (fingerprint : F) : AgentState F D :=
  { s with
    tripPlan := some plan
    routeEstimates := some routes
    routePlanFingerprint := some fingerprint
    routeQualityReport := some quality
    routeQualityPlanFingerprint := some fingerprint }

def restoreSchedule (s : AgentState F D) (report : ScheduleQualityReport D) (fingerprint : F) :
    AgentState F D :=
  { s with
    scheduleQualityReport := some report
    scheduleQualityPlanFingerprint := some fingerprint }

def restoreConstraints (s : AgentState F D) (report : TripConstraintReport F D) (fingerprint : F) :
    AgentState F D :=
  { s with constraintReport := some report, constraintPlanFingerprint := some fingerprint }

def installRoutes (s : AgentState F D) (plan : TripPlan) (routes : RouteEstimateResult F D)
    (report : RouteQualityReport D) (candidate : OptimizationCandidate D) : AgentState F D :=
  { clearConstraintAnalysis (installPlan s candidate.plan) false with
    route :=
      { count := s.route.count + 1
        status := .candidatePending
        candidate := some candidate
        baselinePlan := some plan
        baselineRoutes := some routes
        baselineQuality := some report
        baselineFingerprint := some (routeFingerprint kit s.request plan) }
    schedule := { count := s.schedule.count } }

/-- The route optimisation ends; what was validated before no longer counts. -/
def settleRoutes (s : AgentState F D) : AgentState F D :=
  { s with
    route := { s.route.cleared with status := .completed }
    lastValidationResult := none }

def revertRoutes (s : AgentState F D) (plan : TripPlan) (routes : RouteEstimateResult F D)
    (quality : RouteQualityReport D) (fingerprint : F) : AgentState F D :=
  let s := restorePlan s plan routes quality fingerprint
  { s with
    schedule := { s.schedule with status := .notStarted }
    evaluations :=
      { s.evaluations with
        routeQuality := some (routeQualityInputFingerprint kit s.request plan s.routeEstimates) } }

def verifyRoutes (s : AgentState F D) (report : RouteQualityReport D) : Outcome F D :=
  match s.route.baselinePlan, s.route.baselineRoutes, s.route.baselineQuality,
    s.route.baselineFingerprint, s.route.candidate with
  | some plan, some routes, some quality, some fingerprint, some _ =>
    if isRouteQualityImprovement kit quality report then done (settleRoutes s)
    else
      let reverted := revertRoutes kit s plan routes quality fingerprint
      match refreshScheduleQuality kit reverted with
      | .error e => raised reverted e
      | .ok (_, refreshed) => done (settleRoutes (synchronize kit refreshed))
  | _, _, _, _, _ => raised s (.missing .routeBaseline)

def skipRoutes (s : AgentState F D) : AgentState F D :=
  { s with route := { s.route with status := .skipped } }

/-- The report at hand if it is about the plan, else a new one. -/
def currentRouteQuality (s : AgentState F D) (plan : TripPlan) :
    Except Fault (RouteQualityReport D × AgentState F D) :=
  match s.routeQualityReport with
  | none => refreshRouteQuality kit s
  | some report =>
    if s.routeQualityPlanFingerprint = some (routeFingerprint kit s.request plan) then
      .ok (report, s)
    else refreshRouteQuality kit s

/-- `_optimize_routes` -/
def optimizeRoutes (s : AgentState F D) : Outcome F D :=
  match s.tripPlan, s.routeEstimates with
  | some plan, some routes =>
    match currentRouteQuality kit s plan with
    | .error e => raised s e
    | .ok (report, s) =>
      if s.route.status = .candidatePending then verifyRoutes kit s report
      else if s.budget.maxRouteOptimizationAttempts ≤ s.route.count then done (skipRoutes s)
      else if report.optimizationRecommended = false then done (skipRoutes s)
      else
        match kit.optimizeRoutes plan with
        | .error m => raised s (.inner m)
        | .ok none => done (skipRoutes s)
        | .ok (some candidate) => done (installRoutes kit s plan routes report candidate)
  | _, _ => raised s (.missing .optimizationInputs)

/-- `_evaluate_commute` -/
def evaluateCommute (s : AgentState F D) : Outcome F D :=
  match refreshCommuteReport kit s with
  | .error e => raised s e
  | .ok s => done s

/-- `_evaluate_schedule` -/
def evaluateSchedule (s : AgentState F D) : Outcome F D :=
  match refreshScheduleQuality kit s with
  | .error e => raised s e
  | .ok (_, s) => done s

/-- `_evaluate_constraints` -/
def evaluateConstraints (s : AgentState F D) : Outcome F D :=
  match refreshConstraintReport kit s with
  | .error e => raised s e
  | .ok (_, s) => done s

def stillExcessive (candidate : CommuteReplacementCandidate D)
    (report : CommuteConstraintReport F D) : Bool :=
  let replacement := squeezed candidate.replacementAttractionName
  report.issues.any fun issue =>
    replacement == squeezed issue.originName || replacement == squeezed issue.destinationName ||
      replacement == squeezed issue.targetAttractionName

/-- The conditions on a replacement: safer routes, shorter commutes, a feasible day. -/
def acceptsReplacement (plan baselinePlan : TripPlan)
    (quality baselineQuality : RouteQualityReport D)
    (report baselineReport : CommuteConstraintReport F D) (schedule : ScheduleQualityReport D)
    (constraints : TripConstraintReport F D) (candidate : CommuteReplacementCandidate D) : Bool :=
  decide (quality.unavailableLegs ≤ baselineQuality.unavailableLegs) &&
    (decide (report.excessiveSegmentCount < baselineReport.excessiveSegmentCount) &&
      decide (report.maxDurationSeconds < baselineReport.maxDurationSeconds)) &&
    !stillExcessive candidate report &&
    (schedule.totalOvertimeMinutes == 0 && schedule.infeasibleDays == 0) &&
    constraints.errorCount == 0 &&
    countAttractions plan == countAttractions baselinePlan

/-- The status that leaves room for another replacement. -/
def retryStatus (count limit : Nat) : SearchingStatus := if count < limit then .notStarted else .skipped

def acceptReplacement (s : AgentState F D) (report : CommuteConstraintReport F D) :
    AgentState F D :=
  { s with
    commute :=
      { s.commute.cleared with
        status :=
          if report.optimizationRecommended then
            retryStatus s.commute.replacementCount s.budget.maxCommuteReplacementAttempts
          else .completed }
    planConsistencyFingerprint := none
    lastValidationResult := none }

def withIdentity (identities : List String) (identity : String) : List String :=
  if identity ∈ identities then identities else identities ++ [identity]

def revertReplacement (s : AgentState F D) (plan : TripPlan) (routes : RouteEstimateResult F D)
    (quality : RouteQualityReport D) (report : CommuteConstraintReport F D)
    (schedule : ScheduleQualityReport D) (constraints : TripConstraintReport F D)
    (fingerprint constraintFingerprint : F) (candidate : CommuteReplacementCandidate D) :
    AgentState F D :=
  let identity := contentAttractionIdentity candidate.replacementAttractionId
    candidate.replacementAttractionName
  let s := restoreConstraints
    (restoreSchedule (restorePlan s plan routes quality fingerprint) schedule fingerprint)
    constraints constraintFingerprint
  let s := synchronize kit
    { s with commuteReport := some report, commutePlanFingerprint := some fingerprint }
  { s with
    commute :=
      { s.commute.cleared with
        excludedCandidateIdentities := withIdentity s.commute.excludedCandidateIdentities identity
        status := retryStatus s.commute.replacementCount s.budget.maxCommuteReplacementAttempts }
    planConsistencyFingerprint := none
    lastValidationResult := none }

def verifyReplacement (s : AgentState F D) (plan : TripPlan) (quality : RouteQualityReport D)
    (report : CommuteConstraintReport F D) (schedule : ScheduleQualityReport D)
    (constraints : TripConstraintReport F D) : Outcome F D :=
  match s.commute.baselinePlan, s.commute.baselineRoutes, s.commute.baselineRouteQuality,
    s.commute.baselineReport, s.commute.baselineSchedule, s.commute.baselineConstraintReport,
    s.commute.baselineRouteFingerprint, s.commute.baselineConstraintFingerprint,
    s.commute.candidate with
  | some plan₀, some routes₀, some quality₀, some report₀, some schedule₀, some constraints₀,
    some fingerprint₀, some constraintFingerprint₀, some candidate =>
    if acceptsReplacement plan plan₀ quality quality₀ report report₀ schedule constraints
        candidate then done (acceptReplacement s report)
    else
      done (revertReplacement kit s plan₀ routes₀ quality₀ report₀ schedule₀ constraints₀
        fingerprint₀ constraintFingerprint₀ candidate)
  | _, _, _, _, _, _, _, _, _ => raised s (.missing .replacementBaseline)

def skipReplacement (s : AgentState F D) : AgentState F D :=
  { s with commute := { s.commute with status := .skipped } }

/-- Unlike the other candidates this one leaves the input fingerprints as they are. -/
def installReplacement (s : AgentState F D) (plan : TripPlan) (routes : RouteEstimateResult F D)
    (quality : RouteQualityReport D) (report : CommuteConstraintReport F D)
    (schedule : ScheduleQualityReport D) (constraints : TripConstraintReport F D)
    (candidate : CommuteReplacementCandidate D) : AgentState F D :=
  { dropRoutes s with
    tripPlan := some candidate.plan
    commute :=
      { s.commute with
        replacementCount := s.commute.replacementCount + 1
        status := .candidatePending
        candidate := some candidate
        baselinePlan := some plan
        baselineRoutes := some routes
        baselineRouteQuality := some quality
        baselineReport := some report
        baselineSchedule := some schedule
        baselineConstraintReport := some constraints
        baselineRouteFingerprint := some (routeFingerprint kit s.request plan)
        baselineConstraintFingerprint := some (constraintPlanFingerprint kit s.request plan) }
    commuteReport := none
    commutePlanFingerprint := none
    constraintReport := none
    constraintPlanFingerprint := none
    planConsistencyFingerprint := none
    lastValidationResult := none }

def searchReplacement (s : AgentState F D) (query : CommuteSupplementQuery D) : AgentState F D :=
  { s with
    commuteSupplementQuery := some query
    commute := { s.commute with status := .supplementNeeded } }

/-- Without a candidate the pool is supplemented, if a search is left and a query can be made. -/
def supplementReplacement (s : AgentState F D) (plan : TripPlan)
    (report : CommuteConstraintReport F D) : Outcome F D :=
  if s.commute.supplementSearchCount < s.budget.maxCommuteSupplementSearches then
    match kit.buildQuery s.request plan report s.commute.supplementSearchCount with
    | .error m => raised s (.inner m)
    | .ok (some query) => done (searchReplacement s query)
    | .ok none => done (skipReplacement s)
  else done (skipReplacement s)

/-- `_replace_remote_attraction` -/
def replaceRemoteAttraction (s : AgentState F D) : Outcome F D :=
  match s.tripPlan, s.routeEstimates with
  | some plan, some routes =>
    match s.routeQualityReport, s.commuteReport, s.scheduleQualityReport, s.constraintReport with
    | some quality, some report, some schedule, some constraints =>
      if s.commute.status = .candidatePending then
        verifyReplacement kit s plan quality report schedule constraints
      else if s.budget.maxCommuteReplacementAttempts ≤ s.commute.replacementCount then
        done (skipReplacement s)
      else
        match kit.optimizeCommute s.request plan report s.attractions
          s.commute.excludedCandidateIdentities with
        | .error m => raised s (.inner m)
        | .ok none => supplementReplacement kit s plan report
        | .ok (some candidate) =>
          done (installReplacement kit s plan routes quality report schedule constraints candidate)
    | _, _, _, _ => raised s (.missing .replacementReports)
  | _, _ => raised s (.missing .replacementInputs)

end TravelAgent.Agent

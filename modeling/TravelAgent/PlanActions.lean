import TravelAgent.RouteActions

namespace TravelAgent.Agent

open TravelAgent.Itinerary TravelAgent.ContentRebuild

variable {F D : Type} [DecidableEq F] (kit : Kit F D)

/-- No more overtime, infeasible days or guessed legs than before. -/
def scheduleSafe (before after : ScheduleQualityReport D) : Bool :=
  decide (after.totalOvertimeMinutes ≤ before.totalOvertimeMinutes) &&
    decide (after.infeasibleDays ≤ before.infeasibleDays) &&
    decide (after.fallbackRouteLegs ≤ before.fallbackRouteLegs)

def acceptsSchedule (before after : ScheduleQualityReport D)
    (qualityBefore qualityAfter : RouteQualityReport D) : Bool :=
  decide (after.optimizationCost < before.optimizationCost) &&
    decide (kit.scheduleMinImprovementPercent ≤
      kit.improvementPercent before.optimizationCost after.optimizationCost) &&
    scheduleSafe before after && routeQualitySafe qualityBefore qualityAfter

def installSchedule (s : AgentState F D) (plan : TripPlan) (routes : RouteEstimateResult F D)
    (quality : RouteQualityReport D) (report : ScheduleQualityReport D)
    (candidate : OptimizationCandidate D) : AgentState F D :=
  { clearConstraintAnalysis (installPlan s candidate.plan) false with
    schedule :=
      { count := s.schedule.count + 1
        status := .candidatePending
        candidate := some candidate
        baselinePlan := some plan
        baselineRoutes := some routes
        baselineRouteQuality := some quality
        baselineQuality := some report
        baselineFingerprint := some (routeFingerprint kit s.request plan) } }

def settleSchedule (s : AgentState F D) : AgentState F D :=
  { s with
    schedule := { s.schedule.cleared with status := .completed }
    lastValidationResult := none }

def revertSchedule (s : AgentState F D) (plan : TripPlan) (routes : RouteEstimateResult F D)
    (quality : RouteQualityReport D) (report : ScheduleQualityReport D) (fingerprint : F) :
    AgentState F D :=
  settleSchedule (synchronize kit
    (restoreSchedule (restorePlan s plan routes quality fingerprint) report fingerprint))

def verifySchedule (s : AgentState F D) (report : ScheduleQualityReport D) : Outcome F D :=
  match s.schedule.baselinePlan, s.schedule.baselineRoutes, s.schedule.baselineRouteQuality,
    s.schedule.baselineQuality, s.schedule.baselineFingerprint, s.schedule.candidate with
  | some plan₀, some routes₀, some quality₀, some report₀, some fingerprint₀, some _ =>
    match s.routeQualityReport with
    | none => raised s (.missing .candidateRouteQuality)
    | some quality =>
      if acceptsSchedule kit report₀ report quality₀ quality then done (settleSchedule s)
      else done (revertSchedule kit s plan₀ routes₀ quality₀ report₀ fingerprint₀)
  | _, _, _, _, _, _ => raised s (.missing .scheduleBaseline)

def skipSchedule (s : AgentState F D) : AgentState F D :=
  { s with schedule := { s.schedule with status := .skipped } }

/-- The timeline at hand if it is about the plan, else a new one. -/
def currentSchedule (s : AgentState F D) (plan : TripPlan) :
    Except Fault (ScheduleQualityReport D × AgentState F D) :=
  match s.scheduleQualityReport with
  | none => refreshScheduleQuality kit s
  | some report =>
    if s.scheduleQualityPlanFingerprint = some (routeFingerprint kit s.request plan) then
      .ok (report, s)
    else refreshScheduleQuality kit s

/-- `_optimize_schedule` -/
def optimizeSchedule (s : AgentState F D) : Outcome F D :=
  match s.tripPlan, s.routeEstimates with
  | some plan, some routes =>
    match currentSchedule kit s plan with
    | .error e => raised s e
    | .ok (report, s) =>
      if s.schedule.status = .candidatePending then verifySchedule kit s report
      else if s.budget.maxScheduleOptimizationAttempts ≤ s.schedule.count then done (skipSchedule s)
      else if report.optimizationRecommended = false then done (skipSchedule s)
      else
        match kit.optimizeSchedule s.request plan report with
        | .error m => raised s (.inner m)
        | .ok none => done (skipSchedule s)
        | .ok (some candidate) =>
          match s.routeQualityReport with
          | none => raised s (.missing .baselineRouteQuality)
          | some quality => done (installSchedule kit s plan routes quality report candidate)
  | _, _ => raised s (.missing .scheduleOptimizationInputs)

def acceptsConstraints (before after : TripConstraintReport F D)
    (qualityBefore qualityAfter : RouteQualityReport D)
    (scheduleBefore scheduleAfter : ScheduleQualityReport D) : Bool :=
  decide (after.optimizationCost < before.optimizationCost) &&
    decide (kit.constraintMinImprovementPercent ≤
      kit.improvementPercent before.optimizationCost after.optimizationCost) &&
    decide (after.errorCount ≤ before.errorCount) &&
    routeQualitySafe qualityBefore qualityAfter && scheduleSafe scheduleBefore scheduleAfter

def installConstraints (s : AgentState F D) (plan : TripPlan) (routes : RouteEstimateResult F D)
    (quality : RouteQualityReport D) (schedule : ScheduleQualityReport D)
    (report : TripConstraintReport F D) (candidate : OptimizationCandidate D) : AgentState F D :=
  { installPlan s candidate.plan with
    constraintReport := none
    constraintPlanFingerprint := none
    constraint :=
      { count := s.constraint.count + 1
        status := .candidatePending
        candidate := some candidate
        baselinePlan := some plan
        baselineRoutes := some routes
        baselineRouteQuality := some quality
        baselineSchedule := some schedule
        baselineReport := some report
        baselineFingerprint := some (constraintPlanFingerprint kit s.request plan) } }

def settleConstraints (s : AgentState F D) : AgentState F D :=
  { s with
    constraint := { s.constraint.cleared with status := .completed }
    lastValidationResult := none }

/-- The route fingerprint is not saved: it is taken from the plan that comes back. -/
def revertConstraints (s : AgentState F D) (plan : TripPlan) (routes : RouteEstimateResult F D)
    (quality : RouteQualityReport D) (schedule : ScheduleQualityReport D)
    (report : TripConstraintReport F D) (fingerprint : F) : AgentState F D :=
  let routesAt := routeFingerprint kit s.request plan
  settleConstraints (synchronize kit
    (restoreConstraints
      (restoreSchedule (restorePlan s plan routes quality routesAt) schedule routesAt)
      report fingerprint))

def verifyConstraints (s : AgentState F D) (quality : RouteQualityReport D)
    (schedule : ScheduleQualityReport D) (report : TripConstraintReport F D) : Outcome F D :=
  match s.constraint.baselinePlan, s.constraint.baselineRoutes, s.constraint.baselineRouteQuality,
    s.constraint.baselineSchedule, s.constraint.baselineReport, s.constraint.baselineFingerprint,
    s.constraint.candidate with
  | some plan₀, some routes₀, some quality₀, some schedule₀, some report₀, some fingerprint₀,
    some _ =>
    if acceptsConstraints kit report₀ report quality₀ quality schedule₀ schedule then
      done (settleConstraints s)
    else done (revertConstraints kit s plan₀ routes₀ quality₀ schedule₀ report₀ fingerprint₀)
  | _, _, _, _, _, _, _ => raised s (.missing .constraintBaseline)

def skipConstraints (s : AgentState F D) : AgentState F D :=
  { s with constraint := { s.constraint with status := .skipped } }

/-- The constraint report at hand if it is about the plan, else a new one. -/
def currentConstraints (s : AgentState F D) (plan : TripPlan) :
    Except Fault (TripConstraintReport F D × AgentState F D) :=
  match s.constraintReport with
  | none => refreshConstraintReport kit s
  | some report =>
    if s.constraintPlanFingerprint = some (constraintPlanFingerprint kit s.request plan) then
      .ok (report, s)
    else refreshConstraintReport kit s

/-- `_optimize_constraints` -/
def optimizeConstraints (s : AgentState F D) : Outcome F D :=
  match s.tripPlan, s.routeEstimates with
  | some plan, some routes =>
    match s.routeQualityReport, s.scheduleQualityReport with
    | some quality, some schedule =>
      match currentConstraints kit s plan with
      | .error e => raised s e
      | .ok (report, s) =>
        if s.constraint.status = .candidatePending then
          verifyConstraints kit s quality schedule report
        else if s.budget.maxConstraintOptimizationAttempts ≤ s.constraint.count then
          done (skipConstraints s)
        else if report.optimizationRecommended = false then done (skipConstraints s)
        else
          match kit.optimizeConstraints s.request plan report s.attractions s.weather with
          | .error m => raised s (.inner m)
          | .ok none => done (skipConstraints s)
          | .ok (some candidate) =>
            done (installConstraints kit s plan routes quality schedule report candidate)
    | _, _ => raised s (.missing .constraintOptimizationReports)
  | _, _ => raised s (.missing .constraintOptimizationInputs)

def acceptsRefill (s : AgentState F D) (plan : TripPlan)
    (quality baselineQuality : RouteQualityReport D) (schedule : ScheduleQualityReport D)
    (constraints : TripConstraintReport F D) : Bool :=
  routeQualitySafe baselineQuality quality &&
    (schedule.totalOvertimeMinutes == 0 && schedule.infeasibleDays == 0) &&
    constraints.errorCount == 0 && decide (requiredAttractions s ≤ countAttractions plan)

/-- The refill ends; descriptions and validation are to be made anew. -/
def settleRefill (s : AgentState F D) (status : SearchingStatus) (excluded : List String) :
    AgentState F D :=
  { s with
    refill := { s.refill.cleared with status := status, excludedIdentities := excluded }
    planConsistencyFingerprint := none
    lastValidationResult := none }

def withIdentities (identities : List String) (candidate : ContentRefillCandidate D) :
    List String :=
  (candidate.addedAttractionNames.zip candidate.addedAttractionIds).foldl
    (fun known added => withIdentity known (contentAttractionIdentity added.2 added.1)) identities

def revertRefill (s : AgentState F D) (plan : TripPlan) (routes : RouteEstimateResult F D)
    (quality : RouteQualityReport D) (schedule : ScheduleQualityReport D)
    (constraints : TripConstraintReport F D) (fingerprint constraintFingerprint : F)
    (candidate : ContentRefillCandidate D) : AgentState F D :=
  let restored := synchronize kit
    (restoreConstraints
      (restoreSchedule (restorePlan s plan routes quality fingerprint) schedule fingerprint)
      constraints constraintFingerprint)
  settleRefill restored (retryStatus s.refill.count s.budget.maxContentRefillAttempts)
    (withIdentities s.refill.excludedIdentities candidate)

def verifyRefill (s : AgentState F D) (plan : TripPlan) : Outcome F D :=
  match s.refill.baselinePlan, s.refill.baselineRoutes, s.refill.baselineRouteQuality,
    s.refill.baselineSchedule, s.refill.baselineConstraintReport,
    s.refill.baselineRouteFingerprint, s.refill.baselineConstraintFingerprint,
    s.refill.candidate, s.routeQualityReport, s.scheduleQualityReport, s.constraintReport with
  | some plan₀, some routes₀, some quality₀, some schedule₀, some constraints₀, some fingerprint₀,
    some constraintFingerprint₀, some candidate, some quality, some schedule, some constraints =>
    if acceptsRefill s plan quality quality₀ schedule constraints then
      done (settleRefill s .completed s.refill.excludedIdentities)
    else
      done (revertRefill kit s plan₀ routes₀ quality₀ schedule₀ constraints₀ fingerprint₀
        constraintFingerprint₀ candidate)
  | _, _, _, _, _, _, _, _, _, _, _ => raised s (.missing .refillBaseline)

def endRefill (s : AgentState F D) (status : SearchingStatus) : AgentState F D :=
  { s with refill := { s.refill with status := status } }

def installRefill (s : AgentState F D) (plan : TripPlan) (routes : RouteEstimateResult F D)
    (quality : RouteQualityReport D) (schedule : ScheduleQualityReport D)
    (constraints : TripConstraintReport F D) (candidate : ContentRefillCandidate D) :
    AgentState F D :=
  { installPlan s candidate.plan with
    constraintReport := none
    constraintPlanFingerprint := none
    refill :=
      { s.refill with
        count := s.refill.count + 1
        status := .candidatePending
        candidate := some candidate
        baselinePlan := some plan
        baselineRoutes := some routes
        baselineRouteQuality := some quality
        baselineSchedule := some schedule
        baselineConstraintReport := some constraints
        baselineRouteFingerprint := some (routeFingerprint kit s.request plan)
        baselineConstraintFingerprint := some (constraintPlanFingerprint kit s.request plan) } }

def searchRefill (s : AgentState F D) (query : CommuteSupplementQuery D) : AgentState F D :=
  { s with
    commuteSupplementQuery := some query
    refill := { s.refill with status := .supplementNeeded } }

def supplementRefill (s : AgentState F D) (plan : TripPlan) : Outcome F D :=
  if s.refill.supplementSearchCount < s.budget.maxCommuteSupplementSearches then
    match kit.buildContentRefillQuery s.request plan s.refill.supplementSearchCount with
    | .error m => raised s (.inner m)
    | .ok (some query) => done (searchRefill s query)
    | .ok none => done (endRefill s .skipped)
  else done (endRefill s .skipped)

/-- `_refill_attractions` -/
def refillAttractions (s : AgentState F D) : Outcome F D :=
  match s.tripPlan with
  | none => raised s (.missing .refillPlan)
  | some plan =>
    if s.refill.status = .candidatePending then verifyRefill kit s plan
    else if requiredAttractions s ≤ countAttractions plan then done (endRefill s .completed)
    else if s.budget.maxContentRefillAttempts ≤ s.refill.count then done (endRefill s .skipped)
    else
      match s.routeEstimates, s.routeQualityReport, s.scheduleQualityReport, s.constraintReport with
      | some routes, some quality, some schedule, some constraints =>
        match kit.optimizeRefill s.request plan s.attractions s.refill.excludedIdentities with
        | .error m => raised s (.inner m)
        | .ok none => supplementRefill kit s plan
        | .ok (some candidate) =>
          done (installRefill kit s plan routes quality schedule constraints candidate)
      | _, _, _, _ => raised s (.missing .refillReports)

def withContent (s : AgentState F D) (rebuilt : TripPlan) : AgentState F D :=
  { s with
    tripPlan := some rebuilt
    planConsistencyFingerprint := some (planContentSourceFingerprint kit s rebuilt)
    lastValidationResult := none }

/-- `_rebuild_plan_content` -/
def rebuildContent (s : AgentState F D) : Outcome F D :=
  match s.tripPlan, s.routeEstimates with
  | some plan, some routes =>
    match rebuildPlanContent kit.routeDigest (kit.rebuilder s.scheduleQualityReport s.restaurants)
      s.request (some plan) (some routes.routes) with
    | .error m => raised s (.mismatch m)
    | .ok rebuilt => done (withContent kit s rebuilt)
  | _, _ => raised s (.missing .rebuildInputs)

def withValidation (s : AgentState F D) (plan : TripPlan) (v : TripValidationResult) :
    AgentState F D :=
  let s :=
    { s with
      lastValidationResult := some v
      evaluations :=
        { s.evaluations with
          validation := some (kit.validationDigest (validationInputs s plan)) } }
  { s with acceptanceReport := some (evaluateAcceptance kit.meanScore s v) }

/-- Whether a plan can go out, can be repaired or ends the run. -/
def judged (s : AgentState F D) (v : TripValidationResult) : Outcome F D :=
  if v.valid || s.acceptanceReport.any (·.accepted) then done s
  else if v.repairable ∧ s.repairCount < s.budget.maxRepairAttempts then ⟨s, .ok false⟩
  else ⟨{ s with status := .failed }, .error (.actionError .validatePlan)⟩

/-- `_validate_plan` -/
def validatePlan (s : AgentState F D) : Outcome F D :=
  match s.tripPlan with
  | none => raised s (.missing .validatedPlan)
  | some plan =>
    match kit.validate (validationInputs s plan) with
    | .error m => raised s (.inner m)
    | .ok v => judged (withValidation kit s plan v) v

/-- `FINISH` -/
def finish (s : AgentState F D) : AgentState F D :=
  { s with
    finished := true
    status := .completed
    completionMode :=
      some (if s.acceptanceReport.any (fun r => r.accepted && r.partially) then .partially else .full)
    completionWarnings := (s.acceptanceReport.map (·.warnings)).getD [] }

end TravelAgent.Agent

import TravelAgent.ContentRebuild

namespace TravelAgent.Agent

open TravelAgent.Itinerary

inductive AgentAction where
  | searchAttractions
  | getWeather
  | searchHotels
  | searchRestaurants
  | generatePlan
  | validatePlan
  | estimateRoutes
  | optimizeRoutes
  | evaluateCommute
  | replaceRemoteAttraction
  | supplementAttractions
  | evaluateSchedule
  | optimizeSchedule
  | evaluateConstraints
  | optimizeConstraints
  | refillAttractions
  | rebuildPlanContent
  | repairPlan
  | finish
deriving DecidableEq, Repr

/-- `_COMPRESSIBLE_LOCAL_ACTIONS` -/
def AgentAction.compressible : AgentAction → Bool
  | .optimizeRoutes | .evaluateCommute | .replaceRemoteAttraction | .evaluateSchedule
  | .optimizeSchedule | .evaluateConstraints | .optimizeConstraints | .refillAttractions
  | .rebuildPlanContent | .validatePlan | .finish => true
  | _ => false

inductive AgentStatus where
  | pending
  | running
  | completed
  | failed
  | maxStepsReached
  | budgetExhausted
  | convergenceStopped
  | cancelled
deriving DecidableEq, Repr

inductive OptimizationStatus where
  | notStarted
  | candidatePending
  | completed
  | skipped
deriving DecidableEq, Repr

/-- Commute replacement and content refill may also wait for a nearby search. -/
inductive SearchingStatus where
  | notStarted
  | supplementNeeded
  | candidatePending
  | completed
  | skipped
deriving DecidableEq, Repr

inductive CompletionMode where
  | full
  | partially
deriving DecidableEq, Repr

structure ExecutionBudget where
  maxSteps : Nat := 24
  maxToolCalls : Nat := 30
  maxLlmCalls : Nat := 6
  maxRepairAttempts : Nat := 2
  maxRouteOptimizationAttempts : Nat := 1
  maxScheduleOptimizationAttempts : Nat := 1
  maxConstraintOptimizationAttempts : Nat := 1
  maxContentRefillAttempts : Nat := 2
  maxCommuteReplacementAttempts : Nat := 2
  maxCommuteSupplementSearches : Nat := 2
  minimumTotalAttractions : Nat := 0
  maxRepeatedActionInputs : Nat := 1
  maxNoProgressSteps : Nat := 3
  maxLocalActionsPerStep : Nat := 8
  partialAcceptanceEnabled : Bool := true
  partialAcceptanceMinScore : ℚ := 70
  partialAcceptanceMaxValidationErrors : Nat := 2
  partialAcceptanceMaxScheduleOvertimeMinutes : Nat := 60
  partialAcceptanceMaxUnavailableRouteLegs : Nat := 0
  partialAcceptanceMaxExcessiveCommuteSegments : Nat := 0
  partialAcceptanceMaxConstraintErrors : Nat := 0
  partialAcceptanceMinAttractionsPerDay : Nat := 0
  partialAcceptanceAllowedErrorCodes : List String :=
    ["plan.empty_suggestions", "schedule.daily_overtime"]
deriving DecidableEq

/- The reports keep the fields that the loop reads; `details` is the rest of
the record. `F` is the type of fingerprints, `D` that of provider documents. -/

variable (F D : Type)

structure RouteEstimateResult where
  planFingerprint : F
  routes : List RouteEstimate
  details : D
deriving DecidableEq

structure RouteQualityReport where
  unavailableLegs : Nat
  excessiveDurationLegs : Nat
  optimizationCost : ℚ
  qualityScore : ℚ
  optimizationRecommended : Bool
  details : D
deriving DecidableEq

structure ScheduleQualityReport where
  infeasibleDays : Nat
  totalOvertimeMinutes : Nat
  fallbackRouteLegs : Nat
  optimizationCost : ℚ
  qualityScore : ℚ
  optimizationRecommended : Bool
  details : D
deriving DecidableEq

structure CommuteSegmentIssue where
  originName : String
  destinationName : String
  targetAttractionName : String
deriving DecidableEq

structure CommuteConstraintReport where
  planFingerprint : F
  excessiveSegmentCount : Nat
  maxDurationSeconds : Nat
  optimizationRecommended : Bool
  issues : List CommuteSegmentIssue
  details : D
deriving DecidableEq

structure TripConstraintReport where
  planFingerprint : F
  errorCount : Nat
  optimizationCost : ℚ
  qualityScore : ℚ
  optimizationRecommended : Bool
  details : D
deriving DecidableEq

/-- A reordered plan of the route, schedule or constraint optimizer. -/
structure OptimizationCandidate where
  plan : TripPlan
  details : D
deriving DecidableEq

structure CommuteReplacementCandidate where
  plan : TripPlan
  replacementAttractionName : String
  replacementAttractionId : String
  details : D
deriving DecidableEq

structure ContentRefillCandidate where
  plan : TripPlan
  addedAttractionNames : List String
  addedAttractionIds : List String
  details : D
deriving DecidableEq

structure CommuteSupplementQuery where
  center : Location
  radiusMeters : Nat
  page : Nat
  details : D
deriving DecidableEq

inductive ValidationSeverity where
  | error
  | warning
deriving DecidableEq, Repr

structure ValidationIssue where
  code : String
  severity : ValidationSeverity
  message : String
  repairable : Bool := true
deriving DecidableEq

structure TripValidationResult where
  valid : Bool
  repairable : Bool
  issues : List ValidationIssue
deriving DecidableEq

def ValidationIssue.isError (i : ValidationIssue) : Bool := i.severity == .error

def ValidationIssue.isWarning (i : ValidationIssue) : Bool := i.severity == .warning

/-- `TripValidationResult.from_issues` -/
def TripValidationResult.fromIssues (issues : List ValidationIssue) : TripValidationResult :=
  let errors := issues.filter ValidationIssue.isError
  { valid := errors.isEmpty
    repairable := !errors.isEmpty && errors.all (·.repairable)
    issues := issues }

inductive PlanQualityLevel where
  | excellent
  | acceptable
  | degraded
  | unusable
deriving DecidableEq, Repr

structure CoreChecks where
  planIdentity : Bool
  dayCount : Bool
  minimumAttractionsPerDay : Bool
  routeAvailability : Bool
  scheduleOvertime : Bool
  commuteLimit : Bool
  executionConstraints : Bool
  validationAllowlist : Bool
deriving DecidableEq

structure PartialAcceptanceReport where
  accepted : Bool := false
  partially : Bool := false
  qualityLevel : PlanQualityLevel := .unusable
  qualityScore : ℚ := 0
  reason : String := ""
  coreChecks : Option CoreChecks := none
  blockingReasons : List String := []
  warnings : List String := []
  unresolvedIssueCodes : List String := []
deriving DecidableEq

/-- The keys of `evaluation_input_fingerprints`. -/
inductive EvaluationKey where
  | routeQuality
  | commute
  | schedule
  | constraints
  | validation
deriving DecidableEq, Repr

structure EvaluationFingerprints where
  routeQuality : Option F := none
  commute : Option F := none
  schedule : Option F := none
  constraints : Option F := none
  validation : Option F := none
deriving DecidableEq

structure RouteOptimization where
  count : Nat := 0
  status : OptimizationStatus := .notStarted
  candidate : Option (OptimizationCandidate D) := none
  baselinePlan : Option TripPlan := none
  baselineRoutes : Option (RouteEstimateResult F D) := none
  baselineQuality : Option (RouteQualityReport D) := none
  baselineFingerprint : Option F := none
deriving DecidableEq

structure CommuteOptimization where
  replacementCount : Nat := 0
  supplementSearchCount : Nat := 0
  status : SearchingStatus := .notStarted
  candidate : Option (CommuteReplacementCandidate D) := none
  baselinePlan : Option TripPlan := none
  baselineRoutes : Option (RouteEstimateResult F D) := none
  baselineRouteQuality : Option (RouteQualityReport D) := none
  baselineReport : Option (CommuteConstraintReport F D) := none
  baselineSchedule : Option (ScheduleQualityReport D) := none
  baselineConstraintReport : Option (TripConstraintReport F D) := none
  baselineRouteFingerprint : Option F := none
  baselineConstraintFingerprint : Option F := none
  excludedCandidateIdentities : List String := []
deriving DecidableEq

structure ScheduleOptimization where
  count : Nat := 0
  status : OptimizationStatus := .notStarted
  candidate : Option (OptimizationCandidate D) := none
  baselinePlan : Option TripPlan := none
  baselineRoutes : Option (RouteEstimateResult F D) := none
  baselineRouteQuality : Option (RouteQualityReport D) := none
  baselineQuality : Option (ScheduleQualityReport D) := none
  baselineFingerprint : Option F := none
deriving DecidableEq

structure ConstraintOptimization where
  count : Nat := 0
  status : OptimizationStatus := .notStarted
  candidate : Option (OptimizationCandidate D) := none
  baselinePlan : Option TripPlan := none
  baselineRoutes : Option (RouteEstimateResult F D) := none
  baselineRouteQuality : Option (RouteQualityReport D) := none
  baselineSchedule : Option (ScheduleQualityReport D) := none
  baselineReport : Option (TripConstraintReport F D) := none
  baselineFingerprint : Option F := none
deriving DecidableEq

structure ContentRefill where
  count : Nat := 0
  supplementSearchCount : Nat := 0
  status : SearchingStatus := .notStarted
  candidate : Option (ContentRefillCandidate D) := none
  baselinePlan : Option TripPlan := none
  baselineRoutes : Option (RouteEstimateResult F D) := none
  baselineRouteQuality : Option (RouteQualityReport D) := none
  baselineSchedule : Option (ScheduleQualityReport D) := none
  baselineConstraintReport : Option (TripConstraintReport F D) := none
  baselineRouteFingerprint : Option F := none
  baselineConstraintFingerprint : Option F := none
  excludedIdentities : List String := []
deriving DecidableEq

/-- The business part of the state: what the choice of the next action reads
and what the actions write. -/
structure AgentState where
  request : TripRequest
  budget : ExecutionBudget
  status : AgentStatus := .pending
  finished : Bool := false
  repairCount : Nat := 0
  attractions : Option D := none
  weather : Option D := none
  hotels : Option D := none
  restaurants : Option D := none
  restaurantPlanFingerprint : Option F := none
  tripPlan : Option TripPlan := none
  routeEstimates : Option (RouteEstimateResult F D) := none
  routePlanFingerprint : Option F := none
  routeQualityReport : Option (RouteQualityReport D) := none
  routeQualityPlanFingerprint : Option F := none
  route : RouteOptimization F D := {}
  commuteReport : Option (CommuteConstraintReport F D) := none
  commutePlanFingerprint : Option F := none
  commute : CommuteOptimization F D := {}
  commuteSupplementQuery : Option (CommuteSupplementQuery D) := none
  scheduleQualityReport : Option (ScheduleQualityReport D) := none
  scheduleQualityPlanFingerprint : Option F := none
  schedule : ScheduleOptimization F D := {}
  constraintReport : Option (TripConstraintReport F D) := none
  constraintPlanFingerprint : Option F := none
  constraint : ConstraintOptimization F D := {}
  refill : ContentRefill F D := {}
  planConsistencyFingerprint : Option F := none
  lastValidationResult : Option TripValidationResult := none
  acceptanceReport : Option PartialAcceptanceReport := none
  completionMode : Option CompletionMode := none
  completionWarnings : List String := []
  evaluations : EvaluationFingerprints F := {}
deriving DecidableEq

variable {F D}

/-- `AgentState.create` -/
def AgentState.create (request : TripRequest) (budget : ExecutionBudget) : AgentState F D :=
  { request, budget }

/-- `count_attractions` -/
def countAttractions (plan : TripPlan) : Nat := (plan.days.map (·.attractions.length)).sum

/-- `"".join(value.lower().split())` -/
def squeezed (value : String) : List Char :=
  (Texts.lower value.toList).filter fun c => !TaskStore.pySpace c

/-- `content_attraction_identity` -/
def contentAttractionIdentity (poiId name : String) : String :=
  if (squeezed poiId).isEmpty then "name:" ++ String.ofList (squeezed name)
  else "id:" ++ String.ofList (squeezed poiId)

/-- The identity that the plan normaliser goes by: here the id keeps its inner
blanks. -/
def attractionIdentity (a : Attraction) : String :=
  let poiId := Texts.lower (Texts.trim TaskStore.pySpace (a.poiId.getD "").toList)
  if poiId.isEmpty then "name:" ++ String.ofList (squeezed a.name) else "poi:" ++ String.ofList poiId

/-- One day of `remove_duplicate_attractions`: the attractions kept and what has
been seen so far. -/
def keepUnseen : List String → List Attraction → List Attraction × List String
  | seen, [] => ([], seen)
  | seen, a :: rest =>
    if attractionIdentity a ∈ seen then keepUnseen seen rest
    else
      let (kept, seen) := keepUnseen (attractionIdentity a :: seen) rest
      (a :: kept, seen)

def dropDuplicates : List String → List DayPlan → List DayPlan
  | _, [] => []
  | seen, day :: days =>
    let (kept, seen) := keepUnseen seen day.attractions
    { day with attractions := kept } :: dropDuplicates seen days

/-- `remove_duplicate_attractions` -/
def removeDuplicateAttractions (plan : TripPlan) : TripPlan :=
  { plan with days := dropDuplicates [] plan.days }

end TravelAgent.Agent

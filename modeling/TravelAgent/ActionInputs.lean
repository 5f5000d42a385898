import TravelAgent.AgentDecide

namespace TravelAgent.Agent

open TravelAgent.Itinerary TravelAgent.ContentRebuild

variable {F D : Type}

/-- What `business_state_fingerprint` covers: no step, time, attempt or audit record. -/
structure BusinessState (F D : Type) where
  attractions : Option D
  weather : Option D
  hotels : Option D
  restaurants : Option D
  restaurantPlanFingerprint : Option F
  tripPlan : Option TripPlan
  routeEstimates : Option (RouteEstimateResult F D)
  routeQualityReport : Option (RouteQualityReport D)
  routeCount : Nat
  routeStatus : OptimizationStatus
  routeCandidate : Option (OptimizationCandidate D)
  commuteReport : Option (CommuteConstraintReport F D)
  replacementCount : Nat
  commuteSearchCount : Nat
  commuteStatus : SearchingStatus
  commuteCandidate : Option (CommuteReplacementCandidate D)
  commuteQuery : Option (CommuteSupplementQuery D)
  commuteExcluded : List String
  scheduleQualityReport : Option (ScheduleQualityReport D)
  scheduleCount : Nat
  scheduleStatus : OptimizationStatus
  scheduleCandidate : Option (OptimizationCandidate D)
  constraintReport : Option (TripConstraintReport F D)
  constraintCount : Nat
  constraintStatus : OptimizationStatus
  constraintCandidate : Option (OptimizationCandidate D)
  refillCount : Nat
  refillStatus : SearchingStatus
  refillCandidate : Option (ContentRefillCandidate D)
  refillSearchCount : Nat
  refillQuery : Option (CommuteSupplementQuery D)
  refillExcluded : List String
  repairCount : Nat
  planConsistencyFingerprint : Option F
  evaluations : EvaluationFingerprints F
  lastValidationResult : Option TripValidationResult
  finished : Bool

def businessState (s : AgentState F D) : BusinessState F D :=
  { attractions := s.attractions
    weather := s.weather
    hotels := s.hotels
    restaurants := s.restaurants
    restaurantPlanFingerprint := s.restaurantPlanFingerprint
    tripPlan := s.tripPlan
    routeEstimates := s.routeEstimates
    routeQualityReport := s.routeQualityReport
    routeCount := s.route.count
    routeStatus := s.route.status
    routeCandidate := s.route.candidate
    commuteReport := s.commuteReport
    replacementCount := s.commute.replacementCount
    commuteSearchCount := s.commute.supplementSearchCount
    commuteStatus := s.commute.status
    commuteCandidate := s.commute.candidate
    commuteQuery := s.commuteSupplementQuery
    commuteExcluded := s.commute.excludedCandidateIdentities
    scheduleQualityReport := s.scheduleQualityReport
    scheduleCount := s.schedule.count
    scheduleStatus := s.schedule.status
    scheduleCandidate := s.schedule.candidate
    constraintReport := s.constraintReport
    constraintCount := s.constraint.count
    constraintStatus := s.constraint.status
    constraintCandidate := s.constraint.candidate
    refillCount := s.refill.count
    refillStatus := s.refill.status
    refillCandidate := s.refill.candidate
    refillSearchCount := s.refill.supplementSearchCount
    refillQuery := if s.refill.status = .supplementNeeded then s.commuteSupplementQuery else none
    refillExcluded := s.refill.excludedIdentities
    repairCount := s.repairCount
    planConsistencyFingerprint := s.planConsistencyFingerprint
    evaluations := s.evaluations
    lastValidationResult := s.lastValidationResult
    finished := s.finished }

/-- The part of the business data that an action depends on. -/
inductive ActionInput (F D : Type) where
  | places (city : String) (preferences : List String)
  | city (city : String)
  | lodging (city accommodation : String)
  | dining (city : String) (plan : Option TripPlan)
  | facts (request : TripRequest) (attractions weather hotels : Option D)
  | routing (request : TripRequest) (plan : Option TripPlan) (attractions hotels : Option D)
  | evaluated (fingerprint : F)
  | repair (request : TripRequest) (plan : Option TripPlan) (v : Option TripValidationResult)
      (attractions weather hotels : Option D)
  | search (query : Option (CommuteSupplementQuery D)) (attractions : Option D)
  | content (request : TripRequest) (plan : Option TripPlan)
      (routes : Option (RouteEstimateResult F D)) (schedule : Option (ScheduleQualityReport D))
      (attractions weather hotels restaurants : Option D)
  | verdict (v : Option TripValidationResult)

/-- The two digests of the convergence guard. -/
structure Digests (F D : Type) where
  business : BusinessState F D → F
  input : AgentAction → ActionInput F D → F

/-- Without a plan there is nothing that could be evaluated. -/
def evaluatedInput (s : AgentState F D) (fingerprint : TripPlan → F) :
    Except Fault (ActionInput F D) :=
  match s.tripPlan with
  | none => .error (.invalid "TripPlan")
  | some plan => .ok (.evaluated (fingerprint plan))

/-- What `action_input_fingerprint` takes the digest of. -/
def actionInput (kit : Kit F D) (digests : Digests F D) (s : AgentState F D) :
    AgentAction → Except Fault (ActionInput F D)
  | .searchAttractions => .ok (.places s.request.city s.request.preferences)
  | .getWeather => .ok (.city s.request.city)
  | .searchHotels => .ok (.lodging s.request.city s.request.accommodation)
  | .searchRestaurants => .ok (.dining s.request.city s.tripPlan)
  | .generatePlan => .ok (.facts s.request s.attractions s.weather s.hotels)
  | .estimateRoutes => .ok (.routing s.request s.tripPlan s.attractions s.hotels)
  | .evaluateCommute =>
    evaluatedInput s fun plan => commuteInputFingerprint kit s.request plan s.routeEstimates
  | .evaluateSchedule =>
    evaluatedInput s fun plan => scheduleInputFingerprint kit s.request plan s.routeEstimates
  | .evaluateConstraints =>
    evaluatedInput s fun plan => kit.constraintDigest (constraintInputs s plan)
  | .validatePlan => evaluatedInput s fun plan => kit.validationDigest (validationInputs s plan)
  | .repairPlan =>
    .ok (.repair s.request s.tripPlan s.lastValidationResult s.attractions s.weather s.hotels)
  | .supplementAttractions => .ok (.search s.commuteSupplementQuery s.attractions)
  | .rebuildPlanContent =>
    .ok (.content s.request s.tripPlan s.routeEstimates s.scheduleQualityReport s.attractions
      s.weather s.hotels s.restaurants)
  | .finish => .ok (.verdict s.lastValidationResult)
  | .optimizeRoutes | .replaceRemoteAttraction | .optimizeSchedule | .optimizeConstraints
  | .refillAttractions => .ok (.evaluated (digests.business (businessState s)))

end TravelAgent.Agent

import TravelAgent.Acceptance
import TravelAgent.RouteRequests

namespace TravelAgent.Agent

open TravelAgent.Itinerary TravelAgent.ContentRebuild

variable {F D : Type}

/-- What `constraint_plan_fingerprint` covers. -/
structure ConstraintPlanInputs where
  transportation : String
  preferences : List String
  freeTextInput : String
  plan : TripPlan
deriving DecidableEq

structure ConstraintInputs (D : Type) where
  request : TripRequest
  plan : TripPlan
  scheduleReport : Option (ScheduleQualityReport D)
  attractions : Option D
  weather : Option D
deriving DecidableEq

structure ValidationInputs (F D : Type) where
  request : TripRequest
  plan : TripPlan
  attractions : Option D
  weather : Option D
  hotels : Option D
  routeEstimates : Option (RouteEstimateResult F D)
  scheduleReport : Option (ScheduleQualityReport D)
  constraintReport : Option (TripConstraintReport F D)
deriving DecidableEq

structure HotelSource where
  name : String
  address : String
  estimatedCost : Int
  longitude : Option Double
  latitude : Option Double
deriving DecidableEq

structure AttractionSource where
  name : String
  address : String
  poiId : String
  visitDuration : Int
  ticketPrice : Int
  longitude : Double
  latitude : Double
deriving DecidableEq

structure DaySource where
  date : String
  dayIndex : Int
  hotel : Option HotelSource
  attractions : List AttractionSource
deriving DecidableEq

structure ScheduleSource (D : Type) where
  infeasibleDays : Nat
  totalOvertimeMinutes : Nat
  timeline : D
deriving DecidableEq

structure ContentSource (D : Type) where
  city : String
  transportationMode : RouteMode
  accommodation : String
  preferences : List String
  days : List DaySource
  routes : List RouteEstimate
  restaurants : Option D
  schedule : Option (ScheduleSource D)
deriving DecidableEq

/-- What the orchestrator is built from: digests, evaluators, optimizers, the
validator and their settings. -/
structure Kit (F D : Type) where
  routeDigest : RouteInputs → F
  snapshotDigest : F → Option (RouteEstimateResult F D) → F
  constraintPlanDigest : ConstraintPlanInputs → F
  constraintDigest : ConstraintInputs D → F
  validationDigest : ValidationInputs F D → F
  restaurantDigest : List RestaurantSearchAnchor → F
  contentDigest : ContentSource D → F
  evaluateRouteQuality : TripPlan → RouteEstimateResult F D → Except String (RouteQualityReport D)
  evaluateCommute : TripRequest → TripPlan → RouteEstimateResult F D →
    Except String (CommuteConstraintReport F D)
  evaluateSchedule : TripRequest → TripPlan → RouteEstimateResult F D →
    Except String (ScheduleQualityReport D)
  evaluateConstraints : TripRequest → TripPlan → ScheduleQualityReport D → Option D → Option D →
    Except String (TripConstraintReport F D)
  validate : ValidationInputs F D → Except String TripValidationResult
  optimizeRoutes : TripPlan → Except String (Option (OptimizationCandidate D))
  optimizeSchedule : TripRequest → TripPlan → ScheduleQualityReport D →
    Except String (Option (OptimizationCandidate D))
  optimizeConstraints : TripRequest → TripPlan → TripConstraintReport F D → Option D → Option D →
    Except String (Option (OptimizationCandidate D))
  optimizeCommute : TripRequest → TripPlan → CommuteConstraintReport F D → Option D → List String →
    Except String (Option (CommuteReplacementCandidate D))
  optimizeRefill : TripRequest → TripPlan → Option D → List String →
    Except String (Option (ContentRefillCandidate D))
  buildQuery : TripRequest → TripPlan → CommuteConstraintReport F D → Nat →
    Except String (Option (CommuteSupplementQuery D))
  buildContentRefillQuery : TripRequest → TripPlan → Nat →
    Except String (Option (CommuteSupplementQuery D))
  merge : Option D → D → Except String D
  timeline : ScheduleQualityReport D → D
  rebuilder : Option (ScheduleQualityReport D) → Option D → Rebuilder
  sources : Option D → Option D → PointSources
  /-- The saving relative to a cost, in percent: doubles rounded to two places. -/
  improvementPercent : ℚ → ℚ → ℚ
  meanScore : MeanScore
  routeMinImprovementPercent : ℚ := 10
  scheduleMinImprovementPercent : ℚ := 10
  constraintMinImprovementPercent : ℚ := 10
  maxRestaurantSearchAnchors : Nat := 8

variable (kit : Kit F D)

def routeFingerprint (request : TripRequest) (plan : TripPlan) : F :=
  planRouteFingerprint kit.routeDigest request plan

/-- The digest of a route fingerprint with the estimates at hand. -/
def snapshotFingerprint (request : TripRequest) (plan : TripPlan)
    (routes : Option (RouteEstimateResult F D)) : F :=
  kit.snapshotDigest (routeFingerprint kit request plan) routes

def routeQualityInputFingerprint := snapshotFingerprint kit

def commuteInputFingerprint := snapshotFingerprint kit

def scheduleInputFingerprint := snapshotFingerprint kit

def constraintPlanFingerprint (request : TripRequest) (plan : TripPlan) : F :=
  kit.constraintPlanDigest
    { transportation := request.transportation
      preferences := request.preferences
      freeTextInput := request.freeTextInput.getD ""
      plan }

def constraintInputs (s : AgentState F D) (plan : TripPlan) : ConstraintInputs D :=
  { request := s.request
    plan
    scheduleReport := s.scheduleQualityReport
    attractions := s.attractions
    weather := s.weather }

def validationInputs (s : AgentState F D) (plan : TripPlan) : ValidationInputs F D :=
  { request := s.request
    plan
    attractions := s.attractions
    weather := s.weather
    hotels := s.hotels
    routeEstimates := s.routeEstimates
    scheduleReport := s.scheduleQualityReport
    constraintReport := s.constraintReport }

def restaurantSearchSourceFingerprint (plan : TripPlan) : Except Fault F :=
  (buildRestaurantSearchAnchors plan kit.maxRestaurantSearchAnchors).map kit.restaurantDigest

def hotelSource (h : Hotel) : HotelSource :=
  { name := h.name
    address := h.address
    estimatedCost := h.estimatedCost
    longitude := h.location.map (·.longitude.round6)
    latitude := h.location.map (·.latitude.round6) }

def attractionSource (a : Attraction) : AttractionSource :=
  { name := a.name
    address := a.address
    poiId := a.poiId.getD ""
    visitDuration := a.visitDuration
    ticketPrice := a.ticketPrice
    longitude := a.location.longitude.round6
    latitude := a.location.latitude.round6 }

def daySource (day : DayPlan) : DaySource :=
  { date := day.date
    dayIndex := day.dayIndex
    hotel := day.hotel.map hotelSource
    attractions := day.attractions.map attractionSource }

/-- `plan_content_source_fingerprint`: nothing that a rebuild writes is part of it. -/
def planContentSourceFingerprint (s : AgentState F D) (plan : TripPlan) : F :=
  kit.contentDigest
    { city := s.request.city
      transportationMode := normalizeTransportationMode s.request.transportation
      accommodation := s.request.accommodation
      preferences := s.request.preferences
      days := plan.days.map daySource
      routes := (s.routeEstimates.map (·.routes)).getD []
      restaurants := s.restaurants
      schedule := s.scheduleQualityReport.map fun r =>
        { infeasibleDays := r.infeasibleDays
          totalOvertimeMinutes := r.totalOvertimeMinutes
          timeline := kit.timeline r } }

variable [DecidableEq F]

/-- `_evaluation_is_current`: a stored input fingerprint decides; without one
the fingerprint of the plan does. -/
def evaluationIsCurrent (stored : Option F) (input : F) (legacyMatches : Bool) : Bool :=
  match stored with
  | some k => k == input
  | none => legacyMatches

def routeQualityCurrent (s : AgentState F D) (plan : TripPlan) : Bool :=
  s.routeQualityReport.isSome &&
    evaluationIsCurrent s.evaluations.routeQuality
      (routeQualityInputFingerprint kit s.request plan s.routeEstimates)
      (s.routeQualityPlanFingerprint == some (routeFingerprint kit s.request plan))

def commuteCurrent (s : AgentState F D) (plan : TripPlan) : Bool :=
  s.commuteReport.isSome &&
    evaluationIsCurrent s.evaluations.commute
      (commuteInputFingerprint kit s.request plan s.routeEstimates)
      (s.commutePlanFingerprint == some (routeFingerprint kit s.request plan))

def scheduleCurrent (s : AgentState F D) (plan : TripPlan) : Bool :=
  s.scheduleQualityReport.isSome &&
    evaluationIsCurrent s.evaluations.schedule
      (scheduleInputFingerprint kit s.request plan s.routeEstimates)
      (s.scheduleQualityPlanFingerprint == some (routeFingerprint kit s.request plan))

def constraintsCurrent (s : AgentState F D) (plan : TripPlan) : Bool :=
  s.constraintReport.isSome &&
    evaluationIsCurrent s.evaluations.constraints (kit.constraintDigest (constraintInputs s plan))
      (s.constraintPlanFingerprint == some (constraintPlanFingerprint kit s.request plan))

/-- For the validation the fallback only asks for a result. -/
def validationCurrent (s : AgentState F D) (plan : TripPlan) : Bool :=
  s.lastValidationResult.isSome &&
    evaluationIsCurrent s.evaluations.validation (kit.validationDigest (validationInputs s plan))
      s.lastValidationResult.isSome

def chooseFacts (s : AgentState F D) : Option AgentAction :=
  if s.attractions.isNone then some .searchAttractions
  else if s.weather.isNone then some .getWeather
  else if s.hotels.isNone then some .searchHotels
  else none

/-- A route optimisation that is still to be made. -/
def routeWanted (s : AgentState F D) : Bool :=
  s.route.status == .notStarted && s.routeQualityReport.any (·.optimizationRecommended) &&
    decide (s.route.count < s.budget.maxRouteOptimizationAttempts)

def chooseRoutes (s : AgentState F D) (plan : TripPlan) : Option AgentAction :=
  if s.routeEstimates.isNone ||
      s.routePlanFingerprint != some (routeFingerprint kit s.request plan) then some .estimateRoutes
  else if s.refill.status = .supplementNeeded then some .supplementAttractions
  else if !routeQualityCurrent kit s plan then some .optimizeRoutes
  else if s.route.status = .candidatePending then some .optimizeRoutes
  else if routeWanted s then some .optimizeRoutes
  else none

/-- A candidate is verified once the timeline and the constraints are current. -/
def chooseVerification (s : AgentState F D) (plan : TripPlan) : Option AgentAction :=
  let afterConstraints (action : AgentAction) : AgentAction :=
    if !scheduleCurrent kit s plan then .evaluateSchedule
    else if !constraintsCurrent kit s plan then .evaluateConstraints
    else action
  if s.schedule.status = .candidatePending then
    some (if scheduleCurrent kit s plan then .optimizeSchedule else .evaluateSchedule)
  else if s.constraint.status = .candidatePending then some (afterConstraints .optimizeConstraints)
  else if s.refill.status = .candidatePending then some (afterConstraints .refillAttractions)
  else none

def commuteNeedsAction (s : AgentState F D) : Bool :=
  s.commute.status == .candidatePending ||
    (s.commute.status == .notStarted && s.commuteReport.any (·.optimizationRecommended))

def chooseCommute (s : AgentState F D) (plan : TripPlan) : Option AgentAction :=
  if !commuteCurrent kit s plan then some .evaluateCommute
  else if !scheduleCurrent kit s plan then some .evaluateSchedule
  else if s.commute.status = .supplementNeeded then some .supplementAttractions
  else if commuteNeedsAction s then
    some (if !constraintsCurrent kit s plan then .evaluateConstraints else .replaceRemoteAttraction)
  else if s.schedule.status = .notStarted ∧
      s.scheduleQualityReport.any (·.optimizationRecommended) then some .optimizeSchedule
  else none

def requiredAttractions (s : AgentState F D) : Nat :=
  min s.budget.minimumTotalAttractions (max 1 s.request.travelDays)

def refillNeeded (s : AgentState F D) (plan : TripPlan) : Bool :=
  decide (countAttractions plan < requiredAttractions s) &&
    (s.refill.status != .completed && s.refill.status != .skipped) &&
    decide (s.refill.count < s.budget.maxContentRefillAttempts)

/-- A constraint optimisation that is pending or still to be made. -/
def constraintWanted (s : AgentState F D) : Bool :=
  s.constraint.status == .candidatePending ||
    (s.constraint.status == .notStarted && s.constraintReport.any (·.optimizationRecommended))

def chooseRefill (s : AgentState F D) (plan : TripPlan) : Option AgentAction :=
  if s.refill.status = .candidatePending ∨ refillNeeded s plan ∨
      s.constraint.status = .candidatePending then
    some
      (if !constraintsCurrent kit s plan then .evaluateConstraints
      else if constraintWanted s then .optimizeConstraints
      else .refillAttractions)
  else none

def chooseContent (s : AgentState F D) (plan : TripPlan) : Except Fault (Option AgentAction) :=
  match restaurantSearchSourceFingerprint kit plan with
  | .error e => .error e
  | .ok fingerprint =>
    .ok
      (if s.restaurants.isNone || s.restaurantPlanFingerprint != some fingerprint then
        some .searchRestaurants
      else if s.planConsistencyFingerprint ≠ some (planContentSourceFingerprint kit s plan) then
        some .rebuildPlanContent
      else if !constraintsCurrent kit s plan then some .evaluateConstraints
      else if constraintWanted s then some .optimizeConstraints
      else none)

def chooseVerdict (s : AgentState F D) (plan : TripPlan) : AgentAction :=
  if !validationCurrent kit s plan then .validatePlan
  else if s.lastValidationResult.any (·.valid) || s.acceptanceReport.any (·.accepted) then .finish
  else if s.lastValidationResult.any (·.repairable) ∧
      s.repairCount < s.budget.maxRepairAttempts then .repairPlan
  else .validatePlan

/-- Everything that comes before the validation. -/
def choosePrior (s : AgentState F D) (plan : TripPlan) : Except Fault (Option AgentAction) :=
  match (((chooseRoutes kit s plan).or (chooseVerification kit s plan)).or
    (chooseCommute kit s plan)).or (chooseRefill kit s plan) with
  | some a => .ok (some a)
  | none => chooseContent kit s plan

/-- `decide_next_action` -/
def decideNextAction (s : AgentState F D) : Except Fault AgentAction :=
  match chooseFacts s with
  | some a => .ok a
  | none =>
    match s.tripPlan with
    | none => .ok .generatePlan
    | some plan =>
      match choosePrior kit s plan with
      | .error e => .error e
      | .ok (some a) => .ok a
      | .ok none => .ok (chooseVerdict kit s plan)

end TravelAgent.Agent

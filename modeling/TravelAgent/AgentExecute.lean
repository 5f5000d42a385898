import TravelAgent.PlanActions
import TravelAgent.Transition

namespace TravelAgent.Agent

open TravelAgent.Itinerary TravelAgent.ContentRebuild

variable {F D : Type}

/-- What is handed to a tool. -/
inductive ToolPayload (F D : Type) where
  | attractions (city : String) (preferences : List String)
  | nearby (query : CommuteSupplementQuery D)
  | city (city : String)
  | restaurants (city : String) (anchors : List RestaurantSearchAnchor)
  | generate (request : TripRequest) (attractions weather hotels : Option D)
  | routes (city : String) (planFingerprint : F) (legs : List RouteLegRequest)
  | repair (request : TripRequest) (plan : Option TripPlan) (v : Option TripValidationResult)
      (attractions weather hotels : Option D)

/-- What a tool returns, as its output schema allows. -/
inductive ToolData (F D : Type) where
  | document (d : D)
  | nearby (center : Location) (radiusMeters page : Nat) (candidates : D)
  | plan (p : TripPlan)
  | routes (r : RouteEstimateResult F D)

/-- What follows a failed call or an output that cannot be applied. -/
inductive AfterFailure where
  | retry
  | giveUp
  | outOfTime
deriving DecidableEq, Repr

inductive ToolReply (F D : Type) where
  | failure (next : AfterFailure)
  | success (data : ToolData F D) (next : AfterFailure)

variable [DecidableEq F] (kit : Kit F D)

/-- `_build_tool_payload` -/
def buildToolPayload (s : AgentState F D) : AgentAction → Except Fault (ToolPayload F D)
  | .searchAttractions => .ok (.attractions s.request.city s.request.preferences)
  | .supplementAttractions =>
    match s.commuteSupplementQuery with
    | none => .error (.missing .supplementQuery)
    | some query => .ok (.nearby query)
  | .getWeather => .ok (.city s.request.city)
  | .searchHotels => .ok (.city s.request.city)
  | .searchRestaurants =>
    match s.tripPlan with
    | none => .error (.missing .restaurantPlan)
    | some plan =>
      (buildRestaurantSearchAnchors plan kit.maxRestaurantSearchAnchors).map
        (.restaurants s.request.city ·)
  | .generatePlan => .ok (.generate s.request s.attractions s.weather s.hotels)
  | .estimateRoutes =>
    match s.tripPlan with
    | none => .error (.missing .routePlan)
    | some plan =>
      (buildRouteLegs (kit.sources s.attractions s.hotels) s.request plan).map
        (.routes s.request.city (routeFingerprint kit s.request plan) ·)
  | .repairPlan =>
    .ok (.repair s.request s.tripPlan s.lastValidationResult s.attractions s.weather s.hotels)
  | _ => .error (.mismatch "action has no registered tool payload")

/-- A nearby search is over: it counts for the optimizer that asked for it. -/
def endSearch (s : AgentState F D) (commuteStatus : SearchingStatus) : AgentState F D :=
  if s.refill.status = .supplementNeeded then
    { s with
      commuteSupplementQuery := none
      refill :=
        { s.refill with
          supplementSearchCount := s.refill.supplementSearchCount + 1
          status := .notStarted } }
  else
    { s with
      commuteSupplementQuery := none
      commute :=
        { s.commute with
          supplementSearchCount := s.commute.supplementSearchCount + 1
          status := commuteStatus } }

/-- `_handle_failed_attraction_supplement` -/
def handleFailedAttractionSupplement (s : AgentState F D) : AgentState F D :=
  match s.commuteSupplementQuery with
  | some _ => endSearch s .skipped
  | none =>
    if s.refill.status = .supplementNeeded then
      { s with refill := { s.refill with status := .notStarted } }
    else { s with commute := { s.commute with status := .skipped } }

def applySupplement (s : AgentState F D) (center : Location) (radiusMeters page : Nat)
    (candidates : D) : Outcome F D :=
  match s.commuteSupplementQuery with
  | none => raised s (.mismatch "Attraction supplement query is required")
  | some query =>
    if radiusMeters ≠ query.radiusMeters ∨ page ≠ query.page ∨ center ≠ query.center then
      raised s (.mismatch "Nearby candidates do not match the pending search query")
    else
      match kit.merge s.attractions candidates with
      | .error m => raised s (.inner m)
      | .ok pool =>
        done (endSearch (invalidate { s with attractions := some pool } [.constraints, .validation])
          .notStarted)

def applyRestaurants (s : AgentState F D) (restaurants : D) : Outcome F D :=
  match s.tripPlan with
  | none => raised s (.mismatch "Trip plan is required before saving restaurants")
  | some plan =>
    match restaurantSearchSourceFingerprint kit plan with
    | .error e => raised { s with restaurants := some restaurants } e
    | .ok fingerprint =>
      done (invalidate
        { s with
          restaurants := some restaurants
          restaurantPlanFingerprint := some fingerprint
          planConsistencyFingerprint := none } [.constraints, .validation])

/-- The route report goes in before the timeline is built: if that fails, it stays. -/
def withRouteReport (s : AgentState F D) (plan : TripPlan) (report : RouteQualityReport D) :
    AgentState F D :=
  { s with
    routeQualityReport := some report
    routeQualityPlanFingerprint := some (routeFingerprint kit s.request plan)
    route :=
      { s.route with
        status := s.route.status.skipUnless
          (report.optimizationRecommended &&
            decide (s.route.count < s.budget.maxRouteOptimizationAttempts)) }
    evaluations :=
      { s.evaluations with
        routeQuality := some (routeQualityInputFingerprint kit s.request plan s.routeEstimates) } }

def withRoutes (s : AgentState F D) (routes : RouteEstimateResult F D) : AgentState F D :=
  invalidate
    { s with
      routeEstimates := some routes
      routePlanFingerprint := some routes.planFingerprint } [.commute, .constraints, .validation]

def applyRoutes (s : AgentState F D) (routes : RouteEstimateResult F D) : Outcome F D :=
  match s.tripPlan with
  | none => raised s (.mismatch "Trip plan is required before saving route estimates")
  | some plan =>
    if routes.planFingerprint ≠ routeFingerprint kit s.request plan then raised s noMatch
    else
      let routed := withRoutes s routes
      match kit.evaluateRouteQuality plan routes with
      | .error m => raised routed (.inner m)
      | .ok report =>
        let scored := withRouteReport kit routed plan report
        match kit.evaluateSchedule s.request plan routes with
        | .error m => raised scored (.inner m)
        | .ok schedule =>
          done { withSchedule kit scored plan schedule with lastValidationResult := none }

def applyGenerated (s : AgentState F D) (plan : TripPlan) : AgentState F D :=
  clearRouteAnalysis { s with tripPlan := some (removeDuplicateAttractions plan) } true

/-- A repaired plan may be scheduled anew. -/
def applyRepaired (s : AgentState F D) (plan : TripPlan) : AgentState F D :=
  let s := clearRouteAnalysis { s with tripPlan := some (removeDuplicateAttractions plan) } false
  { s with schedule := { s.schedule with count := 0 }, repairCount := s.repairCount + 1 }

/-- `_apply_tool_result` -/
def applyToolResult (s : AgentState F D) : AgentAction → ToolData F D → Outcome F D
  | .searchAttractions, .document d => done { s with attractions := some d }
  | .getWeather, .document d => done { s with weather := some d }
  | .searchHotels, .document d => done { s with hotels := some d }
  | .supplementAttractions, .nearby center radiusMeters page candidates =>
    applySupplement kit s center radiusMeters page candidates
  | .searchRestaurants, .document d => applyRestaurants kit s d
  | .generatePlan, .plan p => done (applyGenerated s p)
  | .estimateRoutes, .routes r => applyRoutes kit s r
  | .repairPlan, .plan p => done (applyRepaired s p)
  | _, _ => raised s (.invalid "ActionResult")

/-- A failure that ends the attempt, unless it is retried. -/
def afterFailure (s : AgentState F D) (action : AgentAction) : AfterFailure → Outcome F D
  | .retry => ⟨s, .ok false⟩
  | .outOfTime => ⟨{ s with status := .budgetExhausted }, .error .budgetExceeded⟩
  | .giveUp =>
    if action = .supplementAttractions then ⟨handleFailedAttractionSupplement s, .ok false⟩
    else ⟨{ s with status := .failed }, .error (.actionError action)⟩

def executeTool (s : AgentState F D) (action : AgentAction) (reply : ToolReply F D) : Outcome F D :=
  match buildToolPayload kit s action with
  | .error e => raised s e
  | .ok _ =>
    match reply with
    | .failure next => afterFailure s action next
    | .success data next =>
      match applyToolResult kit s action data with
      | ⟨s, .ok _⟩ => done s
      | ⟨s, .error _⟩ => afterFailure s action next

/-- `execute_action`, apart from the counters of the session. Only a tool looks at the reply. -/
def executeAction (s : AgentState F D) (action : AgentAction) (reply : ToolReply F D) :
    Outcome F D :=
  match action with
  | .finish => done (finish s)
  | .validatePlan => validatePlan kit s
  | .optimizeRoutes => optimizeRoutes kit s
  | .evaluateCommute => evaluateCommute kit s
  | .replaceRemoteAttraction => replaceRemoteAttraction kit s
  | .evaluateSchedule => evaluateSchedule kit s
  | .optimizeSchedule => optimizeSchedule kit s
  | .evaluateConstraints => evaluateConstraints kit s
  | .optimizeConstraints => optimizeConstraints kit s
  | .refillAttractions => refillAttractions kit s
  | .rebuildPlanContent => rebuildContent kit s
  | action => executeTool kit s action reply

/-- One round of the loop: the chosen action is executed. The state also goes on
after an exception, since it is saved and may be resumed. -/
def step (s : AgentState F D) (reply : ToolReply F D) : Option (AgentState F D) :=
  if s.finished then none
  else
    match decideNextAction kit s with
    | .error _ => none
    | .ok action => some (executeAction kit s action reply).state

theorem step_some {s t : AgentState F D} {reply : ToolReply F D} (h : step kit s reply = some t) :
    s.finished = false ∧ ∃ action, decideNextAction kit s = .ok action ∧
      (executeAction kit s action reply).state = t := by
  unfold step at h
  split at h
  · cases h
  · rename_i hf
    split at h
    · cases h
    · rename_i action hd
      exact ⟨by simpa using hf, action, hd, Option.some.inj h⟩

end TravelAgent.Agent

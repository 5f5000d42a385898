import TravelAgent.AgentChoice

namespace TravelAgent.Agent

open TravelAgent.Itinerary TravelAgent.ContentRebuild

variable {F D : Type} [DecidableEq F] (kit : Kit F D) (request : TripRequest)

/-- What the verification of a reordered plan goes back to. -/
structure RouteBaseline (o : RouteOptimization F D) (p : TripPlan) (r : RouteEstimateResult F D)
    (q : RouteQualityReport D) : Prop where
  candidate : ∃ c, o.candidate = some c
  plan : o.baselinePlan = some p
  routes : o.baselineRoutes = some r
  quality : o.baselineQuality = some q
  fingerprint : o.baselineFingerprint = some (routeFingerprint kit request p)
  estimates : r.planFingerprint = routeFingerprint kit request p

structure ScheduleBaseline (o : ScheduleOptimization F D) (p : TripPlan)
    (r : RouteEstimateResult F D) (q : RouteQualityReport D) (t : ScheduleQualityReport D) :
    Prop where
  candidate : ∃ c, o.candidate = some c
  plan : o.baselinePlan = some p
  routes : o.baselineRoutes = some r
  routeQuality : o.baselineRouteQuality = some q
  quality : o.baselineQuality = some t
  fingerprint : o.baselineFingerprint = some (routeFingerprint kit request p)
  estimates : r.planFingerprint = routeFingerprint kit request p

structure ConstraintBaseline (o : ConstraintOptimization F D) (p : TripPlan)
    (r : RouteEstimateResult F D) (q : RouteQualityReport D) (t : ScheduleQualityReport D)
    (k : TripConstraintReport F D) : Prop where
  candidate : ∃ c, o.candidate = some c
  plan : o.baselinePlan = some p
  routes : o.baselineRoutes = some r
  routeQuality : o.baselineRouteQuality = some q
  schedule : o.baselineSchedule = some t
  report : o.baselineReport = some k
  fingerprint : o.baselineFingerprint = some (constraintPlanFingerprint kit request p)
  estimates : r.planFingerprint = routeFingerprint kit request p

structure CommuteBaseline (o : CommuteOptimization F D) (c : CommuteReplacementCandidate D)
    (p : TripPlan) (r : RouteEstimateResult F D) (q : RouteQualityReport D)
    (m : CommuteConstraintReport F D) (t : ScheduleQualityReport D) (k : TripConstraintReport F D) :
    Prop where
  candidate : o.candidate = some c
  plan : o.baselinePlan = some p
  routes : o.baselineRoutes = some r
  routeQuality : o.baselineRouteQuality = some q
  report : o.baselineReport = some m
  schedule : o.baselineSchedule = some t
  constraints : o.baselineConstraintReport = some k
  fingerprint : o.baselineRouteFingerprint = some (routeFingerprint kit request p)
  constraintFingerprint :
    o.baselineConstraintFingerprint = some (constraintPlanFingerprint kit request p)
  estimates : r.planFingerprint = routeFingerprint kit request p

structure RefillBaseline (o : ContentRefill F D) (c : ContentRefillCandidate D) (p : TripPlan)
    (r : RouteEstimateResult F D) (q : RouteQualityReport D) (t : ScheduleQualityReport D)
    (k : TripConstraintReport F D) : Prop where
  candidate : o.candidate = some c
  plan : o.baselinePlan = some p
  routes : o.baselineRoutes = some r
  routeQuality : o.baselineRouteQuality = some q
  schedule : o.baselineSchedule = some t
  constraints : o.baselineConstraintReport = some k
  fingerprint : o.baselineRouteFingerprint = some (routeFingerprint kit request p)
  constraintFingerprint :
    o.baselineConstraintFingerprint = some (constraintPlanFingerprint kit request p)
  estimates : r.planFingerprint = routeFingerprint kit request p

def RouteBacked (o : RouteOptimization F D) : Prop :=
  o.status = .candidatePending → ∃ p r q, RouteBaseline kit request o p r q

def ScheduleBacked (o : ScheduleOptimization F D) : Prop :=
  o.status = .candidatePending → ∃ p r q t, ScheduleBaseline kit request o p r q t

def ConstraintBacked (o : ConstraintOptimization F D) : Prop :=
  o.status = .candidatePending → ∃ p r q t k, ConstraintBaseline kit request o p r q t k

def CommuteBacked (o : CommuteOptimization F D) : Prop :=
  o.status = .candidatePending → ∃ c p r q m t k, CommuteBaseline kit request o c p r q m t k

def RefillBacked (o : ContentRefill F D) : Prop :=
  o.status = .candidatePending → ∃ c p r q t k, RefillBaseline kit request o c p r q t k

/-- A query waits exactly while one of the two optimizers asks for a search. -/
def Searching (query : Option (CommuteSupplementQuery D)) (commute refill : SearchingStatus) :
    Prop :=
  (query.isSome = true ↔ commute = .supplementNeeded ∨ refill = .supplementNeeded) ∧
    ¬(commute = .supplementNeeded ∧ refill = .supplementNeeded)

/-- One candidate at a time, and the others only after the routes have been settled. -/
structure Alone (route schedule constraint : OptimizationStatus) (commute refill : SearchingStatus) :
    Prop where
  besideSchedule : schedule = .candidatePending →
    constraint ≠ .candidatePending ∧ commute ≠ .candidatePending ∧ refill ≠ .candidatePending
  besideConstraint : constraint = .candidatePending →
    commute ≠ .candidatePending ∧ refill ≠ .candidatePending
  besideCommute : commute = .candidatePending → refill ≠ .candidatePending
  routesFirst : schedule = .candidatePending ∨ constraint = .candidatePending ∨
    commute = .candidatePending ∨ refill = .candidatePending → route = .completed ∨ route = .skipped

/-- The estimates are those of the plan, and the report made from them carries its
fingerprint. It is only missing if the evaluator fails. -/
def RoutesScored (plan : Option TripPlan) (routes : Option (RouteEstimateResult F D))
    (fingerprint : Option F) (quality : Option (RouteQualityReport D))
    (qualityFingerprint key : Option F) (schedule : Option (ScheduleQualityReport D)) : Prop :=
  match routes with
  | none => quality = none ∧ schedule = none
  | some r => ∃ p, plan = some p ∧ fingerprint = some (routeFingerprint kit request p) ∧
      r.planFingerprint = routeFingerprint kit request p ∧
      (quality = none → ∃ m, kit.evaluateRouteQuality p r = .error m) ∧
      (∀ q, quality = some q → qualityFingerprint = some (routeFingerprint kit request p) ∧
        (key = none ∨ key = some (snapshotFingerprint kit request p (some r))))

/-- The timeline is that of the plan, unless it was left behind by a rejected
order of the routes whose baseline cannot be timed. -/
def Timed (o : RouteOptimization F D) (plan : Option TripPlan)
    (quality : Option (RouteQualityReport D)) (schedule : Option (ScheduleQualityReport D))
    (fingerprint : Option F) : Prop :=
  ∀ p t, plan = some p → schedule = some t → fingerprint = some (routeFingerprint kit request p) ∨
    o.status = .candidatePending ∧ ∃ q, quality = some q ∧ o.baselineQuality = some q

/-- Estimates that no optimisation has been tried on call for one, and the timeline
is the one that was built with them. -/
def Untried (budget : ExecutionBudget) (o : RouteOptimization F D) (plan : Option TripPlan)
    (routes : Option (RouteEstimateResult F D)) (quality : Option (RouteQualityReport D))
    (schedule : Option (ScheduleQualityReport D)) : Prop :=
  o.status = .notStarted → ∀ p r q, plan = some p → routes = some r → quality = some q →
    q.optimizationRecommended = true ∧ o.count < budget.maxRouteOptimizationAttempts ∧
      schedule = (kit.evaluateSchedule request p r).toOption

/-- The phases that the optimizers can be in together. -/
structure Phased (s : AgentState F D) : Prop where
  routeBacked : RouteBacked kit s.request s.route
  scheduleBacked : ScheduleBacked kit s.request s.schedule
  constraintBacked : ConstraintBacked kit s.request s.constraint
  commuteBacked : CommuteBacked kit s.request s.commute
  refillBacked : RefillBacked kit s.request s.refill
  searching : Searching s.commuteSupplementQuery s.commute.status s.refill.status
  alone : Alone s.route.status s.schedule.status s.constraint.status s.commute.status s.refill.status
  scored : RoutesScored kit s.request s.tripPlan s.routeEstimates s.routePlanFingerprint
    s.routeQualityReport s.routeQualityPlanFingerprint s.evaluations.routeQuality
    s.scheduleQualityReport
  timed : Timed kit s.request s.route s.tripPlan s.routeQualityReport s.scheduleQualityReport
    s.scheduleQualityPlanFingerprint
  untried : Untried kit s.request s.budget s.route s.tripPlan s.routeEstimates s.routeQualityReport
    s.scheduleQualityReport
  unplanned : s.tripPlan = none → s.refill.status = .notStarted

/-- Who asks for the nearby search. -/
def SearchAsked (s : AgentState F D) : Prop :=
  (∃ p r, Routed kit s p r ∧ s.refill.status = .supplementNeeded) ∨
    ∃ p r q, Quiet kit s p r q ∧ s.commute.status = .supplementNeeded

/-- Routes for a plan that has none. -/
structure RoutesFor (s : AgentState F D) (p : TripPlan) (r : RouteEstimateResult F D) : Prop where
  plan : s.tripPlan = some p
  unrouted : s.routeEstimates = none
  estimates : r.planFingerprint = routeFingerprint kit s.request p

/-- What a failed tool call comes to. -/
def Failed (before : AgentStatus) (a : AgentAction) (status : AgentStatus)
    (result : Except Stop Bool) : Prop :=
  (status = before ∧ result = .ok false) ∨
    (status = .budgetExhausted ∧ result = .error .budgetExceeded) ∨
    (status = .failed ∧ result = .error (.actionError a))

/-- A state whose constraint report may have been made anew. -/
def rechecked (s : AgentState F D) (report : TripConstraintReport F D) (fingerprint key : Option F)
    (status : OptimizationStatus) : AgentState F D :=
  { s with
    constraintReport := some report
    constraintPlanFingerprint := fingerprint
    constraint := { s.constraint with status := status }
    evaluations := { s.evaluations with constraints := key } }

/-- A new report may end an optimisation that nobody asks for. -/
def Restatus (status status' : OptimizationStatus) : Prop :=
  status' = status ∨ (status = .notStarted ∧ status' = .skipped)

/-- Whether the plan can go out as it is. -/
def approves (s : AgentState F D) (p : TripPlan) (v : TripValidationResult) : Bool :=
  v.valid || (withValidation kit s p v).acceptanceReport.any (·.accepted)

variable (s : AgentState F D)

/-- Everything a round of the loop can do. -/
inductive Effect : AgentAction → Outcome F D → Prop where
  | faulted {a f} (h : ∀ m, f ≠ .missing m) : Effect a (raised s f)
  | retried {a} : Effect a ⟨s, .ok false⟩
  | outOfTime {a} : Effect a ⟨{ s with status := .budgetExhausted }, .error .budgetExceeded⟩
  | gaveUp {a} : Effect a ⟨{ s with status := .failed }, .error (.actionError a)⟩
  | attractions {d} (h : s.attractions = none) :
      Effect .searchAttractions (done { s with attractions := some d })
  | weather {d} (h : s.weather = none) : Effect .getWeather (done { s with weather := some d })
  | hotels {d} (h : s.hotels = none) : Effect .searchHotels (done { s with hotels := some d })
  | generated {p} (hf : chooseFacts s = none) (h : s.tripPlan = none) :
      Effect .generatePlan (done (applyGenerated s p))
  | unscored {p r m status result} (hr : RoutesFor kit s p r)
      (hq : kit.evaluateRouteQuality p r = .error m)
      (hf : Failed s.status .estimateRoutes status result) :
      Effect .estimateRoutes ⟨{ withRoutes s r with status := status }, result⟩
  | untimed {p r q m status result} (hr : RoutesFor kit s p r)
      (hq : kit.evaluateRouteQuality p r = .ok q)
      (ht : kit.evaluateSchedule s.request p r = .error m)
      (hf : Failed s.status .estimateRoutes status result) :
      Effect .estimateRoutes
        ⟨{ withRouteReport kit (withRoutes s r) p q with status := status }, result⟩
  | routed {p r q t} (hr : RoutesFor kit s p r) (hq : kit.evaluateRouteQuality p r = .ok q)
      (ht : kit.evaluateSchedule s.request p r = .ok t) :
      Effect .estimateRoutes
        (done { withSchedule kit (withRouteReport kit (withRoutes s r) p q) p t with
                lastValidationResult := none })
  | supplemented {query d pool} (hs : SearchAsked kit s)
      (hq : s.commuteSupplementQuery = some query) (hm : kit.merge s.attractions d = .ok pool) :
      Effect .supplementAttractions
        (done (endSearch (invalidate { s with attractions := some pool } [.constraints, .validation])
          .notStarted))
  | searchFailed {query} (hs : SearchAsked kit s) (hq : s.commuteSupplementQuery = some query) :
      Effect .supplementAttractions ⟨endSearch s .skipped, .ok false⟩
  | restaurants {p r q t f d} (hq : CommuteSettled kit s p r q t)
      (hf : restaurantSearchSourceFingerprint kit p = .ok f)
      (h : s.restaurants = none ∨ s.restaurantPlanFingerprint ≠ some f) :
      Effect .searchRestaurants
        (done (invalidate { s with
          restaurants := some d
          restaurantPlanFingerprint := some f
          planConsistencyFingerprint := none } [.constraints, .validation]))
  | repaired {p r q t k plan} (hq : CommuteSettled kit s p r q t) (hk : Feasible kit s p k)
      (h : chooseVerdict kit s p = .repairPlan) : Effect .repairPlan (done (applyRepaired s plan))
  | routesAccepted {p r q p₀ r₀ q₀} (hq : Scored kit s p r q)
      (h : s.route.status = .candidatePending) (hb : RouteBaseline kit s.request s.route p₀ r₀ q₀)
      (ha : isRouteQualityImprovement kit q₀ q = true) :
      Effect .optimizeRoutes (done (settleRoutes s))
  | routesReverted {p r q p₀ r₀ q₀ t} (hq : Scored kit s p r q)
      (h : s.route.status = .candidatePending) (hb : RouteBaseline kit s.request s.route p₀ r₀ q₀)
      (ha : isRouteQualityImprovement kit q₀ q = false)
      (ht : kit.evaluateSchedule s.request p₀ r₀ = .ok t) :
      Effect .optimizeRoutes
        (done (settleRoutes (synchronize kit (withSchedule kit
          (revertRoutes kit s p₀ r₀ q₀ (routeFingerprint kit s.request p₀)) p₀ t))))
  | routesStuck {p r q p₀ r₀ q₀ m} (hq : Scored kit s p r q)
      (h : s.route.status = .candidatePending) (hb : RouteBaseline kit s.request s.route p₀ r₀ q₀)
      (ha : isRouteQualityImprovement kit q₀ q = false)
      (ht : kit.evaluateSchedule s.request p₀ r₀ = .error m) :
      Effect .optimizeRoutes
        (raised (revertRoutes kit s p₀ r₀ q₀ (routeFingerprint kit s.request p₀)) (.inner m))
  | routesSkipped {p r q} (hq : Scored kit s p r q) (h : routeWanted s = true) :
      Effect .optimizeRoutes (done (skipRoutes s))
  | routesInstalled {p r q c} (hq : Scored kit s p r q) (h : routeWanted s = true)
      (hc : kit.optimizeRoutes p = .ok (some c)) :
      Effect .optimizeRoutes (done (installRoutes kit s p r q c))
  | commuteEvaluated {p r q c} (hq : Quiet kit s p r q) (h : commuteCurrent kit s p = false)
      (hc : kit.evaluateCommute s.request p r = .ok c) :
      Effect .evaluateCommute (done (withCommute kit s p c))
  | scheduleEvaluated {p r q t} (hq : RouteSettled kit s p r q) (h : scheduleCurrent kit s p = false)
      (ht : kit.evaluateSchedule s.request p r = .ok t) :
      Effect .evaluateSchedule (done (withSchedule kit s p t))
  | constraintsEvaluated {p r q t k} (hq : RouteSettled kit s p r q)
      (hs : s.schedule.status ≠ .candidatePending) (ht : Timely kit s p t)
      (h : constraintsCurrent kit s p = false)
      (hk : kit.evaluateConstraints s.request p t s.attractions s.weather = .ok k) :
      Effect .evaluateConstraints (done (withConstraints kit s p k))
  | scheduleAccepted {p r q t p₀ r₀ q₀ t₀} (hq : RouteSettled kit s p r q) (ht : Timely kit s p t)
      (h : s.schedule.status = .candidatePending)
      (hb : ScheduleBaseline kit s.request s.schedule p₀ r₀ q₀ t₀)
      (ha : acceptsSchedule kit t₀ t q₀ q = true) :
      Effect .optimizeSchedule (done (settleSchedule s))
  | scheduleReverted {p r q t p₀ r₀ q₀ t₀} (hq : RouteSettled kit s p r q) (ht : Timely kit s p t)
      (h : s.schedule.status = .candidatePending)
      (hb : ScheduleBaseline kit s.request s.schedule p₀ r₀ q₀ t₀)
      (ha : acceptsSchedule kit t₀ t q₀ q = false) :
      Effect .optimizeSchedule
        (done (revertSchedule kit s p₀ r₀ q₀ t₀ (routeFingerprint kit s.request p₀)))
  | scheduleSkipped {p r q t} (hq : CommuteSettled kit s p r q t)
      (h : s.schedule.status = .notStarted) : Effect .optimizeSchedule (done (skipSchedule s))
  | scheduleInstalled {p r q t c} (hq : CommuteSettled kit s p r q t)
      (h : s.schedule.status = .notStarted)
      (hn : s.schedule.count < s.budget.maxScheduleOptimizationAttempts)
      (hc : kit.optimizeSchedule s.request p t = .ok (some c)) :
      Effect .optimizeSchedule (done (installSchedule kit s p r q t c))
  | constraintsAccepted {p r q t k k' f key status p₀ r₀ q₀ t₀ k₀} (hq : RouteSettled kit s p r q)
      (ht : Timely kit s p t) (hk : Feasible kit s p k) (h : s.constraint.status = .candidatePending)
      (hb : ConstraintBaseline kit s.request s.constraint p₀ r₀ q₀ t₀ k₀)
      (hs : Restatus s.constraint.status status)
      (hu : currentConstraints kit s p = .ok (k', rechecked s k' f key status))
      (ha : acceptsConstraints kit k₀ k' q₀ q t₀ t = true) :
      Effect .optimizeConstraints (done (settleConstraints (rechecked s k' f key status)))
  | constraintsReverted {p r q t k k' f key status p₀ r₀ q₀ t₀ k₀} (hq : RouteSettled kit s p r q)
      (ht : Timely kit s p t) (hk : Feasible kit s p k) (h : s.constraint.status = .candidatePending)
      (hb : ConstraintBaseline kit s.request s.constraint p₀ r₀ q₀ t₀ k₀)
      (hs : Restatus s.constraint.status status)
      (hu : currentConstraints kit s p = .ok (k', rechecked s k' f key status))
      (ha : acceptsConstraints kit k₀ k' q₀ q t₀ t = false) :
      Effect .optimizeConstraints
        (done (revertConstraints kit (rechecked s k' f key status) p₀ r₀ q₀ t₀ k₀
          (constraintPlanFingerprint kit s.request p₀)))
  | constraintsSkipped {p r q t k k' f key status} (hq : CommuteSettled kit s p r q t)
      (hk : Feasible kit s p k) (h : s.constraint.status = .notStarted)
      (hs : Restatus s.constraint.status status)
      (hu : currentConstraints kit s p = .ok (k', rechecked s k' f key status)) :
      Effect .optimizeConstraints (done (skipConstraints (rechecked s k' f key status)))
  | constraintsUnsolved {p r q t k k' f key status m} (hq : CommuteSettled kit s p r q t)
      (hk : Feasible kit s p k) (h : s.constraint.status = .notStarted)
      (hs : Restatus s.constraint.status status)
      (hu : currentConstraints kit s p = .ok (k', rechecked s k' f key status)) :
      Effect .optimizeConstraints (raised (rechecked s k' f key status) (.inner m))
  | constraintsInstalled {p r q t k k' f key status c} (hq : CommuteSettled kit s p r q t)
      (hk : Feasible kit s p k) (h : s.constraint.status = .notStarted)
      (hs : Restatus s.constraint.status status)
      (hu : currentConstraints kit s p = .ok (k', rechecked s k' f key status))
      (hn : s.constraint.count < s.budget.maxConstraintOptimizationAttempts)
      (hc : kit.optimizeConstraints s.request p k' s.attractions s.weather = .ok (some c)) :
      Effect .optimizeConstraints
        (done (installConstraints kit (rechecked s k' f key status) p r q t k' c))
  | replacementAccepted {p r q m t k c p₀ r₀ q₀ m₀ t₀ k₀} (hq : Quiet kit s p r q)
      (hm : CommuteKnown kit s p m) (ht : Timely kit s p t) (hk : Feasible kit s p k)
      (h : s.commute.status = .candidatePending)
      (hb : CommuteBaseline kit s.request s.commute c p₀ r₀ q₀ m₀ t₀ k₀)
      (ha : acceptsReplacement p p₀ q q₀ m m₀ t k c = true) :
      Effect .replaceRemoteAttraction (done (acceptReplacement s m))
  | replacementReverted {p r q m t k c p₀ r₀ q₀ m₀ t₀ k₀} (hq : Quiet kit s p r q)
      (hm : CommuteKnown kit s p m) (ht : Timely kit s p t) (hk : Feasible kit s p k)
      (h : s.commute.status = .candidatePending)
      (hb : CommuteBaseline kit s.request s.commute c p₀ r₀ q₀ m₀ t₀ k₀)
      (ha : acceptsReplacement p p₀ q q₀ m m₀ t k c = false) :
      Effect .replaceRemoteAttraction
        (done (revertReplacement kit s p₀ r₀ q₀ m₀ t₀ k₀ (routeFingerprint kit s.request p₀)
          (constraintPlanFingerprint kit s.request p₀) c))
  | replacementSkipped {p r q m t k} (hq : Quiet kit s p r q) (hm : CommuteKnown kit s p m)
      (ht : Timely kit s p t) (hk : Feasible kit s p k) (h : s.commute.status = .notStarted) :
      Effect .replaceRemoteAttraction (done (skipReplacement s))
  | replacementSearched {p r q m t k query} (hq : Quiet kit s p r q) (hm : CommuteKnown kit s p m)
      (ht : Timely kit s p t) (hk : Feasible kit s p k) (h : s.commute.status = .notStarted)
      (hn : s.commute.supplementSearchCount < s.budget.maxCommuteSupplementSearches) :
      Effect .replaceRemoteAttraction (done (searchReplacement s query))
  | replacementInstalled {p r q m t k c} (hq : Quiet kit s p r q) (hm : CommuteKnown kit s p m)
      (ht : Timely kit s p t) (hk : Feasible kit s p k) (h : s.commute.status = .notStarted)
      (hn : s.commute.replacementCount < s.budget.maxCommuteReplacementAttempts)
      (hc : kit.optimizeCommute s.request p m s.attractions
        s.commute.excludedCandidateIdentities = .ok (some c)) :
      Effect .replaceRemoteAttraction (done (installReplacement kit s p r q m t k c))
  | refillAccepted {p r q t k c p₀ r₀ q₀ t₀ k₀} (hq : RouteSettled kit s p r q)
      (ht : Timely kit s p t) (hk : Feasible kit s p k) (h : s.refill.status = .candidatePending)
      (hb : RefillBaseline kit s.request s.refill c p₀ r₀ q₀ t₀ k₀)
      (ha : acceptsRefill s p q q₀ t k = true) :
      Effect .refillAttractions (done (settleRefill s .completed s.refill.excludedIdentities))
  | refillReverted {p r q t k c p₀ r₀ q₀ t₀ k₀} (hq : RouteSettled kit s p r q)
      (ht : Timely kit s p t) (hk : Feasible kit s p k) (h : s.refill.status = .candidatePending)
      (hb : RefillBaseline kit s.request s.refill c p₀ r₀ q₀ t₀ k₀)
      (ha : acceptsRefill s p q q₀ t k = false) :
      Effect .refillAttractions
        (done (revertRefill kit s p₀ r₀ q₀ t₀ k₀ (routeFingerprint kit s.request p₀)
          (constraintPlanFingerprint kit s.request p₀) c))
  | refillSkipped {p r q t k} (hq : CommuteSettled kit s p r q t) (hk : Feasible kit s p k)
      (h : refillNeeded s p = true) : Effect .refillAttractions (done (endRefill s .skipped))
  | refillSearched {p r q t k query} (hq : CommuteSettled kit s p r q t) (hk : Feasible kit s p k)
      (h : refillNeeded s p = true)
      (hn : s.refill.supplementSearchCount < s.budget.maxCommuteSupplementSearches) :
      Effect .refillAttractions (done (searchRefill s query))
  | refillInstalled {p r q t k c} (hq : CommuteSettled kit s p r q t) (hk : Feasible kit s p k)
      (h : refillNeeded s p = true)
      (hc : kit.optimizeRefill s.request p s.attractions s.refill.excludedIdentities =
        .ok (some c)) :
      Effect .refillAttractions (done (installRefill kit s p r q t k c))
  | rebuilt {p r q t rb} (hq : CommuteSettled kit s p r q t)
      (h : s.planConsistencyFingerprint ≠ some (planContentSourceFingerprint kit s p))
      (hr : rebuildPlanContent kit.routeDigest (kit.rebuilder s.scheduleQualityReport s.restaurants)
        s.request (some p) (some r.routes) = .ok rb) :
      Effect .rebuildPlanContent (done (withContent kit s rb))
  | approved {p r q t k v} (hq : CommuteSettled kit s p r q t) (hk : Feasible kit s p k)
      (hp : choosePrior kit s p = .ok none) (hc : chooseVerdict kit s p = .validatePlan)
      (h : kit.validate (validationInputs s p) = .ok v) (ha : approves kit s p v = true) :
      Effect .validatePlan (done (withValidation kit s p v))
  | faulty {p r q t k v} (hq : CommuteSettled kit s p r q t) (hk : Feasible kit s p k)
      (hp : choosePrior kit s p = .ok none) (hc : chooseVerdict kit s p = .validatePlan)
      (h : kit.validate (validationInputs s p) = .ok v) (ha : approves kit s p v = false)
      (hr : v.repairable = true ∧ s.repairCount < s.budget.maxRepairAttempts) :
      Effect .validatePlan ⟨withValidation kit s p v, .ok false⟩
  | hopeless {p r q t k v} (hq : CommuteSettled kit s p r q t) (hk : Feasible kit s p k)
      (hp : choosePrior kit s p = .ok none) (hc : chooseVerdict kit s p = .validatePlan)
      (h : kit.validate (validationInputs s p) = .ok v) (ha : approves kit s p v = false)
      (hr : ¬(v.repairable = true ∧ s.repairCount < s.budget.maxRepairAttempts)) :
      Effect .validatePlan
        ⟨{ withValidation kit s p v with status := .failed }, .error (.actionError .validatePlan)⟩
  | finished {p r q t k} (hq : CommuteSettled kit s p r q t) (hk : Feasible kit s p k)
      (hp : choosePrior kit s p = .ok none) (h : chooseVerdict kit s p = .finish) :
      Effect .finish (done (finish s))

end TravelAgent.Agent

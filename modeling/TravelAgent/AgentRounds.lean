import TravelAgent.AgentEffects

namespace TravelAgent.Agent

open TravelAgent.Itinerary TravelAgent.ContentRebuild

variable {F D : Type} [DecidableEq F] {kit : Kit F D} {s : AgentState F D}

/-- What the invariant says of the estimates at hand. -/
structure Estimated (kit : Kit F D) (s : AgentState F D) (p : TripPlan)
    (r : RouteEstimateResult F D) : Prop where
  fingerprint : s.routePlanFingerprint = some (routeFingerprint kit s.request p)
  estimates : r.planFingerprint = routeFingerprint kit s.request p
  unscored : s.routeQualityReport = none → ∃ m, kit.evaluateRouteQuality p r = .error m
  scored : ∀ q, s.routeQualityReport = some q →
    s.routeQualityPlanFingerprint = some (routeFingerprint kit s.request p) ∧
      (s.evaluations.routeQuality = none ∨
        s.evaluations.routeQuality = some (snapshotFingerprint kit s.request p s.routeEstimates))

omit [DecidableEq F] in
theorem Phased.estimated (hI : Phased kit s) {p : TripPlan} {r : RouteEstimateResult F D}
    (hp : s.tripPlan = some p) (hr : s.routeEstimates = some r) : Estimated kit s p r := by
  have h := hI.scored
  simp only [RoutesScored, hr, hp] at h
  obtain ⟨p', hp', hf, he, hn, hs⟩ := h
  obtain rfl := Option.some.inj hp'
  refine ⟨hf, he, hn, ?_⟩
  rw [hr]
  exact hs

omit [DecidableEq F] in
theorem Phased.unrouted (hI : Phased kit s) (hr : s.routeEstimates = none) :
    s.routeQualityReport = none ∧ s.scheduleQualityReport = none := by
  have h := hI.scored
  simpa only [RoutesScored, hr] using h

omit [DecidableEq F] in
/-- Where the choice finds no routes for the plan, there are none at all. -/
theorem Phased.routesFor (hI : Phased kit s) {p : TripPlan} (hp : s.tripPlan = some p)
    (h : s.routeEstimates = none ∨
      s.routePlanFingerprint ≠ some (routeFingerprint kit s.request p)) :
    s.routeEstimates = none := by
  rcases hr : s.routeEstimates with _ | r
  · rfl
  · obtain hn | hf := h
    · rw [hr] at hn
      cases hn
    · exact absurd (hI.estimated hp hr).fingerprint hf

theorem Phased.qualityCurrent (hI : Phased kit s) {p : TripPlan} {r : RouteEstimateResult F D}
    {q : RouteQualityReport D} (hp : s.tripPlan = some p) (hr : s.routeEstimates = some r)
    (hq : s.routeQualityReport = some q) : routeQualityCurrent kit s p = true := by
  obtain ⟨hf, hk⟩ := (hI.estimated hp hr).scored q hq
  obtain hk | hk := hk
  · simp [routeQualityCurrent, hq, hk, hf, evaluationIsCurrent]
  · simp [routeQualityCurrent, hq, hk, evaluationIsCurrent, routeQualityInputFingerprint]

theorem currentRouteQuality_scored (hI : Phased kit s) {p : TripPlan} {r : RouteEstimateResult F D}
    {q : RouteQualityReport D} (hq : Scored kit s p r q) :
    currentRouteQuality kit s p = .ok (q, s) := by
  have hf := ((hI.estimated hq.plan hq.routes).scored q hq.quality).1
  simp only [currentRouteQuality, hq.quality, hf, if_true]

/-- Estimates that have no current report cannot be scored. -/
theorem currentRouteQuality_unscored (hI : Phased kit s) {p : TripPlan}
    {r : RouteEstimateResult F D} (hr : Routed kit s p r)
    (h : routeQualityCurrent kit s p = false) :
    ∃ m, currentRouteQuality kit s p = .error (.inner m) := by
  have he := hI.estimated hr.plan hr.routes
  rcases hq : s.routeQualityReport with _ | q
  · obtain ⟨m, hm⟩ := he.unscored hq
    refine ⟨m, ?_⟩
    simp only [currentRouteQuality, hq, refreshRouteQuality, hr.plan, hr.routes, he.estimates,
      ne_eq, not_true_eq_false, if_false, hm]
  · rw [hI.qualityCurrent hr.plan hr.routes hq] at h
    cases h

theorem currentSchedule_timely (hI : Phased kit s) {p : TripPlan} {r : RouteEstimateResult F D}
    {q : RouteQualityReport D} {t : ScheduleQualityReport D} (hq : RouteSettled kit s p r q)
    (ht : Timely kit s p t) : currentSchedule kit s p = .ok (t, s) := by
  obtain hf | ⟨hp, -⟩ := hI.timed p t hq.plan ht.report
  · simp only [currentSchedule, ht.report, hf, if_true]
  · exact absurd hp hq.routeNotPending

section Refresh

variable {u : AgentState F D} {p : TripPlan} {r : RouteEstimateResult F D}

theorem refreshSchedule_ok {t : ScheduleQualityReport D} (hp : u.tripPlan = some p)
    (hr : u.routeEstimates = some r) (hf : r.planFingerprint = routeFingerprint kit u.request p)
    (h : kit.evaluateSchedule u.request p r = .ok t) :
    refreshScheduleQuality kit u = .ok (t, withSchedule kit u p t) := by
  simp only [refreshScheduleQuality, hp, hr, hf, ne_eq, not_true_eq_false, if_false, h]

theorem refreshSchedule_error {m : String} (hp : u.tripPlan = some p)
    (hr : u.routeEstimates = some r) (hf : r.planFingerprint = routeFingerprint kit u.request p)
    (h : kit.evaluateSchedule u.request p r = .error m) :
    refreshScheduleQuality kit u = .error (.inner m) := by
  simp only [refreshScheduleQuality, hp, hr, hf, ne_eq, not_true_eq_false, if_false, h]

end Refresh

omit [DecidableEq F] in
/-- A failure only marks the run. -/
theorem afterFailure_cases (s : AgentState F D) {a : AgentAction} (ha : a ≠ .supplementAttractions)
    (next : AfterFailure) : ∃ status result, Failed s.status a status result ∧
      afterFailure s a next = ⟨{ s with status := status }, result⟩ := by
  cases next with
  | retry => exact ⟨s.status, _, .inl ⟨rfl, rfl⟩, rfl⟩
  | outOfTime => exact ⟨_, _, .inr (.inl ⟨rfl, rfl⟩), rfl⟩
  | giveUp => exact ⟨_, _, .inr (.inr ⟨rfl, rfl⟩), if_neg ha⟩

theorem afterFailure_effect {a : AgentAction} (ha : a ≠ .supplementAttractions)
    (next : AfterFailure) : Effect kit s a (afterFailure s a next) := by
  cases next with
  | retry => exact .retried
  | outOfTime => exact .outOfTime
  | giveUp =>
    simp only [afterFailure, ha, if_false]
    exact .gaveUp

/-- A tool whose output always goes in. -/
theorem executeTool_effect {a : AgentAction} {payload : ToolPayload F D}
    (ha : a ≠ .supplementAttractions) (hpay : buildToolPayload kit s a = .ok payload)
    (happly : ∀ data, (∃ t, applyToolResult kit s a data = done t ∧ Effect kit s a (done t)) ∨
      (∃ f, applyToolResult kit s a data = raised s f)) (reply : ToolReply F D) :
    Effect kit s a (executeTool kit s a reply) := by
  cases reply with
  | failure next =>
    simp only [executeTool, hpay]
    exact afterFailure_effect ha next
  | success data next =>
    obtain ⟨t, ht, he⟩ | ⟨f, hf⟩ := happly data
    · simpa only [executeTool, hpay, ht, done] using he
    · simp only [executeTool, hpay, hf, raised]
      exact afterFailure_effect ha next

theorem estimateRoutes_effect (hI : Phased kit s) {p : TripPlan} (hp : s.tripPlan = some p)
    (h : s.routeEstimates = none ∨
      s.routePlanFingerprint ≠ some (routeFingerprint kit s.request p)) (reply : ToolReply F D) :
    Effect kit s .estimateRoutes (executeTool kit s .estimateRoutes reply) := by
  have hn := hI.routesFor hp h
  have ha : AgentAction.estimateRoutes ≠ .supplementAttractions := by decide
  rcases hl : buildRouteLegs (kit.sources s.attractions s.hotels) s.request p with f | legs
  · have hpay : buildToolPayload kit s .estimateRoutes = .error f := by
      simp only [buildToolPayload, hp, hl, Except.map]
    simp only [executeTool, hpay]
    exact .faulted (buildRouteLegs_error hl)
  · have hpay : buildToolPayload kit s .estimateRoutes =
        .ok (.routes s.request.city (routeFingerprint kit s.request p) legs) := by
      simp only [buildToolPayload, hp, hl, Except.map]
    cases reply with
    | failure next =>
      simp only [executeTool, hpay]
      exact afterFailure_effect ha next
    | success data next =>
      simp only [executeTool, hpay]
      cases data with
      | document d => exact afterFailure_effect ha next
      | nearby center radius page d => exact afterFailure_effect ha next
      | plan p => exact afterFailure_effect ha next
      | routes r =>
        by_cases hf : r.planFingerprint = routeFingerprint kit s.request p
        · have hr : RoutesFor kit s p r := ⟨hp, hn, hf⟩
          rcases hq : kit.evaluateRouteQuality p r with m | q
          · simp only [applyToolResult, applyRoutes, hp, hf, ne_eq, not_true_eq_false, if_false, hq,
              raised]
            obtain ⟨status, result, hresult, ho⟩ := afterFailure_cases (withRoutes s r) ha next
            rw [ho]
            exact .unscored hr hq hresult
          · rcases ht : kit.evaluateSchedule s.request p r with m | t
            · simp only [applyToolResult, applyRoutes, hp, hf, ne_eq, not_true_eq_false, if_false,
                hq, ht, raised]
              obtain ⟨status, result, hresult, ho⟩ :=
                afterFailure_cases (withRouteReport kit (withRoutes s r) p q) ha next
              rw [ho]
              exact .untimed hr hq ht hresult
            · simp only [applyToolResult, applyRoutes, hp, hf, ne_eq, not_true_eq_false, if_false,
                hq, ht, done]
              exact .routed hr hq ht
        · simp only [applyToolResult, applyRoutes, hp, ne_eq, hf, not_false_eq_true, if_true, raised]
          exact afterFailure_effect ha next

theorem searchRestaurants_effect {p : TripPlan} {r : RouteEstimateResult F D}
    {q : RouteQualityReport D} {t : ScheduleQualityReport D} {f : F}
    (hq : CommuteSettled kit s p r q t) (hf : restaurantSearchSourceFingerprint kit p = .ok f)
    (h : s.restaurants = none ∨ s.restaurantPlanFingerprint ≠ some f) (reply : ToolReply F D) :
    Effect kit s .searchRestaurants (executeTool kit s .searchRestaurants reply) := by
  have hanchors : ∃ anchors,
      buildRestaurantSearchAnchors p kit.maxRestaurantSearchAnchors = .ok anchors := by
    rcases ha : buildRestaurantSearchAnchors p kit.maxRestaurantSearchAnchors with e | anchors
    · simp [restaurantSearchSourceFingerprint, ha, Except.map] at hf
    · exact ⟨anchors, rfl⟩
  obtain ⟨anchors, ha⟩ := hanchors
  have hpay : buildToolPayload kit s .searchRestaurants =
      .ok (.restaurants s.request.city anchors) := by
    simp only [buildToolPayload, hq.plan, ha, Except.map]
  refine executeTool_effect (by decide) hpay ?_ reply
  intro data
  cases data with
  | document d =>
    refine .inl ⟨_, ?_, .restaurants hq hf h (d := d)⟩
    simp only [applyToolResult, applyRestaurants, hq.plan, hf]
  | nearby center radius page d => exact .inr ⟨_, rfl⟩
  | plan p => exact .inr ⟨_, rfl⟩
  | routes r => exact .inr ⟨_, rfl⟩

omit [DecidableEq F] in
theorem searching_query (hI : Phased kit s)
    (h : s.commute.status = .supplementNeeded ∨ s.refill.status = .supplementNeeded) :
    ∃ query, s.commuteSupplementQuery = some query :=
  Option.isSome_iff_exists.mp (hI.searching.1.mpr h)

theorem supplement_failure {query : CommuteSupplementQuery D} (hs : SearchAsked kit s)
    (hq : s.commuteSupplementQuery = some query) (next : AfterFailure) :
    Effect kit s .supplementAttractions (afterFailure s .supplementAttractions next) := by
  cases next with
  | retry => exact .retried
  | outOfTime => exact .outOfTime
  | giveUp =>
    simp only [afterFailure, if_true, handleFailedAttractionSupplement, hq]
    exact .searchFailed hs hq

theorem supplement_effect (hI : Phased kit s) (hs : SearchAsked kit s) (reply : ToolReply F D) :
    Effect kit s .supplementAttractions (executeTool kit s .supplementAttractions reply) := by
  have hquery : ∃ query, s.commuteSupplementQuery = some query := by
    obtain ⟨p, r, -, hr⟩ | ⟨p, r, q, -, hc⟩ := hs
    · exact searching_query hI (.inr hr)
    · exact searching_query hI (.inl hc)
  obtain ⟨query, hq⟩ := hquery
  have hpay : buildToolPayload kit s .supplementAttractions = .ok (.nearby query) := by
    simp only [buildToolPayload, hq]
  cases reply with
  | failure next =>
    simp only [executeTool, hpay]
    exact supplement_failure hs hq next
  | success data next =>
    simp only [executeTool, hpay]
    cases data with
    | document d => exact supplement_failure hs hq next
    | plan p => exact supplement_failure hs hq next
    | routes r => exact supplement_failure hs hq next
    | nearby center radius page d =>
      by_cases hmatch : radius ≠ query.radiusMeters ∨ page ≠ query.page ∨ center ≠ query.center
      · simp only [applyToolResult, applySupplement, hq, if_pos hmatch, raised]
        exact supplement_failure hs hq next
      · rcases hm : kit.merge s.attractions d with m | pool
        · simp only [applyToolResult, applySupplement, hq, if_neg hmatch, hm, raised]
          exact supplement_failure hs hq next
        · simp only [applyToolResult, applySupplement, hq, if_neg hmatch, hm, done]
          exact .supplemented hs hq hm

theorem optimizeRoutes_scored (hI : Phased kit s) {p : TripPlan} {r : RouteEstimateResult F D}
    {q : RouteQualityReport D} (hq : Scored kit s p r q)
    (h : s.route.status = .candidatePending ∨ routeWanted s = true) :
    Effect kit s .optimizeRoutes (optimizeRoutes kit s) := by
  simp only [optimizeRoutes, hq.plan, hq.routes, currentRouteQuality_scored hI hq]
  by_cases hp : s.route.status = .candidatePending
  · obtain ⟨p₀, r₀, q₀, hb⟩ := hI.routeBacked hp
    obtain ⟨c, hc⟩ := hb.candidate
    rw [if_pos hp]
    simp only [verifyRoutes, hb.plan, hb.routes, hb.quality, hb.fingerprint, hc]
    split
    · exact .routesAccepted hq hp hb ‹_›
    · rename_i ha
      have ha : isRouteQualityImprovement kit q₀ q = false := by simpa using ha
      rcases ht : kit.evaluateSchedule s.request p₀ r₀ with m | t
      · rw [refreshSchedule_error (u := revertRoutes kit s p₀ r₀ q₀ _) rfl rfl hb.estimates ht]
        exact .routesStuck hq hp hb ha ht
      · rw [refreshSchedule_ok (u := revertRoutes kit s p₀ r₀ q₀ _) rfl rfl hb.estimates ht]
        exact .routesReverted hq hp hb ha ht
  · have hw : routeWanted s = true := h.resolve_left hp
    have hwanted := hw
    simp only [routeWanted, hq.quality, Option.any_some, Bool.and_eq_true, beq_iff_eq,
      decide_eq_true_eq] at hwanted
    rw [if_neg hp, if_neg (by omega), if_neg (by simp [hwanted.1.2])]
    rcases hc : kit.optimizeRoutes p with m | c
    · exact .faulted nofun
    · cases c with
      | none => exact .routesSkipped hq hw
      | some c => exact .routesInstalled hq hw hc

theorem optimizeRoutes_unscored (hI : Phased kit s) {p : TripPlan} {r : RouteEstimateResult F D}
    (hr : Routed kit s p r) (h : routeQualityCurrent kit s p = false) :
    Effect kit s .optimizeRoutes (optimizeRoutes kit s) := by
  obtain ⟨m, hm⟩ := currentRouteQuality_unscored hI hr h
  simp only [optimizeRoutes, hr.plan, hr.routes, hm]
  exact .faulted nofun

theorem evaluateCommute_effect {p : TripPlan} {r : RouteEstimateResult F D}
    {q : RouteQualityReport D} (hq : Quiet kit s p r q) (h : commuteCurrent kit s p = false) :
    Effect kit s .evaluateCommute (evaluateCommute kit s) := by
  simp only [evaluateCommute, refreshCommuteReport, hq.plan, hq.routes]
  rcases hc : kit.evaluateCommute s.request p r with m | c
  · exact .faulted nofun
  · dsimp only
    split
    · rename_i hf
      split at hf
      · cases hf
        exact .faulted nofun
      · cases hf
    · rename_i hf
      split at hf
      · cases hf
      · cases hf
        exact .commuteEvaluated hq h hc

theorem evaluateSchedule_effect (hI : Phased kit s) {p : TripPlan} {r : RouteEstimateResult F D}
    {q : RouteQualityReport D} (hq : RouteSettled kit s p r q)
    (h : scheduleCurrent kit s p = false) :
    Effect kit s .evaluateSchedule (evaluateSchedule kit s) := by
  have hf := (hI.estimated hq.plan hq.routes).estimates
  rcases ht : kit.evaluateSchedule s.request p r with m | t
  · simp only [evaluateSchedule, refreshSchedule_error hq.plan hq.routes hf ht]
    exact .faulted nofun
  · simp only [evaluateSchedule, refreshSchedule_ok hq.plan hq.routes hf ht]
    exact .scheduleEvaluated hq h ht

theorem refreshConstraint_cases (kit : Kit F D) {p : TripPlan} {t : ScheduleQualityReport D}
    (hp : s.tripPlan = some p) (ht : s.scheduleQualityReport = some t) :
    (∃ f, refreshConstraintReport kit s = .error f ∧ ∀ m, f ≠ .missing m) ∨
      ∃ k, refreshConstraintReport kit s = .ok (k, withConstraints kit s p k) ∧
        kit.evaluateConstraints s.request p t s.attractions s.weather = .ok k := by
  unfold refreshConstraintReport
  rw [hp, ht]
  dsimp only
  rcases hk : kit.evaluateConstraints s.request p t s.attractions s.weather with m | k
  · exact .inl ⟨_, rfl, nofun⟩
  · dsimp only
    split
    · exact .inl ⟨_, rfl, nofun⟩
    · exact .inr ⟨k, rfl, rfl⟩

theorem evaluateConstraints_effect {p : TripPlan} {r : RouteEstimateResult F D}
    {q : RouteQualityReport D} {t : ScheduleQualityReport D} (hq : RouteSettled kit s p r q)
    (hs : s.schedule.status ≠ .candidatePending) (ht : Timely kit s p t)
    (h : constraintsCurrent kit s p = false) :
    Effect kit s .evaluateConstraints (evaluateConstraints kit s) := by
  obtain ⟨f, hf, hm⟩ | ⟨k, hk, he⟩ := refreshConstraint_cases kit hq.plan ht.report
  · simp only [evaluateConstraints, hf]
    exact .faulted hm
  · simp only [evaluateConstraints, hk]
    exact .constraintsEvaluated hq hs ht h he

theorem verifySchedule_effect (hI : Phased kit s) {p : TripPlan} {r : RouteEstimateResult F D}
    {q : RouteQualityReport D} {t : ScheduleQualityReport D} (hq : RouteSettled kit s p r q)
    (h : s.schedule.status = .candidatePending) (ht : Timely kit s p t) :
    Effect kit s .optimizeSchedule (optimizeSchedule kit s) := by
  obtain ⟨p₀, r₀, q₀, t₀, hb⟩ := hI.scheduleBacked h
  obtain ⟨c, hc⟩ := hb.candidate
  simp only [optimizeSchedule, hq.plan, hq.routes, currentSchedule_timely hI hq ht, h,
    if_true, verifySchedule, hb.plan, hb.routes, hb.routeQuality, hb.quality, hb.fingerprint, hc,
    hq.quality]
  split
  · exact .scheduleAccepted hq ht h hb ‹_›
  · rename_i ha
    exact .scheduleReverted hq ht h hb (by simpa using ha)

theorem balanceSchedule_effect (hI : Phased kit s) {p : TripPlan} {r : RouteEstimateResult F D}
    {q : RouteQualityReport D} {t : ScheduleQualityReport D} (hq : CommuteSettled kit s p r q t)
    (h : s.schedule.status = .notStarted) :
    Effect kit s .optimizeSchedule (optimizeSchedule kit s) := by
  simp only [optimizeSchedule, hq.plan, hq.routes,
    currentSchedule_timely hI hq.toRouteSettled hq.toTimely,
    h, reduceCtorEq, if_false, hq.quality]
  split
  · exact .scheduleSkipped hq h
  · split
    · exact .scheduleSkipped hq h
    · rcases hc : kit.optimizeSchedule s.request p t with m | c
      · exact .faulted nofun
      · cases c with
        | none => exact .scheduleSkipped hq h
        | some c => exact .scheduleInstalled hq h (by omega) hc

theorem currentConstraints_ok {p : TripPlan} {k : TripConstraintReport F D} {u : AgentState F D}
    (hp : s.tripPlan = some p) (h : currentConstraints kit s p = .ok (k, u)) :
    (u = s ∧ s.constraintReport = some k) ∨
      ∃ t, s.scheduleQualityReport = some t ∧ u = withConstraints kit s p k ∧
        kit.evaluateConstraints s.request p t s.attractions s.weather = .ok k := by
  have hrefresh (h : refreshConstraintReport kit s = .ok (k, u)) :
      ∃ t, s.scheduleQualityReport = some t ∧ u = withConstraints kit s p k ∧
        kit.evaluateConstraints s.request p t s.attractions s.weather = .ok k := by
    rcases ht : s.scheduleQualityReport with _ | t
    · simp only [refreshConstraintReport, hp, ht] at h
      cases h
    · obtain ⟨f, hf, -⟩ | ⟨k', hk, he⟩ := refreshConstraint_cases kit hp ht
      · rw [hf] at h
        cases h
      · rw [hk] at h
        cases h
        exact ⟨t, rfl, rfl, he⟩
  unfold currentConstraints at h
  split at h
  · exact .inr (hrefresh h)
  · rename_i report hreport
    split at h
    · cases h
      exact .inl ⟨rfl, hreport⟩
    · exact .inr (hrefresh h)

theorem currentConstraints_error {p : TripPlan} {t : ScheduleQualityReport D} {f : Fault}
    (hp : s.tripPlan = some p) (ht : s.scheduleQualityReport = some t)
    (h : currentConstraints kit s p = .error f) (m : Missing) : f ≠ .missing m := by
  have hrefresh (h : refreshConstraintReport kit s = .error f) : f ≠ .missing m := by
    obtain ⟨f', hf, hm⟩ | ⟨k', hk, -⟩ := refreshConstraint_cases kit hp ht
    · rw [hf] at h
      cases h
      exact hm m
    · rw [hk] at h
      cases h
  unfold currentConstraints at h
  split at h
  · exact hrefresh h
  · split at h
    · cases h
    · exact hrefresh h

theorem currentConstraints_rechecked {p : TripPlan} {k : TripConstraintReport F D}
    {u : AgentState F D} (hp : s.tripPlan = some p) (h : currentConstraints kit s p = .ok (k, u)) :
    ∃ fingerprint key status, u = rechecked s k fingerprint key status ∧
      Restatus s.constraint.status status := by
  obtain ⟨rfl, hk⟩ | ⟨t, -, rfl, -⟩ := currentConstraints_ok hp h
  · refine ⟨u.constraintPlanFingerprint, u.evaluations.constraints, u.constraint.status, ?_, .inl rfl⟩
    rw [rechecked, ← hk]
  · refine ⟨_, _, _, rfl, ?_⟩
    by_cases hn : s.constraint.status = .notStarted ∧ k.optimizationRecommended = false
    · exact .inr ⟨hn.1, if_pos hn⟩
    · exact .inl (if_neg hn)

theorem verifyConstraints_effect (hI : Phased kit s) {p : TripPlan} {r : RouteEstimateResult F D}
    {q : RouteQualityReport D} {t : ScheduleQualityReport D} {k : TripConstraintReport F D}
    (hq : RouteSettled kit s p r q) (h : s.constraint.status = .candidatePending)
    (ht : Timely kit s p t) (hk : Feasible kit s p k) :
    Effect kit s .optimizeConstraints (optimizeConstraints kit s) := by
  obtain ⟨p₀, r₀, q₀, t₀, k₀, hb⟩ := hI.constraintBacked h
  obtain ⟨c, hc⟩ := hb.candidate
  rcases hu : currentConstraints kit s p with f | ⟨k', u⟩
  · simp only [optimizeConstraints, hq.plan, hq.routes, hq.quality, ht.report, hu]
    exact .faulted (currentConstraints_error hq.plan ht.report hu)
  · obtain ⟨fingerprint, key, status, rfl, hstatus⟩ := currentConstraints_rechecked hq.plan hu
    have hpending : (rechecked s k' fingerprint key status).constraint = s.constraint := by
      obtain rfl | ⟨hs, -⟩ := hstatus
      · rfl
      · rw [h] at hs
        cases hs
    simp only [optimizeConstraints, hq.plan, hq.routes, hq.quality, ht.report, hu, hpending, h,
      if_true, verifyConstraints, hb.plan, hb.routes, hb.routeQuality, hb.schedule, hb.report,
      hb.fingerprint, hc]
    split
    · exact .constraintsAccepted hq ht hk h hb hstatus hu ‹_›
    · rename_i ha
      exact .constraintsReverted hq ht hk h hb hstatus hu (by simpa using ha)

theorem easeConstraints_effect {p : TripPlan} {r : RouteEstimateResult F D}
    {q : RouteQualityReport D} {t : ScheduleQualityReport D} {k : TripConstraintReport F D}
    (hq : CommuteSettled kit s p r q t) (hk : Feasible kit s p k)
    (h : s.constraint.status = .notStarted) :
    Effect kit s .optimizeConstraints (optimizeConstraints kit s) := by
  rcases hu : currentConstraints kit s p with f | ⟨k', u⟩
  · simp only [optimizeConstraints, hq.plan, hq.routes, hq.quality, hq.report, hu]
    exact .faulted (currentConstraints_error hq.plan hq.report hu)
  · obtain ⟨fingerprint, key, status, rfl, hstatus⟩ := currentConstraints_rechecked hq.plan hu
    have hidle : status ≠ .candidatePending := by
      obtain rfl | ⟨-, rfl⟩ := hstatus
      · rw [h]
        decide
      · decide
    simp only [optimizeConstraints, hq.plan, hq.routes, hq.quality, hq.report, hu]
    rw [if_neg (by exact hidle)]
    split
    · exact .constraintsSkipped hq hk h hstatus hu
    · rename_i hn
      split
      · exact .constraintsSkipped hq hk h hstatus hu
      · dsimp only [rechecked] at hn ⊢
        rcases hc : kit.optimizeConstraints s.request p k' s.attractions s.weather with m | c
        · exact .constraintsUnsolved hq hk h hstatus hu
        · cases c with
          | none => exact .constraintsSkipped hq hk h hstatus hu
          | some c => exact .constraintsInstalled hq hk h hstatus hu (by omega) hc

theorem replace_effect (hI : Phased kit s) {p : TripPlan} {r : RouteEstimateResult F D}
    {q : RouteQualityReport D} {m : CommuteConstraintReport F D} {t : ScheduleQualityReport D}
    {k : TripConstraintReport F D} (hq : Quiet kit s p r q) (hm : CommuteKnown kit s p m)
    (ht : Timely kit s p t) (hk : Feasible kit s p k) (h : commuteNeedsAction s = true) :
    Effect kit s .replaceRemoteAttraction (replaceRemoteAttraction kit s) := by
  simp only [replaceRemoteAttraction, hq.plan, hq.routes, hq.quality, hm.report, ht.report,
    hk.report]
  by_cases hp : s.commute.status = .candidatePending
  · obtain ⟨c, p₀, r₀, q₀, m₀, t₀, k₀, hb⟩ := hI.commuteBacked hp
    simp only [hp, if_true, verifyReplacement, hb.plan, hb.routes, hb.routeQuality, hb.report,
      hb.schedule, hb.constraints, hb.fingerprint, hb.constraintFingerprint, hb.candidate]
    split
    · exact .replacementAccepted hq hm ht hk hp hb ‹_›
    · rename_i ha
      exact .replacementReverted hq hm ht hk hp hb (by simpa using ha)
  · have hn : s.commute.status = .notStarted := by
      simp only [commuteNeedsAction, Bool.or_eq_true, beq_iff_eq, hp, false_or, Bool.and_eq_true] at h
      exact h.1
    rw [if_neg hp]
    split
    · exact .replacementSkipped hq hm ht hk hn
    · rename_i hcount
      rcases hc : kit.optimizeCommute s.request p m s.attractions
        s.commute.excludedCandidateIdentities with e | c
      · exact .faulted nofun
      · cases c with
        | some c => exact .replacementInstalled hq hm ht hk hn (by omega) hc
        | none =>
          dsimp only [supplementReplacement]
          split
          · rename_i hsearch
            rcases hb : kit.buildQuery s.request p m s.commute.supplementSearchCount with e | query
            · exact .faulted nofun
            · cases query with
              | none => exact .replacementSkipped hq hm ht hk hn
              | some query => exact .replacementSearched hq hm ht hk hn hsearch
          · exact .replacementSkipped hq hm ht hk hn

theorem verifyRefill_effect (hI : Phased kit s) {p : TripPlan} {r : RouteEstimateResult F D}
    {q : RouteQualityReport D} {t : ScheduleQualityReport D} {k : TripConstraintReport F D}
    (hq : RouteSettled kit s p r q) (h : s.refill.status = .candidatePending)
    (ht : Timely kit s p t) (hk : Feasible kit s p k) :
    Effect kit s .refillAttractions (refillAttractions kit s) := by
  obtain ⟨c, p₀, r₀, q₀, t₀, k₀, hb⟩ := hI.refillBacked h
  simp only [refillAttractions, hq.plan, h, if_true, verifyRefill, hb.plan, hb.routes,
    hb.routeQuality, hb.schedule, hb.constraints, hb.fingerprint, hb.constraintFingerprint,
    hb.candidate, hq.quality, ht.report, hk.report]
  split
  · exact .refillAccepted hq ht hk h hb ‹_›
  · rename_i ha
    exact .refillReverted hq ht hk h hb (by simpa using ha)

theorem refill_effect {p : TripPlan} {r : RouteEstimateResult F D}
    {q : RouteQualityReport D} {t : ScheduleQualityReport D} {k : TripConstraintReport F D}
    (hq : CommuteSettled kit s p r q t) (hk : Feasible kit s p k) (h : refillNeeded s p = true) :
    Effect kit s .refillAttractions (refillAttractions kit s) := by
  have hneeded := h
  simp only [refillNeeded, Bool.and_eq_true, decide_eq_true_eq] at hneeded
  simp only [refillAttractions, hq.plan, hq.refillNotPending, if_false]
  rw [if_neg (by omega), if_neg (by omega)]
  simp only [hq.routes, hq.quality, hq.report, hk.report]
  rcases hc : kit.optimizeRefill s.request p s.attractions s.refill.excludedIdentities with e | c
  · exact .faulted nofun
  · cases c with
    | some c => exact .refillInstalled hq hk h hc
    | none =>
      dsimp only [supplementRefill]
      split
      · rename_i hsearch
        rcases hb : kit.buildContentRefillQuery s.request p s.refill.supplementSearchCount with
          e | query
        · exact .faulted nofun
        · cases query with
          | none => exact .refillSkipped hq hk h
          | some query => exact .refillSearched hq hk h hsearch
      · exact .refillSkipped hq hk h

theorem rebuild_effect {p : TripPlan} {r : RouteEstimateResult F D} {q : RouteQualityReport D}
    {t : ScheduleQualityReport D} (hq : CommuteSettled kit s p r q t)
    (h : s.planConsistencyFingerprint ≠ some (planContentSourceFingerprint kit s p)) :
    Effect kit s .rebuildPlanContent (rebuildContent kit s) := by
  simp only [rebuildContent, hq.plan, hq.routes]
  split
  · exact .faulted (by rintro _ ⟨⟩)
  · exact .rebuilt hq h ‹_›

theorem validate_effect {p : TripPlan} {r : RouteEstimateResult F D} {q : RouteQualityReport D}
    {t : ScheduleQualityReport D} {k : TripConstraintReport F D}
    (hq : CommuteSettled kit s p r q t) (hk : Feasible kit s p k)
    (hp : choosePrior kit s p = .ok none) (h : chooseVerdict kit s p = .validatePlan) :
    Effect kit s .validatePlan (validatePlan kit s) := by
  simp only [validatePlan, hq.plan]
  rcases hv : kit.validate (validationInputs s p) with e | v
  · exact .faulted nofun
  · dsimp only
    unfold judged
    split
    · exact .approved hq hk hp h hv ‹_›
    · rename_i ha
      have ha : approves kit s p v = false := by simpa [approves] using ha
      split
      · exact .faulty hq hk hp h hv ha (by assumption)
      · exact .hopeless hq hk hp h hv ha (by assumption)

/-- In the phases that are reached, the chosen action does one of the listed things. -/
theorem execute_effect (hI : Phased kit s) {a : AgentAction} (hc : Chosen kit s a)
    (reply : ToolReply F D) : Effect kit s a (executeAction kit s a reply) := by
  cases hc with
  | searchAttractions h =>
    refine executeTool_effect (by decide) rfl ?_ reply
    intro data
    cases data with
    | document d => exact .inl ⟨_, rfl, .attractions h⟩
    | _ => exact .inr ⟨_, rfl⟩
  | getWeather h =>
    refine executeTool_effect (by decide) rfl ?_ reply
    intro data
    cases data with
    | document d => exact .inl ⟨_, rfl, .weather h⟩
    | _ => exact .inr ⟨_, rfl⟩
  | searchHotels h =>
    refine executeTool_effect (by decide) rfl ?_ reply
    intro data
    cases data with
    | document d => exact .inl ⟨_, rfl, .hotels h⟩
    | _ => exact .inr ⟨_, rfl⟩
  | generatePlan hf h =>
    refine executeTool_effect (by decide) rfl ?_ reply
    intro data
    cases data with
    | plan p => exact .inl ⟨_, rfl, .generated hf h⟩
    | _ => exact .inr ⟨_, rfl⟩
  | estimateRoutes hp h => exact estimateRoutes_effect hI hp h reply
  | refillSearch hr h => exact supplement_effect hI (.inl ⟨_, _, hr, h⟩) reply
  | scoreRoutes hr hn h => exact optimizeRoutes_unscored hI hr h
  | verifyRoutes hq h => exact optimizeRoutes_scored hI hq (.inl h)
  | reorderRoutes hq h => exact optimizeRoutes_scored hI hq (.inr h)
  | timeline hq h => exact evaluateSchedule_effect hI hq h
  | verifySchedule hq h ht => exact verifySchedule_effect hI hq h ht
  | constraints hq hs ht h => exact evaluateConstraints_effect hq hs ht h
  | verifyConstraints hq h ht hk => exact verifyConstraints_effect hI hq h ht hk
  | verifyRefill hq h ht hk => exact verifyRefill_effect hI hq h ht hk
  | evaluateCommute hq h => exact evaluateCommute_effect hq h
  | commuteSearch hq h => exact supplement_effect hI (.inr ⟨_, _, _, hq, h⟩) reply
  | replace hq hm ht hk h => exact replace_effect hI hq hm ht hk h
  | balance hq h hw => exact balanceSchedule_effect hI hq h
  | easeConstraints hq hk h hw => exact easeConstraints_effect hq hk h
  | refill hq hk h => exact refill_effect hq hk h
  | searchRestaurants hq hf h => exact searchRestaurants_effect hq hf h reply
  | rebuild hq h => exact rebuild_effect hq h
  | validate hq hk hp h => exact validate_effect hq hk hp h
  | finish hq hk hp h => exact .finished hq hk hp h
  | repair hq hk hp h =>
    refine executeTool_effect (by decide) rfl ?_ reply
    intro data
    cases data with
    | plan p => exact .inl ⟨_, rfl, .repaired hq hk h⟩
    | _ => exact .inr ⟨_, rfl⟩

end TravelAgent.Agent

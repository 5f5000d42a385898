import TravelAgent.ActionInputs
import TravelAgent.Completion

namespace TravelAgent.Agent

open TravelAgent.Itinerary TravelAgent.ContentRebuild

variable {F D : Type} {kit : Kit F D} {s t : AgentState F D}

theorem rebuildDay_source (rb : Rebuilder) (request : TripRequest) (plan : TripPlan)
    (routes : List RouteEstimate) (position : Nat) (day : DayPlan) :
    daySource (rebuildDay rb request plan routes position day) = daySource day := rfl

/-- What the content is made from does not change with it. -/
theorem rebuild_source (rb : Rebuilder) (p : TripPlan) (routes : Option (List RouteEstimate)) :
    planContentSourceFingerprint kit s (rebuild rb s.request p routes) =
      planContentSourceFingerprint kit s p := by
  have hdays : (rebuild rb s.request p routes).days.map daySource = p.days.map daySource := by
    apply List.ext_getElem
    · simp [rebuild]
    · intro i hi hj
      simp [rebuild, rebuildDay_source]
  rw [planContentSourceFingerprint, planContentSourceFingerprint, hdays]

/-- A search that is over has been counted. -/
theorem endSearch_count (s : AgentState F D) (status : SearchingStatus) :
    s.commute.supplementSearchCount + s.refill.supplementSearchCount <
      (endSearch s status).commute.supplementSearchCount +
        (endSearch s status).refill.supplementSearchCount := by
  unfold endSearch
  split
  · exact Nat.add_lt_add_left (Nat.lt_succ_self _) _
  · exact Nat.add_lt_add_right (Nat.lt_succ_self _) _

theorem applyRepaired_count (s : AgentState F D) (plan : TripPlan) :
    (applyRepaired s plan).repairCount = s.repairCount + 1 := by
  dsimp only [applyRepaired, clearRouteAnalysis, clearConstraintAnalysis, clearCommuteAnalysis,
    dropRoutes, invalidate]

theorem failed_unsuccessful {before status : AgentStatus} {a : AgentAction}
    {result : Except Stop Bool} (h : Failed before a status result) : result ≠ .ok true := by
  obtain ⟨-, rfl⟩ | ⟨-, rfl⟩ | ⟨-, rfl⟩ := h
  · intro ho
    cases ho
  · intro ho
    cases ho
  · intro ho
    cases ho

variable [DecidableEq F]

theorem rebuilt_source {rb : Rebuilder} {p rebuilt : TripPlan} {routes : List RouteEstimate}
    (h : rebuildPlanContent kit.routeDigest rb s.request (some p) (some routes) = .ok rebuilt) :
    planContentSourceFingerprint kit s rebuilt = planContentSourceFingerprint kit s p := by
  unfold rebuildPlanContent at h
  dsimp only at h
  split at h
  · rw [← Except.ok.inj h]
    exact rebuild_source rb p _
  · cases h

theorem current_of_stored {α : Type} {report : Option α} {stored : Option F} {input : F}
    {r : α} (hr : report = some r) (hs : stored = some input) (legacyMatches : Bool) :
    (report.isSome && evaluationIsCurrent stored input legacyMatches) = true := by
  simp [hr, hs, evaluationIsCurrent]

omit [DecidableEq F] in
theorem retryStatus_settled (count limit : Nat) : retryStatus count limit ≠ .candidatePending :=
  (retryStatus_over count limit).1

omit [DecidableEq F] in
theorem refillNeeded_open {p : TripPlan} (h : refillNeeded s p = true) :
    s.refill.status ≠ .completed ∧ s.refill.status ≠ .skipped := by
  simp only [refillNeeded, Bool.and_eq_true, bne_iff_ne] at h
  exact h.1.2

/-- A verdict that stands is given again. -/
theorem approves_standing (hv : Verdict kit s) {p : TripPlan} (hp : s.tripPlan = some p)
    {v : TripValidationResult} (h : kit.validate (validationInputs s p) = .ok v)
    (hc : chooseVerdict kit s p = .validatePlan) (hcurrent : validationCurrent kit s p = true) :
    approves kit s p v = false := by
  obtain ⟨v₀, hlast⟩ := isSome_of_current hcurrent
  obtain ⟨p₀, hs⟩ := hv v₀ hlast
  obtain rfl : p = p₀ := Option.some.inj (hp.symm.trans hs.plan)
  obtain rfl : v = v₀ := Except.ok.inj (h.symm.trans hs.validated)
  rw [chooseVerdict, hcurrent] at hc
  simp only [Bool.not_true, Bool.false_eq_true, if_false] at hc
  split at hc
  · cases hc
  · rename_i hno
    rw [hlast, hs.acceptance] at hno
    have hsame : (withValidation kit s p v).acceptanceReport =
        some (evaluateAcceptance kit.meanScore s v) := rfl
    rw [approves, hsame]
    simpa using hno

/-- Whatever is done with success moves a field that the fingerprint covers. -/
theorem effect_progress (hv : Verdict kit s) (hs : s.finished = false)
    {a : AgentAction} {o : Outcome F D} (he : Effect kit s a o) (ho : o.result = .ok true) :
    businessState s ≠ businessState o.state := by
  intro heq
  cases he with
  | faulted | retried | outOfTime | gaveUp | searchFailed | routesStuck | constraintsUnsolved
  | faulty | hopeless => cases ho
  | unscored hr hq hf => exact failed_unsuccessful hf ho
  | untimed hr hq ht hf => exact failed_unsuccessful hf ho
  | attractions h => cases h.symm.trans (congrArg BusinessState.attractions heq)
  | weather h => cases h.symm.trans (congrArg BusinessState.weather heq)
  | hotels h => cases h.symm.trans (congrArg BusinessState.hotels heq)
  | generated hf h => cases h.symm.trans (congrArg BusinessState.tripPlan heq)
  | routed hr hq ht => cases hr.unrouted.symm.trans (congrArg BusinessState.routeEstimates heq)
  | @supplemented query d pool hs hq hm =>
    have hcount := endSearch_count
      (invalidate { s with attractions := some pool } [.constraints, .validation]) .notStarted
    have hcommute : s.commute.supplementSearchCount = _ :=
      congrArg BusinessState.commuteSearchCount heq
    have hrefill : s.refill.supplementSearchCount = _ :=
      congrArg BusinessState.refillSearchCount heq
    exact hcount.ne (congrArg₂ (· + ·) hcommute hrefill)
  | restaurants hq hf h =>
    obtain h | h := h
    · cases h.symm.trans (congrArg BusinessState.restaurants heq)
    · exact h (congrArg BusinessState.restaurantPlanFingerprint heq)
  | @repaired p r q t k plan hq hk h =>
    have hcount : s.repairCount = (applyRepaired s plan).repairCount :=
      congrArg BusinessState.repairCount heq
    rw [applyRepaired_count] at hcount
    omega
  | routesAccepted hq h hb ha => cases h.symm.trans (congrArg BusinessState.routeStatus heq)
  | routesReverted hq h hb ha ht => cases h.symm.trans (congrArg BusinessState.routeStatus heq)
  | routesSkipped hq h =>
    cases (wanted_notStarted h).symm.trans (congrArg BusinessState.routeStatus heq)
  | routesInstalled hq h hc =>
    have hcount : s.route.count = s.route.count + 1 :=
      congrArg BusinessState.routeCount heq
    omega
  | commuteEvaluated hq h hc =>
    have hstored := congrArg (fun b : BusinessState F D => b.evaluations.commute) heq
    have hcurrent : commuteCurrent kit s _ = true :=
      current_of_stored (congrArg BusinessState.commuteReport heq) hstored _
    exact absurd hcurrent (by rw [h]; decide)
  | scheduleEvaluated hq h ht =>
    have hstored := congrArg (fun b : BusinessState F D => b.evaluations.schedule) heq
    have hcurrent : scheduleCurrent kit s _ = true :=
      current_of_stored (congrArg BusinessState.scheduleQualityReport heq) hstored _
    exact absurd hcurrent (by rw [h]; decide)
  | constraintsEvaluated hq hs ht h hk =>
    have hstored := congrArg (fun b : BusinessState F D => b.evaluations.constraints) heq
    have hcurrent : constraintsCurrent kit s _ = true :=
      current_of_stored (congrArg BusinessState.constraintReport heq) hstored _
    exact absurd hcurrent (by rw [h]; decide)
  | scheduleAccepted hq ht h hb ha => cases h.symm.trans (congrArg BusinessState.scheduleStatus heq)
  | scheduleReverted hq ht h hb ha => cases h.symm.trans (congrArg BusinessState.scheduleStatus heq)
  | scheduleSkipped hq h => cases h.symm.trans (congrArg BusinessState.scheduleStatus heq)
  | scheduleInstalled hq h hn hc =>
    have hcount : s.schedule.count = s.schedule.count + 1 :=
      congrArg BusinessState.scheduleCount heq
    omega
  | constraintsAccepted hq ht hk h hb hs hu ha =>
    cases h.symm.trans (congrArg BusinessState.constraintStatus heq)
  | constraintsReverted hq ht hk h hb hs hu ha =>
    cases h.symm.trans (congrArg BusinessState.constraintStatus heq)
  | constraintsSkipped hq hk h hs hu =>
    cases h.symm.trans (congrArg BusinessState.constraintStatus heq)
  | constraintsInstalled hq hk h hs hu hn hc =>
    have hcount : s.constraint.count = s.constraint.count + 1 :=
      congrArg BusinessState.constraintCount heq
    omega
  | @replacementAccepted p r q m t k c p₀ r₀ q₀ m₀ t₀ k₀ hq hm ht hk h hb ha =>
    have hstatus : s.commute.status = if m.optimizationRecommended then
        retryStatus s.commute.replacementCount s.budget.maxCommuteReplacementAttempts
      else .completed := congrArg BusinessState.commuteStatus heq
    rw [h] at hstatus
    split at hstatus
    · exact retryStatus_settled _ _ hstatus.symm
    · cases hstatus
  | replacementReverted hq hm ht hk h hb ha =>
    have hstatus : s.commute.status = retryStatus _ _ := congrArg BusinessState.commuteStatus heq
    exact retryStatus_settled _ _ (hstatus.symm.trans h)
  | replacementSkipped hq hm ht hk h =>
    cases h.symm.trans (congrArg BusinessState.commuteStatus heq)
  | replacementSearched hq hm ht hk h hn =>
    cases h.symm.trans (congrArg BusinessState.commuteStatus heq)
  | replacementInstalled hq hm ht hk h hn hc =>
    have hcount : s.commute.replacementCount = s.commute.replacementCount + 1 :=
      congrArg BusinessState.replacementCount heq
    omega
  | refillAccepted hq ht hk h hb ha => cases h.symm.trans (congrArg BusinessState.refillStatus heq)
  | refillReverted hq ht hk h hb ha =>
    have hstatus : s.refill.status = retryStatus _ _ := congrArg BusinessState.refillStatus heq
    exact retryStatus_settled _ _ (hstatus.symm.trans h)
  | refillSkipped hq hk h =>
    have hstatus : s.refill.status = .skipped := congrArg BusinessState.refillStatus heq
    exact (refillNeeded_open h).2 hstatus
  | refillSearched hq hk h hn => exact hq.notSearching (congrArg BusinessState.refillStatus heq)
  | refillInstalled hq hk h hc =>
    have hcount : s.refill.count = s.refill.count + 1 :=
      congrArg BusinessState.refillCount heq
    omega
  | rebuilt hq h hr =>
    have hstored : s.planConsistencyFingerprint = some (planContentSourceFingerprint kit s _) :=
      congrArg BusinessState.planConsistencyFingerprint heq
    rw [rebuilt_source hr] at hstored
    exact h hstored
  | approved hq hk hp hc h ha =>
    have hstored := congrArg (fun b : BusinessState F D => b.evaluations.validation) heq
    have hcurrent : validationCurrent kit s _ = true :=
      current_of_stored (congrArg BusinessState.lastValidationResult heq) hstored _
    rw [approves_standing hv hq.plan h hc hcurrent] at ha
    cases ha
  | finished hq hk hp h => cases hs.symm.trans (congrArg BusinessState.finished heq)

end TravelAgent.Agent

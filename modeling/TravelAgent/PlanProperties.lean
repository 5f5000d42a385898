import TravelAgent.AgentFrames

namespace TravelAgent.PlanProperties

open TravelAgent.Itinerary TravelAgent.ContentRebuild TravelAgent.Agent

variable {F D : Type} [DecidableEq F] {kit : Kit F D} {s : AgentState F D} {P : TripPlan → Prop}

/-- A property of plans that normalisation brings about and that whatever turns a
plan of the state into another one keeps. -/
structure Kept (kit : Kit F D) (s : AgentState F D) (P : TripPlan → Prop) : Prop where
  normalized : ∀ p, P (removeDuplicateAttractions p)
  routes : ∀ p c, P p → kit.optimizeRoutes p = .ok (some c) → P c.plan
  schedule : ∀ p t c, P p → kit.optimizeSchedule s.request p t = .ok (some c) → P c.plan
  constraints : ∀ p k c, P p →
    kit.optimizeConstraints s.request p k s.attractions s.weather = .ok (some c) → P c.plan
  replacement : ∀ p m c, P p →
    kit.optimizeCommute s.request p m s.attractions s.commute.excludedCandidateIdentities =
      .ok (some c) → P c.plan
  refill : ∀ p c, s.tripPlan = some p → refillNeeded s p = true → P p →
    kit.optimizeRefill s.request p s.attractions s.refill.excludedIdentities = .ok (some c) →
      P c.plan
  rebuilt : ∀ p rb routes, P p → P (rebuild rb s.request p routes)

/-- The plan of the state has the property, and so has every plan to go back to. -/
structure Holds (P : TripPlan → Prop) (s : AgentState F D) : Prop where
  plan : ∀ p, s.tripPlan = some p → P p
  route : ∀ p, s.route.baselinePlan = some p → P p
  schedule : ∀ p, s.schedule.baselinePlan = some p → P p
  constraint : ∀ p, s.constraint.baselinePlan = some p → P p
  commute : ∀ p, s.commute.baselinePlan = some p → P p
  refill : ∀ p, s.refill.baselinePlan = some p → P p

theorem of_none (p : TripPlan) (h : none = some p) : P p := by cases h

theorem of_some {p q : TripPlan} (h : P p) (hq : some p = some q) : P q :=
  Option.some.inj hq ▸ h

omit [DecidableEq F] in
theorem holds_create (request : TripRequest) (budget : ExecutionBudget) :
    Holds P (AgentState.create request budget : AgentState F D) :=
  ⟨of_none, of_none, of_none, of_none, of_none, of_none⟩

omit [DecidableEq F] in
theorem Holds.endSearch (h : Holds P s) (status : SearchingStatus) :
    Holds P (endSearch s status) := by
  unfold Agent.endSearch
  split
  · exact ⟨h.plan, h.route, h.schedule, h.constraint, h.commute, h.refill⟩
  · exact ⟨h.plan, h.route, h.schedule, h.constraint, h.commute, h.refill⟩

theorem rebuilt_of_ok {digest : RouteInputs → F} {rb : Rebuilder} {request : TripRequest}
    {p rebuilt : TripPlan} {routes : List RouteEstimate}
    (h : rebuildPlanContent digest rb request (some p) (some routes) = .ok rebuilt) :
    rebuilt = rebuild rb request p (some routes) := by
  unfold rebuildPlanContent at h
  dsimp only at h
  split at h
  · exact (Except.ok.inj h).symm
  · cases h

theorem effect_holds (hk : Kept kit s P) (h : Holds P s) {a : AgentAction} {o : Outcome F D}
    (he : Effect kit s a o) : Holds P o.state := by
  cases he
  case faulted | retried => exact h
  case supplemented pool _ _ _ =>
    have hpool :
        Holds P (invalidate { s with attractions := some pool } [.constraints, .validation]) :=
      ⟨h.plan, h.route, h.schedule, h.constraint, h.commute, h.refill⟩
    exact hpool.endSearch _
  case searchFailed => exact h.endSearch _
  all_goals constructor <;> dsimp only [done, raised, applyGenerated, applyRepaired,
    clearRouteAnalysis, clearCommuteAnalysis, clearConstraintAnalysis, dropRoutes, invalidate,
    withRoutes, withRouteReport, withSchedule, withCommute, withConstraints, withContent,
    withValidation, finish, rechecked, installPlan, installRoutes, installSchedule,
    installConstraints, installReplacement, installRefill, settleRoutes, settleSchedule,
    settleConstraints, settleRefill, acceptReplacement, revertRoutes, revertSchedule,
    revertConstraints, revertReplacement, revertRefill, restorePlan, restoreSchedule,
    restoreConstraints, synchronize, skipRoutes, skipSchedule, skipConstraints, skipReplacement,
    endRefill, searchReplacement, searchRefill, RouteOptimization.cleared,
    ScheduleOptimization.cleared, ConstraintOptimization.cleared, CommuteOptimization.cleared,
    ContentRefill.cleared, reduceIte, Bool.false_eq_true]
  all_goals first
    | exact h.plan
    | exact h.route
    | exact h.schedule
    | exact h.constraint
    | exact h.commute
    | exact h.refill
    | exact of_none
    | exact fun _ => of_some (hk.normalized _)
    | skip
  -- what is left is a candidate that goes in, or a baseline that comes back
  case routesReverted.plan hb _ _ | routesStuck.plan hb _ _ =>
    exact fun _ => of_some (h.route _ hb.plan)
  case scheduleReverted.plan hb _ => exact fun _ => of_some (h.schedule _ hb.plan)
  case constraintsReverted.plan hb _ _ _ => exact fun _ => of_some (h.constraint _ hb.plan)
  case replacementReverted.plan hb _ => exact fun _ => of_some (h.commute _ hb.plan)
  case refillReverted.plan hb _ => exact fun _ => of_some (h.refill _ hb.plan)
  case routesInstalled.plan hq _ hc =>
    exact fun _ => of_some (hk.routes _ _ (h.plan _ hq.plan) hc)
  case scheduleInstalled.plan hq _ _ hc =>
    exact fun _ => of_some (hk.schedule _ _ _ (h.plan _ hq.plan) hc)
  case constraintsInstalled.plan hq _ _ _ _ _ hc =>
    exact fun _ => of_some (hk.constraints _ _ _ (h.plan _ hq.plan) hc)
  case replacementInstalled.plan hq _ _ _ _ _ hc =>
    exact fun _ => of_some (hk.replacement _ _ _ (h.plan _ hq.plan) hc)
  case refillInstalled.plan hq _ hn hc =>
    exact fun _ => of_some (hk.refill _ _ hq.plan hn (h.plan _ hq.plan) hc)
  case routesInstalled.route hq _ _ => exact fun _ => of_some (h.plan _ hq.plan)
  case scheduleInstalled.schedule hq _ _ _ => exact fun _ => of_some (h.plan _ hq.plan)
  case constraintsInstalled.constraint hq _ _ _ _ _ _ => exact fun _ => of_some (h.plan _ hq.plan)
  case replacementInstalled.commute hq _ _ _ _ _ _ => exact fun _ => of_some (h.plan _ hq.plan)
  case refillInstalled.refill hq _ _ _ => exact fun _ => of_some (h.plan _ hq.plan)
  case rebuilt.plan hq _ hr =>
    rw [rebuilt_of_ok hr]
    exact fun _ => of_some (hk.rebuilt _ _ _ (h.plan _ hq.plan))

/-- A verdict that is new is the validator's on the plan of the state. -/
theorem effect_verdict {a : AgentAction} {o : Outcome F D} (he : Effect kit s a o)
    {v : TripValidationResult} (hv : o.state.lastValidationResult = some v) :
    s.lastValidationResult = some v ∨
      ∃ p, s.tripPlan = some p ∧ kit.validate (validationInputs s p) = .ok v := by
  by_cases ha : a = .validatePlan
  · subst ha
    cases he with
    | faulted h => exact Or.inl hv
    | retried => exact Or.inl hv
    | outOfTime => exact Or.inl hv
    | gaveUp => exact Or.inl hv
    | approved hq _ _ _ h _ =>
      cases hv
      exact Or.inr ⟨_, hq.plan, h⟩
    | faulty hq _ _ _ h _ _ =>
      cases hv
      exact Or.inr ⟨_, hq.plan, h⟩
    | hopeless hq _ _ _ h _ _ =>
      cases hv
      exact Or.inr ⟨_, hq.plan, h⟩
  · obtain hkeep | hnone := (effect_keeps he).verdict ha
    · exact Or.inl (hkeep.symm.trans hv)
    · cases hnone.symm.trans hv

end TravelAgent.PlanProperties

import TravelAgent.AgentPhases

namespace TravelAgent.Agent

variable {F D : Type} [DecidableEq F] {kit : Kit F D} {s : AgentState F D}

omit [DecidableEq F] in
theorem skipUnless_of_pending {status : OptimizationStatus} (h : status = .candidatePending)
    (wanted : Bool) : status.skipUnless wanted = status := by
  subst h
  rfl

theorem commuteStatusAfter_of_pending (h : s.commute.status = .candidatePending) (f : F)
    (recommended : Bool) : commuteStatusAfter s f recommended = s.commute.status := by
  simp [commuteStatusAfter, h]

/-- What a round keeps: the request, the budget, and the record of a verification
that goes on. Only a validation leaves a new verdict, only the last round ends the run. -/
structure Keeps (a : AgentAction) (s t : AgentState F D) : Prop where
  request : t.request = s.request
  budget : t.budget = s.budget
  verdict : a ≠ .validatePlan → t.lastValidationResult = s.lastValidationResult ∨
    t.lastValidationResult = none
  completed : a ≠ .finish → t.status = .completed → s.status = .completed
  route : s.route.status = .candidatePending → t.route.status = .candidatePending →
    t.route = s.route
  schedule : s.schedule.status = .candidatePending → t.schedule.status = .candidatePending →
    t.schedule = s.schedule
  constraint : s.constraint.status = .candidatePending → t.constraint.status = .candidatePending →
    t.constraint = s.constraint
  commute : s.commute.status = .candidatePending → t.commute.status = .candidatePending →
    t.commute = s.commute
  refill : s.refill.status = .candidatePending → t.refill.status = .candidatePending →
    t.refill = s.refill

omit [DecidableEq F] in
theorem endSearch_keeps {status : SearchingStatus} (hs : status ≠ .candidatePending) :
    Keeps .supplementAttractions s (endSearch s status) := by
  unfold endSearch
  split
  · exact ⟨rfl, rfl, fun _ => .inl rfl, fun _ => id, fun _ _ => rfl, fun _ _ => rfl, fun _ _ => rfl,
      fun _ _ => rfl, nofun⟩
  · exact ⟨rfl, rfl, fun _ => .inl rfl, fun _ => id, fun _ _ => rfl, fun _ _ => rfl, fun _ _ => rfl,
      fun _ h => absurd h hs,
      fun _ _ => rfl⟩

theorem effect_keeps {a : AgentAction} {o : Outcome F D} (he : Effect kit s a o) :
    Keeps a s o.state := by
  have hover (count limit : Nat) := (retryStatus_over count limit).1
  cases he
  case supplemented pool _ _ _ =>
    have hend : Keeps _ (invalidate { s with attractions := some pool } [.constraints, .validation])
        (endSearch _ .notStarted) := endSearch_keeps (by decide)
    exact ⟨hend.request, hend.budget, hend.verdict, hend.completed, hend.route, hend.schedule,
      hend.constraint, hend.commute, hend.refill⟩
  case searchFailed => exact endSearch_keeps (by decide)
  -- a record that changes while its candidate waits is one that stops waiting
  all_goals constructor <;> dsimp only [done, raised, applyGenerated, applyRepaired, clearRouteAnalysis,
    clearCommuteAnalysis, clearConstraintAnalysis, dropRoutes, invalidate, withRoutes,
    withRouteReport, withSchedule, withCommute, withConstraints, withContent, withValidation, finish,
    rechecked, installPlan, installRoutes, installSchedule, installConstraints, installReplacement,
    installRefill, settleRoutes, settleSchedule, settleConstraints, settleRefill, acceptReplacement,
    revertRoutes, revertSchedule, revertConstraints, revertReplacement, revertRefill, restorePlan,
    restoreSchedule, restoreConstraints, synchronize, skipRoutes, skipSchedule, skipConstraints,
    skipReplacement, endRefill, searchReplacement, searchRefill, reduceIte, Bool.false_eq_true]
  all_goals first
    | exact fun _ => .inl rfl
    | exact fun _ => .inr rfl
    | exact fun _ => id
    | exact fun ha => absurd rfl ha
    | exact fun _ _ => rfl
    | exact fun _ ho => absurd ho (by decide)
    | exact fun h _ => by rw [skipUnless_of_pending h]
    | exact fun _ ho => absurd ho (hover _ _)
    | skip
  case unscored.completed hf | untimed.completed hf =>
    intro _ hs
    obtain ⟨rfl, -⟩ | ⟨rfl, -⟩ | ⟨rfl, -⟩ := hf
    · exact hs
    · cases hs
    · cases hs
  case generated.commute | repaired.commute | routesInstalled.commute | scheduleInstalled.commute |
      constraintsInstalled.commute | refillInstalled.commute => exact fun _ ho => nomatch ho
  case routesReverted.schedule => exact fun _ ho => absurd (skipUnless_pending ho) (by decide)
  case routesInstalled.route hw _ =>
    intro h
    rw [wanted_notStarted hw] at h
    cases h
  case commuteEvaluated.commute =>
    intro h _
    rw [commuteStatusAfter_of_pending h]
  case scheduleInstalled.schedule hq _ _ _ => exact fun h => absurd h hq.scheduleNotPending
  case constraintsUnsolved.constraint hq _ _ _ _ => exact fun h => absurd h hq.constraintNotPending
  case constraintsInstalled.constraint hq _ _ _ _ _ _ =>
    exact fun h => absurd h hq.constraintNotPending
  case replacementAccepted.commute =>
    intro _ ho
    split at ho
    · exact absurd ho (hover _ _)
    · cases ho
  case replacementInstalled.commute hn _ _ =>
    intro h
    rw [hn] at h
    cases h
  case refillInstalled.refill hq _ _ _ => exact fun h => absurd h hq.refillNotPending

end TravelAgent.Agent

import TravelAgent.AgentFrames

namespace TravelAgent.Agent

open TravelAgent.Itinerary TravelAgent.ContentRebuild TravelAgent.Transition

variable {F D : Type}

/-- The five optimizers that propose a candidate and verify it later. -/
inductive Optimizer where
  | route
  | schedule
  | constraint
  | commute
  | refill
deriving DecidableEq, Repr

def Optimizer.action : Optimizer → AgentAction
  | .route => .optimizeRoutes
  | .schedule => .optimizeSchedule
  | .constraint => .optimizeConstraints
  | .commute => .replaceRemoteAttraction
  | .refill => .refillAttractions

def Optimizer.pending (x : Optimizer) (s : AgentState F D) : Prop :=
  match x with
  | .route => s.route.status = .candidatePending
  | .schedule => s.schedule.status = .candidatePending
  | .constraint => s.constraint.status = .candidatePending
  | .commute => s.commute.status = .candidatePending
  | .refill => s.refill.status = .candidatePending

instance Optimizer.decidablePending (x : Optimizer) (s : AgentState F D) : Decidable (x.pending s) :=
  match x with
  | .route => inferInstanceAs (Decidable (s.route.status = .candidatePending))
  | .schedule => inferInstanceAs (Decidable (s.schedule.status = .candidatePending))
  | .constraint => inferInstanceAs (Decidable (s.constraint.status = .candidatePending))
  | .commute => inferInstanceAs (Decidable (s.commute.status = .candidatePending))
  | .refill => inferInstanceAs (Decidable (s.refill.status = .candidatePending))

/-- Whether the constraint report is part of the baseline. -/
def Optimizer.savesConstraints : Optimizer → Bool
  | .constraint | .commute | .refill => true
  | _ => false

/-- What a rejection gives back. -/
structure RolledBack (x : Optimizer) (before after : AgentState F D) : Prop where
  plan : after.tripPlan = before.tripPlan
  routes : after.routeEstimates = before.routeEstimates
  fingerprint : after.routePlanFingerprint = before.routePlanFingerprint
  quality : after.routeQualityReport = before.routeQualityReport
  schedule : after.scheduleQualityReport = before.scheduleQualityReport
  constraints : x.savesConstraints = true → after.constraintReport = before.constraintReport
  commutes : x = .commute → after.commuteReport = before.commuteReport

variable [DecidableEq F]

/-- The state in which an optimizer looks for a candidate or verifies it: a report
that is not about the plan has been made anew. -/
def refreshed (kit : Kit F D) (s : AgentState F D) (x : Optimizer) : AgentState F D :=
  match s.tripPlan with
  | none => s
  | some plan =>
    match x with
    | .route => ((currentRouteQuality kit s plan).map (·.2)).toOption.getD s
    | .schedule => ((currentSchedule kit s plan).map (·.2)).toOption.getD s
    | .constraint => ((currentConstraints kit s plan).map (·.2)).toOption.getD s
    | .commute | .refill => s

/-- The verdict of a verification, read off the state it looks at. -/
def Optimizer.accepts (kit : Kit F D) (x : Optimizer) (s : AgentState F D) : Bool :=
  match x with
  | .route =>
    match s.route.baselineQuality, s.routeQualityReport with
    | some before, some after => isRouteQualityImprovement kit before after
    | _, _ => false
  | .schedule =>
    match s.schedule.baselineQuality, s.scheduleQualityReport, s.schedule.baselineRouteQuality,
      s.routeQualityReport with
    | some before, some after, some qualityBefore, some qualityAfter =>
      acceptsSchedule kit before after qualityBefore qualityAfter
    | _, _, _, _ => false
  | .constraint =>
    match s.constraint.baselineReport, s.constraintReport, s.constraint.baselineRouteQuality,
      s.routeQualityReport, s.constraint.baselineSchedule, s.scheduleQualityReport with
    | some before, some after, some qualityBefore, some qualityAfter, some scheduleBefore,
      some scheduleAfter =>
      acceptsConstraints kit before after qualityBefore qualityAfter scheduleBefore scheduleAfter
    | _, _, _, _, _, _ => false
  | .commute =>
    match s.tripPlan, s.commute.baselinePlan, s.routeQualityReport, s.commute.baselineRouteQuality,
      s.commuteReport, s.commute.baselineReport, s.scheduleQualityReport, s.constraintReport,
      s.commute.candidate with
    | some plan, some baselinePlan, some quality, some baselineQuality, some report,
      some baselineReport, some timeline, some constraints, some candidate =>
      acceptsReplacement plan baselinePlan quality baselineQuality report baselineReport timeline
        constraints candidate
    | _, _, _, _, _, _, _, _, _ => false
  | .refill =>
    match s.tripPlan, s.routeQualityReport, s.refill.baselineRouteQuality, s.scheduleQualityReport,
      s.constraintReport with
    | some plan, some quality, some baselineQuality, some timeline, some constraints =>
      acceptsRefill s plan quality baselineQuality timeline constraints
    | _, _, _, _, _ => false

variable {kit : Kit F D} {s : AgentState F D}

/-- What the record of a pending candidate has kept of the state before. The route
optimizer keeps no timeline: it is built again from the same inputs. -/
def Optimizer.saved (kit : Kit F D) (x : Optimizer) (before s : AgentState F D) : Prop :=
  match x with
  | .route =>
    s.route.baselinePlan = before.tripPlan ∧ s.route.baselineRoutes = before.routeEstimates ∧
      s.route.baselineQuality = before.routeQualityReport ∧
      s.route.baselineFingerprint = before.routePlanFingerprint ∧
      ∀ p r, before.tripPlan = some p → before.routeEstimates = some r →
        before.scheduleQualityReport = (kit.evaluateSchedule before.request p r).toOption
  | .schedule =>
    s.schedule.baselinePlan = before.tripPlan ∧ s.schedule.baselineRoutes = before.routeEstimates ∧
      s.schedule.baselineRouteQuality = before.routeQualityReport ∧
      s.schedule.baselineQuality = before.scheduleQualityReport ∧
      s.schedule.baselineFingerprint = before.routePlanFingerprint
  | .constraint =>
    s.constraint.baselinePlan = before.tripPlan ∧
      s.constraint.baselineRoutes = before.routeEstimates ∧
      s.constraint.baselineRouteQuality = before.routeQualityReport ∧
      s.constraint.baselineSchedule = before.scheduleQualityReport ∧
      s.constraint.baselineReport = before.constraintReport ∧
      before.routePlanFingerprint = before.tripPlan.map (routeFingerprint kit before.request)
  | .commute =>
    s.commute.baselinePlan = before.tripPlan ∧ s.commute.baselineRoutes = before.routeEstimates ∧
      s.commute.baselineRouteQuality = before.routeQualityReport ∧
      s.commute.baselineReport = before.commuteReport ∧
      s.commute.baselineSchedule = before.scheduleQualityReport ∧
      s.commute.baselineConstraintReport = before.constraintReport ∧
      s.commute.baselineRouteFingerprint = before.routePlanFingerprint
  | .refill =>
    s.refill.baselinePlan = before.tripPlan ∧ s.refill.baselineRoutes = before.routeEstimates ∧
      s.refill.baselineRouteQuality = before.routeQualityReport ∧
      s.refill.baselineSchedule = before.scheduleQualityReport ∧
      s.refill.baselineConstraintReport = before.constraintReport ∧
      s.refill.baselineRouteFingerprint = before.routePlanFingerprint

section Refreshed

variable {p : TripPlan} {r : RouteEstimateResult F D} {q : RouteQualityReport D}

theorem refreshed_route (hI : Phased kit s) (hq : Scored kit s p r q) :
    refreshed kit s .route = s := by
  simp only [refreshed, hq.plan, currentRouteQuality_scored hI hq, Except.map, Except.toOption,
    Option.getD_some]

theorem refreshed_schedule (hI : Phased kit s) (hq : RouteSettled kit s p r q)
    {t : ScheduleQualityReport D} (ht : Timely kit s p t) : refreshed kit s .schedule = s := by
  simp only [refreshed, hq.plan, currentSchedule_timely hI hq ht, Except.map, Except.toOption,
    Option.getD_some]

theorem refreshed_constraint {k : TripConstraintReport F D} {u : AgentState F D}
    (hp : s.tripPlan = some p) (hu : currentConstraints kit s p = .ok (k, u)) :
    refreshed kit s .constraint = u := by
  simp only [refreshed, hp, hu, Except.map, Except.toOption, Option.getD_some]

theorem refreshed_commute : refreshed kit s .commute = s := by
  unfold refreshed
  split <;> rfl

theorem refreshed_refill : refreshed kit s .refill = s := by
  unfold refreshed
  split <;> rfl

end Refreshed

section Installed

variable {o : Outcome F D}

theorem route_installed (hI : Phased kit s) (he : Effect kit s .optimizeRoutes o)
    (hn : s.route.status ≠ .candidatePending) (hp : o.state.route.status = .candidatePending) :
    Optimizer.route.saved kit (refreshed kit s .route) o.state ∧
      (refreshed kit s .route).request = s.request := by
  cases he with
  | faulted h => exact absurd hp hn
  | retried => exact absurd hp hn
  | outOfTime => exact absurd hp hn
  | gaveUp => exact absurd hp hn
  | routesAccepted hq h hb ha => exact absurd h hn
  | routesReverted hq h hb ha ht => exact absurd h hn
  | routesStuck hq h hb ha ht => exact absurd h hn
  | routesSkipped hq h => cases hp
  | routesInstalled hq h hc =>
    rw [refreshed_route hI hq]
    refine ⟨⟨hq.plan.symm, hq.routes.symm, hq.quality.symm, hq.fingerprint.symm, ?_⟩, rfl⟩
    intro p r hp hr
    exact (hI.untried (wanted_notStarted h) p r _ hp hr hq.quality).2.2

theorem schedule_installed (hI : Phased kit s) (he : Effect kit s .optimizeSchedule o)
    (hn : s.schedule.status ≠ .candidatePending)
    (hp : o.state.schedule.status = .candidatePending) :
    Optimizer.schedule.saved kit (refreshed kit s .schedule) o.state ∧
      (refreshed kit s .schedule).request = s.request := by
  cases he with
  | faulted h => exact absurd hp hn
  | retried => exact absurd hp hn
  | outOfTime => exact absurd hp hn
  | gaveUp => exact absurd hp hn
  | scheduleAccepted hq ht h hb ha => exact absurd h hn
  | scheduleReverted hq ht h hb ha => exact absurd h hn
  | scheduleSkipped hq h => cases hp
  | scheduleInstalled hq h hl hc =>
    rw [refreshed_schedule hI hq.toRouteSettled hq.toTimely]
    exact ⟨⟨hq.plan.symm, hq.routes.symm, hq.quality.symm, hq.report.symm, hq.fingerprint.symm⟩,
      rfl⟩

theorem constraint_installed (he : Effect kit s .optimizeConstraints o)
    (hn : s.constraint.status ≠ .candidatePending)
    (hp : o.state.constraint.status = .candidatePending) :
    Optimizer.constraint.saved kit (refreshed kit s .constraint) o.state ∧
      (refreshed kit s .constraint).request = s.request := by
  cases he with
  | faulted h => exact absurd hp hn
  | retried => exact absurd hp hn
  | outOfTime => exact absurd hp hn
  | gaveUp => exact absurd hp hn
  | constraintsAccepted hq ht hk h hb hs hu ha => exact absurd h hn
  | constraintsReverted hq ht hk h hb hs hu ha => exact absurd h hn
  | constraintsSkipped hq hk h hs hu => cases hp
  | constraintsUnsolved hq hk h hs hu =>
    obtain rfl | ⟨-, rfl⟩ := hs
    · exact absurd hp hn
    · cases hp
  | constraintsInstalled hq hk h hs hu hl hc =>
    rw [refreshed_constraint hq.plan hu]
    refine ⟨⟨hq.plan.symm, hq.routes.symm, hq.quality.symm, hq.report.symm, rfl, ?_⟩, rfl⟩
    dsimp only [rechecked]
    rw [hq.plan, hq.fingerprint]
    rfl

theorem commute_installed (he : Effect kit s .replaceRemoteAttraction o)
    (hn : s.commute.status ≠ .candidatePending)
    (hp : o.state.commute.status = .candidatePending) :
    Optimizer.commute.saved kit (refreshed kit s .commute) o.state ∧
      (refreshed kit s .commute).request = s.request := by
  cases he with
  | faulted h => exact absurd hp hn
  | retried => exact absurd hp hn
  | outOfTime => exact absurd hp hn
  | gaveUp => exact absurd hp hn
  | replacementAccepted hq hm ht hk h hb ha => exact absurd h hn
  | replacementReverted hq hm ht hk h hb ha => exact absurd h hn
  | replacementSkipped hq hm ht hk h => cases hp
  | replacementSearched hq hm ht hk h hl => cases hp
  | replacementInstalled hq hm ht hk h hl hc =>
    rw [refreshed_commute]
    exact ⟨⟨hq.plan.symm, hq.routes.symm, hq.quality.symm, hm.report.symm, ht.report.symm,
      hk.report.symm, hq.fingerprint.symm⟩, rfl⟩

theorem refill_installed (he : Effect kit s .refillAttractions o)
    (hn : s.refill.status ≠ .candidatePending)
    (hp : o.state.refill.status = .candidatePending) :
    Optimizer.refill.saved kit (refreshed kit s .refill) o.state ∧
      (refreshed kit s .refill).request = s.request := by
  cases he with
  | faulted h => exact absurd hp hn
  | retried => exact absurd hp hn
  | outOfTime => exact absurd hp hn
  | gaveUp => exact absurd hp hn
  | refillAccepted hq ht hk h hb ha => exact absurd h hn
  | refillReverted hq ht hk h hb ha => exact absurd h hn
  | refillSkipped hq hk h => cases hp
  | refillSearched hq hk h hl => cases hp
  | refillInstalled hq hk h hc =>
    rw [refreshed_refill]
    exact ⟨⟨hq.plan.symm, hq.routes.symm, hq.quality.symm, hq.report.symm, hk.report.symm,
      hq.fingerprint.symm⟩, rfl⟩

end Installed

section Rejected

variable {before : AgentState F D} {o : Outcome F D}

theorem route_rejected (hI : Phased kit s) (he : Effect kit s .optimizeRoutes o)
    (hp : s.route.status = .candidatePending) (hok : o.result = .ok true)
    (hv : Optimizer.route.accepts kit (refreshed kit s .route) = false)
    (hs : Optimizer.route.saved kit before s) (hr : s.request = before.request) :
    RolledBack .route before o.state := by
  cases he with
  | faulted h => cases hok
  | retried => cases hok
  | outOfTime => cases hok
  | gaveUp => cases hok
  | routesAccepted hq h hb ha =>
    rw [refreshed_route hI hq] at hv
    simp only [Optimizer.accepts, hb.quality, hq.quality, ha] at hv
    cases hv
  | routesReverted hq h hb ha ht =>
    obtain ⟨hplan, hroutes, hquality, hfingerprint, htimeline⟩ := hs
    rw [hb.plan] at hplan
    rw [hb.routes] at hroutes
    rw [hb.quality] at hquality
    rw [hb.fingerprint] at hfingerprint
    have hschedule := htimeline _ _ hplan.symm hroutes.symm
    rw [← hr, ht] at hschedule
    exact ⟨hplan, hroutes, hfingerprint, hquality, hschedule.symm, nofun, nofun⟩
  | routesStuck hq h hb ha ht => cases hok
  | routesSkipped hq h =>
    rw [wanted_notStarted h] at hp
    cases hp
  | routesInstalled hq h hc =>
    rw [wanted_notStarted h] at hp
    cases hp

theorem schedule_rejected (hI : Phased kit s) (he : Effect kit s .optimizeSchedule o)
    (hp : s.schedule.status = .candidatePending) (hok : o.result = .ok true)
    (hv : Optimizer.schedule.accepts kit (refreshed kit s .schedule) = false)
    (hs : Optimizer.schedule.saved kit before s) : RolledBack .schedule before o.state := by
  cases he with
  | faulted h => cases hok
  | retried => cases hok
  | outOfTime => cases hok
  | gaveUp => cases hok
  | scheduleAccepted hq ht h hb ha =>
    rw [refreshed_schedule hI hq ht] at hv
    simp only [Optimizer.accepts, hb.quality, hb.routeQuality, hq.quality, ht.report, ha] at hv
    cases hv
  | scheduleReverted hq ht h hb ha =>
    obtain ⟨hplan, hroutes, hquality, hschedule, hfingerprint⟩ := hs
    rw [hb.plan] at hplan
    rw [hb.routes] at hroutes
    rw [hb.routeQuality] at hquality
    rw [hb.quality] at hschedule
    rw [hb.fingerprint] at hfingerprint
    exact ⟨hplan, hroutes, hfingerprint, hquality, hschedule, nofun, nofun⟩
  | scheduleSkipped hq h => exact absurd hp hq.scheduleNotPending
  | scheduleInstalled hq h hl hc => exact absurd hp hq.scheduleNotPending

theorem constraint_rejected (he : Effect kit s .optimizeConstraints o)
    (hp : s.constraint.status = .candidatePending) (hok : o.result = .ok true)
    (hv : Optimizer.constraint.accepts kit (refreshed kit s .constraint) = false)
    (hs : Optimizer.constraint.saved kit before s) (hr : s.request = before.request) :
    RolledBack .constraint before o.state := by
  cases he with
  | faulted h => cases hok
  | retried => cases hok
  | outOfTime => cases hok
  | gaveUp => cases hok
  | constraintsAccepted hq ht hk h hb hs hu ha =>
    rw [refreshed_constraint hq.plan hu] at hv
    simp only [Optimizer.accepts, rechecked, hb.report, hb.routeQuality, hb.schedule, hq.quality,
      ht.report, ha] at hv
    cases hv
  | constraintsReverted hq ht hk h hb _ hu ha =>
    obtain ⟨hplan, hroutes, hquality, hschedule, hreport, hfingerprint⟩ := hs
    rw [hb.plan] at hplan
    rw [hb.routes] at hroutes
    rw [hb.routeQuality] at hquality
    rw [hb.schedule] at hschedule
    rw [hb.report] at hreport
    rw [← hplan, ← hr] at hfingerprint
    exact ⟨hplan, hroutes, hfingerprint.symm, hquality, hschedule, fun _ => hreport, (by rintro ⟨⟩)⟩
  | constraintsSkipped hq hk h hs hu => exact absurd hp hq.constraintNotPending
  | constraintsUnsolved hq hk h hs hu => cases hok
  | constraintsInstalled hq hk h hs hu hl hc => exact absurd hp hq.constraintNotPending

theorem commute_rejected (he : Effect kit s .replaceRemoteAttraction o)
    (hp : s.commute.status = .candidatePending) (hok : o.result = .ok true)
    (hv : Optimizer.commute.accepts kit (refreshed kit s .commute) = false)
    (hs : Optimizer.commute.saved kit before s) : RolledBack .commute before o.state := by
  cases he with
  | faulted h => cases hok
  | retried => cases hok
  | outOfTime => cases hok
  | gaveUp => cases hok
  | replacementAccepted hq hm ht hk h hb ha =>
    rw [refreshed_commute] at hv
    simp only [Optimizer.accepts, hq.plan, hq.quality, hm.report, ht.report, hk.report, hb.plan,
      hb.routeQuality, hb.report, hb.candidate, ha] at hv
    cases hv
  | replacementReverted hq hm ht hk h hb ha =>
    obtain ⟨hplan, hroutes, hquality, hreport, hschedule, hconstraints, hfingerprint⟩ := hs
    rw [hb.plan] at hplan
    rw [hb.routes] at hroutes
    rw [hb.routeQuality] at hquality
    rw [hb.report] at hreport
    rw [hb.schedule] at hschedule
    rw [hb.constraints] at hconstraints
    rw [hb.fingerprint] at hfingerprint
    exact ⟨hplan, hroutes, hfingerprint, hquality, hschedule, fun _ => hconstraints,
      fun _ => hreport⟩
  | replacementSkipped hq hm ht hk h =>
    rw [h] at hp
    cases hp
  | replacementSearched hq hm ht hk h hl =>
    rw [h] at hp
    cases hp
  | replacementInstalled hq hm ht hk h hl hc =>
    rw [h] at hp
    cases hp

theorem refill_rejected (he : Effect kit s .refillAttractions o)
    (hp : s.refill.status = .candidatePending) (hok : o.result = .ok true)
    (hv : Optimizer.refill.accepts kit (refreshed kit s .refill) = false)
    (hs : Optimizer.refill.saved kit before s) : RolledBack .refill before o.state := by
  cases he with
  | faulted h => cases hok
  | retried => cases hok
  | outOfTime => cases hok
  | gaveUp => cases hok
  | refillAccepted hq ht hk h hb ha =>
    rw [refreshed_refill] at hv
    simp only [Optimizer.accepts, hq.plan, hq.quality, ht.report, hk.report, hb.routeQuality,
      ha] at hv
    cases hv
  | refillReverted hq ht hk h hb ha =>
    obtain ⟨hplan, hroutes, hquality, hschedule, hconstraints, hfingerprint⟩ := hs
    rw [hb.plan] at hplan
    rw [hb.routes] at hroutes
    rw [hb.routeQuality] at hquality
    rw [hb.schedule] at hschedule
    rw [hb.constraints] at hconstraints
    rw [hb.fingerprint] at hfingerprint
    exact ⟨hplan, hroutes, hfingerprint, hquality, hschedule, fun _ => hconstraints, nofun⟩
  | refillSkipped hq hk h => exact absurd hp hq.refillNotPending
  | refillSearched hq hk h hl => exact absurd hp hq.refillNotPending
  | refillInstalled hq hk h hc => exact absurd hp hq.refillNotPending

end Rejected

omit [DecidableEq F] in
theorem Keeps.saved {a : AgentAction} {t before : AgentState F D} {x : Optimizer}
    (hk : Keeps a s t) (hs : x.pending s)
    (ht : x.pending t) (h : x.saved kit before s) : x.saved kit before t := by
  cases x with
  | route =>
    simp only [Optimizer.saved, hk.route hs ht] at h ⊢
    exact h
  | schedule =>
    simp only [Optimizer.saved, hk.schedule hs ht] at h ⊢
    exact h
  | constraint =>
    simp only [Optimizer.saved, hk.constraint hs ht] at h ⊢
    exact h
  | commute =>
    simp only [Optimizer.saved, hk.commute hs ht] at h ⊢
    exact h
  | refill =>
    simp only [Optimizer.saved, hk.refill hs ht] at h ⊢
    exact h

theorem step_keeps {t : AgentState F D} {reply : ToolReply F D} (hI : Phased kit s)
    (h : step kit s reply = some t) : ∃ a, Keeps a s t := by
  obtain ⟨-, a, ha, rfl⟩ := step_some kit h
  refine ⟨a, ?_⟩
  exact effect_keeps (execute_effect hI (decide_chosen ha) reply)

/-- While the candidate waits, its record keeps the state before. -/
theorem run_saved {t u before : AgentState F D} {x : Optimizer} {later : List (ToolReply F D)}
    (hI : Phased kit t) (hl : Always (step kit) x.pending t later)
    (hu : run (step kit) t later = some u) (hs : x.saved kit before t)
    (hr : t.request = before.request) :
    Phased kit u ∧ x.pending u ∧ x.saved kit before u ∧ u.request = before.request := by
  induction later generalizing t with
  | nil =>
    cases hu
    exact ⟨hI, hl, hs, hr⟩
  | cons reply later ih =>
    obtain ⟨v, hv, hu⟩ := run_cons hu
    obtain ⟨a, hk⟩ := step_keeps hI hv
    have hlater := hl.2 v hv
    exact ih (step_phased hI hv) hlater hu (hk.saved hl.1 (always_head hlater) hs)
      (hk.request.trans hr)

theorem installed_saved (hI : Phased kit s) {x : Optimizer} {o : Outcome F D}
    (he : Effect kit s x.action o) (hn : ¬x.pending s) (hp : x.pending o.state) :
    x.saved kit (refreshed kit s x) o.state ∧ (refreshed kit s x).request = s.request := by
  cases x with
  | route => exact route_installed hI he hn hp
  | schedule => exact schedule_installed hI he hn hp
  | constraint => exact constraint_installed he hn hp
  | commute => exact commute_installed he hn hp
  | refill => exact refill_installed he hn hp

theorem rejected_rolledBack (hI : Phased kit s) {x : Optimizer} {before : AgentState F D}
    {o : Outcome F D} (he : Effect kit s x.action o) (hp : x.pending s) (hok : o.result = .ok true)
    (hv : x.accepts kit (refreshed kit s x) = false) (hs : x.saved kit before s)
    (hr : s.request = before.request) : RolledBack x before o.state := by
  cases x with
  | route => exact route_rejected hI he hp hok hv hs hr
  | schedule => exact schedule_rejected hI he hp hok hv hs
  | constraint => exact constraint_rejected he hp hok hv hs hr
  | commute => exact commute_rejected he hp hok hv hs
  | refill => exact refill_rejected he hp hok hv hs

/-- From whichever state a candidate goes in, and whatever happens while it waits:
a verification that rejects it gives back the plan, the routes and the reports. -/
theorem rejected_candidates_roll_back (kit : Kit F D) (request : TripRequest)
    (budget : ExecutionBudget) (replies : List (ToolReply F D)) (s : AgentState F D)
    (hs : run (step kit) (AgentState.create request budget) replies = some s) (x : Optimizer)
    (hd : decideNextAction kit s = .ok x.action) (hn : ¬x.pending s) (reply : ToolReply F D)
    (later : List (ToolReply F D)) (u : AgentState F D)
    (hl : Always (step kit) x.pending (executeAction kit s x.action reply).state later)
    (hu : run (step kit) (executeAction kit s x.action reply).state later = some u)
    (hv : decideNextAction kit u = .ok x.action) (verdict : ToolReply F D)
    (hok : (executeAction kit u x.action verdict).result = .ok true)
    (hr : x.accepts kit (refreshed kit u x) = false) :
    RolledBack x (refreshed kit s x) (executeAction kit u x.action verdict).state := by
  have hI := run_phased hs
  have he := execute_effect hI (decide_chosen hd) reply
  obtain ⟨hsaved, hsame⟩ := installed_saved hI he hn (always_head hl)
  have hrequest := (effect_keeps he).request.trans hsame.symm
  obtain ⟨hIu, hp, hsaved, hrequest⟩ := run_saved (effect_phased hI he) hl hu hsaved hrequest
  exact rejected_rolledBack hIu (execute_effect hIu (decide_chosen hv) verdict) hp hok hr hsaved
    hrequest

theorem reordered_day_rolls_back :
    ∃ s u, run (step reorderingKit) (AgentState.create drivingTrip {}) preparations = some s ∧
      run (step reorderingKit)
        (executeAction reorderingKit s .optimizeRoutes (.failure .giveUp)).state
        [.success (.routes ⟨(), [], ()⟩) .giveUp] = some u ∧
      RolledBack .route (refreshed reorderingKit s .route)
        (executeAction reorderingKit u .optimizeRoutes (.failure .giveUp)).state := by
  refine ⟨_, _, rfl, rfl, ?_⟩
  apply rejected_candidates_roll_back reorderingKit drivingTrip {} preparations _ rfl .route rfl
    (of_decide_eq_false rfl) (.failure .giveUp) [.success (.routes ⟨(), [], ()⟩) .giveUp] _ ?_ rfl rfl
    (.failure .giveUp) rfl rfl
  refine ⟨of_decide_eq_true rfl, ?_⟩
  intro t ht
  obtain rfl := Option.some.inj ht
  unfold Always
  exact of_decide_eq_true rfl

end TravelAgent.Agent

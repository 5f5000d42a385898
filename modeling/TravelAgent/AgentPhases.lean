import TravelAgent.PhaseInvariant

namespace TravelAgent.Agent

open TravelAgent.Itinerary TravelAgent.ContentRebuild TravelAgent.Transition

variable {F D : Type} {kit : Kit F D} {s : AgentState F D}

theorem rebuild_fingerprint [DecidableEq F] {rb : Rebuilder} {p rebuilt : TripPlan}
    {routes : List RouteEstimate}
    (h : rebuildPlanContent kit.routeDigest rb s.request (some p) (some routes) = .ok rebuilt) :
    routeFingerprint kit s.request rebuilt = routeFingerprint kit s.request p := by
  unfold rebuildPlanContent at h
  dsimp only at h
  split at h
  · obtain rfl := Except.ok.inj h
    assumption
  · cases h

section Rounds

variable [DecidableEq F]

theorem searchAsked_planned (hs : SearchAsked kit s) : s.tripPlan ≠ none := by
  obtain ⟨p, r, hr, -⟩ | ⟨p, r, q, hq, -⟩ := hs
  · rw [hr.plan]
    nofun
  · rw [hq.plan]
    nofun

theorem effect_phased (hI : Phased kit s) {a : AgentAction} {o : Outcome F D}
    (he : Effect kit s a o) : Phased kit o.state := by
  cases he with
  | faulted h => exact hI
  | retried => exact hI
  | outOfTime => exact hI.frame rfl
  | gaveUp => exact hI.frame rfl
  | attractions h => exact hI.frame rfl
  | weather h => exact hI.frame rfl
  | hotels h => exact hI.frame rfl
  | generated hf h =>
    have hn := hI.unplanned h
    exact phased_cleared (by rw [hn]; nofun) (by rw [hn]; nofun) _ _
  | unscored hr hq hf => exact (phased_withRoutes hI hr hq).frame rfl
  | untimed hr hq ht hf => exact (phased_scored hI hr (by rw [ht]; rfl) _).frame rfl
  | routed hr hq ht => exact phased_routed hI hr ht _
  | supplemented hs hq hm =>
    have hp := searchAsked_planned hs
    apply phased_endSearch
    · exact hI.frame rfl
    · exact hp
    · decide
  | searchFailed hs hq => exact phased_endSearch hI (searchAsked_planned hs) (by decide)
  | restaurants hq hf h => exact hI.frame rfl
  | repaired hq hk h => exact phased_repaired hq.notSearching hq.refillNotPending _
  | routesAccepted hq h hb ha => exact phased_settleRoutes hI hq hb ha
  | routesReverted hq h hb ha ht => exact phased_revertedRoutes hI hb _
  | routesStuck hq h hb ha ht => exact phased_revertRoutes hI h hb
  | routesSkipped hq h => exact phased_skipRoutes hI h
  | routesInstalled hq h hc => exact phased_installRoutes hI hq h _
  | commuteEvaluated hq h hc => exact phased_withCommute hI _ _
  | scheduleEvaluated hq h ht => exact phased_withSchedule hI hq _
  | constraintsEvaluated hq hs ht h hk => exact phased_withConstraints hI _ _
  | scheduleAccepted hq ht h hb ha => exact phased_settleSchedule hI
  | scheduleReverted hq ht h hb ha => exact phased_revertSchedule hI hq hb.estimates _
  | scheduleSkipped hq h => exact phased_skipSchedule hI
  | scheduleInstalled hq h hn hc => exact phased_installSchedule hI hq _
  | constraintsAccepted hq ht hk h hb hs hu ha =>
    exact phased_settleConstraints (phased_rechecked hI hs _ _)
  | constraintsReverted hq ht hk h hb hs hu ha =>
    exact phased_revertConstraints (phased_rechecked hI hs _ _) (hq.routeStarted hI) hb.estimates
      _ _ _
  | constraintsSkipped hq hk h hs hu => exact phased_skipConstraints (phased_rechecked hI hs _ _)
  | constraintsUnsolved hq hk h hs hu => exact phased_rechecked hI hs _ _
  | constraintsInstalled hq hk h hs hu hn hc => exact phased_installConstraints hI hq _ _ _ _
  | replacementAccepted hq hm ht hk h hb ha => exact phased_acceptReplacement hI h _
  | replacementReverted hq hm ht hk h hb ha =>
    exact phased_revertReplacement hI (hq.routeStarted hI) h hb.estimates _ _ _ _ _
  | replacementSkipped hq hm ht hk h => exact phased_skipReplacement hI h
  | replacementSearched hq hm ht hk h hn => exact phased_searchReplacement hI hq.notSearching _
  | replacementInstalled hq hm ht hk h hn hc => exact phased_installReplacement hI hq h _ _
  | refillAccepted hq ht hk h hb ha =>
    exact phased_settleRefill hI hq.plan hq.notSearching (by decide) _
  | refillReverted hq ht hk h hb ha =>
    exact phased_revertRefill hI (hq.routeStarted hI) h hb.estimates _ _ _ _
  | refillSkipped hq hk h => exact phased_endRefill hI hq.plan hq.notSearching
  | refillSearched hq hk h hn => exact phased_searchRefill hI hq.plan hq.commuteNotSearching _
  | refillInstalled hq hk h hc => exact phased_installRefill hI hq _
  | rebuilt hq h hr => exact phased_withContent hI hq.toRouteSettled (rebuild_fingerprint hr)
  | approved hq hk hp hc h ha => exact hI.frame rfl
  | faulty hq hk hp hc h ha hr => exact hI.frame rfl
  | hopeless hq hk hp hc h ha hr => exact hI.frame rfl
  | finished hq hk hp h => exact hI.frame rfl

omit [DecidableEq F] in
theorem create_phased (request : TripRequest) (budget : ExecutionBudget) :
    Phased kit (AgentState.create request budget) :=
  ⟨nofun, nofun, nofun, nofun, nofun, searching_none nofun, .of_none nofun nofun nofun nofun,
    ⟨rfl, rfl⟩, nofun, nofun, fun _ => rfl⟩

theorem step_phased {t : AgentState F D} {reply : ToolReply F D} (hI : Phased kit s)
    (h : step kit s reply = some t) : Phased kit t := by
  obtain ⟨-, a, ha, rfl⟩ := step_some kit h
  exact effect_phased hI (execute_effect hI (decide_chosen ha) reply)

theorem run_phased {request : TripRequest} {budget : ExecutionBudget} {replies : List (ToolReply F D)}
    (h : run (step kit) (AgentState.create request budget) replies = some s) : Phased kit s :=
  run_invariant (fun _ _ _ => step_phased) (create_phased request budget) h

/-- The data that a verification asks for are there, whatever a round comes to. -/
theorem effect_missing {a : AgentAction} {o : Outcome F D} (he : Effect kit s a o) (m : Missing) :
    o.result ≠ .error (.escaped (.missing m)) := by
  cases he with
  | faulted h =>
    intro he
    exact h m (Stop.escaped.inj (Except.error.inj he))
  | unscored hr hq hf => obtain ⟨-, rfl⟩ | ⟨-, rfl⟩ | ⟨-, rfl⟩ := hf <;> nofun
  | untimed hr hq ht hf => obtain ⟨-, rfl⟩ | ⟨-, rfl⟩ | ⟨-, rfl⟩ := hf <;> nofun
  | _ => nofun

end Rounds

/-- How many of the five optimizers wait for a verification. -/
def pendingCount (s : AgentState F D) : Nat :=
  [s.route.status == .candidatePending, s.schedule.status == .candidatePending,
    s.constraint.status == .candidatePending, s.commute.status == .candidatePending,
    s.refill.status == .candidatePending].count true

/-- The fields that the verification of a candidate reads. -/
def RouteOptimization.verifiable (o : RouteOptimization F D) : Prop :=
  o.candidate.isSome ∧ o.baselinePlan.isSome ∧ o.baselineRoutes.isSome ∧ o.baselineQuality.isSome ∧
    o.baselineFingerprint.isSome

def ScheduleOptimization.verifiable (o : ScheduleOptimization F D) : Prop :=
  o.candidate.isSome ∧ o.baselinePlan.isSome ∧ o.baselineRoutes.isSome ∧
    o.baselineRouteQuality.isSome ∧ o.baselineQuality.isSome ∧ o.baselineFingerprint.isSome

def ConstraintOptimization.verifiable (o : ConstraintOptimization F D) : Prop :=
  o.candidate.isSome ∧ o.baselinePlan.isSome ∧ o.baselineRoutes.isSome ∧
    o.baselineRouteQuality.isSome ∧ o.baselineSchedule.isSome ∧ o.baselineReport.isSome ∧
    o.baselineFingerprint.isSome

def CommuteOptimization.verifiable (o : CommuteOptimization F D) : Prop :=
  o.candidate.isSome ∧ o.baselinePlan.isSome ∧ o.baselineRoutes.isSome ∧
    o.baselineRouteQuality.isSome ∧ o.baselineReport.isSome ∧ o.baselineSchedule.isSome ∧
    o.baselineConstraintReport.isSome ∧ o.baselineRouteFingerprint.isSome ∧
    o.baselineConstraintFingerprint.isSome

def ContentRefill.verifiable (o : ContentRefill F D) : Prop :=
  o.candidate.isSome ∧ o.baselinePlan.isSome ∧ o.baselineRoutes.isSome ∧
    o.baselineRouteQuality.isSome ∧ o.baselineSchedule.isSome ∧ o.baselineConstraintReport.isSome ∧
    o.baselineRouteFingerprint.isSome ∧ o.baselineConstraintFingerprint.isSome

/-- Whoever waits for a verification has what it needs. -/
structure Verifiable (s : AgentState F D) : Prop where
  route : s.route.status = .candidatePending → s.route.verifiable
  schedule : s.schedule.status = .candidatePending → s.schedule.verifiable
  constraint : s.constraint.status = .candidatePending → s.constraint.verifiable
  commute : s.commute.status = .candidatePending → s.commute.verifiable
  refill : s.refill.status = .candidatePending → s.refill.verifiable

theorem Phased.verifiable (hI : Phased kit s) : Verifiable s := by
  constructor
  case route =>
    intro h
    obtain ⟨p, r, q, hb⟩ := hI.routeBacked h
    obtain ⟨c, hc⟩ := hb.candidate
    simp [RouteOptimization.verifiable, hc, hb.plan, hb.routes, hb.quality, hb.fingerprint]
  case schedule =>
    intro h
    obtain ⟨p, r, q, t, hb⟩ := hI.scheduleBacked h
    obtain ⟨c, hc⟩ := hb.candidate
    simp [ScheduleOptimization.verifiable, hc, hb.plan, hb.routes, hb.routeQuality, hb.quality,
      hb.fingerprint]
  case constraint =>
    intro h
    obtain ⟨p, r, q, t, k, hb⟩ := hI.constraintBacked h
    obtain ⟨c, hc⟩ := hb.candidate
    simp [ConstraintOptimization.verifiable, hc, hb.plan, hb.routes, hb.routeQuality, hb.schedule,
      hb.report, hb.fingerprint]
  case commute =>
    intro h
    obtain ⟨c, p, r, q, m, t, k, hb⟩ := hI.commuteBacked h
    simp [CommuteOptimization.verifiable, hb.candidate, hb.plan, hb.routes, hb.routeQuality,
      hb.report, hb.schedule, hb.constraints, hb.fingerprint, hb.constraintFingerprint]
  case refill =>
    intro h
    obtain ⟨c, p, r, q, t, k, hb⟩ := hI.refillBacked h
    simp [ContentRefill.verifiable, hb.candidate, hb.plan, hb.routes, hb.routeQuality, hb.schedule,
      hb.constraints, hb.fingerprint, hb.constraintFingerprint]

/-- A pending candidate is the only one. -/
theorem Phased.pendingCount_le (hI : Phased kit s) : pendingCount s ≤ 1 := by
  have ha := hI.alone
  by_cases hr : s.route.status = .candidatePending
  · have hs : s.schedule.status ≠ .candidatePending := fun h => by
      obtain h | h := ha.routesFirst (.inl h) <;> rw [hr] at h <;> cases h
    have hc : s.constraint.status ≠ .candidatePending := fun h => by
      obtain h | h := ha.routesFirst (.inr (.inl h)) <;> rw [hr] at h <;> cases h
    have hm : s.commute.status ≠ .candidatePending := fun h => by
      obtain h | h := ha.routesFirst (.inr (.inr (.inl h))) <;> rw [hr] at h <;> cases h
    have hf : s.refill.status ≠ .candidatePending := fun h => by
      obtain h | h := ha.routesFirst (.inr (.inr (.inr h))) <;> rw [hr] at h <;> cases h
    simp [pendingCount, hr, hs, hc, hm, hf]
  · by_cases hs : s.schedule.status = .candidatePending
    · obtain ⟨hc, hm, hf⟩ := ha.besideSchedule hs
      simp [pendingCount, hr, hs, hc, hm, hf]
    · by_cases hc : s.constraint.status = .candidatePending
      · obtain ⟨hm, hf⟩ := ha.besideConstraint hc
        simp [pendingCount, hr, hs, hc, hm, hf]
      · by_cases hm : s.commute.status = .candidatePending
        · have hf := ha.besideCommute hm
          simp [pendingCount, hr, hs, hc, hm, hf]
        · by_cases hf : s.refill.status = .candidatePending
          · simp [pendingCount, hr, hs, hc, hm, hf]
          · simp [pendingCount, hr, hs, hc, hm, hf]

theorem Phased.query_iff (hI : Phased kit s) : s.commuteSupplementQuery.isSome = true ↔
    Xor (s.commute.status = .supplementNeeded) (s.refill.status = .supplementNeeded) := by
  rw [hI.searching.1, xor_iff_or_and_not_and]
  exact ⟨fun h => ⟨h, hI.searching.2⟩, And.left⟩

/-- In every state of the loop at most one candidate waits for its verification,
with all that the verification reads; a query waits for exactly one optimizer; and
the chosen action misses nothing. -/
theorem optimizers_take_turns [DecidableEq F] (kit : Kit F D) (request : TripRequest)
    (budget : ExecutionBudget)
    (replies : List (ToolReply F D)) (s : AgentState F D)
    (h : run (step kit) (AgentState.create request budget) replies = some s) :
    pendingCount s ≤ 1 ∧ Verifiable s ∧
      (s.commuteSupplementQuery.isSome = true ↔
        Xor (s.commute.status = .supplementNeeded) (s.refill.status = .supplementNeeded)) ∧
      ∀ a, decideNextAction kit s = .ok a →
        (a = .supplementAttractions → s.commuteSupplementQuery.isSome = true) ∧
        ∀ reply m, (executeAction kit s a reply).result ≠ .error (.escaped (.missing m)) := by
  have hI := run_phased h
  refine ⟨hI.pendingCount_le, hI.verifiable, hI.query_iff, ?_⟩
  intro a ha
  have hc := decide_chosen ha
  refine ⟨?_, ?_⟩
  · rintro rfl
    cases hc with
    | refillSearch hr h => exact hI.searching.1.mpr (.inr h)
    | commuteSearch hq h => exact hI.searching.1.mpr (.inl h)
  · intro reply m
    exact effect_missing (execute_effect hI hc reply) m

/-- Every evaluator is content and nothing is left to improve. -/
def plainKit : Kit Unit Unit where
  routeDigest _ := ()
  snapshotDigest _ _ := ()
  constraintPlanDigest _ := ()
  constraintDigest _ := ()
  validationDigest _ := ()
  restaurantDigest _ := ()
  contentDigest _ := ()
  evaluateRouteQuality _ _ := .ok ⟨0, 0, 0, 100, false, ()⟩
  evaluateCommute _ _ _ := .ok ⟨(), 0, 0, false, [], ()⟩
  evaluateSchedule _ _ _ := .ok ⟨0, 0, 0, 0, 100, false, ()⟩
  evaluateConstraints _ _ _ _ _ := .ok ⟨(), 0, 0, 100, false, ()⟩
  validate _ := .ok ⟨true, false, []⟩
  optimizeRoutes _ := .ok none
  optimizeSchedule _ _ _ := .ok none
  optimizeConstraints _ _ _ _ _ := .ok none
  optimizeCommute _ _ _ _ _ := .ok none
  optimizeRefill _ _ _ _ := .ok none
  buildQuery _ _ _ _ := .ok none
  buildContentRefillQuery _ _ _ := .ok none
  merge _ d := .ok d
  timeline _ := ()
  rebuilder _ _ := plainRebuilder
  sources _ _ := ⟨fun _ => ("", ""), fun _ => ("", "")⟩
  improvementPercent _ _ := 0
  meanScore a b c d e := (a + b + c + d + e) / 5


/-- The routes are found wanting and a reordered plan is at hand. -/
def reorderingKit : Kit Unit Unit :=
  { plainKit with
    evaluateRouteQuality := fun _ _ => .ok ⟨0, 0, 10, 50, true, ()⟩
    optimizeRoutes := fun p => .ok (some ⟨p, ()⟩) }

/-- A plan for a day without sights. -/
def restPlan : TripPlan :=
  { city := "上海", startDate := "2026-05-01", endDate := "2026-05-01",
    days := [{ date := "2026-05-01", dayIndex := 0, description := "", transportation := "自驾",
               accommodation := "" }],
    overallSuggestions := "" }

/-- The replies of tools that succeed at once, up to the first estimates. -/
def preparations : List (ToolReply Unit Unit) :=
  [.success (.document ()) .giveUp, .success (.document ()) .giveUp,
    .success (.document ()) .giveUp, .success (.plan restPlan) .giveUp,
    .success (.routes ⟨(), [], ()⟩) .giveUp]

theorem installed_order_is_verifiable :
    ∃ s, run (step reorderingKit) (AgentState.create drivingTrip {})
      (preparations ++ [.failure .giveUp]) = some s ∧ pendingCount s = 1 ∧ Verifiable s :=
  ⟨_, rfl, rfl, (optimizers_take_turns reorderingKit drivingTrip {}
    (preparations ++ [.failure .giveUp]) _ rfl).2.1⟩

end TravelAgent.Agent

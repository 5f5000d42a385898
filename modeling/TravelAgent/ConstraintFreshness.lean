import TravelAgent.AgentFrames

namespace TravelAgent.Agent

open TravelAgent.Itinerary TravelAgent.ContentRebuild TravelAgent.Transition

variable {F D : Type} (kit : Kit F D) (request : TripRequest) (attractions weather : Option D)

/-- A constraint report is about some plan, with the timeline, the pool and the
weather of now; its fingerprint and its key are those of that plan. -/
def Grounded (schedule : Option (ScheduleQualityReport D))
    (report : Option (TripConstraintReport F D)) (fingerprint key : Option F) : Prop :=
  ∀ k, report = some k → ∃ p t, schedule = some t ∧
    fingerprint = some (constraintPlanFingerprint kit request p) ∧
    (key = none ∨ key = some (kit.constraintDigest ⟨request, p, some t, attractions, weather⟩)) ∧
    kit.evaluateConstraints request p t attractions weather = .ok k

/-- The facts are in, and a saved baseline would be told the same again. -/
def Kept (pending : Prop) (plan : Option TripPlan) (schedule : Option (ScheduleQualityReport D))
    (report : Option (TripConstraintReport F D)) : Prop :=
  pending → (attractions ≠ none ∧ weather ≠ none) ∧
    ∀ p t k, plan = some p → schedule = some t → report = some k →
      kit.evaluateConstraints request p t attractions weather = .ok k

/-- A timeline at hand is current, unless it was left behind by a rejected order of
the routes whose baseline cannot be timed. -/
def Clocked (o : RouteOptimization F D) (plan : Option TripPlan)
    (routes : Option (RouteEstimateResult F D)) (quality : Option (RouteQualityReport D))
    (schedule : Option (ScheduleQualityReport D)) (key : Option F) : Prop :=
  ∀ p t, plan = some p → schedule = some t →
    (key = none ∨ key = some (snapshotFingerprint kit request p routes)) ∨
      o.status = .candidatePending ∧ ∃ q, quality = some q ∧ o.baselineQuality = some q

variable {kit}

/-- How the constraint report depends on the rest of the state. -/
structure Fresh (kit : Kit F D) (s : AgentState F D) : Prop where
  planned : s.tripPlan ≠ none → s.attractions ≠ none ∧ s.weather ≠ none
  clocked : Clocked kit s.request s.route s.tripPlan s.routeEstimates s.routeQualityReport
    s.scheduleQualityReport s.evaluations.schedule
  untimed : s.scheduleQualityReport = none → s.constraintReport = none
  early : s.route.status = .candidatePending ∨ s.schedule.status = .candidatePending →
    s.constraintReport = none
  searching : s.refill.status = .supplementNeeded →
    s.constraint.status ≠ .candidatePending ∧ s.commute.status ≠ .candidatePending
  grounded : Grounded kit s.request s.attractions s.weather s.scheduleQualityReport
    s.constraintReport s.constraintPlanFingerprint s.evaluations.constraints
  asked : s.commute.status = .supplementNeeded ∨ s.refill.status = .supplementNeeded →
    ∀ p, s.tripPlan = some p → s.constraintReport ≠ none →
      s.constraintPlanFingerprint = some (constraintPlanFingerprint kit s.request p)
  constraintKept : Kept kit s.request s.attractions s.weather
    (s.constraint.status = .candidatePending) s.constraint.baselinePlan
    s.constraint.baselineSchedule s.constraint.baselineReport
  commuteKept : Kept kit s.request s.attractions s.weather
    (s.commute.status = .candidatePending) s.commute.baselinePlan
    s.commute.baselineSchedule s.commute.baselineConstraintReport
  refillKept : Kept kit s.request s.attractions s.weather
    (s.refill.status = .candidatePending) s.refill.baselinePlan
    s.refill.baselineSchedule s.refill.baselineConstraintReport

variable [DecidableEq F] {s : AgentState F D}

/-- The digests tell the inputs of the constraint evaluation apart. -/
structure Telling (kit : Kit F D) : Prop where
  plan : Function.Injective kit.constraintPlanDigest
  inputs : Function.Injective kit.constraintDigest

/-- A report that passes for current is about the plan of now. -/
theorem Fresh.current (hF : Fresh kit s) (hinj : Telling kit) {p : TripPlan}
    {k : TripConstraintReport F D} (hk : Feasible kit s p k) :
    ∃ t, s.scheduleQualityReport = some t ∧
      s.constraintPlanFingerprint = some (constraintPlanFingerprint kit s.request p) ∧
      (s.evaluations.constraints = none ∨ s.evaluations.constraints =
        some (kit.constraintDigest ⟨s.request, p, some t, s.attractions, s.weather⟩)) ∧
      kit.evaluateConstraints s.request p t s.attractions s.weather = .ok k := by
  obtain ⟨p₀, t, ht, hf, hkey, he⟩ := hF.grounded k hk.report
  have hsame : p = p₀ := by
    have hc := hk.current
    simp only [constraintsCurrent, hk.report, Option.isSome_some, Bool.true_and,
      evaluationIsCurrent] at hc
    obtain hkey | hkey := hkey
    · simp only [hkey, hf, beq_iff_eq, Option.some.injEq] at hc
      exact (congrArg ConstraintPlanInputs.plan (hinj.plan hc)).symm
    · simp only [hkey, beq_iff_eq] at hc
      exact (congrArg ConstraintInputs.plan (hinj.inputs hc)).symm
  subst hsame
  exact ⟨t, ht, hf, hkey, he⟩

/-- The evaluator says it of the timeline of now. -/
theorem Fresh.evaluated (hF : Fresh kit s) (hinj : Telling kit) {p : TripPlan}
    {t : ScheduleQualityReport D} {k : TripConstraintReport F D} (ht : Timely kit s p t)
    (hk : Feasible kit s p k) :
    kit.evaluateConstraints s.request p t s.attractions s.weather = .ok k := by
  obtain ⟨t', ht', -, -, he⟩ := hF.current hinj hk
  rw [ht.report] at ht'
  obtain rfl := Option.some.inj ht'
  exact he

theorem Fresh.stamped (hF : Fresh kit s) (hinj : Telling kit) {p : TripPlan}
    {k : TripConstraintReport F D} (hk : Feasible kit s p k) :
    s.constraintPlanFingerprint = some (constraintPlanFingerprint kit s.request p) := by
  obtain ⟨t, -, hf, -, -⟩ := hF.current hinj hk
  exact hf

theorem Fresh.timed (hF : Fresh kit s) {p : TripPlan} {r : RouteEstimateResult F D}
    {q : RouteQualityReport D} (hI : Phased kit s) (hq : RouteSettled kit s p r q)
    (h : scheduleCurrent kit s p = false) : s.scheduleQualityReport = none := by
  cases ht : s.scheduleQualityReport with
  | none => rfl
  | some t =>
    obtain hf | ⟨hp, -⟩ := hI.timed p t hq.plan ht
    · obtain (hk | hk) | ⟨hp, -⟩ := hF.clocked p t hq.plan ht
      · simp [scheduleCurrent, ht, hk, hf, evaluationIsCurrent] at h
      · simp [scheduleCurrent, ht, hk, evaluationIsCurrent, scheduleInputFingerprint] at h
      · exact absurd hp hq.routeNotPending
    · exact absurd hp hq.routeNotPending

/- The parts of the invariant under the usual changes. -/

section Parts

variable {request : TripRequest} {attractions weather : Option D}

omit [DecidableEq F] in
theorem Grounded.none {schedule : Option (ScheduleQualityReport D)} {fingerprint key : Option F} :
    Grounded kit request attractions weather schedule none fingerprint key :=
  nofun

omit [DecidableEq F] in
theorem Grounded.of_none {schedule : Option (ScheduleQualityReport D)}
    {report : Option (TripConstraintReport F D)} {fingerprint key : Option F}
    (h : report = Option.none) :
    Grounded kit request attractions weather schedule report fingerprint key := by
  subst h
  exact .none

omit [DecidableEq F] in
/-- Without its key the report falls back on its fingerprint. -/
theorem Grounded.unkeyed {schedule : Option (ScheduleQualityReport D)}
    {report : Option (TripConstraintReport F D)} {fingerprint key : Option F}
    (h : Grounded kit request attractions weather schedule report fingerprint key) :
    Grounded kit request attractions weather schedule report fingerprint Option.none := by
  intro k hk
  obtain ⟨p, t, ht, hf, -, he⟩ := h k hk
  exact ⟨p, t, ht, hf, .inl rfl, he⟩

omit [DecidableEq F] in
theorem Grounded.evaluated {p : TripPlan} {t : ScheduleQualityReport D}
    {k : TripConstraintReport F D} {key : Option F}
    (hkey : key = Option.none ∨
      key = some (kit.constraintDigest ⟨request, p, some t, attractions, weather⟩))
    (he : kit.evaluateConstraints request p t attractions weather = .ok k) :
    Grounded kit request attractions weather (some t) (some k)
      (some (constraintPlanFingerprint kit request p)) key := by
  intro k' hk
  obtain rfl := Option.some.inj hk
  exact ⟨p, t, rfl, rfl, hkey, he⟩

omit [DecidableEq F] in
theorem Kept.over {pending : Prop} {plan : Option TripPlan}
    {schedule : Option (ScheduleQualityReport D)} {report : Option (TripConstraintReport F D)}
    (h : ¬pending) : Kept kit request attractions weather pending plan schedule report :=
  fun hp => absurd hp h

omit [DecidableEq F] in
theorem Kept.saved {pending : Prop} {p : TripPlan} {t : ScheduleQualityReport D}
    {k : TripConstraintReport F D} (hfacts : attractions ≠ none ∧ weather ≠ none)
    (he : kit.evaluateConstraints request p t attractions weather = .ok k) :
    Kept kit request attractions weather pending (some p) (some t) (some k) := by
  refine fun _ => ⟨hfacts, ?_⟩
  intro p' t' k' hp ht hk
  obtain rfl := Option.some.inj hp
  obtain rfl := Option.some.inj ht
  obtain rfl := Option.some.inj hk
  exact he

omit [DecidableEq F] in
theorem Clocked.untimed {o : RouteOptimization F D} {plan : Option TripPlan}
    {routes : Option (RouteEstimateResult F D)} {quality : Option (RouteQualityReport D)}
    {key : Option F} : Clocked kit request o plan routes quality none key :=
  nofun

omit [DecidableEq F] in
theorem Clocked.timed {o : RouteOptimization F D} {p : TripPlan}
    {routes : Option (RouteEstimateResult F D)} {quality : Option (RouteQualityReport D)}
    {schedule : Option (ScheduleQualityReport D)} {key : Option F}
    (hk : key = none ∨ key = some (snapshotFingerprint kit request p routes)) :
    Clocked kit request o (some p) routes quality schedule key := by
  intro p' t hp _
  obtain rfl := Option.some.inj hp
  exact .inl hk

omit [DecidableEq F] in
/-- A new record of the route optimisation does not touch a current timeline. -/
theorem Clocked.settled {o o' : RouteOptimization F D} {plan : Option TripPlan}
    {routes : Option (RouteEstimateResult F D)} {quality : Option (RouteQualityReport D)}
    {schedule : Option (ScheduleQualityReport D)} {key : Option F}
    (h : Clocked kit request o plan routes quality schedule key)
    (hn : ∀ q, quality = some q → o.status = .candidatePending → o.baselineQuality ≠ some q) :
    Clocked kit request o' plan routes quality schedule key := by
  intro p t hp ht
  obtain hk | ⟨hs, q, hq, hb⟩ := h p t hp ht
  · exact .inl hk
  · exact absurd hb (hn q hq hs)

end Parts

omit [DecidableEq F] in
theorem Phased.scheduleIdle (hI : Phased kit s) (h : s.constraint.status = .candidatePending ∨
    s.commute.status = .candidatePending ∨ s.refill.status = .candidatePending) :
    s.schedule.status ≠ .candidatePending := by
  intro hs
  obtain ⟨hc, hm, hr⟩ := hI.alone.besideSchedule hs
  obtain h | h | h := h
  · exact hc h
  · exact hm h
  · exact hr h

theorem restatus_pending {status status' : OptimizationStatus} (h : Restatus status status')
    (hp : status' = .candidatePending) : status = .candidatePending := by
  obtain rfl | ⟨-, rfl⟩ := h
  · exact hp
  · cases hp

/-- A report that is made anew is as fresh as the one that is kept. -/
theorem rechecked_fresh (hF : Fresh kit s) (hinj : Telling kit) {p : TripPlan}
    {r : RouteEstimateResult F D} {q : RouteQualityReport D} {t : ScheduleQualityReport D}
    {k k' : TripConstraintReport F D} {f key : Option F} {status : OptimizationStatus}
    (hq : RouteSettled kit s p r q) (ht : Timely kit s p t) (hk : Feasible kit s p k)
    (hs : Restatus s.constraint.status status)
    (hu : currentConstraints kit s p = .ok (k', rechecked s k' f key status)) :
    Fresh kit (rechecked s k' f key status) ∧
      kit.evaluateConstraints s.request p t s.attractions s.weather = .ok k' := by
  have hearly : ¬(s.route.status = .candidatePending ∨ s.schedule.status = .candidatePending) := by
    intro h
    have hn := hk.report
    rw [hF.early h] at hn
    cases hn
  obtain ⟨t', ht', hf, hkey, he⟩ := hF.current hinj hk
  rw [ht.report] at ht'
  obtain rfl := Option.some.inj ht'
  have hnew : f = some (constraintPlanFingerprint kit s.request p) ∧
      (key = none ∨
        key = some (kit.constraintDigest ⟨s.request, p, some t, s.attractions, s.weather⟩)) ∧
      kit.evaluateConstraints s.request p t s.attractions s.weather = .ok k' := by
    obtain ⟨hrs, hk'⟩ | ⟨t', ht', hrs, he'⟩ := currentConstraints_ok hq.plan hu
    · have hsame : k = k' := Option.some.inj (hk.report.symm.trans hk')
      have hf' : f = s.constraintPlanFingerprint := congrArg AgentState.constraintPlanFingerprint hrs
      have hkey' : key = s.evaluations.constraints :=
        congrArg (fun u => u.evaluations.constraints) hrs
      subst hsame
      rw [hf', hkey']
      exact ⟨hf, hkey, he⟩
    · rw [ht.report] at ht'
      obtain rfl := Option.some.inj ht'
      have hf' : f = some (constraintPlanFingerprint kit s.request p) :=
        congrArg AgentState.constraintPlanFingerprint hrs
      have hkey' : key = some (kit.constraintDigest (constraintInputs s p)) :=
        congrArg (fun u => u.evaluations.constraints) hrs
      rw [constraintInputs, ht.report] at hkey'
      exact ⟨hf', .inr hkey', he'⟩
  obtain ⟨rfl, hkey, he⟩ := hnew
  refine ⟨?_, he⟩
  constructor <;> dsimp only [rechecked]
  case planned => exact hF.planned
  case clocked => exact hF.clocked
  case untimed =>
    intro hn
    rw [ht.report] at hn
    cases hn
  case early => exact fun h => absurd h hearly
  case searching =>
    intro h
    exact ⟨mt (restatus_pending hs) (hF.searching h).1, (hF.searching h).2⟩
  case grounded =>
    rw [ht.report]
    exact .evaluated hkey he
  case asked =>
    intro _ p' hp' _
    rw [hq.plan] at hp'
    rw [Option.some.inj hp']
  case constraintKept => exact fun hp => hF.constraintKept (restatus_pending hs hp)
  case commuteKept => exact hF.commuteKept
  case refillKept => exact hF.refillKept

theorem SearchAsked.planned (hs : SearchAsked kit s) : ∃ p, s.tripPlan = some p := by
  obtain ⟨p, r, hr, -⟩ | ⟨p, r, q, hq, -⟩ := hs
  · exact ⟨p, hr.plan⟩
  · exact ⟨p, hq.plan⟩

/-- While a search is asked for, no later candidate waits. -/
theorem SearchAsked.idle (hF : Fresh kit s) (hs : SearchAsked kit s) :
    s.constraint.status ≠ .candidatePending ∧ s.commute.status ≠ .candidatePending ∧
      s.refill.status ≠ .candidatePending := by
  obtain ⟨-, -, -, hr⟩ | ⟨_, _, _, hq, hc⟩ := hs
  · obtain ⟨hk, hm⟩ := hF.searching hr
    exact ⟨hk, hm, by rw [hr]; decide⟩
  · exact ⟨hq.constraintNotPending, by rw [hc]; decide, hq.refillNotPending⟩

/-- A search may leave another pool, if the evaluator finds nothing new in it. -/
theorem endSearch_fresh (hF : Fresh kit s) (hs : SearchAsked kit s) {pool : Option D}
    (evaluations : EvaluationFingerprints F) {acceptance : Option PartialAcceptanceReport}
    {mode : Option CompletionMode} {warnings : List String} {status : SearchingStatus}
    (hover : status ≠ .supplementNeeded ∧ status ≠ .candidatePending) (hn : pool ≠ none)
    (hkey : evaluations.schedule = s.evaluations.schedule)
    (hgrounded : Grounded kit s.request pool s.weather s.scheduleQualityReport s.constraintReport
      s.constraintPlanFingerprint evaluations.constraints) :
    Fresh kit (endSearch { s with
      attractions := pool
      evaluations := evaluations
      acceptanceReport := acceptance
      completionMode := mode
      completionWarnings := warnings } status) := by
  obtain ⟨p, hp⟩ := hs.planned
  have hweather := (hF.planned (by rw [hp]; nofun)).2
  obtain ⟨hconstraint, hcommute, hrefill⟩ := hs.idle hF
  have hasked (h : s.commute.status = .supplementNeeded ∨ s.refill.status = .supplementNeeded) :=
    hF.asked h
  have hclocked := hF.clocked
  rw [← hkey] at hclocked
  by_cases hr : s.refill.status = .supplementNeeded
  · simp only [endSearch, hr, if_true]
    constructor <;> dsimp only
    case planned => exact fun _ => ⟨hn, hweather⟩
    case clocked => exact hclocked
    case untimed => exact hF.untimed
    case early => exact hF.early
    case searching => nofun
    case grounded => exact hgrounded
    case asked => exact fun _ => hasked (.inr hr)
    case constraintKept => exact .over hconstraint
    case commuteKept => exact .over hcommute
    case refillKept => exact .over nofun
  · simp only [endSearch, hr, if_false]
    constructor <;> dsimp only
    case planned => exact fun _ => ⟨hn, hweather⟩
    case clocked => exact hclocked
    case untimed => exact hF.untimed
    case early => exact hF.early
    case searching => exact fun h => absurd h hr
    case grounded => exact hgrounded
    case asked =>
      rintro (h | h)
      · exact absurd h hover.1
      · exact absurd h hr
    case constraintKept => exact .over hconstraint
    case commuteKept => exact .over hover.2
    case refillKept => exact .over hrefill

/-- The merged pool goes with the report if the evaluator says the same of it. -/
theorem merged_grounded (hF : Fresh kit s) (hinj : Telling kit) (hs : SearchAsked kit s)
    {pool : Option D}
    (hpool : s.constraintReport ≠ none → ∀ p t, s.tripPlan = some p →
      s.scheduleQualityReport = some t → kit.evaluateConstraints s.request p t pool s.weather =
        kit.evaluateConstraints s.request p t s.attractions s.weather) :
    Grounded kit s.request pool s.weather s.scheduleQualityReport s.constraintReport
      s.constraintPlanFingerprint none := by
  intro k hk
  obtain ⟨p₀, t, ht, hf, -, he⟩ := hF.grounded k hk
  obtain ⟨p, hp⟩ := hs.planned
  have hsearching : s.commute.status = .supplementNeeded ∨ s.refill.status = .supplementNeeded := by
    obtain ⟨-, -, -, hr⟩ | ⟨-, -, -, -, hc⟩ := hs
    · exact .inr hr
    · exact .inl hc
  have hreport : s.constraintReport ≠ none := by rw [hk]; nofun
  have hasked := hF.asked hsearching p hp hreport
  rw [hf] at hasked
  have hsame : p₀ = p := congrArg ConstraintPlanInputs.plan (hinj.plan (Option.some.inj hasked))
  subst hsame
  exact ⟨p₀, t, ht, hf, .inl rfl, (hpool hreport p₀ t hp ht).trans he⟩

omit [DecidableEq F] in
theorem facts_known (h : chooseFacts s = none) : s.attractions ≠ none ∧ s.weather ≠ none := by
  unfold chooseFacts at h
  split at h
  · cases h
  · split at h
    · cases h
    · simp_all

omit [DecidableEq F] in
theorem Fresh.constraintOver (hF : Fresh kit s) {o : ConstraintOptimization F D}
    (ho : o.status ≠ .candidatePending) {v : Option TripValidationResult} :
    Fresh kit { s with constraint := o, lastValidationResult := v } where
  planned := hF.planned
  clocked := hF.clocked
  untimed := hF.untimed
  early := hF.early
  searching h := ⟨ho, (hF.searching h).2⟩
  grounded := hF.grounded
  asked := hF.asked
  constraintKept := .over ho
  commuteKept := hF.commuteKept
  refillKept := hF.refillKept

/-- The report that comes back with the baseline is what it would be told again. -/
theorem reverted_fresh (hI : Phased kit s) (hF : Fresh kit s) {p p₀ : TripPlan}
    {r r₀ : RouteEstimateResult F D} {q q₀ : RouteQualityReport D} {t₀ : ScheduleQualityReport D}
    {k k₀ : TripConstraintReport F D} {f key : Option F} {status : OptimizationStatus}
    (hq : RouteSettled kit s p r q) (h : s.constraint.status = .candidatePending)
    (hb : ConstraintBaseline kit s.request s.constraint p₀ r₀ q₀ t₀ k₀) :
    Fresh kit (revertConstraints kit (rechecked s k f key status) p₀ r₀ q₀ t₀ k₀
      (constraintPlanFingerprint kit s.request p₀)) := by
  obtain ⟨hfacts, hkept⟩ := hF.constraintKept h
  constructor <;> dsimp only [revertConstraints, settleConstraints, synchronize, restoreConstraints,
    restoreSchedule, restorePlan, rechecked, synchronizedFingerprints]
  case planned => exact fun _ => hfacts
  case clocked => exact .timed when_some
  case untimed => nofun
  case early =>
    rintro (hp | hp)
    · exact absurd hp hq.routeNotPending
    · exact absurd hp (hI.scheduleIdle (.inl h))
  case searching => exact fun hs => absurd hs hq.notSearching
  case grounded => exact .evaluated when_some (hkept _ _ _ hb.plan hb.schedule hb.report)
  case asked =>
    intro _ p' hp' _
    rw [Option.some.inj hp']
  case constraintKept => exact .over nofun
  case commuteKept => exact hF.commuteKept
  case refillKept => exact hF.refillKept

theorem installed_fresh (hF : Fresh kit s) {p : TripPlan} {r : RouteEstimateResult F D}
    {q : RouteQualityReport D} {t : ScheduleQualityReport D} {k : TripConstraintReport F D}
    {c : OptimizationCandidate D} {f key : Option F} {status : OptimizationStatus}
    (hq : CommuteSettled kit s p r q t)
    (he : kit.evaluateConstraints s.request p t s.attractions s.weather = .ok k) :
    Fresh kit (installConstraints kit (rechecked s k f key status) p r q t k c) := by
  have hfacts := hF.planned (by rw [hq.plan]; nofun)
  constructor <;> dsimp only [installConstraints, installPlan, dropRoutes, clearCommuteAnalysis,
    invalidate, rechecked, reduceIte, Bool.false_eq_true]
  case planned => exact fun _ => hfacts
  case clocked => exact .untimed
  case untimed => exact fun _ => rfl
  case early => exact fun _ => rfl
  case searching => exact fun hs => absurd hs hq.notSearching
  case grounded => exact .none
  case asked => exact fun _ _ _ hk => absurd rfl hk
  case constraintKept => exact .saved hfacts he
  case commuteKept => exact .over nofun
  case refillKept => exact hF.refillKept

/-- The pool that a nearby search would leave. -/
def mergedPool (kit : Kit F D) (s : AgentState F D) (reply : ToolReply F D) : Option D :=
  match reply, s.commuteSupplementQuery with
  | .success (.nearby center radiusMeters page candidates) _, some query =>
    if radiusMeters ≠ query.radiusMeters ∨ page ≠ query.page ∨ center ≠ query.center then none
    else (kit.merge s.attractions candidates).toOption
  | _, _ => none

/-- A nearby search brings nothing that the evaluator would judge the plan at hand
differently for. -/
def Harmless (kit : Kit F D) (s : AgentState F D) (reply : ToolReply F D) : Prop :=
  decideNextAction kit s = .ok .supplementAttractions → s.constraintReport ≠ none →
    ∀ p t pool, s.tripPlan = some p → s.scheduleQualityReport = some t →
      mergedPool kit s reply = some pool →
      kit.evaluateConstraints s.request p t (some pool) s.weather =
        kit.evaluateConstraints s.request p t s.attractions s.weather

theorem effect_fresh (hI : Phased kit s) (hF : Fresh kit s) (hinj : Telling kit) {a : AgentAction}
    {o : Outcome F D} (he : Effect kit s a o)
    (hpool : a = .supplementAttractions → s.constraintReport ≠ none → ∀ p t,
      s.tripPlan = some p → s.scheduleQualityReport = some t →
      kit.evaluateConstraints s.request p t o.state.attractions s.weather =
        kit.evaluateConstraints s.request p t s.attractions s.weather) : Fresh kit o.state := by
  have hfacts {p : TripPlan} (hp : s.tripPlan = some p) := hF.planned (by rw [hp]; rintro ⟨⟩)
  have hunplanned (h : s.attractions = none ∨ s.weather = none) : s.constraintReport = none := by
    apply hF.untimed
    cases hr : s.routeEstimates with
    | none => exact (hI.unrouted hr).2
    | some r =>
      have hscored := hI.scored
      simp only [RoutesScored, hr] at hscored
      obtain ⟨p, hp, -⟩ := hscored
      obtain h | h := h
      · exact absurd h (hfacts hp).1
      · exact absurd h (hfacts hp).2
  have hretry (count limit : Nat) := retryStatus_over count limit
  cases he
  case supplemented pool hs _ _ =>
    have hmerged (hk : s.constraintReport ≠ none) (p : TripPlan) (t : ScheduleQualityReport D)
        (hp : s.tripPlan = some p) (ht : s.scheduleQualityReport = some t) :
        kit.evaluateConstraints s.request p t (some pool) s.weather =
          kit.evaluateConstraints s.request p t s.attractions s.weather := by
      have h := hpool rfl hk p t hp ht
      simp only [done, endSearch, invalidate] at h
      split at h <;> exact h
    exact endSearch_fresh hF hs (s.evaluations.drop [.constraints, .validation])
      (by decide) (by simp) rfl (merged_grounded hF hinj hs hmerged)
  case searchFailed hs _ =>
    obtain ⟨p, hp⟩ := hs.planned
    exact endSearch_fresh hF hs s.evaluations (by decide) (hfacts hp).1 rfl
      hF.grounded
  case constraintsAccepted hq ht hk h hb hs hu ha =>
    exact (rechecked_fresh hF hinj hq ht hk hs hu).1.constraintOver (by rintro ⟨⟩)
  case constraintsReverted hq ht hk h hb hs hu ha => exact reverted_fresh hI hF hq h hb
  case constraintsSkipped hq hk h hs hu =>
    exact (rechecked_fresh hF hinj hq.toRouteSettled hq.toTimely hk hs hu).1.constraintOver (by rintro ⟨⟩)
  case constraintsUnsolved hq hk h hs hu =>
    exact (rechecked_fresh hF hinj hq.toRouteSettled hq.toTimely hk hs hu).1
  case constraintsInstalled hq hk h hs hu hn hc =>
    obtain ⟨-, he⟩ := rechecked_fresh hF hinj hq.toRouteSettled hq.toTimely hk hs hu
    exact installed_fresh hF hq he
  all_goals clear hpool
  all_goals constructor <;> dsimp only [done, raised, applyGenerated, applyRepaired, clearRouteAnalysis,
    clearCommuteAnalysis, clearConstraintAnalysis, dropRoutes, invalidate, withRoutes,
    withRouteReport, withSchedule, withCommute, withConstraints, withContent, withValidation, finish,
    installPlan, installRoutes, installSchedule, installReplacement,
    installRefill, settleRoutes, settleSchedule, settleRefill, acceptReplacement,
    revertRoutes, revertSchedule, revertReplacement, revertRefill, restorePlan,
    restoreSchedule, restoreConstraints, synchronize, skipRoutes, skipSchedule,
    skipReplacement, endRefill, searchReplacement, searchRefill,
    synchronizedFingerprints, reduceIte, Bool.false_eq_true]
  all_goals first
    | exact hF.planned
    | exact hF.clocked
    | exact hF.untimed
    | exact hF.early
    | exact hF.searching
    | exact hF.grounded
    | exact hF.asked
    | exact hF.constraintKept
    | exact hF.commuteKept
    | exact hF.refillKept
    | exact .none
    | exact .untimed
    | exact .over (by decide)
    | exact .over (hretry _ _).1
    | exact fun _ => rfl
    | exact fun _ => hfacts (‹Scored kit s _ _ _›).plan
    | exact fun _ => hfacts (‹RouteSettled kit s _ _ _›).plan
    | exact fun _ => hfacts (‹Quiet kit s _ _ _›).plan
    | exact fun _ => hfacts (‹CommuteSettled kit s _ _ _ _›).plan
    | exact fun h => absurd h (‹Scored kit s _ _ _›).notSearching
    | exact fun h => absurd h (‹RouteSettled kit s _ _ _›).notSearching
    | exact fun h => absurd h (‹Quiet kit s _ _ _›).notSearching
    | exact fun h => absurd h (‹CommuteSettled kit s _ _ _ _›).notSearching
    | exact fun _ => hF.early (.inl ‹_›)
    | exact fun _ => hF.early (.inr ‹_›)
    | exact .of_none (hF.early (.inl ‹_›))
    | exact .of_none (hF.early (.inr ‹_›))
    | exact fun _ _ _ hk => absurd (hF.early (.inl ‹_›)) hk
    | exact fun _ _ _ hk => absurd (hF.early (.inr ‹_›)) hk
    | (intros; contradiction)
    | skip
  case attractions.planned h => exact fun hp => absurd h (hF.planned hp).1
  case weather.planned h => exact fun hp => absurd h (hF.planned hp).2
  case generated.planned hf _ => exact fun _ => facts_known hf
  case attractions.grounded h => exact .of_none (hunplanned (.inl h))
  case weather.grounded h => exact .of_none (hunplanned (.inr h))
  case attractions.constraintKept h => exact fun hp => absurd h (hF.constraintKept hp).1.1
  case attractions.commuteKept h => exact fun hp => absurd h (hF.commuteKept hp).1.1
  case attractions.refillKept h => exact fun hp => absurd h (hF.refillKept hp).1.1
  case weather.constraintKept h => exact fun hp => absurd h (hF.constraintKept hp).1.2
  case weather.commuteKept h => exact fun hp => absurd h (hF.commuteKept hp).1.2
  case weather.refillKept h => exact fun hp => absurd h (hF.refillKept hp).1.2
  case restaurants.grounded => exact hF.grounded.unkeyed
  case unscored.clocked hr _ _ | untimed.clocked hr _ _ _ =>
    rw [(hI.unrouted hr.unrouted).2]
    exact .untimed
  case routed.clocked hr _ _ =>
    rw [hr.plan]
    exact .timed (.inr rfl)
  case unscored.grounded hr _ _ | untimed.grounded hr _ _ _ | routed.grounded hr _ _ =>
    exact .of_none (hF.untimed (hI.unrouted hr.unrouted).2)
  case untimed.early hr _ _ _ | routed.early hr _ _ =>
    exact fun _ => hF.untimed (hI.unrouted hr.unrouted).2
  case routesReverted.clocked | scheduleReverted.clocked | replacementReverted.clocked |
      refillReverted.clocked => exact .timed when_some
  case routesAccepted.clocked hq _ hb ha =>
    apply hF.clocked.settled
    intro q' hq' _ hb'
    rw [hq.quality] at hq'
    rw [hb.quality] at hb'
    exact improvement_ne ha ((Option.some.inj hb').trans (Option.some.inj hq').symm)
  case routesSkipped.clocked hq h =>
    apply hF.clocked.settled
    intro _ _ hp
    rw [wanted_notStarted h] at hp
    cases hp
  case routesStuck.clocked h hb _ _ => exact fun _ _ _ _ => .inr ⟨h, _, rfl, hb.quality⟩
  case scheduleEvaluated.clocked hq _ _ =>
    rw [hq.plan]
    exact .timed (.inr rfl)
  case rebuilt.clocked hq _ hr =>
    intro p' t' hp ht
    obtain rfl := Option.some.inj hp
    have hc := hF.clocked _ t' hq.plan ht
    rwa [snapshotFingerprint, ← rebuild_fingerprint hr] at hc
  case commuteEvaluated.commuteKept => exact fun hp => hF.commuteKept (commuteStatusAfter_pending hp)
  case scheduleEvaluated.grounded hq h _ => exact .of_none (hF.untimed (hF.timed hI hq h))
  case scheduleEvaluated.early hq h _ => exact fun _ => hF.untimed (hF.timed hI hq h)
  case constraintsEvaluated.untimed ht _ _ =>
    intro hn
    rw [ht.report] at hn
    cases hn
  case constraintsEvaluated.early hq hs _ _ _ =>
    rintro (h | h)
    · exact absurd h hq.routeNotPending
    · exact absurd h hs
  case constraintsEvaluated.grounded ht _ hk =>
    rw [constraintInputs, ht.report]
    exact .evaluated (.inr rfl) hk
  case constraintsEvaluated.asked hq _ _ _ _ =>
    intro _ p' hp' _
    rw [hq.plan] at hp'
    rw [Option.some.inj hp']
  case constraintsEvaluated.constraintKept => exact fun hp => hF.constraintKept (skipUnless_pending hp)
  case generated.searching => exact fun _ => ⟨(by rintro ⟨⟩), (by rintro ⟨⟩)⟩
  case generated.commuteKept | repaired.commuteKept | routesInstalled.commuteKept |
      scheduleInstalled.commuteKept | refillInstalled.commuteKept => exact .over (by rintro ⟨⟩)
  case routesSkipped.early | scheduleSkipped.early =>
    rintro (h | h)
    · first | cases h | exact hF.early (.inl h)
    · first | cases h | exact hF.early (.inr h)
  case replacementReverted.early hq _ _ _ _ _ _ =>
    rintro (h | h)
    · exact absurd h hq.routeNotPending
    · exact absurd h hq.scheduleNotPending
  case refillReverted.early hq _ _ h _ _ =>
    rintro (hp | hp)
    · exact absurd hp hq.routeNotPending
    · exact absurd hp (hI.scheduleIdle (.inr (.inr h)))
  case replacementReverted.grounded h hb _ =>
    exact .evaluated when_some
      ((hF.commuteKept h).2 _ _ _ hb.plan hb.schedule hb.constraints)
  case refillReverted.grounded h hb _ =>
    exact .evaluated when_some
      ((hF.refillKept h).2 _ _ _ hb.plan hb.schedule hb.constraints)
  case commuteEvaluated.asked => 
    intro h
    exact hF.asked (h.imp_left commuteStatusAfter_searching.mp)
  case replacementAccepted.asked hq _ _ _ _ _ _ =>
    rintro (h | h)
    · split at h
      · exact absurd h (hretry _ _).2
      · cases h
    · exact absurd h hq.notSearching
  case replacementAccepted.commuteKept =>
    apply Kept.over
    split
    · exact (hretry _ _).1
    · decide
  case replacementReverted.asked | refillReverted.asked =>
    intro _ p' hp' _
    rw [Option.some.inj hp']
  case replacementSkipped.asked hq _ _ _ _ =>
    rintro (h | h)
    · cases h
    · exact absurd h hq.notSearching
  case refillSkipped.asked hq _ _ =>
    rintro (h | h)
    · exact absurd h hq.commuteNotSearching
    · cases h
  case refillAccepted.asked => exact fun h => hF.asked (h.imp_right (by rintro ⟨⟩))
  case replacementSearched.asked hq _ _ hk _ _ | refillSearched.asked hq hk _ _ =>
    intro _ p' hp' _
    rw [hq.plan] at hp'
    rw [← Option.some.inj hp']
    exact hF.stamped hinj hk
  case refillReverted.searching => exact fun h => absurd h (hretry _ _).2
  case refillSearched.searching hq _ _ _ =>
    refine fun _ => ⟨hq.constraintNotPending, ?_⟩
    intro h
    have hidle := hq.commuteIdle
    simp [commuteNeedsAction, h] at hidle
  case rebuilt.asked hq _ _ =>
    rintro (h | h)
    · exact absurd h hq.commuteNotSearching
    · exact absurd h hq.notSearching
  case replacementInstalled.commuteKept hq _ ht hk _ _ _ =>
    exact .saved (hfacts hq.plan) (hF.evaluated hinj ht hk)
  case refillInstalled.refillKept hq hk _ _ =>
    exact .saved (hfacts hq.plan) (hF.evaluated hinj hq.toTimely hk)

/-- A nearby search leaves the merged pool or the one there was. -/
theorem supplement_pool (kit : Kit F D) (s : AgentState F D) (reply : ToolReply F D) :
    (executeAction kit s .supplementAttractions reply).state.attractions = s.attractions ∨
      ∃ pool, mergedPool kit s reply = some pool ∧
        (executeAction kit s .supplementAttractions reply).state.attractions = some pool := by
  have hend (u : AgentState F D) (status : SearchingStatus) :
      (endSearch u status).attractions = u.attractions := by
    unfold endSearch
    split <;> rfl
  have hfail (next : AfterFailure) :
      (afterFailure s .supplementAttractions next).state.attractions = s.attractions := by
    cases next with
    | retry => rfl
    | outOfTime => rfl
    | giveUp =>
      simp only [afterFailure, if_true, handleFailedAttractionSupplement]
      split
      · exact hend _ _
      · split <;> rfl
  cases hq : s.commuteSupplementQuery with
  | none =>
    refine .inl ?_
    simp only [executeAction, executeTool, buildToolPayload, hq, raised]
  | some query =>
    have hpay : buildToolPayload kit s .supplementAttractions = .ok (.nearby query) := by
      simp only [buildToolPayload, hq]
    cases reply with
    | failure next => exact .inl (by simpa only [executeAction, executeTool, hpay] using hfail next)
    | success data next =>
      simp only [executeAction, executeTool, hpay]
      cases data with
      | document d => exact .inl (hfail next)
      | plan p => exact .inl (hfail next)
      | routes r => exact .inl (hfail next)
      | nearby center radius page d =>
        by_cases hm : radius ≠ query.radiusMeters ∨ page ≠ query.page ∨ center ≠ query.center
        · simp only [applyToolResult, applySupplement, hq, if_pos hm, raised]
          exact .inl (hfail next)
        · cases hp : kit.merge s.attractions d with
          | error m =>
            simp only [applyToolResult, applySupplement, hq, if_neg hm, hp, raised]
            exact .inl (hfail next)
          | ok pool =>
            refine .inr ⟨pool, ?_, ?_⟩
            · simp only [mergedPool, hq, if_neg hm, hp, Except.toOption]
            · simp only [applyToolResult, applySupplement, hq, if_neg hm, hp, done, hend]
              rfl

theorem step_fresh (hinj : Telling kit) {t : AgentState F D} {reply : ToolReply F D}
    (hI : Phased kit s ∧ Fresh kit s) (hok : Harmless kit s reply) (h : step kit s reply = some t) :
    Phased kit t ∧ Fresh kit t := by
  obtain ⟨hphased, hfresh⟩ := hI
  obtain ⟨-, a, ha, rfl⟩ := step_some kit h
  have he := execute_effect hphased (decide_chosen ha) reply
  refine ⟨effect_phased hphased he, effect_fresh hphased hfresh hinj he ?_⟩
  rintro rfl hk p t hp ht
  obtain hpool | ⟨pool, hm, hpool⟩ := supplement_pool kit s reply
  · rw [hpool]
  · rw [hpool]
    exact hok ha hk p t pool hp ht hm

omit [DecidableEq F] in
theorem create_fresh (request : TripRequest) (budget : ExecutionBudget) :
    Fresh kit (AgentState.create request budget) where
  planned h := absurd rfl h
  clocked := .untimed
  untimed _ := rfl
  early _ := rfl
  searching h := by cases h
  grounded := .none
  asked _ _ h := by cases h
  constraintKept := .over nofun
  commuteKept := .over nofun
  refillKept := .over nofun

/-- The actions that are only chosen once the constraints have been passed. -/
def AgentAction.pastConstraints : AgentAction → Bool
  | .replaceRemoteAttraction | .optimizeConstraints | .refillAttractions | .validatePlan
  | .repairPlan | .finish => true
  | _ => false

theorem past_feasible {a : AgentAction} (hc : Chosen kit s a) (ha : a.pastConstraints = true) :
    ∃ p k, s.tripPlan = some p ∧ Feasible kit s p k := by
  cases hc with
  | verifyConstraints hq h ht hk => exact ⟨_, _, hq.plan, hk⟩
  | verifyRefill hq h ht hk => exact ⟨_, _, hq.plan, hk⟩
  | replace hq hc ht hk h => exact ⟨_, _, hq.plan, hk⟩
  | easeConstraints hq hk h hw => exact ⟨_, _, hq.plan, hk⟩
  | refill hq hk h => exact ⟨_, _, hq.plan, hk⟩
  | validate hq hk hp h => exact ⟨_, _, hq.plan, hk⟩
  | finish hq hk hp h => exact ⟨_, _, hq.plan, hk⟩
  | repair hq hk hp h => exact ⟨_, _, hq.plan, hk⟩
  | _ => cases ha

/-- What passes the constraints does so by a report that the evaluator would make now. -/
def ReportFresh (kit : Kit F D) (s : AgentState F D) : Prop :=
  ∀ a, decideNextAction kit s = .ok a → a.pastConstraints = true →
    ∃ p t k, s.tripPlan = some p ∧ s.scheduleQualityReport = some t ∧ s.constraintReport = some k ∧
      kit.evaluateConstraints s.request p t s.attractions s.weather = .ok k

theorem Fresh.reportFresh (hF : Fresh kit s) (hinj : Telling kit) : ReportFresh kit s := by
  intro a ha hpast
  obtain ⟨p, k, hp, hk⟩ := past_feasible (decide_chosen ha) hpast
  obtain ⟨t, ht, -, -, he⟩ := hF.current hinj hk
  exact ⟨p, t, k, hp, ht, hk.report, he⟩

/-- Along a run whose nearby searches are harmless every report that is relied on
is fresh. -/
theorem reports_fresh_unless_pool_changes (kit : Kit F D) (hinj : Telling kit)
    (request : TripRequest) (budget : ExecutionBudget) (replies : List (ToolReply F D))
    (hok : Along (step kit) (Harmless kit) (AgentState.create request budget) replies) :
    Always (step kit) (ReportFresh kit) (AgentState.create request budget) replies :=
  always_of_along (I := fun s => Phased kit s ∧ Fresh kit s)
    (fun _ _ _ hI hok h => step_fresh hinj hI hok h) (fun _ hI => hI.2.reportFresh hinj)
    ⟨create_phased request budget, create_fresh request budget⟩ hok

structure PoolEntry where
  name : String
  rating : Nat
  closing : Nat
deriving DecidableEq

/-- Digests that keep what they are made from. -/
inductive Print where
  | routes (i : RouteInputs)
  | unrouted (plan : Print)
  | snapshot (plan estimates : Print) (routes : List RouteEstimate) (details : List PoolEntry)
  | plan (i : ConstraintPlanInputs)
  | constraints (i : ConstraintInputs (List PoolEntry))
  | restaurants (anchors : List RestaurantSearchAnchor)
  | content (c : ContentSource (List PoolEntry))
  | validation (request : TripRequest) (plan : TripPlan)
deriving DecidableEq

/-- The first entry of the pool is the source of a sight. -/
def closesEarly (pool : List PoolEntry) (a : Attraction) : Bool :=
  (pool.find? (·.name == a.name)).any (·.closing < 18)

/-- A better rated entry takes the place of the one of the same name. -/
def mergeEntry (pool : List PoolEntry) (e : PoolEntry) : List PoolEntry :=
  if pool.any (·.name == e.name) then
    pool.map fun old => if old.name == e.name ∧ old.rating < e.rating then e else old
  else pool ++ [e]

/-- The sights are visited until six. The way to one of them is too long, no other
is at hand, and a search around it is made. -/
def nearbyKit : Kit Print (List PoolEntry) where
  routeDigest := .routes
  snapshotDigest at_ routes :=
    match routes with
    | none => .unrouted at_
    | some r => .snapshot at_ r.planFingerprint r.routes r.details
  constraintPlanDigest := .plan
  constraintDigest := .constraints
  validationDigest i := .validation i.request i.plan
  restaurantDigest := .restaurants
  contentDigest := .content
  evaluateRouteQuality _ _ := .ok ⟨0, 0, 0, 100, false, []⟩
  evaluateCommute request plan _ :=
    .ok ⟨planRouteFingerprint .routes request plan, 1, 7200, true, [], []⟩
  evaluateSchedule _ _ _ := .ok ⟨0, 0, 0, 0, 100, false, []⟩
  evaluateConstraints request plan _ attractions _ :=
    .ok ⟨.plan ⟨request.transportation, request.preferences, request.freeTextInput.getD "", plan⟩,
      ((plan.days.flatMap (·.attractions)).filter (closesEarly (attractions.getD []))).length,
      0, 100, false, []⟩
  validate _ := .ok ⟨true, false, []⟩
  optimizeRoutes _ := .ok none
  optimizeSchedule _ _ _ := .ok none
  optimizeConstraints _ _ _ _ _ := .ok none
  optimizeCommute _ _ _ _ _ := .ok none
  optimizeRefill _ _ _ _ := .ok none
  buildQuery _ _ _ _ := .ok (some ⟨⟨.finite 121, .finite 31⟩, 3000, 1, []⟩)
  buildContentRefillQuery _ _ _ := .ok none
  merge pool found := .ok (found.foldl mergeEntry (pool.getD []))
  timeline _ := []
  rebuilder _ _ := plainRebuilder
  sources _ _ := ⟨fun _ => ("", ""), fun _ => ("", "")⟩
  improvementPercent _ _ := 0
  meanScore a b c d e := (a + b + c + d + e) / 5

/-- Up to the nearby search that finds a sight of the plan once more, better rated
and with other hours. -/
def nearbySearch : List (ToolReply Print (List PoolEntry)) :=
  [.success (.document [⟨"外滩", 40, 22⟩, ⟨"上海公交博物馆", 40, 18⟩]) .giveUp,
    .success (.document []) .giveUp, .success (.document []) .giveUp,
    .success (.plan museumPlan) .giveUp,
    .success (.routes ⟨planRouteFingerprint .routes drivingTrip museumPlan, [], []⟩) .giveUp,
    .failure .giveUp, .failure .giveUp, .failure .giveUp,
    .success (.nearby ⟨.finite 121, .finite 31⟩ 3000 1 [⟨"上海公交博物馆", 45, 17⟩]) .giveUp]

def changedPool : List PoolEntry := [⟨"外滩", 40, 22⟩, ⟨"上海公交博物馆", 45, 17⟩]

theorem nearby_telling : Telling nearbyKit :=
  ⟨fun _ _ h => Print.plan.inj h, fun _ _ h => Print.constraints.inj h⟩

/-- Nobody asks for the hours of a sight. -/
def idleKit : Kit Print (List PoolEntry) :=
  { nearbyKit with
    evaluateConstraints := fun request plan _ _ _ =>
      .ok ⟨.plan ⟨request.transportation, request.preferences, request.freeTextInput.getD "", plan⟩,
        0, 0, 100, false, []⟩ }

theorem idle_reports_fresh :
    Always (step idleKit) (ReportFresh idleKit) (AgentState.create drivingTrip {}) nearbySearch :=
  reports_fresh_unless_pool_changes idleKit
    ⟨fun _ _ h => Print.plan.inj h, fun _ _ h => Print.constraints.inj h⟩ drivingTrip {} nearbySearch
    (along_of_forall (fun _ _ _ _ _ _ _ _ _ _ => rfl) _ _)

/-- After the search the replacement goes by a report that knows nothing of the new hours. -/
theorem search_leaves_stale_report :
    Telling nearbyKit ∧
      ∃ s, run (step nearbyKit) (AgentState.create drivingTrip {}) nearbySearch = some s ∧
        decideNextAction nearbyKit s = .ok .replaceRemoteAttraction ∧
        (s.constraintReport.map (·.errorCount) = some 0) ∧ ¬ReportFresh nearbyKit s := by
  refine ⟨nearby_telling, ?_⟩
  have hend : (run (step nearbyKit) (AgentState.create drivingTrip {}) nearbySearch).any (fun s =>
      decide (decideNextAction nearbyKit s = .ok .replaceRemoteAttraction) &&
        (s.constraintReport.map (·.errorCount) == some 0) && (s.tripPlan == some museumPlan) &&
        (s.attractions == some changedPool)) = true := by
    decide +kernel
  have hearly : (museumPlan.days.flatMap (·.attractions)).filter (closesEarly changedPool) =
      [sight "上海公交博物馆"] := by
    decide +kernel
  cases hrun : run (step nearbyKit) (AgentState.create drivingTrip {}) nearbySearch with
  | none =>
    rw [hrun] at hend
    cases hend
  | some s =>
    simp only [hrun, Option.any_some, Bool.and_eq_true, beq_iff_eq, decide_eq_true_eq] at hend
    obtain ⟨⟨⟨ha, hcount⟩, hp⟩, hpool⟩ := hend
    refine ⟨s, rfl, ha, hcount, ?_⟩
    intro hfresh
    obtain ⟨p, t, k, hp', -, hk, he⟩ := hfresh _ ha rfl
    rw [hp] at hp'
    obtain rfl := Option.some.inj hp'
    have hcount' := congrArg TripConstraintReport.errorCount (Except.ok.inj he)
    rw [hpool, Option.getD_some, hearly] at hcount'
    rw [hk] at hcount
    have hzero : k.errorCount = 0 := Option.some.inj hcount
    rw [← hcount'] at hzero
    cases hzero

end TravelAgent.Agent

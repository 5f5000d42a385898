import TravelAgent.ActionProgress

namespace TravelAgent.Agent

open TravelAgent.Itinerary TravelAgent.ContentRebuild

variable {F D : Type} {kit : Kit F D} {s t u : AgentState F D}

/-- What may be left behind by an action that does not succeed. -/
structure Fails (u v : AgentState F D) : Prop where
  attractions : v.attractions = u.attractions
  weather : v.weather = u.weather
  hotels : v.hotels = u.hotels
  plan : u.tripPlan ≠ none → v.tripPlan ≠ none
  routes : u.routeEstimates ≠ none → v.routeEstimates ≠ none
  query : u.commuteSupplementQuery = none → v.commuteSupplementQuery = none
  restaurants : v.restaurants = u.restaurants
  restaurantPlan : v.restaurantPlanFingerprint = u.restaurantPlanFingerprint
  consistency : v.planConsistencyFingerprint = u.planConsistencyFingerprint
  commuteKnown : u.routeEstimates ≠ none →
    v.commuteReport = u.commuteReport ∧ v.evaluations.commute = u.evaluations.commute
  scheduleKnown : u.routeEstimates ≠ none →
    v.scheduleQualityReport = u.scheduleQualityReport ∧
      v.evaluations.schedule = u.evaluations.schedule
  constraintsKnown : u.routeEstimates ≠ none → u.constraintReport ≠ none →
    v.constraintReport ≠ none ∧ v.evaluations.constraints = u.evaluations.constraints
  untimed : u.scheduleQualityReport = none → v.scheduleQualityReport = none
  finished : v.finished = u.finished
  route : v.route.count = u.route.count ∧ Restatus u.route.status v.route.status
  schedule : u.route.status ≠ .candidatePending →
    v.schedule.count = u.schedule.count ∧ v.schedule.status = u.schedule.status
  constraint : v.constraint.count = u.constraint.count ∧
    Restatus u.constraint.status v.constraint.status
  commute : v.commute.replacementCount = u.commute.replacementCount ∧
    (v.commute.supplementSearchCount = u.commute.supplementSearchCount ∧
        v.commute.status = u.commute.status ∨
      u.commute.supplementSearchCount < v.commute.supplementSearchCount)
  refill : v.refill.count = u.refill.count ∧
    (v.refill.supplementSearchCount = u.refill.supplementSearchCount ∧
        v.refill.status = u.refill.status ∨
      u.refill.supplementSearchCount < v.refill.supplementSearchCount)

theorem skipUnless_restatus (status : OptimizationStatus) (wanted : Bool) :
    Restatus status (status.skipUnless wanted) := by
  unfold OptimizationStatus.skipUnless
  split
  · rename_i h
    exact Or.inr ⟨h.1, rfl⟩
  · exact Or.inl rfl

theorem Fails.restatus (u : AgentState F D) (status : AgentStatus) :
    Fails u { u with status := status } :=
  ⟨rfl, rfl, rfl, id, id, id, rfl, rfl, rfl, fun _ => ⟨rfl, rfl⟩, fun _ => ⟨rfl, rfl⟩,
    fun _ h => ⟨h, rfl⟩, id, rfl, ⟨rfl, Or.inl rfl⟩, fun _ => ⟨rfl, rfl⟩, ⟨rfl, Or.inl rfl⟩,
    ⟨rfl, Or.inl ⟨rfl, rfl⟩⟩, ⟨rfl, Or.inl ⟨rfl, rfl⟩⟩⟩

theorem endSearch_fails (u : AgentState F D) (status : SearchingStatus) :
    Fails u (endSearch u status) := by
  unfold endSearch
  split
  · exact ⟨rfl, rfl, rfl, id, id, fun _ => rfl, rfl, rfl, rfl, fun _ => ⟨rfl, rfl⟩,
      fun _ => ⟨rfl, rfl⟩, fun _ h => ⟨h, rfl⟩, id, rfl, ⟨rfl, Or.inl rfl⟩, fun _ => ⟨rfl, rfl⟩,
      ⟨rfl, Or.inl rfl⟩, ⟨rfl, Or.inl ⟨rfl, rfl⟩⟩, ⟨rfl, Or.inr (Nat.lt_succ_self _)⟩⟩
  · exact ⟨rfl, rfl, rfl, id, id, fun _ => rfl, rfl, rfl, rfl, fun _ => ⟨rfl, rfl⟩,
      fun _ => ⟨rfl, rfl⟩, fun _ h => ⟨h, rfl⟩, id, rfl, ⟨rfl, Or.inl rfl⟩, fun _ => ⟨rfl, rfl⟩,
      ⟨rfl, Or.inl rfl⟩, ⟨rfl, Or.inr (Nat.lt_succ_self _)⟩, ⟨rfl, Or.inl ⟨rfl, rfl⟩⟩⟩

variable [DecidableEq F]

theorem stored_of_current {α : Type} {report : Option α} {stored : Option F} {input : F}
    (h : (report.isSome && evaluationIsCurrent stored input false) = true) :
    stored = some input := by
  rw [Bool.and_eq_true] at h
  cases stored with
  | none => cases h.2
  | some k => exact congrArg some (eq_of_beq h.2)

/-- A report that is made anew while it is current keeps its fingerprint. -/
theorem rechecked_key {p : TripPlan} {k k' : TripConstraintReport F D} {f key : Option F}
    {status : OptimizationStatus} (hp : s.tripPlan = some p) (hk : Feasible kit s p k)
    (hu : currentConstraints kit s p = .ok (k', rechecked s k' f key status)) :
    key = s.evaluations.constraints := by
  unfold currentConstraints at hu
  rw [hk.report] at hu
  dsimp only at hu
  split at hu
  · have hstate := (Prod.mk.inj (Except.ok.inj hu)).2
    exact (congrArg (fun t : AgentState F D => t.evaluations.constraints) hstate).symm
  · rename_i hother
    have hcurrent := hk.current
    rw [constraintsCurrent, beq_eq_false_iff_ne.mpr hother] at hcurrent
    rw [stored_of_current hcurrent]
    unfold refreshConstraintReport at hu
    rw [hp] at hu
    split at hu
    · rename_i plan schedule hplan _
      obtain rfl := Option.some.inj hplan
      split at hu
      · cases hu
      · split at hu
        · cases hu
        · have hstate := (Prod.mk.inj (Except.ok.inj hu)).2
          exact (congrArg (fun t : AgentState F D => t.evaluations.constraints) hstate).symm
    · cases hu

theorem effect_fails {a : AgentAction} {o : Outcome F D} (he : Effect kit u a o)
    (ho : o.result ≠ .ok true) : Fails u o.state := by
  cases he
  case faulted | retried => exact Fails.restatus u u.status
  case outOfTime | gaveUp => exact Fails.restatus u _
  case searchFailed => exact endSearch_fails u _
  case unscored hr _ _ =>
    have hn (h : u.routeEstimates ≠ none) : False := h hr.unrouted
    exact ⟨rfl, rfl, rfl, id, fun _ => nofun, id, rfl, rfl, rfl, fun h => (hn h).elim,
      fun h => (hn h).elim, fun h => (hn h).elim, id, rfl, ⟨rfl, Or.inl rfl⟩,
      fun _ => ⟨rfl, rfl⟩, ⟨rfl, Or.inl rfl⟩, ⟨rfl, Or.inl ⟨rfl, rfl⟩⟩,
      ⟨rfl, Or.inl ⟨rfl, rfl⟩⟩⟩
  case untimed hr _ _ _ =>
    have hn (h : u.routeEstimates ≠ none) : False := h hr.unrouted
    exact ⟨rfl, rfl, rfl, id, fun _ => nofun, id, rfl, rfl, rfl, fun h => (hn h).elim,
      fun h => (hn h).elim, fun h => (hn h).elim, id, rfl, ⟨rfl, skipUnless_restatus _ _⟩,
      fun _ => ⟨rfl, rfl⟩, ⟨rfl, Or.inl rfl⟩, ⟨rfl, Or.inl ⟨rfl, rfl⟩⟩,
      ⟨rfl, Or.inl ⟨rfl, rfl⟩⟩⟩
  case routesStuck h _ _ _ =>
    exact ⟨rfl, rfl, rfl, fun _ => nofun, fun _ => nofun, id, rfl, rfl, rfl,
      fun _ => ⟨rfl, rfl⟩, fun _ => ⟨rfl, rfl⟩, fun _ h => ⟨h, rfl⟩, id, rfl,
      ⟨rfl, Or.inl rfl⟩, fun hn => absurd h hn, ⟨rfl, Or.inl rfl⟩, ⟨rfl, Or.inl ⟨rfl, rfl⟩⟩,
      ⟨rfl, Or.inl ⟨rfl, rfl⟩⟩⟩
  case constraintsUnsolved hq hk _ hs hu =>
    exact ⟨rfl, rfl, rfl, id, id, id, rfl, rfl, rfl, fun _ => ⟨rfl, rfl⟩,
      fun _ => ⟨rfl, rfl⟩, fun _ _ => ⟨nofun, rechecked_key hq.plan hk hu⟩, id, rfl,
      ⟨rfl, Or.inl rfl⟩, fun _ => ⟨rfl, rfl⟩, ⟨rfl, hs⟩, ⟨rfl, Or.inl ⟨rfl, rfl⟩⟩,
      ⟨rfl, Or.inl ⟨rfl, rfl⟩⟩⟩
  case faulty | hopeless =>
    exact ⟨rfl, rfl, rfl, id, id, id, rfl, rfl, rfl, fun _ => ⟨rfl, rfl⟩,
      fun _ => ⟨rfl, rfl⟩, fun _ h => ⟨h, rfl⟩, id, rfl, ⟨rfl, Or.inl rfl⟩,
      fun _ => ⟨rfl, rfl⟩, ⟨rfl, Or.inl rfl⟩, ⟨rfl, Or.inl ⟨rfl, rfl⟩⟩,
      ⟨rfl, Or.inl ⟨rfl, rfl⟩⟩⟩
  all_goals exact absurd rfl ho

/-- The optimisation is over. -/
def Over (status : OptimizationStatus) : Prop := status = .completed ∨ status = .skipped

/-- An optimizer that is further than it was. -/
def Further (count count' : Nat) (status status' : OptimizationStatus) : Prop :=
  count < count' ∨ (¬Over status ∧ Over status')

/-- The same of the two optimizers that search: a verification that was waited for is over, or
a search has been asked for. -/
def SearchFurther (count count' searches searches' : Nat) (status status' : SearchingStatus) :
    Prop :=
  searches ≤ searches' ∧
    (count < count' ∨ searches < searches' ∨
      (status = .candidatePending ∧ status' ≠ .candidatePending) ∨
      (status ≠ .skipped ∧ status' = .skipped) ∨
      (status ≠ .supplementNeeded ∧ status' = .supplementNeeded))

/-- Why the loop does not choose the action again on what it had in the state `s`. -/
def Sealed (kit : Kit F D) (s u : AgentState F D) : AgentAction → Prop
  | .searchAttractions => u.attractions ≠ none
  | .getWeather => u.weather ≠ none
  | .searchHotels => u.hotels ≠ none
  | .generatePlan => u.tripPlan ≠ none
  | .estimateRoutes => u.routeEstimates ≠ none
  | .supplementAttractions => u.commuteSupplementQuery = none
  | .searchRestaurants =>
    ∃ p f, s.tripPlan = some p ∧ restaurantSearchSourceFingerprint kit p = .ok f ∧
      u.restaurants ≠ none ∧ u.restaurantPlanFingerprint = some f
  | .rebuildPlanContent =>
    ∃ p, s.tripPlan = some p ∧
      u.planConsistencyFingerprint = some (planContentSourceFingerprint kit s p)
  | .evaluateCommute =>
    u.routeEstimates ≠ none ∧ u.commuteReport ≠ none ∧ ∃ p, s.tripPlan = some p ∧
      u.evaluations.commute = some (commuteInputFingerprint kit s.request p s.routeEstimates)
  | .evaluateSchedule =>
    u.routeEstimates ≠ none ∧ u.scheduleQualityReport ≠ none ∧ ∃ p, s.tripPlan = some p ∧
      u.evaluations.schedule = some (scheduleInputFingerprint kit s.request p s.routeEstimates)
  | .evaluateConstraints =>
    u.routeEstimates ≠ none ∧ u.constraintReport ≠ none ∧ ∃ p, s.tripPlan = some p ∧
      u.evaluations.constraints = some (kit.constraintDigest (constraintInputs s p))
  | .validatePlan => decideNextAction kit u = .ok .finish
  | .repairPlan => u.scheduleQualityReport = none
  | .finish => u.finished = true
  | .optimizeRoutes => Further s.route.count u.route.count s.route.status u.route.status
  | .optimizeSchedule =>
    u.route.status ≠ .candidatePending ∧
      Further s.schedule.count u.schedule.count s.schedule.status u.schedule.status
  | .optimizeConstraints =>
    Further s.constraint.count u.constraint.count s.constraint.status u.constraint.status
  | .replaceRemoteAttraction =>
    SearchFurther s.commute.replacementCount u.commute.replacementCount
      s.commute.supplementSearchCount u.commute.supplementSearchCount s.commute.status
      u.commute.status
  | .refillAttractions =>
    SearchFurther s.refill.count u.refill.count s.refill.supplementSearchCount
      u.refill.supplementSearchCount s.refill.status u.refill.status

omit [DecidableEq F] in
theorem Further.keeps {count count' count₂ : Nat} {status status' status₂ : OptimizationStatus}
    (h : Further count count' status status') (hcount : count₂ = count')
    (hstatus : Restatus status' status₂) : Further count count₂ status status₂ := by
  subst hcount
  obtain hless | ⟨hopen, hover⟩ := h
  · exact Or.inl hless
  · refine Or.inr ⟨hopen, ?_⟩
    obtain rfl | ⟨-, rfl⟩ := hstatus
    · exact hover
    · exact Or.inr rfl

omit [DecidableEq F] in
theorem SearchFurther.keeps {count count' count₂ searches searches' searches₂ : Nat}
    {status status' status₂ : SearchingStatus}
    (h : SearchFurther count count' searches searches' status status') (hcount : count₂ = count')
    (hsearch : searches₂ = searches' ∧ status₂ = status' ∨ searches' < searches₂) :
    SearchFurther count count₂ searches searches₂ status status₂ := by
  subst hcount
  obtain ⟨rfl, rfl⟩ | hmore := hsearch
  · exact h
  · have hless := Nat.lt_of_le_of_lt h.1 hmore
    exact ⟨hless.le, Or.inr (Or.inl hless)⟩

omit [DecidableEq F] in
theorem Further.moved {count count' : Nat} {status status' : OptimizationStatus}
    (h : Further count count' status status') (hcount : count = count')
    (hstatus : status = status') : False := by
  subst hcount hstatus
  obtain hless | ⟨hopen, hover⟩ := h
  · exact Nat.lt_irrefl _ hless
  · exact hopen hover

omit [DecidableEq F] in
theorem SearchFurther.moved {count count' searches searches' : Nat}
    {status status' : SearchingStatus}
    (h : SearchFurther count count' searches searches' status status') (hcount : count = count')
    (hsearch : searches = searches') (hstatus : status = status') : False := by
  subst hcount hsearch hstatus
  obtain ⟨-, hless | hless | ⟨h, hn⟩ | ⟨hn, h⟩ | ⟨hn, h⟩⟩ := h
  · exact Nat.lt_irrefl _ hless
  · exact Nat.lt_irrefl _ hless
  · exact hn h
  · exact hn h
  · exact hn h

/-- A plan that has been found good is next handed over. -/
theorem approved_finish {p : TripPlan} {v : TripValidationResult} (hf : chooseFacts s = none)
    (hplan : s.tripPlan = some p) (hprior : choosePrior kit s p = .ok none)
    (ha : approves kit s p v = true) :
    decideNextAction kit (withValidation kit s p v) = .ok .finish := by
  have hfacts : chooseFacts (withValidation kit s p v) = none := hf
  have hp : (withValidation kit s p v).tripPlan = some p := hplan
  have hprior : choosePrior kit (withValidation kit s p v) p = .ok none := hprior
  have hcurrent : validationCurrent kit (withValidation kit s p v) p = true :=
    current_of_stored rfl rfl _
  have hgood : ((withValidation kit s p v).lastValidationResult.any (·.valid) ||
      (withValidation kit s p v).acceptanceReport.any (·.accepted)) = true := ha
  simp only [decideNextAction, hfacts, hp, hprior, chooseVerdict, hcurrent, hgood, Bool.not_true,
    Bool.false_eq_true, if_false, if_true]

omit [DecidableEq F] in
theorem open_of_pending {status : OptimizationStatus} (h : status = .candidatePending) :
    ¬Over status := by
  subst h
  rintro (h | h) <;> cases h

omit [DecidableEq F] in
theorem open_of_untried {status : OptimizationStatus} (h : status = .notStarted) :
    ¬Over status := by
  subst h
  rintro (h | h) <;> cases h

/-- What has been done with success is not chosen again on the same data. -/
theorem effect_sealed {a : AgentAction} {o : Outcome F D} (hd : decideNextAction kit s = .ok a)
    (he : Effect kit s a o) (ho : o.result = .ok true) : Sealed kit s o.state a := by
  cases he with
  | faulted | retried | outOfTime | gaveUp | searchFailed | routesStuck | constraintsUnsolved
  | faulty | hopeless => cases ho
  | unscored hr hq hf => exact absurd ho (failed_unsuccessful hf)
  | untimed hr hq ht hf => exact absurd ho (failed_unsuccessful hf)
  | attractions h => exact Option.some_ne_none _
  | weather h => exact Option.some_ne_none _
  | hotels h => exact Option.some_ne_none _
  | generated hf h => exact Option.some_ne_none _
  | routed hr hq ht => exact Option.some_ne_none _
  | supplemented hs hq hm =>
    change (endSearch _ _).commuteSupplementQuery = none
    unfold endSearch
    split
    · rfl
    · rfl
  | restaurants hq hf h => exact ⟨_, _, hq.plan, hf, Option.some_ne_none _, rfl⟩
  | repaired hq hk h => rfl
  | routesAccepted hq h hb ha => exact Or.inr ⟨open_of_pending h, Or.inl rfl⟩
  | routesReverted hq h hb ha ht => exact Or.inr ⟨open_of_pending h, Or.inl rfl⟩
  | routesSkipped hq h => exact Or.inr ⟨open_of_untried (wanted_notStarted h), Or.inr rfl⟩
  | routesInstalled hq h hc => exact Or.inl (Nat.lt_succ_self _)
  | commuteEvaluated hq h hc =>
    exact ⟨by rw [done, withCommute, hq.routes]; rintro ⟨⟩, Option.some_ne_none _, _, hq.plan, rfl⟩
  | scheduleEvaluated hq h ht =>
    exact ⟨by rw [done, withSchedule, hq.routes]; rintro ⟨⟩, Option.some_ne_none _, _, hq.plan, rfl⟩
  | constraintsEvaluated hq hs ht h hk =>
    exact ⟨by rw [done, withConstraints, hq.routes]; rintro ⟨⟩, Option.some_ne_none _, _, hq.plan,
      rfl⟩
  | scheduleAccepted hq ht h hb ha =>
    exact ⟨hq.routeNotPending, Or.inr ⟨open_of_pending h, Or.inl rfl⟩⟩
  | scheduleReverted hq ht h hb ha =>
    exact ⟨hq.routeNotPending, Or.inr ⟨open_of_pending h, Or.inl rfl⟩⟩
  | scheduleSkipped hq h =>
    exact ⟨hq.routeNotPending, Or.inr ⟨open_of_untried h, Or.inr rfl⟩⟩
  | scheduleInstalled hq h hn hc =>
    exact ⟨hq.routeNotPending, Or.inl (Nat.lt_succ_self _)⟩
  | constraintsAccepted hq ht hk h hb hs hu ha =>
    exact Or.inr ⟨open_of_pending h, Or.inl rfl⟩
  | constraintsReverted hq ht hk h hb hs hu ha =>
    exact Or.inr ⟨open_of_pending h, Or.inl rfl⟩
  | constraintsSkipped hq hk h hs hu => exact Or.inr ⟨open_of_untried h, Or.inr rfl⟩
  | constraintsInstalled hq hk h hs hu hn hc => exact Or.inl (Nat.lt_succ_self _)
  | replacementAccepted hq hm ht hk h hb ha =>
    refine ⟨le_rfl, Or.inr (Or.inr (Or.inl ⟨h, ?_⟩))⟩
    dsimp only [done, acceptReplacement]
    split
    · exact retryStatus_settled _ _
    · decide
  | replacementReverted hq hm ht hk h hb ha =>
    exact ⟨le_rfl, Or.inr (Or.inr (Or.inl ⟨h, retryStatus_settled _ _⟩))⟩
  | replacementSkipped hq hm ht hk h =>
    exact ⟨le_rfl, Or.inr (Or.inr (Or.inr (Or.inl ⟨by rw [h]; decide, rfl⟩)))⟩
  | replacementSearched hq hm ht hk h hn =>
    exact ⟨le_rfl, Or.inr (Or.inr (Or.inr (Or.inr ⟨by rw [h]; decide, rfl⟩)))⟩
  | replacementInstalled hq hm ht hk h hn hc => exact ⟨le_rfl, Or.inl (Nat.lt_succ_self _)⟩
  | refillAccepted hq ht hk h hb ha =>
    exact ⟨le_rfl, Or.inr (Or.inr (Or.inl ⟨h, (by rintro ⟨⟩)⟩))⟩
  | refillReverted hq ht hk h hb ha =>
    exact ⟨le_rfl, Or.inr (Or.inr (Or.inl ⟨h, retryStatus_settled _ _⟩))⟩
  | refillSkipped hq hk h =>
    exact ⟨le_rfl, Or.inr (Or.inr (Or.inr (Or.inl ⟨(refillNeeded_open h).2, rfl⟩)))⟩
  | refillSearched hq hk h hn =>
    exact ⟨le_rfl, Or.inr (Or.inr (Or.inr (Or.inr ⟨hq.notSearching, rfl⟩)))⟩
  | refillInstalled hq hk h hc => exact ⟨le_rfl, Or.inl (Nat.lt_succ_self _)⟩
  | rebuilt hq h hr => exact ⟨_, hq.plan, congrArg some (rebuilt_source hr)⟩
  | approved hq hk hp hc h ha => exact approved_finish (validate_facts hd) hq.plan hp ha
  | finished hq hk hp h => rfl

omit [DecidableEq F] in
theorem fails_some {α : Type} {x y : Option α} (h : y = x) (hx : x ≠ none) : y ≠ none := h ▸ hx

/-- A failure does not open it again. -/
theorem Sealed.keeps {a b : AgentAction} {o : Outcome F D} (h : Sealed kit s u a)
    (hd : decideNextAction kit u = .ok b) (he : Effect kit u b o) (ho : o.result ≠ .ok true) :
    Sealed kit s o.state a := by
  have hf := effect_fails he ho
  cases a with
  | searchAttractions => exact fails_some hf.attractions h
  | getWeather => exact fails_some hf.weather h
  | searchHotels => exact fails_some hf.hotels h
  | generatePlan => exact hf.plan h
  | estimateRoutes => exact hf.routes h
  | supplementAttractions => exact hf.query h
  | searchRestaurants =>
    obtain ⟨p, f, hp, hsource, hsome, hstored⟩ := h
    exact ⟨p, f, hp, hsource, fails_some hf.restaurants hsome, hf.restaurantPlan.trans hstored⟩
  | rebuildPlanContent =>
    obtain ⟨p, hp, hstored⟩ := h
    exact ⟨p, hp, hf.consistency.trans hstored⟩
  | evaluateCommute =>
    obtain ⟨hroutes, hreport, p, hp, hstored⟩ := h
    obtain ⟨hsame, hkey⟩ := hf.commuteKnown hroutes
    exact ⟨hf.routes hroutes, fails_some hsame hreport, p, hp, hkey.trans hstored⟩
  | evaluateSchedule =>
    obtain ⟨hroutes, hreport, p, hp, hstored⟩ := h
    obtain ⟨hsame, hkey⟩ := hf.scheduleKnown hroutes
    exact ⟨hf.routes hroutes, fails_some hsame hreport, p, hp, hkey.trans hstored⟩
  | evaluateConstraints =>
    obtain ⟨hroutes, hreport, p, hp, hstored⟩ := h
    obtain ⟨hsome, hkey⟩ := hf.constraintsKnown hroutes hreport
    exact ⟨hf.routes hroutes, hsome, p, hp, hkey.trans hstored⟩
  | validatePlan =>
    have hfinish : decideNextAction kit u = .ok .finish := h
    obtain rfl : b = .finish := Except.ok.inj (hd.symm.trans hfinish)
    cases he with
    | faulted | retried | outOfTime | gaveUp => exact h
    | finished => exact absurd rfl ho
  | repairPlan => exact hf.untimed h
  | finish => exact hf.finished.trans h
  | optimizeRoutes => exact Further.keeps h hf.route.1 hf.route.2
  | optimizeSchedule =>
    obtain ⟨hroute, hfurther⟩ := h
    obtain ⟨hcount, hstatus⟩ := hf.schedule hroute
    refine ⟨?_, hfurther.keeps hcount (Or.inl hstatus)⟩
    obtain hsame | ⟨-, hskipped⟩ := hf.route.2
    · rw [hsame]
      exact hroute
    · rw [hskipped]
      decide
  | optimizeConstraints => exact Further.keeps h hf.constraint.1 hf.constraint.2
  | replaceRemoteAttraction => exact SearchFurther.keeps h hf.commute.1 hf.commute.2
  | refillAttractions => exact SearchFurther.keeps h hf.refill.1 hf.refill.2

omit [DecidableEq F] in
theorem evaluatedInput_ok {p : TripPlan} (hp : s.tripPlan = some p) (f : TripPlan → F) :
    evaluatedInput s f = .ok (.evaluated (f p)) := by
  rw [evaluatedInput, hp]

omit [DecidableEq F] in
/-- An optimizer is asked about the whole business data. -/
theorem business_same {digests : Digests F D} (hinj : Function.Injective digests.business)
    {i : ActionInput F D}
    (hi : (Except.ok (.evaluated (digests.business (businessState s))) : Except Fault _) = .ok i)
    (hu : (Except.ok (.evaluated (digests.business (businessState u))) : Except Fault _) = .ok i) :
    businessState s = businessState u :=
  hinj (ActionInput.evaluated.inj (Except.ok.inj (hi.trans hu.symm)))

omit [DecidableEq F] in
/-- What was evaluated before is what would be evaluated now. -/
theorem evaluated_same {f g : TripPlan → F} {p p' : TripPlan} {i : ActionInput F D}
    (hp : s.tripPlan = some p) (hp' : u.tripPlan = some p') (hi : evaluatedInput s f = .ok i)
    (hu : evaluatedInput u g = .ok i) : f p = g p' := by
  rw [evaluatedInput_ok hp] at hi
  rw [evaluatedInput_ok hp'] at hu
  exact ActionInput.evaluated.inj (Except.ok.inj (hi.trans hu.symm))

omit [DecidableEq F] in
/-- The routes in memory are those of the plan. -/
theorem routes_current (hI : Phased kit u) {p : TripPlan} (hp : u.tripPlan = some p)
    (hr : u.routeEstimates ≠ none) :
    u.routePlanFingerprint = some (routeFingerprint kit u.request p) := by
  have hscored := hI.scored
  obtain ⟨r, hr⟩ := Option.ne_none_iff_exists'.mp hr
  rw [hr] at hscored
  obtain ⟨p', hp', hfingerprint, -⟩ := hscored
  obtain rfl : p = p' := Option.some.inj (hp.symm.trans hp')
  exact hfingerprint

omit [DecidableEq F] in
theorem query_asked (hI : Phased kit u) (h : u.commuteSupplementQuery = none)
    (hasks : u.commute.status = .supplementNeeded ∨ u.refill.status = .supplementNeeded) :
    False := by
  have hsome := hI.searching.1.mpr hasks
  rw [h] at hsome
  cases hsome

/-- The choice of a sealed action is about other data. -/
theorem Sealed.fresh {digests : Digests F D} (hinj : Function.Injective digests.business)
    {a : AgentAction} (h : Sealed kit s u a) (hI : Phased kit u) (hu : u.finished = false)
    (hd : decideNextAction kit u = .ok a) {i : ActionInput F D}
    (hi : actionInput kit digests s a = .ok i) : actionInput kit digests u a ≠ .ok i := by
  intro hu'
  have hc := decide_chosen hd
  cases hc with
  | searchAttractions hn => exact h hn
  | getWeather hn => exact h hn
  | searchHotels hn => exact h hn
  | generatePlan hf hn => exact h hn
  | estimateRoutes hp hn =>
    obtain hnone | hother := hn
    · exact h hnone
    · exact hother (routes_current hI hp h)
  | refillSearch hr hn => exact query_asked hI h (Or.inr hn)
  | commuteSearch hq hn => exact query_asked hI h (Or.inl hn)
  | scoreRoutes | verifyRoutes | reorderRoutes =>
    have hb := business_same hinj hi hu'
    exact Further.moved h (congrArg BusinessState.routeCount hb)
      (congrArg BusinessState.routeStatus hb)
  | timeline hq hn =>
    obtain ⟨-, hreport, p, hp, hstored⟩ := h
    obtain ⟨t, ht⟩ := Option.ne_none_iff_exists'.mp hreport
    rw [evaluated_same hp hq.plan hi hu'] at hstored
    have hcurrent : scheduleCurrent kit u _ = true := current_of_stored ht hstored _
    cases hn.symm.trans hcurrent
  | verifySchedule | balance =>
    have hb := business_same hinj hi hu'
    exact h.2.moved (congrArg BusinessState.scheduleCount hb)
      (congrArg BusinessState.scheduleStatus hb)
  | constraints hq hs ht hn =>
    obtain ⟨-, hreport, p, hp, hstored⟩ := h
    obtain ⟨k, hk⟩ := Option.ne_none_iff_exists'.mp hreport
    rw [evaluated_same hp hq.plan hi hu'] at hstored
    have hcurrent : constraintsCurrent kit u _ = true := current_of_stored hk hstored _
    cases hn.symm.trans hcurrent
  | verifyConstraints | easeConstraints =>
    have hb := business_same hinj hi hu'
    exact Further.moved h (congrArg BusinessState.constraintCount hb)
      (congrArg BusinessState.constraintStatus hb)
  | verifyRefill | refill =>
    have hb := business_same hinj hi hu'
    exact SearchFurther.moved h (congrArg BusinessState.refillCount hb)
      (congrArg BusinessState.refillSearchCount hb) (congrArg BusinessState.refillStatus hb)
  | evaluateCommute hq hn =>
    obtain ⟨-, hreport, p, hp, hstored⟩ := h
    obtain ⟨m, hm⟩ := Option.ne_none_iff_exists'.mp hreport
    rw [evaluated_same hp hq.plan hi hu'] at hstored
    have hcurrent : commuteCurrent kit u _ = true := current_of_stored hm hstored _
    cases hn.symm.trans hcurrent
  | replace =>
    have hb := business_same hinj hi hu'
    exact SearchFurther.moved h (congrArg BusinessState.replacementCount hb)
      (congrArg BusinessState.commuteSearchCount hb) (congrArg BusinessState.commuteStatus hb)
  | searchRestaurants hq hf hn =>
    obtain ⟨p, f, hp, hsource, hsome, hstored⟩ := h
    have hplan : s.tripPlan = u.tripPlan :=
      (ActionInput.dining.inj (Except.ok.inj (hi.trans hu'.symm))).2
    obtain rfl := Option.some.inj (hp.symm.trans (hplan.trans hq.plan))
    obtain rfl := Except.ok.inj (hsource.symm.trans hf)
    obtain hnone | hother := hn
    · exact hsome hnone
    · exact hother hstored
  | rebuild hq hn =>
    obtain ⟨p, hp, hstored⟩ := h
    obtain ⟨hrequest, hplan, hroutes, htimes, -, -, -, hdining⟩ :=
      ActionInput.content.inj (Except.ok.inj (hi.trans hu'.symm))
    obtain rfl := Option.some.inj (hp.symm.trans (hplan.trans hq.plan))
    apply hn
    rw [hstored, planContentSourceFingerprint, planContentSourceFingerprint, hrequest, hroutes,
      htimes, hdining]
  | validate hq hk hp hn => cases h.symm.trans hd
  | finish hq hk hp hn => cases h.symm.trans hu
  | repair hq hk hp hn => cases h.symm.trans hq.report

end TravelAgent.Agent

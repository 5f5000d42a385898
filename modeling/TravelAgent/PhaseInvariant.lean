import TravelAgent.AgentRounds

namespace TravelAgent.Agent

open TravelAgent.Itinerary TravelAgent.ContentRebuild

variable {F D : Type} {kit : Kit F D} {s : AgentState F D}

/-- Statuses that only leave the pending phase stay alone in it. -/
theorem Alone.relax {a a' b b' c c' : OptimizationStatus} {d d' e e' : SearchingStatus}
    (h : Alone a b c d e) (ha : a' = a ∨ a' = .completed ∨ a' = .skipped)
    (hb : b' = .candidatePending → b = .candidatePending)
    (hc : c' = .candidatePending → c = .candidatePending)
    (hd : d' = .candidatePending → d = .candidatePending)
    (he : e' = .candidatePending → e = .candidatePending) : Alone a' b' c' d' e' := by
  refine ⟨?_, ?_, ?_, ?_⟩
  · intro hp
    obtain ⟨h1, h2, h3⟩ := h.besideSchedule (hb hp)
    exact ⟨mt hc h1, mt hd h2, mt he h3⟩
  · intro hp
    obtain ⟨h1, h2⟩ := h.besideConstraint (hc hp)
    exact ⟨mt hd h1, mt he h2⟩
  · intro hp
    exact mt he (h.besideCommute (hd hp))
  · intro hp
    have hr : a = .completed ∨ a = .skipped := by
      apply h.routesFirst
      obtain hp | hp | hp | hp := hp
      · exact .inl (hb hp)
      · exact .inr (.inl (hc hp))
      · exact .inr (.inr (.inl (hd hp)))
      · exact .inr (.inr (.inr (he hp)))
    obtain rfl | ha := ha
    · exact hr
    · exact ha

theorem Alone.of_none {a b c : OptimizationStatus} {d e : SearchingStatus}
    (hb : b ≠ .candidatePending) (hc : c ≠ .candidatePending) (hd : d ≠ .candidatePending)
    (he : e ≠ .candidatePending) : Alone a b c d e :=
  ⟨fun h => absurd h hb, fun h => absurd h hc, fun h => absurd h hd, by
    rintro (h | h | h | h)
    · exact absurd h hb
    · exact absurd h hc
    · exact absurd h hd
    · exact absurd h he⟩

theorem skipUnless_pending {status : OptimizationStatus} {wanted : Bool}
    (h : status.skipUnless wanted = .candidatePending) : status = .candidatePending := by
  unfold OptimizationStatus.skipUnless at h
  split at h
  · cases h
  · exact h

theorem skipUnless_relax (status : OptimizationStatus) (wanted : Bool) :
    status.skipUnless wanted = status ∨ status.skipUnless wanted = .completed ∨
      status.skipUnless wanted = .skipped := by
  unfold OptimizationStatus.skipUnless
  split
  · exact .inr (.inr rfl)
  · exact .inl rfl

theorem RoutesScored.intro {request : TripRequest} {p : TripPlan} {r : RouteEstimateResult F D}
    {q : RouteQualityReport D} {key : Option F} {schedule : Option (ScheduleQualityReport D)}
    (hr : r.planFingerprint = routeFingerprint kit request p)
    (hk : key = none ∨ key = some (snapshotFingerprint kit request p (some r))) :
    RoutesScored kit request (some p) (some r) (some (routeFingerprint kit request p)) (some q)
      (some (routeFingerprint kit request p)) key schedule :=
  ⟨p, rfl, rfl, hr, nofun, fun _ _ => ⟨rfl, hk⟩⟩

/-- The timeline plays no part while there are estimates. -/
theorem RoutesScored.retimed {request : TripRequest} {plan : Option TripPlan}
    {routes : Option (RouteEstimateResult F D)} {fingerprint : Option F}
    {quality : Option (RouteQualityReport D)} {qualityFingerprint key : Option F}
    {schedule schedule' : Option (ScheduleQualityReport D)} {r : RouteEstimateResult F D}
    (h : RoutesScored kit request plan routes fingerprint quality qualityFingerprint key schedule)
    (hr : routes = some r) :
    RoutesScored kit request plan routes fingerprint quality qualityFingerprint key schedule' := by
  subst hr
  exact h

theorem Timed.intro {request : TripRequest} {o : RouteOptimization F D} {p : TripPlan}
    {quality : Option (RouteQualityReport D)} {schedule : Option (ScheduleQualityReport D)} :
    Timed kit request o (some p) quality schedule (some (routeFingerprint kit request p)) := by
  intro p' t hp _
  obtain rfl := Option.some.inj hp
  exact .inl rfl

/-- A new record of the optimisation does not touch a timeline of the plan. -/
theorem Timed.settled {request : TripRequest} {o o' : RouteOptimization F D}
    {plan : Option TripPlan} {quality : Option (RouteQualityReport D)}
    {schedule : Option (ScheduleQualityReport D)} {fingerprint : Option F}
    (h : Timed kit request o plan quality schedule fingerprint)
    (hn : ∀ q, quality = some q → o.status = .candidatePending → o.baselineQuality ≠ some q) :
    Timed kit request o' plan quality schedule fingerprint := by
  intro p t hp ht
  obtain hf | ⟨hs, q, hq, hb⟩ := h p t hp ht
  · exact .inl hf
  · exact absurd hb (hn q hq hs)

theorem when_some {b : Bool} {k : F} : (if b then some k else none) = none ∨
    (if b then some k else none) = some k := by
  cases b
  · exact .inl rfl
  · exact .inr rfl

/- A baseline stays with its record when only the status changes. -/

section Backed

variable {request : TripRequest}

theorem RouteBacked.withStatus {o : RouteOptimization F D} (h : RouteBacked kit request o)
    {status : OptimizationStatus} (hs : status = .candidatePending → o.status = .candidatePending) :
    RouteBacked kit request { o with status := status } := by
  intro hp
  obtain ⟨p, r, q, hb⟩ := h (hs hp)
  exact ⟨p, r, q, hb.candidate, hb.plan, hb.routes, hb.quality, hb.fingerprint, hb.estimates⟩

theorem ScheduleBacked.withStatus {o : ScheduleOptimization F D} (h : ScheduleBacked kit request o)
    {status : OptimizationStatus} (hs : status = .candidatePending → o.status = .candidatePending) :
    ScheduleBacked kit request { o with status := status } := by
  intro hp
  obtain ⟨p, r, q, t, hb⟩ := h (hs hp)
  exact ⟨p, r, q, t, hb.candidate, hb.plan, hb.routes, hb.routeQuality, hb.quality, hb.fingerprint,
    hb.estimates⟩

theorem ConstraintBacked.withStatus {o : ConstraintOptimization F D}
    (h : ConstraintBacked kit request o) {status : OptimizationStatus}
    (hs : status = .candidatePending → o.status = .candidatePending) :
    ConstraintBacked kit request { o with status := status } := by
  intro hp
  obtain ⟨p, r, q, t, k, hb⟩ := h (hs hp)
  exact ⟨p, r, q, t, k, hb.candidate, hb.plan, hb.routes, hb.routeQuality, hb.schedule, hb.report,
    hb.fingerprint, hb.estimates⟩

theorem CommuteBacked.withStatus {o : CommuteOptimization F D} (h : CommuteBacked kit request o)
    {status : SearchingStatus} (hs : status = .candidatePending → o.status = .candidatePending) :
    CommuteBacked kit request { o with status := status } := by
  intro hp
  obtain ⟨c, p, r, q, m, t, k, hb⟩ := h (hs hp)
  exact ⟨c, p, r, q, m, t, k, hb.candidate, hb.plan, hb.routes, hb.routeQuality, hb.report,
    hb.schedule, hb.constraints, hb.fingerprint, hb.constraintFingerprint, hb.estimates⟩

end Backed

section Settled

variable [DecidableEq F] {p : TripPlan} {r : RouteEstimateResult F D} {q : RouteQualityReport D}

/-- Once the routes are settled, their optimisation is over. -/
theorem RouteSettled.routeOver (hq : RouteSettled kit s p r q) (hI : Phased kit s) :
    s.route.status = .completed ∨ s.route.status = .skipped := by
  rcases hs : s.route.status
  · obtain ⟨hw, hc, -⟩ := hI.untried hs p r q hq.plan hq.routes hq.quality
    have := hq.routeNotWanted
    simp [routeWanted, hs, hq.quality, hw, hc] at this
  · exact absurd hs hq.routeNotPending
  · exact .inl rfl
  · exact .inr rfl

theorem RouteSettled.routeStarted (hq : RouteSettled kit s p r q) (hI : Phased kit s) :
    s.route.status ≠ .notStarted := by
  obtain hs | hs := hq.routeOver hI <;> rw [hs] <;> decide

omit [DecidableEq F] in
theorem timed_none {request : TripRequest} {o : RouteOptimization F D} {plan : Option TripPlan}
    {quality : Option (RouteQualityReport D)} {fingerprint : Option F} :
    Timed kit request o plan quality none fingerprint := by
  intro p t hp ht
  cases ht

omit [DecidableEq F] in
theorem wanted_notStarted (h : routeWanted s = true) : s.route.status = .notStarted := by
  simp only [routeWanted, Bool.and_eq_true, beq_iff_eq] at h
  exact h.1.1

omit [DecidableEq F] in
theorem wanted_alone (hI : Phased kit s) (h : routeWanted s = true) :
    s.schedule.status ≠ .candidatePending ∧ s.constraint.status ≠ .candidatePending ∧
      s.commute.status ≠ .candidatePending ∧ s.refill.status ≠ .candidatePending := by
  have hn := wanted_notStarted h
  have hover (hp : s.schedule.status = .candidatePending ∨ s.constraint.status = .candidatePending ∨
      s.commute.status = .candidatePending ∨ s.refill.status = .candidatePending) : False := by
    obtain hs | hs := hI.alone.routesFirst hp <;> rw [hn] at hs <;> cases hs
  exact ⟨fun h => hover (.inl h), fun h => hover (.inr (.inl h)),
    fun h => hover (.inr (.inr (.inl h))), fun h => hover (.inr (.inr (.inr h)))⟩

end Settled

theorem searching_none {refill : SearchingStatus} (h : refill ≠ .supplementNeeded) :
    Searching (D := D) none .notStarted refill := by
  refine ⟨⟨nofun, ?_⟩, nofun⟩
  rintro (h' | h')
  · cases h'
  · exact absurd h' h

/-- Where no search is asked for, the phase of a search may change freely. -/
theorem Searching.idle {query : Option (CommuteSupplementQuery D)} {c r c' r' : SearchingStatus}
    (h : Searching query c r) (hc : c' = .supplementNeeded ↔ c = .supplementNeeded)
    (hr : r' = .supplementNeeded ↔ r = .supplementNeeded) : Searching query c' r' := by
  refine ⟨?_, ?_⟩
  · rw [hc, hr]
    exact h.1
  · rw [hc, hr]
    exact h.2

section Installs

variable [DecidableEq F] {p : TripPlan} {r : RouteEstimateResult F D} {q : RouteQualityReport D}
  {t : ScheduleQualityReport D} {k : TripConstraintReport F D}

theorem phased_installRoutes (hI : Phased kit s) (hq : Scored kit s p r q)
    (h : routeWanted s = true) (c : OptimizationCandidate D) :
    Phased kit (installRoutes kit s p r q c) := by
  have he := (hI.estimated hq.plan hq.routes).estimates
  constructor <;> dsimp only [installRoutes, clearConstraintAnalysis, installPlan, dropRoutes,
    clearCommuteAnalysis, invalidate, Bool.false_eq_true, if_false]
  case routeBacked => exact fun _ => ⟨p, r, q, ⟨c, rfl⟩, rfl, rfl, rfl, rfl, he⟩
  case refillBacked => exact hI.refillBacked
  case searching => exact searching_none hq.notSearching
  case alone => exact .of_none nofun nofun nofun (wanted_alone hI h).2.2.2
  case scored => exact ⟨rfl, rfl⟩
  case timed => exact timed_none
  all_goals
    intro hp
    cases hp

theorem phased_installSchedule (hI : Phased kit s) (hq : CommuteSettled kit s p r q t)
    (c : OptimizationCandidate D) : Phased kit (installSchedule kit s p r q t c) := by
  have he := (hI.estimated hq.plan hq.routes).estimates
  constructor <;> dsimp only [installSchedule, clearConstraintAnalysis, installPlan, dropRoutes,
    clearCommuteAnalysis, invalidate, Bool.false_eq_true, if_false]
  case routeBacked => exact hI.routeBacked
  case scheduleBacked => exact fun _ => ⟨p, r, q, t, ⟨c, rfl⟩, rfl, rfl, rfl, rfl, rfl, he⟩
  case refillBacked => exact hI.refillBacked
  case searching => exact searching_none hq.notSearching
  case alone =>
    exact ⟨fun _ => ⟨nofun, nofun, hq.refillNotPending⟩, nofun, nofun, fun _ => hq.routeOver hI⟩
  case scored => exact ⟨rfl, rfl⟩
  case untried => exact fun hn => absurd hn (hq.routeStarted hI)
  case timed => exact timed_none
  all_goals
    intro hp
    cases hp

theorem phased_installConstraints (hI : Phased kit s) (hq : CommuteSettled kit s p r q t)
    (fingerprint key : Option F) (status : OptimizationStatus) (c : OptimizationCandidate D) :
    Phased kit (installConstraints kit (rechecked s k fingerprint key status) p r q t k c) := by
  have he := (hI.estimated hq.plan hq.routes).estimates
  constructor <;> dsimp only [installConstraints, installPlan, dropRoutes, clearCommuteAnalysis,
    invalidate, rechecked, Bool.false_eq_true, if_false]
  case routeBacked => exact hI.routeBacked
  case scheduleBacked => exact hI.scheduleBacked
  case constraintBacked =>
    exact fun _ => ⟨p, r, q, t, k, ⟨c, rfl⟩, rfl, rfl, rfl, rfl, rfl, rfl, he⟩
  case refillBacked => exact hI.refillBacked
  case searching => exact searching_none hq.notSearching
  case alone =>
    exact ⟨fun h => absurd h hq.scheduleNotPending, fun _ => ⟨nofun, hq.refillNotPending⟩, nofun,
      fun _ => hq.routeOver hI⟩
  case scored => exact ⟨rfl, rfl⟩
  case untried => exact fun hn => absurd hn (hq.routeStarted hI)
  case timed => exact timed_none
  all_goals
    intro hp
    cases hp

theorem phased_installReplacement (hI : Phased kit s) (hq : Quiet kit s p r q)
    (h : s.commute.status = .notStarted) (m : CommuteConstraintReport F D)
    (c : CommuteReplacementCandidate D) :
    Phased kit (installReplacement kit s p r q m t k c) := by
  have he := (hI.estimated hq.plan hq.routes).estimates
  constructor <;> dsimp only [installReplacement, dropRoutes]
  case routeBacked => exact hI.routeBacked
  case scheduleBacked => exact hI.scheduleBacked
  case constraintBacked => exact hI.constraintBacked
  case commuteBacked =>
    exact fun _ => ⟨c, p, r, q, m, t, k, rfl, rfl, rfl, rfl, rfl, rfl, rfl, rfl, rfl, he⟩
  case refillBacked => exact hI.refillBacked
  case searching =>
    have hs := hI.searching
    rw [h] at hs
    exact hs.idle (by simp) Iff.rfl
  case alone =>
    exact ⟨fun h => absurd h hq.scheduleNotPending, fun h => absurd h hq.constraintNotPending,
      fun _ => hq.refillNotPending, fun _ => hq.routeOver hI⟩
  case scored => exact ⟨rfl, rfl⟩
  case untried => exact fun hn => absurd hn (hq.routeStarted hI)
  case timed => exact timed_none
  all_goals
    intro hp
    cases hp

theorem phased_installRefill (hI : Phased kit s) (hq : CommuteSettled kit s p r q t)
    (c : ContentRefillCandidate D) : Phased kit (installRefill kit s p r q t k c) := by
  have he := (hI.estimated hq.plan hq.routes).estimates
  constructor <;> dsimp only [installRefill, installPlan, dropRoutes, clearCommuteAnalysis,
    invalidate, Bool.false_eq_true, if_false]
  case routeBacked => exact hI.routeBacked
  case scheduleBacked => exact hI.scheduleBacked
  case constraintBacked => exact hI.constraintBacked
  case refillBacked =>
    exact fun _ => ⟨c, p, r, q, t, k, rfl, rfl, rfl, rfl, rfl, rfl, rfl, rfl, he⟩
  case searching => exact searching_none nofun
  case alone =>
    exact ⟨fun h => absurd h hq.scheduleNotPending, fun h => absurd h hq.constraintNotPending, nofun,
      fun _ => hq.routeOver hI⟩
  case scored => exact ⟨rfl, rfl⟩
  case untried => exact fun hn => absurd hn (hq.routeStarted hI)
  case timed => exact timed_none
  all_goals
    intro hp
    cases hp

end Installs

section Routes

variable [DecidableEq F] {p : TripPlan} {r : RouteEstimateResult F D} {q : RouteQualityReport D}
  {t : ScheduleQualityReport D} {p₀ : TripPlan} {r₀ : RouteEstimateResult F D}
  {q₀ : RouteQualityReport D}

omit [DecidableEq F] in
/-- A better report is not the baseline itself. -/
theorem improvement_ne {kit : Kit F D} (h : isRouteQualityImprovement kit q₀ q = true) :
    q₀ ≠ q := by
  rintro rfl
  simp [isRouteQualityImprovement] at h

theorem phased_settleRoutes (hI : Phased kit s) (hq : Scored kit s p r q)
    (hb : RouteBaseline kit s.request s.route p₀ r₀ q₀)
    (ha : isRouteQualityImprovement kit q₀ q = true) : Phased kit (settleRoutes s) := by
  constructor <;> dsimp only [settleRoutes, RouteOptimization.cleared]
  case scheduleBacked => exact hI.scheduleBacked
  case constraintBacked => exact hI.constraintBacked
  case commuteBacked => exact hI.commuteBacked
  case refillBacked => exact hI.refillBacked
  case searching => exact hI.searching
  case alone => exact hI.alone.relax (.inr (.inl rfl)) id id id id
  case scored => exact hI.scored
  case timed =>
    apply hI.timed.settled
    intro q' hq' _ hb'
    rw [hq.quality] at hq'
    rw [hb.quality] at hb'
    exact improvement_ne ha ((Option.some.inj hb').trans (Option.some.inj hq').symm)
  case unplanned => exact hI.unplanned
  all_goals
    intro hp
    cases hp

theorem phased_revertedRoutes (hI : Phased kit s)
    (hb : RouteBaseline kit s.request s.route p₀ r₀ q₀) (t : ScheduleQualityReport D) :
    Phased kit (settleRoutes (synchronize kit (withSchedule kit
      (revertRoutes kit s p₀ r₀ q₀ (routeFingerprint kit s.request p₀)) p₀ t))) := by
  constructor <;> dsimp only [settleRoutes, RouteOptimization.cleared, synchronize, withSchedule,
    revertRoutes, restorePlan, synchronizedFingerprints]
  case scheduleBacked =>
    intro hp
    exact absurd (skipUnless_pending hp) nofun
  case constraintBacked => exact hI.constraintBacked
  case commuteBacked => exact hI.commuteBacked
  case refillBacked => exact hI.refillBacked
  case searching => exact hI.searching
  case alone =>
    exact hI.alone.relax (.inr (.inl rfl)) (fun hp => absurd (skipUnless_pending hp) nofun) id id id
  case scored => exact .intro hb.estimates when_some
  case timed => exact .intro
  all_goals
    intro hp
    cases hp

omit [DecidableEq F] in
/-- If the timeline of the baseline cannot be built, the plan is back but the
verification still pending. -/
theorem phased_revertRoutes (hI : Phased kit s) (h : s.route.status = .candidatePending)
    (hb : RouteBaseline kit s.request s.route p₀ r₀ q₀) :
    Phased kit (revertRoutes kit s p₀ r₀ q₀ (routeFingerprint kit s.request p₀)) := by
  constructor <;> dsimp only [revertRoutes, restorePlan]
  case routeBacked => exact hI.routeBacked
  case constraintBacked => exact hI.constraintBacked
  case commuteBacked => exact hI.commuteBacked
  case refillBacked => exact hI.refillBacked
  case searching => exact hI.searching
  case alone => exact hI.alone.relax (.inl rfl) nofun id id id
  case scored => exact .intro hb.estimates (.inr rfl)
  case timed => exact fun _ _ _ _ => .inr ⟨h, q₀, rfl, hb.quality⟩
  case untried =>
    intro hn
    rw [h] at hn
    cases hn
  all_goals
    intro hp
    cases hp

omit [DecidableEq F] in
theorem phased_skipRoutes (hI : Phased kit s) (h : routeWanted s = true) :
    Phased kit (skipRoutes s) := by
  have hn := wanted_notStarted h
  constructor <;> dsimp only [skipRoutes]
  case scheduleBacked => exact hI.scheduleBacked
  case constraintBacked => exact hI.constraintBacked
  case commuteBacked => exact hI.commuteBacked
  case refillBacked => exact hI.refillBacked
  case searching => exact hI.searching
  case alone => exact hI.alone.relax (.inr (.inr rfl)) id id id id
  case scored => exact hI.scored
  case timed =>
    apply hI.timed.settled
    intro _ _ hp
    rw [hn] at hp
    cases hp
  case unplanned => exact hI.unplanned
  all_goals
    intro hp
    cases hp

end Routes

section Estimates

variable [DecidableEq F] {p : TripPlan} {r : RouteEstimateResult F D} {q : RouteQualityReport D}
  {t : ScheduleQualityReport D}

omit [DecidableEq F] in
theorem skipUnless_notStarted {status : OptimizationStatus} {wanted : Bool}
    (h : status.skipUnless wanted = .notStarted) : wanted = true := by
  unfold OptimizationStatus.skipUnless at h
  split at h
  · cases h
  · rename_i hn
    simpa [h] using hn

omit [DecidableEq F] in
theorem phased_withRoutes (hI : Phased kit s) (hr : RoutesFor kit s p r) {m : String}
    (hq : kit.evaluateRouteQuality p r = .error m) : Phased kit (withRoutes s r) := by
  obtain ⟨hn, ht⟩ := hI.unrouted hr.unrouted
  constructor <;> dsimp only [withRoutes, invalidate]
  case routeBacked => exact hI.routeBacked
  case scheduleBacked => exact hI.scheduleBacked
  case constraintBacked => exact hI.constraintBacked
  case commuteBacked => exact hI.commuteBacked
  case refillBacked => exact hI.refillBacked
  case searching => exact hI.searching
  case alone => exact hI.alone
  case scored =>
    rw [hn, hr.estimates]
    exact ⟨p, hr.plan, rfl, hr.estimates, fun _ => ⟨m, hq⟩, nofun⟩
  case timed =>
    rw [ht]
    nofun
  case untried =>
    rw [hn]
    nofun
  case unplanned => exact hI.unplanned

omit [DecidableEq F] in
theorem phased_scored (hI : Phased kit s) (hr : RoutesFor kit s p r)
    (ht : (kit.evaluateSchedule s.request p r).toOption = none) (q : RouteQualityReport D) :
    Phased kit (withRouteReport kit (withRoutes s r) p q) := by
  obtain ⟨-, hn⟩ := hI.unrouted hr.unrouted
  constructor <;> dsimp only [withRouteReport, withRoutes, invalidate]
  case routeBacked => exact hI.routeBacked.withStatus skipUnless_pending
  case scheduleBacked => exact hI.scheduleBacked
  case constraintBacked => exact hI.constraintBacked
  case commuteBacked => exact hI.commuteBacked
  case refillBacked => exact hI.refillBacked
  case searching => exact hI.searching
  case alone => exact hI.alone.relax (skipUnless_relax _ _) id id id id
  case scored =>
    rw [hr.plan, hr.estimates]
    exact .intro hr.estimates (.inr rfl)
  case timed =>
    rw [hn]
    nofun
  case untried =>
    intro hs p' r' q' hp' hr' hq'
    rw [hr.plan] at hp'
    obtain rfl := Option.some.inj hp'
    obtain rfl := Option.some.inj hr'
    obtain rfl := Option.some.inj hq'
    have hw := skipUnless_notStarted hs
    rw [Bool.and_eq_true] at hw
    exact ⟨hw.1, of_decide_eq_true hw.2, hn.trans ht.symm⟩
  case unplanned => exact hI.unplanned

theorem phased_withSchedule (hI : Phased kit s) (hq : RouteSettled kit s p r q)
    (t : ScheduleQualityReport D) : Phased kit (withSchedule kit s p t) := by
  constructor <;> dsimp only [withSchedule]
  case routeBacked => exact hI.routeBacked
  case scheduleBacked => exact hI.scheduleBacked.withStatus skipUnless_pending
  case constraintBacked => exact hI.constraintBacked
  case commuteBacked => exact hI.commuteBacked
  case refillBacked => exact hI.refillBacked
  case searching => exact hI.searching
  case alone => exact hI.alone.relax (.inl rfl) skipUnless_pending id id id
  case scored => exact hI.scored.retimed hq.routes
  case timed =>
    rw [hq.plan]
    exact .intro
  case untried => exact fun hn => absurd hn (hq.routeStarted hI)
  case unplanned => exact hI.unplanned

omit [DecidableEq F] in
theorem phased_routed (hI : Phased kit s) (hr : RoutesFor kit s p r)
    (ht : kit.evaluateSchedule s.request p r = .ok t) (q : RouteQualityReport D) :
    Phased kit { withSchedule kit (withRouteReport kit (withRoutes s r) p q) p t with
      lastValidationResult := none } := by
  constructor <;> dsimp only [withSchedule, withRouteReport, withRoutes, invalidate]
  case routeBacked => exact hI.routeBacked.withStatus skipUnless_pending
  case scheduleBacked => exact hI.scheduleBacked.withStatus skipUnless_pending
  case constraintBacked => exact hI.constraintBacked
  case commuteBacked => exact hI.commuteBacked
  case refillBacked => exact hI.refillBacked
  case searching => exact hI.searching
  case alone => exact hI.alone.relax (skipUnless_relax _ _) skipUnless_pending id id id
  case scored =>
    rw [hr.plan, hr.estimates]
    exact .intro hr.estimates (.inr rfl)
  case timed =>
    rw [hr.plan]
    exact .intro
  case untried =>
    intro hs p' r' q' hp' hr' hq'
    rw [hr.plan] at hp'
    obtain rfl := Option.some.inj hp'
    obtain rfl := Option.some.inj hr'
    obtain rfl := Option.some.inj hq'
    have hw := skipUnless_notStarted hs
    rw [Bool.and_eq_true] at hw
    rw [ht]
    exact ⟨hw.1, of_decide_eq_true hw.2, rfl⟩
  case unplanned => exact hI.unplanned

end Estimates

section Records

variable {p : TripPlan} {r : RouteEstimateResult F D}

/-- The facts, the descriptions and the verdict play no part in the phases. -/
theorem Phased.frame (hI : Phased kit s) {status : AgentStatus} {finished : Bool} {repairs : Nat}
    {attractions weather hotels restaurants : Option D} {restaurantsAt contentAt : Option F}
    {v : Option TripValidationResult} {acceptance : Option PartialAcceptanceReport}
    {mode : Option CompletionMode} {warnings : List String} {evaluations : EvaluationFingerprints F}
    (he : evaluations.routeQuality = s.evaluations.routeQuality) :
    Phased kit { s with
      status := status
      finished := finished
      repairCount := repairs
      attractions := attractions
      weather := weather
      hotels := hotels
      restaurants := restaurants
      restaurantPlanFingerprint := restaurantsAt
      planConsistencyFingerprint := contentAt
      lastValidationResult := v
      acceptanceReport := acceptance
      completionMode := mode
      completionWarnings := warnings
      evaluations := evaluations } := by
  have hscored := hI.scored
  rw [← he] at hscored
  exact ⟨hI.routeBacked, hI.scheduleBacked, hI.constraintBacked, hI.commuteBacked, hI.refillBacked,
    hI.searching, hI.alone, hscored, hI.timed, hI.untried, hI.unplanned⟩

/-- An optimisation that is over leaves the phases of the others. -/
theorem Phased.scheduleOver (hI : Phased kit s) {o : ScheduleOptimization F D}
    (h : o.status ≠ .candidatePending) : Phased kit { s with schedule := o } := by
  constructor <;> dsimp only
  case routeBacked => exact hI.routeBacked
  case scheduleBacked => exact fun hp => absurd hp h
  case constraintBacked => exact hI.constraintBacked
  case commuteBacked => exact hI.commuteBacked
  case refillBacked => exact hI.refillBacked
  case searching => exact hI.searching
  case alone => exact hI.alone.relax (.inl rfl) (fun hp => absurd hp h) id id id
  case scored => exact hI.scored
  case timed => exact hI.timed
  case untried => exact hI.untried
  case unplanned => exact hI.unplanned

theorem Phased.constraintOver (hI : Phased kit s) {o : ConstraintOptimization F D}
    (h : o.status ≠ .candidatePending) : Phased kit { s with constraint := o } := by
  constructor <;> dsimp only
  case routeBacked => exact hI.routeBacked
  case scheduleBacked => exact hI.scheduleBacked
  case constraintBacked => exact fun hp => absurd hp h
  case commuteBacked => exact hI.commuteBacked
  case refillBacked => exact hI.refillBacked
  case searching => exact hI.searching
  case alone => exact hI.alone.relax (.inl rfl) id (fun hp => absurd hp h) id id
  case scored => exact hI.scored
  case timed => exact hI.timed
  case untried => exact hI.untried
  case unplanned => exact hI.unplanned

/-- A search that is asked for comes with its query. -/
theorem Phased.setCommute (hI : Phased kit s) {o : CommuteOptimization F D}
    (query : Option (CommuteSupplementQuery D)) (hb : CommuteBacked kit s.request o)
    (hs : Searching query o.status s.refill.status)
    (hp : o.status = .candidatePending → s.commute.status = .candidatePending) :
    Phased kit { s with commute := o, commuteSupplementQuery := query } := by
  constructor <;> dsimp only
  case routeBacked => exact hI.routeBacked
  case scheduleBacked => exact hI.scheduleBacked
  case constraintBacked => exact hI.constraintBacked
  case commuteBacked => exact hb
  case refillBacked => exact hI.refillBacked
  case searching => exact hs
  case alone => exact hI.alone.relax (.inl rfl) id id hp id
  case scored => exact hI.scored
  case timed => exact hI.timed
  case untried => exact hI.untried
  case unplanned => exact hI.unplanned

theorem Phased.refillOver (hI : Phased kit s) {o : ContentRefill F D}
    (query : Option (CommuteSupplementQuery D)) (h : o.status ≠ .candidatePending)
    (hs : Searching query s.commute.status o.status) (hp : s.tripPlan ≠ none) :
    Phased kit { s with refill := o, commuteSupplementQuery := query } := by
  constructor <;> dsimp only
  case routeBacked => exact hI.routeBacked
  case scheduleBacked => exact hI.scheduleBacked
  case constraintBacked => exact hI.constraintBacked
  case commuteBacked => exact hI.commuteBacked
  case refillBacked => exact fun hp => absurd hp h
  case searching => exact hs
  case alone => exact hI.alone.relax (.inl rfl) id id id (fun hp => absurd hp h)
  case scored => exact hI.scored
  case timed => exact hI.timed
  case untried => exact hI.untried
  case unplanned => exact fun h => absurd h hp

/-- A baseline that is back, together with its reports. -/
theorem Phased.restored [DecidableEq F] (hI : Phased kit s) (hn : s.route.status ≠ .notStarted)
    (he : r.planFingerprint = routeFingerprint kit s.request p) (q : RouteQualityReport D)
    (t : ScheduleQualityReport D) (constraints : Option (TripConstraintReport F D))
    (commutes : Option (CommuteConstraintReport F D)) (constraintsAt commutesAt : Option F) :
    Phased kit (synchronize kit
      { restoreSchedule (restorePlan s p r q (routeFingerprint kit s.request p)) t
          (routeFingerprint kit s.request p) with
        constraintReport := constraints
        constraintPlanFingerprint := constraintsAt
        commuteReport := commutes
        commutePlanFingerprint := commutesAt }) := by
  constructor <;> dsimp only [synchronize, restoreSchedule, restorePlan, synchronizedFingerprints]
  case routeBacked => exact hI.routeBacked
  case scheduleBacked => exact hI.scheduleBacked
  case constraintBacked => exact hI.constraintBacked
  case commuteBacked => exact hI.commuteBacked
  case refillBacked => exact hI.refillBacked
  case searching => exact hI.searching
  case alone => exact hI.alone
  case scored => exact .intro he when_some
  case timed => exact .intro
  case untried => exact fun h => absurd h hn
  case unplanned => nofun

end Records

section Settles

variable [DecidableEq F] {p : TripPlan} {r : RouteEstimateResult F D} {q : RouteQualityReport D}
  {t : ScheduleQualityReport D} {k : TripConstraintReport F D} {p₀ : TripPlan}
  {r₀ : RouteEstimateResult F D} {q₀ : RouteQualityReport D}

omit [DecidableEq F] in
theorem phased_settleSchedule (hI : Phased kit s) : Phased kit (settleSchedule s) :=
  (hI.scheduleOver (o := { s.schedule.cleared with status := .completed }) nofun).frame rfl

theorem phased_revertSchedule (hI : Phased kit s) (hq : RouteSettled kit s p r q)
    (he : r₀.planFingerprint = routeFingerprint kit s.request p₀) (t₀ : ScheduleQualityReport D) :
    Phased kit (revertSchedule kit s p₀ r₀ q₀ t₀ (routeFingerprint kit s.request p₀)) :=
  phased_settleSchedule (hI.restored (hq.routeStarted hI) he q₀ t₀ _ _ _ _)

omit [DecidableEq F] in
theorem phased_skipSchedule (hI : Phased kit s) : Phased kit (skipSchedule s) :=
  hI.scheduleOver nofun

omit [DecidableEq F] in
theorem phased_rechecked (hI : Phased kit s) {status : OptimizationStatus}
    (hs : Restatus s.constraint.status status) (fingerprint key : Option F) :
    Phased kit (rechecked s k fingerprint key status) := by
  have hpending : status = .candidatePending → s.constraint.status = .candidatePending := by
    obtain rfl | ⟨-, rfl⟩ := hs
    · exact id
    · nofun
  constructor <;> dsimp only [rechecked]
  case routeBacked => exact hI.routeBacked
  case scheduleBacked => exact hI.scheduleBacked
  case constraintBacked => exact hI.constraintBacked.withStatus hpending
  case commuteBacked => exact hI.commuteBacked
  case refillBacked => exact hI.refillBacked
  case searching => exact hI.searching
  case alone => exact hI.alone.relax (.inl rfl) id hpending id id
  case scored => exact hI.scored
  case timed => exact hI.timed
  case untried => exact hI.untried
  case unplanned => exact hI.unplanned

omit [DecidableEq F] in
theorem phased_withConstraints (hI : Phased kit s) (p : TripPlan) (k : TripConstraintReport F D) :
    Phased kit (withConstraints kit s p k) := by
  apply phased_rechecked hI
  by_cases hn : s.constraint.status = .notStarted ∧ k.optimizationRecommended = false
  · exact .inr ⟨hn.1, if_pos hn⟩
  · exact .inl (if_neg hn)

omit [DecidableEq F] in
theorem phased_settleConstraints (hI : Phased kit s) : Phased kit (settleConstraints s) :=
  (hI.constraintOver (o := { s.constraint.cleared with status := .completed }) nofun).frame rfl

theorem phased_revertConstraints (hI : Phased kit s) (hs : s.route.status ≠ .notStarted)
    (he : r₀.planFingerprint = routeFingerprint kit s.request p₀) (t₀ : ScheduleQualityReport D)
    (k₀ : TripConstraintReport F D) (fingerprint : F) :
    Phased kit (revertConstraints kit s p₀ r₀ q₀ t₀ k₀ fingerprint) :=
  phased_settleConstraints (hI.restored hs he q₀ t₀ _ _ _ _)

omit [DecidableEq F] in
theorem phased_skipConstraints (hI : Phased kit s) : Phased kit (skipConstraints s) :=
  hI.constraintOver nofun

end Settles

section Searches

variable {p : TripPlan} {r : RouteEstimateResult F D} {q : RouteQualityReport D}
  {p₀ : TripPlan} {r₀ : RouteEstimateResult F D} {q₀ : RouteQualityReport D}

theorem retryStatus_over (count limit : Nat) : retryStatus count limit ≠ .candidatePending ∧
    retryStatus count limit ≠ .supplementNeeded := by
  unfold retryStatus
  split <;> exact ⟨nofun, nofun⟩

/-- A new report neither starts nor ends a search or a verification. -/
theorem commuteStatusAfter_pending [DecidableEq F] {f : F} {recommended : Bool}
    (h : commuteStatusAfter s f recommended = .candidatePending) :
    s.commute.status = .candidatePending := by
  unfold commuteStatusAfter at h
  split at h
  · cases h
  · split at h
    · cases h
    · exact h

theorem commuteStatusAfter_searching [DecidableEq F] {f : F} {recommended : Bool} :
    commuteStatusAfter s f recommended = .supplementNeeded ↔
      s.commute.status = .supplementNeeded := by
  unfold commuteStatusAfter
  split
  · rename_i h
    obtain ⟨-, -, h | h⟩ := h <;> simp [h]
  · split
    · rename_i h
      simp [h.1]
    · exact Iff.rfl

theorem phased_withCommute [DecidableEq F] (hI : Phased kit s) (p : TripPlan)
    (m : CommuteConstraintReport F D) :
    Phased kit (withCommute kit s p m) := by
  constructor <;> dsimp only [withCommute]
  case routeBacked => exact hI.routeBacked
  case scheduleBacked => exact hI.scheduleBacked
  case constraintBacked => exact hI.constraintBacked
  case commuteBacked => exact hI.commuteBacked.withStatus commuteStatusAfter_pending
  case refillBacked => exact hI.refillBacked
  case searching => exact hI.searching.idle commuteStatusAfter_searching Iff.rfl
  case alone => exact hI.alone.relax (.inl rfl) id id commuteStatusAfter_pending id
  case scored => exact hI.scored
  case timed => exact hI.timed
  case untried => exact hI.untried
  case unplanned => exact hI.unplanned

/-- The replacement is over: with the search, nothing is left pending. -/
theorem Phased.commuteOver (hI : Phased kit s) {o : CommuteOptimization F D}
    (hp : o.status ≠ .candidatePending) (hs : o.status ≠ .supplementNeeded)
    (hc : s.commute.status ≠ .supplementNeeded) : Phased kit { s with commute := o } :=
  hI.setCommute s.commuteSupplementQuery (fun h => absurd h hp)
    (hI.searching.idle ⟨fun h => absurd h hs, fun h => absurd h hc⟩ Iff.rfl)
    (fun h => absurd h hp)

theorem phased_acceptReplacement (hI : Phased kit s) (h : s.commute.status = .candidatePending)
    (m : CommuteConstraintReport F D) : Phased kit (acceptReplacement s m) := by
  have hover : (if m.optimizationRecommended then
      retryStatus s.commute.replacementCount s.budget.maxCommuteReplacementAttempts
      else .completed) ≠ .candidatePending ∧ (if m.optimizationRecommended then
      retryStatus s.commute.replacementCount s.budget.maxCommuteReplacementAttempts
      else .completed) ≠ .supplementNeeded := by
    split
    · exact retryStatus_over _ _
    · exact ⟨nofun, nofun⟩
  refine (hI.commuteOver (o := { s.commute.cleared with status := _ }) hover.1 hover.2 ?_).frame rfl
  rw [h]
  nofun

theorem phased_revertReplacement [DecidableEq F] (hI : Phased kit s) (hn : s.route.status ≠ .notStarted)
    (h : s.commute.status = .candidatePending)
    (he : r₀.planFingerprint = routeFingerprint kit s.request p₀)
    (m₀ : CommuteConstraintReport F D) (t₀ : ScheduleQualityReport D)
    (k₀ : TripConstraintReport F D) (fingerprint : F) (c : CommuteReplacementCandidate D) :
    Phased kit (revertReplacement kit s p₀ r₀ q₀ m₀ t₀ k₀ (routeFingerprint kit s.request p₀)
      fingerprint c) := by
  have hover := retryStatus_over s.commute.replacementCount s.budget.maxCommuteReplacementAttempts
  have hrestored := hI.restored hn he q₀ t₀ (some k₀) (some m₀) (some fingerprint)
    (some (routeFingerprint kit s.request p₀))
  refine (hrestored.commuteOver (o := { s.commute.cleared with
    excludedCandidateIdentities := _, status := _ }) hover.1 hover.2 ?_).frame rfl
  change s.commute.status ≠ _
  rw [h]
  nofun

theorem phased_skipReplacement (hI : Phased kit s) (h : s.commute.status = .notStarted) :
    Phased kit (skipReplacement s) := by
  refine hI.commuteOver (o := { s.commute with status := .skipped }) nofun nofun ?_
  rw [h]
  nofun

theorem phased_searchReplacement (hI : Phased kit s) (hn : s.refill.status ≠ .supplementNeeded)
    (query : CommuteSupplementQuery D) : Phased kit (searchReplacement s query) := by
  refine hI.setCommute (o := { s.commute with status := .supplementNeeded }) (some query) nofun ?_ nofun
  exact ⟨⟨fun _ => .inl rfl, fun _ => rfl⟩, fun h => hn h.2⟩

theorem phased_endRefill (hI : Phased kit s) (hp : s.tripPlan = some p)
    (hn : s.refill.status ≠ .supplementNeeded) : Phased kit (endRefill s .skipped) := by
  refine hI.refillOver (o := { s.refill with status := .skipped })
    s.commuteSupplementQuery nofun ?_ ?_
  · exact hI.searching.idle Iff.rfl ⟨nofun, fun h => absurd h hn⟩
  · rw [hp]
    nofun

theorem phased_searchRefill (hI : Phased kit s) (hp : s.tripPlan = some p)
    (hn : s.commute.status ≠ .supplementNeeded) (query : CommuteSupplementQuery D) :
    Phased kit (searchRefill s query) := by
  refine hI.refillOver (o := { s.refill with status := .supplementNeeded }) (some query) nofun ?_ ?_
  · exact ⟨⟨fun _ => .inr rfl, fun _ => rfl⟩, fun h => hn h.1⟩
  · rw [hp]
    nofun

theorem phased_settleRefill (hI : Phased kit s) (hp : s.tripPlan = some p)
    (hn : s.refill.status ≠ .supplementNeeded) {status : SearchingStatus}
    (hs : status ≠ .candidatePending ∧ status ≠ .supplementNeeded) (excluded : List String) :
    Phased kit (settleRefill s status excluded) := by
  refine (hI.refillOver
    (o := { s.refill.cleared with status := status, excludedIdentities := excluded })
    s.commuteSupplementQuery hs.1 ?_ ?_).frame rfl
  · exact hI.searching.idle Iff.rfl ⟨fun h => absurd h hs.2, fun h => absurd h hn⟩
  · rw [hp]
    nofun

theorem phased_revertRefill [DecidableEq F] (hI : Phased kit s) (hs : s.route.status ≠ .notStarted)
    (h : s.refill.status = .candidatePending)
    (he : r₀.planFingerprint = routeFingerprint kit s.request p₀) (t₀ : ScheduleQualityReport D)
    (k₀ : TripConstraintReport F D) (fingerprint : F) (c : ContentRefillCandidate D) :
    Phased kit (revertRefill kit s p₀ r₀ q₀ t₀ k₀ (routeFingerprint kit s.request p₀)
      fingerprint c) := by
  have hrestored := hI.restored hs he q₀ t₀ (some k₀) s.commuteReport (some fingerprint)
    s.commutePlanFingerprint
  refine phased_settleRefill (p := p₀) hrestored rfl ?_ (retryStatus_over _ _) _
  change s.refill.status ≠ _
  rw [h]
  nofun

/-- The search that was asked for ends, for whoever has asked. -/
theorem phased_endSearch (hI : Phased kit s) (hp : s.tripPlan ≠ none) {status : SearchingStatus}
    (hs : status ≠ .candidatePending ∧ status ≠ .supplementNeeded) :
    Phased kit (endSearch s status) := by
  unfold endSearch
  split
  · rename_i hr
    refine hI.refillOver (o := { s.refill with
      supplementSearchCount := _, status := .notStarted }) none nofun ?_ hp
    refine ⟨⟨nofun, ?_⟩, fun h => nomatch h.2⟩
    rintro (hc | h)
    · exact absurd ⟨hc, hr⟩ hI.searching.2
    · cases h
  · rename_i hr
    refine hI.setCommute (o := { s.commute with supplementSearchCount := _, status := status })
      none (fun h => absurd h hs.1) ?_ (fun h => absurd h hs.1)
    refine ⟨⟨nofun, ?_⟩, fun h => hs.2 h.1⟩
    rintro (h | h)
    · exact absurd h hs.2
    · exact absurd h hr

end Searches

section Plans

variable {p : TripPlan} {r : RouteEstimateResult F D} {q : RouteQualityReport D}

theorem phased_cleared (hs : s.refill.status ≠ .supplementNeeded)
    (hp : s.refill.status ≠ .candidatePending) (plan : TripPlan) (reset : Bool) :
    Phased kit (clearRouteAnalysis { s with tripPlan := some plan } reset) := by
  have hcommute : (if reset = true then ({} : CommuteOptimization F D)
      else { s.commute.cleared with status := .notStarted }).status = .notStarted := by
    cases reset <;> rfl
  constructor <;> dsimp only [clearRouteAnalysis, clearConstraintAnalysis, clearCommuteAnalysis,
    dropRoutes, invalidate]
  case commuteBacked =>
    intro h
    rw [hcommute] at h
    cases h
  case refillBacked => exact fun h => absurd h hp
  case searching =>
    rw [hcommute]
    exact searching_none hs
  case alone =>
    rw [hcommute]
    exact .of_none nofun nofun nofun hp
  case scored => exact ⟨rfl, rfl⟩
  case timed => exact timed_none
  case untried =>
    intro hs p r q hplan hroutes
    cases hroutes
  all_goals
    intro hp
    cases hp

theorem phased_repaired (hs : s.refill.status ≠ .supplementNeeded)
    (hp : s.refill.status ≠ .candidatePending) (plan : TripPlan) :
    Phased kit (applyRepaired s plan) := by
  have hcleared : Phased kit (clearRouteAnalysis { s with
      tripPlan := some (removeDuplicateAttractions plan) } false) := phased_cleared hs hp _ _
  exact (hcleared.scheduleOver (o := { count := 0 }) nofun).frame rfl

theorem phased_withContent [DecidableEq F] (hI : Phased kit s) (hq : RouteSettled kit s p r q)
    {rb : TripPlan} (hf : routeFingerprint kit s.request rb = routeFingerprint kit s.request p) :
    Phased kit (withContent kit s rb) := by
  have he := hI.estimated hq.plan hq.routes
  constructor <;> dsimp only [withContent]
  case routeBacked => exact hI.routeBacked
  case scheduleBacked => exact hI.scheduleBacked
  case constraintBacked => exact hI.constraintBacked
  case commuteBacked => exact hI.commuteBacked
  case refillBacked => exact hI.refillBacked
  case searching => exact hI.searching
  case alone => exact hI.alone
  case scored =>
    rw [hq.routes, hq.quality, he.fingerprint, (he.scored q hq.quality).1, ← hf]
    refine .intro (he.estimates.trans hf.symm) ?_
    rw [snapshotFingerprint, hf, ← hq.routes]
    exact (he.scored q hq.quality).2
  case timed =>
    intro rb' t hrb ht
    obtain rfl := Option.some.inj hrb
    rw [hf]
    exact hI.timed p t hq.plan ht
  case untried => exact fun hn => absurd hn (hq.routeStarted hI)
  case unplanned => nofun

end Plans

end TravelAgent.Agent

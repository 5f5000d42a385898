import TravelAgent.AgentExecute

namespace TravelAgent.Agent

open TravelAgent.Itinerary

variable {F D : Type} [DecidableEq F] (kit : Kit F D) (s : AgentState F D)

/-- The routes at hand are those of the plan. -/
structure Routed (p : TripPlan) (r : RouteEstimateResult F D) : Prop where
  plan : s.tripPlan = some p
  routes : s.routeEstimates = some r
  fingerprint : s.routePlanFingerprint = some (routeFingerprint kit s.request p)

structure Scored (p : TripPlan) (r : RouteEstimateResult F D) (q : RouteQualityReport D) : Prop
    extends Routed kit s p r where
  notSearching : s.refill.status ≠ .supplementNeeded
  quality : s.routeQualityReport = some q
  qualityCurrent : routeQualityCurrent kit s p = true

structure RouteSettled (p : TripPlan) (r : RouteEstimateResult F D) (q : RouteQualityReport D) : Prop
    extends Scored kit s p r q where
  routeNotPending : s.route.status ≠ .candidatePending
  routeNotWanted : routeWanted s = false

/-- No candidate waits for its verification. -/
structure Quiet (p : TripPlan) (r : RouteEstimateResult F D) (q : RouteQualityReport D) : Prop
    extends RouteSettled kit s p r q where
  scheduleNotPending : s.schedule.status ≠ .candidatePending
  constraintNotPending : s.constraint.status ≠ .candidatePending
  refillNotPending : s.refill.status ≠ .candidatePending

structure Timely (p : TripPlan) (t : ScheduleQualityReport D) : Prop where
  report : s.scheduleQualityReport = some t
  current : scheduleCurrent kit s p = true

structure Feasible (p : TripPlan) (k : TripConstraintReport F D) : Prop where
  report : s.constraintReport = some k
  current : constraintsCurrent kit s p = true

structure CommuteKnown (p : TripPlan) (c : CommuteConstraintReport F D) : Prop where
  report : s.commuteReport = some c
  current : commuteCurrent kit s p = true

structure CommuteSettled (p : TripPlan) (r : RouteEstimateResult F D) (q : RouteQualityReport D)
    (t : ScheduleQualityReport D) : Prop extends Quiet kit s p r q, Timely kit s p t where
  commuteKnown : ∃ c, CommuteKnown kit s p c
  commuteNotSearching : s.commute.status ≠ .supplementNeeded
  commuteIdle : commuteNeedsAction s = false

/-- The choices of the loop, each with what it finds out on its way. -/
inductive Chosen : AgentAction → Prop where
  | searchAttractions (h : s.attractions = none) : Chosen .searchAttractions
  | getWeather (h : s.weather = none) : Chosen .getWeather
  | searchHotels (h : s.hotels = none) : Chosen .searchHotels
  | generatePlan (hf : chooseFacts s = none) (h : s.tripPlan = none) : Chosen .generatePlan
  | estimateRoutes {p} (hp : s.tripPlan = some p)
      (h : s.routeEstimates = none ∨
        s.routePlanFingerprint ≠ some (routeFingerprint kit s.request p)) : Chosen .estimateRoutes
  | refillSearch {p r} (hr : Routed kit s p r) (h : s.refill.status = .supplementNeeded) :
      Chosen .supplementAttractions
  | scoreRoutes {p r} (hr : Routed kit s p r) (hn : s.refill.status ≠ .supplementNeeded)
      (h : routeQualityCurrent kit s p = false) : Chosen .optimizeRoutes
  | verifyRoutes {p r q} (hq : Scored kit s p r q) (h : s.route.status = .candidatePending) :
      Chosen .optimizeRoutes
  | reorderRoutes {p r q} (hq : Scored kit s p r q) (h : routeWanted s = true) :
      Chosen .optimizeRoutes
  | timeline {p r q} (hq : RouteSettled kit s p r q) (h : scheduleCurrent kit s p = false) :
      Chosen .evaluateSchedule
  | verifySchedule {p r q t} (hq : RouteSettled kit s p r q)
      (h : s.schedule.status = .candidatePending) (ht : Timely kit s p t) : Chosen .optimizeSchedule
  | constraints {p r q t} (hq : RouteSettled kit s p r q)
      (hs : s.schedule.status ≠ .candidatePending) (ht : Timely kit s p t)
      (h : constraintsCurrent kit s p = false) : Chosen .evaluateConstraints
  | verifyConstraints {p r q t k} (hq : RouteSettled kit s p r q)
      (h : s.constraint.status = .candidatePending) (ht : Timely kit s p t)
      (hk : Feasible kit s p k) : Chosen .optimizeConstraints
  | verifyRefill {p r q t k} (hq : RouteSettled kit s p r q)
      (h : s.refill.status = .candidatePending) (ht : Timely kit s p t)
      (hk : Feasible kit s p k) : Chosen .refillAttractions
  | evaluateCommute {p r q} (hq : Quiet kit s p r q) (h : commuteCurrent kit s p = false) :
      Chosen .evaluateCommute
  | commuteSearch {p r q} (hq : Quiet kit s p r q) (h : s.commute.status = .supplementNeeded) :
      Chosen .supplementAttractions
  | replace {p r q c t k} (hq : Quiet kit s p r q) (hc : CommuteKnown kit s p c)
      (ht : Timely kit s p t) (hk : Feasible kit s p k) (h : commuteNeedsAction s = true) :
      Chosen .replaceRemoteAttraction
  | balance {p r q t} (hq : CommuteSettled kit s p r q t) (h : s.schedule.status = .notStarted)
      (hw : t.optimizationRecommended = true) : Chosen .optimizeSchedule
  | easeConstraints {p r q t k} (hq : CommuteSettled kit s p r q t) (hk : Feasible kit s p k)
      (h : s.constraint.status = .notStarted) (hw : k.optimizationRecommended = true) :
      Chosen .optimizeConstraints
  | refill {p r q t k} (hq : CommuteSettled kit s p r q t) (hk : Feasible kit s p k)
      (h : refillNeeded s p = true) : Chosen .refillAttractions
  | searchRestaurants {p r q t f} (hq : CommuteSettled kit s p r q t)
      (hf : restaurantSearchSourceFingerprint kit p = .ok f)
      (h : s.restaurants = none ∨ s.restaurantPlanFingerprint ≠ some f) : Chosen .searchRestaurants
  | rebuild {p r q t} (hq : CommuteSettled kit s p r q t)
      (h : s.planConsistencyFingerprint ≠ some (planContentSourceFingerprint kit s p)) :
      Chosen .rebuildPlanContent
  | validate {p r q t k} (hq : CommuteSettled kit s p r q t) (hk : Feasible kit s p k)
      (hp : choosePrior kit s p = .ok none) (h : chooseVerdict kit s p = .validatePlan) :
      Chosen .validatePlan
  | finish {p r q t k} (hq : CommuteSettled kit s p r q t) (hk : Feasible kit s p k)
      (hp : choosePrior kit s p = .ok none) (h : chooseVerdict kit s p = .finish) : Chosen .finish
  | repair {p r q t k} (hq : CommuteSettled kit s p r q t) (hk : Feasible kit s p k)
      (hp : choosePrior kit s p = .ok none) (h : chooseVerdict kit s p = .repairPlan) :
      Chosen .repairPlan

variable {kit s}

theorem isSome_of_current {α : Type} {o : Option α} {b : Bool} (h : (o.isSome && b) = true) :
    ∃ x, o = some x := by
  rw [Bool.and_eq_true] at h
  exact Option.isSome_iff_exists.mp h.1

theorem timely_of_current {p : TripPlan} (h : scheduleCurrent kit s p = true) :
    ∃ t, Timely kit s p t := by
  obtain ⟨t, ht⟩ := isSome_of_current h
  exact ⟨t, ht, h⟩

theorem feasible_of_current {p : TripPlan} (h : constraintsCurrent kit s p = true) :
    ∃ k, Feasible kit s p k := by
  obtain ⟨k, hk⟩ := isSome_of_current h
  exact ⟨k, hk, h⟩

theorem chooseFacts_some {a : AgentAction} (h : chooseFacts s = some a) : Chosen kit s a := by
  unfold chooseFacts at h
  split at h
  · obtain rfl := Option.some.inj h
    exact .searchAttractions (Option.isNone_iff_eq_none.mp ‹_›)
  · split at h
    · obtain rfl := Option.some.inj h
      exact .getWeather (Option.isNone_iff_eq_none.mp ‹_›)
    · split at h
      · obtain rfl := Option.some.inj h
        exact .searchHotels (Option.isNone_iff_eq_none.mp ‹_›)
      · cases h

theorem routed_or (p : TripPlan) (hp : s.tripPlan = some p)
    (h : ¬(s.routeEstimates.isNone ||
      s.routePlanFingerprint != some (routeFingerprint kit s.request p)) = true) :
    ∃ r, Routed kit s p r := by
  simp only [Bool.or_eq_true, bne_iff_ne, not_or, not_not, Bool.not_eq_true,
    Option.isNone_eq_false_iff] at h
  obtain ⟨r, hr⟩ := Option.isSome_iff_exists.mp h.1
  exact ⟨r, hp, hr, h.2⟩

theorem chooseRoutes_some {p : TripPlan} {a : AgentAction} (hp : s.tripPlan = some p)
    (h : chooseRoutes kit s p = some a) : Chosen kit s a := by
  unfold chooseRoutes at h
  split at h
  · rename_i hr
    obtain rfl := Option.some.inj h
    exact .estimateRoutes hp (by simpa using hr)
  · rename_i hr
    obtain ⟨r, hr⟩ := routed_or p hp hr
    split at h
    · obtain rfl := Option.some.inj h
      exact .refillSearch hr ‹_›
    · rename_i hn
      split at h
      · rename_i hq
        obtain rfl := Option.some.inj h
        exact .scoreRoutes hr hn (by simpa using hq)
      · rename_i hq
        have hq : routeQualityCurrent kit s p = true := by simpa using hq
        obtain ⟨q, hqs⟩ := isSome_of_current hq
        have hscored : Scored kit s p r q := ⟨hr, hn, hqs, hq⟩
        split at h
        · obtain rfl := Option.some.inj h
          exact .verifyRoutes hscored ‹_›
        · split at h
          · obtain rfl := Option.some.inj h
            exact .reorderRoutes hscored ‹_›
          · cases h

theorem chooseRoutes_none {p : TripPlan} (hp : s.tripPlan = some p)
    (h : chooseRoutes kit s p = none) : ∃ r q, RouteSettled kit s p r q := by
  unfold chooseRoutes at h
  split at h
  · cases h
  · rename_i hr
    obtain ⟨r, hr⟩ := routed_or p hp hr
    split at h
    · cases h
    · rename_i hn
      split at h
      · cases h
      · rename_i hq
        have hq : routeQualityCurrent kit s p = true := by simpa using hq
        obtain ⟨q, hqs⟩ := isSome_of_current hq
        split at h
        · cases h
        · split at h
          · cases h
          · exact ⟨r, q, ⟨hr, hn, hqs, hq⟩, ‹_›, by simpa using ‹¬routeWanted s = true›⟩

/-- A verification waits for the timeline, then for the constraint report. -/
theorem verification_chosen {p : TripPlan} {r : RouteEstimateResult F D} {q : RouteQualityReport D}
    {action a : AgentAction} (hq : RouteSettled kit s p r q)
    (hs : s.schedule.status ≠ .candidatePending)
    (hready : ∀ t k, Timely kit s p t → Feasible kit s p k → Chosen kit s action)
    (h : (if !scheduleCurrent kit s p then AgentAction.evaluateSchedule
      else if !constraintsCurrent kit s p then .evaluateConstraints else action) = a) :
    Chosen kit s a := by
  by_cases ht : scheduleCurrent kit s p = true
  · obtain ⟨t, hts⟩ := timely_of_current ht
    by_cases hk : constraintsCurrent kit s p = true
    · obtain ⟨k, hks⟩ := feasible_of_current hk
      simp only [ht, hk, Bool.not_true, Bool.false_eq_true, if_false] at h
      subst h
      exact hready t k hts hks
    · simp only [Bool.not_eq_true] at hk
      simp only [ht, hk, Bool.not_true, Bool.not_false, Bool.false_eq_true, if_false, if_true] at h
      subst h
      exact .constraints hq hs hts hk
  · simp only [Bool.not_eq_true] at ht
    simp only [ht, Bool.not_false, if_true] at h
    subst h
    exact .timeline hq ht

theorem chooseVerification_some {p : TripPlan} {r : RouteEstimateResult F D}
    {q : RouteQualityReport D} {a : AgentAction} (hq : RouteSettled kit s p r q)
    (h : chooseVerification kit s p = some a) : Chosen kit s a := by
  unfold chooseVerification at h
  dsimp only at h
  split at h
  · rename_i hs
    have ha := Option.some.inj h
    by_cases ht : scheduleCurrent kit s p = true
    · obtain ⟨t, hts⟩ := timely_of_current ht
      simp only [ht, if_true] at ha
      subst ha
      exact .verifySchedule hq hs hts
    · simp only [ht, Bool.false_eq_true, if_false] at ha
      subst ha
      exact .timeline hq (by simpa using ht)
  · rename_i hn
    split at h
    · rename_i hc
      exact verification_chosen hq hn (fun t k ht hk => .verifyConstraints hq hc ht hk)
        (Option.some.inj h)
    · split at h
      · rename_i hr
        exact verification_chosen hq hn (fun t k ht hk => .verifyRefill hq hr ht hk)
          (Option.some.inj h)
      · cases h

theorem chooseVerification_none {p : TripPlan} {r : RouteEstimateResult F D}
    {q : RouteQualityReport D} (hq : RouteSettled kit s p r q)
    (h : chooseVerification kit s p = none) : Quiet kit s p r q := by
  unfold chooseVerification at h
  dsimp only at h
  split at h
  · cases h
  · split at h
    · cases h
    · split at h
      · cases h
      · exact ⟨hq, ‹_›, ‹_›, ‹_›⟩

theorem commuteKnown_of_current {p : TripPlan} (h : commuteCurrent kit s p = true) :
    ∃ c, CommuteKnown kit s p c := by
  obtain ⟨c, hc⟩ := isSome_of_current h
  exact ⟨c, hc, h⟩

theorem chooseCommute_some {p : TripPlan} {r : RouteEstimateResult F D} {q : RouteQualityReport D}
    {a : AgentAction} (hq : Quiet kit s p r q) (h : chooseCommute kit s p = some a) :
    Chosen kit s a := by
  unfold chooseCommute at h
  split at h
  · rename_i hc
    obtain rfl := Option.some.inj h
    exact .evaluateCommute hq (by simpa using hc)
  · rename_i hc
    obtain ⟨c, hc⟩ := commuteKnown_of_current (by simpa using hc)
    split at h
    · rename_i ht
      obtain rfl := Option.some.inj h
      exact .timeline hq.toRouteSettled (by simpa using ht)
    · rename_i ht
      have hcurrent : scheduleCurrent kit s p = true := by simpa using ht
      obtain ⟨t, ht⟩ := timely_of_current hcurrent
      split at h
      · obtain rfl := Option.some.inj h
        exact .commuteSearch hq ‹_›
      · rename_i hn
        split at h
        · rename_i hw
          have ha := Option.some.inj h
          by_cases hk : constraintsCurrent kit s p = true
          · obtain ⟨k, hks⟩ := feasible_of_current hk
            simp only [hk, Bool.not_true, Bool.false_eq_true, if_false] at ha
            subst ha
            exact .replace hq hc ht hks hw
          · simp only [Bool.not_eq_true] at hk
            simp only [hk, Bool.not_false, if_true] at ha
            subst ha
            exact .constraints hq.toRouteSettled hq.scheduleNotPending ht hk
        · rename_i hw
          split at h
          · rename_i hb
            obtain rfl := Option.some.inj h
            refine .balance ⟨hq, ht, ⟨c, hc⟩, hn, by simpa using hw⟩ hb.1 ?_
            simpa [ht.report] using hb.2
          · cases h

theorem chooseCommute_none {p : TripPlan} {r : RouteEstimateResult F D} {q : RouteQualityReport D}
    (hq : Quiet kit s p r q) (h : chooseCommute kit s p = none) :
    ∃ t, CommuteSettled kit s p r q t := by
  unfold chooseCommute at h
  split at h
  · cases h
  · rename_i hc
    obtain ⟨c, hc⟩ := commuteKnown_of_current (by simpa using hc)
    split at h
    · cases h
    · rename_i ht
      have hcurrent : scheduleCurrent kit s p = true := by simpa using ht
      obtain ⟨t, ht⟩ := timely_of_current hcurrent
      split at h
      · cases h
      · rename_i hn
        split at h
        · cases h
        · rename_i hw
          exact ⟨t, hq, ht, ⟨c, hc⟩, hn, by simpa using hw⟩

theorem eased_chosen {p : TripPlan} {r : RouteEstimateResult F D} {q : RouteQualityReport D}
    {t : ScheduleQualityReport D} {k : TripConstraintReport F D}
    (hq : CommuteSettled kit s p r q t) (hk : Feasible kit s p k)
    (h : constraintWanted s = true) : Chosen kit s .optimizeConstraints := by
  have hw : s.constraint.status = .notStarted ∧ k.optimizationRecommended = true := by
    simpa [constraintWanted, hq.constraintNotPending, hk.report] using h
  exact .easeConstraints hq hk hw.1 hw.2

theorem chooseRefill_some {p : TripPlan} {r : RouteEstimateResult F D} {q : RouteQualityReport D}
    {t : ScheduleQualityReport D} {a : AgentAction} (hq : CommuteSettled kit s p r q t)
    (h : chooseRefill kit s p = some a) : Chosen kit s a := by
  unfold chooseRefill at h
  split at h
  · rename_i hn
    have hneeded : refillNeeded s p = true := by
      simpa [hq.refillNotPending, hq.constraintNotPending] using hn
    have ha := Option.some.inj h
    by_cases hk : constraintsCurrent kit s p = true
    · obtain ⟨k, hks⟩ := feasible_of_current hk
      simp only [hk, Bool.not_true, Bool.false_eq_true, if_false] at ha
      split at ha
      · subst ha
        exact eased_chosen hq hks ‹_›
      · subst ha
        exact .refill hq hks hneeded
    · simp only [Bool.not_eq_true] at hk
      simp only [hk, Bool.not_false, if_true] at ha
      subst ha
      exact .constraints hq.toRouteSettled hq.scheduleNotPending hq.toTimely hk
  · cases h

theorem chooseContent_ok {p : TripPlan} {r : RouteEstimateResult F D} {q : RouteQualityReport D}
    {t : ScheduleQualityReport D} {o : Option AgentAction} (hq : CommuteSettled kit s p r q t)
    (h : chooseContent kit s p = .ok o) :
    (∃ a, o = some a ∧ Chosen kit s a) ∨ (o = none ∧ ∃ k, Feasible kit s p k) := by
  unfold chooseContent at h
  split at h
  · cases h
  · rename_i f hf
    cases h
    split
    · rename_i hr
      exact .inl ⟨_, rfl, .searchRestaurants hq hf (by simpa using hr)⟩
    · split
      · rename_i hc
        exact .inl ⟨_, rfl, .rebuild hq hc⟩
      · split
        · rename_i hk
          exact .inl ⟨_, rfl, .constraints hq.toRouteSettled hq.scheduleNotPending hq.toTimely
            (by simpa using hk)⟩
        · rename_i hk
          have hcurrent : constraintsCurrent kit s p = true := by simpa using hk
          obtain ⟨k, hks⟩ := feasible_of_current hcurrent
          split
          · exact .inl ⟨_, rfl, eased_chosen hq hks ‹_›⟩
          · exact .inr ⟨rfl, k, hks⟩

theorem choosePrior_ok {p : TripPlan} {o : Option AgentAction} (hp : s.tripPlan = some p)
    (h : choosePrior kit s p = .ok o) :
    (∃ a, o = some a ∧ Chosen kit s a) ∨
      (o = none ∧ ∃ r q t k, CommuteSettled kit s p r q t ∧ Feasible kit s p k) := by
  unfold choosePrior at h
  rcases hr : chooseRoutes kit s p with _ | a
  · obtain ⟨r, q, hs⟩ := chooseRoutes_none hp hr
    rcases hv : chooseVerification kit s p with _ | a
    · have hs := chooseVerification_none hs hv
      rcases hc : chooseCommute kit s p with _ | a
      · obtain ⟨t, hs⟩ := chooseCommute_none hs hc
        rcases hf : chooseRefill kit s p with _ | a
        · simp only [hr, hv, hc, hf, Option.none_or] at h
          obtain ha | ⟨ho, k, hk⟩ := chooseContent_ok hs h
          · exact .inl ha
          · exact .inr ⟨ho, r, q, t, k, hs, hk⟩
        · simp only [hr, hv, hc, hf, Option.none_or] at h
          exact .inl ⟨a, (Except.ok.inj h).symm, chooseRefill_some hs hf⟩
      · simp only [hr, hv, hc, Option.none_or, Option.some_or] at h
        exact .inl ⟨a, (Except.ok.inj h).symm, chooseCommute_some hs hc⟩
    · simp only [hr, hv, Option.none_or, Option.some_or] at h
      exact .inl ⟨a, (Except.ok.inj h).symm, chooseVerification_some hs hv⟩
  · simp only [hr, Option.some_or] at h
    exact .inl ⟨a, (Except.ok.inj h).symm, chooseRoutes_some hp hr⟩

theorem chooseVerdict_cases (kit : Kit F D) (s : AgentState F D) (p : TripPlan) :
    chooseVerdict kit s p = .validatePlan ∨ chooseVerdict kit s p = .finish ∨
      chooseVerdict kit s p = .repairPlan := by
  unfold chooseVerdict
  split
  · exact .inl rfl
  · split
    · exact .inr (.inl rfl)
    · split
      · exact .inr (.inr rfl)
      · exact .inl rfl

theorem decide_chosen {a : AgentAction} (h : decideNextAction kit s = .ok a) : Chosen kit s a := by
  unfold decideNextAction at h
  split at h
  · rename_i hf
    cases h
    exact chooseFacts_some hf
  · rename_i hf
    split at h
    · rename_i hp
      cases h
      exact .generatePlan hf hp
    · rename_i p hp
      split at h
      · cases h
      · rename_i hc
        obtain ⟨b, hb, hchosen⟩ | ⟨hb, -⟩ := choosePrior_ok hp hc
        · cases hb
          cases h
          exact hchosen
        · cases hb
      · rename_i hc
        obtain ⟨b, hb, -⟩ | ⟨-, r, q, t, k, hs, hk⟩ := choosePrior_ok hp hc
        · cases hb
        · have ha := Except.ok.inj h
          obtain hv | hv | hv := chooseVerdict_cases kit s p
          · rw [← ha, hv]
            exact .validate hs hk hc hv
          · rw [← ha, hv]
            exact .finish hs hk hc hv
          · rw [← ha, hv]
            exact .repair hs hk hc hv

end TravelAgent.Agent

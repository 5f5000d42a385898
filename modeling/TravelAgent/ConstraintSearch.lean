import TravelAgent.ConstraintAttempts
import TravelAgent.ConstraintIssues
import TravelAgent.LunchWindow

namespace TravelAgent.ConstraintSearch

open TravelAgent.Itinerary TravelAgent.Agent TravelAgent.PlanEdits TravelAgent.Replanning
open TravelAgent.Attempts TravelAgent.Inquiries TravelAgent.Noting
open TravelAgent.Constraints (ConstraintEvaluator Clocked hoursIssues evaluate_hours evaluate_total)
open TravelAgent.ConstraintRepairs TravelAgent.ConstraintAttempts
open TravelAgent.Scheduling (ScheduleTimelineEvaluator Doubles TimelineItem Contiguous DayFrame Ride
  dayFrame routeLookup transportMinutes rideMinutes hotelRide departureRide betweenRides returnRide
  dayRides ridesOf evaluateDay_walk evaluateDay_balanced)
open TravelAgent.Scheduling (workdayEvaluator plainDoubles sight cityDay cityPlan cityRequest)

variable {F D : Type}

/-- `DeterministicConstraintOptimizer` with both its evaluators. The JSON of a plan and
rounding are parameters, with those of the evaluators. -/
structure DeterministicConstraintOptimizer (F D : Type) where
  evaluator : ConstraintEvaluator F D
  scheduleEvaluator : ScheduleTimelineEvaluator
  doubles : Doubles
  digest : RouteInputs → F
  maxCandidates : Nat := 8
  signature : TripPlan → String
  round : ℚ → ℚ
  positive : 1 ≤ maxCandidates

/-- The rest of a constraint report, of which the optimizer reads the issues. -/
abbrev Details (F : Type) : Type := Option (Constraints.TripConstraintReport F)

def readIssue (i : Constraints.ConstraintIssue) : ConstraintIssue :=
  { code := i.code
    error := decide (i.severity = .error)
    repairable := i.repairable
    dayIndex := i.dayIndex
    sourceIndex := i.sourceIndex
    penalty := i.penalty }

def asReport (r : Constraints.TripConstraintReport F) : TripConstraintReport F (Details F) :=
  { planFingerprint := r.planFingerprint
    errorCount := r.errorCount
    optimizationCost := r.optimizationCost
    qualityScore := r.qualityScore
    optimizationRecommended := r.optimizationRecommended
    details := some r }

section

variable (s : DeterministicConstraintOptimizer F D) (request : TripRequest)
  (weatherInfo : List (String × String)) (attractions weather : Option D)

/-- The schedule without routes, then the constraints. -/
def evaluateBoth (plan : TripPlan) :
    Except String (Scheduling.ScheduleQualityReport F × Constraints.TripConstraintReport F) := do
  let schedule ← Scheduling.evaluate s.scheduleEvaluator s.doubles request plan s.digest
    (none : Option (RouteEstimateResult F Unit))
  let constraints ← Constraints.evaluate s.evaluator request plan weatherInfo schedule attractions
    weather
  return (schedule, constraints)

/-- What the evaluators answer on a plan: the constraint report and `_combined_cost`. -/
def answer (plan : TripPlan) : Except String (TripConstraintReport F (Details F) × ℚ) :=
  (evaluateBoth s request weatherInfo attractions weather plan).map fun r =>
    (asReport r.2, s.round (r.2.optimizationCost + r.1.optimizationCost))

/-- The optimizer over evaluators that find nothing where these raise. -/
def optimizer : ConstraintOptimizer F (Details F) :=
  { maxCandidates := s.maxCandidates
    evaluate := fun _ plan _ _ _ =>
      match evaluateBoth s request weatherInfo attractions weather plan with
      | .ok (_, constraints) => asReport constraints
      | .error _ =>
        ⟨Constraints.constraintPlanFingerprint s.evaluator request plan, 0, 0, 100, false, none⟩
    evaluateSchedule := fun _ plan =>
      match evaluateBoth s request weatherInfo attractions weather plan with
      | .ok (schedule, _) =>
        ⟨schedule.infeasibleDays, schedule.totalOvertimeMinutes, schedule.fallbackRouteLegs,
          schedule.optimizationCost, schedule.qualityScore, schedule.optimizationRecommended, none⟩
      | .error _ => ⟨0, 0, 0, 0, 100, false, none⟩
    issues := fun report => ((report.details.map (·.issues)).getD []).map readIssue
    signature := s.signature
    round := s.round }

/-- Both reports on a plan, as far as there are any. -/
def assessment (plan : TripPlan) : TripConstraintReport F (Details F) × ℚ :=
  assess (optimizer s request weatherInfo attractions weather) request none none plan

/-- `DeterministicConstraintOptimizer.optimize` over its evaluators. -/
def optimize (plan : TripPlan) (report : TripConstraintReport F (Details F)) :
    Noted TripPlan String (Option ConstraintOptimizationCandidate) :=
  interview (answer s request weatherInfo attractions weather)
    (ConstraintAttempts.optimize (optimizer s request weatherInfo attractions weather) plan report)

variable {s request weatherInfo attractions weather}

theorem answer_assessment {plan : TripPlan} {k : TripConstraintReport F (Details F) × ℚ}
    (h : answer s request weatherInfo attractions weather plan = .ok k) :
    assessment s request weatherInfo attractions weather plan = k := by
  obtain ⟨⟨schedule, constraints⟩, hboth, rfl⟩ := map_ok h
  simp only [assessment, assess, optimizer, hboth]
  rfl

variable (s request weatherInfo attractions weather) in
/-- The issues on a plan, if the evaluators have any answer. -/
theorem assessment_issues (plan : TripPlan) :
    (optimizer s request weatherInfo attractions weather).issues
        (assessment s request weatherInfo attractions weather plan).1 = [] ∨
      ∃ schedule constraints,
        Constraints.evaluate s.evaluator request plan weatherInfo schedule attractions weather =
          .ok constraints ∧
        (optimizer s request weatherInfo attractions weather).issues
          (assessment s request weatherInfo attractions weather plan).1 =
            constraints.issues.map readIssue := by
  cases hboth : evaluateBoth s request weatherInfo attractions weather plan with
  | error e =>
    refine .inl ?_
    simp only [assessment, assess, optimizer, hboth]
    rfl
  | ok r =>
    obtain ⟨schedule, constraints⟩ := r
    obtain ⟨schedule', -, h⟩ := bind_ok hboth
    obtain ⟨constraints', hconstraints, h⟩ := bind_ok h
    cases h
    refine .inr ⟨schedule, constraints, hconstraints, ?_⟩
    simp only [assessment, assess, optimizer, hboth]
    rfl

variable (s request weatherInfo attractions weather) in
/-- An attraction has one issue of opening hours at most. -/
theorem placedOnce :
    PlacedOnce (optimizer s request weatherInfo attractions weather) request none none := by
  refine ⟨?_, ?_⟩
  · intro p i hi hcode
    rw [← assessment] at hi
    obtain hnone | ⟨schedule, k, hk, hissues⟩ :=
      assessment_issues s request weatherInfo attractions weather p
    · rw [hnone] at hi
      exact absurd hi List.not_mem_nil
    · rw [hissues] at hi
      obtain ⟨j, hj, rfl⟩ := List.mem_map.mp hi
      exact (evaluate_hours hk).1 j (List.mem_filter.mpr ⟨hj, decide_eq_true hcode⟩)
  · intro p hd
    rw [← assessment]
    obtain hnone | ⟨schedule, k, hk, hissues⟩ :=
      assessment_issues s request weatherInfo attractions weather p
    · rw [hnone]
      exact List.Pairwise.nil
    · have happart := (evaluate_hours hk).2 hd
      rw [hissues, List.filter_map]
      exact List.pairwise_map.mpr happart

theorem contiguous_clocked {c : Nat} {timeline : List TimelineItem} (h : Contiguous c timeline) :
    Clocked timeline := by
  induction timeline generalizing c with
  | nil => exact fun i hi => absurd hi List.not_mem_nil
  | cons item rest ih =>
    obtain ⟨hstart, hstop, hrest⟩ := h
    intro i hi
    obtain rfl | hi := List.mem_cons.mp hi
    · exact ⟨c, c + i.durationMinutes, hstart, hstop⟩
    · exact ih hrest i hi

variable (s request) in
/-- The minutes of all legs of a plan can be estimated. -/
def Estimable (plan : TripPlan) : Prop :=
  ∀ d ∈ plan.days.zipIdx, ∃ rides,
    ridesOf s.scheduleEvaluator s.doubles request plan [] d.1 d.2 = .ok rides

section

variable {cfg : ScheduleTimelineEvaluator} {doubles : Doubles}

/-- Minutes between all coordinates can be estimated. -/
def Estimates (cfg : ScheduleTimelineEvaluator) (doubles : Doubles) : Prop :=
  ∀ left right mode, ∃ m, doubles.fallbackMinutes cfg.fallbackSafetyFactor left right mode = .ok m

theorem rideMinutes_total (h : Estimates cfg doubles) {day : DayFrame} (hday : day.cfg = cfg)
    (mode : RouteMode) (origin destination : Scheduling.Place) (ho : origin.location.isSome = true)
    (hd : destination.location.isSome = true) (legType : RouteLegType) (legIndex : Nat) :
    ∃ ride, rideMinutes doubles day mode [] origin destination legType legIndex = .ok ride := by
  obtain ⟨left, hleft⟩ := Option.isSome_iff_exists.mp ho
  obtain ⟨right, hright⟩ := Option.isSome_iff_exists.mp hd
  obtain ⟨m, hm⟩ := h left right mode
  have hlookup : routeLookup [] (day.dayIndex, legType, legIndex) = none := rfl
  rw [rideMinutes, hlookup, transportMinutes, hleft, hright, hday]
  dsimp only [Option.filter_none, Option.bind_none]
  rw [hm]
  exact ⟨_, rfl⟩

theorem hotelRide_total {minutes : Attraction → Hotel → Except String Ride} {a : Option Attraction}
    {hotel : Option Hotel} (h : ∀ b x, hotel = some x → ∃ ride, minutes b x = .ok ride) :
    ∃ ride, hotelRide minutes a hotel = .ok ride := by
  unfold hotelRide
  split
  · rename_i b x
    obtain ⟨ride, hride⟩ := h b x rfl
    rw [hride]
    exact ⟨_, rfl⟩
  · exact ⟨none, rfl⟩

theorem betweenRides_total (h : Estimates cfg doubles) {day : DayFrame} (hday : day.cfg = cfg)
    (mode : RouteMode) (attractions : List Attraction) (i : Nat) :
    ∃ rides, betweenRides doubles day mode [] i attractions = .ok rides := by
  induction attractions generalizing i with
  | nil => exact ⟨[], rfl⟩
  | cons a rest ih =>
    cases rest with
    | nil => exact ⟨[], rfl⟩
    | cons b rest =>
      obtain ⟨ride, hride⟩ := rideMinutes_total h hday mode (.ofAttraction a) (.ofAttraction b)
        rfl rfl .betweenAttractions i
      obtain ⟨rides, hrides⟩ := ih (i + 1)
      rw [betweenRides, hride, hrides]
      exact ⟨_, rfl⟩

theorem resolveDayHotels_located (plan : TripPlan) (position : Nat) {hotel : Hotel}
    (h : (resolveDayHotels plan position).1 = some hotel ∨
      (resolveDayHotels plan position).2 = some hotel) : hotel.location.isSome = true := by
  have hfilter {x : Option Hotel} (hx : x.filter Hotel.located = some hotel) :
      hotel.location.isSome = true := (Option.filter_eq_some_iff.mp hx).2
  obtain h | h := h
  · obtain h | ⟨-, h⟩ := Option.or_eq_some_iff.mp h
    · exact hfilter h
    · obtain ⟨day, -, hday⟩ := List.exists_of_findSome?_eq_some h
      exact hfilter hday
  · exact hfilter h

end

/-- Coordinates between which minutes can be estimated leave no plan without an answer. -/
theorem estimable (h : Estimates s.scheduleEvaluator s.doubles) (plan : TripPlan) :
    Estimable s request plan := by
  rintro ⟨day, position⟩ -
  have hframe : (dayFrame s.scheduleEvaluator day position).cfg = s.scheduleEvaluator := rfl
  obtain ⟨departure, hdeparture⟩ : ∃ ride, departureRide s.doubles
      (dayFrame s.scheduleEvaluator day position) (dayRouteMode request day) [] day.attractions
      (resolveDayHotels plan position).1 = .ok ride := by
    apply hotelRide_total
    intro a x hx
    exact rideMinutes_total h hframe _ (.ofHotel x) (.ofAttraction a)
      (resolveDayHotels_located plan position (.inl hx)) rfl _ _
  obtain ⟨between, hbetween⟩ :=
    betweenRides_total h hframe (dayRouteMode request day) day.attractions 0
  obtain ⟨back, hback⟩ : ∃ ride, returnRide s.doubles
      (dayFrame s.scheduleEvaluator day position) (dayRouteMode request day) [] day.attractions
      (resolveDayHotels plan position).2 = .ok ride := by
    apply hotelRide_total
    intro a x hx
    exact rideMinutes_total h hframe _ (.ofAttraction a) (.ofHotel x) rfl
      (resolveDayHotels_located plan position (.inr hx)) _ _
  rw [ridesOf, dayRides, hdeparture, hbetween, hback]
  exact ⟨_, rfl⟩

/-- The evaluators fail on the minutes of a leg only. -/
theorem answer_iff (plan : TripPlan) :
    (∃ k, answer s request weatherInfo attractions weather plan = .ok k) ↔
      Estimable s request plan := by
  constructor
  · rintro ⟨k, hk⟩ d hd
    obtain ⟨r, hr, -⟩ := map_ok hk
    obtain ⟨schedule, hschedule, -⟩ := bind_ok hr
    obtain ⟨days, hdays, -⟩ := bind_ok hschedule
    obtain ⟨quality, hquality⟩ := mapM_each hdays hd
    rw [evaluateDay_walk] at hquality
    obtain ⟨rides, hrides, -⟩ := map_ok hquality
    exact ⟨rides, hrides⟩
  · intro hlegs
    have hdays : ∀ d ∈ plan.days.zipIdx, ∃ quality,
        Scheduling.evaluateDay s.scheduleEvaluator s.doubles request plan [] d.1 d.2 =
          .ok quality := by
      intro d hd
      obtain ⟨rides, hrides⟩ := hlegs d hd
      rw [evaluateDay_walk, hrides]
      exact ⟨_, rfl⟩
    obtain ⟨days, hall⟩ := mapM_total _ hdays
    have hschedule : Scheduling.evaluate s.scheduleEvaluator s.doubles request plan s.digest
        (none : Option (RouteEstimateResult F Unit)) =
          .ok (Scheduling.report s.doubles request plan s.digest days) := bind_of_ok hall _
    have hclocked : ∀ d ∈ (Scheduling.report s.doubles request plan s.digest days).days,
        Clocked d.timeline := by
      intro d hd
      obtain ⟨p, -, hp⟩ := mapM_mem hall hd
      exact contiguous_clocked (evaluateDay_balanced hp).contiguous
    obtain ⟨k, hk⟩ := evaluate_total s.evaluator request plan weatherInfo attractions weather hclocked
    rw [answer, evaluateBoth, hschedule]
    change ∃ k, ((Constraints.evaluate s.evaluator request plan weatherInfo _ attractions weather >>=
      fun constraints => _).map _) = _
    rw [hk]
    exact ⟨_, rfl⟩

section

variable (s request weatherInfo attractions weather)
variable (plan : TripPlan) (report : TripConstraintReport F (Details F))

theorem attended_assessment :
    Yields (attended (assessment s request weatherInfo attractions weather)
        (ConstraintAttempts.optimize (optimizer s request weatherInfo attractions weather) plan report))
      (evaluated (optimizer s request weatherInfo attractions weather) request none none plan report)
      (Removable (optimizer s request weatherInfo attractions weather) request none none plan report)
      (ConstraintRepairs.optimize (optimizer s request weatherInfo attractions weather) request none
        none plan report) :=
  attended_optimize _ request none none plan report

/-- What the optimizer returns, if all its removals are in range and all plans have answers. -/
theorem optimize_ok_iff (r : Option ConstraintOptimizationCandidate) :
    (optimize s request weatherInfo attractions weather plan report).outcome = .ok r ↔
      ConstraintRepairs.optimize (optimizer s request weatherInfo attractions weather) request none
          none plan report = r ∧
        Removable (optimizer s request weatherInfo attractions weather) request none none plan report ∧
        ∀ p ∈ evaluated (optimizer s request weatherInfo attractions weather) request none none plan
          report, Estimable s request p := by
  have hyields := attended_assessment s request weatherInfo attractions weather plan report
  have hanswers (p : TripPlan) :
      (∃ k, answer s request weatherInfo attractions weather p = .ok k) ↔ Estimable s request p :=
    answer_iff p
  rw [optimize, interview_ok_iff (fun p k => answer_assessment)]
  simp only [hanswers]
  constructor
  · rintro ⟨hrun, hall⟩
    have hin := hyields.holds r hrun
    rw [hyields.returns hin] at hrun hall
    exact ⟨Except.ok.inj hrun, hin, hall⟩
  · rintro ⟨rfl, hin, hall⟩
    rw [hyields.returns hin]
    exact ⟨rfl, hall⟩

theorem optimize_asked : (optimize s request weatherInfo attractions weather plan report).asked <+:
    evaluated (optimizer s request weatherInfo attractions weather) request none none plan report := by
  have hyields := attended_assessment s request weatherInfo attractions weather plan report
  rw [optimize]
  exact (interview_within (fun p k => answer_assessment) _).trans hyields.inOrder

variable {plan}

/-- Days with different indices have their removals in range. -/
theorem distinct_removable (hd : DistinctDays plan) :
    Removable (optimizer s request weatherInfo attractions weather) request none none plan report := by
  intro _
  unfold batch
  dsimp only
  split
  · exact inRange_nil _
  · obtain ⟨moved, -, hmoved⟩ := movedToEnd_replanned plan
      (openingTargets (optimizer s request weatherInfo attractions weather) plan
        (assess (optimizer s request weatherInfo attractions weather) request none none plan).1)
    apply remainingConflicts_inRange
    exact (placedOnce s request weatherInfo attractions weather).apart (hmoved.distinct hd)

/-- A candidate keeps the attractions of the plan but for those that it leaves out by name,
it costs less, and the evaluators see a limited number of plans. -/
theorem candidate_conserved (hd : DistinctDays plan) :
    (∀ c, (optimize s request weatherInfo attractions weather plan report).outcome = .ok (some c) →
      RepairOf (optimizer s request weatherInfo attractions weather) request none none plan c ∧
      answer s request weatherInfo attractions weather plan =
        .ok (assessment s request weatherInfo attractions weather plan) ∧
      answer s request weatherInfo attractions weather c.plan =
        .ok (assessment s request weatherInfo attractions weather c.plan) ∧
      (assessment s request weatherInfo attractions weather c.plan).2 <
        (assessment s request weatherInfo attractions weather plan).2) ∧
    WithinBudget s.maxCandidates plan
      (optimize s request weatherInfo attractions weather plan report).asked := by
  constructor
  · intro c hc
    obtain ⟨⟨k, hk⟩, k', hk'⟩ := optimize_answered hc
    obtain ⟨hresult, -, -⟩ :=
      (optimize_ok_iff s request weatherInfo attractions weather plan report (some c)).mp hc
    obtain ⟨hkind, hcost⟩ :=
      optimize_kind (placedOnce s request weatherInfo attractions weather) hd hresult
    refine ⟨hkind, ?_, ?_, hcost⟩
    · rw [hk, answer_assessment hk]
    · rw [hk', answer_assessment hk']
  · obtain ⟨batch, changed, reduced, hprefix, hlimits⟩ :=
      evaluated_budget (optimizer s request weatherInfo attractions weather) request none none plan
        report
    have hasked := optimize_asked s request weatherInfo attractions weather plan report
    exact ⟨batch, changed, reduced, hasked.trans hprefix, hlimits⟩

end

end

theorem actionable_ne_nil {o : ConstraintOptimizer F D} {report : TripConstraintReport F D}
    (h : (o.issues report).filter (·.repairable) ≠ []) : actionable o report ≠ [] := by
  intro hnone
  apply h
  rw [← List.length_eq_zero_iff, ← (List.mergeSort_perm _ fun x y => !y.before x).length_eq]
  exact List.length_eq_zero_iff.mpr hnone

/-- A night market opens at five in the afternoon. -/
def nightMarket : DeterministicConstraintOptimizer Unit Unit :=
  { evaluator :=
      { lunchStart := 690
        lunchEnd := 840
        dailyAttractionSoftLimit := 5
        sources := fun _ => [{ poiId := "", name := "夜市", openingHours := "17:00-23:00" }]
        forecasts := fun _ => []
        digest := fun _ => ()
        window := Scheduling.workdayConstraints.window
        positive := Scheduling.workdayConstraints.positive }
    scheduleEvaluator := workdayEvaluator
    doubles := plainDoubles
    digest := fun _ => ()
    signature := fun _ => ""
    round := id
    positive := by decide }

abbrev marketOptimizer : ConstraintOptimizer Unit (Details Unit) :=
  optimizer nightMarket cityRequest [] none none

def marketFirst : TripPlan := cityPlan [sight "夜市" 60, sight "外滩" 90, sight "豫园" 240] []

theorem market_estimable (p : TripPlan) : Estimable nightMarket cityRequest p :=
  estimable (fun _ _ _ => ⟨30, rfl⟩) p

/-- The market goes to the end of its day. -/
theorem market_last :
    ∃ c, (optimize nightMarket cityRequest [] none none marketFirst
        (assessment nightMarket cityRequest [] none none marketFirst).1).outcome = .ok (some c) ∧
      (c.strategy, c.movedAttractionName) = ("reorder_attractions_for_opening_hours", "夜市") ∧
      RepairOf marketOptimizer cityRequest none none marketFirst c ∧
      WithinBudget 8 marketFirst (optimize nightMarket cityRequest [] none none marketFirst
        (assessment nightMarket cityRequest [] none none marketFirst).1).asked := by
  have hactionable : actionable marketOptimizer
      (assessment nightMarket cityRequest [] none none marketFirst).1 ≠ [] :=
    actionable_ne_nil (by decide +kernel)
  have hrun : (ConstraintRepairs.optimize marketOptimizer cityRequest none none marketFirst
      (assessment nightMarket cityRequest [] none none marketFirst).1).map
        (fun c => (c.strategy, c.movedAttractionName)) =
          some ("reorder_attractions_for_opening_hours", "夜市") := by
    rw [ConstraintRepairs.optimize]
    dsimp only
    rw [if_neg hactionable]
    decide +kernel
  obtain ⟨c, hc, hnames⟩ := Option.map_eq_some_iff.mp hrun
  have hdistinct : DistinctDays marketFirst := by decide
  have hreturns := (optimize_ok_iff nightMarket cityRequest [] none none marketFirst _ (some c)).mpr
    ⟨hc, distinct_removable nightMarket cityRequest [] none none _ hdistinct,
      fun p _ => market_estimable p⟩
  obtain ⟨hcandidate, hbudget⟩ :=
    candidate_conserved nightMarket cityRequest [] none none _ hdistinct
  exact ⟨c, hreturns, hnames, (hcandidate c hreturns).1, hbudget⟩

section

variable (s : DeterministicConstraintOptimizer F D) (request : TripRequest)
  (weatherInfo : List (String × String)) (attractions weather : Option D)
  (plan : TripPlan) (report : TripConstraintReport F (Details F))

/-- The optimizer returns exactly where the removals of its batch are in range and the legs of
all plans that it hands to the evaluators can be estimated. -/
theorem returns_iff :
    (∃ r, (optimize s request weatherInfo attractions weather plan report).outcome = .ok r) ↔
      Removable (optimizer s request weatherInfo attractions weather) request none none plan report ∧
        ∀ p ∈ evaluated (optimizer s request weatherInfo attractions weather) request none none plan
          report, Estimable s request p := by
  constructor
  · rintro ⟨r, hr⟩
    exact ((optimize_ok_iff s request weatherInfo attractions weather plan report r).mp hr).2
  · intro h
    exact ⟨_, (optimize_ok_iff s request weatherInfo attractions weather plan report _).mpr ⟨rfl, h⟩⟩

end

/-- Both days have the index 0. -/
def sameDayTwice : TripPlan :=
  { marketFirst with days := [cityDay [sight "夜市" 60] [], cityDay [sight "夜市" 60] []] }

/-- The market of the second day is taken for that of the first, which is gone by then. -/
theorem same_day_twice :
    (∃ k, answer nightMarket cityRequest [] none none sameDayTwice = .ok k ∧
      ¬∃ r, (optimize nightMarket cityRequest [] none none sameDayTwice k.1).outcome = .ok r) ∧
    ∀ p, Estimable nightMarket cityRequest p := by
  refine ⟨?_, market_estimable⟩
  obtain ⟨k, hk⟩ := (answer_iff sameDayTwice).mpr (market_estimable sameDayTwice)
  refine ⟨k, hk, ?_⟩
  rintro ⟨r, hr⟩
  rw [← answer_assessment hk] at hr
  have hactionable : actionable marketOptimizer
      (assessment nightMarket cityRequest [] none none sameDayTwice).1 ≠ [] :=
    actionable_ne_nil (by decide +kernel)
  have hremovable := ((optimize_ok_iff nightMarket cityRequest [] none none sameDayTwice _ r).mp hr).2.1
  have htwo : ¬nearEnd
      (batch marketOptimizer cityRequest none none sameDayTwice
        (assessment nightMarket cityRequest [] none none sameDayTwice).1).1
      (batch marketOptimizer cityRequest none none sameDayTwice
        (assessment nightMarket cityRequest [] none none sameDayTwice).1).2 0 1 ≤ 1 := by
    decide +kernel
  exact htwo (hremovable hactionable 0 1)

end TravelAgent.ConstraintSearch

import TravelAgent.AgentState
import TravelAgent.Attempts
import TravelAgent.MealPlanning

namespace TravelAgent.RebuildChecks

open TravelAgent.Texts TravelAgent.Itinerary TravelAgent.ContentRebuild TravelAgent.RestaurantHours
open TravelAgent.MealPlanning TravelAgent.Agent
open TravelAgent.TaskStore (pySpace)
open TravelAgent.Attempts (mapM_each mapM_total)

/-- An issue that the constraint evaluator raises about a meal. -/
structure ConstraintIssue where
  code : String
  path : String
  message : String
  repairHint : String
  dayIndex : Int
  penalty : ℚ
  expected : List String
  actualStart : String
  actualEnd : String
deriving DecidableEq

def outsideOpeningHours (dayIndex : Int) (mealIndex : Nat) (meal : Meal) : ConstraintIssue :=
  { code := "meal.outside_opening_hours"
    path := "days[" ++ toString dayIndex ++ "].meals[" ++ toString mealIndex ++ "]"
    message := meal.name ++ " is scheduled at " ++ meal.plannedStartTime ++ "-" ++
      meal.plannedEndTime ++ " outside its known opening hours"
    repairHint := "Replace it with an open restaurant or adjust the meal time"
    dayIndex := dayIndex
    penalty := 1500
    expected := formatOpeningRanges meal.openingHours
    actualStart := meal.plannedStartTime
    actualEnd := meal.plannedEndTime }

/-- `_check_meal_opening_hours`, on one meal. -/
def checkMeal (dayIndex : Int) (mealIndex : Nat) (meal : Meal) : List ConstraintIssue :=
  if meal.openingHours.isEmpty || meal.plannedStartTime.isEmpty || meal.plannedEndTime.isEmpty then []
  else
    match parseClock meal.plannedStartTime, parseClock meal.plannedEndTime with
    | .ok start, .ok stop =>
      if openingStatusForInterval meal.openingHours start stop = .closed then
        [outsideOpeningHours dayIndex mealIndex meal]
      else []
    | _, _ => []

def checkMealOpeningHours (dayIndex : Int) (meals : List Meal) : List ConstraintIssue :=
  meals.zipIdx.flatMap fun m => checkMeal dayIndex m.2 m.1

/-- What the loop of `evaluate` collects from the meals of all days. -/
def evaluateMealHours (plan : TripPlan) : List ConstraintIssue :=
  plan.days.zipIdx.flatMap fun d => checkMealOpeningHours (d.1.indexAt d.2) d.1.meals

def blank (text : String) : Bool := (trim pySpace text.toList).isEmpty

def emptyField (fieldName value : String) : List ValidationIssue :=
  if blank value then
    [{ code := "day.empty_" ++ fieldName
       severity := .error
       message := "每日行程的 " ++ fieldName ++ " 不能为空" }]
  else []

def mealsIncomplete (meals : List Meal) : List ValidationIssue :=
  let mealTypes := meals.map fun m => lower (trim pySpace m.type.toList)
  if [MealType.breakfast, .lunch, .dinner].all fun t => mealTypes.contains t.name.toList then []
  else
    [{ code := "day.meals_incomplete"
       severity := .warning
       message := "当天未包含完整的早、中、晚餐建议" }]

/-- The part of `_validate_days` about the texts and the meals of a day. -/
def validateDayContent (day : DayPlan) : List ValidationIssue :=
  emptyField "description" day.description ++ emptyField "transportation" day.transportation ++
    emptyField "accommodation" day.accommodation ++ mealsIncomplete day.meals

/-- `_validate_budget` -/
def validateBudget (plan : TripPlan) : List ValidationIssue :=
  match plan.budget with
  | none => [{ code := "budget.missing", severity := .warning, message := "行程未提供预算汇总" }]
  | some b =>
    let components := [b.totalAttractions, b.totalHotels, b.totalMeals, b.totalTransportation]
    (components.filter fun v => decide (v < 0)).map (fun _ =>
      { code := "budget.negative_component", severity := .error, message := "预算分项不能为负数" }) ++
    if b.total = components.sum then []
    else
      [{ code := "budget.total_mismatch"
         severity := .warning
         message := "预算总额不等于各分项之和" }]

def validateSuggestions (plan : TripPlan) : List ValidationIssue :=
  if blank plan.overallSuggestions then
    [{ code := "plan.empty_suggestions", severity := .error, message := "总体建议不能为空" }]
  else []

/-- What `validate` finds in the content that a rebuild writes. -/
def validateContent (plan : TripPlan) : List ValidationIssue :=
  plan.days.flatMap validateDayContent ++ validateBudget plan ++ validateSuggestions plan

theorem blank_eq (text : String) : blank text = text.toList.all pySpace := by
  rw [blank, Bool.eq_iff_iff, List.isEmpty_iff, List.all_eq_true, trim, List.reverse_eq_nil_iff,
    List.dropWhile_eq_nil_iff]
  constructor
  · intro h c hc
    by_contra hspace
    have hkept : text.toList.dropWhile pySpace ≠ [] := by
      rw [ne_eq, List.dropWhile_eq_nil_iff]
      exact fun hall => hspace (hall c hc)
    obtain ⟨d, ds, hd⟩ := List.exists_cons_of_ne_nil hkept
    have hhead := List.head?_dropWhile_not pySpace text.toList
    rw [hd] at h hhead
    have hdspace := h d (by simp)
    simp [hdspace] at hhead
  · intro h c hc
    exact h c ((List.dropWhile_sublist pySpace).subset (List.mem_reverse.mp hc))

/-- A text with something to read at its end. -/
theorem blank_append {b : String} (a : String) (h : blank b = false) : blank (a ++ b) = false := by
  rw [blank_eq] at h ⊢
  rw [String.toList_append, List.all_append, h, Bool.and_false]

theorem dayDescription_not_blank (date : String) (attractions : List Attraction) :
    blank (dayDescription date attractions) = false := by
  rw [dayDescription]
  split
  · exact blank_append _ (by decide)
  · exact blank_append _ (by decide)

theorem transportation_not_blank (rb : Rebuilder) (request : TripRequest)
    (attractions : List Attraction) (routes : List RouteEstimate) (existing : String) :
    blank (transportationDescription rb request attractions routes existing) = false := by
  simp only [transportationDescription]
  split
  · split
    · exact blank_append _ (by decide)
    · exact blank_append _ (by decide)
  · exact blank_append _ (by decide)

theorem accommodation_not_blank (request : TripRequest) (hotel : Option Hotel) :
    blank (accommodationDescription request hotel) = false := by
  cases hotel with
  | none => exact blank_append _ (by decide)
  | some h => exact blank_append _ (by decide)

theorem suggestions_not_blank (rb : Rebuilder) (request : TripRequest) (plan : TripPlan) :
    blank (overallSuggestions rb request plan) = false :=
  blank_append _ (by decide)

theorem ranked_status {candidates : List RestaurantCandidate} {dayIndex : Int} {t : MealType}
    {interval : Nat × Nat} {used : List String} {r : RestaurantCandidate × OpeningStatus}
    (h : r ∈ ranked candidates dayIndex t interval used) :
    openingStatusForInterval r.1.openingHours interval.1 interval.2 ≠ .closed := by
  rw [ranked, List.mem_mergeSort, List.mem_filter, List.mem_map] at h
  obtain ⟨⟨c, -, rfl⟩, hopen⟩ := h
  simpa using hopen

/-- A meal at its time, at a place that is not known to be closed then. -/
structure Served (t : MealType) (interval : Nat × Nat) (m : Meal) : Prop where
  type : m.type = t.name
  start : m.plannedStartTime = formatClock interval.1
  stop : m.plannedEndTime = formatClock interval.2
  hours : openingStatusForInterval m.openingHours interval.1 interval.2 ≠ .closed

theorem mealsFor_served {request : TripRequest} {anchors : MealType → Option Anchor}
    {candidates : List RestaurantCandidate} {dayIndex : Int} {intervals : MealServiceIntervals}
    {ts : List MealType} {used : List String} {meals : List Meal}
    (h : mealsFor request anchors candidates dayIndex intervals ts used = .ok meals) :
    List.Forall₂ (fun t m => Served t (intervals.of t) m) ts meals := by
  induction ts generalizing used meals with
  | nil =>
    cases h
    exact List.Forall₂.nil
  | cons t ts ih =>
    rw [mealsFor] at h
    split at h
    · rename_i c status others hranked
      have hstatus := ranked_status (hranked ▸ List.mem_cons_self : (c, status) ∈ ranked _ _ _ _ _)
      cases hcost : estimatedCost t c with
      | error e =>
        rw [hcost] at h
        cases h
      | ok cost =>
        cases hrest : mealsFor request anchors candidates dayIndex intervals ts
          (c.identity :: used) with
        | error e =>
          rw [hcost, hrest] at h
          cases h
        | ok rest =>
          rw [hcost, hrest] at h
          cases h
          exact List.Forall₂.cons ⟨rfl, rfl, rfl, hstatus⟩ (ih hrest)
    · cases hrest : mealsFor request anchors candidates dayIndex intervals ts used with
      | error e =>
        rw [hrest] at h
        cases h
      | ok rest =>
        rw [hrest] at h
        cases h
        have hunknown : openingStatusForInterval "" (intervals.of t).1 (intervals.of t).2 ≠
            .closed := by
          have hnone : parseOpeningRanges "" = [] := by decide
          simp [openingStatusForInterval, hnone]
        exact List.Forall₂.cons ⟨rfl, rfl, rfl, hunknown⟩ (ih hrest)

/-- The meals of a day, each at the time that was checked. -/
def DayServed (rb : ConsistencyRebuilder) (schedule : Option Schedule) (dayIndex : Int)
    (meals : List Meal) : Prop :=
  ∃ intervals, mealServiceIntervals (timelineOf schedule dayIndex) rb.lunchWindowStart
      rb.lunchWindowEnd = .ok intervals ∧
    List.Forall₂ (fun t m => Served t (intervals.of t) m) [.breakfast, .lunch, .dinner] meals

theorem buildMeals_served {rb : ConsistencyRebuilder} {candidates : List RestaurantCandidate}
    {schedule : Option Schedule} {request : TripRequest} {attractions : List Attraction}
    {dayIndex : Int} {startHotel returnHotel : Option Hotel} {meals : List Meal}
    (h : buildMeals rb candidates schedule request attractions dayIndex startHotel returnHotel =
      .ok meals) : DayServed rb schedule dayIndex meals := by
  rw [buildMeals] at h
  cases hi : mealServiceIntervals (timelineOf schedule dayIndex) rb.lunchWindowStart
      rb.lunchWindowEnd with
  | error e =>
    rw [hi] at h
    cases h
  | ok intervals =>
    rw [hi] at h
    exact ⟨intervals, hi, mealsFor_served h⟩

theorem served_parses {t : MealType} {interval : Nat × Nat} {m : Meal} (h : Served t interval m) :
    parseClock m.plannedStartTime = .ok interval.1 ∧ parseClock m.plannedEndTime = .ok interval.2 := by
  rw [h.start, h.stop]
  exact ⟨parseClock_formatClock _, parseClock_formatClock _⟩

/-- The evaluator has nothing to say about a meal that was served. -/
theorem checkMeal_served {t : MealType} {interval : Nat × Nat} {m : Meal} (h : Served t interval m)
    (dayIndex : Int) (mealIndex : Nat) : checkMeal dayIndex mealIndex m = [] := by
  obtain ⟨hstart, hstop⟩ := served_parses h
  rw [checkMeal]
  split
  · rfl
  · rw [hstart, hstop]
    simp only
    rw [if_neg h.hours]

theorem forall₂_mem {α β : Type} {R : α → β → Prop} {xs : List α} {ys : List β}
    (h : List.Forall₂ R xs ys) {y : β} (hy : y ∈ ys) : ∃ x ∈ xs, R x y := by
  induction h with
  | nil => cases hy
  | cons hr _ ih =>
    obtain rfl | hy := List.mem_cons.mp hy
    · exact ⟨_, List.mem_cons_self, hr⟩
    · obtain ⟨x, hx, hxy⟩ := ih hy
      exact ⟨x, List.mem_cons_of_mem _ hx, hxy⟩

theorem checkMealOpeningHours_served {rb : ConsistencyRebuilder} {schedule : Option Schedule}
    {dayIndex : Int} {meals : List Meal} (h : DayServed rb schedule dayIndex meals) (index : Int) :
    checkMealOpeningHours index meals = [] := by
  obtain ⟨intervals, -, hall⟩ := h
  rw [checkMealOpeningHours, List.flatMap_eq_nil_iff]
  rintro ⟨m, i⟩ hm
  obtain ⟨t, -, ht⟩ := forall₂_mem hall (List.fst_mem_of_mem_zipIdx hm)
  exact checkMeal_served ht index i

theorem mealsComplete_served {rb : ConsistencyRebuilder} {schedule : Option Schedule}
    {dayIndex : Int} {meals : List Meal} (h : DayServed rb schedule dayIndex meals) :
    mealsIncomplete meals = [] := by
  obtain ⟨intervals, -, hall⟩ := h
  have htypes : meals.map (·.type) = [MealType.breakfast, .lunch, .dinner].map MealType.name := by
    obtain _ | ⟨hb, _ | ⟨hl, _ | ⟨hd, _ | _⟩⟩⟩ := hall
    simp only [List.map_cons, List.map_nil, hb.type, hl.type, hd.type]
  have hnames : meals.map (fun m => lower (trim pySpace m.type.toList)) =
      (meals.map (·.type)).map fun name => lower (trim pySpace name.toList) := by
    rw [List.map_map]
    rfl
  rw [mealsIncomplete, hnames, htypes, if_pos (by decide)]

theorem rebuildPlan_ok {rb : ConsistencyRebuilder} {request : TripRequest} {plan : TripPlan}
    {routes : Option (List RouteEstimate)} {schedule : Option Schedule}
    {restaurants : Option (List RestaurantCandidate)} {rebuilt : TripPlan}
    (h : rebuildPlan rb request plan routes schedule restaurants = .ok rebuilt) :
    rebuilt = rebuild (rebuilder rb (restaurants.getD []) schedule) request plan routes ∧
      ∀ position day, plan.days[position]? = some day → ∃ meals,
        mealsOfDay rb (restaurants.getD []) schedule request plan position day = .ok meals := by
  rw [rebuildPlan] at h
  cases hm : plan.days.zipIdx.mapM fun d =>
      mealsOfDay rb (restaurants.getD []) schedule request plan d.2 d.1 with
  | error e =>
    rw [hm] at h
    cases h
  | ok all =>
    rw [hm] at h
    simp only [bind, Except.bind, pure, Except.pure, Except.ok.injEq] at h
    refine ⟨h.symm, ?_⟩
    intro position day hday
    have hmem : (day, position) ∈ plan.days.zipIdx := List.mem_zipIdx_iff_getElem?.mpr hday
    obtain ⟨meals, hmeals⟩ := mapM_each hm hmem
    exact ⟨meals, hmeals⟩

/-- Every rebuilt day has texts to read and meals that were served. -/
theorem rebuilt_day {rb : ConsistencyRebuilder} {request : TripRequest} {plan : TripPlan}
    {routes : Option (List RouteEstimate)} {schedule : Option Schedule}
    {restaurants : Option (List RestaurantCandidate)} {rebuilt : TripPlan}
    (h : rebuildPlan rb request plan routes schedule restaurants = .ok rebuilt) {position : Nat}
    {day : DayPlan} (hday : rebuilt.days[position]? = some day) :
    blank day.description = false ∧ blank day.transportation = false ∧
      blank day.accommodation = false ∧ DayServed rb schedule (day.indexAt position) day.meals := by
  obtain ⟨rfl, hmeals⟩ := rebuildPlan_ok h
  have hdays : (rebuild (rebuilder rb (restaurants.getD []) schedule) request plan routes).days =
      plan.days.mapIdx (rebuildDay (rebuilder rb (restaurants.getD []) schedule) request plan
        (routes.getD [])) := rfl
  rw [hdays, List.getElem?_mapIdx] at hday
  cases hd : plan.days[position]? with
  | none =>
    rw [hd] at hday
    cases hday
  | some d =>
    rw [hd] at hday
    cases hday
    obtain ⟨meals, hok⟩ := hmeals position d hd
    have hbuilt : (rebuildDay (rebuilder rb (restaurants.getD []) schedule) request plan
        (routes.getD []) position d).meals =
          (mealsOfDay rb (restaurants.getD []) schedule request plan position d).toOption.getD [] :=
        rfl
    refine ⟨dayDescription_not_blank _ _, transportation_not_blank _ _ _ _ _,
      accommodation_not_blank _ _, ?_⟩
    rw [hbuilt, hok]
    exact buildMeals_served hok

theorem sum_max_nonneg (xs : List Int) (h : ∀ x ∈ xs, 0 ≤ x) : 0 ≤ xs.sum := by
  induction xs with
  | nil => simp
  | cons x xs ih =>
    rw [List.sum_cons]
    have hx := h x List.mem_cons_self
    have hxs := ih fun y hy => h y (List.mem_cons_of_mem x hy)
    omega

theorem routeCost_nonneg (rb : ConsistencyRebuilder) (r : RouteEstimate) : 0 ≤ routeCost rb r := by
  rw [routeCost]
  split
  · split <;> omega
  · exact Int.le_refl 0

/-- A built budget has no negative part and the sum of its parts as its total. -/
theorem validateBudget_built {rb : ConsistencyRebuilder} {built plan : TripPlan}
    {routes : List RouteEstimate} (h : plan.budget = some (buildBudget rb built routes)) :
    validateBudget plan = [] := by
  obtain ⟨b, hb⟩ : ∃ b, b = buildBudget rb built routes := ⟨_, rfl⟩
  have hattractions : 0 ≤ b.totalAttractions := by
    rw [hb]
    apply sum_max_nonneg
    intro x hx
    simp only [List.mem_flatMap, List.mem_map] at hx
    obtain ⟨day, -, a, -, rfl⟩ := hx
    exact Int.le_max_left 0 _
  have hhotels : 0 ≤ b.totalHotels := by
    rw [hb]
    apply sum_max_nonneg
    intro x hx
    simp only [List.mem_filterMap, Option.map_eq_some_iff] at hx
    obtain ⟨day, -, hotel, -, rfl⟩ := hx
    exact Int.le_max_left 0 _
  have hmeals : 0 ≤ b.totalMeals := by
    rw [hb]
    apply sum_max_nonneg
    intro x hx
    simp only [List.mem_flatMap, List.mem_map] at hx
    obtain ⟨day, -, m, -, rfl⟩ := hx
    exact Int.le_max_left 0 _
  have htransportation : 0 ≤ b.totalTransportation := by
    rw [hb]
    apply sum_max_nonneg
    intro x hx
    obtain ⟨r, -, rfl⟩ := List.mem_map.mp hx
    exact routeCost_nonneg rb r
  have htotal : b.total = b.totalAttractions + b.totalHotels + b.totalMeals +
      b.totalTransportation := by
    rw [hb]
    rfl
  have hsum : b.total = [b.totalAttractions, b.totalHotels, b.totalMeals,
      b.totalTransportation].sum := by
    simp only [List.sum_cons, List.sum_nil, htotal]
    omega
  have hnone : [b.totalAttractions, b.totalHotels, b.totalMeals, b.totalTransportation].filter
      (fun v => decide (v < 0)) = [] := by
    apply List.filter_eq_nil_iff.mpr
    simp only [List.forall_mem_cons, decide_eq_true_eq]
    exact ⟨by omega, by omega, by omega, by omega, by simp⟩
  rw [validateBudget, h, ← hb]
  simp only [hnone, if_pos hsum, List.map_nil, List.nil_append]

theorem emptyField_readable (fieldName : String) {value : String} (h : blank value = false) :
    emptyField fieldName value = [] := by
  rw [emptyField, h, if_neg (by decide)]

theorem mealServiceIntervals_ok (timeline : List TimelineItem) {ws we : String} {s e : Nat}
    (hs : parseClock ws = .ok s) (he : parseClock we = .ok e) (h : s < e) :
    ∃ intervals, mealServiceIntervals timeline ws we = .ok intervals := by
  simp only [mealServiceIntervals, hs, he, bind, Except.bind, if_neg (Nat.not_le.mpr h)]
  exact ⟨_, rfl⟩

/-- The average costs that can be rounded. -/
def Priced (candidates : List RestaurantCandidate) : Prop :=
  ∀ c ∈ candidates, c.averageCost ≠ some .nan ∧ ∀ b, c.averageCost ≠ some (.infinite b)

theorem estimatedCost_ok {candidates : List RestaurantCandidate} (h : Priced candidates)
    {c : RestaurantCandidate} (hc : c ∈ candidates) (t : MealType) :
    ∃ cost, estimatedCost t c = .ok cost := by
  obtain ⟨hnan, hinf⟩ := h c hc
  rw [estimatedCost]
  split
  · exact ⟨_, rfl⟩
  · exact ⟨_, rfl⟩
  · exact absurd ‹_› (hinf _)
  · exact absurd ‹_› hnan

theorem mealsFor_ok {request : TripRequest} {anchors : MealType → Option Anchor}
    {candidates : List RestaurantCandidate} (h : Priced candidates) {dayIndex : Int}
    {intervals : MealServiceIntervals} (ts : List MealType) (used : List String) :
    ∃ meals, mealsFor request anchors candidates dayIndex intervals ts used = .ok meals := by
  induction ts generalizing used with
  | nil => exact ⟨[], rfl⟩
  | cons t ts ih =>
    rw [mealsFor]
    split
    · rename_i c status others hranked
      have hmem : (c, status) ∈ ranked candidates dayIndex t (intervals.of t) used :=
        hranked ▸ List.mem_cons_self
      rw [ranked, List.mem_mergeSort, List.mem_filter, List.mem_map] at hmem
      obtain ⟨⟨c', hc', heq⟩, -⟩ := hmem
      cases heq
      obtain ⟨cost, hcost⟩ := estimatedCost_ok h (List.mem_filter.mp hc').1 t
      obtain ⟨rest, hrest⟩ := ih (c.identity :: used)
      rw [hcost, hrest]
      exact ⟨_, rfl⟩
    · obtain ⟨rest, hrest⟩ := ih used
      rw [hrest]
      exact ⟨_, rfl⟩

/-- A rebuild only fails on a lunch window or an average cost that is no good. -/
theorem rebuildPlan_returns (rb : ConsistencyRebuilder) (request : TripRequest) (plan : TripPlan)
    (routes : Option (List RouteEstimate)) (schedule : Option Schedule)
    (restaurants : Option (List RestaurantCandidate)) {s e : Nat}
    (hs : parseClock rb.lunchWindowStart = .ok s) (he : parseClock rb.lunchWindowEnd = .ok e)
    (hw : s < e) (hp : Priced (restaurants.getD [])) :
    ∃ rebuilt, rebuildPlan rb request plan routes schedule restaurants = .ok rebuilt := by
  obtain ⟨all, hall⟩ := mapM_total (f := fun d : DayPlan × Nat =>
    mealsOfDay rb (restaurants.getD []) schedule request plan d.2 d.1) plan.days.zipIdx (by
      rintro ⟨day, position⟩ -
      obtain ⟨intervals, hi⟩ := mealServiceIntervals_ok
        (timelineOf schedule (day.indexAt position)) hs he hw
      simp only [mealsOfDay, buildMeals, hi, bind, Except.bind]
      exact mealsFor_ok hp _ _)
  rw [rebuildPlan, hall]
  exact ⟨_, rfl⟩

/-- The checks that a rebuild is for pass on what it writes, and each meal is
written at the time that was checked. -/
theorem rebuilt_plan_passes (rb : ConsistencyRebuilder) (request : TripRequest) (plan : TripPlan)
    (routes : Option (List RouteEstimate)) (schedule : Option Schedule)
    (restaurants : Option (List RestaurantCandidate)) (rebuilt : TripPlan)
    (h : rebuildPlan rb request plan routes schedule restaurants = .ok rebuilt) :
    evaluateMealHours rebuilt = [] ∧ validateContent rebuilt = [] ∧
      ∀ (position : Nat) (day : DayPlan) (m : Meal), rebuilt.days[position]? = some day →
        m ∈ day.meals → ∃ intervals t,
        mealServiceIntervals (timelineOf schedule (day.indexAt position)) rb.lunchWindowStart
          rb.lunchWindowEnd = .ok intervals ∧ m.type = t.name ∧
        parseClock m.plannedStartTime = .ok (intervals.of t).1 ∧
        parseClock m.plannedEndTime = .ok (intervals.of t).2 ∧
        openingStatusForInterval m.openingHours (intervals.of t).1 (intervals.of t).2 ≠ .closed := by
  refine ⟨?_, ?_, ?_⟩
  · rw [evaluateMealHours, List.flatMap_eq_nil_iff]
    rintro ⟨day, position⟩ hd
    obtain ⟨-, -, -, hserved⟩ := rebuilt_day h (List.mem_zipIdx_iff_getElem?.mp hd)
    exact checkMealOpeningHours_served hserved _
  · have hdays : rebuilt.days.flatMap validateDayContent = [] := by
      rw [List.flatMap_eq_nil_iff]
      intro day hd
      obtain ⟨position, hposition⟩ := List.getElem?_of_mem hd
      obtain ⟨hdescription, htransportation, haccommodation, hserved⟩ := rebuilt_day h hposition
      rw [validateDayContent, emptyField_readable _ hdescription,
        emptyField_readable _ htransportation, emptyField_readable _ haccommodation,
        mealsComplete_served hserved]
      rfl
    obtain ⟨hrebuilt, -⟩ := rebuildPlan_ok h
    have hbudget : ∃ built, rebuilt.budget = some (buildBudget rb built (routes.getD [])) := by
      rw [hrebuilt]
      exact ⟨_, rfl⟩
    obtain ⟨built, hbudget⟩ := hbudget
    have hsuggestions : validateSuggestions rebuilt = [] := by
      have htext : ∃ built, rebuilt.overallSuggestions =
          overallSuggestions (rebuilder rb (restaurants.getD []) schedule) request built := by
        rw [hrebuilt]
        exact ⟨_, rfl⟩
      obtain ⟨built, htext⟩ := htext
      rw [validateSuggestions, htext, suggestions_not_blank, if_neg (by decide)]
    rw [validateContent, hdays, validateBudget_built hbudget, hsuggestions]
    rfl
  · intro position day m hd hm
    obtain ⟨-, -, -, intervals, hi, hall⟩ := rebuilt_day h hd
    obtain ⟨t, -, ht⟩ := forall₂_mem hall hm
    obtain ⟨hstart, hstop⟩ := served_parses ht
    exact ⟨intervals, t, hi, ht.type, hstart, hstop, ht.hours⟩

def sampleRebuilder : ConsistencyRebuilder where
  kilometers := fun m => toString (m / 1000)
  transitFare := fun m => 2 + m / 2222
  drivingFare := fun m => 12 + m * 24 / 10000

def sampleRequest : TripRequest :=
  { city := "杭州", startDate := "2026-05-01", endDate := "2026-05-01", travelDays := 1
    transportation := "地铁", accommodation := "经济型" }

def samplePlan : TripPlan :=
  { city := "杭州", startDate := "2026-05-01", endDate := "2026-05-01"
    days := [⟨"2026-05-01", 0, "", "", "", none, [], []⟩], overallSuggestions := "" }

def lateDiner : RestaurantCandidate :=
  { poiId := "B1", name := "夜宵店", address := "湖滨路1号", location := ⟨.finite 120, .finite 30⟩
    openingHours := "18:00-02:00", mealType := .dinner }

theorem sample_plan_passes :
    ∃ rebuilt, rebuildPlan sampleRebuilder sampleRequest samplePlan none none (some [lateDiner]) =
        .ok rebuilt ∧ evaluateMealHours rebuilt = [] ∧ validateContent rebuilt = [] := by
  obtain ⟨rebuilt, h⟩ := rebuildPlan_returns sampleRebuilder sampleRequest samplePlan none none
    (some [lateDiner]) (s := 690) (e := 840) rfl rfl (by decide) (by simp [Priced, lateDiner])
  obtain ⟨hhours, hcontent, -⟩ := rebuilt_plan_passes sampleRebuilder sampleRequest samplePlan none
    none (some [lateDiner]) rebuilt h
  exact ⟨rebuilt, h, hhours, hcontent⟩

end TravelAgent.RebuildChecks

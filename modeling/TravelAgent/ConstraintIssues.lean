import TravelAgent.Constraints
import TravelAgent.Identities

namespace TravelAgent.Constraints

open TravelAgent.Itinerary TravelAgent.Attempts TravelAgent.Numerals
open TravelAgent.RestaurantHours (formatClock formatClock_parts)
open TravelAgent.Scheduling (TimelineItem ScheduleQualityReport DayScheduleQuality)

variable {F D : Type} {ev : ConstraintEvaluator F D} {dayIndex : Int}

theorem timelineClock_formatClock (m : Nat) : timelineClock (formatClock m) = .ok (m : Int) := by
  obtain ⟨htake, hdrop⟩ := formatClock_parts m
  rw [timelineClock, htake, hdrop]
  simp only [readInt_pad2]
  congr 1
  omega

/-- The issues of one check over all elements, each with the element it is about. -/
theorem flattened_mem {α ι : Type} {xs : List α} {f : α → Except String (List ι)} {ys : List ι}
    (h : (xs.mapM f).map List.flatten = .ok ys) {i : ι} (hi : i ∈ ys) :
    ∃ x ∈ xs, ∃ found, f x = .ok found ∧ i ∈ found := by
  obtain ⟨yss, hyss, rfl⟩ := map_ok h
  obtain ⟨found, hfound, hi⟩ := List.mem_flatten.mp hi
  obtain ⟨x, hx, hf⟩ := mapM_mem hyss hfound
  exact ⟨x, hx, found, hf, hi⟩

/-- A meal on the timeline that does not lie in the window. -/
structure Untimely (ev : ConstraintEvaluator F D) (timeline : List TimelineItem)
    (item : TimelineItem) : Prop where
  listed : item ∈ timeline
  meal : item.itemType = .meal
  outside : ∃ start stop, timelineClock item.startTime = .ok start ∧
    timelineClock item.endTime = .ok stop ∧ ¬(ev.lunchStart ≤ start ∧ stop ≤ ev.lunchEnd)

theorem checkLunchWindow_mem {timeline : List TimelineItem} {issues : List ConstraintIssue}
    (h : checkLunchWindow ev dayIndex timeline = .ok issues) {i : ConstraintIssue} (hi : i ∈ issues) :
    ∃ item, Untimely ev timeline item ∧ i = outsideTimeWindow ev dayIndex item := by
  obtain ⟨item, hitem, found, hf, hi⟩ := flattened_mem h hi
  unfold checkLunchItem at hf
  split at hf
  · cases hf
    cases hi
  · rename_i hmeal
    obtain ⟨start, hstart, hf⟩ := bind_ok hf
    obtain ⟨stop, hstop, hf⟩ := bind_ok hf
    cases hf
    split at hi
    · cases hi
    · rename_i hout
      exact ⟨item, ⟨hitem, not_not.mp hmeal, start, stop, hstart, hstop, hout⟩,
        List.mem_singleton.mp hi⟩

def hoursCode : String := "attraction.outside_opening_hours"

/-- Nothing, or one issue of the attraction. -/
theorem checkAttraction_ok {date : String} {timeline : List TimelineItem} {sources : List Source}
    {a : Attraction} {sourceIndex : Nat} {found : List ConstraintIssue}
    (h : checkAttraction dayIndex date timeline sources a sourceIndex = .ok found) :
    found = [] ∨ found = [closedOnDate dayIndex date a sourceIndex] ∨
      ∃ hours item, found = [outsideOpeningHours dayIndex hours a sourceIndex item] := by
  simp only [checkAttraction] at h
  split at h
  · cases h
    exact .inr (.inl rfl)
  · split at h
    · cases h
      exact .inl rfl
    · rename_i item _
      split at h
      · cases h
        exact .inl rfl
      · obtain ⟨start, -, h⟩ := bind_ok h
        obtain ⟨stop, -, h⟩ := bind_ok h
        cases h
        split
        · exact .inl rfl
        · exact .inr (.inr ⟨_, item, rfl⟩)

theorem checkPeriod_ok {text : String} {timeline : List TimelineItem} {a : Attraction}
    {sourceIndex : Nat} {found : List ConstraintIssue}
    (h : checkPeriod dayIndex text timeline a sourceIndex = .ok found) :
    found = [] ∨ ∃ period actual, found = [wrongTimePeriod dayIndex a sourceIndex period actual] := by
  unfold checkPeriod at h
  split at h
  · rename_i period item _ _
    obtain ⟨start, -, h⟩ := bind_ok h
    cases h
    by_cases hsame : (if start < 12 * 60 then "morning" else "afternoon") = period
    · exact .inl (if_pos hsame)
    · exact .inr ⟨period, _, if_neg hsame⟩
  · cases h
    exact .inl rfl

theorem checkTimePreferences_mem {request : TripRequest} {attractions : List Attraction}
    {timeline : List TimelineItem} {issues : List ConstraintIssue}
    (h : checkTimePreferences dayIndex request attractions timeline = .ok issues)
    {i : ConstraintIssue} (hi : i ∈ issues) : i.code = "preference.wrong_time_period" := by
  simp only [checkTimePreferences] at h
  split at h
  · cases h
    cases hi
  · obtain ⟨a, -, found, hf, hi⟩ := flattened_mem h hi
    obtain rfl | ⟨period, actual, rfl⟩ := checkPeriod_ok hf
    · cases hi
    · rw [List.mem_singleton.mp hi]
      rfl

/-- The checks that do not read the timeline. -/
def settledIssues (ev : ConstraintEvaluator F D) (dayIndex : Int) (day : DayPlan)
    (sources : List Source) (condition : String) : List ConstraintIssue :=
  checkMealOpeningHours dayIndex day.meals ++ checkDailyLoad ev dayIndex day.attractions ++
    checkWeather dayIndex day sources condition

theorem settledIssues_code {day : DayPlan} {sources : List Source} {condition : String}
    {i : ConstraintIssue} (hi : i ∈ settledIssues ev dayIndex day sources condition) :
    i.code = "meal.outside_opening_hours" ∨ i.code = "schedule.too_many_attractions" ∨
      i.code = "weather.outdoor_risk" := by
  simp only [settledIssues, List.mem_append] at hi
  obtain (hi | hi) | hi := hi
  · simp only [checkMealOpeningHours, RebuildChecks.checkMealOpeningHours, List.mem_map,
      List.mem_flatMap] at hi
    obtain ⟨issue, ⟨m, -, hm⟩, rfl⟩ := hi
    unfold RebuildChecks.checkMeal at hm
    split at hm
    · cases hm
    · split at hm
      · split at hm
        · rw [List.mem_singleton.mp hm]
          exact .inl rfl
        · cases hm
      · cases hm
  · simp only [checkDailyLoad] at hi
    split at hi
    · cases hi
    · rw [List.mem_singleton.mp hi]
      exact .inr (.inl rfl)
  · simp only [checkWeather] at hi
    split at hi
    · obtain ⟨a, -, rfl⟩ := List.mem_map.mp hi
      exact .inr (.inr rfl)
    · cases hi

variable {request : TripRequest} {plan : TripPlan} {weatherInfo : List (String × String)}
  {schedule : ScheduleQualityReport F} {attractions weather : Option D}

/-- The issues of a day, by the checks that they come from. -/
structure DayIssues (ev : ConstraintEvaluator F D) (day : DayPlan) (dayIndex : Int)
    (timeline : List TimelineItem) (sources : List Source)
    (lunch hours preferences : List ConstraintIssue) : Prop where
  lunch : checkLunchWindow ev dayIndex timeline = .ok lunch
  hours : hours = [] ∨ checkAttractionHours dayIndex day timeline sources = .ok hours
  preferences : ∀ i ∈ preferences, i.code = "preference.wrong_time_period"

theorem evaluateDay_issues {day : DayPlan} {position : Nat} {r : DayConstraintReport}
    (h : evaluateDay ev request weatherInfo schedule attractions weather day position = .ok r) :
    ∃ timeline lunch hours preferences,
      (timeline = [] ∨ ∃ d ∈ schedule.days, d.timeline = timeline) ∧
      DayIssues ev day (day.indexAt position) timeline (ev.sources attractions) lunch hours
        preferences ∧
      r.issues = lunch ++ hours ++ preferences ++ settledIssues ev (day.indexAt position) day
        (ev.sources attractions) (conditionOn (ev.forecasts weather) weatherInfo day.date) := by
  obtain ⟨timed, htimed, h⟩ := bind_ok h
  cases h
  unfold timelineIssues at htimed
  split at htimed
  · cases htimed
    refine ⟨[], [], [], [], .inl rfl,
      ⟨rfl, .inl rfl, fun i hi => absurd hi List.not_mem_nil⟩, ?_⟩
    simp only [settledIssues, List.nil_append, List.append_assoc]
  · rename_i d hd
    obtain ⟨lunch, hlunch, htimed⟩ := bind_ok htimed
    obtain ⟨hours, hhours, htimed⟩ := bind_ok htimed
    obtain ⟨preferences, hpreferences, htimed⟩ := bind_ok htimed
    cases htimed
    have hmem : d ∈ schedule.days := List.mem_reverse.mp (List.mem_of_find?_eq_some hd)
    refine ⟨d.timeline, lunch, hours, preferences, .inr ⟨d, hmem, rfl⟩,
      ⟨hlunch, .inr hhours, fun i hi => checkTimePreferences_mem hpreferences hi⟩, ?_⟩
    simp only [settledIssues, List.append_assoc]

theorem hours_code {day : DayPlan} {timeline : List TimelineItem} {sources : List Source}
    {issues : List ConstraintIssue}
    (h : checkAttractionHours dayIndex day timeline sources = .ok issues) {i : ConstraintIssue}
    (hi : i ∈ issues) : i.code = "attraction.closed_on_date" ∨ i.code = hoursCode := by
  obtain ⟨a, -, found, hf, hi⟩ := flattened_mem h hi
  obtain rfl | rfl | ⟨hours, item, rfl⟩ := checkAttraction_ok hf
  · cases hi
  · rw [List.mem_singleton.mp hi]
    exact .inl rfl
  · rw [List.mem_singleton.mp hi]
    exact .inr rfl

/-- Only a meal outside of the window is called one. -/
theorem untimely_of_code {k : TripConstraintReport F}
    (h : evaluate ev request plan weatherInfo schedule attractions weather = .ok k)
    {i : ConstraintIssue} (hi : i ∈ k.issues) (hcode : i.code = "meal.outside_time_window") :
    ∃ d ∈ schedule.days, ∃ item, Untimely ev d.timeline item := by
  obtain ⟨days, hdays, h⟩ := bind_ok h
  cases h
  obtain ⟨r, hr, hi⟩ := List.mem_flatMap.mp hi
  obtain ⟨d, -, hday⟩ := mapM_mem hdays hr
  obtain ⟨timeline, lunch, hours, preferences, htimeline, hparts, hissues⟩ :=
    evaluateDay_issues hday
  rw [hissues, List.mem_append, List.mem_append, List.mem_append] at hi
  obtain ((hi | hi) | hi) | hi := hi
  · obtain ⟨item, hitem, -⟩ := checkLunchWindow_mem hparts.lunch hi
    obtain rfl | ⟨d, hd, rfl⟩ := htimeline
    · exact absurd hitem.listed List.not_mem_nil
    · exact ⟨d, hd, item, hitem⟩
  · obtain rfl | hhours := hparts.hours
    · cases hi
    · obtain h | h := hours_code hhours hi
      · exact absurd (hcode.symm.trans h) (by decide)
      · exact absurd (hcode.symm.trans h) (by decide)
  · exact absurd (hcode.symm.trans (hparts.preferences i hi)) (by decide)
  · obtain h | h | h := settledIssues_code hi
    · exact absurd (hcode.symm.trans h) (by decide)
    · exact absurd (hcode.symm.trans h) (by decide)
    · exact absurd (hcode.symm.trans h) (by decide)

/-- What an issue of opening hours says of its place. -/
structure Placed (dayIndex : Int) (i : ConstraintIssue) : Prop where
  day : i.dayIndex = dayIndex
  source : i.sourceIndex.isSome = true

def hoursIssues (issues : List ConstraintIssue) : List ConstraintIssue :=
  issues.filter fun i => decide (i.code = hoursCode)

theorem hoursIssues_append (issues issues' : List ConstraintIssue) :
    hoursIssues (issues ++ issues') = hoursIssues issues ++ hoursIssues issues' :=
  List.filter_append _ _

theorem hoursIssues_nil {issues : List ConstraintIssue} (h : ∀ i ∈ issues, i.code ≠ hoursCode) :
    hoursIssues issues = [] :=
  List.filter_eq_nil_iff.mpr fun i hi hcode => h i hi (of_decide_eq_true hcode)

/-- The issues are about different places. -/
def Apart (issues : List ConstraintIssue) : Prop :=
  issues.Pairwise fun i j => ¬(i.dayIndex = j.dayIndex ∧ i.sourceIndex = j.sourceIndex)

theorem checkAttraction_place {date : String} {timeline : List TimelineItem} {sources : List Source}
    {a : Attraction} {sourceIndex : Nat} {found : List ConstraintIssue}
    (h : checkAttraction dayIndex date timeline sources a sourceIndex = .ok found) :
    Apart found ∧ ∀ i ∈ found, i.dayIndex = dayIndex ∧ i.sourceIndex = some sourceIndex := by
  obtain rfl | rfl | ⟨hours, item, rfl⟩ := checkAttraction_ok h
  · exact ⟨List.Pairwise.nil, fun i hi => absurd hi List.not_mem_nil⟩
  · refine ⟨List.pairwise_singleton _ _, ?_⟩
    intro i hi
    rw [List.mem_singleton.mp hi]
    exact ⟨rfl, rfl⟩
  · refine ⟨List.pairwise_singleton _ _, ?_⟩
    intro i hi
    rw [List.mem_singleton.mp hi]
    exact ⟨rfl, rfl⟩

/-- Each attraction of a day is checked once. -/
theorem checkAttractionHours_apart {day : DayPlan} {timeline : List TimelineItem}
    {sources : List Source} {issues : List ConstraintIssue}
    (h : checkAttractionHours dayIndex day timeline sources = .ok issues) : Apart issues := by
  obtain ⟨yss, hyss, rfl⟩ := map_ok h
  refine List.pairwise_flatten.mpr ⟨?_, ?_⟩
  · intro found hfound
    obtain ⟨a, -, ha⟩ := mapM_mem hyss hfound
    exact (checkAttraction_place ha).1
  · have hindices : day.attractions.zipIdx.Pairwise fun a b => a.2 < b.2 := by
      rw [← List.pairwise_map (f := Prod.snd), List.zipIdx_map_snd]
      exact List.pairwise_lt_range'
    refine mapM_pairwise ?_ hyss hindices
    intro a found b found' ha hb hlt i hi j hj hsame
    have hi := ((checkAttraction_place ha).2 i hi).2
    have hj := ((checkAttraction_place hb).2 j hj).2
    have hindex := Option.some.inj (hi.symm.trans (hsame.2.trans hj))
    omega

theorem settledIssues_other {day : DayPlan} {sources : List Source} {condition : String}
    {i : ConstraintIssue} (hi : i ∈ settledIssues ev dayIndex day sources condition) :
    i.code ≠ hoursCode := by
  intro hcode
  obtain h | h | h := settledIssues_code hi
  · exact absurd (h.symm.trans hcode) (by decide)
  · exact absurd (h.symm.trans hcode) (by decide)
  · exact absurd (h.symm.trans hcode) (by decide)

theorem checkLunchWindow_code {timeline : List TimelineItem} {issues : List ConstraintIssue}
    (h : checkLunchWindow ev dayIndex timeline = .ok issues) {i : ConstraintIssue} (hi : i ∈ issues) :
    i.code = "meal.outside_time_window" := by
  obtain ⟨item, -, rfl⟩ := checkLunchWindow_mem h hi
  rfl

/-- The issues of opening hours of a day: its attractions, one issue for each at most. -/
theorem evaluateDay_hours {day : DayPlan} {position : Nat} {r : DayConstraintReport}
    (h : evaluateDay ev request weatherInfo schedule attractions weather day position = .ok r) :
    (∀ i ∈ hoursIssues r.issues, Placed (day.indexAt position) i) ∧ Apart (hoursIssues r.issues) := by
  obtain ⟨timeline, lunch, hours, preferences, -, hparts, hissues⟩ := evaluateDay_issues h
  have hlunch : ∀ i ∈ lunch, i.code ≠ hoursCode := by
    intro i hi hcode
    exact absurd ((checkLunchWindow_code hparts.lunch hi).symm.trans hcode) (by decide)
  have hpreferences : ∀ i ∈ preferences, i.code ≠ hoursCode := by
    intro i hi hcode
    exact absurd ((hparts.preferences i hi).symm.trans hcode) (by decide)
  have hleft : hoursIssues r.issues = hoursIssues hours := by
    rw [hissues, hoursIssues_append, hoursIssues_append, hoursIssues_append, hoursIssues_nil hlunch,
      hoursIssues_nil hpreferences, hoursIssues_nil fun i hi => settledIssues_other hi,
      List.nil_append, List.append_nil, List.append_nil]
  rw [hleft]
  obtain rfl | hhours := hparts.hours
  · exact ⟨fun i hi => absurd hi List.not_mem_nil, List.Pairwise.nil⟩
  · refine ⟨?_, (checkAttractionHours_apart hhours).sublist List.filter_sublist⟩
    intro i hi
    obtain ⟨a, -, found, hf, hi⟩ := flattened_mem hhours (List.mem_filter.mp hi).1
    obtain ⟨hday, hsource⟩ := (checkAttraction_place hf).2 i hi
    exact ⟨hday, hsource ▸ rfl⟩

/-- The issues of opening hours of a trip name their attractions, each a different one where
the days have different indices. -/
theorem evaluate_hours {k : TripConstraintReport F}
    (h : evaluate ev request plan weatherInfo schedule attractions weather = .ok k) :
    (∀ i ∈ hoursIssues k.issues, i.sourceIndex.isSome = true) ∧
      ((plan.days.zipIdx.map fun d => d.1.indexAt d.2).Nodup → Apart (hoursIssues k.issues)) := by
  obtain ⟨days, hdays, h⟩ := bind_ok h
  cases h
  have hflat : hoursIssues (days.flatMap (·.issues)) = days.flatMap fun r => hoursIssues r.issues :=
    List.filter_flatMap
  dsimp only
  rw [hflat]
  refine ⟨?_, ?_⟩
  · intro i hi
    obtain ⟨r, hr, hi⟩ := List.mem_flatMap.mp hi
    obtain ⟨d, -, hday⟩ := mapM_mem hdays hr
    exact ((evaluateDay_hours hday).1 i hi).source
  · intro hdistinct
    refine List.pairwise_flatMap.mpr ⟨?_, ?_⟩
    · intro r hr
      obtain ⟨d, -, hday⟩ := mapM_mem hdays hr
      exact (evaluateDay_hours hday).2
    · refine mapM_pairwise ?_ hdays (List.pairwise_map.mp hdistinct)
      intro d r d' r' hr hr' hne i hi j hj hsame
      have hi := ((evaluateDay_hours hr).1 i hi).day
      have hj := ((evaluateDay_hours hr').1 j hj).day
      exact hne (hi.symm.trans (hsame.1.trans hj))

/-- The times of all items can be read back. -/
def Clocked (timeline : List TimelineItem) : Prop :=
  ∀ i ∈ timeline, ∃ start stop : Nat, i.startTime = formatClock start ∧ i.endTime = formatClock stop

theorem flattened_total {α ι : Type} {xs : List α} {f : α → Except String (List ι)}
    (h : ∀ x ∈ xs, ∃ found, f x = .ok found) : ∃ ys, (xs.mapM f).map List.flatten = .ok ys := by
  obtain ⟨yss, hyss⟩ := mapM_total xs h
  rw [hyss]
  exact ⟨_, rfl⟩

theorem itemOf_mem {timeline : List TimelineItem} {sourceIndex : Nat} {item : TimelineItem}
    (h : itemOf timeline sourceIndex = some item) : item ∈ timeline :=
  List.mem_reverse.mp (List.mem_of_find?_eq_some h)

section

variable {timeline : List TimelineItem} (hc : Clocked timeline)

include hc

theorem checkLunchWindow_total (ev : ConstraintEvaluator F D) (dayIndex : Int) :
    ∃ issues, checkLunchWindow ev dayIndex timeline = .ok issues := by
  apply flattened_total
  intro item hitem
  obtain ⟨start, stop, hstart, hstop⟩ := hc item hitem
  unfold checkLunchItem
  split
  · exact ⟨[], rfl⟩
  · rw [hstart, hstop, timelineClock_formatClock, timelineClock_formatClock]
    exact ⟨_, rfl⟩

theorem checkAttractionHours_total (dayIndex : Int) (day : DayPlan) (sources : List Source) :
    ∃ issues, checkAttractionHours dayIndex day timeline sources = .ok issues := by
  apply flattened_total
  rintro ⟨a, sourceIndex⟩ -
  unfold checkAttraction
  dsimp only
  split
  · exact ⟨_, rfl⟩
  · split
    · exact ⟨[], rfl⟩
    · rename_i item hitem
      obtain ⟨start, stop, hstart, hstop⟩ := hc item (itemOf_mem hitem)
      split
      · exact ⟨[], rfl⟩
      · rw [hstart, hstop, timelineClock_formatClock, timelineClock_formatClock]
        exact ⟨_, rfl⟩

theorem checkTimePreferences_total (dayIndex : Int) (request : TripRequest)
    (attractions : List Attraction) :
    ∃ issues, checkTimePreferences dayIndex request attractions timeline = .ok issues := by
  unfold checkTimePreferences
  dsimp only
  split
  · exact ⟨[], rfl⟩
  · apply flattened_total
    rintro ⟨a, sourceIndex⟩ -
    unfold checkPeriod
    split
    · rename_i period item _ hitem
      obtain ⟨start, stop, hstart, -⟩ := hc item (itemOf_mem hitem)
      rw [hstart, timelineClock_formatClock]
      exact ⟨_, rfl⟩
    · exact ⟨[], rfl⟩

end

/-- A schedule whose times can be read back has a constraint report. -/
theorem evaluate_total (ev : ConstraintEvaluator F D) (request : TripRequest) (plan : TripPlan)
    (weatherInfo : List (String × String)) {schedule : ScheduleQualityReport F}
    (attractions weather : Option D) (hc : ∀ d ∈ schedule.days, Clocked d.timeline) :
    ∃ k, evaluate ev request plan weatherInfo schedule attractions weather = .ok k := by
  have hdays : ∀ d ∈ plan.days.zipIdx, ∃ r,
      evaluateDay ev request weatherInfo schedule attractions weather d.1 d.2 = .ok r := by
    rintro ⟨day, position⟩ -
    have htimed : ∃ timed, timelineIssues ev request schedule attractions day
        (day.indexAt position) = .ok timed := by
      unfold timelineIssues
      split
      · exact ⟨[], rfl⟩
      · rename_i d hd
        have hclock := hc d (List.mem_reverse.mp (List.mem_of_find?_eq_some hd))
        obtain ⟨lunch, hlunch⟩ := checkLunchWindow_total hclock ev (day.indexAt position)
        obtain ⟨hours, hhours⟩ := checkAttractionHours_total hclock (day.indexAt position) day
          (ev.sources attractions)
        obtain ⟨preferences, hpreferences⟩ := checkTimePreferences_total hclock
          (day.indexAt position) request day.attractions
        rw [hlunch, hhours, hpreferences]
        exact ⟨_, rfl⟩
    obtain ⟨timed, htimed⟩ := htimed
    rw [evaluateDay, htimed]
    exact ⟨_, rfl⟩
  obtain ⟨days, hall⟩ := mapM_total _ hdays
  rw [evaluate, hall]
  exact ⟨_, rfl⟩

end TravelAgent.Constraints

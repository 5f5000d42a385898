import TravelAgent.RebuildChecks
import TravelAgent.Timeline

namespace TravelAgent.Constraints

open TravelAgent.Texts TravelAgent.Itinerary TravelAgent.Numerals
open TravelAgent.Agent (squeezed)
open TravelAgent.RestaurantHours (formatClock rangesIn)
open TravelAgent.Scheduling (TimelineItem ScheduleQualityReport DayScheduleQuality)

variable {F D : Type}

/-- What an issue expects or finds. -/
inductive Detail
  | nothing
  | text (value : String)
  | texts (values : List String)
  | count (n : Nat)
  | span (start stop : String)
deriving DecidableEq

inductive ConstraintSeverity
  | error | warning
deriving DecidableEq, Repr

structure ConstraintIssue where
  code : String
  severity : ConstraintSeverity := .error
  path : String
  message : String
  repairHint : String
  repairable : Bool := true
  dayIndex : Int
  sourceIndex : Option Nat := none
  attractionName : Option String := none
  penalty : ℚ
  expected : Detail := .nothing
  actual : Detail := .nothing
deriving DecidableEq

structure DayConstraintReport where
  dayIndex : Int
  date : String
  errorCount : Nat
  warningCount : Nat
  optimizationCost : ℚ
  feasible : Bool
  issues : List ConstraintIssue
deriving DecidableEq

structure TripConstraintReport (F : Type) where
  planFingerprint : F
  errorCount : Nat
  warningCount : Nat
  repairableIssueCount : Nat
  optimizationCost : ℚ
  qualityScore : ℚ
  feasible : Bool
  optimizationRecommended : Bool
  days : List DayConstraintReport
  issues : List ConstraintIssue
deriving DecidableEq

/-- What the evaluator reads of a place in the pool. -/
structure Source where
  poiId : String
  name : String
  openingHours : String := ""
  closedDates : List String := []
  category : Option String := none
deriving DecidableEq

/-- The inputs of the constraint fingerprint. -/
structure FingerprintInputs where
  transportation : String
  preferences : List String
  freeTextInput : String
  plan : TripPlan
deriving DecidableEq

/-- `ConstraintEvaluator`, with the reading of provider documents and the digest as
parameters. -/
structure ConstraintEvaluator (F D : Type) where
  lunchStart : Int
  lunchEnd : Int
  dailyAttractionSoftLimit : Nat
  sources : Option D → List Source
  forecasts : Option D → List (String × String)
  digest : FingerprintInputs → F
  window : lunchStart < lunchEnd
  positive : 1 ≤ dailyAttractionSoftLimit

/-- `_timeline_clock` -/
def timelineClock (value : String) : Except String Int :=
  match value.toList.dropWhile fun c => c ≠ ':' with
  | [] => .error "list index out of range"
  | _ :: rest =>
    match readInt (value.toList.takeWhile fun c => c ≠ ':'), readInt rest with
    | some hour, some minute => .ok (hour * 60 + minute)
    | _, _ => .error "invalid literal for int() with base 10"

def adverseWeather : List String := ["暴雨", "大雨", "雷暴", "雷阵雨", "台风", "暴雪", "大雪", "冰雹"]

def outdoorMarkers : List String :=
  ["公园", "山", "湖", "海", "滩", "草原", "湿地", "峡谷", "森林", "动物园", "植物园", "风景名胜区"]

/-- `_opening_ranges`, of the text that a source carries. -/
def openingRanges (openingHours : String) : List (Nat × Nat) :=
  let text := openingHours.toList
  if text.isEmpty || contains text "暂无".toList || contains text "24小时".toList then []
  else
    (rangesIn text.length text).filterMap fun r =>
      let start := r.1.1 * 60 + r.1.2
      let stop := r.2.1 * 60 + r.2.2
      if start < stop ∧ stop ≤ 24 * 60 then some (start, stop) else none

/-- `_source_for`: by its id, else by its name. -/
def sourceFor (sources : List Source) (a : Attraction) : Option Source :=
  let id := squeezed (a.poiId.getD "")
  let name := squeezed a.name
  let byId :=
    if id = [] then none else sources.find? fun s => decide (squeezed s.poiId = id)
  let byName :=
    if name = [] then none else sources.find? fun s => decide (squeezed s.name = name)
  byId.or byName

/-- The first text, some other text on the same line up to a length, then the second. -/
def followedBy (n : Nat) (first second text : List Char) : Bool :=
  text.tails.any fun rest =>
    first.isPrefixOf rest && (List.range (n + 1)).any fun k =>
      let behind := rest.drop first.length
      decide (k ≤ behind.length) && (behind.take k).all (· ≠ '\n') &&
        second.isPrefixOf (behind.drop k)

/-- `_requested_period` -/
def requestedPeriod (text attractionName : String) : Option String :=
  let near (word : String) :=
    followedBy 10 word.toList attractionName.toList text.toList ||
      followedBy 10 attractionName.toList word.toList text.toList
  if near "上午" || near "早上" then some "morning"
  else if near "下午" then some "afternoon"
  else none

/-- `_weather_by_date`, where the weather of the plan steps in. -/
def conditionOn (forecasts weatherInfo : List (String × String)) (date : String) : String :=
  let forecast :=
    if date.isEmpty then none else forecasts.reverse.find? fun f => decide (f.1 = date)
  ((forecast.or (weatherInfo.find? fun w => decide (w.1 = date))).map (·.2)).getD ""

def attractionPath (dayIndex : Int) (sourceIndex : Nat) : String :=
  "days[" ++ toString dayIndex ++ "].attractions[" ++ toString sourceIndex ++ "]"

section Checks

variable (ev : ConstraintEvaluator F D) (dayIndex : Int)

def outsideTimeWindow (item : TimelineItem) : ConstraintIssue :=
  { code := "meal.outside_time_window"
    path := "days[" ++ toString dayIndex ++ "].meals"
    message := "Lunch is scheduled at " ++ item.startTime ++ "-" ++ item.endTime ++
      ", outside the configured meal window"
    repairHint := "Reorder attractions so lunch falls inside the meal window"
    dayIndex := dayIndex
    penalty := 1200
    expected := .span (formatClock ev.lunchStart.toNat) (formatClock ev.lunchEnd.toNat)
    actual := .span item.startTime item.endTime }

/-- `_check_lunch_window`, on one item. -/
def checkLunchItem (item : TimelineItem) : Except String (List ConstraintIssue) :=
  if item.itemType ≠ .meal then .ok []
  else do
    let start ← timelineClock item.startTime
    let stop ← timelineClock item.endTime
    return if ev.lunchStart ≤ start ∧ stop ≤ ev.lunchEnd then [] else [outsideTimeWindow ev dayIndex item]

def checkLunchWindow (timeline : List TimelineItem) : Except String (List ConstraintIssue) :=
  (timeline.mapM (checkLunchItem ev dayIndex)).map List.flatten

/-- The item of an attraction on the timeline, the last one if there are several. -/
def itemOf (timeline : List TimelineItem) (sourceIndex : Nat) : Option TimelineItem :=
  timeline.reverse.find? fun item =>
    decide (item.itemType = .attraction ∧ item.sourceIndex = some sourceIndex)

def closedOnDate (date : String) (a : Attraction) (sourceIndex : Nat) : ConstraintIssue :=
  { code := "attraction.closed_on_date"
    path := attractionPath dayIndex sourceIndex
    message := a.name ++ " is marked closed on " ++ date
    repairHint := "Move this attraction to an open date"
    dayIndex := dayIndex
    sourceIndex := some sourceIndex
    attractionName := some a.name
    penalty := 1800
    expected := .text "open date"
    actual := .text date }

def outsideOpeningHours (hours : List (Nat × Nat)) (a : Attraction) (sourceIndex : Nat)
    (item : TimelineItem) : ConstraintIssue :=
  { code := "attraction.outside_opening_hours"
    path := attractionPath dayIndex sourceIndex
    message := a.name ++ " is scheduled at " ++ item.startTime ++ "-" ++ item.endTime ++
      " outside its known opening hours"
    repairHint := "Reorder the day or move the attraction to another date"
    dayIndex := dayIndex
    sourceIndex := some sourceIndex
    attractionName := some a.name
    penalty := 1600
    expected := .texts (hours.map fun r => formatClock r.1 ++ "-" ++ formatClock r.2)
    actual := .text (item.startTime ++ "-" ++ item.endTime) }

/-- `_check_attraction_hours`, on one attraction. -/
def checkAttraction (date : String) (timeline : List TimelineItem) (sources : List Source)
    (a : Attraction) (sourceIndex : Nat) : Except String (List ConstraintIssue) :=
  let source := sourceFor sources a
  if source.any fun s => s.closedDates.contains date then .ok [closedOnDate dayIndex date a sourceIndex]
  else
    let hours := openingRanges ((source.map (·.openingHours)).getD "")
    match itemOf timeline sourceIndex with
    | none => .ok []
    | some item =>
      if hours = [] then .ok []
      else do
        let start ← timelineClock item.startTime
        let stop ← timelineClock item.endTime
        return if hours.any fun r => decide ((r.1 : Int) ≤ start) && decide (stop ≤ r.2) then []
          else [outsideOpeningHours dayIndex hours a sourceIndex item]

def checkAttractionHours (day : DayPlan) (timeline : List TimelineItem) (sources : List Source) :
    Except String (List ConstraintIssue) :=
  (day.attractions.zipIdx.mapM fun a =>
    checkAttraction dayIndex day.date timeline sources a.1 a.2).map List.flatten

def wrongTimePeriod (a : Attraction) (sourceIndex : Nat) (period actual : String) :
    ConstraintIssue :=
  { code := "preference.wrong_time_period"
    path := attractionPath dayIndex sourceIndex
    message := a.name ++ " is scheduled in the " ++ actual ++ ", but the request requires " ++ period
    repairHint := "Reorder attractions to satisfy the requested time period"
    dayIndex := dayIndex
    sourceIndex := some sourceIndex
    attractionName := some a.name
    penalty := 1400
    expected := .text period
    actual := .text actual }

/-- `_check_time_preferences`, on one attraction. -/
def checkPeriod (text : String) (timeline : List TimelineItem) (a : Attraction) (sourceIndex : Nat) :
    Except String (List ConstraintIssue) :=
  match requestedPeriod text a.name, itemOf timeline sourceIndex with
  | some period, some item => do
    let start ← timelineClock item.startTime
    let actual := if start < 12 * 60 then "morning" else "afternoon"
    return if actual = period then [] else [wrongTimePeriod dayIndex a sourceIndex period actual]
  | _, _ => .ok []

def checkTimePreferences (request : TripRequest) (attractions : List Attraction)
    (timeline : List TimelineItem) : Except String (List ConstraintIssue) :=
  let text := request.freeTextInput.getD ""
  if text.isEmpty then .ok []
  else (attractions.zipIdx.mapM fun a => checkPeriod dayIndex text timeline a.1 a.2).map List.flatten

/-- `_check_meal_opening_hours` -/
def checkMealOpeningHours (meals : List Meal) : List ConstraintIssue :=
  (RebuildChecks.checkMealOpeningHours dayIndex meals).map fun i =>
    { code := i.code
      path := i.path
      message := i.message
      repairHint := i.repairHint
      dayIndex := i.dayIndex
      penalty := i.penalty
      expected := .texts i.expected
      actual := .span i.actualStart i.actualEnd }

/-- `_check_daily_load` -/
def checkDailyLoad (attractions : List Attraction) : List ConstraintIssue :=
  let count := attractions.length
  if count ≤ ev.dailyAttractionSoftLimit then []
  else
    [{ code := "schedule.too_many_attractions"
       severity := .warning
       path := "days[" ++ toString dayIndex ++ "].attractions"
       message := "The day contains " ++ toString count ++
         " attractions, above the configured soft limit of " ++ toString ev.dailyAttractionSoftLimit
       repairHint := "Move one attraction to a less busy day"
       dayIndex := dayIndex
       sourceIndex := some (count - 1)
       attractionName := attractions.getLast?.map (·.name)
       penalty := 250
       expected := .count ev.dailyAttractionSoftLimit
       actual := .count count }]

/-- `_check_weather` -/
def checkWeather (day : DayPlan) (sources : List Source) (condition : String) :
    List ConstraintIssue :=
  if adverseWeather.any fun m => contains condition.toList m.toList then
    (day.attractions.zipIdx.filter fun a =>
      let category := ((sourceFor sources a.1).bind (·.category)).getD (a.1.category.getD "")
      outdoorMarkers.any fun m => contains (a.1.name ++ " " ++ category).toList m.toList).map fun a =>
        { code := "weather.outdoor_risk"
          severity := .warning
          path := attractionPath dayIndex a.2
          message := a.1.name ++ " is an outdoor activity during " ++ condition
          repairHint := "Move the outdoor attraction to a day with safer weather"
          dayIndex := dayIndex
          sourceIndex := some a.2
          attractionName := some a.1.name
          penalty := 400
          expected := .text "non-adverse weather"
          actual := .text condition }
  else []

end Checks

/-- Of several timelines with one index the last one counts. -/
def scheduleByDay (schedule : ScheduleQualityReport F) (dayIndex : Int) :
    Option DayScheduleQuality :=
  schedule.days.reverse.find? fun d => decide (d.dayIndex = dayIndex)

def countSeverity (severity : ConstraintSeverity) (issues : List ConstraintIssue) : Nat :=
  issues.countP fun i => decide (i.severity = severity)

section

variable (ev : ConstraintEvaluator F D) (request : TripRequest) (plan : TripPlan)
  (weatherInfo : List (String × String)) (schedule : ScheduleQualityReport F)
  (attractions weather : Option D)

/-- The checks that read the timeline of the day. -/
def timelineIssues (day : DayPlan) (dayIndex : Int) : Except String (List ConstraintIssue) :=
  match scheduleByDay schedule dayIndex with
  | none => .ok []
  | some daySchedule => do
    let lunch ← checkLunchWindow ev dayIndex daySchedule.timeline
    let hours ← checkAttractionHours dayIndex day daySchedule.timeline (ev.sources attractions)
    let preferences ← checkTimePreferences dayIndex request day.attractions daySchedule.timeline
    return lunch ++ hours ++ preferences

def evaluateDay (day : DayPlan) (position : Nat) : Except String DayConstraintReport := do
  let dayIndex := day.indexAt position
  let timed ← timelineIssues ev request schedule attractions day dayIndex
  let issues := timed ++ checkMealOpeningHours dayIndex day.meals ++
    checkDailyLoad ev dayIndex day.attractions ++
    checkWeather dayIndex day (ev.sources attractions)
      (conditionOn (ev.forecasts weather) weatherInfo day.date)
  let errors := countSeverity .error issues
  return {
    dayIndex := dayIndex
    date := day.date
    errorCount := errors
    warningCount := countSeverity .warning issues
    optimizationCost := (issues.map (·.penalty)).sum
    feasible := decide (errors = 0)
    issues := issues }

/-- `constraint_plan_fingerprint` -/
def constraintPlanFingerprint : F :=
  ev.digest ⟨request.transportation, request.preferences, request.freeTextInput.getD "", plan⟩

/-- `ConstraintEvaluator.evaluate`, with the weather that the plan itself carries. -/
def evaluate : Except String (TripConstraintReport F) := do
  let days ← plan.days.zipIdx.mapM fun d =>
    evaluateDay ev request weatherInfo schedule attractions weather d.1 d.2
  let issues := days.flatMap (·.issues)
  let errors := countSeverity .error issues
  let warnings := countSeverity .warning issues
  return {
    planFingerprint := constraintPlanFingerprint ev request plan
    errorCount := errors
    warningCount := warnings
    repairableIssueCount := issues.countP (·.repairable)
    optimizationCost := (issues.map (·.penalty)).sum
    qualityScore := max 0 (min 100 (100 - 25 * errors - 5 * warnings))
    feasible := decide (errors = 0)
    optimizationRecommended := issues.any (·.repairable)
    days := days
    issues := issues }

end

end TravelAgent.Constraints

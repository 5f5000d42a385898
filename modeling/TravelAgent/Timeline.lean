import TravelAgent.AgentState
import TravelAgent.RestaurantHours

namespace TravelAgent.Scheduling

open TravelAgent.Itinerary TravelAgent.Texts TravelAgent.Numerals
open TravelAgent.Agent (RouteEstimateResult)
open TravelAgent.RestaurantHours (formatClock invalidClock)
open TravelAgent.TaskStore (pySpace)

/-- `_parse_clock`: a time of the day in minutes. -/
def parseDayClock (value : String) : Except String Nat :=
  match (trim pySpace value.toList).splitOn ':' with
  | [hourText, minuteText] =>
    match readInt hourText, readInt minuteText with
    | some hour, some minute =>
      if hour < 0 ∨ 23 < hour ∨ minute < 0 ∨ 59 < minute then .error (invalidClock value)
      else .ok (hour.toNat * 60 + minute.toNat)
    | _, _ => .error "invalid literal for int() with base 10"
  | _ => .error (invalidClock value)

/-- `x <= 0` on doubles. -/
def nonpositive : Double → Bool
  | .finite q => decide (q ≤ 0)
  | .infinite negative => negative
  | .nan => false

structure ScheduleTimelineEvaluator where
  startMinute : Nat
  endMinute : Nat
  lunchDurationMinutes : Nat
  lunchWindowStartMinute : Nat
  lunchWindowEndMinute : Nat
  routeBufferMinutes : Nat
  attractionBufferMinutes : Nat
  fallbackSafetyFactor : Double
  workday : startMinute < endMinute
  window : lunchWindowStartMinute < lunchWindowEndMinute
  lunchFits : lunchDurationMinutes ≤ lunchWindowEndMinute - lunchWindowStartMinute
deriving DecidableEq

structure ScheduleSettings where
  defaultStartTime : String := "09:00"
  defaultEndTime : String := "18:00"
  lunchDurationMinutes : Int := 60
  lunchWindowStart : String := "11:30"
  lunchWindowEnd : String := "14:00"
  routeBufferMinutes : Int := 10
  attractionBufferMinutes : Int := 10
  fallbackSafetyFactor : Double := .finite (13 / 10)
deriving DecidableEq

/-- `ScheduleTimelineEvaluator.__init__` -/
def ScheduleSettings.evaluator (s : ScheduleSettings) : Except String ScheduleTimelineEvaluator := do
  let startMinute ← parseDayClock s.defaultStartTime
  let endMinute ← parseDayClock s.defaultEndTime
  if hday : startMinute < endMinute then
    if s.lunchDurationMinutes < 0 ∨ s.routeBufferMinutes < 0 ∨ s.attractionBufferMinutes < 0 then
      throw "schedule durations cannot be negative"
    if nonpositive s.fallbackSafetyFactor then throw "fallback_safety_factor must be positive"
    let windowStart ← parseDayClock s.lunchWindowStart
    let windowEnd ← parseDayClock s.lunchWindowEnd
    if hwindow : windowStart < windowEnd then
      if hlunch : s.lunchDurationMinutes.toNat ≤ windowEnd - windowStart then
        return {
          startMinute := startMinute
          endMinute := endMinute
          lunchDurationMinutes := s.lunchDurationMinutes.toNat
          lunchWindowStartMinute := windowStart
          lunchWindowEndMinute := windowEnd
          routeBufferMinutes := s.routeBufferMinutes.toNat
          attractionBufferMinutes := s.attractionBufferMinutes.toNat
          fallbackSafetyFactor := s.fallbackSafetyFactor
          workday := hday
          window := hwindow
          lunchFits := hlunch }
      else throw "lunch duration must fit inside the configured lunch window"
    else throw "lunch_window_end must be later than lunch_window_start"
  else throw "default_end_time must be later than default_start_time"

def ScheduleTimelineEvaluator.latestLunchStartMinute (cfg : ScheduleTimelineEvaluator) : Nat :=
  cfg.lunchWindowEndMinute - cfg.lunchDurationMinutes

/-- What is computed in doubles: minutes rounded up from the seconds of a route or from the
haversine distance of two places, costs and scores. -/
structure Doubles where
  routeMinutes : Nat → Except String Int
  fallbackMinutes : Double → Location → Location → RouteMode → Except String Int
  dayCost : (overtime fallbackLegs transportation : Nat) → ℚ
  dayScore : (available overtime fallbackLegs transportation : Nat) → ℚ
  totalCost : List ℚ → ℚ
  meanScore : List ℚ → ℚ

inductive ItemType
  | attraction | transportation | meal | pause
deriving DecidableEq, Repr

inductive TimeSource
  | amap | haversineFallback
deriving DecidableEq, Repr

structure TimelineItem where
  itemType : ItemType
  name : String
  startTime : String
  endTime : String
  durationMinutes : Nat
  dayIndex : Int
  sourceIndex : Option Nat
  transportationTimeSource : Option TimeSource
deriving DecidableEq, Repr

structure DayScheduleQuality where
  dayIndex : Int
  date : String
  availableMinutes : Nat
  attractionMinutes : Nat
  transportationMinutes : Nat
  mealMinutes : Nat
  breakMinutes : Nat
  totalRequiredMinutes : Nat
  freeMinutes : Nat
  overtimeMinutes : Nat
  fallbackRouteLegs : Nat
  optimizationCost : ℚ
  qualityScore : ℚ
  feasible : Bool
  timeline : List TimelineItem
deriving DecidableEq

structure ScheduleQualityReport (F : Type) where
  planFingerprint : F
  feasibleDays : Nat
  infeasibleDays : Nat
  totalOvertimeMinutes : Nat
  fallbackRouteLegs : Nat
  totalTransportationMinutes : Nat
  optimizationCost : ℚ
  qualityScore : ℚ
  optimizationRecommended : Bool
  days : List DayScheduleQuality
deriving DecidableEq

/-- The variables of `_evaluate_day` that its helpers assign. -/
structure DayState where
  current : Nat
  timeline : List TimelineItem := []
  attractionMinutes : Nat := 0
  transportationMinutes : Nat := 0
  mealMinutes : Nat := 0
  breakMinutes : Nat := 0
  fallbackLegs : Nat := 0
  lunchAdded : Bool := false
deriving DecidableEq

/-- What the helpers of `_evaluate_day` only read. -/
structure DayFrame where
  cfg : ScheduleTimelineEvaluator
  dayIndex : Int
  lunchName : String
deriving DecidableEq

def appendRawItem (day : DayFrame) (itemType : ItemType) (name : String) (duration : Nat)
    (sourceIndex : Option Nat) (source : Option TimeSource) (s : DayState) : DayState :=
  if duration = 0 then s
  else
    { s with
      current := s.current + duration
      timeline := s.timeline ++
        [⟨itemType, name, formatClock s.current, formatClock (s.current + duration), duration,
          day.dayIndex, sourceIndex, source⟩] }

/-- A whole lunch, after a break up to the start of the window. -/
def appendLunch (day : DayFrame) (s : DayState) : DayState :=
  if s.lunchAdded ∨ day.cfg.lunchDurationMinutes = 0 then s
  else
    let waitMinutes := day.cfg.lunchWindowStartMinute - s.current
    let s :=
      if s.current < day.cfg.lunchWindowStartMinute then
        let s := appendRawItem day .pause "午餐窗口等待" waitMinutes none none s
        { s with breakMinutes := s.breakMinutes + waitMinutes }
      else s
    let s := appendRawItem day .meal day.lunchName day.cfg.lunchDurationMinutes none none s
    { s with mealMinutes := s.mealMinutes + day.cfg.lunchDurationMinutes, lunchAdded := true }

/-- An item that would put lunch off beyond its window comes after lunch. -/
def appendItem (day : DayFrame) (itemType : ItemType) (name : String) (duration : Nat)
    (sourceIndex : Option Nat) (source : Option TimeSource) (s : DayState) : DayState :=
  if duration = 0 then s
  else
    let s :=
      if s.lunchAdded = false ∧ 0 < day.cfg.lunchDurationMinutes ∧ itemType ≠ .meal ∧
          (day.cfg.lunchWindowStartMinute ≤ s.current ∨
            day.cfg.latestLunchStartMinute < s.current + duration) then
        appendLunch day s
      else s
    appendRawItem day itemType name duration sourceIndex source s

/-- The break after a leg or an attraction, where the setting has one. -/
def appendBuffer (day : DayFrame) (name : String) (minutes sourceIndex : Nat) (s : DayState) :
    DayState :=
  if minutes = 0 then s
  else
    let s := appendItem day .pause name minutes (some sourceIndex) none s
    { s with breakMinutes := s.breakMinutes + minutes }

/-- What a leg reads of a hotel or an attraction. -/
structure Place where
  name : String
  location : Option Location
deriving DecidableEq

def Place.ofHotel (h : Hotel) : Place := ⟨h.name, h.location⟩

def Place.ofAttraction (a : Attraction) : Place := ⟨a.name, some a.location⟩

abbrev LegKey := Int × RouteLegType × Nat

def legKey (r : RouteEstimate) : LegKey := (r.dayIndex, r.legType, r.legIndex)

/-- A lookup in the dictionary of `_route_lookup`, where the last route under a key stays. -/
def routeLookup (routes : List RouteEstimate) (key : LegKey) : Option RouteEstimate :=
  routes.reverse.find? fun r => decide (legKey r = key)

/-- A leg's minutes and where they come from. -/
abbrev Ride := Nat × TimeSource

/-- `_transport_minutes` -/
def transportMinutes (cfg : ScheduleTimelineEvaluator) (doubles : Doubles) (origin destination : Place)
    (mode : RouteMode) (route : Option RouteEstimate) : Except String Ride :=
  match (route.filter (·.available)).bind (·.durationSeconds) with
  | some seconds => (doubles.routeMinutes seconds).map fun m => ((max 1 m).toNat, .amap)
  | none =>
    match origin.location, destination.location with
    | some left, some right =>
      (doubles.fallbackMinutes cfg.fallbackSafetyFactor left right mode).map fun m =>
        ((max 1 m).toNat, .haversineFallback)
    | _, _ => .error "'NoneType' object has no attribute 'latitude'"

/-- `_lunch_name` -/
def lunchName (day : DayPlan) : String :=
  ((day.meals.find? fun meal =>
    contains (normalizeText meal.type) "lunch".toList ||
      contains (normalizeText meal.type) "午餐".toList).map (·.name)).getD "午餐"

/-- A leg on the timeline, with the break behind it. -/
def appendRide (day : DayFrame) (origin destination : Place) (sourceIndex : Nat) (ride : Ride)
    (s : DayState) : DayState :=
  let s :=
    if ride.2 = .haversineFallback then { s with fallbackLegs := s.fallbackLegs + 1 } else s
  let s := appendItem day .transportation (origin.name ++ " → " ++ destination.name) ride.1
    (some sourceIndex) (some ride.2) s
  let s := { s with transportationMinutes := s.transportationMinutes + ride.1 }
  appendBuffer day "路线机动缓冲" day.cfg.routeBufferMinutes sourceIndex s

def appendVisit (day : DayFrame) (attraction : Attraction) (sourceIndex : Nat) (s : DayState) :
    DayState :=
  let duration := (max 0 attraction.visitDuration).toNat
  let s := appendItem day .attraction attraction.name duration (some sourceIndex) none s
  { s with attractionMinutes := s.attractionMinutes + duration }

section

variable (doubles : Doubles) (day : DayFrame) (mode : RouteMode) (routes : List RouteEstimate)

/-- The three legs of a day differ in their key, their ends and the index they show. -/
def travel (origin destination : Place) (legType : RouteLegType) (legIndex sourceIndex : Nat)
    (s : DayState) : Except String DayState := do
  let ride ← transportMinutes day.cfg doubles origin destination mode
    (routeLookup routes (day.dayIndex, legType, legIndex))
  return appendRide day origin destination sourceIndex ride s

def travelDeparture (attractions : List Attraction) (startHotel : Option Hotel) (s : DayState) :
    Except String DayState :=
  match attractions.head?, startHotel with
  | some a, some h =>
    travel doubles day mode routes (.ofHotel h) (.ofAttraction a) .hotelDeparture 0 0 s
  | _, _ => .ok s

def travelReturn (attractions : List Attraction) (returnHotel : Option Hotel) (s : DayState) :
    Except String DayState :=
  match attractions.getLast?, returnHotel with
  | some a, some h =>
    travel doubles day mode routes (.ofAttraction a) (.ofHotel h) .hotelReturn 0
      (attractions.length - 1) s
  | _, _ => .ok s

/-- The loop over the attractions, with the index of the first one. -/
def visitAll (i : Nat) : List Attraction → DayState → Except String DayState
  | [], s => .ok s
  | [a], s => .ok (appendVisit day a i s)
  | a :: b :: rest, s => do
    let s := appendVisit day a i s
    let s := appendBuffer day "景点间休息缓冲" day.cfg.attractionBufferMinutes i s
    let s ← travel doubles day mode routes (.ofAttraction a) (.ofAttraction b) .betweenAttractions i
      i s
    visitAll (i + 1) (b :: rest) s

/-- Lunch after the last attraction, where the day goes on past noon. -/
def appendLateLunch (attractions : List Attraction) (s : DayState) : DayState :=
  if s.lunchAdded = false ∧ 0 < day.cfg.lunchDurationMinutes ∧ attractions ≠ [] ∧
      12 * 60 < s.current then
    appendLunch day s
  else s

end

def dayQuality (doubles : Doubles) (day : DayFrame) (date : String) (s : DayState) :
    DayScheduleQuality :=
  let available := day.cfg.endMinute - day.cfg.startMinute
  let totalRequired :=
    s.attractionMinutes + s.transportationMinutes + s.mealMinutes + s.breakMinutes
  let overtime := totalRequired - available
  { dayIndex := day.dayIndex
    date := date
    availableMinutes := available
    attractionMinutes := s.attractionMinutes
    transportationMinutes := s.transportationMinutes
    mealMinutes := s.mealMinutes
    breakMinutes := s.breakMinutes
    totalRequiredMinutes := totalRequired
    freeMinutes := available - totalRequired
    overtimeMinutes := overtime
    fallbackRouteLegs := s.fallbackLegs
    optimizationCost := doubles.dayCost overtime s.fallbackLegs s.transportationMinutes
    qualityScore := doubles.dayScore available overtime s.fallbackLegs s.transportationMinutes
    feasible := decide (overtime = 0)
    timeline := s.timeline }

section

variable (cfg : ScheduleTimelineEvaluator) (doubles : Doubles) (request : TripRequest)
  (plan : TripPlan)

def dayFrame (day : DayPlan) (position : Nat) : DayFrame :=
  ⟨cfg, day.indexAt position, lunchName day⟩

/-- `_evaluate_day` -/
def evaluateDay (routes : List RouteEstimate) (day : DayPlan) (position : Nat) :
    Except String DayScheduleQuality := do
  let frame := dayFrame cfg day position
  let mode := dayRouteMode request day
  let hotels := resolveDayHotels plan position
  let s ← travelDeparture doubles frame mode routes day.attractions hotels.1
    { current := cfg.startMinute }
  let s ← visitAll doubles frame mode routes 0 day.attractions s
  let s := appendLateLunch frame day.attractions s
  let s ← travelReturn doubles frame mode routes day.attractions hotels.2 s
  return dayQuality doubles frame day.date s

variable {F D : Type} (digest : RouteInputs → F)

def report (days : List DayScheduleQuality) : ScheduleQualityReport F :=
  let feasibleDays := days.countP (·.feasible)
  let overtime := (days.map (·.overtimeMinutes)).sum
  { planFingerprint := planRouteFingerprint digest request plan
    feasibleDays := feasibleDays
    infeasibleDays := days.length - feasibleDays
    totalOvertimeMinutes := overtime
    fallbackRouteLegs := (days.map (·.fallbackRouteLegs)).sum
    totalTransportationMinutes := (days.map (·.transportationMinutes)).sum
    optimizationCost := doubles.totalCost (days.map (·.optimizationCost))
    qualityScore := if days.isEmpty then 100 else doubles.meanScore (days.map (·.qualityScore))
    optimizationRecommended := decide (0 < overtime)
    days := days }

/-- `ScheduleTimelineEvaluator.evaluate` -/
def evaluate (routeEstimates : Option (RouteEstimateResult F D)) :
    Except String (ScheduleQualityReport F) := do
  let routes := (routeEstimates.map (·.routes)).getD []
  let days ← plan.days.zipIdx.mapM fun d =>
    evaluateDay cfg doubles request plan routes d.1 d.2
  return report doubles request plan digest days

end

end TravelAgent.Scheduling

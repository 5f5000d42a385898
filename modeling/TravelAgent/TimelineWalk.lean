import TravelAgent.Attempts
import TravelAgent.Timeline

namespace TravelAgent.Scheduling

open TravelAgent.Itinerary TravelAgent.Attempts
open TravelAgent.Agent (RouteEstimateResult)
open TravelAgent.RestaurantHours (formatClock)

/-- What a day puts on its timeline for one of its places, legs or breaks. -/
structure Entry where
  itemType : ItemType
  name : String
  minutes : Nat
  index : Nat
  source : Option TimeSource
  notMeal : itemType ≠ .meal

inductive Piece
  | entry (e : Entry)
  | lateLunch

def DayState.begins (source : Option TimeSource) (s : DayState) : DayState :=
  if source = some .haversineFallback then { s with fallbackLegs := s.fallbackLegs + 1 } else s

/-- The sum that an item's minutes go to. -/
def DayState.credit (itemType : ItemType) (minutes : Nat) (s : DayState) : DayState :=
  match itemType with
  | .attraction => { s with attractionMinutes := s.attractionMinutes + minutes }
  | .transportation => { s with transportationMinutes := s.transportationMinutes + minutes }
  | .pause => { s with breakMinutes := s.breakMinutes + minutes }
  | .meal => s

def put (day : DayFrame) (s : DayState) : Piece → DayState
  | .entry e =>
    (appendItem day e.itemType e.name e.minutes (some e.index) e.source
      (s.begins e.source)).credit e.itemType e.minutes
  | .lateLunch =>
    if s.lunchAdded = false ∧ 0 < day.cfg.lunchDurationMinutes ∧ 12 * 60 < s.current then
      appendLunch day s
    else s

def Entry.pause (name : String) (minutes index : Nat) : Entry :=
  ⟨.pause, name, minutes, index, none, ItemType.noConfusion⟩

def ridePieces (cfg : ScheduleTimelineEvaluator) (origin destination : Place) (index : Nat)
    (ride : Ride) : List Piece :=
  [.entry ⟨.transportation, origin.name ++ " → " ++ destination.name, ride.1, index, some ride.2,
      ItemType.noConfusion⟩,
    .entry (.pause "路线机动缓冲" cfg.routeBufferMinutes index)]

def visitMinutes (a : Attraction) : Nat := (max 0 a.visitDuration).toNat

def visitPiece (a : Attraction) (index : Nat) : Piece :=
  .entry ⟨.attraction, a.name, visitMinutes a, index, none, ItemType.noConfusion⟩

def visitPieces (cfg : ScheduleTimelineEvaluator) : Nat → List Attraction → List Ride → List Piece
  | i, [a], _ => [visitPiece a i]
  | i, a :: b :: rest, ride :: rides =>
    visitPiece a i :: .entry (.pause "景点间休息缓冲" cfg.attractionBufferMinutes i) ::
      (ridePieces cfg (.ofAttraction a) (.ofAttraction b) i ride ++
        visitPieces cfg (i + 1) (b :: rest) rides)
  | _, _, _ => []

/-- The legs of a day, as far as it has them. -/
structure DayRides where
  departure : Option Ride
  between : List Ride
  back : Option Ride
deriving DecidableEq

def hotelPieces (pieces : Attraction → Hotel → Ride → List Piece) :
    Option Attraction → Option Hotel → Option Ride → List Piece
  | some a, some h, some ride => pieces a h ride
  | _, _, _ => []

def departurePieces (cfg : ScheduleTimelineEvaluator) (attractions : List Attraction) :
    Option Hotel → Option Ride → List Piece :=
  hotelPieces (fun a h => ridePieces cfg (.ofHotel h) (.ofAttraction a) 0) attractions.head?

def returnPieces (cfg : ScheduleTimelineEvaluator) (attractions : List Attraction) :
    Option Hotel → Option Ride → List Piece :=
  hotelPieces
    (fun a h => ridePieces cfg (.ofAttraction a) (.ofHotel h) (attractions.length - 1))
    attractions.getLast?

/-- All that goes on the timeline of a day, in order. -/
def dayPieces (cfg : ScheduleTimelineEvaluator) (attractions : List Attraction)
    (hotels : Option Hotel × Option Hotel) (rides : DayRides) : List Piece :=
  departurePieces cfg attractions hotels.1 rides.departure ++
    visitPieces cfg 0 attractions rides.between ++
    (if attractions = [] then [] else [.lateLunch]) ++
    returnPieces cfg attractions hotels.2 rides.back

section

variable (doubles : Doubles) (day : DayFrame) (mode : RouteMode) (routes : List RouteEstimate)

def rideMinutes (origin destination : Place) (legType : RouteLegType) (legIndex : Nat) :
    Except String Ride :=
  transportMinutes day.cfg doubles origin destination mode
    (routeLookup routes (day.dayIndex, legType, legIndex))

def hotelRide (minutes : Attraction → Hotel → Except String Ride) :
    Option Attraction → Option Hotel → Except String (Option Ride)
  | some a, some h => (minutes a h).map some
  | _, _ => .ok none

def departureRide (attractions : List Attraction) : Option Hotel → Except String (Option Ride) :=
  hotelRide (fun a h =>
    rideMinutes doubles day mode routes (.ofHotel h) (.ofAttraction a) .hotelDeparture 0)
    attractions.head?

def returnRide (attractions : List Attraction) : Option Hotel → Except String (Option Ride) :=
  hotelRide (fun a h =>
    rideMinutes doubles day mode routes (.ofAttraction a) (.ofHotel h) .hotelReturn 0)
    attractions.getLast?

def betweenRides : Nat → List Attraction → Except String (List Ride)
  | i, a :: b :: rest => do
    let ride ← rideMinutes doubles day mode routes (.ofAttraction a) (.ofAttraction b)
      .betweenAttractions i
    let rides ← betweenRides (i + 1) (b :: rest)
    return ride :: rides
  | _, _ => .ok []

def dayRides (attractions : List Attraction) (hotels : Option Hotel × Option Hotel) :
    Except String DayRides := do
  let departure ← departureRide doubles day mode routes attractions hotels.1
  let between ← betweenRides doubles day mode routes 0 attractions
  let back ← returnRide doubles day mode routes attractions hotels.2
  return ⟨departure, between, back⟩

theorem appendBuffer_put (name : String) (minutes index : Nat) (s : DayState) :
    appendBuffer day name minutes index s = put day s (.entry (.pause name minutes index)) := by
  by_cases h : minutes = 0
  · simp [appendBuffer, put, Entry.pause, DayState.begins, DayState.credit, appendItem, h]
  · simp only [appendBuffer, if_neg h]
    rfl

theorem appendVisit_put (a : Attraction) (index : Nat) (s : DayState) :
    appendVisit day a index s = put day s (visitPiece a index) := rfl

theorem appendRide_put (origin destination : Place) (index : Nat) (ride : Ride) (s : DayState) :
    appendRide day origin destination index ride s =
      (ridePieces day.cfg origin destination index ride).foldl (put day) s := by
  simp only [appendRide, ridePieces, List.foldl_cons, List.foldl_nil, ← appendBuffer_put]
  simp only [put, DayState.begins, DayState.credit, Option.some.injEq]

theorem travel_put (origin destination : Place) (legType : RouteLegType) (legIndex index : Nat)
    (s : DayState) :
    travel doubles day mode routes origin destination legType legIndex index s =
      (rideMinutes doubles day mode routes origin destination legType legIndex).map fun ride =>
        (ridePieces day.cfg origin destination index ride).foldl (put day) s := by
  simp only [travel, rideMinutes]
  cases transportMinutes day.cfg doubles origin destination mode
    (routeLookup routes (day.dayIndex, legType, legIndex)) with
  | error e => rfl
  | ok ride => exact congrArg Except.ok (appendRide_put day origin destination index ride s)

theorem travelDeparture_put (attractions : List Attraction) (startHotel : Option Hotel)
    (s : DayState) :
    travelDeparture doubles day mode routes attractions startHotel s =
      (departureRide doubles day mode routes attractions startHotel).map fun ride =>
        (departurePieces day.cfg attractions startHotel ride).foldl (put day) s := by
  simp only [travelDeparture, departureRide, departurePieces, hotelRide, hotelPieces]
  cases attractions.head? with
  | none => rfl
  | some a =>
    cases startHotel with
    | none => rfl
    | some h =>
      dsimp only
      rw [travel_put]
      cases rideMinutes doubles day mode routes (.ofHotel h) (.ofAttraction a) .hotelDeparture 0 with
      | error e => rfl
      | ok ride => rfl

theorem travelReturn_put (attractions : List Attraction) (returnHotel : Option Hotel)
    (s : DayState) :
    travelReturn doubles day mode routes attractions returnHotel s =
      (returnRide doubles day mode routes attractions returnHotel).map fun ride =>
        (returnPieces day.cfg attractions returnHotel ride).foldl (put day) s := by
  simp only [travelReturn, returnRide, returnPieces, hotelRide, hotelPieces]
  cases attractions.getLast? with
  | none => rfl
  | some a =>
    cases returnHotel with
    | none => rfl
    | some h =>
      dsimp only
      rw [travel_put]
      cases rideMinutes doubles day mode routes (.ofAttraction a) (.ofHotel h) .hotelReturn 0 with
      | error e => rfl
      | ok ride => rfl

theorem visitAll_put (attractions : List Attraction) (i : Nat) (s : DayState) :
    visitAll doubles day mode routes i attractions s =
      (betweenRides doubles day mode routes i attractions).map fun rides =>
        (visitPieces day.cfg i attractions rides).foldl (put day) s := by
  induction attractions generalizing i s with
  | nil => rfl
  | cons a attractions ih =>
    cases attractions with
    | nil => rfl
    | cons b rest =>
      rw [visitAll, betweenRides, travel_put]
      cases rideMinutes doubles day mode routes (.ofAttraction a) (.ofAttraction b)
          .betweenAttractions i with
      | error e => rfl
      | ok ride =>
        simp only [Except.map, bind, Except.bind, ih]
        cases betweenRides doubles day mode routes (i + 1) (b :: rest) with
        | error e => rfl
        | ok rides =>
          simp only [pure, Except.pure, visitPieces, List.foldl_cons, List.foldl_append,
            appendBuffer_put, appendVisit_put]

theorem appendLateLunch_put (attractions : List Attraction) (s : DayState) :
    appendLateLunch day attractions s =
      (if attractions = [] then [] else [Piece.lateLunch]).foldl (put day) s := by
  by_cases h : attractions = []
  · simp [appendLateLunch, h]
  · simp [appendLateLunch, put, h]

end

section

variable (cfg : ScheduleTimelineEvaluator) (doubles : Doubles) (request : TripRequest)
  (plan : TripPlan) (routes : List RouteEstimate) (day : DayPlan) (position : Nat)

def ridesOf : Except String DayRides :=
  dayRides doubles (dayFrame cfg day position) (dayRouteMode request day) routes day.attractions
    (resolveDayHotels plan position)

def piecesOf (rides : DayRides) : List Piece :=
  dayPieces cfg day.attractions (resolveDayHotels plan position) rides

def walk (frame : DayFrame) (pieces : List Piece) : DayState :=
  pieces.foldl (put frame) { current := frame.cfg.startMinute }

/-- The times of all legs are known before anything is put on the timeline. -/
theorem evaluateDay_walk :
    evaluateDay cfg doubles request plan routes day position =
      (ridesOf cfg doubles request plan routes day position).map fun rides =>
        dayQuality doubles (dayFrame cfg day position) day.date
          (walk (dayFrame cfg day position) (piecesOf cfg plan day position rides)) := by
  simp only [evaluateDay, ridesOf, dayRides, travelDeparture_put]
  cases departureRide doubles (dayFrame cfg day position) (dayRouteMode request day) routes
      day.attractions (resolveDayHotels plan position).1 with
  | error e => rfl
  | ok departure =>
    simp only [Except.map, bind, Except.bind, visitAll_put]
    cases betweenRides doubles (dayFrame cfg day position) (dayRouteMode request day) routes 0
        day.attractions with
    | error e => rfl
    | ok between =>
      simp only [appendLateLunch_put, travelReturn_put]
      cases returnRide doubles (dayFrame cfg day position) (dayRouteMode request day) routes
          day.attractions (resolveDayHotels plan position).2 with
      | error e => rfl
      | ok back =>
        simp only [Except.map, pure, Except.pure, walk, piecesOf, dayPieces, List.foldl_append]
        rfl

end

/-- The minutes on a timeline. -/
def span (timeline : List TimelineItem) : Nat := (timeline.map (·.durationMinutes)).sum

@[simp] theorem span_append (xs ys : List TimelineItem) : span (xs ++ ys) = span xs + span ys := by
  rw [span, List.map_append, List.sum_append]
  rfl

@[simp] theorem span_singleton (i : TimelineItem) : span [i] = i.durationMinutes := by
  rw [span, List.map_singleton, List.sum_singleton]

/-- From a minute on, each item starts where the one before it ends. -/
def Contiguous : Nat → List TimelineItem → Prop
  | _, [] => True
  | c, i :: is =>
    i.startTime = formatClock c ∧ i.endTime = formatClock (c + i.durationMinutes) ∧
      Contiguous (c + i.durationMinutes) is

theorem contiguous_append {c : Nat} {xs ys : List TimelineItem} :
    Contiguous c (xs ++ ys) ↔ Contiguous c xs ∧ Contiguous (c + span xs) ys := by
  induction xs generalizing c with
  | nil => simp [Contiguous, span]
  | cons i is ih =>
    have hspan : c + span (i :: is) = c + i.durationMinutes + span is := by
      simp only [span, List.map_cons, List.sum_cons]
      omega
    rw [List.cons_append, Contiguous, Contiguous, ih, hspan]
    simp only [and_assoc]

/-- The cursor stands at the end of the timeline, and all minutes but those owed are in one
of the sums. -/
structure Tallied (start owed : Nat) (s : DayState) : Prop where
  contiguous : Contiguous start s.timeline
  reached : s.current = start + span s.timeline
  counted : span s.timeline =
    s.attractionMinutes + s.transportationMinutes + s.mealMinutes + s.breakMinutes + owed

variable {start owed : Nat} {s : DayState}

theorem appendRawItem_tallied (h : Tallied start owed s) (day : DayFrame) (itemType : ItemType)
    (name : String) (duration : Nat) (sourceIndex : Option Nat) (source : Option TimeSource) :
    Tallied start (owed + duration)
      (appendRawItem day itemType name duration sourceIndex source s) := by
  by_cases hd : duration = 0
  · subst hd
    rwa [appendRawItem, if_pos rfl]
  · simp only [appendRawItem, if_neg hd]
    have hreached := h.reached
    have hcounted := h.counted
    refine ⟨?_, ?_, ?_⟩
    · apply contiguous_append.mpr
      refine ⟨h.contiguous, ?_⟩
      rw [← hreached]
      exact ⟨rfl, rfl, trivial⟩
    · simp only [span_append, span_singleton]
      omega
    · simp only [span_append, span_singleton]
      omega

theorem appendLunch_tallied (h : Tallied start owed s) (day : DayFrame) :
    Tallied start owed (appendLunch day s) := by
  by_cases hskip : s.lunchAdded ∨ day.cfg.lunchDurationMinutes = 0
  · rwa [appendLunch, if_pos hskip]
  · have hmeal : ∀ u : DayState, Tallied start owed u →
        let v := appendRawItem day .meal day.lunchName day.cfg.lunchDurationMinutes none none u
        Tallied start owed
          { v with mealMinutes := v.mealMinutes + day.cfg.lunchDurationMinutes, lunchAdded := true } := by
      intro u hu
      have hv := appendRawItem_tallied hu day .meal day.lunchName day.cfg.lunchDurationMinutes none
        none
      have hcounted := hv.counted
      refine ⟨hv.contiguous, hv.reached, ?_⟩
      dsimp only at hcounted ⊢
      omega
    simp only [appendLunch, if_neg hskip]
    by_cases hwait : s.current < day.cfg.lunchWindowStartMinute
    · rw [if_pos hwait]
      apply hmeal
      have hv := appendRawItem_tallied h day .pause "午餐窗口等待"
        (day.cfg.lunchWindowStartMinute - s.current) none none
      have hcounted := hv.counted
      refine ⟨hv.contiguous, hv.reached, ?_⟩
      dsimp only at hcounted ⊢
      omega
    · rw [if_neg hwait]
      exact hmeal s h

theorem appendItem_tallied (h : Tallied start owed s) (day : DayFrame) (itemType : ItemType)
    (name : String) (duration : Nat) (sourceIndex : Option Nat) (source : Option TimeSource) :
    Tallied start (owed + duration) (appendItem day itemType name duration sourceIndex source s) := by
  by_cases hd : duration = 0
  · subst hd
    rwa [appendItem, if_pos rfl]
  · simp only [appendItem, if_neg hd]
    apply appendRawItem_tallied
    split
    · exact appendLunch_tallied h day
    · exact h

theorem credit_tallied {minutes : Nat} (h : Tallied start (owed + minutes) s) {itemType : ItemType}
    (hmeal : itemType ≠ .meal) : Tallied start owed (s.credit itemType minutes) := by
  have hcounted := h.counted
  cases itemType with
  | meal => exact absurd rfl hmeal
  | _ =>
    refine ⟨h.contiguous, h.reached, ?_⟩
    simp only [DayState.credit]
    omega

theorem begins_tallied (h : Tallied start owed s) (source : Option TimeSource) :
    Tallied start owed (s.begins source) := by
  rw [DayState.begins]
  split
  · exact ⟨h.contiguous, h.reached, h.counted⟩
  · exact h

theorem put_tallied (h : Tallied start 0 s) (day : DayFrame) (p : Piece) :
    Tallied start 0 (put day s p) := by
  cases p with
  | entry e =>
    apply credit_tallied _ e.notMeal
    exact appendItem_tallied (begins_tallied h e.source) day _ _ _ _ _
  | lateLunch =>
    rw [put]
    split
    · exact appendLunch_tallied h day
    · exact h

theorem walk_tallied (frame : DayFrame) (pieces : List Piece) :
    Tallied frame.cfg.startMinute 0 (walk frame pieces) := by
  have hfold : ∀ s, Tallied frame.cfg.startMinute 0 s →
      Tallied frame.cfg.startMinute 0 (pieces.foldl (put frame) s) := by
    induction pieces with
    | nil => exact fun s h => h
    | cons p pieces ih => exact fun s h => ih _ (put_tallied h frame p)
  apply hfold
  exact ⟨trivial, rfl, rfl⟩

/-- The numbers of a day fit its timeline. -/
structure Balanced (cfg : ScheduleTimelineEvaluator) (d : DayScheduleQuality) : Prop where
  contiguous : Contiguous cfg.startMinute d.timeline
  total : span d.timeline = d.totalRequiredMinutes
  parts : d.totalRequiredMinutes =
    d.attractionMinutes + d.transportationMinutes + d.mealMinutes + d.breakMinutes
  last : ∀ i, d.timeline.getLast? = some i →
    i.endTime = formatClock (cfg.startMinute + d.totalRequiredMinutes)
  overtime : 0 < d.overtimeMinutes ↔ cfg.endMinute < cfg.startMinute + d.totalRequiredMinutes
  exclusive : ¬(0 < d.overtimeMinutes ∧ 0 < d.freeMinutes)

theorem contiguous_last {c : Nat} {timeline : List TimelineItem} (h : Contiguous c timeline)
    {i : TimelineItem} (hi : timeline.getLast? = some i) :
    i.endTime = formatClock (c + span timeline) := by
  obtain ⟨front, rfl⟩ := List.getLast?_eq_some_iff.mp hi
  have hlast := (contiguous_append.mp h).2
  rw [hlast.2.1, span_append, span_singleton, Nat.add_assoc]

theorem evaluateDay_balanced {cfg : ScheduleTimelineEvaluator} {doubles : Doubles}
    {request : TripRequest} {plan : TripPlan} {routes : List RouteEstimate} {day : DayPlan}
    {position : Nat} {d : DayScheduleQuality}
    (h : evaluateDay cfg doubles request plan routes day position = .ok d) : Balanced cfg d := by
  rw [evaluateDay_walk] at h
  obtain ⟨rides, _, rfl⟩ := map_ok h
  have htally := walk_tallied (dayFrame cfg day position) (piecesOf cfg plan day position rides)
  have hday := cfg.workday
  have htotal : span (walk (dayFrame cfg day position) (piecesOf cfg plan day position rides)).timeline =
      (dayQuality doubles (dayFrame cfg day position) day.date (walk (dayFrame cfg day position)
        (piecesOf cfg plan day position rides))).totalRequiredMinutes := htally.counted
  refine ⟨htally.contiguous, htotal, rfl, ?_, ?_, ?_⟩
  · intro i hi
    rw [← htotal]
    exact contiguous_last htally.contiguous hi
  · simp only [dayQuality, dayFrame]
    omega
  · simp only [dayQuality, dayFrame]
    omega

/-- On every day of a report the items follow one another from the start of the day, and
their minutes are the sums that the report states. -/
theorem timeline_balanced {F D : Type} {cfg : ScheduleTimelineEvaluator} {doubles : Doubles}
    {request : TripRequest} {plan : TripPlan} {digest : RouteInputs → F}
    {routeEstimates : Option (RouteEstimateResult F D)} {r : ScheduleQualityReport F}
    (h : evaluate cfg doubles request plan digest routeEstimates = .ok r) :
    ∀ d ∈ r.days, Balanced cfg d := by
  obtain ⟨days, hdays, h⟩ := bind_ok h
  cases h
  intro d hd
  obtain ⟨p, _, hp⟩ := mapM_mem hdays hd
  exact evaluateDay_balanced hp

/-- From nine to six, with an hour of lunch between half past eleven and two. -/
def workdayEvaluator : ScheduleTimelineEvaluator :=
  { startMinute := 540
    endMinute := 1080
    lunchDurationMinutes := 60
    lunchWindowStartMinute := 690
    lunchWindowEndMinute := 840
    routeBufferMinutes := 10
    attractionBufferMinutes := 10
    fallbackSafetyFactor := .finite (13 / 10)
    workday := by decide
    window := by decide
    lunchFits := by decide }

/-- Half an hour for every leg, and plain sums. -/
def plainDoubles : Doubles :=
  { routeMinutes := fun seconds => .ok ((seconds + 59) / 60)
    fallbackMinutes := fun _ _ _ _ => .ok 30
    dayCost := fun overtime legs minutes => overtime * 100 + legs * 1000 + minutes
    dayScore := fun _ _ _ _ => 100
    totalCost := List.sum
    meanScore := fun _ => 100 }

def sight (name : String) (visitDuration : Int) : Attraction :=
  { name := name
    address := ""
    location := ⟨.finite 121, .finite 31⟩
    visitDuration := visitDuration
    description := "" }

def cityDay (attractions : List Attraction) (meals : List Meal) : DayPlan :=
  { date := "2026-05-01"
    dayIndex := 0
    description := ""
    transportation := "地铁"
    accommodation := ""
    hotel := some { name := "酒店", location := some ⟨.finite 121, .finite 31⟩ }
    attractions := attractions
    meals := meals }

def cityPlan (attractions : List Attraction) (meals : List Meal) : TripPlan :=
  { city := "上海"
    startDate := "2026-05-01"
    endDate := "2026-05-01"
    days := [cityDay attractions meals]
    overallSuggestions := "" }

def cityRequest : TripRequest :=
  { city := "上海"
    startDate := "2026-05-01"
    endDate := "2026-05-01"
    travelDays := 1
    transportation := "地铁"
    accommodation := "" }

/-- Two sights from the hotel and back: ten items with lunch, and they balance. -/
theorem city_day_balanced :
    ∃ r, evaluate workdayEvaluator plainDoubles cityRequest (cityPlan [sight "外滩" 90, sight "豫园" 120] [])
        (fun _ => ()) (none : Option (RouteEstimateResult Unit Unit)) = .ok r ∧
      r.days.map (·.timeline.length) = [10] ∧ ∀ d ∈ r.days, Balanced workdayEvaluator d := by
  have hrun : (evaluate workdayEvaluator plainDoubles cityRequest
      (cityPlan [sight "外滩" 90, sight "豫园" 120] []) (fun _ => ())
      (none : Option (RouteEstimateResult Unit Unit))).toOption.map
        (fun r => r.days.map (·.timeline.length)) = some [10] := by
    decide +kernel
  cases hr : evaluate workdayEvaluator plainDoubles cityRequest
      (cityPlan [sight "外滩" 90, sight "豫园" 120] []) (fun _ => ())
      (none : Option (RouteEstimateResult Unit Unit)) with
  | error e =>
    rw [hr] at hrun
    cases hrun
  | ok r =>
    rw [hr] at hrun
    exact ⟨r, rfl, Option.some.inj hrun, timeline_balanced hr⟩

end TravelAgent.Scheduling

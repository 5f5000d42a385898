import TravelAgent.ContentRebuild
import TravelAgent.RestaurantHours

namespace TravelAgent.MealPlanning

open TravelAgent.Itinerary TravelAgent.ContentRebuild TravelAgent.RestaurantHours

structure RestaurantCandidate where
  poiId : String := ""
  name : String
  address : String
  location : Location
  rating : Option ℚ := none
  telephone : String := ""
  category : String := ""
  openingHours : String := ""
  averageCost : Option Double := none
  distanceMeters : Option Nat := none
  dayIndex : Nat := 0
  mealType : MealType := .lunch
deriving DecidableEq

structure ScheduleDay where
  dayIndex : Nat
  timeline : List TimelineItem
deriving DecidableEq

structure Schedule where
  totalOvertimeMinutes : Nat
  days : List ScheduleDay
deriving DecidableEq

/-- `TripPlanConsistencyRebuilder`. What it computes with doubles from a
distance, the text in kilometers and the two fares, is a parameter. -/
structure ConsistencyRebuilder where
  lunchWindowStart : String := "11:30"
  lunchWindowEnd : String := "14:00"
  kilometers : Nat → String
  transitFare : Nat → Int
  drivingFare : Nat → Int

/-- What a fallback meal takes from the hotel or attraction it is near to. -/
structure Anchor where
  name : String
  address : String
  location : Option Location
deriving DecidableEq

def Anchor.ofHotel (h : Hotel) : Anchor := ⟨h.name, h.address, h.location⟩

def Anchor.ofAttraction (a : Attraction) : Anchor := ⟨a.name, a.address, some a.location⟩

/-- `_MEAL_COSTS` -/
def mealCost : MealType → Int
  | .breakfast => 25
  | .lunch => 50
  | _ => 70

def mealLabel : MealType → String
  | .breakfast => "早餐"
  | .lunch => "午餐"
  | _ => "晚餐"

def RestaurantCandidate.identity (c : RestaurantCandidate) : String :=
  if c.poiId.isEmpty then c.name ++ "|" ++ c.address else c.poiId

/-- `round(x)`, half to even. -/
def roundInt (q : ℚ) : Int :=
  let n := q.floor
  if 1 / 2 < q - n ∨ (q - n = 1 / 2 ∧ n % 2 ≠ 0) then n + 1 else n

def estimatedCost (t : MealType) (c : RestaurantCandidate) : Except String Int :=
  match c.averageCost with
  | none => .ok (mealCost t)
  | some (.finite q) => .ok (max 0 (roundInt q))
  | some (.infinite _) => .error "cannot convert float infinity to integer"
  | some .nan => .error "cannot convert float NaN to integer"

def openRank (s : OpeningStatus) : Nat := if s = .open then 0 else 1

def RestaurantCandidate.distance (c : RestaurantCandidate) : Nat := c.distanceMeters.getD (10 ^ 9)

def RestaurantCandidate.score (c : RestaurantCandidate) : ℚ := c.rating.getD (-1)

/-- The sort key of the candidates, compared column by column. -/
def rankedBefore (a b : RestaurantCandidate × OpeningStatus) : Bool :=
  decide (openRank a.2 < openRank b.2) || (decide (openRank a.2 = openRank b.2) &&
    (decide (a.1.distance < b.1.distance) || (decide (a.1.distance = b.1.distance) &&
      (decide (b.1.score < a.1.score) || (decide (b.1.score = a.1.score) &&
        !decide (b.1.name < a.1.name))))))

/-- The candidates for a meal that are not taken yet and not known to be closed. -/
def ranked (candidates : List RestaurantCandidate) (dayIndex : Int) (t : MealType)
    (interval : Nat × Nat) (used : List String) : List (RestaurantCandidate × OpeningStatus) :=
  let offered := candidates.filter fun c =>
    decide ((c.dayIndex : Int) = dayIndex) && decide (c.mealType = t) && !used.contains c.identity
  let rated := offered.map fun c =>
    (c, openingStatusForInterval c.openingHours interval.1 interval.2)
  (rated.filter fun r => !decide (r.2 = .closed)).mergeSort rankedBefore

def candidateMeal (t : MealType) (interval : Nat × Nat) (c : RestaurantCandidate)
    (status : OpeningStatus) (cost : Int) : Meal :=
  let distance := (c.distanceMeters.map fun m => "，距行程锚点约" ++ toString m ++ "米").getD ""
  let hoursNote :=
    if status = .open then "营业时间覆盖预计用餐时段" else "营业时间未知，出发前请再次确认"
  { type := t.name
    name := c.name
    address := some c.address
    location := some c.location
    description := some ("高德真实餐饮候选" ++ distance ++ "；" ++ hoursNote ++ "。")
    estimatedCost := cost
    poiId := c.poiId
    rating := c.rating.map Double.finite
    telephone := c.telephone
    category := c.category
    openingHours := c.openingHours
    source := "amap"
    plannedStartTime := formatClock interval.1
    plannedEndTime := formatClock interval.2
    openingStatus := if status = .open then "open" else "unknown" }

def fallbackMeal (request : TripRequest) (t : MealType) (interval : Nat × Nat)
    (anchor : Option Anchor) : Meal :=
  { type := t.name
    name := (anchor.map (·.name)).getD (request.city ++ "市区") ++ "附近" ++ mealLabel t
    address := anchor.map (·.address)
    location := anchor.bind (·.location)
    description :=
      some ("未获得营业时间匹配的真实餐厅，围绕当天实际地点安排" ++ mealLabel t ++ "，到店前确认营业状态。")
    estimatedCost := mealCost t
    source := "fallback"
    plannedStartTime := formatClock interval.1
    plannedEndTime := formatClock interval.2
    openingStatus := "fallback" }

def anchorOf (attractions : List Attraction) (startHotel returnHotel : Option Hotel) :
    MealType → Option Anchor :=
  let middle := attractions[attractions.length / 2]?.map Anchor.ofAttraction
  let last := attractions.getLast?.map Anchor.ofAttraction
  let start := startHotel.map Anchor.ofHotel
  let back := returnHotel.map Anchor.ofHotel
  fun
  | .breakfast => start.or middle
  | .lunch => (middle.or start).or back
  | _ => (back.or last).or start

/-- The loop of `_build_meals` over the meals that are left. -/
def mealsFor (request : TripRequest) (anchors : MealType → Option Anchor)
    (candidates : List RestaurantCandidate) (dayIndex : Int) (intervals : MealServiceIntervals) :
    List MealType → List String → Except String (List Meal)
  | [], _ => .ok []
  | t :: ts, used =>
    match ranked candidates dayIndex t (intervals.of t) used with
    | (c, status) :: _ => do
      let cost ← estimatedCost t c
      let rest ← mealsFor request anchors candidates dayIndex intervals ts (c.identity :: used)
      return candidateMeal t (intervals.of t) c status cost :: rest
    | [] => do
      let rest ← mealsFor request anchors candidates dayIndex intervals ts used
      return fallbackMeal request t (intervals.of t) (anchors t) :: rest

def timelineOf (schedule : Option Schedule) (dayIndex : Int) : List TimelineItem :=
  ((schedule.bind fun s => s.days.reverse.find? fun d => decide ((d.dayIndex : Int) = dayIndex)).map
    (·.timeline)).getD []

/-- `_build_meals` -/
def buildMeals (rb : ConsistencyRebuilder) (candidates : List RestaurantCandidate)
    (schedule : Option Schedule) (request : TripRequest) (attractions : List Attraction)
    (dayIndex : Int) (startHotel returnHotel : Option Hotel) : Except String (List Meal) := do
  let intervals ← mealServiceIntervals (timelineOf schedule dayIndex) rb.lunchWindowStart
    rb.lunchWindowEnd
  mealsFor request (anchorOf attractions startHotel returnHotel) candidates dayIndex intervals
    [.breakfast, .lunch, .dinner] []

/-- `_route_cost` -/
def routeCost (rb : ConsistencyRebuilder) (r : RouteEstimate) : Int :=
  match r.available, r.distanceMeters with
  | true, some meters =>
    match r.mode with
    | .walking => 0
    | .transit => max 2 (rb.transitFare meters)
    | .driving => max 12 (rb.drivingFare meters)
  | _, _ => 0

/-- `_build_budget` -/
def buildBudget (rb : ConsistencyRebuilder) (plan : TripPlan) (routes : List RouteEstimate) :
    Budget :=
  let attractions := (plan.days.flatMap fun day =>
    day.attractions.map fun a => max 0 a.ticketPrice).sum
  let hotels := (plan.days.filterMap fun day => day.hotel.map fun h => max 0 h.estimatedCost).sum
  let meals := (plan.days.flatMap fun day => day.meals.map fun m => max 0 m.estimatedCost).sum
  let transportation := (routes.map (routeCost rb)).sum
  { totalAttractions := attractions
    totalHotels := hotels
    totalMeals := meals
    totalTransportation := transportation
    total := attractions + hotels + meals + transportation }

/-- The rebuilding of texts and budget, over the meals where they are built. -/
def rebuilder (rb : ConsistencyRebuilder) (candidates : List RestaurantCandidate)
    (schedule : Option Schedule) : Rebuilder where
  kilometers := rb.kilometers
  buildMeals := fun request attractions dayIndex startHotel returnHotel =>
    (buildMeals rb candidates schedule request attractions dayIndex startHotel
      returnHotel).toOption.getD []
  buildBudget := buildBudget rb
  onTime := schedule.any fun s => decide (s.totalOvertimeMinutes = 0)

def mealsOfDay (rb : ConsistencyRebuilder) (candidates : List RestaurantCandidate)
    (schedule : Option Schedule) (request : TripRequest) (plan : TripPlan) (position : Nat)
    (day : DayPlan) : Except String (List Meal) :=
  buildMeals rb candidates schedule request day.attractions (day.indexAt position)
    (resolveDayHotels plan position).1 (resolveDayHotels plan position).2

/-- `rebuild`: it raises where the meals of some day do. -/
def rebuildPlan (rb : ConsistencyRebuilder) (request : TripRequest) (plan : TripPlan)
    (routes : Option (List RouteEstimate)) (schedule : Option Schedule)
    (restaurants : Option (List RestaurantCandidate)) : Except String TripPlan := do
  let _ ← plan.days.zipIdx.mapM fun d =>
    mealsOfDay rb (restaurants.getD []) schedule request plan d.2 d.1
  return rebuild (rebuilder rb (restaurants.getD []) schedule) request plan routes

end TravelAgent.MealPlanning

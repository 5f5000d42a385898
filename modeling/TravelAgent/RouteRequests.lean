import TravelAgent.AgentState
import TravelAgent.Attempts

namespace TravelAgent.Agent

open TravelAgent.Itinerary
open TravelAgent.Attempts (mapM_error)

/-- What an action looks for in the state before it works. -/
inductive Missing where
  | optimizationInputs
  | scoringInputs
  | routeBaseline
  | commuteInputs
  | replacementInputs
  | replacementReports
  | replacementBaseline
  | scheduleInputs
  | scheduleOptimizationInputs
  | scheduleBaseline
  | candidateRouteQuality
  | baselineRouteQuality
  | constraintInputs
  | constraintOptimizationInputs
  | constraintOptimizationReports
  | constraintBaseline
  | refillPlan
  | refillBaseline
  | refillReports
  | rebuildInputs
  | validatedPlan
  | supplementQuery
  | restaurantPlan
  | routePlan
deriving DecidableEq, Repr

def Missing.message : Missing → String
  | .optimizationInputs => "Trip plan and route estimates are required for optimization"
  | .scoringInputs => "Trip plan and route estimates are required for scoring"
  | .routeBaseline => "Pending route optimization is missing baseline data"
  | .commuteInputs => "Trip plan and route estimates are required for commute evaluation"
  | .replacementInputs => "Trip plan and route estimates are required for commute replacement"
  | .replacementReports => "Route, commute, schedule and constraint reports are required"
  | .replacementBaseline => "Pending commute replacement is missing verification data"
  | .scheduleInputs => "Trip plan and route estimates are required for schedule scoring"
  | .scheduleOptimizationInputs =>
    "Trip plan and route estimates are required for schedule optimization"
  | .scheduleBaseline => "Pending schedule optimization is missing baseline data"
  | .candidateRouteQuality => "Candidate route quality is missing"
  | .baselineRouteQuality => "Baseline route quality is required for schedule optimization"
  | .constraintInputs => "Trip plan and schedule report are required for constraint evaluation"
  | .constraintOptimizationInputs =>
    "Trip plan and route estimates are required for constraint optimization"
  | .constraintOptimizationReports =>
    "Route and schedule quality are required for constraint optimization"
  | .constraintBaseline => "Pending constraint optimization is missing baseline data"
  | .refillPlan => "Trip plan is required for attraction refill"
  | .refillBaseline => "Pending content refill is missing verification data"
  | .refillReports => "Current route, schedule and constraint reports are required"
  | .rebuildInputs => "Trip plan and route estimates are required for rebuilding"
  | .validatedPlan => "没有可校验的旅行计划"
  | .supplementQuery => "Commute supplement query is required"
  | .restaurantPlan => "Trip plan is required before restaurant search"
  | .routePlan => "Trip plan is required before route estimation"

/-- The exceptions that are not errors of the agent's own. -/
inductive Fault where
  | missing (m : Missing)
  /-- A report or an estimate is not about the plan at hand. -/
  | mismatch (message : String)
  /-- A model refuses the values it is built from. -/
  | invalid (model : String)
  /-- Raised within an evaluator, an optimizer or the validator. -/
  | inner (message : String)
deriving DecidableEq, Repr

/-- The bounds of a field; a NaN is within none. -/
def within (lo hi : ℚ) : Double → Bool
  | .finite q => decide (lo ≤ q ∧ q ≤ hi)
  | _ => false

def validPoint (l : Location) : Bool := within (-180) 180 l.longitude && within (-90) 90 l.latitude

/-- `GeoPoint` -/
def geoPoint (l : Location) : Except Fault Location :=
  if validPoint l then .ok l else .error (.invalid "GeoPoint")

/-- An attraction or a hotel as the end of a route. -/
structure Place where
  name : String
  location : Option Location
  poiId : String
deriving DecidableEq

def ofAttraction (a : Attraction) : Place :=
  { name := a.name, location := some a.location, poiId := a.poiId.getD "" }

def ofHotel (h : Hotel) : Place := { name := h.name, location := h.location, poiId := "" }

structure RoutePoint where
  name : String
  location : Location
  poiId : String
  cityCode : String
deriving DecidableEq

structure RouteLegRequest where
  dayIndex : Int
  legIndex : Nat
  legType : RouteLegType
  date : String
  origin : RoutePoint
  destination : RoutePoint
  mode : RouteMode
deriving DecidableEq

/-- What the candidates at hand say about a place: its id and its city code. -/
structure PointSources where
  attraction : Place → String × String
  hotel : Place → String × String

/-- `_route_point` -/
def routePoint (source : Place → String × String) (place : Place) : Except Fault RoutePoint :=
  match place.location with
  | none => .error (.mismatch "Route endpoint has no location")
  | some l =>
    match geoPoint l with
    | .error e => .error e
    | .ok location =>
      if place.name.isEmpty then .error (.invalid "RoutePoint")
      else .ok { name := place.name, location, poiId := (source place).1, cityCode := (source place).2 }

structure LegEnds where
  legType : RouteLegType
  legIndex : Nat
  origin : Place
  originIsHotel : Bool := false
  destination : Place
  destinationIsHotel : Bool := false
deriving DecidableEq

def betweenAttractions (attractions : List Attraction) : List LegEnds :=
  (attractions.zip attractions.tail).mapIdx fun i p =>
    { legType := .betweenAttractions, legIndex := i, origin := ofAttraction p.1,
      destination := ofAttraction p.2 }

def hotelDeparture : Option Hotel → Option Attraction → List LegEnds
  | some h, some a =>
    [{ legType := .hotelDeparture, legIndex := 0, origin := ofHotel h, originIsHotel := true,
       destination := ofAttraction a }]
  | _, _ => []

def hotelReturn : Option Attraction → Option Hotel → List LegEnds
  | some a, some h =>
    [{ legType := .hotelReturn, legIndex := 0, origin := ofAttraction a, destination := ofHotel h,
       destinationIsHotel := true }]
  | _, _ => []

/-- The legs of a day: from the hotel, between the attractions, back to the hotel. -/
def dayLegs (plan : TripPlan) (position : Nat) (day : DayPlan) : List LegEnds :=
  let (startHotel, returnHotel) := resolveDayHotels plan position
  hotelDeparture startHotel day.attractions.head? ++ betweenAttractions day.attractions ++
    hotelReturn day.attractions.getLast? returnHotel

def legRequest (sources : PointSources) (request : TripRequest) (day : DayPlan) (position : Nat)
    (ends : LegEnds) : Except Fault RouteLegRequest :=
  match routePoint (if ends.originIsHotel then sources.hotel else sources.attraction) ends.origin with
  | .error e => .error e
  | .ok origin =>
    match routePoint (if ends.destinationIsHotel then sources.hotel else sources.attraction)
      ends.destination with
    | .error e => .error e
    | .ok destination =>
      .ok
        { dayIndex := day.indexAt position
          legIndex := ends.legIndex
          legType := ends.legType
          date := day.date
          origin
          destination
          mode := dayRouteMode request day }

/-- `build_route_legs` -/
def buildRouteLegs (sources : PointSources) (request : TripRequest) (plan : TripPlan) :
    Except Fault (List RouteLegRequest) :=
  (plan.days.mapIdx fun position day =>
    (dayLegs plan position day).map fun ends => (day, position, ends)).flatten.mapM
      fun leg => legRequest sources request leg.1 leg.2.1 leg.2.2

inductive MealType where
  | breakfast
  | lunch
  | dinner
deriving DecidableEq, Repr

def MealType.text : MealType → String
  | .breakfast => "breakfast"
  | .lunch => "lunch"
  | .dinner => "dinner"

structure RestaurantSearchAnchor where
  anchorId : String
  dayIndex : Int
  mealType : MealType
  name : String
  location : Location
deriving DecidableEq

def mealPlaces (plan : TripPlan) (position : Nat) (day : DayPlan) : List (MealType × Option Place) :=
  let (startHotel, returnHotel) := resolveDayHotels plan position
  let start := startHotel.map ofHotel
  let back := returnHotel.map ofHotel
  let first := day.attractions.head?.map ofAttraction
  let middle := day.attractions[day.attractions.length / 2]?.map ofAttraction
  let last := day.attractions.getLast?.map ofAttraction
  [(.breakfast, (start.or first).or middle), (.lunch, (middle.or start).or back),
    (.dinner, (back.or last).or start)]

/-- The anchor of one meal, if its place has a name and a location. -/
def searchAnchor (day : DayPlan) (mealType : MealType) (place : Option Place) :
    Except Fault (Option RestaurantSearchAnchor) :=
  match place.bind (·.location) with
  | none => .ok none
  | some l =>
    match geoPoint l with
    | .error e => .error e
    | .ok location =>
      let name := Texts.trim TaskStore.pySpace ((place.map (·.name)).getD "").toList
      if name.isEmpty then .ok none
      else if day.dayIndex < 0 then .error (.invalid "RestaurantSearchAnchor")
      else
        .ok (some
          { anchorId := "day-" ++ toString day.dayIndex ++ "-" ++ mealType.text
            dayIndex := day.dayIndex
            mealType
            name := String.ofList name
            location })

/-- Lunches first, then the first breakfast and the dinners. -/
def orderAnchors (anchors : List RestaurantSearchAnchor) : List RestaurantSearchAnchor :=
  let of (m : MealType) := anchors.filter (·.mealType == m)
  of .lunch ++ (of .breakfast).take 1 ++ of .dinner ++ (of .breakfast).drop 1

/-- `build_restaurant_search_anchors` -/
def buildRestaurantSearchAnchors (plan : TripPlan) (maxAnchors : Nat) :
    Except Fault (List RestaurantSearchAnchor) :=
  if maxAnchors = 0 then .ok []
  else
    match (plan.days.mapIdx fun position day =>
      (mealPlaces plan position day).map fun m => (day, m.1, m.2)).flatten.mapM
        fun m => searchAnchor m.1 m.2.1 m.2.2 with
    | .error e => .error e
    | .ok anchors => .ok ((orderAnchors (anchors.filterMap id)).take maxAnchors)

theorem routePoint_error {source : Place → String × String} {place : Place} {f : Fault}
    (h : routePoint source place = .error f) (m : Missing) : f ≠ .missing m := by
  unfold routePoint at h
  split at h
  · cases h
    nofun
  · unfold geoPoint at h
    split at h
    · rename_i hg
      split at hg
      · cases hg
      · cases hg
        cases h
        nofun
    · split at h
      · cases h
        nofun
      · cases h

theorem buildRouteLegs_error {sources : PointSources} {request : TripRequest} {plan : TripPlan}
    {f : Fault} (h : buildRouteLegs sources request plan = .error f) (m : Missing) :
    f ≠ .missing m := by
  obtain ⟨leg, -, hleg⟩ := mapM_error h
  unfold legRequest at hleg
  split at hleg
  · rename_i hp
    cases hleg
    exact routePoint_error hp m
  · split at hleg
    · rename_i hp
      cases hleg
      exact routePoint_error hp m
    · cases hleg

end TravelAgent.Agent

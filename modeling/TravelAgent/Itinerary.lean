import Mathlib
import TravelAgent.TaskStore
import TravelAgent.Texts

namespace TravelAgent.Itinerary

open TravelAgent.Texts
open TravelAgent.TaskStore (pySpace)

/-- A double: the finite ones are rationals. -/
inductive Double where
  | finite (q : ℚ)
  | infinite (negative : Bool)
  | nan
deriving DecidableEq

/-- `round(x, 6)` -/
def Double.round6 : Double → Double
  | .finite q =>
    let n := (q * 1000000).floor
    let rest := q * 1000000 - n
    if 1 / 2 < rest ∨ (rest = 1 / 2 ∧ n % 2 ≠ 0) then .finite ((n + 1) / 1000000)
    else .finite (n / 1000000)
  | x => x

structure Location where
  longitude : Double
  latitude : Double
deriving DecidableEq

structure Attraction where
  name : String
  address : String
  location : Location
  visitDuration : Int
  description : String
  category : Option String := some "景点"
  rating : Option Double := none
  photos : Option (List String) := some []
  poiId : Option String := some ""
  imageUrl : Option String := none
  ticketPrice : Int := 0
deriving DecidableEq

structure Meal where
  type : String
  name : String
  address : Option String := none
  location : Option Location := none
  description : Option String := none
  estimatedCost : Int := 0
  poiId : String := ""
  rating : Option Double := none
  telephone : String := ""
  category : String := ""
  openingHours : String := ""
  source : String := ""
  plannedStartTime : String := ""
  plannedEndTime : String := ""
  openingStatus : String := ""
deriving DecidableEq

structure Hotel where
  name : String
  address : String := ""
  location : Option Location := none
  priceRange : String := ""
  rating : String := ""
  distance : String := ""
  type : String := ""
  estimatedCost : Int := 0
deriving DecidableEq

structure DayPlan where
  date : String
  dayIndex : Int
  description : String
  transportation : String
  accommodation : String
  hotel : Option Hotel := none
  attractions : List Attraction := []
  meals : List Meal := []
deriving DecidableEq

structure Budget where
  totalAttractions : Int := 0
  totalHotels : Int := 0
  totalMeals : Int := 0
  totalTransportation : Int := 0
  total : Int := 0
deriving DecidableEq

structure TripPlan where
  city : String
  startDate : String
  endDate : String
  days : List DayPlan
  overallSuggestions : String
  budget : Option Budget := none
deriving DecidableEq

structure TripRequest where
  city : String
  startDate : String
  endDate : String
  travelDays : Nat
  transportation : String
  accommodation : String
  preferences : List String := []
  freeTextInput : Option String := some ""
deriving DecidableEq

inductive RouteMode where
  | transit
  | driving
  | walking
deriving DecidableEq, Repr

inductive RouteLegType where
  | hotelDeparture
  | betweenAttractions
  | hotelReturn
deriving DecidableEq, Repr

structure RouteEstimate where
  dayIndex : Nat
  legIndex : Nat
  legType : RouteLegType := .betweenAttractions
  originName : String
  destinationName : String
  mode : RouteMode
  available : Bool := true
  distanceMeters : Option Nat := none
  durationSeconds : Option Nat := none
deriving DecidableEq

/-- `_MODE_MARKERS` -/
def RouteMode.markers : RouteMode → List String
  | .transit => ["公共交通", "公交", "地铁", "轨道", "轻轨", "public", "transit", "metro", "subway", "bus"]
  | .driving =>
    ["自驾", "驾车", "开车", "汽车", "打车", "出租车", "driving", "drive", "car", "taxi"]
  | .walking => ["步行", "徒步", "walking", "walk", "hiking"]

def RouteMode.marked (k : RouteMode) (text : List Char) : Bool :=
  k.markers.any fun m => contains text m.toList

/-- `_match_transportation_mode` -/
def matchTransportationMode (text : List Char) : Option RouteMode :=
  [RouteMode.transit, .driving, .walking].find? (·.marked text)

def declarations : List String := ["出行方式", "交通方式", "travel mode", "transportation"]

/-- The declared value up to the end of its clause. -/
def declaredPart (rest : List Char) : List Char :=
  (((rest.dropWhile (" \t:：".toList.contains ·)).takeWhile (· ≠ '；')).takeWhile (· ≠ ';')).takeWhile
    (· ≠ '。')

/-- The mode of the first declaration that names one. -/
def declaredMode (text : List Char) : Option RouteMode :=
  declarations.findSome? fun prefixWord =>
    (behind prefixWord.toList text).bind fun rest => matchTransportationMode (declaredPart rest)

def normalizeText (value : String) : List Char := lower (trim pySpace value.toList)

def normalizeTransportationMode (value : String) : RouteMode :=
  let text := normalizeText value
  (declaredMode text).getD ((matchTransportationMode text).getD .transit)

/-- `day.transportation or request.transportation` -/
def dayRouteMode (request : TripRequest) (day : DayPlan) : RouteMode :=
  normalizeTransportationMode
    (if day.transportation.isEmpty then request.transportation else day.transportation)

structure HotelPoint where
  name : String
  longitude : Option Double
  latitude : Option Double
deriving DecidableEq

structure AttractionPoint where
  name : String
  poiId : String
  longitude : Double
  latitude : Double
deriving DecidableEq

structure DayRouteInputs where
  date : String
  dayIndex : Int
  transportationMode : RouteMode
  hotel : Option HotelPoint
  attractions : List AttractionPoint
deriving DecidableEq

structure RouteInputs where
  requestTransportationMode : RouteMode
  days : List DayRouteInputs
deriving DecidableEq

/-- `_hotel_fingerprint` -/
def hotelPoint (h : Hotel) : HotelPoint :=
  { name := h.name
    longitude := h.location.map (·.longitude.round6)
    latitude := h.location.map (·.latitude.round6) }

def attractionPoint (a : Attraction) : AttractionPoint :=
  { name := a.name
    poiId := a.poiId.getD ""
    longitude := a.location.longitude.round6
    latitude := a.location.latitude.round6 }

def dayRouteInputs (request : TripRequest) (day : DayPlan) : DayRouteInputs :=
  { date := day.date
    dayIndex := day.dayIndex
    transportationMode := dayRouteMode request day
    hotel := day.hotel.map hotelPoint
    attractions := day.attractions.map attractionPoint }

def routeInputs (request : TripRequest) (plan : TripPlan) : RouteInputs :=
  { requestTransportationMode := normalizeTransportationMode request.transportation
    days := plan.days.map (dayRouteInputs request) }

/-- The digest of the canonical JSON text of the route inputs. -/
def planRouteFingerprint {F : Type} (digest : RouteInputs → F) (request : TripRequest)
    (plan : TripPlan) : F :=
  digest (routeInputs request plan)

def Hotel.located (h : Hotel) : Bool := h.location.isSome

/-- The hotel a day starts from and the one it returns to. -/
def resolveDayHotels (plan : TripPlan) (position : Nat) : Option Hotel × Option Hotel :=
  let current := (plan.days[position]?.bind (·.hotel)).filter Hotel.located
  let previous := (plan.days.take position).reverse.findSome? fun day => day.hotel.filter Hotel.located
  (current.or previous, current)

/-- The index that the routes of a day carry. -/
def DayPlan.indexAt (day : DayPlan) (position : Nat) : Int :=
  if 0 ≤ day.dayIndex then day.dayIndex else position

end TravelAgent.Itinerary

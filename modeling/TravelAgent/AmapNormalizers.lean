import Mathlib
import TravelAgent.AmapValues
import TravelAgent.RouteRequests

namespace TravelAgent.AmapNormalizers

open TravelAgent.AmapValues
open TravelAgent.CandidatePool (GeoPoint)
open TravelAgent.Itinerary (RouteMode RouteLegType)
open TravelAgent.PyFloats (Str code)
open TravelAgent.Agent (RouteLegRequest)

structure PlaceCandidate where
  poiId : Str
  name : Str
  address : Str
  location : GeoPoint
  district : Str
  cityCode : Str
  adcode : Str
  rating : Option Rating
  telephone : Str
  named : name ≠ []
  addressed : address ≠ []

structure AttractionCandidate extends PlaceCandidate where
  category : Str
  openingHours : Str

structure HotelCandidate extends PlaceCandidate where
  type : Str
  estimatedCost : Option Cost

structure PoiCandidate extends PlaceCandidate where
  category : Str
  typeCode : Str
  openingHours : Str
  averageCost : Option Cost
  distanceMeters : Option ℕ

variable (floatText : FloatText) (room : ℕ)

/-- `_opening_hours` -/
def openingHours (raw business : Fields) : Except Escape Str :=
  text floatText room
    (firstOf business ["opentime_today", "opentime_week", "opentime"]
      (firstOf raw ["opentime"] (.str [])))

/-- The name, the address and the point of an entry; they are read before any is looked at. -/
def readHead (raw : Fields) : Except Escape (Str × Str × Option GeoPoint) := do
  let name ← text floatText room (get raw "name")
  let address ← text floatText room (get raw "address")
  let location ← location (get raw "location")
  pure (name, address, location)

/-- The models take a name and an address only if they can be encoded. -/
def checkEncodable (name address : Str) : Except Escape Unit :=
  if encodable name && encodable address then .ok () else .error .validationError

def shownAddress (address adname : Str) : Str :=
  if address ≠ [] then address else if adname ≠ [] then adname else code "地址待确认"

theorem shownAddress_ne_nil (address adname : Str) : shownAddress address adname ≠ [] := by
  rw [shownAddress]
  by_cases ha : address = []
  · by_cases hb : adname = []
    · simp [ha, hb, code]
    · simp [ha, hb]
  · simp [ha]

/-- The district is read in place of an address only if there is none. -/
def standIn (raw : Fields) (address : Str) : Except Escape Str :=
  if address ≠ [] then .ok [] else text floatText room (get raw "adname")

/-- `_poi_candidate` for an entry with a name and a point. -/
def namedPoi (raw : Fields) (name address : Str) (hname : name ≠ []) (location : GeoPoint) :
    Except Escape PoiCandidate := do
  let business := businessExtension raw
  let poiId ← text floatText room (get raw "id")
  let adname ← standIn floatText room raw address
  let district ← text floatText room (get raw "adname")
  let cityCode ← text floatText room (get raw "citycode")
  let adcode ← text floatText room (get raw "adcode")
  let rated ← rating (firstOf business ["rating"] (get raw "rating"))
  let telephone ← text floatText room (get raw "tel")
  let category ← text floatText room (get raw "type")
  let typeCode ← text floatText room (get raw "typecode")
  let hours ← openingHours floatText room raw business
  let cost ← nonnegativeNumber
    (firstOf business ["cost"] (firstOf raw ["cost"] (get raw "price")))
  let distance ← nonnegativeInt (get raw "distance")
  checkEncodable name (shownAddress address adname)
  pure
    { poiId := poiId
      name := name
      address := shownAddress address adname
      location := location
      district := district
      cityCode := cityCode
      adcode := adcode
      rating := rated
      telephone := telephone
      named := hname
      addressed := shownAddress_ne_nil address adname
      category := category
      typeCode := typeCode
      openingHours := hours
      averageCost := cost
      distanceMeters := distance }

/-- `_poi_candidate` -/
def poiCandidate (raw : Fields) : Except Escape (Option PoiCandidate) := do
  let (name, address, location) ← readHead floatText room raw
  match location with
  | none => pure none
  | some location =>
    if hname : name ≠ [] then
      (namedPoi floatText room raw name address hname location).map some
    else pure none

def namedAttraction (raw : Fields) (name address : Str) (hname : name ≠ []) (haddress : address ≠ [])
    (location : GeoPoint) : Except Escape AttractionCandidate := do
  let bizExt := businessExtension raw
  let poiId ← text floatText room (get raw "id")
  let category ← text floatText room (get raw "type")
  let hours ← openingHours floatText room raw bizExt
  let district ← text floatText room (get raw "adname")
  let cityCode ← text floatText room (get raw "citycode")
  let adcode ← text floatText room (get raw "adcode")
  let rated ← rating (firstOf bizExt ["rating"] (get raw "rating"))
  let telephone ← text floatText room (get raw "tel")
  checkEncodable name address
  pure
    { poiId := poiId
      name := name
      address := address
      location := location
      district := district
      cityCode := cityCode
      adcode := adcode
      rating := rated
      telephone := telephone
      named := hname
      addressed := haddress
      category := category
      openingHours := hours }

/-- The loop body of `normalize_attractions`. -/
def attractionCandidate (raw : Fields) : Except Escape (Option AttractionCandidate) := do
  let (name, address, location) ← readHead floatText room raw
  match location with
  | none => pure none
  | some location =>
    if h : name ≠ [] ∧ address ≠ [] then
      (namedAttraction floatText room raw name address h.1 h.2 location).map some
    else pure none

def namedHotel (raw : Fields) (name address : Str) (hname : name ≠ []) (haddress : address ≠ [])
    (location : GeoPoint) : Except Escape HotelCandidate := do
  let bizExt := businessExtension raw
  let poiId ← text floatText room (get raw "id")
  let type ← text floatText room (get raw "type")
  let district ← text floatText room (get raw "adname")
  let cityCode ← text floatText room (get raw "citycode")
  let adcode ← text floatText room (get raw "adcode")
  let rated ← rating (firstOf bizExt ["rating"] (get raw "rating"))
  let telephone ← text floatText room (get raw "tel")
  let cost ← nonnegativeNumber (firstOf bizExt ["cost"] (firstOf raw ["cost"] (get raw "price")))
  checkEncodable name address
  pure
    { poiId := poiId
      name := name
      address := address
      location := location
      district := district
      cityCode := cityCode
      adcode := adcode
      rating := rated
      telephone := telephone
      named := hname
      addressed := haddress
      type := type
      estimatedCost := cost }

/-- The loop body of `normalize_hotels`. -/
def hotelCandidate (raw : Fields) : Except Escape (Option HotelCandidate) := do
  let (name, address, location) ← readHead floatText room raw
  match location with
  | none => pure none
  | some location =>
    if h : name ≠ [] ∧ address ≠ [] then
      (namedHotel floatText room raw name address h.1 h.2 location).map some
    else pure none

/-- The entries of a list under a key. -/
def entries (payload : Fields) (key : String) : List Value :=
  match get payload key with
  | .list items => items
  | _ => []

def asDict : Value → Option Fields
  | .dict d => some d
  | _ => none

/-- The candidates of the entries that are dictionaries and give one. -/
def collect {C : Type} (candidate : Fields → Except Escape (Option C)) (pois : List Value) :
    Except Escape (List C) :=
  ((pois.filterMap asDict).mapM candidate).map List.reduceOption

section Selection

variable {C : Type} (place : C → PlaceCandidate)

/-- A candidate's POI id, or else its name and address. -/
def identityKey (c : C) : Str :=
  if (place c).poiId ≠ [] then lower (place c).poiId
  else lower ((place c).name ++ code "|" ++ (place c).address)

/-- A missing rating counts as -1. -/
def score (c : C) : ℚ :=
  match (place c).rating with
  | some r => r.1
  | none => -1

/-- One turn of the loop of `_dedupe_sort_crop`: the better of two equal keys, at the index of the
first one. -/
def admitBetter (byKey : List (ℕ × C)) (item : ℕ × C) : List (ℕ × C) :=
  match byKey.find? fun e => identityKey place e.2 = identityKey place item.2 with
  | none => byKey ++ [item]
  | some existing =>
    if score place existing.2 < score place item.2 then
      byKey.map fun e =>
        if identityKey place e.2 = identityKey place item.2 then (existing.1, item.2) else e
    else byKey

/-- By rating, the best first, then by index. -/
def ratedBefore (a b : ℕ × C) : Bool :=
  decide (score place b.2 < score place a.2) ||
    (decide (score place a.2 = score place b.2) && decide (a.1 ≤ b.1))

/-- `_dedupe_sort_crop` -/
def dedupeSortCrop (candidates : List C) (limit : ℤ) : List C :=
  let byKey := ((List.range candidates.length).zip candidates).foldl (admitBetter place) []
  ((byKey.mergeSort (ratedBefore place)).map Prod.snd).take (max 0 limit).toNat

end Selection

/-- Metres between a place and its anchor that the radius of a search may have. -/
abbrev Radius := {n : ℕ // 100 ≤ n ∧ n ≤ 50000}

structure PoiSearchResult where
  queryCity : Str
  keywords : Str
  types : Str
  center : Option GeoPoint
  radiusMeters : Option Radius
  totalReceived : ℕ
  candidates : List PoiCandidate

structure AttractionSearchResult where
  queryCity : Str
  keywords : Str
  totalReceived : ℕ
  candidates : List AttractionCandidate

structure HotelSearchResult where
  queryCity : Str
  keywords : Str
  totalReceived : ℕ
  candidates : List HotelCandidate

structure RestaurantSearchSnapshot where
  queryCity : Str
  keywords : Str
  center : GeoPoint
  radiusMeters : Radius
  pageSize : ℕ
  totalReceived : ℕ
  candidates : List PoiCandidate

def normalizePois (payload : Fields) (city keywords types : Str) (limit : ℤ)
    (center : Option GeoPoint) (radiusMeters : Option Radius) : Except Escape PoiSearchResult := do
  let pois := entries payload "pois"
  let candidates ← collect (poiCandidate floatText room) pois
  pure ⟨city, keywords, types, center, radiusMeters, pois.length,
    dedupeSortCrop PoiCandidate.toPlaceCandidate candidates limit⟩

def normalizeAttractions (payload : Fields) (city keywords : Str) (limit : ℤ) :
    Except Escape AttractionSearchResult := do
  let pois := entries payload "pois"
  let candidates ← collect (attractionCandidate floatText room) pois
  pure ⟨city, keywords, pois.length,
    dedupeSortCrop AttractionCandidate.toPlaceCandidate candidates limit⟩

def normalizeHotels (payload : Fields) (city keywords : Str) (limit : ℤ) :
    Except Escape HotelSearchResult := do
  let pois := entries payload "pois"
  let candidates ← collect (hotelCandidate floatText room) pois
  pure ⟨city, keywords, pois.length,
    dedupeSortCrop HotelCandidate.toPlaceCandidate candidates limit⟩

/-- A missing distance counts as a thousand kilometres a thousandfold. -/
def distanceOf (c : PoiCandidate) : ℕ := c.distanceMeters.getD (10 ^ 9)

/-- One turn of the loop of `normalize_restaurant_snapshot`: the nearer of two equal keys. -/
def admitNearer (unique : List PoiCandidate) (c : PoiCandidate) : List PoiCandidate :=
  match unique.find? fun e => identityKey PoiCandidate.toPlaceCandidate e =
      identityKey PoiCandidate.toPlaceCandidate c with
  | none => unique ++ [c]
  | some existing =>
    if distanceOf c < distanceOf existing then
      unique.map fun e =>
        if identityKey PoiCandidate.toPlaceCandidate e =
          identityKey PoiCandidate.toPlaceCandidate c then c else e
    else unique

/-- By distance, then by rating, the best first, then by name. -/
def nearBefore (a b : PoiCandidate) : Bool :=
  let ra := score PoiCandidate.toPlaceCandidate a
  let rb := score PoiCandidate.toPlaceCandidate b
  decide (distanceOf a < distanceOf b) ||
    (decide (distanceOf a = distanceOf b) &&
      (decide (rb < ra) || (decide (ra = rb) && decide (¬b.name < a.name))))

def normalizeRestaurantSnapshot (payload : Fields) (city keywords : Str) (center : GeoPoint)
    (radiusMeters : Radius) (pageSize : ℤ) : Except Escape RestaurantSearchSnapshot := do
  let pois := entries payload "pois"
  let candidates ← collect (poiCandidate floatText room) pois
  let ordered := (candidates.foldl admitNearer []).mergeSort nearBefore
  pure ⟨city, keywords, center, radiusMeters, (max 1 (min 25 pageSize)).toNat, pois.length,
    ordered.take (max 0 pageSize).toNat⟩

structure RouteEstimate where
  dayIndex : ℤ
  legIndex : ℕ
  legType : RouteLegType
  date : String
  originName : String
  destinationName : String
  mode : RouteMode
  available : Bool
  distanceMeters : Option ℕ
  durationSeconds : Option ℕ
  errorCode : Option String
  errorMessage : Option String
deriving DecidableEq

def unavailable (leg : RouteLegRequest) (mode : RouteMode) (errorCode errorMessage : String) :
    RouteEstimate :=
  ⟨leg.dayIndex, leg.legIndex, leg.legType, leg.date, leg.origin.name, leg.destination.name, mode,
    false, none, none, some errorCode, some errorMessage⟩

/-- The first route of a payload that is a dictionary. -/
def firstRoute (payload : Fields) (mode : RouteMode) : Option Fields :=
  let routeObject := (asDict (get payload "route")).getD []
  let collectionName := if mode = .transit then "transits" else "paths"
  (entries routeObject collectionName).findSome? asDict

/-- The duration stands in the cost of a route, or beside it. -/
def durationValue (candidate : Fields) : Value :=
  firstOf ((asDict (get candidate "cost")).getD []) ["duration"] (get candidate "duration")

def normalizeRoute (payload : Fields) (leg : RouteLegRequest) (mode : RouteMode) :
    Except Escape RouteEstimate :=
  match firstRoute payload mode with
  | none => .ok (unavailable leg mode "NO_ROUTE" "Amap returned no available route")
  | some candidate => do
    let distance ← nonnegativeInt (get candidate "distance")
    let duration ← nonnegativeInt (durationValue candidate)
    match distance, duration with
    | some distance, some duration =>
      pure ⟨leg.dayIndex, leg.legIndex, leg.legType, leg.date, leg.origin.name,
        leg.destination.name, mode, true, some distance, some duration, none, none⟩
    | _, _ => pure (unavailable leg mode "INVALID_ROUTE_METRICS"
        "Amap route is missing valid distance or duration")

end TravelAgent.AmapNormalizers

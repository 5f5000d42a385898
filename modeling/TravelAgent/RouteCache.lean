import TravelAgent.LayeredCache
import TravelAgent.RouteResults

namespace TravelAgent.RouteCache

open TravelAgent.Itinerary TravelAgent.Agent TravelAgent.LayeredCache

inductive AmapErrorKind where
  | invalidInput
  | invalidOutput
  | authorization
  | rateLimit
  | timeout
  | upstream
deriving DecidableEq, Repr

def AmapErrorKind.code : AmapErrorKind → String
  | .invalidInput => "AMAP_INVALID_INPUT"
  | .invalidOutput => "AMAP_INVALID_OUTPUT"
  | .authorization => "AMAP_AUTHORIZATION"
  | .rateLimit => "AMAP_RATE_LIMIT"
  | .timeout => "AMAP_TIMEOUT"
  | .upstream => "AMAP_UPSTREAM"

structure AmapProviderError where
  kind : AmapErrorKind
  message : String
deriving DecidableEq

def strip (s : String) : String := String.ofList (Texts.trim TaskStore.pySpace s.toList)

/-- One end of a leg in the payload of a cache key. -/
structure EndPayload where
  poiId : String
  longitude : String
  latitude : String
  cityCode : String
deriving DecidableEq

structure KeyPayload where
  mode : RouteMode
  origin : EndPayload
  destination : EndPayload
deriving DecidableEq

/-- The settings of the client, with the digest of a payload and the printing of a coordinate
as parameters. -/
structure AmapSettings where
  apiKey : String
  maxRouteLegs : Int
  routeCacheTtlSeconds : Int
  routeUnavailableCacheTtlSeconds : Int
  /-- `f"{x:.6f}"` -/
  fixed : Double → String
  /-- The SHA-256 of the canonical JSON. -/
  digest : KeyPayload → String

/-- How `_cache_get` finds the route cache: absent, in two layers, or a store with `get` alone. -/
inductive CacheKind where
  | disabled
  | layered
  | legacy
deriving DecidableEq, Repr

structure HttpRequest where
  url : String
  params : List (String × String)
deriving DecidableEq

/-- What `normalize_route` reads of a candidate: whole numbers that are not negative. -/
structure RouteCandidate where
  distance : Option Nat
  duration : Option Nat
deriving DecidableEq

/-- The first candidate under either name. -/
structure RoutePayload where
  transits : Option RouteCandidate
  paths : Option RouteCandidate
deriving DecidableEq

/-- A provider that never fails: its answer is a function of the request. The code of a city is
the one that `normalize_city_code` finds in the answer, empty if there is none. -/
structure Provider where
  route : HttpRequest → RoutePayload
  cityCode : String → String

/-- `_unavailable_route` -/
def unavailableRoute (leg : RouteLegRequest) (e : AmapProviderError) : LegEstimate :=
  { label := legLabel leg
    date := leg.date
    metrics :=
      { available := false, errorCode := some e.kind.code, errorMessage := some e.message } }

/-- `_bind_cached_route` -/
def bindCachedRoute (estimate : LegEstimate) (leg : RouteLegRequest) : LegEstimate :=
  { estimate with label := legLabel leg, date := leg.date, cacheHit := true }

def candidateMetrics : Option RouteCandidate → RouteMetrics
  | none =>
    { available := false
      errorCode := some "NO_ROUTE"
      errorMessage := some "Amap returned no available route" }
  | some c =>
    match c.distance, c.duration with
    | some distance, some duration =>
      { distanceMeters := some distance, durationSeconds := some duration }
    | _, _ =>
      { available := false
        errorCode := some "INVALID_ROUTE_METRICS"
        errorMessage := some "Amap route is missing valid distance or duration" }

/-- `normalize_route` -/
def normalizeRoute (payload : RoutePayload) (leg : RouteLegRequest) (mode : RouteMode) :
    LegEstimate :=
  { label := { legLabel leg with mode := mode }
    date := leg.date
    metrics := candidateMetrics (if mode = .transit then payload.transits else payload.paths) }

variable (cfg : AmapSettings)

def endPayload (p : RoutePoint) : EndPayload :=
  { poiId := strip p.poiId
    longitude := cfg.fixed p.location.longitude
    latitude := cfg.fixed p.location.latitude
    cityCode := strip p.cityCode }

def keyPayload (leg : RouteLegRequest) : KeyPayload :=
  { mode := leg.mode, origin := endPayload cfg leg.origin,
    destination := endPayload cfg leg.destination }

/-- `route_leg_cache_key` -/
def routeLegCacheKey (leg : RouteLegRequest) : String := cfg.digest (keyPayload cfg leg)

/-- `_coordinate` -/
def coordinate (l : Location) : String := cfg.fixed l.longitude ++ "," ++ cfg.fixed l.latitude

def routeUrl : RouteMode → String
  | .driving => "https://restapi.amap.com/v5/direction/driving"
  | .walking => "https://restapi.amap.com/v5/direction/walking"
  | .transit => "https://restapi.amap.com/v5/direction/transit/integrated"

/-- A parameter that is only sent if it has a value. -/
def param (name value : String) : List (String × String) :=
  if value.isEmpty then [] else [(name, value)]

/-- The request of `AmapClient.route`. -/
def routeRequest (leg : RouteLegRequest) : Except AmapProviderError HttpRequest :=
  let origin := leg.origin
  let destination := leg.destination
  let params := [("key", cfg.apiKey), ("origin", coordinate cfg origin.location),
    ("destination", coordinate cfg destination.location), ("show_fields", "cost"),
    ("output", "json")]
  match leg.mode with
  | .driving =>
    .ok ⟨routeUrl .driving, params ++ ("strategy", "32") ::
      (param "origin_id" origin.poiId ++ param "destination_id" destination.poiId)⟩
  | .walking =>
    .ok ⟨routeUrl .walking,
      params ++ (param "origin_id" origin.poiId ++ param "destination_id" destination.poiId)⟩
  | .transit =>
    if origin.cityCode.isEmpty || destination.cityCode.isEmpty then
      .error ⟨.invalidInput, "Transit route requires origin and destination city codes"⟩
    else
      .ok ⟨routeUrl .transit, params ++ [("city1", origin.cityCode),
        ("city2", destination.cityCode), ("strategy", "0"), ("AlternativeRoute", "1")] ++
        if origin.poiId.isEmpty || destination.poiId.isEmpty then []
        else [("originpoi", origin.poiId), ("destinationpoi", destination.poiId)]⟩

/-- What the provider says of a leg, without any cache. -/
def askProvider (provider : Provider) (leg original : RouteLegRequest) : LegEstimate :=
  match routeRequest cfg leg with
  | .error e => unavailableRoute original e
  | .ok request => normalizeRoute (provider.route request) leg leg.mode

/-- The city codes that have been looked up, by the name of the city. -/
abbrev CityCodes := String → Option String

/-- `resolve_city_code` -/
def resolveCityCode (cityCode : String → String) (known : CityCodes) (city : String) :
    Except AmapProviderError String × CityCodes :=
  let cacheKey := String.ofList (Texts.lower (strip city).toList)
  match (known cacheKey).filter fun code => !code.isEmpty with
  | some code => (.ok code, known)
  | none =>
    let code := cityCode city
    if code.isEmpty then
      (.error ⟨.invalidOutput, "Amap returned no citycode for " ++ city⟩, known)
    else (.ok code, Function.update known cacheKey (some code))

def RoutePoint.withCode (p : RoutePoint) (code : String) : RoutePoint :=
  if p.cityCode.isEmpty then { p with cityCode := code } else p

def withCodes (leg : RouteLegRequest) (code : String) : RouteLegRequest :=
  { leg with
    origin := RoutePoint.withCode leg.origin code
    destination := RoutePoint.withCode leg.destination code }

/-- The city code of one end, for both. -/
def fallbackCode (leg : RouteLegRequest) : String :=
  if leg.origin.cityCode.isEmpty then leg.destination.cityCode else leg.origin.cityCode

/-- `_prepare_leg` -/
def prepareLeg (cityCode : String → String) (known : CityCodes) (city : String)
    (leg : RouteLegRequest) : Except AmapProviderError RouteLegRequest × CityCodes :=
  if leg.mode ≠ .transit then (.ok leg, known)
  else if (fallbackCode leg).isEmpty then
    match resolveCityCode cityCode known city with
    | (.error e, known) => (.error e, known)
    | (.ok code, known) => (.ok (withCodes leg code), known)
  else (.ok (withCodes leg (fallbackCode leg)), known)

/-- What befalls the cache while one leg is estimated. -/
structure LegFaults where
  getRaises : Bool := false
  lookup : LookupFaults := {}
  write : WriteFaults := {}
deriving DecidableEq, Repr

inductive RouteSource where
  | disabled
  | layer (source : LayeredCacheSource)
  | legacy
deriving DecidableEq, Repr

/-- What `_cache_get` returns. -/
structure Found where
  value : Option LegEstimate := none
  source : RouteSource
  l1Status : ReadStatus := .skipped
  l2Status : ReadStatus := .skipped

abbrev RouteLayers := Layers String LegEstimate

/-- `_cache_get` -/
def cacheGet (kind : CacheKind) (w : RouteLayers) (key : String) (leg : RouteLegRequest)
    (f : LegFaults) : Found × RouteLayers :=
  match kind with
  | .disabled => ({ source := .disabled }, w)
  | .layered =>
    if f.getRaises then
      ({ source := .layer .miss, l1Status := .degraded, l2Status := .error }, w)
    else
      let (r, w) := lookup w key f.lookup
      ({ value := r.value.map (bindCachedRoute · leg), source := .layer r.source,
         l1Status := r.l1Status, l2Status := r.l2Status }, w)
  | .legacy =>
    if f.getRaises then
      ({ source := .layer .miss, l1Status := .degraded, l2Status := .error }, w)
    else
      match (readL2 f.lookup.l2Read (w.l2 key)).1 with
      | none => ({ source := .layer .miss }, w)
      | some v => ({ value := some (bindCachedRoute v leg), source := .legacy }, w)

/-- What the database keeps of an estimate. -/
def withoutHit (estimate : LegEstimate) : LegEstimate := { estimate with cacheHit := false }

/-- `_cache_set` -/
def cacheSet (kind : CacheKind) (w : RouteLayers) (key : String) (estimate : LegEstimate)
    (f : LegFaults) : RouteLayers :=
  let ttlSeconds :=
    if estimate.metrics.available then cfg.routeCacheTtlSeconds
    else cfg.routeUnavailableCacheTtlSeconds
  if ttlSeconds ≤ 0 then w
  else
    match kind with
    | .disabled => w
    | .layered => set withoutHit w key estimate f.write
    | .legacy => if f.write.l2Stores then w.setL2 key (some (withoutHit estimate)) else w

/-- What one lookup adds to the counters of its request. -/
def Found.counts (found : Found) (kind : CacheKind) : RouteCounts :=
  let one (p : Prop) [Decidable p] : Nat := if p then 1 else 0
  if found.value.isSome then
    { cacheHits := 1
      l1CacheHits := one (found.source = .layer .l1)
      providerCallsAvoidedByL1 := one (found.source = .layer .l1)
      l2CacheHits := one (found.source = .layer .l2)
      providerCallsAvoidedByL2 := one (found.source = .layer .l2) }
  else
    { cacheMisses := one (kind ≠ .disabled)
      l1CacheMisses := one (found.l1Status = .miss ∨ found.l1Status = .invalid)
      l1CacheDegraded := one (found.l1Status = .degraded)
      l2CacheMisses := one (found.l2Status = .miss)
      l2CacheErrors := one (found.l2Status = .error)
      providerCalls := 1 }

def addCounts (x y : RouteCounts) : RouteCounts :=
  { cacheHits := x.cacheHits + y.cacheHits
    cacheMisses := x.cacheMisses + y.cacheMisses
    l1CacheHits := x.l1CacheHits + y.l1CacheHits
    l1CacheMisses := x.l1CacheMisses + y.l1CacheMisses
    l1CacheDegraded := x.l1CacheDegraded + y.l1CacheDegraded
    l2CacheHits := x.l2CacheHits + y.l2CacheHits
    l2CacheMisses := x.l2CacheMisses + y.l2CacheMisses
    l2CacheErrors := x.l2CacheErrors + y.l2CacheErrors
    providerCalls := x.providerCalls + y.providerCalls
    providerCallsAvoidedByL1 := x.providerCallsAvoidedByL1 + y.providerCallsAvoidedByL1
    providerCallsAvoidedByL2 := x.providerCallsAvoidedByL2 + y.providerCallsAvoidedByL2
    failedLegs := x.failedLegs + y.failedLegs }

/-- What the client keeps between its calls. -/
structure ClientState where
  cityCodes : CityCodes
  layers : RouteLayers

def ClientState.start : ClientState := ⟨fun _ => none, .empty⟩

/-- One round of the loop. The errors that reach it here are of a kind that is not raised
again. -/
def estimateLeg (kind : CacheKind) (provider : Provider) (city : String) (f : LegFaults)
    (s : ClientState) (original : RouteLegRequest) : (LegEstimate × RouteCounts) × ClientState :=
  match prepareLeg provider.cityCode s.cityCodes city original with
  | (.error e, cityCodes) => ((unavailableRoute original e, {}), { s with cityCodes })
  | (.ok leg, cityCodes) =>
    let key := routeLegCacheKey cfg leg
    let (found, layers) := cacheGet kind s.layers key leg f
    match found.value with
    | some cached => ((cached, found.counts kind), { cityCodes, layers })
    | none =>
      let estimate := askProvider cfg provider leg original
      ((estimate, found.counts kind),
        { cityCodes, layers := cacheSet cfg kind layers key estimate f })

def estimateAll (kind : CacheKind) (provider : Provider) (city : String) :
    (Nat → LegFaults) → ClientState → List RouteLegRequest →
      (List LegEstimate × RouteCounts) × ClientState
  | _, s, [] => (([], {}), s)
  | faults, s, leg :: legs =>
    let ((r, counts), s) := estimateLeg cfg kind provider city (faults 0) s leg
    let ((rs, counts'), s) :=
      estimateAll kind provider city (fun n => faults (n + 1)) s legs
    ((r :: rs, addCounts counts counts'), s)

/-- The arguments of one `estimate_routes`. -/
structure RouteCall (F : Type) where
  city : String
  planFingerprint : F
  legs : List RouteLegRequest
  limit : Option Int := none

/-- The legs within the limit. -/
def RouteCall.selected {F : Type} (call : RouteCall F) : List RouteLegRequest :=
  call.legs.take (call.limit.getD cfg.maxRouteLegs).toNat

/-- `estimate_routes` -/
def estimateRoutes {F : Type} (kind : CacheKind) (provider : Provider) (faults : Nat → LegFaults)
    (s : ClientState) (call : RouteCall F) : LegEstimates F × ClientState :=
  let selected := call.selected cfg
  let ((routes, counts), s) := estimateAll cfg kind provider call.city faults s selected
  ({ planFingerprint := call.planFingerprint
     requestedLegs := call.legs.length
     evaluatedLegs := selected.length
     truncatedLegs := call.legs.length - selected.length
     counts := { counts with failedLegs := routes.countP fun r => !r.metrics.available }
     routes }, s)

/-- One call after the other, with what befalls the cache in each. -/
def runCalls {F : Type} (kind : CacheKind) (provider : Provider) :
    (Nat → Nat → LegFaults) → ClientState → List (RouteCall F) → List (LegEstimates F)
  | _, _, [] => []
  | faults, s, call :: calls =>
    let (result, s) := estimateRoutes cfg kind provider (faults 0) s call
    result :: runCalls kind provider (fun n => faults (n + 1)) s calls

end TravelAgent.RouteCache

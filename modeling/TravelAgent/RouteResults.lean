import TravelAgent.RouteRequests

namespace TravelAgent.Agent

open TravelAgent.Itinerary

/-- The leg that a route is for. -/
structure LegLabel where
  dayIndex : Int
  legIndex : Nat
  legType : RouteLegType
  originName : String
  destinationName : String
  mode : RouteMode
deriving DecidableEq

/-- What the provider says of the way. -/
structure RouteMetrics where
  available : Bool := true
  distanceMeters : Option Nat := none
  durationSeconds : Option Nat := none
  errorCode : Option String := none
  errorMessage : Option String := none
deriving DecidableEq

/-- `RouteEstimate` with all of its fields. -/
structure LegEstimate where
  label : LegLabel
  date : String
  metrics : RouteMetrics
  cacheHit : Bool := false
deriving DecidableEq

/-- All but the date and the cache flag. -/
def LegEstimate.core (r : LegEstimate) : LegLabel × RouteMetrics := (r.label, r.metrics)

def legLabel (leg : RouteLegRequest) : LegLabel :=
  { dayIndex := leg.dayIndex
    legIndex := leg.legIndex
    legType := leg.legType
    originName := leg.origin.name
    destinationName := leg.destination.name
    mode := leg.mode }

/-- The counters of a `RouteEstimateResult`; its rates are quotients of them. -/
structure RouteCounts where
  cacheHits : Nat := 0
  cacheMisses : Nat := 0
  l1CacheHits : Nat := 0
  l1CacheMisses : Nat := 0
  l1CacheDegraded : Nat := 0
  l2CacheHits : Nat := 0
  l2CacheMisses : Nat := 0
  l2CacheErrors : Nat := 0
  providerCalls : Nat := 0
  providerCallsAvoidedByL1 : Nat := 0
  providerCallsAvoidedByL2 : Nat := 0
  failedLegs : Nat := 0
deriving DecidableEq

/-- `RouteEstimateResult` with its counters. -/
structure LegEstimates (F : Type) where
  planFingerprint : F
  requestedLegs : Nat := 0
  evaluatedLegs : Nat := 0
  truncatedLegs : Nat := 0
  counts : RouteCounts := {}
  routes : List LegEstimate := []
deriving DecidableEq

end TravelAgent.Agent

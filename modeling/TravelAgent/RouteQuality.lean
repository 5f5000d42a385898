import TravelAgent.Regrouping
import TravelAgent.RouteKeys

namespace TravelAgent.RouteQuality

open TravelAgent.Itinerary TravelAgent.Agent TravelAgent.RouteKeys
open TravelAgent.Scheduling (LegKey routeLookup)
open TravelAgent.Regrouping (sizeByKey sum_sizeByKey_eq_iff)

variable {F D : Type}

structure RouteDayQuality where
  dayIndex : Int
  date : String
  attractionCount : Nat
  legCount : Nat
  availableLegs : Nat
  unavailableLegs : Nat
  totalDistanceMeters : Nat
  totalDurationSeconds : Nat
  longestLegIndex : Option Nat
  longestDurationSeconds : Option Nat
  excessiveDurationLegs : Nat
  longDistanceLegs : Nat
  optimizationCost : ℚ
  qualityScore : ℚ
  optimizationRecommended : Bool
deriving DecidableEq

structure RouteQualityReport (F : Type) where
  planFingerprint : F
  totalLegs : Nat
  availableLegs : Nat
  unavailableLegs : Nat
  totalDistanceMeters : Nat
  totalDurationSeconds : Nat
  excessiveDurationLegs : Nat
  longDistanceLegs : Nat
  optimizationCost : ℚ
  qualityScore : ℚ
  optimizationRecommended : Bool
  days : List RouteDayQuality
deriving DecidableEq

/-- What is computed in doubles: the score of an average cost, and cents. -/
structure QualityDoubles where
  score : ℚ → ℚ
  round : ℚ → ℚ

def unavailableLegPenalty : ℚ := 21600
def excessiveDurationSeconds : Nat := 3600
def longDistanceMeters : Nat := 30000
def longDayDurationSeconds : Nat := 7200
def lowQualityScore : ℚ := 60

/-- The distance and the duration of a route that `_usable_route` accepts. -/
def usableRoute (route : Option RouteEstimate) : Option (Nat × Nat) :=
  (route.filter (·.available)).bind fun r =>
    r.distanceMeters.bind fun distance => r.durationSeconds.map fun duration => (distance, duration)

/-- The variables of the loop over the legs of a day. -/
structure LegTally where
  availableLegs : Nat := 0
  unavailableLegs : Nat := 0
  totalDistance : Nat := 0
  totalDuration : Nat := 0
  excessiveDurationLegs : Nat := 0
  longDistanceLegs : Nat := 0
  longestLegIndex : Option Nat := none
  longestDuration : Option Nat := none
  optimizationCost : ℚ := 0

def countLeg (routes : List RouteEstimate) (t : LegTally) (key : LegKey) : LegTally :=
  match usableRoute (routeLookup routes key) with
  | none =>
    { t with
      unavailableLegs := t.unavailableLegs + 1
      optimizationCost := t.optimizationCost + unavailableLegPenalty }
  | some (distance, duration) =>
    let longer := t.longestDuration.all (· < duration)
    { availableLegs := t.availableLegs + 1
      unavailableLegs := t.unavailableLegs
      totalDistance := t.totalDistance + distance
      totalDuration := t.totalDuration + duration
      excessiveDurationLegs :=
        t.excessiveDurationLegs + if excessiveDurationSeconds < duration then 1 else 0
      longDistanceLegs := t.longDistanceLegs + if longDistanceMeters < distance then 1 else 0
      longestLegIndex := if longer then some key.2.2 else t.longestLegIndex
      longestDuration := if longer then some duration else t.longestDuration
      optimizationCost := t.optimizationCost + (duration + distance / 10) }

variable (doubles : QualityDoubles)

/-- `_quality_score` -/
def qualityScore (cost : ℚ) (legCount : Nat) : ℚ :=
  if legCount = 0 then 100 else doubles.score (cost / legCount)

/-- The legs that count for a day are those that carry its index. -/
def dayKeys (plan : TripPlan) (dayIndex : Int) : List LegKey :=
  (expectedRouteLegKeys plan).filter fun key => decide (key.1 = dayIndex)

def dayQuality (plan : TripPlan) (routes : List RouteEstimate) (day : DayPlan) (position : Nat) :
    RouteDayQuality :=
  let keys := dayKeys plan (day.indexAt position)
  let t := keys.foldl (countLeg routes) {}
  let score := qualityScore doubles t.optimizationCost keys.length
  { dayIndex := day.indexAt position
    date := day.date
    attractionCount := day.attractions.length
    legCount := keys.length
    availableLegs := t.availableLegs
    unavailableLegs := t.unavailableLegs
    totalDistanceMeters := t.totalDistance
    totalDurationSeconds := t.totalDuration
    longestLegIndex := t.longestLegIndex
    longestDurationSeconds := t.longestDuration
    excessiveDurationLegs := t.excessiveDurationLegs
    longDistanceLegs := t.longDistanceLegs
    optimizationCost := doubles.round t.optimizationCost
    qualityScore := score
    optimizationRecommended :=
      decide (3 ≤ day.attractions.length) &&
        (decide (0 < t.unavailableLegs) || decide (0 < t.excessiveDurationLegs) ||
          decide (0 < t.longDistanceLegs) || decide (longDayDurationSeconds < t.totalDuration) ||
          decide (score < lowQualityScore)) }

/-- `evaluate_route_quality` -/
def evaluateRouteQuality (plan : TripPlan) (result : RouteEstimateResult F D) :
    RouteQualityReport F :=
  let days := plan.days.zipIdx.map fun d => dayQuality doubles plan result.routes d.1 d.2
  let totalLegs := (days.map (·.legCount)).sum
  let cost := doubles.round (days.map (·.optimizationCost)).sum
  { planFingerprint := result.planFingerprint
    totalLegs
    availableLegs := (days.map (·.availableLegs)).sum
    unavailableLegs := (days.map (·.unavailableLegs)).sum
    totalDistanceMeters := (days.map (·.totalDistanceMeters)).sum
    totalDurationSeconds := (days.map (·.totalDurationSeconds)).sum
    excessiveDurationLegs := (days.map (·.excessiveDurationLegs)).sum
    longDistanceLegs := (days.map (·.longDistanceLegs)).sum
    optimizationCost := cost
    qualityScore := qualityScore doubles cost totalLegs
    optimizationRecommended := days.any (·.optimizationRecommended)
    days }

/-- Every expected leg counts once, either as available or as unavailable. -/
structure CountsOnce (plan : TripPlan) (report : RouteQualityReport F) : Prop where
  total : report.totalLegs = (expectedRouteLegKeys plan).length
  split : report.totalLegs = report.availableLegs + report.unavailableLegs
  perDay : (report.days.map (·.legCount)).sum = report.totalLegs

/-- Two days share an index only if neither has a leg. -/
def OwnIndices (plan : TripPlan) : Prop :=
  plan.days.zipIdx.Pairwise fun x y => x.1.indexAt x.2 = y.1.indexAt y.2 →
    dayLegKeys plan x.2 x.1 = [] ∧ dayLegKeys plan y.2 y.1 = []

/-- Every leg goes to one of the two counters. -/
theorem countLeg_counts (routes : List RouteEstimate) (t : LegTally) (key : LegKey) :
    (countLeg routes t key).availableLegs + (countLeg routes t key).unavailableLegs =
      t.availableLegs + t.unavailableLegs + 1 := by
  unfold countLeg
  split
  · dsimp only
    omega
  · dsimp only
    omega

theorem foldl_counts (routes : List RouteEstimate) (keys : List LegKey) (t : LegTally) :
    (keys.foldl (countLeg routes) t).availableLegs +
        (keys.foldl (countLeg routes) t).unavailableLegs =
      t.availableLegs + t.unavailableLegs + keys.length := by
  induction keys generalizing t with
  | nil => rfl
  | cons key keys ih =>
    rw [List.foldl_cons, ih, countLeg_counts, List.length_cons]
    omega

theorem dayQuality_counts (plan : TripPlan) (routes : List RouteEstimate) (day : DayPlan)
    (position : Nat) :
    (dayQuality doubles plan routes day position).legCount =
      (dayQuality doubles plan routes day position).availableLegs +
        (dayQuality doubles plan routes day position).unavailableLegs := by
  have h := foldl_counts routes (dayKeys plan (day.indexAt position)) {}
  dsimp only [dayQuality] at h ⊢
  omega

theorem dayLegKeys_index {plan : TripPlan} {position : Nat} {day : DayPlan} {key : LegKey}
    (h : key ∈ dayLegKeys plan position day) : key.1 = day.indexAt position := by
  simp only [dayLegKeys, List.mem_append, List.mem_map] at h
  obtain (h | ⟨i, -, rfl⟩) | h := h
  · split at h
    · obtain rfl := List.mem_singleton.mp h
      rfl
    · cases h
  · rfl
  · split at h
    · obtain rfl := List.mem_singleton.mp h
      rfl
    · cases h

def legsOf (plan : TripPlan) (d : DayPlan × Nat) : Nat := (dayLegKeys plan d.2 d.1).length

def indexOf (d : DayPlan × Nat) : Int := d.1.indexAt d.2

/-- What counts for a day is what all days with its index have. -/
theorem dayKeys_length (plan : TripPlan) (dayIndex : Int) :
    (dayKeys plan dayIndex).length =
      sizeByKey indexOf (legsOf plan) plan.days.zipIdx dayIndex := by
  simp only [dayKeys, expectedRouteLegKeys]
  generalize plan.days.zipIdx = days
  induction days with
  | nil => rfl
  | cons d days ih =>
    rw [List.flatMap_cons, List.filter_append, List.length_append, ih, Regrouping.sizeByKey_cons]
    congr 1
    split
    · rename_i h
      have hall : (dayLegKeys plan d.2 d.1).filter (fun key => decide (key.1 = dayIndex)) =
          dayLegKeys plan d.2 d.1 := by
        rw [List.filter_eq_self]
        intro key hkey
        exact decide_eq_true ((dayLegKeys_index hkey).trans h)
      rw [hall, legsOf]
    · rename_i h
      rw [List.length_eq_zero_iff, List.filter_eq_nil_iff]
      intro key hkey
      rw [decide_eq_true_eq, dayLegKeys_index hkey]
      exact h

theorem totalLegs_eq (plan : TripPlan) (result : RouteEstimateResult F D) :
    (evaluateRouteQuality doubles plan result).totalLegs =
      (plan.days.zipIdx.map fun d =>
        sizeByKey indexOf (legsOf plan) plan.days.zipIdx (indexOf d)).sum := by
  simp only [evaluateRouteQuality, List.map_map]
  congr 1
  apply List.map_congr_left
  intro d _
  exact dayKeys_length plan (d.1.indexAt d.2)

theorem expected_length (plan : TripPlan) :
    (expectedRouteLegKeys plan).length = (plan.days.zipIdx.map (legsOf plan)).sum := by
  rw [expectedRouteLegKeys, List.length_flatMap]
  rfl

theorem evaluateRouteQuality_split (plan : TripPlan) (result : RouteEstimateResult F D) :
    (evaluateRouteQuality doubles plan result).totalLegs =
      (evaluateRouteQuality doubles plan result).availableLegs +
        (evaluateRouteQuality doubles plan result).unavailableLegs := by
  simp only [evaluateRouteQuality, List.map_map]
  rw [← Regrouping.sum_map_add]
  congr 1
  apply List.map_congr_left
  intro d _
  exact dayQuality_counts doubles plan result.routes d.1 d.2

/-- The legs count once exactly if no day with legs shares its index with another day. -/
theorem counts_once_iff (plan : TripPlan) (result : RouteEstimateResult F D) :
    CountsOnce plan (evaluateRouteQuality doubles plan result) ↔ OwnIndices plan := by
  have htotal : (evaluateRouteQuality doubles plan result).totalLegs =
      (expectedRouteLegKeys plan).length ↔ OwnIndices plan := by
    rw [totalLegs_eq, expected_length, sum_sizeByKey_eq_iff]
    simp only [OwnIndices, indexOf, legsOf, List.length_eq_zero_iff]
  constructor
  · intro h
    exact htotal.mp h.total
  · intro h
    exact ⟨htotal.mpr h, evaluateRouteQuality_split doubles plan result, rfl⟩

def plainQuality : QualityDoubles := { score := fun average => 100 - average / 216, round := id }

/-- Both days of this plan say that they are the first. -/
def firstDays : TripPlan :=
  let day := Scheduling.cityDay [Scheduling.sight "外滩" 90] []
  { Scheduling.cityPlan [] [] with days := [day, day] }

/-- Two days with two legs each, and a report of eight. -/
theorem shared_index_counts_twice :
    ¬CountsOnce firstDays (evaluateRouteQuality plainQuality firstDays
      (⟨(), [], ()⟩ : RouteEstimateResult Unit Unit)) := by
  intro h
  have hexpected : (expectedRouteLegKeys firstDays).length = 4 := by decide +kernel
  have htotal : (evaluateRouteQuality plainQuality firstDays
      (⟨(), [], ()⟩ : RouteEstimateResult Unit Unit)).totalLegs = 8 := by
    decide +kernel
  have hsame := h.total
  rw [hexpected, htotal] at hsame
  omega

end TravelAgent.RouteQuality

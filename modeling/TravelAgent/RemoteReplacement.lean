import TravelAgent.AttractionRefill
import TravelAgent.Identities

namespace TravelAgent.RemoteReplacement

open TravelAgent.Itinerary TravelAgent.Agent TravelAgent.PlanEdits TravelAgent.Identities
open TravelAgent.AttractionRefill (AttractionCandidate)
open TravelAgent.Regrouping (keepBest keepBest_mem contents_set)
open TravelAgent.TaskStore (pySpace)

variable {F D : Type}

/-- Where an excessive segment of a report ends. -/
structure SegmentTarget where
  dayIndex : Int
  targetAttractionIndex : Nat

/-- `CommuteReplacementCandidate` -/
structure ReplacementCandidate where
  plan : TripPlan
  dayIndex : Int
  attractionIndex : Nat
  replacedAttractionName : String
  replacedAttractionId : String
  replacementAttractionName : String
  replacementAttractionId : String
  approximateBaselineDistanceKm : ℚ
  approximateCandidateDistanceKm : ℚ
  consideredCandidates : Nat

/-- `RemoteAttractionReplacementOptimizer`. The reading of reports and provider
documents and the arithmetic of doubles are parameters. -/
structure ReplacementOptimizer (F D : Type) where
  maxCandidates : Nat := 24
  defaultVisitDurationMinutes : Int := 120
  issues : CommuteConstraintReport F D → List SegmentTarget
  sourceCandidates : Option D → List AttractionCandidate
  ratingText : Double → String
  ratingValue : Double → ℚ
  haversineKm : Location → Location → ℚ
  round : ℚ → ℚ

variable (o : ReplacementOptimizer F D) (request : TripRequest)

/-- `_to_attraction` -/
def toAttraction (source : AttractionCandidate) (target : Attraction) : Attraction :=
  let details := [source.district, source.category].filter (!·.isEmpty) ++
    source.rating.toList.map fun r => "高德评分 " ++ o.ratingText r
  let description := "；".intercalate details
  let category := if source.category.isEmpty then target.category.getD "" else source.category
  { name := source.name
    address := if source.address.isEmpty then "地址待确认" else source.address
    location := source.location
    visitDuration :=
      if target.visitDuration = 0 then o.defaultVisitDurationMinutes else target.visitDuration
    description := if description.isEmpty then "高德地图近距离替换候选景点" else description
    category := some (if category.isEmpty then "景点" else category)
    rating := source.rating
    poiId := some source.poiId
    ticketPrice := 0 }

/-- `_category_penalty` -/
def categoryPenalty (target : Attraction) (source : AttractionCandidate) : ℚ :=
  let targetCategory := squeezed (target.category.getD "")
  let sourceCategory := squeezed source.category
  if targetCategory = [] ∨ sourceCategory = [] then 1
  else if Texts.contains sourceCategory targetCategory ||
      Texts.contains targetCategory sourceCategory then 0
  else 1

/-- `_preference_score` -/
def preferenceScore (source : AttractionCandidate) : Nat :=
  let haystack :=
    Texts.lower (source.name ++ source.category ++ source.district ++ source.address).toList
  request.preferences.countP fun preference =>
    let wanted := Texts.trim pySpace preference.toList
    !wanted.isEmpty && Texts.contains haystack (Texts.lower wanted)

/-- `_placement_distance_km` -/
def placementDistanceKm (plan : TripPlan) (day index : Nat) (a : Attraction) : ℚ :=
  let hotels := resolveDayHotels plan day
  let previous :=
    if 0 < index then (attractionAt plan day (index - 1)).map (·.location)
    else hotels.1.bind (·.location)
  let following :=
    if index + 1 < dayLength plan day then (attractionAt plan day (index + 1)).map (·.location)
    else hotels.2.bind (·.location)
  match previous.toList ++ following.toList with
  | [] => 10000
  | anchors => (anchors.map (o.haversineKm a.location)).sum

structure Ranked where
  rank : List ℚ
  source : AttractionCandidate
  distance : ℚ

/-- The sources that are nearer than the target, in their order. -/
def ranked (plan : TripPlan) (day index : Nat) (target : Attraction) (baseline : ℚ)
    (sources : List AttractionCandidate) : List Ranked :=
  sources.zipIdx.filterMap fun x =>
    let distance := placementDistanceKm o plan day index (toAttraction o x.1 target)
    if baseline ≤ distance then none
    else
      some
        { rank := [o.round distance, categoryPenalty target x.1, -(preferenceScore request x.1 : ℚ),
            -((x.1.rating.map o.ratingValue).getD 0), x.2]
          source := x.1
          distance }

/-- Of several days with one index the last one counts. -/
def lastDayPosition (plan : TripPlan) (dayIndex : Int) : Option Nat :=
  (plan.days.zipIdx.filter fun d => decide (d.1.indexAt d.2 = dayIndex)).getLast?.map (·.2)

/-- What the first segment with a nearer place comes to. -/
def replaceTarget (plan : TripPlan) (sources : List AttractionCandidate) (issue : SegmentTarget) :
    Option ReplacementCandidate :=
  (lastDayPosition plan issue.dayIndex).bind fun day =>
    (attractionAt plan day issue.targetAttractionIndex).bind fun target =>
      let index := issue.targetAttractionIndex
      let baseline := placementDistanceKm o plan day index target
      ((ranked o request plan day index target baseline sources).foldl
        (keepBest fun x y => decide (x.rank < y.rank)) none).map fun best =>
        { plan := editDay plan day (·.set index (toAttraction o best.source target))
          dayIndex := issue.dayIndex
          attractionIndex := index
          replacedAttractionName := target.name
          replacedAttractionId := target.poiId.getD ""
          replacementAttractionName := best.source.name
          replacementAttractionId := best.source.poiId
          approximateBaselineDistanceKm := o.round baseline
          approximateCandidateDistanceKm := o.round best.distance
          consideredCandidates := sources.length }

def usableSources (plan : TripPlan) (attractions : Option D) (excluded : List String) :
    List AttractionCandidate :=
  ((o.sourceCandidates attractions).filter fun c =>
    decide (contentAttractionIdentity c.poiId c.name ∉ usedIdentities plan ++ excluded)).take
      o.maxCandidates

/-- `RemoteAttractionReplacementOptimizer.optimize` -/
def optimize (plan : TripPlan) (report : CommuteConstraintReport F D) (attractions : Option D)
    (excluded : List String) : Option ReplacementCandidate :=
  if usableSources o plan attractions excluded = [] then none
  else
    (o.issues report).findSome?
      (replaceTarget o request plan (usableSources o plan attractions excluded))

/-- One attraction gives way to one of the sources. -/
theorem replaceTarget_visits {plan : TripPlan} {sources : List AttractionCandidate}
    {issue : SegmentTarget} {c : ReplacementCandidate}
    (h : replaceTarget o request plan sources issue = some c) :
    ∃ source ∈ sources, ∃ target,
      visits c.plan ≤ toAttraction o source target ::ₘ visits plan := by
  obtain ⟨day, -, h⟩ := Option.bind_eq_some_iff.mp h
  obtain ⟨target, htarget, h⟩ := Option.bind_eq_some_iff.mp h
  obtain ⟨best, hbest, rfl⟩ := Option.map_eq_some_iff.mp h
  obtain hb | hm := keepBest_mem hbest
  · cases hb
  · simp only [ranked, List.mem_filterMap] at hm
    obtain ⟨x, hx, hm⟩ := hm
    split at hm
    · cases hm
    · cases hm
      obtain ⟨hd, -, -⟩ := attractionAt_some htarget
      exact ⟨x.1, List.fst_mem_of_mem_zipIdx hx, target, contents_set hd rfl⟩

/-- Only a place that is not in the plan yet is put into it. -/
theorem optimize_unrepeated {plan : TripPlan} {report : CommuteConstraintReport F D}
    {attractions : Option D} {excluded : List String} {c : ReplacementCandidate}
    (hplan : Unrepeated plan) (h : optimize o request plan report attractions excluded = some c) :
    Unrepeated c.plan := by
  unfold optimize at h
  split at h
  · cases h
  · obtain ⟨issue, -, h⟩ := List.exists_of_findSome?_eq_some h
    obtain ⟨source, hsource, target, hle⟩ := replaceTarget_visits o request h
    have hunused := of_decide_eq_true (List.mem_filter.mp (List.mem_of_mem_take hsource)).2
    refine Regrouping.Separate.mono (separate_unused hplan ?_) hle
    intro hused
    exact hunused (List.mem_append_left _ hused)

end TravelAgent.RemoteReplacement

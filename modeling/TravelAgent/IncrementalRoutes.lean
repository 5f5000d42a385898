import TravelAgent.Dictionaries
import TravelAgent.RouteQuality
import TravelAgent.RouteResults

namespace TravelAgent.IncrementalRoutes

open TravelAgent.Itinerary TravelAgent.Agent TravelAgent.RouteKeys TravelAgent.Dictionaries
open TravelAgent.Scheduling (LegKey)

/-- `_leg_signature` -/
structure LegSignature where
  dayIndex : Int
  legType : RouteLegType
  legIndex : Nat
  originName : String
  originLongitude : Double
  originLatitude : Double
  destinationName : String
  destinationLongitude : Double
  destinationLatitude : Double
  mode : RouteMode
deriving DecidableEq

def legSignature (leg : RouteLegRequest) : LegSignature :=
  { dayIndex := leg.dayIndex
    legType := leg.legType
    legIndex := leg.legIndex
    originName := leg.origin.name
    originLongitude := leg.origin.location.longitude.round6
    originLatitude := leg.origin.location.latitude.round6
    destinationName := leg.destination.name
    destinationLongitude := leg.destination.location.longitude.round6
    destinationLatitude := leg.destination.location.latitude.round6
    mode := leg.mode }

def legTypeText : RouteLegType → String
  | .hotelDeparture => "hotel_departure"
  | .betweenAttractions => "between_attractions"
  | .hotelReturn => "hotel_return"

/-- `_route_key_text` -/
def routeKeyText (leg : RouteLegRequest) : String :=
  toString leg.dayIndex ++ ":" ++ legTypeText leg.legType ++ ":" ++ toString leg.legIndex ++ ":" ++
    leg.origin.name ++ "->" ++ leg.destination.name

def routeKey (r : LegEstimate) : LegKey := (r.label.dayIndex, r.label.legType, r.label.legIndex)

/-- What a draft's diff says of its routes. -/
structure RouteDiff where
  affectedRouteKeys : List String
  reusedRouteLegs : Nat
  queriedRouteLegs : Nat
deriving DecidableEq

inductive IncrementalError where
  | legs (f : Fault)
  | query (message : String)
deriving DecidableEq

/-- The routes of the previous plan, by the signatures of its legs. -/
def reusableBySignature (oldLegs : List RouteLegRequest) (oldRoutes : List LegEstimate) :
    LegSignature → Option LegEstimate :=
  let routes := ofPairs (oldRoutes.map fun r => (routeKey r, r))
  ofPairs <| oldLegs.filterMap fun leg =>
    (routes (requestKey leg)).map fun r => (legSignature leg, r)

/-- The entries of `reused`, in the order in which they are made. -/
def reusedRoutes (reusable : LegSignature → Option LegEstimate) (newLegs : List RouteLegRequest) :
    List (LegKey × LegEstimate) :=
  newLegs.filterMap fun leg => (reusable (legSignature leg)).map fun r => (requestKey leg, r)

def affectedLegs (reusable : LegSignature → Option LegEstimate) (newLegs : List RouteLegRequest) :
    List RouteLegRequest :=
  newLegs.filter fun leg => (reusable (legSignature leg)).isNone

/-- The result for a leg that the provider has left out. -/
def missingRoute (leg : RouteLegRequest) : LegEstimate :=
  { label := legLabel leg
    date := leg.date
    metrics :=
      { available := false
        errorCode := some "ROUTE_RESULT_MISSING"
        errorMessage := some "路线供应商未返回该分段" } }

/-- The `estimate_routes` tool, with the city, the fingerprint and the legs that it is given. -/
abbrev RouteTool (F : Type) := String → F → List RouteLegRequest → Except String (LegEstimates F)

/-- The query for the affected legs, if there are any. -/
def queryAffected {F : Type} (tool : RouteTool F) (city : String) (fingerprint : F)
    (affected : List RouteLegRequest) : Except IncrementalError (LegEstimates F) :=
  if affected.isEmpty then .ok { planFingerprint := fingerprint }
  else
    match tool city fingerprint affected with
    | .error e =>
      .error (.query ("受影响路线重新查询失败：" ++ if e.isEmpty then "未知错误" else e))
    | .ok result => .ok result

/-- The new legs with the routes found for them. -/
def stitched {F : Type} (fingerprint : F) (reusable : LegSignature → Option LegEstimate)
    (newLegs : List RouteLegRequest) (result : LegEstimates F) : LegEstimates F × RouteDiff :=
  let reused := reusedRoutes reusable newLegs
  let affected := affectedLegs reusable newLegs
  let queried := ofPairs (result.routes.map fun r => (routeKey r, r))
  let found := newLegs.map fun leg =>
    (leg, (ofPairs reused (requestKey leg)).or (queried (requestKey leg)))
  ({ planFingerprint := fingerprint
     requestedLegs := newLegs.length
     evaluatedLegs := newLegs.length
     counts :=
       { result.counts with
         failedLegs := result.counts.failedLegs + found.countP fun p => p.2.isNone }
     routes := found.map fun p => p.2.getD (missingRoute p.1) },
   { affectedRouteKeys := affected.map routeKeyText
     reusedRouteLegs := (reused.map Prod.fst).dedup.length
     queriedRouteLegs := affected.length })

def asLegs {α : Type} : Except Fault α → Except IncrementalError α
  | .error f => .error (.legs f)
  | .ok x => .ok x

/-- `_incremental_routes`, from the plan and the routes of the version before. -/
def incrementalRoutes {F : Type} (sources : PointSources) (fingerprint : TripRequest → TripPlan → F)
    (tool : RouteTool F) (request : TripRequest) (before : TripPlan) (oldRoutes : List LegEstimate)
    (afterPlan : TripPlan) : Except IncrementalError (LegEstimates F × RouteDiff) := do
  let oldLegs ← asLegs (buildRouteLegs sources request before)
  let newLegs ← asLegs (buildRouteLegs sources request afterPlan)
  let reusable := reusableBySignature oldLegs oldRoutes
  let result ← queryAffected tool request.city (fingerprint request afterPlan)
    (affectedLegs reusable newLegs)
  return stitched (fingerprint request afterPlan) reusable newLegs result

/-- The days have different stable indices. -/
def DistinctDays (plan : TripPlan) : Prop :=
  (plan.days.zipIdx.map fun d => d.1.indexAt d.2).Nodup

instance (plan : TripPlan) : Decidable (DistinctDays plan) :=
  inferInstanceAs (Decidable (List.Nodup _))

theorem dayLegKeys_nodup (plan : TripPlan) (position : Nat) (day : DayPlan) :
    (dayLegKeys plan position day).Nodup := by
  simp only [dayLegKeys]
  have hbetween : ((List.range (day.attractions.length - 1)).map fun i =>
      ((day.indexAt position, .betweenAttractions, i) : LegKey)).Nodup := by
    apply List.nodup_range.map
    intro i j hij
    exact (Prod.mk.inj (Prod.mk.inj hij).2).2
  have hone (c : Prop) [Decidable c] (key : LegKey) : (if c then [key] else []).Nodup := by
    by_cases hc : c
    · rw [if_pos hc]
      exact List.nodup_singleton key
    · rw [if_neg hc]
      exact List.nodup_nil
  have hkind {c : Prop} [Decidable c] {t : RouteLegType} {i : Nat} {key : LegKey}
      (h : key ∈ if c then [((day.indexAt position, t, i) : LegKey)] else []) : key.2.1 = t := by
    split at h
    · rw [List.mem_singleton.mp h]
    · cases h
  refine ((hone _ _).append hbetween ?_).append (hone _ _) ?_
  · intro key hkey hmem
    obtain ⟨i, -, rfl⟩ := List.mem_map.mp hmem
    cases hkind hkey
  · intro key hkey hmem
    have hreturn := hkind hmem
    obtain hkey | hkey := List.mem_append.mp hkey
    · cases (hkind hkey).symm.trans hreturn
    · obtain ⟨i, -, rfl⟩ := List.mem_map.mp hkey
      cases hreturn

theorem expected_nodup {plan : TripPlan} (h : DistinctDays plan) :
    (expectedRouteLegKeys plan).Nodup := by
  refine List.nodup_flatMap.mpr ⟨fun d _ => dayLegKeys_nodup plan d.2 d.1, ?_⟩
  refine (List.pairwise_map.mp h).imp ?_
  intro d d' hne key hkey hkey'
  exact hne ((RouteQuality.dayLegKeys_index hkey).symm.trans (RouteQuality.dayLegKeys_index hkey'))

variable {sources : PointSources} {request : TripRequest} {plan : TripPlan}

theorem legs_nodup {legs : List RouteLegRequest}
    (h : buildRouteLegs sources request plan = .ok legs) (hd : DistinctDays plan) :
    (legs.map requestKey).Nodup := by
  rw [(route_legs_agree h).1]
  exact expected_nodup hd

/-- A route is the tool's answer for a leg: it carries the leg's label, and what it says of the
way comes from the leg's signature alone. -/
structure Answers (answer : LegSignature → RouteMetrics) (leg : RouteLegRequest) (r : LegEstimate) :
    Prop where
  label : r.label = legLabel leg
  metrics : r.metrics = answer (legSignature leg)

/-- Up to its limit the tool answers every leg that it is asked about. -/
def Answering {F : Type} (tool : RouteTool F) (answer : LegSignature → RouteMetrics) (limit : Nat) :
    Prop :=
  ∀ city fingerprint legs, legs.length ≤ limit →
    ∃ result, tool city fingerprint legs = .ok result ∧
      List.Forall₂ (Answers answer) legs result.routes

theorem signature_label {leg leg' : RouteLegRequest} (h : legSignature leg = legSignature leg') :
    legLabel leg = legLabel leg' := by
  simp only [legSignature, LegSignature.mk.injEq] at h
  obtain ⟨hday, htype, hindex, horigin, -, -, hdestination, -, -, hmode⟩ := h
  simp only [legLabel, hday, htype, hindex, horigin, hdestination, hmode]

section

variable {answer : LegSignature → RouteMetrics} {leg : RouteLegRequest} {r : LegEstimate}
  {legs : List RouteLegRequest} {routes : List LegEstimate}

theorem Answers.key (h : Answers answer leg r) : routeKey r = requestKey leg := by
  rw [routeKey, h.label]
  rfl

theorem Answers.core (h : Answers answer leg r) :
    r.core = (legLabel leg, answer (legSignature leg)) := by
  rw [LegEstimate.core, h.label, h.metrics]

/-- An answer serves every leg of the same signature. -/
theorem Answers.reuse {leg' : RouteLegRequest} (h : Answers answer leg r)
    (hs : legSignature leg = legSignature leg') : Answers answer leg' r :=
  ⟨h.label.trans (signature_label hs), by rw [h.metrics, hs]⟩

theorem answers_keys (h : List.Forall₂ (Answers answer) legs routes) :
    (routes.map fun r => (routeKey r, r)).map Prod.fst = legs.map requestKey := by
  induction h with
  | nil => rfl
  | cons hr _ ih => rw [List.map_cons, List.map_cons, List.map_cons, ih, hr.key]

theorem answers_cores (h : List.Forall₂ (Answers answer) legs routes) :
    routes.map LegEstimate.core =
      legs.map fun leg => (legLabel leg, answer (legSignature leg)) := by
  induction h with
  | nil => rfl
  | cons hr _ ih => rw [List.map_cons, List.map_cons, ih, hr.core]

theorem answers_mem (h : List.Forall₂ (Answers answer) legs routes) (hleg : leg ∈ legs) :
    ∃ r ∈ routes, Answers answer leg r := by
  induction h with
  | nil => cases hleg
  | cons hr _ ih =>
    obtain rfl | hleg := List.mem_cons.mp hleg
    · exact ⟨_, List.mem_cons_self, hr⟩
    · obtain ⟨r, hmem, hanswer⟩ := ih hleg
      exact ⟨r, List.mem_cons_of_mem _ hmem, hanswer⟩

/-- Under its key a leg finds the answer for itself. -/
theorem answers_found (h : List.Forall₂ (Answers answer) legs routes)
    (hnodup : (legs.map requestKey).Nodup) (hleg : leg ∈ legs) :
    ∃ r, ofPairs (routes.map fun r => (routeKey r, r)) (requestKey leg) = some r ∧
      Answers answer leg r := by
  obtain ⟨r, hr, hanswer⟩ := answers_mem h hleg
  refine ⟨r, ofPairs_of_mem ?_ ?_, hanswer⟩
  · rwa [answers_keys h]
  · rw [← hanswer.key]
    exact List.mem_map_of_mem hr

variable {oldLegs newLegs : List RouteLegRequest} {oldRoutes : List LegEstimate}

theorem reusable_answers (h : List.Forall₂ (Answers answer) oldLegs oldRoutes)
    (hnodup : (oldLegs.map requestKey).Nodup)
    (hr : reusableBySignature oldLegs oldRoutes (legSignature leg) = some r) :
    Answers answer leg r := by
  obtain ⟨old, hold, heq⟩ := List.mem_filterMap.mp (mem_of_ofPairs hr)
  obtain ⟨r', hr', hanswer⟩ := answers_found h hnodup hold
  rw [hr', Option.map_some, Option.some.injEq, Prod.mk.injEq] at heq
  obtain ⟨hsig, rfl⟩ := heq
  exact hanswer.reuse hsig

/-- A leg finds no route to use again exactly if the previous plan has no such leg. -/
theorem reusable_none (h : List.Forall₂ (Answers answer) oldLegs oldRoutes)
    (hnodup : (oldLegs.map requestKey).Nodup) (sig : LegSignature) :
    reusableBySignature oldLegs oldRoutes sig = none ↔ sig ∉ oldLegs.map legSignature := by
  rw [reusableBySignature, ofPairs_eq_none]
  apply not_congr
  simp only [List.mem_map, List.mem_filterMap]
  constructor
  · rintro ⟨p, ⟨old, hold, hp⟩, rfl⟩
    obtain ⟨r, -, rfl⟩ := Option.map_eq_some_iff.mp hp
    exact ⟨old, hold, rfl⟩
  · rintro ⟨old, hold, rfl⟩
    obtain ⟨r, hr, -⟩ := answers_found h hnodup hold
    exact ⟨(legSignature old, r), ⟨old, hold, by rw [hr, Option.map_some]⟩, rfl⟩

end

section

variable {reusable : LegSignature → Option LegEstimate} {newLegs : List RouteLegRequest}
  {leg : RouteLegRequest}

theorem reused_keys (reusable : LegSignature → Option LegEstimate)
    (newLegs : List RouteLegRequest) :
    (reusedRoutes reusable newLegs).map Prod.fst =
      (newLegs.filter fun leg => (reusable (legSignature leg)).isSome).map requestKey := by
  induction newLegs with
  | nil => rfl
  | cons leg legs ih =>
    rw [reusedRoutes, List.filterMap_cons, List.filter_cons]
    cases reusable (legSignature leg) with
    | none => exact ih
    | some r => exact congrArg (requestKey leg :: ·) ih

theorem reused_nodup (hnodup : (newLegs.map requestKey).Nodup) :
    ((reusedRoutes reusable newLegs).map Prod.fst).Nodup := by
  rw [reused_keys]
  exact hnodup.sublist (List.filter_sublist.map _)

theorem reused_found (hnodup : (newLegs.map requestKey).Nodup) (hleg : leg ∈ newLegs) :
    ofPairs (reusedRoutes reusable newLegs) (requestKey leg) = reusable (legSignature leg) := by
  cases hr : reusable (legSignature leg) with
  | some r =>
    apply ofPairs_of_mem (reused_nodup hnodup)
    exact List.mem_filterMap.mpr ⟨leg, hleg, by rw [hr, Option.map_some]⟩
  | none =>
    rw [ofPairs_eq_none, reused_keys]
    intro hmem
    obtain ⟨other, hother, hkey⟩ := List.mem_map.mp hmem
    obtain ⟨hother, hsome⟩ := List.mem_filter.mp hother
    obtain rfl := List.inj_on_of_nodup_map hnodup hother hleg hkey
    rw [hr] at hsome
    cases hsome

/-- Every leg is either served again or asked about. -/
theorem counts_add (hnodup : (newLegs.map requestKey).Nodup) :
    ((reusedRoutes reusable newLegs).map Prod.fst).dedup.length +
      (affectedLegs reusable newLegs).length = newLegs.length := by
  rw [(reused_nodup hnodup).dedup, reused_keys, List.length_map, affectedLegs,
    ← List.countP_eq_length_filter, ← List.countP_eq_length_filter,
    List.length_eq_countP_add_countP fun leg => (reusable (legSignature leg)).isSome]
  congr 2
  funext leg
  cases reusable (legSignature leg) with
  | none => rfl
  | some r => rfl

variable {answer : LegSignature → RouteMetrics} {routes : List LegEstimate}

/-- Between the two dictionaries every leg finds an answer for itself. -/
theorem either_answers
    (hreuse : ∀ leg r, reusable (legSignature leg) = some r → Answers answer leg r)
    (hnodup : (newLegs.map requestKey).Nodup)
    (h : List.Forall₂ (Answers answer) (affectedLegs reusable newLegs) routes)
    (hleg : leg ∈ newLegs) :
    ∃ r, (ofPairs (reusedRoutes reusable newLegs) (requestKey leg)).or
        (ofPairs (routes.map fun r => (routeKey r, r)) (requestKey leg)) = some r ∧
      Answers answer leg r := by
  rw [reused_found hnodup hleg]
  cases hr : reusable (legSignature leg) with
  | some r => exact ⟨r, rfl, hreuse leg r hr⟩
  | none =>
    have haffected : leg ∈ affectedLegs reusable newLegs :=
      List.mem_filter.mpr ⟨hleg, by rw [hr, Option.isNone_none]⟩
    exact answers_found h (hnodup.sublist (List.filter_sublist.map _)) haffected

/-- The result has one answer for each leg, in their order, and none is missing. -/
theorem stitched_answers {F : Type} {fingerprint : F} {result : LegEstimates F}
    (hreuse : ∀ leg r, reusable (legSignature leg) = some r → Answers answer leg r)
    (hnodup : (newLegs.map requestKey).Nodup)
    (h : List.Forall₂ (Answers answer) (affectedLegs reusable newLegs) result.routes) :
    List.Forall₂ (Answers answer) newLegs
        (stitched fingerprint reusable newLegs result).1.routes ∧
      (stitched fingerprint reusable newLegs result).1.counts.failedLegs =
        result.counts.failedLegs := by
  refine ⟨?_, ?_⟩
  · simp only [stitched, List.map_map]
    rw [List.forall₂_map_right_iff, List.forall₂_same]
    intro leg hleg
    obtain ⟨r, hr, hanswer⟩ := either_answers hreuse hnodup h hleg
    simpa only [Function.comp_apply, hr, Option.getD_some] using hanswer
  · simp only [stitched, List.countP_map, Nat.add_eq_left, List.countP_eq_zero]
    intro leg hleg
    obtain ⟨r, hr, -⟩ := either_answers hreuse hnodup h hleg
    simp only [Function.comp_apply, hr, Option.isNone_some, Bool.false_eq_true, not_false_eq_true]

end

section

variable {F : Type} {fingerprint : TripRequest → TripPlan → F} {tool : RouteTool F}
  {answer : LegSignature → RouteMetrics} {limit : Nat} {before afterPlan : TripPlan}
  {oldLegs newLegs : List RouteLegRequest} {oldRoutes : List LegEstimate}

/-- The legs that the previous plan does not have. -/
def absentLegs (oldLegs newLegs : List RouteLegRequest) : List RouteLegRequest :=
  newLegs.filter fun leg => decide (legSignature leg ∉ oldLegs.map legSignature)

theorem affected_absent (h : List.Forall₂ (Answers answer) oldLegs oldRoutes)
    (hnodup : (oldLegs.map requestKey).Nodup) :
    affectedLegs (reusableBySignature oldLegs oldRoutes) newLegs = absentLegs oldLegs newLegs := by
  apply List.filter_congr
  intro leg _
  rw [Bool.eq_iff_iff, Option.isNone_iff_eq_none, decide_eq_true_iff]
  exact reusable_none h hnodup (legSignature leg)

theorem queryAffected_answers (htool : Answering tool answer limit) {legs : List RouteLegRequest}
    (hlimit : legs.length ≤ limit) (city : String) (fp : F) :
    ∃ result, queryAffected tool city fp legs = .ok result ∧
      List.Forall₂ (Answers answer) legs result.routes := by
  unfold queryAffected
  cases legs with
  | nil => exact ⟨_, rfl, List.Forall₂.nil⟩
  | cons leg legs =>
    obtain ⟨result, hresult, hanswers⟩ := htool city fp (leg :: legs) hlimit
    refine ⟨result, ?_, hanswers⟩
    rw [hresult]
    rfl

/-- The incremental result is as good as a full query. -/
structure EqualsFull (sources : PointSources) (fingerprint : TripRequest → TripPlan → F)
    (tool : RouteTool F) (request : TripRequest) (before : TripPlan) (oldRoutes : List LegEstimate)
    (afterPlan : TripPlan) (oldLegs newLegs : List RouteLegRequest) (result full : LegEstimates F)
    (diff : RouteDiff) : Prop where
  incremental : incrementalRoutes sources fingerprint tool request before oldRoutes afterPlan =
    .ok (result, diff)
  requery : tool request.city (fingerprint request afterPlan) newLegs = .ok full
  /-- One route for each leg, in their order, and about it. -/
  labels : List.Forall₂ (fun leg r => r.label = legLabel leg) newLegs result.routes
  cores : result.routes.map LegEstimate.core = full.routes.map LegEstimate.core
  counts : diff.reusedRouteLegs + diff.queriedRouteLegs = newLegs.length
  queried : diff.queriedRouteLegs = (absentLegs oldLegs newLegs).length ∧
    diff.affectedRouteKeys = (absentLegs oldLegs newLegs).map routeKeyText
  /-- Nothing else that the tool says has a bearing. -/
  asked : ∀ tool' : RouteTool F,
    tool' request.city (fingerprint request afterPlan) (absentLegs oldLegs newLegs) =
        tool request.city (fingerprint request afterPlan) (absentLegs oldLegs newLegs) →
      incrementalRoutes sources fingerprint tool' request before oldRoutes afterPlan =
        .ok (result, diff)

theorem incrementalRoutes_eq
    (hold : buildRouteLegs sources request before = .ok oldLegs)
    (hnew : buildRouteLegs sources request afterPlan = .ok newLegs) :
    incrementalRoutes sources fingerprint tool request before oldRoutes afterPlan =
      (queryAffected tool request.city (fingerprint request afterPlan)
        (affectedLegs (reusableBySignature oldLegs oldRoutes) newLegs)).map
          (stitched (fingerprint request afterPlan) (reusableBySignature oldLegs oldRoutes)
            newLegs) := by
  rw [incrementalRoutes, hold, hnew]
  simp only [asLegs]
  change (queryAffected _ _ _ _ >>= fun result => pure (stitched _ _ _ result)) = _
  cases queryAffected tool request.city (fingerprint request afterPlan)
      (affectedLegs (reusableBySignature oldLegs oldRoutes) newLegs) with
  | error e => rfl
  | ok result => rfl

/-- Where the routes of the previous plan are the tool's answers, stitching them together with
the answers for the new legs comes to the same as asking about all legs. -/
theorem incremental_equals_full (htool : Answering tool answer limit)
    (hold : buildRouteLegs sources request before = .ok oldLegs)
    (hnew : buildRouteLegs sources request afterPlan = .ok newLegs)
    (hbefore : DistinctDays before) (hafter : DistinctDays afterPlan)
    (hstored : List.Forall₂ (Answers answer) oldLegs oldRoutes) (hlimit : newLegs.length ≤ limit) :
    ∃ result full diff, EqualsFull sources fingerprint tool request before oldRoutes afterPlan
      oldLegs newLegs result full diff := by
  have hnodup := legs_nodup hnew hafter
  have hreuse : ∀ leg r, reusableBySignature oldLegs oldRoutes (legSignature leg) = some r →
      Answers answer leg r :=
    fun _ _ => reusable_answers hstored (legs_nodup hold hbefore)
  have habsent : affectedLegs (reusableBySignature oldLegs oldRoutes) newLegs =
      absentLegs oldLegs newLegs :=
    affected_absent hstored (legs_nodup hold hbefore)
  have hfew : (absentLegs oldLegs newLegs).length ≤ limit :=
    (List.filter_sublist.length_le).trans hlimit
  obtain ⟨full, hfull, hanswers⟩ :=
    htool request.city (fingerprint request afterPlan) newLegs hlimit
  obtain ⟨found, hfound, hqueried⟩ :=
    queryAffected_answers htool hfew request.city (fingerprint request afterPlan)
  obtain ⟨out, hout⟩ : ∃ out, out = stitched (fingerprint request afterPlan)
      (reusableBySignature oldLegs oldRoutes) newLegs found := ⟨_, rfl⟩
  have hrun : ∀ tool' : RouteTool F,
      queryAffected tool' request.city (fingerprint request afterPlan)
          (absentLegs oldLegs newLegs) = .ok found →
        incrementalRoutes sources fingerprint tool' request before oldRoutes afterPlan =
          .ok out := by
    intro tool' hquery
    rw [incrementalRoutes_eq hold hnew, habsent, hquery, hout]
    rfl
  rw [← habsent] at hqueried
  have hroutes : List.Forall₂ (Answers answer) newLegs out.1.routes := by
    rw [hout]
    exact (stitched_answers hreuse hnodup hqueried).1
  refine ⟨out.1, full, out.2, hrun tool hfound, hfull, hroutes.imp fun _ _ h => h.label, ?_, ?_, ?_,
    ?_⟩
  · rw [answers_cores hroutes, answers_cores hanswers]
  · rw [hout]
    exact counts_add hnodup
  · rw [hout]
    simp only [stitched, habsent, and_self]
  · intro tool' hsame
    apply hrun
    rw [← hfound, queryAffected, queryAffected, hsame]

end

/-- A tool that says of every way that it takes as many minutes as its name is long. -/
def plainAnswer (sig : LegSignature) : RouteMetrics :=
  { distanceMeters := some 1000, durationSeconds := some (60 * sig.destinationName.length) }

def plainTool : RouteTool String := fun _ fingerprint legs =>
  .ok
    { planFingerprint := fingerprint
      routes := legs.map fun leg =>
        { label := legLabel leg, date := leg.date, metrics := plainAnswer (legSignature leg) } }

theorem plainTool_answering : Answering plainTool plainAnswer 100 := by
  intro city fingerprint legs _
  refine ⟨_, rfl, ?_⟩
  rw [List.forall₂_map_right_iff, List.forall₂_same]
  exact fun leg _ => ⟨rfl, rfl⟩

def shortPlan : TripPlan :=
  Scheduling.cityPlan [Scheduling.sight "外滩" 90, Scheduling.sight "豫园" 120] []

/-- A third sight, put between the two. -/
def longPlan : TripPlan :=
  Scheduling.cityPlan
    [Scheduling.sight "外滩" 90, Scheduling.sight "静安寺" 60, Scheduling.sight "豫园" 120] []

def cityLegs (plan : TripPlan) : List RouteLegRequest :=
  (buildRouteLegs plainSources Scheduling.cityRequest plan).toOption.getD []

theorem inserted_sight_equals_full :
    ∃ oldRoutes result full diff, EqualsFull plainSources (fun _ _ => "fp") plainTool
        Scheduling.cityRequest shortPlan oldRoutes longPlan (cityLegs shortPlan)
        (cityLegs longPlan) result full diff := by
  have hok {plan : TripPlan}
      (h : (buildRouteLegs plainSources Scheduling.cityRequest plan).toOption.isSome = true) :
      buildRouteLegs plainSources Scheduling.cityRequest plan = .ok (cityLegs plan) := by
    rw [cityLegs]
    cases hlegs : buildRouteLegs plainSources Scheduling.cityRequest plan with
    | error e =>
      rw [hlegs] at h
      cases h
    | ok legs => rfl
  have hlimit : (cityLegs longPlan).length ≤ 100 := by decide +kernel
  obtain ⟨old, -, hstored⟩ := plainTool_answering "" "" (cityLegs shortPlan) (by decide +kernel)
  exact ⟨old.routes, incremental_equals_full plainTool_answering (hok (by decide +kernel))
    (hok (by decide +kernel)) (by decide) (by decide) hstored hlimit⟩

end TravelAgent.IncrementalRoutes

import Mathlib
import TravelAgent.Noting
import TravelAgent.RouteRequests
import TravelAgent.TimelineWalk

namespace TravelAgent.RouteKeys

open TravelAgent.Itinerary TravelAgent.Agent TravelAgent.Noting
open TravelAgent.Scheduling (LegKey ScheduleTimelineEvaluator Doubles DayFrame DayState DayScheduleQuality
  routeLookup transportMinutes appendRide appendVisit appendBuffer appendLateLunch dayFrame
  dayQuality travel travelDeparture travelReturn visitAll evaluateDay)

/-- The keys of one day, in the loop of `expected_route_leg_keys`. -/
def dayLegKeys (plan : TripPlan) (position : Nat) (day : DayPlan) : List LegKey :=
  let dayIndex := day.indexAt position
  let (startHotel, returnHotel) := resolveDayHotels plan position
  (if day.attractions ≠ [] ∧ startHotel.isSome then [(dayIndex, .hotelDeparture, 0)] else []) ++
    (List.range (day.attractions.length - 1)).map (fun i => (dayIndex, .betweenAttractions, i)) ++
    (if day.attractions ≠ [] ∧ returnHotel.isSome then [(dayIndex, .hotelReturn, 0)] else [])

def expectedRouteLegKeys (plan : TripPlan) : List LegKey :=
  plan.days.zipIdx.flatMap fun d => dayLegKeys plan d.2 d.1

def requestKey (r : RouteLegRequest) : LegKey := (r.dayIndex, r.legType, r.legIndex)

section

variable (doubles : Doubles) (day : DayFrame) (mode : RouteMode) (routes : List RouteEstimate)

/-- A leg of the timeline, with the key under which its route is looked up. -/
def travelNoting (origin destination : Scheduling.Place) (legType : RouteLegType)
    (legIndex sourceIndex : Nat) (s : DayState) : Noted LegKey String DayState := do
  let key := (day.dayIndex, legType, legIndex)
  let ride ← note key
    (transportMinutes day.cfg doubles origin destination mode (routeLookup routes key))
  return appendRide day origin destination sourceIndex ride s

def travelDepartureNoting (attractions : List Attraction) (startHotel : Option Hotel)
    (s : DayState) : Noted LegKey String DayState :=
  match attractions.head?, startHotel with
  | some a, some h =>
    travelNoting doubles day mode routes (.ofHotel h) (.ofAttraction a) .hotelDeparture 0 0 s
  | _, _ => pure s

def travelReturnNoting (attractions : List Attraction) (returnHotel : Option Hotel)
    (s : DayState) : Noted LegKey String DayState :=
  match attractions.getLast?, returnHotel with
  | some a, some h =>
    travelNoting doubles day mode routes (.ofAttraction a) (.ofHotel h) .hotelReturn 0
      (attractions.length - 1) s
  | _, _ => pure s

def visitAllNoting (i : Nat) : List Attraction → DayState → Noted LegKey String DayState
  | [], s => pure s
  | [a], s => pure (appendVisit day a i s)
  | a :: b :: rest, s => do
    let s := appendVisit day a i s
    let s := appendBuffer day "景点间休息缓冲" day.cfg.attractionBufferMinutes i s
    let s ← travelNoting doubles day mode routes (.ofAttraction a) (.ofAttraction b)
      .betweenAttractions i i s
    visitAllNoting (i + 1) (b :: rest) s

end

/-- `_evaluate_day`, with the keys that it looks up. -/
def evaluateDayNoting (cfg : ScheduleTimelineEvaluator) (doubles : Doubles) (request : TripRequest)
    (plan : TripPlan) (routes : List RouteEstimate) (day : DayPlan) (position : Nat) :
    Noted LegKey String DayScheduleQuality := do
  let frame := dayFrame cfg day position
  let mode := dayRouteMode request day
  let hotels := resolveDayHotels plan position
  let s ← travelDepartureNoting doubles frame mode routes day.attractions hotels.1
    { current := cfg.startMinute }
  let s ← visitAllNoting doubles frame mode routes 0 day.attractions s
  let s := appendLateLunch frame day.attractions s
  let s ← travelReturnNoting doubles frame mode routes day.attractions hotels.2 s
  return dayQuality doubles frame day.date s

section

variable (doubles : Doubles) (day : DayFrame) (mode : RouteMode) (routes : List RouteEstimate)

theorem travelNoting_outcome (origin destination : Scheduling.Place) (legType : RouteLegType)
    (legIndex sourceIndex : Nat) (s : DayState) :
    (travelNoting doubles day mode routes origin destination legType legIndex sourceIndex s).outcome =
      travel doubles day mode routes origin destination legType legIndex sourceIndex s := by
  simp only [travelNoting, travel, outcome_bind, outcome_note, outcome_pure]
  rfl

theorem travelDepartureNoting_outcome (attractions : List Attraction) (startHotel : Option Hotel)
    (s : DayState) :
    (travelDepartureNoting doubles day mode routes attractions startHotel s).outcome =
      travelDeparture doubles day mode routes attractions startHotel s := by
  unfold travelDepartureNoting travelDeparture
  cases attractions.head? with
  | none => rfl
  | some a =>
    cases startHotel with
    | none => rfl
    | some h => exact travelNoting_outcome doubles day mode routes _ _ _ _ _ s

theorem travelReturnNoting_outcome (attractions : List Attraction) (returnHotel : Option Hotel)
    (s : DayState) :
    (travelReturnNoting doubles day mode routes attractions returnHotel s).outcome =
      travelReturn doubles day mode routes attractions returnHotel s := by
  unfold travelReturnNoting travelReturn
  cases attractions.getLast? with
  | none => rfl
  | some a =>
    cases returnHotel with
    | none => rfl
    | some h => exact travelNoting_outcome doubles day mode routes _ _ _ _ _ s

theorem visitAllNoting_outcome (i : Nat) (attractions : List Attraction) (s : DayState) :
    (visitAllNoting doubles day mode routes i attractions s).outcome =
      visitAll doubles day mode routes i attractions s := by
  induction attractions generalizing i s with
  | nil => rfl
  | cons a rest ih =>
    cases rest with
    | nil => rfl
    | cons b rest =>
      simp only [visitAllNoting, visitAll, outcome_bind, travelNoting_outcome, ih]

theorem travelNoting_asks (origin destination : Scheduling.Place) (legType : RouteLegType)
    (legIndex sourceIndex : Nat) (s : DayState) :
    Asks (travelNoting doubles day mode routes origin destination legType legIndex sourceIndex s)
      [(day.dayIndex, legType, legIndex)] :=
  asks_bind (asks_note _ _) fun _ _ => asks_pure _

theorem travelDepartureNoting_asks (attractions : List Attraction) (startHotel : Option Hotel)
    (s : DayState) :
    Asks (travelDepartureNoting doubles day mode routes attractions startHotel s)
      (if attractions ≠ [] ∧ startHotel.isSome then [(day.dayIndex, .hotelDeparture, 0)] else []) := by
  cases attractions with
  | nil => exact asks_pure s
  | cons a rest =>
    cases startHotel with
    | none => exact asks_pure s
    | some h => exact travelNoting_asks doubles day mode routes _ _ _ _ _ s

theorem travelReturnNoting_asks (attractions : List Attraction) (returnHotel : Option Hotel)
    (s : DayState) :
    Asks (travelReturnNoting doubles day mode routes attractions returnHotel s)
      (if attractions ≠ [] ∧ returnHotel.isSome then [(day.dayIndex, .hotelReturn, 0)] else []) := by
  unfold travelReturnNoting
  cases hlast : attractions.getLast? with
  | none =>
    rw [List.getLast?_eq_none_iff.mp hlast]
    exact asks_pure s
  | some a =>
    have hne : attractions ≠ [] := by
      rintro rfl
      cases hlast
    cases returnHotel with
    | none =>
      rw [if_neg fun h => Bool.noConfusion h.2]
      exact asks_pure s
    | some h =>
      rw [if_pos ⟨hne, rfl⟩]
      exact travelNoting_asks doubles day mode routes _ _ _ _ _ s

theorem visitAllNoting_asks (i : Nat) (attractions : List Attraction) (s : DayState) :
    Asks (visitAllNoting doubles day mode routes i attractions s)
      ((List.range' i (attractions.length - 1)).map fun j =>
        (day.dayIndex, .betweenAttractions, j)) := by
  induction attractions generalizing i s with
  | nil => exact asks_pure s
  | cons a rest ih =>
    cases rest with
    | nil => exact asks_pure _
    | cons b rest =>
      have hrange : List.range' i ((a :: b :: rest).length - 1) =
          [i] ++ List.range' (i + 1) ((b :: rest).length - 1) := by
        rw [List.length_cons, Nat.add_sub_cancel, List.length_cons, Nat.add_sub_cancel]
        rfl
      rw [hrange, List.map_append, visitAllNoting]
      exact asks_bind (travelNoting_asks doubles day mode routes _ _ _ _ _ _) fun s _ => ih (i + 1) s

end

section

variable (cfg : ScheduleTimelineEvaluator) (doubles : Doubles) (request : TripRequest)
  (plan : TripPlan) (routes : List RouteEstimate) (day : DayPlan) (position : Nat)

/-- Noting the keys changes nothing. -/
theorem evaluateDayNoting_outcome :
    (evaluateDayNoting cfg doubles request plan routes day position).outcome =
      evaluateDay cfg doubles request plan routes day position := by
  simp only [evaluateDayNoting, evaluateDay, outcome_bind, outcome_pure,
    travelDepartureNoting_outcome, visitAllNoting_outcome, travelReturnNoting_outcome]
  rfl

/-- The timeline looks up the keys of the day, each once and in their order. -/
theorem evaluateDayNoting_asks :
    Asks (evaluateDayNoting cfg doubles request plan routes day position)
      (dayLegKeys plan position day) := by
  simp only [dayLegKeys, List.range_eq_range', List.append_assoc]
  apply asks_bind (travelDepartureNoting_asks _ _ _ _ _ _ _)
  intro s _
  apply asks_bind (visitAllNoting_asks _ _ _ _ _ _ _)
  intro s _
  have hend := asks_bind (travelReturnNoting_asks doubles (dayFrame cfg day position)
    (dayRouteMode request day) routes day.attractions (resolveDayHotels plan position).2
    (appendLateLunch (dayFrame cfg day position) day.attractions s)) fun s _ =>
      asks_pure (dayQuality doubles (dayFrame cfg day position) day.date s)
  rwa [List.append_nil] at hend

end

def endsKey (day : DayPlan) (position : Nat) (ends : LegEnds) : LegKey :=
  (day.indexAt position, ends.legType, ends.legIndex)

theorem betweenAttractions_keys (day : DayPlan) (position : Nat) (attractions : List Attraction) :
    (betweenAttractions attractions).map (endsKey day position) =
      (List.range (attractions.length - 1)).map fun i =>
        (day.indexAt position, .betweenAttractions, i) := by
  apply List.ext_getElem
  · simp only [betweenAttractions, List.length_map, List.length_mapIdx, List.length_zip,
      List.length_tail, List.length_range]
    omega
  · intro i _ _
    simp only [betweenAttractions, endsKey, List.getElem_map, List.getElem_mapIdx,
      List.getElem_range]

/-- Both functions go through a day in the same way. -/
theorem dayLegs_keys (plan : TripPlan) (position : Nat) (day : DayPlan) :
    (dayLegs plan position day).map (endsKey day position) = dayLegKeys plan position day := by
  simp only [dayLegs, dayLegKeys, List.map_append, betweenAttractions_keys]
  congr 1
  · congr 1
    cases day.attractions with
    | nil => cases (resolveDayHotels plan position).1 with
      | none => rfl
      | some h => rfl
    | cons a rest => cases (resolveDayHotels plan position).1 with
      | none => rfl
      | some h => rfl
  · cases hlast : day.attractions.getLast? with
    | none =>
      rw [List.getLast?_eq_none_iff.mp hlast]
      rfl
    | some a =>
      have hne : day.attractions ≠ [] := by
        intro he
        rw [he] at hlast
        cases hlast
      cases (resolveDayHotels plan position).2 with
      | none =>
        rw [if_neg fun h => Bool.noConfusion h.2]
        rfl
      | some h =>
        rw [if_pos ⟨hne, rfl⟩]
        rfl

/-- Where one leg ends the next one begins. -/
def Linked (x y : LegEnds) : Prop :=
  x.destination = y.origin ∧ x.destinationIsHotel = y.originIsHotel

theorem betweenAttractions_cons (a b : Attraction) (rest : List Attraction) :
    ∃ x legs, betweenAttractions (a :: b :: rest) = x :: legs ∧
      x.origin = ofAttraction a ∧ x.originIsHotel = false := by
  rw [betweenAttractions, List.tail_cons, List.zip_cons_cons, List.mapIdx_cons]
  exact ⟨_, _, rfl, rfl, rfl⟩

theorem betweenAttractions_last (attractions : List Attraction) :
    ∀ x ∈ (betweenAttractions attractions).getLast?, ∃ a, attractions.getLast? = some a ∧
      x.destination = ofAttraction a ∧ x.destinationIsHotel = false := by
  intro x hx
  rw [betweenAttractions, List.getLast?_eq_getElem?] at hx
  simp only [List.length_mapIdx, List.length_zip, List.length_tail, Option.mem_def,
    List.getElem?_mapIdx, Option.map_eq_some_iff, List.getElem?_zip_eq_some, List.getElem?_tail] at hx
  obtain ⟨p, ⟨-, hp⟩, rfl⟩ := hx
  obtain ⟨hlt, -⟩ := List.getElem?_eq_some_iff.mp hp
  refine ⟨p.2, ?_, rfl, rfl⟩
  rw [List.getLast?_eq_getElem?, ← hp]
  congr 1
  omega

theorem betweenAttractions_chain (attractions : List Attraction) :
    (betweenAttractions attractions).IsChain Linked := by
  rw [List.isChain_iff_getElem]
  intro i hi
  simp only [betweenAttractions, List.length_mapIdx, List.length_zip, List.length_tail] at hi
  simp only [betweenAttractions, List.getElem_mapIdx, List.getElem_zip, List.getElem_tail]
  exact ⟨rfl, rfl⟩

theorem dayLegs_chain (plan : TripPlan) (position : Nat) (day : DayPlan) :
    (dayLegs plan position day).IsChain Linked := by
  have hback : (betweenAttractions day.attractions ++
      hotelReturn day.attractions.getLast? (resolveDayHotels plan position).2).IsChain Linked := by
    rw [List.isChain_append]
    refine ⟨betweenAttractions_chain _, ?_, ?_⟩
    · unfold hotelReturn
      split
      · exact List.isChain_singleton _
      · exact List.isChain_nil
    · intro x hx y hy
      obtain ⟨a, hlast, hdest, hhotel⟩ := betweenAttractions_last _ x hx
      rw [hlast] at hy
      cases hreturn : (resolveDayHotels plan position).2 with
      | none =>
        rw [hreturn] at hy
        cases hy
      | some h =>
        rw [hreturn] at hy
        obtain rfl := Option.some.inj hy
        exact ⟨hdest, hhotel⟩
  simp only [dayLegs, List.append_assoc]
  cases hattractions : day.attractions with
  | nil =>
    cases (resolveDayHotels plan position).1 with
    | none => exact List.isChain_nil
    | some h => exact List.isChain_nil
  | cons a rest =>
    rw [hattractions] at hback
    cases hstart : (resolveDayHotels plan position).1 with
    | none => exact hback
    | some h =>
      apply List.isChain_cons.mpr
      refine ⟨?_, hback⟩
      intro y hy
      cases rest with
      | cons b rest =>
        obtain ⟨x, legs, hlegs, horigin, hhotel⟩ := betweenAttractions_cons a b rest
        rw [hlegs] at hy
        obtain rfl := Option.some.inj hy
        exact ⟨horigin.symm, hhotel.symm⟩
      | nil =>
        cases hreturn : (resolveDayHotels plan position).2 with
        | none =>
          rw [hreturn] at hy
          cases hy
        | some h =>
          rw [hreturn] at hy
          obtain rfl := Option.some.inj hy
          exact ⟨rfl, rfl⟩

variable {sources : PointSources} {request : TripRequest} {plan : TripPlan}

/-- A request for a leg, with both its ends. -/
structure Requests (sources : PointSources) (day : DayPlan) (position : Nat) (ends : LegEnds)
    (r : RouteLegRequest) : Prop where
  key : requestKey r = endsKey day position ends
  origin : routePoint (if ends.originIsHotel then sources.hotel else sources.attraction)
    ends.origin = .ok r.origin
  destination : routePoint (if ends.destinationIsHotel then sources.hotel else sources.attraction)
    ends.destination = .ok r.destination

theorem legRequest_ok {day : DayPlan} {position : Nat} {ends : LegEnds} {r : RouteLegRequest}
    (h : legRequest sources request day position ends = .ok r) :
    Requests sources day position ends r := by
  unfold legRequest at h
  split at h
  · cases h
  · rename_i horigin
    split at h
    · cases h
    · rename_i hdestination
      cases h
      exact ⟨rfl, horigin, hdestination⟩

theorem requests_keys {day : DayPlan} {position : Nat} {ends : List LegEnds}
    {legs : List RouteLegRequest}
    (h : List.Forall₂ (Requests sources day position) ends legs) :
    legs.map requestKey = ends.map (endsKey day position) := by
  induction h with
  | nil => rfl
  | cons hr _ ih => rw [List.map_cons, List.map_cons, hr.key, ih]

/-- The next request starts from the same point of the same place. -/
theorem requests_chain {day : DayPlan} {position : Nat} {ends : List LegEnds}
    {legs : List RouteLegRequest}
    (h : List.Forall₂ (Requests sources day position) ends legs) (hc : ends.IsChain Linked) :
    legs.IsChain fun x y => x.destination = y.origin := by
  rw [List.isChain_iff_getElem] at hc ⊢
  intro i hi
  have hlen := h.length_eq
  have hi' : i + 1 < ends.length := by rwa [hlen]
  obtain ⟨hplace, hhotel⟩ := hc i hi'
  have hx : Requests sources day position ends[i] legs[i] := h.get (by omega) (by omega)
  have hy : Requests sources day position ends[i + 1] legs[i + 1] := h.get hi' hi
  have hdest := hx.destination
  rw [hplace, hhotel, hy.origin] at hdest
  exact (Except.ok.inj hdest).symm

/-- The legs of a day as they are requested, expected and looked up. -/
structure DayAgrees (plan : TripPlan) (day : DayPlan) (position : Nat)
    (legs : List RouteLegRequest) : Prop where
  expected : legs.map requestKey = dayLegKeys plan position day
  chained : legs.IsChain fun x y => x.destination = y.origin
  lookedUp : ∀ cfg doubles request routes,
    (evaluateDayNoting cfg doubles request plan routes day position).outcome =
        evaluateDay cfg doubles request plan routes day position ∧
      Asks (evaluateDayNoting cfg doubles request plan routes day position) (legs.map requestKey)

theorem dayLegs_agree {day : DayPlan} {position : Nat} {legs : List RouteLegRequest}
    (h : List.Forall₂ (Requests sources day position) (dayLegs plan position day) legs) :
    DayAgrees plan day position legs := by
  have hkeys : legs.map requestKey = dayLegKeys plan position day := by
    rw [requests_keys h, dayLegs_keys]
  refine ⟨hkeys, requests_chain h (dayLegs_chain plan position day), ?_⟩
  intro cfg doubles request routes
  rw [hkeys]
  exact ⟨evaluateDayNoting_outcome cfg doubles request plan routes day position,
    evaluateDayNoting_asks cfg doubles request plan routes day position⟩

/-- The requests of all days, day by day. -/
theorem buildRouteLegs_days {legs : List RouteLegRequest}
    (h : buildRouteLegs sources request plan = .ok legs) :
    ∃ perDay : List (List RouteLegRequest), perDay.flatten = legs ∧
      List.Forall₂ (fun d legs => DayAgrees plan d.1 d.2 legs) plan.days.zipIdx perDay := by
  obtain ⟨perDay, hflat, hall⟩ := Attempts.mapM_flatten_ok h
  refine ⟨perDay, hflat, ?_⟩
  rw [List.mapIdx_eq_zipIdx_map, List.forall₂_map_left_iff] at hall
  refine hall.imp ?_
  intro d legs hd
  have hpairs := Attempts.mapM_pairs hd
  rw [List.forall₂_map_left_iff] at hpairs
  exact dayLegs_agree (hpairs.imp fun _ _ hleg => legRequest_ok hleg)

/-- What is requested is what is expected, in the same order, and day by day the
timeline looks up just that. -/
theorem route_legs_agree {legs : List RouteLegRequest}
    (h : buildRouteLegs sources request plan = .ok legs) :
    legs.map requestKey = expectedRouteLegKeys plan ∧
      ∃ perDay : List (List RouteLegRequest), perDay.flatten = legs ∧
        List.Forall₂ (fun d legs => DayAgrees plan d.1 d.2 legs) plan.days.zipIdx perDay := by
  obtain ⟨perDay, hflat, hall⟩ := buildRouteLegs_days h
  refine ⟨?_, perDay, hflat, hall⟩
  have hkeys : perDay.map (·.map requestKey) =
      plan.days.zipIdx.map fun d => dayLegKeys plan d.2 d.1 := by
    clear hflat
    generalize plan.days.zipIdx = days at hall ⊢
    induction hall with
    | nil => rfl
    | cons hd _ ih => rw [List.map_cons, List.map_cons, hd.expected, ih]
  rw [expectedRouteLegKeys, List.flatMap_def, ← hkeys, ← List.map_flatten, hflat]

def plainSources : PointSources :=
  { attraction := fun place => (place.poiId, "021")
    hotel := fun place => (place.poiId, "021") }

/-- From the hotel, between two sights and back. -/
theorem city_legs_agree :
    ∃ legs, buildRouteLegs plainSources Scheduling.cityRequest
        (Scheduling.cityPlan [Scheduling.sight "外滩" 90, Scheduling.sight "豫园" 120] []) = .ok legs ∧
      legs.map requestKey =
        [(0, .hotelDeparture, 0), (0, .betweenAttractions, 0), (0, .hotelReturn, 0)] ∧
      legs.map requestKey = expectedRouteLegKeys
        (Scheduling.cityPlan [Scheduling.sight "外滩" 90, Scheduling.sight "豫园" 120] []) := by
  have hrun : (buildRouteLegs plainSources Scheduling.cityRequest
      (Scheduling.cityPlan [Scheduling.sight "外滩" 90, Scheduling.sight "豫园" 120] [])).toOption.map
        (·.map requestKey) =
          some [(0, .hotelDeparture, 0), (0, .betweenAttractions, 0), (0, .hotelReturn, 0)] := by
    decide +kernel
  cases h : buildRouteLegs plainSources Scheduling.cityRequest
      (Scheduling.cityPlan [Scheduling.sight "外滩" 90, Scheduling.sight "豫园" 120] []) with
  | error e =>
    rw [h] at hrun
    cases hrun
  | ok legs =>
    rw [h] at hrun
    exact ⟨legs, rfl, Option.some.inj hrun, (route_legs_agree h).1⟩

end TravelAgent.RouteKeys

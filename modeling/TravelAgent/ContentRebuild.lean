import TravelAgent.Itinerary

namespace TravelAgent.ContentRebuild

open TravelAgent.Itinerary TravelAgent.Texts
open TravelAgent.TaskStore (pySpace)

/-- What the rebuilt texts take from elsewhere: distances in print, the meals
and the budget, and whether the timeline at hand has no overtime. -/
structure Rebuilder where
  kilometers : Nat → String
  buildMeals : TripRequest → List Attraction → Int → Option Hotel → Option Hotel → List Meal
  buildBudget : TripPlan → List RouteEstimate → Budget
  onTime : Bool

/-- `_MODE_LABELS` -/
def label : RouteMode → String
  | .walking => "步行"
  | .driving => "驾车"
  | .transit => "公共交通"

/-- `_LEG_ORDER` -/
def legOrder : RouteLegType → Nat
  | .hotelDeparture => 0
  | .betweenAttractions => 1
  | .hotelReturn => 2

def usable (r : RouteEstimate) : Bool := r.available && r.durationSeconds.isSome

def legBefore (r q : RouteEstimate) : Bool :=
  decide (legOrder r.legType < legOrder q.legType ∨
    (legOrder r.legType = legOrder q.legType ∧ r.legIndex ≤ q.legIndex))

def segment (rb : Rebuilder) (r : RouteEstimate) : String :=
  let minutes := max 1 ((r.durationSeconds.getD 0 + 59) / 60)
  let distance := (r.distanceMeters.map fun m => "，约" ++ rb.kilometers m ++ "公里").getD ""
  r.originName ++ "→" ++ r.destinationName ++ "（" ++ label r.mode ++ "约" ++ toString minutes ++
    "分钟" ++ distance ++ "）"

def routeText (m : RouteMode) (segments : String) : String :=
  "出行方式：" ++ label m ++ "；" ++ segments ++ "。"

def suggestionText (m : RouteMode) (names : String) : String :=
  "建议以" ++ label m ++ "依次前往" ++ names ++ "，出发前再次确认实时路线。"

def freeDayText (m : RouteMode) : String := "当日无固定景点路线，市内活动建议使用" ++ label m ++ "。"

def names (attractions : List Attraction) : String := "→".intercalate (attractions.map (·.name))

/-- `_transportation_description` -/
def transportationDescription (rb : Rebuilder) (request : TripRequest)
    (attractions : List Attraction) (routes : List RouteEstimate) (existingTransportation : String) :
    String :=
  let mode := normalizeTransportationMode
    (if existingTransportation.isEmpty then request.transportation else existingTransportation)
  let segments := (routes.filter usable).map (segment rb)
  if segments.isEmpty then
    if attractions.isEmpty then freeDayText mode else suggestionText mode (names attractions)
  else routeText mode ("；".intercalate segments)

/-- `_day_description` -/
def dayDescription (date : String) (attractions : List Attraction) : String :=
  if attractions.isEmpty then
    date ++ " 暂无固定景点安排，可在酒店或市区周边自由活动并预留休息时间。"
  else
    let minutes := (attractions.map fun a => max 0 a.visitDuration).sum
    date ++ " 按顺序游览" ++ "、".intercalate (attractions.map (·.name)) ++ "，景点游览时间合计约" ++
      toString minutes ++ "分钟。"

/-- `_accommodation_description` -/
def accommodationDescription (request : TripRequest) : Option Hotel → String
  | none => "当日未绑定具体酒店，按“" ++ request.accommodation ++ "”偏好自行确认住宿或返程。"
  | some h =>
    let cost := if 0 < h.estimatedCost then "，预计" ++ toString h.estimatedCost ++ "元/晚" else ""
    let address := if h.address.isEmpty then "地址以预订信息为准" else h.address
    "入住" ++ h.name ++ "（" ++ address ++ cost ++ "）。"

/-- `_overall_suggestions` -/
def overallSuggestions (rb : Rebuilder) (request : TripRequest) (plan : TripPlan) : String :=
  let visited := plan.days.flatMap fun day => day.attractions.map (·.name)
  let content :=
    if visited.isEmpty then "当前没有可执行的固定景点，请补充候选景点后再出发。"
    else "本次行程包含" ++ "、".intercalate visited ++ "，请提前核对开放时间并按最终顺序出行。"
  content ++ (if rb.onTime then " 当前时间轴无超时，仍建议每天预留机动时间。" else "") ++
    " 市内交通按“" ++ request.transportation ++ "”规划，费用与班次以出行当日实时信息为准。"

def routesOfDay (routes : List RouteEstimate) (index : Int) : List RouteEstimate :=
  (routes.filter fun r => decide ((r.dayIndex : Int) = index)).mergeSort legBefore

def rebuildDay (rb : Rebuilder) (request : TripRequest) (plan : TripPlan)
    (routes : List RouteEstimate) (position : Nat) (day : DayPlan) : DayPlan :=
  let index := day.indexAt position
  let (startHotel, returnHotel) := resolveDayHotels plan position
  { day with
    description := dayDescription day.date day.attractions
    transportation := transportationDescription rb request day.attractions
      (routesOfDay routes index) day.transportation
    accommodation := accommodationDescription request day.hotel
    meals := rb.buildMeals request day.attractions index startHotel returnHotel }

def rebuild (rb : Rebuilder) (request : TripRequest) (plan : TripPlan)
    (routes : Option (List RouteEstimate)) : TripPlan :=
  let routes := routes.getD []
  let rebuilt := { plan with days := plan.days.mapIdx (rebuildDay rb request plan routes) }
  let rebuilt := { rebuilt with budget := some (rb.buildBudget rebuilt routes) }
  { rebuilt with overallSuggestions := overallSuggestions rb request rebuilt }

def missingInputs : String := "Trip plan and route estimates are required for rebuilding"

def changedRouteInputs : String := "Consistency rebuild unexpectedly changed route inputs"

/-- `_rebuild_plan_content`, up to the plan that it installs. -/
def rebuildPlanContent {F : Type} [DecidableEq F] (digest : RouteInputs → F) (rb : Rebuilder)
    (request : TripRequest) : Option TripPlan → Option (List RouteEstimate) →
    Except String TripPlan
  | some plan, some routes =>
    let rebuilt := rebuild rb request plan (some routes)
    if planRouteFingerprint digest request rebuilt = planRouteFingerprint digest request plan then
      .ok rebuilt
    else .error changedRouteInputs
  | _, _ => .error missingInputs

/-- The place of a mode in the order in which its markers are looked up. -/
def rank : RouteMode → Nat
  | .transit => 0
  | .driving => 1
  | .walking => 2

/-- Names that leave a suggested mode as it is: they declare no other one and
have no marker of a mode that is looked up before it. -/
def Steady (m : RouteMode) (text : List Char) : Prop :=
  match declaredMode text with
  | some d => d = m
  | none => ∀ k, rank k < rank m → k.marked text = false

/-- A text between two fixed ones that start and end without a blank. -/
theorem normalizeText_between {l r : String} (m : String)
    (hl : l.toList.head?.any (fun c => !pySpace c) = true)
    (hr : r.toList.getLast?.any (fun c => !pySpace c) = true)
    (hll : lower l.toList = l.toList) (hlr : lower r.toList = r.toList) :
    normalizeText (l ++ m ++ r) = l.toList ++ lower m.toList ++ r.toList := by
  rw [normalizeText, String.toList_append, String.toList_append, trim_between m.toList hl hr,
    lower_append, lower_append, hll, hlr]

theorem routeText_mode (m : RouteMode) (segments : String) :
    normalizeTransportationMode (routeText m segments) = m := by
  have htext : normalizeText (routeText m segments) =
      ("出行方式：" ++ label m ++ "；").toList ++ lower segments.toList ++ "。".toList := by
    unfold routeText
    cases m <;> exact normalizeText_between segments (by decide) (by decide)
      (lower_uncased (by decide)) (lower_uncased (by decide))
  have hlead : ("出行方式：" ++ label m ++ "；").toList =
      "出行方式".toList ++ ('：' :: (label m).toList ++ ['；']) := by
    cases m <;> decide
  have hbehind : behind "出行方式".toList (normalizeText (routeText m segments)) =
      some (('：' :: (label m).toList ++ ['；']) ++ lower segments.toList ++ "。".toList) := by
    rw [htext, hlead, List.append_assoc, List.append_assoc, behind_append_self (by decide)]
    simp only [List.append_assoc]
  have hpart : declaredPart
      (('：' :: (label m).toList ++ ['；']) ++ lower segments.toList ++ "。".toList) =
        (label m).toList := by
    cases m <;> rfl
  have hmatch : matchTransportationMode (label m).toList = some m := by
    cases m <;> decide
  have hdeclared : declaredMode (normalizeText (routeText m segments)) = some m := by
    rw [declaredMode, declarations, List.findSome?_cons, hbehind, Option.bind_some, hpart, hmatch]
  rw [normalizeTransportationMode, hdeclared, Option.getD_some]

theorem freeDayText_mode (m : RouteMode) : normalizeTransportationMode (freeDayText m) = m := by
  have htrim : trim pySpace (freeDayText m).toList = (freeDayText m).toList := by
    cases m <;> decide
  have hlower : lower (freeDayText m).toList = (freeDayText m).toList := by
    apply lower_uncased
    cases m <;> decide
  rw [normalizeTransportationMode, normalizeText, htrim, hlower]
  cases m <;> decide

def lead (m : RouteMode) : List Char := ("建议以" ++ label m ++ "依次前").toList

def tail : List Char := "出发前再次确认实时路线。".toList

theorem suggestion_text (m : RouteMode) (names : String) :
    normalizeText (suggestionText m names) =
      lead m ++ '往' :: (lower names.toList ++ '，' :: tail) := by
  have htext : normalizeText (suggestionText m names) =
      ("建议以" ++ label m ++ "依次前往").toList ++ lower names.toList ++
        "，出发前再次确认实时路线。".toList := by
    unfold suggestionText
    cases m <;> exact normalizeText_between names (by decide) (by decide)
      (lower_uncased (by decide)) (lower_uncased (by decide))
  have hlead : ("建议以" ++ label m ++ "依次前往").toList = lead m ++ ['往'] := by
    cases m <;> decide
  have htail : "，出发前再次确认实时路线。".toList = '，' :: tail := by decide
  rw [htext, hlead, htail, List.append_assoc, List.append_assoc, List.singleton_append]

/-- A symbol that no marker and no declaration has. -/
def Separates (c : Char) : Prop :=
  (∀ k : RouteMode, ∀ w ∈ k.markers, c ∉ w.toList) ∧ ∀ w ∈ declarations, c ∉ w.toList

theorem separates_wang : Separates '往' := by
  refine ⟨?_, by decide⟩
  intro k
  cases k <;> decide

theorem separates_comma : Separates '，' := by
  refine ⟨?_, by decide⟩
  intro k
  cases k <;> decide

theorem marker_ne_nil (k : RouteMode) : ∀ w ∈ k.markers, w.toList ≠ [] := by
  cases k <;> decide

theorem marked_append_cons {c : Char} (hc : Separates c) (k : RouteMode) (a b : List Char) :
    k.marked (a ++ c :: b) = (k.marked a || k.marked b) := by
  have hmarker : ∀ w ∈ k.markers, contains (a ++ c :: b) w.toList =
      (contains a w.toList || contains b w.toList) := by
    intro w hw
    exact contains_append_cons (hc.1 k w hw) (marker_ne_nil k w hw)
  rw [Bool.eq_iff_iff]
  simp only [RouteMode.marked, List.any_eq_true, Bool.or_eq_true]
  constructor
  · rintro ⟨w, hw, h⟩
    rw [hmarker w hw, Bool.or_eq_true] at h
    exact h.imp (fun ha => ⟨w, hw, ha⟩) fun hb => ⟨w, hw, hb⟩
  · rintro (⟨w, hw, h⟩ | ⟨w, hw, h⟩)
    · exact ⟨w, hw, by rw [hmarker w hw, h, Bool.true_or]⟩
    · exact ⟨w, hw, by rw [hmarker w hw, h, Bool.or_true]⟩

theorem match_congr {a b : List Char} (h : ∀ k : RouteMode, k.marked a = k.marked b) :
    matchTransportationMode a = matchTransportationMode b := by
  simp only [matchTransportationMode, List.find?_cons, h]

theorem lead_marked (m k : RouteMode) : k.marked (lead m) = decide (k = m) := by
  cases m <;> cases k <;> decide

theorem tail_marked (k : RouteMode) : k.marked tail = false := by
  cases k <;> decide

/-- A clause of the names is cut where it ends in the names, or goes on to the
end of the sentence. -/
theorem declaredPart_append (r : List Char) :
    declaredPart (r ++ '，' :: tail) = declaredPart r ∨
      declaredPart (r ++ '，' :: tail) = declaredPart r ++ '，' :: declaredPart tail := by
  have hdrop : (r ++ '，' :: tail).dropWhile (" \t:：".toList.contains ·) =
      r.dropWhile (" \t:：".toList.contains ·) ++ '，' :: tail := by
    rw [List.dropWhile_append]
    cases hr : r.dropWhile (" \t:：".toList.contains ·) with
    | nil => rfl
    | cons a l => rfl
  have htail : declaredPart ('，' :: tail) = '，' :: declaredPart tail := by decide
  simp only [declaredPart, List.takeWhile_takeWhile] at htail ⊢
  rw [hdrop, List.takeWhile_append]
  split
  · rename_i hall
    refine Or.inr ?_
    have hself := (List.takeWhile_prefix _).eq_of_length hall
    rw [hself]
    exact congrArg (_ ++ ·) htail
  · exact Or.inl rfl

/-- What follows a declaration in the names is read as in the names alone. -/
theorem declaredPart_match (r : List Char) :
    matchTransportationMode (declaredPart (r ++ '，' :: tail)) =
      matchTransportationMode (declaredPart r) := by
  have htail : ∀ k : RouteMode, k.marked (declaredPart tail) = false := by
    intro k
    cases k <;> decide
  obtain h | h := declaredPart_append r
  · rw [h]
  · rw [h]
    apply match_congr
    intro k
    rw [marked_append_cons separates_comma, htail, Bool.or_false]

theorem declaredMode_suggestion (m : RouteMode) (names : String) :
    declaredMode (normalizeText (suggestionText m names)) = declaredMode (lower names.toList) := by
  have hlead : ∀ w ∈ declarations, behind w.toList (lead m) = none := by
    cases m <;> decide
  have htail : ∀ w ∈ declarations, behind w.toList tail = none := by decide
  have hne : ∀ w ∈ declarations, w.toList ≠ [] := by decide
  have hword : ∀ w ∈ declarations,
      ((behind w.toList (normalizeText (suggestionText m names))).bind fun rest =>
        matchTransportationMode (declaredPart rest)) =
      (behind w.toList (lower names.toList)).bind fun rest =>
        matchTransportationMode (declaredPart rest) := by
    intro w hw
    rw [suggestion_text, behind_append_cons (separates_wang.2 w hw) (hne w hw), hlead w hw,
      behind_append_cons (separates_comma.2 w hw) (hne w hw), htail w hw]
    cases behind w.toList (lower names.toList) with
    | none => rfl
    | some r => exact declaredPart_match r
  simp only [declaredMode, declarations, List.forall_mem_cons, List.findSome?_cons,
    List.findSome?_nil] at hword ⊢
  rw [hword.1, hword.2.1, hword.2.2.1, hword.2.2.2.1]

/-- The suggested mode is read back exactly when the names leave it as it is. -/
theorem suggestionText_mode_iff (m : RouteMode) (names : String) :
    normalizeTransportationMode (suggestionText m names) = m ↔ Steady m (lower names.toList) := by
  have hmarked : ∀ k : RouteMode, k.marked (normalizeText (suggestionText m names)) =
      (decide (k = m) || k.marked (lower names.toList)) := by
    intro k
    rw [suggestion_text, marked_append_cons separates_wang, marked_append_cons separates_comma,
      lead_marked, tail_marked, Bool.or_false]
  rw [normalizeTransportationMode, declaredMode_suggestion, Steady]
  cases declaredMode (lower names.toList) with
  | some d => rfl
  | none =>
    have hall : (∀ k, rank k < rank m → k.marked (lower names.toList) = false) ↔
        (rank .transit < rank m → RouteMode.transit.marked (lower names.toList) = false) ∧
          (rank .driving < rank m → RouteMode.driving.marked (lower names.toList) = false) := by
      constructor
      · intro h
        exact ⟨h .transit, h .driving⟩
      · rintro ⟨ht, hd⟩ k hk
        cases k with
        | transit => exact ht hk
        | driving => exact hd hk
        | walking => cases m <;> simp [rank] at hk
    simp only [Option.getD_none, matchTransportationMode, List.find?_cons, hmarked, hall]
    cases m <;> cases RouteMode.transit.marked (lower names.toList) <;>
      cases RouteMode.driving.marked (lower names.toList) <;> simp [rank]

/-- Where the text of a day keeps its mode: it has no attractions, or a usable
route, or names that leave the mode as it is. -/
def Settled (request : TripRequest) (routes : List RouteEstimate) (position : Nat) (day : DayPlan) :
    Prop :=
  day.attractions = [] ∨ (∃ r ∈ routes, (r.dayIndex : Int) = day.indexAt position ∧ usable r = true) ∨
    Steady (dayRouteMode request day) (lower (names day.attractions).toList)

theorem usable_segments (rb : Rebuilder) (routes : List RouteEstimate) (index : Int) :
    (((routesOfDay routes index).filter usable).map (segment rb)).isEmpty = false ↔
      ∃ r ∈ routes, (r.dayIndex : Int) = index ∧ usable r = true := by
  rw [List.isEmpty_map, List.isEmpty_eq_false_iff_exists_mem]
  simp only [routesOfDay, List.mem_filter, List.mem_mergeSort, decide_eq_true_eq, and_assoc]

theorem description_ne_empty (rb : Rebuilder) (request : TripRequest)
    (attractions : List Attraction) (routes : List RouteEstimate) (existing : String) :
    (transportationDescription rb request attractions routes existing).isEmpty = false := by
  have happend : ∀ a b : String, b ≠ "" → (a ++ b).isEmpty = false := by
    intro a b hb
    rw [Bool.eq_false_iff, ne_eq, String.isEmpty_iff, String.append_eq_empty_iff]
    exact fun h => hb h.2
  simp only [transportationDescription]
  split
  · split
    · unfold freeDayText
      exact happend _ _ (by decide)
    · unfold suggestionText
      exact happend _ _ (by decide)
  · unfold routeText
    exact happend _ _ (by decide)

theorem description_mode_iff (rb : Rebuilder) (request : TripRequest) (routes : List RouteEstimate)
    (position : Nat) (day : DayPlan) :
    normalizeTransportationMode (transportationDescription rb request day.attractions
        (routesOfDay routes (day.indexAt position)) day.transportation) = dayRouteMode request day ↔
      Settled request routes position day := by
  have husable := usable_segments rb routes (day.indexAt position)
  simp only [transportationDescription, Settled]
  rw [← husable]
  cases (((routesOfDay routes (day.indexAt position)).filter usable).map (segment rb)).isEmpty with
  | false =>
    simp only [Bool.false_eq_true, ↓reduceIte, true_or, or_true, iff_true]
    exact routeText_mode _ _
  | true =>
    by_cases hnone : day.attractions = []
    · simp only [hnone, List.isEmpty_nil, ↓reduceIte, true_or, iff_true]
      exact freeDayText_mode _
    · have hsome : day.attractions.isEmpty = false := by simpa using hnone
      simp only [hnone, hsome, ↓reduceIte, Bool.false_eq_true, Bool.true_eq_false, false_or]
      exact suggestionText_mode_iff (dayRouteMode request day) _

theorem rebuildDay_mode_iff (rb : Rebuilder) (request : TripRequest) (plan : TripPlan)
    (routes : List RouteEstimate) (position : Nat) (day : DayPlan) :
    dayRouteMode request (rebuildDay rb request plan routes position day) = dayRouteMode request day ↔
      Settled request routes position day := by
  rw [← description_mode_iff rb request routes position day]
  have htext := description_ne_empty rb request day.attractions
    (routesOfDay routes (day.indexAt position)) day.transportation
  simp only [dayRouteMode, rebuildDay, htext, Bool.false_eq_true, ↓reduceIte]

/-- A rebuilt day differs in its route inputs by its mode at most. -/
theorem rebuildDay_inputs (rb : Rebuilder) (request : TripRequest) (plan : TripPlan)
    (routes : List RouteEstimate) (position : Nat) (day : DayPlan) :
    dayRouteInputs request (rebuildDay rb request plan routes position day) =
      { dayRouteInputs request day with
        transportationMode :=
          dayRouteMode request (rebuildDay rb request plan routes position day) } := rfl

theorem rebuild_days (rb : Rebuilder) (request : TripRequest) (plan : TripPlan)
    (routes : Option (List RouteEstimate)) :
    (rebuild rb request plan routes).days =
      plan.days.mapIdx (rebuildDay rb request plan (routes.getD [])) := rfl

/-- Every day of a rebuilt plan keeps its mode exactly when every day is settled. -/
theorem rebuild_modes_iff (rb : Rebuilder) (request : TripRequest) (plan : TripPlan)
    (routes : Option (List RouteEstimate)) :
    (rebuild rb request plan routes).days.map (dayRouteMode request) =
        plan.days.map (dayRouteMode request) ↔
      ∀ position day, plan.days[position]? = some day →
        Settled request (routes.getD []) position day := by
  rw [rebuild_days]
  constructor
  · intro h position day hday
    have hi := congrArg (·[position]?) h
    simp only [List.getElem?_map, List.getElem?_mapIdx, hday, Option.map_some, Option.some.injEq] at hi
    exact (rebuildDay_mode_iff rb request plan (routes.getD []) position day).mp hi
  · intro h
    apply List.ext_getElem?
    intro position
    rw [List.getElem?_map, List.getElem?_mapIdx, List.getElem?_map]
    cases hday : plan.days[position]? with
    | none => rfl
    | some day =>
      have hmode := (rebuildDay_mode_iff rb request plan (routes.getD []) position day).mpr
        (h position day hday)
      exact congrArg some hmode

theorem routeInputs_modes (request : TripRequest) (plan : TripPlan) :
    (routeInputs request plan).days.map DayRouteInputs.transportationMode =
      plan.days.map (dayRouteMode request) := by
  rw [routeInputs, List.map_map]
  apply List.map_congr_left
  intro day _
  rw [Function.comp_apply, dayRouteInputs]

theorem rebuild_inputs {rb : Rebuilder} {request : TripRequest} {plan : TripPlan}
    {routes : Option (List RouteEstimate)}
    (h : (rebuild rb request plan routes).days.map (dayRouteMode request) =
      plan.days.map (dayRouteMode request)) :
    routeInputs request (rebuild rb request plan routes) = routeInputs request plan := by
  have hdays : (rebuild rb request plan routes).days.map (dayRouteInputs request) =
      plan.days.map (dayRouteInputs request) := by
    rw [rebuild_days] at h ⊢
    apply List.ext_getElem?
    intro position
    have hi := congrArg (·[position]?) h
    simp only [List.getElem?_map, List.getElem?_mapIdx] at hi ⊢
    cases hday : plan.days[position]? with
    | none => rfl
    | some day =>
      simp only [hday, Option.map_some, Option.some.injEq] at hi
      have hin := rebuildDay_inputs rb request plan (routes.getD []) position day
      simp only [Option.map_some]
      rw [hin, hi]
      rfl
  rw [routeInputs, hdays, routeInputs]

/-- Rebuilding keeps the route fingerprint and the mode of every day, and the
action raises no mismatch, exactly when every day is settled. -/
theorem rebuild_keeps_routes_iff {F : Type} [DecidableEq F] (digest : RouteInputs → F)
    (rb : Rebuilder) (request : TripRequest) (plan : TripPlan) (routes : Option (List RouteEstimate)) :
    (planRouteFingerprint digest request (rebuild rb request plan routes) =
        planRouteFingerprint digest request plan ∧
      (rebuild rb request plan routes).days.map (dayRouteMode request) =
        plan.days.map (dayRouteMode request) ∧
      rebuildPlanContent digest rb request (some plan) routes ≠ .error changedRouteInputs) ↔
      ∀ position day, plan.days[position]? = some day →
        Settled request (routes.getD []) position day := by
  rw [← rebuild_modes_iff rb request plan routes]
  constructor
  · rintro ⟨_, hmodes, _⟩
    exact hmodes
  · intro hmodes
    have hfp : planRouteFingerprint digest request (rebuild rb request plan routes) =
        planRouteFingerprint digest request plan := congrArg digest (rebuild_inputs hmodes)
    refine ⟨hfp, hmodes, ?_⟩
    cases routes with
    | none =>
      intro h
      exact absurd (Except.error.inj h) (by decide)
    | some routes =>
      intro h
      rw [rebuildPlanContent, if_pos hfp] at h
      cases h

def drivingTrip : TripRequest :=
  { city := "上海", startDate := "2026-05-01", endDate := "2026-05-01", travelDays := 1,
    transportation := "自驾", accommodation := "经济型酒店" }

def sight (name : String) : Attraction :=
  { name := name, address := "上海市", location := ⟨.finite 121, .finite 31⟩, visitDuration := 90,
    description := "" }

def museumDay : DayPlan :=
  { date := "2026-05-01", dayIndex := 0, description := "", transportation := "自驾",
    accommodation := "", attractions := [sight "外滩", sight "上海公交博物馆"] }

def museumPlan : TripPlan :=
  { city := "上海", startDate := "2026-05-01", endDate := "2026-05-01", days := [museumDay],
    overallSuggestions := "" }

def closedRoad : RouteEstimate :=
  { dayIndex := 0, legIndex := 0, originName := "外滩", destinationName := "上海公交博物馆",
    mode := .driving, available := false }

def plainRebuilder : Rebuilder := ⟨toString, fun _ _ _ _ _ => [], fun _ _ => {}, true⟩

/-- Without a usable route the name of a museum turns a day by car into one by
public transport. -/
theorem museum_name_changes_mode :
    museumPlan.days.map (dayRouteMode drivingTrip) = [.driving] ∧
      (rebuild plainRebuilder drivingTrip museumPlan (some [closedRoad])).days.map
        (dayRouteMode drivingTrip) = [.transit] ∧
      ∀ (F : Type) [DecidableEq F] (digest : RouteInputs → F), Function.Injective digest →
        planRouteFingerprint digest drivingTrip
            (rebuild plainRebuilder drivingTrip museumPlan (some [closedRoad])) ≠
          planRouteFingerprint digest drivingTrip museumPlan ∧
        rebuildPlanContent digest plainRebuilder drivingTrip (some museumPlan) (some [closedRoad]) =
          .error changedRouteInputs := by
  have hbefore : museumPlan.days.map (dayRouteMode drivingTrip) = [.driving] := by decide
  have hafter : (rebuild plainRebuilder drivingTrip museumPlan (some [closedRoad])).days.map
      (dayRouteMode drivingTrip) = [.transit] := by
    decide +kernel
  refine ⟨hbefore, hafter, ?_⟩
  intro F _ digest hinj
  have hfp : planRouteFingerprint digest drivingTrip
      (rebuild plainRebuilder drivingTrip museumPlan (some [closedRoad])) ≠
        planRouteFingerprint digest drivingTrip museumPlan := by
    intro h
    have hdays := congrArg RouteInputs.days (hinj h)
    have hmodes := congrArg (List.map DayRouteInputs.transportationMode) hdays
    rw [routeInputs_modes, routeInputs_modes, hbefore, hafter] at hmodes
    exact absurd hmodes (by decide)
  refine ⟨hfp, ?_⟩
  rw [rebuildPlanContent, if_neg hfp]

end TravelAgent.ContentRebuild

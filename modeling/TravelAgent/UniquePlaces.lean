import TravelAgent.ConstraintRepairs
import TravelAgent.DuplicateCheck
import TravelAgent.PlanProperties
import TravelAgent.RemoteReplacement
import TravelAgent.RouteOrders
import TravelAgent.ScheduleMoves

namespace TravelAgent.UniquePlaces

open TravelAgent.Itinerary TravelAgent.ContentRebuild TravelAgent.Agent TravelAgent.Transition
open TravelAgent.AttractionRefill TravelAgent.PlanEdits TravelAgent.Identities
open TravelAgent.DuplicateCheck TravelAgent.PlanProperties TravelAgent.Regrouping

variable {F D : Type}

section Refill

variable (o : RefillOptimizer D) (request : TripRequest)

/-- The candidates of the pool that the refill takes for unused. -/
def usableSources (plan : TripPlan) (attractions : Option D) (excluded : List String) :
    List AttractionCandidate :=
  (o.sourceCandidates attractions).filter fun c =>
    decide (contentAttractionIdentity c.poiId c.name ∉ usedIdentities plan ++ excluded)

/-- One place at most is missing, or no two usable candidates are one place. -/
def Apart (plan : TripPlan) (attractions : Option D) (excluded : List String) : Prop :=
  requiredTotal o.minimumTotalAttractions request plan ≤ countAttractions plan + 1 ∨
    ((usableSources o plan attractions excluded).map fun c =>
      attractionIdentity (toAttraction o c)).Nodup

instance (plan : TripPlan) (attractions : Option D) (excluded : List String) :
    Decidable (Apart o request plan attractions excluded) :=
  inferInstanceAs (Decidable (_ ∨ _))

variable {o request}

theorem visits_place (plan : TripPlan) (p : Placement) :
    visits (place o plan p) ≤ toAttraction o p.source ::ₘ visits plan :=
  visits_putIn plan p.day p.insertionIndex (toAttraction o p.source)

theorem placement_source {plan : TripPlan} {available : List (Nat × AttractionCandidate)}
    {p : Placement} (h : p ∈ placements plan available) :
    ∃ hp : p.position < available.length, available[p.position].2 = p.source := by
  simp only [placements, List.mem_flatMap, List.mem_map, List.mem_range] at h
  obtain ⟨⟨c, i⟩, hc, d, -, index, -, rfl⟩ := h
  obtain ⟨hi, he⟩ := List.mem_zipIdx' hc
  exact ⟨hi, congrArg Prod.snd he.symm⟩

/-- Candidates that are apart from each other and from the plan stay so as they go in. -/
theorem refillLoop_separate {required n : Nat} {w w' : Progress}
    (h : refillLoop o request required n w = some w')
    (hs : Separate attractionIdentity
      ((w.available.map fun c => toAttraction o c.2 : List Attraction) + visits w.plan)) :
    Unrepeated w'.plan := by
  induction n generalizing w with
  | zero =>
    cases h
    exact hs.mono (Multiset.le_add_left _ _)
  | succ n ih =>
    simp only [refillLoop] at h
    split at h
    · split at h
      · cases h
      · rename_i p hp
        obtain he | hm := best_mem o request w.plan _ none hp
        · cases he
        · obtain ⟨hpos, hsource⟩ := placement_source (List.mem_of_mem_take hm)
          have htaken : (w.available.map fun c => toAttraction o c.2 : List Attraction).Perm
              (toAttraction o p.source ::
                (w.available.eraseIdx p.position).map fun c => toAttraction o c.2) := by
            rw [← hsource]
            exact ((List.getElem_cons_eraseIdx_perm hpos).map fun c => toAttraction o c.2).symm
          refine ih h (hs.mono ?_)
          rw [Multiset.coe_eq_coe.mpr htaken, ← Multiset.cons_coe, Multiset.cons_add,
            ← Multiset.add_cons]
          exact (add_le_add_iff_left _).mpr (visits_place w.plan p)
    · cases h
      exact hs.mono (Multiset.le_add_left _ _)

theorem refillLoop_enough {required n : Nat} {w w' : Progress}
    (h : refillLoop o request required n w = some w') (hr : required ≤ countAttractions w.plan) :
    w' = w := by
  cases n with
  | zero => exact (Option.some.inj h).symm
  | succ n =>
    rw [refillLoop, if_neg (fun hn => absurd hn.1 (Nat.not_lt.mpr hr))] at h
    exact (Option.some.inj h).symm

/-- With one place missing, one candidate goes in. -/
theorem refillLoop_once {required n : Nat} {w w' : Progress}
    (h : refillLoop o request required n w = some w')
    (hr : required ≤ countAttractions w.plan + 1) :
    w'.plan = w.plan ∨ ∃ p ∈ placements w.plan w.available, w'.plan = place o w.plan p := by
  cases n with
  | zero =>
    cases h
    exact Or.inl rfl
  | succ n =>
    simp only [refillLoop] at h
    split at h
    · split at h
      · cases h
      · rename_i p hp
        obtain he | hm := best_mem o request w.plan _ none hp
        · cases he
        · have hm := List.mem_of_mem_take hm
          have hcount := place_count o hm
          rw [refillLoop_enough h (by simp only; omega)]
          exact Or.inr ⟨p, hm, rfl⟩
    · cases h
      exact Or.inl rfl

theorem available_sources (o : RefillOptimizer D) (sources : List AttractionCandidate) :
    ((sources.zipIdx.map fun c => (c.2, c.1)).map fun c => toAttraction o c.2) =
      sources.map (toAttraction o) := by
  conv_rhs => rw [← List.zipIdx_map_fst 0 sources, List.map_map]
  rw [List.map_map]
  rfl

theorem optimize_unrepeated {plan : TripPlan} {attractions : Option D} {excluded : List String}
    {c : RefillCandidate} (hplan : Unrepeated plan)
    (hok : Apart o request plan attractions excluded)
    (h : optimize o request plan attractions excluded = some c) : Unrepeated c.plan := by
  have hunused : ∀ x ∈ usableSources o plan attractions excluded,
      contentIdentity (toAttraction o x) ∉ usedIdentities plan := by
    intro x hx hused
    exact of_decide_eq_true (List.mem_filter.mp hx).2 (List.mem_append_left _ hused)
  simp only [optimize] at h
  split at h
  · cases h
  · split at h
    · cases h
    · split at h
      · cases h
      · rename_i w hw
        split at h
        · cases h
        · cases h
          simp only
          obtain hr | hn := hok
          · obtain he | ⟨p, hp, he⟩ := refillLoop_once hw hr
            · rw [he]
              exact hplan
            · obtain ⟨hpos, hsource⟩ := placement_source hp
              have hx : p.source ∈ usableSources o plan attractions excluded := by
                rw [← hsource, List.getElem_map]
                exact List.fst_mem_of_mem_zipIdx (List.getElem_mem _)
              rw [he]
              exact (separate_unused hplan (hunused _ hx)).mono (visits_place plan p)
          · have hs : Separate attractionIdentity
                (((usableSources o plan attractions excluded).map (toAttraction o) :
                  List Attraction) + visits plan) := by
              refine separate_add.mpr ⟨?_, hplan, ?_⟩
              · rw [Separate, Multiset.map_coe, List.map_map]
                exact Multiset.coe_nodup.mpr hn
              · intro a ha
                obtain ⟨x, hx, rfl⟩ := List.mem_map.mp ha
                exact new_of_unused (hunused x hx)
            rw [← available_sources] at hs
            exact refillLoop_separate hw hs

end Refill

/-- The optimizers and the validator of the loop. `raises` says where one of them
ends in an exception, the other functions make up the rest of a candidate's record. -/
structure Components (F D : Type) where
  routes : RouteOrders.RouteOptimizer
  schedule : ScheduleMoves.ScheduleOptimizer D
  constraints : ConstraintRepairs.ConstraintOptimizer F D
  replacement : RemoteReplacement.ReplacementOptimizer F D
  refill : RefillOptimizer D
  checks : OtherChecks F D
  routeDetails : RouteOrders.RouteOptimizationCandidate → D
  scheduleDetails : ScheduleMoves.ScheduleOptimizationCandidate → D
  constraintDetails : ConstraintRepairs.ConstraintOptimizationCandidate → D
  replacementDetails : RemoteReplacement.ReplacementCandidate → D
  refillDetails : RefillCandidate → D
  routesRaise : TripPlan → Option String
  scheduleRaises : TripRequest → TripPlan → ScheduleQualityReport D → Option String
  constraintsRaise : TripRequest → TripPlan → TripConstraintReport F D → Option D → Option D →
    Option String
  replacementRaises : TripRequest → TripPlan → CommuteConstraintReport F D → Option D →
    List String → Option String
  refillRaises : TripRequest → TripPlan → Option D → List String → Option String
  validationRaises : ValidationInputs F D → Option String

def unlessRaised {α : Type} (raised : Option String) (result : α) : Except String α :=
  match raised with
  | some m => .error m
  | none => .ok result

theorem unlessRaised_ok {α : Type} {raised : Option String} {result r : α}
    (h : unlessRaised raised result = .ok r) : result = r := by
  cases raised with
  | none => exact Except.ok.inj h
  | some m => cases h

/-- The loop with the optimizers and the validator of the repository in it. -/
def equip (kit : Kit F D) (parts : Components F D) : Kit F D :=
  { kit with
    optimizeRoutes := fun plan =>
      unlessRaised (parts.routesRaise plan)
        ((RouteOrders.optimize parts.routes plan).map fun c => ⟨c.plan, parts.routeDetails c⟩)
    optimizeSchedule := fun request plan report =>
      unlessRaised (parts.scheduleRaises request plan report)
        ((ScheduleMoves.optimize parts.schedule request plan report).map fun c =>
          ⟨c.plan, parts.scheduleDetails c⟩)
    optimizeConstraints := fun request plan report attractions weather =>
      unlessRaised (parts.constraintsRaise request plan report attractions weather)
        ((ConstraintRepairs.optimize parts.constraints request attractions weather plan report).map
          fun c => ⟨c.plan, parts.constraintDetails c⟩)
    optimizeCommute := fun request plan report attractions excluded =>
      unlessRaised (parts.replacementRaises request plan report attractions excluded)
        ((RemoteReplacement.optimize parts.replacement request plan report attractions excluded).map
          fun c =>
            ⟨c.plan, c.replacementAttractionName, c.replacementAttractionId,
              parts.replacementDetails c⟩)
    optimizeRefill := fun request plan attractions excluded =>
      unlessRaised (parts.refillRaises request plan attractions excluded)
        ((AttractionRefill.optimize parts.refill request plan attractions excluded).map fun c =>
          ⟨c.plan, c.addedAttractionNames, c.addedAttractionIds, parts.refillDetails c⟩)
    validate := fun inputs =>
      unlessRaised (parts.validationRaises inputs) (validate parts.checks inputs) }

variable {kit : Kit F D} {parts : Components F D} {s : AgentState F D}

/-- Where the refill has its turn, the pool has no two usable candidates of one place
for it, or it needs one at most. -/
def RefillApart (o : RefillOptimizer D) (s : AgentState F D) : Prop :=
  match s.tripPlan with
  | none => True
  | some plan => refillNeeded s plan = true →
      Apart o s.request plan s.attractions s.refill.excludedIdentities

instance (o : RefillOptimizer D) (s : AgentState F D) : Decidable (RefillApart o s) :=
  match h : s.tripPlan with
  | none => isTrue (by rw [RefillApart, h]; trivial)
  | some plan =>
    decidable_of_iff
      (refillNeeded s plan = true →
        Apart o s.request plan s.attractions s.refill.excludedIdentities)
      (by rw [RefillApart, h])

theorem rebuild_visits (rb : Rebuilder) (request : TripRequest) (plan : TripPlan)
    (routes : Option (List RouteEstimate)) :
    visits (rebuild rb request plan routes) = visits plan := by
  apply contents_congr
  rw [rebuild_days]
  apply List.ext_getElem?
  intro i
  rw [List.getElem?_map, List.getElem?_mapIdx, List.getElem?_map]
  cases plan.days[i]? with
  | none => rfl
  | some day => rfl

/-- The normaliser makes the places of a plan unique, and all that changes a plan of
the loop keeps them so. -/
theorem unrepeated_kept (hok : RefillApart parts.refill s) :
    Kept (equip kit parts) s Unrepeated where
  normalized := removeDuplicateAttractions_unrepeated
  routes p c hp hc := by
    obtain ⟨x, hx, rfl⟩ := Option.map_eq_some_iff.mp (unlessRaised_ok hc)
    exact hp.mono (RouteOrders.optimize_visits parts.routes hx).le
  schedule p t c hp hc := by
    obtain ⟨x, hx, rfl⟩ := Option.map_eq_some_iff.mp (unlessRaised_ok hc)
    exact hp.mono (ScheduleMoves.optimize_visits parts.schedule s.request hx)
  constraints p k c hp hc := by
    obtain ⟨x, hx, rfl⟩ := Option.map_eq_some_iff.mp (unlessRaised_ok hc)
    exact hp.mono
      (ConstraintRepairs.optimize_visits parts.constraints s.request s.attractions s.weather hx)
  replacement p m c hp hc := by
    obtain ⟨x, hx, rfl⟩ := Option.map_eq_some_iff.mp (unlessRaised_ok hc)
    exact RemoteReplacement.optimize_unrepeated parts.replacement s.request hp hx
  refill p c hplan hn hp hc := by
    obtain ⟨x, hx, rfl⟩ := Option.map_eq_some_iff.mp (unlessRaised_ok hc)
    rw [RefillApart, hplan] at hok
    exact optimize_unrepeated hp (hok hn) hx
  rebuilt p rb routes hp := hp.mono (rebuild_visits rb s.request p routes).le

/-- No place is twice in the plan, nor in a plan to go back to, nor has it been found so. -/
structure Unique (s : AgentState F D) : Prop where
  plans : Holds Unrepeated s
  verdict : ∀ v, s.lastValidationResult = some v → Clean v.issues

variable [DecidableEq F]

theorem step_unique {reply : ToolReply F D} {t : AgentState F D}
    (hI : Phased (equip kit parts) s ∧ Unique s) (hok : RefillApart parts.refill s)
    (h : step (equip kit parts) s reply = some t) : Phased (equip kit parts) t ∧ Unique t := by
  obtain ⟨hP, hU⟩ := hI
  refine ⟨step_phased hP h, ?_⟩
  obtain ⟨-, a, ha, rfl⟩ := step_some _ h
  have he := execute_effect hP (decide_chosen ha) reply
  refine ⟨effect_holds (unrepeated_kept hok) hU.plans he, ?_⟩
  intro v hv
  obtain hold | ⟨p, hp, hval⟩ := effect_verdict he hv
  · exact hU.verdict v hold
  · rw [← unlessRaised_ok hval]
    exact (validate_clean_iff parts.checks (validationInputs s p)).mpr (hU.plans.plan p hp)

/-- In every state of a run in which the refill is never offered one place twice, no
place is twice in the plan and no validation has found it so; and the normaliser
keeps of every day, in order, what comes first. -/
theorem places_stay_unique (kit : Kit F D) (parts : Components F D) (request : TripRequest)
    (budget : ExecutionBudget) (replies : List (ToolReply F D))
    (hok : Along (step (equip kit parts)) (fun s _ => RefillApart parts.refill s)
      (AgentState.create request budget) replies) :
    Always (step (equip kit parts))
        (fun s => (∀ plan, s.tripPlan = some plan → Unrepeated plan) ∧
          ∀ v, s.lastValidationResult = some v → ∀ i ∈ v.issues, i.code ≠ duplicateAcrossDays)
        (AgentState.create request budget) replies ∧
      ∀ (plan : TripPlan) (d : Nat),
        (removeDuplicateAttractions plan).days[d]? = plan.days[d]?.map fun day =>
          { day with
            attractions := novel attractionIdentity (earlier plan d) day.attractions } := by
  refine ⟨?_, removeDuplicateAttractions_days⟩
  apply always_of_along (I := fun s => Phased (equip kit parts) s ∧ Unique s)
  · intro s reply t hI hok h
    exact step_unique hI hok h
  · intro s hI
    exact ⟨hI.2.plans.plan, hI.2.verdict⟩
  · exact ⟨create_phased request budget, holds_create request budget, nofun⟩
  · exact hok

abbrev Pool : Type := List AttractionCandidate

/-- Every evaluator is content; the digests tell plans apart by their attractions. -/
def contentKit : Kit Nat Pool where
  routeDigest i := (i.days.map (·.attractions.length)).sum
  snapshotDigest f _ := f
  constraintPlanDigest i := countAttractions i.plan
  constraintDigest i := countAttractions i.plan
  validationDigest i := countAttractions i.plan
  restaurantDigest anchors := anchors.length
  contentDigest c := (c.days.map (·.attractions.length)).sum
  evaluateRouteQuality _ _ := .ok ⟨0, 0, 0, 100, false, []⟩
  evaluateCommute _ p _ := .ok ⟨countAttractions p, 0, 0, false, [], []⟩
  evaluateSchedule _ _ _ := .ok ⟨0, 0, 0, 0, 100, false, []⟩
  evaluateConstraints _ p _ _ _ := .ok ⟨countAttractions p, 0, 0, 100, false, []⟩
  validate _ := .ok ⟨true, false, []⟩
  optimizeRoutes _ := .ok none
  optimizeSchedule _ _ _ := .ok none
  optimizeConstraints _ _ _ _ _ := .ok none
  optimizeCommute _ _ _ _ _ := .ok none
  optimizeRefill _ _ _ _ := .ok none
  buildQuery _ _ _ _ := .ok none
  buildContentRefillQuery _ _ _ := .ok none
  merge _ d := .ok d
  timeline _ := []
  rebuilder _ _ := plainRebuilder
  sources _ _ := ⟨fun _ => ("", ""), fun _ => ("", "")⟩
  improvementPercent _ _ := 0
  meanScore a b c d e := (a + b + c + d + e) / 5

def noDistance : Location → Location → ℚ := fun _ _ => 0

def sampleParts : Components Nat Pool where
  routes := { haversineMeters := fun _ _ => 0, roundCoordinate := id, round := id }
  schedule :=
    { evaluate := fun _ _ => ⟨0, 0, 0, 0, 100, false, []⟩, days := fun _ => [], round := id }
  constraints :=
    { evaluate := fun _ p _ _ _ => ⟨countAttractions p, 0, 0, 100, false, []⟩
      evaluateSchedule := fun _ _ => ⟨0, 0, 0, 0, 100, false, []⟩
      issues := fun _ => [], signature := fun _ => "", round := id }
  replacement :=
    { issues := fun _ => [], sourceCandidates := fun d => d.getD [], ratingText := fun _ => ""
      ratingValue := fun _ => 0, haversineKm := noDistance, round := id }
  refill :=
    { evaluate := fun _ _ => ⟨0, 0, 0, 0, 100, false, []⟩
      rank := fun _ _ _ p => [p.day, p.insertionIndex, p.sourceOrder]
      sourceCandidates := fun d => d.getD [], ratingText := fun _ => "" }
  checks := ⟨fun _ => [], fun _ _ => [], fun _ _ _ => [], fun _ => []⟩
  routeDetails _ := []
  scheduleDetails _ := []
  constraintDetails _ := []
  replacementDetails _ := []
  refillDetails _ := []
  routesRaise _ := none
  scheduleRaises _ _ _ := none
  constraintsRaise _ _ _ _ _ := none
  replacementRaises _ _ _ _ _ := none
  refillRaises _ _ _ _ := none
  validationRaises _ := none

def weekend : TripRequest :=
  { city := "杭州", startDate := "2026-05-02", endDate := "2026-05-03", travelDays := 2,
    transportation := "公交", accommodation := "酒店" }

def emptyDay (date : String) (index : Int) : DayPlan :=
  { date, dayIndex := index, description := "休息", transportation := "公交", accommodation := "酒店" }

/-- A plan of a tool without any attraction. -/
def idleWeekend : TripPlan :=
  { city := "杭州", startDate := "2026-05-02", endDate := "2026-05-03",
    days := [emptyDay "2026-05-02" 0, emptyDay "2026-05-03" 1], overallSuggestions := "休息" }

def teahouse (address : String) : AttractionCandidate :=
  { name := "湖畔茶馆", address, location := ⟨.finite 120, .finite 30⟩ }

def museum : AttractionCandidate :=
  { poiId := "B0", name := "博物馆", address := "孤山路25号", location := ⟨.finite 120, .finite 30⟩ }

/-- The local actions do not look at their replies. -/
def localActions (n : Nat) : List (ToolReply Nat Pool) := List.replicate n (.failure .giveUp)

/-- The replies of tools that succeed at once, up to the first validation. -/
def weekendReplies (pool : Pool) : List (ToolReply Nat Pool) :=
  [.success (.document pool) .giveUp, .success (.document []) .giveUp,
    .success (.document []) .giveUp, .success (.plan idleWeekend) .giveUp,
    .success (.routes ⟨0, [], []⟩) .giveUp] ++ localActions 3 ++
    [.success (.routes ⟨2, [], []⟩) .giveUp] ++ localActions 3 ++
    [.success (.document []) .giveUp] ++ localActions 2

def weekendRun (pool : Pool) : Option (AgentState Nat Pool) :=
  run (step (equip contentKit sampleParts))
    (AgentState.create weekend { minimumTotalAttractions := 2 }) (weekendReplies pool)

theorem museum_and_teahouse :
    (weekendRun [teahouse "湖滨路1号", museum]).isSome = true ∧
      Always (step (equip contentKit sampleParts))
        (fun s => (∀ plan, s.tripPlan = some plan → Unrepeated plan) ∧
          ∀ v, s.lastValidationResult = some v → ∀ i ∈ v.issues, i.code ≠ duplicateAcrossDays)
        (AgentState.create weekend { minimumTotalAttractions := 2 })
        (weekendReplies [teahouse "湖滨路1号", museum]) :=
  ⟨by decide +kernel,
    (places_stay_unique contentKit sampleParts weekend { minimumTotalAttractions := 2 }
      (weekendReplies [teahouse "湖滨路1号", museum]) (by decide +kernel)).1⟩

/-- The pool has a teahouse at two addresses, neither with an id. Both go into the plan,
and the validation finds the second one to be a duplicate. -/
theorem one_teahouse_twice :
    ∃ s, weekendRun [teahouse "湖滨路1号", teahouse "北山街2号"] = some s ∧
      (∃ plan, s.tripPlan = some plan ∧ ¬ Unrepeated plan) ∧
      s.lastValidationResult.map (fun v => v.issues.map (·.code)) = some [duplicateAcrossDays] := by
  have hplaces : ((weekendRun [teahouse "湖滨路1号", teahouse "北山街2号"]).bind (·.tripPlan)).map
      (fun plan => (plan.days.flatMap (·.attractions)).map attractionIdentity) =
      some ["name:湖畔茶馆", "name:湖畔茶馆"] := by decide +kernel
  have hcodes : ((weekendRun [teahouse "湖滨路1号", teahouse "北山街2号"]).bind
      (·.lastValidationResult)).map (fun v => v.issues.map (·.code)) =
      some [duplicateAcrossDays] := by decide +kernel
  obtain ⟨plan, hplan, hids⟩ := Option.map_eq_some_iff.mp hplaces
  obtain ⟨s, hs, hplan⟩ := Option.bind_eq_some_iff.mp hplan
  rw [hs] at hcodes
  refine ⟨s, hs, ⟨plan, hplan, ?_⟩, hcodes⟩
  intro hn
  have hnodup : ((plan.days.flatMap (·.attractions)).map attractionIdentity).Nodup :=
    Multiset.coe_nodup.mp hn
  rw [hids] at hnodup
  exact absurd hnodup (by decide)

end TravelAgent.UniquePlaces

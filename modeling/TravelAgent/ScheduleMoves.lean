import TravelAgent.PlanEdits

namespace TravelAgent.ScheduleMoves

open TravelAgent.Itinerary TravelAgent.Agent TravelAgent.PlanEdits
open TravelAgent.Regrouping (keepBest keepBest_mem)

variable {D : Type}

/-- `ScheduleOptimizationCandidate` -/
structure ScheduleOptimizationCandidate where
  plan : TripPlan
  sourceDayIndex : Int
  targetDayIndex : Option Int := none
  movedAttractionName : String
  targetInsertionIndex : Option Nat := none
  removedAttractionNames : List String := []
  strategy : String
  baselineCost : ℚ
  candidateCost : ℚ
  approximateImprovementPercent : ℚ
  consideredCandidates : Nat

structure DayOvertime where
  dayIndex : Int
  overtimeMinutes : Nat

/-- `DeterministicScheduleOptimizer`. The evaluator without routes, the reading of
its report and the rounding of doubles are parameters. -/
structure ScheduleOptimizer (D : Type) where
  maxCandidates : Nat := 6
  minMoveImprovementPercent : ℚ := 0
  evaluate : TripRequest → TripPlan → ScheduleQualityReport D
  days : ScheduleQualityReport D → List DayOvertime
  round : ℚ → ℚ

variable (o : ScheduleOptimizer D) (request : TripRequest)

/-- `_overloaded_days` -/
def overloadedDays (report : ScheduleQualityReport D) : List DayOvertime :=
  ((o.days report).filter fun d => decide (0 < d.overtimeMinutes)).mergeSort fun x y =>
    decide (y.overtimeMinutes < x.overtimeMinutes ∨
      (x.overtimeMinutes = y.overtimeMinutes ∧ x.dayIndex ≤ y.dayIndex))

/-- `_improvement_percent` -/
def improvementPercent (baselineCost candidateCost : ℚ) : ℚ :=
  o.round (if 0 < baselineCost then (baselineCost - candidateCost) / baselineCost * 100 else 0)

structure Move where
  target : Nat
  insertionIndex : Nat
  plan : TripPlan
  cost : ℚ

/-- The last attraction of a day at every place of every other day. -/
def moves (plan : TripPlan) (source last : Nat) : List Move :=
  (targetPositions plan source).flatMap fun target =>
    (List.range (dayLength plan target + 1)).map fun index =>
      let candidate := moveAttraction plan source last target index
      ⟨target, index, candidate, (o.evaluate request candidate).optimizationCost⟩

def Move.before (x y : Move) : Bool :=
  x.cost < y.cost || (x.cost = y.cost && (x.target < y.target ||
    (x.target = y.target && x.insertionIndex < y.insertionIndex)))

/-- `_find_cross_day_move` -/
def findCrossDayMove (plan : TripPlan) (sourceDayIndex : Int) (baselineCost : ℚ) :
    Option ScheduleOptimizationCandidate :=
  match dayPosition plan sourceDayIndex with
  | none => none
  | some source =>
    match plan.days[source]?.bind (·.attractions.getLast?) with
    | none => none
    | some moved =>
      if plan.days.length < 2 then none
      else
        let last := dayLength plan source - 1
        let tried := (moves o request plan source last).take o.maxCandidates
        let worthwhile := tried.filter fun m =>
          decide (m.cost + 1 / 100 < baselineCost) &&
            decide (o.minMoveImprovementPercent ≤ improvementPercent o baselineCost m.cost)
        (worthwhile.foldl (keepBest Move.before) none).map fun best =>
          { plan := best.plan
            sourceDayIndex := stableDayIndex plan source
            targetDayIndex := some (stableDayIndex plan best.target)
            movedAttractionName := moved.name
            targetInsertionIndex := some best.insertionIndex
            strategy := "move_last_attraction_to_lower_cost_day"
            baselineCost := o.round baselineCost
            candidateCost := o.round best.cost
            approximateImprovementPercent := improvementPercent o baselineCost best.cost
            consideredCandidates := tried.length }

structure Removal where
  index : Nat
  plan : TripPlan
  report : ScheduleQualityReport D
  name : String

def Removal.before (x y : Removal (D := D)) : Bool :=
  x.report.optimizationCost < y.report.optimizationCost ||
    (x.report.optimizationCost = y.report.optimizationCost && x.index < y.index)

def removals (plan : TripPlan) (source : Nat) (day : DayPlan) : List (Removal (D := D)) :=
  day.attractions.zipIdx.map fun a =>
    ⟨a.2, takeOut plan source a.2, o.evaluate request (takeOut plan source a.2), a.1.name⟩

structure Reduction (D : Type) where
  plan : TripPlan
  report : ScheduleQualityReport D
  removedNames : List String := []
  firstSourceDayIndex : Option Int := none
  considered : Nat := 0

/-- The loop of `_build_overload_reduction`: each turn that goes on has tried a removal. -/
def reduceOverload (plan : TripPlan) : Nat → Reduction D → Reduction D
  | 0, w => w
  | n + 1, w =>
    if w.report.optimizationRecommended = true ∧ w.considered < o.maxCandidates then
      match (overloadedDays o w.report).head?.bind fun d => dayPosition w.plan d.dayIndex with
      | none => w
      | some source =>
        match w.plan.days[source]? with
        | none => w
        | some day =>
          let tried := (removals o request w.plan source day).take (o.maxCandidates - w.considered)
          let considered := w.considered + tried.length
          match tried.foldl (keepBest Removal.before) none with
          | none => w
          | some best =>
            if w.report.optimizationCost ≤ best.report.optimizationCost + 1 / 100 then
              { w with considered }
            else
              reduceOverload plan n
                { plan := best.plan
                  report := best.report
                  removedNames := w.removedNames ++ [best.name]
                  firstSourceDayIndex :=
                    w.firstSourceDayIndex.or (some (stableDayIndex plan source))
                  considered }
    else w

/-- `_build_overload_reduction` -/
def buildOverloadReduction (plan : TripPlan) (baselineCost : ℚ) :
    Option ScheduleOptimizationCandidate :=
  let w := reduceOverload o request plan o.maxCandidates
    ⟨plan, o.evaluate request plan, [], none, 0⟩
  let cost := w.report.optimizationCost
  match w.removedNames, w.firstSourceDayIndex with
  | first :: _, some source =>
    if baselineCost ≤ cost + 1 / 100 then none
    else
      some
        { plan := w.plan
          sourceDayIndex := source
          movedAttractionName := first
          removedAttractionNames := w.removedNames
          strategy := "remove_attractions_from_overloaded_days"
          baselineCost := o.round baselineCost
          candidateCost := o.round cost
          approximateImprovementPercent := improvementPercent o baselineCost cost
          consideredCandidates := w.considered }
  | _, _ => none

/-- `DeterministicScheduleOptimizer.optimize` -/
def optimize (plan : TripPlan) (report : ScheduleQualityReport D) :
    Option ScheduleOptimizationCandidate :=
  match overloadedDays o report with
  | [] => none
  | day :: _ =>
    let baselineCost := (o.evaluate request plan).optimizationCost
    (findCrossDayMove o request plan day.dayIndex baselineCost).or
      (buildOverloadReduction o request plan baselineCost)

theorem findCrossDayMove_visits {plan : TripPlan} {sourceDayIndex : Int} {baselineCost : ℚ}
    {c : ScheduleOptimizationCandidate}
    (h : findCrossDayMove o request plan sourceDayIndex baselineCost = some c) :
    visits c.plan ≤ visits plan := by
  unfold findCrossDayMove at h
  split at h
  · cases h
  · rename_i source _
    split at h
    · cases h
    · split at h
      · cases h
      · obtain ⟨best, hbest, rfl⟩ := Option.map_eq_some_iff.mp h
        obtain hb | hm := keepBest_mem hbest
        · cases hb
        · have hm := List.mem_of_mem_take (List.mem_of_mem_filter hm)
          simp only [moves, List.mem_flatMap, List.mem_map] at hm
          obtain ⟨target, -, index, -, rfl⟩ := hm
          exact visits_moveAttraction plan source _ target index

theorem reduceOverload_visits (plan : TripPlan) (n : Nat) (w : Reduction D) :
    visits (reduceOverload o request plan n w).plan ≤ visits w.plan := by
  induction n generalizing w with
  | zero => exact le_rfl
  | succ n ih =>
    rw [reduceOverload]
    split
    · split
      · exact le_rfl
      · rename_i source _
        split
        · exact le_rfl
        · rename_i day _
          dsimp only
          split
          · exact le_rfl
          · rename_i best hbest
            split
            · exact le_rfl
            · obtain hb | hm := keepBest_mem hbest
              · cases hb
              · have hm := List.mem_of_mem_take hm
                simp only [removals, List.mem_map] at hm
                obtain ⟨a, -, rfl⟩ := hm
                exact (ih _).trans (visits_takeOut_le w.plan source a.2)
    · exact le_rfl

theorem buildOverloadReduction_visits {plan : TripPlan} {baselineCost : ℚ}
    {c : ScheduleOptimizationCandidate}
    (h : buildOverloadReduction o request plan baselineCost = some c) :
    visits c.plan ≤ visits plan := by
  have hr := reduceOverload_visits o request plan o.maxCandidates
    ⟨plan, o.evaluate request plan, [], none, 0⟩
  simp only [buildOverloadReduction] at h
  split at h
  · split at h
    · cases h
    · cases h
      exact hr
  · cases h

/-- Attractions change their day or are left out. -/
theorem optimize_visits {plan : TripPlan} {report : ScheduleQualityReport D}
    {c : ScheduleOptimizationCandidate} (h : optimize o request plan report = some c) :
    visits c.plan ≤ visits plan := by
  unfold optimize at h
  split at h
  · cases h
  · obtain h | ⟨-, h⟩ := Option.or_eq_some_iff.mp h
    · exact findCrossDayMove_visits o request h
    · exact buildOverloadReduction_visits o request h

end TravelAgent.ScheduleMoves

import TravelAgent.PlanEdits

namespace TravelAgent.ConstraintRepairs

open TravelAgent.Itinerary TravelAgent.Agent TravelAgent.PlanEdits
open TravelAgent.Regrouping (keepBest keepBest_mem)

variable {F D : Type}

/-- The fields of an issue that the optimizer reads. -/
structure ConstraintIssue where
  code : String
  error : Bool
  repairable : Bool
  dayIndex : Int
  sourceIndex : Option Nat
  penalty : ℚ

/-- `ConstraintOptimizationCandidate` -/
structure ConstraintOptimizationCandidate where
  plan : TripPlan
  sourceDayIndex : Int
  targetDayIndex : Int
  movedAttractionName : String
  targetInsertionIndex : Nat
  removedAttractionNames : List String := []
  strategy : String
  baselineCost : ℚ
  candidateCost : ℚ
  approximateImprovementPercent : ℚ
  consideredCandidates : Nat

/-- `DeterministicConstraintOptimizer`. Both evaluators, the reading of a report,
the text of a plan and the rounding of doubles are parameters. -/
structure ConstraintOptimizer (F D : Type) where
  maxCandidates : Nat := 8
  evaluate : TripRequest → TripPlan → ScheduleQualityReport D → Option D → Option D →
    TripConstraintReport F D
  evaluateSchedule : TripRequest → TripPlan → ScheduleQualityReport D
  issues : TripConstraintReport F D → List ConstraintIssue
  signature : TripPlan → String
  round : ℚ → ℚ

variable (o : ConstraintOptimizer F D) (request : TripRequest) (attractions weather : Option D)

def ConstraintIssue.before (x y : ConstraintIssue) : Bool :=
  let place := fun i : ConstraintIssue => i.sourceIndex.getD 1000000
  let rank := fun i : ConstraintIssue => if i.error then 0 else 1
  rank x < rank y || (rank x = rank y && (y.penalty < x.penalty || (x.penalty = y.penalty &&
    (x.dayIndex < y.dayIndex || (x.dayIndex = y.dayIndex &&
      (place x < place y || (place x = place y && x.code < y.code)))))))

/-- The repairable issues, the gravest first. -/
def actionable (report : TripConstraintReport F D) : List ConstraintIssue :=
  ((o.issues report).filter (·.repairable)).mergeSort fun x y => !y.before x

/-- `_combined_cost` of both reports on a plan, with the constraint report. -/
def assess (plan : TripPlan) : TripConstraintReport F D × ℚ :=
  let schedule := o.evaluateSchedule request plan
  let constraints := o.evaluate request plan schedule attractions weather
  (constraints, o.round (constraints.optimizationCost + schedule.optimizationCost))

def improvement (baselineCost candidateCost : ℚ) : ℚ :=
  o.round (if 0 < baselineCost then (baselineCost - candidateCost) / baselineCost * 100 else 0)

structure Change where
  strategy : String
  source : Nat
  target : Nat
  insertionIndex : Nat
  plan : TripPlan
  movedName : String

/-- The place of the attraction that an issue is about, the last one of its day
where the issue does not name one. -/
def issuePlace (plan : TripPlan) (issue : ConstraintIssue) : Option (Nat × Nat) :=
  (dayPosition plan issue.dayIndex).bind fun day =>
    if dayLength plan day = 0 then none
    else
      match issue.sourceIndex with
      | some index =>
        some (day, if index < dayLength plan day then index else dayLength plan day - 1)
      | none => some (day, dayLength plan day - 1)

/-- The other places in its day, then those in the other days. -/
def changes (plan : TripPlan) (issue : ConstraintIssue) : List Change :=
  match issuePlace plan issue with
  | none => []
  | some (day, index) =>
    let name := ((attractionAt plan day index).map (·.name)).getD ""
    ((List.range (dayLength plan day)).filter (· ≠ index)).map (fun i =>
      ⟨"reorder_attraction_within_day", day, day, i, moveAttraction plan day index day i, name⟩) ++
    (targetPositions plan day).flatMap fun target =>
      (List.range (dayLength plan target + 1)).map fun i =>
        ⟨"move_attraction_between_days", day, target, i, moveAttraction plan day index target i,
          name⟩

/-- `_append_unique`, up to the limit. -/
def appendUnique (kept : List Change) (c : Change) : List Change :=
  if o.maxCandidates ≤ kept.length ∨ o.signature c.plan ∈ kept.map (o.signature ·.plan) then kept
  else kept ++ [c]

structure Scored where
  cost : ℚ
  change : Change

def Scored.before (x y : Scored) : Bool :=
  x.cost < y.cost || (x.cost = y.cost && (x.change.source < y.change.source ||
    (x.change.source = y.change.source && (x.change.target < y.change.target ||
      (x.change.target = y.change.target && x.change.insertionIndex < y.change.insertionIndex)))))

def bestOf (baselineCost : ℚ) (tried : List Change) : Option Scored :=
  let scored := tried.map fun c => ⟨(assess o request attractions weather c.plan).2, c⟩
  (scored.filter fun x => decide (x.cost + 1 / 100 < baselineCost)).foldl
    (keepBest Scored.before) none

/-- The attractions of the affected days, each taken out. A day counts once. -/
def removals (plan : TripPlan) (issues : List ConstraintIssue) : List Change :=
  let days := (issues.filterMap fun issue => dayPosition plan issue.dayIndex).foldl
    (fun visited day => if day ∈ visited then visited else visited ++ [day]) []
  days.flatMap fun day =>
    (((plan.days[day]?.map (·.attractions)).getD []).zipIdx).map fun a =>
      ⟨"remove_attraction_for_constraint_feasibility", day, day, a.2, takeOut plan day a.2,
        a.1.name⟩

def outsideOpeningHours : String := "attraction.outside_opening_hours"

structure Target where
  dayIndex : Int
  poiId : String
  name : String

/-- The attractions that the repairable opening-hours issues are about. -/
def openingTargets (plan : TripPlan) (report : TripConstraintReport F D) : List Target :=
  (o.issues report).filterMap fun issue =>
    if issue.repairable = true ∧ issue.code = outsideOpeningHours then
      issue.sourceIndex.bind fun index =>
        (dayPosition plan issue.dayIndex).bind fun day =>
          (attractionAt plan day index).map fun a => ⟨issue.dayIndex, a.poiId.getD "", a.name⟩
    else none

/-- `_find_attraction_index` -/
def findAttractionIndex (plan : TripPlan) (day : Nat) (poiId name : String) : Option Nat :=
  ((plan.days[day]?.map (·.attractions)).getD []).findIdx? fun a =>
    (!poiId.isEmpty && decide (a.poiId = some poiId)) || a.name == name

/-- The target goes to the end of its day, with the names of those that did. -/
def moveToEnd (w : TripPlan × List String) (t : Target) : TripPlan × List String :=
  match dayPosition w.1 t.dayIndex with
  | none => w
  | some day =>
    match findAttractionIndex w.1 day t.poiId t.name with
    | none => w
    | some index =>
      if index = dayLength w.1 day - 1 then w
      else
        (moveAttraction w.1 day index day (dayLength w.1 day - 1),
          w.2 ++ ((attractionAt w.1 day index).map (·.name)).toList)

structure Remaining where
  day : Nat
  index : Nat
  name : String

def remainingConflicts (plan : TripPlan) (issues : List ConstraintIssue) : List Remaining :=
  issues.filterMap fun issue =>
    issue.sourceIndex.bind fun index =>
      (dayPosition plan issue.dayIndex).bind fun day =>
        (attractionAt plan day index).map fun a => ⟨day, index, a.name⟩

/-- `sorted(removals, reverse=True)` -/
def fromTheEnd (xs : List Remaining) : List Remaining :=
  xs.mergeSort fun x y =>
    y.day < x.day || (x.day = y.day && (y.index < x.index ||
      (x.index = y.index && !(x.name < y.name))))

/-- `_opening_hours_candidate` -/
def openingHoursCandidate (plan : TripPlan) (firstDay : Int) (movedNames removedNames : List String)
    (baselineCost candidateCost : ℚ) (considered : Nat) (strategy : String) :
    ConstraintOptimizationCandidate :=
  { plan
    sourceDayIndex := firstDay
    targetDayIndex := firstDay
    movedAttractionName := "、".intercalate (if movedNames = [] then removedNames else movedNames)
    targetInsertionIndex := dayLength plan ((dayPosition plan firstDay).getD 0) - 1
    removedAttractionNames := removedNames
    strategy
    baselineCost := o.round baselineCost
    candidateCost := o.round candidateCost
    approximateImprovementPercent := improvement o baselineCost candidateCost
    consideredCandidates := considered }

/-- `_repair_opening_hours_conflicts` -/
def repairOpeningHoursConflicts (plan : TripPlan) (report : TripConstraintReport F D)
    (baselineCost : ℚ) : Option ConstraintOptimizationCandidate :=
  match openingTargets o plan report with
  | [] => none
  | first :: rest =>
    let (working, movedNames) := (first :: rest).foldl moveToEnd (plan, [])
    let (constraints, cost) := assess o request attractions weather working
    let conflicts := (o.issues constraints).filter fun i =>
      decide (i.code = outsideOpeningHours) && i.sourceIndex.isSome
    if conflicts = [] then
      if cost + 1 / 100 < baselineCost then
        some (openingHoursCandidate o working first.dayIndex movedNames [] baselineCost cost 1
          "reorder_attractions_for_opening_hours")
      else none
    else if o.maxCandidates < 2 then none
    else
      let removed := fromTheEnd (remainingConflicts working conflicts)
      if removed = [] then none
      else
        let reduced := removed.foldl (fun p r => takeOut p r.day r.index) working
        let (constraints, cost) := assess o request attractions weather reduced
        if (o.issues constraints).any (·.code == outsideOpeningHours) then none
        else if baselineCost ≤ cost + 1 / 100 then none
        else
          some (openingHoursCandidate o reduced first.dayIndex movedNames
            (removed.map (·.name)).reverse baselineCost cost 2
            "remove_attractions_outside_opening_hours")

/-- `DeterministicConstraintOptimizer.optimize` -/
def optimize (plan : TripPlan) (report : TripConstraintReport F D) :
    Option ConstraintOptimizationCandidate :=
  let issues := actionable o report
  if issues = [] then none
  else
    let (constraints, baselineCost) := assess o request attractions weather plan
    match
      repairOpeningHoursConflicts o request attractions weather plan constraints baselineCost with
    | some candidate => some candidate
    | none =>
      let tried := (issues.flatMap (changes plan)).foldl (appendUnique o) []
      let finished := fun (best : Scored) (removedNames : List String) (considered : Nat) =>
        ({ plan := best.change.plan
           sourceDayIndex := stableDayIndex plan best.change.source
           targetDayIndex := stableDayIndex plan best.change.target
           movedAttractionName := best.change.movedName
           targetInsertionIndex := best.change.insertionIndex
           removedAttractionNames := removedNames
           strategy := best.change.strategy
           baselineCost := o.round baselineCost
           candidateCost := o.round best.cost
           approximateImprovementPercent := improvement o baselineCost best.cost
           consideredCandidates := considered } : ConstraintOptimizationCandidate)
      match bestOf o request attractions weather baselineCost tried with
      | some best => some (finished best [] tried.length)
      | none =>
        let taken := (removals plan issues).take o.maxCandidates
        (bestOf o request attractions weather baselineCost taken).map fun best =>
          finished best [best.change.movedName] (tried.length + taken.length)

theorem changes_visits {plan : TripPlan} {issue : ConstraintIssue} {c : Change}
    (h : c ∈ changes plan issue) : visits c.plan ≤ visits plan := by
  unfold changes at h
  split at h
  · exact absurd h List.not_mem_nil
  · rename_i day index _
    simp only [List.mem_append, List.mem_map, List.mem_flatMap] at h
    obtain ⟨i, -, rfl⟩ | ⟨target, -, i, -, rfl⟩ := h
    · exact visits_moveAttraction plan day index day i
    · exact visits_moveAttraction plan day index target i

theorem removals_visits {plan : TripPlan} {issues : List ConstraintIssue} {c : Change}
    (h : c ∈ removals plan issues) : visits c.plan ≤ visits plan := by
  simp only [removals, List.mem_flatMap, List.mem_map] at h
  obtain ⟨day, -, a, -, rfl⟩ := h
  exact visits_takeOut_le plan day a.2

theorem appendUnique_mem {kept : List Change} {c x : Change} (h : x ∈ appendUnique o kept c) :
    x ∈ kept ∨ x = c := by
  unfold appendUnique at h
  split at h
  · exact Or.inl h
  · simpa only [List.mem_append, List.mem_singleton] using h

theorem appended_mem {xs : List Change} {x : Change} (h : x ∈ xs.foldl (appendUnique o) []) :
    x ∈ xs := by
  have hsub : xs.foldl (appendUnique o) [] ⊆ xs := by
    apply List.foldlRecOn (motive := fun kept => kept ⊆ xs)
    · exact List.nil_subset xs
    · intro kept hk c hc y hy
      obtain hy | rfl := appendUnique_mem o hy
      · exact hk hy
      · exact hc
  exact hsub h

theorem bestOf_mem {baselineCost : ℚ} {tried : List Change} {best : Scored}
    (h : bestOf o request attractions weather baselineCost tried = some best) :
    best.change ∈ tried := by
  simp only [bestOf] at h
  obtain hb | hm := keepBest_mem h
  · cases hb
  · obtain ⟨c, hc, rfl⟩ := List.mem_map.mp (List.mem_of_mem_filter hm)
    exact hc

theorem moveToEnd_visits (w : TripPlan × List String) (t : Target) :
    visits (moveToEnd w t).1 ≤ visits w.1 := by
  unfold moveToEnd
  split
  · exact le_rfl
  · split
    · exact le_rfl
    · split
      · exact le_rfl
      · exact visits_moveAttraction w.1 _ _ _ _

theorem movedToEnd_visits (plan : TripPlan) (targets : List Target) :
    visits (targets.foldl moveToEnd (plan, [])).1 ≤ visits plan := by
  apply List.foldlRecOn (motive := fun w : TripPlan × List String => visits w.1 ≤ visits plan)
  · exact le_rfl
  · intro w hw t _
    exact (moveToEnd_visits w t).trans hw

theorem takenOut_visits (plan : TripPlan) (xs : List Remaining) :
    visits (xs.foldl (fun p r => takeOut p r.day r.index) plan) ≤ visits plan := by
  apply List.foldlRecOn (motive := fun p => visits p ≤ visits plan)
  · exact le_rfl
  · intro p hp r _
    exact (visits_takeOut_le p r.day r.index).trans hp

theorem repairOpeningHours_visits {plan : TripPlan} {report : TripConstraintReport F D}
    {baselineCost : ℚ} {c : ConstraintOptimizationCandidate}
    (h : repairOpeningHoursConflicts o request attractions weather plan report baselineCost =
      some c) : visits c.plan ≤ visits plan := by
  unfold repairOpeningHoursConflicts at h
  split at h
  · cases h
  · rename_i first rest _
    have hmoved := movedToEnd_visits plan (first :: rest)
    dsimp only at h
    split at h
    · split at h
      · cases h
        exact hmoved
      · cases h
    · split at h
      · cases h
      · split at h
        · cases h
        · split at h
          · cases h
          · split at h
            · cases h
            · cases h
              exact (takenOut_visits _ _).trans hmoved

/-- Attractions change their place or are left out. -/
theorem optimize_visits {plan : TripPlan} {report : TripConstraintReport F D}
    {c : ConstraintOptimizationCandidate}
    (h : optimize o request attractions weather plan report = some c) :
    visits c.plan ≤ visits plan := by
  simp only [optimize] at h
  split at h
  · cases h
  · split at h
    · rename_i hrepair
      cases h
      exact repairOpeningHours_visits o request attractions weather hrepair
    · split at h
      · rename_i best hbest
        cases h
        have hm := appended_mem o (bestOf_mem o request attractions weather hbest)
        obtain ⟨issue, -, hc⟩ := List.mem_flatMap.mp hm
        exact changes_visits hc
      · obtain ⟨best, hbest, rfl⟩ := Option.map_eq_some_iff.mp h
        have hm := List.mem_of_mem_take (bestOf_mem o request attractions weather hbest)
        exact removals_visits hm

end TravelAgent.ConstraintRepairs

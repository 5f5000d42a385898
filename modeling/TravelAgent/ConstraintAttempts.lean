import TravelAgent.Attempts
import TravelAgent.ConstraintCandidates
import TravelAgent.Inquiries

namespace TravelAgent.ConstraintAttempts

open TravelAgent.Itinerary TravelAgent.Agent TravelAgent.PlanEdits TravelAgent.ConstraintRepairs
open TravelAgent.Attempts TravelAgent.Inquiries TravelAgent.Noting TravelAgent.Replanning
open TravelAgent.Regrouping (keepBest)

variable {F D : Type}

/-- `plan.days[day]` -/
def dayAt (plan : TripPlan) (day : Nat) : Except String DayPlan :=
  match plan.days[day]? with
  | some d => .ok d
  | none => .error "list index out of range"

/-- `plan.days[day].attractions[index]` -/
def readAt (plan : TripPlan) (day index : Nat) : Except String Attraction := do
  let d ← dayAt plan day
  match d.attractions[index]? with
  | some a => return a
  | none => throw "list index out of range"

/-- `plan.days[day].attractions.pop(index)`, with the plan that is left. -/
def popAt (plan : TripPlan) (day index : Nat) : Except String (Attraction × TripPlan) := do
  let d ← dayAt plan day
  match d.attractions[index]? with
  | some a => return (a, takeOut plan day index)
  | none => throw (if d.attractions = [] then "pop from empty list" else "pop index out of range")

/-- The loops over the other places in its day, then over those in the other days. -/
def changesAt (plan : TripPlan) (day index : Nat) : Except String (List Change) := do
  let name := (← readAt plan day index).name
  let count := (← dayAt plan day).attractions.length
  let within ← ((List.range count).filter (· ≠ index)).mapM fun i => do
    let (moved, rest) ← popAt plan day index
    return ⟨"reorder_attraction_within_day", day, day, i, putIn rest day i moved, name⟩
  let between ← (targetPositions plan day).mapM fun target => do
    let targetCount := (← dayAt plan target).attractions.length
    (List.range (targetCount + 1)).mapM fun i => do
      let (moved, rest) ← popAt plan day index
      return ⟨"move_attraction_between_days", day, target, i, putIn rest target i moved, name⟩
  return within ++ between.flatten

def changesOf (plan : TripPlan) (issue : ConstraintIssue) : Except String (List Change) :=
  match dayPosition plan issue.dayIndex with
  | none => .ok []
  | some day => do
    let count := (← dayAt plan day).attractions.length
    if count = 0 then return []
    else
      changesAt plan day <|
        match issue.sourceIndex with
        | some i => if i < count then i else count - 1
        | none => count - 1

/-- One attraction after another out of a day. -/
def removalsOn (plan : TripPlan) (day : Nat) : Except String (List Change) := do
  let d ← dayAt plan day
  d.attractions.zipIdx.mapM fun a => do
    let (_, rest) ← popAt plan day a.2
    return ⟨"remove_attraction_for_constraint_feasibility", day, day, a.2, rest, a.1.name⟩

def removalsOf (plan : TripPlan) (issues : List ConstraintIssue) : Except String (List Change) :=
  ((affectedDays plan issues).mapM (removalsOn plan)).map List.flatten

/-- A target goes to the end of its day. -/
def moveTarget (w : TripPlan × List String) (t : Target) : Except String (TripPlan × List String) :=
  match dayPosition w.1 t.dayIndex with
  | none => .ok w
  | some day =>
    match findAttractionIndex w.1 day t.poiId t.name with
    | none => .ok w
    | some index => do
      let count := (← dayAt w.1 day).attractions.length
      if index = count - 1 then return w
      else
        let (moved, rest) ← popAt w.1 day index
        return (putIn rest day (count - 1) moved, w.2 ++ [moved.name])

def popAll (plan : TripPlan) (removals : List Remaining) : Except String TripPlan :=
  removals.foldlM (fun p r => (popAt p r.day r.index).map (·.2)) plan

variable (o : ConstraintOptimizer F D)

/-- A batch of moves or removals as a candidate. -/
def batchCandidate (plan : TripPlan) (firstDay : Int) (movedNames removedNames : List String)
    (baselineCost candidateCost : ℚ) (considered : Nat) (strategy : String) :
    Except String ConstraintOptimizationCandidate := do
  let d ← dayAt plan ((dayPosition plan firstDay).getD 0)
  return { openingHoursCandidate o plan firstDay movedNames removedNames baselineCost candidateCost
      considered strategy with targetInsertionIndex := d.attractions.length - 1 }

/-- A plan goes to both evaluators, which answer with the constraint report and the cost. -/
abbrev Assessing (F D α : Type) : Type :=
  Inquiry TripPlan (TripConstraintReport F D × ℚ) String α

def attempt {α : Type} (outcome : Except String α) : Assessing F D α := .done outcome

/-- The second half of `_repair_opening_hours_conflicts`: what is still closed is left out. -/
def reduceBatch (working : TripPlan) (firstDay : Int) (movedNames : List String) (baselineCost : ℚ)
    (removals : List Remaining) : Assessing F D (Option ConstraintOptimizationCandidate) :=
  if removals = [] then pure none
  else do
    let reduced ← attempt (popAll working removals)
    let (constraints, cost) ← inquire reduced
    if (o.issues constraints).any (·.code == outsideOpeningHours) then return none
    else if baselineCost ≤ cost + 1 / 100 then return none
    else
      let candidate ← attempt (batchCandidate o reduced firstDay movedNames
        (removals.map (·.name)).reverse baselineCost cost 2
        "remove_attractions_outside_opening_hours")
      return some candidate

/-- `_repair_opening_hours_conflicts` -/
def repair (plan : TripPlan) (report : TripConstraintReport F D) (baselineCost : ℚ) :
    Assessing F D (Option ConstraintOptimizationCandidate) :=
  match openingTargets o plan report with
  | [] => pure none
  | first :: rest => do
    let (working, movedNames) ← attempt ((first :: rest).foldlM moveTarget (plan, []))
    let (constraints, cost) ← inquire working
    let conflicts := (o.issues constraints).filter fun i =>
      decide (i.code = outsideOpeningHours) && i.sourceIndex.isSome
    if conflicts = [] then
      if cost + 1 / 100 < baselineCost then
        let candidate ← attempt (batchCandidate o working first.dayIndex movedNames [] baselineCost
          cost 1 "reorder_attractions_for_opening_hours")
        return some candidate
      else return none
    else if o.maxCandidates < 2 then return none
    else
      reduceBatch o working first.dayIndex movedNames baselineCost
        (fromTheEnd (remainingConflicts working conflicts))

/-- The changes of all issues, up to the limit. -/
def tried (plan : TripPlan) (issues : List ConstraintIssue) : List Change :=
  (issues.flatMap (changes plan)).foldl (appendUnique o) []

def best (baselineCost : ℚ) (candidates : List Change) : Assessing F D (Option Scored) := do
  let answers ← inquireAll (candidates.map (·.plan))
  let scored := List.zipWith (fun answer c => (⟨answer.2, c⟩ : Scored)) answers candidates
  return (scored.filter fun x => decide (x.cost + 1 / 100 < baselineCost)).foldl
    (keepBest Scored.before) none

def chosen (plan : TripPlan) (baselineCost : ℚ) (x : Scored) (removedNames : List String)
    (considered : Nat) : Except String ConstraintOptimizationCandidate := do
  let source ← dayAt plan x.change.source
  let target ← dayAt plan x.change.target
  return {
    plan := x.change.plan
    sourceDayIndex := source.indexAt x.change.source
    targetDayIndex := target.indexAt x.change.target
    movedAttractionName := x.change.movedName
    targetInsertionIndex := x.change.insertionIndex
    removedAttractionNames := removedNames
    strategy := x.change.strategy
    baselineCost := o.round baselineCost
    candidateCost := o.round x.cost
    approximateImprovementPercent := improvement o baselineCost x.cost
    consideredCandidates := considered }

/-- The search for one change and, where none is worthwhile, for one removal. -/
def search (plan : TripPlan) (issues : List ConstraintIssue) (baselineCost : ℚ) :
    Assessing F D (Option ConstraintOptimizationCandidate) := do
  let found ← attempt (issues.mapM (changesOf plan))
  let changed := found.flatten.foldl (appendUnique o) []
  match ← best baselineCost changed with
  | some x => return some (← attempt (chosen o plan baselineCost x [] changed.length))
  | none =>
    let removals ← attempt (removalsOf plan issues)
    let taken := removals.take o.maxCandidates
    match ← best baselineCost taken with
    | none => return none
    | some x =>
      return some (← attempt (chosen o plan baselineCost x [x.change.movedName]
        (changed.length + taken.length)))

/-- `DeterministicConstraintOptimizer.optimize`, with what it may raise and the plans that it
has evaluated. -/
def optimize (plan : TripPlan) (report : TripConstraintReport F D) :
    Assessing F D (Option ConstraintOptimizationCandidate) :=
  let issues := actionable o report
  if issues = [] then pure none
  else do
    let (constraints, baselineCost) ← inquire plan
    match ← repair o plan constraints baselineCost with
    | some candidate => return some candidate
    | none => search o plan issues baselineCost

section Reads

variable {plan : TripPlan} {day index : Nat}

theorem dayAt_eq (h : day < plan.days.length) : dayAt plan day = .ok plan.days[day] := by
  rw [dayAt, List.getElem?_eq_getElem h]

theorem dayAt_length {d : DayPlan} (h : dayAt plan day = .ok d) :
    d.attractions.length = dayLength plan day := by
  unfold dayAt at h
  unfold dayLength
  split at h
  · rename_i hd
    cases h
    rw [hd]
    rfl
  · cases h

theorem readAt_eq {a : Attraction} (h : attractionAt plan day index = some a) :
    readAt plan day index = .ok a := by
  obtain ⟨hd, hi, rfl⟩ := attractionAt_some h
  rw [readAt, dayAt_eq hd]
  change (match plan.days[day].attractions[index]? with | some a => _ | none => _) = _
  rw [List.getElem?_eq_getElem hi]
  rfl

theorem popAt_eq {a : Attraction} (h : attractionAt plan day index = some a) :
    popAt plan day index = .ok (a, takeOut plan day index) := by
  obtain ⟨hd, hi, rfl⟩ := attractionAt_some h
  rw [popAt, dayAt_eq hd]
  change (match plan.days[day].attractions[index]? with | some a => _ | none => _) = _
  rw [List.getElem?_eq_getElem hi]
  rfl

theorem popAt_ok {x : Attraction × TripPlan} (h : popAt plan day index = .ok x) :
    attractionAt plan day index = some x.1 ∧ x.2 = takeOut plan day index := by
  obtain ⟨d, hd, h⟩ := bind_ok h
  unfold dayAt at hd
  split at hd
  · rename_i hday
    cases hd
    rw [attractionAt, hday]
    split at h
    · rename_i a ha
      cases h
      exact ⟨ha, rfl⟩
    · cases h
  · cases hd

theorem moveAttraction_eq {a : Attraction} (h : attractionAt plan day index = some a)
    (target i : Nat) : moveAttraction plan day index target i =
      putIn (takeOut plan day index) target i a := by
  rw [moveAttraction, h]

/-- Nothing is read or popped beyond its list. -/
theorem changesAt_eq {a : Attraction} (h : attractionAt plan day index = some a) :
    changesAt plan day index = .ok
      (((List.range (dayLength plan day)).filter (· ≠ index)).map (fun i =>
        ⟨"reorder_attraction_within_day", day, day, i, moveAttraction plan day index day i, a.name⟩) ++
      (targetPositions plan day).flatMap fun target =>
        (List.range (dayLength plan target + 1)).map fun i =>
          ⟨"move_attraction_between_days", day, target, i, moveAttraction plan day index target i,
            a.name⟩) := by
  obtain ⟨hd, -, -⟩ := attractionAt_some h
  have hwithin : (((List.range (dayLength plan day)).filter (· ≠ index)).mapM fun i => do
      let (moved, rest) ← popAt plan day index
      return (⟨"reorder_attraction_within_day", day, day, i, putIn rest day i moved, a.name⟩ :
        Change)) = .ok (((List.range (dayLength plan day)).filter (· ≠ index)).map (fun i =>
          ⟨"reorder_attraction_within_day", day, day, i, moveAttraction plan day index day i,
            a.name⟩)) := by
    apply mapM_ok
    intro i _
    rw [bind_of_ok (popAt_eq h), moveAttraction_eq h]
    rfl
  have hbetween : ((targetPositions plan day).mapM fun target => do
      let targetCount := (← dayAt plan target).attractions.length
      (List.range (targetCount + 1)).mapM fun i => do
        let (moved, rest) ← popAt plan day index
        return (⟨"move_attraction_between_days", day, target, i, putIn rest target i moved, a.name⟩ :
          Change)) = .ok ((targetPositions plan day).map fun target =>
            (List.range (dayLength plan target + 1)).map fun i =>
              ⟨"move_attraction_between_days", day, target, i,
                moveAttraction plan day index target i, a.name⟩) := by
    apply mapM_ok
    intro target htarget
    obtain ⟨hlt, -⟩ := mem_targetPositions hd htarget
    have hlen := dayAt_length (dayAt_eq hlt)
    rw [bind_of_ok (dayAt_eq hlt)]
    dsimp only
    rw [hlen]
    apply mapM_ok
    intro i _
    rw [bind_of_ok (popAt_eq h), moveAttraction_eq h]
    rfl
  have hlen := dayAt_length (dayAt_eq hd)
  rw [changesAt, bind_of_ok (readAt_eq h), bind_of_ok (dayAt_eq hd)]
  dsimp only
  rw [hlen, bind_of_ok hwithin, bind_of_ok hbetween, List.flatMap_def]
  rfl

theorem changesOf_eq (plan : TripPlan) (issue : ConstraintIssue) :
    changesOf plan issue = .ok (changes plan issue) := by
  unfold changesOf changes
  cases hplace : issuePlace plan issue with
  | none =>
    unfold issuePlace at hplace
    split
    · rfl
    · rename_i day hday
      obtain ⟨hd, -⟩ := dayPosition_lt hday
      have hlen := dayAt_length (dayAt_eq hd)
      rw [hday, Option.bind_some] at hplace
      rw [bind_of_ok (dayAt_eq hd)]
      dsimp only
      rw [hlen]
      split at hplace
      · rename_i hzero
        rw [if_pos hzero]
        rfl
      · split at hplace
        · cases hplace
        · cases hplace
  | some place =>
    obtain ⟨day, index⟩ := place
    obtain ⟨-, a, ha⟩ := issuePlace_some hplace
    obtain ⟨d, hday, hplace⟩ := Option.bind_eq_some_iff.mp hplace
    obtain ⟨hd, -⟩ := dayPosition_lt hday
    have hlen := dayAt_length (dayAt_eq hd)
    simp only [hday]
    rw [bind_of_ok (dayAt_eq hd), hlen]
    split at hplace
    · cases hplace
    · rename_i hpos
      rw [if_neg hpos]
      cases hindex : issue.sourceIndex with
      | some i =>
        rw [hindex] at hplace
        cases hplace
        dsimp only
        rw [changesAt_eq ha, ha]
        rfl
      | none =>
        rw [hindex] at hplace
        cases hplace
        dsimp only
        rw [changesAt_eq ha, ha]
        rfl

theorem removalsOn_eq (h : day < plan.days.length) :
    removalsOn plan day = .ok ((((plan.days[day]?.map (·.attractions)).getD []).zipIdx).map fun a =>
      ⟨"remove_attraction_for_constraint_feasibility", day, day, a.2, takeOut plan day a.2,
        a.1.name⟩) := by
  rw [removalsOn, bind_of_ok (dayAt_eq h), List.getElem?_eq_getElem h]
  apply mapM_ok
  rintro ⟨a, i⟩ ha
  have hat : attractionAt plan day i = some a := by
    obtain ⟨hi, hget⟩ := List.mem_zipIdx' ha
    rw [attractionAt, List.getElem?_eq_getElem h, hget]
    exact List.getElem?_eq_getElem hi
  rw [bind_of_ok (popAt_eq hat)]
  rfl

theorem removalsOf_eq (plan : TripPlan) (issues : List ConstraintIssue) :
    removalsOf plan issues = .ok (removals plan issues) := by
  rw [removalsOf, mapM_ok fun day hday => removalsOn_eq (affectedDays_lt hday), removals,
    List.flatMap_def]
  rfl

theorem moveTarget_eq (w : TripPlan × List String) (t : Target) :
    moveTarget w t = .ok (moveToEnd w t) := by
  unfold moveTarget moveToEnd
  cases hday : dayPosition w.1 t.dayIndex with
  | none => rfl
  | some day =>
    dsimp only
    obtain ⟨hd, -⟩ := dayPosition_lt hday
    cases hindex : findAttractionIndex w.1 day t.poiId t.name with
    | none => rfl
    | some index =>
      dsimp only
      obtain ⟨a, ha⟩ := findAttractionIndex_some hd hindex
      have hlen := dayAt_length (dayAt_eq hd)
      rw [bind_of_ok (dayAt_eq hd), hlen]
      split
      · rfl
      · rw [bind_of_ok (popAt_eq ha), moveAttraction_eq ha, ha]
        rfl

theorem batchCandidate_eq (o : ConstraintOptimizer F D) (h : 0 < plan.days.length) (firstDay : Int)
    (movedNames removedNames : List String) (baselineCost candidateCost : ℚ) (considered : Nat)
    (strategy : String) :
    batchCandidate o plan firstDay movedNames removedNames baselineCost candidateCost considered
      strategy = .ok (openingHoursCandidate o plan firstDay movedNames removedNames baselineCost
        candidateCost considered strategy) := by
  have hd : (dayPosition plan firstDay).getD 0 < plan.days.length := by
    cases hday : dayPosition plan firstDay with
    | none => exact h
    | some day => exact (dayPosition_lt hday).1
  have hlen := dayAt_length (dayAt_eq hd)
  rw [batchCandidate, bind_of_ok (dayAt_eq hd), hlen]
  rfl

end Reads

section Pops

variable {plan : TripPlan}

theorem popAll_cons (r : Remaining) (rest : List Remaining) :
    (∃ p, popAll plan (r :: rest) = .ok p) ↔ r.index < dayLength plan r.day ∧
      ∃ p, popAll (takeOut plan r.day r.index) rest = .ok p := by
  constructor
  · rintro ⟨p, h⟩
    obtain ⟨p', hp', h⟩ := bind_ok h
    obtain ⟨x, hx, rfl⟩ := map_ok hp'
    obtain ⟨hat, hrest⟩ := popAt_ok hx
    rw [attractionAt_eq] at hat
    rw [hrest] at h
    rw [dayLength_eq]
    exact ⟨(List.getElem?_eq_some_iff.mp hat).1, p, h⟩
  · rintro ⟨hlt, p, h⟩
    rw [dayLength_eq] at hlt
    have hat : attractionAt plan r.day r.index = some (dayAttractions plan r.day)[r.index] := by
      rw [attractionAt_eq]
      exact List.getElem?_eq_getElem hlt
    have hpop : (popAt plan r.day r.index).map (·.2) = .ok (takeOut plan r.day r.index) := by
      rw [popAt_eq hat]
      rfl
    exact ⟨p, (bind_of_ok hpop _).trans h⟩

theorem popAll_ok {removals : List Remaining} {p : TripPlan} (h : popAll plan removals = .ok p) :
    p = removals.foldl (fun p r => takeOut p r.day r.index) plan := by
  induction removals generalizing plan with
  | nil => exact (Except.ok.inj h).symm
  | cons r rest ih =>
    obtain ⟨p', hp', h⟩ := bind_ok h
    obtain ⟨x, hx, rfl⟩ := map_ok hp'
    rw [List.foldl_cons, ← (popAt_ok hx).2]
    exact ih h

/-- How many of the removals are on a day. -/
def onDay (removals : List Remaining) (day : Nat) : Nat := removals.countP fun r => decide (r.day = day)

theorem dayLength_popped {r : Remaining} (h : r.index < dayLength plan r.day) (day : Nat) :
    dayLength (takeOut plan r.day r.index) day + onDay [r] day = dayLength plan day := by
  by_cases hd : r.day = day
  · subst hd
    have hone : onDay [r] r.day = 1 := List.countP_singleton.trans (if_pos (decide_eq_true rfl))
    rw [dayLength_takeOut h, hone]
    omega
  · have hnone : onDay [r] day = 0 :=
      List.countP_singleton.trans (if_neg fun hsame => hd (of_decide_eq_true hsame))
    rw [dayLength_takeOut_ne hd, hnone, add_zero]

/-- Each pop finds its day shorter by the pops before it. -/
theorem popAll_ok_iff (removals : List Remaining) : (∃ p, popAll plan removals = .ok p) ↔
    ∀ i (hi : i < removals.length), removals[i].index + onDay (removals.take i) removals[i].day <
      dayLength plan removals[i].day := by
  induction removals generalizing plan with
  | nil => exact ⟨fun _ i hi => absurd hi (Nat.not_lt_zero i), fun _ => ⟨plan, rfl⟩⟩
  | cons r rest ih =>
    rw [popAll_cons, ih]
    have hcount (i day : Nat) : onDay ((r :: rest).take (i + 1)) day =
        onDay [r] day + onDay (rest.take i) day := by
      rw [List.take_succ_cons, ← List.singleton_append, onDay, List.countP_append]
      rfl
    constructor
    · rintro ⟨hlt, hrest⟩ i hi
      cases i with
      | zero => exact hlt
      | succ i =>
        have hi' : i < rest.length := Nat.lt_of_succ_lt_succ hi
        have hstep := hrest i hi'
        have hlen := dayLength_popped hlt rest[i].day
        rw [hcount]
        simp only [List.getElem_cons_succ]
        omega
    · intro hall
      have hlt : r.index < dayLength plan r.day := hall 0 (Nat.zero_lt_succ _)
      refine ⟨hlt, ?_⟩
      intro i hi
      have hstep := hall (i + 1) (Nat.succ_lt_succ hi)
      have hlen := dayLength_popped hlt rest[i].day
      rw [hcount] at hstep
      simp only [List.getElem_cons_succ] at hstep
      omega

/-- The removals that fall among the last `m` attractions of a day. -/
def nearEnd (plan : TripPlan) (removals : List Remaining) (day m : Nat) : Nat :=
  removals.countP fun r => decide (r.day = day ∧ dayLength plan day ≤ r.index + m)

/-- No more removals fall among the last attractions of a day than there are of these. -/
def InRange (plan : TripPlan) (removals : List Remaining) : Prop :=
  ∀ day m, nearEnd plan removals day m ≤ m

theorem InRange.perm {removals removals' : List Remaining} (h : InRange plan removals)
    (hp : removals'.Perm removals) : InRange plan removals' := by
  intro day m
  rw [nearEnd, hp.countP_eq]
  exact h day m

theorem nearEnd_take (removals : List Remaining) (day m : Nat)
    (h : ∀ i (hi : i < removals.length), removals[i].index + onDay (removals.take i) removals[i].day <
      dayLength plan removals[i].day) (k : Nat) : nearEnd plan (removals.take k) day m ≤ m := by
  induction k with
  | zero => exact Nat.zero_le m
  | succ k ih =>
    by_cases hk : k < removals.length
    · rw [List.take_succ_eq_append_getElem hk, nearEnd, List.countP_append, List.countP_singleton]
      split
      · rename_i hlast
        obtain ⟨hday, hlate⟩ := of_decide_eq_true hlast
        have hpop := h k hk
        have hbefore : nearEnd plan (removals.take k) day m ≤ onDay (removals.take k) day := by
          apply List.countP_mono_left
          intro r _ hr
          exact decide_eq_true (of_decide_eq_true hr).1
        rw [hday] at hpop
        rw [nearEnd] at hbefore
        omega
      · exact ih
    · rw [List.take_of_length_le (by omega)] at ih ⊢
      exact ih

/-- Those of a day that come before a removal are as near to the end of the day as it is. -/
theorem onDay_lt_nearEnd {removals : List Remaining} (h : removals.Pairwise Later) {i : Nat}
    (hi : i < removals.length) : onDay (removals.take i) removals[i].day <
      nearEnd plan removals removals[i].day
        (dayLength plan removals[i].day - removals[i].index) := by
  have hbefore : onDay (removals.take i) removals[i].day ≤ nearEnd plan (removals.take i)
      removals[i].day (dayLength plan removals[i].day - removals[i].index) := by
    apply List.countP_mono_left
    intro r hr hday
    have hday := of_decide_eq_true hday
    obtain ⟨j, hj, rfl⟩ := List.mem_take_iff_getElem.mp hr
    have hlater := List.pairwise_iff_getElem.mp h j i (by omega) hi (by omega)
    refine decide_eq_true ⟨hday, ?_⟩
    obtain hless | ⟨-, hless | ⟨hsame, -⟩⟩ := hlater
    · omega
    · omega
    · omega
  have hself : nearEnd plan [removals[i]] removals[i].day
      (dayLength plan removals[i].day - removals[i].index) = 1 := by
    refine List.countP_singleton.trans (if_pos (decide_eq_true ⟨rfl, ?_⟩))
    omega
  have htake : nearEnd plan (removals.take (i + 1)) removals[i].day
      (dayLength plan removals[i].day - removals[i].index) ≤ nearEnd plan removals removals[i].day
        (dayLength plan removals[i].day - removals[i].index) :=
    (List.take_sublist _ _).countP_le
  rw [List.take_succ_eq_append_getElem hi, nearEnd, List.countP_append] at htake
  rw [nearEnd] at hbefore hself
  omega

/-- From the end to the start all pops succeed exactly where the removals are in range. -/
theorem popAll_fromTheEnd (removals : List Remaining) :
    (∃ p, popAll plan (fromTheEnd removals) = .ok p) ↔ InRange plan removals := by
  rw [popAll_ok_iff]
  constructor
  · intro h
    refine InRange.perm ?_ (fromTheEnd_perm removals).symm
    intro day m
    have hall := nearEnd_take (fromTheEnd removals) day m h (fromTheEnd removals).length
    rwa [List.take_length] at hall
  · intro h i hi
    have hall := h.perm (fromTheEnd_perm removals) (fromTheEnd removals)[i].day
      (dayLength plan (fromTheEnd removals)[i].day - (fromTheEnd removals)[i].index)
    have hbefore := (onDay_lt_nearEnd (fromTheEnd_later removals) hi).trans_le hall
    omega

theorem popAll_descending {removals : List Remaining} (hlisted : Listed plan removals)
    (hdesc : Descending removals) : ∃ p, popAll plan removals = .ok p := by
  induction removals generalizing plan with
  | nil => exact ⟨plan, rfl⟩
  | cons r rest ih =>
    obtain ⟨a, ha, -⟩ := hlisted r List.mem_cons_self
    rw [attractionAt_eq] at ha
    refine (popAll_cons r rest).mpr ⟨?_, ?_⟩
    · rw [dayLength_eq]
      exact (List.getElem?_eq_some_iff.mp ha).1
    · exact ih (hlisted.takeOut hdesc) (List.pairwise_cons.mp hdesc).2

/-- Conflicts at different places are in range. -/
theorem remainingConflicts_inRange {issues : List ConstraintIssue} (h : Apart issues) :
    InRange plan (remainingConflicts plan issues) :=
  (popAll_fromTheEnd _).mp (popAll_descending
    ((remainingConflicts_listed plan issues).perm (fromTheEnd_perm _))
    (fromTheEnd_descending (remainingConflicts_apart h)))

end Pops

section Attended

variable (request : TripRequest) (attractions weather : Option D)

/-- The conflicts of opening hours of a plan that name their attraction. -/
def conflictsOf (plan : TripPlan) : List ConstraintIssue :=
  (o.issues (assess o request attractions weather plan).1).filter fun i =>
    decide (i.code = outsideOpeningHours) && i.sourceIndex.isSome

/-- The plan with the targets moved to the end, and the removals that follow. -/
def batch (plan : TripPlan) (report : TripConstraintReport F D) : TripPlan × List Remaining :=
  let working := ((openingTargets o plan report).foldl moveToEnd (plan, [])).1
  (working,
    if openingTargets o plan report = [] ∨ o.maxCandidates < 2 then []
    else remainingConflicts working (conflictsOf o request attractions weather working))

/-- The plan without the removals, if there are any. -/
def takenOut (working : TripPlan) (removals : List Remaining) : List TripPlan :=
  if removals = [] then []
  else [(fromTheEnd removals).foldl (fun p r => takeOut p r.day r.index) working]

/-- The plans of a batch that go to the evaluators. -/
def batched (plan : TripPlan) (report : TripConstraintReport F D) : List TripPlan :=
  match openingTargets o plan report with
  | [] => []
  | _ :: _ =>
    (batch o request attractions weather plan report).1 ::
      takenOut (batch o request attractions weather plan report).1
        (batch o request attractions weather plan report).2

variable {o request attractions weather} {plan : TripPlan}

theorem takenOut_length (removals : List Remaining) :
    (removals.foldl (fun p r => takeOut p r.day r.index) plan).days.length = plan.days.length := by
  apply List.foldlRecOn (motive := fun p : TripPlan => p.days.length = plan.days.length)
  · rfl
  · intro p hp r _
    exact (List.length_modify _ _ _).trans hp

theorem openingTargets_days {report : TripConstraintReport F D} {first : Target} {rest : List Target}
    (h : openingTargets o plan report = first :: rest) : 0 < plan.days.length := by
  have hmem : first ∈ openingTargets o plan report := h ▸ List.mem_cons_self
  obtain ⟨issue, -, hissue⟩ := List.mem_filterMap.mp hmem
  split at hissue
  · obtain ⟨index, -, hissue⟩ := Option.bind_eq_some_iff.mp hissue
    obtain ⟨day, hday, -⟩ := Option.bind_eq_some_iff.mp hissue
    obtain ⟨hlt, -⟩ := dayPosition_lt hday
    exact Nat.zero_lt_of_lt hlt
  · cases hissue

theorem inRange_nil (plan : TripPlan) : InRange plan [] := fun _ m => Nat.zero_le m

variable (o) in
/-- What a batch of removals comes to. -/
def reducedBatch (request : TripRequest) (attractions weather : Option D) (working : TripPlan)
    (firstDay : Int) (movedNames : List String) (baselineCost : ℚ) (removals : List Remaining) :
    Option ConstraintOptimizationCandidate :=
  if removals = [] then none
  else
    let reduced := removals.foldl (fun p r => takeOut p r.day r.index) working
    let (constraints, cost) := assess o request attractions weather reduced
    if (o.issues constraints).any (·.code == outsideOpeningHours) then none
    else if baselineCost ≤ cost + 1 / 100 then none
    else
      some (openingHoursCandidate o reduced firstDay movedNames (removals.map (·.name)).reverse
        baselineCost cost 2 "remove_attractions_outside_opening_hours")

theorem attended_reduceBatch {working : TripPlan} (hdays : 0 < working.days.length) (firstDay : Int)
    (movedNames : List String) (baselineCost : ℚ) (removals : List Remaining) :
    Yields (attended (assess o request attractions weather)
        (reduceBatch o working firstDay movedNames baselineCost (fromTheEnd removals)))
      (takenOut working removals) (InRange working removals)
      (reducedBatch o request attractions weather working firstDay movedNames baselineCost
        (fromTheEnd removals)) := by
  have hempty : fromTheEnd removals = [] ↔ removals = [] := by
    have hlen := (fromTheEnd_perm removals).length_eq
    rw [← List.length_eq_zero_iff, ← List.length_eq_zero_iff, hlen]
  unfold reduceBatch reducedBatch takenOut
  split
  · rename_i hnone
    rw [if_pos (hempty.mp hnone), hempty.mp hnone]
    exact yields_ok (inRange_nil working)
  · rename_i hsome
    rw [if_neg fun h => hsome (hempty.mpr h)]
    cases hpops : popAll working (fromTheEnd removals) with
    | error e =>
      refine yields_error ?_
      intro hin
      obtain ⟨p, hp⟩ := (popAll_fromTheEnd removals).mpr hin
      rw [hpops] at hp
      cases hp
    | ok reduced =>
      have hin := (popAll_fromTheEnd removals).mp ⟨reduced, hpops⟩
      have hlen : 0 < reduced.days.length := by
        rw [popAll_ok hpops, takenOut_length]
        exact hdays
      rw [← popAll_ok hpops]
      rw [attempt, attended_known, attended_next]
      refine Yields.next ?_ reduced
      dsimp only
      split
      · exact yields_ok hin
      · split
        · exact yields_ok hin
        · rw [batchCandidate_eq o hlen]
          exact yields_ok hin

variable (request attractions weather plan) in
/-- A batch takes two plans to the evaluators at most, and it fails where its removals are
not in range. -/
theorem attended_repair (report : TripConstraintReport F D) (baselineCost : ℚ) :
    Yields (attended (assess o request attractions weather) (repair o plan report baselineCost))
      (batched o request attractions weather plan report)
      (InRange (batch o request attractions weather plan report).1
        (batch o request attractions weather plan report).2)
      (repairOpeningHoursConflicts o request attractions weather plan report baselineCost) := by
  unfold repair repairOpeningHoursConflicts batched batch
  cases htargets : openingTargets o plan report with
  | nil => exact yields_ok (inRange_nil _)
  | cons first rest =>
    obtain ⟨moved, -, hreplanned⟩ := movedToEnd_replanned plan (first :: rest)
    have hdays := openingTargets_days htargets
    rw [← hreplanned.length] at hdays
    dsimp only
    rw [foldlM_ok moveTarget_eq]
    generalize (first :: rest).foldl moveToEnd (plan, []) = w at hdays ⊢
    obtain ⟨working, movedNames⟩ := w
    rw [attempt, attended_known, attended_next]
    refine Yields.next ?_ working
    dsimp only at hdays ⊢
    split
    · rename_i hnone
      have hempty : (if first :: rest = [] ∨ o.maxCandidates < 2 then []
          else remainingConflicts working (conflictsOf o request attractions weather working)) = [] := by
        rw [conflictsOf, hnone]
        exact ite_self _
      rw [hempty]
      split
      · rw [batchCandidate_eq o hdays]
        exact yields_ok (inRange_nil _)
      · exact yields_ok (inRange_nil _)
    · split
      · rename_i hmax
        rw [if_pos (Or.inr hmax)]
        exact yields_ok (inRange_nil _)
      · rename_i hmax
        rw [if_neg fun hor => hor.elim nofun hmax]
        exact attended_reduceBatch hdays _ _ _ _

theorem attended_best (baselineCost : ℚ) (candidates : List Change) :
    (attended (assess o request attractions weather) (best baselineCost candidates) :
      Noted TripPlan String (Option Scored)) =
        ⟨candidates.map (·.plan), .ok (bestOf o request attractions weather baselineCost candidates)⟩ := by
  have hscored : List.zipWith (fun answer c => (⟨answer.2, c⟩ : Scored))
      ((candidates.map (·.plan)).map (assess o request attractions weather)) candidates =
        candidates.map fun c => ⟨(assess o request attractions weather c.plan).2, c⟩ := by
    rw [List.map_map, List.zipWith_map_left, List.zipWith_self]
    rfl
  rw [best, attended_then _ (attended_inquireAll _ _), hscored]
  exact congrArg (fun asked => (⟨asked, .ok (bestOf o request attractions weather baselineCost
    candidates)⟩ : Noted TripPlan String (Option Scored))) (List.append_nil _)

/-- A change as a candidate. -/
def finished (o : ConstraintOptimizer F D) (plan : TripPlan) (baselineCost : ℚ) (x : Scored)
    (removedNames : List String) (considered : Nat) : ConstraintOptimizationCandidate :=
  { plan := x.change.plan
    sourceDayIndex := stableDayIndex plan x.change.source
    targetDayIndex := stableDayIndex plan x.change.target
    movedAttractionName := x.change.movedName
    targetInsertionIndex := x.change.insertionIndex
    removedAttractionNames := removedNames
    strategy := x.change.strategy
    baselineCost := o.round baselineCost
    candidateCost := o.round x.cost
    approximateImprovementPercent := improvement o baselineCost x.cost
    consideredCandidates := considered }

theorem chosen_eq {x : Scored} (hs : x.change.source < plan.days.length)
    (ht : x.change.target < plan.days.length) (baselineCost : ℚ) (removedNames : List String)
    (considered : Nat) : chosen o plan baselineCost x removedNames considered =
      .ok (finished o plan baselineCost x removedNames considered) := by
  have hstable {day : Nat} (h : day < plan.days.length) :
      plan.days[day].indexAt day = stableDayIndex plan day := by
    rw [stableDayIndex, List.getElem?_eq_getElem h]
    rfl
  rw [chosen, bind_of_ok (dayAt_eq hs), bind_of_ok (dayAt_eq ht), hstable hs, hstable ht]
  rfl

variable (o request attractions weather plan) in
/-- The plans of the search that go to the evaluators. -/
def searched (issues : List ConstraintIssue) (baselineCost : ℚ) : List TripPlan :=
  (tried o plan issues).map (·.plan) ++
    match bestOf o request attractions weather baselineCost (tried o plan issues) with
    | some _ => []
    | none => ((removals plan issues).take o.maxCandidates).map (·.plan)

variable (request attractions weather plan) in
theorem attended_search (issues : List ConstraintIssue) (baselineCost : ℚ) :
    (attended (assess o request attractions weather) (search o plan issues baselineCost) :
        Noted TripPlan String (Option ConstraintOptimizationCandidate)) =
      ⟨searched o request attractions weather plan issues baselineCost,
        .ok (match bestOf o request attractions weather baselineCost (tried o plan issues) with
          | some x => some (finished o plan baselineCost x [] (tried o plan issues).length)
          | none =>
            (bestOf o request attractions weather baselineCost
              ((removals plan issues).take o.maxCandidates)).map fun x =>
                finished o plan baselineCost x [x.change.movedName]
                  ((tried o plan issues).length +
                    ((removals plan issues).take o.maxCandidates).length))⟩ := by
  have hchanges : issues.mapM (changesOf plan) = .ok (issues.map (changes plan)) :=
    mapM_ok fun issue _ => changesOf_eq plan issue
  have htried : (issues.map (changes plan)).flatten.foldl (appendUnique o) [] = tried o plan issues := by
    rw [tried, List.flatMap_def]
  rw [search, hchanges, attempt, attended_known]
  dsimp only
  rw [htried, attended_then _ (attended_best baselineCost _), searched]
  cases hfirst : bestOf o request attractions weather baselineCost (tried o plan issues) with
  | some x =>
    obtain ⟨issue, -, hc⟩ := List.mem_flatMap.mp (appended_mem o (bestOf_some hfirst).1)
    have hchange := changes_changeOf hc
    dsimp only
    rw [chosen_eq hchange.source hchange.target]
    rfl
  | none =>
    dsimp only
    rw [removalsOf_eq, attempt, attended_known, attended_then _ (attended_best baselineCost _)]
    cases hsecond : bestOf o request attractions weather baselineCost
        ((removals plan issues).take o.maxCandidates) with
    | none =>
      exact congrArg (fun asked => (⟨(tried o plan issues).map (·.plan) ++ asked, .ok none⟩ :
        Noted TripPlan String (Option ConstraintOptimizationCandidate))) (List.append_nil _)
    | some x =>
      have hremoval := removals_removalOf (List.mem_of_mem_take (bestOf_some hsecond).1)
      dsimp only
      rw [chosen_eq hremoval.source hremoval.target]
      exact congrArg (fun asked => (⟨(tried o plan issues).map (·.plan) ++ asked, .ok (some _)⟩ :
        Noted TripPlan String (Option ConstraintOptimizationCandidate))) (List.append_nil _)

section

variable (o request attractions weather plan)

/-- What the batch of removals takes out is in range, if there is anything to repair. -/
def Removable (report : TripConstraintReport F D) : Prop :=
  actionable o report ≠ [] →
    InRange (batch o request attractions weather plan
        (assess o request attractions weather plan).1).1
      (batch o request attractions weather plan (assess o request attractions weather plan).1).2

/-- The plans that go to the evaluators: the plan, those of the batch and, where it comes to
nothing, those of the search. -/
def evaluated (report : TripConstraintReport F D) : List TripPlan :=
  if actionable o report = [] then []
  else
    let (constraints, baselineCost) := assess o request attractions weather plan
    plan :: (batched o request attractions weather plan constraints ++
      match repairOpeningHoursConflicts o request attractions weather plan constraints
        baselineCost with
      | some _ => []
      | none =>
        searched o request attractions weather plan (actionable o report) baselineCost)

end

variable (o request attractions weather plan) in
/-- The optimizer fails exactly where its batch of removals is not in range, and else comes
to what it comes to without any reads or pops. -/
theorem attended_optimize (report : TripConstraintReport F D) :
    Yields (attended (assess o request attractions weather) (optimize o plan report))
      (evaluated o request attractions weather plan report)
      (Removable o request attractions weather plan report)
      (ConstraintRepairs.optimize o request attractions weather plan report) := by
  unfold optimize ConstraintRepairs.optimize Removable evaluated
  dsimp only
  split
  · rename_i hnone
    exact yields_ok fun h => absurd hnone h
  · rename_i hsome
    have hrepair := attended_repair request attractions weather plan
      (o := o) (assess o request attractions weather plan).1
      (assess o request attractions weather plan).2
    rw [attended_next]
    refine Yields.next ?_ plan
    cases hrun : attended (assess o request attractions weather)
        (repair o plan (assess o request attractions weather plan).1
          (assess o request attractions weather plan).2) with
    | mk asked outcome =>
      rw [hrun] at hrepair
      cases outcome with
      | error e =>
        rw [attended_fails _ hrun]
        refine ⟨hrepair.inOrder.trans (List.prefix_append _ _), ?_, fun _ ha => nomatch ha⟩
        intro h
        cases hrepair.returns (h hsome)
      | ok c =>
        have hin := hrepair.holds c rfl
        cases hrepair.returns hin
        rw [attended_then _ hrun]
        cases hc : repairOpeningHoursConflicts o request attractions weather plan
            (assess o request attractions weather plan).1
            (assess o request attractions weather plan).2 with
        | some c => exact yields_ok fun _ => hin
        | none =>
          rw [attended_search]
          exact yields_ok fun _ => hin

theorem tried_length (o : ConstraintOptimizer F D) (plan : TripPlan) (issues : List ConstraintIssue) :
    (tried o plan issues).length ≤ o.maxCandidates := by
  apply List.foldlRecOn (motive := fun kept : List Change => kept.length ≤ o.maxCandidates)
  · exact Nat.zero_le _
  · intro kept hkept c _
    unfold appendUnique
    split
    · exact hkept
    · rename_i hroom
      rw [List.length_append, List.length_singleton]
      omega

/-- Besides the plan, two plans of a batch and a limited number of changes and of removals. -/
def WithinBudget (maxCandidates : Nat) (plan : TripPlan) (asked : List TripPlan) : Prop :=
  ∃ batch changed reduced : List TripPlan,
    asked <+: plan :: (batch ++ (changed ++ reduced)) ∧ batch.length ≤ 2 ∧
    (changed.length ≤ maxCandidates ∧ ∀ p ∈ changed, ∃ moved, Replanned plan p {moved} 0) ∧
    reduced.length ≤ maxCandidates ∧ ∀ p ∈ reduced, ∃ removed, Replanned plan p 0 {removed}

variable (o request attractions weather plan) in
theorem batched_length (report : TripConstraintReport F D) :
    (batched o request attractions weather plan report).length ≤ 2 := by
  unfold batched takenOut
  split
  · exact Nat.zero_le 2
  · split
    · exact Nat.le_succ 1
    · exact le_rfl

variable (o request attractions weather plan) in
theorem evaluated_budget (report : TripConstraintReport F D) :
    WithinBudget o.maxCandidates plan (evaluated o request attractions weather plan report) := by
  refine ⟨batched o request attractions weather plan (assess o request attractions weather plan).1,
    (tried o plan (actionable o report)).map (·.plan),
    ((removals plan (actionable o report)).take o.maxCandidates).map (·.plan), ?_,
    batched_length o request attractions weather plan _, ⟨?_, ?_⟩, ?_, ?_⟩
  · unfold evaluated
    split
    · exact List.nil_prefix
    · refine (List.prefix_cons_inj _).mpr ((List.prefix_append_right_inj _).mpr ?_)
      split
      · exact List.nil_prefix
      · refine (List.prefix_append_right_inj _).mpr ?_
        split
        · exact List.nil_prefix
        · exact List.prefix_refl _
  · rw [List.length_map]
    exact tried_length o plan _
  · intro p hp
    obtain ⟨c, hc, rfl⟩ := List.mem_map.mp hp
    obtain ⟨issue, -, hchange⟩ := List.mem_flatMap.mp (appended_mem o hc)
    obtain ⟨moved, -, hplan⟩ := (changes_changeOf hchange).replanned
    exact ⟨moved, hplan⟩
  · rw [List.length_map]
    exact List.length_take_le _ _
  · intro p hp
    obtain ⟨c, hc, rfl⟩ := List.mem_map.mp hp
    obtain ⟨removed, -, hplan⟩ := (removals_removalOf (List.mem_of_mem_take hc)).replanned
    exact ⟨removed, hplan⟩

end Attended

section Answered

variable {answer : TripPlan → Except String (TripConstraintReport F D × ℚ)} {o}
  {plan : TripPlan} {c : ConstraintOptimizationCandidate}

theorem batchCandidate_plan {firstDay : Int} {movedNames removedNames : List String}
    {baselineCost cost : ℚ} {considered : Nat} {strategy : String}
    (h : batchCandidate o plan firstDay movedNames removedNames baselineCost cost considered strategy =
      .ok c) : c.plan = plan := by
  obtain ⟨d, -, h⟩ := bind_ok h
  cases h
  rfl

theorem reduceBatch_answered {firstDay : Int} {movedNames : List String} {baselineCost : ℚ}
    {removals : List Remaining}
    (h : (interview answer (reduceBatch o plan firstDay movedNames baselineCost removals)).outcome =
      .ok (some c)) : ∃ k, answer c.plan = .ok k := by
  unfold reduceBatch at h
  split at h
  · cases h
  · obtain ⟨reduced, -, h⟩ := interview_then h
    obtain ⟨k, hk, h⟩ := interview_next h
    dsimp only at h
    split at h
    · cases h
    · split at h
      · cases h
      · obtain ⟨c', hc', h⟩ := interview_then h
        cases h
        rw [batchCandidate_plan hc']
        exact ⟨k, hk⟩

theorem repair_answered {report : TripConstraintReport F D} {baselineCost : ℚ}
    (h : (interview answer (repair o plan report baselineCost)).outcome = .ok (some c)) :
    ∃ k, answer c.plan = .ok k := by
  unfold repair at h
  split at h
  · cases h
  · obtain ⟨w, -, h⟩ := interview_then h
    obtain ⟨k, hk, h⟩ := interview_next h
    dsimp only at h
    split at h
    · split at h
      · obtain ⟨c', hc', h⟩ := interview_then h
        cases h
        rw [batchCandidate_plan hc']
        exact ⟨k, hk⟩
      · cases h
    · split at h
      · cases h
      · exact reduceBatch_answered h

theorem best_answered {baselineCost : ℚ} {candidates : List Change} {x : Scored}
    (h : (interview answer (best baselineCost candidates)).outcome = .ok (some x)) :
    ∃ k, answer x.change.plan = .ok k := by
  obtain ⟨answers, hanswers, h⟩ := interview_then h
  have hx := Except.ok.inj h
  obtain hb | hm := Regrouping.keepBest_mem hx
  · cases hb
  · obtain ⟨i, hi, hget⟩ := List.mem_iff_getElem.mp (List.mem_filter.mp hm).1
    rw [List.getElem_zipWith] at hget
    rw [List.length_zipWith] at hi
    have hmem : x.change ∈ candidates := by
      rw [← hget]
      exact List.getElem_mem _
    exact interview_all hanswers _ (List.mem_map.mpr ⟨x.change, hmem, rfl⟩)

theorem chosen_plan {baselineCost : ℚ} {x : Scored} {removedNames : List String} {considered : Nat}
    (h : chosen o plan baselineCost x removedNames considered = .ok c) : c.plan = x.change.plan := by
  obtain ⟨source, -, h⟩ := bind_ok h
  obtain ⟨target, -, h⟩ := bind_ok h
  cases h
  rfl

theorem search_answered {issues : List ConstraintIssue} {baselineCost : ℚ}
    (h : (interview answer (search o plan issues baselineCost)).outcome = .ok (some c)) :
    ∃ k, answer c.plan = .ok k := by
  obtain ⟨found, -, h⟩ := interview_then h
  obtain ⟨first, hfirst, h⟩ := interview_then h
  cases first with
  | some x =>
    obtain ⟨c', hc', h⟩ := interview_then h
    cases h
    rw [chosen_plan hc']
    exact best_answered hfirst
  | none =>
    obtain ⟨removals, -, h⟩ := interview_then h
    obtain ⟨second, hsecond, h⟩ := interview_then h
    cases second with
    | none => cases h
    | some x =>
      obtain ⟨c', hc', h⟩ := interview_then h
      cases h
      rw [chosen_plan hc']
      exact best_answered hsecond

/-- A candidate has been evaluated, and so has the plan. -/
theorem optimize_answered {report : TripConstraintReport F D}
    (h : (interview answer (optimize o plan report)).outcome = .ok (some c)) :
    (∃ k, answer plan = .ok k) ∧ ∃ k, answer c.plan = .ok k := by
  unfold optimize at h
  dsimp only at h
  split at h
  · cases h
  · obtain ⟨k, hk, h⟩ := interview_next h
    obtain ⟨repaired, hrepaired, h⟩ := interview_then h
    refine ⟨⟨k, hk⟩, ?_⟩
    cases repaired with
    | some c' =>
      cases h
      exact repair_answered hrepaired
    | none => exact search_answered h

end Answered

end TravelAgent.ConstraintAttempts

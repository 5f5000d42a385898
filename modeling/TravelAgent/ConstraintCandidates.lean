import Mathlib
import TravelAgent.ConstraintRepairs
import TravelAgent.Replanning

namespace TravelAgent.ConstraintRepairs

open TravelAgent.Itinerary TravelAgent.Agent TravelAgent.PlanEdits TravelAgent.Replanning

variable {F D : Type} {plan : TripPlan}

/-- A change of one attraction's place. -/
structure ChangeOf (plan : TripPlan) (c : Change) : Prop where
  replanned : ∃ moved : Attraction, moved.name = c.movedName ∧ Replanned plan c.plan {moved} 0
  source : c.source < plan.days.length
  target : c.target < plan.days.length
  strategy : c.strategy = "reorder_attraction_within_day" ∨ c.strategy = "move_attraction_between_days"

theorem issuePlace_some {issue : ConstraintIssue} {day index : Nat}
    (h : issuePlace plan issue = some (day, index)) :
    day < plan.days.length ∧ ∃ a, attractionAt plan day index = some a := by
  obtain ⟨d, hd, h⟩ := Option.bind_eq_some_iff.mp h
  obtain ⟨hlt, -⟩ := dayPosition_lt hd
  have hin : ∀ i, i < dayLength plan d → ∃ a, attractionAt plan d i = some a := by
    intro i hi
    rw [dayLength_eq] at hi
    rw [attractionAt_eq]
    exact ⟨_, List.getElem?_eq_getElem hi⟩
  split at h
  · cases h
  · rename_i hpos
    split at h
    · rename_i i _
      cases h
      refine ⟨hlt, ?_⟩
      split
      · rename_i hi
        exact hin i hi
      · exact hin _ (by omega)
    · cases h
      exact ⟨hlt, hin _ (by omega)⟩

theorem changes_changeOf {issue : ConstraintIssue} {c : Change} (h : c ∈ changes plan issue) :
    ChangeOf plan c := by
  unfold changes at h
  split at h
  · exact absurd h List.not_mem_nil
  · rename_i day index hplace
    obtain ⟨hday, a, ha⟩ := issuePlace_some hplace
    obtain ⟨_, hindex, _⟩ := attractionAt_some ha
    have hname : a.name = ((attractionAt plan day index).map (·.name)).getD "" := by
      rw [ha]
      rfl
    have hlen : index < dayLength plan day := by
      rw [dayLength, List.getElem?_eq_getElem hday]
      exact hindex
    simp only [List.mem_append, List.mem_map, List.mem_flatMap, List.mem_filter, List.mem_range] at h
    obtain ⟨i, ⟨hi, -⟩, rfl⟩ | ⟨target, htarget, i, hi, rfl⟩ := h
    · refine ⟨⟨a, hname, replanned_move ha hday ?_⟩, hday, hday, .inl rfl⟩
      rw [dayLength_takeOut hlen]
      omega
    · obtain ⟨hlt, hne⟩ := mem_targetPositions hday htarget
      refine ⟨⟨a, hname, replanned_move ha hlt ?_⟩, hday, hlt, .inr rfl⟩
      rw [dayLength_takeOut_ne hne]
      omega

/-- The days of the issues, each once. -/
def affectedDays (plan : TripPlan) (issues : List ConstraintIssue) : List Nat :=
  (issues.filterMap fun issue => dayPosition plan issue.dayIndex).foldl
    (fun visited day => if day ∈ visited then visited else visited ++ [day]) []

theorem affectedDays_lt {issues : List ConstraintIssue} {day : Nat}
    (h : day ∈ affectedDays plan issues) : day < plan.days.length := by
  have hall : ∀ d ∈ affectedDays plan issues, d < plan.days.length := by
    apply List.foldlRecOn (motive := fun visited : List Nat => ∀ d ∈ visited, d < plan.days.length)
    · exact fun d hd => absurd hd List.not_mem_nil
    · intro visited hvisited new hnew d hd
      obtain ⟨issue, -, hissue⟩ := List.mem_filterMap.mp hnew
      split at hd
      · exact hvisited d hd
      · obtain hd | hd := List.mem_append.mp hd
        · exact hvisited d hd
        · rw [List.mem_singleton.mp hd]
          exact (dayPosition_lt hissue).1
  exact hall day h

/-- A removal of one attraction. -/
structure RemovalOf (plan : TripPlan) (c : Change) : Prop where
  replanned : ∃ removed : Attraction, removed.name = c.movedName ∧ Replanned plan c.plan 0 {removed}
  source : c.source < plan.days.length
  target : c.target < plan.days.length
  strategy : c.strategy = "remove_attraction_for_constraint_feasibility"

theorem removals_removalOf {issues : List ConstraintIssue} {c : Change}
    (h : c ∈ removals plan issues) : RemovalOf plan c := by
  simp only [removals, List.mem_flatMap, List.mem_map] at h
  obtain ⟨day, hday, ⟨a, i⟩, ha, rfl⟩ := h
  have hlt : day < plan.days.length := affectedDays_lt hday
  refine ⟨⟨a, rfl, replanned_takeOut ?_⟩, hlt, hlt, rfl⟩
  rw [List.getElem?_eq_getElem hlt] at ha
  obtain ⟨hi, hat⟩ := List.mem_zipIdx' ha
  dsimp only
  rw [hat, attractionAt, List.getElem?_eq_getElem hlt]
  exact List.getElem?_eq_getElem hi

/-- What a place holds after another one is emptied. -/
theorem attractionAt_takeOut {day index d i : Nat} (h : d = day → i < index) :
    attractionAt (takeOut plan day index) d i = attractionAt plan d i := by
  rw [attractionAt, takeOut, editDay, List.getElem?_modify, attractionAt]
  cases plan.days[d]? with
  | none => rfl
  | some x =>
    by_cases hd : day = d
    · have hi := h hd.symm
      simp only [if_pos hd, Option.map_eq_map, Option.map_some, Option.bind_some]
      exact List.getElem?_eraseIdx_of_lt hi
    · simp only [if_neg hd, Option.map_eq_map, Option.map_some, Option.bind_some]

theorem findAttractionIndex_some {day index : Nat} {poiId name : String}
    (hd : day < plan.days.length) (h : findAttractionIndex plan day poiId name = some index) :
    ∃ a, attractionAt plan day index = some a := by
  obtain ⟨hi, -⟩ := List.findIdx?_eq_some_iff_getElem.mp h
  rw [List.getElem?_eq_getElem hd] at hi
  rw [attractionAt, List.getElem?_eq_getElem hd]
  exact ⟨_, List.getElem?_eq_getElem hi⟩

theorem moveToEnd_replanned (w : TripPlan × List String) (t : Target) :
    ∃ moved : List Attraction, (moveToEnd w t).2 = w.2 ++ moved.map (·.name) ∧
      Replanned w.1 (moveToEnd w t).1 moved 0 := by
  unfold moveToEnd
  split
  · exact ⟨[], (List.append_nil _).symm, .refl _⟩
  · rename_i day hday
    split
    · exact ⟨[], (List.append_nil _).symm, .refl _⟩
    · rename_i index hindex
      split
      · exact ⟨[], (List.append_nil _).symm, .refl _⟩
      · obtain ⟨hlt, -⟩ := dayPosition_lt hday
        obtain ⟨a, ha⟩ := findAttractionIndex_some hlt hindex
        have hin : index < dayLength w.1 day := by
          rw [dayLength_eq]
          rw [attractionAt_eq] at ha
          exact (List.getElem?_eq_some_iff.mp ha).1
        refine ⟨[a], ?_, replanned_move ha hlt ?_⟩
        · rw [ha]
          rfl
        · rw [dayLength_takeOut hin]

theorem movedToEnd_replanned (plan : TripPlan) (targets : List Target) :
    ∃ moved : List Attraction, (targets.foldl moveToEnd (plan, [])).2 = moved.map (·.name) ∧
      Replanned plan (targets.foldl moveToEnd (plan, [])).1 moved 0 := by
  apply List.foldlRecOn (motive := fun w : TripPlan × List String =>
    ∃ moved : List Attraction, w.2 = moved.map (·.name) ∧ Replanned plan w.1 moved 0)
  · exact ⟨[], rfl, .refl plan⟩
  · rintro w ⟨moved, hnames, hplan⟩ t -
    obtain ⟨more, hmore, hstep⟩ := moveToEnd_replanned w t
    refine ⟨moved ++ more, ?_, ?_⟩
    · rw [hmore, hnames, List.map_append]
    · have hboth := hplan.trans hstep
      rwa [add_zero, Multiset.coe_add] at hboth

/-- The removals stand at attractions of the plan. -/
def Listed (plan : TripPlan) (removals : List Remaining) : Prop :=
  ∀ r ∈ removals, ∃ a, attractionAt plan r.day r.index = some a ∧ a.name = r.name

/-- In each day from the end to the start. -/
def Descending (removals : List Remaining) : Prop :=
  removals.Pairwise fun x y => y.day = x.day → y.index < x.index

theorem Listed.takeOut {r : Remaining} {rest : List Remaining} (h : Listed plan (r :: rest))
    (hdesc : Descending (r :: rest)) : Listed (takeOut plan r.day r.index) rest := by
  intro x hx
  obtain ⟨b, hb, hbname⟩ := h x (List.mem_cons_of_mem r hx)
  refine ⟨b, ?_, hbname⟩
  rw [attractionAt_takeOut ((List.pairwise_cons.mp hdesc).1 x hx)]
  exact hb

theorem takenOut_replanned {removals : List Remaining} (hlisted : Listed plan removals)
    (hdesc : Descending removals) :
    ∃ removed : List Attraction, removed.map (·.name) = removals.map (·.name) ∧
      Replanned plan (removals.foldl (fun p r => takeOut p r.day r.index) plan) 0 removed := by
  induction removals generalizing plan with
  | nil => exact ⟨[], rfl, .refl plan⟩
  | cons r rest ih =>
    obtain ⟨a, ha, hname⟩ := hlisted r List.mem_cons_self
    obtain ⟨removed, hnames, hplan⟩ := ih (hlisted.takeOut hdesc) (List.pairwise_cons.mp hdesc).2
    refine ⟨a :: removed, ?_, ?_⟩
    · rw [List.map_cons, List.map_cons, hname, hnames]
    · have hboth := (replanned_takeOut ha).trans hplan
      rwa [add_zero, Multiset.singleton_add, Multiset.cons_coe] at hboth

/-- `x` may come before `y` in the order of `fromTheEnd`. -/
def Later (x y : Remaining) : Prop :=
  y.day < x.day ∨ x.day = y.day ∧ (y.index < x.index ∨ x.index = y.index ∧ y.name ≤ x.name)

theorem later_iff (x y : Remaining) :
    (decide (y.day < x.day) || (decide (x.day = y.day) && (decide (y.index < x.index) ||
      (decide (x.index = y.index) && !decide (x.name < y.name))))) = true ↔ Later x y := by
  simp only [Later, Bool.or_eq_true, Bool.and_eq_true, Bool.not_eq_true', decide_eq_true_eq,
    decide_eq_false_iff_not, not_lt]

theorem Later.trans {x y z : Remaining} (h : Later x y) (h' : Later y z) : Later x z := by
  obtain h | ⟨hday, h⟩ := h
  · obtain h' | ⟨hday', -⟩ := h'
    · exact .inl (h'.trans h)
    · exact .inl (hday' ▸ h)
  · obtain h' | ⟨hday', h'⟩ := h'
    · exact .inl (hday ▸ h')
    · refine .inr ⟨hday.trans hday', ?_⟩
      obtain h | ⟨hindex, h⟩ := h
      · obtain h' | ⟨hindex', -⟩ := h'
        · exact .inl (h'.trans h)
        · exact .inl (hindex' ▸ h)
      · obtain h' | ⟨hindex', h'⟩ := h'
        · exact .inl (hindex ▸ h')
        · exact .inr ⟨hindex.trans hindex', h'.trans h⟩

theorem later_total (x y : Remaining) : Later x y ∨ Later y x := by
  obtain hday | hday | hday := lt_trichotomy x.day y.day
  · exact .inr (.inl hday)
  · obtain hindex | hindex | hindex := lt_trichotomy x.index y.index
    · exact .inr (.inr ⟨hday.symm, .inl hindex⟩)
    · obtain hname | hname := le_total y.name x.name
      · exact .inl (.inr ⟨hday, .inr ⟨hindex, hname⟩⟩)
      · exact .inr (.inr ⟨hday.symm, .inr ⟨hindex.symm, hname⟩⟩)
    · exact .inl (.inr ⟨hday, .inl hindex⟩)
  · exact .inl (.inl hday)

theorem fromTheEnd_perm (xs : List Remaining) : (fromTheEnd xs).Perm xs := List.mergeSort_perm _ _

theorem fromTheEnd_later (xs : List Remaining) : (fromTheEnd xs).Pairwise Later := by
  have hsorted : (fromTheEnd xs).Pairwise fun x y => (decide (y.day < x.day) ||
      (decide (x.day = y.day) && (decide (y.index < x.index) ||
        (decide (x.index = y.index) && !decide (x.name < y.name))))) = true := by
    apply List.pairwise_mergeSort
    · intro x y z hxy hyz
      exact (later_iff x z).mpr (((later_iff x y).mp hxy).trans ((later_iff y z).mp hyz))
    · intro x y
      rw [Bool.or_eq_true, later_iff, later_iff]
      exact later_total x y
  refine hsorted.imp ?_
  intro x y h
  exact (later_iff x y).mp h

/-- Removals at different places stand in each day from the end to the start. -/
theorem fromTheEnd_descending {xs : List Remaining}
    (h : xs.Pairwise fun x y => ¬(x.day = y.day ∧ x.index = y.index)) :
    Descending (fromTheEnd xs) := by
  have hapart : (fromTheEnd xs).Pairwise fun x y => ¬(x.day = y.day ∧ x.index = y.index) := by
    refine (fromTheEnd_perm xs).symm.pairwise h ?_
    intro x y hxy hyx
    exact hxy ⟨hyx.1.symm, hyx.2.symm⟩
  refine (hapart.and (fromTheEnd_later xs)).imp ?_
  rintro x y ⟨hne, hlater⟩ hday
  obtain h | ⟨-, h | ⟨hindex, -⟩⟩ := hlater
  · omega
  · exact h
  · exact absurd ⟨hday.symm, hindex⟩ hne

theorem remainingConflicts_listed (plan : TripPlan) (issues : List ConstraintIssue) :
    Listed plan (remainingConflicts plan issues) := by
  intro r hr
  obtain ⟨issue, -, h⟩ := List.mem_filterMap.mp hr
  obtain ⟨index, -, h⟩ := Option.bind_eq_some_iff.mp h
  obtain ⟨day, -, h⟩ := Option.bind_eq_some_iff.mp h
  obtain ⟨a, ha, rfl⟩ := Option.map_eq_some_iff.mp h
  exact ⟨a, ha, rfl⟩

theorem Listed.perm {removals removals' : List Remaining} (h : Listed plan removals)
    (hp : removals'.Perm removals) : Listed plan removals' := fun r hr => h r (hp.subset hr)

/-- The issues are about different places, by their own indices. -/
def Apart (issues : List ConstraintIssue) : Prop :=
  issues.Pairwise fun i j => ¬(i.dayIndex = j.dayIndex ∧ i.sourceIndex = j.sourceIndex)

/-- A position stands for one stable index only. -/
theorem remainingConflicts_apart {issues : List ConstraintIssue} (h : Apart issues) :
    (remainingConflicts plan issues).Pairwise fun x y => ¬(x.day = y.day ∧ x.index = y.index) := by
  refine List.pairwise_filterMap.mpr (h.imp ?_)
  intro i j hij x hx y hy
  obtain ⟨index, hindex, hx⟩ := Option.bind_eq_some_iff.mp hx
  obtain ⟨day, hday, hx⟩ := Option.bind_eq_some_iff.mp hx
  obtain ⟨a, -, rfl⟩ := Option.map_eq_some_iff.mp hx
  obtain ⟨index', hindex', hy⟩ := Option.bind_eq_some_iff.mp hy
  obtain ⟨day', hday', hy⟩ := Option.bind_eq_some_iff.mp hy
  obtain ⟨b, -, rfl⟩ := Option.map_eq_some_iff.mp hy
  rintro ⟨rfl, rfl⟩
  obtain ⟨_, hi⟩ := dayPosition_lt hday
  obtain ⟨_, hj⟩ := dayPosition_lt hday'
  exact hij ⟨hi.symm.trans hj, hindex.trans hindex'.symm⟩

/-- Issues about different places take out as many attractions, those that they are about. -/
theorem conflicts_takenOut (plan : TripPlan) {issues : List ConstraintIssue} (h : Apart issues) :
    ∃ removed : List Attraction,
      removed.map (·.name) = (fromTheEnd (remainingConflicts plan issues)).map (·.name) ∧
      Replanned plan ((fromTheEnd (remainingConflicts plan issues)).foldl
        (fun p r => takeOut p r.day r.index) plan) 0 removed :=
  takenOut_replanned ((remainingConflicts_listed plan issues).perm (fromTheEnd_perm _))
    (fromTheEnd_descending (remainingConflicts_apart h))

section

variable (o : ConstraintOptimizer F D) (request : TripRequest) (attractions weather : Option D)

/-- An issue of opening hours names its attraction and, where the days are told apart by
their indices, no other issue of opening hours is about it. -/
structure PlacedOnce : Prop where
  placed : ∀ p, ∀ i ∈ o.issues (assess o request attractions weather p).1,
    i.code = outsideOpeningHours → i.sourceIndex.isSome = true
  once : ∀ p, DistinctDays p →
    Apart ((o.issues (assess o request attractions weather p).1).filter fun i =>
      decide (i.code = outsideOpeningHours))

/-- No attraction is visited outside of its opening hours. -/
def OpenAllDay (p : TripPlan) : Prop :=
  ∀ i ∈ o.issues (assess o request attractions weather p).1, i.code ≠ outsideOpeningHours

/-- What a candidate is, by its strategy. -/
inductive RepairOf (plan : TripPlan) (c : ConstraintOptimizationCandidate) : Prop
  | reorderedBatch (strategy : c.strategy = "reorder_attractions_for_opening_hours")
      (moved : List Attraction)
      (names : c.movedAttractionName = "、".intercalate (moved.map (·.name)))
      (kept : c.removedAttractionNames = []) (replanned : Replanned plan c.plan moved 0)
      (opened : OpenAllDay o request attractions weather c.plan)
  | reducedBatch (strategy : c.strategy = "remove_attractions_outside_opening_hours")
      (moved removed : List Attraction)
      (names : c.movedAttractionName = "、".intercalate
        (if moved.map (·.name) = [] then removed.map (·.name) else moved.map (·.name)))
      (left : removed.map (·.name) = c.removedAttractionNames)
      (replanned : Replanned plan c.plan moved removed)
      (opened : OpenAllDay o request attractions weather c.plan)
  | changed (strategy : c.strategy = "reorder_attraction_within_day" ∨
        c.strategy = "move_attraction_between_days")
      (moved : Attraction) (name : moved.name = c.movedAttractionName)
      (kept : c.removedAttractionNames = []) (replanned : Replanned plan c.plan {moved} 0)
  | reduced (strategy : c.strategy = "remove_attraction_for_constraint_feasibility")
      (removed : Attraction) (left : c.removedAttractionNames = [removed.name])
      (replanned : Replanned plan c.plan 0 {removed})

variable {o request attractions weather}

theorem PlacedOnce.apart (h : PlacedOnce o request attractions weather) {p : TripPlan}
    (hd : DistinctDays p) :
    Apart ((o.issues (assess o request attractions weather p).1).filter fun i =>
      decide (i.code = outsideOpeningHours) && i.sourceIndex.isSome) := by
  refine (h.once p hd).sublist (List.monotone_filter_right _ ?_)
  intro i hi
  exact (Bool.and_eq_true_iff.mp hi).1

theorem bestOf_some {baselineCost : ℚ} {candidates : List Change} {best : Scored}
    (h : bestOf o request attractions weather baselineCost candidates = some best) :
    best.change ∈ candidates ∧
      (assess o request attractions weather best.change.plan).2 < baselineCost := by
  have hmem := bestOf_mem o request attractions weather h
  simp only [bestOf] at h
  obtain hb | hm := Regrouping.keepBest_mem h
  · cases hb
  · obtain ⟨hscored, hbetter⟩ := List.mem_filter.mp hm
    obtain ⟨c, -, rfl⟩ := List.mem_map.mp hscored
    exact ⟨hmem, improved (of_decide_eq_true hbetter)⟩

theorem repair_kind (hp : PlacedOnce o request attractions weather) (hd : DistinctDays plan)
    {report : TripConstraintReport F D} {baselineCost : ℚ} {c : ConstraintOptimizationCandidate}
    (h : repairOpeningHoursConflicts o request attractions weather plan report baselineCost =
      some c) :
    RepairOf o request attractions weather plan c ∧
      (assess o request attractions weather c.plan).2 < baselineCost := by
  unfold repairOpeningHoursConflicts at h
  split at h
  · cases h
  · rename_i first rest _
    obtain ⟨moved, hnames, hmoved⟩ := movedToEnd_replanned plan (first :: rest)
    dsimp only at h
    split at h
    · rename_i hnone
      split at h
      · rename_i hcost
        cases h
        refine ⟨.reorderedBatch rfl moved ?_ rfl hmoved ?_, improved hcost⟩
        · dsimp only [openingHoursCandidate]
          rw [hnames]
          split
          · rename_i hempty
            rw [hempty]
          · rfl
        · intro i hi hcode
          have hplaced := hp.placed _ i hi hcode
          have hconflict : i ∈ ([] : List ConstraintIssue) := by
            rw [← hnone]
            refine List.mem_filter.mpr ⟨hi, ?_⟩
            rw [hplaced, Bool.and_true]
            exact decide_eq_true hcode
          exact List.not_mem_nil hconflict
      · cases h
    · split at h
      · cases h
      · split at h
        · cases h
        · split at h
          · cases h
          · rename_i hopen
            split at h
            · cases h
            · rename_i hcost
              cases h
              have hworking := hmoved.distinct hd
              obtain ⟨removed, hleft, hreduced⟩ :=
                conflicts_takenOut ((first :: rest).foldl moveToEnd (plan, [])).1
                  (hp.apart hworking)
              refine ⟨.reducedBatch rfl moved removed.reverse ?_ ?_ ?_ ?_, ?_⟩
              · dsimp only [openingHoursCandidate]
                rw [hnames, List.map_reverse, hleft]
              · dsimp only [openingHoursCandidate]
                rw [List.map_reverse, hleft]
              · have hboth := hmoved.trans hreduced
                rw [add_zero, zero_add] at hboth
                rw [Multiset.coe_reverse]
                exact hboth
              · intro i hi hcode
                exact hopen (List.any_eq_true.mpr ⟨i, hi, beq_iff_eq.mpr hcode⟩)
              · exact improved (not_le.mp hcost)

/-- What a candidate of the optimizer is, and that it costs less. -/
theorem optimize_kind (hp : PlacedOnce o request attractions weather) (hd : DistinctDays plan)
    {report : TripConstraintReport F D} {c : ConstraintOptimizationCandidate}
    (h : optimize o request attractions weather plan report = some c) :
    RepairOf o request attractions weather plan c ∧
      (assess o request attractions weather c.plan).2 <
        (assess o request attractions weather plan).2 := by
  simp only [optimize] at h
  split at h
  · cases h
  · split at h
    · rename_i hrepair
      cases h
      exact repair_kind hp hd hrepair
    · split at h
      · rename_i best hbest
        cases h
        obtain ⟨hmem, hcost⟩ := bestOf_some hbest
        obtain ⟨issue, -, hc⟩ := List.mem_flatMap.mp (appended_mem o hmem)
        have hchange := changes_changeOf hc
        obtain ⟨moved, hname, hplan⟩ := hchange.replanned
        exact ⟨.changed hchange.strategy moved hname rfl hplan, hcost⟩
      · obtain ⟨best, hbest, rfl⟩ := Option.map_eq_some_iff.mp h
        obtain ⟨hmem, hcost⟩ := bestOf_some hbest
        have hremoval := removals_removalOf (List.mem_of_mem_take hmem)
        obtain ⟨removed, hname, hplan⟩ := hremoval.replanned
        refine ⟨.reduced hremoval.strategy removed ?_ hplan, hcost⟩
        rw [hname]

end

end TravelAgent.ConstraintRepairs

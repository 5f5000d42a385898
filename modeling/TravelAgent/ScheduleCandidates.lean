import TravelAgent.Replanning
import TravelAgent.ScheduleMoves

namespace TravelAgent.ScheduleMoves

open TravelAgent.Itinerary TravelAgent.Agent TravelAgent.PlanEdits TravelAgent.Replanning
open TravelAgent.Regrouping (keepBest keepBest_mem)

variable {D : Type} {o : ScheduleOptimizer D} {request : TripRequest} {plan : TripPlan}

/-- A move of one attraction, tried on the plan. -/
structure MoveOf (o : ScheduleOptimizer D) (request : TripRequest) (plan : TripPlan)
    (moved : Attraction) (m : Move) : Prop where
  plan : Replanned plan m.plan {moved} 0
  cost : m.cost = (o.evaluate request m.plan).optimizationCost

theorem moves_replanned {source last : Nat} {moved : Attraction}
    (h : attractionAt plan source last = some moved) {m : Move}
    (hm : m ∈ moves o request plan source last) : MoveOf o request plan moved m := by
  simp only [moves, List.mem_flatMap, List.mem_map, List.mem_range] at hm
  obtain ⟨target, htarget, index, hindex, rfl⟩ := hm
  obtain ⟨hsource, -, -⟩ := attractionAt_some h
  obtain ⟨hlt, hne⟩ := mem_targetPositions hsource htarget
  refine ⟨replanned_move h hlt ?_, rfl⟩
  rw [dayLength_takeOut_ne hne]
  omega

/-- What a candidate of the schedule optimizer is, by its strategy. -/
inductive CandidateOf (plan : TripPlan) (c : ScheduleOptimizationCandidate) : Prop
  | move (strategy : c.strategy = "move_last_attraction_to_lower_cost_day")
      (kept : c.removedAttractionNames = []) (moved : Attraction)
      (name : moved.name = c.movedAttractionName) (replanned : Replanned plan c.plan {moved} 0)
  | reduction (strategy : c.strategy = "remove_attractions_from_overloaded_days")
      (removed : List Attraction) (names : removed.map (·.name) = c.removedAttractionNames)
      (replanned : Replanned plan c.plan 0 removed)

theorem last_attraction {source : Nat} {moved : Attraction}
    (h : plan.days[source]?.bind (·.attractions.getLast?) = some moved) :
    attractionAt plan source (dayLength plan source - 1) = some moved := by
  obtain ⟨d, hd, hlast⟩ := Option.bind_eq_some_iff.mp h
  rw [List.getLast?_eq_getElem?] at hlast
  rw [attractionAt, dayLength, hd]
  exact hlast

theorem findCrossDayMove_candidate {sourceDayIndex : Int} {baselineCost : ℚ}
    {c : ScheduleOptimizationCandidate}
    (h : findCrossDayMove o request plan sourceDayIndex baselineCost = some c) :
    CandidateOf plan c ∧ (o.evaluate request c.plan).optimizationCost < baselineCost ∧
      c.consideredCandidates ≤ o.maxCandidates := by
  unfold findCrossDayMove at h
  split at h
  · cases h
  · rename_i source _
    split at h
    · cases h
    · rename_i moved hmoved
      split at h
      · cases h
      · obtain ⟨best, hbest, rfl⟩ := Option.map_eq_some_iff.mp h
        obtain hb | hm := keepBest_mem hbest
        · cases hb
        · obtain ⟨htried, hworth⟩ := List.mem_filter.mp hm
          simp only [Bool.and_eq_true, decide_eq_true_eq] at hworth
          have hmove := moves_replanned (last_attraction hmoved) (List.mem_of_mem_take htried)
          refine ⟨.move rfl rfl moved rfl hmove.plan, ?_, ?_⟩
          · have hcost := hworth.1
            rw [hmove.cost] at hcost
            exact improved hcost
          · exact List.length_take_le _ _

/-- How far a reduction has come: some attractions are out, the others stay in order. -/
structure Reduced (o : ScheduleOptimizer D) (request : TripRequest) (plan : TripPlan)
    (w : Reduction D) : Prop where
  plan : ∃ removed : List Attraction, removed.map (·.name) = w.removedNames ∧
    Replanned plan w.plan 0 removed
  report : w.report = o.evaluate request w.plan
  budget : w.considered ≤ o.maxCandidates

theorem removals_replanned {source : Nat} {day : DayPlan} (hd : plan.days[source]? = some day)
    {r : Removal (D := D)} (hr : r ∈ removals o request plan source day) :
    ∃ a : Attraction, a.name = r.name ∧ Replanned plan r.plan 0 {a} ∧
      r.report = o.evaluate request r.plan := by
  simp only [removals, List.mem_map] at hr
  obtain ⟨⟨a, i⟩, ha, rfl⟩ := hr
  obtain ⟨hi, hat⟩ := List.mem_zipIdx' ha
  refine ⟨a, rfl, replanned_takeOut ?_, rfl⟩
  rw [attractionAt, hd, hat]
  exact List.getElem?_eq_getElem hi

theorem Reduced.take {w : Reduction D} (h : Reduced o request plan w) {source : Nat} {day : DayPlan}
    (hd : w.plan.days[source]? = some day) {best : Removal (D := D)}
    (hbest : best ∈ removals o request w.plan source day) {first : Option Int} {considered : Nat}
    (hbudget : considered ≤ o.maxCandidates) :
    Reduced o request plan
      ⟨best.plan, best.report, w.removedNames ++ [best.name], first, considered⟩ := by
  obtain ⟨removed, hnames, hplan⟩ := h.plan
  obtain ⟨a, hname, hout, hreport⟩ := removals_replanned hd hbest
  refine ⟨⟨removed ++ [a], ?_, ?_⟩, hreport, hbudget⟩
  · rw [List.map_append, hnames, List.map_singleton, hname]
  · have hboth := hplan.trans hout
    rwa [add_zero, ← Multiset.coe_singleton, Multiset.coe_add] at hboth

theorem reduceOverload_reduced (n : Nat) {w : Reduction D} (h : Reduced o request plan w) :
    Reduced o request plan (reduceOverload o request plan n w) := by
  induction n generalizing w with
  | zero => exact h
  | succ n ih =>
    rw [reduceOverload]
    split
    · rename_i hgo
      split
      · exact h
      · rename_i source _
        split
        · exact h
        · rename_i day hday
          have hbudget : w.considered + ((removals o request w.plan source day).take
              (o.maxCandidates - w.considered)).length ≤ o.maxCandidates := by
            have htake := List.length_take_le (o.maxCandidates - w.considered)
              (removals o request w.plan source day)
            omega
          dsimp only
          split
          · exact h
          · rename_i best hbest
            split
            · exact ⟨h.plan, h.report, hbudget⟩
            · obtain hb | hm := keepBest_mem hbest
              · cases hb
              · exact ih (h.take hday (List.mem_of_mem_take hm) hbudget)
    · exact h

theorem reduceOverload_spent (n : Nat) {w : Reduction D} (h : o.maxCandidates ≤ w.considered) :
    reduceOverload o request plan n w = w := by
  cases n with
  | zero => rfl
  | succ n => rw [reduceOverload, if_neg fun hgo => Nat.not_lt.mpr h hgo.2]

/-- Every turn that goes on spends some of the budget, so the loop ends on its own. -/
theorem reduceOverload_fuel {n m : Nat} {w : Reduction D} (hn : o.maxCandidates ≤ w.considered + n)
    (hm : o.maxCandidates ≤ w.considered + m) :
    reduceOverload o request plan n w = reduceOverload o request plan m w := by
  induction n generalizing m w with
  | zero => rw [reduceOverload, reduceOverload_spent m hn]
  | succ n ih =>
    cases m with
    | zero => rw [reduceOverload_spent (n + 1) hm, reduceOverload]
    | succ m =>
      rw [reduceOverload, reduceOverload]
      split
      · split
        · rfl
        · rename_i source _
          split
          · rfl
          · rename_i day _
            dsimp only
            split
            · rfl
            · rename_i best hbest
              split
              · rfl
              · obtain hb | hmem := keepBest_mem hbest
                · cases hb
                · have hpos := List.length_pos_of_mem hmem
                  apply ih
                  · dsimp only
                    omega
                  · dsimp only
                    omega
      · rfl

def start (o : ScheduleOptimizer D) (request : TripRequest) (plan : TripPlan) : Reduction D :=
  ⟨plan, o.evaluate request plan, [], none, 0⟩

theorem start_reduced : Reduced o request plan (start o request plan) :=
  ⟨⟨[], rfl, .refl plan⟩, rfl, Nat.zero_le _⟩

theorem buildOverloadReduction_candidate {baselineCost : ℚ} {c : ScheduleOptimizationCandidate}
    (h : buildOverloadReduction o request plan baselineCost = some c) :
    CandidateOf plan c ∧ (o.evaluate request c.plan).optimizationCost < baselineCost ∧
      c.consideredCandidates ≤ o.maxCandidates := by
  have hstart : Reduced o request plan (start o request plan) := start_reduced
  have hr := reduceOverload_reduced o.maxCandidates hstart
  obtain ⟨removed, hnames, hplan⟩ := hr.plan
  simp only [buildOverloadReduction] at h
  split at h
  · split at h
    · cases h
    · rename_i hcost
      cases h
      refine ⟨.reduction rfl removed hnames hplan, ?_, hr.budget⟩
      have hless := improved (not_le.mp hcost)
      have hreport := hr.report
      rw [start] at hreport
      rwa [hreport] at hless
  · cases h

/-- A candidate costs less, holds what the plan holds but what it says was taken out, and
was found within the budget; more turns of the reduction would change nothing. -/
theorem optimize_candidate {report : ScheduleQualityReport D} {c : ScheduleOptimizationCandidate}
    (h : optimize o request plan report = some c) :
    CandidateOf plan c ∧
      (o.evaluate request c.plan).optimizationCost < (o.evaluate request plan).optimizationCost ∧
      c.consideredCandidates ≤ o.maxCandidates ∧
      ∀ n, o.maxCandidates ≤ n → reduceOverload o request plan n (start o request plan) =
        reduceOverload o request plan o.maxCandidates (start o request plan) := by
  have hfuel : ∀ n, o.maxCandidates ≤ n → reduceOverload o request plan n (start o request plan) =
      reduceOverload o request plan o.maxCandidates (start o request plan) :=
    fun n hn => reduceOverload_fuel (hn.trans (Nat.le_add_left _ _)) (Nat.le_add_left _ _)
  unfold optimize at h
  split at h
  · cases h
  · obtain h | ⟨-, h⟩ := Option.or_eq_some_iff.mp h
    · obtain ⟨hc, hcost, hbudget⟩ := findCrossDayMove_candidate h
      exact ⟨hc, hcost, hbudget, hfuel⟩
    · obtain ⟨hc, hcost, hbudget⟩ := buildOverloadReduction_candidate h
      exact ⟨hc, hcost, hbudget, hfuel⟩

/-- Evaluates each day by an hour for every attraction beyond two. -/
def hourly : ScheduleOptimizer (List DayOvertime) :=
  { evaluate := fun _ plan =>
      let excess := plan.days.map fun d => 60 * (d.attractions.length - 2)
      { infeasibleDays := excess.countP (0 < ·)
        totalOvertimeMinutes := excess.sum
        fallbackRouteLegs := 0
        optimizationCost := (excess.sum : Nat)
        qualityScore := 100
        optimizationRecommended := decide (0 < excess.sum)
        details := plan.days.zipIdx.map fun d =>
          ⟨d.1.indexAt d.2, 60 * (d.1.attractions.length - 2)⟩ }
    days := (·.details)
    round := id }

def stop (name : String) : Attraction :=
  { name := name, address := "", location := ⟨.finite 0, .finite 0⟩, visitDuration := 60,
    description := "" }

/-- A day with one attraction too many and a free one. -/
def fullAndFree : TripPlan :=
  { city := "南京", startDate := "2026-05-01", endDate := "2026-05-02", overallSuggestions := ""
    days :=
      [{ date := "2026-05-01", dayIndex := 0, description := "", transportation := "", accommodation := "",
         attractions := [stop "中山陵", stop "夫子庙", stop "玄武湖"] },
       { date := "2026-05-02", dayIndex := 1, description := "", transportation := "",
         accommodation := "" }] }

def anyTrip : TripRequest :=
  { city := "南京", startDate := "2026-05-01", endDate := "2026-05-02", travelDays := 2,
    transportation := "", accommodation := "" }

theorem full_day_relieved :
    ∃ c, optimize hourly anyTrip fullAndFree (hourly.evaluate anyTrip fullAndFree) = some c ∧
      c.plan.days.map (·.attractions.map (·.name)) = [["中山陵", "夫子庙"], ["玄武湖"]] ∧
      CandidateOf fullAndFree c ∧
      (hourly.evaluate anyTrip c.plan).optimizationCost <
        (hourly.evaluate anyTrip fullAndFree).optimizationCost := by
  have hdays : overloadedDays hourly (hourly.evaluate anyTrip fullAndFree) = [⟨0, 60⟩] :=
    List.mergeSort_singleton _
  have hrun : ((findCrossDayMove hourly anyTrip fullAndFree 0
      (hourly.evaluate anyTrip fullAndFree).optimizationCost).map fun c =>
        c.plan.days.map (·.attractions.map (·.name))) =
          some [["中山陵", "夫子庙"], ["玄武湖"]] := by
    decide +kernel
  obtain ⟨c, hc, hnames⟩ := Option.map_eq_some_iff.mp hrun
  have hfound : optimize hourly anyTrip fullAndFree (hourly.evaluate anyTrip fullAndFree) = some c := by
    rw [optimize, hdays]
    exact Option.or_eq_some_iff.mpr (.inl hc)
  obtain ⟨hkind, hcost, -⟩ := optimize_candidate hfound
  exact ⟨c, hfound, hnames, hkind, hcost⟩

end TravelAgent.ScheduleMoves

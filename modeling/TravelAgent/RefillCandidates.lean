import TravelAgent.Replanning
import TravelAgent.UniquePlaces

namespace TravelAgent.AttractionRefill

open TravelAgent.Itinerary TravelAgent.Agent TravelAgent.PlanEdits TravelAgent.Replanning
open TravelAgent.UniquePlaces (usableSources placement_source)

variable {D : Type} {o : RefillOptimizer D} {request : TripRequest} {plan : TripPlan}

/-- The evaluator finds no day too long. -/
def InTime (o : RefillOptimizer D) (request : TripRequest) (plan : TripPlan) : Prop :=
  (o.evaluate request plan).infeasibleDays = 0 ∧ (o.evaluate request plan).totalOvertimeMinutes = 0

/-- How far a refill has come: `sources` went from the pool into the plan. -/
structure Refilling (o : RefillOptimizer D) (request : TripRequest) (plan : TripPlan)
    (pool sources : List AttractionCandidate) (w : Progress) : Prop where
  names : sources.map (·.name) = w.addedNames
  ids : sources.map (·.poiId) = w.addedIds
  replanned : Replanned w.plan plan 0 (sources.map (toAttraction o) : List Attraction)
  pool : (sources ++ w.available.map (·.2)).Perm pool
  inTime : w.plan = plan ∨ InTime o request w.plan
  budget : w.considered ≤ o.maxCandidates

theorem better_inTime {best : Option Placement} {p q : Placement}
    (h : better o request plan best p = some q) :
    best = some q ∨ q = p ∧ InTime o request (place o plan p) := by
  simp only [better] at h
  split at h
  · exact .inl h
  · rename_i hlate
    have hintime : InTime o request (place o plan p) := by
      rw [not_or, Nat.not_lt, Nat.not_lt, Nat.le_zero, Nat.le_zero] at hlate
      exact hlate
    cases best with
    | none => exact .inr ⟨(Option.some.inj h).symm, hintime⟩
    | some b =>
      dsimp only at h
      split at h
      · exact .inr ⟨(Option.some.inj h).symm, hintime⟩
      · exact .inl h

theorem best_inTime {tried : List Placement} {p : Placement}
    (h : tried.foldl (better o request plan) none = some p) : InTime o request (place o plan p) := by
  have hall : ∀ q, tried.foldl (better o request plan) none = some q →
      InTime o request (place o plan q) := by
    apply List.foldlRecOn (motive := fun best : Option Placement =>
      ∀ q, best = some q → InTime o request (place o plan q))
    · exact nofun
    · intro best hbest p _ q hq
      obtain hq | ⟨rfl, hq⟩ := better_inTime hq
      · exact hbest q hq
      · exact hq
  exact hall p h

theorem replanned_place {available : List (Nat × AttractionCandidate)} {p : Placement}
    (h : p ∈ placements plan available) :
    Replanned (place o plan p) plan 0 {toAttraction o p.source} := by
  obtain ⟨hd, hi⟩ := placement_fits h
  exact replanned_putIn hd hi

variable {pool sources : List AttractionCandidate}

/-- One more place goes in. -/
theorem Refilling.add {w : Progress} (h : Refilling o request plan pool sources w) {p : Placement}
    {tried : List Placement} (htried : tried ⊆ placements w.plan w.available)
    (hp : tried.foldl (better o request w.plan) none = some p)
    (hbudget : w.considered + tried.length ≤ o.maxCandidates) :
    Refilling o request plan pool (sources ++ [p.source])
      { plan := place o w.plan p
        available := w.available.eraseIdx p.position
        considered := w.considered + tried.length
        addedNames := w.addedNames ++ [p.source.name]
        addedIds := w.addedIds ++ [p.source.poiId]
        targetDays := w.targetDays ++ [stableDayIndex w.plan p.day] } := by
  have hm : p ∈ placements w.plan w.available := by
    obtain he | hm := best_mem o request w.plan _ none hp
    · cases he
    · exact htried hm
  refine ⟨?_, ?_, ?_, ?_, .inr (best_inTime hp), hbudget⟩
  · rw [List.map_append, h.names, List.map_singleton]
  · rw [List.map_append, h.ids, List.map_singleton]
  · have hboth := (replanned_place (o := o) hm).trans h.replanned
    rw [add_zero, add_comm, ← Multiset.coe_singleton, Multiset.coe_add] at hboth
    rwa [List.map_append, List.map_singleton]
  · obtain ⟨hpos, hsource⟩ := placement_source hm
    have htaken : (p.source :: (w.available.eraseIdx p.position).map (·.2)).Perm
        (w.available.map (·.2)) := by
      rw [← hsource]
      exact (List.getElem_cons_eraseIdx_perm hpos).map (·.2)
    rw [List.append_assoc]
    exact (htaken.append_left sources).trans h.pool

theorem refillLoop_refilling {required n : Nat} {w w' : Progress}
    (h : refillLoop o request required n w = some w')
    (hw : Refilling o request plan pool sources w) :
    ∃ sources', Refilling o request plan pool sources' w' := by
  induction n generalizing w sources with
  | zero =>
    cases h
    exact ⟨sources, hw⟩
  | succ n ih =>
    simp only [refillLoop] at h
    split at h
    · split at h
      · cases h
      · rename_i p hp
        refine ih h (hw.add (List.take_subset _ _) hp ?_)
        have htake := List.length_take_le (o.maxCandidates - w.considered)
          (placements w.plan w.available)
        have hbudget := hw.budget
        omega
    · cases h
      exact ⟨sources, hw⟩

/-- Every turn uses up one place of the pool, so the loop ends on its own. -/
theorem refillLoop_fuel {required n m : Nat} {w : Progress} (hn : w.available.length ≤ n)
    (hm : w.available.length ≤ m) :
    refillLoop o request required n w = refillLoop o request required m w := by
  induction n generalizing m w with
  | zero =>
    have hempty : w.available = [] := List.length_eq_zero_iff.mp (Nat.le_zero.mp hn)
    cases m with
    | zero => rfl
    | succ m => rw [refillLoop, refillLoop, if_neg fun hgo => hgo.2 hempty]
  | succ n ih =>
    cases m with
    | zero =>
      have hempty : w.available = [] := List.length_eq_zero_iff.mp (Nat.le_zero.mp hm)
      rw [refillLoop, refillLoop, if_neg fun hgo => hgo.2 hempty]
    | succ m =>
      rw [refillLoop, refillLoop]
      split
      · dsimp only
        split
        · rfl
        · rename_i p hp
          obtain he | hmem := best_mem o request w.plan _ none hp
          · cases he
          · obtain ⟨hpos, -⟩ := placement_source (List.mem_of_mem_take hmem)
            apply ih
            · dsimp only
              rw [List.length_eraseIdx_of_lt hpos]
              omega
            · dsimp only
              rw [List.length_eraseIdx_of_lt hpos]
              omega
      · rfl

/-- Where the loop begins, with the pool in its order. -/
def beginning (plan : TripPlan) (pool : List AttractionCandidate) : Progress :=
  ⟨plan, pool.zipIdx.map fun c => (c.2, c.1), 0, [], [], []⟩

theorem beginning_refilling : Refilling o request plan pool [] (beginning plan pool) := by
  refine ⟨rfl, rfl, .refl plan, ?_, .inl rfl, Nat.zero_le _⟩
  rw [beginning, List.nil_append, List.map_map]
  exact .of_eq (List.zipIdx_map_fst 0 pool)

/-- A candidate is the plan with `sources` of the pool put in. -/
structure Refilled (o : RefillOptimizer D) (request : TripRequest) (plan : TripPlan)
    (pool sources : List AttractionCandidate) (c : RefillCandidate) : Prop where
  names : sources.map (·.name) = c.addedAttractionNames
  ids : sources.map (·.poiId) = c.addedAttractionIds
  replanned : Replanned c.plan plan 0 (sources.map (toAttraction o) : List Attraction)
  pool : sources.Subperm pool
  inTime : InTime o request c.plan
  budget : c.consideredCandidates ≤ o.maxCandidates

theorem optimize_refilled {attractions : Option D} {excluded : List String} {c : RefillCandidate}
    (h : optimize o request plan attractions excluded = some c) :
    ∃ sources, Refilled o request plan (usableSources o plan attractions excluded) sources c := by
  simp only [optimize] at h
  split at h
  · cases h
  · rename_i hshort
    split at h
    · cases h
    · split at h
      · cases h
      · rename_i w hw
        split at h
        · cases h
        · rename_i henough
          cases h
          have hw : refillLoop o request (requiredTotal o.minimumTotalAttractions request plan) _
              (beginning plan (usableSources o plan attractions excluded)) = some w := hw
          obtain ⟨sources, hs⟩ := refillLoop_refilling hw beginning_refilling
          refine ⟨sources, hs.names, hs.ids, hs.replanned, ?_, ?_, hs.budget⟩
          · exact (List.sublist_append_left _ _).subperm.trans hs.pool.subperm
          · obtain he | hintime := hs.inTime
            · rw [he] at henough
              omega
            · exact hintime

/-- A refill leaves what is there in its order and adds what it says, up to the number
that is required and within the time of each day and its budget. -/
theorem refill_conservative {attractions : Option D} {excluded : List String} {c : RefillCandidate}
    (h : optimize o request plan attractions excluded = some c) :
    (∀ day, (dayAttractions plan day).Sublist (dayAttractions c.plan day)) ∧
      (∃ sources : List AttractionCandidate,
        sources.map (·.name) = c.addedAttractionNames ∧
        sources.map (·.poiId) = c.addedAttractionIds ∧
        visits c.plan = visits plan + (sources.map (toAttraction o) : List Attraction) ∧
        frame c.plan = frame plan) ∧
      countAttractions c.plan = requiredTotal o.minimumTotalAttractions request plan ∧
      InTime o request c.plan ∧
      c.consideredCandidates ≤ o.maxCandidates ∧
      ∀ required w n, w.available.length ≤ n → refillLoop o request required n w =
        refillLoop o request required w.available.length w := by
  obtain ⟨sources, hs⟩ := optimize_refilled h
  refine ⟨hs.replanned.sublist, ⟨sources, hs.names, hs.ids, hs.replanned.visits.symm, ?_⟩,
    optimize_count h, hs.inTime, hs.budget, ?_⟩
  · exact hs.replanned.frame.symm
  · intro required w n hn
    exact refillLoop_fuel hn le_rfl

/-- Two days with one attraction, which has no id. -/
def lakeside (name : String) : TripPlan :=
  { city := "杭州", startDate := "2026-05-01", endDate := "2026-05-02", overallSuggestions := ""
    days :=
      [{ date := "2026-05-01", dayIndex := 0, description := "", transportation := "", accommodation := "",
         attractions :=
          [{ name := name, address := "", location := ⟨.finite 120, .finite 30⟩, visitDuration := 60,
             description := "" }] },
       { date := "2026-05-02", dayIndex := 1, description := "", transportation := "",
         accommodation := "" }] }

theorem bridge_and_lake :
    ∃ c, optimize plainOptimizer shortTrip.request (lakeside "断桥") none [] = some c ∧
      c.plan.days.map (·.attractions.map (·.name)) = [["西湖", "断桥"], []] ∧
      (∀ day, (dayAttractions (lakeside "断桥") day).Sublist (dayAttractions c.plan day)) ∧
      countAttractions c.plan = 2 ∧ InTime plainOptimizer shortTrip.request c.plan := by
  have hrun : (optimize plainOptimizer shortTrip.request (lakeside "断桥") none []).map
      (fun c => c.plan.days.map (·.attractions.map (·.name))) = some [["西湖", "断桥"], []] := by
    decide +kernel
  obtain ⟨c, hc, hnames⟩ := Option.map_eq_some_iff.mp hrun
  obtain ⟨hkept, -, hcount, hintime, -⟩ := refill_conservative hc
  exact ⟨c, hc, hnames, hkept, hcount, hintime⟩

end TravelAgent.AttractionRefill

import TravelAgent.AgentDecide

namespace TravelAgent.AttractionRefill

open TravelAgent.Itinerary TravelAgent.Agent

variable {F D : Type}

/-- `_validate_minimum_content` of the trip validator. -/
def validateMinimumContent (minimumTotalAttractions : Nat) (request : TripRequest)
    (plan : TripPlan) : Option ValidationIssue :=
  let required := min minimumTotalAttractions (max 1 request.travelDays)
  let actual := countAttractions plan
  if required ≤ actual then none
  else
    some
      { code := if actual = 0 then "plan.no_attractions" else "plan.insufficient_attractions"
        severity := .error
        message :=
          "完整行程至少需要安排 " ++ toString required ++ " 个景点，当前只有 " ++ toString actual ++
            " 个"
        repairable := false }

/-- `required_total`: here the days of the plan count, not only those asked for. -/
def requiredTotal (minimumTotalAttractions : Nat) (request : TripRequest) (plan : TripPlan) : Nat :=
  let days := if plan.days.length = 0 then request.travelDays else plan.days.length
  min minimumTotalAttractions (max 1 (min request.travelDays days))

structure AttractionCandidate where
  poiId : String := ""
  name : String
  address : String
  location : Location
  district : String := ""
  category : String := ""
  rating : Option Double := none
deriving DecidableEq

/-- One way to put a candidate into the plan. -/
structure Placement where
  position : Nat
  sourceOrder : Nat
  source : AttractionCandidate
  day : Nat
  insertionIndex : Nat
deriving DecidableEq

/-- `MinimumAttractionRefillOptimizer`. The evaluator, the reading of provider
documents and the floating-point part of the ranking are parameters. -/
structure RefillOptimizer (D : Type) where
  minimumTotalAttractions : Nat := 2
  maxCandidates : Nat := 24
  defaultVisitDurationMinutes : Int := 120
  evaluate : TripRequest → TripPlan → ScheduleQualityReport D
  rank : TripRequest → TripPlan → TripPlan → Placement → List ℚ
  sourceCandidates : Option D → List AttractionCandidate
  ratingText : Double → String

def toAttraction (o : RefillOptimizer D) (source : AttractionCandidate) : Attraction :=
  let details := [source.district, source.category].filter (!·.isEmpty) ++
    source.rating.toList.map fun r => "高德评分 " ++ o.ratingText r
  let description := "；".intercalate details
  { name := source.name
    address := if source.address.isEmpty then "地址待确认" else source.address
    location := source.location
    visitDuration := o.defaultVisitDurationMinutes
    description := if description.isEmpty then "高德地图候选景点" else description
    category := some (if source.category.isEmpty then "景点" else source.category)
    rating := source.rating
    poiId := some source.poiId
    ticketPrice := 0 }

def place (o : RefillOptimizer D) (plan : TripPlan) (p : Placement) : TripPlan :=
  { plan with
    days := plan.days.modify p.day fun day =>
      { day with attractions := day.attractions.insertIdx p.insertionIndex (toAttraction o p.source) } }

/-- Every candidate on every day at every position, in the order of the loops. -/
def placements (plan : TripPlan) (available : List (Nat × AttractionCandidate)) : List Placement :=
  available.zipIdx.flatMap fun c =>
    plan.days.zipIdx.flatMap fun d =>
      (List.range (d.1.attractions.length + 1)).map fun index =>
        { position := c.2, sourceOrder := c.1.1, source := c.1.2, day := d.2,
          insertionIndex := index }

/-- A feasible placement takes the lead when it ranks before the best so far. -/
def better (o : RefillOptimizer D) (request : TripRequest) (plan : TripPlan)
    (best : Option Placement) (p : Placement) : Option Placement :=
  let rank := fun p => o.rank request plan (place o plan p) p
  let report := o.evaluate request (place o plan p)
  if 0 < report.infeasibleDays ∨ 0 < report.totalOvertimeMinutes then best
  else
    match best with
    | none => some p
    | some q => if rank p < rank q then some p else some q

structure Progress where
  plan : TripPlan
  available : List (Nat × AttractionCandidate)
  considered : Nat := 0
  addedNames : List String := []
  addedIds : List String := []
  targetDays : List Int := []

def stableDayIndex (plan : TripPlan) (day : Nat) : Int :=
  match plan.days[day]? with
  | some d => if 0 ≤ d.dayIndex then d.dayIndex else day
  | none => day

/-- The `while` loop. Each turn takes one candidate away, so as many turns as
there are candidates reach its end. -/
def refillLoop (o : RefillOptimizer D) (request : TripRequest) (required : Nat) :
    Nat → Progress → Option Progress
  | 0, w => some w
  | n + 1, w =>
    if countAttractions w.plan < required ∧ w.available ≠ [] then
      let tried := (placements w.plan w.available).take (o.maxCandidates - w.considered)
      match tried.foldl (better o request w.plan) none with
      | none => none
      | some p =>
        refillLoop o request required n
          { plan := place o w.plan p
            available := w.available.eraseIdx p.position
            considered := w.considered + tried.length
            addedNames := w.addedNames ++ [p.source.name]
            addedIds := w.addedIds ++ [p.source.poiId]
            targetDays := w.targetDays ++ [stableDayIndex w.plan p.day] }
    else some w

structure RefillCandidate where
  plan : TripPlan
  addedAttractionNames : List String
  addedAttractionIds : List String
  targetDayIndices : List Int
  baselineAttractionCount : Nat
  candidateAttractionCount : Nat
  consideredCandidates : Nat

def optimize (o : RefillOptimizer D) (request : TripRequest) (plan : TripPlan)
    (attractions : Option D) (excluded : List String) : Option RefillCandidate :=
  let baseline := countAttractions plan
  let required := requiredTotal o.minimumTotalAttractions request plan
  if required ≤ baseline then none
  else
    let used := plan.days.flatMap fun day =>
      day.attractions.map fun a => contentAttractionIdentity (a.poiId.getD "") a.name
    let sources := (o.sourceCandidates attractions).filter fun c =>
      decide (contentAttractionIdentity c.poiId c.name ∉ used ++ excluded)
    if sources = [] then none
    else
      let available := sources.zipIdx.map fun c => (c.2, c.1)
      match refillLoop o request required available.length ⟨plan, available, 0, [], [], []⟩ with
      | none => none
      | some w =>
        if countAttractions w.plan < required then none
        else
          some
            { plan := w.plan
              addedAttractionNames := w.addedNames
              addedAttractionIds := w.addedIds
              targetDayIndices := w.targetDays
              baselineAttractionCount := baseline
              candidateAttractionCount := countAttractions w.plan
              consideredCandidates := w.considered }

theorem sum_length_modify (days : List DayPlan) (f : DayPlan → DayPlan) {i : Nat}
    (hi : i < days.length) (hf : (f days[i]).attractions.length = days[i].attractions.length + 1) :
    ((days.modify i f).map (·.attractions.length)).sum =
      (days.map (·.attractions.length)).sum + 1 := by
  induction days generalizing i with
  | nil => simp at hi
  | cons day days ih =>
    cases i with
    | zero =>
      simp only [List.getElem_cons_zero] at hf
      simp only [List.modify_zero_cons, List.map_cons, List.sum_cons, hf]
      omega
    | succ i =>
      simp only [List.length_cons, Nat.add_lt_add_iff_right] at hi
      simp only [List.getElem_cons_succ] at hf
      simp only [List.modify_succ_cons, List.map_cons, List.sum_cons, ih hi hf]
      omega

theorem placement_fits {plan : TripPlan} {available : List (Nat × AttractionCandidate)}
    {p : Placement} (h : p ∈ placements plan available) :
    ∃ hd : p.day < plan.days.length, p.insertionIndex ≤ plan.days[p.day].attractions.length := by
  simp only [placements, List.mem_flatMap, List.mem_map, List.mem_range] at h
  obtain ⟨_, _, ⟨day, i⟩, hday, index, hindex, rfl⟩ := h
  obtain ⟨hi, he⟩ := List.mem_zipIdx' hday
  refine ⟨hi, ?_⟩
  simp only at hindex ⊢
  rw [← he]
  omega

/-- Every placement adds one attraction. -/
theorem place_count (o : RefillOptimizer D) {plan : TripPlan}
    {available : List (Nat × AttractionCandidate)} {p : Placement}
    (h : p ∈ placements plan available) :
    countAttractions (place o plan p) = countAttractions plan + 1 := by
  obtain ⟨hd, hi⟩ := placement_fits h
  apply sum_length_modify plan.days _ hd
  exact List.length_insertIdx_of_le_length hi _

theorem best_mem (o : RefillOptimizer D) (request : TripRequest) (plan : TripPlan)
    (tried : List Placement) (best : Option Placement) {p : Placement}
    (h : tried.foldl (better o request plan) best = some p) : best = some p ∨ p ∈ tried := by
  induction tried generalizing best with
  | nil => exact Or.inl h
  | cons q tried ih =>
    obtain hb | hm := ih _ h
    · have hbetter : better o request plan best q = best ∨ better o request plan best q = some q := by
        simp only [better]
        split
        · exact Or.inl rfl
        · cases best with
          | none => exact Or.inr rfl
          | some b =>
            by_cases hr : o.rank request plan (place o plan q) q <
                o.rank request plan (place o plan b) b
            · exact Or.inr (if_pos hr)
            · exact Or.inl (if_neg hr)
      obtain he | he := hbetter
      · exact Or.inl (he.symm.trans hb)
      · rw [he] at hb
        cases hb
        exact Or.inr List.mem_cons_self
    · exact Or.inr (List.mem_cons_of_mem q hm)

/-- The loop never goes beyond the required number. -/
theorem refillLoop_count {o : RefillOptimizer D} {request : TripRequest} {required n : Nat}
    {w w' : Progress} (h : refillLoop o request required n w = some w')
    (hle : countAttractions w.plan ≤ required) : countAttractions w'.plan ≤ required := by
  induction n generalizing w with
  | zero =>
    cases h
    exact hle
  | succ n ih =>
    simp only [refillLoop] at h
    split at h
    · rename_i hshort
      split at h
      · cases h
      · rename_i p hp
        refine ih h ?_
        have hm : p ∈ placements w.plan w.available := by
          obtain he | hm := best_mem o request w.plan _ none hp
          · cases he
          · exact List.mem_of_mem_take hm
        rw [place_count o hm]
        omega
    · cases h
      exact hle

/-- What the optimizer proposes has exactly the number it aims at. -/
theorem optimize_count {o : RefillOptimizer D} {request : TripRequest} {plan : TripPlan}
    {attractions : Option D} {excluded : List String} {c : RefillCandidate}
    (h : optimize o request plan attractions excluded = some c) :
    countAttractions c.plan = requiredTotal o.minimumTotalAttractions request plan := by
  simp only [optimize] at h
  split at h
  · cases h
  · rename_i hshort
    split at h
    · cases h
    · split at h
      · cases h
      · rename_i w hw
        split at h
        · cases h
        · rename_i henough
          cases h
          have hle := refillLoop_count hw (by simp only; omega)
          simp only
          omega

theorem validate_none_iff (m : Nat) (request : TripRequest) (plan : TripPlan) :
    validateMinimumContent m request plan = none ↔
      min m (max 1 request.travelDays) ≤ countAttractions plan := by
  simp only [validateMinimumContent]
  split
  · rename_i h
    exact ⟨fun _ => h, fun _ => rfl⟩
  · rename_i h
    exact ⟨nofun, fun hle => absurd hle h⟩

/-- What the three places say of one plan of the loop: the validator reports too
few attractions exactly when the refill decision finds the plan short, and no
plan with as many as the optimizer aims at gets that report. The optimizer is
made with at least one. -/
structure AttractionsAgree (m : Nat) (s : AgentState F D) (plan : TripPlan) : Prop where
  verdict : validateMinimumContent m s.request plan ≠ none ↔
    countAttractions plan < requiredAttractions s
  refilled : ∀ refilled, requiredTotal (max 1 m) s.request plan ≤ countAttractions refilled →
    validateMinimumContent m s.request refilled = none

/-- The number of attractions does not lie between the minimum of the validator
and the one that the session was created with. -/
def SameSide (m : Nat) (s : AgentState F D) (plan : TripPlan) : Prop :=
  ¬ (min (min m (max 1 s.request.travelDays)) (requiredAttractions s) ≤ countAttractions plan ∧
    countAttractions plan < max (min m (max 1 s.request.travelDays)) (requiredAttractions s))

/-- The plan has no day at all, or as many days as attractions are required. -/
def EnoughDays (m : Nat) (request : TripRequest) (plan : TripPlan) : Prop :=
  plan.days.length = 0 ∨ min m (max 1 request.travelDays) ≤ plan.days.length

theorem requiredTotal_le (m : Nat) (request : TripRequest) (plan : TripPlan) :
    min m (max 1 request.travelDays) ≤ requiredTotal (max 1 m) request plan ↔
      EnoughDays m request plan := by
  simp only [requiredTotal, EnoughDays]
  by_cases hdays : plan.days.length = 0
  · rw [if_pos hdays]
    omega
  · rw [if_neg hdays]
    omega

def padded (n : Nat) : TripPlan :=
  { city := "", startDate := "", endDate := "", overallSuggestions := ""
    days :=
      [{ date := "", dayIndex := 0, description := "", transportation := "", accommodation := ""
         attractions :=
          List.replicate n
            { name := "", address := "", location := ⟨.finite 0, .finite 0⟩, visitDuration := 0,
              description := "" } }] }

theorem padded_count (n : Nat) : countAttractions (padded n) = n := by
  simp [countAttractions, padded]

/-- The three places agree on a plan exactly when it has enough days and both
minima leave it on the same side. -/
theorem attractions_agree_iff (m : Nat) (s : AgentState F D) (plan : TripPlan) :
    AttractionsAgree m s plan ↔ SameSide m s plan ∧ EnoughDays m s.request plan := by
  have hverdict : (validateMinimumContent m s.request plan ≠ none ↔
      countAttractions plan < requiredAttractions s) ↔ SameSide m s plan := by
    rw [Ne, validate_none_iff, SameSide]
    omega
  rw [← hverdict, ← requiredTotal_le]
  constructor
  · intro h
    refine ⟨h.verdict, ?_⟩
    have hp := h.refilled (padded (requiredTotal (max 1 m) s.request plan))
    rw [padded_count, validate_none_iff, padded_count] at hp
    exact hp le_rfl
  · rintro ⟨hv, hle⟩
    refine ⟨hv, ?_⟩
    intro refilled hr
    rw [validate_none_iff]
    exact hle.trans hr

/-- A session created with the configured minimum leaves only the days of the plan open. -/
theorem attractions_agree_of_created {m : Nat} {s : AgentState F D}
    (hm : s.budget.minimumTotalAttractions = m) (plan : TripPlan) :
    AttractionsAgree m s plan ↔ EnoughDays m s.request plan := by
  rw [attractions_agree_iff]
  refine and_iff_right ?_
  simp only [SameSide, requiredAttractions, hm]
  omega

/-- Three days are asked for, and the plan has one. -/
def shortTrip : AgentState Nat Unit :=
  AgentState.create
    { city := "杭州", startDate := "2026-05-01", endDate := "2026-05-03", travelDays := 3,
      transportation := "公交", accommodation := "酒店" }
    { minimumTotalAttractions := 2 }

def plainOptimizer : RefillOptimizer Unit where
  evaluate _ _ := ⟨0, 0, 0, 0, 100, false, ()⟩
  rank _ _ _ p := [p.day, p.insertionIndex, p.sourceOrder]
  sourceCandidates _ :=
    [{ poiId := "B1", name := "西湖", address := "杭州", location := ⟨.finite 120, .finite 30⟩ },
      { poiId := "B2", name := "灵隐寺", address := "杭州", location := ⟨.finite 120, .finite 30⟩ }]
  ratingText _ := ""

/-- The optimizer is content with one attraction, which the validator rejects
and the refill decision still finds too few. -/
theorem one_day_plan_stays_short :
    (∃ c, optimize plainOptimizer shortTrip.request (padded 0) none [] = some c ∧
      countAttractions c.plan = 1 ∧ countAttractions c.plan < requiredAttractions shortTrip ∧
      (validateMinimumContent 2 shortTrip.request c.plan).map (·.code) =
        some "plan.insufficient_attractions") ∧
    ¬ AttractionsAgree 2 shortTrip (padded 0) := by
  refine ⟨⟨_, rfl, ?_, ?_, ?_⟩, ?_⟩
  · decide +kernel
  · decide +kernel
  · decide +kernel
  · intro h
    have hn := h.refilled (padded 1) (by decide)
    revert hn
    decide +kernel

end TravelAgent.AttractionRefill

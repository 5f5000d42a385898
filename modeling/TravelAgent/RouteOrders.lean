import TravelAgent.PlanEdits

namespace TravelAgent.RouteOrders

open TravelAgent.Itinerary TravelAgent.Agent TravelAgent.PlanEdits
open TravelAgent.Regrouping (keepBest keepBest_some)

/-- `RouteOptimizationCandidate` -/
structure RouteOptimizationCandidate where
  plan : TripPlan
  changedDayIndex : Int
  strategy : String
  originalDistanceMeters : ℚ
  candidateDistanceMeters : ℚ
  approximateImprovementPercent : ℚ
  consideredCandidates : Nat

/-- `DeterministicRouteOptimizer`, over any distance and the rounding of doubles. -/
structure RouteOptimizer where
  maxCandidates : Nat := 6
  haversineMeters : Attraction → Attraction → ℚ
  roundCoordinate : Double → Double
  round : ℚ → ℚ

variable (o : RouteOptimizer)

/-- `_path_distance` -/
def pathDistance (attractions : List Attraction) : ℚ :=
  ((attractions.zip attractions.tail).map fun p => o.haversineMeters p.1 p.2).sum

/-- `_order_key` -/
def orderKey (attractions : List Attraction) : List (String × String × Double × Double) :=
  attractions.map fun a =>
    (a.poiId.getD "", a.name, o.roundCoordinate a.location.longitude,
      o.roundCoordinate a.location.latitude)

/-- The nearest of the remaining ones; of several, the one that comes first. -/
def nearest (current : Attraction) (first : Nat × Attraction) (rest : List (Nat × Attraction)) :
    Nat × Attraction :=
  rest.foldl (fun best x =>
    if o.haversineMeters current x.2 < o.haversineMeters current best.2 then x else best) first

/-- The loop of `_nearest_neighbor`, one turn for each that remains. -/
def nearestFrom : Nat → Attraction → List (Nat × Attraction) → List Attraction
  | 0, _, _ => []
  | _, _, [] => []
  | n + 1, current, first :: rest =>
    let selected := nearest o current first rest
    selected.2 :: nearestFrom n selected.2 ((first :: rest).filter (·.1 ≠ selected.1))

/-- `_nearest_neighbor` -/
def nearestNeighbor : List Attraction → List Attraction
  | [] => []
  | a :: rest => a :: nearestFrom o rest.length a ((rest.zipIdx 1).map fun p => (p.2, p.1))

def reverseSpan (attractions : List Attraction) (start stop : Nat) : List Attraction :=
  attractions.take start ++ ((attractions.drop start).take (stop + 1 - start)).reverse ++
    attractions.drop (stop + 1)

def relocate (attractions : List Attraction) (source target : Nat) : List Attraction :=
  match attractions[source]? with
  | none => attractions
  | some a => (attractions.eraseIdx source).insertIdx target a

/-- `_bounded_orders` -/
def boundedOrders (attractions : List Attraction) : List (String × List Attraction) :=
  let count := attractions.length
  let twoOpt := (List.range' 1 (count - 2)).flatMap fun start =>
    (List.range' (start + 1) (count - (start + 1))).map fun stop =>
      ("two_opt_" ++ toString start ++ "_" ++ toString stop, reverseSpan attractions start stop)
  let relocations := (List.range' 1 (count - 1)).flatMap fun source =>
    ((List.range' 1 (count - 1)).filter (· ≠ source)).map fun target =>
      ("relocate_" ++ toString source ++ "_" ++ toString target, relocate attractions source target)
  ("nearest_neighbor", nearestNeighbor o attractions) :: twoOpt ++ relocations

structure Order where
  dayPosition : Nat
  strategy : String
  original : List Attraction
  order : List Attraction

/-- Every order of every day with three attractions or more. -/
def orders (plan : TripPlan) : List Order :=
  plan.days.zipIdx.flatMap fun d =>
    if d.1.attractions.length < 3 then []
    else (boundedOrders o d.1.attractions).map fun x => ⟨d.2, x.1, d.1.attractions, x.2⟩

structure Search where
  considered : Nat := 0
  seen : List (Nat × List (String × String × Double × Double)) := []
  best : Option Order := none

/-- `comparison[:3] < best[:3]` -/
def before (x y : Order) : Bool :=
  let dx := pathDistance o x.order
  let dy := pathDistance o y.order
  dx < dy || (dx = dy && (x.dayPosition < y.dayPosition ||
    (x.dayPosition = y.dayPosition && x.strategy < y.strategy)))

/-- An order that is new and shorter takes the lead when it comes before the best so far. -/
def consider (w : Search) (x : Order) : Search :=
  if o.maxCandidates ≤ w.considered then w
  else if (x.dayPosition, orderKey o x.order) ∈ w.seen ∨
      orderKey o x.order = orderKey o x.original then w
  else
    { considered := w.considered + 1
      seen := (x.dayPosition, orderKey o x.order) :: w.seen
      best :=
        if pathDistance o x.order + 1 / 100 < pathDistance o x.original then
          keepBest (before o) w.best x
        else w.best }

/-- `DeterministicRouteOptimizer.optimize` -/
def optimize (plan : TripPlan) : Option RouteOptimizationCandidate :=
  let w := (orders o plan).foldl (consider o) {}
  w.best.map fun x =>
    let original := pathDistance o x.original
    let candidate := pathDistance o x.order
    { plan := editDay plan x.dayPosition fun _ => x.order
      changedDayIndex := stableDayIndex plan x.dayPosition
      strategy := x.strategy
      originalDistanceMeters := o.round original
      candidateDistanceMeters := o.round candidate
      approximateImprovementPercent :=
        o.round (if 0 < original then (original - candidate) / original * 100 else 0)
      consideredCandidates := w.considered }

theorem nearest_mem (current : Attraction) (first : Nat × Attraction)
    (rest : List (Nat × Attraction)) : nearest o current first rest ∈ first :: rest := by
  induction rest generalizing first with
  | nil => exact List.mem_singleton.mpr rfl
  | cons x rest ih =>
    simp only [nearest, List.foldl_cons]
    obtain h | h := List.mem_cons.mp (ih (if o.haversineMeters current x.2 <
        o.haversineMeters current first.2 then x else first))
    · simp only [nearest] at h
      rw [h]
      split
      · simp
      · simp
    · exact List.mem_cons_of_mem _ (List.mem_cons_of_mem _ h)

/-- Those that are left when one position is taken away. -/
theorem filter_position_perm {xs : List (Nat × Attraction)} (hn : (xs.map (·.1)).Nodup)
    {x : Nat × Attraction} (hx : x ∈ xs) : xs.Perm (x :: xs.filter (·.1 ≠ x.1)) := by
  induction xs with
  | nil => exact absurd hx List.not_mem_nil
  | cons y xs ih =>
    obtain ⟨hy, hn⟩ := List.nodup_cons.mp hn
    obtain rfl | hx := List.mem_cons.mp hx
    · have hall : xs.filter (fun z => decide (z.1 ≠ x.1)) = xs := by
        rw [List.filter_eq_self]
        intro z hz
        rw [decide_eq_true_eq]
        intro he
        exact hy (List.mem_map.mpr ⟨z, hz, he⟩)
      simp only [List.filter_cons, ne_eq, not_true_eq_false, decide_false, Bool.false_eq_true,
        if_false, hall, List.Perm.refl]
    · have hne : y.1 ≠ x.1 := by
        intro he
        exact hy (List.mem_map.mpr ⟨x, hx, he.symm⟩)
      rw [List.filter_cons, if_pos (decide_eq_true hne)]
      exact ((ih hn hx).cons y).trans (List.Perm.swap x y _)

theorem nearestFrom_perm (n : Nat) (current : Attraction) (xs : List (Nat × Attraction))
    (hn : (xs.map (·.1)).Nodup) (hlen : xs.length ≤ n) :
    (nearestFrom o n current xs).Perm (xs.map (·.2)) := by
  induction n generalizing current xs with
  | zero =>
    obtain rfl := List.length_eq_zero_iff.mp (Nat.le_zero.mp hlen)
    exact List.Perm.refl _
  | succ n ih =>
    cases xs with
    | nil => exact List.Perm.refl _
    | cons first rest =>
      have hp := filter_position_perm hn (nearest_mem o current first rest)
      have hsub : ((first :: rest).filter (·.1 ≠ (nearest o current first rest).1)).length ≤ n := by
        have := hp.length_eq
        simp only [List.length_cons] at this hlen
        omega
      have htail := ih (nearest o current first rest).2 _
        (hn.sublist (List.filter_sublist.map _)) hsub
      exact (htail.cons _).trans (hp.map Prod.snd).symm

theorem nearestNeighbor_perm (attractions : List Attraction) :
    (nearestNeighbor o attractions).Perm attractions := by
  cases attractions with
  | nil => exact List.Perm.refl _
  | cons a rest =>
    have hfst : (((rest.zipIdx 1).map fun p => (p.2, p.1)).map (·.1)) =
        List.range' 1 rest.length := by
      rw [List.map_map, ← List.zipIdx_map_snd 1 rest]
      rfl
    have hsnd : (((rest.zipIdx 1).map fun p => (p.2, p.1)).map (·.2)) = rest := by
      rw [List.map_map]
      exact List.zipIdx_map_fst 1 rest
    have hnodup : (((rest.zipIdx 1).map fun p => (p.2, p.1)).map (·.1)).Nodup := by
      rw [hfst]
      exact List.nodup_range'
    have hp := nearestFrom_perm o rest.length a _ hnodup (by simp)
    rw [hsnd] at hp
    exact hp.cons a

theorem reverseSpan_perm (attractions : List Attraction) {start stop : Nat} (h : start < stop) :
    (reverseSpan attractions start stop).Perm attractions := by
  have hsplit : (attractions.drop start).drop (stop + 1 - start) = attractions.drop (stop + 1) := by
    rw [List.drop_drop]
    congr 1
    omega
  have hp : (reverseSpan attractions start stop).Perm (attractions.take start ++
      (attractions.drop start).take (stop + 1 - start) ++ attractions.drop (stop + 1)) :=
    ((List.reverse_perm _).append_left _).append_right _
  rwa [List.append_assoc, ← hsplit, List.take_append_drop, List.take_append_drop] at hp

theorem relocate_perm (attractions : List Attraction) {source target : Nat}
    (h : target < attractions.length) : (relocate attractions source target).Perm attractions := by
  unfold relocate
  split
  · exact List.Perm.refl _
  · rename_i a ha
    obtain ⟨hi, rfl⟩ := List.getElem?_eq_some_iff.mp ha
    have hlen := List.length_eraseIdx_of_lt hi
    exact (List.perm_insertIdx _ _ (by omega)).trans (List.getElem_cons_eraseIdx_perm hi)

theorem boundedOrders_perm {attractions : List Attraction} {x : String × List Attraction}
    (h : x ∈ boundedOrders o attractions) : x.2.Perm attractions := by
  simp only [boundedOrders, List.cons_append, List.mem_cons, List.mem_append, List.mem_flatMap,
    List.mem_map, List.mem_filter, List.mem_range'_1] at h
  obtain rfl | ⟨start, -, stop, hstop, rfl⟩ | ⟨source, -, target, ⟨htarget, -⟩, rfl⟩ := h
  · exact nearestNeighbor_perm o attractions
  · exact reverseSpan_perm attractions (by omega)
  · exact relocate_perm attractions (by omega)

theorem orders_perm {plan : TripPlan} {x : Order} (h : x ∈ orders o plan) :
    ∃ hd : x.dayPosition < plan.days.length, x.order.Perm plan.days[x.dayPosition].attractions := by
  simp only [orders, List.mem_flatMap] at h
  obtain ⟨⟨day, i⟩, hday, hx⟩ := h
  obtain ⟨hi, he⟩ := List.mem_zipIdx' hday
  split at hx
  · exact absurd hx List.not_mem_nil
  · obtain ⟨y, hy, rfl⟩ := List.mem_map.mp hx
    have hperm := boundedOrders_perm o hy
    rw [he] at hperm
    exact ⟨hi, hperm⟩

theorem consider_best {w : Search} {x y : Order} (h : (consider o w x).best = some y) :
    w.best = some y ∨ y = x := by
  unfold consider at h
  split at h
  · exact Or.inl h
  · split at h
    · exact Or.inl h
    · simp only at h
      split at h
      · exact keepBest_some h
      · exact Or.inl h

theorem best_listed {xs : List Order} {w : Search} {y : Order}
    (h : (xs.foldl (consider o) w).best = some y) : w.best = some y ∨ y ∈ xs := by
  induction xs generalizing w with
  | nil => exact Or.inl h
  | cons x xs ih =>
    obtain hb | hm := ih h
    · obtain hb | rfl := consider_best o hb
      · exact Or.inl hb
      · exact Or.inr List.mem_cons_self
    · exact Or.inr (List.mem_cons_of_mem x hm)

/-- A day is put into another order, so the attractions stay the same. -/
theorem optimize_visits {plan : TripPlan} {c : RouteOptimizationCandidate}
    (h : optimize o plan = some c) : visits c.plan = visits plan := by
  obtain ⟨x, hx, rfl⟩ := Option.map_eq_some_iff.mp h
  obtain hb | hm := best_listed o hx
  · cases hb
  · obtain ⟨hd, hp⟩ := orders_perm o hm
    exact visits_editDay hd hp

theorem nearestNeighbor_head (attractions : List Attraction) :
    (nearestNeighbor o attractions).head? = attractions.head? := by
  cases attractions with
  | nil => rfl
  | cons a rest => rfl

theorem reverseSpan_head {attractions : List Attraction} {start stop : Nat} (h : 1 ≤ start) :
    (reverseSpan attractions start stop).head? = attractions.head? := by
  cases start with
  | zero => omega
  | succ start =>
    cases attractions with
    | nil => simp [reverseSpan]
    | cons a rest => rfl

theorem relocate_head {attractions : List Attraction} {source target : Nat} (hs : 1 ≤ source)
    (ht : 1 ≤ target) : (relocate attractions source target).head? = attractions.head? := by
  unfold relocate
  split
  · rfl
  · rename_i a ha
    cases source with
    | zero => omega
    | succ source =>
      cases target with
      | zero => omega
      | succ target =>
        cases attractions with
        | nil => cases ha
        | cons b rest => rw [List.eraseIdx_cons_succ, List.insertIdx_succ_cons]; rfl

/-- Every order starts where the day starts. -/
theorem boundedOrders_head {attractions : List Attraction} {x : String × List Attraction}
    (h : x ∈ boundedOrders o attractions) : x.2.head? = attractions.head? := by
  simp only [boundedOrders, List.cons_append, List.mem_cons, List.mem_append, List.mem_flatMap,
    List.mem_map, List.mem_filter, List.mem_range'_1] at h
  obtain rfl | ⟨start, hstart, stop, -, rfl⟩ | ⟨source, hsource, target, ⟨htarget, -⟩, rfl⟩ := h
  · exact nearestNeighbor_head o attractions
  · exact reverseSpan_head hstart.1
  · exact relocate_head hsource.1 htarget.1

/-- An order as it stands in the list of all: of a day, from its start, with all its places. -/
structure Listed (plan : TripPlan) (x : Order) : Prop where
  inside : x.dayPosition < plan.days.length
  original : x.original = plan.days[x.dayPosition].attractions
  perm : x.order.Perm x.original
  start : x.order.head? = x.original.head?

theorem orders_listed {plan : TripPlan} {x : Order} (h : x ∈ orders o plan) : Listed plan x := by
  simp only [orders, List.mem_flatMap] at h
  obtain ⟨⟨day, i⟩, hday, hx⟩ := h
  obtain ⟨hi, he⟩ := List.mem_zipIdx' hday
  split at hx
  · exact absurd hx List.not_mem_nil
  · obtain ⟨y, hy, rfl⟩ := List.mem_map.mp hx
    exact ⟨hi, congrArg DayPlan.attractions he, boundedOrders_perm o hy, boundedOrders_head o hy⟩

/-- The budget is kept, and the best order is shorter than the day as it is. -/
structure Sound (w : Search) : Prop where
  budget : w.considered ≤ o.maxCandidates
  shorter : ∀ x, w.best = some x → pathDistance o x.order < pathDistance o x.original

theorem consider_sound {w : Search} (h : Sound o w) (x : Order) : Sound o (consider o w x) := by
  unfold consider
  split
  · exact h
  · split
    · exact h
    · rename_i hbudget _
      refine ⟨Nat.not_le.mp hbudget, ?_⟩
      intro y hy
      simp only at hy
      split at hy
      · rename_i hshort
        obtain hb | rfl := keepBest_some hy
        · exact h.shorter y hb
        · exact improved hshort
      · exact h.shorter y hy

theorem search_sound (xs : List Order) {w : Search} (h : Sound o w) :
    Sound o (xs.foldl (consider o) w) := by
  induction xs generalizing w with
  | nil => exact h
  | cons x xs ih => exact ih (consider_sound o h x)

/-- One day of the plan is put into another, shorter order from the same start. -/
structure Reordered (plan : TripPlan) (c : RouteOptimizationCandidate) (day : Nat) : Prop where
  inside : day < plan.days.length
  index : c.changedDayIndex = stableDayIndex plan day
  changed : ∃ order, c.plan = editDay plan day (fun _ => order) ∧
    order.Perm plan.days[day].attractions ∧
    order.head? = plan.days[day].attractions.head? ∧
    pathDistance o order < pathDistance o plan.days[day].attractions

/-- The candidates of the route optimizer, its budget and its generators. -/
theorem optimize_reorders (plan : TripPlan) :
    (∀ c, optimize o plan = some c →
      (∃ day, Reordered o plan c day ∧
        ∀ other, other ≠ day → c.plan.days[other]? = plan.days[other]?) ∧
      c.consideredCandidates ≤ o.maxCandidates) ∧
    ((orders o plan).foldl (consider o) {}).considered ≤ o.maxCandidates ∧
    ∀ attractions, ∀ x ∈ boundedOrders o attractions,
      x.2.Perm attractions ∧ x.2.head? = attractions.head? := by
  have hs : Sound o ((orders o plan).foldl (consider o) {}) := search_sound o _ ⟨Nat.zero_le _, nofun⟩
  refine ⟨?_, hs.budget, fun _ x hx => ⟨boundedOrders_perm o hx, boundedOrders_head o hx⟩⟩
  intro c h
  obtain ⟨x, hx, rfl⟩ := Option.map_eq_some_iff.mp h
  refine ⟨⟨x.dayPosition, ?_, ?_⟩, hs.budget⟩
  · obtain hb | hm := best_listed o hx
    · cases hb
    · have hl := orders_listed o hm
      have hshort := hs.shorter x hx
      have hperm := hl.perm
      have hstart := hl.start
      rw [hl.original] at hshort hperm hstart
      exact ⟨hl.inside, rfl, x.order, rfl, hperm, hstart, hshort⟩
  · intro other hne
    exact List.getElem?_modify_ne _ _ (Ne.symm hne)

def street (name : String) (number : Int) : Attraction :=
  { name := name, address := "", location := ⟨.finite number, .finite 0⟩, visitDuration := 60,
    description := "" }

/-- A day up and down one street. -/
def upAndDown : TripPlan :=
  { city := "杭州", startDate := "2026-05-01", endDate := "2026-05-01", overallSuggestions := ""
    days :=
      [{ date := "2026-05-01", dayIndex := 0, description := "", transportation := "步行",
         accommodation := "", attractions := [street "河坊街" 1, street "武林门" 90, street "鼓楼" 2] }] }

def houseNumber (a : Attraction) : ℚ :=
  match a.location.longitude with
  | .finite q => q
  | _ => 0

def pedestrian : RouteOptimizer :=
  { haversineMeters := fun a b => |houseNumber a - houseNumber b|
    roundCoordinate := id
    round := id }

theorem street_reordered :
    ∃ c, optimize pedestrian upAndDown = some c ∧ visits c.plan = visits upAndDown ∧
      c.plan.days.map (·.attractions.map (·.name)) = [["河坊街", "鼓楼", "武林门"]] ∧
      (∃ day, Reordered pedestrian upAndDown c day) ∧ c.consideredCandidates ≤ 6 := by
  have hrun : (optimize pedestrian upAndDown).map
      (fun c => c.plan.days.map (·.attractions.map (·.name))) =
        some [["河坊街", "鼓楼", "武林门"]] := by
    decide +kernel
  obtain ⟨c, hc, hnames⟩ := Option.map_eq_some_iff.mp hrun
  obtain ⟨⟨day, hday, -⟩, hbudget⟩ := (optimize_reorders pedestrian upAndDown).1 c hc
  exact ⟨c, hc, optimize_visits pedestrian hc, hnames, ⟨day, hday⟩, hbudget⟩

end TravelAgent.RouteOrders

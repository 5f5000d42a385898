import TravelAgent.AgentDecide
import TravelAgent.PlanEdits

namespace TravelAgent.DuplicateCheck

open TravelAgent.Itinerary TravelAgent.Agent TravelAgent.PlanEdits TravelAgent.Regrouping

variable {F D : Type}

def duplicateAcrossDays : String := "attraction.duplicate_across_days"

def duplicateIssue : ValidationIssue :=
  { code := duplicateAcrossDays
    severity := .error
    message := "同一景点在多天行程中被重复安排" }

/-- An issue of another check. -/
structure OtherIssue extends ValidationIssue where
  other : code ≠ duplicateAcrossDays

/-- The other checks of `TripPlanValidator`, by the place where they are made. -/
structure OtherChecks (F D : Type) where
  first : ValidationInputs F D → List OtherIssue
  day : ValidationInputs F D → Nat → List OtherIssue
  attraction : ValidationInputs F D → Nat → Nat → List OtherIssue
  last : ValidationInputs F D → List OtherIssue

def others (issues : List OtherIssue) : List ValidationIssue := issues.map (·.toValidationIssue)

variable (checks : OtherChecks F D) (inputs : ValidationInputs F D)

/-- The attractions of a day: what is found, and the identities seen so far. -/
def validateAttractions (day : Nat) :
    List String → List (Attraction × Nat) → List ValidationIssue × List String
  | seen, [] => ([], seen)
  | seen, (a, position) :: rest =>
    let identity := attractionIdentity a
    let found := if identity ∈ seen then [duplicateIssue] else []
    let (issues, seen) :=
      validateAttractions day (if identity ∈ seen then seen else identity :: seen) rest
    (found ++ others (checks.attraction inputs day position) ++ issues, seen)

/-- The loop of `_validate_days`. -/
def validateDays : List String → List (DayPlan × Nat) → List ValidationIssue
  | _, [] => []
  | seen, (day, position) :: rest =>
    let (issues, seen) := validateAttractions checks inputs position seen day.attractions.zipIdx
    others (checks.day inputs position) ++ issues ++ validateDays seen rest

/-- `TripPlanValidator.validate` -/
def validate : TripValidationResult :=
  .fromIssues (others (checks.first inputs) ++
    validateDays checks inputs [] inputs.plan.days.zipIdx ++ others (checks.last inputs))

/-- Nothing is reported to be there twice. -/
def Clean (issues : List ValidationIssue) : Prop := ∀ i ∈ issues, i.code ≠ duplicateAcrossDays

theorem clean_append {a b : List ValidationIssue} : Clean (a ++ b) ↔ Clean a ∧ Clean b :=
  List.forall_mem_append

theorem clean_others (issues : List OtherIssue) : Clean (others issues) := by
  intro i hi
  obtain ⟨x, -, rfl⟩ := List.mem_map.mp hi
  exact x.other

theorem not_clean_duplicate : ¬ Clean [duplicateIssue] :=
  fun h => h duplicateIssue (List.mem_singleton.mpr rfl) rfl

/-- What has been seen are the identities of what has gone before. -/
def Sees (seen : List String) (before : List Attraction) : Prop :=
  ∀ k, k ∈ seen ↔ ∃ b ∈ before, attractionIdentity b = k

theorem sees_nil : Sees [] [] := by simp [Sees]

theorem Sees.skip {seen : List String} {before : List Attraction} (h : Sees seen before)
    {a : Attraction} (ha : attractionIdentity a ∈ seen) : Sees seen (before ++ [a]) := by
  intro k
  simp only [List.mem_append, List.mem_singleton, or_and_right, exists_or, exists_eq_left, ← h k]
  exact ⟨Or.inl, fun hk => hk.elim id fun he => he ▸ ha⟩

theorem Sees.add {seen : List String} {before : List Attraction} (h : Sees seen before)
    (a : Attraction) : Sees (attractionIdentity a :: seen) (before ++ [a]) := by
  intro k
  simp only [List.mem_cons, List.not_mem_nil, or_false, List.mem_append, or_and_right, exists_or,
    exists_eq_left, ← h k]
  rw [or_comm, eq_comm]

theorem Sees.absent_iff {seen : List String} {before : List Attraction} (h : Sees seen before)
    (a : Attraction) : attractionIdentity a ∉ seen ↔
      ∀ b ∈ before, attractionIdentity b ≠ attractionIdentity a := by
  rw [h]
  simp only [not_exists, not_and, ne_eq]

/-- The identities that come in are new and come in once. -/
def Arriving (before xs : List Attraction) : Prop :=
  Separate attractionIdentity (xs : Multiset Attraction) ∧
    ∀ b ∈ before, ∀ x ∈ xs, attractionIdentity b ≠ attractionIdentity x

theorem arriving_cons {before xs : List Attraction} {a : Attraction} :
    Arriving before (a :: xs) ↔
      (∀ b ∈ before, attractionIdentity b ≠ attractionIdentity a) ∧
        Arriving (before ++ [a]) xs := by
  simp only [Arriving, ← Multiset.cons_coe, separate_cons, Multiset.mem_coe, List.mem_cons,
    List.mem_append, List.not_mem_nil, or_false]
  constructor
  · rintro ⟨⟨hxs, hs⟩, hb⟩
    refine ⟨fun b h => hb b h a (Or.inl rfl), hs, ?_⟩
    rintro b (h | rfl) x hx
    · exact hb b h x (Or.inr hx)
    · exact (hxs x hx).symm
  · rintro ⟨ha, hs, hb⟩
    refine ⟨⟨fun x hx => (hb a (Or.inr rfl) x hx).symm, hs⟩, ?_⟩
    rintro b h x (rfl | hx)
    · exact ha b h
    · exact hb b (Or.inl h) x hx

theorem arriving_append {before xs ys : List Attraction} :
    Arriving before (xs ++ ys) ↔ Arriving before xs ∧ Arriving (before ++ xs) ys := by
  induction xs generalizing before with
  | nil => simp [Arriving, Separate]
  | cons a xs ih =>
    rw [List.cons_append, arriving_cons, ih, arriving_cons, List.append_assoc,
      List.singleton_append, and_assoc]

theorem validateAttractions_sees (day : Nat) {seen : List String} {before : List Attraction}
    (h : Sees seen before) (xs : List (Attraction × Nat)) :
    Sees (validateAttractions checks inputs day seen xs).2 (before ++ xs.map (·.1)) ∧
      (Clean (validateAttractions checks inputs day seen xs).1 ↔
        Arriving before (xs.map (·.1))) := by
  induction xs generalizing seen before with
  | nil => simp [validateAttractions, h, Clean, Arriving, Separate]
  | cons x xs ih =>
    obtain ⟨a, position⟩ := x
    simp only [validateAttractions, List.map_cons]
    rw [List.append_cons before a, arriving_cons, ← h.absent_iff]
    by_cases ha : attractionIdentity a ∈ seen
    · obtain ⟨hs, -⟩ := ih (h.skip ha)
      simp only [if_pos ha]
      refine ⟨hs, ?_⟩
      simp only [clean_append, not_clean_duplicate, ha, not_true_eq_false, false_and]
    · obtain ⟨hs, hc⟩ := ih (h.add a)
      simp only [if_neg ha]
      refine ⟨hs, ?_⟩
      simp only [List.nil_append, clean_append, clean_others, true_and, hc, ha, not_false_eq_true]

theorem validateDays_clean {seen : List String} {before : List Attraction} (h : Sees seen before)
    (days : List (DayPlan × Nat)) :
    Clean (validateDays checks inputs seen days) ↔
      Arriving before (days.flatMap fun d => d.1.attractions) := by
  induction days generalizing seen before with
  | nil => simp [validateDays, Clean, Arriving, Separate]
  | cons d days ih =>
    obtain ⟨day, position⟩ := d
    obtain ⟨hs, hc⟩ := validateAttractions_sees checks inputs position h day.attractions.zipIdx
    rw [List.zipIdx_map_fst] at hs hc
    simp only [validateDays, List.flatMap_cons, clean_append, clean_others, true_and, hc, ih hs,
      arriving_append]

/-- The validator reports a duplicate exactly if one place is there twice. -/
theorem validate_clean_iff :
    Clean (validate checks inputs).issues ↔ Unrepeated inputs.plan := by
  have hlist : (inputs.plan.days.zipIdx.flatMap fun d => d.1.attractions) =
      inputs.plan.days.flatMap (·.attractions) := by
    rw [← List.flatMap_map (fun d : DayPlan × Nat => d.1) (fun day => day.attractions),
      List.zipIdx_map_fst]
  simp only [validate, TripValidationResult.fromIssues, clean_append, clean_others, true_and,
    and_true, validateDays_clean checks inputs sees_nil, hlist, Arriving, List.not_mem_nil, false_implies,
    implies_true, Unrepeated, visits, contents]

/-- The attractions of the days before. -/
def earlier (plan : TripPlan) (day : Nat) : List Attraction :=
  (plan.days.take day).flatMap (·.attractions)

theorem keepUnseen_novel {seen : List String} {before : List Attraction} (h : Sees seen before)
    (xs : List Attraction) :
    (keepUnseen seen xs).1 = novel attractionIdentity before xs ∧
      Sees (keepUnseen seen xs).2 (before ++ xs) := by
  induction xs generalizing seen before with
  | nil => simpa [keepUnseen] using h
  | cons a xs ih =>
    rw [novel_cons, List.append_cons before a xs]
    by_cases ha : attractionIdentity a ∈ seen
    · have hold : ¬ ∀ b ∈ before, attractionIdentity b ≠ attractionIdentity a := by
        rw [← h.absent_iff]
        exact not_not_intro ha
      rw [keepUnseen, if_pos ha, if_neg hold]
      exact ih (h.skip ha)
    · have hnew := (h.absent_iff a).mp ha
      obtain ⟨hk, hs⟩ := ih (h.add a)
      rw [keepUnseen, if_neg ha, if_pos hnew]
      exact ⟨congrArg (a :: ·) hk, hs⟩

theorem dropDuplicates_novel {seen : List String} {before : List Attraction} (h : Sees seen before)
    (days : List DayPlan) (d : Nat) :
    (dropDuplicates seen days)[d]? = days[d]?.map fun day =>
      { day with
        attractions := novel attractionIdentity (before ++ (days.take d).flatMap (·.attractions))
          day.attractions } := by
  induction days generalizing seen before d with
  | nil => rfl
  | cons day days ih =>
    obtain ⟨hk, hs⟩ := keepUnseen_novel h day.attractions
    cases d with
    | zero => simp [dropDuplicates, hk]
    | succ d =>
      simp only [dropDuplicates, List.getElem?_cons_succ, ih hs, List.take_succ_cons,
        List.flatMap_cons, List.append_assoc]

/-- Each day keeps, in order, the attractions that stand neither in an earlier day nor
before them in their own. -/
theorem removeDuplicateAttractions_days (plan : TripPlan) (d : Nat) :
    (removeDuplicateAttractions plan).days[d]? = plan.days[d]?.map fun day =>
      { day with attractions := novel attractionIdentity (earlier plan d) day.attractions } :=
  dropDuplicates_novel sees_nil plan.days d

theorem dropDuplicates_visits {seen : List String} {before : List Attraction} (h : Sees seen before)
    (days : List DayPlan) : (dropDuplicates seen days).flatMap (·.attractions) =
      novel attractionIdentity before (days.flatMap (·.attractions)) := by
  induction days generalizing seen before with
  | nil => rfl
  | cons day days ih =>
    obtain ⟨hk, hs⟩ := keepUnseen_novel h day.attractions
    simp only [dropDuplicates, List.flatMap_cons, hk, ih hs, novel_append]

theorem removeDuplicateAttractions_unrepeated (plan : TripPlan) :
    Unrepeated (removeDuplicateAttractions plan) := by
  have hn := novel_separate attractionIdentity [] (plan.days.flatMap (·.attractions))
  rwa [← dropDuplicates_visits sees_nil] at hn

end TravelAgent.DuplicateCheck

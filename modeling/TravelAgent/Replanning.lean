import TravelAgent.PlanEdits
import TravelAgent.Rearrangement

namespace TravelAgent.Replanning

open TravelAgent.Itinerary TravelAgent.PlanEdits TravelAgent.Rearrangement
open TravelAgent.Regrouping (contents)

/-- The attractions of a day. -/
def dayAttractions (plan : TripPlan) (day : Nat) : List Attraction :=
  group DayPlan.attractions plan.days day

/-- All of a plan but its attractions. -/
def frame (plan : TripPlan) : TripPlan :=
  { plan with days := plan.days.map fun d => { d with attractions := [] } }

/-- A plan with some attractions moved and some taken out; all else is as it was. -/
structure Replanned (plan plan' : TripPlan) (moved removed : Multiset Attraction) : Prop where
  frame : frame plan' = frame plan
  attractions : Rearranged DayPlan.attractions plan.days plan'.days moved removed

theorem Replanned.refl (plan : TripPlan) : Replanned plan plan 0 0 := ⟨rfl, .refl _⟩

theorem Replanned.trans {plan plan' plan'' : TripPlan} {m m' r r' : Multiset Attraction}
    (h : Replanned plan plan' m r) (h' : Replanned plan' plan'' m' r') :
    Replanned plan plan'' (m + m') (r + r') :=
  ⟨h'.frame.trans h.frame, h.attractions.trans h'.attractions⟩

theorem Replanned.visits {plan plan' : TripPlan} {m r : Multiset Attraction}
    (h : Replanned plan plan' m r) : visits plan' + r = visits plan :=
  h.attractions.conserved

theorem Replanned.length {plan plan' : TripPlan} {m r : Multiset Attraction}
    (h : Replanned plan plan' m r) : plan'.days.length = plan.days.length :=
  h.attractions.length

theorem frame_editDay (plan : TripPlan) (day : Nat) (f : List Attraction → List Attraction) :
    frame (editDay plan day f) = frame plan := by
  have hdays : (plan.days.modify day fun d => { d with attractions := f d.attractions }).map
      (fun d => { d with attractions := [] }) = plan.days.map fun d => { d with attractions := [] } := by
    apply List.ext_getElem?
    intro i
    rw [List.getElem?_map, List.getElem?_map, List.getElem?_modify]
    cases plan.days[i]? with
    | none => rfl
    | some d =>
      simp only [Option.map_eq_map, Option.map_some]
      split
      · rfl
      · rfl
  rw [frame, frame]
  exact congrArg (fun days => { plan with days := days }) hdays

theorem attractionAt_eq (plan : TripPlan) (day index : Nat) :
    attractionAt plan day index = (dayAttractions plan day)[index]? := by
  unfold attractionAt dayAttractions group
  cases plan.days[day]? with
  | none => rfl
  | some d => rfl

theorem dayLength_eq (plan : TripPlan) (day : Nat) :
    dayLength plan day = (dayAttractions plan day).length := by
  unfold dayLength dayAttractions group
  cases plan.days[day]? with
  | none => rfl
  | some d => rfl

theorem replanned_takeOut {plan : TripPlan} {day index : Nat} {a : Attraction}
    (h : attractionAt plan day index = some a) : Replanned plan (takeOut plan day index) 0 {a} := by
  rw [attractionAt_eq] at h
  exact ⟨frame_editDay plan day _, rearranged_erase (fun _ => rfl) h⟩

theorem replanned_move {plan : TripPlan} {source index target insertionIndex : Nat} {a : Attraction}
    (h : attractionAt plan source index = some a) (ht : target < plan.days.length)
    (hp : insertionIndex ≤ dayLength (takeOut plan source index) target) :
    Replanned plan (moveAttraction plan source index target insertionIndex) {a} 0 := by
  have hplan : moveAttraction plan source index target insertionIndex =
      putIn (takeOut plan source index) target insertionIndex a := by
    rw [moveAttraction, h]
  rw [attractionAt_eq] at h
  rw [dayLength_eq] at hp
  rw [hplan]
  exact ⟨(frame_editDay _ _ _).trans (frame_editDay _ _ _),
    rearranged_move (fun _ => rfl) h (fun _ => rfl) ht hp⟩

theorem replanned_putIn {plan : TripPlan} {day index : Nat} {a : Attraction}
    (hd : day < plan.days.length) (hi : index ≤ plan.days[day].attractions.length) :
    Replanned (putIn plan day index a) plan 0 {a} :=
  ⟨(frame_editDay plan day _).symm, rearranged_insert (fun _ => rfl) hd hi⟩

/-- No two days have one stable index. -/
def DistinctDays (plan : TripPlan) : Prop :=
  (plan.days.zipIdx.map fun d => d.1.indexAt d.2).Nodup

instance (plan : TripPlan) : Decidable (DistinctDays plan) := inferInstanceAs (Decidable (List.Nodup _))

theorem stable_frame (plan : TripPlan) : (frame plan).days.zipIdx.map (fun d => d.1.indexAt d.2) =
    plan.days.zipIdx.map fun d => d.1.indexAt d.2 := by
  rw [frame, List.zipIdx_map, List.map_map]
  rfl

theorem Replanned.distinct {plan plan' : TripPlan} {m r : Multiset Attraction}
    (h : Replanned plan plan' m r) (hd : DistinctDays plan) : DistinctDays plan' := by
  rw [DistinctDays, ← stable_frame] at hd ⊢
  rwa [h.frame]

theorem Replanned.sublist {plan plan' : TripPlan} {r : Multiset Attraction}
    (h : Replanned plan plan' 0 r) (day : Nat) :
    (dayAttractions plan' day).Sublist (dayAttractions plan day) :=
  h.attractions.sublist day

theorem dayLength_takeOut_ne {plan : TripPlan} {day index other : Nat} (h : day ≠ other) :
    dayLength (takeOut plan day index) other = dayLength plan other := by
  rw [dayLength, takeOut, editDay, List.getElem?_modify_ne _ _ h, dayLength]

theorem dayLength_takeOut {plan : TripPlan} {day index : Nat} (h : index < dayLength plan day) :
    dayLength (takeOut plan day index) day = dayLength plan day - 1 := by
  unfold dayLength at h ⊢
  rw [takeOut, editDay, List.getElem?_modify_eq]
  cases hd : plan.days[day]? with
  | none =>
    rw [hd] at h
    cases h
  | some d =>
    rw [hd] at h
    exact List.length_eraseIdx_of_lt h

theorem mem_targetPositions {plan : TripPlan} {source target : Nat}
    (hs : source < plan.days.length) (h : target ∈ targetPositions plan source) :
    target < plan.days.length ∧ source ≠ target := by
  simp only [targetPositions, List.mem_append, List.mem_range'_1, List.mem_range] at h
  omega

theorem dayPosition_lt {plan : TripPlan} {dayIndex : Int} {day : Nat}
    (h : dayPosition plan dayIndex = some day) :
    ∃ hd : day < plan.days.length, plan.days[day].indexAt day = dayIndex := by
  obtain ⟨⟨d, i⟩, hfind, rfl⟩ := Option.map_eq_some_iff.mp h
  obtain ⟨hi, hd⟩ := List.mem_zipIdx' (List.mem_of_find?_eq_some hfind)
  have hindex : d.indexAt i = dayIndex := of_decide_eq_true (List.find?_some hfind :)
  exact ⟨hi, hd ▸ hindex⟩

end TravelAgent.Replanning

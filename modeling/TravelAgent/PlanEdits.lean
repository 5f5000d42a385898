import TravelAgent.AgentState
import TravelAgent.Regrouping

namespace TravelAgent.PlanEdits

open TravelAgent.Itinerary TravelAgent.Agent TravelAgent.Regrouping

/-- The attractions of all days. -/
def visits (plan : TripPlan) : Multiset Attraction := contents (·.attractions) plan.days

/-- No two attractions are one place to the validator. -/
def Unrepeated (plan : TripPlan) : Prop := Separate attractionIdentity (visits plan)

def editDay (plan : TripPlan) (day : Nat) (f : List Attraction → List Attraction) : TripPlan :=
  { plan with days := plan.days.modify day fun d => { d with attractions := f d.attractions } }

/-- `attractions.pop(index)` -/
def takeOut (plan : TripPlan) (day index : Nat) : TripPlan := editDay plan day (·.eraseIdx index)

/-- `attractions.insert(index, attraction)` -/
def putIn (plan : TripPlan) (day index : Nat) (a : Attraction) : TripPlan :=
  editDay plan day (·.insertIdx index a)

def attractionAt (plan : TripPlan) (day index : Nat) : Option Attraction :=
  plan.days[day]?.bind (·.attractions[index]?)

/-- An attraction is taken out of its day and put into another place. -/
def moveAttraction (plan : TripPlan) (source index target insertionIndex : Nat) : TripPlan :=
  match attractionAt plan source index with
  | none => plan
  | some a => putIn (takeOut plan source index) target insertionIndex a

/-- `_day_position` -/
def dayPosition (plan : TripPlan) (dayIndex : Int) : Option Nat :=
  (plan.days.zipIdx.find? fun d => decide (d.1.indexAt d.2 = dayIndex)).map (·.2)

/-- `_stable_day_index` -/
def stableDayIndex (plan : TripPlan) (position : Nat) : Int :=
  (plan.days[position]?.map (·.indexAt position)).getD position

def dayLength (plan : TripPlan) (day : Nat) : Nat :=
  (plan.days[day]?.map (·.attractions.length)).getD 0

/-- The other days, the later ones first. -/
def targetPositions (plan : TripPlan) (source : Nat) : List Nat :=
  List.range' (source + 1) (plan.days.length - (source + 1)) ++ List.range source

theorem attractionAt_some {plan : TripPlan} {day index : Nat} {a : Attraction}
    (h : attractionAt plan day index = some a) :
    ∃ (hd : day < plan.days.length) (hi : index < plan.days[day].attractions.length),
      plan.days[day].attractions[index] = a := by
  obtain ⟨d, hd, ha⟩ := Option.bind_eq_some_iff.mp h
  obtain ⟨hlt, rfl⟩ := List.getElem?_eq_some_iff.mp hd
  obtain ⟨hi, rfl⟩ := List.getElem?_eq_some_iff.mp ha
  exact ⟨hlt, hi, rfl⟩

theorem visits_editDay {plan : TripPlan} {day : Nat} (hd : day < plan.days.length)
    {f : List Attraction → List Attraction}
    (h : (f plan.days[day].attractions).Perm plan.days[day].attractions) :
    visits (editDay plan day f) = visits plan :=
  contents_modify_perm hd h

theorem visits_putIn (plan : TripPlan) (day index : Nat) (a : Attraction) :
    visits (putIn plan day index a) ≤ a ::ₘ visits plan :=
  contents_insert plan.days fun _ => rfl

theorem visits_takeOut_le (plan : TripPlan) (day index : Nat) :
    visits (takeOut plan day index) ≤ visits plan :=
  contents_drop plan.days fun _ => rfl

theorem visits_takeOut {plan : TripPlan} {day index : Nat} {a : Attraction}
    (h : attractionAt plan day index = some a) :
    a ::ₘ visits (takeOut plan day index) = visits plan := by
  obtain ⟨hd, hi, rfl⟩ := attractionAt_some h
  exact contents_erase hd rfl hi

theorem visits_moveAttraction (plan : TripPlan) (source index target insertionIndex : Nat) :
    visits (moveAttraction plan source index target insertionIndex) ≤ visits plan := by
  unfold moveAttraction
  split
  · exact le_rfl
  · rename_i a ha
    rw [← visits_takeOut ha]
    exact visits_putIn _ target insertionIndex a

/-- The optimizers go by costs that are a hundredth lower. -/
theorem improved {x y : ℚ} (h : x + 1 / 100 < y) : x < y :=
  (lt_add_of_pos_right x (by decide +kernel)).trans h

theorem Unrepeated.mono {plan plan' : TripPlan} (h : Unrepeated plan)
    (hle : visits plan' ≤ visits plan) : Unrepeated plan' :=
  Separate.mono h hle

end TravelAgent.PlanEdits

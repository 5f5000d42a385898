import Mathlib
import TravelAgent.AgentDecide
import TravelAgent.TimelineLunch

namespace TravelAgent.Scheduling

open TravelAgent.Itinerary TravelAgent.Attempts
open TravelAgent.Agent (RouteEstimateResult)

def DayRides.all (rides : DayRides) : List Ride :=
  rides.departure.toList ++ rides.between ++ rides.back.toList

/-- The legs that a day has by its places, each of a minute at least. -/
structure Shaped (attractions : List Attraction) (hotels : Option Hotel × Option Hotel)
    (rides : DayRides) : Prop where
  departure : rides.departure.isSome = (attractions.head?.isSome && hotels.1.isSome)
  between : rides.between.length = attractions.length - 1
  back : rides.back.isSome = (attractions.getLast?.isSome && hotels.2.isSome)
  positive : ∀ r ∈ rides.all, r.1 ≠ 0

section

variable {doubles : Doubles} {day : DayFrame} {mode : RouteMode} {routes : List RouteEstimate}

theorem rideMinutes_pos {origin destination : Place} {legType : RouteLegType} {legIndex : Nat}
    {ride : Ride}
    (h : rideMinutes doubles day mode routes origin destination legType legIndex = .ok ride) :
    ride.1 ≠ 0 := by
  have hmax : ∀ m : Int, (max 1 m).toNat ≠ 0 := by
    intro m
    omega
  rw [rideMinutes, transportMinutes] at h
  split at h
  · obtain ⟨m, _, rfl⟩ := map_ok h
    exact hmax m
  · split at h
    · obtain ⟨m, _, rfl⟩ := map_ok h
      exact hmax m
    · cases h

/-- A leg between an attraction and a hotel is there when both are. -/
theorem hotelRide_shaped {attraction : Option Attraction} {hotel : Option Hotel}
    {minutes : Attraction → Hotel → Except String Ride}
    (hpos : ∀ a h r, minutes a h = .ok r → r.1 ≠ 0) {ride : Option Ride}
    (h : hotelRide minutes attraction hotel = .ok ride) :
    ride.isSome = (attraction.isSome && hotel.isSome) ∧ ∀ r ∈ ride, r.1 ≠ 0 := by
  cases attraction with
  | none =>
    cases h
    exact ⟨rfl, fun r hr => by cases hr⟩
  | some a =>
    cases hotel with
    | none =>
      cases h
      exact ⟨rfl, fun r hr => by cases hr⟩
    | some b =>
      obtain ⟨r, hr, rfl⟩ := map_ok h
      refine ⟨rfl, ?_⟩
      intro q hq
      cases hq
      exact hpos a b r hr

theorem betweenRides_shaped {attractions : List Attraction} {i : Nat} {rides : List Ride}
    (h : betweenRides doubles day mode routes i attractions = .ok rides) :
    rides.length = attractions.length - 1 ∧ ∀ r ∈ rides, r.1 ≠ 0 := by
  induction attractions generalizing i rides with
  | nil =>
    cases h
    exact ⟨rfl, fun r hr => by cases hr⟩
  | cons a attractions ih =>
    cases attractions with
    | nil =>
      cases h
      exact ⟨rfl, fun r hr => by cases hr⟩
    | cons b rest =>
      obtain ⟨ride, hride, h⟩ := bind_ok h
      obtain ⟨more, hmore, h⟩ := bind_ok h
      cases h
      obtain ⟨hlen, hpos⟩ := ih hmore
      refine ⟨?_, ?_⟩
      · simp only [List.length_cons] at hlen ⊢
        omega
      · intro r hr
        obtain rfl | hr := List.mem_cons.mp hr
        · exact rideMinutes_pos hride
        · exact hpos r hr

theorem dayRides_shaped {attractions : List Attraction} {hotels : Option Hotel × Option Hotel}
    {rides : DayRides} (h : dayRides doubles day mode routes attractions hotels = .ok rides) :
    Shaped attractions hotels rides := by
  obtain ⟨departure, hdeparture, h⟩ := bind_ok h
  obtain ⟨between, hbetween, h⟩ := bind_ok h
  obtain ⟨back, hback, h⟩ := bind_ok h
  cases h
  obtain ⟨hd, hdpos⟩ := hotelRide_shaped (fun a h r => rideMinutes_pos) hdeparture
  obtain ⟨hb, hbpos⟩ := betweenRides_shaped hbetween
  obtain ⟨hr, hrpos⟩ := hotelRide_shaped (fun a h r => rideMinutes_pos) hback
  refine ⟨hd, hb, hr, ?_⟩
  intro r hmem
  rw [DayRides.all, List.mem_append, List.mem_append, Option.mem_toList, Option.mem_toList] at hmem
  obtain (hmem | hmem) | hmem := hmem
  · exact hdpos r hmem
  · exact hbpos r hmem
  · exact hrpos r hmem

end

/-- Legs of the same shape are told apart by their list. -/
theorem rides_ext {attractions attractions' : List Attraction}
    {hotels hotels' : Option Hotel × Option Hotel} {rides rides' : DayRides}
    (h : Shaped attractions hotels rides) (h' : Shaped attractions' hotels' rides')
    (hlen : attractions.length = attractions'.length)
    (hstart : hotels.1.isSome = hotels'.1.isSome) (hall : rides.all = rides'.all) :
    rides = rides' := by
  have hhead : attractions.head?.isSome = attractions'.head?.isSome := by
    cases attractions <;> cases attractions' <;> simp_all
  have hsome : rides.departure.isSome = rides'.departure.isSome := by
    rw [h.departure, h'.departure, hhead, hstart]
  have hfirst : rides.departure.toList.length = rides'.departure.toList.length := by
    cases hd : rides.departure <;> cases hd' : rides'.departure <;> simp_all
  have hsecond : rides.between.length = rides'.between.length := by
    rw [h.between, h'.between, hlen]
  rw [DayRides.all, DayRides.all, List.append_assoc, List.append_assoc] at hall
  obtain ⟨hd, hrest⟩ := List.append_inj hall hfirst
  obtain ⟨hb, hr⟩ := List.append_inj hrest hsecond
  have hd := congrArg List.head? hd
  have hr := congrArg List.head? hr
  rw [Option.head?_toList, Option.head?_toList] at hd hr
  cases rides
  cases rides'
  simp only [DayRides.mk.injEq]
  exact ⟨hd, hb, hr⟩

/-- The minutes of the visits as the timeline shows them, from the index of the first. -/
def visitsShown : Nat → List Nat → List Shown
  | _, [] => []
  | i, m :: ms => (if m ≠ 0 then [(some i, m, none)] else []) ++ visitsShown (i + 1) ms

theorem visitsShown_index {i j m : Nat} {ms : List Nat} {source : Option TimeSource}
    (h : (some j, m, source) ∈ visitsShown i ms) : i ≤ j := by
  induction ms generalizing i with
  | nil => cases h
  | cons n ms ih =>
    rw [visitsShown, List.mem_append] at h
    obtain h | h := h
    · split at h
      · rw [List.mem_singleton] at h
        cases h
        exact Nat.le_refl j
      · cases h
    · exact Nat.le_of_succ_le (ih h)

theorem visitsShown_inj {i : Nat} {ms ns : List Nat} (hlen : ms.length = ns.length)
    (h : visitsShown i ms = visitsShown i ns) : ms = ns := by
  induction ms generalizing i ns with
  | nil => exact (List.length_eq_zero_iff.mp hlen.symm).symm
  | cons m ms ih =>
    cases ns with
    | nil => cases hlen
    | cons n ns =>
      have hlen := Nat.succ.inj hlen
      have hlate : ∀ k (ks : List Nat) x, (some i, k, none) :: x ≠ visitsShown (i + 1) ks := by
        intro k ks x heq
        have hmem : (some i, k, none) ∈ visitsShown (i + 1) ks := by
          rw [← heq]
          exact List.mem_cons_self
        exact absurd (visitsShown_index hmem) (by omega)
      by_cases hm : m = 0
      · by_cases hn : n = 0
        · simp only [visitsShown, hm, hn, ne_eq, not_true, if_false, List.nil_append] at h
          rw [hm, hn, ih hlen h]
        · simp only [visitsShown, hm, hn, ne_eq, not_true, if_false, List.nil_append,
            not_false_eq_true, if_true, List.singleton_append] at h
          exact absurd h.symm (hlate n ms _)
      · by_cases hn : n = 0
        · simp only [visitsShown, hm, hn, ne_eq, not_true, if_false, List.nil_append,
            not_false_eq_true, if_true, List.singleton_append] at h
          exact absurd h (hlate m ns _)
        · simp only [visitsShown, hm, hn, ne_eq, not_false_eq_true, if_true, List.singleton_append,
            List.cons.injEq, Prod.mk.injEq, true_and, and_true] at h
          rw [h.1, ih hlen h.2]

section

variable (cfg : ScheduleTimelineEvaluator)

theorem ridePieces_visits (origin destination : Place) (index : Nat) (ride : Ride) :
    (ridePieces cfg origin destination index ride).flatMap (Piece.shown .attraction) = [] := by
  simp [ridePieces, Piece.shown, Entry.pause]

theorem ridePieces_rides (origin destination : Place) (index : Nat) {ride : Ride}
    (h : ride.1 ≠ 0) :
    (ridePieces cfg origin destination index ride).flatMap (Piece.shown .transportation) =
      [(some index, ride.1, some ride.2)] := by
  simp [ridePieces, Piece.shown, Entry.pause, h]

theorem visitPieces_visits {attractions : List Attraction} {i : Nat} {rides : List Ride}
    (h : rides.length = attractions.length - 1) :
    (visitPieces cfg i attractions rides).flatMap (Piece.shown .attraction) =
      visitsShown i (attractions.map visitMinutes) := by
  induction attractions generalizing i rides with
  | nil =>
    cases rides <;> rfl
  | cons a attractions ih =>
    cases attractions with
    | nil =>
      have hnil : rides = [] := List.length_eq_zero_iff.mp h
      subst hnil
      simp [visitPieces, visitPiece, Piece.shown, visitsShown]
    | cons b rest =>
      cases rides with
      | nil => cases h
      | cons ride rides =>
        have hlen : rides.length = (b :: rest).length - 1 := by
          simp only [List.length_cons] at h ⊢
          omega
        simp only [visitPieces, List.flatMap_cons, List.flatMap_append, ridePieces_visits, ih hlen]
        simp [visitPiece, Piece.shown, Entry.pause, visitsShown]

def rideShown (ride : Ride) : Nat × Option TimeSource := (ride.1, some ride.2)

theorem visitPieces_rides {attractions : List Attraction} {i : Nat} {rides : List Ride}
    (h : rides.length = attractions.length - 1) (hpos : ∀ r ∈ rides, r.1 ≠ 0) :
    ((visitPieces cfg i attractions rides).flatMap (Piece.shown .transportation)).map Prod.snd =
      rides.map rideShown := by
  induction attractions generalizing i rides with
  | nil =>
    have hnil : rides = [] := List.length_eq_zero_iff.mp h
    subst hnil
    rfl
  | cons a attractions ih =>
    cases attractions with
    | nil =>
      have hnil : rides = [] := List.length_eq_zero_iff.mp h
      subst hnil
      simp [visitPieces, visitPiece, Piece.shown]
    | cons b rest =>
      cases rides with
      | nil => cases h
      | cons ride rides =>
        have hlen : rides.length = (b :: rest).length - 1 := by
          simp only [List.length_cons] at h ⊢
          omega
        have hfirst := ridePieces_rides cfg (.ofAttraction a) (.ofAttraction b) i
          (hpos ride List.mem_cons_self)
        have hrest := ih (i := i + 1) hlen fun r hr => hpos r (List.mem_cons_of_mem ride hr)
        simp only [visitPieces, List.flatMap_cons, List.flatMap_append, hfirst, List.map_append,
          hrest]
        simp [visitPiece, Piece.shown, Entry.pause, rideShown]

theorem hotelPieces_visits {attraction : Option Attraction} {hotel : Option Hotel}
    {ride : Option Ride} (origin destination : Attraction → Hotel → Place) (index : Nat) :
    (hotelPieces (fun a h => ridePieces cfg (origin a h) (destination a h) index) attraction hotel
      ride).flatMap (Piece.shown .attraction) = [] := by
  rw [hotelPieces.eq_def]
  split
  · exact ridePieces_visits cfg _ _ _ _
  · rfl

theorem hotelPieces_rides {attraction : Option Attraction} {hotel : Option Hotel}
    {ride : Option Ride} (h : ride.isSome = (attraction.isSome && hotel.isSome))
    (hpos : ∀ r ∈ ride, r.1 ≠ 0) (origin destination : Attraction → Hotel → Place) (index : Nat) :
    ((hotelPieces (fun a h => ridePieces cfg (origin a h) (destination a h) index) attraction hotel
      ride).flatMap (Piece.shown .transportation)).map Prod.snd = ride.toList.map rideShown := by
  cases ride with
  | none => cases attraction <;> cases hotel <;> rfl
  | some r =>
    cases attraction with
    | none => cases h
    | some a =>
      cases hotel with
      | none => cases h
      | some b =>
        rw [hotelPieces, ridePieces_rides cfg _ _ _ (hpos r rfl)]
        rfl

variable {attractions : List Attraction} {hotels : Option Hotel × Option Hotel} {rides : DayRides}

theorem dayPieces_visits (h : Shaped attractions hotels rides) :
    (dayPieces cfg attractions hotels rides).flatMap (Piece.shown .attraction) =
      visitsShown 0 (attractions.map visitMinutes) := by
  have hfirst : (departurePieces cfg attractions hotels.1 rides.departure).flatMap
      (Piece.shown .attraction) = [] :=
    hotelPieces_visits cfg (fun _ b => .ofHotel b) (fun a _ => .ofAttraction a) 0
  have hlast : (returnPieces cfg attractions hotels.2 rides.back).flatMap
      (Piece.shown .attraction) = [] :=
    hotelPieces_visits cfg (fun a _ => .ofAttraction a) (fun _ b => .ofHotel b) _
  have hlunch : (if attractions = [] then [] else [Piece.lateLunch]).flatMap
      (Piece.shown .attraction) = [] := by
    split <;> rfl
  simp only [dayPieces, List.flatMap_append, hfirst, hlast, hlunch, visitPieces_visits cfg h.between,
    List.nil_append, List.append_nil]

theorem dayPieces_rides (h : Shaped attractions hotels rides) :
    ((dayPieces cfg attractions hotels rides).flatMap (Piece.shown .transportation)).map Prod.snd =
      rides.all.map rideShown := by
  have hpos : ∀ r, (r ∈ rides.departure ∨ r ∈ rides.between) ∨ r ∈ rides.back → r.1 ≠ 0 := by
    intro r hr
    apply h.positive
    rw [DayRides.all, List.mem_append, List.mem_append, Option.mem_toList, Option.mem_toList]
    exact hr
  have hfirst : ((departurePieces cfg attractions hotels.1 rides.departure).flatMap
      (Piece.shown .transportation)).map Prod.snd = rides.departure.toList.map rideShown :=
    hotelPieces_rides cfg h.departure (fun r hr => hpos r (Or.inl (Or.inl hr)))
      (fun _ b => .ofHotel b) (fun a _ => .ofAttraction a) 0
  have hmiddle := visitPieces_rides cfg (i := 0) h.between fun r hr => hpos r (Or.inl (Or.inr hr))
  have hlast : ((returnPieces cfg attractions hotels.2 rides.back).flatMap
      (Piece.shown .transportation)).map Prod.snd = rides.back.toList.map rideShown :=
    hotelPieces_rides cfg h.back (fun r hr => hpos r (Or.inr hr))
      (fun a _ => .ofAttraction a) (fun _ b => .ofHotel b) (attractions.length - 1)
  have hlunch : ((if attractions = [] then [] else [Piece.lateLunch]).flatMap
      (Piece.shown .transportation)).map Prod.snd = [] := by
    split <;> rfl
  simp only [dayPieces, List.flatMap_append, List.map_append, hfirst, hmiddle, hlast, hlunch,
    List.append_nil, DayRides.all]

theorem rideShown_injective : Function.Injective rideShown := by
  intro r q h
  simp only [rideShown, Prod.mk.injEq, Option.some.injEq] at h
  exact Prod.ext h.1 h.2

theorem ridePieces_congr {origin origin' destination destination' : Place}
    (ho : origin.name = origin'.name) (hd : destination.name = destination'.name) (index : Nat)
    (ride : Ride) :
    ridePieces cfg origin destination index ride =
      ridePieces cfg origin' destination' index ride := by
  simp only [ridePieces, ho, hd]

theorem visitPieces_congr {attractions attractions' : List Attraction}
    (hn : attractions.map (·.name) = attractions'.map (·.name))
    (hv : attractions.map visitMinutes = attractions'.map visitMinutes) (i : Nat)
    (rides : List Ride) :
    visitPieces cfg i attractions rides = visitPieces cfg i attractions' rides := by
  induction attractions generalizing attractions' i rides with
  | nil =>
    rw [List.map_nil] at hn
    rw [List.map_eq_nil_iff.mp hn.symm]
  | cons a attractions ih =>
    obtain ⟨a', rest', rfl, hna, hn⟩ := List.map_eq_cons_iff.mp hn.symm
    rw [List.map_cons, List.map_cons, List.cons.injEq] at hv
    have hvisit : ∀ j, visitPiece a' j = visitPiece a j := by
      intro j
      simp only [visitPiece, hna, hv.1]
    cases attractions with
    | nil =>
      rw [List.map_nil] at hn
      rw [List.map_eq_nil_iff.mp hn, visitPieces, visitPieces, hvisit]
    | cons b rest =>
      obtain ⟨b', rest'', rfl, hnb, hn'⟩ := List.map_eq_cons_iff.mp hn
      cases rides with
      | nil => rfl
      | cons ride rides =>
        have hride : ridePieces cfg (.ofAttraction a) (.ofAttraction b) i ride =
            ridePieces cfg (.ofAttraction a') (.ofAttraction b') i ride :=
          ridePieces_congr cfg hna.symm hnb.symm i ride
        rw [visitPieces, visitPieces, hvisit, ih hn.symm hv.2 (i + 1) rides, hride]

theorem hotelPieces_congr {attraction attraction' : Option Attraction} {hotel hotel' : Option Hotel}
    {pieces pieces' : Attraction → Hotel → Ride → List Piece}
    (hp : ∀ a h a' h', a.name = a'.name → h.name = h'.name → pieces a h = pieces' a' h')
    (ha : attraction.map (·.name) = attraction'.map (·.name))
    (hh : hotel.map (·.name) = hotel'.map (·.name)) (ride : Option Ride) :
    hotelPieces pieces attraction hotel ride = hotelPieces pieces' attraction' hotel' ride := by
  cases attraction with
  | none =>
    rw [Option.map_eq_none_iff.mp ha.symm]
    rfl
  | some a =>
    obtain ⟨a', rfl, hna⟩ := Option.map_eq_some_iff.mp ha.symm
    cases hotel with
    | none =>
      rw [Option.map_eq_none_iff.mp hh.symm]
      rfl
    | some h =>
      obtain ⟨h', rfl, hnh⟩ := Option.map_eq_some_iff.mp hh.symm
      cases ride with
      | none => rfl
      | some r => exact congrFun (hp a h a' h' hna.symm hnh.symm) r

/-- The pieces of a day take names and minutes from its places, and nothing else. -/
theorem dayPieces_congr {attractions attractions' : List Attraction}
    {hotels hotels' : Option Hotel × Option Hotel}
    (hn : attractions.map (·.name) = attractions'.map (·.name))
    (hv : attractions.map visitMinutes = attractions'.map visitMinutes)
    (hstart : hotels.1.map (·.name) = hotels'.1.map (·.name))
    (hback : hotels.2.map (·.name) = hotels'.2.map (·.name)) (rides : DayRides) :
    dayPieces cfg attractions hotels rides = dayPieces cfg attractions' hotels' rides := by
  have hlen : attractions.length = attractions'.length := by
    rw [← List.length_map (·.name), hn, List.length_map]
  have hhead : attractions.head?.map (·.name) = attractions'.head?.map (·.name) := by
    rw [← List.head?_map, hn, List.head?_map]
  have hlast : attractions.getLast?.map (·.name) = attractions'.getLast?.map (·.name) := by
    rw [← List.getLast?_map, hn, List.getLast?_map]
  have hnil : attractions = [] ↔ attractions' = [] := by
    rw [← List.length_eq_zero_iff, hlen, List.length_eq_zero_iff]
  have hfirst : departurePieces cfg attractions hotels.1 rides.departure =
      departurePieces cfg attractions' hotels'.1 rides.departure := by
    apply hotelPieces_congr _ hhead hstart
    intro a h a' h' ha hh
    funext ride
    exact ridePieces_congr cfg hh ha 0 ride
  have hfinal : returnPieces cfg attractions hotels.2 rides.back =
      returnPieces cfg attractions' hotels'.2 rides.back := by
    apply hotelPieces_congr _ hlast hback
    intro a h a' h' ha hh
    funext ride
    rw [hlen]
    exact ridePieces_congr cfg ha hh _ ride
  simp only [dayPieces, hfirst, hfinal, visitPieces_congr cfg hn hv, hnil]

end

/-- What the fingerprint of a route keeps of a hotel tells whether it has a location. -/
def located (p : HotelPoint) : Bool := p.longitude.isSome

def hotelOf (d : DayPlan) : Option HotelPoint := d.hotel.map hotelPoint

theorem map_filter_located (h : Option Hotel) :
    (h.filter Hotel.located).map hotelPoint = (h.map hotelPoint).filter located := by
  cases h with
  | none => rfl
  | some h =>
    have hsame : located (hotelPoint h) = h.located := by
      rw [located, hotelPoint, Hotel.located, Option.isSome_map]
    rw [Option.map_some, Option.filter_some, Option.filter_some, hsame]
    cases h.located <;> rfl

theorem map_findSome_located (days : List DayPlan) :
    (days.findSome? fun d => d.hotel.filter Hotel.located).map hotelPoint =
      (days.map hotelOf).findSome? fun h => h.filter located := by
  induction days with
  | nil => rfl
  | cons d days ih =>
    have hd : (hotelOf d).filter located = (d.hotel.filter Hotel.located).map hotelPoint :=
      (map_filter_located d.hotel).symm
    rw [List.map_cons, List.findSome?_cons, List.findSome?_cons, hd]
    cases d.hotel.filter Hotel.located with
    | none => exact ih
    | some h => rfl

/-- The names of a day's hotels are those that the fingerprint covers. -/
theorem resolveDayHotels_names {plan plan' : TripPlan}
    (h : plan.days.map hotelOf = plan'.days.map hotelOf) (position : Nat) :
    (resolveDayHotels plan position).1.map (·.name) =
        (resolveDayHotels plan' position).1.map (·.name) ∧
      (resolveDayHotels plan position).2.map (·.name) =
        (resolveDayHotels plan' position).2.map (·.name) := by
  have hnames : ∀ {o o' : Option Hotel}, o.map hotelPoint = o'.map hotelPoint →
      o.map (·.name) = o'.map (·.name) := by
    intro o o' heq
    have hcomp := congrArg (Option.map HotelPoint.name) heq
    rw [Option.map_map, Option.map_map] at hcomp
    exact hcomp
  have hcurrent : ∀ p : TripPlan, (((p.days[position]?).bind (·.hotel)).filter Hotel.located).map
      hotelPoint = ((p.days.map hotelOf)[position]?.join).filter located := by
    intro p
    rw [map_filter_located, List.getElem?_map]
    cases p.days[position]? with
    | none => rfl
    | some d => rfl
  have hprevious : ∀ p : TripPlan, ((p.days.take position).reverse.findSome? fun d =>
      d.hotel.filter Hotel.located).map hotelPoint =
        ((p.days.map hotelOf).take position).reverse.findSome? fun o => o.filter located := by
    intro p
    rw [map_findSome_located, List.map_reverse, List.map_take]
  refine ⟨?_, ?_⟩
  · apply hnames
    simp only [resolveDayHotels, Option.map_or, hcurrent, hprevious, h]
  · apply hnames
    simp only [resolveDayHotels, hcurrent, h]

/-- The minutes that a day's timeline is made of, and the name of its lunch if one is due. -/
structure DayMinutes where
  visits : List Nat
  rides : DayRides
  lunch : Option String
deriving DecidableEq

section

variable (cfg : ScheduleTimelineEvaluator) (doubles : Doubles)

def minutesWith (plan : TripPlan) (day : DayPlan) (position : Nat) (rides : DayRides) : DayMinutes :=
  { visits := day.attractions.map visitMinutes
    rides := rides
    lunch :=
      if lunchDue cfg cfg.startMinute (piecesOf cfg plan day position rides) then
        some (lunchName day)
      else none }

def dayMinutes (request : TripRequest) (plan : TripPlan) (routes : List RouteEstimate)
    (day : DayPlan) (position : Nat) : Except String DayMinutes :=
  (ridesOf cfg doubles request plan routes day position).map (minutesWith cfg plan day position)

def qualityWith (plan : TripPlan) (day : DayPlan) (position : Nat) (rides : DayRides) :
    DayScheduleQuality :=
  dayQuality doubles (dayFrame cfg day position) day.date
    (walk (dayFrame cfg day position) (piecesOf cfg plan day position rides))

/-- What the fingerprint fixes of a day. -/
structure SameInputs (plan plan' : TripPlan) (day day' : DayPlan) (position : Nat) : Prop where
  date : day.date = day'.date
  dayIndex : day.dayIndex = day'.dayIndex
  names : day.attractions.map (·.name) = day'.attractions.map (·.name)
  start : (resolveDayHotels plan position).1.map (·.name) =
    (resolveDayHotels plan' position).1.map (·.name)
  back : (resolveDayHotels plan position).2.map (·.name) =
    (resolveDayHotels plan' position).2.map (·.name)

variable {plan plan' : TripPlan} {day day' : DayPlan} {position : Nat} {rides rides' : DayRides}

theorem walk_lunch (frame : DayFrame) (pieces : List Piece) :
    shownMeals (walk frame pieces).timeline =
      if lunchDue frame.cfg frame.cfg.startMinute pieces then [frame.lunchName] else [] :=
  foldl_meals pieces rfl

/-- A timeline tells the minutes that it was made of. -/
theorem minutes_of_quality (same : SameInputs plan plan' day day' position)
    (h : Shaped day.attractions (resolveDayHotels plan position) rides)
    (h' : Shaped day'.attractions (resolveDayHotels plan' position) rides')
    (heq : qualityWith cfg doubles plan day position rides =
      qualityWith cfg doubles plan' day' position rides') :
    minutesWith cfg plan day position rides = minutesWith cfg plan' day' position rides' := by
  have hline : (walk (dayFrame cfg day position) (piecesOf cfg plan day position rides)).timeline =
      (walk (dayFrame cfg day' position) (piecesOf cfg plan' day' position rides')).timeline :=
    congrArg DayScheduleQuality.timeline heq
  have hlen : day.attractions.length = day'.attractions.length := by
    rw [← List.length_map (·.name), same.names, List.length_map]
  have hvisits : day.attractions.map visitMinutes = day'.attractions.map visitMinutes := by
    have hshown := congrArg (shown .attraction) hline
    rw [walk_shown ItemType.noConfusion ItemType.noConfusion,
      walk_shown ItemType.noConfusion ItemType.noConfusion, piecesOf, piecesOf,
      dayPieces_visits cfg h, dayPieces_visits cfg h'] at hshown
    apply visitsShown_inj _ hshown
    rw [List.length_map, List.length_map, hlen]
  have hrides : rides = rides' := by
    have hshown := congrArg (fun line => (shown .transportation line).map Prod.snd) hline
    rw [walk_shown ItemType.noConfusion ItemType.noConfusion,
      walk_shown ItemType.noConfusion ItemType.noConfusion, piecesOf, piecesOf,
      dayPieces_rides cfg h, dayPieces_rides cfg h'] at hshown
    have hstart : (resolveDayHotels plan position).1.isSome =
        (resolveDayHotels plan' position).1.isSome := by
      have hsome := congrArg Option.isSome same.start
      rwa [Option.isSome_map, Option.isSome_map] at hsome
    exact rides_ext h h' hlen hstart (List.map_injective_iff.mpr rideShown_injective hshown)
  have hlunch := congrArg shownMeals hline
  rw [walk_lunch, walk_lunch] at hlunch
  simp only [minutesWith, DayMinutes.mk.injEq]
  refine ⟨hvisits, hrides, ?_⟩
  have hhead := congrArg List.head? hlunch
  simp only [apply_ite List.head?, List.head?_cons, List.head?_nil] at hhead
  exact hhead

/-- And nothing but these minutes and the fixed inputs makes a day's report. -/
theorem quality_of_minutes (same : SameInputs plan plan' day day' position)
    (heq : minutesWith cfg plan day position rides = minutesWith cfg plan' day' position rides') :
    qualityWith cfg doubles plan day position rides =
      qualityWith cfg doubles plan' day' position rides' := by
  simp only [minutesWith, DayMinutes.mk.injEq] at heq
  obtain ⟨hvisits, rfl, hlunch⟩ := heq
  have hpieces : piecesOf cfg plan day position rides = piecesOf cfg plan' day' position rides :=
    dayPieces_congr cfg same.names hvisits same.start same.back rides
  have hframe : dayFrame cfg day' position =
      { dayFrame cfg day position with lunchName := lunchName day' } := by
    simp only [dayFrame, DayPlan.indexAt, same.dayIndex]
  have hwalk : walk (dayFrame cfg day' position) (piecesOf cfg plan' day' position rides) =
      walk (dayFrame cfg day position) (piecesOf cfg plan day position rides) := by
    rw [← hpieces] at hlunch ⊢
    cases hdue : lunchDue cfg cfg.startMinute (piecesOf cfg plan day position rides) with
    | false =>
      rw [hframe]
      exact foldl_undue _ rfl hdue _
    | true =>
      rw [hdue] at hlunch
      have hname : lunchName day = lunchName day' := Option.some.inj hlunch
      rw [hframe, ← hname]
      rfl
  rw [qualityWith, qualityWith, hwalk, hframe, same.date]
  rfl

theorem evaluateDay_iff (same : SameInputs plan plan' day day' position)
    (request request' : TripRequest) (routes routes' : List RouteEstimate) :
    evaluateDay cfg doubles request plan routes day position =
        evaluateDay cfg doubles request' plan' routes' day' position ↔
      dayMinutes cfg doubles request plan routes day position =
        dayMinutes cfg doubles request' plan' routes' day' position := by
  rw [evaluateDay_walk, evaluateDay_walk, dayMinutes, dayMinutes]
  cases hr : ridesOf cfg doubles request plan routes day position with
  | error e =>
    cases hr' : ridesOf cfg doubles request' plan' routes' day' position with
    | error e' => simp only [Except.map, Except.error.injEq]
    | ok rides' => exact ⟨nofun, nofun⟩
  | ok rides =>
    cases hr' : ridesOf cfg doubles request' plan' routes' day' position with
    | error e' => exact ⟨nofun, nofun⟩
    | ok rides' =>
      simp only [Except.map, Except.ok.injEq]
      exact ⟨minutes_of_quality cfg doubles same (dayRides_shaped hr) (dayRides_shaped hr'),
        quality_of_minutes cfg doubles same⟩

variable {F D G : Type}

/-- The minutes of all days: what `evaluate` makes of the durations and meals of the plan, of
the routes, and of the places where a leg has no route. -/
def scheduleMinutes (request : TripRequest) (plan : TripPlan)
    (routeEstimates : Option (RouteEstimateResult F D)) : Except String (List DayMinutes) :=
  plan.days.zipIdx.mapM fun d =>
    dayMinutes cfg doubles request plan ((routeEstimates.map (·.routes)).getD []) d.1 d.2

/-- `schedule_input_fingerprint`, over the digests of its two levels. -/
def scheduleInputFingerprint (stable : F → Option (RouteEstimateResult F D) → G)
    (digest : RouteInputs → F) (request : TripRequest) (plan : TripPlan)
    (routeEstimates : Option (RouteEstimateResult F D)) : G :=
  stable (planRouteFingerprint digest request plan) routeEstimates

theorem agent_fingerprint (kit : Agent.Kit F D) (request : TripRequest) (plan : TripPlan)
    (routeEstimates : Option (RouteEstimateResult F D)) :
    Agent.scheduleInputFingerprint kit request plan routeEstimates =
      scheduleInputFingerprint kit.snapshotDigest kit.routeDigest request plan routeEstimates :=
  rfl

theorem zipIdx_forall {α β γ : Type} {f : α → γ} {g : β → γ} {xs : List α} {ys : List β}
    (h : xs.map f = ys.map g) (n : Nat) :
    List.Forall₂ (fun x y => f x.1 = g y.1 ∧ x.2 = y.2) (xs.zipIdx n) (ys.zipIdx n) := by
  induction xs generalizing ys n with
  | nil =>
    rw [List.map_nil] at h
    rw [List.map_eq_nil_iff.mp h.symm]
    exact List.Forall₂.nil
  | cons x xs ih =>
    obtain ⟨y, ys, rfl, hy, hrest⟩ := List.map_eq_cons_iff.mp h.symm
    exact List.Forall₂.cons ⟨hy.symm, rfl⟩ (ih hrest.symm (n + 1))

theorem sameInputs_of_routeInputs {request request' : TripRequest}
    (h : routeInputs request plan = routeInputs request' plan')
    (hday : dayRouteInputs request day = dayRouteInputs request' day') (position : Nat) :
    SameInputs plan plan' day day' position := by
  have hdays : plan.days.map (dayRouteInputs request) = plan'.days.map (dayRouteInputs request') :=
    congrArg RouteInputs.days h
  have hhotels : plan.days.map hotelOf = plan'.days.map hotelOf := by
    have hmap := congrArg (List.map DayRouteInputs.hotel) hdays
    rw [List.map_map, List.map_map] at hmap
    exact hmap
  have hnames := congrArg (fun d => d.attractions.map AttractionPoint.name) hday
  simp only [dayRouteInputs, List.map_map] at hnames
  obtain ⟨hstart, hback⟩ := resolveDayHotels_names hhotels position
  exact ⟨congrArg DayRouteInputs.date hday, congrArg DayRouteInputs.dayIndex hday, hnames, hstart,
    hback⟩

/-- Of two inputs with one fingerprint the reports are the same exactly when the minutes of all
visits and legs and the names of all lunches that are due are the same. -/
theorem same_fingerprint_report_iff {stable : F → Option (RouteEstimateResult F D) → G}
    {digest : RouteInputs → F} (hstable : Function.Injective2 stable)
    (hdigest : Function.Injective digest) {request request' : TripRequest}
    {routes routes' : Option (RouteEstimateResult F D)}
    (h : scheduleInputFingerprint stable digest request plan routes =
      scheduleInputFingerprint stable digest request' plan' routes') :
    evaluate cfg doubles request plan digest routes =
        evaluate cfg doubles request' plan' digest routes' ↔
      scheduleMinutes cfg doubles request plan routes =
        scheduleMinutes cfg doubles request' plan' routes' := by
  obtain ⟨hplan, _⟩ := hstable h
  have hinputs : routeInputs request plan = routeInputs request' plan' := hdigest hplan
  have hreport : report doubles request plan digest = report doubles request' plan' digest := by
    funext days
    simp only [report, hplan]
  have hdays := zipIdx_forall (congrArg RouteInputs.days hinputs) 0
  have hmap : ∀ (r : TripRequest) (p : TripPlan) (re : Option (RouteEstimateResult F D)),
      evaluate cfg doubles r p digest re = (p.days.zipIdx.mapM fun d =>
        evaluateDay cfg doubles r p ((re.map (·.routes)).getD []) d.1 d.2).map
          (report doubles r p digest) := by
    intro r p re
    rw [evaluate]
    cases p.days.zipIdx.mapM fun d =>
        evaluateDay cfg doubles r p ((re.map (·.routes)).getD []) d.1 d.2 with
    | error e => rfl
    | ok days => rfl
  have hinj : Function.Injective (report doubles request' plan' digest) := fun days days' heq =>
    congrArg ScheduleQualityReport.days heq
  rw [hmap, hmap, hreport, map_injective hinj]
  apply mapM_agree
  · intro d _
    rw [evaluateDay_walk, dayMinutes]
    exact fun e => (failAlike_map _ _ e).trans (failAlike_map _ _ e).symm
  · intro d _
    rw [evaluateDay_walk, dayMinutes]
    exact fun e => (failAlike_map _ _ e).trans (failAlike_map _ _ e).symm
  · refine hdays.imp ?_
    rintro ⟨d, i⟩ ⟨d', i'⟩ ⟨hday, rfl⟩
    exact evaluateDay_iff cfg doubles (sameInputs_of_routeInputs hinputs hday i) request request' _ _

end

/-- The pair of a route fingerprint and the routes, for a digest without collisions. -/
def snapshot (f : RouteInputs) (routes : Option (RouteEstimateResult RouteInputs Unit)) :
    RouteInputs × Option (RouteEstimateResult RouteInputs Unit) := (f, routes)

def cityReport (plan : TripPlan) : Except String (ScheduleQualityReport RouteInputs) :=
  evaluate workdayEvaluator plainDoubles cityRequest plan id
    (none : Option (RouteEstimateResult RouteInputs Unit))

/-- A visit of negative length counts as none. -/
theorem no_visit_same_report :
    cityReport (cityPlan [sight "外滩" 0] []) = cityReport (cityPlan [sight "外滩" (-10)] []) :=
  (same_fingerprint_report_iff workdayEvaluator plainDoubles
    (show Function.Injective2 snapshot from fun _ _ _ _ h => Prod.mk.inj h) Function.injective_id
      rfl).mpr (by decide +kernel)

def noodles : Meal := { type := "lunch", name := "小笼馆" }

def lunchNames (r : Except String (ScheduleQualityReport RouteInputs)) : Option (List String) :=
  r.toOption.map fun r => r.days.flatMap fun d => shownMeals d.timeline

def cityMark (plan : TripPlan) : RouteInputs × Option (RouteEstimateResult RouteInputs Unit) :=
  scheduleInputFingerprint snapshot id cityRequest plan none

/-- The content rebuild names the lunch, or an edit lengthens a visit: the fingerprint stays,
and the report would not. -/
theorem lunch_and_visits_uncovered :
    (cityMark (cityPlan [sight "外滩" 240] []) = cityMark (cityPlan [sight "外滩" 240] [noodles]) ∧
      cityReport (cityPlan [sight "外滩" 240] []) ≠ cityReport (cityPlan [sight "外滩" 240] [noodles])) ∧
    cityMark (cityPlan [sight "外滩" 240] []) = cityMark (cityPlan [sight "外滩" 600] []) ∧
      cityReport (cityPlan [sight "外滩" 240] []) ≠ cityReport (cityPlan [sight "外滩" 600] []) := by
  refine ⟨⟨rfl, ?_⟩, rfl, ?_⟩
  · intro h
    exact absurd (congrArg lunchNames h) (by decide +kernel)
  · intro h
    exact absurd (congrArg (fun r => r.toOption.map (·.totalOvertimeMinutes)) h) (by decide +kernel)

end TravelAgent.Scheduling

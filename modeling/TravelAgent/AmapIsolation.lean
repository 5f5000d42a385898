import TravelAgent.AmapSelection

namespace TravelAgent.AmapIsolation

open TravelAgent.AmapNormalizers TravelAgent.AmapSelection TravelAgent.AmapTotality
open TravelAgent.AmapValues
open TravelAgent.Attempts (mapM_each mapM_pairs mapM_total bind_ok bind_of_ok map_ok)
open TravelAgent.CandidatePool (GeoPoint)
open TravelAgent.Itinerary (RouteMode)
open TravelAgent.PyFloats

/-- The entries of a payload that are dictionaries. -/
def dicts (payload : Fields) : List Fields := (entries payload "pois").filterMap asDict

theorem mem_dicts {payload raw : Fields} :
    raw ∈ dicts payload ↔ .dict raw ∈ entries payload "pois" := by
  rw [dicts, List.mem_filterMap]
  constructor
  · rintro ⟨v, hv, hraw⟩
    cases v with
    | dict d =>
      obtain rfl := Option.some.inj hraw
      exact hv
    | _ => cases hraw
  · intro h
    exact ⟨.dict raw, h, rfl⟩

section Collecting

variable {C : Type}

/-- The candidates that the entries give, in their order. -/
def supplied (candidate : Fields → Except Escape (Option C)) (payload : Fields) : List C :=
  (dicts payload).filterMap fun raw => (candidate raw).toOption.join

theorem reduceOption_eq {candidate : Fields → Except Escape (Option C)} {raws : List Fields}
    {os : List (Option C)} (h : List.Forall₂ (fun raw o => candidate raw = .ok o) raws os) :
    os.reduceOption = raws.filterMap fun raw => (candidate raw).toOption.join := by
  induction h with
  | nil => rfl
  | @cons raw o raws os ho hos ih =>
    cases o with
    | none =>
      rw [List.reduceOption_cons_of_none, List.filterMap_cons_none (by rw [ho]; rfl), ih]
    | some c =>
      rw [List.reduceOption_cons_of_some, List.filterMap_cons_some (b := c) (by rw [ho]; rfl), ih]

theorem collect_supplied {candidate : Fields → Except Escape (Option C)} {payload : Fields}
    {cs : List C} (h : collect candidate (entries payload "pois") = .ok cs) :
    cs = supplied candidate payload := by
  obtain ⟨os, hos, rfl⟩ := map_ok h
  exact reduceOption_eq (mapM_pairs hos)

theorem mem_supplied {candidate : Fields → Except Escape (Option C)} {payload : Fields} {c : C}
    (h : c ∈ supplied candidate payload) :
    ∃ raw, .dict raw ∈ entries payload "pois" ∧ candidate raw = .ok (some c) := by
  obtain ⟨raw, hraw, hc⟩ := List.mem_filterMap.mp h
  refine ⟨raw, mem_dicts.mp hraw, ?_⟩
  cases ho : candidate raw with
  | error e =>
    rw [ho] at hc
    cases hc
  | ok o =>
    rw [ho] at hc
    exact congrArg Except.ok hc

end Collecting

section Isolating

variable {floatText : FloatText} {room : ℕ} {C R σ : Type} [LinearOrder σ]
  {place : C → PlaceCandidate} {candidate : Fields → Except Escape (Option C)}
  {tame : Fields → Prop} {good : Fields → Bool}

theorem returns_collect (h : Reads floatText room place candidate tame good) (payload : Fields) :
    Returns (collect candidate (entries payload "pois")) ↔
      ∀ raw, .dict raw ∈ entries payload "pois" → HeadTame room raw ∧ (good raw → tame raw) := by
  rw [collect, returns_map]
  constructor
  · rintro ⟨os, hos⟩ raw hraw
    exact (h.returns raw).mp (mapM_each hos (mem_dicts.mpr hraw))
  · intro htame
    apply mapM_total
    intro raw hraw
    exact (h.returns raw).mpr (htame raw (mem_dicts.mp hraw))

/-- Only the entries that give a candidate matter. -/
theorem supplied_eq (h : Reads floatText room place candidate tame good) {payload : Fields}
    (hreturns : Returns (collect candidate (entries payload "pois"))) :
    supplied candidate payload =
      ((dicts payload).filter good).filterMap fun raw => (candidate raw).toOption.join := by
  rw [List.filterMap_filter, supplied]
  apply List.filterMap_congr
  intro raw hraw
  obtain ⟨o, ho⟩ :=
    (h.returns raw).mpr ((returns_collect h payload).mp hreturns raw (mem_dicts.mp hraw))
  have hgood : o.isSome = good raw := h.good raw o ho
  rw [ho, ← hgood]
  cases o with
  | none => rfl
  | some c => rfl

variable (floatText) in
/-- What a search makes of a payload: each candidate is read from one entry with a name and a
point, the candidates are selected as the search documents it, and entries that give no candidate
change nothing. -/
structure Isolated (place : C → PlaceCandidate) (candidate : Fields → Except Escape (Option C))
    (good : Fields → Bool) (rank : C → σ) (ordered : List C → C → C → Prop) (limit : ℤ)
    (normalize : Fields → Except Escape R) (candidates : R → List C) (payload : Fields) (r : R) :
    Prop where
  source : ∀ c ∈ candidates r, ∃ raw, .dict raw ∈ entries payload "pois" ∧
    candidate raw = .ok (some c) ∧ From floatText raw (place c)
  selected : Selected (identityKey place) rank (ordered (supplied candidate payload))
    (supplied candidate payload) limit (candidates r)
  unmoved : ∀ payload' r', (dicts payload').filter good = (dicts payload).filter good →
    normalize payload' = .ok r' → candidates r' = candidates r

theorem isolated (h : Reads floatText room place candidate tame good) {rank : C → σ}
    {ordered : List C → C → C → Prop} {limit : ℤ} {crop : List C → List C}
    (hcrop : ∀ cs, Selected (identityKey place) rank (ordered cs) cs limit (crop cs))
    {normalize : Fields → Except Escape R} {candidates : R → List C} {make : Fields → List C → R}
    (hnormalize : ∀ payload, normalize payload =
      collect candidate (entries payload "pois") >>= fun cs => pure (make payload cs))
    (hmake : ∀ payload cs, candidates (make payload cs) = crop cs) (payload : Fields) :
    (∃ r, normalize payload = .ok r ∧ Isolated floatText place candidate good rank ordered limit
      normalize candidates payload r) ↔
      ∀ raw, .dict raw ∈ entries payload "pois" → HeadTame room raw ∧ (good raw → tame raw) := by
  have hok : ∀ {payload r}, normalize payload = .ok r →
      Returns (collect candidate (entries payload "pois")) ∧
        candidates r = crop (supplied candidate payload) := by
    intro payload r hr
    rw [hnormalize] at hr
    obtain ⟨cs, hcs, hr⟩ := bind_ok hr
    rw [← Except.ok.inj hr, hmake, collect_supplied hcs]
    exact ⟨⟨cs, hcs⟩, rfl⟩
  rw [← returns_collect h]
  constructor
  · rintro ⟨r, hr, -⟩
    exact (hok hr).1
  · rintro ⟨cs, hcs⟩
    have hr : normalize payload = .ok (make payload cs) := by
      rw [hnormalize, bind_of_ok hcs]
      rfl
    obtain ⟨hreturns, hcandidates⟩ := hok hr
    refine ⟨make payload cs, hr, ?_, ?_, ?_⟩
    · intro c hc
      rw [hcandidates] at hc
      obtain ⟨raw, hraw, hread⟩ := mem_supplied ((hcrop _).best c hc).mem
      exact ⟨raw, hraw, hread, h.source raw c hread⟩
    · rw [hcandidates]
      exact hcrop _
    · intro payload' r' hsame hr'
      obtain ⟨hreturns', hcandidates'⟩ := hok hr'
      rw [hcandidates, hcandidates', supplied_eq h hreturns, supplied_eq h hreturns', hsame]

end Isolating

section Routes

/-- A number of metres or seconds that is read, or passed over. -/
def Countable (v : Value) : Prop := fits v ∧ endless v = false

theorem returns_normalizeRoute (payload : Fields) (leg : Agent.RouteLegRequest) (mode : RouteMode) :
    Returns (normalizeRoute payload leg mode) ↔ ∀ route, firstRoute payload mode = some route →
      Countable (get route "distance") ∧ Countable (durationValue route) := by
  rw [normalizeRoute]
  cases h : firstRoute payload mode with
  | none =>
    apply iff_of_true ⟨_, rfl⟩
    intro route hroute
    cases hroute
  | some route =>
    refine (returns_bind (returns_nonnegativeInt _) fun distance _ =>
      returns_bind (q := True) (returns_nonnegativeInt _) fun duration _ => ?_).trans ?_
    · cases distance with
      | none => exact returns_pure _
      | some distance =>
        cases duration with
        | none => exact returns_pure _
        | some duration => exact returns_pure _
    · rw [and_true]
      constructor
      · rintro hcountable route' hroute
        rwa [← Option.some.inj hroute]
      · intro hcountable
        exact hcountable route rfl

end Routes

/-- The maps' normalisers return, and keep the entries of a payload apart, exactly if no field that
is read nests deeper than the recursion limit allows, holds an integer that has no double, an
endless distance or duration, or a name or an address that cannot be encoded. -/
theorem normalizers_isolate (floatText : FloatText) (room : ℕ) :
    (∀ city keywords types limit center radiusMeters payload,
      (∃ r, normalizePois floatText room payload city keywords types limit center radiusMeters =
          .ok r ∧
        Isolated floatText PoiCandidate.toPlaceCandidate (poiCandidate floatText room)
          (placed floatText) (score PoiCandidate.toPlaceCandidate)
          (RatedFirst PoiCandidate.toPlaceCandidate) limit
          (fun p => normalizePois floatText room p city keywords types limit center radiusMeters)
          PoiSearchResult.candidates payload r) ↔
        ∀ raw, .dict raw ∈ entries payload "pois" →
          HeadTame room raw ∧ (placed floatText raw → PoiTame floatText room raw)) ∧
    (∀ city keywords limit payload,
      (∃ r, normalizeAttractions floatText room payload city keywords limit = .ok r ∧
        Isolated floatText AttractionCandidate.toPlaceCandidate
          (attractionCandidate floatText room) (addressed floatText)
          (score AttractionCandidate.toPlaceCandidate)
          (RatedFirst AttractionCandidate.toPlaceCandidate) limit
          (fun p => normalizeAttractions floatText room p city keywords limit)
          AttractionSearchResult.candidates payload r) ↔
        ∀ raw, .dict raw ∈ entries payload "pois" →
          HeadTame room raw ∧ (addressed floatText raw → AttractionTame floatText room raw)) ∧
    (∀ city keywords limit payload,
      (∃ r, normalizeHotels floatText room payload city keywords limit = .ok r ∧
        Isolated floatText HotelCandidate.toPlaceCandidate (hotelCandidate floatText room)
          (addressed floatText) (score HotelCandidate.toPlaceCandidate)
          (RatedFirst HotelCandidate.toPlaceCandidate) limit
          (fun p => normalizeHotels floatText room p city keywords limit)
          HotelSearchResult.candidates payload r) ↔
        ∀ raw, .dict raw ∈ entries payload "pois" →
          HeadTame room raw ∧ (addressed floatText raw → HotelTame floatText room raw)) ∧
    (∀ city keywords center radiusMeters pageSize payload,
      (∃ r, normalizeRestaurantSnapshot floatText room payload city keywords center radiusMeters
          pageSize = .ok r ∧
        Isolated floatText PoiCandidate.toPlaceCandidate (poiCandidate floatText room)
          (placed floatText) nearness (fun _ a b => nearBefore a b = true) pageSize
          (fun p => normalizeRestaurantSnapshot floatText room p city keywords center radiusMeters
            pageSize)
          RestaurantSearchSnapshot.candidates payload r) ↔
        ∀ raw, .dict raw ∈ entries payload "pois" →
          HeadTame room raw ∧ (placed floatText raw → PoiTame floatText room raw)) ∧
    ∀ payload leg mode, Returns (normalizeRoute payload leg mode) ↔
      ∀ route, firstRoute payload mode = some route →
        Countable (get route "distance") ∧ Countable (durationValue route) := by
  refine ⟨?_, ?_, ?_, ?_, returns_normalizeRoute⟩
  · intro city keywords types limit center radiusMeters
    exact isolated poi_reads (fun cs => dedupeSortCrop_selected _ cs limit) (fun _ => rfl)
      fun _ _ => rfl
  · intro city keywords limit
    exact isolated attraction_reads (fun cs => dedupeSortCrop_selected _ cs limit) (fun _ => rfl)
      fun _ _ => rfl
  · intro city keywords limit
    exact isolated hotel_reads (fun cs => dedupeSortCrop_selected _ cs limit) (fun _ => rfl)
      fun _ _ => rfl
  · intro city keywords center radiusMeters pageSize
    exact isolated poi_reads (fun cs => snapshot_selected cs pageSize) (fun _ => rfl) fun _ _ => rfl

/-- A good entry, then one whose distance is `Infinity`. -/
def endlessPayload : Fields :=
  [(code "pois", .list
    [.dict [(code "name", .str (code "Park")),
        (code "location", .list [.float (.finite 120), .float (.finite 30)])],
      .dict [(code "name", .str (code "Lake")),
        (code "location", .list [.float (.finite 120), .float (.finite 30)]),
        (code "distance", .float (.infinite false))]])]

/-- One endless distance loses the whole search. -/
theorem endless_distance_escapes :
    ¬Returns (normalizePois (fun _ => []) 300 endlessPayload (code "Hangzhou") (code "park") [] 10
      none none) := by
  have hraises : normalizePois (fun _ => []) 300 endlessPayload (code "Hangzhou") (code "park") []
      10 none none = .error .overflowError := by
    rfl
  rw [hraises]
  exact not_returns

end TravelAgent.AmapIsolation

import TravelAgent.AmapNormalizers
import TravelAgent.Attempts

namespace TravelAgent.AmapTotality

open TravelAgent.AmapNormalizers TravelAgent.AmapValues
open TravelAgent.Attempts (bind_ok bind_of_ok map_ok mapM_each mapM_total)
open TravelAgent.CandidatePool (GeoPoint)
open TravelAgent.Itinerary (Double RouteMode)
open TravelAgent.PyFloats

mutual

/-- How far lists stand in lists. -/
def depth : Value → ℕ
  | .list items => depths items + 1
  | _ => 0

def depths : List Value → ℕ
  | [] => 0
  | v :: vs => max (depth v) (depths vs)

end

mutual

/-- What `text` reads without a recursion limit. -/
def plain (floatText : FloatText) : Value → Str
  | .str s => Texts.trim space (collapse false s)
  | .int n => code (toString n)
  | .float x => floatText x
  | .list items => joinParts ((plains floatText items).filter fun part => part ≠ [])
  | _ => []

def plains (floatText : FloatText) : List Value → List Str
  | [] => []
  | v :: vs => plain floatText v :: plains floatText vs

end

variable (floatText : FloatText) (room : ℕ)

mutual

theorem text_eq : ∀ (room : ℕ) (v : Value), text floatText room v =
    if depth v ≤ room then .ok (plain floatText v) else .error .recursionError
  | room, .str s => by simp [text, depth, plain]
  | room, .int n => by simp [text, depth, plain]
  | room, .float x => by simp [text, depth, plain]
  | room, .null => by simp [text, depth, plain]
  | room, .bool b => by simp [text, depth, plain]
  | room, .dict d => by simp [text, depth, plain]
  | 0, .list items => by simp [text, depth]
  | room + 1, .list items => by
    rw [text, texts_eq room items, depth, plain]
    by_cases h : depths items ≤ room
    · rw [if_pos h, if_pos (Nat.succ_le_succ h)]
      rfl
    · rw [if_neg h, if_neg fun hs => h (Nat.le_of_succ_le_succ hs)]
      rfl

theorem texts_eq : ∀ (room : ℕ) (vs : List Value), texts floatText room vs =
    if depths vs ≤ room then .ok (plains floatText vs) else .error .recursionError
  | room, [] => by simp [texts, depths, plains]
  | room, v :: vs => by
    rw [texts, text_eq room v, texts_eq room vs, depths, plains]
    by_cases hv : depth v ≤ room
    · by_cases hvs : depths vs ≤ room
      · rw [if_pos hv, if_pos hvs, if_pos (max_le hv hvs)]
        rfl
      · rw [if_pos hv, if_neg hvs, if_neg fun h => hvs ((le_max_right _ _).trans h)]
        rfl
    · rw [if_neg hv, if_neg fun h => hv ((le_max_left _ _).trans h)]
      rfl

end

/-- An integer that has a double, or no integer at all. -/
def fits : Value → Bool
  | .int n => decide (n.natAbs < doubleBound)
  | _ => true

/-- The number in a value that fits. -/
def read : Value → Option Double
  | .int n => some (.finite (ofInt n))
  | .float x => some x
  | .str s => ofText s
  | _ => none

def endless (v : Value) : Bool :=
  match read v with
  | some (.infinite negative) => !negative
  | _ => false

def point (v : Value) : Option GeoPoint :=
  geoPoint (read (coordinates v).1) (read (coordinates v).2)

theorem number_eq (v : Value) :
    number v = if fits v then .ok (read v) else .error .overflowError := by
  cases v with
  | int n =>
    by_cases h : doubleBound ≤ n.natAbs
    · simp [number, fits, h]
    · simp [number, fits, read, h, Nat.lt_of_not_le h]
  | _ => rfl

section Returning

variable {α β : Type}

/-- Nothing escapes. -/
def Returns (x : Except Escape α) : Prop := ∃ a, x = .ok a

theorem returns_pure (a : α) : Returns (pure a : Except Escape α) ↔ True :=
  iff_true_intro ⟨a, rfl⟩

theorem returns_bind {x : Except Escape α} {f : α → Except Escape β} {p q : Prop}
    (hx : Returns x ↔ p) (hf : ∀ a, x = .ok a → (Returns (f a) ↔ q)) :
    Returns (x >>= f) ↔ p ∧ q := by
  rw [← hx]
  constructor
  · rintro ⟨b, h⟩
    obtain ⟨a, ha, hb⟩ := bind_ok h
    exact ⟨⟨a, ha⟩, (hf a ha).mp ⟨b, hb⟩⟩
  · rintro ⟨⟨a, ha⟩, hq⟩
    rw [bind_of_ok ha]
    exact (hf a ha).mpr hq

theorem not_returns {e : Escape} : ¬Returns (.error e : Except Escape α) := by
  rintro ⟨a, h⟩
  cases h

theorem returns_map {x : Except Escape α} {f : α → β} : Returns (x.map f) ↔ Returns x := by
  cases x with
  | error e => exact iff_of_false not_returns not_returns
  | ok a => exact iff_of_true ⟨f a, rfl⟩ ⟨a, rfl⟩

theorem returns_ite {p : Prop} [Decidable p] {a : α} {e : Escape} :
    Returns (if p then .ok a else .error e) ↔ p := by
  by_cases h : p
  · rw [if_pos h]
    exact iff_of_true ⟨a, rfl⟩ h
  · rw [if_neg h]
    exact iff_of_false not_returns h

end Returning

theorem returns_text (v : Value) : Returns (text floatText room v) ↔ depth v ≤ room := by
  rw [text_eq]
  exact returns_ite

variable {floatText room} in
theorem text_ok {v : Value} {s : Str} (h : text floatText room v = .ok s) :
    s = plain floatText v := by
  have hroom : depth v ≤ room := (returns_text floatText room v).mp ⟨s, h⟩
  rw [text_eq, if_pos hroom] at h
  exact (Except.ok.inj h).symm

theorem returns_number (v : Value) : Returns (number v) ↔ fits v := by
  rw [number_eq]
  exact returns_ite

theorem returns_rating (v : Value) : Returns (rating v) ↔ fits v := by
  rw [rating, returns_map, returns_number]

theorem returns_nonnegativeNumber (v : Value) : Returns (nonnegativeNumber v) ↔ fits v := by
  rw [nonnegativeNumber, returns_map, returns_number]

theorem returns_nonnegativeInt (v : Value) :
    Returns (nonnegativeInt v) ↔ fits v ∧ endless v = false := by
  apply returns_bind (returns_nonnegativeNumber v)
  intro x hx
  have hfits : fits v := (returns_nonnegativeNumber v).mp ⟨x, hx⟩
  rw [nonnegativeNumber, number_eq, if_pos hfits] at hx
  obtain rfl := Except.ok.inj hx
  rw [endless]
  cases h : read v with
  | none => exact iff_of_true ⟨none, rfl⟩ rfl
  | some x =>
    cases x with
    | nan => exact iff_of_true ⟨none, rfl⟩ rfl
    | infinite negative =>
      cases negative with
      | false => exact iff_of_false not_returns Bool.noConfusion
      | true => exact iff_of_true ⟨none, rfl⟩ rfl
    | finite q =>
      refine iff_of_true ?_ rfl
      by_cases hq : Double.nonneg (.finite q) = true
      · exact ⟨some (roundEven q).toNat, by simp [hq]⟩
      · exact ⟨none, by simp [hq]⟩

theorem returns_location (v : Value) :
    Returns (location v) ↔ fits (coordinates v).1 ∧ fits (coordinates v).2 := by
  apply returns_bind (returns_number _)
  intro longitude _
  rw [returns_map, returns_number]

theorem location_ok {v : Value} {p : Option GeoPoint} (h : location v = .ok p) : p = point v := by
  obtain ⟨hlongitude, hlatitude⟩ := (returns_location v).mp ⟨p, h⟩
  rw [location, number_eq, number_eq, if_pos hlongitude, if_pos hlatitude] at h
  exact (Except.ok.inj h).symm

section Entries

def nameOf (raw : Fields) : Str := plain floatText (get raw "name")

def addressOf (raw : Fields) : Str := plain floatText (get raw "address")

/-- The address that a place is shown with. -/
def shownOf (raw : Fields) : Str :=
  shownAddress (addressOf floatText raw) (plain floatText (get raw "adname"))

def pointOf (raw : Fields) : Option GeoPoint := point (get raw "location")

def hoursValue (raw : Fields) : Value :=
  firstOf (businessExtension raw) ["opentime_today", "opentime_week", "opentime"]
    (firstOf raw ["opentime"] (.str []))

def ratingValue (raw : Fields) : Value :=
  firstOf (businessExtension raw) ["rating"] (get raw "rating")

def costValue (raw : Fields) : Value :=
  firstOf (businessExtension raw) ["cost"] (firstOf raw ["cost"] (get raw "price"))

/-- An entry with a name and a point. -/
def placed (raw : Fields) : Bool := nameOf floatText raw != [] && (pointOf raw).isSome

/-- An entry with an address besides. -/
def addressed (raw : Fields) : Bool := placed floatText raw && addressOf floatText raw != []

/-- The fields that are read of every entry. -/
structure HeadTame (raw : Fields) : Prop where
  name : depth (get raw "name") ≤ room
  address : depth (get raw "address") ≤ room
  longitude : fits (coordinates (get raw "location")).1
  latitude : fits (coordinates (get raw "location")).2

/-- The fields of every kind of place; the address is the one that is shown. -/
structure PlaceTame (raw : Fields) (keys : List String) (address : Str) : Prop where
  texts : ∀ key ∈ keys, depth (get raw key) ≤ room
  rating : fits (ratingValue raw)
  nameEncodable : encodable (nameOf floatText raw)
  addressEncodable : encodable address

def placeKeys : List String := ["id", "adname", "citycode", "adcode", "tel", "type"]

structure PoiTame (raw : Fields) : Prop
    extends PlaceTame floatText room raw ("typecode" :: placeKeys) (shownOf floatText raw) where
  hours : depth (hoursValue raw) ≤ room
  cost : fits (costValue raw)
  distance : fits (get raw "distance")
  ends : endless (get raw "distance") = false

structure AttractionTame (raw : Fields) : Prop
    extends PlaceTame floatText room raw placeKeys (addressOf floatText raw) where
  hours : depth (hoursValue raw) ≤ room

structure HotelTame (raw : Fields) : Prop
    extends PlaceTame floatText room raw placeKeys (addressOf floatText raw) where
  cost : fits (costValue raw)

variable {floatText room}

theorem returns_readHead (raw : Fields) :
    Returns (readHead floatText room raw) ↔ HeadTame room raw := by
  refine (returns_bind (returns_text _ _ _) fun _ _ => returns_bind (returns_text _ _ _) fun _ _ =>
    returns_bind (returns_location _) fun _ _ => returns_pure _).trans ?_
  constructor
  · rintro ⟨hname, haddress, ⟨hlongitude, hlatitude⟩, -⟩
    exact ⟨hname, haddress, hlongitude, hlatitude⟩
  · intro h
    exact ⟨h.name, h.address, ⟨h.longitude, h.latitude⟩, trivial⟩

theorem readHead_ok {raw : Fields} {head : Str × Str × Option GeoPoint}
    (h : readHead floatText room raw = .ok head) :
    head = (nameOf floatText raw, addressOf floatText raw, pointOf raw) := by
  obtain ⟨name, hname, h⟩ := bind_ok h
  obtain ⟨address, haddress, h⟩ := bind_ok h
  obtain ⟨location, hlocation, h⟩ := bind_ok h
  rw [← Except.ok.inj h, text_ok hname, text_ok haddress, location_ok hlocation]
  rfl

theorem returns_checkEncodable {name address shown : Str} (h : address = shown) :
    Returns (checkEncodable name address) ↔ encodable name ∧ encodable shown := by
  rw [← h, checkEncodable, returns_ite, Bool.and_eq_true]

theorem returns_standIn {raw : Fields} {address : Str} :
    Returns (standIn floatText room raw address) ↔
      (address = [] → depth (get raw "adname") ≤ room) := by
  by_cases h : address = []
  · rw [standIn, if_neg (not_not.mpr h), returns_text]
    exact ⟨fun hroom _ => hroom, fun hroom => hroom h⟩
  · rw [standIn, if_pos h]
    exact iff_of_true ⟨[], rfl⟩ fun hnil => absurd hnil h

theorem shown_eq {raw : Fields} {address adname : Str}
    (h : standIn floatText room raw address = .ok adname) :
    shownAddress address adname = shownAddress address (plain floatText (get raw "adname")) := by
  by_cases hnil : address = []
  · rw [standIn, if_neg (not_not.mpr hnil)] at h
    rw [text_ok h]
  · rw [shownAddress, shownAddress, if_pos hnil, if_pos hnil]

theorem returns_namedPoi (raw : Fields) (hname : nameOf floatText raw ≠ []) (location : GeoPoint) :
    Returns (namedPoi floatText room raw (nameOf floatText raw) (addressOf floatText raw) hname
      location) ↔ PoiTame floatText room raw := by
  refine (returns_bind (returns_text _ _ _) fun _ _ =>
    returns_bind returns_standIn fun _ hadname =>
    returns_bind (returns_text _ _ _) fun _ _ => returns_bind (returns_text _ _ _) fun _ _ =>
    returns_bind (returns_text _ _ _) fun _ _ => returns_bind (returns_rating _) fun _ _ =>
    returns_bind (returns_text _ _ _) fun _ _ => returns_bind (returns_text _ _ _) fun _ _ =>
    returns_bind (returns_text _ _ _) fun _ _ => returns_bind (returns_text _ _ _) fun _ _ =>
    returns_bind (returns_nonnegativeNumber _) fun _ _ =>
    returns_bind (returns_nonnegativeInt _) fun _ _ =>
    returns_bind (returns_checkEncodable (shown_eq hadname)) fun _ _ => returns_pure _).trans ?_
  constructor
  · rintro ⟨hid, -, hdistrict, hcity, hadcode, hrating, htel, htype, htypecode, hhours, hcost,
      ⟨hfits, hends⟩, ⟨hn, ha⟩, -⟩
    have htexts : ∀ key ∈ "typecode" :: placeKeys, depth (get raw key) ≤ room := by
      simp only [placeKeys, List.forall_mem_cons]
      exact ⟨htypecode, hid, hdistrict, hcity, hadcode, htel, htype, fun _ h => by cases h⟩
    exact ⟨⟨htexts, hrating, hn, ha⟩, hhours, hcost, hfits, hends⟩
  · intro h
    have htexts := h.texts
    simp only [placeKeys, List.forall_mem_cons] at htexts
    obtain ⟨htypecode, hid, hdistrict, hcity, hadcode, htel, htype, -⟩ := htexts
    exact ⟨hid, fun _ => hdistrict, hdistrict, hcity, hadcode, h.rating, htel, htype, htypecode,
      h.hours, h.cost, ⟨h.distance, h.ends⟩, ⟨h.nameEncodable, h.addressEncodable⟩, trivial⟩

theorem returns_namedAttraction (raw : Fields) (hname : nameOf floatText raw ≠ [])
    (haddress : addressOf floatText raw ≠ []) (location : GeoPoint) :
    Returns (namedAttraction floatText room raw (nameOf floatText raw) (addressOf floatText raw)
      hname haddress location) ↔ AttractionTame floatText room raw := by
  refine (returns_bind (returns_text _ _ _) fun _ _ => returns_bind (returns_text _ _ _) fun _ _ =>
    returns_bind (returns_text _ _ _) fun _ _ => returns_bind (returns_text _ _ _) fun _ _ =>
    returns_bind (returns_text _ _ _) fun _ _ => returns_bind (returns_text _ _ _) fun _ _ =>
    returns_bind (returns_rating _) fun _ _ => returns_bind (returns_text _ _ _) fun _ _ =>
    returns_bind (returns_checkEncodable rfl) fun _ _ => returns_pure _).trans ?_
  constructor
  · rintro ⟨hid, htype, hhours, hdistrict, hcity, hadcode, hrating, htel, ⟨hn, ha⟩, -⟩
    have htexts : ∀ key ∈ placeKeys, depth (get raw key) ≤ room := by
      simp only [placeKeys, List.forall_mem_cons]
      exact ⟨hid, hdistrict, hcity, hadcode, htel, htype, fun _ h => by cases h⟩
    exact ⟨⟨htexts, hrating, hn, ha⟩, hhours⟩
  · intro h
    have htexts := h.texts
    simp only [placeKeys, List.forall_mem_cons] at htexts
    obtain ⟨hid, hdistrict, hcity, hadcode, htel, htype, -⟩ := htexts
    exact ⟨hid, htype, h.hours, hdistrict, hcity, hadcode, h.rating, htel,
      ⟨h.nameEncodable, h.addressEncodable⟩, trivial⟩

theorem returns_namedHotel (raw : Fields) (hname : nameOf floatText raw ≠ [])
    (haddress : addressOf floatText raw ≠ []) (location : GeoPoint) :
    Returns (namedHotel floatText room raw (nameOf floatText raw) (addressOf floatText raw)
      hname haddress location) ↔ HotelTame floatText room raw := by
  refine (returns_bind (returns_text _ _ _) fun _ _ => returns_bind (returns_text _ _ _) fun _ _ =>
    returns_bind (returns_text _ _ _) fun _ _ => returns_bind (returns_text _ _ _) fun _ _ =>
    returns_bind (returns_text _ _ _) fun _ _ => returns_bind (returns_rating _) fun _ _ =>
    returns_bind (returns_text _ _ _) fun _ _ =>
    returns_bind (returns_nonnegativeNumber _) fun _ _ =>
    returns_bind (returns_checkEncodable rfl) fun _ _ => returns_pure _).trans ?_
  constructor
  · rintro ⟨hid, htype, hdistrict, hcity, hadcode, hrating, htel, hcost, ⟨hn, ha⟩, -⟩
    have htexts : ∀ key ∈ placeKeys, depth (get raw key) ≤ room := by
      simp only [placeKeys, List.forall_mem_cons]
      exact ⟨hid, hdistrict, hcity, hadcode, htel, htype, fun _ h => by cases h⟩
    exact ⟨⟨htexts, hrating, hn, ha⟩, hcost⟩
  · intro h
    have htexts := h.texts
    simp only [placeKeys, List.forall_mem_cons] at htexts
    obtain ⟨hid, hdistrict, hcity, hadcode, htel, htype, -⟩ := htexts
    exact ⟨hid, htype, hdistrict, hcity, hadcode, h.rating, htel, h.cost,
      ⟨h.nameEncodable, h.addressEncodable⟩, trivial⟩

variable (floatText) in
/-- A candidate has the name and the point of its entry. -/
def From (raw : Fields) (c : PlaceCandidate) : Prop :=
  c.name = nameOf floatText raw ∧ pointOf raw = some c.location

section Lasting

variable {α β : Type} {P : β → Prop}

/-- What holds of everything that may come back. -/
def Gives (x : Except Escape β) (P : β → Prop) : Prop := ∀ b, x = .ok b → P b

theorem gives_bind {x : Except Escape α} {f : α → Except Escape β} (h : ∀ a, Gives (f a) P) :
    Gives (x >>= f) P := by
  intro b hb
  obtain ⟨a, -, hb⟩ := bind_ok hb
  exact h a b hb

theorem gives_pure {b : β} (h : P b) : Gives (pure b) P := by
  intro b' hb
  cases hb
  exact h

end Lasting

variable (floatText room) in
/-- What an entry must meet to be read, and which entries give a candidate. -/
structure Reads {C : Type} (place : C → PlaceCandidate)
    (candidate : Fields → Except Escape (Option C)) (tame : Fields → Prop) (good : Fields → Bool) :
    Prop where
  returns : ∀ raw, Returns (candidate raw) ↔ HeadTame room raw ∧ (good raw → tame raw)
  good : ∀ raw, Gives (candidate raw) fun o => o.isSome = good raw
  source : ∀ raw c, candidate raw = .ok (some c) → From floatText raw (place c)

theorem namedPoi_gives (raw : Fields) {name address : Str} (hname : name ≠ [])
    (location : GeoPoint) : Gives (namedPoi floatText room raw name address hname location)
      fun c => c.name = name ∧ c.location = location := by
  rw [namedPoi]
  iterate 13
    apply gives_bind
    intro _
  exact gives_pure ⟨rfl, rfl⟩

theorem namedAttraction_gives (raw : Fields) {name address : Str} (hname : name ≠ [])
    (haddress : address ≠ []) (location : GeoPoint) :
    Gives (namedAttraction floatText room raw name address hname haddress location)
      fun c => c.name = name ∧ c.location = location := by
  rw [namedAttraction]
  iterate 9
    apply gives_bind
    intro _
  exact gives_pure ⟨rfl, rfl⟩

theorem namedHotel_gives (raw : Fields) {name address : Str} (hname : name ≠ [])
    (haddress : address ≠ []) (location : GeoPoint) :
    Gives (namedHotel floatText room raw name address hname haddress location)
      fun c => c.name = name ∧ c.location = location := by
  rw [namedHotel]
  iterate 9
    apply gives_bind
    intro _
  exact gives_pure ⟨rfl, rfl⟩

/-- The entries without a candidate are passed over, the others are read field by field. -/
theorem Reads.of {C : Type} {place : C → PlaceCandidate}
    {rest : Fields → Str × Str × Option GeoPoint → Except Escape (Option C)}
    {tame : Fields → Prop} {good : Fields → Bool}
    (hskip : ∀ raw, good raw = false →
      rest raw (nameOf floatText raw, addressOf floatText raw, pointOf raw) = .ok none)
    (hnamed : ∀ raw, good raw → ∃ x : Except Escape C,
      rest raw (nameOf floatText raw, addressOf floatText raw, pointOf raw) = x.map some ∧
        (Returns x ↔ tame raw) ∧ Gives x fun c => From floatText raw (place c)) :
    Reads floatText room place (fun raw => readHead floatText room raw >>= rest raw) tame good where
  returns raw := by
    refine returns_bind (returns_readHead raw) fun head hhead => ?_
    obtain rfl := readHead_ok hhead
    cases hgood : good raw with
    | false =>
      rw [hskip raw hgood]
      exact iff_of_true ⟨none, rfl⟩ Bool.noConfusion
    | true =>
      obtain ⟨x, hx, hreturns, -⟩ := hnamed raw hgood
      rw [hx, returns_map, hreturns]
      exact ⟨fun h _ => h, fun h => h rfl⟩
  good raw o ho := by
    obtain ⟨head, hhead, ho⟩ := bind_ok ho
    obtain rfl := readHead_ok hhead
    cases hgood : good raw with
    | false =>
      rw [hskip raw hgood] at ho
      rw [← Except.ok.inj ho, Option.isSome_none]
    | true =>
      obtain ⟨x, hx, -, -⟩ := hnamed raw hgood
      rw [hx] at ho
      obtain ⟨c, -, rfl⟩ := map_ok ho
      rfl
  source raw c hc := by
    obtain ⟨head, hhead, hc⟩ := bind_ok hc
    obtain rfl := readHead_ok hhead
    cases hgood : good raw with
    | false =>
      rw [hskip raw hgood] at hc
      cases hc
    | true =>
      obtain ⟨x, hx, -, hgives⟩ := hnamed raw hgood
      rw [hx] at hc
      obtain ⟨c', hc', hsome⟩ := map_ok hc
      rw [← Option.some.inj hsome]
      exact hgives c' hc'

theorem placed_iff (raw : Fields) :
    placed floatText raw ↔ nameOf floatText raw ≠ [] ∧ ∃ p, pointOf raw = some p := by
  rw [placed, Bool.and_eq_true, bne_iff_ne, Option.isSome_iff_exists]

theorem poi_reads : Reads floatText room PoiCandidate.toPlaceCandidate
    (poiCandidate floatText room) (PoiTame floatText room) (placed floatText) := by
  apply Reads.of
  · intro raw h
    cases hp : pointOf raw with
    | none => rfl
    | some location =>
      apply dif_neg
      intro hname
      rw [(placed_iff raw).mpr ⟨hname, location, hp⟩] at h
      cases h
  · intro raw h
    obtain ⟨hname, location, hp⟩ := (placed_iff raw).mp h
    refine ⟨namedPoi floatText room raw (nameOf floatText raw) (addressOf floatText raw) hname
      location, ?_, returns_namedPoi raw hname location, ?_⟩
    · rw [hp]
      exact dif_pos hname
    · intro c hc
      obtain ⟨hcname, hclocation⟩ := namedPoi_gives raw hname location c hc
      exact ⟨hcname, by rw [hp, hclocation]⟩

theorem addressed_iff (raw : Fields) : addressed floatText raw ↔
    nameOf floatText raw ≠ [] ∧ addressOf floatText raw ≠ [] ∧ ∃ p, pointOf raw = some p := by
  rw [addressed, placed, Bool.and_eq_true, Bool.and_eq_true, bne_iff_ne, bne_iff_ne,
    Option.isSome_iff_exists, and_assoc, and_comm (b := _ ≠ _)]

theorem not_named_of_not_addressed {raw : Fields} {p : GeoPoint} (hp : pointOf raw = some p)
    (h : addressed floatText raw = false) :
    ¬(nameOf floatText raw ≠ [] ∧ addressOf floatText raw ≠ []) := by
  rintro ⟨hname, haddress⟩
  rw [(addressed_iff raw).mpr ⟨hname, haddress, p, hp⟩] at h
  cases h

theorem attraction_reads : Reads floatText room AttractionCandidate.toPlaceCandidate
    (attractionCandidate floatText room) (AttractionTame floatText room) (addressed floatText) := by
  apply Reads.of
  · intro raw h
    cases hp : pointOf raw with
    | none => rfl
    | some location => exact dif_neg (not_named_of_not_addressed hp h)
  · intro raw h
    obtain ⟨hname, haddress, location, hp⟩ := (addressed_iff raw).mp h
    refine ⟨namedAttraction floatText room raw (nameOf floatText raw) (addressOf floatText raw)
      hname haddress location, ?_, returns_namedAttraction raw hname haddress location, ?_⟩
    · rw [hp]
      exact dif_pos ⟨hname, haddress⟩
    · intro c hc
      obtain ⟨hcname, hclocation⟩ := namedAttraction_gives raw hname haddress location c hc
      exact ⟨hcname, by rw [hp, hclocation]⟩

theorem hotel_reads : Reads floatText room HotelCandidate.toPlaceCandidate
    (hotelCandidate floatText room) (HotelTame floatText room) (addressed floatText) := by
  apply Reads.of
  · intro raw h
    cases hp : pointOf raw with
    | none => rfl
    | some location => exact dif_neg (not_named_of_not_addressed hp h)
  · intro raw h
    obtain ⟨hname, haddress, location, hp⟩ := (addressed_iff raw).mp h
    refine ⟨namedHotel floatText room raw (nameOf floatText raw) (addressOf floatText raw) hname
      haddress location, ?_, returns_namedHotel raw hname haddress location, ?_⟩
    · rw [hp]
      exact dif_pos ⟨hname, haddress⟩
    · intro c hc
      obtain ⟨hcname, hclocation⟩ := namedHotel_gives raw hname haddress location c hc
      exact ⟨hcname, by rw [hp, hclocation]⟩

end Entries

end TravelAgent.AmapTotality

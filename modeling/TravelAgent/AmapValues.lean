import TravelAgent.CandidatePool
import TravelAgent.PyFloats

namespace TravelAgent.AmapValues

open TravelAgent.CandidatePool (GeoPoint)
open TravelAgent.Itinerary (Double)
open TravelAgent.PyFloats
open TravelAgent.Texts (trim lowerChar)

/-- What the JSON parser makes of a payload. -/
inductive Value
  | null
  | bool (b : Bool)
  | int (n : ℤ)
  | float (x : Double)
  | str (s : Str)
  | list (items : List Value)
  | dict (fields : List (Str × Value))

abbrev Fields := List (Str × Value)

/-- What may escape from a normaliser. -/
inductive Escape
  | recursionError | overflowError | validationError
deriving DecidableEq, Repr

/-- The value under the first of these keys that a dictionary has. -/
def firstOf (d : Fields) (keys : List String) (default : Value) : Value :=
  (keys.findSome? fun k => (d.find? fun f => f.1 = code k).map Prod.snd).getD default

def get (d : Fields) (key : String) : Value := firstOf d [key] .null

/-- Each run of white space as one blank. -/
def collapse : Bool → Str → Str
  | _, [] => []
  | inRun, c :: cs =>
    if space c then (if inRun then collapse true cs else 32 :: collapse true cs)
    else c :: collapse false cs

def joinParts : List Str → Str
  | [] => []
  | [part] => part
  | part :: parts => part ++ 44 :: joinParts parts

/-- How Python prints a double. -/
abbrev FloatText := Double → Str

mutual

/-- `_text`, which may follow lists `room` deep until the recursion limit. -/
def text (floatText : FloatText) (room : ℕ) : Value → Except Escape Str
  | .str s => .ok (trim space (collapse false s))
  | .int n => .ok (code (toString n))
  | .float x => .ok (floatText x)
  | .list items =>
    match room with
    | 0 => .error .recursionError
    | room + 1 =>
      (texts floatText room items).map fun parts => joinParts (parts.filter fun part => part ≠ [])
  | .null => .ok []
  | .bool _ => .ok []
  | .dict _ => .ok []

def texts (floatText : FloatText) (room : ℕ) : List Value → Except Escape (List Str)
  | [] => .ok []
  | v :: vs => (text floatText room v).bind fun part =>
      (texts floatText room vs).map fun parts => part :: parts

end

/-- `_number` -/
def number : Value → Except Escape (Option Double)
  | .null => .ok none
  | .bool _ => .ok none
  | .int n => if doubleBound ≤ n.natAbs then .error .overflowError
    else .ok (some (.finite (ofInt n)))
  | .float x => .ok (some x)
  | .str s => .ok (ofText s)
  | .list _ => .ok none
  | .dict _ => .ok none

/-- A rating that the models take. -/
abbrev Rating := {q : ℚ // 0 ≤ q ∧ q ≤ 5}

def Double.rating? : Double → Option Rating
  | .finite q => if h : 0 ≤ q ∧ q ≤ 5 then some ⟨q, h⟩ else none
  | .infinite _ => none
  | .nan => none

/-- `_rating` -/
def rating (v : Value) : Except Escape (Option Rating) :=
  (number v).map fun x => x.bind Double.rating?

def Double.nonneg : Double → Bool
  | .finite q => decide (0 ≤ q)
  | .infinite negative => !negative
  | .nan => false

abbrev Cost := {x : Double // Double.nonneg x = true}

/-- `_nonnegative_number` -/
def nonnegativeNumber (v : Value) : Except Escape (Option Cost) :=
  (number v).map fun x => x.bind fun x => if h : Double.nonneg x = true then some ⟨x, h⟩ else none

/-- `_nonnegative_int` -/
def nonnegativeInt (v : Value) : Except Escape (Option ℕ) :=
  (nonnegativeNumber v).bind fun x =>
    match x with
    | none => .ok none
    | some ⟨.finite q, _⟩ => .ok (some (roundEven q).toNat)
    -- an infinite float has no integer
    | some ⟨.infinite _, _⟩ => .error .overflowError
    | some ⟨.nan, _⟩ => .ok none

/-- The longitude and the latitude before they are read as numbers. -/
def coordinates : Value → Value × Value
  | .str s =>
    match (s.splitOn 44).map (trim space) with
    | [longitude, latitude] => (.str longitude, .str latitude)
    | _ => (.null, .null)
  | .list (longitude :: latitude :: _) => (longitude, latitude)
  | .dict d =>
    (firstOf d ["longitude", "lng", "lon"] .null, firstOf d ["latitude", "lat"] .null)
  | _ => (.null, .null)

def geoPoint : Option Double → Option Double → Option GeoPoint
  | some (.finite longitude), some (.finite latitude) =>
    if h : (-180 ≤ longitude ∧ longitude ≤ 180) ∧ -90 ≤ latitude ∧ latitude ≤ 90 then
      some ⟨longitude, latitude, h.1, h.2⟩
    else none
  | _, _ => none

/-- `_location` -/
def location (v : Value) : Except Escape (Option GeoPoint) :=
  (number (coordinates v).1).bind fun longitude =>
    (number (coordinates v).2).map fun latitude => geoPoint longitude latitude

/-- `_business_extension` -/
def businessExtension (poi : Fields) : Fields :=
  (["business", "biz_ext"].findSome? fun key =>
    match get poi key with
    | .dict d => some d
    | _ => none).getD []

def lowerCode (c : ℕ) : Str := if surrogate c then [c] else (lowerChar (Char.ofNat c)).map Char.toNat

/-- `str.lower` -/
def lower (s : Str) : Str := s.flatMap lowerCode

/-- A string that a field with a length constraint takes. -/
def encodable (s : Str) : Bool := s.all fun c => !surrogate c

end TravelAgent.AmapValues

import Mathlib
import TravelAgent.JsonExtent

namespace TravelAgent.JsonWriter

open TravelAgent.AmapValues (Value Fields)
open TravelAgent.Itinerary (Double)
open TravelAgent.Json (skip blank units)
open TravelAgent.JsonReader
open TravelAgent.PyFloats (Str)

/-- What stops a writing. -/
inductive DumpError
  -- `allow_nan=False`
  | nan
  | digits
  | recursion
  -- the text cannot be encoded
  | surrogate
deriving DecidableEq, Repr

def codes (cs : List Char) : Str := cs.map Char.toNat

def escapePoint (c : ℕ) : Str :=
  if c.isValidChar then codes (Json.escape (Char.ofNat c)) else [c]

def quote (s : Str) : Str := 34 :: (s.flatMap escapePoint ++ [34])

def intText (n : ℤ) : List Char :=
  if n < 0 then '-' :: Nat.toDigits 10 n.natAbs else Nat.toDigits 10 n.natAbs

/-- `sort_keys=True` -/
def KeyLe {α : Type} (a b : Str × α) : Prop := ¬b.1 < a.1

instance {α : Type} : DecidableRel (KeyLe (α := α)) := fun a b =>
  inferInstanceAs (Decidable ¬b.1 < a.1)

/-- How Python prints a finite double. -/
abbrev FloatRepr := ℚ → List Char

def commas (parts : List Str) : Str := List.intercalate [44] parts

def arrayText (parts : List (Except DumpError Str)) : Except DumpError Str :=
  (parts.mapM id).map fun texts => 91 :: (commas texts ++ [93])

def member (f : Str × Except DumpError Str) : Except DumpError Str :=
  f.2.map fun text => quote f.1 ++ 58 :: text

def objectText (fields : List (Str × Except DumpError Str)) : Except DumpError Str :=
  ((fields.insertionSort KeyLe).mapM member).map fun texts => 123 :: (commas texts ++ [125])

mutual

/-- `json.dumps` with compact separators and sorted keys, `room` deep at most. -/
def write (repr : FloatRepr) (limit : ℕ) (room : ℕ) : Value → Except DumpError Str
  | .null => .ok (codes "null".toList)
  | .bool b => .ok (codes (if b then "true".toList else "false".toList))
  | .int n =>
    if limit < (Nat.toDigits 10 n.natAbs).length then .error .digits else .ok (codes (intText n))
  | .float (.finite q) => .ok (codes (repr q))
  | .float (.infinite _) => .error .nan
  | .float .nan => .error .nan
  | .str s => .ok (quote s)
  | .list vs =>
    match room with
    | 0 => .error .recursion
    | room + 1 => arrayText (writeAll repr limit room vs)
  | .dict fs =>
    match room with
    | 0 => .error .recursion
    | room + 1 => objectText (writeFields repr limit room fs)

def writeAll (repr : FloatRepr) (limit : ℕ) (room : ℕ) : List Value → List (Except DumpError Str)
  | [] => []
  | v :: vs => write repr limit room v :: writeAll repr limit room vs

def writeFields (repr : FloatRepr) (limit : ℕ) (room : ℕ) :
    List (Str × Value) → List (Str × Except DumpError Str)
  | [] => []
  | (k, v) :: fs => (k, write repr limit room v) :: writeFields repr limit room fs

end

/-- `str.encode`, as the characters of the text. -/
def encode (s : Str) : Except DumpError (List Char) :=
  if s.all fun c => decide c.isValidChar then .ok (s.map Char.ofNat) else .error .surrogate

mutual

/-- A value with its keys in order; as a dictionary it is the same. -/
def sortKeys : Value → Value
  | .null => .null
  | .bool b => .bool b
  | .int n => .int n
  | .float x => .float x
  | .str s => .str s
  | .list vs => .list (sortKeysAll vs)
  | .dict fs => .dict ((sortKeysFields fs).insertionSort KeyLe)

def sortKeysAll : List Value → List Value
  | [] => []
  | v :: vs => sortKeys v :: sortKeysAll vs

def sortKeysFields : List (Str × Value) → List (Str × Value)
  | [] => []
  | (k, v) :: fs => (k, sortKeys v) :: sortKeysFields fs

end

end TravelAgent.JsonWriter

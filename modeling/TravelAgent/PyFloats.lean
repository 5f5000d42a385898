import Mathlib
import TravelAgent.Itinerary
import TravelAgent.Numerals

namespace TravelAgent.PyFloats

open TravelAgent.Itinerary (Double)
open TravelAgent.Numerals (decimal)
open TravelAgent.Texts (trim)
open TravelAgent.TaskStore (pySpace)

/-- A Python string: its code points, lone surrogates among them. -/
abbrev Str := List ℕ

def code (s : String) : Str := s.toList.map Char.toNat

/-- White space of `str.strip` and of `\s`. -/
def space (c : ℕ) : Bool := pySpace (Char.ofNat c)

def surrogate (c : ℕ) : Bool := decide (0xD800 ≤ c ∧ c < 0xE000)

/-- Half to even. -/
def roundEven (q : ℚ) : ℤ :=
  let n := ⌊q⌋
  let rest := q - n
  if 1 / 2 < rest ∨ (rest = 1 / 2 ∧ n % 2 ≠ 0) then n + 1 else n

/-- The exponent of the last of the 53 digits of a positive number, not below the smallest. -/
def lastExponent (n d : ℕ) : ℤ :=
  let top : ℤ := n.log2 - d.log2
  let low : Bool := if 0 ≤ top then decide (n < d * 2 ^ top.toNat)
    else decide (n * 2 ^ (-top).toNat < d)
  max (top - (if low then 53 else 52)) (-1074)

/-- The double nearest to `n / d`, if there is room for the exponent. -/
def nearest (n d : ℕ) : ℚ :=
  let unit : ℚ := (2 : ℚ) ^ lastExponent n d
  roundEven (n / d / unit) * unit

/-- Integers from here on have no double. -/
def doubleBound : ℕ := 2 ^ 1024 - 2 ^ 970

/-- `float(n)` of an integer that has one. -/
def ofInt (n : ℤ) : ℚ := n.sign * nearest n.natAbs 1

/-- The double of `m * 10^e`. -/
def ofDecimal (m : ℕ) (e : ℤ) : Option ℚ :=
  let size : ℤ := (Nat.toDigits 10 m).length + e
  if m = 0 ∨ size < -400 then some 0
  else if 400 < size then none
  else
    let n := m * 10 ^ e.toNat
    let d := 10 ^ (-e).toNat
    if n < doubleBound * d then some (nearest n d) else none

/-- What `float` makes of a character before it reads the text. -/
def plainChar (c : ℕ) : Char :=
  if c < 128 then Char.ofNat c
  else if space c then ' '
  else
    match decimal (Char.ofNat c) with
    | some d => Char.ofNat (48 + d)
    | none => '?'

def blank (c : Char) : Bool := decide (9 ≤ c.toNat ∧ c.toNat ≤ 13) || c == ' '

/-- Underscores are taken out, each of which must stand between digits. -/
def dropUnderscores : List Char → Option (List Char)
  | [] => some []
  | '_' :: _ => none
  | c :: '_' :: d :: rest =>
    if c.isDigit && d.isDigit then (dropUnderscores (d :: rest)).map (c :: ·) else none
  | [_, '_'] => none
  | c :: rest => (dropUnderscores rest).map (c :: ·)

def digitsValue (cs : List Char) : ℕ := Nat.ofDigitChars 10 cs 0

/-- The exponent behind the digits of a number, up to the end of the text. -/
def exponentOf : List Char → Option ℤ
  | [] => some 0
  | e :: cs =>
    if e = 'e' ∨ e = 'E' then
      let (negative, ds) := match cs with
        | '-' :: ds => (true, ds)
        | '+' :: ds => (false, ds)
        | ds => (false, ds)
      if ds.isEmpty || !ds.all Char.isDigit then none
      else some (if negative then -(digitsValue ds : ℤ) else digitsValue ds)
    else none

def unsigned (cs : List Char) : Option Double :=
  if cs.map Char.toLower ∈ ["inf".toList, "infinity".toList] then some (.infinite false)
  else if cs.map Char.toLower = "nan".toList then some .nan
  else
    let whole := cs.takeWhile Char.isDigit
    let (fraction, rest) := match cs.dropWhile Char.isDigit with
      | '.' :: rest => (rest.takeWhile Char.isDigit, rest.dropWhile Char.isDigit)
      | rest => ([], rest)
    if whole.isEmpty && fraction.isEmpty then none
    else (exponentOf rest).map fun e =>
      match ofDecimal (digitsValue (whole ++ fraction)) (e - fraction.length) with
      | some q => .finite q
      | none => .infinite false

def negate : Double → Double
  | .finite q => .finite (-q)
  | .infinite negative => .infinite (!negative)
  | .nan => .nan

/-- `float(text)`, none for a text that is no number. -/
def ofText (s : Str) : Option Double :=
  (dropUnderscores (trim blank (s.map plainChar))).bind fun cs =>
    match cs with
    | '-' :: cs => (unsigned cs).map negate
    | '+' :: cs => unsigned cs
    | cs => unsigned cs

end TravelAgent.PyFloats

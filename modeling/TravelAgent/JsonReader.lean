import TravelAgent.AmapValues
import TravelAgent.Json

namespace TravelAgent.JsonReader

open TravelAgent.AmapValues (Value Fields)
open TravelAgent.Json (skip units fraction exponent highSurrogate lowSurrogate)
open TravelAgent.PyFloats (Str ofText)

/-- What stops a reading. -/
inductive LoadError
  -- `JSONDecodeError`
  | decode
  -- the `ValueError` of an integer with too many digits
  | digits
  | recursion
  | fuel
deriving DecidableEq, Repr

/-- Two units of a surrogate pair make one code point; a lone one stays. -/
def points : List ℕ → Str
  | [] => []
  | n :: rest =>
    if highSurrogate n then
      match rest with
      | l :: rest' =>
        if lowSurrogate l then
          (0x10000 + (n - 0xD800) * 1024 + (l - 0xDC00)) :: points rest'
        else n :: points (l :: rest')
      | [] => [n]
    else n :: points rest

def string (cs : List Char) : Except LoadError (Str × List Char) :=
  match units cs with
  | some p => .ok (points p.1, p.2)
  | none => .error .decode

/-- A float that is too large for a double is infinite. -/
def floatOf (lexeme : List Char) : Value := .float ((ofText (lexeme.map Char.toNat)).getD .nan)

/-- The value of a number whose whole digits have been read. -/
def finishNumber (limit : ℕ) (negative : Bool) (digits cs : List Char) :
    Except LoadError (Value × List Char) :=
  let f := fraction cs
  let e := exponent f.2
  if f.1.isEmpty && e.1.isEmpty then
    if limit < digits.length then .error .digits
    else
      let n : ℤ := Nat.ofDigitChars 10 digits 0
      .ok (.int (if negative then -n else n), cs)
  else .ok (floatOf ((if negative then ['-'] else []) ++ digits ++ f.1 ++ e.1), e.2)

def number (limit : ℕ) (negative : Bool) : List Char → Except LoadError (Value × List Char)
  | [] => .error .decode
  | c :: cs =>
    if c = '0' then finishNumber limit negative ['0'] cs
    else if c.isDigit then
      finishNumber limit negative (c :: cs.takeWhile Char.isDigit) (cs.dropWhile Char.isDigit)
    else .error .decode

def constants : List (String × Value) :=
  [("null", .null), ("true", .bool true), ("false", .bool false), ("NaN", .float .nan),
    ("Infinity", .float (.infinite false)), ("-Infinity", .float (.infinite true))]

def constant (cs : List Char) : Option (Value × List Char) :=
  constants.findSome? fun k =>
    if k.1.toList.isPrefixOf cs then some (k.2, cs.drop k.1.length) else none

/-- An assignment to a dictionary: a key that it has keeps its place. -/
def assign (d : Fields) (f : Str × Value) : Fields :=
  if d.any fun e => e.1 = f.1 then d.map fun e => if e.1 = f.1 then (e.1, f.2) else e
  else d ++ [f]

/-- The dictionary of these pairs. -/
def merge (pairs : Fields) : Fields := pairs.foldl assign []

mutual

/-- A value, in which arrays and objects may nest `room` deep. -/
def value (limit : ℕ) : ℕ → ℕ → List Char → Except LoadError (Value × List Char)
  | 0, _, _ => .error .fuel
  | _ + 1, _, [] => .error .decode
  | n + 1, room, c :: cs =>
    if c = '"' then (string cs).map fun p => (.str p.1, p.2)
    else if c = '{' then
      match room with
      | 0 => .error .recursion
      | room + 1 =>
        if (skip cs).head? = some '}' then .ok (.dict [], (skip cs).tail)
        else (members limit n room (skip cs)).map fun p => (.dict (merge p.1), p.2)
    else if c = '[' then
      match room with
      | 0 => .error .recursion
      | room + 1 =>
        if (skip cs).head? = some ']' then .ok (.list [], (skip cs).tail)
        else (items limit n room (skip cs)).map fun p => (.list p.1, p.2)
    else
      match constant (c :: cs) with
      | some p => .ok p
      | none => if c = '-' then number limit true cs else number limit false (c :: cs)

def members (limit : ℕ) : ℕ → ℕ → List Char → Except LoadError (Fields × List Char)
  | 0, _, _ => .error .fuel
  | _ + 1, _, [] => .error .decode
  | n + 1, room, c :: cs =>
    if c = '"' then
      (string cs).bind fun k =>
        if (skip k.2).head? = some ':' then
          (value limit n room (skip (skip k.2).tail)).bind fun v =>
            if (skip v.2).head? = some '}' then .ok ([(k.1, v.1)], (skip v.2).tail)
            else if (skip v.2).head? = some ',' then
              (members limit n room (skip (skip v.2).tail)).map fun p => ((k.1, v.1) :: p.1, p.2)
            else .error .decode
        else .error .decode
    else .error .decode

def items (limit : ℕ) : ℕ → ℕ → List Char → Except LoadError (List Value × List Char)
  | 0, _, _ => .error .fuel
  | n + 1, room, cs =>
    (value limit n room cs).bind fun v =>
      if (skip v.2).head? = some ']' then .ok ([v.1], (skip v.2).tail)
      else if (skip v.2).head? = some ',' then
        (items limit n room (skip (skip v.2).tail)).map fun p => (v.1 :: p.1, p.2)
      else .error .decode

end

/-- What the interpreter allows: the digits of an integer, and how deep values may nest. -/
structure Limits where
  digits : ℕ
  nesting : ℕ

/-- `json.loads`. A call takes a character away or starts an item, so the fuel is enough. -/
def loads (limits : Limits) (cs : List Char) : Except LoadError Value :=
  (value limits.digits (2 * cs.length + 1) limits.nesting (skip cs)).bind fun p =>
    if skip p.2 = [] then .ok p.1 else .error .decode

/-- How far a text is read before its end or its first error, whatever the limits are. -/
structure Extent where
  nesting : ℕ
  digits : ℕ
  rest : Option (List Char)

/-- No value stands here. -/
def Extent.stop : Extent := ⟨0, 0, none⟩

/-- A value that nests nothing. -/
def Extent.flat (rest : List Char) : Extent := ⟨0, 0, some rest⟩

/-- One thing read after another. -/
def Extent.join (e e' : Extent) : Extent :=
  ⟨max e.nesting e'.nesting, max e.digits e'.digits, e'.rest⟩

def Extent.nest (e : Extent) : Extent := ⟨e.nesting + 1, e.digits, e.rest⟩

def Extent.continue (e : Extent) (next : List Char → Extent) : Extent :=
  match e.rest with
  | none => e
  | some rest => e.join (next rest)

def finishExtent (digits cs : List Char) : Extent :=
  let f := fraction cs
  let e := exponent f.2
  if f.1.isEmpty && e.1.isEmpty then ⟨0, digits.length, some cs⟩ else .flat e.2

def numberExtent : List Char → Extent
  | [] => .stop
  | c :: cs =>
    if c = '0' then finishExtent ['0'] cs
    else if c.isDigit then finishExtent (c :: cs.takeWhile Char.isDigit) (cs.dropWhile Char.isDigit)
    else .stop

mutual

def extent : ℕ → List Char → Extent
  | 0, _ => .stop
  | _ + 1, [] => .stop
  | n + 1, c :: cs =>
    if c = '"' then
      match units cs with
      | some p => .flat p.2
      | none => .stop
    else if c = '{' then
      if (skip cs).head? = some '}' then (Extent.flat (skip cs).tail).nest
      else (membersExtent n (skip cs)).nest
    else if c = '[' then
      if (skip cs).head? = some ']' then (Extent.flat (skip cs).tail).nest
      else (itemsExtent n (skip cs)).nest
    else
      match constant (c :: cs) with
      | some p => .flat p.2
      | none => if c = '-' then numberExtent cs else numberExtent (c :: cs)

def membersExtent : ℕ → List Char → Extent
  | 0, _ => .stop
  | _ + 1, [] => .stop
  | n + 1, c :: cs =>
    if c = '"' then
      match units cs with
      | some k =>
        if (skip k.2).head? = some ':' then
          (extent n (skip (skip k.2).tail)).continue fun rest =>
            if (skip rest).head? = some '}' then .flat (skip rest).tail
            else if (skip rest).head? = some ',' then membersExtent n (skip (skip rest).tail)
            else .stop
        else .stop
      | none => .stop
    else .stop

def itemsExtent : ℕ → List Char → Extent
  | 0, _ => .stop
  | n + 1, cs =>
    (extent n cs).continue fun rest =>
      if (skip rest).head? = some ']' then .flat (skip rest).tail
      else if (skip rest).head? = some ',' then itemsExtent n (skip (skip rest).tail)
      else .stop

end

/-- How deep a text nests values and how many digits its integers have, as far as it can be read. -/
def textExtent (cs : List Char) : Extent := extent (2 * cs.length + 1) (skip cs)

end TravelAgent.JsonReader

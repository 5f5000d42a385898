import Mathlib
import TravelAgent.Texts

namespace TravelAgent.Json

open TravelAgent.Texts (digit_ne)

/-- A parsed document. A number with a fraction or an exponent keeps its text. -/
inductive Value
  | null
  | bool (b : Bool)
  | int (n : Int)
  | float (lexeme : List Char)
  | str (s : String)
  | arr (items : List Value)
  | obj (fields : List (String × Value))

def blank (c : Char) : Bool := [' ', '\t', '\n', '\r'].contains c

def skip (cs : List Char) : List Char := cs.dropWhile blank

def hexValue (c : Char) : Option Nat :=
  if '0'.toNat ≤ c.toNat ∧ c.toNat ≤ '9'.toNat then some (c.toNat - 48)
  else if 'a'.toNat ≤ c.toNat ∧ c.toNat ≤ 'f'.toNat then some (c.toNat - 87)
  else if 'A'.toNat ≤ c.toNat ∧ c.toNat ≤ 'F'.toNat then some (c.toNat - 55)
  else none

def hex4 (a b c d : Char) : Option Nat :=
  (hexValue a).bind fun x => (hexValue b).bind fun y => (hexValue c).bind fun z =>
    (hexValue d).map fun u => ((x * 16 + y) * 16 + z) * 16 + u

def escaped (c : Char) : Option Nat :=
  if c = '"' ∨ c = '\\' ∨ c = '/' then some c.toNat
  else if c = 'b' then some 8
  else if c = 'f' then some 12
  else if c = 'n' then some 10
  else if c = 'r' then some 13
  else if c = 't' then some 9
  else none

/-- The code units of a string up to its closing quote, and what follows. -/
def units : List Char → Option (List Nat × List Char)
  | [] => none
  | c :: cs =>
    if c = '"' then some ([], cs)
    else if c = '\\' then
      match cs with
      | 'u' :: x :: y :: z :: w :: rest =>
        (hex4 x y z w).bind fun n => (units rest).map fun p => (n :: p.1, p.2)
      | e :: rest => (escaped e).bind fun n => (units rest).map fun p => (n :: p.1, p.2)
      | [] => none
    else if c.toNat < 32 then none
    else (units cs).map fun p => (c.toNat :: p.1, p.2)

def highSurrogate (n : Nat) : Bool := decide (0xD800 ≤ n ∧ n < 0xDC00)

def lowSurrogate (n : Nat) : Bool := decide (0xDC00 ≤ n ∧ n < 0xE000)

/-- Surrogate pairs are put together; a lone one has no character here. -/
def chars : List Nat → List Char
  | [] => []
  | n :: rest =>
    if highSurrogate n then
      match rest with
      | l :: rest' =>
        if lowSurrogate l then
          Char.ofNat (0x10000 + (n - 0xD800) * 1024 + (l - 0xDC00)) :: chars rest'
        else '\uFFFD' :: chars (l :: rest')
      | [] => ['\uFFFD']
    else (if lowSurrogate n then '\uFFFD' else Char.ofNat n) :: chars rest

def text (cs : List Char) : Option (String × List Char) :=
  (units cs).map fun p => (String.ofList (chars p.1), p.2)

/-- An optional part of a number: a lead and at least one digit. -/
def digitsAfter (lead cs : List Char) : List Char × List Char :=
  let ds := cs.takeWhile Char.isDigit
  if ds.isEmpty then ([], lead ++ cs) else (lead ++ ds, cs.dropWhile Char.isDigit)

def fraction : List Char → List Char × List Char
  | '.' :: cs => digitsAfter ['.'] cs
  | cs => ([], cs)

def exponent : List Char → List Char × List Char
  | e :: cs =>
    if e = 'e' ∨ e = 'E' then
      match cs with
      | s :: rest => if s = '+' ∨ s = '-' then digitsAfter [e, s] rest else digitsAfter [e] (s :: rest)
      | [] => ([], [e])
    else ([], e :: cs)
  | [] => ([], [])

def finishNumber (negative : Bool) (digits cs : List Char) : Value × List Char :=
  let f := fraction cs
  let e := exponent f.2
  let n : Int := Nat.ofDigitChars 10 digits 0
  if f.1.isEmpty && e.1.isEmpty then (.int (if negative then -n else n), cs)
  else (.float ((if negative then ['-'] else []) ++ digits ++ f.1 ++ e.1), e.2)

def number (negative : Bool) : List Char → Option (Value × List Char)
  | [] => none
  | c :: cs =>
    if c = '0' then some (finishNumber negative ['0'] cs)
    else if c.isDigit then
      some (finishNumber negative (c :: cs.takeWhile Char.isDigit) (cs.dropWhile Char.isDigit))
    else none

def constants : List (String × Value) :=
  [("null", .null), ("true", .bool true), ("false", .bool false), ("NaN", .float "NaN".toList),
    ("Infinity", .float "Infinity".toList), ("-Infinity", .float "-Infinity".toList)]

def constant (cs : List Char) : Option (Value × List Char) :=
  constants.findSome? fun k => if k.1.toList.isPrefixOf cs then some (k.2, cs.drop k.1.length) else none

mutual

def value : Nat → List Char → Option (Value × List Char)
  | 0, _ => none
  | _ + 1, [] => none
  | n + 1, c :: cs =>
    if c = '"' then (text cs).map fun p => (.str p.1, p.2)
    else if c = '{' then
      if (skip cs).head? = some '}' then some (.obj [], (skip cs).tail)
      else (members n (skip cs)).map fun p => (.obj p.1, p.2)
    else if c = '[' then
      if (skip cs).head? = some ']' then some (.arr [], (skip cs).tail)
      else (items n (skip cs)).map fun p => (.arr p.1, p.2)
    else
      match constant (c :: cs) with
      | some p => some p
      | none => if c = '-' then number true cs else number false (c :: cs)

def members : Nat → List Char → Option (List (String × Value) × List Char)
  | 0, _ => none
  | _ + 1, [] => none
  | n + 1, c :: cs =>
    if c = '"' then
      (text cs).bind fun k =>
        if (skip k.2).head? = some ':' then
          (value n (skip (skip k.2).tail)).bind fun v =>
            if (skip v.2).head? = some '}' then some ([(k.1, v.1)], (skip v.2).tail)
            else if (skip v.2).head? = some ',' then
              (members n (skip (skip v.2).tail)).map fun p => ((k.1, v.1) :: p.1, p.2)
            else none
        else none
    else none

def items : Nat → List Char → Option (List Value × List Char)
  | 0, _ => none
  | n + 1, cs =>
    (value n cs).bind fun v =>
      if (skip v.2).head? = some ']' then some ([v.1], (skip v.2).tail)
      else if (skip v.2).head? = some ',' then
        (items n (skip (skip v.2).tail)).map fun p => (v.1 :: p.1, p.2)
      else none

end

/-- `json.loads`. Every call takes a character away, so the fuel is enough. -/
def loads (cs : List Char) : Option Value :=
  (value (cs.length + 1) (skip cs)).bind fun p => if skip p.2 = [] then some p.1 else none

def hexDigit (n : Nat) : Char := if n < 10 then Char.ofNat (48 + n) else Char.ofNat (87 + n)

def escape (c : Char) : List Char :=
  if c = '"' then ['\\', '"']
  else if c = '\\' then ['\\', '\\']
  else if c.toNat = 10 then ['\\', 'n']
  else if c.toNat = 13 then ['\\', 'r']
  else if c.toNat = 9 then ['\\', 't']
  else if c.toNat = 12 then ['\\', 'f']
  else if c.toNat = 8 then ['\\', 'b']
  else if c.toNat < 32 then ['\\', 'u', '0', '0', hexDigit (c.toNat / 16), hexDigit (c.toNat % 16)]
  else [c]

def quote (s : String) : List Char := '"' :: s.toList.flatMap escape ++ ['"']

/-- The values of a flat object. -/
inductive Scalar
  | nat (n : Nat)
  | str (s : String)

def Scalar.value : Scalar → Value
  | .nat n => .int n
  | .str s => .str s

def Scalar.print : Scalar → List Char
  | .nat n => Nat.toDigits 10 n
  | .str s => quote s

def member (f : String × Scalar) : List Char := quote f.1 ++ ':' :: f.2.print

/-- `json.dumps` with compact separators and without ASCII escapes, on a flat object. -/
def dumps (fields : List (String × Scalar)) : List Char :=
  '{' :: (List.intercalate [','] (fields.map member) ++ ['}'])

theorem hex4_control {n : Nat} (h : n < 32) :
    hex4 '0' '0' (hexDigit (n / 16)) (hexDigit (n % 16)) = some n := by
  revert n
  decide

theorem units_escape (c : Char) (rest : List Char) :
    units (escape c ++ rest) = (units rest).map fun p => (c.toNat :: p.1, p.2) := by
  have hescaped : ∀ e : Char, e ≠ 'u' → ∀ n, escaped e = some n →
      units ('\\' :: e :: rest) = (units rest).map fun p => (n :: p.1, p.2) := by
    intro e hu n he
    rw [units, if_neg (by decide), if_pos rfl, he, Option.bind_some]
    intro x y z w rest' hu'
    exact absurd hu' hu
  by_cases hq : c = '"'
  · rw [escape, if_pos hq, hq]
    exact hescaped '"' (by decide) 34 rfl
  by_cases hb : c = '\\'
  · rw [escape, if_neg hq, if_pos hb, hb]
    exact hescaped '\\' (by decide) 92 rfl
  by_cases h10 : c.toNat = 10
  · rw [escape, if_neg hq, if_neg hb, if_pos h10, h10]
    exact hescaped 'n' (by decide) 10 rfl
  by_cases h13 : c.toNat = 13
  · rw [escape, if_neg hq, if_neg hb, if_neg h10, if_pos h13, h13]
    exact hescaped 'r' (by decide) 13 rfl
  by_cases h9 : c.toNat = 9
  · rw [escape, if_neg hq, if_neg hb, if_neg h10, if_neg h13, if_pos h9, h9]
    exact hescaped 't' (by decide) 9 rfl
  by_cases h12 : c.toNat = 12
  · rw [escape, if_neg hq, if_neg hb, if_neg h10, if_neg h13, if_neg h9, if_pos h12, h12]
    exact hescaped 'f' (by decide) 12 rfl
  by_cases h8 : c.toNat = 8
  · rw [escape, if_neg hq, if_neg hb, if_neg h10, if_neg h13, if_neg h9, if_neg h12, if_pos h8, h8]
    exact hescaped 'b' (by decide) 8 rfl
  have hrest : escape c = if c.toNat < 32 then
      ['\\', 'u', '0', '0', hexDigit (c.toNat / 16), hexDigit (c.toNat % 16)] else [c] := by
    rw [escape, if_neg hq, if_neg hb, if_neg h10, if_neg h13, if_neg h9, if_neg h12, if_neg h8]
  by_cases h32 : c.toNat < 32
  · rw [hrest, if_pos h32]
    simp only [List.cons_append, List.nil_append]
    rw [units, if_neg (by decide), if_pos rfl, hex4_control h32, Option.bind_some]
  · rw [hrest, if_neg h32]
    simp only [List.cons_append, List.nil_append]
    rw [units.eq_def]
    simp only [if_neg hq, if_neg hb, if_neg h32]

theorem units_flatMap (cs rest : List Char) :
    units (cs.flatMap escape ++ '"' :: rest) = some (cs.map Char.toNat, rest) := by
  induction cs with
  | nil =>
    rw [List.flatMap_nil, List.nil_append, units.eq_def]
    rfl
  | cons c cs ih =>
    rw [List.flatMap_cons, List.append_assoc, units_escape, ih, Option.map_some, List.map_cons]

theorem chars_map (cs : List Char) : chars (cs.map Char.toNat) = cs := by
  induction cs with
  | nil => rfl
  | cons c cs ih =>
    have hvalid := c.valid
    have hn : c.toNat = c.val.toNat := rfl
    have hhigh : highSurrogate c.toNat = false := by
      simp only [highSurrogate, decide_eq_false_iff_not, hn]
      obtain h | h := hvalid
      · omega
      · omega
    have hlow : lowSurrogate c.toNat = false := by
      simp only [lowSurrogate, decide_eq_false_iff_not, hn]
      obtain h | h := hvalid
      · omega
      · omega
    rw [List.map_cons, chars.eq_def]
    simp only [hhigh, hlow, Bool.false_eq_true, ↓reduceIte, Char.ofNat_toNat, ih]

theorem text_quote (s : String) (rest : List Char) :
    text (s.toList.flatMap escape ++ '"' :: rest) = some (s, rest) := by
  rw [text, units_flatMap, Option.map_some, chars_map, String.ofList_toList]

/-- What may follow a value inside a flat object. -/
def Closes (cs : List Char) : Prop := ∃ rest, cs = ',' :: rest ∨ cs = '}' :: rest

theorem finishNumber_int (digits : List Char) {rest : List Char} (h : Closes rest) :
    finishNumber false digits rest = (.int (Nat.ofDigitChars 10 digits 0), rest) := by
  obtain ⟨r, rfl | rfl⟩ := h <;> rfl

theorem head_toDigits {n : Nat} (hn : n ≠ 0) : ∀ c ∈ (Nat.toDigits 10 n).head?, c ≠ '0' := by
  induction n using Nat.strongRecOn with
  | _ n ih =>
    by_cases hlt : n < 10
    · rw [Nat.toDigits_of_lt_base hlt]
      intro c hc
      cases hc
      simpa using hn
    · rw [Nat.toDigits_of_base_le (by decide) (by omega)]
      intro c hc
      apply ih (n / 10) (by omega) (by omega) c
      cases hds : Nat.toDigits 10 (n / 10) with
      | nil => exact absurd hds Nat.toDigits_ne_nil
      | cons d ds =>
        rw [hds] at hc
        exact hc

theorem takeWhile_digits {ds rest : List Char} (hd : ∀ c ∈ ds, c.isDigit = true)
    (h : Closes rest) : (ds ++ rest).takeWhile Char.isDigit = ds ∧
      (ds ++ rest).dropWhile Char.isDigit = rest := by
  have hrest : rest.takeWhile Char.isDigit = [] ∧ rest.dropWhile Char.isDigit = rest := by
    obtain ⟨r, rfl | rfl⟩ := h <;> exact ⟨rfl, rfl⟩
  rw [List.takeWhile_append_of_pos hd, List.dropWhile_append_of_pos hd, hrest.1, hrest.2,
    List.append_nil]
  exact ⟨rfl, rfl⟩

theorem number_toDigits (n : Nat) {rest : List Char} (h : Closes rest) :
    number false (Nat.toDigits 10 n ++ rest) = some (.int n, rest) := by
  have hdigit : ∀ c ∈ Nat.toDigits 10 n, c.isDigit = true :=
    fun c hc => Nat.isDigit_of_mem_toDigits (by decide) (by decide) hc
  have hvalue : Nat.ofDigitChars 10 (Nat.toDigits 10 n) 0 = n :=
    Nat.ofDigitChars_toDigits (by decide) (by decide)
  by_cases hn : n = 0
  · subst hn
    rw [Nat.toDigits_zero]
    simp only [List.cons_append, List.nil_append, number, if_pos, finishNumber_int _ h]
    rfl
  · have hhead := head_toDigits hn
    cases hds : Nat.toDigits 10 n with
    | nil => exact absurd hds Nat.toDigits_ne_nil
    | cons d ds =>
      rw [hds] at hdigit hvalue hhead
      have hne : d ≠ '0' := hhead d rfl
      obtain ⟨ht, hdrop⟩ := takeWhile_digits (fun c hc => hdigit c (List.mem_cons_of_mem d hc)) h
      simp only [List.cons_append, number, if_neg hne, hdigit d List.mem_cons_self, ↓reduceIte, ht,
        hdrop, finishNumber_int _ h, hvalue]

theorem constant_none {c : Char} (cs : List Char)
    (h : c ≠ 'n' ∧ c ≠ 't' ∧ c ≠ 'f' ∧ c ≠ 'N' ∧ c ≠ 'I' ∧ c ≠ '-') : constant (c :: cs) = none := by
  obtain ⟨hn, ht, hf, hN, hI, hm⟩ := h
  simp [constant, constants, hn.symm, ht.symm, hf.symm, hN.symm, hI.symm, hm.symm]

theorem toDigits_cons (n : Nat) : ∃ d ds, Nat.toDigits 10 n = d :: ds ∧ d.isDigit = true := by
  cases hds : Nat.toDigits 10 n with
  | nil => exact absurd hds Nat.toDigits_ne_nil
  | cons d ds =>
    refine ⟨d, ds, rfl, ?_⟩
    apply Nat.isDigit_of_mem_toDigits (b := 10) (n := n) (by decide) (by decide)
    rw [hds]
    exact List.mem_cons_self

theorem value_scalar (v : Scalar) (n : Nat) {rest : List Char} (h : Closes rest) :
    value (n + 1) (v.print ++ rest) = some (v.value, rest) := by
  cases v with
  | str s =>
    simp only [Scalar.print, quote, List.cons_append, List.append_assoc, List.nil_append]
    rw [value, if_pos rfl, text_quote, Option.map_some, Scalar.value]
  | nat k =>
    have hnumber := number_toDigits k h
    obtain ⟨d, ds, hds, hd⟩ := toDigits_cons k
    rw [hds, List.cons_append] at hnumber
    have hconstant : constant (d :: (ds ++ rest)) = none :=
      constant_none _ ⟨digit_ne hd (by decide), digit_ne hd (by decide), digit_ne hd (by decide),
        digit_ne hd (by decide), digit_ne hd (by decide), digit_ne hd (by decide)⟩
    rw [Scalar.print, hds, List.cons_append, value, if_neg (digit_ne hd (by decide)),
      if_neg (digit_ne hd (by decide)), if_neg (digit_ne hd (by decide)), hconstant]
    simp only
    rw [if_neg (digit_ne hd (by decide)), hnumber, Scalar.value]

theorem skip_of_head {c : Char} (cs : List Char) (h : blank c = false) : skip (c :: cs) = c :: cs :=
  List.dropWhile_cons_of_neg (by simp [h])

theorem skip_print (v : Scalar) (rest : List Char) : skip (v.print ++ rest) = v.print ++ rest := by
  cases v with
  | str s => exact skip_of_head _ rfl
  | nat k =>
    obtain ⟨d, ds, hds, hd⟩ := toDigits_cons k
    rw [Scalar.print, hds, List.cons_append]
    apply skip_of_head
    have h1 := digit_ne hd (d := ' ') (by decide)
    have h2 := digit_ne hd (d := '\t') (by decide)
    have h3 := digit_ne hd (d := '\n') (by decide)
    have h4 := digit_ne hd (d := '\r') (by decide)
    simp [blank, h1, h2, h3, h4]

/-- One member, with the value that follows its key. -/
theorem members_member (f : String × Scalar) (n : Nat) {rest : List Char} (h : Closes rest) :
    members (n + 2) (member f ++ rest) =
      if rest.head? = some '}' then some ([(f.1, f.2.value)], rest.tail)
      else (members (n + 1) (skip rest.tail)).map fun p => ((f.1, f.2.value) :: p.1, p.2) := by
  have hskip : skip rest = rest := by
    obtain ⟨r, rfl | rfl⟩ := h
    · exact skip_of_head r rfl
    · exact skip_of_head r rfl
  have hcolon : skip (':' :: (f.2.print ++ rest)) = ':' :: (f.2.print ++ rest) := skip_of_head _ rfl
  rw [member, quote]
  simp only [List.cons_append, List.append_assoc, List.nil_append]
  rw [members, if_pos rfl, text_quote, Option.bind_some]
  simp only [hcolon, List.head?_cons, ↓reduceIte, List.tail_cons, skip_print]
  rw [value_scalar f.2 n h, Option.bind_some]
  simp only [hskip]
  obtain ⟨r, rfl | rfl⟩ := h
  · rw [if_neg (by simp), if_pos (by simp), if_neg (by simp)]
  · rw [if_pos (by simp), if_pos (by simp)]

theorem members_dumps (f : String × Scalar) (fields : List (String × Scalar)) {n : Nat}
    (hn : fields.length ≤ n) (rest : List Char) :
    members (n + 2) (List.intercalate [','] ((f :: fields).map member) ++ '}' :: rest) =
      some ((f :: fields).map fun f => (f.1, f.2.value), rest) := by
  induction fields generalizing f n with
  | nil =>
    have hone := @members_member f n ('}' :: rest) ⟨rest, Or.inr rfl⟩
    rw [List.head?_cons, if_pos rfl] at hone
    simpa [List.intercalate] using hone
  | cons g fields ih =>
    obtain ⟨n, rfl⟩ : ∃ m, n = m + 1 := ⟨n - 1, by simp only [List.length_cons] at hn; omega⟩
    have hrest := ih g (n := n) (by simpa using hn)
    have hsplit : List.intercalate [','] ((f :: g :: fields).map member) ++ '}' :: rest =
        member f ++ ',' :: (List.intercalate [','] ((g :: fields).map member) ++ '}' :: rest) := by
      simp [List.intercalate]
    have hhead : skip (List.intercalate [','] ((g :: fields).map member) ++ '}' :: rest) =
        List.intercalate [','] ((g :: fields).map member) ++ '}' :: rest := by
      cases fields with
      | nil => simpa [List.intercalate, member, quote] using skip_of_head _ rfl
      | cons p fields => simpa [List.intercalate, member, quote] using skip_of_head _ rfl
    rw [hsplit, members_member f (n + 1) ⟨_, Or.inl rfl⟩, if_neg (by simp), List.tail_cons, hhead,
      hrest]
    rfl

theorem dumps_length (f : String × Scalar) (fields : List (String × Scalar)) :
    fields.length < (List.intercalate [','] ((f :: fields).map member)).length := by
  induction fields generalizing f with
  | nil => simp [List.intercalate, member, quote]
  | cons g fields ih =>
    have h := ih g
    simp only [List.intercalate, List.map_cons, List.intersperse_cons_cons, List.flatten_cons,
      List.length_append, List.length_cons, List.length_nil] at h ⊢
    omega

/-- What `dumps` writes of a flat object is read back. -/
theorem loads_dumps (f : String × Scalar) (fields : List (String × Scalar)) :
    loads (dumps (f :: fields)) = some (.obj ((f :: fields).map fun f => (f.1, f.2.value))) := by
  have hlen := dumps_length f fields
  have hmembers := members_dumps f fields
    (n := (List.intercalate [','] ((f :: fields).map member)).length) (by omega) []
  have hquote : ∃ cs, List.intercalate [','] ((f :: fields).map member) ++ ['}'] = '"' :: cs := by
    cases fields with
    | nil => simp [List.intercalate, member, quote]
    | cons p fields => simp [List.intercalate, member, quote]
  obtain ⟨cs, hcs⟩ := hquote
  have hskip : skip (dumps (f :: fields)) = dumps (f :: fields) := skip_of_head _ rfl
  have hinner : skip ('"' :: cs) = '"' :: cs := skip_of_head _ rfl
  rw [loads, hskip, dumps, List.length_cons, value, if_neg (by decide), if_pos rfl, hcs, hinner,
    if_neg (by simp), ← hcs, List.length_append, List.length_cons, List.length_nil]
  rw [hmembers]
  rfl

end TravelAgent.Json

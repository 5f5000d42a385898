import TravelAgent.Attempts
import TravelAgent.JsonWriter
import TravelAgent.OrderedDicts

namespace TravelAgent.JsonRoundTrip

open TravelAgent.AmapValues (Value Fields)
open TravelAgent.Attempts (mapM_pairs map_ok)
open TravelAgent.Itinerary (Double)
open TravelAgent.Json (skip blank units head_toDigits toDigits_cons skip_of_head)
open TravelAgent.JsonReader TravelAgent.JsonWriter
open TravelAgent.PyFloats (Str)
open TravelAgent.Texts (digit_ne)

section Values

@[elab_as_elim]
theorem value_induction {P : Value → Prop} (null : P .null) (bool : ∀ b, P (.bool b))
    (int : ∀ n, P (.int n)) (float : ∀ x, P (.float x)) (str : ∀ s, P (.str s))
    (list : ∀ vs, (∀ v ∈ vs, P v) → P (.list vs))
    (dict : ∀ fs : Fields, (∀ f ∈ fs, P f.2) → P (.dict fs)) (v : Value) : P v :=
  @Value.rec P (fun vs => ∀ v ∈ vs, P v) (fun fs => ∀ f ∈ fs, P f.2) (fun f => P f.2) null bool
    int float str list dict (fun _ h => absurd h List.not_mem_nil)
    (fun _ _ hv hvs => List.forall_mem_cons.mpr ⟨hv, hvs⟩) (fun _ h => absurd h List.not_mem_nil)
    (fun _ _ hf hfs => List.forall_mem_cons.mpr ⟨hf, hfs⟩) (fun _ _ h => h) v

mutual

/-- Arrays and objects inside one another. -/
def nesting : Value → ℕ
  | .list vs => nestingAll vs + 1
  | .dict fs => nestingFields fs + 1
  | _ => 0

def nestingAll : List Value → ℕ
  | [] => 0
  | v :: vs => max (nesting v) (nestingAll vs)

def nestingFields : List (Str × Value) → ℕ
  | [] => 0
  | (_, v) :: fs => max (nesting v) (nestingFields fs)

end

theorem nesting_le_all {v : Value} {vs : List Value} (h : v ∈ vs) :
    nesting v ≤ nestingAll vs := by
  induction vs with
  | nil => cases h
  | cons w vs ih =>
    rw [nestingAll]
    obtain rfl | h := List.mem_cons.mp h
    · exact le_max_left _ _
    · exact (ih h).trans (le_max_right _ _)

theorem nesting_le_fields {f : Str × Value} {fs : Fields} (h : f ∈ fs) :
    nesting f.2 ≤ nestingFields fs := by
  induction fs with
  | nil => cases h
  | cons g fs ih =>
    obtain ⟨k, v⟩ := g
    rw [nestingFields]
    obtain rfl | h := List.mem_cons.mp h
    · exact le_max_left _ _
    · exact (ih h).trans (le_max_right _ _)

/-- The keys of a dictionary are distinct. -/
def Distinct : Value → Prop
  | .dict fs => (fs.map Prod.fst).Nodup
  | _ => True

mutual

/-- Something that holds of a value and of every value in it. -/
def Everywhere (P : Value → Prop) : Value → Prop
  | .list vs => P (.list vs) ∧ EverywhereAll P vs
  | .dict fs => P (.dict fs) ∧ EverywhereFields P fs
  | v => P v

def EverywhereAll (P : Value → Prop) : List Value → Prop
  | [] => True
  | v :: vs => Everywhere P v ∧ EverywhereAll P vs

def EverywhereFields (P : Value → Prop) : List (Str × Value) → Prop
  | [] => True
  | (_, v) :: fs => Everywhere P v ∧ EverywhereFields P fs

end

theorem everywhereAll_iff {P : Value → Prop} {vs : List Value} :
    EverywhereAll P vs ↔ ∀ v ∈ vs, Everywhere P v := by
  induction vs with
  | nil => exact iff_of_true trivial fun _ h => absurd h List.not_mem_nil
  | cons v vs ih => rw [EverywhereAll, List.forall_mem_cons, ih]

theorem everywhereFields_iff {P : Value → Prop} {fs : Fields} :
    EverywhereFields P fs ↔ ∀ f ∈ fs, Everywhere P f.2 := by
  induction fs with
  | nil => exact iff_of_true trivial fun _ h => absurd h List.not_mem_nil
  | cons f fs ih => rw [EverywhereFields, List.forall_mem_cons, ih]

theorem writeAll_eq (repr : FloatRepr) (limit room : ℕ) (vs : List Value) :
    writeAll repr limit room vs = vs.map (write repr limit room) := by
  induction vs with
  | nil => rfl
  | cons v vs ih => rw [writeAll, List.map_cons, ih]

theorem writeFields_eq (repr : FloatRepr) (limit room : ℕ) (fs : Fields) :
    writeFields repr limit room fs = fs.map fun f => (f.1, write repr limit room f.2) := by
  induction fs with
  | nil => rfl
  | cons f fs ih => rw [writeFields, List.map_cons, ih]

theorem sortKeysAll_eq (vs : List Value) : sortKeysAll vs = vs.map sortKeys := by
  induction vs with
  | nil => rfl
  | cons v vs ih => rw [sortKeysAll, List.map_cons, ih]

theorem sortKeysFields_eq (fs : Fields) :
    sortKeysFields fs = fs.map fun f => (f.1, sortKeys f.2) := by
  induction fs with
  | nil => rfl
  | cons f fs ih => rw [sortKeysFields, List.map_cons, ih]

/-- Sorting by keys does not look at what the keys lead to. -/
theorem insertionSort_map {α β : Type} (f : α → β) (fs : List (Str × α)) :
    (fs.map fun e => (e.1, f e.2)).insertionSort KeyLe =
      (fs.insertionSort KeyLe).map fun e => (e.1, f e.2) :=
  (List.map_insertionSort KeyLe KeyLe (fun e => (e.1, f e.2)) fs fun _ _ _ _ => Iff.rfl).symm

theorem assign_new {d : Fields} {f : Str × Value} (h : f.1 ∉ d.map Prod.fst) :
    assign d f = d ++ [f] := by
  apply if_neg
  intro hany
  obtain ⟨e, he, hk⟩ := List.any_eq_true.mp hany
  exact h (of_decide_eq_true hk ▸ List.mem_map_of_mem he)

theorem foldl_assign (d fs : Fields) (h : ((d ++ fs).map Prod.fst).Nodup) :
    fs.foldl assign d = d ++ fs := by
  induction fs generalizing d with
  | nil => rw [List.append_nil]; rfl
  | cons f fs ih =>
    have hnew : f.1 ∉ d.map Prod.fst := by
      rw [List.map_append, List.map_cons] at h
      intro hmem
      exact List.disjoint_of_nodup_append h hmem List.mem_cons_self
    have hsplit : d ++ f :: fs = (d ++ [f]) ++ fs := by simp
    rw [List.foldl_cons, assign_new hnew, hsplit]
    exact ih _ (hsplit ▸ h)

theorem merge_distinct {fs : Fields} (h : (fs.map Prod.fst).Nodup) : merge fs = fs :=
  foldl_assign [] fs h

mutual

/-- Values that are the same but for the order of their keys. -/
def Same : Value → Value → Prop
  | .list vs, .list ws => SameAll vs ws
  | .dict fs, .dict gs => fs.length = gs.length ∧ SameFields fs gs
  | v, w => v = w

def SameAll : List Value → List Value → Prop
  | [], [] => True
  | v :: vs, w :: ws => Same v w ∧ SameAll vs ws
  | _, _ => False

def SameFields : List (Str × Value) → Fields → Prop
  | [], _ => True
  | (k, v) :: fs, gs => (∃ w, OrderedDicts.get gs k = some w ∧ Same v w) ∧ SameFields fs gs

end

theorem sameAll_map {vs : List Value} {f : Value → Value} (h : ∀ v ∈ vs, Same v (f v)) :
    SameAll vs (vs.map f) := by
  induction vs with
  | nil => trivial
  | cons v vs ih =>
    rw [List.map_cons, SameAll]
    exact ⟨h v List.mem_cons_self, ih fun w hw => h w (List.mem_cons_of_mem v hw)⟩

theorem sameFields_of_get {fs gs : Fields}
    (h : ∀ f ∈ fs, ∃ w, OrderedDicts.get gs f.1 = some w ∧ Same f.2 w) : SameFields fs gs := by
  induction fs with
  | nil => trivial
  | cons f fs ih =>
    rw [SameFields]
    exact ⟨h f List.mem_cons_self, ih fun g hg => h g (List.mem_cons_of_mem f hg)⟩

/-- What is written in the order of the keys is the same. -/
theorem same_sortKeys {v : Value} (h : Everywhere Distinct v) : Same v (sortKeys v) := by
  induction v using value_induction with
  | list vs ih =>
    rw [sortKeys, sortKeysAll_eq, Same]
    exact sameAll_map fun v hv => ih v hv (everywhereAll_iff.mp h.2 v hv)
  | dict fs ih =>
    rw [sortKeys, sortKeysFields_eq, Same]
    have hperm := List.perm_insertionSort KeyLe (fs.map fun f => (f.1, sortKeys f.2))
    have hkeyed : OrderedDicts.Keyed
        ((fs.map fun f => (f.1, sortKeys f.2)).insertionSort KeyLe) := by
      rw [OrderedDicts.Keyed, (hperm.map Prod.fst).nodup_iff, List.map_map]
      exact h.1
    constructor
    · rw [hperm.length_eq, List.length_map]
    · refine sameFields_of_get fun f hf => ⟨sortKeys f.2, ?_, ?_⟩
      · exact hkeyed.get_of_mem (hperm.mem_iff.mpr (List.mem_map_of_mem hf))
      · exact ih f hf (everywhereFields_iff.mp h.2 f hf)
  | _ => rfl

end Values

section Scalars

variable {limit : ℕ}

/-- What may follow a value. -/
def Closes (rest : List Char) : Prop :=
  rest = [] ∨ ∃ c r, rest = c :: r ∧ (c = ',' ∨ c = ']' ∨ c = '}')

/-- A text that reads as a value, whatever follows. -/
structure ReadsAs (limit depth : ℕ) (v : Value) (cs : List Char) : Prop where
  head : ∃ c tail, cs = c :: tail ∧ blank c = false ∧ c ≠ ']'
  reads : ∀ n room rest, 2 * cs.length < n → depth ≤ room → Closes rest →
    value limit n room (cs ++ rest) = .ok (v, rest)

theorem value_scalar {c : Char} (n room : ℕ) (cs : List Char) (hquote : c ≠ '"') (hbrace : c ≠ '{')
    (hbracket : c ≠ '[') : value limit (n + 1) room (c :: cs) =
      match constant (c :: cs) with
      | some p => .ok p
      | none => if c = '-' then number limit true cs else number limit false (c :: cs) := by
  have hvalue := value.eq_def limit (n + 1) room (c :: cs)
  simp only [if_neg hquote, if_neg hbrace, if_neg hbracket] at hvalue
  exact hvalue

theorem value_string (n room : ℕ) (cs : List Char) :
    value limit (n + 1) room ('"' :: cs) = (string cs).map fun p => (.str p.1, p.2) := by
  rw [value.eq_def]
  simp only [↓reduceIte]

theorem value_object (n room : ℕ) (cs : List Char) :
    value limit (n + 1) (room + 1) ('{' :: cs) =
      if (skip cs).head? = some '}' then .ok (.dict [], (skip cs).tail)
      else (members limit n room (skip cs)).map fun p => (.dict (merge p.1), p.2) := by
  rw [value.eq_def]
  rfl

theorem value_array (n room : ℕ) (cs : List Char) :
    value limit (n + 1) (room + 1) ('[' :: cs) =
      if (skip cs).head? = some ']' then .ok (.list [], (skip cs).tail)
      else (items limit n room (skip cs)).map fun p => (.list p.1, p.2) := by
  rw [value.eq_def]
  rfl

theorem closes_digits {ds rest : List Char} (hd : ∀ c ∈ ds, c.isDigit = true)
    (h : Closes rest) : (ds ++ rest).takeWhile Char.isDigit = ds ∧
      (ds ++ rest).dropWhile Char.isDigit = rest := by
  have hrest : rest.takeWhile Char.isDigit = [] ∧ rest.dropWhile Char.isDigit = rest := by
    obtain rfl | ⟨c, r, rfl, rfl | rfl | rfl⟩ := h <;> exact ⟨rfl, rfl⟩
  rw [List.takeWhile_append_of_pos hd, List.dropWhile_append_of_pos hd, hrest.1, hrest.2,
    List.append_nil]
  exact ⟨rfl, rfl⟩

theorem finishNumber_closes (negative : Bool) {digits rest : List Char}
    (hlimit : digits.length ≤ limit) (h : Closes rest) :
    finishNumber limit negative digits rest =
      .ok (.int (if negative then -(Nat.ofDigitChars 10 digits 0 : ℤ)
        else Nat.ofDigitChars 10 digits 0), rest) := by
  have hscan : Json.fraction rest = ([], rest) ∧ Json.exponent rest = ([], rest) := by
    obtain rfl | ⟨c, r, rfl, rfl | rfl | rfl⟩ := h <;> exact ⟨rfl, rfl⟩
  rw [finishNumber]
  simp only [hscan.1, hscan.2, List.isEmpty_nil, Bool.and_self, ↓reduceIte,
    if_neg (Nat.not_lt.mpr hlimit)]

theorem number_toDigits (negative : Bool) {n : ℕ} (hlimit : (Nat.toDigits 10 n).length ≤ limit)
    {rest : List Char} (h : Closes rest) :
    number limit negative (Nat.toDigits 10 n ++ rest) =
      .ok (.int (if negative then -(n : ℤ) else n), rest) := by
  have hdigit : ∀ c ∈ Nat.toDigits 10 n, c.isDigit = true :=
    fun c hc => Nat.isDigit_of_mem_toDigits (by decide) (by decide) hc
  have hvalue : Nat.ofDigitChars 10 (Nat.toDigits 10 n) 0 = n :=
    Nat.ofDigitChars_toDigits (by decide) (by decide)
  by_cases hn : n = 0
  · subst hn
    rw [Nat.toDigits_zero] at hlimit hvalue ⊢
    rw [List.singleton_append, number, if_pos rfl, finishNumber_closes negative hlimit h, hvalue]
  · have hhead := head_toDigits hn
    cases hds : Nat.toDigits 10 n with
    | nil => exact absurd hds Nat.toDigits_ne_nil
    | cons d ds =>
      rw [hds] at hdigit hvalue hhead hlimit
      obtain ⟨htake, hdrop⟩ := closes_digits (fun c hc => hdigit c (List.mem_cons_of_mem d hc)) h
      rw [List.cons_append, number, if_neg (hhead d rfl), if_pos (hdigit d List.mem_cons_self),
        htake, hdrop, finishNumber_closes negative hlimit h, hvalue]

theorem constant_none {c : Char} (cs : List Char)
    (h : c ≠ 'n' ∧ c ≠ 't' ∧ c ≠ 'f' ∧ c ≠ 'N' ∧ c ≠ 'I' ∧ c ≠ '-') :
    constant (c :: cs) = none := by
  obtain ⟨hn, ht, hf, hN, hI, hm⟩ := h
  simp [constant, constants, hn.symm, ht.symm, hf.symm, hN.symm, hI.symm, hm.symm]

theorem constant_minus {d : Char} (cs : List Char) (h : d ≠ 'I') :
    constant ('-' :: d :: cs) = none := by
  simp [constant, constants, h.symm]

theorem readsAs_int {n : ℤ} (hlimit : (Nat.toDigits 10 n.natAbs).length ≤ limit) :
    ReadsAs limit 0 (.int n) (intText n) where
  head := by
    rw [intText]
    by_cases hn : n < 0
    · rw [if_pos hn]
      exact ⟨'-', _, rfl, rfl, by decide⟩
    · rw [if_neg hn]
      obtain ⟨d, ds, hds, hd⟩ := toDigits_cons n.natAbs
      refine ⟨d, ds, hds, ?_, digit_ne hd (by decide)⟩
      have h1 := digit_ne hd (d := ' ') (by decide)
      have h2 := digit_ne hd (d := '\t') (by decide)
      have h3 := digit_ne hd (d := '\n') (by decide)
      have h4 := digit_ne hd (d := '\r') (by decide)
      simp [blank, h1, h2, h3, h4]
  reads n' room rest hfuel _ hrest := by
    obtain ⟨m, rfl⟩ : ∃ m, n' = m + 1 := ⟨n' - 1, by omega⟩
    obtain ⟨d, ds, hds, hd⟩ := toDigits_cons n.natAbs
    by_cases hn : n < 0
    · have hnumber := number_toDigits true hlimit hrest
      rw [hds, List.cons_append] at hnumber
      rw [intText, if_pos hn, hds, List.cons_append, List.cons_append,
        value_scalar _ _ _ (by decide) (by decide) (by decide),
        constant_minus _ (digit_ne hd (by decide))]
      simp only [↓reduceIte]
      rw [hnumber]
      simp only [↓reduceIte]
      rw [Int.ofNat_natAbs_of_nonpos hn.le, neg_neg]
    · have hnumber := number_toDigits false hlimit hrest
      rw [hds, List.cons_append] at hnumber
      have hne : ∀ {e : Char}, e.isDigit = false → d ≠ e := fun he => digit_ne hd he
      have hconstant : constant (d :: (ds ++ rest)) = none :=
        constant_none _ ⟨hne rfl, hne rfl, hne rfl, hne rfl, hne rfl, hne rfl⟩
      rw [intText, if_neg hn, hds, List.cons_append,
        value_scalar _ _ _ (hne rfl) (hne rfl) (hne rfl), hconstant]
      simp only [if_neg (show d ≠ '-' from hne rfl)]
      rw [hnumber]
      simp only [Bool.false_eq_true, ↓reduceIte]
      rw [Int.natAbs_of_nonneg (Int.not_lt.mp hn)]

theorem readsAs_null : ReadsAs limit 0 .null "null".toList where
  head := ⟨'n', _, rfl, rfl, by decide⟩
  reads n room rest hfuel _ _ := by
    obtain ⟨m, rfl⟩ : ∃ m, n = m + 1 := ⟨n - 1, by omega⟩
    change value limit (m + 1) room ('n' :: 'u' :: 'l' :: 'l' :: rest) = _
    rw [value_scalar _ _ _ (by decide) (by decide) (by decide)]
    rfl

theorem readsAs_bool (b : Bool) :
    ReadsAs limit 0 (.bool b) (if b then "true".toList else "false".toList) where
  head := by
    cases b with
    | false => exact ⟨'f', _, rfl, rfl, by decide⟩
    | true => exact ⟨'t', _, rfl, rfl, by decide⟩
  reads n room rest hfuel _ _ := by
    obtain ⟨m, rfl⟩ : ∃ m, n = m + 1 := ⟨n - 1, by omega⟩
    cases b with
    | false =>
      change value limit (m + 1) room ('f' :: 'a' :: 'l' :: 's' :: 'e' :: rest) = _
      rw [value_scalar _ _ _ (by decide) (by decide) (by decide)]
      rfl
    | true =>
      change value limit (m + 1) room ('t' :: 'r' :: 'u' :: 'e' :: rest) = _
      rw [value_scalar _ _ _ (by decide) (by decide) (by decide)]
      rfl

end Scalars

section Strings

variable {limit : ℕ}

/-- A text that can be encoded. -/
def Encodable (s : Str) : Prop := ∀ c ∈ s, c.isValidChar

def chars (s : Str) : List Char := s.map Char.ofNat

theorem chars_codes (cs : List Char) : chars (codes cs) = cs := by
  rw [chars, codes, List.map_map]
  exact (List.map_congr_left fun c _ => Char.ofNat_toNat c).trans (List.map_id cs)

theorem toNat_ofNat {c : ℕ} (h : c.isValidChar) : (Char.ofNat c).toNat = c := by
  rw [Char.ofNat, dif_pos h, Char.ofNatAux, Char.toNat]
  exact UInt32.toNat_ofNatLT

theorem codes_chars {s : Str} (h : Encodable s) : codes (chars s) = s := by
  rw [chars, codes, List.map_map]
  refine (List.map_congr_left fun c hc => ?_).trans (List.map_id s)
  rw [Function.comp_apply, toNat_ofNat (h c hc), id]

theorem points_map (cs : List Char) : JsonReader.points (codes cs) = codes cs := by
  induction cs with
  | nil => rfl
  | cons c cs ih =>
    have hhigh : Json.highSurrogate c.toNat = false := by
      have hn : c.toNat = c.val.toNat := rfl
      simp only [Json.highSurrogate, decide_eq_false_iff_not, hn]
      obtain h | h := c.valid
      · omega
      · omega
    rw [codes] at ih ⊢
    rw [List.map_cons, JsonReader.points.eq_def]
    simp only [hhigh, Bool.false_eq_true, ↓reduceIte, ih]

theorem encodable_append {s t : Str} : Encodable (s ++ t) ↔ Encodable s ∧ Encodable t := by
  simp only [Encodable, List.mem_append, or_imp, forall_and]

theorem encodable_codes (cs : List Char) : Encodable (codes cs) := by
  intro c hc
  obtain ⟨d, -, rfl⟩ := List.mem_map.mp hc
  exact d.valid

/-- What is written of a text can be encoded only if the text can. -/
theorem encodable_of_quote {s : Str} (h : Encodable (quote s)) : Encodable s := by
  intro c hc
  by_contra hvalid
  apply hvalid
  apply h
  refine List.mem_cons_of_mem _ (List.mem_append_left _ (List.mem_flatMap.mpr ⟨c, hc, ?_⟩))
  rw [escapePoint, if_neg hvalid]
  exact List.mem_singleton_self c

theorem chars_quote {s : Str} (h : Encodable s) :
    chars (quote s) = '"' :: ((chars s).flatMap Json.escape ++ ['"']) := by
  have hescape : (s.flatMap escapePoint).map Char.ofNat = (chars s).flatMap Json.escape := by
    rw [List.map_flatMap, chars, List.flatMap_map]
    apply List.flatMap_congr
    intro c hc
    rw [escapePoint, if_pos (h c hc)]
    exact chars_codes _
  rw [quote, chars, List.map_cons, List.map_append, hescape]
  rfl

/-- A string up to its closing quote. -/
theorem string_quote {s : Str} (h : Encodable s) (rest : List Char) :
    string ((chars s).flatMap Json.escape ++ '"' :: rest) = .ok (s, rest) := by
  rw [string, Json.units_flatMap]
  change Except.ok (JsonReader.points (codes (chars s)), rest) = _
  rw [points_map, codes_chars h]

theorem readsAs_str {s : Str} (h : Encodable s) : ReadsAs limit 0 (.str s) (chars (quote s)) where
  head := ⟨'"', _, chars_quote h, rfl, by decide⟩
  reads n room rest hfuel _ _ := by
    obtain ⟨m, rfl⟩ : ∃ m, n = m + 1 := ⟨n - 1, by omega⟩
    rw [chars_quote h, List.cons_append, List.append_assoc, value_string, List.singleton_append,
      string_quote h]
    rfl

end Strings

section Containers

variable {limit depth : ℕ}

theorem intercalate_pair (t u : List Char) (ts : List (List Char)) :
    List.intercalate [','] (t :: u :: ts) = t ++ ',' :: List.intercalate [','] (u :: ts) := by
  simp [List.intercalate]

/-- A first text that starts with no blank starts the whole list. -/
theorem skip_intercalate {text : List Char} (texts : List (List Char)) (rest : List Char)
    (h : ∃ c tail, text = c :: tail ∧ blank c = false) :
    skip (List.intercalate [','] (text :: texts) ++ rest) =
      List.intercalate [','] (text :: texts) ++ rest := by
  obtain ⟨c, tail, rfl, hblank⟩ := h
  cases texts with
  | nil =>
    rw [List.intercalate_singleton]
    exact skip_of_head _ hblank
  | cons u us =>
    rw [intercalate_pair, List.append_assoc]
    exact skip_of_head _ hblank

theorem head_intercalate {text : List Char} (texts : List (List Char)) (rest : List Char) {c : Char}
    (h : ∃ d tail, text = d :: tail ∧ d ≠ c) :
    (List.intercalate [','] (text :: texts) ++ rest).head? ≠ some c := by
  obtain ⟨d, tail, rfl, hne⟩ := h
  cases texts with
  | nil => simpa [List.intercalate_singleton] using hne
  | cons u us => simpa [intercalate_pair] using hne

theorem ReadsAs.starts {v : Value} {cs : List Char} (h : ReadsAs limit depth v cs) :
    ∃ c tail, cs = c :: tail ∧ blank c = false := by
  obtain ⟨c, tail, hcs, hblank, -⟩ := h.head
  exact ⟨c, tail, hcs, hblank⟩

theorem ReadsAs.skip_text {v : Value} {cs : List Char} (h : ReadsAs limit depth v cs)
    (rest : List Char) : skip (cs ++ rest) = cs ++ rest := by
  obtain ⟨c, tail, rfl, hblank, -⟩ := h.head
  exact skip_of_head _ hblank

/-- The items of an array, up to its bracket. -/
theorem items_read {vs : List Value} {texts : List (List Char)}
    (h : List.Forall₂ (ReadsAs limit depth) vs texts) (hne : texts ≠ []) {n room : ℕ}
    (rest : List Char) (hn : 2 * (List.intercalate [','] texts).length + 1 < n)
    (hroom : depth ≤ room) :
    items limit n room (List.intercalate [','] texts ++ ']' :: rest) = .ok (vs, rest) := by
  induction h generalizing n with
  | nil => exact absurd rfl hne
  | @cons v text vs texts hv hvs ih =>
    obtain ⟨m, rfl⟩ : ∃ m, n = m + 1 := ⟨n - 1, by omega⟩
    cases hvs with
    | nil =>
      rw [List.intercalate_singleton] at hn ⊢
      have hclose : Closes (']' :: rest) := .inr ⟨']', rest, rfl, .inr (.inl rfl)⟩
      rw [items, hv.reads m room _ (by omega) hroom hclose]
      rfl
    | @cons w text' vs' texts' hw hws =>
      rw [intercalate_pair] at hn ⊢
      rw [List.length_append, List.length_cons] at hn
      have hclose : Closes (',' :: (List.intercalate [','] (text' :: texts') ++ ']' :: rest)) :=
        .inr ⟨',', _, rfl, .inl rfl⟩
      have hskip := skip_intercalate texts' (']' :: rest) hw.starts
      have hmore := ih (List.cons_ne_nil _ _) (n := m) (by omega)
      rw [List.append_assoc, List.cons_append, items, hv.reads m room _ (by omega) hroom hclose]
      simp only [Except.bind]
      rw [skip_of_head _ (c := ',') rfl, List.head?_cons, if_neg (by decide), if_pos rfl,
        List.tail_cons, hskip, hmore]
      rfl

theorem readsAs_list {vs : List Value} {texts : List (List Char)}
    (h : List.Forall₂ (ReadsAs limit depth) vs texts) :
    ReadsAs limit (depth + 1) (.list vs) ('[' :: (List.intercalate [','] texts ++ [']'])) where
  head := ⟨'[', _, rfl, rfl, by decide⟩
  reads n room rest hn hroom _ := by
    obtain ⟨m, rfl⟩ : ∃ m, n = m + 1 := ⟨n - 1, by omega⟩
    obtain ⟨room, rfl⟩ : ∃ r, room = r + 1 := ⟨room - 1, by omega⟩
    rw [List.length_cons, List.length_append, List.length_singleton] at hn
    rw [List.cons_append, List.append_assoc, List.singleton_append, value_array]
    cases h with
    | nil => rfl
    | @cons v text vs texts hv hvs =>
      obtain ⟨c, tail, htext, -, hc⟩ := hv.head
      rw [skip_intercalate texts (']' :: rest) hv.starts,
        if_neg (head_intercalate texts (']' :: rest) ⟨c, tail, htext, hc⟩),
        items_read (List.Forall₂.cons hv hvs) (List.cons_ne_nil _ _) rest (by omega) (by omega)]
      rfl

/-- A key and a text that reads as its value. -/
def MemberReads (limit depth : ℕ) (f : Str × Value) (part : List Char) : Prop :=
  ∃ text, part = chars (quote f.1) ++ ':' :: text ∧ Encodable f.1 ∧ ReadsAs limit depth f.2 text

theorem MemberReads.starts {f : Str × Value} {part : List Char}
    (h : MemberReads limit depth f part) : ∃ tail, part = '"' :: tail := by
  obtain ⟨text, rfl, hkey, -⟩ := h
  rw [chars_quote hkey]
  exact ⟨_, rfl⟩

/-- One member, with what follows its value. -/
theorem members_member {f : Str × Value} {part : List Char} (h : MemberReads limit depth f part)
    {n room : ℕ} {rest : List Char} (hn : 2 * part.length < n) (hroom : depth ≤ room)
    (hrest : Closes rest) :
    members limit (n + 1) room (part ++ rest) =
      if (skip rest).head? = some '}' then .ok ([f], (skip rest).tail)
      else if (skip rest).head? = some ',' then
        (members limit n room (skip (skip rest).tail)).map fun p => (f :: p.1, p.2)
      else .error .decode := by
  obtain ⟨text, rfl, hkey, hvalue⟩ := h
  rw [List.length_append, List.length_cons] at hn
  rw [chars_quote hkey]
  simp only [List.cons_append, List.append_assoc, List.nil_append]
  rw [members.eq_def]
  simp only [↓reduceIte]
  rw [string_quote hkey]
  simp only [Except.bind]
  rw [skip_of_head _ (c := ':') rfl, List.head?_cons, if_pos rfl, List.tail_cons,
    hvalue.skip_text, hvalue.reads n room rest (by omega) hroom hrest]

theorem members_read {fs : Fields} {parts : List (List Char)}
    (h : List.Forall₂ (MemberReads limit depth) fs parts) (hne : parts ≠ []) {n room : ℕ}
    (rest : List Char) (hn : 2 * (List.intercalate [','] parts).length + 1 < n)
    (hroom : depth ≤ room) :
    members limit n room (List.intercalate [','] parts ++ '}' :: rest) = .ok (fs, rest) := by
  induction h generalizing n with
  | nil => exact absurd rfl hne
  | @cons f part fs parts hf hfs ih =>
    obtain ⟨m, rfl⟩ : ∃ m, n = m + 1 := ⟨n - 1, by omega⟩
    cases hfs with
    | nil =>
      rw [List.intercalate_singleton] at hn ⊢
      have hclose : Closes ('}' :: rest) := .inr ⟨'}', rest, rfl, .inr (.inr rfl)⟩
      rw [members_member hf (by omega) hroom hclose, skip_of_head _ rfl]
      rfl
    | @cons g part' fs' parts' hg hgs =>
      rw [intercalate_pair] at hn ⊢
      rw [List.length_append, List.length_cons] at hn
      have hclose : Closes (',' :: (List.intercalate [','] (part' :: parts') ++ '}' :: rest)) :=
        .inr ⟨',', _, rfl, .inl rfl⟩
      obtain ⟨tail, htail⟩ := hg.starts
      have hskip := skip_intercalate parts' ('}' :: rest) ⟨'"', tail, htail, rfl⟩
      have hmore := ih (List.cons_ne_nil _ _) (n := m) (by omega)
      rw [List.append_assoc, List.cons_append, members_member hf (by omega) hroom hclose,
        skip_of_head _ (c := ',') rfl, List.head?_cons, if_neg (by decide), if_pos rfl,
        List.tail_cons, hskip, hmore]
      rfl

theorem readsAs_dict {fs : Fields} {parts : List (List Char)}
    (h : List.Forall₂ (MemberReads limit depth) fs parts) (hkeys : (fs.map Prod.fst).Nodup) :
    ReadsAs limit (depth + 1) (.dict fs) ('{' :: (List.intercalate [','] parts ++ ['}'])) where
  head := ⟨'{', _, rfl, rfl, by decide⟩
  reads n room rest hn hroom _ := by
    obtain ⟨m, rfl⟩ : ∃ m, n = m + 1 := ⟨n - 1, by omega⟩
    obtain ⟨room, rfl⟩ : ∃ r, room = r + 1 := ⟨room - 1, by omega⟩
    rw [List.length_cons, List.length_append, List.length_singleton] at hn
    rw [List.cons_append, List.append_assoc, List.singleton_append, value_object]
    cases h with
    | nil => rfl
    | @cons f part fs parts hf hfs =>
      obtain ⟨tail, htail⟩ := hf.starts
      rw [skip_intercalate parts ('}' :: rest) ⟨'"', tail, htail, rfl⟩,
        if_neg (head_intercalate parts ('}' :: rest) ⟨'"', tail, htail, by decide⟩),
        members_read (List.Forall₂.cons hf hfs) (List.cons_ne_nil _ _) rest (by omega) (by omega)]
      simp only [Except.map]
      rw [merge_distinct hkeys]

end Containers

section Writing

variable {repr : FloatRepr} {limit : ℕ}

variable (repr limit) in
/-- A finite double reads as what its text says. -/
def FloatReads : Value → Prop
  | .float (.finite q) => ReadsAs limit 0 (.float (.finite q)) (repr q)
  | _ => True

theorem ReadsAs.mono {depth depth' : ℕ} {v : Value} {cs : List Char} (h : ReadsAs limit depth v cs)
    (hle : depth ≤ depth') : ReadsAs limit depth' v cs where
  head := h.head
  reads n room rest hn hroom := h.reads n room rest hn (hle.trans hroom)

theorem encodable_commas {texts : List Str} (h : Encodable (commas texts)) {t : Str}
    (ht : t ∈ texts) : Encodable t := by
  induction texts with
  | nil => cases ht
  | cons u us ih =>
    cases us with
    | nil =>
      rw [commas, List.intercalate_singleton] at h
      rwa [List.mem_singleton.mp ht]
    | cons w ws =>
      rw [commas, List.intercalate_cons_cons, encodable_append, encodable_append] at h
      obtain rfl | ht := List.mem_cons.mp ht
      · exact h.1.1
      · exact ih h.2 ht

theorem chars_commas (texts : List Str) :
    chars (commas texts) = List.intercalate [','] (texts.map chars) := by
  induction texts with
  | nil => rfl
  | cons u us ih =>
    cases us with
    | nil => rw [commas, List.intercalate_singleton, List.map_singleton, List.intercalate_singleton]
    | cons w ws =>
      rw [commas] at ih ⊢
      rw [List.intercalate_cons_cons, List.map_cons, List.map_cons, List.intercalate_cons_cons,
        chars, List.map_append, List.map_append, ← List.map_cons, ← ih]
      rfl

theorem forall₂_of_mem {α β : Type} {R S : α → β → Prop} {xs : List α} {ys : List β}
    (h : List.Forall₂ R xs ys) (hRS : ∀ x ∈ xs, ∀ y ∈ ys, R x y → S x y) :
    List.Forall₂ S xs ys := by
  induction h with
  | nil => exact List.Forall₂.nil
  | cons hxy _ ih =>
    refine List.Forall₂.cons (hRS _ List.mem_cons_self _ List.mem_cons_self hxy) (ih ?_)
    intro x hx y hy
    exact hRS x (List.mem_cons_of_mem _ hx) y (List.mem_cons_of_mem _ hy)

/-- What `json.dumps` writes of a value reads as the value with its keys in order. -/
theorem readsAs_write (v : Value) (hkeys : Everywhere Distinct v)
    (hfloats : Everywhere (FloatReads repr limit) v) {room : ℕ} {s : Str}
    (hw : write repr limit room v = .ok s) (hs : Encodable s) :
    ReadsAs limit (nesting v) (sortKeys v) (chars s) := by
  induction v using value_induction generalizing room s with
  | null =>
    obtain rfl := Except.ok.inj hw
    rw [chars_codes]
    exact readsAs_null
  | bool b =>
    obtain rfl := Except.ok.inj hw
    rw [chars_codes]
    exact readsAs_bool b
  | int n =>
    rw [write] at hw
    by_cases hlimit : limit < (Nat.toDigits 10 n.natAbs).length
    · rw [if_pos hlimit] at hw
      cases hw
    · rw [if_neg hlimit] at hw
      obtain rfl := Except.ok.inj hw
      rw [chars_codes]
      exact readsAs_int (Nat.not_lt.mp hlimit)
  | float x =>
    cases x with
    | finite q =>
      obtain rfl := Except.ok.inj hw
      rw [chars_codes]
      exact hfloats
    | infinite negative => cases hw
    | nan => cases hw
  | str s' =>
    obtain rfl := Except.ok.inj hw
    exact readsAs_str (encodable_of_quote hs)
  | list vs ih =>
    cases room with
    | zero => cases hw
    | succ room =>
      rw [write, writeAll_eq, arrayText] at hw
      obtain ⟨texts, htexts, rfl⟩ := map_ok hw
      have hpairs := List.forall₂_map_left_iff.mp (mapM_pairs htexts)
      have hinner : Encodable (commas texts) :=
        fun c hc => hs c (List.mem_cons_of_mem _ (List.mem_append_left _ hc))
      have hreads : List.Forall₂ (ReadsAs limit (nestingAll vs)) (vs.map sortKeys)
          (texts.map chars) := by
        rw [List.forall₂_map_left_iff, List.forall₂_map_right_iff]
        refine forall₂_of_mem hpairs fun v hv text htext hwrite => ?_
        exact (ih v hv (everywhereAll_iff.mp hkeys.2 v hv) (everywhereAll_iff.mp hfloats.2 v hv)
          hwrite (encodable_commas hinner htext)).mono (nesting_le_all hv)
      rw [nesting, sortKeys, sortKeysAll_eq]
      have hchars : chars (91 :: (commas texts ++ [93])) =
          '[' :: (List.intercalate [','] (texts.map chars) ++ [']']) := by
        rw [← chars_commas, chars, List.map_cons, List.map_append]
        rfl
      rw [hchars]
      exact readsAs_list hreads
  | dict fs ih =>
    cases room with
    | zero => cases hw
    | succ room =>
      rw [write, writeFields_eq, objectText, insertionSort_map (write repr limit room)] at hw
      obtain ⟨texts, htexts, rfl⟩ := map_ok hw
      have hpairs := List.forall₂_map_left_iff.mp (mapM_pairs htexts)
      have hinner : Encodable (commas texts) :=
        fun c hc => hs c (List.mem_cons_of_mem _ (List.mem_append_left _ hc))
      have hreads : List.Forall₂ (MemberReads limit (nestingFields fs))
          ((fs.insertionSort KeyLe).map fun f => (f.1, sortKeys f.2)) (texts.map chars) := by
        rw [List.forall₂_map_left_iff, List.forall₂_map_right_iff]
        refine forall₂_of_mem hpairs fun f hf part hpart hmember => ?_
        have hmem : f ∈ fs := (List.mem_insertionSort KeyLe).mp hf
        obtain ⟨text, hwrite, rfl⟩ := map_ok hmember
        have hpart' := encodable_append.mp (encodable_commas hinner hpart)
        have htext : Encodable text := fun c hc => hpart'.2 c (List.mem_cons_of_mem _ hc)
        refine ⟨chars text, ?_, encodable_of_quote hpart'.1, ?_⟩
        · rw [chars, List.map_append, List.map_cons]
          rfl
        · exact (ih f hmem (everywhereFields_iff.mp hkeys.2 f hmem)
            (everywhereFields_iff.mp hfloats.2 f hmem) hwrite htext).mono (nesting_le_fields hmem)
      have hdistinct : (((fs.insertionSort KeyLe).map fun f => (f.1, sortKeys f.2)).map
          Prod.fst).Nodup := by
        rw [List.map_map]
        exact ((List.perm_insertionSort KeyLe fs).map Prod.fst).nodup_iff.mpr hkeys.1
      have hchars : chars (123 :: (commas texts ++ [125])) =
          '{' :: (List.intercalate [','] (texts.map chars) ++ ['}']) := by
        rw [← chars_commas, chars, List.map_cons, List.map_append]
        rfl
      rw [nesting, sortKeys, sortKeysFields_eq, insertionSort_map sortKeys, hchars]
      exact readsAs_dict hreads hdistinct

/-- What was written is loaded. -/
theorem loads_write {v : Value} (hkeys : Everywhere Distinct v)
    (hfloats : Everywhere (FloatReads repr limit) v) {room : ℕ} {s : Str} {cs : List Char}
    (hw : write repr limit room v = .ok s) (hs : encode s = .ok cs) {limits : Limits}
    (hdigits : limits.digits = limit) (hnesting : nesting v ≤ limits.nesting) :
    loads limits cs = .ok (sortKeys v) := by
  rw [encode] at hs
  by_cases hall : s.all fun c => decide c.isValidChar
  · rw [if_pos hall] at hs
    have hencodable : Encodable s := fun c hc => of_decide_eq_true (List.all_eq_true.mp hall c hc)
    have hreads := readsAs_write v hkeys hfloats hw hencodable
    have hvalue := hreads.reads (2 * (chars s).length + 1) limits.nesting [] (Nat.lt_succ_self _)
      hnesting (.inl rfl)
    have hskip := hreads.skip_text []
    rw [List.append_nil] at hvalue hskip
    rw [← Except.ok.inj hs, loads, hdigits]
    change (value limit (2 * (chars s).length + 1) limits.nesting (skip (chars s))).bind _ = _
    rw [hskip, hvalue]
    rfl
  · rw [if_neg hall] at hs
    cases hs

end Writing

end TravelAgent.JsonRoundTrip

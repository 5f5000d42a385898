import Mathlib
import TravelAgent.JsonReader

namespace TravelAgent.JsonReader

open TravelAgent.Json (blank digitsAfter escaped exponent fraction hex4 skip units)
open TravelAgent.AmapValues (Fields Value)
open TravelAgent.PyFloats (Str)
open TravelAgent.Texts (digit_ne)

/-- A character that no number goes on with. -/
def solid (c : Char) : Bool := !c.isDigit && c != '.' && c != 'e' && c != 'E'

/-- A rest in front of which a number has ended. -/
def Closed (rest : List Char) : Prop := rest.head?.any solid = true

section Lexemes

variable {cs rest : List Char} (extra : List Char)

theorem Closed.ne_nil (h : Closed rest) : rest ≠ [] := by
  rintro rfl
  cases h

theorem Closed.append (h : Closed rest) : Closed (rest ++ extra) := by
  cases rest with
  | nil => cases h
  | cons c rest => exact h

theorem skip_append (h : skip cs ≠ []) : skip (cs ++ extra) = skip cs ++ extra := by
  induction cs with
  | nil => exact absurd rfl h
  | cons c cs ih =>
    rw [List.cons_append, skip, skip, List.dropWhile_cons, List.dropWhile_cons]
    rw [skip, List.dropWhile_cons] at h
    split_ifs with hc
    · rw [if_pos hc] at h
      exact ih h
    · rfl

theorem head_append {c : Char} (h : cs.head? = some c) : (cs ++ extra).head? = some c := by
  rw [List.head?_append, h]
  rfl

theorem tail_append {c : Char} (h : cs.head? = some c) : (cs ++ extra).tail = cs.tail ++ extra := by
  cases cs with
  | nil => cases h
  | cons d cs => rfl

theorem ne_nil_of_head {c : Char} (h : cs.head? = some c) : cs ≠ [] := by
  rintro rfl
  cases h

/-- What a bracket or a comma stands behind, blanks apart. -/
theorem closed_of_skip {c : Char} (h : (skip cs).head? = some c) (hc : solid c = true) :
    Closed cs := by
  cases cs with
  | nil => cases h
  | cons d cs =>
    by_cases hd : blank d = true
    · have hblank : d = ' ' ∨ d = '\t' ∨ d = '\n' ∨ d = '\r' := by
        simpa [blank] using hd
      obtain rfl | rfl | rfl | rfl := hblank <;> rfl
    · rw [skip, List.dropWhile_cons_of_neg hd, List.head?_cons] at h
      obtain rfl := Option.some.inj h
      exact hc

theorem takeWhile_digits_append (h : cs.dropWhile Char.isDigit ≠ []) :
    (cs ++ extra).takeWhile Char.isDigit = cs.takeWhile Char.isDigit ∧
      (cs ++ extra).dropWhile Char.isDigit = cs.dropWhile Char.isDigit ++ extra := by
  induction cs with
  | nil => exact absurd rfl h
  | cons c cs ih =>
    rw [List.cons_append, List.takeWhile_cons, List.takeWhile_cons, List.dropWhile_cons,
      List.dropWhile_cons]
    rw [List.dropWhile_cons] at h
    by_cases hc : c.isDigit = true
    · rw [if_pos hc] at h
      rw [if_pos hc, if_pos hc, if_pos hc, if_pos hc, (ih h).1, (ih h).2]
      exact ⟨rfl, rfl⟩
    · rw [if_neg hc, if_neg hc, if_neg hc, if_neg hc]
      exact ⟨rfl, rfl⟩

theorem digitsAfter_append {lead : List Char} (hlead : lead.head?.any solid = false)
    (hne : lead ≠ []) (h : Closed (digitsAfter lead cs).2) :
    digitsAfter lead (cs ++ extra) =
      ((digitsAfter lead cs).1, (digitsAfter lead cs).2 ++ extra) := by
  obtain ⟨c, lead, rfl⟩ := List.exists_cons_of_ne_nil hne
  rw [digitsAfter] at h
  by_cases hnone : (cs.takeWhile Char.isDigit).isEmpty = true
  · simp only [if_pos hnone] at h
    cases hlead.symm.trans h
  · simp only [if_neg hnone] at h
    obtain ⟨htake, hdrop⟩ := takeWhile_digits_append extra h.ne_nil
    rw [digitsAfter, digitsAfter, htake, hdrop]
    simp only [if_neg hnone]

theorem exponent_append (h : Closed (exponent cs).2) :
    exponent (cs ++ extra) = ((exponent cs).1, (exponent cs).2 ++ extra) := by
  cases cs with
  | nil => cases h
  | cons e cs =>
    by_cases he : e = 'e' ∨ e = 'E'
    · have hlead (ds : List Char) : (e :: ds).head?.any solid = false := by
        obtain rfl | rfl := he <;> rfl
      cases cs with
      | nil =>
        rw [exponent, if_pos he] at h
        obtain rfl | rfl := he <;> cases h
      | cons s cs =>
        simp only [exponent, if_pos he, List.cons_append] at h ⊢
        split_ifs with hs
        · rw [if_pos hs] at h
          exact digitsAfter_append extra (hlead [s]) (List.cons_ne_nil _ _) h
        · rw [if_neg hs] at h
          exact digitsAfter_append extra (hlead []) (List.cons_ne_nil _ _) h
    · have hplain (ds : List Char) : exponent (e :: ds) = ([], e :: ds) := by
        simp only [exponent, if_neg he]
      rw [List.cons_append, hplain, hplain]
      rfl

theorem fraction_append (hne : (fraction cs).2 ≠ []) (hdot : (fraction cs).2.head? ≠ some '.') :
    fraction (cs ++ extra) = ((fraction cs).1, (fraction cs).2 ++ extra) := by
  cases cs with
  | nil => exact absurd rfl hne
  | cons c cs =>
    by_cases hc : c = '.'
    · subst hc
      rw [fraction, digitsAfter] at hne hdot
      rw [List.cons_append, fraction, fraction, digitsAfter, digitsAfter]
      by_cases hnone : (cs.takeWhile Char.isDigit).isEmpty = true
      · simp only [if_pos hnone] at hdot
        exact absurd rfl hdot
      · simp only [if_neg hnone] at hne
        obtain ⟨htake, hdrop⟩ := takeWhile_digits_append extra hne
        rw [htake, hdrop]
        simp only [if_neg hnone]
    · have hplain (ds : List Char) : fraction (c :: ds) = ([], c :: ds) := by
        unfold fraction
        split
        · rename_i heq
          exact absurd (List.cons.inj heq).1 hc
        · rfl
      rw [List.cons_append, hplain, hplain]
      rfl

theorem fraction_closed (h : Closed cs) : fraction cs = ([], cs) := by
  unfold fraction
  split
  · cases h
  · rfl

theorem exponent_closed (h : Closed cs) : exponent cs = ([], cs) := by
  cases cs with
  | nil => cases h
  | cons e cs =>
    have he : ¬(e = 'e' ∨ e = 'E') := by
      rintro (rfl | rfl) <;> cases h
    simp only [exponent, if_neg he]

theorem finishNumber_append {limit : ℕ} {negative : Bool} {digits : List Char} {v : Value}
    (h : finishNumber limit negative digits cs = .ok (v, rest)) (hclosed : Closed rest) :
    finishNumber limit negative digits (cs ++ extra) = .ok (v, rest ++ extra) := by
  rw [finishNumber] at h ⊢
  by_cases hint : ((fraction cs).1.isEmpty && (exponent (fraction cs).2).1.isEmpty) = true
  · simp only [if_pos hint] at h
    by_cases hlimit : limit < digits.length
    · rw [if_pos hlimit] at h
      cases h
    · rw [if_neg hlimit] at h
      obtain ⟨rfl, rfl⟩ := Prod.mk.inj (Except.ok.inj h)
      have hlong := hclosed.append extra
      simp only [fraction_closed hlong, exponent_closed hlong, if_neg hlimit]
      rfl
  · simp only [if_neg hint] at h
    obtain ⟨rfl, rfl⟩ := Prod.mk.inj (Except.ok.inj h)
    have hne : (fraction cs).2 ≠ [] := by
      intro hnil
      rw [hnil] at hclosed
      cases hclosed
    have hdot : (fraction cs).2.head? ≠ some '.' := by
      intro hhead
      obtain ⟨ds, hds⟩ := List.head?_eq_some_iff.mp hhead
      rw [hds] at hclosed
      cases hclosed
    simp only [fraction_append extra hne hdot, exponent_append extra hclosed, if_neg hint]

theorem finishNumber_ne_nil {limit : ℕ} {negative : Bool} {digits : List Char} {v : Value}
    (h : finishNumber limit negative digits [] = .ok (v, rest)) : rest = [] := by
  rw [finishNumber] at h
  simp only [fraction, exponent, List.isEmpty_nil, Bool.and_self, if_true] at h
  by_cases hlimit : limit < digits.length
  · rw [if_pos hlimit] at h
    cases h
  · rw [if_neg hlimit] at h
    exact (Prod.mk.inj (Except.ok.inj h)).2.symm

theorem number_append {limit : ℕ} {negative : Bool} {v : Value}
    (h : number limit negative cs = .ok (v, rest)) (hclosed : Closed rest) :
    number limit negative (cs ++ extra) = .ok (v, rest ++ extra) := by
  cases cs with
  | nil => cases h
  | cons c cs =>
    rw [List.cons_append, number]
    rw [number] at h
    split_ifs with hzero hdigit
    · rw [if_pos hzero] at h
      exact finishNumber_append extra h hclosed
    · rw [if_neg hzero, if_pos hdigit] at h
      have hne : cs.dropWhile Char.isDigit ≠ [] := by
        intro hnil
        rw [hnil] at h
        exact hclosed.ne_nil (finishNumber_ne_nil h)
      obtain ⟨htake, hdrop⟩ := takeWhile_digits_append extra hne
      rw [htake, hdrop]
      exact finishNumber_append extra h hclosed
    · rw [if_neg hzero, if_neg hdigit] at h
      cases h

theorem units_append {p : List ℕ × List Char} (h : units cs = some p) :
    units (cs ++ extra) = some (p.1, p.2 ++ extra) := by
  induction cs using Json.units.induct generalizing p with
  | case1 => cases h
  | case2 cs =>
    rw [Json.units.eq_def] at h ⊢
    simp only [List.cons_append, ↓reduceIte] at h ⊢
    obtain rfl := Option.some.inj h
    rfl
  | case3 x y z w rest hq ih =>
    rw [List.cons_append, List.cons_append, List.cons_append, List.cons_append, List.cons_append,
      List.cons_append, Json.units, if_neg hq, if_pos rfl]
    rw [Json.units, if_neg hq, if_pos rfl] at h
    obtain ⟨n, hn, h⟩ := Option.bind_eq_some_iff.mp h
    obtain ⟨q, hrest, rfl⟩ := Option.map_eq_some_iff.mp h
    rw [hn, Option.bind_some, ih hrest]
    rfl
  | case4 e rest hu hq ih =>
    rw [Json.units, if_neg hq, if_pos rfl] at h
    · obtain ⟨n, hn, h⟩ := Option.bind_eq_some_iff.mp h
      obtain ⟨q, hrest, rfl⟩ := Option.map_eq_some_iff.mp h
      rw [List.cons_append, List.cons_append, Json.units, if_neg hq, if_pos rfl, hn,
        Option.bind_some, ih hrest]
      · rfl
      · rintro x y z w rest' rfl -
        cases hn
    · exact hu
  | case5 hq => cases h
  | case6 c cs hq hb hlow =>
    rw [Json.units.eq_def] at h
    simp only [if_neg hq, if_neg hb, if_pos hlow] at h
    cases h
  | case7 c cs hq hb hlow ih =>
    rw [Json.units.eq_def] at h ⊢
    simp only [List.cons_append, if_neg hq, if_neg hb, if_neg hlow] at h ⊢
    obtain ⟨q, hrest, rfl⟩ := Option.map_eq_some_iff.mp h
    rw [ih hrest]
    rfl

theorem string_append {p : Str × List Char} (h : string cs = .ok p) :
    string (cs ++ extra) = .ok (p.1, p.2 ++ extra) := by
  rw [string] at h ⊢
  cases hunits : units cs with
  | none =>
    rw [hunits] at h
    cases h
  | some q =>
    rw [hunits] at h
    obtain rfl := Except.ok.inj h
    rw [units_append extra hunits]

theorem findSome_congr {α β : Type} {f g : α → Option β} {l : List α}
    (h : ∀ a ∈ l, f a = g a) : l.findSome? f = l.findSome? g := by
  induction l with
  | nil => rfl
  | cons a l ih =>
    obtain ⟨ha, hl⟩ := List.forall_mem_cons.mp h
    rw [List.findSome?_cons, List.findSome?_cons, ha, ih hl]

theorem constants_apart : ∀ j ∈ constants, ∀ k ∈ constants,
    j.1.toList <+: k.1.toList → j.1 = k.1 := by
  decide

/-- No constant is the beginning of another. -/
theorem constant_append {p : Value × List Char} (h : constant cs = some p) :
    constant (cs ++ extra) = some (p.1, p.2 ++ extra) := by
  obtain ⟨k, hk, hp⟩ := List.exists_of_findSome?_eq_some h
  have hfound : k.1.toList <+: cs := by
    by_contra hnot
    rw [if_neg fun hpre => hnot (List.isPrefixOf_iff_prefix.mp hpre)] at hp
    cases hp
  have hsame : ∀ j ∈ constants, (if j.1.toList.isPrefixOf (cs ++ extra) = true then
        some (j.2, (cs ++ extra).drop j.1.length) else none) =
      (if j.1.toList.isPrefixOf cs = true then some (j.2, cs.drop j.1.length) else none).map
        fun p => (p.1, p.2 ++ extra) := by
    intro j hj
    by_cases hjcs : j.1.toList <+: cs
    · have hle := hjcs.length_le
      rw [String.length_toList] at hle
      rw [if_pos (List.isPrefixOf_iff_prefix.mpr hjcs),
        if_pos (List.isPrefixOf_iff_prefix.mpr (hjcs.trans (List.prefix_append cs extra))),
        List.drop_append_of_le_length hle]
      rfl
    · rw [if_neg fun hpre => hjcs (List.isPrefixOf_iff_prefix.mp hpre), Option.map_none, if_neg]
      intro hpre
      have hlong := List.isPrefixOf_iff_prefix.mp hpre
      have hkeq : j.1 = k.1 := by
        obtain hjk | hkj := List.prefix_or_prefix_of_prefix hlong
          (hfound.trans (List.prefix_append cs extra))
        · exact constants_apart j hj k hk hjk
        · exact (constants_apart k hk j hj hkj).symm
      exact hjcs (hkeq ▸ hfound)
  have hmap : constant (cs ++ extra) = (constant cs).map fun p => (p.1, p.2 ++ extra) := by
    rw [constant, constant, List.map_findSome?]
    exact findSome_congr hsame
  rw [hmap, h]
  rfl

theorem constant_digit {c : Char} (h : c.isDigit = true) (cs : List Char) :
    constant (c :: cs) = none := by
  have hn := digit_ne h (d := 'n') rfl
  have ht := digit_ne h (d := 't') rfl
  have hf := digit_ne h (d := 'f') rfl
  have hN := digit_ne h (d := 'N') rfl
  have hI := digit_ne h (d := 'I') rfl
  have hm := digit_ne h (d := '-') rfl
  simp [constant, constants, hn.symm, ht.symm, hf.symm, hN.symm, hI.symm, hm.symm]

theorem constant_minus {c : Char} (h : c.isDigit = true) (cs : List Char) :
    constant ('-' :: c :: cs) = none := by
  have hI := digit_ne h (d := 'I') rfl
  simp [constant, constants, hI.symm]

theorem digit_of_number {limit : ℕ} {negative : Bool} {p : Value × List Char}
    (h : number limit negative cs = .ok p) : ∃ c ds, cs = c :: ds ∧ c.isDigit = true := by
  cases cs with
  | nil => cases h
  | cons c cs =>
    rw [number] at h
    by_cases hzero : c = '0'
    · exact ⟨c, cs, rfl, hzero ▸ rfl⟩
    · rw [if_neg hzero] at h
      by_cases hdigit : c.isDigit = true
      · exact ⟨c, cs, rfl, hdigit⟩
      · rw [if_neg hdigit] at h
        cases h

end Lexemes

section Extension

variable {limit n : ℕ} {extra : List Char}

theorem map_ok {α β : Type} {x : Except LoadError α} {f : α → β} {b : β} (h : x.map f = .ok b) :
    ∃ a, x = .ok a ∧ f a = b := by
  cases x with
  | error e => cases h
  | ok a => exact ⟨a, rfl, Except.ok.inj h⟩

theorem bind_ok {α β : Type} {x : Except LoadError α} {f : α → Except LoadError β} {b : β}
    (h : x.bind f = .ok b) : ∃ a, x = .ok a ∧ f a = .ok b := by
  cases x with
  | error e => cases h
  | ok a => exact ⟨a, rfl, h⟩

/-- What is read of a text is read of a longer one, if it did not end with the text. -/
structure Extends (limit n : ℕ) (extra : List Char) : Prop where
  value : ∀ m, n ≤ m → ∀ room cs v rest, JsonReader.value limit n room cs = .ok (v, rest) →
    Closed rest ∨ cs.head? = some '{' →
    JsonReader.value limit m room (cs ++ extra) = .ok (v, rest ++ extra)
  members : ∀ m, n ≤ m → ∀ room cs fs rest, JsonReader.members limit n room cs = .ok (fs, rest) →
    JsonReader.members limit m room (cs ++ extra) = .ok (fs, rest ++ extra)
  items : ∀ m, n ≤ m → ∀ room cs vs rest, JsonReader.items limit n room cs = .ok (vs, rest) →
    JsonReader.items limit m room (cs ++ extra) = .ok (vs, rest ++ extra)

theorem members_ne_nil {room : ℕ} {cs : List Char} {p : Fields × List Char}
    (h : members limit n room cs = .ok p) : cs ≠ [] := by
  rintro rfl
  cases n <;> cases h

theorem value_ne_nil {room : ℕ} {cs : List Char} {p : Value × List Char}
    (h : value limit n room cs = .ok p) : cs ≠ [] := by
  rintro rfl
  cases n <;> cases h

theorem items_ne_nil {room : ℕ} {cs : List Char} {p : List Value × List Char}
    (h : items limit n room cs = .ok p) : cs ≠ [] := by
  cases n with
  | zero => cases h
  | succ n =>
    rw [items] at h
    obtain ⟨v, hv, -⟩ := bind_ok h
    exact value_ne_nil hv

theorem Extends.value_succ (ih : Extends limit n extra) (m : ℕ) (hm : n ≤ m) (room : ℕ)
    (cs : List Char) (v : Value) (rest : List Char)
    (h : JsonReader.value limit (n + 1) room cs = .ok (v, rest))
    (hclosed : Closed rest ∨ cs.head? = some '{') :
    JsonReader.value limit (m + 1) room (cs ++ extra) = .ok (v, rest ++ extra) := by
  cases cs with
  | nil => cases h
  | cons c cs =>
    rw [JsonReader.value.eq_def] at h ⊢
    simp only [List.cons_append] at h ⊢
    by_cases hquote : c = '"'
    · rw [if_pos hquote] at h ⊢
      obtain ⟨p, hp, heq⟩ := map_ok h
      obtain ⟨rfl, rfl⟩ := Prod.mk.inj heq
      rw [string_append extra hp]
      rfl
    rw [if_neg hquote] at h ⊢
    by_cases hbrace : c = '{'
    · rw [if_pos hbrace] at h ⊢
      cases room with
      | zero => cases h
      | succ room =>
        dsimp only at h ⊢
        by_cases hempty : (skip cs).head? = some '}'
        · rw [if_pos hempty] at h
          obtain ⟨rfl, rfl⟩ := Prod.mk.inj (Except.ok.inj h)
          rw [skip_append extra (ne_nil_of_head hempty), if_pos (head_append extra hempty),
            tail_append extra hempty]
        · rw [if_neg hempty] at h
          obtain ⟨p, hp, heq⟩ := map_ok h
          obtain ⟨rfl, rfl⟩ := Prod.mk.inj heq
          have hne := members_ne_nil hp
          have hhead : ¬(skip cs ++ extra).head? = some '}' := by
            obtain ⟨d, ds, hds⟩ := List.exists_cons_of_ne_nil hne
            rw [hds] at hempty ⊢
            exact hempty
          rw [skip_append extra hne, if_neg hhead, ih.members m hm room _ _ _ hp]
          rfl
    rw [if_neg hbrace] at h ⊢
    have hend : Closed rest :=
      hclosed.resolve_right fun hhead => hbrace (Option.some.inj hhead)
    by_cases hbracket : c = '['
    · rw [if_pos hbracket] at h ⊢
      cases room with
      | zero => cases h
      | succ room =>
        dsimp only at h ⊢
        by_cases hempty : (skip cs).head? = some ']'
        · rw [if_pos hempty] at h
          obtain ⟨rfl, rfl⟩ := Prod.mk.inj (Except.ok.inj h)
          rw [skip_append extra (ne_nil_of_head hempty), if_pos (head_append extra hempty),
            tail_append extra hempty]
        · rw [if_neg hempty] at h
          obtain ⟨p, hp, heq⟩ := map_ok h
          obtain ⟨rfl, rfl⟩ := Prod.mk.inj heq
          have hne := items_ne_nil hp
          have hhead : ¬(skip cs ++ extra).head? = some ']' := by
            obtain ⟨d, ds, hds⟩ := List.exists_cons_of_ne_nil hne
            rw [hds] at hempty ⊢
            exact hempty
          rw [skip_append extra hne, if_neg hhead, ih.items m hm room _ _ _ hp]
          rfl
    rw [if_neg hbracket] at h ⊢
    cases hconstant : constant (c :: cs) with
    | some p =>
      rw [hconstant] at h
      obtain rfl := Except.ok.inj h
      rw [← List.cons_append, constant_append extra hconstant]
    | none =>
      rw [hconstant] at h
      dsimp only at h
      by_cases hminus : c = '-'
      · subst hminus
        rw [if_pos rfl] at h
        obtain ⟨d, ds, rfl, hd⟩ := digit_of_number h
        rw [List.cons_append, constant_minus hd, ← List.cons_append]
        exact number_append extra h hend
      · rw [if_neg hminus] at h
        obtain ⟨d, ds, heq, hd⟩ := digit_of_number h
        obtain ⟨rfl, rfl⟩ := List.cons.inj heq
        rw [constant_digit hd]
        dsimp only
        rw [if_neg hminus, ← List.cons_append]
        exact number_append extra h hend

section Next

variable {α β : Type} {close : Char} {rest out : List Char} {one : β} {f : α → β} {b : β}
  {more more' : Except LoadError (α × List Char)}

/-- What follows an item that the list of items does not end with. -/
theorem closed_of_next (hclose : solid close = true)
    (h : (if (skip rest).head? = some close then .ok (one, (skip rest).tail)
      else if (skip rest).head? = some ',' then more.map fun p => (f p.1, p.2)
      else .error .decode) = (.ok (b, out) : Except LoadError (β × List Char))) : Closed rest := by
  by_cases hend : (skip rest).head? = some close
  · exact closed_of_skip hend hclose
  · rw [if_neg hend] at h
    by_cases hcomma : (skip rest).head? = some ','
    · exact closed_of_skip hcomma rfl
    · rw [if_neg hcomma] at h
      cases h

theorem next_append (hne : close ≠ ',')
    (h : (if (skip rest).head? = some close then .ok (one, (skip rest).tail)
      else if (skip rest).head? = some ',' then more.map fun p => (f p.1, p.2)
      else .error .decode) = (.ok (b, out) : Except LoadError (β × List Char)))
    (hmore : ∀ a, (skip rest).head? = some ',' → more = .ok (a, out) →
      more' = .ok (a, out ++ extra)) :
    (if (skip (rest ++ extra)).head? = some close then .ok (one, (skip (rest ++ extra)).tail)
      else if (skip (rest ++ extra)).head? = some ',' then more'.map fun p => (f p.1, p.2)
      else .error .decode) = (.ok (b, out ++ extra) : Except LoadError (β × List Char)) := by
  by_cases hend : (skip rest).head? = some close
  · rw [if_pos hend] at h
    obtain ⟨rfl, rfl⟩ := Prod.mk.inj (Except.ok.inj h)
    rw [skip_append extra (ne_nil_of_head hend), if_pos (head_append extra hend),
      tail_append extra hend]
  · rw [if_neg hend] at h
    by_cases hcomma : (skip rest).head? = some ','
    · rw [if_pos hcomma] at h
      obtain ⟨p, hp, heq⟩ := map_ok h
      obtain ⟨rfl, rfl⟩ := Prod.mk.inj heq
      have hhead := head_append extra hcomma
      rw [skip_append extra (ne_nil_of_head hcomma),
        if_neg fun hclose => hne (Option.some.inj (hclose.symm.trans hhead)), if_pos hhead,
        hmore p.1 hcomma hp]
      rfl
    · rw [if_neg hcomma] at h
      cases h

end Next

theorem Extends.members_succ (ih : Extends limit n extra) (m : ℕ) (hm : n ≤ m) (room : ℕ)
    (cs : List Char) (fs : Fields) (rest : List Char)
    (h : JsonReader.members limit (n + 1) room cs = .ok (fs, rest)) :
    JsonReader.members limit (m + 1) room (cs ++ extra) = .ok (fs, rest ++ extra) := by
  cases cs with
  | nil => cases h
  | cons c cs =>
    rw [JsonReader.members.eq_def] at h ⊢
    simp only [List.cons_append] at h ⊢
    by_cases hquote : c = '"'
    · rw [if_pos hquote] at h ⊢
      obtain ⟨k, hk, h⟩ := bind_ok h
      rw [string_append extra hk, Except.bind]
      by_cases hcolon : (skip k.2).head? = some ':'
      · rw [if_pos hcolon] at h
        obtain ⟨v, hv, h⟩ := bind_ok h
        have hvalue := ih.value m hm room _ v.1 v.2 hv (.inl (closed_of_next rfl h))
        dsimp only
        rw [skip_append extra (ne_nil_of_head hcolon), if_pos (head_append extra hcolon),
          tail_append extra hcolon, skip_append extra (value_ne_nil hv), hvalue, Except.bind]
        refine next_append (by decide) h fun more hcomma hmore => ?_
        rw [skip_append extra (ne_nil_of_head hcomma), tail_append extra hcomma,
          skip_append extra (members_ne_nil hmore), ih.members m hm room _ _ _ hmore]
      · rw [if_neg hcolon] at h
        cases h
    · rw [if_neg hquote] at h
      cases h

theorem Extends.items_succ (ih : Extends limit n extra) (m : ℕ) (hm : n ≤ m) (room : ℕ)
    (cs : List Char) (vs : List Value) (rest : List Char)
    (h : JsonReader.items limit (n + 1) room cs = .ok (vs, rest)) :
    JsonReader.items limit (m + 1) room (cs ++ extra) = .ok (vs, rest ++ extra) := by
  rw [JsonReader.items] at h ⊢
  obtain ⟨v, hv, h⟩ := bind_ok h
  rw [ih.value m hm room _ v.1 v.2 hv (.inl (closed_of_next rfl h)), Except.bind]
  refine next_append (by decide) h fun more hcomma hmore => ?_
  rw [skip_append extra (ne_nil_of_head hcomma), tail_append extra hcomma,
    skip_append extra (items_ne_nil hmore), ih.items m hm room _ _ _ hmore]

theorem extension (limit n : ℕ) (extra : List Char) : Extends limit n extra := by
  induction n with
  | zero =>
    constructor
    · intro m _ room cs v rest h
      cases h
    · intro m _ room cs fs rest h
      cases h
    · intro m _ room cs vs rest h
      cases h
  | succ n ih =>
    constructor
    · intro m hm room cs v rest h hclosed
      obtain ⟨m, rfl⟩ : ∃ k, m = k + 1 := ⟨m - 1, by omega⟩
      exact ih.value_succ m (by omega) room cs v rest h hclosed
    · intro m hm room cs fs rest h
      obtain ⟨m, rfl⟩ : ∃ k, m = k + 1 := ⟨m - 1, by omega⟩
      exact ih.members_succ m (by omega) room cs fs rest h
    · intro m hm room cs vs rest h
      obtain ⟨m, rfl⟩ : ∃ k, m = k + 1 := ⟨m - 1, by omega⟩
      exact ih.items_succ m (by omega) room cs vs rest h

end Extension

end TravelAgent.JsonReader

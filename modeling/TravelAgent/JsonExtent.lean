import TravelAgent.JsonReader

namespace TravelAgent.JsonExtent

open TravelAgent.AmapValues (Value Fields)
open TravelAgent.Json (skip units fraction exponent digitsAfter)
open TravelAgent.JsonReader
open TravelAgent.PyFloats (Str)

section Lengths

theorem length_skip_le (cs : List Char) : (skip cs).length ≤ cs.length :=
  List.length_dropWhile_le _ _

theorem length_digitsAfter_le (lead cs : List Char) :
    (digitsAfter lead cs).2.length ≤ lead.length + cs.length := by
  rw [digitsAfter]
  by_cases h : (cs.takeWhile Char.isDigit).isEmpty
  · rw [if_pos h, List.length_append]
  · rw [if_neg h]
    have hle := List.length_dropWhile_le Char.isDigit cs
    dsimp only
    omega

theorem length_fraction_le (cs : List Char) : (fraction cs).2.length ≤ cs.length := by
  unfold fraction
  split
  · rename_i cs
    have hle := length_digitsAfter_le ['.'] cs
    simp only [List.length_cons, List.length_nil] at hle ⊢
    omega
  · exact le_refl _

theorem length_exponent_le (cs : List Char) : (exponent cs).2.length ≤ cs.length := by
  unfold exponent
  split
  · rename_i e cs
    split
    · split
      · rename_i s rest
        by_cases hs : s = '+' ∨ s = '-'
        · rw [if_pos hs]
          have hle := length_digitsAfter_le [e, s] rest
          simp only [List.length_cons, List.length_nil] at hle ⊢
          omega
        · rw [if_neg hs]
          have hle := length_digitsAfter_le [e] (s :: rest)
          simp only [List.length_cons, List.length_nil] at hle ⊢
          omega
      · exact le_refl _
    · exact le_refl _
  · exact le_refl _

theorem length_units_lt {cs : List Char} {p : List ℕ × List Char} (h : units cs = some p) :
    p.2.length < cs.length := by
  induction cs using Json.units.induct generalizing p with
  | case1 => cases h
  | case2 cs =>
    rw [Json.units.eq_def] at h
    simp only [↓reduceIte] at h
    obtain rfl := Option.some.inj h
    exact Nat.lt_succ_self _
  | case3 x y z w rest hq ih =>
    rw [Json.units, if_neg hq, if_pos rfl] at h
    obtain ⟨n, -, h⟩ := Option.bind_eq_some_iff.mp h
    obtain ⟨q, hrest, rfl⟩ := Option.map_eq_some_iff.mp h
    have hlt := ih hrest
    simp only [List.length_cons]
    omega
  | case4 e rest hu hq ih =>
    rw [Json.units, if_neg hq, if_pos rfl] at h
    · obtain ⟨n, -, h⟩ := Option.bind_eq_some_iff.mp h
      obtain ⟨q, hrest, rfl⟩ := Option.map_eq_some_iff.mp h
      have hlt := ih hrest
      simp only [List.length_cons]
      omega
    · exact hu
  | case5 hq => cases h
  | case6 c cs hq hb hlow =>
    rw [Json.units.eq_def] at h
    simp only [if_neg hq, if_neg hb, if_pos hlow] at h
    cases h
  | case7 c cs hq hb hlow ih =>
    rw [Json.units.eq_def] at h
    simp only [if_neg hq, if_neg hb, if_neg hlow] at h
    obtain ⟨q, hrest, rfl⟩ := Option.map_eq_some_iff.mp h
    exact (ih hrest).trans (Nat.lt_succ_self _)

theorem length_constant_lt {cs : List Char} {p : Value × List Char} (h : constant cs = some p) :
    p.2.length < cs.length := by
  obtain ⟨k, hk, hp⟩ := List.exists_of_findSome?_eq_some h
  by_cases hprefix : k.1.toList.isPrefixOf cs
  · rw [if_pos hprefix] at hp
    obtain rfl := Option.some.inj hp
    have hpos : ∀ k ∈ constants, 0 < k.1.length := by decide
    have hone := hpos k hk
    have hle := (List.isPrefixOf_iff_prefix.mp hprefix).length_le
    rw [List.length_drop]
    rw [String.length_toList] at hle
    omega
  · rw [if_neg hprefix] at hp
    cases hp

end Lengths

section Following

variable {α β : Type} {limit room bound : ℕ}

/-- The limits that a text needs. -/
def Within (limit room : ℕ) (e : Extent) : Prop := e.nesting ≤ room ∧ e.digits ≤ limit

/-- A reader of fewer than `bound` characters that follows an extent as far as its limits go. -/
structure Follows (limit room bound : ℕ) (x : Except LoadError (α × List Char)) (e : Extent) :
    Prop where
  stopped : Within limit room e → e.rest = none → x = .error .decode
  read : Within limit room e → ∀ rest, e.rest = some rest →
    rest.length < bound ∧ ∃ a, x = .ok (a, rest)
  limited : ¬Within limit room e → x = .error .digits ∨ x = .error .recursion

theorem within_flat (rest : List Char) : Within limit room (.flat rest) :=
  ⟨Nat.zero_le _, Nat.zero_le _⟩

theorem follows_stop :
    Follows limit room bound (.error .decode : Except LoadError (α × List Char)) .stop where
  stopped _ _ := rfl
  read _ rest h := by cases h
  limited h := absurd ⟨Nat.zero_le _, Nat.zero_le _⟩ h

theorem follows_flat (a : α) {rest : List Char} (h : rest.length < bound) :
    Follows limit room bound (.ok (a, rest)) (.flat rest) where
  stopped _ h := by cases h
  read _ rest' h' := by
    obtain rfl := Option.some.inj h'
    exact ⟨h, a, rfl⟩
  limited h := absurd (within_flat rest) h

theorem Follows.mono {bound' : ℕ} {x : Except LoadError (α × List Char)} {e : Extent}
    (h : Follows limit room bound x e) (hle : bound ≤ bound') : Follows limit room bound' x e where
  stopped := h.stopped
  read hwithin rest hrest :=
    ⟨(h.read hwithin rest hrest).1.trans_le hle, (h.read hwithin rest hrest).2⟩
  limited := h.limited

theorem Follows.map {x : Except LoadError (α × List Char)} {e : Extent}
    (h : Follows limit room bound x e) (f : α → β) :
    Follows limit room bound (x.map fun p => (f p.1, p.2)) e where
  stopped hwithin hnone := by rw [h.stopped hwithin hnone]; rfl
  read hwithin rest hrest := by
    obtain ⟨hlt, a, ha⟩ := h.read hwithin rest hrest
    rw [ha]
    exact ⟨hlt, f a, rfl⟩
  limited hnot := by
    obtain hx | hx := h.limited hnot
    · exact .inl (by rw [hx]; rfl)
    · exact .inr (by rw [hx]; rfl)

theorem within_nest {e : Extent} : Within limit (room + 1) e.nest ↔ Within limit room e := by
  rw [Within, Within, Extent.nest, Nat.add_le_add_iff_right]

theorem Follows.nest {x : Except LoadError (α × List Char)} {e : Extent}
    (h : Follows limit room bound x e) : Follows limit (room + 1) bound x e.nest where
  stopped hwithin hnone := h.stopped (within_nest.mp hwithin) hnone
  read hwithin := h.read (within_nest.mp hwithin)
  limited hnot := h.limited fun hwithin => hnot (within_nest.mpr hwithin)

theorem follows_recursion (e : Extent) : Follows limit 0 bound
    (.error .recursion : Except LoadError (α × List Char)) e.nest where
  stopped hwithin _ := absurd hwithin.1 (Nat.not_succ_le_zero _)
  read hwithin _ _ := absurd hwithin.1 (Nat.not_succ_le_zero _)
  limited _ := .inr rfl

theorem within_join {e e' : Extent} :
    Within limit room (e.join e') ↔ Within limit room e ∧ Within limit room e' := by
  simp only [Within, Extent.join, max_le_iff]
  tauto

theorem Follows.bind {x : Except LoadError (α × List Char)} {e : Extent}
    (h : Follows limit room bound x e) {f : α × List Char → Except LoadError (β × List Char)}
    {next : List Char → Extent}
    (hf : ∀ a rest, rest.length < bound → Follows limit room bound (f (a, rest)) (next rest)) :
    Follows limit room bound (x.bind f) (e.continue next) := by
  cases hrest : e.rest with
  | none =>
    rw [Extent.continue, hrest]
    refine ⟨?_, ?_, ?_⟩
    · intro hwithin _
      rw [h.stopped hwithin hrest]
      rfl
    · intro _ rest hsome
      rw [hrest] at hsome
      cases hsome
    · intro hnot
      obtain hx | hx := h.limited hnot
      · exact .inl (by rw [hx]; rfl)
      · exact .inr (by rw [hx]; rfl)
  | some rest =>
    rw [Extent.continue, hrest]
    by_cases hwithin : Within limit room e
    · obtain ⟨hlt, a, hx⟩ := h.read hwithin rest hrest
      have hnext := hf a rest hlt
      rw [hx]
      refine ⟨?_, ?_, ?_⟩
      · intro hboth hnone
        exact hnext.stopped (within_join.mp hboth).2 hnone
      · intro hboth
        exact hnext.read (within_join.mp hboth).2
      · intro hnot
        exact hnext.limited fun hwithin' => hnot (within_join.mpr ⟨hwithin, hwithin'⟩)
    · have hlimited := h.limited hwithin
      refine ⟨?_, ?_, ?_⟩
      · intro hboth
        exact absurd (within_join.mp hboth).1 hwithin
      · intro hboth
        exact absurd (within_join.mp hboth).1 hwithin
      · intro _
        obtain hx | hx := hlimited
        · exact .inl (by rw [hx]; rfl)
        · exact .inr (by rw [hx]; rfl)

end Following

section Scalars

variable {limit room : ℕ}

theorem follows_finishNumber (negative : Bool) {digits cs : List Char} {bound : ℕ}
    (h : cs.length < bound) :
    Follows limit room bound (finishNumber limit negative digits cs) (finishExtent digits cs) := by
  rw [finishNumber, finishExtent]
  by_cases hint : (fraction cs).1.isEmpty && (exponent (fraction cs).2).1.isEmpty
  · simp only [if_pos hint]
    by_cases hlimit : limit < digits.length
    · rw [if_pos hlimit]
      refine ⟨?_, ?_, ?_⟩
      · intro hwithin
        exact absurd hwithin.2 (Nat.not_le.mpr hlimit)
      · intro hwithin
        exact absurd hwithin.2 (Nat.not_le.mpr hlimit)
      · intro _
        exact .inl rfl
    · rw [if_neg hlimit]
      refine ⟨?_, ?_, ?_⟩
      · intro _ hnone
        cases hnone
      · intro _ rest hrest
        obtain rfl := Option.some.inj hrest
        exact ⟨h, _, rfl⟩
      · intro hnot
        exact absurd ⟨Nat.zero_le _, Nat.not_lt.mp hlimit⟩ hnot
  · simp only [if_neg hint]
    apply follows_flat
    have hfraction := length_fraction_le cs
    have hexponent := length_exponent_le (fraction cs).2
    omega

theorem follows_number (negative : Bool) (cs : List Char) :
    Follows limit room cs.length (number limit negative cs) (numberExtent cs) := by
  cases cs with
  | nil => exact follows_stop
  | cons c cs =>
    rw [number, numberExtent]
    by_cases hzero : c = '0'
    · rw [if_pos hzero, if_pos hzero]
      exact follows_finishNumber negative (Nat.lt_succ_self _)
    · rw [if_neg hzero, if_neg hzero]
      by_cases hdigit : c.isDigit
      · rw [if_pos hdigit, if_pos hdigit]
        apply follows_finishNumber
        exact Nat.lt_succ_of_le (List.length_dropWhile_le _ _)
      · rw [if_neg hdigit, if_neg hdigit]
        exact follows_stop

end Scalars

/-- The readers follow the extents of what they read, whatever room there is. -/
structure Reading (limit n : ℕ) : Prop where
  value : ∀ room cs, 2 * cs.length < n →
    Follows limit room cs.length (value limit n room cs) (extent n cs)
  members : ∀ room cs, 2 * cs.length + 1 < n →
    Follows limit room cs.length (members limit n room cs) (membersExtent n cs)
  items : ∀ room cs, 2 * cs.length + 1 < n →
    Follows limit room cs.length (items limit n room cs) (itemsExtent n cs)

variable {limit n : ℕ}

theorem follows_close {α : Type} {room : ℕ} (a : α) {cs : List Char} :
    Follows limit (room + 1) (cs.length + 1) (.ok (a, (skip cs).tail))
      (Extent.flat (skip cs).tail).nest := by
  apply Follows.nest
  apply follows_flat
  have hskip := length_skip_le cs
  rw [List.length_tail]
  omega

theorem Reading.value_succ (h : Reading limit n) (room : ℕ) (cs : List Char)
    (hn : 2 * cs.length < n + 1) :
    Follows limit room cs.length (JsonReader.value limit (n + 1) room cs) (extent (n + 1) cs) := by
  cases cs with
  | nil => exact follows_stop
  | cons c cs =>
    rw [List.length_cons] at hn ⊢
    have hskip := length_skip_le cs
    rw [JsonReader.value.eq_def, extent.eq_def]
    simp only
    by_cases hquote : c = '"'
    · rw [if_pos hquote, if_pos hquote, string]
      cases hunits : units cs with
      | none => exact follows_stop
      | some p => exact follows_flat _ ((length_units_lt hunits).trans (Nat.lt_succ_self _))
    rw [if_neg hquote, if_neg hquote]
    by_cases hbrace : c = '{'
    · rw [if_pos hbrace, if_pos hbrace]
      cases room with
      | zero =>
        by_cases hclose : (skip cs).head? = some '}'
        · rw [if_pos hclose]
          exact follows_recursion _
        · rw [if_neg hclose]
          exact follows_recursion _
      | succ room =>
        by_cases hclose : (skip cs).head? = some '}'
        · simp only [if_pos hclose]
          exact follows_close _
        · simp only [if_neg hclose]
          have hmembers := h.members room (skip cs) (by omega)
          exact ((hmembers.map fun fields => Value.dict (merge fields)).mono (by omega)).nest
    rw [if_neg hbrace, if_neg hbrace]
    by_cases hbracket : c = '['
    · rw [if_pos hbracket, if_pos hbracket]
      cases room with
      | zero =>
        by_cases hclose : (skip cs).head? = some ']'
        · rw [if_pos hclose]
          exact follows_recursion _
        · rw [if_neg hclose]
          exact follows_recursion _
      | succ room =>
        by_cases hclose : (skip cs).head? = some ']'
        · simp only [if_pos hclose]
          exact follows_close _
        · simp only [if_neg hclose]
          have hitems := h.items room (skip cs) (by omega)
          exact ((hitems.map Value.list).mono (by omega)).nest
    rw [if_neg hbracket, if_neg hbracket]
    cases hconstant : constant (c :: cs) with
    | some p => exact follows_flat p.1 (length_constant_lt hconstant)
    | none =>
      by_cases hminus : c = '-'
      · simp only [if_pos hminus]
        exact (follows_number true cs).mono (Nat.le_succ _)
      · simp only [if_neg hminus]
        exact follows_number false (c :: cs)

/-- After a value comes the end, or a comma and more. -/
theorem follows_next {α β : Type} {room bound : ℕ} {close : Char} {rest : List Char} {one : β}
    {more : Except LoadError (α × List Char)} {f : α → β} {next : Extent}
    (hrest : rest.length < bound)
    (hmore : (skip rest).head? = some ',' → Follows limit room (skip rest).tail.length more next) :
    Follows limit room bound
      (if (skip rest).head? = some close then .ok (one, (skip rest).tail)
        else if (skip rest).head? = some ',' then more.map fun p => (f p.1, p.2)
        else .error .decode)
      (if (skip rest).head? = some close then .flat (skip rest).tail
        else if (skip rest).head? = some ',' then next else .stop) := by
  have hskip := length_skip_le rest
  have htail : (skip rest).tail.length < bound := by
    rw [List.length_tail]
    omega
  by_cases hclose : (skip rest).head? = some close
  · rw [if_pos hclose, if_pos hclose]
    exact follows_flat _ htail
  rw [if_neg hclose, if_neg hclose]
  by_cases hcomma : (skip rest).head? = some ','
  · rw [if_pos hcomma, if_pos hcomma]
    exact ((hmore hcomma).map f).mono htail.le
  · rw [if_neg hcomma, if_neg hcomma]
    exact follows_stop

theorem length_tail_lt {cs : List Char} {c : Char} (h : cs.head? = some c) :
    cs.tail.length < cs.length := by
  cases cs with
  | nil => cases h
  | cons d ds => exact Nat.lt_succ_self _

theorem Reading.members_succ (h : Reading limit n) (room : ℕ) (cs : List Char)
    (hn : 2 * cs.length + 1 < n + 1) : Follows limit room cs.length
      (JsonReader.members limit (n + 1) room cs) (membersExtent (n + 1) cs) := by
  cases cs with
  | nil => exact follows_stop
  | cons c cs =>
    rw [List.length_cons] at hn ⊢
    rw [JsonReader.members.eq_def, membersExtent.eq_def]
    simp only
    by_cases hquote : c = '"'
    · rw [if_pos hquote, if_pos hquote, string]
      cases hunits : units cs with
      | none => exact follows_stop
      | some p =>
        have hp := length_units_lt hunits
        have hskip := length_skip_le p.2
        simp only [Except.bind]
        by_cases hcolon : (skip p.2).head? = some ':'
        · rw [if_pos hcolon, if_pos hcolon]
          have htail := length_tail_lt hcolon
          have hstart := length_skip_le (skip p.2).tail
          refine ((h.value room _ (by omega)).mono (by omega)).bind fun v rest hlt => ?_
          apply follows_next hlt
          intro hcomma
          have hrest := length_skip_le rest
          have hcut := length_tail_lt hcomma
          have hlast := length_skip_le (skip rest).tail
          exact (h.members room (skip (skip rest).tail) (by omega)).mono hlast
        · rw [if_neg hcolon, if_neg hcolon]
          exact follows_stop
    · rw [if_neg hquote, if_neg hquote]
      exact follows_stop

theorem Reading.items_succ (h : Reading limit n) (room : ℕ) (cs : List Char)
    (hn : 2 * cs.length + 1 < n + 1) : Follows limit room cs.length
      (JsonReader.items limit (n + 1) room cs) (itemsExtent (n + 1) cs) := by
  rw [JsonReader.items, itemsExtent]
  refine (h.value room cs (by omega)).bind fun v rest hlt => ?_
  apply follows_next hlt
  intro hcomma
  have hrest := length_skip_le rest
  have hcut := length_tail_lt hcomma
  have hlast := length_skip_le (skip rest).tail
  exact (h.items room (skip (skip rest).tail) (by omega)).mono hlast

theorem reading (limit n : ℕ) : Reading limit n := by
  induction n with
  | zero =>
    exact ⟨fun _ _ h => absurd h (Nat.not_lt_zero _), fun _ _ h => absurd h (Nat.not_lt_zero _),
      fun _ _ h => absurd h (Nat.not_lt_zero _)⟩
  | succ n ih => exact ⟨ih.value_succ, ih.members_succ, ih.items_succ⟩

/-- A text whose nesting and whose integers stay within the limits. -/
def Fits (limits : Limits) (cs : List Char) : Prop :=
  Within limits.digits limits.nesting (textExtent cs)

theorem loads_follows (limits : Limits) (cs : List Char) :
    Follows limits.digits limits.nesting cs.length
      (value limits.digits (2 * cs.length + 1) limits.nesting (skip cs)) (textExtent cs) := by
  have hskip := length_skip_le cs
  exact ((reading _ _).value limits.nesting (skip cs) (by omega)).mono hskip

/-- Within the limits a text is read or is no JSON. -/
theorem loads_of_fits {limits : Limits} {cs : List Char} (h : Fits limits cs) :
    (∃ v, loads limits cs = .ok v) ∨ loads limits cs = .error .decode := by
  have hfollows := loads_follows limits cs
  rw [loads]
  cases hrest : (textExtent cs).rest with
  | none =>
    rw [hfollows.stopped h hrest]
    exact .inr rfl
  | some rest =>
    obtain ⟨-, v, hv⟩ := hfollows.read h rest hrest
    rw [hv]
    by_cases hend : skip rest = []
    · exact .inl ⟨v, if_pos hend⟩
    · exact .inr (if_neg hend)

theorem loads_of_not_fits {limits : Limits} {cs : List Char} (h : ¬Fits limits cs) :
    loads limits cs = .error .digits ∨ loads limits cs = .error .recursion := by
  rw [loads]
  obtain hx | hx := (loads_follows limits cs).limited h
  · rw [hx]
    exact .inl rfl
  · rw [hx]
    exact .inr rfl

section Agreement

variable {α β : Type} {limit limit' : ℕ}

/-- What a reader with narrower limits does, if it is not stopped by them. -/
def Under (x y : Except LoadError α) : Prop :=
  x = .error .digits ∨ x = .error .recursion ∨ x = y

theorem under_refl (x : Except LoadError α) : Under x x := .inr (.inr rfl)

theorem Under.bind {x y : Except LoadError α} (h : Under x y) {f g : α → Except LoadError β}
    (hf : ∀ a, Under (f a) (g a)) : Under (x.bind f) (y.bind g) := by
  obtain rfl | rfl | rfl := h
  · exact .inl rfl
  · exact .inr (.inl rfl)
  · cases x with
    | ok a => exact hf a
    | error e => exact under_refl _

theorem Under.map {x y : Except LoadError α} (h : Under x y) (f : α → β) :
    Under (x.map f) (y.map f) := by
  obtain rfl | rfl | rfl := h
  · exact .inl rfl
  · exact .inr (.inl rfl)
  · exact under_refl _

theorem under_ite {p : Prop} [Decidable p] {x x' y y' : Except LoadError α} (hx : Under x x')
    (hy : Under y y') : Under (if p then x else y) (if p then x' else y') := by
  by_cases h : p
  · rwa [if_pos h, if_pos h]
  · rwa [if_neg h, if_neg h]

theorem under_finishNumber (hlimit : limit ≤ limit') (negative : Bool) (digits cs : List Char) :
    Under (finishNumber limit negative digits cs) (finishNumber limit' negative digits cs) := by
  rw [finishNumber, finishNumber]
  refine under_ite ?_ (under_refl _)
  by_cases h : limit < digits.length
  · rw [if_pos h]
    exact .inl rfl
  · rw [if_neg h, if_neg fun h' => h (hlimit.trans_lt h')]
    exact under_refl _

theorem under_number (hlimit : limit ≤ limit') (negative : Bool) (cs : List Char) :
    Under (number limit negative cs) (number limit' negative cs) := by
  cases cs with
  | nil => exact under_refl _
  | cons c cs =>
    rw [number, number]
    exact under_ite (under_finishNumber hlimit negative _ _)
      (under_ite (under_finishNumber hlimit negative _ _) (under_refl _))

/-- Readers that differ in their limits. -/
structure Narrower (limit limit' n : ℕ) : Prop where
  value : ∀ room room' cs, room ≤ room' → Under (value limit n room cs) (value limit' n room' cs)
  members : ∀ room room' cs, room ≤ room' →
    Under (members limit n room cs) (members limit' n room' cs)
  items : ∀ room room' cs, room ≤ room' → Under (items limit n room cs) (items limit' n room' cs)

theorem Narrower.value_succ (hlimit : limit ≤ limit') (h : Narrower limit limit' n)
    (room room' : ℕ) (cs : List Char) (hroom : room ≤ room') :
    Under (JsonReader.value limit (n + 1) room cs) (JsonReader.value limit' (n + 1) room' cs) := by
  cases cs with
  | nil => exact under_refl _
  | cons c cs =>
    rw [JsonReader.value.eq_def, JsonReader.value.eq_def]
    simp only
    refine under_ite (under_refl _) (under_ite ?_ (under_ite ?_ ?_))
    · cases room with
      | zero => exact .inr (.inl rfl)
      | succ room =>
        obtain ⟨room', rfl⟩ := Nat.exists_eq_add_of_le' (Nat.one_le_of_lt hroom)
        exact under_ite (under_refl _)
          ((h.members room room' (skip cs) (Nat.le_of_succ_le_succ hroom)).map _)
    · cases room with
      | zero => exact .inr (.inl rfl)
      | succ room =>
        obtain ⟨room', rfl⟩ := Nat.exists_eq_add_of_le' (Nat.one_le_of_lt hroom)
        exact under_ite (under_refl _)
          ((h.items room room' (skip cs) (Nat.le_of_succ_le_succ hroom)).map _)
    · cases constant (c :: cs) with
      | some p => exact under_refl _
      | none => exact under_ite (under_number hlimit true cs) (under_number hlimit false _)

theorem Narrower.members_succ (h : Narrower limit limit' n) (room room' : ℕ) (cs : List Char)
    (hroom : room ≤ room') : Under (JsonReader.members limit (n + 1) room cs)
      (JsonReader.members limit' (n + 1) room' cs) := by
  cases cs with
  | nil => exact under_refl _
  | cons c cs =>
    rw [JsonReader.members.eq_def, JsonReader.members.eq_def]
    simp only
    refine under_ite ((under_refl _).bind fun k => ?_) (under_refl _)
    refine under_ite ((h.value room room' _ hroom).bind fun v => ?_) (under_refl _)
    exact under_ite (under_refl _)
      (under_ite ((h.members room room' _ hroom).map _) (under_refl _))

theorem Narrower.items_succ (h : Narrower limit limit' n) (room room' : ℕ) (cs : List Char)
    (hroom : room ≤ room') : Under (JsonReader.items limit (n + 1) room cs)
      (JsonReader.items limit' (n + 1) room' cs) := by
  rw [JsonReader.items, JsonReader.items]
  refine (h.value room room' cs hroom).bind fun v => ?_
  exact under_ite (under_refl _) (under_ite ((h.items room room' _ hroom).map _) (under_refl _))

theorem narrower (hlimit : limit ≤ limit') (n : ℕ) : Narrower limit limit' n := by
  induction n with
  | zero => exact ⟨fun _ _ _ _ => under_refl _, fun _ _ _ _ => under_refl _,
      fun _ _ _ _ => under_refl _⟩
  | succ n ih => exact ⟨ih.value_succ hlimit, ih.members_succ, ih.items_succ⟩

theorem loads_under {limits limits' : Limits} (hdigits : limits.digits ≤ limits'.digits)
    (hnesting : limits.nesting ≤ limits'.nesting) (cs : List Char) :
    Under (loads limits cs) (loads limits' cs) :=
  ((narrower hdigits _).value _ _ _ hnesting).bind fun _ => under_refl _

/-- A text that fits is read as it is read elsewhere. -/
theorem loads_of_loads {limits limits' : Limits} {cs : List Char} {v : Value}
    (h : loads limits cs = .ok v) (hfits : Fits limits' cs) : loads limits' cs = .ok v := by
  let both : Limits := ⟨max limits.digits limits'.digits, max limits.nesting limits'.nesting⟩
  have hwider : Under (loads limits cs) (loads both cs) :=
    loads_under (le_max_left _ _) (le_max_left _ _) cs
  have hwider' : Under (loads limits' cs) (loads both cs) :=
    loads_under (le_max_right _ _) (le_max_right _ _) cs
  rw [h] at hwider
  obtain hx | hx | hx := hwider
  · cases hx
  · cases hx
  · rw [← hx] at hwider'
    obtain ⟨w, hw⟩ | hw := loads_of_fits hfits
    · rw [hw] at hwider' ⊢
      obtain hy | hy | hy := hwider'
      · cases hy
      · cases hy
      · exact hy
    · rw [hw] at hwider'
      obtain hy | hy | hy := hwider'
      · cases hy
      · cases hy
      · cases hy

end Agreement

end TravelAgent.JsonExtent

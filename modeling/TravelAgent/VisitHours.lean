import TravelAgent.ConstraintIssues

namespace TravelAgent.VisitHours

open TravelAgent.Constraints TravelAgent.Itinerary TravelAgent.Numerals TravelAgent.Texts
open TravelAgent.Identities (blanks pySpace_iff trim_split visible visible_append visible_trim)
open TravelAgent.RestaurantHours
open TravelAgent.TaskStore (pySpace)

theorem contains_iff {α : Type} [DecidableEq α] {l m : List α} :
    contains l m = true ↔ m <:+: l := by
  induction l with
  | nil =>
    rw [contains, behind, List.infix_nil]
    by_cases hm : m = []
    · simp [hm]
    · simp [hm]
  | cons a l ih =>
    rw [contains, behind, List.infix_cons_iff, ← ih, contains]
    by_cases hp : m <+: a :: l
    · simp [hp]
    · simp [hp]

/-- A text of visible characters is not found across a blank. -/
theorem infix_blanks {m a l : List Char} (hm : ∀ c ∈ m, pySpace c = false) (hne : m ≠ [])
    (ha : ∀ c ∈ a, pySpace c = true) : m <:+: a ++ l ↔ m <:+: l := by
  induction a with
  | nil => rfl
  | cons c a ih =>
    rw [List.cons_append, List.infix_cons_iff, ih fun d hd => ha d (List.mem_cons_of_mem _ hd)]
    apply or_iff_right
    intro hp
    obtain ⟨d, m', rfl⟩ := List.exists_cons_of_ne_nil hne
    obtain ⟨rfl, -⟩ := List.cons_prefix_cons.mp hp
    have hblank := ha d List.mem_cons_self
    rw [hm d List.mem_cons_self] at hblank
    cases hblank

theorem contains_trim {l m : List Char} (hm : ∀ c ∈ m, pySpace c = false) (hne : m ≠ []) :
    contains (trim pySpace l) m = contains l m := by
  obtain ⟨a, b, hl, ha, hb⟩ := trim_split pySpace l
  rw [Bool.eq_iff_iff, contains_iff, contains_iff]
  conv_rhs => rw [hl, List.append_assoc, infix_blanks hm hne ha]
  have hback : m.reverse <:+: b.reverse ++ (trim pySpace l).reverse ↔
      m.reverse <:+: (trim pySpace l).reverse :=
    infix_blanks (fun c hc => hm c (List.mem_reverse.mp hc)) (by simpa using hne)
      (fun c hc => hb c (List.mem_reverse.mp hc))
  rw [← List.reverse_append, List.reverse_infix, List.reverse_infix] at hback
  exact hback.symm

theorem contains_visible {l m : List Char} (hm : visible m = m) (h : contains l m = true) :
    contains (visible l) m = true := by
  rw [contains_iff] at h ⊢
  obtain ⟨a, b, rfl⟩ := h
  rw [visible_append, visible_append, hm]
  exact ⟨_, _, rfl⟩

/-- No digit of any script is a blank. -/
theorem digits_clear : ∀ z ∈ decimalZeros, ∀ r ∈ blanks, r.2 < z ∨ z + 9 < r.1 := by
  decide +kernel

theorem decimal_blank {c : Char} (h : pySpace c = true) : decimal c = none := by
  obtain ⟨r, hr, hlo, hhi⟩ := (pySpace_iff c).mp h
  rw [decimal, List.findSome?_eq_none_iff]
  intro z hz
  have hclear := digits_clear z hz r hr
  rw [if_neg (by omega)]

theorem boundedPair_blank_left {bound c d : Char} (h : pySpace c = true) (hb : bound.toNat ≤ 57) :
    boundedPair bound c d = none := by
  obtain ⟨r, hr, hlo, hhi⟩ := (pySpace_iff c).mp h
  have hclear := digits_clear 48 (by decide) r hr
  have hzero : '0'.toNat = 48 := rfl
  rw [boundedPair, if_neg (by omega)]

theorem boundedPair_blank_right {bound c d : Char} (h : pySpace d = true) :
    boundedPair bound c d = none := by
  rw [boundedPair, decimal_blank h, Option.map_none, ite_self]

theorem colon_of_blank {c : Char} (h : pySpace c = true) : c ≠ ':' := by
  rintro rfl
  revert h
  decide

theorem hourPairAt_cons (x y z : Char) (r : List Char) :
    hourPairAt (x :: y :: z :: r) =
      if z = ':' then (boundedPair '2' x y).map fun hour => (hour, r) else none := by
  by_cases h : z = ':'
  · subst h
    rfl
  · rw [if_neg h]
    unfold hourPairAt
    split
    · rename_i heq
      cases heq
      exact absurd rfl h
    · rfl

theorem hourDigitAt_cons (x z : Char) (r : List Char) :
    hourDigitAt (x :: z :: r) =
      if z = ':' then (decimal x).map fun hour => (hour, r) else none := by
  by_cases h : z = ':'
  · subst h
    rfl
  · rw [if_neg h]
    unfold hourDigitAt
    split
    · rename_i heq
      cases heq
      exact absurd rfl h
    · rfl

/-- What a reader finds, with more text behind what it leaves. -/
def extend {α : Type} (b : List Char) (x : α × List Char) : α × List Char := (x.1, x.2 ++ b)

section Behind

variable {b : List Char} (hb : ∀ c ∈ b, pySpace c = true)
include hb

theorem hourPairAt_append (t : List Char) :
    hourPairAt (t ++ b) = (hourPairAt t).map (extend b) := by
  match t with
  | x :: y :: z :: r =>
    rw [List.cons_append, List.cons_append, List.cons_append, hourPairAt_cons, hourPairAt_cons]
    by_cases h : z = ':'
    · rw [if_pos h, if_pos h, Option.map_map]
      rfl
    · rw [if_neg h, if_neg h, Option.map_none]
  | [x, y] =>
    cases b with
    | nil => rfl
    | cons c b =>
      rw [List.cons_append, List.cons_append, List.nil_append, hourPairAt_cons,
        if_neg (colon_of_blank (hb c List.mem_cons_self))]
      rfl
  | [x] =>
    match b with
    | [] => rfl
    | [c] => rfl
    | c :: d :: b =>
      rw [List.cons_append, List.nil_append, hourPairAt_cons,
        if_neg (colon_of_blank (hb d (by simp)))]
      rfl
  | [] =>
    match b with
    | [] => rfl
    | [c] => rfl
    | [c, d] => rfl
    | c :: d :: e :: b =>
      rw [List.nil_append, hourPairAt_cons, if_neg (colon_of_blank (hb e (by simp)))]
      rfl

theorem hourDigitAt_append (t : List Char) :
    hourDigitAt (t ++ b) = (hourDigitAt t).map (extend b) := by
  match t with
  | x :: z :: r =>
    rw [List.cons_append, List.cons_append, hourDigitAt_cons, hourDigitAt_cons]
    by_cases h : z = ':'
    · rw [if_pos h, if_pos h, Option.map_map]
      rfl
    · rw [if_neg h, if_neg h, Option.map_none]
  | [x] =>
    cases b with
    | nil => rfl
    | cons c b =>
      rw [List.cons_append, List.nil_append, hourDigitAt_cons,
        if_neg (colon_of_blank (hb c List.mem_cons_self))]
      rfl
  | [] =>
    match b with
    | [] => rfl
    | [c] => rfl
    | c :: d :: b =>
      rw [List.nil_append, hourDigitAt_cons, if_neg (colon_of_blank (hb d (by simp)))]
      rfl

theorem minuteAt_append (t : List Char) : minuteAt (t ++ b) = (minuteAt t).map (extend b) := by
  match t with
  | m :: n :: r =>
    rw [List.cons_append, List.cons_append, minuteAt, minuteAt, Option.map_map]
    rfl
  | [m] =>
    cases b with
    | nil => rfl
    | cons c b =>
      rw [List.cons_append, List.nil_append, minuteAt,
        boundedPair_blank_right (hb c List.mem_cons_self)]
      rfl
  | [] =>
    match b with
    | [] => rfl
    | [c] => rfl
    | c :: d :: b =>
      rw [List.nil_append, minuteAt, boundedPair_blank_right (hb d (by simp))]
      rfl

theorem clockAt_append (t : List Char) : clockAt (t ++ b) = (clockAt t).map (extend b) := by
  rw [clockAt, clockAt, hourPairAt_append hb, hourDigitAt_append hb, ← Option.map_or]
  cases (hourPairAt t).or (hourDigitAt t) with
  | none => rfl
  | some h =>
    rw [Option.map_some, Option.bind_some, Option.bind_some, extend, minuteAt_append hb,
      Option.map_map, Option.map_map]
    rfl

/-- After the blanks of a text, the ones behind it are left if anything is. -/
theorem dropWhile_append_blanks (t : List Char) :
    (t ++ b).dropWhile pySpace = [] ∧ t.dropWhile pySpace = [] ∨
      (t ++ b).dropWhile pySpace = t.dropWhile pySpace ++ b := by
  cases hd : t.dropWhile pySpace with
  | nil =>
    left
    refine ⟨?_, rfl⟩
    rw [List.dropWhile_eq_nil_iff] at hd ⊢
    intro c hc
    exact (List.mem_append.mp hc).elim (hd c) (hb c)
  | cons c r =>
    right
    rw [List.dropWhile_append, hd]
    rfl

theorem rangeAt_append (t : List Char) : rangeAt (t ++ b) = (rangeAt t).map (extend b) := by
  rw [rangeAt, rangeAt, clockAt_append hb]
  cases clockAt t with
  | none => rfl
  | some s =>
    rw [Option.map_some, Option.bind_some, Option.bind_some, extend]
    obtain ⟨hlong, hshort⟩ | hlong := dropWhile_append_blanks hb s.2
    · simp only [hlong, hshort, Option.map_none]
    · simp only [hlong]
      cases s.2.dropWhile pySpace with
      | nil =>
        cases b with
        | nil => rfl
        | cons c b =>
          have hno : ¬['-', '~', '～', '—', '–', '至'].contains c = true := by
            intro hmem
            have hblank := hb c List.mem_cons_self
            simp only [List.contains_iff_mem, List.mem_cons, List.not_mem_nil, or_false] at hmem
            obtain rfl | rfl | rfl | rfl | rfl | rfl := hmem <;> revert hblank <;> decide
          simp only [List.nil_append, if_neg hno, Option.map_none]
      | cons c r =>
        simp only [List.cons_append]
        split
        · obtain ⟨hrest, hrest'⟩ | hrest := dropWhile_append_blanks hb r
          · rw [hrest, hrest']
            rfl
          · rw [hrest, clockAt_append hb, Option.map_map, Option.map_map]
            rfl
        · rfl

end Behind

theorem rangeAt_blank {c : Char} (h : pySpace c = true) (l : List Char) :
    rangeAt (c :: l) = none := by
  have hpair : hourPairAt (c :: l) = none := by
    match l with
    | [] => rfl
    | [_] => rfl
    | x :: y :: r =>
      rw [hourPairAt_cons, boundedPair_blank_left h (by decide), Option.map_none, ite_self]
  have hdigit : hourDigitAt (c :: l) = none := by
    match l with
    | [] => rfl
    | x :: r => rw [hourDigitAt_cons, decimal_blank h, Option.map_none, ite_self]
  rw [rangeAt, clockAt, hpair, hdigit]
  rfl

theorem hour_length {l r : List Char} {h : Nat}
    (hh : (hourPairAt l).or (hourDigitAt l) = some (h, r)) : r.length < l.length := by
  obtain hpair | ⟨-, hdigit⟩ := Option.or_eq_some_iff.mp hh
  · match l with
    | x :: y :: z :: l =>
      rw [hourPairAt_cons] at hpair
      split at hpair
      · obtain ⟨_, -, he⟩ := Option.map_eq_some_iff.mp hpair
        cases he
        simp only [List.length_cons]
        omega
      · cases hpair
  · match l with
    | x :: z :: l =>
      rw [hourDigitAt_cons] at hdigit
      split at hdigit
      · obtain ⟨_, -, he⟩ := Option.map_eq_some_iff.mp hdigit
        cases he
        simp only [List.length_cons]
        omega
      · cases hdigit

theorem clockAt_length {l r : List Char} {x : Nat × Nat} (h : clockAt l = some (x, r)) :
    r.length < l.length := by
  obtain ⟨⟨hour, rest⟩, hhour, hmin⟩ := Option.bind_eq_some_iff.mp h
  have hlt := hour_length hhour
  obtain ⟨⟨minute, rest'⟩, hminute, he⟩ := Option.map_eq_some_iff.mp hmin
  cases he
  match rest with
  | m :: n :: rest =>
    obtain ⟨_, -, he⟩ := Option.map_eq_some_iff.mp hminute
    cases he
    simp only [List.length_cons] at hlt
    dsimp only
    omega

theorem rangeAt_length {l r : List Char} {x : (Nat × Nat) × Nat × Nat}
    (h : rangeAt l = some (x, r)) : r.length < l.length := by
  obtain ⟨⟨start, tail⟩, hstart, h⟩ := Option.bind_eq_some_iff.mp h
  have hlt := clockAt_length hstart
  dsimp only at h
  split at h
  · rename_i c rest hdrop
    split at h
    · obtain ⟨⟨stop, tail'⟩, hstop, he⟩ := Option.map_eq_some_iff.mp h
      cases he
      have hskip := (List.dropWhile_sublist (pySpace) (l := tail)).length_le
      have hskip' := (List.dropWhile_sublist (pySpace) (l := rest)).length_le
      have hlt' := clockAt_length hstop
      rw [hdrop, List.length_cons] at hskip
      dsimp only
      omega
    · cases h
  · cases h

/-- With enough fuel, all of the ranges are found. -/
theorem rangesIn_fuel {n m : Nat} {l : List Char} (hn : l.length ≤ n) (hm : l.length ≤ m) :
    rangesIn n l = rangesIn m l := by
  induction n generalizing m l with
  | zero =>
    rw [List.length_eq_zero_iff.mp (Nat.le_zero.mp hn)]
    cases m <;> rfl
  | succ n ih =>
    cases l with
    | nil => cases m <;> rfl
    | cons c l =>
      cases m with
      | zero => exact absurd hm (Nat.not_succ_le_zero _)
      | succ m =>
        rw [List.length_cons] at hn hm
        rw [rangesIn, rangesIn]
        cases hr : rangeAt (c :: l) with
        | none => exact ih (Nat.le_of_succ_le_succ hn) (Nat.le_of_succ_le_succ hm)
        | some x =>
          have hlt := rangeAt_length (x := x.1) (r := x.2) hr
          rw [List.length_cons] at hlt
          have hrest : rangesIn n x.2 = rangesIn m x.2 := ih (by omega) (by omega)
          exact congrArg (x.1 :: ·) hrest

theorem rangesIn_blanks {a : List Char} (ha : ∀ c ∈ a, pySpace c = true) (n : Nat) (l : List Char) :
    rangesIn (a.length + n) (a ++ l) = rangesIn n l := by
  induction a with
  | nil => rw [List.length_nil, Nat.zero_add, List.nil_append]
  | cons c a ih =>
    rw [List.length_cons, Nat.succ_add, List.cons_append, rangesIn,
      rangeAt_blank (ha c List.mem_cons_self)]
    exact ih fun d hd => ha d (List.mem_cons_of_mem _ hd)

theorem rangesIn_nil {b : List Char} (hb : ∀ c ∈ b, pySpace c = true) (n : Nat) :
    rangesIn n b = [] := by
  induction n generalizing b with
  | zero => rfl
  | succ n ih =>
    cases b with
    | nil => rfl
    | cons c b =>
      simp only [rangesIn, rangeAt_blank (hb c List.mem_cons_self)]
      exact ih fun d hd => hb d (List.mem_cons_of_mem _ hd)

theorem rangesIn_append {b : List Char} (hb : ∀ c ∈ b, pySpace c = true) (n : Nat) (t : List Char) :
    rangesIn n (t ++ b) = rangesIn n t := by
  induction n generalizing t with
  | zero => rfl
  | succ n ih =>
    cases t with
    | nil => exact rangesIn_nil hb (n + 1)
    | cons c t =>
      rw [List.cons_append, rangesIn, rangesIn, ← List.cons_append, rangeAt_append hb]
      cases rangeAt (c :: t) with
      | none => exact ih t
      | some x => exact congrArg (x.1 :: ·) (ih x.2)

/-- The blanks around a text hide no range. -/
theorem rangesIn_trim (l : List Char) :
    rangesIn l.length l = rangesIn (trim pySpace l).length (trim pySpace l) := by
  obtain ⟨a, b, hl, ha, hb⟩ := trim_split pySpace l
  have hlen := congrArg List.length hl
  rw [List.length_append, List.length_append] at hlen
  calc rangesIn l.length l
      = rangesIn (a.length + ((trim pySpace l).length + b.length))
          (a ++ (trim pySpace l ++ b)) := by
        rw [← List.append_assoc, ← hl, ← Nat.add_assoc, ← hlen]
    _ = rangesIn ((trim pySpace l).length + b.length) (trim pySpace l) := by
        rw [rangesIn_blanks ha, rangesIn_append hb]
    _ = rangesIn (trim pySpace l).length (trim pySpace l) :=
        rangesIn_fuel (Nat.le_add_right _ _) (le_refl _)

/-- The clock ranges that both parsers find in a text. -/
def clocks (text : String) : List ((Nat × Nat) × Nat × Nat) :=
  rangesIn text.toList.length text.toList

/-- A range within one day. -/
def withinDay (r : (Nat × Nat) × Nat × Nat) : Option (Nat × Nat) :=
  let start := r.1.1 * 60 + r.1.2
  let stop := r.2.1 * 60 + r.2.2
  if start < stop ∧ stop ≤ 24 * 60 then some (start, stop) else none

/-- A range past midnight, or the one from midnight to midnight. -/
def pastMidnight (r : (Nat × Nat) × Nat × Nat) : Option (Nat × Nat) :=
  if (withinDay r).isSome then none else openingRange r

def regular (text : String) : List (Nat × Nat) := (clocks text).filterMap withinDay

def overnight (text : String) : List (Nat × Nat) := (clocks text).filterMap pastMidnight

/-- A visit lies inside of one of the ranges. -/
def Fits (ranges : List (Nat × Nat)) (start stop : Nat) : Prop :=
  ∃ r ∈ ranges, r.1 ≤ start ∧ stop ≤ r.2

def Marked (markers : List String) (text : List Char) : Prop :=
  ∃ m ∈ markers, contains text m.toList = true

instance (markers : List String) (text : List Char) : Decidable (Marked markers text) :=
  inferInstanceAs (Decidable (∃ m ∈ markers, contains text m.toList = true))

theorem openingRange_withinDay {r : (Nat × Nat) × Nat × Nat} {x : Nat × Nat}
    (h : withinDay r = some x) : openingRange r = some x := by
  obtain ⟨⟨startH, startM⟩, endH, endM⟩ := r
  simp only [withinDay] at h
  split at h
  · rename_i hr
    cases h
    simp only [openingRange]
    rw [if_neg (by omega), if_neg (by omega), if_neg (by omega), if_neg (by omega)]
  · cases h

theorem mem_openingRange {text : String} {x : Nat × Nat} :
    x ∈ (clocks text).filterMap openingRange ↔ x ∈ regular text ∨ x ∈ overnight text := by
  simp only [regular, overnight, List.mem_filterMap]
  constructor
  · rintro ⟨r, hr, hx⟩
    cases hw : withinDay r with
    | some y =>
      rw [openingRange_withinDay hw] at hx
      exact Or.inl ⟨r, hr, hw.trans hx⟩
    | none => exact Or.inr ⟨r, hr, by rw [pastMidnight, hw]; exact hx⟩
  · rintro (⟨r, hr, hx⟩ | ⟨r, hr, hx⟩)
    · exact ⟨r, hr, openingRange_withinDay hx⟩
    · rw [pastMidnight] at hx
      split at hx
      · cases hx
      · exact ⟨r, hr, hx⟩

theorem fits_openingRange {text : String} {start stop : Nat} :
    Fits ((clocks text).filterMap openingRange) start stop ↔
      Fits (regular text) start stop ∨ Fits (overnight text) start stop := by
  simp only [Fits, mem_openingRange, or_and_right, exists_or]

theorem openingRange_eq_nil {text : String} :
    (clocks text).filterMap openingRange = [] ↔ regular text = [] ∧ overnight text = [] := by
  simp only [List.eq_nil_iff_forall_not_mem, mem_openingRange, not_or, forall_and]

theorem stop_le_of_regular {text : String} {start stop : Nat} (h : Fits (regular text) start stop) :
    stop ≤ 24 * 60 := by
  obtain ⟨x, hx, -, hle⟩ := h
  obtain ⟨r, -, hr⟩ := List.mem_filterMap.mp hx
  simp only [withinDay] at hr
  split at hr
  · rename_i hb
    cases hr
    exact hle.trans hb.2
  · cases hr

theorem not_fits_nil {start stop : Nat} : ¬ Fits [] start stop :=
  fun ⟨_, hr, _⟩ => List.not_mem_nil hr

theorem fits_allDay {start stop : Nat} : Fits [(0, 24 * 60)] start stop ↔ stop ≤ 24 * 60 := by
  simp [Fits]

theorem clocks_blank {text : String} (h : trim pySpace text.toList = []) : clocks text = [] := by
  rw [clocks, rangesIn_trim, h]
  rfl

/-- The markers that only one of the parsers knows, and the ranges that only one of them
reads, make no difference for the visit. -/
def SameReading (text : String) (start stop : Nat) : Prop :=
  if trim pySpace text.toList = [] ∨ contains text.toList "暂无".toList = true then True
  else if Marked unknownMarkers text.toList then
    contains text.toList "24小时".toList = true ∨ regular text = [] ∨ Fits (regular text) start stop
  else if Marked allDayMarkers (visible text.toList) then
    if contains text.toList "24小时".toList = true ∨ regular text = [] then stop ≤ 24 * 60
    else stop ≤ 24 * 60 → Fits (regular text) start stop
  else if regular text = [] then overnight text = [] ∨ Fits (overnight text) start stop
  else Fits (overnight text) start stop → Fits (regular text) start stop

theorem regular_blank {text : String} (h : trim pySpace text.toList = []) : regular text = [] := by
  rw [regular, clocks_blank h, List.filterMap_nil]

theorem openingRanges_eq (text : String) :
    openingRanges text =
      if contains text.toList "暂无".toList = true ∨ contains text.toList "24小时".toList = true then []
      else regular text := by
  by_cases hempty : text.toList = []
  · have hregular : regular text = [] := regular_blank (by rw [hempty]; rfl)
    rw [hregular, ite_self, openingRanges, hempty]
    rfl
  · have hcond : (text.toList.isEmpty || contains text.toList "暂无".toList ||
        contains text.toList "24小时".toList) =
          decide (contains text.toList "暂无".toList = true ∨
            contains text.toList "24小时".toList = true) := by
      rw [Bool.eq_iff_iff, Bool.or_eq_true, Bool.or_eq_true, List.isEmpty_iff, or_assoc,
        or_iff_right hempty, decide_eq_true_iff]
    simp only [openingRanges, hcond, decide_eq_true_iff]
    rfl

/-- No marker has a blank in it. -/
theorem markers_clear :
    ∀ m ∈ unknownMarkers, m.toList ≠ [] ∧ ∀ c ∈ m.toList, pySpace c = false := by
  have hclear : ∀ m ∈ unknownMarkers, (m.toList.all fun c => !pySpace c) = true := by decide
  have hfull : ∀ m ∈ unknownMarkers, m.toList ≠ [] := by decide
  intro m hm
  refine ⟨hfull m hm, ?_⟩
  intro c hc
  simpa only [Bool.not_eq_true'] using List.all_eq_true.mp (hclear m hm) c hc

theorem marked_trim (l : List Char) :
    (unknownMarkers.any fun m => contains (trim pySpace l) m.toList) = true ↔
      Marked unknownMarkers l := by
  rw [List.any_eq_true, Marked]
  apply exists_congr
  intro m
  apply and_congr_right
  intro hm
  obtain ⟨hne, hclear⟩ := markers_clear m hm
  rw [contains_trim hclear hne]

theorem parseOpeningRanges_eq (text : String) :
    parseOpeningRanges text =
      if trim pySpace text.toList = [] ∨ Marked unknownMarkers text.toList then []
      else if Marked allDayMarkers (visible text.toList) then [(0, 24 * 60)]
      else (clocks text).filterMap openingRange := by
  have hempty : ((trim pySpace text.toList).isEmpty ||
      unknownMarkers.any fun m => contains (trim pySpace text.toList) m.toList) = true ↔
        trim pySpace text.toList = [] ∨ Marked unknownMarkers text.toList := by
    rw [Bool.or_eq_true, List.isEmpty_iff, marked_trim]
  have hday : (allDayMarkers.any fun m => contains (visible (trim pySpace text.toList)) m.toList) =
      true ↔ Marked allDayMarkers (visible text.toList) := by
    rw [visible_trim, List.any_eq_true, Marked]
  rw [clocks, rangesIn_trim text.toList]
  exact if_congr hempty rfl (if_congr hday rfl rfl)

/-- A visit that no parsed range forbids. -/
def Allowed (ranges : List (Nat × Nat)) (start stop : Nat) : Prop :=
  ranges = [] ∨ Fits ranges start stop

theorem allowed_nil {start stop : Nat} : Allowed [] start stop := .inl rfl

theorem allowed_iff {ranges : List (Nat × Nat)} {start stop : Nat} (h : ranges ≠ []) :
    Allowed ranges start stop ↔ Fits ranges start stop :=
  or_iff_right h

theorem no_allDay {text : String} (h : ¬Marked allDayMarkers (visible text.toList)) :
    ¬contains text.toList "24小时".toList = true :=
  fun hday => h ⟨"24小时", by decide, contains_visible (by decide) hday⟩

theorem marked_of_unknown {text : String} (h : contains text.toList "暂无".toList = true) :
    Marked unknownMarkers text.toList :=
  ⟨"暂无", by decide, h⟩

/-- The parsers allow the same visits where they read the same. -/
theorem allowed_agree (text : String) (start stop : Nat) :
    (Allowed (openingRanges text) start stop ↔ Allowed (parseOpeningRanges text) start stop) ↔
      SameReading text start stop := by
  rw [openingRanges_eq, parseOpeningRanges_eq, SameReading]
  by_cases hblank : trim pySpace text.toList = []
  · rw [if_pos (Or.inl hblank), if_pos (Or.inl hblank), regular_blank hblank, ite_self]
    exact iff_of_true Iff.rfl trivial
  by_cases hnone : contains text.toList "暂无".toList = true
  · rw [if_pos (Or.inl hnone), if_pos (Or.inr (marked_of_unknown hnone)), if_pos (Or.inr hnone)]
    exact iff_of_true Iff.rfl trivial
  have hread : ¬(trim pySpace text.toList = [] ∨ contains text.toList "暂无".toList = true) :=
    not_or.mpr ⟨hblank, hnone⟩
  rw [if_neg hread, if_congr (or_iff_right hnone) rfl rfl, if_congr (or_iff_right hblank) rfl rfl]
  by_cases hunknown : Marked unknownMarkers text.toList
  · rw [if_pos hunknown, if_pos hunknown, iff_true_right allowed_nil]
    by_cases hday : contains text.toList "24小时".toList = true
    · rw [if_pos hday]
      exact iff_of_true allowed_nil (Or.inl hday)
    · rw [if_neg hday, or_iff_right hday]
      exact Iff.rfl
  rw [if_neg hunknown, if_neg hunknown]
  by_cases hall : Marked allDayMarkers (visible text.toList)
  · rw [if_pos hall, if_pos hall, allowed_iff (List.cons_ne_nil _ _), fits_allDay]
    by_cases hday : contains text.toList "24小时".toList = true
    · rw [if_pos hday, if_pos (Or.inl hday), iff_true_left allowed_nil]
    · rw [if_neg hday, if_congr (or_iff_right hday) rfl rfl]
      by_cases hregular : regular text = []
      · rw [if_pos hregular, hregular, iff_true_left allowed_nil]
      · rw [if_neg hregular, allowed_iff hregular]
        exact ⟨fun h => h.mpr, fun h => ⟨stop_le_of_regular, h⟩⟩
  rw [if_neg hall, if_neg hall, if_neg (no_allDay hall)]
  by_cases hregular : regular text = []
  · have hempty : (clocks text).filterMap openingRange = [] ↔ overnight text = [] := by
      rw [openingRange_eq_nil, and_iff_right hregular]
    rw [if_pos hregular, hregular, iff_true_left allowed_nil, Allowed, hempty, fits_openingRange,
      hregular, or_iff_right not_fits_nil]
  · have hsome : (clocks text).filterMap openingRange ≠ [] :=
      fun h => hregular (openingRange_eq_nil.mp h).1
    rw [if_neg hregular, allowed_iff hregular, allowed_iff hsome, fits_openingRange]
    exact ⟨fun h hover => h.mpr (Or.inr hover), fun h => ⟨Or.inl, fun hfits => hfits.elim id h⟩⟩

section

variable {dayIndex : Int} {date : String} {timeline : List Scheduling.TimelineItem}
  {sources : List Source} {a : Attraction} {sourceIndex : Nat} {source : Source}
  {item : Scheduling.TimelineItem} {start stop : Nat}

/-- On a day that is not closed, a visit is accepted if the evaluator's ranges allow it. -/
theorem checkAttraction_visit (hsource : sourceFor sources a = some source)
    (hopen : source.closedDates.contains date = false)
    (hitem : itemOf timeline sourceIndex = some item) (hstart : item.startTime = formatClock start)
    (hstop : item.endTime = formatClock stop) :
    checkAttraction dayIndex date timeline sources a sourceIndex = .ok [] ↔
      Allowed (openingRanges source.openingHours) start stop := by
  have hclosed : ¬(some source).any (fun s => s.closedDates.contains date) = true := by
    rw [Option.any_some, hopen]
    exact Bool.false_ne_true
  simp only [checkAttraction, hsource, if_neg hclosed, hitem, Option.map_some, Option.getD_some]
  by_cases hnil : openingRanges source.openingHours = []
  · rw [if_pos hnil, hnil]
    exact iff_of_true rfl allowed_nil
  · rw [if_neg hnil, hstart, hstop, timelineClock_formatClock, timelineClock_formatClock,
      allowed_iff hnil]
    have hany : ((openingRanges source.openingHours).any fun r =>
        decide ((r.1 : Int) ≤ start) && decide ((stop : Int) ≤ r.2)) = true ↔
          Fits (openingRanges source.openingHours) start stop := by
      simp only [List.any_eq_true, Bool.and_eq_true, decide_eq_true_eq, Int.ofNat_le, Fits]
    by_cases hfits : Fits (openingRanges source.openingHours) start stop
    · exact iff_of_true (congrArg Except.ok (if_pos (hany.mpr hfits))) hfits
    · refine iff_of_false ?_ hfits
      intro h
      have hviolation := (if_neg (mt hany.mp hfits)).symm.trans (Except.ok.inj h)
      cases hviolation

/-- The evaluator and the parser of opening hours agree on a visit exactly where they read its
text the same. -/
theorem visit_agrees_iff (hsource : sourceFor sources a = some source)
    (hopen : source.closedDates.contains date = false)
    (hitem : itemOf timeline sourceIndex = some item) (hstart : item.startTime = formatClock start)
    (hstop : item.endTime = formatClock stop) :
    ((Fits (parseOpeningRanges source.openingHours) start stop →
        checkAttraction dayIndex date timeline sources a sourceIndex = .ok []) ∧
      (checkAttraction dayIndex date timeline sources a sourceIndex = .ok [] ↔
        Allowed (parseOpeningRanges source.openingHours) start stop)) ↔
      SameReading source.openingHours start stop := by
  rw [checkAttraction_visit hsource hopen hitem hstart hstop, ← allowed_agree]
  constructor
  · rintro ⟨-, hagree⟩
    exact hagree
  · intro hagree
    exact ⟨fun hfits => hagree.mpr (Or.inr hfits), hagree⟩

end

def lake (hours : String) : Source := { poiId := "B1", name := "西湖", openingHours := hours }

def lakeVisit : Attraction :=
  { name := "西湖", address := "", location := ⟨.finite 120, .finite 30⟩, visitDuration := 60,
    description := "", poiId := some "B1" }

def lakeItem (start stop : Nat) : Scheduling.TimelineItem :=
  { itemType := .attraction, name := "西湖", startTime := formatClock start,
    endTime := formatClock stop, durationMinutes := stop - start, dayIndex := 0,
    sourceIndex := some 0, transportationTimeSource := none }

theorem morning_visit_agrees :
    ((Fits (parseOpeningRanges (lake "09:00-17:00").openingHours) 600 660 →
        checkAttraction 0 "2026-05-01" [lakeItem 600 660] [lake "09:00-17:00"] lakeVisit 0 =
          .ok []) ∧
      (checkAttraction 0 "2026-05-01" [lakeItem 600 660] [lake "09:00-17:00"] lakeVisit 0 = .ok [] ↔
        Allowed (parseOpeningRanges (lake "09:00-17:00").openingHours) 600 660)) ↔
      SameReading (lake "09:00-17:00").openingHours 600 660 :=
  visit_agrees_iff (by decide +kernel) (by decide) rfl rfl rfl

/-- The evening of a place that closes after midnight is parsed, and called a violation. -/
theorem evening_visit_refused :
    Fits (parseOpeningRanges (lake "09:00-12:00, 18:00-02:00").openingHours) 1140 1200 ∧
      checkAttraction 0 "2026-05-01" [lakeItem 1140 1200] [lake "09:00-12:00, 18:00-02:00"]
          lakeVisit 0 =
        .ok [outsideOpeningHours 0 [(540, 720)] lakeVisit 0 (lakeItem 1140 1200)] := by
  refine ⟨⟨(1080, 1560), ?_, ?_⟩, ?_⟩
  · decide +kernel
  · decide
  · rfl

end TravelAgent.VisitHours

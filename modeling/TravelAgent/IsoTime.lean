import Mathlib
import TravelAgent.Texts

namespace TravelAgent.IsoTime

open TravelAgent.Texts (digit_ne)

/- Instants are microseconds since the start of year one, in UTC. -/

def isLeap (year : Nat) : Bool := year % 4 == 0 && (year % 100 != 0 || year % 400 == 0)

def daysInMonth (leap : Bool) (month : Nat) : Nat :=
  if month = 2 then if leap then 29 else 28
  else if month ∈ [4, 6, 9, 11] then 30
  else 31

/-- `_days_before_month` -/
def daysBeforeMonth (leap : Bool) (month : Nat) : Nat :=
  [0, 0, 31, 59, 90, 120, 151, 181, 212, 243, 273, 304, 334].getD month 0 +
    if 2 < month ∧ leap then 1 else 0

/-- `_days_before_year` -/
def daysBeforeYear (year : Nat) : Nat :=
  (year - 1) * 365 + (year - 1) / 4 - (year - 1) / 100 + (year - 1) / 400

structure Date where
  year : Nat
  month : Nat
  day : Nat
deriving DecidableEq, Repr

def Date.Valid (d : Date) : Prop :=
  1 ≤ d.year ∧ d.year ≤ 9999 ∧ 1 ≤ d.month ∧ d.month ≤ 12 ∧ 1 ≤ d.day ∧
    d.day ≤ daysInMonth (isLeap d.year) d.month

instance (d : Date) : Decidable d.Valid := by unfold Date.Valid; infer_instance

/-- The days before a date, counted from the start of year one. -/
def Date.toDays (d : Date) : Nat :=
  daysBeforeYear d.year + daysBeforeMonth (isLeap d.year) d.month + (d.day - 1)

/-- Month and day of a day within its year. -/
def monthDay (leap : Bool) (n : Nat) : Nat × Nat :=
  let month := (n + 50) / 32
  let preceding := daysBeforeMonth leap month
  if n < preceding then
    (month - 1, n - (preceding - daysInMonth leap (month - 1)) + 1)
  else (month, n - preceding + 1)

/-- `_ord2ymd` -/
def Date.ofDays (n : Nat) : Date :=
  let n400 := n / 146097
  let n := n % 146097
  let n100 := n / 36524
  let n := n % 36524
  let n4 := n / 1461
  let n := n % 1461
  let n1 := n / 365
  let n := n % 365
  let year := n400 * 400 + 1 + n100 * 100 + n4 * 4 + n1
  if n1 = 4 ∨ n100 = 4 then ⟨year - 1, 12, 31⟩
  else
    let leap := n1 == 3 && (n4 != 24 || n100 == 3)
    ⟨year, (monthDay leap n).1, (monthDay leap n).2⟩

/-- The days of the years 1 to 9999. -/
def maxDays : Nat := 3652059

theorem monthDay_spec {leap : Bool} {n : Nat} (h : n < if leap then 366 else 365) :
    1 ≤ (monthDay leap n).1 ∧ (monthDay leap n).1 ≤ 12 ∧ 1 ≤ (monthDay leap n).2 ∧
      (monthDay leap n).2 ≤ daysInMonth leap (monthDay leap n).1 ∧
      daysBeforeMonth leap (monthDay leap n).1 + ((monthDay leap n).2 - 1) = n := by
  have hall : ∀ leap : Bool, ∀ n < 366, n < (if leap then 366 else 365) →
      1 ≤ (monthDay leap n).1 ∧ (monthDay leap n).1 ≤ 12 ∧ 1 ≤ (monthDay leap n).2 ∧
      (monthDay leap n).2 ≤ daysInMonth leap (monthDay leap n).1 ∧
      daysBeforeMonth leap (monthDay leap n).1 + ((monthDay leap n).2 - 1) = n := by
    decide +kernel
  refine hall leap n ?_ h
  split at h <;> omega

/-- A year given by its place in the cycles of four hundred, hundred and four years. -/
theorem daysBeforeYear_cycle {a b c d : Nat} (hb : b < 4) (hc : c < 25) (hd : d < 4) :
    daysBeforeYear (a * 400 + 1 + b * 100 + c * 4 + d) =
      a * 146097 + b * 36524 + c * 1461 + d * 365 := by
  have hy : a * 400 + 1 + b * 100 + c * 4 + d - 1 = a * 400 + b * 100 + c * 4 + d := by omega
  rw [daysBeforeYear, hy]
  have h4 : (a * 400 + b * 100 + c * 4 + d) / 4 = a * 100 + b * 25 + c := by omega
  have h100 : (a * 400 + b * 100 + c * 4 + d) / 100 = a * 4 + b := by omega
  have h400 : (a * 400 + b * 100 + c * 4 + d) / 400 = a := by omega
  rw [h4, h100, h400]
  omega

theorem isLeap_cycle {a b c d : Nat} (hb : b < 4) (hc : c < 25) (hd : d < 4) :
    isLeap (a * 400 + 1 + b * 100 + c * 4 + d) = (d == 3 && (c != 24 || b == 3)) := by
  have h4 : (a * 400 + 1 + b * 100 + c * 4 + d) % 4 = (1 + d) % 4 := by omega
  have h100 : (a * 400 + 1 + b * 100 + c * 4 + d) % 100 = (1 + c * 4 + d) % 100 := by omega
  have h400 : (a * 400 + 1 + b * 100 + c * 4 + d) % 400 = (1 + b * 100 + c * 4 + d) % 400 := by
    omega
  have hall : ∀ b < 4, ∀ c < 25, ∀ d < 4, ((1 + d) % 4 == 0 &&
      ((1 + c * 4 + d) % 100 != 0 || (1 + b * 100 + c * 4 + d) % 400 == 0)) =
        (d == 3 && (c != 24 || b == 3)) := by
    decide +kernel
  rw [isLeap, h4, h100, h400]
  exact hall b hb c hc d hd

theorem lastDay_valid {year : Nat} (h1 : 1 ≤ year) (h2 : year ≤ 9999) :
    Date.Valid ⟨year, 12, 31⟩ := by
  have hdays : daysInMonth (isLeap year) 12 = 31 := rfl
  exact ⟨h1, h2, (by decide : 1 ≤ 12), (by decide : 12 ≤ 12), (by decide : 1 ≤ 31),
    Nat.le_of_eq hdays.symm⟩

/-- Days and dates are in step. -/
theorem ofDays_spec {n : Nat} (h : n < maxDays) :
    (Date.ofDays n).Valid ∧ (Date.ofDays n).toDays = n := by
  have hmax : maxDays = 3652059 := rfl
  obtain ⟨a, ha⟩ : ∃ a, a = n / 146097 := ⟨_, rfl⟩
  obtain ⟨b, hb⟩ : ∃ b, b = n % 146097 / 36524 := ⟨_, rfl⟩
  obtain ⟨c, hc⟩ : ∃ c, c = n % 146097 % 36524 / 1461 := ⟨_, rfl⟩
  obtain ⟨d, hd⟩ : ∃ d, d = n % 146097 % 36524 % 1461 / 365 := ⟨_, rfl⟩
  obtain ⟨r, hr⟩ : ∃ r, r = n % 146097 % 36524 % 1461 % 365 := ⟨_, rfl⟩
  have hn : n = a * 146097 + (b * 36524 + c * 1461 + (d * 365 + r)) := by omega
  have hdays : Date.ofDays n = if d = 4 ∨ b = 4 then
      ⟨a * 400 + 1 + b * 100 + c * 4 + d - 1, 12, 31⟩
    else ⟨a * 400 + 1 + b * 100 + c * 4 + d,
      (monthDay (d == 3 && (c != 24 || b == 3)) r).1,
      (monthDay (d == 3 && (c != 24 || b == 3)) r).2⟩ := by
    subst ha hb hc hd hr
    rfl
  by_cases hlast : d = 4 ∨ b = 4
  · -- The last day of a leap cycle belongs to the year before.
    obtain ⟨b', c', hb', hc', hyear, hleap, hn'⟩ : ∃ b' c', b' < 4 ∧ c' < 25 ∧
        a * 400 + 1 + b * 100 + c * 4 + d - 1 = a * 400 + 1 + b' * 100 + c' * 4 + 3 ∧
        (c' ≠ 24 ∨ b' = 3) ∧
        b * 36524 + c * 1461 + (d * 365 + r) = b' * 36524 + c' * 1461 + 1460 := by
      obtain h4 | h4 := hlast
      · have h0 : r = 0 := by omega
        subst h4 h0
        exact ⟨b, c, by omega, by omega, by omega, by omega, rfl⟩
      · have h0 : c = 0 ∧ d = 0 ∧ r = 0 := by omega
        obtain ⟨hc0, hd0, hr0⟩ := h0
        subst h4 hc0 hd0 hr0
        exact ⟨3, 24, by omega, by omega, by omega, Or.inr rfl, rfl⟩
    rw [hdays, if_pos hlast, hyear]
    have hl : isLeap (a * 400 + 1 + b' * 100 + c' * 4 + 3) = true := by
      rw [isLeap_cycle hb' hc' (by omega)]
      simpa using hleap
    constructor
    · exact lastDay_valid (by omega) (by omega)
    · have hm : daysBeforeMonth true 12 = 335 := rfl
      rw [Date.toDays, hn, hn']
      simp only [daysBeforeYear_cycle hb' hc' (by omega : 3 < 4), hl, hm]
      simp only [Nat.add_assoc, Nat.reduceMul, Nat.reduceSub, Nat.reduceAdd]
  · have hb4 : b < 4 := by omega
    have hc25 : c < 25 := by omega
    have hd4 : d < 4 := by omega
    rw [hdays, if_neg hlast]
    have hr365 : r < if d == 3 && (c != 24 || b == 3) then 366 else 365 := by
      split <;> omega
    obtain ⟨hm1, hm12, hd1, hdim, hsum⟩ := monthDay_spec hr365
    have hl := @isLeap_cycle a b c d hb4 hc25 hd4
    refine ⟨⟨by simp only; omega, by simp only; omega, hm1, hm12, hd1, ?_⟩, ?_⟩
    · simp only [hl]
      exact hdim
    · simp only [Date.toDays, hl, daysBeforeYear_cycle hb4 hc25 hd4]
      omega

/-- The decimal digits of a number, in a field of fixed width. -/
def fixed : Nat → Nat → List Char
  | 0, _ => []
  | w + 1, n => fixed w (n / 10) ++ [Nat.digitChar (n % 10)]

/-- As many digits as a field has. -/
def digits (w : Nat) (cs : List Char) : Option (Nat × List Char) :=
  if w ≤ cs.length ∧ (cs.take w).all Char.isDigit then
    some (Nat.ofDigitChars 10 (cs.take w) 0, cs.drop w)
  else none

def dayMicros : Nat := 86400000000

/-- The time of day, with its microseconds when there are any. -/
def clock (s : Nat) : List Char :=
  fixed 2 (s / 3600000000) ++ ':' :: (fixed 2 (s / 60000000 % 60) ++ ':' ::
    (fixed 2 (s / 1000000 % 60) ++
      if s % 1000000 = 0 then [] else '.' :: fixed 6 (s % 1000000)))

/-- `isoformat` of an instant in UTC -/
def isoformat (t : Nat) : List Char :=
  let d := Date.ofDays (t / dayMicros)
  fixed 4 d.year ++ '-' :: (fixed 2 d.month ++ '-' :: (fixed 2 d.day ++
    'T' :: (clock (t % dayMicros) ++ ['+', '0', '0', ':', '0', '0'])))

/-- `_find_isoformat_datetime_separator` -/
def separator (cs : List Char) : Option Nat :=
  if cs.length = 7 then some 7
  else if cs[4]? = some '-' then
    if cs[5]? = some 'W' then
      if cs[8]? = some '-' then
        if cs.length = 9 then none
        else if cs[10]?.any Char.isDigit then some 8
        else some 10
      else some 8
    else some 10
  else if cs[4]? = some 'W' then
    let idx := 7 + ((cs.drop 7).takeWhile Char.isDigit).length
    if idx < 9 then some idx else if idx % 2 = 0 then some 7 else some 8
  else some 8

/-- `_isoweek_to_gregorian` -/
def ofWeek (year week day : Nat) : Option Date :=
  let first := daysBeforeYear year
  let long := first % 7 = 3 ∨ (first % 7 = 2 ∧ isLeap year)
  if year = 0 ∨ week = 0 ∨ 53 < week ∨ (week = 53 ∧ ¬long) ∨ day = 0 ∨ 7 < day then none
  else
    let monday := if 3 < first % 7 then first - first % 7 + 7 else first - first % 7
    some (Date.ofDays (monday + (week - 1) * 7 + (day - 1)))

/-- `_parse_isoformat_date` -/
def parseDate (cs : List Char) : Option Date :=
  (digits 4 cs).bind fun y =>
    let dashed := y.2.head? = some '-'
    let rest := if dashed then y.2.tail else y.2
    if rest.head? = some 'W' then
      (digits 2 rest.tail).bind fun w =>
        if w.2 = [] then ofWeek y.1 w.1 1
        else if (w.2.head? = some '-') ↔ dashed then
          (digits 1 (if dashed then w.2.tail else w.2)).bind fun d => ofWeek y.1 w.1 d.1
        else none
    else
      (digits 2 rest).bind fun m =>
        if (m.2.head? = some '-') ↔ dashed then
          (digits 2 (if dashed then m.2.tail else m.2)).map fun d => ⟨y.1, m.1, d.1⟩
        else none

/-- Microseconds from the digits behind the decimal sign; those behind the sixth are cut off. -/
def parseFraction : List Char → Option Nat
  | [] => some 0
  | c :: cs =>
    if (c = '.' ∨ c = ',') ∧ cs ≠ [] ∧ cs.all Char.isDigit then
      some (Nat.ofDigitChars 10 (cs.take 6) 0 * 10 ^ (6 - (cs.take 6).length))
    else none

/-- `_parse_hh_mm_ss_ff` -/
def parseClock (cs : List Char) : Option (Nat × Nat × Nat × Nat) :=
  (digits 2 cs).bind fun h =>
    if h.2 = [] then some (h.1, 0, 0, 0)
    else
      let colon := h.2.head? = some ':'
      (digits 2 (if colon then h.2.tail else h.2)).bind fun m =>
        if m.2 = [] then some (h.1, m.1, 0, 0)
        else if colon ∧ m.2.head? ≠ some ':' then none
        else
          (digits 2 (if colon then m.2.tail else m.2)).bind fun s =>
            (parseFraction s.2).map fun f => (h.1, m.1, s.1, f)

def micros (c : Nat × Nat × Nat × Nat) : Nat :=
  ((c.1 * 60 + c.2.1) * 60 + c.2.2.1) * 1000000 + c.2.2.2

/-- The offset that a text behind the sign of a time zone gives. -/
def parseOffset (sign : Char) (cs : List Char) : Option Int :=
  if cs.length ∈ [0, 1, 3] then none
  else
    (parseClock cs).bind fun c =>
      if micros c < dayMicros then some (if sign = '-' then -(micros c : Int) else micros c)
      else none

/-- `_parse_isoformat_time`: the time of day and its offset. -/
def parseTime (cs : List Char) : Option ((Nat × Nat × Nat × Nat) × Option Int) :=
  let zone := if '-' ∈ cs then '-' else if '+' ∈ cs then '+' else 'Z'
  let time := cs.takeWhile fun c => c ≠ zone
  (parseClock time).bind fun c =>
    match cs.dropWhile fun c => c ≠ zone with
    | [] => some (c, none)
    | sign :: offset =>
      if sign = 'Z' ∧ offset = [] then some (c, some 0)
      else (parseOffset sign offset).map fun o => (c, some o)

/-- `fromisoformat`: the instant that the text shows and its offset from UTC. -/
def fromIsoformat (cs : List Char) : Option (Nat × Option Int) :=
  if cs.length < 7 then none
  else
    (separator cs).bind fun sep =>
      (parseDate (cs.take sep)).bind fun d =>
        (if (cs.drop (sep + 1)).isEmpty then some ((0, 0, 0, 0), none)
          else parseTime (cs.drop (sep + 1))).bind fun t =>
            if d.Valid ∧ t.1.1 < 24 ∧ t.1.2.1 < 60 ∧ t.1.2.2.1 < 60 then
              some (d.toDays * dayMicros + micros t.1, t.2)
            else none

theorem fixed_length (w n : Nat) : (fixed w n).length = w := by
  induction w generalizing n with
  | zero => rfl
  | succ w ih => rw [fixed, List.length_append, ih, List.length_singleton]

theorem fixed_digits (w n : Nat) : ∀ c ∈ fixed w n, c.isDigit = true := by
  induction w generalizing n with
  | zero => simp [fixed]
  | succ w ih =>
    intro c hc
    rw [fixed, List.mem_append, List.mem_singleton] at hc
    obtain hc | rfl := hc
    · exact ih _ c hc
    · rw [Nat.isDigit_digitChar]
      exact decide_eq_true (Nat.mod_lt n (by decide))

theorem ofDigitChars_fixed (w n : Nat) (h : n < 10 ^ w) :
    Nat.ofDigitChars 10 (fixed w n) 0 = n := by
  induction w generalizing n with
  | zero =>
    rw [Nat.pow_zero] at h
    obtain rfl : n = 0 := by omega
    rfl
  | succ w ih =>
    have hlt : n / 10 < 10 ^ w := by
      rw [Nat.pow_succ] at h
      omega
    rw [fixed, Nat.ofDigitChars_append, ih _ hlt,
      Nat.ofDigitChars_cons_digitChar_of_lt_ten (Nat.mod_lt n (by decide)), Nat.ofDigitChars_nil]
    exact Nat.div_add_mod n 10

theorem digits_fixed {w n : Nat} (h : n < 10 ^ w) (rest : List Char) :
    digits w (fixed w n ++ rest) = some (n, rest) := by
  have hlen := fixed_length w n
  have htake : (fixed w n ++ rest).take w = fixed w n := List.take_left' hlen
  have hdrop : (fixed w n ++ rest).drop w = rest := List.drop_left' hlen
  have hall : (fixed w n).all Char.isDigit = true := List.all_eq_true.mpr (fixed_digits w n)
  have hle : w ≤ (fixed w n ++ rest).length := by
    rw [List.length_append, hlen]
    exact Nat.le_add_right w _
  rw [digits, htake, hdrop, if_pos ⟨hle, hall⟩, ofDigitChars_fixed w n h]

theorem fixed_head (w n : Nat) (rest : List Char) :
    ∃ c, (fixed (w + 1) n ++ rest).head? = some c ∧ c.isDigit = true := by
  have hlen := fixed_length (w + 1) n
  have hdig := fixed_digits (w + 1) n
  cases hf : fixed (w + 1) n with
  | nil =>
    rw [hf] at hlen
    cases hlen
  | cons c cs =>
    rw [hf] at hdig
    exact ⟨c, rfl, hdig c List.mem_cons_self⟩

theorem parseFraction_fixed {f : Nat} (h : f < 1000000) :
    parseFraction (if f = 0 then [] else '.' :: fixed 6 f) = some f := by
  by_cases h0 : f = 0
  · rw [if_pos h0, h0]
    rfl
  · have hlen := fixed_length 6 f
    have hall : (fixed 6 f).all Char.isDigit = true := List.all_eq_true.mpr (fixed_digits 6 f)
    have hne : fixed 6 f ≠ [] := by
      intro hnil
      rw [hnil] at hlen
      cases hlen
    have htake : (fixed 6 f).take 6 = fixed 6 f := List.take_of_length_le (Nat.le_of_eq hlen)
    rw [if_neg h0, parseFraction, if_pos ⟨Or.inl rfl, hne, hall⟩, htake, hlen,
      ofDigitChars_fixed 6 f h]
    simp

theorem parseClock_clock {s : Nat} (h : s < dayMicros) :
    parseClock (clock s) =
      some (s / 3600000000, s / 60000000 % 60, s / 1000000 % 60, s % 1000000) := by
  have hh : s / 3600000000 < 10 ^ 2 := by
    rw [dayMicros] at h
    omega
  have hm : s / 60000000 % 60 < 10 ^ 2 := Nat.lt_trans (Nat.mod_lt _ (by decide)) (by decide)
  have hs : s / 1000000 % 60 < 10 ^ 2 := Nat.lt_trans (Nat.mod_lt _ (by decide)) (by decide)
  have hf : s % 1000000 < 1000000 := Nat.mod_lt _ (by decide)
  rw [parseClock, clock, digits_fixed hh]
  simp only [Option.bind_some, reduceCtorEq, if_false, List.head?_cons, if_true, List.tail_cons]
  rw [digits_fixed hm]
  simp only [Option.bind_some, reduceCtorEq, if_false, List.head?_cons, List.tail_cons, ne_eq,
    not_true_eq_false, and_false]
  rw [digits_fixed hs]
  simp only [Option.bind_some, parseFraction_fixed hf, Option.map_some]

theorem micros_clock {s : Nat} :
    micros (s / 3600000000, s / 60000000 % 60, s / 1000000 % 60, s % 1000000) = s := by
  simp only [micros]
  omega

theorem clock_char {s : Nat} {c : Char} (h : c ∈ clock s) :
    c.isDigit = true ∨ c = ':' ∨ c = '.' := by
  simp only [clock, List.mem_append, List.mem_cons] at h
  obtain h | rfl | h | rfl | h | h := h
  · exact Or.inl (fixed_digits _ _ c h)
  · exact Or.inr (Or.inl rfl)
  · exact Or.inl (fixed_digits _ _ c h)
  · exact Or.inr (Or.inl rfl)
  · exact Or.inl (fixed_digits _ _ c h)
  · split at h
    · cases h
    · obtain rfl | h := List.mem_cons.mp h
      · exact Or.inr (Or.inr rfl)
      · exact Or.inl (fixed_digits _ _ c h)

theorem clock_ne {s : Nat} {c d : Char} (h : c ∈ clock s) (hd : d.isDigit = false)
    (hcolon : d ≠ ':') (hdot : d ≠ '.') : c ≠ d := by
  obtain h | rfl | rfl := clock_char h
  · exact digit_ne h hd
  · exact hcolon.symm
  · exact hdot.symm

theorem parseTime_clock {s : Nat} (h : s < dayMicros) :
    parseTime (clock s ++ ['+', '0', '0', ':', '0', '0']) =
      some ((s / 3600000000, s / 60000000 % 60, s / 1000000 % 60, s % 1000000), some 0) := by
  have hminus : '-' ∉ clock s ++ ['+', '0', '0', ':', '0', '0'] := by
    intro hm
    obtain hm | hm := List.mem_append.mp hm
    · exact clock_ne hm rfl (by decide) (by decide) rfl
    · revert hm
      decide
  have hplus : '+' ∈ clock s ++ ['+', '0', '0', ':', '0', '0'] :=
    List.mem_append_right _ List.mem_cons_self
  have hclock : ∀ c ∈ clock s, decide (c ≠ '+') = true := by
    intro c hc
    exact decide_eq_true (clock_ne hc rfl (by decide) (by decide))
  simp only [parseTime, if_neg hminus, if_pos hplus]
  rw [List.takeWhile_append_of_pos hclock, List.dropWhile_append_of_pos hclock]
  have htake : (['+', '0', '0', ':', '0', '0'].takeWhile fun c => decide (c ≠ '+')) = [] := rfl
  have hdrop : (['+', '0', '0', ':', '0', '0'].dropWhile fun c => decide (c ≠ '+')) =
    ['+', '0', '0', ':', '0', '0'] := rfl
  have hoffset : parseOffset '+' ['0', '0', ':', '0', '0'] = some 0 := by decide
  rw [htake, hdrop, List.append_nil, parseClock_clock h]
  simp [hoffset]

theorem separator_fixed (year month : Nat) (rest : List Char) (h : 3 < rest.length) :
    separator (fixed 4 year ++ ('-' :: (fixed 2 month ++ rest))) = some 10 := by
  have hlen := fixed_length 4 year
  obtain ⟨c, hc, hdig⟩ := fixed_head 1 month rest
  have h4 : (fixed 4 year ++ ('-' :: (fixed 2 month ++ rest)))[4]? = some '-' := by
    rw [List.getElem?_append_right (Nat.le_of_eq hlen), hlen]
    rfl
  have h5 : (fixed 4 year ++ ('-' :: (fixed 2 month ++ rest)))[5]? = some c := by
    rw [List.getElem?_append_right (by omega), hlen, List.getElem?_cons_succ, ← hc,
      List.head?_eq_getElem?]
  have h7 : ¬ (fixed 4 year ++ ('-' :: (fixed 2 month ++ rest))).length = 7 := by
    simp only [List.length_append, List.length_cons, fixed_length]
    omega
  have hW : ¬ some c = some 'W' := by
    rw [Option.some_inj]
    exact digit_ne hdig rfl
  rw [separator, if_neg h7, if_pos h4, h5, if_neg hW]

theorem parseDate_fixed {d : Date} (h : d.Valid) :
    parseDate (fixed 4 d.year ++ '-' :: (fixed 2 d.month ++ '-' :: fixed 2 d.day)) = some d := by
  obtain ⟨hy1, hy, hm1, hm, hd1, hd⟩ := h
  have hday : d.day < 10 ^ 2 := by
    have hdim : daysInMonth (isLeap d.year) d.month ≤ 31 := by
      rw [daysInMonth]
      split
      · split <;> decide
      · split <;> decide
    omega
  obtain ⟨c, hc, hdig⟩ := fixed_head 1 d.month ('-' :: fixed 2 d.day)
  have hW : ¬ (fixed 2 d.month ++ '-' :: fixed 2 d.day).head? = some 'W' := by
    rw [hc, Option.some_inj]
    exact digit_ne hdig rfl
  rw [parseDate, digits_fixed (by omega)]
  simp only [Option.bind_some, List.head?_cons, if_true, List.tail_cons, if_neg hW]
  rw [digits_fixed (by omega)]
  simp only [Option.bind_some, List.head?_cons, if_true, List.tail_cons]
  rw [← List.append_nil (fixed 2 d.day), digits_fixed hday]
  rfl

/-- The text of an instant shows the instant and no offset. -/
theorem fromIsoformat_isoformat {t : Nat} (h : t < maxDays * dayMicros) :
    fromIsoformat (isoformat t) = some (t, some 0) := by
  have hdays : t / dayMicros < maxDays := Nat.div_lt_of_lt_mul (by rwa [Nat.mul_comm] at h)
  have hs : t % dayMicros < dayMicros := Nat.mod_lt _ (by decide)
  obtain ⟨hvalid, hto⟩ := ofDays_spec hdays
  obtain ⟨d, hd⟩ : ∃ d, d = Date.ofDays (t / dayMicros) := ⟨_, rfl⟩
  obtain ⟨s, hsec⟩ : ∃ s, s = t % dayMicros := ⟨_, rfl⟩
  rw [← hd] at hvalid hto
  rw [← hsec] at hs
  obtain ⟨date, hdate⟩ : ∃ date, date =
      fixed 4 d.year ++ '-' :: (fixed 2 d.month ++ '-' :: fixed 2 d.day) := ⟨_, rfl⟩
  have hlen : date.length = 10 := by
    rw [hdate]
    simp only [List.length_append, List.length_cons, fixed_length]
  have hiso : isoformat t = date ++ 'T' :: (clock s ++ ['+', '0', '0', ':', '0', '0']) := by
    simp only [isoformat, ← hd, ← hsec, hdate, List.append_assoc, List.cons_append]
  have htime : ¬ (clock s ++ ['+', '0', '0', ':', '0', '0']).isEmpty = true := by simp
  have hlong : ¬ (date ++ 'T' :: (clock s ++ ['+', '0', '0', ':', '0', '0'])).length < 7 := by
    rw [List.length_append, hlen]
    omega
  have hsep : separator (date ++ 'T' :: (clock s ++ ['+', '0', '0', ':', '0', '0'])) = some 10 := by
    rw [hdate, List.append_assoc, List.cons_append, List.append_assoc]
    apply separator_fixed
    simp only [List.length_append, List.length_cons]
    omega
  rw [hiso, fromIsoformat, if_neg hlong, hsep]
  simp only [Option.bind_some]
  rw [List.take_left' hlen, List.drop_append, List.drop_of_length_le (by omega), hlen, hdate,
    parseDate_fixed hvalid]
  simp only [Option.bind_some, Nat.reduceAdd, Nat.reduceSub, List.drop_succ_cons, List.drop_zero,
    List.nil_append, if_neg htime]
  rw [parseTime_clock hs]
  have h24 : s / 3600000000 < 24 := by
    rw [dayMicros] at hs
    omega
  have h60 (n : Nat) : n % 60 < 60 := Nat.mod_lt n (by decide)
  have hrange : d.Valid ∧ s / 3600000000 < 24 ∧ s / 60000000 % 60 < 60 ∧ s / 1000000 % 60 < 60 :=
    ⟨hvalid, h24, h60 _, h60 _⟩
  simp only [Option.bind_some, if_pos hrange, micros_clock, hto]
  rw [hsec, Nat.mul_comm, Nat.div_add_mod]

end TravelAgent.IsoTime

import TravelAgent.Numerals

namespace TravelAgent.RestaurantHours

open TravelAgent.Numerals TravelAgent.Texts
open TravelAgent.TaskStore (pySpace)

inductive OpeningStatus where
  | open
  | closed
  | unknown
deriving DecidableEq, Repr

inductive MealType where
  | breakfast
  | lunch
  | dinner
  | snack
deriving DecidableEq, Repr

def MealType.name : MealType → String
  | .breakfast => "breakfast"
  | .lunch => "lunch"
  | .dinner => "dinner"
  | .snack => "snack"

def invalidClock (value : String) : String := "Invalid clock value: '" ++ value ++ "'"

/-- `parse_clock` -/
def parseClock (value : String) : Except String Nat :=
  let text := trim pySpace value.toList
  match text.dropWhile fun c => c ≠ ':' with
  | [] => .error (invalidClock value)
  | _ :: rest =>
    match readInt (text.takeWhile fun c => c ≠ ':'), readInt rest with
    | some hour, some minute =>
      if hour < 0 ∨ minute < 0 ∨ 59 < minute then .error (invalidClock value)
      else .ok (hour.toNat * 60 + minute.toNat)
    | _, _ => .error "invalid literal for int() with base 10"

/-- `format_clock` -/
def formatClock (totalMinutes : Nat) : String :=
  String.ofList (pad2 (totalMinutes / 60) ++ ':' :: pad2 (totalMinutes % 60))

def unknownMarkers : List String := ["暂无", "未知", "待确认", "未提供"]

def allDayMarkers : List String := ["24小时", "全天", "24h"]

/-- Two digits where the first one is no more than a bound. -/
def boundedPair (bound : Char) (a b : Char) : Option Nat :=
  if '0'.toNat ≤ a.toNat ∧ a.toNat ≤ bound.toNat then
    (decimal b).map fun d => 10 * (a.toNat - 48) + d
  else none

def minuteAt : List Char → Option (Nat × List Char)
  | m :: n :: rest => (boundedPair '5' m n).map fun minute => (minute, rest)
  | _ => none

def hourPairAt : List Char → Option (Nat × List Char)
  | a :: b :: ':' :: rest => (boundedPair '2' a b).map fun hour => (hour, rest)
  | _ => none

def hourDigitAt : List Char → Option (Nat × List Char)
  | a :: ':' :: rest => (decimal a).map fun hour => (hour, rest)
  | _ => none

/-- Hour and minute at the start of a text. -/
def clockAt (cs : List Char) : Option ((Nat × Nat) × List Char) :=
  ((hourPairAt cs).or (hourDigitAt cs)).bind fun h =>
    (minuteAt h.2).map fun m => ((h.1, m.1), m.2)

/-- `_CLOCK_RANGE` at the start of a text. -/
def rangeAt (cs : List Char) : Option (((Nat × Nat) × Nat × Nat) × List Char) :=
  (clockAt cs).bind fun s =>
    match s.2.dropWhile pySpace with
    | c :: rest =>
      if ['-', '~', '～', '—', '–', '至'].contains c then
        (clockAt (rest.dropWhile pySpace)).map fun e => ((s.1, e.1), e.2)
      else none
    | [] => none

/-- `finditer`, with the length of the text as fuel. -/
def rangesIn : Nat → List Char → List ((Nat × Nat) × Nat × Nat)
  | 0, _ => []
  | _ + 1, [] => []
  | n + 1, c :: cs =>
    match rangeAt (c :: cs) with
    | some (r, rest) => r :: rangesIn n rest
    | none => rangesIn n cs

def openingRange (r : (Nat × Nat) × Nat × Nat) : Option (Nat × Nat) :=
  let ((startH, startM), endH, endM) := r
  if 24 < startH ∨ 24 < endH then none
  else if (startH = 24 ∧ startM ≠ 0) ∨ (endH = 24 ∧ endM ≠ 0) then none
  else
    let start := startH * 60 + startM
    let stop := endH * 60 + endM
    if start = stop then if start = 0 then some (0, 24 * 60) else none
    else if stop < start then some (start, stop + 24 * 60)
    else some (start, stop)

/-- `parse_opening_ranges` -/
def parseOpeningRanges (openingHours : String) : List (Nat × Nat) :=
  let text := trim pySpace openingHours.toList
  let compact := (lower text).filter fun c => !pySpace c
  if text.isEmpty || unknownMarkers.any fun m => contains text m.toList then []
  else if allDayMarkers.any fun m => contains compact m.toList then [(0, 24 * 60)]
  else (rangesIn text.length text).filterMap openingRange

/-- `opening_status_for_interval` -/
def openingStatusForInterval (openingHours : String) (startMinute endMinute : Nat) :
    OpeningStatus :=
  let ranges := parseOpeningRanges openingHours
  if ranges.isEmpty then .unknown
  else if endMinute ≤ startMinute then .closed
  else if ranges.any fun r => [0, 24 * 60].any fun offset =>
      decide (r.1 + offset ≤ startMinute) && decide (endMinute ≤ r.2 + offset) then .open
  else .closed

/-- `format_opening_ranges` -/
def formatOpeningRanges (openingHours : String) : List String :=
  (parseOpeningRanges openingHours).map fun r => formatClock r.1 ++ "-" ++ formatClock r.2

structure TimelineItem where
  itemType : String
  startTime : String
  endTime : String
deriving DecidableEq, Repr

/-- The hours of the three meals of a day, in minutes. -/
structure MealServiceIntervals where
  breakfast : Nat × Nat
  lunch : Nat × Nat
  dinner : Nat × Nat
deriving DecidableEq, Repr

/-- The lunch that the timeline names last, and the latest end on it. -/
def readTimeline (timeline : List TimelineItem) : (Nat × Nat) × Nat :=
  timeline.foldl (fun acc item =>
    match parseClock item.startTime, parseClock item.endTime with
    | .ok start, .ok stop =>
      (if item.itemType = "meal" then (start, stop) else acc.1, max acc.2 stop)
    | _, _ => acc) ((12 * 60, 13 * 60), 18 * 60)

/-- `meal_service_intervals` -/
def mealServiceIntervals (timeline : List TimelineItem) (lunchWindowStart lunchWindowEnd : String) :
    Except String MealServiceIntervals := do
  let windowStart ← parseClock lunchWindowStart
  let windowEnd ← parseClock lunchWindowEnd
  if windowEnd ≤ windowStart then
    .error "lunch_window_end must be later than lunch_window_start"
  else
    let ((lunchStart, lunchEnd), lastEnd) := readTimeline timeline
    let duration := min (max 1 (lunchEnd - lunchStart)) (windowEnd - windowStart)
    let lunch := min (max lunchStart windowStart) (windowEnd - duration)
    let dinner := max (18 * 60) lastEnd
    return ⟨(8 * 60, 8 * 60 + 45), (lunch, lunch + duration), (dinner, dinner + 60)⟩

def MealServiceIntervals.of (m : MealServiceIntervals) : MealType → Nat × Nat
  | .breakfast => m.breakfast
  | .lunch => m.lunch
  | _ => m.dinner

/-- The text of a clock before and after its colon. -/
theorem formatClock_parts (m : Nat) :
    (formatClock m).toList.takeWhile (fun c => c ≠ ':') = pad2 (m / 60) ∧
      (formatClock m).toList.dropWhile (fun c => c ≠ ':') = ':' :: pad2 (m % 60) := by
  obtain ⟨-, hhour, -⟩ := pad2_spec (m / 60)
  have hcolon : ∀ c ∈ pad2 (m / 60), decide (c ≠ ':') = true := by
    intro c hc
    exact decide_eq_true (digit_ne (hhour c hc) rfl)
  rw [formatClock, String.toList_ofList, List.dropWhile_append_of_pos hcolon,
    List.takeWhile_append_of_pos hcolon, List.dropWhile_cons_of_neg (by decide),
    List.takeWhile_cons_of_neg (by decide), List.append_nil]
  exact ⟨rfl, rfl⟩

theorem trim_formatClock (m : Nat) : trim pySpace (formatClock m).toList = (formatClock m).toList := by
  obtain ⟨-, hhour, -⟩ := pad2_spec (m / 60)
  obtain ⟨-, hminute, -⟩ := pad2_spec (m % 60)
  rw [formatClock, String.toList_ofList]
  apply trim_digits
  intro c hc
  rw [List.mem_append, List.mem_cons] at hc
  obtain hc | rfl | hc := hc
  · exact digit_not_space (hhour c hc)
  · rfl
  · exact digit_not_space (hminute c hc)

/-- A written clock is read back. -/
theorem parseClock_formatClock (m : Nat) : parseClock (formatClock m) = .ok m := by
  obtain ⟨htake, hdrop⟩ := formatClock_parts m
  have hlt : m % 60 < 60 := Nat.mod_lt m (by decide)
  have hrange : ¬ (((m / 60 : Nat) : Int) < 0 ∨ ((m % 60 : Nat) : Int) < 0 ∨
      59 < ((m % 60 : Nat) : Int)) := by omega
  rw [parseClock, trim_formatClock, htake, hdrop]
  simp only [readInt_pad2, if_neg hrange, Int.toNat_natCast]
  rw [Nat.mul_comm, Nat.div_add_mod]

end TravelAgent.RestaurantHours

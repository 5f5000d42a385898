import TravelAgent.RestaurantHours

namespace TravelAgent.RestaurantHours

open TravelAgent.Numerals

/-- `opening_status_for_interval`, on the integers that its annotation admits. -/
def openingStatus (openingHours : String) (startMinute endMinute : Int) : OpeningStatus :=
  let ranges := parseOpeningRanges openingHours
  if ranges.isEmpty then .unknown
  else if endMinute ≤ startMinute then .closed
  else if ranges.any fun r => [0, 24 * 60].any fun offset : Int =>
      decide (r.1 + offset ≤ startMinute) && decide (endMinute ≤ r.2 + offset) then .open
  else .closed

theorem openingStatus_natCast (openingHours : String) (startMinute endMinute : Nat) :
    openingStatus openingHours startMinute endMinute =
      openingStatusForInterval openingHours startMinute endMinute := by
  have hany (r : Nat × Nat) : ([0, 24 * 60].any fun offset : Int =>
      decide (r.1 + offset ≤ (startMinute : Int)) && decide ((endMinute : Int) ≤ r.2 + offset)) =
        [0, 24 * 60].any fun offset =>
          decide (r.1 + offset ≤ startMinute) && decide (endMinute ≤ r.2 + offset) := by
    apply Bool.eq_iff_iff.mpr
    simp only [List.any_cons, List.any_nil, Bool.or_false, Bool.or_eq_true, Bool.and_eq_true,
      decide_eq_true_eq]
    omega
  simp only [openingStatus, openingStatusForInterval, Int.ofNat_le, hany]

/-- The interval, moved by whole days, lies in a range of the text. -/
def FitsSomeDay (openingHours : String) (startMinute endMinute : Int) : Prop :=
  ∃ r ∈ parseOpeningRanges openingHours, ∃ days : Int,
    r.1 ≤ startMinute + days * (24 * 60) ∧ endMinute + days * (24 * 60) ≤ r.2

def AllDay (openingHours : String) : Prop := (0, 24 * 60) ∈ parseOpeningRanges openingHours

/-- An interval is open when it fits on some day, and on all-day texts in any case. -/
def DayPeriodic (openingHours : String) (startMinute endMinute : Int) : Prop :=
  (openingStatus openingHours startMinute endMinute = .open ↔
      FitsSomeDay openingHours startMinute endMinute) ∧
    (AllDay openingHours → openingStatus openingHours startMinute endMinute = .open)

/-- From the last opening before the interval there is time enough for it. -/
def Room (r : Nat × Nat) (startMinute endMinute : Int) : Prop :=
  (startMinute - r.1) % (24 * 60) + (endMinute - startMinute) ≤ r.2 - r.1

/-- The range opens first before the interval, and less than two days before it. -/
def Near (r : Nat × Nat) (startMinute : Int) : Prop :=
  r.1 ≤ startMinute ∧ startMinute < r.1 + 2 * (24 * 60)

/-- Where a range has room for the interval, or is open all day, one that has room is near. -/
def Reached (openingHours : String) (startMinute endMinute : Int) : Prop :=
  (∃ r ∈ parseOpeningRanges openingHours, Room r startMinute endMinute) ∨ AllDay openingHours →
    ∃ r ∈ parseOpeningRanges openingHours, Room r startMinute endMinute ∧ Near r startMinute

theorem decimal_le {c : Char} {d : Nat} (h : decimal c = some d) : d ≤ 9 := by
  obtain ⟨z, -, hz⟩ := List.exists_of_findSome?_eq_some h
  split at hz
  · cases hz
    omega
  · cases hz

theorem boundedPair_lt {a b : Char} {m : Nat} (h : boundedPair '5' a b = some m) : m < 60 := by
  unfold boundedPair at h
  split at h
  · rename_i hbound
    obtain ⟨d, hd, rfl⟩ := Option.map_eq_some_iff.mp h
    have hdigit := decimal_le hd
    have hfive : '5'.toNat = 53 := rfl
    have hzero : '0'.toNat = 48 := rfl
    omega
  · cases h

theorem clockAt_minute {cs rest : List Char} {h m : Nat} (hc : clockAt cs = some ((h, m), rest)) :
    m < 60 := by
  obtain ⟨hour, -, hm⟩ := Option.bind_eq_some_iff.mp hc
  obtain ⟨minute, hminute, he⟩ := Option.map_eq_some_iff.mp hm
  obtain ⟨⟨-, rfl⟩, -⟩ := Prod.ext_iff.mp he |>.imp Prod.ext_iff.mp id
  unfold minuteAt at hminute
  split at hminute
  · obtain ⟨v, hv, rfl⟩ := Option.map_eq_some_iff.mp hminute
    exact boundedPair_lt hv
  · cases hminute

theorem rangeAt_minutes {cs rest : List Char} {r : (Nat × Nat) × Nat × Nat}
    (h : rangeAt cs = some (r, rest)) : r.1.2 < 60 ∧ r.2.2 < 60 := by
  obtain ⟨⟨⟨startH, startM⟩, tail⟩, hstart, h⟩ := Option.bind_eq_some_iff.mp h
  dsimp only at h
  split at h
  · split at h
    · obtain ⟨⟨⟨endH, endM⟩, tail'⟩, hend, he⟩ := Option.map_eq_some_iff.mp h
      cases he
      exact ⟨clockAt_minute hstart, clockAt_minute hend⟩
    · cases h
  · cases h

theorem rangesIn_minutes {n : Nat} {cs : List Char} {r : (Nat × Nat) × Nat × Nat}
    (h : r ∈ rangesIn n cs) : r.1.2 < 60 ∧ r.2.2 < 60 := by
  induction n generalizing cs with
  | zero => cases h
  | succ n ih =>
    cases cs with
    | nil => cases h
    | cons c cs =>
      rw [rangesIn] at h
      split at h
      · rename_i hrange
        obtain rfl | h := List.mem_cons.mp h
        · exact rangeAt_minutes hrange
        · exact ih h
      · exact ih h

/-- No range that is read goes on for longer than a day. -/
theorem parseOpeningRanges_span {openingHours : String} {r : Nat × Nat}
    (h : r ∈ parseOpeningRanges openingHours) : r.2 ≤ r.1 + 24 * 60 := by
  simp only [parseOpeningRanges] at h
  split at h
  · cases h
  · split at h
    · obtain rfl := List.mem_singleton.mp h
      omega
    · obtain ⟨⟨⟨startH, startM⟩, endH, endM⟩, hread, hr⟩ := List.mem_filterMap.mp h
      have hminutes := rangesIn_minutes hread
      simp only [openingRange] at hr
      split at hr
      · cases hr
      · split at hr
        · cases hr
        · split at hr
          · split at hr
            · cases hr
              omega
            · cases hr
          · split at hr
            · cases hr
              omega
            · cases hr
              dsimp only at hminutes
              omega

/-- At most one day is the right one: that of the last opening before the interval. -/
theorem room_iff {r : Nat × Nat} (hspan : r.2 ≤ r.1 + 24 * 60) {startMinute endMinute : Int}
    (h : startMinute < endMinute) :
    (∃ days : Int, r.1 ≤ startMinute + days * (24 * 60) ∧
        endMinute + days * (24 * 60) ≤ r.2) ↔ Room r startMinute endMinute := by
  unfold Room
  constructor
  · rintro ⟨days, hopen, hclose⟩
    omega
  · intro hroom
    refine ⟨-((startMinute - r.1) / (24 * 60)), ?_, ?_⟩
    · omega
    · omega

theorem fitsSomeDay_iff {openingHours : String} {startMinute endMinute : Int}
    (h : startMinute < endMinute) :
    FitsSomeDay openingHours startMinute endMinute ↔
      ∃ r ∈ parseOpeningRanges openingHours, Room r startMinute endMinute := by
  apply exists_congr
  intro r
  apply and_congr_right
  intro hr
  exact room_iff (parseOpeningRanges_span hr) h

theorem near_iff {r : Nat × Nat} (hspan : r.2 ≤ r.1 + 24 * 60) {startMinute endMinute : Int}
    (h : startMinute < endMinute) :
    (r.1 + 0 ≤ startMinute ∧ endMinute ≤ r.2 + 0 ∨
        r.1 + 24 * 60 ≤ startMinute ∧ endMinute ≤ r.2 + 24 * 60) ↔
      Room r startMinute endMinute ∧ Near r startMinute := by
  unfold Room Near
  omega

/-- The test tries the day of the opening and the day after it. -/
theorem openingStatus_open_iff {openingHours : String} {startMinute endMinute : Int}
    (h : startMinute < endMinute) :
    openingStatus openingHours startMinute endMinute = .open ↔
      ∃ r ∈ parseOpeningRanges openingHours,
        Room r startMinute endMinute ∧ Near r startMinute := by
  have hany : ((parseOpeningRanges openingHours).any fun r => [0, 24 * 60].any fun offset : Int =>
      decide (r.1 + offset ≤ startMinute) && decide (endMinute ≤ r.2 + offset)) = true ↔
        ∃ r ∈ parseOpeningRanges openingHours,
          Room r startMinute endMinute ∧ Near r startMinute := by
    rw [List.any_eq_true]
    apply exists_congr
    intro r
    apply and_congr_right
    intro hr
    rw [← near_iff (parseOpeningRanges_span hr) h]
    simp only [List.any_cons, List.any_nil, Bool.or_false, Bool.or_eq_true, Bool.and_eq_true,
      decide_eq_true_eq]
  rw [← hany]
  simp only [openingStatus, if_neg (not_le.mpr h)]
  split
  · rename_i hempty
    rw [List.isEmpty_iff.mp hempty]
    exact iff_of_false nofun nofun
  · split
    · rename_i hopen
      exact iff_of_true rfl hopen
    · rename_i hopen
      exact iff_of_false nofun hopen

/-- Moving an interval by days makes no difference exactly where the days tried suffice. -/
theorem dayPeriodic_iff (openingHours : String) {startMinute endMinute : Int}
    (h : startMinute < endMinute) :
    DayPeriodic openingHours startMinute endMinute ↔
      Reached openingHours startMinute endMinute := by
  rw [DayPeriodic, fitsSomeDay_iff h, openingStatus_open_iff h, Reached]
  constructor
  · rintro ⟨hfits, hall⟩ (hroom | hday)
    · exact hfits.mpr hroom
    · exact hall hday
  · intro hreached
    refine ⟨⟨?_, ?_⟩, ?_⟩
    · rintro ⟨r, hr, hroom, -⟩
      exact ⟨r, hr, hroom⟩
    · exact fun hroom => hreached (Or.inl hroom)
    · exact fun hday => hreached (Or.inr hday)

theorem bar_hours : parseOpeningRanges "18:00-02:00" = [(18 * 60, 26 * 60)] := by decide +kernel

/-- At eleven in the evening a bar that closes at two is open, on this day and the next. -/
theorem bar_in_the_evening :
    DayPeriodic "18:00-02:00" (23 * 60) (24 * 60) ∧ DayPeriodic "18:00-02:00" (47 * 60) (48 * 60) := by
  have hroom (days : Int) : Room (18 * 60, 26 * 60) ((23 + 24 * days) * 60) ((24 + 24 * days) * 60) := by
    unfold Room
    omega
  have hmem : (18 * 60, 26 * 60) ∈ parseOpeningRanges "18:00-02:00" := by
    rw [bar_hours]
    exact List.mem_singleton.mpr rfl
  refine ⟨(dayPeriodic_iff _ (by decide)).mpr fun _ => ⟨_, hmem, hroom 0, ?_⟩,
    (dayPeriodic_iff _ (by decide)).mpr fun _ => ⟨_, hmem, hroom 1, ?_⟩⟩
  · unfold Near
    decide
  · unfold Near
    decide

/-- Between one and two at night it is taken for closed. -/
theorem bar_after_midnight : ¬DayPeriodic "18:00-02:00" (1 * 60) (2 * 60) := by
  intro h
  have hfits : FitsSomeDay "18:00-02:00" (1 * 60) (2 * 60) := by
    refine ⟨(18 * 60, 26 * 60), ?_, 1, ?_⟩
    · rw [bar_hours]
      exact List.mem_singleton.mpr rfl
    · decide
  have hopen := h.1.mpr hfits
  simp only [openingStatus, bar_hours] at hopen
  exact absurd hopen (by decide)

end TravelAgent.RestaurantHours

import TravelAgent.ConstraintIssues
import TravelAgent.TimelineLunch

namespace TravelAgent.Scheduling

open TravelAgent.Itinerary TravelAgent.Attempts TravelAgent.Numerals
open TravelAgent.Agent (RouteEstimateResult)
open TravelAgent.RestaurantHours (formatClock)
open TravelAgent.Constraints (ConstraintEvaluator timelineClock timelineClock_formatClock Untimely
  untimely_of_code)

def meals (timeline : List TimelineItem) : List TimelineItem :=
  timeline.filter fun i => decide (i.itemType = .meal)

/-- From a minute in the window up to a minute in the window. -/
def InWindow (cfg : ScheduleTimelineEvaluator) (i : TimelineItem) : Prop :=
  ∃ start stop, i.startTime = formatClock start ∧ i.endTime = formatClock stop ∧
    cfg.lunchWindowStartMinute ≤ start ∧ stop ≤ cfg.lunchWindowEndMinute

/-- Lunch is still to come and the cursor not too late for it, or lunch has been once. -/
inductive LunchKept (cfg : ScheduleTimelineEvaluator) (s : DayState) : Prop
  | due (added : s.lunchAdded = false) (none : meals s.timeline = [])
      (inTime : 0 < cfg.lunchDurationMinutes → s.current ≤ cfg.latestLunchStartMinute)
  | had (added : s.lunchAdded = true) (i : TimelineItem) (one : meals s.timeline = [i])
      (window : InWindow cfg i)

variable {day : DayFrame} {s : DayState}

theorem appendRawItem_noMeal (day : DayFrame) {itemType : ItemType} (hmeal : itemType ≠ .meal)
    (name : String) (duration : Nat) (sourceIndex : Option Nat) (source : Option TimeSource) :
    meals (appendRawItem day itemType name duration sourceIndex source s).timeline =
      meals s.timeline := by
  unfold appendRawItem
  split
  · rfl
  · rw [meals, List.filter_append, List.filter_cons_of_neg (by simpa using hmeal), List.filter_nil,
      List.append_nil, meals]

/-- The meal goes where the cursor stands. -/
theorem appendRawItem_lunch (day : DayFrame) (name : String) {duration : Nat} (hd : duration ≠ 0)
    (hnone : meals s.timeline = []) :
    ∃ i, meals (appendRawItem day .meal name duration none none s).timeline = [i] ∧
      i.startTime = formatClock s.current ∧ i.endTime = formatClock (s.current + duration) := by
  refine ⟨⟨.meal, name, formatClock s.current, formatClock (s.current + duration), duration,
    day.dayIndex, none, none⟩, ?_, rfl, rfl⟩
  rw [meals] at hnone
  rw [appendRawItem, if_neg hd, meals, List.filter_append, hnone, List.nil_append]
  rfl

theorem appendLunch_had (hadded : s.lunchAdded = false) (hnone : meals s.timeline = [])
    (hlunch : 0 < day.cfg.lunchDurationMinutes)
    (htime : s.current ≤ day.cfg.latestLunchStartMinute) : LunchKept day.cfg (appendLunch day s) := by
  have hfits := day.cfg.lunchFits
  have hwindow := day.cfg.window
  have hd : day.cfg.lunchDurationMinutes ≠ 0 := Nat.ne_of_gt hlunch
  have hskip : ¬(s.lunchAdded = true ∨ day.cfg.lunchDurationMinutes = 0) := by
    rw [hadded]
    simp only [Bool.false_eq_true, false_or]
    exact hd
  unfold ScheduleTimelineEvaluator.latestLunchStartMinute at htime
  have hmeal : ∀ u : DayState, meals u.timeline = [] →
      day.cfg.lunchWindowStartMinute ≤ u.current →
      u.current + day.cfg.lunchDurationMinutes ≤ day.cfg.lunchWindowEndMinute →
      let v := appendRawItem day .meal day.lunchName day.cfg.lunchDurationMinutes none none u
      LunchKept day.cfg
        { v with mealMinutes := v.mealMinutes + day.cfg.lunchDurationMinutes, lunchAdded := true } := by
    intro u hnone hstart hstop
    obtain ⟨i, hone, hfrom, hto⟩ := appendRawItem_lunch day day.lunchName hd hnone
    exact .had rfl i hone ⟨_, _, hfrom, hto, hstart, hstop⟩
  rw [appendLunch, if_neg hskip]
  by_cases hwait : s.current < day.cfg.lunchWindowStartMinute
  · simp only [if_pos hwait]
    have hpause : ItemType.pause ≠ .meal := by rintro ⟨⟩
    have hcur : (appendRawItem day .pause "午餐窗口等待"
        (day.cfg.lunchWindowStartMinute - s.current) none none s).current =
          s.current + (day.cfg.lunchWindowStartMinute - s.current) :=
      appendRawItem_current _ _ _ _ _
    apply hmeal
    · exact (appendRawItem_noMeal day hpause _ _ none none).trans hnone
    · dsimp only
      omega
    · dsimp only
      omega
  · simp only [if_neg hwait]
    apply hmeal s hnone
    · omega
    · omega

/-- The fields that the invariant reads. -/
theorem LunchKept.congr {cfg : ScheduleTimelineEvaluator} {u : DayState} (h : LunchKept cfg s)
    (htime : u.timeline = s.timeline) (hcur : u.current = s.current)
    (hadd : u.lunchAdded = s.lunchAdded) : LunchKept cfg u := by
  cases h with
  | due added none inTime => exact .due (hadd.trans added) (htime ▸ none) (hcur ▸ inTime)
  | had added i one window => exact .had (hadd.trans added) i (htime ▸ one) window

theorem appendRawItem_had (h : LunchKept day.cfg s) (hadded : s.lunchAdded = true)
    {itemType : ItemType} (hmeal : itemType ≠ .meal) (name : String) (duration : Nat)
    (sourceIndex : Option Nat) (source : Option TimeSource) :
    LunchKept day.cfg (appendRawItem day itemType name duration sourceIndex source s) := by
  cases h with
  | due added none inTime =>
    rw [added] at hadded
    cases hadded
  | had added i one window =>
    refine .had ?_ i ?_ window
    · rw [appendRawItem_lunchAdded, added]
    · rw [appendRawItem_noMeal day hmeal, one]

/-- An item is put off until after lunch where lunch could not wait any longer. -/
theorem appendItem_kept (h : LunchKept day.cfg s) {itemType : ItemType} (hmeal : itemType ≠ .meal)
    (name : String) (duration : Nat) (sourceIndex : Option Nat) (source : Option TimeSource) :
    LunchKept day.cfg (appendItem day itemType name duration sourceIndex source s) := by
  by_cases hd : duration = 0
  · rwa [appendItem, if_pos hd]
  · rw [appendItem, if_neg hd]
    cases h with
    | had added i one window =>
      rw [if_neg fun hgo => Bool.noConfusion (added.symm.trans hgo.1)]
      exact appendRawItem_had (.had added i one window) added hmeal name duration sourceIndex source
    | due added none inTime =>
      by_cases hgo : s.lunchAdded = false ∧ 0 < day.cfg.lunchDurationMinutes ∧ itemType ≠ .meal ∧
          (day.cfg.lunchWindowStartMinute ≤ s.current ∨
            day.cfg.latestLunchStartMinute < s.current + duration)
      · rw [if_pos hgo]
        have hhad := appendLunch_had added none hgo.2.1 (inTime hgo.2.1)
        exact appendRawItem_had hhad (appendLunch_added added hgo.2.1).1 hmeal name duration
          sourceIndex source
      · rw [if_neg hgo]
        refine .due ?_ ?_ ?_
        · rw [appendRawItem_lunchAdded, added]
        · rw [appendRawItem_noMeal day hmeal, none]
        · intro hlunch
          rw [appendRawItem_current]
          by_contra hlate
          exact hgo ⟨added, hlunch, hmeal, .inr (Nat.not_le.mp hlate)⟩

theorem put_kept (h : LunchKept day.cfg s) (p : Piece) : LunchKept day.cfg (put day s p) := by
  cases p with
  | entry e =>
    obtain ⟨htime, hcur, hadd⟩ := begins_fields (s := s) e.source
    have hitem := appendItem_kept (h.congr htime hcur hadd) e.notMeal e.name e.minutes
      (some e.index) e.source
    exact hitem.congr (credit_timeline _ _) (credit_current _ _) (credit_lunchAdded _ _)
  | lateLunch =>
    rw [put]
    split
    · rename_i hgo
      cases h with
      | due added none inTime => exact appendLunch_had added none hgo.2.1 (inTime hgo.2.1)
      | had added i one window =>
        rw [added] at hgo
        exact Bool.noConfusion hgo.1
    · exact h

theorem walk_kept (frame : DayFrame) (pieces : List Piece)
    (hstart : frame.cfg.startMinute ≤ frame.cfg.latestLunchStartMinute) :
    LunchKept frame.cfg (walk frame pieces) := by
  have hfold : ∀ s, LunchKept frame.cfg s → LunchKept frame.cfg (pieces.foldl (put frame) s) := by
    induction pieces with
    | nil => exact fun s h => h
    | cons p pieces ih => exact fun s h => ih _ (put_kept h p)
  apply hfold
  exact .due rfl rfl fun _ => hstart

/-- A day has lunch at most once, and in the window. -/
structure LunchInWindow (cfg : ScheduleTimelineEvaluator) (d : DayScheduleQuality) : Prop where
  once : (meals d.timeline).length ≤ 1
  inside : ∀ i ∈ d.timeline, i.itemType = .meal → InWindow cfg i

theorem LunchKept.inWindow {cfg : ScheduleTimelineEvaluator} (h : LunchKept cfg s) :
    (meals s.timeline).length ≤ 1 ∧ ∀ i ∈ s.timeline, i.itemType = .meal → InWindow cfg i := by
  have hmem : ∀ i ∈ s.timeline, i.itemType = .meal → i ∈ meals s.timeline :=
    fun i hi hmeal => List.mem_filter.mpr ⟨hi, decide_eq_true hmeal⟩
  cases h with
  | due added none inTime =>
    rw [none] at hmem ⊢
    exact ⟨Nat.zero_le _, fun i hi hmeal => absurd (hmem i hi hmeal) List.not_mem_nil⟩
  | had added j one window =>
    rw [one] at hmem ⊢
    refine ⟨le_rfl, ?_⟩
    intro i hi hmeal
    obtain rfl := List.mem_singleton.mp (hmem i hi hmeal)
    exact window

theorem evaluateDay_lunch {cfg : ScheduleTimelineEvaluator} {doubles : Doubles}
    {request : TripRequest} {plan : TripPlan} {routes : List RouteEstimate} {day : DayPlan}
    {position : Nat} {d : DayScheduleQuality}
    (hstart : cfg.startMinute ≤ cfg.latestLunchStartMinute)
    (h : evaluateDay cfg doubles request plan routes day position = .ok d) :
    LunchInWindow cfg d := by
  rw [evaluateDay_walk] at h
  obtain ⟨rides, -, rfl⟩ := map_ok h
  obtain ⟨honce, hinside⟩ := (walk_kept (dayFrame cfg day position)
    (piecesOf cfg plan day position rides) hstart).inWindow
  exact ⟨honce, hinside⟩

theorem evaluate_lunch {F D : Type} {cfg : ScheduleTimelineEvaluator} {doubles : Doubles}
    {request : TripRequest} {plan : TripPlan} {digest : RouteInputs → F}
    {routeEstimates : Option (RouteEstimateResult F D)} {report : ScheduleQualityReport F}
    (hstart : cfg.startMinute ≤ cfg.latestLunchStartMinute)
    (h : evaluate cfg doubles request plan digest routeEstimates = .ok report) :
    ∀ d ∈ report.days, LunchInWindow cfg d := by
  obtain ⟨days, hdays, h⟩ := bind_ok h
  cases h
  intro d hd
  obtain ⟨p, -, hp⟩ := mapM_mem hdays hd
  exact evaluateDay_lunch hstart hp

/-- The times of a meal in the window are read back as they were written. -/
theorem InWindow.timely {F D : Type} {cfg : ScheduleTimelineEvaluator} {ev : ConstraintEvaluator F D}
    (hstart : ev.lunchStart = cfg.lunchWindowStartMinute) (hend : ev.lunchEnd = cfg.lunchWindowEndMinute)
    {timeline : List TimelineItem} {i : TimelineItem} (h : InWindow cfg i) :
    ¬Untimely ev timeline i := by
  rintro ⟨-, -, from', to', hfrom, hto, hout⟩
  obtain ⟨start, stop, hstart', hstop', hlo, hhi⟩ := h
  rw [hstart', timelineClock_formatClock] at hfrom
  rw [hstop', timelineClock_formatClock] at hto
  cases hfrom
  cases hto
  apply hout
  omega

/-- Lunch is scheduled once at most, within the window, and the constraint evaluator with
the same window agrees. -/
theorem lunch_in_window {F D : Type} {cfg : ScheduleTimelineEvaluator} {doubles : Doubles}
    {request : TripRequest} {plan : TripPlan} {digest : RouteInputs → F}
    {routeEstimates : Option (RouteEstimateResult F D)} {report : ScheduleQualityReport F}
    (hstart : cfg.startMinute ≤ cfg.latestLunchStartMinute)
    (h : evaluate cfg doubles request plan digest routeEstimates = .ok report) :
    (∀ d ∈ report.days, LunchInWindow cfg d) ∧
      ∀ ev : ConstraintEvaluator F D, ev.lunchStart = cfg.lunchWindowStartMinute →
        ev.lunchEnd = cfg.lunchWindowEndMinute →
        ∀ request plan weatherInfo attractions weather k,
          Constraints.evaluate ev request plan weatherInfo report attractions weather = .ok k →
            ∀ i ∈ k.issues, i.code ≠ "meal.outside_time_window" := by
  have hlunch := evaluate_lunch hstart h
  refine ⟨hlunch, ?_⟩
  intro ev hs he request plan weatherInfo attractions weather k hk i hi hcode
  obtain ⟨d, hd, item, hitem⟩ := untimely_of_code hk hi hcode
  exact ((hlunch d hd).inside item hitem.listed hitem.meal).timely hs he hitem

/-- The lunch window of the city day, without a pool and a forecast. -/
def workdayConstraints : ConstraintEvaluator Unit Unit :=
  { lunchStart := 690
    lunchEnd := 840
    dailyAttractionSoftLimit := 5
    sources := fun _ => []
    forecasts := fun _ => []
    digest := fun _ => ()
    window := by decide
    positive := by decide }

/-- Two sights with lunch between them, in time. -/
theorem city_lunch_in_window :
    ∃ r k, evaluate workdayEvaluator plainDoubles cityRequest
        (cityPlan [sight "外滩" 90, sight "豫园" 120] []) (fun _ => ())
        (none : Option (RouteEstimateResult Unit Unit)) = .ok r ∧
      r.days.map (fun d => (meals d.timeline).map (·.startTime)) = [["11:50"]] ∧
      (∀ d ∈ r.days, LunchInWindow workdayEvaluator d) ∧
      Constraints.evaluate workdayConstraints cityRequest
        (cityPlan [sight "外滩" 90, sight "豫园" 120] []) [] r none none = .ok k ∧
      ∀ i ∈ k.issues, i.code ≠ "meal.outside_time_window" := by
  have hrun : ((evaluate workdayEvaluator plainDoubles cityRequest
      (cityPlan [sight "外滩" 90, sight "豫园" 120] []) (fun _ => ())
      (none : Option (RouteEstimateResult Unit Unit))).toOption.bind fun r =>
        (Constraints.evaluate workdayConstraints cityRequest
          (cityPlan [sight "外滩" 90, sight "豫园" 120] []) [] r none none).toOption.map fun _ =>
            r.days.map fun d => (meals d.timeline).map (·.startTime)) = some [["11:50"]] := by
    decide +kernel
  cases hr : evaluate workdayEvaluator plainDoubles cityRequest
      (cityPlan [sight "外滩" 90, sight "豫园" 120] []) (fun _ => ())
      (none : Option (RouteEstimateResult Unit Unit)) with
  | error e =>
    rw [hr] at hrun
    cases hrun
  | ok r =>
    rw [hr] at hrun
    obtain ⟨k, hk, htimes⟩ := Option.map_eq_some_iff.mp hrun
    have hok : Constraints.evaluate workdayConstraints cityRequest
        (cityPlan [sight "外滩" 90, sight "豫园" 120] []) [] r none none = .ok k := by
      cases he : Constraints.evaluate workdayConstraints cityRequest
          (cityPlan [sight "外滩" 90, sight "豫园" 120] []) [] r none none with
      | error e =>
        rw [he] at hk
        cases hk
      | ok k' =>
        rw [he] at hk
        rw [Option.some.inj hk]
    obtain ⟨hinside, hnone⟩ := lunch_in_window (by decide) hr
    exact ⟨r, k, rfl, htimes, hinside, hok,
      hnone workdayConstraints rfl rfl _ _ _ _ _ k hok⟩

end TravelAgent.Scheduling

import TravelAgent.TimelineWalk

namespace TravelAgent.Scheduling

/-- What a report shows of an item beside its name and its times. -/
abbrev Shown := Option Nat × Nat × Option TimeSource

def shown (t : ItemType) (timeline : List TimelineItem) : List Shown :=
  (timeline.filter fun i => decide (i.itemType = t)).map fun i =>
    (i.sourceIndex, i.durationMinutes, i.transportationTimeSource)

def shownMeals (timeline : List TimelineItem) : List String :=
  (timeline.filter fun i => decide (i.itemType = .meal)).map (·.name)

def Piece.shown (t : ItemType) : Piece → List Shown
  | .entry e => if e.itemType = t ∧ e.minutes ≠ 0 then [(some e.index, e.minutes, e.source)] else []
  | .lateLunch => []

variable {day : DayFrame} {s : DayState}

theorem appendRawItem_shown (t itemType : ItemType) (name : String) (duration : Nat)
    (sourceIndex : Option Nat) (source : Option TimeSource) :
    shown t (appendRawItem day itemType name duration sourceIndex source s).timeline =
      shown t s.timeline ++
        if itemType = t ∧ duration ≠ 0 then [(sourceIndex, duration, source)] else [] := by
  by_cases hd : duration = 0
  · simp [appendRawItem, hd]
  · by_cases ht : itemType = t <;> simp [appendRawItem, hd, shown, ht]

theorem appendRawItem_meals (itemType : ItemType) (name : String) (duration : Nat)
    (sourceIndex : Option Nat) (source : Option TimeSource) :
    shownMeals (appendRawItem day itemType name duration sourceIndex source s).timeline =
      shownMeals s.timeline ++ if itemType = .meal ∧ duration ≠ 0 then [name] else [] := by
  by_cases hd : duration = 0
  · simp [appendRawItem, hd]
  · by_cases ht : itemType = .meal <;> simp [appendRawItem, hd, shownMeals, ht]

/-- Lunch puts nothing on the timeline but a break and a meal. -/
theorem appendLunch_shown {t : ItemType} (hpause : t ≠ .pause) (hmeal : t ≠ .meal) :
    shown t (appendLunch day s).timeline = shown t s.timeline := by
  have hm : ∀ P : Prop, ¬(ItemType.meal = t ∧ P) := fun _ h => hmeal h.1.symm
  have hp : ∀ P : Prop, ¬(ItemType.pause = t ∧ P) := fun _ h => hpause h.1.symm
  rw [appendLunch]
  split
  · rfl
  · simp only [appendRawItem_shown, if_neg (hm _), List.append_nil]
    split
    · simp only [appendRawItem_shown, if_neg (hp _), List.append_nil]
    · rfl

theorem appendItem_shown {t : ItemType} (hpause : t ≠ .pause) (hmeal : t ≠ .meal)
    (itemType : ItemType) (name : String) (duration : Nat) (sourceIndex : Option Nat)
    (source : Option TimeSource) :
    shown t (appendItem day itemType name duration sourceIndex source s).timeline =
      shown t s.timeline ++
        if itemType = t ∧ duration ≠ 0 then [(sourceIndex, duration, source)] else [] := by
  by_cases hd : duration = 0
  · simp [appendItem, hd]
  · simp only [appendItem, if_neg hd, appendRawItem_shown]
    split
    · rw [appendLunch_shown hpause hmeal]
    · rfl

@[simp] theorem credit_timeline (t : ItemType) (minutes : Nat) :
    (s.credit t minutes).timeline = s.timeline := by
  cases t <;> rfl

@[simp] theorem credit_current (t : ItemType) (minutes : Nat) :
    (s.credit t minutes).current = s.current := by
  cases t <;> rfl

@[simp] theorem credit_lunchAdded (t : ItemType) (minutes : Nat) :
    (s.credit t minutes).lunchAdded = s.lunchAdded := by
  cases t <;> rfl

theorem begins_fields (source : Option TimeSource) :
    (s.begins source).timeline = s.timeline ∧ (s.begins source).current = s.current ∧
      (s.begins source).lunchAdded = s.lunchAdded := by
  rw [DayState.begins]
  split <;> exact ⟨rfl, rfl, rfl⟩

theorem put_shown {t : ItemType} (hpause : t ≠ .pause) (hmeal : t ≠ .meal) (p : Piece) :
    shown t (put day s p).timeline = shown t s.timeline ++ p.shown t := by
  cases p with
  | entry e =>
    rw [put, credit_timeline, appendItem_shown hpause hmeal, (begins_fields e.source).1]
    rfl
  | lateLunch =>
    rw [put, Piece.shown, List.append_nil]
    split
    · exact appendLunch_shown hpause hmeal
    · rfl

theorem walk_shown {t : ItemType} (hpause : t ≠ .pause) (hmeal : t ≠ .meal) (pieces : List Piece) :
    shown t (walk day pieces).timeline = pieces.flatMap (Piece.shown t) := by
  have hfold : ∀ s, shown t (pieces.foldl (put day) s).timeline =
      shown t s.timeline ++ pieces.flatMap (Piece.shown t) := by
    induction pieces with
    | nil => simp
    | cons p pieces ih =>
      intro s
      rw [List.foldl_cons, ih, put_shown hpause hmeal, List.flatMap_cons, List.append_assoc]
  exact hfold _

/-- Whether a piece calls for lunch at a minute. -/
def Triggers (cfg : ScheduleTimelineEvaluator) (c : Nat) : Piece → Prop
  | .entry e => e.minutes ≠ 0 ∧ 0 < cfg.lunchDurationMinutes ∧
      (cfg.lunchWindowStartMinute ≤ c ∨ cfg.latestLunchStartMinute < c + e.minutes)
  | .lateLunch => 0 < cfg.lunchDurationMinutes ∧ 12 * 60 < c

instance (cfg : ScheduleTimelineEvaluator) (c : Nat) : (p : Piece) → Decidable (Triggers cfg c p)
  | .entry e => inferInstanceAs (Decidable (e.minutes ≠ 0 ∧ 0 < cfg.lunchDurationMinutes ∧
      (cfg.lunchWindowStartMinute ≤ c ∨ cfg.latestLunchStartMinute < c + e.minutes)))
  | .lateLunch => inferInstanceAs (Decidable (0 < cfg.lunchDurationMinutes ∧ 12 * 60 < c))

def Piece.minutes : Piece → Nat
  | .entry e => e.minutes
  | .lateLunch => 0

/-- Whether lunch is due in the course of the pieces, by their minutes alone. -/
def lunchDue (cfg : ScheduleTimelineEvaluator) : Nat → List Piece → Bool
  | _, [] => false
  | c, p :: pieces => decide (Triggers cfg c p) || lunchDue cfg (c + p.minutes) pieces

@[simp] theorem appendRawItem_lunchAdded (itemType : ItemType) (name : String) (duration : Nat)
    (sourceIndex : Option Nat) (source : Option TimeSource) :
    (appendRawItem day itemType name duration sourceIndex source s).lunchAdded = s.lunchAdded := by
  rw [appendRawItem]
  split <;> rfl

theorem appendRawItem_current (itemType : ItemType) (name : String) (duration : Nat)
    (sourceIndex : Option Nat) (source : Option TimeSource) :
    (appendRawItem day itemType name duration sourceIndex source s).current =
      s.current + duration := by
  by_cases hd : duration = 0 <;> simp [appendRawItem, hd]

theorem appendLunch_added (hadded : s.lunchAdded = false) (hlunch : 0 < day.cfg.lunchDurationMinutes) :
    (appendLunch day s).lunchAdded = true ∧
      shownMeals (appendLunch day s).timeline = shownMeals s.timeline ++ [day.lunchName] := by
  have hskip : ¬(s.lunchAdded = true ∨ day.cfg.lunchDurationMinutes = 0) := by
    rw [hadded]
    simp only [Bool.false_eq_true, false_or]
    omega
  rw [appendLunch, if_neg hskip]
  refine ⟨rfl, ?_⟩
  have hd : day.cfg.lunchDurationMinutes ≠ 0 := Nat.ne_of_gt hlunch
  simp only [appendRawItem_meals, ne_eq, hd, not_false_eq_true, and_self, if_true]
  split
  · simp only [appendRawItem_meals, reduceCtorEq, false_and, if_false, List.append_nil]
  · rfl

/-- A piece that calls for lunch gets it. -/
theorem put_triggers {p : Piece} (hadded : s.lunchAdded = false) (h : Triggers day.cfg s.current p) :
    (put day s p).lunchAdded = true ∧
      shownMeals (put day s p).timeline = shownMeals s.timeline ++ [day.lunchName] := by
  cases p with
  | entry e =>
    obtain ⟨hd, hlunch, hwhen⟩ := h
    obtain ⟨htime, hcur, hadd⟩ := begins_fields (s := s) e.source
    have hgo : (s.begins e.source).lunchAdded = false ∧ 0 < day.cfg.lunchDurationMinutes ∧
        e.itemType ≠ .meal ∧ (day.cfg.lunchWindowStartMinute ≤ (s.begins e.source).current ∨
          day.cfg.latestLunchStartMinute < (s.begins e.source).current + e.minutes) := by
      rw [hadd, hcur]
      exact ⟨hadded, hlunch, e.notMeal, hwhen⟩
    obtain ⟨hlunched, hmeals⟩ := appendLunch_added hgo.1 hlunch
    simp only [put, credit_lunchAdded, credit_timeline, appendItem, if_neg hd, if_pos hgo,
      appendRawItem_lunchAdded, appendRawItem_meals, hlunched, hmeals, htime, e.notMeal, false_and,
      if_false, List.append_nil, and_self]
  | lateLunch =>
    rw [put, if_pos ⟨hadded, h⟩]
    exact appendLunch_added hadded h.1

/-- Any other piece goes on the timeline as it is, whatever the name of the lunch. -/
theorem put_plain {p : Piece} (hadded : s.lunchAdded = false) (h : ¬Triggers day.cfg s.current p) :
    (put day s p).lunchAdded = false ∧ (put day s p).current = s.current + p.minutes ∧
      shownMeals (put day s p).timeline = shownMeals s.timeline ∧
      ∀ name, put { day with lunchName := name } s p = put day s p := by
  cases p with
  | entry e =>
    obtain ⟨htime, hcur, hadd⟩ := begins_fields (s := s) e.source
    have hitem : ∀ name, appendItem { day with lunchName := name } e.itemType e.name e.minutes
        (some e.index) e.source (s.begins e.source) =
        appendRawItem day e.itemType e.name e.minutes (some e.index) e.source
          (s.begins e.source) := by
      intro name
      by_cases hd : e.minutes = 0
      · rw [appendItem, if_pos hd, appendRawItem, if_pos hd]
      · rw [appendItem, if_neg hd, if_neg]
        · rfl
        · intro hgo
          rw [hcur] at hgo
          exact h ⟨hd, hgo.2.1, hgo.2.2.2⟩
    have hput : ∀ name, put { day with lunchName := name } s (.entry e) =
        (appendRawItem day e.itemType e.name e.minutes (some e.index) e.source
          (s.begins e.source)).credit e.itemType e.minutes := fun name => by rw [put, hitem]
    have hself := hput day.lunchName
    refine ⟨?_, ?_, ?_, fun name => (hput name).trans hself.symm⟩
    · rw [hself, credit_lunchAdded, appendRawItem_lunchAdded, hadd, hadded]
    · rw [hself, credit_current, appendRawItem_current, hcur]
      rfl
    · rw [hself, credit_timeline, appendRawItem_meals, htime, if_neg fun hm => e.notMeal hm.1,
        List.append_nil]
  | lateLunch =>
    have hno : ∀ d : DayFrame, d.cfg = day.cfg → put d s .lateLunch = s := by
      intro d hd
      rw [put, if_neg]
      intro hgo
      rw [hd] at hgo
      exact h hgo.2
    rw [hno day rfl]
    exact ⟨hadded, rfl, rfl, fun name => hno _ rfl⟩

theorem appendLunch_lunched (hadded : s.lunchAdded = true) : appendLunch day s = s := by
  rw [appendLunch, if_pos (Or.inl hadded)]

theorem put_lunched (p : Piece) (hadded : s.lunchAdded = true) :
    (put day s p).lunchAdded = true ∧
      shownMeals (put day s p).timeline = shownMeals s.timeline := by
  cases p with
  | entry e =>
    obtain ⟨htime, _, hadd⟩ := begins_fields (s := s) e.source
    have hlunched : appendLunch day (s.begins e.source) = s.begins e.source :=
      appendLunch_lunched (hadd.trans hadded)
    by_cases hd : e.minutes = 0
    · simp only [put, credit_lunchAdded, credit_timeline, appendItem, if_pos hd, hadd, htime, hadded,
        and_self]
    · simp only [put, credit_lunchAdded, credit_timeline, appendItem, if_neg hd, hlunched, ite_self,
        appendRawItem_lunchAdded, appendRawItem_meals, hadd, htime, hadded, e.notMeal, false_and,
        if_false, List.append_nil, and_self]
  | lateLunch =>
    rw [put, if_neg fun h => Bool.noConfusion (hadded.symm.trans h.1)]
    exact ⟨hadded, rfl⟩

theorem foldl_lunched (pieces : List Piece) (hadded : s.lunchAdded = true) :
    shownMeals (pieces.foldl (put day) s).timeline = shownMeals s.timeline := by
  induction pieces generalizing s with
  | nil => rfl
  | cons p pieces ih =>
    obtain ⟨hnext, hmeals⟩ : (put day s p).lunchAdded = true ∧
        shownMeals (put day s p).timeline = shownMeals s.timeline := put_lunched p hadded
    rw [List.foldl_cons, ih hnext, hmeals]

theorem foldl_meals (pieces : List Piece) (hadded : s.lunchAdded = false) :
    shownMeals (pieces.foldl (put day) s).timeline =
      shownMeals s.timeline ++ if lunchDue day.cfg s.current pieces then [day.lunchName] else [] := by
  induction pieces generalizing s with
  | nil => exact (List.append_nil _).symm
  | cons p pieces ih =>
    rw [List.foldl_cons, lunchDue]
    by_cases h : Triggers day.cfg s.current p
    · obtain ⟨hnext, hmeals⟩ := put_triggers hadded h
      rw [foldl_lunched pieces hnext, hmeals, decide_eq_true h, Bool.true_or, if_pos rfl]
    · obtain ⟨hnext, hcur, hmeals, _⟩ := put_plain hadded h
      rw [ih hnext, hmeals, hcur, decide_eq_false h, Bool.false_or]

/-- A day without lunch does not show what lunch would have been called. -/
theorem foldl_undue (pieces : List Piece) (hadded : s.lunchAdded = false)
    (hdue : lunchDue day.cfg s.current pieces = false) (name : String) :
    pieces.foldl (put { day with lunchName := name }) s = pieces.foldl (put day) s := by
  induction pieces generalizing s with
  | nil => rfl
  | cons p pieces ih =>
    obtain ⟨hnot, hrest⟩ := Bool.or_eq_false_iff.mp hdue
    obtain ⟨hnext, hcur, _, hsame⟩ := put_plain hadded (of_decide_eq_false hnot)
    rw [List.foldl_cons, List.foldl_cons, hsame name]
    apply ih hnext
    rwa [hcur]

end TravelAgent.Scheduling

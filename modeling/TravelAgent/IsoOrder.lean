import TravelAgent.IsoTime

namespace TravelAgent.IsoTime

/-- Two texts that differ within fields of one length. -/
theorem append_lt {a b x y : List Char} (hlen : a.length = b.length) (h : a < b) :
    a ++ x < b ++ y := by
  induction a generalizing b with
  | nil =>
    cases b with
    | nil => exact absurd h (List.lt_irrefl _)
    | cons c b => cases hlen
  | cons c a ih =>
    cases b with
    | nil => cases hlen
    | cons d b =>
      rw [List.cons_append, List.cons_append]
      obtain hlt | ⟨rfl, hlt⟩ := List.cons_lt_cons_iff.mp h
      · exact List.cons_lt_cons_iff.mpr (Or.inl hlt)
      · exact List.cons_lt_cons_iff.mpr (Or.inr ⟨rfl, ih (Nat.succ.inj hlen) hlt⟩)

theorem digitChar_lt : ∀ n < 10, ∀ m < n, Nat.digitChar m < Nat.digitChar n := by decide

/-- The fields of one width are ordered as their numbers. -/
theorem fixed_lt {w m n : Nat} (h : m < n) (hn : n < 10 ^ w) : fixed w m < fixed w n := by
  induction w generalizing m n with
  | zero => omega
  | succ w ih =>
    rw [Nat.pow_succ] at hn
    rw [fixed, fixed]
    obtain hlt | heq : m / 10 < n / 10 ∨ m / 10 = n / 10 := by omega
    · exact append_lt (by rw [fixed_length, fixed_length]) (ih hlt (by omega))
    · rw [heq]
      apply List.append_left_lt
      exact List.cons_lt_cons_iff.mpr (Or.inl (digitChar_lt _ (by omega) _ (by omega)))

/-- A field that differs, in front of two texts, or the texts behind fields that do not. -/
theorem field_lt {w m n : Nat} {x y : List Char} (hn : n < 10 ^ w)
    (h : m < n ∨ m = n ∧ x < y) : fixed w m ++ x < fixed w n ++ y := by
  obtain hlt | ⟨rfl, hlt⟩ := h
  · exact append_lt (by rw [fixed_length, fixed_length]) (fixed_lt hlt hn)
  · exact List.append_left_lt hlt

theorem mark_lt {c : Char} {x y : List Char} (h : x < y) : c :: x < c :: y :=
  List.cons_lt_cons_iff.mpr (Or.inr ⟨rfl, h⟩)

/-- A time of day, in front of the offset. Without a fraction the sign of the offset stands where
the decimal point would, and comes before it. -/
theorem clock_lt {s s' : Nat} (h : s < s') (hs : s' < dayMicros) :
    clock s ++ ['+', '0', '0', ':', '0', '0'] < clock s' ++ ['+', '0', '0', ':', '0', '0'] := by
  have hday : dayMicros = 86400000000 := rfl
  simp only [clock, List.append_assoc, List.cons_append]
  apply field_lt (by omega)
  by_cases hh : s / 3600000000 = s' / 3600000000
  · refine Or.inr ⟨hh, mark_lt ?_⟩
    apply field_lt (by omega)
    by_cases hm : s / 60000000 % 60 = s' / 60000000 % 60
    · refine Or.inr ⟨hm, mark_lt ?_⟩
      apply field_lt (by omega)
      by_cases hsec : s / 1000000 % 60 = s' / 1000000 % 60
      · refine Or.inr ⟨hsec, ?_⟩
        have hmicro : s % 1000000 < s' % 1000000 := by omega
        rw [if_neg (by omega : ¬s' % 1000000 = 0)]
        split
        · exact List.cons_lt_cons_iff.mpr (Or.inl (by decide))
        · exact mark_lt (field_lt (by omega) (Or.inl hmicro))
      · exact Or.inl (by omega)
    · exact Or.inl (by omega)
  · exact Or.inl (by omega)

theorem daysBeforeMonth_lt : ∀ leap : Bool, ∀ m' ≤ 12, ∀ m < m', 1 ≤ m →
    daysBeforeMonth leap m + daysInMonth leap m ≤ daysBeforeMonth leap m' := by decide

theorem daysBeforeMonth_year : ∀ leap : Bool, ∀ m ≤ 12, 1 ≤ m →
    daysBeforeMonth leap m + daysInMonth leap m ≤ if leap then 366 else 365 := by decide

theorem succ_div (a b : Nat) :
    (a + 1) / b = a / b + if (a + 1) % b = 0 then 1 else 0 := by
  rw [Nat.succ_div]
  simp only [Nat.dvd_iff_mod_eq_zero]

theorem daysBeforeYear_succ {year : Nat} (h : 1 ≤ year) :
    daysBeforeYear (year + 1) = daysBeforeYear year + if isLeap year then 366 else 365 := by
  obtain ⟨y, rfl⟩ : ∃ y, year = y + 1 := ⟨year - 1, by omega⟩
  have h4 : (y + 1) / 4 = y / 4 + if (y + 1) % 4 = 0 then 1 else 0 := succ_div y _
  have h100 : (y + 1) / 100 = y / 100 + if (y + 1) % 100 = 0 then 1 else 0 := succ_div y _
  have h400 : (y + 1) / 400 = y / 400 + if (y + 1) % 400 = 0 then 1 else 0 := succ_div y _
  have hcentury : y / 100 ≤ y / 4 := Nat.div_le_div_left (by decide) (by decide)
  simp only [daysBeforeYear, Nat.add_sub_cancel, h4, h100, h400, isLeap, Bool.and_eq_true,
    Bool.or_eq_true, beq_iff_eq, bne_iff_ne]
  by_cases hc4 : (y + 1) % 4 = 0
  · by_cases hc100 : (y + 1) % 100 = 0
    · by_cases hc400 : (y + 1) % 400 = 0
      · simp only [hc4, hc100, hc400, true_and, or_true, if_true]
        omega
      · simp only [hc4, hc100, hc400, if_true, if_false, ne_eq, not_true, or_false, and_false]
        omega
    · have hc400 : (y + 1) % 400 ≠ 0 := by omega
      simp only [hc4, hc100, hc400, if_true, if_false, ne_eq, not_false_iff, true_or, true_and]
      omega
  · have hc100 : (y + 1) % 100 ≠ 0 := by omega
    have hc400 : (y + 1) % 400 ≠ 0 := by omega
    simp only [hc4, hc100, hc400, if_false, false_and]
    omega

theorem daysBeforeYear_mono {a b : Nat} (ha : 1 ≤ a) (h : a ≤ b) :
    daysBeforeYear a ≤ daysBeforeYear b := by
  induction b, h using Nat.le_induction with
  | base => exact le_rfl
  | succ b hb ih =>
    rw [daysBeforeYear_succ (ha.trans hb)]
    exact ih.trans (Nat.le_add_right _ _)

/-- A date in an earlier year, or in an earlier month, or on an earlier day of it. -/
def Date.Before (d e : Date) : Prop :=
  d.year < e.year ∨ d.year = e.year ∧ (d.month < e.month ∨ d.month = e.month ∧ d.day < e.day)

theorem Date.Before.toDays_lt {d e : Date} (h : d.Before e) (hd : d.Valid) (he : e.Valid) :
    d.toDays < e.toDays := by
  obtain ⟨hy, -, hm, hm', hday, hday'⟩ := hd
  obtain ⟨-, -, -, hem, heday, -⟩ := he
  rw [Date.toDays, Date.toDays]
  obtain hyear | ⟨hyear, hmonth | ⟨hmonth, hlt⟩⟩ := h
  · have hnext := daysBeforeYear_mono (Nat.le_add_left 1 d.year) hyear
    rw [daysBeforeYear_succ hy] at hnext
    have hin := daysBeforeMonth_year (isLeap d.year) d.month hm' hm
    omega
  · have hin := daysBeforeMonth_lt (isLeap d.year) e.month hem d.month hmonth hm
    rw [hyear] at hin hday' ⊢
    omega
  · rw [hyear, hmonth]
    omega

theorem Date.before_or {d e : Date} : d.Before e ∨ d = e ∨ e.Before d := by
  obtain ⟨y, m, n⟩ := d
  obtain ⟨y', m', n'⟩ := e
  simp only [Date.Before, Date.mk.injEq]
  omega

/-- An earlier day has the earlier date. -/
theorem ofDays_before {m n : Nat} (h : m < n) (hn : n < maxDays) :
    (Date.ofDays m).Before (Date.ofDays n) := by
  obtain ⟨hvalid, hdays⟩ := ofDays_spec (h.trans hn)
  obtain ⟨hvalid', hdays'⟩ := ofDays_spec hn
  obtain hbefore | heq | hafter := Date.before_or (d := Date.ofDays m) (e := Date.ofDays n)
  · exact hbefore
  · rw [heq, hdays'] at hdays
    omega
  · have hlt := hafter.toDays_lt hvalid' hvalid
    omega

/-- Texts of instants in UTC are ordered as the instants. -/
theorem isoformat_lt {t t' : Nat} (h : t < t') (ht : t' < maxDays * dayMicros) :
    isoformat t < isoformat t' := by
  have hpos : 0 < dayMicros := by decide
  have hdays : t' / dayMicros < maxDays := Nat.div_lt_of_lt_mul (by rwa [Nat.mul_comm])
  have hvalid := (ofDays_spec hdays).1
  obtain ⟨-, hy, -, hm, -, hd⟩ := hvalid
  have hmonthDays : ∀ leap : Bool, ∀ m, daysInMonth leap m ≤ 31 := by
    intro leap m
    unfold daysInMonth
    split
    · split <;> decide
    · split <;> decide
  have hd31 := hd.trans (hmonthDays _ _)
  simp only [isoformat]
  apply field_lt (by omega)
  by_cases hday : t / dayMicros = t' / dayMicros
  · rw [hday]
    refine Or.inr ⟨rfl, mark_lt (field_lt (by omega) (Or.inr ⟨rfl, mark_lt ?_⟩))⟩
    refine field_lt (by omega) (Or.inr ⟨rfl, mark_lt (clock_lt ?_ (Nat.mod_lt _ hpos))⟩)
    have hsplit := Nat.div_add_mod t dayMicros
    have hsplit' := Nat.div_add_mod t' dayMicros
    rw [hday] at hsplit
    omega
  · have hlt : t / dayMicros < t' / dayMicros :=
      lt_of_le_of_ne (Nat.div_le_div_right h.le) hday
    obtain hyear | ⟨hyear, hmonth | ⟨hmonth, hnumber⟩⟩ := ofDays_before hlt hdays
    · exact Or.inl hyear
    · exact Or.inr ⟨hyear, mark_lt (field_lt (by omega) (Or.inl hmonth))⟩
    · refine Or.inr ⟨hyear, mark_lt (field_lt (by omega) (Or.inr ⟨hmonth, mark_lt ?_⟩))⟩
      exact field_lt (by omega) (Or.inl hnumber)

theorem isoformat_lt_iff {t t' : Nat} (ht : t < maxDays * dayMicros)
    (ht' : t' < maxDays * dayMicros) : isoformat t < isoformat t' ↔ t < t' := by
  refine ⟨fun h => ?_, fun h => isoformat_lt h ht'⟩
  obtain hlt | rfl | hgt := lt_trichotomy t t'
  · exact hlt
  · exact absurd h (List.lt_irrefl _)
  · exact absurd (isoformat_lt hgt ht) (List.lt_asymm h)

end TravelAgent.IsoTime

import Mathlib

namespace TravelAgent.WindowCounters

/- A counter that stands until its expiry and is opened anew by the first event after it. -/

structure Window where
  count : ℕ
  expiry : ℕ
deriving DecidableEq, Repr

structure Event where
  time : ℕ
  cost : ℕ
  admitted : Bool
deriving DecidableEq, Repr

def live (w : Option Window) (now : ℕ) : Option Window := w.filter fun k => now < k.expiry

/-- What one event may do to the counter. Whatever is counted is counted before it is known to be
admitted, so a rejected event may count as well. -/
inductive Step (limit length : ℕ) : Option Window → Event → Option Window → Prop
  | opens {w : Option Window} {e : Event} (hw : live w e.time = none)
      (ha : e.admitted = true → e.cost ≤ limit) :
      Step limit length w e (some ⟨e.cost, e.time + length⟩)
  | counts {w : Option Window} {e : Event} {k : Window} (hw : live w e.time = some k)
      (ha : e.admitted = true → k.count + e.cost ≤ limit) :
      Step limit length w e (some ⟨k.count + e.cost, k.expiry⟩)
  | passes {w : Option Window} {e : Event} (ha : e.admitted = false) : Step limit length w e w
  | expires {w : Option Window} {e : Event} (ha : e.admitted = false) :
      Step limit length w e (live w e.time)

inductive Run (limit length : ℕ) : Option Window → List Event → Option Window → Prop
  | nil (w : Option Window) : Run limit length w [] w
  | cons {w w' w'' : Option Window} {e : Event} {es : List Event}
      (hs : Step limit length w e w') (hr : Run limit length w' es w'') :
      Run limit length w (e :: es) w''

def Event.admittedCost (e : Event) : ℕ := if e.admitted then e.cost else 0

def admittedCost (es : List Event) : ℕ := (es.map Event.admittedCost).sum

def InOrder (es : List Event) : Prop := es.Pairwise fun e e' => e.time ≤ e'.time

variable {limit length : ℕ}

theorem admittedCost_cons (e : Event) (es : List Event) :
    admittedCost (e :: es) = e.admittedCost + admittedCost es := by
  rw [admittedCost, List.map_cons, List.sum_cons, admittedCost]

theorem Event.admittedCost_le {e : Event} {n : ℕ} (h : e.admitted = true → e.cost ≤ n) :
    e.admittedCost ≤ n := by
  rw [Event.admittedCost]
  cases ha : e.admitted with
  | true => exact h ha
  | false => exact Nat.zero_le n

theorem Event.admittedCost_eq_zero {e : Event} (h : e.admitted = false) : e.admittedCost = 0 := by
  rw [Event.admittedCost, h]
  rfl

theorem live_none (now : ℕ) : live none now = none := rfl

theorem live_of_lt {k : Window} {now : ℕ} (h : now < k.expiry) : live (some k) now = some k := by
  rw [live, Option.filter_some_pos (by simpa using h)]

theorem live_of_le {k : Window} {now : ℕ} (h : k.expiry ≤ now) : live (some k) now = none := by
  rw [live, Option.filter_some_neg (by simpa using h)]

theorem live_eq_some {w : Option Window} {now : ℕ} {k : Window} (h : live w now = some k) :
    w = some k ∧ now < k.expiry := by
  rw [live, Option.filter_eq_some_iff] at h
  exact ⟨h.1, by simpa using h.2⟩

theorem live_later {w : Option Window} {now now' : ℕ} (h : now ≤ now') (hw : live w now = none) :
    live w now' = none := by
  cases w with
  | none => rfl
  | some k =>
    by_cases hk : now < k.expiry
    · rw [live_of_lt hk] at hw
      exact nomatch hw
    · exact live_of_le (Nat.le_trans (Nat.not_lt.mp hk) h)

/-- Step within a window: the counter stands, and what is admitted still fits. -/
theorem Step.within {k : Window} {e : Event} {w : Option Window}
    (h : Step limit length (some k) e w) (ht : e.time < k.expiry) :
    ∃ n, w = some ⟨n, k.expiry⟩ ∧ k.count ≤ n ∧ e.admittedCost + (limit - n) ≤ limit - k.count := by
  cases h with
  | opens hw ha =>
    rw [live_of_lt ht] at hw
    exact nomatch hw
  | counts hw ha =>
    obtain ⟨hk, -⟩ := live_eq_some hw
    obtain rfl := Option.some.inj hk
    refine ⟨_, rfl, Nat.le_add_right _ _, ?_⟩
    cases hadm : e.admitted with
    | true =>
      have := ha hadm
      rw [Event.admittedCost, if_pos hadm]
      omega
    | false =>
      rw [Event.admittedCost_eq_zero hadm]
      omega
  | passes ha =>
    refine ⟨_, rfl, Nat.le_refl _, ?_⟩
    rw [Event.admittedCost_eq_zero ha]
    exact Nat.le_of_eq (Nat.zero_add _)
  | expires ha =>
    rw [live_of_lt ht]
    refine ⟨_, rfl, Nat.le_refl _, ?_⟩
    rw [Event.admittedCost_eq_zero ha]
    exact Nat.le_of_eq (Nat.zero_add _)

/-- Run within a window. -/
theorem Run.within {k : Window} {es : List Event} {w : Option Window}
    (h : Run limit length (some k) es w) (ht : ∀ e ∈ es, e.time < k.expiry) :
    (∃ n, w = some ⟨n, k.expiry⟩) ∧ admittedCost es ≤ limit - k.count := by
  induction es generalizing k with
  | nil =>
    cases h
    exact ⟨⟨_, rfl⟩, Nat.zero_le _⟩
  | cons e es ih =>
    cases h with
    | cons hs hr =>
      obtain ⟨n, rfl, -, hle⟩ := hs.within (ht e List.mem_cons_self)
      obtain ⟨hend, hsum⟩ := ih hr fun e' he' => ht e' (List.mem_cons_of_mem e he')
      refine ⟨hend, ?_⟩
      rw [admittedCost_cons]
      dsimp only at hsum
      omega

/-- Run from a counter that is gone: all that is admitted for the length of a window is admitted
in one window. -/
theorem Run.fresh {w w' : Option Window} {es : List Event} {b : ℕ}
    (h : Run limit length w es w') (hord : InOrder es)
    (hgone : ∀ e ∈ es.head?, live w e.time = none)
    (hu : ∀ e ∈ es.head?, b ≤ e.time + length) (ht : ∀ e ∈ es, e.time < b) :
    admittedCost es ≤ limit := by
  induction es generalizing w with
  | nil => exact Nat.zero_le _
  | cons e es ih =>
    have hw := hgone e rfl
    have hue := hu e rfl
    obtain ⟨hfirst, hrest⟩ := List.pairwise_cons.mp hord
    have ht' : ∀ e' ∈ es, e'.time < b := fun e' he' => ht e' (List.mem_cons_of_mem e he')
    have hu' : ∀ e' ∈ es.head?, b ≤ e'.time + length := by
      intro e' he'
      exact Nat.le_trans hue
        (Nat.add_le_add_right (hfirst e' (List.mem_of_mem_head? he')) length)
    have hgone' : ∀ e' ∈ es.head?, live w e'.time = none := by
      intro e' he'
      exact live_later (hfirst e' (List.mem_of_mem_head? he')) hw
    rw [admittedCost_cons]
    cases h with
    | cons hs hr =>
      cases hs with
      | opens hw ha =>
        have hsum := (hr.within fun e' he' => Nat.lt_of_lt_of_le (ht' e' he') hue).2
        have hle := Event.admittedCost_le ha
        by_cases hadm : e.admitted = true
        · rw [Event.admittedCost, if_pos hadm] at hle ⊢
          dsimp only at hsum
          omega
        · rw [Event.admittedCost, if_neg hadm]
          omega
      | counts hk ha =>
        rw [hw] at hk
        exact nomatch hk
      | passes ha =>
        rw [Event.admittedCost_eq_zero ha, Nat.zero_add]
        exact ih hr hrest hgone' hu' ht'
      | expires ha =>
        rw [Event.admittedCost_eq_zero ha, Nat.zero_add]
        rw [hw] at hr
        exact ih hr hrest (fun e' _ => live_none e'.time) hu' ht'

/-- Run over as long as a window takes: one window may end in it and the next begin. -/
theorem Run.interval {w w' : Option Window} {es : List Event} {start : ℕ}
    (h : Run limit length w es w') (hord : InOrder es)
    (ht : ∀ e ∈ es, start ≤ e.time ∧ e.time < start + length) :
    admittedCost es ≤ 2 * limit := by
  have hfresh : ∀ {w : Option Window} {es : List Event}, Run limit length w es w' → InOrder es →
      (∀ e ∈ es, start ≤ e.time ∧ e.time < start + length) →
      (∀ e ∈ es.head?, live w e.time = none) → admittedCost es ≤ limit := by
    intro w es h hord ht hgone
    refine h.fresh hord hgone ?_ fun e he => (ht e he).2
    intro e he
    exact Nat.add_le_add_right (ht e (List.mem_of_mem_head? he)).1 length
  cases w with
  | none =>
    have := hfresh h hord ht fun e _ => live_none e.time
    omega
  | some k =>
    suffices hk : admittedCost es ≤ (limit - k.count) + limit by omega
    induction es generalizing k with
    | nil => exact Nat.zero_le _
    | cons e es ih =>
      by_cases hlive : e.time < k.expiry
      · cases h with
        | cons hs hr =>
          obtain ⟨n, rfl, -, hle⟩ := hs.within hlive
          have hsum := ih (List.pairwise_cons.mp hord).2
            (fun e' he' => ht e' (List.mem_cons_of_mem e he')) ⟨n, k.expiry⟩ hr
          rw [admittedCost_cons]
          dsimp only at hsum
          omega
      · have := hfresh h hord ht fun e' he' => by
          obtain rfl := Option.some.inj he'
          exact live_of_le (Nat.not_lt.mp hlive)
        omega

/-- Run on from a window: the counter stands there, or one that was opened after its expiry. -/
theorem Run.later {k : Window} {w w' : Option Window} {es : List Event}
    (h : Run limit length w es w') (hord : InOrder es)
    (hw : (∃ n, w = some ⟨n, k.expiry⟩) ∨ (∀ e ∈ es, k.expiry ≤ e.time) ∧
      ∀ k' ∈ w, k.expiry + length ≤ k'.expiry) :
    ∀ k' ∈ w', k'.expiry = k.expiry ∨ k.expiry + length ≤ k'.expiry := by
  induction es generalizing w with
  | nil =>
    cases h
    intro k' hk'
    obtain ⟨n, rfl⟩ | ⟨-, hlater⟩ := hw
    · obtain rfl := Option.some.inj hk'
      exact Or.inl rfl
    · exact Or.inr (hlater k' hk')
  | cons e es ih =>
    obtain ⟨hfirst, hrest⟩ := List.pairwise_cons.mp hord
    cases h with
    | cons hs hr =>
      apply ih hr hrest
      by_cases hlt : e.time < k.expiry
      · obtain ⟨n, rfl⟩ | ⟨hle, -⟩ := hw
        · obtain ⟨n', rfl, -⟩ := hs.within hlt
          exact Or.inl ⟨n', rfl⟩
        · exact absurd (hle e List.mem_cons_self) (Nat.not_le.mpr hlt)
      · have hge := Nat.not_lt.mp hlt
        have hrestle : ∀ e' ∈ es, k.expiry ≤ e'.time := fun e' he' =>
          Nat.le_trans hge (hfirst e' he')
        have hgone : ∀ k' ∈ live w e.time, k.expiry + length ≤ k'.expiry := by
          intro k' hk'
          obtain ⟨n, rfl⟩ | ⟨-, hlater⟩ := hw
          · rw [live_of_le (by exact hge)] at hk'
            exact nomatch hk'
          · exact hlater k' (live_eq_some hk').1
        cases hs with
        | opens _ ha =>
          refine Or.inr ⟨hrestle, ?_⟩
          intro k' hk'
          obtain rfl := Option.some.inj hk'
          exact Nat.add_le_add_right hge length
        | @counts k₁ hk ha =>
          refine Or.inr ⟨hrestle, ?_⟩
          intro k' hk'
          obtain rfl := Option.some.inj hk'
          exact hgone k₁ hk
        | passes ha =>
          obtain hstands | ⟨-, hlater⟩ := hw
          · exact Or.inl hstands
          · exact Or.inr ⟨hrestle, hlater⟩
        | expires ha => exact Or.inr ⟨hrestle, hgone⟩

end TravelAgent.WindowCounters

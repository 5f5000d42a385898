import Mathlib

namespace TravelAgent.Transition

variable {σ α : Type}

/-- Follow a list of labels from a state. A label that the state refuses
ends the run, so only complete runs reach a result. -/
def run (step : σ → α → Option σ) : σ → List α → Option σ
  | s, [] => some s
  | s, a :: as => (step s a).bind fun t => run step t as

/-- Every label of the run is issued in a state where the side condition holds. -/
def Along (step : σ → α → Option σ) (ok : σ → α → Prop) : σ → List α → Prop
  | _, [] => True
  | s, a :: as => ok s a ∧ ∀ t, step s a = some t → Along step ok t as

/-- The property holds in every state of the run, the first and the last included. -/
def Always (step : σ → α → Option σ) (P : σ → Prop) : σ → List α → Prop
  | s, [] => P s
  | s, a :: as => P s ∧ ∀ t, step s a = some t → Always step P t as

theorem run_cons {step : σ → α → Option σ} {s t : σ} {a : α} {as : List α}
    (h : run step s (a :: as) = some t) :
    ∃ u, step s a = some u ∧ run step u as = some t := by
  simpa only [run, Option.bind_eq_some_iff] using h

theorem run_trans {step : σ → α → Option σ} {s t u : σ} {as bs : List α}
    (hs : run step s as = some t) (ht : run step t bs = some u) :
    run step s (as ++ bs) = some u := by
  induction as generalizing s with
  | nil =>
    cases hs
    exact ht
  | cons a as ih =>
    obtain ⟨v, hv, hr⟩ := run_cons hs
    simpa only [List.cons_append, run, hv, Option.bind_some] using ih hr

theorem run_single {step : σ → α → Option σ} {s t : σ} {a : α} (h : step s a = some t) :
    run step s [a] = some t := by
  simp only [run, h, Option.bind_some]

theorem run_invariant {step : σ → α → Option σ} {P : σ → Prop}
    (hstep : ∀ s a t, P s → step s a = some t → P t)
    {s t : σ} {as : List α} (hs : P s) (h : run step s as = some t) : P t := by
  induction as generalizing s with
  | nil =>
    cases h
    exact hs
  | cons a as ih =>
    obtain ⟨u, hu, hr⟩ := run_cons h
    exact ih (hstep s a u hs hu) hr

/-- An invariant that only the guarded steps preserve holds along guarded runs. -/
theorem run_invariant_along {step : σ → α → Option σ} {ok : σ → α → Prop} {P : σ → Prop}
    (hstep : ∀ s a t, P s → ok s a → step s a = some t → P t)
    {s t : σ} {as : List α} (hs : P s) (hok : Along step ok s as)
    (h : run step s as = some t) : P t := by
  induction as generalizing s with
  | nil =>
    cases h
    exact hs
  | cons a as ih =>
    obtain ⟨u, hu, hr⟩ := run_cons h
    exact ih (hstep s a u hs hok.1 hu) (hok.2 u hu) hr

instance Along.decidable (step : σ → α → Option σ) (ok : σ → α → Prop)
    [∀ s a, Decidable (ok s a)] : (s : σ) → (as : List α) → Decidable (Along step ok s as)
  | _, [] => isTrue trivial
  | s, a :: as =>
    match h : step s a with
    | none => decidable_of_iff (ok s a) ⟨fun hok => ⟨hok, fun t ht => by simp [h] at ht⟩, And.left⟩
    | some u =>
      have := Along.decidable step ok u as
      decidable_of_iff (ok s a ∧ Along step ok u as)
        ⟨fun hu => ⟨hu.1, fun t ht => by cases h.symm.trans ht; exact hu.2⟩,
          fun ht => ⟨ht.1, ht.2 u h⟩⟩

theorem along_of_forall {step : σ → α → Option σ} {ok : σ → α → Prop} (h : ∀ s a, ok s a) (s : σ)
    (as : List α) : Along step ok s as := by
  induction as generalizing s with
  | nil => trivial
  | cons a as ih => exact ⟨h s a, fun t _ => ih t⟩

/-- A condition on the labels alone. -/
theorem along_of_labels {step : σ → α → Option σ} {p : α → Prop} {as : List α} (h : ∀ a ∈ as, p a)
    (s : σ) : Along step (fun _ a => p a) s as := by
  induction as generalizing s with
  | nil => trivial
  | cons a as ih =>
    obtain ⟨ha, has⟩ := List.forall_mem_cons.mp h
    exact ⟨ha, fun t _ => ih has t⟩

theorem along_and {step : σ → α → Option σ} {ok ok' : σ → α → Prop} {s : σ} {as : List α}
    (h : Along step ok s as) (h' : Along step ok' s as) :
    Along step (fun s a => ok s a ∧ ok' s a) s as := by
  induction as generalizing s with
  | nil => trivial
  | cons a as ih => exact ⟨⟨h.1, h'.1⟩, fun t ht => ih (h.2 t ht) (h'.2 t ht)⟩

/-- Side conditions that agree wherever an invariant holds agree along runs. -/
theorem along_iff_along {step : σ → α → Option σ} {ok ok' : σ → α → Prop} {I : σ → Prop}
    (hinv : ∀ s a t, I s → ok' s a → step s a = some t → I t)
    (heq : ∀ s a, I s → (ok s a ↔ ok' s a)) {s : σ} {as : List α} (hI : I s) :
    Along step ok s as ↔ Along step ok' s as := by
  induction as generalizing s with
  | nil => exact Iff.rfl
  | cons a as ih =>
    constructor
    · intro h
      have hok := (heq s a hI).mp h.1
      exact ⟨hok, fun t ht => (ih (hinv s a t hI hok ht)).mp (h.2 t ht)⟩
    · intro h
      exact ⟨(heq s a hI).mpr h.1, fun t ht => (ih (hinv s a t hI h.1 ht)).mpr (h.2 t ht)⟩

theorem along_append {step : σ → α → Option σ} {ok : σ → α → Prop} {s t : σ} {as bs : List α}
    (h : Along step ok s (as ++ bs)) (hr : run step s as = some t) :
    Along step ok s as ∧ Along step ok t bs := by
  induction as generalizing s with
  | nil =>
    cases hr
    exact ⟨trivial, h⟩
  | cons a as ih =>
    obtain ⟨u, hu, hr⟩ := run_cons hr
    obtain ⟨has, hbs⟩ := ih (h.2 u hu) hr
    refine ⟨⟨h.1, ?_⟩, hbs⟩
    intro v hv
    cases hu.symm.trans hv
    exact has

/-- Under guarded steps the invariant holds in every state of the run. -/
theorem always_of_along {step : σ → α → Option σ} {ok : σ → α → Prop} {I P : σ → Prop}
    (hstep : ∀ s a t, I s → ok s a → step s a = some t → I t) (hI : ∀ s, I s → P s)
    {s : σ} {as : List α} (hs : I s) (hok : Along step ok s as) : Always step P s as := by
  induction as generalizing s with
  | nil => exact hI s hs
  | cons a as ih =>
    refine ⟨hI s hs, ?_⟩
    intro t ht
    exact ih (hstep s a t hs hok.1 ht) (hok.2 t ht)

/-- What an invariant of the guarded steps says of each step holds along guarded runs. -/
theorem along_of_guarded {step : σ → α → Option σ} {ok P : σ → α → Prop} {I : σ → Prop}
    (hstep : ∀ s a t, I s → ok s a → step s a = some t → I t) (hI : ∀ s a, I s → ok s a → P s a)
    {s : σ} {as : List α} (hs : I s) (hok : Along step ok s as) : Along step P s as := by
  induction as generalizing s with
  | nil => trivial
  | cons a as ih =>
    refine ⟨hI s a hs hok.1, ?_⟩
    intro t ht
    exact ih (hstep s a t hs hok.1 ht) (hok.2 t ht)

/-- An invariant of the steps holds in every state of every run. -/
theorem always_of_invariant {step : σ → α → Option σ} {I P : σ → Prop}
    (hstep : ∀ s a t, I s → step s a = some t → I t) (hI : ∀ s, I s → P s) {s : σ} (hs : I s)
    (as : List α) : Always step P s as := by
  induction as generalizing s with
  | nil => exact hI s hs
  | cons a as ih => exact ⟨hI s hs, fun t ht => ih (hstep s a t hs ht)⟩

theorem always_head {step : σ → α → Option σ} {P : σ → Prop} {s : σ} {as : List α}
    (h : Always step P s as) : P s := by
  cases as with
  | nil => exact h
  | cons a as => exact h.1

theorem always_last {step : σ → α → Option σ} {P : σ → Prop} {s t : σ} {as : List α}
    (h : Always step P s as) (hr : run step s as = some t) : P t := by
  induction as generalizing s with
  | nil =>
    cases hr
    exact h
  | cons a as ih =>
    obtain ⟨u, hu, hr⟩ := run_cons hr
    exact ih (h.2 u hu) hr

/-- Where a step keeps the property exactly when its side condition holds, the
property holds throughout a run exactly when the condition holds at each step. -/
theorem always_iff_along {step : σ → α → Option σ} {ok : σ → α → Prop} {I P : σ → Prop}
    (hinv : ∀ s a t, I s → P s → ok s a → step s a = some t → I t)
    (hkeep : ∀ s a t, I s → P s → step s a = some t → (P t ↔ ok s a))
    {s t : σ} {as : List α} (hI : I s) (hP : P s) (hr : run step s as = some t) :
    Always step P s as ↔ Along step ok s as := by
  induction as generalizing s with
  | nil => exact ⟨fun _ => trivial, fun _ => hP⟩
  | cons a as ih =>
    obtain ⟨u, hu, hr⟩ := run_cons hr
    constructor
    · intro h
      have hok := (hkeep s a u hI hP hu).mp (always_head (h.2 u hu))
      refine ⟨hok, ?_⟩
      intro v hv
      rw [hu] at hv
      cases hv
      have hPu := always_head (h.2 u hu)
      exact (ih (hinv s a u hI hP hok hu) hPu hr).mp (h.2 u hu)
    · intro h
      refine ⟨hP, ?_⟩
      intro v hv
      rw [hu] at hv
      cases hv
      have hPu := (hkeep s a u hI hP hu).mpr h.1
      exact (ih (hinv s a u hI hP h.1 hu) hPu hr).mpr (h.2 u hu)

end TravelAgent.Transition

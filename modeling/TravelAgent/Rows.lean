import Mathlib

namespace TravelAgent.Rows

variable {ρ κ : Type}

/-- The first row under a key, as a select on a unique column returns it. -/
def lookup [DecidableEq κ] (key : ρ → κ) (k : κ) (rows : List ρ) : Option ρ :=
  rows.find? fun r => decide (key r = k)

/-- Rewrite the rows that satisfy the condition and keep the others. -/
def updateWhere (p : ρ → Bool) (f : ρ → ρ) (rows : List ρ) : List ρ :=
  rows.map fun r => if p r then f r else r

/-- The first row that no later row comes before, as `ORDER BY … LIMIT 1` returns it. -/
def pickBy (before : ρ → ρ → Bool) : List ρ → Option ρ
  | [] => none
  | r :: rows =>
    match pickBy before rows with
    | none => some r
    | some q => if before q r then some q else some r

def leastBy (m : ρ → Nat) (rows : List ρ) : Option ρ := pickBy (fun q r => decide (m q < m r)) rows

def latestBy (m : ρ → Nat) (rows : List ρ) : Option ρ := pickBy (fun q r => decide (m r < m q)) rows

theorem pickBy_mem {before : ρ → ρ → Bool} {rows : List ρ} {r : ρ}
    (h : pickBy before rows = some r) : r ∈ rows := by
  induction rows with
  | nil => simp [pickBy] at h
  | cons a rows ih =>
    simp only [pickBy] at h
    split at h
    · cases h
      exact List.mem_cons_self
    · rename_i q hq
      split at h
      · cases h
        exact List.mem_cons_of_mem a (ih hq)
      · cases h
        exact List.mem_cons_self

theorem pickBy_none {before : ρ → ρ → Bool} {rows : List ρ} (h : pickBy before rows = none) :
    rows = [] := by
  cases rows with
  | nil => rfl
  | cons a rows =>
    simp only [pickBy] at h
    split at h
    · cases h
    · split at h <;> cases h

variable [DecidableEq κ]

theorem lookup_mem {key : ρ → κ} {k : κ} {rows : List ρ} {r : ρ}
    (h : lookup key k rows = some r) : r ∈ rows ∧ key r = k := by
  have hk := List.find?_some h
  exact ⟨List.mem_of_find?_eq_some h, of_decide_eq_true hk⟩

theorem lookup_append_none {key : ρ → κ} {k : κ} {rows : List ρ} {r : ρ}
    (h : lookup key k rows = none) (hk : key r = k) :
    lookup key k (rows ++ [r]) = some r := by
  simp only [lookup] at h
  simp [lookup, List.find?_append, h, hk]

theorem lookup_append_ne {key : ρ → κ} {k : κ} {rows : List ρ} {r : ρ} (hk : key r ≠ k) :
    lookup key k (rows ++ [r]) = lookup key k rows := by
  simp [lookup, List.find?_append, hk]

theorem lookup_filter_ne {key : ρ → κ} {k k' : κ} (h : k' ≠ k) (rows : List ρ) :
    lookup key k' (rows.filter fun r => decide (key r ≠ k)) = lookup key k' rows := by
  rw [lookup, List.find?_filter]
  congr 1
  funext r
  by_cases hr : key r = k'
  · simp [hr, h]
  · simp [hr]

/-- An update that keeps every key acts on the row found under a key. -/
theorem lookup_updateWhere (key : ρ → κ) (k : κ) (p : ρ → Bool) (f : ρ → ρ)
    (hf : ∀ r, key (f r) = key r) (rows : List ρ) :
    lookup key k (updateWhere p f rows) =
      (lookup key k rows).map fun r => if p r then f r else r := by
  induction rows with
  | nil => rfl
  | cons a rows ih =>
    have ha : key (if p a then f a else a) = key a := by split <;> simp [hf]
    simp only [lookup, updateWhere] at ih
    by_cases hk : key a = k
    · simp [lookup, updateWhere, ha, hk]
    · simp [lookup, updateWhere, ha, hk, ih]

theorem lookup_of_mem {key : ρ → κ} {rows : List ρ} (hn : (rows.map key).Nodup) {r : ρ}
    (h : r ∈ rows) : lookup key (key r) rows = some r := by
  induction rows with
  | nil => simp at h
  | cons a rows ih =>
    simp only [List.map_cons, List.nodup_cons] at hn
    obtain rfl | hr := List.mem_cons.mp h
    · simp [lookup]
    · have hne : key a ≠ key r := fun he => hn.1 (he ▸ List.mem_map_of_mem hr)
      have hi := ih hn.2 hr
      simp only [lookup] at hi
      simp [lookup, hne, hi]

omit [DecidableEq κ] in
theorem map_updateWhere (key : ρ → κ) (p : ρ → Bool) (f : ρ → ρ)
    (hf : ∀ r, key (f r) = key r) (rows : List ρ) :
    (updateWhere p f rows).map key = rows.map key := by
  simp only [updateWhere, List.map_map]
  apply List.map_congr_left
  intro r _
  simp only [Function.comp_apply]
  split <;> simp [hf]

omit [DecidableEq κ] in
theorem updateWhere_absorb {p q : ρ → Bool} {f g : ρ → ρ}
    (h : ∀ r, p r = true → q r = true ∧ q (f r) = true ∧ g (f r) = g r) (rows : List ρ) :
    updateWhere q g (updateWhere p f rows) = updateWhere q g rows := by
  simp only [updateWhere, List.map_map]
  apply List.map_congr_left
  intro r _
  simp only [Function.comp_apply]
  by_cases hp : p r = true
  · obtain ⟨hq, hqf, hg⟩ := h r hp
    simp [hp, hq, hqf, hg]
  · simp [hp]

theorem mem_updateWhere {p : ρ → Bool} {f : ρ → ρ} {rows : List ρ} {r : ρ}
    (h : r ∈ updateWhere p f rows) :
    (r ∈ rows ∧ p r = false) ∨ ∃ q ∈ rows, p q = true ∧ r = f q := by
  obtain ⟨q, hq, rfl⟩ := List.mem_map.mp h
  cases hp : p q with
  | false => exact Or.inl ⟨by simpa [hp] using hq, by simp [hp]⟩
  | true => exact Or.inr ⟨q, hq, hp, by simp⟩

omit [DecidableEq κ] in
/-- A condition that holds of a row and only of rows under its unique key selects one row. -/
theorem filter_length_eq_one {key : ρ → κ} {rows : List ρ} (hn : (rows.map key).Nodup) {r : ρ}
    (h : r ∈ rows) {p : ρ → Bool} (hp : p r = true) (hu : ∀ q, p q = true → key q = key r) :
    (rows.filter p).length = 1 := by
  induction rows with
  | nil => simp at h
  | cons a rows ih =>
    simp only [List.map_cons, List.nodup_cons] at hn
    obtain rfl | hr := List.mem_cons.mp h
    · have hz : rows.filter p = [] := by
        apply List.filter_eq_nil_iff.mpr
        intro q hq hpq
        exact hn.1 (hu q hpq ▸ List.mem_map_of_mem hq)
      simp [hp, hz]
    · have ha : p a = false := by
        apply Bool.eq_false_iff.mpr
        intro hpa
        exact hn.1 (hu a hpa ▸ List.mem_map_of_mem hr)
      simpa [ha] using ih hn.2 hr

omit [DecidableEq κ] in
theorem countP_updateWhere_lt {p q : ρ → Bool} {f : ρ → ρ} (hf : ∀ r, q r = true → p (f r) = false)
    {rows : List ρ} {r : ρ} (hr : r ∈ rows) (hp : p r = true) (hq : q r = true) :
    (updateWhere q f rows).countP p < rows.countP p := by
  have hle : ∀ xs : List ρ, (updateWhere q f xs).countP p ≤ xs.countP p := by
    intro xs
    simp only [updateWhere, List.countP_map]
    apply List.countP_mono_left
    intro x _ hx
    by_cases hqx : q x = true
    · simp [hqx, hf x hqx] at hx
    · simpa [hqx] using hx
  induction rows with
  | nil => simp at hr
  | cons a rows ih =>
    obtain rfl | hr := List.mem_cons.mp hr
    · have h := hle rows
      simp only [updateWhere, List.map_cons, hq, ↓reduceIte, List.countP_cons, hf r hq, hp,
        Bool.false_eq_true] at h ⊢
      omega
    · have h := ih hr
      by_cases hqa : q a = true
      · simp only [updateWhere, List.map_cons, hqa, ↓reduceIte, List.countP_cons, hf a hqa,
          Bool.false_eq_true] at h ⊢
        omega
      · simp only [updateWhere, List.map_cons, hqa, Bool.false_eq_true, ↓reduceIte,
          List.countP_cons] at h ⊢
        omega

end TravelAgent.Rows

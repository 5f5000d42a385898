import Mathlib

namespace TravelAgent.ReadCache

/-- A value as it stood after a number of transactions. -/
structure Snap (α : Type) where
  stamp : Nat
  value : α
deriving DecidableEq, Repr

/-- A cache beside a store. For each subject it also notes the newest update that
has reached the cache and the newest one whose call has returned. -/
structure Tier (κ ι α : Type) where
  cells : κ → Option (Snap α)
  published : ι → Nat
  returned : ι → Nat

variable {κ ι α : Type} [DecidableEq κ] [DecidableEq ι]

def Tier.empty : Tier κ ι α := ⟨fun _ => none, fun _ => 0, fun _ => 0⟩

def Tier.put (t : Tier κ ι α) (k : κ) (s : Snap α) : Tier κ ι α :=
  { t with cells := Function.update t.cells k (some s) }

def Tier.evict (t : Tier κ ι α) (k : κ) : Tier κ ι α :=
  { t with cells := Function.update t.cells k none }

def Tier.publish (t : Tier κ ι α) (i : ι) (n : Nat) : Tier κ ι α :=
  { t with published := Function.update t.published i (max (t.published i) n) }

def Tier.finish (t : Tier κ ι α) (i : ι) (n : Nat) : Tier κ ι α :=
  { t with returned := Function.update t.returned i (max (t.returned i) n) }

/-- No cell is older than what its subject has published. -/
structure Sound (about : κ → ι) (t : Tier κ ι α) (clock : Nat) : Prop where
  fresh : ∀ k s, t.cells k = some s → t.published (about k) ≤ s.stamp
  settled : ∀ i, t.returned i ≤ t.published i
  past : ∀ i, t.published i ≤ clock

variable {about : κ → ι} {t : Tier κ ι α} {clock : Nat}

omit [DecidableEq κ] [DecidableEq ι] in
theorem empty_sound (about : κ → ι) : Sound about (Tier.empty : Tier κ ι α) 0 := by
  refine ⟨?_, fun _ => Nat.le_refl 0, fun _ => Nat.le_refl 0⟩
  intro k s h
  cases h

omit [DecidableEq ι] in
theorem put_cells {k k' : κ} {s s' : Snap α} (h : (t.put k s).cells k' = some s') :
    k' = k ∧ s' = s ∨ t.cells k' = some s' := by
  by_cases hk : k' = k
  · subst hk
    simp only [Tier.put, Function.update_self, Option.some.injEq] at h
    exact Or.inl ⟨rfl, h.symm⟩
  · simp only [Tier.put, Function.update_of_ne hk] at h
    exact Or.inr h

omit [DecidableEq ι] in
theorem evict_cells {k k' : κ} {s : Snap α} (h : (t.evict k).cells k' = some s) :
    k' ≠ k ∧ t.cells k' = some s := by
  by_cases hk : k' = k
  · subst hk
    simp only [Tier.evict, Function.update_self] at h
    cases h
  · simp only [Tier.evict, Function.update_of_ne hk] at h
    exact ⟨hk, h⟩

omit [DecidableEq κ] in
theorem publish_of_ne {i j : ι} (h : j ≠ i) (n : Nat) :
    (t.publish i n).published j = t.published j := by
  simp only [Tier.publish, Function.update_of_ne h]

omit [DecidableEq κ] in
theorem publish_self (t : Tier κ ι α) (i : ι) (n : Nat) :
    (t.publish i n).published i = max (t.published i) n := by
  simp only [Tier.publish, Function.update_self]

omit [DecidableEq κ] in
theorem publish_grows (t : Tier κ ι α) (i : ι) (n : Nat) (j : ι) :
    t.published j ≤ (t.publish i n).published j := by
  by_cases hj : j = i
  · subst hj
    rw [publish_self]
    exact Nat.le_max_left _ _
  · exact Nat.le_of_eq (publish_of_ne hj n).symm

omit [DecidableEq ι] in
theorem put_sound (h : Sound about t clock) {k : κ} {s : Snap α}
    (hs : t.published (about k) ≤ s.stamp) : Sound about (t.put k s) clock := by
  refine ⟨?_, h.settled, h.past⟩
  intro k' s' hk
  obtain ⟨rfl, rfl⟩ | hk := put_cells hk
  · exact hs
  · exact h.fresh k' s' hk

omit [DecidableEq ι] in
theorem evict_sound (h : Sound about t clock) (k : κ) : Sound about (t.evict k) clock := by
  refine ⟨?_, h.settled, h.past⟩
  intro k' s hk
  exact h.fresh k' s (evict_cells hk).2

omit [DecidableEq κ] in
/-- An update is published once every cell about its subject is as new as the update. -/
theorem publish_sound (h : Sound about t clock) {i : ι} {n : Nat} (hn : n ≤ clock)
    (hc : ∀ k s, t.cells k = some s → about k = i → n ≤ s.stamp) :
    Sound about (t.publish i n) clock := by
  refine ⟨?_, fun j => Nat.le_trans (h.settled j) (publish_grows t i n j), ?_⟩
  · intro k s hk
    by_cases hi : about k = i
    · rw [hi, publish_self]
      exact Nat.max_le.mpr ⟨hi ▸ h.fresh k s hk, hc k s hk hi⟩
    · rw [publish_of_ne hi]
      exact h.fresh k s hk
  · intro j
    by_cases hj : j = i
    · subst hj
      rw [publish_self]
      exact Nat.max_le.mpr ⟨h.past j, hn⟩
    · rw [publish_of_ne hj]
      exact h.past j

omit [DecidableEq κ] in
theorem finish_sound (h : Sound about t clock) {i : ι} {n : Nat} (hn : n ≤ t.published i) :
    Sound about (t.finish i n) clock := by
  refine ⟨h.fresh, ?_, h.past⟩
  intro j
  by_cases hj : j = i
  · subst hj
    simp only [Tier.finish, Function.update_self]
    exact Nat.max_le.mpr ⟨h.settled j, hn⟩
  · simp only [Tier.finish, Function.update_of_ne hj]
    exact h.settled j

omit [DecidableEq κ] [DecidableEq ι] in
theorem later_sound (h : Sound about t clock) {clock' : Nat} (hc : clock ≤ clock') :
    Sound about t clock' :=
  ⟨h.fresh, h.settled, fun i => Nat.le_trans (h.past i) hc⟩

end TravelAgent.ReadCache

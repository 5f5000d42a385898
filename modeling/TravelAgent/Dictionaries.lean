import Mathlib

namespace TravelAgent.Dictionaries

variable {κ ν : Type} [DecidableEq κ]

/-- A dictionary filled from left to right: a later value takes the place of an earlier one. -/
def ofPairs (pairs : List (κ × ν)) : κ → Option ν :=
  pairs.foldl (fun d p => Function.update d p.1 (some p.2)) fun _ => none

theorem ofPairs_concat (pairs : List (κ × ν)) (k : κ) (v : ν) :
    ofPairs (pairs ++ [(k, v)]) = Function.update (ofPairs pairs) k (some v) := by
  simp only [ofPairs, List.foldl_append, List.foldl_cons, List.foldl_nil]

theorem mem_of_ofPairs {pairs : List (κ × ν)} {k : κ} {v : ν} (h : ofPairs pairs k = some v) :
    (k, v) ∈ pairs := by
  induction pairs using List.reverseRecOn with
  | nil => cases h
  | append_singleton pairs p ih =>
    rw [ofPairs_concat] at h
    apply List.mem_append.mpr
    by_cases hk : k = p.1
    · subst hk
      rw [Function.update_self] at h
      right
      rw [List.mem_singleton, ← Option.some.inj h]
    · rw [Function.update_of_ne hk] at h
      exact Or.inl (ih h)

theorem ofPairs_eq_none {pairs : List (κ × ν)} {k : κ} :
    ofPairs pairs k = none ↔ k ∉ pairs.map Prod.fst := by
  induction pairs using List.reverseRecOn with
  | nil => exact iff_of_true rfl List.not_mem_nil
  | append_singleton pairs p ih =>
    rw [ofPairs_concat, List.map_append, List.mem_append, not_or, ← ih, List.map_singleton,
      List.mem_singleton]
    by_cases hk : k = p.1
    · subst hk
      rw [Function.update_self]
      exact iff_of_false nofun fun h => h.2 rfl
    · rw [Function.update_of_ne hk]
      exact (and_iff_left hk).symm

/-- Under distinct keys every value is found. -/
theorem ofPairs_of_mem {pairs : List (κ × ν)} (hnodup : (pairs.map Prod.fst).Nodup) {k : κ} {v : ν}
    (h : (k, v) ∈ pairs) : ofPairs pairs k = some v := by
  cases hfound : ofPairs pairs k with
  | none => exact absurd (List.mem_map_of_mem h) (ofPairs_eq_none.mp hfound)
  | some u =>
    have heq := List.inj_on_of_nodup_map hnodup (mem_of_ofPairs hfound) h rfl
    rw [(Prod.mk.inj heq).2]

end TravelAgent.Dictionaries

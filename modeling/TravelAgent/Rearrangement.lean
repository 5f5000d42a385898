import Mathlib
import TravelAgent.Regrouping

namespace TravelAgent.Rearrangement

open TravelAgent.Regrouping

variable {α β : Type} (g : β → List α)

/-- The group at a position, empty beyond the last one. -/
def group (xs : List β) (i : Nat) : List α := (xs[i]?.map g).getD []

/-- The groups hold the same elements but those removed, and within each group
those that are not moved stand in the order they had. -/
structure Rearranged (xs ys : List β) (moved removed : Multiset α) : Prop where
  length : ys.length = xs.length
  conserved : contents g ys + removed = contents g xs
  ordered : ∀ i, ∃ kept : List α, kept.Sublist (group g xs i) ∧ kept.Sublist (group g ys i) ∧
    (group g xs i : Multiset α) ≤ kept + moved + removed ∧ (group g ys i : Multiset α) ≤ kept + moved

/-- What two selections of a list have in common, in its order. -/
theorem common_sublist {k₁ k₂ q : List α} (h₁ : k₁.Sublist q) (h₂ : k₂.Sublist q) :
    ∃ k : List α, k.Sublist k₁ ∧ k.Sublist k₂ ∧ (k₁ : Multiset α) + k₂ ≤ q + k := by
  induction q generalizing k₁ k₂ with
  | nil =>
    obtain rfl := List.sublist_nil.mp h₁
    obtain rfl := List.sublist_nil.mp h₂
    exact ⟨[], List.Sublist.refl _, List.Sublist.refl _, le_rfl⟩
  | cons a q ih =>
    cases h₁ with
    | cons _ h₁ =>
      cases h₂ with
      | cons _ h₂ =>
        obtain ⟨k, hk₁, hk₂, hle⟩ := ih h₁ h₂
        refine ⟨k, hk₁, hk₂, hle.trans ?_⟩
        rw [← Multiset.cons_coe, Multiset.cons_add]
        exact Multiset.le_cons_self _ _
      | @cons_cons k₂' _ _ h₂ =>
        obtain ⟨k, hk₁, hk₂, hle⟩ := ih h₁ h₂
        refine ⟨k, hk₁, hk₂.cons a, ?_⟩
        rw [← Multiset.cons_coe, ← Multiset.cons_coe, Multiset.add_cons, Multiset.cons_add]
        exact Multiset.cons_le_cons a hle
    | @cons_cons k₁' _ _ h₁ =>
      cases h₂ with
      | cons _ h₂ =>
        obtain ⟨k, hk₁, hk₂, hle⟩ := ih h₁ h₂
        refine ⟨k, hk₁.cons a, hk₂, ?_⟩
        rw [← Multiset.cons_coe, ← Multiset.cons_coe, Multiset.cons_add, Multiset.cons_add]
        exact Multiset.cons_le_cons a hle
      | @cons_cons k₂' _ _ h₂ =>
        obtain ⟨k, hk₁, hk₂, hle⟩ := ih h₁ h₂
        refine ⟨a :: k, hk₁.cons_cons a, hk₂.cons_cons a, ?_⟩
        simp only [← Multiset.cons_coe, Multiset.cons_add, Multiset.add_cons]
        exact Multiset.cons_le_cons a (Multiset.cons_le_cons a hle)

variable {g}

theorem Rearranged.refl (xs : List β) : Rearranged g xs xs 0 0 := by
  refine ⟨rfl, add_zero _, ?_⟩
  intro i
  refine ⟨group g xs i, List.Sublist.refl _, List.Sublist.refl _, ?_, ?_⟩
  · simp
  · simp

/-- One rearrangement after another. -/
theorem Rearranged.trans {xs ys zs : List β} {m m' r r' : Multiset α} (h : Rearranged g xs ys m r)
    (h' : Rearranged g ys zs m' r') : Rearranged g xs zs (m + m') (r + r') := by
  refine ⟨h'.length.trans h.length, ?_, ?_⟩
  · rw [← h.conserved, ← h'.conserved, add_assoc, add_comm r']
  · intro i
    obtain ⟨k₁, hx, hy, hxle, hyle⟩ := h.ordered i
    obtain ⟨k₂, hy', hz, hyle', hzle⟩ := h'.ordered i
    obtain ⟨k, hk₁, hk₂, hle⟩ := common_sublist hy hy'
    have hfirst : (k₁ : Multiset α) ≤ k + m' + r' := by
      have hsum : (k₁ : Multiset α) + k₂ ≤ k + m' + r' + k₂ := by
        calc (k₁ : Multiset α) + k₂ ≤ group g ys i + k := hle
          _ ≤ (k₂ + m' + r') + k := add_le_add_left hyle' _
          _ = k + m' + r' + k₂ := by abel
      exact le_of_add_le_add_right hsum
    have hsecond : (k₂ : Multiset α) ≤ k + m := by
      have hsum : (k₂ : Multiset α) + k₁ ≤ k + m + k₁ := by
        calc (k₂ : Multiset α) + k₁ = k₁ + k₂ := add_comm _ _
          _ ≤ group g ys i + k := hle
          _ ≤ (k₁ + m) + k := add_le_add_left hyle _
          _ = k + m + k₁ := by abel
      exact le_of_add_le_add_right hsum
    refine ⟨k, hk₁.trans hx, hk₂.trans hz, ?_, ?_⟩
    · calc (group g xs i : Multiset α) ≤ k₁ + m + r := hxle
        _ ≤ (k + m' + r') + m + r := add_le_add_left (add_le_add_left hfirst m) r
        _ = k + (m + m') + (r + r') := by abel
    · calc (group g zs i : Multiset α) ≤ k₂ + m' := hzle
        _ ≤ (k + m) + m' := add_le_add_left hsecond m'
        _ = k + (m + m') := by abel

theorem group_modify {xs : List β} {f : β → β} {e : List α → List α} (hf : ∀ b, g (f b) = e (g b))
    {i : Nat} (hi : i < xs.length) (j : Nat) :
    group g (xs.modify i f) j = if i = j then e (group g xs j) else group g xs j := by
  unfold group
  rw [List.getElem?_modify]
  by_cases h : i = j
  · subst h
    rw [List.getElem?_eq_getElem hi, if_pos rfl]
    simp only [Option.map_eq_map, Option.map_some, Option.getD_some, if_true, hf]
  · simp only [if_neg h, id_map']

theorem group_some {xs : List β} {i j : Nat} {a : α} (h : (group g xs i)[j]? = some a) :
    ∃ (hi : i < xs.length) (hj : j < (g xs[i]).length), (g xs[i])[j] = a ∧ group g xs i = g xs[i] := by
  by_cases hi : i < xs.length
  · have hgroup : group g xs i = g xs[i] := by
      rw [group, List.getElem?_eq_getElem hi]
      rfl
    rw [hgroup] at h
    obtain ⟨hj, ha⟩ := List.getElem?_eq_some_iff.mp h
    exact ⟨hi, hj, ha, hgroup⟩
  · rw [group, List.getElem?_eq_none (Nat.not_lt.mp hi)] at h
    cases h

section

variable {xs : List β} {f h : β → β} {i j : Nat} {a : α}

/-- Without the one at a place, the others are left. -/
theorem group_erase (hf : ∀ b, g (f b) = (g b).eraseIdx j) (ha : (group g xs i)[j]? = some a)
    (k : Nat) : (group g (xs.modify i f) k).Sublist (group g xs k) ∧
      (group g xs k : Multiset α) ≤ group g (xs.modify i f) k + {a} := by
  obtain ⟨hi, hj, rfl, hgroup⟩ := group_some ha
  rw [group_modify (e := (·.eraseIdx j)) hf hi]
  split
  · rename_i hik
    subst hik
    refine ⟨List.eraseIdx_sublist _ _, ?_⟩
    rw [hgroup, add_comm, Multiset.singleton_add, Multiset.cons_coe]
    exact (Multiset.coe_eq_coe.mpr (List.getElem_cons_eraseIdx_perm hj).symm).le
  · exact ⟨List.Sublist.refl _, Multiset.le_add_right _ _⟩

theorem rearranged_erase (hf : ∀ b, g (f b) = (g b).eraseIdx j) (ha : (group g xs i)[j]? = some a) :
    Rearranged g xs (xs.modify i f) 0 {a} := by
  obtain ⟨hi, hj, hat, -⟩ := group_some ha
  refine ⟨List.length_modify _ _ _, ?_, ?_⟩
  · rw [add_comm, Multiset.singleton_add, ← hat]
    exact contents_erase hi (hf _) hj
  · intro k
    obtain ⟨hsub, hle⟩ := group_erase hf ha k
    refine ⟨group g (xs.modify i f) k, hsub, List.Sublist.refl _, ?_, ?_⟩
    · rwa [add_zero]
    · rw [add_zero]

/-- Out of one place and into another. -/
theorem rearranged_move (hf : ∀ b, g (f b) = (g b).eraseIdx j) (ha : (group g xs i)[j]? = some a)
    {k p : Nat} (hh : ∀ b, g (h b) = (g b).insertIdx p a) (hk : k < xs.length)
    (hp : p ≤ (group g (xs.modify i f) k).length) :
    Rearranged g xs ((xs.modify i f).modify k h) {a} 0 := by
  have hk' : k < (xs.modify i f).length := by rwa [List.length_modify]
  have hgroup : group g (xs.modify i f) k = g (xs.modify i f)[k] := by
    rw [group, List.getElem?_eq_getElem hk']
    rfl
  refine ⟨?_, ?_, ?_⟩
  · rw [List.length_modify, List.length_modify]
  · obtain ⟨hi, hj, hat, -⟩ := group_some ha
    have hout := contents_erase hi (hf _) hj
    have hin := contents_modify g (xs.modify i f) h hk'
    rw [hgroup] at hp
    rw [hh, Multiset.coe_eq_coe.mpr (List.perm_insertIdx a _ hp), ← Multiset.cons_coe,
      Multiset.add_cons, ← Multiset.cons_add] at hin
    rw [add_zero, ← hout, hat]
    exact add_right_cancel hin
  · intro d
    obtain ⟨hsub, hle⟩ := group_erase hf ha d
    refine ⟨group g (xs.modify i f) d, hsub, ?_, ?_, ?_⟩
    · rw [group_modify (e := (·.insertIdx p a)) hh hk']
      split
      · exact List.sublist_insertIdx _ _ _
      · exact List.Sublist.refl _
    · rwa [add_zero]
    · rw [group_modify (e := (·.insertIdx p a)) hh hk']
      split
      · rename_i hkd
        subst hkd
        rw [Multiset.coe_eq_coe.mpr (List.perm_insertIdx a _ hp), ← Multiset.cons_coe, add_comm,
          Multiset.singleton_add]
      · exact Multiset.le_add_right _ _

/-- Without the one that was put in, all is as before. -/
theorem rearranged_insert (hf : ∀ b, g (f b) = (g b).insertIdx j a) (hi : i < xs.length)
    (hj : j ≤ (g xs[i]).length) : Rearranged g (xs.modify i f) xs 0 {a} := by
  have hgroup : group g xs i = g xs[i] := by
    rw [group, List.getElem?_eq_getElem hi]
    rfl
  refine ⟨(List.length_modify _ _ _).symm, ?_, ?_⟩
  · have hin := contents_modify g xs f hi
    rw [hf, Multiset.coe_eq_coe.mpr (List.perm_insertIdx a _ hj), ← Multiset.cons_coe,
      Multiset.add_cons, ← Multiset.cons_add] at hin
    rw [add_comm, Multiset.singleton_add]
    exact (add_right_cancel hin).symm
  · intro k
    refine ⟨group g xs k, ?_, List.Sublist.refl _, ?_, ?_⟩
    · rw [group_modify (e := (·.insertIdx j a)) hf hi]
      split
      · exact List.sublist_insertIdx _ _ _
      · exact List.Sublist.refl _
    · rw [group_modify (e := (·.insertIdx j a)) hf hi, add_zero]
      split
      · rename_i hik
        subst hik
        rw [hgroup, Multiset.coe_eq_coe.mpr (List.perm_insertIdx a _ hj), ← Multiset.cons_coe,
          add_comm, Multiset.singleton_add]
      · exact Multiset.le_add_right _ _
    · rw [add_zero]

end

/-- With none moved, what is left of a group is a part of it in order. -/
theorem Rearranged.sublist {xs ys : List β} {r : Multiset α} (h : Rearranged g xs ys 0 r) (i : Nat) :
    (group g ys i).Sublist (group g xs i) := by
  obtain ⟨kept, hx, hy, -, hle⟩ := h.ordered i
  rw [add_zero] at hle
  rwa [← hy.eq_of_length_le (Multiset.card_le_card hle)]

end TravelAgent.Rearrangement

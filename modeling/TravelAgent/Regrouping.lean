import Mathlib

namespace TravelAgent.Regrouping

variable {α β κ : Type} (g : β → List α) (key : α → κ)

/-- What the groups hold together, in whatever order. -/
def contents (xs : List β) : Multiset α := (xs.flatMap g : Multiset α)

/-- No two elements have the same key. -/
def Separate (m : Multiset α) : Prop := (m.map key).Nodup

theorem contents_cons (b : β) (xs : List β) :
    contents g (b :: xs) = (g b : Multiset α) + contents g xs := by
  simp only [contents, List.flatMap_cons, Multiset.coe_add]

/-- A change of one group exchanges what that group holds. -/
theorem contents_modify (xs : List β) (f : β → β) {i : Nat} (hi : i < xs.length) :
    contents g (xs.modify i f) + (g xs[i] : Multiset α) =
      contents g xs + (g (f xs[i]) : Multiset α) := by
  induction xs generalizing i with
  | nil => simp at hi
  | cons b xs ih =>
    cases i with
    | zero =>
      simp only [List.modify_zero_cons, contents_cons, List.getElem_cons_zero]
      rw [add_right_comm, add_comm (g (f b) : Multiset α) (g b : Multiset α), add_right_comm]
    | succ i =>
      simp only [List.length_cons, Nat.add_lt_add_iff_right] at hi
      simp only [List.modify_succ_cons, contents_cons, List.getElem_cons_succ, add_assoc, ih hi]

theorem contents_congr {ys xs : List β} (h : ys.map g = xs.map g) :
    contents g ys = contents g xs := by
  rw [contents, contents, List.flatMap_def, List.flatMap_def, h]

variable {g}

theorem contents_modify_perm {xs : List β} {f : β → β} {i : Nat} (hi : i < xs.length)
    (h : (g (f xs[i])).Perm (g xs[i])) : contents g (xs.modify i f) = contents g xs := by
  have hm := contents_modify g xs f hi
  rw [Multiset.coe_eq_coe.mpr h] at hm
  exact add_right_cancel hm

/-- An element goes into a group. -/
theorem contents_insert (xs : List β) {f : β → β} {i j : Nat} {a : α}
    (hf : ∀ b, g (f b) = (g b).insertIdx j a) :
    contents g (xs.modify i f) ≤ a ::ₘ contents g xs := by
  by_cases hi : i < xs.length
  · have hm := contents_modify g xs f hi
    rw [hf] at hm
    by_cases hj : j ≤ (g xs[i]).length
    · rw [Multiset.coe_eq_coe.mpr (List.perm_insertIdx a _ hj), ← Multiset.cons_coe,
        Multiset.add_cons, ← Multiset.cons_add] at hm
      exact (add_right_cancel hm).le
    · rw [List.insertIdx_of_length_lt (by omega)] at hm
      rw [add_right_cancel hm]
      exact Multiset.le_cons_self _ _
  · rw [List.modify_eq_self (by omega)]
    exact Multiset.le_cons_self _ _

/-- An element is taken out of a group. -/
theorem contents_erase {xs : List β} {f : β → β} {i j : Nat} (hi : i < xs.length)
    (hf : g (f xs[i]) = (g xs[i]).eraseIdx j) (hj : j < (g xs[i]).length) :
    (g xs[i])[j] ::ₘ contents g (xs.modify i f) = contents g xs := by
  have hm := contents_modify g xs f hi
  rw [hf, ← Multiset.coe_eq_coe.mpr (List.getElem_cons_eraseIdx_perm hj), ← Multiset.cons_coe,
    Multiset.add_cons, ← Multiset.cons_add] at hm
  exact add_right_cancel hm

/-- An element takes the place of another one. -/
theorem contents_set {xs : List β} {f : β → β} {i j : Nat} {a : α} (hi : i < xs.length)
    (hf : g (f xs[i]) = (g xs[i]).set j a) : contents g (xs.modify i f) ≤ a ::ₘ contents g xs := by
  have hm := contents_modify g xs f hi
  rw [hf] at hm
  by_cases hj : j < (g xs[i]).length
  · have hset : ((g xs[i]).set j a : Multiset α) ≤ a ::ₘ (g xs[i] : Multiset α) := by
      rw [Multiset.coe_eq_coe.mpr (List.set_perm_cons_eraseIdx hj a), ← Multiset.cons_coe]
      exact Multiset.cons_le_cons a (List.eraseIdx_sublist _ j).subperm
    have hle : contents g (xs.modify i f) + (g xs[i] : Multiset α) ≤
        a ::ₘ contents g xs + (g xs[i] : Multiset α) := by
      rw [hm, Multiset.cons_add, ← Multiset.add_cons]
      exact (add_le_add_iff_left _).mpr hset
    exact (add_le_add_iff_right _).mp hle
  · rw [List.set_eq_of_length_le (by omega)] at hm
    rw [add_right_cancel hm]
    exact Multiset.le_cons_self _ _

/-- The two elements trade places between the groups and the outside. -/
theorem contents_exchange {xs : List β} {f : β → β} {i j : Nat} {a : α} (hi : i < xs.length)
    (hf : g (f xs[i]) = (g xs[i]).set j a) (hj : j < (g xs[i]).length) :
    (g xs[i])[j] ::ₘ contents g (xs.modify i f) = a ::ₘ contents g xs := by
  have hm := contents_modify g xs f hi
  rw [hf, Multiset.coe_eq_coe.mpr (List.set_perm_cons_eraseIdx hj a),
    ← Multiset.coe_eq_coe.mpr (List.getElem_cons_eraseIdx_perm hj), ← Multiset.cons_coe,
    ← Multiset.cons_coe, Multiset.add_cons, Multiset.add_cons, ← Multiset.cons_add,
    ← Multiset.cons_add] at hm
  exact add_right_cancel hm

theorem contents_drop (xs : List β) {f : β → β} {i j : Nat}
    (hf : ∀ b, g (f b) = (g b).eraseIdx j) : contents g (xs.modify i f) ≤ contents g xs := by
  by_cases hi : i < xs.length
  · have hm := contents_modify g xs f hi
    have hle : contents g (xs.modify i f) + (g xs[i] : Multiset α) ≤
        contents g xs + (g xs[i] : Multiset α) := by
      rw [hm, hf]
      exact (add_le_add_iff_left _).mpr (List.eraseIdx_sublist _ j).subperm
    exact (add_le_add_iff_right _).mp hle
  · rw [List.modify_eq_self (by omega)]

variable {key}

theorem Separate.mono {m m' : Multiset α} (h : Separate key m') (hle : m ≤ m') : Separate key m :=
  Multiset.nodup_of_le (Multiset.map_le_map hle) h

theorem separate_zero : Separate key 0 := by simp [Separate]

theorem separate_cons {a : α} {m : Multiset α} :
    Separate key (a ::ₘ m) ↔ (∀ b ∈ m, key b ≠ key a) ∧ Separate key m := by
  simp only [Separate, Multiset.map_cons, Multiset.nodup_cons, Multiset.mem_map, not_exists,
    not_and]

theorem separate_add {m m' : Multiset α} : Separate key (m + m') ↔
    Separate key m ∧ Separate key m' ∧ ∀ a ∈ m, ∀ b ∈ m', key b ≠ key a := by
  induction m using Multiset.induction with
  | empty => simp [separate_zero]
  | cons a m ih =>
    simp only [Multiset.cons_add, separate_cons, ih, Multiset.mem_add, Multiset.mem_cons,
      or_imp, forall_and, forall_eq]
    tauto

theorem mem_contents {a : α} {xs : List β} : a ∈ contents g xs ↔ ∃ b ∈ xs, a ∈ g b := by
  simp only [contents, Multiset.mem_coe, List.mem_flatMap]

section Novelty

variable (key) [DecidableEq κ]

/-- The elements whose key has not come before, given what precedes the list. -/
def novel (before xs : List α) : List α :=
  (xs.zipIdx.filter fun p : α × Nat =>
    decide (∀ b ∈ before ++ xs.take p.2, key b ≠ key p.1)).map (·.1)

@[simp] theorem novel_nil (before : List α) : novel key before [] = [] := rfl

theorem novel_cons (before : List α) (a : α) (xs : List α) :
    novel key before (a :: xs) =
      if ∀ b ∈ before, key b ≠ key a then a :: novel key (before ++ [a]) xs
      else novel key (before ++ [a]) xs := by
  have htail : ((xs.zipIdx 1).filter fun p : α × Nat =>
      decide (∀ b ∈ before ++ (a :: xs).take p.2, key b ≠ key p.1)).map (·.1) =
      novel key (before ++ [a]) xs := by
    rw [List.zipIdx_succ, List.filter_map, List.map_map, novel]
    congr 1
    apply List.filter_congr
    intro p _
    apply decide_eq_decide.mpr
    simp only [List.take_succ_cons, List.append_assoc, List.singleton_append]
  rw [novel, List.zipIdx_cons, List.filter_cons]
  simp only [List.take_zero, List.append_nil, decide_eq_true_eq]
  split
  · rw [List.map_cons, htail]
  · exact htail

theorem novel_append (before xs ys : List α) :
    novel key before (xs ++ ys) = novel key before xs ++ novel key (before ++ xs) ys := by
  induction xs generalizing before with
  | nil => simp
  | cons a xs ih =>
    simp only [List.cons_append, novel_cons, ih, List.append_assoc, List.nil_append]
    split
    · rfl
    · rfl

theorem novel_new {before xs : List α} {a : α} (h : a ∈ novel key before xs) :
    ∀ b ∈ before, key b ≠ key a := by
  simp only [novel, List.mem_map, List.mem_filter, decide_eq_true_eq] at h
  obtain ⟨p, ⟨-, hp⟩, rfl⟩ := h
  exact fun b hb => hp b (List.mem_append_left _ hb)

theorem novel_separate (before xs : List α) : Separate key (novel key before xs : Multiset α) := by
  induction xs generalizing before with
  | nil => exact separate_zero
  | cons a xs ih =>
    rw [novel_cons]
    split
    · rw [← Multiset.cons_coe, separate_cons]
      refine ⟨?_, ih _⟩
      intro b hb hk
      exact novel_new key hb a (by simp) hk.symm
    · exact ih _

end Novelty

section Best

/-- An element takes the lead if it comes before the best so far. -/
def keepBest (before : α → α → Bool) (best : Option α) (x : α) : Option α :=
  match best with
  | none => some x
  | some y => if before x y then some x else some y

theorem keepBest_some {before : α → α → Bool} {best : Option α} {x y : α}
    (h : keepBest before best x = some y) : best = some y ∨ y = x := by
  unfold keepBest at h
  split at h
  · exact Or.inr (Option.some.inj h).symm
  · split at h
    · exact Or.inr (Option.some.inj h).symm
    · exact Or.inl h

theorem keepBest_mem {before : α → α → Bool} {xs : List α} {best : Option α} {y : α}
    (h : xs.foldl (keepBest before) best = some y) : best = some y ∨ y ∈ xs := by
  induction xs generalizing best with
  | nil => exact Or.inl h
  | cons x xs ih =>
    obtain hb | hm := ih h
    · obtain hb | rfl := keepBest_some hb
      · exact Or.inl hb
      · exact Or.inr List.mem_cons_self
    · exact Or.inr (List.mem_cons_of_mem x hm)

end Best

section

variable [DecidableEq κ] (key : β → κ) (size : β → Nat)

/-- The size of all groups with a key. -/
def sizeByKey (xs : List β) (k : κ) : Nat := ((xs.filter fun b => key b = k).map size).sum

theorem sizeByKey_cons (b : β) (xs : List β) (k : κ) :
    sizeByKey key size (b :: xs) k = (if key b = k then size b else 0) + sizeByKey key size xs k := by
  by_cases h : key b = k
  · simp [sizeByKey, h]
  · simp [sizeByKey, h]

theorem sizeByKey_eq_zero {xs : List β} {k : κ} :
    sizeByKey key size xs k = 0 ↔ ∀ b ∈ xs, key b = k → size b = 0 := by
  simp only [sizeByKey, List.sum_eq_zero_iff_forall_eq_nat, List.mem_map, List.mem_filter,
    decide_eq_true_eq, forall_exists_index, and_imp]
  constructor
  · exact fun h b hb hk => h (size b) b hb hk rfl
  · rintro h _ b hb hk rfl
    exact h b hb hk

theorem sum_map_add (xs : List β) (f g : β → Nat) :
    (xs.map fun b => f b + g b).sum = (xs.map f).sum + (xs.map g).sum := by
  induction xs with
  | nil => rfl
  | cons b xs ih =>
    simp only [List.map_cons, List.sum_cons, ih]
    omega

/-- Each group once more for each other one with its key. -/
theorem sum_sizeByKey (b : β) (xs : List β) :
    ((b :: xs).map fun x => sizeByKey key size (b :: xs) (key x)).sum =
      size b + sizeByKey key size xs (key b) +
        (xs.map fun x => if key b = key x then size b else 0).sum +
          (xs.map fun x => sizeByKey key size xs (key x)).sum := by
  simp only [List.map_cons, List.sum_cons, sizeByKey_cons, if_true, sum_map_add]
  omega

theorem le_sum_sizeByKey (xs : List β) :
    (xs.map size).sum ≤ (xs.map fun x => sizeByKey key size xs (key x)).sum := by
  induction xs with
  | nil => exact le_rfl
  | cons b xs ih =>
    rw [sum_sizeByKey, List.map_cons, List.sum_cons]
    omega

/-- The sizes by key come to the sizes of all groups exactly if groups with one key are empty. -/
theorem sum_sizeByKey_eq_iff (xs : List β) :
    (xs.map fun x => sizeByKey key size xs (key x)).sum = (xs.map size).sum ↔
      xs.Pairwise fun x y => key x = key y → size x = 0 ∧ size y = 0 := by
  induction xs with
  | nil => exact iff_of_true rfl List.Pairwise.nil
  | cons b xs ih =>
    have hle := le_sum_sizeByKey key size xs
    have hsplit : ((b :: xs).map fun x => sizeByKey key size (b :: xs) (key x)).sum =
        ((b :: xs).map size).sum ↔
          (sizeByKey key size xs (key b) = 0 ∧
            (xs.map fun x => if key b = key x then size b else 0).sum = 0) ∧
          (xs.map fun x => sizeByKey key size xs (key x)).sum = (xs.map size).sum := by
      rw [sum_sizeByKey, List.map_cons, List.sum_cons]
      omega
    rw [hsplit, ih, List.pairwise_cons, sizeByKey_eq_zero, List.sum_eq_zero_iff_forall_eq_nat]
    apply and_congr_left'
    simp only [List.mem_map, forall_exists_index, and_imp, forall_apply_eq_imp_iff₂]
    constructor
    · rintro ⟨hrest, hb⟩ x hx hk
      have hzero := hb x hx
      rw [if_pos hk] at hzero
      exact ⟨hzero, hrest x hx hk.symm⟩
    · intro h
      refine ⟨fun x hx hk => (h x hx hk.symm).2, ?_⟩
      intro x hx
      split
      · rename_i hk
        exact (h x hx hk).1
      · rfl

end

end TravelAgent.Regrouping

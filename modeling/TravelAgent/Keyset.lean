import Mathlib

namespace TravelAgent.Keyset

variable {α β κ τ ε : Type}

/-- `behind j k` says that the key `j` stands behind the key `k` in a list. -/
structure WeakOrder (behind : κ → κ → Bool) : Prop where
  asymm : ∀ {j k}, behind j k = true → behind k j = false
  split : ∀ {j l} (k), behind j l = true → behind j k = true ∨ behind k l = true

theorem weakOrder_column {γ : Type} [LinearOrder γ] (f : κ → γ) :
    WeakOrder fun j k => decide (f j < f k) := by
  constructor
  · intro j k h
    exact decide_eq_false (lt_asymm (of_decide_eq_true h))
  · intro j l k h
    have hjl := of_decide_eq_true h
    obtain hjk | hkj := lt_or_ge (f j) (f k)
    · exact Or.inl (decide_eq_true hjk)
    · exact Or.inr (decide_eq_true (lt_of_le_of_lt hkj hjl))

/-- An order by a further column in front. -/
theorem WeakOrder.lex {γ : Type} [LinearOrder γ] {behind : κ → κ → Bool} (hb : WeakOrder behind)
    (f : κ → γ) : WeakOrder fun j k => decide (f j < f k) || (decide (f j = f k) && behind j k) := by
  constructor
  · intro j k h
    simp only [Bool.or_eq_true, Bool.and_eq_true, decide_eq_true_eq] at h
    obtain h | ⟨h, hjk⟩ := h
    · simp [lt_asymm h, ne_of_gt h]
    · simp [h, hb.asymm hjk]
  · intro j l k h
    simp only [Bool.or_eq_true, Bool.and_eq_true, decide_eq_true_eq] at h ⊢
    obtain hjk | hjk | hkj := lt_trichotomy (f j) (f k)
    · exact Or.inl (Or.inl hjk)
    · obtain h | ⟨h, hjl⟩ := h
      · exact Or.inr (Or.inl (hjk ▸ h))
      · obtain hb' | hb' := hb.split k hjl
        · exact Or.inl (Or.inr ⟨hjk, hb'⟩)
        · exact Or.inr (Or.inr ⟨hjk.symm.trans h, hb'⟩)
    · obtain h | ⟨h, -⟩ := h
      · exact Or.inr (Or.inl (lt_trans hkj h))
      · exact Or.inr (Or.inl (h ▸ hkj))

/-- No two rows share a place. -/
def Separates (behind : κ → κ → Bool) (key : α → κ) (xs : List α) : Prop :=
  xs.Pairwise fun x y => behind (key x) (key y) = true ∨ behind (key y) (key x) = true

def sorted (behind : κ → κ → Bool) (key : α → κ) (xs : List α) : List α :=
  xs.mergeSort fun x y => !behind (key x) (key y)

/-- The rows behind a cursor, in order. -/
def remaining (behind : κ → κ → Bool) (key : α → κ) (xs : List α) (c : Option κ) : List α :=
  sorted behind key (xs.filter fun x => c.all (behind (key x)))

/-- The key of the last row on a page that is not the last one. -/
def nextKey (behind : κ → κ → Bool) (key : α → κ) (xs : List α) (limit : Nat) (c : Option κ) :
    Option κ :=
  if limit < (remaining behind key xs c).length then
    ((remaining behind key xs c).take limit).getLast?.map key
  else none

/-- The entries of all pages, from a token on, if they end within a number of pages. -/
def follow (fetch : Option τ → Except ε (List β × Option τ)) :
    Nat → Option τ → Except ε (Option (List β))
  | 0, _ => .ok none
  | n + 1, c =>
    (fetch c).bind fun p =>
      match p.2 with
      | none => .ok (some p.1)
      | some d => (follow fetch n (some d)).map fun rest => rest.map fun items => p.1 ++ items

section Ordered

variable {behind : κ → κ → Bool} (ho : WeakOrder behind) {key : α → κ} {xs : List α}

include ho

theorem behind_trans {j k l : κ} (hjk : behind j k = true) (hkl : behind k l = true) :
    behind j l = true := by
  obtain h | h := ho.split l hjk
  · exact h
  · rw [ho.asymm hkl] at h
    cases h

theorem behind_irrefl (k : κ) : behind k k = false := by
  cases h : behind k k with
  | false => rfl
  | true => exact h ▸ ho.asymm h

theorem sorted_pairwise (key : α → κ) (xs : List α) :
    (sorted behind key xs).Pairwise fun x y => (!behind (key x) (key y)) = true := by
  apply List.pairwise_mergeSort
  · intro x y z hxy hyz
    rw [Bool.not_eq_true'] at hxy hyz ⊢
    cases hxz : behind (key x) (key z) with
    | false => rfl
    | true =>
      obtain h | h := ho.split (key y) hxz
      · rw [hxy] at h
        cases h
      · rw [hyz] at h
        cases h
  · intro x y
    cases hxy : behind (key x) (key y) with
    | false => rfl
    | true => simp [ho.asymm hxy]

/-- In a sorted list without shared places, every row is behind those before it. -/
theorem sorted_strict (hs : Separates behind key xs) :
    (sorted behind key xs).Pairwise fun x y => behind (key y) (key x) = true := by
  have hsep : (sorted behind key xs).Pairwise fun x y =>
      behind (key x) (key y) = true ∨ behind (key y) (key x) = true :=
    (List.mergeSort_perm xs _).symm.pairwise hs fun h => h.symm
  refine (hsep.and (sorted_pairwise ho key xs)).imp ?_
  intro x y h
  obtain ⟨h | h, hle⟩ := h
  · rw [h] at hle
    cases hle
  · exact h

/-- Sorting and selecting may change places. -/
theorem sorted_filter (hs : Separates behind key xs) (p : α → Bool) :
    sorted behind key (xs.filter p) = (sorted behind key xs).filter p := by
  have hperm : (sorted behind key (xs.filter p)).Perm ((sorted behind key xs).filter p) :=
    (List.mergeSort_perm (xs.filter p) _).trans ((List.mergeSort_perm xs _).filter p).symm
  refine hperm.eq_of_pairwise ?_ (sorted_pairwise ho key _) ((sorted_pairwise ho key xs).filter p)
  intro x y hx hy hxy hyx
  have hx' : x ∈ xs := (List.mem_filter.mp (List.mem_mergeSort.mp hx)).1
  have hy' : y ∈ xs := List.mem_mergeSort.mp (List.mem_filter.mp hy).1
  by_contra hne
  have hsymm : Std.Symm fun x y : α =>
      behind (key x) (key y) = true ∨ behind (key y) (key x) = true := ⟨fun x y h => h.symm⟩
  obtain h | h := List.Pairwise.forall hs hx' hy' hne
  · rw [h] at hxy
    cases hxy
  · rw [h] at hyx
    cases hyx

/-- What a page leaves is what lies behind the key of its last row. -/
theorem remaining_next (hs : Separates behind key xs) {c : Option κ} {limit : Nat} {x : α}
    (hx : ((remaining behind key xs c).take limit).getLast? = some x) :
    remaining behind key xs (some (key x)) = (remaining behind key xs c).drop limit := by
  have hrem (c : Option κ) : remaining behind key xs c =
      (sorted behind key xs).filter fun x => c.all (behind (key x)) :=
    sorted_filter ho hs _
  have hstrict : (remaining behind key xs c).Pairwise fun x y => behind (key y) (key x) = true := by
    rw [hrem]
    exact (sorted_strict ho hs).filter _
  have hxc : c.all (behind (key x)) = true := by
    have hmem := List.mem_of_mem_take (List.mem_of_getLast? hx)
    rw [hrem] at hmem
    exact (List.mem_filter.mp hmem).2
  have hagain : remaining behind key xs (some (key x)) =
      (remaining behind key xs c).filter fun y => behind (key y) (key x) := by
    rw [hrem, hrem, List.filter_filter]
    congr 1
    funext y
    simp only [Option.all_some]
    cases hy : behind (key y) (key x) with
    | false => rfl
    | true =>
      cases c with
      | none => rfl
      | some k =>
        rw [Option.all_some] at hxc ⊢
        rw [behind_trans ho hy hxc]
        rfl
  obtain ⟨front, hfront⟩ := List.getLast?_eq_some_iff.mp hx
  have hsplit := List.take_append_drop limit (remaining behind key xs c)
  rw [hfront] at hsplit
  rw [← hsplit] at hstrict
  obtain ⟨htake, _, hcross⟩ := List.pairwise_append.mp hstrict
  have hnone : (front ++ [x]).filter (fun y => behind (key y) (key x)) = [] := by
    apply List.filter_eq_nil_iff.mpr
    intro y hy
    rw [Bool.not_eq_true]
    obtain hy | hy := List.mem_append.mp hy
    · exact ho.asymm ((List.pairwise_append.mp htake).2.2 y hy x List.mem_cons_self)
    · rw [List.mem_singleton.mp hy]
      exact behind_irrefl ho _
  have hall : ((remaining behind key xs c).drop limit).filter (fun y => behind (key y) (key x)) =
      (remaining behind key xs c).drop limit := by
    apply List.filter_eq_self.mpr
    intro y hy
    exact hcross x (List.mem_append_right front List.mem_cons_self) y hy
  calc remaining behind key xs (some (key x))
      = ((front ++ [x]) ++ (remaining behind key xs c).drop limit).filter
          fun y => behind (key y) (key x) := by rw [hagain, hsplit]
    _ = (remaining behind key xs c).drop limit := by
      rw [List.filter_append, hnone, hall, List.nil_append]

/-- Pages that each start behind the last row of the one before yield every row once. -/
theorem follow_pages (hs : Separates behind key xs) {limit : Nat} (hl : 0 < limit)
    {fetch : Option τ → Except ε (List β × Option τ)} {token : κ → τ} {load : α → β}
    (hfirst : fetch none = .ok (((remaining behind key xs none).take limit).map load,
      (nextKey behind key xs limit none).map token))
    (hnext : ∀ x ∈ xs, fetch (some (token (key x))) =
      .ok (((remaining behind key xs (some (key x))).take limit).map load,
        (nextKey behind key xs limit (some (key x))).map token)) :
    ∃ n, follow fetch n none = .ok (some ((sorted behind key xs).map load)) := by
  have hfetch : ∀ c : Option κ, (∀ k ∈ c, ∃ x ∈ xs, key x = k) → fetch (c.map token) =
      .ok (((remaining behind key xs c).take limit).map load,
        (nextKey behind key xs limit c).map token) := by
    intro c hc
    cases c with
    | none => exact hfirst
    | some k =>
      obtain ⟨x, hx, rfl⟩ := hc k rfl
      exact hnext x hx
  have hwalk : ∀ m, ∀ c : Option κ, (∀ k ∈ c, ∃ x ∈ xs, key x = k) →
      (remaining behind key xs c).length ≤ m → ∃ n, follow fetch n (c.map token) =
        .ok (some ((remaining behind key xs c).map load)) := by
    intro m
    induction m with
    | zero =>
      intro c hc hm
      refine ⟨1, ?_⟩
      have hlast : ¬ limit < (remaining behind key xs c).length := by omega
      rw [follow, hfetch c hc, nextKey, if_neg hlast, List.take_of_length_le (by omega)]
      rfl
    | succ m ih =>
      intro c hc hm
      by_cases hmore : limit < (remaining behind key xs c).length
      · obtain ⟨x, hx⟩ : ∃ x, ((remaining behind key xs c).take limit).getLast? = some x := by
          rw [← Option.isSome_iff_exists, List.getLast?_isSome, ne_eq, List.take_eq_nil_iff]
          rintro (h | h)
          · omega
          · rw [h] at hmore
            exact absurd hmore (Nat.not_lt_zero limit)
        have hxs : x ∈ xs := by
          have hmem := List.mem_mergeSort.mp (List.mem_of_mem_take (List.mem_of_getLast? hx))
          exact (List.mem_filter.mp hmem).1
        have hrest := remaining_next ho hs hx
        obtain ⟨n, hn⟩ := ih (some (key x)) (by
          rintro k ⟨⟩
          exact ⟨x, hxs, rfl⟩) (by
          rw [hrest, List.length_drop]
          omega)
        refine ⟨n + 1, ?_⟩
        rw [Option.map_some, hrest] at hn
        rw [follow, hfetch c hc, nextKey, if_pos hmore, hx]
        simp only [Except.bind, Option.map_some, hn, Except.map]
        rw [← List.map_append, List.take_append_drop]
      · refine ⟨1, ?_⟩
        rw [follow, hfetch c hc, nextKey, if_neg hmore, List.take_of_length_le (by omega)]
        rfl
  obtain ⟨n, hn⟩ := hwalk _ none (by simp) (Nat.le_refl _)
  have hall : remaining behind key xs none = sorted behind key xs := by
    rw [remaining]
    congr 1
    exact List.filter_eq_self.mpr fun x _ => rfl
  rw [hall] at hn
  exact ⟨n, hn⟩

end Ordered

end TravelAgent.Keyset

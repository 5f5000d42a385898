import Mathlib

namespace TravelAgent.KeyedMerge

variable {α κ σ : Type} [LinearOrder σ] (key : α → κ) (score : α → σ)

/-- Of two elements with one key the later one stays only if it scores higher. -/
def better (old new : α) : α := if score old < score new then new else old

/-- The first of the best elements of a list with the key of that element. -/
def FirstBest (l : List α) (x : α) : Prop :=
  ∃ before after, l = before ++ x :: after ∧
    (∀ y ∈ before, key y = key x → score y < score x) ∧
      ∀ y ∈ after, key y = key x → score y ≤ score x

variable {key score}

theorem key_better {old new : α} (h : key old = key new) :
    key (better score old new) = key old := by
  by_cases hs : score old < score new
  · rw [better, if_pos hs, h]
  · rw [better, if_neg hs]

theorem FirstBest.mem {l : List α} {x : α} (h : FirstBest key score l x) : x ∈ l := by
  obtain ⟨before, after, rfl, -, -⟩ := h
  exact List.mem_append_right _ List.mem_cons_self

theorem FirstBest.le {l : List α} {x y : α} (h : FirstBest key score l x) (hy : y ∈ l)
    (hk : key y = key x) : score y ≤ score x := by
  obtain ⟨before, after, rfl, hbefore, hafter⟩ := h
  obtain hy | hy := List.mem_append.mp hy
  · exact (hbefore y hy hk).le
  · obtain rfl | hy := List.mem_cons.mp hy
    · exact le_refl _
    · exact hafter y hy hk

/-- Another element that does not score higher, or has another key. -/
theorem FirstBest.snoc {l : List α} {x a : α} (h : FirstBest key score l x)
    (ha : key a = key x → score a ≤ score x) : FirstBest key score (l ++ [a]) x := by
  obtain ⟨before, after, rfl, hbefore, hafter⟩ := h
  refine ⟨before, after ++ [a], by rw [List.append_assoc, List.cons_append], hbefore, ?_⟩
  intro y hy hk
  obtain hy | hy := List.mem_append.mp hy
  · exact hafter y hy hk
  · rw [List.mem_singleton.mp hy] at hk ⊢
    exact ha hk

theorem FirstBest.last {l : List α} {a : α} (h : ∀ y ∈ l, key y = key a → score y < score a) :
    FirstBest key score (l ++ [a]) a :=
  ⟨l, [], rfl, h, fun _ hy => absurd hy List.not_mem_nil⟩

theorem firstBest_better {l : List α} {x a : α} (h : FirstBest key score l x) (hk : key x = key a) :
    FirstBest key score (l ++ [a]) (better score x a) := by
  by_cases hs : score x < score a
  · rw [better, if_pos hs]
    apply FirstBest.last
    intro y hy hya
    exact (h.le hy (hya.trans hk.symm)).trans_lt hs
  · rw [better, if_neg hs]
    exact h.snoc fun _ => not_lt.mp hs

section Merging

variable [DecidableEq κ]

variable (key score) in
/-- An element takes the place of the one with its key, or goes to the end. -/
def absorb (entries : List α) (a : α) : List α :=
  if key a ∈ entries.map key then
    entries.map fun e => if key e = key a then better score e a else e
  else entries ++ [a]

theorem absorb_of_find_none {entries : List α} {a : α}
    (h : entries.find? (fun e => key e = key a) = none) :
    absorb key score entries a = entries ++ [a] := by
  have hnew : key a ∉ entries.map key := by
    intro hmem
    obtain ⟨e, he, hk⟩ := List.mem_map.mp hmem
    exact List.find?_eq_none.mp h e he (decide_eq_true hk)
  rw [absorb, if_neg hnew]

/-- Among distinct keys only the entry that is found can be replaced. -/
theorem absorb_of_find_some {entries : List α} {a existing : α} (hkeys : (entries.map key).Nodup)
    (h : entries.find? (fun e => key e = key a) = some existing) :
    absorb key score entries a =
      if score existing < score a then entries.map fun e => if key e = key a then a else e
      else entries := by
  have hmem : existing ∈ entries := List.mem_of_find?_eq_some h
  have hkey : key existing = key a := by simpa using List.find?_some h
  have honly : ∀ e ∈ entries, key e = key a → e = existing := fun e he hk =>
    List.inj_on_of_nodup_map hkeys he hmem (hk.trans hkey.symm)
  rw [absorb, if_pos (hkey ▸ List.mem_map_of_mem hmem)]
  by_cases hs : score existing < score a
  · rw [if_pos hs]
    apply List.map_congr_left
    intro e he
    by_cases hk : key e = key a
    · rw [if_pos hk, if_pos hk, honly e he hk, better, if_pos hs]
    · rw [if_neg hk, if_neg hk]
  · rw [if_neg hs]
    conv_rhs => rw [← List.map_id entries]
    apply List.map_congr_left
    intro e he
    by_cases hk : key e = key a
    · rw [if_pos hk, honly e he hk, better, if_neg hs, id]
    · rw [if_neg hk, id]

variable (key score) in
def absorbAll (entries l : List α) : List α := l.foldl (absorb key score) entries

theorem keys_absorb (entries : List α) (a : α) :
    (absorb key score entries a).map key =
      if key a ∈ entries.map key then entries.map key else entries.map key ++ [key a] := by
  by_cases h : key a ∈ entries.map key
  · rw [absorb, if_pos h, if_pos h, List.map_map]
    apply List.map_congr_left
    intro e he
    by_cases hk : key e = key a
    · simp only [Function.comp_apply, if_pos hk, key_better hk]
    · simp only [Function.comp_apply, if_neg hk]
  · rw [absorb, if_neg h, if_neg h, List.map_append, List.map_singleton]

theorem eraseDups_concat (ks : List κ) (k : κ) :
    (ks ++ [k]).eraseDups = if k ∈ ks then ks.eraseDups else ks.eraseDups ++ [k] := by
  rw [List.eraseDups_append]
  by_cases h : k ∈ ks
  · simp [h, List.removeAll]
  · simp [h, List.removeAll, List.eraseDups_cons]

/-- The keys stand in the order in which they first arrived. -/
theorem keys_absorbAll (l : List α) :
    (absorbAll key score [] l).map key = (l.map key).eraseDups := by
  induction l using List.reverseRecOn with
  | nil => rfl
  | append_singleton l a ih =>
    rw [absorbAll, List.foldl_append, List.foldl_cons, List.foldl_nil, ← absorbAll, keys_absorb, ih,
      List.map_append, List.map_singleton, eraseDups_concat]
    by_cases h : key a ∈ l.map key
    · rw [if_pos h, if_pos (List.mem_eraseDups.mpr h)]
    · rw [if_neg h, if_neg fun he => h (List.mem_eraseDups.mp he)]

theorem mem_keys_absorbAll (l : List α) {k : κ} :
    k ∈ (absorbAll key score [] l).map key ↔ k ∈ l.map key := by
  rw [keys_absorbAll, List.mem_eraseDups]

theorem nodup_absorb {entries : List α} (h : (entries.map key).Nodup) (a : α) :
    ((absorb key score entries a).map key).Nodup := by
  rw [keys_absorb]
  by_cases ha : key a ∈ entries.map key
  · rwa [if_pos ha]
  · rw [if_neg ha]
    exact List.Nodup.append h (List.nodup_singleton _) (by simpa using ha)

theorem nodup_absorbAll (entries l : List α) (h : (entries.map key).Nodup) :
    ((absorbAll key score entries l).map key).Nodup := by
  induction l generalizing entries with
  | nil => exact h
  | cons a l ih => exact ih _ (nodup_absorb h a)

/-- Every entry is the first of the best elements with its key. -/
theorem firstBest_absorbAll (l : List α) {x : α} (hx : x ∈ absorbAll key score [] l) :
    FirstBest key score l x := by
  induction l using List.reverseRecOn generalizing x with
  | nil => exact absurd hx List.not_mem_nil
  | append_singleton l a ih =>
    rw [absorbAll, List.foldl_append, List.foldl_cons, List.foldl_nil, ← absorbAll] at hx
    by_cases ha : key a ∈ (absorbAll key score [] l).map key
    · rw [absorb, if_pos ha] at hx
      obtain ⟨e, he, rfl⟩ := List.mem_map.mp hx
      by_cases hk : key e = key a
      · rw [if_pos hk]
        exact firstBest_better (ih he) hk
      · rw [if_neg hk]
        exact (ih he).snoc fun h => absurd h.symm hk
    · rw [absorb, if_neg ha] at hx
      obtain hx | hx := List.mem_append.mp hx
      · apply (ih hx).snoc
        intro h
        exact absurd (h ▸ List.mem_map_of_mem hx) ha
      · rw [List.mem_singleton.mp hx]
        apply FirstBest.last
        intro y hy hya
        rw [keys_absorbAll, List.mem_eraseDups] at ha
        exact absurd (hya ▸ List.mem_map_of_mem hy) ha

/-- A list whose keys are distinct is what it is merged into. -/
theorem absorbAll_nodup (entries l : List α) (h : ((entries ++ l).map key).Nodup) :
    absorbAll key score entries l = entries ++ l := by
  induction l generalizing entries with
  | nil => rw [List.append_nil]; rfl
  | cons a l ih =>
    have hnew : key a ∉ entries.map key := by
      rw [List.map_append, List.map_cons] at h
      intro hmem
      exact List.disjoint_of_nodup_append h hmem List.mem_cons_self
    have hsplit : entries ++ a :: l = (entries ++ [a]) ++ l := by simp
    rw [hsplit] at h ⊢
    rw [absorbAll, List.foldl_cons, ← absorbAll, absorb, if_neg hnew]
    exact ih _ h

theorem absorb_kept {kept rest : List α} {a : α}
    (h : ∀ e ∈ kept, key e = key a → score a ≤ score e)
    (hrest : ∀ x ∈ rest, key x ∉ kept.map key) :
    ∃ rest', absorb key score (kept ++ rest) a = kept ++ rest' ∧
      ∀ x ∈ rest', key x ∉ kept.map key := by
  by_cases ha : key a ∈ (kept ++ rest).map key
  · have hkept : (kept.map fun e => if key e = key a then better score e a else e) = kept := by
      conv_rhs => rw [← List.map_id kept]
      apply List.map_congr_left
      intro e he
      by_cases hk : key e = key a
      · rw [if_pos hk, better, if_neg (h e he hk).not_gt, id]
      · rw [if_neg hk, id]
    refine ⟨_, by rw [absorb, if_pos ha, List.map_append, hkept], ?_⟩
    intro x hx
    obtain ⟨e, he, rfl⟩ := List.mem_map.mp hx
    by_cases hk : key e = key a
    · rw [if_pos hk, key_better hk]
      exact hrest e he
    · rw [if_neg hk]
      exact hrest e he
  · refine ⟨rest ++ [a], by rw [absorb, if_neg ha, List.append_assoc], ?_⟩
    intro x hx
    obtain hx | hx := List.mem_append.mp hx
    · exact hrest x hx
    · rw [List.mem_singleton.mp hx]
      intro hmem
      exact ha (List.map_append ▸ List.mem_append_left _ hmem)

/-- Elements that do not score higher than the kept entries with their keys leave those
entries as they are; what is new comes behind. -/
theorem absorbAll_kept (kept rest l : List α)
    (h : ∀ a ∈ l, ∀ e ∈ kept, key e = key a → score a ≤ score e)
    (hrest : ∀ x ∈ rest, key x ∉ kept.map key) :
    ∃ rest', absorbAll key score (kept ++ rest) l = kept ++ rest' ∧
      ∀ x ∈ rest', key x ∉ kept.map key := by
  induction l generalizing rest with
  | nil => exact ⟨rest, rfl, hrest⟩
  | cons a l ih =>
    obtain ⟨rest', hstep, hrest'⟩ := absorb_kept (h a List.mem_cons_self) hrest
    rw [absorbAll, List.foldl_cons, hstep]
    exact ih rest' (fun b hb => h b (List.mem_cons_of_mem _ hb)) hrest'

/-- Merging a list again into the first entries of what it was merged into. -/
theorem take_absorbAll (n : Nat) (old l : List α) :
    (absorbAll key score [] ((absorbAll key score [] (old ++ l)).take n ++ l)).take n =
      (absorbAll key score [] (old ++ l)).take n := by
  let whole := absorbAll key score [] (old ++ l)
  let kept := whole.take n
  have hnodup : (whole.map key).Nodup := nodup_absorbAll [] (old ++ l) List.nodup_nil
  have hkept : (kept.map key).Nodup := by
    rw [List.map_take]
    exact hnodup.sublist (List.take_sublist _ _)
  have hbest : ∀ a ∈ l, ∀ e ∈ kept, key e = key a → score a ≤ score e := by
    intro a ha e he hk
    have hfirst := firstBest_absorbAll (old ++ l) (List.mem_of_mem_take he)
    exact hfirst.le (List.mem_append_right _ ha) hk.symm
  obtain ⟨rest, heq, hrest⟩ :=
    absorbAll_kept kept [] l hbest fun _ hx => absurd hx List.not_mem_nil
  rw [List.append_nil] at heq
  have hmerged : absorbAll key score [] (kept ++ l) = kept ++ rest := by
    have hself : absorbAll key score [] kept = kept := absorbAll_nodup [] kept hkept
    rw [absorbAll, List.foldl_append, ← absorbAll, ← absorbAll, hself]
    exact heq
  change (absorbAll key score [] (kept ++ l)).take n = kept
  rw [hmerged]
  by_cases hlen : n ≤ whole.length
  · exact List.take_left' (List.length_take_of_le hlen)
  · have hall : kept = whole := List.take_of_length_le (Nat.le_of_lt (Nat.not_le.mp hlen))
    -- with nothing cut off there is no key left that could be new
    have hnil : rest = [] := by
      apply List.eq_nil_iff_forall_not_mem.mpr
      intro x hx
      apply hrest x hx
      have hkeys : (absorbAll key score [] (kept ++ l)).map key = ((kept ++ l).map key).eraseDups :=
        keys_absorbAll _
      have hmem : key x ∈ ((kept ++ l).map key).eraseDups := by
        rw [← hkeys, hmerged, List.map_append]
        exact List.mem_append_right _ (List.mem_map_of_mem hx)
      rw [List.mem_eraseDups, List.map_append, List.mem_append] at hmem
      obtain hmem | hmem := hmem
      · exact hmem
      · rw [hall, keys_absorbAll, List.mem_eraseDups, List.map_append]
        exact List.mem_append_right _ hmem
    rw [hnil, List.append_nil, hall]
    exact hall

end Merging

end TravelAgent.KeyedMerge

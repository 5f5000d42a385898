import Mathlib

namespace TravelAgent.Replacements

section Marks

variable {α : Type}

/-- A text made of one symbol alone. -/
def Marks (mark : α) (r : List α) : Prop := r ≠ [] ∧ ∀ c ∈ r, c = mark

variable {mark : α} {r s : List α}

theorem Marks.not_start (hr : Marks mark r) (hs : s ≠ []) (hmark : mark ∉ s) (l : List α) :
    ¬ s <+: r ++ l := by
  intro h
  cases r with
  | nil => exact hr.1 rfl
  | cons c r =>
    cases s with
    | nil => exact hs rfl
    | cons x s =>
      obtain ⟨rfl, -⟩ := List.cons_prefix_cons.mp h
      exact hmark (hr.2 x List.mem_cons_self ▸ List.mem_cons_self)

/-- What is found behind a mark does not begin in it. -/
theorem Marks.infix_of_append (hr : ∀ c ∈ r, c = mark) (hs : s ≠ []) (hmark : mark ∉ s)
    {l : List α} (h : s <:+: r ++ l) : s <:+: l := by
  induction r with
  | nil => exact h
  | cons c r ih =>
    obtain ⟨hc, hr⟩ := List.forall_mem_cons.mp hr
    rw [List.cons_append] at h
    obtain h | h := List.infix_cons_iff.mp h
    · refine absurd h (Marks.not_start (r := [c]) ⟨List.cons_ne_nil _ _, ?_⟩ hs hmark (r ++ l))
      exact List.forall_mem_singleton.mpr hc
    · exact ih hr h

end Marks

variable {α : Type} [DecidableEq α]

/-- Copy a text, with each occurrence of a pattern replaced, past as many symbols of it as an
occurrence still covers. -/
def replaceFrom (m r : List α) : ℕ → List α → List α
  | _, [] => []
  | k + 1, _ :: l => replaceFrom m r k l
  | 0, a :: l =>
    if m <+: a :: l then r ++ replaceFrom m r (m.length - 1) l else a :: replaceFrom m r 0 l

/-- Replace the occurrences of a pattern that is not empty, from the left. -/
def replace (m r l : List α) : List α := replaceFrom m r 0 l

variable {mark : α} {m r s : List α}

/-- What begins the copy without a mark begins the text, and no occurrence of the pattern begins
in it. -/
theorem prefix_replaceFrom (hr : Marks mark r) {l : List α} (hmark : mark ∉ s)
    (h : s <+: replaceFrom m r 0 l) : s <+: l ∧ ∀ i < s.length, ¬ m <+: l.drop i := by
  induction s generalizing l with
  | nil => exact ⟨List.nil_prefix, fun i hi => absurd hi (Nat.not_lt_zero i)⟩
  | cons x s ih =>
    rw [List.mem_cons, not_or] at hmark
    cases l with
    | nil => cases List.prefix_nil.mp h
    | cons a l =>
      rw [replaceFrom] at h
      split_ifs at h with hm
      · refine absurd h (hr.not_start (List.cons_ne_nil x s) ?_ _)
        rw [List.mem_cons, not_or]
        exact hmark
      · obtain ⟨rfl, htail⟩ := List.cons_prefix_cons.mp h
        obtain ⟨hstarts, hnone⟩ := ih hmark.2 htail
        refine ⟨List.cons_prefix_cons.mpr ⟨rfl, hstarts⟩, fun i hi => ?_⟩
        cases i with
        | zero => exact hm
        | succ i => exact hnone i (Nat.lt_of_succ_lt_succ hi)

/-- What is found in the copy without a mark is found in the text between two occurrences. -/
theorem infix_replaceFrom (hr : Marks mark r) {l : List α} (k : ℕ) (hs : s ≠ []) (hmark : mark ∉ s)
    (h : s <:+: replaceFrom m r k l) :
    ∃ t, t <:+ l ∧ s <+: t ∧ ∀ i < s.length, ¬ m <+: t.drop i := by
  induction l generalizing k with
  | nil =>
    cases k <;> exact absurd (List.infix_nil.mp h) hs
  | cons a l ih =>
    cases k with
    | succ k =>
      obtain ⟨t, ht, hfound⟩ := ih k h
      exact ⟨t, ht.trans (List.suffix_cons a l), hfound⟩
    | zero =>
      by_cases hm : m <+: a :: l
      · rw [replaceFrom, if_pos hm] at h
        obtain ⟨t, ht, hfound⟩ := ih _ (Marks.infix_of_append hr.2 hs hmark h)
        exact ⟨t, ht.trans (List.suffix_cons a l), hfound⟩
      · have hstart : s <+: replaceFrom m r 0 (a :: l) →
            s <+: a :: l ∧ ∀ i < s.length, ¬ m <+: (a :: l).drop i := prefix_replaceFrom hr hmark
        rw [replaceFrom, if_neg hm] at h hstart
        obtain h | h := List.infix_cons_iff.mp h
        · exact ⟨a :: l, List.suffix_rfl, hstart h⟩
        · obtain ⟨t, ht, hfound⟩ := ih 0 h
          exact ⟨t, ht.trans (List.suffix_cons a l), hfound⟩

/-- No occurrence of the pattern is left. -/
theorem replace_leaves_none (hr : Marks mark r) (hm : m ≠ []) (hmark : mark ∉ m) (l : List α) :
    ¬ m <:+: replace m r l := by
  intro h
  obtain ⟨t, -, hstarts, hnone⟩ := infix_replaceFrom hr 0 hm hmark h
  exact hnone 0 (List.length_pos_iff.mpr hm) hstarts

/-- Nothing without a mark comes up that was not there. -/
theorem infix_of_replace (hr : Marks mark r) (hs : s ≠ []) (hmark : mark ∉ s) {l : List α}
    (h : s <:+: replace m r l) : s <:+: l := by
  obtain ⟨t, hsuffix, hstarts, -⟩ := infix_replaceFrom hr 0 hs hmark h
  exact hstarts.isInfix.trans hsuffix.isInfix

theorem replace_absent {l : List α} (h : ¬ m <:+: l) : replace m r l = l := by
  rw [replace]
  induction l with
  | nil => rfl
  | cons a l ih =>
    rw [List.infix_cons_iff, not_or] at h
    rw [replaceFrom, if_neg h.1, ih h.2]

/-- Of all patterns that are replaced one after another, none is left. -/
theorem not_infix_foldl (hr : Marks mark r) {ms : List (List α)} (hm : m ∈ ms) (hne : m ≠ [])
    (hmark : mark ∉ m) (l : List α) : ¬ m <:+: ms.foldl (fun l m => replace m r l) l := by
  have hkept (ms : List (List α)) (l : List α) (h : ¬ m <:+: l) :
      ¬ m <:+: ms.foldl (fun l m => replace m r l) l := by
    induction ms generalizing l with
    | nil => exact h
    | cons m' ms ih => exact ih _ fun hfound => h (infix_of_replace hr hne hmark hfound)
  obtain ⟨before, after, rfl⟩ := List.append_of_mem hm
  rw [List.foldl_append, List.foldl_cons]
  exact hkept after _ (replace_leaves_none hr hne hmark _)

theorem foldl_absent {ms : List (List α)} {l : List α} (h : ∀ m ∈ ms, ¬ m <:+: l) :
    ms.foldl (fun l m => replace m r l) l = l := by
  induction ms with
  | nil => rfl
  | cons m ms ih =>
    obtain ⟨hm, hms⟩ := List.forall_mem_cons.mp h
    rw [List.foldl_cons, replace_absent hm, ih hms]

end TravelAgent.Replacements

import Mathlib

namespace TravelAgent.Cursors

variable {α : Type}

/-- The entries of a log behind a cursor. -/
def after (key : α → Nat) (c : Nat) (xs : List α) : List α := xs.filter fun x => decide (c < key x)

/-- The cursor once a page has been sent. -/
def lastKey (key : α → Nat) (c : Nat) (page : List α) : Nat := (page.getLast?.map key).getD c

def Ordered (key : α → Nat) (xs : List α) : Prop := xs.Pairwise fun a b => key a < key b

theorem after_append (key : α → Nat) (c : Nat) (xs ys : List α) :
    after key c (xs ++ ys) = after key c xs ++ after key c ys := by
  simp only [after, List.filter_append]

theorem mem_after {key : α → Nat} {c : Nat} {xs : List α} {x : α} :
    x ∈ after key c xs ↔ x ∈ xs ∧ c < key x := by
  simp [after]

theorem after_ordered {key : α → Nat} {xs : List α} (h : Ordered key xs) (c : Nat) :
    Ordered key (after key c xs) :=
  List.Pairwise.filter _ h

theorem after_after {key : α → Nat} {c d : Nat} (h : c ≤ d) (xs : List α) :
    after key d (after key c xs) = after key d xs := by
  simp only [after, List.filter_filter]
  congr 1
  funext x
  simp only [Bool.and_eq_left_iff_imp, decide_eq_true_eq]
  omega

theorem lastKey_mem (key : α → Nat) (c : Nat) (page : List α) :
    lastKey key c page = c ∧ page = [] ∨ ∃ x ∈ page, lastKey key c page = key x := by
  cases hp : page.getLast? with
  | none =>
    have hnil : page = [] := List.getLast?_eq_none_iff.mp hp
    subst hnil
    exact Or.inl ⟨rfl, rfl⟩
  | some x =>
    refine Or.inr ⟨x, List.mem_of_getLast? hp, ?_⟩
    simp only [lastKey, hp, Option.map_some, Option.getD_some]

theorem key_le_lastKey {key : α → Nat} {c : Nat} {page : List α} (h : Ordered key page) {x : α}
    (hx : x ∈ page) : key x ≤ lastKey key c page := by
  induction page using List.reverseRecOn with
  | nil => simp at hx
  | append_singleton page y _ =>
    have hlast : lastKey key c (page ++ [y]) = key y := by simp [lastKey]
    rw [hlast]
    obtain hx | hx := List.mem_append.mp hx
    · exact Nat.le_of_lt ((List.pairwise_append.mp h).2.2 x hx y List.mem_cons_self)
    · exact Nat.le_of_eq (congrArg key (List.mem_singleton.mp hx))

/-- Sending the first entries behind a cursor leaves exactly those behind the
cursor that the page moves it to. -/
theorem after_page {key : α → Nat} {xs : List α} (h : Ordered key xs) (c n : Nat) :
    after key (lastKey key c ((after key c xs).take n)) xs = (after key c xs).drop n := by
  have ho := after_ordered h c
  have hsplit : Ordered key ((after key c xs).take n ++ (after key c xs).drop n) := by
    rw [List.take_append_drop]
    exact ho
  have htake := (List.pairwise_append.mp hsplit).1
  have hcross := (List.pairwise_append.mp hsplit).2.2
  rcases lastKey_mem key c ((after key c xs).take n) with
    ⟨hk, hnil⟩ | ⟨x, hx, hk⟩
  · rw [hk]
    have hd := List.take_append_drop n (after key c xs)
    rw [hnil, List.nil_append] at hd
    exact hd.symm
  · have hcx : c ≤ key x := Nat.le_of_lt (mem_after.mp (List.mem_of_mem_take hx)).2
    have hzero : after key (key x) ((after key c xs).take n) = [] := by
      apply List.filter_eq_nil_iff.mpr
      intro y hy
      have hle := key_le_lastKey (c := c) htake hy
      rw [hk] at hle
      simpa using hle
    have hall : after key (key x) ((after key c xs).drop n) = (after key c xs).drop n := by
      apply List.filter_eq_self.mpr
      intro y hy
      simpa using hcross x hx y hy
    rw [hk, ← after_after hcx]
    calc after key (key x) (after key c xs)
        = after key (key x) ((after key c xs).take n ++ (after key c xs).drop n) := by
          rw [List.take_append_drop]
      _ = (after key c xs).drop n := by rw [after_append, hzero, hall, List.nil_append]

theorem lastKey_ge {key : α → Nat} {xs : List α} (c n : Nat) :
    c ≤ lastKey key c ((after key c xs).take n) := by
  rcases lastKey_mem key c ((after key c xs).take n) with
    ⟨hk, _⟩ | ⟨x, hx, hk⟩
  · exact Nat.le_of_eq hk.symm
  · rw [hk]
    exact Nat.le_of_lt (mem_after.mp (List.mem_of_mem_take hx)).2

/-- The last entry of a log is the last one behind any cursor that leaves something. -/
theorem getLast?_after {key : α → Nat} {xs : List α} (h : Ordered key xs) {c : Nat} {x : α}
    (hx : (after key c xs).getLast? = some x) : xs.getLast? = some x := by
  induction xs using List.reverseRecOn with
  | nil => simp [after] at hx
  | append_singleton xs y _ =>
    rw [after_append] at hx
    by_cases hy : c < key y
    · have hone : after key c [y] = [y] := by simp [after, hy]
      rw [hone, List.getLast?_concat] at hx
      rw [List.getLast?_concat]
      exact hx
    · have hnone : after key c xs = [] := by
        apply List.filter_eq_nil_iff.mpr
        intro z hz
        have hlt := (List.pairwise_append.mp h).2.2 z hz y List.mem_cons_self
        simp only [decide_eq_true_eq]
        omega
      have hone : after key c [y] = [] := by simp [after, hy]
      rw [hnone, hone] at hx
      cases hx

/-- A transitive order along a log goes on to an entry that follows its last. -/
theorem pairwise_concat {R : α → α → Prop} (hR : ∀ x y z, R x y → R y z → R x z)
    {log : List α} (h : log.Pairwise R) {f : α}
    (hlast : ∀ e, log.getLast? = some e → R e f) : (log ++ [f]).Pairwise R := by
  refine List.pairwise_append.mpr ⟨h, List.pairwise_singleton R f, ?_⟩
  intro x hx g hg
  rw [List.mem_singleton] at hg
  subst hg
  obtain ⟨early, e, rfl⟩ := List.eq_nil_or_concat log |>.resolve_left (List.ne_nil_of_mem hx)
  have hef := hlast e (by simp)
  obtain hx | hx := List.mem_append.mp (List.concat_eq_append ▸ hx)
  · rw [List.concat_eq_append] at h
    exact hR x e g ((List.pairwise_append.mp h).2.2 x hx e List.mem_cons_self) hef
  · rw [List.mem_singleton] at hx
    exact hx ▸ hef

end TravelAgent.Cursors

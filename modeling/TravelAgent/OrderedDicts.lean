import Mathlib

namespace TravelAgent.OrderedDicts

variable {κ ν : Type} [DecidableEq κ]

/- A dictionary that remembers the order of its keys is a list of entries, the oldest first. -/

def get (d : List (κ × ν)) (k : κ) : Option ν := (d.find? fun e => e.1 = k).map Prod.snd

def pop (d : List (κ × ν)) (k : κ) : List (κ × ν) := d.filter fun e => e.1 ≠ k

/-- A value under a key that is moved to the end. -/
def setLast (d : List (κ × ν)) (k : κ) (v : ν) : List (κ × ν) := pop d k ++ [(k, v)]

omit [DecidableEq κ] in
/-- Take the oldest entries away while there are more than so many. -/
def trim (n : ℕ) : List (κ × ν) → List (κ × ν)
  | [] => []
  | e :: d => if n < d.length + 1 then trim n d else e :: d

/-- Every key stands once. -/
def Keyed (d : List (κ × ν)) : Prop := (d.map Prod.fst).Nodup

theorem get_nil (k : κ) : get ([] : List (κ × ν)) k = none := rfl

theorem get_cons (e : κ × ν) (d : List (κ × ν)) (k : κ) :
    get (e :: d) k = if e.1 = k then some e.2 else get d k := by
  unfold get
  by_cases h : e.1 = k
  · simp [h]
  · simp [h]

theorem get_append (d d' : List (κ × ν)) (k : κ) : get (d ++ d') k = (get d k).or (get d' k) := by
  induction d with
  | nil => rfl
  | cons e d ih =>
    rw [List.cons_append, get_cons, get_cons, ih]
    by_cases h : e.1 = k
    · rw [if_pos h, if_pos h, Option.some_or]
    · rw [if_neg h, if_neg h]

theorem get_eq_none {d : List (κ × ν)} {k : κ} : get d k = none ↔ k ∉ d.map Prod.fst := by
  induction d with
  | nil => simp [get]
  | cons e d ih =>
    rw [get_cons, List.map_cons, List.mem_cons, not_or, ← ih]
    by_cases h : e.1 = k
    · simp [h]
    · simp [h, Ne.symm h]

theorem get_pop_self (d : List (κ × ν)) (k : κ) : get (pop d k) k = none := by
  rw [get_eq_none]
  intro h
  obtain ⟨e, he, rfl⟩ := List.mem_map.mp h
  simp [pop] at he

theorem get_pop_of_ne (d : List (κ × ν)) {k l : κ} (h : l ≠ k) : get (pop d k) l = get d l := by
  induction d with
  | nil => rfl
  | cons e d ih =>
    by_cases hk : e.1 = k
    · have hl : e.1 ≠ l := fun he => h (he.symm.trans hk)
      rw [get_cons, if_neg hl, ← ih, pop, List.filter_cons_of_neg (by simp [hk]), pop]
    · rw [get_cons, ← ih, pop, List.filter_cons_of_pos (by simp [hk]), get_cons, pop]

theorem get_setLast_self (d : List (κ × ν)) (k : κ) (v : ν) : get (setLast d k v) k = some v := by
  rw [setLast, get_append, get_pop_self, get_cons, if_pos rfl, Option.none_or]

theorem get_setLast_of_ne (d : List (κ × ν)) {k l : κ} (v : ν) (h : l ≠ k) :
    get (setLast d k v) l = get d l := by
  rw [setLast, get_append, get_pop_of_ne d h, get_cons, if_neg h.symm, get_nil, Option.or_none]

theorem Keyed.setLast {d : List (κ × ν)} (h : Keyed d) (k : κ) (v : ν) : Keyed (setLast d k v) := by
  rw [Keyed, OrderedDicts.setLast, List.map_append, List.map_cons, List.map_nil]
  apply List.Nodup.append
  · exact h.sublist (List.filter_sublist.map _)
  · exact List.nodup_singleton _
  · intro l hl hk
    rw [List.mem_singleton] at hk
    subst hk
    exact get_eq_none.mp (get_pop_self d l) hl

theorem pop_of_untracked {d : List (κ × ν)} {k : κ} (h : get d k = none) : pop d k = d := by
  apply List.filter_eq_self.mpr
  intro e he
  have hk : e.1 ≠ k := fun h' => get_eq_none.mp h (List.mem_map.mpr ⟨e, he, h'⟩)
  exact decide_eq_true hk

theorem setLast_of_untracked {d : List (κ × ν)} {k : κ} (v : ν) (h : get d k = none) :
    setLast d k v = d ++ [(k, v)] := by
  rw [setLast, pop_of_untracked h]

theorem Keyed.get_tail {e : κ × ν} {d : List (κ × ν)} (h : Keyed (e :: d)) : get d e.1 = none :=
  get_eq_none.mpr (List.nodup_cons.mp h).1

omit [DecidableEq κ] in
theorem Keyed.tail {e : κ × ν} {d : List (κ × ν)} (h : Keyed (e :: d)) : Keyed d :=
  (List.nodup_cons.mp h).2

theorem Keyed.get_of_mem {e : κ × ν} {d : List (κ × ν)} (h : Keyed d) (he : e ∈ d) :
    get d e.1 = some e.2 := by
  induction d with
  | nil => cases he
  | cons e' d ih =>
    rw [get_cons]
    obtain rfl | he := List.mem_cons.mp he
    · rw [if_pos rfl]
    · have hne : e'.1 ≠ e.1 := by
        intro heq
        exact (List.nodup_cons.mp h).1 (List.mem_map.mpr ⟨e, he, heq.symm⟩)
      rw [if_neg hne, ih h.tail he]

theorem Keyed.length_pop {d : List (κ × ν)} {k : κ} (h : Keyed d) (hk : get d k ≠ none) :
    (pop d k).length + 1 = d.length := by
  induction d with
  | nil => exact absurd rfl hk
  | cons e d ih =>
    by_cases he : e.1 = k
    · subst he
      rw [pop, List.filter_cons_of_neg (by simp), ← pop, pop_of_untracked h.get_tail,
        List.length_cons]
    · rw [get_cons, if_neg he] at hk
      rw [pop, List.filter_cons_of_pos (by simpa using he), ← pop, List.length_cons,
        List.length_cons, ih h.tail hk]

theorem Keyed.length_setLast {d : List (κ × ν)} {k : κ} (h : Keyed d) (v : ν)
    (hk : get d k ≠ none) : (OrderedDicts.setLast d k v).length = d.length := by
  rw [OrderedDicts.setLast, List.length_append, List.length_singleton, h.length_pop hk]

omit [DecidableEq κ] in
theorem trim_of_le {n : ℕ} {d : List (κ × ν)} (h : d.length ≤ n) : trim n d = d := by
  cases d with
  | nil => rfl
  | cons e d =>
    have : ¬ n < d.length + 1 := Nat.not_lt.mpr h
    rw [trim, if_neg this]

omit [DecidableEq κ] in
/-- One entry too many: the oldest one goes. -/
theorem trim_cons {n : ℕ} {e : κ × ν} {d : List (κ × ν)} (h : d.length = n) :
    trim n (e :: d) = d := by
  rw [trim, if_pos (by omega), trim_of_le (by omega)]

end TravelAgent.OrderedDicts

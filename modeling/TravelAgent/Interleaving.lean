import Mathlib
import TravelAgent.Transition

namespace TravelAgent.Interleaving

variable {α : Type} {l log : List α} {P : List α → α → Prop}

/-- A thread taken out of a pool. -/
theorem perm_of_getElem? {i : ℕ} {a : α} (h : l[i]? = some a) : l.Perm (a :: l.eraseIdx i) := by
  obtain ⟨hi, rfl⟩ := List.getElem?_eq_some_iff.mp h
  exact (List.getElem_cons_eraseIdx_perm hi).symm

/-- Each event of a history, the latest first, is in a relation with the events before it. -/
def Justified (P : List α → α → Prop) (log : List α) : Prop :=
  ∀ later e older, log = later ++ e :: older → P older e

theorem justified_nil : Justified P [] :=
  fun later _ _ h => absurd h.symm (List.append_ne_nil_of_right_ne_nil later (List.cons_ne_nil _ _))

theorem Justified.cons (h : Justified P log) {e : α} (he : P log e) : Justified P (e :: log) := by
  intro later e' older heq
  cases later with
  | nil =>
    obtain ⟨rfl, rfl⟩ := List.cons.inj heq
    exact he
  | cons _ later => exact h later e' older (List.cons.inj heq).2

theorem Justified.of_cons {e : α} (h : Justified P (e :: log)) : P log e ∧ Justified P log := by
  refine ⟨h [] e log rfl, fun later e' older heq => h (e :: later) e' older ?_⟩
  rw [heq, List.cons_append]

/-- Labels that are fit in every state. -/
theorem along_of_mem {σ α : Type} {step : σ → α → Option σ} {ok : σ → α → Prop} {as : List α}
    (h : ∀ a ∈ as, ∀ s, ok s a) (s : σ) : Transition.Along step ok s as := by
  induction as generalizing s with
  | nil => trivial
  | cons a as ih =>
    obtain ⟨ha, has⟩ := List.forall_mem_cons.mp h
    exact ⟨ha s, fun t _ => ih has t⟩

end TravelAgent.Interleaving

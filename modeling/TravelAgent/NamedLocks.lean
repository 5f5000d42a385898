import Mathlib

namespace TravelAgent.NamedLocks

variable {N O : Type} [DecidableEq N] [DecidableEq O]

/-- Take a lock that nobody holds. -/
def acquire (locks : List (N × O)) (name : N) (owner : O) : Option (List (N × O)) :=
  if name ∈ locks.map Prod.fst then none else some ((name, owner) :: locks)

def release (locks : List (N × O)) (name : N) (owner : O) : List (N × O) :=
  locks.filter fun l => decide (l ≠ (name, owner))

def Exclusive (locks : List (N × O)) : Prop := (locks.map Prod.fst).Nodup

omit [DecidableEq O] in
theorem acquire_some {locks locks' : List (N × O)} {name : N} {owner : O}
    (h : acquire locks name owner = some locks') :
    name ∉ locks.map Prod.fst ∧ locks' = (name, owner) :: locks := by
  rw [acquire] at h
  split at h
  · cases h
  · exact ⟨‹_›, (Option.some.inj h).symm⟩

omit [DecidableEq O] in
theorem acquire_exclusive {locks locks' : List (N × O)} {name : N} {owner : O}
    (hl : Exclusive locks) (h : acquire locks name owner = some locks') : Exclusive locks' := by
  obtain ⟨hfree, rfl⟩ := acquire_some h
  exact List.nodup_cons.mpr ⟨hfree, hl⟩

theorem release_exclusive {locks : List (N × O)} (hl : Exclusive locks) (name : N) (owner : O) :
    Exclusive (release locks name owner) :=
  List.Nodup.sublist (List.filter_sublist.map Prod.fst) hl

/-- A release touches the locks of its owner only. -/
theorem mem_release {locks : List (N × O)} {name n : N} {owner o : O} (h : (n, o) ∈ locks)
    (ho : o ≠ owner) : (n, o) ∈ release locks name owner := by
  refine List.mem_filter.mpr ⟨h, ?_⟩
  apply decide_eq_true
  intro heq
  exact ho (congrArg Prod.snd heq)

omit [DecidableEq N] [DecidableEq O] in
theorem owner_unique {locks : List (N × O)} (hl : Exclusive locks) {name : N} {o p : O}
    (ho : (name, o) ∈ locks) (hp : (name, p) ∈ locks) : o = p := by
  have h := List.inj_on_of_nodup_map hl ho hp rfl
  exact congrArg Prod.snd h

end TravelAgent.NamedLocks

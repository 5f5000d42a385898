import Mathlib

namespace TravelAgent.LayeredCache

/-- How the first layer takes a read. An invalid payload is one that no longer fits its model. -/
inductive L1Read where
  | served
  | missed
  | bypassed
  | degraded
  | raised
  | invalid
deriving DecidableEq, Repr

/-- How the second layer takes a read. -/
inductive L2Read where
  | served
  | missed
  | raised
deriving DecidableEq, Repr

/-- What befalls one lookup: both reads, the deletion of an invalid entry, and the write that
fills the first layer again while the entry has time left. -/
structure LookupFaults where
  l1Read : L1Read := .served
  deletes : Bool := true
  l2Read : L2Read := .served
  backfills : Bool := true
deriving DecidableEq, Repr

structure WriteFaults where
  l2Stores : Bool := true
  l1Stores : Bool := true
deriving DecidableEq, Repr

inductive LayeredCacheSource where
  | l1
  | l2
  | miss
deriving DecidableEq, Repr

inductive ReadStatus where
  | hit
  | miss
  | bypass
  | degraded
  | invalid
  | error
  | skipped
deriving DecidableEq, Repr

structure LayeredCacheLookup (ν : Type) where
  source : LayeredCacheSource
  value : Option ν := none
  l1Status : ReadStatus := .skipped
  l2Status : ReadStatus := .skipped

structure Layers (κ ν : Type) where
  l1 : κ → Option ν
  l2 : κ → Option ν

variable {κ ν : Type} [DecidableEq κ]

def Layers.empty : Layers κ ν := ⟨fun _ => none, fun _ => none⟩

def Layers.setL1 (w : Layers κ ν) (k : κ) (v : Option ν) : Layers κ ν :=
  { w with l1 := Function.update w.l1 k v }

def Layers.setL2 (w : Layers κ ν) (k : κ) (v : Option ν) : Layers κ ν :=
  { w with l2 := Function.update w.l2 k v }

@[simp] theorem setL1_l1 (w : Layers κ ν) (k : κ) (x : Option ν) :
    (w.setL1 k x).l1 = Function.update w.l1 k x := rfl

@[simp] theorem setL1_l2 (w : Layers κ ν) (k : κ) (x : Option ν) : (w.setL1 k x).l2 = w.l2 := rfl

@[simp] theorem setL2_l1 (w : Layers κ ν) (k : κ) (x : Option ν) : (w.setL2 k x).l1 = w.l1 := rfl

@[simp] theorem setL2_l2 (w : Layers κ ν) (k : κ) (x : Option ν) :
    (w.setL2 k x).l2 = Function.update w.l2 k x := rfl

/-- What a read of the first layer gives, and its status. -/
def readL1 (f : L1Read) (stored : Option ν) : Option ν × ReadStatus :=
  match f with
  | .served => (stored, if stored.isSome then .hit else .miss)
  | .missed => (none, .miss)
  | .bypassed => (none, .bypass)
  | .degraded | .raised => (none, .degraded)
  | .invalid => (none, .invalid)

def readL2 (f : L2Read) (stored : Option ν) : Option ν × ReadStatus :=
  match f with
  | .served => (stored, if stored.isSome then .hit else .miss)
  | .missed => (none, .miss)
  | .raised => (none, .error)

/-- `lookup`: first L1, then L2, from where L1 is filled again. -/
def lookup (w : Layers κ ν) (k : κ) (f : LookupFaults) : LayeredCacheLookup ν × Layers κ ν :=
  match readL1 f.l1Read (w.l1 k) with
  | (some v, status) => ({ source := .l1, value := some v, l1Status := status }, w)
  | (none, status) =>
    let w := if status = .invalid ∧ f.deletes then w.setL1 k none else w
    match readL2 f.l2Read (w.l2 k) with
    | (none, status₂) => ({ source := .miss, l1Status := status, l2Status := status₂ }, w)
    | (some v, status₂) =>
      ({ source := .l2, value := some v, l1Status := status, l2Status := status₂ },
        if f.backfills then w.setL1 k (some v) else w)

/-- `set`: either layer takes the value by itself. `copy` is what the second layer keeps of it. -/
def set (copy : ν → ν) (w : Layers κ ν) (k : κ) (v : ν) (f : WriteFaults) : Layers κ ν :=
  let w := if f.l2Stores then w.setL2 k (some (copy v)) else w
  if f.l1Stores then w.setL1 k (some v) else w

/-- All values that are stored are in a relation with their keys. -/
def Layers.Holds (R : κ → ν → Prop) (w : Layers κ ν) : Prop :=
  ∀ k v, w.l1 k = some v ∨ w.l2 k = some v → R k v

section

variable {R : κ → ν → Prop} {w : Layers κ ν} {k : κ} {v : ν}

omit [DecidableEq κ] in
theorem holds_empty : (Layers.empty : Layers κ ν).Holds R := by
  intro k v h
  obtain h | h := h
  · cases h
  · cases h

theorem Layers.Holds.setL1 (h : w.Holds R) {x : Option ν} (hx : ∀ v, x = some v → R k v) :
    (w.setL1 k x).Holds R := by
  intro j v hv
  obtain hv | hv := hv
  · by_cases hj : j = k
    · subst hj
      rw [setL1_l1, Function.update_self] at hv
      exact hx v hv
    · rw [setL1_l1, Function.update_of_ne hj] at hv
      exact h j v (Or.inl hv)
  · exact h j v (Or.inr hv)

theorem Layers.Holds.setL2 (h : w.Holds R) {x : Option ν} (hx : ∀ v, x = some v → R k v) :
    (w.setL2 k x).Holds R := by
  intro j v hv
  obtain hv | hv := hv
  · exact h j v (Or.inl hv)
  · by_cases hj : j = k
    · subst hj
      rw [setL2_l2, Function.update_self] at hv
      exact hx v hv
    · rw [setL2_l2, Function.update_of_ne hj] at hv
      exact h j v (Or.inr hv)

omit [DecidableEq κ] in
theorem readL1_some {f : L1Read} {stored : Option ν} {status : ReadStatus}
    (h : readL1 f stored = (some v, status)) : stored = some v := by
  cases f with
  | served => exact (Prod.mk.inj h).1
  | missed | bypassed | degraded | raised | invalid => cases h

omit [DecidableEq κ] in
theorem readL2_some {f : L2Read} {stored : Option ν} {status : ReadStatus}
    (h : readL2 f stored = (some v, status)) : stored = some v := by
  cases f with
  | served => exact (Prod.mk.inj h).1
  | missed | raised => cases h

theorem holds_dropInvalid (h : w.Holds R) (c : Prop) [Decidable c] :
    (if c then w.setL1 k none else w).Holds R := by
  split
  · exact h.setL1 nofun
  · exact h

theorem l2_dropInvalid (w : Layers κ ν) (k : κ) (c : Prop) [Decidable c] :
    (if c then w.setL1 k none else w).l2 = w.l2 := by
  split
  · rfl
  · rfl

/-- Whatever fails, a lookup gives only what is stored under its key. -/
theorem lookup_holds (h : w.Holds R) (k : κ) (f : LookupFaults) :
    (∀ v, (lookup w k f).1.value = some v → R k v) ∧ (lookup w k f).2.Holds R := by
  unfold lookup
  split
  · rename_i v status hread
    refine ⟨?_, h⟩
    rintro _ ⟨⟩
    exact h k v (Or.inl (readL1_some hread))
  · rename_i status hread
    dsimp only
    split
    · exact ⟨nofun, holds_dropInvalid h _⟩
    · rename_i v status₂ hread₂
      rw [l2_dropInvalid] at hread₂
      have hv : R k v := h k v (Or.inr (readL2_some hread₂))
      refine ⟨?_, ?_⟩
      · rintro _ ⟨⟩
        exact hv
      · split
        · apply (holds_dropInvalid h _).setL1
          rintro _ ⟨⟩
          exact hv
        · exact holds_dropInvalid h _

theorem set_holds {copy : ν → ν} (h : w.Holds R) (hv : R k v) (hcopy : R k (copy v))
    (f : WriteFaults) : (set copy w k v f).Holds R := by
  have hl2 : (if f.l2Stores then w.setL2 k (some (copy v)) else w).Holds R := by
    split
    · apply h.setL2
      rintro _ ⟨⟩
      exact hcopy
    · exact h
  unfold set
  dsimp only
  split
  · apply hl2.setL1
    rintro _ ⟨⟩
    exact hv
  · exact hl2

end

section

variable (w : Layers κ ν) (k : κ)

/-- While nothing fails a lookup finds what either layer has, and leaves it in the first one. -/
theorem lookup_clear :
    (lookup w k {}).1.value = (w.l1 k).or (w.l2 k) ∧
      (lookup w k {}).2.l1 = Function.update w.l1 k ((w.l1 k).or (w.l2 k)) := by
  cases h1 : w.l1 k with
  | some v =>
    simp only [lookup, readL1, h1, Option.some_or]
    exact ⟨trivial, by rw [← h1, Function.update_eq_self]⟩
  | none =>
    cases h2 : w.l2 k with
    | none =>
      simp only [lookup, readL1, readL2, h1, h2, Option.isSome_none, Bool.false_eq_true,
        reduceCtorEq, false_and, if_false, Option.or_none]
      exact ⟨trivial, by rw [← h1, Function.update_eq_self]⟩
    | some v =>
      simp only [lookup, readL1, readL2, h1, h2, Option.isSome_none, Bool.false_eq_true,
        reduceCtorEq, false_and, if_false, if_true, Option.none_or, setL1_l1]
      exact ⟨trivial, trivial⟩

theorem set_clear (copy : ν → ν) (v : ν) :
    (set copy w k v {}).l1 = Function.update w.l1 k (some v) := rfl

end

end TravelAgent.LayeredCache

import Mathlib

namespace TravelAgent.Leasing

abbrev Time := Nat

/-- A lease names at most one owner and the instant at which it lapses. -/
structure Lease (W : Type) where
  owner : Option W
  expiresAt : Option Time
deriving DecidableEq, Repr

variable {W : Type} [DecidableEq W]

def Lease.holds (l : Lease W) (w : W) (now : Time) : Bool :=
  decide (l.owner = some w) && l.expiresAt.any fun e => decide (now < e)

def Lease.lapsed (l : Lease W) (now : Time) : Bool :=
  l.expiresAt.any fun e => decide (e < now)

theorem holds_iff (l : Lease W) (w : W) (now : Time) :
    l.holds w now = true ↔ l.owner = some w ∧ ∃ e, l.expiresAt = some e ∧ now < e := by
  simp [Lease.holds, Option.any_eq_true]

omit [DecidableEq W] in
theorem lapsed_iff (l : Lease W) (now : Time) :
    l.lapsed now = true ↔ ∃ e, l.expiresAt = some e ∧ e < now := by
  simp [Lease.lapsed, Option.any_eq_true]

end TravelAgent.Leasing

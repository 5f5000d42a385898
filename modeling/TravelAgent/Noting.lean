import Mathlib

namespace TravelAgent.Noting

/-- A computation that may fail, with what it asks for on its way. -/
structure Noted (Q ε α : Type) where
  asked : List Q
  outcome : Except ε α

variable {Q ε α β : Type}

/-- What is computed from an answer, with the question noted. -/
def note (q : Q) (outcome : Except ε α) : Noted Q ε α := ⟨[q], outcome⟩

def quietly (outcome : Except ε α) : Noted Q ε α := ⟨[], outcome⟩

def proceed (x : Noted Q ε α) (f : α → Noted Q ε β) : Noted Q ε β :=
  match x.outcome with
  | .ok a => ⟨x.asked ++ (f a).asked, (f a).outcome⟩
  | .error e => ⟨x.asked, .error e⟩

instance : Monad (Noted Q ε) where
  pure a := quietly (.ok a)
  bind := proceed

@[simp] theorem outcome_note (q : Q) (r : Except ε α) : (note q r).outcome = r := rfl

@[simp] theorem outcome_quietly (r : Except ε α) : (quietly r : Noted Q ε α).outcome = r := rfl

@[simp] theorem outcome_pure (a : α) : (pure a : Noted Q ε α).outcome = .ok a := rfl

@[simp] theorem outcome_bind (x : Noted Q ε α) (f : α → Noted Q ε β) :
    (x >>= f).outcome = x.outcome >>= fun a => (f a).outcome := by
  obtain ⟨asked, outcome⟩ := x
  cases outcome with
  | error e => rfl
  | ok a => rfl

theorem quietly_bind (a : α) (f : α → Noted Q ε β) : quietly (.ok a) >>= f = f a := rfl

theorem proceed_assoc {γ : Type} (x : Noted Q ε α) (f : α → Noted Q ε β) (h : β → Noted Q ε γ) :
    x >>= f >>= h = x >>= fun a => f a >>= h := by
  obtain ⟨asked, outcome⟩ := x
  cases outcome with
  | error e => rfl
  | ok a =>
    have hlast : ∀ y : Noted Q ε β, proceed ⟨asked ++ y.asked, y.outcome⟩ h =
        ⟨asked ++ (proceed y h).asked, (proceed y h).outcome⟩ := by
      rintro ⟨asked', outcome'⟩
      cases outcome' with
      | error e => rfl
      | ok b =>
        exact congrArg (fun qs => (⟨qs, (h b).outcome⟩ : Noted Q ε γ))
          (List.append_assoc asked asked' (h b).asked)
    exact hlast (f a)

/-- The questions in order, up to the one that fails, if one does. -/
structure Asks (x : Noted Q ε α) (qs : List Q) : Prop where
  inOrder : x.asked <+: qs
  complete : ∀ a, x.outcome = .ok a → x.asked = qs

theorem asks_note (q : Q) (r : Except ε α) : Asks (note q r) [q] :=
  ⟨List.prefix_refl _, fun _ _ => rfl⟩

theorem asks_quietly (r : Except ε α) : Asks (quietly r : Noted Q ε α) [] :=
  ⟨List.prefix_refl _, fun _ _ => rfl⟩

theorem asks_pure (a : α) : Asks (pure a : Noted Q ε α) [] := asks_quietly _

theorem asks_bind {x : Noted Q ε α} {f : α → Noted Q ε β} {qs rs : List Q} (hx : Asks x qs)
    (hf : ∀ a, x.outcome = .ok a → Asks (f a) rs) : Asks (x >>= f) (qs ++ rs) := by
  obtain ⟨asked, outcome⟩ := x
  cases outcome with
  | error e => exact ⟨hx.inOrder.trans (List.prefix_append _ _), nofun⟩
  | ok a =>
    obtain rfl : asked = qs := hx.complete a rfl
    have ha := hf a rfl
    refine ⟨(List.prefix_append_right_inj _).mpr ha.inOrder, ?_⟩
    intro b hb
    exact congrArg (asked ++ ·) (ha.complete b hb)

/-- The questions `qs` and the result `r` exactly where `P` holds, else a failure on the way. -/
structure Yields (x : Noted Q ε α) (qs : List Q) (P : Prop) (r : α) : Prop where
  inOrder : x.asked <+: qs
  returns : P → x = ⟨qs, .ok r⟩
  holds : ∀ a, x.outcome = .ok a → P

theorem yields_ok {qs : List Q} {r : α} {P : Prop} (h : P) :
    Yields (⟨qs, .ok r⟩ : Noted Q ε α) qs P r :=
  ⟨List.prefix_refl _, fun _ => rfl, fun _ _ => h⟩

theorem yields_error {e : ε} {qs : List Q} {r : α} {P : Prop} (h : ¬P) :
    Yields (quietly (.error e) : Noted Q ε α) qs P r :=
  ⟨List.nil_prefix, fun hp => absurd hp h, fun _ ha => nomatch ha⟩

theorem Yields.next {x : Noted Q ε α} {qs : List Q} {P : Prop} {r : α} (h : Yields x qs P r) (q : Q) :
    Yields ⟨q :: x.asked, x.outcome⟩ (q :: qs) P r := by
  refine ⟨(List.prefix_cons_inj q).mpr h.inOrder, ?_, h.holds⟩
  intro hp
  rw [h.returns hp]

end TravelAgent.Noting

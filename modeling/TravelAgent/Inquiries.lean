import TravelAgent.Attempts
import TravelAgent.Noting

namespace TravelAgent.Inquiries

open TravelAgent.Noting

/-- A computation that asks its questions one by one, each after the answers to those before. -/
inductive Inquiry (Q A ε α : Type) where
  | done (outcome : Except ε α)
  | ask (q : Q) (next : A → Inquiry Q A ε α)

variable {Q A ε α β : Type}

def followUp (f : α → Inquiry Q A ε β) : Inquiry Q A ε α → Inquiry Q A ε β
  | .done (.ok a) => f a
  | .done (.error e) => .done (.error e)
  | .ask q next => .ask q fun a => followUp f (next a)

instance : Monad (Inquiry Q A ε) where
  pure a := .done (.ok a)
  bind x f := followUp f x

def inquire (q : Q) : Inquiry Q A ε A := .ask q pure

/-- The questions of a list in their order. -/
def inquireAll : List Q → Inquiry Q A ε (List A)
  | [] => pure []
  | q :: qs => do
    let a ← inquire q
    let rest ← inquireAll qs
    return a :: rest

/-- The course of an inquiry where questions are answered by `answer`. -/
def interview (answer : Q → Except ε A) : Inquiry Q A ε α → Noted Q ε α
  | .done outcome => quietly outcome
  | .ask q next => note q (answer q) >>= fun a => interview answer (next a)

theorem interview_bind (answer : Q → Except ε A) (x : Inquiry Q A ε α) (f : α → Inquiry Q A ε β) :
    interview answer (x >>= f) = interview answer x >>= fun a => interview answer (f a) := by
  induction x with
  | done outcome =>
    cases outcome with
    | error e => rfl
    | ok a => exact (quietly_bind a fun b => interview answer (f b)).symm
  | ask q next ih =>
    have hnext : (fun a => interview answer (next a >>= f)) =
        fun a => interview answer (next a) >>= fun b => interview answer (f b) := by
      funext a
      exact ih a
    exact (congrArg (note q (answer q) >>= ·) hnext).trans (proceed_assoc _ _ _).symm

section

variable {answer : Q → Except ε A}

theorem interview_then {x : Inquiry Q A ε β} {f : β → Inquiry Q A ε α} {a : α}
    (h : (interview answer (x >>= f)).outcome = .ok a) :
    ∃ b, (interview answer x).outcome = .ok b ∧ (interview answer (f b)).outcome = .ok a := by
  rw [interview_bind, outcome_bind] at h
  exact Attempts.bind_ok h

theorem interview_next {q : Q} {f : A → Inquiry Q A ε α} {a : α}
    (h : (interview answer (inquire q >>= f)).outcome = .ok a) :
    ∃ b, answer q = .ok b ∧ (interview answer (f b)).outcome = .ok a := by
  obtain ⟨b, hb, h⟩ := interview_then h
  refine ⟨b, ?_, h⟩
  rw [inquire, interview, outcome_bind] at hb
  obtain ⟨c, hc, hb⟩ := Attempts.bind_ok hb
  cases hb
  exact hc

theorem interview_all {qs : List Q} {as : List A}
    (h : (interview answer (inquireAll qs)).outcome = .ok as) :
    ∀ q ∈ qs, ∃ a, answer q = .ok a := by
  induction qs generalizing as with
  | nil => exact fun q hq => absurd hq List.not_mem_nil
  | cons q qs ih =>
    obtain ⟨a, ha, h⟩ := interview_next h
    obtain ⟨rest, hrest, -⟩ := interview_then h
    intro q' hq'
    obtain rfl | hq' := List.mem_cons.mp hq'
    · exact ⟨a, ha⟩
    · exact ih hrest q' hq'

end

section

variable (g : Q → A)

/-- An inquiry whose questions all have an answer. -/
def attended (x : Inquiry Q A ε α) : Noted Q ε α := interview (fun q => .ok (g q)) x

theorem attended_next (q : Q) (f : A → Inquiry Q A ε α) :
    attended g (inquire q >>= f) =
      ⟨q :: (attended g (f (g q))).asked, (attended g (f (g q))).outcome⟩ := rfl

theorem attended_known (a : β) (f : β → Inquiry Q A ε α) :
    attended g (.done (.ok a) >>= f) = attended g (f a) := rfl

theorem attended_then {x : Inquiry Q A ε β} {qs : List Q} {b : β} (h : attended g x = ⟨qs, .ok b⟩)
    (f : β → Inquiry Q A ε α) : attended g (x >>= f) =
      ⟨qs ++ (attended g (f b)).asked, (attended g (f b)).outcome⟩ := by
  rw [attended] at h
  rw [attended, interview_bind, h]
  rfl

theorem attended_fails {x : Inquiry Q A ε β} {qs : List Q} {e : ε}
    (h : attended g x = ⟨qs, .error e⟩) (f : β → Inquiry Q A ε α) :
    attended g (x >>= f) = ⟨qs, .error e⟩ := by
  rw [attended] at h
  rw [attended, interview_bind, h]
  rfl

theorem attended_inquireAll (qs : List Q) :
    (attended g (inquireAll qs) : Noted Q ε (List A)) = ⟨qs, .ok (qs.map g)⟩ := by
  induction qs with
  | nil => rfl
  | cons q qs ih =>
    rw [inquireAll, attended_next, attended_then g ih]
    exact congrArg (fun asked => (⟨q :: asked, .ok ((q :: qs).map g)⟩ : Noted Q ε (List A)))
      (List.append_nil qs)

variable {g}

/-- Where every answer is known beforehand, an inquiry returns exactly when it returns with
these answers and no question on its way is left without one. -/
theorem interview_ok_iff {answer : Q → Except ε A} (hg : ∀ q a, answer q = .ok a → g q = a)
    (x : Inquiry Q A ε α) (r : α) :
    (interview answer x).outcome = .ok r ↔
      (attended g x).outcome = .ok r ∧ ∀ q ∈ (attended g x).asked, ∃ a, answer q = .ok a := by
  induction x with
  | done outcome => exact ⟨fun h => ⟨h, nofun⟩, fun h => h.1⟩
  | ask q next ih =>
    have hrun : attended g (.ask q next : Inquiry Q A ε α) =
        ⟨q :: (attended g (next (g q))).asked, (attended g (next (g q))).outcome⟩ := rfl
    rw [hrun]
    cases hq : answer q with
    | error e =>
      have hfail : (interview answer (.ask q next : Inquiry Q A ε α)).outcome = .error e := by
        rw [interview, hq]
        rfl
      rw [hfail]
      refine ⟨nofun, ?_⟩
      rintro ⟨-, hall⟩
      obtain ⟨a, ha⟩ := hall q List.mem_cons_self
      rw [hq] at ha
      cases ha
    | ok a =>
      have hgo : (interview answer (.ask q next : Inquiry Q A ε α)).outcome =
          (interview answer (next a)).outcome := by
        rw [interview, hq]
        rfl
      rw [hgo, hg q a hq, ih a]
      constructor
      · rintro ⟨hret, hall⟩
        refine ⟨hret, ?_⟩
        intro q' hq'
        obtain rfl | hmem := List.mem_cons.mp hq'
        · exact ⟨a, hq⟩
        · exact hall q' hmem
      · rintro ⟨hret, hall⟩
        exact ⟨hret, fun q' hq' => hall q' (List.mem_cons_of_mem q hq')⟩

/-- The questions are those of the attended inquiry, up to one without an answer. -/
theorem interview_within {answer : Q → Except ε A} (hg : ∀ q a, answer q = .ok a → g q = a)
    (x : Inquiry Q A ε α) : (interview answer x).asked <+: (attended g x).asked := by
  induction x with
  | done outcome => exact List.prefix_refl _
  | ask q next ih =>
    have hrun : (attended g (.ask q next : Inquiry Q A ε α)).asked =
        q :: (attended g (next (g q))).asked := rfl
    rw [hrun]
    cases hq : answer q with
    | error e =>
      have hfail : (interview answer (.ask q next : Inquiry Q A ε α)).asked = [q] := by
        rw [interview, hq]
        rfl
      rw [hfail]
      exact ⟨_, rfl⟩
    | ok a =>
      have hgo : (interview answer (.ask q next : Inquiry Q A ε α)).asked =
          q :: (interview answer (next a)).asked := by
        rw [interview, hq]
        rfl
      rw [hgo, hg q a hq]
      exact (List.prefix_cons_inj q).mpr (ih a)

end

end TravelAgent.Inquiries

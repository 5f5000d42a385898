import TravelAgent.Completion
import TravelAgent.ConfirmRun

namespace TravelAgent.ConfirmRun

open TravelAgent.Itinerary TravelAgent.Agent TravelAgent.Leasing TravelAgent.VersionStore
open TravelAgent.ConfirmedRows

variable {F D : Type}

/-- How a session was completed fits the verdict and the report on its plan. -/
structure CompletionConsistent (s : AgentState F D) : Prop where
  full : s.completionMode = some .full ↔ s.lastValidationResult.any (·.valid) = true
  partially : s.completionMode = some .partially →
    ∃ r, s.acceptanceReport = some r ∧ r.accepted = true ∧ r.partially = true ∧
      s.completionWarnings = r.warnings

/-- The loop ends only with a plan that is valid or accepted with its faults. -/
theorem finish_consistent {kit : Kit F D} {s : AgentState F D} {p : TripPlan}
    {v : TripValidationResult} (h : Judged kit s p v) (hv : s.lastValidationResult = some v)
    (ha : (evaluateAcceptance kit.meanScore s v).accepted = true) :
    CompletionConsistent (finish s) := by
  cases hvalid : v.valid with
  | true =>
    obtain ⟨-, hfull⟩ := acceptance_valid kit.meanScore h.plan hvalid
    refine ⟨?_, ?_⟩
    · simp [finish, h.acceptance, hv, hvalid, hfull]
    · simp [finish, h.acceptance, hfull]
  | false =>
    have hpart := (acceptance_invalid h.plan hvalid ha).partially
    refine ⟨?_, ?_⟩
    · simp [finish, h.acceptance, hv, hvalid, ha, hpart]
    · intro _
      exact ⟨_, h.acceptance, ha, hpart, by simp [finish, h.acceptance]⟩

/-- The candidate is as valid as the plan before it, and after a partial completion it is
accepted with the same warnings again. -/
structure SameCompletion (s : AgentState F D) (evaluation : TripVersionEvaluation F D) : Prop where
  valid : s.lastValidationResult.any (·.valid) = evaluation.validationResult.valid
  partially : s.completionMode = some .partially →
    evaluation.acceptanceReport.accepted = true ∧ evaluation.acceptanceReport.partially = true ∧
      s.completionWarnings = evaluation.acceptanceReport.warnings

variable [DecidableEq F] {kit : Kit F D} {fails : ConfirmCall → Bool} {d : Dialect} {now : Time}
  {w w' : Stores F D} {sessionId draftId : String} {draft : Draft} {version : Version F D}

/-- Neither the mode nor the warnings are brought up to date. -/
theorem synchronized_consistent {s : AgentState F D} (hs : CompletionConsistent s) :
    CompletionConsistent (synchronized kit s version) ↔ SameCompletion s version.evaluation := by
  constructor
  · intro h
    refine ⟨?_, ?_⟩
    · rw [Bool.eq_iff_iff, ← hs.full]
      exact h.full
    · intro hmode
      obtain ⟨r, hr, haccepted, hpart, hwarnings⟩ := h.partially hmode
      obtain rfl := Option.some.inj hr
      exact ⟨haccepted, hpart, hwarnings⟩
  · intro h
    refine ⟨?_, ?_⟩
    · exact hs.full.trans (Bool.eq_iff_iff.mp h.valid)
    · intro hmode
      obtain ⟨haccepted, hpart, hwarnings⟩ := h.partially hmode
      exact ⟨_, rfl, haccepted, hpart, hwarnings⟩

omit [DecidableEq F] in
theorem chosen_state {state : AgentState F D}
    (h : chosen fails w sessionId draftId = .ok (state, draft, version)) :
    w.states sessionId = some state := by
  obtain ⟨s, hs, h⟩ := Attempts.bind_ok h
  obtain ⟨draft', -, h⟩ := Attempts.bind_ok h
  obtain ⟨confirmed, -, h⟩ := Attempts.bind_ok h
  obtain ⟨_, -, h⟩ := Attempts.bind_ok h
  obtain ⟨version', -, h⟩ := Attempts.bind_ok h
  cases h
  replace hs := call_ok hs
  unfold readState at hs
  split at hs
  · cases hs
  · rename_i hstate
    cases hs
    exact hstate

/-- What a confirmation that returns has written. -/
theorem confirmDraft_ok
    (h : confirmDraft fails kit d now w sessionId draftId = (w', .ok (draft, version))) :
    ∃ s, w.states sessionId = some s ∧ w'.states sessionId = some (synchronized kit s version) := by
  unfold confirmDraft at h
  cases hchosen : chosen fails w sessionId draftId with
  | error e =>
    rw [hchosen] at h
    cases h
  | ok x =>
    obtain ⟨state, draft₀, version₀⟩ := x
    rw [hchosen] at h
    cases hconfirm : call fails .confirmVersion
        (stored (confirmOn d w.tables.versions version₀ now)) with
    | error e =>
      simp only [hconfirm] at h
      cases h
    | ok rows =>
      simp only [hconfirm] at h
      cases hsync : synchronize fails kit state (version₀.confirmAt now) with
      | error e =>
        simp only [hsync] at h
        cases h
      | ok state' =>
        simp only [hsync] at h
        obtain rfl := synchronize_ok hsync
        split at h
        · cases h
        · split at h
          · cases h
          · cases h
            exact ⟨state, chosen_state hchosen, Function.update_self _ _ _⟩

/-- A session of which the mode of completion fits stays one, with the newly confirmed plan,
exactly if the candidate comes to the same. -/
theorem confirm_consistent_iff {s : AgentState F D}
    (h : confirmDraft fails kit d now w sessionId draftId = (w', .ok (draft, version)))
    (hstate : w.states sessionId = some s) (hdone : s.status = .completed)
    (hs : CompletionConsistent s) :
    ∃ s', w'.states sessionId = some s' ∧ s'.status = .completed ∧
      s'.tripPlan = some version.tripPlan ∧
      (CompletionConsistent s' ↔ SameCompletion s version.evaluation) := by
  obtain ⟨s₀, hs₀, hwritten⟩ := confirmDraft_ok h
  obtain rfl : s = s₀ := Option.some.inj (hstate.symm.trans hs₀)
  exact ⟨_, hwritten, hdone, rfl, synchronized_consistent hs⟩

/-- A session that was completed in full. -/
def fullSession : AgentState Unit Unit :=
  finish { AgentState.create ContentRebuild.drivingTrip {} with
    tripPlan := some restPlan
    lastValidationResult := some validResult
    acceptanceReport := some { accepted := true } }

def overtimeResult : TripValidationResult :=
  .fromIssues [⟨"schedule.daily_overtime", .error, "当日行程超时", true⟩]

/-- A candidate that is only accepted with its faults. -/
def overtimeStores : Stores Unit Unit :=
  editedStores fullSession overtimeResult
    { accepted := true, partially := true, warnings := ["当日行程超时"] }

/-- The session stays completed in full, with a plan that is not valid. -/
theorem overtime_left_full :
    CompletionConsistent fullSession ∧
      ∃ w' x s', confirmDraft (fun _ => false) plainKit .mysql 4 overtimeStores "s1" "d1" =
          (w', .ok x) ∧
        w'.states "s1" = some s' ∧ s'.status = .completed ∧ s'.completionMode = some .full ∧
          ¬CompletionConsistent s' := by
  refine ⟨⟨by decide, by decide⟩, _, _, _, rfl, rfl, rfl, rfl, ?_⟩
  intro h
  exact absurd (h.full.mp rfl) (by decide)

def validStores : Stores Unit Unit := editedStores fullSession validResult { accepted := true }

theorem valid_candidate_consistent :
    ∃ w' draft version,
      confirmDraft (fun _ => false) plainKit .mysql 4 validStores "s1" "d1" =
          (w', .ok (draft, version)) ∧
        ∃ s', w'.states "s1" = some s' ∧ s'.status = .completed ∧
          s'.tripPlan = some version.tripPlan ∧
          (CompletionConsistent s' ↔ SameCompletion fullSession version.evaluation) := by
  have h : confirmDraft (fun _ => false) plainKit .mysql 4 validStores "s1" "d1" =
      (_, .ok (_, _)) := rfl
  exact ⟨_, _, _, h, confirm_consistent_iff h rfl rfl ⟨by decide, by decide⟩⟩

end TravelAgent.ConfirmRun

import TravelAgent.AgentFrames

namespace TravelAgent.Agent

open TravelAgent.Itinerary TravelAgent.ContentRebuild TravelAgent.Transition

variable {F D : Type}

/-- The verdict and the report on it are about the plan and the reports at hand. -/
structure Judged (kit : Kit F D) (s : AgentState F D) (p : TripPlan) (v : TripValidationResult) :
    Prop where
  plan : s.tripPlan = some p
  validated : kit.validate (validationInputs s p) = .ok v
  acceptance : s.acceptanceReport = some (evaluateAcceptance kit.meanScore s v)

/-- What a plan that goes out with known faults has been checked for. -/
structure Tolerable (budget : ExecutionBudget) (v : TripValidationResult)
    (r : PartialAcceptanceReport) : Prop where
  accepted : r.accepted = true
  partially : r.partially = true
  checks : ∃ c, r.coreChecks = some c ∧ c.all = true
  allowed : ∀ i ∈ v.issues, i.isError = true →
    i.code ∈ budget.partialAcceptanceAllowedErrorCodes
  errors : v.errors.length ≤ budget.partialAcceptanceMaxValidationErrors
  score : budget.partialAcceptanceMinScore ≤ r.qualityScore

theorem checks_allowlist {s : AgentState F D} {p : TripPlan} {v : TripValidationResult}
    (h : (coreChecks s p v).all = true) :
    v.errors.length ≤ s.budget.partialAcceptanceMaxValidationErrors ∧
      ∀ i ∈ v.issues, i.isError = true → i.code ∈ s.budget.partialAcceptanceAllowedErrorCodes := by
  have hlist : (coreChecks s p v).validationAllowlist = true := by
    simp only [CoreChecks.all, Bool.and_eq_true] at h
    exact h.2
  simp only [coreChecks, Bool.and_eq_true, decide_eq_true_eq, List.isEmpty_iff,
    disallowedErrors, List.filter_eq_nil_iff] at hlist
  refine ⟨hlist.1, ?_⟩
  intro i hi he
  have hmem : i ∈ v.errors := List.mem_filter.mpr ⟨hi, he⟩
  simpa using hlist.2 i hmem

/-- A valid plan is accepted in full. -/
theorem acceptance_valid (mean : MeanScore) {s : AgentState F D} {p : TripPlan}
    {v : TripValidationResult} (hp : s.tripPlan = some p) (hv : v.valid = true) :
    (evaluateAcceptance mean s v).accepted = true ∧
      (evaluateAcceptance mean s v).partially = false := by
  simp [evaluateAcceptance, hp, hv]

/-- An invalid plan is only accepted with its faults. -/
theorem acceptance_invalid {mean : MeanScore} {s : AgentState F D} {p : TripPlan}
    {v : TripValidationResult} (hp : s.tripPlan = some p) (hv : v.valid = false)
    (ha : (evaluateAcceptance mean s v).accepted = true) :
    Tolerable s.budget v (evaluateAcceptance mean s v) := by
  unfold evaluateAcceptance at ha ⊢
  rw [hp] at ha ⊢
  simp only [hv, Bool.false_eq_true, if_false] at ha ⊢
  split at ha
  · rename_i h
    rw [if_pos h]
    simp only [Bool.and_eq_true, decide_eq_true_eq] at h
    obtain ⟨herrors, hallowed⟩ := checks_allowlist h.1.2
    exact ⟨rfl, rfl, ⟨_, rfl, h.1.2⟩, hallowed, herrors, h.2⟩
  · cases ha

variable [DecidableEq F] {kit : Kit F D} {s : AgentState F D}

/-- A verdict that is kept is the current one, and nothing else is left to be done. -/
structure Standing (kit : Kit F D) (s : AgentState F D) (p : TripPlan) (v : TripValidationResult) :
    Prop extends Judged kit s p v where
  facts : chooseFacts s = none
  prior : choosePrior kit s p = .ok none

def Verdict (kit : Kit F D) (s : AgentState F D) : Prop :=
  ∀ v, s.lastValidationResult = some v → ∃ p, Standing kit s p v

/-- What a completed run has come to. -/
structure Justified (kit : Kit F D) (s : AgentState F D) (p : TripPlan) (v : TripValidationResult)
    (r : PartialAcceptanceReport) : Prop where
  plan : s.tripPlan = some p
  verdict : s.lastValidationResult = some v
  report : s.acceptanceReport = some r
  validated : kit.validate (validationInputs s p) = .ok v
  evaluated : r = evaluateAcceptance kit.meanScore s v
  mode : s.completionMode = some .full ∨ s.completionMode = some .partially
  full : s.completionMode = some .full ↔ v.valid = true
  tolerable : s.completionMode = some .partially → Tolerable s.budget v r

omit [DecidableEq F] in
theorem chooseFacts_search {a : AgentAction} (h : chooseFacts s = some a) : a ≠ .validatePlan := by
  unfold chooseFacts at h
  split at h
  · obtain rfl := Option.some.inj h
    decide
  · split at h
    · obtain rfl := Option.some.inj h
      decide
    · split at h
      · obtain rfl := Option.some.inj h
        decide
      · cases h

theorem validate_facts (h : decideNextAction kit s = .ok .validatePlan) : chooseFacts s = none := by
  cases hf : chooseFacts s with
  | none => rfl
  | some a =>
    simp only [decideNextAction, hf, Except.ok.injEq] at h
    exact absurd h (chooseFacts_search hf)

/-- While a verdict stands, the choice only follows it up. -/
theorem Standing.chosen {p : TripPlan} {v : TripValidationResult} (h : Standing kit s p v)
    {a : AgentAction} (hd : decideNextAction kit s = .ok a) : a = chooseVerdict kit s p := by
  simp only [decideNextAction, h.facts, h.plan, h.prior, Except.ok.injEq] at hd
  exact hd.symm

/-- The status plays no part. -/
theorem Verdict.restatus (h : Verdict kit s) (status : AgentStatus) :
    Verdict kit { s with status := status } := by
  intro v hv
  obtain ⟨p, hs⟩ := h v hv
  exact ⟨p, ⟨⟨hs.plan, hs.validated, hs.acceptance⟩, hs.facts, hs.prior⟩⟩

theorem standing_withValidation {p : TripPlan} {v : TripValidationResult} (hp : s.tripPlan = some p)
    (hv : kit.validate (validationInputs s p) = .ok v) (hf : chooseFacts s = none)
    (hprior : choosePrior kit s p = .ok none) : Verdict kit (withValidation kit s p v) := by
  intro w hw
  obtain rfl := Option.some.inj hw
  exact ⟨p, ⟨⟨hp, hv, rfl⟩, hf, hprior⟩⟩

theorem effect_verdict (h : Verdict kit s) {a : AgentAction} {o : Outcome F D}
    (hd : decideNextAction kit s = .ok a) (he : Effect kit s a o) : Verdict kit o.state := by
  by_cases hv : a = .validatePlan
  · subst hv
    have hf := validate_facts hd
    cases he with
    | faulted => exact h
    | retried => exact h
    | outOfTime => exact h.restatus _
    | gaveUp => exact h.restatus _
    | approved hq hk hp hc hv ha => exact standing_withValidation hq.plan hv hf hp
    | faulty hq hk hp hc hv ha hr => exact standing_withValidation hq.plan hv hf hp
    | hopeless hq hk hp hc hv ha hr => exact (standing_withValidation hq.plan hv hf hp).restatus _
  · intro v hlast
    obtain hsame | hnone := (effect_keeps he).verdict hv
    · rw [hsame] at hlast
      obtain ⟨p, hs⟩ := h v hlast
      have ha := hs.chosen hd
      obtain hc | hc | hc := chooseVerdict_cases kit s p
      · exact absurd (ha.trans hc) hv
      · rw [hc] at ha
        subst ha
        cases he with
        | faulted => exact ⟨p, hs⟩
        | retried => exact ⟨p, hs⟩
        | outOfTime => exact h.restatus _ v hlast
        | gaveUp => exact h.restatus _ v hlast
        | finished hq hk hp hf =>
          exact ⟨p, ⟨⟨hs.plan, hs.validated, hs.acceptance⟩, hs.facts, hs.prior⟩⟩
      · rw [hc] at ha
        subst ha
        cases he with
        | faulted => exact ⟨p, hs⟩
        | retried => exact ⟨p, hs⟩
        | outOfTime => exact h.restatus _ v hlast
        | gaveUp => exact h.restatus _ v hlast
        | repaired hq hk hr =>
          rw [hlast] at hsame
          cases hsame
    · rw [hnone] at hlast
      cases hlast

/-- The run only finishes on a verdict that lets the plan go out. -/
theorem finish_verdict {p : TripPlan} (h : chooseVerdict kit s p = .finish) :
    ∃ v, s.lastValidationResult = some v ∧
      (v.valid = true ∨ s.acceptanceReport.any (·.accepted) = true) := by
  unfold chooseVerdict at h
  split at h
  · cases h
  · rename_i hcurrent
    have hcurrent : validationCurrent kit s p = true := by simpa using hcurrent
    obtain ⟨v, hv⟩ := isSome_of_current hcurrent
    refine ⟨v, hv, ?_⟩
    split at h
    · rename_i ha
      simpa only [hv, Option.any_some, Bool.or_eq_true] using ha
    · split at h <;> cases h

theorem finish_justified (h : Verdict kit s) {p : TripPlan} (hp : s.tripPlan = some p)
    (hc : chooseVerdict kit s p = .finish) :
    ∃ v r, Justified kit (finish s) p v r := by
  obtain ⟨v, hv, hgo⟩ := finish_verdict hc
  obtain ⟨p', hs⟩ := h v hv
  have hplan := hs.plan
  rw [hp] at hplan
  obtain rfl := Option.some.inj hplan
  refine ⟨v, evaluateAcceptance kit.meanScore s v, ?_⟩
  have hmode : (finish s).completionMode =
      some (if (evaluateAcceptance kit.meanScore s v).accepted &&
        (evaluateAcceptance kit.meanScore s v).partially then .partially else .full) := by
    simp only [finish, hs.acceptance, Option.any_some]
  cases hvalid : v.valid with
  | true =>
    obtain ⟨ha, hpart⟩ := acceptance_valid kit.meanScore hp hvalid
    rw [hpart, Bool.and_false] at hmode
    exact ⟨hp, hv, hs.acceptance, hs.validated, rfl, .inl hmode,
      ⟨fun _ => hvalid, fun _ => hmode⟩, fun h => by rw [hmode] at h; cases h⟩
  | false =>
    have ha : (evaluateAcceptance kit.meanScore s v).accepted = true := by
      simpa [hvalid, hs.acceptance] using hgo
    have htol := acceptance_invalid hp hvalid ha
    rw [ha, htol.partially] at hmode
    refine ⟨hp, hv, hs.acceptance, hs.validated, rfl, .inr hmode, ⟨fun h => ?_, fun h => ?_⟩,
      fun _ => htol⟩
    · rw [hmode] at h
      cases h
    · rw [hvalid] at h
      cases h

/-- The invariant of the loop: a verdict stands, and a completed run is over and justified. -/
structure Accounted (kit : Kit F D) (s : AgentState F D) : Prop where
  verdict : Verdict kit s
  finished : s.status = .completed → s.finished = true
  justified : s.status = .completed → ∃ p v r, Justified kit s p v r

theorem effect_accounted (h : Accounted kit s) (hs : s.finished = false) {a : AgentAction}
    {o : Outcome F D} (hd : decideNextAction kit s = .ok a) (he : Effect kit s a o) :
    Accounted kit o.state := by
  have hopen : s.status ≠ .completed := fun hc => by
    rw [h.finished hc] at hs
    cases hs
  by_cases ha : a = .finish
  · subst ha
    cases he with
    | faulted => exact h
    | retried => exact h
    | outOfTime => exact ⟨h.verdict.restatus _, nofun, nofun⟩
    | gaveUp => exact ⟨h.verdict.restatus _, nofun, nofun⟩
    | finished hq hk hp hf =>
      refine ⟨effect_verdict h.verdict hd (.finished hq hk hp hf), fun _ => rfl, ?_⟩
      exact fun _ => ⟨_, finish_justified h.verdict hq.plan hf⟩
  · have hstill : o.state.status ≠ .completed := mt ((effect_keeps he).completed ha) hopen
    exact ⟨effect_verdict h.verdict hd he, fun hc => absurd hc hstill, fun hc => absurd hc hstill⟩

/-- The invariants of the loop together, with the budget that the run was given. -/
structure Sound (kit : Kit F D) (budget : ExecutionBudget) (s : AgentState F D) : Prop where
  phased : Phased kit s
  accounted : Accounted kit s
  budget : s.budget = budget

theorem step_sound {budget : ExecutionBudget} {t : AgentState F D} {reply : ToolReply F D}
    (h : Sound kit budget s) (hstep : step kit s reply = some t) : Sound kit budget t := by
  obtain ⟨hs, a, hd, rfl⟩ := step_some kit hstep
  have he := execute_effect h.phased (decide_chosen hd) reply
  exact ⟨effect_phased h.phased he, effect_accounted h.accounted hs hd he,
    (effect_keeps he).budget.trans h.budget⟩

omit [DecidableEq F] in
theorem create_accounted [DecidableEq F] (request : TripRequest) (budget : ExecutionBudget) :
    Accounted kit (AgentState.create request budget) :=
  ⟨nofun, nofun, nofun⟩

/-- A run that completes has a verdict and a report on exactly the plan and the
reports that it ends with, in full if the plan is valid and else within the limits. -/
theorem completed_runs_are_justified (kit : Kit F D) (request : TripRequest)
    (budget : ExecutionBudget) (replies : List (ToolReply F D)) (s : AgentState F D)
    (h : run (step kit) (AgentState.create request budget) replies = some s)
    (hc : s.status = .completed) : s.budget = budget ∧ ∃ p v r, Justified kit s p v r := by
  have hstart : Sound kit budget (AgentState.create request budget) :=
    ⟨create_phased request budget, create_accounted request budget, rfl⟩
  have hsound := run_invariant (fun _ _ _ => step_sound) hstart h
  exact ⟨hsound.budget, hsound.accounted.justified hc⟩

/-- The validator finds that the plan has no suggestions. -/
def blandKit : Kit Unit Unit :=
  { plainKit with
    validate := fun _ =>
      .ok (.fromIssues [⟨"plan.empty_suggestions", .error, "行程缺少总体建议", true⟩]) }

def wrapUp : List (ToolReply Unit Unit) :=
  preparations ++ [.failure .retry, .success (.document ()) .retry, .failure .retry,
    .failure .retry, .failure .retry, .failure .retry]

theorem bland_plan_goes_out :
    ∃ s, run (step blandKit) (AgentState.create drivingTrip {}) wrapUp = some s ∧
      s.completionMode = some .partially ∧ ∃ p v r, Justified blandKit s p v r := by
  have hend : (run (step blandKit) (AgentState.create drivingTrip {}) wrapUp).any
      (fun s => s.status == .completed && s.completionMode == some .partially) = true := by
    decide +kernel
  cases hrun : run (step blandKit) (AgentState.create drivingTrip {}) wrapUp with
  | none =>
    rw [hrun] at hend
    cases hend
  | some s =>
    simp only [hrun, Option.any_some, Bool.and_eq_true, beq_iff_eq] at hend
    exact ⟨s, rfl, hend.2,
      (completed_runs_are_justified blandKit drivingTrip {} wrapUp s hrun hend.1).2⟩

end TravelAgent.Agent

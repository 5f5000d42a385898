import TravelAgent.AgentFrames
import TravelAgent.AgentSession

namespace TravelAgent.AgentSession

open TravelAgent.Itinerary TravelAgent.ContentRebuild TravelAgent.Agent TravelAgent.Transition

variable {F D : Type} [DecidableEq F] {kit : Kit F D} {s : AgentState F D}

/-- The counters of the repairs, the optimisations and the nearby searches; whoever asks for
a search has one left. -/
structure Bounded (s : AgentState F D) : Prop where
  repairs : s.repairCount ≤ s.budget.maxRepairAttempts
  routes : s.route.count ≤ s.budget.maxRouteOptimizationAttempts
  schedules : s.schedule.count ≤ s.budget.maxScheduleOptimizationAttempts
  constraints : s.constraint.count ≤ s.budget.maxConstraintOptimizationAttempts
  replacements : s.commute.replacementCount ≤ s.budget.maxCommuteReplacementAttempts
  refills : s.refill.count ≤ s.budget.maxContentRefillAttempts
  commuteSearches : s.commute.supplementSearchCount ≤ s.budget.maxCommuteSupplementSearches
  refillSearches : s.refill.supplementSearchCount ≤ s.budget.maxCommuteSupplementSearches
  commuteAsks : s.commute.status = .supplementNeeded →
    s.commute.supplementSearchCount < s.budget.maxCommuteSupplementSearches
  refillAsks : s.refill.status = .supplementNeeded →
    s.refill.supplementSearchCount < s.budget.maxCommuteSupplementSearches

omit [DecidableEq F] in
theorem bounded_create (request : TripRequest) (budget : ExecutionBudget) :
    Bounded (AgentState.create request budget : AgentState F D) :=
  ⟨Nat.zero_le _, Nat.zero_le _, Nat.zero_le _, Nat.zero_le _, Nat.zero_le _, Nat.zero_le _,
    Nat.zero_le _, Nat.zero_le _, nofun, nofun⟩

theorem searchAsked_commute (hs : SearchAsked kit s) (h : s.refill.status ≠ .supplementNeeded) :
    s.commute.status = .supplementNeeded := by
  obtain ⟨-, -, -, hasks⟩ | ⟨-, -, -, -, hasks⟩ := hs
  · exact absurd hasks h
  · exact hasks

omit [DecidableEq F] in
theorem bounded_endSearch (h : Bounded s)
    (hs : s.refill.status ≠ .supplementNeeded → s.commute.status = .supplementNeeded)
    {status : SearchingStatus} (hstatus : status ≠ .supplementNeeded) :
    Bounded (endSearch s status) := by
  unfold endSearch
  split
  · rename_i hrefill
    exact ⟨h.repairs, h.routes, h.schedules, h.constraints, h.replacements, h.refills,
      h.commuteSearches, h.refillAsks hrefill, h.commuteAsks, nofun⟩
  · rename_i hrefill
    exact ⟨h.repairs, h.routes, h.schedules, h.constraints, h.replacements, h.refills,
      h.commuteAsks (hs hrefill), h.refillSearches, fun hneeded => absurd hneeded hstatus,
      h.refillAsks⟩

theorem commuteStatusAfter_asks {f : F} {recommended : Bool}
    (h : commuteStatusAfter s f recommended = .supplementNeeded) :
    s.commute.status = .supplementNeeded := by
  unfold commuteStatusAfter at h
  split at h
  · cases h
  · split at h
    · cases h
    · exact h

omit [DecidableEq F] in
theorem retryStatus_asks (count limit : Nat) : retryStatus count limit ≠ .supplementNeeded := by
  unfold retryStatus
  split
  · decide
  · decide

theorem repair_below {p : TripPlan} (h : chooseVerdict kit s p = .repairPlan) :
    s.repairCount < s.budget.maxRepairAttempts := by
  unfold chooseVerdict at h
  split at h
  · cases h
  · split at h
    · cases h
    · split at h
      · rename_i hr
        exact hr.2
      · cases h

omit [DecidableEq F] in
theorem routeWanted_below (h : routeWanted s = true) :
    s.route.count < s.budget.maxRouteOptimizationAttempts := by
  simp only [routeWanted, Bool.and_eq_true, decide_eq_true_eq] at h
  exact h.2

omit [DecidableEq F] in
theorem refillNeeded_below {p : TripPlan} (h : refillNeeded s p = true) :
    s.refill.count < s.budget.maxContentRefillAttempts := by
  simp only [refillNeeded, Bool.and_eq_true, decide_eq_true_eq] at h
  exact h.2

theorem effect_bounded (h : Bounded s) {a : AgentAction} {o : Outcome F D}
    (he : Effect kit s a o) : Bounded o.state := by
  cases he
  case faulted | retried => exact h
  case supplemented pool hs _ _ =>
    have hpool :
        Bounded (invalidate { s with attractions := some pool } [.constraints, .validation]) :=
      ⟨h.repairs, h.routes, h.schedules, h.constraints, h.replacements, h.refills,
        h.commuteSearches, h.refillSearches, h.commuteAsks, h.refillAsks⟩
    have hcommute := searchAsked_commute hs
    exact bounded_endSearch hpool hcommute (by decide)
  case searchFailed hs _ => exact bounded_endSearch h (searchAsked_commute hs) (by decide)
  all_goals constructor <;> dsimp only [done, raised, applyGenerated, applyRepaired,
    clearRouteAnalysis, clearCommuteAnalysis, clearConstraintAnalysis, dropRoutes, invalidate,
    withRoutes, withRouteReport, withSchedule, withCommute, withConstraints, withContent,
    withValidation, finish, rechecked, installPlan, installRoutes, installSchedule,
    installConstraints, installReplacement, installRefill, settleRoutes, settleSchedule,
    settleConstraints, settleRefill, acceptReplacement, revertRoutes, revertSchedule,
    revertConstraints, revertReplacement, revertRefill, restorePlan, restoreSchedule,
    restoreConstraints, synchronize, skipRoutes, skipSchedule, skipConstraints, skipReplacement,
    endRefill, searchReplacement, searchRefill, RouteOptimization.cleared,
    ScheduleOptimization.cleared, ConstraintOptimization.cleared, CommuteOptimization.cleared,
    ContentRefill.cleared, reduceIte, Bool.false_eq_true]
  all_goals first
    | exact h.repairs
    | exact h.routes
    | exact h.schedules
    | exact h.constraints
    | exact h.replacements
    | exact h.refills
    | exact h.commuteSearches
    | exact h.refillSearches
    | exact h.commuteAsks
    | exact h.refillAsks
    | exact Nat.zero_le _
    | skip
  case repaired.repairs hv => exact repair_below hv
  case routesInstalled.routes hw _ => exact routeWanted_below hw
  case scheduleInstalled.schedules hn _ => exact hn
  case constraintsInstalled.constraints hn _ => exact hn
  case replacementInstalled.replacements hn _ => exact hn
  case refillInstalled.refills hn _ => exact refillNeeded_below hn
  case generated.commuteAsks | repaired.commuteAsks | routesInstalled.commuteAsks |
      scheduleInstalled.commuteAsks | constraintsInstalled.commuteAsks |
      replacementSkipped.commuteAsks | replacementInstalled.commuteAsks |
      refillInstalled.commuteAsks | refillAccepted.refillAsks | refillSkipped.refillAsks |
      refillInstalled.refillAsks => exact fun ho => nomatch ho
  case replacementAccepted.commuteAsks =>
    intro ho
    split at ho
    · exact absurd ho (retryStatus_asks _ _)
    · cases ho
  case replacementSearched.commuteAsks hn => exact fun _ => hn
  case refillSearched.refillAsks hn => exact fun _ => hn
  case refillReverted.refillAsks => exact fun ho => absurd ho (retryStatus_asks _ _)
  case commuteEvaluated.commuteAsks => exact fun ho => h.commuteAsks (commuteStatusAfter_asks ho)
  case replacementReverted.commuteAsks => exact fun ho => absurd ho (retryStatus_asks _ _)

/-- The compressed actions of a step. -/
def Session.localActions (s : Session F D) (step : Nat) : Nat :=
  s.executions.countP fun e => e.compressed && decide (e.step = step)

/-- Every counter is within its limit, and so is every step. -/
structure Within (budget : ExecutionBudget) (s : Session F D) : Prop where
  steps : s.currentStep ≤ budget.maxSteps
  toolCalls : s.toolCallCount ≤ budget.maxToolCalls
  llmCalls : s.llmCallCount ≤ budget.maxLlmCalls
  repairs : s.agent.repairCount ≤ budget.maxRepairAttempts
  routes : s.agent.route.count ≤ budget.maxRouteOptimizationAttempts
  schedules : s.agent.schedule.count ≤ budget.maxScheduleOptimizationAttempts
  constraints : s.agent.constraint.count ≤ budget.maxConstraintOptimizationAttempts
  replacements : s.agent.commute.replacementCount ≤ budget.maxCommuteReplacementAttempts
  refills : s.agent.refill.count ≤ budget.maxContentRefillAttempts
  commuteSearches : s.agent.commute.supplementSearchCount ≤ budget.maxCommuteSupplementSearches
  refillSearches : s.agent.refill.supplementSearchCount ≤ budget.maxCommuteSupplementSearches
  batches : ∀ step, s.localActions step ≤ budget.maxLocalActionsPerStep

/-- The invariant of a session. Nothing has been executed in a step that is still to come. -/
structure Sound (kit : Kit F D) (budget : ExecutionBudget) (s : Session F D) : Prop where
  phased : Phased kit s.agent
  bounded : Bounded s.agent
  given : s.agent.budget = budget
  steps : s.currentStep ≤ budget.maxSteps
  toolCalls : s.toolCallCount ≤ budget.maxToolCalls
  llmCalls : s.llmCallCount ≤ budget.maxLlmCalls
  past : ∀ e ∈ s.executions, e.step ≤ s.currentStep
  batches : ∀ step, s.localActions step ≤ budget.maxLocalActionsPerStep

variable {rt : Runtime F D} {budget : ExecutionBudget} {s s' : Session F D} {w w' : World F D}

omit [DecidableEq F] in
theorem Sound.within (h : Sound kit budget s) : Within budget s := by
  obtain ⟨-, hb, rfl, hsteps, htool, hllm, -, hbatches⟩ := h
  exact ⟨hsteps, htool, hllm, hb.repairs, hb.routes, hb.schedules, hb.constraints,
    hb.replacements, hb.refills, hb.commuteSearches, hb.refillSearches, hbatches⟩

omit [DecidableEq F] in
theorem Bounded.withStatus {s : AgentState F D} (h : Bounded s) (status : AgentStatus) :
    Bounded { s with status := status } :=
  ⟨h.repairs, h.routes, h.schedules, h.constraints, h.replacements, h.refills,
    h.commuteSearches, h.refillSearches, h.commuteAsks, h.refillAsks⟩

omit [DecidableEq F] in
theorem Sound.withStatus (h : Sound kit budget s) (status : AgentStatus) :
    Sound kit budget (s.withStatus status) :=
  ⟨h.phased.frame rfl, h.bounded.withStatus status, h.given, h.steps, h.toolCalls, h.llmCalls,
    h.past, h.batches⟩

omit [DecidableEq F] in
theorem localActions_append {e : Execution} (h : s'.executions = s.executions ++ [e])
    (step : Nat) : s'.localActions step =
      s.localActions step + if e.compressed = true ∧ e.step = step then 1 else 0 := by
  rw [Session.localActions, h, List.countP_append]
  by_cases he : e.compressed = true ∧ e.step = step
  · simp [Session.localActions, he]
  · simp [Session.localActions, he]

omit [DecidableEq F] in
theorem localActions_ahead (h : ∀ e ∈ s.executions, e.step ≤ s.currentStep) {step : Nat}
    (hstep : s.currentStep < step) : s.localActions step = 0 := by
  rw [Session.localActions, List.countP_eq_zero]
  intro e he
  have hpast := h e he
  simp only [Bool.and_eq_true, decide_eq_true_eq, not_and]
  omega

/-- One call: of the step at hand one more action, of a new step none that is compressed. -/
theorem executed_sound (h : Sound rt.kit budget s) {a : AgentAction} {compressed : Bool}
    {result : Except Stop Bool} (he : Executed rt s a compressed s' result)
    (ha : decideNextAction rt.kit s.agent = .ok a)
    (hcounted : compressed = false → s.currentStep < budget.maxSteps)
    (hlocal : compressed = true → s.localActions s.currentStep < budget.maxLocalActionsPerStep) :
    Sound rt.kit budget s' ∧
      s'.localActions s'.currentStep =
        if compressed then s.localActions s.currentStep + 1 else 0 := by
  obtain ⟨reply, hreply⟩ := he.agent
  have heffect := execute_effect h.phased (decide_chosen ha) reply
  rw [hreply] at heffect
  have hcalls := he.calls
  rw [Session.budget, h.given] at hcalls
  have htool := h.toolCalls
  have hllm := h.llmCalls
  have hstep := he.step
  have hcount := localActions_append he.executions
  have hpast : ∀ e ∈ s'.executions, e.step ≤ s'.currentStep := by
    intro e hmem
    rw [he.executions] at hmem
    obtain hold | hnew := List.mem_append.mp hmem
    · have hle := h.past e hold
      cases compressed with
      | true =>
        rw [if_pos rfl] at hstep
        omega
      | false =>
        rw [if_neg Bool.false_ne_true] at hstep
        omega
    · rw [List.mem_singleton.mp hnew]
  have hlast : s'.localActions s'.currentStep =
      if compressed then s.localActions s.currentStep + 1 else 0 := by
    rw [hcount]
    cases compressed with
    | true => simp [hstep]
    | false =>
      simp only [Bool.false_eq_true, false_and, if_false, Nat.add_zero]
      apply localActions_ahead h.past
      rw [hstep, if_neg Bool.false_ne_true]
      exact Nat.lt_succ_self _
  refine ⟨⟨effect_phased h.phased heffect, effect_bounded h.bounded heffect,
    (effect_keeps heffect).budget.trans h.given, ?_, ?_, ?_, hpast, ?_⟩, hlast⟩
  · cases compressed with
    | true =>
      rw [hstep, if_pos rfl]
      exact h.steps
    | false =>
      rw [hstep, if_neg Bool.false_ne_true]
      exact hcounted rfl
  · omega
  · omega
  · intro step
    by_cases hat : compressed = true ∧ s'.currentStep = step
    · obtain ⟨rfl, rfl⟩ := hat
      rw [hlast, if_pos rfl]
      exact hlocal rfl
    · rw [hcount, if_neg hat]
      exact h.batches step

theorem recorded_sound (rt : Runtime F D) (s : Session F D) (h : Sound kit budget s')
    (key : AgentAction × F) :
    Sound kit budget (recordConvergence rt s s' key) ∧
      (recordConvergence rt s s' key).localActions
          (recordConvergence rt s s' key).currentStep = s'.localActions s'.currentStep := by
  unfold recordConvergence
  split
  · exact ⟨⟨h.phased, h.bounded, h.given, h.steps, h.toolCalls, h.llmCalls, h.past, h.batches⟩,
      rfl⟩
  · exact ⟨⟨h.phased, h.bounded, h.given, h.steps, h.toolCalls, h.llmCalls, h.past, h.batches⟩,
      rfl⟩

/-- Of the step under way as many compressed actions have been executed as the loop has counted. -/
structure Counted (rt : Runtime F D) (budget : ExecutionBudget) (w : World F D) : Prop where
  both : w.Both (Sound rt.kit budget)
  draining : ∀ n, w.phase = .draining n → w.live.localActions w.live.currentStep = n

omit [DecidableEq F] in
theorem Counted.save (h : Counted rt budget w) (hs : Sound rt.kit budget s) {phase : Phase}
    (hp : phase = .idle ∨ phase = .looping) (ended : Option Ended) (c : Checkpoint) :
    Counted rt budget (w.save s phase ended c) := by
  refine ⟨both_save h.both (fun _ status ht => ht.withStatus status) hs phase ended c, ?_⟩
  intro n hn
  cases c with
  | written =>
    obtain rfl | rfl := hp
    · cases hn
    · cases hn
  | failed => cases hn
  | abandoned => cases hn

/-- Whatever an attempt comes to, the session is sound. -/
theorem attempts_sound (h : Counted rt budget w) {a : AgentAction} {compressed : Bool}
    (ha : Acts rt w a compressed) {s' : Session F D} {result : Except Stop Bool}
    (he : Executed rt w.live a compressed s' result) :
    Sound rt.kit budget s' ∧
      s'.localActions s'.currentStep =
        if compressed then w.live.localActions w.live.currentStep + 1 else 0 := by
  have hgiven : w.live.budget = budget := h.both.1.given
  apply executed_sound h.both.1 he ha.chosen
  · intro hc
    rw [← hgiven]
    exact ha.counted hc
  · intro hc
    obtain ⟨n, hn, hlt⟩ := ha.drained hc
    rw [h.draining n hn, ← hgiven]
    exact hlt

theorem moves_counted (h : Counted rt budget w) (hm : Moves rt w w') : Counted rt budget w' := by
  cases hm with
  | dropped _ => exact ⟨h.both, nofun⟩
  | saved hp _ => exact h.save h.both.1 hp _ _
  | marked hp _ => exact h.save (h.both.1.withStatus _) hp _ _
  | stopped ha hattempt =>
    cases hattempt with
    | repeated hk hlimit => exact h.save (h.both.1.withStatus _) (Or.inl rfl) _ _
    | failed he => exact h.save (attempts_sound h ha he).1 (Or.inl rfl) _ _
    | stalled hk he hstreak =>
      have hs := (attempts_sound h ha he).1
      exact h.save ((recorded_sound rt w.live hs _).1.withStatus _) (Or.inl rfl) _ _
  | unsuccessful ha hattempt =>
    cases hattempt with
    | unsuccessful he => exact h.save (attempts_sound h ha he).1 (Or.inr rfl) _ _
  | counted ha hattempt =>
    cases hattempt with
    | successful hk he =>
      obtain ⟨hs, hcount⟩ := attempts_sound h ha he
      obtain ⟨hrecorded, hsame⟩ := recorded_sound rt w.live hs _
      refine ⟨⟨hrecorded, h.both.2⟩, ?_⟩
      rintro _ ⟨⟩
      exact hsame.trans hcount
  | compressed hn ha hattempt =>
    cases hattempt with
    | successful hk he =>
      obtain ⟨hs, hcount⟩ := attempts_sound h ha he
      obtain ⟨hrecorded, hsame⟩ := recorded_sound rt w.live hs _
      refine ⟨⟨hrecorded, h.both.2⟩, ?_⟩
      rintro _ ⟨⟩
      rw [hsame, hcount, if_pos rfl, h.draining _ hn]
  | reloaded hsaved => exact ⟨⟨h.both.2 _ hsaved, h.both.2⟩, nofun⟩

omit [DecidableEq F] in
theorem create_sound (request : TripRequest) (budget : ExecutionBudget) :
    Sound kit budget ({ agent := AgentState.create request budget } : Session F D) :=
  ⟨create_phased request budget, bounded_create request budget, rfl, Nat.zero_le _,
    Nat.zero_le _, Nat.zero_le _, nofun, fun _ => Nat.zero_le _⟩

omit [DecidableEq F] in
theorem create_counted (request : TripRequest) (budget : ExecutionBudget) :
    Counted rt budget (World.create request budget) := by
  refine ⟨⟨create_sound request budget, ?_⟩, ?_⟩
  · intro s hs
    cases hs
  · intro n hn
    cases hn

theorem run_counted {request : TripRequest} {events : List (Event F D)}
    (h : run (advance rt) (World.create request budget) events = some w) :
    Counted rt budget w :=
  run_invariant (fun _ _ _ hw he => moves_counted hw (advance_moves he))
    (create_counted request budget) h

/-- Through all calls of `run` and `resume`, whatever the tools return, and wherever they are
broken off, no counter of the session exceeds its limit, in memory or at a checkpoint. -/
theorem budgets_hold (rt : Runtime F D) (request : TripRequest) (budget : ExecutionBudget)
    (events : List (Event F D)) (w : World F D)
    (h : run (advance rt) (World.create request budget) events = some w) :
    Within budget w.live ∧ ∀ s, w.saved = some s → Within budget s := by
  have hcounted := run_counted h
  exact ⟨hcounted.both.1.within, fun s hs => (hcounted.both.2 s hs).within⟩

/-- Only the two planning tools ask a language model, and every digest collides. -/
def reorderingRuntime : Runtime Unit Unit :=
  { kit := reorderingKit
    digests := { business := fun _ => (), input := fun _ _ => () }
    llmCallCost := fun a => if a = .generatePlan ∨ a = .repairPlan then 1 else 0 }

def patientBudget : ExecutionBudget := { maxNoProgressSteps := 10 }

/-- Five steps up to the first estimates; a reordered plan goes in with the last one. -/
def fiveSteps : List (Event Unit Unit) :=
  .start .written :: preparations.flatMap fun r => [.round { reply := r }, .compressed {}]

theorem five_steps_within : ∃ w,
    run (advance reorderingRuntime) (World.create drivingTrip patientBudget) fiveSteps = some w ∧
      (w.live.currentStep = 5 ∧ w.live.toolCallCount = 5 ∧ w.live.llmCallCount = 1 ∧
        w.live.localActions 5 = 1 ∧ w.live.agent.route.count = 1) ∧
      Within patientBudget w.live ∧ ∀ s, w.saved = some s → Within patientBudget s :=
  ⟨_, rfl, ⟨rfl, rfl, rfl, rfl, rfl⟩,
    budgets_hold reorderingRuntime drivingTrip patientBudget fiveSteps _ rfl⟩

end TravelAgent.AgentSession

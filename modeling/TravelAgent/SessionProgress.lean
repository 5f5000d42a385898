import TravelAgent.RepeatedActions
import TravelAgent.SessionBudgets

namespace TravelAgent.AgentSession

open TravelAgent.Itinerary TravelAgent.ContentRebuild TravelAgent.Agent TravelAgent.Transition

variable {F D : Type} [DecidableEq F] {rt : Runtime F D} {budget : ExecutionBudget}
  {s s' : Session F D} {w w' : World F D}

omit [DecidableEq F] in
theorem failed_stop {before status : AgentStatus} {a : AgentAction} {result : Except Stop Bool}
    (h : Failed before a status result) : result ≠ .error .convergence := by
  obtain ⟨-, rfl⟩ | ⟨-, rfl⟩ | ⟨-, rfl⟩ := h
  · intro h
    cases h
  · intro h
    cases h
  · intro h
    cases h

/-- Only the loop itself stops for want of convergence. -/
theorem effect_stop {kit : Kit F D} {s : AgentState F D} {a : AgentAction} {o : Outcome F D}
    (he : Effect kit s a o) : o.result ≠ .error .convergence := by
  cases he
  case unscored hf | untimed hf => exact failed_stop hf
  all_goals
    intro h
    cases h

/-- What the convergence guard remembers: at most the last action that succeeded, and that one
is not chosen again on the same input. -/
inductive Remembers (rt : Runtime F D) (s : Session F D) : Prop where
  | nothing (h : s.successfulActionInputs = fun _ => 0)
  | last {t : AgentState F D} {a : AgentAction} {input : ActionInput F D}
      (hinput : actionInput rt.kit rt.digests t a = .ok input)
      (hsealed : Sealed rt.kit t s.agent a)
      (h : s.successfulActionInputs =
        Function.update (fun _ => 0) (a, rt.digests.input a input) 1)

/-- The invariant of a session that the convergence guard never stops. -/
structure Steady (rt : Runtime F D) (budget : ExecutionBudget) (s : Session F D) : Prop where
  phased : Phased rt.kit s.agent
  verdict : Verdict rt.kit s.agent
  given : s.agent.budget = budget
  streak : s.noProgressStreak = 0
  remembers : Remembers rt s

theorem successKey_ok {a : AgentAction} {key : AgentAction × F}
    (h : successKey rt s a = .ok key) :
    ∃ input, actionInput rt.kit rt.digests s.agent a = .ok input ∧
      key = (a, rt.digests.input a input) := by
  unfold successKey at h
  cases hinput : actionInput rt.kit rt.digests s.agent a with
  | error f =>
    rw [hinput] at h
    cases h
  | ok input =>
    rw [hinput] at h
    exact ⟨input, rfl, (Except.ok.inj h).symm⟩

/-- The key of the chosen action is new. -/
theorem chosen_unrepeated (hbusiness : Function.Injective rt.digests.business)
    (hdigest : ∀ a, Function.Injective (rt.digests.input a)) (h : Steady rt budget s)
    (hs : s.agent.finished = false) {a : AgentAction}
    (hd : decideNextAction rt.kit s.agent = .ok a) {key : AgentAction × F}
    (hk : successKey rt s a = .ok key) : s.successfulActionInputs key = 0 := by
  obtain ⟨input, hinput, rfl⟩ := successKey_ok hk
  cases h.remembers with
  | nothing hnothing => rw [hnothing]
  | @last t b last hlast hsealed hcounts =>
    rw [hcounts]
    apply Function.update_of_ne
    intro hsame
    obtain ⟨rfl, hprint⟩ := Prod.mk.inj hsame
    obtain rfl := hdigest a hprint
    exact hsealed.fresh hbusiness h.phased hs hd hlast hinput

/-- The status plays no part. -/
theorem sealed_restatus {kit : Kit F D} {s u : AgentState F D} {a : AgentAction}
    (h : Sealed kit s u a) (status : AgentStatus) : Sealed kit s { u with status := status } a := by
  cases a <;> exact h

theorem Steady.withStatus (h : Steady rt budget s) (status : AgentStatus) :
    Steady rt budget (s.withStatus status) := by
  refine ⟨h.phased.frame rfl, h.verdict.restatus status, h.given, h.streak, ?_⟩
  cases h.remembers with
  | nothing hnothing => exact .nothing hnothing
  | last hinput hsealed hcounts => exact .last hinput (sealed_restatus hsealed status) hcounts

/-- One call of `execute_action` as an effect on the state. -/
theorem executed_effect (h : Steady rt budget s) {a : AgentAction} {compressed : Bool}
    {result : Except Stop Bool} (he : Executed rt s a compressed s' result)
    (hd : decideNextAction rt.kit s.agent = .ok a) :
    Effect rt.kit s.agent a ⟨s'.agent, result⟩ := by
  obtain ⟨reply, hreply⟩ := he.agent
  have heffect := execute_effect h.phased (decide_chosen hd) reply
  rw [hreply] at heffect
  exact heffect

/-- Without success the guard goes on with what it knows. -/
theorem failed_steady (h : Steady rt budget s) {a : AgentAction} {compressed : Bool}
    {result : Except Stop Bool} (he : Executed rt s a compressed s' result)
    (hd : decideNextAction rt.kit s.agent = .ok a) (hresult : result ≠ .ok true) :
    Steady rt budget s' := by
  have heffect := executed_effect h he hd
  refine ⟨effect_phased h.phased heffect, effect_verdict h.verdict hd heffect,
    (effect_keeps heffect).budget.trans h.given, he.streak.trans h.streak, ?_⟩
  cases h.remembers with
  | nothing hnothing => exact .nothing (he.inputs.trans hnothing)
  | last hinput hsealed hcounts =>
    exact .last hinput (hsealed.keeps hd heffect hresult) (he.inputs.trans hcounts)

/-- With success the business data has changed, and the guard starts again. -/
theorem succeeded_steady (hbusiness : Function.Injective rt.digests.business)
    (h : Steady rt budget s) (hs : s.agent.finished = false) {a : AgentAction}
    {compressed : Bool} (he : Executed rt s a compressed s' (.ok true))
    (hd : decideNextAction rt.kit s.agent = .ok a) {key : AgentAction × F}
    (hk : successKey rt s a = .ok key) : Steady rt budget (recordConvergence rt s s' key) := by
  have heffect := executed_effect h he hd
  have hmoved := effect_progress h.verdict hs heffect rfl
  obtain ⟨input, hinput, rfl⟩ := successKey_ok hk
  rw [recordConvergence, if_neg (hbusiness.ne hmoved)]
  exact ⟨effect_phased h.phased heffect, effect_verdict h.verdict hd heffect,
    (effect_keeps heffect).budget.trans h.given, rfl,
    .last hinput (effect_sealed hd heffect rfl) rfl⟩

/-- Every session that is kept is steady, and no call has been ended by the guard. -/
structure Unstopped (rt : Runtime F D) (budget : ExecutionBudget) (w : World F D) : Prop where
  both : w.Both (Steady rt budget)
  ended : w.ended ≠ some (.raised .convergence)

theorem Unstopped.save (h : Unstopped rt budget w) (hs : Steady rt budget s) (phase : Phase)
    {ended : Option Ended} (he : ended ≠ some (.raised .convergence)) (c : Checkpoint) :
    Unstopped rt budget (w.save s phase ended c) := by
  refine ⟨both_save h.both (fun _ status ht => ht.withStatus status) hs phase ended c, ?_⟩
  cases c with
  | written => exact he
  | failed =>
    intro hstop
    cases hstop
  | abandoned =>
    intro hstop
    cases hstop

theorem moves_unstopped (hbusiness : Function.Injective rt.digests.business)
    (hdigest : ∀ a, Function.Injective (rt.digests.input a))
    (hrepeat : 1 ≤ budget.maxRepeatedActionInputs) (h : Unstopped rt budget w)
    (hm : Moves rt w w') : Unstopped rt budget w' := by
  cases hm with
  | dropped he => exact ⟨h.both, fun hstop => he (Option.some.inj hstop)⟩
  | saved _ he => exact h.save h.both.1 _ he _
  | marked _ he => exact h.save (h.both.1.withStatus _) _ he _
  | stopped ha hattempt =>
    cases hattempt with
    | repeated hk hlimit =>
      rw [chosen_unrepeated hbusiness hdigest h.both.1 ha.running ha.chosen hk, Session.budget,
        h.both.1.given] at hlimit
      omega
    | failed he =>
      have hstop := effect_stop (executed_effect h.both.1 he ha.chosen)
      apply h.save (failed_steady h.both.1 he ha.chosen _)
      · rintro ⟨⟩
        exact hstop rfl
      · intro hresult
        cases hresult
    | stalled hk he hstreak =>
      exact absurd (succeeded_steady hbusiness h.both.1 ha.running he ha.chosen hk).streak hstreak
  | unsuccessful ha hattempt =>
    cases hattempt with
    | unsuccessful he =>
      apply h.save (failed_steady h.both.1 he ha.chosen _)
      · intro hstop
        cases hstop
      · intro hresult
        cases hresult
  | counted ha hattempt =>
    cases hattempt with
    | successful hk he =>
      exact ⟨⟨succeeded_steady hbusiness h.both.1 ha.running he ha.chosen hk, h.both.2⟩, h.ended⟩
  | compressed _ ha hattempt =>
    cases hattempt with
    | successful hk he =>
      exact ⟨⟨succeeded_steady hbusiness h.both.1 ha.running he ha.chosen hk, h.both.2⟩, h.ended⟩
  | reloaded hsaved =>
    refine ⟨⟨h.both.2 _ hsaved, h.both.2⟩, ?_⟩
    intro hstop
    cases hstop

theorem create_unstopped (request : TripRequest) (budget : ExecutionBudget) :
    Unstopped rt budget (World.create request budget) := by
  refine ⟨⟨⟨create_phased request budget, ?_, rfl, rfl, .nothing rfl⟩, ?_⟩, ?_⟩
  · intro v hv
    cases hv
  · intro s hs
    cases hs
  · intro hstop
    cases hstop

/-- The guard never stops a session: whatever has gone before, the action that is chosen next
changes the business data whenever it succeeds. -/
theorem choice_progresses (rt : Runtime F D) (hbusiness : Function.Injective rt.digests.business)
    (hdigest : ∀ a, Function.Injective (rt.digests.input a)) (request : TripRequest)
    (budget : ExecutionBudget) (hrepeat : 1 ≤ budget.maxRepeatedActionInputs)
    (events : List (Event F D)) (w : World F D)
    (h : run (advance rt) (World.create request budget) events = some w) :
    (w.live.noProgressStreak = 0 ∧ ∀ s, w.saved = some s → s.noProgressStreak = 0) ∧
      w.ended ≠ some (.raised .convergence) ∧
      ∀ a reply, w.live.agent.finished = false →
        decideNextAction rt.kit w.live.agent = .ok a →
        (executeAction rt.kit w.live.agent a reply).result = .ok true →
        rt.digests.business (businessState (executeAction rt.kit w.live.agent a reply).state) ≠
          rt.digests.business (businessState w.live.agent) := by
  have hw : Unstopped rt budget w :=
    run_invariant (fun _ _ _ hv he => moves_unstopped hbusiness hdigest hrepeat hv
      (advance_moves he)) (create_unstopped request budget) h
  refine ⟨⟨hw.both.1.streak, fun s hs => (hw.both.2 s hs).streak⟩, hw.ended, ?_⟩
  intro a reply hs hd hresult
  have heffect := execute_effect hw.both.1.phased (decide_chosen hd) reply
  exact hbusiness.ne (effect_progress hw.both.1.verdict hs heffect hresult).symm

/-- A digest that keeps what it has been taken of. -/
inductive Imprint where
  | plain
  | business (b : BusinessState Imprint Unit)
  | input (a : AgentAction) (i : ActionInput Imprint Unit)

/-- Every check of the plan passes at once. -/
def imprintKit : Kit Imprint Unit where
  routeDigest _ := .plain
  snapshotDigest _ _ := .plain
  constraintPlanDigest _ := .plain
  constraintDigest _ := .plain
  validationDigest _ := .plain
  restaurantDigest _ := .plain
  contentDigest _ := .plain
  evaluateRouteQuality _ _ := .ok ⟨0, 0, 0, 100, false, ()⟩
  evaluateCommute _ _ _ := .ok ⟨.plain, 0, 0, false, [], ()⟩
  evaluateSchedule _ _ _ := .ok ⟨0, 0, 0, 0, 100, false, ()⟩
  evaluateConstraints _ _ _ _ _ := .ok ⟨.plain, 0, 0, 100, false, ()⟩
  validate _ := .ok ⟨true, false, []⟩
  optimizeRoutes _ := .ok none
  optimizeSchedule _ _ _ := .ok none
  optimizeConstraints _ _ _ _ _ := .ok none
  optimizeCommute _ _ _ _ _ := .ok none
  optimizeRefill _ _ _ _ := .ok none
  buildQuery _ _ _ _ := .ok none
  buildContentRefillQuery _ _ _ := .ok none
  merge _ d := .ok d
  timeline _ := ()
  rebuilder _ _ := plainRebuilder
  sources _ _ := ⟨fun _ => ("", ""), fun _ => ("", "")⟩
  improvementPercent _ _ := 0
  meanScore a b c d e := (a + b + c + d + e) / 5

def imprintRuntime : Runtime Imprint Unit :=
  { kit := imprintKit
    digests := { business := .business, input := .input }
    llmCallCost := fun a => if a = .generatePlan ∨ a = .repairPlan then 1 else 0 }

def foundAttractions : ToolReply Imprint Unit := .success (.document ()) .giveUp

open Classical in
theorem first_step_progresses :
    (∃ w, run (advance imprintRuntime) (World.create drivingTrip {})
        [.start .written, .round { reply := foundAttractions }] = some w ∧
      w.live.noProgressStreak = 0 ∧ w.ended ≠ some (.raised .convergence)) ∧
    ∃ w, run (advance imprintRuntime) (World.create drivingTrip {}) [.start .written] = some w ∧
      Imprint.business (businessState
          (executeAction imprintKit w.live.agent .searchAttractions foundAttractions).state) ≠
        Imprint.business (businessState w.live.agent) := by
  have hbusiness : Function.Injective imprintRuntime.digests.business :=
    fun _ _ => Imprint.business.inj
  have hinput (a : AgentAction) : Function.Injective (imprintRuntime.digests.input a) :=
    fun _ _ h => (Imprint.input.inj h).2
  obtain ⟨⟨hstreak, -⟩, hended, -⟩ := choice_progresses imprintRuntime hbusiness hinput
    drivingTrip {} le_rfl [.start .written, .round { reply := foundAttractions }] _ rfl
  obtain ⟨-, -, hmoved⟩ := choice_progresses imprintRuntime hbusiness hinput drivingTrip {} le_rfl
    [.start .written] _ rfl
  exact ⟨⟨_, rfl, hstreak, hended⟩, _, rfl, hmoved .searchAttractions foundAttractions rfl rfl rfl⟩

end TravelAgent.AgentSession

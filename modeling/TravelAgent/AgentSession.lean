import TravelAgent.ActionInputs
import TravelAgent.AgentExecute

namespace TravelAgent.AgentSession

open TravelAgent.Itinerary TravelAgent.Agent

/-- One call of `execute_action`; a compressed one shares the step of its root action. -/
structure Execution where
  step : Nat
  action : AgentAction
  compressed : Bool
deriving DecidableEq

variable (F D : Type)

/-- The state that is saved, with its counters. `executions` is the record of the calls that
have been made. -/
structure Session where
  agent : AgentState F D
  currentStep : Nat := 0
  toolCallCount : Nat := 0
  llmCallCount : Nat := 0
  successfulActionInputs : AgentAction × F → Nat := fun _ => 0
  noProgressStreak : Nat := 0
  noProgressTotal : Nat := 0
  executions : List Execution := []

/-- How `_checkpoint` ends: a cancellation or a lost lease is noticed before anything is
written. -/
inductive Checkpoint where
  | written
  | failed
  | abandoned
deriving DecidableEq

/-- How a call of `run` or `resume` ends. -/
inductive Ended where
  | returned
  | raised (stop : Stop)
  | checkpointFailed
  | abandoned
deriving DecidableEq

/-- What the clock, the breaker, the tools and the store do while an action is chosen and
executed. -/
structure Turn where
  /-- The deadline has passed when the loop asks. -/
  late : Bool := false
  /-- It has passed when the tool is to be called. -/
  lateCall : Bool := false
  circuitOpen : Bool := false
  reply : ToolReply F D := .failure .giveUp
  checkpoint : Checkpoint := .written

inductive Phase where
  /-- Neither `run` nor `resume` is under way. -/
  | idle
  | looping
  /-- Of the step so far this many compressed actions have been executed. -/
  | draining (executed : Nat)
deriving DecidableEq

inductive Event where
  /-- A call of `run` or `resume` reaches `_run_state`. -/
  | start (checkpoint : Checkpoint)
  | round (t : Turn F D)
  | compressed (t : Turn F D)
  /-- A cancellation, a lost lease or a dead process ends the call. -/
  | abort
  /-- The session goes on from its last checkpoint. -/
  | reload

/-- The session in memory, its last checkpoint and how the last call ended. -/
structure World where
  live : Session F D
  saved : Option (Session F D) := none
  phase : Phase := .idle
  ended : Option Ended := none

variable {F D}

/-- What the session is run with: the orchestrator, the digests of the convergence guard and
the LLM calls that each tool costs. -/
structure Runtime (F D : Type) where
  kit : Kit F D
  digests : Digests F D
  llmCallCost : AgentAction → Nat

def World.create (request : TripRequest) (budget : ExecutionBudget) : World F D :=
  { live := { agent := AgentState.create request budget } }

def Session.budget (s : Session F D) : ExecutionBudget := s.agent.budget

def Session.withStatus (s : Session F D) (status : AgentStatus) : Session F D :=
  { s with agent := { s.agent with status := status } }

/-- The call ends without a checkpoint. -/
def World.drop (w : World F D) (s : Session F D) (e : Ended) : World F D :=
  { w with live := s, phase := .idle, ended := some e }

/-- The call ends with one, or goes on after it. -/
def World.save (w : World F D) (s : Session F D) (phase : Phase) (ended : Option Ended) :
    Checkpoint → World F D
  | .written => { live := s, saved := some s, phase, ended }
  | .failed => w.drop (s.withStatus .failed) .checkpointFailed
  | .abandoned => w.drop s .abandoned

def World.leave (w : World F D) (s : Session F D) (stop : Stop) (c : Checkpoint) : World F D :=
  w.save s .idle (some (.raised stop)) c

def World.goOn (w : World F D) (s : Session F D) (c : Checkpoint) : World F D :=
  w.save s .looping none c

variable [DecidableEq F] (rt : Runtime F D)

/-- `_pre_call_budget_reason` -/
def overBudget (s : Session F D) (action : AgentAction) (late : Bool) : Bool :=
  late || decide (s.budget.maxToolCalls < s.toolCallCount + 1) ||
    decide (s.budget.maxLlmCalls < s.llmCallCount + rt.llmCallCost action)

/-- `execute_once`: the reply that comes of it. -/
def executeOnce (s : Session F D) (action : AgentAction) (t : Turn F D) :
    Session F D × ToolReply F D :=
  if overBudget rt s action t.lateCall then (s, .failure .outOfTime)
  else if t.circuitOpen then (s, .failure .giveUp)
  else
    ({ s with
        toolCallCount := s.toolCallCount + 1
        llmCallCount := s.llmCallCount + rt.llmCallCost action }, t.reply)

/-- A local action calls no tool, and neither does one whose payload cannot be built. -/
def callTool (s : Session F D) (action : AgentAction) (t : Turn F D) :
    Session F D × ToolReply F D :=
  if action.compressible then (s, t.reply)
  else
    match buildToolPayload rt.kit s.agent action with
    | .error _ => (s, t.reply)
    | .ok _ => executeOnce rt s action t

def Session.entered (s : Session F D) (action : AgentAction) (compressed : Bool) : Session F D :=
  let step := if compressed then s.currentStep else s.currentStep + 1
  { s with currentStep := step, executions := s.executions ++ [⟨step, action, compressed⟩] }

/-- `execute_action` with the counters of the session. -/
def execute (s : Session F D) (action : AgentAction) (compressed : Bool) (t : Turn F D) :
    Session F D × Except Stop Bool :=
  let (s, reply) := callTool rt (s.entered action compressed) action t
  let o := executeAction rt.kit s.agent action reply
  ({ s with agent := o.state }, o.result)

def successKey (s : Session F D) (action : AgentAction) : Except Fault (AgentAction × F) :=
  (actionInput rt.kit rt.digests s.agent action).map fun input =>
    (action, rt.digests.input action input)

/-- `_record_convergence_result`, up to the exception. -/
def recordConvergence (before s : Session F D) (key : AgentAction × F) : Session F D :=
  if rt.digests.business (businessState before.agent) =
      rt.digests.business (businessState s.agent) then
    { s with
      successfulActionInputs :=
        Function.update s.successfulActionInputs key (s.successfulActionInputs key + 1)
      noProgressStreak := s.noProgressStreak + 1
      noProgressTotal := s.noProgressTotal + 1 }
  else
    { s with
      successfulActionInputs := Function.update (fun _ => 0) key 1
      noProgressStreak := 0 }

/-- How the loop goes on after one action. -/
inductive Attempted (F D : Type) where
  /-- Raised before anything is executed. -/
  | refused (f : Fault)
  | stopped (s : Session F D) (stop : Stop)
  | unsuccessful (s : Session F D)
  | successful (s : Session F D)

/-- One action from its choice to the record of its result. -/
def attempt (s : Session F D) (action : AgentAction) (compressed : Bool) (t : Turn F D) :
    Attempted F D :=
  match successKey rt s action with
  | .error f => .refused f
  | .ok key =>
    if s.budget.maxRepeatedActionInputs ≤ s.successfulActionInputs key then
      .stopped (s.withStatus .convergenceStopped) .convergence
    else
      match execute rt s action compressed t with
      | (s', .error stop) => .stopped s' stop
      | (s', .ok false) => .unsuccessful s'
      | (s', .ok true) =>
        let recorded := recordConvergence rt s s' key
        if recorded.noProgressStreak ≠ 0 ∧
            recorded.budget.maxNoProgressSteps ≤ recorded.noProgressStreak then
          .stopped (recorded.withStatus .convergenceStopped) .convergence
        else .successful recorded

/-- One pass of the loop in `_run_state`. -/
def loopRound (w : World F D) (t : Turn F D) : World F D :=
  let s := w.live
  if s.agent.finished then w.drop s .returned
  else if s.budget.maxSteps ≤ s.currentStep then
    w.leave (s.withStatus .maxStepsReached) .maxSteps t.checkpoint
  else if t.late then w.leave (s.withStatus .budgetExhausted) .budgetExceeded t.checkpoint
  else
    match decideNextAction rt.kit s.agent with
    | .error f => w.drop s (.raised (.escaped f))
    | .ok action =>
      match attempt rt s action false t with
      | .refused f => w.drop s (.raised (.escaped f))
      | .stopped s stop => w.leave s stop t.checkpoint
      | .unsuccessful s => w.goOn s t.checkpoint
      | .successful s => { w with live := s, phase := .draining 0 }

/-- One pass of the loop in `_drain_local_actions`. -/
def drainRound (w : World F D) (executed : Nat) (t : Turn F D) : World F D :=
  let s := w.live
  if s.budget.maxLocalActionsPerStep ≤ executed ∨ s.agent.finished then w.goOn s t.checkpoint
  else if t.late then w.leave (s.withStatus .budgetExhausted) .budgetExceeded t.checkpoint
  else
    match decideNextAction rt.kit s.agent with
    | .error f => w.leave s (.escaped f) t.checkpoint
    | .ok action =>
      if action.compressible then
        match attempt rt s action true t with
        | .refused f => w.leave s (.escaped f) t.checkpoint
        | .stopped s stop => w.leave s stop t.checkpoint
        | .unsuccessful s => w.goOn s t.checkpoint
        | .successful s => { w with live := s, phase := .draining (executed + 1) }
      else w.goOn s t.checkpoint

/-- A finished session is handed back as it is. -/
def runState (w : World F D) (c : Checkpoint) : World F D :=
  if w.live.agent.finished then w.drop w.live .returned
  else w.goOn (w.live.withStatus .running) c

def advance (w : World F D) : Event F D → Option (World F D)
  | .start c => if w.phase = .idle then some (runState w c) else none
  | .round t => if w.phase = .looping then some (loopRound rt w t) else none
  | .compressed t =>
    match w.phase with
    | .draining executed => some (drainRound rt w executed t)
    | _ => none
  | .abort => if w.phase = .idle then none else some (w.drop w.live .abandoned)
  | .reload => w.saved.map fun s => { w with live := s, phase := .idle, ended := none }

variable {rt} {s s' : Session F D} {w w' : World F D}

/-- What a call of `execute_action` does to the session. -/
structure Executed (rt : Runtime F D) (s : Session F D) (a : AgentAction) (compressed : Bool)
    (s' : Session F D) (result : Except Stop Bool) : Prop where
  agent : ∃ reply, executeAction rt.kit s.agent a reply = ⟨s'.agent, result⟩
  step : s'.currentStep = if compressed then s.currentStep else s.currentStep + 1
  executions : s'.executions = s.executions ++ [⟨s'.currentStep, a, compressed⟩]
  calls : (s'.toolCallCount = s.toolCallCount ∧ s'.llmCallCount = s.llmCallCount) ∨
    (s'.toolCallCount ≤ s.budget.maxToolCalls ∧ s'.llmCallCount ≤ s.budget.maxLlmCalls)
  inputs : s'.successfulActionInputs = s.successfulActionInputs
  streak : s'.noProgressStreak = s.noProgressStreak

omit [DecidableEq F] in
/-- A tool is called within both limits. -/
theorem callTool_cases (rt : Runtime F D) (s : Session F D) (a : AgentAction) (t : Turn F D) :
    (callTool rt s a t).1 = s ∨
      s.toolCallCount + 1 ≤ s.budget.maxToolCalls ∧
        s.llmCallCount + rt.llmCallCost a ≤ s.budget.maxLlmCalls ∧
        (callTool rt s a t).1 =
          { s with
            toolCallCount := s.toolCallCount + 1
            llmCallCount := s.llmCallCount + rt.llmCallCost a } := by
  unfold callTool
  split
  · exact Or.inl rfl
  · split
    · exact Or.inl rfl
    · unfold executeOnce
      split
      · exact Or.inl rfl
      · rename_i hover
        split
        · exact Or.inl rfl
        · simp only [overBudget, Bool.or_eq_true, decide_eq_true_eq, not_or, not_lt] at hover
          exact Or.inr ⟨hover.1.2, hover.2, rfl⟩

theorem execute_executed {a : AgentAction} {compressed : Bool} {t : Turn F D}
    {result : Except Stop Bool} (h : execute rt s a compressed t = (s', result)) :
    Executed rt s a compressed s' result := by
  have hstate := congrArg Prod.fst h
  have hresult := congrArg Prod.snd h
  dsimp only [execute] at hstate hresult
  subst hstate hresult
  obtain hcall | ⟨htool, hllm, hcall⟩ := callTool_cases rt (s.entered a compressed) a t
  · refine ⟨⟨(callTool rt (s.entered a compressed) a t).2, ?_⟩, ?_, ?_, ?_, ?_, ?_⟩
    all_goals rw [hcall]
    · rfl
    · rfl
    · rfl
    · exact Or.inl ⟨rfl, rfl⟩
    · rfl
    · rfl
  · refine ⟨⟨(callTool rt (s.entered a compressed) a t).2, ?_⟩, ?_, ?_, ?_, ?_, ?_⟩
    all_goals rw [hcall]
    · rfl
    · rfl
    · rfl
    · exact Or.inr ⟨htool, hllm⟩
    · rfl
    · rfl

/-- Everything that an attempt comes to. -/
inductive Attempts (rt : Runtime F D) (s : Session F D) (a : AgentAction) (compressed : Bool) :
    Attempted F D → Prop where
  | refused {f} : Attempts rt s a compressed (.refused f)
  | repeated {key} (hk : successKey rt s a = .ok key)
      (h : s.budget.maxRepeatedActionInputs ≤ s.successfulActionInputs key) :
      Attempts rt s a compressed (.stopped (s.withStatus .convergenceStopped) .convergence)
  | failed {u stop} (he : Executed rt s a compressed u (.error stop)) :
      Attempts rt s a compressed (.stopped u stop)
  | unsuccessful {u} (he : Executed rt s a compressed u (.ok false)) :
      Attempts rt s a compressed (.unsuccessful u)
  | stalled {key u} (hk : successKey rt s a = .ok key)
      (he : Executed rt s a compressed u (.ok true))
      (h : (recordConvergence rt s u key).noProgressStreak ≠ 0) :
      Attempts rt s a compressed
        (.stopped ((recordConvergence rt s u key).withStatus .convergenceStopped) .convergence)
  | successful {key u} (hk : successKey rt s a = .ok key)
      (he : Executed rt s a compressed u (.ok true)) :
      Attempts rt s a compressed (.successful (recordConvergence rt s u key))

theorem attempt_attempts (rt : Runtime F D) (s : Session F D) (a : AgentAction)
    (compressed : Bool) (t : Turn F D) :
    Attempts rt s a compressed (attempt rt s a compressed t) := by
  unfold attempt
  split
  · exact .refused
  · rename_i key hk
    split
    · rename_i h
      exact .repeated hk h
    · split
      · rename_i s' stop he
        exact .failed (execute_executed he)
      · rename_i s' he
        exact .unsuccessful (execute_executed he)
      · rename_i s' he
        dsimp only
        split
        · rename_i h
          exact .stalled hk (execute_executed he) h.1
        · exact .successful hk (execute_executed he)

/-- The action is chosen where the loop may go on. -/
structure Acts (rt : Runtime F D) (w : World F D) (a : AgentAction) (compressed : Bool) :
    Prop where
  running : w.live.agent.finished = false
  chosen : decideNextAction rt.kit w.live.agent = .ok a
  counted : compressed = false → w.live.currentStep < w.live.budget.maxSteps
  drained : compressed = true →
    ∃ n, w.phase = .draining n ∧ n < w.live.budget.maxLocalActionsPerStep

/-- Everything that an event can do. -/
inductive Moves (rt : Runtime F D) (w : World F D) : World F D → Prop where
  | dropped {ended} (h : ended ≠ .raised .convergence) : Moves rt w (w.drop w.live ended)
  | saved {phase ended c} (hp : phase = .idle ∨ phase = .looping)
      (h : ended ≠ some (.raised .convergence)) : Moves rt w (w.save w.live phase ended c)
  | marked {status phase ended c} (hp : phase = .idle ∨ phase = .looping)
      (h : ended ≠ some (.raised .convergence)) :
      Moves rt w (w.save (w.live.withStatus status) phase ended c)
  | stopped {a compressed u stop c} (ha : Acts rt w a compressed)
      (h : Attempts rt w.live a compressed (.stopped u stop)) : Moves rt w (w.leave u stop c)
  | unsuccessful {a compressed u c} (ha : Acts rt w a compressed)
      (h : Attempts rt w.live a compressed (.unsuccessful u)) : Moves rt w (w.goOn u c)
  | counted {a u} (ha : Acts rt w a false) (h : Attempts rt w.live a false (.successful u)) :
      Moves rt w { w with live := u, phase := .draining 0 }
  | compressed {a u n} (hn : w.phase = .draining n) (ha : Acts rt w a true)
      (h : Attempts rt w.live a true (.successful u)) :
      Moves rt w { w with live := u, phase := .draining (n + 1) }
  | reloaded {u} (h : w.saved = some u) :
      Moves rt w { w with live := u, phase := .idle, ended := none }

theorem loopRound_moves (w : World F D) (t : Turn F D) : Moves rt w (loopRound rt w t) := by
  unfold loopRound
  dsimp only
  split
  · exact .dropped (by rintro ⟨⟩)
  · rename_i hrunning
    split
    · exact .marked (Or.inl rfl) (by rintro ⟨⟩)
    · rename_i hsteps
      split
      · exact .marked (Or.inl rfl) (by rintro ⟨⟩)
      · split
        · exact .dropped (by rintro ⟨⟩)
        · rename_i a hchosen
          have ha : Acts rt w a false :=
            ⟨by simpa using hrunning, hchosen, fun _ => not_le.mp hsteps, (by rintro ⟨⟩)⟩
          have hattempt := attempt_attempts rt w.live a false t
          split
          · exact .dropped (by rintro ⟨⟩)
          · rename_i h
            exact .stopped ha (h ▸ hattempt)
          · rename_i h
            exact .unsuccessful ha (h ▸ hattempt)
          · rename_i h
            exact .counted ha (h ▸ hattempt)

theorem drainRound_moves {n : Nat} (hn : w.phase = .draining n) (t : Turn F D) :
    Moves rt w (drainRound rt w n t) := by
  unfold drainRound
  dsimp only
  split
  · exact .saved (Or.inr rfl) (by rintro ⟨⟩)
  · rename_i hgoes
    obtain ⟨hlimit, hrunning⟩ := not_or.mp hgoes
    split
    · exact .marked (Or.inl rfl) (by rintro ⟨⟩)
    · split
      · exact .saved (Or.inl rfl) (by rintro ⟨⟩)
      · rename_i a hchosen
        split
        · have ha : Acts rt w a true :=
            ⟨by simpa using hrunning, hchosen, (by rintro ⟨⟩), fun _ => ⟨n, hn, not_le.mp hlimit⟩⟩
          have hattempt := attempt_attempts rt w.live a true t
          split
          · exact .saved (Or.inl rfl) (by rintro ⟨⟩)
          · rename_i h
            exact .stopped ha (h ▸ hattempt)
          · rename_i h
            exact .unsuccessful ha (h ▸ hattempt)
          · rename_i h
            exact .compressed hn ha (h ▸ hattempt)
        · exact .saved (Or.inr rfl) (by rintro ⟨⟩)

theorem advance_moves {e : Event F D} (h : advance rt w e = some w') : Moves rt w w' := by
  cases e with
  | start c =>
    simp only [advance, Option.ite_none_right_eq_some, Option.some.injEq] at h
    obtain ⟨-, rfl⟩ := h
    unfold runState
    split
    · exact .dropped nofun
    · exact .marked (Or.inr rfl) nofun
  | round t =>
    simp only [advance, Option.ite_none_right_eq_some, Option.some.injEq] at h
    obtain ⟨-, rfl⟩ := h
    exact loopRound_moves w t
  | compressed t =>
    simp only [advance] at h
    split at h
    · rename_i n hn
      cases h
      exact drainRound_moves hn t
    · cases h
  | abort =>
    simp only [advance, Option.ite_none_left_eq_some, Option.some.injEq] at h
    obtain ⟨-, rfl⟩ := h
    exact .dropped nofun
  | reload =>
    simp only [advance, Option.map_eq_some_iff] at h
    obtain ⟨s, hs, rfl⟩ := h
    exact .reloaded hs

/-- The session in memory and its last checkpoint. -/
def World.Both (w : World F D) (I : Session F D → Prop) : Prop :=
  I w.live ∧ ∀ s, w.saved = some s → I s

omit [DecidableEq F] in
theorem both_save {I : Session F D → Prop} (hw : w.Both I)
    (hstatus : ∀ s status, I s → I (s.withStatus status)) (hs : I s) (phase : Phase)
    (ended : Option Ended) (c : Checkpoint) : (w.save s phase ended c).Both I := by
  cases c with
  | written =>
    refine ⟨hs, ?_⟩
    intro t ht
    cases ht
    exact hs
  | failed => exact ⟨hstatus s _ hs, hw.2⟩
  | abandoned => exact ⟨hs, hw.2⟩

end TravelAgent.AgentSession

import TravelAgent.CircuitBreaker
import TravelAgent.Texts

namespace TravelAgent.HalfOpenPermits

open TravelAgent.CircuitBreaker TravelAgent.Transition

/-- What code under a tool call raises. -/
inductive Exc
  | cancellationRequested
  | leaseLost
  | toolResult (errorType : ToolErrorType) (retryable : Bool)
  | validation
  | timeout
  | permission
  | other (message : String)
deriving DecidableEq, Repr

def Exc.controlSignal : Exc → Bool
  | .cancellationRequested => true
  | .leaseLost => true
  | _ => false

/-- `_classify_exception`, where the class of the exception says nothing. -/
def classifyMessage (message : String) : ToolErrorType × Bool :=
  let text := Texts.lower message.toList
  let mentions := fun markers : List String =>
    markers.any fun marker => Texts.contains text marker.toList
  if mentions ["401", "403", "unauthorized", "forbidden", "无权", "令牌无效"] then
    (.authorization, false)
  else if mentions ["429", "rate limit", "too many requests", "限流"] then (.rateLimit, true)
  else if mentions ["timeout", "timed out", "超时"] then (.timeout, true)
  else if mentions ["500", "502", "503", "504", "upstream", "上游"] then (.upstream, true)
  else if mentions ["400", "bad request", "unsupported", "不支持"] then (.invalidInput, false)
  else (.execution, true)

/-- `_failure` -/
def failure (errorType : ToolErrorType) (retryable : Bool) : ActionResult :=
  ⟨false, some errorType, retryable⟩

structure ToolDefinition (Payload Input Output : Type) where
  inputModel : Payload → Except Exc Input
  handler : Input → Except Exc Output
  resultValidator : Option (Output → Except Exc Output)
  outputModel : Option (Output → Except Exc Output)
  invalidOutputRetryable : Bool

variable {Payload Input Output : Type}

/-- One call of the registry: the tool's definition, if the name is registered, the payload
and what the two looks at the task's cancellation come to. -/
structure Attempt (Payload Input Output : Type) where
  definition : Option (ToolDefinition Payload Input Output)
  payload : Payload
  beforeInput : Except Exc Unit
  beforeHandler : Except Exc Unit

def ToolDefinition.validateResult (d : ToolDefinition Payload Input Output) (output : Output) :
    Except Exc Output := do
  let output ← match d.resultValidator with
    | none => pure output
    | some validate => validate output
  match d.outputModel with
  | none => pure output
  | some validate => validate output

/-- The `except` clauses around the handler. -/
def ToolDefinition.caught (d : ToolDefinition Payload Input Output) : Exc → Except Exc ActionResult
  | .cancellationRequested => .error .cancellationRequested
  | .leaseLost => .error .leaseLost
  | .toolResult errorType retryable => .ok (failure errorType retryable)
  | .validation => .ok (failure .invalidOutput d.invalidOutputRetryable)
  | .timeout => .ok (failure .timeout true)
  | .permission => .ok (failure .authorization false)
  | .other message => .ok (failure (classifyMessage message).1 (classifyMessage message).2)

/-- `ToolRegistry.execute` -/
def Attempt.execute (a : Attempt Payload Input Output) : Except Exc ActionResult :=
  match a.definition with
  | none => .ok (failure .toolNotFound false)
  | some d =>
    match a.beforeInput.bind fun _ => d.inputModel a.payload with
    | .error .validation => .ok (failure .invalidInput false)
    | .error exc => .error exc
    | .ok validatedInput =>
      match a.beforeHandler.bind fun _ =>
        (d.handler validatedInput).bind d.validateResult with
      | .error exc => d.caught exc
      | .ok _ => .ok ⟨true, none, false⟩

/-- Where looking at the task raises control signals only and the input model validation errors
only, the registry lets nothing through but control signals. -/
theorem execute_error {a : Attempt Payload Input Output} {exc : Exc} (h : a.execute = .error exc)
    (hcheck : ∀ e, a.beforeInput = .error e → e.controlSignal = true)
    (hinput : ∀ d payload e, a.definition = some d → d.inputModel payload = .error e →
      e = .validation) : exc.controlSignal = true := by
  simp only [Attempt.execute] at h
  split at h
  · cases h
  · rename_i d hd
    split at h
    · cases h
    · rename_i e hne hbind
      cases h
      cases hb : a.beforeInput with
      | error e =>
        rw [hb] at hbind
        cases hbind
        exact hcheck _ hb
      | ok u =>
        rw [hb] at hbind
        exact absurd (hinput d _ _ hd hbind) hne
    · split at h
      · rename_i e _
        cases e <;> simp only [ToolDefinition.caught, reduceCtorEq, Except.error.injEq] at h
        · subst h
          rfl
        · subst h
          rfl
      · cases h

/-- What `_pre_call_budget_reason` reads of the session and the tool. -/
structure Budget where
  runtimeReason : Option String
  toolCallCount : Nat
  maxToolCalls : Nat
  llmCallCount : Nat
  maxLlmCalls : Nat
  llmCallCost : Nat
deriving DecidableEq, Repr

def Budget.preCallReason (b : Budget) : Option String :=
  match b.runtimeReason with
  | some reason => some reason
  | none =>
    if b.maxToolCalls < b.toolCallCount + 1 then
      some ("智能体达到最大工具调用次数 " ++ toString b.maxToolCalls)
    else if b.maxLlmCalls < b.llmCallCount + b.llmCallCost then
      some ("智能体达到最大 LLM 调用次数 " ++ toString b.maxLlmCalls)
    else none

/-- The first two parts of `execute_once`: a call that goes on comes with its permit. -/
def enter (cfg : Settings) (b : Budget) (e : CircuitEntry) (now : Seconds) :
    Except ActionResult CircuitPermit × CircuitEntry :=
  if b.preCallReason.isSome then (.error (failure .budgetExceeded false), e)
  else
    let p := beforeCall cfg e now
    if p.1.allowed then (.ok p.1, p.2) else (.error (failure .circuitOpen false), p.2)

/-- The last part of `execute_once`, after the registry has returned or raised. -/
def leave (cfg : Settings) (outcome : Except Exc ActionResult) (e : CircuitEntry) (now : Seconds) :
    CircuitEntry :=
  match outcome with
  | .error _ => e
  | .ok r => recordResult cfg e r now

/-- Whose half-open permit is in flight. -/
inductive Holder
  | nobody
  | before
  | call (id : CallId)
deriving DecidableEq, Repr

/-- The breaker of one tool, the calls inside `execute_once`, those that have returned or
raised, and the holder of the half-open permit. -/
structure Activity where
  entry : CircuitEntry
  now : Seconds
  outstanding : List CallId
  finished : List CallId
  holder : Holder
deriving DecidableEq, Repr

instance (e : CircuitEntry) : Decidable (Probing e) :=
  inferInstanceAs (Decidable (e.state = .halfOpen ∧ e.halfOpenInFlight = true))

/-- Any entry, with no call under way here. -/
def Activity.start (e : CircuitEntry) (now : Seconds) : Activity :=
  ⟨e, now, [], [], if Probing e then .before else .nobody⟩

inductive Label (Payload Input Output : Type)
  | enter (id : CallId) (b : Budget) (now : Seconds)
  | leave (id : CallId) (a : Attempt Payload Input Output) (now : Seconds)

/-- Calls of any number of threads, each with a part before and a part after the registry. -/
def step (cfg : Settings) (x : Activity) : Label Payload Input Output → Option Activity
  | .enter id b now =>
    if x.now ≤ now ∧ id ∉ x.outstanding ∧ id ∉ x.finished then
      match enter cfg b x.entry now with
      | (.error _, e) => some { x with entry := e, now := now, finished := id :: x.finished }
      | (.ok p, e) =>
        some { x with
          entry := e
          now := now
          outstanding := id :: x.outstanding
          holder := if p.state = .halfOpen then .call id else x.holder }
    else none
  | .leave id a now =>
    if x.now ≤ now ∧ id ∈ x.outstanding then
      let e := leave cfg a.execute x.entry now
      some ⟨e, now, x.outstanding.filter fun i => decide (i ≠ id), id :: x.finished,
        if Probing e then x.holder else .nobody⟩
    else none

/-- No call that has returned or raised holds the permit, and with no call under way the
breaker waits for no probe of this run. -/
def Released (x : Activity) : Prop :=
  (∀ id ∈ x.finished, x.holder ≠ .call id) ∧
    (x.outstanding = [] → Probing x.entry → x.holder = .before)

/-- The registry raises for no call that holds the permit. -/
def ReportsBack (x : Activity) : Label Payload Input Output → Prop
  | .enter _ _ _ => True
  | .leave id a _ => ∀ exc, a.execute = .error exc → x.holder ≠ .call id

/-- The permit has a holder exactly while the breaker probes, and a call that holds it is
known. -/
structure Held (x : Activity) : Prop where
  probing : x.holder ≠ .nobody ↔ Probing x.entry
  known : ∀ id, x.holder = .call id → id ∈ x.outstanding ∨ id ∈ x.finished

theorem start_held (e : CircuitEntry) (now : Seconds) : Held (Activity.start e now) := by
  by_cases h : Probing e
  · refine ⟨?_, ?_⟩
    · simp [Activity.start, h]
    · intro id hid
      simp [Activity.start, h] at hid
  · refine ⟨?_, ?_⟩
    · simp [Activity.start, h]
    · intro id hid
      simp [Activity.start, h] at hid

theorem start_released (e : CircuitEntry) (now : Seconds) : Released (Activity.start e now) := by
  refine ⟨?_, ?_⟩
  · intro id hid
    cases hid
  · intro _ h
    exact if_pos h

/-- With the permit in known hands, the second half of `Released` follows from the first. -/
theorem released_of_finished {x : Activity} (h : Held x)
    (hfin : ∀ id ∈ x.finished, x.holder ≠ .call id) : Released x := by
  refine ⟨hfin, ?_⟩
  intro hout hprobing
  cases hh : x.holder with
  | nobody => exact absurd hh (h.probing.mpr hprobing)
  | before => rfl
  | call id =>
    have hknown := h.known id hh
    rw [hout] at hknown
    obtain hmem | hmem := hknown
    · cases hmem
    · exact absurd hh (hfin id hmem)

/-- No result leaves the breaker half open. -/
theorem recordResult_ends (cfg : Settings) (e : CircuitEntry) (r : ActionResult) (now : Seconds) :
    ¬Probing (recordResult cfg e r now) := by
  intro h
  by_cases hs : e.state = .halfOpen
  · exact recordResult_halfOpen cfg hs r now h.1
  · obtain heq | heq | heq := recordResult_state cfg hs r now
    · cases heq.symm.trans h.1
    · cases heq.symm.trans h.1
    · exact hs (heq.symm.trans h.1)

/-- A call is turned away, let through closed, or becomes the probe. -/
theorem enter_cases (cfg : Settings) (b : Budget) (e : CircuitEntry) (now : Seconds) :
    (∃ r, enter cfg b e now = (.error r, e)) ∨
    (∃ p, enter cfg b e now = (.ok p, e) ∧ p.state = .closed) ∨
    ∃ p e', enter cfg b e now = (.ok p, e') ∧ p.state = .halfOpen ∧ Probing e' := by
  by_cases hb : b.preCallReason.isSome = true
  · exact Or.inl ⟨failure .budgetExceeded false, by simp only [enter, if_pos hb]⟩
  · obtain ⟨_, ha, hp, he⟩ | ⟨ha, he⟩ | ⟨_, _, ha, hp, he, hi⟩ := beforeCall_cases cfg e now
    · refine Or.inr (Or.inl ⟨(beforeCall cfg e now).1, ?_, hp⟩)
      simp only [enter, if_neg hb, ha, if_true, he]
    · refine Or.inl ⟨failure .circuitOpen false, ?_⟩
      simp only [enter, if_neg hb, ha, Bool.false_eq_true, if_false, he]
    · refine Or.inr (Or.inr ⟨(beforeCall cfg e now).1, (beforeCall cfg e now).2, ?_, hp, he, hi⟩)
      simp only [enter, if_neg hb, ha, if_true]

theorem enter_step {cfg : Settings} {x y : Activity} (h : Held x) {id : CallId} {b : Budget}
    {now : Seconds} (hstep : step cfg x (.enter id b now : Label Payload Input Output) = some y) :
    Held y ∧ (Released x → Released y) := by
  simp only [step] at hstep
  split at hstep
  · rename_i hguard
    obtain ⟨_, hout, hfin⟩ := hguard
    have hnot : x.holder ≠ .call id := by
      intro heq
      obtain hmem | hmem := h.known id heq
      · exact hout hmem
      · exact hfin hmem
    obtain ⟨r, he⟩ | ⟨p, he, hp⟩ | ⟨p, e, he, hp, hprobing⟩ := enter_cases cfg b x.entry now
    · rw [he] at hstep
      cases hstep
      have hheld : Held { x with entry := x.entry, now := now, finished := id :: x.finished } := by
        refine ⟨h.probing, ?_⟩
        intro i hi
        exact (h.known i hi).imp_right (List.mem_cons_of_mem id)
      refine ⟨hheld, ?_⟩
      intro hrel
      apply released_of_finished hheld
      intro i hi
      obtain rfl | hi := List.mem_cons.mp hi
      · exact hnot
      · exact hrel.1 i hi
    · rw [he] at hstep
      simp only [hp, reduceCtorEq, if_false, Option.some.injEq] at hstep
      subst hstep
      refine ⟨⟨h.probing, ?_⟩, ?_⟩
      · intro i hi
        exact (h.known i hi).imp_left (List.mem_cons_of_mem id)
      · intro hrel
        refine ⟨hrel.1, ?_⟩
        intro hnil
        cases hnil
    · rw [he] at hstep
      simp only [hp, if_true, Option.some.injEq] at hstep
      subst hstep
      refine ⟨⟨⟨fun _ => hprobing, fun _ => Holder.noConfusion⟩, ?_⟩, ?_⟩
      · intro i hi
        cases hi
        exact Or.inl List.mem_cons_self
      · intro _
        refine ⟨?_, ?_⟩
        · intro i hi heq
          cases heq
          exact hfin hi
        · intro hnil
          cases hnil
  · cases hstep

theorem leave_step {cfg : Settings} {x y : Activity} (h : Held x) (hrel : Released x) {id : CallId}
    {a : Attempt Payload Input Output} {now : Seconds}
    (hstep : step cfg x (.leave id a now) = some y) :
    Held y ∧ (Released y ↔ ReportsBack x (.leave id a now)) := by
  simp only [step] at hstep
  split at hstep
  · cases hexec : a.execute with
    | ok r =>
      -- the result is recorded, and no probe survives that
      have hends := recordResult_ends cfg x.entry r now
      simp only [hexec, leave, if_neg hends, Option.some.injEq] at hstep
      subst hstep
      refine ⟨⟨?_, ?_⟩, ?_⟩
      · exact ⟨fun hne => absurd rfl hne, fun hprobing => absurd hprobing hends⟩
      · intro i hi
        cases hi
      · refine ⟨?_, fun _ => ⟨fun _ _ => Holder.noConfusion, fun _ hprobing => absurd hprobing hends⟩⟩
        intro _ exc hexc
        cases hexec.symm.trans hexc
    | error exc =>
      -- the entry stays as it is, and so does the holder
      have hholder : (if Probing x.entry then x.holder else .nobody) = x.holder := by
        by_cases hprobing : Probing x.entry
        · exact if_pos hprobing
        · rw [if_neg hprobing]
          by_contra hne
          exact hprobing (h.probing.mp fun heq => hne heq.symm)
      simp only [hexec, leave, hholder, Option.some.injEq] at hstep
      subst hstep
      have hheld : Held ⟨x.entry, now, x.outstanding.filter fun i => decide (i ≠ id),
          id :: x.finished, x.holder⟩ := by
        refine ⟨h.probing, ?_⟩
        intro i hi
        by_cases heq : i = id
        · subst heq
          exact Or.inr List.mem_cons_self
        · exact (h.known i hi).imp (fun hm => List.mem_filter.mpr ⟨hm, decide_eq_true heq⟩)
            (List.mem_cons_of_mem id)
      refine ⟨hheld, ?_, ?_⟩
      · intro hafter _ _
        exact hafter.1 id List.mem_cons_self
      · intro hok
        apply released_of_finished hheld
        intro i hi
        obtain rfl | hi := List.mem_cons.mp hi
        · exact hok exc hexec
        · exact hrel.1 i hi
  · cases hstep

theorem step_released {cfg : Settings} {x y : Activity} (h : Held x) (hrel : Released x)
    {label : Label Payload Input Output} (hstep : step cfg x label = some y) :
    Held y ∧ (Released y ↔ ReportsBack x label) := by
  cases label with
  | enter id b now =>
    obtain ⟨hheld, hkeep⟩ := enter_step h hstep
    exact ⟨hheld, fun _ => trivial, fun _ => hkeep hrel⟩
  | leave id a now => exact leave_step h hrel hstep

/-- From any entry, in every run of calls, no finished call holds the half-open permit exactly
when the registry never raises for the call that holds it. -/
theorem permit_released_iff (cfg : Settings) (e : CircuitEntry) (start : Seconds)
    {labels : List (Label Payload Input Output)} {y : Activity}
    (h : run (step cfg) (Activity.start e start) labels = some y) :
    Always (step cfg) Released (Activity.start e start) labels ↔
      Along (step cfg) ReportsBack (Activity.start e start) labels :=
  always_iff_along (fun _ _ _ hheld hrel _ hstep => (step_released hheld hrel hstep).1)
    (fun _ _ _ hheld hrel hstep => (step_released hheld hrel hstep).2)
    (start_held e start) (start_released e start) h

def attempt (handler : Except Exc Unit) : Attempt Unit Unit Unit :=
  ⟨some ⟨fun _ => .ok (), fun _ => handler, none, none, false⟩, (), .ok (), .ok ()⟩

def budget : Budget := ⟨none, 0, 60, 0, 12, 0⟩

/-- A timeout opens the breaker, and the probe that follows ends as the handler does. -/
def probeRun (handler : Except Exc Unit) : List (Label Unit Unit Unit) :=
  [.enter 1 budget 0, .leave 1 (attempt (.error .timeout)) 1, .enter 2 budget 11,
    .leave 2 (attempt handler) 12]

instance (x : Activity) (label : Label Payload Input Output) : Decidable (ReportsBack x label) :=
  match label with
  | .enter _ _ _ => isTrue trivial
  | .leave id a _ =>
    match h : a.execute with
    | .ok _ => isTrue fun _ he => by cases h.symm.trans he
    | .error exc =>
      decidable_of_iff (x.holder ≠ .call id) ⟨fun hne _ _ => hne, fun hok => hok exc h⟩

theorem answered_probe_released :
    Always (step settings) Released (Activity.start CircuitEntry.fresh 0)
      (probeRun (.error .permission)) :=
  (permit_released_iff settings CircuitEntry.fresh 0
    (y := ⟨CircuitEntry.fresh, 12, [], [2, 1], .nobody⟩) (by decide +kernel)).mpr
    (by decide +kernel)

theorem probing_denies (cfg : Settings) {e : CircuitEntry} (h : Probing e) (b : Budget)
    (now : Seconds) : ∃ r, enter cfg b e now = (.error r, e) := by
  have hbefore : beforeCall cfg e now = (⟨false, .halfOpen, cfg.recoveryTimeoutSeconds⟩, e) := by
    simp only [beforeCall, h.1, CircuitEntry.probe, h.2, if_true]
  by_cases hb : b.preCallReason.isSome = true
  · exact ⟨failure .budgetExceeded false, by simp only [enter, if_pos hb]⟩
  · exact ⟨failure .circuitOpen false, by simp [enter, hb, hbefore]⟩

/-- A probe that nobody answers for turns every later call away, at whatever time. -/
theorem stuck_forever {cfg : Settings} {x y : Activity} {labels : List (Label Payload Input Output)}
    (hout : x.outstanding = []) (hprobing : Probing x.entry) (h : run (step cfg) x labels = some y) :
    y.outstanding = [] ∧ y.entry = x.entry := by
  refine run_invariant (P := fun z => z.outstanding = [] ∧ z.entry = x.entry) ?_ ⟨hout, rfl⟩ h
  intro s label t hs hstep
  cases label with
  | enter id b now =>
    simp only [step] at hstep
    split at hstep
    · obtain ⟨r, he⟩ := probing_denies cfg (hs.2 ▸ hprobing) b now
      rw [he] at hstep
      cases hstep
      exact hs
    · cases hstep
  | leave id a now =>
    simp only [step, hs.1, List.not_mem_nil, and_false, if_false] at hstep
    cases hstep

/-- The task is cancelled during the probe: the permit stays in flight, and no later call
is let through. -/
theorem cancelled_probe_denies_forever :
    ∃ x, run (step settings) (Activity.start CircuitEntry.fresh 0)
        (probeRun (.error .cancellationRequested)) = some x ∧
      x.holder = .call 2 ∧ 2 ∈ x.finished ∧
      ¬Always (step settings) Released (Activity.start CircuitEntry.fresh 0)
        (probeRun (.error .cancellationRequested)) ∧
      ∀ (labels : List (Label Unit Unit Unit)) (y : Activity), run (step settings) x labels = some y →
        ∀ b now, ∃ r, enter settings b y.entry now = (.error r, y.entry) := by
  have hrun : run (step settings) (Activity.start CircuitEntry.fresh 0)
      (probeRun (.error .cancellationRequested)) =
      some ⟨⟨.halfOpen, 1, some 1, true⟩, 12, [], [2, 1], .call 2⟩ := by
    decide +kernel
  refine ⟨_, hrun, rfl, List.mem_cons_self, ?_, ?_⟩
  · intro h
    exact (always_last h hrun).1 2 List.mem_cons_self rfl
  · intro labels y hy b now
    have hsame := (stuck_forever rfl ⟨rfl, rfl⟩ hy).2
    apply probing_denies
    rw [hsame]
    exact ⟨rfl, rfl⟩

end TravelAgent.HalfOpenPermits

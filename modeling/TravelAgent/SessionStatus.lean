import TravelAgent.CheckpointFencing

namespace TravelAgent.SessionStatus

open TravelAgent.Leasing TravelAgent.TaskRecord TravelAgent.TaskStore
open TravelAgent.TaskOps TravelAgent.TaskMoves TravelAgent.TaskView
open TravelAgent.TaskLedger hiding step
open TravelAgent.TaskFencing TravelAgent.WorkerRun TravelAgent.WorkerTurns TravelAgent.Transition
open TravelAgent.CheckpointFencing
open TravelAgent.MysqlTaskStore (Codec)

variable {Req Body : Type}

def Agrees (state : AgentState Body) : Prop := state.finished = true ↔ state.status = .completed

/-- Every stored session is finished exactly when it is labelled completed, and
the session of a succeeded task is finished. -/
structure SessionsAgree (x : World Req Body) : Prop where
  stored : ∀ s state, x.sessions s = some state → Agrees state
  succeeded : ∀ id t, x.ledger.store.taskOf id = some t → t.status = .succeeded →
    ∃ state, x.sessions t.sessionId = some state ∧ state.finished = true

/-- The cancelling path does not read back a finished session. -/
def NoRelabel (x : World Req Body) : Label Req Body → Prop
  | .readBack w =>
    match x.pcs w with
    | .cancelling job => (x.sessions job.sessionId).any AgentState.finished = false
    | _ => True
  | _ => True

instance (x : World Req Body) : (label : Label Req Body) → Decidable (NoRelabel x label)
  | .readBack w => by
    simp only [NoRelabel]
    split <;> infer_instance
  | .outside _ | .claim .. | .beat .. | .check .. | .poll _ | .load .. | .go .. | .report ..
  | .save _ | .mark .. | .crash _ => instDecidableTrue

def Undisturbed (x : World Req Body) (label : Label Req Body) : Prop :=
  NoTakeover x label ∧ NoRelabel x label

instance (x : World Req Body) (label : Label Req Body) : Decidable (Undisturbed x label) :=
  inferInstanceAs (Decidable (_ ∧ _))

/-- A state that the loop is still working on. -/
def Unfinished (state : AgentState Body) : Prop :=
  state.finished = false ∧ state.status ≠ .completed

/-- A state at a save: the saves inside an action only hold unfinished states. -/
def Savable (state : AgentState Body) (after : After) : Prop :=
  Agrees state ∧ (after = .act ∨ after = .raiseInStep → Unfinished state)

def Next.Sane : Next Body → Prop
  | .load => True
  | .decide st | .start st => Unfinished st.state
  | .act st | .stepDone st _ => Agrees st.state
  | .save st after => Savable st.state after
  | .succeed st => st.state.finished = true

def Pc.Sane : Pc Body → Prop
  | .asserting _ k | .polling _ k => Next.Sane k
  | .looping _ st | .acting _ st | .leaseCheck _ st _ | .completing _ st _ => Agrees st.state
  | .deciding _ st | .starting _ st | .preparing _ st => Unfinished st.state
  | .saving _ st after => Savable st.state after
  | .marking _ st => st.state.finished = true
  | .relabeling _ state => Unfinished state
  | .idle | .loading _ | .aborting _ | .cancelling _ | .closing _ => True

def Next.settled : Next Body → Option Bool
  | .load => none
  | .decide _ | .start _ | .act _ | .save _ _ => some false
  | .stepDone st _ | .succeed st => some st.state.finished

/-- Whether the stored session is finished, as far as the worker's position tells. -/
def Pc.settled : Pc Body → Option Bool
  | .asserting _ k | .polling _ k => Next.settled k
  | .looping _ st | .completing _ st _ | .marking _ st => some st.state.finished
  | .deciding _ _ | .starting _ _ | .preparing _ _ | .acting _ _ | .leaseCheck _ _ _
  | .saving _ _ _ | .relabeling _ _ => some false
  | .idle | .loading _ | .aborting _ | .cancelling _ | .closing _ => none

structure Honest (x : World Req Body) (w : WorkerId) (pc : Pc Body) : Prop where
  sane : Pc.Sane pc
  running : ∀ job, pc.job = some job → lastClaim x.ledger.claims job.taskId = some w →
    ∃ t, x.ledger.store.taskOf job.taskId = some t ∧ t.status = .running ∧ t.workerId = some w
  settled : ∀ job b, pc.job = some job → lastClaim x.ledger.claims job.taskId = some w →
    Pc.settled pc = some b → (x.sessions job.sessionId).any AgentState.finished = b

structure Agreeing (x : World Req Body) : Prop where
  sound : Sound x
  agree : SessionsAgree x
  honest : ∀ w, Honest x w (x.pcs w)

theorem unfinished_agrees {state : AgentState Body} (h : Unfinished state) : Agrees state := by
  constructor
  · intro hf
    rw [h.1] at hf
    cases hf
  · intro hs
    exact absurd hs h.2

theorem agrees_unfinished {state : AgentState Body} (h : Agrees state)
    (hf : state.finished ≠ true) : Unfinished state :=
  ⟨Bool.eq_false_of_not_eq_true hf, fun hs => hf (h.mpr hs)⟩

theorem withStatus_unfinished {st : Local Body} {status : AgentStatus}
    (hf : st.state.finished = false) (hs : status ≠ .completed) :
    Unfinished (st.withStatus status).state :=
  ⟨hf, hs⟩

theorem withBody_unfinished {st : Local Body} (h : Unfinished st.state) (body : Body) :
    Unfinished (st.withBody body).state :=
  h

theorem savable_unfinished {state : AgentState Body} (h : Unfinished state) (after : After) :
    Savable state after :=
  ⟨unfinished_agrees h, fun _ => h⟩

theorem honest_idle (x : World Req Body) (w : WorkerId) : Honest x w .idle :=
  ⟨trivial, nofun, nofun⟩

theorem honest_update {x : World Req Body} {pcs : WorkerId → Pc Body} {w : WorkerId} {pc : Pc Body}
    (hw : Honest x w pc) (ho : ∀ v, v ≠ w → Honest x v (pcs v)) (v : WorkerId) :
    Honest x v (Function.update pcs w pc v) := by
  by_cases hv : v = w
  · subst hv
    rw [Function.update_self]
    exact hw
  · rw [Function.update_of_ne hv]
    exact ho v hv

theorem start_agreeing : Agreeing (World.start : World Req Body) := by
  refine ⟨start_sound, ⟨?_, ?_⟩, fun w => honest_idle _ w⟩
  · intro s state h
    cases h
  · intro id t h
    cases h

/-- The two facts that carry a worker's honesty from one position to the next. -/
structure Follows (pc pc' : Pc Body) : Prop where
  sane : Pc.Sane pc → Pc.Sane pc'
  job : pc'.job = pc.job
  settled : Pc.settled pc' = Pc.settled pc ∨ Pc.settled pc' = none

theorem honest_follow {x : World Req Body} {w : WorkerId} {pc pc' : Pc Body} (h : Honest x w pc)
    (hf : Follows pc pc') : Honest x w pc' := by
  refine ⟨hf.sane h.sane, ?_, ?_⟩
  · rw [hf.job]
    exact h.running
  · intro job b hj hl hb
    rw [hf.job] at hj
    obtain hsame | hnone := hf.settled
    · exact h.settled job b hj hl (hsame.symm.trans hb)
    · cases hnone.symm.trans hb

theorem follows_abort {pc : Pc Body} {job : Job} (hj : pc.job = some job) :
    Follows pc (.aborting job) :=
  ⟨fun _ => trivial, hj.symm, Or.inr rfl⟩

theorem choose_follows {pc pc' : Pc Body} {choice : Choice Body} (hs : Pc.Sane pc)
    (h : choose pc choice = some pc') : Follows pc pc' := by
  cases pc with
  | looping job st =>
    by_cases hf : st.state.finished = true
    · cases choice <;> simp only [choose, hf, ↓reduceIte, reduceCtorEq, Option.some.injEq] at h
      subst h
      exact ⟨fun _ => hf, rfl, Or.inl rfl⟩
    · have hu := agrees_unfinished hs hf
      have hset : (some false : Option Bool) = some st.state.finished := congrArg some hu.1.symm
      cases choice <;>
        simp only [choose, hf, Bool.false_eq_true, ↓reduceIte, reduceCtorEq, Option.some.injEq] at h
      · subst h
        exact ⟨fun _ => hu, rfl, Or.inl hset⟩
      · subst h
        exact ⟨fun _ => savable_unfinished (withStatus_unfinished hu.1 (by decide)) _, rfl, Or.inl hset⟩
  | deciding job st =>
    cases choice <;> simp only [choose, reduceCtorEq, Option.some.injEq] at h <;> subst h
    · exact ⟨id, rfl, Or.inl rfl⟩
    · exact ⟨fun _ => savable_unfinished (withStatus_unfinished hs.1 (by decide)) _, rfl, Or.inl rfl⟩
    · exact follows_abort rfl
  | preparing job st =>
    cases choice <;> simp only [choose, reduceCtorEq, Option.some.injEq] at h <;> subst h
    · exact ⟨unfinished_agrees, rfl, Or.inl rfl⟩
    · exact ⟨fun _ => savable_unfinished (withStatus_unfinished hs.1 (by decide)) _, rfl, Or.inl rfl⟩
  | acting job st =>
    by_cases hf : st.state.finished = true
    · cases choice <;> simp only [choose, hf, ↓reduceIte, reduceCtorEq, Option.some.injEq] at h
      all_goals
        subst h
        exact ⟨id, rfl, Or.inl rfl⟩
    · have hu := agrees_unfinished hs hf
      cases choice <;>
        simp only [choose, hf, Bool.false_eq_true, ↓reduceIte, reduceCtorEq, Option.some.injEq] at h
      all_goals
        subst h
        refine ⟨fun _ => ?_, rfl, Or.inl rfl⟩
      · exact hs
      · exact unfinished_agrees (withBody_unfinished hu _)
      · exact Iff.intro (fun _ => rfl) (fun _ => rfl)
      · exact hs
      · exact savable_unfinished (withBody_unfinished hu _) _
      · exact savable_unfinished (withStatus_unfinished hu.1 (by decide)) _
      · exact savable_unfinished (withStatus_unfinished hu.1 (by decide)) _
      · exact unfinished_agrees (withStatus_unfinished hu.1 (by decide))
      · exact hs
  | _ => simp only [choose, reduceCtorEq] at h

theorem enter_follows (job : Job) (k : Next Body) : Follows (.polling job k) (k.enter job) := by
  cases k with
  | load => exact ⟨id, rfl, Or.inl rfl⟩
  | decide st => exact ⟨id, rfl, Or.inl rfl⟩
  | start st => exact ⟨id, rfl, Or.inl rfl⟩
  | act st => exact ⟨id, rfl, Or.inl rfl⟩
  | save st after => exact ⟨id, rfl, Or.inl rfl⟩
  | stepDone st raised =>
    cases raised with
    | false => exact ⟨id, rfl, Or.inl rfl⟩
    | true => exact follows_abort rfl
  | succeed st => exact ⟨id, rfl, Or.inl rfl⟩

theorem inStep_sane {k : Next Body} {st : Local Body} (h : k.inStep = some st)
    (hs : Next.Sane k) : Agrees st.state := by
  cases k with
  | act q =>
    cases h
    exact hs
  | save q after => cases after <;> cases h <;> exact hs.1
  | _ => cases h

theorem inStep_settled {k : Next Body} {st : Local Body} (h : k.inStep = some st) :
    Next.settled k = some false := by
  cases k with
  | act q => rfl
  | save q after => rfl
  | _ => cases h

theorem escape_follows {pc out : Pc Body} {k : Next Body} {job : Job} (hj : pc.job = some job)
    (hs : Pc.Sane pc → Next.Sane k) (hb : Pc.settled pc = Next.settled k) (ho : Follows pc out) :
    Follows pc (k.escape job out) := by
  simp only [Next.escape]
  cases hk : k.inStep with
  | none => exact ho
  | some st =>
    exact ⟨fun h => inStep_sane hk (hs h), hj.symm,
      Or.inl ((inStep_settled hk).symm.trans hb.symm)⟩

theorem loaded_honest {x : World Req Body} {w : WorkerId} {job : Job}
    (hstored : ∀ s state, x.sessions s = some state → Agrees state)
    (h : Honest x w (.loading job)) (fresh : Body) :
    Honest x w (loaded job (x.sessions job.sessionId) fresh) := by
  cases hs : x.sessions job.sessionId with
  | none =>
    have hu : Unfinished (⟨.running, false, fresh⟩ : AgentState Body) := ⟨rfl, (by rintro ⟨⟩)⟩
    refine ⟨savable_unfinished hu _, h.running, ?_⟩
    rintro _ _ ⟨⟩ _ ⟨⟩
    rw [hs]
    rfl
  | some state =>
    have ha := hstored _ _ hs
    simp only [loaded]
    split
    · rename_i hf
      have hfin : state.finished = true := hf.elim id ha.mpr
      refine ⟨hfin, h.running, ?_⟩
      rintro _ _ ⟨⟩ _ ⟨⟩
      rw [hs]
      rfl
    · rename_i hf
      have hu := agrees_unfinished ha fun h => hf (Or.inl h)
      have hr : Unfinished { state with status := .running } := ⟨hu.1, (by rintro ⟨⟩)⟩
      refine ⟨savable_unfinished hr _, h.running, ?_⟩
      rintro _ _ ⟨⟩ _ ⟨⟩
      rw [hs]
      exact hu.1

theorem hop_honest {x : World Req Body} {w : WorkerId} {pc pc' : Pc Body}
    (hstored : ∀ s state, x.sessions s = some state → Agrees state) (h : Honest x w pc)
    (hop : Hop x pc pc') : Honest x w pc' := by
  cases hop with
  | stopped => exact honest_idle x w
  | entered job k => exact honest_follow h (enter_follows job k)
  | noticed job k =>
    exact honest_follow h (escape_follows rfl id rfl ⟨fun _ => trivial, rfl, Or.inr rfl⟩)
  | unread job k => exact honest_follow h (escape_follows rfl id rfl (follows_abort rfl))
  | lost job k => exact honest_follow h (escape_follows rfl id rfl (follows_abort rfl))
  | dropped job st raised => exact honest_follow h (follows_abort rfl)
  | loaded job fresh => exact loaded_honest hstored h fresh
  | chosen _ _ choice hc => exact honest_follow h (choose_follows h.sane hc)
  | started job st => exact honest_follow h ⟨id, rfl, Or.inl rfl⟩
  | unstarted job st => exact honest_follow h (follows_abort rfl)
  | completed job st raised => exact honest_follow h ⟨id, rfl, Or.inl rfl⟩
  | uncompleted job st raised => exact honest_follow h (follows_abort rfl)
  | unmarked job st => exact honest_follow h (follows_abort rfl)
  | absent job hnone => exact honest_follow h ⟨id, rfl, Or.inl rfl⟩

/-- A worker stays honest under steps of the others that leave its task running. -/
theorem honest_frame {x y : World Req Body} {w : WorkerId} {pc : Pc Body} (h : Honest x w pc)
    (hclaims : ∀ id, lastClaim y.ledger.claims id = some w → lastClaim x.ledger.claims id = some w)
    (hkept : ∀ id t, lastClaim y.ledger.claims id = some w → x.ledger.store.taskOf id = some t →
      t.status = .running → t.workerId = some w →
      ∃ t', y.ledger.store.taskOf id = some t' ∧ t'.status = .running ∧ t'.workerId = some w)
    (hs : ∀ job, pc.job = some job → lastClaim y.ledger.claims job.taskId = some w →
      y.sessions job.sessionId = x.sessions job.sessionId) : Honest y w pc := by
  refine ⟨h.sane, ?_, ?_⟩
  · intro job hj hl
    obtain ⟨t, ht, hr, hw⟩ := h.running job hj (hclaims _ hl)
    exact hkept _ t hl ht hr hw
  · intro job b hj hl hb
    rw [hs job hj hl]
    exact h.settled job b hj (hclaims _ hl) hb

theorem honest_drift {x y : World Req Body} {w : WorkerId} {pc : Pc Body} (h : Honest x w pc)
    (hd : Drift x.ledger y.ledger) (hs : y.sessions = x.sessions) : Honest y w pc := by
  refine honest_frame h ?_ ?_ ?_
  · intro id hl
    rwa [hd.claims] at hl
  · intro id t _ ht hr hw
    obtain ⟨t', ht', _, hk⟩ := hd.kept id t ht
    obtain ⟨hr', hw'⟩ := hk hr
    exact ⟨t', ht', hr', hw'.trans hw⟩
  · intro job _ _
    rw [hs]

theorem agree_drift {x y : World Req Body} (h : SessionsAgree x) (hd : Drift x.ledger y.ledger)
    (hs : y.sessions = x.sessions) : SessionsAgree y := by
  refine ⟨?_, ?_⟩
  · rw [hs]
    exact h.stored
  · intro id t ht hst
    rw [hs]
    exact h.succeeded id t (hd.ended id t ht hst) hst

end TravelAgent.SessionStatus

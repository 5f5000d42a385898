import TravelAgent.SessionStatus

namespace TravelAgent.SessionAgreement

open TravelAgent.Leasing TravelAgent.TaskRecord TravelAgent.TaskStore
open TravelAgent.TaskOps TravelAgent.TaskMoves TravelAgent.TaskView
open TravelAgent.TaskLedger hiding step
open TravelAgent.TaskFencing TravelAgent.WorkerRun TravelAgent.WorkerTurns TravelAgent.Transition
open TravelAgent.CheckpointFencing TravelAgent.SessionStatus
open TravelAgent.MysqlTaskStore (Codec)

variable {Req Body : Type}

/-- A mark changes nothing but the task of the worker that holds the claim. -/
theorem mark_task {c : Codec Req} {g g' : Ledger Req} {op : Op Req} {clock : Readings} {id : TaskId}
    {w : WorkerId} {e : Ending} (hg : Fenced g)
    (h : TaskLedger.step .mysql c g ⟨op, clock⟩ = some g') (he : op.ending = some (id, w, e))
    (i : TaskId) : g'.store.taskOf i = g.store.taskOf i ∨
      i = id ∧ lastClaim g.claims id = some w ∧ ∃ t t', g.store.taskOf id = some t ∧
        g'.store.taskOf id = some t' ∧ t'.sessionId = t.sessionId ∧ t'.status = e.status := by
  rcases step_task hg.wellFormed h i with hi | ⟨_, _, _, _, _, _, _, hop, _⟩ |
    ⟨t, t', event, ht, ht', hid, hmove⟩
  · exact Or.inl hi
  · rw [show op = _ from hop] at he
    cases he
  · have hsid := move_sessionId hmove
    cases hmove with
    | finish _ _ v e' call guard owner =>
      rw [show op.ending = _ from call] at he
      cases he
      subst hid
      have hl := hg.owner _ t w ht ((hasValidLease_iff t w _).mp owner).2.1
      exact Or.inr ⟨rfl, hl, t, _, ht, ht', hsid, rfl⟩
    | _ => cases he

theorem marked_agreeing {c : Codec Req} {x : World Req Body} (hx : Agreeing x) {w : WorkerId}
    {g : Ledger Req} {op : Op Req} {clock : Readings} {job : Job} {e : Ending}
    (call : TaskLedger.step .mysql c x.ledger ⟨op, clock⟩ = some g)
    (ending : op.ending = some (job.taskId, w, e)) (at_job : (x.pcs w).job = some job)
    (success : e.status = .succeeded → ∃ st, x.pcs w = .marking job st) :
    SessionsAgree { x with ledger := g, pcs := Function.update x.pcs w .idle } ∧
      ∀ v, Honest { x with ledger := g, pcs := Function.update x.pcs w .idle } v
        (Function.update x.pcs w .idle v) := by
  have hclaims := ending_claims call ending
  have htask := mark_task hx.sound.fenced call ending
  refine ⟨⟨hx.agree.stored, ?_⟩, honest_update (honest_idle _ w) ?_⟩
  · intro id t ht hst
    obtain hsame | ⟨rfl, hlast, q, q', hq, hq', hsid, hqe⟩ := htask id
    · exact hx.agree.succeeded id t (hsame.symm.trans ht) hst
    · cases hq'.symm.trans ht
      obtain ⟨st, hpc⟩ := success (hqe.symm.trans hst)
      have hh := hx.honest w
      rw [hpc] at hh
      have hfin := hh.settled job _ rfl hlast rfl
      rw [show st.state.finished = true from hh.sane, Option.any_eq_true] at hfin
      obtain ⟨state, hs, hf⟩ := hfin
      obtain ⟨r, hr, hrs⟩ := (hx.sound.good w).known job at_job
      cases hq.symm.trans hr
      refine ⟨state, ?_, hf⟩
      rw [hsid, hrs]
      exact hs
  · intro v hv
    refine honest_frame (hx.honest v) ?_ ?_ fun _ _ _ => rfl
    · intro id hl
      rwa [hclaims] at hl
    · intro id t hl ht hr hw
      obtain hsame | ⟨rfl, hlast, _⟩ := htask id
      · exact ⟨t, hsame.trans ht, hr, hw⟩
      · rw [hclaims, hlast] at hl
        exact absurd (Option.some.inj hl).symm hv

theorem claimed_agreeing {c : Codec Req} {x : World Req Body} (hx : Agreeing x) {w : WorkerId}
    {l : Time} {locked : List TaskId} {clock : Readings} {g : Ledger Req} {t : TripPlanningTask Req}
    (call : TaskLedger.step .mysql c x.ledger ⟨.claimNext w l locked, clock⟩ = some g)
    (answer : (exec .mysql c x.ledger.store (.claimNext w l locked) clock).1 =
      .ok (.claimed (some t))) {y : World Req Body}
    (hy : y = { x with
      ledger := g
      pcs := Function.update x.pcs w (.asserting ⟨t.taskId, t.sessionId⟩ .load) }) :
    SessionsAgree y ∧ ∀ v, Honest y v (y.pcs v) := by
  obtain ⟨ht, hclaims, hrun, hown, hothers⟩ := claim_answer hx.sound.fenced call answer
  subst hy
  refine ⟨⟨hx.agree.stored, ?_⟩, honest_update ⟨trivial, ?_, nofun⟩ ?_⟩
  · intro id q hq hst
    by_cases hid : id = t.taskId
    · subst hid
      cases ht.symm.trans hq
      cases hrun.symm.trans hst
    · exact hx.agree.succeeded id q ((hothers id hid).symm.trans hq) hst
  · rintro _ ⟨⟩ _
    exact ⟨t, ht, hrun, hown⟩
  · intro v hv
    refine honest_frame (hx.honest v) ?_ ?_ fun _ _ _ => rfl
    · intro id hl
      rw [hclaims] at hl
      refine lastClaim_of_append (m := [(t.taskId, w)]) hl ?_
      simp [hv]
    · intro id q hl hq hr hw
      have hid : id ≠ t.taskId := by
        rintro rfl
        rw [hclaims, lastClaim_cons_self] at hl
        exact hv (Option.some.inj hl).symm
      exact ⟨q, (hothers id hid).trans hq, hr, hw⟩

/-- The session that the last claimer of a task saves is not that of a succeeded
task, nor one that another worker still answers for. -/
theorem saved_agreeing {x y : World Req Body} (hx : Agreeing x) {w : WorkerId} {job : Job}
    {state : AgentState Body} {pc : Pc Body} (hjob : (x.pcs w).job = some job)
    (hlast : lastClaim x.ledger.claims job.taskId = some w) (hstate : Agrees state)
    (hledger : y.ledger = x.ledger) (hpcs : y.pcs = Function.update x.pcs w pc)
    (hsessions : y.sessions = Function.update x.sessions job.sessionId (some state))
    (hsane : Pc.Sane pc) (hpc : pc.job = some job ∨ pc.job = none)
    (hset : ∀ b, Pc.settled pc = some b → state.finished = b) :
    SessionsAgree y ∧ ∀ v, Honest y v (y.pcs v) := by
  obtain ⟨t, ht, hrun, hown⟩ := (hx.honest w).running job hjob hlast
  obtain ⟨t', ht', hsid⟩ := (hx.sound.good w).known job hjob
  cases ht.symm.trans ht'
  have hw := hx.sound.fenced.wellFormed
  refine ⟨⟨?_, ?_⟩, ?_⟩
  · intro s q hq
    rw [hsessions] at hq
    by_cases hs : s = job.sessionId
    · subst hs
      rw [Function.update_self] at hq
      cases hq
      exact hstate
    · rw [Function.update_of_ne hs] at hq
      exact hx.agree.stored s q hq
  · intro id q hq hst
    rw [hledger] at hq
    have hne : q.sessionId ≠ job.sessionId := by
      intro heq
      cases session_unique hw hq ht (heq.trans hsid.symm)
      cases ht.symm.trans hq
      cases hrun.symm.trans hst
    rw [hsessions, Function.update_of_ne hne]
    exact hx.agree.succeeded id q hq hst
  · rw [hpcs]
    refine honest_update ⟨hsane, ?_, ?_⟩ ?_
    · intro j hj _
      obtain h | h := hpc
      · cases h.symm.trans hj
        rw [hledger]
        exact ⟨t, ht, hrun, hown⟩
      · cases h.symm.trans hj
    · intro j b hj _ hb
      obtain h | h := hpc
      · cases h.symm.trans hj
        rw [hsessions, Function.update_self]
        exact hset b hb
      · cases h.symm.trans hj
    · intro v hv
      refine honest_frame (hx.honest v) ?_ ?_ ?_
      · intro id hl
        rwa [hledger] at hl
      · intro id q _ hq hr ho
        rw [hledger]
        exact ⟨q, hq, hr, ho⟩
      · intro j hj hl
        have hne : j.sessionId ≠ job.sessionId := by
          intro heq
          obtain ⟨q, hq, hqs⟩ := (hx.sound.good v).known j hj
          have hid := session_unique hw hq ht (by rw [hqs, hsid, heq])
          rw [hledger, hid, hlast] at hl
          exact hv (Option.some.inj hl).symm
        rw [hsessions, Function.update_of_ne hne]

/-- Where a worker that is about to save stands, as its save needs it. -/
structure Saving (x : World Req Body) (w : WorkerId) (job : Job) : Prop where
  job : (x.pcs w).job = some job
  window : Pc.window (x.pcs w) = true
  settled : Pc.settled (x.pcs w) = some false

theorem saving_unfinished {x : World Req Body} (hx : Agreeing x) {w : WorkerId} {job : Job}
    (h : Saving x w job) (hno : NoTakeover x (.save w)) :
    (x.sessions job.sessionId).any AgentState.finished = false :=
  (hx.honest w).settled job false h.job (save_claimer hx.sound h.job h.window hno) h.settled

theorem saveState_ledger [DecidableEq Body] (x : World Req Body) (w : WorkerId) (job : Job)
    (st : Local Body) (ok failed : Pc Body) :
    (x.saveState w job st ok failed).ledger = x.ledger := by
  simp only [World.saveState]
  split <;> rfl

/-- A finished session is not touched by the save. -/
def KeepsFinished (x y : World Req Body) : Prop :=
  ∀ s state, x.sessions s = some state → state.finished = true → y.sessions s = some state

theorem save_agreeing [DecidableEq Body] {x : World Req Body} (hx : Agreeing x) {w : WorkerId}
    {job : Job} {st : Local Body} {ok failed : Pc Body} (hs : Saving x w job)
    (hno : NoTakeover x (.save w)) (hper : Pc.persisted (x.pcs w) = some st.persisted)
    (hok : ok.job = some job ∨ ok.job = none)
    (hokper : Pc.persisted ok = some true ∨ Pc.persisted ok = none)
    (hokwin : Pc.window ok = false) (hstate : Agrees st.state) (hsane : Pc.Sane ok)
    (hset : ∀ b, Pc.settled ok = some b → st.state.finished = b) :
    Agreeing (x.saveState w job st ok failed) ∧
      KeepsFinished x (x.saveState w job st ok failed) := by
  obtain ⟨hsound, hpcs, hsessions⟩ := save_sound (f := failed) hx.sound hs.job hs.window hper
    hno hok hokper hokwin
  have hlast := save_claimer hx.sound hs.job hs.window hno
  obtain ⟨hagree, hhonest⟩ := saved_agreeing hx hs.job hlast hstate
    (saveState_ledger x w job st ok failed) hpcs hsessions hsane hok hset
  refine ⟨⟨hsound, hagree, hhonest⟩, ?_⟩
  intro s state hstored hfin
  have hne : s ≠ job.sessionId := by
    rintro rfl
    have h := saving_unfinished hx hs hno
    rw [hstored, Option.any_some, hfin] at h
    cases h
  rw [hsessions, Function.update_of_ne hne]
  exact hstored

theorem turn_agreeing [DecidableEq Body] {c : Codec Req} {x x' : World Req Body}
    {label : Label Req Body} (hx : Agreeing x) (hok : Undisturbed x label)
    (h : Turn c x label x') : Agreeing x' ∧ KeepsFinished x x' := by
  have hsound := turn_sound hx.sound hok.1 h
  cases h with
  | drifted _ g drift =>
    refine ⟨⟨hsound, agree_drift hx.agree drift rfl, ?_⟩, fun _ _ hs _ => hs⟩
    exact fun w => honest_drift (hx.honest w) drift rfl
  | hopped _ w g pc drift hop =>
    refine ⟨⟨hsound, agree_drift hx.agree drift rfl, ?_⟩, fun _ _ hs _ => hs⟩
    refine honest_update ?_ fun v _ => honest_drift (hx.honest v) drift rfl
    exact honest_drift (hop_honest hx.agree.stored (hx.honest w) hop) drift rfl
  | claimed _ w l locked clock g t idle call answer =>
    obtain ⟨hagree, hhonest⟩ := claimed_agreeing hx call answer rfl
    exact ⟨⟨hsound, hagree, hhonest⟩, fun _ _ hs _ => hs⟩
  | passed _ w g job pc now t drift ask owns =>
    refine ⟨⟨hsound, agree_drift hx.agree drift rfl, ?_⟩, fun _ _ hs _ => hs⟩
    refine honest_update ?_ fun v _ => honest_drift (hx.honest v) drift rfl
    have hh := hx.honest w
    have hf : Follows (x.pcs w) pc := by
      cases hpc : x.pcs w <;> rw [hpc] at ask <;> cases ask
      · exact ⟨id, rfl, Or.inl rfl⟩
      · exact ⟨fun hs => ⟨hs, by rintro (h | h) <;> cases h⟩, rfl, Or.inl rfl⟩
    exact honest_drift (honest_follow hh hf) drift rfl
  | marked _ w g op clock job e call ending at_job success =>
    obtain ⟨hagree, hhonest⟩ := marked_agreeing hx call ending at_job success
    exact ⟨⟨hsound, hagree, hhonest⟩, fun _ _ hs _ => hs⟩
  | readBack w job state at_job stored =>
    have hd := drift_refl hx.sound.fenced
    have hfin : state.finished = false := by
      have h := hok.2
      simpa only [NoRelabel, at_job, stored, Option.any_some] using h
    refine ⟨⟨hsound, ⟨hx.agree.stored, hx.agree.succeeded⟩, ?_⟩, fun _ _ hs _ => hs⟩
    have hh := hx.honest w
    rw [at_job] at hh
    refine honest_update ⟨⟨hfin, (by rintro ⟨⟩)⟩, hh.running, ?_⟩ fun v _ =>
      honest_drift (hx.honest v) hd rfl
    rintro _ _ ⟨⟩ _ ⟨⟩
    simp only [World.goto, stored, Option.any_some, hfin]
  | saved w job st after at_job =>
    have hh := (hx.honest w).sane
    rw [at_job] at hh
    refine save_agreeing hx ⟨?_, ?_, ?_⟩ hok.1 ?_ ?_ ?_ ?_ hh.1 ?_ ?_
    · rw [at_job]
      rfl
    · rw [at_job]
      rfl
    · rw [at_job]
      rfl
    · rw [at_job]
      rfl
    · cases after <;> simp [After.enter, Pc.job]
    · cases after <;> simp [After.enter, Pc.persisted]
    · cases after <;> rfl
    · cases after <;> first | exact hh.1 | trivial
    · cases after with
      | loop =>
        rintro _ ⟨⟩
        rfl
      | act =>
        rintro _ ⟨⟩
        exact (hh.2 (Or.inl rfl)).1
      | stepEnd raised =>
        rintro _ ⟨⟩
        rfl
      | raise => rintro _ ⟨⟩
      | raiseInStep =>
        rintro _ ⟨⟩
        exact (hh.2 (Or.inr rfl)).1
  | relabeled w job state at_job =>
    have hh := (hx.honest w).sane
    rw [at_job] at hh
    refine save_agreeing hx ⟨?_, ?_, ?_⟩ hok.1 ?_ (Or.inl rfl) (Or.inr rfl) rfl
      (unfinished_agrees hh) trivial (by rintro _ ⟨⟩)
    · rw [at_job]
      rfl
    · rw [at_job]
      rfl
    · rw [at_job]
      rfl
    · rw [at_job]
      rfl

theorem step_agreeing [DecidableEq Body] {c : Codec Req} {x x' : World Req Body}
    {label : Label Req Body} (hx : Agreeing x) (hok : Undisturbed x label)
    (h : step c x label = some x') : Agreeing x' ∧ KeepsFinished x x' :=
  turn_agreeing hx hok (step_turn hx.sound.fenced h)

theorem run_keepsFinished [DecidableEq Body] {c : Codec Req} {x y : World Req Body}
    {labels : List (Label Req Body)} (hx : Agreeing x) (hok : Along (step c) Undisturbed x labels)
    (h : run (step c) x labels = some y) : KeepsFinished x y := by
  induction labels generalizing x with
  | nil =>
    cases h
    exact fun _ _ hs _ => hs
  | cons label labels ih =>
    obtain ⟨u, hu, hr⟩ := run_cons h
    obtain ⟨hagree, hkeep⟩ := step_agreeing hx hok.1 hu
    intro s state hs hf
    exact ih hagree (hok.2 u hu) hr s state (hkeep s state hs hf) hf

/-- Where no cancellation reads back a finished session and no worker writes
after a takeover, stored sessions agree with their labels and their tasks in
every state, and a finished session stays as it was saved. -/
theorem sessions_agree_undisturbed [DecidableEq Body] (c : Codec Req)
    {labels : List (Label Req Body)} (hok : Along (step c) Undisturbed World.start labels) :
    Always (step c) SessionsAgree World.start labels ∧
      ∀ early late x y, labels = early ++ late → run (step c) World.start early = some x →
        run (step c) x late = some y → ∀ s state, x.sessions s = some state →
        state.finished = true → y.sessions s = some state := by
  have hstep : ∀ (x : World Req Body) label x', Agreeing x → Undisturbed x label →
      step c x label = some x' → Agreeing x' :=
    fun x label x' hx hok h => (step_agreeing hx hok h).1
  refine ⟨always_of_along hstep (fun _ hx => hx.agree) start_agreeing hok, ?_⟩
  intro early late x y hl hx hy
  subst hl
  obtain ⟨hearly, hlate⟩ := along_append hok hx
  exact run_keepsFinished (run_invariant_along hstep start_agreeing hearly hx) hlate hy

def reportAt (now : Time) : Label Unit Nat :=
  .report "A" ⟨.actionCompleted, "finish", "完成", 98, 1, 30, "已完成", none, []⟩ ⟨now, now, now⟩

def markAt (now : Time) : Label Unit Nat :=
  .mark "A" ⟨"", "", "", "", none, false, none, none, "s1", 1, 30, ""⟩ false "用户已取消旅行规划任务"
    ⟨now, now, now⟩

/-- Worker A runs task `t1` up to the save of the finished plan. -/
def finishingRun : List (Label Unit Nat) :=
  [created, claimAt "A" 1] ++ pass "A" 2 ++ [.load "A" 7] ++ pass "A" 3 ++
    [.save "A", .go "A" .proceed] ++ pass "A" 4 ++ [.go "A" .proceed] ++ pass "A" 5 ++
    [reportAt 6, .go "A" .proceed, .go "A" (.finish 9), .go "A" .proceed,
      .check "A" ⟨7, 7, 7⟩] ++ pass "A" 8 ++ [.save "A"]

/-- The rest of the run, up to `mark_succeeded`. -/
def succeedingRun : List (Label Unit Nat) :=
  finishingRun ++ [reportAt 9] ++ pass "A" 10 ++ [.go "A" .proceed] ++ pass "A" 11 ++ [markAt 12]

theorem succeeded_session_finished :
    ∃ x t state, run (step plainCodec) World.start succeedingRun = some x ∧
      x.ledger.store.taskOf "t1" = some t ∧ t.status = .succeeded ∧
      x.sessions t.sessionId = some state ∧ state.finished = true := by
  have h : (run (step plainCodec) World.start succeedingRun).any (fun x =>
      (x.ledger.store.taskOf "t1").any fun t => t.status == .succeeded) = true := by
    decide +kernel
  obtain ⟨x, hx, hp⟩ := (Option.any_eq_true _ _).mp h
  obtain ⟨t, ht, hst⟩ := (Option.any_eq_true _ _).mp hp
  have hok : Along (step plainCodec) Undisturbed World.start succeedingRun := by decide +kernel
  have hagree := always_last (sessions_agree_undisturbed plainCodec hok).1 hx
  obtain ⟨state, hs, hf⟩ := hagree.succeeded "t1" t ht (beq_iff_eq.mp hst)
  exact ⟨x, t, state, hx, ht, beq_iff_eq.mp hst, hs, hf⟩

/-- The user cancels after the finished plan was saved, and the next check of
the worker notices it. -/
def lateCancel : List (Label Unit Nat) :=
  finishingRun ++ [.outside ⟨.requestCancel "t1" none, ⟨9, 9, 9⟩⟩, reportAt 10] ++ pass "A" 11 ++
    [.readBack "A", .save "A", markAt 12]

theorem late_cancel_relabels :
    ∃ x, run (step plainCodec) World.start lateCancel = some x ∧
      x.sessions "s1" = some ⟨.cancelled, true, 9⟩ ∧ ¬ SessionsAgree x := by
  have h : (run (step plainCodec) World.start lateCancel).any (fun x =>
      x.sessions "s1" == some ⟨.cancelled, true, 9⟩) = true := by
    decide +kernel
  obtain ⟨x, hx, hp⟩ := (Option.any_eq_true _ _).mp h
  refine ⟨x, hx, beq_iff_eq.mp hp, ?_⟩
  intro hagree
  cases (hagree.stored "s1" _ (beq_iff_eq.mp hp)).mp rfl

end TravelAgent.SessionAgreement
